import GridPuzzle.Grid.Turn
import GridPuzzle.Proofs.Board
import Mathlib.GroupTheory.SpecificGroups.Dihedral

/-!
# The symmetries of a board

Turning and flipping a board gives a board again. Each of the operations is put together from three: the
rows in reverse order, the columns in reverse order, and rows as columns (`Board.turn`); what it does to a
cell is one formula, `Symmetry.place`, the location to which the cell moves. A turned board is given by this
formula (`Board.carries_turn`, `Board.exists_place_of_inside`), so that two symmetries after each other are
compared by where they move a location (`Symmetry.place_place`). The products are those of the dihedral group
of the square.
-/

namespace GridPuzzle

/-- The ways of flipping a board. -/
inductive Flip where
  /-- The rows in reverse order. -/
  | rows
  /-- The columns in reverse order. -/
  | columns
  /-- Rows as columns. -/
  | diagonal
  /-- Rows as columns, along the other diagonal. -/
  | antidiagonal
  deriving DecidableEq, Repr

/-- The ways of turning and flipping a board, and of leaving it as it is. -/
inductive Symmetry where
  | identity
  | rotateRight
  | rotateHalf
  | rotateLeft
  | flip (f : Flip)
  deriving DecidableEq, Repr

instance : Fintype Symmetry where
  elems := {.identity, .rotateRight, .rotateHalf, .rotateLeft, .flip .rows, .flip .columns,
    .flip .diagonal, .flip .antidiagonal}
  complete s := by
    cases s with
    | flip f => cases f <;> decide
    | _ => decide

/-- The operation on grids and patches. -/
def Flip.apply : Flip → Value → Outcome Value
  | .rows => Grid.flipRows
  | .columns => Grid.flipColumns
  | .diagonal => Grid.transpose
  | .antidiagonal => Grid.antiTranspose

namespace Symmetry

/-- The operation on grids. -/
def apply : Symmetry → Value → Outcome Value
  | .identity => .ok
  | .rotateRight => Grid.rotateRight
  | .rotateHalf => Grid.rotateHalf
  | .rotateLeft => Grid.rotateLeft
  | .flip f => f.apply

/-- Whether rows become columns. -/
def swaps : Symmetry → Bool
  | .rotateRight | .rotateLeft | .flip .diagonal | .flip .antidiagonal => true
  | _ => false

/-- The location to which the cell at a location of a board of the given dimensions moves. -/
def place (height width : Nat) : Symmetry → Location → Location
  | .identity, l => l
  | .rotateRight, l => (l.2, height - 1 - l.1)
  | .rotateHalf, l => (height - 1 - l.1, width - 1 - l.2)
  | .rotateLeft, l => (width - 1 - l.2, l.1)
  | .flip .rows, l => (height - 1 - l.1, l.2)
  | .flip .columns, l => (l.1, width - 1 - l.2)
  | .flip .diagonal, l => (l.2, l.1)
  | .flip .antidiagonal, l => (width - 1 - l.2, height - 1 - l.1)

/-! ## Symmetries after each other -/

/-- The symmetry, followed by a quarter turn clockwise. -/
def thenRotateRight : Symmetry → Symmetry
  | .identity => .rotateRight
  | .rotateRight => .rotateHalf
  | .rotateHalf => .rotateLeft
  | .rotateLeft => .identity
  | .flip .diagonal => .flip .columns
  | .flip .columns => .flip .antidiagonal
  | .flip .antidiagonal => .flip .rows
  | .flip .rows => .flip .diagonal

/-- The symmetry, followed by the flip along the diagonal. -/
def thenTranspose : Symmetry → Symmetry
  | .identity => .flip .diagonal
  | .flip .diagonal => .identity
  | .rotateRight => .flip .rows
  | .flip .rows => .rotateRight
  | .rotateHalf => .flip .antidiagonal
  | .flip .antidiagonal => .rotateHalf
  | .rotateLeft => .flip .columns
  | .flip .columns => .rotateLeft

/-- The product `s * t` is `t`, followed by `s`. Each `s` is a number of quarter turns, followed by the flip
along the diagonal if it is a flip. -/
instance : Mul Symmetry where
  mul
    | .identity, t => t
    | .rotateRight, t => t.thenRotateRight
    | .rotateHalf, t => t.thenRotateRight.thenRotateRight
    | .rotateLeft, t => t.thenRotateRight.thenRotateRight.thenRotateRight
    | .flip .diagonal, t => t.thenTranspose
    | .flip .rows, t => t.thenRotateRight.thenTranspose
    | .flip .antidiagonal, t => t.thenRotateRight.thenRotateRight.thenTranspose
    | .flip .columns, t => t.thenRotateRight.thenRotateRight.thenRotateRight.thenTranspose

/-- The symmetry as an element of the dihedral group. -/
def toDihedral : Symmetry → DihedralGroup 4
  | .identity => .r 0
  | .rotateRight => .r 1
  | .rotateHalf => .r 2
  | .rotateLeft => .r 3
  | .flip .diagonal => .sr 0
  | .flip .rows => .sr 1
  | .flip .antidiagonal => .sr 2
  | .flip .columns => .sr 3

theorem toDihedral_bijective : Function.Bijective toDihedral := by
  decide

theorem toDihedral_mul (s t : Symmetry) : (s * t).toDihedral = s.toDihedral * t.toDihedral := by
  revert s t
  decide

theorem swaps_mul (s t : Symmetry) : (s * t).swaps = (s.swaps != t.swaps) := by
  revert s t
  decide

/-- The number of rows of a board of the given dimensions after the symmetry. -/
def newHeight (s : Symmetry) (height width : Nat) : Nat :=
  if s.swaps then width else height

/-- The number of columns of a board of the given dimensions after the symmetry. -/
def newWidth (s : Symmetry) (height width : Nat) : Nat :=
  if s.swaps then height else width

theorem newHeight_mul (s t : Symmetry) (height width : Nat) :
    (s * t).newHeight height width =
      s.newHeight (t.newHeight height width) (t.newWidth height width) := by
  rw [newHeight, swaps_mul]
  cases hs : s.swaps <;> cases ht : t.swaps <;> simp [newHeight, newWidth, hs, ht]

theorem newWidth_mul (s t : Symmetry) (height width : Nat) :
    (s * t).newWidth height width =
      s.newWidth (t.newHeight height width) (t.newWidth height width) := by
  rw [newWidth, swaps_mul]
  cases hs : s.swaps <;> cases ht : t.swaps <;> simp [newHeight, newWidth, hs, ht]

theorem thenRotateRight_mul (s t : Symmetry) : s.thenRotateRight * t = (s * t).thenRotateRight := by
  revert s t
  decide

theorem thenTranspose_mul (s t : Symmetry) : s.thenTranspose * t = (s * t).thenTranspose := by
  revert s t
  decide

section

variable (height width : Nat) (t : Symmetry) (l : Location)

theorem place_thenRotateRight :
    place (t.newHeight height width) (t.newWidth height width) .rotateRight (place height width t l) =
      place height width t.thenRotateRight l := by
  cases t with
  | identity => rfl
  | rotateRight => rfl
  | rotateHalf => ext <;> simp [place, newHeight, swaps, thenRotateRight]
  | rotateLeft => ext <;> simp [place, newHeight, swaps, thenRotateRight]
  | flip f => cases f <;> ext <;> simp [place, newHeight, swaps, thenRotateRight]

theorem place_thenTranspose :
    place (t.newHeight height width) (t.newWidth height width) (.flip .diagonal)
      (place height width t l) = place height width t.thenTranspose l := by
  cases t with
  | flip f => cases f <;> rfl
  | _ => rfl

end

/-- The symmetry after any other moves a location to where their product moves it. -/
def Composes (s : Symmetry) : Prop :=
  ∀ (height width : Nat) (t : Symmetry) (l : Location),
    place (t.newHeight height width) (t.newWidth height width) s (place height width t l) =
      place height width (s * t) l

theorem Composes.thenRotateRight {s : Symmetry} (h : s.Composes) : s.thenRotateRight.Composes := by
  intro height width t l
  rw [← place_thenRotateRight, h, ← newHeight_mul, ← newWidth_mul, place_thenRotateRight,
    thenRotateRight_mul]

theorem Composes.thenTranspose {s : Symmetry} (h : s.Composes) : s.thenTranspose.Composes := by
  intro height width t l
  rw [← place_thenTranspose, h, ← newHeight_mul, ← newWidth_mul, place_thenTranspose,
    thenTranspose_mul]

/-- Two symmetries after each other move a location to where their product moves it. -/
theorem place_place (s : Symmetry) : s.Composes := by
  have identity : Composes .identity := fun _ _ _ _ => rfl
  have right : Composes .rotateRight := identity.thenRotateRight
  have half : Composes .rotateHalf := right.thenRotateRight
  have left : Composes .rotateLeft := half.thenRotateRight
  cases s with
  | identity => exact identity
  | rotateRight => exact right
  | rotateHalf => exact half
  | rotateLeft => exact left
  | flip f =>
      cases f with
      | rows => exact right.thenTranspose
      | columns => exact left.thenTranspose
      | diagonal => exact identity.thenTranspose
      | antidiagonal => exact half.thenTranspose

/-- The symmetry that takes back another one. -/
instance : Inv Symmetry where
  inv
    | .rotateRight => .rotateLeft
    | .rotateLeft => .rotateRight
    | s => s

theorem mul_inv_eq_identity (s : Symmetry) : s * s⁻¹ = .identity := by
  revert s
  decide

theorem swaps_inv (s : Symmetry) : s⁻¹.swaps = s.swaps := by
  revert s
  decide

/-- A location inside the dimensions moves to one inside the new dimensions. -/
theorem isInside_place {height width : Nat} {s : Symmetry} {l : Location}
    (h : l.isInside height width = true) :
    (place height width s l).isInside (s.newHeight height width) (s.newWidth height width) = true := by
  simp only [Location.isInside, Bool.and_eq_true, decide_eq_true_eq] at h ⊢
  cases s with
  | flip f =>
      cases f <;> simp only [place, newHeight, newWidth, swaps, if_true, Bool.false_eq_true, if_false] <;>
        omega
  | _ =>
      simp only [place, newHeight, newWidth, swaps, if_true, Bool.false_eq_true, if_false]
      omega

/-- A location inside the new dimensions is one to which a location moves. -/
theorem exists_place_eq {height width : Nat} {s : Symmetry} {l : Location}
    (h : l.isInside (s.newHeight height width) (s.newWidth height width) = true) :
    ∃ k : Location, k.isInside height width = true ∧ place height width s k = l := by
  have height_eq : s⁻¹.newHeight (s.newHeight height width) (s.newWidth height width) = height := by
    cases hs : s.swaps <;> simp [newHeight, newWidth, swaps_inv, hs]
  have width_eq : s⁻¹.newWidth (s.newHeight height width) (s.newWidth height width) = width := by
    cases hs : s.swaps <;> simp [newHeight, newWidth, swaps_inv, hs]
  have inside := isInside_place (s := s⁻¹) h
  have back := s.place_place (s.newHeight height width) (s.newWidth height width) s⁻¹ l
  rw [height_eq, width_eq] at inside back
  exact ⟨_, inside, by rw [back, mul_inv_eq_identity]; rfl⟩

end Symmetry

/-! ## Tables -/

namespace Table

variable {α : Type} {rows : List (List α)} {width : Nat}

theorem mem_indexed {xs : List α} {i : Nat} {x : α} : (i, x) ∈ indexed xs ↔ xs[i]? = some x := by
  simp [indexed, List.mem_zipIdx_iff_getElem?]

theorem length_columns (some : rows ≠ []) (h : ∀ row ∈ rows, row.length = width) :
    (columns rows).length = width := by
  fun_induction columns rows with
  | case1 => exact absurd rfl some
  | case2 row => simpa using h
  | case3 row rest ne ih =>
      have hrest := ih ne fun other hother => h other (List.mem_cons_of_mem row hother)
      rw [List.length_zipWith, hrest, h row List.mem_cons_self, Nat.min_self]

theorem length_of_mem_columns {column : List α} (h : column ∈ columns rows) :
    column.length = rows.length := by
  fun_induction columns rows generalizing column with
  | case1 => cases h
  | case2 row =>
      obtain ⟨x, -, rfl⟩ := List.mem_map.mp h
      rfl
  | case3 row rest ne ih =>
      rw [← List.map_uncurry_zip_eq_zipWith] at h
      obtain ⟨⟨x, other⟩, hmem, rfl⟩ := List.mem_map.mp h
      exact congrArg (· + 1) (ih (List.of_mem_zip hmem).2)

/-- The columns of a table of equal rows, place by place. -/
theorem getElem?_columns (h : ∀ row ∈ rows, row.length = width) (i : Nat) {j : Nat} (hj : j < width) :
    (columns rows)[j]?.bind (·[i]?) = rows[i]?.bind (·[j]?) := by
  fun_induction columns rows generalizing i with
  | case1 => simp
  | case2 row => cases i <;> cases hx : row[j]? <;> simp [hx]
  | case3 row rest ne ih =>
      have equal : ∀ other ∈ rest, other.length = width := fun other hother =>
        h other (List.mem_cons_of_mem row hother)
      have hrow : j < row.length := by rwa [h row List.mem_cons_self]
      have hrest : j < (columns rest).length := by rwa [length_columns ne equal]
      cases i with
      | zero => simp [hrow, hrest]
      | succ i => simpa [List.getElem?_zipWith, hrow, hrest] using ih equal i

end Table

/-! ## Turned boards -/

namespace Board

variable {α β : Type}

/-- The rows in reverse order. -/
def flipRows (b : Board α) : Board α where
  rows := b.rows.reverse
  width := b.width
  rows_ne_nil := by simpa using b.rows_ne_nil
  width_pos := b.width_pos
  length_row row hrow := b.length_row row (List.mem_reverse.mp hrow)

/-- The columns in reverse order. -/
def flipColumns (b : Board α) : Board α where
  rows := b.rows.map List.reverse
  width := b.width
  rows_ne_nil := by simpa using b.rows_ne_nil
  width_pos := b.width_pos
  length_row row hrow := by
    obtain ⟨old, hold, rfl⟩ := List.mem_map.mp hrow
    rw [List.length_reverse, b.length_row old hold]

/-- Rows as columns. -/
def transpose (b : Board α) : Board α where
  rows := Table.columns b.rows
  width := b.height
  rows_ne_nil := by
    rw [← List.length_pos_iff, Table.length_columns b.rows_ne_nil b.length_row]
    exact b.width_pos
  width_pos := b.height_pos
  length_row _ hrow := Table.length_of_mem_columns hrow

@[simp] theorem height_flipRows (b : Board α) : b.flipRows.height = b.height := by
  simp [height, flipRows]

@[simp] theorem width_flipRows (b : Board α) : b.flipRows.width = b.width :=
  rfl

@[simp] theorem height_flipColumns (b : Board α) : b.flipColumns.height = b.height := by
  simp [height, flipColumns]

@[simp] theorem width_flipColumns (b : Board α) : b.flipColumns.width = b.width :=
  rfl

@[simp] theorem height_transpose (b : Board α) : b.transpose.height = b.width :=
  Table.length_columns b.rows_ne_nil b.length_row

@[simp] theorem width_transpose (b : Board α) : b.transpose.width = b.height :=
  rfl

/-- The board after a symmetry. -/
def turn (b : Board α) : Symmetry → Board α
  | .identity => b
  | .rotateRight => b.flipRows.transpose
  | .rotateHalf => b.flipRows.flipColumns
  | .rotateLeft => b.flipRows.transpose.flipColumns.flipRows
  | .flip .rows => b.flipRows
  | .flip .columns => b.flipColumns
  | .flip .diagonal => b.transpose
  | .flip .antidiagonal => b.flipRows.flipColumns.transpose

@[simp] theorem height_turn (b : Board α) (s : Symmetry) :
    (b.turn s).height = s.newHeight b.height b.width := by
  cases s with
  | flip f => cases f <;> simp [turn, Symmetry.newHeight, Symmetry.swaps]
  | _ => simp [turn, Symmetry.newHeight, Symmetry.swaps]

@[simp] theorem width_turn (b : Board α) (s : Symmetry) :
    (b.turn s).width = s.newWidth b.height b.width := by
  cases s with
  | flip f => cases f <;> simp [turn, Symmetry.newWidth, Symmetry.swaps]
  | _ => simp [turn, Symmetry.newWidth, Symmetry.swaps]

theorem height_turn_of_square {b : Board α} (square : b.height = b.width) (s : Symmetry) :
    (b.turn s).height = b.height := by
  rw [height_turn, Symmetry.newHeight, ← square, ite_self]

theorem width_turn_of_square {b : Board α} (square : b.height = b.width) (s : Symmetry) :
    (b.turn s).width = b.width := by
  rw [width_turn, Symmetry.newWidth, square, ite_self]

/-- Every location of a turned board is one to which a cell moves. -/
theorem exists_place_of_inside {b : Board α} {s : Symmetry} {l : Location} (h : (b.turn s).Inside l) :
    ∃ k, b.Inside k ∧ s.place b.height b.width k = l := by
  rw [← isInside_iff, height_turn, width_turn] at h
  obtain ⟨k, hk, rfl⟩ := Symmetry.exists_place_eq h
  exact ⟨k, isInside_iff.mp hk, rfl⟩

section

variable [Inhabited α]

/-- Each cell of a board is found on another board, at the location that a function gives. -/
structure Carries (f : Location → Location) (b b' : Board α) : Prop where
  inside : ∀ {l}, b.Inside l → b'.Inside (f l)
  cell : ∀ {l}, b.Inside l → b'.cell (f l) = b.cell l

variable {f f' : Location → Location} {b b' b'' : Board α} {l : Location} {s t : Symmetry}

theorem Carries.trans (h : b.Carries f b') (h' : b'.Carries f' b'') : b.Carries (f' ∘ f) b'' where
  inside hl := h'.inside (h.inside hl)
  cell hl := (h'.cell (h.inside hl)).trans (h.cell hl)

theorem carries_flipRows (b : Board α) : b.Carries (fun l => (b.height - 1 - l.1, l.2)) b.flipRows where
  inside hl := by
    simp only [Inside, height_flipRows, width_flipRows] at hl ⊢
    omega
  cell hl := by
    obtain ⟨i, j, hi, -, rfl⟩ := hl.exists_natCast
    change i < b.rows.length at hi
    have place : ((b.height : Int) - 1 - i).toNat = b.rows.length - 1 - i := by
      rw [height]
      omega
    have back : b.rows.length - 1 - (b.rows.length - 1 - i) = i := by omega
    have bound : b.rows.length - 1 - i < b.rows.length := by omega
    simp only [cell, cell?, flipRows, place, List.getElem?_reverse bound, back, Int.toNat_natCast]

theorem carries_flipColumns (b : Board α) :
    b.Carries (fun l => (l.1, b.width - 1 - l.2)) b.flipColumns where
  inside hl := by
    simp only [Inside, height_flipColumns, width_flipColumns] at hl ⊢
    omega
  cell hl := by
    obtain ⟨i, j, hi, hj, rfl⟩ := hl.exists_natCast
    change i < b.rows.length at hi
    have length : b.rows[i].length = b.width := b.length_row _ (List.getElem_mem hi)
    have place : ((b.width : Int) - 1 - j).toNat = b.rows[i].length - 1 - j := by omega
    have back : b.rows[i].length - 1 - (b.rows[i].length - 1 - j) = j := by omega
    have bound : b.rows[i].length - 1 - j < b.rows[i].length := by omega
    simp only [cell, cell?, flipColumns, place, List.getElem?_map, List.getElem?_eq_getElem hi,
      Option.map_some, Option.bind_some, List.getElem?_reverse bound, back, Int.toNat_natCast]

theorem carries_transpose (b : Board α) : b.Carries (fun l => (l.2, l.1)) b.transpose where
  inside hl := by
    simp only [Inside, height_transpose, width_transpose] at hl ⊢
    omega
  cell hl := by
    obtain ⟨i, j, -, hj, rfl⟩ := hl.exists_natCast
    simp only [cell, cell?, transpose, Int.toNat_natCast, Table.getElem?_columns b.length_row i hj]

/-- A symmetry carries each cell to the place that it gives. -/
theorem carries_turn (b : Board α) (s : Symmetry) :
    b.Carries (s.place b.height b.width) (b.turn s) := by
  cases s with
  | identity => exact ⟨fun hl => hl, fun _ => rfl⟩
  | rotateRight => exact b.carries_flipRows.trans b.flipRows.carries_transpose
  | rotateHalf => exact b.carries_flipRows.trans b.flipRows.carries_flipColumns
  | rotateLeft =>
      have steps := ((b.carries_flipRows.trans b.flipRows.carries_transpose).trans
        b.flipRows.transpose.carries_flipColumns).trans
        b.flipRows.transpose.flipColumns.carries_flipRows
      -- The two reversals around the exchange leave the row number as it was.
      refine ⟨fun {l} hl => ?_, fun {l} hl => ?_⟩
      · simpa [Symmetry.place, turn] using steps.inside hl
      · simpa [Symmetry.place, turn] using steps.cell hl
  | flip f =>
      cases f with
      | rows => exact b.carries_flipRows
      | columns => exact b.carries_flipColumns
      | diagonal => exact b.carries_transpose
      | antidiagonal =>
          exact (b.carries_flipRows.trans b.flipRows.carries_flipColumns).trans
            b.flipRows.flipColumns.carries_transpose

/-- A board of the new dimensions to which all cells are carried is the turned board. -/
theorem eq_turn (height_eq : b'.height = s.newHeight b.height b.width)
    (width_eq : b'.width = s.newWidth b.height b.width)
    (h : ∀ k, b.Inside k → b'.cell (s.place b.height b.width k) = b.cell k) : b' = b.turn s := by
  rw [← height_turn] at height_eq
  rw [← width_turn] at width_eq
  refine ext_cell height_eq width_eq fun l hl => ?_
  have hl' : (b.turn s).Inside l := by rwa [Inside, ← height_eq, ← width_eq]
  obtain ⟨k, hk, rfl⟩ := exists_place_of_inside hl'
  rw [h k hk, (b.carries_turn s).cell hk]

theorem turn_turn (b : Board α) (s t : Symmetry) : (b.turn t).turn s = b.turn (s * t) := by
  refine eq_turn ?_ ?_ fun k hk => ?_
  · rw [height_turn, height_turn, width_turn, Symmetry.newHeight_mul]
  · rw [width_turn, height_turn, width_turn, Symmetry.newWidth_mul]
  · have hk' := (b.carries_turn t).inside hk
    rw [← s.place_place, ← height_turn, ← width_turn, ((b.turn t).carries_turn s).cell hk',
      (b.carries_turn t).cell hk]

theorem turn_map [Inhabited β] (b : Board α) (f : α → β) (s : Symmetry) :
    (b.map f).turn s = (b.turn s).map f := by
  refine (eq_turn ?_ ?_ fun k hk => ?_).symm
  · rw [height_map, height_map, height_turn, width_map]
  · rw [width_map, height_map, width_turn, width_map]
  · rw [inside_map] at hk
    rw [height_map, width_map, cell_map ((b.carries_turn s).inside hk), (b.carries_turn s).cell hk,
      cell_map hk]

end

end Board

/-! ## Turned grids -/

/-- A computation on each row of a grid whose result on a row is known. -/
theorem mapM_tuple {β : Type} {f : Value → Outcome β} {g : List Value → β} (rows : List (List Value))
    (h : ∀ row, f (.tuple row) = .ok (g row)) : (rows.map Value.tuple).mapM f = .ok (rows.map g) := by
  rw [List.mapM_map, mapM_eq_pure_map (f := f ∘ Value.tuple) fun row _ => h row, Outcome.pure_eq_ok]

namespace Symmetry

/-- The turned rows of a table. -/
def turnRows : Symmetry → List (List Value) → List (List Value)
  | .identity, rows => rows
  | .rotateRight, rows => Table.columns rows.reverse
  | .rotateHalf, rows => rows.reverse.map List.reverse
  | .rotateLeft, rows => ((Table.columns rows.reverse).map List.reverse).reverse
  | .flip .rows, rows => rows.reverse
  | .flip .columns, rows => rows.map List.reverse
  | .flip .diagonal, rows => Table.columns rows
  | .flip .antidiagonal, rows => Table.columns (rows.reverse.map List.reverse)

/-- The operations on grids turn the rows, which may have any lengths. -/
theorem apply_ofRows (s : Symmetry) (rows : List (List Value)) :
    s.apply (.ofRows rows) = .ok (.ofRows (s.turnRows rows)) := by
  have tuple : (Value.ofRows rows).tupleItems = .ok (rows.map Value.tuple) := rfl
  have items : (rows.map Value.tuple).mapM Value.items = .ok (rows.map id) :=
    mapM_tuple rows fun _ => rfl
  have reversed : (rows.reverse.map Value.tuple).mapM Value.items = .ok (rows.reverse.map id) :=
    mapM_tuple rows.reverse fun _ => rfl
  cases s with
  | identity => rfl
  | rotateRight =>
      rw [Symmetry.apply, Grid.rotateRight, tuple, Outcome.ok_bind, ← List.map_reverse, reversed, List.map_id]
      rfl
  | rotateHalf =>
      rw [Symmetry.apply, Grid.rotateHalf, tuple, Outcome.ok_bind, ← List.map_reverse,
        mapM_tuple (g := id) _ fun _ => rfl, List.map_id]
      rfl
  | rotateLeft =>
      rw [Symmetry.apply, Grid.rotateLeft, tuple, Outcome.ok_bind, ← List.map_reverse, reversed, List.map_id]
      rfl
  | flip f =>
      cases f with
      | rows =>
          change Except.ok (Value.tuple (rows.map Value.tuple).reverse) = _
          rw [← List.map_reverse]
          rfl
      | columns =>
          change (do return Value.ofRows (← (rows.map Value.tuple).mapM _)) = _
          rw [mapM_tuple (g := List.reverse) _ fun _ => rfl]
          rfl
      | diagonal =>
          change (do return Value.ofRows (Table.columns (← (rows.map Value.tuple).mapM _))) = _
          rw [items, List.map_id]
          rfl
      | antidiagonal =>
          change (do
            let turned ← (rows.map Value.tuple).reverse.mapM _
            return Value.ofRows (Table.columns turned)) = _
          rw [← List.map_reverse, mapM_tuple (g := List.reverse) _ fun _ => rfl]
          rfl

end Symmetry

namespace Board

/-- The operations on grids give turned boards. -/
theorem apply_toValue (b : Board Value) (s : Symmetry) :
    s.apply b.toValue = .ok (b.turn s).toValue := by
  refine (s.apply_ofRows b.rows).trans ?_
  cases s with
  | flip f => cases f <;> rfl
  | _ => rfl

/-- One symmetry after another is their product. -/
theorem apply_bind_apply (b : Board Value) (s t : Symmetry) :
    (do s.apply (← t.apply b.toValue)) = (s * t).apply b.toValue := by
  rw [apply_toValue, Outcome.ok_bind, apply_toValue, turn_turn, apply_toValue]

/-- A board that no two symmetries turn into the same board. -/
def quarters : Board Value where
  rows := [[.int 0, .int 1], [.int 2, .int 3]]
  width := 2
  rows_ne_nil := List.cons_ne_nil _ _
  width_pos := Nat.two_pos
  length_row := by simp

theorem eq_of_turn_quarters : ∀ s t : Symmetry,
    ((quarters.turn s).toValue == (quarters.turn t).toValue) = true → s = t := by
  decide +kernel

theorem apply_injective :
    Function.Injective fun (s : Symmetry) (g : Board Value) => s.apply g.toValue := by
  intro s t h
  have same : s.apply quarters.toValue = t.apply quarters.toValue := congrFun h quarters
  rw [apply_toValue, apply_toValue, Except.ok.injEq] at same
  refine eq_of_turn_quarters s t ?_
  rw [same]
  exact BEq.rfl

/-- **The symmetries of a board form the dihedral group of the square.** They are as many as its elements
and are multiplied as these: one after another, on any board, is their product, and no two of them do the same
to all boards. The quarter turns and the flips along a diagonal exchange the two dimensions of a board, and
the others keep them. -/
theorem symmetries_form_dihedral_group :
    Function.Bijective Symmetry.toDihedral ∧
    (∀ s t : Symmetry, (s * t).toDihedral = s.toDihedral * t.toDihedral) ∧
    (∀ (g : Board Value) (s t : Symmetry),
      (do s.apply (← t.apply g.toValue)) = (s * t).apply g.toValue) ∧
    (Function.Injective fun (s : Symmetry) (g : Board Value) => s.apply g.toValue) ∧
    (∀ (g : Board Value) (s : Symmetry), ∃ turned : Board Value,
      s.apply g.toValue = .ok turned.toValue ∧
      Patch.shape g.toValue = .ok (.location g.height g.width) ∧
      Patch.shape turned.toValue =
        .ok (if s.swaps then .location g.width g.height else .location g.height g.width)) ∧
    ∀ g : Board Value,
      (do Grid.rotateRight (← Grid.rotateRight (← Grid.rotateRight (← Grid.rotateRight g.toValue)))) =
        .ok g.toValue ∧
      (do Grid.rotateLeft (← Grid.rotateRight g.toValue)) = .ok g.toValue ∧
      (do Grid.rotateRight (← Grid.rotateRight g.toValue)) = Grid.rotateHalf g.toValue ∧
      (do Grid.flipRows (← Grid.flipColumns g.toValue)) = Grid.rotateHalf g.toValue ∧
      (∀ f : Flip, (do f.apply (← f.apply g.toValue)) = .ok g.toValue) ∧
      (do Grid.rotateHalf (← Grid.transpose g.toValue)) = Grid.antiTranspose g.toValue ∧
      (do Grid.rotateRight (← Grid.transpose g.toValue)) = Grid.flipColumns g.toValue := by
  refine ⟨Symmetry.toDihedral_bijective, Symmetry.toDihedral_mul, apply_bind_apply, apply_injective,
    fun g s => ?_, fun g => ?_⟩
  · refine ⟨g.turn s, g.apply_toValue s, g.shape_toValue, ?_⟩
    rw [shape_toValue, height_turn, width_turn, Symmetry.newHeight, Symmetry.newWidth]
    cases s.swaps <;> rfl
  · refine ⟨?_, g.apply_bind_apply .rotateLeft .rotateRight, g.apply_bind_apply .rotateRight .rotateRight,
      g.apply_bind_apply (.flip .rows) (.flip .columns), fun f => ?_,
      g.apply_bind_apply .rotateHalf (.flip .diagonal),
      g.apply_bind_apply .rotateRight (.flip .diagonal)⟩
    · have right (b : Board Value) : Grid.rotateRight b.toValue = .ok (b.turn .rotateRight).toValue :=
        b.apply_toValue .rotateRight
      simp only [right, Outcome.ok_bind, turn_turn]
      rfl
    · have square := g.apply_bind_apply (.flip f) (.flip f)
      cases f <;> exact square

end Board

end GridPuzzle
