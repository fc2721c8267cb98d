import GridPuzzle.Proofs.Enclosure
import GridPuzzle.Proofs.ObjectSymmetry
import GridPuzzle.Proofs.PatchOutline
import Mathlib.Logic.Function.Iterate

/-!
# The spiral

`Board.wind` turns a board clockwise and lays two rows above it: one of threes, and one of zeros with a three at
its end. The turned board joins the new rows at its upper right corner: there the threes of its last column meet
the three of the second row, and the zero beside them meets the zeros of that row. So if all threes of a board
are connected with its upper left corner, and all zeros with the cell below that, the same holds of the board
wound once more (`IsSpiral.wind`), and after any number of turns.

The program of task `28e73c20` winds a small board as often as the width of its input asks for. Its two small
boards are themselves wound, twice, from boards of threes alone (`Board.exists_seeds`).
-/

namespace GridPuzzle

open Relation Value Eval

namespace Board

variable {b : Board Int} {c : Int} {k l : Location}

/-! ## Winding -/

/-- The board turned clockwise, below a row of threes and a row of zeros with a three at its end. -/
def wind (b : Board Int) : Board Int where
  rows := List.replicate b.height 3 :: (List.replicate (b.height - 1) 0 ++ [3]) :: (b.turn .rotateRight).rows
  width := b.height
  rows_ne_nil := List.cons_ne_nil _ _
  width_pos := b.height_pos
  length_row row hrow := by
    have pos := b.height_pos
    rcases List.mem_cons.mp hrow with rfl | hrow
    · exact List.length_replicate
    · rcases List.mem_cons.mp hrow with rfl | hrow
      · rw [List.length_append, List.length_replicate, List.length_singleton]
        omega
      · have turned : (b.turn .rotateRight).width = b.height := width_turn b .rotateRight
        rw [(b.turn .rotateRight).length_row row hrow, turned]

/-- The location to which the cell at a location of a board is wound. -/
def wound (b : Board Int) (l : Location) : Location :=
  (l.2 + 2, b.height - 1 - l.1)

theorem height_wind (b : Board Int) : b.wind.height = b.width + 2 := by
  have turned : (b.turn .rotateRight).height = b.width := height_turn b .rotateRight
  rw [← turned]
  rfl

theorem width_wind (b : Board Int) : b.wind.width = b.height :=
  rfl

theorem cell_wind_first {j : Nat} (hj : j < b.height) : b.wind.cell (0, j) = 3 := by
  simp [cell, cell?, wind, hj]

theorem cell_wind_second {j : Nat} (hj : j < b.height - 1) : b.wind.cell (1, j) = 0 := by
  simp [cell, cell?, wind, List.getElem?_append, hj]

theorem cell_wind_corner (b : Board Int) : b.wind.cell (1, (b.height - 1 : Nat)) = 3 := by
  simp [cell, cell?, wind]

/-- Winding carries each cell of the board below the two new rows. -/
theorem carries_wind (b : Board Int) : b.Carries b.wound b.wind := by
  have turned := b.carries_turn .rotateRight
  refine ⟨fun {l} inside => ?_, fun {l} inside => ?_⟩
  · simp only [Inside, height_wind, width_wind, wound] at inside ⊢
    omega
  · rw [← turned.cell inside]
    have row : (l.2 + 2).toNat = l.2.toNat + 2 := by
      have column := inside.2.1
      omega
    simp only [cell, cell?, wind, wound, Symmetry.place, row, List.getElem?_cons_succ]

/-- A cell of a wound board lies in one of the new rows or has been wound. -/
theorem wind_cases (inside : b.wind.Inside l) :
    (∃ j : Nat, j < b.height ∧ l = (0, ↑j)) ∨ (∃ j : Nat, j < b.height ∧ l = (1, ↑j)) ∨
      ∃ k, b.Inside k ∧ l = b.wound k := by
  obtain ⟨i, j, hi, hj, rfl⟩ := inside.exists_natCast
  rw [height_wind] at hi
  rw [width_wind] at hj
  match i with
  | 0 => exact .inl ⟨j, hj, rfl⟩
  | 1 => exact .inr (.inl ⟨j, hj, rfl⟩)
  | i + 2 =>
      refine .inr (.inr ⟨(b.height - 1 - j, i), ?_, ?_⟩)
      · simp only [Inside]
        omega
      · refine Prod.ext ?_ ?_ <;> simp only [wound] <;> omega

/-! ## Paths -/

theorem hasColor_of_path (path : ReflTransGen (b.SideStep c) k l) (color : b.HasColor c k) :
    b.HasColor c l := by
  cases path with
  | refl => exact color
  | tail _ step => exact step.right

/-- Along the cells of a color in one row. -/
theorem row_path {i : Int} {n : Nat} (color : ∀ m ≤ n, b.HasColor c (i, (m : Nat))) :
    ReflTransGen (b.SideStep c) (i, n) (i, 0) := by
  induction n with
  | zero => exact .refl
  | succ n ih =>
      have step : b.SideStep c (i, (n + 1 : Nat)) (i, n) := by
        refine ⟨color (n + 1) (Nat.le_refl _), color n (Nat.le_succ n), ?_⟩
        simp only [Int.natCast_succ]
        omega
      exact (ih fun m hm => color m (Nat.le_succ_of_le hm)).head step

theorem SideStep.wound (step : b.SideStep c k l) : b.wind.SideStep c (b.wound k) (b.wound l) := by
  have carries := b.carries_wind
  refine ⟨⟨carries.inside step.left.1, (carries.cell step.left.1).trans step.left.2⟩,
    ⟨carries.inside step.right.1, (carries.cell step.right.1).trans step.right.2⟩, ?_⟩
  have beside := step.beside
  simp only [Board.wound]
  omega

theorem wound_path (path : ReflTransGen (b.SideStep c) k l) :
    ReflTransGen (b.wind.SideStep c) (b.wound k) (b.wound l) :=
  path.lift b.wound fun _ _ step => step.wound

/-! ## The invariant -/

/-- All cells are zeros and threes, the first row has threes only, and each color is connected: the threes with
the upper left corner, the zeros with the cell below it. -/
structure IsSpiral (b : Board Int) : Prop where
  tall : 2 ≤ b.height
  colors : ∀ l, b.Inside l → b.cell l = 0 ∨ b.cell l = 3
  first : ∀ l, b.Inside l → l.1 = 0 → b.cell l = 3
  threes : ∀ l, b.HasColor 3 l → ReflTransGen (b.SideStep 3) l (0, 0)
  zeros : ∀ l, b.HasColor 0 l → ReflTransGen (b.SideStep 0) l (1, 0)

theorem hasColor_wind_first {j : Nat} (hj : j < b.height) : b.wind.HasColor 3 (0, j) :=
  ⟨inside_natCast (i := 0) (by rw [height_wind]; omega) hj, cell_wind_first hj⟩

theorem hasColor_wind_second {j : Nat} (hj : j < b.height - 1) : b.wind.HasColor 0 (1, j) :=
  ⟨inside_natCast (i := 1) (by rw [height_wind]; omega) (by rw [width_wind]; omega), cell_wind_second hj⟩

theorem hasColor_wind_corner (b : Board Int) : b.wind.HasColor 3 (1, (b.height - 1 : Nat)) := by
  have pos := b.height_pos
  exact ⟨inside_natCast (i := 1) (by rw [height_wind]; omega) (by rw [width_wind]; omega), b.cell_wind_corner⟩

/-- The end of the second row leads up and along the first row. -/
theorem corner_path (b : Board Int) :
    ReflTransGen (b.wind.SideStep 3) (1, (b.height - 1 : Nat)) (0, 0) := by
  have pos := b.height_pos
  have step : b.wind.SideStep 3 (1, (b.height - 1 : Nat)) (0, (b.height - 1 : Nat)) :=
    ⟨b.hasColor_wind_corner, hasColor_wind_first (by omega), by simp⟩
  exact (row_path fun m hm => hasColor_wind_first (by omega)).head step

namespace IsSpiral

theorem threes_wind (h : b.IsSpiral) (color : b.wind.HasColor 3 l) :
    ReflTransGen (b.wind.SideStep 3) l (0, 0) := by
  have tall := h.tall
  rcases wind_cases color.1 with ⟨j, hj, rfl⟩ | ⟨j, hj, rfl⟩ | ⟨k, inside, rfl⟩
  · exact row_path fun m hm => hasColor_wind_first (by omega)
  · -- The second row has one three, at its end.
    rcases Nat.lt_or_ge j (b.height - 1) with before | last
    · have zero := cell_wind_second before
      rw [color.2] at zero
      exact absurd zero (by decide)
    · obtain rfl : j = b.height - 1 := by omega
      exact b.corner_path
  · have old : b.HasColor 3 k := ⟨inside, (b.carries_wind.cell inside).symm.trans color.2⟩
    have path := wound_path (h.threes k old)
    have corner := hasColor_of_path path color
    have seam : b.wind.SideStep 3 (b.wound (0, 0)) (1, (b.height - 1 : Nat)) := by
      refine ⟨corner, b.hasColor_wind_corner, ?_⟩
      simp only [Board.wound]
      omega
    exact (path.tail seam).trans b.corner_path

theorem zeros_wind (h : b.IsSpiral) (color : b.wind.HasColor 0 l) :
    ReflTransGen (b.wind.SideStep 0) l (1, 0) := by
  have tall := h.tall
  rcases wind_cases color.1 with ⟨j, hj, rfl⟩ | ⟨j, hj, rfl⟩ | ⟨k, inside, rfl⟩
  · have three := cell_wind_first hj
    rw [color.2] at three
    exact absurd three (by decide)
  · rcases Nat.lt_or_ge j (b.height - 1) with before | last
    · exact row_path fun m hm => hasColor_wind_second (by omega)
    · obtain rfl : j = b.height - 1 := by omega
      have three := b.cell_wind_corner
      rw [color.2] at three
      exact absurd three (by decide)
  · have old : b.HasColor 0 k := ⟨inside, (b.carries_wind.cell inside).symm.trans color.2⟩
    have path := wound_path (h.zeros k old)
    have seam : b.wind.SideStep 0 (b.wound (1, 0)) (1, (b.height - 2 : Nat)) := by
      refine ⟨hasColor_of_path path color, hasColor_wind_second (by omega), ?_⟩
      simp only [Board.wound]
      omega
    exact (path.tail seam).trans (row_path fun m hm => hasColor_wind_second (by omega))

/-- Winding keeps the invariant. -/
theorem wind (h : b.IsSpiral) : b.wind.IsSpiral where
  tall := by rw [height_wind]; omega
  colors l inside := by
    rcases wind_cases inside with ⟨j, hj, rfl⟩ | ⟨j, hj, rfl⟩ | ⟨k, old, rfl⟩
    · exact .inr (cell_wind_first hj)
    · rcases Nat.lt_or_ge j (b.height - 1) with before | last
      · exact .inl (cell_wind_second before)
      · obtain rfl : j = b.height - 1 := by omega
        exact .inr b.cell_wind_corner
    · rw [b.carries_wind.cell old]
      exact h.colors k old
  first l inside top := by
    obtain ⟨i, j, -, hj, rfl⟩ := inside.exists_natCast
    obtain rfl : i = 0 := Int.natCast_eq_zero.mp top
    exact cell_wind_first hj
  threes _ color := h.threes_wind color
  zeros _ color := h.zeros_wind color

theorem iterate (h : b.IsSpiral) (n : Nat) : (Board.wind^[n] b).IsSpiral := by
  induction n with
  | zero => exact h
  | succ n ih =>
      rw [Function.iterate_succ_apply']
      exact ih.wind

end IsSpiral

/-- A board of threes alone, with two rows or more. -/
theorem isSpiral_of_threes (tall : 2 ≤ b.height) (three : ∀ l, b.Inside l → b.cell l = 3) : b.IsSpiral where
  tall := tall
  colors l inside := .inr (three l inside)
  first l inside _ := three l inside
  threes l color := by
    have all {i j : Nat} (hi : i < b.height) (hj : j < b.width) : b.HasColor 3 (i, j) :=
      ⟨inside_natCast hi hj, three _ (inside_natCast hi hj)⟩
    have up : ∀ i : Nat, i < b.height → ReflTransGen (b.SideStep 3) (i, 0) (0, 0) := by
      intro i hi
      induction i with
      | zero => exact .refl
      | succ i ih =>
          have step : b.SideStep 3 ((i + 1 : Nat), 0) (i, 0) :=
            ⟨all (j := 0) hi b.width_pos, all (j := 0) (by omega) b.width_pos, by simp⟩
          exact (ih (by omega)).head step
    obtain ⟨i, j, hi, hj, rfl⟩ := color.1.exists_natCast
    exact (row_path fun m hm => all hi (by omega)).trans (up i hi)
  zeros l color := by
    have other := three l color.1
    rw [color.2] at other
    exact absurd other (by decide)

/-! ## The spiral of a width -/

/-- Two turns make a board two rows higher and two columns wider. -/
theorem dimensions_wind_iterate (b : Board Int) (n : Nat) :
    (wind^[2 * n] b).height = b.height + 2 * n ∧ (wind^[2 * n] b).width = b.width + 2 * n := by
  induction n with
  | zero => exact ⟨rfl, rfl⟩
  | succ n ih =>
      rw [Nat.mul_succ, Function.iterate_succ_apply', Function.iterate_succ_apply', height_wind, width_wind,
        width_wind, height_wind]
      omega

/-- The board of threes with `m + 1` rows and `n + 1` columns. -/
def threes (m n : Nat) : Board Int :=
  uniform (Nat.succ_pos m) (Nat.succ_pos n) 3

theorem isSpiral_threes {m n : Nat} (tall : 1 ≤ m) : (threes m n).IsSpiral := by
  have rows : (threes m n).height = m + 1 := by simp [threes, uniform, tabulate, Board.height]
  refine isSpiral_of_threes (by omega) fun l inside => ?_
  exact cell_tabulate (Nat.succ_pos m) (Nat.succ_pos n) ((inside_tabulate_iff _ _).mp inside)

/-- The small boards that the spiral starts from, for a width that is even or odd. -/
def core : Bool → Board Int
  | true => threes 1 1
  | false => threes 2 0

theorem isSpiral_core (even : Bool) : (core even).IsSpiral := by
  cases even with
  | false => exact isSpiral_threes (Nat.le_succ 1)
  | true => exact isSpiral_threes (Nat.le_refl 1)

/-- The spiral of a given width, which is also its height. -/
def spiral (n : Nat) : Board Int :=
  wind^[n - 2] (core (n % 2 == 0))

theorem dimensions_spiral {n : Nat} (hn : 2 ≤ n) : (spiral n).height = n ∧ (spiral n).width = n := by
  rcases Nat.even_or_odd' (n - 2) with ⟨m, even | odd⟩
  · have parity : (n % 2 == 0) = true := by rw [beq_iff_eq]; omega
    have dimensions := dimensions_wind_iterate (core true) m
    have height : (core true).height = 2 := rfl
    have width : (core true).width = 2 := rfl
    rw [spiral, parity, even]
    omega
  · have parity : (n % 2 == 0) = false := by rw [beq_eq_false_iff_ne]; omega
    have dimensions := dimensions_wind_iterate (core false).wind m
    have height : (core false).wind.height = 3 := rfl
    have width : (core false).wind.width = 3 := rfl
    rw [spiral, parity, odd, Function.iterate_succ_apply]
    omega

theorem isSpiral_spiral (n : Nat) : (spiral n).IsSpiral :=
  (isSpiral_core _).iterate _

/-- A spiral that has been wound starts with a three, and with a zero below it. -/
theorem hasColor_spiral {n : Nat} (hn : 3 ≤ n) :
    (spiral n).HasColor 3 (0, 0) ∧ (spiral n).HasColor 0 (1, 0) := by
  have tall := ((isSpiral_core (n % 2 == 0)).iterate (n - 3)).tall
  have count : n - 2 = n - 3 + 1 := by omega
  rw [spiral, count, Function.iterate_succ_apply']
  exact ⟨hasColor_wind_first (j := 0) (by omega), hasColor_wind_second (j := 0) (by omega)⟩

/-! ## The function that winds -/

/-- A grid of one cell. -/
def dot (c : Int) : Value :=
  .ofRows [[.int c]]

/-! The functions that the program builds, each of which makes a part of the wound grid. -/

def zeroRow : Value :=
  .compose3 1 (.bindFirst 0 1 (.prim .stretchColumns) (dot 0)) (.prim .decrement) (.prim .height)

def secondRow : Value :=
  .compose 3 (.bindLast 2 1 (.prim .beside) (dot 3)) zeroRow

def firstRow : Value :=
  .compose 5 (.bindFirst 4 1 (.prim .stretchColumns) (dot 3)) (.prim .height)

def lowerRows : Value :=
  .fork 6 (.prim .above) secondRow (.prim .rotateRight)

def winding : Value :=
  .fork 7 (.prim .above) firstRow lowerRows

theorem stretchColumns_dot (c n : Int) :
    Grid.stretchColumns (dot c) (.int n) = .ok (.ofRows [List.replicate n.toNat (.int c)]) := by
  have row : Grid.stretchRow (.int n) (.tuple [.int c]) = .ok (.tuple (List.replicate n.toNat (.int c))) := by
    change Except.ok (Value.tuple ([List.replicate n.toNat (Value.int c)].flatten)) = _
    rw [List.flatten_singleton]
  change (do return Value.tuple (← [Value.tuple [.int c]].mapM (Grid.stretchRow (.int n)))) = _
  rw [List.mapM_cons, row]
  rfl

theorem call_height (b : Board Int) (depth : Nat) :
    Value.call (depth + 1) (.prim .height) [b.grid] = pure (.int b.height) := by
  have height : Patch.height b.grid = .ok b.height := by
    have pos : b.height ≠ 0 := Nat.pos_iff_ne_zero.mp b.height_pos
    have tuple : b.grid.isTuple = true := rfl
    have size : b.grid.size = .ok b.height := by rw [grid, size_toValue, height_map]
    simp [Patch.height, size, pos, tuple]
  rw [call_prim]
  change Primitive.measure (Patch.height b.grid) = _
  rw [height]
  rfl

theorem call_above (upper lower : List (List Value)) (depth : Nat) :
    Value.call (depth + 1) (.prim .above) [.ofRows upper, .ofRows lower] = pure (.ofRows (upper ++ lower)) := by
  rw [call_prim, ofRows, ofRows, ofRows, List.map_append]
  rfl

theorem call_firstRow (b : Board Int) (depth : Nat) :
    Value.call (depth + 1) firstRow [b.grid] = pure (.ofRows [List.replicate b.height (.int 3)]) := by
  rw [firstRow, call_compose, call_height, pure_bind, call_bindFirst, call_prim]
  exact lift_ok (stretchColumns_dot 3 b.height)

theorem call_zeroRow (b : Board Int) (depth : Nat) :
    Value.call (depth + 1) zeroRow [b.grid] = pure (.ofRows [List.replicate (b.height - 1) (.int 0)]) := by
  have less : Value.call (depth + 1) (.prim .decrement) [.int b.height] = pure (.int (b.height - 1)) := by
    rw [call_prim]
    rfl
  have count : ((b.height : Int) - 1).toNat = b.height - 1 := by omega
  rw [zeroRow, call_compose3, call_height, pure_bind, less, pure_bind, call_bindFirst, call_prim, ← count]
  exact lift_ok (stretchColumns_dot 0 (b.height - 1))

theorem call_secondRow (b : Board Int) (depth : Nat) :
    Value.call (depth + 1) secondRow [b.grid] =
      pure (.ofRows [List.replicate (b.height - 1) (.int 0) ++ [.int 3]]) := by
  rw [secondRow, call_compose, call_zeroRow, pure_bind, call_bindLast, call_prim]
  rfl

theorem call_winding (b : Board Int) (depth : Nat) :
    Value.call (depth + 1) winding [b.grid] = pure b.wind.grid := by
  have turned : Value.call (depth + 1) (.prim .rotateRight) [b.grid] = pure (b.turn .rotateRight).grid := by
    rw [call_prim]
    exact lift_ok (b.apply_grid .rotateRight)
  rw [winding, call_fork, call_firstRow, pure_bind, lowerRows, call_fork, call_secondRow, pure_bind, turned,
    pure_bind, grid, toValue, call_above, pure_bind, call_above]
  simp [grid, toValue, wind, Board.map]

/-- The steps of the spiral of a width, as a built function. -/
theorem exists_iterate_winding {n : Nat} (hn : 5 ≤ n) (depth s : Nat) :
    ∃ iterated t, (Function.iterate winding (.int (n - 4))).Gives s iterated t ∧
      Value.call (depth + 1) iterated [(core (n % 2 == 0)).wind.wind.grid] = pure (spiral n).grid := by
  have positive : (1 : Int) ≤ n - 4 := by omega
  rcases exists_iterate winding positive (depth + 1) s with ⟨iterated, t, gives, iterates⟩
  have step : ∀ k v, v = (Board.wind^[k] (core (n % 2 == 0)).wind.wind).grid →
      ∃ w, Value.call (depth + 1) winding [v] = pure w ∧
        w = (Board.wind^[k + 1] (core (n % 2 == 0)).wind.wind).grid := by
    intro k v hv
    rw [hv, Function.iterate_succ_apply']
    exact ⟨_, call_winding _ depth, rfl⟩
  rcases iterates _ step (core (n % 2 == 0)).wind.wind.grid rfl with ⟨w, drawn, hw⟩
  have count : n - 2 = ((n : Int) - 4).toNat + 2 := by omega
  refine ⟨iterated, t, gives, ?_⟩
  rw [drawn, hw, spiral, count, Function.iterate_add_apply]
  rfl

/-! ## The program -/

theorem program_spiral : Task.program? "28e73c20" = some Task.task28e73c20 := by
  decide +kernel

/-- A square and a column of threes, with some cells filled with zeros, are the two small boards that the
program starts from. -/
theorem exists_seeds : ∃ corner hook square hook' column,
    Container.insert (.location 1 1) (.setOf [.location 1 0]) = .ok corner ∧
    Container.insert (.location 1 2) corner = .ok hook ∧ Container.insert (.location 2 2) hook = .ok square ∧
    Grid.fill (threes 3 3).grid (.int 0) square = .ok (core true).wind.wind.grid ∧
    Container.insert (.location 2 1) corner = .ok hook' ∧ Container.insert (.location 3 1) hook' = .ok column ∧
    Grid.fill (threes 4 2).grid (.int 0) column = .ok (core false).wind.wind.grid := by
  have down : (Value.setOf ([((1, 0) : Location)].map Location.toValue)).IsLocationSet (· = (1, 0)) :=
    isLocationSet_setOf fun _ => List.mem_singleton
  obtain ⟨corner, hcorner, places⟩ := down.exists_insert (1, 1)
  obtain ⟨hook, hhook, places'⟩ := places.exists_insert (1, 2)
  obtain ⟨square, hsquare, inSquare⟩ := places'.exists_insert (2, 2)
  obtain ⟨hook', hhook', places''⟩ := places.exists_insert (2, 1)
  obtain ⟨column, hcolumn, inColumn⟩ := places''.exists_insert (3, 1)
  refine ⟨corner, hook, square, hook', column, hcorner, hhook, hsquare, ?_, hhook', hcolumn, ?_⟩
  · rw [fill_grid _ inSquare.isPatch]
    rfl
  · rw [fill_grid _ inColumn.isPatch]
    rfl

theorem isEven_natCast (n : Nat) : Number.isEven (.int n) = .ok (.bool (n % 2 == 0)) := by
  have parity : ((n : Int).fmod 2 == 0) = (n % 2 == 0) := by
    rw [Bool.eq_iff_iff, beq_iff_eq, beq_iff_eq, Int.fmod_eq_emod_of_nonneg _ (by decide)]
    omega
  rw [Number.isEven, number_int, Outcome.ok_bind, parity]
  rfl

/-- The results of the steps up to the two small boards. -/
def seedResults (n : Nat) (corner hook square hook' column : Value) : List Value :=
  [.int n, .location 1 2, .location 2 2, .location 2 1, .location 3 1, dot 3,
    (threes 3 3).grid, .setOf [.location 1 0], corner, hook, square, (core true).wind.wind.grid,
    (threes 4 0).grid, (threes 4 2).grid, hook', column, (core false).wind.wind.grid]

theorem exists_runFrom_seeds (row : List Value) (rows : List (List Value)) :
    ∃ corner hook square hook' column,
      (Program.runFrom (.ofRows (row :: rows)) [] Task.task28e73c20).run 0 =
        (Program.runFrom (.ofRows (row :: rows)) (seedResults row.length corner hook square hook' column)
          (Task.task28e73c20.drop 17)).run 0 := by
  obtain ⟨corner, hook, square, hook', column, hcorner, hhook, hsquare, hfill, hhook', hcolumn, hfill'⟩ :=
    exists_seeds
  refine ⟨corner, hook, square, hook', column, ?_⟩
  refine Program.runFrom_step (v := .int row.length) (t := 0) (gives_call rfl rfl) ?_
  refine Program.runFrom_step (v := .location 1 2) (t := 0) (gives_call rfl rfl) ?_
  refine Program.runFrom_step (v := .location 2 2) (t := 0) (gives_call rfl rfl) ?_
  refine Program.runFrom_step (v := .location 2 1) (t := 0) (gives_call rfl rfl) ?_
  refine Program.runFrom_step (v := .location 3 1) (t := 0) (gives_call rfl rfl) ?_
  refine Program.runFrom_step (v := dot 3) (t := 0) (gives_call rfl rfl) ?_
  refine Program.runFrom_step (v := (threes 3 3).grid) (t := 0) (gives_call rfl rfl) ?_
  refine Program.runFrom_step (v := .setOf [.location 1 0]) (t := 0) (gives_call rfl rfl) ?_
  -- The results so far are written as one list, so that they are quickly found.
  simp only [List.nil_append, List.cons_append]
  refine Program.runFrom_step (gives_call rfl (gives_lift hcorner 0)) ?_
  refine Program.runFrom_step (gives_call rfl (gives_lift hhook 0)) ?_
  refine Program.runFrom_step (gives_call rfl (gives_lift hsquare 0)) ?_
  refine Program.runFrom_step (gives_call rfl (gives_lift hfill 0)) ?_
  refine Program.runFrom_step (v := (threes 4 0).grid) (t := 0) (gives_call rfl rfl) ?_
  refine Program.runFrom_step (v := (threes 4 2).grid) (t := 0) (gives_call rfl rfl) ?_
  refine Program.runFrom_step (gives_call rfl (gives_lift hhook' 0)) ?_
  refine Program.runFrom_step (gives_call rfl (gives_lift hcolumn 0)) ?_
  exact Program.runFrom_step (gives_call rfl (gives_lift hfill' 0)) rfl

/-- The results of the steps up to the function that winds. -/
def windingResults (n : Nat) (seeds : List Value) : List Value :=
  seeds ++ [.bool (n % 2 == 0), (core (n % 2 == 0)).wind.wind.grid, dot 0,
    .bindFirst 0 1 (.prim .stretchColumns) (dot 0), zeroRow, .bindLast 2 1 (.prim .beside) (dot 3), secondRow,
    .bindFirst 4 1 (.prim .stretchColumns) (dot 3), firstRow, lowerRows, winding]

theorem runFrom_winding (input : Value) (n : Nat) (corner hook square hook' column : Value) :
    (Program.runFrom input (seedResults n corner hook square hook' column) (Task.task28e73c20.drop 17)).run 0 =
      (Program.runFrom input (windingResults n (seedResults n corner hook square hook' column))
        (Task.task28e73c20.drop 28)).run 8 := by
  refine Program.runFrom_step (gives_call rfl (gives_lift (isEven_natCast n) 0)) ?_
  refine Program.runFrom_step (v := (core (n % 2 == 0)).wind.wind.grid) (t := 0) (gives_call rfl ?_) ?_
  · cases n % 2 == 0 <;> rfl
  refine Program.runFrom_step (v := dot 0) (t := 0) (gives_call rfl rfl) ?_
  refine Program.runFrom_step (v := .bindFirst 0 1 (.prim .stretchColumns) (dot 0)) (t := 1) (gives_call rfl rfl) ?_
  refine Program.runFrom_step (v := zeroRow) (t := 2) (gives_call rfl rfl) ?_
  simp only [seedResults, List.nil_append, List.cons_append]
  refine Program.runFrom_step (v := .bindLast 2 1 (.prim .beside) (dot 3)) (t := 3) (gives_call rfl rfl) ?_
  refine Program.runFrom_step (v := secondRow) (t := 4) (gives_call rfl rfl) ?_
  refine Program.runFrom_step (v := .bindFirst 4 1 (.prim .stretchColumns) (dot 3)) (t := 5) (gives_call rfl rfl) ?_
  refine Program.runFrom_step (v := firstRow) (t := 6) (gives_call rfl rfl) ?_
  refine Program.runFrom_step (v := lowerRows) (t := 7) (gives_call rfl rfl) ?_
  exact Program.runFrom_step (v := winding) (t := 8) (gives_call rfl rfl) rfl

/-- The program of the task draws the spiral that is as wide as the input. -/
theorem run_spiral (row : List Value) (rows : List (List Value)) (wide : 5 ≤ row.length) :
    Task.task28e73c20.run (.ofRows (row :: rows)) = .ok (spiral row.length).grid := by
  obtain ⟨corner, hook, square, hook', column, hseeds⟩ := exists_runFrom_seeds row rows
  obtain ⟨iterated, t, built, drawn⟩ := exists_iterate_winding wide 999 8
  refine Program.run_eq_ok (t := t) ((hseeds.trans (runFrom_winding ..)).trans ?_)
  refine Program.gives_cons (v := .int (row.length - 4)) (t := 8) (gives_call rfl rfl) ?_
  refine Program.gives_cons (gives_call rfl built) ?_
  refine Program.gives_cons (v := (spiral row.length).grid) (t := t) (gives_callResult rfl rfl ?_) ?_
  · change (Value.call 1000 iterated [(core (row.length % 2 == 0)).wind.wind.grid]).Gives t _ t
    rw [drawn]
    exact gives_pure t _
  exact Program.gives_nil rfl t

/-! ## Two regions -/

/-- Two cells that lead to a third one are connected. -/
theorem connected_of_paths {m : Location} (hk : b.HasColor c k) (hl : b.HasColor c l)
    (path : ReflTransGen (b.SideStep c) k m) (path' : ReflTransGen (b.SideStep c) l m) :
    b.Connected true false false k l :=
  ((connected_iff_path hk.2).mpr path).trans ((connected_iff_path hl.2).mpr path').symm

/-- A board of two colors, each of which is connected, has two objects. -/
theorem exists_two_objects {d : Int} (differ : c ≠ d) (hk : b.HasColor c k) (hl : b.HasColor d l)
    (colors : ∀ m, b.Inside m → b.cell m = d ∨ b.cell m = c)
    (path : ∀ m, b.HasColor c m → ReflTransGen (b.SideStep c) m k)
    (path' : ∀ m, b.HasColor d m → ReflTransGen (b.SideStep d) m l) :
    ∃ found o o', Grid.objects b.grid (.bool true) (.bool false) (.bool false) = .ok found ∧
      found.size = .ok 2 ∧ (∀ x, x ∈ found ↔ x = o ∨ x = o') ∧
      Grid.colorOf o = .ok (.int c) ∧ Grid.colorOf o' = .ok (.int d) := by
  obtain ⟨found, hobjects, hfound⟩ := b.exists_objects true false false
  have only : found.IsOnlyObject c (b.colorClass c) :=
    isOnlyObject_of_connected hfound (eligible_of_inside hk.1) hk.2 fun m hm =>
      connected_of_paths hk hm .refl (path m hm)
  have only' : found.IsOnlyObject d (b.colorClass d) :=
    isOnlyObject_of_connected hfound (eligible_of_inside hl.1) hl.2 fun m hm =>
      connected_of_paths hl hm .refl (path' m hm)
  obtain ⟨mem, color⟩ := (only _).mpr rfl
  obtain ⟨mem', color'⟩ := (only' _).mpr rfl
  have members : ∀ x, x ∈ found ↔ x = b.colorClass c ∨ x = b.colorClass d := by
    intro x
    constructor
    · intro hx
      obtain ⟨m, eligible, hobject⟩ := (hfound.mem_iff x).mp hx
      have found := colorOf_class hobject
      rcases colors m eligible.1 with isD | isC
      · exact .inr ((only' x).mp ⟨hx, by rw [found, isD]⟩)
      · exact .inl ((only x).mp ⟨hx, by rw [found, isC]⟩)
    · intro hx
      rcases hx with rfl | rfl
      · exact mem
      · exact mem'
  have different : b.colorClass c ≠ b.colorClass d := by
    intro same
    rw [same, color'] at color
    exact differ (Value.int.inj (Except.ok.inj color)).symm
  refine ⟨found, _, _, hobjects, ?_, members, color, color'⟩
  obtain ⟨⟨xs, rfl, increasing⟩, -⟩ := hfound
  have perm : xs.Perm [b.colorClass c, b.colorClass d] := by
    rw [List.perm_ext_iff_of_nodup increasing.nodup (by simpa using different)]
    intro x
    rw [List.mem_cons, List.mem_singleton]
    exact members x
  exact congrArg Except.ok perm.length_eq

/-- **The program of task `28e73c20` draws a spiral.** For every grid whose first row has five cells or more, the
result is a square of that width. Its cells are zeros and threes, its first row has threes only, and the cells of
each color are connected from side to side. So it has two objects of one color, one of threes and one of zeros. -/
theorem draws_spiral_of_two_regions (row : List Value) (rows : List (List Value)) (wide : 5 ≤ row.length) :
    ∃ out : Board Int, Task.solve "28e73c20" (.ofRows (row :: rows)) = .ok out.grid ∧
      out.height = row.length ∧ out.width = row.length ∧
      (∀ l, out.Inside l → out.cell l = 0 ∨ out.cell l = 3) ∧
      (∀ l, out.Inside l → l.1 = 0 → out.cell l = 3) ∧
      (∀ c k l, c = 0 ∨ c = 3 → out.HasColor c k → out.HasColor c l → ReflTransGen (out.SideStep c) k l) ∧
      ∃ found threes zeros, Grid.objects out.grid (.bool true) (.bool false) (.bool false) = .ok found ∧
        found.size = .ok 2 ∧ (∀ o, o ∈ found ↔ o = threes ∨ o = zeros) ∧
        Grid.colorOf threes = .ok (.int 3) ∧ Grid.colorOf zeros = .ok (.int 0) := by
  have shape := isSpiral_spiral row.length
  obtain ⟨height, width⟩ := dimensions_spiral (Nat.le_trans (by decide) wide : 2 ≤ row.length)
  obtain ⟨three, zero⟩ := hasColor_spiral (Nat.le_trans (by decide) wide : 3 ≤ row.length)
  refine ⟨spiral row.length, ?_, height, width, shape.colors, shape.first, fun c k l color hk hl => ?_, ?_⟩
  · rw [Task.solve_eq_run program_spiral, run_spiral row rows wide]
  · rw [← connected_iff_path hk.2]
    rcases color with rfl | rfl
    · exact connected_of_paths hk hl (shape.zeros k hk) (shape.zeros l hl)
    · exact connected_of_paths hk hl (shape.threes k hk) (shape.threes l hl)
  · exact exists_two_objects (by decide) three zero shape.colors shape.threes shape.zeros

theorem draws_spiral_of_width_six :
    5 ≤ (List.replicate 6 Value.null).length ∧
    ∃ out : Board Int, Task.solve "28e73c20" (.ofRows [List.replicate 6 .null, [.int 7]]) = .ok out.grid ∧
      out.height = 6 ∧ out.width = 6 ∧ out.cell (0, 5) = 3 := by
  have wide : 5 ≤ (List.replicate 6 Value.null).length := by decide
  obtain ⟨out, solved, height, width, -, first, -⟩ := draws_spiral_of_two_regions _ [[.int 7]] wide
  refine ⟨wide, out, solved, height, width, first (0, 5) ?_ rfl⟩
  rw [Inside, height, width]
  decide

end Board

end GridPuzzle
