import GridPuzzle.Proofs.GridPart
import GridPuzzle.Proofs.PatchPeriod
import GridPuzzle.Proofs.ProgramRun

/-!
# Extending a pattern by its period

The program of task `963e52fc` cuts off one period of a grid, puts copies of it side by side and cuts off twice
the width of the grid. Three operations on boards describe it: the first rows and columns (`Board.corner`),
copies of a board below each other (`Board.stack`), and the quarter turns. A stack of turned boards that is
turned back has the copies side by side (`Board.cell_sideBySide`).
-/

namespace GridPuzzle

/-! ## Parts and copies of lists, and numbers -/

theorem Table.slice_zero {α : Type} (xs : List α) (n : Nat) : slice xs 0 n = xs.take n := by
  have front := slice_natCast xs 0 n
  rwa [Nat.zero_add, List.drop_zero] at front

theorem length_copies {α : Type} (count : Nat) (xs : List α) :
    (List.replicate count xs).flatten.length = count * xs.length := by
  induction count with
  | zero => rw [List.replicate_zero, List.flatten_nil, List.length_nil, Nat.zero_mul]
  | succ count ih => rw [List.replicate_succ, List.flatten_cons, List.length_append, ih, Nat.succ_mul, Nat.add_comm]

/-- In copies of a list after each other, an item is found by the remainder of its position. -/
theorem getElem?_copies {α : Type} (xs : List α) {count i : Nat} (h : i < count * xs.length) :
    (List.replicate count xs).flatten[i]? = xs[i % xs.length]? := by
  induction count generalizing i with
  | zero => omega
  | succ count ih =>
      rw [List.replicate_succ, List.flatten_cons]
      by_cases first : i < xs.length
      · rw [List.getElem?_append_left first, Nat.mod_eq_of_lt first]
      · have rest : i - xs.length < count * xs.length := by
          rw [Nat.succ_mul] at h
          omega
        rw [List.getElem?_append_right (Nat.not_lt.mp first), ih rest, ← Nat.mod_eq_sub_mod (Nat.not_lt.mp first)]

theorem Number.double_natCast (n : Nat) : Number.double (.int n) = .ok (.int (2 * n : Nat)) := by
  rw [Nat.mul_comm, Int.natCast_mul]
  rfl

theorem Number.divide_natCast (n : Nat) {p : Nat} (pos : 0 < p) :
    Number.divide (.int n) (.int p) = .ok (.int (n / p : Nat)) := by
  have quotient : Number.divide (.int n) (.int p) =
      if (p : Int) = 0 then .error .divisionByZero else .ok (.int (Int.fdiv n p)) := rfl
  rw [quotient, if_neg (by omega), ← Int.ofNat_fdiv]

theorem Eval.gives_measure {x : Outcome Int} {n : Int} (h : x = .ok n) (s : Nat) :
    (Primitive.measure x).Gives s (.int n) s := by
  rw [h]
  rfl

namespace Board

variable {α : Type}

/-! ## Corners, stacks and quarter turns -/

/-- The first rows and columns of a board. -/
def corner (b : Board α) {rows columns : Nat} (some : 0 < rows) (some' : 0 < columns)
    (fits : rows ≤ b.height ∧ columns ≤ b.width) : Board α where
  rows := (b.rows.take rows).map (·.take columns)
  width := columns
  rows_ne_nil := by
    rw [← List.length_pos_iff, List.length_map, List.length_take]
    exact Nat.lt_min.mpr ⟨some, b.height_pos⟩
  width_pos := some'
  length_row row hrow := by
    obtain ⟨old, hold, rfl⟩ := List.mem_map.mp hrow
    rw [List.length_take, b.length_row old (List.mem_of_mem_take hold), Nat.min_eq_left fits.2]

/-- Copies of a board below each other. -/
def stack (b : Board α) {count : Nat} (some : 0 < count) : Board α where
  rows := (List.replicate count b.rows).flatten
  width := b.width
  rows_ne_nil := by
    rw [← List.length_pos_iff, length_copies]
    exact Nat.mul_pos some b.height_pos
  width_pos := b.width_pos
  length_row row hrow := by
    obtain ⟨rows, hrows, mem⟩ := List.mem_flatten.mp hrow
    rw [List.eq_of_mem_replicate hrows] at mem
    exact b.length_row row mem

section

variable (b : Board α) {rows columns count : Nat} (some : 0 < rows) (some' : 0 < columns)
  (fits : rows ≤ b.height ∧ columns ≤ b.width) (pos : 0 < count)

@[simp] theorem height_corner : (b.corner some some' fits).height = rows := by
  rw [height, corner, List.length_map, List.length_take]
  exact Nat.min_eq_left fits.1

@[simp] theorem width_corner : (b.corner some some' fits).width = columns :=
  rfl

@[simp] theorem height_stack : (b.stack pos).height = count * b.height := by
  rw [height, stack, length_copies, height]

@[simp] theorem width_stack : (b.stack pos).width = b.width :=
  rfl

variable [Inhabited α] {b some some' fits pos} {l : Location}

theorem cell_corner (h : (b.corner some some' fits).Inside l) : (b.corner some some' fits).cell l = b.cell l := by
  obtain ⟨i, j, hi, hj, rfl⟩ := h.exists_natCast
  rw [height_corner] at hi
  rw [width_corner] at hj
  simp only [cell, cell?, corner, Int.toNat_natCast, List.getElem?_map, List.getElem?_take_of_lt hi]
  cases b.rows[i]? with
  | none => rfl
  | some row => simp [List.getElem?_take_of_lt hj]

theorem cell_stack (h : (b.stack pos).Inside l) : (b.stack pos).cell l = b.cell (l.1 % b.height, l.2) := by
  obtain ⟨i, j, hi, hj, rfl⟩ := h.exists_natCast
  rw [height_stack] at hi
  have place : ((i : Int) % (b.height : Int)).toNat = i % b.height := by
    rw [← Int.natCast_emod, Int.toNat_natCast]
  simp only [cell, cell?, stack, Int.toNat_natCast, place]
  rw [getElem?_copies b.rows hi, height]

omit [Inhabited α] in
theorem height_turn_rotateRight : (b.turn .rotateRight).height = b.width := by
  rw [height_turn]
  rfl

omit [Inhabited α] in
theorem width_turn_rotateRight : (b.turn .rotateRight).width = b.height := by
  rw [width_turn]
  rfl

theorem cell_turn_rotateRight (h : (b.turn .rotateRight).Inside l) :
    (b.turn .rotateRight).cell l = b.cell (b.height - 1 - l.2, l.1) := by
  obtain ⟨k, hk, rfl⟩ := exists_place_of_inside h
  rw [(b.carries_turn .rotateRight).cell hk]
  simp [Symmetry.place]

theorem cell_turn_rotateLeft (h : (b.turn .rotateLeft).Inside l) :
    (b.turn .rotateLeft).cell l = b.cell (l.2, b.width - 1 - l.1) := by
  obtain ⟨k, hk, rfl⟩ := exists_place_of_inside h
  rw [(b.carries_turn .rotateLeft).cell hk]
  simp [Symmetry.place]

end

/-! ## The grid operations -/

theorem slice_tuple (items : List Value) (n : Nat) :
    (Value.tuple items).slice (.int 0) (.int n) = .ok (.tuple (items.take n)) := by
  rw [← Table.slice_zero]
  rfl

theorem crop_toValue (b : Board Value) {rows columns : Nat} (some : 0 < rows) (some' : 0 < columns)
    (fits : rows ≤ b.height ∧ columns ≤ b.width) :
    Grid.crop b.toValue (.location 0 0) (.location rows columns) = .ok (b.corner some some' fits).toValue := by
  refine (Value.crop_ofRows b.rows (0, 0) (rows, columns)).trans ?_
  simp only [Int.zero_add, Table.slice_zero]
  rfl

theorem topHalf_toValue (b : Board Value) {rows : Nat} (pos : 0 < rows) (even : b.height = 2 * rows) :
    Grid.topHalf b.toValue = .ok (b.corner pos b.width_pos ⟨by omega, Nat.le_refl b.width⟩).toValue := by
  have half : b.height / 2 = rows := by omega
  have fits : rows ≤ b.height ∧ b.width ≤ b.width := ⟨by omega, Nat.le_refl b.width⟩
  have whole : (b.corner pos b.width_pos fits).rows = b.rows.take rows := by
    refine (List.map_congr_left fun row hrow => ?_).trans (List.map_id _)
    rw [List.take_of_length_le (Nat.le_of_eq (b.length_row row (List.mem_of_mem_take hrow))), id_eq]
  rw [Grid.topHalf, size_toValue, Outcome.ok_bind, half, toValue, Value.ofRows, slice_tuple, ← List.map_take,
    ← whole]
  rfl

theorem flatten_copies (b : Board Value) {count : Nat} (pos : 0 < count) :
    Container.flatten (.tuple (List.replicate count b.toValue)) = .ok (b.stack pos).toValue := by
  have parts : (List.replicate count b.toValue).mapM Value.items =
      .ok (List.replicate count (b.rows.map Value.tuple)) := by
    rw [mapM_eq_pure_map (g := fun _ => b.rows.map Value.tuple), List.map_replicate, Outcome.pure_eq_ok]
    intro v hv
    rw [List.eq_of_mem_replicate hv, items_toValue, Outcome.pure_eq_ok]
  have rows : (List.replicate count (b.rows.map Value.tuple)).flatten =
      (List.replicate count b.rows).flatten.map Value.tuple := by
    rw [List.map_flatten, List.map_replicate]
  rw [Container.flatten, Value.items, Outcome.ok_bind, parts, Outcome.ok_bind, rows]
  rfl

theorem rotateRight_toValue (b : Board Value) : Grid.rotateRight b.toValue = .ok (b.turn .rotateRight).toValue :=
  b.apply_toValue .rotateRight

theorem rotateLeft_toValue (b : Board Value) : Grid.rotateLeft b.toValue = .ok (b.turn .rotateLeft).toValue :=
  b.apply_toValue .rotateLeft

theorem width_toValue (b : Board Value) : Patch.width b.toValue = .ok b.width := by
  have pos : b.height ≠ 0 := Nat.pos_iff_ne_zero.mp b.height_pos
  have tuple : b.toValue.isTuple = true := rfl
  rcases b.exists_first_row with ⟨row, hrow, hwidth⟩
  simp [Patch.width, size_toValue, pos, tuple, hrow, hwidth]

/-! ## Copies side by side -/

/-- Copies of a board side by side: below each other, between two quarter turns. -/
def sideBySide (b : Board α) {count : Nat} (pos : 0 < count) : Board α :=
  ((b.turn .rotateRight).stack pos).turn .rotateLeft

section

variable {b : Board α} {count : Nat} {pos : 0 < count} {l : Location}

@[simp] theorem height_sideBySide : (b.sideBySide pos).height = b.height := by
  simp [sideBySide, Symmetry.newHeight, Symmetry.newWidth, Symmetry.swaps]

@[simp] theorem width_sideBySide : (b.sideBySide pos).width = count * b.width := by
  simp [sideBySide, Symmetry.newHeight, Symmetry.newWidth, Symmetry.swaps]

/-- The cells of the copies side by side, row by row. -/
theorem cell_sideBySide [Inhabited α] (h : (b.sideBySide pos).Inside l) :
    (b.sideBySide pos).cell l = b.cell (l.1, l.2 % b.width) := by
  have rows : (b.turn .rotateRight).height = b.width := height_turn_rotateRight
  have columns : (b.turn .rotateRight).width = b.height := width_turn_rotateRight
  have inside := h
  simp only [Inside, height_sideBySide, width_sideBySide] at inside
  have stacked : ((b.turn .rotateRight).stack pos).Inside (l.2, b.height - 1 - l.1) := by
    simp only [Inside, height_stack, width_stack, rows, columns]
    omega
  have turned : (b.turn .rotateRight).Inside (l.2 % b.width, b.height - 1 - l.1) := by
    have remainder := Int.emod_lt_of_pos l.2 (Int.natCast_pos.mpr b.width_pos)
    have nonneg := Int.emod_nonneg l.2 (Int.natCast_ne_zero.mpr (Nat.pos_iff_ne_zero.mp b.width_pos))
    simp only [Inside, rows, columns]
    omega
  rw [sideBySide, cell_turn_rotateLeft h, width_stack, columns, cell_stack stacked, rows,
    cell_turn_rotateRight turned]
  congr 1
  exact Prod.ext (by dsimp only; omega) rfl

end

/-- The left half of a board with an even number of columns. -/
theorem leftHalf_toValue (b : Board Value) {columns : Nat} (pos : 0 < columns) (even : b.width = 2 * columns) :
    Grid.leftHalf b.toValue =
      .ok (b.corner b.height_pos pos ⟨Nat.le_refl b.height, by omega⟩).toValue := by
  have rows : (b.turn .rotateRight).height = b.width := height_turn_rotateRight
  have width : (b.turn .rotateRight).width = b.height := width_turn_rotateRight
  rw [Grid.leftHalf, rotateRight_toValue, Outcome.ok_bind, topHalf_toValue _ pos (rows.trans even),
    Outcome.ok_bind, rotateLeft_toValue]
  congr 2
  refine ext_cell ?_ ?_ fun l inside => ?_
  · rw [height_turn, height_corner, width_corner, height_corner]
    exact width
  · rw [width_turn, height_corner, width_corner, width_corner]
    rfl
  · have place := inside
    simp only [Inside, height_turn, width_turn, height_corner, width_corner, Symmetry.newHeight, Symmetry.newWidth,
      Symmetry.swaps, if_true] at place
    have top : (b.turn .rotateRight).Inside (l.2, (b.turn .rotateRight).width - 1 - l.1) := by
      simp only [Inside, rows, width]
      omega
    have part : ((b.turn .rotateRight).corner pos (b.turn .rotateRight).width_pos
        ⟨by omega, Nat.le_refl _⟩).Inside (l.2, (b.turn .rotateRight).width - 1 - l.1) := by
      simp only [Inside, height_corner, width_corner, width]
      omega
    have left : (b.corner b.height_pos pos ⟨Nat.le_refl b.height, by omega⟩).Inside l := by
      simp only [Inside, height_corner, width_corner]
      omega
    rw [cell_turn_rotateLeft inside, width_corner, cell_corner part, cell_turn_rotateRight top, cell_corner left,
      width]
    congr 1
    exact Prod.ext (by dsimp only; omega) rfl

/-! ## The program -/

/-- The copies of `p` columns side by side, one more than fit, are wide enough. -/
theorem width_le_copies {n p : Nat} (pos : 0 < p) : n ≤ (n / p + 1) * p := by
  rw [Nat.mul_comm]
  exact Nat.le_of_lt (Nat.lt_mul_div_succ n pos)

/-- The first `p` columns of a board, repeated up to twice its width. -/
def extension (b : Board α) {p : Nat} (pos : 0 < p) (fits : p ≤ b.width) : Board α :=
  ((b.corner b.height_pos pos ⟨Nat.le_refl b.height, fits⟩).sideBySide
    (Nat.add_one_pos (2 * b.width / p))).corner
      b.height_pos (Nat.mul_pos Nat.two_pos b.width_pos)
      ⟨by rw [height_sideBySide, height_corner], by
        rw [width_sideBySide, width_corner]
        exact width_le_copies pos⟩

section

variable {b : Board α} {p : Nat} {pos : 0 < p} {fits : p ≤ b.width} {l : Location}

@[simp] theorem height_extension : (b.extension pos fits).height = b.height :=
  height_corner ..

@[simp] theorem width_extension : (b.extension pos fits).width = 2 * b.width :=
  rfl

/-- A location of the first `p` columns, by the remainder of the column. -/
theorem inside_remainder (pos : 0 < p) (fits : p ≤ b.width) (row : 0 ≤ l.1 ∧ l.1 < b.height) :
    b.Inside (l.1, l.2 % p) := by
  have nonneg := Int.emod_nonneg l.2 (Int.natCast_ne_zero.mpr (Nat.pos_iff_ne_zero.mp pos))
  have below := Int.emod_lt_of_pos l.2 (Int.natCast_pos.mpr pos)
  refine ⟨row, nonneg, ?_⟩
  dsimp only
  omega

theorem cell_extension [Inhabited α] (h : (b.extension pos fits).Inside l) :
    (b.extension pos fits).cell l = b.cell (l.1, l.2 % p) := by
  have place := h
  simp only [Inside, height_extension, width_extension] at place
  have inside : ((b.corner b.height_pos pos ⟨Nat.le_refl b.height, fits⟩).sideBySide
      (Nat.add_one_pos (2 * b.width / p))).Inside l := by
    have wide := width_le_copies (n := 2 * b.width) pos
    simp only [Inside, height_sideBySide, width_sideBySide, height_corner, width_corner]
    omega
  rw [extension, cell_corner h, cell_sideBySide inside, width_corner, cell_corner]
  refine inside_remainder pos (Nat.le_refl p) ?_
  rw [height_corner]
  exact place.1

theorem map_extension {β : Type} [Inhabited α] [Inhabited β] {f : α → β} (fits : p ≤ b.width)
    {fits' : p ≤ (b.map f).width} :
    (b.map f).extension pos fits' = (b.extension pos fits).map f := by
  refine ext_cell ?_ rfl fun l inside => ?_
  · rw [height_extension, height_map, height_map, height_extension]
  · have place := inside
    simp only [Inside, height_extension, width_extension, height_map, width_map] at place
    have inside' : (b.extension pos fits).Inside l := by
      simp only [Inside, height_extension, width_extension]
      exact place
    rw [cell_extension inside, cell_map inside', cell_extension inside', cell_map]
    exact inside_remainder pos fits place.1

end

theorem program_extension : Task.program? "963e52fc" = some Task.task963e52fc := by
  decide +kernel

open Eval in
theorem run_extension (b : Board Value) {object : Value} {p : Nat} (hobject : Grid.gridObject b.toValue = .ok object)
    (hp : Patch.columnPeriod object = .ok (.int p)) (pos : 0 < p) (fits : p ≤ b.width) :
    Task.task963e52fc.run b.toValue = .ok (b.extension pos fits).toValue := by
  rcases b.exists_gridObject with ⟨object', hobject', figure⟩
  obtain rfl : object = object' := Except.ok.inj (hobject.symm.trans hobject')
  have height : Patch.height object = .ok b.height := by
    rw [figure.height b.bounds_box]
    simp only [box]
    congr 1
    omega
  have corner : Patch.upperLeft object = .ok (.location 0 0) := figure.isPatch.upperLeft b.bounds_box
  have copies (v : Value) : Container.replicate v (.int (2 * b.width / p + 1 : Nat)) =
      .ok (.tuple (List.replicate (2 * b.width / p + 1) v)) := rfl
  let first := b.corner b.height_pos pos ⟨Nat.le_refl b.height, fits⟩
  let stacked := (first.turn .rotateRight).stack (Nat.add_one_pos (2 * b.width / p))
  refine Program.run_eq_ok (t := 0) ?_
  refine Program.gives_cons (v := .int b.width) (t := 0) (gives_call rfl (gives_measure b.width_toValue 0)) ?_
  refine Program.gives_cons (v := object) (t := 0) (gives_call rfl (gives_lift hobject 0)) ?_
  refine Program.gives_cons (v := .int p) (t := 0) (gives_call rfl (gives_lift hp 0)) ?_
  refine Program.gives_cons (v := .int b.height) (t := 0) (gives_call rfl (gives_measure height 0)) ?_
  refine Program.gives_cons (v := .location b.height p) (t := 0) (gives_call rfl (gives_lift rfl 0)) ?_
  refine Program.gives_cons (v := .location 0 0) (t := 0) (gives_call rfl (gives_lift corner 0)) ?_
  simp only [List.nil_append, List.cons_append]
  refine Program.gives_cons (v := first.toValue) (t := 0)
    (gives_call rfl (gives_lift (b.crop_toValue _ _ _) 0)) ?_
  refine Program.gives_cons (v := (first.turn .rotateRight).toValue) (t := 0)
    (gives_call rfl (gives_lift first.rotateRight_toValue 0)) ?_
  refine Program.gives_cons (v := .int (2 * b.width : Nat)) (t := 0)
    (gives_call rfl (gives_lift (Number.double_natCast _) 0)) ?_
  refine Program.gives_cons (v := .int (2 * b.width / p : Nat)) (t := 0)
    (gives_call rfl (gives_lift (Number.divide_natCast _ pos) 0)) ?_
  refine Program.gives_cons (v := .int (2 * b.width / p + 1 : Nat)) (t := 0) (gives_call rfl (gives_lift rfl 0)) ?_
  simp only [List.nil_append, List.cons_append]
  refine Program.gives_cons (v := .tuple (List.replicate (2 * b.width / p + 1) (first.turn .rotateRight).toValue))
    (t := 0) (gives_call rfl (gives_lift (copies _) 0)) ?_
  refine Program.gives_cons (v := stacked.toValue) (t := 0)
    (gives_call rfl (gives_lift ((first.turn .rotateRight).flatten_copies _) 0)) ?_
  refine Program.gives_cons (v := (stacked.turn .rotateLeft).toValue) (t := 0)
    (gives_call rfl (gives_lift stacked.rotateLeft_toValue 0)) ?_
  refine Program.gives_cons (v := .location b.height (2 * b.width : Nat)) (t := 0)
    (gives_call rfl (gives_lift rfl 0)) ?_
  simp only [List.nil_append, List.cons_append]
  refine Program.gives_cons (v := (b.extension pos fits).toValue) (t := 0)
    (gives_call rfl (gives_lift (crop_toValue _ _ _ _) 0)) ?_
  exact Program.gives_nil rfl 0

/-- If the columns of a board repeat after `p` of them, the extension begins with the board. -/
theorem leftHalf_extension {g : Board Int} {p : Nat} (pos : 0 < p) (fits : p ≤ g.width)
    (periodic : ∀ l, g.Inside l → g.cell l = g.cell (l.1, l.2 % p)) :
    Grid.leftHalf (g.extension pos fits).grid = .ok g.grid := by
  rw [grid, leftHalf_toValue _ g.width_pos rfl, grid]
  congr 2
  refine ext_cell ?_ rfl fun l inside => ?_
  · rw [height_corner, height_map, height_map, height_extension]
  · have place := inside
    simp only [Inside, height_corner, width_corner, height_map, height_extension] at place
    have wide : (g.extension pos fits).Inside l := by
      simp only [Inside, height_extension, width_extension]
      omega
    rw [cell_corner inside, cell_map wide, cell_extension wide, cell_map place, periodic l place]

/-- **The program of task `963e52fc` repeats the pattern of a grid up to twice its width.** The period of the
object of a grid is a number of columns of the grid. The result has the rows of the grid and twice its columns,
and its cells are those of the grid whose columns are the remainders by the period. Its left half is the grid. -/
theorem repeats_pattern_up_to_twice_the_width (g : Board Int) :
    ∃ (object : Value) (p : Int) (out : Board Int), Grid.gridObject g.grid = .ok object ∧
      Patch.columnPeriod object = .ok (.int p) ∧ (1 ≤ p ∧ p ≤ g.width) ∧
      Task.solve "963e52fc" g.grid = .ok out.grid ∧ out.height = g.height ∧ out.width = 2 * g.width ∧
      (∀ l, out.Inside l → out.cell l = g.cell (l.1, l.2 % p)) ∧ Grid.leftHalf out.grid = .ok g.grid := by
  rcases (g.map Value.int).exists_columnPeriod with ⟨object, p, hobject, hp, ⟨⟨pos, periodic⟩, -⟩, fits⟩
  rcases Int.eq_ofNat_of_zero_le (Int.le_trans Int.one_nonneg pos) with ⟨n, rfl⟩
  have pos' : 0 < n := Int.ofNat_lt.mp pos
  replace fits : n ≤ (g.map Value.int).width := Int.ofNat_le.mp fits
  have fits' : n ≤ g.width := fits
  have run := run_extension (g.map Value.int) hobject hp pos' fits
  rw [map_extension fits'] at run
  refine ⟨object, n, g.extension pos' fits', hobject, hp, ⟨pos, Int.ofNat_le.mpr fits'⟩, ?_, height_extension, rfl,
    fun l => cell_extension, ?_⟩
  · rw [Task.solve_eq_run program_extension]
    exact run
  · refine leftHalf_extension pos' fits' fun l inside => ?_
    have equal := periodic l (inside_map.mpr inside)
    rw [cell_map inside, cell_map (inside_remainder pos' fits' inside.1), Value.int_beq_int,
      decide_eq_true_iff] at equal
    exact equal

end Board

end GridPuzzle
