import GridPuzzle.Proofs.DistinctLine
import GridPuzzle.Proofs.GridSplit

/-!
# Joined grids

Two boards are joined side by side (`Board.beside`) or one above the other (`Board.above`). Turning a joined board turns
its parts and exchanges their order or the direction in which they are joined. All turns are put together from three,
and for each of these there is one law for each direction. Four boards may be joined in pairs in either direction
(`Board.above_beside_above`).

With these laws the programs of tasks `46442a0e` and `3af2c5a8` are seen to make grids that a quarter turn, or either
mirror, does not change.
-/

namespace GridPuzzle

open Eval

theorem Table.columns_cons {α : Type} (row : List α) {rows : List (List α)} (some : rows ≠ []) :
    columns (row :: rows) = List.zipWith (· :: ·) row (columns rows) := by
  rw [columns]
  exact some

/-- The columns of one table above another are joined place by place. -/
theorem Table.columns_append {α : Type} {rows rows' : List (List α)} (some : rows ≠ []) (some' : rows' ≠ []) :
    columns (rows ++ rows') = List.zipWith (· ++ ·) (columns rows) (columns rows') := by
  fun_induction columns rows with
  | case1 => exact absurd rfl some
  | case2 row =>
      rw [List.singleton_append, columns_cons row some', List.zipWith_map_left]
      rfl
  | case3 row rest ne ih =>
      have both : rest ++ rows' ≠ [] := List.append_ne_nil_of_left_ne_nil ne rows'
      -- Both sides zip three tables, the row with the columns of the upper and of the lower part.
      rw [List.cons_append, columns_cons row both, ih ne, List.zipWith_zipWith_left, List.zipWith_zipWith_right]
      rfl

namespace Board

section

variable {α : Type}

/-- Two boards side by side, as far down as both reach. -/
def beside (a b : Board α) : Board α where
  rows := List.zipWith (· ++ ·) a.rows b.rows
  width := a.width + b.width
  rows_ne_nil := by
    rw [← List.length_pos_iff, List.length_zipWith]
    exact Nat.lt_min.mpr ⟨a.height_pos, b.height_pos⟩
  width_pos := Nat.add_pos_left a.width_pos b.width
  length_row row hrow := by
    rw [← List.map_uncurry_zip_eq_zipWith] at hrow
    rcases List.mem_map.mp hrow with ⟨parts, mem, rfl⟩
    have members := List.of_mem_zip mem
    rw [Function.uncurry, List.length_append, a.length_row _ members.1, b.length_row _ members.2]

/-- One board above another of the same width. -/
def above (a b : Board α) (fits : b.width = a.width) : Board α where
  rows := a.rows ++ b.rows
  width := a.width
  rows_ne_nil empty := a.rows_ne_nil (List.append_eq_nil_iff.mp empty).1
  width_pos := a.width_pos
  length_row row hrow := by
    rcases List.mem_append.mp hrow with hrow | hrow
    · exact a.length_row row hrow
    · exact (b.length_row row hrow).trans fits

variable {a b c d : Board α} {l : Location}

theorem height_beside (fits : b.height = a.height) : (a.beside b).height = a.height := by
  rw [height, beside, List.length_zipWith]
  exact Nat.min_eq_left (Nat.le_of_eq fits.symm)

@[simp] theorem width_beside (a b : Board α) : (a.beside b).width = a.width + b.width :=
  rfl

@[simp] theorem height_above (fits : b.width = a.width) : (a.above b fits).height = a.height + b.height :=
  List.length_append

@[simp] theorem width_above (fits : b.width = a.width) : (a.above b fits).width = a.width :=
  rfl

/-! ## Turned parts -/

theorem flipRows_flipRows (b : Board α) : b.flipRows.flipRows = b :=
  ext_rows (List.reverse_reverse b.rows)

theorem flipColumns_flipColumns (b : Board α) : b.flipColumns.flipColumns = b := by
  apply ext_rows
  change (b.rows.map List.reverse).map List.reverse = b.rows
  simp

theorem flipColumns_flipRows (b : Board α) : b.flipRows.flipColumns = b.flipColumns.flipRows :=
  ext_rows List.map_reverse

theorem flipRows_above (fits : b.width = a.width) :
    (a.above b fits).flipRows = b.flipRows.above a.flipRows (by rw [width_flipRows, width_flipRows, fits]) :=
  ext_rows List.reverse_append

theorem flipColumns_above (fits : b.width = a.width) :
    (a.above b fits).flipColumns =
      a.flipColumns.above b.flipColumns (by rw [width_flipColumns, width_flipColumns, fits]) :=
  ext_rows List.map_append

theorem transpose_above (fits : b.width = a.width) :
    (a.above b fits).transpose = a.transpose.beside b.transpose :=
  ext_rows (Table.columns_append a.rows_ne_nil b.rows_ne_nil)

theorem flipRows_beside (fits : b.height = a.height) : (a.beside b).flipRows = a.flipRows.beside b.flipRows :=
  ext_rows (List.reverse_zipWith fits.symm)

theorem flipColumns_beside (a b : Board α) : (a.beside b).flipColumns = b.flipColumns.beside a.flipColumns := by
  apply ext_rows
  change (List.zipWith (· ++ ·) a.rows b.rows).map List.reverse =
    List.zipWith (· ++ ·) (b.rows.map List.reverse) (a.rows.map List.reverse)
  rw [List.map_zipWith, List.zipWith_map, List.zipWith_comm]
  simp only [List.reverse_append]

/-- Four boards joined in pairs: side by side and then above each other, or the other way round. -/
theorem above_beside_above (level : c.height = a.height) (fits : b.width = a.width) (fits' : d.width = c.width) :
    (a.above b fits).beside (c.above d fits') =
      (a.beside c).above (b.beside d) (by rw [width_beside, width_beside, fits, fits']) :=
  ext_rows (List.zipWith_append level.symm)

theorem rotateRight_above (fits : b.width = a.width) :
    (a.above b fits).turn .rotateRight = (b.turn .rotateRight).beside (a.turn .rotateRight) := by
  change (a.above b fits).flipRows.transpose = b.flipRows.transpose.beside a.flipRows.transpose
  rw [flipRows_above, transpose_above]

variable [Inhabited α]

theorem transpose_beside (fits : b.height = a.height) :
    (a.beside b).transpose = a.transpose.above b.transpose (by rw [width_transpose, width_transpose, fits]) := by
  have back := transpose_above (a := a.transpose) (b := b.transpose) (by rw [width_transpose, width_transpose, fits])
  rw [transpose_transpose, transpose_transpose] at back
  rw [← back, transpose_transpose]

theorem rotateRight_beside (fits : b.height = a.height) :
    (a.beside b).turn .rotateRight = (a.turn .rotateRight).above (b.turn .rotateRight)
      (by rw [width_turn_rotateRight, width_turn_rotateRight, fits]) := by
  change (a.beside b).flipRows.transpose = _
  rw [flipRows_beside fits, transpose_beside (by rw [height_flipRows, height_flipRows, fits])]
  rfl

/-! ## Cells -/

theorem cell_beside (h : (a.beside b).Inside l) :
    (a.beside b).cell l = if l.2 < a.width then a.cell l else b.cell (l.1, l.2 - a.width) := by
  rcases h.exists_natCast with ⟨i, j, hi, -, rfl⟩
  have both : i < a.rows.length ∧ i < b.rows.length := by
    rw [height, beside, List.length_zipWith] at hi
    exact Nat.lt_min.mp hi
  have row : (a.beside b).rows[i]? = some (a.rows[i] ++ b.rows[i]) := by simp [beside, both]
  have length : a.rows[i].length = a.width := a.length_row _ (List.getElem_mem both.1)
  by_cases left : j < a.width
  · have first : j < a.rows[i].length := length.symm ▸ left
    rw [if_pos (Int.ofNat_lt.mpr left)]
    simp only [cell, cell?, Int.toNat_natCast, row, Option.bind_some, List.getElem?_append_left first,
      List.getElem?_eq_getElem both.1]
  · have behind : a.rows[i].length ≤ j := length.symm ▸ Nat.not_lt.mp left
    have place : ((j : Int) - a.width).toNat = j - a.rows[i].length := by omega
    rw [if_neg fun h => left (Int.ofNat_lt.mp h)]
    simp only [cell, cell?, Int.toNat_natCast, row, Option.bind_some, List.getElem?_append_right behind, place,
      List.getElem?_eq_getElem both.2]

theorem cell_above {fits : b.width = a.width} (h : (a.above b fits).Inside l) :
    (a.above b fits).cell l = if l.1 < a.height then a.cell l else b.cell (l.1 - a.height, l.2) := by
  rcases h.exists_natCast with ⟨i, j, -, -, rfl⟩
  by_cases upper : i < a.height
  · rw [if_pos (Int.ofNat_lt.mpr upper)]
    simp only [cell, cell?, above, Int.toNat_natCast, List.getElem?_append_left upper]
  · have place : ((i : Int) - a.height).toNat = i - a.rows.length := by
      rw [height]
      omega
    rw [if_neg fun h => upper (Int.ofNat_lt.mp h)]
    simp only [cell, cell?, above, Int.toNat_natCast, place, List.getElem?_append_right (Nat.not_lt.mp upper)]

end

/-! ## The grid operations -/

theorem beside_toValue (a b : Board Value) : Grid.beside a.toValue b.toValue = .ok (a.beside b).toValue :=
  Grid.beside_ofRows a.rows b.rows

theorem above_toValue {a b : Board Value} (fits : b.width = a.width) :
    Grid.above a.toValue b.toValue = .ok (a.above b fits).toValue :=
  congrArg (fun items => Except.ok (Value.tuple items)) List.map_append.symm

theorem flipRows_toValue (b : Board Value) : Grid.flipRows b.toValue = .ok b.flipRows.toValue :=
  b.apply_toValue (.flip .rows)

theorem flipColumns_toValue (b : Board Value) : Grid.flipColumns b.toValue = .ok b.flipColumns.toValue :=
  b.apply_toValue (.flip .columns)

/-- The upper left one of the joined boards is cut out again. -/
theorem crop_joined {a b c : Board Value} (level : b.height = a.height) (fits : c.width = (a.beside b).width) :
    Grid.crop ((a.beside b).above c fits).toValue (.location 0 0) (.location a.height a.width) = .ok a.toValue := by
  have height_eq := height_beside level
  have within : a.height ≤ ((a.beside b).above c fits).height ∧ a.width ≤ ((a.beside b).above c fits).width := by
    rw [height_above, width_above, height_eq, width_beside]
    omega
  rw [crop_toValue _ a.height_pos a.width_pos within]
  congr 2
  refine ext_cell (height_corner ..) rfl fun l inside => ?_
  have place := inside
  rw [Inside, height_corner, width_corner] at place
  have upper : (a.beside b).Inside l := by
    rw [Inside, height_eq, width_beside]
    omega
  have joined : ((a.beside b).above c fits).Inside l := by
    rw [Inside, height_above, width_above, height_eq, width_beside]
    omega
  rw [cell_corner inside, cell_above joined, height_eq, if_pos place.1.2, cell_beside upper, if_pos place.2.2]

/-! ## Grids of turned parts -/

/-- The board and its three turned images around a common corner. -/
def pinwheel {α : Type} (b : Board α) : Board α :=
  (b.beside (b.turn .rotateRight)).above ((b.turn .rotateLeft).beside (b.turn .rotateHalf)) (by
    simp [Symmetry.newWidth, Symmetry.swaps, Nat.add_comm])

/-- The board and its image to the right, both with their images below them. -/
def unfolded {α : Type} (b : Board α) : Board α :=
  (b.beside b.flipColumns).above (b.beside b.flipColumns).flipRows (width_flipRows _)

/-- A quarter turn moves each of the four images to the place of the next one. -/
theorem rotateRight_pinwheel {α : Type} [Inhabited α] {b : Board α} (square : b.height = b.width) :
    b.pinwheel.turn .rotateRight = b.pinwheel := by
  have height_eq := height_turn_of_square square
  have level : (b.turn .rotateHalf).height = (b.turn .rotateLeft).height := by rw [height_eq, height_eq]
  have fromLeft : (b.turn .rotateLeft).turn .rotateRight = b := b.turn_turn _ _
  have fromHalf : (b.turn .rotateHalf).turn .rotateRight = b.turn .rotateLeft := b.turn_turn _ _
  have fromRight : (b.turn .rotateRight).turn .rotateRight = b.turn .rotateHalf := b.turn_turn _ _
  unfold pinwheel
  rw [rotateRight_above, rotateRight_beside (height_eq _), rotateRight_beside level]
  -- The turned pairs stand side by side now, each of them one above the other.
  simp only [fromLeft, fromHalf, fromRight]
  rw [above_beside_above (height_eq _)]

theorem flipRows_unfolded {α : Type} (b : Board α) : b.unfolded.flipRows = b.unfolded := by
  unfold unfolded
  rw [flipRows_above]
  simp only [flipRows_flipRows]

theorem flipColumns_unfolded {α : Type} (b : Board α) : b.unfolded.flipColumns = b.unfolded := by
  have wide : (b.beside b.flipColumns).flipColumns = b.beside b.flipColumns := by
    rw [flipColumns_beside, flipColumns_flipColumns]
  unfold unfolded
  rw [flipColumns_above]
  simp only [flipColumns_flipRows, wide]

/-! ## The programs -/

theorem program_pinwheel : Task.program? "46442a0e" = some Task.task46442a0e := by
  decide +kernel

theorem run_pinwheel (b : Board Value) : Task.task46442a0e.run b.toValue = .ok b.pinwheel.toValue := by
  refine Program.run_eq_ok (t := 0) ?_
  refine Program.gives_cons (gives_call rfl (gives_lift b.rotateRight_toValue 0)) ?_
  refine Program.gives_cons (gives_call rfl (gives_lift (b.apply_toValue .rotateHalf) 0)) ?_
  refine Program.gives_cons (gives_call rfl (gives_lift b.rotateLeft_toValue 0)) ?_
  refine Program.gives_cons (gives_call rfl (gives_lift (b.beside_toValue (b.turn .rotateRight)) 0)) ?_
  refine Program.gives_cons
    (gives_call rfl (gives_lift ((b.turn .rotateLeft).beside_toValue (b.turn .rotateHalf)) 0)) ?_
  refine Program.gives_cons (v := b.pinwheel.toValue) (t := 0) (gives_call rfl (gives_lift (above_toValue _) 0)) ?_
  exact Program.gives_nil rfl 0

theorem program_unfolding : Task.program? "3af2c5a8" = some Task.task3af2c5a8 := by
  decide +kernel

theorem run_unfolding (b : Board Value) : Task.task3af2c5a8.run b.toValue = .ok b.unfolded.toValue := by
  refine Program.run_eq_ok (t := 0) ?_
  refine Program.gives_cons (gives_call rfl (gives_lift b.flipColumns_toValue 0)) ?_
  refine Program.gives_cons (gives_call rfl (gives_lift (b.beside_toValue b.flipColumns) 0)) ?_
  refine Program.gives_cons (gives_call rfl (gives_lift (b.beside b.flipColumns).flipRows_toValue 0)) ?_
  refine Program.gives_cons (v := b.unfolded.toValue) (t := 0) (gives_call rfl (gives_lift (above_toValue _) 0)) ?_
  exact Program.gives_nil rfl 0

/-- **The programs of tasks `46442a0e` and `3af2c5a8` surround a grid by its images.** The result of the first one on a
square grid is twice as high and as wide and is not changed by a quarter turn. The result of the second one on any grid
is twice as high and as wide and is not changed by either mirror. Both have the grid itself as their upper left part. -/
theorem surrounds_grid_by_its_images (g : Board Value) :
    (g.height = g.width → ∃ out : Board Value, Task.solve "46442a0e" g.toValue = .ok out.toValue ∧
      out.height = 2 * g.height ∧ out.width = 2 * g.height ∧ Grid.rotateRight out.toValue = .ok out.toValue ∧
      Grid.crop out.toValue (.location 0 0) (.location g.height g.height) = .ok g.toValue) ∧
    ∃ out : Board Value, Task.solve "3af2c5a8" g.toValue = .ok out.toValue ∧
      out.height = 2 * g.height ∧ out.width = 2 * g.width ∧
      Grid.flipRows out.toValue = .ok out.toValue ∧ Grid.flipColumns out.toValue = .ok out.toValue ∧
      Grid.crop out.toValue (.location 0 0) (.location g.height g.width) = .ok g.toValue := by
  constructor
  · intro square
    have height_eq := height_turn_of_square square
    have width_eq := width_turn_of_square square
    have level : (g.turn .rotateHalf).height = (g.turn .rotateLeft).height := by rw [height_eq, height_eq]
    refine ⟨g.pinwheel, (Task.solve_eq_run program_pinwheel _).trans g.run_pinwheel, ?_, ?_, ?_, ?_⟩
    · rw [pinwheel, height_above, height_beside (height_eq _), height_beside level, height_eq, Nat.two_mul]
    · rw [pinwheel, width_above, width_beside, width_eq, ← square, Nat.two_mul]
    · rw [rotateRight_toValue, rotateRight_pinwheel square]
    · nth_rewrite 2 [square]
      exact crop_joined (height_eq _) _
  · have level : g.flipColumns.height = g.height := height_flipColumns g
    refine ⟨g.unfolded, (Task.solve_eq_run program_unfolding _).trans g.run_unfolding, ?_, ?_, ?_, ?_, ?_⟩
    · rw [unfolded, height_above, height_flipRows, height_beside level, Nat.two_mul]
    · rw [unfolded, width_above, width_beside, width_flipColumns, Nat.two_mul]
    · rw [flipRows_toValue, flipRows_unfolded]
    · rw [flipColumns_toValue, flipColumns_unfolded]
    · exact crop_joined level _

theorem quarters_surrounded_by_images :
    quarters.height = quarters.width ∧ ∃ out : Board Value, Task.solve "46442a0e" quarters.toValue = .ok out.toValue ∧
      out.toValue = .ofRows [[.int 0, .int 1, .int 2, .int 0], [.int 2, .int 3, .int 3, .int 1],
        [.int 1, .int 3, .int 3, .int 2], [.int 0, .int 2, .int 1, .int 0]] ∧
      Grid.rotateRight out.toValue = .ok out.toValue ∧
      Grid.crop out.toValue (.location 0 0) (.location 2 2) = .ok quarters.toValue := by
  have square : quarters.height = quarters.width := rfl
  rcases (surrounds_grid_by_its_images quarters).1 square with ⟨out, solved, -, -, turned, part⟩
  have drawn := solved.symm.trans ((Task.solve_eq_run program_pinwheel _).trans quarters.run_pinwheel)
  exact ⟨square, out, solved, Except.ok.inj drawn, turned, part⟩

end Board

end GridPuzzle
