import GridPuzzle.Proofs.GridSplit

/-!
# Halves of grids

The halves of a grid are its two equal parts, by three ways to cut a grid: the upper and the lower half are slices of
the rows, the left and the right half are slices between two quarter turns, and splitting cuts out parts at equal
distances. All of them come down to `Table.share`, by which an odd row or column in the middle is left out
(`Value.topHalf_ofRows`, `Value.bottomHalf_ofRows`). Between the quarter turns the rows only stand in reverse order, so
the turns may be replaced by the exchange of rows and columns (`Board.rotateLeft_share`).

A half without rows differs from one without columns: a board of one column has no left half at all, but its two parts
side by side have rows.
-/

namespace GridPuzzle

namespace Table

variable {α : Type} (xs : List α)

theorem stride_two (length : Nat) : stride length 2 = length / 2 + length % 2 := by
  rw [stride]
  split <;> omega

theorem first_share_of_two : share 2 0 xs = xs.take (xs.length / 2) := by
  rw [share, Nat.zero_mul, List.drop_zero]

theorem second_share_of_two : share 2 1 xs = xs.drop (xs.length / 2 + xs.length % 2) := by
  rw [share, Nat.one_mul, stride_two]
  refine List.take_of_length_le ?_
  rw [List.length_drop]
  omega

/-- Each of two parts has half of the items, rounded down. -/
theorem extent_two {length i : Nat} (hi : i < 2) : extent length 2 i = length / 2 := by
  have whole := Nat.div_add_mod length 2
  have index : i * stride length 2 ≤ stride length 2 := by
    simpa using Nat.mul_le_mul_right (stride length 2) (Nat.le_of_lt_succ hi)
  rw [stride_two] at index
  rw [extent, stride_two]
  omega

/-- Rows as columns, twice. -/
theorem columns_columns {rows : List (List α)} {width : Nat} (some : rows ≠ []) (pos : 0 < width)
    (h : ∀ row ∈ rows, row.length = width) : columns (columns rows) = rows := by
  have whole := columns_window some pos h 0 rows.length
  rw [List.drop_zero, List.take_length] at whole
  refine Eq.trans ?_ whole
  congr 1
  refine ((List.map_congr_left fun column hcolumn => ?_).trans (List.map_id _)).symm
  rw [List.drop_zero, ← length_of_mem_columns hcolumn, List.take_length, id_eq]

end Table

namespace Value

theorem topHalf_ofRows (rows : List (List Value)) :
    Grid.topHalf (ofRows rows) = .ok (ofRows (Table.share 2 0 rows)) := by
  have size : (ofRows rows).size = .ok rows.length := by simp [Value.size, ofRows, items]
  rw [Grid.topHalf, size, Outcome.ok_bind, ofRows, Board.slice_tuple, ← List.map_take, Table.first_share_of_two]
  rfl

theorem bottomHalf_ofRows (rows : List (List Value)) :
    Grid.bottomHalf (ofRows rows) = .ok (ofRows (Table.share 2 1 rows)) := by
  have size : (ofRows rows).size = .ok rows.length := by simp [Value.size, ofRows, items]
  have slice (m n : Nat) : (ofRows rows).slice (.int m) (.int n) =
      .ok (.tuple (Table.slice (rows.map Value.tuple) m n)) := rfl
  have whole : rows.map Value.tuple = (rows.map Value.tuple).take rows.length := by
    rw [List.take_of_length_le (by rw [List.length_map])]
  rw [Grid.bottomHalf, size, Outcome.ok_bind, slice, Table.slice_eq, Table.place_natCast, Table.place_natCast,
    Int.toNat_natCast, Int.toNat_natCast, ← whole, ← List.map_drop, Table.second_share_of_two]
  rfl

end Value

namespace Board

open Value

/-- A quarter turn back of a table whose rows are reversed exchanges rows and columns. -/
theorem rotateLeft_map_reverse {rows : List (List Value)} {width : Nat} (pos : 0 < width)
    (h : ∀ row ∈ rows, row.length = width) :
    Grid.rotateLeft (ofRows (rows.map List.reverse)) = .ok (ofRows (Table.columns rows)) := by
  cases rows with
  | nil => rfl
  | cons row rest =>
      let b : Board Value := ⟨row :: rest, width, List.cons_ne_nil _ _, pos, h⟩
      have turned := (b.turn (.flip .columns)).rotateLeft_toValue
      rw [turn_turn] at turned
      exact turned

/-- A quarter turn exchanges rows and columns and reverses the new rows. -/
theorem rotateRight_eq_map_reverse (b : Board Value) :
    Grid.rotateRight b.toValue = .ok (ofRows ((Table.columns b.rows).map List.reverse)) := by
  have turned : (b.turn (.flip .diagonal)).turn (.flip .columns) = b.turn .rotateRight := b.turn_turn _ _
  rw [rotateRight_toValue, ← turned]
  rfl

/-- One of two parts between two quarter turns is one between two exchanges of rows and columns. -/
theorem rotateLeft_share (b : Board Value) (i : Nat) :
    Grid.rotateLeft (ofRows (Table.share 2 i ((Table.columns b.rows).map List.reverse))) =
      .ok (ofRows (Table.columns (Table.share 2 i (Table.columns b.rows)))) := by
  rw [Table.share_map]
  exact rotateLeft_map_reverse b.height_pos fun column hcolumn =>
    Table.length_of_mem_columns (Table.mem_of_mem_share hcolumn)

theorem leftHalf_eq_share (b : Board Value) :
    Grid.leftHalf b.toValue = .ok (ofRows (Table.columns (Table.share 2 0 (Table.columns b.rows)))) := by
  rw [Grid.leftHalf, rotateRight_eq_map_reverse, Outcome.ok_bind, topHalf_ofRows, Outcome.ok_bind, rotateLeft_share]

theorem rightHalf_eq_share (b : Board Value) :
    Grid.rightHalf b.toValue = .ok (ofRows (Table.columns (Table.share 2 1 (Table.columns b.rows)))) := by
  rw [Grid.rightHalf, rotateRight_eq_map_reverse, Outcome.ok_bind, bottomHalf_ofRows, Outcome.ok_bind, rotateLeft_share]

/-- One of two parts of the columns, of which there are at least two. -/
theorem columns_share_columns (b : Board Value) (two : 2 ≤ b.width) {i : Nat} (hi : i < 2) :
    Table.columns (Table.share 2 i (Table.columns b.rows)) = b.rows.map (Table.share 2 i) := by
  have back : Table.columns (Table.columns b.rows) = b.rows :=
    Table.columns_columns b.rows_ne_nil b.width_pos b.length_row
  have part := Table.columns_share b.transpose.rows_ne_nil b.height_pos b.transpose.length_row 2 i
  rw [transpose, back] at part
  have width : ∀ row ∈ b.rows.map (Table.share 2 i), row.length = b.width / 2 := by
    intro row hrow
    rcases List.mem_map.mp hrow with ⟨old, hold, rfl⟩
    rw [Table.length_share, b.length_row old hold, Table.extent_two hi]
  rw [← part]
  exact Table.columns_columns (by simpa using b.rows_ne_nil) (Nat.div_pos two Nat.two_pos) width

/-- The parts side by side always have rows, but a board of one column has no left half. -/
theorem columns_share_columns_ne (b : Board Value) (one : ¬ 2 ≤ b.width) :
    Table.columns (Table.share 2 0 (Table.columns b.rows)) ≠ b.rows.map (Table.share 2 0) := by
  have length : (Table.columns b.rows).length = b.width := Table.length_columns b.rows_ne_nil b.length_row
  have none : Table.share 2 0 (Table.columns b.rows) = [] := by
    rw [Table.first_share_of_two, length, Nat.div_eq_of_lt (Nat.not_le.mp one), List.take_zero]
  rw [none]
  intro same
  exact b.rows_ne_nil (List.map_eq_nil_iff.mp same.symm)

/-- **The halves of a grid are its two equal parts.** The upper and the lower half are the parts of the rows, without
an odd row in the middle. The left and the right half are the upper and the lower half with rows and columns exchanged
before and after the cut. They are the two parts side by side exactly if the board has at least two columns. -/
theorem halves_are_two_parts (g : Board Value) :
    ∃ top bottom left right : Value,
      (Grid.topHalf g.toValue = .ok top ∧ Grid.bottomHalf g.toValue = .ok bottom ∧
        Grid.leftHalf g.toValue = .ok left ∧ Grid.rightHalf g.toValue = .ok right) ∧
      top = ofRows (g.rows.take (g.height / 2)) ∧ bottom = ofRows (g.rows.drop (g.height / 2 + g.height % 2)) ∧
      Grid.splitRows g.toValue (.int 2) = .ok (.tuple [top, bottom]) ∧
      (do Grid.transpose (← Grid.topHalf (← Grid.transpose g.toValue))) = .ok left ∧
      (do Grid.transpose (← Grid.bottomHalf (← Grid.transpose g.toValue))) = .ok right ∧
      (Grid.splitColumns g.toValue (.int 2) = .ok (.tuple [left, right]) ↔ 2 ≤ g.width) := by
  refine ⟨_, _, _, _, ⟨topHalf_ofRows g.rows, bottomHalf_ofRows g.rows, g.leftHalf_eq_share, g.rightHalf_eq_share⟩,
    ?_, ?_, g.splitRows_toValue Nat.two_pos, ?_, ?_, ?_⟩
  · rw [Table.first_share_of_two, height]
  · rw [Table.second_share_of_two, height]
  · rw [toValue, transpose_ofRows, Outcome.ok_bind, topHalf_ofRows, Outcome.ok_bind, transpose_ofRows]
  · rw [toValue, transpose_ofRows, Outcome.ok_bind, bottomHalf_ofRows, Outcome.ok_bind, transpose_ofRows]
  · have parts : Grid.splitColumns g.toValue (.int 2) = .ok (.tuple
        [ofRows (g.rows.map (Table.share 2 0)), ofRows (g.rows.map (Table.share 2 1))]) :=
      g.splitColumns_toValue Nat.two_pos
    rw [parts]
    constructor
    · intro same
      by_contra one
      have first := (List.cons.inj (Value.tuple.inj (Except.ok.inj same))).1
      exact g.columns_share_columns_ne one (ofRows_injective first).symm
    · intro two
      rw [g.columns_share_columns two Nat.two_pos, g.columns_share_columns two Nat.one_lt_two]

end Board

end GridPuzzle
