import GridPuzzle.Proofs.JoinedGrid

/-!
# Tiled grids

Copies of a board joined side by side and above each other show the board again and again: a cell is found by the
remainders of its row and its column (`Board.Tiles`). What is joined from two tilings is a tiling.

The program of task `007bbfb7` compares nine copies of a grid with the grid enlarged threefold, cell by cell.
-/

namespace GridPuzzle

open Eval

namespace Board

section

variable {α : Type} [Inhabited α] {g a b : Board α} {m m' n n' : Nat}

/-- The board is made of copies of another one, `m` above each other and `n` side by side. -/
structure Tiles (g : Board α) (m n : Nat) (c : Board α) : Prop where
  height : c.height = m * g.height
  width : c.width = n * g.width
  cell : ∀ l, c.Inside l → c.cell l = g.cell (l.1 % g.height, l.2 % g.width)

omit [Inhabited α] in
theorem inside_remainders (g : Board α) (l : Location) : g.Inside (l.1 % g.height, l.2 % g.width) := by
  have height_pos : 0 < (g.height : Int) := Int.natCast_pos.mpr g.height_pos
  have width_pos : 0 < (g.width : Int) := Int.natCast_pos.mpr g.width_pos
  exact ⟨⟨Int.emod_nonneg _ height_pos.ne', Int.emod_lt_of_pos _ height_pos⟩,
    Int.emod_nonneg _ width_pos.ne', Int.emod_lt_of_pos _ width_pos⟩

theorem tiles_self (g : Board α) : g.Tiles 1 1 g where
  height := (Nat.one_mul _).symm
  width := (Nat.one_mul _).symm
  cell l inside := by
    rw [Int.emod_eq_of_lt inside.1.1 inside.1.2, Int.emod_eq_of_lt inside.2.1 inside.2.2]

theorem Tiles.beside (h : g.Tiles m n a) (h' : g.Tiles m n' b) : g.Tiles m (n + n') (a.beside b) := by
  have height_eq := height_beside (h'.height.trans h.height.symm)
  refine ⟨height_eq.trans h.height, ?_, fun l inside => ?_⟩
  · rw [width_beside, h.width, h'.width, Nat.add_mul]
  · have place := inside
    rw [Inside, height_eq, width_beside] at place
    rw [cell_beside inside]
    by_cases left : l.2 < a.width
    · rw [if_pos left, h.cell l ⟨place.1, place.2.1, left⟩]
    · have inside' : b.Inside (l.1, l.2 - a.width) := by
        rw [Inside, h'.height, ← h.height]
        dsimp only
        omega
      rw [if_neg left, h'.cell _ inside', h.width, Int.natCast_mul, Int.sub_mul_emod_self_right]

theorem Tiles.above (h : g.Tiles m n a) (h' : g.Tiles m' n b) (fits : b.width = a.width) :
    g.Tiles (m + m') n (a.above b fits) := by
  refine ⟨?_, h.width, fun l inside => ?_⟩
  · rw [height_above, h.height, h'.height, Nat.add_mul]
  · have place := inside
    rw [Inside, height_above, width_above] at place
    rw [cell_above inside]
    by_cases upper : l.1 < a.height
    · rw [if_pos upper, h.cell l ⟨⟨place.1.1, upper⟩, place.2⟩]
    · have inside' : b.Inside (l.1 - a.height, l.2) := by
        rw [Inside, fits]
        dsimp only
        omega
      rw [if_neg upper, h'.cell _ inside', h.height, Int.natCast_mul, Int.sub_mul_emod_self_right]

end

/-! ## Cells in which two boards agree -/

theorem agreeing_toValue {a b : Board Value} (height_eq : b.height = a.height) (width_eq : b.width = a.width)
    (fallback : Value) :
    Grid.agreeing a.toValue b.toValue fallback =
      .ok (a.redraw fun l => if a.cell l == b.cell l then a.cell l else fallback).toValue := by
  let f (i j : Nat) : Value := if a.cell (i, j) == b.cell (i, j) then a.cell (i, j) else fallback
  rw [Grid.agreeing, dimensions_toValue, Outcome.ok_bind]
  dsimp only
  rw [mapM_eq_pure_map (g := fun i => (List.range a.width).map (f i)), Outcome.pure_eq_ok, Outcome.ok_bind]
  · rfl
  · intro i hi
    refine mapM_eq_pure_map fun j hj => ?_
    have inside : a.Inside (i, j) := inside_natCast (List.mem_range.mp hi) (List.mem_range.mp hj)
    have inside' : b.Inside (i, j) := by rwa [Inside, height_eq, width_eq]
    rw [cell_toValue inside, Outcome.ok_bind, cell_toValue inside', Outcome.ok_bind]

/-! ## The program -/

theorem program_selfTiling : Task.program? "007bbfb7" = some Task.task007bbfb7 := by
  decide +kernel

/-- The enlarged board where it agrees with nine copies of the board. -/
theorem exists_run_selfTiling (b : Board Value) :
    ∃ enlarged tiled : Board Value, b.Samples (Location.quotient 3) enlarged ∧ b.Tiles 3 3 tiled ∧
      enlarged.height = tiled.height ∧ enlarged.width = tiled.width ∧
      Task.task007bbfb7.run b.toValue = .ok (enlarged.redraw fun l =>
        if enlarged.cell l == tiled.cell l then enlarged.cell l else .int 0).toValue := by
  have pos : 0 < 3 := Nat.succ_pos 2
  let enlarged := (b.widen pos).heighten pos
  let pair := b.beside b
  let row := pair.beside b
  let upper := row.above row rfl
  let tiled := upper.above row rfl
  have tiles : b.Tiles 3 3 tiled := by
    have inRow : b.Tiles 1 3 row := (b.tiles_self.beside b.tiles_self).beside b.tiles_self
    exact (inRow.above inRow rfl).above inRow rfl
  have height_eq : tiled.height = enlarged.height := by
    rw [tiles.height, height_heighten, height_widen, Nat.mul_comm]
  have width_eq : tiled.width = enlarged.width := by
    rw [tiles.width, width_heighten, width_widen, Nat.mul_comm]
  refine ⟨enlarged, tiled, samples_widen.trans samples_heighten, tiles, height_eq.symm, width_eq.symm, ?_⟩
  refine Program.run_eq_ok (t := 0) ?_
  refine Program.gives_cons (v := (b.widen pos).toValue) (t := 0)
    (gives_call rfl (gives_lift (b.stretchColumns_toValue pos) 0)) ?_
  refine Program.gives_cons (v := enlarged.toValue) (t := 0)
    (gives_call rfl (gives_lift ((b.widen pos).stretchRows_toValue pos) 0)) ?_
  refine Program.gives_cons (v := pair.toValue) (t := 0) (gives_call rfl (gives_lift (b.beside_toValue b) 0)) ?_
  refine Program.gives_cons (v := row.toValue) (t := 0) (gives_call rfl (gives_lift (pair.beside_toValue b) 0)) ?_
  refine Program.gives_cons (v := upper.toValue) (t := 0)
    (gives_call rfl (gives_lift (above_toValue (a := row) (b := row) rfl) 0)) ?_
  refine Program.gives_cons (v := tiled.toValue) (t := 0)
    (gives_call rfl (gives_lift (above_toValue (a := upper) (b := row) rfl) 0)) ?_
  refine Program.gives_cons (gives_call rfl (gives_lift (agreeing_toValue height_eq width_eq (.int 0)) 0)) ?_
  exact Program.gives_nil rfl 0

/-- **The program of task `007bbfb7` fills a grid with copies of itself.** The result is three times as high and as
wide. At each location a cell of the grid enlarged threefold is compared with a cell of nine copies of the grid. Where
they are equal, the result has this cell, and elsewhere a zero. -/
theorem fills_grid_with_copies_of_itself (g : Board Int) :
    ∃ out : Board Int, Task.solve "007bbfb7" g.grid = .ok out.grid ∧
      out.height = 3 * g.height ∧ out.width = 3 * g.width ∧
      ∀ i < 3 * g.height, ∀ j < 3 * g.width, out.cell ((i : Nat), (j : Nat)) =
        if g.cell ((i / 3 : Nat), (j / 3 : Nat)) = g.cell ((i % g.height : Nat), (j % g.width : Nat)) then
          g.cell ((i % g.height : Nat), (j % g.width : Nat))
        else 0 := by
  rcases (g.map Value.int).exists_run_selfTiling with ⟨enlarged, tiled, samples, tiles, height_eq, width_eq, run⟩
  have rows : enlarged.height = 3 * g.height := by rw [height_eq, tiles.height, height_map]
  have columns : enlarged.width = 3 * g.width := by rw [width_eq, tiles.width, width_map]
  let color (l : Location) : Int :=
    if g.cell (l.quotient 3) = g.cell (l.1 % g.height, l.2 % g.width) then
      g.cell (l.1 % g.height, l.2 % g.width)
    else 0
  have agreed {l : Location} (inside : enlarged.Inside l) :
      (if enlarged.cell l == tiled.cell l then enlarged.cell l else .int 0) = .int (color l) := by
    have place : g.Inside (l.quotient 3) := inside_map.mp ((samples.inside l).mp inside)
    have inside' : tiled.Inside l := by rwa [Inside, ← height_eq, ← width_eq]
    rw [samples.cell l inside, cell_map place, tiles.cell l inside', height_map, width_map,
      cell_map (g.inside_remainders l), Value.int_beq_int]
    by_cases same : g.cell (l.quotient 3) = g.cell (l.1 % g.height, l.2 % g.width)
    · simp [color, same]
    · simp [color, same]
  refine ⟨enlarged.redraw color, ?_, ?_, ?_, fun i hi j hj => ?_⟩
  · rw [Task.solve_eq_run program_selfTiling, grid, run, grid]
    congr 2
    refine ext_cell ?_ rfl fun l inside => ?_
    · rw [height_map, height_redraw, height_redraw]
    · have inside' := inside_redraw.mp inside
      rw [cell_redraw inside', agreed inside', cell_map (inside_redraw.mpr inside'), cell_redraw inside']
  · rw [height_redraw, rows]
  · rw [width_redraw, columns]
  · have inside : enlarged.Inside (i, j) := inside_natCast (rows ▸ hi) (columns ▸ hj)
    rw [cell_redraw inside]
    rfl

end Board

end GridPuzzle
