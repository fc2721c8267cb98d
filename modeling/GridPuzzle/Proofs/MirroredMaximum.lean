import GridPuzzle.Proofs.ObjectSymmetry
import GridPuzzle.Proofs.ProgramRun

/-!
# The greater of a board and its mirror image

The program of task `b8825c91` takes, at each location, the greater cell of a square board and its mirror image. It does
so for one diagonal and then, with the result, for the other. Turning commutes with taking the greater cell
(`Board.turn_greater`). So a board that has been made symmetric in a mirror is not changed by that mirror
(`Board.turn_symmetrized`), and it stays symmetric while it is made symmetric in another one that commutes with it
(`Board.turn_symmetrized_of_comm`).
-/

namespace GridPuzzle

open Eval

/-! ## The function that takes the greater number of each pair -/

/-- The function that gives the greatest part of each item of a container. -/
def greatestParts (serial : Nat) : Value :=
  .bindFirst serial 1 (.prim .map) (.prim .maximum)

theorem maximum_pair (m n : Int) : Container.maximum (.pair (.int m) (.int n)) = .ok (.int (max m n)) := by
  have choice : Container.maximum (.pair (.int m) (.int n)) = if m < n then .ok (.int n) else .ok (.int m) := by
    by_cases less : m < n
    · simp [Container.maximum, Value.pair, Value.items, Value.best?, Value.bestFrom, Value.greatest, Value.lt, less]
    · simp [Container.maximum, Value.pair, Value.items, Value.best?, Value.bestFrom, Value.greatest, Value.lt, less]
  rw [choice]
  split
  next less => rw [max_eq_right less.le]
  next less => rw [max_eq_left (not_lt.mp less)]

theorem call_greatestParts {α : Type} (f g : α → Int) (xs : List α) (depth serial : Nat) :
    Value.call (depth + 2) (greatestParts serial) [.tuple (xs.map fun x => .pair (.int (f x)) (.int (g x)))] =
      pure (.tuple (xs.map fun x => .int (max (f x) (g x)))) := by
  rw [greatestParts, call_bindFirst, call_prim]
  refine map_tuple fun x _ => ?_
  rw [call_prim]
  exact lift_ok (maximum_pair _ _)

theorem zip_tuple {α : Type} (f g : α → Value) (xs : List α) :
    Container.zip (.tuple (xs.map f)) (.tuple (xs.map g)) = .ok (.tuple (xs.map fun x => .pair (f x) (g x))) := by
  have items (f : α → Value) : (Value.tuple (xs.map f)).items = .ok (xs.map f) := rfl
  rw [Container.zip, items, Outcome.ok_bind, items, Outcome.ok_bind, List.zipWith_map, List.zipWith_self]
  rfl

namespace Board

variable {a b g : Board Int} {l : Location} {e f : Flip}

/-! ## The greater cells of two boards -/

/-- The greater cell of two boards at each location. -/
def greater (a b : Board Int) : Board Int :=
  a.redraw fun l => max (a.cell l) (b.cell l)

theorem cell_greater (h : a.Inside l) : (a.greater b).cell l = max (a.cell l) (b.cell l) :=
  cell_redraw h

theorem greater_comm (height_eq : b.height = a.height) (width_eq : b.width = a.width) : a.greater b = b.greater a := by
  refine ext_cell ?_ width_eq.symm fun l hl => ?_
  · rw [greater, greater, height_redraw, height_redraw, height_eq]
  · have inside : a.Inside l := inside_redraw.mp hl
    have inside' : b.Inside l := by rwa [Inside, height_eq, width_eq]
    rw [cell_greater inside, cell_greater inside', max_comm]

/-- The greater cells of two turned boards are the greater cells of the boards, turned. -/
theorem turn_greater (height_eq : b.height = a.height) (width_eq : b.width = a.width) (s : Symmetry) :
    (a.greater b).turn s = (a.turn s).greater (b.turn s) := by
  have height_greater : (a.greater b).height = a.height := height_redraw a _
  have width_greater : (a.greater b).width = a.width := rfl
  symm
  apply eq_turn
  · rw [height_greater, width_greater, ← height_turn]
    exact height_redraw _ _
  · rw [height_greater, width_greater, ← width_turn]
    rfl
  · intro k hk
    have inside : a.Inside k := inside_redraw.mp hk
    have inside' : b.Inside k := by rwa [Inside, height_eq, width_eq]
    have carried := (b.carries_turn s).cell inside'
    rw [height_eq, width_eq] at carried
    rw [height_greater, width_greater, cell_greater ((a.carries_turn s).inside inside), (a.carries_turn s).cell inside,
      carried, cell_greater inside]

/-- The cells of two boards in pairs, row by row. -/
def pairs (a b : Board Int) : Value :=
  .tuple ((List.range a.height).map fun (i : Nat) => .tuple ((List.range a.width).map fun (j : Nat) =>
    .pair (.int (a.cell (i, j))) (.int (b.cell (i, j)))))

theorem zipMap_zip_grid (height_eq : b.height = a.height) (width_eq : b.width = a.width) (depth : Nat) :
    Function.zipMap (Value.call (depth + 1)) (.prim .zip) a.grid b.grid = pure (a.pairs b) := by
  rw [grid_eq_tuple, grid_eq_tuple, height_eq, width_eq]
  refine zipMap_tuple fun i _ => ?_
  rw [call_prim]
  exact lift_ok (zip_tuple _ _ _)

theorem map_greatestParts_pairs (a b : Board Int) (depth serial : Nat) :
    Function.map (Value.call (depth + 2)) (greatestParts serial) (a.pairs b) = pure (a.greater b).grid := by
  have rows : (a.greater b).grid = .tuple ((List.range a.height).map fun (i : Nat) =>
      .tuple ((List.range a.width).map fun (j : Nat) => .int (max (a.cell (i, j)) (b.cell (i, j))))) := by
    change Value.tuple ((((List.range a.height).map _).map _).map _) = _
    rw [List.map_map, List.map_map]
    simp only [Function.comp_def, List.map_map]
  rw [rows]
  exact map_tuple fun i _ => call_greatestParts _ _ _ depth serial

theorem replaceColor_grid (g : Board Int) (c d : Int) :
    Grid.replaceColor g.grid (.int c) (.int d) = .ok (g.map fun n => if n = c then d else n).grid := by
  rw [Grid.replaceColor, Grid.mapCells, rows_grid, Outcome.ok_bind, grid, toValue]
  simp only [map, List.map_map, Function.comp_def, Value.int_beq_int, decide_eq_true_eq, apply_ite Value.int,
    Outcome.pure_eq_ok]

/-! ## Square boards -/

theorem flip_mul_flip (f : Flip) : Symmetry.flip f * Symmetry.flip f = .identity :=
  (Symmetry.flip f).mul_inv_eq_identity

section

variable (square : b.height = b.width)
include square

/-- A mirror image has the cell from the mirrored location. -/
theorem cell_turn_flip (h : b.Inside l) (f : Flip) :
    (b.turn (.flip f)).cell l = b.cell ((Symmetry.flip f).place b.height b.width l) := by
  have inside : (b.turn (.flip f)).Inside l := by
    rwa [Inside, height_turn_of_square square, width_turn_of_square square]
  rcases exists_place_of_inside inside with ⟨k, hk, rfl⟩
  have back := (Symmetry.flip f).place_place b.height b.width (.flip f) k
  rw [← height_turn, ← width_turn, height_turn_of_square square, width_turn_of_square square, flip_mul_flip] at back
  rw [(b.carries_turn _).cell hk, back]
  rfl

end

/-- The greater cells of a board and its mirror image. -/
def symmetrized (b : Board Int) (f : Flip) : Board Int :=
  b.greater (b.turn (.flip f))

theorem height_symmetrized (b : Board Int) (f : Flip) : (b.symmetrized f).height = b.height :=
  height_redraw b _

theorem width_symmetrized (b : Board Int) (f : Flip) : (b.symmetrized f).width = b.width :=
  rfl

section

variable (square : b.height = b.width)
include square

theorem square_symmetrized (f : Flip) : (b.symmetrized f).height = (b.symmetrized f).width :=
  (height_symmetrized b f).trans square

theorem cell_symmetrized (h : b.Inside l) (f : Flip) :
    (b.symmetrized f).cell l = max (b.cell l) (b.cell ((Symmetry.flip f).place b.height b.width l)) := by
  rw [symmetrized, cell_greater h, cell_turn_flip square h]

theorem turn_symmetrized (f : Flip) : (b.symmetrized f).turn (.flip f) = b.symmetrized f := by
  have height_eq := height_turn_of_square square (.flip f)
  have width_eq := width_turn_of_square square (.flip f)
  have twice : (b.turn (.flip f)).turn (.flip f) = b := by
    rw [turn_turn, flip_mul_flip]
    rfl
  rw [symmetrized, turn_greater height_eq width_eq, twice, greater_comm height_eq.symm width_eq.symm]

/-- A board that is symmetric in one mirror stays so while it is made symmetric in another one that commutes with it. -/
theorem turn_symmetrized_of_comm (symmetric : b.turn (.flip f) = b)
    (comm : Symmetry.flip f * Symmetry.flip e = Symmetry.flip e * Symmetry.flip f) :
    (b.symmetrized e).turn (.flip f) = b.symmetrized e := by
  have height_eq := height_turn_of_square square (.flip e)
  have width_eq := width_turn_of_square square (.flip e)
  rw [symmetrized, turn_greater height_eq width_eq, turn_turn, comm, ← turn_turn, symmetric]

end

/-! ## The program -/

theorem program_symmetrizing : Task.program? "b8825c91" = some Task.taskb8825c91 := by
  decide +kernel

/-- One round of the program: the pairs of the cells of a board and its mirror image, and the greater of each pair. -/
theorem zipMap_zip_turn (square : b.height = b.width) (f : Flip) (depth : Nat) :
    Function.zipMap (Value.call (depth + 1)) (.prim .zip) b.grid (b.turn (.flip f)).grid =
      pure (b.pairs (b.turn (.flip f))) :=
  zipMap_zip_grid (height_turn_of_square square _) (width_turn_of_square square _) depth

theorem run_symmetrizing (g : Board Int) (square : g.height = g.width) :
    Task.taskb8825c91.run g.grid =
      .ok (((g.map fun n => if n = 4 then 0 else n).symmetrized .diagonal).symmetrized .antidiagonal).grid := by
  let first := g.map fun n => if n = 4 then 0 else n
  let second := first.symmetrized .diagonal
  let third := second.symmetrized .antidiagonal
  have square' : first.height = first.width := (height_map _ g).trans square
  have square'' : second.height = second.width := square_symmetrized square' .diagonal
  have last : Grid.antiTranspose third.grid = .ok third.grid := by
    have turned := third.apply_grid (.flip .antidiagonal)
    rwa [turn_symmetrized square''] at turned
  refine Program.run_eq_ok (t := 1) ?_
  refine Program.gives_cons (gives_call rfl (gives_lift (g.replaceColor_grid 4 0) 0)) ?_
  refine Program.gives_cons (gives_call rfl (gives_lift (first.apply_grid (.flip .diagonal)) 0)) ?_
  refine Program.gives_cons (v := first.pairs (first.turn (.flip .diagonal))) (t := 0) (gives_call rfl ?_) ?_
  · exact gives_of_eq_pure (zipMap_zip_turn square' .diagonal 998) 0
  refine Program.gives_cons (v := greatestParts 0) (t := 1) (gives_call rfl rfl) ?_
  refine Program.gives_cons (v := second.grid) (t := 1) (gives_call rfl ?_) ?_
  · exact gives_of_eq_pure (map_greatestParts_pairs _ _ 997 0) 1
  refine Program.gives_cons (gives_call rfl (gives_lift (second.apply_grid (.flip .antidiagonal)) 1)) ?_
  refine Program.gives_cons (v := second.pairs (second.turn (.flip .antidiagonal))) (t := 1) (gives_call rfl ?_) ?_
  · exact gives_of_eq_pure (zipMap_zip_turn square'' .antidiagonal 998) 1
  refine Program.gives_cons (v := third.grid) (t := 1) (gives_call rfl ?_) ?_
  · exact gives_of_eq_pure (map_greatestParts_pairs _ _ 997 0) 1
  refine Program.gives_cons (gives_call rfl (gives_lift last 1)) ?_
  exact Program.gives_nil rfl 1

/-- **The program of task `b8825c91` makes a square grid symmetric in both diagonals.** Let the fours be replaced by
zeros. Each cell of the result is then the greatest of four: the cell, its image in either diagonal, and its image in
both. So the result is its own image in either diagonal. -/
theorem makes_square_symmetric_by_greatest_cells (g : Board Int) (square : g.height = g.width) :
    ∃ fourless out : Board Int, Grid.replaceColor g.grid (.int 4) (.int 0) = .ok fourless.grid ∧
      (∀ l, g.Inside l → fourless.cell l = if g.cell l = 4 then 0 else g.cell l) ∧
      Task.solve "b8825c91" g.grid = .ok out.grid ∧ out.height = g.height ∧ out.width = g.width ∧
      (∀ i < g.height, ∀ j < g.width, out.cell ((i : Nat), (j : Nat)) =
        max (max (fourless.cell (i, j)) (fourless.cell (j, i)))
          (max (fourless.cell (g.height - 1 - j, g.height - 1 - i))
            (fourless.cell (g.height - 1 - i, g.height - 1 - j)))) ∧
      Grid.transpose out.grid = .ok out.grid ∧ Grid.antiTranspose out.grid = .ok out.grid := by
  let fourless := g.map fun n => if n = 4 then 0 else n
  let half := fourless.symmetrized .diagonal
  have square' : fourless.height = fourless.width := (height_map _ g).trans square
  have square'' : half.height = half.width := square_symmetrized square' .diagonal
  have height_eq : half.height = g.height := (height_symmetrized _ _).trans (height_map _ g)
  have width_eq : half.width = g.height := square.symm
  refine ⟨fourless, half.symmetrized .antidiagonal, g.replaceColor_grid 4 0, fun l hl => cell_map hl,
    (Task.solve_eq_run program_symmetrizing _).trans (g.run_symmetrizing square),
    (height_symmetrized _ _).trans height_eq, rfl, fun i hi j hj => ?_, ?_, ?_⟩
  · have inside : half.Inside (i, j) := inside_natCast (height_eq ▸ hi) hj
    have mirrored : half.Inside (g.height - 1 - j, g.height - 1 - i) := by
      simp only [Inside, height_eq, width_eq]
      omega
    rw [cell_symmetrized square'' inside]
    simp only [Symmetry.place, height_eq, width_eq]
    rw [cell_symmetrized square' (inside_redraw.mp inside), cell_symmetrized square' (inside_redraw.mp mirrored)]
    rfl
  · have turned := (half.symmetrized .antidiagonal).apply_grid (.flip .diagonal)
    rwa [turn_symmetrized_of_comm (e := .antidiagonal) square'' (turn_symmetrized square' .diagonal) rfl] at turned
  · have turned := (half.symmetrized .antidiagonal).apply_grid (.flip .antidiagonal)
    rwa [turn_symmetrized square''] at turned

/-- A square board with a four. -/
def tile : Board Int where
  rows := [[4, 1], [2, 5]]
  width := 2
  rows_ne_nil := List.cons_ne_nil _ _
  width_pos := Nat.two_pos
  length_row := by decide

theorem tile_made_symmetric :
    tile.height = tile.width ∧ ∃ out : Board Int, Task.solve "b8825c91" tile.grid = .ok out.grid ∧
      out.cell (0, 0) = 5 ∧ out.cell (0, 1) = 2 ∧ Grid.transpose out.grid = .ok out.grid := by
  have square : tile.height = tile.width := rfl
  rcases makes_square_symmetric_by_greatest_cells tile square with
    ⟨fourless, out, -, zeros, solved, -, -, greatest, symmetric, -⟩
  have cells : fourless.cell (0, 0) = 0 ∧ fourless.cell (0, 1) = 1 ∧ fourless.cell (1, 0) = 2 ∧
      fourless.cell (1, 1) = 5 :=
    ⟨zeros (0, 0) (by decide), zeros (0, 1) (by decide), zeros (1, 0) (by decide), zeros (1, 1) (by decide)⟩
  rcases cells with ⟨topLeft, topRight, bottomLeft, bottomRight⟩
  refine ⟨square, out, solved, ?_, ?_, symmetric⟩
  · have corner := greatest 0 Nat.two_pos 0 Nat.two_pos
    change out.cell (0, 0) = max (max (fourless.cell (0, 0)) (fourless.cell (0, 0)))
      (max (fourless.cell (1, 1)) (fourless.cell (1, 1))) at corner
    rw [corner, topLeft, bottomRight]
    rfl
  · have side := greatest 0 Nat.two_pos 1 Nat.one_lt_two
    change out.cell (0, 1) = max (max (fourless.cell (0, 1)) (fourless.cell (1, 0)))
      (max (fourless.cell (0, 1)) (fourless.cell (1, 0))) at side
    rw [side, topRight, bottomLeft]
    rfl

end Board

end GridPuzzle
