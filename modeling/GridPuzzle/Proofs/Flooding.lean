import GridPuzzle.Proofs.Enclosure
import GridPuzzle.Proofs.Gravitation

/-!
# Flooding

One color flows into the cells of another: from side to side, through cells of the other color, starting
beside a cell of its own. `Board.LeadsTo` says that a cell is reached in this way.

The program of task `9edfc990` does not follow the flow. It measures the distance between each object of zeros
and all ones, and paints the objects at distance one. An object has no cell in common with the ones, so its
distance is one exactly if some cell of it lies beside a one (`touching_class_iff`), and every cell of the
object is then connected with that cell.
-/

namespace GridPuzzle

open Relation

namespace Board

variable {g : Board Int} {c d : Int} {k l : Location}

/-- A path of cells of the color `c`, from side to side, leads from the cell to one beside a cell of the
color `d`. -/
def LeadsTo (g : Board Int) (c d : Int) (l : Location) : Prop :=
  ∃ m k, ReflTransGen (g.SideStep c) l m ∧ g.HasColor d k ∧ m.distance k = 1

/-- The class of a cell touches the cells of another color exactly if the cell leads to one of them. -/
theorem touching_class_iff (differ : c ≠ d) (color : g.HasColor c k) :
    Touching (g.Connected true false false k) (g.HasColor d) ↔ g.LeadsTo c d k := by
  have clear : Clear (g.Connected true false false k) (g.HasColor d) := by
    intro l path other
    exact differ ((path.hasColor color).2.symm.trans other.2)
  constructor
  · intro touching
    obtain ⟨m, l, path, other, near⟩ := touching.1
    exact ⟨m, l, (connected_iff_path color.2).mp path, other, near⟩
  · intro leads
    obtain ⟨m, l, path, other, near⟩ := leads
    exact touching_of_mem clear ⟨m, l, (connected_iff_path color.2).mpr path, other, near⟩

/-- The test for being next to the cells of another color, on the object of a class. -/
theorem exists_call_isAdjacent {o others : Value} (differ : c ≠ d) (hothers : others.IsLocationSet (g.HasColor d))
    (some : ∃ l, g.HasColor d l) (color : g.HasColor c k)
    (ho : g.IsObject (g.Connected true false false k) o) (depth serial : Nat) :
    ∃ b, Value.call (depth + 1) (.bindLast serial 1 (.prim .isAdjacent) others) [o] = pure (.bool b) ∧
      (b = true ↔ g.LeadsTo c d k) := by
  obtain ⟨next, hnext, touching⟩ := ho.isPatch.exists_isAdjacent hothers.isPatch ⟨k, .refl⟩ some
  refine ⟨next, ?_, touching.trans (touching_class_iff differ color)⟩
  rw [call_bindLast, call_prim]
  exact test_ok hnext

/-! ## The program -/

theorem program_flood : Task.program? "9edfc990" = some Task.task9edfc990 := by
  decide +kernel

open Classical in
/-- The program of the task gives the board with ones in place of the zeros that lead to a one. -/
theorem run_flood (g : Board Int) (some : ∃ l, g.HasColor 1 l) :
    Task.task9edfc990.run g.grid =
      .ok (g.redraw fun l => if g.HasColor 0 l ∧ g.LeadsTo 0 1 l then 1 else g.cell l).grid := by
  obtain ⟨found, hobjects, hfound⟩ := g.exists_objects true false false
  obtain ⟨zeros, hselect, hzeros⟩ := exists_selectColor_objects hfound 0
  obtain ⟨ones, hplaces, hones⟩ := g.exists_locationsOf 1
  obtain ⟨merged, hfilter, hmerged⟩ := exists_filterFlatten_pieces hzeros
    fun k o color ho => exists_call_isAdjacent (by decide : (0 : Int) ≠ 1) hones some color ho 998 0
  obtain ⟨painted, hrecolor, hpainted⟩ := hmerged.isPatch.exists_recolor 1
  refine Program.run_eq_ok (t := 1) ?_
  refine Program.gives_cons (gives_call rfl (Eval.gives_lift hobjects 0)) ?_
  refine Program.gives_cons (gives_call rfl (Eval.gives_lift hselect 0)) ?_
  refine Program.gives_cons (gives_call rfl (Eval.gives_lift hplaces 0)) ?_
  refine Program.gives_cons (v := .bindLast 0 1 (.prim .isAdjacent) ones) (gives_call rfl rfl) ?_
  refine Program.gives_cons (v := merged) (t := 1) (gives_call rfl ?_) ?_
  · change (Function.filterFlatten (Value.call 999) zeros _).Gives 1 merged 1
    rw [hfilter]
    exact Eval.gives_pure 1 merged
  refine Program.gives_cons (gives_call rfl (Eval.gives_lift hrecolor 1)) ?_
  refine Program.gives_cons (gives_call rfl (Eval.gives_lift (paint_grid g hpainted) 1)) ?_
  exact Program.gives_nil rfl 1

/-- **The program of task `9edfc990` floods the zeros with the ones.** If there is a one, the result has the
dimensions of the input. A one stays a one; a zero becomes a one if a path of zeros, from side to side, leads
from it to a zero beside a one; and every other cell is kept. -/
theorem floods_zeros_with_ones (g : Board Int) (some : ∃ l, g.HasColor 1 l) :
    ∃ flooded : Board Int, Task.solve "9edfc990" g.grid = .ok flooded.grid ∧
      flooded.height = g.height ∧ flooded.width = g.width ∧
      ∀ l, g.Inside l →
        (g.cell l = 1 ∨ g.cell l = 0 ∧ g.LeadsTo 0 1 l → flooded.cell l = 1) ∧
        (¬ (g.cell l = 1 ∨ g.cell l = 0 ∧ g.LeadsTo 0 1 l) → flooded.cell l = g.cell l) := by
  classical
  refine ⟨g.redraw fun l => if g.HasColor 0 l ∧ g.LeadsTo 0 1 l then 1 else g.cell l, ?_, height_redraw g _,
    rfl, fun l hl => ⟨fun wet => ?_, fun dry => ?_⟩⟩
  · rw [Task.solve_eq_run program_flood, run_flood g some]
  · rw [cell_redraw hl]
    rcases wet with one | ⟨zero, leads⟩
    · rw [one, ite_self]
    · rw [if_pos ⟨⟨hl, zero⟩, leads⟩]
  · rw [cell_redraw hl, if_neg fun reached => dry (.inr ⟨reached.1.2, reached.2⟩)]

/-- A board with a one, zeros around a corner from it, and a zero behind a wall. -/
def walled : Board Int where
  rows := [[1, 0, 0, 5], [5, 5, 0, 0], [0, 5, 5, 5]]
  width := 4
  rows_ne_nil := List.cons_ne_nil _ _
  width_pos := by decide
  length_row := by decide

/-- The last zero has only the wall beside it. -/
theorem cell_beside_last_zero {l : Location} (inside : walled.Inside l) :
    Location.distance (2, 0) l = 1 → walled.cell l = 5 := by
  refine forall_inside (p := fun l => Location.distance (2, 0) l = 1 → walled.cell l = 5) ?_ inside
  decide

theorem floods_walled :
    walled.HasColor 1 (0, 0) ∧
    ∃ flooded : Board Int, Task.solve "9edfc990" walled.grid = .ok flooded.grid ∧
      flooded.cell (1, 2) = 1 ∧ flooded.cell (2, 0) = 0 := by
  have one : walled.HasColor 1 (0, 0) := ⟨by decide, by decide⟩
  obtain ⟨flooded, solved, -, -, cells⟩ := floods_zeros_with_ones walled ⟨(0, 0), one⟩
  refine ⟨one, flooded, solved, (cells (1, 2) (by decide)).1 (.inr ⟨by decide, ?_⟩),
    (cells (2, 0) (by decide)).2 ?_⟩
  · have first : walled.SideStep 0 (1, 2) (0, 2) := ⟨by decide, by decide, by decide⟩
    have second : walled.SideStep 0 (0, 2) (0, 1) := ⟨by decide, by decide, by decide⟩
    exact ⟨(0, 1), (0, 0), .tail (.single first) second, one, by decide⟩
  · intro wet
    rcases wet with cell | ⟨-, m, k, path, color, near⟩
    · exact absurd cell (by decide)
    · -- No step leads away from the zero, and no one lies beside it.
      obtain rfl : (2, 0) = m := by
        rcases path.cases_head with here | ⟨l, step, -⟩
        · exact here
        · have wall := cell_beside_last_zero step.right.1 step.beside
          rw [step.right.2] at wall
          exact absurd wall (by decide)
      have wall := cell_beside_last_zero color.1 near
      rw [color.2] at wall
      exact absurd wall (by decide)

end Board

end GridPuzzle
