import GridPuzzle.Task.Catalogue
import GridPuzzle.Proofs.ObjectFilter

/-!
# Enclosed regions

A cell is enclosed if no path of cells of its color, from side to side, leads from it to the border of the
board. The objects of one color that grow from side to side are the classes of such paths, and an object
touches the border exactly if a path from each of its cells leads there (`touchesBorder_grid`). So the
program of task `00d62c1b` fills what is enclosed.
-/

namespace GridPuzzle

open Relation

namespace Board

variable {g : Board Int} {P : Location → Prop}

/-! ## The border -/

/-- The location lies in the first or the last row, or in the first or the last column. -/
def OnBorder {α : Type} (b : Board α) (l : Location) : Prop :=
  b.Inside l ∧ (l.1 = 0 ∨ l.1 = b.height - 1 ∨ l.2 = 0 ∨ l.2 = b.width - 1)

theorem touchesBorder_of_extent {patch : Value} {top left bottom right : Int}
    (htop : Patch.topRow patch = .ok (.int top)) (hleft : Patch.leftColumn patch = .ok (.int left))
    (hbottom : Patch.bottomRow patch = .ok (.int bottom))
    (hright : Patch.rightColumn patch = .ok (.int right)) :
    Patch.touchesBorder patch g.grid = .ok (decide
      (top = 0 ∨ left = 0 ∨ bottom = g.height - 1 ∨ right = g.width - 1)) := by
  obtain ⟨row, hrow, hwidth⟩ := (g.map Value.int).exists_first_row
  change g.grid.nth 0 = _ at hrow
  -- Each comparison is made only when those before it have failed.
  by_cases h₁ : top = 0
  · simp [Patch.touchesBorder, htop, h₁]
  · by_cases h₂ : left = 0
    · simp [Patch.touchesBorder, htop, h₁, hleft, h₂]
    · by_cases h₃ : bottom = g.height - 1
      · simp [Patch.touchesBorder, htop, h₁, hleft, h₂, hbottom, h₃, size_grid]
      · simp [Patch.touchesBorder, htop, h₁, hleft, h₂, hbottom, h₃, size_grid, hright, hrow, hwidth]

/-- A patch on the board touches the border exactly if one of its locations lies there. -/
theorem touchesBorder_grid {patch : Value} (h : patch.IsPatch P) (some : ∃ l, P l)
    (inside : ∀ l, P l → g.Inside l) [Decidable (∃ l, P l ∧ g.OnBorder l)] :
    Patch.touchesBorder patch g.grid = .ok (decide (∃ l, P l ∧ g.OnBorder l)) := by
  obtain ⟨top, htop, ⟨topmost, hP₁, rfl⟩, top_le⟩ := h.topRow some
  obtain ⟨left, hleft, ⟨leftmost, hP₂, rfl⟩, left_le⟩ := h.leftColumn some
  obtain ⟨bottom, hbottom, ⟨lowest, hP₃, rfl⟩, le_bottom⟩ := h.bottomRow some
  obtain ⟨right, hright, ⟨rightmost, hP₄, rfl⟩, le_right⟩ := h.rightColumn some
  rw [touchesBorder_of_extent htop hleft hbottom hright]
  congr 1
  rw [decide_eq_decide]
  constructor
  · rintro (edge | edge | edge | edge)
    · exact ⟨topmost, hP₁, inside _ hP₁, .inl edge⟩
    · exact ⟨leftmost, hP₂, inside _ hP₂, .inr (.inr (.inl edge))⟩
    · exact ⟨lowest, hP₃, inside _ hP₃, .inr (.inl edge)⟩
    · exact ⟨rightmost, hP₄, inside _ hP₄, .inr (.inr (.inr edge))⟩
  · -- The outermost cell in a direction lies on the border if any cell does.
    rintro ⟨l, hl, -, edge⟩
    rcases edge with edge | edge | edge | edge
    · have := (inside _ hP₁).1.1
      have := top_le l hl
      omega
    · have := (inside _ hP₃).1.2
      have := le_bottom l hl
      omega
    · have := (inside _ hP₂).2.1
      have := left_le l hl
      omega
    · have := (inside _ hP₄).2.2
      have := le_right l hl
      omega

/-! ## Paths of one color -/

/-- The locations are those of two cells of a color that share a side. -/
structure SideStep (g : Board Int) (c : Int) (k l : Location) : Prop where
  left : g.Inside k ∧ g.cell k = c
  right : g.Inside l ∧ g.cell l = c
  beside : (k.1 - l.1).natAbs + (k.2 - l.2).natAbs = 1

/-- The cell has the color, and no path of cells of the color leads from it to the border. -/
def Enclosed (g : Board Int) (c : Int) (l : Location) : Prop :=
  g.Inside l ∧ g.cell l = c ∧ ¬ ∃ m, ReflTransGen (g.SideStep c) l m ∧ g.OnBorder m

theorem SideStep.link {c : Int} {k l : Location} {withoutBackground : Bool} (step : g.SideStep c k l)
    (foreground : withoutBackground = true → c ≠ g.background) : g.Link true false withoutBackground k l := by
  refine ⟨⟨step.left.1, fun h => step.left.2 ▸ foreground h⟩,
    ⟨step.right.1, fun h => step.right.2 ▸ foreground h⟩, ?_, fun _ => step.left.2.trans step.right.2.symm⟩
  rw [Location.isNear_iff, if_neg Bool.false_ne_true, Location.mem_beside_iff]
  exact step.beside

theorem link_iff_sideStep {c : Int} {k l : Location} (hk : g.cell k = c) :
    g.Link true false false k l ↔ g.SideStep c k l := by
  constructor
  · intro link
    have near := link.near
    rw [Location.isNear_iff, if_neg Bool.false_ne_true, Location.mem_beside_iff] at near
    exact ⟨⟨link.left.1, hk⟩, ⟨link.right.1, (link.same rfl).symm.trans hk⟩, near⟩
  · intro step
    exact step.link fun h => by cases h

/-- From a cell of a color, the paths of links are the paths of cells of the color. -/
theorem connected_iff_path {c : Int} {k l : Location} (hk : g.cell k = c) :
    g.Connected true false false k l ↔ ReflTransGen (g.SideStep c) k l := by
  constructor
  · intro h
    induction h with
    | refl => exact .refl
    | tail path link ih =>
        have color : g.cell _ = c := (Connected.cell_eq path rfl).symm.trans hk
        exact ih.tail ((link_iff_sideStep color).mp link)
  · intro h
    induction h with
    | refl => exact .refl
    | tail _ step ih => exact ih.tail ((link_iff_sideStep step.left.2).mpr step)

/-! ## Objects away from the border -/

/-- The condition that an object does not touch the border of the board, as a built function. -/
def awayFromBorder (g : Board Int) (serial serial' : Nat) : Value :=
  .compose serial' (.prim .not) (.bindLast serial 1 (.prim .touchesBorder) g.grid)

theorem call_awayFromBorder {o : Value} {touches : Bool} (depth serial serial' : Nat)
    (h : Patch.touchesBorder o g.grid = .ok touches) :
    Value.call (depth + 1) (g.awayFromBorder serial serial') [o] = pure (.bool (!touches)) := by
  have inner : Value.call (depth + 1) (.prim .touchesBorder) [o, g.grid] = pure (.bool touches) := by
    rw [call_prim]
    exact test_ok h
  rw [awayFromBorder, call_compose, call_bindLast, inner, pure_bind, call_prim]
  rfl

theorem touchesBorder_object {c : Int} {o : Value} {k : Location} (hk : g.Inside k)
    (hcell : g.cell k = c) (ho : g.IsObject (g.Connected true false false k) o)
    [Decidable (∃ m, ReflTransGen (g.SideStep c) k m ∧ g.OnBorder m)] :
    Patch.touchesBorder o g.grid =
      .ok (decide (∃ m, ReflTransGen (g.SideStep c) k m ∧ g.OnBorder m)) := by
  refine touchesBorder_grid (ho.isPatch.congr fun l => connected_iff_path hcell) ⟨k, .refl⟩ ?_
  intro l hl
  exact (Connected.eligible ((connected_iff_path hcell).mpr hl) (eligible_of_inside hk)).1

/-- The condition keeps the objects of a color whose cells are enclosed, and their cells are merged. -/
theorem exists_filterFlatten {kept : Value} {c : Int} (hkept : kept.IsSetOf (g.IsColorPiece false c))
    (depth serial serial' : Nat) :
    ∃ merged, Function.filterFlatten (Value.call (depth + 1)) kept
        (g.awayFromBorder serial serial') = pure merged ∧
      g.IsObject (g.Enclosed c) merged := by
  classical
  have calls : ∀ k o, g.HasColor c k → g.IsObject (g.Connected true false false k) o →
      ∃ b, Value.call (depth + 1) (g.awayFromBorder serial serial') [o] = pure (.bool b) ∧
        (b = true ↔ ¬ ∃ m, ReflTransGen (g.SideStep c) k m ∧ g.OnBorder m) := by
    intro k o color ho
    exact ⟨_, call_awayFromBorder depth serial serial' (touchesBorder_object color.1 color.2 ho), by simp⟩
  obtain ⟨merged, heq, hmerged⟩ := exists_filterFlatten_pieces hkept calls
  exact ⟨merged, heq, hmerged.congr fun v => exists_congr fun l => and_congr_left' and_assoc⟩

/-! ## The program -/

theorem program_fillEnclosed : Task.program? "00d62c1b" = some Task.task00d62c1b := by
  simp [Task.program?, Task.catalogue, Task.shelf0, List.lookup_cons]

open Classical in
/-- The program of the task gives the board with four in place of the enclosed zeros. -/
theorem run_fillEnclosed (g : Board Int) :
    Task.task00d62c1b.run g.grid =
      .ok (g.redraw fun l => if g.Enclosed 0 l then 4 else g.cell l).grid := by
  obtain ⟨found, hobjects, hfound⟩ := g.exists_objects true false false
  obtain ⟨kept, hselect, hkept⟩ := exists_selectColor_objects hfound 0
  obtain ⟨merged, hfilter, hmerged⟩ := exists_filterFlatten hkept 998 0 1
  refine Program.run_eq_ok (t := 2) ?_
  refine Program.gives_cons (gives_call rfl (Eval.gives_lift hobjects 0)) ?_
  refine Program.gives_cons (gives_call rfl (Eval.gives_lift hselect 0)) ?_
  refine Program.gives_cons (v := .bindLast 0 1 (.prim .touchesBorder) g.grid) (gives_call rfl rfl) ?_
  refine Program.gives_cons (v := g.awayFromBorder 0 1) (gives_call rfl rfl) ?_
  refine Program.gives_cons (v := merged) (t := 2) (gives_call rfl ?_) ?_
  · change (Function.filterFlatten (Value.call 999) kept (g.awayFromBorder 0 1)).Gives 2 merged 2
    rw [hfilter]
    exact Eval.gives_pure 2 merged
  refine Program.gives_cons (gives_call rfl (Eval.gives_lift (fill_grid g hmerged.isPatch 4) 2)) ?_
  exact Program.gives_nil rfl 2

/-- **The program of task `00d62c1b` fills the enclosed zeros.** The result has the dimensions of the input.
A zero from which no path of zeros, from side to side, leads to the border becomes a four, and every other
cell is kept. -/
theorem fills_enclosed_zeros (g : Board Int) :
    ∃ filled : Board Int, Task.solve "00d62c1b" g.grid = .ok filled.grid ∧
      filled.height = g.height ∧ filled.width = g.width ∧
      ∀ l, g.Inside l →
        (g.Enclosed 0 l → filled.cell l = 4) ∧ (¬ g.Enclosed 0 l → filled.cell l = g.cell l) := by
  classical
  refine ⟨g.redraw fun l => if g.Enclosed 0 l then 4 else g.cell l, ?_, height_redraw g _, rfl, ?_⟩
  · rw [Task.solve, program_fillEnclosed, Outcome.ofOption_some, Outcome.ok_bind, run_fillEnclosed]
  · intro l hl
    rw [cell_redraw hl]
    exact ⟨fun h => if_pos h, fun h => if_neg h⟩

end Board

end GridPuzzle
