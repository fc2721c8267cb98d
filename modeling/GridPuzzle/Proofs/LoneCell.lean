import GridPuzzle.Proofs.Enclosure
import GridPuzzle.Proofs.BlankRectangle
import GridPuzzle.Proofs.TargetedWrite

/-!
# Lone cells

A cell of a color is alone if no cell of the color shares a side with it. The programs of the tasks `67385a82` and
`aedd82e4` do not look at neighbors. They grow the objects of a color from side to side and tell them apart by their
numbers of cells. An object of a single cell is the class of that cell, and a class has a second cell exactly if the
first step of a path can be made (`Board.length_class_eq_one_iff`). So the objects of one cell, merged, are the lone
cells, and the other objects are the rest of the color.
-/

namespace GridPuzzle

/-! ## Choosing among the members of a set -/

namespace Value

variable {v w : Value} {A B : Value → Prop}

/-- The members of a set that are not in another one, as they are visited. -/
theorem without_set (xs ys : List Value) :
    Container.without (.set xs) (.set ys) = .ok (.setOf (xs.filter fun x => !ys.contains x)) := by
  have items : (Value.set xs).items = .ok xs := rfl
  rw [Container.without, items, Outcome.ok_bind, filterM_eq_pure_filter (p := fun x => !ys.contains x),
    Outcome.pure_eq_ok, Outcome.ok_bind]
  · rfl
  · intro x _
    rfl

/-- The members of a set that are not in another one. -/
theorem IsSetOf.exists_without (hv : v.IsSetOf A) (hw : w.IsSetOf B) (plain : ∀ x, A x → Plain x)
    (plain' : ∀ x, B x → Plain x) : ∃ u, Container.without v w = .ok u ∧ u.IsSetOf fun x => A x ∧ ¬ B x := by
  refine ⟨_, ?_, (hv.filter plain fun x => !w.itemList.contains x).congr fun x => and_congr_right fun hx => ?_⟩
  · rw [hv.eq_set, hw.eq_set]
    exact without_set v.itemList w.itemList
  · rw [Bool.not_eq_true', ← Bool.not_eq_true,
      contains_iff_mem (fun y hy => plain' y ((hw.mem_itemList y).mp hy)) (plain x hx), hw.mem_itemList]

/-- The members of a set that have a number of items. -/
theorem IsSetOf.exists_selectSize (hv : v.IsSetOf A) (plain : ∀ x, A x → Plain x)
    (sizes : ∀ x, A x → x.size = .ok x.itemList.length) (n : Nat) :
    ∃ kept, Grid.selectSize v (.int n) = .ok kept ∧ kept.IsSetOf fun x => A x ∧ x.itemList.length = n := by
  refine ⟨_, ?_, (hv.filter plain fun x => decide (x.itemList.length = n)).congr fun x => ?_⟩
  · rw [Grid.selectSize, hv.items, Outcome.ok_bind,
      filterM_eq_pure_filter (p := fun x => decide (x.itemList.length = n)), Outcome.pure_eq_ok, Outcome.ok_bind]
    · rfl
    · intro x hx
      rw [sizes x ((hv.mem_itemList x).mp hx), Outcome.ok_bind, pure_bind, int_beq_int]
      simp only [Int.natCast_inj]
  · rw [decide_eq_true_eq]

end Value

namespace Board

variable {g : Board Int} {c : Int} {k l : Location}

/-! ## Classes of one cell -/

/-- A cell of the color shares a side with the location. -/
def NextTo (g : Board Int) (c : Int) (l : Location) : Prop :=
  ∃ k, g.HasColor c k ∧ l.distance k = 1

theorem nextTo_iff_exists_step (color : g.HasColor c k) : g.NextTo c k ↔ ∃ l, g.SideStep c k l := by
  constructor
  · intro next
    rcases next with ⟨l, color', near⟩
    exact ⟨l, color, color', near⟩
  · intro step
    rcases step with ⟨l, step⟩
    exact ⟨l, step.right, step.beside⟩

/-- No path leads away from a lone cell. -/
theorem Connected.eq_of_lone (path : g.Connected true false false k l) (color : g.HasColor c k)
    (lone : ¬ g.NextTo c k) : k = l := by
  rcases ((connected_iff_path color.2).mp path).cases_head with here | ⟨m, step, -⟩
  · exact here
  · exact absurd ((nextTo_iff_exists_step color).mpr ⟨m, step⟩) lone

/-- The object of a class has one cell exactly if the cell is alone. -/
theorem length_class_eq_one_iff {o : Value} (color : g.HasColor c k)
    (ho : g.IsObject (g.Connected true false false k) o) : o.itemList.length = 1 ↔ ¬ g.NextTo c k := by
  constructor
  · intro one next
    rcases (nextTo_iff_exists_step color).mp next with ⟨l, step⟩
    have path : g.Connected true false false k l := .single ((link_iff_sideStep color.2).mpr step)
    have first : g.cellValue k ∈ o.itemList := ho.cellValue_mem.mpr .refl
    have second : g.cellValue l ∈ o.itemList := ho.cellValue_mem.mpr path
    rcases List.length_eq_one_iff.mp one with ⟨v, items⟩
    rw [items, List.mem_singleton] at first second
    -- The two cells would be one, but a cell does not share a side with itself.
    obtain rfl : k = l := cellValue_injective (first.trans second.symm)
    have beside := step.beside
    omega
  · intro lone
    refine length_object ho (List.nodup_singleton k) fun l => ?_
    rw [List.mem_singleton]
    constructor
    · intro here
      subst here
      exact .refl
    · intro path
      exact (path.eq_of_lone color lone).symm

section

variable {kept : Value} (hkept : kept.IsSetOf (g.IsColorPiece false c))
include hkept

/-- The objects of one cell among those of a color. -/
theorem exists_selectSize_pieces : ∃ small, Grid.selectSize kept (.int 1) = .ok small ∧
    small.IsSetOf fun o => g.IsColorPiece false c o ∧ o.itemList.length = 1 :=
  hkept.exists_selectSize (fun _ ⟨_, _, _, ho⟩ => ho.plain) (fun _ ⟨_, _, _, ho⟩ => Value.IsSetOf.size ho) 1

/-- The objects of one cell, merged, are the lone cells of the color. -/
theorem exists_merged_lone : ∃ small merged, Grid.selectSize kept (.int 1) = .ok small ∧
    Container.flatten small = .ok merged ∧ g.IsObject (fun l => g.HasColor c l ∧ ¬ g.NextTo c l) merged := by
  rcases exists_selectSize_pieces hkept with ⟨small, hsmall, pieces⟩
  rcases exists_flatten_pieces pieces fun k o color ho => length_class_eq_one_iff color ho with ⟨merged, heq, object⟩
  exact ⟨small, merged, hsmall, heq, object⟩

/-- The objects of several cells, merged, are the cells of the color with another one beside them. -/
theorem exists_merged_paired : ∃ small rest merged, Grid.selectSize kept (.int 1) = .ok small ∧
    Container.without kept small = .ok rest ∧ Container.flatten rest = .ok merged ∧
    g.IsObject (fun l => g.HasColor c l ∧ g.NextTo c l) merged := by
  rcases exists_selectSize_pieces hkept with ⟨small, hsmall, pieces⟩
  rcases hkept.exists_without pieces (fun _ ⟨_, _, _, ho⟩ => ho.plain) (fun _ ⟨⟨_, _, _, ho⟩, _⟩ => ho.plain)
    with ⟨rest, hrest, others⟩
  have larger : rest.IsSetOf fun o => g.IsColorPiece false c o ∧ o.itemList.length ≠ 1 :=
    others.congr fun o => and_congr_right fun piece => not_congr (and_iff_right piece)
  rcases exists_flatten_pieces larger fun k o color ho =>
    (not_congr (length_class_eq_one_iff color ho)).trans not_not with ⟨merged, heq, object⟩
  exact ⟨small, rest, merged, hsmall, hrest, heq, object⟩

end

/-! ## The programs -/

theorem program_dyeing_paired : Task.program? "67385a82" = some Task.task67385a82 := by
  decide +kernel

theorem program_dyeing_lone : Task.program? "aedd82e4" = some Task.taskaedd82e4 := by
  decide +kernel

open Classical in
theorem run_dyeing_paired (g : Board Int) : Task.task67385a82.run g.grid =
    .ok (g.redraw fun l => if g.HasColor 3 l ∧ g.NextTo 3 l then 8 else g.cell l).grid := by
  rcases g.exists_objects true false false with ⟨found, hobjects, hfound⟩
  rcases exists_selectColor_objects hfound 3 with ⟨threes, hselect, hthrees⟩
  rcases exists_merged_paired hthrees with ⟨small, rest, merged, hsmall, hrest, hmerged, object⟩
  refine Program.run_eq_ok (t := 0) ?_
  refine Program.gives_cons (gives_call rfl (Eval.gives_lift hobjects 0)) ?_
  refine Program.gives_cons (gives_call rfl (Eval.gives_lift hselect 0)) ?_
  refine Program.gives_cons (gives_call rfl (Eval.gives_lift hsmall 0)) ?_
  refine Program.gives_cons (gives_call rfl (Eval.gives_lift hrest 0)) ?_
  refine Program.gives_cons (gives_call rfl (Eval.gives_lift hmerged 0)) ?_
  refine Program.gives_cons (gives_call rfl (Eval.gives_lift (fill_grid g object.isPatch 8) 0)) ?_
  exact Program.gives_nil rfl 0

open Classical in
theorem run_dyeing_lone (g : Board Int) : Task.taskaedd82e4.run g.grid =
    .ok (g.redraw fun l => if g.HasColor 2 l ∧ ¬ g.NextTo 2 l then 1 else g.cell l).grid := by
  rcases g.exists_objects true false false with ⟨found, hobjects, hfound⟩
  rcases exists_selectColor_objects hfound 2 with ⟨twos, hselect, htwos⟩
  rcases exists_merged_lone htwos with ⟨small, merged, hsmall, hmerged, object⟩
  refine Program.run_eq_ok (t := 0) ?_
  refine Program.gives_cons (gives_call rfl (Eval.gives_lift hobjects 0)) ?_
  refine Program.gives_cons (gives_call rfl (Eval.gives_lift hselect 0)) ?_
  refine Program.gives_cons (gives_call rfl (Eval.gives_lift hsmall 0)) ?_
  refine Program.gives_cons (gives_call rfl (Eval.gives_lift hmerged 0)) ?_
  refine Program.gives_cons (gives_call rfl (Eval.gives_lift (fill_grid g object.isPatch 1) 0)) ?_
  exact Program.gives_nil rfl 0

open Classical in
/-- **The programs of the tasks `67385a82` and `aedd82e4` look for neighbors of the same color.** The results have the
dimensions of the input. The first program puts an eight in place of each three with another three beside it, and the
second one a one in place of each two with no other two beside it; every other cell is kept. -/
theorem dyes_paired_threes_and_lone_twos (g : Board Int) :
    (∃ out : Board Int, Task.solve "67385a82" g.grid = .ok out.grid ∧
      out.height = g.height ∧ out.width = g.width ∧
      ∀ l, g.Inside l → out.cell l = if g.cell l = 3 ∧ g.NextTo 3 l then 8 else g.cell l) ∧
    ∃ out : Board Int, Task.solve "aedd82e4" g.grid = .ok out.grid ∧
      out.height = g.height ∧ out.width = g.width ∧
      ∀ l, g.Inside l → out.cell l = if g.cell l = 2 ∧ ¬ g.NextTo 2 l then 1 else g.cell l := by
  have colored {c : Int} {l : Location} (hl : g.Inside l) : g.HasColor c l ↔ g.cell l = c := and_iff_right hl
  have paired := (Task.solve_eq_run program_dyeing_paired _).trans g.run_dyeing_paired
  have lone := (Task.solve_eq_run program_dyeing_lone _).trans g.run_dyeing_lone
  refine ⟨⟨_, paired, height_redraw g _, rfl, fun l hl => ?_⟩, _, lone, height_redraw g _, rfl, fun l hl => ?_⟩
  · simp only [cell_redraw hl, colored hl]
  · simp only [cell_redraw hl, colored hl]

end Board

end GridPuzzle
