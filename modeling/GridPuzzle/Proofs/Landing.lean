import GridPuzzle.Proofs.Enclosure
import GridPuzzle.Proofs.Gravitation

/-!
# Landing

A move erases the cells of an object with the most frequent color and then paints the shifted object
(`Board.move_grid`). The program of task `05f2a901` moves the twos of a board by gravitation towards its
eights. No step of gravitation leads onto the destination, so the painting leaves the eights alone
(`Board.exists_gravitate_clear`).
-/

namespace GridPuzzle

open Value

namespace Value

/-- A cell of the object lies at the location. -/
def Covers (object : Value) (l : Location) : Prop :=
  ∃ c, .pair (.int c) l.toValue ∈ object

theorem IsCellSet.pair_mem_iff {v : Value} {R : Int → Location → Prop} (h : v.IsCellSet R) {c : Int}
    {l : Location} : .pair (.int c) l.toValue ∈ v ↔ R c l := by
  rw [IsSetOf.mem_iff h]
  constructor
  · intro hx
    obtain ⟨c', l', hR, heq⟩ := hx
    simp only [pair, tuple.injEq, List.cons.injEq, and_true, int.injEq] at heq
    rwa [heq.1, Location.toValue_injective heq.2]
  · intro hR
    exact ⟨c, l, hR, rfl⟩

theorem IsCellSet.covers_iff {v : Value} {P : Location → Prop} {color : Location → Int}
    (h : v.IsCellSet fun c l => P l ∧ c = color l) {l : Location} : v.Covers l ↔ P l := by
  simp only [Covers, h.pair_mem_iff, exists_and_left, exists_eq, and_true]

end Value

namespace Board

variable {g : Board Int} {P Q : Location → Prop} {d : Location}

/-! ## Objects that are moved -/

open Classical in
/-- The board with the cells at the locations with a property moved by a vector. -/
noncomputable def withMoved (g : Board Int) (P : Location → Prop) (d : Location) : Board Int :=
  g.redraw fun l => if P (d.back l) then g.cell (d.back l) else if P l then g.background else g.cell l

theorem move_grid {o : Value} (ho : g.IsObject P o) (d : Location) :
    Grid.move g.grid o d.toValue = .ok (g.withMoved P d).grid := by
  classical
  obtain ⟨moved, hshift, hmoved⟩ := ho.isCellSet.exists_shift d
  rw [Grid.move, erasePatch_grid g ho.isPatch, Outcome.ok_bind, hshift, Outcome.ok_bind, paint_grid _ hmoved]
  congr 2
  refine ext_cell (by simp [withMoved]) rfl fun l hl => ?_
  have inside : g.Inside l := by simpa using hl
  rw [withMoved, cell_redraw inside, cell_redraw (inside_redraw.mpr inside), cell_redraw inside]

section

variable {l : Location}

theorem cell_withMoved_of_back (inside : g.Inside l) (hl : P (d.back l)) :
    (g.withMoved P d).cell l = g.cell (d.back l) := by
  rw [withMoved, cell_redraw inside, if_pos hl]

theorem cell_withMoved_of_left (inside : g.Inside l) (hl : ¬ P (d.back l)) (old : P l) :
    (g.withMoved P d).cell l = g.background := by
  rw [withMoved, cell_redraw inside, if_neg hl, if_pos old]

theorem cell_withMoved_of_apart (inside : g.Inside l) (hl : ¬ P (d.back l)) (old : ¬ P l) :
    (g.withMoved P d).cell l = g.cell l := by
  rw [withMoved, cell_redraw inside, if_neg hl, if_neg old]

end

theorem places_object {l : Location} : Places (Colored fun c l => P l ∧ c = g.cell l) l ↔ P l := by
  rw [places_colored]
  exact ⟨fun ⟨_, hl, _⟩ => hl, fun hl => ⟨_, hl, rfl⟩⟩

/-- Gravitation leads no cell of an object onto its destination. -/
theorem exists_gravitate_clear {s t : Value} (hs : g.IsObject P s) (ht : g.IsObject Q t) (some : ∃ l, P l)
    (some' : ∃ l, Q l) (clear : Clear P Q) :
    ∃ d : Location, Patch.gravitate s t = .ok d.toValue ∧ Clear (fun l => P (d.back l)) Q := by
  have figure := isFigure_colored_iff.mpr hs.isCellSet
  have figure' := isFigure_colored_iff.mpr ht.isCellSet
  obtain ⟨k, hk⟩ := some
  obtain ⟨k', hk'⟩ := some'
  obtain ⟨r, hr, -⟩ := places_object.mpr hk
  obtain ⟨r', hr', -⟩ := places_object.mpr hk'
  obtain ⟨d, heq, apart⟩ := figure.exists_gravitate_clear figure' ⟨r, hr⟩ ⟨r', hr'⟩
    fun l hl hl' => clear l (places_object.mp hl) (places_object.mp hl')
  refine ⟨d, heq, fun l hP hQ => apart l ?_ (places_object.mpr hQ)⟩
  exact places_moved.mpr ⟨d.back l, places_object.mpr hP, d.shift_back l⟩

/-- A color other than that of the background and of the moved cells keeps its cells, if none of them is
painted over. -/
theorem hasColor_withMoved_iff {c c' : Int} (differ : c ≠ c') (foreground : c' ≠ g.background)
    (clear : Clear (fun l => g.HasColor c (d.back l)) (g.HasColor c')) {l : Location} :
    (g.withMoved (g.HasColor c) d).HasColor c' l ↔ g.HasColor c' l := by
  have inside_iff : (g.withMoved (g.HasColor c) d).Inside l ↔ g.Inside l := inside_redraw
  rw [HasColor, HasColor, inside_iff]
  refine and_congr_right fun inside => ?_
  by_cases back : g.HasColor c (d.back l)
  · rw [cell_withMoved_of_back inside back, back.2]
    exact ⟨fun same => absurd same differ, fun color => absurd ⟨inside, color⟩ (clear l back)⟩
  · by_cases old : g.HasColor c l
    · rw [cell_withMoved_of_left inside back old, old.2]
      exact ⟨fun same => absurd same.symm foreground, fun same => absurd same differ⟩
    · rw [cell_withMoved_of_apart inside back old]

/-- The moved cells are the cells of their color, if the background has another one. -/
theorem hasColor_withMoved_self_iff {c : Int} (foreground : c ≠ g.background) {l : Location} :
    (g.withMoved (g.HasColor c) d).HasColor c l ↔ g.Inside l ∧ g.HasColor c (d.back l) := by
  have inside_iff : (g.withMoved (g.HasColor c) d).Inside l ↔ g.Inside l := inside_redraw
  rw [HasColor, inside_iff]
  refine and_congr_right fun inside => ?_
  by_cases back : g.HasColor c (d.back l)
  · rw [cell_withMoved_of_back inside back]
    exact ⟨fun _ => back, fun _ => back.2⟩
  · refine ⟨fun color => ?_, fun color => absurd color back⟩
    by_cases old : g.HasColor c l
    · rw [cell_withMoved_of_left inside back old] at color
      exact absurd color.symm foreground
    · rw [cell_withMoved_of_apart inside back old] at color
      exact absurd ⟨inside, color⟩ old

/-! ## The program -/

theorem program_landing : Task.program? "05f2a901" = some Task.task05f2a901 := by
  decide +kernel

/-- The program of the task moves its one object of twos towards its one object of eights. -/
theorem run_landing {found s t : Value}
    (hfound : Grid.objects g.grid (.bool true) (.bool false) (.bool true) = .ok found)
    (source : found.IsOnlyObject 2 s) (target : found.IsOnlyObject 8 t)
    (hs : g.IsObject P s) (hvector : Patch.gravitate s t = .ok d.toValue) :
    Task.task05f2a901.run g.grid = .ok (g.withMoved P d).grid := by
  obtain ⟨found', hobjects, hset⟩ := g.exists_objects true false true
  obtain rfl : found = found' := Except.ok.inj (hfound.symm.trans hobjects)
  obtain ⟨twos, hselect, hfirst⟩ := exists_selectColor_only hset source
  obtain ⟨eights, hselect', hfirst'⟩ := exists_selectColor_only hset target
  refine Program.run_eq_ok (t := 0) ?_
  refine Program.gives_cons (gives_call rfl (Eval.gives_lift hobjects 0)) ?_
  refine Program.gives_cons (gives_call rfl (Eval.gives_lift hselect 0)) ?_
  refine Program.gives_cons (gives_call rfl (Eval.gives_lift hfirst 0)) ?_
  refine Program.gives_cons (gives_call rfl (Eval.gives_lift hselect' 0)) ?_
  refine Program.gives_cons (gives_call rfl (Eval.gives_lift hfirst' 0)) ?_
  refine Program.gives_cons (gives_call rfl (Eval.gives_lift hvector 0)) ?_
  refine Program.gives_cons (gives_call rfl (Eval.gives_lift (move_grid hs d) 0)) ?_
  exact Program.gives_nil rfl 0

/-- **The program of task `05f2a901` moves the twos of a board up to its eights.** Suppose the objects of one
color without the background have one object of twos and one of eights. The result has the dimensions of the
input and its eights are those of the input. Its twos are the cells of the first object, shifted by gravitation
towards the second, as far as they lie on the board. Where the object was and is no more there is background,
and every other cell is kept. -/
theorem moves_twos_up_to_eights (g : Board Int) {found s t : Value}
    (hfound : Grid.objects g.grid (.bool true) (.bool false) (.bool true) = .ok found)
    (source : found.IsOnlyObject 2 s) (target : found.IsOnlyObject 8 t) :
    ∃ (vector moved eights : Value) (out : Board Int),
      Patch.gravitate s t = .ok vector ∧ Patch.shift s vector = .ok moved ∧
      Task.solve "05f2a901" g.grid = .ok out.grid ∧ out.height = g.height ∧ out.width = g.width ∧
      Grid.locationsOf g.grid (.int 8) = .ok eights ∧ Grid.locationsOf out.grid (.int 8) = .ok eights ∧
      (∀ l, out.HasColor 2 l ↔ g.Inside l ∧ .pair (.int 2) l.toValue ∈ moved) ∧
      (∀ l, g.Inside l → s.Covers l → ¬ moved.Covers l → out.cell l = g.background) ∧
      ∀ l, g.Inside l → ¬ s.Covers l → ¬ moved.Covers l → out.cell l = g.cell l := by
  obtain ⟨found', hobjects, hset⟩ := g.exists_objects true false true
  obtain rfl : found = found' := Except.ok.inj (hfound.symm.trans hobjects)
  obtain ⟨hs, k, eligible, color⟩ := isObject_of_only hset source
  obtain ⟨ht, k', eligible', color'⟩ := isObject_of_only hset target
  have two : 2 ≠ g.background := color ▸ eligible.2 rfl
  have eight : 8 ≠ g.background := color' ▸ eligible'.2 rfl
  have disjoint : Clear (g.HasColor 2) (g.HasColor 8) :=
    fun l two eight => absurd (two.2.symm.trans eight.2) (by decide)
  obtain ⟨d, hvector, clear⟩ :=
    exists_gravitate_clear hs ht ⟨k, eligible.1, color⟩ ⟨k', eligible'.1, color'⟩ disjoint
  obtain ⟨moved, hshift, hmoved⟩ := hs.isCellSet.exists_shift d
  obtain ⟨eights, hplaces, hlocations⟩ := g.exists_locationsOf 8
  obtain ⟨eights', hplaces', hlocations'⟩ := (g.withMoved (g.HasColor 2) d).exists_locationsOf 8
  have kept : eights' = eights := hlocations'.unique (hlocations.congr fun v =>
    exists_congr fun l => and_congr_left' (hasColor_withMoved_iff (by decide) eight clear).symm)
  refine ⟨d.toValue, moved, eights, g.withMoved (g.HasColor 2) d, hvector, hshift, ?_, height_redraw g _, rfl,
    hplaces, kept ▸ hplaces', fun l => ?_, fun l inside old gone => ?_, fun l inside apart apart' => ?_⟩
  · rw [Task.solve_eq_run program_landing, run_landing hfound source target hs hvector]
  · rw [hasColor_withMoved_self_iff two, hmoved.pair_mem_iff]
    exact and_congr_right fun _ => ⟨fun back => ⟨back, back.2.symm⟩, And.left⟩
  · exact cell_withMoved_of_left inside (mt hmoved.covers_iff.mpr gone) (hs.isCellSet.covers_iff.mp old)
  · exact cell_withMoved_of_apart inside (mt hmoved.covers_iff.mpr apart') (mt hs.isCellSet.covers_iff.mpr apart)

/-- A board with a hook of twos and a corner of eights to the right of it. -/
def hookAndCorner : Board Int where
  rows := [[2, 2, 0, 0, 0], [0, 2, 0, 0, 8], [0, 0, 0, 8, 8]]
  width := 5
  rows_ne_nil := List.cons_ne_nil _ _
  width_pos := by decide
  length_row := by decide

theorem hook_cells {l : Location} (hl : hookAndCorner.HasColor 2 l) : l = (0, 0) ∨ l = (0, 1) ∨ l = (1, 1) := by
  have cells : hookAndCorner.cell l = 2 → l = (0, 0) ∨ l = (0, 1) ∨ l = (1, 1) :=
    forall_inside (p := fun l => hookAndCorner.cell l = 2 → l = (0, 0) ∨ l = (0, 1) ∨ l = (1, 1)) (by decide) hl.1
  exact cells hl.2

theorem corner_cells {l : Location} (hl : hookAndCorner.HasColor 8 l) : l = (2, 4) ∨ l = (1, 4) ∨ l = (2, 3) := by
  have cells : hookAndCorner.cell l = 8 → l = (2, 4) ∨ l = (1, 4) ∨ l = (2, 3) :=
    forall_inside (p := fun l => hookAndCorner.cell l = 8 → l = (2, 4) ∨ l = (1, 4) ∨ l = (2, 3)) (by decide) hl.1
  exact cells hl.2

/-- The zeros of the board outnumber the other cells. -/
theorem background_hookAndCorner : hookAndCorner.background = 0 :=
  background_eq_of_most (by decide) (by decide)

theorem connected_of_sideStep {c : Int} {k l : Location} (foreground : c ≠ 0)
    (step : hookAndCorner.SideStep c k l) : hookAndCorner.Connected true false true k l :=
  .single (step.link fun _ => background_hookAndCorner ▸ foreground)

theorem moves_hook_up_to_corner :
    ∃ found s t, Grid.objects hookAndCorner.grid (.bool true) (.bool false) (.bool true) = .ok found ∧
      found.IsOnlyObject 2 s ∧ found.IsOnlyObject 8 t ∧
      ∃ out : Board Int, Task.solve "05f2a901" hookAndCorner.grid = .ok out.grid ∧
        Grid.locationsOf out.grid (.int 8) = Grid.locationsOf hookAndCorner.grid (.int 8) := by
  obtain ⟨found, hobjects, hset⟩ := hookAndCorner.exists_objects true false true
  have eligible {l : Location} (inside : hookAndCorner.Inside l) (color : hookAndCorner.cell l ≠ 0) :
      hookAndCorner.Eligible true l := ⟨inside, fun _ => background_hookAndCorner ▸ color⟩
  have source : found.IsOnlyObject 2 (hookAndCorner.colorClass 2) := by
    refine isOnlyObject_of_connected hset (k := (0, 1)) (eligible (by decide) (by decide)) rfl fun l hl => ?_
    rcases hook_cells hl with rfl | rfl | rfl
    · exact connected_of_sideStep (c := 2) (by decide) ⟨by decide, by decide, by decide⟩
    · exact .refl
    · exact connected_of_sideStep (c := 2) (by decide) ⟨by decide, by decide, by decide⟩
  have target : found.IsOnlyObject 8 (hookAndCorner.colorClass 8) := by
    refine isOnlyObject_of_connected hset (k := (2, 4)) (eligible (by decide) (by decide)) rfl fun l hl => ?_
    rcases corner_cells hl with rfl | rfl | rfl
    · exact .refl
    · exact connected_of_sideStep (c := 8) (by decide) ⟨by decide, by decide, by decide⟩
    · exact connected_of_sideStep (c := 8) (by decide) ⟨by decide, by decide, by decide⟩
  obtain ⟨_, _, eights, out, -, -, solved, -, -, hplaces, hplaces', -⟩ :=
    moves_twos_up_to_eights hookAndCorner hobjects source target
  exact ⟨found, _, _, hobjects, source, target, out, solved, hplaces'.trans hplaces.symm⟩

end Board

end GridPuzzle
