import GridPuzzle.Proofs.Landing

/-!
# Raising

The program of task `5521c0d9` takes the objects of a board away and paints each of them again, shifted up by its
own height. The function that does this is built in two steps, one for the vector and one for the shift, and its
results are merged into one object (`Board.exists_mapFlatten_raising`).

If no two of the shifted copies have a location in common, the merged object has one color at each of its
locations, and so it does not matter in which order its cells are painted (`Board.exists_paint`). The board under
it is blank, since the objects hold all cells that differ from the background.
-/

namespace GridPuzzle

open Value Eval

namespace Value

/-- The copy of an object that is shifted up by as many rows as the object has. -/
def IsRaised (o copy : Value) : Prop :=
  ∃ h : Int, Patch.height o = .ok h ∧ Patch.shift o (.location (-h) 0) = .ok copy

theorem IsRaised.unique {o copy copy' : Value} (raised : o.IsRaised copy) (raised' : o.IsRaised copy') :
    copy = copy' := by
  obtain ⟨h, height, shifted⟩ := raised
  obtain ⟨h', height', shifted'⟩ := raised'
  obtain rfl : h = h' := Except.ok.inj (height.symm.trans height')
  exact Except.ok.inj (shifted.symm.trans shifted')

/-- No two objects have raised copies with a location in common. -/
def RaisedApart (found : Value) : Prop :=
  ∀ o ∈ found, ∀ o' ∈ found, o ≠ o' → ∀ copy copy', o.IsRaised copy → o'.IsRaised copy' →
    Clear copy.Covers copy'.Covers

/-- A cell of some object has the color and lies below the location by the height of the object. -/
def RisesTo (found : Value) (c : Int) (l : Location) : Prop :=
  ∃ o ∈ found, ∃ h : Int, Patch.height o = .ok h ∧ .pair (.int c) (Location.toValue (l.1 + h, l.2)) ∈ o

/-- The function that shifts an object up by its own height. -/
def raising : Value :=
  .fork 1 (.prim .shift) (.prim .identity) (.compose3 0 (.prim .downBy) (.prim .negate) (.prim .height))

theorem call_raising {o copy : Value} (raised : o.IsRaised copy) (depth : Nat) :
    Value.call (depth + 1) raising [o] = pure copy := by
  obtain ⟨h, height, shifted⟩ := raised
  have same : Value.call (depth + 1) (.prim .identity) [o] = pure o := by
    rw [call_prim]
    rfl
  have measured : Value.call (depth + 1) (.prim .height) [o] = pure (.int h) := by
    rw [call_prim]
    change Primitive.measure (Patch.height o) = _
    rw [height]
    rfl
  have negated : Value.call (depth + 1) (.prim .negate) [.int h] = pure (.int (-h)) := by
    rw [call_prim]
    rfl
  have vector : Value.call (depth + 1) (.prim .downBy) [.int (-h)] = pure (.location (-h) 0) := by
    rw [call_prim]
    rfl
  rw [raising, call_fork, same, pure_bind, call_compose3, measured, pure_bind, negated, pure_bind, vector,
    pure_bind, call_prim]
  exact lift_ok shifted

end Value

namespace Board

variable {g : Board Int} {P : Location → Prop} {found : Value}

/-! ## Raised objects -/

/-- An object that is not empty has a raised copy, with each cell above its old place by the height. -/
theorem IsObject.exists_raised {o : Value} (ho : g.IsObject P o) (some : ∃ l, P l) :
    ∃ (h : Int) (copy : Value), Patch.height o = .ok h ∧ o.IsRaised copy ∧
      copy.IsCellSet fun c l => .pair (.int c) (Location.toValue (l.1 + h, l.2)) ∈ o := by
  have figure := isFigure_colored_iff.mpr ho.isCellSet
  obtain ⟨l, hl⟩ := some
  obtain ⟨s, hs, -⟩ := places_object.mpr hl
  obtain ⟨box, hbox⟩ := figure.exists_bounds ⟨s, hs⟩
  obtain ⟨h, height⟩ : ∃ h, Patch.height o = .ok h := ⟨_, figure.height hbox⟩
  obtain ⟨copy, hcopy, cells⟩ := ho.isCellSet.exists_shift (-h, 0)
  have back (l : Location) : Location.back (-h, 0) l = (l.1 + h, l.2) :=
    Prod.ext (Int.sub_neg ..) (Int.sub_zero _)
  refine ⟨h, copy, height, ⟨h, height, hcopy⟩, cells.congr fun x => ?_⟩
  simp only [back, ho.isCellSet.pair_mem_iff]

/-- Below each cell of a raised copy, by the height of the object, there is a cell of the object. -/
theorem IsObject.below_of_covers {o copy : Value} (ho : g.IsObject P o) (some : ∃ l, P l)
    (raised : o.IsRaised copy) {l : Location} (covers : copy.Covers l) : ∃ h : Int, P (l.1 + h, l.2) := by
  obtain ⟨h, copy', -, raised', cells⟩ := ho.exists_raised some
  obtain rfl := raised.unique raised'
  obtain ⟨c, hc⟩ := covers
  exact ⟨h, (ho.isCellSet.pair_mem_iff.mp (cells.pair_mem_iff.mp hc)).1⟩

section

variable (hfound : found.IsSetOf (g.IsClassObject true false true))
include hfound

/-- The raised copies of the objects, merged. -/
theorem exists_mapFlatten_raising (depth : Nat) :
    ∃ raised, (Function.mapFlatten (Value.call (depth + 1)) raising found).Yields raised ∧
      raised.IsCellSet found.RisesTo := by
  have calls : ∀ o, g.IsClassObject true false true o → ∃ copy,
      (Value.call (depth + 1) raising [o]).Yields copy ∧
      copy.IsCellSet fun c l => ∃ h : Int, Patch.height o = .ok h ∧
        .pair (.int c) (Location.toValue (l.1 + h, l.2)) ∈ o := by
    intro o ho
    obtain ⟨k, -, hobject⟩ := ho
    obtain ⟨h, copy, height, raised, cells⟩ := hobject.exists_raised ⟨k, .refl⟩
    refine ⟨copy, ?_, cells.congr fun x => exists_congr fun c => exists_congr fun l => and_congr_left' ?_⟩
    · rw [call_raising raised]
      exact yields_pure copy
    · simp only [height, Except.ok.injEq, exists_eq_left']
  obtain ⟨raised, yields, cells⟩ := hfound.exists_mapFlatten calls
    fun o x _ ⟨c, l, _, hx⟩ => hx ▸ .pair (.int c) l.plain_toValue
  refine ⟨raised, yields, cells.congr fun x => ?_⟩
  constructor
  · intro hx
    obtain ⟨o, ho, c, l, rises, rfl⟩ := hx
    exact ⟨c, l, ⟨o, (hfound.mem_iff o).mpr ho, rises⟩, rfl⟩
  · intro hx
    obtain ⟨c, l, ⟨o, ho, rises⟩, rfl⟩ := hx
    exact ⟨o, (hfound.mem_iff o).mp ho, c, l, rises, rfl⟩

/-- Cells of one color only rise to a location, if no two copies have it in common. -/
theorem color_unique_of_apart (apart : found.RaisedApart) {c c' : Int} {l : Location}
    (rises : found.RisesTo c l) (rises' : found.RisesTo c' l) : c = c' := by
  obtain ⟨o, ho, h, height, cell⟩ := rises
  obtain ⟨o', ho', h', height', cell'⟩ := rises'
  obtain ⟨k, -, hobject⟩ := (hfound.mem_iff o).mp ho
  obtain ⟨k', -, hobject'⟩ := (hfound.mem_iff o').mp ho'
  by_cases same : o = o'
  · subst same
    obtain rfl : h = h' := Except.ok.inj (height.symm.trans height')
    have color := (hobject.isCellSet.pair_mem_iff.mp cell).2
    have color' := (hobject.isCellSet.pair_mem_iff.mp cell').2
    rw [color, color']
  · -- The two copies would share the location.
    obtain ⟨m, copy, hm, raised, cells⟩ := hobject.exists_raised ⟨k, .refl⟩
    obtain ⟨m', copy', hm', raised', cells'⟩ := hobject'.exists_raised ⟨k', .refl⟩
    obtain rfl : h = m := Except.ok.inj (height.symm.trans hm)
    obtain rfl : h' = m' := Except.ok.inj (height'.symm.trans hm')
    have covers : copy.Covers l := ⟨c, cells.pair_mem_iff.mpr cell⟩
    have covers' : copy'.Covers l := ⟨c', cells'.pair_mem_iff.mpr cell'⟩
    exact absurd covers' (apart o ho o' ho' same copy copy' raised raised' l covers)

end

/-! ## The program -/

theorem program_raising : Task.program? "5521c0d9" = some Task.task5521c0d9 := by
  decide +kernel

/-- The program of the task paints the raised copies on a blank board. -/
theorem exists_run_raising {found : Value}
    (hobjects : Grid.objects g.grid (.bool true) (.bool false) (.bool true) = .ok found)
    (hfound : found.IsSetOf (g.IsClassObject true false true)) :
    ∃ raised, raised.IsCellSet found.RisesTo ∧
      ∀ out, Grid.paint g.blank.grid raised = .ok out → Task.task5521c0d9.run g.grid = .ok out := by
  classical
  obtain ⟨merged, hflatten, hmerged⟩ := exists_flatten_objects hfound fun o ⟨k, _, ho⟩ => ⟨_, ho⟩
  have foreground : g.IsObject (g.Eligible true) merged :=
    hmerged.congr fun v => exists_congr fun l => and_congr_left' (exists_object_iff hfound)
  have herase : Grid.erasePatch g.grid merged = .ok g.blank.grid := by
    rw [erasePatch_grid g foreground.isPatch, redraw_background]
  obtain ⟨raised, yields, cells⟩ := exists_mapFlatten_raising hfound 998
  obtain ⟨t, hraised⟩ := yields 2
  refine ⟨raised, cells, fun out hpaint => ?_⟩
  refine Program.run_eq_ok (t := t) ?_
  refine Program.gives_cons (gives_call rfl (Eval.gives_lift hobjects 0)) ?_
  refine Program.gives_cons (gives_call rfl (Eval.gives_lift hflatten 0)) ?_
  refine Program.gives_cons (gives_call rfl (Eval.gives_lift herase 0)) ?_
  refine Program.gives_cons (v := .compose3 0 (.prim .downBy) (.prim .negate) (.prim .height))
    (gives_call rfl rfl) ?_
  refine Program.gives_cons (v := raising) (gives_call rfl rfl) ?_
  refine Program.gives_cons (v := raised) (t := t) (gives_call rfl hraised) ?_
  refine Program.gives_cons (gives_call rfl (Eval.gives_lift hpaint t)) ?_
  exact Program.gives_nil rfl t

/-- **The program of task `5521c0d9` raises each object by its own height.** Suppose that the copies of the
objects, each shifted up by the height of its object, have no locations in common. The result has the dimensions
of the input. Where a cell of an object rises to, the result has its color; everywhere else it has the most
frequent color of the input. What rises above the first row is lost. -/
theorem raises_objects_by_their_height (g : Board Int) {found : Value}
    (hobjects : Grid.objects g.grid (.bool true) (.bool false) (.bool true) = .ok found)
    (apart : found.RaisedApart) :
    ∃ (background : Int) (out : Board Int), Grid.mostColor g.grid = .ok (.int background) ∧
      Task.solve "5521c0d9" g.grid = .ok out.grid ∧ out.height = g.height ∧ out.width = g.width ∧
      ∀ l, g.Inside l → (∀ v, found.RisesTo v l → out.cell l = v) ∧
        ((∀ v, ¬ found.RisesTo v l) → out.cell l = background) := by
  obtain ⟨found', hobjects', hfound⟩ := g.exists_objects true false true
  obtain rfl : found = found' := Except.ok.inj (hobjects.symm.trans hobjects')
  obtain ⟨raised, cells, hrun⟩ := exists_run_raising hobjects hfound
  obtain ⟨out, hpaint, height, width, drawn⟩ := exists_paint g.blank cells
    fun c c' l rises rises' => color_unique_of_apart hfound apart rises rises'
  refine ⟨g.background, out, g.mostColor_grid, ?_, height.trans (height_redraw g _), width, fun l hl => ?_⟩
  · rw [Task.solve_eq_run program_raising, hrun _ hpaint]
  · obtain ⟨color, kept⟩ := drawn l (inside_redraw.mpr hl)
    refine ⟨color, fun none => ?_⟩
    rw [kept none, blank, cell_redraw hl]

/-- A board with two objects of different heights; the higher one has not enough room to rise. -/
def twoTowers : Board Int where
  rows := [[0, 0], [5, 0], [5, 1], [0, 0]]
  width := 2
  rows_ne_nil := List.cons_ne_nil _ _
  width_pos := Nat.two_pos
  length_row := by decide

theorem background_twoTowers : twoTowers.background = 0 :=
  background_eq_of_most (by decide) (by decide)

theorem eligible_twoTowers_iff {l : Location} :
    twoTowers.Eligible true l ↔ l = (1, 0) ∨ l = (2, 0) ∨ l = (2, 1) := by
  rw [Eligible, background_twoTowers]
  constructor
  · intro h
    have cells : twoTowers.cell l ≠ 0 → l = (1, 0) ∨ l = (2, 0) ∨ l = (2, 1) :=
      forall_inside (p := fun l => twoTowers.cell l ≠ 0 → l = (1, 0) ∨ l = (2, 0) ∨ l = (2, 1)) (by decide) h.1
    exact cells (h.2 rfl)
  · intro h
    rcases h with rfl | rfl | rfl <;> decide

/-- The objects of the board are its two columns. -/
theorem connected_of_column {k l : Location} (hk : twoTowers.Eligible true k) (hl : twoTowers.Eligible true l)
    (column : k.2 = l.2) : twoTowers.Connected true false true k l := by
  have step : twoTowers.SideStep 5 (1, 0) (2, 0) := ⟨by decide, by decide, by decide⟩
  have high : twoTowers.Connected true false true (1, 0) (2, 0) :=
    .single (step.link fun _ => background_twoTowers ▸ by decide)
  rcases eligible_twoTowers_iff.mp hk with rfl | rfl | rfl <;>
    rcases eligible_twoTowers_iff.mp hl with rfl | rfl | rfl
  case inl.inl | inr.inl.inr.inl | inr.inr.inr.inr => exact .refl
  case inl.inr.inl => exact high
  case inr.inl.inl => exact high.symm
  all_goals exact absurd column (by decide)

theorem raisedApart_twoTowers (hfound : found.IsSetOf (twoTowers.IsClassObject true false true)) :
    found.RaisedApart := by
  intro o ho o' ho' differ copy copy' raised raised' l covers covers'
  obtain ⟨k, hk, hobject⟩ := (hfound.mem_iff o).mp ho
  obtain ⟨k', hk', hobject'⟩ := (hfound.mem_iff o').mp ho'
  obtain ⟨h, below⟩ := hobject.below_of_covers ⟨k, .refl⟩ raised covers
  obtain ⟨h', below'⟩ := hobject'.below_of_covers ⟨k', .refl⟩ raised' covers'
  have joined : twoTowers.Connected true false true k (l.1 + h', l.2) :=
    below.trans (connected_of_column (below.eligible hk) (below'.eligible hk') rfl)
  exact differ (eq_of_mem_objects hfound ho ho' (hobject.cellValue_mem.mpr joined)
    (hobject'.cellValue_mem.mpr below'))

theorem hasColor_five_iff {l : Location} : twoTowers.HasColor 5 l ↔ l = (1, 0) ∨ l = (2, 0) := by
  constructor
  · intro h
    have eligible : twoTowers.Eligible true l := ⟨h.1, fun _ => by rw [h.2, background_twoTowers]; decide⟩
    rcases eligible_twoTowers_iff.mp eligible with rfl | rfl | rfl
    · exact .inl rfl
    · exact .inr rfl
    · exact absurd h.2 (by decide)
  · intro h
    rcases h with rfl | rfl <;> exact ⟨by decide, rfl⟩

theorem height_fives : Patch.height (twoTowers.colorClass 5) = .ok 2 := by
  have object := twoTowers.isObject_colorClass 5
  have bounds : Bounds (twoTowers.HasColor 5) ⟨1, 0, 2, 0⟩ := by
    constructor <;> simp [isLeast_image_iff, isGreatest_image_iff, hasColor_five_iff]
  have places : Places (Colored fun c l => twoTowers.HasColor 5 l ∧ c = twoTowers.cell l) = twoTowers.HasColor 5 :=
    funext fun l => propext places_object
  exact (isFigure_colored_iff.mpr object.isCellSet).height (places ▸ bounds)

/-- The higher object has not enough room: its lower cell rises to the first row. -/
theorem raises_two_towers :
    ∃ found, Grid.objects twoTowers.grid (.bool true) (.bool false) (.bool true) = .ok found ∧
      found.RaisedApart ∧
      ∃ out : Board Int, Task.solve "5521c0d9" twoTowers.grid = .ok out.grid ∧ out.cell (0, 0) = 5 := by
  obtain ⟨found, hobjects, hfound⟩ := twoTowers.exists_objects true false true
  have apart := raisedApart_twoTowers hfound
  obtain ⟨_, out, -, solved, -, -, cells⟩ := raises_objects_by_their_height twoTowers hobjects apart
  have fives : found.IsOnlyObject 5 (twoTowers.colorClass 5) := by
    have start : twoTowers.Eligible true (2, 0) := eligible_twoTowers_iff.mpr (.inr (.inl rfl))
    refine isOnlyObject_of_connected hfound start rfl fun l hl => ?_
    rcases hasColor_five_iff.mp hl with rfl | rfl
    · exact connected_of_column start (eligible_twoTowers_iff.mpr (.inl rfl)) rfl
    · exact .refl
  have rises : found.RisesTo 5 (0, 0) := by
    refine ⟨_, ((fives _).mpr rfl).1, 2, height_fives, ?_⟩
    exact (twoTowers.isObject_colorClass 5).isCellSet.pair_mem_iff.mpr ⟨hasColor_five_iff.mpr (.inr rfl), rfl⟩
  exact ⟨found, hobjects, apart, out, solved, (cells (0, 0) (by decide)).1 5 rises⟩

end Board

end GridPuzzle
