import GridPuzzle.Proofs.PatchTranslation

/-!
# Patches at the origin

A patch that is moved so that its upper left corner is the origin has lost its place, and only its place: two patches
become the same in this way exactly if one is the other, shifted. The vector is the one between the two corners.

Programs compare patches by `==`, for which the truth values are numbers, also as colors. Two patches are equal in
this sense if each spot of the one has an equal spot in the other (`Value.IsFigure.beq_iff`), and moving them changes
nothing about that (`Value.Matching.moved`).
-/

namespace GridPuzzle

theorem Box.corner_comp_toOrigin (box : Box) : box.corner.shift ∘ box.toOrigin.shift = id := by
  funext l
  exact Prod.ext (Int.neg_add_cancel_right ..) (Int.neg_add_cancel_right ..)

namespace Value

/-! ## Equal patches -/

variable {v w : Value} {S T : Spot → Prop} {box : Box} {d : Location}

/-- Each spot with one of two properties has an equal one with the other property. -/
structure Matching (S T : Spot → Prop) : Prop where
  left : ∀ r, S r → ∃ s, T s ∧ r.SameColor s ∧ r.place = s.place
  right : ∀ s, T s → ∃ r, S r ∧ r.SameColor s ∧ r.place = s.place

/-- Patches are equal if their spots are. -/
theorem IsFigure.beq_iff (hv : v.IsFigure S) (hw : w.IsFigure T) : (v == w) = true ↔ Matching S T := by
  have hS := hv.isSetOf.mem_itemList
  have hT := hw.isSetOf.mem_itemList
  rw [hv.isSetOf.beq_iff hw.isSetOf]
  constructor
  · intro h
    constructor
    · intro r hr
      rcases h.1 _ ((hS _).mpr ⟨r, hr, rfl⟩) with ⟨y, hy, heq⟩
      rcases (hT y).mp hy with ⟨s, hs, rfl⟩
      exact ⟨s, hs, Spot.toValue_beq_iff.mp heq⟩
    · intro s hs
      rcases h.2 _ ((hT _).mpr ⟨s, hs, rfl⟩) with ⟨x, hx, heq⟩
      rcases (hS x).mp hx with ⟨r, hr, rfl⟩
      exact ⟨r, hr, Spot.toValue_beq_iff.mp heq⟩
  · intro h
    constructor
    · intro x hx
      rcases (hS x).mp hx with ⟨r, hr, rfl⟩
      rcases h.left r hr with ⟨s, hs, same⟩
      exact ⟨_, (hT _).mpr ⟨s, hs, rfl⟩, Spot.toValue_beq_iff.mpr same⟩
    · intro y hy
      rcases (hT y).mp hy with ⟨s, hs, rfl⟩
      rcases h.right s hs with ⟨r, hr, same⟩
      exact ⟨_, (hS _).mpr ⟨r, hr, rfl⟩, Spot.toValue_beq_iff.mpr same⟩

theorem Matching.moved (h : Matching S T) (f : Location → Location) : Matching (Moved f S) (Moved f T) := by
  constructor
  · intro _ moved
    rcases moved with ⟨r, hr, rfl⟩
    rcases h.left r hr with ⟨s, hs, color, place⟩
    exact ⟨s.move f, ⟨s, hs, rfl⟩, color, congrArg f place⟩
  · intro _ moved
    rcases moved with ⟨s, hs, rfl⟩
    rcases h.right s hs with ⟨r, hr, color, place⟩
    exact ⟨r.move f, ⟨r, hr, rfl⟩, color, congrArg f place⟩

/-- Equal patches have the same locations. -/
theorem Matching.places_eq (h : Matching S T) : Places S = Places T := by
  funext l
  refine propext ⟨fun place => ?_, fun place => ?_⟩
  · rcases place with ⟨r, hr, rfl⟩
    rcases h.left r hr with ⟨s, hs, -, place⟩
    exact ⟨s, hs, place.symm⟩
  · rcases place with ⟨s, hs, rfl⟩
    rcases h.right s hs with ⟨r, hr, -, place⟩
    exact ⟨r, hr, place⟩

/-! ## Patches at the origin -/

/-- A shift after another one. -/
theorem IsFigure.shift_of_shift (h : v.IsFigure S) {e : Location} {u : Value}
    (first : Patch.shift v d.toValue = .ok w) (second : Patch.shift w e.toValue = .ok u) :
    Patch.shift v (d.shift e).toValue = .ok u := by
  rcases h.exists_shift d with ⟨w', hw', figure⟩
  obtain rfl : w = w' := Except.ok.inj (first.symm.trans hw')
  rcases figure.exists_shift e with ⟨u', hu', figure'⟩
  obtain rfl : u = u' := Except.ok.inj (second.symm.trans hu')
  rw [moved_comp, Location.shift_comp_shift] at figure'
  exact h.shift_eq figure' fun _ => Iff.rfl

section

variable (h : v.IsFigure S) (hbox : Bounds (Places S) box)
include h hbox

/-- What a patch is at the origin, and the way back from there. -/
theorem IsFigure.exists_at_origin :
    ∃ w, Patch.toOrigin v = .ok w ∧ w.IsFigure (Moved box.toOrigin.shift S) ∧
      Patch.shift v box.toOrigin.toValue = .ok w ∧ Patch.shift w box.corner.toValue = .ok v ∧
      Patch.upperLeft w = .ok (.location 0 0) := by
  rcases h.exists_toOrigin hbox with ⟨w, hw, figure⟩
  refine ⟨w, hw, figure, h.shift_eq figure fun _ => Iff.rfl, figure.shift_eq h fun s => ?_, ?_⟩
  · rw [moved_moved, box.corner_comp_toOrigin, moved_id]
  · have corner := figure.isPatch.upperLeft (bounds_shifted hbox box.toOrigin)
    simpa [Box.shift, Box.toOrigin] using corner

/-- Equal patches are equal at the origin. -/
theorem IsFigure.toOrigin_beq (h' : w.IsFigure T) (same : (v == w) = true) :
    ∃ v' w', Patch.toOrigin v = .ok v' ∧ Patch.toOrigin w = .ok w' ∧ (v' == w') = true := by
  have spots := (h.beq_iff h').mp same
  rcases h.exists_toOrigin hbox with ⟨v', hv', figure⟩
  rcases h'.exists_toOrigin (spots.places_eq ▸ hbox) with ⟨w', hw', figure'⟩
  exact ⟨v', w', hv', hw', (figure.beq_iff figure').mpr (spots.moved _)⟩

end

/-- **A patch at the origin is a normal form for translation.** Two patches that are not empty are the same at the
origin exactly if a vector shifts the one to the other, and they are equal there exactly if a vector shifts the one to
a patch that equals the other. At the origin the upper left corner of a patch is the origin, and the vector to its
former corner shifts it back. -/
theorem toOrigin_is_normal_form {p q : Value} (hp : p.IsFigure S) (hq : q.IsFigure T) (some : ∃ s, S s)
    (some' : ∃ s, T s) :
    ∃ p' q', Patch.toOrigin p = .ok p' ∧ Patch.toOrigin q = .ok q' ∧
      (p' = q' ↔ ∃ d : Location, Patch.shift p d.toValue = .ok q) ∧
      ((p' == q') = true ↔ ∃ (d : Location) (r : Value), Patch.shift p d.toValue = .ok r ∧ (r == q) = true) ∧
      Patch.upperLeft p' = .ok (.location 0 0) ∧
      ∃ corner, Patch.upperLeft p = .ok corner ∧ Patch.shift p' corner = .ok p := by
  rcases hp.exists_bounds some with ⟨box, hbox⟩
  rcases hq.exists_bounds some' with ⟨box', hbox'⟩
  rcases hp.exists_at_origin hbox with ⟨p', hp', figure, there, back, corner⟩
  rcases hq.exists_at_origin hbox' with ⟨q', hq', figure', -, back', -⟩
  -- A shifted patch is at the origin what the patch is there.
  have shifted {d : Location} {r : Value} (hr : Patch.shift p d.toValue = .ok r) :
      r.IsFigure (Moved d.shift S) ∧ Patch.toOrigin r = .ok p' := by
    rcases hp.exists_shift d with ⟨r', hr', moved⟩
    obtain rfl : r = r' := Except.ok.inj (hr.symm.trans hr')
    rcases hp.toOrigin_shift hbox moved with ⟨u, hu, hu'⟩
    exact ⟨moved, hu'.trans (hu.symm.trans hp')⟩
  refine ⟨p', q', hp', hq', ⟨fun same => ?_, fun shift => ?_⟩, ⟨fun same => ?_, fun shift => ?_⟩, corner, _,
    hp.isPatch.upperLeft hbox, back⟩
  · subst same
    exact ⟨_, hp.shift_of_shift there back'⟩
  · rcases shift with ⟨d, hd⟩
    exact Except.ok.inj ((shifted hd).2.symm.trans hq')
  · rcases figure.exists_shift box'.corner with ⟨r, hr, moved⟩
    rcases figure'.exists_shift box'.corner with ⟨u, hu, moved'⟩
    obtain rfl : q = u := Except.ok.inj (back'.symm.trans hu)
    exact ⟨_, r, hp.shift_of_shift there hr, (moved.beq_iff moved').mpr (((figure.beq_iff figure').mp same).moved _)⟩
  · rcases shift with ⟨d, r, hr, same⟩
    rcases shifted hr with ⟨moved, hr'⟩
    rcases moved.toOrigin_beq (bounds_shifted hbox d) hq same with ⟨u, u', hu, hu', equal⟩
    obtain rfl : p' = u := Except.ok.inj (hr'.symm.trans hu)
    obtain rfl : q' = u' := Except.ok.inj (hq'.symm.trans hu')
    exact equal

/-- The hook, seven rows further down and three columns further left. -/
def movedHook : List Spot :=
  hook.map (Spot.move (Location.shift (7, -3)))

theorem hook_and_moved_hook_at_origin :
    (setOf (hook.map Spot.toValue)).IsFigure (· ∈ hook) ∧
    (setOf (movedHook.map Spot.toValue)).IsFigure (· ∈ movedHook) ∧
    ∃ p', Patch.toOrigin (setOf (hook.map Spot.toValue)) = .ok p' ∧
      Patch.toOrigin (setOf (movedHook.map Spot.toValue)) = .ok p' ∧
      Patch.shift p' (.location (-2) 4) = .ok (setOf (hook.map Spot.toValue)) := by
  have figure : (setOf (movedHook.map Spot.toValue)).IsFigure (· ∈ movedHook) := by
    refine isFigure_setOf ?_ ?_ <;> simp [movedHook, hook, Spot.SameColor, Spot.move, Location.shift]
  have moved : Patch.shift (setOf (hook.map Spot.toValue)) (Location.toValue (7, -3)) =
      .ok (setOf (movedHook.map Spot.toValue)) := by
    refine isFigure_hook.shift_eq figure fun s => ?_
    simp only [movedHook, List.mem_map, Moved, eq_comm]
  have corner := isFigure_hook.isPatch.upperLeft bounds_hook
  rcases toOrigin_is_normal_form isFigure_hook figure ⟨_, List.mem_cons_self⟩ ⟨_, List.mem_cons_self⟩ with
    ⟨p', q', hp', hq', same, -, -, corner', hcorner, back⟩
  obtain rfl := same.mpr ⟨_, moved⟩
  obtain rfl := Except.ok.inj (corner.symm.trans hcorner)
  exact ⟨isFigure_hook, figure, p', hp', hq', back⟩

end Value

end GridPuzzle
