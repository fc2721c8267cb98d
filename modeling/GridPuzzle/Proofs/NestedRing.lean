import GridPuzzle.Proofs.PatchOutline
import GridPuzzle.Proofs.ProgramRun

/-!
# Rings around a patch

The rings of a patch are borders of boxes: of its own box, and of that box with each side moved outwards or inwards.
A border has the box that it is the border of (`Value.IsBorder.bounds`), so a ring of a ring is again the border of a
grown box, and boxes grow one after another as long as no sides pass each other (`Box.grown_grown`).

Sides that are moved inwards pass each other if the patch is less than three rows high or three columns wide, and are
then exchanged. In a box of two rows this gives the two rows back. In a box of one row it gives the row above and the
row below, so that the inner ring leaves the box (`Box.inner_inside_iff`).
-/

namespace GridPuzzle

namespace Box

variable {box : Box} {l : Location} {m n : Int}

/-- No sides of the box have passed each other. -/
def Proper (box : Box) : Prop :=
  box.top ≤ box.bottom ∧ box.left ≤ box.right

/-- No sides of the box pass each other when they are moved outwards. -/
def Grows (outwards : Int) (box : Box) : Prop :=
  box.top - outwards ≤ box.bottom + outwards ∧ box.left - outwards ≤ box.right + outwards

theorem Proper.grows (h : box.Proper) (nonneg : 0 ≤ n) : box.Grows n := by
  unfold Proper at h
  unfold Grows
  omega

theorem proper_grown (box : Box) (outwards : Int) : (box.grown outwards).Proper :=
  ⟨Int.le_trans (Int.min_le_left ..) (Int.le_max_left ..), Int.le_trans (Int.min_le_left ..) (Int.le_max_left ..)⟩

theorem Grows.grown_eq (h : box.Grows n) :
    box.grown n = ⟨box.top - n, box.left - n, box.bottom + n, box.right + n⟩ := by
  rw [grown, min_eq_left h.1, min_eq_left h.2, max_eq_right h.1, max_eq_right h.2]

theorem grown_zero (h : box.Proper) : box.grown 0 = box := by
  rw [(h.grows (Int.le_refl 0)).grown_eq, Int.sub_zero, Int.sub_zero, Int.add_zero, Int.add_zero]

theorem grown_grown (h : box.Grows m) (n : Int) : (box.grown m).grown n = box.grown (m + n) := by
  rw [h.grown_eq]
  simp only [grown, Int.sub_sub, Int.add_assoc]

theorem Proper.grows_back (h : box.Proper) (grows : box.Grows m) : (box.grown m).Grows (-m) := by
  unfold Proper at h
  rw [grows.grown_eq]
  simp only [Grows]
  omega

/-- Inside its border a box is the box with each side moved inwards. -/
theorem holds_inner_iff (h : box.Grows (-1)) : (box.grown (-1)).Holds l ↔ box.Holds l ∧ ¬ box.OnBorder l := by
  rw [h.grown_eq]
  simp only [Holds, OnBorder]
  omega

/-- The box with each side moved inwards stays in the box if this is not a single row or a single column. -/
theorem inner_inside_iff :
    (∀ l, (box.grown (-1)).OnBorder l → box.Holds l) ↔ box.top < box.bottom ∧ box.left < box.right := by
  simp only [OnBorder, Holds, grown]
  constructor
  · intro inside
    have corner := inside (min (box.top - -1) (box.bottom + -1), min (box.left - -1) (box.right + -1))
      (.inl ⟨⟨Int.le_refl _, by omega⟩, .inl rfl⟩)
    simp only at corner
    omega
  · intro wide l hl
    omega

/-- Sides that pass each other by two places are where moving them outwards takes them. -/
theorem grown_inwards_of_single (row : box.top = box.bottom) (column : box.left = box.right) :
    box.grown (-1) = box.grown 1 := by
  simp only [grown, row, column, mk.injEq]
  omega

end Box

theorem Bounds.proper {P : Location → Prop} {box : Box} (h : Bounds P box) : box.Proper := by
  rcases h.exists_location with ⟨l, hl⟩
  exact ⟨(h.row_mem hl).1.trans (h.row_mem hl).2, (h.column_mem hl).1.trans (h.column_mem hl).2⟩

/-- Some locations have one box. -/
theorem Bounds.unique {P : Location → Prop} {box box' : Box} (h : Bounds P box) (h' : Bounds P box') : box = box' := by
  rcases box with ⟨top, left, bottom, right⟩
  rcases box' with ⟨top', left', bottom', right'⟩
  rw [Box.mk.injEq]
  exact ⟨h.top.unique h'.top, h.left.unique h'.left, h.bottom.unique h'.bottom, h.right.unique h'.right⟩

namespace Value

variable {v w p : Value} {S : Spot → Prop} {P Q : Location → Prop} {box : Box} {n : Int}

theorem bounds_onBorder (h : box.Proper) : Bounds box.OnBorder box := by
  rcases h with ⟨rows, columns⟩
  -- Each side is taken at a corner.
  constructor <;> simp only [isLeast_image_iff, isGreatest_image_iff, Box.OnBorder]
  · exact ⟨⟨(box.top, box.left), by simp [rows], rfl⟩, fun l hl => by omega⟩
  · exact ⟨⟨(box.top, box.left), by simp [rows], rfl⟩, fun l hl => by omega⟩
  · exact ⟨⟨(box.bottom, box.left), by simp [rows], rfl⟩, fun l hl => by omega⟩
  · exact ⟨⟨(box.top, box.right), by simp [rows], rfl⟩, fun l hl => by omega⟩

theorem IsLocationSet.of_iff (h : v.IsLocationSet P) (same : ∀ l, P l ↔ Q l) : v.IsLocationSet Q :=
  IsSetOf.congr h fun _ => exists_congr fun l => and_congr_left' (same l)

theorem IsLocationSet.subset_iff (h : v.IsLocationSet P) (h' : w.IsLocationSet Q) :
    (∀ x ∈ v, x ∈ w) ↔ ∀ l, P l → Q l := by
  rw [h.forall_mem_iff]
  simp only [h'.toValue_mem_iff]

/-! ## Borders as patches -/

/-- The value is the set of the locations on the border of a box. -/
structure IsBorder (v : Value) (box : Box) : Prop where
  proper : box.Proper
  places : v.IsLocationSet box.OnBorder

theorem places_bare_eq : Places (Bare P) = P :=
  funext fun _ => propext places_bare

theorem IsBorder.isFigure (h : v.IsBorder box) : v.IsFigure (Bare box.OnBorder) :=
  h.places.isFigure

/-- The box of a border is the box that it is the border of. -/
theorem IsBorder.bounds (h : v.IsBorder box) : Bounds (Places (Bare box.OnBorder)) box := by
  rw [places_bare_eq]
  exact bounds_onBorder h.proper

theorem IsBorder.unique (h : v.IsBorder box) (h' : w.IsBorder box) : v = w :=
  IsSetOf.unique h.places h'.places

section

variable (h : v.IsFigure S) (hbox : Bounds (Places S) box)
include h hbox

/-- A ring of a patch is the border of its grown box. -/
theorem IsFigure.exists_isBorder_ringAt (outwards : Int) :
    ∃ w, Patch.ringAt outwards v = .ok w ∧ w.IsBorder (box.grown outwards) := by
  rcases h.exists_ringAt hbox outwards with ⟨w, heq, places⟩
  exact ⟨w, heq, box.proper_grown outwards, places⟩

theorem IsFigure.exists_isBorder_ring : ∃ w, Patch.ring v = .ok w ∧ w.IsBorder box := by
  rcases h.exists_ring hbox with ⟨w, heq, places⟩
  rw [Box.grown_zero hbox.proper] at places
  exact ⟨w, heq, hbox.proper, places⟩

/-- A ring of a ring is the border of the box that has grown twice. -/
theorem IsFigure.exists_ringAt_ringAt {outwards : Int} (grows : box.Grows outwards) (further : Int) :
    ∃ w u, Patch.ringAt outwards v = .ok w ∧ w.IsBorder (box.grown outwards) ∧
      Patch.ringAt further w = .ok u ∧ u.IsBorder (box.grown (outwards + further)) := by
  rcases h.exists_isBorder_ringAt hbox outwards with ⟨w, heq, border⟩
  rcases border.isFigure.exists_isBorder_ringAt border.bounds further with ⟨u, heq', border'⟩
  rw [Box.grown_grown grows] at border'
  exact ⟨w, u, heq, border, heq', border'⟩

/-- A ring and the ring back from it cancel out, if no sides pass each other. -/
theorem IsFigure.exists_ringAt_back {outwards : Int} (grows : box.Grows outwards) :
    ∃ w ring, Patch.ringAt outwards v = .ok w ∧ w.IsBorder (box.grown outwards) ∧
      Patch.ringAt (-outwards) w = .ok ring ∧ Patch.ring v = .ok ring := by
  rcases h.exists_ringAt_ringAt hbox grows (-outwards) with ⟨w, u, heq, border, back, border'⟩
  rcases h.exists_isBorder_ring hbox with ⟨ring, hring, border''⟩
  rw [Int.add_right_neg, Box.grown_zero hbox.proper] at border'
  rw [border'.unique border''] at back
  exact ⟨w, ring, heq, border, back, hring⟩

end

/-- What a border leaves of its box is the box with each side moved inwards. -/
theorem IsBorder.exists_boxRest (h : v.IsBorder box) (grows : box.Grows (-1)) :
    ∃ w, Patch.boxRest v = .ok w ∧ w.IsLocationSet (box.grown (-1)).Holds := by
  rcases h.isFigure.exists_boxRest h.bounds with ⟨w, heq, places⟩
  rw [places_bare_eq] at places
  exact ⟨w, heq, places.of_iff fun _ => (Box.holds_inner_iff grows).symm⟩

/-! ## Rings around rings -/

/-- After a number of outer rings the box of the patch has grown as often, and the last ring is its border. -/
structure RingedTimes (box : Box) (k : Nat) (v : Value) : Prop where
  bounds : ∃ S, v.IsFigure S ∧ Bounds (Places S) (box.grown k)
  border : 0 < k → v.IsLocationSet (box.grown k).OnBorder

theorem RingedTimes.zero (h : p.IsFigure S) (hbox : Bounds (Places S) box) : RingedTimes box 0 p := by
  refine ⟨⟨S, h, ?_⟩, fun positive => absurd positive (Nat.lt_irrefl 0)⟩
  rwa [Int.natCast_zero, Box.grown_zero hbox.proper]

theorem RingedTimes.exists_outerRing (proper : box.Proper) {k : Nat} (h : RingedTimes box k v) :
    ∃ w, Patch.outerRing v = .ok w ∧ RingedTimes box (k + 1) w := by
  rcases h.bounds with ⟨S, figure, bounds⟩
  rcases figure.exists_isBorder_ringAt bounds 1 with ⟨w, heq, border⟩
  rw [Box.grown_grown (proper.grows (Int.natCast_nonneg k)), ← Int.natCast_succ] at border
  exact ⟨w, heq, ⟨_, border.isFigure, border.bounds⟩, fun _ => border.places⟩

theorem call_outerRing (depth : Nat) (heq : Patch.outerRing v = .ok w) :
    Value.call (depth + 1) (.prim .outerRing) [v] = pure w := by
  rw [call_prim]
  exact Eval.lift_ok heq

/-- The outer ring, taken a number of times by a function that is composed with itself. -/
theorem IsFigure.exists_iterate_outerRing (h : p.IsFigure S) (hbox : Bounds (Places S) box) (positive : 1 ≤ n) :
    ∃ far, (do apply (← apply (.prim .iterate) [.prim .outerRing, .int n]) [p]).Yields far ∧
      far.IsBorder (box.grown n) := by
  have count : (n.toNat : Int) = n := Int.toNat_of_nonneg (by omega)
  have step : ∀ k v, RingedTimes box k v →
      ∃ w, Value.call 1000 (.prim .outerRing) [v] = pure w ∧ RingedTimes box (k + 1) w := by
    intro k v ringed
    rcases ringed.exists_outerRing hbox.proper with ⟨w, heq, ringed'⟩
    exact ⟨w, call_outerRing 999 heq, ringed'⟩
  have each : ∀ s, ∃ far t, (do apply (← apply (.prim .iterate) [.prim .outerRing, .int n]) [p]).Gives s far t ∧
      far.IsBorder (box.grown n) := by
    intro s
    rcases exists_iterate (.prim .outerRing) positive 1000 s with ⟨iterated, t, built, iterates⟩
    rcases iterates _ step p (.zero h hbox) with ⟨far, called, ringed⟩
    refine ⟨far, t, Eval.Gives.bind built ?_, box.proper_grown n, ?_⟩
    · change (Value.call 1000 iterated [p]).Gives t far t
      rw [called]
      exact Eval.gives_pure t far
    · have border := ringed.border (by omega)
      rwa [count] at border
  -- The serial numbers of the built functions do not show in the ring.
  rcases each 0 with ⟨far, -, -, border⟩
  refine ⟨far, fun s => ?_, border⟩
  rcases each s with ⟨far', t, gives, border'⟩
  rw [border'.unique border] at gives
  exact ⟨t, gives⟩

/-! ## Nested rings -/

/-- **Rings nest.** A patch that is not empty has a box; its ring is the border of the box, and its bounding box is all
of it. Outer rings, taken one around the other, move each side outwards by their number. The inner ring of the outer
ring is the ring, and what the outer ring leaves of its box is the bounding box of the patch. If the patch has at least
three rows and three columns, the box of the inner ring is the bounding box without the ring, and the outer ring of the
inner ring is the ring. -/
theorem rings_nest (hp : p.IsFigure S) (some : ∃ s, S s) :
    ∃ (box : Box) (whole ring outer : Value) (height width : Int), Bounds (Places S) box ∧
      Patch.ring p = .ok ring ∧ ring.IsLocationSet box.OnBorder ∧
      Patch.boundingBox p = .ok whole ∧ whole.IsLocationSet box.Holds ∧
      (∀ n : Int, 1 ≤ n → ∃ far,
        (do apply (← apply (.prim .iterate) [.prim .outerRing, .int n]) [p]).Yields far ∧
        far.IsLocationSet (Box.OnBorder ⟨box.top - n, box.left - n, box.bottom + n, box.right + n⟩)) ∧
      Patch.outerRing p = .ok outer ∧ Patch.innerRing outer = .ok ring ∧ Patch.boxRest outer = .ok whole ∧
      Patch.height p = .ok height ∧ Patch.width p = .ok width ∧
      (3 ≤ height → 3 ≤ width → ∃ inner core, Patch.innerRing p = .ok inner ∧
        Patch.boundingBox inner = .ok core ∧ whole.sub ring = .ok core ∧ Patch.outerRing inner = .ok ring) := by
  rcases hp.exists_bounds some with ⟨box, hbox⟩
  have proper := hbox.proper
  rcases hp.exists_isBorder_ring hbox with ⟨ring, hring, border⟩
  rcases hp.exists_boundingBox hbox with ⟨whole, hwhole, holds⟩
  rcases hp.exists_ringAt_back hbox (proper.grows Int.one_nonneg) with ⟨outer, ring', houter, around, back, hring'⟩
  obtain rfl : ring = ring' := Except.ok.inj (hring.symm.trans hring')
  refine ⟨box, whole, ring, outer, _, _, hbox, hring, border.places, hwhole, holds, fun n positive => ?_, houter, back,
    ?_, hp.height hbox, hp.width hbox, fun high wide => ?_⟩
  · rcases hp.exists_iterate_outerRing hbox positive with ⟨far, yields, border'⟩
    rw [(proper.grows (by omega)).grown_eq] at border'
    exact ⟨far, yields, border'.places⟩
  · have grows := proper.grows Int.one_nonneg
    rcases around.exists_boxRest (proper.grows_back grows) with ⟨rest, hrest, places⟩
    rw [Box.grown_grown grows, Int.add_right_neg, Box.grown_zero proper] at places
    rw [hrest, IsSetOf.unique places holds]
  · have grows : box.Grows (-1) := ⟨by omega, by omega⟩
    rcases hp.exists_ringAt_back hbox grows with ⟨inner, ring', hinner, within, out, hring''⟩
    obtain rfl : ring = ring' := Except.ok.inj (hring.symm.trans hring'')
    rcases within.isFigure.exists_boundingBox within.bounds with ⟨core, hcore, places⟩
    rcases holds.exists_sub border.places with ⟨rest, hrest, places'⟩
    rw [IsSetOf.unique places' (places.of_iff fun _ => Box.holds_inner_iff grows)] at hrest
    exact ⟨inner, core, hinner, hcore, hrest, out⟩

/-- The two cells at opposite corners of a square. -/
def oppositeSpots (n : Int) : List Spot :=
  [⟨some (.int 5), (0, 0)⟩, ⟨some (.int 5), (n, n)⟩]

/-- The object of the two cells. -/
def opposite (n : Int) : Value :=
  setOf ((oppositeSpots n).map Spot.toValue)

theorem isFigure_opposite (n : Int) : (opposite n).IsFigure (· ∈ oppositeSpots n) := by
  refine isFigure_setOf ?_ ?_ <;> simp [oppositeSpots, Spot.SameColor]

theorem bounds_opposite {n : Int} (nonneg : 0 ≤ n) : Bounds (Places (· ∈ oppositeSpots n)) ⟨0, 0, n, n⟩ := by
  constructor <;> simp [isLeast_image_iff, isGreatest_image_iff, Places, oppositeSpots] <;> omega

theorem rings_of_opposite_corners :
    (opposite 2).IsFigure (· ∈ oppositeSpots 2) ∧ (∃ s, s ∈ oppositeSpots 2) ∧
    ∃ ring inner far, Patch.ring (opposite 2) = .ok ring ∧ Patch.innerRing (opposite 2) = .ok inner ∧
      Patch.outerRing inner = .ok ring ∧
      (do apply (← apply (.prim .iterate) [.prim .outerRing, .int 4]) [opposite 2]).Yields far ∧
      location (-4) 6 ∈ far := by
  have figure := isFigure_opposite 2
  have bounds := bounds_opposite (n := 2) (by decide)
  have some : ∃ s, s ∈ oppositeSpots 2 := ⟨_, List.mem_cons_self⟩
  rcases rings_nest figure some with
    ⟨box, whole, ring, outer, height, width, hbox, hring, -, -, -, around, -, -, -, hheight, hwidth, nest⟩
  obtain rfl := Except.ok.inj (hheight.symm.trans (figure.height bounds))
  obtain rfl := Except.ok.inj (hwidth.symm.trans (figure.width bounds))
  rcases nest (by decide) (by decide) with ⟨inner, -, hinner, -, -, out⟩
  rcases around 4 (by decide) with ⟨far, yields, places⟩
  refine ⟨figure, some, ring, inner, far, hring, hinner, out, yields, (places.toValue_mem_iff (l := (-4, 6))).mpr ?_⟩
  rw [hbox.unique bounds]
  simp only [Box.OnBorder]
  omega

/-! ## Thin patches -/

/-- The inner ring of a patch that is not empty stays in the bounding box exactly if the patch has at least two rows and
two columns. It is the border of the box with each side moved inwards, where sides that have passed each other are
exchanged; the inner ring of a single location is its outer ring. -/
theorem inner_ring_inside_iff_two_high_and_wide (hp : p.IsFigure S) (some : ∃ s, S s) :
    ∃ (box : Box) (inner whole : Value) (height width : Int), Bounds (Places S) box ∧
      Patch.innerRing p = .ok inner ∧ inner.IsLocationSet (box.grown (-1)).OnBorder ∧
      Patch.boundingBox p = .ok whole ∧ Patch.height p = .ok height ∧ Patch.width p = .ok width ∧
      ((∀ x ∈ inner, x ∈ whole) ↔ 2 ≤ height ∧ 2 ≤ width) ∧
      (height = 1 → width = 1 → Patch.outerRing p = .ok inner) := by
  rcases hp.exists_bounds some with ⟨box, hbox⟩
  rcases hp.exists_isBorder_ringAt hbox (-1) with ⟨inner, hinner, border⟩
  rcases hp.exists_boundingBox hbox with ⟨whole, hwhole, holds⟩
  refine ⟨box, inner, whole, _, _, hbox, hinner, border.places, hwhole, hp.height hbox, hp.width hbox, ?_, ?_⟩
  · rw [border.places.subset_iff holds, Box.inner_inside_iff]
    omega
  · intro low narrow
    rcases hp.exists_isBorder_ringAt hbox 1 with ⟨outer, houter, border'⟩
    rw [← Box.grown_inwards_of_single (by omega) (by omega)] at border'
    rw [Patch.outerRing, houter, border'.unique border]

theorem inner_ring_of_opposite_corners_inside :
    (opposite 1).IsFigure (· ∈ oppositeSpots 1) ∧ (∃ s, s ∈ oppositeSpots 1) ∧
    ∃ inner whole, Patch.innerRing (opposite 1) = .ok inner ∧ Patch.boundingBox (opposite 1) = .ok whole ∧
      ∀ x ∈ inner, x ∈ whole := by
  have figure := isFigure_opposite 1
  have bounds := bounds_opposite (n := 1) (by decide)
  have some : ∃ s, s ∈ oppositeSpots 1 := ⟨_, List.mem_cons_self⟩
  rcases inner_ring_inside_iff_two_high_and_wide figure some with
    ⟨box, inner, whole, height, width, -, hinner, -, hwhole, hheight, hwidth, inside, -⟩
  obtain rfl := Except.ok.inj (hheight.symm.trans (figure.height bounds))
  obtain rfl := Except.ok.inj (hwidth.symm.trans (figure.width bounds))
  exact ⟨figure, some, inner, whole, hinner, hwhole, inside.mpr (by decide)⟩

/-- The inner ring of a single location lies around it. -/
theorem inner_ring_of_single_location_outside :
    ∃ inner whole, Patch.innerRing (setOf [location 0 0]) = .ok inner ∧
      Patch.boundingBox (setOf [location 0 0]) = .ok whole ∧ location (-1) (-1) ∈ inner ∧
      location (-1) (-1) ∉ whole := by
  have places : (setOf ([((0, 0) : Location)].map Location.toValue)).IsLocationSet (· = (0, 0)) :=
    isLocationSet_setOf fun _ => List.mem_singleton
  have bounds : Bounds (Places (Bare (· = (0, 0)))) ⟨0, 0, 0, 0⟩ := by
    rw [places_bare_eq]
    constructor <;> simp
  rcases places.isFigure.exists_isBorder_ringAt bounds (-1) with ⟨inner, hinner, border⟩
  rcases places.isFigure.exists_boundingBox bounds with ⟨whole, hwhole, holds⟩
  refine ⟨inner, whole, hinner, hwhole, (border.places.toValue_mem_iff (l := (-1, -1))).mpr ?_, fun inside => ?_⟩
  · simp [Box.OnBorder, Box.grown]
  · have held : Box.Holds ⟨0, 0, 0, 0⟩ (-1, -1) := holds.toValue_mem_iff.mp inside
    simp [Box.Holds] at held

end Value

end GridPuzzle
