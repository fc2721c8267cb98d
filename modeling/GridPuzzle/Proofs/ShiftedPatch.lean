import GridPuzzle.Proofs.PatchFigure
import Mathlib.Order.Bounds.Image

/-!
# Shifted patches

A shift moves every spot of a patch by one vector (`IsFigure.exists_shift`), and with them the box that bounds
the patch (`bounds_shifted`) and the middle of that box (`Box.center_shift`). A set of locations is a patch
whose spots have no color (`IsLocationSet.isFigure`), so what holds of shifted patches holds of it.
-/

namespace GridPuzzle

/-! ## Locations and boxes -/

namespace Location

/-- The location to which a vector leads from another one. -/
def shift (vector l : Location) : Location :=
  (l.1 + vector.1, l.2 + vector.2)

/-- The location from which a vector leads to another one. -/
def back (vector l : Location) : Location :=
  (l.1 - vector.1, l.2 - vector.2)

/-- The vector of a number of steps along another one. -/
def times (count : Nat) (vector : Location) : Location :=
  (vector.1 * count, vector.2 * count)

variable (d e : Location)

theorem shift_injective : Function.Injective d.shift := by
  intro k l h
  have rows := congrArg Prod.fst h
  have columns := congrArg Prod.snd h
  simp only [shift] at rows columns
  exact Prod.ext (by omega) (by omega)

theorem shift_back (l : Location) : d.shift (d.back l) = l :=
  Prod.ext (Int.sub_add_cancel ..) (Int.sub_add_cancel ..)

theorem back_shift (l : Location) : d.back (d.shift l) = l :=
  Prod.ext (Int.add_sub_cancel ..) (Int.add_sub_cancel ..)

theorem shift_comp_shift : e.shift ∘ d.shift = (d.shift e).shift := by
  funext l
  exact Prod.ext (by simp only [shift, Function.comp_apply]; omega)
    (by simp only [shift, Function.comp_apply]; omega)

theorem shift_comm : e.shift ∘ d.shift = d.shift ∘ e.shift := by
  rw [shift_comp_shift, shift_comp_shift]
  congr 1
  exact Prod.ext (Int.add_comm ..) (Int.add_comm ..)

theorem shift_times_zero : (times 0 d).shift = id := by
  funext l
  simp [shift, times]

/-- One step, followed by a number of steps, is one step more. -/
theorem shift_times_succ (m : Nat) : (times m d).shift ∘ d.shift = (times (m + 1) d).shift := by
  have sum : d.shift (times m d) = times (m + 1) d := by
    simp only [shift, times, Int.natCast_succ, Int.mul_add, Int.mul_one]
  rw [shift_comp_shift, sum]

theorem shift_shift_times (m : Nat) (l : Location) :
    d.shift ((times m d).shift l) = (times (m + 1) d).shift l := by
  simp only [shift, times, Int.natCast_succ, Int.mul_add, Int.mul_one, Int.add_assoc]

end Location

/-- The middle of the numbers from one to another, the greater one of two. -/
def middle (first last : Int) : Int :=
  first + (last - first + 1).fdiv 2

theorem middle_add (first last c : Int) : middle (first + c) (last + c) = middle first last + c := by
  have length : last + c - (first + c) + 1 = last - first + 1 := by omega
  rw [middle, middle, length]
  omega

theorem middle_mem {first last : Int} (h : first ≤ last) :
    first ≤ middle first last ∧ middle first last ≤ last := by
  rw [middle, Int.fdiv_eq_ediv_of_nonneg _ (by decide)]
  omega

namespace Box

/-- The box moved by a vector. -/
def shift (d : Location) (box : Box) : Box where
  top := box.top + d.1
  left := box.left + d.2
  bottom := box.bottom + d.1
  right := box.right + d.2

/-- The middle of a box, the lower and the right one of two. -/
def center (box : Box) : Location :=
  (middle box.top box.bottom, middle box.left box.right)

/-- The upper left corner. -/
def corner (box : Box) : Location :=
  (box.top, box.left)

/-- The vector from the upper left corner to the origin. -/
def toOrigin (box : Box) : Location :=
  (-box.top, -box.left)

theorem corner_shift (d : Location) (box : Box) :
    (box.shift d).corner.shift = d.shift ∘ box.corner.shift := by
  rw [Location.shift_comm, Location.shift_comp_shift]
  rfl

theorem toOrigin_shift (d : Location) (box : Box) :
    (box.shift d).toOrigin.shift ∘ d.shift = box.toOrigin.shift := by
  rw [Location.shift_comp_shift]
  congr 1
  refine Prod.ext ?_ ?_ <;> simp only [Location.shift, toOrigin, shift] <;> omega

theorem center_shift (d : Location) (box : Box) : (box.shift d).center = d.shift box.center :=
  Prod.ext (middle_add ..) (middle_add ..)

end Box

namespace Value

variable {v w : Value} {S T : Spot → Prop} {P Q : Location → Prop} {box : Box}

/-! ## Shifting a patch -/

theorem moved_shift_iff {d : Location} {s : Spot} : Moved d.shift S s ↔ S (s.move d.back) := by
  constructor
  · intro h
    rcases h with ⟨r, hr, rfl⟩
    simpa only [Spot.move, Location.back_shift] using hr
  · intro h
    refine ⟨_, h, ?_⟩
    simp only [Spot.move, Location.shift_back]

/-- A shift moves the spots of a patch, which may be empty. -/
theorem IsFigure.exists_shift (h : v.IsFigure S) (d : Location) :
    ∃ w, Patch.shift v d.toValue = .ok w ∧ w.IsFigure (Moved d.shift S) := by
  by_cases some : ∃ s, S s
  · have count : v.itemList.length ≠ 0 := by
      obtain ⟨s, hs⟩ := some
      exact (List.length_pos_of_mem ((h.isSetOf.mem_itemList _).mpr ⟨s, hs, rfl⟩)).ne'
    obtain ⟨w, heq, hw⟩ := h.relocate some
      (fun row column => return (← row.add (.int d.1), ← column.add (.int d.2))) d.shift (fun _ => rfl)
      d.shift_injective
    refine ⟨w, ?_, hw⟩
    rw [Patch.shift, h.isSetOf.size, Outcome.ok_bind, if_neg count, parts_toValue, Outcome.ok_bind]
    exact heq
  · have empty : v.itemList = [] := by
      refine List.eq_nil_iff_forall_not_mem.mpr fun x hx => ?_
      obtain ⟨s, hs, -⟩ := (h.isSetOf.mem_itemList x).mp hx
      exact some ⟨s, hs⟩
    refine ⟨v, ?_, h.congr fun s => ⟨fun hs => absurd ⟨s, hs⟩ some, ?_⟩⟩
    · rw [Patch.shift, h.isSetOf.size, Outcome.ok_bind, empty]
      rfl
    · intro hs
      obtain ⟨r, hr, -⟩ := hs
      exact absurd ⟨r, hr⟩ some

/-- A patch whose spots are the moved spots of another one is that patch, shifted. -/
theorem IsFigure.shift_eq (h : v.IsFigure S) (h' : w.IsFigure T) {d : Location}
    (moved : ∀ s, T s ↔ Moved d.shift S s) : Patch.shift v d.toValue = .ok w := by
  obtain ⟨u, heq, hu⟩ := h.exists_shift d
  rw [heq, hu.unique (h'.congr moved)]

/-! ## Sets of locations -/

/-- The spots without color at the locations with a property. -/
def Bare (P : Location → Prop) (s : Spot) : Prop :=
  s.color = none ∧ P s.place

theorem places_bare {l : Location} : Places (Bare P) l ↔ P l := by
  constructor
  · intro h
    obtain ⟨s, hs, rfl⟩ := h
    exact hs.2
  · intro hl
    exact ⟨⟨none, l⟩, ⟨rfl, hl⟩, rfl⟩

theorem IsLocationSet.isFigure (h : v.IsLocationSet P) : v.IsFigure (Bare P) := by
  refine ⟨IsSetOf.congr h fun x => ?_, fun r s hr hs => by rw [hr.1, hs.1]⟩
  constructor
  · intro hx
    obtain ⟨l, hl, rfl⟩ := hx
    exact ⟨⟨none, l⟩, ⟨rfl, hl⟩, rfl⟩
  · intro hx
    obtain ⟨⟨color, l⟩, ⟨rfl, hl⟩, rfl⟩ := hx
    exact ⟨l, hl, rfl⟩

/-- A set of locations that holds the moved locations of another one is that set, shifted. -/
theorem IsLocationSet.shift_eq (h : v.IsLocationSet P) (h' : w.IsLocationSet Q) {d : Location}
    (moved : ∀ l, Q (d.shift l) ↔ P l) : Patch.shift v d.toValue = .ok w := by
  refine h.isFigure.shift_eq h'.isFigure fun s => ?_
  constructor
  · intro hs
    obtain ⟨color, hQ⟩ := hs
    refine ⟨⟨none, d.back s.place⟩, ⟨rfl, ?_⟩, ?_⟩
    · rw [← moved, Location.shift_back]
      exact hQ
    · rw [Spot.move, Location.shift_back, ← color]
  · intro hs
    obtain ⟨r, hr, rfl⟩ := hs
    exact ⟨hr.1, (moved _).mpr hr.2⟩

/-! ## Objects -/

/-- The spots with the colors and the locations that stand in a relation. -/
def Colored (R : Int → Location → Prop) (s : Spot) : Prop :=
  ∃ c, s.color = some (.int c) ∧ R c s.place

theorem places_colored {R : Int → Location → Prop} {l : Location} : Places (Colored R) l ↔ ∃ c, R c l := by
  constructor
  · intro h
    obtain ⟨s, ⟨c, -, hR⟩, rfl⟩ := h
    exact ⟨c, hR⟩
  · intro h
    obtain ⟨c, hR⟩ := h
    exact ⟨⟨some (.int c), l⟩, ⟨c, rfl, hR⟩, rfl⟩

theorem moved_colored {R : Int → Location → Prop} {d : Location} {s : Spot} :
    Moved d.shift (Colored R) s ↔ Colored (fun c l => R c (d.back l)) s := by
  constructor
  · intro h
    obtain ⟨r, ⟨c, color, hR⟩, rfl⟩ := h
    refine ⟨c, color, ?_⟩
    show R c (d.back (d.shift r.place))
    rwa [Location.back_shift]
  · intro h
    obtain ⟨c, color, hR⟩ := h
    refine ⟨⟨some (.int c), d.back s.place⟩, ⟨c, rfl, hR⟩, ?_⟩
    rw [Spot.move, Location.shift_back, ← color]

theorem isFigure_colored_iff {R : Int → Location → Prop} : v.IsFigure (Colored R) ↔ v.IsCellSet R := by
  have members : ∀ x, (∃ s, Colored R s ∧ x = s.toValue) ↔ ∃ c l, R c l ∧ x = .pair (.int c) l.toValue := by
    intro x
    constructor
    · intro hx
      obtain ⟨⟨color, l⟩, ⟨c, rfl, hR⟩, rfl⟩ := hx
      exact ⟨c, l, hR, rfl⟩
    · intro hx
      obtain ⟨c, l, hR, rfl⟩ := hx
      exact ⟨⟨some (.int c), l⟩, ⟨c, rfl, hR⟩, rfl⟩
  constructor
  · intro h
    exact h.isSetOf.congr members
  · intro h
    refine ⟨h.congr fun x => (members x).symm, fun r s hr hs => ?_⟩
    obtain ⟨c, color, -⟩ := hr
    obtain ⟨c', color', -⟩ := hs
    rw [color, color', Option.isSome_some, Option.isSome_some]

/-- A shifted object has its cells where the vector leads from the old ones. -/
theorem IsCellSet.exists_shift {R : Int → Location → Prop} (h : v.IsCellSet R) (d : Location) :
    ∃ w, Patch.shift v d.toValue = .ok w ∧ w.IsCellSet fun c l => R c (d.back l) := by
  obtain ⟨w, heq, hw⟩ := (isFigure_colored_iff.mpr h).exists_shift d
  exact ⟨w, heq, isFigure_colored_iff.mp (hw.congr fun _ => moved_colored)⟩

/-! ## The box of a shifted patch -/

/-- The box of a shifted patch is the shifted box. -/
theorem bounds_shifted (hbox : Bounds (Places S) box) (d : Location) :
    Bounds (Places (Moved d.shift S)) (box.shift d) := by
  have addition (c : Int) : Monotone (· + c) := fun _ _ h => Int.add_le_add_right h c
  have rows : Prod.fst '' {l | Places (Moved d.shift S) l} = (· + d.1) '' (Prod.fst '' {l | Places S l}) := by
    rw [setOf_places_moved, Set.image_image, Set.image_image]
    rfl
  have columns :
      Prod.snd '' {l | Places (Moved d.shift S) l} = (· + d.2) '' (Prod.snd '' {l | Places S l}) := by
    rw [setOf_places_moved, Set.image_image, Set.image_image]
    rfl
  constructor
  · rw [rows]
    exact (addition d.1).map_isLeast hbox.top
  · rw [columns]
    exact (addition d.2).map_isLeast hbox.left
  · rw [rows]
    exact (addition d.1).map_isGreatest hbox.bottom
  · rw [columns]
    exact (addition d.2).map_isGreatest hbox.right

theorem IsFigure.exists_bounds (h : v.IsFigure S) (some : ∃ s, S s) : ∃ box, Bounds (Places S) box := by
  obtain ⟨s, hs⟩ := some
  exact h.isPatch.exists_bounds ⟨s.place, s, hs, rfl⟩

/-- The middle of a patch is that of its box. -/
theorem IsFigure.centerLocation (h : v.IsFigure S) (hbox : Bounds (Places S) box) :
    Patch.centerLocation v = .ok box.center := by
  have spans := h.isPatch.spans hbox
  rw [Patch.centerLocation, spans.top, Outcome.ok_bind, number_int, Outcome.ok_bind, h.height hbox,
    Outcome.ok_bind, spans.left, Outcome.ok_bind, number_int, Outcome.ok_bind, h.width hbox,
    Outcome.ok_bind]
  rfl

end Value

end GridPuzzle
