import GridPuzzle.Patch.Motion
import GridPuzzle.Proofs.PatchSet
import Mathlib.Data.Set.List
import Mathlib.Order.Bounds.Basic

/-!
# Patches with their colors

`Value.IsPatch` looks only at the locations of a patch. An operation that moves a patch keeps the colors of
its cells, so here a patch is the set of its spots: a spot is a location, with a color if the patch is an
object (`Value.IsFigure`). Colors may be any values.

* `IsFigure.relocate`: moving the locations of a patch by an injective map gives the patch of the moved spots.
* `Bounds` says which box bounds some locations. The corners and the dimensions of a patch are those of its
  box (`IsPatch.upperLeft`, `IsPatch.lowerRight`, `IsFigure.shape`), and so are its outermost rows and columns
  (`Spans`).
-/

namespace GridPuzzle

/-- An item of a patch: a location, with a color or without one. -/
structure Spot where
  color : Option Value
  place : Location

namespace Spot

/-- The spot as it stands in a patch. -/
def toValue : Spot → Value
  | ⟨none, l⟩ => l.toValue
  | ⟨some c, l⟩ => .pair c l.toValue

/-- The spot at another place. -/
def move (f : Location → Location) (s : Spot) : Spot :=
  { s with place := f s.place }

/-- Both spots have no color, or equal ones. -/
def SameColor (r s : Spot) : Prop :=
  match r.color, s.color with
  | none, none => True
  | some c, some d => (c == d) = true
  | _, _ => False

theorem toValue_injective {r s : Spot} (h : r.toValue = s.toValue) : r = s := by
  obtain ⟨_ | c, k⟩ := r <;> obtain ⟨_ | d, l⟩ := s
  · rw [Location.toValue_injective h]
  · simp [toValue, Location.toValue, Value.location, Value.pair] at h
  · simp [toValue, Location.toValue, Value.location, Value.pair] at h
  · simp only [toValue, Value.pair, Value.tuple.injEq, List.cons.injEq, and_true] at h
    rw [h.1, Location.toValue_injective h.2]

end Spot

namespace Value

theorem pair_beq_pair {a b c d : Value} :
    (pair a b == pair c d) = true ↔ (a == c) = true ∧ (b == d) = true := by
  simp only [beq_iff_compare_eq, pair, compare, compareItems, Ordering.then_eq_eq, and_true]

theorem int_beq_location (n : Int) (l : Location) : (Value.int n == l.toValue) = false := by
  rw [Bool.eq_false_iff, ne_eq, beq_iff_eq_of_plain (.int n) l.plain_toValue]
  exact Value.noConfusion

end Value

namespace Spot

/-- Spots are equal items of a patch if they have the same color and the same place. -/
theorem toValue_beq_iff {r s : Spot} :
    (r.toValue == s.toValue) = true ↔ r.SameColor s ∧ r.place = s.place := by
  have places : ∀ k l : Location, (k.toValue == l.toValue) = true ↔ k = l := fun k l => by
    rw [Value.beq_iff_eq_of_plain k.plain_toValue l.plain_toValue]
    exact ⟨Location.toValue_injective, congrArg _⟩
  obtain ⟨_ | c, k⟩ := r <;> obtain ⟨_ | d, l⟩ := s
  · simp [toValue, SameColor, places]
  · change (Value.pair _ (.int k.2) == Value.pair d l.toValue) = true ↔ _
    simp [Value.pair_beq_pair, Value.int_beq_location, SameColor]
  · change (Value.pair c k.toValue == Value.pair _ (.int l.2)) = true ↔ _
    have apart : (k.toValue == Value.int l.2) = false := by
      rw [BEq.comm, Value.int_beq_location]
    simp [Value.pair_beq_pair, apart, SameColor]
  · simp [toValue, Value.pair_beq_pair, SameColor, places]

end Spot

namespace Value

/-- The value is the patch of the spots with a property: the set of them, all with a color or all
without. -/
structure IsFigure (v : Value) (S : Spot → Prop) : Prop where
  isSetOf : v.IsSetOf fun x => ∃ s, S s ∧ x = s.toValue
  uniform : ∀ r s, S r → S s → r.color.isSome = s.color.isSome

variable {v w : Value} {S T : Spot → Prop} {P : Location → Prop}

theorem IsFigure.congr (h : v.IsFigure S) (hST : ∀ s, S s ↔ T s) : v.IsFigure T where
  isSetOf := h.isSetOf.congr fun _ => exists_congr fun s => and_congr_left' (hST s)
  uniform r s hr hs := h.uniform r s ((hST r).mpr hr) ((hST s).mpr hs)

/-- A patch is given by its spots. -/
theorem IsFigure.unique (hv : v.IsFigure S) (hw : w.IsFigure S) : v = w :=
  hv.isSetOf.unique hw.isSetOf

theorem IsFigure.eq_of_beq (h : v.IsFigure S) {r s : Spot} (hr : S r) (hs : S s)
    (color : r.SameColor s) (place : r.place = s.place) : r = s := by
  refine Spot.toValue_injective (h.isSetOf.eq_of_beq ?_ ?_ (Spot.toValue_beq_iff.mpr ⟨color, place⟩))
  · exact (h.isSetOf.mem_iff _).mpr ⟨r, hr, rfl⟩
  · exact (h.isSetOf.mem_iff _).mpr ⟨s, hs, rfl⟩

/-- The set of a list of spots. -/
theorem isFigure_setOf {spots : List Spot}
    (uniform : ∀ r ∈ spots, ∀ s ∈ spots, r.color.isSome = s.color.isSome)
    (eq_of_beq : ∀ r ∈ spots, ∀ s ∈ spots, r.SameColor s → r.place = s.place → r = s) :
    (setOf (spots.map Spot.toValue)).IsFigure (· ∈ spots) := by
  refine ⟨(isSetOf_setOf_of_beq ?_).congr fun x => ?_, fun r s hr hs => uniform r hr s hs⟩
  · intro x hx y hy hxy
    obtain ⟨r, hr, rfl⟩ := List.mem_map.mp hx
    obtain ⟨s, hs, rfl⟩ := List.mem_map.mp hy
    obtain ⟨color, place⟩ := Spot.toValue_beq_iff.mp hxy
    rw [eq_of_beq r hr s hs color place]
  · simp only [List.mem_map, eq_comm]

/-- A list whose members are the values of an injective function is the list of these values. -/
theorem exists_map_eq {α : Type} {f : α → Value} (inj : Function.Injective f) {P : α → Prop}
    {items : List Value} (h : ∀ x, x ∈ items ↔ ∃ a, P a ∧ x = f a) :
    ∃ as : List α, items = as.map f ∧ ∀ a, a ∈ as ↔ P a := by
  have range : items ∈ Set.range (List.map f) := by
    rw [Set.range_list_map]
    intro x hx
    obtain ⟨a, -, rfl⟩ := (h x).mp hx
    exact Set.mem_range_self a
  obtain ⟨as, rfl⟩ := range
  refine ⟨as, rfl, fun a => ?_⟩
  rw [← List.mem_map_of_injective inj, h]
  constructor
  · rintro ⟨b, hb, heq⟩
    rwa [inj heq]
  · intro ha
    exact ⟨a, ha, rfl⟩

/-- The spots of a patch, in the order of its items. -/
theorem IsFigure.exists_spots (h : v.IsFigure S) :
    ∃ spots : List Spot, v.itemList = spots.map Spot.toValue ∧ ∀ s, s ∈ spots ↔ S s :=
  exists_map_eq (fun _ _ => Spot.toValue_injective) h.isSetOf.mem_itemList

theorem hasCells_of_items {spots : List Spot} (items : v.items = .ok (spots.map Spot.toValue))
    (uniform : ∀ r ∈ spots, ∀ s ∈ spots, r.color.isSome = s.color.isSome) {s : Spot} (hs : s ∈ spots) :
    Patch.hasCells v = .ok s.color.isSome := by
  cases spots with
  | nil => cases hs
  | cons r rest =>
      rw [uniform s hs r List.mem_cons_self, Patch.hasCells, Value.head, items]
      obtain ⟨_ | c, l⟩ := r <;> rfl

theorem IsFigure.hasCells (h : v.IsFigure S) {s : Spot} (hs : S s) :
    Patch.hasCells v = .ok s.color.isSome := by
  obtain ⟨spots, hspots, hmem⟩ := h.exists_spots
  refine hasCells_of_items (by rw [h.isSetOf.items, hspots]) ?_ ((hmem s).mpr hs)
  intro q hq r hr
  exact h.uniform q r ((hmem q).mp hq) ((hmem r).mp hr)

/-! ## Moving a patch -/

theorem parts_toValue (l : Location) : l.toValue.parts = .ok (.int l.1, .int l.2) :=
  rfl

theorem cellParts_toValue (c : Value) (l : Location) :
    (pair c l.toValue).cellParts = .ok (c, .int l.1, .int l.2) :=
  rfl

/-- A computation on each item of a patch whose result on a spot is known. -/
theorem mapM_spots {α : Type} {f : Value → Outcome α} {g : Spot → α} {spots : List Spot}
    (h : ∀ s ∈ spots, f s.toValue = .ok (g s)) :
    (spots.map Spot.toValue).mapM f = .ok (spots.map g) := by
  rw [List.mapM_map, mapM_eq_pure_map (f := f ∘ Spot.toValue) h, Outcome.pure_eq_ok]

/-- The spots with a property, moved. -/
def Moved (f : Location → Location) (S : Spot → Prop) (s : Spot) : Prop :=
  ∃ r, S r ∧ s = r.move f

theorem moved_moved {f g : Location → Location} {s : Spot} :
    Moved g (Moved f S) s ↔ Moved (g ∘ f) S s := by
  constructor
  · rintro ⟨_, ⟨r, hr, rfl⟩, rfl⟩
    exact ⟨r, hr, rfl⟩
  · rintro ⟨r, hr, rfl⟩
    exact ⟨_, ⟨r, hr, rfl⟩, rfl⟩

theorem moved_comp {f g : Location → Location} : Moved g (Moved f S) = Moved (g ∘ f) S :=
  funext fun _ => propext moved_moved

theorem moved_id {s : Spot} : Moved id S s ↔ S s := by
  constructor
  · rintro ⟨r, hr, rfl⟩
    exact hr
  · intro hs
    exact ⟨s, hs, rfl⟩

/-- Moving each location of a patch whose spots are listed. -/
theorem relocate_of_items {spots : List Spot} (items : v.items = .ok (spots.map Spot.toValue))
    (uniform : ∀ r ∈ spots, ∀ s ∈ spots, r.color.isSome = s.color.isSome) {s₀ : Spot} (hs₀ : s₀ ∈ spots)
    (move : Value → Value → Outcome (Value × Value)) (f : Location → Location)
    (hmove : ∀ l : Location, move (.int l.1) (.int l.2) = .ok (.int (f l).1, .int (f l).2)) :
    Patch.relocate move v = .ok (.setOf ((spots.map (Spot.move f)).map Spot.toValue)) := by
  have kind : ∀ s ∈ spots, s.color.isSome = s₀.color.isSome := fun s hs => uniform s hs s₀ hs₀
  rw [Patch.relocate, hasCells_of_items items uniform hs₀, Outcome.ok_bind, items, List.map_map]
  cases hkind : s₀.color.isSome with
  | false =>
      rw [if_neg Bool.false_ne_true, Outcome.ok_bind, mapM_spots (g := Spot.toValue ∘ Spot.move f)]
      · rfl
      · intro s hs
        obtain ⟨_ | c, l⟩ := s
        · simp only [Spot.toValue, parts_toValue, Outcome.ok_bind, hmove]
          rfl
        · cases hkind.symm.trans (kind _ hs).symm
  | true =>
      rw [if_pos rfl, Outcome.ok_bind, mapM_spots (g := Spot.toValue ∘ Spot.move f)]
      · rfl
      · intro s hs
        obtain ⟨_ | c, l⟩ := s
        · cases hkind.symm.trans (kind _ hs).symm
        · simp only [Spot.toValue, cellParts_toValue, Outcome.ok_bind, hmove]
          rfl

/-- The spots of a patch, listed in any order and moved by an injective map, are the moved patch. -/
theorem IsFigure.setOf_map_move (h : v.IsFigure S) {spots : List Spot} (mem : ∀ s, s ∈ spots ↔ S s)
    {f : Location → Location} (inj : Function.Injective f) :
    (setOf ((spots.map (Spot.move f)).map Spot.toValue)).IsFigure (Moved f S) := by
  refine (isFigure_setOf ?_ ?_).congr fun s => ?_
  · simp only [List.mem_map]
    rintro _ ⟨r, hr, rfl⟩ _ ⟨s, hs, rfl⟩
    exact h.uniform r s ((mem r).mp hr) ((mem s).mp hs)
  · simp only [List.mem_map]
    rintro _ ⟨r, hr, rfl⟩ _ ⟨s, hs, rfl⟩ color place
    rw [h.eq_of_beq ((mem r).mp hr) ((mem s).mp hs) color (inj place)]
  · simp only [Moved, List.mem_map, mem, eq_comm]

/-- Moving each location of a patch by an injective map moves its spots. -/
theorem IsFigure.relocate (h : v.IsFigure S) (some : ∃ s, S s)
    (move : Value → Value → Outcome (Value × Value)) (f : Location → Location)
    (hmove : ∀ l : Location, move (.int l.1) (.int l.2) = .ok (.int (f l).1, .int (f l).2))
    (inj : Function.Injective f) :
    ∃ w, Patch.relocate move v = .ok w ∧ w.IsFigure (Moved f S) := by
  obtain ⟨spots, hspots, mem⟩ := h.exists_spots
  obtain ⟨s₀, hs₀⟩ := some
  have items : v.items = .ok (spots.map Spot.toValue) := by rw [h.isSetOf.items, hspots]
  refine ⟨_, relocate_of_items items ?_ ((mem s₀).mpr hs₀) move f hmove, h.setOf_map_move mem inj⟩
  intro r hr s hs
  exact h.uniform r s ((mem r).mp hr) ((mem s).mp hs)

/-! ## The locations of a patch -/

/-- The locations of some spots. -/
def Places (S : Spot → Prop) (l : Location) : Prop :=
  ∃ s, S s ∧ s.place = l

theorem setOf_places_moved {f : Location → Location} :
    {l | Places (Moved f S) l} = f '' {l | Places S l} := by
  ext l
  constructor
  · rintro ⟨_, ⟨r, hr, rfl⟩, rfl⟩
    exact ⟨r.place, ⟨r, hr, rfl⟩, rfl⟩
  · rintro ⟨_, ⟨r, hr, rfl⟩, rfl⟩
    exact ⟨_, ⟨r, hr, rfl⟩, rfl⟩

theorem places_moved {f : Location → Location} {l : Location} :
    Places (Moved f S) l ↔ ∃ k, Places S k ∧ f k = l :=
  Set.ext_iff.mp setOf_places_moved l

theorem places_moved_iff {f : Location → Location} (inj : Function.Injective f) {l : Location} :
    Places (Moved f S) (f l) ↔ Places S l := by
  rw [places_moved]
  constructor
  · intro h
    obtain ⟨k, hk, same⟩ := h
    rwa [← inj same]
  · intro hl
    exact ⟨l, hl, rfl⟩

theorem IsFigure.isPatch (h : v.IsFigure S) : v.IsPatch (Places S) := by
  obtain ⟨spots, hspots, hmem⟩ := h.exists_spots
  cases spots with
  | nil =>
      refine ⟨_, locations_of_empty h.isSetOf hspots, (isSetOf_setOf (by simp)).congr fun x => ?_⟩
      constructor
      · intro hx
        cases hx
      · rintro ⟨_, ⟨s, hs, rfl⟩, -⟩
        exact absurd ((hmem s).mpr hs) List.not_mem_nil
  | cons r rest =>
      have hr : S r := (hmem r).mp List.mem_cons_self
      have hx : r.toValue ∈ v := (h.isSetOf.mem_iff _).mpr ⟨r, hr, rfl⟩
      rw [IsPatch, locations_of_hasCells h.isSetOf hx (h.hasCells hr)]
      cases hkind : r.color.isSome with
      | false =>
          refine ⟨v, rfl, h.isSetOf.congr fun x => ?_⟩
          have bare : ∀ s, S s → s.toValue = s.place.toValue := by
            rintro ⟨_ | c, l⟩ hs
            · rfl
            · cases hkind.symm.trans (h.uniform _ _ hr hs)
          constructor
          · rintro ⟨s, hs, rfl⟩
            exact ⟨s.place, ⟨s, hs, rfl⟩, bare s hs⟩
          · rintro ⟨_, ⟨s, hs, rfl⟩, rfl⟩
            exact ⟨s, hs, (bare s hs).symm⟩
      | true =>
          have places : (v.itemList.mapM fun x => return (← x.parts).2) =
              (.ok ((r :: rest).map fun s => s.place.toValue) : Outcome (List Value)) := by
            rw [hspots]
            refine mapM_spots fun s hs => ?_
            obtain ⟨_ | c, l⟩ := s
            · cases hkind.symm.trans (h.uniform _ _ hr ((hmem _).mp hs))
            · rfl
          have plain : ∀ x ∈ (r :: rest).map fun s => s.place.toValue, Plain x := by
            intro x hx
            obtain ⟨s, -, rfl⟩ := List.mem_map.mp hx
            exact s.place.plain_toValue
          rw [places]
          refine ⟨_, rfl, (isSetOf_setOf plain).congr fun x => ?_⟩
          simp only [List.mem_map, hmem, Places]
          constructor
          · rintro ⟨s, hs, rfl⟩
            exact ⟨_, ⟨s, hs, rfl⟩, rfl⟩
          · rintro ⟨_, ⟨s, hs, rfl⟩, rfl⟩
            exact ⟨s, hs, rfl⟩

/-- The object of one color at the locations of a patch. -/
theorem IsPatch.exists_recolor (h : v.IsPatch P) (c : Int) :
    ∃ w, Patch.recolor (.int c) v = .ok w ∧ w.IsCellSet fun d l => P l ∧ d = c := by
  obtain ⟨items, hitems, hmem⟩ := h.exists_locationItems
  have cells : ∀ x, x ∈ items.map (Value.pair (.int c)) ↔
      ∃ d l, (P l ∧ d = c) ∧ x = .pair (.int d) l.toValue := by
    intro x
    rw [List.mem_map]
    constructor
    · intro hx
      obtain ⟨y, hy, rfl⟩ := hx
      obtain ⟨l, hl, rfl⟩ := (hmem y).mp hy
      exact ⟨c, l, ⟨hl, rfl⟩, rfl⟩
    · intro hx
      obtain ⟨d, l, ⟨hl, rfl⟩, rfl⟩ := hx
      exact ⟨l.toValue, (hmem _).mpr ⟨l, hl, rfl⟩, rfl⟩
  refine ⟨.setOf (items.map (Value.pair (.int c))), ?_, (isSetOf_setOf fun x hx => ?_).congr cells⟩
  · rw [Patch.recolor, hitems, Outcome.ok_bind, Outcome.pure_eq_ok]
  · obtain ⟨d, l, -, rfl⟩ := (cells x).mp hx
    exact .pair (.int d) l.plain_toValue

/-! ## The box of a patch -/

end Value

/-- The rows and the columns between which some locations lie. -/
structure Box where
  top : Int
  left : Int
  bottom : Int
  right : Int

/-- The outermost rows and columns of the locations with a property are those of a box. -/
structure Bounds (P : Location → Prop) (box : Box) : Prop where
  top : IsLeast (Prod.fst '' {l | P l}) box.top
  left : IsLeast (Prod.snd '' {l | P l}) box.left
  bottom : IsGreatest (Prod.fst '' {l | P l}) box.bottom
  right : IsGreatest (Prod.snd '' {l | P l}) box.right

theorem Bounds.exists_location {P : Location → Prop} {box : Box} (h : Bounds P box) : ∃ l, P l := by
  obtain ⟨l, hl, -⟩ := h.top.1
  exact ⟨l, hl⟩

theorem Bounds.row_mem {P : Location → Prop} {box : Box} (h : Bounds P box) {l : Location} (hl : P l) :
    box.top ≤ l.1 ∧ l.1 ≤ box.bottom :=
  ⟨h.top.2 ⟨l, hl, rfl⟩, h.bottom.2 ⟨l, hl, rfl⟩⟩

theorem Bounds.column_mem {P : Location → Prop} {box : Box} (h : Bounds P box) {l : Location} (hl : P l) :
    box.left ≤ l.2 ∧ l.2 ≤ box.right :=
  ⟨h.left.2 ⟨l, hl, rfl⟩, h.right.2 ⟨l, hl, rfl⟩⟩

namespace Value

variable {box : Box} {f : Location → Int} {m : Int} {v : Value} {P : Location → Prop} {S : Spot → Prop}

theorem isLeast_image_iff :
    IsLeast (f '' {l | P l}) m ↔ (∃ l, P l ∧ f l = m) ∧ ∀ l, P l → m ≤ f l :=
  and_congr Iff.rfl Set.forall_mem_image

theorem isGreatest_image_iff :
    IsGreatest (f '' {l | P l}) m ↔ (∃ l, P l ∧ f l = m) ∧ ∀ l, P l → f l ≤ m :=
  and_congr Iff.rfl Set.forall_mem_image

/-- A patch that is not empty has a box. -/
theorem IsPatch.exists_bounds (h : v.IsPatch P) (some : ∃ l, P l) : ∃ box, Bounds P box := by
  obtain ⟨top, -, htop⟩ := h.topRow some
  obtain ⟨left, -, hleft⟩ := h.leftColumn some
  obtain ⟨bottom, -, hbottom⟩ := h.bottomRow some
  obtain ⟨right, -, hright⟩ := h.rightColumn some
  exact ⟨⟨top, left, bottom, right⟩, isLeast_image_iff.mpr htop, isLeast_image_iff.mpr hleft,
    isGreatest_image_iff.mpr hbottom, isGreatest_image_iff.mpr hright⟩

/-! ## Corners and dimensions -/

/-- The columns of a table whose rows are the values of functions at the same places. -/
theorem columns_map_map {α β γ : Type} (f : α → β → γ) {xs : List α} (some : xs ≠ []) (ys : List β) :
    Table.columns (xs.map fun x => ys.map (f x)) = ys.map fun y => xs.map fun x => f x y := by
  induction xs with
  | nil => exact absurd rfl some
  | cons x xs ih =>
      cases xs with
      | nil => exact List.map_map
      | cons x' xs =>
          have rest := ih (List.cons_ne_nil x' xs)
          rw [List.map_cons] at rest
          rw [List.map_cons, List.map_cons, Table.columns, rest, List.zipWith_map, List.zipWith_self]
          · rfl
          · exact List.cons_ne_nil _ _

theorem columns_pairs {α β : Type} (f g : α → β) {xs : List α} (some : xs ≠ []) :
    Table.columns (xs.map fun x => [f x, g x]) = [xs.map f, xs.map g] :=
  columns_map_map (fun x (coordinate : α → β) => coordinate x) some [f, g]

/-- The locations of a patch, in the order of its items. -/
theorem IsPatch.exists_locations (h : v.IsPatch P) :
    ∃ ls : List Location, ls.Nodup ∧ (∀ l, l ∈ ls ↔ P l) ∧
      Patch.locationItems v = .ok (ls.map Location.toValue) := by
  obtain ⟨w, hw, hset⟩ := h
  obtain ⟨ls, hitems, mem⟩ := exists_map_eq (fun _ _ => Location.toValue_injective) hset.mem_itemList
  refine ⟨ls, ?_, mem, ?_⟩
  · obtain ⟨⟨xs, rfl, increasing⟩, -⟩ := hset
    have nodup : (ls.map Location.toValue).Nodup := hitems ▸ increasing.nodup
    exact nodup.of_map
  · rw [Patch.locationItems, hw, Outcome.ok_bind, IsSetOf.items hset, hitems]

/-- A computation on each of some locations whose result is known. -/
theorem mapM_locations {α : Type} {f : Value → Outcome α} {g : Location → α} {ls : List Location}
    (h : ∀ l ∈ ls, f l.toValue = .ok (g l)) : (ls.map Location.toValue).mapM f = .ok (ls.map g) := by
  rw [List.mapM_map, mapM_eq_pure_map (f := f ∘ Location.toValue) h, Outcome.pure_eq_ok]

theorem coordinates_eq {ls : List Location} (some : ls ≠ [])
    (hitems : Patch.locationItems v = .ok (ls.map Location.toValue)) :
    Patch.coordinates v = .ok [ls.map fun l => .int l.1, ls.map fun l => .int l.2] := by
  have parts : (ls.map Location.toValue).mapM Value.items =
      .ok (ls.map fun l => [Value.int l.1, .int l.2]) := mapM_locations fun _ _ => rfl
  rw [Patch.coordinates, hitems, Outcome.ok_bind, parts, Outcome.ok_bind, columns_pairs _ _ some,
    Outcome.pure_eq_ok]

/-- The locations of the patch, in the order in which they are visited, are those with a property. -/
def Visits (v : Value) (P : Location → Prop) : Prop :=
  ∃ ls : List Location, (∀ l, l ∈ ls ↔ P l) ∧ Patch.locationItems v = .ok (ls.map Location.toValue)

theorem IsPatch.visits (h : v.IsPatch P) : v.Visits P := by
  obtain ⟨ls, -, mem, hitems⟩ := h.exists_locations
  exact ⟨ls, mem, hitems⟩

/-- The rows and the columns of a patch, in the order of its locations. -/
theorem Visits.exists_coordinates (h : v.Visits P) (some : ∃ l, P l) :
    ∃ ls : List Location, ls ≠ [] ∧ (∀ l, l ∈ ls ↔ P l) ∧
      Patch.coordinates v = .ok [ls.map fun l => .int l.1, ls.map fun l => .int l.2] := by
  obtain ⟨ls, mem, hitems⟩ := h
  obtain ⟨l₀, hl₀⟩ := some
  have ne : ls ≠ [] := List.ne_nil_of_mem ((mem l₀).mpr hl₀)
  exact ⟨ls, ne, mem, coordinates_eq ne hitems⟩

/-- The best of the rows, or of the columns, of a list of locations. -/
theorem NumericRule.exists_bestOf {rule : Rule} {beats : Int → Int → Prop} [DecidableRel beats]
    (numeric : NumericRule rule beats) (f : Location → Int) {ls : List Location} (some : ls ≠ []) :
    ∃ m, Patch.bestOf rule (ls.map fun l => .int (f l)) = .ok (.int m) ∧ (∃ l ∈ ls, f l = m) ∧
      ∀ l ∈ ls, ¬ beats (f l) m := by
  have keys : ∀ x ∈ ls.map fun l => Value.int (f l), (.ok x : Outcome Value) = .ok (.int x.atomKey) := by
    intro x hx
    obtain ⟨l, -, rfl⟩ := List.mem_map.mp hx
    rfl
  obtain ⟨m, heq, ⟨x, hx, hm⟩, extreme⟩ := numeric.bestKey keys (by simpa using some)
  refine ⟨m, heq, ?_, fun l hl => extreme _ (List.mem_map_of_mem hl)⟩
  obtain ⟨l, hl, rfl⟩ := List.mem_map.mp hx
  exact ⟨l, hl, hm⟩

theorem bestOf_least {ls : List Location} (some : ls ≠ []) (mem : ∀ l, l ∈ ls ↔ P l)
    (least : IsLeast (f '' {l | P l}) m) :
    Patch.bestOf Value.least (ls.map fun l => .int (f l)) = .ok (.int m) := by
  obtain ⟨n, heq, attained, extreme⟩ := numericRule_least.exists_bestOf f some
  simp only [mem] at attained extreme
  rw [heq, (isLeast_image_iff.mpr ⟨attained, fun l hl => not_lt.mp (extreme l hl)⟩).unique least]

theorem bestOf_greatest {ls : List Location} (some : ls ≠ []) (mem : ∀ l, l ∈ ls ↔ P l)
    (greatest : IsGreatest (f '' {l | P l}) m) :
    Patch.bestOf Value.greatest (ls.map fun l => .int (f l)) = .ok (.int m) := by
  obtain ⟨n, heq, attained, extreme⟩ := numericRule_greatest.exists_bestOf f some
  simp only [mem] at attained extreme
  rw [heq, (isGreatest_image_iff.mpr ⟨attained, fun l hl => not_lt.mp (extreme l hl)⟩).unique greatest]

theorem Visits.upperLeft (h : v.Visits P) (hbox : Bounds P box) :
    Patch.upperLeft v = .ok (.location box.top box.left) := by
  obtain ⟨ls, some, mem, heq⟩ := h.exists_coordinates hbox.exists_location
  rw [Patch.upperLeft, heq, Outcome.ok_bind, List.mapM_cons, bestOf_least some mem hbox.top,
    Outcome.ok_bind, List.mapM_cons, bestOf_least some mem hbox.left]
  rfl

theorem Visits.lowerRight (h : v.Visits P) (hbox : Bounds P box) :
    Patch.lowerRight v = .ok (.location box.bottom box.right) := by
  obtain ⟨ls, some, mem, heq⟩ := h.exists_coordinates hbox.exists_location
  rw [Patch.lowerRight, heq, Outcome.ok_bind, List.mapM_cons, bestOf_greatest some mem hbox.bottom,
    Outcome.ok_bind, List.mapM_cons, bestOf_greatest some mem hbox.right]
  rfl

theorem IsPatch.upperLeft (h : v.IsPatch P) (hbox : Bounds P box) :
    Patch.upperLeft v = .ok (.location box.top box.left) :=
  h.visits.upperLeft hbox

theorem IsPatch.lowerRight (h : v.IsPatch P) (hbox : Bounds P box) :
    Patch.lowerRight v = .ok (.location box.bottom box.right) :=
  h.visits.lowerRight hbox

/-- The outermost rows and columns of the patch are those of a box. -/
structure Spans (v : Value) (box : Box) : Prop where
  top : Patch.topRow v = .ok (.int box.top)
  left : Patch.leftColumn v = .ok (.int box.left)
  bottom : Patch.bottomRow v = .ok (.int box.bottom)
  right : Patch.rightColumn v = .ok (.int box.right)

theorem IsPatch.spans (h : v.IsPatch P) (hbox : Bounds P box) : v.Spans box := by
  have some := hbox.exists_location
  obtain ⟨top, htop, least⟩ := h.topRow some
  obtain ⟨left, hleft, least'⟩ := h.leftColumn some
  obtain ⟨bottom, hbottom, greatest⟩ := h.bottomRow some
  obtain ⟨right, hright, greatest'⟩ := h.rightColumn some
  rw [(isLeast_image_iff.mpr least).unique hbox.top] at htop
  rw [(isLeast_image_iff.mpr least').unique hbox.left] at hleft
  rw [(isGreatest_image_iff.mpr greatest).unique hbox.bottom] at hbottom
  rw [(isGreatest_image_iff.mpr greatest').unique hbox.right] at hright
  exact ⟨htop, hleft, hbottom, hright⟩

section

variable (h : v.IsFigure S) (hbox : Bounds (Places S) box)
include h hbox

theorem IsFigure.size_ne_zero : v.itemList.length ≠ 0 := by
  obtain ⟨_, s, hs, -⟩ := hbox.exists_location
  exact (List.length_pos_of_mem ((h.isSetOf.mem_itemList _).mpr ⟨s, hs, rfl⟩)).ne'

theorem IsFigure.height : Patch.height v = .ok (box.bottom - box.top + 1) := by
  have spans := h.isPatch.spans hbox
  have tuple : v.isTuple = false := by rw [h.isSetOf.eq_set]; rfl
  simp [Patch.height, h.isSetOf.size, h.size_ne_zero hbox, tuple, spans.top, spans.bottom, Value.sub,
    onNumbers]

theorem IsFigure.width : Patch.width v = .ok (box.right - box.left + 1) := by
  have spans := h.isPatch.spans hbox
  have tuple : v.isTuple = false := by rw [h.isSetOf.eq_set]; rfl
  simp [Patch.width, h.isSetOf.size, h.size_ne_zero hbox, tuple, spans.left, spans.right, Value.sub,
    onNumbers]

/-- The dimensions of a patch are those of its box. -/
theorem IsFigure.shape :
    Patch.shape v =
      .ok (.location (box.bottom - box.top + 1) (box.right - box.left + 1)) := by
  rw [Patch.shape, h.height hbox, Outcome.ok_bind, h.width hbox, Outcome.ok_bind, Outcome.pure_eq_ok]

end

end Value

end GridPuzzle
