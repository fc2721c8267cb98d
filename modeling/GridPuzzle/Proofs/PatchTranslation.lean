import GridPuzzle.Grid.Scale
import GridPuzzle.Proofs.FlippedPatch
import GridPuzzle.Proofs.Gravitation
import GridPuzzle.Proofs.PatchOutline

/-!
# Patches under translation

What is said about a patch by its box moves with the box. The other operations are about all of its spots:

* the centroid is a mean, which does not depend on the order of the locations (`IsFigure.centroid_eq`);
* an enlarged object consists of the blocks of its spots at the origin (`IsFigure.exists_enlarge`);
* distances between two patches do not change if both move (`distances_shift`), so gravitation searches
  through the same steps (`IsFigure.gravitate_shift`).
-/

namespace GridPuzzle

/-! ## Means -/

section

variable {ls ks : List Location} {f : Location → Int} {c : Int}

/-- The mean of some numbers, rounded down. -/
def mean (f : Location → Int) (ls : List Location) : Int :=
  ((ls.map f).foldl (· + ·) 0).fdiv ls.length

theorem mean_perm (perm : ls.Perm ks) : mean f ls = mean f ks := by
  rw [mean, mean, perm.length_eq, (perm.map f).foldl_op_eq]

/-- A sum in which each number has grown by a constant. -/
theorem foldl_add_const (ls : List Location) (move : Location → Location) (moves : ∀ l, f (move l) = f l + c)
    (start extra : Int) :
    ((ls.map move).map f).foldl (· + ·) (start + extra) =
      (ls.map f).foldl (· + ·) start + (extra + c * ls.length) := by
  induction ls generalizing start extra with
  | nil => simp
  | cons l ls ih =>
      have first : start + extra + f (move l) = start + f l + (extra + c) := by
        rw [moves]
        omega
      simp only [List.map_cons, List.foldl_cons, List.length_cons, Int.natCast_succ, Int.mul_add, Int.mul_one]
      rw [first, ih]
      omega

theorem mean_move (move : Location → Location) (moves : ∀ l, f (move l) = f l + c) (some : ls ≠ []) :
    mean f (ls.map move) = mean f ls + c := by
  have count : (ls.length : Int) ≠ 0 := by simpa using some
  have total := foldl_add_const ls move moves 0 0
  rw [Int.add_zero, Int.zero_add] at total
  rw [mean, mean, total, List.length_map, Int.add_mul_fdiv_right _ _ count]

end

namespace Value

variable {v w : Value} {S T : Spot → Prop} {P Q : Location → Prop} {box box' : Box} {d : Location}

/-- No two spots have the same place. -/
def Distinct (S : Spot → Prop) : Prop :=
  ∀ r s, S r → S s → r.place = s.place → r = s

theorem distinct_bare : Distinct (Bare P) := by
  intro r s hr hs place
  cases r
  cases s
  rw [Spot.mk.injEq]
  exact ⟨hr.1.trans hs.1.symm, place⟩

theorem IsFigure.nodup_spots (h : v.IsFigure S) {spots : List Spot}
    (hspots : v.itemList = spots.map Spot.toValue) : spots.Nodup := by
  obtain ⟨⟨xs, rfl, increasing⟩, -⟩ := h.isSetOf
  exact (hspots ▸ increasing.nodup : (spots.map Spot.toValue).Nodup).of_map

/-- A patch without two spots at one place has as many items as locations. -/
theorem IsFigure.length_eq (h : v.IsFigure S) (distinct : Distinct S) {ls : List Location} (nodup : ls.Nodup)
    (mem : ∀ l, l ∈ ls ↔ Places S l) : v.itemList.length = ls.length := by
  obtain ⟨spots, hspots, hmem⟩ := h.exists_spots
  have places : (spots.map Spot.place).Nodup :=
    (h.nodup_spots hspots).map_on fun r hr s hs => distinct r s ((hmem r).mp hr) ((hmem s).mp hs)
  have perm : (spots.map Spot.place).Perm ls := by
    rw [List.perm_ext_iff_of_nodup places nodup]
    intro l
    simp only [List.mem_map, hmem, mem, Places]
  rw [hspots, List.length_map, ← perm.length_eq, List.length_map]

/-- The centroid of a patch is the mean of its locations, listed in any order. -/
theorem IsFigure.centroid_eq (h : v.IsFigure S) (distinct : Distinct S) {ls : List Location} (some : ls ≠ [])
    (nodup : ls.Nodup) (mem : ∀ l, l ∈ ls ↔ Places S l) :
    Patch.centroid v = .ok (.location (mean Prod.fst ls) (mean Prod.snd ls)) := by
  obtain ⟨ks, nodup', mem', hitems⟩ := h.isPatch.exists_locations
  have perm : ks.Perm ls := by
    rw [List.perm_ext_iff_of_nodup nodup' nodup]
    intro l
    rw [mem', mem]
  have some' : ks ≠ [] := fun empty => some (by simpa [empty] using perm)
  have numbers (f : Location → Int) : (ks.map fun l => Value.int (f l)).mapM Value.number = .ok (ks.map f) := by
    rw [List.mapM_map]
    exact mapM_eq_pure_map fun _ _ => rfl
  have count : v.itemList.length = ks.length := h.length_eq distinct nodup' mem'
  rw [Patch.centroid, coordinates_eq some' hitems, Outcome.ok_bind, ← mean_perm perm, ← mean_perm perm]
  simp only [List.mapM_cons, List.mapM_nil, numbers, h.isSetOf.size, Outcome.ok_bind, Outcome.pure_eq_ok, count]
  rfl

/-! ## Enlarged objects -/

/-- The spots of the block that an enlarged spot becomes. -/
def blockSpots (factor : Int) (s : Spot) : List Spot :=
  (List.range factor.toNat).flatMap fun (i : Nat) => (List.range factor.toNat).map fun (j : Nat) =>
    ⟨s.color, (s.place.1 * factor + i, s.place.2 * factor + j)⟩

/-- The spots of the blocks of some spots. -/
def Blocks (factor : Int) (S : Spot → Prop) (s : Spot) : Prop :=
  ∃ r, S r ∧ s ∈ blockSpots factor r

theorem mem_blockSpots {factor : Int} {r s : Spot} :
    s ∈ blockSpots factor r ↔ ∃ i j : Nat, i < factor.toNat ∧ j < factor.toNat ∧
      s = ⟨r.color, (r.place.1 * factor + i, r.place.2 * factor + j)⟩ := by
  simp only [blockSpots, List.mem_flatMap, List.mem_map, List.mem_range]
  constructor
  · intro h
    obtain ⟨i, hi, j, hj, rfl⟩ := h
    exact ⟨i, j, hi, hj, rfl⟩
  · intro h
    obtain ⟨i, j, hi, hj, rfl⟩ := h
    exact ⟨i, hi, j, hj, rfl⟩

theorem add_mul_ediv {i m factor : Int} (nonneg : 0 ≤ i) (less : i < factor) : (i + m * factor) / factor = m := by
  rw [Int.add_mul_ediv_right _ _ (by omega), Int.ediv_eq_zero_of_lt nonneg less, Int.zero_add]

/-- A multiple of a number, and a smaller remainder, are given by their sum. -/
theorem eq_of_mul_add_eq {m n factor : Int} {i j : Nat} (hi : i < factor.toNat) (hj : j < factor.toNat)
    (h : m * factor + i = n * factor + j) : m = n := by
  rw [Int.add_comm, Int.add_comm (n * factor)] at h
  rw [← add_mul_ediv (m := m) (Int.natCast_nonneg i) (Int.lt_toNat.mp hi), h,
    add_mul_ediv (Int.natCast_nonneg j) (Int.lt_toNat.mp hj)]

theorem color_of_mem_blockSpots {factor : Int} {r s : Spot} (h : s ∈ blockSpots factor r) :
    s.color = r.color := by
  obtain ⟨i, j, -, -, rfl⟩ := mem_blockSpots.mp h
  rfl

/-- Blocks of different spots do not meet. -/
theorem place_eq_of_blocks {factor : Int} {r r' s s' : Spot} (h : s ∈ blockSpots factor r)
    (h' : s' ∈ blockSpots factor r') (place : s.place = s'.place) : r.place = r'.place := by
  obtain ⟨i, j, hi, hj, rfl⟩ := mem_blockSpots.mp h
  obtain ⟨i', j', hi', hj', rfl⟩ := mem_blockSpots.mp h'
  exact Prod.ext (eq_of_mul_add_eq hi hi' (congrArg Prod.fst place))
    (eq_of_mul_add_eq hj hj' (congrArg Prod.snd place))

theorem block_toValue (factor : Int) {s : Spot} (colored : s.color.isSome) :
    Grid.block (.int factor) s.toValue = .ok ((blockSpots factor s).map Spot.toValue) := by
  obtain ⟨_ | c, l⟩ := s
  · cases colored
  · have row (i : Nat) : ((List.range factor.toNat).mapM fun (j : Nat) => do
        let row' ← (← (Value.int l.1).mul (.int factor)).add (.int i)
        return Value.pair c (.pair row' (← (← (Value.int l.2).mul (.int factor)).add (.int j)))) =
        (pure ((List.range factor.toNat).map fun (j : Nat) =>
          Value.pair c (Location.toValue (l.1 * factor + i, l.2 * factor + j))) : Outcome _) :=
      mapM_eq_pure_map fun _ _ => rfl
    simp only [Grid.block, Spot.toValue, cellParts_toValue, Outcome.ok_bind, number_int]
    rw [mapM_eq_pure_map fun i _ => row i, Outcome.pure_eq_ok, Outcome.ok_bind, Outcome.pure_eq_ok, blockSpots,
      List.map_flatMap, List.flatMap_def]
    simp only [List.map_map]
    rfl

/-- The blocks of an object. -/
theorem IsFigure.exists_blocks (h : v.IsFigure S) (colored : ∀ s, S s → s.color.isSome) (factor : Int) :
    ∃ blocks, v.itemList.mapM (Grid.block (.int factor)) = .ok blocks ∧
      (setOf blocks.flatten).IsFigure (Blocks factor S) := by
  obtain ⟨spots, hspots, hmem⟩ := h.exists_spots
  have mem : ∀ s, s ∈ spots.flatMap (blockSpots factor) ↔ Blocks factor S s := by
    intro s
    simp only [List.mem_flatMap, hmem, Blocks]
  refine ⟨spots.map fun s => (blockSpots factor s).map Spot.toValue, ?_, ?_⟩
  · rw [hspots]
    exact mapM_spots fun s hs => block_toValue factor (colored s ((hmem s).mp hs))
  · rw [← List.flatMap_def, ← List.map_flatMap]
    refine (isFigure_setOf ?_ ?_).congr mem
    · intro s hs s' hs'
      obtain ⟨r, hr, hs⟩ := (mem s).mp hs
      obtain ⟨r', hr', hs'⟩ := (mem s').mp hs'
      rw [color_of_mem_blockSpots hs, color_of_mem_blockSpots hs', colored r hr, colored r' hr']
    · intro s hs s' hs' color place
      obtain ⟨r, hr, hs⟩ := (mem s).mp hs
      obtain ⟨r', hr', hs'⟩ := (mem s').mp hs'
      have color' : r.SameColor r' := by
        rw [Spot.SameColor, ← color_of_mem_blockSpots hs, ← color_of_mem_blockSpots hs']
        exact color
      -- The blocks meet, so they are one block, and its spots have one color.
      obtain rfl : r = r' := h.eq_of_beq hr hr' color' (place_eq_of_blocks hs hs' place)
      have same : s.color = s'.color := by
        rw [color_of_mem_blockSpots hs, color_of_mem_blockSpots hs']
      cases s
      cases s'
      rw [Spot.mk.injEq]
      exact ⟨same, place⟩

/-- An enlarged object consists of the blocks of the object at the origin, moved to its corner. -/
theorem IsFigure.exists_enlarge (h : v.IsFigure S) (hbox : Bounds (Places S) box)
    (colored : ∀ s, S s → s.color.isSome) (factor : Int) :
    ∃ w, Grid.enlarge v (.int factor) = .ok w ∧
      w.IsFigure (Moved box.corner.shift (Blocks factor (Moved box.toOrigin.shift S))) := by
  have colored' : ∀ s, Moved box.toOrigin.shift S s → s.color.isSome := by
    intro s hs
    obtain ⟨r, hr, rfl⟩ := hs
    exact colored r hr
  obtain ⟨u, hu, figure⟩ := h.exists_shift box.toOrigin
  obtain ⟨blocks, hblocks, whole⟩ := figure.exists_blocks colored' factor
  obtain ⟨w, hw, figure'⟩ := whole.exists_shift box.corner
  refine ⟨w, ?_, figure'⟩
  have corner := h.isPatch.upperLeft hbox
  have count := h.isSetOf.size
  have filled := h.size_ne_zero hbox
  obtain ⟨items, rfl⟩ : ∃ items, v = .set items := ⟨_, h.isSetOf.eq_set⟩
  simp only [Grid.enlarge]
  rw [count, Outcome.ok_bind, if_neg filled, corner]
  change (do
    let atOrigin ← Patch.shift (.set items) box.toOrigin.toValue
    let blocks ← (← atOrigin.items).mapM (Grid.block (.int factor))
    Patch.shift (.setOf blocks.flatten) box.corner.toValue) = _
  rw [hu, Outcome.ok_bind, figure.isSetOf.items, Outcome.ok_bind, hblocks, Outcome.ok_bind, hw]

/-! ## Shifted outlines and flips -/

/-- Both computations succeed, and the second one gives the patch of the first one, shifted. -/
def ShiftsTo (d : Location) (result result' : Outcome Value) : Prop :=
  ∃ w w', result = .ok w ∧ result' = .ok w' ∧ Patch.shift w d.toValue = .ok w'

theorem IsFigure.exists_toOrigin (h : v.IsFigure S) (hbox : Bounds (Places S) box) :
    ∃ w, Patch.toOrigin v = .ok w ∧ w.IsFigure (Moved box.toOrigin.shift S) := by
  have spans := h.isPatch.spans hbox
  obtain ⟨w, hw, figure⟩ := h.exists_shift box.toOrigin
  refine ⟨w, ?_, figure⟩
  rw [Patch.toOrigin, h.isSetOf.size, Outcome.ok_bind, if_neg (h.size_ne_zero hbox), spans.top, spans.left]
  exact hw

section

variable {v' : Value} (h : v.IsFigure S) (hbox : Bounds (Places S) box) (h' : v'.IsFigure (Moved d.shift S))
include h hbox h'

/-- An outline that is given by the box of a patch, and moves with the box, moves with the patch. -/
theorem IsFigure.shiftsTo_outline {f : Value → Outcome Value}
    (outline : Box → (Location → Prop) → Location → Prop)
    (exists_outline : ∀ {v : Value} {S : Spot → Prop} {box : Box}, v.IsFigure S → Bounds (Places S) box →
      ∃ w, f v = .ok w ∧ w.IsLocationSet (outline box (Places S)))
    (moves : ∀ l, outline (box.shift d) (Places (Moved d.shift S)) (d.shift l) ↔ outline box (Places S) l) :
    ShiftsTo d (f v) (f v') := by
  obtain ⟨w, hw, hset⟩ := exists_outline h hbox
  obtain ⟨w', hw', hset'⟩ := exists_outline h' (bounds_shifted hbox d)
  exact ⟨w, w', hw, hw', hset.shift_eq hset' moves⟩

theorem IsFigure.shiftsTo_ringAt (outwards : Int) :
    ShiftsTo d (Patch.ringAt outwards v) (Patch.ringAt outwards v') := by
  refine h.shiftsTo_outline hbox h' (fun box _ => (box.grown outwards).OnBorder)
    (fun h hbox => h.exists_ringAt hbox outwards) fun l => ?_
  rw [Box.grown_shift, Box.onBorder_shift]

theorem IsFigure.shiftsTo_flip (f : Flip) : ShiftsTo d (f.apply v) (f.apply v') := by
  have places : f.place (box.shift d) ∘ d.shift = d.shift ∘ f.place box := by
    funext l
    cases f <;> ext <;> simp only [Flip.place, Box.shift, Location.shift, Function.comp_apply] <;> omega
  obtain ⟨w, hw, figure⟩ := h.exists_flip hbox f
  obtain ⟨w', hw', figure'⟩ := h'.exists_flip (bounds_shifted hbox d) f
  refine ⟨w, w', hw, hw', figure.shift_eq figure' fun s => ?_⟩
  rw [moved_moved, moved_moved, places]

/-- Outlines and flips move with the patch. -/
theorem IsFigure.shiftsTo_frames :
    ∀ f ∈ [Patch.boundingBox, Patch.boxRest, Patch.ring, Patch.innerRing, Patch.outerRing, Patch.corners,
      Grid.flipRows, Grid.flipColumns, Grid.transpose, Grid.antiTranspose], ShiftsTo d (f v) (f v') := by
  have whole : ShiftsTo d (Patch.boundingBox v) (Patch.boundingBox v') :=
    h.shiftsTo_outline hbox h' (fun box _ => box.Holds) (fun h hbox => h.exists_boundingBox hbox)
      fun _ => Box.holds_shift
  have rest : ShiftsTo d (Patch.boxRest v) (Patch.boxRest v') := by
    refine h.shiftsTo_outline hbox h' (fun box P l => box.Holds l ∧ ¬ P l)
      (fun h hbox => h.exists_boxRest hbox) fun l => ?_
    rw [Box.holds_shift, places_moved_iff d.shift_injective]
  have ring : ShiftsTo d (Patch.ring v) (Patch.ring v') := by
    refine h.shiftsTo_outline hbox h' (fun box _ => (box.grown 0).OnBorder)
      (fun h hbox => h.exists_ring hbox) fun l => ?_
    rw [Box.grown_shift, Box.onBorder_shift]
  have corners : ShiftsTo d (Patch.corners v) (Patch.corners v') :=
    h.shiftsTo_outline hbox h' (fun box _ => box.IsCorner)
      (fun h hbox => h.isPatch.exists_corners hbox) fun _ => Box.isCorner_shift
  have flip := h.shiftsTo_flip hbox h'
  simp only [List.forall_mem_cons, List.not_mem_nil, IsEmpty.forall_iff, implies_true, and_true]
  exact ⟨whole, rest, ring, h.shiftsTo_ringAt hbox h' (-1), h.shiftsTo_ringAt hbox h' 1, corners, flip .rows,
    flip .columns, flip .diagonal, flip .antidiagonal⟩

theorem IsFigure.shiftsTo_enlarge (colored : ∀ s, S s → s.color.isSome) (factor : Int) :
    ShiftsTo d (Grid.enlarge v (.int factor)) (Grid.enlarge v' (.int factor)) := by
  have colored' : ∀ s, Moved d.shift S s → s.color.isSome := by
    intro s hs
    obtain ⟨r, hr, rfl⟩ := hs
    exact colored r hr
  obtain ⟨w, hw, figure⟩ := h.exists_enlarge hbox colored factor
  obtain ⟨w', hw', figure'⟩ := h'.exists_enlarge (bounds_shifted hbox d) colored' factor
  refine ⟨w, w', hw, hw', figure.shift_eq figure' fun s => ?_⟩
  rw [moved_comp, box.toOrigin_shift, moved_moved, box.corner_shift]

theorem IsFigure.shape_shift : ∃ w, Patch.shape v = .ok w ∧ Patch.shape v' = .ok w := by
  have height : (box.shift d).bottom - (box.shift d).top = box.bottom - box.top := by
    simp only [Box.shift]
    omega
  have width : (box.shift d).right - (box.shift d).left = box.right - box.left := by
    simp only [Box.shift]
    omega
  exact ⟨_, h.shape hbox, by rw [h'.shape (bounds_shifted hbox d), height, width]⟩

/-- At the origin, a shifted patch is what the patch is there. -/
theorem IsFigure.toOrigin_shift : ∃ w, Patch.toOrigin v = .ok w ∧ Patch.toOrigin v' = .ok w := by
  obtain ⟨w, hw, figure⟩ := h.exists_toOrigin hbox
  obtain ⟨w', hw', figure'⟩ := h'.exists_toOrigin (bounds_shifted hbox d)
  rw [moved_comp, box.toOrigin_shift] at figure'
  exact ⟨w, hw, by rw [hw', figure.unique figure']⟩

end

/-- Lines move with their ends. -/
theorem shiftsTo_line (d a b : Location) :
    ShiftsTo d (Patch.line a.toValue b.toValue) (Patch.line (d.shift a).toValue (d.shift b).toValue) := by
  have line : (setOf ((Location.line a b).map Location.toValue)).IsLocationSet (· ∈ Location.line a b) :=
    isLocationSet_setOf fun _ => Iff.rfl
  have moved : (setOf (((Location.line a b).map d.shift).map Location.toValue)).IsLocationSet
      (· ∈ (Location.line a b).map d.shift) := isLocationSet_setOf fun _ => Iff.rfl
  refine ⟨_, _, Location.line_toValue a b, ?_, line.shift_eq moved fun l => ?_⟩
  · rw [Location.line_toValue, Location.line_shift]
  · exact List.mem_map_of_injective d.shift_injective

/-! ## Points of a shifted patch -/

theorem Distinct.moved (distinct : Distinct S) {f : Location → Location} (inj : Function.Injective f) :
    Distinct (Moved f S) := by
  intro r s hr hs place
  obtain ⟨r, hr, rfl⟩ := hr
  obtain ⟨s, hs, rfl⟩ := hs
  rw [distinct r s hr hs (inj place)]

/-- The centroid moves with the patch. -/
theorem IsFigure.centroid_shift {v' : Value} (h : v.IsFigure S) (some : ∃ s, S s)
    (h' : v'.IsFigure (Moved d.shift S)) (distinct : Distinct S) :
    ∃ l : Location, Patch.centroid v = .ok l.toValue ∧ Patch.centroid v' = .ok (d.shift l).toValue := by
  obtain ⟨ls, nodup, mem, -⟩ := h.isPatch.exists_locations
  obtain ⟨s, hs⟩ := some
  have filled : ls ≠ [] := List.ne_nil_of_mem ((mem s.place).mpr ⟨s, hs, rfl⟩)
  have mem' : ∀ l, l ∈ ls.map d.shift ↔ Places (Moved d.shift S) l := by
    intro l
    simp only [List.mem_map, mem, places_moved]
  refine ⟨(mean Prod.fst ls, mean Prod.snd ls), h.centroid_eq distinct filled nodup mem, ?_⟩
  rw [h'.centroid_eq (distinct.moved d.shift_injective) (by simpa using filled)
    (nodup.map d.shift_injective) mem', mean_move d.shift (c := d.1) (fun _ => rfl) filled,
    mean_move d.shift (c := d.2) (fun _ => rfl) filled]
  rfl

/-- Corners, middle and centroid move with the patch. -/
theorem IsFigure.points_shift {v' : Value} (h : v.IsFigure S) (hbox : Bounds (Places S) box)
    (h' : v'.IsFigure (Moved d.shift S)) (distinct : Distinct S) :
    ∀ f ∈ [Patch.upperLeft, Patch.upperRight, Patch.lowerLeft, Patch.lowerRight, Patch.center, Patch.centroid],
      ∃ l : Location, f v = .ok l.toValue ∧ f v' = .ok (d.shift l).toValue := by
  have hbox' := bounds_shifted hbox d
  have center : Patch.center v' = .ok (d.shift box.center).toValue := by
    rw [Patch.center, h'.centerLocation hbox', Box.center_shift]
    rfl
  obtain ⟨_, s, hs, -⟩ := hbox.exists_location
  simp only [List.forall_mem_cons, List.not_mem_nil, IsEmpty.forall_iff, implies_true, and_true]
  refine ⟨⟨(box.top, box.left), h.isPatch.upperLeft hbox, h'.isPatch.upperLeft hbox'⟩,
    ⟨(box.top, box.right), h.isPatch.upperRight hbox, h'.isPatch.upperRight hbox'⟩,
    ⟨(box.bottom, box.left), h.isPatch.lowerLeft hbox, h'.isPatch.lowerLeft hbox'⟩,
    ⟨(box.bottom, box.right), h.isPatch.lowerRight hbox, h'.isPatch.lowerRight hbox'⟩,
    ⟨box.center, ?_, center⟩, h.centroid_shift ⟨s, hs⟩ h' distinct⟩
  rw [Patch.center, h.centerLocation hbox]
  rfl

/-! ## Two shifted patches -/

/-- What relates moved locations of two patches. -/
theorem exists_places_moved_iff {f : Location → Location} {related : Location → Location → Prop} :
    (∃ k l, Places (Moved f S) k ∧ Places (Moved f T) l ∧ related k l) ↔
      ∃ k l, Places S k ∧ Places T l ∧ related (f k) (f l) := by
  constructor
  · intro h
    obtain ⟨k, l, hk, hl, hkl⟩ := h
    obtain ⟨k, hS, rfl⟩ := places_moved.mp hk
    obtain ⟨l, hT, rfl⟩ := places_moved.mp hl
    exact ⟨k, l, hS, hT, hkl⟩
  · intro h
    obtain ⟨k, l, hk, hl, hkl⟩ := h
    exact ⟨f k, f l, places_moved.mpr ⟨k, hk, rfl⟩, places_moved.mpr ⟨l, hl, rfl⟩, hkl⟩

theorem distances_shift : Distances (Places (Moved d.shift S)) (Places (Moved d.shift T)) =
    Distances (Places S) (Places T) := by
  have distance (k l : Location) : (d.shift k).distance (d.shift l) = k.distance l := by
    simp only [Location.distance, Location.shift]
    omega
  ext n
  simp only [Distances, Set.mem_ofPred_eq, exists_places_moved_iff, distance]

theorem touchesAfter_shift (e : Location) :
    TouchesAfter e (Moved d.shift S) (Places (Moved d.shift T)) = TouchesAfter e S (Places T) := by
  funext m
  rw [TouchesAfter, moved_comp, Location.shift_comm, ← moved_comp, Touching, distances_shift]
  rfl

theorem toward_add (a b c : Int) : toward (a + c) (b + c) = toward a b := by
  simp only [toward, Int.add_lt_add_iff_right]

/-- The direction from one middle to another. -/
def heading (c c' : Location) : Location :=
  if c.1 = c'.1 then (0, toward c.2 c'.2)
  else if c.2 = c'.2 then (toward c.1 c'.1, 0)
  else (toward c.1 c'.1, toward c.2 c'.2)

theorem heading_shift (c c' : Location) : heading (d.shift c) (d.shift c') = heading c c' := by
  simp only [heading, Location.shift, toward_add, Int.add_left_inj]

theorem pull_shift (shared : Bool) (c c' : Location) :
    pull shared (d.shift c) (d.shift c') = pull shared c c' := by
  simp only [pull, Location.shift, toward_add]

theorem IsPatch.direction_eq (h : v.IsPatch P) (hbox : Bounds P box) (h' : w.IsPatch Q)
    (hbox' : Bounds Q box') :
    Patch.direction v w = .ok (heading box.center box'.center).toValue := by
  have bare (P : Location → Prop) : Places (Bare P) = P := funext fun _ => propext places_bare
  obtain ⟨places, hplaces, hset⟩ := h
  obtain ⟨places', hplaces', hset'⟩ := h'
  have center : Patch.centerLocation places = .ok box.center :=
    hset.isFigure.centerLocation (by rwa [bare])
  have center' : Patch.centerLocation places' = .ok box'.center :=
    hset'.isFigure.centerLocation (by rwa [bare])
  simp only [Patch.direction, hplaces, hplaces', center, center', Outcome.ok_bind, Outcome.pure_eq_ok, heading,
    toward]
  split_ifs <;> rfl

theorem IsFigure.sharesColumn_shift {v' w' : Value} (hv : v.IsFigure S) (hw : w.IsFigure T)
    (hv' : v'.IsFigure (Moved d.shift S)) (hw' : w'.IsFigure (Moved d.shift T)) :
    Patch.sharesColumn v' w' = Patch.sharesColumn v w := by
  obtain ⟨shared, heq, iff⟩ := hv.isPatch.exists_sharesColumn hw.isPatch
  obtain ⟨shared', heq', iff'⟩ := hv'.isPatch.exists_sharesColumn hw'.isPatch
  rw [heq, heq', Except.ok.injEq, Bool.eq_iff_iff, iff, iff', exists_places_moved_iff]
  simp only [Location.shift, Int.add_left_inj]

section

variable {v' w' : Value} (hv : v.IsFigure S) (hw : w.IsFigure T) (hbox : Bounds (Places S) box)
  (hbox' : Bounds (Places T) box') (hv' : v'.IsFigure (Moved d.shift S)) (hw' : w'.IsFigure (Moved d.shift T))
include hv hw hbox hbox' hv' hw'

theorem IsFigure.distance_shift : ∃ n : Nat, Patch.distance v w = .ok n ∧ Patch.distance v' w' = .ok n := by
  obtain ⟨n, hn, least⟩ := hv.isPatch.exists_distance hw.isPatch hbox.exists_location hbox'.exists_location
  obtain ⟨n', hn', least'⟩ := hv'.isPatch.exists_distance hw'.isPatch
    (bounds_shifted hbox d).exists_location (bounds_shifted hbox' d).exists_location
  rw [distances_shift] at least'
  exact ⟨n, hn, by rw [hn', least.unique least']⟩

theorem IsFigure.direction_shift :
    ∃ e : Location, Patch.direction v w = .ok e.toValue ∧ Patch.direction v' w' = .ok e.toValue := by
  refine ⟨_, hv.isPatch.direction_eq hbox hw.isPatch hbox', ?_⟩
  rw [hv'.isPatch.direction_eq (bounds_shifted hbox d) hw'.isPatch (bounds_shifted hbox' d), Box.center_shift,
    Box.center_shift, heading_shift]

/-- Gravitation between shifted patches takes the same steps. -/
theorem IsFigure.gravitate_shift :
    ∃ e : Location, Patch.gravitate v w = .ok e.toValue ∧ Patch.gravitate v' w' = .ok e.toValue := by
  obtain ⟨shared, n, hshared, heq, first⟩ := hv.exists_gravitate hw hbox hbox'
  obtain ⟨shared', n', hshared', heq', first'⟩ :=
    hv'.exists_gravitate hw' (bounds_shifted hbox d) (bounds_shifted hbox' d)
  obtain rfl : shared = shared' := by
    rw [hv.sharesColumn_shift hw hv' hw', hshared] at hshared'
    exact Except.ok.inj hshared'
  rw [Box.center_shift, Box.center_shift, pull_shift] at heq' first'
  rw [touchesAfter_shift] at first'
  exact ⟨_, heq, by rw [heq', first.unique first']⟩

end

/-! ## All operations -/

/-- Operations on patches commute with translation. If two patches that are not empty are shifted by one
vector, the corners, the middle and the centroid of the first one move by that vector, and so do its outlines,
its flips and, if it is an object, its enlargements. Its dimensions, its form at the origin, and the distance,
the direction and the gravitation from it to the second patch stay the same. Lines move with their ends. -/
theorem patches_commute_with_shift {p q : Value} (hp : p.IsFigure S) (hq : q.IsFigure T) (some : ∃ s, S s)
    (some' : ∃ s, T s) (distinct : Distinct S) (d : Location) :
    ∃ p' q', Patch.shift p d.toValue = .ok p' ∧ Patch.shift q d.toValue = .ok q' ∧
      (∀ f ∈ [Patch.upperLeft, Patch.upperRight, Patch.lowerLeft, Patch.lowerRight, Patch.center,
          Patch.centroid],
        ∃ l : Location, f p = .ok l.toValue ∧ f p' = .ok (d.shift l).toValue) ∧
      (∀ f ∈ [Patch.shape, Patch.toOrigin], ∃ w, f p = .ok w ∧ f p' = .ok w) ∧
      (∀ f ∈ [Patch.boundingBox, Patch.boxRest, Patch.ring, Patch.innerRing, Patch.outerRing, Patch.corners,
          Grid.flipRows, Grid.flipColumns, Grid.transpose, Grid.antiTranspose],
        ShiftsTo d (f p) (f p')) ∧
      ((∀ s, S s → s.color.isSome) → ∀ factor : Int,
        ShiftsTo d (Grid.enlarge p (.int factor)) (Grid.enlarge p' (.int factor))) ∧
      (∃ n, Patch.distance p q = .ok n ∧ Patch.distance p' q' = .ok n) ∧
      (∀ f ∈ [Patch.direction, Patch.gravitate], ∃ e, f p q = .ok e ∧ f p' q' = .ok e) ∧
      ∀ a b : Location, ShiftsTo d (Patch.line a.toValue b.toValue)
        (Patch.line (d.shift a).toValue (d.shift b).toValue) := by
  obtain ⟨box, hbox⟩ := hp.exists_bounds some
  obtain ⟨box', hbox'⟩ := hq.exists_bounds some'
  obtain ⟨p', hp', figure⟩ := hp.exists_shift d
  obtain ⟨q', hq', figure'⟩ := hq.exists_shift d
  have points := hp.points_shift hbox figure distinct
  have frames := hp.shiftsTo_frames hbox figure
  refine ⟨p', q', hp', hq', points, ?_, frames, hp.shiftsTo_enlarge hbox figure, ?_, ?_, shiftsTo_line d⟩
  · simp only [List.forall_mem_cons, List.not_mem_nil, IsEmpty.forall_iff, implies_true, and_true]
    exact ⟨hp.shape_shift hbox figure, hp.toOrigin_shift hbox figure⟩
  · obtain ⟨n, hn⟩ := hp.distance_shift hq hbox hbox' figure figure'
    exact ⟨n, hn⟩
  · obtain ⟨e, he⟩ := hp.direction_shift hq hbox hbox' figure figure'
    obtain ⟨e', he'⟩ := hp.gravitate_shift hq hbox hbox' figure figure'
    simp only [List.forall_mem_cons, List.not_mem_nil, IsEmpty.forall_iff, implies_true, and_true]
    exact ⟨⟨_, he⟩, _, he'⟩

theorem shifted_hook_and_cup :
    (setOf (hook.map Spot.toValue)).IsFigure (· ∈ hook) ∧ (setOf (cup.map Spot.toValue)).IsFigure (· ∈ cup) ∧
    Distinct (· ∈ hook) ∧
    ∃ p', Patch.shift (setOf (hook.map Spot.toValue)) (Location.toValue (7, -3)) = .ok p' ∧
      Patch.centroid p' = .ok (.location 5 2) := by
  have distinct : Distinct (· ∈ hook) := by
    intro r s hr hs place
    simp only [hook, List.mem_cons, List.not_mem_nil, or_false] at hr hs
    grind
  refine ⟨isFigure_hook, isFigure_cup, distinct, ?_⟩
  obtain ⟨p', -, hp', -, points, -⟩ := patches_commute_with_shift isFigure_hook isFigure_cup
    ⟨_, List.mem_cons_self⟩ ⟨_, List.mem_cons_self⟩ distinct (7, -3)
  obtain ⟨l, hl, hl'⟩ := points Patch.centroid (by simp)
  have centroid : Patch.centroid (setOf (hook.map Spot.toValue)) = .ok (Location.toValue (-2, 5)) := by cbv
  rw [hl, Except.ok.injEq] at centroid
  rw [Location.toValue_injective centroid] at hl'
  exact ⟨p', hp', hl'⟩

end Value

end GridPuzzle
