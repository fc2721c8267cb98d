import GridPuzzle.Proofs.BlankRectangle
import GridPuzzle.Proofs.NestedRing

/-!
# Patches that fill their boxes

The tests for shapes look at no location. They compare the number of items of a patch with the dimensions of its box.

If no two spots of a patch have one place, it has as many items as locations, and these are different locations of its
box. So it has at most as many items as the box has locations, and equal numbers leave no location of the box free
(`Value.IsFigure.length_eq_area_iff`). Locations that are those of any box have it as their box, whence a patch that
fills its box is given by the corner and the dimensions of it (`Value.filled_iff_exists_sized`). What the tests say
about numbers is thereby said about locations.
-/

namespace GridPuzzle

namespace Box

variable {box : Box}

theorem Proper.height_pos (h : box.Proper) : 1 ≤ box.height := by
  unfold Proper at h
  unfold height
  omega

theorem Proper.width_pos (h : box.Proper) : 1 ≤ box.width := by
  unfold Proper at h
  unfold width
  omega

theorem proper_of_holds {l : Location} (h : box.Holds l) : box.Proper :=
  ⟨h.1.1.trans h.1.2, h.2.1.trans h.2.2⟩

end Box

namespace Value

variable {v p : Value} {S : Spot → Prop} {P Q : Location → Prop} {box : Box}

theorem IsLocationSet.iff_of_isLocationSet (h : v.IsLocationSet P) : v.IsLocationSet Q ↔ ∀ l, P l ↔ Q l :=
  ⟨fun h' _ => h.toValue_mem_iff.symm.trans h'.toValue_mem_iff, h.of_iff⟩

theorem IsLocationSet.eq_empty_iff (h : v.IsLocationSet P) : v = .set [] ↔ ∀ l, ¬ P l := by
  constructor
  · intro empty l hl
    have mem := h.toValue_mem_iff.mpr hl
    rw [empty, mem_set] at mem
    cases mem
  · intro none
    have items : v.itemList = [] := by
      rw [List.eq_nil_iff_forall_not_mem]
      intro x hx
      rcases (IsSetOf.mem_itemList h x).mp hx with ⟨l, hl, -⟩
      exact none l hl
    rw [IsSetOf.eq_set h, items]

/-! ## Boxes of full boxes -/

/-- The box of the locations of a box is that box. -/
theorem bounds_holds (h : box.Proper) : Bounds box.Holds box := by
  rcases h with ⟨rows, columns⟩
  have upper : box.Holds (box.top, box.left) := ⟨⟨Int.le_refl _, rows⟩, Int.le_refl _, columns⟩
  have lower : box.Holds (box.bottom, box.right) := ⟨⟨rows, Int.le_refl _⟩, columns, Int.le_refl _⟩
  exact ⟨isLeast_image_iff.mpr ⟨⟨_, upper, rfl⟩, fun _ hl => hl.1.1⟩,
    isLeast_image_iff.mpr ⟨⟨_, upper, rfl⟩, fun _ hl => hl.2.1⟩,
    isGreatest_image_iff.mpr ⟨⟨_, lower, rfl⟩, fun _ hl => hl.1.2⟩,
    isGreatest_image_iff.mpr ⟨⟨_, lower, rfl⟩, fun _ hl => hl.2.2⟩⟩

/-- Every location of the box is among those with a property. -/
def Filled (P : Location → Prop) (box : Box) : Prop :=
  ∀ l, box.Holds l → P l

theorem Filled.iff_holds (h : Filled P box) (hbox : Bounds P box) {l : Location} : P l ↔ box.Holds l :=
  ⟨fun hl => ⟨hbox.row_mem hl, hbox.column_mem hl⟩, h l⟩

/-- Locations fill their box, and its dimensions are such and such, exactly if they are the locations of some box with
such dimensions. -/
theorem filled_iff_exists_sized (hbox : Bounds P box) (fits : Int → Int → Prop) :
    Filled P box ∧ fits box.height box.width ↔
      ∃ corner height width, fits height width ∧ ∀ l, P l ↔ (Box.sized corner height width).Holds l := by
  constructor
  · intro h
    rcases h with ⟨filled, dimensions⟩
    refine ⟨box.corner, box.height, box.width, dimensions, fun l => ?_⟩
    rw [box.sized_corner]
    exact filled.iff_holds hbox
  · intro h
    rcases h with ⟨corner, height, width, dimensions, same⟩
    have holds : P = (Box.sized corner height width).Holds := funext fun l => propext (same l)
    subst holds
    rcases hbox.exists_location with ⟨l, hl⟩
    obtain rfl : Box.sized corner height width = box := (bounds_holds (Box.proper_of_holds hl)).unique hbox
    rw [Box.height_sized, Box.width_sized]
    exact ⟨fun _ hl => hl, dimensions⟩

/-! ## Counting -/

section

variable (h : v.IsFigure S) (distinct : Distinct S) (hbox : Bounds (Places S) box)
include h distinct hbox

/-- The locations of a patch in a list: each of them once, as many as items, and all of them in the box. -/
theorem IsFigure.exists_subperm_places : ∃ ls : List Location, (∀ l, l ∈ ls ↔ Places S l) ∧
    v.itemList.length = ls.length ∧ ls.Subperm box.places := by
  rcases h.isPatch.exists_locations with ⟨ls, nodup, mem, -⟩
  have inBox : ls ⊆ box.places := by
    intro l hl
    have place := (mem l).mp hl
    exact Box.mem_places_iff.mpr ⟨hbox.row_mem place, hbox.column_mem place⟩
  exact ⟨ls, mem, h.length_eq distinct nodup mem, nodup.subperm inBox⟩

theorem IsFigure.length_le_area : (v.itemList.length : Int) ≤ box.area := by
  have proper := hbox.proper
  rcases h.exists_subperm_places distinct hbox with ⟨ls, -, length, subperm⟩
  rw [← Box.length_places (by have := proper.height_pos; omega) (by have := proper.width_pos; omega), length]
  exact Int.ofNat_le.mpr subperm.length_le

/-- A patch has as many items as its box has locations exactly if it fills the box. -/
theorem IsFigure.length_eq_area_iff : (v.itemList.length : Int) = box.area ↔ Filled (Places S) box := by
  have proper := hbox.proper
  rcases h.exists_subperm_places distinct hbox with ⟨ls, mem, length, subperm⟩
  rw [← Box.length_places (by have := proper.height_pos; omega) (by have := proper.width_pos; omega), length,
    Int.natCast_inj]
  constructor
  · intro same l hl
    -- Different locations of the box, as many as it has, are all of them.
    have perm : ls.Perm box.places := subperm.perm_of_length_le same.ge
    exact (mem l).mp (perm.mem_iff.mpr (Box.mem_places_iff.mpr hl))
  · intro filled
    have all : box.places ⊆ ls := fun l hl => (mem l).mpr (filled l (Box.mem_places_iff.mp hl))
    exact Nat.le_antisymm subperm.length_le (box.nodup_places.subperm all).length_le

/-! ## The tests -/

theorem IsFigure.isSquare_iff : ∃ square, Patch.isSquare v = .ok square ∧
    (square = true ↔ Filled (Places S) box ∧ box.height = box.width) := by
  have tuple : v.isTuple = false := by rw [h.isSetOf.eq_set]; rfl
  have rows : Patch.height v = .ok box.height := h.height hbox
  have columns : Patch.width v = .ok box.width := h.width hbox
  refine ⟨box.height * box.width == v.itemList.length && box.height == box.width, ?_, ?_⟩
  · simp [Patch.isSquare, tuple, rows, columns, h.isSetOf.size]
  · rw [Bool.and_eq_true, beq_iff_eq, beq_iff_eq, ← h.length_eq_area_iff distinct hbox, Box.area,
      eq_comm (a := box.height * box.width)]

/-- The comparison that both tests for lines make: the length of the box with the number of items, and then its breadth
with one. -/
theorem IsFigure.line_test_iff (length breadth : Int) (area : box.area = length * breadth) :
    (if length = v.itemList.length then breadth == 1 else false) = true ↔ Filled (Places S) box ∧ breadth = 1 := by
  rw [← h.length_eq_area_iff distinct hbox, area]
  split
  next same =>
    rw [beq_iff_eq, same]
    exact ⟨fun narrow => ⟨by rw [narrow, Int.mul_one], narrow⟩, And.right⟩
  next differ =>
    refine iff_of_false Bool.false_ne_true fun full => differ ?_
    rw [full.1, full.2, Int.mul_one]

theorem IsFigure.isVerticalLine_iff : ∃ vertical, Patch.isVerticalLine v = .ok vertical ∧
    (vertical = true ↔ Filled (Places S) box ∧ box.width = 1) := by
  have rows : Patch.height v = .ok box.height := h.height hbox
  have columns : Patch.width v = .ok box.width := h.width hbox
  refine ⟨_, ?_, h.line_test_iff distinct hbox box.height box.width rfl⟩
  simp only [Patch.isVerticalLine, rows, columns, h.isSetOf.size, Outcome.ok_bind, Outcome.pure_eq_ok]
  exact (apply_ite Except.ok ..).symm

theorem IsFigure.isHorizontalLine_iff : ∃ horizontal, Patch.isHorizontalLine v = .ok horizontal ∧
    (horizontal = true ↔ Filled (Places S) box ∧ box.height = 1) := by
  have rows : Patch.height v = .ok box.height := h.height hbox
  have columns : Patch.width v = .ok box.width := h.width hbox
  refine ⟨_, ?_, h.line_test_iff distinct hbox box.width box.height (Int.mul_comm ..)⟩
  simp only [Patch.isHorizontalLine, rows, columns, h.isSetOf.size, Outcome.ok_bind, Outcome.pure_eq_ok]
  exact (apply_ite Except.ok ..).symm

end

section

variable (hp : p.IsFigure S) (some : ∃ s, S s) (distinct : Distinct S)
include hp some distinct

theorem IsFigure.exists_isSquare : ∃ square, Patch.isSquare p = .ok square ∧
    (square = true ↔ ∃ corner n, ∀ l, Places S l ↔ (Box.sized corner n n).Holds l) := by
  rcases hp.exists_bounds some with ⟨box, hbox⟩
  rcases hp.isSquare_iff distinct hbox with ⟨square, heq, filled⟩
  refine ⟨square, heq, filled.trans ((filled_iff_exists_sized hbox fun height width => height = width).trans ?_)⟩
  exact exists_congr fun _ => exists_congr fun _ => exists_eq_left'

/-- The test for an upright line: whether the locations of the patch are a run of a column. -/
theorem IsFigure.exists_isVerticalLine : ∃ vertical, Patch.isVerticalLine p = .ok vertical ∧
    (vertical = true ↔ ∃ corner n, ∀ l, Places S l ↔ (Box.sized corner n 1).Holds l) := by
  rcases hp.exists_bounds some with ⟨box, hbox⟩
  rcases hp.isVerticalLine_iff distinct hbox with ⟨vertical, heq, filled⟩
  refine ⟨vertical, heq, filled.trans ((filled_iff_exists_sized hbox fun _ width => width = 1).trans ?_)⟩
  exact exists_congr fun _ => exists_congr fun _ => exists_eq_left

/-- The test for a line across: whether the locations of the patch are a run of a row. -/
theorem IsFigure.exists_isHorizontalLine : ∃ horizontal, Patch.isHorizontalLine p = .ok horizontal ∧
    (horizontal = true ↔ ∃ corner n, ∀ l, Places S l ↔ (Box.sized corner 1 n).Holds l) := by
  rcases hp.exists_bounds some with ⟨box, hbox⟩
  rcases hp.isHorizontalLine_iff distinct hbox with ⟨horizontal, heq, filled⟩
  refine ⟨horizontal, heq, filled.trans ((filled_iff_exists_sized hbox fun height _ => height = 1).trans ?_)⟩
  exact exists_congr fun _ => ⟨fun ⟨_, n, one, same⟩ => ⟨n, one ▸ same⟩, fun ⟨n, same⟩ => ⟨1, n, rfl, same⟩⟩

/-- **The tests for shapes are exact.** Take a patch that is not empty and in which no two spots have one place, as in
every set of locations. It has at most as many items as its box has locations, and as many exactly if nothing is left of
the box without the patch. So the patch passes the test for a square exactly if its locations are all those of a box
with as many rows as columns, the test for an upright line exactly if they are all those of a box of one column, and the
test for a line across exactly if they are all those of a box of one row. -/
theorem shape_tests_are_exact :
    ∃ (n : Nat) (height width : Int) (rest places : Value) (square vertical horizontal : Bool),
      p.size = .ok n ∧ Patch.height p = .ok height ∧ Patch.width p = .ok width ∧
      Patch.boxRest p = .ok rest ∧ Patch.locations p = .ok places ∧
      n ≤ height * width ∧ (n = height * width ↔ rest = .set []) ∧
      Patch.isSquare p = .ok square ∧
      (square = true ↔ ∃ corner k, places.IsLocationSet (Box.sized corner k k).Holds) ∧
      Patch.isVerticalLine p = .ok vertical ∧
      (vertical = true ↔ ∃ corner k, places.IsLocationSet (Box.sized corner k 1).Holds) ∧
      Patch.isHorizontalLine p = .ok horizontal ∧
      (horizontal = true ↔ ∃ corner k, places.IsLocationSet (Box.sized corner 1 k).Holds) := by
  rcases hp.exists_bounds some with ⟨box, hbox⟩
  rcases hp.exists_boxRest hbox with ⟨rest, hrest, left⟩
  rcases hp.isPatch with ⟨places, hplaces, located⟩
  rcases hp.exists_isSquare some distinct with ⟨square, hsquare, square_iff⟩
  rcases hp.exists_isVerticalLine some distinct with ⟨vertical, hvertical, vertical_iff⟩
  rcases hp.exists_isHorizontalLine some distinct with ⟨horizontal, hhorizontal, horizontal_iff⟩
  refine ⟨_, box.height, box.width, rest, places, square, vertical, horizontal, hp.isSetOf.size, hp.height hbox,
    hp.width hbox, hrest, hplaces, hp.length_le_area distinct hbox, ?_, hsquare, ?_, hvertical, ?_, hhorizontal, ?_⟩
  · rw [left.eq_empty_iff]
    refine (hp.length_eq_area_iff distinct hbox).trans (forall_congr' fun l => ?_)
    rw [not_and, not_not]
  · simpa only [located.iff_of_isLocationSet] using square_iff
  · simpa only [located.iff_of_isLocationSet] using vertical_iff
  · simpa only [located.iff_of_isLocationSet] using horizontal_iff

end

theorem places_bar {l : Location} : Places (· ∈ bar) l ↔ (Box.sized (0, 1) 2 1).Holds l := by
  rcases l with ⟨i, j⟩
  simp only [Places, bar, List.mem_cons, List.not_mem_nil, or_false, exists_eq_or_imp, exists_eq_left, Prod.mk.injEq,
    Box.Holds, Box.sized]
  omega

/-- The two cells of the bar fill a box of one column. -/
theorem shape_tests_of_bar :
    (setOf (bar.map Spot.toValue)).IsFigure (· ∈ bar) ∧ (∃ s, s ∈ bar) ∧ Distinct (· ∈ bar) ∧
    (setOf (bar.map Spot.toValue)).size = .ok 2 ∧ Patch.boxRest (setOf (bar.map Spot.toValue)) = .ok (.set []) ∧
    Patch.isVerticalLine (setOf (bar.map Spot.toValue)) = .ok true := by
  have apart : ∀ r ∈ bar, ∀ s ∈ bar, r.place = s.place → r = s := by simp [bar]
  have distinct : Distinct (· ∈ bar) := fun r s hr hs => apart r hr s hs
  have some : ∃ s, s ∈ bar := ⟨_, List.mem_cons_self⟩
  rcases isFigure_bar.isPatch with ⟨places, hplaces, located⟩
  rcases shape_tests_are_exact isFigure_bar some distinct with ⟨n, height, width, rest, places', -, vertical, -, hsize,
    hheight, hwidth, hrest, hplaces', -, full, -, -, hvertical, upright, -⟩
  obtain rfl : places = places' := Except.ok.inj (hplaces.symm.trans hplaces')
  obtain rfl := Except.ok.inj (hheight.symm.trans (isFigure_bar.height bounds_bar))
  obtain rfl := Except.ok.inj (hwidth.symm.trans (isFigure_bar.width bounds_bar))
  obtain rfl : n = 2 := by
    rw [isFigure_bar.isSetOf.size, isFigure_bar.length_eq distinct (Box.nodup_places _) fun _ =>
      Box.mem_places_iff.trans places_bar.symm] at hsize
    exact (Except.ok.inj hsize).symm
  obtain rfl := full.mp (by decide)
  obtain rfl := upright.mpr ⟨(0, 1), 2, located.of_iff fun _ => places_bar⟩
  exact ⟨isFigure_bar, some, distinct, hsize, hrest, hvertical⟩

end Value

end GridPuzzle
