import GridPuzzle.Proofs.Board
import GridPuzzle.Proofs.Location
import GridPuzzle.Proofs.RegionGrowth

/-!
# The objects of a board

`Grid.objects` returns one object for each class of connected cells. Which cells count and which of them
are linked depends on three flags: whether objects are of one color, whether they grow across corners, and
whether the background is left out.

* `Board.Eligible` and `Board.Link` say which cells count and which are linked; `Board.Connected` is the
  existence of a path of links.
* `Board.isSetOf_of_sweep`: the regions that a sweep of the board finds, in whatever order it visits the
  cells, make the set of the objects of all classes.
* `Board.exists_objects`: `Grid.objects` returns that set. Later modules use the objects of a board through
  this fact alone.
-/

namespace GridPuzzle

open Relation

namespace Board

variable (g : Board Int) (oneColor acrossCorners withoutBackground : Bool)

/-! ## Links between cells -/

/-- The cells that objects are made of: all, or those that have not the color of the background. -/
def Eligible (l : Location) : Prop :=
  g.Inside l ∧ (withoutBackground = true → g.cell l ≠ g.background)

/-- Two cells are linked: they are eligible neighbors, and of one color if objects are. -/
structure Link (k l : Location) : Prop where
  left : g.Eligible withoutBackground k
  right : g.Eligible withoutBackground l
  near : Location.IsNear acrossCorners k l
  same : oneColor = true → g.cell k = g.cell l

/-- There is a path of links from one cell to another. -/
def Connected : Location → Location → Prop :=
  ReflTransGen (g.Link oneColor acrossCorners withoutBackground)

variable {g oneColor acrossCorners withoutBackground} {k l : Location}

instance : Std.Symm (g.Link oneColor acrossCorners withoutBackground) where
  symm _ _ h := ⟨h.right, h.left, h.near.symm, fun one => (h.same one).symm⟩

theorem Connected.symm (h : g.Connected oneColor acrossCorners withoutBackground k l) :
    g.Connected oneColor acrossCorners withoutBackground l k :=
  ReflTransGen.stdSymm.symm k l h

theorem Connected.eligible (h : g.Connected oneColor acrossCorners withoutBackground k l)
    (hk : g.Eligible withoutBackground k) : g.Eligible withoutBackground l := by
  induction h with
  | refl => exact hk
  | tail _ step _ => exact step.right

theorem Connected.cell_eq (h : g.Connected oneColor acrossCorners withoutBackground k l)
    (one : oneColor = true) : g.cell k = g.cell l := by
  induction h with
  | refl => rfl
  | tail _ step ih => rw [ih, step.same one]

/-! ## The terrain of a board -/

variable (g oneColor acrossCorners withoutBackground)

/-- The color that cells of objects must not have; no cell has the color `null`. -/
def excluded : Value :=
  if withoutBackground then .int g.background else .null

/-- How objects grow on the board. -/
def terrain : Region.Terrain :=
  Grid.terrain (g.map Value.int).rows g.height g.width oneColor acrossCorners
    (g.excluded withoutBackground)

/-- Whether an object is started at a location. -/
def starts (l : Location) : Bool :=
  !Grid.colorAt (g.map Value.int).rows l == g.excluded withoutBackground

/-- The cell of the board at a location, as it stands in an object. -/
def cellValue (l : Location) : Value :=
  .pair (.int (g.cell l)) l.toValue

/-- The object of the cells of a region. -/
def regionObject (region : List Location) : Value :=
  .setOf (region.map g.cellValue)

/-- The set of the objects of some regions. -/
def regionObjects (regions : List (List Location)) : Value :=
  .setOf (regions.map g.regionObject)

/-- The value is the object of the cells at the locations with a property. -/
def IsObject (region : Location → Prop) (object : Value) : Prop :=
  object.IsSetOf fun v => ∃ l, region l ∧ v = g.cellValue l

variable {g oneColor acrossCorners withoutBackground}

theorem starts_iff (h : g.Inside l) :
    g.starts withoutBackground l = true ↔ g.Eligible withoutBackground l := by
  rw [starts, colorAt_grid h, excluded, Eligible]
  cases withoutBackground <;> simp [h]

theorem mem_near_iff :
    l ∈ (g.terrain oneColor acrossCorners withoutBackground).near k ↔
      Location.IsNear acrossCorners k l ∧ g.Inside l := by
  rw [Location.isNear_iff, ← isInside_iff]
  exact List.mem_filter

theorem joins_iff (hk : g.Inside k) (hl : g.Inside l) :
    (g.terrain oneColor acrossCorners withoutBackground).joins k l = true ↔
      if oneColor then g.cell k = g.cell l else g.Eligible withoutBackground l := by
  rw [← starts_iff hl]
  cases oneColor <;> simp [terrain, Grid.terrain, colorAt_grid hk, colorAt_grid hl, starts]

/-- Objects grow along the links between cells. -/
theorem fits_terrain : Region.Fits (g.terrain oneColor acrossCorners withoutBackground)
    (g.Eligible withoutBackground) (g.Link oneColor acrossCorners withoutBackground) where
  symm := inferInstance
  joins_self {s} hs := by
    rw [joins_iff hs.1 hs.1]
    cases oneColor <;> simp [hs]
  step_iff {s k l} hs hsk := by
    change g.Connected oneColor acrossCorners withoutBackground s k at hsk
    have hk := hsk.eligible hs
    rw [mem_near_iff]
    constructor
    · rintro ⟨⟨near, inside⟩, joins⟩
      rw [joins_iff hs.1 inside] at joins
      cases oneColor with
      | true =>
          -- All cells of the path have the color of the start, so `l` is eligible like `k`.
          have same : g.cell k = g.cell l := (hsk.cell_eq rfl).symm.trans joins
          exact ⟨hk, ⟨inside, fun without => same ▸ hk.2 without⟩, near, fun _ => same⟩
      | false => exact ⟨hk, joins, near, fun one => by cases one⟩
    · intro link
      refine ⟨⟨link.near, link.right.1⟩, ?_⟩
      rw [joins_iff hs.1 link.right.1]
      cases oneColor with
      | true => exact (hsk.cell_eq rfl).trans (link.same rfl)
      | false => exact link.right

/-! ## The objects that a sweep finds -/

theorem plain_cellValue (g : Board Int) (l : Location) : Value.Plain (g.cellValue l) :=
  .pair (.int _) (Location.plain_toValue l)

theorem cellValue_injective (h : g.cellValue k = g.cellValue l) : k = l := by
  simp only [cellValue, Value.pair, Value.tuple.injEq, List.cons.injEq] at h
  exact Location.toValue_injective h.2.1

theorem IsObject.cellValue_mem {region : Location → Prop} {object : Value}
    (h : g.IsObject region object) : g.cellValue l ∈ object ↔ region l := by
  rw [h.mem_iff]
  constructor
  · rintro ⟨k, hk, heq⟩
    rwa [cellValue_injective heq]
  · intro hl
    exact ⟨l, hl, rfl⟩

theorem IsObject.plain {region : Location → Prop} {object : Value}
    (h : g.IsObject region object) : Value.Plain object := by
  refine Value.IsSetOf.plain h ?_
  rintro v ⟨l, -, rfl⟩
  exact g.plain_cellValue l

theorem isObject_regionObject {region : List Location} {P : Location → Prop}
    (h : ∀ l, l ∈ region ↔ P l) : g.IsObject P (g.regionObject region) := by
  have plain : ∀ v ∈ region.map g.cellValue, Value.Plain v := by
    intro v hv
    obtain ⟨l, -, rfl⟩ := List.mem_map.mp hv
    exact g.plain_cellValue l
  refine (Value.isSetOf_setOf plain).congr fun v => ?_
  simp only [List.mem_map, h, eq_comm]

/-- Any cells of the board make an object. -/
theorem exists_isObject {P : Location → Prop} (h : ∀ l, P l → g.Inside l) :
    ∃ object, g.IsObject P object := by
  classical
  refine ⟨g.regionObject ((Location.all g.height g.width).filter P),
    isObject_regionObject fun l => ?_⟩
  rw [List.mem_filter, mem_all_iff, decide_eq_true_iff]
  exact ⟨And.right, fun hl => ⟨h l hl, hl⟩⟩

/-- The property of being the object of a class of connected cells. -/
def IsClassObject (g : Board Int) (oneColor acrossCorners withoutBackground : Bool)
    (object : Value) : Prop :=
  ∃ k, g.Eligible withoutBackground k ∧
    g.IsObject (g.Connected oneColor acrossCorners withoutBackground k) object

/-- What a sweep of the whole board finds are the objects of all classes, whatever the orders in which it
looks at the cells. -/
theorem isSetOf_of_sweep {order : List Location} {regions : List (List Location)}
    (horder : ∀ l, l ∈ order ↔ g.Inside l)
    (h : Region.Sweep (g.terrain oneColor acrossCorners withoutBackground)
      (g.starts withoutBackground) [] order regions) :
    (g.regionObjects regions).IsSetOf
      (g.IsClassObject oneColor acrossCorners withoutBackground) := by
  have closed : ∀ k ∈ ([] : List Location), ∀ l,
      g.Link oneColor acrossCorners withoutBackground k l → l ∈ ([] : List Location) := by simp
  have eligible : ∀ l ∈ order, g.starts withoutBackground l = true →
      g.Eligible withoutBackground l := fun l hl => (starts_iff ((horder l).mp hl)).mp
  have sound := h.sound fits_terrain closed eligible
  have complete := h.complete fits_terrain closed eligible
  have plain : ∀ o ∈ regions.map g.regionObject, Value.Plain o := by
    intro o ho
    obtain ⟨region, -, rfl⟩ := List.mem_map.mp ho
    exact (isObject_regionObject fun _ => Iff.rfl).plain
  refine (Value.isSetOf_setOf plain).congr fun o => ?_
  constructor
  · intro ho
    obtain ⟨region, hregion, rfl⟩ := List.mem_map.mp ho
    obtain ⟨k, hk, hmem⟩ := sound region hregion
    exact ⟨k, hk, isObject_regionObject hmem⟩
  · rintro ⟨k, hk, ho⟩
    obtain ⟨region, hregion, hmem⟩ := complete k ((horder k).mpr hk.1) ((starts_iff hk.1).mpr hk)
      List.not_mem_nil
    refine List.mem_map.mpr ⟨region, hregion, ?_⟩
    exact Value.IsSetOf.unique (isObject_regionObject hmem) ho

theorem card_all (g : Board Int) :
    (Location.all g.height g.width).toFinset.card < g.height * g.width + 1 := by
  refine Nat.lt_succ_of_le (le_trans (List.toFinset_card_le _) ?_)
  simp [Location.all, List.length_flatMap]

theorem mem_toFinset_all {l : Location} : l ∈ (Location.all g.height g.width).toFinset ↔ g.Inside l :=
  List.mem_toFinset.trans mem_all_iff

theorem near_mem_all (k l : Location) (h : l ∈ (g.terrain oneColor acrossCorners withoutBackground).near k) :
    l ∈ (Location.all g.height g.width).toFinset :=
  mem_toFinset_all.mpr (mem_near_iff.mp h).2

/-- `regionsFrom` makes a sweep of the board, in any order of its cells. -/
theorem sweep_board (g : Board Int) (oneColor acrossCorners withoutBackground : Bool)
    {order : List Location} (horder : ∀ l, l ∈ order ↔ g.Inside l) :
    Region.Sweep (g.terrain oneColor acrossCorners withoutBackground)
      (g.starts withoutBackground) [] order
      (Region.regionsFrom (g.terrain oneColor acrossCorners withoutBackground)
        (g.height * g.width + 1) (g.starts withoutBackground) [] order) :=
  Region.sweep_regionsFrom near_mem_all g.card_all _ _ fun l hl => mem_toFinset_all.mpr ((horder l).mp hl)

/-- The cells of a sweep's regions are cells of the board. -/
theorem inside_of_sweep {order : List Location} {regions : List (List Location)}
    (horder : ∀ l, l ∈ order ↔ g.Inside l)
    (h : Region.Sweep (g.terrain oneColor acrossCorners withoutBackground)
      (g.starts withoutBackground) [] order regions) :
    ∀ region ∈ regions, ∀ l ∈ region, g.Inside l := by
  intro region hregion l hl
  obtain ⟨k, hk, hmem⟩ := h.sound fits_terrain (by simp)
    (fun l hl => (starts_iff ((horder l).mp hl)).mp) region hregion
  exact (Connected.eligible ((hmem l).mp hl) hk).1

/-- `Grid.objects` returns the objects of the regions that a sweep of the board finds. -/
theorem exists_sweep_objects (g : Board Int) (oneColor acrossCorners withoutBackground : Bool) :
    ∃ regions, Region.Sweep (g.terrain oneColor acrossCorners withoutBackground)
        (g.starts withoutBackground) [] (Location.all g.height g.width) regions ∧
      Grid.objects g.grid (.bool oneColor) (.bool acrossCorners) (.bool withoutBackground) =
        .ok (g.regionObjects regions) := by
  have sweep := g.sweep_board oneColor acrossCorners withoutBackground fun l => mem_all_iff
  refine ⟨_, sweep, ?_⟩
  have cells : ∀ region ∈ Grid.regions (g.map Value.int).rows g.height g.width oneColor acrossCorners
      (g.excluded withoutBackground), (Value.setOf (region.map fun l =>
        .pair (Grid.colorAt (g.map Value.int).rows l) l.toValue)) = g.regionObject region := by
    intro region hregion
    have inside := inside_of_sweep (fun l => mem_all_iff) sweep region hregion
    rw [regionObject]
    congr 1
    refine List.map_congr_left fun l hl => ?_
    rw [cellValue, colorAt_grid (inside l hl)]
  change _ = Except.ok (Value.setOf ((Grid.regions (g.map Value.int).rows g.height g.width oneColor
    acrossCorners (g.excluded withoutBackground)).map g.regionObject))
  rw [← List.map_congr_left cells]
  cases withoutBackground with
  | false => simp [Grid.objects, Value.truthy, dimensions_grid, table_grid, excluded]
  | true => simp [Grid.objects, Value.truthy, mostColor_grid, dimensions_grid, table_grid, excluded]

/-- The objects of a board: one for each class of connected cells. -/
theorem exists_objects (g : Board Int) (oneColor acrossCorners withoutBackground : Bool) :
    ∃ found, Grid.objects g.grid (.bool oneColor) (.bool acrossCorners) (.bool withoutBackground) =
        .ok found ∧
      found.IsSetOf (g.IsClassObject oneColor acrossCorners withoutBackground) := by
  obtain ⟨regions, sweep, heq⟩ := g.exists_sweep_objects oneColor acrossCorners withoutBackground
  exact ⟨_, heq, isSetOf_of_sweep (fun l => mem_all_iff) sweep⟩

end Board

end GridPuzzle
