import GridPuzzle.Proofs.ObjectRegions
import Mathlib.Combinatorics.SimpleGraph.Connectivity.Connected

/-!
# Objects as connected components

The eligible cells of a board and the links between them are a graph (`Board.graph`), and a class of
connected cells is a connected component of it (`Board.isClassObject_iff`). So the objects of a board are
the components of its graph, and stand to each other as components do: they are not empty, no two of them
share a cell, none can be enlarged, and together they cover the eligible cells.
-/

namespace GridPuzzle

open Relation

namespace Board

variable {g : Board Int} {oneColor acrossCorners withoutBackground : Bool}

/-! ## The graph of a board -/

/-- The graph of the eligible cells: neighbors are joined, and only those of one color if objects are of
one color. -/
def graph (g : Board Int) (oneColor acrossCorners withoutBackground : Bool) :
    SimpleGraph {l : Location // g.Eligible withoutBackground l} where
  Adj k l := Location.IsNear acrossCorners k.1 l.1 ∧ (oneColor = true → g.cell k.1 = g.cell l.1)
  symm := ⟨fun _ _ h => ⟨h.1.symm, fun one => (h.2 one).symm⟩⟩
  loopless := ⟨fun k h => Location.not_isNear_self acrossCorners k.1 h.1⟩

/-- The locations of the cells of a component. -/
def componentCells (K : (g.graph oneColor acrossCorners withoutBackground).ConnectedComponent)
    (l : Location) : Prop :=
  ∃ h : g.Eligible withoutBackground l, ⟨l, h⟩ ∈ K.supp

theorem link_of_adj {k l : {l : Location // g.Eligible withoutBackground l}}
    (h : (g.graph oneColor acrossCorners withoutBackground).Adj k l) :
    g.Link oneColor acrossCorners withoutBackground k.1 l.1 :=
  ⟨k.2, l.2, h.1, h.2⟩

theorem reachable_iff_connected {k l : {l : Location // g.Eligible withoutBackground l}} :
    (g.graph oneColor acrossCorners withoutBackground).Reachable k l ↔
      g.Connected oneColor acrossCorners withoutBackground k.1 l.1 := by
  rw [SimpleGraph.reachable_iff_reflTransGen]
  constructor
  · intro h
    induction h with
    | refl => exact .refl
    | tail _ adj ih => exact ih.tail (link_of_adj adj)
  · -- Every cell of a path of links is eligible, so the path is one in the graph.
    obtain ⟨k, hk⟩ := k
    obtain ⟨l, hl⟩ := l
    intro h
    change g.Connected oneColor acrossCorners withoutBackground k l at h
    induction h with
    | refl => exact .refl
    | tail _ link ih => exact (ih link.left).tail ⟨link.near, link.same⟩

theorem componentCells_mk {k l : Location} (hk : g.Eligible withoutBackground k) :
    componentCells ((g.graph oneColor acrossCorners withoutBackground).connectedComponentMk ⟨k, hk⟩) l
      ↔ g.Connected oneColor acrossCorners withoutBackground k l := by
  simp only [componentCells, SimpleGraph.ConnectedComponent.mem_supp_iff,
    SimpleGraph.ConnectedComponent.eq, reachable_iff_connected]
  constructor
  · rintro ⟨-, h⟩
    exact h.symm
  · intro h
    exact ⟨h.eligible hk, h.symm⟩

/-- The object of a class of connected cells is the object of a component. -/
theorem isClassObject_iff {object : Value} :
    g.IsClassObject oneColor acrossCorners withoutBackground object ↔
      ∃ K : (g.graph oneColor acrossCorners withoutBackground).ConnectedComponent,
        g.IsObject (componentCells K) object := by
  simp only [SimpleGraph.ConnectedComponent.exists, Subtype.exists, IsClassObject]
  refine exists_congr fun k => ?_
  constructor
  · rintro ⟨hk, h⟩
    exact ⟨hk, h.congr fun v => by simp only [componentCells_mk]⟩
  · rintro ⟨hk, h⟩
    exact ⟨hk, h.congr fun v => by simp only [componentCells_mk]⟩

/-! ## The objects among each other -/

section

variable {found o o' v : Value}
  (hfound : found.IsSetOf (g.IsClassObject oneColor acrossCorners withoutBackground))

include hfound

theorem nonempty_of_mem_objects (ho : o ∈ found) : ∃ v, v ∈ o := by
  obtain ⟨k, -, hobject⟩ := (hfound.mem_iff o).mp ho
  exact ⟨g.cellValue k, hobject.cellValue_mem.mpr .refl⟩

/-- Two objects that share a cell are the same object. -/
theorem eq_of_mem_objects (ho : o ∈ found) (ho' : o' ∈ found) (hv : v ∈ o) (hv' : v ∈ o') :
    o = o' := by
  obtain ⟨k, -, hobject⟩ := (hfound.mem_iff o).mp ho
  obtain ⟨k', -, hobject'⟩ := (hfound.mem_iff o').mp ho'
  obtain ⟨l, hkl, rfl⟩ := (hobject.mem_iff v).mp hv
  have hkl' : g.Connected oneColor acrossCorners withoutBackground k' l :=
    hobject'.cellValue_mem.mp hv'
  -- The cell connects the two starts, so both classes have the same cells.
  have hkk' : g.Connected oneColor acrossCorners withoutBackground k k' := hkl.trans hkl'.symm
  refine hobject.unique (hobject'.congr fun w => exists_congr fun m => and_congr_left' ?_)
  exact ⟨hkk'.trans, hkk'.symm.trans⟩

/-- A cell that is linked to a cell of an object belongs to it. -/
theorem cellValue_mem_of_link {k l : Location} (ho : o ∈ found) (hk : g.cellValue k ∈ o)
    (link : g.Link oneColor acrossCorners withoutBackground k l) : g.cellValue l ∈ o := by
  obtain ⟨m, -, hobject⟩ := (hfound.mem_iff o).mp ho
  exact hobject.cellValue_mem.mpr ((hobject.cellValue_mem.mp hk).tail link)

theorem exists_object_iff {l : Location} :
    (∃ o ∈ found, g.cellValue l ∈ o) ↔ g.Eligible withoutBackground l := by
  constructor
  · rintro ⟨o, ho, hl⟩
    obtain ⟨k, hk, hobject⟩ := (hfound.mem_iff o).mp ho
    exact Connected.eligible (hobject.cellValue_mem.mp hl) hk
  · intro hl
    obtain ⟨o, hobject⟩ := exists_isObject
      (P := g.Connected oneColor acrossCorners withoutBackground l) fun m hm => (hm.eligible hl).1
    exact ⟨o, (hfound.mem_iff o).mpr ⟨l, hl, hobject⟩, hobject.cellValue_mem.mpr .refl⟩

end

/-- **The objects of a board are the connected components of its eligible cells.** No object is empty, no
two objects share a cell, a cell that is linked to an object belongs to it, and the cells of all objects
are the eligible ones. Whatever the order in which the cells are visited, and the orders in which the
pending cells are looked at, the objects that are found are these. -/
theorem objects_are_components (g : Board Int) (oneColor acrossCorners withoutBackground : Bool) :
    Grid.mostColor g.grid = .ok (.int g.background) ∧
    ∃ found, Grid.objects g.grid (.bool oneColor) (.bool acrossCorners) (.bool withoutBackground) =
        .ok found ∧
      found.IsSetOf (fun object =>
        ∃ K : (g.graph oneColor acrossCorners withoutBackground).ConnectedComponent,
          g.IsObject (componentCells K) object) ∧
      (∀ o ∈ found, ∃ v, v ∈ o) ∧
      (∀ o ∈ found, ∀ o' ∈ found, o ≠ o' → ∀ v, v ∈ o → v ∉ o') ∧
      (∀ o ∈ found, ∀ k l, g.cellValue k.1 ∈ o →
        (g.graph oneColor acrossCorners withoutBackground).Adj k l → g.cellValue l.1 ∈ o) ∧
      (∀ l, (∃ o ∈ found, g.cellValue l ∈ o) ↔ g.Eligible withoutBackground l) ∧
      ∀ order, order.Perm (Location.all g.height g.width) →
        Region.Sweep (g.terrain oneColor acrossCorners withoutBackground)
          (g.starts withoutBackground) [] order
          (Region.regionsFrom (g.terrain oneColor acrossCorners withoutBackground)
            (g.height * g.width + 1) (g.starts withoutBackground) [] order) ∧
        ∀ regions, Region.Sweep (g.terrain oneColor acrossCorners withoutBackground)
          (g.starts withoutBackground) [] order regions → g.regionObjects regions = found := by
  obtain ⟨found, heq, hfound⟩ := g.exists_objects oneColor acrossCorners withoutBackground
  refine ⟨g.mostColor_grid, found, heq, hfound.congr fun o => isClassObject_iff, ?_, ?_, ?_, ?_, ?_⟩
  · intro o ho
    exact nonempty_of_mem_objects hfound ho
  · intro o ho o' ho' hne v hv hv'
    exact hne (eq_of_mem_objects hfound ho ho' hv hv')
  · intro o ho k l hk adj
    exact cellValue_mem_of_link hfound ho hk (link_of_adj adj)
  · intro l
    exact exists_object_iff hfound
  · intro order perm
    have horder : ∀ l, l ∈ order ↔ g.Inside l := fun l => perm.mem_iff.trans mem_all_iff
    refine ⟨g.sweep_board oneColor acrossCorners withoutBackground horder, ?_⟩
    intro regions sweep
    exact (isSetOf_of_sweep horder sweep).unique hfound

end Board

end GridPuzzle
