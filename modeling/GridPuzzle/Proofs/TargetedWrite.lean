import GridPuzzle.Proofs.ColorClass
import GridPuzzle.Proofs.PatchTranslation

/-!
# Writes that hit their targets

The operations that write into a grid visit the members of a set, and no order of the visits is promised. So
they are run here on sets whose members stand in any order (`Value.IsOrderingOf`). A board after a run of writes
is given by the spots that were to be written (`Board.Wrote`): spots beside the board are left out and do not
come back at its other end, and nothing but the places of the others changes. As this says all about the board,
two runs that are to write the same spots on the board give the same board (`Board.Wrote.unique`).
-/

namespace GridPuzzle

namespace Value

variable {u v w : Value} {S : Spot → Prop} {P Q : Location → Prop} {A B : Value → Prop}

/-! ## Orders of visits -/

/-- The first value is the second one, a set, with its members in the order of a traversal. -/
def IsOrderingOf (order set : Value) : Prop :=
  ∃ xs ys, order = .set xs ∧ set = .set ys ∧ xs.Perm ys

/-- The operation gives the result whatever the order is in which it visits the members of the set. -/
def InEveryOrder (set : Value) (op : Value → Outcome Value) (result : Value) : Prop :=
  ∀ order, order.IsOrderingOf set → op order = .ok result

theorem IsSetOf.isOrderingOf_self (h : v.IsSetOf A) : v.IsOrderingOf v :=
  ⟨_, _, h.eq_set, h.eq_set, .refl _⟩

/-- The spots of a patch, in the order in which they are visited. -/
theorem IsFigure.exists_visited (h : v.IsFigure S) (order : w.IsOrderingOf v) :
    ∃ spots : List Spot, w = .set (spots.map Spot.toValue) ∧ ∀ s, s ∈ spots ↔ S s := by
  obtain ⟨xs, ys, rfl, rfl, perm⟩ := order
  obtain ⟨spots, rfl, mem⟩ := exists_map_eq (fun _ _ => Spot.toValue_injective)
    fun x => perm.mem_iff.trans (h.isSetOf.mem_iff x)
  exact ⟨spots, rfl, mem⟩

/-- The locations of a set of locations, in the order in which they are visited. -/
theorem IsLocationSet.exists_visited (h : v.IsLocationSet P) (order : w.IsOrderingOf v) :
    ∃ ls : List Location, w = .set (ls.map Location.toValue) ∧ ∀ l, l ∈ ls ↔ P l := by
  obtain ⟨xs, ys, rfl, rfl, perm⟩ := order
  obtain ⟨ls, rfl, mem⟩ := exists_map_eq (fun _ _ => Location.toValue_injective)
    fun x => perm.mem_iff.trans (IsSetOf.mem_iff h x)
  exact ⟨ls, rfl, mem⟩

theorem locationItems_set (ls : List Location) :
    Patch.locationItems (.set (ls.map Location.toValue)) = .ok (ls.map Location.toValue) := by
  cases ls with
  | nil => simp [Patch.locationItems, Patch.locations, Value.size, Value.items]
  | cons l ls => rfl

/-! ## Sets made of sets -/

/-- The spots of one color at the locations with a property. -/
def Dyed (color : Value) (P : Location → Prop) (s : Spot) : Prop :=
  s.color = some color ∧ P s.place

theorem dyed_iff {c color : Value} {l : Location} : Dyed color P ⟨some c, l⟩ ↔ c = color ∧ P l := by
  rw [Dyed, Option.some.injEq]

theorem mem_map_dyed {ls : List Location} (mem : ∀ l, l ∈ ls ↔ P l) {color : Value} {s : Spot} :
    s ∈ ls.map (Spot.mk (some color)) ↔ Dyed color P s := by
  rw [List.mem_map]
  constructor
  · intro hs
    obtain ⟨l, hl, rfl⟩ := hs
    exact ⟨rfl, (mem l).mp hl⟩
  · intro hs
    obtain ⟨_, l⟩ := s
    obtain ⟨rfl, hl⟩ := hs
    exact ⟨l, (mem l).mpr hl, rfl⟩

theorem distinct_dyed (color : Value) (P : Location → Prop) : Distinct (Dyed color P) := by
  intro r s hr hs place
  obtain ⟨_, l⟩ := r
  obtain ⟨_, l'⟩ := s
  rw [Spot.mk.injEq]
  exact ⟨hr.1.trans hs.1.symm, place⟩

/-- The patch of one color at some locations; the color may be any value. -/
theorem IsLocationSet.exists_recolor (h : v.IsLocationSet P) (color : Value) :
    ∃ cells, Patch.recolor color v = .ok cells ∧ cells.IsFigure (Dyed color P) := by
  obtain ⟨ls, -, mem, items⟩ := h.isPatch.exists_locations
  have member (s : Spot) : s ∈ ls.map (Spot.mk (some color)) ↔ Dyed color P s := mem_map_dyed mem
  refine ⟨_, ?_, (isFigure_setOf ?_ ?_).congr member⟩
  · rw [Patch.recolor, items, Outcome.ok_bind, List.map_map, List.map_map]
    rfl
  · intro r hr s hs
    rw [((member r).mp hr).1, ((member s).mp hs).1]
  · intro r hr s hs _ place
    exact distinct_dyed color P r s ((member r).mp hr) ((member s).mp hs) place

theorem Increasing.filter {xs : List Value} (h : Increasing xs) (p : Value → Bool) : Increasing (xs.filter p) :=
  List.Pairwise.filter p h

theorem contains_iff_mem {xs : List Value} {x : Value} (plain : ∀ y ∈ xs, Plain y) (hx : Plain x) :
    xs.contains x = true ↔ x ∈ xs := by
  rw [List.contains_iff_exists_mem_beq]
  constructor
  · intro h
    obtain ⟨y, hy, same⟩ := h
    rwa [(beq_iff_eq_of_plain hx (plain y hy)).mp same]
  · intro h
    exact ⟨x, h, BEq.rfl⟩

/-- What two sets of plain values share is the set of their common members. -/
theorem IsSetOf.exists_common (hv : v.IsSetOf A) (hw : w.IsSetOf B) (plain : ∀ x, A x → Plain x)
    (plain' : ∀ x, B x → Plain x) : ∃ u, Value.common v w = .ok u ∧ u.IsSetOf fun x => A x ∧ B x := by
  obtain ⟨⟨xs, rfl, increasing⟩, memv⟩ := hv
  obtain ⟨⟨ys, rfl, increasing'⟩, memw⟩ := hw
  have plainx : ∀ x ∈ xs, Plain x := fun x hx => plain x ((memv x).mp hx)
  have plainy : ∀ y ∈ ys, Plain y := fun y hy => plain' y ((memw y).mp hy)
  refine ⟨_, rfl, ?_⟩
  split
  · refine ⟨⟨_, rfl, increasing.filter _⟩, fun x => ?_⟩
    rw [mem_set, List.mem_filter, and_congr_right fun hx => contains_iff_mem plainy (plainx x hx)]
    exact and_congr (memv x) (memw x)
  · refine ⟨⟨_, rfl, increasing'.filter _⟩, fun x => ?_⟩
    rw [mem_set, List.mem_filter, and_congr_right fun hx => contains_iff_mem plainx (plainy x hx), and_comm]
    exact and_congr (memv x) (memw x)

theorem IsLocationSet.exists_common (hv : v.IsLocationSet P) (hw : w.IsLocationSet Q) :
    ∃ u, Value.common v w = .ok u ∧ u.IsLocationSet fun l => P l ∧ Q l := by
  have plain (P : Location → Prop) : ∀ x, (∃ l, P l ∧ x = Location.toValue l) → Plain x := by
    intro x hx
    obtain ⟨l, -, rfl⟩ := hx
    exact l.plain_toValue
  obtain ⟨u, heq, hu⟩ := IsSetOf.exists_common hv hw (plain P) (plain Q)
  refine ⟨u, heq, hu.congr fun x => ?_⟩
  constructor
  · intro hx
    obtain ⟨⟨l, hl, rfl⟩, k, hk, same⟩ := hx
    exact ⟨l, ⟨hl, Location.toValue_injective same ▸ hk⟩, rfl⟩
  · intro hx
    obtain ⟨l, ⟨hl, hl'⟩, rfl⟩ := hx
    exact ⟨⟨l, hl, rfl⟩, l, hl', rfl⟩

/-- The spots of a patch that lie at locations with a property are a patch. -/
theorem IsFigure.exists_part (h : v.IsFigure S) (P : Location → Prop) :
    ∃ part, IsFigure part fun s => S s ∧ P s.place := by
  classical
  obtain ⟨spots, -, mem⟩ := h.exists_spots
  have member (s : Spot) : s ∈ spots.filter (fun s => P s.place) ↔ S s ∧ P s.place := by
    rw [List.mem_filter, mem, decide_eq_true_iff]
  refine ⟨_, (isFigure_setOf ?_ ?_).congr member⟩
  · intro r hr s hs
    exact h.uniform r s ((member r).mp hr).1 ((member s).mp hs).1
  · intro r hr s hs
    exact h.eq_of_beq ((member r).mp hr).1 ((member s).mp hs).1

end Value

open Value

namespace Board

variable {b out out' : Board Value} {S T : Spot → Prop} {P : Location → Prop}

/-! ## Boards with spots written -/

/-- The second board is the first one with some spots written: at the place of a spot it has the color of the
spot, and where there is no spot it has the old cell. What spots lie beside the board makes no difference. -/
structure Wrote (b : Board Value) (S : Spot → Prop) (out : Board Value) : Prop where
  height : out.height = b.height
  width : out.width = b.width
  written : ∀ c l, b.Inside l → S ⟨some c, l⟩ → out.cell l = c
  kept : ∀ l, b.Inside l → (∀ c, ¬ S ⟨some c, l⟩) → out.cell l = b.cell l

theorem Wrote.congr (h : b.Wrote S out) (same : ∀ c l, b.Inside l → (S ⟨some c, l⟩ ↔ T ⟨some c, l⟩)) :
    b.Wrote T out where
  height := h.height
  width := h.width
  written c l inside spot := h.written c l inside ((same c l inside).mpr spot)
  kept l inside none := h.kept l inside fun c spot => none c ((same c l inside).mp spot)

/-- What was to be written gives the board. -/
theorem Wrote.unique (h : b.Wrote S out) (h' : b.Wrote S out') : out = out' := by
  refine ext_cell (h.height.trans h'.height.symm) (h.width.trans h'.width.symm) fun l hl => ?_
  have inside : b.Inside l := by rwa [Inside, ← h.height, ← h.width]
  by_cases spot : ∃ c, S ⟨some c, l⟩
  · obtain ⟨c, spot⟩ := spot
    rw [h.written c l inside spot, h'.written c l inside spot]
  · have none : ∀ c, ¬ S ⟨some c, l⟩ := not_exists.mp spot
    rw [h.kept l inside none, h'.kept l inside none]

/-- An operation that writes the same spots in every order gives one board in every order. -/
theorem exists_inEveryOrder {set : Value} {op : Value → Outcome Value} (self : set.IsOrderingOf set)
    (h : ∀ order, order.IsOrderingOf set → ∃ out : Board Value, op order = .ok out.toValue ∧ b.Wrote S out) :
    ∃ out : Board Value, b.Wrote S out ∧ set.InEveryOrder op out.toValue := by
  obtain ⟨out, -, wrote⟩ := h set self
  refine ⟨out, wrote, fun order visits => ?_⟩
  obtain ⟨out', heq, wrote'⟩ := h order visits
  rw [heq, wrote'.unique wrote]

/-! ## Runs of writes -/

/-- The color of the first spot at a place. -/
def colorOn (spots : List Spot) (l : Location) : Value :=
  ((spots.find? fun s => s.place = l).bind Spot.color).getD .null

theorem colorOn_of_mem {spots : List Spot} (distinct : Distinct (· ∈ spots)) {c : Value} {l : Location}
    (h : ⟨some c, l⟩ ∈ spots) : colorOn spots l = c := by
  cases found : spots.find? fun s => s.place = l with
  | none => exact absurd (decide_eq_true rfl) (List.find?_eq_none.mp found _ h)
  | some r =>
      have place := List.find?_some found
      rw [decide_eq_true_iff] at place
      rw [colorOn, found, distinct r _ (List.mem_of_find?_eq_some found) h place]
      rfl

/-- A run of writes writes its spots where the color before the run may be written over, in whatever order they
come, if no two of them have one place. An item of the run is read as a spot. -/
theorem exists_writeCells (b : Board Value) (writable : Value → Bool)
    (read : Value → Outcome (Value × Value × Value)) (item : Spot → Value) (place : Value → Location)
    (spots : List Spot) (hplace : ∀ c l, place (item ⟨some c, l⟩) = l)
    (hread : ∀ c l, ⟨some c, l⟩ ∈ spots → read (item ⟨some c, l⟩) = .ok (c, .int l.1, .int l.2))
    (colored : ∀ s ∈ spots, ∃ c, s.color = some c) (distinct : Distinct (· ∈ spots)) :
    ∃ out, Grid.writeCells b.height b.width writable b.rows read (spots.map item) = .ok out.rows ∧
      b.Wrote (fun s => s ∈ spots ∧ writable (b.cell s.place) = true) out := by
  have reads : ∀ v ∈ spots.map item,
      read v = .ok (colorOn spots (place v), .int (place v).1, .int (place v).2) := by
    intro v hv
    obtain ⟨⟨color, l⟩, hs, rfl⟩ := List.mem_map.mp hv
    obtain ⟨c, rfl⟩ : ∃ c, color = some c := colored _ hs
    rw [hplace, hread c l hs, colorOn_of_mem distinct hs]
  have visited : ∀ l, l ∈ (spots.map item).map place ↔ ∃ c, ⟨some c, l⟩ ∈ spots := by
    intro l
    rw [List.map_map, List.mem_map]
    constructor
    · intro hl
      obtain ⟨⟨color, k⟩, hs, rfl⟩ := hl
      obtain ⟨c, rfl⟩ : ∃ c, color = some c := colored _ hs
      exact ⟨c, by rwa [Function.comp_apply, hplace]⟩
    · intro hl
      obtain ⟨c, hs⟩ := hl
      exact ⟨_, hs, hplace c l⟩
  refine ⟨_, writeCells_rows b writable place (colorOn spots) reads, height_redraw b _, rfl, ?_, ?_⟩
  · intro c l inside spot
    rw [cell_redraw inside, if_pos ⟨(visited l).mpr ⟨c, spot.1⟩, spot.2⟩, colorOn_of_mem distinct spot.1]
  · intro l inside none
    rw [cell_redraw inside, if_neg]
    rintro ⟨hl, allowed⟩
    obtain ⟨c, hs⟩ := (visited l).mp hl
    exact none c ⟨hs, allowed⟩

/-- A run of writes over the cells of an object. -/
theorem exists_write_object (b : Board Value) (writable : Value → Bool) {o order : Value} (h : o.IsFigure S)
    (colored : ∀ s, S s → ∃ c, s.color = some c) (distinct : Distinct S) (visits : order.IsOrderingOf o) :
    ∃ items out, order.items = .ok items ∧
      Grid.writeCells b.height b.width writable b.rows Value.cellParts items = .ok out.rows ∧
      b.Wrote (fun s => S s ∧ writable (b.cell s.place) = true) out := by
  obtain ⟨spots, rfl, mem⟩ := h.exists_visited visits
  obtain ⟨out, heq, wrote⟩ := b.exists_writeCells writable Value.cellParts Spot.toValue
    (fun v => v.placeOf.toLocation) spots (fun _ _ => rfl) (fun _ _ _ => rfl) (fun s hs => colored s ((mem s).mp hs))
    fun r s hr hs => distinct r s ((mem r).mp hr) ((mem s).mp hs)
  exact ⟨_, out, rfl, heq, wrote.congr fun _ _ _ => and_congr_left' (mem _)⟩

/-- A run of writes of one color over some locations. -/
theorem exists_write_locations (b : Board Value) (writable : Value → Bool) (color : Value) {p order : Value}
    (h : p.IsLocationSet P) (visits : order.IsOrderingOf p) :
    ∃ items out, Patch.locationItems order = .ok items ∧
      Grid.writeCells b.height b.width writable b.rows (Grid.cellOf color) items = .ok out.rows ∧
      b.Wrote (fun s => Dyed color P s ∧ writable (b.cell s.place) = true) out := by
  obtain ⟨ls, rfl, mem⟩ := h.exists_visited visits
  have member (s : Spot) : s ∈ ls.map (Spot.mk (some color)) ↔ Dyed color P s := mem_map_dyed mem
  obtain ⟨out, heq, wrote⟩ := b.exists_writeCells writable (Grid.cellOf color)
    (fun s => s.place.toValue) Value.toLocation (ls.map (Spot.mk (some color))) (fun _ _ => rfl)
    (fun c l hs => by
      obtain rfl : c = color := (dyed_iff.mp ((member _).mp hs)).1
      rfl)
    (fun s hs => ⟨color, ((member s).mp hs).1⟩)
    fun r s hr hs => distinct_dyed color P r s ((member r).mp hr) ((member s).mp hs)
  rw [List.map_map] at heq
  exact ⟨_, out, locationItems_set ls, heq, wrote.congr fun _ _ _ => and_congr_left' (member _)⟩

/-! ## Fills and paintings -/

section

variable {g : Board Int} {p o : Value}

theorem eq_background_iff {l : Location} (inside : g.Inside l) :
    ((g.map Value.int).cell l == .int g.background) = true ↔ g.HasColor g.background l := by
  rw [cell_map inside, Value.int_beq_int, decide_eq_true_iff]
  exact ⟨fun same => ⟨inside, same⟩, And.right⟩

section

variable (g) (hp : p.IsLocationSet P) (color : Value)
include hp

/-- A fill of a board with any values as colors. -/
theorem exists_fill_toValue (b : Board Value) : ∃ out : Board Value, b.Wrote (Dyed color P) out ∧
    p.InEveryOrder (Grid.fill b.toValue color) out.toValue := by
  refine exists_inEveryOrder (IsSetOf.isOrderingOf_self hp) fun order visits => ?_
  obtain ⟨items, out, hitems, heq, wrote⟩ := b.exists_write_locations (fun _ => true) color hp visits
  refine ⟨out, ?_, wrote.congr fun _ _ _ => and_iff_left rfl⟩
  simp only [Grid.fill, dimensions_toValue, rows_toValue, hitems, heq, Outcome.ok_bind]
  rfl

theorem exists_fill : ∃ out : Board Value, (g.map .int).Wrote (Dyed color P) out ∧
    p.InEveryOrder (Grid.fill g.grid color) out.toValue :=
  exists_fill_toValue hp color (g.map .int)

theorem exists_fillUnder : ∃ out : Board Value,
    (g.map .int).Wrote (Dyed color fun l => P l ∧ g.HasColor g.background l) out ∧
      p.InEveryOrder (Grid.fillUnder g.grid color) out.toValue := by
  refine exists_inEveryOrder (IsSetOf.isOrderingOf_self hp) fun order visits => ?_
  obtain ⟨items, out, hitems, heq, wrote⟩ :=
    (g.map .int).exists_write_locations (· == .int g.background) color hp visits
  refine ⟨out, ?_, wrote.congr fun c l inside => ?_⟩
  · rw [height_map, width_map] at heq
    simp [Grid.fillUnder, dimensions_grid, mostColor_grid, rows_grid, hitems, heq, toValue]
  · rw [eq_background_iff (inside_map.mp inside), dyed_iff, dyed_iff, and_assoc]

end

section

variable (g) (ho : o.IsFigure S) (colored : ∀ s, S s → ∃ c, s.color = some c) (distinct : Distinct S)
include ho colored distinct

/-- A painting on a board with any values as colors. -/
theorem exists_paint_toValue (b : Board Value) : ∃ out : Board Value, b.Wrote S out ∧
    o.InEveryOrder (Grid.paint b.toValue) out.toValue := by
  refine exists_inEveryOrder ho.isSetOf.isOrderingOf_self fun order visits => ?_
  obtain ⟨items, out, hitems, heq, wrote⟩ := b.exists_write_object (fun _ => true) ho colored distinct visits
  refine ⟨out, ?_, wrote.congr fun _ _ _ => and_iff_left rfl⟩
  simp only [Grid.paint, dimensions_toValue, rows_toValue, hitems, heq, Outcome.ok_bind]
  rfl

theorem exists_paint_object : ∃ out : Board Value, (g.map .int).Wrote S out ∧
    o.InEveryOrder (Grid.paint g.grid) out.toValue :=
  exists_paint_toValue ho colored distinct (g.map .int)

theorem exists_paintUnder : ∃ out : Board Value,
    (g.map .int).Wrote (fun s => S s ∧ g.HasColor g.background s.place) out ∧
      o.InEveryOrder (Grid.paintUnder g.grid) out.toValue := by
  refine exists_inEveryOrder ho.isSetOf.isOrderingOf_self fun order visits => ?_
  obtain ⟨items, out, hitems, heq, wrote⟩ :=
    (g.map .int).exists_write_object (· == .int g.background) ho colored distinct visits
  refine ⟨out, ?_, wrote.congr fun c l inside => ?_⟩
  · rw [height_map, width_map] at heq
    simp [Grid.paintUnder, dimensions_grid, mostColor_grid, rows_grid, hitems, heq, toValue]
  · rw [eq_background_iff (inside_map.mp inside)]

end

/-- **Writes hit their targets and nothing else.** Take any value as a color, any set of locations and any
object without two cells at one location; both may lie beside the board. A filled board has the color at the
locations of the set, a painted board has the cells of the object, and both have the old cells elsewhere. Filling
the set is painting it in its color. With the background alone to be written over, filling the set is filling
what it shares with the locations of the background, and painting the object is painting that part of it which
lies there. All this holds in whatever orders the sets are visited. -/
theorem writes_hit_exactly_their_targets (g : Board Int) (color : Value) (hp : p.IsLocationSet P)
    (ho : o.IsFigure S) (colored : ∀ s, S s → ∃ c, s.color = some c) (distinct : Distinct S) :
    ∃ (filled painted filledUnder paintedUnder : Board Value) (cells places shared part : Value),
      (filled.height = g.height ∧ filled.width = g.width ∧ ∀ l, g.Inside l →
        (P l → filled.cell l = color) ∧ (¬ P l → filled.cell l = .int (g.cell l))) ∧
      (painted.height = g.height ∧ painted.width = g.width ∧ ∀ l, g.Inside l →
        (∀ c, S ⟨some c, l⟩ → painted.cell l = c) ∧
          ((∀ c, ¬ S ⟨some c, l⟩) → painted.cell l = .int (g.cell l))) ∧
      p.InEveryOrder (Grid.fill g.grid color) filled.toValue ∧
      o.InEveryOrder (Grid.paint g.grid) painted.toValue ∧
      Patch.recolor color p = .ok cells ∧ cells.InEveryOrder (Grid.paint g.grid) filled.toValue ∧
      Grid.mostColor g.grid = .ok (.int g.background) ∧
      Grid.locationsOf g.grid (.int g.background) = .ok places ∧ Value.common p places = .ok shared ∧
      p.InEveryOrder (Grid.fillUnder g.grid color) filledUnder.toValue ∧
      shared.InEveryOrder (Grid.fill g.grid color) filledUnder.toValue ∧
      part.IsFigure (fun s => S s ∧ g.HasColor g.background s.place) ∧
      o.InEveryOrder (Grid.paintUnder g.grid) paintedUnder.toValue ∧
      part.InEveryOrder (Grid.paint g.grid) paintedUnder.toValue := by
  obtain ⟨cells, hcells, figure⟩ := hp.exists_recolor color
  obtain ⟨places, hplaces, locations⟩ := g.exists_locationsOf g.background
  obtain ⟨shared, hshared, both⟩ := hp.exists_common locations
  obtain ⟨part, figure'⟩ := ho.exists_part (g.HasColor g.background)
  obtain ⟨filled, wrote, fills⟩ := g.exists_fill hp color
  obtain ⟨painted, wrote', paints⟩ := g.exists_paint_object ho colored distinct
  obtain ⟨filledUnder, under, fillsUnder⟩ := g.exists_fillUnder hp color
  obtain ⟨paintedUnder, under', paintsUnder⟩ := g.exists_paintUnder ho colored distinct
  obtain ⟨again, wroteAgain, paintsCells⟩ := g.exists_paint_object figure (fun s hs => ⟨color, hs.1⟩)
    (distinct_dyed color P)
  obtain ⟨again', wroteAgain', fillsShared⟩ := g.exists_fill both color
  obtain ⟨again'', wroteAgain'', paintsPart⟩ := g.exists_paint_object figure' (fun s hs => colored s hs.1)
    fun r s hr hs => distinct r s hr.1 hs.1
  rw [wroteAgain.unique wrote] at paintsCells
  rw [wroteAgain'.unique under] at fillsShared
  rw [wroteAgain''.unique under'] at paintsPart
  refine ⟨filled, painted, filledUnder, paintedUnder, cells, places, shared, part,
    ⟨wrote.height.trans (height_map ..), wrote.width, fun l inside => ⟨fun hl => ?_, fun hl => ?_⟩⟩,
    ⟨wrote'.height.trans (height_map ..), wrote'.width, fun l inside => ⟨fun c spot => ?_, fun none => ?_⟩⟩,
    fills, paints, hcells, paintsCells, g.mostColor_grid, hplaces, hshared, fillsUnder, fillsShared, figure',
    paintsUnder, paintsPart⟩
  · exact wrote.written color l (inside_map.mpr inside) ⟨rfl, hl⟩
  · rw [wrote.kept l (inside_map.mpr inside) fun c spot => hl spot.2, cell_map inside]
  · exact wrote'.written c l (inside_map.mpr inside) spot
  · rw [wrote'.kept l (inside_map.mpr inside) none, cell_map inside]

end

/-- A board of two rows. -/
def strip : Board Int where
  rows := [[0, 0, 0, 0, 0, 0, 4], [0, 2, 0, 0, 0, 0, 0]]
  width := 7
  rows_ne_nil := List.cons_ne_nil _ _
  width_pos := by decide
  length_row := by decide

/-- Locations of which the second one lies on the strip, the first one up and left of it. -/
def strayPlaces : List Location :=
  [(-1, -1), (0, 0), (2, 3)]

/-- Spots of which the first one lies on the strip, and the second one above it. -/
def straySpots : List Spot :=
  [⟨some (.int 5), (1, 1)⟩, ⟨some (.int 6), (-1, 2)⟩]

/-- What lies above the strip or to the left of it is not written at its other end. -/
theorem writes_on_and_beside_strip :
    (setOf (strayPlaces.map Location.toValue)).IsLocationSet (· ∈ strayPlaces) ∧
    (setOf (straySpots.map Spot.toValue)).IsFigure (· ∈ straySpots) ∧
    (∀ s ∈ straySpots, ∃ c, s.color = some c) ∧ Distinct (· ∈ straySpots) ∧
    ∃ filled painted : Board Value,
      Grid.fill strip.grid .null (setOf (strayPlaces.map Location.toValue)) = .ok filled.toValue ∧
      filled.cell (0, 0) = .null ∧ filled.cell (1, 6) = .int 0 ∧
      Grid.paint strip.grid (setOf (straySpots.map Spot.toValue)) = .ok painted.toValue ∧
      painted.cell (1, 1) = .int 5 ∧ painted.cell (1, 2) = .int 0 := by
  have locations : (setOf (strayPlaces.map Location.toValue)).IsLocationSet (· ∈ strayPlaces) :=
    isLocationSet_setOf fun _ => Iff.rfl
  have figure : (setOf (straySpots.map Spot.toValue)).IsFigure (· ∈ straySpots) := by
    refine isFigure_setOf ?_ ?_ <;> simp [straySpots]
  have colored : ∀ s ∈ straySpots, ∃ c, s.color = some c := by simp [straySpots]
  have apart : ∀ r ∈ straySpots, ∀ s ∈ straySpots, r.place = s.place → r = s := by simp [straySpots]
  have distinct : Distinct (· ∈ straySpots) := fun r s hr hs => apart r hr s hs
  refine ⟨locations, figure, colored, distinct, ?_⟩
  obtain ⟨filled, painted, -, -, -, -, -, -, ⟨-, -, inFill⟩, ⟨-, -, inPainting⟩, fills, paints, -⟩ :=
    writes_hit_exactly_their_targets strip .null locations figure colored distinct
  refine ⟨filled, painted, fills _ (IsSetOf.isOrderingOf_self locations), ?_, ?_,
    paints _ figure.isSetOf.isOrderingOf_self, ?_, ?_⟩
  · exact (inFill (0, 0) (by decide)).1 (by decide)
  · exact (inFill (1, 6) (by decide)).2 (by decide)
  · exact (inPainting (1, 1) (by decide)).1 _ (by simp [straySpots])
  · exact (inPainting (1, 2) (by decide)).2 (by simp [straySpots])

end Board

end GridPuzzle
