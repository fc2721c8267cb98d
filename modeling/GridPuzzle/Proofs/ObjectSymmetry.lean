import GridPuzzle.Proofs.ObjectRegions
import GridPuzzle.Proofs.PatchSet
import GridPuzzle.Proofs.Symmetry

/-!
# The objects of turned and recolored boards

Two boards are alike if a map of locations and a map of colors carry the one to the other and respect
neighborhood and equality of colors (`Board.Alike`). A turned board and a recolored board are both like the
board that they come from.

Alike boards have the same numbers of cells of each color, so that a background which is the only most
frequent color is carried along (`Alike.background_eq`); then links and paths are (`Alike.connected_iff`), and
so are the objects (`Alike.objects_eq`).
-/

namespace GridPuzzle

/-! ## Images of objects -/

namespace Value

/-- The set of the items of a value, each changed by a function. -/
def mapItems (f : Value → Value) (v : Value) : Value :=
  .setOf (v.itemList.map f)

/-- A cell with another color and at another place. -/
def mapCell (color : Int → Int) (place : Location → Location) : Value → Value
  | .tuple [.int c, .tuple [.int i, .int j]] => .pair (.int (color c)) (place (i, j)).toValue
  | v => v

/-- A set of objects, each cell of them with another color and at another place. -/
def mapObjects (color : Int → Int) (place : Location → Location) (objects : Value) : Value :=
  objects.mapItems (mapItems (mapCell color place))

theorem IsSetOf.mapItems {f : Value → Value} {v : Value} {P : Value → Prop} (h : v.IsSetOf P)
    (plain : ∀ x, P x → Plain (f x)) : (v.mapItems f).IsSetOf fun y => ∃ x, P x ∧ f x = y := by
  have plain' : ∀ y ∈ v.itemList.map f, Plain y := by
    intro y hy
    obtain ⟨x, hx, rfl⟩ := List.mem_map.mp hy
    exact plain x ((h.mem_itemList x).mp hx)
  refine (isSetOf_setOf plain').congr fun y => ?_
  simp only [List.mem_map, h.mem_itemList]

end Value

/-! ## The cells of a board in a list -/

theorem Location.nodup_all (height width : Nat) : (Location.all height width).Nodup := by
  refine List.nodup_flatMap.mpr ⟨fun i _ => ?_, ?_⟩
  · refine List.nodup_range.map fun j j' heq => ?_
    simpa using heq
  · refine List.nodup_range.imp fun {i i'} ne => ?_
    rintro l hl hl'
    obtain ⟨j, -, rfl⟩ := List.mem_map.mp hl
    obtain ⟨j', -, heq⟩ := List.mem_map.mp hl'
    simp only [Prod.mk.injEq, Int.natCast_inj] at heq
    exact ne heq.1.symm

namespace Board

/-- One color has more cells than any other. -/
def HasMainColor (g : Board Int) : Prop :=
  ∃ c, ∀ d, d ≠ c → g.rows.flatten.count d < g.rows.flatten.count c

/-! ## Alike boards -/

/-- A map of locations and a map of colors carry one board to another, neighbors to neighbors and different
colors to different ones. -/
structure Alike (g g' : Board Int) (color : Int → Int) (place : Location → Location) : Prop where
  inside : ∀ {l}, g.Inside l → g'.Inside (place l)
  exists_place : ∀ {l}, g'.Inside l → ∃ k, g.Inside k ∧ place k = l
  cell : ∀ {l}, g.Inside l → g'.cell (place l) = color (g.cell l)
  near : ∀ {acrossCorners k l},
    Location.IsNear acrossCorners (place k) (place l) ↔ Location.IsNear acrossCorners k l
  place_injective : Function.Injective place
  color_injOn : Set.InjOn color {c | c ∈ g.rows.flatten}

variable {g g' : Board Int} {color : Int → Int} {place : Location → Location}

/-- The colors of the one board, renamed, are those of the other in some order. -/
theorem Alike.perm_colors (h : g.Alike g' color place) :
    g'.rows.flatten.Perm (g.rows.flatten.map color) := by
  have perm : (Location.all g'.height g'.width).Perm ((Location.all g.height g.width).map place) := by
    refine (List.perm_ext_iff_of_nodup (Location.nodup_all _ _)
      ((Location.nodup_all _ _).map h.place_injective)).mpr fun l => ?_
    rw [mem_all_iff, List.mem_map]
    constructor
    · intro hl
      obtain ⟨k, hk, rfl⟩ := h.exists_place hl
      exact ⟨k, mem_all_iff.mpr hk, rfl⟩
    · rintro ⟨k, hk, rfl⟩
      exact h.inside (mem_all_iff.mp hk)
  have cells : (Location.all g.height g.width).map (g'.cell ∘ place) =
      (Location.all g.height g.width).map (color ∘ g.cell) :=
    List.map_congr_left fun l hl => h.cell (mem_all_iff.mp hl)
  rw [flatten_rows, flatten_rows, List.map_map, ← cells, ← List.map_map]
  exact perm.map g'.cell

theorem Alike.count_color (h : g.Alike g' color place) {c : Int} (hc : c ∈ g.rows.flatten) :
    g'.rows.flatten.count (color c) = g.rows.flatten.count c := by
  rw [h.perm_colors.count_eq, List.count, List.countP_map, List.count]
  refine List.countP_congr fun d hd => ?_
  rw [Function.comp_apply, beq_iff_eq, beq_iff_eq]
  exact ⟨fun heq => h.color_injOn hd hc heq, congrArg color⟩

/-- A background that is the only most frequent color is carried to the background. -/
theorem Alike.background_eq (h : g.Alike g' color place) (main : g.HasMainColor) :
    g'.background = color g.background := by
  obtain ⟨c, hc⟩ := main
  -- Only the main color has at least as many cells as every color.
  have unique : ∀ e, (∀ d ∈ g.rows.flatten, g.rows.flatten.count d ≤ g.rows.flatten.count e) → e = c := by
    intro e he
    by_contra ne
    have less := hc e ne
    have mem : c ∈ g.rows.flatten := List.count_pos_iff.mp (Nat.zero_lt_of_lt less)
    exact absurd (he c mem) (Nat.not_le_of_lt less)
  obtain ⟨mem, greatest⟩ := g.background_greatest
  obtain ⟨mem', greatest'⟩ := g'.background_greatest
  obtain ⟨e, he, heq⟩ := List.mem_map.mp (h.perm_colors.mem_iff.mp mem')
  have greatest_e : ∀ d ∈ g.rows.flatten, g.rows.flatten.count d ≤ g.rows.flatten.count e := by
    intro d hd
    have hd' := h.perm_colors.mem_iff.mpr (List.mem_map_of_mem (f := color) hd)
    rw [← h.count_color hd, ← h.count_color he, heq]
    exact greatest' _ hd'
  rw [← heq, unique e greatest_e, unique _ greatest]

section

variable {oneColor acrossCorners withoutBackground : Bool} {k l : Location}
  (h : g.Alike g' color place) (main : withoutBackground = true → g.HasMainColor)
include h main

theorem Alike.eligible_iff (hl : g.Inside l) :
    g'.Eligible withoutBackground (place l) ↔ g.Eligible withoutBackground l := by
  refine and_congr (iff_of_true (h.inside hl) hl) (forall_congr' fun without => not_congr ?_)
  rw [h.cell hl, h.background_eq (main without)]
  exact ⟨fun heq => h.color_injOn (cell_mem_flatten hl) g.background_greatest.1 heq, congrArg color⟩

theorem Alike.link_iff (hk : g.Inside k) (hl : g.Inside l) :
    g'.Link oneColor acrossCorners withoutBackground (place k) (place l) ↔
      g.Link oneColor acrossCorners withoutBackground k l := by
  have same : g'.cell (place k) = g'.cell (place l) ↔ g.cell k = g.cell l := by
    rw [h.cell hk, h.cell hl]
    exact ⟨fun heq => h.color_injOn (cell_mem_flatten hk) (cell_mem_flatten hl) heq, congrArg color⟩
  constructor
  · intro link
    exact ⟨(h.eligible_iff main hk).mp link.left, (h.eligible_iff main hl).mp link.right,
      h.near.mp link.near, fun one => same.mp (link.same one)⟩
  · intro link
    exact ⟨(h.eligible_iff main hk).mpr link.left, (h.eligible_iff main hl).mpr link.right,
      h.near.mpr link.near, fun one => same.mpr (link.same one)⟩

/-- The cells connected with the image of a cell are the images of the cells connected with it. -/
theorem Alike.connected_iff (hk : g.Eligible withoutBackground k) :
    g'.Connected oneColor acrossCorners withoutBackground (place k) l ↔
      ∃ m, g.Connected oneColor acrossCorners withoutBackground k m ∧ place m = l := by
  constructor
  · intro path
    induction path with
    | refl => exact ⟨k, .refl, rfl⟩
    | tail _ step ih =>
        obtain ⟨m, hm, rfl⟩ := ih
        obtain ⟨n, hn, rfl⟩ := h.exists_place step.right.1
        exact ⟨n, hm.tail ((h.link_iff main (hm.eligible hk).1 hn).mp step), rfl⟩
  · rintro ⟨m, path, rfl⟩
    induction path with
    | refl => exact .refl
    | tail _ step ih => exact ih.tail ((h.link_iff main step.left.1 step.right.1).mpr step)

end

theorem Alike.isObject_map (h : g.Alike g' color place) {region : Location → Prop} {object : Value}
    (hobject : g.IsObject region object) (inside : ∀ l, region l → g.Inside l) :
    g'.IsObject (fun l => ∃ k, region k ∧ place k = l) (object.mapItems (Value.mapCell color place)) := by
  have cell : ∀ l, region l → Value.mapCell color place (g.cellValue l) = g'.cellValue (place l) := by
    intro l hl
    rw [cellValue, cellValue, h.cell (inside l hl)]
    rfl
  refine (Value.IsSetOf.mapItems hobject ?_).congr fun v => ?_
  · rintro _ ⟨l, hl, rfl⟩
    rw [cell l hl]
    exact g'.plain_cellValue _
  · constructor
    · rintro ⟨_, ⟨l, hl, rfl⟩, rfl⟩
      exact ⟨_, ⟨l, hl, rfl⟩, cell l hl⟩
    · rintro ⟨_, ⟨l, hl, rfl⟩, rfl⟩
      exact ⟨_, ⟨l, hl, rfl⟩, cell l hl⟩

/-- The objects of a board are those of a board like it, each cell carried along. -/
theorem Alike.objects_eq (h : g.Alike g' color place) {oneColor acrossCorners withoutBackground : Bool}
    (main : withoutBackground = true → g.HasMainColor) {found : Value}
    (heq : Grid.objects g.grid (.bool oneColor) (.bool acrossCorners) (.bool withoutBackground) =
      .ok found) :
    Grid.objects g'.grid (.bool oneColor) (.bool acrossCorners) (.bool withoutBackground) =
      .ok (found.mapObjects color place) := by
  obtain ⟨_, heq₀, hfound⟩ := g.exists_objects oneColor acrossCorners withoutBackground
  obtain ⟨found', heq', hfound'⟩ := g'.exists_objects oneColor acrossCorners withoutBackground
  cases heq.symm.trans heq₀
  have image : ∀ {k o}, g.Eligible withoutBackground k →
      g.IsObject (g.Connected oneColor acrossCorners withoutBackground k) o →
      g'.IsObject (g'.Connected oneColor acrossCorners withoutBackground (place k))
        (o.mapItems (Value.mapCell color place)) := by
    intro k o hk ho
    refine (h.isObject_map ho fun l path => (path.eligible hk).1).congr fun v => ?_
    simp only [h.connected_iff main hk]
  have plain : ∀ o, g.IsClassObject oneColor acrossCorners withoutBackground o →
      Value.Plain (o.mapItems (Value.mapCell color place)) := by
    rintro o ⟨k, hk, ho⟩
    exact (image hk ho).plain
  rw [heq', hfound'.unique ((hfound.mapItems plain).congr fun o' => ?_), Value.mapObjects]
  constructor
  · rintro ⟨o, ⟨k, hk, ho⟩, rfl⟩
    exact ⟨place k, (h.eligible_iff main hk.1).mpr hk, image hk ho⟩
  · rintro ⟨k', hk', ho'⟩
    obtain ⟨k, inside, rfl⟩ := h.exists_place hk'.1
    have hk := (h.eligible_iff main inside).mp hk'
    obtain ⟨o, ho⟩ := exists_isObject (g := g)
      (P := g.Connected oneColor acrossCorners withoutBackground k) fun l path => (path.eligible hk).1
    exact ⟨o, ⟨k, hk, ho⟩, Value.IsSetOf.unique (image hk ho) ho'⟩

/-! ## Turned and recolored boards -/

end Board

namespace Symmetry

/-- A symmetry keeps the distances of rows and of columns, or it exchanges them. -/
theorem natAbs_place_sub (s : Symmetry) (height width : Nat) (k l : Location) :
    (((s.place height width k).1 - (s.place height width l).1).natAbs,
      ((s.place height width k).2 - (s.place height width l).2).natAbs) =
    if s.swaps then ((k.2 - l.2).natAbs, (k.1 - l.1).natAbs)
    else ((k.1 - l.1).natAbs, (k.2 - l.2).natAbs) := by
  have reversal (c i j : Int) : (c - i - (c - j)).natAbs = (i - j).natAbs := by omega
  cases s with
  | flip f => cases f <;> simp only [place, swaps, reversal, if_true, Bool.false_eq_true, if_false]
  | _ => simp only [place, swaps, reversal, if_true, Bool.false_eq_true, if_false]

theorem place_injective (s : Symmetry) (height width : Nat) :
    Function.Injective (s.place height width) := by
  intro k l heq
  have distance := s.natAbs_place_sub height width k l
  rw [heq] at distance
  ext <;> cases hs : s.swaps <;> simp [hs] at distance <;> omega

theorem isNear_place {s : Symmetry} {height width : Nat} {acrossCorners : Bool} {k l : Location} :
    Location.IsNear acrossCorners (s.place height width k) (s.place height width l) ↔
      Location.IsNear acrossCorners k l := by
  have distance := s.natAbs_place_sub height width k l
  rw [Location.isNear_iff, Location.isNear_iff]
  cases hs : s.swaps <;> cases acrossCorners <;>
    simp only [hs, if_true, Bool.false_eq_true, if_false, Prod.mk.injEq, Location.around,
      List.mem_append, Location.mem_beside_iff, Location.mem_diagonal_iff] at distance ⊢ <;> omega

end Symmetry

namespace Board

theorem alike_turn (g : Board Int) (s : Symmetry) :
    g.Alike (g.turn s) id (s.place g.height g.width) where
  inside := (g.carries_turn s).inside
  exists_place := exists_place_of_inside
  cell := (g.carries_turn s).cell
  near := Symmetry.isNear_place
  place_injective := s.place_injective g.height g.width
  color_injOn := Function.injective_id.injOn

theorem alike_map (g : Board Int) {f : Int → Int} (hf : Set.InjOn f {c | c ∈ g.rows.flatten}) :
    g.Alike (g.map f) f id where
  inside := inside_map.mpr
  exists_place hl := ⟨_, inside_map.mp hl, rfl⟩
  cell := cell_map
  near := Iff.rfl
  place_injective := Function.injective_id
  color_injOn := hf

theorem apply_grid (g : Board Int) (s : Symmetry) : s.apply g.grid = .ok (g.turn s).grid := by
  rw [grid, apply_toValue, turn_map, grid]

/-- **Turning and recoloring a board turns and recolors its objects.** The objects of a board are those of its
classes of connected cells. The objects of a turned board are the same, each cell at the place to which it is
turned. The objects of a board with other colors, different ones for different ones, are the same, each
cell with its new color. Where the background is left out, one color has to have more cells than any other. -/
theorem objects_of_turned_and_recolored (g : Board Int) (oneColor acrossCorners withoutBackground : Bool)
    (main : withoutBackground = true → g.HasMainColor) :
    ∃ found, Grid.objects g.grid (.bool oneColor) (.bool acrossCorners) (.bool withoutBackground) =
        .ok found ∧
      found.IsSetOf (g.IsClassObject oneColor acrossCorners withoutBackground) ∧
      (∀ s : Symmetry, ∃ turned, s.apply g.grid = .ok turned ∧
        Grid.objects turned (.bool oneColor) (.bool acrossCorners) (.bool withoutBackground) =
          .ok (found.mapObjects id (s.place g.height g.width))) ∧
      ∀ f : Int → Int, Set.InjOn f {c | c ∈ g.rows.flatten} →
        Grid.objects (g.map f).grid (.bool oneColor) (.bool acrossCorners) (.bool withoutBackground) =
          .ok (found.mapObjects f id) := by
  obtain ⟨found, heq, hfound⟩ := g.exists_objects oneColor acrossCorners withoutBackground
  refine ⟨found, heq, hfound, fun s => ?_, fun f hf => ?_⟩
  · exact ⟨_, g.apply_grid s, (g.alike_turn s).objects_eq main heq⟩
  · exact (g.alike_map hf).objects_eq main heq

/-- A board with three colors on different numbers of cells. -/
def pennant : Board Int where
  rows := [[0, 0, 3], [0, 5, 3]]
  width := 3
  rows_ne_nil := List.cons_ne_nil _ _
  width_pos := Nat.succ_pos 2
  length_row := by simp

theorem hasMainColor_pennant : pennant.HasMainColor := by
  refine ⟨0, fun d hd => ?_⟩
  have count : pennant.rows.flatten.count d = (if d = 3 then 2 else 0) + if d = 5 then 1 else 0 := by
    simp only [pennant, List.flatten_cons, List.flatten_nil, List.append_nil, List.cons_append,
      List.nil_append, List.count_cons, List.count_nil, beq_iff_eq]
    grind
  have zeros : pennant.rows.flatten.count 0 = 3 := by decide
  rw [count, zeros]
  split <;> split <;> omega

theorem objects_of_turned_and_squared_pennant :
    pennant.HasMainColor ∧ Set.InjOn (fun c => c * c) {c | c ∈ pennant.rows.flatten} ∧
    ∃ found, Grid.objects pennant.grid (.bool true) (.bool false) (.bool true) = .ok found ∧
      (∃ turned, Grid.rotateRight pennant.grid = .ok turned ∧
        Grid.objects turned (.bool true) (.bool false) (.bool true) =
          .ok (found.mapObjects id (Symmetry.rotateRight.place 2 3))) ∧
      Grid.objects (pennant.map fun c => c * c).grid (.bool true) (.bool false) (.bool true) =
        .ok (found.mapObjects (fun c => c * c) id) := by
  have injOn : Set.InjOn (fun c : Int => c * c) {c | c ∈ pennant.rows.flatten} := by
    have members : ∀ c ∈ pennant.rows.flatten, c = 0 ∨ c = 3 ∨ c = 5 := by decide
    intro c hc d hd heq
    rcases members c hc with rfl | rfl | rfl <;> rcases members d hd with rfl | rfl | rfl <;>
      simp_all
  refine ⟨hasMainColor_pennant, injOn, ?_⟩
  obtain ⟨found, heq, -, turned, recolored⟩ :=
    pennant.objects_of_turned_and_recolored true false true fun _ => hasMainColor_pennant
  exact ⟨found, heq, turned .rotateRight, recolored _ injOn⟩

end Board

end GridPuzzle
