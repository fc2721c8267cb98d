import GridPuzzle.Proofs.EnlargedObject
import GridPuzzle.Proofs.MovedBack
import Mathlib.Algebra.BigOperators.Group.List.Basic

/-!
# Counts of colors

The cells of a color are counted in several ways: row by row in a grid, cell by cell in the object of the grid, and as the
members of the set of their locations. All of them are the number of locations whose cell has the color
(`Board.colorCount`).

The colors of a board in a list tell the counts, so two boards whose lists are the same up to order have the same counts
(`Board.colorCount_turn`), and a list in which each item is repeated `k` times has `k` times the counts
(`Table.count_stretch`, `Table.count_flatten_stretch`).
-/

namespace GridPuzzle

/-! ## Repeated items -/

namespace Table

theorem count_stretch (k : Nat) (xs : List Value) (c : Value) : (stretch k xs).count c = k * xs.count c := by
  induction xs with
  | nil => rfl
  | cons x xs ih =>
      have first : stretch k (x :: xs) = List.replicate k x ++ stretch k xs := rfl
      rw [first, List.count_append, ih, List.count_cons, List.count, List.countP_replicate, Nat.mul_add, Nat.add_comm]
      split
      next => rw [Nat.mul_one]
      next => rw [Nat.mul_zero]

theorem count_flatten_replicate (k : Nat) (row : List Value) (c : Value) :
    (List.replicate k row).flatten.count c = k * row.count c := by
  induction k with
  | zero => simp
  | succ k ih => rw [List.replicate_succ, List.flatten_cons, List.count_append, ih, Nat.succ_mul, Nat.add_comm]

theorem count_flatten_stretch (k : Nat) (rows : List (List Value)) (c : Value) :
    (stretch k rows).flatten.count c = k * rows.flatten.count c := by
  induction rows with
  | nil => rfl
  | cons row rows ih =>
      have first : stretch k (row :: rows) = List.replicate k row ++ stretch k rows := rfl
      rw [first, List.flatten_append, List.count_append, ih, count_flatten_replicate, List.flatten_cons,
        List.count_append, Nat.mul_add]

/-- Repeated in both directions, each cell is found `k * k` times. -/
theorem count_flatten_stretch_map_stretch (k : Nat) (rows : List (List Value)) (c : Value) :
    (stretch k (rows.map (stretch k))).flatten.count c = k * k * rows.flatten.count c := by
  have columns : (rows.map (stretch k)).flatten.count c = k * rows.flatten.count c := by
    induction rows with
    | nil => rfl
    | cons row rows ih =>
        rw [List.map_cons, List.flatten_cons, List.count_append, ih, count_stretch, List.flatten_cons,
          List.count_append, Nat.mul_add]
  rw [count_flatten_stretch, columns, Nat.mul_assoc]

end Table

/-- A set of locations has as many members as there are locations in it. -/
theorem Value.IsLocationSet.length_eq {v : Value} {P : Location → Prop} (h : v.IsLocationSet P) {ls : List Location}
    (nodup : ls.Nodup) (mem : ∀ l, l ∈ ls ↔ P l) : v.itemList.length = ls.length :=
  h.isFigure.length_eq distinct_bare nodup fun l => (mem l).trans places_bare.symm

namespace Board

/-! ## The cells of an object -/

/-- The object of a grid has the colors of its cells. -/
theorem exists_colors_gridObject (b : Board Value) :
    ∃ object colors, Grid.gridObject b.toValue = .ok object ∧ object.isTuple = false ∧
      Grid.colors object = .ok colors ∧ colors.Perm b.rows.flatten := by
  let spot (l : Location) : Spot := ⟨some (b.cell l), l⟩
  obtain ⟨object, hobject, figure⟩ := b.exists_gridObject
  obtain ⟨spots, hspots, mem⟩ := figure.exists_spots
  have set : object.isTuple = false := by
    rw [figure.isSetOf.eq_set]
    rfl
  have perm : spots.Perm ((Location.all b.height b.width).map spot) := by
    have nodup : ((Location.all b.height b.width).map spot).Nodup :=
      (Location.nodup_all _ _).map fun k l same => congrArg Spot.place same
    refine (List.perm_ext_iff_of_nodup (figure.nodup_spots hspots) nodup).mpr fun s => ?_
    rw [mem, List.mem_map]
    constructor
    · rintro ⟨inside, color⟩
      exact ⟨s.place, mem_all_iff.mpr inside, congrArg (Spot.mk · s.place) color.symm⟩
    · rintro ⟨l, hl, rfl⟩
      exact ⟨mem_all_iff.mp hl, rfl⟩
  have colors : Grid.colors object = .ok (spots.map fun s => s.color.getD .null) := by
    rw [Grid.colors, set, if_neg Bool.false_ne_true, figure.isSetOf.items, Outcome.ok_bind, hspots]
    refine Value.mapM_spots fun s hs => ?_
    rcases s with ⟨color, l⟩
    obtain ⟨-, rfl : color = some (b.cell l)⟩ := (mem _).mp hs
    rfl
  refine ⟨object, _, hobject, set, colors, (perm.map _).trans ?_⟩
  rw [flatten_rows, List.map_map]
  rfl

theorem exists_countColor_gridObject (b : Board Value) : ∃ object, Grid.gridObject b.toValue = .ok object ∧
    ∀ c, Grid.countColor object c = .ok (.int (b.rows.flatten.count c : Nat)) := by
  obtain ⟨object, colors, hobject, set, hcolors, perm⟩ := b.exists_colors_gridObject
  refine ⟨object, hobject, fun c => ?_⟩
  rw [Grid.countColor, set, if_neg Bool.false_ne_true, hcolors, Outcome.ok_bind, perm.count_eq]
  rfl

variable (g : Board Int)

/-! ## The number of cells of a color -/

/-- The number of locations of the board whose cell has the color. -/
def colorCount (c : Int) : Nat :=
  ((Location.all g.height g.width).filter fun l => g.cell l = c).length

theorem count_flatten (c : Int) : g.rows.flatten.count c = g.colorCount c := by
  rw [flatten_rows, List.count, List.countP_map, List.countP_eq_length_filter, colorCount]
  rfl

theorem count_flatten_map (c : Int) : (g.map Value.int).rows.flatten.count (.int c) = g.colorCount c := by
  rw [flatten_map_int, count_map_int, count_flatten]

theorem countColor_eq (c : Int) : Grid.countColor g.grid (.int c) = .ok (.int (g.colorCount c : Nat)) := by
  rw [grid, countColor_toValue, count_flatten_map]

theorem exists_size_locationsOf (c : Int) :
    ∃ places, Grid.locationsOf g.grid (.int c) = .ok places ∧ places.size = .ok (g.colorCount c) := by
  obtain ⟨places, hplaces, locations⟩ := g.exists_locationsOf c
  refine ⟨places, hplaces, ?_⟩
  rw [Value.IsSetOf.size locations, colorCount]
  refine congrArg _ (locations.length_eq ((Location.nodup_all _ _).filter _) fun l => ?_)
  rw [List.mem_filter, mem_all_iff, decide_eq_true_iff]
  rfl

theorem colorCount_pos_iff {c : Int} : 0 < g.colorCount c ↔ c ∈ g.rows.flatten := by
  rw [← count_flatten, List.count_pos_iff]

/-- Every cell is counted for one color. -/
theorem sum_colorCount {colors : List Int} (nodup : colors.Nodup) (mem : ∀ c, c ∈ colors ↔ c ∈ g.rows.flatten) :
    (colors.map g.colorCount).sum = g.height * g.width := by
  have perm : colors.Perm g.rows.flatten.dedup := by
    rw [List.perm_ext_iff_of_nodup nodup (List.nodup_dedup _)]
    simp only [mem, List.mem_dedup, implies_true]
  have counts : g.colorCount = (g.rows.flatten.count ·) := funext fun c => (g.count_flatten c).symm
  have area : g.rows.flatten.length = g.height * g.width := by
    rw [flatten_rows, List.length_map, Location.length_all]
  rw [counts, (perm.map _).sum_eq, List.sum_map_count_dedup_eq_length, area]

/-- The colors of a board, each of them once. -/
theorem exists_palette_colors : ∃ colors : List Int, Grid.palette g.grid = .ok (.set (colors.map .int)) ∧
    colors.Nodup ∧ ∀ c, c ∈ colors ↔ c ∈ g.rows.flatten := by
  obtain ⟨palette, hpalette, members⟩ := g.exists_palette
  obtain ⟨colors, hcolors, mem⟩ := Value.exists_map_eq (fun _ _ => Value.int.inj) members.mem_itemList
  obtain ⟨⟨xs, rfl, increasing⟩, -⟩ := members
  obtain rfl : xs = colors.map .int := hcolors
  exact ⟨colors, hpalette, increasing.nodup.of_map, mem⟩

/-! ## Turned and enlarged boards -/

theorem colorCount_turn (s : Symmetry) (c : Int) : (g.turn s).colorCount c = g.colorCount c := by
  have perm := (g.alike_turn s).perm_colors
  rw [List.map_id] at perm
  rw [← count_flatten, ← count_flatten, perm.count_eq]

theorem exists_countColor_enlarge {k : Int} (pos : 1 ≤ k) : ∃ out, Grid.enlarge g.grid (.int k) = .ok out ∧
    ∀ c : Int, Grid.countColor out (.int c) = .ok (.int (k * k * g.colorCount c)) := by
  lift k to Nat using (by omega) with n
  have pos' : 0 < n := by omega
  refine ⟨_, (g.map Value.int).enlarge_toValue pos', fun c => ?_⟩
  rw [countColor_toValue]
  change Except.ok (Value.int ((Table.stretch n ((g.map Value.int).rows.map (Table.stretch n))).flatten.count
    (Value.int c) : Nat)) = _
  rw [Table.count_flatten_stretch_map_stretch, count_flatten_map]
  push_cast
  rfl

/-- **All counts of a color agree.** The number of cells of a color is found in a grid, in its object, and as the size of
the set of the locations of the color. The counts of the colors of the palette add up to the area of the grid. The most
and the least frequent color are colors of the palette, and no color of it has more or fewer cells. Turning and flipping
the grid keeps the counts, and enlarging it multiplies them by the square of the factor. -/
theorem counts_of_colors_agree :
    (∀ c : Int, Grid.countColor g.grid (.int c) = .ok (.int (g.colorCount c : Nat)) ∧
      (∃ places, Grid.locationsOf g.grid (.int c) = .ok places ∧ places.size = .ok (g.colorCount c)) ∧
      ∃ object, Grid.gridObject g.grid = .ok object ∧
        Grid.countColor object (.int c) = .ok (.int (g.colorCount c : Nat))) ∧
    (∃ (colors : List Int) (most least : Int), Grid.palette g.grid = .ok (.set (colors.map .int)) ∧
      colors.Nodup ∧ (∀ c, c ∈ colors ↔ 0 < g.colorCount c) ∧
      Patch.shape g.grid = .ok (.location g.height g.width) ∧
      (colors.map g.colorCount).sum = g.height * g.width ∧
      Grid.mostColor g.grid = .ok (.int most) ∧ most ∈ colors ∧
      Grid.leastColor g.grid = .ok (.int least) ∧ least ∈ colors ∧
      ∀ c ∈ colors, g.colorCount least ≤ g.colorCount c ∧ g.colorCount c ≤ g.colorCount most) ∧
    (∀ s : Symmetry, ∃ out, s.apply g.grid = .ok out ∧
      ∀ c : Int, Grid.countColor out (.int c) = .ok (.int (g.colorCount c : Nat))) ∧
    ∀ k : Int, 1 ≤ k → ∃ out, Grid.enlarge g.grid (.int k) = .ok out ∧
      ∀ c : Int, Grid.countColor out (.int c) = .ok (.int (k * k * g.colorCount c)) := by
  refine ⟨fun c => ⟨g.countColor_eq c, g.exists_size_locationsOf c, ?_⟩, ?_, fun s => ?_,
    fun k => g.exists_countColor_enlarge⟩
  · obtain ⟨object, hobject, counts⟩ := (g.map Value.int).exists_countColor_gridObject
    exact ⟨object, hobject, by rw [counts, count_flatten_map]⟩
  · obtain ⟨colors, hpalette, nodup, mem⟩ := g.exists_palette_colors
    obtain ⟨most, hmost, most_eq, greatest⟩ := g.exists_mostColor
    obtain ⟨least, hleast, least_eq, smallest⟩ := g.exists_leastColor
    simp only [count_flatten] at greatest smallest
    refine ⟨colors, most, least, hpalette, nodup, fun c => (mem c).trans g.colorCount_pos_iff.symm, g.shape_grid,
      g.sum_colorCount nodup mem, most_eq, (mem most).mpr hmost, least_eq, (mem least).mpr hleast, fun c hc => ?_⟩
    have there := (mem c).mp hc
    exact ⟨smallest c there, greatest c there⟩
  · refine ⟨_, g.apply_grid s, fun c => ?_⟩
    rw [countColor_eq, colorCount_turn]

end Board

end GridPuzzle
