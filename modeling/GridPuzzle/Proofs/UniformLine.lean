import GridPuzzle.Grid.Line
import GridPuzzle.Proofs.BlankRectangle
import GridPuzzle.Proofs.Scaling

/-!
# Lines of a single color

A line of a board is uniform if all its cells have one color. One operation collects the uniform lines as objects,
which overlap where a row crosses a column. Another one drops them by the numbers of their rows and columns. Both
agree: the locations of the objects are those on a uniform line (`Board.exists_merged_lines`), and what is left are the
cells at all other locations, in their order (`Board.rest`, `Board.flatten_rest`).

Reversing the rows and exchanging rows with columns exchange the uniform lines in the same way, so what is left is
turned with the board (`Board.IsRest.turn`). The exchange needs a row to be left: a table without rows has forgotten
its columns.
-/

namespace GridPuzzle

/-! ## Picked items -/

namespace Table

variable {α : Type} {n : Nat} {p q : Nat → Prop} [DecidablePred p] [DecidablePred q] {f g : Nat → α}

/-- The values of a function at the numbers below a bound that have a property, in order. -/
def pick (n : Nat) (p : Nat → Prop) [DecidablePred p] (f : Nat → α) : List α :=
  ((List.range n).filter fun i => p i).map f

theorem pick_congr (hp : ∀ i < n, (p i ↔ q i)) (hf : ∀ i < n, f i = g i) : pick n p f = pick n q g := by
  have kept : ((List.range n).filter fun i => p i) = (List.range n).filter fun i => q i :=
    List.filter_congr fun i hi => decide_eq_decide.mpr (hp i (List.mem_range.mp hi))
  unfold pick
  rw [kept]
  exact List.map_congr_left fun i hi => hf i (List.mem_range.mp (List.mem_of_mem_filter hi))

theorem pick_succ (n : Nat) (p : Nat → Prop) [DecidablePred p] (f : Nat → α) :
    pick (n + 1) p f = pick n p f ++ if p n then [f n] else [] := by
  unfold pick
  rw [List.range_succ, List.filter_append, List.map_append, List.filter_singleton]
  by_cases h : p n
  · simp [h]
  · simp [h]

theorem reverse_pick : (pick n p f).reverse = pick n (fun i => p (n - 1 - i)) fun i => f (n - 1 - i) := by
  unfold pick
  rw [← List.map_reverse, ← List.filter_reverse, List.range_eq_range', List.reverse_range', List.filter_map,
    List.map_map, Nat.zero_add, List.range_eq_range']
  rfl

theorem map_pick {β : Type} (h : α → β) : (pick n p f).map h = pick n p (h ∘ f) :=
  List.map_map

/-- The columns of picked rows, as long as a row is picked. -/
theorem columns_pick {m : Nat} {f : Nat → Nat → α} (some : pick n p (fun i => pick m q (f i)) ≠ []) :
    columns (pick n p fun i => pick m q (f i)) = pick m q fun j => pick n p fun i => f i j :=
  Value.columns_map_map f (fun empty => some (by rw [pick, empty]; rfl)) _

theorem dropPlaces_filter_range (n : Nat) (p : Nat → Prop) [DecidablePred p] (f : Nat → α) :
    Grid.dropPlaces ((List.range n).filter fun i => p i) ((List.range n).map f) = pick n (¬ p ·) f := by
  rw [Grid.dropPlaces, indexed_map_range, List.filter_map, List.map_map, pick]
  refine congrArg _ (List.filter_congr fun i hi => ?_)
  simp [List.mem_range.mp hi]

end Table

/-- The locations whose row and whose column have a property. -/
theorem Location.filter_all (height width : Nat) (p q : Int → Prop) [DecidablePred p] [DecidablePred q] :
    ((Location.all height width).filter fun l => p l.1 ∧ q l.2) =
      (Table.pick height (p ·) fun i => Table.pick width (q ·) fun j => ((i : Int), (j : Int))).flatten := by
  unfold Location.all Table.pick
  rw [List.filter_flatMap, ← List.flatMap_def]
  induction List.range height with
  | nil => rfl
  | cons i rows ih =>
      rw [List.flatMap_cons, ih, List.filter_map, List.filter_cons]
      by_cases hi : p i
      · simp [hi, Function.comp_def]
      · simp [hi, Function.comp_def]

/-- A list has one member up to equality exactly if all its items are equal. -/
theorem Value.length_canonical_eq_one_iff {xs : List Value} (some : xs ≠ []) :
    (Value.canonical xs).length = 1 ↔ ∀ x ∈ xs, ∀ y ∈ xs, (x == y) = true := by
  constructor
  · intro one x hx y hy
    rcases List.length_eq_one_iff.mp one with ⟨v, hv⟩
    rcases exists_mem_canonical_beq hx with ⟨a, ha, hax⟩
    rcases exists_mem_canonical_beq hy with ⟨b, hb, hby⟩
    rw [hv, List.mem_singleton] at ha hb
    subst ha hb
    exact BEq.trans (BEq.symm hax) hby
  · intro same
    have increasing := increasing_canonical xs
    cases h : Value.canonical xs with
    | nil =>
        rcases List.exists_mem_of_ne_nil xs some with ⟨x, hx⟩
        rcases exists_mem_canonical_beq hx with ⟨a, ha, -⟩
        rw [h] at ha
        cases ha
    | cons a rest =>
        cases rest with
        | nil => rfl
        | cons b rest =>
            -- Two members of the set would be equal.
            have ha : a ∈ xs := mem_of_mem_canonical (by rw [h]; exact List.mem_cons_self)
            have hb : b ∈ xs := mem_of_mem_canonical (by rw [h]; exact List.mem_cons_of_mem _ List.mem_cons_self)
            rw [h] at increasing
            exact absurd (same a ha b hb) (not_beq_of_lt ((List.pairwise_cons.mp increasing).1 b List.mem_cons_self))

namespace Board

variable (g : Board Int) {c : Board Int} {i j : Nat}

/-! ## Uniform lines -/

/-- All cells of the row have one color. -/
def UniformRow (i : Int) : Prop :=
  ∀ j < g.width, ∀ k < g.width, g.cell (i, (j : Nat)) = g.cell (i, (k : Nat))

/-- All cells of the column have one color. -/
def UniformColumn (j : Int) : Prop :=
  ∀ i < g.height, ∀ k < g.height, g.cell ((i : Nat), j) = g.cell ((k : Nat), j)

instance : DecidablePred g.UniformRow := fun _ => Nat.decidableBallLT _ _

instance : DecidablePred g.UniformColumn := fun _ => Nat.decidableBallLT _ _

/-- The location is in a row or in a column of a single color. -/
def OnUniformLine (l : Location) : Prop :=
  g.UniformRow l.1 ∨ g.UniformColumn l.2

instance : DecidablePred g.OnUniformLine := fun _ => instDecidableOr

/-- The cells that are in no row and no column of a single color, row by row. -/
def rest : List (List Int) :=
  Table.pick g.height (fun i => ¬ g.UniformRow i) fun i =>
    Table.pick g.width (fun j => ¬ g.UniformColumn j) fun j => g.cell (i, j)

theorem flatten_rest : g.rest.flatten =
    ((Location.all g.height g.width).filter fun l => ¬ g.OnUniformLine l).map g.cell := by
  have lines : ((Location.all g.height g.width).filter fun l => ¬ g.OnUniformLine l) =
      (Location.all g.height g.width).filter fun l => ¬ g.UniformRow l.1 ∧ ¬ g.UniformColumn l.2 :=
    List.filter_congr fun l _ => decide_eq_decide.mpr not_or
  rw [lines, Location.filter_all _ _ (¬ g.UniformRow ·) (¬ g.UniformColumn ·), List.map_flatten, Table.map_pick]
  simp only [Function.comp_def, Table.map_pick]
  rfl

/-! ## Turned boards -/

variable {g}

section

variable {α : Type} [Inhabited α] {b : Board α}

theorem cell_flipRows (hi : i < b.height) (hj : j < b.width) :
    b.flipRows.cell (i, j) = b.cell ((b.height - 1 - i : Nat), j) := by
  have carried := b.carries_flipRows.cell (b.inside_natCast (i := b.height - 1 - i) (by omega) hj)
  have back : (b.height : Int) - 1 - (b.height - 1 - i : Nat) = i := by omega
  rwa [back] at carried

theorem cell_transpose (hi : i < b.height) (hj : j < b.width) : b.transpose.cell (j, i) = b.cell (i, j) :=
  b.carries_transpose.cell (b.inside_natCast hi hj)

end

theorem uniformRow_flipRows (hi : i < g.height) :
    g.flipRows.UniformRow i ↔ g.UniformRow (g.height - 1 - i : Nat) :=
  forall₄_congr fun j hj k hk => by rw [cell_flipRows hi hj, cell_flipRows hi hk]

theorem uniformColumn_flipRows (hj : j < g.width) : g.flipRows.UniformColumn j ↔ g.UniformColumn j := by
  unfold UniformColumn
  rw [height_flipRows]
  constructor
  · intro same i hi k hk
    have reversed := same (g.height - 1 - i) (by omega) (g.height - 1 - k) (by omega)
    have back (a : Nat) (ha : a < g.height) : g.height - 1 - (g.height - 1 - a) = a := by omega
    rwa [cell_flipRows (by omega) hj, cell_flipRows (by omega) hj, back i hi, back k hk] at reversed
  · intro same i hi k hk
    rw [cell_flipRows hi hj, cell_flipRows hk hj]
    exact same _ (by omega) _ (by omega)

theorem uniformRow_transpose (hj : j < g.width) : g.transpose.UniformRow j ↔ g.UniformColumn j :=
  forall₄_congr fun i hi k hk => by rw [cell_transpose hi hj, cell_transpose hk hj]

theorem uniformColumn_transpose (hi : i < g.height) : g.transpose.UniformColumn i ↔ g.UniformRow i := by
  unfold UniformColumn
  rw [height_transpose]
  exact forall₄_congr fun j hj k hk => by rw [cell_transpose hi hj, cell_transpose hi hk]

theorem rest_flipRows : g.flipRows.rest = g.rest.reverse := by
  unfold rest
  rw [Table.reverse_pick, height_flipRows, width_flipRows]
  refine Table.pick_congr (fun i hi => not_congr (uniformRow_flipRows hi)) fun i hi => ?_
  exact Table.pick_congr (fun j hj => not_congr (uniformColumn_flipRows hj)) fun j hj => cell_flipRows hi hj

theorem rest_transpose (some : g.rest ≠ []) : g.transpose.rest = Table.columns g.rest := by
  unfold rest at some ⊢
  rw [Table.columns_pick some, height_transpose, width_transpose]
  refine Table.pick_congr (fun j hj => not_congr (uniformRow_transpose hj)) fun j hj => ?_
  exact Table.pick_congr (fun i hi => not_congr (uniformColumn_transpose hi)) fun i hi => cell_transpose hi hj

/-- The board is what another one is without its lines of a single color. -/
def IsRest (c g : Board Int) : Prop :=
  c.rows = g.rest

theorem exists_isRest (some : g.rest.flatten ≠ []) : ∃ c : Board Int, c.IsRest g := by
  rcases List.exists_mem_of_ne_nil _ some with ⟨x, hx⟩
  rcases List.mem_flatten.mp hx with ⟨row, hrow, hx⟩
  have length : ∀ row ∈ g.rest, row.length =
      ((List.range g.width).filter fun (j : Nat) => ¬ g.UniformColumn j).length := by
    intro row hrow
    rcases List.mem_map.mp hrow with ⟨i, -, rfl⟩
    exact List.length_map _
  have pos : 0 < row.length := List.length_pos_of_mem hx
  rw [length row hrow] at pos
  exact ⟨⟨g.rest, _, List.ne_nil_of_mem hrow, pos, length⟩, rfl⟩

theorem IsRest.flipRows (h : c.IsRest g) : c.flipRows.IsRest g.flipRows := by
  unfold IsRest at h ⊢
  rw [rest_flipRows, ← h]
  rfl

theorem IsRest.transpose (h : c.IsRest g) : c.transpose.IsRest g.transpose := by
  unfold IsRest at h ⊢
  rw [rest_transpose (h ▸ c.rows_ne_nil), ← h]
  rfl

/-- The columns are reversed as the rows of the columns. -/
theorem transpose_flipRows_transpose (b : Board Int) : b.transpose.flipRows.transpose = b.flipColumns := by
  have turned := b.turn_turn (.flip .rows) (.flip .diagonal)
  have turned' := b.turn_turn (.flip .diagonal) .rotateLeft
  exact (congrArg Board.transpose turned).trans turned'

theorem IsRest.flipColumns (h : c.IsRest g) : c.flipColumns.IsRest g.flipColumns := by
  rw [← transpose_flipRows_transpose, ← transpose_flipRows_transpose]
  exact h.transpose.flipRows.transpose

/-- What is left of a turned board is turned like the board. -/
theorem IsRest.turn (h : c.IsRest g) (s : Symmetry) : (c.turn s).IsRest (g.turn s) := by
  cases s with
  | identity => exact h
  | rotateRight => exact h.flipRows.transpose
  | rotateHalf => exact h.flipRows.flipColumns
  | rotateLeft => exact h.flipRows.transpose.flipColumns.flipRows
  | flip f =>
      cases f with
      | rows => exact h.flipRows
      | columns => exact h.flipColumns
      | diagonal => exact h.transpose
      | antidiagonal => exact h.flipRows.flipColumns.transpose

/-! ## The operations -/

variable (g)

theorem uniformPlaces_grid : Grid.uniformPlaces g.grid =
    .ok ((List.range g.height).filter fun (i : Nat) => g.UniformRow i) := by
  have one (i : Nat) : (Value.canonical ((List.range g.width).map fun (j : Nat) =>
      Value.int (g.cell (i, j)))).length = 1 ↔ g.UniformRow i := by
    have some : ((List.range g.width).map fun (j : Nat) => Value.int (g.cell (i, j))) ≠ [] := by
      rw [Ne, List.map_eq_nil_iff, List.range_eq_nil]
      exact Nat.pos_iff_ne_zero.mp g.width_pos
    rw [Value.length_canonical_eq_one_iff some]
    simp [UniformRow]
  rw [Grid.uniformPlaces, grid, items_toValue, Outcome.ok_bind, rows_grid_eq, List.map_map, Table.indexed_map_range,
    filterMapM_map_eq_pure_filterMap (g := fun (i : Nat) => if g.UniformRow i then some i else none),
    Outcome.pure_eq_ok]
  · rw [← List.filterMap_eq_filter]
    simp only [Option.guard, decide_eq_true_eq]
  · intro i _
    dsimp only [Function.comp_apply]
    simp only [Value.items, Outcome.ok_bind, one]

theorem transpose_grid : Grid.transpose g.grid = .ok g.transpose.grid :=
  g.apply_grid (.flip .diagonal)

theorem uniformPlaces_transpose : Grid.uniformPlaces g.transpose.grid =
    .ok ((List.range g.width).filter fun (j : Nat) => g.UniformColumn j) := by
  rw [uniformPlaces_grid, height_transpose]
  refine congrArg _ (List.filter_congr fun j hj => ?_)
  exact decide_eq_decide.mpr (uniformRow_transpose (List.mem_range.mp hj))

theorem dropUniformLines_grid : Grid.dropUniformLines g.grid = .ok (.ofRows (g.rest.map (·.map Value.int))) := by
  rw [Grid.dropUniformLines, uniformPlaces_grid, Outcome.ok_bind, transpose_grid, Outcome.ok_bind,
    uniformPlaces_transpose, Outcome.ok_bind, grid, items_toValue, Outcome.ok_bind, rows_grid_eq, List.map_map,
    Table.dropPlaces_filter_range, ← Table.map_pick, mapM_tuple (g := id) _ fun _ => rfl, List.map_id, Outcome.ok_bind,
    Table.map_pick, rest, Table.map_pick]
  simp only [Function.comp_def, Table.dropPlaces_filter_range, Table.map_pick]
  rfl

/-- The locations of a row. -/
def rowPlaces (i : Nat) : List Location :=
  (List.range g.width).map fun (j : Nat) => ((i : Int), (j : Int))

/-- The locations of a column. -/
def columnPlaces (j : Nat) : List Location :=
  (List.range g.height).map fun (i : Nat) => ((i : Int), (j : Int))

theorem cellsAt_grid {places : List (Nat × Nat)} (inside : ∀ p ∈ places, p.1 < g.height ∧ p.2 < g.width) :
    Grid.cellsAt g.grid places = .ok (g.regionObject (places.map fun p => ((p.1 : Int), (p.2 : Int)))) := by
  rw [Grid.cellsAt, mapM_eq_pure_map (g := fun p => g.cellValue (p.1, p.2)), Outcome.pure_eq_ok, Outcome.ok_bind,
    regionObject, List.map_map]
  · rfl
  · rintro ⟨i, j⟩ hp
    have found : g.Inside (i, j) := g.inside_natCast (inside _ hp).1 (inside _ hp).2
    dsimp only
    rw [grid, cell_toValue (l := (i, j)) (inside_map.mpr found), cell_map found]
    rfl

theorem uniformLines_grid : Grid.uniformLines g.grid = .ok (g.regionObjects
    (((List.range g.height).filter fun (i : Nat) => g.UniformRow i).map g.rowPlaces ++
      ((List.range g.width).filter fun (j : Nat) => g.UniformColumn j).map g.columnPlaces)) := by
  rw [Grid.uniformLines, dimensions_grid, Outcome.ok_bind]
  dsimp only
  rw [uniformPlaces_grid, Outcome.ok_bind, transpose_grid, Outcome.ok_bind, uniformPlaces_transpose, Outcome.ok_bind,
    mapM_eq_pure_map (g := fun i => g.regionObject (g.rowPlaces i)), Outcome.pure_eq_ok, Outcome.ok_bind,
    mapM_eq_pure_map (g := fun j => g.regionObject (g.columnPlaces j)), Outcome.pure_eq_ok, Outcome.ok_bind,
    regionObjects, List.map_append, List.map_map, List.map_map]
  · rfl
  · intro j hj
    have column := List.mem_range.mp (List.mem_of_mem_filter hj)
    rw [cellsAt_grid, List.map_map]
    · rfl
    · intro p hp
      rcases List.mem_map.mp hp with ⟨i, hi, rfl⟩
      exact ⟨List.mem_range.mp hi, column⟩
  · intro i hi
    have row := List.mem_range.mp (List.mem_of_mem_filter hi)
    rw [cellsAt_grid, List.map_map]
    · rfl
    · intro p hp
      rcases List.mem_map.mp hp with ⟨j, hj, rfl⟩
      exact ⟨row, List.mem_range.mp hj⟩

/-- The objects of some regions, merged, are the object of all their locations. -/
theorem exists_flatten_regionObjects (regions : List (List Location)) :
    ∃ merged, Container.flatten (g.regionObjects regions) = .ok merged ∧
      g.IsObject (fun l => ∃ region ∈ regions, l ∈ region) merged := by
  have object (region : List Location) : g.IsObject (· ∈ region) (g.regionObject region) :=
    isObject_regionObject fun _ => Iff.rfl
  have found : (g.regionObjects regions).IsSetOf (· ∈ regions.map g.regionObject) := by
    refine Value.isSetOf_setOf fun o ho => ?_
    rcases List.mem_map.mp ho with ⟨region, -, rfl⟩
    exact (object region).plain
  have objects : ∀ o ∈ regions.map g.regionObject, ∃ P, g.IsObject P o := by
    intro o ho
    rcases List.mem_map.mp ho with ⟨region, -, rfl⟩
    exact ⟨_, object region⟩
  rcases exists_flatten_objects found objects with ⟨merged, heq, hmerged⟩
  refine ⟨merged, heq, hmerged.congr fun v => exists_congr fun l => and_congr_left fun _ => ?_⟩
  simp only [found.mem_iff, List.mem_map, exists_exists_and_eq_and, (object _).cellValue_mem]

theorem mem_rowPlaces_iff {l : Location} : l ∈ g.rowPlaces i ↔ ∃ j < g.width, l = ((i : Int), ((j : Nat) : Int)) := by
  simp only [rowPlaces, List.mem_map, List.mem_range, eq_comm]

theorem mem_columnPlaces_iff {l : Location} :
    l ∈ g.columnPlaces j ↔ ∃ i < g.height, l = (((i : Nat) : Int), (j : Int)) := by
  simp only [columnPlaces, List.mem_map, List.mem_range, eq_comm]

/-- The lines of a single color, merged, are the object of the cells on them. -/
theorem exists_merged_lines : ∃ lines merged, Grid.uniformLines g.grid = .ok lines ∧
    Container.flatten lines = .ok merged ∧ g.IsObject (fun l => g.Inside l ∧ g.OnUniformLine l) merged := by
  rcases g.exists_flatten_regionObjects _ with ⟨merged, heq, hmerged⟩
  refine ⟨_, merged, g.uniformLines_grid, heq, hmerged.congr fun v => exists_congr fun l => and_congr_left fun _ => ?_⟩
  simp only [List.mem_append, List.mem_map, List.mem_filter, List.mem_range, decide_eq_true_eq, or_and_right, exists_or,
    exists_exists_and_eq_and, mem_rowPlaces_iff, mem_columnPlaces_iff]
  constructor
  · intro h
    rcases h with ⟨i, ⟨hi, uniform⟩, j, hj, rfl⟩ | ⟨j, ⟨hj, uniform⟩, i, hi, rfl⟩
    · exact ⟨g.inside_natCast hi hj, .inl uniform⟩
    · exact ⟨g.inside_natCast hi hj, .inr uniform⟩
  · intro h
    rcases h with ⟨inside, uniform⟩
    rcases inside.exists_natCast with ⟨i, j, hi, hj, rfl⟩
    cases uniform with
    | inl row => exact .inl ⟨i, ⟨hi, row⟩, j, hj, rfl⟩
    | inr column => exact .inr ⟨j, ⟨hj, column⟩, i, hi, rfl⟩

/-- A cell of the board is either left or on a line of a single color. -/
theorem length_rest_add_length {places : Value} (h : places.IsLocationSet fun l => g.Inside l ∧ g.OnUniformLine l) :
    g.rest.flatten.length + places.itemList.length = g.height * g.width := by
  have onLines : places.itemList.length =
      ((Location.all g.height g.width).filter fun l => g.OnUniformLine l).length := by
    refine h.isFigure.length_eq Value.distinct_bare ((Location.nodup_all _ _).filter _) fun l => ?_
    rw [Value.places_bare, List.mem_filter, mem_all_iff, decide_eq_true_eq]
  have parts := (Location.all g.height g.width).length_eq_length_filter_add fun l => decide (g.OnUniformLine l)
  simp only [← decide_not] at parts
  rw [flatten_rest, List.length_map, onLines, ← Location.length_all, parts, Nat.add_comm]

variable {g} in
theorem IsRest.dropUniformLines (h : c.IsRest g) : Grid.dropUniformLines g.grid = .ok c.grid := by
  rw [dropUniformLines_grid, ← h]
  rfl

/-- **The lines of a single color and the rest of the board agree.** The locations of the lines are those inside the
board whose row or whose column has a single color. The board without the lines has the cells at all other locations,
row by row and in their order; so the board has as many cells as there are of these and of locations on the lines. If a
cell is left at all, then what is left of the turned board is what is left of the board, turned, for every symmetry. -/
theorem uniform_lines_and_rest_agree :
    ∃ (lines merged places : Value) (n : Nat),
      Grid.uniformLines g.grid = .ok lines ∧ Container.flatten lines = .ok merged ∧
      Patch.locations merged = .ok places ∧ places.size = .ok n ∧
      (places.IsLocationSet fun l => g.Inside l ∧ g.OnUniformLine l) ∧
      Grid.dropUniformLines g.grid = .ok (.ofRows (g.rest.map (·.map Value.int))) ∧
      g.rest.flatten = ((Location.all g.height g.width).filter fun l => ¬ g.OnUniformLine l).map g.cell ∧
      g.rest.flatten.length + n = g.height * g.width ∧
      (g.rest.flatten ≠ [] → ∀ s : Symmetry, ∃ turned,
        (do Grid.dropUniformLines (← s.apply g.grid)) = .ok turned ∧
        (do s.apply (← Grid.dropUniformLines g.grid)) = .ok turned) := by
  rcases g.exists_merged_lines with ⟨lines, merged, hlines, hmerged, object⟩
  rcases object.isPatch with ⟨places, hplaces, located⟩
  refine ⟨lines, merged, places, _, hlines, hmerged, hplaces, Value.IsSetOf.size located, located,
    g.dropUniformLines_grid, g.flatten_rest, g.length_rest_add_length located, fun some s => ?_⟩
  rcases exists_isRest some with ⟨c, isRest⟩
  refine ⟨(c.turn s).grid, ?_, ?_⟩
  · rw [apply_grid, Outcome.ok_bind, (isRest.turn s).dropUniformLines]
  · rw [isRest.dropUniformLines, Outcome.ok_bind, apply_grid]

end Board

end GridPuzzle
