import GridPuzzle.Grid.Objects
import GridPuzzle.Grid.Cell
import GridPuzzle.Proofs.Traversal
import GridPuzzle.Proofs.ValueSet

/-!
# Boards

A board is a rectangular table with at least one row and one column; the structure carries the proof. A
board of integers is written as a grid by `Board.grid`. This module says what the operations that take a
grid apart find in a board: its rows, its dimensions, its cells and its most frequent color.

A board is given by its dimensions and its cells (`Board.ext_cell`), so a grid that an operation returns is
described by saying which board it is, cell by cell.
-/

namespace GridPuzzle

/-- A rectangular table with at least one row and one column. -/
structure Board (α : Type) where
  rows : List (List α)
  width : Nat
  rows_ne_nil : rows ≠ []
  width_pos : 0 < width
  length_row : ∀ row ∈ rows, row.length = width

namespace Board

variable {α β : Type}

def height (b : Board α) : Nat :=
  b.rows.length

theorem height_pos (b : Board α) : 0 < b.height :=
  List.length_pos_iff.mpr b.rows_ne_nil

/-- The location is that of a cell of the board. -/
def Inside (b : Board α) (l : Location) : Prop :=
  (0 ≤ l.1 ∧ l.1 < b.height) ∧ 0 ≤ l.2 ∧ l.2 < b.width

instance (b : Board α) (l : Location) : Decidable (b.Inside l) :=
  inferInstanceAs (Decidable (_ ∧ _))

theorem isInside_iff {b : Board α} {l : Location} :
    l.isInside b.height b.width = true ↔ b.Inside l := by
  simp [Location.isInside, Inside, and_assoc]

/-- The cell at a location, if the location lies on the board. -/
def cell? (b : Board α) (l : Location) : Option α :=
  b.rows[l.1.toNat]?.bind (·[l.2.toNat]?)

/-- The cell at a location of the board. -/
def cell [Inhabited α] (b : Board α) (l : Location) : α :=
  (b.cell? l).getD default

/-- The board with each cell changed by a function. -/
def map (f : α → β) (b : Board α) : Board β where
  rows := b.rows.map (·.map f)
  width := b.width
  rows_ne_nil := by simpa using b.rows_ne_nil
  width_pos := b.width_pos
  length_row row hrow := by
    obtain ⟨old, hold, rfl⟩ := List.mem_map.mp hrow
    rw [List.length_map, b.length_row old hold]

/-- The board of given dimensions whose cells are given by location. -/
def tabulate (height width : Nat) (height_pos : 0 < height) (width_pos : 0 < width)
    (f : Location → α) : Board α where
  rows := (List.range height).map fun (i : Nat) => (List.range width).map fun (j : Nat) => f (i, j)
  width := width
  rows_ne_nil := by simp; omega
  width_pos := width_pos
  length_row row hrow := by
    obtain ⟨i, -, rfl⟩ := List.mem_map.mp hrow
    simp

/-- The board of given dimensions with one color. -/
def uniform {height width : Nat} (height_pos : 0 < height) (width_pos : 0 < width) (a : α) : Board α :=
  tabulate height width height_pos width_pos fun _ => a

/-- A board of the same dimensions with other cells. -/
def redraw (b : Board α) (f : Location → β) : Board β :=
  tabulate b.height b.width b.height_pos b.width_pos f

/-- The grid of a board whose cells are values. -/
def toValue (b : Board Value) : Value :=
  .ofRows b.rows

/-- The grid of a board of numbers. -/
def grid (b : Board Int) : Value :=
  (b.map Value.int).toValue

/-! ## Dimensions and cells -/

@[simp] theorem height_map (f : α → β) (b : Board α) : (b.map f).height = b.height := by
  simp [height, map]

@[simp] theorem width_map (f : α → β) (b : Board α) : (b.map f).width = b.width :=
  rfl

@[simp] theorem height_redraw (b : Board α) (f : Location → β) : (b.redraw f).height = b.height := by
  simp [redraw, tabulate, height]

@[simp] theorem width_redraw (b : Board α) (f : Location → β) : (b.redraw f).width = b.width :=
  rfl

@[simp] theorem inside_map {f : α → β} {b : Board α} {l : Location} :
    (b.map f).Inside l ↔ b.Inside l := by
  simp [Inside]

@[simp] theorem inside_redraw {b : Board α} {f : Location → β} {l : Location} :
    (b.redraw f).Inside l ↔ b.Inside l := by
  simp [Inside]

/-- The numbers of a row and a column make a location of the board. -/
theorem inside_natCast {b : Board α} {i j : Nat} (hi : i < b.height) (hj : j < b.width) :
    b.Inside (i, j) :=
  ⟨⟨Int.natCast_nonneg i, Int.ofNat_lt.mpr hi⟩, Int.natCast_nonneg j, Int.ofNat_lt.mpr hj⟩

theorem Inside.exists_natCast {b : Board α} {l : Location} (h : b.Inside l) :
    ∃ i j : Nat, i < b.height ∧ j < b.width ∧ l = (↑i, ↑j) := by
  obtain ⟨⟨hrow, hrow'⟩, hcol, hcol'⟩ := h
  refine ⟨l.1.toNat, l.2.toNat, by omega, by omega, ?_⟩
  rw [Int.toNat_of_nonneg hrow, Int.toNat_of_nonneg hcol]

/-- What holds of each row and column holds of each location of the board. -/
theorem forall_inside {b : Board α} {p : Location → Prop}
    (h : ∀ i < b.height, ∀ j < b.width, p ((i : Nat), (j : Nat))) {l : Location} (inside : b.Inside l) : p l := by
  obtain ⟨i, j, hi, hj, rfl⟩ := inside.exists_natCast
  exact h i hi j hj

theorem exists_cell?_of_inside {b : Board α} {l : Location} (h : b.Inside l) :
    ∃ a, b.cell? l = some a := by
  obtain ⟨i, j, hi, hj, rfl⟩ := h.exists_natCast
  have hi' : i < b.rows.length := hi
  have hj' : j < b.rows[i].length := by rwa [b.length_row _ (List.getElem_mem hi')]
  exact ⟨b.rows[i][j], by simp [cell?, hi', hj']⟩

theorem cell?_eq_some_cell [Inhabited α] {b : Board α} {l : Location} (h : b.Inside l) :
    b.cell? l = some (b.cell l) := by
  obtain ⟨a, ha⟩ := exists_cell?_of_inside h
  rw [cell, ha, Option.getD_some]

theorem cell?_map (f : α → β) (b : Board α) (l : Location) :
    (b.map f).cell? l = (b.cell? l).map f := by
  simp only [cell?, map, List.getElem?_map]
  cases b.rows[l.1.toNat]? <;> simp

theorem cell_map [Inhabited α] [Inhabited β] {f : α → β} {b : Board α} {l : Location}
    (h : b.Inside l) : (b.map f).cell l = f (b.cell l) := by
  rw [cell, cell?_map, cell?_eq_some_cell h, Option.map_some, Option.getD_some]

theorem mem_all_iff {b : Board α} {l : Location} :
    l ∈ Location.all b.height b.width ↔ b.Inside l := by
  simp only [Location.all, List.mem_flatMap, List.mem_range, List.mem_map]
  constructor
  · rintro ⟨i, hi, j, hj, rfl⟩
    exact inside_natCast hi hj
  · intro h
    obtain ⟨i, j, hi, hj, rfl⟩ := h.exists_natCast
    exact ⟨i, hi, j, hj, rfl⟩

theorem inside_tabulate_iff {height width : Nat} (height_pos : 0 < height) (width_pos : 0 < width)
    {f : Location → α} {l : Location} :
    (tabulate height width height_pos width_pos f).Inside l ↔ l ∈ Location.all height width := by
  have rows : (tabulate height width height_pos width_pos f).height = height := by simp [tabulate, Board.height]
  rw [← mem_all_iff, rows]
  rfl

theorem cell_tabulate [Inhabited α] {height width : Nat} (height_pos : 0 < height) (width_pos : 0 < width)
    {f : Location → α} {l : Location} (h : l ∈ Location.all height width) :
    (tabulate height width height_pos width_pos f).cell l = f l := by
  simp only [Location.all, List.mem_flatMap, List.mem_range, List.mem_map] at h
  obtain ⟨i, hi, j, hj, rfl⟩ := h
  simp [cell, cell?, tabulate, hi, hj]

theorem cell_redraw [Inhabited β] {b : Board α} {f : Location → β} {l : Location}
    (h : b.Inside l) : (b.redraw f).cell l = f l :=
  cell_tabulate b.height_pos b.width_pos (mem_all_iff.mpr h)

theorem rows_getElem_getElem [Inhabited α] {b : Board α} {i j : Nat} (hi : i < b.rows.length)
    (hj : j < b.rows[i].length) : b.rows[i][j] = b.cell (i, j) := by
  simp [cell, cell?, hi, hj]

/-- A board is given by its dimensions and its cells. -/
theorem ext_cell [Inhabited α] {a b : Board α} (height_eq : a.height = b.height)
    (width_eq : a.width = b.width) (h : ∀ l, a.Inside l → a.cell l = b.cell l) : a = b := by
  have rows_eq : a.rows = b.rows := by
    refine List.ext_getElem height_eq fun i hi hi' => List.ext_getElem ?_ fun j hj hj' => ?_
    · rw [a.length_row _ (List.getElem_mem hi), b.length_row _ (List.getElem_mem hi'), width_eq]
    · rw [rows_getElem_getElem hi hj, rows_getElem_getElem hi' hj']
      refine h _ (inside_natCast hi ?_)
      rwa [a.length_row _ (List.getElem_mem hi)] at hj
  cases a
  cases b
  simp_all

/-- A board is its own cells, drawn again. -/
theorem redraw_cell [Inhabited α] (b : Board α) : b.redraw b.cell = b :=
  ext_cell (height_redraw b _) rfl fun _ h => cell_redraw (inside_redraw.mp h)

/-- The rows of a board are read off the numbers of its rows and columns. -/
theorem rows_eq_map_cell [Inhabited α] (b : Board α) :
    b.rows = (List.range b.height).map fun (i : Nat) => (List.range b.width).map fun (j : Nat) => b.cell (i, j) :=
  (congrArg Board.rows b.redraw_cell).symm

/-- The cells of a row, from left to right. -/
def row [Inhabited α] (b : Board α) (i : Nat) : List α :=
  (List.range b.width).map fun (j : Nat) => b.cell (i, j)

/-- The cells of a column, from top to bottom. -/
def column [Inhabited α] (b : Board α) (j : Nat) : List α :=
  (List.range b.height).map fun (i : Nat) => b.cell (i, j)

theorem rows_eq_map_row [Inhabited α] (b : Board α) : b.rows = (List.range b.height).map b.row :=
  b.rows_eq_map_cell

/-- The cells of a board in a list are read off its locations. -/
theorem flatten_rows [Inhabited α] (b : Board α) :
    b.rows.flatten = (Location.all b.height b.width).map b.cell := by
  rw [rows_eq_map_cell, Location.all, List.map_flatMap, ← List.flatMap_def]
  simp only [List.map_map, Function.comp_def]

theorem cell_mem_flatten [Inhabited α] {b : Board α} {l : Location} (h : b.Inside l) :
    b.cell l ∈ b.rows.flatten := by
  rw [flatten_rows]
  exact List.mem_map_of_mem (mem_all_iff.mpr h)

/-! ## Boards as grids -/

theorem items_toValue (b : Board Value) : b.toValue.items = .ok (b.rows.map .tuple) :=
  rfl

theorem rows_toValue (b : Board Value) : b.toValue.rows = .ok b.rows := by
  have h : (b.rows.map Value.tuple).mapM Value.items = pure b.rows := by
    rw [mapM_eq_pure_map (g := Value.itemList) fun v hv => ?_]
    · simp [Function.comp_def, Value.itemList]
    · obtain ⟨row, -, rfl⟩ := List.mem_map.mp hv
      rfl
  simpa [Value.rows, items_toValue] using h

theorem size_toValue (b : Board Value) : b.toValue.size = .ok b.height := by
  simp [Value.size, items_toValue, height]

theorem tupleItems_toValue (b : Board Value) : b.toValue.tupleItems = .ok (b.rows.map .tuple) :=
  rfl

theorem item?_natCast {γ : Type} (xs : List γ) (i : Nat) : Table.item? xs i = xs[i]? := by
  have nonneg : ¬ (i : Int) < 0 := by omega
  simp [Table.item?, Table.place, nonneg]

theorem nth_toValue {b : Board Value} {i : Nat} (hi : i < b.rows.length) :
    b.toValue.nth i = .ok (.tuple b.rows[i]) := by
  simp [Value.nth, tupleItems_toValue, item?_natCast, hi]

theorem exists_first_row (b : Board Value) :
    ∃ row, b.toValue.nth 0 = .ok row ∧ row.size = .ok b.width := by
  have pos : 0 < b.rows.length := b.height_pos
  refine ⟨.tuple b.rows[0], nth_toValue pos, ?_⟩
  rw [← b.length_row _ (List.getElem_mem pos)]
  rfl

theorem dimensions_toValue (b : Board Value) :
    b.toValue.dimensions = .ok (b.height, b.width) := by
  obtain ⟨row, hrow, hwidth⟩ := b.exists_first_row
  simp [Value.dimensions, size_toValue, hrow, hwidth]

theorem shape_toValue (b : Board Value) :
    Patch.shape b.toValue = .ok (.location b.height b.width) := by
  have pos : b.height ≠ 0 := Nat.pos_iff_ne_zero.mp b.height_pos
  have tuple : b.toValue.isTuple = true := rfl
  obtain ⟨row, hrow, hwidth⟩ := b.exists_first_row
  simp [Patch.shape, Patch.height, Patch.width, size_toValue, pos, tuple, hrow, hwidth]

/-- Reading the cells of a board one by one gives its rows. -/
theorem table_toValue (b : Board Value) : Grid.table b.toValue b.height b.width = .ok b.rows := by
  have row : ∀ i ∈ List.range b.height,
      (do
        let row ← b.toValue.nth i
        (List.range b.width).mapM fun (j : Nat) => row.nth j) = pure (b.rows.getD i []) := by
    intro i hi
    have hi' : i < b.rows.length := List.mem_range.mp hi
    have cells : ∀ j ∈ List.range b.width,
        (Value.tuple b.rows[i]).nth j = pure (b.rows[i].getD j .null) := by
      intro j hj
      have hj' : j < b.rows[i].length := by
        rw [b.length_row _ (List.getElem_mem hi')]
        exact List.mem_range.mp hj
      simp [Value.nth, Value.tupleItems, item?_natCast, hj']
    simp only [nth_toValue hi', Outcome.ok_bind, mapM_eq_pure_map cells]
    congr 1
    refine List.ext_getElem ?_ fun j hj hj' => ?_
    · simp [hi', b.length_row _ (List.getElem_mem hi')]
    · have hj'' : j < b.rows[i].length := by simpa [hi'] using hj'
      simp [hi', hj'']
  rw [Grid.table, mapM_eq_pure_map row, Outcome.pure_eq_ok]
  congr 1
  refine List.ext_getElem (by simp [height]) fun i hi hi' => ?_
  simp [hi']

theorem colorAt_rows {b : Board Value} {l : Location} (h : b.Inside l) :
    Grid.colorAt b.rows l = b.cell l := by
  have found := cell?_eq_some_cell h
  unfold cell? at found
  unfold Grid.colorAt
  split
  next row hrow =>
    rw [hrow, Option.bind_some] at found
    rw [found, Option.getD_some]
  next hrow =>
    rw [hrow] at found
    cases found

/-! ## Boards of numbers -/

theorem rows_grid (b : Board Int) : b.grid.rows = .ok (b.map Value.int).rows :=
  rows_toValue _

theorem rows_grid_eq (b : Board Int) : (b.map Value.int).rows = (List.range b.height).map fun (i : Nat) =>
    (List.range b.width).map fun (j : Nat) => Value.int (b.cell (i, j)) := by
  change b.rows.map (·.map Value.int) = _
  rw [rows_eq_map_cell, List.map_map]
  simp only [Function.comp_def, List.map_map]

theorem grid_eq_tuple (b : Board Int) : b.grid = .tuple ((List.range b.height).map fun (i : Nat) =>
    .tuple ((List.range b.width).map fun (j : Nat) => .int (b.cell (i, j)))) := by
  rw [grid, toValue, rows_grid_eq, Value.ofRows, List.map_map]
  rfl

theorem size_grid (b : Board Int) : b.grid.size = .ok b.height := by
  rw [grid, size_toValue, height_map]

theorem dimensions_grid (b : Board Int) : b.grid.dimensions = .ok (b.height, b.width) := by
  rw [grid, dimensions_toValue, height_map, width_map]

theorem table_grid (b : Board Int) :
    Grid.table b.grid b.height b.width = .ok (b.map Value.int).rows := by
  have h := table_toValue (b.map Value.int)
  rwa [height_map, width_map] at h

theorem colorAt_grid {b : Board Int} {l : Location} (h : b.Inside l) :
    Grid.colorAt (b.map Value.int).rows l = .int (b.cell l) := by
  rw [colorAt_rows (inside_map.mpr h), cell_map h]

theorem shape_grid (b : Board Int) :
    Patch.shape b.grid = .ok (.location b.height b.width) := by
  rw [grid, shape_toValue, height_map, width_map]

/-! ## The background -/

theorem colors_grid (b : Board Int) :
    Grid.colors b.grid = .ok (b.map Value.int).rows.flatten := by
  have tuple : b.grid.isTuple = true := rfl
  simp [Grid.colors, tuple, rows_grid]

/-- Passing over candidates and keeping a better one each time ends with a best one. -/
theorem foldl_keep_better {γ : Type} [LinearOrder γ] (score : Value → γ) (v : Value) (vs : List Value) :
    ∃ best ∈ v :: vs, vs.foldl (fun best v => if score best < score v then v else best) v = best ∧
      ∀ u ∈ v :: vs, score u ≤ score best := by
  induction vs generalizing v with
  | nil => exact ⟨v, List.mem_cons_self, rfl, by simp⟩
  | cons w ws ih =>
      obtain ⟨best, hmem, heq, greatest⟩ := ih (if score v < score w then w else v)
      have kept := greatest _ List.mem_cons_self
      have both : score v ≤ score best ∧ score w ≤ score best := by
        split at kept
        next less => exact ⟨less.le.trans kept, kept⟩
        next more => exact ⟨kept, (not_lt.mp more).trans kept⟩
      refine ⟨best, ?_, heq, ?_⟩
      · split at hmem <;> simp only [List.mem_cons] at hmem ⊢ <;> tauto
      · intro u hu
        rcases List.mem_cons.mp hu with rfl | hu
        · exact both.1
        · rcases List.mem_cons.mp hu with rfl | hu
          · exact both.2
          · exact greatest u (List.mem_cons_of_mem _ hu)

/-- The same for the members of a set, by a score that equal values share. -/
theorem exists_best_member {γ : Type} [LinearOrder γ] {score : Value → γ}
    (same : ∀ u v, (u == v) = true → score u = score v) {xs : List Value} (h : xs ≠ []) :
    ∃ v vs, Value.canonical xs = v :: vs ∧ ∃ best ∈ xs,
      vs.foldl (fun best v => if score best < score v then v else best) v = best ∧ ∀ u ∈ xs, score u ≤ score best := by
  obtain ⟨x, hx⟩ := List.exists_mem_of_ne_nil xs h
  obtain ⟨w, hw, -⟩ := Value.exists_mem_canonical_beq hx
  cases members : Value.canonical xs with
  | nil =>
      rw [members] at hw
      cases hw
  | cons v vs =>
      obtain ⟨best, hmem, hbest, greatest⟩ := foldl_keep_better score v vs
      rw [← members] at hmem greatest
      refine ⟨v, vs, rfl, best, Value.mem_of_mem_canonical hmem, hbest, fun u hu => ?_⟩
      obtain ⟨u', hu', equal⟩ := Value.exists_mem_canonical_beq hu
      exact same u' u equal ▸ greatest u' hu'

theorem count_eq_of_beq (xs : List Value) (u v : Value) (h : (u == v) = true) : xs.count u = xs.count v :=
  List.countP_congr fun x _ => by rw [BEq.congr_right h]

/-- The most frequent of some values is one of them, and none is more frequent. -/
theorem exists_mostFrequent {xs : List Value} (h : xs ≠ []) :
    ∃ v ∈ xs, Container.mostFrequent xs = .ok v ∧ ∀ u ∈ xs, xs.count u ≤ xs.count v := by
  obtain ⟨v, vs, members, best, mem, heq, greatest⟩ := exists_best_member (count_eq_of_beq xs) h
  refine ⟨best, mem, ?_, greatest⟩
  rw [Container.mostFrequent, members]
  exact congrArg _ heq

/-- The least frequent of some values is one of them, and none is less frequent. -/
theorem exists_leastFrequent {xs : List Value} (h : xs ≠ []) :
    ∃ v ∈ xs, Container.leastFrequent xs = .ok v ∧ ∀ u ∈ xs, xs.count v ≤ xs.count u := by
  obtain ⟨v, vs, members, best, mem, heq, greatest⟩ := exists_best_member
    (fun u v equal => congrArg OrderDual.toDual (count_eq_of_beq xs u v equal)) h
  refine ⟨best, mem, ?_, greatest⟩
  rw [Container.leastFrequent, members]
  exact congrArg _ heq

theorem flatten_ne_nil (b : Board α) : b.rows.flatten ≠ [] := by
  obtain ⟨row, hrow⟩ := List.exists_mem_of_ne_nil _ b.rows_ne_nil
  have pos : 0 < row.length := by
    rw [b.length_row row hrow]
    exact b.width_pos
  obtain ⟨c, hc⟩ := List.exists_mem_of_length_pos pos
  exact List.ne_nil_of_mem (List.mem_flatten.mpr ⟨row, hrow, hc⟩)

theorem flatten_map_int (b : Board Int) : (b.map Value.int).rows.flatten = b.rows.flatten.map .int :=
  List.map_flatten.symm

theorem count_map_int (xs : List Int) (c : Int) : (xs.map Value.int).count (.int c) = xs.count c := by
  rw [List.count, List.countP_map, List.count]
  refine List.countP_congr fun n _ => ?_
  rw [Function.comp_apply, Value.int_beq_int, decide_eq_true_iff, beq_iff_eq]

/-- A choice among values by how often they occur is a choice among the colors of a board. -/
theorem exists_chosen_color {choose : List Value → Outcome Value} {r : Nat → Nat → Prop}
    (h : ∀ xs, xs ≠ [] → ∃ v ∈ xs, choose xs = .ok v ∧ ∀ u ∈ xs, r (xs.count u) (xs.count v)) (b : Board Int) :
    ∃ n ∈ b.rows.flatten, (do choose (← Grid.colors b.grid)) = .ok (.int n) ∧
      ∀ c ∈ b.rows.flatten, r (b.rows.flatten.count c) (b.rows.flatten.count n) := by
  have some : b.rows.flatten.map Value.int ≠ [] := fun empty => b.flatten_ne_nil (List.map_eq_nil_iff.mp empty)
  obtain ⟨v, hv, heq, best⟩ := h _ some
  obtain ⟨n, hn, rfl⟩ := List.mem_map.mp hv
  refine ⟨n, hn, ?_, fun c hc => ?_⟩
  · rw [colors_grid, Outcome.ok_bind, flatten_map_int, heq]
  · rw [← count_map_int, ← count_map_int]
    exact best _ (List.mem_map_of_mem hc)

theorem exists_mostColor (b : Board Int) :
    ∃ n ∈ b.rows.flatten, Grid.mostColor b.grid = .ok (.int n) ∧
      ∀ c ∈ b.rows.flatten, b.rows.flatten.count c ≤ b.rows.flatten.count n :=
  exists_chosen_color (r := (· ≤ ·)) (fun _ => exists_mostFrequent) b

theorem exists_leastColor (b : Board Int) :
    ∃ n ∈ b.rows.flatten, Grid.leastColor b.grid = .ok (.int n) ∧
      ∀ c ∈ b.rows.flatten, b.rows.flatten.count n ≤ b.rows.flatten.count c :=
  exists_chosen_color (r := (· ≥ ·)) (fun _ => exists_leastFrequent) b

/-- The most frequent color of a board. -/
def background (b : Board Int) : Int :=
  match Grid.mostColor b.grid with
  | .ok (.int n) => n
  | _ => 0

theorem mostColor_grid (b : Board Int) : Grid.mostColor b.grid = .ok (.int b.background) := by
  obtain ⟨n, -, hn, -⟩ := b.exists_mostColor
  rw [background, hn]

/-- The background is a color of the board, and no color has more cells. -/
theorem background_greatest (b : Board Int) : b.background ∈ b.rows.flatten ∧
    ∀ c ∈ b.rows.flatten, b.rows.flatten.count c ≤ b.rows.flatten.count b.background := by
  obtain ⟨n, hn, heq, greatest⟩ := b.exists_mostColor
  have same : b.background = n := by rw [background, heq]
  rw [same]
  exact ⟨hn, greatest⟩

/-- A color that outnumbers all others is the background. -/
theorem background_eq_of_most {b : Board Int} {c : Int} (mem : c ∈ b.rows.flatten)
    (most : ∀ d ∈ b.rows.flatten, b.rows.flatten.count c ≤ b.rows.flatten.count d → d = c) :
    b.background = c := by
  obtain ⟨mem', greatest⟩ := b.background_greatest
  exact most _ mem' (greatest c mem)

end Board

end GridPuzzle
