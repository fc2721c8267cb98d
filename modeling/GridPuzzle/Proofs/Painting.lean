import GridPuzzle.Grid.Paint
import GridPuzzle.Proofs.Board
import GridPuzzle.Proofs.PatchSet

/-!
# Painting on boards

Every operation that writes into a grid runs through a list of cells. One written cell changes the board at
one location (`writeCell_rows`), and a run changes it at the locations of the list, provided the list gives
each location one color (`writeCells_rows`). What `fill`, `paint`, `canvas` and `erasePatch` make of a board
is then said cell by cell.
-/

namespace GridPuzzle

namespace Board

/-! ## Writing one cell -/

section Write

variable {α : Type} [Inhabited α]

/-- The board with a cell written at a location, if the location lies on the board and the cell there may be
written over. -/
def write (b : Board α) (writable : α → Bool) (l : Location) (a : α) : Board α :=
  b.redraw fun k => if k = l ∧ writable (b.cell k) then a else b.cell k

variable {b : Board α} {writable : α → Bool} {l : Location} {a : α}

theorem cell_write {k : Location} (h : b.Inside k) :
    (b.write writable l a).cell k = if k = l ∧ writable (b.cell k) then a else b.cell k :=
  cell_redraw h

/-- A write that does not change the cell at any location of the board does not change the board. -/
theorem write_eq_self (h : b.Inside l → ¬ writable (b.cell l)) : b.write writable l a = b := by
  refine ext_cell (height_redraw b _) rfl fun k hk => ?_
  have hk' : b.Inside k := inside_redraw.mp hk
  rw [cell_write hk', if_neg]
  rintro ⟨rfl, hwritable⟩
  exact h hk' hwritable

/-- A written cell replaces one item of one row. -/
theorem rows_write {i j : Nat} (hi : i < b.rows.length) (h : writable (b.cell (i, j))) :
    (b.write writable (i, j) a).rows = b.rows.set i (b.rows[i].set j a) := by
  have height_eq : (b.write writable (i, j) a).rows.length = b.rows.length := height_redraw b _
  refine List.ext_getElem (by rw [height_eq, List.length_set]) fun m hm hm' => ?_
  have hm'' : m < b.rows.length := height_eq ▸ hm
  have width_eq : (b.write writable (i, j) a).rows[m].length = b.width :=
    (b.write writable (i, j) a).length_row _ (List.getElem_mem hm)
  have old_width : b.rows[m].length = b.width := b.length_row _ (List.getElem_mem hm'')
  refine List.ext_getElem ?_ fun n hn hn' => ?_
  · rw [width_eq, List.getElem_set]
    split
    next eq =>
      subst eq
      rw [List.length_set, old_width]
    next => rw [old_width]
  · have hn'' : n < b.width := width_eq ▸ hn
    rw [rows_getElem_getElem hm hn, cell_write (inside_natCast hm'' hn'')]
    by_cases hrow : i = m
    · subst hrow
      by_cases hcol : j = n
      · subst hcol
        simp [h]
      · have ne : ¬ ((i : Int), (n : Int)) = (↑i, ↑j) := fun eq =>
          hcol (Int.ofNat_inj.mp (congrArg Prod.snd eq).symm)
        rw [if_neg fun h => ne h.1]
        simp [hcol, rows_getElem_getElem hm'' (old_width ▸ hn'')]
    · have ne : ¬ ((m : Int), (n : Int)) = (↑i, ↑j) := fun eq =>
        hrow (Int.ofNat_inj.mp (congrArg Prod.fst eq).symm)
      rw [if_neg fun h => ne h.1]
      simp [hrow, rows_getElem_getElem hm'' (old_width ▸ hn'')]

end Write

section Grids

variable {writable : Value → Bool}

theorem inside_toValue {α : Type} (b : Board α) (l : Location) :
    (Value.int l.1).inside (.int l.2) b.height b.width = .ok (decide (b.Inside l)) := by
  by_cases hrow : 0 ≤ l.1 ∧ l.1 < b.height
  · simp [Value.inside, Value.isBelow, Inside, hrow]
  · simp [Value.inside, Value.isBelow, Inside, hrow]

theorem writeCell_rows (b : Board Value) (color : Value) (l : Location) :
    Grid.writeCell b.height b.width writable b.rows (color, .int l.1, .int l.2) =
      .ok (b.write writable l color).rows := by
  by_cases h : b.Inside l
  · obtain ⟨i, j, hi, hj, rfl⟩ := h.exists_natCast
    have hi' : i < b.rows.length := hi
    have hj' : j < b.rows[i].length := by rwa [b.length_row _ (List.getElem_mem hi')]
    have old : b.rows[i][j] = b.cell (i, j) := rows_getElem_getElem hi' hj'
    have written : (b.write writable (i, j) color).rows =
        if writable (b.cell (i, j)) then b.rows.set i (b.rows[i].set j color) else b.rows := by
      split
      next hw => exact rows_write hi' hw
      next hw => rw [write_eq_self fun _ => hw]
    have inside : (Value.int i).inside (.int j) b.height b.width = .ok true := by
      rw [inside_toValue b (i, j), decide_eq_true h]
    simp [Grid.writeCell, inside, hi', hj', old, written]
  · rw [write_eq_self fun h' => absurd h' h]
    simp [Grid.writeCell, inside_toValue, h]

/-! ## Writing many cells -/

/-- A run of writes gives each location of its list the color that the list has for it, where the color
before the run may be written over. -/
theorem writeCells_rows (b : Board Value) (writable : Value → Bool)
    {read : Value → Outcome (Value × Value × Value)}
    (place : Value → Location) (color : Location → Value) {targets : List Value}
    (hread : ∀ v ∈ targets, read v = .ok (color (place v), .int (place v).1, .int (place v).2)) :
    Grid.writeCells b.height b.width writable b.rows read targets =
      .ok (b.redraw fun l =>
        if l ∈ targets.map place ∧ writable (b.cell l) then color l else b.cell l).rows := by
  induction targets generalizing b with
  | nil =>
      have same : (b.redraw fun l =>
          if l ∈ ([] : List Value).map place ∧ writable (b.cell l) then color l else b.cell l) = b := by
        simpa using b.redraw_cell
      rw [same]
      rfl
  | cons v vs ih =>
      have hv := hread v List.mem_cons_self
      have hvs := ih (b.write writable (place v) (color (place v)))
        fun u hu => hread u (List.mem_cons_of_mem v hu)
      rw [write, height_redraw, width_redraw, ← write] at hvs
      rw [Grid.writeCells, List.foldlM_cons, hv, Outcome.ok_bind, writeCell_rows, Outcome.ok_bind]
      rw [Grid.writeCells] at hvs
      rw [hvs]
      congr 2
      refine ext_cell (by simp [write]) rfl fun l hl => ?_
      have hl' : b.Inside l := by simpa [write] using hl
      rw [cell_redraw (b := b.write _ _ _) (by simpa [write] using hl'), cell_redraw hl', cell_write hl']
      by_cases here : l = place v
      · -- A location written before is written again with its one color, or left with it.
        subst here
        by_cases hw : writable (b.cell (place v)) <;> simp [hw]
      · simp [here]

end Grids

/-! ## Fills, paintings and canvases -/

section Numbers

variable {P : Location → Prop} [DecidablePred P] (g : Board Int)

theorem ofRows_map_int : Value.ofRows (g.map .int).rows = g.grid :=
  rfl

theorem map_redraw {α β γ : Type} (b : Board α) (f : Location → β) (h : β → γ) :
    (b.redraw f).map h = b.redraw (h ∘ f) := by
  simp [map, redraw, tabulate, Function.comp_def]

/-- A run of writes without a condition, on a board of numbers. The list has one item for each location with a
property, and the item is read as a color at that location. -/
theorem writeCells_grid (read : Value → Outcome (Value × Value × Value)) {item : Location → Value}
    (place : Value → Location) (color : Location → Int) {targets : List Value}
    (htargets : ∀ v, v ∈ targets ↔ ∃ l, P l ∧ v = item l) (hplace : ∀ l, place (item l) = l)
    (hread : ∀ l, read (item l) = .ok (.int (color l), .int l.1, .int l.2)) :
    Grid.writeCells g.height g.width (fun _ => true) (g.map .int).rows read targets =
      .ok ((g.redraw fun l => if P l then color l else g.cell l).map .int).rows := by
  have hread' : ∀ v ∈ targets,
      read v = .ok (.int (color (place v)), .int (place v).1, .int (place v).2) := by
    intro v hv
    obtain ⟨l, -, rfl⟩ := (htargets v).mp hv
    rw [hplace, hread]
  have hmem : ∀ l, l ∈ targets.map place ↔ P l := by
    intro l
    constructor
    · intro hl
      obtain ⟨v, hv, rfl⟩ := List.mem_map.mp hl
      obtain ⟨k, hk, rfl⟩ := (htargets v).mp hv
      rwa [hplace]
    · intro hl
      exact List.mem_map.mpr ⟨item l, (htargets _).mpr ⟨l, hl, rfl⟩, hplace l⟩
  have written := writeCells_rows (g.map .int) (fun _ => true) place (fun l => .int (color l)) hread'
  rw [height_map, width_map] at written
  rw [written, map_redraw]
  congr 2
  refine ext_cell (by simp) rfl fun l hl => ?_
  have hl' : g.Inside l := by simpa using hl
  rw [cell_redraw (inside_map.mpr hl'), cell_redraw hl', cell_map hl', Function.comp_apply]
  simp only [hmem, and_true]
  split <;> rfl

/-- A patch filled with a color: the board has the color at the locations of the patch and is unchanged
elsewhere. -/
theorem fill_grid {patch : Value} (h : patch.IsPatch P) (c : Int) :
    Grid.fill g.grid (.int c) patch = .ok (g.redraw fun l => if P l then c else g.cell l).grid := by
  obtain ⟨items, hitems, hmem⟩ := h.exists_locationItems
  have written := writeCells_grid g (Grid.cellOf (.int c)) Value.toLocation (fun _ => c) hmem
    (fun _ => rfl) fun _ => rfl
  simp [Grid.fill, dimensions_grid, rows_grid, hitems, written, ofRows_map_int]

/-- An object painted: the board has the object's color at each of its locations and is unchanged
elsewhere. -/
theorem paint_grid {object : Value} {color : Location → Int}
    (h : object.IsCellSet fun c l => P l ∧ c = color l) :
    Grid.paint g.grid object =
      .ok (g.redraw fun l => if P l then color l else g.cell l).grid := by
  have hmem : ∀ v, v ∈ object.itemList ↔ ∃ l, P l ∧ v = .pair (.int (color l)) l.toValue := by
    intro v
    rw [h.mem_itemList]
    constructor
    · rintro ⟨c, l, ⟨hl, rfl⟩, rfl⟩
      exact ⟨l, hl, rfl⟩
    · rintro ⟨l, hl, rfl⟩
      exact ⟨color l, l, ⟨hl, rfl⟩, rfl⟩
  have written := writeCells_grid g Value.cellParts (fun v => v.placeOf.toLocation) color hmem
    (fun _ => rfl) fun _ => rfl
  simp [Grid.paint, dimensions_grid, rows_grid, Value.IsSetOf.items h, written, ofRows_map_int]

/-- An object with one color at each of its locations, painted: the order in which its cells are written does
not show. -/
theorem exists_paint {object : Value} {R : Int → Location → Prop} (h : object.IsCellSet R)
    (unique : ∀ c c' l, R c l → R c' l → c = c') :
    ∃ out : Board Int, Grid.paint g.grid object = .ok out.grid ∧
      out.height = g.height ∧ out.width = g.width ∧ ∀ l, g.Inside l →
        (∀ c, R c l → out.cell l = c) ∧ ((∀ c, ¬ R c l) → out.cell l = g.cell l) := by
  classical
  let color (l : Location) : Int := if some : ∃ c, R c l then some.choose else 0
  have color_eq {c : Int} {l : Location} (hR : R c l) : c = color l := by
    have some : ∃ c, R c l := ⟨c, hR⟩
    have chosen : color l = some.choose := dif_pos some
    rw [chosen]
    exact unique c some.choose l hR some.choose_spec
  have colors : object.IsCellSet fun c l => (∃ c, R c l) ∧ c = color l := by
    refine h.congr fun v => exists_congr fun c => exists_congr fun l => and_congr_left' ⟨?_, ?_⟩
    · intro hR
      exact ⟨⟨c, hR⟩, color_eq hR⟩
    · intro hR
      obtain ⟨⟨c', hR⟩, rfl⟩ := hR
      rwa [← color_eq hR]
  refine ⟨_, paint_grid g colors, height_redraw g _, rfl, fun l hl => ⟨fun c hR => ?_, fun none => ?_⟩⟩
  · rw [cell_redraw hl, if_pos ⟨c, hR⟩, color_eq hR]
  · rw [cell_redraw hl, if_neg fun ⟨c, hR⟩ => none c hR]

/-- A canvas of given dimensions. -/
theorem canvas_uniform {height width : Nat} (hheight : 0 < height) (hwidth : 0 < width) (c : Int) :
    Grid.canvas (.int c) (.location height width) = .ok (uniform hheight hwidth c).grid := by
  have row : ∀ i ∈ List.range height,
      (Except.ok (List.replicate width (.int c)) : Outcome (List Value)) =
        pure (List.replicate width (.int c)) :=
    fun _ _ => rfl
  simp [Grid.canvas, mapM_eq_pure_map row, grid, toValue, map, uniform, tabulate]

/-- The canvas with the dimensions of a board. -/
theorem canvas_grid (c : Int) :
    Grid.canvas (.int c) (.location g.height g.width) = .ok (g.redraw fun _ => c).grid :=
  canvas_uniform g.height_pos g.width_pos c

/-- A patch erased: the board has its most frequent color at the locations of the patch. -/
theorem erasePatch_grid {patch : Value} (h : patch.IsPatch P) :
    Grid.erasePatch g.grid patch =
      .ok (g.redraw fun l => if P l then g.background else g.cell l).grid := by
  obtain ⟨places, hplaces, hset⟩ := h
  rw [Grid.erasePatch, mostColor_grid, Outcome.ok_bind, hplaces, Outcome.ok_bind,
    fill_grid g hset.isPatch]

end Numbers

end Board

end GridPuzzle
