import GridPuzzle.Grid.Cell
import GridPuzzle.Grid.Line
import GridPuzzle.Grid.Paint
import GridPuzzle.Grid.Part
import GridPuzzle.Grid.Scale
import GridPuzzle.Proofs.PatchFigure
import GridPuzzle.Proofs.Symmetry

/-!
# Rectangular grids

Operations on grids take the number of columns from the first row. A grid is rectangular if that is right for
all rows (`Value.IsGrid`); it may be empty. Each operation gives a rectangular grid again, with colors that the
grid had or that were passed to the operation. What it is given besides the grid may be any value, and then
there need not be a result: there is one lemma for each operation, and it says that a result is rectangular.

Most operations treat rows alike, so it is enough that rows of one length give rows of one length
(`isGrid_of_mapM`). Turns take rows to columns; those have one length for any rows (`IsTable.columns`).
-/

namespace GridPuzzle

/-- An item of a column is one of the table. -/
theorem Table.exists_mem_of_mem_columns {α : Type} {rows : List (List α)} {column : List α} {x : α}
    (hcolumn : column ∈ columns rows) (hx : x ∈ column) : ∃ row ∈ rows, x ∈ row := by
  fun_induction columns rows generalizing column with
  | case1 => cases hcolumn
  | case2 row =>
      obtain ⟨y, hy, rfl⟩ := List.mem_map.mp hcolumn
      rw [List.mem_singleton] at hx
      exact ⟨row, List.mem_cons_self, hx ▸ hy⟩
  | case3 row rest ne ih =>
      rw [← List.map_uncurry_zip_eq_zipWith] at hcolumn
      obtain ⟨⟨y, other⟩, hmem, rfl⟩ := List.mem_map.mp hcolumn
      have split := List.of_mem_zip hmem
      rcases List.mem_cons.mp hx with rfl | hx
      · exact ⟨row, List.mem_cons_self, split.1⟩
      · obtain ⟨row', hrow', hmem'⟩ := ih split.2 hx
        exact ⟨row', List.mem_cons_of_mem row hrow', hmem'⟩

theorem Table.mem_of_mem_slice {α : Type} {xs : List α} {start stop : Int} {x : α}
    (h : x ∈ slice xs start stop) : x ∈ xs :=
  List.mem_of_mem_take (List.mem_of_mem_drop h)

/-- The length of a part depends only on the length of the list. -/
theorem Table.length_slice {α β : Type} {xs : List α} {ys : List β} (h : xs.length = ys.length)
    {start stop : Int} : (slice xs start stop).length = (slice ys start stop).length := by
  simp only [slice, List.length_drop, List.length_take, h]

theorem Table.mem_of_item? {α : Type} {xs : List α} {position : Int} {x : α}
    (h : item? xs position = some x) : x ∈ xs := by
  simp only [item?] at h
  split at h
  · cases h
  · exact List.mem_of_getElem? h

/-- A table with rows of one length, all items of which have a property. -/
def IsTable (C : Value → Prop) (width : Nat) (rows : List (List Value)) : Prop :=
  ∀ row ∈ rows, row.length = width ∧ ∀ c ∈ row, C c

namespace IsTable

variable {C D : Value → Prop} {width : Nat} {rows : List (List Value)}

theorem reverse (h : IsTable C width rows) : IsTable C width rows.reverse :=
  fun row hrow => h row (List.mem_reverse.mp hrow)

theorem map {width' : Nat} {f : List Value → List Value} (h : IsTable C width rows)
    (length : ∀ row, row.length = width → (f row).length = width')
    (colors : ∀ row, (∀ c ∈ row, C c) → ∀ c ∈ f row, D c) : IsTable D width' (rows.map f) := by
  intro row hrow
  obtain ⟨row, hmem, rfl⟩ := List.mem_map.mp hrow
  exact ⟨length row (h row hmem).1, colors row (h row hmem).2⟩

theorem map_reverse (h : IsTable C width rows) : IsTable C width (rows.map List.reverse) :=
  h.map (fun row hrow => by rw [List.length_reverse, hrow]) fun row hrow c hc =>
    hrow c (List.mem_reverse.mp hc)

theorem columns (h : IsTable C width rows) : IsTable C rows.length (Table.columns rows) := by
  intro column hcolumn
  refine ⟨Table.length_of_mem_columns hcolumn, fun c hc => ?_⟩
  obtain ⟨row, hrow, hmem⟩ := Table.exists_mem_of_mem_columns hcolumn hc
  exact (h row hrow).2 c hmem

/-- A table with one cell replaced. -/
theorem set (h : IsTable C width rows) {i j : Nat} {cells : List Value} (hcells : rows[i]? = some cells)
    {c : Value} (hc : C c) : IsTable C width (rows.set i (cells.set j c)) := by
  intro row hrow
  rcases List.mem_or_eq_of_mem_set hrow with hrow | rfl
  · exact h row hrow
  · obtain ⟨length, colors⟩ := h cells (List.mem_of_getElem? hcells)
    refine ⟨by rw [List.length_set, length], fun x hx => ?_⟩
    rcases List.mem_or_eq_of_mem_set hx with hx | rfl
    · exact colors x hx
    · exact hc

theorem writeCell (h : IsTable C width rows) {height columns : Nat} {writable : Value → Bool}
    {cell : Value × Value × Value} (hc : C cell.1) {rows' : List (List Value)}
    (heq : Grid.writeCell height columns writable rows cell = .ok rows') : IsTable C width rows' := by
  obtain ⟨color, row, column⟩ := cell
  simp only [Grid.writeCell, Outcome.bind_eq_ok] at heq
  obtain ⟨inside, -, heq⟩ := heq
  split at heq
  · simp only [Outcome.bind_eq_ok] at heq
    obtain ⟨i, -, j, -, heq⟩ := heq
    split at heq
    next cells hcells =>
      split at heq
      · cases heq
        split
        · exact h.set hcells hc
        · exact h
      · cases heq
    next => cases heq
  · cases heq
    exact h

theorem writeCells (h : IsTable C width rows) {height columns : Nat} {writable : Value → Bool}
    {read : Value → Outcome (Value × Value × Value)} {targets : List Value}
    (hc : ∀ v ∈ targets, ∀ cell, read v = .ok cell → C cell.1) {rows' : List (List Value)}
    (heq : Grid.writeCells height columns writable rows read targets = .ok rows') : IsTable C width rows' := by
  refine Outcome.foldlM_preserves (p := IsTable C width) (fun rows v hv rows' table step => ?_) h heq
  obtain ⟨cell, hcell, step⟩ := Outcome.bind_eq_ok.mp step
  exact table.writeCell (hc v hv cell hcell) step

end IsTable

namespace Value

/-- A row of a number of cells whose colors have a property. -/
def IsRow (C : Value → Prop) (width : Nat) (v : Value) : Prop :=
  ∃ cells, v = .tuple cells ∧ cells.length = width ∧ ∀ c ∈ cells, C c

/-- A grid with rows of one length whose colors have a property. -/
def IsGrid (C : Value → Prop) (v : Value) : Prop :=
  ∃ rows width, v = .ofRows rows ∧ IsTable C width rows

variable {C D : Value → Prop} {g g' v w : Value} {width : Nat} {rows : List (List Value)}

theorem IsGrid.mono (h : g.IsGrid C) (weaker : ∀ c, C c → D c) : g.IsGrid D := by
  obtain ⟨rows, width, rfl, table⟩ := h
  exact ⟨rows, width, rfl, fun row hrow => ⟨(table row hrow).1, fun c hc => weaker c ((table row hrow).2 c hc)⟩⟩

theorem isGrid_tuple (width : Nat) {vs : List Value} (h : ∀ v ∈ vs, v.IsRow C width) :
    (Value.tuple vs).IsGrid C := by
  refine ⟨vs.map itemList, width, ?_, fun row hrow => ?_⟩
  · rw [ofRows, List.map_map]
    refine congrArg Value.tuple ?_
    conv_lhs => rw [← List.map_id vs]
    refine List.map_congr_left fun v hv => ?_
    obtain ⟨cells, rfl, -⟩ := h v hv
    rfl
  · obtain ⟨v, hv, rfl⟩ := List.mem_map.mp hrow
    obtain ⟨cells, rfl, length, colors⟩ := h v hv
    exact ⟨length, colors⟩

theorem IsGrid.exists_tuple (h : g.IsGrid C) :
    ∃ vs width, g = .tuple vs ∧ ∀ v ∈ vs, v.IsRow C width := by
  obtain ⟨rows, width, rfl, table⟩ := h
  refine ⟨rows.map .tuple, width, rfl, fun v hv => ?_⟩
  obtain ⟨row, hrow, rfl⟩ := List.mem_map.mp hv
  exact ⟨row, rfl, table row hrow⟩

theorem rows_ofRows (rows : List (List Value)) : (ofRows rows).rows = .ok rows := by
  change (rows.map Value.tuple).mapM Value.items = _
  rw [mapM_tuple (g := id) rows fun _ => rfl, List.map_id]

/-! ## Turns and flips -/

/-- Turns and flips of rectangular grids. -/
theorem IsGrid.turn (h : g.IsGrid C) (s : Symmetry) (heq : s.apply g = .ok v) : v.IsGrid C := by
  obtain ⟨rows, width, rfl, table⟩ := h
  rw [s.apply_ofRows] at heq
  cases heq
  cases s with
  | identity => exact ⟨_, _, rfl, table⟩
  | rotateRight => exact ⟨_, _, rfl, table.reverse.columns⟩
  | rotateHalf => exact ⟨_, _, rfl, table.reverse.map_reverse⟩
  | rotateLeft => exact ⟨_, _, rfl, table.reverse.columns.map_reverse.reverse⟩
  | flip f =>
      cases f with
      | rows => exact ⟨_, _, rfl, table.reverse⟩
      | columns => exact ⟨_, _, rfl, table.map_reverse⟩
      | diagonal => exact ⟨_, _, rfl, table.columns⟩
      | antidiagonal => exact ⟨_, _, rfl, table.reverse.map_reverse.columns⟩

/-! ## Writing -/

/-- The value is the color of a cell of an object. -/
def IsCellColor (object color : Value) : Prop :=
  ∃ cells, object.items = .ok cells ∧ ∃ v ∈ cells, ∃ place, v.cellParts = .ok (color, place)

/-- Cells written into a grid, each read off an item of a list. -/
theorem IsGrid.write (h : g.IsGrid C) (hrows : g.rows = .ok rows) {height columns : Nat}
    {writable : Value → Bool} {read : Value → Outcome (Value × Value × Value)} {targets : List Value}
    (hc : ∀ v ∈ targets, ∀ cell, read v = .ok cell → C cell.1) {rows' : List (List Value)}
    (heq : Grid.writeCells height columns writable rows read targets = .ok rows') :
    (ofRows rows').IsGrid C := by
  obtain ⟨rows, width, rfl, table⟩ := h
  rw [rows_ofRows] at hrows
  cases hrows
  exact ⟨rows', width, rfl, table.writeCells hc heq⟩

theorem color_of_cellOf {color : Value} {cell : Value × Value × Value} (h : Grid.cellOf color v = .ok cell) :
    cell.1 = color := by
  obtain ⟨place, -, h⟩ := Outcome.bind_eq_ok.mp h
  cases h
  rfl

theorem IsGrid.fill (h : g.IsGrid C) {color patch : Value} (hc : C color)
    (heq : Grid.fill g color patch = .ok v) : v.IsGrid C := by
  simp only [Grid.fill, Outcome.bind_eq_ok] at heq
  obtain ⟨_, -, rows, hrows, targets, -, rows', hrows', heq⟩ := heq
  cases heq
  exact h.write hrows (fun _ _ _ hcell => color_of_cellOf hcell ▸ hc) hrows'

theorem IsGrid.fillUnder (h : g.IsGrid C) {color patch : Value} (hc : C color)
    (heq : Grid.fillUnder g color patch = .ok v) : v.IsGrid C := by
  simp only [Grid.fillUnder, Outcome.bind_eq_ok] at heq
  obtain ⟨_, -, _, -, rows, hrows, targets, -, rows', hrows', heq⟩ := heq
  cases heq
  exact h.write hrows (fun _ _ _ hcell => color_of_cellOf hcell ▸ hc) hrows'

theorem IsGrid.paint (h : g.IsGrid C) {object : Value} (hc : ∀ c, object.IsCellColor c → C c)
    (heq : Grid.paint g object = .ok v) : v.IsGrid C := by
  simp only [Grid.paint, Outcome.bind_eq_ok] at heq
  obtain ⟨_, -, rows, hrows, cells, hcells, rows', hrows', heq⟩ := heq
  cases heq
  exact h.write hrows (fun v hv cell hcell => hc _ ⟨cells, hcells, v, hv, cell.2, hcell⟩) hrows'

theorem IsGrid.paintUnder (h : g.IsGrid C) {object : Value} (hc : ∀ c, object.IsCellColor c → C c)
    (heq : Grid.paintUnder g object = .ok v) : v.IsGrid C := by
  simp only [Grid.paintUnder, Outcome.bind_eq_ok] at heq
  obtain ⟨_, -, _, -, rows, hrows, cells, hcells, rows', hrows', heq⟩ := heq
  cases heq
  exact h.write hrows (fun v hv cell hcell => hc _ ⟨cells, hcells, v, hv, cell.2, hcell⟩) hrows'

/-- The most frequent color of a grid is one of its colors. -/
theorem IsGrid.mostColor (h : g.IsGrid C) {c : Value} (heq : Grid.mostColor g = .ok c) : C c := by
  obtain ⟨rows, width, rfl, table⟩ := h
  have colors : Grid.colors (ofRows rows) = .ok rows.flatten := by
    rw [Grid.colors, rows_ofRows]
    rfl
  rw [Grid.mostColor, colors, Outcome.ok_bind] at heq
  by_cases some : rows.flatten = []
  · simp [some, Container.mostFrequent, canonical] at heq
  · obtain ⟨d, hd, heq', -⟩ := Board.exists_mostFrequent some
    obtain rfl : c = d := Except.ok.inj (heq.symm.trans heq')
    obtain ⟨row, hrow, hmem⟩ := List.mem_flatten.mp hd
    exact (table row hrow).2 c hmem

theorem IsGrid.erasePatch (h : g.IsGrid C) {patch : Value} (heq : Grid.erasePatch g patch = .ok v) :
    v.IsGrid C := by
  simp only [Grid.erasePatch, Outcome.bind_eq_ok] at heq
  obtain ⟨background, hbackground, places, -, heq⟩ := heq
  exact h.fill (h.mostColor hbackground) heq

/-- A number added to a value gives a number. -/
theorem exists_int_of_add {n : Int} (h : v.add (.int n) = .ok w) : ∃ m, w = .int m := by
  have numbers : onNumbers (· + ·) v (.int n) = .ok w := by
    cases v <;> exact h
  simp only [onNumbers, Outcome.bind_eq_ok] at numbers
  obtain ⟨_, -, _, -, heq⟩ := numbers
  cases heq
  exact ⟨_, rfl⟩

/-- A shifted object has no other colors than the object. -/
theorem IsCellColor.of_shift {object color : Value} {d : Location}
    (heq : Patch.shift object d.toValue = .ok w) (h : w.IsCellColor color) : object.IsCellColor color := by
  simp only [Patch.shift, Outcome.bind_eq_ok] at heq
  obtain ⟨size, -, heq⟩ := heq
  split at heq
  · cases heq
    exact h
  · simp only [parts_toValue, Outcome.ok_bind, Patch.relocate, Outcome.bind_eq_ok] at heq
    obtain ⟨cells, -, heq⟩ := heq
    obtain ⟨members, hmembers, x, hx, place, hplace⟩ := h
    split at heq
    · simp only [Outcome.bind_eq_ok] at heq
      obtain ⟨items, hitems, moved, hmoved, heq⟩ := heq
      cases heq
      cases hmembers
      obtain ⟨v, hv, hvx⟩ := Outcome.exists_of_mem_mapM hmoved (mem_of_mem_canonical hx)
      simp only [Outcome.bind_eq_ok] at hvx
      obtain ⟨cell, hcell, _, -, hvx⟩ := hvx
      cases hvx
      cases hplace
      exact ⟨items, hitems, v, hv, cell.2, hcell⟩
    · -- A shifted location is no cell, since its second part is a number.
      simp only [Outcome.bind_eq_ok] at heq
      obtain ⟨items, hitems, moved, hmoved, heq⟩ := heq
      cases heq
      cases hmembers
      obtain ⟨v, hv, hvx⟩ := Outcome.exists_of_mem_mapM hmoved (mem_of_mem_canonical hx)
      simp only [Outcome.bind_eq_ok] at hvx
      obtain ⟨l, -, _, ⟨row, -, column, hcolumn, hl⟩, hvx⟩ := hvx
      obtain ⟨m, rfl⟩ := exists_int_of_add hcolumn
      cases hl
      cases hvx
      cases hplace

theorem IsGrid.move (h : g.IsGrid C) {object : Value} {d : Location}
    (hc : ∀ c, object.IsCellColor c → C c) (heq : Grid.move g object d.toValue = .ok v) : v.IsGrid C := by
  simp only [Grid.move, Outcome.bind_eq_ok] at heq
  obtain ⟨erased, herased, shifted, hshifted, heq⟩ := heq
  exact (h.erasePatch herased).paint (fun c color => hc c (color.of_shift hshifted)) heq

/-! ## Parts -/

theorem IsGrid.slice (h : g.IsGrid C) {start stop : Value} (heq : g.slice start stop = .ok v) : v.IsGrid C := by
  obtain ⟨vs, width, rfl, rows⟩ := h.exists_tuple
  simp only [Value.slice, tupleItems, Outcome.ok_bind, Outcome.bind_eq_ok] at heq
  obtain ⟨first, -, last, -, heq⟩ := heq
  cases heq
  exact isGrid_tuple width fun v hv => rows v (Table.mem_of_mem_slice hv)

/-- The number of items of a part of a row, which depends on the row only by its length. -/
def sliceLength (width : Nat) (start stop : Value) : Nat :=
  (Table.slice (List.replicate width ()) (start.number.toOption.getD 0) (stop.number.toOption.getD 0)).length

theorem IsRow.slice (h : v.IsRow C width) {start stop : Value} (heq : v.slice start stop = .ok w) :
    w.IsRow C (sliceLength width start stop) := by
  obtain ⟨cells, rfl, length, colors⟩ := h
  simp only [Value.slice, tupleItems, Outcome.ok_bind, Outcome.bind_eq_ok] at heq
  obtain ⟨first, hfirst, last, hlast, heq⟩ := heq
  cases heq
  refine ⟨_, rfl, ?_, fun c hc => colors c (Table.mem_of_mem_slice hc)⟩
  rw [sliceLength, hfirst, hlast]
  exact Table.length_slice (by rw [length, List.length_replicate])

/-- A computation on each row whose results have one length if the rows have. -/
theorem isGrid_of_mapM {f : Value → Outcome Value} {vs ws : List Value} (hvs : ∀ v ∈ vs, v.IsRow C width)
    (heq : vs.mapM f = .ok ws)
    (hf : ∀ v w, v.IsRow C width → f v = .ok w →
      ∃ width', ∀ v' w', v'.IsRow C width → f v' = .ok w' → w'.IsRow D width') :
    (Value.tuple ws).IsGrid D := by
  cases hws : ws with
  | nil => exact ⟨[], 0, rfl, fun _ hrow => absurd hrow List.not_mem_nil⟩
  | cons w rest =>
      -- The length of the first result is that of all.
      obtain ⟨v, hv, hw⟩ := Outcome.exists_of_mem_mapM heq (hws ▸ List.mem_cons_self)
      obtain ⟨width', each⟩ := hf v w (hvs v hv) hw
      have rows : ∀ w' ∈ ws, w'.IsRow D width' := by
        intro w' hw'
        obtain ⟨v', hv', heq'⟩ := Outcome.exists_of_mem_mapM heq hw'
        exact each v' w' (hvs v' hv') heq'
      exact hws ▸ isGrid_tuple width' rows

theorem IsGrid.crop (h : g.IsGrid C) {start dimensions : Value}
    (heq : Grid.crop g start dimensions = .ok v) : v.IsGrid C := by
  simp only [Grid.crop, Outcome.bind_eq_ok] at heq
  obtain ⟨top, -, _, -, bottom, -, sliced, hsliced, rows, hrows, parts, hparts, heq⟩ := heq
  cases heq
  obtain ⟨vs, width, rfl, hvs⟩ := (h.slice hsliced).exists_tuple
  cases hrows
  refine isGrid_of_mapM hvs hparts fun v w hv hw => ?_
  simp only [Outcome.bind_eq_ok] at hw
  obtain ⟨left, hleft, count, hcount, right, hright, -⟩ := hw
  refine ⟨sliceLength width left right, fun v' w' hv' hw' => ?_⟩
  rw [hleft, Outcome.ok_bind, hcount, Outcome.ok_bind, hright, Outcome.ok_bind] at hw'
  exact hv'.slice hw'

theorem IsGrid.cropTo (h : g.IsGrid C) {patch : Value} (heq : Grid.cropTo patch g = .ok v) : v.IsGrid C := by
  simp only [Grid.cropTo, Outcome.bind_eq_ok] at heq
  obtain ⟨corner, -, shape, -, heq⟩ := heq
  exact h.crop heq

theorem IsGrid.trim (h : g.IsGrid C) (heq : Grid.trim g = .ok v) : v.IsGrid C := by
  simp only [Grid.trim, Outcome.bind_eq_ok] at heq
  obtain ⟨sliced, hsliced, rows, hrows, parts, hparts, heq⟩ := heq
  cases heq
  obtain ⟨vs, width, rfl, hvs⟩ := (h.slice hsliced).exists_tuple
  cases hrows
  exact isGrid_of_mapM hvs hparts fun _ _ _ _ => ⟨_, fun _ _ hv' hw' => hv'.slice hw'⟩

theorem IsGrid.topHalf (h : g.IsGrid C) (heq : Grid.topHalf g = .ok v) : v.IsGrid C := by
  obtain ⟨height, -, heq⟩ := Outcome.bind_eq_ok.mp heq
  exact h.slice heq

theorem IsGrid.bottomHalf (h : g.IsGrid C) (heq : Grid.bottomHalf g = .ok v) : v.IsGrid C := by
  obtain ⟨height, -, heq⟩ := Outcome.bind_eq_ok.mp heq
  exact h.slice heq

theorem IsGrid.leftHalf (h : g.IsGrid C) (heq : Grid.leftHalf g = .ok v) : v.IsGrid C := by
  simp only [Grid.leftHalf, Outcome.bind_eq_ok] at heq
  obtain ⟨turned, hturned, half, hhalf, heq⟩ := heq
  exact ((h.turn .rotateRight hturned).topHalf hhalf).turn .rotateLeft heq

theorem IsGrid.rightHalf (h : g.IsGrid C) (heq : Grid.rightHalf g = .ok v) : v.IsGrid C := by
  simp only [Grid.rightHalf, Outcome.bind_eq_ok] at heq
  obtain ⟨turned, hturned, half, hhalf, heq⟩ := heq
  exact ((h.turn .rotateRight hturned).bottomHalf hhalf).turn .rotateLeft heq

/-- Each of the parts side by side is rectangular. -/
theorem IsGrid.splitColumns (h : g.IsGrid C) {count : Value} (heq : Grid.splitColumns g count = .ok v) :
    ∃ parts, v = .tuple parts ∧ ∀ part ∈ parts, part.IsGrid C := by
  simp only [Grid.splitColumns, Outcome.bind_eq_ok] at heq
  obtain ⟨height, -, row, -, columns, -, stride, -, number, -, parts, hparts, heq⟩ := heq
  cases heq
  refine ⟨parts, rfl, fun part hpart => ?_⟩
  obtain ⟨i, -, hi⟩ := Outcome.exists_of_mem_mapM hparts hpart
  exact h.crop hi

/-- Each of the parts one above the other is rectangular. -/
theorem IsGrid.splitRows (h : g.IsGrid C) {count : Value} (heq : Grid.splitRows g count = .ok v) :
    ∃ parts, v = .tuple parts ∧ ∀ part ∈ parts, part.IsGrid C := by
  simp only [Grid.splitRows, Outcome.bind_eq_ok] at heq
  obtain ⟨height, -, stride, -, row, -, columns, -, number, -, parts, hparts, heq⟩ := heq
  cases heq
  refine ⟨parts, rfl, fun part hpart => ?_⟩
  obtain ⟨i, -, hi⟩ := Outcome.exists_of_mem_mapM hparts hpart
  exact h.crop hi

/-! ## Scaling -/

/-- The number of copies that a factor makes; a value that is no factor makes none. -/
def copyCount (factor : Value) : Nat :=
  (factor.number.toOption.getD 0).toNat

theorem eq_of_copies {α : Type} {factor : Value} {x : α} {xs : List α} (h : Grid.copies factor x = .ok xs) :
    xs = List.replicate factor.copyCount x := by
  obtain ⟨n, hn, h⟩ := Outcome.bind_eq_ok.mp h
  cases h
  rw [copyCount, hn]
  rfl

theorem length_flatten_replicate {α : Type} (n : Nat) (xs : List α) :
    (xs.map (List.replicate n)).flatten.length = xs.length * n := by
  induction xs with
  | nil => simp
  | cons x xs ih =>
      rw [List.map_cons, List.flatten_cons, List.length_append, ih, List.length_replicate, List.length_cons,
        Nat.succ_mul, Nat.add_comm]

theorem mem_of_mem_flatten_replicate {α : Type} {n : Nat} {xs : List α} {x : α}
    (h : x ∈ (xs.map (List.replicate n)).flatten) : x ∈ xs := by
  obtain ⟨ys, hys, hx⟩ := List.mem_flatten.mp h
  obtain ⟨y, hy, rfl⟩ := List.mem_map.mp hys
  rwa [List.eq_of_mem_replicate hx]

theorem IsRow.stretch (h : v.IsRow C width) {factor : Value} (heq : Grid.stretchRow factor v = .ok w) :
    w.IsRow C (width * factor.copyCount) := by
  obtain ⟨cells, rfl, length, colors⟩ := h
  simp only [Grid.stretchRow, items, Outcome.ok_bind, Outcome.bind_eq_ok] at heq
  obtain ⟨parts, hparts, heq⟩ := heq
  cases heq
  rw [Outcome.eq_map_of_mapM (fun _ _ _ hx => eq_of_copies hx) hparts]
  refine ⟨_, rfl, ?_, fun c hc => colors c (mem_of_mem_flatten_replicate hc)⟩
  rw [length_flatten_replicate, length]

theorem IsGrid.stretchColumns (h : g.IsGrid C) {factor : Value}
    (heq : Grid.stretchColumns g factor = .ok v) : v.IsGrid C := by
  obtain ⟨vs, width, rfl, hvs⟩ := h.exists_tuple
  simp only [Grid.stretchColumns, items, Outcome.ok_bind, Outcome.bind_eq_ok] at heq
  obtain ⟨rows, hrows, heq⟩ := heq
  cases heq
  exact isGrid_of_mapM hvs hrows fun _ _ _ _ => ⟨_, fun _ _ hv' hw' => hv'.stretch hw'⟩

theorem IsGrid.stretchRows (h : g.IsGrid C) {factor : Value} (heq : Grid.stretchRows g factor = .ok v) :
    v.IsGrid C := by
  obtain ⟨vs, width, rfl, hvs⟩ := h.exists_tuple
  simp only [Grid.stretchRows, items, Outcome.ok_bind, Outcome.bind_eq_ok] at heq
  obtain ⟨parts, hparts, heq⟩ := heq
  cases heq
  rw [Outcome.eq_map_of_mapM (fun _ _ _ hx => eq_of_copies hx) hparts]
  exact isGrid_tuple width fun v hv => hvs v (mem_of_mem_flatten_replicate hv)

theorem IsGrid.enlarge (h : g.IsGrid C) {factor : Value} (heq : Grid.enlarge g factor = .ok v) :
    v.IsGrid C := by
  obtain ⟨vs, width, rfl, hvs⟩ := h.exists_tuple
  simp only [Grid.enlarge, Outcome.bind_eq_ok] at heq
  obtain ⟨parts, hparts, heq⟩ := heq
  cases heq
  refine isGrid_tuple (width * factor.copyCount) fun w hw => ?_
  obtain ⟨part, hpart, hw⟩ := List.mem_flatten.mp hw
  obtain ⟨row, hrow, hpart⟩ := Outcome.exists_of_mem_mapM hparts hpart
  obtain ⟨stretched, hstretched, hcopies⟩ := Outcome.bind_eq_ok.mp hpart
  rw [eq_of_copies hcopies] at hw
  rw [List.eq_of_mem_replicate hw]
  exact (hvs row hrow).stretch hstretched

/-! ## Single cells -/

theorem mem_of_itemAt {xs : List Value} {position : Value} (h : (Value.tuple xs).itemAt position = .ok v) :
    v ∈ xs := by
  simp only [itemAt, tupleItems, Outcome.ok_bind, Outcome.bind_eq_ok] at h
  obtain ⟨p, -, h⟩ := h
  exact Table.mem_of_item? (Outcome.ofOption_eq_ok.mp h)

theorem IsGrid.cell (h : g.IsGrid C) {row column : Value} (heq : g.cell row column = .ok v) : C v := by
  obtain ⟨vs, width, rfl, hvs⟩ := h.exists_tuple
  obtain ⟨w, hw, heq⟩ := Outcome.bind_eq_ok.mp heq
  obtain ⟨cells, rfl, -, colors⟩ := hvs w (mem_of_itemAt hw)
  exact colors v (mem_of_itemAt heq)

/-- Whether a column is kept when a grid shrinks. A factor that divides nothing keeps none. -/
def isKept (factor : Value) (j : Nat) : Bool :=
  match Value.mod (.int j) factor with
  | .ok rest => rest == .int 0
  | .error _ => false

/-- The cells of a row that are kept. Which they are does not depend on the row. -/
theorem IsGrid.isRow_shrink (h : g.IsGrid C) {factor : Value} {i columns : Nat} {cells : List Value}
    (heq : (List.range columns).filterMapM (fun (j : Nat) => do
      if (← Value.mod (.int j) factor) == Value.int 0 then return some (← g.cell (.int i) (.int j))
      else return none) = (.ok cells : Outcome (List Value))) :
    (Value.tuple cells).IsRow C ((List.range columns).countP (isKept factor)) := by
  obtain ⟨select, hselect, rfl⟩ := Outcome.exists_of_filterMapM heq
  have each : ∀ j ∈ List.range columns,
      (select j).isSome = isKept factor j ∧ ∀ c, select j = some c → C c := by
    intro j hj
    have hj := hselect j hj
    simp only [Outcome.bind_eq_ok] at hj
    obtain ⟨rest, hrest, hj⟩ := hj
    split at hj
    next zero =>
      obtain ⟨c, hc, hj⟩ := Outcome.bind_eq_ok.mp hj
      rw [← Except.ok.inj hj, isKept, hrest]
      exact ⟨zero.symm, fun d hd => Option.some.inj hd ▸ h.cell hc⟩
    next nonzero =>
      rw [← Except.ok.inj hj, isKept, hrest]
      exact ⟨(Bool.eq_false_iff.mpr nonzero).symm, fun d hd => by cases hd⟩
  refine ⟨_, rfl, ?_, fun c hc => ?_⟩
  · rw [List.length_filterMap_eq_countP]
    exact List.countP_congr fun j hj => by rw [(each j hj).1]
  · obtain ⟨j, hj, hc⟩ := List.mem_filterMap.mp hc
    exact (each j hj).2 c hc

theorem IsGrid.shrink (h : g.IsGrid C) {factor : Value} (heq : Grid.shrink g factor = .ok v) :
    v.IsGrid C := by
  simp only [Grid.shrink, Outcome.bind_eq_ok] at heq
  obtain ⟨⟨height, columns⟩, -, rows, hrows, kept, hkept, heq⟩ := heq
  cases heq
  have narrow : ∀ row ∈ rows, row.IsRow C ((List.range columns).countP (isKept factor)) := by
    intro row hrow
    obtain ⟨i, -, hi⟩ := Outcome.exists_of_mem_mapM hrows hrow
    obtain ⟨cells, hcells, hi⟩ := Outcome.bind_eq_ok.mp hi
    cases hi
    exact h.isRow_shrink hcells
  obtain ⟨select, hselect, rfl⟩ := Outcome.exists_of_filterMapM hkept
  refine isGrid_tuple _ fun w hw => narrow w ?_
  obtain ⟨⟨i, row⟩, hmem, hw⟩ := List.mem_filterMap.mp hw
  have hi := hselect _ hmem
  rw [hw] at hi
  obtain ⟨rest, -, hi⟩ := Outcome.bind_eq_ok.mp hi
  have hi := Except.ok.inj hi
  split at hi
  · cases hi
    exact List.mem_of_getElem? (Table.mem_indexed.mp hmem)
  · cases hi

/-! ## Putting together -/

theorem IsGrid.beside (h : g.IsGrid C) (h' : g'.IsGrid C) (heq : Grid.beside g g' = .ok v) : v.IsGrid C := by
  obtain ⟨vs, width, rfl, hvs⟩ := h.exists_tuple
  obtain ⟨ws, width', rfl, hws⟩ := h'.exists_tuple
  simp only [Grid.beside, items, Outcome.ok_bind, Outcome.bind_eq_ok] at heq
  obtain ⟨rows, hrows, heq⟩ := heq
  cases heq
  refine isGrid_tuple (width + width') fun row hrow => ?_
  obtain ⟨⟨left, right⟩, hmem, hadd⟩ := Outcome.exists_of_mem_mapM hrows hrow
  obtain ⟨cells, rfl, length, colors⟩ := hvs left (List.of_mem_zip hmem).1
  obtain ⟨cells', rfl, length', colors'⟩ := hws right (List.of_mem_zip hmem).2
  cases hadd
  refine ⟨_, rfl, by rw [List.length_append, length, length'], fun c hc => ?_⟩
  rcases List.mem_append.mp hc with hc | hc
  · exact colors c hc
  · exact colors' c hc

/-- The number of columns is the length of the rows, if there are any. -/
theorem IsRow.width_eq {row : Value} (h : row.IsRow C width) (vs : List Value) :
    Patch.width (.tuple (row :: vs)) = .ok width := by
  obtain ⟨cells, rfl, rfl, -⟩ := h
  rfl

/-- One grid above another of the same width. An empty grid has width zero, but fits above any grid. -/
theorem IsGrid.above (h : g.IsGrid C) (h' : g'.IsGrid C) (same : Patch.width g = Patch.width g')
    (heq : Grid.above g g' = .ok v) : v.IsGrid C := by
  obtain ⟨vs, width, rfl, hvs⟩ := h.exists_tuple
  obtain ⟨ws, width', rfl, hws⟩ := h'.exists_tuple
  cases heq
  cases vs with
  | nil => exact isGrid_tuple width' hws
  | cons row vs =>
      cases ws with
      | nil => exact isGrid_tuple width (by rwa [List.append_nil])
      | cons row' ws =>
          rw [(hvs row List.mem_cons_self).width_eq, (hws row' List.mem_cons_self).width_eq] at same
          obtain rfl : width = width' := by simpa using same
          refine isGrid_tuple width fun w hw => ?_
          rcases List.mem_append.mp hw with hw | hw
          · exact hvs w hw
          · exact hws w hw

theorem IsGrid.agreeing (h : g.IsGrid C) {fallback : Value} (hc : C fallback)
    (heq : Grid.agreeing g g' fallback = .ok v) : v.IsGrid C := by
  simp only [Grid.agreeing, Outcome.bind_eq_ok] at heq
  obtain ⟨⟨height, columns⟩, -, rows, hrows, heq⟩ := heq
  cases heq
  refine ⟨rows, columns, rfl, fun row hrow => ?_⟩
  obtain ⟨i, -, hi⟩ := Outcome.exists_of_mem_mapM hrows hrow
  refine ⟨by rw [Outcome.length_of_mapM hi, List.length_range], fun c hmem => ?_⟩
  obtain ⟨j, -, hj⟩ := Outcome.exists_of_mem_mapM hi hmem
  simp only [Outcome.bind_eq_ok] at hj
  obtain ⟨a, ha, b, -, hj⟩ := hj
  cases hj
  split
  · exact h.cell ha
  · exact hc

/-! ## Colors and lines -/

theorem IsGrid.mapCells (h : g.IsGrid C) {f : Value → Value} (hf : ∀ c, C c → C (f c))
    (heq : Grid.mapCells f g = .ok v) : v.IsGrid C := by
  obtain ⟨rows, width, rfl, table⟩ := h
  rw [Grid.mapCells, rows_ofRows] at heq
  cases heq
  refine ⟨_, width, rfl, table.map (fun row hrow => by rw [List.length_map, hrow]) fun row hrow c hc => ?_⟩
  obtain ⟨d, hd, rfl⟩ := List.mem_map.mp hc
  exact hf d (hrow d hd)

theorem IsGrid.replaceColor (h : g.IsGrid C) {replaced replacement : Value} (hc : C replacement)
    (heq : Grid.replaceColor g replaced replacement = .ok v) : v.IsGrid C := by
  refine h.mapCells (fun c hcell => ?_) heq
  split
  · exact hc
  · exact hcell

theorem IsGrid.swapColors (h : g.IsGrid C) {a b : Value} (ha : C a) (hb : C b)
    (heq : Grid.swapColors g a b = .ok v) : v.IsGrid C := by
  refine h.mapCells (fun c hcell => ?_) heq
  split
  · exact ha
  · split
    · exact hb
    · exact hcell

theorem isGrid_canvas {color dimensions : Value} (hc : C color)
    (heq : Grid.canvas color dimensions = .ok v) : v.IsGrid C := by
  simp only [Grid.canvas, Outcome.bind_eq_ok] at heq
  obtain ⟨_, -, height, -, rows, hrows, heq⟩ := heq
  cases heq
  let count : Outcome Int := do (← dimensions.nth 1).number
  refine ⟨rows, (count.toOption.getD 0).toNat, rfl, fun row hrow => ?_⟩
  obtain ⟨i, -, hi⟩ := Outcome.exists_of_mem_mapM hrows hrow
  simp only [Outcome.bind_eq_ok] at hi
  obtain ⟨w, hw, n, hn, hi⟩ := hi
  have hcount : count = .ok n := by
    change (do (← dimensions.nth 1).number) = _
    rw [hw, Outcome.ok_bind, hn]
  cases hi
  rw [hcount]
  refine ⟨List.length_replicate, fun c hmem => ?_⟩
  rw [List.eq_of_mem_replicate hmem]
  exact hc

theorem mem_of_mem_dropPlaces {α : Type} {places : List Nat} {xs : List α} {x : α}
    (h : x ∈ Grid.dropPlaces places xs) : x ∈ xs := by
  obtain ⟨⟨i, y⟩, hmem, rfl⟩ := List.mem_map.mp h
  exact List.mem_of_getElem? (Table.mem_indexed.mp (List.mem_of_mem_filter hmem))

theorem length_dropPlaces {α β : Type} (places : List Nat) {xs : List α} {ys : List β}
    (h : xs.length = ys.length) : (Grid.dropPlaces places xs).length = (Grid.dropPlaces places ys).length := by
  have kept {γ : Type} (zs : List γ) : (Grid.dropPlaces places zs).length =
      ((List.range zs.length).filter fun i => !places.contains i).length := by
    have numbers : (Table.indexed zs).map Prod.fst = List.range zs.length := by
      rw [Table.indexed, List.map_map, List.range_eq_range', ← List.zipIdx_map_snd]
      rfl
    rw [← numbers, List.filter_map, List.length_map, Grid.dropPlaces, List.length_map]
    rfl
  rw [kept, kept, h]

theorem IsGrid.dropUniformLines (h : g.IsGrid C) (heq : Grid.dropUniformLines g = .ok v) : v.IsGrid C := by
  obtain ⟨vs, width, rfl, hvs⟩ := h.exists_tuple
  simp only [Grid.dropUniformLines, items, Outcome.ok_bind, Outcome.bind_eq_ok] at heq
  obtain ⟨places, -, turned, -, places', -, kept, hkept, heq⟩ := heq
  cases heq
  have table : IsTable C width kept := by
    intro row hrow
    obtain ⟨v, hv, hitems⟩ := Outcome.exists_of_mem_mapM hkept hrow
    obtain ⟨cells, rfl, length, colors⟩ := hvs v (mem_of_mem_dropPlaces hv)
    cases hitems
    exact ⟨length, colors⟩
  refine ⟨_, (Grid.dropPlaces places' (List.replicate width ())).length, rfl, table.map ?_ ?_⟩
  · intro row hrow
    exact length_dropPlaces places' (by rw [hrow, List.length_replicate])
  · intro row hrow c hc
    exact hrow c (mem_of_mem_dropPlaces hc)

end Value

end GridPuzzle
