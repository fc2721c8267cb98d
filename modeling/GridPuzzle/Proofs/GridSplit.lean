import GridPuzzle.Proofs.PatternExtension
import GridPuzzle.Proofs.Scaling

/-!
# Grids in equal parts

A grid is split into equal parts by one rule for a list: the rule is applied to each row, or to the list of the
rows (`Table.share`, `Board.splitColumns_toValue`, `Board.splitRows_toValue`). The parts follow each other without a
gap if they fill the list, and else at a distance of one item.

* Parts that fill the list, and parts with the items between them if there are enough of these, are the list
  (`Table.flatMap_share`, `Table.flatMap_share_gap`). Joined side by side they are the grid (`Grid.join_map`).
* With any other number of items left over, the last parts reach behind the end and are cut off there
  (`Table.length_share`, `Table.forall_extent_eq_iff`).
-/

namespace GridPuzzle

/-! ## Equal parts of lists -/

namespace Table

variable {α β : Type}

/-- The distance of the starts of `count` equal parts of a length: one more than their size if they do not fill
the length. -/
def stride (length count : Nat) : Nat :=
  if length % count = 0 then length / count else length / count + 1

/-- One of `count` equal parts of a list. A part that reaches behind the end is cut off there. -/
def share (count i : Nat) (xs : List α) : List α :=
  (xs.drop (i * stride xs.length count)).take (xs.length / count)

/-- The item between a part and the next one, as a list. -/
def gap (count i : Nat) (xs : List α) : List α :=
  (xs.drop (i * stride xs.length count + xs.length / count)).take 1

theorem stride_of_dvd {length count : Nat} (h : count ∣ length) : stride length count = length / count :=
  if_pos (Nat.mod_eq_zero_of_dvd h)

theorem stride_of_mod_ne_zero {length count : Nat} (h : length % count ≠ 0) :
    stride length count = length / count + 1 :=
  if_neg h

/-- The number of items of a part, as far as the list reaches. -/
def extent (length count i : Nat) : Nat :=
  min (length / count) (length - i * stride length count)

theorem length_share (count i : Nat) (xs : List α) : (share count i xs).length = extent xs.length count i := by
  rw [share, List.length_take, List.length_drop, extent]

theorem share_map (f : α → β) (count i : Nat) (xs : List α) : share count i (xs.map f) = (share count i xs).map f := by
  rw [share, share, List.length_map, List.map_take, List.map_drop]

theorem mem_of_mem_share {count i : Nat} {xs : List α} {x : α} (h : x ∈ share count i xs) : x ∈ xs :=
  List.mem_of_mem_drop (List.mem_of_mem_take h)

/-- Parts of one size that follow each other without a gap are the first items of a list. -/
theorem flatMap_parts (xs : List α) (size count : Nat) :
    ((List.range count).flatMap fun i => (xs.drop (i * size)).take size) = xs.take (count * size) := by
  induction count with
  | zero => simp
  | succ count ih =>
      rw [List.range_succ, List.flatMap_append, ih, Nat.succ_mul, List.take_add, List.flatMap_singleton]

/-- Parts that fill a list are the list. -/
theorem flatMap_share {count : Nat} {xs : List α} (h : count ∣ xs.length) :
    ((List.range count).flatMap fun i => share count i xs) = xs := by
  simp only [share, stride_of_dvd h]
  rw [flatMap_parts, Nat.mul_div_cancel' h, List.take_length]

/-- The last of the parts ends where the list ends, if one item is left over for each of the others. -/
theorem length_eq_of_gaps {length gaps : Nat} (h : length % (gaps + 1) = gaps) :
    length = gaps * (length / (gaps + 1) + 1) + length / (gaps + 1) := by
  have whole := Nat.div_add_mod length (gaps + 1)
  rw [h, Nat.succ_mul] at whole
  rw [Nat.mul_succ]
  omega

/-- If one item is left over for each part but the last one, the parts and the items between them are the list. -/
theorem flatMap_share_gap {gaps : Nat} {xs : List α} (some : 0 < gaps) (h : xs.length % (gaps + 1) = gaps) :
    ((List.range gaps).flatMap fun i => share (gaps + 1) i xs ++ gap (gaps + 1) i xs) ++ share (gaps + 1) gaps xs =
      xs := by
  have step := stride_of_mod_ne_zero (h.trans_ne (Nat.pos_iff_ne_zero.mp some))
  have length := length_eq_of_gaps h
  generalize size : xs.length / (gaps + 1) = m at step length
  -- A part with the item behind it is a part of a list whose parts are one item longer.
  have pair (i : Nat) : share (gaps + 1) i xs ++ gap (gaps + 1) i xs = (xs.drop (i * (m + 1))).take (m + 1) := by
    rw [share, gap, step, size, List.take_add, List.drop_drop]
  have last : share (gaps + 1) gaps xs = xs.drop (gaps * (m + 1)) := by
    rw [share, step, size]
    refine List.take_of_length_le ?_
    rw [List.length_drop]
    omega
  simp only [pair]
  rw [last, flatMap_parts, List.take_append_drop]

/-- All parts have the same size exactly if they fill the list, or one item is left over for each part but the last
one. -/
theorem forall_extent_eq_iff {length count : Nat} (pos : 0 < count) (le : count ≤ length) :
    (∀ i < count, extent length count i = length / count) ↔
      length % count = 0 ∨ length % count = count - 1 := by
  have whole := Nat.div_add_mod length count
  have rest := Nat.mod_lt length pos
  have some : 0 < length / count := Nat.div_pos le pos
  obtain ⟨last, rfl⟩ : ∃ last, count = last + 1 := ⟨count - 1, by omega⟩
  simp only [extent, stride]
  generalize length / (last + 1) = size at whole some
  generalize length % (last + 1) = left at whole rest
  rw [Nat.succ_mul] at whole
  constructor
  · intro h
    by_cases none : left = 0
    · exact .inl none
    · have fits := h last (Nat.lt_succ_self last)
      rw [if_neg none, Nat.mul_succ] at fits
      omega
  · intro h i hi
    have before : i * size ≤ last * size := Nat.mul_le_mul_right size (Nat.le_of_lt_succ hi)
    split
    next => omega
    next =>
      rw [Nat.mul_succ]
      omega

/-! ## Lists in turns -/

/-- The items of two lists in turns. -/
def alternate : List α → List α → List α
  | x :: xs, y :: ys => x :: y :: alternate xs ys
  | xs, [] => xs
  | [], ys => ys

theorem map_alternate (f : α → β) (xs ys : List α) :
    (alternate xs ys).map f = alternate (xs.map f) (ys.map f) := by
  fun_induction alternate xs ys with
  | case1 x xs y ys ih => simp [alternate, ih]
  | case2 xs => cases xs <;> simp [alternate]
  | case3 ys => cases ys <;> simp [alternate]

/-- Numbered items in turns with the ones between them. -/
theorem alternate_range (f g : Nat → α) (count : Nat) :
    alternate ((List.range (count + 1)).map f) ((List.range count).map g) =
      ((List.range count).flatMap fun i => [f i, g i]) ++ [f count] := by
  have first (h : Nat → α) (n : Nat) : (List.range (n + 1)).map h = h 0 :: (List.range n).map (h ∘ Nat.succ) := by
    rw [List.range_succ_eq_map, List.map_cons, List.map_map]
  induction count generalizing f g with
  | zero => rfl
  | succ count ih =>
      rw [first f, first g, alternate, ih, List.range_succ_eq_map, List.flatMap_cons, List.flatMap_map]
      rfl

/-! ## Parts of exchanged tables -/

section

variable {rows : List (List α)} {width : Nat}

/-- Some rows of a table are the same columns of the table with rows and columns exchanged. -/
theorem columns_window (some : rows ≠ []) (pos : 0 < width) (h : ∀ row ∈ rows, row.length = width)
    (start count : Nat) :
    columns ((columns rows).map fun column => (column.drop start).take count) = (rows.drop start).take count := by
  have length : (columns rows).length = width := length_columns some h
  have filled : (columns rows).map (fun column => (column.drop start).take count) ≠ [] := by
    rw [← List.length_pos_iff, List.length_map, length]
    exact pos
  have equal : ∀ column ∈ (columns rows).map (fun column => (column.drop start).take count),
      column.length = ((rows.drop start).take count).length := by
    intro column hcolumn
    rcases List.mem_map.mp hcolumn with ⟨old, hold, rfl⟩
    simp only [List.length_take, List.length_drop, length_of_mem_columns hold]
  refine List.ext_getElem (length_columns filled equal) fun i hi hi' => ?_
  have bounds := hi'
  rw [List.length_take, List.length_drop] at bounds
  have old : start + i < rows.length := by omega
  have inside : i < count := by omega
  have cell (j : Nat) := getElem?_columns equal j hi'
  simp only [List.getElem?_eq_getElem hi, Option.bind_some] at cell
  rw [List.getElem_take, List.getElem_drop]
  refine List.ext_getElem? fun j => ?_
  by_cases hj : j < width
  · have hj' : j < (columns rows).length := length ▸ hj
    have oldCell := getElem?_columns h (start + i) hj
    rw [List.getElem?_eq_getElem hj', List.getElem?_eq_getElem old, Option.bind_some, Option.bind_some] at oldCell
    rw [cell, List.getElem?_map, List.getElem?_eq_getElem hj', Option.map_some, Option.bind_some,
      List.getElem?_take_of_lt inside, List.getElem?_drop, oldCell]
  · have outside : (columns rows).length ≤ j := length ▸ Nat.not_lt.mp hj
    have outside' : rows[start + i].length ≤ j := h _ (List.getElem_mem old) ▸ Nat.not_lt.mp hj
    rw [cell, List.getElem?_map, List.getElem?_eq_none outside, List.getElem?_eq_none outside']
    rfl

/-- One part of the rows of a table is that part of the columns of the exchanged table. -/
theorem columns_share (some : rows ≠ []) (pos : 0 < width) (h : ∀ row ∈ rows, row.length = width)
    (count i : Nat) : columns ((columns rows).map (share count i)) = share count i rows := by
  rw [share, ← columns_window some pos h]
  congr 1
  refine List.map_congr_left fun column hcolumn => ?_
  rw [share, length_of_mem_columns hcolumn]

end

end Table

/-! ## Grids in parts -/

namespace Grid

theorem partition_natCast (length : Nat) {count : Nat} (pos : 0 < count) :
    partition length (.int count) = .ok ((length / count : Nat), (Table.stride length count : Nat)) := by
  have quotient : Value.div (.int length) (.int count) = .ok (.int (length / count : Nat)) :=
    Number.divide_natCast length pos
  rw [partition, quotient, Outcome.ok_bind, Value.number_int, Outcome.ok_bind, Value.mod_natCast pos,
    Outcome.ok_bind, Value.number_int, Outcome.ok_bind, Outcome.pure_eq_ok, Table.stride]
  simp only [Int.natCast_eq_zero]
  split <;> rfl

/-- Numbered parts, each of which is known. -/
theorem mapM_upTo {f : Int → Outcome Value} {g : Nat → Value} {count : Nat} (h : ∀ i : Nat, f i = .ok (g i)) :
    (Table.upTo 0 count).mapM f = .ok ((List.range count).map g) := by
  have numbers : Table.upTo 0 count = (List.range count).map fun (k : Nat) => (k : Int) := by simp [Table.upTo]
  rw [numbers, List.mapM_map]
  exact mapM_eq_pure_map fun i _ => h i

/-- Grids side by side, from left to right. -/
def join : List Value → Outcome Value
  | [] => .ok (.tuple [])
  | first :: rest => rest.foldlM beside first

theorem beside_ofRows (rows rows' : List (List Value)) :
    beside (.ofRows rows) (.ofRows rows') = .ok (.ofRows (List.zipWith (· ++ ·) rows rows')) := by
  have items (rows : List (List Value)) : (Value.ofRows rows).items = .ok (rows.map Value.tuple) := rfl
  rw [beside, items, Outcome.ok_bind, items, Outcome.ok_bind, List.zip_map]
  dsimp only
  rw [List.mapM_map, mapM_eq_pure_map (g := fun parts => Value.tuple (parts.1 ++ parts.2)), Outcome.pure_eq_ok,
    Outcome.ok_bind, Outcome.pure_eq_ok, Value.ofRows, List.map_zipWith, ← List.map_uncurry_zip_eq_zipWith]
  · rfl
  · intro parts _
    rfl

theorem beside_map (rows : List (List Value)) (f g : List Value → List Value) :
    beside (.ofRows (rows.map f)) (.ofRows (rows.map g)) = .ok (.ofRows (rows.map fun row => f row ++ g row)) := by
  rw [beside_ofRows, List.zipWith_map, List.zipWith_self]

/-- Grids that are made of the rows of one grid are joined row by row. -/
theorem join_map (rows : List (List Value)) {fs : List (List Value → List Value)} (some : fs ≠ []) :
    join (fs.map fun f => .ofRows (rows.map f)) = .ok (.ofRows (rows.map fun row => fs.flatMap fun f => f row)) := by
  have step (f : List Value → List Value) (fs : List (List Value → List Value)) :
      (fs.map fun f => Value.ofRows (rows.map f)).foldlM beside (.ofRows (rows.map f)) =
        .ok (.ofRows (rows.map fun row => f row ++ fs.flatMap fun f => f row)) := by
    induction fs generalizing f with
    | nil => simp
    | cons g fs ih =>
        rw [List.map_cons, List.foldlM_cons, beside_map, Outcome.ok_bind, ih]
        simp only [List.flatMap_cons, List.append_assoc]
  cases fs with
  | nil => exact absurd rfl some
  | cons f fs => exact step f fs

end Grid

namespace Value

theorem transpose_ofRows (rows : List (List Value)) :
    Grid.transpose (ofRows rows) = .ok (ofRows (Table.columns rows)) :=
  Symmetry.apply_ofRows (.flip .diagonal) rows

/-- The shape of a grid, which may have no columns. -/
theorem shape_ofRows {rows : List (List Value)} {width : Nat} (some : rows ≠ [])
    (h : ∀ row ∈ rows, row.length = width) : Patch.shape (ofRows rows) = .ok (.location rows.length width) := by
  cases rows with
  | nil => exact absurd rfl some
  | cons row rest =>
      have first : (ofRows (row :: rest)).nth 0 = .ok (.tuple row) := rfl
      have size : (ofRows (row :: rest)).size = .ok (rest.length + 1) := by simp [Value.size, ofRows, items]
      have tuple : (ofRows (row :: rest)).isTuple = true := rfl
      have width : (Value.tuple row).size = .ok width := by simp [Value.size, items, ← h row List.mem_cons_self]
      simp [Patch.shape, Patch.height, Patch.width, first, size, tuple, width]

end Value

namespace Board

open Value

/-- A number of columns of a board from one of them on, as far as the board reaches. -/
def columnsFrom (b : Board Value) (start count : Nat) : List (List Value) :=
  b.rows.map fun row => (row.drop start).take count

section

variable (b : Board Value) {n : Nat} (pos : 0 < n)

theorem map_share (n i : Nat) :
    b.rows.map (Table.share n i) = b.columnsFrom (i * Table.stride b.width n) (b.width / n) := by
  refine List.map_congr_left fun row hrow => ?_
  rw [Table.share, b.length_row row hrow]

theorem map_gap (n i : Nat) :
    b.rows.map (Table.gap n i) = b.columnsFrom (i * Table.stride b.width n + b.width / n) 1 := by
  refine List.map_congr_left fun row hrow => ?_
  rw [Table.gap, b.length_row row hrow]

/-- Numbered parts of the rows, as grids that are made of the rows. -/
theorem numbered_parts (f : Nat → List Value → List Value) (n : Nat) :
    ((List.range n).map fun i => ofRows (b.rows.map (f i))) =
      ((List.range n).map f).map fun f => ofRows (b.rows.map f) := by
  rw [List.map_map]
  rfl

include pos

/-- Side by side, the parts of a board are made of the parts of its rows. -/
theorem splitColumns_toValue :
    Grid.splitColumns b.toValue (.int n) =
      .ok (.tuple ((List.range n).map fun i => ofRows (b.rows.map (Table.share n i)))) := by
  have piece (i : Nat) : Grid.crop b.toValue (.location 0 ((Table.stride b.width n : Nat) * i))
      (.location b.height (b.width / n : Nat)) = .ok (ofRows (b.rows.map (Table.share n i))) := by
    refine (crop_ofRows b.rows (0, _) (_, _)).trans ?_
    simp only [Int.zero_add, ← Int.natCast_mul, ← Int.natCast_add, Table.slice_natCast, Table.slice_zero, height,
      List.take_length]
    rw [map_share, Nat.mul_comm]
    rfl
  rcases b.exists_first_row with ⟨row, hrow, hwidth⟩
  rw [Grid.splitColumns, size_toValue, Outcome.ok_bind, hrow, Outcome.ok_bind, hwidth, Outcome.ok_bind,
    Grid.partition_natCast _ pos, Outcome.ok_bind]
  dsimp only
  rw [number_int, Outcome.ok_bind, Grid.mapM_upTo piece, Outcome.ok_bind, Outcome.pure_eq_ok]

/-- One above the other, the parts of a board are the parts of the list of its rows. -/
theorem splitRows_toValue :
    Grid.splitRows b.toValue (.int n) =
      .ok (.tuple ((List.range n).map fun i => ofRows (Table.share n i b.rows))) := by
  have piece (i : Nat) : Grid.crop b.toValue (.location ((Table.stride b.height n : Nat) * i) 0)
      (.location (b.height / n : Nat) b.width) = .ok (ofRows (Table.share n i b.rows)) := by
    refine (crop_ofRows b.rows (_, 0) (_, _)).trans ?_
    simp only [Int.zero_add, ← Int.natCast_mul, ← Int.natCast_add, Table.slice_natCast, Table.slice_zero]
    rw [Nat.mul_comm]
    congr 2
    refine (List.map_congr_left fun row hrow => ?_).trans (List.map_id _)
    have old : row ∈ b.rows := List.mem_of_mem_drop (List.mem_of_mem_take hrow)
    rw [← b.length_row row old, List.take_length, id_eq]
  rcases b.exists_first_row with ⟨row, hrow, hwidth⟩
  rw [Grid.splitRows, size_toValue, Outcome.ok_bind, Grid.partition_natCast _ pos, Outcome.ok_bind]
  dsimp only
  rw [hrow, Outcome.ok_bind, hwidth, Outcome.ok_bind, number_int, Outcome.ok_bind, Grid.mapM_upTo piece,
    Outcome.ok_bind, Outcome.pure_eq_ok]

/-! ## Joining the parts -/

/-- The parts one above the other are those of the exchanged board side by side, each of them exchanged. -/
theorem exists_split_transpose :
    ∃ pieces turned, Grid.splitRows b.toValue (.int n) = .ok (.tuple pieces) ∧
      (do Grid.splitColumns (← Grid.transpose b.toValue) (.int n)) = .ok (.tuple turned) ∧
      turned.mapM Grid.transpose = .ok pieces := by
  have turned : (do Grid.splitColumns (← Grid.transpose b.toValue) (.int n)) = .ok (.tuple
      ((List.range n).map fun i => ofRows (b.transpose.rows.map (Table.share n i)))) := by
    rw [toValue, transpose_ofRows, Outcome.ok_bind]
    exact b.transpose.splitColumns_toValue pos
  refine ⟨_, _, b.splitRows_toValue pos, turned, ?_⟩
  rw [List.mapM_map]
  refine mapM_eq_pure_map fun i _ => ?_
  rw [Function.comp_apply, transpose_ofRows, transpose, Table.columns_share b.rows_ne_nil b.width_pos b.length_row,
    Outcome.pure_eq_ok]

/-- Parts that fill the rows are joined to the board. -/
theorem join_shares (h : n ∣ b.width) :
    Grid.join ((List.range n).map fun i => ofRows (b.rows.map (Table.share n i))) = .ok b.toValue := by
  rw [numbered_parts, Grid.join_map, toValue]
  · congr 2
    refine (List.map_congr_left fun row hrow => ?_).trans (List.map_id _)
    rw [List.flatMap_map, Table.flatMap_share (by rwa [b.length_row row hrow]), id_eq]
  · rw [← List.length_pos_iff, List.length_map, List.length_range]
    exact pos

end

/-- Parts in turns with the columns between them are joined to the board. -/
theorem join_alternate (b : Board Value) {gaps : Nat} (some : 0 < gaps) (h : b.width % (gaps + 1) = gaps) :
    Grid.join (Table.alternate
      ((List.range (gaps + 1)).map fun i => ofRows (b.rows.map (Table.share (gaps + 1) i)))
      ((List.range gaps).map fun i => ofRows (b.rows.map (Table.gap (gaps + 1) i)))) = .ok b.toValue := by
  rw [numbered_parts, numbered_parts, ← Table.map_alternate, Table.alternate_range, Grid.join_map, toValue]
  · congr 2
    refine (List.map_congr_left fun row hrow => ?_).trans (List.map_id _)
    rw [List.flatMap_append, List.flatMap_assoc, id_eq]
    simp only [List.flatMap_cons, List.flatMap_nil, List.append_nil]
    exact Table.flatMap_share_gap some (by rwa [b.length_row row hrow])
  · simp

/-- The columns between the parts, one between any two of them. -/
def separators (b : Board Value) (n : Nat) : List Value :=
  (List.range (n - 1)).map fun i => ofRows (b.columnsFrom (i * (b.width / n + 1) + b.width / n) 1)

/-- All of the columns are there if the board reaches as far. -/
theorem shape_columnsFrom (b : Board Value) {start count : Nat} (fits : start + count ≤ b.width) :
    Patch.shape (ofRows (b.columnsFrom start count)) = .ok (.location b.height count) := by
  have width : ∀ row ∈ b.columnsFrom start count, row.length = count := by
    intro row hrow
    rcases List.mem_map.mp hrow with ⟨old, hold, rfl⟩
    rw [List.length_take, List.length_drop, b.length_row old hold]
    omega
  have some : b.columnsFrom start count ≠ [] := by simpa [columnsFrom] using b.rows_ne_nil
  rw [shape_ofRows some width, columnsFrom, List.length_map, height]

/-- **Splitting a grid undoes joining.** Let a board be split into `n` parts side by side. If `n` divides the number
of columns, the parts are joined to the board. If `n - 1` columns are left over, for `n` of at least two, then each
part has as many columns of the board as the quotient says, each starts one column behind the end of the part before
it, and the parts in turns with the `n - 1` single columns between them are joined to the board. For any `n`, the
parts one above the other are those of the exchanged board side by side, each of them exchanged. -/
theorem split_parts_join_to_grid (g : Board Value) {n : Nat} (pos : 0 < n) :
    (n ∣ g.width → ∃ pieces, Grid.splitColumns g.toValue (.int n) = .ok (.tuple pieces) ∧ pieces.length = n ∧
      Grid.join pieces = .ok g.toValue) ∧
    (2 ≤ n → g.width % n = n - 1 → ∃ pieces, Grid.splitColumns g.toValue (.int n) = .ok (.tuple pieces) ∧
      pieces.length = n ∧
      (∀ i < n, i * (g.width / n + 1) + g.width / n ≤ g.width ∧
        pieces[i]? = some (ofRows (g.columnsFrom (i * (g.width / n + 1)) (g.width / n)))) ∧
      (g.separators n).length = n - 1 ∧
      (∀ separator ∈ g.separators n, Patch.shape separator = .ok (.location g.height 1)) ∧
      Grid.join (Table.alternate pieces (g.separators n)) = .ok g.toValue) ∧
    ∃ pieces turned, Grid.splitRows g.toValue (.int n) = .ok (.tuple pieces) ∧
      (do Grid.splitColumns (← Grid.transpose g.toValue) (.int n)) = .ok (.tuple turned) ∧
      turned.mapM Grid.transpose = .ok pieces := by
  refine ⟨fun full => ?_, fun two rest => ?_, g.exists_split_transpose pos⟩
  · refine ⟨_, g.splitColumns_toValue pos, ?_, g.join_shares pos full⟩
    rw [List.length_map, List.length_range]
  · obtain ⟨gaps, rfl⟩ : ∃ gaps, n = gaps + 1 := ⟨n - 1, by omega⟩
    rw [Nat.add_sub_cancel] at rest
    have some : 0 < gaps := Nat.lt_of_succ_lt_succ two
    have step := Table.stride_of_mod_ne_zero (rest.trans_ne (Nat.pos_iff_ne_zero.mp some))
    have length := Table.length_eq_of_gaps rest
    have separators : g.separators (gaps + 1) =
        (List.range gaps).map fun i => ofRows (g.rows.map (Table.gap (gaps + 1) i)) := by
      simp only [separators, map_gap, step, Nat.add_sub_cancel]
    -- No part reaches further than the last one.
    have fits : ∀ i < gaps + 1,
        i * (g.width / (gaps + 1) + 1) + g.width / (gaps + 1) ≤ g.width := by
      intro i hi
      have before := Nat.mul_le_mul_right (g.width / (gaps + 1) + 1) (Nat.le_of_lt_succ hi)
      omega
    refine ⟨_, g.splitColumns_toValue pos, ?_, fun i hi => ⟨fits i hi, ?_⟩, ?_, ?_, ?_⟩
    · rw [List.length_map, List.length_range]
    · rw [List.getElem?_map, List.getElem?_range hi, Option.map_some, map_share, step]
    · rw [Board.separators, List.length_map, List.length_range]
    · intro separator hseparator
      rcases List.mem_map.mp hseparator with ⟨i, hi, rfl⟩
      have next := fits (i + 1) (Nat.add_lt_add_right (List.mem_range.mp hi) 1)
      rw [Nat.succ_mul] at next
      generalize g.width / (gaps + 1) = size at next ⊢
      exact g.shape_columnsFrom (by omega)
    · rw [separators]
      exact g.join_alternate some rest

/-- A board of five columns. -/
def ruler : Board Value where
  rows := [[.int 0, .int 1, .int 2, .int 3, .int 4], [.int 5, .int 6, .int 7, .int 8, .int 9]]
  width := 5
  rows_ne_nil := List.cons_ne_nil _ _
  width_pos := Nat.succ_pos 4
  length_row := by simp

theorem ruler_is_joined_from_parts :
    0 < 3 ∧ 2 ≤ 3 ∧ ruler.width % 3 = 3 - 1 ∧ 0 < 5 ∧ 5 ∣ ruler.width ∧
    Grid.splitColumns ruler.toValue (.int 3) = .ok (.tuple
      [ofRows [[.int 0], [.int 5]], ofRows [[.int 2], [.int 7]], ofRows [[.int 4], [.int 9]]]) ∧
    Grid.join (Table.alternate
      [ofRows [[.int 0], [.int 5]], ofRows [[.int 2], [.int 7]], ofRows [[.int 4], [.int 9]]]
      [ofRows [[.int 1], [.int 6]], ofRows [[.int 3], [.int 8]]]) = .ok ruler.toValue ∧
    ∃ columns, Grid.splitColumns ruler.toValue (.int 5) = .ok (.tuple columns) ∧ columns.length = 5 ∧
      Grid.join columns = .ok ruler.toValue := by
  have split : Grid.splitColumns ruler.toValue (.int 3) = .ok (.tuple
      [ofRows [[.int 0], [.int 5]], ofRows [[.int 2], [.int 7]], ofRows [[.int 4], [.int 9]]]) := rfl
  rcases (split_parts_join_to_grid ruler (n := 3) (by decide)).2.1 (by decide) (by decide) with
    ⟨pieces, hpieces, -, -, -, -, joined⟩
  obtain rfl := Value.tuple.inj (Except.ok.inj (split.symm.trans hpieces))
  exact ⟨by decide, by decide, by decide, by decide, by decide, split, joined,
    (split_parts_join_to_grid ruler (n := 5) (by decide)).1 (by decide)⟩

/-! ## The shapes of the parts -/

theorem shape_map_share (b : Board Value) (n i : Nat) :
    Patch.shape (ofRows (b.rows.map (Table.share n i))) = .ok (.location b.height (Table.extent b.width n i)) := by
  have width : ∀ row ∈ b.rows.map (Table.share n i), row.length = Table.extent b.width n i := by
    intro row hrow
    rcases List.mem_map.mp hrow with ⟨old, hold, rfl⟩
    rw [Table.length_share, b.length_row old hold]
  rw [shape_ofRows (by simpa using b.rows_ne_nil) width, List.length_map, height]

/-- Where there are no rows, no columns are seen either. -/
theorem shape_share_rows (b : Board Value) (n i : Nat) :
    Patch.shape (ofRows (Table.share n i b.rows)) = .ok (.location (Table.extent b.height n i)
      (if Table.extent b.height n i = 0 then 0 else b.width)) := by
  have length : (Table.share n i b.rows).length = Table.extent b.height n i := Table.length_share n i b.rows
  by_cases none : Table.extent b.height n i = 0
  · rw [List.length_eq_zero_iff.mp (length.trans none), none]
    rfl
  · have some : Table.share n i b.rows ≠ [] := List.ne_nil_of_length_pos (by omega)
    rw [shape_ofRows some fun row hrow => b.length_row row (Table.mem_of_mem_share hrow), length, if_neg none]

/-- **The parts of a grid have the same shape only if the columns left over are none or one for each part but the
last.** Let a board be split into at most as many parts as it has columns. Each part has all rows, and as many of its
columns as the board reaches. So all parts have as many columns as the quotient says exactly if `n` divides the number
of columns or leaves the rest `n - 1`. The same holds of rows; a part without rows has no columns either. -/
theorem shapes_of_split_parts (g : Board Value) {n : Nat} (pos : 0 < n) :
    (n ≤ g.width → ∃ pieces, Grid.splitColumns g.toValue (.int n) = .ok (.tuple pieces) ∧ pieces.length = n ∧
      (∀ i < n, ∃ piece, pieces[i]? = some piece ∧
        Patch.shape piece = .ok (.location g.height (Table.extent g.width n i))) ∧
      ((∀ piece ∈ pieces, Patch.shape piece = .ok (.location g.height (g.width / n : Nat))) ↔
        g.width % n = 0 ∨ g.width % n = n - 1)) ∧
    (n ≤ g.height → ∃ pieces, Grid.splitRows g.toValue (.int n) = .ok (.tuple pieces) ∧ pieces.length = n ∧
      (∀ i < n, ∃ piece, pieces[i]? = some piece ∧
        Patch.shape piece = .ok (.location (Table.extent g.height n i)
          (if Table.extent g.height n i = 0 then 0 else g.width))) ∧
      ((∀ piece ∈ pieces, Patch.shape piece = .ok (.location (g.height / n : Nat) g.width)) ↔
        g.height % n = 0 ∨ g.height % n = n - 1)) := by
  have found {f : Nat → Value} {i : Nat} (hi : i < n) : ((List.range n).map f)[i]? = some (f i) := by
    rw [List.getElem?_map, List.getElem?_range hi, Option.map_some]
  have length {f : Nat → Value} : ((List.range n).map f).length = n := by rw [List.length_map, List.length_range]
  refine ⟨fun le => ?_, fun le => ?_⟩
  · refine ⟨_, g.splitColumns_toValue pos, length, fun i hi => ⟨_, found hi, g.shape_map_share n i⟩, ?_⟩
    rw [← Table.forall_extent_eq_iff pos le, List.forall_mem_map]
    simp only [List.mem_range, shape_map_share, Except.ok.injEq, location, pair, Value.tuple.injEq, List.cons.injEq,
      Value.int.injEq, Int.natCast_inj, true_and, and_true]
  · have some : 0 < g.height / n := Nat.div_pos le pos
    refine ⟨_, g.splitRows_toValue pos, length, fun i hi => ⟨_, found hi, g.shape_share_rows n i⟩, ?_⟩
    rw [← Table.forall_extent_eq_iff pos le, List.forall_mem_map]
    simp only [List.mem_range]
    refine forall₂_congr fun i _ => ?_
    rw [shape_share_rows]
    simp only [Except.ok.injEq, location, pair, Value.tuple.injEq, List.cons.injEq,
      Value.int.injEq, Int.natCast_inj, and_true]
    constructor
    · intro same
      exact same.1
    · intro same
      rw [if_neg (by omega)]
      exact ⟨same, rfl⟩

/-- The fourth of four parts of five columns has no column. -/
theorem fourth_part_of_ruler :
    0 < 4 ∧ 4 ≤ ruler.width ∧ ∃ pieces piece, Grid.splitColumns ruler.toValue (.int 4) = .ok (.tuple pieces) ∧
      pieces[3]? = some piece ∧ Patch.shape piece = .ok (.location 2 0) := by
  rcases (shapes_of_split_parts ruler (n := 4) (by decide)).1 (by decide) with ⟨pieces, hpieces, -, shapes, -⟩
  rcases shapes 3 (by decide) with ⟨piece, hpiece, hshape⟩
  exact ⟨by decide, by decide, pieces, piece, hpieces, hpiece, hshape⟩

/-- The four parts do not have the same shape. -/
theorem parts_of_ruler_differ :
    0 < 4 ∧ 4 ≤ ruler.width ∧ ruler.width / 4 = 1 ∧
    Grid.splitColumns ruler.toValue (.int 4) = .ok (.tuple [ofRows [[.int 0], [.int 5]],
      ofRows [[.int 2], [.int 7]], ofRows [[.int 4], [.int 9]], ofRows [[], []]]) ∧
    Patch.shape (ofRows [[], []]) = .ok (.location 2 0) ∧
    Patch.shape (ofRows [[], []]) ≠ .ok (.location ruler.height (ruler.width / 4 : Nat)) := by
  refine ⟨by decide, by decide, rfl, rfl, rfl, ?_⟩
  intro same
  cases same

end Board

end GridPuzzle
