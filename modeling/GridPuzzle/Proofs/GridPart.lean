import GridPuzzle.Grid.Part
import GridPuzzle.Proofs.ShiftedPatch
import GridPuzzle.Proofs.Symmetry

/-!
# Parts of grids

A part of a grid is cut out by slices: first of its rows, then of each row. A slice starts where its first
boundary lies, and a negative boundary counts from the end (`Table.slice_eq`).

* Where the boundaries lie on the board, the part is a board of its own (`Board.crop_part`).
* The part in the bounding box of a patch should hold the rows and the columns of the grid that lie in the box
  (`Board.within`). What it holds is `Board.cropTo_eq`: below and to the right a box may stick out of the grid, but
  above and to the left its first row or column is taken as one counted from the end.
-/

namespace GridPuzzle

/-! ## Slices of lists -/

namespace Table

variable {α : Type}

theorem slice_eq (xs : List α) (start stop : Int) :
    slice xs start stop = (xs.take (place xs.length stop).toNat).drop (place xs.length start).toNat := by
  rw [slice, boundary, boundary, ← List.take_eq_take_min]
  by_cases h : (place xs.length start).toNat ≤ xs.length
  · rw [Nat.min_eq_left h]
  · have short : (xs.take (place xs.length stop).toNat).length ≤ xs.length := List.length_take_le' ..
    rw [Nat.min_eq_right (by omega), List.drop_eq_nil_of_le short, List.drop_eq_nil_of_le (by omega)]

theorem place_natCast (length position : Nat) : place length position = position :=
  if_neg (by omega)

/-- A slice whose boundaries count from the front. -/
theorem slice_natCast (xs : List α) (start count : Nat) :
    slice xs start (start + count : Nat) = (xs.drop start).take count := by
  rw [slice_eq, place_natCast, place_natCast, Int.toNat_natCast, Int.toNat_natCast, List.drop_take,
    Nat.add_sub_cancel_left]

theorem slice_map {β : Type} (f : α → β) (xs : List α) (start stop : Int) :
    slice (xs.map f) start stop = (slice xs start stop).map f := by
  simp only [slice, List.length_map, List.map_drop, List.map_take]

/-- The items of a list whose places lie between two bounds. -/
def between (first last : Int) (xs : List α) : List α :=
  ((indexed xs).filter fun item => first ≤ item.1 ∧ item.1 ≤ last).map Prod.snd

/-- The same for items that are counted from a number on. -/
theorem filter_zipIdx (first last : Int) (xs : List α) (n : Nat) :
    ((xs.zipIdx n).filter fun item => first ≤ item.2 ∧ item.2 ≤ last).map Prod.fst =
      (xs.take (last + 1 - n).toNat).drop (first - n).toNat := by
  induction xs generalizing n with
  | nil => simp
  | cons x xs ih =>
      rw [List.zipIdx_cons, List.filter_cons]
      by_cases low : first ≤ n
      · by_cases high : (n : Int) ≤ last
        · have stop : (last + 1 - n).toNat = (last + 1 - (n + 1 : Nat)).toNat + 1 := by omega
          have start : (first - n).toNat = 0 := by omega
          have start' : (first - (n + 1 : Nat)).toNat = 0 := by omega
          rw [if_pos (decide_eq_true ⟨low, high⟩), List.map_cons, ih, stop, start, start', List.take_succ_cons]
          rfl
        · have stop : (last + 1 - n).toNat = 0 := by omega
          have stop' : (last + 1 - (n + 1 : Nat)).toNat = 0 := by omega
          rw [if_neg (by simp [high]), ih, stop, stop', List.take_zero, List.take_zero]
          simp
      · have start : (first - n).toNat = (first - (n + 1 : Nat)).toNat + 1 := by omega
        rw [if_neg (by simp [low]), ih, start]
        by_cases high : (n : Int) ≤ last
        · have stop : (last + 1 - n).toNat = (last + 1 - (n + 1 : Nat)).toNat + 1 := by omega
          rw [stop, List.take_succ_cons, List.drop_succ_cons]
        · have stop : (last + 1 - n).toNat = 0 := by omega
          have stop' : (last + 1 - (n + 1 : Nat)).toNat = 0 := by omega
          rw [stop, stop', List.take_zero, List.take_zero, List.drop_nil, List.drop_nil]

theorem between_eq (first last : Int) (xs : List α) :
    between first last xs = (xs.take (last + 1).toNat).drop first.toNat := by
  have counted := filter_zipIdx first last xs 0
  rw [Int.natCast_zero, Int.sub_zero, Int.sub_zero] at counted
  rw [← counted, between, indexed, List.filter_map, List.map_map]
  rfl

/-- A slice whose last item is not counted from the end. -/
theorem slice_eq_between {first last : Int} (h : 0 ≤ last) (xs : List α) :
    slice xs first (last + 1) = between (place xs.length first) last xs := by
  have stop : place xs.length (last + 1) = last + 1 := if_neg (by omega)
  rw [slice_eq, between_eq, stop]

theorem length_between (first last : Int) (xs : List α) :
    (between first last xs).length = min (last + 1).toNat xs.length - first.toNat := by
  rw [between_eq, List.length_drop, List.length_take]

theorem getElem?_between {first last : Int} {i : Nat} (low : first ≤ i) (high : i ≤ last) (xs : List α) :
    (between first last xs)[(i - max first 0).toNat]? = xs[i]? := by
  have place : first.toNat + (i - max first 0).toNat = i := by omega
  rw [between_eq, List.getElem?_drop, place, List.getElem?_take_of_lt (by omega)]

theorem mem_of_mem_between {first last : Int} {xs : List α} {x : α} (h : x ∈ between first last xs) : x ∈ xs := by
  rw [between_eq] at h
  exact List.mem_of_mem_take (List.mem_of_mem_drop h)

/-- A first place that is counted from the end makes no difference if the list does not reach back to it. -/
theorem between_place {first : Int} {xs : List α} (h : 0 ≤ first ∨ first + xs.length ≤ 0) (last : Int) :
    between (place xs.length first) last xs = between first last xs := by
  rw [between_eq, between_eq, place]
  split
  next negative =>
    have start : first.toNat = 0 := by omega
    have start' : (first + xs.length).toNat = 0 := by omega
    rw [start, start']
  next => rfl

/-- Else there are fewer items. -/
theorem length_between_place (xs : List α) {first last : Int} (some : 0 < xs.length) (h : 0 ≤ last)
    (same : (between (place xs.length first) last xs).length = (between first last xs).length) :
    0 ≤ first ∨ first + xs.length ≤ 0 := by
  rw [length_between, length_between, place] at same
  split at same <;> omega

end Table

/-! ## Parts of tables -/

namespace Value

theorem ofRows_injective {rows rows' : List (List Value)} (h : ofRows rows = ofRows rows') : rows = rows' := by
  have tuples : Function.Injective Value.tuple := fun _ _ same => Value.tuple.inj same
  exact List.map_injective_iff.mpr tuples (Value.tuple.inj h)

/-- A part of a table, which may have any boundaries. -/
theorem crop_ofRows (rows : List (List Value)) (start dimensions : Location) :
    Grid.crop (ofRows rows) start.toValue dimensions.toValue =
      .ok (ofRows ((Table.slice rows start.1 (start.1 + dimensions.1)).map fun row =>
        Table.slice row start.2 (start.2 + dimensions.2))) := by
  have add (m n : Int) : (Value.int m).add (.int n) = .ok (.int (m + n)) := rfl
  have slice (xs : List Value) (m n : Int) :
      (Value.tuple xs).slice (.int m) (.int n) = .ok (.tuple (Table.slice xs m n)) := rfl
  rw [Grid.crop, Location.toValue, Location.toValue, nth_location_zero, Outcome.ok_bind, nth_location_zero,
    Outcome.ok_bind, add, Outcome.ok_bind, ofRows, slice, Outcome.ok_bind, Table.slice_map, items, Outcome.ok_bind,
    mapM_tuple (g := fun row => Value.tuple (Table.slice row start.2 (start.2 + dimensions.2))), Outcome.ok_bind,
    ofRows, List.map_map]
  · rfl
  · intro row
    rw [nth_location_one, Outcome.ok_bind, nth_location_one, Outcome.ok_bind, add, Outcome.ok_bind, slice]

end Value

namespace Board

open Value

/-! ## Parts of boards -/

section

variable {α : Type} [Inhabited α]

/-- The part of a board that starts at a location. -/
def part (b : Board α) (start : Location) {rows columns : Nat} (some : 0 < rows) (some' : 0 < columns) : Board α :=
  tabulate rows columns some some' fun l => b.cell (start.shift l)

variable {b : Board α} {start : Location} {rows columns : Nat} {some : 0 < rows} {some' : 0 < columns}

@[simp] theorem height_part : (b.part start some some').height = rows := by
  simp [part, tabulate, height]

@[simp] theorem width_part : (b.part start some some').width = columns :=
  rfl

theorem cell_part {l : Location} (h : (b.part start some some').Inside l) :
    (b.part start some some').cell l = b.cell (start.shift l) :=
  cell_tabulate some some' ((inside_tabulate_iff some some').mp h)

/-- The rows of a part, where the board reaches as far as the part. -/
theorem rows_part {top left : Nat} (fits : top + rows ≤ b.height ∧ left + columns ≤ b.width) :
    (b.part (top, left) some some').rows =
      ((b.rows.drop top).take rows).map fun row => (row.drop left).take columns := by
  have height : (b.part (top, left) some some').rows.length = rows := height_part
  refine List.ext_getElem ?_ fun i hi hi' => ?_
  · have reach : rows ≤ b.rows.length - top := Nat.le_sub_of_add_le' fits.1
    rw [height, List.length_map, List.length_take, List.length_drop, Nat.min_eq_left reach]
  · have old : top + i < b.rows.length := Nat.lt_of_lt_of_le (Nat.add_lt_add_left (height ▸ hi) top) fits.1
    have width : (b.part (top, left) some some').rows[i].length = columns :=
      (b.part (top, left) some some').length_row _ (List.getElem_mem hi)
    have oldWidth : b.rows[top + i].length = b.width := b.length_row _ (List.getElem_mem old)
    rw [List.getElem_map, List.getElem_take, List.getElem_drop]
    refine List.ext_getElem ?_ fun j hj hj' => ?_
    · rw [width, List.length_take, List.length_drop, oldWidth]
      omega
    · have inside : (b.part (top, left) some some').Inside (i, j) := inside_natCast hi (Nat.lt_of_lt_of_eq hj width)
      rw [List.getElem_take, List.getElem_drop, rows_getElem_getElem hi hj, cell_part inside,
        rows_getElem_getElem old]
      congr 1
      exact Prod.ext (Int.add_comm ..) (Int.add_comm ..)

end

/-- A part that the board holds as a whole. -/
theorem crop_part (b : Board Value) {top left rows columns : Nat} (some : 0 < rows) (some' : 0 < columns)
    (fits : top + rows ≤ b.height ∧ left + columns ≤ b.width) :
    Grid.crop b.toValue (.location top left) (.location rows columns) =
      .ok (b.part (top, left) some some').toValue := by
  refine (crop_ofRows b.rows (top, left) (rows, columns)).trans ?_
  simp only [← Int.natCast_add, Table.slice_natCast]
  rw [← rows_part fits, toValue]

/-! ## The part in a box -/

/-- The rows of a board that lie in a box, cut to the columns that lie in it. -/
def within (b : Board Value) (box : Box) : List (List Value) :=
  (Table.between box.top box.bottom b.rows).map (Table.between box.left box.right)

/-- The box whose first row and column, where they are negative, are counted from the end of the board. -/
def wrapped (b : Board Value) (box : Box) : Box :=
  { box with
    top := Table.place b.height box.top
    left := Table.place b.width box.left }

section

variable {g : Board Value} {p : Value} {S : Spot → Prop} {box : Box}

/-- What is cut out by the bounding box of a patch that reaches the board from above and from the left. -/
theorem cropTo_eq (h : p.IsFigure S) (hbox : Bounds (Places S) box) (reach : 0 ≤ box.bottom ∧ 0 ≤ box.right) :
    Grid.cropTo p g.toValue = .ok (ofRows (g.within (g.wrapped box))) := by
  have last (m n : Int) : m + (n - m + 1) = n + 1 := by omega
  rw [Grid.cropTo, h.isPatch.upperLeft hbox, Outcome.ok_bind, h.shape hbox, Outcome.ok_bind]
  refine (crop_ofRows g.rows (box.top, box.left) (_, _)).trans ?_
  simp only [last, Table.slice_eq_between reach.1, Table.slice_eq_between reach.2]
  congr 2
  refine List.map_congr_left fun row hrow => ?_
  rw [g.length_row row (Table.mem_of_mem_between hrow)]
  rfl

/-- The first row and column of a box are right if they are on the board or behind it, or as far above it and to
the left of it as the board is large. -/
theorem within_wrapped_eq_iff (reach : 0 ≤ box.bottom ∧ 0 ≤ box.right) (some : g.within box ≠ []) :
    g.within (g.wrapped box) = g.within box ↔
      (0 ≤ box.top ∨ box.top + g.height ≤ 0) ∧ (0 ≤ box.left ∨ box.left + g.width ≤ 0) := by
  constructor
  · intro same
    have rows : 0 ≤ box.top ∨ box.top + g.height ≤ 0 := by
      refine Table.length_between_place g.rows g.height_pos reach.1 ?_
      have lengths := congrArg List.length same
      rwa [within, within, List.length_map, List.length_map] at lengths
    refine ⟨rows, ?_⟩
    have equal : Table.between (Table.place g.height box.top) box.bottom g.rows =
        Table.between box.top box.bottom g.rows := Table.between_place rows box.bottom
    rcases List.exists_mem_of_ne_nil _ fun empty => some (List.map_eq_nil_iff.mpr empty) with ⟨row, hrow⟩
    have width := g.length_row row (Table.mem_of_mem_between hrow)
    rw [within, wrapped, equal, within, ← width] at same
    have columns := Table.length_between_place row (width ▸ g.width_pos) reach.2
      (congrArg List.length (List.map_inj_left.mp same row hrow))
    rwa [width] at columns
  · intro right
    rcases right with ⟨rows, columns⟩
    have equal : Table.between (Table.place g.height box.top) box.bottom g.rows =
        Table.between box.top box.bottom g.rows := Table.between_place rows box.bottom
    rw [within, wrapped, equal, within]
    refine List.map_congr_left fun row hrow => ?_
    have width := g.length_row row (Table.mem_of_mem_between hrow)
    rw [← width] at columns ⊢
    exact Table.between_place columns box.right

/-- Each cell of the board in the box stands in the part. -/
theorem getElem?_within {l : Location} (inside : g.Inside l) (row : box.top ≤ l.1 ∧ l.1 ≤ box.bottom)
    (column : box.left ≤ l.2 ∧ l.2 ≤ box.right) :
    (g.within box)[(l.1 - max box.top 0).toNat]?.bind (·[(l.2 - max box.left 0).toNat]?) = some (g.cell l) := by
  rcases inside.exists_natCast with ⟨i, j, hi, hj, rfl⟩
  have hi' : i < g.rows.length := hi
  rw [within, List.getElem?_map, Table.getElem?_between row.1 row.2, ← cell?_eq_some_cell inside,
    List.getElem?_eq_getElem hi', Option.map_some, Option.bind_some, Table.getElem?_between column.1 column.2]
  simp [cell?, hi']

/-- **The part of a grid in the bounding box of a patch is right unless the patch sticks out a little above or to
the left.** Let some location of a patch be on the board. Below and to the right the patch may stick out, but a
negative first row or column is counted from the end of the board. So what is cut out are the rows and the columns
of the board in the box exactly if the box starts neither above the board by less than the height of the board, nor to
the left of it by less than its width. These rows and columns hold all cells of the board at locations of the
patch. -/
theorem cropped_to_patch_unless_above_or_left (g : Board Value) (h : p.IsFigure S)
    (some : ∃ l, Places S l ∧ g.Inside l) :
    ∃ box : Box, p.Spans box ∧
      Grid.cropTo p g.toValue = .ok (ofRows (g.within (g.wrapped box))) ∧
      (Grid.cropTo p g.toValue = .ok (ofRows (g.within box)) ↔
        (0 ≤ box.top ∨ box.top + g.height ≤ 0) ∧ (0 ≤ box.left ∨ box.left + g.width ≤ 0)) ∧
      ∀ l, Places S l → g.Inside l →
        (g.within box)[(l.1 - max box.top 0).toNat]?.bind (·[(l.2 - max box.left 0).toNat]?) =
          .some (g.cell l) := by
  rcases some with ⟨_, ⟨s, hs, rfl⟩, inside⟩
  rcases h.exists_bounds ⟨s, hs⟩ with ⟨box, hbox⟩
  have member : ∀ l, Places S l → g.Inside l →
      (g.within box)[(l.1 - max box.top 0).toNat]?.bind (·[(l.2 - max box.left 0).toNat]?) = .some (g.cell l) :=
    fun l hl inside => getElem?_within inside (hbox.row_mem hl) (hbox.column_mem hl)
  have reach : 0 ≤ box.bottom ∧ 0 ≤ box.right :=
    ⟨Int.le_trans inside.1.1 (hbox.row_mem ⟨s, hs, rfl⟩).2, Int.le_trans inside.2.1 (hbox.column_mem ⟨s, hs, rfl⟩).2⟩
  have filled : g.within box ≠ [] := by
    intro empty
    have found := member s.place ⟨s, hs, rfl⟩ inside
    rw [empty] at found
    cases found
  have cropped := cropTo_eq (g := g) h hbox reach
  refine ⟨box, h.isPatch.spans hbox, cropped, ?_, member⟩
  rw [cropped, Except.ok.injEq, ← within_wrapped_eq_iff reach filled]
  exact ⟨ofRows_injective, congrArg ofRows⟩

end

/-- Cells in one column, of which the second one lies below a board of two rows. -/
def pillar : List Spot :=
  [⟨some (.int 7), (0, 1)⟩, ⟨some (.int 8), (4, 1)⟩]

theorem bounds_pillar : Bounds (Places (· ∈ pillar)) ⟨0, 1, 4, 1⟩ := by
  constructor <;> simp [isLeast_image_iff, isGreatest_image_iff, Places, pillar] <;> omega

theorem cropped_to_pillar :
    (setOf (pillar.map Spot.toValue)).IsFigure (· ∈ pillar) ∧
    (∃ l, Places (· ∈ pillar) l ∧ quarters.Inside l) ∧
    Grid.cropTo (setOf (pillar.map Spot.toValue)) quarters.toValue = .ok (ofRows [[.int 1], [.int 3]]) := by
  have figure : (setOf (pillar.map Spot.toValue)).IsFigure (· ∈ pillar) := by
    refine isFigure_setOf ?_ ?_ <;> simp [pillar, Spot.SameColor]
  have top : ∃ l, Places (· ∈ pillar) l ∧ quarters.Inside l := ⟨(0, 1), ⟨_, List.mem_cons_self, rfl⟩, by decide⟩
  refine ⟨figure, top, ?_⟩
  rcases cropped_to_patch_unless_above_or_left quarters figure top with
    ⟨⟨row, column, last, column'⟩, spans, -, right, -⟩
  have known := figure.isPatch.spans bounds_pillar
  obtain rfl : 0 = row := Value.int.inj (Except.ok.inj (known.top.symm.trans spans.top))
  obtain rfl : 1 = column := Value.int.inj (Except.ok.inj (known.left.symm.trans spans.left))
  obtain rfl : 4 = last := Value.int.inj (Except.ok.inj (known.bottom.symm.trans spans.bottom))
  obtain rfl : 1 = column' := Value.int.inj (Except.ok.inj (known.right.symm.trans spans.right))
  exact right.mpr (by decide)

/-- Locations of which the first one lies above the board. -/
def lintel : List Spot :=
  [⟨none, (-1, 0)⟩, ⟨none, (0, 0)⟩, ⟨none, (0, 1)⟩]

theorem bounds_lintel : Bounds (Places (· ∈ lintel)) ⟨-1, 0, 0, 1⟩ := by
  constructor <;> simp [isLeast_image_iff, isGreatest_image_iff, Places, lintel] <;> omega

/-- The first row of the board lies in the box of the lintel, with two of its locations, but nothing is cut out. -/
theorem cropped_to_lintel_is_empty :
    (setOf (lintel.map Spot.toValue)).IsFigure (· ∈ lintel) ∧
    (∃ l, Places (· ∈ lintel) l ∧ quarters.Inside l) ∧
    (setOf (lintel.map Spot.toValue)).Spans ⟨-1, 0, 0, 1⟩ ∧
    quarters.within ⟨-1, 0, 0, 1⟩ = [[.int 0, .int 1]] ∧
    Grid.cropTo (setOf (lintel.map Spot.toValue)) quarters.toValue = .ok (ofRows []) ∧
    Grid.cropTo (setOf (lintel.map Spot.toValue)) quarters.toValue ≠
      .ok (ofRows (quarters.within ⟨-1, 0, 0, 1⟩)) := by
  have figure : (setOf (lintel.map Spot.toValue)).IsFigure (· ∈ lintel) := by
    refine isFigure_setOf ?_ ?_ <;> simp [lintel]
  have cropped : Grid.cropTo (setOf (lintel.map Spot.toValue)) quarters.toValue = .ok (ofRows []) :=
    cropTo_eq figure bounds_lintel (by decide)
  refine ⟨figure, ⟨(0, 0), ⟨⟨none, (0, 0)⟩, by simp [lintel], rfl⟩, by decide⟩, figure.isPatch.spans bounds_lintel,
    rfl, cropped, ?_⟩
  rw [cropped]
  intro same
  cases ofRows_injective (Except.ok.inj same)

end Board

end GridPuzzle
