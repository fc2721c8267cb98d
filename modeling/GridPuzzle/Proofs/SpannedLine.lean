import GridPuzzle.Task.Catalogue
import GridPuzzle.Proofs.FullBox
import GridPuzzle.Proofs.StraightLine

/-!
# Lines between cells of a color

The program of task `253bf280` draws the lines between all pairs of cells of a color: from a cell to itself, along
diagonals, and between cells that are not aligned at all, which gives no location. Two tests by number then sort out the
lines of rows and columns. A line has more than one location exactly if its ends are aligned and differ
(`Location.one_lt_length_segment_iff`), and both ends belong to it. So it fills a box of one column only if the ends are
in one column, and then it does (`Location.exists_isVerticalLine_segment`).

A location on one of these lines is an end or has cells of the color on two opposite sides
(`Board.covered_iff_spanned`). The ends are drawn over again.
-/

namespace GridPuzzle

open Eval Value

/-- A set has more than one item exactly if it has two different members. -/
theorem Value.IsSetOf.one_lt_length_iff {v : Value} {A : Value → Prop} (h : v.IsSetOf A) :
    1 < v.itemList.length ↔ ∃ x y, A x ∧ A y ∧ x ≠ y := by
  have nodup : v.itemList.Nodup := by
    rcases h with ⟨⟨xs, rfl, increasing⟩, -⟩
    exact increasing.nodup
  simp only [← h.mem_itemList]
  generalize v.itemList = items at nodup ⊢
  cases items with
  | nil => simp
  | cons x rest =>
      cases rest with
      | nil => simp
      | cons y rest =>
          have differ : x ≠ y := fun same => (List.nodup_cons.mp nodup).1 (same ▸ List.mem_cons_self)
          exact iff_of_true (by simp) ⟨x, y, List.mem_cons_self, List.mem_cons_of_mem _ List.mem_cons_self, differ⟩

/-! ## Segments -/

namespace Location

variable {a b l : Location}

theorem left_mem_line (aligned : a.Aligned b) : a ∈ line a b :=
  mem_line_iff.mpr ⟨aligned, 0, Nat.zero_le _, by simp [shift, times]⟩

theorem right_mem_line (aligned : a.Aligned b) : b ∈ line a b := by
  rw [line_comm]
  refine left_mem_line ?_
  unfold Aligned at aligned ⊢
  omega

/-- The set of the locations between two. -/
def segment (a b : Location) : Value :=
  .setOf ((line a b).map toValue)

theorem isLocationSet_segment (a b : Location) : (segment a b).IsLocationSet (· ∈ line a b) :=
  isLocationSet_setOf fun _ => Iff.rfl

theorem plain_segment (a b : Location) : Plain (segment a b) := by
  refine IsSetOf.plain (isLocationSet_segment a b) fun x hx => ?_
  rcases hx with ⟨l, -, rfl⟩
  exact l.plain_toValue

theorem one_lt_length_segment_iff : 1 < (segment a b).itemList.length ↔ a.Aligned b ∧ a ≠ b := by
  rw [IsSetOf.one_lt_length_iff (isLocationSet_segment a b)]
  constructor
  · intro h
    rcases h with ⟨_, _, ⟨k, hk, rfl⟩, ⟨l, hl, rfl⟩, differ⟩
    rw [mem_line_iff] at hk hl
    refine ⟨hk.1, fun same => ?_⟩
    -- Between a location and itself there is no other one.
    subst same
    have only {m : Location} (hm : Between a a m) : m = a := by
      rw [between_of_row rfl, Table.mem_upTo] at hm
      exact Prod.ext hm.2 (by omega)
    exact differ (by rw [only hk.2, only hl.2])
  · intro h
    rcases h with ⟨aligned, differ⟩
    exact ⟨_, _, ⟨a, left_mem_line aligned, rfl⟩, ⟨b, right_mem_line aligned, rfl⟩,
      fun same => differ (toValue_injective same)⟩

section

variable (aligned : a.Aligned b)
include aligned

theorem exists_mem_segment : ∃ s, Bare (· ∈ line a b) s :=
  ⟨⟨none, a⟩, rfl, left_mem_line aligned⟩

theorem exists_isVerticalLine_segment :
    ∃ vertical, Patch.isVerticalLine (segment a b) = .ok vertical ∧ (vertical = true ↔ a.2 = b.2) := by
  rcases (isLocationSet_segment a b).isFigure.exists_isVerticalLine (exists_mem_segment aligned) distinct_bare
    with ⟨vertical, heq, full⟩
  refine ⟨vertical, heq, full.trans ?_⟩
  simp only [places_bare, Box.Holds, Box.sized]
  constructor
  · intro h
    rcases h with ⟨corner, n, same⟩
    have first := (same a).mp (left_mem_line aligned)
    have last := (same b).mp (right_mem_line aligned)
    omega
  · intro column
    refine ⟨(min a.1 b.1, a.2), max a.1 b.1 - min a.1 b.1 + 1, fun l => ?_⟩
    rw [mem_line_iff, and_iff_right aligned, between_of_column column, Table.mem_upTo]
    omega

theorem exists_isHorizontalLine_segment :
    ∃ horizontal, Patch.isHorizontalLine (segment a b) = .ok horizontal ∧ (horizontal = true ↔ a.1 = b.1) := by
  rcases (isLocationSet_segment a b).isFigure.exists_isHorizontalLine (exists_mem_segment aligned) distinct_bare
    with ⟨horizontal, heq, full⟩
  refine ⟨horizontal, heq, full.trans ?_⟩
  simp only [places_bare, Box.Holds, Box.sized]
  constructor
  · intro h
    rcases h with ⟨corner, n, same⟩
    have first := (same a).mp (left_mem_line aligned)
    have last := (same b).mp (right_mem_line aligned)
    omega
  · intro row
    refine ⟨(a.1, min a.2 b.2), max a.2 b.2 - min a.2 b.2 + 1, fun l => ?_⟩
    rw [mem_line_iff, and_iff_right aligned, between_of_row row, Table.mem_upTo]
    omega

end

end Location

open Location

/-! ## The conditions as built functions -/

/-- The condition to have more than one item. -/
def longerThanOne (serial serial' : Nat) : Value :=
  .compose serial' (.bindLast serial 1 (.prim .greater) (.int 1)) (.prim .size)

/-- The condition to be a line of a row or of a column. -/
def straight (serial : Nat) : Value :=
  .fork serial (.prim .either) (.prim .isVerticalLine) (.prim .isHorizontalLine)

theorem call_longerThanOne {v : Value} {A : Value → Prop} (h : v.IsSetOf A) (depth serial serial' : Nat) :
    Value.call (depth + 1) (longerThanOne serial serial') [v] = pure (.bool (decide (1 < v.itemList.length))) := by
  have size : Value.call (depth + 1) (.prim .size) [v] = pure (.int v.itemList.length) := Board.key_size h depth
  have less : Value.lt (.int 1) (.int v.itemList.length) = .ok (decide (1 < v.itemList.length)) := by
    change Except.ok (decide ((1 : Int) < v.itemList.length)) = _
    simp only [Nat.one_lt_cast]
  rw [longerThanOne, call_compose, size, pure_bind, call_bindLast, call_prim]
  exact test_ok less

theorem exists_call_straight {a b : Location} (aligned : a.Aligned b) (depth serial : Nat) :
    ∃ line, Value.call (depth + 1) (straight serial) [segment a b] = pure (.bool line) ∧
      (line = true ↔ a.2 = b.2 ∨ a.1 = b.1) := by
  rcases exists_isVerticalLine_segment aligned with ⟨vertical, hvertical, column⟩
  rcases exists_isHorizontalLine_segment aligned with ⟨horizontal, hhorizontal, row⟩
  have first : Value.call (depth + 1) (.prim .isVerticalLine) [segment a b] = pure (.bool vertical) := by
    rw [call_prim]
    exact test_ok hvertical
  have second : Value.call (depth + 1) (.prim .isHorizontalLine) [segment a b] = pure (.bool horizontal) := by
    rw [call_prim]
    exact test_ok hhorizontal
  refine ⟨vertical || horizontal, ?_, ?_⟩
  · rw [straight, call_fork, first, second, pure_bind, pure_bind, call_prim]
    cases vertical <;> rfl
  · rw [Bool.or_eq_true, column, row]

namespace Board

variable {g : Board Int} {c : Int} {l : Location}

/-! ## Lines between cells of a color -/

/-- The location is on a line of a row or of a column between two cells of the color. -/
def Covered (g : Board Int) (c : Int) (l : Location) : Prop :=
  ∃ a b, g.HasColor c a ∧ g.HasColor c b ∧ a ≠ b ∧ (a.2 = b.2 ∨ a.1 = b.1) ∧ l ∈ line a b

/-- There are cells of the color to the left and to the right of the location in its row, or above and below it in its
column. -/
def Spanned (g : Board Int) (c : Int) (l : Location) : Prop :=
  (∃ j k, j < l.2 ∧ l.2 < k ∧ g.HasColor c (l.1, j) ∧ g.HasColor c (l.1, k)) ∨
    ∃ i k, i < l.1 ∧ l.1 < k ∧ g.HasColor c (i, l.2) ∧ g.HasColor c (k, l.2)

/-- Of two numbers with a property and one without it between them, one is smaller than it and one is greater. -/
theorem exists_both_sides {p : Int → Prop} {m n x : Int} (hm : p m) (hn : p n)
    (between : x ∈ Table.upTo (min m n) (max m n + 1)) (other : ¬ p x) : ∃ i k, i < x ∧ x < k ∧ p i ∧ p k := by
  have first : x ≠ m := fun same => other (same ▸ hm)
  have last : x ≠ n := fun same => other (same ▸ hn)
  rw [Table.mem_upTo] at between
  rcases Int.le_total m n with order | order
  · exact ⟨m, n, by omega, by omega, hm, hn⟩
  · exact ⟨n, m, by omega, by omega, hn, hm⟩

/-- A location on a line that is not one of its ends has cells of the color on both sides. -/
theorem covered_iff_spanned (other : ¬ g.HasColor c l) : g.Covered c l ↔ g.Spanned c l := by
  constructor
  · intro covered
    rcases covered with ⟨⟨i, j⟩, ⟨i', j'⟩, ha, hb, -, column | row, mem⟩
    · have between := (between_of_column column).mp (mem_line_iff.mp mem).2
      obtain rfl : j = j' := column
      obtain rfl : l.2 = j := between.2
      exact .inr (exists_both_sides (p := fun i => g.HasColor c (i, l.2)) ha hb between.1 other)
    · have between := (between_of_row row).mp (mem_line_iff.mp mem).2
      obtain rfl : i = i' := row
      obtain rfl : l.1 = i := between.2
      exact .inl (exists_both_sides (p := fun j => g.HasColor c (l.1, j)) ha hb between.1 other)
  · intro spanned
    rcases spanned with ⟨j, k, before, behind, ha, hb⟩ | ⟨i, k, above, below, ha, hb⟩
    · have row : Prod.fst (l.1, j) = Prod.fst (l.1, k) := rfl
      have mem : l ∈ line (l.1, j) (l.1, k) := by
        rw [mem_line_iff, between_of_row row, Table.mem_upTo]
        exact ⟨.inl row, by simp only; omega, rfl⟩
      exact ⟨_, _, ha, hb, fun same => by have := congrArg Prod.snd same; omega, .inr row, mem⟩
    · have column : Prod.snd (i, l.2) = Prod.snd (k, l.2) := rfl
      have mem : l ∈ line (i, l.2) (k, l.2) := by
        rw [mem_line_iff, between_of_column column, Table.mem_upTo]
        exact ⟨.inr (.inl column), by simp only; omega, rfl⟩
      exact ⟨_, _, ha, hb, fun same => by have := congrArg Prod.fst same; omega, .inl column, mem⟩

/-- The value is the line between two cells of the color. -/
def IsSegment (g : Board Int) (c : Int) (v : Value) : Prop :=
  ∃ a b, g.HasColor c a ∧ g.HasColor c b ∧ v = segment a b

/-- The value is the line between two different, aligned cells of the color. -/
def IsLongSegment (g : Board Int) (c : Int) (v : Value) : Prop :=
  ∃ a b, g.HasColor c a ∧ g.HasColor c b ∧ (a.Aligned b ∧ a ≠ b) ∧ v = segment a b

theorem IsSegment.plain {v : Value} (h : g.IsSegment c v) : Plain v := by
  rcases h with ⟨a, b, -, -, rfl⟩
  exact plain_segment a b

/-- The lines between all cells of a color. -/
theorem exists_segments {places : Value} (h : places.IsLocationSet (g.HasColor c)) (depth : Nat) :
    ∃ lines, Function.productMap (Value.call (depth + 1)) (.prim .line) places places = pure lines ∧
      lines.IsSetOf (g.IsSegment c) := by
  have draws (a b : Location) : Value.call (depth + 1) (.prim .line) [a.toValue, b.toValue] = pure (segment a b) := by
    rw [call_prim]
    exact lift_ok (line_toValue a b)
  rcases IsSetOf.exists_productMap (f := fun x y => segment x.toLocation y.toLocation) h h
    (fun x y ⟨a, _, ha⟩ ⟨b, _, hb⟩ => by rw [ha, hb, toLocation_toValue, toLocation_toValue]; exact draws a b)
    (fun x y _ _ => plain_segment _ _) with ⟨lines, heq, hlines⟩
  refine ⟨lines, heq, hlines.congr fun v => ?_⟩
  constructor
  · intro hv
    rcases hv with ⟨_, _, ⟨a, ha, rfl⟩, ⟨b, hb, rfl⟩, rfl⟩
    exact ⟨a, b, ha, hb, rfl⟩
  · intro hv
    rcases hv with ⟨a, b, ha, hb, rfl⟩
    exact ⟨_, _, ⟨a, ha, rfl⟩, ⟨b, hb, rfl⟩, rfl⟩

/-- The lines of more than one location. -/
theorem exists_long_segments {lines : Value} (h : lines.IsSetOf (g.IsSegment c)) (depth serial serial' : Nat) :
    ∃ long, Function.filter (Value.call (depth + 1)) lines (longerThanOne serial serial') = pure long ∧
      long.IsSetOf (g.IsLongSegment c) := by
  have filtered : ∃ long, Function.filter (Value.call (depth + 1)) lines (longerThanOne serial serial') = pure long ∧
      long.IsSetOf fun v => g.IsSegment c v ∧ 1 < v.itemList.length := by
    refine h.exists_filter (fun v hv => hv.plain) fun v hv => ?_
    rcases hv with ⟨a, b, -, -, rfl⟩
    exact ⟨_, call_longerThanOne (isLocationSet_segment a b) depth serial serial', decide_eq_true_iff⟩
  rcases filtered with ⟨long, heq, hlong⟩
  refine ⟨long, heq, hlong.congr fun v => ?_⟩
  constructor
  · intro hv
    rcases hv with ⟨⟨a, b, ha, hb, rfl⟩, longer⟩
    exact ⟨a, b, ha, hb, one_lt_length_segment_iff.mp longer, rfl⟩
  · intro hv
    rcases hv with ⟨a, b, ha, hb, apart, rfl⟩
    exact ⟨⟨a, b, ha, hb, rfl⟩, one_lt_length_segment_iff.mpr apart⟩

/-- The lines of rows and columns among those of more than one location, merged. -/
theorem exists_merged_segments {long : Value} (h : long.IsSetOf (g.IsLongSegment c)) (depth serial : Nat) :
    ∃ merged, Function.filterFlatten (Value.call (depth + 1)) long (straight serial) = pure merged ∧
      merged.IsLocationSet (g.Covered c) := by
  have filtered : ∃ merged, Function.filterFlatten (Value.call (depth + 1)) long (straight serial) = pure merged ∧
      merged.IsSetOf fun x => ∃ v, (g.IsLongSegment c v ∧
        Value.call (depth + 1) (straight serial) [v] = pure (.bool true)) ∧ x ∈ v := by
    refine h.exists_filterFlatten (fun v hv => ?_) (fun v hv => ?_) fun v hv => ?_
    · rcases hv with ⟨a, b, -, -, -, rfl⟩
      exact ⟨_, rfl⟩
    · rcases hv with ⟨a, b, -, -, -, rfl⟩
      exact plain_segment a b
    · rcases hv with ⟨a, b, -, -, apart, rfl⟩
      rcases exists_call_straight apart.1 depth serial with ⟨line, hline, -⟩
      exact ⟨line, hline, eq_true_iff hline⟩
  rcases filtered with ⟨merged, heq, hmerged⟩
  refine ⟨merged, heq, hmerged.congr fun x => ?_⟩
  constructor
  · intro hx
    rcases hx with ⟨_, ⟨⟨a, b, ha, hb, apart, rfl⟩, holds⟩, hx⟩
    rcases exists_call_straight apart.1 depth serial with ⟨line, hline, straight⟩
    rcases (IsSetOf.mem_iff (isLocationSet_segment a b) x).mp hx with ⟨l, hl, rfl⟩
    exact ⟨l, ⟨a, b, ha, hb, apart.2, straight.mp ((eq_true_iff hline).mpr holds), hl⟩, rfl⟩
  · intro hx
    rcases hx with ⟨l, ⟨a, b, ha, hb, differ, side, hl⟩, rfl⟩
    have aligned : a.Aligned b := (mem_line_iff.mp hl).1
    rcases exists_call_straight aligned depth serial with ⟨line, hline, straight⟩
    exact ⟨_, ⟨⟨a, b, ha, hb, ⟨aligned, differ⟩, rfl⟩, (eq_true_iff hline).mp (straight.mpr side)⟩,
      (isLocationSet_segment a b).toValue_mem_iff.mpr hl⟩

/-! ## The program -/

theorem program_spanning : Task.program? "253bf280" = some Task.task253bf280 := by
  decide +kernel

/-- A board that is drawn again, with the new cells of a first drawing. -/
theorem redraw_redraw (g : Board Int) (f : Location → Int) (h : Location → Int → Int) :
    ((g.redraw f).redraw fun l => h l ((g.redraw f).cell l)) = g.redraw fun l => h l (f l) := by
  refine ext_cell (by rw [height_redraw, height_redraw, height_redraw]) rfl fun l hl => ?_
  rw [inside_redraw] at hl
  rw [cell_redraw hl, cell_redraw (inside_redraw.mp hl), cell_redraw (inside_redraw.mp hl)]

open Classical in
/-- The program of the task puts threes on the lines and then eights on the ends. -/
theorem run_spanning (g : Board Int) : Task.task253bf280.run g.grid =
    .ok (g.redraw fun l => if g.HasColor 8 l then 8 else if g.Covered 8 l then 3 else g.cell l).grid := by
  rcases g.exists_locationsOf 8 with ⟨places, hplaces, eights⟩
  rcases exists_segments eights 998 with ⟨lines, hlines, segments⟩
  rcases exists_long_segments segments 998 0 1 with ⟨long, hlong, apart⟩
  rcases exists_merged_segments apart 998 2 with ⟨merged, hmerged, covered⟩
  rw [← g.redraw_redraw (fun l => if g.Covered 8 l then 3 else g.cell l) fun l old => if g.HasColor 8 l then 8 else old]
  refine Program.run_eq_ok (t := 3) ?_
  refine Program.gives_cons (gives_call rfl (gives_lift hplaces 0)) ?_
  refine Program.gives_cons (v := lines) (t := 0) (gives_call rfl ?_) ?_
  · change (Function.productMap (Value.call 999) _ _ _).Gives 0 lines 0
    rw [hlines]
    exact gives_pure 0 lines
  refine Program.gives_cons (v := .bindLast 0 1 (.prim .greater) (.int 1)) (t := 1) (gives_call rfl rfl) ?_
  refine Program.gives_cons (v := longerThanOne 0 1) (t := 2) (gives_call rfl rfl) ?_
  refine Program.gives_cons (v := long) (t := 2) (gives_call rfl ?_) ?_
  · change (Function.filter (Value.call 999) lines _).Gives 2 long 2
    rw [hlong]
    exact gives_pure 2 long
  refine Program.gives_cons (v := straight 2) (t := 3) (gives_call rfl rfl) ?_
  refine Program.gives_cons (v := merged) (t := 3) (gives_call rfl ?_) ?_
  · change (Function.filterFlatten (Value.call 999) long _).Gives 3 merged 3
    rw [hmerged]
    exact gives_pure 3 merged
  refine Program.gives_cons (gives_call rfl (gives_lift (fill_grid g covered.isPatch 3) 3)) ?_
  refine Program.gives_cons (gives_call rfl (gives_lift (fill_grid _ eights.isPatch 8) 3)) ?_
  exact Program.gives_nil rfl 3

open Classical in
/-- **The program of task `253bf280` connects the eights along rows and columns.** The result has the dimensions of the
input. An eight stays an eight. Any other cell becomes a three if there are eights to its left and to its right in its
row, or above and below it in its column, and is kept otherwise. -/
theorem spans_rows_and_columns_between_eights (g : Board Int) :
    ∃ out : Board Int, Task.solve "253bf280" g.grid = .ok out.grid ∧
      out.height = g.height ∧ out.width = g.width ∧
      ∀ l, g.Inside l → out.cell l = if g.cell l = 8 then 8 else if g.Spanned 8 l then 3 else g.cell l := by
  refine ⟨_, (Task.solve_eq_run program_spanning _).trans g.run_spanning, height_redraw g _, rfl, fun l hl => ?_⟩
  rw [cell_redraw hl]
  by_cases eight : g.HasColor 8 l
  · rw [if_pos eight, if_pos eight.2]
  · rw [if_neg eight, if_neg fun same => eight ⟨hl, same⟩]
    simp only [covered_iff_spanned eight]

end Board

end GridPuzzle
