import GridPuzzle.Proofs.ProgramRun
import GridPuzzle.Proofs.UniformLine

/-!
# Distinct rows and columns

Repeated items of a tuple are dropped, and the first ones stay (`eraseDups_map_range`). Applied to the rows of a grid and
then, after an exchange of rows and columns, to its columns, this leaves a board without equal rows and without equal
columns. That the columns are dropped last does no harm to the rows: two rows that differ in a column differ in the
first column that equals it (`Board.DistinctRows.distinctColumns`).

The program of task `eb5a1d5d` continues such a board by its mirror image below the last row, and then likewise to the
side. The last row is left out of the image by its value, and so it must be the only one with this value.
-/

namespace GridPuzzle

open Eval

/-! ## First occurrences -/

section

variable {α : Type} [BEq α] [PartialEquivBEq α]

/-- An item at the end is dropped if it equals one before it. -/
theorem eraseDups_concat (xs : List α) (x : α) :
    (xs ++ [x]).eraseDups = xs.eraseDups ++ if xs.any (· == x) then [] else [x] := by
  cases xs with
  | nil => rfl
  | cons y ys =>
      rw [List.cons_append, List.eraseDups_cons, List.eraseDups_cons, List.filter_append]
      by_cases same : (x == y) = true
      · simp [same, BEq.symm same]
      · have rest := eraseDups_concat (ys.filter fun z => !z == y) x
        -- What equals the last item was not dropped with the first one.
        have others : (ys.filter fun z => !z == y).any (· == x) = (y :: ys).any (· == x) := by
          have differ : (y == x) = false := Bool.eq_false_iff.mpr fun h => same (BEq.symm h)
          rw [List.any_filter, List.any_cons, differ, Bool.false_or]
          congr 1
          funext z
          cases equal : z == x with
          | false => rw [Bool.and_false]
          | true =>
              have differ' : (z == y) = false := Bool.eq_false_iff.mpr fun h => same (BEq.trans (BEq.symm equal) h)
              rw [differ']
              rfl
        rw [others] at rest
        simp only [same, List.filter_cons, Bool.not_false, if_true, List.filter_nil]
        rw [rest, List.cons_append]
termination_by xs.length
decreasing_by
  have bound := List.length_filter_le (fun z => !z == y) ys
  rw [List.length_cons]
  omega

/-- Of the values of a function at the numbers below a bound, each stays that equals none at a smaller number. -/
theorem eraseDups_map_range (f : Nat → α) (n : Nat) :
    ((List.range n).map f).eraseDups = Table.pick n (fun i => ∀ k < i, ¬ (f k == f i) = true) f := by
  induction n with
  | zero => rfl
  | succ n ih =>
      have repeated : ((List.range n).map f).any (· == f n) = true ↔ ¬ ∀ k < n, ¬ (f k == f n) = true := by
        simp
      rw [List.range_succ, List.map_append, List.map_singleton, eraseDups_concat, ih, Table.pick_succ]
      by_cases first : ∀ k < n, ¬ (f k == f n) = true
      · rw [if_neg (fun h => repeated.mp h first), if_pos first]
      · rw [if_pos (repeated.mpr first), if_neg first]

end

/-- Every number is equivalent to a first one, that is, to one that is equivalent to none before it. -/
theorem exists_first {r : Nat → Nat → Prop} (refl : ∀ i, r i i)
    (trans : ∀ i j k, r i j → r j k → r i k) (j : Nat) : ∃ k ≤ j, (∀ i < k, ¬ r i k) ∧ r k j := by
  induction j using Nat.strong_induction_on with
  | h j ih =>
      by_cases first : ∀ i < j, ¬ r i j
      · exact ⟨j, Nat.le_refl j, first, refl j⟩
      · simp only [not_forall, not_not] at first
        rcases first with ⟨k, hk, before⟩
        rcases ih k hk with ⟨l, hl, first, before'⟩
        exact ⟨l, hl.trans hk.le, first, trans l k j before' before⟩

/-- Tuples are equal if their items are, place by place. -/
theorem Value.tuple_beq_tuple {α : Type} {f g : α → Value} {xs : List α} :
    (Value.tuple (xs.map f) == .tuple (xs.map g)) = true ↔ ∀ x ∈ xs, (f x == g x) = true := by
  rw [beq_iff_compare_eq, compare]
  induction xs with
  | nil => simp [compareItems]
  | cons x xs ih =>
      rw [List.map_cons, List.map_cons, compareItems, Ordering.then_eq_eq, ih, ← beq_iff_compare_eq, List.forall_mem_cons]

/-- If no items of a list are equal, the last item is dropped by dropping what equals it. -/
theorem filter_ne_getLast {xs : List Value} (some : xs ≠ []) (distinct : xs.Pairwise fun v w => ¬ (v == w) = true) :
    xs.filter (!xs.getLast some == ·) = xs.dropLast := by
  have split : xs.dropLast ++ [xs.getLast some] = xs := List.dropLast_append_getLast some
  generalize xs.getLast some = last at split ⊢
  generalize xs.dropLast = front at split ⊢
  subst split
  have others : ∀ v ∈ front, (!last == v) = true := by
    intro v hv
    have differ := (List.pairwise_append.mp distinct).2.2 v hv last List.mem_cons_self
    rw [BEq.comm, Bool.not_eq_true', Bool.eq_false_iff]
    exact differ
  rw [List.filter_append, List.filter_eq_self.mpr others]
  simp

namespace Board

section

variable {α : Type}

theorem ext_rows {a b : Board α} (h : a.rows = b.rows) : a = b := by
  rcases List.exists_mem_of_ne_nil _ a.rows_ne_nil with ⟨row, hrow⟩
  have width_eq : a.width = b.width := (a.length_row row hrow).symm.trans (b.length_row row (h ▸ hrow))
  cases a
  cases b
  simp_all

theorem transpose_transpose [Inhabited α] (b : Board α) : b.transpose.transpose = b :=
  b.turn_turn (.flip .diagonal) (.flip .diagonal)

theorem row_transpose [Inhabited α] {b : Board α} {j : Nat} (hj : j < b.width) : b.transpose.row j = b.column j := by
  unfold row column
  exact List.map_congr_left fun i hi => cell_transpose (List.mem_range.mp hi) hj

end

variable (b : Board Value) {i j k : Nat}

/-! ## Equal rows and columns -/

/-- Two rows have equal cells. -/
def SameRow (i k : Nat) : Prop :=
  ∀ j < b.width, (b.cell (i, (j : Nat)) == b.cell (k, (j : Nat))) = true

/-- Two columns have equal cells. -/
def SameColumn (j k : Nat) : Prop :=
  ∀ i < b.height, (b.cell ((i : Nat), j) == b.cell ((i : Nat), k)) = true

/-- The row equals none above it. -/
def FirstRow (i : Nat) : Prop :=
  ∀ k < i, ¬ b.SameRow k i

/-- The column equals none to the left of it. -/
def FirstColumn (j : Nat) : Prop :=
  ∀ k < j, ¬ b.SameColumn k j

instance (i k : Nat) : Decidable (b.SameRow i k) := Nat.decidableBallLT _ _

instance (j k : Nat) : Decidable (b.SameColumn j k) := Nat.decidableBallLT _ _

instance : DecidablePred b.FirstRow := fun _ => Nat.decidableBallLT _ _

instance : DecidablePred b.FirstColumn := fun _ => Nat.decidableBallLT _ _

/-- The board without its repeated rows; of equal rows the first one stays. -/
def distinctRows : Board Value where
  rows := Table.pick b.height b.FirstRow b.row
  width := b.width
  rows_ne_nil := by
    have first : 0 ∈ (List.range b.height).filter fun i => b.FirstRow i :=
      List.mem_filter.mpr ⟨List.mem_range.mpr b.height_pos, decide_eq_true fun k hk => absurd hk (Nat.not_lt_zero k)⟩
    exact List.ne_nil_of_mem (List.mem_map_of_mem first)
  width_pos := b.width_pos
  length_row row hrow := by
    rcases List.mem_map.mp hrow with ⟨i, -, rfl⟩
    rw [Board.row, List.length_map, List.length_range]

/-- The board without its repeated columns; of equal columns the first one stays. -/
def distinctColumns : Board Value where
  rows := (List.range b.height).map fun (i : Nat) => Table.pick b.width b.FirstColumn fun (j : Nat) => b.cell (i, j)
  width := ((List.range b.width).filter fun j => b.FirstColumn j).length
  rows_ne_nil := by
    rw [Ne, List.map_eq_nil_iff, List.range_eq_nil]
    exact Nat.pos_iff_ne_zero.mp b.height_pos
  width_pos := by
    refine List.length_pos_of_mem (a := 0) (List.mem_filter.mpr ⟨List.mem_range.mpr b.width_pos, ?_⟩)
    exact decide_eq_true fun k hk => absurd hk (Nat.not_lt_zero k)
  length_row row hrow := by
    rcases List.mem_map.mp hrow with ⟨i, -, rfl⟩
    exact List.length_map _

variable {b}

theorem SameColumn.trans {l : Nat} (h : b.SameColumn j k) (h' : b.SameColumn k l) : b.SameColumn j l :=
  fun i hi => BEq.trans (h i hi) (h' i hi)

theorem row_beq_iff : (Value.tuple (b.row i) == .tuple (b.row k)) = true ↔ b.SameRow i k := by
  unfold row SameRow
  rw [Value.tuple_beq_tuple]
  simp only [List.mem_range]

theorem sameRow_transpose (hj : j < b.width) (hk : k < b.width) : b.transpose.SameRow j k ↔ b.SameColumn j k := by
  unfold SameRow SameColumn
  refine forall₂_congr fun i hi => ?_
  rw [cell_transpose hi hj, cell_transpose hi hk]

/-- Every column equals a first one. -/
theorem exists_firstColumn (j : Nat) : ∃ k ≤ j, b.FirstColumn k ∧ b.SameColumn k j :=
  exists_first (r := b.SameColumn) (fun _ _ _ => BEq.rfl) (fun _ _ _ => SameColumn.trans) j

/-! ## Boards without equal rows -/

/-- No two rows of the board are equal. -/
def DistinctRows (b : Board Value) : Prop :=
  ∀ i k, i < k → k < b.height → ¬ b.SameRow i k

theorem distinctRows_iff_pairwise :
    b.DistinctRows ↔ (b.rows.map Value.tuple).Pairwise fun v w => ¬ (v == w) = true := by
  rw [rows_eq_map_row, List.map_map, List.pairwise_map, List.pairwise_iff_getElem]
  simp only [List.getElem_range, List.length_range, Function.comp_apply, row_beq_iff]
  constructor
  · intro distinct i k _ hk order
    exact distinct i k order hk
  · intro distinct i k order hk
    exact distinct i k (order.trans hk) hk order

theorem distinctRows_distinctRows (b : Board Value) : b.distinctRows.DistinctRows := by
  rw [distinctRows_iff_pairwise, distinctRows, Table.map_pick, Table.pick, List.pairwise_map]
  refine List.Pairwise.imp_of_mem (fun {i k} _ hk order => ?_) (List.pairwise_lt_range.filter _)
  have first : b.FirstRow k := decide_eq_true_iff.mp (List.mem_filter.mp hk).2
  rw [Function.comp_apply, Function.comp_apply, row_beq_iff]
  exact first i order

/-- Rows that differ still differ when the repeated columns are left out. -/
theorem DistinctRows.distinctColumns (h : b.DistinctRows) : b.distinctColumns.DistinctRows := by
  rw [distinctRows_iff_pairwise, Board.distinctColumns, List.map_map, List.pairwise_map, List.pairwise_iff_getElem]
  intro i k hi hk order
  rw [List.length_range] at hk
  simp only [List.getElem_range, Function.comp_apply, Table.pick, Value.tuple_beq_tuple]
  intro same
  refine h i k order hk fun j hj => ?_
  rcases b.exists_firstColumn j with ⟨c, hc, first, column⟩
  have kept : c ∈ (List.range b.width).filter fun j => b.FirstColumn j :=
    List.mem_filter.mpr ⟨List.mem_range.mpr (hc.trans_lt hj), decide_eq_true first⟩
  exact BEq.trans (BEq.symm (column i (order.trans hk))) (BEq.trans (same c kept) (column k hk))

theorem rows_distinctRows_transpose (b : Board Value) :
    b.transpose.distinctRows.rows = Table.pick b.width b.FirstColumn b.column := by
  change Table.pick b.transpose.height b.transpose.FirstRow b.transpose.row = _
  rw [height_transpose]
  refine Table.pick_congr (fun j hj => ?_) fun j hj => row_transpose hj
  exact forall₂_congr fun k hk => not_congr (sameRow_transpose (hk.trans hj) hj)

/-- The columns are dropped as the rows of the columns. -/
theorem transpose_distinctRows_transpose (b : Board Value) :
    b.transpose.distinctRows.transpose = b.distinctColumns := by
  apply ext_rows
  change Table.columns b.transpose.distinctRows.rows = _
  have some := b.transpose.distinctRows.rows_ne_nil
  rw [rows_distinctRows_transpose] at some ⊢
  exact Value.columns_map_map (fun (j i : Nat) => b.cell (i, j)) (fun empty => some (by rw [Table.pick, empty]; rfl)) _

theorem distinctRows_transpose_distinctColumns (b : Board Value) : b.distinctColumns.transpose.DistinctRows := by
  rw [← transpose_distinctRows_transpose, transpose_transpose]
  exact distinctRows_distinctRows _

theorem distinct_toValue (b : Board Value) : Container.distinct b.toValue = .ok b.distinctRows.toValue := by
  have rows : b.toValue = .tuple ((List.range b.height).map fun i => .tuple (b.row i)) := by
    rw [toValue, Value.ofRows, rows_eq_map_row, List.map_map]
    rfl
  have first : b.distinctRows.toValue = .tuple (Table.pick b.height b.FirstRow fun i => .tuple (b.row i)) :=
    congrArg Value.tuple (Table.map_pick Value.tuple)
  rw [rows, first]
  refine congrArg (fun items => Except.ok (Value.tuple items)) ((eraseDups_map_range _ _).trans ?_)
  exact Table.pick_congr (fun i _ => forall₂_congr fun k _ => not_congr row_beq_iff) fun _ _ => rfl

/-! ## Mirrored boards -/

section

variable {α : Type}

/-- The board, continued below its last row by the rows above it in reverse order. -/
def mirrored (b : Board α) : Board α where
  rows := b.rows ++ b.rows.dropLast.reverse
  width := b.width
  rows_ne_nil empty := b.rows_ne_nil (List.append_eq_nil_iff.mp empty).1
  width_pos := b.width_pos
  length_row row hrow := by
    rcases List.mem_append.mp hrow with hrow | hrow
    · exact b.length_row row hrow
    · exact b.length_row row (List.mem_of_mem_dropLast (List.mem_reverse.mp hrow))

/-- The place among the first `n` places that a place is folded back to, at the last of them. -/
def foldBack (n k : Nat) : Nat :=
  if k < n then k else 2 * n - 2 - k

theorem height_mirrored (b : Board α) : b.mirrored.height = 2 * b.height - 1 := by
  have pos := b.height_pos
  unfold height at pos ⊢
  rw [mirrored, List.length_append, List.length_reverse, List.length_dropLast]
  omega

theorem flipRows_mirrored (b : Board α) : b.mirrored.flipRows = b.mirrored := by
  have split : b.rows.dropLast ++ [b.rows.getLast b.rows_ne_nil] = b.rows := List.dropLast_append_getLast _
  apply ext_rows
  change (b.rows ++ b.rows.dropLast.reverse).reverse = b.rows ++ b.rows.dropLast.reverse
  rw [List.reverse_append, List.reverse_reverse]
  nth_rewrite 2 3 [← split]
  rw [List.reverse_append, List.reverse_singleton, List.append_assoc]

theorem flipColumns_mirrored (b : Board α) : b.mirrored.flipColumns = b.flipColumns.mirrored := by
  apply ext_rows
  change (b.rows ++ b.rows.dropLast.reverse).map List.reverse = _
  rw [List.map_append, List.map_reverse, List.map_dropLast]
  rfl

variable [Inhabited α]

theorem flipColumns_transpose (b : Board α) : b.transpose.flipColumns = b.flipRows.transpose :=
  (b.turn_turn (.flip .columns) (.flip .diagonal)).trans (b.turn_turn (.flip .diagonal) (.flip .rows)).symm

theorem cell_mirrored {b : Board α} {i : Nat} (hi : i < b.mirrored.height) (j : Int) :
    b.mirrored.cell (i, j) = b.cell (foldBack b.height i, j) := by
  have found : b.mirrored.rows[i]? = b.rows[foldBack b.height i]? := by
    change (b.rows ++ b.rows.dropLast.reverse)[i]? = _
    rw [height_mirrored] at hi
    unfold foldBack height at *
    by_cases first : i < b.rows.length
    · rw [if_pos first, List.getElem?_append_left first]
    · have behind : i - b.rows.length < b.rows.dropLast.length := by
        rw [List.length_dropLast]
        omega
      have place : b.rows.dropLast.length - 1 - (i - b.rows.length) = 2 * b.rows.length - 2 - i := by
        rw [List.length_dropLast]
        omega
      rw [if_neg first, List.getElem?_append_right (Nat.not_lt.mp first), List.getElem?_reverse behind, place,
        List.getElem?_dropLast, if_pos (by omega)]
  simp only [cell, cell?, Int.toNat_natCast, found]

end

/-- A board that is continued below has no more equal columns than before. -/
theorem DistinctRows.transpose_mirrored (h : b.transpose.DistinctRows) : b.mirrored.transpose.DistinctRows := by
  intro j k order hk same
  rw [height_transpose] at hk
  have hk' : k < b.width := hk
  refine h j k order ((height_transpose b).symm ▸ hk') ?_
  rw [sameRow_transpose (order.trans hk) hk] at same
  rw [sameRow_transpose (order.trans hk') hk']
  intro i hi
  have bound : i < b.mirrored.height := by
    rw [height_mirrored]
    omega
  have cells := same i bound
  rwa [cell_mirrored bound, cell_mirrored bound, foldBack, if_pos hi] at cells

/-! ## The built functions -/

/-- The function that drops repeated rows and exchanges rows and columns. -/
def distinctTurned (serial : Nat) : Value :=
  .compose serial (.prim .transpose) (.prim .distinct)

/-- The function that drops the items that equal the last one. -/
def withoutLast (serial : Nat) : Value :=
  .fork serial (.prim .erase) (.prim .last) (.prim .identity)

/-- The function that continues a grid below by the reverse of what is above its last row. -/
def mirroring (serial serial' serial'' : Nat) : Value :=
  .fork serial'' (.prim .above) (.prim .identity) (.compose serial' (.prim .flipRows) (withoutLast serial))

theorem call_distinctTurned (b : Board Value) (depth serial : Nat) :
    Value.call (depth + 1) (distinctTurned serial) [b.toValue] = pure b.distinctRows.transpose.toValue := by
  have dropped : Value.call (depth + 1) (.prim .distinct) [b.toValue] = pure b.distinctRows.toValue := by
    rw [call_prim]
    exact lift_ok b.distinct_toValue
  rw [distinctTurned, call_compose, dropped, pure_bind, call_prim]
  exact lift_ok (b.distinctRows.apply_toValue (.flip .diagonal))

theorem call_withoutLast (h : b.DistinctRows) (depth serial : Nat) :
    Value.call (depth + 1) (withoutLast serial) [b.toValue] = pure (.tuple (b.rows.map Value.tuple).dropLast) := by
  have some : b.rows.map Value.tuple ≠ [] := by
    rw [Ne, List.map_eq_nil_iff]
    exact b.rows_ne_nil
  have last : Value.call (depth + 1) (.prim .last) [b.toValue] = pure ((b.rows.map Value.tuple).getLast some) := by
    rw [call_prim]
    refine lift_ok ?_
    rw [Container.last, items_toValue, Outcome.ok_bind, List.getLast?_eq_some_getLast some, Outcome.ofOption_some]
  have same : Value.call (depth + 1) (.prim .identity) [b.toValue] = pure b.toValue := call_prim depth .identity _
  rw [withoutLast, call_fork, last, pure_bind, same, pure_bind, call_prim]
  refine lift_ok ?_
  rw [Container.erase, items_toValue, Outcome.ok_bind, filter_ne_getLast some (distinctRows_iff_pairwise.mp h)]
  rfl

theorem call_mirroring (h : b.DistinctRows) (depth serial serial' serial'' : Nat) :
    Value.call (depth + 1) (mirroring serial serial' serial'') [b.toValue] = pure b.mirrored.toValue := by
  have same : Value.call (depth + 1) (.prim .identity) [b.toValue] = pure b.toValue := call_prim depth .identity _
  have joined : b.mirrored.toValue = .tuple (b.rows.map Value.tuple ++ (b.rows.map Value.tuple).dropLast.reverse) := by
    change Value.tuple ((b.rows ++ b.rows.dropLast.reverse).map Value.tuple) = _
    rw [List.map_append, List.map_reverse, List.map_dropLast]
  have turned : Value.call (depth + 1) (.prim .flipRows) [.tuple (b.rows.map Value.tuple).dropLast] =
      pure (.tuple (b.rows.map Value.tuple).dropLast.reverse) := call_prim depth .flipRows _
  rw [mirroring, call_fork, same, pure_bind, call_compose, call_withoutLast h, pure_bind, turned, pure_bind, call_prim,
    joined]
  rfl

/-! ## The program -/

theorem program_mirroring : Task.program? "eb5a1d5d" = some Task.taskeb5a1d5d := by
  decide +kernel

theorem run_mirroring (b : Board Value) : Task.taskeb5a1d5d.run b.toValue =
    .ok b.distinctRows.distinctColumns.mirrored.transpose.mirrored.toValue := by
  let core := b.distinctRows.distinctColumns
  have distinct : core.DistinctRows := (distinctRows_distinctRows b).distinctColumns
  have distinct' : core.mirrored.transpose.DistinctRows :=
    (distinctRows_transpose_distinctColumns b.distinctRows).transpose_mirrored
  have turned : b.distinctRows.transpose.distinctRows.transpose = core := transpose_distinctRows_transpose _
  refine Program.run_eq_ok (t := 4) ?_
  refine Program.gives_cons (v := distinctTurned 0) (t := 1) (gives_call rfl rfl) ?_
  refine Program.gives_cons (v := b.distinctRows.transpose.toValue) (t := 1) (gives_callResult rfl rfl ?_) ?_
  · exact gives_of_eq_pure (b.call_distinctTurned 999 0) 1
  refine Program.gives_cons (v := core.toValue) (t := 1) (gives_callResult rfl rfl ?_) ?_
  · rw [← turned]
    exact gives_of_eq_pure (b.distinctRows.transpose.call_distinctTurned 999 0) 1
  refine Program.gives_cons (v := withoutLast 1) (t := 2) (gives_call rfl rfl) ?_
  refine Program.gives_cons (v := .compose 2 (.prim .flipRows) (withoutLast 1)) (t := 3) (gives_call rfl rfl) ?_
  refine Program.gives_cons (v := mirroring 1 2 3) (t := 4) (gives_call rfl rfl) ?_
  refine Program.gives_cons (v := core.mirrored.toValue) (t := 4) (gives_callResult rfl rfl ?_) ?_
  · exact gives_of_eq_pure (call_mirroring distinct 999 1 2 3) 4
  refine Program.gives_cons (v := core.mirrored.transpose.toValue) (t := 4) (gives_call rfl ?_) ?_
  · exact gives_lift (core.mirrored.apply_toValue (.flip .diagonal)) 4
  refine Program.gives_cons (v := core.mirrored.transpose.mirrored.toValue) (t := 4) (gives_callResult rfl rfl ?_) ?_
  · exact gives_of_eq_pure (call_mirroring distinct' 999 1 2 3) 4
  exact Program.gives_nil rfl 4

/-- **The program of task `eb5a1d5d` drops repeated rows and columns and mirrors what is left.** Let the core be the grid
without the rows that equal one above them, and then without the columns that equal one to the left of them. The result
has the rows of the core as columns and its columns as rows, both continued by their mirror image at the last of them. So
the result is its own mirror image in either direction. -/
theorem mirrors_distinct_rows_and_columns (b : Board Value) :
    ∃ core out : Board Value, core = b.distinctRows.distinctColumns ∧
      Task.solve "eb5a1d5d" b.toValue = .ok out.toValue ∧
      out.height = 2 * core.width - 1 ∧ out.width = 2 * core.height - 1 ∧
      (∀ i < out.height, ∀ j < out.width, out.cell ((i : Nat), (j : Nat)) =
        core.cell (foldBack core.height j, foldBack core.width i)) ∧
      Grid.flipRows out.toValue = .ok out.toValue ∧ Grid.flipColumns out.toValue = .ok out.toValue := by
  let core := b.distinctRows.distinctColumns
  have height_eq : core.mirrored.transpose.height = core.width := height_transpose core.mirrored
  refine ⟨core, core.mirrored.transpose.mirrored, rfl, (Task.solve_eq_run program_mirroring _).trans b.run_mirroring,
    ?_, height_mirrored core, fun i hi j hj => ?_, ?_, ?_⟩
  · rw [height_mirrored, height_eq]
  · have row : foldBack core.width i < core.mirrored.width := by
      rw [height_mirrored, height_eq] at hi
      change _ < core.width
      unfold foldBack
      split <;> omega
    rw [cell_mirrored hi, height_eq, core.mirrored.carries_transpose.cell (inside_natCast hj row), cell_mirrored hj]
  · have turned := core.mirrored.transpose.mirrored.apply_toValue (.flip .rows)
    rw [turn, flipRows_mirrored] at turned
    exact turned
  · have turned := core.mirrored.transpose.mirrored.apply_toValue (.flip .columns)
    rw [turn, flipColumns_mirrored, flipColumns_transpose, flipRows_mirrored] at turned
    exact turned

end Board

end GridPuzzle
