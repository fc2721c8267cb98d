import GridPuzzle.Proofs.ObjectSymmetry
import GridPuzzle.Proofs.PatternExtension
import Mathlib.Data.List.Sort

/-!
# Sorted columns

Items are sorted by numbers as keys. The longest run at the front is kept, or turned round if it descends, and each
item behind it is inserted at a place that is found by halving. `exists_insertionPlace` follows the search: what lies
before its lower bound has no greater key, and what lies behind its upper bound has greater keys. One insertion keeps
the items in order (`exists_insertSorted`), so all insertions do, and sorting gives the same items with their keys in
order (`exists_sortKeyed`).

The program of task `1e0a9b12` sorts the rows of a turned board and turns it back. A quarter turn makes each column a
row, read from top to bottom (`Board.row_turn_rotateLeft`), so its columns are sorted.
-/

namespace GridPuzzle

open Eval

namespace Value

/-! ## Items with numbers as keys -/

/-- An item with a number as its key. -/
def keyed (x : Int × Value) : Keyed :=
  (.int x.1, x.2)

/-- No item has a smaller key than one before it. -/
def Ascending (xs : List (Int × Value)) : Prop :=
  xs.Pairwise fun x y => x.1 ≤ y.1

variable {xs ys : List (Int × Value)} {key : Int}

theorem lt_int (m n : Int) : lt (.int m) (.int n) = .ok (decide (m < n)) :=
  rfl

/-! ## Runs -/

section

variable {r : Int → Int → Prop} [DecidableRel r] (trans : ∀ {k m n}, r k m → r m n → r k n)
include trans

omit [DecidableRel r] in
theorem pairwise_cons_cons {x y : Int × Value} (first : r x.1 y.1) (chain : (y :: ys).Pairwise fun x y => r x.1 y.1) :
    (x :: y :: ys).Pairwise fun x y => r x.1 y.1 := by
  refine List.pairwise_cons.mpr ⟨fun z hz => ?_, chain⟩
  rcases List.mem_cons.mp hz with rfl | hz
  · exact first
  · exact trans first ((List.pairwise_cons.mp chain).1 z hz)

/-- A run takes items from the front while each key is related to the one before it. -/
theorem exists_continueRun (next : Value → Value → Outcome Bool)
    (compares : ∀ m n, next (.int m) (.int n) = .ok (decide (r m n))) (last : Int × Value) (xs : List (Int × Value)) :
    ∃ run rest, continueRun next (keyed last) (xs.map keyed) = .ok (run.map keyed, rest.map keyed) ∧
      xs = run ++ rest ∧ (last :: run).Pairwise fun x y => r x.1 y.1 := by
  induction xs generalizing last with
  | nil => exact ⟨[], [], rfl, rfl, List.pairwise_singleton _ _⟩
  | cons x xs ih =>
      have first : next (keyed last).1 (keyed x).1 = .ok (decide (r last.1 x.1)) := compares _ _
      rw [List.map_cons, continueRun, first, Outcome.ok_bind]
      by_cases related : r last.1 x.1
      · rcases ih x with ⟨run, rest, heq, rfl, chain⟩
        rw [decide_eq_true related, if_pos rfl, heq]
        exact ⟨x :: run, rest, rfl, rfl, pairwise_cons_cons (r := r) trans related chain⟩
      · rw [decide_eq_false related, if_neg Bool.false_ne_true]
        exact ⟨[], x :: xs, rfl, rfl, List.pairwise_singleton _ _⟩

end

/-- The first run is in order, and no item is lost. -/
theorem exists_firstRun (xs : List (Int × Value)) :
    ∃ run rest, firstRun (xs.map keyed) = .ok (run.map keyed, rest.map keyed) ∧ (run ++ rest).Perm xs ∧
      Ascending run := by
  cases xs with
  | nil => exact ⟨[], [], rfl, .refl _, List.Pairwise.nil⟩
  | cons x xs =>
      cases xs with
      | nil => exact ⟨[x], [], rfl, .refl _, List.pairwise_singleton _ _⟩
      | cons y xs =>
          have first : lt (keyed y).1 (keyed x).1 = .ok (decide (y.1 < x.1)) := lt_int _ _
          rw [List.map_cons, List.map_cons, firstRun, first, Outcome.ok_bind]
          by_cases descends : y.1 < x.1
          · have trans {k m n : Int} (h : m < k) (h' : n < m) : n < k := h'.trans h
            rcases exists_continueRun (r := (· > ·)) trans (fun a b => lt b a) (fun m n => lt_int n m) y xs with
              ⟨run, rest, heq, rfl, chain⟩
            rw [decide_eq_true descends, if_pos rfl, heq]
            refine ⟨(x :: y :: run).reverse, rest, ?_, (List.reverse_perm _).append_right rest, ?_⟩
            · rw [List.map_reverse]
              rfl
            · exact List.pairwise_reverse.mpr ((pairwise_cons_cons (r := (· > ·)) trans descends chain).imp le_of_lt)
          · have compares (m n : Int) : (do return !(← lt (.int n) (.int m))) = Except.ok (decide (m ≤ n)) := by
              rw [lt_int, Outcome.ok_bind, ← decide_not]
              simp only [Int.not_lt, Outcome.pure_eq_ok]
            rcases exists_continueRun (r := (· ≤ ·)) Int.le_trans (fun a b => do return !(← lt b a)) compares y xs with
              ⟨run, rest, heq, rfl, chain⟩
            rw [decide_eq_false descends, if_neg Bool.false_ne_true, heq]
            exact ⟨x :: y :: run, rest, rfl, .refl _,
              pairwise_cons_cons (r := (· ≤ ·)) Int.le_trans (Int.not_lt.mp descends) chain⟩

/-! ## Insertions -/

theorem Ascending.le_of_le (h : Ascending xs) {i j : Nat} (hj : j < xs.length) (hij : i ≤ j) :
    (xs.get ⟨i, hij.trans_lt hj⟩).1 ≤ (xs.get ⟨j, hj⟩).1 := by
  rcases hij.eq_or_lt with rfl | hij
  · exact Int.le_refl _
  · exact List.pairwise_iff_getElem.mp h i j _ hj hij

/-- The keys before a place are not greater than a key, and those from another place on are. -/
structure Brackets (xs : List (Int × Value)) (key : Int) (low high : Nat) : Prop where
  below : ∀ i (hi : i < xs.length), i < low → (xs.get ⟨i, hi⟩).1 ≤ key
  above : ∀ i (hi : i < xs.length), high ≤ i → key < (xs.get ⟨i, hi⟩).1

/-- The search for the place of a key ends between its bounds if it may halve often enough. -/
theorem exists_insertionPlace (h : Ascending xs) {fuel low high : Nat} (bound : high ≤ xs.length) (order : low ≤ high)
    (enough : high - low ≤ fuel) (brackets : Brackets xs key low high) :
    ∃ place, insertionPlace (xs.map keyed) (.int key) fuel low high = .ok place ∧ Brackets xs key place place := by
  induction fuel generalizing low high with
  | zero =>
      have same : low = high := by omega
      subst same
      exact ⟨low, rfl, brackets⟩
  | succ fuel ih =>
      rw [insertionPlace]
      by_cases apart : low < high
      · have inside : low + (high - low) / 2 < xs.length := by omega
        have middle : (xs.map keyed)[low + (high - low) / 2]? = some (keyed (xs.get ⟨_, inside⟩)) := by
          rw [List.getElem?_map, List.getElem?_eq_getElem inside]
          rfl
        have compares : lt (.int key) (keyed (xs.get ⟨_, inside⟩)).1 = .ok (decide (key < (xs.get ⟨_, inside⟩).1)) :=
          lt_int _ _
        rw [if_pos apart]
        simp only [middle, compares, Outcome.ok_bind, decide_eq_true_eq]
        by_cases less : key < (xs.get ⟨_, inside⟩).1
        · rw [if_pos less]
          refine ih (by omega) (by omega) (by omega) ⟨brackets.below, fun i hi behind => ?_⟩
          exact less.trans_le (h.le_of_le hi behind)
        · rw [if_neg less]
          refine ih bound (by omega) (by omega) ⟨fun i hi before => ?_, brackets.above⟩
          exact (h.le_of_le inside (Nat.le_of_lt_succ before)).trans (Int.not_lt.mp less)
      · have same : low = high := by omega
        subst same
        rw [if_neg apart]
        exact ⟨low, rfl, brackets⟩

theorem Brackets.le_of_mem_take {place : Nat} (h : Brackets xs key place place) {x : Int × Value}
    (hx : x ∈ xs.take place) : x.1 ≤ key := by
  rcases List.mem_take_iff_getElem.mp hx with ⟨i, hi, rfl⟩
  exact h.below i (by omega) (by omega)

theorem Brackets.lt_of_mem_drop {place : Nat} (h : Brackets xs key place place) {x : Int × Value}
    (hx : x ∈ xs.drop place) : key < x.1 := by
  rcases List.mem_drop_iff_getElem.mp hx with ⟨i, hi, rfl⟩
  exact h.above (place + i) (by omega) (Nat.le_add_right _ _)

/-- One more item in a list that is in order. -/
theorem exists_insertSorted (h : Ascending xs) (x : Int × Value) :
    ∃ ys, insertSorted (xs.map keyed) (keyed x) = .ok (ys.map keyed) ∧ ys.Perm (x :: xs) ∧ Ascending ys := by
  have start : Brackets xs x.1 0 xs.length :=
    ⟨fun i _ before => absurd before (Nat.not_lt_zero i), fun i hi behind => absurd hi (Nat.not_lt.mpr behind)⟩
  rcases exists_insertionPlace h (Nat.le_refl _) (Nat.zero_le _) (Nat.sub_le _ _) start with ⟨place, heq, split⟩
  refine ⟨xs.take place ++ x :: xs.drop place, ?_, ?_, ?_⟩
  · rw [insertSorted, List.length_map, keyed, heq]
    simp only [Outcome.ok_bind, Outcome.pure_eq_ok, List.map_append, List.map_cons, List.map_take, List.map_drop]
    rfl
  · exact List.perm_middle.trans (.cons x (.of_eq (List.take_append_drop place xs)))
  · refine List.pairwise_append.mpr ⟨h.sublist (List.take_sublist _ _), List.pairwise_cons.mpr ⟨fun y hy => ?_, ?_⟩, ?_⟩
    · exact le_of_lt (split.lt_of_mem_drop hy)
    · exact h.sublist (List.drop_sublist _ _)
    · intro y hy z hz
      have before := split.le_of_mem_take hy
      rcases List.mem_cons.mp hz with rfl | hz
      · exact before
      · exact before.trans (le_of_lt (split.lt_of_mem_drop hz))

theorem exists_foldlM_insertSorted (h : Ascending xs) (rest : List (Int × Value)) :
    ∃ ys, (rest.map keyed).foldlM insertSorted (xs.map keyed) = .ok (ys.map keyed) ∧ ys.Perm (xs ++ rest) ∧
      Ascending ys := by
  induction rest generalizing xs with
  | nil => exact ⟨xs, rfl, .of_eq (List.append_nil xs).symm, h⟩
  | cons x rest ih =>
      rcases exists_insertSorted h x with ⟨ys, heq, perm, ascending⟩
      rcases ih ascending with ⟨zs, heq', perm', ascending'⟩
      refine ⟨zs, ?_, ?_, ascending'⟩
      · rw [List.map_cons, List.foldlM_cons, heq, Outcome.ok_bind, heq']
      · exact perm'.trans ((perm.append_right rest).trans List.perm_middle.symm)

/-- Sorting gives the items with their keys in order. -/
theorem exists_sortKeyed (xs : List (Int × Value)) :
    ∃ ys, sortKeyed (xs.map keyed) = .ok (ys.map Prod.snd) ∧ ys.Perm xs ∧ Ascending ys := by
  rcases exists_firstRun xs with ⟨run, rest, heq, perm, ascending⟩
  rcases exists_foldlM_insertSorted ascending rest with ⟨ys, heq', perm', ascending'⟩
  refine ⟨ys, ?_, perm'.trans perm, ascending'⟩
  rw [sortKeyed, heq, Outcome.ok_bind]
  simp only [heq', Outcome.ok_bind, Outcome.pure_eq_ok, List.map_map]
  rfl

/-- The items of a container in the order of keys that are numbers. -/
theorem exists_sortBy {call : Caller} {container function : Value} {items : List Value} {f : Value → Int}
    (hitems : container.items = .ok items)
    (keys : ∀ v ∈ items, Function.key call function v = pure (.int (f v))) :
    ∃ sorted, Function.sortBy call container function = pure (.tuple sorted) ∧ sorted.Perm items ∧
      sorted.Pairwise fun v w => f v ≤ f w := by
  have each : (items.mapM fun v => return (← Function.key call function v, v)) =
      (pure ((items.map fun v => (f v, v)).map keyed) : Eval (List Keyed)) := by
    rw [List.map_map]
    refine mapM_eq_pure_map fun v hv => ?_
    rw [keys v hv, pure_bind]
    rfl
  rcases exists_sortKeyed (items.map fun v => (f v, v)) with ⟨ys, heq, perm, ascending⟩
  have own : ∀ y ∈ ys, y.1 = f y.2 := by
    intro y hy
    rcases List.mem_map.mp (perm.mem_iff.mp hy) with ⟨v, -, rfl⟩
    rfl
  refine ⟨ys.map Prod.snd, ?_, ?_, List.pairwise_map.mpr ?_⟩
  · rw [Function.sortBy, lift_ok hitems, pure_bind, each, pure_bind, lift_ok heq, pure_bind]
  · have items_eq : (items.map fun v => (f v, v)).map Prod.snd = items := by
      rw [List.map_map]
      exact List.map_id items
    exact items_eq ▸ perm.map Prod.snd
  · refine List.Pairwise.imp_of_mem (fun hx hy order => ?_) ascending
    rwa [own _ hx, own _ hy] at order

end Value

/-! ## Rows of numbers -/

/-- The function that sorts the items of a container. -/
def sorter (serial : Nat) : Value :=
  .bindLast serial 1 (.prim .sortBy) (.prim .identity)

theorem call_sorter (depth serial : Nat) (row : List Int) :
    Value.call (depth + 2) (sorter serial) [.tuple (row.map .int)] =
      pure (.tuple ((row.insertionSort (· ≤ ·)).map .int)) := by
  have keys : ∀ v ∈ row.map Value.int,
      Function.key (Value.call (depth + 1)) (.prim .identity) v = pure (.int v.atomKey) := by
    intro v hv
    rcases List.mem_map.mp hv with ⟨n, -, rfl⟩
    exact call_prim depth .identity [.int n]
  have items : (Value.tuple (row.map .int)).items = .ok (row.map .int) := rfl
  rcases Value.exists_sortBy items keys with ⟨sorted, heq, perm, ascending⟩
  have numbers : sorted = (sorted.map Value.atomKey).map Value.int := by
    rw [List.map_map]
    refine (List.map_id sorted).symm.trans (List.map_congr_left fun v hv => ?_)
    rcases List.mem_map.mp (perm.mem_iff.mp hv) with ⟨n, -, rfl⟩
    rfl
  have same : (sorted.map Value.atomKey).Perm row := by
    have keys := perm.map Value.atomKey
    rw [List.map_map] at keys
    exact keys.trans (.of_eq (List.map_id row))
  have unique : sorted.map Value.atomKey = row.insertionSort (· ≤ ·) :=
    List.Perm.eq_of_pairwise (fun _ _ _ _ => Int.le_antisymm) (List.pairwise_map.mpr ascending)
      (List.pairwise_insertionSort _ row) (same.trans (List.perm_insertionSort _ row).symm)
  rw [← unique, ← numbers, sorter, call_bindLast, call_prim]
  exact heq

namespace Board

/-! ## Rows and columns -/

section

variable {α : Type} [Inhabited α]

/-- A quarter turn anticlockwise makes the last column the first row. -/
theorem row_turn_rotateLeft {b : Board α} {i : Nat} (hi : i < b.width) :
    (b.turn .rotateLeft).row i = b.column (b.width - 1 - i) := by
  have height_eq : (b.turn .rotateLeft).height = b.width := height_turn b .rotateLeft
  have width_eq : (b.turn .rotateLeft).width = b.height := width_turn b .rotateLeft
  have back : (b.width : Int) - 1 - i = (b.width - 1 - i : Nat) := by omega
  unfold row column
  rw [width_eq]
  refine List.map_congr_left fun j hj => ?_
  rw [cell_turn_rotateLeft (inside_natCast (height_eq ▸ hi) (width_eq ▸ List.mem_range.mp hj)), back]

/-- A quarter turn clockwise makes the last row the first column. -/
theorem column_turn_rotateRight {b : Board α} {j : Nat} (hj : j < b.height) :
    (b.turn .rotateRight).column j = b.row (b.height - 1 - j) := by
  have height_eq : (b.turn .rotateRight).height = b.width := height_turn_rotateRight
  have width_eq : (b.turn .rotateRight).width = b.height := width_turn_rotateRight
  have back : (b.height : Int) - 1 - j = (b.height - 1 - j : Nat) := by omega
  unfold row column
  rw [height_eq]
  refine List.map_congr_left fun i hi => ?_
  rw [cell_turn_rotateRight (inside_natCast (height_eq ▸ List.mem_range.mp hi) (width_eq ▸ hj)), back]

end

/-- The board with the cells of each row in ascending order. -/
def sortRows (g : Board Int) : Board Int where
  rows := g.rows.map fun row => row.insertionSort (· ≤ ·)
  width := g.width
  rows_ne_nil := by simpa using g.rows_ne_nil
  width_pos := g.width_pos
  length_row row hrow := by
    rcases List.mem_map.mp hrow with ⟨old, hold, rfl⟩
    rw [List.length_insertionSort, g.length_row old hold]

theorem height_sortRows (g : Board Int) : g.sortRows.height = g.height :=
  List.length_map _

theorem row_sortRows {g : Board Int} {i : Nat} (hi : i < g.height) :
    g.sortRows.row i = (g.row i).insertionSort (· ≤ ·) := by
  have rows : (List.range g.height).map g.sortRows.row =
      (List.range g.height).map fun i => (g.row i).insertionSort (· ≤ ·) := by
    calc (List.range g.height).map g.sortRows.row = g.sortRows.rows := by rw [rows_eq_map_row, height_sortRows]
      _ = ((List.range g.height).map g.row).map fun row => row.insertionSort (· ≤ ·) :=
        congrArg _ g.rows_eq_map_row
      _ = _ := List.map_map
  exact List.map_inj_left.mp rows i (List.mem_range.mpr hi)

theorem map_sorter_grid (g : Board Int) (depth serial : Nat) :
    Function.map (Value.call (depth + 2)) (sorter serial) g.grid = pure g.sortRows.grid := by
  have rows : g.grid = .tuple (g.rows.map fun row => .tuple (row.map .int)) := congrArg Value.tuple List.map_map
  have sorted : g.sortRows.grid = .tuple (g.rows.map fun row => .tuple ((row.insertionSort (· ≤ ·)).map .int)) := by
    change Value.tuple (((g.rows.map _).map _).map _) = _
    rw [List.map_map, List.map_map]
    rfl
  rw [rows, sorted]
  exact map_tuple fun row _ => call_sorter depth serial row

/-! ## The program -/

theorem program_sorting : Task.program? "1e0a9b12" = some Task.task1e0a9b12 := by
  decide +kernel

theorem run_sorting (g : Board Int) :
    Task.task1e0a9b12.run g.grid = .ok ((g.turn .rotateLeft).sortRows.turn .rotateRight).grid := by
  refine Program.run_eq_ok (t := 1) ?_
  refine Program.gives_cons (gives_call rfl (gives_lift (g.apply_grid .rotateLeft) 0)) ?_
  refine Program.gives_cons (v := sorter 0) (t := 1) (gives_call rfl rfl) ?_
  refine Program.gives_cons (v := (g.turn .rotateLeft).sortRows.grid) (t := 1) (gives_call rfl ?_) ?_
  · exact gives_of_eq_pure (map_sorter_grid _ 997 0) 1
  refine Program.gives_cons (gives_call rfl (gives_lift (apply_grid _ .rotateRight) 1)) ?_
  exact Program.gives_nil rfl 1

/-- **The program of task `1e0a9b12` sorts the columns of a grid.** The result has the dimensions of the grid. Each of
its columns, read from top to bottom, has the same cells as that column of the grid, as often as they occur there, in
ascending order. -/
theorem sorts_columns_from_top_to_bottom (g : Board Int) :
    ∃ out : Board Int, Task.solve "1e0a9b12" g.grid = .ok out.grid ∧
      out.height = g.height ∧ out.width = g.width ∧
      ∀ j < g.width, (out.column j).Perm (g.column j) ∧ (out.column j).Pairwise (· ≤ ·) := by
  have height_eq : (g.turn .rotateLeft).height = g.width := height_turn g .rotateLeft
  have width_eq : (g.turn .rotateLeft).width = g.height := width_turn g .rotateLeft
  have sorted_height : (g.turn .rotateLeft).sortRows.height = g.width := (height_sortRows _).trans height_eq
  refine ⟨_, (Task.solve_eq_run program_sorting _).trans g.run_sorting, height_turn_rotateRight.trans width_eq,
    width_turn_rotateRight.trans sorted_height, fun j hj => ?_⟩
  have back : g.width - 1 - (g.width - 1 - j) = j := by omega
  rw [column_turn_rotateRight (sorted_height ▸ hj), sorted_height, row_sortRows (by omega), row_turn_rotateLeft (by omega),
    back]
  exact ⟨List.perm_insertionSort _ _, List.pairwise_insertionSort _ _⟩

end Board

end GridPuzzle
