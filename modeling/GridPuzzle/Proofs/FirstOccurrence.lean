import GridPuzzle.Proofs.DistinctLine
import Mathlib.Data.List.GetD

/-!
# First occurrences

To drop the repeated items of a tuple is to pick the places whose item equals none before it (`firstOccurrences`). What is
left has the order and the values of the tuple, and nothing more is dropped from it.

The rows of a grid are the items of a tuple, and so are its columns after a quarter turn, each of them from the bottom up.
Which columns are repeated does not depend on the order of the rows (`Board.distinctColumns_flipRows`), so they are
dropped as if the grid were not turned (`Board.rotateLeft_distinctRows_rotateRight`). The rows that are left still differ
in the columns that are left, and a second round finds nothing to drop.
-/

namespace GridPuzzle

/-! ## Places of first occurrences -/

/-- The item at a place of a list equals none before it. -/
def FirstAt (xs : List Value) (i : Nat) : Prop :=
  ∀ k < i, ¬ (xs.getD k .null == xs.getD i .null) = true

instance (xs : List Value) : DecidablePred (FirstAt xs) := fun _ => Nat.decidableBallLT _ _

/-- The items of a list that equal none before them. -/
def firstOccurrences (xs : List Value) : List Value :=
  Table.pick xs.length (FirstAt xs) fun i => xs.getD i .null

variable {xs : List Value}

theorem map_getD_range (xs : List Value) : ((List.range xs.length).map fun i => xs.getD i .null) = xs := by
  refine List.ext_getElem (by simp) fun i hi hi' => ?_
  simp [hi']

theorem eraseDups_eq_firstOccurrences (xs : List Value) : xs.eraseDups = firstOccurrences xs := by
  have picked := eraseDups_map_range (fun i => xs.getD i .null) xs.length
  rwa [map_getD_range] at picked

theorem distinct_tuple (xs : List Value) : Container.distinct (.tuple xs) = .ok (.tuple (firstOccurrences xs)) := by
  rw [← eraseDups_eq_firstOccurrences]
  rfl

theorem sublist_firstOccurrences (xs : List Value) : (firstOccurrences xs).Sublist xs := by
  have picked : (firstOccurrences xs).Sublist ((List.range xs.length).map fun i => xs.getD i .null) :=
    List.Sublist.map _ List.filter_sublist
  rwa [map_getD_range] at picked

theorem pairwise_firstOccurrences (xs : List Value) :
    (firstOccurrences xs).Pairwise fun v w => ¬ (v == w) = true := by
  rw [firstOccurrences, Table.pick, List.pairwise_map]
  refine List.Pairwise.imp_of_mem (fun {i k} _ hk order => ?_) (List.pairwise_lt_range.filter _)
  have first : FirstAt xs k := decide_eq_true_iff.mp (List.mem_filter.mp hk).2
  exact first i order

/-- No value is lost with the items that are dropped. -/
theorem sameMembers_firstOccurrences (xs : List Value) : Value.SameMembers (firstOccurrences xs) xs := by
  constructor
  · intro y hy
    exact ⟨y, (sublist_firstOccurrences xs).mem hy, BEq.rfl⟩
  · intro x hx
    obtain ⟨j, hj, rfl⟩ := List.getElem_of_mem hx
    obtain ⟨k, hk, first, same⟩ := exists_first (r := fun i j => (xs.getD i .null == xs.getD j .null) = true)
      (fun _ => BEq.rfl) (fun _ _ _ => BEq.trans) j
    have kept : k ∈ (List.range xs.length).filter fun i => FirstAt xs i :=
      List.mem_filter.mpr ⟨List.mem_range.mpr (hk.trans_lt hj), decide_eq_true first⟩
    refine ⟨_, List.mem_map_of_mem kept, ?_⟩
    rwa [List.getD_eq_getElem _ _ hj] at same

/-- Where no items are equal, each of them is a first one. -/
theorem firstOccurrences_of_pairwise (distinct : xs.Pairwise fun v w => ¬ (v == w) = true) :
    firstOccurrences xs = xs := by
  have first : ∀ i ∈ List.range xs.length, decide (FirstAt xs i) = true := by
    intro i hi
    have bound : i < xs.length := List.mem_range.mp hi
    refine decide_eq_true fun k hk => ?_
    rw [List.getD_eq_getElem _ _ (hk.trans bound), List.getD_eq_getElem _ _ bound]
    exact List.pairwise_iff_getElem.mp distinct k i (hk.trans bound) bound hk
  rw [firstOccurrences, Table.pick, List.filter_eq_self.mpr first, map_getD_range]

/-! ## Distinct rows and columns -/

/-- The steps by which first the repeated rows of a grid are dropped and then, after a quarter turn and before the turn
back, its repeated columns. -/
def Grid.distinctLines (grid : Value) : Outcome Value := do
  let turned ← Grid.rotateRight (← Container.distinct grid)
  Grid.rotateLeft (← Container.distinct turned)

namespace Board

variable {b : Board Value} {j k : Nat}

/-- No two columns of the board are equal. -/
def DistinctColumns (b : Board Value) : Prop :=
  ∀ j k, j < k → k < b.width → ¬ b.SameColumn j k

theorem distinctColumns_iff_transpose : b.DistinctColumns ↔ b.transpose.DistinctRows := by
  unfold DistinctColumns DistinctRows
  rw [height_transpose]
  exact forall₄_congr fun j k order hk => not_congr (sameRow_transpose (order.trans hk) hk).symm

theorem DistinctRows.distinctRows_eq (h : b.DistinctRows) : b.distinctRows = b := by
  apply ext_rows
  have first : ∀ i ∈ List.range b.height, decide (b.FirstRow i) = true := fun i hi =>
    decide_eq_true fun k hk => h k i hk (List.mem_range.mp hi)
  change ((List.range b.height).filter fun i => b.FirstRow i).map b.row = b.rows
  rw [List.filter_eq_self.mpr first, ← rows_eq_map_row]

theorem DistinctColumns.distinctColumns_eq (h : b.DistinctColumns) : b.distinctColumns = b := by
  rw [← transpose_distinctRows_transpose, (distinctColumns_iff_transpose.mp h).distinctRows_eq, transpose_transpose]

theorem sameColumn_flipRows (hj : j < b.width) (hk : k < b.width) : b.flipRows.SameColumn j k ↔ b.SameColumn j k := by
  unfold SameColumn
  rw [height_flipRows]
  constructor
  · intro same i hi
    have reversed := same (b.height - 1 - i) (by omega)
    have back : b.height - 1 - (b.height - 1 - i) = i := by omega
    rwa [cell_flipRows (by omega) hj, cell_flipRows (by omega) hk, back] at reversed
  · intro same i hi
    rw [cell_flipRows hi hj, cell_flipRows hi hk]
    exact same _ (by omega)

/-- Which columns are dropped does not depend on the order of the rows. -/
theorem distinctColumns_flipRows (b : Board Value) : b.flipRows.distinctColumns = b.distinctColumns.flipRows := by
  have reversed (f : Nat → List Value) :
      ((List.range b.height).map f).reverse = (List.range b.height).map fun i => f (b.height - 1 - i) := by
    refine List.ext_getElem (by simp) fun i hi hi' => ?_
    simp
  have first {j : Nat} (hj : j < b.width) : b.flipRows.FirstColumn j ↔ b.FirstColumn j :=
    forall₂_congr fun k hk => not_congr (sameColumn_flipRows (hk.trans hj) hj)
  apply ext_rows
  change (List.range b.flipRows.height).map (fun (i : Nat) =>
    Table.pick b.width b.flipRows.FirstColumn fun (j : Nat) => b.flipRows.cell (i, j)) = List.reverse _
  rw [distinctColumns, reversed, height_flipRows]
  refine List.map_congr_left fun i hi => Table.pick_congr (fun j hj => first hj) fun j hj => ?_
  exact cell_flipRows (List.mem_range.mp hi) hj

/-- Between two quarter turns that undo each other, the columns are dropped as the rows of the turned board. -/
theorem rotateLeft_distinctRows_rotateRight (b : Board Value) :
    (b.turn .rotateRight).distinctRows.turn .rotateLeft = b.distinctColumns := by
  have turned (c : Board Value) : c.turn .rotateLeft = c.transpose.flipRows :=
    (c.turn_turn (.flip .rows) (.flip .diagonal)).symm
  rw [turned]
  change b.flipRows.transpose.distinctRows.transpose.flipRows = _
  rw [transpose_distinctRows_transpose, distinctColumns_flipRows]
  exact b.distinctColumns.turn_turn (.flip .rows) (.flip .rows)

theorem distinctLines_toValue (b : Board Value) :
    Grid.distinctLines b.toValue = .ok b.distinctRows.distinctColumns.toValue := by
  have right : Grid.rotateRight b.distinctRows.toValue = .ok (b.distinctRows.turn .rotateRight).toValue :=
    b.distinctRows.apply_toValue .rotateRight
  have left : Grid.rotateLeft (b.distinctRows.turn .rotateRight).distinctRows.toValue = _ :=
    (b.distinctRows.turn .rotateRight).distinctRows.apply_toValue .rotateLeft
  rw [Grid.distinctLines, distinct_toValue, Outcome.ok_bind, right, Outcome.ok_bind, distinct_toValue, Outcome.ok_bind,
    left, rotateLeft_distinctRows_rotateRight]

end Board

/-- **First items stay, and grids are left without equal lines.** From a tuple the items are dropped that equal one before
them. So what is left is in the order of the tuple, has no two equal items, has an equal of each item of the tuple, and
is not changed by dropping repeated items again. If first the repeated rows of a grid are dropped and then, between two
quarter turns, its repeated columns, no rows and no columns of the grid are equal any more, and the same steps on it
change nothing. -/
theorem first_items_stay_and_lines_become_distinct :
    (∀ xs : List Value, Container.distinct (.tuple xs) = .ok (.tuple (firstOccurrences xs)) ∧
      (firstOccurrences xs).Sublist xs ∧ ((firstOccurrences xs).Pairwise fun v w => ¬ (v == w) = true) ∧
      Value.SameMembers (firstOccurrences xs) xs ∧
      Container.distinct (.tuple (firstOccurrences xs)) = .ok (.tuple (firstOccurrences xs))) ∧
    ∀ b : Board Value, ∃ out : Board Value, out = b.distinctRows.distinctColumns ∧
      Grid.distinctLines b.toValue = .ok out.toValue ∧ out.DistinctRows ∧ out.DistinctColumns ∧
      Grid.distinctLines out.toValue = .ok out.toValue := by
  constructor
  · intro xs
    refine ⟨distinct_tuple xs, sublist_firstOccurrences xs, pairwise_firstOccurrences xs,
      sameMembers_firstOccurrences xs, ?_⟩
    rw [distinct_tuple, firstOccurrences_of_pairwise (pairwise_firstOccurrences xs)]
  · intro b
    have rows : b.distinctRows.distinctColumns.DistinctRows := b.distinctRows_distinctRows.distinctColumns
    have columns : b.distinctRows.distinctColumns.DistinctColumns :=
      Board.distinctColumns_iff_transpose.mpr (Board.distinctRows_transpose_distinctColumns b.distinctRows)
    refine ⟨_, rfl, b.distinctLines_toValue, rows, columns, ?_⟩
    rw [Board.distinctLines_toValue, rows.distinctRows_eq, columns.distinctColumns_eq]

end GridPuzzle
