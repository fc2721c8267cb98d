import GridPuzzle.Proofs.ValueOrder
import Mathlib.Data.List.Pairwise

/-!
# Sets of values

A set keeps its items strictly increasing. `Value.canonical` brings any list into this form: its items
are among those of the list (`mem_of_mem_canonical`), and each item of the list equals one of them
(`exists_mem_canonical_beq`). Strictly increasing lists with the same members are the same list
(`Increasing.eq_of_mem_iff`), so a set of plain values is given by its members.

`v.IsSetOf P` says that the value `v` is the set of the values with the property `P`. It is the form in
which the results of set-valued operations are stated: `IsSetOf.unique` makes it an equation. Sets of any
values are equal if each member of either equals one of the other (`IsSetOf.beq_iff`).
-/

namespace GridPuzzle

namespace Value

/-- Each item stands before all that follow it, and equals none of them. -/
def Increasing (xs : List Value) : Prop :=
  xs.Pairwise fun a b => compare a b = .lt

theorem Increasing.nodup {xs : List Value} (h : Increasing xs) : xs.Nodup := by
  refine h.imp fun {a b} hab heq => ?_
  subst heq
  rw [compare_self] at hab
  cases hab

/-- An increasing list is given by its members. -/
theorem Increasing.eq_of_mem_iff {xs ys : List Value} (hx : Increasing xs) (hy : Increasing ys)
    (h : ∀ v, v ∈ xs ↔ v ∈ ys) : xs = ys := by
  have perm : xs.Perm ys := (List.perm_ext_iff_of_nodup hx.nodup hy.nodup).mpr h
  refine perm.eq_of_pairwise (fun a b _ _ hab hba => ?_) hx hy
  exact absurd hba (Std.OrientedCmp.not_lt_of_lt hab)

/-! ## The canonical list of members -/

theorem le_iff_isLE {a b : Value} : le a b = true ↔ (compare a b).isLE = true := by
  unfold le
  cases compare a b <;> decide

theorem le_trans {a b c : Value} (hab : le a b = true) (hbc : le b c = true) : le a c = true :=
  le_iff_isLE.mpr (Std.TransCmp.isLE_trans (le_iff_isLE.mp hab) (le_iff_isLE.mp hbc))

theorem le_total (a b : Value) : (le a b || le b a) = true := by
  unfold le
  rw [compare_swap a b]
  cases compare a b <;> decide

theorem lt_of_le_of_ne {a b : Value} (hle : le a b = true) (hne : ¬ (a == b) = true) :
    compare a b = .lt := by
  rw [beq_iff_compare_eq] at hne
  unfold le at hle
  cases h : compare a b with
  | lt => rfl
  | eq => exact absurd h hne
  | gt => rw [h] at hle; cases hle

theorem pairwise_mergeSort_le (xs : List Value) : (xs.mergeSort le).Pairwise (le · · = true) :=
  List.pairwise_mergeSort (fun a b c => @le_trans a b c) le_total xs

/-- What is left of a sorted list behind `last` is strictly increasing and stands behind `last`. -/
theorem increasing_cons_dropRepeats {last : Value} {xs : List Value}
    (h : (last :: xs).Pairwise (le · · = true)) : Increasing (last :: dropRepeats last xs) := by
  induction xs generalizing last with
  | nil => exact List.pairwise_singleton _ _
  | cons x xs ih =>
      obtain ⟨hlast, hrest⟩ := List.pairwise_cons.mp h
      obtain ⟨-, hrest'⟩ := List.pairwise_cons.mp hrest
      unfold dropRepeats
      by_cases heq : (last == x) = true
      · rw [if_pos heq]
        exact ih (List.pairwise_cons.mpr ⟨fun y hy => hlast y (List.mem_cons_of_mem x hy), hrest'⟩)
      · rw [if_neg heq]
        have hlt : compare last x = .lt := lt_of_le_of_ne (hlast x List.mem_cons_self) heq
        have inner : Increasing (x :: dropRepeats x xs) := ih hrest
        refine List.pairwise_cons.mpr ⟨fun y hy => ?_, inner⟩
        rcases List.mem_cons.mp hy with rfl | hy
        · exact hlt
        · exact Std.TransCmp.lt_trans hlt ((List.pairwise_cons.mp inner).1 y hy)

theorem mem_of_mem_dropRepeats {last v : Value} {xs : List Value}
    (h : v ∈ dropRepeats last xs) : v ∈ xs := by
  induction xs generalizing last with
  | nil => exact h
  | cons x xs ih =>
      unfold dropRepeats at h
      split at h
      · exact List.mem_cons_of_mem x (ih h)
      · rcases List.mem_cons.mp h with rfl | h
        · exact List.mem_cons_self
        · exact List.mem_cons_of_mem x (ih h)

theorem exists_mem_dropRepeats_beq {last v : Value} {xs : List Value} (h : v ∈ xs) :
    ∃ w ∈ last :: dropRepeats last xs, (w == v) = true := by
  induction xs generalizing last with
  | nil => cases h
  | cons x xs ih =>
      unfold dropRepeats
      split
      next heq =>
        rcases List.mem_cons.mp h with rfl | h
        · exact ⟨last, List.mem_cons_self, heq⟩
        · exact ih h
      next =>
        rcases List.mem_cons.mp h with rfl | h
        · exact ⟨v, by simp, BEq.rfl⟩
        · obtain ⟨w, hw, hwv⟩ := @ih x h
          exact ⟨w, List.mem_cons_of_mem last hw, hwv⟩

theorem increasing_canonical (xs : List Value) : Increasing (canonical xs) := by
  have sorted := pairwise_mergeSort_le xs
  unfold canonical
  split
  next => exact List.Pairwise.nil
  next x rest heq =>
    rw [heq] at sorted
    exact increasing_cons_dropRepeats sorted

theorem mem_of_mem_canonical {v : Value} {xs : List Value} (h : v ∈ canonical xs) : v ∈ xs := by
  unfold canonical at h
  split at h
  next => cases h
  next x rest heq =>
    rw [← (List.mergeSort_perm xs le).mem_iff, heq]
    rcases List.mem_cons.mp h with rfl | h
    · exact List.mem_cons_self
    · exact List.mem_cons_of_mem x (mem_of_mem_dropRepeats h)

theorem exists_mem_canonical_beq {v : Value} {xs : List Value} (h : v ∈ xs) :
    ∃ w ∈ canonical xs, (w == v) = true := by
  rw [← (List.mergeSort_perm xs le).mem_iff] at h
  unfold canonical
  split
  next heq => rw [heq] at h; cases h
  next x rest heq =>
    rw [heq] at h
    rcases List.mem_cons.mp h with rfl | h
    · exact ⟨v, List.mem_cons_self, BEq.rfl⟩
    · exact exists_mem_dropRepeats_beq h

/-- If only the same items of a list are equal, the members of the set are the items. -/
theorem mem_canonical {v : Value} {xs : List Value}
    (eq_of_beq : ∀ x ∈ xs, ∀ y ∈ xs, (x == y) = true → x = y) : v ∈ canonical xs ↔ v ∈ xs := by
  refine ⟨mem_of_mem_canonical, fun h => ?_⟩
  obtain ⟨w, hw, heq⟩ := exists_mem_canonical_beq h
  rwa [← eq_of_beq w (mem_of_mem_canonical hw) v h heq]

/-! ## Sets -/

/-- A value is an item of a tuple or a member of a set. -/
instance : Membership Value Value where
  mem container v := v ∈ container.itemList

@[simp] theorem mem_tuple {v : Value} {xs : List Value} : v ∈ Value.tuple xs ↔ v ∈ xs :=
  Iff.rfl

@[simp] theorem mem_set {v : Value} {xs : List Value} : v ∈ Value.set xs ↔ v ∈ xs :=
  Iff.rfl

/-- The value is the set of the values with a property. -/
def IsSetOf (v : Value) (P : Value → Prop) : Prop :=
  (∃ xs, v = .set xs ∧ Increasing xs) ∧ ∀ x, x ∈ v ↔ P x

variable {P Q : Value → Prop} {v w : Value}

theorem IsSetOf.mem_iff (h : v.IsSetOf P) (x : Value) : x ∈ v ↔ P x :=
  h.2 x

theorem IsSetOf.congr (h : v.IsSetOf P) (hPQ : ∀ x, P x ↔ Q x) : v.IsSetOf Q :=
  ⟨h.1, fun x => (h.2 x).trans (hPQ x)⟩

/-- A set is given by its members. -/
theorem IsSetOf.unique (hv : v.IsSetOf P) (hw : w.IsSetOf P) : v = w := by
  obtain ⟨⟨xs, rfl, hxs⟩, hv⟩ := hv
  obtain ⟨⟨ys, rfl, hys⟩, hw⟩ := hw
  rw [hxs.eq_of_mem_iff hys fun x => (hv x).trans (hw x).symm]

theorem IsSetOf.plain (h : v.IsSetOf P) (plain : ∀ x, P x → Plain x) : Plain v := by
  obtain ⟨⟨xs, rfl, -⟩, hmem⟩ := h
  exact .set fun x hx => plain x ((hmem x).mp hx)

theorem isSetOf_setOf_of_beq {xs : List Value}
    (eq_of_beq : ∀ x ∈ xs, ∀ y ∈ xs, (x == y) = true → x = y) : (setOf xs).IsSetOf (· ∈ xs) :=
  ⟨⟨_, rfl, increasing_canonical xs⟩, fun _ => mem_canonical eq_of_beq⟩

/-- The set of the members of a list of plain values. -/
theorem isSetOf_setOf {xs : List Value} (plain : ∀ x ∈ xs, Plain x) :
    (setOf xs).IsSetOf (· ∈ xs) :=
  isSetOf_setOf_of_beq fun x hx y hy => (beq_iff_eq_of_plain (plain x hx) (plain y hy)).mp

/-- Of two members of a set that are equal one is the other. -/
theorem IsSetOf.eq_of_beq {x y : Value} (h : v.IsSetOf P) (hx : x ∈ v) (hy : y ∈ v)
    (heq : (x == y) = true) : x = y := by
  obtain ⟨⟨xs, rfl, increasing⟩, -⟩ := h
  have symm : Std.Symm fun a b : Value => (a == b) = true → a = b :=
    ⟨fun a b hab hba => (hab (BEq.symm hba)).symm⟩
  have same : xs.Pairwise fun a b => (a == b) = true → a = b := increasing.imp fun {a b} hlt hbeq => by
    rw [beq_iff_compare_eq.mp hbeq] at hlt
    cases hlt
  exact same.forall_of_forall (fun _ _ _ => rfl) hx hy heq

@[simp] theorem setOf_nil : setOf [] = .set [] := by
  simp [setOf, canonical]

theorem setOf_singleton (x : Value) : setOf [x] = .set [x] := by
  simp [setOf, canonical, dropRepeats]

/-! ## Equal sets -/

/-- Each item of either list equals one of the other. -/
def SameMembers (xs ys : List Value) : Prop :=
  (∀ x ∈ xs, ∃ y ∈ ys, (x == y) = true) ∧ ∀ y ∈ ys, ∃ x ∈ xs, (x == y) = true

theorem not_beq_of_lt {a b : Value} (hlt : compare a b = .lt) : ¬ (a == b) = true := by
  rw [beq_iff_compare_eq, hlt]
  exact Ordering.noConfusion

theorem sameMembers_of_compareItems {xs ys : List Value} (h : compareItems xs ys = .eq) : SameMembers xs ys := by
  induction xs generalizing ys with
  | nil =>
      cases ys with
      | nil => exact ⟨by simp, by simp⟩
      | cons y ys => cases h
  | cons x xs ih =>
      cases ys with
      | nil => cases h
      | cons y ys =>
          rw [compareItems, Ordering.then_eq_eq, ← beq_iff_compare_eq] at h
          rcases h with ⟨first, rest⟩
          rcases ih rest with ⟨left, right⟩
          constructor
          · intro z hz
            rcases List.mem_cons.mp hz with rfl | hz
            · exact ⟨y, List.mem_cons_self, first⟩
            · rcases left z hz with ⟨y', hy', heq⟩
              exact ⟨y', List.mem_cons_of_mem y hy', heq⟩
          · intro z hz
            rcases List.mem_cons.mp hz with rfl | hz
            · exact ⟨x, List.mem_cons_self, first⟩
            · rcases right z hz with ⟨x', hx', heq⟩
              exact ⟨x', List.mem_cons_of_mem x hx', heq⟩

/-- The first items of increasing lists with the same members are equal. -/
theorem beq_head_of_sameMembers {x y : Value} {xs ys : List Value} (hx : Increasing (x :: xs))
    (hy : Increasing (y :: ys)) (h : SameMembers (x :: xs) (y :: ys)) : (x == y) = true := by
  rcases h.1 x List.mem_cons_self with ⟨y', hy', heq⟩
  rcases h.2 y List.mem_cons_self with ⟨x', hx', heq'⟩
  rcases List.mem_cons.mp hy' with rfl | hy'
  · exact heq
  · rcases List.mem_cons.mp hx' with rfl | hx'
    · exact heq'
    · -- Else each of them would stand before the other.
      have before : compare y y' = .lt := (List.pairwise_cons.mp hy).1 y' hy'
      have before' : compare x x' = .lt := (List.pairwise_cons.mp hx).1 x' hx'
      rw [← Std.TransCmp.congr_right (beq_iff_compare_eq.mp heq)] at before
      rw [Std.TransCmp.congr_right (beq_iff_compare_eq.mp heq')] at before'
      exact absurd before (Std.OrientedCmp.not_lt_of_lt before')

theorem sameMembers_tail {x y : Value} {xs ys : List Value} (hx : Increasing (x :: xs))
    (hy : Increasing (y :: ys)) (h : SameMembers (x :: xs) (y :: ys)) : SameMembers xs ys := by
  have first := beq_head_of_sameMembers hx hy h
  constructor
  · intro z hz
    rcases h.1 z (List.mem_cons_of_mem x hz) with ⟨y', hy', heq⟩
    rcases List.mem_cons.mp hy' with rfl | hy'
    · exact absurd (BEq.trans first (BEq.symm heq)) (not_beq_of_lt ((List.pairwise_cons.mp hx).1 z hz))
    · exact ⟨y', hy', heq⟩
  · intro z hz
    rcases h.2 z (List.mem_cons_of_mem y hz) with ⟨x', hx', heq⟩
    rcases List.mem_cons.mp hx' with rfl | hx'
    · exact absurd (BEq.trans (BEq.symm first) heq) (not_beq_of_lt ((List.pairwise_cons.mp hy).1 z hz))
    · exact ⟨x', hx', heq⟩

/-- Increasing lists are equal item by item if they have the same members. -/
theorem compareItems_eq_iff {xs ys : List Value} (hx : Increasing xs) (hy : Increasing ys) :
    compareItems xs ys = .eq ↔ SameMembers xs ys := by
  refine ⟨sameMembers_of_compareItems, fun h => ?_⟩
  induction xs generalizing ys with
  | nil =>
      cases ys with
      | nil => rfl
      | cons y ys =>
          rcases h.2 y List.mem_cons_self with ⟨x, hx, -⟩
          cases hx
  | cons x xs ih =>
      cases ys with
      | nil =>
          rcases h.1 x List.mem_cons_self with ⟨y, hy, -⟩
          cases hy
      | cons y ys =>
          have first := beq_head_of_sameMembers hx hy h
          have rest := ih (List.pairwise_cons.mp hx).2 (List.pairwise_cons.mp hy).2 (sameMembers_tail hx hy h)
          rw [compareItems, beq_iff_compare_eq.mp first, rest]
          rfl

/-- Sets are equal if they have the same members. -/
theorem IsSetOf.beq_iff (hv : v.IsSetOf P) (hw : w.IsSetOf Q) :
    (v == w) = true ↔ SameMembers v.itemList w.itemList := by
  rcases hv.1 with ⟨xs, rfl, hxs⟩
  rcases hw.1 with ⟨ys, rfl, hys⟩
  rw [beq_iff_compare_eq, compare]
  exact compareItems_eq_iff hxs hys

end Value

end GridPuzzle
