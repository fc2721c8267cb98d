import GridPuzzle.Value.Access
import Mathlib.Data.List.Sort

/-!
# The order of values

`Value.compare` orders all values. This module shows that it is a total preorder, so that sorting by it
is meaningful, and that on *plain* values (no truth values and no functions inside) it calls only equal
values equal.

* `compare_eq_then` opens a comparison into three: by kind, by the number that an atom carries, and by
  items. The laws of the order are then one mutual recursion over values and item lists.
* `Plain` is the domain on which a set is determined by its members: `beq_iff_eq_of_plain`.
-/

namespace GridPuzzle

namespace Value

/-! ## A comparison in three parts -/

/-- The number by which two atoms of one kind are compared. -/
def atomKey : Value → Int
  | .bool b => if b then 1 else 0
  | .int n => n
  | .prim p => p.ctorIdx
  | .compose s _ _ | .compose3 s _ _ _ | .hasResult s _ _ | .bindFirst s _ _ _ | .bindLast s _ _ _
  | .fork s _ _ _ => s
  | _ => 0

/-- The items of a tuple or a set; an atom has none. -/
def itemList : Value → List Value
  | .tuple xs | .set xs => xs
  | _ => []

theorem compare_natCast (m n : Nat) : Ord.compare (m : Int) (n : Int) = Ord.compare m n := by
  simp only [Int.compare_eq_ite_lt, Nat.compare_eq_ite_lt]
  norm_cast

/-- Values are compared by kind, then by the number of an atom, then by items. -/
theorem compare_eq_then (a b : Value) :
    compare a b = (Ord.compare a.rank b.rank).then
      ((Ord.compare a.atomKey b.atomKey).then (compareItems a.itemList b.itemList)) := by
  cases a <;> cases b <;>
    simp [compare, compareAtoms, compareItems, rank, atomKey, itemList, number?, serial?,
      compare_natCast, Nat.compare_eq_ite_lt]

/-! ## The laws of the order -/

/-- Induction over values: a property holds of all values if it passes from the items of a value to the
value. -/
theorem induction_on_items {P : Value → Prop} (step : ∀ v, (∀ x ∈ v.itemList, P x) → P v)
    (v : Value) : P v := by
  refine step v fun x hx => ?_
  have smaller : sizeOf x < sizeOf v := by
    cases v with
    | tuple xs => have := List.sizeOf_lt_of_mem hx; simp only [tuple.sizeOf_spec, itemList] at *; omega
    | set xs => have := List.sizeOf_lt_of_mem hx; simp only [set.sizeOf_spec, itemList] at *; omega
    | _ => simp [itemList] at hx
  exact induction_on_items step x
termination_by sizeOf v

theorem compareItems_swap {xs : List Value} (h : ∀ x ∈ xs, ∀ y, compare y x = (compare x y).swap)
    (ys : List Value) : compareItems ys xs = (compareItems xs ys).swap := by
  induction xs generalizing ys with
  | nil => cases ys <;> rfl
  | cons x xs ih =>
      cases ys with
      | nil => rfl
      | cons y ys =>
          rw [compareItems, compareItems, Ordering.swap_then, h x List.mem_cons_self y,
            ih (fun x' hx' => h x' (List.mem_cons_of_mem x hx')) ys]

/-- Comparing the other way round turns the result round. -/
theorem compare_swap (a b : Value) : compare b a = (compare a b).swap := by
  induction a using induction_on_items generalizing b with
  | step a ih =>
      rw [compare_eq_then a b, compare_eq_then b a, Ordering.swap_then, Ordering.swap_then,
        ← Std.OrientedOrd.eq_swap, ← Std.OrientedOrd.eq_swap, compareItems_swap ih]

theorem compare_self (a : Value) : compare a a = .eq := by
  have h := compare_swap a a
  revert h
  cases compare a a <;> simp

/-- What the comparisons of `a` with `b` and of `b` with `c` say about that of `a` with `c`. -/
structure Transitive (ab bc ac : Ordering) : Prop where
  of_lt : ab = .lt → bc ≠ .gt → ac = .lt
  of_eq_left : ab = .eq → ac = bc
  of_eq_right : bc = .eq → ac = ab

theorem transitive_ord {α : Type} [Ord α] [Std.TransOrd α] (a b c : α) :
    Transitive (Ord.compare a b) (Ord.compare b c) (Ord.compare a c) where
  of_lt h h' := Std.TransCmp.lt_of_lt_of_isLE h (Ordering.isLE_iff_ne_gt.mpr h')
  of_eq_left h := Std.TransCmp.congr_left h
  of_eq_right h := (Std.TransCmp.congr_right h).symm

/-- Transitivity of a comparison in two parts, the second of which counts where the first is even. -/
theorem Transitive.then {ab bc ac ab' bc' ac' : Ordering} (first : Transitive ab bc ac)
    (second : Transitive ab' bc' ac') :
    Transitive (ab.then ab') (bc.then bc') (ac.then ac') := by
  obtain ⟨h₁, h₂, h₃⟩ := first
  obtain ⟨k₁, k₂, k₃⟩ := second
  constructor <;> cases ab <;> cases bc <;> simp_all

theorem transitive_compareItems {xs : List Value}
    (h : ∀ x ∈ xs, ∀ y z, Transitive (compare x y) (compare y z) (compare x z))
    (ys zs : List Value) :
    Transitive (compareItems xs ys) (compareItems ys zs) (compareItems xs zs) := by
  induction xs generalizing ys zs with
  | nil => cases ys <;> cases zs <;> constructor <;> simp [compareItems]
  | cons x xs ih =>
      cases ys with
      | nil => cases zs <;> constructor <;> simp [compareItems]
      | cons y ys =>
          cases zs with
          | nil => constructor <;> simp [compareItems]
          | cons z zs =>
              exact (h x List.mem_cons_self y z).then
                (ih (fun x' hx' => h x' (List.mem_cons_of_mem x hx')) ys zs)

theorem transitive_compare (a b c : Value) :
    Transitive (compare a b) (compare b c) (compare a c) := by
  induction a using induction_on_items generalizing b c with
  | step a ih =>
      rw [compare_eq_then a b, compare_eq_then b c, compare_eq_then a c]
      exact (transitive_ord _ _ _).then
        ((transitive_ord _ _ _).then (transitive_compareItems ih _ _))

instance : Std.TransCmp compare where
  eq_swap := compare_swap _ _
  isLE_trans {a b c} hab hbc := by
    obtain ⟨of_lt, of_eq_left, -⟩ := transitive_compare a b c
    rw [Ordering.isLE_iff_ne_gt] at hab hbc ⊢
    cases h : compare a b with
    | lt => simp [of_lt h hbc]
    | eq => rwa [of_eq_left h]
    | gt => exact absurd h hab

/-! ## Equality of values -/

theorem beq_iff_compare_eq {a b : Value} : (a == b) = true ↔ compare a b = .eq := by
  change (compare a b == .eq) = true ↔ _
  exact beq_iff_eq

instance : EquivBEq Value where
  rfl := beq_iff_compare_eq.mpr (compare_self _)
  symm h := beq_iff_compare_eq.mpr (Std.OrientedCmp.eq_symm (beq_iff_compare_eq.mp h))
  trans h h' := beq_iff_compare_eq.mpr
    (Std.TransCmp.eq_trans (beq_iff_compare_eq.mp h) (beq_iff_compare_eq.mp h'))

/-- A value without truth values and functions inside. -/
inductive Plain : Value → Prop
  | null : Plain .null
  | int (n : Int) : Plain (.int n)
  | tuple {xs : List Value} : (∀ x ∈ xs, Plain x) → Plain (.tuple xs)
  | set {xs : List Value} : (∀ x ∈ xs, Plain x) → Plain (.set xs)

theorem Plain.items {v x : Value} (h : Plain v) (hx : x ∈ v.itemList) : Plain x := by
  cases h with
  | null => cases hx
  | int n => cases hx
  | tuple h => exact h x hx
  | set h => exact h x hx

theorem Plain.pair {a b : Value} (ha : Plain a) (hb : Plain b) : Plain (.pair a b) :=
  .tuple fun x hx => by
    rcases List.mem_pair.mp hx with rfl | rfl
    · exact ha
    · exact hb

theorem Plain.location (row column : Int) : Plain (.location row column) :=
  .pair (.int row) (.int column)

/-- A plain value is given by its kind, its number and its items. -/
theorem Plain.ext {a b : Value} (ha : Plain a) (hb : Plain b) (rank : a.rank = b.rank)
    (key : a.atomKey = b.atomKey) (items : a.itemList = b.itemList) : a = b := by
  cases ha <;> cases hb <;> simp_all [Value.rank, atomKey, itemList]

theorem eq_of_compareItems_eq {xs ys : List Value}
    (h : ∀ x ∈ xs, ∀ y ∈ ys, compare x y = .eq → x = y) (heq : compareItems xs ys = .eq) :
    xs = ys := by
  induction xs generalizing ys with
  | nil =>
      cases ys with
      | nil => rfl
      | cons y ys => cases heq
  | cons x xs ih =>
      cases ys with
      | nil => cases heq
      | cons y ys =>
          rw [compareItems, Ordering.then_eq_eq] at heq
          rw [h x List.mem_cons_self y List.mem_cons_self heq.1,
            ih (fun x' hx' y' hy' => h x' (List.mem_cons_of_mem x hx') y'
              (List.mem_cons_of_mem y hy')) heq.2]

/-- Plain values that compare as equal are equal. -/
theorem eq_of_compare_eq {a b : Value} (ha : Plain a) (hb : Plain b)
    (h : compare a b = .eq) : a = b := by
  induction a using induction_on_items generalizing b with
  | step a ih =>
      rw [compare_eq_then, Ordering.then_eq_eq, Ordering.then_eq_eq] at h
      obtain ⟨rank, key, items⟩ := h
      refine ha.ext hb (Std.LawfulEqOrd.eq_of_compare rank) (Std.LawfulEqOrd.eq_of_compare key) ?_
      exact eq_of_compareItems_eq
        (fun x hx y hy => ih x hx (ha.items hx) (hb.items hy)) items

theorem beq_iff_eq_of_plain {a b : Value} (ha : Plain a) (hb : Plain b) :
    (a == b) = true ↔ a = b := by
  rw [beq_iff_compare_eq]
  constructor
  · exact eq_of_compare_eq ha hb
  · rintro rfl
    exact compare_self a

@[simp] theorem int_beq_int (m n : Int) : (Value.int m == Value.int n) = decide (m = n) := by
  rw [Bool.eq_iff_iff, beq_iff_eq_of_plain (.int m) (.int n), decide_eq_true_iff, int.injEq]

@[simp] theorem int_beq_null (n : Int) : (Value.int n == Value.null) = false := by
  rw [Bool.eq_false_iff, ne_eq, beq_iff_eq_of_plain (.int n) .null]
  exact Value.noConfusion

end Value

end GridPuzzle
