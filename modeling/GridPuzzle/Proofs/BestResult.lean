import GridPuzzle.Proofs.ProgramRun

/-!
# The best result of a function

There are two ways to the greatest result that a function has on the items of a container. One chooses the
item by its result and calls the function on it once more (`exists_bestKey`). The other calls the function
on every item and chooses among the results (`exists_bestResult`); if the container is a set, equal results
are one item there. Both end at a result that no other one beats, and so at the same number. The same holds
for the least result.

On a container without items the first way calls the function on zero, and the second one gives zero itself.
They agree only if the function gives zero for zero.
-/

namespace GridPuzzle

open Eval

namespace Value

theorem beq_of_number? {a b : Value} {m n : Int} (ha : a.number? = some m) (hb : b.number? = some n) :
    (a == b) = decide (m = n) := by
  obtain rfl | ⟨p, rfl, rfl⟩ := eq_of_number? ha <;> obtain rfl | ⟨q, rfl, rfl⟩ := eq_of_number? hb <;>
    exact int_beq_int _ _

/-- The items of a rebuilt container are among the given ones, and each of these equals one of them. -/
theorem exists_items_rebuild (container : Value) (xs : List Value) :
    ∃ ys, (container.rebuild xs).items = .ok ys ∧ (∀ y ∈ ys, y ∈ xs) ∧ ∀ x ∈ xs, ∃ y ∈ ys, (y == x) = true := by
  cases container with
  | tuple _ => exact ⟨xs, rfl, fun _ hx => hx, fun x hx => ⟨x, hx, BEq.rfl⟩⟩
  | _ => exact ⟨canonical xs, rfl, fun _ => mem_of_mem_canonical, fun _ => exists_mem_canonical_beq⟩

end Value

/-! ## Choosing by a result -/

/-- Where the values of the keys are known, the choice is the same whatever functions the keys build. -/
theorem yields_bestFrom {α : Type} {rule : Value.Rule} {key : α → Eval Value} {r : α → Value} {xs : List α}
    (keys : ∀ x ∈ xs, (key x).Yields (r x)) {best : α} {k : Value} {found : α × Value}
    (h : Value.bestFrom rule (fun x => (pure (r x) : Outcome Value)) best k xs = .ok found) :
    (Value.bestFrom rule key best k xs).Yields found := by
  induction xs generalizing best k with
  | nil =>
      cases h
      exact yields_pure _
  | cons x xs ih =>
      rw [Value.bestFrom, pure_bind] at h
      obtain ⟨wins, compared, rest⟩ := Outcome.bind_eq_ok.mp h
      have beaten : rule (r x) k = .ok wins := compared
      have keys' : ∀ y ∈ xs, (key y).Yields (r y) := fun y hy => keys y (List.mem_cons_of_mem x hy)
      rw [Value.bestFrom]
      refine (keys x List.mem_cons_self).bind ?_
      rw [lift_ok beaten, pure_bind]
      cases wins with
      | true => exact ih keys' rest
      | false => exact ih keys' rest

theorem yields_best? {α : Type} {rule : Value.Rule} {key : α → Eval Value} {r : α → Value} {xs : List α}
    (keys : ∀ x ∈ xs, (key x).Yields (r x)) {found : Option (α × Value)}
    (h : Value.best? rule (fun x => (pure (r x) : Outcome Value)) xs = .ok found) :
    (Value.best? rule key xs).Yields found := by
  cases xs with
  | nil =>
      cases h
      exact yields_pure _
  | cons x xs =>
      rw [Value.best?, pure_bind] at h
      obtain ⟨best, hbest, same⟩ := Outcome.bind_eq_ok.mp h
      cases same
      rw [Value.best?]
      refine (keys x List.mem_cons_self).bind ?_
      exact (yields_bestFrom (fun y hy => keys y (List.mem_cons_of_mem x hy)) hbest).bind (yields_pure _)

/-- What can be called is not the missing key, by which items are compared themselves. -/
theorem key_eq_call {run : Primitive → List Value → Eval Value} {function v w : Value}
    (h : (Value.callWith run function [v]).Yields w) (u : Value) :
    Function.key (Value.callWith run) function u = Value.callWith run function [u] := by
  cases function with
  | null =>
      obtain ⟨t, result⟩ := h 0
      have failed : Value.callWith run .null [v] = throw .wrongKind := by simp only [Value.callWith]
      rw [failed] at result
      cases result
  | _ => rfl

/-! ## The two ways -/

/-- The best item of a container, or zero if there is none. -/
def bestItem (rule : Value.Rule) (v : Value) : Outcome Value := do
  return ((← Value.best? rule Except.ok (← v.items)).map (·.1)).getD (.int 0)

section

variable {run : Primitive → List Value → Eval Value} {rule : Value.Rule} {c f : Value} {xs : List Value}
  {r : Value → Value} {n : Value → Int} {beats : Int → Int → Prop} [DecidableRel beats]
  (hitems : c.items = .ok xs)
include hitems

theorem exists_bestKey (numeric : Value.NumericRule rule beats)
    (calls : ∀ v ∈ xs, (Value.callWith run f [v]).Yields (r v)) (numbers : ∀ v ∈ xs, (r v).number? = some (n v))
    (some : xs ≠ []) :
    ∃ v ∈ xs, (Function.bestKey (Value.callWith run) rule c f).Yields (r v) ∧
      ∀ w ∈ xs, ¬ beats (n w) (n v) := by
  have known : ∀ v ∈ xs, (pure (r v) : Outcome Value) = pure (r v) := fun _ _ => rfl
  obtain ⟨best, mem, found, unbeaten⟩ := numeric.exists_best? known numbers some
  have keys : ∀ v ∈ xs, (Function.key (Value.callWith run) f v).Yields (r v) := by
    intro v hv
    rw [key_eq_call (calls v hv)]
    exact calls v hv
  refine ⟨best, mem, ?_, unbeaten⟩
  rw [Function.bestKey, Function.bestBy?, lift_ok hitems, pure_bind, bind_assoc]
  refine (yields_best? keys found).bind ?_
  rw [pure_bind]
  exact calls best mem

theorem yields_bestItem_map (calls : ∀ v ∈ xs, (Value.callWith run f [v]).Yields (r v)) {best : Value}
    (h : bestItem rule (c.rebuild (xs.map r)) = .ok best) :
    (do bestItem rule (← Function.map (Value.callWith run) f c) : Eval Value).Yields best := by
  refine (yields_map hitems calls).bind ?_
  rw [lift_ok h]
  exact yields_pure best

theorem exists_bestResult (numeric : Value.NumericRule rule beats)
    (calls : ∀ v ∈ xs, (Value.callWith run f [v]).Yields (r v)) (numbers : ∀ v ∈ xs, (r v).number? = some (n v))
    (some : xs ≠ []) :
    ∃ v ∈ xs, (do bestItem rule (← Function.map (Value.callWith run) f c) : Eval Value).Yields (r v) ∧
      ∀ w ∈ xs, ¬ beats (n w) (n v) := by
  obtain ⟨ys, hys, among, covered⟩ := c.exists_items_rebuild (xs.map r)
  -- Each item of the container of results is the result on an item, and has its number.
  have results : ∀ y ∈ ys, ∃ v ∈ xs, r v = y := fun y hy => List.mem_map.mp (among y hy)
  have number : ∀ y ∈ ys, y.number? = .some (y.number?.getD 0) := by
    intro y hy
    obtain ⟨v, hv, rfl⟩ := results y hy
    rw [numbers v hv, Option.getD_some]
  have ne : ys ≠ [] := by
    obtain ⟨x, hx⟩ := List.exists_mem_of_ne_nil xs some
    obtain ⟨y, hy, -⟩ := covered (r x) (List.mem_map_of_mem hx)
    exact List.ne_nil_of_mem hy
  have known : ∀ y ∈ ys, (Except.ok y : Outcome Value) = pure y := fun _ _ => rfl
  obtain ⟨best, mem, found, unbeaten⟩ := numeric.exists_best? known number ne
  obtain ⟨v, hv, rfl⟩ := results best mem
  refine ⟨v, hv, yields_bestItem_map hitems calls ?_, fun w hw => ?_⟩
  · rw [bestItem, hys, Outcome.ok_bind, found]
    rfl
  · obtain ⟨y, hy, equal⟩ := covered (r w) (List.mem_map_of_mem hw)
    rw [Value.beq_of_number? (number y hy) (numbers w hw), decide_eq_true_iff] at equal
    have least := unbeaten y hy
    rwa [equal, numbers v hv, Option.getD_some] at least

variable (rule) in
/-- Without items the one way calls the function on zero, and the other gives zero. -/
theorem yields_of_empty (empty : xs = []) (onZero : (Value.callWith run f [.int 0]).Yields (r (.int 0))) :
    (Function.bestKey (Value.callWith run) rule c f).Yields (r (.int 0)) ∧
      (do bestItem rule (← Function.map (Value.callWith run) f c) : Eval Value).Yields (.int 0) := by
  subst empty
  constructor
  · rw [Function.bestKey, Function.bestBy?, lift_ok hitems]
    exact onZero
  · obtain ⟨ys, hys, among, -⟩ := c.exists_items_rebuild []
    have none : ys = [] := List.eq_nil_iff_forall_not_mem.mpr fun y hy => List.not_mem_nil (among y hy)
    refine yields_bestItem_map hitems (r := r) (fun v hv => absurd hv List.not_mem_nil) ?_
    rw [List.map_nil, bestItem, hys, none]
    rfl

/-- What both ways give by a rule for numbers. -/
theorem exists_both_ways (numeric : Value.NumericRule rule beats)
    (calls : ∀ v ∈ .int 0 :: xs, (Value.callWith run f [v]).Yields (r v))
    (numbers : ∀ v ∈ .int 0 :: xs, ∃ m, (r v).number? = some m) :
    ∃ key best, (Function.bestKey (Value.callWith run) rule c f).Yields key ∧
      (do bestItem rule (← Function.map (Value.callWith run) f c) : Eval Value).Yields best ∧
      ((key == best) = true ↔ xs ≠ [] ∨ (r (.int 0) == .int 0) = true) ∧
      (xs = [] → key = r (.int 0) ∧ best = .int 0) ∧
      (xs ≠ [] → ∃ v ∈ xs, key = r v ∧ ∀ w ∈ xs, rule (r w) (r v) = .ok false) := by
  obtain ⟨onZero, onItems⟩ := List.forall_mem_cons.mp calls
  by_cases empty : xs = []
  · obtain ⟨keyed, mapped⟩ := yields_of_empty rule hitems empty onZero
    refine ⟨_, _, keyed, mapped, ?_, fun _ => ⟨rfl, rfl⟩, fun some => absurd empty some⟩
    rw [or_iff_right (not_not_intro empty)]
  · choose! n number using numbers
    have ofItems : ∀ v ∈ xs, (r v).number? = some (n v) := (List.forall_mem_cons.mp number).2
    obtain ⟨v, hv, keyed, unbeaten⟩ := exists_bestKey hitems numeric onItems ofItems empty
    obtain ⟨u, hu, mapped, unbeaten'⟩ := exists_bestResult hitems numeric onItems ofItems empty
    -- Neither of the two results beats the other.
    have same : n v = n u := numeric.connected (unbeaten' v hv) (unbeaten u hu)
    refine ⟨r v, r u, keyed, mapped, ?_, fun h => absurd h empty, fun _ => ⟨v, hv, rfl, fun w hw => ?_⟩⟩
    · rw [Value.beq_of_number? (ofItems v hv) (ofItems u hu)]
      exact iff_of_true (decide_eq_true same) (Or.inl empty)
    · rw [numeric.apply (ofItems w hw) (ofItems v hv), decide_eq_false (unbeaten w hw)]

end

/-! ## Greatest and least results -/

/-- The two ends of an order. -/
inductive Extreme where
  | greatest
  | least

namespace Extreme

def rule : Extreme → Value.Rule
  | .greatest => Value.greatest
  | .least => Value.least

/-- The item of a container at this end of the order. -/
def item : Extreme → Value → Outcome Value
  | .greatest => Container.maximum
  | .least => Container.minimum

end Extreme

/-- **The best key is the best result, if there is one.** The greatest key of the items of a container is the
greatest result of the function on them, and the least key is the least result, exactly if there are items or
the function gives zero for zero. -/
theorem best_key_is_best_result_unless_empty {run : Primitive → List Value → Eval Value} {c f : Value}
    {xs : List Value} {r : Value → Value} (hitems : c.items = .ok xs)
    (calls : ∀ v ∈ .int 0 :: xs, (Value.callWith run f [v]).Yields (r v))
    (numbers : ∀ v ∈ .int 0 :: xs, ∃ m, (r v).number? = some m) (e : Extreme) :
    ∃ key best, (Function.bestKey (Value.callWith run) e.rule c f).Yields key ∧
      (do e.item (← Function.map (Value.callWith run) f c) : Eval Value).Yields best ∧
      ((key == best) = true ↔ xs ≠ [] ∨ (r (.int 0) == .int 0) = true) ∧
      (xs = [] → key = r (.int 0) ∧ best = .int 0) ∧
      (xs ≠ [] → ∃ v ∈ xs, key = r v ∧ ∀ w ∈ xs, e.rule (r w) (r v) = .ok false) := by
  cases e with
  | greatest => exact exists_both_ways hitems Value.numericRule_greatest calls numbers
  | least => exact exists_both_ways hitems Value.numericRule_least calls numbers

/-- The sign of a number plus one has two equal results on these three numbers. -/
theorem greatest_result_of_sign_plus_one :
    (Value.set [.int (-4), .int 2, .int 7]).items = .ok [.int (-4), .int 2, .int 7] ∧
      ∃ key best,
        (Function.bestKey apply Value.greatest (.set [.int (-4), .int 2, .int 7])
          (.compose 0 (.prim .increment) (.prim .sign))).Yields key ∧
        (do Container.maximum (← Function.map apply (.compose 0 (.prim .increment) (.prim .sign))
          (.set [.int (-4), .int 2, .int 7])) : Eval Value).Yields best ∧
        (key == best) = true := by
  have items : (Value.set [.int (-4), .int 2, .int 7]).items = .ok [.int (-4), .int 2, .int 7] := rfl
  have calls : ∀ v ∈ [Value.int 0, .int (-4), .int 2, .int 7],
      (Value.callWith (Primitive.run (Value.call 999)) (.compose 0 (.prim .increment) (.prim .sign)) [v]).Yields
        (.int (v.atomKey.sign + 1)) := by
    simp only [List.forall_mem_cons]
    exact ⟨yields_pure _, yields_pure _, yields_pure _, yields_pure _, fun v hv => absurd hv List.not_mem_nil⟩
  obtain ⟨key, best, keyed, mapped, equal, -, -⟩ :=
    best_key_is_best_result_unless_empty items calls (fun v _ => ⟨_, rfl⟩) .greatest
  exact ⟨items, key, best, keyed, mapped, equal.mpr (Or.inl (List.cons_ne_nil _ _))⟩

/-- Without items the greatest key by the successor is the successor of zero, and the greatest successor is zero. -/
theorem greatest_successor_of_nothing :
    apply (.prim .increment) [.int 0] = pure (.int 1) ∧
      apply (.prim .greatestKey) [.tuple [], .prim .increment] = pure (.int 1) ∧
      (do apply (.prim .maximum) [← apply (.prim .map) [.prim .increment, .tuple []]]) = pure (.int 0) ∧
      (Value.int 1 == .int 0) = false :=
  ⟨rfl, rfl, rfl, rfl⟩

end GridPuzzle
