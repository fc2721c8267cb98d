import GridPuzzle.Task.Catalogue
import GridPuzzle.Proofs.PatchSet

/-!
# Runs of programs

An evaluation that succeeds gives a value and moves the next serial number on. `Eval.Gives` says both. A run
of a program is put together step by step (`Program.gives_cons`): each step gives a value, and the rest of
the program runs on with that value among the results. A step that fails ends the run (`Program.fails_step`).

A function that is composed with itself is called again and again, each time on the last result (`callTimes`).
Functions are also called on the members of a set. Where a call builds further functions, its value does not depend
on their serial numbers (`Eval.Yields`), and so the whole traversal has one value.
-/

namespace GridPuzzle

namespace Eval

variable {α β : Type} {s t u : Nat} {a : α} {b : β}

/-- The computation gives a value, and the next serial number is then `t` in place of `s`. -/
def Gives (x : Eval α) (s : Nat) (a : α) (t : Nat) : Prop :=
  x.run s = .ok (a, t)

theorem gives_pure (s : Nat) (a : α) : (pure a : Eval α).Gives s a s :=
  rfl

theorem gives_of_eq_pure {x : Eval α} (h : x = pure a) (s : Nat) : x.Gives s a s := by
  rw [h]
  rfl

theorem gives_lift {x : Outcome α} (h : x = .ok a) (s : Nat) : (liftM x : Eval α).Gives s a s := by
  rw [h]
  rfl

theorem Gives.bind {x : Eval α} {f : α → Eval β} (hx : x.Gives s a t) (hf : (f a).Gives t b u) :
    (x >>= f).Gives s b u := by
  rw [Gives, StateT.run_bind, hx, Outcome.ok_bind]
  exact hf

/-- What a sequence gives, its second part gives from the result of the first. -/
theorem gives_bind_iff {x : Eval α} {f : α → Eval β} :
    (x >>= f).Gives s b u ↔ ∃ a t, x.Gives s a t ∧ (f a).Gives t b u := by
  constructor
  · intro h
    rw [Gives, StateT.run_bind] at h
    obtain ⟨⟨a, t⟩, first, second⟩ := Outcome.bind_eq_ok.mp h
    exact ⟨a, t, first, second⟩
  · rintro ⟨a, t, first, second⟩
    exact first.bind second

theorem Gives.asItem {x : Eval α} (h : x.Gives s a t) : (asItem x).Gives s a t := by
  have result : x s = .ok (a, t) := h
  change Eval.asItem x s = .ok (a, t)
  rw [Eval.asItem, result]

/-- The computation fails if the next serial number is `s`. -/
def Fails (x : Eval α) (s : Nat) (fault : Fault) : Prop :=
  x.run s = .error fault

theorem Fails.bind {x : Eval α} {f : α → Eval β} {fault : Fault} (hx : x.Fails s fault) :
    (x >>= f).Fails s fault := by
  rw [Fails, StateT.run_bind, hx, Outcome.error_bind]

theorem asItem_pure (a : α) : asItem (pure a) = pure a :=
  rfl

theorem pure_inj {b : α} (h : (pure a : Eval α) = pure b) : a = b := by
  have results : (Except.ok (a, 0) : Outcome (α × Nat)) = .ok (b, 0) := congrFun h 0
  cases results
  rfl

/-- What a test gives is true exactly if the test gives what is true. -/
theorem eq_true_iff {x : Eval Value} {b : Bool} (h : x = pure (.bool b)) : b = true ↔ x = pure (.bool true) := by
  rw [h]
  constructor
  · intro holds
    rw [holds]
  · intro same
    exact Value.bool.inj (pure_inj same)

theorem lift_ok {x : Outcome α} (h : x = .ok a) : (liftM x : Eval α) = pure a := by
  rw [h]
  rfl

/-! ## Values that do not depend on serial numbers -/

/-- The computation gives a value, whatever the next serial number is. -/
def Yields (x : Eval α) (a : α) : Prop :=
  ∀ s, ∃ t, x.Gives s a t

theorem yields_pure (a : α) : (pure a : Eval α).Yields a :=
  fun s => ⟨s, gives_pure s a⟩

theorem Yields.bind {x : Eval α} {f : α → Eval β} (hx : x.Yields a) (hf : (f a).Yields b) :
    (x >>= f).Yields b := by
  intro s
  obtain ⟨t, ht⟩ := hx s
  obtain ⟨u, hu⟩ := hf t
  exact ⟨u, ht.bind hu⟩

theorem Yields.asItem {x : Eval α} (hx : x.Yields a) : (asItem x).Yields a := by
  intro s
  obtain ⟨t, ht⟩ := hx s
  exact ⟨t, ht.asItem⟩

theorem yields_mapM {f : α → Eval β} {g : α → β} {xs : List α} (h : ∀ x ∈ xs, (f x).Yields (g x)) :
    (xs.mapM f).Yields (xs.map g) := by
  induction xs with
  | nil => exact yields_pure []
  | cons x xs ih =>
      rw [List.mapM_cons]
      refine (h x List.mem_cons_self).bind ?_
      exact (ih fun y hy => h y (List.mem_cons_of_mem x hy)).bind (yields_pure _)

end Eval

open Eval

/-! ## Calls -/

theorem apply_prim (p : Primitive) (args : List Value) :
    apply (.prim p) args = Primitive.run (Value.call 999) p args :=
  rfl

section

variable (run : Primitive → List Value → Eval Value) (serial : Nat) (v : Value)

theorem callWith_prim (p : Primitive) (args : List Value) : Value.callWith run (.prim p) args = run p args :=
  rfl

theorem callWith_compose (outer inner : Value) :
    Value.callWith run (.compose serial outer inner) [v] =
      (do Value.callWith run outer [← Value.callWith run inner [v]]) :=
  rfl

theorem callWith_compose3 (third second first : Value) :
    Value.callWith run (.compose3 serial third second first) [v] =
      (do Value.callWith run third [← Value.callWith run second [← Value.callWith run first [v]]]) :=
  rfl

theorem callWith_bindLast_all (function fixed : Value) (args : List Value) :
    Value.callWith run (.bindLast serial args.length function fixed) args =
      Value.callWith run function (args ++ [fixed]) :=
  if_pos rfl

theorem callWith_bindFirst_all (function fixed : Value) (args : List Value) :
    Value.callWith run (.bindFirst serial args.length function fixed) args =
      Value.callWith run function (fixed :: args) :=
  if_pos rfl

theorem callWith_bindLast (function fixed : Value) :
    Value.callWith run (.bindLast serial 1 function fixed) [v] = Value.callWith run function [v, fixed] :=
  callWith_bindLast_all run serial function fixed [v]

theorem callWith_bindFirst (function fixed : Value) :
    Value.callWith run (.bindFirst serial 1 function fixed) [v] = Value.callWith run function [fixed, v] :=
  callWith_bindFirst_all run serial function fixed [v]

theorem callWith_fork (outer left right : Value) :
    Value.callWith run (.fork serial outer left right) [v] = (do
      let a ← Value.callWith run left [v]
      Value.callWith run outer [a, ← Value.callWith run right [v]]) :=
  rfl

end

theorem call_prim (depth : Nat) (p : Primitive) (args : List Value) :
    Value.call (depth + 1) (.prim p) args = Primitive.run (Value.call depth) p args :=
  callWith_prim _ p args

theorem test_ok {x : Outcome Bool} {b : Bool} (h : x = .ok b) : Primitive.test x = pure (.bool b) := by
  rw [h]
  rfl

theorem call_compose (depth serial : Nat) (outer inner v : Value) :
    Value.call depth (.compose serial outer inner) [v] =
      (do Value.call depth outer [← Value.call depth inner [v]]) := by
  cases depth <;> exact callWith_compose _ serial v outer inner

theorem call_bindLast (depth serial : Nat) (function fixed v : Value) :
    Value.call depth (.bindLast serial 1 function fixed) [v] = Value.call depth function [v, fixed] := by
  cases depth <;> exact callWith_bindLast _ serial v function fixed

theorem call_bindFirst (depth serial : Nat) (function fixed v : Value) :
    Value.call depth (.bindFirst serial 1 function fixed) [v] = Value.call depth function [fixed, v] := by
  cases depth <;> exact callWith_bindFirst _ serial v function fixed

theorem call_compose3 (depth serial : Nat) (third second first v : Value) :
    Value.call depth (.compose3 serial third second first) [v] =
      (do Value.call depth third [← Value.call depth second [← Value.call depth first [v]]]) := by
  cases depth <;> exact callWith_compose3 _ serial v third second first

theorem call_fork (depth serial : Nat) (outer left right v : Value) :
    Value.call depth (.fork serial outer left right) [v] = (do
      let a ← Value.call depth left [v]
      Value.call depth outer [a, ← Value.call depth right [v]]) := by
  cases depth <;> exact callWith_fork _ serial v outer left right

/-! ## Iterated functions -/

/-- The result of a number of calls of a function, each on the result of the one before. The first call that fails ends
them. -/
def callTimes (call : Caller) (function : Value) : Nat → Value → Eval Value
  | 0, v => return v
  | n + 1, v => do callTimes call function n (← call function [v])

section

variable {call : Caller} {function : Value}

theorem callTimes_one (v : Value) : callTimes call function 1 v = call function [v] :=
  bind_pure _

/-- The calls after the first ones go on from their result. -/
theorem callTimes_add (m n : Nat) (v : Value) :
    callTimes call function (m + n) v = (do callTimes call function m (← callTimes call function n v)) := by
  induction n generalizing v with
  | zero => exact (pure_bind v _).symm
  | succ n ih =>
      rw [← Nat.add_assoc, callTimes, callTimes, bind_assoc]
      exact bind_congr ih

theorem callTimes_succ (n : Nat) (v : Value) :
    callTimes call function (n + 1) v = (do call function [← callTimes call function n v]) := by
  rw [Nat.add_comm, callTimes_add]
  exact bind_congr callTimes_one

/-- What one call keeps, while the number of calls grows, holds of the last result. -/
theorem exists_callTimes {R : Nat → Value → Prop}
    (step : ∀ k v, R k v → ∃ w, call function [v] = pure w ∧ R (k + 1) w) {v : Value} (first : R 0 v) (n : Nat) :
    ∃ w, callTimes call function n v = pure w ∧ R n w := by
  induction n with
  | zero => exact ⟨v, rfl, first⟩
  | succ n ih =>
      rcases ih with ⟨u, calls, kept⟩
      rcases step n u kept with ⟨w, last, kept'⟩
      exact ⟨w, by rw [callTimes_succ, calls, pure_bind, last], kept'⟩

end

/-- A function that is composed with itself is called once for each of its copies. -/
theorem exists_composeTimes (function : Value) (n s : Nat) :
    ∃ iterated, (Function.composeTimes function n).Gives s iterated (s + n) ∧
      ∀ run v, Value.callWith run iterated [v] = callTimes (Value.callWith run) function (n + 1) v := by
  induction n with
  | zero => exact ⟨function, rfl, fun run v => (callTimes_one v).symm⟩
  | succ n ih =>
      rcases ih with ⟨inner, gives, calls⟩
      refine ⟨.compose (s + n) function inner, gives.bind rfl, fun run v => ?_⟩
      rw [callWith_compose, calls, ← callTimes_succ]

theorem exists_iterate_calls (function : Value) {count : Int} (positive : 1 ≤ count) (s : Nat) :
    ∃ iterated, (Function.iterate function (.int count)).Gives s iterated (s + (count.toNat - 1)) ∧
      ∀ run v, Value.callWith run iterated [v] = callTimes (Value.callWith run) function count.toNat v := by
  have some : ¬ count < 1 := Int.not_lt.mpr positive
  have calls : count.toNat = (count - 1).toNat + 1 := by omega
  rw [calls, Nat.add_sub_cancel, Function.iterate, lift_ok (Value.number_int _), pure_bind, if_neg some]
  exact exists_composeTimes function (count - 1).toNat s

theorem exists_iterate (function : Value) {count : Int} (positive : 1 ≤ count) (depth s : Nat) :
    ∃ iterated t, (Function.iterate function (.int count)).Gives s iterated t ∧
      ∀ R : Nat → Value → Prop, (∀ k v, R k v → ∃ w, Value.call depth function [v] = pure w ∧ R (k + 1) w) →
        ∀ v, R 0 v → ∃ w, Value.call depth iterated [v] = pure w ∧ R count.toNat w := by
  rcases exists_iterate_calls function positive s with ⟨iterated, gives, calls⟩
  have calls' (v : Value) : Value.call depth iterated [v] = callTimes (Value.call depth) function count.toNat v := by
    cases depth <;> exact calls _ v
  refine ⟨iterated, _, gives, fun R step v first => ?_⟩
  rw [calls']
  exact exists_callTimes step first _

/-! ## Calls on the members of a set -/

/-- A filter whose condition is known on each item keeps the items on which it is true. -/
theorem filter_eq_pure {call : Caller} {container condition : Value} {items : List Value}
    {p : Value → Bool} (hitems : container.items = .ok items)
    (h : ∀ v ∈ items, call condition [v] = pure (.bool (p v))) :
    Function.filter call container condition = pure (container.rebuild (items.filter p)) := by
  have kept : (items.filterM fun v => return (← asItem (call condition [v])).truthy) =
      (pure (items.filter p) : Eval (List Value)) := by
    refine filterM_eq_pure_filter fun v hv => ?_
    rw [h v hv, asItem_pure, pure_bind]
    rfl
  rw [Function.filter, lift_ok hitems, pure_bind, kept, pure_bind]

/-- A set filtered by a condition that is known on its members is the set of the members that meet it. -/
theorem Value.IsSetOf.exists_filter {call : Caller} {container condition : Value} {Q meets : Value → Prop}
    (h : container.IsSetOf Q) (plain : ∀ x, Q x → Plain x)
    (calls : ∀ x, Q x → ∃ b, call condition [x] = pure (.bool b) ∧ (b = true ↔ meets x)) :
    ∃ kept, Function.filter call container condition = pure kept ∧
      kept.IsSetOf fun x => Q x ∧ meets x := by
  classical
  have known : ∀ x ∈ container.itemList, call condition [x] = pure (.bool (decide (meets x))) := by
    intro x hx
    obtain ⟨b, hb, iff⟩ := calls x ((h.mem_itemList x).mp hx)
    have same : b = decide (meets x) := Bool.eq_iff_iff.mpr (iff.trans decide_eq_true_iff.symm)
    rw [hb, same]
  refine ⟨.setOf (container.itemList.filter fun x => decide (meets x)), ?_, ?_⟩
  · rw [filter_eq_pure h.items known, h.eq_set]
    rfl
  · have kept := h.filter plain fun x => decide (meets x)
    simpa only [decide_eq_true_iff] using kept

/-- A set of sets filtered by a condition that is known on its members, and merged. -/
theorem Value.IsSetOf.exists_filterFlatten {call : Caller} {container condition : Value} {Q meets : Value → Prop}
    (h : container.IsSetOf Q) (sets : ∀ x, Q x → ∃ ys, x = .set ys) (plain : ∀ x, Q x → Plain x)
    (calls : ∀ x, Q x → ∃ b, call condition [x] = pure (.bool b) ∧ (b = true ↔ meets x)) :
    ∃ merged, Function.filterFlatten call container condition = pure merged ∧
      merged.IsSetOf fun y => ∃ x, (Q x ∧ meets x) ∧ y ∈ x := by
  rcases h.exists_filter plain calls with ⟨kept, hfilter, hkept⟩
  rcases hkept.exists_flatten (fun x hx => sets x hx.1) (fun x hx => plain x hx.1) with ⟨merged, hflatten, hmerged⟩
  refine ⟨merged, ?_, hmerged.congr fun y => exists_congr fun x => and_congr_left' (hkept.mem_iff x)⟩
  rw [Function.filterFlatten, hfilter, pure_bind]
  exact lift_ok hflatten

/-- A function that is known on each item of one container with each item of another. -/
theorem productMap_eq_pure {call : Caller} {function a b : Value} {xs ys : List Value} {f : Value → Value → Value}
    (ha : a.items = .ok xs) (hb : b.items = .ok ys)
    (calls : ∀ x ∈ xs, ∀ y ∈ ys, call function [x, y] = pure (f x y)) :
    Function.productMap call function a b = pure (.setOf (ys.flatMap fun y => xs.map fun x => f x y)) := by
  have row : ∀ y ∈ ys, (xs.mapM fun x => asItem (call function [x, y])) =
      (pure (xs.map fun x => f x y) : Eval (List Value)) := by
    intro y hy
    refine mapM_eq_pure_map fun x hx => ?_
    rw [calls x hx y hy, asItem_pure]
  rw [Function.productMap, lift_ok hb, pure_bind]
  simp only [lift_ok ha, pure_bind]
  rw [mapM_eq_pure_map row, pure_bind, List.flatMap_def]

/-- The results of a function on a member of one set and a member of another. -/
theorem Value.IsSetOf.exists_productMap {call : Caller} {function a b : Value} {A B : Value → Prop}
    {f : Value → Value → Value} (ha : a.IsSetOf A) (hb : b.IsSetOf B)
    (calls : ∀ x y, A x → B y → call function [x, y] = pure (f x y)) (plain : ∀ x y, A x → B y → Plain (f x y)) :
    ∃ results, Function.productMap call function a b = pure results ∧
      results.IsSetOf fun v => ∃ x y, A x ∧ B y ∧ v = f x y := by
  have mem (v : Value) : v ∈ (b.itemList.flatMap fun y => a.itemList.map fun x => f x y) ↔
      ∃ x y, A x ∧ B y ∧ v = f x y := by
    simp only [List.mem_flatMap, List.mem_map, ha.mem_itemList, hb.mem_itemList]
    constructor
    · intro h
      rcases h with ⟨y, hy, x, hx, rfl⟩
      exact ⟨x, y, hx, hy, rfl⟩
    · intro h
      rcases h with ⟨x, y, hx, hy, rfl⟩
      exact ⟨y, hy, x, hx, rfl⟩
  refine ⟨_, productMap_eq_pure ha.items hb.items fun x hx y hy => ?_, (isSetOf_setOf fun v hv => ?_).congr mem⟩
  · exact calls x y ((ha.mem_itemList x).mp hx) ((hb.mem_itemList y).mp hy)
  · rcases (mem v).mp hv with ⟨x, y, hx, hy, rfl⟩
    exact plain x y hx hy

/-- The results of a function on the items of a tuple. -/
theorem map_tuple {call : Caller} {function : Value} {α : Type} {item result : α → Value} {xs : List α}
    (calls : ∀ x ∈ xs, call function [item x] = pure (result x)) :
    Function.map call function (.tuple (xs.map item)) = pure (.tuple (xs.map result)) := by
  have items : (Value.tuple (xs.map item)).items = .ok (xs.map item) := rfl
  have results : (xs.map item).mapM (fun v => asItem (call function [v])) = pure (xs.map result) := by
    rw [List.mapM_map]
    refine mapM_eq_pure_map fun x hx => ?_
    rw [Function.comp_apply, calls x hx, asItem_pure]
  rw [Function.map, lift_ok items, pure_bind, results, pure_bind]
  rfl

/-- The results of a function on the items that stand at the same places of two tuples. -/
theorem zipMap_tuple {call : Caller} {function : Value} {α : Type} {left right result : α → Value} {xs : List α}
    (calls : ∀ x ∈ xs, call function [left x, right x] = pure (result x)) :
    Function.zipMap call function (.tuple (xs.map left)) (.tuple (xs.map right)) = pure (.tuple (xs.map result)) := by
  have items (f : α → Value) : (Value.tuple (xs.map f)).items = .ok (xs.map f) := rfl
  rw [Function.zipMap, lift_ok (items left), pure_bind, lift_ok (items right), pure_bind, List.zip_map']
  dsimp only
  rw [List.mapM_map, mapM_eq_pure_map (g := result), pure_bind]
  intro x hx
  rw [Function.comp_apply, calls x hx, asItem_pure]

/-- The results of a function on the items of a container, as they are visited. -/
theorem yields_map {call : Caller} {function container : Value} {f : Value → Value} {xs : List Value}
    (hitems : container.items = .ok xs) (calls : ∀ x ∈ xs, (call function [x]).Yields (f x)) :
    (Function.map call function container).Yields (container.rebuild (xs.map f)) := by
  rw [Function.map, lift_ok hitems, pure_bind]
  exact (yields_mapM fun x hx => (calls x hx).asItem).bind (yields_pure _)

theorem yields_map_set {call : Caller} {function : Value} {f : Value → Value} {xs : List Value}
    (calls : ∀ x ∈ xs, (call function [x]).Yields (f x)) :
    (Function.map call function (.set xs)).Yields (.setOf (xs.map f)) :=
  yields_map rfl calls

section

variable {call : Caller} {function container : Value} {Q : Value → Prop} (h : container.IsSetOf Q)
include h

/-- The results of a function on the members of a set. -/
theorem Value.IsSetOf.yields_map {f : Value → Value} (calls : ∀ x, Q x → (call function [x]).Yields (f x)) :
    (Function.map call function container).Yields (.setOf (container.itemList.map f)) := by
  have results := yields_map_set fun x hx => calls x ((h.mem_itemList x).mp hx)
  rwa [← h.eq_set] at results

theorem Value.IsSetOf.isSetOf_map {f : Value → Value} (plain : ∀ x, Q x → Plain (f x)) :
    (setOf (container.itemList.map f)).IsSetOf fun y => ∃ x, Q x ∧ y = f x := by
  refine (isSetOf_setOf fun y hy => ?_).congr fun y => ?_
  · obtain ⟨x, hx, rfl⟩ := List.mem_map.mp hy
    exact plain x ((h.mem_itemList x).mp hx)
  · simp only [List.mem_map, h.mem_itemList, eq_comm]

/-- The union of the sets that a function gives for the members of a set. -/
theorem Value.IsSetOf.exists_mapFlatten {R : Value → Value → Prop}
    (calls : ∀ x, Q x → ∃ y, (call function [x]).Yields y ∧ y.IsSetOf (R x))
    (plain : ∀ x y, Q x → R x y → Plain y) :
    ∃ w, (Function.mapFlatten call function container).Yields w ∧ w.IsSetOf fun y => ∃ x, Q x ∧ R x y := by
  choose! f hcall hset using calls
  have plain' : ∀ x, Q x → Plain (f x) := fun x hx => (hset x hx).plain fun y hy => plain x y hx hy
  have himages := h.isSetOf_map plain'
  obtain ⟨w, hflatten, hw⟩ := himages.exists_flatten
    (fun y ⟨x, hx, heq⟩ => ⟨_, heq ▸ (hset x hx).eq_set⟩) fun y ⟨x, hx, heq⟩ => heq ▸ plain' x hx
  refine ⟨w, ?_, hw.congr fun y => ?_⟩
  · rw [Function.mapFlatten]
    refine (h.yields_map hcall).bind ?_
    rw [lift_ok hflatten]
    exact yields_pure w
  · constructor
    · intro hy
      obtain ⟨image, himage, mem⟩ := hy
      obtain ⟨x, hx, rfl⟩ := (himages.mem_iff image).mp himage
      exact ⟨x, hx, ((hset x hx).mem_iff y).mp mem⟩
    · intro hy
      obtain ⟨x, hx, hR⟩ := hy
      exact ⟨f x, (himages.mem_iff _).mpr ⟨x, hx, rfl⟩, ((hset x hx).mem_iff y).mpr hR⟩

end

/-! ## The best member by a key -/

section

variable {call : Caller} {rule : Value.Rule} {container function : Value} {items : List Value}
  (hitems : container.items = .ok items)
include hitems

theorem exists_bestBy {beats : Int → Int → Prop} [DecidableRel beats] {f : Value → Int}
    (numeric : Value.NumericRule rule beats)
    (keys : ∀ v ∈ items, Function.key call function v = pure (.int (f v))) (some : items ≠ []) :
    ∃ best ∈ items, Function.bestBy call rule container function = pure best ∧
      ∀ v ∈ items, ¬ beats (f v) (f best) := by
  obtain ⟨best, mem, heq, least⟩ := numeric.exists_best? keys (fun _ _ => rfl) some
  refine ⟨best, mem, ?_, least⟩
  rw [Function.bestBy, Function.bestBy?, lift_ok hitems, pure_bind, heq]
  rfl

/-- The item whose key is less than that of every other one is found, whatever the order of the items. -/
theorem bestBy_eq_of_least {f : Value → Int} (keys : ∀ v ∈ items, Function.key call function v = pure (.int (f v)))
    {best : Value} (mem : best ∈ items) (least : ∀ v ∈ items, v ≠ best → f best < f v) :
    Function.bestBy call Value.least container function = pure best := by
  obtain ⟨found, hfound, heq, extreme⟩ :=
    exists_bestBy hitems Value.numericRule_least keys (List.ne_nil_of_mem mem)
  by_cases same : found = best
  · rw [heq, same]
  · exact absurd (least found hfound same) (extreme best mem)

theorem fails_bestBy_of_empty (empty : items = []) (s : Nat) :
    (Function.bestBy call rule container function).Fails s .noChoice := by
  subst empty
  rw [Function.bestBy, Function.bestBy?, lift_ok hitems]
  rfl

end

/-! ## Steps and programs -/

variable {input v w : Value} {results args : List Value} {s t u : Nat}

theorem gives_call {p : Primitive} {operands : List Operand}
    (hargs : Operand.values input results operands = .ok args)
    (h : (Primitive.run (Value.call 999) p args).Gives s v t) :
    ((Program.call p operands).run input results).Gives s v t := by
  rw [Step.run, Operand.value, lift_ok rfl, pure_bind, lift_ok hargs, pure_bind, apply_prim]
  exact h

/-- A step that calls the function of an earlier step. -/
theorem gives_callResult {function : Value} {step : Nat} {operands : List Operand}
    (hfunction : Operand.value input results (.result step) = .ok function)
    (hargs : Operand.values input results operands = .ok args) (h : (apply function args).Gives s v t) :
    ((Program.callResult step operands).run input results).Gives s v t := by
  rw [Step.run, lift_ok hfunction, pure_bind, lift_ok hargs, pure_bind]
  exact h

theorem fails_call {p : Primitive} {operands : List Operand} {fault : Fault}
    (hargs : Operand.values input results operands = .ok args)
    (h : (Primitive.run (Value.call 999) p args).Fails s fault) :
    ((Program.call p operands).run input results).Fails s fault := by
  rw [Step.run, Operand.value, lift_ok rfl, pure_bind, lift_ok hargs, pure_bind, apply_prim]
  exact h

namespace Program

theorem gives_nil (h : results.getLast? = some v) (s : Nat) :
    (runFrom input results []).Gives s v s := by
  rw [runFrom, h]
  rfl

/-- A step that gives a value is followed by the rest of the program, with the value among the results. -/
theorem runFrom_step {step : Step} {rest : Program} {result : Outcome (Value × Nat)}
    (hstep : (step.run input results).Gives s v t)
    (hrest : (runFrom input (results ++ [v]) rest).run t = result) :
    (runFrom input results (step :: rest)).run s = result := by
  rw [runFrom, StateT.run_bind, hstep, Outcome.ok_bind, hrest]

theorem gives_cons {step : Step} {rest : Program} (hstep : (step.run input results).Gives s v t)
    (hrest : (runFrom input (results ++ [v]) rest).Gives t w u) :
    (runFrom input results (step :: rest)).Gives s w u :=
  runFrom_step hstep hrest

/-- A step that fails ends the run. -/
theorem fails_step {step : Step} {rest : Program} {fault : Fault} (hstep : (step.run input results).Fails s fault) :
    (runFrom input results (step :: rest)).Fails s fault := by
  rw [runFrom]
  exact hstep.bind

theorem run_eq_error {program : Program} {fault : Fault} (h : (runFrom input [] program).Fails 0 fault) :
    program.run input = .error fault := by
  have result : runFrom input [] program 0 = .error fault := h
  rw [run, StateT.run', result]
  rfl

theorem run_eq_ok {program : Program} (h : (runFrom input [] program).Gives 0 v t) :
    program.run input = .ok v := by
  have result : runFrom input [] program 0 = .ok (v, t) := h
  rw [run, StateT.run', result]
  rfl

end Program

theorem Task.solve_eq_run {task : String} {program : Program} (h : program? task = some program) (grid : Value) :
    solve task grid = program.run grid := by
  rw [solve, h, Outcome.ofOption_some, Outcome.ok_bind]

end GridPuzzle
