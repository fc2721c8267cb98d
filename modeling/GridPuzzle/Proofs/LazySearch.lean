import GridPuzzle.Proofs.ProgramRun

/-!
# Searching for the first item

A search calls a condition on the items of a tuple one after the other and stops at the first item on which it holds. The
items before that one are *passed* (`Passes`): the condition is called on each of them, gives a value, and this value
does not count as true. A search that has passed some items goes on behind them as if it started there
(`Passes.run_firstWith`), so it ends in one of three ways (`search_cases`): all items are passed, or the condition holds on
the item behind those passed, or it fails there.

A filter calls the condition on the passed items in the same way (`Passes.run_filterM`), but then goes on to the end. So
where it succeeds, the first of the items that it keeps is the one that the search finds.
-/

namespace GridPuzzle

open Eval

/-! ## Faults of single items -/

/-- The fault of the computation of an item, as it comes out of the traversal. -/
def Fault.inside (fault : Fault) : Fault :=
  if fault = .exhausted then .exhaustedInside else fault

theorem Fault.inside_ne_exhausted (fault : Fault) : fault.inside ≠ .exhausted := by
  unfold inside
  split
  next => exact Fault.noConfusion
  next other => exact other

namespace Eval

variable {α : Type} {x : Eval α} {s t : Nat} {a : α} {fault : Fault}

theorem gives_or_fails (x : Eval α) (s : Nat) : (∃ a t, x.Gives s a t) ∨ ∃ fault, x.Fails s fault := by
  cases result : x.run s with
  | ok p => exact .inl ⟨p.1, p.2, result⟩
  | error fault => exact .inr ⟨fault, result⟩

theorem Gives.not_fails (h : x.Gives s a t) : ¬ x.Fails s fault := by
  intro fails
  cases h.symm.trans fails

theorem Gives.unique {b : α} {u : Nat} (h : x.Gives s a t) (h' : x.Gives s b u) : a = b ∧ t = u := by
  cases h.symm.trans h'
  exact ⟨rfl, rfl⟩

theorem Fails.unique {fault' : Fault} (h : x.Fails s fault) (h' : x.Fails s fault') : fault = fault' := by
  cases h.symm.trans h'
  rfl

theorem Fails.asItem (h : x.Fails s fault) : (asItem x).Fails s fault.inside := by
  have result : x s = .error fault := h
  change Eval.asItem x s = .error fault.inside
  rw [Eval.asItem, result]
  cases fault <;> rfl

end Eval

/-! ## Passed items -/

section

variable {call : Caller} {condition : Value} {s t u : Nat} {e v w : Value} {front back xs ys : List Value} {fault : Fault}

/-- The condition is called on the items one after the other, and none of its results counts as true. The next serial number
is then `t` in place of `s`. -/
inductive Passes (call : Caller) (condition : Value) : List Value → Nat → Nat → Prop
  | nil (s : Nat) : Passes call condition [] s s
  | cons {v w : Value} {vs : List Value} {s t u : Nat} : (call condition [v]).Gives s w t → w.truthy = false →
      Passes call condition vs t u → Passes call condition (v :: vs) s u

/-- Whether a condition holds on an item of a traversal. -/
def holdsOn (call : Caller) (condition v : Value) : Eval Bool :=
  return (← asItem (call condition [v])).truthy

theorem gives_holdsOn (h : (call condition [v]).Gives s w t) : (holdsOn call condition v).Gives s w.truthy t :=
  h.asItem.bind (gives_pure t _)

theorem fails_holdsOn (h : (call condition [v]).Fails s fault) : (holdsOn call condition v).Fails s fault.inside :=
  h.asItem.bind

theorem firstWith_cons (v : Value) (vs : List Value) : Function.firstWith call condition (v :: vs) =
    (do if ← holdsOn call condition v then return v else Function.firstWith call condition vs) := by
  rw [Function.firstWith, holdsOn, bind_assoc]
  simp only [pure_bind]

theorem Passes.run_firstWith (h : Passes call condition front s t) (rest : List Value) :
    (Function.firstWith call condition (front ++ rest)).run s = (Function.firstWith call condition rest).run t := by
  induction h with
  | nil s => rfl
  | cons gives falsy _ ih =>
      rw [List.cons_append, firstWith_cons, StateT.run_bind, gives_holdsOn gives, Outcome.ok_bind, falsy]
      exact ih

/-- The condition is called on the items up to the one on which it holds, and on no item behind that. -/
theorem gives_firstWith (passed : Passes call condition front s t) (gives : (call condition [e]).Gives t w u)
    (truthy : w.truthy = true) (back : List Value) :
    (Function.firstWith call condition (front ++ e :: back)).Gives s e u := by
  rw [Gives, passed.run_firstWith, firstWith_cons, StateT.run_bind, gives_holdsOn gives, Outcome.ok_bind, truthy]
  rfl

theorem fails_firstWith (passed : Passes call condition front s t) (fails : (call condition [v]).Fails t fault)
    (back : List Value) : (Function.firstWith call condition (front ++ v :: back)).Fails s fault.inside := by
  rw [Fails, passed.run_firstWith, firstWith_cons]
  exact (fails_holdsOn fails).bind

theorem fails_firstWith_of_passes (passed : Passes call condition xs s t) :
    (Function.firstWith call condition xs).Fails s .exhausted := by
  have result := passed.run_firstWith []
  rw [List.append_nil] at result
  exact result

/-- The condition is called on the items up to one on which it holds or fails, if there is one. -/
theorem search_cases (call : Caller) (condition : Value) (xs : List Value) (s : Nat) :
    (∃ t, Passes call condition xs s t) ∨
    (∃ front e back t w u, xs = front ++ e :: back ∧ Passes call condition front s t ∧
      (call condition [e]).Gives t w u ∧ w.truthy = true) ∨
    ∃ front v back t fault, xs = front ++ v :: back ∧ Passes call condition front s t ∧
      (call condition [v]).Fails t fault := by
  induction xs generalizing s with
  | nil => exact .inl ⟨s, .nil s⟩
  | cons x xs ih =>
      rcases gives_or_fails (call condition [x]) s with ⟨w, t, gives⟩ | ⟨fault, fails⟩
      · cases truthy : w.truthy with
        | true => exact .inr (.inl ⟨[], x, xs, s, w, t, rfl, .nil s, gives, truthy⟩)
        | false =>
            rcases ih t with ⟨u, passed⟩ | ⟨front, e, back, u, w', u', rfl, passed, gives', truthy'⟩ |
              ⟨front, v, back, u, fault, rfl, passed, fails⟩
            · exact .inl ⟨u, .cons gives truthy passed⟩
            · exact .inr (.inl ⟨x :: front, e, back, u, w', u', rfl, .cons gives truthy passed, gives', truthy'⟩)
            · exact .inr (.inr ⟨x :: front, v, back, u, fault, rfl, .cons gives truthy passed, fails⟩)
      · exact .inr (.inr ⟨[], x, xs, s, fault, rfl, .nil s, fails⟩)

theorem gives_firstWith_iff : (Function.firstWith call condition xs).Gives s e u ↔
    ∃ front back t w, xs = front ++ e :: back ∧ Passes call condition front s t ∧
      (call condition [e]).Gives t w u ∧ w.truthy = true := by
  constructor
  · intro found
    rcases search_cases call condition xs s with ⟨t, passed⟩ | ⟨front, e', back, t, w, u', rfl, passed, gives, truthy⟩ |
      ⟨front, v, back, t, fault, rfl, passed, fails⟩
    · exact absurd (fails_firstWith_of_passes passed) found.not_fails
    · obtain ⟨rfl, rfl⟩ := found.unique (gives_firstWith passed gives truthy back)
      exact ⟨front, back, t, w, rfl, passed, gives, truthy⟩
    · exact absurd (fails_firstWith passed fails back) found.not_fails
  · rintro ⟨front, back, t, w, rfl, passed, gives, truthy⟩
    exact gives_firstWith passed gives truthy back

theorem fails_firstWith_iff : (Function.firstWith call condition xs).Fails s fault ↔
    (fault = .exhausted ∧ ∃ t, Passes call condition xs s t) ∨
    ∃ front v back t raised, xs = front ++ v :: back ∧ Passes call condition front s t ∧
      (call condition [v]).Fails t raised ∧ fault = raised.inside := by
  constructor
  · intro failed
    rcases search_cases call condition xs s with ⟨t, passed⟩ | ⟨front, e, back, t, w, u, rfl, passed, gives, truthy⟩ |
      ⟨front, v, back, t, raised, rfl, passed, fails⟩
    · exact .inl ⟨failed.unique (fails_firstWith_of_passes passed), t, passed⟩
    · exact absurd failed (gives_firstWith passed gives truthy back).not_fails
    · exact .inr ⟨front, v, back, t, raised, rfl, passed, fails, failed.unique (fails_firstWith passed fails back)⟩
  · rintro (⟨rfl, t, passed⟩ | ⟨front, v, back, t, raised, rfl, passed, fails, rfl⟩)
    · exact fails_firstWith_of_passes passed
    · exact fails_firstWith passed fails back

/-! ## Filtered items -/

theorem filter_tuple (call : Caller) (condition : Value) (xs : List Value) :
    Function.filter call (.tuple xs) condition = (do return .tuple (← xs.filterM (holdsOn call condition))) :=
  rfl

theorem Passes.run_filterM (h : Passes call condition front s t) (rest : List Value) :
    ((front ++ rest).filterM (holdsOn call condition)).run s = (rest.filterM (holdsOn call condition)).run t := by
  induction h with
  | nil s => rfl
  | cons gives falsy _ ih =>
      rw [List.cons_append, filterM_cons, StateT.run_bind, gives_holdsOn gives, Outcome.ok_bind, falsy]
      exact ih

/-- A filter that succeeds keeps nothing if all items are passed, and else it keeps the item that the search finds as the
first one. -/
theorem head_of_filterM {kept : List Value} (h : (xs.filterM (holdsOn call condition)).Gives s kept u) :
    (kept = [] ∧ ∃ t, Passes call condition xs s t) ∨
    ∃ e rest t, kept = e :: rest ∧ (Function.firstWith call condition xs).Gives s e t := by
  rcases search_cases call condition xs s with ⟨t, passed⟩ | ⟨front, e, back, t, w, u', rfl, passed, gives, truthy⟩ |
    ⟨front, v, back, t, fault, rfl, passed, fails⟩
  · have nothing : (xs.filterM (holdsOn call condition)).Gives s [] t := by
      have result := passed.run_filterM []
      rw [List.append_nil] at result
      exact result
    exact .inl ⟨(h.unique nothing).1, t, passed⟩
  · rw [Gives, passed.run_filterM, filterM_cons, StateT.run_bind, gives_holdsOn gives, Outcome.ok_bind, truthy] at h
    obtain ⟨rest, t', -, last⟩ := gives_bind_iff.mp h
    cases last
    exact .inr ⟨e, rest, u', rfl, gives_firstWith passed gives truthy back⟩
  · have fails' : (v :: back).filterM (holdsOn call condition) |>.Fails t fault.inside := by
      rw [filterM_cons]
      exact (fails_holdsOn fails).bind
    cases h.symm.trans ((passed.run_filterM (v :: back)).trans fails')

end

/-- **A search ends at the first item on which its condition holds or fails.** It gives an item exactly if the condition is
called on the items before it without a fault and without a result that counts as true, and then gives such a result on
the item; no item behind it is looked at. It runs out of items exactly if all of them are passed in this way. A fault of
the condition on the item behind those passed comes out of the search, except that running out of items inside the
condition is told apart from running out of items of the search. If the filter by the same condition succeeds, the search
gives the first item that the filter keeps, or both have none. -/
theorem search_ends_at_first_hit_or_fault (call : Caller) (condition : Value) (xs : List Value) (s : Nat) :
    (∀ e u, (Function.findFirst call (.tuple xs) condition).Gives s e u ↔
      ∃ front back t w, xs = front ++ e :: back ∧ Passes call condition front s t ∧
        (call condition [e]).Gives t w u ∧ w.truthy = true) ∧
    ((Function.findFirst call (.tuple xs) condition).Fails s .exhausted ↔ ∃ t, Passes call condition xs s t) ∧
    (∀ fault, fault ≠ .exhausted → ((Function.findFirst call (.tuple xs) condition).Fails s fault ↔
      ∃ front v back t raised, xs = front ++ v :: back ∧ Passes call condition front s t ∧
        (call condition [v]).Fails t raised ∧ fault = if raised = .exhausted then .exhaustedInside else raised)) ∧
    ∀ kept u, (Function.filter call (.tuple xs) condition).Gives s kept u →
      (∃ e t, (Function.findFirst call (.tuple xs) condition).Gives s e t ∧ kept.head = .ok e) ∨
      ((Function.findFirst call (.tuple xs) condition).Fails s .exhausted ∧ kept.head = .error .exhausted) := by
  have search : Function.findFirst call (.tuple xs) condition = Function.firstWith call condition xs := rfl
  rw [search]
  refine ⟨fun e u => gives_firstWith_iff, ?_, fun fault other => ?_, fun kept u filtered => ?_⟩
  · rw [fails_firstWith_iff]
    constructor
    · rintro (⟨-, passed⟩ | ⟨_, _, _, _, raised, -, -, -, same⟩)
      · exact passed
      · exact absurd same.symm raised.inside_ne_exhausted
    · intro passed
      exact .inl ⟨rfl, passed⟩
  · rw [fails_firstWith_iff]
    constructor
    · rintro (⟨same, -⟩ | raised)
      · exact absurd same other
      · exact raised
    · exact .inr
  · rw [filter_tuple] at filtered
    obtain ⟨items, t, kept_eq, last⟩ := gives_bind_iff.mp filtered
    cases last
    rcases head_of_filterM kept_eq with ⟨rfl, t, passed⟩ | ⟨e, rest, t, rfl, found⟩
    · exact .inr ⟨fails_firstWith_of_passes passed, rfl⟩
    · exact .inl ⟨e, t, found, rfl⟩

end GridPuzzle
