import GridPuzzle.Proofs.ProgramRun

/-!
# Built functions

A function of several arguments becomes one of fewer arguments when its first or its last argument is fixed. The result
records how many arguments are still to come, and the next one is fixed by this record. A `PendingCall` is a function
with the arguments that remain; to fix one of them, at either end, leaves what the call means unchanged
(`PendingCall.exists_fix`), and so does any sequence of such steps (`PendingCall.exists_fixAll`).

A function that is composed with itself is a nest of functions, and a call of it is a sequence of calls.

Both laws hold however primitives are run, that is, whatever the functions do that the built ones are made of.
-/

namespace GridPuzzle

open Eval

/-! ## Fixed arguments -/

/-- An end of a list of arguments. -/
inductive ArgumentEnd where
  | first
  | last
  deriving DecidableEq, Repr

namespace ArgumentEnd

/-- The primitive that fixes the argument at this end. -/
def binder : ArgumentEnd → Primitive
  | first => .bindFirst
  | last => .bindLast

/-- The argument at this end. -/
def argument : ArgumentEnd → List Value → Value
  | first, args => args.headD .null
  | last, args => args.getLastD .null

/-- The arguments without the one at this end. -/
def others : ArgumentEnd → List Value → List Value
  | first, args => args.tail
  | last, args => args.dropLast

/-- The function whose argument at this end is fixed; `rest` arguments are still to come. -/
def bound : ArgumentEnd → Nat → Nat → Value → Value → Value
  | first, serial, rest, function, fixed => .bindFirst serial rest function fixed
  | last, serial, rest, function, fixed => .bindLast serial rest function fixed

theorem length_others (e : ArgumentEnd) (args : List Value) : (e.others args).length = args.length - 1 := by
  cases e with
  | first => exact List.length_tail
  | last => exact List.length_dropLast

theorem arity_bound (e : ArgumentEnd) (serial rest : Nat) (function fixed : Value) :
    (e.bound serial rest function fixed).arity? = some rest := by
  cases e with
  | first => rfl
  | last => rfl

theorem gives_binder (e : ArgumentEnd) {function : Value} {rest : Nat} (h : Function.remaining function = .ok rest)
    (fixed : Value) (s : Nat) :
    (apply (.prim e.binder) [function, fixed]).Gives s (e.bound s rest function fixed) (s + 1) := by
  cases e with
  | first =>
      change (Function.bindFirst function fixed).Gives s _ _
      rw [Function.bindFirst, lift_ok h, pure_bind]
      rfl
  | last =>
      change (Function.bindLast function fixed).Gives s _ _
      rw [Function.bindLast, lift_ok h, pure_bind]
      rfl

/-- A call with the other arguments puts the fixed one back in its place. -/
theorem callWith_bound (e : ArgumentEnd) (serial : Nat) (function : Value) {args : List Value} (some : args ≠ [])
    (run : Primitive → List Value → Eval Value) :
    Value.callWith run (e.bound serial (e.others args).length function (e.argument args)) (e.others args) =
      Value.callWith run function args := by
  cases e with
  | first =>
      cases args with
      | nil => exact absurd rfl some
      | cons v rest => exact callWith_bindFirst_all run serial function v rest
  | last =>
      rcases List.eq_nil_or_concat args with rfl | ⟨front, v, rfl⟩
      · exact absurd rfl some
      · have called := callWith_bindLast_all run serial function v front
        simpa [bound, others, argument] using called

end ArgumentEnd

/-- A function and the arguments that it is still to be called with. -/
structure PendingCall where
  function : Value
  args : List Value

namespace PendingCall

variable {p : PendingCall}

/-- The function takes as many arguments as there are. -/
def Fits (p : PendingCall) : Prop :=
  p.function.arity? = some p.args.length

/-- The result of the call, given how primitives are run. -/
def result (run : Primitive → List Value → Eval Value) (p : PendingCall) : Eval Value :=
  p.function.callWith run p.args

/-- The argument at one end is fixed. -/
def fix (p : PendingCall) (e : ArgumentEnd) : Eval PendingCall :=
  return ⟨← apply (.prim e.binder) [p.function, e.argument p.args], e.others p.args⟩

/-- Arguments are fixed one after the other, each at the given end of those that remain. -/
def fixAll (p : PendingCall) (ends : List ArgumentEnd) : Eval PendingCall :=
  ends.foldlM fix p

/-- From two up to four arguments, fixing one leaves one fewer. -/
theorem remaining_eq {f : Value} {n : Nat} (arity : f.arity? = some n) (several : 2 ≤ n) (few : n ≤ 4) :
    Function.remaining f = .ok (n - 1) := by
  have cases : n = 2 ∨ n = 3 ∨ n = 4 := by omega
  rw [Function.remaining, arity]
  rcases cases with rfl | rfl | rfl <;> rfl

/-- Fixing an argument, at either end, leaves a call with the same result. -/
theorem exists_fix (fits : p.Fits) (several : 2 ≤ p.args.length) (few : p.args.length ≤ 4) (e : ArgumentEnd) (s : Nat) :
    ∃ q : PendingCall, (p.fix e).Gives s q (s + 1) ∧ q.Fits ∧ q.args.length + 1 = p.args.length ∧
      ∀ run, q.result run = p.result run := by
  have some : p.args ≠ [] := List.ne_nil_of_length_pos (by omega)
  have rest : Function.remaining p.function = .ok (e.others p.args).length := by
    rw [e.length_others]
    exact remaining_eq fits several few
  refine ⟨⟨e.bound s (e.others p.args).length p.function (e.argument p.args), e.others p.args⟩, ?_, ?_, ?_, ?_⟩
  · exact (e.gives_binder rest _ s).bind (gives_pure _ _)
  · exact e.arity_bound ..
  · rw [e.length_others]
    omega
  · exact e.callWith_bound s p.function some

/-- So does any sequence of such steps that leaves an argument. -/
theorem exists_fixAll {ends : List ArgumentEnd} (fits : p.Fits) (left : ends.length < p.args.length)
    (few : p.args.length ≤ 4) (s : Nat) :
    ∃ q : PendingCall, (p.fixAll ends).Gives s q (s + ends.length) ∧ q.Fits ∧
      q.args.length + ends.length = p.args.length ∧ ∀ run, q.result run = p.result run := by
  induction ends generalizing p s with
  | nil => exact ⟨p, rfl, fits, rfl, fun run => rfl⟩
  | cons e ends ih =>
      rw [List.length_cons] at left
      rcases exists_fix fits (by omega) few e s with ⟨q, first, fits', fewer, same⟩
      rcases ih fits' (by omega) (by omega) (s + 1) with ⟨r, rest, fits'', length, same'⟩
      refine ⟨r, ?_, fits'', ?_, fun run => (same' run).trans (same run)⟩
      · rw [List.length_cons, Nat.add_comm ends.length, ← Nat.add_assoc]
        exact first.bind rest
      · rw [List.length_cons]
        omega

end PendingCall

/-- **Arguments may be fixed in any order.** Let a function take two, three or four arguments, and let all but one of
them be fixed one after the other, each time the first or the last of those that remain. What is built takes one
argument, and called with the one that remains it does what the function does with all of them: it gives the same value
or fails in the same way. -/
theorem arguments_fixed_in_any_order {f : Value} {args : List Value} {ends : List ArgumentEnd}
    (arity : f.arity? = some args.length) (few : args.length ≤ 4) (one : ends.length + 1 = args.length) (s : Nat) :
    ∃ g x, (PendingCall.fixAll ⟨f, args⟩ ends).Gives s ⟨g, [x]⟩ (s + ends.length) ∧ g.arity? = some 1 ∧
      apply g [x] = apply f args ∧ ∀ run, Value.callWith run g [x] = Value.callWith run f args := by
  have left : ends.length < args.length := by omega
  rcases PendingCall.exists_fixAll (p := ⟨f, args⟩) arity left few s with ⟨⟨g, rest⟩, built, fits, length, same⟩
  have single : rest.length = 1 := by
    dsimp only at length
    omega
  rcases List.length_eq_one_iff.mp single with ⟨x, rfl⟩
  exact ⟨g, x, built, fits, same _, same⟩

/-- A range whose step is fixed first and whose start is fixed next waits for its end. -/
theorem range_waiting_for_its_end :
    (Value.prim .range).arity? = some 3 ∧ ∃ g, (PendingCall.fixAll ⟨.prim .range, [.int 1, .int 8, .int 3]⟩
      [.last, .first]).Gives 0 ⟨g, [.int 8]⟩ 2 ∧ apply g [.int 8] = pure (.tuple [.int 1, .int 4, .int 7]) := by
  have arity : (Value.prim .range).arity? = some [Value.int 1, .int 8, .int 3].length := rfl
  have one : [ArgumentEnd.last, .first].length + 1 = [Value.int 1, .int 8, .int 3].length := rfl
  rcases arguments_fixed_in_any_order arity (by decide) one 0 with ⟨g, x, built, -, called, -⟩
  have waiting : (PendingCall.fixAll ⟨.prim .range, [.int 1, .int 8, .int 3]⟩ [.last, .first]).Gives 0
      ⟨.bindFirst 1 1 (.bindLast 0 2 (.prim .range) (.int 3)) (.int 1), [.int 8]⟩ 2 := rfl
  cases Except.ok.inj (built.symm.trans waiting)
  exact ⟨arity, _, built, called.trans rfl⟩

/-! ## Repeated functions -/

/-- **A function composed with itself is called again and again.** Composed of `n` copies, it does what `n` calls of it
do, each on the result of the one before, up to the first that fails. So `m + n` copies do what `m` copies do on the
result of `n` copies. -/
theorem copies_of_function_are_called_in_turn (f : Value) {m n : Int} (hm : 1 ≤ m) (hn : 1 ≤ n) (s s' s'' : Nat) :
    ∃ fm fn fmn t t' t'', (apply (.prim .iterate) [f, .int m]).Gives s fm t ∧
      (apply (.prim .iterate) [f, .int n]).Gives s' fn t' ∧
      (apply (.prim .iterate) [f, .int (m + n)]).Gives s'' fmn t'' ∧
      (∀ x, apply fn [x] = callTimes apply f n.toNat x ∧
        apply fmn [x] = (do apply fm [← apply fn [x]])) ∧
      ∀ run x, Value.callWith run fn [x] = callTimes (Value.callWith run) f n.toNat x ∧
        Value.callWith run fmn [x] = (do Value.callWith run fm [← Value.callWith run fn [x]]) := by
  rcases exists_iterate_calls f hm s with ⟨fm, builtM, callsM⟩
  rcases exists_iterate_calls f hn s' with ⟨fn, builtN, callsN⟩
  rcases exists_iterate_calls f (show 1 ≤ m + n by omega) s'' with ⟨fmn, builtSum, callsSum⟩
  have count : (m + n).toNat = m.toNat + n.toNat := by omega
  have laws (run : Primitive → List Value → Eval Value) (x : Value) :
      Value.callWith run fn [x] = callTimes (Value.callWith run) f n.toNat x ∧
        Value.callWith run fmn [x] = (do Value.callWith run fm [← Value.callWith run fn [x]]) := by
    refine ⟨callsN run x, ?_⟩
    rw [callsSum, count, callTimes_add, callsN]
    exact bind_congr fun v => (callsM run v).symm
  exact ⟨fm, fn, fmn, _, _, _, builtM, builtN, builtSum, laws _, laws⟩

/-- The first item of a first item is found; a third call fails, as a number has no first item. -/
theorem first_item_taken_three_times :
    (1 : Int) ≤ 1 ∧ (1 : Int) ≤ 2 ∧ ∃ twice thrice t t',
      (apply (.prim .iterate) [.prim .first, .int 2]).Gives 0 twice t ∧
      (apply (.prim .iterate) [.prim .first, .int 3]).Gives 1 thrice t' ∧
      apply twice [.tuple [.tuple [.int 7]]] = pure (.int 7) ∧
      ∀ s, (apply thrice [.tuple [.tuple [.int 7]]]).Fails s .wrongKind := by
  have one : (1 : Int) ≤ 1 := Int.le_refl 1
  have two : (1 : Int) ≤ 2 := by decide
  rcases copies_of_function_are_called_in_turn (.prim .first) one two 0 0 1 with
    ⟨once, twice, thrice, _, t, t', builtOnce, builtTwice, builtThrice, laws, -⟩
  have alone : (apply (.prim .iterate) [.prim .first, .int 1]).Gives 0 (.prim .first) 0 := rfl
  cases Except.ok.inj (builtOnce.symm.trans alone)
  rcases laws (.tuple [.tuple [.int 7]]) with ⟨calls, last⟩
  have found : apply twice [.tuple [.tuple [.int 7]]] = pure (.int 7) := calls.trans rfl
  refine ⟨one, two, twice, thrice, t, t', builtTwice, builtThrice, found, fun s => ?_⟩
  rw [last, found, pure_bind]
  rfl

end GridPuzzle
