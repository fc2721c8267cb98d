import GridPuzzle.Proofs.ProgramRun
import GridPuzzle.Proofs.LoneCell

/-!
# Orders of visits in a run

A set has no order of its own, and no order is promised in which its members are visited. Here a program is run
with the members of each set that a primitive gives arranged anew (`Program.runIn`), in any way that may differ from
call to call (`VisitOrder`). One of these ways leaves all sets as they are, and then the run is the usual one
(`Program.runIn_sorted`): what holds of a program in every order of visits holds of it as it is run.

The second half says of some operations on sets that the order of the visits makes no difference to them.
-/

namespace GridPuzzle

open Value Eval

def Value.isSet : Value → Bool
  | .set _ => true
  | _ => false

/-- For each call of a primitive that gives a set, the order in which the members of the set are visited. -/
structure VisitOrder where
  arrange : Primitive → List Value → Value → Value
  arranges : ∀ p args v, arrange p args v = v ∨ (arrange p args v).IsOrderingOf v

namespace VisitOrder

/-- Each set is visited in the order in which it keeps its members. -/
def sorted : VisitOrder where
  arrange _ _ v := v
  arranges _ _ _ := .inl rfl

variable (order : VisitOrder) (p : Primitive) (args : List Value)

/-- What is not a set is not changed. -/
theorem arrange_eq_self {v : Value} (other : v.isSet = false) : order.arrange p args v = v := by
  rcases order.arranges p args v with same | ⟨_, ys, -, rfl, -⟩
  · exact same
  · cases other

/-- A set of one member is visited in one order only. -/
theorem arrange_singleton (x : Value) : order.arrange p args (.set [x]) = .set [x] := by
  rcases order.arranges p args (.set [x]) with same | ⟨xs, ys, hxs, hys, perm⟩
  · exact same
  · cases hys
    rw [hxs, List.perm_singleton.mp perm]

theorem isOrderingOf_arrange {v : Value} {A : Value → Prop} (h : v.IsSetOf A) :
    (order.arrange p args v).IsOrderingOf v := by
  rcases order.arranges p args v with same | arranged
  · rw [same]
    exact h.isOrderingOf_self
  · exact arranged

end VisitOrder

/-! ## Runs in an order -/

/-- A run of a primitive, with the members of its result arranged. -/
def Primitive.runIn (order : VisitOrder) (call : Caller) (p : Primitive) (args : List Value) : Eval Value := do
  return order.arrange p args (← Primitive.run call p args)

/-- A call of a function, with the members of each set arranged that a primitive gives on the way. -/
def Value.callIn (order : VisitOrder) : Nat → Caller
  | 0 => callWith (Primitive.runIn order fun _ _ => throw .tooDeep)
  | depth + 1 => callWith (Primitive.runIn order (callIn order depth))

/-- The result of a step, given the results of the steps so far. -/
def Step.runIn (order : VisitOrder) (input : Value) (results : List Value) (step : Step) : Eval Value := do
  let function ← step.function.value input results
  Value.callIn order depthLimit function (← Operand.values input results step.args)

namespace Program

/-- The result of the last step, given the results of the steps so far. -/
def runFromIn (order : VisitOrder) (input : Value) (results : List Value) : Program → Eval Value
  | [] => Outcome.ofOption .unsetName results.getLast?
  | step :: rest => do
    let v ← step.runIn order input results
    runFromIn order input (results ++ [v]) rest

/-- The result of a program on an input, with all sets visited in an order. -/
def runIn (order : VisitOrder) (program : Program) (input : Value) : Outcome Value :=
  (program.runFromIn order input []).run' 0

end Program

/-! ## The usual order -/

theorem runIn_primitive_sorted (call : Caller) : Primitive.runIn .sorted call = Primitive.run call := by
  funext p args
  exact bind_pure _

theorem callIn_sorted (depth : Nat) : Value.callIn .sorted depth = Value.call depth := by
  induction depth with
  | zero => rw [Value.callIn, Value.call, runIn_primitive_sorted]
  | succ depth ih => rw [Value.callIn, Value.call, runIn_primitive_sorted, ih]

theorem runFromIn_sorted (input : Value) (program : Program) (results : List Value) :
    program.runFromIn .sorted input results = program.runFrom input results := by
  induction program generalizing results with
  | nil => rfl
  | cons step rest ih =>
      have first : step.runIn .sorted input results = step.run input results := by
        unfold Step.runIn Step.run apply
        rw [callIn_sorted]
      unfold Program.runFromIn Program.runFrom
      simp only [first, ih]

/-- A run in the order in which sets keep their members is the usual run. -/
theorem Program.runIn_sorted (program : Program) (input : Value) :
    program.runIn .sorted input = program.run input := by
  rw [runIn, run, runFromIn_sorted]

/-! ## Steps in an order -/

section

variable {order : VisitOrder} {call : Caller} {p : Primitive} {args : List Value} {v : Value} {s t : Nat}

/-- A primitive that gives a set gives it with its members arranged. -/
theorem runIn_eq_arrange (h : Primitive.run call p args = pure v) :
    Primitive.runIn order call p args = pure (order.arrange p args v) := by
  rw [Primitive.runIn, h, pure_bind]

theorem runIn_eq_pure (h : Primitive.run call p args = pure v) (other : v.isSet = false) :
    Primitive.runIn order call p args = pure v := by
  rw [runIn_eq_arrange h, order.arrange_eq_self p args other]

theorem gives_runIn (h : (Primitive.run call p args).Gives s v t) (other : v.isSet = false) :
    (Primitive.runIn order call p args).Gives s v t := by
  have arranged : (Primitive.runIn order call p args).Gives s (order.arrange p args v) t := h.bind (gives_pure t _)
  rwa [order.arrange_eq_self p args other] at arranged

theorem VisitOrder.exists_gives_runIn (order : VisitOrder) (call : Caller) (p : Primitive) (args : List Value)
    {A : Value → Prop} (h : (Primitive.run call p args).Gives s v t) (set : v.IsSetOf A) :
    ∃ w, (Primitive.runIn order call p args).Gives s w t ∧ w.IsOrderingOf v :=
  ⟨_, h.bind (gives_pure t _), order.isOrderingOf_arrange p args set⟩

theorem VisitOrder.exists_runIn (order : VisitOrder) (call : Caller) (p : Primitive) (args : List Value)
    {A : Value → Prop} (h : Primitive.run call p args = pure v) (set : v.IsSetOf A) :
    ∃ w, Primitive.runIn order call p args = pure w ∧ w.IsOrderingOf v :=
  ⟨_, runIn_eq_arrange h, order.isOrderingOf_arrange p args set⟩

theorem runIn_singleton (order : VisitOrder) (call : Caller) (x : Value) :
    Primitive.runIn order call .singleton [x] = pure (.set [x]) := by
  have run : Primitive.run call .singleton [x] = pure (.setOf [x]) := rfl
  rw [runIn_eq_arrange run, setOf_singleton, order.arrange_singleton]

end

section

variable {order : VisitOrder} {input v w : Value} {results args : List Value} {s t u : Nat} {p : Primitive}
  {operands : List Operand}

/-- A step that calls a primitive. -/
theorem gives_call_in (hargs : Operand.values input results operands = .ok args)
    (h : (Primitive.runIn order (Value.callIn order 999) p args).Gives s v t) :
    ((Program.call p operands).runIn order input results).Gives s v t := by
  rw [Step.runIn, Operand.value, lift_ok rfl, pure_bind, lift_ok hargs, pure_bind]
  change (Value.callWith _ (.prim p) args).Gives s v t
  rwa [callWith_prim]

theorem gives_callResult_in {function : Value} {step : Nat}
    (hfunction : Operand.value input results (.result step) = .ok function)
    (hargs : Operand.values input results operands = .ok args)
    (h : (Value.callIn order 1000 function args).Gives s v t) :
    ((Program.callResult step operands).runIn order input results).Gives s v t := by
  rw [Step.runIn, lift_ok hfunction, pure_bind, lift_ok hargs, pure_bind]
  exact h

namespace Program

theorem gives_nil_in (h : results.getLast? = some v) (s : Nat) :
    (runFromIn order input results []).Gives s v s := by
  rw [runFromIn, h]
  rfl

theorem gives_cons_in {step : Step} {rest : Program} (hstep : (step.runIn order input results).Gives s v t)
    (hrest : (runFromIn order input (results ++ [v]) rest).Gives t w u) :
    (runFromIn order input results (step :: rest)).Gives s w u := by
  rw [runFromIn]
  exact hstep.bind hrest

theorem runIn_eq_ok {program : Program} (h : (runFromIn order input [] program).Gives 0 v t) :
    program.runIn order input = .ok v := by
  have result : runFromIn order input [] program 0 = .ok (v, t) := h
  rw [runIn, StateT.run', result]
  rfl

end Program

end

/-! ## Operations to which the order makes no difference -/

namespace Value

variable {v v' w w' : Value} {S : Spot → Prop} {P Q : Location → Prop} {box : Box}

/-- A shift moves the spots of a patch, in whatever order they are visited. -/
theorem IsFigure.exists_shift_arranged (h : v.IsFigure S) (some : ∃ s, S s) (visits : w.IsOrderingOf v)
    (d : Location) : ∃ moved, Patch.shift w d.toValue = .ok moved ∧ moved.IsFigure (Moved d.shift S) := by
  obtain ⟨spots, rfl, mem⟩ := h.exists_visited visits
  obtain ⟨s₀, hs₀⟩ := some
  have size : (Value.set (spots.map Spot.toValue)).size = .ok (spots.map Spot.toValue).length := rfl
  have count : (spots.map Spot.toValue).length ≠ 0 := by
    rw [List.length_map]
    exact (List.length_pos_of_mem ((mem s₀).mpr hs₀)).ne'
  refine ⟨_, ?_, h.setOf_map_move mem d.shift_injective⟩
  rw [Patch.shift, size, Outcome.ok_bind, if_neg count, parts_toValue, Outcome.ok_bind]
  refine relocate_of_items rfl ?_ ((mem s₀).mpr hs₀) _ d.shift fun _ => rfl
  intro r hr s hs
  exact h.uniform r s ((mem r).mp hr) ((mem s).mp hs)

section

variable (h : v.IsLocationSet P) (visits : w.IsOrderingOf v)
include h visits

theorem IsLocationSet.visits_arranged : w.Visits P := by
  obtain ⟨ls, rfl, mem⟩ := h.exists_visited visits
  exact ⟨ls, mem, locationItems_set ls⟩

theorem IsLocationSet.exists_ring_arranged (hbox : Bounds P box) :
    ∃ ring, Patch.ring w = .ok ring ∧ ring.IsLocationSet (box.grown 0).OnBorder := by
  have locations := h.visits_arranged visits
  obtain ⟨ls, rfl, mem⟩ := h.exists_visited visits
  obtain ⟨l, hl⟩ := hbox.exists_location
  have size : (Value.set (ls.map Location.toValue)).size = .ok (ls.map Location.toValue).length := rfl
  refine locations.exists_ring hbox size ?_
  rw [List.length_map]
  exact (List.length_pos_of_mem ((mem l).mpr hl)).ne'

/-- The locations of one set that are not in another one. -/
theorem IsLocationSet.exists_without_arranged (h' : v'.IsLocationSet Q) (visits' : w'.IsOrderingOf v') :
    ∃ rest, Container.without w w' = .ok rest ∧ rest.IsLocationSet fun l => P l ∧ ¬ Q l := by
  obtain ⟨ls, rfl, mem⟩ := h.exists_visited visits
  obtain ⟨ks, rfl, mem'⟩ := h'.exists_visited visits'
  have plain : ∀ x ∈ ks.map Location.toValue, Plain x := by
    intro x hx
    obtain ⟨k, -, rfl⟩ := List.mem_map.mp hx
    exact k.plain_toValue
  have outside (l : Location) : (!(ks.map Location.toValue).contains l.toValue) = true ↔ ¬ Q l := by
    rw [Bool.not_eq_true', ← Bool.not_eq_true, contains_iff_mem plain l.plain_toValue,
      List.mem_map_of_injective fun _ _ => Location.toValue_injective, mem']
  refine ⟨_, without_set _ _, ?_⟩
  rw [List.filter_map]
  refine isLocationSet_setOf fun l => ?_
  rw [List.mem_filter, mem, Function.comp_apply, outside]

end

end Value

end GridPuzzle
