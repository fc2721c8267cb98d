import GridPuzzle.Function
import Mathlib.Data.List.Basic

/-!
# Traversals whose outcome is known

Operations on values run through lists inside `Outcome` or `Eval`. Where each single computation is known
to succeed, the whole traversal is a plain `map`, `filter` or `foldl`. The facts are stated once for any
lawful monad.

Where it is only known that a traversal has succeeded, so have its single computations, and what holds of each
of their results holds of all items of the result.
-/

namespace GridPuzzle

namespace Outcome

@[simp] theorem ok_bind {α β : Type} (a : α) (f : α → Outcome β) :
    ((Except.ok a : Outcome α) >>= f) = f a :=
  rfl

@[simp] theorem error_bind {α β : Type} (fault : Fault) (f : α → Outcome β) :
    ((Except.error fault : Outcome α) >>= f) = .error fault :=
  rfl

@[simp] theorem pure_eq_ok {α : Type} (a : α) : (pure a : Outcome α) = .ok a :=
  rfl

@[simp] theorem ofOption_some {α : Type} (fault : Fault) (a : α) :
    ofOption fault (some a) = .ok a :=
  rfl

end Outcome

section Traversals

variable {m : Type → Type} [Monad m] [LawfulMonad m] {α β : Type}

theorem mapM_eq_pure_map {f : α → m β} {g : α → β} {xs : List α}
    (h : ∀ x ∈ xs, f x = pure (g x)) : xs.mapM f = pure (xs.map g) := by
  induction xs with
  | nil => rfl
  | cons x xs ih =>
      rw [List.mapM_cons, h x List.mem_cons_self, pure_bind,
        ih fun y hy => h y (List.mem_cons_of_mem x hy), pure_bind, List.map_cons]

theorem filterAuxM_eq_pure {f : α → m Bool} {p : α → Bool} {xs : List α}
    (h : ∀ x ∈ xs, f x = pure (p x)) (kept : List α) :
    xs.filterAuxM f kept = pure ((xs.filter p).reverse ++ kept) := by
  induction xs generalizing kept with
  | nil => rfl
  | cons x xs ih =>
      have hxs : ∀ y ∈ xs, f y = pure (p y) := fun y hy => h y (List.mem_cons_of_mem x hy)
      rw [List.filterAuxM, h x List.mem_cons_self, pure_bind, ih hxs]
      cases hp : p x <;> simp [hp]

theorem filterM_eq_pure_filter {f : α → m Bool} {p : α → Bool} {xs : List α}
    (h : ∀ x ∈ xs, f x = pure (p x)) : xs.filterM f = pure (xs.filter p) := by
  rw [List.filterM, filterAuxM_eq_pure h, pure_bind, List.append_nil, List.reverse_reverse]

theorem filterAuxM_append (f : α → m Bool) (xs kept kept' : List α) :
    xs.filterAuxM f (kept ++ kept') = (do return (← xs.filterAuxM f kept) ++ kept') := by
  induction xs generalizing kept with
  | nil => rw [List.filterAuxM, List.filterAuxM, pure_bind]
  | cons x xs ih =>
      rw [List.filterAuxM, List.filterAuxM, bind_assoc]
      refine bind_congr fun keep => ?_
      cases keep with
      | false => exact ih kept
      | true => exact ih (x :: kept)

theorem filterM_cons (f : α → m Bool) (x : α) (xs : List α) :
    (x :: xs).filterM f = (do if ← f x then return x :: (← xs.filterM f) else xs.filterM f) := by
  rw [List.filterM, List.filterAuxM, bind_assoc]
  refine bind_congr fun keep => ?_
  cases keep with
  | false => rfl
  | true =>
      have first : xs.filterAuxM f [x] = _ := filterAuxM_append f xs [] [x]
      simp [List.filterM, first]

theorem allM_eq_pure_all {f : α → m Bool} {p : α → Bool} {xs : List α}
    (h : ∀ x ∈ xs, f x = pure (p x)) : xs.allM f = pure (xs.all p) := by
  induction xs with
  | nil => rfl
  | cons x xs ih =>
      rw [List.allM, h x List.mem_cons_self, pure_bind, ih fun y hy => h y (List.mem_cons_of_mem x hy)]
      cases hp : p x <;> simp [hp]

theorem filterMapM_map_eq_pure_filterMap {γ : Type} {e : α → β} {f : β → m (Option γ)} {g : α → Option γ}
    {xs : List α} (h : ∀ x ∈ xs, f (e x) = pure (g x)) : (xs.map e).filterMapM f = pure (xs.filterMap g) := by
  induction xs with
  | nil => rfl
  | cons x xs ih =>
      have rest := ih fun y hy => h y (List.mem_cons_of_mem x hy)
      rw [List.map_cons, List.filterMapM_cons, h x List.mem_cons_self, pure_bind, List.filterMap_cons, rest]
      cases g x with
      | none => rfl
      | some y => exact pure_bind _ _

theorem filterMapM_eq_pure_filterMap {f : α → m (Option β)} {g : α → Option β} {xs : List α}
    (h : ∀ x ∈ xs, f x = pure (g x)) : xs.filterMapM f = pure (xs.filterMap g) := by
  have mapped := filterMapM_map_eq_pure_filterMap (e := id) h
  rwa [List.map_id] at mapped

theorem findM?_eq_pure_find? {f : α → m Bool} {p : α → Bool} {xs : List α}
    (h : ∀ x ∈ xs, f x = pure (p x)) : xs.findM? f = pure (xs.find? p) := by
  induction xs with
  | nil => rfl
  | cons x xs ih =>
      rw [List.findM?, h x List.mem_cons_self, pure_bind, ih fun y hy => h y (List.mem_cons_of_mem x hy),
        List.find?_cons]
      cases p x <;> rfl

end Traversals

/-! ## Traversals that have succeeded -/

namespace Outcome

variable {α β : Type}

theorem bind_eq_ok {x : Outcome α} {f : α → Outcome β} {b : β} :
    x >>= f = .ok b ↔ ∃ a, x = .ok a ∧ f a = .ok b := by
  cases x with
  | error fault => simp
  | ok a => simp

theorem ofOption_eq_ok {fault : Fault} {x : Option α} {a : α} : ofOption fault x = .ok a ↔ x = some a := by
  cases x with
  | none => simp [ofOption]
  | some b => simp [ofOption]

/-- If every result is given by a function, the results are those of a plain `map`. -/
theorem eq_map_of_mapM {f : α → Outcome β} {g : α → β} {xs : List α} {ys : List β}
    (result : ∀ x ∈ xs, ∀ y, f x = .ok y → y = g x) (h : xs.mapM f = .ok ys) : ys = xs.map g := by
  induction xs generalizing ys with
  | nil =>
      cases h
      rfl
  | cons x xs ih =>
      rw [List.mapM_cons] at h
      obtain ⟨y, hy, h⟩ := bind_eq_ok.mp h
      obtain ⟨rest, hrest, h⟩ := bind_eq_ok.mp h
      cases h
      rw [List.map_cons, result x List.mem_cons_self y hy,
        ih (fun z hz => result z (List.mem_cons_of_mem x hz)) hrest]

theorem length_of_mapM {f : α → Outcome β} {xs : List α} {ys : List β} (h : xs.mapM f = .ok ys) :
    ys.length = xs.length := by
  induction xs generalizing ys with
  | nil =>
      cases h
      rfl
  | cons x xs ih =>
      rw [List.mapM_cons] at h
      obtain ⟨y, -, h⟩ := bind_eq_ok.mp h
      obtain ⟨rest, hrest, h⟩ := bind_eq_ok.mp h
      cases h
      rw [List.length_cons, List.length_cons, ih hrest]

/-- A traversal succeeds if its single computations do. -/
theorem exists_mapM {f : α → Outcome β} {xs : List α} (h : ∀ x ∈ xs, ∃ y, f x = .ok y) :
    ∃ ys, xs.mapM f = .ok ys ∧ List.Forall₂ (fun x y => f x = .ok y) xs ys := by
  induction xs with
  | nil => exact ⟨[], rfl, .nil⟩
  | cons x xs ih =>
      obtain ⟨y, hy⟩ := h x List.mem_cons_self
      obtain ⟨ys, hys, each⟩ := ih fun z hz => h z (List.mem_cons_of_mem x hz)
      refine ⟨y :: ys, ?_, .cons hy each⟩
      rw [List.mapM_cons, hy, ok_bind, hys, ok_bind, pure_eq_ok]

/-- Every result of a traversal is that of an item. -/
theorem exists_of_mem_mapM {f : α → Outcome β} {xs : List α} {ys : List β} (h : xs.mapM f = .ok ys) {y : β}
    (hy : y ∈ ys) : ∃ x ∈ xs, f x = .ok y := by
  induction xs generalizing ys with
  | nil =>
      cases h
      cases hy
  | cons x xs ih =>
      rw [List.mapM_cons] at h
      obtain ⟨z, hz, h⟩ := bind_eq_ok.mp h
      obtain ⟨rest, hrest, h⟩ := bind_eq_ok.mp h
      cases h
      rcases List.mem_cons.mp hy with rfl | hy
      · exact ⟨x, List.mem_cons_self, hz⟩
      · obtain ⟨x', hx', heq⟩ := ih hrest hy
        exact ⟨x', List.mem_cons_of_mem x hx', heq⟩

theorem exists_of_filterMapM {f : α → Outcome (Option β)} {xs : List α} {ys : List β}
    (h : xs.filterMapM f = .ok ys) : ∃ g, (∀ x ∈ xs, f x = .ok (g x)) ∧ ys = xs.filterMap g := by
  let g (x : α) : Option β := (f x).toOption.join
  refine ⟨g, ?_⟩
  induction xs generalizing ys with
  | nil =>
      cases h
      exact ⟨fun _ hx => absurd hx List.not_mem_nil, rfl⟩
  | cons x xs ih =>
      rw [List.filterMapM_cons] at h
      obtain ⟨y, hy, h⟩ := bind_eq_ok.mp h
      have hg : g x = y := by
        change (f x).toOption.join = y
        rw [hy]
        rfl
      rw [List.forall_mem_cons, hg]
      cases y with
      | none =>
          obtain ⟨results, rfl⟩ := ih h
          exact ⟨⟨hy, results⟩, (List.filterMap_cons_none hg).symm⟩
      | some y =>
          obtain ⟨rest, hrest, h⟩ := bind_eq_ok.mp h
          obtain ⟨results, rfl⟩ := ih hrest
          cases h
          exact ⟨⟨hy, results⟩, (List.filterMap_cons_some hg).symm⟩

/-- What each step of a fold preserves, the whole fold preserves. -/
theorem foldlM_preserves {f : β → α → Outcome β} {p : β → Prop} {xs : List α}
    (step : ∀ b, ∀ x ∈ xs, ∀ b', p b → f b x = .ok b' → p b') {b b' : β} (start : p b)
    (h : xs.foldlM f b = .ok b') : p b' := by
  induction xs generalizing b with
  | nil =>
      cases h
      exact start
  | cons x xs ih =>
      rw [List.foldlM_cons] at h
      obtain ⟨c, hc, h⟩ := bind_eq_ok.mp h
      exact ih (fun b y hy => step b y (List.mem_cons_of_mem x hy)) (step b x List.mem_cons_self c start hc) h

end Outcome

end GridPuzzle
