import GridPuzzle.Container
import GridPuzzle.Patch.Extent
import GridPuzzle.Proofs.Location
import GridPuzzle.Proofs.Traversal

/-!
# Patches as sets of locations

A patch is a set of locations or an object, and most operations look only at the locations. `v.IsPatch P`
says that the locations of `v` are those with the property `P`, whichever of the two `v` is; what follows
is stated for patches in this sense. The outermost rows and columns of a patch are the extreme ones among
its locations (`IsPatch.topRow` and its like), all by one fact about the choice of a best key.
-/

namespace GridPuzzle

namespace Value

/-! ## Sets of locations and sets of cells -/

/-- The value is the set of the locations with a property. -/
def IsLocationSet (v : Value) (P : Location → Prop) : Prop :=
  v.IsSetOf fun x => ∃ l, P l ∧ x = l.toValue

/-- The value is the set of the cells, each a color with a location, that stand in a relation. -/
def IsCellSet (v : Value) (R : Int → Location → Prop) : Prop :=
  v.IsSetOf fun x => ∃ c l, R c l ∧ x = .pair (.int c) l.toValue

variable {v : Value} {P : Location → Prop} {Q : Value → Prop} {R : Int → Location → Prop}

theorem IsSetOf.items (h : v.IsSetOf Q) : v.items = .ok v.itemList := by
  obtain ⟨⟨xs, rfl, -⟩, -⟩ := h
  rfl

theorem IsSetOf.size (h : v.IsSetOf Q) : v.size = .ok v.itemList.length := by
  rw [Value.size, h.items, Outcome.ok_bind, Outcome.pure_eq_ok]

theorem IsSetOf.eq_set (h : v.IsSetOf Q) : v = .set v.itemList := by
  obtain ⟨⟨xs, rfl, -⟩, -⟩ := h
  rfl

theorem IsSetOf.mem_itemList (h : v.IsSetOf Q) (x : Value) : x ∈ v.itemList ↔ Q x :=
  h.mem_iff x

@[simp] theorem number_int (n : Int) : (Value.int n).number = .ok n :=
  rfl

@[simp] theorem nth_location_zero (row column : Int) : (location row column).nth 0 = .ok (.int row) :=
  rfl

@[simp] theorem nth_location_one (row column : Int) : (location row column).nth 1 = .ok (.int column) :=
  rfl

/-! ## Members of sets of locations -/

theorem IsLocationSet.toValue_mem_iff (h : v.IsLocationSet P) {l : Location} : l.toValue ∈ v ↔ P l := by
  rw [IsSetOf.mem_iff h]
  constructor
  · intro hl
    obtain ⟨k, hk, same⟩ := hl
    rwa [Location.toValue_injective same]
  · intro hl
    exact ⟨l, hl, rfl⟩

theorem IsLocationSet.exists_mem_iff (h : v.IsLocationSet P) : (∃ x ∈ v, Q x) ↔ ∃ l, P l ∧ Q l.toValue := by
  constructor
  · intro found
    rcases found with ⟨x, hx, hQ⟩
    rcases (h.mem_iff x).mp hx with ⟨l, hl, rfl⟩
    exact ⟨l, hl, hQ⟩
  · intro found
    rcases found with ⟨l, hl, hQ⟩
    exact ⟨l.toValue, h.toValue_mem_iff.mpr hl, hQ⟩

theorem IsLocationSet.forall_mem_iff (h : v.IsLocationSet P) : (∀ x ∈ v, Q x) ↔ ∀ l, P l → Q l.toValue := by
  constructor
  · intro each l hl
    exact each _ (h.toValue_mem_iff.mpr hl)
  · intro each x hx
    rcases (h.mem_iff x).mp hx with ⟨l, hl, rfl⟩
    exact each l hl

/-! ## Filters and unions -/

/-- The members of a set on which a test succeeds. -/
theorem IsSetOf.filter (h : v.IsSetOf Q) (plain : ∀ x, Q x → Plain x) (p : Value → Bool) :
    (setOf (v.itemList.filter p)).IsSetOf fun x => Q x ∧ p x = true := by
  refine (isSetOf_setOf fun x hx => ?_).congr fun x => ?_
  · exact plain x ((h.mem_itemList x).mp (List.mem_of_mem_filter hx))
  · rw [List.mem_filter, h.mem_itemList]

/-- The union of a set of sets is the set of the members of its members. -/
theorem IsSetOf.exists_flatten (h : v.IsSetOf Q) (sets : ∀ x, Q x → ∃ ys, x = .set ys)
    (plain : ∀ x, Q x → Plain x) :
    ∃ w, Container.flatten v = .ok w ∧ w.IsSetOf fun x => ∃ y ∈ v, x ∈ y := by
  have parts : v.itemList.mapM Value.items = pure (v.itemList.map itemList) := by
    refine mapM_eq_pure_map fun x hx => ?_
    obtain ⟨ys, rfl⟩ := sets x ((h.mem_itemList x).mp hx)
    rfl
  have plain' : ∀ x ∈ (v.itemList.map itemList).flatten, Plain x := by
    intro x hx
    rw [← List.flatMap_def] at hx
    obtain ⟨y, hy, hxy⟩ := List.mem_flatMap.mp hx
    exact (plain y ((h.mem_itemList y).mp hy)).items hxy
  refine ⟨.setOf (v.itemList.map itemList).flatten, ?_, (isSetOf_setOf plain').congr fun x => ?_⟩
  · rw [Container.flatten, h.items, Outcome.ok_bind, parts, Outcome.pure_eq_ok, Outcome.ok_bind,
      h.eq_set]
    rfl
  · rw [← List.flatMap_def, List.mem_flatMap]
    rfl

/-! ## Locations of a patch -/

/-- The locations of the patch are those with a property. -/
def IsPatch (v : Value) (P : Location → Prop) : Prop :=
  ∃ w, Patch.locations v = .ok w ∧ w.IsLocationSet P

theorem locations_of_empty (h : v.IsSetOf Q) (empty : v.itemList = []) :
    Patch.locations v = .ok (.setOf []) := by
  simp [Patch.locations, h.size, empty]

theorem locations_of_hasCells (h : v.IsSetOf Q) {x : Value} (hx : x ∈ v) {cells : Bool}
    (hcells : Patch.hasCells v = .ok cells) :
    Patch.locations v = if cells then do
        return .setOf (← v.itemList.mapM fun x => return (← x.parts).2)
      else .ok v := by
  have some : v.itemList.length ≠ 0 := (List.length_pos_of_mem hx).ne'
  cases cells <;> simp [Patch.locations, h.size, h.items, some, hcells]

theorem IsLocationSet.locations (h : v.IsLocationSet P) : Patch.locations v = .ok v := by
  cases hitems : v.itemList with
  | nil =>
      rw [locations_of_empty h hitems, IsSetOf.eq_set h, hitems, setOf_nil]
  | cons x xs =>
      have hx : x ∈ v.itemList := by rw [hitems]; exact List.mem_cons_self
      obtain ⟨l, -, rfl⟩ := (h.mem_itemList x).mp hx
      have cells : Patch.hasCells v = .ok false := by
        rw [Patch.hasCells, Value.head, IsSetOf.items h, hitems]
        rfl
      rw [locations_of_hasCells h hx cells]
      rfl

theorem IsLocationSet.isPatch (h : v.IsLocationSet P) : v.IsPatch P :=
  ⟨v, h.locations, h⟩

/-- A set of locations with one more location. -/
theorem IsLocationSet.exists_insert (h : v.IsLocationSet P) (l : Location) :
    ∃ w, Container.insert l.toValue v = .ok w ∧ w.IsLocationSet fun k => P k ∨ k = l := by
  have mem : ∀ x, x ∈ v.itemList ++ [l.toValue] ↔ ∃ k, (P k ∨ k = l) ∧ x = k.toValue := by
    intro x
    rw [List.mem_append, IsSetOf.mem_itemList h, List.mem_singleton]
    simp only [or_and_right, exists_or, exists_eq_left]
  refine ⟨.setOf (v.itemList ++ [l.toValue]), ?_, (isSetOf_setOf fun x hx => ?_).congr mem⟩
  · rw [IsSetOf.eq_set h]
    rfl
  · obtain ⟨k, -, rfl⟩ := (mem x).mp hx
    exact k.plain_toValue

/-- The location that a value is the pair of. -/
def toLocation (v : Value) : Location :=
  ((v.itemList.getD 0 .null).atomKey, (v.itemList.getD 1 .null).atomKey)

@[simp] theorem toLocation_toValue (l : Location) : l.toValue.toLocation = l :=
  rfl

/-- The location of a cell, as a value. -/
def placeOf (cell : Value) : Value :=
  cell.itemList.getD 1 .null

@[simp] theorem placeOf_cell (c : Int) (l : Location) :
    placeOf (.pair (.int c) l.toValue) = l.toValue :=
  rfl

theorem IsCellSet.locations (h : v.IsCellSet R) :
    Patch.locations v = .ok (.setOf (v.itemList.map placeOf)) := by
  cases hitems : v.itemList with
  | nil => exact locations_of_empty h hitems
  | cons x xs =>
      have hx : x ∈ v.itemList := by rw [hitems]; exact List.mem_cons_self
      obtain ⟨c, l, -, rfl⟩ := (h.mem_itemList x).mp hx
      have cells : Patch.hasCells v = .ok true := by
        rw [Patch.hasCells, Value.head, IsSetOf.items h, hitems]
        rfl
      have places : (v.itemList.mapM fun x => return (← x.parts).2) =
          (pure (v.itemList.map placeOf) : Outcome (List Value)) := by
        refine mapM_eq_pure_map fun x hx => ?_
        obtain ⟨c, l, -, rfl⟩ := (h.mem_itemList x).mp hx
        rfl
      rw [locations_of_hasCells h hx cells, places, ← hitems]
      rfl

theorem IsCellSet.isPatch (h : v.IsCellSet R) : v.IsPatch fun l => ∃ c, R c l := by
  have plain : ∀ y ∈ v.itemList.map placeOf, Plain y := by
    intro y hy
    obtain ⟨x, hx, rfl⟩ := List.mem_map.mp hy
    obtain ⟨c, l, -, rfl⟩ := (h.mem_itemList x).mp hx
    exact l.plain_toValue
  refine ⟨_, h.locations, (isSetOf_setOf plain).congr fun y => ?_⟩
  constructor
  · intro hy
    obtain ⟨x, hx, rfl⟩ := List.mem_map.mp hy
    obtain ⟨c, l, hR, rfl⟩ := (h.mem_itemList x).mp hx
    exact ⟨l, ⟨c, hR⟩, rfl⟩
  · rintro ⟨l, ⟨c, hR⟩, rfl⟩
    exact List.mem_map.mpr ⟨_, (h.mem_itemList _).mpr ⟨c, l, hR, rfl⟩, rfl⟩

theorem IsPatch.congr {P' : Location → Prop} (h : v.IsPatch P) (hP : ∀ l, P l ↔ P' l) :
    v.IsPatch P' := by
  obtain ⟨w, hw, hset⟩ := h
  exact ⟨w, hw, hset.congr fun x => exists_congr fun l => and_congr_left' (hP l)⟩

theorem IsPatch.exists_locationItems (h : v.IsPatch P) :
    ∃ items, Patch.locationItems v = .ok items ∧ ∀ x, x ∈ items ↔ ∃ l, P l ∧ x = l.toValue := by
  obtain ⟨w, hw, hset⟩ := h
  refine ⟨w.itemList, ?_, hset.mem_itemList⟩
  rw [Patch.locationItems, hw, Outcome.ok_bind, IsSetOf.items hset]

/-! ## Best keys -/

theorem eq_of_number? {a : Value} {m : Int} (h : a.number? = some m) :
    a = .int m ∨ ∃ b, a = .bool b ∧ m = if b then 1 else 0 := by
  cases a with
  | int n => exact .inl (congrArg _ (Option.some.inj h))
  | bool b => exact .inr ⟨b, rfl, (Option.some.inj h).symm⟩
  | _ => cases h

theorem lt_of_number? {a b : Value} {m n : Int} (ha : a.number? = some m) (hb : b.number? = some n) :
    lt a b = .ok (decide (m < n)) := by
  obtain rfl | ⟨p, rfl, rfl⟩ := eq_of_number? ha <;> obtain rfl | ⟨q, rfl, rfl⟩ := eq_of_number? hb <;> rfl

/-- A rule that compares numbers: `beats` is a strict order, and of two numbers that do not beat a third
the better one does not either. -/
structure NumericRule (rule : Rule) (beats : Int → Int → Prop) [DecidableRel beats] : Prop where
  apply : ∀ {a b m n}, number? a = some m → number? b = some n → rule a b = .ok (decide (beats m n))
  asymm : ∀ {m n}, beats m n → ¬ beats n m
  weaken : ∀ {k m n}, ¬ beats m n → ¬ beats k m → ¬ beats k n
  connected : ∀ {m n}, ¬ beats m n → ¬ beats n m → m = n

theorem numericRule_least : NumericRule least (· < ·) where
  apply ha hb := lt_of_number? ha hb
  asymm := by omega
  weaken := by omega
  connected := by omega

theorem numericRule_greatest : NumericRule greatest (· > ·) where
  apply ha hb := lt_of_number? hb ha
  asymm := by omega
  weaken := by omega
  connected := by omega

section BestKeys

variable {rule : Rule} {beats : Int → Int → Prop} [DecidableRel beats] {α : Type} {f : α → Int}
  {r : α → Value} {m : Type → Type} [Monad m] [LawfulMonad m] [MonadLiftT Outcome m] [LawfulMonadLiftT Outcome m]
  {key : α → m Value}

/-- The best of a list and a first item is one of them, and no key of theirs beats its key. -/
theorem NumericRule.bestFrom (numeric : NumericRule rule beats) {xs : List α}
    (hkey : ∀ x ∈ xs, key x = pure (r x)) (best : α) (number : ∀ x ∈ best :: xs, (r x).number? = some (f x)) :
    ∃ best' ∈ best :: xs, Value.bestFrom rule key best (r best) xs = pure (best', r best') ∧
      ∀ x ∈ best :: xs, ¬ beats (f x) (f best') := by
  induction xs generalizing best with
  | nil =>
      refine ⟨best, List.mem_cons_self, rfl, ?_⟩
      intro x hx h
      rw [List.mem_singleton.mp hx] at h
      exact numeric.asymm h h
  | cons y ys ih =>
      have hys : ∀ x ∈ ys, key x = pure (r x) := fun x hx => hkey x (List.mem_cons_of_mem y hx)
      obtain ⟨hbest, hy, numbers⟩ : (r best).number? = some (f best) ∧ (r y).number? = some (f y) ∧
          ∀ x ∈ ys, (r x).number? = some (f x) := by
        simpa only [List.forall_mem_cons] using number
      have step : Value.bestFrom rule key best (r best) (y :: ys) =
          if beats (f y) (f best) then Value.bestFrom rule key y (r y) ys
          else Value.bestFrom rule key best (r best) ys := by
        rw [Value.bestFrom, hkey y List.mem_cons_self, pure_bind, numeric.apply hy hbest, ← Outcome.pure_eq_ok,
          liftM, monadLift_pure, pure_bind]
        simp only [decide_eq_true_eq]
      rw [step]
      by_cases h : beats (f y) (f best)
      · obtain ⟨best', mem, heq, least⟩ := ih hys y (List.forall_mem_cons.mpr ⟨hy, numbers⟩)
        refine ⟨best', List.mem_cons_of_mem best mem, by rw [if_pos h, heq], ?_⟩
        intro z hz
        rcases List.mem_cons.mp hz with rfl | hz
        · -- The first best was beaten by `y`, which does not beat the final best.
          exact numeric.weaken (least y List.mem_cons_self) (numeric.asymm h)
        · exact least z hz
      · obtain ⟨best', mem, heq, least⟩ := ih hys best (List.forall_mem_cons.mpr ⟨hbest, numbers⟩)
        refine ⟨best', ?_, by rw [if_neg h, heq], ?_⟩
        · rcases List.mem_cons.mp mem with rfl | mem
          · exact List.mem_cons_self
          · exact List.mem_cons_of_mem best (List.mem_cons_of_mem y mem)
        · intro z hz
          rcases List.mem_cons.mp hz with rfl | hz
          · exact least z List.mem_cons_self
          · rcases List.mem_cons.mp hz with rfl | hz
            · exact numeric.weaken (least best List.mem_cons_self) h
            · exact least z (List.mem_cons_of_mem best hz)

/-- The best item of a list that is not empty. -/
theorem NumericRule.exists_best? (numeric : NumericRule rule beats) {xs : List α}
    (hkey : ∀ x ∈ xs, key x = pure (r x)) (number : ∀ x ∈ xs, (r x).number? = some (f x)) (some : xs ≠ []) :
    ∃ best ∈ xs, Value.best? rule key xs = pure (.some (best, r best)) ∧
      ∀ x ∈ xs, ¬ beats (f x) (f best) := by
  cases xs with
  | nil => exact absurd rfl some
  | cons x xs =>
      obtain ⟨best, mem, heq, least⟩ :=
        numeric.bestFrom (fun y hy => hkey y (List.mem_cons_of_mem x hy)) x number
      refine ⟨best, mem, ?_, least⟩
      rw [Value.best?, hkey x List.mem_cons_self, pure_bind, heq, pure_bind]

/-- The best key of a list that is not empty is one of its keys, and none of them beats it. -/
theorem NumericRule.bestKey (numeric : NumericRule rule beats) {key : α → Outcome Value} {xs : List α}
    (hkey : ∀ x ∈ xs, key x = .ok (.int (f x))) (some : xs ≠ []) :
    ∃ m, Value.bestKey rule key xs = .ok (.int m) ∧ (∃ x ∈ xs, f x = m) ∧
      ∀ x ∈ xs, ¬ beats (f x) m := by
  obtain ⟨best, mem, heq, least⟩ := numeric.exists_best? hkey (fun _ _ => rfl) some
  refine ⟨f best, ?_, ⟨best, mem, rfl⟩, least⟩
  rw [Value.bestKey, Value.best, heq]
  rfl

end BestKeys

/-! ## Outermost rows and columns -/

/-- The best of the rows, or of the columns, of a patch. -/
theorem IsPatch.bestCoordinate {rule : Rule} {beats : Int → Int → Prop} [DecidableRel beats]
    (numeric : NumericRule rule beats) (key : Value → Outcome Value) (f : Location → Int)
    (hkey : ∀ l : Location, key l.toValue = .ok (.int (f l))) (h : v.IsPatch P) (some : ∃ l, P l) :
    ∃ m, (do Value.bestKey rule key (← Patch.locationItems v)) = .ok (.int m) ∧
      (∃ l, P l ∧ f l = m) ∧ ∀ l, P l → ¬ beats (f l) m := by
  obtain ⟨items, hitems, hmem⟩ := h.exists_locationItems
  obtain ⟨l₀, hl₀⟩ := some
  have ne : items ≠ [] := List.ne_nil_of_mem ((hmem _).mpr ⟨l₀, hl₀, rfl⟩)
  -- The number of an item is that of the location it is the value of.
  have hkeys : ∀ x ∈ items, key x = .ok (.int ((key x).toOption.getD .null).atomKey) := by
    intro x hx
    obtain ⟨l, -, rfl⟩ := (hmem x).mp hx
    rw [hkey]
    rfl
  obtain ⟨m, heq, ⟨x, hx, hm⟩, least⟩ := numeric.bestKey hkeys ne
  refine ⟨m, by rw [hitems, Outcome.ok_bind, heq], ?_, fun l hl => ?_⟩
  · obtain ⟨l, hl, rfl⟩ := (hmem x).mp hx
    rw [hkey] at hm
    exact ⟨l, hl, hm⟩
  · have := least _ ((hmem _).mpr ⟨l, hl, rfl⟩)
    rw [hkey] at this
    exact this

theorem IsPatch.topRow (h : v.IsPatch P) (some : ∃ l, P l) :
    ∃ m, Patch.topRow v = .ok (.int m) ∧ (∃ l, P l ∧ l.1 = m) ∧ ∀ l, P l → m ≤ l.1 := by
  obtain ⟨m, heq, hm, extreme⟩ := h.bestCoordinate numericRule_least
    (fun v => return (← v.parts).1) Prod.fst (fun _ => rfl) some
  exact ⟨m, heq, hm, fun l hl => not_lt.mp (extreme l hl)⟩

theorem IsPatch.bottomRow (h : v.IsPatch P) (some : ∃ l, P l) :
    ∃ m, Patch.bottomRow v = .ok (.int m) ∧ (∃ l, P l ∧ l.1 = m) ∧ ∀ l, P l → l.1 ≤ m := by
  obtain ⟨m, heq, hm, extreme⟩ := h.bestCoordinate numericRule_greatest
    (fun v => return (← v.parts).1) Prod.fst (fun _ => rfl) some
  exact ⟨m, heq, hm, fun l hl => not_lt.mp (extreme l hl)⟩

theorem IsPatch.leftColumn (h : v.IsPatch P) (some : ∃ l, P l) :
    ∃ m, Patch.leftColumn v = .ok (.int m) ∧ (∃ l, P l ∧ l.2 = m) ∧ ∀ l, P l → m ≤ l.2 := by
  obtain ⟨m, heq, hm, extreme⟩ := h.bestCoordinate numericRule_least
    (fun v => return (← v.parts).2) Prod.snd (fun _ => rfl) some
  exact ⟨m, heq, hm, fun l hl => not_lt.mp (extreme l hl)⟩

theorem IsPatch.rightColumn (h : v.IsPatch P) (some : ∃ l, P l) :
    ∃ m, Patch.rightColumn v = .ok (.int m) ∧ (∃ l, P l ∧ l.2 = m) ∧ ∀ l, P l → l.2 ≤ m := by
  obtain ⟨m, heq, hm, extreme⟩ := h.bestCoordinate numericRule_greatest
    (fun v => return (← v.parts).2) Prod.snd (fun _ => rfl) some
  exact ⟨m, heq, hm, fun l hl => not_lt.mp (extreme l hl)⟩

end Value

end GridPuzzle
