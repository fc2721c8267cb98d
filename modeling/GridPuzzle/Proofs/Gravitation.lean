import GridPuzzle.Proofs.ShiftedPatch

/-!
# Gravitation

`Patch.gravitate` moves a patch step by step, along a row or a column, until it is next to another one, and
gives up after 42 steps. A step changes the distance between two locations by one at most. So a patch that
shares no location with its destination, and is not next to it, shares none with it after one more step
(`clear_of_step`), and none on the whole way (`clear_on_way`).

* `Touching` says that the least distance between some locations and others is one.
* `FirstWithin` says where a bounded search ends: at the first number with a property, or at the limit. The
  number of steps is the end of such a search (`IsFigure.exists_stepsUntilAdjacent`).
* If a location of the patch and one of its destination lie in line with the steps, and not too far from each
  other, the search ends because the patches touch (`touchesAfter_of_aligned`).
-/

namespace GridPuzzle

variable {P Q : Location → Prop} {d : Location}

/-! ## Distances -/

/-- The number of steps from one location to another, along rows and columns. -/
def Location.distance (k l : Location) : Nat :=
  (k.1 - l.1).natAbs + (k.2 - l.2).natAbs

/-- The vector is one step along a row or a column. -/
def Location.IsUnit (d : Location) : Prop :=
  d.1.natAbs + d.2.natAbs = 1

/-- The number of steps along rows and columns that a vector takes. -/
def Location.stepCount (vector : Location) : Nat :=
  vector.1.natAbs + vector.2.natAbs

theorem Location.distance_shift_self (k d : Location) : k.distance (d.shift k) = d.stepCount := by
  simp only [distance, shift, stepCount]
  omega

theorem Location.distance_shift (k : Location) (unit : d.IsUnit) : k.distance (d.shift k) = 1 :=
  (k.distance_shift_self d).trans unit

/-- The distances between locations with one property and locations with another. -/
def Distances (P Q : Location → Prop) : Set Nat :=
  {n | ∃ k l, P k ∧ Q l ∧ k.distance l = n}

/-- The least distance between locations with the two properties is one. -/
def Touching (P Q : Location → Prop) : Prop :=
  IsLeast (Distances P Q) 1

/-- No location has both properties. -/
def Clear (P Q : Location → Prop) : Prop :=
  ∀ l, P l → ¬ Q l

theorem touching_of_mem (clear : Clear P Q) (h : 1 ∈ Distances P Q) : Touching P Q := by
  refine ⟨h, fun n hn => ?_⟩
  obtain ⟨k, l, hk, hl, rfl⟩ := hn
  by_contra below
  have rows : k.1 = l.1 := by
    simp only [Location.distance] at below
    omega
  have columns : k.2 = l.2 := by
    simp only [Location.distance] at below
    omega
  rw [← Prod.ext rows columns] at hl
  exact clear k hk hl

/-- Locations that are clear of others, and not next to them, are clear of them one step further. -/
theorem clear_of_step (unit : d.IsUnit) (clear : Clear P Q) (far : ¬ Touching P Q) :
    Clear (fun l => ∃ k, P k ∧ d.shift k = l) Q := by
  intro l hl hQ
  obtain ⟨k, hk, rfl⟩ := hl
  exact far (touching_of_mem clear ⟨k, d.shift k, hk, hQ, Location.distance_shift k unit⟩)

/-! ## Bounded search -/

/-- A search from zero for a number with a property ends at `n`: there for the first time the property holds,
or the limit is reached. -/
structure FirstWithin (limit : Nat) (found : Nat → Prop) (n : Nat) : Prop where
  le : n ≤ limit
  before : ∀ m < n, ¬ found m
  stops : n < limit → found n

variable {limit n m : Nat} {found : Nat → Prop}

/-- A search ends at one number. -/
theorem FirstWithin.unique (h : FirstWithin limit found n) (h' : FirstWithin limit found m) : n = m := by
  rcases Nat.lt_trichotomy n m with hlt | heq | hgt
  · exact absurd (h.stops (Nat.lt_of_lt_of_le hlt h'.le)) (h'.before n hlt)
  · exact heq
  · exact absurd (h'.stops (Nat.lt_of_lt_of_le hgt h.le)) (h.before m hgt)

theorem FirstWithin.zero (h : found 0) : FirstWithin limit found 0 :=
  ⟨Nat.zero_le _, fun _ hm => absurd hm (Nat.not_lt_zero _), fun _ => h⟩

theorem FirstWithin.limit_zero : FirstWithin 0 found 0 :=
  ⟨Nat.le_refl 0, fun _ hm => absurd hm (Nat.not_lt_zero _), fun hlt => absurd hlt (Nat.lt_irrefl 0)⟩

theorem FirstWithin.succ (h : ¬ found 0) (rest : FirstWithin limit (fun m => found (m + 1)) n) :
    FirstWithin (limit + 1) found (n + 1) := by
  refine ⟨Nat.succ_le_succ rest.le, fun m hm => ?_, fun hlt => rest.stops (Nat.lt_of_succ_lt_succ hlt)⟩
  cases m with
  | zero => exact h
  | succ m => exact rest.before m (Nat.lt_of_succ_lt_succ hm)

namespace Value

variable {v w : Value} {S T : Spot → Prop} {box box' : Box}

/-! ## Distances of patches -/

theorem steps_toValue (k l : Location) :
    Patch.steps (.int k.1) (.int k.2) l.toValue = .ok (k.distance l : Int) :=
  rfl

/-- The distance of two patches is the least distance between their locations. -/
theorem IsPatch.exists_distance (h : v.IsPatch P) (h' : w.IsPatch Q) (some : ∃ l, P l) (some' : ∃ l, Q l) :
    ∃ n : Nat, Patch.distance v w = .ok n ∧ IsLeast (Distances P Q) n := by
  obtain ⟨ks, -, memP, hitems⟩ := h.exists_locations
  obtain ⟨ls, -, memQ, hitems'⟩ := h'.exists_locations
  have mem : ∀ x : Int, x ∈ (ks.map fun k => ls.map fun l => (k.distance l : Int)).flatten ↔
      ∃ n ∈ Distances P Q, (n : Int) = x := by
    intro x
    rw [← List.flatMap_def, List.mem_flatMap]
    constructor
    · intro hx
      obtain ⟨k, hk, hx⟩ := hx
      obtain ⟨l, hl, rfl⟩ := List.mem_map.mp hx
      exact ⟨_, ⟨k, l, (memP k).mp hk, (memQ l).mp hl, rfl⟩, rfl⟩
    · intro hx
      obtain ⟨_, ⟨k, l, hk, hl, rfl⟩, rfl⟩ := hx
      exact ⟨k, (memP k).mpr hk, List.mem_map.mpr ⟨l, (memQ l).mpr hl, rfl⟩⟩
  obtain ⟨k, hk⟩ := some
  obtain ⟨l, hl⟩ := some'
  have start := (mem _).mpr ⟨_, ⟨k, l, hk, hl, rfl⟩, rfl⟩
  have lengths : Patch.distance v w = Outcome.ofOption .noChoice
      (ks.map fun k => ls.map fun l => (k.distance l : Int)).flatten.min? := by
    simp only [Patch.distance, hitems, Outcome.ok_bind]
    rw [mapM_locations (g := fun k => ls.map fun l => (k.distance l : Int)), Outcome.ok_bind]
    intro k _
    simp only [parts_toValue, Outcome.ok_bind, hitems']
    exact mapM_locations fun l _ => steps_toValue k l
  rw [lengths]
  cases hmin : (ks.map fun k => ls.map fun l => (k.distance l : Int)).flatten.min? with
  | none =>
      rw [List.min?_eq_none_iff.mp hmin] at start
      exact absurd start List.not_mem_nil
  | some x =>
      obtain ⟨hx, minimal⟩ := List.min?_eq_some_iff.mp hmin
      obtain ⟨n, hn, rfl⟩ := (mem x).mp hx
      exact ⟨n, rfl, hn, fun m hm => Int.ofNat_le.mp (minimal _ ((mem _).mpr ⟨m, hm, rfl⟩))⟩

theorem IsPatch.exists_isAdjacent (h : v.IsPatch P) (h' : w.IsPatch Q) (some : ∃ l, P l)
    (some' : ∃ l, Q l) : ∃ next, Patch.isAdjacent v w = .ok next ∧ (next = true ↔ Touching P Q) := by
  obtain ⟨n, heq, least⟩ := h.exists_distance h' some some'
  refine ⟨_, by rw [Patch.isAdjacent, heq, Outcome.ok_bind, Outcome.pure_eq_ok], ?_⟩
  rw [beq_iff_eq]
  constructor
  · intro hn
    obtain rfl : n = 1 := by omega
    exact least
  · intro touching
    rw [least.unique touching]
    rfl

/-! ## Common rows and columns -/

/-- Whether a coordinate occurs in both of two lists of locations. -/
theorem any_contains_iff (f : Location → Int) (ks ls : List Location) :
    (ks.map fun k => Value.int (f k)).any ((ls.map fun l => Value.int (f l)).contains ·) = true ↔
      ∃ k ∈ ks, ∃ l ∈ ls, f k = f l := by
  simp only [List.any_map, List.any_eq_true, Function.comp_apply, List.contains_iff_exists_mem_beq,
    List.mem_map, exists_exists_and_eq_and, int_beq_int, decide_eq_true_iff]

theorem IsPatch.exists_sharesColumn (h : v.IsPatch P) (h' : w.IsPatch Q) :
    ∃ shared, Patch.sharesColumn v w = .ok shared ∧ (shared = true ↔ ∃ k l, P k ∧ Q l ∧ k.2 = l.2) := by
  obtain ⟨ks, -, memP, hitems⟩ := h.exists_locations
  obtain ⟨ls, -, memQ, hitems'⟩ := h'.exists_locations
  have columns (ls : List Location) : ((ls.map Location.toValue).mapM fun v => return (← v.parts).2) =
      (.ok (ls.map fun l => .int l.2) : Outcome (List Value)) := mapM_locations fun _ _ => rfl
  refine ⟨_, by rw [Patch.sharesColumn, hitems, Outcome.ok_bind, columns, Outcome.ok_bind, hitems',
    Outcome.ok_bind, columns, Outcome.ok_bind, Outcome.pure_eq_ok], ?_⟩
  simp only [any_contains_iff Prod.snd, memP, memQ, exists_and_left]

theorem IsPatch.exists_sharesRow (h : v.IsPatch P) (h' : w.IsPatch Q) :
    ∃ shared, Patch.sharesRow v w = .ok shared ∧ (shared = true ↔ ∃ k l, P k ∧ Q l ∧ k.1 = l.1) := by
  obtain ⟨ks, -, memP, hitems⟩ := h.exists_locations
  obtain ⟨ls, -, memQ, hitems'⟩ := h'.exists_locations
  have rows (ls : List Location) : ((ls.map Location.toValue).mapM fun v => return (← v.parts).1) =
      (.ok (ls.map fun l => .int l.1) : Outcome (List Value)) := mapM_locations fun _ _ => rfl
  refine ⟨_, by rw [Patch.sharesRow, hitems, Outcome.ok_bind, rows, Outcome.ok_bind, hitems',
    Outcome.ok_bind, rows, Outcome.ok_bind, Outcome.pure_eq_ok], ?_⟩
  simp only [any_contains_iff Prod.fst, memP, memQ, exists_and_left]

/-! ## The way of a patch -/

/-- After `m` steps the patch of some spots is next to a set of locations. -/
def TouchesAfter (d : Location) (S : Spot → Prop) (Q : Location → Prop) (m : Nat) : Prop :=
  Touching (Places (Moved (d.times m).shift S)) Q

theorem moved_times_zero : Moved (d.times 0).shift S = S := by
  rw [Location.shift_times_zero]
  exact funext fun _ => propext moved_id

theorem moved_times_succ (m : Nat) :
    Moved (d.times m).shift (Moved d.shift S) = Moved (d.times (m + 1)).shift S := by
  rw [moved_comp, Location.shift_times_succ]

/-- The number of steps is the end of a search for the first one after which the patches touch. -/
theorem IsFigure.exists_stepsUntilAdjacent (h : v.IsFigure S) (some : ∃ s, S s) (h' : w.IsPatch Q)
    (some' : ∃ l, Q l) (d : Location) (limit : Nat) :
    ∃ n, Patch.stepsUntilAdjacent w d.toValue limit v = .ok n ∧
      FirstWithin limit (TouchesAfter d S Q) n := by
  -- The search continues from the moved patch, so the induction is over all patches.
  induction limit generalizing v S with
  | zero =>
      obtain ⟨s, hs⟩ := some
      obtain ⟨next, heq, -⟩ := h.isPatch.exists_isAdjacent h' ⟨_, s, hs, rfl⟩ some'
      refine ⟨0, ?_, .limit_zero⟩
      rw [Patch.stepsUntilAdjacent, heq, Outcome.ok_bind, Outcome.pure_eq_ok]
  | succ limit ih =>
      obtain ⟨s, hs⟩ := some
      obtain ⟨next, heq, hnext⟩ := h.isPatch.exists_isAdjacent h' ⟨_, s, hs, rfl⟩ some'
      have start : TouchesAfter d S Q 0 ↔ next = true := by rw [TouchesAfter, moved_times_zero, hnext]
      cases next with
      | true =>
          refine ⟨0, ?_, .zero (start.mpr rfl)⟩
          rw [Patch.stepsUntilAdjacent, heq, Outcome.ok_bind, if_pos rfl, Outcome.pure_eq_ok]
      | false =>
          obtain ⟨u, hu, figure⟩ := h.exists_shift d
          obtain ⟨n, hn, first⟩ := ih figure ⟨_, s, hs, rfl⟩
          refine ⟨n + 1, ?_, .succ (fun touches => Bool.false_ne_true (start.mp touches)) ?_⟩
          · rw [Patch.stepsUntilAdjacent, heq, Outcome.ok_bind, if_neg Bool.false_ne_true, hu,
              Outcome.ok_bind, hn, Outcome.ok_bind, Outcome.pure_eq_ok]
          · simp only [TouchesAfter, ← moved_times_succ]
            exact first

section

variable (first : FirstWithin limit (TouchesAfter d S Q) n) (unit : d.IsUnit) (clear : Clear (Places S) Q)
include first unit clear

/-- A patch is clear of its destination on the whole way. -/
theorem clear_on_way {m : Nat} (hm : m ≤ n) : Clear (Places (Moved (d.times m).shift S)) Q := by
  induction m with
  | zero =>
      rw [moved_times_zero]
      exact clear
  | succ m ih =>
      have step := clear_of_step unit (ih (Nat.le_of_succ_le hm)) (first.before m hm)
      intro l hl
      obtain ⟨k, hk, rfl⟩ := places_moved.mp hl
      refine step _ ⟨(d.times m).shift k, places_moved.mpr ⟨k, hk, rfl⟩, ?_⟩
      exact d.shift_shift_times m k

/-- If `j` steps take a location of the patch onto its destination, the way ends before that, next to the
destination. -/
theorem touchesAfter_of_aligned {k : Location} (hk : Places S k) {j : Nat} (positive : 0 < j)
    (reached : j ≤ limit + 1) (onto : Q ((d.times j).shift k)) : TouchesAfter d S Q n := by
  obtain ⟨m, rfl⟩ := Nat.exists_eq_add_one.mpr positive
  have near : 1 ∈ Distances (Places (Moved (d.times m).shift S)) Q := by
    refine ⟨(d.times m).shift k, _, places_moved.mpr ⟨k, hk, rfl⟩, onto, ?_⟩
    rw [← d.shift_shift_times, Location.distance_shift _ unit]
  rcases Nat.lt_or_ge m n with hlt | hge
  · exact absurd (touching_of_mem (clear_on_way first unit clear hlt.le) near) (first.before m hlt)
  · rcases Nat.lt_or_ge n limit with hlt | hlimit
    · exact first.stops hlt
    · obtain rfl : m = n := by have := first.le; omega
      exact touching_of_mem (clear_on_way first unit clear (Nat.le_refl _)) near

end

/-! ## The direction of the way -/

/-- The step from the first number towards the second. -/
def toward (a b : Int) : Int :=
  if a < b then 1 else -1

/-- The step from one middle towards another: along the column if the patches share one, else along the
row. -/
def pull (sharedColumn : Bool) (c c' : Location) : Location :=
  if sharedColumn then (toward c.1 c'.1, 0) else (0, toward c.2 c'.2)

theorem isUnit_pull (sharedColumn : Bool) (c c' : Location) : (pull sharedColumn c c').IsUnit := by
  have unit (a b : Int) : (toward a b).natAbs = 1 := by
    unfold toward
    split <;> rfl
  cases sharedColumn with
  | false => simp [pull, Location.IsUnit, unit]
  | true => simp [pull, Location.IsUnit, unit]

/-- The numbers from `first` to `last` lie before or after those from `first'` to `last'`, and all of them
are at most 43 apart. -/
def Facing (first last first' last' : Int) : Prop :=
  last < first' ∧ last' - first ≤ 43 ∨ last' < first ∧ last - first' ≤ 43

/-- Between stretches of numbers that face each other, steps towards the middle of the other one lead from
every number to every number. -/
theorem exists_steps_of_facing {first last first' last' x y : Int} (facing : Facing first last first' last')
    (hx : first ≤ x ∧ x ≤ last) (hy : first' ≤ y ∧ y ≤ last') :
    ∃ j : Nat, 0 < j ∧ j ≤ 43 ∧ x + toward (middle first last) (middle first' last') * j = y := by
  have near := middle_mem (Int.le_trans hx.1 hx.2)
  have far := middle_mem (Int.le_trans hy.1 hy.2)
  rcases facing with ⟨before, close⟩ | ⟨after, close⟩
  · refine ⟨(y - x).toNat, by omega, by omega, ?_⟩
    rw [toward, if_pos (by omega)]
    omega
  · refine ⟨(x - y).toNat, by omega, by omega, ?_⟩
    rw [toward, if_neg (by omega)]
    omega

section

variable (hbox : Bounds P box) (hbox' : Bounds Q box') {k l : Location} (hk : P k) (hl : Q l)
include hbox hbox' hk hl

theorem exists_steps_along_column (same : k.2 = l.2)
    (facing : Facing box.top box.bottom box'.top box'.bottom) :
    ∃ j : Nat, 0 < j ∧ j ≤ 43 ∧ ((pull true box.center box'.center).times j).shift k = l := by
  obtain ⟨j, positive, reached, onto⟩ := exists_steps_of_facing facing (hbox.row_mem hk) (hbox'.row_mem hl)
  exact ⟨j, positive, reached, Prod.ext onto (by simp [Location.shift, Location.times, pull, same])⟩

theorem exists_steps_along_row (same : k.1 = l.1)
    (facing : Facing box.left box.right box'.left box'.right) :
    ∃ j : Nat, 0 < j ∧ j ≤ 43 ∧ ((pull false box.center box'.center).times j).shift k = l := by
  obtain ⟨j, positive, reached, onto⟩ :=
    exists_steps_of_facing facing (hbox.column_mem hk) (hbox'.column_mem hl)
  exact ⟨j, positive, reached, Prod.ext (by simp [Location.shift, Location.times, pull, same]) onto⟩

end

/-- The vector of gravitation is that of the steps of a search. -/
theorem IsFigure.exists_gravitate (h : v.IsFigure S) (h' : w.IsFigure T) (hbox : Bounds (Places S) box)
    (hbox' : Bounds (Places T) box') :
    ∃ shared n, Patch.sharesColumn v w = .ok shared ∧
      Patch.gravitate v w = .ok ((pull shared box.center box'.center).times n).toValue ∧
      FirstWithin 42 (TouchesAfter (pull shared box.center box'.center) S (Places T)) n := by
  obtain ⟨shared, hshared, -⟩ := h.isPatch.exists_sharesColumn h'.isPatch
  obtain ⟨_, s, hs, -⟩ := hbox.exists_location
  obtain ⟨n, hn, first⟩ := h.exists_stepsUntilAdjacent ⟨s, hs⟩ h'.isPatch hbox'.exists_location
    (pull shared box.center box'.center) 42
  refine ⟨shared, n, hshared, ?_, first⟩
  rw [Patch.gravitate, h.centerLocation hbox, Outcome.ok_bind, h'.centerLocation hbox']
  simp only [Outcome.ok_bind, hshared]
  have direction : (if shared = true then (toward box.center.1 box'.center.1, (0 : Int))
      else (0, toward box.center.2 box'.center.2)) = pull shared box.center box'.center := rfl
  simp only [toward] at direction
  rw [direction]
  change (do
    let count ← Patch.stepsUntilAdjacent w (pull shared box.center box'.center).toValue 42 v
    pure _) = _
  rw [hn]
  rfl

/-- Gravitation leads no location of a patch onto its destination. -/
theorem IsFigure.exists_gravitate_clear (h : v.IsFigure S) (h' : w.IsFigure T) (some : ∃ s, S s)
    (some' : ∃ s, T s) (clear : Clear (Places S) (Places T)) :
    ∃ d : Location, Patch.gravitate v w = .ok d.toValue ∧ Clear (Places (Moved d.shift S)) (Places T) := by
  obtain ⟨box, hbox⟩ := h.exists_bounds some
  obtain ⟨box', hbox'⟩ := h'.exists_bounds some'
  obtain ⟨shared, n, -, heq, first⟩ := h.exists_gravitate h' hbox hbox'
  exact ⟨_, heq, clear_on_way first (isUnit_pull ..) clear (Nat.le_refl n)⟩

/-! ## Gravitation of patches -/

/-- The patches have no location in common. -/
def Apart (v w : Value) : Prop :=
  ∃ ls ls', Patch.locations v = .ok ls ∧ Patch.locations w = .ok ls' ∧ ∀ x ∈ ls, x ∉ ls'

theorem IsPatch.apart_iff (h : v.IsPatch P) (h' : w.IsPatch Q) : v.Apart w ↔ Clear P Q := by
  obtain ⟨ls, hls, hset⟩ := h
  obtain ⟨ls', hls', hset'⟩ := h'
  have none : (∀ x ∈ ls, x ∉ ls') ↔ Clear P Q := by
    rw [hset.forall_mem_iff]
    simp only [hset'.toValue_mem_iff, Clear]
  rw [← none]
  constructor
  · intro apart
    obtain ⟨us, us', hus, hus', none⟩ := apart
    obtain rfl : ls = us := Except.ok.inj (hls.symm.trans hus)
    obtain rfl : ls' = us' := Except.ok.inj (hls'.symm.trans hus')
    exact none
  · intro none
    exact ⟨ls, ls', hls, hls', none⟩

/-- Gravitation takes the patch next to its destination. -/
def Lands (source destination : Value) : Prop :=
  ∃ vector moved, Patch.gravitate source destination = .ok vector ∧
    Patch.shift source vector = .ok moved ∧ Patch.isAdjacent moved destination = .ok true

theorem IsFigure.lands (h : v.IsFigure S) (some : ∃ s, S s) (h' : w.IsPatch Q) (some' : ∃ l, Q l)
    (heq : Patch.gravitate v w = .ok (d.times n).toValue) (touches : TouchesAfter d S Q n) : v.Lands w := by
  obtain ⟨moved, hmoved, figure⟩ := h.exists_shift (d.times n)
  obtain ⟨s, hs⟩ := some
  obtain ⟨next, hnext, iff⟩ := figure.isPatch.exists_isAdjacent h' ⟨_, _, ⟨s, hs, rfl⟩, rfl⟩ some'
  rw [iff.mpr touches] at hnext
  exact ⟨_, moved, heq, hmoved, hnext⟩

/-- Gravitation moves a patch by at most 42 steps along a row or a column, never onto its destination. With
less than 42 steps, or if the patches face each other along a common column, or along a common row with no
common column, it takes the patch next to its destination. -/
theorem gravitation_stops_before_its_destination {s t : Value} (hs : s.IsFigure S) (ht : t.IsFigure T)
    (some : ∃ r, S r) (some' : ∃ r, T r) (apart : s.Apart t) :
    (∃ (k : Nat) (d : Location), k ≤ 42 ∧ d.1.natAbs + d.2.natAbs = 1 ∧
      Patch.gravitate s t = .ok (.location (d.1 * k) (d.2 * k)) ∧
      (∀ m : Nat, m ≤ k → ∃ u, Patch.shift s (.location (d.1 * m) (d.2 * m)) = .ok u ∧ u.Apart t) ∧
      (k < 42 → s.Lands t)) ∧
    ∃ box box' sharedColumn sharedRow, s.Spans box ∧ t.Spans box' ∧
      Patch.sharesColumn s t = .ok sharedColumn ∧ Patch.sharesRow s t = .ok sharedRow ∧
      (sharedColumn = true → Facing box.top box.bottom box'.top box'.bottom → s.Lands t) ∧
      (sharedRow = true → sharedColumn = false → Facing box.left box.right box'.left box'.right →
        s.Lands t) := by
  have clear := (hs.isPatch.apart_iff ht.isPatch).mp apart
  obtain ⟨box, hbox⟩ := hs.exists_bounds some
  obtain ⟨box', hbox'⟩ := ht.exists_bounds some'
  obtain ⟨shared, n, hshared, heq, first⟩ := hs.exists_gravitate ht hbox hbox'
  have unit := isUnit_pull shared box.center box'.center
  have lands : TouchesAfter (pull shared box.center box'.center) S (Places T) n → s.Lands t :=
    hs.lands some ht.isPatch hbox'.exists_location heq
  refine ⟨⟨n, pull shared box.center box'.center, first.le, unit, heq, fun m hm => ?_, fun below => ?_⟩, ?_⟩
  · obtain ⟨u, hu, figure⟩ := hs.exists_shift ((pull shared box.center box'.center).times m)
    exact ⟨u, hu, (figure.isPatch.apart_iff ht.isPatch).mpr (clear_on_way first unit clear hm)⟩
  · exact lands (first.stops below)
  · obtain ⟨inColumn, hinColumn, column⟩ := hs.isPatch.exists_sharesColumn ht.isPatch
    obtain rfl : shared = inColumn := Except.ok.inj (hshared.symm.trans hinColumn)
    obtain ⟨inRow, hinRow, row⟩ := hs.isPatch.exists_sharesRow ht.isPatch
    refine ⟨box, box', shared, inRow, hs.isPatch.spans hbox, ht.isPatch.spans hbox', hshared, hinRow, ?_, ?_⟩
    · intro common facing
      obtain ⟨k, l, hk, hl, same⟩ := column.mp common
      subst common
      obtain ⟨j, positive, reached, onto⟩ := exists_steps_along_column hbox hbox' hk hl same facing
      exact lands (touchesAfter_of_aligned first unit clear hk positive reached (onto ▸ hl))
    · intro common alone facing
      obtain ⟨k, l, hk, hl, same⟩ := row.mp common
      subst alone
      obtain ⟨j, positive, reached, onto⟩ := exists_steps_along_row hbox hbox' hk hl same facing
      exact lands (touchesAfter_of_aligned first unit clear hk positive reached (onto ▸ hl))

/-- The cells of an upright bar, in one color. -/
def bar : List Spot :=
  [⟨some (.int 3), (0, 1)⟩, ⟨some (.int 3), (1, 1)⟩]

/-- The locations of a cup, open to the bar above it. -/
def cup : List Spot :=
  [⟨none, (3, 0)⟩, ⟨none, (3, 2)⟩, ⟨none, (4, 0)⟩, ⟨none, (4, 1)⟩, ⟨none, (4, 2)⟩]

theorem isFigure_bar : (setOf (bar.map Spot.toValue)).IsFigure (· ∈ bar) := by
  refine isFigure_setOf ?_ ?_ <;> simp [bar, Spot.SameColor]

theorem isFigure_cup : (setOf (cup.map Spot.toValue)).IsFigure (· ∈ cup) := by
  refine isFigure_setOf ?_ ?_ <;> simp [cup, Spot.SameColor]

theorem bounds_bar : Bounds (Places (· ∈ bar)) ⟨0, 1, 1, 1⟩ := by
  constructor <;> simp [isLeast_image_iff, isGreatest_image_iff, Places, bar] <;> omega

theorem bounds_cup : Bounds (Places (· ∈ cup)) ⟨3, 0, 4, 2⟩ := by
  constructor <;> simp [isLeast_image_iff, isGreatest_image_iff, Places, cup] <;> omega

theorem gravitation_of_bar_into_cup :
    (setOf (bar.map Spot.toValue)).IsFigure (· ∈ bar) ∧ (setOf (cup.map Spot.toValue)).IsFigure (· ∈ cup) ∧
    (setOf (bar.map Spot.toValue)).Apart (setOf (cup.map Spot.toValue)) ∧
    (setOf (bar.map Spot.toValue)).Lands (setOf (cup.map Spot.toValue)) := by
  have apart : (setOf (bar.map Spot.toValue)).Apart (setOf (cup.map Spot.toValue)) := by
    refine (isFigure_bar.isPatch.apart_iff isFigure_cup.isPatch).mpr fun l hl hl' => ?_
    simp only [Places, bar, cup, List.mem_cons, List.not_mem_nil] at hl hl'
    grind
  refine ⟨isFigure_bar, isFigure_cup, apart, ?_⟩
  obtain ⟨-, box, box', column, -, spans, spans', hcolumn, -, lands, -⟩ :=
    gravitation_stops_before_its_destination isFigure_bar isFigure_cup ⟨_, List.mem_cons_self⟩
      ⟨_, List.mem_cons_self⟩ apart
  have shared : column = true := by
    obtain ⟨shared, hshared, common⟩ := isFigure_bar.isPatch.exists_sharesColumn isFigure_cup.isPatch
    obtain rfl : column = shared := Except.ok.inj (hcolumn.symm.trans hshared)
    exact common.mpr ⟨(0, 1), (4, 1), ⟨_, List.mem_cons_self, rfl⟩,
      ⟨⟨none, (4, 1)⟩, by simp [cup], rfl⟩, rfl⟩
  have top := (isFigure_bar.isPatch.spans bounds_bar).top
  have bottom := (isFigure_bar.isPatch.spans bounds_bar).bottom
  have top' := (isFigure_cup.isPatch.spans bounds_cup).top
  have bottom' := (isFigure_cup.isPatch.spans bounds_cup).bottom
  rw [spans.top, Except.ok.injEq, Value.int.injEq] at top
  rw [spans.bottom, Except.ok.injEq, Value.int.injEq] at bottom
  rw [spans'.top, Except.ok.injEq, Value.int.injEq] at top'
  rw [spans'.bottom, Except.ok.injEq, Value.int.injEq] at bottom'
  refine lands shared (.inl ?_)
  rw [top, bottom, top', bottom']
  decide

end Value

end GridPuzzle
