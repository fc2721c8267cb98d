import GridPuzzle.Proofs.Gravitation

/-!
# The distance of two patches

The distance of two patches is the least number of steps, along rows and columns, from a location of the one to a
location of the other. What is known about distances of locations is handed on to patches: the distance is symmetric
(`distances_comm`), it is zero if the patches meet (`zero_mem_distances_iff`), and a shift changes it by no more than
the steps of its vector (`least_distance_shift_le`). At distance one the patches are adjacent: they do not meet, and a
location of the one lies beside a location of the other (`touching_iff`).
-/

namespace GridPuzzle

variable {P Q : Location → Prop} {d : Location} {n m : Nat}

/-! ## Distances of locations -/

namespace Location

variable (j k l : Location)

theorem distance_comm : k.distance l = l.distance k := by
  unfold distance
  omega

theorem distance_triangle : j.distance l ≤ j.distance k + k.distance l := by
  unfold distance
  omega

theorem distance_eq_zero_iff {k l : Location} : k.distance l = 0 ↔ k = l := by
  rw [Prod.ext_iff]
  unfold distance
  omega

end Location

/-! ## Distances of sets of locations -/

theorem distances_comm : Distances P Q = Distances Q P := by
  have turned (P Q : Location → Prop) : Distances P Q ⊆ Distances Q P := by
    intro n hn
    rcases hn with ⟨k, l, hk, hl, rfl⟩
    exact ⟨l, k, hl, hk, l.distance_comm k⟩
  exact (turned P Q).antisymm (turned Q P)

theorem zero_mem_distances_iff : 0 ∈ Distances P Q ↔ ∃ l, P l ∧ Q l := by
  constructor
  · intro h
    rcases h with ⟨k, l, hk, hl, zero⟩
    rw [Location.distance_eq_zero_iff.mp zero] at hk
    exact ⟨l, hk, hl⟩
  · intro h
    rcases h with ⟨l, hP, hQ⟩
    exact ⟨l, l, hP, hQ, Location.distance_eq_zero_iff.mpr rfl⟩

theorem least_eq_zero_iff (least : IsLeast (Distances P Q) n) : n = 0 ↔ ∃ l, P l ∧ Q l := by
  rw [← zero_mem_distances_iff]
  constructor
  · intro zero
    exact zero ▸ least.1
  · intro zero
    exact Nat.le_zero.mp (least.2 zero)

/-- Locations are next to others if they do not meet them and one lies beside one of them. -/
theorem touching_iff : Touching P Q ↔ Clear P Q ∧ ∃ k l, P k ∧ Q l ∧ l ∈ k.beside := by
  simp only [Location.mem_beside_iff]
  constructor
  · intro touching
    refine ⟨fun l hP hQ => ?_, touching.1⟩
    have none := touching.2 (zero_mem_distances_iff.mpr ⟨l, hP, hQ⟩)
    exact absurd none (Nat.not_succ_le_zero 0)
  · intro h
    exact touching_of_mem h.1 h.2

/-- A shift changes the least distance by no more than the steps of its vector. -/
theorem least_distance_shift_le (least : IsLeast (Distances P Q) n)
    (least' : IsLeast (Distances (fun l => ∃ k, P k ∧ d.shift k = l) Q) m) :
    m ≤ n + d.stepCount ∧ n ≤ m + d.stepCount := by
  constructor
  · rcases least.1 with ⟨k, l, hk, hl, rfl⟩
    have near := least'.2 ⟨d.shift k, l, ⟨k, hk, rfl⟩, hl, rfl⟩
    have way := (d.shift k).distance_triangle k l
    rw [(d.shift k).distance_comm k, k.distance_shift_self] at way
    omega
  · rcases least'.1 with ⟨_, l, ⟨k, hk, rfl⟩, hl, rfl⟩
    have near := least.2 ⟨k, l, hk, hl, rfl⟩
    have way := k.distance_triangle (d.shift k) l
    rw [k.distance_shift_self] at way
    omega

namespace Value

variable {a b v w : Value} {S T : Spot → Prop}

theorem IsLocationSet.exists_common_iff (h : v.IsLocationSet P) (h' : w.IsLocationSet Q) :
    (∃ x ∈ v, x ∈ w) ↔ ∃ l, P l ∧ Q l := by
  rw [h.exists_mem_iff]
  simp only [h'.toValue_mem_iff]

theorem IsLocationSet.exists_beside_iff (h : v.IsLocationSet P) (h' : w.IsLocationSet Q) :
    (∃ x ∈ v, ∃ near, Location.sideNeighbors x = .ok near ∧ ∃ y ∈ w, y ∈ near) ↔
      ∃ k l, P k ∧ Q l ∧ l ∈ k.beside := by
  rw [h.exists_mem_iff]
  simp only [Location.sideNeighbors_toValue, Except.ok.injEq, exists_eq_left', h'.exists_mem_iff,
    Location.mem_setOf_toValue, exists_and_left]

/-- **The distance of patches is symmetric and steady.** Two patches that are not empty have one distance, whichever is
first: the least number of steps from a location of the one to a location of the other. It is zero exactly if they share
a location. They are adjacent exactly if they share none and a location of the second is a side neighbor of one of the
first. If the first one is shifted, the distance changes by no more than the steps of the vector. -/
theorem distance_is_symmetric_and_steady (ha : a.IsFigure S) (hb : b.IsFigure T) (some : ∃ s, S s)
    (some' : ∃ s, T s) :
    ∃ (n : Nat) (next : Bool) (places places' : Value),
      Patch.distance a b = .ok n ∧ Patch.distance b a = .ok n ∧ IsLeast (Distances (Places S) (Places T)) n ∧
      Patch.locations a = .ok places ∧ Patch.locations b = .ok places' ∧
      (n = 0 ↔ ∃ x ∈ places, x ∈ places') ∧
      Patch.isAdjacent a b = .ok next ∧
      (next = true ↔ (¬ ∃ x ∈ places, x ∈ places') ∧
        ∃ x ∈ places, ∃ near, Location.sideNeighbors x = .ok near ∧ ∃ y ∈ places', y ∈ near) ∧
      ∀ d : Location, ∃ (moved : Value) (m : Nat), Patch.shift a d.toValue = .ok moved ∧
        Patch.distance moved b = .ok m ∧ ((m : Int) - n).natAbs ≤ d.1.natAbs + d.2.natAbs := by
  rcases some with ⟨s, hs⟩
  rcases some' with ⟨s', hs'⟩
  have filled : ∃ l, Places S l := ⟨_, s, hs, rfl⟩
  have filled' : ∃ l, Places T l := ⟨_, s', hs', rfl⟩
  rcases ha.isPatch.exists_distance hb.isPatch filled filled' with ⟨n, hn, least⟩
  rcases hb.isPatch.exists_distance ha.isPatch filled' filled with ⟨n', hn', least'⟩
  rw [distances_comm] at least'
  rw [least'.unique least] at hn'
  rcases ha.isPatch.exists_isAdjacent hb.isPatch filled filled' with ⟨next, hnext, touching⟩
  rcases ha.isPatch with ⟨places, hplaces, locations⟩
  rcases hb.isPatch with ⟨places', hplaces', locations'⟩
  refine ⟨n, next, places, places', hn, hn', least, hplaces, hplaces', ?_, hnext, ?_, fun d => ?_⟩
  · rw [locations.exists_common_iff locations', least_eq_zero_iff least]
  · rw [touching, touching_iff, locations.exists_common_iff locations', locations.exists_beside_iff locations']
    simp only [Clear, not_exists, not_and]
  · rcases ha.exists_shift d with ⟨moved, hmoved, figure⟩
    rcases figure.isPatch.exists_distance hb.isPatch ⟨_, _, ⟨s, hs, rfl⟩, rfl⟩ filled' with ⟨m, hm, least''⟩
    have shifted : Places (Moved d.shift S) = fun l => ∃ k, Places S k ∧ d.shift k = l :=
      funext fun _ => propext places_moved
    rw [shifted] at least''
    have change := least_distance_shift_le least least''
    refine ⟨moved, m, hmoved, hm, ?_⟩
    simp only [Location.stepCount] at change
    omega

theorem distance_of_bar_and_cup :
    (setOf (bar.map Spot.toValue)).IsFigure (· ∈ bar) ∧ (setOf (cup.map Spot.toValue)).IsFigure (· ∈ cup) ∧
    (∃ s, s ∈ bar) ∧ (∃ s, s ∈ cup) ∧
    Patch.distance (setOf (bar.map Spot.toValue)) (setOf (cup.map Spot.toValue)) = .ok 3 ∧
    Patch.distance (setOf (cup.map Spot.toValue)) (setOf (bar.map Spot.toValue)) = .ok 3 ∧
    ∃ (moved : Value) (m : Nat), Patch.shift (setOf (bar.map Spot.toValue)) (.location 1 (-1)) = .ok moved ∧
      Patch.distance moved (setOf (cup.map Spot.toValue)) = .ok m ∧ ((m : Int) - 3).natAbs ≤ 2 := by
  have some : ∃ s, s ∈ bar := ⟨_, List.mem_cons_self⟩
  have some' : ∃ s, s ∈ cup := ⟨_, List.mem_cons_self⟩
  have three : IsLeast (Distances (Places (· ∈ bar)) (Places (· ∈ cup))) 3 := by
    refine ⟨⟨(1, 1), (4, 1), by simp [Places, bar], by simp [Places, cup], rfl⟩, fun n hn => ?_⟩
    rcases hn with ⟨_, _, ⟨r, hr, rfl⟩, ⟨s, hs, rfl⟩, rfl⟩
    simp only [bar, cup, List.mem_cons, List.not_mem_nil, or_false] at hr hs
    rcases hr with rfl | rfl <;> rcases hs with rfl | rfl | rfl | rfl | rfl <;> decide
  rcases distance_is_symmetric_and_steady isFigure_bar isFigure_cup some some' with
    ⟨n, next, places, places', hn, hn', least, -, -, -, -, -, steady⟩
  obtain rfl := least.unique three
  rcases steady (1, -1) with ⟨moved, m, hmoved, hm, change⟩
  exact ⟨isFigure_bar, isFigure_cup, some, some', hn, hn', moved, m, hmoved, hm, change⟩

end Value

end GridPuzzle
