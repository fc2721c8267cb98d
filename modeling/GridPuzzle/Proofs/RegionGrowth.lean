import GridPuzzle.Region
import Mathlib.Data.Finset.Card
import Mathlib.Logic.Relation

/-!
# Growth of regions

`Region.grow` looks at the pending locations in the order in which it lists them, and `Region.regionsFrom`
visits the locations in the order in which it is given them. The results do not depend on these orders,
so this module first says what a growth in *any* order is, and proves its facts about that:

* `Growth.Round` is one round with the pending locations in some order, `Grown` a run of rounds until
  nothing is pending, and `Sweep` a visit of all locations in the order of a list.
* `Grown.mem_joined_iff`: whatever the orders, what has joined is what can be reached from the start.
* `Sweep.sound` and `Sweep.complete`: the regions of a sweep are the classes of a symmetric relation that
  the terrain follows (`Fits`), each class once its first location is visited.
* `sweep_regionsFrom`: the function is one such sweep, if it is given more rounds than there are locations.
-/

namespace GridPuzzle

namespace Region

open Relation

/-! ## Growth in any order -/

/-- One round that looks at the pending locations in some order. -/
inductive Growth.Round (terrain : Terrain) (start : Location) : Growth → Growth → Prop
  | look {g : Growth} {order : List Location} :
    order.Perm g.pending → Round terrain start g ({ g with pending := order }.advance terrain start)

/-- A region has been grown from a location among occupied ones, and nothing is pending. -/
structure Grown (terrain : Terrain) (start : Location) (occupied : List Location) (g : Growth) :
    Prop where
  rounds : ReflTransGen (Growth.Round terrain start) ⟨[], occupied, [start]⟩ g
  done : g.pending = []

/-- The regions that are found when the locations of a list are visited in its order. -/
inductive Sweep (terrain : Terrain) (starts : Location → Bool) :
    List Location → List Location → List (List Location) → Prop
  | done {occupied : List Location} : Sweep terrain starts occupied [] []
  | skip {occupied rest : List Location} {found : List (List Location)} {l : Location} :
    l ∈ occupied ∨ starts l = false → Sweep terrain starts occupied rest found →
    Sweep terrain starts occupied (l :: rest) found
  | region {occupied rest : List Location} {found : List (List Location)} {l : Location}
    {g : Growth} :
    l ∉ occupied → starts l = true → Grown terrain l occupied g →
    Sweep terrain starts g.occupied rest found →
    Sweep terrain starts occupied (l :: rest) (g.joined :: found)

/-- What can be reached from a start: by steps to neighbors that join its region. -/
def Reaches (terrain : Terrain) (start : Location) : Location → Prop :=
  ReflTransGen (fun k l => l ∈ terrain.near k ∧ terrain.joins start l = true) start

variable {terrain : Terrain} {start : Location} {occupied : List Location} {g g' : Growth}

/-! ## One round -/

/-- All that a round does: the pending locations that are accepted join and are occupied, and their
neighbors that are not occupied are pending. -/
theorem Growth.Round.spec (h : g.Round terrain start g') :
    (∀ l, l ∈ g'.joined ↔ (l ∈ g.pending ∧ terrain.joins start l = true) ∨ l ∈ g.joined) ∧
    (∀ l, l ∈ g'.occupied ↔ (l ∈ g.pending ∧ terrain.joins start l = true) ∨ l ∈ g.occupied) ∧
    (∀ l, l ∈ g'.pending ↔
      (∃ k, (k ∈ g.pending ∧ terrain.joins start k = true) ∧ l ∈ terrain.near k) ∧
        l ∉ g'.occupied) := by
  cases h with
  | look perm =>
      refine ⟨fun l => ?_, fun l => ?_, fun l => ?_⟩
      · simp [Growth.advance, perm.mem_iff]
      · simp [Growth.advance, perm.mem_iff]
      · simp only [Growth.advance, List.mem_filter, List.mem_eraseDups, List.mem_flatMap,
          perm.mem_iff, Bool.not_eq_true', ← Bool.not_eq_true, List.contains_iff_mem]

/-- What holds of a growth after any number of rounds. -/
structure Growth.Sound (terrain : Terrain) (start : Location) (occupied : List Location)
    (g : Growth) : Prop where
  occupied_iff : ∀ l, l ∈ g.occupied ↔ l ∈ g.joined ∨ l ∈ occupied
  joined_reached : ∀ l ∈ g.joined, Reaches terrain start l
  pending_reached : ∀ l ∈ g.pending, terrain.joins start l = true → Reaches terrain start l
  /-- No neighbor of the region is forgotten. -/
  closed : ∀ k ∈ g.joined, ∀ l ∈ terrain.near k, terrain.joins start l = true →
    l ∈ g.occupied ∨ l ∈ g.pending
  start_known : start ∈ g.joined ∨ start ∈ g.pending

theorem Growth.Sound.initial : Growth.Sound terrain start occupied ⟨[], occupied, [start]⟩ where
  occupied_iff l := by simp
  joined_reached l hl := by cases hl
  pending_reached l hl _ := by
    rw [List.mem_singleton.mp hl]
    exact ReflTransGen.refl
  closed k hk := by cases hk
  start_known := .inr (List.mem_singleton.mpr rfl)

theorem Growth.Sound.round (self : terrain.joins start start = true)
    (sound : g.Sound terrain start occupied) (h : g.Round terrain start g') :
    g'.Sound terrain start occupied := by
  obtain ⟨joined, occ, pending⟩ := h.spec
  -- What joins in this round was pending, and so can be reached.
  have accepted_reached : ∀ k, k ∈ g.pending ∧ terrain.joins start k = true →
      Reaches terrain start k := fun k hk => sound.pending_reached k hk.1 hk.2
  refine ⟨fun l => ?_, fun l hl => ?_, fun l hl hjoin => ?_, fun k hk l hl hjoin => ?_, ?_⟩
  · rw [occ, joined, sound.occupied_iff, or_assoc]
  · rcases (joined l).mp hl with hl | hl
    · exact accepted_reached l hl
    · exact sound.joined_reached l hl
  · obtain ⟨⟨k, hk, hnear⟩, -⟩ := (pending l).mp hl
    exact (accepted_reached k hk).tail ⟨hnear, hjoin⟩
  · by_cases hocc : l ∈ g'.occupied
    · exact .inl hocc
    · rcases (joined k).mp hk with hk | hk
      · exact .inr ((pending l).mpr ⟨⟨k, hk, hl⟩, hocc⟩)
      · -- A neighbor of an earlier location was occupied or pending before this round, and what was
        -- pending and joins is occupied by it.
        refine absurd ?_ hocc
        rcases sound.closed k hk l hl hjoin with hl | hl
        · exact (occ l).mpr (.inr hl)
        · exact (occ l).mpr (.inl ⟨hl, hjoin⟩)
  · rcases sound.start_known with h | h
    · exact .inl ((joined start).mpr (.inr h))
    · exact .inl ((joined start).mpr (.inl ⟨h, self⟩))

theorem Grown.sound (self : terrain.joins start start = true)
    (h : Grown terrain start occupied g) : g.Sound terrain start occupied := by
  obtain ⟨rounds, -⟩ := h
  induction rounds with
  | refl => exact .initial
  | tail _ step ih => exact ih.round self step

/-- A grown region is what can be reached from its start. -/
theorem Grown.mem_joined_iff (self : terrain.joins start start = true)
    (free : ∀ l, Reaches terrain start l → l ∉ occupied) (h : Grown terrain start occupied g)
    (l : Location) : l ∈ g.joined ↔ Reaches terrain start l := by
  have sound := h.sound self
  refine ⟨sound.joined_reached l, fun reached => ?_⟩
  induction reached with
  | refl =>
      rcases sound.start_known with known | known
      · exact known
      · rw [h.done] at known
        cases known
  | @tail k l hk step ih =>
      rcases sound.closed k ih l step.1 step.2 with hl | hl
      · rcases (sound.occupied_iff l).mp hl with hl | hl
        · exact hl
        · exact absurd hl (free l (hk.tail step))
      · rw [h.done] at hl
        cases hl

theorem Grown.mem_occupied_iff (self : terrain.joins start start = true)
    (free : ∀ l, Reaches terrain start l → l ∉ occupied) (h : Grown terrain start occupied g)
    (l : Location) : l ∈ g.occupied ↔ Reaches terrain start l ∨ l ∈ occupied := by
  rw [(h.sound self).occupied_iff, h.mem_joined_iff self free]

/-! ## Enough rounds -/

section Rounds

variable {room : Finset Location} {rounds : Nat}

/-- The pending locations lie in a room of finitely many locations and are free. -/
def Growth.Within (room : Finset Location) (g : Growth) : Prop :=
  ∀ l ∈ g.pending, l ∈ room ∧ l ∉ g.occupied

/-- The locations of the room that are not occupied. -/
def Growth.free (room : Finset Location) (g : Growth) : Finset Location :=
  room \ g.occupied.toFinset

theorem Growth.Within.round (near_room : ∀ k, ∀ l ∈ terrain.near k, l ∈ room)
    (h : g.Round terrain start g') : g'.Within room := by
  obtain ⟨-, -, pending⟩ := h.spec
  intro l hl
  obtain ⟨⟨k, -, hnear⟩, hocc⟩ := (pending l).mp hl
  exact ⟨near_room k l hnear, hocc⟩

theorem Growth.Round.mem_occupied (h : g.Round terrain start g') {l : Location} (hl : l ∈ g.occupied) :
    l ∈ g'.occupied := by
  obtain ⟨-, occ, -⟩ := h.spec
  exact (occ l).mpr (.inr hl)

/-- A round that leaves anything pending has occupied a location of the room that was free before. -/
theorem Growth.Within.exists_occupied (within : g.Within room) (h : g.Round terrain start g')
    (more : g'.pending ≠ []) : ∃ l ∈ room, l ∉ g.occupied ∧ l ∈ g'.occupied := by
  obtain ⟨-, occ, pending⟩ := h.spec
  obtain ⟨l, hl⟩ := List.exists_mem_of_ne_nil _ more
  obtain ⟨⟨k, hk, -⟩, -⟩ := (pending l).mp hl
  obtain ⟨hroom, hfree⟩ := within k hk.1
  exact ⟨k, hroom, hfree, (occ k).mpr (.inl hk)⟩

theorem Growth.Within.card_free_lt (within : g.Within room) (h : g.Round terrain start g')
    (more : g'.pending ≠ []) : (g'.free room).card < (g.free room).card := by
  obtain ⟨k, hroom, hfree, hk⟩ := within.exists_occupied h more
  refine Finset.card_lt_card (Finset.ssubset_iff_of_subset ?_ |>.mpr ⟨k, ?_, ?_⟩)
  · refine Finset.sdiff_subset_sdiff (Finset.Subset.refl room) fun l hl => ?_
    exact List.mem_toFinset.mpr (h.mem_occupied (List.mem_toFinset.mp hl))
  · exact Finset.mem_sdiff.mpr ⟨hroom, fun hk => hfree (List.mem_toFinset.mp hk)⟩
  · intro hk'
    exact (Finset.mem_sdiff.mp hk').2 (List.mem_toFinset.mpr hk)

theorem Growth.Round.advance : g.Round terrain start (g.advance terrain start) :=
  .look (List.Perm.refl g.pending)

theorem Growth.rounds_complete :
    ReflTransGen (Growth.Round terrain start) g (g.complete terrain start rounds) := by
  induction rounds generalizing g with
  | zero => exact .refl
  | succ rounds ih =>
      unfold Growth.complete
      split
      · exact .refl
      · exact .head .advance ih

/-- With more rounds than free locations a growth is completed. -/
theorem Growth.pending_complete (near_room : ∀ k, ∀ l ∈ terrain.near k, l ∈ room)
    (within : g.Within room) (enough : (g.free room).card < rounds) :
    (g.complete terrain start rounds).pending = [] := by
  induction rounds generalizing g with
  | zero => exact absurd enough (Nat.not_lt_zero _)
  | succ rounds ih =>
      unfold Growth.complete
      split
      next h => exact List.isEmpty_iff.mp h
      next =>
        by_cases more : (g.advance terrain start).pending = []
        · -- Nothing is pending any more, and the rounds that are left change nothing.
          cases rounds with
          | zero => exact more
          | succ rounds => simp [Growth.complete, more]
        · have fewer := within.card_free_lt .advance more
          exact ih (.round near_room .advance) (by omega)

theorem grown_grow (near_room : ∀ k, ∀ l ∈ terrain.near k, l ∈ room) (enough : room.card < rounds)
    (hstart : start ∈ room) (hfree : start ∉ occupied) :
    Grown terrain start occupied (grow terrain rounds occupied start) where
  rounds := Growth.rounds_complete
  done := by
    refine Growth.pending_complete near_room (fun l hl => ?_) ?_
    · rw [List.mem_singleton.mp hl]
      exact ⟨hstart, hfree⟩
    · exact lt_of_le_of_lt (Finset.card_le_card Finset.sdiff_subset) enough

/-- The regions of `regionsFrom` are those of a sweep. -/
theorem sweep_regionsFrom (near_room : ∀ k, ∀ l ∈ terrain.near k, l ∈ room)
    (enough : room.card < rounds) (starts : Location → Bool) (occupied : List Location)
    {order : List Location} (order_room : ∀ l ∈ order, l ∈ room) :
    Sweep terrain starts occupied order (regionsFrom terrain rounds starts occupied order) := by
  induction order generalizing occupied with
  | nil => exact .done
  | cons l rest ih =>
      have rest_room : ∀ k ∈ rest, k ∈ room := fun k hk => order_room k (List.mem_cons_of_mem l hk)
      unfold regionsFrom
      split
      next h =>
        refine .skip ?_ (ih _ rest_room)
        simpa using h
      next h =>
        simp only [Bool.or_eq_true, List.contains_iff_mem, Bool.not_eq_true', not_or,
          Bool.not_eq_false] at h
        exact .region h.1 h.2
          (grown_grow near_room enough (order_room l List.mem_cons_self) h.1) (ih _ rest_room)

end Rounds

/-! ## The regions of a sweep -/

/-- The terrain follows a symmetric relation: from an eligible start, the steps that are taken are the
links of the relation. -/
structure Fits (terrain : Terrain) (eligible : Location → Prop)
    (link : Location → Location → Prop) : Prop where
  symm : Std.Symm link
  joins_self : ∀ {s}, eligible s → terrain.joins s s = true
  step_iff : ∀ {s k l}, eligible s → ReflTransGen link s k →
    (l ∈ terrain.near k ∧ terrain.joins s l = true ↔ link k l)

section Sweeps

variable {starts : Location → Bool} {eligible : Location → Prop}
  {link : Location → Location → Prop} {order : List Location} {found : List (List Location)}

theorem Fits.connected_symm (fits : Fits terrain eligible link) {k l : Location}
    (h : ReflTransGen link k l) : ReflTransGen link l k :=
  have := fits.symm
  ReflTransGen.stdSymm.symm k l h

theorem Fits.reaches_iff (fits : Fits terrain eligible link) (hstart : eligible start)
    (l : Location) : Reaches terrain start l ↔ ReflTransGen link start l := by
  constructor
  · intro h
    induction h with
    | refl => exact .refl
    | tail _ step ih => exact ih.tail ((fits.step_iff hstart ih).mp step)
  · intro h
    induction h with
    | refl => exact .refl
    | tail before step ih => exact ih.tail ((fits.step_iff hstart before).mpr step)

/-- A set of locations that no link leaves is left by no path either. -/
theorem mem_of_connected (closed : ∀ k ∈ occupied, ∀ l, link k l → l ∈ occupied) {k l : Location}
    (h : ReflTransGen link k l) (hk : k ∈ occupied) : l ∈ occupied := by
  induction h with
  | refl => exact hk
  | tail _ step ih => exact closed _ ih _ step

/-- What one region of a sweep is, and what is occupied after it: the class of its start is added to
locations that were closed before and are closed again. -/
theorem Fits.grown (fits : Fits terrain eligible link)
    (closed : ∀ k ∈ occupied, ∀ l, link k l → l ∈ occupied) (hfree : start ∉ occupied)
    (hstart : eligible start) (h : Grown terrain start occupied g) :
    (∀ l, l ∈ g.joined ↔ ReflTransGen link start l) ∧
    (∀ l, l ∈ g.occupied ↔ ReflTransGen link start l ∨ l ∈ occupied) ∧
    ∀ k ∈ g.occupied, ∀ l, link k l → l ∈ g.occupied := by
  have free : ∀ l, Reaches terrain start l → l ∉ occupied := by
    intro l hl hocc
    have back := fits.connected_symm ((fits.reaches_iff hstart l).mp hl)
    exact hfree (mem_of_connected closed back hocc)
  have self := fits.joins_self hstart
  have occ : ∀ l, l ∈ g.occupied ↔ ReflTransGen link start l ∨ l ∈ occupied := fun l => by
    rw [h.mem_occupied_iff self free, fits.reaches_iff hstart]
  refine ⟨fun l => by rw [h.mem_joined_iff self free, fits.reaches_iff hstart], occ, ?_⟩
  intro k hk l step
  rcases (occ k).mp hk with hk | hk
  · exact (occ l).mpr (.inl (hk.tail step))
  · exact (occ l).mpr (.inr (closed k hk l step))

/-- Every region of a sweep is the class of a visited location. -/
theorem Sweep.sound (fits : Fits terrain eligible link)
    (closed : ∀ k ∈ occupied, ∀ l, link k l → l ∈ occupied)
    (h : Sweep terrain starts occupied order found)
    (starts_eligible : ∀ l ∈ order, starts l = true → eligible l) :
    ∀ region ∈ found, ∃ k, eligible k ∧ ∀ l, l ∈ region ↔ ReflTransGen link k l := by
  induction h with
  | done =>
      intro region hregion
      cases hregion
  | @skip occupied rest found l _ _ ih =>
      exact ih closed fun k hk => starts_eligible k (List.mem_cons_of_mem l hk)
  | @region occupied rest found l g hfree hstart grown _ ih =>
      have heligible := starts_eligible l List.mem_cons_self hstart
      obtain ⟨joined, -, closed'⟩ := fits.grown closed hfree heligible grown
      intro region hregion
      rcases List.mem_cons.mp hregion with rfl | hregion
      · exact ⟨l, heligible, joined⟩
      · exact ih closed' (fun k hk => starts_eligible k (List.mem_cons_of_mem l hk)) region hregion

/-- The class of every visited location that starts a region is found, unless it was occupied from the
beginning. -/
theorem Sweep.complete (fits : Fits terrain eligible link)
    (closed : ∀ k ∈ occupied, ∀ l, link k l → l ∈ occupied)
    (h : Sweep terrain starts occupied order found)
    (starts_eligible : ∀ l ∈ order, starts l = true → eligible l) :
    ∀ k ∈ order, starts k = true → k ∉ occupied →
      ∃ region ∈ found, ∀ l, l ∈ region ↔ ReflTransGen link k l := by
  induction h with
  | done =>
      intro k hk
      cases hk
  | @skip occupied rest found l skipped _ ih =>
      intro k hk hstart hfree
      rcases List.mem_cons.mp hk with rfl | hk
      · rcases skipped with hocc | hno
        · exact absurd hocc hfree
        · rw [hstart] at hno
          cases hno
      · exact ih closed (fun m hm => starts_eligible m (List.mem_cons_of_mem l hm)) k hk hstart hfree
  | @region occupied rest found l g hfree hstart grown _ ih =>
      have heligible := starts_eligible l List.mem_cons_self hstart
      obtain ⟨joined, occ, closed'⟩ := fits.grown closed hfree heligible grown
      intro k hk hstart' hfree'
      -- Either this region has taken `k` in, and then it is the class of `k`, or a later one will.
      by_cases hocc : k ∈ g.occupied
      · have hlk : ReflTransGen link l k := ((occ k).mp hocc).resolve_right hfree'
        refine ⟨g.joined, List.mem_cons_self, fun m => (joined m).trans ⟨fun hm => ?_, hlk.trans⟩⟩
        exact (fits.connected_symm hlk).trans hm
      · rcases List.mem_cons.mp hk with rfl | hk
        · exact absurd ((occ k).mpr (.inl .refl)) hocc
        · obtain ⟨region, hregion, hmem⟩ := ih closed'
            (fun m hm => starts_eligible m (List.mem_cons_of_mem l hm)) k hk hstart' hocc
          exact ⟨region, List.mem_cons_of_mem _ hregion, hmem⟩

end Sweeps

end Region

end GridPuzzle
