import GridPuzzle.Proofs.ObjectRegions

/-!
# How many rounds the search for an object takes

The search for an object makes rounds while anything is pending. What is pending does not get less from round to
round: a neighbor that is not accepted is not remembered, and is pending again as soon as another of its neighbors
joins. What does get less is the number of free cells, since a round that leaves anything pending has occupied a
cell that was free.

* `Growth.Run` is a run of a number of rounds, each made while something is pending, and each with the pending
  locations in an order of its own.
* `Growth.Run.le_card_free`: a run has no more rounds than there are free locations.
* `Growth.exists_run_complete` and `grow_of_enough`: the search is such a run, and a limit on the number of its
  rounds does not matter from the size of the room on.
-/

namespace GridPuzzle

namespace Region

variable {terrain : Terrain} {start : Location} {occupied : List Location} {room : Finset Location}
  {g g' g'' : Growth} {n rounds : Nat}

/-- A run of a number of rounds, each made while something is pending. -/
inductive Growth.Run (terrain : Terrain) (start : Location) : Nat → Growth → Growth → Prop
  | refl {g : Growth} : Run terrain start 0 g g
  | tail {n : Nat} {g g' g'' : Growth} :
    Run terrain start n g g' → g'.pending ≠ [] → g'.Round terrain start g'' → Run terrain start (n + 1) g g''

/-! ## What a run keeps -/

theorem Growth.Run.within (near_room : ∀ k, ∀ l ∈ terrain.near k, l ∈ room) (run : Run terrain start n g g')
    (within : g.Within room) : g'.Within room := by
  cases run with
  | refl => exact within
  | tail _ _ round => exact .round near_room round

/-- What is occupied in a round was pending, so it lies in the room. -/
theorem Growth.Within.occupied_room (within : g.Within room) (round : g.Round terrain start g')
    (h : ∀ l ∈ g.occupied, l ∈ room) : ∀ l ∈ g'.occupied, l ∈ room := by
  intro l hl
  obtain ⟨-, occ, -⟩ := round.spec
  rcases (occ l).mp hl with hl | hl
  · exact (within l hl.1).1
  · exact h l hl

theorem Growth.Run.occupied_room (near_room : ∀ k, ∀ l ∈ terrain.near k, l ∈ room)
    (run : Run terrain start n g g') (within : g.Within room) (h : ∀ l ∈ g.occupied, l ∈ room) :
    ∀ l ∈ g'.occupied, l ∈ room := by
  induction run with
  | refl => exact h
  | tail run _ round ih => exact (run.within near_room within).occupied_room round (ih within h)

/-- What is pending before the first round and accepted by it stays occupied. -/
theorem Growth.Run.mem_occupied (run : Run terrain start n g g') (first : 0 < n) {l : Location}
    (hl : l ∈ g.pending) (joins : terrain.joins start l = true) : l ∈ g'.occupied := by
  induction run with
  | refl => exact absurd first (Nat.lt_irrefl 0)
  | @tail n _ _ _ run _ round ih =>
      cases n with
      | zero =>
          cases run
          obtain ⟨-, occ, -⟩ := round.spec
          exact (occ l).mpr (.inl ⟨hl, joins⟩)
      | succ n => exact round.mem_occupied (ih (Nat.succ_pos n) hl)

/-! ## The length of a run -/

/-- While anything is pending, each round has taken a free location of the room. -/
theorem Growth.Run.add_card_free_le (near_room : ∀ k, ∀ l ∈ terrain.near k, l ∈ room)
    (run : Run terrain start n g g') (within : g.Within room) (more : g'.pending ≠ []) :
    n + (g'.free room).card ≤ (g.free room).card := by
  induction run with
  | refl => exact le_of_eq (Nat.zero_add _)
  | tail run before round ih =>
      have fewer := (run.within near_room within).card_free_lt round more
      have earlier := ih within before
      omega

/-- A run has no more rounds than there are free locations: what is pending before its last round is free still. -/
theorem Growth.Run.le_card_free (near_room : ∀ k, ∀ l ∈ terrain.near k, l ∈ room)
    (run : Run terrain start n g g') (within : g.Within room) : n ≤ (g.free room).card := by
  cases run with
  | refl => exact Nat.zero_le _
  | @tail n _ last _ run more _ =>
      obtain ⟨l, hl⟩ := List.exists_mem_of_ne_nil _ more
      obtain ⟨hroom, hfree⟩ := run.within near_room within l hl
      have some_free : 0 < (last.free room).card := by
        refine Finset.card_pos.mpr ⟨l, Finset.mem_sdiff.mpr ⟨hroom, fun h => hfree ?_⟩⟩
        exact List.mem_toFinset.mp h
      have taken := run.add_card_free_le near_room within more
      omega

/-! ## The search as a run -/

theorem Growth.Run.head (more : g.pending ≠ []) (round : g.Round terrain start g')
    (run : Run terrain start n g' g'') : Run terrain start (n + 1) g g'' := by
  induction run with
  | refl => exact .tail .refl more round
  | tail _ more' round' ih => exact .tail (ih round) more' round'

theorem Growth.exists_run_complete (g : Growth) (rounds : Nat) :
    ∃ n ≤ rounds, Run terrain start n g (g.complete terrain start rounds) := by
  induction rounds generalizing g with
  | zero => exact ⟨0, le_rfl, .refl⟩
  | succ rounds ih =>
      unfold Growth.complete
      split
      next => exact ⟨0, Nat.zero_le _, .refl⟩
      next more =>
        obtain ⟨n, hn, run⟩ := ih (g.advance terrain start)
        exact ⟨n + 1, Nat.succ_le_succ hn, run.head (fun h => more (List.isEmpty_iff.mpr h)) .advance⟩

theorem Growth.complete_of_done (h : g.pending = []) : g.complete terrain start rounds = g := by
  cases rounds with
  | zero => rfl
  | succ rounds =>
      unfold Growth.complete
      rw [h, List.isEmpty_nil, if_pos rfl]

theorem Growth.complete_add (g : Growth) (m : Nat) :
    g.complete terrain start (m + rounds) = (g.complete terrain start m).complete terrain start rounds := by
  induction m generalizing g with
  | zero => rw [Nat.zero_add, Growth.complete]
  | succ m ih =>
      rw [Nat.succ_add, Growth.complete, Growth.complete]
      split
      next h => exact (complete_of_done (List.isEmpty_iff.mp h)).symm
      next => exact ih _

/-- A limit on the number of rounds does not matter once it is greater than the size of the room. -/
theorem grow_of_enough (near_room : ∀ k, ∀ l ∈ terrain.near k, l ∈ room) (hstart : start ∈ room)
    (hfree : start ∉ occupied) {limit : Nat} (enough : room.card < limit) (h : limit ≤ rounds) :
    grow terrain rounds occupied start = grow terrain limit occupied start := by
  have done : (grow terrain limit occupied start).pending = [] :=
    (grown_grow near_room enough hstart hfree).done
  obtain ⟨extra, rfl⟩ := Nat.exists_eq_add_of_le h
  rw [grow, Growth.complete_add]
  exact Growth.complete_of_done done

end Region

namespace Board

open Region

/-- **The search for an object ends.** It starts at a cell of the board that is free and may start an object, when
some cells of the board are occupied. The first round occupies the start. Whatever the orders in which the pending
cells are looked at, these are always free cells of the board, a round that leaves any of them pending has occupied
a cell of the board that was free, and there are no more rounds than free cells. So the search, which makes one
round more than there are cells at most, ends because nothing is pending, and a higher limit would not change its
result. -/
theorem object_search_ends (g : Board Int) (oneColor acrossCorners withoutBackground : Bool)
    {occupied : List Location} (occupied_inside : ∀ l ∈ occupied, g.Inside l) {start : Location}
    (inside : g.Inside start) (free : start ∉ occupied) (starts : g.starts withoutBackground start = true) :
    (∀ n s, Growth.Run (g.terrain oneColor acrossCorners withoutBackground) start n ⟨[], occupied, [start]⟩ s →
      n + occupied.toFinset.card ≤ g.height * g.width ∧
      (0 < n → start ∈ s.occupied) ∧
      (∀ l ∈ s.pending, g.Inside l ∧ l ∉ s.occupied) ∧
      (∀ l ∈ s.occupied, g.Inside l) ∧
      ∀ s', s.Round (g.terrain oneColor acrossCorners withoutBackground) start s' →
        (∀ l ∈ s.occupied, l ∈ s'.occupied) ∧
        (s'.pending ≠ [] → ∃ l, g.Inside l ∧ l ∉ s.occupied ∧ l ∈ s'.occupied)) ∧
    (∃ n ≤ g.height * g.width + 1,
      Growth.Run (g.terrain oneColor acrossCorners withoutBackground) start n ⟨[], occupied, [start]⟩
        (grow (g.terrain oneColor acrossCorners withoutBackground) (g.height * g.width + 1) occupied start)) ∧
    (grow (g.terrain oneColor acrossCorners withoutBackground) (g.height * g.width + 1) occupied
      start).pending = [] ∧
    ∀ rounds ≥ g.height * g.width + 1,
      grow (g.terrain oneColor acrossCorners withoutBackground) rounds occupied start =
        grow (g.terrain oneColor acrossCorners withoutBackground) (g.height * g.width + 1) occupied start := by
  have hstart := mem_toFinset_all.mpr inside
  have within : Growth.Within (Location.all g.height g.width).toFinset ⟨[], occupied, [start]⟩ := by
    intro l hl
    rw [List.mem_singleton.mp hl]
    exact ⟨hstart, free⟩
  have occupied_room : ∀ l ∈ occupied, l ∈ (Location.all g.height g.width).toFinset :=
    fun l hl => mem_toFinset_all.mpr (occupied_inside l hl)
  refine ⟨fun n s run => ⟨?_, fun first => ?_, fun l hl => ?_, fun l hl => ?_, fun s' round => ⟨?_, ?_⟩⟩,
    Growth.exists_run_complete _ _, (grown_grow near_mem_all g.card_all hstart free).done,
    fun rounds => grow_of_enough near_mem_all hstart free g.card_all⟩
  · -- The free cells and the occupied ones are all cells of the board.
    have short : n ≤ ((Location.all g.height g.width).toFinset \ occupied.toFinset).card :=
      run.le_card_free near_mem_all within
    have subset : occupied.toFinset ⊆ (Location.all g.height g.width).toFinset :=
      fun l hl => occupied_room l (List.mem_toFinset.mp hl)
    have split := Finset.card_sdiff_add_card_eq_card subset
    have all := g.card_all
    omega
  · exact run.mem_occupied first List.mem_cons_self (fits_terrain.joins_self ((starts_iff inside).mp starts))
  · obtain ⟨hroom, hfree⟩ := run.within near_mem_all within l hl
    exact ⟨mem_toFinset_all.mp hroom, hfree⟩
  · exact mem_toFinset_all.mp (run.occupied_room near_mem_all within occupied_room l hl)
  · exact fun l => round.mem_occupied
  · intro more
    obtain ⟨l, hroom, hfree, hl⟩ := (run.within near_mem_all within).exists_occupied round more
    exact ⟨l, mem_toFinset_all.mp hroom, hfree, hl⟩

/-- A board with an object that turns a corner. -/
def bend : Board Int where
  rows := [[7, 0], [7, 7], [0, 0], [0, 0]]
  width := 2
  rows_ne_nil := List.cons_ne_nil _ _
  width_pos := Nat.two_pos
  length_row := by decide

theorem background_bend : bend.background = 0 :=
  background_eq_of_most (by decide) (by decide)

/-- With one of the eight cells occupied, the search takes seven rounds at most. -/
theorem bend_searched_in_seven_rounds :
    bend.Inside (1, 1) ∧ bend.Inside (0, 0) ∧ (0, 0) ∉ [((1, 1) : Location)] ∧ bend.starts true (0, 0) = true ∧
    (∀ n s, Growth.Run (bend.terrain true false true) (0, 0) n ⟨[], [(1, 1)], [(0, 0)]⟩ s → n ≤ 7) ∧
    (grow (bend.terrain true false true) 9 [(1, 1)] (0, 0)).pending = [] := by
  have taken : ∀ l ∈ [((1, 1) : Location)], bend.Inside l := by decide
  have inside : bend.Inside (0, 0) := by decide
  have free : (0, 0) ∉ [((1, 1) : Location)] := by decide
  have colored : bend.cell (0, 0) ≠ bend.background := by
    rw [background_bend]
    decide
  have starts : bend.starts true (0, 0) = true := (starts_iff inside).mpr ⟨inside, fun _ => colored⟩
  obtain ⟨runs, -, done, -⟩ := object_search_ends bend true false true taken inside free starts
  refine ⟨taken _ List.mem_cons_self, inside, free, starts, fun n s run => ?_, done⟩
  have short : n + 1 ≤ 8 := (runs n s run).1
  omega

end Board

end GridPuzzle
