import GridPuzzle.Patch.Period
import GridPuzzle.Proofs.Occurrence

/-!
# Periods of objects

An object repeats after a number of columns if each of its cells, moved to the left by that number, is a cell of
the object again or has left the box (`Value.Repeats`). After as many columns as the box has every cell has left
it, so the search for the least such number ends with one (`IsFigure.exists_leastBelow`). The search for rows is
the same search in another direction, and the flip along the diagonal turns the one direction into the other
(`Value.repeats_moved`).

One step to the left is enough for a grid: if each cell equals the one a period to its left, it equals the one in
its row among the first columns that has the same remainder (`Board.forall_step_iff`).
-/

namespace GridPuzzle

/-- The search for the least number that passes a test finds the least one up to the bound, if the bound would
pass it. -/
theorem exists_leastBelow {bound : Int} {test : Int → Outcome Bool} {T : Int → Prop} (pos : 1 ≤ bound)
    (h : ∀ p, ∃ b, test p = .ok b ∧ (b = true ↔ T p)) (last : T bound) :
    ∃ p, Patch.leastBelow bound test = .ok (.int p) ∧ IsLeast {p | (1 ≤ p ∧ p ≤ bound) ∧ T p} p := by
  classical
  have known : ∀ p, test p = pure (decide (T p)) := by
    intro p
    obtain ⟨b, hb, iff⟩ := h p
    rw [hb, Bool.eq_iff_iff.mpr (iff.trans decide_eq_true_iff.symm), Outcome.pure_eq_ok]
  have search : Patch.leastBelow bound test =
      .ok (.int (((Table.upTo 1 bound).find? fun p => decide (T p)).getD bound)) := by
    rw [Patch.leastBelow, findM?_eq_pure_find? fun p _ => known p]
    rfl
  refine ⟨_, search, ?_⟩
  rw [Table.upTo, List.find?_map]
  cases found : (List.range (bound - 1).toNat).find? ((fun p => decide (T p)) ∘ fun k : Nat => 1 + (k : Int)) with
  | none =>
      refine ⟨⟨⟨pos, Int.le_refl _⟩, last⟩, fun q hq => ?_⟩
      obtain ⟨⟨low, -⟩, passes⟩ := hq
      by_contra less
      replace less : q < bound := Int.not_le.mp less
      have number : 1 + ((q - 1).toNat : Int) = q := by omega
      refine List.find?_eq_none.mp found (q - 1).toNat (List.mem_range.mpr (by omega)) ?_
      rw [Function.comp_apply, number]
      exact decide_eq_true passes
  | some k =>
      obtain ⟨passes, range, before⟩ := List.find?_range_eq_some.mp found
      rw [List.mem_range] at range
      refine ⟨⟨⟨?_, ?_⟩, of_decide_eq_true passes⟩, fun q hq => ?_⟩
      · simp only [Option.map_some, Option.getD_some]
        omega
      · simp only [Option.map_some, Option.getD_some]
        omega
      · obtain ⟨⟨low, -⟩, passes'⟩ := hq
        by_contra less
        replace less : q < 1 + (k : Int) := Int.not_le.mp less
        have number : 1 + ((q - 1).toNat : Int) = q := by omega
        have fails := before (q - 1).toNat (by omega)
        rw [Function.comp_apply, number, decide_eq_true passes'] at fails
        cases fails

namespace Value

variable {v cells : Value} {S N : Spot → Prop} {box : Box} {d : Location}

/-! ## Repetition -/

/-- Each spot, moved by a vector, is a spot again if it stays. -/
def Repeats (S : Spot → Prop) (d : Location) (stays : Location → Prop) : Prop :=
  ∀ s, S s → stays (d.shift s.place) → ∃ r, S r ∧ ((s.move d.shift).toValue == r.toValue) = true

/-- A map of locations under which one vector becomes another takes the repetitions of the one to those of the
other. -/
theorem repeats_moved {f : Location → Location} (inj : Function.Injective f) {d' : Location}
    (turns : ∀ l, f (d.shift l) = d'.shift (f l)) {stays stays' : Location → Prop}
    (same : ∀ l, stays' (f l) ↔ stays l) : Repeats (Moved f S) d' stays' ↔ Repeats S d stays := by
  constructor
  · intro h s hs stay
    have stay' : stays' (d'.shift (f s.place)) := by rwa [← turns, same]
    obtain ⟨_, ⟨r, hr, rfl⟩, equal⟩ := h (s.move f) ⟨s, hs, rfl⟩ stay'
    obtain ⟨color, place⟩ := Spot.toValue_beq_iff.mp equal
    exact ⟨r, hr, Spot.toValue_beq_iff.mpr ⟨color, inj ((turns _).trans place)⟩⟩
  · intro h s hs stay
    obtain ⟨q, hq, rfl⟩ := hs
    have stay' : stays (d.shift q.place) := by
      rw [← same, turns]
      exact stay
    obtain ⟨r, hr, equal⟩ := h q hq stay'
    obtain ⟨color, place⟩ := Spot.toValue_beq_iff.mp equal
    exact ⟨r.move f, ⟨r, hr, rfl⟩,
      Spot.toValue_beq_iff.mpr ⟨color, (turns _).symm.trans (congrArg f place)⟩⟩

/-- The test of one vector. -/
theorem IsFigure.exists_repeatsAfter (h : cells.IsFigure N) (colored : ∀ s, N s → ∃ c, s.color = some c)
    (d : Location) {keep : Value → Value → Outcome Bool} {stays : Location → Prop} [DecidablePred stays]
    (hkeep : ∀ l : Location, keep (.int l.1) (.int l.2) = .ok (decide (stays l))) :
    ∃ b, Patch.repeatsAfter cells d keep = .ok b ∧ (b = true ↔ Repeats N d stays) := by
  obtain ⟨moved, hmoved, figure⟩ := h.exists_shift d
  obtain ⟨spots, hspots, mem⟩ := figure.exists_spots
  have run : Patch.repeatsAfter cells d keep =
      .ok ((spots.filterMap fun s => if stays s.place then some s.toValue else none).all
        (cells.itemList.contains ·)) := by
    have shift : Patch.shift cells (.location d.1 d.2) = .ok moved := hmoved
    rw [Patch.repeatsAfter, shift, Outcome.ok_bind, figure.isSetOf.items, Outcome.ok_bind, hspots,
      filterMapM_map_eq_pure_filterMap (g := fun s => if stays s.place then some s.toValue else none), pure_bind,
      h.isSetOf.items]
    · rfl
    · intro s hs
      obtain ⟨c, color⟩ := exists_color_of_moved colored ((mem s).mp hs)
      obtain ⟨_, l⟩ := s
      subst color
      simp only [Spot.toValue, cellParts_toValue, Outcome.ok_bind, hkeep, decide_eq_true_eq]
      rfl
  refine ⟨_, run, ?_⟩
  have found (s : Spot) : cells.itemList.contains s.toValue = true ↔
      ∃ r, N r ∧ (s.toValue == r.toValue) = true := by
    rw [List.contains_iff_exists_mem_beq]
    constructor
    · intro member
      obtain ⟨y, hy, equal⟩ := member
      obtain ⟨r, hr, rfl⟩ := (h.isSetOf.mem_itemList y).mp hy
      exact ⟨r, hr, equal⟩
    · intro member
      obtain ⟨r, hr, equal⟩ := member
      exact ⟨_, (h.isSetOf.mem_itemList _).mpr ⟨r, hr, rfl⟩, equal⟩
  rw [List.all_eq_true]
  constructor
  · intro all s hs stay
    refine (found _).mp (all _ (List.mem_filterMap.mpr ⟨s.move d.shift, (mem _).mpr ⟨s, hs, rfl⟩, ?_⟩))
    exact if_pos stay
  · intro repeats x hx
    obtain ⟨s, hs, kept⟩ := List.mem_filterMap.mp hx
    obtain ⟨stay, same⟩ := Option.ite_none_right_eq_some.mp kept
    obtain rfl := Option.some.inj same
    obtain ⟨r, hr, rfl⟩ := (mem s).mp hs
    exact (found _).mpr (repeats r hr stay)

/-- The search for the least number of steps, along one axis of the box, after which a patch repeats. -/
theorem IsFigure.exists_leastBelow (h : cells.IsFigure N) (colored : ∀ s, N s → ∃ c, s.color = some c)
    {bound : Int} (pos : 1 ≤ bound) (vector : Int → Location) (axis : Location → Int)
    (left : ∀ s, N s → axis ((vector bound).shift s.place) < 0) {keep : Value → Value → Outcome Bool}
    (hkeep : ∀ l : Location, keep (.int l.1) (.int l.2) = .ok (decide (0 ≤ axis l))) :
    ∃ p, Patch.leastBelow bound (fun p => Patch.repeatsAfter cells (vector p) keep) = .ok (.int p) ∧
      IsLeast {p | (1 ≤ p ∧ p ≤ bound) ∧ Repeats N (vector p) fun l => 0 ≤ axis l} p := by
  refine GridPuzzle.exists_leastBelow pos (fun p => h.exists_repeatsAfter colored (vector p) hkeep) ?_
  intro s hs stay
  exact absurd stay (Int.not_le.mpr (left s hs))

/-! ## The two directions -/

/-- The box of a patch at the origin. -/
theorem bounds_toOrigin (hbox : Bounds (Places S) box) :
    Bounds (Places (Moved box.toOrigin.shift S)) ⟨0, 0, box.bottom - box.top, box.right - box.left⟩ := by
  have bounds := bounds_shifted hbox box.toOrigin
  simp only [Box.shift, Box.toOrigin, Int.add_right_neg, ← Int.sub_eq_add_neg] at bounds
  exact bounds

section

variable (h : v.IsFigure S) (hbox : Bounds (Places S) box) (colored : ∀ s, S s → ∃ c, s.color = some c)
include h hbox colored

theorem IsFigure.exists_columnPeriod :
    ∃ p, Patch.columnPeriod v = .ok (.int p) ∧
      IsLeast {p | (1 ≤ p ∧ p ≤ box.right - box.left + 1) ∧
        Repeats (Moved box.toOrigin.shift S) (0, -p) fun l => 0 ≤ l.2} p := by
  obtain ⟨cells, hcells, figure⟩ := h.exists_toOrigin hbox
  have bounds := bounds_toOrigin hbox
  have columns : ∀ s, Moved box.toOrigin.shift S s → 0 ≤ s.place.2 ∧ s.place.2 ≤ box.right - box.left :=
    fun s hs => bounds.column_mem ⟨s, hs, rfl⟩
  have pos : 1 ≤ box.right - box.left + 1 := by
    obtain ⟨_, s, hs, -⟩ := bounds.exists_location
    have := columns s hs
    omega
  rw [Patch.columnPeriod, hcells, Outcome.ok_bind, figure.width bounds, Outcome.ok_bind, Int.sub_zero]
  refine figure.exists_leastBelow (fun s => exists_color_of_moved colored) pos (fun p => (0, -p)) Prod.snd ?_
    fun l => rfl
  intro s hs
  have := columns s hs
  simp only [Location.shift]
  omega

theorem IsFigure.exists_rowPeriod :
    ∃ p, Patch.rowPeriod v = .ok (.int p) ∧
      IsLeast {p | (1 ≤ p ∧ p ≤ box.bottom - box.top + 1) ∧
        Repeats (Moved box.toOrigin.shift S) (-p, 0) fun l => 0 ≤ l.1} p := by
  obtain ⟨cells, hcells, figure⟩ := h.exists_toOrigin hbox
  have bounds := bounds_toOrigin hbox
  have rows : ∀ s, Moved box.toOrigin.shift S s → 0 ≤ s.place.1 ∧ s.place.1 ≤ box.bottom - box.top :=
    fun s hs => bounds.row_mem ⟨s, hs, rfl⟩
  have pos : 1 ≤ box.bottom - box.top + 1 := by
    obtain ⟨_, s, hs, -⟩ := bounds.exists_location
    have := rows s hs
    omega
  rw [Patch.rowPeriod, hcells, Outcome.ok_bind, figure.height bounds, Outcome.ok_bind, Int.sub_zero]
  refine figure.exists_leastBelow (fun s => exists_color_of_moved colored) pos (fun p => (-p, 0)) Prod.fst ?_
    fun l => rfl
  intro s hs
  have := rows s hs
  simp only [Location.shift]
  omega

/-- The period of the rows is that of the columns of the flipped object. -/
theorem IsFigure.exists_period_transpose :
    ∃ flipped q, Grid.transpose v = .ok flipped ∧ Patch.rowPeriod v = .ok (.int q) ∧
      Patch.columnPeriod flipped = .ok (.int q) := by
  obtain ⟨flipped, hflipped, figure⟩ := h.exists_transpose hbox
  obtain ⟨q, hq, least⟩ := h.exists_rowPeriod hbox colored
  obtain ⟨p, hp, least'⟩ := figure.exists_columnPeriod (bounds_moved hbox .diagonal) fun s =>
    exists_color_of_moved colored
  refine ⟨flipped, q, hflipped, hq, ?_⟩
  -- At the origin, the flip exchanges rows and columns.
  have swap : Moved ((Flip.diagonal.newBox box).toOrigin.shift) (Moved (Flip.diagonal.place box) S) =
      Moved Prod.swap (Moved box.toOrigin.shift S) := by
    rw [moved_comp, moved_comp]
    congr 1
    funext l
    refine Prod.ext ?_ ?_ <;>
      simp only [Flip.newBox, Flip.place, Box.toOrigin, Location.shift, Function.comp_apply, Prod.swap] <;> omega
  have extent : (Flip.diagonal.newBox box).right - (Flip.diagonal.newBox box).left = box.bottom - box.top := by
    simp only [Flip.newBox]
    omega
  have turned (p : Int) : Repeats (Moved Prod.swap (Moved box.toOrigin.shift S)) (0, -p) (fun l => 0 ≤ l.2) ↔
      Repeats (Moved box.toOrigin.shift S) (-p, 0) fun l => 0 ≤ l.1 :=
    repeats_moved Prod.swap_injective (fun _ => rfl) fun _ => Iff.rfl
  simp only [swap, extent, turned] at least'
  rw [hp, least'.unique least]

end

/-- In an object, a cell that has a place to its left after a number of columns repeats there. -/
theorem IsFigure.repeats_iff (h : cells.IsFigure N) (colored : ∀ s, N s → ∃ c, s.color = some c) {p : Int} :
    Repeats N (0, -p) (fun l => 0 ≤ l.2) ↔ ∀ c i j, .pair c (.location i j) ∈ cells → p ≤ j →
      Container.member (.pair c (.location i (j - p))) cells = .ok true := by
  have moved (c : Value) (i j : Int) :
      Value.pair c (.location i (j - p)) = (Spot.move (Location.shift (0, -p)) ⟨some c, (i, j)⟩).toValue := by
    simp [Spot.move, Location.shift, Spot.toValue, Location.toValue, Int.sub_eq_add_neg]
  constructor
  · intro repeats c i j mem reach
    obtain ⟨s, hs, same⟩ := (h.isSetOf.mem_iff _).mp mem
    obtain rfl : (⟨some c, (i, j)⟩ : Spot) = s := Spot.toValue_injective same
    have stay : 0 ≤ (Location.shift (0, -p) (i, j)).2 := by
      simp only [Location.shift]
      omega
    obtain ⟨r, hr, equal⟩ := repeats _ hs stay
    rw [h.isSetOf.member_iff, moved]
    exact ⟨_, ⟨r, hr, rfl⟩, equal⟩
  · intro found s hs stay
    obtain ⟨c, color⟩ := colored s hs
    obtain ⟨_, i, j⟩ := s
    subst color
    have reach : p ≤ j := by
      simp only [Location.shift] at stay
      omega
    have member := found c i j ((h.isSetOf.mem_iff _).mpr ⟨_, hs, rfl⟩) reach
    rw [h.isSetOf.member_iff, moved] at member
    obtain ⟨_, ⟨r, hr, rfl⟩, equal⟩ := member
    exact ⟨r, hr, equal⟩

end Value

/-! ## Periods of grids -/

namespace Board

open Value

/-- Each cell equals the one in its row whose column is the remainder by `p`. -/
def HasPeriod {α : Type} [Inhabited α] [BEq α] (b : Board α) (p : Int) : Prop :=
  1 ≤ p ∧ ∀ l, b.Inside l → (b.cell l == b.cell (l.1, l.2 % p)) = true

variable {b : Board Value} {p : Int}

theorem Inside.left {l : Location} (h : b.Inside l) (pos : 1 ≤ p) (reach : p ≤ l.2) :
    b.Inside (l.1, l.2 - p) :=
  ⟨h.1, Int.sub_nonneg_of_le reach, by have := h.2.2; dsimp only; omega⟩

/-- The cells of a board repeat if each of them equals the one `p` columns to its left. -/
theorem repeats_isSpot_iff (pos : 1 ≤ p) : Repeats b.IsSpot (0, -p) (fun l => 0 ≤ l.2) ↔
    ∀ l, b.Inside l → p ≤ l.2 → (b.cell l == b.cell (l.1, l.2 - p)) = true := by
  have place (l : Location) : Location.shift (0, -p) l = (l.1, l.2 - p) :=
    Prod.ext (Int.add_zero _) (Int.sub_eq_add_neg ..).symm
  constructor
  · intro repeats l inside reach
    obtain ⟨r, ⟨-, color⟩, equal⟩ := repeats ⟨some (b.cell l), l⟩ ⟨inside, rfl⟩ (by
      rw [place]
      exact Int.sub_nonneg_of_le reach)
    obtain ⟨same, there⟩ := Spot.toValue_beq_iff.mp equal
    replace there : Location.shift (0, -p) l = r.place := there
    rw [Spot.SameColor, color] at same
    rwa [← place, there]
  · intro step s hs stay
    obtain ⟨inside, color⟩ := hs
    have reach : p ≤ s.place.2 := by
      rw [place] at stay
      exact Int.le_of_sub_nonneg stay
    refine ⟨⟨some (b.cell (s.place.1, s.place.2 - p)), _⟩, ⟨inside.left pos reach, rfl⟩, ?_⟩
    refine Spot.toValue_beq_iff.mpr ⟨?_, place s.place⟩
    simp only [Spot.SameColor, Spot.move, color]
    exact step _ inside reach

/-- One step to the left is enough for a period. -/
theorem forall_step_iff (pos : 1 ≤ p) :
    (∀ l, b.Inside l → p ≤ l.2 → (b.cell l == b.cell (l.1, l.2 - p)) = true) ↔ b.HasPeriod p := by
  constructor
  · intro step
    refine ⟨pos, fun l inside => ?_⟩
    -- The induction is on the column, which a step makes smaller.
    obtain ⟨n, hn⟩ : ∃ n : Nat, l.2 = n := ⟨l.2.toNat, (Int.toNat_of_nonneg inside.2.1).symm⟩
    induction n using Nat.strong_induction_on generalizing l with
    | _ n ih =>
        by_cases reach : p ≤ l.2
        · have rest := ih (l.2 - p).toNat (by omega) (l.1, l.2 - p) (inside.left pos reach) (by dsimp only; omega)
          rw [Int.sub_emod_right] at rest
          exact BEq.trans (step l inside reach) rest
        · rw [Int.emod_eq_of_lt inside.2.1 (Int.not_le.mp reach)]
          exact BEq.rfl
  · intro periodic l inside reach
    have here := periodic.2 l inside
    have there := periodic.2 _ (inside.left pos reach)
    rw [Int.sub_emod_right] at there
    exact BEq.trans here (BEq.symm there)

/-- The period of the object of a board is the least one of the board. -/
theorem exists_columnPeriod (b : Board Value) :
    ∃ object p, Grid.gridObject b.toValue = .ok object ∧ Patch.columnPeriod object = .ok (.int p) ∧
      IsLeast {p | b.HasPeriod p} p ∧ p ≤ b.width := by
  obtain ⟨object, hobject, figure⟩ := b.exists_gridObject
  have colored : ∀ s, b.IsSpot s → ∃ c, s.color = some c := fun s hs => ⟨_, hs.2⟩
  obtain ⟨p, hp, ⟨⟨pos, bound⟩, repeats⟩, lower⟩ := figure.exists_columnPeriod b.bounds_box colored
  have origin : Moved b.box.toOrigin.shift b.IsSpot = b.IsSpot := by
    have still : b.box.toOrigin.shift = id := by
      funext l
      exact Prod.ext (Int.add_zero _) (Int.add_zero _)
    rw [still]
    exact funext fun s => propext moved_id
  have extent : b.box.right - b.box.left + 1 = b.width := by
    simp only [box]
    omega
  simp only [origin, extent] at bound repeats lower
  refine ⟨object, p, hobject, hp, ⟨(forall_step_iff pos).mp ((repeats_isSpot_iff pos).mp repeats), ?_⟩, bound⟩
  intro q periodic
  by_cases reach : q ≤ b.width
  · exact lower ⟨⟨periodic.1, reach⟩,
      (repeats_isSpot_iff periodic.1).mpr ((forall_step_iff periodic.1).mpr periodic)⟩
  · exact Int.le_trans bound (Int.le_of_lt (Int.not_le.mp reach))

end Board

namespace Value

/-- **The period of an object is the least number of columns after which it repeats.** For an object that is not
empty, and its form at the origin, the period of its columns is the least number, from one up to its width, such
that each cell with that many columns to its left is found again there. The period of its rows is the period of
the columns of the object flipped along the diagonal. For the object of a grid, the period of the columns is the
least number such that each cell of the grid equals the one in its row whose column is the remainder by that
number. -/
theorem periods_of_objects_and_grids :
    (∀ (o : Value) (S : Spot → Prop), o.IsFigure S → (∃ s, S s) → (∀ s, S s → ∃ c, s.color = some c) →
      ∃ normal w p flipped q, Patch.toOrigin o = .ok normal ∧ Patch.width o = .ok w ∧
        Patch.columnPeriod o = .ok (.int p) ∧
        IsLeast {p | (1 ≤ p ∧ p ≤ w) ∧ ∀ c i j, .pair c (.location i j) ∈ normal → p ≤ j →
          Container.member (.pair c (.location i (j - p))) normal = .ok true} p ∧
        Grid.transpose o = .ok flipped ∧ Patch.rowPeriod o = .ok (.int q) ∧
        Patch.columnPeriod flipped = .ok (.int q)) ∧
    ∀ g : Board Value, ∃ object p, Grid.gridObject g.toValue = .ok object ∧
      Patch.columnPeriod object = .ok (.int p) ∧
      IsLeast {p | 1 ≤ p ∧ ∀ l, g.Inside l → (g.cell l == g.cell (l.1, l.2 % p)) = true} p := by
  constructor
  · intro o S h some colored
    obtain ⟨box, hbox⟩ := h.exists_bounds some
    obtain ⟨normal, hnormal, figure⟩ := h.exists_toOrigin hbox
    obtain ⟨p, hp, least⟩ := h.exists_columnPeriod hbox colored
    obtain ⟨flipped, q, hflipped, hq, hq'⟩ := h.exists_period_transpose hbox colored
    refine ⟨normal, _, p, flipped, q, hnormal, h.width hbox, hp, ?_, hflipped, hq, hq'⟩
    simpa only [figure.repeats_iff fun s => exists_color_of_moved colored] using least
  · intro g
    obtain ⟨object, p, hobject, hp, least, -⟩ := g.exists_columnPeriod
    exact ⟨object, p, hobject, hp, least⟩

theorem periods_of_hook :
    (setOf (hook.map Spot.toValue)).IsFigure (· ∈ hook) ∧ (∃ s, s ∈ hook) ∧
    (∀ s ∈ hook, ∃ c, s.color = some c) ∧
    ∃ flipped q, Patch.columnPeriod (setOf (hook.map Spot.toValue)) = .ok (.int 3) ∧
      Grid.transpose (setOf (hook.map Spot.toValue)) = .ok flipped ∧
      Patch.rowPeriod (setOf (hook.map Spot.toValue)) = .ok (.int q) ∧
      Patch.columnPeriod flipped = .ok (.int q) := by
  have some : ∃ s, s ∈ hook := ⟨_, List.mem_cons_self⟩
  have colored : ∀ s ∈ hook, ∃ c, s.color = .some c := by simp [hook]
  refine ⟨isFigure_hook, some, colored, ?_⟩
  obtain ⟨normal, w, p, flipped, q, hnormal, hw, hp, ⟨⟨⟨pos, -⟩, again⟩, lower⟩, hflipped, hq, hq'⟩ :=
    periods_of_objects_and_grids.1 _ _ isFigure_hook some colored
  obtain ⟨normal', hnormal', figure⟩ := isFigure_hook.exists_toOrigin bounds_hook
  obtain rfl : normal = normal' := Except.ok.inj (hnormal.symm.trans hnormal')
  obtain rfl : 4 = w := by simpa using (isFigure_hook.width bounds_hook).symm.trans hw
  -- The cell in the last column meets an equal one in the first column, and none before.
  have upper : p ≤ 3 := by
    refine lower ⟨by decide, (figure.repeats_iff fun s => exists_color_of_moved colored).mp ?_⟩
    intro s hs stay
    obtain ⟨r, hr, rfl⟩ := hs
    simp only [hook, List.mem_cons, List.not_mem_nil, or_false] at hr
    obtain rfl | rfl | rfl := hr
    · exact absurd stay (by decide)
    · exact absurd stay (by decide)
    · exact ⟨_, ⟨⟨.some (.int 5), (-1, 4)⟩, by simp [hook], rfl⟩, by decide⟩
  have last : Value.pair (.int 5) (.location 1 3) ∈ normal :=
    (figure.isSetOf.mem_iff _).mpr ⟨_, ⟨⟨.some (.int 5), (-1, 7)⟩, by simp [hook], rfl⟩, rfl⟩
  have member := again _ _ _ last upper
  obtain ⟨_, ⟨_, ⟨r, hr, rfl⟩, rfl⟩, equal⟩ := figure.isSetOf.member_iff.mp member
  obtain ⟨-, place⟩ := (Spot.toValue_beq_iff (r := ⟨.some (.int 5), (1, 3 - p)⟩)).mp equal
  obtain rfl : 3 = p := by
    simp only [hook, List.mem_cons, List.not_mem_nil, or_false] at hr
    obtain rfl | rfl | rfl := hr <;>
      simp [Spot.move, Location.shift, Box.toOrigin] at place <;> omega
  exact ⟨flipped, q, hp, hflipped, hq, hq'⟩

end Value

end GridPuzzle
