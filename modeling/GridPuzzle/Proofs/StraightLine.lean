import GridPuzzle.Proofs.TargetedWrite

/-!
# Lines and rays

A line between two locations of one row, of one column or of one diagonal is put together from runs of numbers, one of
them taken from its end for a diagonal that rises. Whichever case it is, it holds the locations that equal steps from
the one end towards the other lead to (`Location.mem_line_iff`), and it does not depend on which end comes first
(`Location.line_comm`).

A ray is a line of 42 steps. On a board of at most 43 rows and columns this is far enough: a location of the board
ahead of another one is reached within 42 steps (`Board.ahead_within_iff`).
-/

namespace GridPuzzle

/-! ## Runs of numbers -/

namespace Table

variable {start stop start' stop' m n x : Int} {l : Location}

/-- Two runs of numbers, as long as each other, side by side. -/
theorem mem_zipWith_upTo (length : stop - start = stop' - start') :
    l ∈ List.zipWith Prod.mk (upTo start stop) (upTo start' stop') ↔
      l.1 ∈ upTo start stop ∧ l.2 - start' = l.1 - start := by
  rw [mem_upTo, upTo, upTo, length, List.zipWith_map, List.zipWith_self, List.mem_map]
  simp only [List.mem_range]
  constructor
  · intro h
    rcases h with ⟨k, hk, rfl⟩
    simp only
    omega
  · intro h
    refine ⟨(l.1 - start).toNat, by omega, Prod.ext ?_ ?_⟩ <;> simp only <;> omega

theorem reverse_upTo (start stop : Int) :
    (upTo start stop).reverse = (upTo (1 - stop) (1 - start)).map (- ·) := by
  have length : 1 - start - (1 - stop) = stop - start := by omega
  refine List.ext_getElem (by simp [upTo, length]) fun k hk hk' => ?_
  simp only [upTo, List.length_reverse, List.length_map, List.length_range] at hk
  simp only [upTo, List.getElem_reverse, List.getElem_map, List.getElem_range, List.length_map, List.length_range]
  omega

/-- The second run is taken from its end. -/
theorem mem_zipWith_reverse (length : stop - start = stop' - start') :
    l ∈ List.zipWith Prod.mk (upTo start stop) (upTo start' stop').reverse ↔
      l.1 ∈ upTo start stop ∧ stop' - 1 - l.2 = l.1 - start := by
  have turned : List.zipWith Prod.mk (upTo start stop) (upTo start' stop').reverse =
      (List.zipWith Prod.mk (upTo start stop) (upTo (1 - stop') (1 - start'))).map fun k => (k.1, -k.2) := by
    rw [reverse_upTo, List.zipWith_map_right, List.map_zipWith]
  rw [turned, List.mem_map]
  constructor
  · intro h
    rcases h with ⟨k, hk, rfl⟩
    rw [mem_zipWith_upTo (by omega)] at hk
    exact ⟨hk.1, by simp only; omega⟩
  · intro h
    refine ⟨(l.1, -l.2), (mem_zipWith_upTo (by omega)).mpr ⟨h.1, ?_⟩, Prod.ext rfl (Int.neg_neg _)⟩
    simp only
    omega

/-- The numbers between two are those that steps lead to from the one towards the other. -/
theorem mem_upTo_min_max : x ∈ upTo (min m n) (max m n + 1) ↔
    ∃ t : Nat, t ≤ (n - m).natAbs ∧ x = m + (n - m).sign * t := by
  rw [mem_upTo]
  rcases Int.lt_trichotomy m n with before | same | after
  · rw [Int.sign_eq_one_of_pos (by omega)]
    refine ⟨fun h => ⟨(x - m).toNat, by omega, by omega⟩, fun h => ?_⟩
    rcases h with ⟨t, ht, rfl⟩
    omega
  · subst same
    simp only [Int.sub_self, Int.sign_zero, Int.zero_mul, Int.add_zero]
    refine ⟨fun h => ⟨0, Nat.zero_le _, by omega⟩, fun h => ?_⟩
    rcases h with ⟨t, -, rfl⟩
    omega
  · rw [Int.sign_eq_neg_one_of_neg (by omega)]
    refine ⟨fun h => ⟨(m - x).toNat, by omega, by omega⟩, fun h => ?_⟩
    rcases h with ⟨t, ht, rfl⟩
    omega

end Table

/-! ## Lines -/

namespace Location

variable {a b d l : Location}

/-- The locations lie in one row, in one column or on one diagonal. -/
def Aligned (a b : Location) : Prop :=
  a.1 = b.1 ∨ a.2 = b.2 ∨ (b.1 - a.1).natAbs = (b.2 - a.2).natAbs

/-- The vector of one step towards another location, in its row and in its column. -/
def stepToward (a b : Location) : Location :=
  ((b.1 - a.1).sign, (b.2 - a.2).sign)

/-- The number of rows or the number of columns from one location to another, whichever is greater. -/
def reach (a b : Location) : Nat :=
  max (b.1 - a.1).natAbs (b.2 - a.2).natAbs

/-- Steps from the first location towards the second one lead to the third, not further than the second. -/
def Between (a b l : Location) : Prop :=
  ∃ t : Nat, t ≤ a.reach b ∧ l = ((a.stepToward b).times t).shift a

theorem line_comm (a b : Location) : line a b = line b a := by
  simp only [line, min_comm b.1, max_comm b.1, min_comm b.2, max_comm b.2, eq_comm (a := b.1), eq_comm (a := b.2)]
  have down : b.1 - a.1 = b.2 - a.2 ↔ a.1 - b.1 = a.2 - b.2 := by omega
  have up : b.1 - a.1 = a.2 - b.2 ↔ a.1 - b.1 = b.2 - a.2 := by omega
  by_cases row : a.1 = b.1
  · rw [if_pos row, if_pos row, row]
  · by_cases column : a.2 = b.2
    · rw [if_neg row, if_neg row, if_pos column, if_pos column, column]
    · simp only [if_neg row, if_neg column, down, up]

theorem between_iff : Between a b l ↔ ∃ t : Nat, t ≤ a.reach b ∧
    l.1 = a.1 + (b.1 - a.1).sign * t ∧ l.2 = a.2 + (b.2 - a.2).sign * t := by
  simp only [Between, Prod.ext_iff, shift, times, stepToward]

theorem between_of_row (row : a.1 = b.1) :
    Between a b l ↔ l.2 ∈ Table.upTo (min a.2 b.2) (max a.2 b.2 + 1) ∧ l.1 = a.1 := by
  simp only [between_iff, reach, row, Int.sub_self, Int.natAbs_zero, Int.sign_zero, Int.zero_mul, Int.add_zero,
    Nat.zero_max, Table.mem_upTo_min_max]
  constructor
  · intro h
    rcases h with ⟨t, ht, same, way⟩
    exact ⟨⟨t, ht, way⟩, same⟩
  · intro h
    rcases h with ⟨⟨t, ht, way⟩, same⟩
    exact ⟨t, ht, same, way⟩

/-- If there are at least as many rows on the way as columns, the rows count the steps, and a condition on the column is
left. -/
theorem between_iff_of_rows {R : Prop} (rows : a.reach b = (b.1 - a.1).natAbs)
    (column : ∀ t : Nat, l.1 = a.1 + (b.1 - a.1).sign * t → (l.2 = a.2 + (b.2 - a.2).sign * t ↔ R)) :
    Between a b l ↔ l.1 ∈ Table.upTo (min a.1 b.1) (max a.1 b.1 + 1) ∧ R := by
  rw [between_iff, rows, Table.mem_upTo_min_max]
  constructor
  · intro h
    rcases h with ⟨t, ht, way, rest⟩
    exact ⟨⟨t, ht, way⟩, (column t way).mp rest⟩
  · intro h
    rcases h with ⟨⟨t, ht, way⟩, rest⟩
    exact ⟨t, ht, way, (column t way).mpr rest⟩

theorem between_of_column (column : a.2 = b.2) :
    Between a b l ↔ l.1 ∈ Table.upTo (min a.1 b.1) (max a.1 b.1 + 1) ∧ l.2 = a.2 :=
  between_iff_of_rows (by simp [reach, column]) fun t _ => by simp [column]

theorem between_of_diagonal (diagonal : b.1 - a.1 = b.2 - a.2) :
    Between a b l ↔ l.1 ∈ Table.upTo (min a.1 b.1) (max a.1 b.1 + 1) ∧ l.2 - a.2 = l.1 - a.1 := by
  refine between_iff_of_rows (by rw [reach, ← diagonal, Nat.max_self]) fun t way => ?_
  rw [← diagonal]
  omega

theorem between_of_antidiagonal (diagonal : b.1 - a.1 = a.2 - b.2) :
    Between a b l ↔ l.1 ∈ Table.upTo (min a.1 b.1) (max a.1 b.1 + 1) ∧ a.2 - l.2 = l.1 - a.1 := by
  have turned : b.2 - a.2 = -(b.1 - a.1) := by omega
  refine between_iff_of_rows (by rw [reach, turned, Int.natAbs_neg, Nat.max_self]) fun t way => ?_
  rw [turned, Int.sign_neg, Int.neg_mul]
  omega

/-- A line holds the locations between its ends, if these are aligned, and else none. -/
theorem mem_line_iff : l ∈ line a b ↔ a.Aligned b ∧ Between a b l := by
  unfold line
  split_ifs with row column diagonal antidiagonal
  · rw [Value.mem_map_row, between_of_row row]
    exact (and_iff_right (.inl row)).symm
  · rw [Value.mem_map_column, between_of_column column]
    exact (and_iff_right (.inr (.inl column))).symm
  · have aligned : a.Aligned b := .inr (.inr (congrArg Int.natAbs diagonal))
    rw [Table.mem_zipWith_upTo (by omega), between_of_diagonal diagonal, and_iff_right aligned]
    exact and_congr_right fun _ => by omega
  · have aligned : a.Aligned b := .inr (.inr (by omega))
    rw [Table.mem_zipWith_reverse (by omega), between_of_antidiagonal antidiagonal, and_iff_right aligned]
    exact and_congr_right fun _ => by omega
  · have apart : ¬ a.Aligned b := by
      unfold Aligned
      omega
    simp [apart]

/-! ## Rays -/

/-- The vector leads at most one row and one column away. -/
def IsDirection (d : Location) : Prop :=
  d.1 ∈ [-1, 0, 1] ∧ d.2 ∈ [-1, 0, 1]

/-- Steps along a vector lead from one location to another. -/
def Ahead (d start l : Location) : Prop :=
  ∃ t : Nat, l = (d.times t).shift start

theorem ray_toValue (start d : Location) :
    Patch.ray start.toValue d.toValue = Patch.line start.toValue ((d.times 42).shift start).toValue := by
  simp only [times, Int.mul_comm _ ((42 : Nat) : Int)]
  rfl

theorem shift_times_origin (start : Location) (t : Nat) : (times t (0, 0)).shift start = start := by
  simp [shift, times]

theorem sign_mul_natCast {n : Int} (h : n ∈ [-1, 0, 1]) (count : Nat) : (n * (count + 1 : Nat)).sign = n := by
  rw [Int.sign_mul, Int.sign_natCast_of_ne_zero (Nat.succ_ne_zero count), Int.mul_one]
  revert n
  decide

theorem eq_zero_or_natAbs_eq_one {n : Int} (h : n ∈ [-1, 0, 1]) : n = 0 ∨ n.natAbs = 1 := by
  revert n
  decide

section

variable (direction : d.IsDirection) (start : Location)
include direction

theorem stepToward_ahead (count : Nat) : start.stepToward ((d.times (count + 1)).shift start) = d := by
  simp only [stepToward, shift, times, add_sub_cancel_left, sign_mul_natCast direction.1,
    sign_mul_natCast direction.2]

theorem aligned_ahead (count : Nat) : start.Aligned ((d.times count).shift start) := by
  rcases eq_zero_or_natAbs_eq_one direction.1 with row | row
  · exact .inl (by simp [shift, times, row])
  · rcases eq_zero_or_natAbs_eq_one direction.2 with column | column
    · exact .inr (.inl (by simp [shift, times, column]))
    · exact .inr (.inr (by simp [shift, times, Int.natAbs_mul, row, column]))

theorem reach_ahead (moves : d ≠ (0, 0)) (count : Nat) : start.reach ((d.times count).shift start) = count := by
  rcases eq_zero_or_natAbs_eq_one direction.1 with row | row <;>
    rcases eq_zero_or_natAbs_eq_one direction.2 with column | column
  · exact absurd (Prod.ext row column) moves
  all_goals simp [reach, shift, times, Int.natAbs_mul, row, column]

/-- A ray holds the locations that up to 42 steps lead to. -/
theorem mem_ray_iff :
    l ∈ line start ((d.times 42).shift start) ↔ ∃ t : Nat, t ≤ 42 ∧ l = (d.times t).shift start := by
  rw [mem_line_iff, and_iff_right (aligned_ahead direction start 42), Between, stepToward_ahead direction start 41]
  by_cases moves : d = (0, 0)
  · -- No step leads away from the start, so that it is the whole ray.
    subst moves
    simp only [shift_times_origin, exists_and_right]
    exact and_congr_left' ⟨fun _ => ⟨0, Nat.zero_le _⟩, fun _ => ⟨0, Nat.zero_le _⟩⟩
  · rw [reach_ahead direction start moves]

end

end Location

open Location Value

namespace Board

variable {g : Board Value} {start d l : Location}

section

variable (rows : g.height ≤ 43) (columns : g.width ≤ 43) (inside : g.Inside start)
include rows columns inside

theorem reach_le (inside' : g.Inside l) : start.reach l ≤ 42 := by
  unfold Inside at inside inside'
  unfold reach
  omega

/-- On a small board a location ahead of another one is reached within 42 steps. -/
theorem ahead_within_iff (direction : d.IsDirection) (inside' : g.Inside l) :
    (∃ t : Nat, t ≤ 42 ∧ l = (d.times t).shift start) ↔ d.Ahead start l := by
  constructor
  · intro h
    rcases h with ⟨t, -, rfl⟩
    exact ⟨t, rfl⟩
  · intro h
    rcases h with ⟨t, rfl⟩
    by_cases moves : d = (0, 0)
    · subst moves
      exact ⟨0, Nat.zero_le _, by rw [shift_times_origin, shift_times_origin]⟩
    · have near := reach_le rows columns inside inside'
      rw [reach_ahead direction start moves] at near
      exact ⟨t, near, rfl⟩

/-- A filled ray recolors what lies ahead of its start. -/
theorem exists_fill_ray (direction : d.IsDirection) (color : Value) :
    ∃ ray out, Patch.ray start.toValue d.toValue = .ok ray ∧ g.Wrote (Dyed color (d.Ahead start)) out ∧
      Grid.fill g.toValue color ray = .ok out.toValue ∧
      ray.InEveryOrder (Grid.fill g.toValue color) out.toValue := by
  have places : (setOf ((line start ((d.times 42).shift start)).map Location.toValue)).IsLocationSet
      fun l => ∃ t : Nat, t ≤ 42 ∧ l = (d.times t).shift start :=
    isLocationSet_setOf fun l => mem_ray_iff direction start
  rcases exists_fill_toValue places color g with ⟨out, wrote, fills⟩
  refine ⟨_, out, (ray_toValue start d).trans (line_toValue ..), wrote.congr fun c l inside' => ?_,
    fills _ (IsSetOf.isOrderingOf_self places), fills⟩
  rw [dyed_iff, dyed_iff, ahead_within_iff rows columns inside direction inside']

end

/-- **Lines run straight from end to end, and rays up to the edge.** The line between two locations is the same
whichever of them comes first. If they lie in one row, in one column or on one diagonal it holds the locations that
equal steps from the first one towards the second lead to, both ends included, and else it is empty. On a board of at
most 43 rows and 43 columns, filling a ray that starts on the board, in any of the eight directions or in none, recolors
exactly the cells ahead of the start, in whatever order they are visited. -/
theorem lines_run_straight_and_rays_to_the_edge :
    (∀ a b : Location, ∃ line, Patch.line a.toValue b.toValue = .ok line ∧ Patch.line b.toValue a.toValue = .ok line ∧
      (a.Aligned b → line.IsLocationSet fun l =>
        ∃ t : Nat, t ≤ a.reach b ∧ l = ((a.stepToward b).times t).shift a) ∧
      (¬ a.Aligned b → line = .set [])) ∧
    ∀ (g : Board Value) (color : Value) (start d : Location), g.height ≤ 43 → g.width ≤ 43 → g.Inside start →
      d.IsDirection → ∃ (ray : Value) (out : Board Value), Patch.ray start.toValue d.toValue = .ok ray ∧
        Grid.fill g.toValue color ray = .ok out.toValue ∧
        ray.InEveryOrder (Grid.fill g.toValue color) out.toValue ∧ out.height = g.height ∧ out.width = g.width ∧
        ∀ l, g.Inside l → (d.Ahead start l → out.cell l = color) ∧ (¬ d.Ahead start l → out.cell l = g.cell l) := by
  constructor
  · intro a b
    refine ⟨_, line_toValue a b, line_comm a b ▸ line_toValue b a, fun aligned => ?_, fun apart => ?_⟩
    · exact isLocationSet_setOf fun l => mem_line_iff.trans (and_iff_right aligned)
    · have empty : line a b = [] :=
        List.eq_nil_iff_forall_not_mem.mpr fun l hl => apart (mem_line_iff.mp hl).1
      rw [empty, List.map_nil, setOf_nil]
  · intro g color start d rows columns inside direction
    rcases exists_fill_ray rows columns inside direction color with ⟨ray, out, hray, wrote, heq, fills⟩
    refine ⟨ray, out, hray, heq, fills, wrote.height, wrote.width, fun l inside' => ⟨fun ahead => ?_, fun behind => ?_⟩⟩
    · exact wrote.written color l inside' ⟨rfl, ahead⟩
    · exact wrote.kept l inside' fun c spot => behind spot.2

/-- A ray that leaves the strip through its upper right corner, and a line that rises to the right. -/
theorem ray_through_corner_of_strip :
    strip.height ≤ 43 ∧ strip.width ≤ 43 ∧ strip.Inside (1, 5) ∧ IsDirection (-1, 1) ∧ Aligned (4, 0) (2, 2) ∧
    (∃ line, Patch.line (.location 4 0) (.location 2 2) = .ok line ∧
      Patch.line (.location 2 2) (.location 4 0) = .ok line ∧ Value.location 3 1 ∈ line) ∧
    ∃ (ray : Value) (out : Board Value), Patch.ray (.location 1 5) (.location (-1) 1) = .ok ray ∧
      Grid.fill strip.grid (.int 3) ray = .ok out.toValue ∧ out.cell (1, 5) = .int 3 ∧ out.cell (0, 6) = .int 3 ∧
      out.cell (0, 5) = .int 0 := by
  have direction : IsDirection (-1, 1) := ⟨by decide, by decide⟩
  have aligned : Aligned (4, 0) (2, 2) := .inr (.inr rfl)
  rcases lines_run_straight_and_rays_to_the_edge with ⟨lines, rays⟩
  refine ⟨by decide, by decide, by decide, direction, aligned, ?_, ?_⟩
  · rcases lines (4, 0) (2, 2) with ⟨line, there, back, places, -⟩
    exact ⟨line, there, back, (places aligned).toValue_mem_iff.mpr ⟨1, by decide, rfl⟩⟩
  · rcases rays (strip.map .int) (.int 3) (1, 5) (-1, 1) (by decide) (by decide) (by decide) direction with
      ⟨ray, out, hray, fills, -, -, -, cells⟩
    refine ⟨ray, out, hray, fills, (cells (1, 5) (by decide)).1 ⟨0, rfl⟩, (cells (0, 6) (by decide)).1 ⟨1, rfl⟩, ?_⟩
    refine (cells (0, 5) (by decide)).2 fun ahead => ?_
    rcases ahead with ⟨t, ht⟩
    simp only [shift, times, Prod.mk.injEq] at ht
    omega

end Board

end GridPuzzle
