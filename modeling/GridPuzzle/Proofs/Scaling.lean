import GridPuzzle.Proofs.Occurrence
import GridPuzzle.Proofs.RectangularGrid

/-!
# Scaled grids

A scaled board is another board seen through a map of locations: the cell at a location is the cell of the other
board at the image of the location, and a location is on the one board if its image is on the other
(`Board.Samples`). An enlarged board is seen through the division by the factor, a shrunken one through the
multiplication by it. As the map gives the scaled board (`Board.Samples.unique`), the laws of scaling are laws of
these maps.
-/

namespace GridPuzzle

/-! ## Repeated and selected items -/

namespace Table

variable {α : Type}

/-- The items of a list, each of them repeated. -/
def stretch (k : Nat) (xs : List α) : List α :=
  (xs.map (List.replicate k)).flatten

theorem length_stretch (k : Nat) (xs : List α) : (stretch k xs).length = xs.length * k :=
  Value.length_flatten_replicate k xs

theorem map_stretch {β : Type} (f : α → β) (k : Nat) (xs : List α) :
    (stretch k xs).map f = (xs.map fun x => List.replicate k (f x)).flatten := by
  simp only [stretch, List.map_flatten, List.map_map, Function.comp_def, List.map_replicate]

theorem getElem?_stretch {k : Nat} (pos : 0 < k) (xs : List α) (i : Nat) : (stretch k xs)[i]? = xs[i / k]? := by
  induction xs generalizing i with
  | nil => rfl
  | cons x xs ih =>
      have first : stretch k (x :: xs) = List.replicate k x ++ stretch k xs := rfl
      by_cases inFirst : i < k
      · rw [first, List.getElem?_append_left (by rwa [List.length_replicate]), Nat.div_eq_of_lt inFirst,
          List.getElem?_replicate_of_lt inFirst]
        rfl
      · have behind : k ≤ i := Nat.not_lt.mp inFirst
        rw [first, List.getElem?_append_right (by rwa [List.length_replicate]), List.length_replicate, ih,
          Nat.div_eq_sub_div pos behind, List.getElem?_cons_succ]

/-- The values of a function at the multiples of a number below another one. -/
theorem filterMap_multiples (f : Nat → α) (k : Nat) {n : Nat} (some : 0 < n) :
    (List.range n).filterMap (fun i => if k ∣ i then Option.some (f i) else none) =
      (List.range ((n - 1) / k + 1)).map fun i => f (i * k) := by
  induction n, some using Nat.le_induction with
  | base => simp
  | succ n some ih =>
      have shorter : n - 1 + 1 = n := Nat.sub_add_cancel some
      rw [List.range_succ, List.filterMap_append, ih, Nat.add_sub_cancel]
      by_cases multiple : k ∣ n
      · have next : n / k = (n - 1) / k + 1 := by rw [← shorter, Nat.succ_div, shorter, if_pos multiple]
        have last : ((n - 1) / k + 1) * k = n := by rw [← next, Nat.div_mul_cancel multiple]
        rw [next, List.range_succ (n := (n - 1) / k + 1), List.map_append]
        simp [multiple, last]
      · have same : n / k = (n - 1) / k := by rw [← shorter, Nat.succ_div, shorter, if_neg multiple, Nat.add_zero]
        rw [same]
        simp [multiple]

theorem indexed_map_range (f : Nat → α) (n : Nat) :
    indexed ((List.range n).map f) = (List.range n).map fun i => (i, f i) := by
  refine List.ext_getElem (by simp [indexed]) fun i hi hi' => ?_
  simp [indexed]

end Table

namespace Value

variable {k : Nat}

theorem mod_natCast (pos : 0 < k) (j : Nat) : mod (.int j) (.int k) = .ok (.int (j % k : Nat)) := by
  have remainder : mod (.int j) (.int k) =
      if (k : Int) = 0 then .error .divisionByZero else .ok (.int (Int.fmod j k)) := rfl
  have nonzero : (k : Int) ≠ 0 := by omega
  rw [remainder, if_neg nonzero, Int.fmod_eq_emod_of_nonneg _ (Int.natCast_nonneg k), ← Int.natCast_emod]

theorem remainder_beq_zero (j : Nat) : (int (j % k : Nat) == int 0) = decide (k ∣ j) := by
  rw [int_beq_int, decide_eq_decide, Nat.dvd_iff_mod_eq_zero, Int.natCast_eq_zero]

end Value

/-! ## Boards seen through a map -/

namespace Location

/-- The location divided by a number, rounded down. -/
def quotient (k : Int) (l : Location) : Location :=
  (l.1 / k, l.2 / k)

/-- The location multiplied by a number. -/
def multiple (k : Int) (l : Location) : Location :=
  (l.1 * k, l.2 * k)

theorem quotient_multiple {k : Int} (pos : 1 ≤ k) (l : Location) : quotient k (multiple k l) = l :=
  Prod.ext (Int.mul_ediv_cancel _ (by omega)) (Int.mul_ediv_cancel _ (by omega))

theorem quotient_comp_quotient (a : Int) {b : Int} (pos : 1 ≤ b) : quotient a ∘ quotient b = quotient (a * b) := by
  funext l
  have nonneg : 0 ≤ b := by omega
  rw [Int.mul_comm]
  exact Prod.ext (Int.ediv_ediv_of_nonneg nonneg) (Int.ediv_ediv_of_nonneg nonneg)

theorem multiple_comp_multiple (a b : Int) : multiple a ∘ multiple b = multiple (a * b) := by
  funext l
  rw [Int.mul_comm]
  exact Prod.ext (Int.mul_assoc ..) (Int.mul_assoc ..)

end Location

namespace Board

section

variable {α : Type} [Inhabited α] {b c d : Board α} {f f' : Location → Location}

/-- The second board is the first one seen through a map of locations. -/
structure Samples (b : Board α) (f : Location → Location) (c : Board α) : Prop where
  inside : ∀ l, c.Inside l ↔ b.Inside (f l)
  cell : ∀ l, c.Inside l → c.cell l = b.cell (f l)

theorem Samples.trans (h : b.Samples f c) (h' : c.Samples f' d) : b.Samples (f ∘ f') d where
  inside l := (h'.inside l).trans (h.inside (f' l))
  cell l hl := (h'.cell l hl).trans (h.cell (f' l) ((h'.inside l).mp hl))

/-- A map that the first one undoes leads back. -/
theorem Samples.back (h : b.Samples f c) (undoes : ∀ l, f (f' l) = l) : c.Samples f' b where
  inside l := by rw [h.inside, undoes]
  cell l hl := by
    have inside : c.Inside (f' l) := by rwa [h.inside, undoes]
    rw [h.cell _ inside, undoes]

omit [Inhabited α] in
/-- The locations of a board give its dimensions. -/
theorem le_of_inside (h : ∀ l, b.Inside l → c.Inside l) : b.height ≤ c.height ∧ b.width ≤ c.width := by
  have last : b.Inside (b.height - 1, b.width - 1) := by
    have height := b.height_pos
    have width := b.width_pos
    rw [Inside]
    omega
  rcases h _ last with ⟨⟨-, row⟩, -, column⟩
  omega

/-- The map gives the board that is seen through it. -/
theorem Samples.unique (h : b.Samples f c) (h' : b.Samples f d) : c = d := by
  have same (l : Location) : c.Inside l ↔ d.Inside l := (h.inside l).trans (h'.inside l).symm
  have le := le_of_inside fun l => (same l).mp
  have ge := le_of_inside fun l => (same l).mpr
  refine ext_cell (Nat.le_antisymm le.1 ge.1) (Nat.le_antisymm le.2 ge.2) fun l inside => ?_
  rw [h.cell l inside, h'.cell l ((same l).mp inside)]

/-! ## Repeated rows and columns -/

section

variable (b : Board α) {k : Nat} (pos : 0 < k)

omit [Inhabited α]

/-- The board with each column repeated. -/
def widen : Board α where
  rows := b.rows.map (Table.stretch k)
  width := b.width * k
  rows_ne_nil := fun empty => b.rows_ne_nil (List.map_eq_nil_iff.mp empty)
  width_pos := Nat.mul_pos b.width_pos pos
  length_row row hrow := by
    rcases List.mem_map.mp hrow with ⟨old, hold, rfl⟩
    rw [Table.length_stretch, b.length_row old hold]

/-- The board with each row repeated. -/
def heighten : Board α where
  rows := Table.stretch k b.rows
  width := b.width
  rows_ne_nil := by
    rw [← List.length_pos_iff, Table.length_stretch]
    exact Nat.mul_pos b.height_pos pos
  width_pos := b.width_pos
  length_row row hrow := b.length_row row (Value.mem_of_mem_flatten_replicate hrow)

@[simp] theorem height_widen : (b.widen pos).height = b.height :=
  List.length_map ..

@[simp] theorem width_widen : (b.widen pos).width = b.width * k :=
  rfl

@[simp] theorem height_heighten : (b.heighten pos).height = b.height * k :=
  Table.length_stretch ..

@[simp] theorem width_heighten : (b.heighten pos).width = b.width :=
  rfl

end

section

variable {k : Nat} {pos : 0 < k}

/-- A number divided by a positive one is below a bound if it is below the multiple of the bound. -/
theorem ediv_mem_iff (pos : 0 < k) {n : Nat} {i : Int} :
    (0 ≤ i ∧ i < (n * k : Nat)) ↔ 0 ≤ i / (k : Int) ∧ i / (k : Int) < n := by
  have pos' : 0 < (k : Int) := Int.natCast_pos.mpr pos
  rw [Int.ediv_nonneg_iff_of_pos pos', Int.ediv_lt_iff_lt_mul pos', Int.natCast_mul]

theorem toNat_ediv_natCast (i k : Nat) : ((i : Int) / (k : Int)).toNat = i / k := by
  rw [← Int.natCast_ediv, Int.toNat_natCast]

theorem samples_widen : b.Samples (fun l => (l.1, l.2 / (k : Int))) (b.widen pos) where
  inside l := by
    rw [Inside, height_widen, width_widen, ediv_mem_iff pos, Inside]
  cell l inside := by
    rcases inside.exists_natCast with ⟨i, j, -, -, rfl⟩
    simp only [cell, cell?, widen, Int.toNat_natCast, toNat_ediv_natCast, List.getElem?_map]
    cases b.rows[i]? with
    | none => rfl
    | some row => simp [Table.getElem?_stretch pos]

theorem samples_heighten : b.Samples (fun l => (l.1 / (k : Int), l.2)) (b.heighten pos) where
  inside l := by
    rw [Inside, height_heighten, width_heighten, ediv_mem_iff pos, Inside]
  cell l inside := by
    rcases inside.exists_natCast with ⟨i, j, -, -, rfl⟩
    simp only [cell, cell?, heighten, Int.toNat_natCast, toNat_ediv_natCast, Table.getElem?_stretch pos]

/-! ## Selected rows and columns -/

/-- The board of every `k`-th row and column. -/
def thin (b : Board α) (k : Nat) : Board α :=
  tabulate ((b.height - 1) / k + 1) ((b.width - 1) / k + 1) (Nat.succ_pos _) (Nat.succ_pos _)
    fun l => b.cell (l.multiple k)

/-- The multiples of a positive number below a bound. -/
theorem mul_mem_iff (pos : 0 < k) {n : Nat} (some : 0 < n) {i : Int} :
    (0 ≤ i ∧ i < ((n - 1) / k + 1 : Nat)) ↔ 0 ≤ i * (k : Int) ∧ i * (k : Int) < n := by
  have pos' : 0 < (k : Int) := Int.natCast_pos.mpr pos
  rw [mul_nonneg_iff_of_pos_right pos', Int.natCast_succ, Int.lt_add_one_iff, Int.natCast_ediv,
    Int.le_ediv_iff_mul_le pos', Int.natCast_sub some, Int.natCast_one, Int.le_sub_one_iff]

theorem samples_thin (pos : 0 < k) : b.Samples (Location.multiple k) (b.thin k) := by
  have inside_iff (l : Location) : (b.thin k).Inside l ↔ b.Inside (l.multiple k) := by
    have height : (b.thin k).height = (b.height - 1) / k + 1 := by simp [thin, tabulate, Board.height]
    have width : (b.thin k).width = (b.width - 1) / k + 1 := rfl
    rw [Inside, height, width, mul_mem_iff pos b.height_pos, mul_mem_iff pos b.width_pos]
    rfl
  refine ⟨inside_iff, fun l inside => cell_tabulate _ _ ((inside_tabulate_iff _ _).mp inside)⟩

end

end

/-! ## The grid operations -/

section

variable (b : Board Value) {k : Nat} (pos : 0 < k)

theorem stretchRow_natCast (k : Nat) (row : List Value) :
    Grid.stretchRow (.int k) (.tuple row) = .ok (.tuple (Table.stretch k row)) := by
  have cells : row.mapM (Grid.copies (.int k)) = (pure (row.map (List.replicate k)) : Outcome _) :=
    mapM_eq_pure_map fun _ _ => rfl
  rw [Grid.stretchRow, Value.items, Outcome.ok_bind, cells, Outcome.pure_eq_ok, Outcome.ok_bind]
  rfl

theorem stretchColumns_toValue : Grid.stretchColumns b.toValue (.int k) = .ok (b.widen pos).toValue := by
  rw [Grid.stretchColumns, items_toValue, Outcome.ok_bind, mapM_tuple _ (stretchRow_natCast k), Outcome.ok_bind]
  simp only [toValue, Value.ofRows, widen, List.map_map]
  rfl

theorem stretchRows_toValue : Grid.stretchRows b.toValue (.int k) = .ok (b.heighten pos).toValue := by
  have rows : (b.rows.map Value.tuple).mapM (Grid.copies (.int k)) =
      .ok (b.rows.map fun row => List.replicate k (Value.tuple row)) := mapM_tuple _ fun _ => rfl
  rw [Grid.stretchRows, items_toValue, Outcome.ok_bind, rows, Outcome.ok_bind, ← Table.map_stretch]
  rfl

theorem enlarge_toValue :
    Grid.enlarge b.toValue (.int k) = .ok ((b.widen pos).heighten pos).toValue := by
  have rows : ((b.rows.map Value.tuple).mapM fun row => do
      Grid.copies (.int k) (← Grid.stretchRow (.int k) row)) =
        .ok (b.rows.map fun row => List.replicate k (Value.tuple (Table.stretch k row))) := by
    refine mapM_tuple _ fun row => ?_
    rw [stretchRow_natCast, Outcome.ok_bind]
    rfl
  rw [toValue, Value.ofRows, Grid.enlarge, rows, Outcome.ok_bind]
  simp only [toValue, Value.ofRows, heighten, widen, Table.map_stretch, List.map_map, Function.comp_def]
  rfl

include pos

/-- The kept cells of a row. -/
theorem shrink_row {i : Nat} (hi : i < b.height) :
    (List.range b.width).filterMapM (fun (j : Nat) => do
      if (← Value.mod (.int j) (.int k)) == .int 0 then return some (← b.toValue.cell (.int i) (.int j))
      else return none) =
    (pure ((List.range ((b.width - 1) / k + 1)).map fun j => b.cell (i, (j * k : Nat))) : Outcome _) := by
  rw [← Table.filterMap_multiples (fun j => b.cell (i, j)) k b.width_pos]
  refine filterMapM_eq_pure_filterMap fun j hj => ?_
  have inside : b.Inside ((i : Int), (j : Int)) := b.inside_natCast hi (List.mem_range.mp hj)
  rw [Value.mod_natCast pos, Outcome.ok_bind, Value.remainder_beq_zero, cell_toValue inside]
  by_cases multiple : k ∣ j <;> simp [multiple]

/-- The cells are selected in every row, also in those that are dropped afterwards. -/
theorem shrink_toValue : Grid.shrink b.toValue (.int k) = .ok (b.thin k).toValue := by
  let row (i : Nat) : Value := .tuple ((List.range ((b.width - 1) / k + 1)).map fun j => b.cell (i, (j * k : Nat)))
  rw [Grid.shrink, dimensions_toValue, Outcome.ok_bind]
  dsimp only
  rw [mapM_eq_pure_map (g := row), Outcome.pure_eq_ok, Outcome.ok_bind, Table.indexed_map_range,
    filterMapM_map_eq_pure_filterMap (g := fun i => if k ∣ i then some (row i) else none),
    Table.filterMap_multiples row k b.height_pos]
  · simp [toValue, Value.ofRows, thin, tabulate, row, Location.multiple]
  · intro i hi
    dsimp only
    rw [Value.mod_natCast pos, Outcome.ok_bind, Value.remainder_beq_zero]
    simp
  · intro i hi
    rw [shrink_row b pos (List.mem_range.mp hi)]
    rfl

end

/-! ## Laws of scaling -/

section

variable (g : Board Value) {a : Int} (ha : 1 ≤ a)

include ha

omit g in
theorem exists_natCast_of_one_le : ∃ k : Nat, 0 < k ∧ a = k := by
  rcases Int.eq_ofNat_of_zero_le (by omega : 0 ≤ a) with ⟨k, rfl⟩
  exact ⟨k, by omega, rfl⟩

theorem exists_stretchColumns :
    ∃ c : Board Value, Grid.stretchColumns g.toValue (.int a) = .ok c.toValue ∧
      g.Samples (fun l => (l.1, l.2 / a)) c := by
  rcases exists_natCast_of_one_le ha with ⟨k, pos, rfl⟩
  exact ⟨g.widen pos, g.stretchColumns_toValue pos, samples_widen⟩

theorem exists_stretchRows :
    ∃ c : Board Value, Grid.stretchRows g.toValue (.int a) = .ok c.toValue ∧
      g.Samples (fun l => (l.1 / a, l.2)) c := by
  rcases exists_natCast_of_one_le ha with ⟨k, pos, rfl⟩
  exact ⟨g.heighten pos, g.stretchRows_toValue pos, samples_heighten⟩

theorem exists_enlarge :
    ∃ c : Board Value, Grid.enlarge g.toValue (.int a) = .ok c.toValue ∧ g.Samples (Location.quotient a) c := by
  rcases exists_natCast_of_one_le ha with ⟨k, pos, rfl⟩
  exact ⟨_, g.enlarge_toValue pos, samples_widen.trans samples_heighten⟩

theorem exists_shrink :
    ∃ c : Board Value, Grid.shrink g.toValue (.int a) = .ok c.toValue ∧ g.Samples (Location.multiple a) c := by
  rcases exists_natCast_of_one_le ha with ⟨k, pos, rfl⟩
  exact ⟨_, g.shrink_toValue pos, samples_thin pos⟩

variable {g} {c : Board Value}

theorem Samples.enlarge_eq (h : g.Samples (Location.quotient a) c) :
    Grid.enlarge g.toValue (.int a) = .ok c.toValue := by
  rcases g.exists_enlarge ha with ⟨d, enlarged, seen⟩
  rw [enlarged, seen.unique h]

theorem Samples.shrink_eq (h : g.Samples (Location.multiple a) c) :
    Grid.shrink g.toValue (.int a) = .ok c.toValue := by
  rcases g.exists_shrink ha with ⟨d, shrunken, seen⟩
  rw [shrunken, seen.unique h]

end

/-- Scaling by two factors one after the other is scaling by their product, shrinking undoes enlarging, and to
enlarge a grid is to repeat its columns and its rows, in either order. -/
theorem scaled_grids_compose (g : Board Value) {a b : Int} (ha : 1 ≤ a) (hb : 1 ≤ b) :
    ∃ up upUp down downDown wide tall : Board Value,
      (Grid.enlarge g.toValue (.int a) = .ok up.toValue ∧ g.Samples (Location.quotient a) up) ∧
      (Grid.shrink g.toValue (.int a) = .ok down.toValue ∧ g.Samples (Location.multiple a) down) ∧
      Grid.shrink up.toValue (.int a) = .ok g.toValue ∧
      (Grid.enlarge up.toValue (.int b) = .ok upUp.toValue ∧
        Grid.enlarge g.toValue (.int (a * b)) = .ok upUp.toValue) ∧
      (Grid.shrink down.toValue (.int b) = .ok downDown.toValue ∧
        Grid.shrink g.toValue (.int (a * b)) = .ok downDown.toValue) ∧
      (Grid.stretchColumns g.toValue (.int a) = .ok wide.toValue ∧
        Grid.stretchRows wide.toValue (.int a) = .ok up.toValue) ∧
      Grid.stretchRows g.toValue (.int a) = .ok tall.toValue ∧
        Grid.stretchColumns tall.toValue (.int a) = .ok up.toValue := by
  have product : 1 ≤ a * b := one_le_mul_of_one_le_of_one_le ha hb
  rcases g.exists_enlarge ha with ⟨up, enlarged, seenUp⟩
  rcases up.exists_enlarge hb with ⟨upUp, enlargedTwice, seenUpUp⟩
  rcases g.exists_shrink ha with ⟨down, shrunken, seenDown⟩
  rcases down.exists_shrink hb with ⟨downDown, shrunkenTwice, seenDownDown⟩
  rcases g.exists_stretchColumns ha with ⟨wide, widened, seenWide⟩
  rcases wide.exists_stretchRows ha with ⟨rowsLast, heightened, seenRowsLast⟩
  rcases g.exists_stretchRows ha with ⟨tall, heightened', seenTall⟩
  rcases tall.exists_stretchColumns ha with ⟨columnsLast, widened', seenColumnsLast⟩
  have back : up.Samples (Location.multiple a) g := seenUp.back (Location.quotient_multiple ha)
  have upAtOnce : g.Samples (Location.quotient (a * b)) upUp := by
    rw [← Location.quotient_comp_quotient a hb]
    exact seenUp.trans seenUpUp
  have downAtOnce : g.Samples (Location.multiple (a * b)) downDown := by
    rw [← Location.multiple_comp_multiple]
    exact seenDown.trans seenDownDown
  -- Both orders of repeating divide the row and the column.
  have rowsLast_eq : rowsLast = up := (seenWide.trans seenRowsLast).unique seenUp
  have columnsLast_eq : columnsLast = up := (seenTall.trans seenColumnsLast).unique seenUp
  subst rowsLast_eq columnsLast_eq
  exact ⟨_, upUp, down, downDown, wide, tall, ⟨enlarged, seenUp⟩, ⟨shrunken, seenDown⟩, back.shrink_eq ha,
    ⟨enlargedTwice, upAtOnce.enlarge_eq product⟩, ⟨shrunkenTwice, downAtOnce.shrink_eq product⟩,
    ⟨widened, heightened⟩, heightened', widened'⟩

/-- Four cells enlarged to sixteen and then threefold, as in one step to a grid of twelve rows. -/
theorem quarters_scaled_twice :
    (1 : Int) ≤ 2 ∧ (1 : Int) ≤ 3 ∧
    ∃ doubled sixfold : Board Value,
      doubled.toValue = Value.ofRows [[.int 0, .int 0, .int 1, .int 1], [.int 0, .int 0, .int 1, .int 1],
        [.int 2, .int 2, .int 3, .int 3], [.int 2, .int 2, .int 3, .int 3]] ∧
      Grid.enlarge quarters.toValue (.int 2) = .ok doubled.toValue ∧
      Grid.shrink doubled.toValue (.int 2) = .ok quarters.toValue ∧
      Grid.enlarge doubled.toValue (.int 3) = .ok sixfold.toValue ∧
      Grid.enlarge quarters.toValue (.int 6) = .ok sixfold.toValue := by
  have two : (1 : Int) ≤ 2 := by decide
  have three : (1 : Int) ≤ 3 := by decide
  rcases scaled_grids_compose quarters two three with
    ⟨doubled, sixfold, -, -, -, -, ⟨enlarged, -⟩, -, shrunken, ⟨enlargedTwice, atOnce⟩, -⟩
  exact ⟨two, three, doubled, sixfold, (Except.ok.inj enlarged).symm, enlarged, shrunken, enlargedTwice, atOnce⟩

end Board

end GridPuzzle
