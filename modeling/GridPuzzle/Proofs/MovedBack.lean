import GridPuzzle.Proofs.Landing
import GridPuzzle.Proofs.ObjectSymmetry
import GridPuzzle.Proofs.Occurrence

/-!
# Moving an object back

A move erases an object with the most frequent color before it paints the shifted object, and the move back
does the same on the new board. So the old board returns only if the most frequent color is still the same.
The cells that the object leaves get that color, and as many cells of it are painted over, however the old and
the new places overlap (`perm_map_of_exchange`). Hence the colors of the board are the same in another order
(`Board.Movable.perm_withMoved`), and a color that outnumbers all others still does (`Board.background_of_perm`).
-/

namespace GridPuzzle

/-! ## Exchanged values -/

/-- A list falls into the items with one property, those with only another one, and the rest. -/
theorem perm_filter_append {α : Type} (p q : α → Bool) (xs : List α) :
    (xs.filter q ++ (xs.filter (fun x => p x && !q x) ++ xs.filter fun x => !p x && !q x)).Perm xs := by
  have rest := List.filter_append_perm p (xs.filter fun x => !q x)
  rw [List.filter_filter, List.filter_filter] at rest
  exact (List.Perm.append_left _ rest).trans (List.filter_append_perm q xs)

/-- Two functions take the same values on a list, each as often. The one takes on the items with `q` the values
that the other one takes on the items with `p`, it has one value where only `p` holds, and the other one has
that value where only `q` holds. Elsewhere the functions agree. -/
theorem perm_map_of_exchange {α β : Type} {f g : α → β} {p q : α → Bool} {c : β} {xs : List α}
    (exchanged : ((xs.filter q).map f).Perm ((xs.filter p).map g))
    (left : ∀ x ∈ xs, p x = true → q x = false → f x = c)
    (entered : ∀ x ∈ xs, q x = true → p x = false → g x = c)
    (apart : ∀ x ∈ xs, p x = false → q x = false → f x = g x) : (xs.map f).Perm (xs.map g) := by
  let onlyP := xs.filter fun x => p x && !q x
  let onlyQ := xs.filter fun x => q x && !p x
  let rest := xs.filter fun x => !p x && !q x
  have split : (xs.filter q ++ (onlyP ++ rest)).Perm xs := perm_filter_append p q xs
  have split' : (xs.filter p ++ (onlyQ ++ rest)).Perm xs := by
    have swapped := perm_filter_append q p xs
    rwa [List.filter_congr (q := fun x => !p x && !q x) fun x _ => Bool.and_comm _ _] at swapped
  have left' : onlyP.map f = List.replicate onlyP.length c := by
    refine List.map_eq_replicate_iff.mpr fun x hx => ?_
    rcases List.mem_filter.mp hx with ⟨mem, only⟩
    rw [Bool.and_eq_true, Bool.not_eq_true'] at only
    exact left x mem only.1 only.2
  have entered' : onlyQ.map g = List.replicate onlyQ.length c := by
    refine List.map_eq_replicate_iff.mpr fun x hx => ?_
    rcases List.mem_filter.mp hx with ⟨mem, only⟩
    rw [Bool.and_eq_true, Bool.not_eq_true'] at only
    exact entered x mem only.1 only.2
  have apart' : rest.map f = rest.map g := by
    refine List.map_congr_left fun x hx => ?_
    rcases List.mem_filter.mp hx with ⟨mem, neither⟩
    rw [Bool.and_eq_true, Bool.not_eq_true', Bool.not_eq_true'] at neither
    exact apart x mem neither.1 neither.2
  -- As many items have only the one property as only the other one.
  have count : onlyP.length = onlyQ.length := by
    have equal := exchanged.length_eq
    have total := split.length_eq
    have total' := split'.length_eq
    simp only [List.length_map, List.length_append] at equal total total'
    omega
  refine (split.map f).symm.trans (List.Perm.trans ?_ (split'.map g))
  rw [List.map_append, List.map_append, List.map_append, List.map_append, left', entered', apart', count]
  exact exchanged.append_right _

/-- The items of some lists that equal one, counted list by list. -/
theorem foldl_count (rows : List (List Value)) (c : Value) (start : Nat) :
    (rows.map (·.count c)).foldl (· + ·) start = start + rows.flatten.count c := by
  induction rows generalizing start with
  | nil => rfl
  | cons row rows ih =>
      rw [List.map_cons, List.foldl_cons, ih, List.flatten_cons, List.count_append, Nat.add_assoc]

theorem Value.exists_color_of_colored {R : Int → Location → Prop} {s : Spot} (h : Colored R s) :
    ∃ c, s.color = some c := by
  rcases h with ⟨c, color, -⟩
  exact ⟨_, color⟩

namespace Board

open Value

variable {g g' : Board Int} {P : Location → Prop} {d : Location}

/-! ## Boards with the same colors -/

theorem countColor_toValue (b : Board Value) (c : Value) :
    Grid.countColor b.toValue c = .ok (.int (b.rows.flatten.count c : Nat)) := by
  have tuple : b.toValue.isTuple = true := rfl
  have counts : (b.rows.map Value.tuple).mapM (Grid.countIn c) = .ok (b.rows.map (·.count c)) :=
    mapM_tuple _ fun _ => rfl
  rw [Grid.countColor, tuple, if_pos rfl, items_toValue, Outcome.ok_bind, counts, Outcome.ok_bind, foldl_count,
    Nat.zero_add]
  rfl

theorem countColor_grid (g : Board Int) (c : Value) :
    Grid.countColor g.grid c = .ok (.int ((g.rows.flatten.map Value.int).count c : Nat)) := by
  rw [grid, countColor_toValue, flatten_map_int]

/-- It is enough to compare a color with the other colors of the board. -/
theorem hasMainColor_of_mem {c : Int} (mem : c ∈ g.rows.flatten)
    (most : ∀ c' ∈ g.rows.flatten, c' ≠ c → g.rows.flatten.count c' < g.rows.flatten.count c) : g.HasMainColor := by
  refine ⟨c, fun c' differ => ?_⟩
  by_cases there : c' ∈ g.rows.flatten
  · exact most c' there differ
  · rw [List.count_eq_zero_of_not_mem there]
    exact List.count_pos_iff.mpr mem

/-- If one color outnumbers all others, every color but the background is rarer than the background. -/
theorem HasMainColor.count_lt (main : g.HasMainColor) {c : Int} (differ : c ≠ g.background) :
    g.rows.flatten.count c < g.rows.flatten.count g.background := by
  rcases main with ⟨m, most⟩
  have mem : m ∈ g.rows.flatten := by
    have some := most (m + 1) (by omega)
    exact List.count_pos_iff.mp (Nat.zero_lt_of_lt some)
  have background : g.background = m := by
    refine background_eq_of_most mem fun c _ least => ?_
    by_contra other
    exact absurd (most c other) (Nat.not_lt.mpr least)
  rw [background] at differ ⊢
  exact most c differ

/-- Boards with the same colors, each as often, have the same background, if one color outnumbers all others. -/
theorem background_of_perm (main : g.HasMainColor) (perm : g'.rows.flatten.Perm g.rows.flatten) :
    g'.background = g.background := by
  refine background_eq_of_most (perm.mem_iff.mpr g.background_greatest.1) fun c _ least => ?_
  rw [perm.count_eq, perm.count_eq] at least
  by_contra differ
  exact absurd (main.count_lt differ) (Nat.not_lt.mpr least)

/-! ## Moving and moving back -/

/-- The cells at the locations with a property fit on the board after a move, and what they are moved onto has the
color of the background unless it is moved itself. -/
structure Movable (g : Board Int) (P : Location → Prop) (d : Location) : Prop where
  inside : ∀ l, P l → g.Inside l
  inside_shift : ∀ l, P l → g.Inside (d.shift l)
  free : ∀ l, P (d.back l) → ¬ P l → g.cell l = g.background

section

variable (movable : g.Movable P d)
include movable

theorem Movable.inside_of_back {l : Location} (h : P (d.back l)) : g.Inside l := by
  have inside := movable.inside_shift _ h
  rwa [Location.shift_back] at inside

theorem Movable.cell_shift {l : Location} (h : P l) : (g.withMoved P d).cell (d.shift l) = g.cell l := by
  have back : P (d.back (d.shift l)) := by rwa [Location.back_shift]
  rw [cell_withMoved_of_back (movable.inside_shift l h) back, Location.back_shift]

/-- A move keeps the colors of a board, each as often. -/
theorem Movable.perm_withMoved : (g.withMoved P d).rows.flatten.Perm g.rows.flatten := by
  classical
  have height : (g.withMoved P d).height = g.height := height_redraw ..
  have width : (g.withMoved P d).width = g.width := rfl
  rw [flatten_rows, flatten_rows, height, width]
  refine perm_map_of_exchange (p := fun l => decide (P l)) (q := fun l => decide (P (d.back l)))
    (c := g.background) ?_ ?_ ?_ ?_
  · have places : ((Location.all g.height g.width).filter fun l => decide (P (d.back l))).Perm
        (((Location.all g.height g.width).filter fun l => decide (P l)).map d.shift) := by
      refine (List.perm_ext_iff_of_nodup ((Location.nodup_all _ _).filter _)
        (((Location.nodup_all _ _).filter _).map d.shift_injective)).mpr fun l => ?_
      simp only [List.mem_filter, List.mem_map, mem_all_iff, decide_eq_true_eq]
      constructor
      · intro h
        exact ⟨d.back l, ⟨movable.inside _ h.2, h.2⟩, d.shift_back l⟩
      · intro h
        rcases h with ⟨k, ⟨-, hk⟩, rfl⟩
        refine ⟨movable.inside_shift k hk, ?_⟩
        rwa [Location.back_shift]
    refine (places.map _).trans (List.Perm.of_eq ?_)
    rw [List.map_map]
    refine List.map_congr_left fun l hl => ?_
    exact movable.cell_shift (of_decide_eq_true (List.mem_filter.mp hl).2)
  · intro l hl old new
    exact cell_withMoved_of_left (mem_all_iff.mp hl) (of_decide_eq_false new) (of_decide_eq_true old)
  · intro l _ new old
    exact movable.free l (of_decide_eq_true new) (of_decide_eq_false old)
  · intro l hl old new
    exact cell_withMoved_of_apart (mem_all_iff.mp hl) (of_decide_eq_false new) (of_decide_eq_false old)

/-- The move back restores the board. -/
theorem Movable.withMoved_withMoved (main : g.HasMainColor) :
    (g.withMoved P d).withMoved (fun l => P (d.back l)) (-d.1, -d.2) = g := by
  have background := background_of_perm main movable.perm_withMoved
  have back (l : Location) : Location.back (-d.1, -d.2) l = d.shift l :=
    Prod.ext (Int.sub_neg ..) (Int.sub_neg ..)
  have height : ((g.withMoved P d).withMoved (fun l => P (d.back l)) (-d.1, -d.2)).height = g.height :=
    (height_redraw ..).trans (height_redraw ..)
  refine ext_cell height rfl fun l hl => ?_
  have inside' : (g.withMoved P d).Inside l := inside_redraw.mp hl
  have inside : g.Inside l := inside_redraw.mp inside'
  by_cases old : P l
  · have moved : P (d.back (Location.back (-d.1, -d.2) l)) := by rwa [back, Location.back_shift]
    rw [cell_withMoved_of_back inside' moved, back, movable.cell_shift old]
  · have left : ¬ P (d.back (Location.back (-d.1, -d.2) l)) := by rwa [back, Location.back_shift]
    by_cases new : P (d.back l)
    · rw [cell_withMoved_of_left inside' left new, background, movable.free l new old]
    · rw [cell_withMoved_of_apart inside' left new, cell_withMoved_of_apart inside new old]

/-- The shifted object is an object of the new board. -/
theorem Movable.isObject_shifted {moved : Value}
    (hmoved : moved.IsCellSet fun c l => P (d.back l) ∧ c = g.cell (d.back l)) :
    (g.withMoved P d).IsObject (fun l => P (d.back l)) moved := by
  refine hmoved.congr fun x => ?_
  constructor
  · intro hx
    rcases hx with ⟨c, l, ⟨hl, rfl⟩, rfl⟩
    refine ⟨l, hl, ?_⟩
    rw [cellValue, cell_withMoved_of_back (movable.inside_of_back hl) hl]
  · intro hx
    rcases hx with ⟨l, hl, rfl⟩
    refine ⟨_, l, ⟨hl, rfl⟩, ?_⟩
    rw [cellValue, cell_withMoved_of_back (movable.inside_of_back hl) hl]

end

/-! ## Parts of a board -/

/-- Any cells of a board are a part of the object of the board. -/
theorem IsObject.isPartOf {o whole : Value} (ho : g.IsObject P o) (inside : ∀ l, P l → g.Inside l)
    (hwhole : Grid.gridObject g.grid = .ok whole) : o.IsPartOf whole := by
  rcases (g.map Value.int).exists_gridObject with ⟨whole', hwhole', figure⟩
  obtain rfl : whole = whole' := Except.ok.inj (hwhole.symm.trans hwhole')
  refine (forall_shows_iff figure (isFigure_colored_iff.mpr ho.isCellSet) fun _ => exists_color_of_colored).mp ?_
  rintro ⟨_, l⟩ ⟨c, rfl, hl, color⟩
  refine ⟨inside_map.mpr (inside l hl), _, rfl, ?_⟩
  rw [cell_map (inside l hl), color]
  exact BEq.rfl

/-- A part of the object of a board is the object of the cells that it covers. -/
theorem isObject_of_part {o whole : Value} {R : Int → Location → Prop} (ho : o.IsCellSet R)
    (hwhole : Grid.gridObject g.grid = .ok whole) (part : o.IsPartOf whole) :
    g.IsObject o.Covers o ∧ ∀ l, o.Covers l → g.Inside l := by
  rcases (g.map Value.int).exists_gridObject with ⟨whole', hwhole', figure⟩
  obtain rfl : whole = whole' := Except.ok.inj (hwhole.symm.trans hwhole')
  have shown := (forall_shows_iff figure (isFigure_colored_iff.mpr ho) fun _ => exists_color_of_colored).mpr part
  have cells : ∀ c l, R c l → g.Inside l ∧ c = g.cell l := by
    intro c l hR
    rcases shown ⟨some (.int c), l⟩ ⟨c, rfl, hR⟩ with ⟨inside, c', color, equal⟩
    obtain rfl : Value.int c = c' := Option.some.inj color
    rw [inside_map] at inside
    rw [cell_map inside, int_beq_int, decide_eq_true_iff] at equal
    exact ⟨inside, equal.symm⟩
  constructor
  · refine IsSetOf.congr ho fun x => ?_
    constructor
    · intro hx
      rcases hx with ⟨c, l, hR, rfl⟩
      refine ⟨l, ⟨c, ho.pair_mem_iff.mpr hR⟩, ?_⟩
      rw [cellValue, ← (cells c l hR).2]
    · intro hx
      rcases hx with ⟨l, ⟨c, mem⟩, rfl⟩
      have hR := ho.pair_mem_iff.mp mem
      refine ⟨c, l, hR, ?_⟩
      rw [cellValue, ← (cells c l hR).2]
  · intro l hl
    rcases hl with ⟨c, mem⟩
    exact (cells c l (ho.pair_mem_iff.mp mem)).1

/-- **A move is undone by the move back.** Take a board on which one color outnumbers all others, an object that is
a part of the board, and a vector. The shifted object shall lie on the board, and where it covers a cell that the
object does not, the cell shall have the most frequent color. Then moving the object by the vector, and the
shifted object by the opposite vector, gives the board again. The moved board has as many cells of each color as
the board. -/
theorem move_is_undone_by_move_back (main : g.HasMainColor) {o whole : Value} {R : Int → Location → Prop}
    (ho : o.IsCellSet R) (hwhole : Grid.gridObject g.grid = .ok whole) (part : o.IsPartOf whole) (d : Location)
    (free : ∀ moved, Patch.shift o d.toValue = .ok moved → ∀ l, moved.Covers l →
      g.Inside l ∧ (¬ o.Covers l → Grid.mostColor g.grid = .ok (.int (g.cell l)))) :
    ∃ moved out back, Patch.shift o d.toValue = .ok moved ∧ Grid.move g.grid o d.toValue = .ok out ∧
      Number.negate d.toValue = .ok back ∧ Grid.move out moved back = .ok g.grid ∧
      ∀ c, ∃ count : Nat, Grid.countColor out c = .ok (.int count) ∧ Grid.countColor g.grid c = .ok (.int count) := by
  rcases isObject_of_part ho hwhole part with ⟨object, inside⟩
  rcases object.isCellSet.exists_shift d with ⟨moved, hmoved, cells⟩
  have covers (l : Location) : moved.Covers l ↔ o.Covers (d.back l) := cells.covers_iff
  have movable : g.Movable o.Covers d := by
    refine ⟨inside, fun l hl => ?_, fun l hl new => ?_⟩
    · refine (free moved hmoved _ ((covers _).mpr ?_)).1
      rwa [Location.back_shift]
    · have most := (free moved hmoved l ((covers l).mpr hl)).2 new
      rw [mostColor_grid, Except.ok.injEq, Value.int.injEq] at most
      exact most.symm
  have back : Number.negate d.toValue = .ok (Location.toValue (-d.1, -d.2)) := rfl
  refine ⟨moved, _, _, hmoved, move_grid object d, back, ?_, fun c => ?_⟩
  · rw [move_grid (movable.isObject_shifted cells), movable.withMoved_withMoved main]
  · refine ⟨_, countColor_grid _ c, ?_⟩
    rw [countColor_grid, (movable.perm_withMoved.map Value.int).count_eq]

/-- A board with a corner of three cells on it. -/
def slider : Board Int where
  rows := [[3, 5, 0, 0, 0, 0, 0, 0], [3, 0, 0, 0, 0, 0, 0, 0]]
  width := 8
  rows_ne_nil := List.cons_ne_nil _ _
  width_pos := by decide
  length_row := by simp

/-- The corner. -/
def sliding : List Location :=
  [(0, 0), (0, 1), (1, 0)]

theorem background_slider : slider.background = 0 :=
  background_eq_of_most (by decide) (by decide)

theorem slides_and_slides_back :
    slider.HasMainColor ∧ ∃ whole, Grid.gridObject slider.grid = .ok whole ∧
      (slider.regionObject sliding).IsPartOf whole ∧
      ∃ moved out back, Patch.shift (slider.regionObject sliding) (.location 0 1) = .ok moved ∧
        Grid.move slider.grid (slider.regionObject sliding) (.location 0 1) = .ok out ∧
        Number.negate (.location 0 1) = .ok back ∧ Grid.move out moved back = .ok slider.grid ∧
        ∀ c, ∃ count : Nat, Grid.countColor out c = .ok (.int count) ∧
          Grid.countColor slider.grid c = .ok (.int count) := by
  have main : slider.HasMainColor := hasMainColor_of_mem (c := 0) (by decide) (by decide)
  have object : slider.IsObject (· ∈ sliding) (slider.regionObject sliding) :=
    isObject_regionObject fun _ => Iff.rfl
  have cells := object.isCellSet
  rcases (slider.map Value.int).exists_gridObject with ⟨whole, hwhole, -⟩
  have part := object.isPartOf (by decide) hwhole
  refine ⟨main, whole, hwhole, part, move_is_undone_by_move_back main cells hwhole part (0, 1) ?_⟩
  intro moved hmoved l covers
  rcases cells.exists_shift (0, 1) with ⟨moved', hmoved', shifted⟩
  obtain rfl : moved = moved' := Except.ok.inj (hmoved.symm.trans hmoved')
  have old : ∀ l, (slider.regionObject sliding).Covers l ↔ l ∈ sliding := fun l => cells.covers_iff
  have place : Location.back (0, 1) l ∈ sliding := shifted.covers_iff.mp covers
  obtain ⟨k, hk, rfl⟩ : ∃ k ∈ sliding, Location.shift (0, 1) k = l := ⟨_, place, Location.shift_back ..⟩
  rw [mostColor_grid, background_slider, old]
  have free : ∀ k ∈ sliding, slider.Inside (Location.shift (0, 1) k) ∧
      (Location.shift (0, 1) k ∉ sliding → slider.cell (Location.shift (0, 1) k) = 0) := by decide
  refine ⟨(free k hk).1, fun new => ?_⟩
  rw [(free k hk).2 new]

end Board

end GridPuzzle
