import GridPuzzle.Proofs.FlippedPatch
import GridPuzzle.Proofs.Painting
import GridPuzzle.Proofs.PatchTranslation

/-!
# Occurrences of objects

`Grid.occurrences` moves an object to each location of a window and compares it with the grid cell by cell. The
window is that in which the object's box lies on the grid, so a location outside it has a cell of the object
outside the grid, and no occurrence is lost (`Board.exists_occurrences`).

The grid shows a cell exactly if the cell is a member of the object of the whole grid
(`Board.shows_iff_member`). So an object lies on the grid exactly if it is a part of that object
(`Board.forall_shows_iff`).
-/

namespace GridPuzzle

open Value

namespace Value

variable {v : Value} {P : Location → Prop} {Q : Value → Prop} {S : Spot → Prop}

theorem exists_color_of_moved {f : Location → Location} (colored : ∀ s, S s → ∃ c, s.color = some c) {s : Spot}
    (hs : Moved f S s) : ∃ c, s.color = some c := by
  obtain ⟨r, hr, rfl⟩ := hs
  exact colored r hr

theorem IsSetOf.member_iff (h : v.IsSetOf Q) {x : Value} :
    Container.member x v = .ok true ↔ ∃ y, Q y ∧ (x == y) = true := by
  rw [Container.member, h.items, Outcome.ok_bind, Outcome.pure_eq_ok, Except.ok.injEq,
    List.contains_iff_exists_mem_beq]
  simp only [h.mem_itemList]

/-- Each item of the first container is a member of the second. -/
def IsPartOf (part whole : Value) : Prop :=
  ∀ x ∈ part, Container.member x whole = .ok true

end Value

namespace Board

variable {b : Board Value} {v : Value} {S : Spot → Prop} {box : Box} {d : Location}

/-- The board has the color of the spot at its place. -/
def Shows (b : Board Value) (s : Spot) : Prop :=
  b.Inside s.place ∧ ∃ c, s.color = some c ∧ (b.cell s.place == c) = true

/-- The board shows a patch that is moved from the origin by a vector. -/
def ShowsAt (b : Board Value) (S : Spot → Prop) (box : Box) (d : Location) : Prop :=
  ∀ s, Moved d.shift (Moved box.toOrigin.shift S) s → b.Shows s

theorem cell_toValue {l : Location} (h : b.Inside l) :
    b.toValue.cell (.int l.1) (.int l.2) = .ok (b.cell l) := by
  obtain ⟨i, j, hi, hj, rfl⟩ := h.exists_natCast
  have hi' : i < b.rows.length := hi
  have hj' : j < b.rows[i].length := by rwa [b.length_row _ (List.getElem_mem hi')]
  have row : b.toValue.itemAt (.int i) = .ok (.tuple b.rows[i]) := by
    simp [Value.itemAt, tupleItems_toValue, item?_natCast, hi']
  rw [Value.cell, row, Outcome.ok_bind, ← rows_getElem_getElem hi' hj']
  simp [Value.itemAt, tupleItems, item?_natCast, hj']

open Classical in
theorem shows_spot (b : Board Value) {s : Spot} {c : Value} (color : s.color = some c) :
    Grid.shows b.toValue b.height b.width s.toValue = .ok (decide (b.Shows s)) := by
  obtain ⟨_, l⟩ := s
  subst color
  have parts : (Spot.toValue ⟨some c, l⟩).cellParts = .ok (c, .int l.1, .int l.2) := rfl
  rw [Grid.shows, parts, Outcome.ok_bind]
  by_cases inside : b.Inside l
  · simp [inside_toValue, inside, cell_toValue, Shows]
  · simp [inside_toValue, inside, Shows]

open Classical in
/-- The test of all cells of an object. -/
theorem allM_shows (b : Board Value) (h : v.IsFigure S) (colored : ∀ s, S s → ∃ c, s.color = some c) :
    v.itemList.allM (Grid.shows b.toValue b.height b.width) = .ok (decide (∀ s, S s → b.Shows s)) := by
  have known : ∀ s, S s → Grid.shows b.toValue b.height b.width s.toValue = .ok (decide (b.Shows s)) := by
    intro s hs
    obtain ⟨c, color⟩ := colored s hs
    exact b.shows_spot color
  let p (x : Value) : Bool := (Grid.shows b.toValue b.height b.width x).toOption.getD false
  have tests : ∀ x ∈ v.itemList, Grid.shows b.toValue b.height b.width x = pure (p x) := by
    intro x hx
    obtain ⟨s, hs, rfl⟩ := (h.isSetOf.mem_itemList x).mp hx
    simp only [p, known s hs]
    rfl
  have all : v.itemList.all p = decide (∀ s, S s → b.Shows s) := by
    rw [Bool.eq_iff_iff, List.all_eq_true, decide_eq_true_iff]
    constructor
    · intro holds s hs
      have shown := holds _ ((h.isSetOf.mem_itemList _).mpr ⟨s, hs, rfl⟩)
      simp only [p, known s hs] at shown
      exact decide_eq_true_iff.mp shown
    · intro shown x hx
      obtain ⟨s, hs, rfl⟩ := (h.isSetOf.mem_itemList x).mp hx
      simp only [p, known s hs]
      exact decide_eq_true (shown s hs)
  rw [allM_eq_pure_all tests, all, Outcome.pure_eq_ok]

/-- The vectors that take a box from the origin to where it lies on the board. -/
def window (b : Board Value) (box : Box) : List Location :=
  (Table.upTo 0 (b.height - (box.bottom - box.top + 1) + 1)).flatMap fun i =>
    (Table.upTo 0 (b.width - (box.right - box.left + 1) + 1)).map fun j => (i, j)

theorem map_window : (b.window box).map Location.toValue =
    (Table.upTo 0 (b.height - (box.bottom - box.top + 1) + 1)).flatMap fun i =>
      (Table.upTo 0 (b.width - (box.right - box.left + 1) + 1)).map (Value.location i) := by
  simp only [window, List.map_flatMap, List.map_map]
  rfl

theorem mem_window_iff : d ∈ b.window box ↔
    (0 ≤ d.1 ∧ d.1 < b.height - (box.bottom - box.top + 1) + 1) ∧
      0 ≤ d.2 ∧ d.2 < b.width - (box.right - box.left + 1) + 1 := by
  simp only [window, List.mem_flatMap, mem_map_row, Table.mem_upTo]
  constructor
  · intro h
    obtain ⟨i, row, column, rfl⟩ := h
    exact ⟨row, column⟩
  · intro h
    exact ⟨d.1, h.1, h.2, rfl⟩

/-- A patch that the board shows is found in the window. -/
theorem ShowsAt.mem_window (h : b.ShowsAt S box d) (hbox : Bounds (Places S) box) : d ∈ b.window box := by
  have bounds := bounds_shifted (bounds_shifted hbox box.toOrigin) d
  have inside : ∀ l, Places (Moved d.shift (Moved box.toOrigin.shift S)) l → b.Inside l := by
    intro l hl
    obtain ⟨s, hs, rfl⟩ := hl
    exact (h s hs).1
  obtain ⟨first, hfirst, top⟩ := bounds.top.1
  obtain ⟨last, hlast, bottom⟩ := bounds.bottom.1
  obtain ⟨first', hfirst', left⟩ := bounds.left.1
  obtain ⟨last', hlast', right⟩ := bounds.right.1
  have above := (inside first hfirst).1.1
  have below := (inside last hlast).1.2
  have before := (inside first' hfirst').2.1
  have after := (inside last' hlast').2.2
  simp only [Box.shift, Box.toOrigin] at top bottom left right
  rw [mem_window_iff]
  omega

open Classical in
/-- The occurrences of an object are the vectors that take it from the origin to where the board shows it. -/
theorem exists_occurrences (b : Board Value) (h : v.IsFigure S) (hbox : Bounds (Places S) box)
    (colored : ∀ s, S s → ∃ c, s.color = some c) :
    ∃ places, Grid.occurrences b.toValue v = .ok places ∧ places.IsLocationSet (b.ShowsAt S box) := by
  obtain ⟨cells, hcells, figure⟩ := h.exists_toOrigin hbox
  have test : ∀ d : Location, (do
      (← (← Patch.shift cells d.toValue).items).allM (Grid.shows b.toValue b.height b.width)) =
        .ok (decide (b.ShowsAt S box d)) := by
    intro d
    obtain ⟨moved, hmoved, figure'⟩ := figure.exists_shift d
    have colored' : ∀ s, Moved d.shift (Moved box.toOrigin.shift S) s → ∃ c, s.color = some c :=
      fun s => exists_color_of_moved fun r => exists_color_of_moved colored
    rw [hmoved, Outcome.ok_bind, figure'.isSetOf.items, Outcome.ok_bind, b.allM_shows figure' colored']
    rfl
  have found : ((b.window box).map Location.toValue).filterM (fun place => do
      (← (← Patch.shift cells place).items).allM (Grid.shows b.toValue b.height b.width)) =
        .ok (((b.window box).filter fun d => decide (b.ShowsAt S box d)).map Location.toValue) := by
    rw [filterM_eq_pure_filter (p := fun x => decide (b.ShowsAt S box x.toLocation)), List.filter_map]
    · rfl
    · intro x hx
      obtain ⟨d, -, rfl⟩ := List.mem_map.mp hx
      exact test d
  have mem : ∀ d, d ∈ (b.window box).filter (fun d => decide (b.ShowsAt S box d)) ↔ b.ShowsAt S box d := by
    intro d
    rw [List.mem_filter, decide_eq_true_iff]
    exact ⟨And.right, fun shown => ⟨shown.mem_window hbox, shown⟩⟩
  refine ⟨_, ?_, isLocationSet_setOf mem⟩
  rw [Grid.occurrences, hcells, Outcome.ok_bind, dimensions_toValue, Outcome.ok_bind]
  simp only [h.height hbox, h.width hbox, Outcome.ok_bind]
  rw [← map_window, found]
  rfl

/-! ## Parts of the whole grid -/

/-- The board shows a spot exactly if the spot is a member of the object of the board. -/
theorem shows_iff_member {whole : Value} (hwhole : whole.IsFigure b.IsSpot) {s : Spot} {c : Value}
    (color : s.color = some c) : b.Shows s ↔ Container.member s.toValue whole = .ok true := by
  rw [hwhole.isSetOf.member_iff]
  constructor
  · intro shown
    obtain ⟨inside, c', color', same⟩ := shown
    obtain rfl : c = c' := Option.some.inj (color.symm.trans color')
    refine ⟨_, ⟨⟨some (b.cell s.place), s.place⟩, ⟨inside, rfl⟩, rfl⟩, ?_⟩
    refine Spot.toValue_beq_iff.mpr ⟨?_, rfl⟩
    rw [Spot.SameColor, color]
    exact BEq.symm same
  · intro member
    obtain ⟨_, ⟨r, ⟨inside, color'⟩, rfl⟩, same⟩ := member
    obtain ⟨same, place⟩ := Spot.toValue_beq_iff.mp same
    rw [Spot.SameColor, color, color'] at same
    rw [← place] at inside same
    exact ⟨inside, c, color, BEq.symm same⟩

/-- A patch of colored spots lies on the board exactly if it is a part of the object of the board. -/
theorem forall_shows_iff {whole : Value} (hwhole : whole.IsFigure b.IsSpot) (h : v.IsFigure S)
    (colored : ∀ s, S s → ∃ c, s.color = some c) : (∀ s, S s → b.Shows s) ↔ v.IsPartOf whole := by
  constructor
  · intro shown x hx
    obtain ⟨s, hs, rfl⟩ := (h.isSetOf.mem_iff x).mp hx
    obtain ⟨c, color⟩ := colored s hs
    exact (shows_iff_member hwhole color).mp (shown s hs)
  · intro part s hs
    obtain ⟨c, color⟩ := colored s hs
    exact (shows_iff_member hwhole color).mpr (part _ ((h.isSetOf.mem_iff _).mpr ⟨s, hs, rfl⟩))

/-- **An object occurs at a location exactly if the grid has it there.** Take an object that is not empty, and
any location, on the grid or not. The location is an occurrence of the object in the grid exactly if the
object, moved from the origin to the location, is a part of the object of the whole grid. -/
theorem occurrence_iff_part_of_board (b : Board Value) {object : Value} (h : object.IsFigure S)
    (some : ∃ s, S s) (colored : ∀ s, S s → ∃ c, s.color = .some c) :
    ∃ places normal whole, Grid.occurrences b.toValue object = .ok places ∧
      Patch.toOrigin object = .ok normal ∧ Grid.gridObject b.toValue = .ok whole ∧
      ∀ d : Location, ∃ moved, Patch.shift normal d.toValue = .ok moved ∧
        (d.toValue ∈ places ↔ moved.IsPartOf whole) := by
  obtain ⟨box, hbox⟩ := h.exists_bounds some
  obtain ⟨places, hplaces, hset⟩ := b.exists_occurrences h hbox colored
  obtain ⟨normal, hnormal, figure⟩ := h.exists_toOrigin hbox
  obtain ⟨whole, hwhole, figure'⟩ := b.exists_gridObject
  refine ⟨places, normal, whole, hplaces, hnormal, hwhole, fun d => ?_⟩
  obtain ⟨moved, hmoved, figure''⟩ := figure.exists_shift d
  have colored' : ∀ s, Moved d.shift (Moved box.toOrigin.shift S) s → ∃ c, s.color = .some c :=
    fun s => exists_color_of_moved fun r => exists_color_of_moved colored
  refine ⟨moved, hmoved, ?_⟩
  rw [hset.toValue_mem_iff]
  exact forall_shows_iff figure' figure'' colored'

/-- A board with the cells of the hook in its last columns. -/
def withHook : Board Value where
  rows := [[.int 0, .int 0, .int 3, .int 0, .int 0, .int 0], [.int 0, .int 0, .int 5, .int 1, .int 1, .int 5]]
  width := 6
  rows_ne_nil := List.cons_ne_nil _ _
  width_pos := by decide
  length_row := by decide

theorem occurrences_of_hook :
    (setOf (hook.map Spot.toValue)).IsFigure (· ∈ hook) ∧ (∃ s, s ∈ hook) ∧
    (∀ s ∈ hook, ∃ c, s.color = some c) ∧
    ∃ places, Grid.occurrences withHook.toValue (setOf (hook.map Spot.toValue)) = .ok places ∧
      Location.toValue (0, 2) ∈ places ∧ Location.toValue (0, 3) ∉ places := by
  have some : ∃ s, s ∈ hook := ⟨_, List.mem_cons_self⟩
  have colored : ∀ s ∈ hook, ∃ c, s.color = .some c := by simp [hook]
  refine ⟨isFigure_hook, some, colored, ?_⟩
  obtain ⟨places, normal, whole, hplaces, hnormal, hwhole, occurs⟩ :=
    occurrence_iff_part_of_board withHook isFigure_hook some colored
  obtain ⟨whole', hwhole', figure⟩ := withHook.exists_gridObject
  obtain rfl : whole = whole' := Except.ok.inj (hwhole.symm.trans hwhole')
  obtain ⟨normal', hnormal', figure'⟩ := isFigure_hook.exists_toOrigin bounds_hook
  obtain rfl : normal = normal' := Except.ok.inj (hnormal.symm.trans hnormal')
  -- A location is an occurrence if the board shows the hook there.
  have shown (d : Location) : d.toValue ∈ places ↔ withHook.ShowsAt (· ∈ hook) ⟨-2, 4, -1, 7⟩ d := by
    obtain ⟨moved, hmoved, occurs⟩ := occurs d
    obtain ⟨moved', hmoved', figure''⟩ := figure'.exists_shift d
    obtain rfl : moved = moved' := Except.ok.inj (hmoved.symm.trans hmoved')
    rw [occurs, ← forall_shows_iff figure figure'' fun s => exists_color_of_moved fun r =>
      exists_color_of_moved colored]
    rfl
  refine ⟨places, hplaces, (shown (0, 2)).mpr ?_, fun mem => ?_⟩
  · intro s hs
    obtain ⟨_, ⟨r, hr, rfl⟩, rfl⟩ := hs
    simp only [hook, List.mem_cons, List.not_mem_nil, or_false] at hr
    rcases hr with rfl | rfl | rfl <;> exact ⟨by decide, _, rfl, by decide⟩
  · -- The last cell would lie beside the board.
    have last := (shown (0, 3)).mp mem _ ⟨_, ⟨⟨.some (.int 5), (-1, 7)⟩, by simp [hook], rfl⟩, rfl⟩
    exact absurd last.1 (by decide)

end Board

end GridPuzzle
