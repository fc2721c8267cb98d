import GridPuzzle.Proofs.Occurrence
import GridPuzzle.Proofs.ObjectFilter
import GridPuzzle.Proofs.ObjectSymmetry

/-!
# The largest blank rectangle

The program of task `3eda0437` looks for rectangles of zeros. It draws a canvas of each size from two to nine,
finds where the canvas occurs in the grid, and moves it there; so it has the objects of all blank rectangles of
these sizes (`Board.yields_blankSearch`). It fills one with the most cells, and the number of cells of a
rectangle is its area (`Board.length_rectangle`).
-/

namespace GridPuzzle

open Value Eval

/-! ## Rectangles -/

namespace Location

theorem mem_all_iff {height width : Nat} {l : Location} :
    l ∈ all height width ↔ (0 ≤ l.1 ∧ l.1 < height) ∧ 0 ≤ l.2 ∧ l.2 < width := by
  simp only [all, List.mem_flatMap, List.mem_range, List.mem_map]
  constructor
  · intro h
    rcases h with ⟨i, hi, j, hj, rfl⟩
    omega
  · intro h
    rcases h with ⟨⟨row, row'⟩, column, column'⟩
    exact ⟨l.1.toNat, by omega, l.2.toNat, by omega,
      Prod.ext (Int.toNat_of_nonneg row) (Int.toNat_of_nonneg column)⟩

theorem length_all (height width : Nat) : (all height width).length = height * width := by
  induction height with
  | zero => rw [Nat.zero_mul]; rfl
  | succ height ih =>
      rw [all, List.range_succ, List.flatMap_append, List.length_append, ← all, ih, Nat.succ_mul]
      simp

end Location

namespace Box

/-- The number of rows. -/
def height (box : Box) : Int :=
  box.bottom - box.top + 1

/-- The number of columns. -/
def width (box : Box) : Int :=
  box.right - box.left + 1

def area (box : Box) : Int :=
  box.height * box.width

/-- The box of a given size with a given upper left corner. -/
def sized (corner : Location) (height width : Int) : Box :=
  ⟨corner.1, corner.2, corner.1 + height - 1, corner.2 + width - 1⟩

theorem sized_corner (box : Box) : sized box.corner box.height box.width = box := by
  have bottom : box.top + box.height - 1 = box.bottom := by rw [height]; omega
  have right : box.left + box.width - 1 = box.right := by rw [width]; omega
  simp only [sized, corner, bottom, right]

theorem height_sized (corner : Location) (height width : Int) : (sized corner height width).height = height := by
  simp only [sized, Box.height]
  omega

theorem width_sized (corner : Location) (height width : Int) : (sized corner height width).width = width := by
  simp only [sized, Box.width]
  omega

theorem holds_sized_iff {corner l : Location} {height width : Nat} :
    (sized corner height width).Holds l ↔ ∃ k ∈ Location.all height width, corner.shift k = l := by
  constructor
  · intro h
    obtain ⟨⟨above, below⟩, before, after⟩ := h
    simp only [sized] at above below before after
    refine ⟨corner.back l, Location.mem_all_iff.mpr ?_, corner.shift_back l⟩
    simp only [Location.back]
    omega
  · intro h
    obtain ⟨k, hk, rfl⟩ := h
    obtain ⟨row, column⟩ := Location.mem_all_iff.mp hk
    simp only [Holds, sized, Location.shift]
    omega

/-- The locations of the box, row by row. -/
def places (box : Box) : List Location :=
  (Location.all box.height.toNat box.width.toNat).map box.corner.shift

theorem mem_places_iff {box : Box} {l : Location} : l ∈ box.places ↔ box.Holds l := by
  by_cases proper : 0 ≤ box.height ∧ 0 ≤ box.width
  · rw [places, List.mem_map, ← holds_sized_iff, Int.toNat_of_nonneg proper.1, Int.toNat_of_nonneg proper.2,
      sized_corner]
  · simp only [places, List.mem_map, Location.mem_all_iff, height, width, Holds] at proper ⊢
    constructor
    · intro h
      rcases h with ⟨k, inside, -⟩
      omega
    · intro h
      omega

theorem nodup_places (box : Box) : box.places.Nodup :=
  (Location.nodup_all _ _).map box.corner.shift_injective

theorem length_places {box : Box} (hheight : 0 ≤ box.height) (hwidth : 0 ≤ box.width) :
    (box.places.length : Int) = box.area := by
  rw [places, List.length_map, Location.length_all, Int.natCast_mul, Int.toNat_of_nonneg hheight,
    Int.toNat_of_nonneg hwidth, area]

end Box

namespace Board

variable {g : Board Int} {box : Box} {P : Location → Prop}

/-- The rectangle has sides from two to nine, lies on the board and holds only zeros. -/
structure IsBlank (g : Board Int) (box : Box) : Prop where
  height : 2 ≤ box.height ∧ box.height ≤ 9
  width : 2 ≤ box.width ∧ box.width ≤ 9
  zeros : ∀ l, box.Holds l → g.HasColor 0 l

theorem distinct_object : Distinct (Colored fun c l => P l ∧ c = g.cell l) := by
  intro r s hr hs same
  obtain ⟨c, color, -, hc⟩ := hr
  obtain ⟨c', color', -, hc'⟩ := hs
  cases r
  cases s
  simp_all

/-- An object has as many cells as there are locations of it. -/
theorem length_object {o : Value} (ho : g.IsObject P o) {ls : List Location} (nodup : ls.Nodup)
    (mem : ∀ l, l ∈ ls ↔ P l) : o.itemList.length = ls.length := by
  have figure := isFigure_colored_iff.mpr ho.isCellSet
  refine figure.length_eq distinct_object nodup fun l => ?_
  rw [mem, places_colored]
  exact ⟨fun hl => ⟨_, hl, rfl⟩, fun ⟨_, hl, _⟩ => hl⟩

/-- The object of a rectangle has as many cells as its area. -/
theorem length_rectangle {o : Value} (ho : g.IsObject box.Holds o) (hheight : 0 ≤ box.height)
    (hwidth : 0 ≤ box.width) : (o.itemList.length : Int) = box.area := by
  rw [length_object ho box.nodup_places fun _ => Box.mem_places_iff, Box.length_places hheight hwidth]

/-! ## The search -/

section

variable {height width : Nat} (hheight : 0 < height) (hwidth : 0 < width)

theorem isSpot_zeros_iff {s : Spot} : ((uniform hheight hwidth (0 : Int)).map Value.int).IsSpot s ↔
    s.place ∈ Location.all height width ∧ s.color = some (.int 0) := by
  have inside : ((uniform hheight hwidth (0 : Int)).map Value.int).Inside s.place ↔
      s.place ∈ Location.all height width :=
    inside_map.trans (inside_tabulate_iff hheight hwidth)
  rw [IsSpot, inside]
  refine and_congr_right fun hs => ?_
  rw [cell_map (inside_map.mp (inside.mpr hs)), uniform, cell_tabulate hheight hwidth hs]

theorem moved_zeros_iff {d : Location} {s : Spot} :
    Moved d.shift ((uniform hheight hwidth (0 : Int)).map Value.int).IsSpot s ↔
      (Box.sized d height width).Holds s.place ∧ s.color = some (.int 0) := by
  constructor
  · intro h
    obtain ⟨r, hr, rfl⟩ := h
    obtain ⟨mem, color⟩ := (isSpot_zeros_iff hheight hwidth).mp hr
    exact ⟨Box.holds_sized_iff.mpr ⟨r.place, mem, rfl⟩, color⟩
  · intro h
    obtain ⟨holds, color⟩ := h
    obtain ⟨k, hk, onto⟩ := Box.holds_sized_iff.mp holds
    refine ⟨⟨some (.int 0), k⟩, (isSpot_zeros_iff hheight hwidth).mpr ⟨hk, rfl⟩, ?_⟩
    rw [Spot.move, onto, ← color]

theorem shows_iff {c : Int} {s : Spot} (color : s.color = some (.int c)) :
    (g.map Value.int).Shows s ↔ g.HasColor c s.place := by
  rw [Shows, HasColor, inside_map]
  refine and_congr_right fun inside => ?_
  simp [color, cell_map inside]

theorem showsAt_zeros_iff {d : Location} :
    (g.map Value.int).ShowsAt ((uniform hheight hwidth (0 : Int)).map Value.int).IsSpot
        ((uniform hheight hwidth (0 : Int)).map Value.int).box d ↔
      ∀ l, (Box.sized d height width).Holds l → g.HasColor 0 l := by
  have origin : ((uniform hheight hwidth (0 : Int)).map Value.int).box.toOrigin.shift = id := by
    funext l
    simp [Board.box, Box.toOrigin, Location.shift]
  have same : Moved id ((uniform hheight hwidth (0 : Int)).map Value.int).IsSpot =
      ((uniform hheight hwidth (0 : Int)).map Value.int).IsSpot := funext fun _ => propext moved_id
  rw [ShowsAt, origin, same]
  simp only [moved_zeros_iff]
  constructor
  · intro shown l holds
    exact (shows_iff (s := ⟨some (.int 0), l⟩) rfl).mp (shown _ ⟨holds, rfl⟩)
  · intro blank s hs
    exact (shows_iff hs.2).mpr (blank s.place hs.1)

end

/-- The function that finds the blank rectangles of a size. -/
def blankSearch (g : Board Int) : Value :=
  .compose3 4
    (.fork 3 (.prim .map) (.bindFirst 2 1 (.prim .bindFirst) (.prim .shift))
      (.bindFirst 1 1 (.prim .occurrences) g.grid))
    (.prim .gridObject) (.bindFirst 0 1 (.prim .canvas) (.int 0))

/-- A canvas moved to where the board has zeros is the object of the zeros there. -/
theorem isObject_of_moved_zeros {height width : Nat} (hheight : 0 < height) (hwidth : 0 < width) {d : Location}
    {o : Value} (blank : ∀ l, (Box.sized d height width).Holds l → g.HasColor 0 l)
    (figure : o.IsFigure (Moved d.shift ((uniform hheight hwidth (0 : Int)).map Value.int).IsSpot)) :
    g.IsObject (Box.sized d height width).Holds o := by
  refine figure.isSetOf.congr fun v => ?_
  simp only [moved_zeros_iff]
  constructor
  · intro hv
    obtain ⟨⟨_, l⟩, ⟨holds, rfl⟩, rfl⟩ := hv
    exact ⟨l, holds, by rw [cellValue, (blank l holds).2]; rfl⟩
  · intro hv
    obtain ⟨l, holds, rfl⟩ := hv
    exact ⟨⟨some (.int 0), l⟩, ⟨holds, rfl⟩, by rw [cellValue, (blank l holds).2]; rfl⟩

/-- The copies of an object that are shifted to the locations of a set. The function that shifts the object is
built anew for each object, with a serial number that the copies do not show. -/
theorem yields_copies {object places : Value} {Q : Location → Prop} {shifted : Location → Value}
    (hset : places.IsLocationSet Q) (hshift : ∀ d : Location, Patch.shift object d.toValue = .ok (shifted d))
    (depth : Nat) :
    (do
      let copy ← Value.call (depth + 2) (.prim .bindFirst) [.prim .shift, object]
      Value.call (depth + 2) (.prim .map) [copy, places]).Yields
        (.setOf (places.itemList.map fun x : Value => shifted x.toLocation)) := by
  intro s
  have built : (Value.call (depth + 2) (.prim .bindFirst) [.prim .shift, object]).Gives s
      (.bindFirst s 1 (.prim .shift) object) (s + 1) := by
    rw [call_prim]
    rfl
  have calls : ∀ x, (∃ d, Q d ∧ x = d.toValue) →
      (Value.call (depth + 1) (.bindFirst s 1 (.prim .shift) object) [x]).Yields (shifted x.toLocation) := by
    intro x hx
    obtain ⟨d, -, rfl⟩ := hx
    have copy : Value.call (depth + 1) (.bindFirst s 1 (.prim .shift) object) [d.toValue] = pure (shifted d) := by
      rw [call_bindFirst, call_prim]
      exact lift_ok (hshift d)
    rw [copy]
    exact yields_pure _
  obtain ⟨t, ht⟩ := Value.IsSetOf.yields_map hset calls (s + 1)
  refine ⟨t, built.bind ?_⟩
  rw [call_prim]
  exact ht

/-- The blank rectangles of a size are found, each as the object of its cells. -/
theorem yields_blankSearch (g : Board Int) {height width : Nat} (hheight : 0 < height) (hwidth : 0 < width)
    (depth : Nat) :
    ∃ found, (Value.call (depth + 2) g.blankSearch [.location height width]).Yields found ∧
      found.IsSetOf fun o => ∃ d, (∀ l, (Box.sized d height width).Holds l → g.HasColor 0 l) ∧
        g.IsObject (Box.sized d height width).Holds o := by
  obtain ⟨object, hobject, figure⟩ := ((uniform hheight hwidth (0 : Int)).map Value.int).exists_gridObject
  obtain ⟨places, hplaces, hset⟩ := (g.map Value.int).exists_occurrences figure (bounds_box _)
    fun s hs => ⟨_, hs.2⟩
  have hset' : places.IsLocationSet fun d => ∀ l, (Box.sized d height width).Holds l → g.HasColor 0 l :=
    hset.congr fun x => exists_congr fun d => and_congr_left' (showsAt_zeros_iff hheight hwidth)
  have moved : ∀ d : Location, ∃ o, Patch.shift object d.toValue = .ok o ∧
      o.IsFigure (Moved d.shift ((uniform hheight hwidth (0 : Int)).map Value.int).IsSpot) := figure.exists_shift
  choose shifted hshift hfigure using moved
  refine ⟨.setOf (places.itemList.map fun x => shifted x.toLocation), ?_, ?_⟩
  · have canvas : Value.call (depth + 2) (.bindFirst 0 1 (.prim .canvas) (.int 0)) [.location height width] =
        pure (uniform hheight hwidth (0 : Int)).grid := by
      rw [call_bindFirst, call_prim]
      exact lift_ok (canvas_uniform hheight hwidth 0)
    have whole : Value.call (depth + 2) (.prim .gridObject) [(uniform hheight hwidth (0 : Int)).grid] =
        pure object := by
      rw [call_prim]
      exact lift_ok hobject
    have occurrences : Value.call (depth + 2) (.bindFirst 1 1 (.prim .occurrences) g.grid) [object] =
        pure places := by
      rw [call_bindFirst, call_prim]
      exact lift_ok hplaces
    rw [blankSearch, call_compose3, canvas, pure_bind, whole, pure_bind, call_fork, call_bindFirst]
    simp only [occurrences, pure_bind]
    exact yields_copies hset' hshift depth
  · have isObject : ∀ d, (∀ l, (Box.sized d height width).Holds l → g.HasColor 0 l) →
        g.IsObject (Box.sized d height width).Holds (shifted d) :=
      fun d blank => isObject_of_moved_zeros hheight hwidth blank (hfigure d)
    refine (Value.IsSetOf.isSetOf_map hset' fun x hx => ?_).congr fun o => ?_
    · obtain ⟨d, blank, rfl⟩ := hx
      exact (isObject d blank).plain
    · constructor
      · intro ho
        obtain ⟨_, ⟨d, blank, rfl⟩, rfl⟩ := ho
        exact ⟨d, blank, isObject d blank⟩
      · intro ho
        obtain ⟨d, blank, hobject⟩ := ho
        exact ⟨d.toValue, ⟨d, blank, rfl⟩, Value.IsSetOf.unique hobject (isObject d blank)⟩

/-! ## The program -/

theorem program_blankRectangle : Task.program? "3eda0437" = some Task.task3eda0437 := by
  decide +kernel

/-- The pairs of a number from one list and a number from another. -/
theorem productMap_makePair (depth : Nat) (ms ns : List Int) :
    Function.productMap (Value.call (depth + 1)) (.prim .makePair) (.tuple (ms.map .int)) (.tuple (ns.map .int)) =
      pure (.setOf ((ns.flatMap fun n => ms.map fun m => ((m, n) : Location)).map Location.toValue)) := by
  have pair (m n : Value) : Value.call (depth + 1) (.prim .makePair) [m, n] = pure (.pair m n) := by
    rw [call_prim]
    rfl
  rw [productMap_eq_pure rfl rfl fun m _ n _ => pair m n, List.map_flatMap, List.flatMap_map]
  simp only [List.map_map]
  rfl

/-- The lengths of the sides of the rectangles. -/
def sides : List Int :=
  [2, 3, 4, 5, 6, 7, 8, 9]

theorem mem_sides_iff {n : Int} : n ∈ sides ↔ 2 ≤ n ∧ n ≤ 9 := by
  simp only [sides, List.mem_cons, List.not_mem_nil, or_false]
  omega

/-- The sizes of the rectangles. -/
def sizes : Value :=
  .setOf ((sides.flatMap fun n => sides.map fun m => ((m, n) : Location)).map Location.toValue)

theorem isLocationSet_sizes :
    sizes.IsLocationSet fun l => (2 ≤ l.1 ∧ l.1 ≤ 9) ∧ 2 ≤ l.2 ∧ l.2 ≤ 9 := by
  refine isLocationSet_setOf fun l => ?_
  simp only [List.mem_flatMap, List.mem_map, ← mem_sides_iff]
  constructor
  · intro h
    obtain ⟨n, hn, m, hm, rfl⟩ := h
    exact ⟨hm, hn⟩
  · intro h
    exact ⟨l.2, h.2, l.1, h.1, rfl⟩

/-- The search over all sizes finds the objects of all blank rectangles. -/
theorem exists_blanks (g : Board Int) :
    ∃ blanks, (Function.mapFlatten (Value.call 999) g.blankSearch sizes).Yields blanks ∧
      blanks.IsSetOf fun o => ∃ box, g.IsBlank box ∧ g.IsObject box.Holds o := by
  have calls : ∀ x, (∃ l : Location, ((2 ≤ l.1 ∧ l.1 ≤ 9) ∧ 2 ≤ l.2 ∧ l.2 ≤ 9) ∧ x = l.toValue) →
      ∃ found, (Value.call 999 g.blankSearch [x]).Yields found ∧ found.IsSetOf fun o =>
        ∃ d, (∀ l, (Box.sized d x.toLocation.1 x.toLocation.2).Holds l → g.HasColor 0 l) ∧
          g.IsObject (Box.sized d x.toLocation.1 x.toLocation.2).Holds o := by
    intro x hx
    obtain ⟨⟨m, n⟩, ⟨hm, hn⟩, rfl⟩ := hx
    obtain ⟨height, rfl⟩ := Int.eq_ofNat_of_zero_le (Int.le_trans (by decide) hm.1)
    obtain ⟨width, rfl⟩ := Int.eq_ofNat_of_zero_le (Int.le_trans (by decide) hn.1)
    exact g.yields_blankSearch (by omega) (by omega) 997
  obtain ⟨blanks, yields, hblanks⟩ := Value.IsSetOf.exists_mapFlatten isLocationSet_sizes calls
    fun x o _ ⟨d, _, ho⟩ => ho.plain
  refine ⟨blanks, yields, hblanks.congr fun o => ?_⟩
  constructor
  · intro ho
    obtain ⟨_, ⟨l, ⟨rows, columns⟩, rfl⟩, d, zeros, hobject⟩ := ho
    exact ⟨Box.sized d l.1 l.2, ⟨by rwa [Box.height_sized], by rwa [Box.width_sized], zeros⟩, hobject⟩
  · intro ho
    obtain ⟨box, blank, hobject⟩ := ho
    refine ⟨Location.toValue (box.height, box.width), ⟨_, ⟨blank.height, blank.width⟩, rfl⟩, box.corner, ?_⟩
    rw [toLocation_toValue, box.sized_corner]
    exact ⟨blank.zeros, hobject⟩

/-- The results of the steps up to the search. -/
def searchResults (g : Board Int) (blanks : Value) : List Value :=
  [.tuple (sides.map .int), sizes, .bindFirst 0 1 (.prim .canvas) (.int 0),
    .bindFirst 1 1 (.prim .occurrences) g.grid, .bindFirst 2 1 (.prim .bindFirst) (.prim .shift),
    .fork 3 (.prim .map) (.bindFirst 2 1 (.prim .bindFirst) (.prim .shift))
      (.bindFirst 1 1 (.prim .occurrences) g.grid),
    g.blankSearch, blanks]

theorem runFrom_search {blanks : Value} {t : Nat}
    (h : (Function.mapFlatten (Value.call 999) g.blankSearch sizes).Gives 5 blanks t) :
    (Program.runFrom g.grid [] Task.task3eda0437).run 0 =
      (Program.runFrom g.grid (g.searchResults blanks) (Task.task3eda0437.drop 8)).run t := by
  refine Program.runFrom_step (v := .tuple (sides.map .int)) (t := 0) (gives_call rfl rfl) ?_
  refine Program.runFrom_step (v := sizes) (t := 0) (gives_call rfl ?_) ?_
  · change (Function.productMap (Value.call 999) _ _ _).Gives 0 sizes 0
    rw [productMap_makePair]
    exact gives_pure 0 sizes
  refine Program.runFrom_step (t := 1) (gives_call rfl rfl) ?_
  refine Program.runFrom_step (t := 2) (gives_call rfl rfl) ?_
  refine Program.runFrom_step (t := 3) (gives_call rfl rfl) ?_
  refine Program.runFrom_step (t := 4) (gives_call rfl rfl) ?_
  refine Program.runFrom_step (v := g.blankSearch) (t := 5) (gives_call rfl rfl) ?_
  exact Program.runFrom_step (gives_call rfl h) rfl

theorem key_size {v : Value} {Q : Value → Prop} (h : v.IsSetOf Q) (depth : Nat) :
    Function.key (Value.call (depth + 1)) (.prim .size) v = pure (.int v.itemList.length) := by
  change Value.call (depth + 1) (.prim .size) [v] = _
  rw [call_prim]
  change (do return Value.int (← (liftM v.size : Eval Nat))) = (pure _ : Eval Value)
  rw [lift_ok h.size, pure_bind]

/-- Without a blank rectangle there is none to choose. -/
theorem run_of_no_blank (none : ¬ ∃ box, g.IsBlank box) : Task.task3eda0437.run g.grid = .error .noChoice := by
  obtain ⟨blanks, yields, hblanks⟩ := g.exists_blanks
  have empty : blanks.itemList = [] := by
    refine List.eq_nil_iff_forall_not_mem.mpr fun o ho => ?_
    obtain ⟨box, blank, -⟩ := (hblanks.mem_itemList o).mp ho
    exact none ⟨box, blank⟩
  obtain ⟨t, ht⟩ := yields 5
  refine Program.run_eq_error ((runFrom_search ht).trans ?_)
  exact Program.fails_step (fails_call rfl (fails_bestBy_of_empty hblanks.items empty t))

open Classical in
/-- One of the largest blank rectangles is filled. -/
theorem run_of_blank (some : ∃ box, g.IsBlank box) :
    ∃ box, g.IsBlank box ∧ (∀ box', g.IsBlank box' → box'.area ≤ box.area) ∧
      Task.task3eda0437.run g.grid = .ok (g.redraw fun l => if box.Holds l then 6 else g.cell l).grid := by
  obtain ⟨blanks, yields, hblanks⟩ := g.exists_blanks
  have exists_object : ∀ box, g.IsBlank box → ∃ o ∈ blanks.itemList, g.IsObject box.Holds o := by
    intro box blank
    obtain ⟨o, ho⟩ := exists_isObject fun l holds => (blank.zeros l holds).1
    exact ⟨o, (hblanks.mem_itemList o).mpr ⟨box, blank, ho⟩, ho⟩
  have area : ∀ box o, g.IsBlank box → g.IsObject box.Holds o → (o.itemList.length : Int) = box.area := by
    intro box o blank ho
    have rows := blank.height
    have columns := blank.width
    exact length_rectangle ho (by omega) (by omega)
  have keys : ∀ o ∈ blanks.itemList,
      Function.key (Value.call 999) (.prim .size) o = pure (.int o.itemList.length) := by
    intro o ho
    obtain ⟨box, -, hobject⟩ := (hblanks.mem_itemList o).mp ho
    exact key_size hobject 998
  obtain ⟨box₀, blank₀⟩ := some
  obtain ⟨o₀, mem₀, -⟩ := exists_object box₀ blank₀
  obtain ⟨best, mem, hbest, unbeaten⟩ :=
    exists_bestBy hblanks.items numericRule_greatest keys (List.ne_nil_of_mem mem₀)
  obtain ⟨box, blank, hobject⟩ := (hblanks.mem_itemList best).mp mem
  refine ⟨box, blank, fun box' blank' => ?_, ?_⟩
  · obtain ⟨o', mem', hobject'⟩ := exists_object box' blank'
    rw [← area box best blank hobject, ← area box' o' blank' hobject']
    exact not_lt.mp (unbeaten o' mem')
  · obtain ⟨t, ht⟩ := yields 5
    refine Program.run_eq_ok (t := t) ((runFrom_search ht).trans ?_)
    refine Program.gives_cons (v := best) (t := t) (gives_call rfl ?_) ?_
    · change (Function.bestBy (Value.call 999) greatest blanks (.prim .size)).Gives t best t
      rw [hbest]
      exact gives_pure t best
    refine Program.gives_cons (gives_call rfl (gives_lift (fill_grid g hobject.isPatch 6) t)) ?_
    exact Program.gives_nil rfl t

/-- **The program of task `3eda0437` fills the largest blank rectangle with sixes.** It finds nothing to choose
exactly if the board has no rectangle of zeros with sides from two to nine. Otherwise it fills such a rectangle,
of the greatest area among all of them, and keeps every other cell. -/
theorem fills_largest_blank_rectangle (g : Board Int) :
    (Task.solve "3eda0437" g.grid = .error .noChoice ↔ ¬ ∃ box, g.IsBlank box) ∧
    ((∃ box, g.IsBlank box) → ∃ (box : Box) (out : Board Int), g.IsBlank box ∧
      (∀ box', g.IsBlank box' → box'.area ≤ box.area) ∧
      Task.solve "3eda0437" g.grid = .ok out.grid ∧ out.height = g.height ∧ out.width = g.width ∧
      ∀ l, g.Inside l → (box.Holds l → out.cell l = 6) ∧ (¬ box.Holds l → out.cell l = g.cell l)) := by
  classical
  rw [Task.solve_eq_run program_blankRectangle]
  refine ⟨⟨fun fails some => ?_, run_of_no_blank⟩, fun some => ?_⟩
  · obtain ⟨box, -, -, solved⟩ := run_of_blank some
    rw [solved] at fails
    cases fails
  · obtain ⟨box, blank, largest, solved⟩ := run_of_blank some
    refine ⟨box, g.redraw fun l => if box.Holds l then 6 else g.cell l, blank, largest, solved,
      height_redraw g _, rfl, fun l inside => ⟨fun holds => ?_, fun outside => ?_⟩⟩
    · rw [cell_redraw inside, if_pos holds]
    · rw [cell_redraw inside, if_neg outside]

/-- A board with two blank squares that share its middle. -/
def twoSquares : Board Int where
  rows := [[0, 0, 5], [0, 0, 0], [5, 0, 0]]
  width := 3
  rows_ne_nil := List.cons_ne_nil _ _
  width_pos := by decide
  length_row := by decide

theorem isBlank_upper_square : twoSquares.IsBlank ⟨0, 0, 1, 1⟩ := by
  refine ⟨by decide, by decide, fun l holds => ?_⟩
  obtain ⟨i, j⟩ := l
  obtain ⟨⟨above, below⟩, before, after⟩ := holds
  simp only at above below before after
  interval_cases i <;> interval_cases j <;> exact ⟨by decide, by decide⟩

theorem fills_a_square :
    twoSquares.IsBlank ⟨0, 0, 1, 1⟩ ∧
    ∃ out : Board Int, Task.solve "3eda0437" twoSquares.grid = .ok out.grid ∧
      out.cell (1, 1) = 6 ∧ out.cell (0, 2) = 5 := by
  obtain ⟨box, out, blank, -, solved, -, -, cells⟩ :=
    (fills_largest_blank_rectangle twoSquares).2 ⟨_, isBlank_upper_square⟩
  have rows := blank.height
  have columns := blank.width
  simp only [Box.height, Box.width] at rows columns
  refine ⟨isBlank_upper_square, out, solved, (cells (1, 1) (by decide)).1 ?_, (cells (0, 2) (by decide)).2 ?_⟩
  · have first := (blank.zeros box.corner (by simp only [Box.Holds, Box.corner]; omega)).1
    have last := (blank.zeros (box.bottom, box.right) (by simp only [Box.Holds]; omega)).1
    simp only [Inside, Box.corner, twoSquares, Board.height, List.length_cons, List.length_nil] at first last
    simp only [Box.Holds]
    omega
  · intro holds
    exact absurd (blank.zeros (0, 2) holds).2 (by decide)

end Board

end GridPuzzle
