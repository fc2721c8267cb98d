import GridPuzzle.Patch.Outline
import GridPuzzle.Proofs.ShiftedPatch

/-!
# Outlines of patches

The locations around a patch are given by its box: all locations in it (`Box.Holds`), its border
(`Box.OnBorder`) and its corners (`Box.IsCorner`). Each of them moves with the box, so that an outline of a
shifted patch is the shifted outline.

The line between two locations is a list of locations (`Location.line`), and moves with its ends
(`Location.line_shift`).
-/

namespace GridPuzzle

namespace Table

variable {start stop n : Int}

theorem mem_upTo : n ∈ upTo start stop ↔ start ≤ n ∧ n < stop := by
  simp only [upTo, List.mem_map, List.mem_range]
  constructor
  · intro h
    obtain ⟨k, hk, rfl⟩ := h
    omega
  · intro h
    exact ⟨(n - start).toNat, by omega, by omega⟩

theorem upTo_add (start stop c : Int) : upTo (start + c) (stop + c) = (upTo start stop).map (· + c) := by
  have length : stop + c - (start + c) = stop - start := by omega
  rw [upTo, upTo, length, List.map_map]
  refine List.map_congr_left fun k _ => ?_
  simp only [Function.comp_apply]
  omega

end Table

/-! ## Locations of a box -/

namespace Box

/-- The location lies in the box. -/
def Holds (box : Box) (l : Location) : Prop :=
  (box.top ≤ l.1 ∧ l.1 ≤ box.bottom) ∧ box.left ≤ l.2 ∧ l.2 ≤ box.right

/-- The location lies on a side of the box. -/
def OnBorder (box : Box) (l : Location) : Prop :=
  (box.top ≤ l.1 ∧ l.1 ≤ box.bottom) ∧ (l.2 = box.left ∨ l.2 = box.right) ∨
    (box.left ≤ l.2 ∧ l.2 ≤ box.right) ∧ (l.1 = box.top ∨ l.1 = box.bottom)

/-- The location is a corner of the box. -/
def IsCorner (box : Box) (l : Location) : Prop :=
  (l.1 = box.top ∨ l.1 = box.bottom) ∧ (l.2 = box.left ∨ l.2 = box.right)

/-- The box after each side has been moved outwards. Sides that have passed each other are exchanged. -/
def grown (outwards : Int) (box : Box) : Box where
  top := min (box.top - outwards) (box.bottom + outwards)
  left := min (box.left - outwards) (box.right + outwards)
  bottom := max (box.top - outwards) (box.bottom + outwards)
  right := max (box.left - outwards) (box.right + outwards)

variable {box : Box} {d l : Location}

theorem holds_shift : (box.shift d).Holds (d.shift l) ↔ box.Holds l := by
  simp only [Holds, shift, Location.shift]
  omega

theorem onBorder_shift : (box.shift d).OnBorder (d.shift l) ↔ box.OnBorder l := by
  simp only [OnBorder, shift, Location.shift]
  omega

theorem isCorner_shift : (box.shift d).IsCorner (d.shift l) ↔ box.IsCorner l := by
  simp only [IsCorner, shift, Location.shift]
  omega

theorem grown_shift (outwards : Int) : (box.shift d).grown outwards = (box.grown outwards).shift d := by
  simp only [grown, shift, mk.injEq]
  omega

end Box

namespace Value

variable {v w : Value} {S : Spot → Prop} {P Q : Location → Prop} {box : Box}

/-- The set of a list of locations. -/
theorem isLocationSet_setOf {ls : List Location} (mem : ∀ l, l ∈ ls ↔ P l) :
    (setOf (ls.map Location.toValue)).IsLocationSet P := by
  refine (isSetOf_setOf fun x hx => ?_).congr fun x => ?_
  · obtain ⟨l, -, rfl⟩ := List.mem_map.mp hx
    exact l.plain_toValue
  · simp only [List.mem_map, mem, eq_comm]

theorem better_least (a b : Int) : better least (.int a) (.int b) = .ok (.int (min a b)) := by
  rw [better, numericRule_least.apply rfl rfl, Outcome.ok_bind]
  by_cases h : b < a
  · rw [if_pos (by simpa using h), Int.min_eq_right h.le, Outcome.pure_eq_ok]
  · rw [if_neg (by simpa using h), Int.min_eq_left (Int.not_lt.mp h), Outcome.pure_eq_ok]

theorem better_greatest (a b : Int) : better greatest (.int a) (.int b) = .ok (.int (max a b)) := by
  rw [better, numericRule_greatest.apply rfl rfl, Outcome.ok_bind]
  by_cases h : b > a
  · rw [if_pos (by simpa using h), Int.max_eq_right h.le, Outcome.pure_eq_ok]
  · rw [if_neg (by simpa using h), Int.max_eq_left (Int.not_lt.mp h), Outcome.pure_eq_ok]

/-! ## Borders -/

theorem mem_map_column {is : List Int} {j : Int} {l : Location} :
    l ∈ is.map (fun i => (i, j)) ↔ l.1 ∈ is ∧ l.2 = j := by
  rw [List.mem_map]
  constructor
  · intro h
    obtain ⟨i, hi, rfl⟩ := h
    exact ⟨hi, rfl⟩
  · intro h
    exact ⟨l.1, h.1, Prod.ext rfl h.2.symm⟩

theorem mem_map_row {js : List Int} {i : Int} {l : Location} :
    l ∈ js.map (fun j => (i, j)) ↔ l.2 ∈ js ∧ l.1 = i := by
  rw [List.mem_map]
  constructor
  · intro h
    obtain ⟨j, hj, rfl⟩ := h
    exact ⟨hj, rfl⟩
  · intro h
    exact ⟨l.2, h.1, Prod.ext h.2.symm rfl⟩

theorem exists_border (box : Box) :
    ∃ w, Patch.border (.int box.top) (.int box.left) (.int box.bottom) (.int box.right) = .ok w ∧
      w.IsLocationSet box.OnBorder := by
  let rows := Table.upTo box.top (box.bottom + 1)
  let columns := Table.upTo box.left (box.right + 1)
  let ls : List Location := rows.map (fun i => (i, box.left)) ++ rows.map (fun i => (i, box.right)) ++
    columns.map (fun j => (box.top, j)) ++ columns.map (fun j => (box.bottom, j))
  have mem : ∀ l, l ∈ ls ↔ box.OnBorder l := by
    intro l
    simp only [ls, rows, columns, List.mem_append, mem_map_column, mem_map_row, Table.mem_upTo, Box.OnBorder,
      Int.lt_add_one_iff]
    tauto
  refine ⟨_, ?_, isLocationSet_setOf mem⟩
  simp only [ls, List.map_append, List.map_map]
  rfl

theorem exists_borderBetween (top left bottom right : Int) :
    ∃ w, Patch.borderBetween (.int top) (.int left) (.int bottom) (.int right) = .ok w ∧
      w.IsLocationSet
        (Box.OnBorder ⟨min top bottom, min left right, max top bottom, max left right⟩) := by
  obtain ⟨w, heq, hw⟩ := exists_border ⟨min top bottom, min left right, max top bottom, max left right⟩
  refine ⟨w, ?_, hw⟩
  rw [Patch.borderBetween, better_least, Outcome.ok_bind, better_least, Outcome.ok_bind, better_greatest,
    Outcome.ok_bind, better_greatest, Outcome.ok_bind, heq]

/-- The locations of one set that are not in another. -/
theorem IsLocationSet.exists_sub (h : v.IsLocationSet P) (h' : w.IsLocationSet Q) :
    ∃ u, v.sub w = .ok u ∧ u.IsLocationSet fun l => P l ∧ ¬ Q l := by
  obtain ⟨⟨xs, rfl, increasing⟩, mem⟩ := h
  obtain ⟨⟨ys, rfl, -⟩, mem'⟩ := h'
  have contains : ∀ l : Location, ys.contains l.toValue = true ↔ Q l := by
    intro l
    rw [List.contains_iff_exists_mem_beq]
    constructor
    · intro found
      obtain ⟨y, hy, same⟩ := found
      obtain ⟨k, hk, rfl⟩ := (mem' y).mp hy
      rw [beq_iff_eq_of_plain l.plain_toValue k.plain_toValue] at same
      rwa [Location.toValue_injective same]
    · intro hl
      refine ⟨l.toValue, (mem' _).mpr ⟨l, hl, rfl⟩, ?_⟩
      rw [beq_iff_eq_of_plain l.plain_toValue l.plain_toValue]
  refine ⟨_, rfl, ⟨_, rfl, increasing.filter _⟩, fun x => ?_⟩
  rw [mem_set, List.mem_filter]
  constructor
  · intro hx
    obtain ⟨hx, free⟩ := hx
    obtain ⟨l, hl, rfl⟩ := (mem x).mp hx
    exact ⟨l, ⟨hl, fun hQ => by simp [(contains l).mpr hQ] at free⟩, rfl⟩
  · intro hx
    obtain ⟨l, ⟨hl, free⟩, rfl⟩ := hx
    exact ⟨(mem _).mpr ⟨l, hl, rfl⟩, by simpa [← contains] using free⟩

/-- The border of the box of a patch. -/
theorem Visits.exists_ring (h : v.Visits P) (hbox : Bounds P box) {count : Nat} (size : v.size = .ok count)
    (some : count ≠ 0) : ∃ w, Patch.ring v = .ok w ∧ w.IsLocationSet (box.grown 0).OnBorder := by
  obtain ⟨w, heq, hw⟩ := exists_borderBetween box.top box.left box.bottom box.right
  refine ⟨w, ?_, by simpa [Box.grown] using hw⟩
  rw [Patch.ring, size, Outcome.ok_bind, if_neg some, h.upperLeft hbox, h.lowerRight hbox]
  exact heq

section

variable (h : v.IsFigure S) (hbox : Bounds (Places S) box)
include h hbox

/-- A ring around a patch is the border of its grown box. -/
theorem IsFigure.exists_ringAt (outwards : Int) :
    ∃ w, Patch.ringAt outwards v = .ok w ∧ w.IsLocationSet (box.grown outwards).OnBorder := by
  have spans := h.isPatch.spans hbox
  obtain ⟨w, heq, hw⟩ := exists_borderBetween (box.top - outwards) (box.left - outwards)
    (box.bottom + outwards) (box.right + outwards)
  refine ⟨w, ?_, hw⟩
  rw [Patch.ringAt, spans.top, spans.left, spans.bottom, spans.right]
  exact heq

theorem IsFigure.exists_ring :
    ∃ w, Patch.ring v = .ok w ∧ w.IsLocationSet (box.grown 0).OnBorder :=
  h.isPatch.visits.exists_ring hbox h.isSetOf.size (h.size_ne_zero hbox)

/-! ## The box and its corners -/

/-- The bounding box holds the locations between the outermost rows and columns. -/
theorem IsFigure.exists_boundingBox :
    ∃ w, Patch.boundingBox v = .ok w ∧ w.IsLocationSet box.Holds := by
  let rows := Table.upTo box.top (box.bottom + 1)
  let columns := Table.upTo box.left (box.right + 1)
  let ls : List Location := (rows.map fun i => columns.map fun j => (i, j)).flatten
  have mem : ∀ l, l ∈ ls ↔ box.Holds l := by
    intro l
    simp only [ls, rows, columns, ← List.flatMap_def, List.mem_flatMap, mem_map_row, Table.mem_upTo,
      Int.lt_add_one_iff, Box.Holds]
    constructor
    · intro hl
      obtain ⟨i, row, column, rfl⟩ := hl
      exact ⟨row, column⟩
    · intro hl
      exact ⟨l.1, hl.1, hl.2, rfl⟩
  have each : (rows.mapM fun row => do
      return (← Value.upTo (.int box.left) (← (Value.int box.right).add (.int 1))).map (Value.location row)) =
        (pure (rows.map fun i => columns.map (Value.location i)) : Outcome _) :=
    mapM_eq_pure_map fun _ _ => rfl
  obtain ⟨places, hplaces, hset⟩ := h.isPatch
  refine ⟨_, ?_, isLocationSet_setOf mem⟩
  rw [Patch.boundingBox, h.isSetOf.size, Outcome.ok_bind, if_neg (h.size_ne_zero hbox), hplaces,
    Outcome.ok_bind, hset.isPatch.upperLeft hbox, h.isPatch.lowerRight hbox]
  change (do
    let cells ← rows.mapM fun row => do
      return (← Value.upTo (.int box.left) (← (Value.int box.right).add (.int 1))).map (Value.location row)
    return Value.setOf cells.flatten) = _
  rw [each, Outcome.pure_eq_ok, Outcome.ok_bind, List.map_flatten, List.map_map]
  simp only [Function.comp_def, List.map_map]
  rfl

/-- What is left of the bounding box without the patch. -/
theorem IsFigure.exists_boxRest :
    ∃ w, Patch.boxRest v = .ok w ∧ w.IsLocationSet fun l => box.Holds l ∧ ¬ Places S l := by
  obtain ⟨whole, hwhole, hset⟩ := h.exists_boundingBox hbox
  obtain ⟨places, hplaces, hset'⟩ := h.isPatch
  obtain ⟨rest, hrest, hset''⟩ := hset.exists_sub hset'
  refine ⟨rest, ?_, hset''⟩
  rw [Patch.boxRest, h.isSetOf.size, Outcome.ok_bind, if_neg (h.size_ne_zero hbox), hwhole, Outcome.ok_bind,
    hplaces, Outcome.ok_bind, hrest]

end

theorem Visits.upperRight (h : v.Visits P) (hbox : Bounds P box) :
    Patch.upperRight v = .ok (.location box.top box.right) := by
  obtain ⟨ls, some, mem, heq⟩ := h.exists_coordinates hbox.exists_location
  have row := bestOf_least some mem hbox.top
  have column := bestOf_greatest some mem hbox.right
  rw [Patch.upperRight, Patch.cornerBy, heq, Outcome.ok_bind, Table.indexed]
  simp [List.zipIdx, row, column, Value.location, Value.pair]

theorem Visits.lowerLeft (h : v.Visits P) (hbox : Bounds P box) :
    Patch.lowerLeft v = .ok (.location box.bottom box.left) := by
  obtain ⟨ls, some, mem, heq⟩ := h.exists_coordinates hbox.exists_location
  have row := bestOf_greatest some mem hbox.bottom
  have column := bestOf_least some mem hbox.left
  rw [Patch.lowerLeft, Patch.cornerBy, heq, Outcome.ok_bind, Table.indexed]
  simp [List.zipIdx, row, column, Value.location, Value.pair]

theorem Visits.exists_corners (h : v.Visits P) (hbox : Bounds P box) :
    ∃ w, Patch.corners v = .ok w ∧ w.IsLocationSet box.IsCorner := by
  let ls : List Location :=
    [(box.top, box.left), (box.top, box.right), (box.bottom, box.left), (box.bottom, box.right)]
  have mem : ∀ l, l ∈ ls ↔ box.IsCorner l := by
    intro l
    simp only [ls, List.mem_cons, List.not_mem_nil, or_false, Prod.ext_iff, Box.IsCorner]
    tauto
  refine ⟨_, ?_, isLocationSet_setOf mem⟩
  rw [Patch.corners, h.upperLeft hbox, h.upperRight hbox, h.lowerLeft hbox, h.lowerRight hbox]
  rfl

theorem IsPatch.upperRight (h : v.IsPatch P) (hbox : Bounds P box) :
    Patch.upperRight v = .ok (.location box.top box.right) :=
  h.visits.upperRight hbox

theorem IsPatch.lowerLeft (h : v.IsPatch P) (hbox : Bounds P box) :
    Patch.lowerLeft v = .ok (.location box.bottom box.left) :=
  h.visits.lowerLeft hbox

theorem IsPatch.exists_corners (h : v.IsPatch P) (hbox : Bounds P box) :
    ∃ w, Patch.corners v = .ok w ∧ w.IsLocationSet box.IsCorner :=
  h.visits.exists_corners hbox

end Value

/-! ## Lines -/

namespace Location

/-- The locations between two locations of one row, of one column or of one diagonal. -/
def line (a b : Location) : List Location :=
  let rows := Table.upTo (min a.1 b.1) (max a.1 b.1 + 1)
  let columns := Table.upTo (min a.2 b.2) (max a.2 b.2 + 1)
  if a.1 = b.1 then columns.map fun j => (a.1, j)
  else if a.2 = b.2 then rows.map fun i => (i, a.2)
  else if b.1 - a.1 = b.2 - a.2 then List.zipWith Prod.mk rows columns
  else if b.1 - a.1 = a.2 - b.2 then List.zipWith Prod.mk rows columns.reverse
  else []

theorem line_toValue (a b : Location) :
    Patch.line a.toValue b.toValue = .ok (Value.setOf ((line a b).map toValue)) := by
  have add (m n : Int) : (Value.int m).add (.int n) = .ok (.int (m + n)) := rfl
  have sub (m n : Int) : (Value.int m).sub (.int n) = .ok (.int (m - n)) := rfl
  have upTo (m n : Int) : Value.upTo (.int m) (.int n) = .ok (Table.upTo m n) := rfl
  simp only [Patch.line, Value.parts_toValue, Outcome.ok_bind, Value.better_least, Value.better_greatest, add,
    sub, upTo, Value.int_beq_int, decide_eq_true_iff, line]
  split_ifs <;> simp only [List.map_map, List.map_zipWith, Outcome.pure_eq_ok, List.map_nil] <;> rfl

/-- The line between shifted locations is the shifted line. -/
theorem line_shift (d a b : Location) : line (d.shift a) (d.shift b) = (line a b).map d.shift := by
  have low (m n c : Int) : min (m + c) (n + c) = min m n + c := by omega
  have high (m n c : Int) : max (m + c) (n + c) + 1 = max m n + 1 + c := by omega
  have sub (m n c : Int) : m + c - (n + c) = m - n := by omega
  have same (m n c : Int) : m + c = n + c ↔ m = n := by omega
  simp only [line, shift, low, high, Table.upTo_add, sub, same]
  split_ifs
  · rw [List.map_map, List.map_map]
    rfl
  · rw [List.map_map, List.map_map]
    rfl
  · rw [List.zipWith_map, List.map_zipWith]
    rfl
  · rw [← List.map_reverse, List.zipWith_map, List.map_zipWith]
    rfl
  · rfl

end Location

end GridPuzzle
