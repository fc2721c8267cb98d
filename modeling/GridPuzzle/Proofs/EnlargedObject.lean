import GridPuzzle.Proofs.BlankRectangle
import GridPuzzle.Proofs.Scaling
import Mathlib.Data.List.ProdSigma

/-!
# Enlarged objects

An enlarged object is the object seen through a map of locations, as an enlarged grid is the grid seen through
one: a spot belongs to it if the object has a spot of that color at the location to which the place contracts
(`Value.IsFigure.exists_enlarged`). The map contracts towards the upper left corner. It takes the same value at
the locations of one block, which gives the box and the number of spots of an enlarged object, and contracting
twice is contracting by the product of the factors.
-/

namespace GridPuzzle

/-! ## Contracted locations -/

namespace Location

/-- The location divided by a number, as seen from another location. -/
def contract (c : Location) (k : Int) (l : Location) : Location :=
  c.shift (quotient k (c.back l))

/-- The location at a place in the block to which a location expands, as seen from another location. -/
def expand (c : Location) (k : Int) (l place : Location) : Location :=
  c.shift ((multiple k (c.back l)).shift place)

variable {c l place : Location} {k : Int}

theorem contract_expand (row : 0 ≤ place.1 ∧ place.1 < k) (column : 0 ≤ place.2 ∧ place.2 < k) :
    contract c k (expand c k l place) = l := by
  have whole : quotient k ((multiple k (c.back l)).shift place) = c.back l := by
    simp only [quotient, shift, multiple]
    exact Prod.ext (Value.add_mul_ediv row.1 row.2) (Value.add_mul_ediv column.1 column.2)
  rw [contract, expand, back_shift, whole, shift_back]

/-- Each location lies in the block of the location to which it contracts. -/
theorem exists_expand_contract (pos : 1 ≤ k) (l : Location) :
    ∃ place : Location, ((0 ≤ place.1 ∧ place.1 < k) ∧ 0 ≤ place.2 ∧ place.2 < k) ∧
      expand c k (contract c k l) place = l := by
  have nonzero : k ≠ 0 := by omega
  have less : 0 < k := by omega
  refine ⟨((c.back l).1 % k, (c.back l).2 % k), ⟨⟨Int.emod_nonneg _ nonzero, Int.emod_lt_of_pos _ less⟩,
    Int.emod_nonneg _ nonzero, Int.emod_lt_of_pos _ less⟩, ?_⟩
  have whole : (multiple k (quotient k (c.back l))).shift ((c.back l).1 % k, (c.back l).2 % k) = c.back l :=
    Prod.ext (Int.emod_add_ediv_mul ..) (Int.emod_add_ediv_mul ..)
  rw [expand, contract, back_shift, whole, shift_back]

theorem contract_comp_contract (c : Location) (a : Int) {b : Int} (pos : 1 ≤ b) :
    contract c a ∘ contract c b = contract c (a * b) := by
  funext l
  simp only [Function.comp_apply, contract, back_shift, ← quotient_comp_quotient a pos]

theorem contract_origin (k : Int) : contract (0, 0) k = quotient k := by
  funext l
  simp [contract, quotient, shift, back]

end Location

namespace Value

variable {v w : Value} {S : Spot → Prop} {box : Box} {c : Location} {k : Int}

/-! ## The spots of an enlarged object -/

/-- The spots that contract to given ones. -/
def Enlarged (c : Location) (k : Int) (S : Spot → Prop) (s : Spot) : Prop :=
  S (s.move (c.contract k))

theorem enlarged_enlarged (c : Location) (a : Int) {b : Int} (pos : 1 ≤ b) :
    Enlarged c b (Enlarged c a S) = Enlarged c (a * b) S := by
  funext s
  simp only [Enlarged, ← Location.contract_comp_contract c a pos]
  rfl

theorem places_enlarged {l : Location} : Places (Enlarged c k S) l ↔ Places S (c.contract k l) := by
  constructor
  · intro h
    rcases h with ⟨s, hs, rfl⟩
    exact ⟨_, hs, rfl⟩
  · intro h
    rcases h with ⟨⟨color, _⟩, hr, rfl⟩
    exact ⟨⟨color, l⟩, hr, rfl⟩

/-- A spot lies in the block of the spot at its quotient. -/
theorem blocks_iff (pos : 1 ≤ k) {s : Spot} : Blocks k S s ↔ S (s.move (Location.quotient k)) := by
  have quotient (m : Int) {i : Nat} (hi : i < k.toNat) : (m * k + i) / k = m := by
    rw [Int.add_comm, add_mul_ediv (Int.natCast_nonneg i) (Int.lt_toNat.mp hi)]
  have remainder (m : Int) : (m % k).toNat < k.toNat ∧ m / k * k + (m % k).toNat = m := by
    have nonneg : 0 ≤ m % k := Int.emod_nonneg m (by omega)
    have less : m % k < k := Int.emod_lt_of_pos m (by omega)
    rw [Int.toNat_of_nonneg nonneg, Int.ediv_mul_add_emod]
    exact ⟨by omega, rfl⟩
  constructor
  · intro h
    rcases h with ⟨r, hr, hs⟩
    rcases mem_blockSpots.mp hs with ⟨i, j, hi, hj, rfl⟩
    simpa only [Spot.move, Location.quotient, quotient _ hi, quotient _ hj] using hr
  · intro h
    refine ⟨_, h, mem_blockSpots.mpr ⟨_, _, (remainder s.place.1).1, (remainder s.place.2).1, ?_⟩⟩
    simp only [Spot.move, Location.quotient, (remainder _).2]

/-- Enlarging an object gives the object of the spots that contract to its spots. -/
theorem IsFigure.exists_enlarged (h : v.IsFigure S) (hbox : Bounds (Places S) box)
    (colored : ∀ s, S s → s.color.isSome) (pos : 1 ≤ k) :
    ∃ w, Grid.enlarge v (.int k) = .ok w ∧ w.IsFigure (Enlarged box.corner k S) := by
  rcases h.exists_enlarge hbox colored k with ⟨w, heq, figure⟩
  refine ⟨w, heq, figure.congr fun s => ?_⟩
  have back : box.toOrigin.back = box.corner.shift := by
    funext l
    simp [Location.back, Location.shift, Box.toOrigin, Box.corner]
  rw [moved_shift_iff, blocks_iff pos, moved_shift_iff, back]
  rfl

theorem colored_enlarged (colored : ∀ s, S s → s.color.isSome) (s : Spot) (hs : Enlarged c k S s) :
    s.color.isSome :=
  colored (s.move _) hs

/-! ## The box and the number of spots -/

/-- A number that contracts into an interval lies in the enlarged interval. -/
theorem between_of_ediv {m n start : Int} (pos : 1 ≤ k) (first : start ≤ (m - start) / k + start)
    (last : (m - start) / k + start ≤ n) : start ≤ m ∧ m ≤ start + (n - start + 1) * k - 1 := by
  have pos' : 0 < k := by omega
  have nonneg : 0 ≤ m - start := (Int.ediv_nonneg_iff_of_pos pos').mp (by omega)
  have less : m - start < (n - start + 1) * k := (Int.ediv_lt_iff_lt_mul pos').mp (by omega)
  omega

/-- The box of an enlarged object has the corner of the box and multiples of its dimensions. -/
theorem bounds_enlarged (hbox : Bounds (Places S) box) (pos : 1 ≤ k) :
    Bounds (Places (Enlarged box.corner k S)) (Box.sized box.corner (box.height * k) (box.width * k)) := by
  -- The block of an outermost location reaches the border with its first or its last location.
  have reached (l : Location) (hl : Places S l) {i : Int} (hi : 0 ≤ i ∧ i < k) :
      Places (Enlarged box.corner k S) (box.corner.expand k l (i, i)) := by
    rw [places_enlarged, Location.contract_expand hi hi]
    exact hl
  have first : 0 ≤ (0 : Int) ∧ 0 < k := by omega
  have last : 0 ≤ k - 1 ∧ k - 1 < k := by omega
  have rows (l : Location) (hl : Places (Enlarged box.corner k S) l) :
      box.top ≤ l.1 ∧ l.1 ≤ box.top + box.height * k - 1 := by
    rcases hbox.row_mem (places_enlarged.mp hl) with ⟨low, high⟩
    exact between_of_ediv pos low high
  have columns (l : Location) (hl : Places (Enlarged box.corner k S) l) :
      box.left ≤ l.2 ∧ l.2 ≤ box.left + box.width * k - 1 := by
    rcases hbox.column_mem (places_enlarged.mp hl) with ⟨low, high⟩
    exact between_of_ediv pos low high
  constructor
  · rcases hbox.top.1 with ⟨l, hl, top⟩
    refine isLeast_image_iff.mpr ⟨⟨_, reached l hl first, ?_⟩, fun l hl => (rows l hl).1⟩
    simp [Location.expand, Location.shift, Location.multiple, Location.back, Box.corner, Box.sized, top]
  · rcases hbox.left.1 with ⟨l, hl, left⟩
    refine isLeast_image_iff.mpr ⟨⟨_, reached l hl first, ?_⟩, fun l hl => (columns l hl).1⟩
    simp [Location.expand, Location.shift, Location.multiple, Location.back, Box.corner, Box.sized, left]
  · rcases hbox.bottom.1 with ⟨l, hl, bottom⟩
    refine isGreatest_image_iff.mpr ⟨⟨_, reached l hl last, ?_⟩, fun l hl => (rows l hl).2⟩
    simp only [Location.expand, Location.shift, Location.multiple, Location.back, Box.corner, Box.sized, Box.height,
      bottom]
    ring
  · rcases hbox.right.1 with ⟨l, hl, right⟩
    refine isGreatest_image_iff.mpr ⟨⟨_, reached l hl last, ?_⟩, fun l hl => (columns l hl).2⟩
    simp only [Location.expand, Location.shift, Location.multiple, Location.back, Box.corner, Box.sized, Box.width,
      right]
    ring

/-- Each of some spots at each place of the block to which it expands. -/
def enlargedSpots (c : Location) (n : Nat) (spots : List Spot) : List Spot :=
  (spots ×ˢ Location.all n n).map fun p => p.1.move fun l => c.expand n l p.2

section

variable {n : Nat} {spots : List Spot}

theorem length_enlargedSpots : (enlargedSpots c n spots).length = spots.length * (n * n) := by
  rw [enlargedSpots, List.length_map, List.length_product, Location.length_all]

theorem move_contract_expand {place : Location} (hplace : place ∈ Location.all n n) (r : Spot) :
    (r.move fun l => c.expand n l place).move (c.contract n) = r := by
  rcases Location.mem_all_iff.mp hplace with ⟨row, column⟩
  simp only [Spot.move, Location.contract_expand row column]

theorem mem_enlargedSpots (pos : 0 < n) {s : Spot} :
    s ∈ enlargedSpots c n spots ↔ s.move (c.contract n) ∈ spots := by
  rw [enlargedSpots, List.mem_map]
  constructor
  · intro hs
    rcases hs with ⟨⟨r, place⟩, hp, rfl⟩
    rw [List.mem_product] at hp
    rw [move_contract_expand hp.2]
    exact hp.1
  · intro hs
    rcases Location.exists_expand_contract (c := c) (Int.natCast_pos.mpr pos) s.place with ⟨place, inBlock, heq⟩
    refine ⟨(s.move (c.contract n), place), List.mem_product.mpr ⟨hs, Location.mem_all_iff.mpr inBlock⟩, ?_⟩
    simp only [Spot.move, heq]

/-- Blocks do not meet, and the places of a block are different. -/
theorem nodup_enlargedSpots (nodup : spots.Nodup) : (enlargedSpots c n spots).Nodup := by
  refine (nodup.product (Location.nodup_all n n)).map_on fun p hp q hq same => ?_
  have origin : p.1 = q.1 := by
    rw [← move_contract_expand (List.mem_product.mp hp).2 p.1, same,
      move_contract_expand (List.mem_product.mp hq).2]
  refine Prod.ext origin ?_
  have place := congrArg Spot.place same
  simp only [Spot.move, origin] at place
  exact Location.shift_injective _ (c.shift_injective place)

end

theorem IsFigure.length_eq_of_nodup (h : v.IsFigure S) {spots : List Spot} (nodup : spots.Nodup)
    (mem : ∀ s, s ∈ spots ↔ S s) : v.itemList.length = spots.length := by
  rcases h.exists_spots with ⟨items, hitems, mem'⟩
  have perm : items.Perm spots := by
    rw [List.perm_ext_iff_of_nodup (h.nodup_spots hitems) nodup]
    intro s
    rw [mem', mem]
  rw [hitems, List.length_map, perm.length_eq]

/-- Each spot of an object becomes a square block of spots. -/
theorem IsFigure.length_enlarged {n : Nat} (h : v.IsFigure S) (h' : w.IsFigure (Enlarged c n S)) (pos : 0 < n) :
    w.itemList.length = v.itemList.length * (n * n) := by
  rcases h.exists_spots with ⟨spots, hspots, mem⟩
  have mem' (s : Spot) : s ∈ enlargedSpots c n spots ↔ Enlarged c n S s := by
    rw [mem_enlargedSpots pos, mem, Enlarged]
  rw [h'.length_eq_of_nodup (nodup_enlargedSpots (h.nodup_spots hspots)) mem', length_enlargedSpots, hspots,
    List.length_map]

end Value

namespace Board

variable {b c : Board Value} {f : Location → Location}

theorem Samples.isSpot_iff (h : b.Samples f c) {s : Spot} : c.IsSpot s ↔ b.IsSpot (s.move f) := by
  have cells (inside : c.Inside s.place) : c.cell s.place = b.cell (f s.place) := h.cell _ inside
  constructor
  · intro hs
    rcases hs with ⟨inside, color⟩
    exact ⟨(h.inside _).mp inside, color.trans (congrArg some (cells inside))⟩
  · intro hs
    rcases hs with ⟨inside, color⟩
    have inside' : c.Inside s.place := (h.inside _).mpr inside
    exact ⟨inside', color.trans (congrArg some (cells inside').symm)⟩

/-- The object of an enlarged board is the enlarged object of the board. -/
theorem exists_gridObject_enlarge (g : Board Value) {k : Int} (pos : 1 ≤ k) :
    ∃ object up object', Grid.gridObject g.toValue = .ok object ∧ Grid.enlarge g.toValue (.int k) = .ok up ∧
      Grid.gridObject up = .ok object' ∧ Grid.enlarge object (.int k) = .ok object' := by
  have colored (s : Spot) (hs : g.IsSpot s) : s.color.isSome := by rw [hs.2]; rfl
  rcases g.exists_gridObject with ⟨object, hobject, figure⟩
  rcases g.exists_enlarge pos with ⟨up, hup, seen⟩
  rcases up.exists_gridObject with ⟨object', hobject', figure'⟩
  rcases figure.exists_enlarged g.bounds_box colored pos with ⟨w, hw, enlarged⟩
  refine ⟨object, up.toValue, object', hobject, hup, hobject', ?_⟩
  have same : w.IsFigure up.IsSpot := by
    refine enlarged.congr fun s => ?_
    rw [seen.isSpot_iff, ← Location.contract_origin]
    rfl
  rw [hw, same.unique figure']

end Board

namespace Value

/-! ## Laws of enlarging -/

/-- Enlarging an object agrees with enlarging a grid: the object of an enlarged grid is the enlarged object of the
grid. An enlarged object consists of the spots that contract to spots of the object. It keeps the upper left
corner, its dimensions are multiplied by the factor and the number of its cells by the square of it, and enlarging
by two factors one after the other is enlarging by their product. -/
theorem objects_enlarge_by_blocks (g : Board Value) {o : Value} (figure : o.IsFigure S) (some : ∃ s, S s)
    (colored : ∀ s, S s → s.color.isSome) {a b : Int} (ha : 1 ≤ a) (hb : 1 ≤ b) :
    (∃ object grid object', Grid.gridObject g.toValue = .ok object ∧ Grid.enlarge g.toValue (.int a) = .ok grid ∧
      Grid.gridObject grid = .ok object' ∧ Grid.enlarge object (.int a) = .ok object') ∧
    ∃ (corner : Location) (height width : Int) (n n' : Nat) (up upUp : Value),
      (Patch.upperLeft o = .ok corner.toValue ∧ Patch.shape o = .ok (.location height width) ∧ o.size = .ok n) ∧
      (Grid.enlarge o (.int a) = .ok up ∧ up.IsFigure (Enlarged corner a S)) ∧
      Patch.upperLeft up = .ok corner.toValue ∧
      Patch.shape up = .ok (.location (height * a) (width * a)) ∧
      (up.size = .ok n' ∧ (n' : Int) = n * (a * a)) ∧
      Grid.enlarge up (.int b) = .ok upUp ∧ Grid.enlarge o (.int (a * b)) = .ok upUp := by
  refine ⟨g.exists_gridObject_enlarge ha, ?_⟩
  have product : 1 ≤ a * b := one_le_mul_of_one_le_of_one_le ha hb
  rcases figure.exists_bounds some with ⟨box, hbox⟩
  rcases figure.exists_enlarged hbox colored ha with ⟨up, hup, enlarged⟩
  have hbox' := bounds_enlarged hbox ha
  rcases enlarged.exists_enlarged hbox' (colored_enlarged colored) hb with ⟨upUp, hupUp, enlargedTwice⟩
  rcases figure.exists_enlarged hbox colored product with ⟨w, hw, atOnce⟩
  have same : w = upUp := by
    refine atOnce.unique ?_
    rw [← enlarged_enlarged box.corner a hb]
    exact enlargedTwice
  have shape : Patch.shape up = .ok (.location (box.height * a) (box.width * a)) := by
    have dimensions : Patch.shape up = .ok (.location (Box.height _) (Box.width _)) := enlarged.shape hbox'
    rwa [Box.height_sized, Box.width_sized] at dimensions
  have corner := enlarged.isPatch.upperLeft hbox'
  have count : (up.itemList.length : Int) = o.itemList.length * (a * a) := by
    rcases Board.exists_natCast_of_one_le ha with ⟨n, pos, rfl⟩
    rw [figure.length_enlarged enlarged pos, Int.natCast_mul, Int.natCast_mul]
  exact ⟨box.corner, box.height, box.width, _, _, up, upUp,
    ⟨figure.isPatch.upperLeft hbox, figure.shape hbox, figure.isSetOf.size⟩, ⟨hup, enlarged⟩,
    corner, shape, ⟨enlarged.isSetOf.size, count⟩, hupUp, same ▸ hw⟩

/-- Two colors at one place, and a spot apart from it. -/
def overprint : List Spot :=
  [⟨some (.int 3), (-2, 4)⟩, ⟨some (.int 5), (-2, 4)⟩, ⟨some (.int 5), (-1, 7)⟩]

theorem isFigure_overprint : (setOf (overprint.map Spot.toValue)).IsFigure (· ∈ overprint) := by
  refine isFigure_setOf ?_ ?_ <;> simp [overprint, Spot.SameColor]

theorem bounds_overprint : Bounds (Places (· ∈ overprint)) ⟨-2, 4, -1, 7⟩ := by
  constructor <;> simp [isLeast_image_iff, isGreatest_image_iff, Places, overprint] <;> omega

theorem overprint_enlarged_twice :
    (setOf (overprint.map Spot.toValue)).IsFigure (· ∈ overprint) ∧ (∃ s, s ∈ overprint) ∧
    (∀ s ∈ overprint, s.color.isSome) ∧ (1 : Int) ≤ 2 ∧ (1 : Int) ≤ 3 ∧
    ∃ up upUp, Grid.enlarge (setOf (overprint.map Spot.toValue)) (.int 2) = .ok up ∧
      Patch.upperLeft up = .ok (.location (-2) 4) ∧ Patch.shape up = .ok (.location 4 8) ∧ up.size = .ok 12 ∧
      Grid.enlarge up (.int 3) = .ok upUp ∧
      Grid.enlarge (setOf (overprint.map Spot.toValue)) (.int 6) = .ok upUp := by
  have some : ∃ s, s ∈ overprint := ⟨_, List.mem_cons_self⟩
  have colored : ∀ s ∈ overprint, s.color.isSome := by simp [overprint]
  have two : (1 : Int) ≤ 2 := by decide
  have three : (1 : Int) ≤ 3 := by decide
  refine ⟨isFigure_overprint, some, colored, two, three, ?_⟩
  rcases objects_enlarge_by_blocks Board.quarters isFigure_overprint some colored two three with
    ⟨-, corner, height, width, n, n', up, upUp, ⟨hcorner, hshape, hsize⟩, ⟨hup, -⟩, hcorner', hshape',
      ⟨hsize', hcount⟩, twice, atOnce⟩
  rw [isFigure_overprint.isPatch.upperLeft bounds_overprint] at hcorner
  rw [isFigure_overprint.shape bounds_overprint] at hshape
  have dimensions : ((2 : Int), (4 : Int)) = (height, width) := Location.toValue_injective (Except.ok.inj hshape)
  rcases Prod.mk.inj dimensions with ⟨rfl, rfl⟩
  have cells : (setOf (overprint.map Spot.toValue)).itemList.length = 3 :=
    isFigure_overprint.length_eq_of_nodup (by simp [overprint]) fun _ => Iff.rfl
  have cells' : n' = 12 := by
    rw [isFigure_overprint.isSetOf.size, cells, Except.ok.injEq] at hsize
    omega
  exact ⟨up, upUp, hup, hcorner'.trans hcorner.symm, hshape', cells' ▸ hsize', twice, atOnce⟩

end Value

end GridPuzzle
