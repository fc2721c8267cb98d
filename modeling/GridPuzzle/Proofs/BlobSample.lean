import GridPuzzle.Sample.Grid
import GridPuzzle.Proofs.Traversal

/-!
# Samples of blobs

A sample of blobs is drawn from a source of numbers, which may give any numbers at all: only the range of each draw
is known. So what is proved of a sample holds of every sequence of draws.

* `exists_upTo` and `exists_item`: a draw from a range that is not empty succeeds and lies in the range.
* `writeRectangle_tabulate`: a rectangle that lies in a table is written without a fault, and colors its places and
  no others.
* `exists_addBlob`: one blob succeeds, and lies in the grid; `exists_addBlobs` carries it through any number of them,
  where later blobs may lie over earlier ones.
-/

namespace GridPuzzle

/-! ## Draws -/

namespace Draw

variable {σ α β : Type} {x : Draw σ α} {s s' : σ} {a : α}

theorem bind_of_ok {f : α → Draw σ β} (h : x s = .ok (a, s')) : (x >>= f) s = f a s' := by
  change (x s >>= fun p => f p.1 p.2) = _
  rw [h]
  rfl

theorem lift_of_ok {x : Outcome α} (h : x = .ok a) : (liftM x : Draw σ α) s = .ok (a, s) := by
  rw [h]
  rfl

end Draw

namespace Source

variable {σ α : Type} (source : Source σ)

theorem exists_upTo {low high : Int} (h : low ≤ high) (s : σ) :
    ∃ n s', source.upTo low high s = .ok (n, s') ∧ low ≤ n ∧ n ≤ high := by
  have some : ¬ high + 1 ≤ low := by omega
  have size : 0 < high + 1 - low := by omega
  refine ⟨low + (source.next s).1 % (high + 1 - low), (source.next s).2, ?_, ?_, ?_⟩
  · rw [upTo, between, if_neg some]
    rfl
  · have := Int.emod_nonneg (source.next s).1 (Int.ne_of_gt size)
    omega
  · have := Int.emod_lt_of_pos (source.next s).1 size
    omega

theorem exists_item {xs : List α} (h : xs ≠ []) (s : σ) : ∃ x s', source.item xs s = .ok (x, s') ∧ x ∈ xs := by
  cases xs with
  | nil => exact absurd rfl h
  | cons x rest =>
      refine ⟨_, (source.next s).2, rfl, ?_⟩
      have place : (source.next s).1 % (x :: rest).length < (x :: rest).length :=
        Nat.mod_lt _ (List.length_pos_iff.mpr h)
      rw [List.getD_eq_getElem?_getD, List.getElem?_eq_getElem place, Option.getD_some]
      exact List.getElem_mem place

end Source

namespace Sample

/-! ## Tables -/

section

variable {height width : Int} {f : Nat → Nat → Value} {color : Value}

theorem writeCell_tabulate {i j : Nat} (hi : i < height.toNat) (hj : j < width.toNat) :
    writeCell color (tabulate height width f) (i, j) =
      .ok (tabulate height width fun k l => if (k, l) = (i, j) then color else f k l) := by
  have row : (tabulate height width f)[i]? = some ((List.range width.toNat).map (f i)) := by
    simp [tabulate, hi]
  rw [writeCell, row]
  simp only [List.length_map, List.length_range, hj, if_true]
  congr 1
  refine List.ext_getElem (by simp [tabulate]) fun k hk _ => List.ext_getElem ?_ fun l hl _ => ?_
  · by_cases h : i = k <;> simp [tabulate, h]
  · by_cases h : i = k
    · by_cases h' : j = l <;> simp [tabulate, h, h', eq_comm]
    · simp [tabulate, h, Ne.symm h]

/-- Places of a table that are written one after the other have the color afterwards, and no others have changed. -/
theorem foldlM_writeCell_tabulate {places : List (Nat × Nat)}
    (h : ∀ p ∈ places, p.1 < height.toNat ∧ p.2 < width.toNat) :
    places.foldlM (writeCell color) (tabulate height width f) =
      .ok (tabulate height width fun i j => if (i, j) ∈ places then color else f i j) := by
  induction places generalizing f with
  | nil => simp
  | cons p places ih =>
      obtain ⟨hi, hj⟩ := h p List.mem_cons_self
      rw [List.foldlM_cons, writeCell_tabulate hi hj, Outcome.ok_bind,
        ih fun q hq => h q (List.mem_cons_of_mem p hq)]
      congr 2
      funext i j
      by_cases here : (i, j) = p <;> by_cases later : (i, j) ∈ places <;> simp [here, later]

end

theorem mem_rectangle {top left height width i j : Nat} :
    (i, j) ∈ rectangle top left height width ↔
      (top ≤ i ∧ i < top + height) ∧ left ≤ j ∧ j < left + width := by
  simp only [rectangle, List.mem_flatMap, List.mem_map, List.mem_range, Prod.mk.injEq]
  constructor
  · rintro ⟨k, hk, l, hl, rfl, rfl⟩
    omega
  · rintro ⟨hi, hj⟩
    exact ⟨i - top, by omega, j - left, by omega, by omega, by omega⟩

/-! ## Blobs -/

/-- A rectangle of one color. -/
structure Blob where
  color : Value
  top : Nat
  left : Nat
  height : Nat
  width : Nat

/-- The place is one of the blob. -/
def Blob.Covers (blob : Blob) (i j : Nat) : Prop :=
  (blob.top ≤ i ∧ i < blob.top + blob.height) ∧ blob.left ≤ j ∧ j < blob.left + blob.width

instance (blob : Blob) (i j : Nat) : Decidable (blob.Covers i j) :=
  inferInstanceAs (Decidable (_ ∧ _))

/-- The blob has a color of the palette and at least one place, and lies in a grid of a height and a width. -/
structure Blob.Fits (height width : Int) (palette : List Value) (blob : Blob) : Prop where
  color_mem : blob.color ∈ palette
  height_pos : 0 < blob.height
  width_pos : 0 < blob.width
  bottom_le : blob.top + blob.height ≤ height
  right_le : blob.left + blob.width ≤ width

/-- What is seen at the places of a grid with a blob on it. -/
def Blob.over (f : Nat → Nat → Value) (blob : Blob) (i j : Nat) : Value :=
  if blob.Covers i j then blob.color else f i j

variable {σ : Type} (source : Source σ) {height width : Int} {palette : List Value}

theorem Blob.Fits.covers_inside {blob : Blob} (fits : blob.Fits height width palette) {i j : Nat}
    (h : blob.Covers i j) : i < height ∧ j < width := by
  obtain ⟨⟨-, hi⟩, -, hj⟩ := h
  have bottom := fits.bottom_le
  have right := fits.right_le
  omega

theorem writeRectangle_tabulate {blob : Blob} (fits : blob.Fits height width palette) (f : Nat → Nat → Value) :
    writeRectangle blob.color blob.top blob.left blob.height blob.width (tabulate height width f) =
      .ok (tabulate height width (blob.over f)) := by
  have inside : ∀ p ∈ rectangle blob.top blob.left blob.height blob.width,
      p.1 < height.toNat ∧ p.2 < width.toNat := by
    rintro ⟨i, j⟩ hp
    have := fits.covers_inside (mem_rectangle.mp hp)
    omega
  rw [writeRectangle, foldlM_writeCell_tabulate inside]
  simp only [mem_rectangle]
  rfl

/-- The extent of a blob is drawn before its start. It is at most the size of the grid, so it leaves a range for the
start that is not empty and keeps the blob in the grid. -/
theorem start_add_extent_le {size extent start : Int} (size_pos : 1 ≤ size)
    (extent_le : extent ≤ max 1 (size.fdiv 3)) (start_le : start ≤ max 0 (size - extent)) :
    start + extent ≤ size := by
  rw [Int.fdiv_eq_ediv_of_nonneg size (by decide)] at extent_le
  omega

theorem exists_addBlob (height_pos : 1 ≤ height) (width_pos : 1 ≤ width) (colored : palette ≠ [])
    (f : Nat → Nat → Value) (s : σ) :
    ∃ blob s', Blob.Fits height width palette blob ∧
      addBlob source height width palette (tabulate height width f) s =
        .ok (tabulate height width (blob.over f), s') := by
  obtain ⟨color, s₁, hcolor, color_mem⟩ := source.exists_item colored s
  obtain ⟨h, s₂, hh, h_pos, h_le⟩ := source.exists_upTo (Int.le_max_left 1 (height.fdiv 3)) s₁
  obtain ⟨w, s₃, hw, w_pos, w_le⟩ := source.exists_upTo (Int.le_max_left 1 (width.fdiv 3)) s₂
  obtain ⟨top, s₄, htop, top_nonneg, top_le⟩ := source.exists_upTo (Int.le_max_left 0 (height - h)) s₃
  obtain ⟨left, s₅, hleft, left_nonneg, left_le⟩ := source.exists_upTo (Int.le_max_left 0 (width - w)) s₄
  have bottom := start_add_extent_le height_pos h_le top_le
  have right := start_add_extent_le width_pos w_le left_le
  have tall : 0 < h.toNat := by omega
  have wide : 0 < w.toNat := by omega
  have bottom_le : (top.toNat : Int) + h.toNat ≤ height := by omega
  have right_le : (left.toNat : Int) + w.toNat ≤ width := by omega
  have fits : Blob.Fits height width palette ⟨color, top.toNat, left.toNat, h.toNat, w.toNat⟩ :=
    ⟨color_mem, tall, wide, bottom_le, right_le⟩
  refine ⟨_, s₅, fits, ?_⟩
  rw [addBlob, Draw.bind_of_ok hcolor, Draw.bind_of_ok hh, Draw.bind_of_ok hw, Draw.bind_of_ok htop,
    Draw.bind_of_ok hleft]
  exact Draw.lift_of_ok (writeRectangle_tabulate fits f)

/-- Any number of blobs are drawn, one over the other. -/
theorem exists_addBlobs (height_pos : 1 ≤ height) (width_pos : 1 ≤ width) (colored : palette ≠ [])
    (count : Nat) (f : Nat → Nat → Value) (s : σ) :
    ∃ (blobs : List Blob) (s' : σ), blobs.length = count ∧ (∀ blob ∈ blobs, blob.Fits height width palette) ∧
      addBlobs source height width palette count (tabulate height width f) s =
        .ok (tabulate height width (blobs.foldl Blob.over f), s') := by
  induction count generalizing f s with
  | zero => exact ⟨[], s, rfl, by simp, rfl⟩
  | succ count ih =>
      obtain ⟨blob, s₁, fits, hblob⟩ := exists_addBlob source height_pos width_pos colored f s
      obtain ⟨blobs, s', hlength, hfits, hblobs⟩ := ih (blob.over f) s₁
      refine ⟨blob :: blobs, s', by rw [List.length_cons, hlength], List.forall_mem_cons.mpr ⟨fits, hfits⟩, ?_⟩
      rw [addBlobs, Draw.bind_of_ok hblob, hblobs]
      rfl

/-- The blob is the last one of a list that covers a place. -/
def Blob.IsTopAt (blobs : List Blob) (i j : Nat) (blob : Blob) : Prop :=
  blob.Covers i j ∧ ∃ below above, blobs = below ++ blob :: above ∧ ∀ later ∈ above, ¬ later.Covers i j

/-- A place shows the color of the last blob that covers it, or what was there before if there is none. -/
theorem foldl_over_cases (blobs : List Blob) (f : Nat → Nat → Value) (i j : Nat) :
    (∃ blob : Blob, blob.IsTopAt blobs i j ∧ blobs.foldl Blob.over f i j = blob.color) ∨
      (∀ blob ∈ blobs, ¬ blob.Covers i j) ∧ blobs.foldl Blob.over f i j = f i j := by
  induction blobs generalizing f with
  | nil => exact .inr ⟨by simp, rfl⟩
  | cons first blobs ih =>
      rw [List.foldl_cons]
      rcases ih (first.over f) with ⟨blob, ⟨covers, below, above, rfl, last⟩, hcolor⟩ | ⟨uncovered, hcolor⟩
      · exact .inl ⟨blob, ⟨covers, first :: below, above, rfl, last⟩, hcolor⟩
      · by_cases covers : first.Covers i j
        · exact .inl ⟨first, ⟨covers, [], blobs, rfl, uncovered⟩, hcolor.trans (if_pos covers)⟩
        · exact .inr ⟨List.forall_mem_cons.mpr ⟨covers, uncovered⟩, hcolor.trans (if_neg covers)⟩

theorem Blob.IsTopAt.mem {blobs : List Blob} {i j : Nat} {blob : Blob} (h : blob.IsTopAt blobs i j) :
    blob ∈ blobs := by
  obtain ⟨-, below, above, rfl, -⟩ := h
  exact List.mem_append_right below List.mem_cons_self

/-- **A sample of blobs is a grid of the size asked for.** Whatever numbers the source gives, the sample is drawn
without a fault: each blob lies in the grid and has a color of the palette, and a cell of the grid is background if
no blob covers it, and else has the color of the last blob that does. -/
theorem blobs_lie_in_the_grid (height_pos : 1 ≤ height) (width_pos : 1 ≤ width) (count : Int)
    (colored : palette ≠ []) (s : σ) :
    ∃ (drawn : List Blob) (rows : Rows) (s' : σ), blobs source height width count palette s = .ok (rows, s') ∧
      rows.length = height ∧ (∀ row ∈ rows, row.length = width) ∧
      (∀ row ∈ rows, ∀ v ∈ row, v = .int 0 ∨ v ∈ palette) ∧
      drawn.length = count.toNat ∧
      (∀ blob ∈ drawn, blob.Fits height width palette ∧ ∀ i j, blob.Covers i j → i < height ∧ j < width) ∧
      ∀ i j row v, rows[i]? = some row → row[j]? = some v →
        (∃ blob : Blob, blob.IsTopAt drawn i j ∧ v = blob.color) ∨ (∀ blob ∈ drawn, ¬ blob.Covers i j) ∧ v = .int 0 := by
  obtain ⟨drawn, s', hlength, hfits, hdrawn⟩ :=
    exists_addBlobs source height_pos width_pos colored count.toNat (fun _ _ => .int 0) s
  refine ⟨drawn, _, s', hdrawn, ?_, ?_, ?_, hlength, ?_, ?_⟩
  · simp only [tabulate, List.length_map, List.length_range]
    omega
  · intro row hrow
    obtain ⟨i, -, rfl⟩ := List.mem_map.mp hrow
    simp only [List.length_map, List.length_range]
    omega
  · intro row hrow v hv
    obtain ⟨i, -, rfl⟩ := List.mem_map.mp hrow
    obtain ⟨j, -, rfl⟩ := List.mem_map.mp hv
    rcases foldl_over_cases drawn (fun _ _ => .int 0) i j with ⟨blob, top, hcolor⟩ | ⟨-, hcolor⟩
    · exact .inr (hcolor ▸ (hfits blob top.mem).color_mem)
    · exact .inl hcolor
  · intro blob hblob
    exact ⟨hfits blob hblob, fun i j => (hfits blob hblob).covers_inside⟩
  · intro i j row v hrow hv
    simp only [tabulate, List.getElem?_map, Option.map_eq_some_iff] at hrow
    obtain ⟨_, hi, rfl⟩ := hrow
    simp only [List.getElem?_map, Option.map_eq_some_iff] at hv
    obtain ⟨_, hj, rfl⟩ := hv
    obtain ⟨-, rfl⟩ := List.getElem?_eq_some_iff.mp hi
    obtain ⟨-, rfl⟩ := List.getElem?_eq_some_iff.mp hj
    rw [List.getElem_range, List.getElem_range]
    exact foldl_over_cases drawn (fun _ _ => .int 0) i j

/-- The source that counts. -/
def counter : Source Nat where
  next s := (s, s + 1)

/-- In a grid of one row the second of two blobs hides the first one. -/
theorem hidden_blob_in_one_row :
    (1 : Int) ≤ 1 ∧ (1 : Int) ≤ 7 ∧ [Value.int 5, .int 6] ≠ [] ∧
    blobs counter 1 7 2 [.int 5, .int 6] 0 =
      .ok ([[.int 0, .int 0, .int 0, .int 6, .int 6, .int 0, .int 0]], 10) ∧
    ∃ drawn : List Blob, drawn.length = 2 ∧ (∀ blob ∈ drawn, blob.Fits 1 7 [.int 5, .int 6]) ∧
      (∃ blob : Blob, blob.IsTopAt drawn 0 4 ∧ blob.color = .int 6) ∧ ∀ blob ∈ drawn, ¬ blob.Covers 0 2 := by
  have colored : [Value.int 5, .int 6] ≠ [] := List.cons_ne_nil _ _
  have run : blobs counter 1 7 2 [.int 5, .int 6] 0 =
      .ok ([[.int 0, .int 0, .int 0, .int 6, .int 6, .int 0, .int 0]], 10) := rfl
  obtain ⟨drawn, rows, s', hrun, -, -, -, hlength, hfits, hcells⟩ :=
    blobs_lie_in_the_grid counter (Int.le_refl 1) (by decide : (1 : Int) ≤ 7) 2 colored 0
  obtain ⟨rfl, rfl⟩ := Prod.mk.inj (Except.ok.inj (run.symm.trans hrun))
  refine ⟨Int.le_refl 1, by decide, colored, run, drawn, hlength, fun blob hblob => (hfits blob hblob).1, ?_, ?_⟩
  · rcases hcells 0 4 _ _ rfl rfl with ⟨blob, top, hcolor⟩ | ⟨-, background⟩
    · exact ⟨blob, top, hcolor.symm⟩
    · cases background
  · rcases hcells 0 2 _ _ rfl rfl with ⟨blob, top, hcolor⟩ | ⟨uncovered, -⟩
    · -- Zero is no color of the palette.
      have color := (hfits blob top.mem).1.color_mem
      rw [← hcolor] at color
      simp at color
    · exact uncovered

end Sample

end GridPuzzle
