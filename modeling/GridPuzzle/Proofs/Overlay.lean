import GridPuzzle.Proofs.GridPart
import GridPuzzle.Proofs.TargetedWrite

/-!
# Reading and writing a part of a grid

A part of a grid is read by `Grid.crop`, with slices, and written by `Grid.overlay`, which paints another grid on it:
the cells of that grid become an object, which is shifted to where the part starts. Both are seen through the cells
of boards. A board after an overlay is given by what was written on it (`Board.Wrote`), so the laws of reading and
writing are about the written cells: those that were read are there already (`Board.wrote_part`), those that are
written are read (`Board.Wrote.part_eq`), and those that are written over are forgotten (`Board.Wrote.overwrite`).
-/

namespace GridPuzzle

/-- A grid with another one painted on it, the first cell of which comes to a location. -/
def Grid.overlay (grid start part : Value) : Outcome Value := do
  let object ← Grid.gridObject part
  Grid.paint grid (← Patch.shift object start)

namespace Board

open Value

variable {b x y out out' : Board Value} {start : Location} {S T : Spot → Prop}

/-! ## What an overlay writes -/

theorem moved_isSpot {c : Value} {l : Location} :
    Moved start.shift x.IsSpot ⟨some c, l⟩ ↔ x.Inside (start.back l) ∧ c = x.cell (start.back l) :=
  moved_shift_iff.trans (and_congr_right fun _ => Option.some_inj)

theorem distinct_isSpot (x : Board Value) : Distinct x.IsSpot := by
  intro r s hr hs place
  cases r
  cases s
  rw [Spot.mk.injEq]
  exact ⟨hr.2.trans ((congrArg (fun l => some (x.cell l)) place).trans hs.2.symm), place⟩

theorem exists_overlay (b x : Board Value) (start : Location) :
    ∃ out, Grid.overlay b.toValue start.toValue x.toValue = .ok out.toValue ∧
      b.Wrote (Moved start.shift x.IsSpot) out := by
  rcases x.exists_gridObject with ⟨object, hobject, figure⟩
  rcases figure.exists_shift start with ⟨shifted, hshifted, figure'⟩
  have colored : ∀ s, Moved start.shift x.IsSpot s → ∃ c, s.color = some c := by
    intro s hs
    rcases hs with ⟨r, hr, rfl⟩
    exact ⟨_, hr.2⟩
  rcases exists_paint_toValue figure' colored (x.distinct_isSpot.moved start.shift_injective) b with
    ⟨out, wrote, paints⟩
  refine ⟨out, ?_, wrote⟩
  rw [Grid.overlay, hobject, Outcome.ok_bind, hshifted, Outcome.ok_bind]
  exact paints shifted figure'.isSetOf.isOrderingOf_self

/-- A board with the cells of another one written on it is the overlay. -/
theorem Wrote.overlay_eq (h : b.Wrote (Moved start.shift x.IsSpot) out) :
    Grid.overlay b.toValue start.toValue x.toValue = .ok out.toValue := by
  rcases exists_overlay b x start with ⟨out', heq, wrote⟩
  rw [heq, wrote.unique h]

/-! ## The laws of reading and writing -/

/-- To write what was read changes nothing. -/
theorem wrote_part (b : Board Value) (start : Location) {rows columns : Nat} (some : 0 < rows) (some' : 0 < columns) :
    b.Wrote (Moved start.shift (b.part start some some').IsSpot) b where
  height := rfl
  width := rfl
  written c l _ spot := by
    rcases moved_isSpot.mp spot with ⟨inside, rfl⟩
    rw [cell_part inside, Location.shift_back]
  kept _ _ _ := rfl

/-- What was written is read, if the board reaches as far. -/
theorem Wrote.part_eq {top left : Nat} (h : b.Wrote (Moved (Location.shift (top, left)) x.IsSpot) out)
    (fits : top + x.height ≤ b.height ∧ left + x.width ≤ b.width) :
    out.part (top, left) x.height_pos x.width_pos = x := by
  refine ext_cell height_part rfl fun l inside => ?_
  rw [cell_part inside]
  have place : x.Inside l := by
    rwa [Inside, height_part, width_part] at inside
  have reach : b.Inside (Location.shift (top, left) l) := by
    rcases place with ⟨⟨row, row'⟩, column, column'⟩
    simp only [Inside, Location.shift]
    omega
  refine h.written _ _ reach (moved_isSpot.mpr ?_)
  rw [Location.back_shift]
  exact ⟨place, rfl⟩

/-- What is written over by a second run of writes is forgotten. -/
theorem Wrote.overwrite (h : b.Wrote S out) (h' : out.Wrote T out')
    (covers : ∀ c l, S ⟨some c, l⟩ → ∃ d, T ⟨some d, l⟩) : b.Wrote T out' := by
  have inside_iff (l : Location) : out.Inside l ↔ b.Inside l := by rw [Inside, h.height, h.width, Inside]
  refine ⟨h'.height.trans h.height, h'.width.trans h.width, fun c l inside spot => ?_, fun l inside none => ?_⟩
  · exact h'.written c l ((inside_iff l).mpr inside) spot
  · rw [h'.kept l ((inside_iff l).mpr inside) none, h.kept l inside]
    intro c spot
    rcases covers c l spot with ⟨d, spot'⟩
    exact none d spot'

/-- **A part of a grid is read and written lawfully.** Take a part that lies on a board, and two grids that have its
dimensions. If the part is read and written again, the board stays as it is. If one of the grids is written, it is
what is read. If the other one is written after it, the board is as if only that one had been written. -/
theorem parts_are_read_and_written_lawfully (g a b : Board Value) (start dimensions : Location)
    (nonneg : 0 ≤ start.1 ∧ 0 ≤ start.2)
    (fits : start.1 + dimensions.1 ≤ g.height ∧ start.2 + dimensions.2 ≤ g.width)
    (ha : Patch.shape a.toValue = .ok dimensions.toValue) (hb : Patch.shape b.toValue = .ok dimensions.toValue) :
    ∃ part withA withB : Board Value,
      Grid.crop g.toValue start.toValue dimensions.toValue = .ok part.toValue ∧
      Grid.overlay g.toValue start.toValue part.toValue = .ok g.toValue ∧
      Grid.overlay g.toValue start.toValue a.toValue = .ok withA.toValue ∧
      Grid.crop withA.toValue start.toValue dimensions.toValue = .ok a.toValue ∧
      Grid.overlay withA.toValue start.toValue b.toValue = .ok withB.toValue ∧
      Grid.overlay g.toValue start.toValue b.toValue = .ok withB.toValue := by
  rcases start with ⟨row, column⟩
  rcases Int.eq_ofNat_of_zero_le nonneg.1 with ⟨top, rfl⟩
  rcases Int.eq_ofNat_of_zero_le nonneg.2 with ⟨left, rfl⟩
  rw [shape_toValue] at ha hb
  obtain rfl : ((a.height : Int), (a.width : Int)) = dimensions := Location.toValue_injective (Except.ok.inj ha)
  rcases Prod.mk.inj (Location.toValue_injective (Except.ok.inj hb)) with ⟨height, width⟩
  have fits' : top + a.height ≤ g.height ∧ left + a.width ≤ g.width :=
    ⟨Int.ofNat_le.mp fits.1, Int.ofNat_le.mp fits.2⟩
  rcases exists_overlay g a (top, left) with ⟨withA, overlayA, wroteA⟩
  rcases exists_overlay withA b (top, left) with ⟨withB, overlayB, wroteB⟩
  have reading : Grid.crop withA.toValue (.location top left) (.location a.height a.width) =
      .ok (withA.part (top, left) a.height_pos a.width_pos).toValue :=
    withA.crop_part _ _ (by rwa [wroteA.height, wroteA.width])
  rw [wroteA.part_eq fits'] at reading
  have covers : ∀ c l, Moved (Location.shift (top, left)) a.IsSpot ⟨some c, l⟩ →
      ∃ d, Moved (Location.shift (top, left)) b.IsSpot ⟨some d, l⟩ := by
    intro c l spot
    have inside : b.Inside (Location.back (top, left) l) := by
      rw [Inside, Int.ofNat_inj.mp height, Int.ofNat_inj.mp width]
      exact (moved_isSpot.mp spot).1
    exact ⟨_, moved_isSpot.mpr ⟨inside, rfl⟩⟩
  exact ⟨_, withA, withB, g.crop_part a.height_pos a.width_pos fits', (g.wrote_part _ _ _).overlay_eq, overlayA,
    reading, overlayB, (wroteA.overwrite wroteB covers).overlay_eq⟩

/-- One row of two cells of one color. -/
def twins (color : Int) : Board Value :=
  uniform Nat.one_pos Nat.two_pos (.int color)

theorem lower_row_is_read_and_written :
    (1 : Int) + 1 ≤ quarters.height ∧ (0 : Int) + 2 ≤ quarters.width ∧
    Patch.shape (twins 7).toValue = .ok (.location 1 2) ∧ Patch.shape (twins 5).toValue = .ok (.location 1 2) ∧
    ∃ withSevens withFives : Board Value,
      Grid.overlay quarters.toValue (.location 1 0) (twins 7).toValue = .ok withSevens.toValue ∧
      Grid.crop withSevens.toValue (.location 1 0) (.location 1 2) = .ok (twins 7).toValue ∧
      Grid.overlay withSevens.toValue (.location 1 0) (twins 5).toValue = .ok withFives.toValue ∧
      Grid.overlay quarters.toValue (.location 1 0) (twins 5).toValue = .ok withFives.toValue := by
  have shape (color : Int) : Patch.shape (twins color).toValue = .ok (.location 1 2) := (twins color).shape_toValue
  refine ⟨by decide, by decide, shape 7, shape 5, ?_⟩
  rcases parts_are_read_and_written_lawfully quarters (twins 7) (twins 5) (1, 0) (1, 2) (by decide) (by decide)
    (shape 7) (shape 5) with ⟨-, withSevens, withFives, -, -, laws⟩
  exact ⟨withSevens, withFives, laws⟩

end Board

end GridPuzzle
