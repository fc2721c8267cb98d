import GridPuzzle.Proofs.ObjectComponents
import GridPuzzle.Proofs.Painting

/-!
# Taking a board apart and putting it together again

The union of some objects of a board is the object of all their cells (`exists_flatten_objects`). For the
objects without background these are the cells that differ from the background. So a board is its background
with its objects painted on it, and what is left of it without the objects is the background.
-/

namespace GridPuzzle

namespace Board

variable {g : Board Int} {P : Location → Prop}

/-! ## Objects of a board as patches -/

theorem IsObject.isCellSet {object : Value} (h : g.IsObject P object) :
    object.IsCellSet fun c l => P l ∧ c = g.cell l := by
  refine h.congr fun v => ?_
  constructor
  · rintro ⟨l, hl, rfl⟩
    exact ⟨g.cell l, l, ⟨hl, rfl⟩, rfl⟩
  · rintro ⟨c, l, ⟨hl, rfl⟩, rfl⟩
    exact ⟨l, hl, rfl⟩

theorem IsObject.isPatch {object : Value} (h : g.IsObject P object) : object.IsPatch P :=
  h.isCellSet.isPatch.congr fun _ => ⟨fun ⟨_, hl, _⟩ => hl, fun hl => ⟨_, hl, rfl⟩⟩

/-- The union of some objects is the object of the cells that belong to one of them. -/
theorem exists_flatten_objects {found : Value} {Q : Value → Prop} (hfound : found.IsSetOf Q)
    (hobject : ∀ o, Q o → ∃ region, g.IsObject region o) :
    ∃ merged, Container.flatten found = .ok merged ∧
      g.IsObject (fun l => ∃ o ∈ found, g.cellValue l ∈ o) merged := by
  have sets : ∀ o, Q o → ∃ items, o = .set items := by
    intro o ho
    obtain ⟨region, ⟨items, rfl, -⟩, -⟩ := hobject o ho
    exact ⟨items, rfl⟩
  have plain : ∀ o, Q o → Value.Plain o := by
    intro o ho
    obtain ⟨region, h⟩ := hobject o ho
    exact h.plain
  obtain ⟨merged, heq, hmerged⟩ := hfound.exists_flatten sets plain
  refine ⟨merged, heq, hmerged.congr fun v => ?_⟩
  constructor
  · rintro ⟨o, ho, hv⟩
    obtain ⟨region, h⟩ := hobject o ((hfound.mem_iff o).mp ho)
    obtain ⟨l, -, rfl⟩ := (h.mem_iff v).mp hv
    exact ⟨l, ⟨o, ho, hv⟩, rfl⟩
  · rintro ⟨l, ⟨o, ho, hl⟩, rfl⟩
    exact ⟨o, ho, hl⟩

/-- The objects of a board, merged, are the object of its eligible cells. -/
theorem exists_merged_objects (g : Board Int) (oneColor acrossCorners withoutBackground : Bool) :
    ∃ merged, (do Container.flatten (← Grid.objects g.grid (.bool oneColor) (.bool acrossCorners)
        (.bool withoutBackground))) = .ok merged ∧
      g.IsObject (g.Eligible withoutBackground) merged := by
  obtain ⟨found, heq, hfound⟩ := g.exists_objects oneColor acrossCorners withoutBackground
  obtain ⟨merged, hflatten, hmerged⟩ := exists_flatten_objects hfound fun o ⟨k, _, ho⟩ => ⟨_, ho⟩
  refine ⟨merged, by rw [heq, Outcome.ok_bind, hflatten], hmerged.congr fun v => ?_⟩
  simp only [exists_object_iff hfound]

/-! ## The background -/

/-- A board of the background color alone. -/
def blank (g : Board Int) : Board Int :=
  g.redraw fun _ => g.background

theorem canvas_mostColor (g : Board Int) :
    (do Grid.canvas (← Grid.mostColor g.grid) (← Patch.shape g.grid)) = .ok g.blank.grid := by
  rw [mostColor_grid, Outcome.ok_bind, shape_grid, Outcome.ok_bind, canvas_grid]
  rfl

theorem cell_eq_background {l : Location} (h : g.Inside l) (left_out : ¬ g.Eligible true l) :
    g.cell l = g.background := by
  by_contra ne
  exact left_out ⟨h, fun _ => ne⟩

open Classical in
theorem redraw_foreground (g : Board Int) :
    (g.blank.redraw fun l => if g.Eligible true l then g.cell l else g.blank.cell l) = g := by
  refine ext_cell (by simp [blank]) rfl fun l hl => ?_
  have hl' : g.Inside l := by simpa [blank] using hl
  rw [cell_redraw (by simpa [blank] using hl'), blank, cell_redraw hl']
  split
  next => rfl
  next h => exact (cell_eq_background hl' h).symm

open Classical in
theorem redraw_background (g : Board Int) :
    (g.redraw fun l => if g.Eligible true l then g.background else g.cell l) = g.blank := by
  refine ext_cell (by simp [blank]) rfl fun l hl => ?_
  have hl' : g.Inside l := by simpa using hl
  rw [blank, cell_redraw hl', cell_redraw hl']
  split
  next => rfl
  next h => exact cell_eq_background hl' h

/-- **Taking a board apart into objects loses nothing.** Painting the merged objects on a canvas of the most
frequent color gives the board back, and erasing them from the board leaves the canvas. -/
theorem paint_erase_objects (g : Board Int) (oneColor acrossCorners : Bool) :
    ∃ canvas merged,
      (do Grid.canvas (← Grid.mostColor g.grid) (← Patch.shape g.grid)) = .ok canvas ∧
      (do Container.flatten (← Grid.objects g.grid (.bool oneColor) (.bool acrossCorners)
        (.bool true))) = .ok merged ∧
      Grid.paint canvas merged = .ok g.grid ∧
      Grid.erasePatch g.grid merged = .ok canvas := by
  classical
  obtain ⟨merged, heq, hmerged⟩ := g.exists_merged_objects oneColor acrossCorners true
  refine ⟨g.blank.grid, merged, g.canvas_mostColor, heq, ?_, ?_⟩
  · rw [paint_grid g.blank hmerged.isCellSet, redraw_foreground]
  · rw [erasePatch_grid g hmerged.isPatch, redraw_background]

end Board

end GridPuzzle
