import GridPuzzle.Grid.Cell
import GridPuzzle.Proofs.PatchFigure
import GridPuzzle.Proofs.Symmetry

/-!
# Flipped patches

A flip moves the spots of a patch inside the box that bounds it. Where it moves them is one formula
(`Flip.place`), and the box of the result is another (`Flip.newBox`), so that two flips after each other are
compared on locations (`IsFigure.exists_flip_flip`).

The cells of a board are a patch too, and in the box of a board a flip of patches moves a location as the
symmetry of boards does (`Board.place_box`). So the object of a flipped grid is the flipped object of the grid.
-/

namespace GridPuzzle

namespace Flip

/-- The location to which the spot at a location of a patch with the given box moves. -/
def place (box : Box) : Flip → Location → Location
  | .rows, l => (box.top + box.bottom - l.1, l.2)
  | .columns, l => (l.1, box.left + box.right - l.2)
  | .diagonal, l => (l.2 - box.left + box.top, l.1 - box.top + box.left)
  | .antidiagonal, l => (box.top + box.right - l.2, box.left + box.bottom - l.1)

/-- The box of a flipped patch. Its upper left corner is that of the patch. -/
def newBox (box : Box) : Flip → Box
  | .rows | .columns => box
  | .diagonal | .antidiagonal =>
    { box with bottom := box.top + (box.right - box.left), right := box.left + (box.bottom - box.top) }

variable (box : Box)

theorem newBox_top (f : Flip) : (f.newBox box).top = box.top := by
  cases f <;> rfl

theorem newBox_left (f : Flip) : (f.newBox box).left = box.left := by
  cases f <;> rfl

theorem place_place (f : Flip) : f.place (f.newBox box) ∘ f.place box = id := by
  funext l
  cases f <;> ext <;> simp only [place, newBox, Function.comp_apply, id_eq] <;> omega

theorem place_injective (f : Flip) : Function.Injective (f.place box) :=
  Function.LeftInverse.injective (g := f.place (f.newBox box)) (congrFun (f.place_place box))

theorem place_antidiagonal :
    place box .antidiagonal =
      place (newBox box .diagonal) .columns ∘ place box .diagonal ∘ place box .columns := by
  funext l
  ext <;> simp only [place, newBox, Function.comp_apply] <;> omega

theorem place_diagonal_rows :
    place box .diagonal ∘ place box .rows = place (newBox box .diagonal) .columns ∘ place box .diagonal := by
  funext l
  refine Prod.ext rfl ?_
  simp only [place, newBox, Function.comp_apply]
  omega

end Flip

namespace Value

variable {v : Value} {S : Spot → Prop} {box : Box}

/-! ## The box of a flipped patch -/

/-- The outermost rows and columns of a flipped patch are those of the patch, in another order. -/
theorem bounds_moved (hbox : Bounds (Places S) box) (f : Flip) :
    Bounds (Places (Moved (f.place box) S)) (f.newBox box) := by
  have image (g : Location → Int) : g '' {l | Places (Moved (f.place box) S) l} =
      (fun l => g (f.place box l)) '' {l | Places S l} := by
    rw [setOf_places_moved, Set.image_image]
  have reversal (c : Int) : Antitone (c - ·) := fun _ _ h => Int.sub_le_sub_left h c
  have translation (c d : Int) : Monotone (· - c + d) := fun _ _ h => by
    dsimp only
    omega
  obtain ⟨top, left, bottom, right⟩ := hbox
  cases f with
  | rows =>
      have least := (reversal (box.top + box.bottom)).map_isGreatest bottom
      have greatest := (reversal (box.top + box.bottom)).map_isLeast top
      refine ⟨?_, ?_, ?_, ?_⟩ <;> rw [image]
      · simpa [Set.image_image, Flip.place, Flip.newBox] using least
      · exact left
      · simpa [Set.image_image, Flip.place, Flip.newBox] using greatest
      · exact right
  | columns =>
      have least := (reversal (box.left + box.right)).map_isGreatest right
      have greatest := (reversal (box.left + box.right)).map_isLeast left
      refine ⟨?_, ?_, ?_, ?_⟩ <;> rw [image]
      · exact top
      · simpa [Set.image_image, Flip.place, Flip.newBox] using least
      · exact bottom
      · simpa [Set.image_image, Flip.place, Flip.newBox] using greatest
  | diagonal =>
      have least := (translation box.left box.top).map_isLeast left
      have least' := (translation box.top box.left).map_isLeast top
      have greatest := (translation box.left box.top).map_isGreatest right
      have greatest' := (translation box.top box.left).map_isGreatest bottom
      refine ⟨?_, ?_, ?_, ?_⟩ <;> rw [image]
      · simpa [Set.image_image, Flip.place, Flip.newBox] using least
      · simpa [Set.image_image, Flip.place, Flip.newBox] using least'
      · simpa [Set.image_image, Flip.place, Flip.newBox, add_comm] using greatest
      · simpa [Set.image_image, Flip.place, Flip.newBox, add_comm] using greatest'
  | antidiagonal =>
      have least := (reversal (box.top + box.right)).map_isGreatest right
      have least' := (reversal (box.left + box.bottom)).map_isGreatest bottom
      have greatest := (reversal (box.top + box.right)).map_isLeast left
      have greatest' := (reversal (box.left + box.bottom)).map_isLeast top
      refine ⟨?_, ?_, ?_, ?_⟩ <;> rw [image]
      · simpa [Set.image_image, Flip.place, Flip.newBox] using least
      · simpa [Set.image_image, Flip.place, Flip.newBox] using least'
      · simpa [Set.image_image, Flip.place, Flip.newBox, add_sub_assoc] using greatest
      · simpa [Set.image_image, Flip.place, Flip.newBox, add_sub_assoc] using greatest'

/-! ## Flipping a patch -/

section

variable (h : v.IsFigure S) (hbox : Bounds (Places S) box)
include h hbox

theorem IsFigure.exists_flip_of_relocate {f : Flip} (move : Value → Value → Outcome (Value × Value))
    (heq : f.apply v = Patch.relocate move v)
    (hmove : ∀ l : Location,
      move (.int l.1) (.int l.2) = .ok (.int (f.place box l).1, .int (f.place box l).2)) :
    ∃ w, f.apply v = .ok w ∧ w.IsFigure (Moved (f.place box) S) := by
  obtain ⟨_, s, hs, -⟩ := hbox.exists_location
  rw [heq]
  exact h.relocate ⟨s, hs⟩ move (f.place box) hmove (f.place_injective box)

theorem IsFigure.exists_flipRows :
    ∃ w, Grid.flipRows v = .ok w ∧ w.IsFigure (Moved (Flip.rows.place box) S) := by
  have upperLeft := h.isPatch.upperLeft hbox
  have lowerRight := h.isPatch.lowerRight hbox
  refine h.exists_flip_of_relocate (f := .rows) hbox
    (fun row column => return (← (Value.int (box.top + box.bottom)).sub row, column)) ?_ fun _ => rfl
  obtain ⟨items, rfl, -⟩ := h.isSetOf.1
  simp only [Flip.apply, Grid.flipRows, upperLeft, lowerRight]
  rfl

theorem IsFigure.exists_flipColumns :
    ∃ w, Grid.flipColumns v = .ok w ∧ w.IsFigure (Moved (Flip.columns.place box) S) := by
  have upperLeft := h.isPatch.upperLeft hbox
  have lowerRight := h.isPatch.lowerRight hbox
  refine h.exists_flip_of_relocate (f := .columns) hbox
    (fun row column => return (row, ← (Value.int (box.left + box.right)).sub column)) ?_ fun _ => rfl
  obtain ⟨items, rfl, -⟩ := h.isSetOf.1
  simp only [Flip.apply, Grid.flipColumns, upperLeft, lowerRight]
  rfl

theorem IsFigure.exists_transpose :
    ∃ w, Grid.transpose v = .ok w ∧ w.IsFigure (Moved (Flip.diagonal.place box) S) := by
  have upperLeft := h.isPatch.upperLeft hbox
  refine h.exists_flip_of_relocate (f := .diagonal) hbox
    (fun row column => return (← (← column.sub (.int box.left)).add (.int box.top),
      ← (← row.sub (.int box.top)).add (.int box.left))) ?_ fun _ => rfl
  obtain ⟨items, rfl, -⟩ := h.isSetOf.1
  simp only [Flip.apply, Grid.transpose, upperLeft]
  rfl

/-- The flip along the other diagonal is a flip along the diagonal between two flips of the columns. -/
theorem IsFigure.exists_antiTranspose :
    ∃ w, Grid.antiTranspose v = .ok w ∧ w.IsFigure (Moved (Flip.antidiagonal.place box) S) := by
  obtain ⟨w₁, heq₁, hw₁⟩ := h.exists_flipColumns hbox
  have hbox₁ := bounds_moved hbox .columns
  obtain ⟨w₂, heq₂, hw₂⟩ := hw₁.exists_transpose hbox₁
  have hbox₂ := bounds_moved hbox₁ .diagonal
  obtain ⟨w₃, heq₃, hw₃⟩ := hw₂.exists_flipColumns hbox₂
  refine ⟨w₃, ?_, hw₃.congr fun s => ?_⟩
  · obtain ⟨items, rfl, -⟩ := h.isSetOf.1
    simp only [Grid.antiTranspose]
    rw [heq₁, Outcome.ok_bind, heq₂, Outcome.ok_bind, heq₃]
  · rw [moved_moved, moved_moved, Flip.place_antidiagonal]
    rfl

/-- A flip of a patch moves its spots. -/
theorem IsFigure.exists_flip (f : Flip) :
    ∃ w, f.apply v = .ok w ∧ w.IsFigure (Moved (f.place box) S) := by
  cases f with
  | rows => exact h.exists_flipRows hbox
  | columns => exact h.exists_flipColumns hbox
  | diagonal => exact h.exists_transpose hbox
  | antidiagonal => exact h.exists_antiTranspose hbox

theorem IsFigure.exists_flip_flip (f g : Flip) :
    ∃ w, (do g.apply (← f.apply v)) = .ok w ∧
      w.IsFigure (Moved (g.place (f.newBox box) ∘ f.place box) S) := by
  obtain ⟨u, heq, hu⟩ := h.exists_flip hbox f
  obtain ⟨w, heq', hw⟩ := hu.exists_flip (bounds_moved hbox f) g
  exact ⟨w, by rw [heq, Outcome.ok_bind, heq'], hw.congr fun _ => moved_moved⟩

/-- Flips after each other that move locations alike do the same to a patch. -/
theorem IsFigure.flip_flip_eq (f g f' g' : Flip)
    (heq : g.place (f.newBox box) ∘ f.place box = g'.place (f'.newBox box) ∘ f'.place box) :
    (do g.apply (← f.apply v)) = (do g'.apply (← f'.apply v)) := by
  obtain ⟨w, hw, figure⟩ := h.exists_flip_flip hbox f g
  obtain ⟨w', hw', figure'⟩ := h.exists_flip_flip hbox f' g'
  rw [hw, hw', figure.unique (heq ▸ figure')]

end

end Value

/-! ## The object of a board -/

namespace Table

theorem mem_cells {α : Type} {rows : List (List α)} {i j : Nat} {x : α} :
    (i, j, x) ∈ cells rows ↔ rows[i]?.bind (·[j]?) = some x := by
  simp only [cells, List.mem_flatMap, List.mem_map, Prod.exists, mem_indexed, Option.bind_eq_some_iff]
  constructor
  · rintro ⟨_, row, hrow, _, _, hx, heq⟩
    cases heq
    exact ⟨row, hrow, hx⟩
  · rintro ⟨row, hrow, hx⟩
    exact ⟨i, row, hrow, j, x, hx, rfl⟩

end Table

namespace Board

variable {b : Board Value}

/-- A cell of a board as a spot. -/
def IsSpot (b : Board Value) (s : Spot) : Prop :=
  b.Inside s.place ∧ s.color = some (b.cell s.place)

theorem mem_cells_iff {i j : Nat} {x : Value} :
    (i, j, x) ∈ Table.cells b.rows ↔ b.IsSpot ⟨some x, (i, j)⟩ := by
  rw [Table.mem_cells]
  constructor
  · intro h
    obtain ⟨row, hrow, hx⟩ := Option.bind_eq_some_iff.mp h
    obtain ⟨hi, rfl⟩ := List.getElem?_eq_some_iff.mp hrow
    obtain ⟨hj, -⟩ := List.getElem?_eq_some_iff.mp hx
    rw [b.length_row _ (List.getElem_mem hi)] at hj
    have inside := inside_natCast (b := b) hi hj
    exact ⟨inside, h.symm.trans (cell?_eq_some_cell inside)⟩
  · rintro ⟨inside, color⟩
    exact (cell?_eq_some_cell inside).trans color.symm

/-- The object of a grid is the patch of its cells. -/
theorem exists_gridObject (b : Board Value) :
    ∃ object, Grid.gridObject b.toValue = .ok object ∧ object.IsFigure b.IsSpot := by
  let spot (c : Nat × Nat × Value) : Spot := ⟨some c.2.2, (c.1, c.2.1)⟩
  have mem : ∀ s, s ∈ (Table.cells b.rows).map spot ↔ b.IsSpot s := by
    intro s
    rw [List.mem_map]
    constructor
    · rintro ⟨⟨i, j, x⟩, hx, rfl⟩
      exact mem_cells_iff.mp hx
    · obtain ⟨color, l⟩ := s
      rintro ⟨inside, rfl : color = some (b.cell l)⟩
      obtain ⟨i, j, -, -, rfl⟩ := inside.exists_natCast
      exact ⟨_, mem_cells_iff.mpr ⟨inside, rfl⟩, rfl⟩
  have figure : (Value.setOf (((Table.cells b.rows).map spot).map Spot.toValue)).IsFigure b.IsSpot := by
    refine (Value.isFigure_setOf ?_ ?_).congr mem
    · intro r hr s hs
      rw [((mem r).mp hr).2, ((mem s).mp hs).2]
      rfl
    · -- One place has one cell, whatever the colors are.
      rintro ⟨color, l⟩ hr ⟨color', l'⟩ hs - (rfl : l = l')
      rw [Spot.mk.injEq]
      exact ⟨((mem _).mp hr).2.trans ((mem _).mp hs).2.symm, rfl⟩
  refine ⟨_, ?_, figure⟩
  rw [Grid.gridObject, rows_toValue, Outcome.ok_bind, List.map_map]
  rfl

/-- The box of all cells. -/
def box (b : Board Value) : Box :=
  ⟨0, 0, b.height - 1, b.width - 1⟩

theorem places_isSpot {l : Location} : Value.Places b.IsSpot l ↔ b.Inside l := by
  constructor
  · rintro ⟨s, hs, rfl⟩
    exact hs.1
  · intro hl
    exact ⟨⟨some (b.cell l), l⟩, ⟨hl, rfl⟩, rfl⟩

theorem bounds_inside (b : Board Value) : Bounds b.Inside b.box := by
  have hheight := b.height_pos
  have hwidth := b.width_pos
  have first : b.Inside (0, 0) := by
    rw [Inside]
    omega
  have last : b.Inside (b.height - 1, b.width - 1) := by
    rw [Inside]
    omega
  constructor
  all_goals simp only [Value.isLeast_image_iff, Value.isGreatest_image_iff]
  · exact ⟨⟨_, first, rfl⟩, fun l hl => hl.1.1⟩
  · exact ⟨⟨_, first, rfl⟩, fun l hl => hl.2.1⟩
  · exact ⟨⟨_, last, rfl⟩, fun l hl => Int.le_sub_one_of_lt hl.1.2⟩
  · exact ⟨⟨_, last, rfl⟩, fun l hl => Int.le_sub_one_of_lt hl.2.2⟩

theorem bounds_box (b : Board Value) : Bounds (Value.Places b.IsSpot) b.box := by
  have places : Value.Places b.IsSpot = b.Inside := funext fun _ => propext places_isSpot
  rw [places]
  exact b.bounds_inside

/-- In the box of a board, a flip moves locations as the symmetry of the board does. -/
theorem place_box (b : Board Value) (f : Flip) :
    f.place b.box = (Symmetry.flip f).place b.height b.width := by
  funext l
  cases f <;> simp [Flip.place, Symmetry.place, box]

theorem moved_isSpot_iff {f : Flip} {s : Spot} :
    Value.Moved (f.place b.box) b.IsSpot s ↔ (b.turn (.flip f)).IsSpot s := by
  have carries := b.carries_turn (.flip f)
  rw [place_box]
  constructor
  · rintro ⟨r, ⟨inside, color⟩, rfl⟩
    exact ⟨carries.inside inside, color.trans (congrArg some (carries.cell inside).symm)⟩
  · rintro ⟨inside, color⟩
    obtain ⟨k, hk, hplace⟩ := exists_place_of_inside inside
    refine ⟨⟨s.color, k⟩, ⟨hk, ?_⟩, ?_⟩
    · rw [color, ← hplace, carries.cell hk]
    · rw [Spot.move, hplace]

/-- The flipped object of a grid is the object of the flipped grid. -/
theorem exists_flip_gridObject (b : Board Value) (f : Flip) :
    ∃ turned object flipped, f.apply b.toValue = .ok turned ∧ Grid.gridObject b.toValue = .ok object ∧
      f.apply object = .ok flipped ∧ Grid.gridObject turned = .ok flipped := by
  obtain ⟨object, hobject, figure⟩ := b.exists_gridObject
  obtain ⟨flipped, hflipped, figure'⟩ := figure.exists_flip b.bounds_box f
  obtain ⟨object', hobject', figure''⟩ := (b.turn (.flip f)).exists_gridObject
  refine ⟨_, object, flipped, b.apply_toValue (.flip f), hobject, hflipped, ?_⟩
  rw [hobject', figure''.unique (figure'.congr fun _ => moved_isSpot_iff)]

end Board

/-! ## The laws of flips -/

namespace Value

variable {v : Value} {S : Spot → Prop} {box : Box}

/-- A flip is undone by itself. -/
theorem IsFigure.flip_flip_self (h : v.IsFigure S) (hbox : Bounds (Places S) box) (f : Flip) :
    (do f.apply (← f.apply v)) = .ok v := by
  obtain ⟨w, heq, hw⟩ := h.exists_flip_flip hbox f f
  rw [f.place_place] at hw
  rw [heq, h.unique (hw.congr fun _ => moved_id)]

/-- **Flips of patches agree with flips of grids and obey the same laws.** The object of a flipped grid is the
flipped object of the grid. A flip of a patch that is not empty moves its spots inside their box and is undone
by itself; it keeps the upper left corner, and it keeps the dimensions or exchanges them. The flips of rows
and of columns commute, and the flip along the diagonal turns the one into the other. -/
theorem flips_of_grids_and_patches :
    (∀ (g : Board Value) (f : Flip), ∃ turned object flipped,
      f.apply g.toValue = .ok turned ∧ Grid.gridObject g.toValue = .ok object ∧
      f.apply object = .ok flipped ∧ Grid.gridObject turned = .ok flipped) ∧
    ∀ (p : Value) (S : Spot → Prop), p.IsFigure S → (∃ s, S s) →
      ∃ (box : Box) (height width : Int), Bounds (Places S) box ∧
        Patch.upperLeft p = .ok (.location box.top box.left) ∧
        Patch.shape p = .ok (.location height width) ∧
        (∀ f : Flip, ∃ q, f.apply p = .ok q ∧ q.IsFigure (Moved (f.place box) S) ∧
          f.apply q = .ok p ∧
          Patch.upperLeft q = .ok (.location box.top box.left) ∧
          Patch.shape q =
            .ok (if (Symmetry.flip f).swaps then .location width height else .location height width)) ∧
        (∃ q, (do Grid.flipRows (← Grid.flipColumns p)) = .ok q ∧
          (do Grid.flipColumns (← Grid.flipRows p)) = .ok q) ∧
        ∃ q, (do Grid.transpose (← Grid.flipRows p)) = .ok q ∧
          (do Grid.flipColumns (← Grid.transpose p)) = .ok q := by
  refine ⟨Board.exists_flip_gridObject, fun p S h ⟨s, hs⟩ => ?_⟩
  obtain ⟨box, hbox⟩ := h.isPatch.exists_bounds ⟨s.place, s, hs, rfl⟩
  refine ⟨box, _, _, hbox, h.isPatch.upperLeft hbox, h.shape hbox, fun f => ?_, ?_, ?_⟩
  · obtain ⟨q, hq, figure⟩ := h.exists_flip hbox f
    have hbox' := bounds_moved hbox f
    have back := h.flip_flip_self hbox f
    rw [hq, Outcome.ok_bind] at back
    refine ⟨q, hq, figure, back, ?_, ?_⟩
    · rw [figure.isPatch.upperLeft hbox', f.newBox_top, f.newBox_left]
    · rw [figure.shape hbox']
      cases f <;> simp [Symmetry.swaps, Flip.newBox]
  · obtain ⟨q, hq, -⟩ := h.exists_flip_flip hbox .columns .rows
    have same := h.flip_flip_eq hbox .rows .columns .columns .rows rfl
    exact ⟨q, hq, same.trans hq⟩
  · obtain ⟨q, hq, -⟩ := h.exists_flip_flip hbox .rows .diagonal
    have same := h.flip_flip_eq hbox .diagonal .columns .rows .diagonal
      (Flip.place_diagonal_rows box).symm
    exact ⟨q, hq, same.trans hq⟩

/-- The cells of an object in two rows and four columns, above the row with number zero. -/
def hook : List Spot :=
  [⟨some (.int 3), (-2, 4)⟩, ⟨some (.int 5), (-1, 4)⟩, ⟨some (.int 5), (-1, 7)⟩]

theorem isFigure_hook : (setOf (hook.map Spot.toValue)).IsFigure (· ∈ hook) := by
  refine isFigure_setOf ?_ ?_ <;> simp [hook, Spot.SameColor]

theorem bounds_hook : Bounds (Places (· ∈ hook)) ⟨-2, 4, -1, 7⟩ := by
  constructor <;> simp [isLeast_image_iff, isGreatest_image_iff, Places, hook] <;> omega

theorem flips_of_hook :
    (setOf (hook.map Spot.toValue)).IsFigure (· ∈ hook) ∧ (∃ s, s ∈ hook) ∧
    ∃ q, Grid.antiTranspose (setOf (hook.map Spot.toValue)) = .ok q ∧
      Grid.antiTranspose q = .ok (setOf (hook.map Spot.toValue)) ∧
      Patch.upperLeft q = .ok (.location (-2) 4) ∧ Patch.shape q = .ok (.location 4 2) := by
  have some : ∃ s, s ∈ hook := ⟨_, List.mem_cons_self⟩
  refine ⟨isFigure_hook, some, ?_⟩
  obtain ⟨box, height, width, -, corner, shape, flips, -⟩ :=
    flips_of_grids_and_patches.2 _ _ isFigure_hook some
  obtain ⟨q, hq, -, back, corner', shape'⟩ := flips .antidiagonal
  have hcorner : Patch.upperLeft (setOf (hook.map Spot.toValue)) = .ok (.location (-2) 4) := by cbv
  have hshape : Patch.shape (setOf (hook.map Spot.toValue)) = .ok (.location 2 4) := by cbv
  obtain ⟨rfl, rfl⟩ : 2 = height ∧ 4 = width := by
    simpa [Value.location, Value.pair] using hshape.symm.trans shape
  exact ⟨q, hq, back, corner'.trans (corner.symm.trans hcorner), shape'⟩

end Value

end GridPuzzle
