import GridPuzzle.Proofs.ColorClass
import GridPuzzle.Proofs.ProgramRun

/-!
# Choosing among the objects of a color

Programs take the objects of one color, keep those that meet a condition, and merge what they have kept. The
condition looks at a whole object, and an object is the class of each of its cells. So the cells that are left
are those whose own class meets the condition (`Board.exists_flatten_pieces`), which is a statement about single
cells.

Other programs take the one object of a color. It then holds all cells of the color
(`Board.isObject_of_only`), since the class of each of them is an object of that color.
-/

namespace GridPuzzle

/-- The first item of a set with one member. -/
theorem Value.IsSetOf.head_eq {v o : Value} (h : v.IsSetOf (· = o)) : v.head = .ok o := by
  have member : ∀ x, x ∈ v.itemList ↔ x = o := h.mem_itemList
  rw [head, h.items, Outcome.ok_bind]
  cases hitems : v.itemList with
  | nil =>
      have some := (member o).mpr rfl
      rw [hitems] at some
      cases some
  | cons x xs =>
      have first : x = o := (member x).mp (by rw [hitems]; exact List.mem_cons_self)
      rw [first]
      rfl

/-- The value is the one object of a color among some objects. -/
def Value.IsOnlyObject (found : Value) (c : Int) (o : Value) : Prop :=
  ∀ x, x ∈ found ∧ Grid.colorOf x = .ok (.int c) ↔ x = o

namespace Board

variable {g : Board Int} {acrossCorners : Bool} {c : Int}

theorem Connected.hasColor {withoutBackground : Bool} {k l : Location}
    (path : g.Connected true acrossCorners withoutBackground k l) (hk : g.HasColor c k) : g.HasColor c l := by
  induction path with
  | refl => exact hk
  | tail _ link ih => exact ⟨link.right.1, (link.same rfl).symm.trans ih.2⟩

/-- The object of the class of a cell is the object of the class of each cell in it. -/
theorem IsObject.of_connected {oneColor withoutBackground : Bool} {k l : Location} {o : Value}
    (ho : g.IsObject (g.Connected oneColor acrossCorners withoutBackground k) o)
    (path : g.Connected oneColor acrossCorners withoutBackground k l) :
    g.IsObject (g.Connected oneColor acrossCorners withoutBackground l) o :=
  ho.congr fun _ => exists_congr fun _ => and_congr_left' ⟨path.symm.trans, path.trans⟩

/-- The objects of a color that meet a condition, merged, are the object of the cells of the color whose class
meets it. -/
theorem exists_flatten_pieces {chosen : Value} {condition : Value → Prop} {meets : Location → Prop}
    (hchosen : chosen.IsSetOf fun o => g.IsColorPiece acrossCorners c o ∧ condition o)
    (decides : ∀ k o, g.HasColor c k → g.IsObject (g.Connected true acrossCorners false k) o →
      (condition o ↔ meets k)) :
    ∃ merged, Container.flatten chosen = .ok merged ∧ g.IsObject (fun l => g.HasColor c l ∧ meets l) merged := by
  obtain ⟨merged, hflatten, hmerged⟩ :=
    exists_flatten_objects hchosen fun o ⟨⟨k, _, _, ho⟩, _⟩ => ⟨_, ho⟩
  refine ⟨merged, hflatten, hmerged.congr fun v => exists_congr fun l => and_congr_left' ⟨fun found => ?_, ?_⟩⟩
  · -- The object is the class of the cell, too.
    obtain ⟨o, ho, hl⟩ := found
    obtain ⟨⟨k, inside, color, hobject⟩, holds⟩ := (hchosen.mem_iff o).mp ho
    have path := hobject.cellValue_mem.mp hl
    have color' := path.hasColor ⟨inside, color⟩
    exact ⟨color', (decides l o color' (hobject.of_connected path)).mp holds⟩
  · intro found
    obtain ⟨color, holds⟩ := found
    obtain ⟨o, hobject⟩ := exists_isObject
      fun m (path : g.Connected true acrossCorners false l m) => (path.hasColor color).1
    exact ⟨o, (hchosen.mem_iff o).mpr ⟨⟨l, color.1, color.2, hobject⟩, (decides l o color hobject).mpr holds⟩,
      hobject.cellValue_mem.mpr .refl⟩

/-- The same, with a condition that a built function decides. -/
theorem exists_filterFlatten_pieces {call : Caller} {kept condition : Value} {meets : Location → Prop}
    (hkept : kept.IsSetOf (g.IsColorPiece acrossCorners c))
    (calls : ∀ k o, g.HasColor c k → g.IsObject (g.Connected true acrossCorners false k) o →
      ∃ b, call condition [o] = pure (.bool b) ∧ (b = true ↔ meets k)) :
    ∃ merged, Function.filterFlatten call kept condition = pure merged ∧
      g.IsObject (fun l => g.HasColor c l ∧ meets l) merged := by
  have decides : ∀ o, g.IsColorPiece acrossCorners c o →
      ∃ b, call condition [o] = pure (.bool b) ∧ (b = true ↔ call condition [o] = pure (.bool true)) := by
    intro o piece
    obtain ⟨k, inside, color, ho⟩ := piece
    obtain ⟨b, hb, -⟩ := calls k o ⟨inside, color⟩ ho
    exact ⟨b, hb, Eval.eq_true_iff hb⟩
  obtain ⟨chosen, hfilter, hchosen⟩ := hkept.exists_filter (fun o ⟨k, _, _, ho⟩ => ho.plain) decides
  obtain ⟨merged, hflatten, hmerged⟩ := exists_flatten_pieces hchosen fun k o color ho => by
    obtain ⟨b, hb, iff⟩ := calls k o color ho
    exact (Eval.eq_true_iff hb).symm.trans iff
  refine ⟨merged, ?_, hmerged⟩
  rw [Function.filterFlatten, hfilter, pure_bind]
  exact Eval.lift_ok hflatten

/-! ## A color with one object -/

section

variable {withoutBackground : Bool} {found o : Value}
  (hfound : found.IsSetOf (g.IsClassObject true acrossCorners withoutBackground))
include hfound

theorem mem_and_colorOf_iff {x : Value} : x ∈ found ∧ Grid.colorOf x = .ok (.int c) ↔
    ∃ k, g.Eligible withoutBackground k ∧ g.cell k = c ∧
      g.IsObject (g.Connected true acrossCorners withoutBackground k) x := by
  constructor
  · intro hx
    obtain ⟨mem, color⟩ := hx
    obtain ⟨k, eligible, hobject⟩ := (hfound.mem_iff x).mp mem
    rw [colorOf_class hobject] at color
    exact ⟨k, eligible, Value.int.inj (Except.ok.inj color), hobject⟩
  · intro hx
    obtain ⟨k, eligible, color, hobject⟩ := hx
    exact ⟨(hfound.mem_iff x).mpr ⟨k, eligible, hobject⟩, by rw [colorOf_class hobject, color]⟩

theorem exists_selectColor_only (only : found.IsOnlyObject c o) :
    ∃ kept, Grid.selectColor found (.int c) = .ok kept ∧ kept.head = .ok o := by
  obtain ⟨kept, heq, hkept⟩ := exists_selectColor_classes hfound c
  have single : kept.IsSetOf (· = o) :=
    hkept.congr fun x => (mem_and_colorOf_iff hfound).symm.trans (only x)
  exact ⟨kept, heq, single.head_eq⟩

/-- The one object of a color is the object of all cells of the color, and objects are made of these. -/
theorem isObject_of_only (only : found.IsOnlyObject c o) :
    g.IsObject (g.HasColor c) o ∧ ∃ k, g.Eligible withoutBackground k ∧ g.cell k = c := by
  obtain ⟨k, eligible, color, hobject⟩ := (mem_and_colorOf_iff hfound).mp ((only o).mpr rfl)
  refine ⟨hobject.congr fun v => exists_congr fun l => and_congr_left' ⟨fun path => ?_, fun hl => ?_⟩,
    k, eligible, color⟩
  · exact path.hasColor ⟨eligible.1, color⟩
  · have eligible' : g.Eligible withoutBackground l :=
      ⟨hl.1, fun without => (hl.2.trans color.symm) ▸ eligible.2 without⟩
    obtain ⟨o', hobject'⟩ := exists_isObject
      fun m (path : g.Connected true acrossCorners withoutBackground l m) => (path.eligible eligible').1
    have same : o' = o := (only o').mp ((mem_and_colorOf_iff hfound).mpr ⟨l, eligible', hl.2, hobject'⟩)
    rw [same] at hobject'
    exact hobject.cellValue_mem.mp (hobject'.cellValue_mem.mpr .refl)

/-- A color whose cells are connected has one object. -/
theorem isOnlyObject_of_connected {k : Location} (eligible : g.Eligible withoutBackground k)
    (color : g.cell k = c)
    (connected : ∀ l, g.HasColor c l → g.Connected true acrossCorners withoutBackground k l) :
    found.IsOnlyObject c (g.colorClass c) := by
  have whole (m : Location) (hm : g.HasColor c m) (v : Value) :
      (∃ l, g.Connected true acrossCorners withoutBackground m l ∧ v = g.cellValue l) ↔
        ∃ l, g.HasColor c l ∧ v = g.cellValue l :=
    exists_congr fun l => and_congr_left'
      ⟨fun path => path.hasColor hm, fun hl => (connected m hm).symm.trans (connected l hl)⟩
  intro x
  rw [mem_and_colorOf_iff hfound]
  constructor
  · intro hx
    obtain ⟨m, eligible', color', hobject⟩ := hx
    exact IsObject.eq_colorClass (hobject.congr (whole m ⟨eligible'.1, color'⟩))
  · intro hx
    subst hx
    have hobject := g.isObject_colorClass c
    exact ⟨k, eligible, color, hobject.congr fun v => (whole k ⟨eligible.1, color⟩ v).symm⟩

end

end Board

end GridPuzzle
