import GridPuzzle.Proofs.Decomposition
import GridPuzzle.Proofs.FlippedPatch

/-!
# Color classes

There are two ways to the cells of a color: to grow the objects of one color and merge those that have it, and
to look at each cell for its color. Both give the object of `Board.HasColor` (`exists_merged_color`,
`exists_recolor_locationsOf`), since the objects cover the board and each of them has one color.

`Grid.colorClasses` and `Grid.foregroundClasses` list these objects by color. A color that occurs has a class
with a cell of that color in it, so different colors have different classes (`colorClass_inj`).
-/

namespace GridPuzzle

namespace Board

variable {g : Board Int} {P : Location → Prop} {acrossCorners : Bool} {c : Int}

theorem eligible_of_inside {k : Location} (h : g.Inside k) : g.Eligible false k :=
  ⟨h, fun without => by cases without⟩

/-! ## Objects of one color -/

theorem colorOf_object {o : Value} (h : g.IsObject P o) (some : ∃ l, P l)
    (color : ∀ l, P l → g.cell l = c) : Grid.colorOf o = .ok (.int c) := by
  obtain ⟨l, hl⟩ := some
  cases hitems : o.itemList with
  | nil =>
      have hmem : g.cellValue l ∈ o.itemList := h.cellValue_mem.mpr hl
      rw [hitems] at hmem
      cases hmem
  | cons v vs =>
      have hv : v ∈ o.itemList := by rw [hitems]; exact List.mem_cons_self
      obtain ⟨k, hk, rfl⟩ := (h.mem_itemList v).mp hv
      rw [Grid.colorOf, Value.head, Value.IsSetOf.items h, hitems]
      change Except.ok (Value.int (g.cell k)) = _
      rw [color k hk]

theorem colorOf_class {withoutBackground : Bool} {k : Location} {o : Value}
    (ho : g.IsObject (g.Connected true acrossCorners withoutBackground k) o) :
    Grid.colorOf o = .ok (.int (g.cell k)) :=
  colorOf_object ho ⟨k, .refl⟩ fun _ path => (path.cell_eq rfl).symm

/-- The objects of one color that have a given color, with or without those of the background. -/
theorem exists_selectColor_classes {withoutBackground : Bool} {found : Value}
    (hfound : found.IsSetOf (g.IsClassObject true acrossCorners withoutBackground)) (c : Int) :
    ∃ kept, Grid.selectColor found (.int c) = .ok kept ∧ kept.IsSetOf fun o =>
      ∃ k, g.Eligible withoutBackground k ∧ g.cell k = c ∧
        g.IsObject (g.Connected true acrossCorners withoutBackground k) o := by
  have plain : ∀ o, g.IsClassObject true acrossCorners withoutBackground o → Value.Plain o :=
    fun o ⟨k, _, ho⟩ => ho.plain
  let p (o : Value) : Bool := (Grid.colorOf o).toOption.getD .null == .int c
  refine ⟨_, ?_, (hfound.filter plain p).congr fun o => ?_⟩
  · rw [Grid.selectColor, hfound.items, Outcome.ok_bind, filterM_eq_pure_filter (p := p) fun o ho => ?_]
    · rfl
    · obtain ⟨k, hk, hobject⟩ := (hfound.mem_itemList o).mp ho
      simp only [p, colorOf_class hobject]
      rfl
  · constructor
    · rintro ⟨⟨k, hk, hobject⟩, hpo⟩
      simp only [p, colorOf_class hobject] at hpo
      exact ⟨k, hk, by simpa [Except.toOption] using hpo, hobject⟩
    · rintro ⟨k, hk, hcell, hobject⟩
      refine ⟨⟨k, hk, hobject⟩, ?_⟩
      simp [p, colorOf_class hobject, Except.toOption, hcell]

/-- The object of a class of connected cells of a color. -/
def IsColorPiece (g : Board Int) (acrossCorners : Bool) (c : Int) (o : Value) : Prop :=
  ∃ k, g.Inside k ∧ g.cell k = c ∧ g.IsObject (g.Connected true acrossCorners false k) o

/-- The objects of one color that have a given color. -/
theorem exists_selectColor_objects {found : Value}
    (hfound : found.IsSetOf (g.IsClassObject true acrossCorners false)) (c : Int) :
    ∃ kept, Grid.selectColor found (.int c) = .ok kept ∧ kept.IsSetOf (g.IsColorPiece acrossCorners c) := by
  obtain ⟨kept, heq, hkept⟩ := exists_selectColor_classes hfound c
  refine ⟨kept, heq, hkept.congr fun o => exists_congr fun k => and_congr_left' ?_⟩
  exact ⟨And.left, eligible_of_inside⟩

/-! ## The cells of a color -/

/-- The location is that of a cell of the color. -/
def HasColor (g : Board Int) (c : Int) (l : Location) : Prop :=
  g.Inside l ∧ g.cell l = c

/-- The objects of one color that have a given color make up the cells of the color. -/
theorem exists_piece_iff {kept : Value} (hkept : kept.IsSetOf (g.IsColorPiece acrossCorners c)) {l : Location} :
    (∃ o ∈ kept, g.cellValue l ∈ o) ↔ g.HasColor c l := by
  constructor
  · rintro ⟨o, ho, hl⟩
    obtain ⟨k, hk, hcell, hobject⟩ := (hkept.mem_iff o).mp ho
    have path : g.Connected true acrossCorners false k l := hobject.cellValue_mem.mp hl
    exact ⟨(path.eligible (eligible_of_inside hk)).1, (path.cell_eq rfl).symm.trans hcell⟩
  · rintro ⟨hl, hcell⟩
    obtain ⟨o, hobject⟩ := exists_isObject (P := g.Connected true acrossCorners false l)
      fun m hm => (hm.eligible (eligible_of_inside hl)).1
    exact ⟨o, (hkept.mem_iff o).mpr ⟨l, hl, hcell, hobject⟩, hobject.cellValue_mem.mpr .refl⟩

/-- The objects that have a color, merged, are the object of the cells of the color. -/
theorem exists_merged_color (g : Board Int) (acrossCorners : Bool) (c : Int) :
    ∃ merged, (do Container.flatten (← Grid.selectColor (← Grid.objects g.grid (.bool true)
        (.bool acrossCorners) (.bool false)) (.int c))) = .ok merged ∧
      g.IsObject (g.HasColor c) merged := by
  obtain ⟨found, hobjects, hfound⟩ := g.exists_objects true acrossCorners false
  obtain ⟨kept, hselect, hkept⟩ := exists_selectColor_objects hfound c
  obtain ⟨merged, hflatten, hmerged⟩ := exists_flatten_objects hkept fun o ⟨k, _, _, ho⟩ => ⟨_, ho⟩
  refine ⟨merged, ?_, hmerged.congr fun v => ?_⟩
  · rw [hobjects, Outcome.ok_bind, hselect, Outcome.ok_bind, hflatten]
  · simp only [exists_piece_iff hkept]

/-- The cells of a table that have a color are those of the board. -/
theorem mem_cells_grid_iff {i j : Nat} {v : Value} :
    (i, j, v) ∈ (Table.cells (g.map Value.int).rows).filter (fun (_, _, v) => v == .int c) ↔
      g.HasColor c (i, j) ∧ v = .int c := by
  rw [List.mem_filter, mem_cells_iff]
  constructor
  · rintro ⟨⟨inside, color⟩, same⟩
    have inside' : g.Inside (i, j) := inside_map.mp inside
    have color' : v = .int (g.cell (i, j)) := (Option.some.inj color).trans (cell_map inside')
    subst color'
    have cell : g.cell (i, j) = c := by simpa using same
    exact ⟨⟨inside', cell⟩, by rw [cell]⟩
  · rintro ⟨⟨inside, cell⟩, rfl⟩
    refine ⟨⟨inside_map.mpr inside, ?_⟩, by simp⟩
    change _ = some ((g.map Value.int).cell (i, j))
    rw [cell_map inside, cell]

/-- Reading the locations off the cells of a color gives each location of the color once. -/
theorem mem_map_cells_iff (f : Nat × Nat × Value → Value) (item : Location → Value)
    (hf : ∀ i j : Nat, f (i, j, .int c) = item (i, j)) (x : Value) :
    x ∈ ((Table.cells (g.map Value.int).rows).filter fun (_, _, v) => v == .int c).map f ↔
      ∃ l, g.HasColor c l ∧ x = item l := by
  rw [List.mem_map]
  constructor
  · rintro ⟨⟨i, j, v⟩, hmem, rfl⟩
    obtain ⟨hl, rfl⟩ := mem_cells_grid_iff.mp hmem
    exact ⟨(i, j), hl, hf i j⟩
  · rintro ⟨l, hl, rfl⟩
    obtain ⟨i, j, -, -, rfl⟩ := hl.1.exists_natCast
    exact ⟨(i, j, .int c), mem_cells_grid_iff.mpr ⟨hl, rfl⟩, hf i j⟩

theorem exists_locationsOf (g : Board Int) (c : Int) :
    ∃ places, Grid.locationsOf g.grid (.int c) = .ok places ∧ places.IsLocationSet (g.HasColor c) := by
  refine ⟨_, by rw [Grid.locationsOf, rows_grid, Outcome.ok_bind, Outcome.pure_eq_ok], ?_⟩
  have mem := mem_map_cells_iff (g := g) (c := c) (fun (i, j, _) => .location i j) Location.toValue
    fun _ _ => rfl
  refine (Value.isSetOf_setOf fun x hx => ?_).congr mem
  obtain ⟨l, -, rfl⟩ := (mem x).mp hx
  exact l.plain_toValue

/-- The cells of a color, found by looking at each cell and colored again, are the object of these cells. -/
theorem exists_recolor_locationsOf (g : Board Int) (c : Int) :
    ∃ o, (do Patch.recolor (.int c) (← Grid.locationsOf g.grid (.int c))) = .ok o ∧
      g.IsObject (g.HasColor c) o := by
  obtain ⟨places, hplaces, hset⟩ := g.exists_locationsOf c
  obtain ⟨o, ho, cells⟩ := hset.isPatch.exists_recolor c
  refine ⟨o, by rw [hplaces, Outcome.ok_bind, ho], cells.congr fun v => ?_⟩
  constructor
  · intro hv
    obtain ⟨d, l, ⟨hl, rfl⟩, rfl⟩ := hv
    exact ⟨l, hl, by rw [cellValue, hl.2]⟩
  · intro hv
    obtain ⟨l, hl, rfl⟩ := hv
    exact ⟨c, l, ⟨hl, rfl⟩, by rw [cellValue, hl.2]⟩

/-! ## Classes by color -/

/-- The object of the cells of a color. -/
def colorClass (g : Board Int) (c : Int) : Value :=
  Grid.colorClass (g.map Value.int).rows (.int c)

theorem isObject_colorClass (g : Board Int) (c : Int) : g.IsObject (g.HasColor c) (g.colorClass c) := by
  have mem := mem_map_cells_iff (g := g) (c := c) (fun (i, j, v) => .pair v (.location i j))
    (fun l => .pair (.int c) l.toValue) fun _ _ => rfl
  refine (Value.isSetOf_setOf fun x hx => ?_).congr fun x => (mem x).trans ?_
  · obtain ⟨l, -, rfl⟩ := (mem x).mp hx
    exact .pair (.int c) l.plain_toValue
  · refine exists_congr fun l => and_congr_right fun hl => ?_
    rw [cellValue, hl.2]

theorem IsObject.eq_colorClass {o : Value} (h : g.IsObject (g.HasColor c) o) : o = g.colorClass c :=
  Value.IsSetOf.unique h (g.isObject_colorClass c)

theorem mem_colors_iff : c ∈ g.rows.flatten ↔ ∃ l, g.HasColor c l := by
  rw [flatten_rows, List.mem_map]
  exact exists_congr fun l => and_congr_left' mem_all_iff

/-- A color that occurs on the board has a class of its own. -/
theorem colorClass_inj {d : Int} (hc : c ∈ g.rows.flatten) (heq : g.colorClass c = g.colorClass d) : c = d := by
  obtain ⟨l, hl⟩ := mem_colors_iff.mp hc
  have hmem : g.cellValue l ∈ g.colorClass c := (g.isObject_colorClass c).cellValue_mem.mpr hl
  rw [heq] at hmem
  have hl' : g.HasColor d l := (g.isObject_colorClass d).cellValue_mem.mp hmem
  exact hl.2.symm.trans hl'.2

/-- The palette is the set of the colors of the cells. -/
theorem exists_palette (g : Board Int) :
    ∃ palette, Grid.palette g.grid = .ok palette ∧
      palette.IsSetOf fun v => ∃ c ∈ g.rows.flatten, v = .int c := by
  refine ⟨.setOf (g.rows.flatten.map .int), ?_, (Value.isSetOf_setOf fun v hv => ?_).congr fun v => ?_⟩
  · rw [Grid.palette, colors_grid, Outcome.ok_bind, flatten_map_int, Outcome.pure_eq_ok]
  · obtain ⟨c, -, rfl⟩ := List.mem_map.mp hv
    exact .int c
  · simp only [List.mem_map, eq_comm]

/-- The classes of some colors, one for each. -/
theorem exists_classes {colors : List Value} {Q : Int → Prop} (h : ∀ v, v ∈ colors ↔ ∃ c, Q c ∧ v = .int c) :
    ∃ classes, Grid.classes g.grid colors = .ok classes ∧
      classes.IsSetOf fun o => ∃ c, Q c ∧ o = g.colorClass c := by
  have mem : ∀ o, o ∈ colors.map (Grid.colorClass (g.map Value.int).rows) ↔
      ∃ c, Q c ∧ o = g.colorClass c := by
    intro o
    rw [List.mem_map]
    constructor
    · rintro ⟨v, hv, rfl⟩
      obtain ⟨c, hc, rfl⟩ := (h v).mp hv
      exact ⟨c, hc, rfl⟩
    · rintro ⟨c, hc, rfl⟩
      exact ⟨_, (h _).mpr ⟨c, hc, rfl⟩, rfl⟩
  refine ⟨.setOf (colors.map (Grid.colorClass (g.map Value.int).rows)), ?_,
    (Value.isSetOf_setOf fun o ho => ?_).congr mem⟩
  · unfold Grid.classes
    split
    next => rfl
    next => rw [rows_grid, Outcome.ok_bind, Outcome.pure_eq_ok]
  · obtain ⟨c, -, rfl⟩ := (mem o).mp ho
    exact (g.isObject_colorClass c).plain

theorem exists_colorClasses (g : Board Int) :
    ∃ classes, Grid.colorClasses g.grid = .ok classes ∧
      classes.IsSetOf fun o => ∃ c ∈ g.rows.flatten, o = g.colorClass c := by
  obtain ⟨palette, heq, hpalette⟩ := g.exists_palette
  obtain ⟨classes, hclasses, hset⟩ := exists_classes (g := g) hpalette.mem_itemList
  refine ⟨classes, ?_, hset⟩
  rw [Grid.colorClasses, heq, Outcome.ok_bind, hpalette.items, Outcome.ok_bind, hclasses]

theorem exists_foregroundClasses (g : Board Int) :
    ∃ classes, Grid.foregroundClasses g.grid = .ok classes ∧
      classes.IsSetOf fun o => ∃ c, (c ∈ g.rows.flatten ∧ c ≠ g.background) ∧ o = g.colorClass c := by
  obtain ⟨palette, heq, hpalette⟩ := g.exists_palette
  have kept : ∀ v, v ∈ palette.itemList.filter (!Value.int g.background == ·) ↔
      ∃ c, (c ∈ g.rows.flatten ∧ c ≠ g.background) ∧ v = .int c := by
    intro v
    rw [List.mem_filter, hpalette.mem_itemList]
    constructor
    · rintro ⟨⟨c, hc, rfl⟩, differs⟩
      exact ⟨c, ⟨hc, fun heq => by simp [heq] at differs⟩, rfl⟩
    · rintro ⟨c, ⟨hc, differs⟩, rfl⟩
      exact ⟨⟨c, hc, rfl⟩, by simpa using differs.symm⟩
  obtain ⟨classes, hclasses, hset⟩ := exists_classes (g := g) kept
  refine ⟨classes, ?_, hset⟩
  rw [Grid.foregroundClasses, heq, Outcome.ok_bind, hpalette.items, Outcome.ok_bind, mostColor_grid,
    Outcome.ok_bind, hclasses]

/-- **The objects of a color, merged, are the cells of the color.** Whether the objects grow across corners or
not, merging those that have a color gives the cells that have it, in an object of that color. The color
classes of a board are these objects for the colors of its palette, and the foreground classes are those of
them that are not the class of the most frequent color. -/
theorem merged_objects_are_color_classes (g : Board Int) :
    ∃ (classOf : Int → Value) (palette classes foreground : Value) (background : Int),
      (∀ (acrossCorners : Bool) (c : Int),
        (do Container.flatten (← Grid.selectColor (← Grid.objects g.grid (.bool true)
          (.bool acrossCorners) (.bool false)) (.int c))) = .ok (classOf c)) ∧
      (∀ c : Int, (do Patch.recolor (.int c) (← Grid.locationsOf g.grid (.int c))) = .ok (classOf c)) ∧
      Grid.palette g.grid = .ok palette ∧ palette.IsSetOf (fun v => ∃ c ∈ g.rows.flatten, v = .int c) ∧
      Grid.colorClasses g.grid = .ok classes ∧
      classes.IsSetOf (fun o => ∃ c : Int, .int c ∈ palette ∧ o = classOf c) ∧
      Grid.mostColor g.grid = .ok (.int background) ∧
      Grid.foregroundClasses g.grid = .ok foreground ∧
      foreground.IsSetOf fun o => o ∈ classes ∧ o ≠ classOf background := by
  obtain ⟨palette, hpalette, colors⟩ := g.exists_palette
  obtain ⟨classes, hclasses, hset⟩ := g.exists_colorClasses
  obtain ⟨foreground, hforeground, hset'⟩ := g.exists_foregroundClasses
  have mem_palette : ∀ c : Int, .int c ∈ palette ↔ c ∈ g.rows.flatten := by
    intro c
    rw [colors.mem_iff]
    simp
  refine ⟨g.colorClass, palette, classes, foreground, g.background, ?_, ?_, hpalette, colors, hclasses, ?_,
    g.mostColor_grid, hforeground, ?_⟩
  · intro acrossCorners c
    obtain ⟨merged, heq, hmerged⟩ := g.exists_merged_color acrossCorners c
    rw [heq, hmerged.eq_colorClass]
  · intro c
    obtain ⟨o, heq, ho⟩ := g.exists_recolor_locationsOf c
    rw [heq, ho.eq_colorClass]
  · simpa only [mem_palette] using hset
  · refine hset'.congr fun o => ?_
    rw [hset.mem_iff]
    constructor
    · rintro ⟨c, ⟨hc, differs⟩, rfl⟩
      exact ⟨⟨c, hc, rfl⟩, fun heq => differs (colorClass_inj hc heq)⟩
    · rintro ⟨⟨c, hc, rfl⟩, differs⟩
      exact ⟨c, ⟨hc, fun heq => differs (by rw [heq])⟩, rfl⟩

end Board

end GridPuzzle
