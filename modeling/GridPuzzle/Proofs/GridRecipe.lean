import GridPuzzle.Proofs.RectangularGrid

/-!
# Grid recipes

A recipe is a finite composition of operations on grids, started from rectangular grids of numbers: a tree with
an operation at each node (`Recipe.run`). The operations of one grid are a type of their own (`Change`).
Numbers, locations, patches and objects that an operation takes besides are values of the recipe.

A step of a recipe keeps grids rectangular and adds no colors but those that are passed to it
(`Value.IsGrid.change`), so a whole recipe does (`Recipe.isGrid_run`). One grid above another is rectangular
only if both have the same width, which `Recipe.Fits` asks for.
-/

namespace GridPuzzle

/-! ## Operations on one grid -/

/-- An operation that makes a grid of another one. -/
inductive Change where
  | turn (s : Symmetry)
  | fill (color patch : Value)
  | paint (object : Value)
  | fillUnder (color patch : Value)
  | paintUnder (object : Value)
  | erasePatch (patch : Value)
  | move (object : Value) (vector : Location)
  | stretchColumns (factor : Value)
  | stretchRows (factor : Value)
  | enlarge (factor : Value)
  | shrink (factor : Value)
  | crop (start dimensions : Value)
  | cropTo (patch : Value)
  /-- One of a number of equal parts side by side. -/
  | columnsPart (count : Value) (index : Int)
  /-- One of a number of equal parts one above the other. -/
  | rowsPart (count : Value) (index : Int)
  | replaceColor (replaced replacement : Value)
  | swapColors (a b : Value)
  | trim
  | topHalf
  | bottomHalf
  | leftHalf
  | rightHalf
  | dropUniformLines

namespace Change

/-- What the operation makes of a grid. -/
def apply : Change → Value → Outcome Value
  | turn s, g => s.apply g
  | fill color patch, g => Grid.fill g color patch
  | paint object, g => Grid.paint g object
  | fillUnder color patch, g => Grid.fillUnder g color patch
  | paintUnder object, g => Grid.paintUnder g object
  | erasePatch patch, g => Grid.erasePatch g patch
  | move object vector, g => Grid.move g object vector.toValue
  | stretchColumns factor, g => Grid.stretchColumns g factor
  | stretchRows factor, g => Grid.stretchRows g factor
  | enlarge factor, g => Grid.enlarge g factor
  | shrink factor, g => Grid.shrink g factor
  | crop start dimensions, g => Grid.crop g start dimensions
  | cropTo patch, g => Grid.cropTo patch g
  | columnsPart count index, g => do (← Grid.splitColumns g count).nth index
  | rowsPart count index, g => do (← Grid.splitRows g count).nth index
  | replaceColor replaced replacement, g => Grid.replaceColor g replaced replacement
  | swapColors a b, g => Grid.swapColors g a b
  | trim, g => Grid.trim g
  | topHalf, g => Grid.topHalf g
  | bottomHalf, g => Grid.bottomHalf g
  | leftHalf, g => Grid.leftHalf g
  | rightHalf, g => Grid.rightHalf g
  | dropUniformLines, g => Grid.dropUniformLines g

/-- A color is passed to the operation, as it is or as that of a cell of an object. -/
def Passes : Change → Value → Prop
  | fill color _, c | fillUnder color _, c | replaceColor _ color, c => c = color
  | swapColors a b, c => c = a ∨ c = b
  | paint object, c | paintUnder object, c | move object _, c => object.IsCellColor c
  | _, _ => False

end Change

namespace Value

variable {C : Value → Prop} {g v : Value}

theorem mem_of_nth {xs : List Value} {position : Int} (h : (Value.tuple xs).nth position = .ok v) :
    v ∈ xs := by
  simp only [nth, tupleItems, Outcome.ok_bind] at h
  exact Table.mem_of_item? (Outcome.ofOption_eq_ok.mp h)

/-- An operation makes rectangular grids of rectangular grids, with no colors but those of the grid and those
that are passed. -/
theorem IsGrid.change (h : g.IsGrid C) (change : Change) (passes : ∀ c, change.Passes c → C c)
    (heq : change.apply g = .ok v) : v.IsGrid C := by
  cases change with
  | turn s => exact h.turn s heq
  | fill color patch => exact h.fill (passes color rfl) heq
  | paint object => exact h.paint passes heq
  | fillUnder color patch => exact h.fillUnder (passes color rfl) heq
  | paintUnder object => exact h.paintUnder passes heq
  | erasePatch patch => exact h.erasePatch heq
  | move object vector => exact h.move passes heq
  | stretchColumns factor => exact h.stretchColumns heq
  | stretchRows factor => exact h.stretchRows heq
  | enlarge factor => exact h.enlarge heq
  | shrink factor => exact h.shrink heq
  | crop start dimensions => exact h.crop heq
  | cropTo patch => exact h.cropTo heq
  | columnsPart count index =>
      obtain ⟨whole, hwhole, heq⟩ := Outcome.bind_eq_ok.mp heq
      obtain ⟨parts, rfl, grids⟩ := h.splitColumns hwhole
      exact grids v (mem_of_nth heq)
  | rowsPart count index =>
      obtain ⟨whole, hwhole, heq⟩ := Outcome.bind_eq_ok.mp heq
      obtain ⟨parts, rfl, grids⟩ := h.splitRows hwhole
      exact grids v (mem_of_nth heq)
  | replaceColor replaced replacement => exact h.replaceColor (passes replacement rfl) heq
  | swapColors a b => exact h.swapColors (passes a (.inl rfl)) (passes b (.inr rfl)) heq
  | trim => exact h.trim heq
  | topHalf => exact h.topHalf heq
  | bottomHalf => exact h.bottomHalf heq
  | leftHalf => exact h.leftHalf heq
  | rightHalf => exact h.rightHalf heq
  | dropUniformLines => exact h.dropUniformLines heq

end Value

/-! ## Recipes -/

/-- A rectangular grid of numbers. It may have no rows, or rows without cells. -/
structure Sheet where
  rows : List (List Int)
  width : Nat
  length_row : ∀ row ∈ rows, row.length = width

namespace Sheet

/-- The grid as programs see it. -/
def grid (s : Sheet) : Value :=
  .ofRows (s.rows.map (·.map .int))

/-- The color occurs in the grid. -/
def Shows (s : Sheet) (c : Value) : Prop :=
  ∃ row ∈ s.rows, ∃ n ∈ row, c = .int n

theorem isGrid_grid (s : Sheet) : s.grid.IsGrid s.Shows := by
  refine ⟨_, s.width, rfl, fun row hrow => ?_⟩
  obtain ⟨numbers, hnumbers, rfl⟩ := List.mem_map.mp hrow
  refine ⟨by rw [List.length_map, s.length_row numbers hnumbers], fun c hc => ?_⟩
  obtain ⟨n, hn, rfl⟩ := List.mem_map.mp hc
  exact ⟨numbers, hnumbers, n, hn, rfl⟩

end Sheet

/-- A composition of operations on grids. -/
inductive Recipe where
  | given (s : Sheet)
  | canvas (color dimensions : Value)
  | changed (step : Change) (source : Recipe)
  | beside (left right : Recipe)
  | above (upper lower : Recipe)
  | agreeing (first second : Recipe) (fallback : Value)

namespace Recipe

/-- The grid that the recipe makes. -/
def run : Recipe → Outcome Value
  | given s => .ok s.grid
  | canvas color dimensions => Grid.canvas color dimensions
  | changed step source => do step.apply (← source.run)
  | beside left right => do Grid.beside (← left.run) (← right.run)
  | above upper lower => do Grid.above (← upper.run) (← lower.run)
  | agreeing first second fallback => do Grid.agreeing (← first.run) (← second.run) fallback

/-- A color occurs in a grid from which the recipe starts, or is passed to one of its operations. -/
def Supplies : Recipe → Value → Prop
  | given s, c => s.Shows c
  | canvas color _, c => c = color
  | changed step source, c => source.Supplies c ∨ step.Passes c
  | beside left right, c => left.Supplies c ∨ right.Supplies c
  | above upper lower, c => upper.Supplies c ∨ lower.Supplies c
  | agreeing first second fallback, c => first.Supplies c ∨ second.Supplies c ∨ c = fallback

/-- Wherever one grid is put above another, they have the same width. -/
def Fits : Recipe → Prop
  | given _ | canvas _ _ => True
  | changed _ source => source.Fits
  | beside left right => left.Fits ∧ right.Fits
  | above upper lower => upper.Fits ∧ lower.Fits ∧
      ∀ g g', upper.run = .ok g → lower.run = .ok g' → Patch.width g = Patch.width g'
  | agreeing first second _ => first.Fits ∧ second.Fits

/-- Every grid that a recipe makes is rectangular and has only colors that the recipe supplies. -/
theorem isGrid_run {r : Recipe} (fits : r.Fits) {v : Value} (heq : r.run = .ok v) :
    v.IsGrid r.Supplies := by
  induction r generalizing v with
  | given s =>
      cases heq
      exact s.isGrid_grid
  | canvas color dimensions => exact Value.isGrid_canvas rfl heq
  | changed step source ih =>
      obtain ⟨g, hg, heq⟩ := Outcome.bind_eq_ok.mp heq
      exact ((ih fits hg).mono fun _ => .inl).change step (fun _ => .inr) heq
  | beside left right ihl ihr =>
      obtain ⟨g, hg, heq⟩ := Outcome.bind_eq_ok.mp heq
      obtain ⟨g', hg', heq⟩ := Outcome.bind_eq_ok.mp heq
      exact ((ihl fits.1 hg).mono fun _ => .inl).beside ((ihr fits.2 hg').mono fun _ => .inr) heq
  | above upper lower ihu ihl =>
      obtain ⟨g, hg, heq⟩ := Outcome.bind_eq_ok.mp heq
      obtain ⟨g', hg', heq⟩ := Outcome.bind_eq_ok.mp heq
      exact ((ihu fits.1 hg).mono fun _ => .inl).above ((ihl fits.2.1 hg').mono fun _ => .inr)
        (fits.2.2 g g' hg hg') heq
  | agreeing first second fallback ihf ihs =>
      obtain ⟨g, hg, heq⟩ := Outcome.bind_eq_ok.mp heq
      obtain ⟨g', hg', heq⟩ := Outcome.bind_eq_ok.mp heq
      exact ((ihf fits.1 hg).mono fun _ => .inl).agreeing (.inr (.inr rfl)) heq

/-- Grids stay rectangular under any composition of operations: if it is started from rectangular grids and
puts grids of equal widths above each other, then every grid that it returns has rows of one length, and its
colors occur in a grid at the start or are passed to an operation. -/
theorem recipes_make_rectangular_grids (r : Recipe) (fits : r.Fits) (v : Value) (heq : r.run = .ok v) :
    ∃ (rows : List (List Value)) (width : Nat), v = .ofRows rows ∧
      (∀ row ∈ rows, row.length = width) ∧ ∀ row ∈ rows, ∀ c ∈ row, r.Supplies c := by
  obtain ⟨rows, width, rfl, table⟩ := isGrid_run fits heq
  exact ⟨rows, width, rfl, fun row hrow => (table row hrow).1, fun row hrow => (table row hrow).2⟩

/-- A flag of two rows. -/
def flag : Sheet where
  rows := [[1, 2, 3], [4, 5, 6]]
  width := 3
  length_row := by decide

/-- The last two rows of the turned flag, cut out from a negative row on, above a row of one color. -/
def poster : Recipe :=
  .above (.changed (.crop (.location (-2) 0) (.location 5 4)) (.changed (.turn .rotateRight) (.given flag)))
    (.canvas (.int 7) (.location 1 2))

theorem poster_is_rectangular :
    poster.Fits ∧ poster.run = .ok (.ofRows [[.int 5, .int 2], [.int 6, .int 3], [.int 7, .int 7]]) ∧
    ∃ (rows : List (List Value)) (width : Nat),
      Value.ofRows [[.int 5, .int 2], [.int 6, .int 3], [.int 7, .int 7]] = .ofRows rows ∧
      (∀ row ∈ rows, row.length = width) ∧ ∀ row ∈ rows, ∀ c ∈ row, poster.Supplies c := by
  have fits : poster.Fits := by
    refine ⟨trivial, trivial, fun g g' hg hg' => ?_⟩
    cases hg
    cases hg'
    rfl
  have made : poster.run = .ok (.ofRows [[.int 5, .int 2], [.int 6, .int 3], [.int 7, .int 7]]) := rfl
  exact ⟨fits, made, recipes_make_rectangular_grids poster fits _ made⟩

end Recipe

end GridPuzzle
