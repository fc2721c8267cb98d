import GridPuzzle.Proofs.SolverScope
import Mathlib.Data.List.Forall2
import Mathlib.Data.List.TakeWhile

/-!
# The functions of a text

A text is read twice for its functions. `functionNames` takes their names from the first lines alone, and
`definitionsIn` cuts the lines of the functions out of the text. In a text of plain functions (`PlainFunctions`) both
find the same functions.

* `names_of_first_line`: the two readings of a first line give the same name.
* `definitionsIn_append`: the cut does not look beyond a line that belongs to no function above it.
* `definition_of_block`: the lines of a function (`Block`) decide what its definition is, whatever other functions a
  text has. `PlainFunctions.exists_block`: all definitions of a plain text come about in this way.
-/

namespace GridPuzzle

namespace Source

/-! ## Names on first lines -/

section

variable {name rest : Text}

/-- The word that starts a definition ends with a blank, so it stands neither in a name nor across its end. -/
theorem not_definer_at_name (unblank : ' ' ∉ name) : ¬ definer.isPrefixOf (name ++ '(' :: rest) = true := by
  intro h
  have named : name ++ ['('] <+: name ++ '(' :: rest :=
    (List.prefix_append_right_inj name).mpr ⟨rest, rfl⟩
  rcases List.prefix_or_prefix_of_prefix (List.isPrefixOf_iff_prefix.mp h) named with inside | across
  · have blank : ' ' ∈ name ++ ['('] := inside.subset (by decide)
    simp [unblank] at blank
  · have parenthesis : '(' ∈ definer := across.subset (List.mem_append_right name List.mem_cons_self)
    exact absurd parenthesis (by decide)

theorem before_definer (unblank : ' ' ∉ name) :
    Text.before definer (name ++ '(' :: rest) = name ++ '(' :: Text.before definer rest := by
  induction name with
  | nil => exact if_neg (not_definer_at_name unblank)
  | cons c name ih =>
      have tail := ih fun h => unblank (List.mem_cons_of_mem c h)
      rw [List.cons_append, List.cons_append, Text.before, ← tail]
      exact if_neg (not_definer_at_name unblank)

theorem before_parenthesis (unopened : '(' ∉ name) : Text.before ['('] (name ++ '(' :: rest) = name := by
  induction name with
  | nil => exact if_pos rfl
  | cons c name ih =>
      rw [List.mem_cons, not_or] at unopened
      rw [List.cons_append, Text.before, ih unopened.2, if_neg]
      simpa [List.isPrefixOf] using unopened.1

/-- The name on a first line ends at the parenthesis, whatever follows it. -/
theorem definedName?_definer (unblank : ' ' ∉ name) (unopened : '(' ∉ name) :
    definedName? (definer ++ (name ++ '(' :: rest)) = some name := by
  rw [definedName?, if_pos (List.isPrefixOf_iff_prefix.mpr (List.prefix_append definer _)), List.drop_left,
    before_definer unblank, before_parenthesis unopened]

end

/-- Both readings of a first line find the same name. -/
theorem names_of_first_line {name : Text} (rest : Text) (bare : ∀ c ∈ name, c ≠ '(' ∧ Text.isBlank c = false) :
    definedName? (definer ++ (name ++ '(' :: rest)) = some name ∧
      nameIn (definer ++ (name ++ '(' :: rest)) = name := by
  have unopened : '(' ∉ name := fun h => (bare _ h).1 rfl
  have unblank : ' ' ∉ name := fun h => Bool.noConfusion (bare _ h).2
  constructor
  · exact definedName?_definer unblank unopened
  · have front : (name ++ '(' :: rest).dropWhile Text.isBlank = name ++ '(' :: rest := by
      cases name with
      | nil => rfl
      | cons c name =>
          rw [List.cons_append, List.dropWhile_cons_of_neg]
          simp [(bare c List.mem_cons_self).2]
    rw [nameIn, List.drop_left, Text.trimStart, front, List.takeWhile_append_of_pos, List.takeWhile_cons_of_neg]
    · rw [List.append_nil]
    · decide
    · intro c hc
      simp [bare c hc]

/-! ## Lines of functions -/

/-- Whether a line starts a function or imports names. The function above has ended there. -/
def opens (line : Text) : Bool :=
  definer.isPrefixOf line || ['f', 'r', 'o', 'm', ' '].isPrefixOf line ||
    ['i', 'm', 'p', 'o', 'r', 't', ' '].isPrefixOf line

/-- Whether a line has nothing but a comment on it. -/
def isComment (line : Text) : Bool :=
  (Text.trimStart line).head? == some '#'

/-- No line at the front of the lines belongs to a function above them. -/
def Apart (lines : List Text) : Prop :=
  ∀ line ∈ lines.head?, continues line = false

theorem continues_of_opens {line : Text} (h : opens line = true) : continues line = false := by
  simp only [opens, Bool.or_eq_true, List.isPrefixOf_iff_prefix] at h
  rcases h with (⟨rest, rfl⟩ | ⟨rest, rfl⟩) | ⟨rest, rfl⟩ <;> rfl

theorem opens_of_definer {line : Text} (h : definer.isPrefixOf line = true) : opens line = true := by
  rw [opens, h, Bool.true_or, Bool.true_or]

theorem apart_of_opens {lines : List Text} (h : ∀ line ∈ lines.head?, opens line = true) : Apart lines :=
  fun line hline => continues_of_opens (h line hline)

theorem apart_dropWhile (lines : List Text) : Apart (lines.dropWhile continues) := by
  intro line hline
  have stop := List.head?_dropWhile_not continues lines
  rw [Option.mem_def.mp hline] at stop
  exact stop

theorem takeWhile_append_of_apart {after : List Text} (apart : Apart after) (lines : List Text) :
    (lines ++ after).takeWhile continues = lines.takeWhile continues := by
  have stop : after.takeWhile continues = [] := by
    cases after with
    | nil => rfl
    | cons line rest => exact List.takeWhile_cons_of_neg (by simp [apart line rfl])
  rw [List.takeWhile_append, stop, List.append_nil]
  split
  next whole => exact ((List.takeWhile_prefix continues).eq_of_length whole).symm
  next => rfl

section

variable {before after lines : List Text}

/-- The functions are named by the lines that start them. -/
theorem map_name_definitionsIn (lines : List Text) :
    (definitionsIn lines).map Definition.name = (lines.filter definer.isPrefixOf).map nameIn := by
  induction lines with
  | nil => rfl
  | cons line rest ih =>
      rw [definitionsIn]
      split
      next starts => rw [List.filter_cons_of_pos starts, List.map_cons, List.map_cons, ih]
      next unstarted => rw [List.filter_cons_of_neg unstarted, ih]

theorem exists_name_iff {name : Text} :
    (∃ d ∈ definitionsIn lines, d.name = name) ↔
      ∃ line ∈ lines, definer.isPrefixOf line = true ∧ nameIn line = name := by
  rw [← List.mem_map, map_name_definitionsIn, List.mem_map]
  simp only [List.mem_filter, and_assoc]

/-- The cut does not look beyond a line that belongs to no function above it. -/
theorem definitionsIn_append (apart : Apart after) :
    definitionsIn (before ++ after) = definitionsIn before ++ definitionsIn after := by
  induction before with
  | nil => rfl
  | cons line rest ih =>
      rw [List.cons_append, definitionsIn, definitionsIn, takeWhile_append_of_apart apart, ih]
      split <;> rfl

theorem definitionsIn_of_continues (h : ∀ line ∈ lines, continues line = true) : definitionsIn lines = [] := by
  rw [← List.map_eq_nil_iff, map_name_definitionsIn, List.map_eq_nil_iff, List.filter_eq_nil_iff]
  intro line hline starts
  have stop := continues_of_opens (opens_of_definer starts)
  rw [h line hline] at stop
  cases stop

end

/-! ## Blocks -/

/-- The lines of one function: the first one, and those below it that belong to it. The last of them that is not
blank is no comment, of which it would be open whether it belongs to the function. -/
structure Block where
  first : Text
  rest : List Text
  starts : definer.isPrefixOf first = true
  belongs : ∀ line ∈ rest, continues line = true
  ended : (first :: dropBlankEnd rest).getLast?.any isComment = false

namespace Block

def lines (b : Block) : List Text :=
  b.first :: b.rest

def name (b : Block) : Text :=
  nameIn b.first

/-- The definition of the function, without the blank lines below it. -/
def definition (b : Block) : Definition :=
  ⟨b.name, b.first :: dropBlankEnd b.rest⟩

/-- The text has the function, followed by another one, by an import or by nothing, and has no function of the same
name below it. -/
def IsLastIn (b : Block) (source : Text) : Prop :=
  ∃ before after, Text.lines (Text.unifyLineEnds source) = before ++ (b.lines ++ after) ∧
    (∀ line ∈ after.head?, opens line = true) ∧
    ∀ line ∈ after, definer.isPrefixOf line = true → nameIn line ≠ b.name

theorem definitionsIn_lines (b : Block) : definitionsIn b.lines = [b.definition] := by
  rw [lines, definitionsIn, if_pos b.starts, List.takeWhile_eq_self_iff.mpr b.belongs,
    definitionsIn_of_continues b.belongs]
  rfl

/-- The lines around a function do not change its definition. -/
theorem definitionsIn_around (b : Block) {before after : List Text}
    (ends : ∀ line ∈ after.head?, opens line = true) :
    definitionsIn (before ++ (b.lines ++ after)) =
      definitionsIn before ++ b.definition :: definitionsIn after := by
  have start : Apart (b.lines ++ after) := apart_of_opens fun line hline => by
    obtain rfl := Option.some.inj hline
    exact opens_of_definer b.starts
  rw [definitionsIn_append start, definitionsIn_append (apart_of_opens ends), b.definitionsIn_lines]
  rfl

end Block

/-- The last function of a name is its definition. -/
theorem definition_of_block {b : Block} {source : Text} (h : b.IsLastIn source) :
    definition source b.name = .ok b.definition := by
  obtain ⟨before, after, hlines, ends, unnamed⟩ := h
  have later : (definitionsIn after).reverse.find? (·.name == b.name) = none := by
    rw [List.find?_eq_none]
    intro d hd same
    obtain ⟨line, hline, starts, hname⟩ :=
      exists_name_iff.mp ⟨d, List.mem_reverse.mp hd, beq_iff_eq.mp same⟩
    exact unnamed line hline starts hname
  have own : (b.definition.name == b.name) = true := beq_self_eq_true b.name
  have found : (definitions source).reverse.find? (·.name == b.name) = some b.definition := by
    rw [definitions, hlines, b.definitionsIn_around ends, List.reverse_append, List.reverse_cons,
      List.append_assoc, List.find?_append, later, Option.none_or, List.singleton_append]
    exact List.find?_cons_of_pos own
  rw [Source.definition, found]

/-- Each definition among some lines is the definition of a function whose lines end where the next function
starts. -/
theorem exists_block {lines : List Text} {earlier later : List Definition} {d : Definition}
    (cut : ∀ line ∈ lines, continues line = true ∨ opens line = true)
    (h : definitionsIn lines = earlier ++ d :: later) (ended : d.lines.getLast?.any isComment = false) :
    ∃ (before after : List Text) (b : Block), lines = before ++ (b.lines ++ after) ∧
      (∀ line ∈ after.head?, opens line = true) ∧ b.definition = d ∧ definitionsIn after = later := by
  induction lines generalizing earlier with
  | nil => cases earlier <;> cases h
  | cons line rest ih =>
      have cut' : ∀ line' ∈ rest, continues line' = true ∨ opens line' = true :=
        fun line' hline => cut line' (List.mem_cons_of_mem line hline)
      rw [definitionsIn] at h
      split at h
      next starts =>
        cases earlier with
        | nil =>
            -- The function starts here and has the lines below up to the first one that does not belong to it.
            obtain ⟨rfl, hlater⟩ := List.cons.inj h
            have parts : rest.takeWhile continues ++ rest.dropWhile continues = rest :=
              List.takeWhile_append_dropWhile
            have belongs : ∀ line ∈ rest.takeWhile continues, continues line = true :=
              fun _ => List.mem_takeWhile_imp
            refine ⟨[], rest.dropWhile continues, ⟨line, rest.takeWhile continues, starts, belongs, ended⟩,
              ?_, fun line' hline => ?_, rfl, ?_⟩
            · rw [List.nil_append, Block.lines, List.cons_append, parts]
            · have mem : line' ∈ rest := (List.dropWhile_sublist continues).subset (List.mem_of_mem_head? hline)
              have stop := apart_dropWhile rest line' hline
              exact (cut' line' mem).resolve_left (by simp [stop])
            · rw [← hlater, ← parts, definitionsIn_append (apart_dropWhile _), definitionsIn_of_continues belongs,
                List.nil_append, parts]
        | cons _ earlier =>
            obtain ⟨before, after, b, hrest, hb⟩ := ih cut' (List.cons.inj h).2
            exact ⟨line :: before, after, b, by rw [hrest, List.cons_append], hb⟩
      next =>
        obtain ⟨before, after, b, hrest, hb⟩ := ih cut' h
        exact ⟨line :: before, after, b, by rw [hrest, List.cons_append], hb⟩

/-! ## Texts of plain functions -/

/-- Each line that starts a definition has a parenthesis behind the word that starts it, and no blank before the
parenthesis. -/
def NamedPlainly (source : Text) : Prop :=
  ∀ line ∈ Text.lines (Text.unifyLineEnds source), definer.isPrefixOf line = true →
    (line.drop definer.length).find? (fun c => c == '(' || Text.isBlank c) = some '('

/-- The text has nothing but functions and imports in it: a line is blank, is indented, closes a parenthesis, starts
a function or imports names. So no comment and no other bracket stands at the left margin inside a function, where the
function would seem to end. No function ends with a comment either. -/
structure PlainFunctions (source : Text) : Prop where
  named : NamedPlainly source
  cut : ∀ line ∈ Text.lines (Text.unifyLineEnds source), continues line = true ∨ opens line = true
  ended : ∀ d ∈ definitions source, d.lines.getLast?.any isComment = false

instance (source : Text) : Decidable (NamedPlainly source) :=
  inferInstanceAs (Decidable (∀ line ∈ _, _ → _))

instance (source : Text) : Decidable (PlainFunctions source) :=
  decidable_of_iff (NamedPlainly source ∧
      (∀ line ∈ Text.lines (Text.unifyLineEnds source), continues line = true ∨ opens line = true) ∧
      ∀ d ∈ definitions source, d.lines.getLast?.any isComment = false)
    ⟨fun h => ⟨h.1, h.2.1, h.2.2⟩, fun h => ⟨h.named, h.cut, h.ended⟩⟩

/-- In a plain text each definition has the lines of its own function. -/
theorem PlainFunctions.exists_block {source name : Text} {d : Definition} (plain : PlainFunctions source)
    (h : definition source name = .ok d) :
    ∃ b : Block, b.IsLastIn source ∧ b.name = name ∧ b.definition = d := by
  rw [definition] at h
  split at h
  next found =>
    obtain rfl := Except.ok.inj h
    obtain ⟨named, later, earlier, parts, others⟩ := List.find?_eq_some_iff_append.mp found
    rw [List.reverse_eq_iff, List.reverse_append, List.reverse_cons, List.append_assoc,
      List.singleton_append] at parts
    obtain ⟨before, after, b, hlines, ends, rfl, hafter⟩ := Source.exists_block plain.cut parts
      (plain.ended _ (by rw [parts]; exact List.mem_append_right _ List.mem_cons_self))
    have named : b.name = name := beq_iff_eq.mp named
    refine ⟨b, ⟨before, after, hlines, ends, fun line hline starts same => ?_⟩, named, rfl⟩
    obtain ⟨d', hd', hname⟩ := exists_name_iff.mpr ⟨line, hline, starts, same⟩
    rw [hafter, List.mem_reverse] at hd'
    have other := others d' hd'
    rw [hname, named, beq_self_eq_true] at other
    cases other
  next => cases h

/-- Each name that is plainly written has a definition. -/
theorem NamedPlainly.exists_definition {source name : Text} (named : NamedPlainly source)
    (h : name ∈ functionNames source) : ∃ d, definition source name = .ok d := by
  obtain ⟨line, hline, hname⟩ := List.mem_filterMap.mp h
  have starts : definer.isPrefixOf line = true := by
    by_contra unstarted
    rw [definedName?, if_neg unstarted] at hname
    cases hname
  obtain ⟨-, word, rest, hword, bare⟩ := List.find?_eq_some_iff_append.mp (named line hline starts)
  obtain ⟨behind, rfl⟩ := List.isPrefixOf_iff_prefix.mp starts
  rw [List.drop_left] at hword
  subst hword
  obtain ⟨defined, same⟩ := names_of_first_line rest (by simpa using bare)
  obtain ⟨d, hd, hdname⟩ := exists_name_iff.mpr ⟨_, hline, starts, same⟩
  have found : ((definitions source).reverse.find? (·.name == name)).isSome = true := by
    rw [List.find?_isSome]
    refine ⟨d, List.mem_reverse.mpr hd, ?_⟩
    rw [hdname, beq_iff_eq]
    exact Option.some.inj (defined.symm.trans hname)
  obtain ⟨d', hd'⟩ := Option.isSome_iff_exists.mp found
  refine ⟨d', ?_⟩
  rw [definition, hd']

theorem NamedPlainly.exists_mapM_definition {source : Text} (named : NamedPlainly source) :
    ∃ defined, ((solverNames source).mapM fun name => return (name, ← definition source name)) = .ok defined ∧
      defined.map Prod.fst = solverNames source ∧
      ∀ solver ∈ defined, definition source solver.1 = .ok solver.2 := by
  have paired {name : Text} {solver : Text × Definition}
      (h : (do return (name, ← definition source name)) = Except.ok solver) :
      name = solver.1 ∧ definition source name = .ok solver.2 := by
    obtain ⟨d, hd, h⟩ := Outcome.bind_eq_ok.mp h
    cases h
    exact ⟨rfl, hd⟩
  have succeeds : ∀ name ∈ solverNames source,
      ∃ solver, (do return (name, ← definition source name)) = Except.ok solver := by
    intro name hname
    obtain ⟨d, hd⟩ := named.exists_definition (List.mem_eraseDups.mp hname)
    rw [hd]
    exact ⟨(name, d), rfl⟩
  obtain ⟨defined, hdefined, each⟩ := Outcome.exists_mapM succeeds
  refine ⟨defined, hdefined, ?_, fun solver hsolver => ?_⟩
  · have same := List.forall₂_map_right_iff.mpr (each.imp fun _ _ h => (paired h).1)
    rw [List.forall₂_eq_eq_eq] at same
    exact same.symm
  · obtain ⟨name, -, h⟩ := Outcome.exists_of_mem_mapM hdefined hsolver
    obtain ⟨rfl, hd⟩ := paired h
    exact hd

end Source

end GridPuzzle
