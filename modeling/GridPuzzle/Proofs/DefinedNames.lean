import GridPuzzle.Proofs.FunctionBlock

/-!
# The names that a text defines, line by line

`Source.functionNames` cuts the names out of a whole text: it makes all line ends alike, splits at them, and looks
for the word that starts a definition and for parentheses. None of these steps sees more than one line.

* `Text.lines_append` and `Text.unifyLineEnds_append`: splitting and the change of line ends work on two joined
  texts as on each of them. The exception is a line end of two characters that the joint would cut in two.
* `Source.functionNames_append`: a line end between two texts keeps their names apart, also if it is the second
  half of a line end of two characters. There one line is lost, but an empty one.
* `Source.functionNames_of_isLine`: a text without line ends defines at most one name.
-/

namespace GridPuzzle

namespace Text

/-- The ways to end a line. -/
def lineEnds : List Text :=
  [['\n'], ['\r'], ['\r', '\n']]

/-- A text of one line, without the end of the line. -/
def IsLine (text : Text) : Prop :=
  '\n' ∉ text ∧ '\r' ∉ text

instance (text : Text) : Decidable text.IsLine :=
  inferInstanceAs (Decidable (_ ∧ _))

variable {a b line : Text}

/-! ## Lines -/

/-- Splitting at a single character is that of the library. -/
theorem splitFrom_singleton (c : Char) (part text : Text) :
    splitFrom [c] 0 part text = text.splitOnPPrepend (· == c) part := by
  induction text generalizing part with
  | nil => rfl
  | cons d rest ih =>
      have here : [c].isPrefixOf (d :: rest) = (d == c) := by
        rw [List.isPrefixOf, List.isPrefixOf, Bool.and_true, BEq.comm]
      have below : splitFrom [c] ([c].length - 1) [] rest = rest.splitOnP (· == c) := by
        rw [List.splitOnP_eq_splitOnPPrepend]
        exact ih []
      rw [splitFrom, here, below, ih, List.splitOnPPrepend_cons_eq_if]

theorem lines_eq_splitOn (text : Text) : lines text = List.splitOn '\n' text := by
  rw [List.splitOn_eq_splitOnP, List.splitOnP_eq_splitOnPPrepend]
  exact splitFrom_singleton '\n' [] text

theorem lines_append (a b : Text) : lines (a ++ '\n' :: b) = lines a ++ lines b := by
  simp only [lines_eq_splitOn, List.splitOn_append_cons_self]

theorem lines_of_not_mem (h : '\n' ∉ line) : lines line = [line] := by
  rw [lines_eq_splitOn, List.splitOn_eq_singleton h]

/-- The lines of a text are made of its characters, without the line feeds. -/
theorem mem_of_mem_lines {text : Text} {c : Char} (h : line ∈ lines text) (hc : c ∈ line) :
    c ∈ text ∧ c ≠ '\n' := by
  rw [lines_eq_splitOn] at h
  induction text generalizing line with
  | nil =>
      rw [List.splitOn_nil, List.mem_singleton] at h
      rw [h] at hc
      cases hc
  | cons d rest ih =>
      rw [List.splitOn_cons_eq_if_modifyHead] at h
      split at h
      next =>
        rcases List.mem_cons.mp h with rfl | h
        · cases hc
        · exact (ih h hc).imp_left (List.mem_cons_of_mem d)
      next differs =>
        obtain ⟨first, others, hparts⟩ := List.exists_cons_of_ne_nil (List.splitOn_ne_nil '\n' rest)
        rw [hparts] at ih h
        rcases List.mem_cons.mp h with rfl | h
        · rcases List.mem_cons.mp hc with rfl | hc
          · exact ⟨List.mem_cons_self, fun same => differs (beq_iff_eq.mpr same)⟩
          · exact (ih List.mem_cons_self hc).imp_left (List.mem_cons_of_mem d)
        · exact (ih (List.mem_cons_of_mem first h) hc).imp_left (List.mem_cons_of_mem d)

/-! ## Line ends -/

theorem unifyLineEnds_of_not_mem (h : '\r' ∉ line) : unifyLineEnds line = line := by
  fun_induction unifyLineEnds line with
  | case1 => rfl
  | case2 rest ih => exact absurd List.mem_cons_self h
  | case3 c rest _ ih =>
      rw [List.mem_cons, not_or] at h
      rw [if_neg fun same => h.1 same.symm, ih h.2]

theorem not_mem_unifyLineEnds (text : Text) : '\r' ∉ unifyLineEnds text := by
  fun_induction unifyLineEnds text with
  | case1 => simp
  | case2 rest ih => simp [ih]
  | case3 c rest _ ih =>
      rw [List.mem_cons, not_or]
      refine ⟨?_, ih⟩
      split
      · decide
      · exact fun same => ‹¬ c = '\r'› same.symm

theorem unifyLineEnds_cons {c : Char} {rest : Text} (whole : c = '\r' → rest.head? ≠ some '\n') :
    unifyLineEnds (c :: rest) = (if c = '\r' then '\n' else c) :: unifyLineEnds rest := by
  refine unifyLineEnds.eq_3 c rest fun tail hc hrest => ?_
  rw [hrest] at whole
  exact whole hc rfl

/-- The line ends of two joined texts are changed in each text by itself, unless the joint cuts one in two. -/
theorem unifyLineEnds_append (whole : a.getLast? ≠ some '\r' ∨ b.head? ≠ some '\n') :
    unifyLineEnds (a ++ b) = unifyLineEnds a ++ unifyLineEnds b := by
  have below {c : Char} {rest : Text} (h : (c :: rest).getLast? ≠ some '\r' ∨ b.head? ≠ some '\n') :
      rest.getLast? ≠ some '\r' ∨ b.head? ≠ some '\n' := by
    refine h.imp_left fun last same => last ?_
    rw [List.getLast?_cons, same, Option.getD_some]
  fun_induction unifyLineEnds a with
  | case1 => rfl
  | case2 rest ih =>
      rw [List.cons_append, List.cons_append, unifyLineEnds, ih (below (below whole)), List.cons_append]
  | case3 c rest apart ih =>
      have first : c = '\r' → (rest ++ b).head? ≠ some '\n' := by
        rintro rfl
        cases rest with
        | nil => exact whole.resolve_left fun last => last rfl
        | cons d rest =>
            intro same
            exact apart rest rfl (by rw [Option.some.inj same])
      rw [List.cons_append, unifyLineEnds_cons first, ih (below whole), List.cons_append]

end Text

namespace Source

variable {a b line : Text}

/-! ## The names of joined texts -/

/-- The names that a text defines whose line ends are line feeds. -/
def namesIn (text : Text) : List Text :=
  (Text.lines text).filterMap definedName?

theorem functionNames_eq (source : Text) : functionNames source = namesIn (Text.unifyLineEnds source) :=
  rfl

theorem namesIn_append (a b : Text) : namesIn (a ++ '\n' :: b) = namesIn a ++ namesIn b := by
  rw [namesIn, Text.lines_append, List.filterMap_append]
  rfl

theorem functionNames_append_return (a : Text) (whole : b.head? ≠ some '\n') :
    functionNames (a ++ '\r' :: b) = functionNames a ++ functionNames b := by
  have first : ('\r' :: b).head? ≠ some '\n' := by simp
  rw [functionNames_eq, Text.unifyLineEnds_append (.inr first), Text.unifyLineEnds_cons fun _ => whole, if_pos rfl,
    namesIn_append]
  rfl

/-- A line end behind a text adds an empty line, which defines nothing. -/
theorem functionNames_concat_return (a : Text) : functionNames (a ++ ['\r']) = functionNames a := by
  rw [functionNames_append_return a (by simp)]
  exact List.append_nil _

theorem functionNames_append (a b : Text) :
    functionNames (a ++ '\n' :: b) = functionNames a ++ functionNames b := by
  by_cases cut : a.getLast? = some '\r'
  · -- The line feed is the second half of a line end, whose first half would end a line by itself.
    obtain ⟨front, rfl⟩ := List.getLast?_eq_some_iff.mp cut
    have first : ('\r' :: '\n' :: b).head? ≠ some '\n' := by simp
    rw [functionNames_concat_return, List.append_assoc, List.singleton_append, functionNames_eq,
      Text.unifyLineEnds_append (.inr first), Text.unifyLineEnds, namesIn_append]
    rfl
  · have feed : Text.unifyLineEnds ('\n' :: b) = '\n' :: Text.unifyLineEnds b :=
      Text.unifyLineEnds_cons fun same => absurd same (by decide)
    rw [functionNames_eq, Text.unifyLineEnds_append (.inl cut), feed, namesIn_append]
    rfl

/-- A line end of any kind keeps the names of two texts apart. -/
theorem functionNames_append_lineEnd (a b : Text) {lineEnd : Text} (h : lineEnd ∈ Text.lineEnds) :
    functionNames (a ++ lineEnd ++ b) = functionNames a ++ functionNames b := by
  simp only [Text.lineEnds, List.mem_cons, List.not_mem_nil, or_false] at h
  rcases h with rfl | rfl | rfl
  · rw [List.append_assoc]
    exact functionNames_append a b
  · by_cases cut : b.head? = some '\n'
    · obtain ⟨rest, rfl⟩ := List.head?_eq_some_iff.mp cut
      rw [functionNames_append, functionNames_concat_return]
      exact congrArg _ (functionNames_append [] rest).symm
    · rw [List.append_assoc]
      exact functionNames_append_return a cut
  · have halves : a ++ ['\r', '\n'] ++ b = (a ++ ['\r']) ++ '\n' :: b := by simp
    rw [halves, functionNames_append, functionNames_concat_return]

/-! ## The name of a line -/

theorem functionNames_of_isLine (h : line.IsLine) : functionNames line = (definedName? line).toList := by
  rw [functionNames, Text.unifyLineEnds_of_not_mem h.2, Text.lines_of_not_mem h.1, List.filterMap_cons,
    List.filterMap_nil]
  cases definedName? line <;> rfl

theorem isLine_of_mem_lines {source : Text} (h : line ∈ Text.lines (Text.unifyLineEnds source)) : line.IsLine := by
  refine ⟨fun feed => (Text.mem_of_mem_lines h feed).2 rfl, fun carriage => ?_⟩
  exact Text.not_mem_unifyLineEnds source (Text.mem_of_mem_lines h carriage).1

/-- The names of a text are those of its lines, one after the other. -/
theorem functionNames_eq_flatMap (source : Text) :
    functionNames source = (Text.lines (Text.unifyLineEnds source)).flatMap functionNames := by
  rw [functionNames, List.filterMap_eq_flatMap_toList]
  exact List.flatMap_congr fun line hline => (functionNames_of_isLine (isLine_of_mem_lines hline)).symm

theorem length_functionNames_of_isLine (h : line.IsLine) :
    (functionNames line).length = if definer <+: line then 1 else 0 := by
  rw [functionNames_of_isLine h, definedName?]
  simp only [List.isPrefixOf_iff_prefix]
  split <;> rfl

/-- **The names of a text are read line by line.** A line end of any kind between two texts keeps their names apart,
so a text defines what its lines define, in their order. A line defines one name if it starts with the word that
starts a definition, and else none. A name without spaces and parentheses is read up to the parenthesis behind it,
whatever stands behind that. -/
theorem names_are_read_line_by_line :
    (∀ a b : Text, ∀ lineEnd ∈ Text.lineEnds,
      functionNames (a ++ lineEnd ++ b) = functionNames a ++ functionNames b) ∧
    (∀ source : Text,
      functionNames source = (Text.lines (Text.unifyLineEnds source)).flatMap functionNames ∧
      ∀ line ∈ Text.lines (Text.unifyLineEnds source), line.IsLine) ∧
    (∀ line : Text, line.IsLine → (functionNames line).length = if definer <+: line then 1 else 0) ∧
    ∀ name rest : Text, ' ' ∉ name → '(' ∉ name → (definer ++ (name ++ '(' :: rest)).IsLine →
      functionNames (definer ++ (name ++ '(' :: rest)) = [name] := by
  refine ⟨fun a b lineEnd h => functionNames_append_lineEnd a b h,
    fun source => ⟨functionNames_eq_flatMap source, fun line => isLine_of_mem_lines⟩,
    fun line h => length_functionNames_of_isLine h, fun name rest unblank unopened h => ?_⟩
  rw [functionNames_of_isLine h, definedName?_definer unblank unopened]
  rfl

/-- A name that ends like the word that starts a definition, a default value that contains this word, and a
definition that is not at the front of its line. -/
theorem name_before_nested_definers :
    functionNames ("def keydef(f='def (')\r\n  def inner(x):".toList) = ["keydef".toList] := by
  obtain ⟨joined, -, counted, named⟩ := names_are_read_line_by_line
  have first : functionNames "def keydef(f='def (')".toList = ["keydef".toList] :=
    named "keydef".toList "f='def (')".toList (by decide) (by decide) (by decide)
  have second : functionNames "  def inner(x):".toList = [] :=
    List.length_eq_zero_iff.mp ((counted _ (by decide)).trans (if_neg (by decide)))
  have both := joined "def keydef(f='def (')".toList "  def inner(x):".toList ['\r', '\n'] (by decide)
  rwa [first, second] at both

end Source

end GridPuzzle
