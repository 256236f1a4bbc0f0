import CodeSurvey.Proofs.Consistency
import CodeSurvey.Proofs.Definitions.FoundNames
import CodeSurvey.Proofs.Script.LoweredSpans

/-!
# Code slices

A definition shows lines of the text as they stand there, from its own line on. In a program it
shows what its function spans; otherwise ten lines more than its own, or as many as there are.
-/

namespace CodeSurvey.Definitions
open Script Text

/-! ## What is shown -/

/-- A definition shows the lines of a text from its own to the last one told. -/
structure Shows (content : String) (d : FunctionDef) (last : Nat) : Prop where
  first_le : 1 ≤ d.line
  line_le : d.line ≤ last
  last_le : last ≤ lineCount content
  code_eq : d.code.toList = joinLines (((lines content.toList).take last).drop (d.line - 1))
  code_part : d.code.toList <:+: content.toList

theorem slice_eq {ls : List (List Char)} {first last : Nat} (h : first ≤ ls.length) :
    (slice ls first last).toList = joinLines ((ls.take (min last ls.length)).drop (first - 1)) := by
  have hstart : min (first - 1) ls.length = first - 1 := by omega
  rw [slice, String.toList_ofList, hstart, List.drop_take]
  congr 1
  rw [List.take_eq_take_iff, List.length_drop]
  omega

theorem shows_of_slice {content : String} {d : FunctionDef} {last : Nat} (hfirst : 1 ≤ d.line)
    (hline : d.line ≤ lineCount content) (hlast : d.line ≤ last)
    (hcode : d.code = slice (lines content.toList) d.line last) :
    Shows content d (min last (lineCount content)) := by
  have hcode' : d.code.toList =
      joinLines (((lines content.toList).take (min last (lineCount content))).drop (d.line - 1)) := by
    rw [hcode]
    exact slice_eq hline
  refine ⟨hfirst, by omega, Nat.min_le_right _ _, hcode', ?_⟩
  rw [hcode']
  exact infix_joinLines ((List.drop_suffix _ _).isInfix.trans (List.take_prefix _ _).isInfix)

/-! ## Definitions by pattern -/

section Found
variable {content : String} {d : FunctionDef} {before after : List Char}

theorem IsFoundName.lineEnd_not_mem {name : List Char} (h : IsFoundName name) : '\n' ∉ name := by
  intro hmem
  rcases h.parts _ hmem with hword | hmark
  · exact absurd hword (by decide)
  · exact absurd hmark (by decide)

theorem FoundIn.line_eq_lineOf (h : FoundIn content d before after) :
    d.line = lineOf content.toList before.length := by
  rw [h.line_eq, h.content_eq, List.append_assoc, lineOf_length]

theorem FoundIn.shows (h : FoundIn content d before after) :
    Shows content d (min (d.line + 10) (lineCount content)) := by
  have hwithin := lineOf_within content.toList before.length
  rw [← h.line_eq_lineOf] at hwithin
  exact shows_of_slice hwithin.1 hwithin.2 (Nat.le_add_right d.line 10) h.code_eq

theorem FoundIn.name_on_line (h : FoundIn content d before after) :
    ∃ line, (lines content.toList)[d.line - 1]? = some line ∧ d.name.toList <:+: line := by
  rw [h.line_eq, Nat.add_sub_cancel, h.content_eq]
  exact exists_line_of_append h.name_found.lineEnd_not_mem before after

end Found

/-- The name of a definition is a group, so the place its line goes by lies within the match. -/
theorem line_of_definitionOf? {content file : String} {language : Language}
    {found : DefinitionPattern} (h : patternOf? language = some found) {m : Match}
    (hm : m ∈ found.pattern.findAll content.toList) {d : FunctionDef}
    (hd : definitionOf? content.toList (lines content.toList) file language found.type m = some d) :
    ∃ offset, d.line = lineOf content.toList offset ∧ m.whole.start.offset ≤ offset ∧
      offset ≤ m.whole.stop.offset := by
  obtain ⟨before, after, hin, s, hs, hoffset⟩ := foundIn_of_definitionOf? h hm hd
  obtain ⟨index, hgroup⟩ := nameOf?_mem hs
  have hheld := Pattern.holds_of_group? hm hgroup
  obtain ⟨q, groups, groups', -, hmatch⟩ := hheld.matched
  refine ⟨before.length, hin.line_eq_lineOf, ?_, ?_⟩
  · exact hoffset ▸ hheld.from_first.offset_le
  · exact hoffset ▸ (hmatch.reaches.trans hheld.to_last).offset_le

theorem lines_functionsByPattern (content file : String) (language : Language) :
    ((functionsByPattern content file language).map FunctionDef.line).Pairwise (· ≤ ·) := by
  rw [functionsByPattern, List.pairwise_map]
  cases hfound : patternOf? language with
  | none => exact .nil
  | some found =>
    refine List.pairwise_filterMap.2 ?_
    refine (Pattern.findAll_pairwise found.pattern content.toList).imp_of_mem ?_
    intro m m' hm hm' hturn d hd d' hd'
    obtain ⟨offset, hline, -, hstop⟩ := line_of_definitionOf? hfound hm hd
    obtain ⟨offset', hline', hstart, -⟩ := line_of_definitionOf? hfound hm' hd'
    have hbetween := hturn.offset_le
    rw [hline, hline']
    apply lineOf_mono
    omega

theorem line_of_variablesByPattern {content file : String} {v : VariableDef}
    (hv : v ∈ variablesByPattern content file) : 1 ≤ v.line ∧ v.line ≤ lineCount content := by
  obtain ⟨m, -, hm⟩ := List.mem_filterMap.1 hv
  rw [variableOf?] at hm
  split at hm
  · cases hm
    exact lineOf_within content.toList _
  · cases hm

/-! ## Definitions of programs -/

/-- What is relied on of a parser of scripts: trees stand on lines of the text and do not end before
they start. -/
def StaysOnLines (parse : String → SyntaxTree) : Prop :=
  ∀ text, ∀ u ∈ (parse text).subtrees,
    1 ≤ u.span.startLine ∧ u.span.startLine ≤ u.span.endLine ∧ u.span.endLine ≤ lineCount text

theorem staysOnLines_of_laidOut {parse : String → SyntaxTree}
    (h : ∀ text, (parse text).LaidOut (lineCount text)) : StaysOnLines parse := by
  intro text u hu
  have hlaid := h text
  have hwithin := SyntaxTree.lines_of_mem hlaid.nested hu
  have hspan := (hlaid.nested u hu).span_le
  have hfirst := hlaid.first_le
  have hlast := hlaid.le_last
  omega

theorem staysOnLines_ofText : StaysOnLines SyntaxTree.ofText :=
  staysOnLines_of_laidOut laidOut_ofText

theorem span_of_functionItem {program : Node} {i : FunctionItem} (hi : i ∈ functionItems program) :
    ∃ n ∈ program.preorder, i.span ∈ n.ownSpans := by
  obtain ⟨⟨around, n⟩, ho, hi⟩ := List.mem_flatMap.1 hi
  refine ⟨n, program.occurrences_map_node ▸ List.mem_map_of_mem ho, ?_⟩
  cases n with
  | function f =>
    rw [functionItemsAt] at hi
    dsimp only at hi
    split at hi
    · obtain ⟨name, -, rfl⟩ := List.mem_map.1 hi
      exact List.mem_cons_self
    · cases hi
  | method m =>
    obtain ⟨name, -, rfl⟩ := List.mem_map.1 hi
    exact List.mem_cons_self
  | declaration kind ds s =>
    obtain ⟨d, hd, hi⟩ := List.mem_filterMap.1 hi
    refine List.mem_cons_of_mem _ (List.mem_map.2 ⟨d, hd, ?_⟩)
    rw [assignedItem?] at hi
    split at hi
    · split at hi
      · cases hi
      · cases hi
        rfl
    · cases hi
  | _ => cases hi

theorem span_of_variableItem {program : Node} {i : VariableItem} (hi : i ∈ variableItems program) :
    ∃ n ∈ program.preorder, i.declarator.span ∈ n.ownSpans := by
  obtain ⟨⟨around, n⟩, ho, hi⟩ := List.mem_flatMap.1 hi
  refine ⟨n, program.occurrences_map_node ▸ List.mem_map_of_mem ho, ?_⟩
  cases n with
  | declaration kind ds s =>
    obtain ⟨d, hd, hi⟩ := List.mem_filterMap.1 hi
    refine List.mem_cons_of_mem _ (List.mem_map.2 ⟨d, hd, ?_⟩)
    rw [variableItem?] at hi
    split at hi
    · cases hi
      rfl
    · cases hi
  | _ => cases hi

section Read
variable {parse : String → SyntaxTree} {content : String} {language : Language} {program : Node}

/-- Types are erased line by line, so the lines of a tree are those of the text with types. -/
theorem spanned_of_readWith (hparse : StaysOnLines parse)
    (h : readWith parse content language = .ok program) :
    program.Spanned fun s =>
      1 ≤ s.startLine ∧ s.startLine ≤ s.endLine ∧ s.endLine ≤ lineCount content := by
  obtain ⟨text, hlines, -, rfl⟩ := lowered_of_readWith h
  rw [← hlines]
  exact spanned_lower (hparse text)

theorem shows_functions (hparse : StaysOnLines parse)
    (h : readWith parse content language = .ok program) (file : String) :
    List.Forall₂ (fun i d => d.line = i.span.startLine ∧ Shows content d i.span.endLine)
      (functionItems program) (functions program content file) := by
  rw [functions_eq_map, List.forall₂_map_right_iff, List.forall₂_same]
  intro i hi
  obtain ⟨n, hn, hspan⟩ := span_of_functionItem hi
  obtain ⟨hfirst, hle, hlast⟩ := spanned_of_readWith hparse h n hn i.span hspan
  have hd := i.describes_definition ⟨lines content.toList, file⟩
  have hcode := hd.code_eq
  rw [← hd.line_eq] at hfirst hle hcode
  have hshows := shows_of_slice hfirst (hle.trans hlast) hle hcode
  rw [Nat.min_eq_left hlast] at hshows
  exact ⟨hd.line_eq, hshows⟩

theorem line_of_declaredVariables (hparse : StaysOnLines parse)
    (h : readWith parse content language = .ok program) {file : String} {v : VariableDef}
    (hv : v ∈ declaredVariables program file) : 1 ≤ v.line ∧ v.line ≤ lineCount content := by
  rw [declaredVariables_eq_map] at hv
  obtain ⟨i, hi, rfl⟩ := List.mem_map.1 hv
  obtain ⟨n, hn, hspan⟩ := span_of_variableItem hi
  obtain ⟨hfirst, hle, hlast⟩ := spanned_of_readWith hparse h n hn i.declarator.span hspan
  exact ⟨hfirst, hle.trans hlast⟩

end Read

/-! ## Definitions of files -/

/-- Every definition shows lines of the text: those its function spans if there is a program, and
otherwise up to ten after its own, which holds its name. All variables stand on lines of the text. -/
theorem definitions_show_lines {parse : String → SyntaxTree} (hparse : StaysOnLines parse)
    (content filename : String) :
    (∀ program, readWith parse content (.ofFilename filename) = .ok program →
      List.Forall₂ (fun i d => d.line = i.span.startLine ∧ Shows content d i.span.endLine)
        (functionItems program) (extractFunctionsWith parse content filename).items) ∧
    (∀ e, readWith parse content (.ofFilename filename) = .error e →
      (∀ d ∈ (extractFunctionsWith parse content filename).items,
        Shows content d (min (d.line + 10) (lineCount content)) ∧
        ∃ line, (lines content.toList)[d.line - 1]? = some line ∧ d.name.toList <:+: line) ∧
      ((extractFunctionsWith parse content filename).items.map FunctionDef.line).Pairwise
        (· ≤ ·)) ∧
    ∀ v ∈ (extractVariablesWith parse content filename).items,
      1 ≤ v.line ∧ v.line ≤ lineCount content := by
  rw [extractFunctionsWith, extractVariablesWith]
  cases hread : readWith parse content (.ofFilename filename) with
  | ok program =>
    refine ⟨?_, ?_, fun v hv => line_of_declaredVariables hparse hread hv⟩
    · intro program' hprogram
      cases hprogram
      exact shows_functions hparse hread filename
    · intro e he
      cases he
  | error e =>
    refine ⟨?_, ?_, fun v hv => line_of_variablesByPattern hv⟩
    · intro program hprogram
      cases hprogram
    · intro _ _
      refine ⟨fun d hd => ?_, lines_functionsByPattern content filename _⟩
      obtain ⟨before, after, hfound⟩ := foundIn_of_mem hd
      exact ⟨hfound.shows, hfound.name_on_line⟩

theorem load_shows_lines : StaysOnLines SyntaxTree.ofText ∧
    ∃ d ∈ (extractFunctionsWith .ofText "def load(path):\n  pass\n" "a.py").items,
      d.name = "load" ∧ Shows "def load(path):\n  pass\n" d 3 := by
  have hmem : ∃ d ∈ (extractFunctionsWith .ofText "def load(path):\n  pass\n" "a.py").items,
      d.name = "load" ∧ d.line = 1 := by
    decide +kernel
  obtain ⟨d, hd, hname, hline⟩ := hmem
  have hshow := definitions_show_lines staysOnLines_ofText "def load(path):\n  pass\n" "a.py"
  have hcount : lineCount "def load(path):\n  pass\n" = 3 := by decide +kernel
  obtain ⟨hshows, -⟩ := (hshow.2.1 _ rfl).1 d hd
  rw [hline, hcount] at hshows
  exact ⟨staysOnLines_ofText, d, hd, hname, hshows⟩

end CodeSurvey.Definitions
