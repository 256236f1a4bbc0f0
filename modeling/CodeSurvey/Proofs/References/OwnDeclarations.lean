import CodeSurvey.Definitions.Extraction
import CodeSurvey.Proofs.Definitions.ProgramDefinitions
import CodeSurvey.Proofs.References.OwnDefinitions
import CodeSurvey.Proofs.Script.Preservation
import CodeSurvey.References.Usages

/-!
# Declarations that count as uses

A line is left out of the uses of a name if the name follows a keyword of declarations there. So a
variable whose name stands but once in a text goes unused just if it stands next to its keyword: a
further declarator of a declaration, or one on a later line, counts as a use of itself.
-/

namespace CodeSurvey.References
open Script Text Text.Pattern Definitions

/-! ## Lines that declare and lines that use -/

section Lines
variable {name line : List Char}

/-- The pattern for whole names reads a name on a line. -/
def IsReadOn (name line : List Char) : Prop :=
  ∃ s : Setting, line = s.before ++ name ++ s.after ∧ Bounded name s

/-- It does so right after a keyword of declarations. -/
def IsDeclaredOn (name line : List Char) : Prop :=
  ∃ s : Setting, line = s.before ++ name ++ s.after ∧ Bounded name s ∧
    EndsInKeyword declaringKeywords s.before

theorem isDeclaring_iff : isDeclaring name line ↔ IsDeclaredOn name line := by
  rw [isDeclaring, declaringPattern, isIn_afterKeyword (by decide)]
  constructor
  · rintro ⟨before, chars, after, hline, hbefore, h⟩
    obtain ⟨rfl, hbounded⟩ := reads_wholeName.1 h
    exact ⟨⟨before, after⟩, hline, hbounded, hbefore⟩
  · rintro ⟨s, hline, hbounded, hbefore⟩
    exact ⟨s.before, name, s.after, hline, hbefore, reads_wholeName.2 ⟨rfl, hbounded⟩⟩

theorem count_wholeName_pos : 0 < (wholeName name).count line ↔ IsReadOn name line := by
  rw [count_pos_iff, isIn_iff]
  constructor
  · rintro ⟨before, chars, after, hline, h⟩
    obtain ⟨rfl, hbounded⟩ := reads_wholeName.1 h
    exact ⟨⟨before, after⟩, hline, hbounded⟩
  · rintro ⟨s, hline, hbounded⟩
    exact ⟨s.before, name, s.after, hline, reads_wholeName.2 ⟨rfl, hbounded⟩⟩

theorem usesOnLine_eq_zero_iff :
    usesOnLine name line = 0 ↔ (IsReadOn name line → IsDeclaredOn name line) := by
  rw [usesOnLine]
  split
  next hdeclares =>
    have hdeclared := isDeclaring_iff.1 hdeclares
    exact ⟨fun _ _ => hdeclared, fun _ => rfl⟩
  next hnot =>
    have hundeclared : ¬ IsDeclaredOn name line := fun h => hnot (isDeclaring_iff.2 h)
    rw [← count_wholeName_pos]
    constructor
    · intro hzero hpos
      omega
    · intro h
      by_cases hpos : 0 < (wholeName name).count line
      · exact absurd (h hpos) hundeclared
      · omega

theorem isReadOn_iff (hedges : HasPlainEdges name) :
    IsReadOn name line ↔ settings name line ≠ [] := by
  constructor
  · rintro ⟨s, hline, hbounded⟩
    have hmem : s ∈ settings name line := mem_settings.2 ⟨hline, (bounded_iff hedges).1 hbounded⟩
    exact List.ne_nil_of_mem hmem
  · intro hne
    obtain ⟨s, rest, hs⟩ := List.exists_cons_of_ne_nil hne
    obtain ⟨hline, hparted⟩ := mem_settings.1 (hs ▸ List.mem_cons_self : s ∈ settings name line)
    exact ⟨s, hline, (bounded_iff hedges).2 hparted⟩

end Lines

/-! ## Names that stand once -/

/-- Each line on which a name is read declares it. -/
def DeclaredWhereRead (name content : String) : Prop :=
  ∀ line ∈ lines content.toList, IsReadOn name.toList line → IsDeclaredOn name.toList line

theorem declaredWhereRead_iff {name content : String} (hedges : HasPlainEdges name.toList)
    {s : Setting} (honce : settingsIn name content = [s]) :
    DeclaredWhereRead name content ↔ EndsInKeyword declaringKeywords s.before := by
  obtain ⟨first, line, last, hlines, hline, hothers⟩ := lines_of_settingsIn honce
  have hmem : s ∈ settings name.toList line := by
    rw [hline]
    exact List.mem_singleton_self s
  rw [DeclaredWhereRead, hlines]
  constructor
  · intro h
    have hread : IsReadOn name.toList line := (isReadOn_iff hedges).2 (List.ne_nil_of_mem hmem)
    obtain ⟨s', hline', hbounded, hkeyword⟩ := h line (by simp) hread
    have hmem' : s' ∈ settings name.toList line :=
      mem_settings.2 ⟨hline', (bounded_iff hedges).1 hbounded⟩
    rw [hline] at hmem'
    obtain rfl := List.mem_singleton.1 hmem'
    exact hkeyword
  · intro hkeyword l hl hread
    have hne := (isReadOn_iff hedges).1 hread
    have hl' : l = line := by
      by_cases hl' : l = line
      · exact hl'
      · refine absurd (hothers l ?_) hne
        simpa [hl'] using hl
    obtain ⟨hsplit, hparted⟩ := mem_settings.1 hmem
    rw [hl']
    exact ⟨s, hsplit, (bounded_iff hedges).2 hparted, hkeyword⟩

/-- The uses of the variables of a file in the file itself. -/
def usagesOfOwn (parse : String → SyntaxTree) (content filename : String) : UsageMap :=
  findUsages content ((extractVariablesWith parse content filename).items.map VariableDef.name)

theorem applyUsage_eq_none_iff {usages : UsageMap} {v : VariableDef}
    (husages : ∀ e, usages.find? v.name = some e → 0 < e.total) :
    (applyUsage usages v).totalUsages = some 0 ∧ (applyUsage usages v).usageLines = some [] ↔
      usages.find? v.name = none := by
  rw [applyUsage]
  cases h : usages.find? v.name with
  | none => exact iff_of_true ⟨rfl, rfl⟩ rfl
  | some e =>
    have hpos := husages e h
    simp
    omega

/-- A variable whose name stands but once in a text goes unused just if every line it is read on
declares it. If its name has plain edges, this is to say that the name follows a keyword of
declarations on its line. -/
theorem unused_iff_declared (parse : String → SyntaxTree) {content filename : String}
    {v : VariableDef} (hv : v ∈ (extractVariablesWith parse content filename).items) {s : Setting}
    (honce : settingsIn v.name content = [s]) :
    ((usagesOfOwn parse content filename).find? v.name = none ↔
      DeclaredWhereRead v.name content) ∧
    ((applyUsage (usagesOfOwn parse content filename) v).totalUsages = some 0 ∧
      (applyUsage (usagesOfOwn parse content filename) v).usageLines = some [] ↔
      DeclaredWhereRead v.name content) ∧
    (HasPlainEdges v.name.toList →
      (DeclaredWhereRead v.name content ↔ EndsInKeyword declaringKeywords s.before)) := by
  have hmem : v.name ∈ (extractVariablesWith parse content filename).items.map VariableDef.name :=
    List.mem_map_of_mem hv
  have hnone : (usagesOfOwn parse content filename).find? v.name = none ↔
      DeclaredWhereRead v.name content := by
    have hzero : (usageOfText (lines content.toList) v.name).total = 0 ↔
        DeclaredWhereRead v.name content := by
      rw [usageOfText_total_eq_zero_iff, DeclaredWhereRead]
      exact forall₂_congr fun l _ => usesOnLine_eq_zero_iff
    rw [usagesOfOwn, find?_findUsages, ← hzero]
    simp [hmem]
  refine ⟨hnone, ?_, fun hedges => declaredWhereRead_iff hedges honce⟩
  rw [← hnone]
  refine applyUsage_eq_none_iff fun e he => ?_
  rw [usagesOfOwn, find?_findUsages] at he
  split at he
  next hused =>
    cases he
    exact hused.2
  next => cases he

/-! ## A declarator by itself and one after another -/

def declaredX : VariableDef where
  name := "x"
  file := "a.rs"
  line := 1
  kind := .let_
  valueType := none
  isTopLevel := true
  totalUsages := none
  usageLines := none
  source := .pattern

theorem unused_declared_x :
    declaredX ∈ (extractVariablesWith .ofText "let x = 1;" "a.rs").items ∧
    settingsIn "x" "let x = 1;" = [⟨"let ".toList, " = 1;".toList⟩] ∧
    (usagesOfOwn .ofText "let x = 1;" "a.rs").find? "x" = none := by
  have hv : declaredX ∈ (extractVariablesWith .ofText "let x = 1;" "a.rs").items := by
    decide +kernel
  have honce : settingsIn "x" "let x = 1;" = [⟨"let ".toList, " = 1;".toList⟩] := by
    decide +kernel
  have hedges : HasPlainEdges declaredX.name.toList := by
    refine ⟨?_, ?_⟩ <;> decide +kernel
  have hkeyword : EndsInKeyword declaringKeywords "let ".toList :=
    ⟨[], "let", by decide, [' '], rfl, by decide, by decide, by decide⟩
  obtain ⟨hnone, -, hplain⟩ := unused_iff_declared .ofText hv honce
  exact ⟨hv, honce, hnone.2 ((hplain hedges).2 hkeyword)⟩

end CodeSurvey.References

namespace CodeSurvey.Script.OneLine
open Definitions

def declarator (declared number : String) : SyntaxTree :=
  branch "variable_declarator" [] [
    name declared ["name"], mark "=",
    .node ⟨"number", true, false, .sound, ⟨1, 1⟩, number, ["value"]⟩ []]

def twoDeclarators : SyntaxTree :=
  branch "program" [] [
    branch "lexical_declaration" [] [
      .node ⟨"let", false, false, .sound, ⟨1, 1⟩, "let", ["kind"]⟩ [],
      declarator "a" "1", mark ",", declarator "b" "2", mark ";"]]

theorem names_twoDeclarators (file : String) :
    (declaredVariables (lower twoDeclarators) file).map VariableDef.name = ["a", "b"] := by
  simp [declaredVariables, variablesIn_eq, lower_eq, Lowering.lowerWith, all_lowerBelow,
    declaration_lowerBelow, SyntaxTree.namedChildren, SyntaxTree.children, SyntaxTree.info,
    SyntaxTree.kind, SyntaxTree.declarator, SyntaxTree.lowered, SyntaxTree.field?,
    SyntaxTree.text, SyntaxTree.span, ownVariables, declare, Declarator.name?,
    Declarator.children, Node.children, twoDeclarators, declarator, branch, mark, OneLine.name]

end CodeSurvey.Script.OneLine

namespace CodeSurvey.References
open Script Text Definitions

/-- The second variable of a declaration is never read, and counts as used where it is declared. -/
theorem declarator_counts_as_use :
    grammar.Derives OneLine.twoDeclarators ∧
    (extractVariablesWith (fun _ => OneLine.twoDeclarators) "let a = 1, b = 2;"
      "a.js").items.map VariableDef.name = ["a", "b"] ∧
    settingsIn "b" "let a = 1, b = 2;" = [⟨"let a = 1, ".toList, " = 2;".toList⟩] ∧
    (usagesOfOwn (fun _ => OneLine.twoDeclarators) "let a = 1, b = 2;" "a.js").find? "b" =
      some ⟨1, [1]⟩ := by
  have hread : readWith (fun _ => OneLine.twoDeclarators) "let a = 1, b = 2;"
      (.ofFilename "a.js") = .ok (lower OneLine.twoDeclarators) :=
    program_of_sound (t := OneLine.twoDeclarators) (by decide) (by decide)
  have hnames : (extractVariablesWith (fun _ => OneLine.twoDeclarators) "let a = 1, b = 2;"
      "a.js").items.map VariableDef.name = ["a", "b"] := by
    rw [extractVariablesWith, hread]
    exact OneLine.names_twoDeclarators "a.js"
  refine ⟨Parsing.Grammar.recognises_sound (by decide +kernel), hnames, by decide +kernel, ?_⟩
  rw [usagesOfOwn, hnames]
  decide +kernel

end CodeSurvey.References
