import CodeSurvey.Analysis
import CodeSurvey.Proofs.References.ProgramSites
import CodeSurvey.Proofs.References.TextReferences
import CodeSurvey.Proofs.Script.ErasedLines

/-!
# Consistency of analyses

The parts of an analysis fit one another. Calls are recorded for functions that were found and are
charged to such functions, uses for variables that were found, all on lines of the text in order;
and functions and variables say of themselves what is recorded for their names.
-/

namespace CodeSurvey
open Definitions References Script

/-! ## What fits what -/

def lineCount (content : String) : Nat := (Text.lines content.toList).length

/-- The calls recorded for a function fit the text and the functions that were found. -/
structure CallEdge.Fits (content : String) (a : FileAnalysis) (e : CallEdge) : Prop where
  total_eq : e.totalCalls = e.callSites.length
  called : 1 ≤ e.totalCalls
  sorted : (e.callSites.map CallSite.line).Pairwise (· ≤ ·)
  within : ∀ l ∈ e.callSites.map CallSite.line, 1 ≤ l ∧ l ≤ lineCount content
  callers : ∀ s ∈ e.callSites, ∀ caller, s.caller = some caller →
    caller ∈ a.functions.map FunctionDef.name ∧ a.source = .structural

/-- The uses recorded for a variable fit the text. -/
structure UsageEntry.Fits (content : String) (e : UsageEntry) : Prop where
  used : 1 ≤ e.total
  lines_le : e.lines.length ≤ e.total
  increase : e.lines.Pairwise (· < ·)
  within : ∀ l ∈ e.lines, 1 ≤ l ∧ l ≤ lineCount content

/-- A function says of itself what is recorded for its name, or that there is nothing. -/
def FunctionDef.Reflects (calls : CallMap) (f : FunctionDef) : Prop :=
  f.totalCalls = some ((calls.find? f.name).elim 0 CallEdge.totalCalls) ∧
  f.callSites = some ((calls.find? f.name).elim [] CallEdge.callSites)

def VariableDef.Reflects (usages : UsageMap) (v : VariableDef) : Prop :=
  v.totalUsages = some ((usages.find? v.name).elim 0 UsageEntry.total) ∧
  v.usageLines = some ((usages.find? v.name).elim [] UsageEntry.lines)

structure FileAnalysis.Consistent (content : String) (a : FileAnalysis) : Prop where
  calls : ∀ e ∈ a.calls.entries, e.1 ∈ a.functions.map FunctionDef.name ∧ e.2.Fits content a
  functions : ∀ f ∈ a.functions, f.Reflects a.calls
  usages : ∀ e ∈ a.usages.entries, e.1 ∈ a.vars.map VariableDef.name ∧ e.2.Fits content
  vars : ∀ v ∈ a.vars, v.Reflects a.usages

/-- What is relied on of a parser of scripts: the tree of a text is laid out over its lines, and is
one of the grammar unless it shows a fault. -/
structure IsParser (parse : String → SyntaxTree) : Prop where
  laidOut : ∀ text, (parse text).LaidOut (lineCount text)
  derives : ∀ text, (parse text).faultLine? = none → grammar.Derives (parse text)

theorem isParser_ofText (h : ∀ text, (SyntaxTree.ofText text).faultLine? = none →
    grammar.Derives (SyntaxTree.ofText text)) : IsParser SyntaxTree.ofText :=
  ⟨laidOut_ofText, h⟩

/-! ## Filling in -/

theorem applyCalls_names (defs : List FunctionDef) (calls : CallMap) :
    (applyCalls defs calls).map FunctionDef.name = defs.map FunctionDef.name := by
  rw [applyCalls, List.map_map]
  rfl

theorem applyUsages_names (vars : List VariableDef) (usages : UsageMap) :
    (applyUsages vars usages).map VariableDef.name = vars.map VariableDef.name := by
  rw [applyUsages, List.map_map]
  rfl

theorem reflects_of_mem_applyCalls {defs : List FunctionDef} {calls : CallMap} {f : FunctionDef}
    (h : f ∈ applyCalls defs calls) : f.Reflects calls := by
  obtain ⟨d, _, rfl⟩ := List.mem_map.1 h
  have hname : (applyCall calls d).name = d.name := rfl
  rw [FunctionDef.Reflects, hname, applyCall]
  cases calls.find? d.name with
  | none => exact ⟨rfl, rfl⟩
  | some e => exact ⟨rfl, rfl⟩

theorem reflects_of_mem_applyUsages {vars : List VariableDef} {usages : UsageMap}
    {v : VariableDef} (h : v ∈ applyUsages vars usages) : v.Reflects usages := by
  obtain ⟨d, _, rfl⟩ := List.mem_map.1 h
  have hname : (applyUsage usages d).name = d.name := rfl
  rw [VariableDef.Reflects, hname, applyUsage]
  cases usages.find? d.name with
  | none => exact ⟨rfl, rfl⟩
  | some e => exact ⟨rfl, rfl⟩

/-! ## Calls and uses -/

theorem usageEntry_fits {content : String} {names : List String} {e : String × UsageEntry}
    (h : e ∈ (findUsages content names).entries) : e.1 ∈ names ∧ e.2.Fits content := by
  obtain ⟨name, entry⟩ := e
  rw [SortedMap.mem_entries, find?_findUsages] at h
  split at h
  next hused =>
    obtain rfl := Option.some.inj h
    exact ⟨hused.1, hused.2, usageOfText_lines_le, usageOfText_increase,
      fun l hl => usageOfText_within hl⟩
  next => cases h

variable {content : String} {known : List String} {a : FileAnalysis}

theorem textEdge_fits {e : String × CallEdge} (h : e ∈ (callsInText content known).entries) :
    e.1 ∈ known ∧ e.2.Fits content a := by
  obtain ⟨name, edge⟩ := e
  rw [SortedMap.mem_entries, find?_callsInText] at h
  split at h
  next hcalled =>
    obtain rfl := Option.some.inj h
    refine ⟨hcalled.1, edgeOfText_totalCalls, hcalled.2, edgeOfText_sorted,
      fun l hl => edgeOfText_within hl, fun s hs caller hcaller => ?_⟩
    rw [edgeOfText_callers hs] at hcaller
    cases hcaller
  next => cases h

/-- A program that a text may be read as: that of a tree of the grammar over the lines of the
text. -/
def IsProgramOf (content : String) (program : Node) : Prop :=
  ∃ t : SyntaxTree, Conforms t ∧ t.kind ≠ "variable_declarator" ∧ t.LaidOut (lineCount content) ∧
    program = lower t

theorem programEdge_fits {program : Node} (hprogram : IsProgramOf content program)
    (hsource : a.source = .structural) {file : String}
    (hfunctions : a.functions.map FunctionDef.name =
      (functions program content file).map FunctionDef.name)
    {e : String × CallEdge} (h : e ∈ (callsInProgram program known).entries) :
    e.1 ∈ known ∧ e.2.Fits content a := by
  obtain ⟨t, hconforms, hkind, hlaid, rfl⟩ := hprogram
  obtain ⟨name, edge⟩ := e
  rw [SortedMap.mem_entries, find?_callsInProgram] at h
  split at h
  next hcalled =>
    obtain rfl := Option.some.inj h
    refine ⟨hcalled.1, rfl, List.length_pos_iff.2 hcalled.2, sitesOf_sorted hconforms hkind hlaid _,
      fun l hl => sitesOf_within hconforms hkind hlaid hl, fun s hs caller hcaller => ?_⟩
    refine ⟨?_, hsource⟩
    rw [hfunctions]
    exact caller_mem_functions (initializesPlainly_lower hconforms hkind) content file hs hcaller
  next => cases h

/-! ## The whole analysis -/

theorem lowered_of_readWith {parse : String → SyntaxTree} {language : Language} {program : Node}
    (h : readWith parse content language = .ok program) :
    ∃ text, lineCount text = lineCount content ∧ (parse text).faultLine? = none ∧
      program = lower (parse text) := by
  rw [readWith] at h
  split at h
  next =>
    have hlines : lineCount (if language.hasTypes then eraseTypes content else content) =
        lineCount content := by
      split
      · exact length_lines_eraseTypes content
      · rfl
    exact ⟨_, hlines, program_ok h⟩
  next => cases h

theorem isProgramOf_readWith {parse : String → SyntaxTree} (hparse : IsParser parse)
    {language : Language} {program : Node} (h : readWith parse content language = .ok program) :
    IsProgramOf content program := by
  obtain ⟨text, hlines, hfault, hlower⟩ := lowered_of_readWith h
  obtain ⟨hconforms, hkind⟩ :=
    conforms_of_derives grammar_admitsOnlyConforming (hparse.derives text hfault)
  exact ⟨parse text, hconforms, hkind, hlines ▸ hparse.laidOut text, hlower⟩

/-- Every analysis is consistent, whatever the text, the name of the file and the options. -/
theorem analyzeWith_consistent {parse : String → SyntaxTree} (hparse : IsParser parse)
    (content filename : String) (options : AnalysisOptions) :
    (analyzeWith parse content filename options).Consistent content := by
  have hreading (program : Node)
      (h : readWith parse content (.ofFilename filename) = .ok program) :
      IsProgramOf content program := isProgramOf_readWith hparse h
  rw [analyzeWith]
  generalize readWith parse content (.ofFilename filename) = reading at hreading
  constructor
  · intro e he
    have hnames : (analyzeReading reading content filename options).functions.map
        FunctionDef.name = (functionsFrom reading content filename
          (.ofFilename filename)).items.map FunctionDef.name := applyCalls_names _ _
    rw [hnames]
    cases reading with
    | error => exact textEdge_fits he
    | ok program =>
      exact programEdge_fits (hreading program rfl) rfl hnames he
  · exact fun f hf => reflects_of_mem_applyCalls hf
  · intro e he
    have hnames : (analyzeReading reading content filename options).vars.map VariableDef.name =
        (variablesFrom reading content filename).items.map VariableDef.name :=
      applyUsages_names _ _
    rw [hnames]
    exact usageEntry_fits he
  · exact fun v hv => reflects_of_mem_applyUsages hv

/-! ## A function that calls itself -/

namespace Script.OneLine

def loop : SyntaxTree :=
  branch "program" [] [
    branch "function_declaration" [] [
      mark "function", name "f" ["name"],
      branch "formal_parameters" ["parameters"] [mark "(", mark ")"],
      branch "statement_block" ["body"] [
        mark "\x7b", branch "expression_statement" [] [callOf "f", mark ";"], mark "\x7d"]]]

/-- A parser that knows a single text. -/
def parse (text : String) : SyntaxTree :=
  if text = "function f() \x7b f(); \x7d" then loop else emptyTree

theorem isParser_parse : IsParser parse := by
  have hempty : ∀ u ∈ emptyTree.subtrees, u.span = ⟨1, 1⟩ := by
    simp [emptyTree, SyntaxTree.subtrees_node, SyntaxTree.span, SyntaxTree.info]
  have hloop : ∀ u ∈ loop.subtrees, u.span = ⟨1, 1⟩ := by
    simp [loop, branch, callOf, mark, name, SyntaxTree.subtrees_node, SyntaxTree.span,
      SyntaxTree.info]
  refine ⟨fun text => .of_oneLine ?_ ?_, fun text hfault => ?_⟩
  · rw [parse]
    split
    · exact hloop
    · exact hempty
  · rw [lineCount, Text.length_lines]
    exact Nat.le_add_left 1 _
  · rw [parse] at hfault ⊢
    split at hfault
    next htext =>
      rw [if_pos htext]
      exact Parsing.Grammar.recognises_sound (by decide +kernel)
    next => cases hfault

end Script.OneLine

theorem loop_consistent : IsParser OneLine.parse ∧
    readWith OneLine.parse "function f() \x7b f(); \x7d" .javaScript = .ok (lower OneLine.loop) ∧
    (analyzeWith OneLine.parse "function f() \x7b f(); \x7d" "a.js" .standard).Consistent
      "function f() \x7b f(); \x7d" :=
  ⟨OneLine.isParser_parse, program_of_sound (t := OneLine.loop) (by decide) (by decide),
    analyzeWith_consistent OneLine.isParser_parse "function f() \x7b f(); \x7d" "a.js" .standard⟩

end CodeSurvey
