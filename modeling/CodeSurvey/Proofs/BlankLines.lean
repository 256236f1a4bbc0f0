import CodeSurvey.Analysis
import CodeSurvey.Proofs.Definitions.FoundNames
import CodeSurvey.Proofs.JoinedTexts
import CodeSurvey.Proofs.Text.MovedDown

/-!
# Blank lines in front

Blank lines in front of a text move all that is found in it down by as many lines and change
nothing else. No pattern can start on one, and nothing is called, used or risky there.
-/

namespace CodeSurvey
open Definitions References Script Text Text.Pattern

def blankLines (k : Nat) : String := String.ofList (List.replicate k '\n')

/-! ## Moving down -/

namespace SortedMap
variable {α β : Type}

def mapValues (f : α → β) (m : SortedMap α) : SortedMap β :=
  { entries := m.entries.map fun e => (e.1, f e.2)
    increase := by
      rw [KeysIncrease, List.pairwise_map]
      exact m.increase }

theorem find?_mapValues (f : α → β) (m : SortedMap α) (key : String) :
    (m.mapValues f).find? key = (m.find? key).map f := by
  rw [find?, find?, mapValues]
  dsimp only
  induction m.entries with
  | nil => rfl
  | cons e entries ih =>
    rw [List.map_cons, lookup_entry, lookup_entry, ih]
    split <;> rfl

end SortedMap

def CallSite.movedDown (k : Nat) (s : CallSite) : CallSite := { s with line := s.line + k }

def FunctionDef.movedDown (k : Nat) (d : FunctionDef) : FunctionDef :=
  { d with line := d.line + k, callSites := d.callSites.map (List.map (.movedDown k)) }

def VariableDef.movedDown (k : Nat) (v : VariableDef) : VariableDef :=
  { v with line := v.line + k, usageLines := v.usageLines.map (List.map (· + k)) }

def FoundImport.movedOn (k : Nat) (f : FoundImport) : FoundImport :=
  { f with offset := f.offset + k }

def FileAnalysis.movedDown (k : Nat) (a : FileAnalysis) : FileAnalysis :=
  { a with
    functions := a.functions.map (.movedDown k),
    vars := a.vars.map (.movedDown k),
    calls := a.calls.mapValues (.movedDown k),
    usages := a.usages.mapValues (.movedDown k),
    security := a.security.map (.movedDown k) }

/-! ## Lines -/

section Lines
variable (k : Nat) (text : List Char)

theorem lines_blank : lines (List.replicate k '\n' ++ text) = List.replicate k [] ++ lines text := by
  induction k with
  | zero => rfl
  | succ k ih =>
    rw [List.replicate_succ, List.cons_append, lines_cons, ih]
    rfl

theorem lineOf_blank (offset : Nat) :
    lineOf (List.replicate k '\n' ++ text) (offset + k) = lineOf text offset + k := by
  have htake : (List.replicate k '\n' ++ text).take (offset + k) =
      List.replicate k '\n' ++ text.take offset := by
    have h := @List.take_length_add_append _ (List.replicate k '\n') text offset
    rwa [List.length_replicate, Nat.add_comm] at h
  rw [lineOf, lineOf, htake, List.count_append, List.count_replicate_self]
  omega

theorem slice_blank (ls : List (List Char)) {first : Nat} (hfirst : 1 ≤ first) (last : Nat) :
    slice (List.replicate k [] ++ ls) (first + k) (last + k) = slice ls first last := by
  have hstart : min (first + k - 1) (List.replicate k [] ++ ls).length =
      (List.replicate k ([] : List Char)).length + min (first - 1) ls.length := by
    rw [List.length_append, List.length_replicate]
    omega
  have htake (start : Nat) : last + k - ((List.replicate k ([] : List Char)).length + start) =
      last - start := by
    rw [List.length_replicate]
    omega
  rw [slice, slice, hstart, List.drop_length_add_append, htake]

end Lines

/-! ## Definitions -/

section Matches
variable {k : Nat} {m n : Match} {ms ns : List Match}

theorem filterMap_further {α : Type} {f g : Match → Option α} {move : α → α}
    (hmove : ∀ m n, m.Further k n → g n = (f m).map move)
    (h : List.Forall₂ (Match.Further k) ms ns) :
    ns.filterMap g = (ms.filterMap f).map move := by
  induction h with
  | nil => rfl
  | @cons m n ms ns hmn _ ih =>
    rw [List.filterMap_cons, List.filterMap_cons, hmove m n hmn, ih]
    cases f m <;> rfl

theorem nameOf?_further (h : m.Further k n) :
    Option.Rel (Stretch.Further k) (nameOf? m) (nameOf? n) := by
  rw [nameOf?, nameOf?]
  rcases rel_cases (h.group? 1) with ⟨hm, hn⟩ | ⟨s, t, hm, hn, hst⟩
  · rw [hm, hn]
    exact h.group? 2
  · rw [hm, hn]
    exact .some hst

variable (text : List Char) (file : String)

theorem definitionOf?_further (language : Language) (type : FunctionType) (h : m.Further k n) :
    definitionOf? (List.replicate k '\n' ++ text) (lines (List.replicate k '\n' ++ text)) file
        language type n =
      (definitionOf? text (lines text) file language type m).map (.movedDown k) := by
  have hindented : isIndented n = isIndented m := by
    rw [isIndented, isIndented, h.whole.chars_eq]
  rw [definitionOf?, definitionOf?]
  rcases rel_cases (nameOf?_further h) with ⟨hm, hn⟩ | ⟨s, t, hm, hn, hst⟩
  · rw [hm, hn]
    rfl
  · have hline := lineOf_blank k text s.start.offset
    have hcode := slice_blank k (lines text) (lineOf_within text s.start.offset).1
      (lineOf text s.start.offset + linesAhead)
    rw [Nat.add_right_comm] at hcode
    simp only [hm, hn, Option.bind_some, hst.text_eq, hst.start.offset_eq, hline, lines_blank,
      hcode, hindented]
    split
    · rfl
    · rfl

theorem variableOf?_further (h : m.Further k n) :
    variableOf? (List.replicate k '\n' ++ text) file n =
      (variableOf? text file m).map (.movedDown k) := by
  rw [variableOf?, variableOf?]
  rcases rel_cases (h.group? 1) with ⟨hm, hn⟩ | ⟨s, t, hm, hn, hst⟩
  · rw [hm, hn]
    rfl
  · rcases rel_cases (h.group? 2) with ⟨hm', hn'⟩ | ⟨s', t', hm', hn', hst'⟩
    · rw [hm, hn, hm', hn']
      rfl
    · have hline := lineOf_blank k text s.start.offset
      rw [hm, hn, hm', hn']
      dsimp only
      rw [hst.text_eq, hst'.text_eq, hst.start.offset_eq, hline]
      rfl

end Matches

/-- The families of languages whose patterns all start within a line. -/
def inLineFamilies : List Language := [.python, .go, .rust, .ruby, .php, .cFamily, .other]

theorem startsInLine_patternOf? {language : Language} (hl : language ∈ inLineFamilies)
    {found : DefinitionPattern} (h : patternOf? language = some found) :
    found.pattern.StartsInLine := by
  cases language with
  | python | go | rust | ruby | php | cFamily =>
    cases h
    decide
  | other => cases h
  | javaScript | typeScript | java => exact absurd hl (by decide)

section Content
variable (k : Nat) (content : String)

theorem toList_blankLines :
    (blankLines k ++ content).toList = List.replicate k '\n' ++ content.toList := by
  rw [blankLines, String.toList_append, String.toList_ofList]

theorem functionsByPattern_blank (file : String) {language : Language}
    (hl : language ∈ inLineFamilies) :
    functionsByPattern (blankLines k ++ content) file language =
      (functionsByPattern content file language).map (.movedDown k) := by
  rw [functionsByPattern, functionsByPattern]
  cases h : patternOf? language with
  | none => rfl
  | some found =>
    dsimp only
    rw [toList_blankLines]
    refine filterMap_further ?_ ((startsInLine_patternOf? hl h).findAll_further k _)
    intro m n hmn
    exact definitionOf?_further content.toList file language found.type hmn

theorem variablesByPattern_blank (file : String) :
    variablesByPattern (blankLines k ++ content) file =
      (variablesByPattern content file).map (.movedDown k) := by
  have hdeclaration : declaration.StartsInLine := by decide
  rw [variablesByPattern, variablesByPattern, toList_blankLines]
  refine filterMap_further ?_ (hdeclaration.findAll_further k _)
  intro m n hmn
  exact variableOf?_further content.toList file hmn

theorem name_ne_nil_of_variablesByPattern {file : String} {v : VariableDef}
    (hv : v ∈ variablesByPattern content file) : v.name.toList ≠ [] := by
  obtain ⟨m, hm, hv⟩ := List.mem_filterMap.1 hv
  rw [variableOf?] at hv
  split at hv
  next keyword name hkeyword hname =>
    cases hv
    obtain ⟨before, after, q, -, -, hq, hreads⟩ := reads_of_group? hm hname
    have hbody : q = scriptName := by
      have hbodies : (2, q) ∈ [(1, words ["const", "let", "var"]), (2, scriptName)] := hq
      simpa using hbodies
    obtain ⟨c, rest, hchars, -⟩ := (isFoundName_of_scriptName (hbody ▸ hreads)).starts
    dsimp only
    rw [Stretch.toList_text, hchars]
    exact List.cons_ne_nil c rest
  next => cases hv

/-! ## Calls and uses -/

theorem callsOnLine_nil (name : List Char) : callsOnLine name [] = 0 := by
  have hcall : (callPattern name).mayReadNothing = false := by
    have hopening : (exactly "(").mayReadNothing = false := by decide
    simp [callPattern, all, mayReadNothing, hopening]
  rw [callsOnLine, count_nil (readsSome_of_mayReadNothing hcall), ite_self]

theorem usesOnLine_nil {name : List Char} (hname : name ≠ []) : usesOnLine name [] = 0 := by
  have hreads : (wholeName name).ReadsSome := by
    intro before chars after h
    rw [(reads_wholeName.1 h).1]
    exact hname
  rw [usesOnLine, count_nil hreads, ite_self]

theorem edgeOfText_blank (ls : List (List Char)) (name : String) :
    edgeOfText (List.replicate k [] ++ ls) name = (edgeOfText ls name).movedDown k := by
  have hblank : (edgeOfText (List.replicate k []) name).totalCalls = 0 := by
    rw [edgeOfText_totalCalls_eq_zero_iff]
    intro l hl
    rw [List.eq_of_mem_replicate hl]
    exact callsOnLine_nil name.toList
  rw [edgeOfText_append, edgeOfText_eq_empty hblank, List.length_replicate]
  simp [CallEdge.append, CallEdge.movedDown]

theorem usageOfText_blank (ls : List (List Char)) {name : String} (hname : name.toList ≠ []) :
    usageOfText (List.replicate k [] ++ ls) name = (usageOfText ls name).movedDown k := by
  have hblank : (usageOfText (List.replicate k []) name).total = 0 := by
    rw [usageOfText_total_eq_zero_iff]
    intro l hl
    rw [List.eq_of_mem_replicate hl]
    exact usesOnLine_nil hname
  rw [usageOfText_append, usageOfText_eq_empty hblank, List.length_replicate]
  simp [UsageEntry.append, UsageEntry.movedDown]

theorem callsInText_blank (known : List String) :
    callsInText (blankLines k ++ content) known =
      (callsInText content known).mapValues (.movedDown k) := by
  apply SortedMap.ext_find?
  intro name
  rw [SortedMap.find?_mapValues, find?_callsInText, find?_callsInText, toList_blankLines,
    lines_blank, edgeOfText_blank, apply_ite (Option.map _)]
  rfl

theorem findUsages_blank {names : List String} (hnames : ∀ name ∈ names, name.toList ≠ []) :
    findUsages (blankLines k ++ content) names =
      (findUsages content names).mapValues (.movedDown k) := by
  apply SortedMap.ext_find?
  intro name
  rw [SortedMap.find?_mapValues, find?_findUsages, find?_findUsages, toList_blankLines, lines_blank]
  by_cases hname : name ∈ names
  · rw [usageOfText_blank k _ (hnames name hname), apply_ite (Option.map _)]
    rfl
  · simp [hname]

theorem applyCalls_blank (defs : List FunctionDef) (calls : CallMap) :
    applyCalls (defs.map (.movedDown k)) (calls.mapValues (.movedDown k)) =
      (applyCalls defs calls).map (.movedDown k) := by
  rw [applyCalls, applyCalls, List.map_map, List.map_map]
  apply List.map_congr_left
  intro d _
  have hname : (d.movedDown k).name = d.name := rfl
  rw [Function.comp_apply, Function.comp_apply, applyCall, applyCall, hname,
    SortedMap.find?_mapValues]
  cases calls.find? d.name with
  | none => rfl
  | some e => rfl

theorem applyUsages_blank (vars : List VariableDef) (usages : UsageMap) :
    applyUsages (vars.map (.movedDown k)) (usages.mapValues (.movedDown k)) =
      (applyUsages vars usages).map (.movedDown k) := by
  rw [applyUsages, applyUsages, List.map_map, List.map_map]
  apply List.map_congr_left
  intro v _
  have hname : (v.movedDown k).name = v.name := rfl
  rw [Function.comp_apply, Function.comp_apply, applyUsage, applyUsage, hname,
    SortedMap.find?_mapValues]
  cases usages.find? v.name with
  | none => rfl
  | some e => rfl

/-! ## Imports -/

theorem targets_blank {p : Pattern} (hp : p.StartsInLine) (text : List Char) :
    Imports.targets p (List.replicate k '\n' ++ text) =
      (Imports.targets p text).map (.movedOn k) := by
  rw [Imports.targets, Imports.targets]
  refine filterMap_further ?_ (hp.findAll_further k text)
  intro m n hmn
  rw [Imports.targetOf?, Imports.targetOf?]
  rcases rel_cases (hmn.group? 1) with ⟨hm, hn⟩ | ⟨s, t, hm, hn, hst⟩
  · rw [hm, hn]
    rfl
  · rw [hm, hn, Option.map_some, Option.map_some, Option.map_some, hst.text_eq,
      hst.start.offset_eq]
    rfl

theorem blockTargets_further {m n : Match} (h : m.Further k n) :
    Imports.blockTargets n = (Imports.blockTargets m).map (.movedOn k) := by
  rw [Imports.blockTargets, Imports.blockTargets]
  rcases rel_cases (h.group? 1) with ⟨hm, hn⟩ | ⟨s, t, hm, hn, hst⟩
  · rw [hm, hn]
    rfl
  · rw [hm, hn]
    dsimp only
    rw [hst.chars_eq, hst.start.offset_eq, List.map_map]
    apply List.map_congr_left
    intro f _
    simp [FoundImport.movedOn, Nat.add_right_comm]

theorem flatMap_blockTargets_further {ms ns : List Match}
    (h : List.Forall₂ (Match.Further k) ms ns) :
    ns.flatMap Imports.blockTargets = (ms.flatMap Imports.blockTargets).map (.movedOn k) := by
  induction h with
  | nil => rfl
  | cons hmn _ ih =>
    rw [List.flatMap_cons, List.flatMap_cons, List.map_append, ih, blockTargets_further k hmn]

theorem foundIn_blank {language : Language} (hl : language ∈ inLineFamilies) (text : List Char) :
    Imports.foundIn (List.replicate k '\n' ++ text) language =
      (Imports.foundIn text language).map (.movedOn k) := by
  cases language with
  | python => exact targets_blank k (by decide) text
  | rust => exact targets_blank k (by decide) text
  | go =>
    have hblock : Imports.goBlockPattern.StartsInLine := by decide
    rw [Imports.foundIn, Imports.foundIn, targets_blank k (by decide) text, List.map_append,
      flatMap_blockTargets_further k (hblock.findAll_further k text)]
  | ruby | php | cFamily | other => rfl
  | javaScript | typeScript | java => exact absurd hl (by decide)

theorem inOrder_movedOn (found : List FoundImport) :
    Imports.inOrder (found.map (.movedOn k)) = Imports.inOrder found := by
  have hsort := @List.map_mergeSort _ _ (fun a b : FoundImport => decide (a.offset ≤ b.offset))
    (fun a b : FoundImport => decide (a.offset ≤ b.offset)) (.movedOn k) found
    (fun a _ b _ => by simp [FoundImport.movedOn])
  rw [Imports.inOrder, ← hsort, List.map_map]
  rfl

theorem findImports_blank {filename : String} (hl : Language.ofFilename filename ∈ inLineFamilies) :
    findImports (blankLines k ++ content) filename = findImports content filename := by
  rw [findImports, findImports, toList_blankLines, foundIn_blank k hl, inOrder_movedOn]

/-! ## Complexity and risks -/

theorem scanChars_blank (text : List Char) :
    BranchCounts.scanChars (List.replicate k '\n' ++ text) = BranchCounts.scanChars text := by
  have hcount {p : Pattern} (hp : p.StartsInLine) :
      p.count (List.replicate k '\n' ++ text) = p.count text := hp.count_eq k text
  have hcondition : ∀ keyword ∈ ["if", "while", "for", "catch"],
      (conditionPattern keyword).StartsInLine := by decide
  have hsign : ∀ sign ∈ ["&&", "||"], (exactly sign).StartsInLine := by decide
  have helse : elseIfPattern.StartsInLine := by decide
  have hcase : casePattern.StartsInLine := by decide
  have hconditional : conditionalPattern.StartsInLine := by decide
  rw [BranchCounts.scanChars, BranchCounts.scanChars, hcount (hcondition "if" (by decide)),
    hcount (hcondition "while" (by decide)), hcount (hcondition "for" (by decide)),
    hcount (hcondition "catch" (by decide)), hcount (hsign "&&" (by decide)),
    hcount (hsign "||" (by decide)), hcount helse, hcount hcase, hcount hconditional]

theorem complexity_blank (hne : content ≠ "") (t : ComplexityThresholds) :
    ComplexityScore.ofContent (blankLines k ++ content) t = .ofContent content t := by
  have hempty : content.isEmpty = false := by
    rwa [← Bool.not_eq_true, String.isEmpty_iff]
  have hempty' : (blankLines k ++ content).isEmpty = false := by
    rw [← Bool.not_eq_true, String.isEmpty_iff, String.append_eq_empty_iff]
    exact fun h => hne h.2
  rw [ComplexityScore.ofContent, ComplexityScore.ofContent, complexityOf, complexityOf, hempty,
    hempty', BranchCounts.scan, BranchCounts.scan, toList_blankLines, scanChars_blank]

theorem issuesOnLine_nil (file : String) (number : Nat) : issuesOnLine file number [] = [] := by
  have hnone : SecurityRule.all.filter (SecurityRule.appliesTo []) = [] := by decide
  rw [issuesOnLine, hnone]
  rfl

theorem findIssues_blank (file : String) :
    findIssues (blankLines k ++ content) file =
      (findIssues content file).map (.movedDown k) := by
  have hblank : ((List.replicate k ([] : List Char)).zipIdx.flatMap fun x =>
      issuesOnLine file (x.2 + 1) x.1) = [] := by
    rw [List.flatMap_eq_nil_iff]
    intro x hx
    have hline : x.1 ∈ List.replicate k [] := List.fst_mem_of_mem_zipIdx hx
    rw [List.eq_of_mem_replicate hline]
    exact issuesOnLine_nil file _
  rw [findIssues, toList_blankLines, lines_blank, zipIdx_append_moved, List.flatMap_append, hblank,
    List.nil_append, List.flatMap_map, List.length_replicate, findIssues, List.map_flatMap]
  congr 1
  funext x
  simp [issuesOnLine, SecurityIssue.movedDown, SecurityIssue.ofRule, Nat.add_right_comm]

end Content

/-- An analysis of a text by patterns. -/
theorem analyze_of_inLineFamilies {filename : String}
    (hl : Language.ofFilename filename ∈ inLineFamilies) (content : String)
    (options : AnalysisOptions) :
    analyze content filename options =
      let language := Language.ofFilename filename
      let functions := functionsByPattern content filename language
      let vars := variablesByPattern content filename
      let calls := callsInText content (functions.map FunctionDef.name)
      let usages := findUsages content (vars.map VariableDef.name)
      { file := filename, language := language, source := .pattern, parseError := none,
        functions := applyCalls functions calls, vars := applyUsages vars usages,
        imports := findImports content filename, calls := calls, usages := usages,
        complexity := .ofContent content options.complexity,
        security := if options.security then findIssues content filename else [] } := by
  have hscript : (Language.ofFilename filename).isScript = false := by
    revert hl
    cases Language.ofFilename filename <;> decide
  rw [analyze, analyzeWith, readWith, hscript]
  rfl

/-- Blank lines in front of a text that is not empty move all lines of its analysis down by as
many, and leave all else as it is: names and shown code, imports, counts and complexity. -/
theorem analyze_blankLines {content filename : String} (hne : content ≠ "")
    (hl : Language.ofFilename filename ∈ inLineFamilies) (k : Nat) (options : AnalysisOptions) :
    analyze (blankLines k ++ content) filename options =
      (analyze content filename options).movedDown k := by
  have hvars : ∀ name ∈ (variablesByPattern content filename).map VariableDef.name,
      name.toList ≠ [] := by
    intro name hname
    obtain ⟨v, hv, rfl⟩ := List.mem_map.1 hname
    exact name_ne_nil_of_variablesByPattern content hv
  have hnames (defs : List FunctionDef) :
      (defs.map (.movedDown k)).map FunctionDef.name = defs.map FunctionDef.name := by
    rw [List.map_map]
    rfl
  have hnames' (vars : List VariableDef) :
      (vars.map (.movedDown k)).map VariableDef.name = vars.map VariableDef.name := by
    rw [List.map_map]
    rfl
  rw [analyze_of_inLineFamilies hl, analyze_of_inLineFamilies hl, FileAnalysis.movedDown]
  dsimp only
  rw [functionsByPattern_blank k content filename hl, variablesByPattern_blank, hnames, hnames',
    callsInText_blank, findUsages_blank k content hvars, applyCalls_blank, applyUsages_blank,
    findImports_blank k content hl, complexity_blank k content hne, findIssues_blank,
    apply_ite (List.map _)]
  rfl

theorem analyze_blankLines_usedVariable :
    ("def f():\n  f()\nlet x = 1\nx" ≠ "" ∧ Language.ofFilename "a.py" ∈ inLineFamilies) ∧
    (analyze (blankLines 2 ++ "def f():\n  f()\nlet x = 1\nx") "a.py" .standard).functions.map
      (fun d => (d.name, d.line, d.callSites)) = [("f", 3, some [⟨4, none⟩])] ∧
    (analyze (blankLines 2 ++ "def f():\n  f()\nlet x = 1\nx") "a.py" .standard).vars.map
      (fun v => (v.name, v.line, v.usageLines)) = [("x", 5, some [6])] := by
  have hne : "def f():\n  f()\nlet x = 1\nx" ≠ "" := by decide
  have hl : Language.ofFilename "a.py" ∈ inLineFamilies := by decide +kernel
  rw [analyze_blankLines hne hl 2 .standard]
  exact ⟨⟨hne, hl⟩, by decide +kernel, by decide +kernel⟩

end CodeSurvey
