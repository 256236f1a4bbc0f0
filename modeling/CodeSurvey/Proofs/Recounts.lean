import CodeSurvey.Analysis
import CodeSurvey.Session

/-!
# Counting again

A session may look for calls and uses as often as it likes and fill in what is out of date or was
seen elsewhere. Its functions and variables stay what they are, and one more round of counting
leads to what the analysis of the file finds at one go.
-/

namespace CodeSurvey
open Definitions References Script

/-! ## What counting leaves alone -/

def FunctionDef.uncounted (d : FunctionDef) : FunctionDef :=
  { d with totalCalls := none, callSites := none }

def VariableDef.uncounted (v : VariableDef) : VariableDef :=
  { v with totalUsages := none, usageLines := none }

theorem uncounted_applyCalls (defs : List FunctionDef) (calls : CallMap) :
    (applyCalls defs calls).map FunctionDef.uncounted = defs.map FunctionDef.uncounted := by
  rw [applyCalls, List.map_map]
  rfl

theorem uncounted_applyUsages (vars : List VariableDef) (usages : UsageMap) :
    (applyUsages vars usages).map VariableDef.uncounted = vars.map VariableDef.uncounted := by
  rw [applyUsages, List.map_map]
  rfl

theorem names_uncounted (defs : List FunctionDef) :
    (defs.map FunctionDef.uncounted).map FunctionDef.name = defs.map FunctionDef.name := by
  rw [List.map_map]
  rfl

theorem variableNames_uncounted (vars : List VariableDef) :
    (vars.map VariableDef.uncounted).map VariableDef.name = vars.map VariableDef.name := by
  rw [List.map_map]
  rfl

/-- Whatever was filled in before is overwritten. -/
theorem applyCalls_uncounted (defs : List FunctionDef) (calls : CallMap) :
    applyCalls (defs.map FunctionDef.uncounted) calls = applyCalls defs calls := by
  rw [applyCalls, List.map_map]
  rfl

theorem applyUsages_uncounted (vars : List VariableDef) (usages : UsageMap) :
    applyUsages (vars.map VariableDef.uncounted) usages = applyUsages vars usages := by
  rw [applyUsages, List.map_map]
  rfl

namespace Session

/-! ## Steps that add nothing -/

/-- The same functions and variables in the same order, but for what is filled in. -/
structure SameFacts (s t : Session) : Prop where
  defs : s.defs.map FunctionDef.uncounted = t.defs.map FunctionDef.uncounted
  vars : s.vars.map VariableDef.uncounted = t.vars.map VariableDef.uncounted

theorem SameFacts.refl (s : Session) : s.SameFacts s := ⟨rfl, rfl⟩

theorem SameFacts.trans {s t u : Session} (h : s.SameFacts t) (h' : t.SameFacts u) :
    s.SameFacts u :=
  ⟨h.defs.trans h'.defs, h.vars.trans h'.vars⟩

def Step.AddsNothing : Step → Prop
  | .addFunctions _ | .addVariables _ => False
  | .findCalls _ _ | .findUsages _ | .record _ _ _ | .applyCalls | .applyUsages => True

theorem step_sameFacts (s : Session) {a : Step} (ha : a.AddsNothing) :
    (s.step a).SameFacts s := by
  cases a with
  | addFunctions defs => exact ha.elim
  | addVariables vars => exact ha.elim
  | findCalls content filename => exact ⟨rfl, rfl⟩
  | findUsages content => exact ⟨rfl, rfl⟩
  | record callee line caller => exact ⟨rfl, rfl⟩
  | applyCalls => exact ⟨uncounted_applyCalls s.defs s.calls, rfl⟩
  | applyUsages => exact ⟨rfl, uncounted_applyUsages s.vars s.usages⟩

theorem run_append (s : Session) (first rest : List Step) :
    s.run (first ++ rest) = (s.run first).run rest := List.foldl_append

theorem run_sameFacts (s : Session) {steps : List Step} (hsteps : ∀ a ∈ steps, a.AddsNothing) :
    (s.run steps).SameFacts s := by
  induction steps generalizing s with
  | nil => exact .refl s
  | cons a steps ih =>
    obtain ⟨ha, hrest⟩ := List.forall_mem_cons.1 hsteps
    exact (ih (s.step a) hrest).trans (step_sameFacts s ha)

/-! ## A round of counting -/

def recount (content filename : String) : List Step :=
  [.findCalls content filename, .applyCalls, .findUsages content, .applyUsages]

/-- The functions and variables of a file before anything is counted. -/
def extracted (content filename : String) : Session :=
  run ∅ [.extractFunctions content filename, .extractVariables content filename]

def ofAnalysis (a : FileAnalysis) : Session := ⟨a.functions, a.vars, a.calls, a.usages⟩

section Recounting
variable (content filename : String)

theorem addsNothing_recount : ∀ a ∈ recount content filename, a.AddsNothing := by
  intro a ha
  simp only [recount, List.mem_cons, List.not_mem_nil, or_false] at ha
  rcases ha with rfl | rfl | rfl | rfl <;> trivial

/-- The state after a round of counting, for functions and variables that may be counted already. -/
def counted (defs : List FunctionDef) (vars : List VariableDef) : Session :=
  let calls := References.findCalls content filename (defs.map FunctionDef.name)
  let usages := References.findUsages content (vars.map VariableDef.name)
  ⟨References.applyCalls defs calls, References.applyUsages vars usages, calls, usages⟩

theorem run_recount (s : Session) :
    s.run (recount content filename) = counted content filename s.defs s.vars := by
  rw [recount, run]
  rfl

theorem counted_uncounted (defs : List FunctionDef) (vars : List VariableDef) :
    counted content filename (defs.map FunctionDef.uncounted)
      (vars.map VariableDef.uncounted) = counted content filename defs vars := by
  simp only [counted, names_uncounted, variableNames_uncounted, applyCalls_uncounted,
    applyUsages_uncounted]

/-- A round of counting sees the functions and variables alone, not what is filled in. -/
theorem run_recount_congr {s t : Session} (h : s.SameFacts t) :
    s.run (recount content filename) = t.run (recount content filename) := by
  rw [run_recount, run_recount, ← counted_uncounted, h.defs, h.vars, counted_uncounted]

theorem extracted_eq : extracted content filename =
    ⟨(extractFunctions content filename).items, (extractVariables content filename).items,
      ∅, ∅⟩ := by
  rw [extracted, run]
  rfl

theorem counted_extracted (options : AnalysisOptions) :
    counted content filename (extractFunctions content filename).items
      (extractVariables content filename).items =
      ofAnalysis (analyze content filename options) := by
  rw [analyze, analyzeWith, analyzeReading, ofAnalysis, counted]
  rfl

theorem run_recount_extracted (options : AnalysisOptions) :
    (extracted content filename).run (recount content filename) =
      ofAnalysis (analyze content filename options) := by
  rw [run_recount, extracted_eq]
  exact counted_extracted content filename options

end Recounting
end Session

open Session

/-- Both extractions tell of one reading. -/
theorem extracted_alike (content filename : String) :
    (extractVariables content filename).source = (extractFunctions content filename).source ∧
    (extractVariables content filename).parseError =
      (extractFunctions content filename).parseError := by
  rw [extractVariables, extractVariablesWith, extractFunctions, extractFunctionsWith]
  cases readWith SyntaxTree.ofText content (Language.ofFilename filename) with
  | ok program => exact ⟨rfl, rfl⟩
  | error e => exact ⟨rfl, rfl⟩

/-- After any steps that add nothing, a round of counting leads to the functions, variables, calls
and uses of the analysis at one go. On the way functions and variables stay what they are but for
their counts. Both extractions have the source and the error of the analysis. -/
theorem recounted_eq_analyze (content filename : String) (options : AnalysisOptions)
    {steps : List Step} (hsteps : ∀ a ∈ steps, a.AddsNothing) :
    let start := extracted content filename
    let analysis := analyze content filename options
    start.run (steps ++ recount content filename) = ofAnalysis analysis ∧
    (∀ done, done <+: steps ++ recount content filename → (start.run done).SameFacts start) ∧
    (extractFunctions content filename).source = analysis.source ∧
    (extractFunctions content filename).parseError = analysis.parseError ∧
    (extractVariables content filename).source = analysis.source ∧
    (extractVariables content filename).parseError = analysis.parseError := by
  intro start analysis
  have hall : ∀ a ∈ steps ++ recount content filename, a.AddsNothing := by
    intro a ha
    rcases List.mem_append.1 ha with ha | ha
    · exact hsteps a ha
    · exact addsNothing_recount content filename a ha
  have hsource : (extractFunctions content filename).source = analysis.source := by
    rw [extractFunctions, extractFunctionsWith]
    rfl
  have herror : (extractFunctions content filename).parseError = analysis.parseError := by
    rw [extractFunctions, extractFunctionsWith]
    rfl
  obtain ⟨hsource', herror'⟩ := extracted_alike content filename
  refine ⟨?_, ?_, hsource, herror, hsource'.trans hsource, herror'.trans herror⟩
  · calc start.run (steps ++ recount content filename)
      _ = (start.run steps).run (recount content filename) := run_append start _ _
      _ = start.run (recount content filename) :=
        run_recount_congr content filename (run_sameFacts start hsteps)
      _ = ofAnalysis analysis := run_recount_extracted content filename options
  · intro done hdone
    apply run_sameFacts
    intro a ha
    exact hall a (hdone.subset ha)

/-! ## Calls that were never made -/

def strayCalls : List Step :=
  [.record "f" 9 (some "g"), .record "f" 9 none, .applyCalls, .findUsages "f", .applyUsages]

theorem recounted_strayCalls :
    (∀ a ∈ strayCalls, a.AddsNothing) ∧
    ((extracted "def f():\n    f()\n" "a.py").run strayCalls).defs.map FunctionDef.totalCalls =
      [some 2] ∧
    (extracted "def f():\n    f()\n" "a.py").run
        (strayCalls ++ recount "def f():\n    f()\n" "a.py") =
      ofAnalysis (analyze "def f():\n    f()\n" "a.py" .standard) ∧
    (analyze "def f():\n    f()\n" "a.py" .standard).functions.map FunctionDef.totalCalls =
      [some 1] := by
  have hsteps : ∀ a ∈ strayCalls, a.AddsNothing := by simp [strayCalls, Step.AddsNothing]
  exact ⟨hsteps, by decide +kernel,
    (recounted_eq_analyze "def f():\n    f()\n" "a.py" .standard hsteps).1, by decide +kernel⟩

end CodeSurvey
