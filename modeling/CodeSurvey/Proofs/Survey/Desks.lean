import CodeSurvey.Proofs.Files.Trees
import CodeSurvey.Proofs.Survey.SteadyFiles

/-!
# What a desk remembers

The first analysis of a file stays, whatever happens to the file, and nothing else is remembered:
all that is known was found out by a call that succeeded, from the file as it was then.
-/

namespace CodeSurvey
open CodeSurvey.Path
namespace Desk

def after (d : Desk) (steps : List Step) : Desk := (d.run steps).2

namespace Step

/-- The paths whose files a step has analyzed. -/
def calls : Step → List String
  | .analyze path => [path]
  | .analyzeAll paths => paths
  | .change _ | .remove _ | .recall _ => []

def IsNormal (s : Step) : Prop := ∀ p ∈ s.calls, Path.IsNormal p

end Step

def crew (d : Desk) (paths : List String) (schedule : List Nat) : Crew :=
  (Crew.start d.analyzer paths).run d.files schedule

/-- What a call within a step may answer about a path. The tasks of one step may take any turns. -/
inductive Answers (d : Desk) : Step → String → Except AnalyzeError FileAnalysis → Prop
  | one (path : String) : Answers d (.analyze path) path (d.analyzer.analyze d.files path).1
  | all {paths : List String} {schedule : List Nat} {path : String}
    {result : Except AnalyzeError FileAnalysis}
    (hfinished : (d.crew paths schedule).isFinished = true)
    (h : ⟨path, .finished result⟩ ∈ (d.crew paths schedule).tasks) :
    Answers d (.analyzeAll paths) path result

section Steps
variable {d : Desk} {s : Step} {path key : String} {x : FileAnalysis}

theorem step_analyzer (d : Desk) (s : Step) :
    (d.step s).2.analyzer = (d.analyzer.analyzeAll d.files s.calls).2 := by
  cases s with
  | remove path =>
    delta step
    dsimp only
    split <;> rfl
  | _ => rfl

theorem step_settings (d : Desk) (hs : s.IsNormal) :
    (d.step s).2.analyzer = d.analyzer.knowing (d.step s).2.analyzer.known := by
  rw [step_analyzer]
  exact Crew.analyzeAll_settings d.files d.analyzer hs

theorem find?_step (d : Desk) (hs : s.IsNormal) (key : String) (x : FileAnalysis) :
    (d.step s).2.analyzer.known.find? key = some x ↔
      d.analyzer.known.find? key = some x ∨ d.analyzer.Gains d.files s.calls key x := by
  rw [step_analyzer]
  exact Crew.find?_analyzeAll d.files d.analyzer hs key x

/-- The tasks of a step lead to one desk, whatever turns they take. -/
theorem crew_analyzer {paths : List String} (hpaths : ∀ p ∈ paths, Path.IsNormal p)
    {schedule : List Nat} (hfinished : (d.crew paths schedule).isFinished = true) :
    (d.crew paths schedule).analyzer = (d.step (.analyzeAll paths)).2.analyzer :=
  ((Crew.follows_start d.files d.analyzer paths).run hpaths schedule).analyzer_eq hpaths hfinished

theorem fits_of_crew {paths : List String} (hpaths : ∀ p ∈ paths, Path.IsNormal p)
    {schedule : List Nat} (hfinished : (d.crew paths schedule).isFinished = true) {t : Task}
    (ht : t ∈ (d.crew paths schedule).tasks) :
    t.Fits d.files d.analyzer (d.step (.analyzeAll paths)).2.analyzer.known := by
  rw [← crew_analyzer hpaths hfinished]
  exact ((Crew.follows_start d.files d.analyzer paths).run hpaths schedule).fits t ht

theorem analyze_of_known (h : d.analyzer.known? path = some x) :
    d.analyzer.analyze d.files path = (.ok x, d.analyzer) := by
  rw [Analyzer.analyze, h]

theorem analyze_of_new (h : d.analyzer.known? path = none) :
    (d.analyzer.analyze d.files path).1 = d.analyzer.examine d.files path := by
  rw [Analyzer.analyze, h]
  cases d.analyzer.examine d.files path <;> rfl

theorem known_of_answers (hs : s.IsNormal) (h : d.Answers s path (.ok x)) :
    (d.step s).2.analyzer.known.find? (d.analyzer.key path) = some x := by
  generalize hresult : Except.ok x = result at h
  cases h with
  | one path =>
    rw [find?_step d hs]
    cases hknown : d.analyzer.known? path with
    | some y =>
      rw [analyze_of_known hknown] at hresult
      cases hresult
      exact .inl hknown
    | none =>
      rw [analyze_of_new hknown] at hresult
      exact .inr ⟨hknown, path, List.mem_singleton_self path, rfl, hresult.symm⟩
  | all hfinished ht =>
    subst hresult
    cases fits_of_crew hs hfinished ht with
    | told hx => exact hx

theorem eq_of_answers (hs : s.IsNormal) (hknown : d.analyzer.known? path = some x)
    {result : Except AnalyzeError FileAnalysis} (h : d.Answers s path result) :
    result = .ok x := by
  cases h with
  | one path => rw [analyze_of_known hknown]
  | all hfinished ht =>
    -- A task that failed knew nothing at the start of the step.
    cases fits_of_crew hs hfinished ht with
    | told hy =>
      have hkept := (find?_step d hs _ _).2 (.inl hknown)
      cases hy.symm.trans hkept
      rfl
    | failed hnew he =>
      rw [hknown] at hnew
      cases hnew

theorem answers_of_gains (hs : s.IsNormal) (h : d.analyzer.Gains d.files s.calls key x) :
    ∃ p ∈ s.calls, key = d.analyzer.key p ∧ d.analyzer.known? p = none ∧
      d.analyzer.examine d.files p = .ok x ∧ d.Answers s p (.ok x) := by
  obtain ⟨hnew, p, hp, rfl, hx⟩ := h
  refine ⟨p, hp, rfl, hnew, hx, ?_⟩
  cases s with
  | analyze path =>
    obtain rfl := List.mem_singleton.1 hp
    have hresult : (d.analyzer.analyze d.files p).1 = .ok x := (analyze_of_new hnew).trans hx
    rw [← hresult]
    exact .one p
  | analyzeAll paths =>
    have hfollows := (Crew.follows_start d.files d.analyzer paths).run hs
      (Crew.inTurn 0 paths.length)
    have hfinished := Crew.isFinished_inTurn d.files d.analyzer paths
    rcases hfollows.exists_task hfinished hp with ⟨y, hy, ht⟩ | ⟨e, -, he, -⟩
    · have hsame : some y = some x := by
        rw [← hy]
        exact (hfollows.find?_eq_some hs hfinished).2 (.inr ⟨hnew, p, hp, rfl, hx⟩)
      cases hsame
      exact .all hfinished ht
    · rw [hx] at he
      cases he
  | _ => cases hp

end Steps

/-! ## Runs -/

section Runs
variable {d : Desk} {steps : List Step}

theorem after_append (d : Desk) (first rest : List Step) :
    d.after (first ++ rest) = (d.after first).after rest := by
  induction first generalizing d with
  | nil => rfl
  | cons s first ih => exact ih (d.step s).2

theorem after_settings (d : Desk) (hsteps : ∀ s ∈ steps, s.IsNormal) :
    (d.after steps).analyzer = d.analyzer.knowing (d.after steps).analyzer.known := by
  induction steps generalizing d with
  | nil => rfl
  | cons s steps ih =>
    obtain ⟨hs, hrest⟩ := List.forall_mem_cons.1 hsteps
    have hstep := step_settings d hs
    have hlater := ih (d.step s).2 hrest
    rw [hstep] at hlater
    exact hlater

theorem after_kept (d : Desk) (hsteps : ∀ s ∈ steps, s.IsNormal) {key : String}
    {x : FileAnalysis} (h : d.analyzer.known.find? key = some x) :
    (d.after steps).analyzer.known.find? key = some x := by
  induction steps generalizing d with
  | nil => exact h
  | cons s steps ih =>
    obtain ⟨hs, hrest⟩ := List.forall_mem_cons.1 hsteps
    exact ih (d.step s).2 hrest ((find?_step d hs key x).2 (.inl h))

theorem gained_of_after (d : Desk) (hsteps : ∀ s ∈ steps, s.IsNormal) {key : String}
    {x : FileAnalysis} (h : (d.after steps).analyzer.known.find? key = some x) :
    d.analyzer.known.find? key = some x ∨ ∃ before s later, steps = before ++ s :: later ∧
      (d.after before).analyzer.Gains (d.after before).files s.calls key x := by
  induction steps generalizing d with
  | nil => exact .inl h
  | cons s steps ih =>
    obtain ⟨hs, hrest⟩ := List.forall_mem_cons.1 hsteps
    rcases ih (d.step s).2 hrest h with hknown | ⟨before, s', later, rfl, hgains⟩
    · rcases (find?_step d hs key x).1 hknown with hold | hgains
      · exact .inl hold
      · exact .inr ⟨[], s, steps, rfl, hgains⟩
    · exact .inr ⟨s :: before, s', later, rfl, hgains⟩

end Runs

/-- A call about a file has succeeded in the course of some steps. -/
def HasAnswered (d : Desk) (steps : List Step) (path : String) (x : FileAnalysis) : Prop :=
  ∃ before s later p, steps = before ++ s :: later ∧ d.analyzer.SamePath p path ∧
    (d.after before).Answers s p (.ok x)

section Runs
variable {d : Desk} {steps : List Step} {path : String} {x : FileAnalysis}

theorem known_of_hasAnswered (d : Desk) (hsteps : ∀ s ∈ steps, s.IsNormal)
    (h : d.HasAnswered steps path x) : (d.after steps).analyzer.known? path = some x := by
  obtain ⟨before, s, later, p, rfl, hsame, hanswers⟩ := h
  have hbefore : ∀ s ∈ before, s.IsNormal := fun s' hs' => hsteps s' (by simp [hs'])
  have hs : s.IsNormal := hsteps s (by simp)
  have hlater : ∀ s ∈ later, s.IsNormal := fun s' hs' => hsteps s' (by simp [hs'])
  have hknown := known_of_answers hs hanswers
  have hkey : (d.after before).analyzer.key p = d.analyzer.key path := by
    rw [after_settings d hbefore]
    exact Analyzer.key_eq_key.2 hsame
  have hkey' : (d.after (before ++ s :: later)).analyzer.key path = d.analyzer.key path := by
    rw [after_settings d hsteps]
    rfl
  rw [Analyzer.known?, hkey', ← hkey, after_append]
  exact after_kept ((d.after before).step s).2 hlater hknown

/-- What is known is known from the first call that succeeded. -/
theorem hasAnswered_of_known (d : Desk) (hsteps : ∀ s ∈ steps, s.IsNormal)
    (hnothing : d.analyzer.known = ∅) {key : String}
    (h : (d.after steps).analyzer.known.find? key = some x) :
    ∃ before s later p, steps = before ++ s :: later ∧ p ∈ s.calls ∧ key = d.analyzer.key p ∧
      (d.after before).Answers s p (.ok x) ∧ (∀ y, ¬ d.HasAnswered before p y) ∧
      d.analyzer.examine (d.after before).files p = .ok x := by
  rcases gained_of_after d hsteps h with hold | ⟨before, s, later, rfl, hgains⟩
  · rw [hnothing] at hold
    cases hold
  · have hbefore : ∀ s ∈ before, s.IsNormal := fun s' hs' => hsteps s' (by simp [hs'])
    have hs : s.IsNormal := hsteps s (by simp)
    obtain ⟨p, hp, hkey, hnew, hx, hanswers⟩ := answers_of_gains hs hgains
    have hsettings := after_settings d hbefore
    refine ⟨before, s, later, p, rfl, hp, ?_, hanswers, ?_, ?_⟩
    · rw [hkey, hsettings]
      rfl
    · intro y hy
      rw [known_of_hasAnswered d hbefore hy] at hnew
      cases hnew
    · rw [hsettings] at hx
      exact hx

end Runs
end Desk

/-- From any start without knowledge: tasks that take turns lead to one desk; an answer stays; what
is known is the answer that was given first, from the file as it was then; failures change nothing;
recalling changes nothing and finds what has been answered. -/
theorem desk_remembers (files : FileSystem) (base : String) (c : Config) {steps : List Desk.Step}
    (hsteps : ∀ s ∈ steps, s.IsNormal) :
    let start : Desk := ⟨files, .ofConfig base c⟩
    let desk := start.after steps
    (∀ paths schedule, (∀ p ∈ paths, IsNormal p) → (desk.crew paths schedule).isFinished = true →
      (desk.crew paths schedule).analyzer = (desk.step (.analyzeAll paths)).2.analyzer) ∧
    (∀ path x, start.HasAnswered steps path x →
      (desk.step (.recall path)).1 = .recalled (some x) ∧
      ∀ s, s.IsNormal → ∀ result, desk.Answers s path result → result = .ok x) ∧
    (∀ key x, desk.analyzer.known.find? key = some x →
      ∃ before s later path text file, steps = before ++ s :: later ∧
        key = start.analyzer.key path ∧ (start.after before).Answers s path (.ok x) ∧
        (∀ y, ¬ start.HasAnswered before path y) ∧
        (start.after before).files.readText (join base path) = .ok text ∧
        text.utf8ByteSize ≤ c.maxFileBytes.toNat ∧ Analyzer.Names base path file ∧
        x = analyze text file c.options) ∧
    (∀ path e, (desk.step (.analyze path)).1 = .analyzed (.error e) →
      (desk.step (.analyze path)).2 = desk) ∧
    ∀ path, (desk.step (.recall path)).2 = desk ∧
      ((desk.step (.recall path)).1 = .recalled none ↔ ∀ x, ¬ start.HasAnswered steps path x) := by
  intro start desk
  have hsettings : desk.analyzer = start.analyzer.knowing desk.analyzer.known :=
    Desk.after_settings start hsteps
  have hknown {path : String} {x : FileAnalysis} (h : start.HasAnswered steps path x) :
      desk.analyzer.known? path = some x := Desk.known_of_hasAnswered start hsteps h
  have hrecall (path : String) :
      desk.step (.recall path) = (.recalled (desk.analyzer.known? path), desk) := rfl
  refine ⟨?_, ?_, ?_, ?_, ?_⟩
  · intro paths schedule hpaths hfinished
    exact Desk.crew_analyzer hpaths hfinished
  · intro path x h
    refine ⟨by rw [hrecall, hknown h], ?_⟩
    intro s hs result hresult
    exact Desk.eq_of_answers hs (hknown h) hresult
  · intro key x h
    obtain ⟨before, s, later, path, hsplit, hcall, hkey, hanswers, hfirst, hx⟩ :=
      Desk.hasAnswered_of_known start hsteps rfl h
    obtain ⟨text, hread, hsmall, heq⟩ := Analyzer.examine_eq_ok.1 hx
    have hs : s.IsNormal := hsteps s (by simp [hsplit])
    have hnames : Analyzer.Names base path (start.analyzer.called path) :=
      Analyzer.names_called (a := start.analyzer) (hs path hcall)
    exact ⟨before, s, later, path, text, start.analyzer.called path, hsplit, hkey, hanswers,
      hfirst, hread, hsmall, hnames, heq⟩
  · intro path e h
    have hanalyze : desk.step (.analyze path) =
        (.analyzed (desk.analyzer.analyze desk.files path).1,
          { desk with analyzer := (desk.analyzer.analyze desk.files path).2 }) := rfl
    have hfailed : (desk.analyzer.analyze desk.files path).1 = .error e := by
      rw [hanalyze] at h
      exact Desk.Answer.analyzed.inj h
    rw [hanalyze, Analyzer.analyze_of_error hfailed]
  · intro path
    refine ⟨rfl, ?_⟩
    rw [hrecall]
    constructor
    · intro h x hx
      rw [hknown hx] at h
      cases h
    · intro h
      cases hfind : desk.analyzer.known? path with
      | none => rfl
      | some x =>
        obtain ⟨before, s, later, p, hsplit, -, hkey, hanswers, -, -⟩ :=
          Desk.hasAnswered_of_known start hsteps rfl hfind
        have hsame : start.analyzer.SamePath p path := by
          rw [← Analyzer.key_eq_key, ← hkey, hsettings]
          rfl
        exact absurd ⟨before, s, later, p, hsplit, hsame, hanswers⟩ (h x)

/-! ## A file that is removed -/

def oneFileDesk : Desk := ⟨oneFile, .ofConfig "/d" .standard⟩

theorem readText_oneFile : oneFile.readText "/d/a.js" = .ok "f();" := by
  have hpath : "/d/a.js" = FileSystem.absolutePath ["d", "a.js"] := rfl
  have hfind : oneFile.root.find? ["d", "a.js"] = some (.file "f();".toUTF8) := rfl
  rw [FileSystem.readText_eq_ok, hpath]
  exact ⟨["d", "a.js"], FileSystem.visit_of_short (by decide) hfind (by simp) (by decide) rfl
    (by decide) (by decide) (by decide)⟩

theorem answers_oneFileDesk :
    ∃ x, oneFileDesk.Answers (.analyze "a.js") "a.js" (.ok x) := by
  have hjoin : oneFileDesk.analyzer.resolve "a.js" = "/d/a.js" := by decide
  have hx : oneFileDesk.analyzer.examine oneFileDesk.files "a.js" =
      .ok (analyze "f();" (oneFileDesk.analyzer.called "a.js") oneFileDesk.analyzer.options) := by
    rw [Analyzer.examine_eq_ok, hjoin]
    exact ⟨"f();", readText_oneFile, by decide, rfl⟩
  have hone := Desk.Answers.one (d := oneFileDesk) "a.js"
  rw [Desk.analyze_of_new rfl, hx] at hone
  exact ⟨_, hone⟩

/-- A path from the root finds what was made known by a path from the base. -/
theorem desk_remembers_removed :
    (∀ s ∈ [Desk.Step.analyze "a.js", .remove "/d/a.js"], s.IsNormal) ∧
    ∃ x, ((oneFileDesk.after [.analyze "a.js", .remove "/d/a.js"]).step
      (.recall "/d/a.js")).1 = .recalled (some x) := by
  have hsteps : ∀ s ∈ [Desk.Step.analyze "a.js", .remove "/d/a.js"], s.IsNormal := by
    rw [List.forall_mem_cons, List.forall_mem_singleton]
    exact ⟨List.forall_mem_singleton.2 (@IsNormal.relative ["a.js"] (by decide) (by decide)),
      List.forall_mem_nil _⟩
  have hsame : oneFileDesk.analyzer.SamePath "a.js" "/d/a.js" := by
    rw [Analyzer.SamePath]
    decide
  obtain ⟨x, hx⟩ := answers_oneFileDesk
  have hanswered : oneFileDesk.HasAnswered [.analyze "a.js", .remove "/d/a.js"] "/d/a.js" x :=
    ⟨[], _, _, "a.js", rfl, hsame, hx⟩
  exact ⟨hsteps, x, ((desk_remembers oneFile "/d" .standard hsteps).2.1 "/d/a.js" x
    hanswered).1⟩

end CodeSurvey
