import CodeSurvey.Proofs.Survey.Examinations
import CodeSurvey.Proofs.Text.ByteOrder
import CodeSurvey.Survey.Crew

/-!
# What crews find out

Whatever turns the tasks of a crew take, the same is known in the end: what was known before stays,
and each file that can be analyzed is added once and for all. If what was known before still holds,
each task also ends as if it had been alone.
-/

namespace CodeSurvey
open CodeSurvey.Path

/-! ## How far tasks get -/

def Stage.stepsLeft : Stage → Nat
  | .waiting => 3
  | .missed => 2
  | .examined _ => 1
  | .finished _ => 0

namespace Task

theorem isSome_result? (t : Task) : t.result?.isSome ↔ t.stage.stepsLeft = 0 := by
  obtain ⟨path, stage⟩ := t
  cases stage <;> simp [result?, Stage.stepsLeft]

end Task

namespace Crew
variable {fs : FileSystem} {a : Analyzer} {paths : List String} {c : Crew}

theorem isFinished_iff : c.isFinished = true ↔ ∀ t ∈ c.tasks, t.stage.stepsLeft = 0 := by
  rw [isFinished, List.all_eq_true]
  exact forall₂_congr fun t _ => t.isSome_result?

/-- How many steps the task of a number still has to take. -/
def stepsLeft (c : Crew) (i : Nat) : Nat := (c.tasks[i]?.map fun t => t.stage.stepsLeft).getD 0

end Crew

/-! ## What is known -/

def Analyzer.knowing (a : Analyzer) (known : SortedMap FileAnalysis) : Analyzer :=
  { a with known := known }

/-- What a task stands for that has got so far, if so much is known by now. -/
inductive Task.Fits (fs : FileSystem) (a : Analyzer) (known : SortedMap FileAnalysis) : Task → Prop
  | waiting (path : String) : Fits fs a known ⟨path, .waiting⟩
  | missed {path : String} (hnew : a.known? path = none) : Fits fs a known ⟨path, .missed⟩
  | examined {path : String} {x : FileAnalysis} (hnew : a.known? path = none)
    (h : a.examine fs path = .ok x) : Fits fs a known ⟨path, .examined x⟩
  | told {path : String} {x : FileAnalysis} (h : known.find? (a.key path) = some x) :
    Fits fs a known ⟨path, .finished (.ok x)⟩
  | failed {path : String} {e : AnalyzeError} (hnew : a.known? path = none)
    (h : a.examine fs path = .error e) : Fits fs a known ⟨path, .finished (.error e)⟩

theorem Task.Fits.mono {fs : FileSystem} {a : Analyzer} {known more : SortedMap FileAnalysis}
    {t : Task} (h : t.Fits fs a known)
    (hmore : ∀ key x, known.find? key = some x → more.find? key = some x) : t.Fits fs a more := by
  cases h with
  | waiting path => exact .waiting path
  | missed hnew => exact .missed hnew
  | examined hnew h => exact .examined hnew h
  | told h => exact .told (hmore _ _ h)
  | failed hnew h => exact .failed hnew h

/-- A file of which nothing was known and which can be analyzed. -/
def Analyzer.Gains (a : Analyzer) (fs : FileSystem) (paths : List String) (key : String)
    (x : FileAnalysis) : Prop :=
  a.known.find? key = none ∧ ∃ p ∈ paths, key = a.key p ∧ a.examine fs p = .ok x

theorem Analyzer.Gains.eq {a : Analyzer} {fs : FileSystem} {paths : List String}
    (hpaths : ∀ p ∈ paths, IsNormal p) {key : String} {x y : FileAnalysis}
    (hx : a.Gains fs paths key x) (hy : a.Gains fs paths key y) : x = y := by
  obtain ⟨-, p, hp, rfl, hpx⟩ := hx
  obtain ⟨-, q, hq, hkey, hqy⟩ := hy
  exact examine_agree (hpaths p hp) (hpaths q hq) (key_eq_key.1 hkey) hpx hqy

/-- What holds of a crew at all times. -/
structure Crew.Follows (fs : FileSystem) (a : Analyzer) (paths : List String) (c : Crew) :
    Prop where
  settings : c.analyzer = a.knowing c.analyzer.known
  paths_eq : c.tasks.map Task.path = paths
  kept : ∀ key x, a.known.find? key = some x → c.analyzer.known.find? key = some x
  gained : ∀ key x, c.analyzer.known.find? key = some x →
    a.known.find? key = some x ∨ a.Gains fs paths key x
  fits : ∀ t ∈ c.tasks, t.Fits fs a c.analyzer.known

namespace Crew
variable {fs : FileSystem} {a : Analyzer} {paths : List String} {c : Crew}

theorem follows_start (fs : FileSystem) (a : Analyzer) (paths : List String) :
    (start a paths).Follows fs a paths where
  settings := rfl
  paths_eq := by
    rw [start, List.map_map]
    exact List.map_id'' (fun _ => rfl) paths
  kept := fun _ _ h => h
  gained := fun _ _ h => .inl h
  fits := by
    intro t ht
    obtain ⟨p, -, rfl⟩ := List.mem_map.1 ht
    exact .waiting p

namespace Follows

theorem set (h : c.Follows fs a paths) {i : Nat} {t : Task} (ht : c.tasks[i]? = some t)
    {stage : Stage} (hfits : Task.Fits fs a c.analyzer.known ⟨t.path, stage⟩) :
    Follows fs a paths ⟨c.analyzer, c.tasks.set i ⟨t.path, stage⟩⟩ where
  settings := h.settings
  paths_eq := by
    have hsame : (c.tasks.map Task.path).set i t.path = c.tasks.map Task.path := by
      obtain ⟨hi, rfl⟩ := List.getElem?_eq_some_iff.1 ht
      have hi' : i < (c.tasks.map Task.path).length := by rwa [List.length_map]
      have hpath : c.tasks[i].path = (c.tasks.map Task.path)[i] := by rw [List.getElem_map]
      rw [hpath, List.set_getElem_self]
    rw [List.map_set, hsame, h.paths_eq]
  kept := h.kept
  gained := h.gained
  fits := by
    intro u hu
    rcases List.mem_or_eq_of_mem_set hu with hu | rfl
    · exact h.fits u hu
    · exact hfits

theorem insert (hpaths : ∀ p ∈ paths, IsNormal p) (h : c.Follows fs a paths) {path : String}
    (hpath : path ∈ paths) (hnew : a.known? path = none) {x : FileAnalysis}
    (hx : a.examine fs path = .ok x) :
    Follows fs a paths ⟨a.knowing (c.analyzer.known.insert (a.key path) x), c.tasks⟩ := by
  have hgains : a.Gains fs paths (a.key path) x := ⟨hnew, path, hpath, rfl, hx⟩
  have hmore : ∀ key y, c.analyzer.known.find? key = some y →
      (c.analyzer.known.insert (a.key path) x).find? key = some y := by
    intro key y hy
    rw [SortedMap.find?_insert]
    split
    -- Another task may have added the same file, but then it has added the same.
    next hkey =>
      subst hkey
      rcases h.gained _ y hy with hold | hgains'
      · rw [hgains.1] at hold
        cases hold
      · rw [hgains.eq hpaths hgains']
    · exact hy
  exact {
    settings := rfl
    paths_eq := h.paths_eq
    kept := fun key y hy => hmore key y (h.kept key y hy)
    gained := by
      intro key y hy
      have hfind : (c.analyzer.known.insert (a.key path) x).find? key = some y := hy
      rw [SortedMap.find?_insert] at hfind
      split at hfind
      next hkey =>
        subst hkey
        cases hfind
        exact .inr hgains
      · exact h.gained key y hfind
    fits := fun t ht => (h.fits t ht).mono hmore }

theorem advance (hpaths : ∀ p ∈ paths, IsNormal p) (h : c.Follows fs a paths) (i : Nat) :
    (c.advance fs i).Follows fs a paths := by
  rw [Crew.advance]
  cases htask : c.tasks[i]? with
  | none => exact h
  | some t =>
    have hmem : t ∈ c.tasks := List.mem_of_getElem? htask
    have hpath : t.path ∈ paths := h.paths_eq ▸ List.mem_map_of_mem hmem
    have hknown : c.analyzer.known? t.path = c.analyzer.known.find? (a.key t.path) := by
      rw [h.settings]
      rfl
    have hexamine : c.analyzer.examine fs t.path = a.examine fs t.path := by
      rw [h.settings]
      rfl
    cases h.fits t hmem with
    | waiting path =>
      simp only [Task.step]
      rw [hknown]
      cases hfind : c.analyzer.known.find? (a.key path) with
      | some x => exact h.set htask (.told hfind)
      | none =>
        -- Nothing is forgotten, so what is not known now was not known at the start.
        have hnew : a.known? path = none := by
          cases hold : a.known? path with
          | none => rfl
          | some x =>
            rw [h.kept _ x hold] at hfind
            cases hfind
        exact h.set htask (.missed hnew)
    | @missed path hnew =>
      simp only [Task.step]
      rw [hexamine]
      cases hresult : a.examine fs path with
      | ok x => exact h.set htask (.examined hnew hresult)
      | error e => exact h.set htask (.failed hnew hresult)
    | @examined path x hnew hx =>
      have hinsert := insert hpaths h hpath hnew hx
      have htold : (c.analyzer.known.insert (a.key path) x).find? (a.key path) = some x := by
        rw [SortedMap.find?_insert, if_pos rfl]
      have hset := hinsert.set htask (.told htold)
      simp only [Task.step]
      rw [h.settings]
      exact hset
    | told hfind => exact h.set htask (.told hfind)
    | failed hnew he => exact h.set htask (.failed hnew he)

theorem run (hpaths : ∀ p ∈ paths, IsNormal p) (h : c.Follows fs a paths) (schedule : List Nat) :
    (c.run fs schedule).Follows fs a paths := by
  induction schedule generalizing c with
  | nil => exact h
  | cons i schedule ih => exact ih (h.advance hpaths i)

end Follows

/-! ## One task after the other -/

def inTurn : Nat → Nat → List Nat
  | _, 0 => []
  | first, n + 1 => first :: first :: first :: inTurn (first + 1) n

theorem run_append (fs : FileSystem) (c : Crew) (first rest : List Nat) :
    c.run fs (first ++ rest) = (c.run fs first).run fs rest := List.foldl_append

theorem advance_concat (fs : FileSystem) (a : Analyzer) (before after : List Task) (t : Task) :
    advance fs ⟨a, before ++ t :: after⟩ before.length =
      ⟨(t.step fs a).2, before ++ { t with stage := (t.step fs a).1 } :: after⟩ := by
  rw [advance]
  simp

theorem advance_thrice (fs : FileSystem) (a : Analyzer) (before after : List Task)
    (path : String) :
    run fs ⟨a, before ++ ⟨path, .waiting⟩ :: after⟩
        [before.length, before.length, before.length] =
      ⟨(a.analyze fs path).2, before ++ ⟨path, .finished (a.analyze fs path).1⟩ :: after⟩ := by
  simp only [run, List.foldl_cons, List.foldl_nil, advance_concat, Task.step]
  rw [Analyzer.analyze]
  cases hknown : a.known? path with
  | some x => rfl
  | none =>
    cases hresult : a.examine fs path with
    | ok x => simp
    | error e => simp

def finishedTasks (paths : List String) (results : List (Except AnalyzeError FileAnalysis)) :
    List Task := List.zipWith (fun path result => ⟨path, .finished result⟩) paths results

theorem run_inTurn (fs : FileSystem) (a : Analyzer) (before : List Task) (paths : List String) :
    run fs ⟨a, before ++ paths.map fun p => ⟨p, .waiting⟩⟩ (inTurn before.length paths.length) =
      ⟨(a.results fs paths).2, before ++ finishedTasks paths (a.results fs paths).1⟩ := by
  -- The tasks before have finished, those after still wait.
  induction paths generalizing a before with
  | nil => rfl
  | cons path paths ih =>
    have hrest := ih (a.analyze fs path).2
      (before ++ [⟨path, .finished (a.analyze fs path).1⟩])
    rw [List.length_append, List.length_singleton, List.append_assoc, List.append_assoc] at hrest
    have hturns : inTurn before.length (path :: paths).length =
        [before.length, before.length, before.length] ++
          inTurn (before.length + 1) paths.length := rfl
    rw [hturns, run_append, List.map_cons, advance_thrice]
    exact hrest

theorem results_eq_run (fs : FileSystem) (a : Analyzer) (paths : List String) :
    (start a paths).run fs (inTurn 0 paths.length) =
      ⟨(a.results fs paths).2, finishedTasks paths (a.results fs paths).1⟩ :=
  run_inTurn fs a [] paths

theorem length_results (fs : FileSystem) (a : Analyzer) (paths : List String) :
    (a.results fs paths).1.length = paths.length := by
  induction paths generalizing a with
  | nil => rfl
  | cons path paths ih => exact congrArg (· + 1) (ih _)

theorem filterMap_finishedTasks {paths : List String}
    {results : List (Except AnalyzeError FileAnalysis)} (h : results.length = paths.length) :
    (finishedTasks paths results).filterMap Task.result? = results := by
  induction paths generalizing results with
  | nil => rw [List.length_eq_zero_iff.1 h, finishedTasks, List.zipWith_nil_left, List.filterMap_nil]
  | cons path paths ih =>
    cases results with
    | nil => cases h
    | cons result results =>
      have hrest := ih (Nat.succ.inj h)
      exact congrArg (result :: ·) hrest

theorem isFinished_finishedTasks (a : Analyzer) (paths : List String)
    (results : List (Except AnalyzeError FileAnalysis)) :
    isFinished ⟨a, finishedTasks paths results⟩ = true := by
  rw [isFinished, List.all_eq_true]
  intro t ht
  obtain ⟨i, hi, rfl⟩ := List.getElem_of_mem ht
  simp [finishedTasks, Task.result?]

theorem analyzeAll_eq (fs : FileSystem) (a : Analyzer) (paths : List String) :
    a.analyzeAll fs paths =
      (((start a paths).run fs (inTurn 0 paths.length)).analyses,
        ((start a paths).run fs (inTurn 0 paths.length)).analyzer) := by
  rw [results_eq_run, analyses, filterMap_finishedTasks (length_results fs a paths)]
  rfl

theorem isFinished_inTurn (fs : FileSystem) (a : Analyzer) (paths : List String) :
    ((start a paths).run fs (inTurn 0 paths.length)).isFinished = true := by
  rw [results_eq_run]
  exact isFinished_finishedTasks _ _ _

/-! ## What is known in the end -/

section Finished
variable (hpaths : ∀ p ∈ paths, IsNormal p) (h : c.Follows fs a paths)
  (hfinished : c.isFinished = true)
include h hfinished

/-- The task of a path, done: it was told, or it failed where nothing was known. -/
theorem Follows.exists_task {path : String} (hpath : path ∈ paths) :
    (∃ x, c.analyzer.known.find? (a.key path) = some x ∧ ⟨path, .finished (.ok x)⟩ ∈ c.tasks) ∨
      ∃ e, a.known? path = none ∧ a.examine fs path = .error e ∧
        ⟨path, .finished (.error e)⟩ ∈ c.tasks := by
  rw [← h.paths_eq] at hpath
  obtain ⟨t, ht, rfl⟩ := List.mem_map.1 hpath
  have hdone := isFinished_iff.1 hfinished t ht
  cases h.fits t ht with
  | waiting path => cases hdone
  | missed hnew => cases hdone
  | examined hnew hx => cases hdone
  | told hx => exact .inl ⟨_, hx, ht⟩
  | failed hnew he => exact .inr ⟨_, hnew, he, ht⟩

include hpaths

theorem Follows.find?_eq_some {key : String} {x : FileAnalysis} :
    c.analyzer.known.find? key = some x ↔
      a.known.find? key = some x ∨ a.Gains fs paths key x := by
  refine ⟨h.gained key x, ?_⟩
  rintro (hold | hgains)
  · exact h.kept key x hold
  · obtain ⟨hnew, p, hp, rfl, hx⟩ := hgains
    rcases h.exists_task hfinished hp with ⟨y, hy, -⟩ | ⟨e, -, he, -⟩
    · rcases h.gained _ y hy with hold | hgains'
      · rw [hnew] at hold
        cases hold
      · rw [hy, hgains'.eq hpaths ⟨hnew, p, hp, rfl, hx⟩]
    · rw [hx] at he
      cases he

/-- Any crew leaves the analyzer as one does whose tasks take their turns one after the other. -/
theorem Follows.analyzer_eq : c.analyzer = (a.analyzeAll fs paths).2 := by
  have hother := (follows_start fs a paths).run hpaths (inTurn 0 paths.length)
  have hother' := isFinished_inTurn fs a paths
  rw [analyzeAll_eq, h.settings, hother.settings]
  refine congrArg a.knowing (SortedMap.ext_find? fun key => Option.ext fun x => ?_)
  rw [h.find?_eq_some hpaths hfinished, hother.find?_eq_some hpaths hother']

end Finished

theorem analyzeAll_settings (fs : FileSystem) (a : Analyzer) (hpaths : ∀ p ∈ paths, IsNormal p) :
    (a.analyzeAll fs paths).2 = a.knowing (a.analyzeAll fs paths).2.known := by
  rw [analyzeAll_eq]
  exact ((follows_start fs a paths).run hpaths (inTurn 0 paths.length)).settings

theorem find?_analyzeAll (fs : FileSystem) (a : Analyzer) (hpaths : ∀ p ∈ paths, IsNormal p)
    (key : String) (x : FileAnalysis) :
    (a.analyzeAll fs paths).2.known.find? key = some x ↔
      a.known.find? key = some x ∨ a.Gains fs paths key x := by
  rw [analyzeAll_eq]
  exact ((follows_start fs a paths).run hpaths (inTurn 0 paths.length)).find?_eq_some hpaths
    (isFinished_inTurn fs a paths)

end Crew
end CodeSurvey
