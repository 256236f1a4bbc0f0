import CodeSurvey.Program
import CodeSurvey.Proofs.Survey.Collecting
import CodeSurvey.Proofs.Survey.SteadyFiles

/-!
# Outcomes of surveys

A survey of a directory ends in one of three ways: it is refused, it finds nothing to do, or it
reports on each file that it takes and can read, and its exit code is that of the score.
-/

namespace CodeSurvey
open CodeSurvey.Path FileSystem

/-! ## Thresholds -/

/-- The least score that passes: the one asked for, else the one configured, else 60. -/
def leastScore (asked : Option Int32) (c : Config) : Int :=
  (asked.map Int32.toInt <|> c.threshold.map fun t => (t.toNat : Int)).getD 60

theorem threshold_le_of_valid {c : Config} {t : UInt32} (h : c.fault? = none)
    (ht : c.threshold = some t) : t.toNat ≤ 100 := by
  have hnone : c.faults = [] := List.head?_eq_none_iff.1 h
  by_contra hlarge
  have hfault : t > 100 := UInt32.lt_iff_toNat_lt.2 (Nat.lt_of_not_le hlarge)
  rw [Config.faults, ht] at hnone
  simp [hfault] at hnone

theorem effectiveThreshold_toInt {c : Config} (h : c.fault? = none) (asked : Option Int32) :
    (effectiveThreshold asked c).toInt = leastScore asked c := by
  rw [effectiveThreshold, leastScore]
  cases asked with
  | some t => rfl
  | none =>
    cases ht : c.threshold with
    | none => rfl
    | some t =>
      have hsmall := threshold_le_of_valid h ht
      exact Int32.toInt_ofNat_of_lt (Nat.lt_of_le_of_lt hsmall (by decide))

theorem fault?_of_load {fs : FileSystem} {path : Option String} {directory : String} {c : Config}
    {configPath : Option String} (h : Config.load fs path directory = .ok (c, configPath)) :
    c.fault? = none := by
  have hvalid {c c' : Config} (h : c.validated = .ok c') : c'.fault? = none := by
    rw [Config.validated] at h
    split at h
    · cases h
    next hnone =>
      cases h
      exact hnone
  rw [Config.load] at h
  split at h
  · obtain ⟨c', -, h⟩ := exists_of_bind h
    obtain ⟨c'', hc, h⟩ := exists_of_bind h
    cases h
    exact hvalid hc
  · obtain ⟨c', hc, h⟩ := exists_of_bind h
    cases h
    exact hvalid hc

/-! ## Reports -/

theorem report_text_ne_empty (r : Report) (terminal : Terminal) (format : ReportFormat) :
    r.text terminal format ≠ "" := by
  cases format with
  | json => simp [Report.text, Report.jsonText]
  | pretty =>
    obtain ⟨rest, hlines⟩ : ∃ rest, r.prettyLines terminal = "" :: rest := ⟨_, rfl⟩
    simp [Report.text, Report.prettyText, hlines]

/-! ## Files that are taken -/

/-- What is found out about a file that is taken; nothing if it is no text. -/
def FoundFile.analysis? (c : Config) (f : FoundFile) : Option FileAnalysis :=
  (String.fromUTF8? f.bytes).map fun text => analyze text f.relative c.options

section Taken
variable {fs : FileSystem} {place : Place} {inner : List (String × FileNode)} {c : Config}
  {f : FoundFile} (hnamed : fs.root.WellNamed)
  (hfind : fs.root.find? place = some (.directory inner))
  (hpresent : ∀ names node, (FileNode.directory inner).find? names = some node →
    fs.isPresent (absolutePath (place ++ names)) = true)
include hnamed hfind

theorem path_of_selects (h : c.Selects (.directory inner) f) :
    join (absolutePath place) f.relative = absolutePath (place ++ f.names) ∧
      ∀ n ∈ f.names, IsName n := by
  have hnames : ∀ n ∈ f.names, IsName n := (hnamed.find? hfind).names h.present
  obtain ⟨n, ns, -, hsplit, -⟩ := Walk.find?_entry.1 h.present
  exact ⟨join_absolute (hnamed.names hfind) hnames (by simp [hsplit]), hnames⟩

theorem isNormal_of_selects (h : c.Selects (.directory inner) f) :
    IsNormal (join (absolutePath place) f.relative) := by
  obtain ⟨hpath, hnames⟩ := path_of_selects hnamed hfind h
  rw [hpath]
  refine .absolute fun n hn => ?_
  rcases List.mem_append.1 hn with hn | hn
  · exact hnamed.names hfind n hn
  · exact hnames n hn

include hpresent

theorem visit_of_selects (h : c.Selects (.directory inner) f) :
    fs.visit (join (absolutePath place) f.relative) = .ok (place ++ f.names, .file f.bytes) := by
  have hthere : fs.root.find? (place ++ f.names) = some (.file f.bytes) := by
    rw [FileNode.find?_append, hfind]
    exact h.present
  obtain ⟨hpath, hnames⟩ := path_of_selects hnamed hfind h
  rw [hpath]
  exact visit_absolutePath (hnamed.names hthere) hthere (fun _ => by simp)
    (hpresent f.names _ h.present)

/-- The size that was measured lets no file that is taken be refused later. -/
theorem examine_of_selects (h : c.Selects (.directory inner) f) :
    ((Analyzer.ofConfig (absolutePath place) c).examine fs
      (join (absolutePath place) f.relative)).toOption = f.analysis? c := by
  have hvisit := visit_of_selects hnamed hfind hpresent h
  obtain ⟨hpath, hnames⟩ := path_of_selects hnamed hfind h
  have hresolve : (Analyzer.ofConfig (absolutePath place) c).resolve
      (join (absolutePath place) f.relative) = join (absolutePath place) f.relative := by
    rw [hpath]
    exact join_of_absolute (isAbsolute_absolute _)
  have hcalled : (Analyzer.ofConfig (absolutePath place) c).called
      (join (absolutePath place) f.relative) = f.relative := by
    rw [Analyzer.called, hresolve]
    exact within_join hnames
  have hread : ∀ text, fs.readText (join (absolutePath place) f.relative) = .ok text ↔
      String.fromUTF8? f.bytes = some text := by
    intro text
    rw [readText_eq_ok, hvisit, fromUTF8?_eq_some]
    simp
  ext x
  rw [toOption_eq_some, Analyzer.examine_eq_ok, hresolve, hcalled, FoundFile.analysis?,
    Option.map_eq_some_iff]
  refine exists_congr fun text => ?_
  rw [hread]
  constructor
  · rintro ⟨htext, -, rfl⟩
    exact ⟨htext, rfl⟩
  · rintro ⟨htext, rfl⟩
    have hsize : text.utf8ByteSize = f.bytes.size := by
      rw [fromUTF8?_eq_some.1 htext]
      rfl
    exact ⟨htext, hsize ▸ h.small, rfl⟩

theorem analyzeAll_selected {found : List FoundFile}
    (hfound : ∀ f ∈ found, c.Selects (.directory inner) f) :
    ((Analyzer.ofConfig (absolutePath place) c).analyzeAll fs
        (found.map fun f => join (absolutePath place) f.relative)).1 =
      Analyzer.sortAnalyses (found.filterMap (FoundFile.analysis? c)) := by
  have hbase : IsNormal (absolutePath place) := .absolute (hnamed.names hfind)
  have hpaths : ∀ p ∈ found.map fun f => join (absolutePath place) f.relative, IsNormal p := by
    intro p hp
    obtain ⟨f, hf, rfl⟩ := List.mem_map.1 hp
    exact isNormal_of_selects hnamed hfind (hfound f hf)
  have hfollowable : ∀ p ∈ found.map fun f => join (absolutePath place) f.relative,
      (Analyzer.ofConfig (absolutePath place) c).Followable p := fun _ _ => .inl hbase
  have hexamine : ∀ f ∈ found, ((Analyzer.ofConfig (absolutePath place) c).examine fs
      (join (absolutePath place) f.relative)).toOption = f.analysis? c := by
    intro f hf
    exact examine_of_selects hnamed hfind hpresent (hfound f hf)
  rw [Crew.analyzeAll_analyses hpaths (Analyzer.upToDate_ofConfig _ c fs) hfollowable,
    List.filterMap_map, Function.comp_def, List.filterMap_congr hexamine]

end Taken

/-! ## The order of reports -/

def FilesIncrease (analyses : List FileAnalysis) : Prop :=
  analyses.Pairwise fun x y => Text.bytes x.file < Text.bytes y.file

theorem filesIncrease_sortAnalyses {analyses : List FileAnalysis}
    (h : analyses.Pairwise fun x y => x.file ≠ y.file) :
    FilesIncrease (Analyzer.sortAnalyses analyses) := by
  have hdistinct : (Analyzer.sortAnalyses analyses).Pairwise fun x y => x.file ≠ y.file :=
    ((Analyzer.sortAnalyses_perm analyses).pairwise_iff fun h => h.symm).2 h
  have hboth := (Analyzer.filesAscend_sortAnalyses analyses).and hdistinct
  refine hboth.imp fun {x y} hxy => ?_
  rw [Text.bytes_lt_iff]
  by_contra hlt
  exact hxy.2 (String.le_antisymm (Text.bytes_le_iff.1 hxy.1) (String.not_lt.1 hlt))

theorem distinct_analyses {root : String} {found : List FoundFile}
    (h : found.Pairwise fun f g => parts (join root f.relative) < parts (join root g.relative))
    (c : Config) :
    (found.filterMap (FoundFile.analysis? c)).Pairwise fun x y => x.file ≠ y.file := by
  rw [List.pairwise_filterMap]
  refine h.imp fun {f g} hlt x hx y hy heq => ?_
  have hfile {f : FoundFile} {x : FileAnalysis} (h : f.analysis? c = some x) :
      x.file = f.relative := by
    obtain ⟨text, -, rfl⟩ := Option.map_eq_some_iff.1 h
    rfl
  rw [hfile hx, hfile hy] at heq
  rw [heq] at hlt
  exact List.lt_irrefl _ hlt

/-! ## Stages -/

section Stages
variable {fs : FileSystem} {request : SurveyRequest} {place : Place}
  {inner : List (String × FileNode)}

theorem survey_of_refused_config {e : Config.LoadError}
    (hvisit : fs.visit request.path = .ok (place, .directory inner))
    (hload : Config.load fs request.config (absolutePath fs.workingDirectory) = .error e) :
    survey fs request = .ok (.refused (.config e)) := by
  have hcanonical : fs.canonicalPath request.path = .ok (absolutePath place) := by
    rw [canonicalPath, hvisit]
    rfl
  rw [survey, hcanonical, hload]

theorem survey_of_loaded {c : Config} {configPath : Option String} {files : List String}
    (hvisit : fs.visit request.path = .ok (place, .directory inner))
    (hdirectory : fs.isDirectory (absolutePath place) = true)
    (hload : Config.load fs request.config (absolutePath fs.workingDirectory) =
      .ok (c, configPath))
    (hcollect : collect fs (absolutePath place) c = .ok files) :
    survey fs request =
      let threshold := effectiveThreshold request.threshold c
      if threshold < 0 ∨ 100 < threshold then .ok (.refused (.threshold threshold))
      else if files = [] then .ok .empty
      else .ok (.surveyed
        (reportOn fs request (absolutePath place) files c configPath threshold)) := by
  have hcanonical : fs.canonicalPath request.path = .ok (absolutePath place) := by
    rw [canonicalPath, hvisit]
    rfl
  have hfiles : surveyedFiles fs (absolutePath place) c = .ok (absolutePath place, files) := by
    rw [surveyedFiles, if_pos hdirectory, hcollect]
    rfl
  rw [survey, hcanonical, hload]
  simp only [hfiles]
  cases files <;> rfl

theorem run_of_survey {result : SurveyResult} (h : survey fs request = .ok result)
    (terminal : Terminal) (format : ReportFormat) :
    Command.run fs terminal (.analyze request format) =
      .ok ⟨result.exitCode, result.output terminal format, result.errors, fs⟩ := by
  rw [Command.run, h]
  rfl

end Stages

theorem exitCode_surveyed (path : String) (configPath : Option String)
    (files : List FileAnalysis) (threshold : Int32) :
    (SurveyResult.surveyed (.build path configPath files (.ofAnalyses files threshold))).exitCode =
      if threshold.toInt ≤ (HealthScore.ofAnalyses files threshold).score.toInt then 0 else 1 := by
  have hpassed : (HealthScore.ofAnalyses files threshold).passed =
      decide (threshold ≤ (HealthScore.ofAnalyses files threshold).score) := by
    simp only [HealthScore.ofAnalyses, ge_iff_le]
  simp only [SurveyResult.exitCode, Report.build, hpassed, decide_eq_true_iff,
    Int32.le_iff_toInt_le]

def InRange (asked : Option Int32) (c : Config) : Prop :=
  0 ≤ leastScore asked c ∧ leastScore asked c ≤ 100

theorem inRange_iff {c : Config} (h : c.fault? = none) (asked : Option Int32) :
    ¬ InRange asked c ↔ effectiveThreshold asked c < 0 ∨ 100 < effectiveThreshold asked c := by
  have hzero : (0 : Int32).toInt = 0 := rfl
  have hhundred : (100 : Int32).toInt = 100 := rfl
  rw [InRange, Int32.lt_iff_toInt_lt, Int32.lt_iff_toInt_lt, effectiveThreshold_toInt h, hzero,
    hhundred]
  omega

section Endings
variable {fs : FileSystem} {request : SurveyRequest} {place : Place}
  {inner : List (String × FileNode)}
  (hvisit : fs.visit request.path = .ok (place, .directory inner))
include hvisit

theorem run_of_config_error {e : Config.LoadError}
    (hload : Config.load fs request.config (absolutePath fs.workingDirectory) = .error e)
    (terminal : Terminal) (format : ReportFormat) :
    ∃ errors, Command.run fs terminal (.analyze request format) = .ok ⟨2, "", errors, fs⟩ :=
  ⟨_, run_of_survey (survey_of_refused_config hvisit hload) terminal format⟩

variable {c : Config} {configPath : Option String}
  (hload : Config.load fs request.config (absolutePath fs.workingDirectory) = .ok (c, configPath))
  (hdirectory : fs.isDirectory (absolutePath place) = true)
include hload hdirectory

theorem run_of_out_of_range {files : List String}
    (hcollect : collect fs (absolutePath place) c = .ok files)
    (hrange : ¬ InRange request.threshold c) (terminal : Terminal) (format : ReportFormat) :
    ∃ errors, Command.run fs terminal (.analyze request format) = .ok ⟨2, "", errors, fs⟩ := by
  have hsurvey := survey_of_loaded hvisit hdirectory hload hcollect
  rw [if_pos ((inRange_iff (fault?_of_load hload) _).1 hrange)] at hsurvey
  exact ⟨_, run_of_survey hsurvey terminal format⟩

theorem run_of_nothing (hcollect : collect fs (absolutePath place) c = .ok [])
    (hrange : InRange request.threshold c) (terminal : Terminal) (format : ReportFormat) :
    ∃ errors, Command.run fs terminal (.analyze request format) = .ok ⟨0, "", errors, fs⟩ := by
  have hsurvey := survey_of_loaded hvisit hdirectory hload hcollect
  rw [if_neg fun h => (inRange_iff (fault?_of_load hload) _).2 h hrange, if_pos rfl] at hsurvey
  exact ⟨_, run_of_survey hsurvey terminal format⟩

theorem run_of_files {files : List String} {analyses : List FileAnalysis}
    (hcollect : collect fs (absolutePath place) c = .ok files) (hne : files ≠ [])
    (hrange : InRange request.threshold c)
    (hanalyses : ((Analyzer.ofConfig (absolutePath place) c).analyzeAll fs files).1 = analyses)
    (terminal : Terminal) (format : ReportFormat) :
    ∃ code text errors, Command.run fs terminal (.analyze request format) =
        .ok ⟨code, text, errors, fs⟩ ∧
      (code = if leastScore request.threshold c ≤ (HealthScore.ofAnalyses analyses
        (effectiveThreshold request.threshold c)).score.toInt then 0 else 1) ∧
      text = (Report.build request.path configPath analyses
        (.ofAnalyses analyses (effectiveThreshold request.threshold c))).text terminal format := by
  have hsurvey := survey_of_loaded hvisit hdirectory hload hcollect
  rw [if_neg fun h => (inRange_iff (fault?_of_load hload) _).2 h hrange, if_neg hne, reportOn,
    hanalyses] at hsurvey
  have hexit := exitCode_surveyed request.path configPath analyses
    (effectiveThreshold request.threshold c)
  rw [effectiveThreshold_toInt (fault?_of_load hload)] at hexit
  exact ⟨_, _, _, run_of_survey hsurvey terminal format, hexit, rfl⟩

end Endings

/-- How a survey of a directory ends. -/
theorem survey_outcome {fs : FileSystem} {request : SurveyRequest} {place : Place}
    {inner : List (String × FileNode)}
    (hvisit : fs.visit request.path = .ok (place, .directory inner))
    (hnamed : fs.root.WellNamed) (hlinks : (FileNode.directory inner).Unlinked)
    (hpresent : ∀ names node, (FileNode.directory inner).find? names = some node →
      fs.isPresent (absolutePath (place ++ names)) = true)
    (terminal : Terminal) (format : ReportFormat) :
    let load := Config.load fs request.config (absolutePath fs.workingDirectory)
    ∃ outcome, Command.run fs terminal (.analyze request format) = .ok outcome ∧
      (outcome.exitCode = 2 ∧ outcome.output = "" ↔ (∃ e, load = .error e) ∨
        ∃ c configPath, load = .ok (c, configPath) ∧ ¬ InRange request.threshold c) ∧
      ∀ c configPath, load = .ok (c, configPath) → InRange request.threshold c →
        ∃ found : List FoundFile, collect fs (absolutePath place) c =
            .ok (found.map fun f => join (absolutePath place) f.relative) ∧
          (∀ f, f ∈ found ↔ c.Selects (.directory inner) f) ∧
          (outcome.exitCode = 0 ∧ outcome.output = "" ↔ found = []) ∧
          (found ≠ [] → ∃ files threshold,
            outcome.output = (Report.build request.path configPath files
              (.ofAnalyses files threshold)).text terminal format ∧
            files.Perm (found.filterMap (FoundFile.analysis? c)) ∧ FilesIncrease files ∧
            threshold.toInt = leastScore request.threshold c ∧
            outcome.exitCode = if leastScore request.threshold c ≤
              (HealthScore.ofAnalyses files threshold).score.toInt then 0 else 1) := by
  intro load
  have hfind := find?_of_visit hvisit
  have hroot := hpresent [] (.directory inner) rfl
  rw [List.append_nil] at hroot
  have hbase := visit_absolutePath (hnamed.names hfind) hfind (fun _ => by simp) hroot
  have hdirectory : fs.isDirectory (absolutePath place) = true := by
    rw [isDirectory, hbase]
  cases hload : load with
  | error e =>
    obtain ⟨errors, hrun⟩ := run_of_config_error hvisit hload terminal format
    refine ⟨_, hrun, ⟨fun _ => .inl ⟨e, rfl⟩, fun _ => ⟨rfl, rfl⟩⟩, ?_⟩
    intro c configPath h
    cases h
  | ok loaded =>
    obtain ⟨c, configPath⟩ := loaded
    obtain ⟨found, hcollect, hmem, hincrease⟩ :=
      collect_selects hbase (hnamed.find? hfind) hlinks c
    by_cases hrange : InRange request.threshold c
    -- From here on nothing is refused, which leaves the two other endings.
    · have haccepted : ¬ ((∃ e, (.ok (c, configPath) : Except Config.LoadError _) = .error e) ∨
          ∃ c' configPath', (.ok (c, configPath) : Except Config.LoadError _) =
            .ok (c', configPath') ∧ ¬ InRange request.threshold c') := by
        rintro (⟨e, h⟩ | ⟨c', configPath', h, hout⟩)
        · cases h
        · cases h
          exact hout hrange
      by_cases hnone : found = []
      · subst hnone
        obtain ⟨errors, hrun⟩ :=
          run_of_nothing hvisit hload hdirectory hcollect hrange terminal format
        have hcode : (0 : UInt32) ≠ 2 := by decide
        refine ⟨_, hrun, ⟨fun h => absurd h.1 hcode, fun h => absurd h haccepted⟩, ?_⟩
        rintro c' configPath' h -
        cases h
        exact ⟨[], hcollect, hmem, ⟨fun _ => rfl, fun _ => ⟨rfl, rfl⟩⟩, fun h => absurd rfl h⟩
      · have hne : found.map (fun f => join (absolutePath place) f.relative) ≠ [] := by
          simpa using hnone
        have hanalyses := analyzeAll_selected hnamed hfind hpresent fun f hf => (hmem f).1 hf
        obtain ⟨code, text, errors, hrun, hcode, htext⟩ :=
          run_of_files hvisit hload hdirectory hcollect hne hrange hanalyses terminal format
        have hprinted : text ≠ "" := by
          rw [htext]
          exact report_text_ne_empty _ terminal format
        refine ⟨_, hrun, ⟨fun h => absurd h.2 hprinted, fun h => absurd h haccepted⟩, ?_⟩
        rintro c' configPath' h -
        cases h
        refine ⟨found, hcollect, hmem,
          ⟨fun h => absurd h.2 hprinted, fun h => absurd h hnone⟩, fun _ => ?_⟩
        exact ⟨_, effectiveThreshold request.threshold c, htext, Analyzer.sortAnalyses_perm _,
          filesIncrease_sortAnalyses (distinct_analyses hincrease c),
          effectiveThreshold_toInt (fault?_of_load hload) _, hcode⟩
    · obtain ⟨errors, hrun⟩ :=
        run_of_out_of_range hvisit hload hdirectory hcollect hrange terminal format
      refine ⟨_, hrun, ⟨fun _ => .inr ⟨c, configPath, rfl, hrange⟩, fun _ => ⟨rfl, rfl⟩⟩, ?_⟩
      intro c' configPath' h hrange'
      cases h
      exact absurd hrange' hrange

/-! ## A survey that asks for too much -/

theorem places_sampleEntries {names : Place} {node : FileNode}
    (h : (FileNode.directory sampleEntries).find? names = some node) :
    names ∈ [[], [".a.js"], [".git"], [".git", "b.js"]] := by
  have hfile {bytes : ByteArray} {names : Place} {node : FileNode}
      (h : (FileNode.file bytes).find? names = some node) : names = [] :=
    (Walk.find?_file.1 h).1
  cases names with
  | nil => exact List.mem_cons_self
  | cons n ns =>
    obtain ⟨es, next, hes, hlookup, hrest⟩ := FileNode.exists_directory h
    cases hes
    have hmem := SortedMap.mem_of_lookup hlookup
    simp only [sampleEntries, List.mem_cons, Prod.mk.injEq, List.not_mem_nil, or_false] at hmem
    rcases hmem with ⟨rfl, rfl⟩ | ⟨rfl, rfl⟩
    · simp [hfile hrest]
    · cases ns with
      | nil => simp
      | cons m ms =>
        obtain ⟨es, last, hes, hlookup, hrest⟩ := FileNode.exists_directory hrest
        cases hes
        have hmem := SortedMap.mem_of_lookup hlookup
        rw [List.mem_singleton, Prod.mk.injEq] at hmem
        obtain ⟨rfl, rfl⟩ := hmem
        simp [hfile hrest]

theorem isPresent_sampleFiles (names : Place) (node : FileNode)
    (h : (FileNode.directory sampleEntries).find? names = some node) :
    sampleFiles.isPresent (absolutePath (["vendor"] ++ names)) = true := by
  have hthere : sampleFiles.root.find? (["vendor"] ++ names) = some node := by
    rw [FileNode.find?_append, find?_sampleFiles]
    exact h
  have hlink : ∀ target, node ≠ .link target := by
    rintro target rfl
    exact unlinked_sampleEntries names target h
  have hshort : ∀ place ∈ [[], [".a.js"], [".git"], [".git", "b.js"]],
      '\x00' ∉ (absolutePath (["vendor"] ++ place)).toList ∧
        (absolutePath (["vendor"] ++ place)).utf8ByteSize ≤ maxPathBytes ∧
        ∀ n ∈ ["vendor"] ++ place, n.utf8ByteSize ≤ maxNameBytes := by decide
  obtain ⟨hnul, hpath, hnames⟩ := hshort names (places_sampleEntries h)
  have hvisit := visit_of_short (wellNamed_sampleFiles.names hthere) hthere hlink (by simp) rfl
    hnul hpath hnames
  rw [isPresent, hvisit]

theorem survey_outcome_sample :
    sampleFiles.visit "/vendor" = .ok (["vendor"], .directory sampleEntries) ∧
    sampleFiles.root.WellNamed ∧ (FileNode.directory sampleEntries).Unlinked ∧
    (∀ names node, (FileNode.directory sampleEntries).find? names = some node →
      sampleFiles.isPresent (absolutePath (["vendor"] ++ names)) = true) ∧
    ∃ outcome, Command.run sampleFiles ⟨false⟩ (.analyze ⟨"/vendor", none, some 200⟩ .json) =
        .ok outcome ∧ outcome.exitCode = 2 ∧ outcome.output = "" := by
  refine ⟨visit_sampleFiles, wellNamed_sampleFiles, unlinked_sampleEntries,
    isPresent_sampleFiles, ?_⟩
  obtain ⟨outcome, hrun, hrefused, -⟩ :=
    @survey_outcome sampleFiles ⟨"/vendor", none, some 200⟩ _ _ visit_sampleFiles
      wellNamed_sampleFiles unlinked_sampleEntries isPresent_sampleFiles ⟨false⟩ .json
  have hlarge (c : Config) : ¬ InRange (some 200) c := by
    have hasked : leastScore (some 200) c = 200 := rfl
    intro h
    have hle := h.2
    omega
  refine ⟨outcome, hrun, hrefused.2 ?_⟩
  cases hload : Config.load sampleFiles none (absolutePath sampleFiles.workingDirectory) with
  | error e => exact .inl ⟨e, rfl⟩
  | ok loaded =>
    obtain ⟨c, configPath⟩ := loaded
    exact .inr ⟨c, configPath, rfl, hlarge c⟩

end CodeSurvey
