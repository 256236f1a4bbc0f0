import CodeSurvey.Proofs.References.ProgramCalls
import CodeSurvey.Proofs.References.TextReferences
import CodeSurvey.Proofs.Score.SummedScores
import CodeSurvey.Proofs.Text.ByteOrder

/-!
# Summaries in reports

What a report says about its files as a whole: it ranks the complex files and the categories of
lost points, names the files that could not be read structurally, and counts the calls. Neither the
order of the files nor that of the categories shows, other than in what is listed file by file.
-/

namespace CodeSurvey
open References Script

/-! ## Rankings -/

section Ranking
variable {α : Type} {points : α → Int32} {name : α → String} {precedes : α → α → Bool}

/-- More points come first, and with equal points the name that comes first in bytes. -/
def Ranked (points : α → Int32) (name : α → String) (a b : α) : Prop :=
  points b < points a ∨ points a = points b ∧ Text.bytes (name a) ≤ Text.bytes (name b)

theorem ranked_trans {a b c : α} (hab : Ranked points name a b) (hbc : Ranked points name b c) :
    Ranked points name a c := by
  simp only [Ranked, Int32.lt_iff_toInt_lt, ← Int32.toInt_inj, Text.bytes_le_iff] at *
  rcases hab with hab | ⟨hab, hnames⟩
  · exact .inl (by omega)
  · rcases hbc with hbc | ⟨hbc, hnames'⟩
    · exact .inl (by omega)
    · exact .inr ⟨by omega, String.le_trans hnames hnames'⟩

theorem ranked_total (a b : α) : Ranked points name a b ∨ Ranked points name b a := by
  simp only [Ranked, Int32.lt_iff_toInt_lt, ← Int32.toInt_inj, Text.bytes_le_iff]
  rcases Int.lt_trichotomy (points a).toInt (points b).toInt with h | h | h
  · exact .inr (.inl h)
  · rcases String.le_total (name a) (name b) with hnames | hnames
    · exact .inl (.inr ⟨h, hnames⟩)
    · exact .inr (.inr ⟨h.symm, hnames⟩)
  · exact .inl (.inl h)

theorem ranked_antisymm {a b : α} (hab : Ranked points name a b) (hba : Ranked points name b a) :
    points a = points b ∧ name a = name b := by
  simp only [Ranked, Int32.lt_iff_toInt_lt, ← Int32.toInt_inj, Text.bytes_le_iff] at *
  rcases hab with hab | ⟨hab, hnames⟩
  · omega
  · rcases hba with hba | ⟨hba, hnames'⟩
    · omega
    · exact ⟨hab, String.le_antisymm hnames hnames'⟩

variable (hprecedes : ∀ a b, precedes a b = true ↔ Ranked points name a b)
include hprecedes

theorem ranked_mergeSort (xs : List α) :
    (xs.mergeSort precedes).Pairwise (Ranked points name) := by
  have hsorted : (xs.mergeSort precedes).Pairwise fun a b => precedes a b = true := by
    apply List.pairwise_mergeSort
    · intro a b c hab hbc
      rw [hprecedes] at hab hbc ⊢
      exact ranked_trans hab hbc
    · intro a b
      rw [Bool.or_eq_true, hprecedes, hprecedes]
      exact ranked_total a b
  exact hsorted.imp fun h => (hprecedes _ _).1 h

/-- Where points and name tell the elements of a list apart, its ranking does not depend on its
order. -/
theorem mergeSort_eq_of_perm {xs ys : List α} (hperm : xs.Perm ys)
    (htell : ∀ x ∈ xs, ∀ y ∈ xs, points x = points y → name x = name y → x = y) :
    xs.mergeSort precedes = ys.mergeSort precedes := by
  have hx := List.mergeSort_perm xs precedes
  have hy := List.mergeSort_perm ys precedes
  have hsorted : (xs.mergeSort precedes).Perm (ys.mergeSort precedes) :=
    hx.trans (hperm.trans hy.symm)
  apply hsorted.eq_of_pairwise _ (ranked_mergeSort hprecedes xs) (ranked_mergeSort hprecedes ys)
  intro a b ha hb hab hba
  obtain ⟨hpoints, hname⟩ := ranked_antisymm hab hba
  exact htell a (hx.mem_iff.1 ha) b (hperm.mem_iff.2 (hy.mem_iff.1 hb)) hpoints hname

end Ranking

/-! ## Complex files -/

namespace Hotspot
variable {files files' : List FileAnalysis}

theorem precedes_iff (a b : Hotspot) : precedes a b = true ↔ Ranked score file a b := by
  simp [precedes, Ranked, Text.bytes_le_iff]

theorem filterMap_ofAnalysis? (files : List FileAnalysis) : files.filterMap ofAnalysis? =
    (files.filter fun a => a.complexity.level ≠ .low).map fun a =>
      ⟨a.file, a.complexity.score, a.complexity.level⟩ := by
  rw [← List.filterMap_eq_map, List.filterMap_filter]
  apply List.filterMap_congr
  intro a _
  by_cases h : a.complexity.level = .low <;> simp [ofAnalysis?, h]

/-- The score of a file tells its level. -/
def ScoresTellLevels (files : List FileAnalysis) : Prop :=
  ∀ a ∈ files, ∀ b ∈ files, a.file = b.file → a.complexity.score = b.complexity.score →
    a.complexity.level = b.complexity.level

theorem ofAnalyses_perm (h : files.Perm files') (htell : ScoresTellLevels files) :
    ofAnalyses files = ofAnalyses files' := by
  apply mergeSort_eq_of_perm precedes_iff (h.filterMap _)
  intro x hx y hy hscore hfile
  rw [filterMap_ofAnalysis?] at hx hy
  obtain ⟨a, ha, rfl⟩ := List.mem_map.1 hx
  obtain ⟨b, hb, rfl⟩ := List.mem_map.1 hy
  have hlevel := htell a (List.mem_of_mem_filter ha) b (List.mem_of_mem_filter hb) hfile hscore
  simp_all

end Hotspot

/-! ## Categories -/

namespace BreakdownEntry

theorem precedes_iff (a b : BreakdownEntry) : precedes a b = true ↔ Ranked points category a b := by
  simp [precedes, Ranked, Text.bytes_le_iff]

theorem sorted_perm {entries entries' : List (String × Int32)} (h : entries.Perm entries') :
    sorted entries = sorted entries' := by
  apply mergeSort_eq_of_perm precedes_iff (h.map _)
  rintro ⟨category, points⟩ _ ⟨category', points'⟩ _ rfl rfl
  rfl

end BreakdownEntry

/-! ## Totals -/

theorem totalOf_eq_sum {α : Type} (count : α → Nat) (xs : List α) :
    totalOf count xs = (xs.map count).sum := by
  have hstart (n : Nat) : xs.foldl (fun n x => n + count x) n = n + (xs.map count).sum := by
    induction xs generalizing n with
    | nil => rfl
    | cons x xs ih => rw [List.foldl_cons, ih, List.map_cons, List.sum_cons, Nat.add_assoc]
  rw [totalOf, hstart, Nat.zero_add]

theorem totalOf_perm {α : Type} {count : α → Nat} {xs ys : List α} (h : xs.Perm ys) :
    totalOf count xs = totalOf count ys := by
  rw [totalOf_eq_sum, totalOf_eq_sum, (h.map count).sum_eq]

theorem Totals.ofAnalyses_perm {files files' : List FileAnalysis} (h : files.Perm files') :
    ofAnalyses files = ofAnalyses files' := by
  rw [ofAnalyses, ofAnalyses, totalOf_perm h, totalOf_perm h, totalOf_perm h, totalOf_perm h,
    totalOf_perm h]

/-! ### Calls -/

/-- The edge that records some calls, one after the other. -/
def CallEdge.ofSites (sites : List CallSite) : CallEdge :=
  sites.foldl (fun e s => e.record s.line s.caller) .empty

theorem CallEdge.ofSites_eq (sites : List CallSite) : ofSites sites = ⟨sites.length, sites⟩ := by
  rw [ofSites, foldl_record]
  simp [empty]

/-- Every edge of the file records calls, and does nothing else. -/
def FileAnalysis.RecordsCalls (a : FileAnalysis) : Prop :=
  ∀ e ∈ a.calls.values, ∃ sites, e = .ofSites sites

def FileAnalysis.sites (a : FileAnalysis) : List CallSite :=
  a.calls.values.flatMap CallEdge.callSites

theorem FileAnalysis.callCount_eq {a : FileAnalysis} (h : a.RecordsCalls) :
    a.callCount = a.sites.length := by
  rw [callCount, totalOf_eq_sum, sites, List.length_flatMap]
  congr 1
  apply List.map_congr_left
  intro e he
  obtain ⟨sites, rfl⟩ := h e he
  rw [CallEdge.ofSites_eq]

theorem callsFrom_ofSites {reading : Reading} {content : String} {known : List String}
    {e : CallEdge} (h : e ∈ (callsFrom reading content known).values) :
    ∃ sites, e = .ofSites sites := by
  obtain ⟨⟨name, edge⟩, hmem, rfl⟩ := List.mem_map.1 h
  rw [SortedMap.mem_entries] at hmem
  cases reading with
  | ok program =>
    rw [callsFrom, find?_callsInProgram, Option.ite_none_right_eq_some] at hmem
    exact ⟨_, (Option.some.inj hmem.2).symm.trans (CallEdge.ofSites_eq _).symm⟩
  | error e =>
    rw [callsFrom, find?_callsInText, Option.ite_none_right_eq_some] at hmem
    exact ⟨_, (Option.some.inj hmem.2).symm.trans (CallEdge.ofSites_eq _).symm⟩

theorem recordsCalls_analyzeWith (parse : String → SyntaxTree) (content filename : String)
    (options : AnalysisOptions) : (analyzeWith parse content filename options).RecordsCalls :=
  fun _ he => callsFrom_ofSites he

/-! ## Reports -/

namespace Report

/-- What the report says as JSON under a key. -/
def shown? (r : Report) (key : String) : Option Json :=
  match r.encode with
  | .object fields => fields.lookup key
  | _ => none

theorem shown_degraded (r : Report) :
    r.shown? "degraded" = some (encodeStrings (r.degraded.map FileAnalysis.file)) := by
  -- the path to the field differs only by whether a configuration is named before it
  cases hconfig : r.config <;>
    simp [shown?, encode, hconfig, Json.optionalField, SortedMap.lookup_entry]

/-- The report ranks the complex files and the categories without losing any, names the degraded
files in order, and counts every call site once. -/
structure Summarizes (r : Report) (files : List FileAnalysis) (health : HealthScore) : Prop where
  hotspots : r.hotspots.Perm ((files.filter fun a => a.complexity.level ≠ .low).map fun a =>
    ⟨a.file, a.complexity.score, a.complexity.level⟩)
  hotspotsRanked : r.hotspots.Pairwise (Ranked Hotspot.score Hotspot.file)
  breakdown : r.breakdown.Perm (health.breakdown.entries.map fun e => ⟨e.1, e.2⟩)
  breakdownRanked : r.breakdown.Pairwise (Ranked BreakdownEntry.points BreakdownEntry.category)
  degraded : r.shown? "degraded" =
    some (encodeStrings ((files.filter fun a => a.parseError.isSome).map FileAnalysis.file))
  calls : (∀ a ∈ files, a.RecordsCalls) →
    r.totals.calls = (files.flatMap FileAnalysis.sites).length

theorem summarizes_build (path : String) (config : Option String) (files : List FileAnalysis)
    (health : HealthScore) : (build path config files health).Summarizes files health where
  hotspots := by
    rw [← Hotspot.filterMap_ofAnalysis?]
    exact List.mergeSort_perm _ _
  hotspotsRanked := ranked_mergeSort Hotspot.precedes_iff _
  breakdown := List.mergeSort_perm _ _
  breakdownRanked := ranked_mergeSort BreakdownEntry.precedes_iff _
  degraded := shown_degraded _
  calls hrecords := by
    have hcounts : files.map FileAnalysis.callCount =
        files.map fun a => a.sites.length := by
      apply List.map_congr_left
      intro a ha
      exact FileAnalysis.callCount_eq (hrecords a ha)
    rw [List.length_flatMap, ← hcounts, ← totalOf_eq_sum]
    rfl

/-- Every report summarizes its files and their score. In whatever order the categories of the score
come, the report is the same; in whatever order the files come, so are their totals, their score and
where it lost points, and the complex files if their scores tell their levels. -/
theorem reports_summarize (path : String) (config : Option String) (files : List FileAnalysis)
    (health : HealthScore) :
    (build path config files health).Summarizes files health ∧
    (∀ parse content filename options,
      (analyzeWith parse content filename options).RecordsCalls) ∧
    (∀ entries, entries.Perm health.breakdown.entries → build path config files health =
      { build path config files health with breakdown := BreakdownEntry.sorted entries }) ∧
    ∀ files', files.Perm files' →
      (build path config files' health).totals = (build path config files health).totals ∧
      (build path config files' health).breakdown = (build path config files health).breakdown ∧
      (∀ threshold, HealthScore.ofAnalyses files' threshold = .ofAnalyses files threshold) ∧
      (Hotspot.ScoresTellLevels files → (build path config files' health).hotspots =
        (build path config files health).hotspots) := by
  refine ⟨summarizes_build path config files health, recordsCalls_analyzeWith, ?_, ?_⟩
  · intro entries hperm
    rw [BreakdownEntry.sorted_perm hperm]
    rfl
  · intro files' hperm
    refine ⟨(Totals.ofAnalyses_perm hperm).symm, rfl, ?_, ?_⟩
    · intro threshold
      simp only [HealthScore.ofAnalyses, Breakdown.ofAnalyses_perm hperm]
    · intro htell
      exact (Hotspot.ofAnalyses_perm hperm htell).symm

/-! ## Two complex files and one that calls itself -/

def twinFiles : List FileAnalysis :=
  [analyze "if (a && b)" "a.py" ⟨⟨1, 2⟩, true⟩, analyze "if (a && b)" "b.py" ⟨⟨1, 2⟩, true⟩,
    { analyze "def f():\n    f()\n" "f.py" .standard with parseError := some (.malformed 1) }]

theorem reports_summarize_twinFiles :
    (∀ a ∈ twinFiles, a.RecordsCalls) ∧ Hotspot.ScoresTellLevels twinFiles ∧
    twinFiles.Perm twinFiles.reverse ∧
    (build "." none twinFiles (.ofAnalyses twinFiles 60)).totals.calls = 1 ∧
    (build "." none twinFiles.reverse (.ofAnalyses twinFiles 60)).hotspots =
      [⟨"a.py", 3, .high⟩, ⟨"b.py", 3, .high⟩] := by
  obtain ⟨hsummary, hrecords, -, hperm⟩ :=
    reports_summarize "." none twinFiles (.ofAnalyses twinFiles 60)
  have hrecorded : ∀ a ∈ twinFiles, a.RecordsCalls := by
    intro a ha
    simp only [twinFiles, List.mem_cons, List.not_mem_nil, or_false] at ha
    rcases ha with rfl | rfl | rfl
    · exact hrecords _ _ _ _
    · exact hrecords _ _ _ _
    · exact hrecords .ofText "def f():\n    f()\n" "f.py" .standard
  have htell : Hotspot.ScoresTellLevels twinFiles := by
    unfold Hotspot.ScoresTellLevels
    decide +kernel
  have hreversed := twinFiles.reverse_perm.symm
  have hhotspots : (build "." none twinFiles (.ofAnalyses twinFiles 60)).hotspots =
      [⟨"a.py", 3, .high⟩, ⟨"b.py", 3, .high⟩] := by
    have hranked : (twinFiles.filterMap Hotspot.ofAnalysis?).Pairwise
        fun a b => Hotspot.precedes a b = true := by decide +kernel
    have hcomplex : twinFiles.filterMap Hotspot.ofAnalysis? =
        [⟨"a.py", 3, .high⟩, ⟨"b.py", 3, .high⟩] := by decide +kernel
    exact (List.mergeSort_of_pairwise hranked).trans hcomplex
  refine ⟨hrecorded, htell, hreversed, ?_, ?_⟩
  · rw [hsummary.calls hrecorded]
    decide +kernel
  · rw [(hperm _ hreversed).2.2.2 htell, hhotspots]

end Report
end CodeSurvey
