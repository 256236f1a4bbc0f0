import CodeSurvey.Proofs.Survey.Crews
import Mathlib.Data.List.Basic

/-!
# Files that stay as they are

As long as nothing happens to the files, a crew finds out about each of them what is found out about
it alone, whatever turns the tasks take and in whatever order the files are asked for.
-/

namespace CodeSurvey
open CodeSurvey.Path

namespace Analyzer
variable {fs : FileSystem} {a : Analyzer} {p q : String} {paths : List String}

/-! ## The order of analyses -/

def FilesAscend (analyses : List FileAnalysis) : Prop :=
  analyses.Pairwise fun x y => Text.bytes x.file ≤ Text.bytes y.file

theorem sortAnalyses_perm (analyses : List FileAnalysis) :
    (sortAnalyses analyses).Perm analyses := List.mergeSort_perm _ _

theorem filesAscend_sortAnalyses (analyses : List FileAnalysis) :
    FilesAscend (sortAnalyses analyses) := by
  have htrans : ∀ x y z : FileAnalysis, decide (x.file ≤ y.file) = true →
      decide (y.file ≤ z.file) = true → decide (x.file ≤ z.file) = true := by
    intro x y z hxy hyz
    exact decide_eq_true (String.le_trans (of_decide_eq_true hxy) (of_decide_eq_true hyz))
  have htotal : ∀ x y : FileAnalysis,
      (decide (x.file ≤ y.file) || decide (y.file ≤ x.file)) = true := by
    intro x y
    simpa using String.le_total x.file y.file
  have hsorted := List.pairwise_mergeSort htrans htotal analyses
  refine hsorted.imp fun hxy => ?_
  rw [Text.bytes_le_iff]
  exact of_decide_eq_true hxy

/-- What is known is what the files still say. -/
def UpToDate (a : Analyzer) (fs : FileSystem) : Prop :=
  ∀ key x, a.known.find? key = some x → ∃ p, IsNormal p ∧ key = a.key p ∧ a.examine fs p = .ok x

theorem upToDate_ofConfig (base : String) (c : Config) (fs : FileSystem) :
    (ofConfig base c).UpToDate fs := by
  intro key x h
  cases h

theorem UpToDate.analyzeAll (h : a.UpToDate fs) (hpaths : ∀ p ∈ paths, IsNormal p) :
    (a.analyzeAll fs paths).2.UpToDate fs := by
  rw [Crew.analyzeAll_settings fs a hpaths]
  intro key x hx
  rcases (Crew.find?_analyzeAll fs a hpaths key x).1 hx with hold | ⟨-, p, hp, hkey, hexamine⟩
  · exact h key x hold
  · exact ⟨p, hpaths p hp, hkey, hexamine⟩

/-- Two paths of one file lead to it if both can be followed at all: the base is spelled normally or
does not start at the root, or the path is not too long. -/
def Followable (a : Analyzer) (path : String) : Prop :=
  IsNormal a.base ∨ isAbsolute a.base = false ∨
    (a.resolve path).utf8ByteSize ≤ FileSystem.maxPathBytes

theorem examine_of_samePath (hp : IsNormal p) (hq : IsNormal q) (h : a.SamePath p q)
    (hfollowable : a.Followable p) {x : FileAnalysis} (hx : a.examine fs q = .ok x) :
    a.examine fs p = .ok x := by
  obtain ⟨_, hread, -⟩ := examine_eq_ok.1 hx
  have hlocate : fs.locate (a.resolve p) = fs.locate (a.resolve q) := by
    refine fs.locate_join_congr hp hq h ?_
    rcases hfollowable with hnormal | hrelative | hshort
    · exact .inl hnormal
    · exact .inr (.inl hrelative)
    · exact .inr (.inr ⟨hshort, short_of_readText hread⟩)
  rw [examine_congr hp hq h hlocate, hx]

end Analyzer

namespace Crew
variable {fs : FileSystem} {a : Analyzer} {paths : List String} {c : Crew}

theorem Follows.result? (h : c.Follows fs a paths) (hfinished : c.isFinished = true)
    (hpaths : ∀ p ∈ paths, IsNormal p) (hknown : a.UpToDate fs)
    (hfollowable : ∀ p ∈ paths, a.Followable p) {t : Task} (ht : t ∈ c.tasks) :
    t.result? = some (a.examine fs t.path) := by
  have hpath : t.path ∈ paths := h.paths_eq ▸ List.mem_map_of_mem ht
  have hdone := isFinished_iff.1 hfinished t ht
  cases h.fits t ht with
  | waiting path => cases hdone
  | missed hnew => cases hdone
  | examined hnew hx => cases hdone
  | @failed path e hnew he => exact congrArg some he.symm
  | @told path x hx =>
    -- It may have been told by a task for another path of the same file.
    have hsource : ∃ q, IsNormal q ∧ a.key path = a.key q ∧ a.examine fs q = .ok x := by
      rcases h.gained _ x hx with hold | ⟨-, q, hq, hkey, hexamine⟩
      · exact hknown _ x hold
      · exact ⟨q, hpaths q hq, hkey, hexamine⟩
    obtain ⟨q, hq, hkey, hexamine⟩ := hsource
    have hthis := Analyzer.examine_of_samePath (hpaths path hpath) hq
      (Analyzer.key_eq_key.1 hkey) (hfollowable path hpath) hexamine
    exact congrArg some hthis.symm

theorem Follows.analyses_eq (h : c.Follows fs a paths) (hfinished : c.isFinished = true)
    (hpaths : ∀ p ∈ paths, IsNormal p) (hknown : a.UpToDate fs)
    (hfollowable : ∀ p ∈ paths, a.Followable p) :
    c.analyses = Analyzer.sortAnalyses (paths.filterMap fun p => (a.examine fs p).toOption) := by
  have hresults : c.tasks.filterMap Task.result? = c.tasks.map fun t => a.examine fs t.path :=
    List.filterMap_eq_map_iff_forall_eq_some.2 fun _ ht =>
      h.result? hfinished hpaths hknown hfollowable ht
  have hmap : c.tasks.map (fun t => a.examine fs t.path) = paths.map (a.examine fs) := by
    rw [← h.paths_eq, List.map_map]
    rfl
  rw [analyses, hresults, hmap, List.filterMap_map]
  rfl

theorem analyses_run (hpaths : ∀ p ∈ paths, IsNormal p) (hknown : a.UpToDate fs)
    (hfollowable : ∀ p ∈ paths, a.Followable p) {schedule : List Nat}
    (hfinished : ((start a paths).run fs schedule).isFinished = true) :
    ((start a paths).run fs schedule).analyses =
      Analyzer.sortAnalyses (paths.filterMap fun p => (a.examine fs p).toOption) :=
  ((follows_start fs a paths).run hpaths schedule).analyses_eq hfinished hpaths hknown hfollowable

theorem analyzeAll_analyses (hpaths : ∀ p ∈ paths, IsNormal p) (hknown : a.UpToDate fs)
    (hfollowable : ∀ p ∈ paths, a.Followable p) :
    (a.analyzeAll fs paths).1 =
      Analyzer.sortAnalyses (paths.filterMap fun p => (a.examine fs p).toOption) := by
  rw [analyzeAll_eq]
  exact analyses_run hpaths hknown hfollowable (isFinished_inTurn fs a paths)

end Crew

def oneFile : FileSystem := ⟨.directory [("d", .directory [("a.js", .file "f();".toUTF8)])], []⟩

end CodeSurvey
