import CodeSurvey.Proofs.Files.PathOrder
import CodeSurvey.Proofs.Files.Walks
import CodeSurvey.Survey.Collection

/-!
# The files of a survey

Directories are skipped while the tree is walked, files are left out afterwards. Together that takes
each file once which no directory above it and no property of its own keeps out.
-/

namespace CodeSurvey
open CodeSurvey.Path

/-! ## Sorted paths -/

theorem pathOrder_sortPaths (paths : List String) :
    (sortPaths paths).Pairwise fun a b => parts a ≤ parts b := by
  have htrans : ∀ a b c : String, decide (parts a ≤ parts b) = true →
      decide (parts b ≤ parts c) = true → decide (parts a ≤ parts c) = true := by
    intro a b c hab hbc
    exact decide_eq_true (List.le_trans (of_decide_eq_true hab) (of_decide_eq_true hbc))
  have htotal : ∀ a b : String,
      (decide (parts a ≤ parts b) || decide (parts b ≤ parts a)) = true := by
    intro a b
    simpa using List.le_total (parts a) (parts b)
  have hsorted := List.pairwise_mergeSort htrans htotal paths
  exact hsorted.imp fun h => of_decide_eq_true h

theorem lt_of_le_of_ne_parts {xs ys : List Part} (hle : xs ≤ ys) (hne : xs ≠ ys) : xs < ys := by
  by_contra hlt
  exact hne (List.le_antisymm hle (List.not_lt.1 hlt))

theorem sortPaths_increase {paths : List String} (h : (paths.map parts).Nodup) :
    (sortPaths paths).Pairwise fun a b => parts a < parts b := by
  have hperm : (sortPaths paths).Perm paths := List.mergeSort_perm _ _
  have hdistinct : (sortPaths paths).Pairwise fun a b => parts a ≠ parts b :=
    List.pairwise_map.1 ((hperm.map parts).nodup_iff.2 h)
  have hboth := (pathOrder_sortPaths paths).and hdistinct
  exact hboth.imp fun h => lt_of_le_of_ne_parts h.1 h.2

/-! ## Files that are taken -/

/-- A survey of a tree takes a file: no directory on the way to it is skipped, no pattern leaves it
out, its name is that of code, and it is not too large. -/
structure Config.Selects (c : Config) (tree : FileNode) (f : FoundFile) : Prop where
  present : tree.find? f.names = some (.file f.bytes)
  entered : ∀ d ∈ f.names.dropLast,
    d ∉ skippedDirectories ∧ (isHidden d = true → c.includeHidden = true)
  unmatched : ∀ pattern ∈ c.excludedPaths, ∀ glob, Glob.parse pattern = .ok glob →
    Glob.isMatch glob f.relative = false
  code : ∃ name, f.names.getLast? = some name ∧ isCode name = true
  small : f.bytes.size ≤ c.maxFileBytes.toNat

section Taken
variable {c : Config} {f : FoundFile} {root : String}

theorem skips_eq_false {name : String} : c.skips name = false ↔
    name ∉ skippedDirectories ∧ (isHidden name = true → c.includeHidden = true) := by
  rw [Config.skips]
  cases isHidden name <;> cases c.includeHidden <;> simp

theorem isExcluded_eq_false {path : String} : c.isExcluded path = false ↔
    ∀ pattern ∈ c.excludedPaths, ∀ glob, Glob.parse pattern = .ok glob →
      Glob.isMatch glob path = false := by
  rw [Config.isExcluded, Glob.matchesAny, List.any_eq_false]
  refine forall₂_congr fun pattern _ => ?_
  cases Glob.parse pattern <;> simp

theorem FoundFile.path_eq (hnames : ∀ n ∈ f.names, IsName n) (hne : f.names ≠ [])
    (root : String) : f.path root = join root f.relative := foldl_join hnames hne root

theorem parts_path (hnames : ∀ n ∈ f.names, IsName n) (hne : f.names ≠ []) (root : String) :
    parts (f.path root) = parts root ++ f.names.map .name := by
  rw [FoundFile.path_eq hnames hne, FoundFile.relative, parts_join hnames]

theorem fileName?_path (hnames : ∀ n ∈ f.names, IsName n) (hne : f.names ≠ []) (root : String) :
    fileName? (f.path root) = f.names.getLast? := by
  obtain ⟨before, name, hconcat, -⟩ := exists_concat hnames hne
  rw [fileName?, parts_path hnames hne, hconcat]
  simp

theorem isTaken_iff (hnames : ∀ n ∈ f.names, IsName n) (hne : f.names ≠ []) (root : String) :
    f.isTaken c root = true ↔ c.isExcluded f.relative = false ∧
      (∃ name, f.names.getLast? = some name ∧ isCode name = true) ∧
      f.bytes.size ≤ c.maxFileBytes.toNat := by
  obtain ⟨before, name, hconcat, -⟩ := exists_concat hnames hne
  have hlast : f.names.getLast? = some name := by rw [hconcat, List.getLast?_concat]
  rw [FoundFile.isTaken, Config.takes, fileName?_path hnames hne, hlast]
  simp [and_assoc]

end Taken

/-! ## Collected files -/

/-- Sorting the paths of files sorts the files, each of which has its own path. -/
theorem exists_sorted (root : String) {taken : List FoundFile}
    (hnames : ∀ f ∈ taken, (∀ n ∈ f.names, IsName n) ∧ f.names ≠ [])
    (hdistinct : (taken.map FoundFile.names).Nodup) :
    ∃ found : List FoundFile, found.Perm taken ∧
      sortPaths (taken.map (FoundFile.path root)) = found.map (FoundFile.path root) ∧
      found.Pairwise fun f g => parts (f.path root) < parts (g.path root) := by
  have hparts : ((taken.map (FoundFile.path root)).map parts).Nodup := by
    rw [List.map_map]
    refine List.pairwise_map.2 ((List.pairwise_map.1 hdistinct).imp_of_mem ?_)
    intro f g hf hg hne heq
    obtain ⟨hf, hf'⟩ := hnames f hf
    obtain ⟨hg, hg'⟩ := hnames g hg
    have hsame : f.names.map Part.name = g.names.map Part.name := by
      rw [Function.comp_apply, Function.comp_apply, parts_path hf hf', parts_path hg hg'] at heq
      exact List.append_cancel_left heq
    exact hne (by rw [← texts_of_names f.names, hsame, texts_of_names])
  have hsorted : (taken.mergeSort fun f g =>
      decide (parts (f.path root) ≤ parts (g.path root))).map (FoundFile.path root) =
        sortPaths (taken.map (FoundFile.path root)) :=
    List.map_mergeSort fun _ _ _ _ => rfl
  refine ⟨_, List.mergeSort_perm taken _, hsorted.symm, ?_⟩
  have hincrease := sortPaths_increase hparts
  rw [← hsorted, List.pairwise_map] at hincrease
  exact hincrease

theorem collect_selects {fs : FileSystem} {root : String} {place : Place}
    {inner : List (String × FileNode)} (hvisit : fs.visit root = .ok (place, .directory inner))
    (hnamed : (FileNode.directory inner).WellNamed) (hlinks : (FileNode.directory inner).Unlinked)
    (c : Config) :
    ∃ found : List FoundFile, collect fs root c = .ok (found.map fun f => join root f.relative) ∧
      (∀ f, f ∈ found ↔ c.Selects (.directory inner) f) ∧
      found.Pairwise fun f g => parts (join root f.relative) < parts (join root g.relative) := by
  obtain ⟨all, hwalk, hfinds⟩ := fs.walk_finds hvisit hnamed hlinks c.skips
  have hall : ∀ f ∈ all, (∀ n ∈ f.names, IsName n) ∧ f.names ≠ [] := by
    intro f hf
    obtain ⟨names, hfind, -, hnames⟩ := (hfinds.mem f).1 hf
    rw [List.nil_append] at hnames
    obtain ⟨n, ns, -, hsplit, -⟩ := Walk.find?_entry.1 hfind
    rw [hnames]
    exact ⟨hnamed.names hfind, by simp [hsplit]⟩
  have hmem : ∀ f, f ∈ all.filter (FoundFile.isTaken c root) ↔ c.Selects (.directory inner) f := by
    intro f
    rw [List.mem_filter]
    constructor
    · rintro ⟨hf, htaken⟩
      obtain ⟨hnames, hne⟩ := hall f hf
      obtain ⟨hunmatched, hcode, hsmall⟩ := (isTaken_iff hnames hne root).1 htaken
      obtain ⟨names, hfind, hskip, hsame⟩ := (hfinds.mem f).1 hf
      rw [List.nil_append] at hsame
      subst hsame
      exact ⟨hfind, fun d hd => skips_eq_false.1 (hskip d hd),
        isExcluded_eq_false.1 hunmatched, hcode, hsmall⟩
    · intro h
      have hf : f ∈ all :=
        (hfinds.mem f).2 ⟨f.names, h.present, fun d hd => skips_eq_false.2 (h.entered d hd), rfl⟩
      obtain ⟨hnames, hne⟩ := hall f hf
      exact ⟨hf, (isTaken_iff hnames hne root).2
        ⟨isExcluded_eq_false.2 h.unmatched, h.code, h.small⟩⟩
  have hdistinct := hfinds.nodup.sublist
    ((List.filter_sublist (p := FoundFile.isTaken c root) (l := all)).map FoundFile.names)
  obtain ⟨found, hperm, hsorted, hincrease⟩ := exists_sorted root
    (fun f hf => hall f (List.mem_filter.1 hf).1) hdistinct
  have hpath : ∀ f ∈ found, f.path root = join root f.relative := by
    intro f hf
    obtain ⟨hnames, hne⟩ := hall f (List.mem_filter.1 (hperm.mem_iff.1 hf)).1
    exact FoundFile.path_eq hnames hne root
  refine ⟨found, ?_, fun f => hperm.mem_iff.trans (hmem f), ?_⟩
  · have hcollect : collect fs root c = .ok (found.map (FoundFile.path root)) := by
      rw [collect, hwalk, ← hsorted]
      rfl
    rw [hcollect, List.map_congr_left hpath]
  · refine hincrease.imp_of_mem fun hf hg h => ?_
    rwa [hpath _ hf, hpath _ hg] at h

/-! ## A directory with a hidden one -/

def sampleEntries : List (String × FileNode) :=
  [(".a.js", .file "f();".toUTF8), (".git", .directory [("b.js", .file "g();".toUTF8)])]

def sampleFiles : FileSystem := ⟨.directory [("vendor", .directory sampleEntries)], []⟩

theorem wellNamed_sampleFiles : sampleFiles.root.WellNamed :=
  .directory (by decide) (by decide) (List.forall_mem_singleton.2
    (.directory (by decide) (by decide) (List.forall_mem_cons.2 ⟨.file _,
      List.forall_mem_singleton.2 (.directory (by decide) (by decide)
        (List.forall_mem_singleton.2 (.file _)))⟩)))

theorem unlinked_sampleEntries : (FileNode.directory sampleEntries).Unlinked :=
  FileNode.unlinked_directory (List.forall_mem_cons.2 ⟨FileNode.unlinked_file _,
    List.forall_mem_singleton.2 (FileNode.unlinked_directory
      (List.forall_mem_singleton.2 (FileNode.unlinked_file _)))⟩)

theorem find?_sampleFiles :
    sampleFiles.root.find? ["vendor"] = some (.directory sampleEntries) := rfl

theorem visit_sampleFiles :
    sampleFiles.visit "/vendor" = .ok (["vendor"], .directory sampleEntries) := by
  have hpath : "/vendor" = FileSystem.absolutePath ["vendor"] := rfl
  rw [hpath]
  exact FileSystem.visit_of_short (by decide) find?_sampleFiles (by simp) (by decide) rfl
    (by decide) (by decide) (by decide)

/-- The directory is searched in spite of its name. -/
theorem collect_selects_sample :
    sampleFiles.visit "/vendor" = .ok (["vendor"], .directory sampleEntries) ∧
    (FileNode.directory sampleEntries).WellNamed ∧ (FileNode.directory sampleEntries).Unlinked ∧
    ∃ found : List FoundFile, collect sampleFiles "/vendor" .standard =
        .ok (found.map fun f => join "/vendor" f.relative) ∧
      ⟨[".a.js"], "f();".toUTF8⟩ ∈ found ∧ ⟨[".git", "b.js"], "g();".toUTF8⟩ ∉ found := by
  have hnamed := wellNamed_sampleFiles.find? find?_sampleFiles
  refine ⟨visit_sampleFiles, hnamed, unlinked_sampleEntries, ?_⟩
  obtain ⟨found, hcollect, hmem, -⟩ :=
    collect_selects visit_sampleFiles hnamed unlinked_sampleEntries .standard
  refine ⟨found, hcollect, (hmem _).2 ?_, fun h => ?_⟩
  · exact ⟨rfl, List.forall_mem_nil _, List.forall_mem_nil _, ⟨".a.js", rfl, by decide⟩, by decide⟩
  · have hentered := ((hmem _).1 h).entered ".git" List.mem_cons_self
    exact absurd (hentered.2 (by decide)) (by decide)

end CodeSurvey
