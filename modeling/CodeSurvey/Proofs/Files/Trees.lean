import CodeSurvey.Proofs.Files.Places

/-!
# Trees without links

In a tree the entries of a directory have different names, and only names that paths can spell. The
path of a place, written from the root, leads to that place unless it cannot be followed at all.
-/

namespace CodeSurvey
open CodeSurvey.Path

namespace FileNode

/-- The entries of each directory can be told apart by paths. -/
inductive WellNamed : FileNode → Prop
  | file (bytes : ByteArray) : WellNamed (.file bytes)
  | link (target : String) : WellNamed (.link target)
  | directory {entries : List (String × FileNode)} (hdistinct : (entries.map Prod.fst).Nodup)
    (hnames : ∀ n ∈ entries.map Prod.fst, IsName n) (hinner : ∀ e ∈ entries, WellNamed e.2) :
    WellNamed (.directory entries)

def Unlinked (node : FileNode) : Prop := ∀ place target, node.find? place ≠ some (.link target)

section Trees
variable {node inner : FileNode} {entries : List (String × FileNode)} {name : String}
  {place : Place}

theorem WellNamed.names (h : node.WellNamed) (hfind : node.find? place = some inner) :
    ∀ n ∈ place, IsName n := by
  induction place generalizing node with
  | nil => exact List.forall_mem_nil _
  | cons name place ih =>
    obtain ⟨entries, next, rfl, hlookup, hrest⟩ := exists_directory hfind
    cases h with
    | directory _ hnames hinner =>
      have hmem := SortedMap.mem_of_lookup hlookup
      exact List.forall_mem_cons.2
        ⟨hnames name (List.mem_map_of_mem hmem), ih (hinner _ hmem) hrest⟩

theorem WellNamed.find? (h : node.WellNamed) (hfind : node.find? place = some inner) :
    inner.WellNamed := by
  induction place generalizing node with
  | nil =>
    cases hfind
    exact h
  | cons name place ih =>
    obtain ⟨entries, next, rfl, hlookup, hrest⟩ := exists_directory hfind
    cases h with
    | directory _ _ hinner => exact ih (hinner _ (SortedMap.mem_of_lookup hlookup)) hrest

theorem unlinked_file (bytes : ByteArray) : (file bytes).Unlinked := by
  intro place target h
  cases place <;> cases h

theorem unlinked_directory (h : ∀ e ∈ entries, e.2.Unlinked) : (directory entries).Unlinked := by
  intro place target hfind
  cases place with
  | nil => cases hfind
  | cons n ns =>
    obtain ⟨es, next, hes, hlookup, hrest⟩ := exists_directory hfind
    cases hes
    exact h _ (SortedMap.mem_of_lookup hlookup) ns target hrest

theorem Unlinked.not_link (h : node.Unlinked) (target : String) : node ≠ .link target := by
  rintro rfl
  exact h [] target rfl

theorem Unlinked.lookup (h : (directory entries).Unlinked)
    (hlookup : entries.lookup name = some inner) : inner.Unlinked := by
  intro place target hfind
  refine h (name :: place) target ?_
  rw [find?_directory_cons, hlookup]
  exact hfind

theorem Unlinked.tail {e : String × FileNode} (hnew : e.1 ∉ entries.map Prod.fst)
    (h : (directory (e :: entries)).Unlinked) : (directory entries).Unlinked := by
  intro place target hfind
  cases place with
  | nil => cases hfind
  | cons n ns =>
    refine h (n :: ns) target ?_
    rw [find?_directory_cons, Option.bind_eq_some_iff] at hfind ⊢
    obtain ⟨next, hlookup, hrest⟩ := hfind
    refine ⟨next, ?_, hrest⟩
    have hother : n ≠ e.1 := by
      rintro rfl
      exact hnew (List.mem_map.2 ⟨_, SortedMap.mem_of_lookup hlookup, rfl⟩)
    rw [SortedMap.lookup_entry, if_neg hother, hlookup]

end Trees
end FileNode

/-! ## The path of a place -/

namespace FileSystem

theorem follow_names {root node : FileNode} {links : Nat} {place names : Place}
    (hfind : root.find? (place ++ names) = some node) (hlink : ∀ target, node ≠ .link target) :
    follow root links place (names.map .enter) =
      if ∀ n ∈ names, n.utf8ByteSize ≤ maxNameBytes then .ok (place ++ names)
      else .error .nameTooLong := by
  induction names generalizing place with
  | nil =>
    rw [List.map_nil, follow_nil, List.append_nil, if_pos (List.forall_mem_nil _)]
  | cons name names ih =>
    have hstart := hfind
    rw [FileNode.find?_append, Option.bind_eq_some_iff] at hstart
    obtain ⟨here, hhere, hnext⟩ := hstart
    obtain ⟨entries, next, rfl, hlookup, hrest⟩ := FileNode.exists_directory hnext
    have hassoc : place ++ [name] ++ names = place ++ name :: names := by simp
    have hlater := @ih (place ++ [name]) (by rw [hassoc, hfind])
    rw [hassoc] at hlater
    rw [List.map_cons]
    by_cases hlong : name.utf8ByteSize > maxNameBytes
    · have hnot : ¬ ∀ n ∈ name :: names, n.utf8ByteSize ≤ maxNameBytes :=
        fun h => Nat.not_lt.2 (h name List.mem_cons_self) hlong
      rw [follow_enter_long hhere hlong, if_neg hnot]
    · have hstep : follow root links place (.enter name :: names.map .enter) =
          follow root links (place ++ [name]) (names.map .enter) := by
        rw [follow_enter hhere hlong, hlookup]
        cases next with
        | file bytes => rfl
        | directory inner => rfl
        | link target =>
          -- Nothing lies within a link, and the last place is none.
          cases names with
          | nil => exact absurd (Option.some.inj hrest).symm (hlink target)
          | cons n ns => cases hrest
      rw [hstep, hlater]
      simp [Nat.le_of_not_lt hlong]

theorem ofSegments_names {names : List String} (hnames : ∀ n ∈ names, IsName n) :
    PathStep.ofSegments names = names.map .enter := by
  induction names with
  | nil => rfl
  | cons name names ih =>
    obtain ⟨hname, hrest⟩ := List.forall_mem_cons.1 hnames
    cases names with
    | nil => exact congrArg (fun step => [step]) (ofSegment_name hname)
    | cons next later =>
      rw [ofSegments_cons hname.ne_empty, ih hrest, ofSegment_name hname]
      rfl

theorem ofPath_absolutePath {place : Place} (hnames : ∀ n ∈ place, IsName n) (hne : place ≠ []) :
    PathStep.ofPath (absolutePath place) = .top :: place.map .enter := by
  have hsegments : segments (absolutePath place) = "" :: place :=
    segments_absolute hne fun n hn => (hnames n hn).unslashed
  rw [ofPath_root hsegments, ofSegments_names hnames]

theorem find?_of_visit {fs : FileSystem} {path : String} {place : Place} {node : FileNode}
    (h : fs.visit path = .ok (place, node)) : fs.root.find? place = some node := by
  rw [visit] at h
  cases hlocate : fs.locate path with
  | error e =>
    rw [hlocate] at h
    cases h
  | ok there =>
    rw [hlocate] at h
    simp only [bind, Except.bind] at h
    split at h
    next found hfound =>
      cases h
      exact hfound
    next => cases h

theorem directory_of_follow {root : FileNode} {links : Nat} {place found : Place} {step : PathStep}
    {rest : List PathStep} (h : follow root links place (step :: rest) = .ok found) :
    ∃ entries, root.find? place = some (.directory entries) := by
  by_contra hnone
  rw [follow_nowhere fun entries hentries => hnone ⟨entries, hentries⟩] at h
  cases h

section AbsolutePath
variable {fs : FileSystem} {node : FileNode} {place : Place}
  (hnames : ∀ n ∈ place, IsName n) (hfind : fs.root.find? place = some node)
  (hlink : ∀ target, node ≠ .link target)
include hnames hfind hlink

theorem follow_absolutePath (hne : place ≠ []) {links : Nat} {start : Place}
    {entries : List (String × FileNode)}
    (hstart : fs.root.find? start = some (.directory entries)) :
    follow fs.root links start (PathStep.ofPath (absolutePath place)) =
      if ∀ n ∈ place, n.utf8ByteSize ≤ maxNameBytes then .ok place else .error .nameTooLong := by
  rw [ofPath_absolutePath hnames hne, follow_top hstart]
  exact @follow_names fs.root node links [] place hfind hlink

theorem eq_of_locate_absolutePath {found : Place}
    (h : fs.locate (absolutePath place) = .ok found) : found = place := by
  have hfollow : follow fs.root maxLinks fs.workingDirectory
      (PathStep.ofPath (absolutePath place)) = .ok found := by
    rw [locate, steps] at h
    split at h
    · cases h
    · split at h
      · cases h
      · split at h
        · cases h
        · exact h
  by_cases hne : place = []
  · subst hne
    have hsteps : PathStep.ofPath (absolutePath []) = [.top, .stay] := by decide
    rw [hsteps] at hfollow
    obtain ⟨entries, hstart⟩ := directory_of_follow hfollow
    rw [follow_top hstart] at hfollow
    obtain ⟨inner, hroot⟩ := directory_of_follow hfollow
    rw [follow_stay hroot, follow_nil] at hfollow
    exact (Except.ok.inj hfollow).symm
  · have hfirst := hfollow
    rw [ofPath_absolutePath hnames hne] at hfirst
    obtain ⟨entries, hstart⟩ := directory_of_follow hfirst
    rw [follow_absolutePath hnames hfind hlink hne hstart] at hfollow
    split at hfollow
    · exact (Except.ok.inj hfollow).symm
    · cases hfollow

theorem visit_absolutePath (hpresent : fs.isPresent (absolutePath place) = true) :
    fs.visit (absolutePath place) = .ok (place, node) := by
  rw [isPresent] at hpresent
  cases hvisit : fs.visit (absolutePath place) with
  | error e =>
    rw [hvisit] at hpresent
    cases hpresent
  | ok found =>
    rw [visit] at hvisit
    cases hlocate : fs.locate (absolutePath place) with
    | error e =>
      rw [hlocate] at hvisit
      cases hvisit
    | ok there =>
      obtain rfl := eq_of_locate_absolutePath hnames hfind hlink hlocate
      rw [hlocate] at hvisit
      simp only [bind, Except.bind, hfind] at hvisit
      exact hvisit.symm

/-- The path of a place leads there if the system takes paths and names of that length. -/
theorem visit_of_short (hne : place ≠ []) {entries : List (String × FileNode)}
    (hstart : fs.root.find? fs.workingDirectory = some (.directory entries))
    (hnul : '\x00' ∉ (absolutePath place).toList)
    (hshort : (absolutePath place).utf8ByteSize ≤ maxPathBytes)
    (hshort' : ∀ n ∈ place, n.utf8ByteSize ≤ maxNameBytes) :
    fs.visit (absolutePath place) = .ok (place, node) := by
  have hsteps : steps (absolutePath place) = .ok (PathStep.ofPath (absolutePath place)) := by
    have hnul' : (absolutePath place).toList.contains '\x00' = false := by simpa using hnul
    have hempty : (absolutePath place).isEmpty = false := by simp [absolutePath]
    rw [steps, hnul', hempty, if_neg (Nat.not_lt.2 hshort)]
    rfl
  have hlocate : fs.locate (absolutePath place) = .ok place := by
    rw [locate, hsteps]
    have hfollow := @follow_absolutePath fs node place hnames hfind hlink hne maxLinks _ _ hstart
    rw [if_pos hshort'] at hfollow
    exact hfollow
  rw [visit, hlocate]
  simp only [bind, Except.bind, hfind]

end AbsolutePath

end FileSystem
end CodeSurvey
