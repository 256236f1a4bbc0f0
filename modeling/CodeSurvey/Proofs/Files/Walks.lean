import CodeSurvey.Files.Walk
import CodeSurvey.Proofs.Files.Trees

/-!
# What walks find

A walk of a tree without links finds each file once that can be reached without a directory to be
skipped, and nothing else.
-/

namespace CodeSurvey
namespace Walk

/-- The files within a tree that are found by a walk, named from a start above the tree. -/
structure Finds (skip : String → Bool) (start : Place) (tree : FileNode) (found : List FoundFile) :
    Prop where
  mem : ∀ f, f ∈ found ↔ ∃ names, tree.find? names = some (.file f.bytes) ∧
    (∀ d ∈ names.dropLast, skip d = false) ∧ f.names = start ++ names
  nodup : (found.map FoundFile.names).Nodup

section Trees
variable {skip : String → Bool} {start : Place} {name : String} {inner : FileNode}
  {entries rest : List (String × FileNode)} {found later : List FoundFile} {bytes : ByteArray}

theorem find?_file {names : Place} {node : FileNode} :
    (FileNode.file bytes).find? names = some node ↔ names = [] ∧ node = .file bytes := by
  cases names <;> simp [FileNode.find?, eq_comm]

theorem find?_entry {names : Place} :
    (FileNode.directory entries).find? names = some (.file bytes) ↔
      ∃ n ns node, names = n :: ns ∧ entries.lookup n = some node ∧
        node.find? ns = some (.file bytes) := by
  constructor
  · intro h
    cases names with
    | nil => cases h
    | cons n ns =>
      obtain ⟨es, node, hes, hlookup, hrest⟩ := FileNode.exists_directory h
      cases hes
      exact ⟨n, ns, node, rfl, hlookup, hrest⟩
  · rintro ⟨n, ns, node, rfl, hlookup, hrest⟩
    rw [FileNode.find?_directory_cons, hlookup]
    exact hrest

theorem find?_single {names : Place} :
    (FileNode.directory [(name, inner)]).find? names = some (.file bytes) ↔
      ∃ ns, names = name :: ns ∧ inner.find? ns = some (.file bytes) := by
  rw [find?_entry]
  constructor
  · rintro ⟨n, ns, node, rfl, hlookup, hrest⟩
    rw [SortedMap.lookup_entry] at hlookup
    split at hlookup
    next hname =>
      cases hlookup
      exact ⟨ns, by rw [hname], hrest⟩
    next => cases hlookup
  · rintro ⟨ns, rfl, hrest⟩
    refine ⟨name, ns, inner, rfl, ?_, hrest⟩
    rw [SortedMap.lookup_entry, if_pos rfl]

theorem find?_more {names : Place} (hnew : name ∉ rest.map Prod.fst) :
    (FileNode.directory ((name, inner) :: rest)).find? names = some (.file bytes) ↔
      (FileNode.directory [(name, inner)]).find? names = some (.file bytes) ∨
        (FileNode.directory rest).find? names = some (.file bytes) := by
  rw [find?_single, find?_entry, find?_entry]
  constructor
  · rintro ⟨n, ns, node, rfl, hlookup, hrest⟩
    rw [SortedMap.lookup_entry] at hlookup
    split at hlookup
    next hname =>
      cases hlookup
      exact .inl ⟨ns, by rw [hname], hrest⟩
    next => exact .inr ⟨n, ns, node, rfl, hlookup, hrest⟩
  · rintro (⟨ns, rfl, hrest⟩ | ⟨n, ns, node, rfl, hlookup, hrest⟩)
    · refine ⟨name, ns, inner, rfl, ?_, hrest⟩
      rw [SortedMap.lookup_entry, if_pos rfl]
    · refine ⟨n, ns, node, rfl, ?_, hrest⟩
      have hother : n ≠ name := by
        rintro rfl
        exact hnew (List.mem_map_of_mem (SortedMap.mem_of_lookup hlookup))
      rw [SortedMap.lookup_entry, if_neg hother, hlookup]

theorem finds_nothing : Finds skip start (.directory []) [] where
  mem := by
    intro f
    refine ⟨fun h => absurd h List.not_mem_nil, ?_⟩
    rintro ⟨names, hfind, -⟩
    obtain ⟨n, ns, node, -, hlookup, -⟩ := find?_entry.1 hfind
    cases hlookup
  nodup := .nil

theorem finds_file (bytes : ByteArray) :
    Finds skip start (.directory [(name, .file bytes)]) [⟨start ++ [name], bytes⟩] where
  mem := by
    intro f
    rw [List.mem_singleton]
    constructor
    · rintro rfl
      exact ⟨[name], find?_single.2 ⟨[], rfl, find?_file.2 ⟨rfl, rfl⟩⟩,
        List.forall_mem_nil _, rfl⟩
    · rintro ⟨names, hfind, -, hnames⟩
      obtain ⟨ns, rfl, hrest⟩ := find?_single.1 hfind
      obtain ⟨rfl, hfile⟩ := find?_file.1 hrest
      obtain ⟨fnames, fbytes⟩ := f
      cases hfile
      cases hnames
      rfl
  nodup := List.pairwise_singleton _ _

theorem finds_skipped (h : skip name = true) :
    Finds skip start (.directory [(name, .directory entries)]) [] where
  mem := by
    intro f
    refine ⟨fun hf => absurd hf List.not_mem_nil, ?_⟩
    rintro ⟨names, hfind, hskip, -⟩
    obtain ⟨ns, rfl, hrest⟩ := find?_single.1 hfind
    obtain ⟨n, ms, node, rfl, -, -⟩ := find?_entry.1 hrest
    have hname := hskip name List.mem_cons_self
    rw [h] at hname
    cases hname
  nodup := .nil

theorem Finds.enter (h : Finds skip (start ++ [name]) (.directory entries) found)
    (hname : skip name = false) :
    Finds skip start (.directory [(name, .directory entries)]) found where
  mem := by
    intro f
    rw [h.mem]
    constructor
    · rintro ⟨names, hfind, hskip, hnames⟩
      obtain ⟨n, ns, node, rfl, -, -⟩ := find?_entry.1 hfind
      refine ⟨name :: n :: ns, find?_single.2 ⟨_, rfl, hfind⟩, ?_, ?_⟩
      · rw [List.dropLast_cons_cons]
        exact List.forall_mem_cons.2 ⟨hname, hskip⟩
      · rw [hnames, List.append_assoc]
        rfl
    · rintro ⟨names, hfind, hskip, hnames⟩
      obtain ⟨ns, rfl, hrest⟩ := find?_single.1 hfind
      obtain ⟨n, ms, node, rfl, -, -⟩ := find?_entry.1 hrest
      refine ⟨n :: ms, hrest, ?_, ?_⟩
      · intro d hd
        refine hskip d ?_
        rw [List.dropLast_cons_cons]
        exact List.mem_cons_of_mem _ hd
      · rw [hnames, List.append_assoc]
        rfl
  nodup := h.nodup

theorem Finds.append (hnew : name ∉ rest.map Prod.fst)
    (h : Finds skip start (.directory [(name, inner)]) found)
    (hrest : Finds skip start (.directory rest) later) :
    Finds skip start (.directory ((name, inner) :: rest)) (found ++ later) where
  mem := by
    intro f
    rw [List.mem_append, h.mem, hrest.mem, ← exists_or]
    refine exists_congr fun names => ?_
    rw [find?_more hnew, or_and_right]
  nodup := by
    have hapart : ∀ f ∈ found, ∀ g ∈ later, f.names ≠ g.names := by
      intro f hf g hg heq
      obtain ⟨names, hfind, -, hnames⟩ := (h.mem f).1 hf
      obtain ⟨ns, rfl, -⟩ := find?_single.1 hfind
      obtain ⟨others, hfind', -, hothers⟩ := (hrest.mem g).1 hg
      obtain ⟨n, ms, node, rfl, hlookup, -⟩ := find?_entry.1 hfind'
      rw [hnames, hothers] at heq
      obtain ⟨rfl, -⟩ := List.cons.inj (List.append_cancel_left heq)
      exact hnew (List.mem_map_of_mem (SortedMap.mem_of_lookup hlookup))
    rw [List.map_append, List.nodup_append]
    refine ⟨h.nodup, hrest.nodup, ?_⟩
    intro a ha b hb
    obtain ⟨f, hf, rfl⟩ := List.mem_map.1 ha
    obtain ⟨g, hg, rfl⟩ := List.mem_map.1 hb
    exact hapart f hf g hg

end Trees

section Walks
variable {skip : String → Bool} {follow : Position → String → Except WalkError (List FoundFile)}

mutual

theorem node_finds (n : FileNode) (name : String) (p : Position) (hnamed : n.WellNamed)
    (hlinks : n.Unlinked) : ∃ found, node skip follow p name n = .ok found ∧
      Finds skip p.names (.directory [(name, n)]) found := by
  cases n with
  | file bytes => exact ⟨_, rfl, finds_file bytes⟩
  | link target => exact absurd rfl (hlinks.not_link target)
  | directory inner =>
    rw [node]
    by_cases hskip : skip name = true
    · rw [if_pos hskip]
      exact ⟨[], rfl, finds_skipped hskip⟩
    · rw [if_neg hskip]
      obtain ⟨found, hfound, hfinds⟩ :=
        entries_finds inner (p.enter name (p.place ++ [name])) hnamed hlinks
      exact ⟨found, hfound, hfinds.enter (Bool.eq_false_iff.2 hskip)⟩
termination_by structural n

theorem entries_finds (es : List (String × FileNode)) (p : Position)
    (hnamed : (FileNode.directory es).WellNamed) (hlinks : (FileNode.directory es).Unlinked) :
    ∃ found, entries skip follow p es = .ok found ∧ Finds skip p.names (.directory es) found := by
  cases es with
  | nil => exact ⟨[], rfl, finds_nothing⟩
  | cons e rest =>
    have hfirst : (e :: rest).lookup e.1 = some e.2 := by rw [SortedMap.lookup_entry, if_pos rfl]
    cases hnamed with
    | directory hdistinct hnames hinner =>
      obtain ⟨hnew, hdistinct'⟩ := List.nodup_cons.1 hdistinct
      have hrest : (FileNode.directory rest).WellNamed :=
        .directory hdistinct' (fun n hn => hnames n (List.mem_cons_of_mem _ hn))
          fun e' he' => hinner e' (List.mem_cons_of_mem _ he')
      obtain ⟨found, hfound, hfinds⟩ :=
        entry_finds e p (hinner e List.mem_cons_self) (hlinks.lookup hfirst)
      obtain ⟨later, hlater, hfinds'⟩ := entries_finds rest p hrest (hlinks.tail hnew)
      refine ⟨found ++ later, ?_, hfinds.append hnew hfinds'⟩
      rw [entries, hfound, hlater]
      rfl
termination_by structural es

theorem entry_finds (e : String × FileNode) (p : Position) (hnamed : e.2.WellNamed)
    (hlinks : e.2.Unlinked) : ∃ found, entry skip follow p e = .ok found ∧
      Finds skip p.names (.directory [e]) found := by
  cases e with
  | mk name n => exact node_finds n name p hnamed hlinks
termination_by structural e

end

end Walks
end Walk

theorem FileSystem.walk_finds {fs : FileSystem} {path : String} {place : Place}
    {inner : List (String × FileNode)} (hvisit : fs.visit path = .ok (place, .directory inner))
    (hnamed : (FileNode.directory inner).WellNamed) (hlinks : (FileNode.directory inner).Unlinked)
    (skip : String → Bool) :
    ∃ found, fs.walk skip path = .ok found ∧ Walk.Finds skip [] (.directory inner) found := by
  rw [walk, hvisit]
  exact Walk.entries_finds inner _ hnamed hlinks

end CodeSurvey
