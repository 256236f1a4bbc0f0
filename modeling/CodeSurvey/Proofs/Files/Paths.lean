import CodeSurvey.Files.Path
import Mathlib.Order.Basic

/-!
# The parts of paths

A path that is put together from names has these names as its parts, after those of its base. Parts
spelled as a path are read off it again, so paths with the same parts have one common spelling.
-/

namespace CodeSurvey.Path

/-! ## Names -/

/-- What an entry of a directory may be called. -/
structure IsName (text : String) : Prop where
  ne_empty : text ≠ ""
  ne_here : text ≠ "."
  ne_up : text ≠ ".."
  unslashed : '/' ∉ text.toList

instance : DecidablePred IsName := fun text =>
  decidable_of_iff (text ≠ "" ∧ text ≠ "." ∧ text ≠ ".." ∧ '/' ∉ text.toList)
    ⟨fun ⟨h₁, h₂, h₃, h₄⟩ => ⟨h₁, h₂, h₃, h₄⟩, fun ⟨h₁, h₂, h₃, h₄⟩ => ⟨h₁, h₂, h₃, h₄⟩⟩

theorem innerPart?_eq_name {text : String} (hempty : text ≠ "") (hhere : text ≠ ".")
    (hup : text ≠ "..") : innerPart? text = some (.name text) := by
  rw [innerPart?] <;> assumption

theorem IsName.innerPart? {text : String} (h : IsName text) :
    Path.innerPart? text = some (.name text) :=
  innerPart?_eq_name h.ne_empty h.ne_here h.ne_up

theorem IsName.firstPart? {text : String} (h : IsName text) (alone : Bool) :
    Path.firstPart? alone text = some (.name text) := by
  rw [Path.firstPart?] <;> first | exact h.ne_empty | exact h.ne_here | exact h.ne_up

/-- The text of a name or of `..` is no other part. -/
inductive IsInner : Part → Prop
  | up : IsInner .up
  | name {text : String} (h : IsName text) : IsInner (.name text)

namespace IsInner
variable {p : Part}

theorem innerPart? (h : IsInner p) : Path.innerPart? p.text = some p := by
  cases h with
  | up => rfl
  | name h => exact h.innerPart?

theorem firstPart? (h : IsInner p) (alone : Bool) : Path.firstPart? alone p.text = some p := by
  cases h with
  | up => rfl
  | name h => exact h.firstPart? alone

theorem unslashed (h : IsInner p) : '/' ∉ p.text.toList := by
  cases h with
  | up => decide
  | name h => exact h.unslashed

end IsInner

/-! ## Segments -/

theorem not_mem_of_mem_splitOn {chars piece : List Char} (h : piece ∈ chars.splitOn '/') :
    '/' ∉ piece := by
  induction hn : chars.length using Nat.strongRecOn generalizing chars with
  | ind n ih =>
    by_cases hslash : '/' ∈ chars
    · obtain ⟨before, after, rfl, hbefore⟩ := List.eq_append_cons_of_mem hslash
      rw [List.splitOn_append_cons_self_of_not_mem hbefore, List.mem_cons] at h
      rcases h with rfl | h
      · exact hbefore
      · refine ih after.length ?_ h rfl
        rw [← hn, List.length_append, List.length_cons]
        omega
    · have hone : chars.splitOn '/' = [chars] := List.splitOn_eq_singleton hslash
      rw [hone, List.mem_singleton] at h
      exact h ▸ hslash

theorem unslashed_of_mem_segments {path s : String} (h : s ∈ segments path) : '/' ∉ s.toList := by
  obtain ⟨piece, hpiece, rfl⟩ := List.mem_map.1 h
  rw [String.toList_ofList]
  exact not_mem_of_mem_splitOn hpiece

theorem segments_ne_nil (path : String) : segments path ≠ [] := by
  rw [segments, Ne, List.map_eq_nil_iff]
  exact List.splitOn_ne_nil _ _

theorem segments_append_slash (a b : String) :
    segments (a ++ "/" ++ b) = segments a ++ segments b := by
  have hsplit : (a ++ "/" ++ b).toList = a.toList ++ '/' :: b.toList := by simp
  rw [segments, hsplit, List.splitOn_append_cons_self, List.map_append]
  rfl

theorem intercalate_segments (path : String) : "/".intercalate (segments path) = path := by
  have hpieces : (segments path).map String.toList = path.toList.splitOn '/' := by
    rw [segments, List.map_map]
    exact List.map_id'' (fun _ => String.toList_ofList) _
  rw [← String.toList_inj, String.toList_intercalate, hpieces]
  exact List.intercalate_splitOn '/'

theorem segments_intercalate {texts : List String} (hne : texts ≠ [])
    (h : ∀ t ∈ texts, '/' ∉ t.toList) : segments ("/".intercalate texts) = texts := by
  have hpieces : ∀ piece ∈ texts.map String.toList, '/' ∉ piece := by
    intro piece hpiece
    obtain ⟨t, ht, rfl⟩ := List.mem_map.1 hpiece
    exact h t ht
  have hsplit : ("/".intercalate texts).toList.splitOn '/' = texts.map String.toList := by
    rw [String.toList_intercalate]
    exact List.splitOn_intercalate '/' hpieces (by simpa using hne)
  rw [segments, hsplit, List.map_map]
  exact List.map_id'' (fun _ => String.ofList_toList) _

theorem segments_absolute {texts : List String} (hne : texts ≠ [])
    (h : ∀ t ∈ texts, '/' ∉ t.toList) : segments ("/" ++ "/".intercalate texts) = "" :: texts := by
  have hsegments := segments_append_slash "" ("/".intercalate texts)
  rw [String.empty_append, segments_intercalate hne h] at hsegments
  exact hsegments

theorem firstPart?_false (s : String) : ∃ p, firstPart? false s = some p := by
  rw [firstPart?.eq_def]
  split <;> exact ⟨_, rfl⟩

theorem firstPart?_of_ne_empty {s : String} (hs : s ≠ "") (alone : Bool) :
    firstPart? alone s = firstPart? false s := by
  rw [firstPart?.eq_def, firstPart?.eq_def]
  split <;> first | rfl | contradiction

theorem ne_empty_of_segments {path s : String} (hpath : path ≠ "") (h : segments path = [s]) :
    s ≠ "" := by
  rintro rfl
  have hspelled := intercalate_segments path
  rw [h] at hspelled
  exact hpath hspelled.symm

/-! ## Labels -/

def inners (ss : List String) : List (String × Option Part) := ss.map fun s => (s, innerPart? s)

theorem labelled_cons (s : String) (ss : List String) :
    labelled (s :: ss) = (s, firstPart? ss.isEmpty s) :: inners ss := rfl

theorem parts_of_segments {path s : String} {ss : List String} (h : segments path = s :: ss) :
    parts path = (firstPart? ss.isEmpty s).toList ++ (inners ss).filterMap Prod.snd := by
  rw [parts, h, labelled_cons, List.filterMap_cons]
  cases firstPart? ss.isEmpty s <;> rfl

theorem filterMap_inners {ps : List Part} (h : ∀ p ∈ ps, IsInner p) :
    (inners (ps.map Part.text)).filterMap Prod.snd = ps := by
  induction ps with
  | nil => rfl
  | cons p ps ih =>
    obtain ⟨hp, hps⟩ := List.forall_mem_cons.1 h
    rw [List.map_cons, inners, List.map_cons, hp.innerPart?, List.filterMap_cons]
    exact congrArg (p :: ·) (ih hps)

theorem filterMap_inners_names {names : List String} (h : ∀ n ∈ names, IsName n) :
    (inners names).filterMap Prod.snd = names.map .name := by
  have hinner : ∀ p ∈ names.map Part.name, IsInner p := by
    intro p hp
    obtain ⟨n, hn, rfl⟩ := List.mem_map.1 hp
    exact .name (h n hn)
  have htexts : (names.map Part.name).map Part.text = names := by
    rw [List.map_map]
    exact List.map_id'' (fun _ => rfl) names
  have hparts := filterMap_inners hinner
  rwa [htexts] at hparts

theorem parts_of_ne_empty {path s : String} {ss : List String} (hpath : path ≠ "")
    (h : segments path = s :: ss) :
    ∃ p, firstPart? false s = some p ∧ parts path = p :: (inners ss).filterMap Prod.snd := by
  have hfirst : firstPart? ss.isEmpty s = firstPart? false s := by
    cases ss with
    | nil => exact firstPart?_of_ne_empty (ne_empty_of_segments hpath h) _
    | cons t ts => rfl
  obtain ⟨p, hp⟩ := firstPart?_false s
  refine ⟨p, hp, ?_⟩
  rw [parts_of_segments h, hfirst, hp]
  rfl

/-! ## Paths of names -/

section Names
variable {names : List String}

theorem parts_intercalate (h : ∀ n ∈ names, IsName n) :
    parts ("/".intercalate names) = names.map .name := by
  cases names with
  | nil => decide
  | cons n names =>
    obtain ⟨hn, hnames⟩ := List.forall_mem_cons.1 h
    have hsegments : segments ("/".intercalate (n :: names)) = n :: names :=
      segments_intercalate (List.cons_ne_nil n names) fun m hm => (h m hm).unslashed
    rw [parts_of_segments hsegments, hn.firstPart?, filterMap_inners_names hnames]
    rfl

theorem parts_absolute (h : ∀ n ∈ names, IsName n) :
    parts ("/" ++ "/".intercalate names) = .root :: names.map .name := by
  by_cases hne : names = []
  · subst hne
    decide
  · have hsegments : segments ("/" ++ "/".intercalate names) = "" :: names :=
      segments_absolute hne fun n hn => (h n hn).unslashed
    have hempty : names.isEmpty = false := by
      rwa [List.isEmpty_eq_false_iff]
    rw [parts_of_segments hsegments, hempty, filterMap_inners_names h]
    rfl

theorem not_isAbsolute_of_segments {path s : String} {ss : List String}
    (h : segments path = s :: ss) (hs : s ≠ "") : isAbsolute path = false := by
  rw [← intercalate_segments path, h, isAbsolute, String.toList_intercalate, List.map_cons]
  cases hchars : s.toList with
  | nil => exact absurd (String.toList_eq_nil_iff.1 hchars) hs
  | cons c cs =>
    have hc : c ≠ '/' := by
      rintro rfl
      exact unslashed_of_mem_segments (h ▸ List.mem_cons_self) (hchars ▸ List.mem_cons_self)
    cases ss <;> simpa [List.intercalate_cons_cons] using hc

theorem isAbsolute_absolute (path : String) : isAbsolute ("/" ++ path) = true := by
  rw [isAbsolute, String.toList_append]
  rfl

theorem not_isAbsolute_intercalate (h : ∀ n ∈ names, IsName n) :
    isAbsolute ("/".intercalate names) = false := by
  cases names with
  | nil => decide
  | cons n names =>
    have hsegments : segments ("/".intercalate (n :: names)) = n :: names :=
      segments_intercalate (List.cons_ne_nil n names) fun m hm => (h m hm).unslashed
    exact not_isAbsolute_of_segments hsegments (h n List.mem_cons_self).ne_empty

end Names

/-! ## Joined paths -/

theorem endsInSlash_iff {path : String} : endsInSlash path = true ↔ ∃ a, path = a ++ "/" := by
  rw [endsInSlash, beq_iff_eq, List.getLast?_eq_some_iff]
  constructor
  · rintro ⟨chars, hchars⟩
    refine ⟨String.ofList chars, ?_⟩
    rw [← String.toList_inj, hchars, String.toList_append, String.toList_ofList]
    rfl
  · rintro ⟨a, rfl⟩
    exact ⟨a.toList, String.toList_append⟩

theorem join_of_absolute {base path : String} (h : isAbsolute path = true) :
    join base path = path := by
  rw [join, if_pos h]

theorem join_empty {path : String} : join "" path = path := by
  rw [join]
  split
  · rfl
  · exact String.empty_append

/-- A base that is not empty brings its own segments, maybe without an empty last one. -/
theorem segments_join {base path : String} (hbase : base ≠ "") (hpath : isAbsolute path = false) :
    ∃ s ss, segments (join base path) = s :: ss ++ segments path ∧
      parts base = ((s, firstPart? false s) :: inners ss).filterMap Prod.snd := by
  have hempty : base.isEmpty = false := by simpa using hbase
  rw [join, hpath, if_neg Bool.false_ne_true, hempty, Bool.false_or]
  by_cases hslash : endsInSlash base = true
  · obtain ⟨a, rfl⟩ := endsInSlash_iff.1 hslash
    obtain ⟨s, ss, hsegments⟩ := List.exists_cons_of_ne_nil (segments_ne_nil a)
    refine ⟨s, ss, ?_, ?_⟩
    · rw [if_pos hslash, segments_append_slash, hsegments]
    · have hwhole : segments (a ++ "/") = s :: (ss ++ [""]) := by
        have happend := segments_append_slash a ""
        rw [String.append_empty, hsegments] at happend
        exact happend
      have hmore : (ss ++ [""]).isEmpty = false := by simp
      rw [parts, hwhole, labelled_cons, hmore, inners, List.map_append, ← List.cons_append,
        List.filterMap_append]
      exact List.append_nil _
  · rw [if_neg hslash, segments_append_slash]
    obtain ⟨s, ss, hsegments⟩ := List.exists_cons_of_ne_nil (segments_ne_nil base)
    refine ⟨s, ss, by rw [hsegments], ?_⟩
    rw [parts, hsegments, labelled_cons]
    cases ss with
    | cons t ts => rfl
    | nil =>
      rw [← firstPart?_of_ne_empty (ne_empty_of_segments hbase hsegments) true]
      rfl

theorem labelled_join {base path : String} (hbase : base ≠ "") (hpath : isAbsolute path = false) :
    ∃ xs, labelled (segments (join base path)) = xs ++ inners (segments path) ∧
      xs.filterMap Prod.snd = parts base ∧ ∀ x ∈ xs, x.2 = none → isTrivial x.1 = true := by
  obtain ⟨s, ss, hsegments, hparts⟩ := segments_join hbase hpath
  have hmore : (ss ++ segments path).isEmpty = false := by
    simp [segments_ne_nil path]
  refine ⟨(s, firstPart? false s) :: inners ss, ?_, hparts.symm, ?_⟩
  · rw [hsegments, List.cons_append, labelled_cons, hmore, inners, List.map_append]
    rfl
  · intro x hx hnone
    rcases List.mem_cons.1 hx with rfl | hx
    · obtain ⟨p, hp⟩ := firstPart?_false s
      rw [hp] at hnone
      cases hnone
    · obtain ⟨t, -, rfl⟩ := List.mem_map.1 hx
      exact Option.isNone_iff_eq_none.2 hnone

section Names
variable {names : List String} {base : String}

theorem filterMap_inners_segments (h : ∀ n ∈ names, IsName n) :
    (inners (segments ("/".intercalate names))).filterMap Prod.snd = names.map .name := by
  by_cases hne : names = []
  · subst hne
    decide
  · rw [segments_intercalate hne fun n hn => (h n hn).unslashed, filterMap_inners_names h]

theorem parts_join (h : ∀ n ∈ names, IsName n) :
    parts (join base ("/".intercalate names)) = parts base ++ names.map .name := by
  by_cases hbase : base = ""
  · subst hbase
    rw [join_empty, parts_intercalate h]
    rfl
  · obtain ⟨xs, hlabelled, hxs, -⟩ := labelled_join hbase (not_isAbsolute_intercalate h)
    rw [parts, hlabelled, List.filterMap_append, hxs, filterMap_inners_segments h]

end Names

end CodeSurvey.Path
