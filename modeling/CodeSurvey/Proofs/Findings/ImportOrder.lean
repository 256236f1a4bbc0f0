import CodeSurvey.Proofs.Findings.ImportPlaces
import CodeSurvey.Proofs.Text.ByteOrder
import Mathlib.Order.Bounds.Basic

/-!
# The order of imports

The imports of a file are listed each once, in the order of the first places in the text where their
targets are found. What is found and where settles the list: the order in which the finds are
collected does not matter.
-/

namespace CodeSurvey
open Text

namespace Imports

/-! ## Lists of targets -/

/-- A place is the first one where a target is found. -/
def FirstAt (place : FoundImport → Nat) (found : List FoundImport) (target : String) (m : Nat) :
    Prop :=
  IsLeast {n | ∃ f ∈ found, f.target = target ∧ place f = n} m

/-- The targets that were found are listed, each once, in the order of their first places. -/
structure Lists (place : FoundImport → Nat) (found : List FoundImport) (targets : List String) :
    Prop where
  nodup : targets.Nodup
  mem_iff : ∀ t, t ∈ targets ↔ ∃ f ∈ found, f.target = t
  ascend : targets.Pairwise fun s t =>
    ∃ m n, FirstAt place found s m ∧ FirstAt place found t n ∧ m < n

variable {place : FoundImport → Nat} {found found' : List FoundImport}

theorem Lists.congr {targets : List String} (h : Lists place found targets)
    (hsame : ∀ f, f ∈ found ↔ f ∈ found') : Lists place found' targets where
  nodup := h.nodup
  mem_iff t := by simp only [h.mem_iff, hsame]
  ascend := by simpa only [FirstAt, hsame] using h.ascend

/-- What is found settles how it is listed. -/
theorem Lists.unique {xs ys : List String} (hxs : Lists place found xs)
    (hys : Lists place found ys) : xs = ys := by
  have hperm : xs.Perm ys := by
    refine (List.perm_ext_iff_of_nodup hxs.nodup hys.nodup).2 fun t => ?_
    rw [hxs.mem_iff, hys.mem_iff]
  refine hperm.eq_of_pairwise ?_ hxs.ascend hys.ascend
  rintro s t - - ⟨m, n, hm, hn, hlt⟩ ⟨n', m', hn', hm', hlt'⟩
  rw [hm.unique hm', hn.unique hn'] at hlt
  exact absurd hlt (Nat.lt_asymm hlt')

/-! ## First finds -/

/-- The finds whose targets have not been seen before. -/
def firstFinds : List String → List FoundImport → List FoundImport
  | _, [] => []
  | seen, f :: rest =>
    if seen.contains f.target then firstFinds seen rest
    else f :: firstFinds (f.target :: seen) rest

variable {seen : List String} {f g : FoundImport}

theorem firsts_map (seen : List String) (found : List FoundImport) :
    firsts seen (found.map FoundImport.target) =
      (firstFinds seen found).map FoundImport.target := by
  induction found generalizing seen with
  | nil => rfl
  | cons f rest ih =>
    rw [List.map_cons, firsts, firstFinds]
    split
    · exact ih seen
    · rw [List.map_cons, ih]

theorem firstFinds_sublist (seen : List String) (found : List FoundImport) :
    (firstFinds seen found).Sublist found := by
  induction found generalizing seen with
  | nil => exact .refl []
  | cons f rest ih =>
    rw [firstFinds]
    split
    · exact (ih seen).cons f
    · exact (ih (f.target :: seen)).cons_cons f

theorem not_mem_of_mem_firstFinds (h : f ∈ firstFinds seen found) : f.target ∉ seen := by
  induction found generalizing seen with
  | nil => cases h
  | cons f' rest ih =>
    rw [firstFinds] at h
    split at h
    next => exact ih h
    next hnew =>
      rcases List.mem_cons.1 h with rfl | h
      · simpa using hnew
      · exact fun hseen => ih h (List.mem_cons_of_mem _ hseen)

theorem nodup_firstFinds (seen : List String) (found : List FoundImport) :
    ((firstFinds seen found).map FoundImport.target).Nodup := by
  induction found generalizing seen with
  | nil => exact .nil
  | cons f rest ih =>
    rw [firstFinds]
    split
    · exact ih seen
    · rw [List.map_cons, List.nodup_cons]
      refine ⟨fun hmem => ?_, ih (f.target :: seen)⟩
      obtain ⟨g, hg, heq⟩ := List.mem_map.1 hmem
      exact not_mem_of_mem_firstFinds hg (heq ▸ List.mem_cons_self)

theorem exists_firstFind (hf : f ∈ found) (hnew : f.target ∉ seen) :
    ∃ g ∈ firstFinds seen found, g.target = f.target := by
  induction found generalizing seen with
  | nil => cases hf
  | cons f' rest ih =>
    rw [firstFinds]
    by_cases hsame : f.target = f'.target
    · rw [if_neg (by rwa [← hsame, List.contains_iff_mem])]
      exact ⟨f', List.mem_cons_self, hsame.symm⟩
    · have hf : f ∈ rest := (List.mem_cons.1 hf).resolve_left fun h => hsame (h ▸ rfl)
      split
      · exact ih hf hnew
      · obtain ⟨g, hg, heq⟩ := ih hf (List.not_mem_cons_of_ne_of_not_mem hsame hnew)
        exact ⟨g, List.mem_cons_of_mem f' hg, heq⟩

/-- Among finds in order, a target is first found where it stands first. -/
theorem firstFinds_least (hsorted : found.Pairwise fun f g => f.offset ≤ g.offset)
    (hf : f ∈ firstFinds seen found) (hg : g ∈ found) (heq : g.target = f.target) :
    f.offset ≤ g.offset := by
  induction found generalizing seen with
  | nil => cases hg
  | cons f' rest ih =>
    obtain ⟨hhead, hrest⟩ := List.pairwise_cons.1 hsorted
    have hnew := not_mem_of_mem_firstFinds hf
    rw [firstFinds] at hf
    split at hf
    next hseen =>
      rcases List.mem_cons.1 hg with rfl | hg
      · -- the target of the head has been seen, so it is not that of a find that is kept
        rw [heq, List.contains_iff_mem] at hseen
        exact absurd hseen hnew
      · exact ih hrest hf hg
    next =>
      rcases List.mem_cons.1 hf with rfl | hf
      · rcases List.mem_cons.1 hg with rfl | hg
        · exact Nat.le_refl _
        · exact hhead g hg
      · rcases List.mem_cons.1 hg with rfl | hg
        · exact absurd (heq ▸ List.mem_cons_self) (not_mem_of_mem_firstFinds hf)
        · exact ih hrest hf hg

/-! ## The list of imports -/

theorem sorted_finds (found : List FoundImport) :
    (found.mergeSort fun a b => a.offset ≤ b.offset).Pairwise fun f g => f.offset ≤ g.offset := by
  refine (List.pairwise_mergeSort ?_ ?_ found).imp of_decide_eq_true
  · intro f g h hfg hgh
    exact decide_eq_true (Nat.le_trans (of_decide_eq_true hfg) (of_decide_eq_true hgh))
  · intro f g
    simpa using Nat.le_total f.offset g.offset

/-- Places go up with the offsets of finds and tell different finds apart. -/
structure Follows (place : FoundImport → Nat) (found : List FoundImport) : Prop where
  mono : ∀ f ∈ found, ∀ g ∈ found, f.offset ≤ g.offset → place f ≤ place g
  apart : ∀ f ∈ found, ∀ g ∈ found, place f = place g → f = g

theorem Follows.congr (h : Follows place found) (hsame : ∀ f, f ∈ found ↔ f ∈ found') :
    Follows place found' where
  mono := by simpa only [hsame] using h.mono
  apart := by simpa only [hsame] using h.apart

theorem lists_firstFinds (hsorted : found.Pairwise fun f g => f.offset ≤ g.offset)
    (hplace : Follows place found) :
    Lists place found ((firstFinds [] found).map FoundImport.target) := by
  have hsublist := firstFinds_sublist [] found
  have hnodup := nodup_firstFinds [] found
  have hfirst {f : FoundImport} (hf : f ∈ firstFinds [] found) :
      FirstAt place found f.target (place f) := by
    have hmem := hsublist.subset hf
    refine ⟨⟨f, hmem, rfl, rfl⟩, ?_⟩
    rintro n ⟨g, hg, heq, rfl⟩
    exact hplace.mono f hmem g hg (firstFinds_least hsorted hf hg heq)
  refine ⟨hnodup, fun t => ?_, List.pairwise_map.2 ?_⟩
  · rw [List.mem_map]
    constructor
    · rintro ⟨f, hf, rfl⟩
      exact ⟨f, hsublist.subset hf, rfl⟩
    · rintro ⟨f, hf, rfl⟩
      exact exists_firstFind hf List.not_mem_nil
  · refine ((hsorted.sublist hsublist).and (List.pairwise_map.1 hnodup)).imp_of_mem ?_
    rintro f g hf hg ⟨hle, hne⟩
    have hf' := hsublist.subset hf
    have hg' := hsublist.subset hg
    refine ⟨place f, place g, hfirst hf, hfirst hg, ?_⟩
    refine Nat.lt_of_le_of_ne (hplace.mono f hf' g hg' hle) fun heq => hne ?_
    rw [hplace.apart f hf' g hg' heq]

theorem lists_inOrder (hplace : Follows place found) : Lists place found (inOrder found) := by
  have hsame (f : FoundImport) :
      f ∈ found.mergeSort (fun a b => a.offset ≤ b.offset) ↔ f ∈ found := List.mem_mergeSort
  rw [inOrder, firsts_map]
  exact (lists_firstFinds (sorted_finds found)
    (hplace.congr fun f => (hsame f).symm)).congr hsame

/-- A list of the finds that is in order settles the imports. -/
theorem inOrder_eq_firsts (hplace : Follows place found)
    (hsorted : found'.Pairwise fun f g => f.offset ≤ g.offset) (hsame : ∀ f, f ∈ found ↔ f ∈ found') :
    inOrder found = firsts [] (found'.map FoundImport.target) := by
  rw [firsts_map]
  exact ((lists_inOrder hplace).congr hsame).unique
    (lists_firstFinds hsorted (hplace.congr hsame))

theorem firsts_eq_eraseDups (seen targets : List String) :
    firsts seen targets = (targets.filter fun t => !seen.contains t).eraseDups := by
  induction targets generalizing seen with
  | nil => rfl
  | cons t rest ih =>
    rw [firsts]
    split
    next hseen => rw [ih, List.filter_cons_of_neg (by simpa using hseen)]
    next hnew =>
      rw [ih, List.filter_cons_of_pos (by simpa using hnew), List.eraseDups_cons, List.filter_filter]
      congr 2
      apply List.filter_congr
      intro u _
      rw [List.contains_cons, Bool.not_or]

/-! ## Places in bytes -/

/-- Where a find starts among the bytes of a text. -/
def startByte (content : String) (f : FoundImport) : Nat :=
  (String.ofList (content.toList.take f.offset)).utf8ByteSize

theorem utf8ByteSize_take_lt {chars : List Char} {m n : Nat} (h : m < n) (hn : n ≤ chars.length) :
    (String.ofList (chars.take m)).utf8ByteSize < (String.ofList (chars.take n)).utf8ByteSize := by
  obtain ⟨k, rfl⟩ := Nat.exists_eq_add_of_lt h
  have hsize := length_le_utf8ByteSize (String.ofList ((chars.drop m).take (k + 1)))
  rw [String.toList_ofList, List.length_take, List.length_drop] at hsize
  rw [Nat.add_assoc, List.take_add, String.ofList_append, String.utf8ByteSize_append]
  omega

variable {content : String}

theorem startByte_lt (hg : g.StandsIn content.toList) (h : f.offset < g.offset) :
    startByte content f < startByte content g := by
  obtain ⟨before, after, htext, hoffset⟩ := hg
  refine utf8ByteSize_take_lt h ?_
  rw [htext, hoffset, List.append_assoc, List.length_append]
  exact Nat.le_add_right _ _

theorem follows_startByte (h : Placed content.toList found) :
    Follows (startByte content) found where
  mono f hf g hg hle := by
    rcases Nat.lt_or_eq_of_le hle with hlt | heq
    · exact Nat.le_of_lt (startByte_lt (h.stands g hg) hlt)
    · rw [h.apart f hf g hg heq]
  apart f hf g hg heq := by
    rcases Nat.lt_trichotomy f.offset g.offset with hlt | hsame | hlt
    · exact absurd heq (Nat.ne_of_lt (startByte_lt (h.stands g hg) hlt))
    · exact h.apart f hf g hg hsame
    · exact absurd heq (Nat.ne_of_gt (startByte_lt (h.stands f hf) hlt))

end Imports

open Imports

/-- Every find stands in the text from its first byte on, and the imports of a file list the
targets of the finds, in whatever order these were collected. -/
theorem findImports_lists (content filename : String) :
    let found := foundIn content.toList (.ofFilename filename)
    (∀ f ∈ found, ∃ before after, content = before ++ f.target ++ after ∧
      f.offset = before.length ∧ startByte content f = before.utf8ByteSize) ∧
    Lists (startByte content) found (findImports content filename) ∧
    ∀ found', found'.Perm found → inOrder found' = findImports content filename := by
  intro found
  have hplaced : Placed content.toList found := placed_foundIn content.toList (.ofFilename filename)
  have hfollows := follows_startByte hplaced
  refine ⟨fun f hf => ?_, lists_inOrder hfollows, fun found' hperm => ?_⟩
  · obtain ⟨before, after, htext, hoffset⟩ := hplaced.stands f hf
    refine ⟨String.ofList before, String.ofList after, ?_, ?_, ?_⟩
    · rw [← String.toList_inj, htext]
      simp
    · rw [hoffset, String.length_ofList]
    · rw [startByte, htext, hoffset, List.append_assoc, List.take_left]
  · have hsame (f : FoundImport) : f ∈ found' ↔ f ∈ found := hperm.mem_iff
    have hlists := lists_inOrder (hfollows.congr fun f => (hsame f).symm)
    exact (hlists.congr hsame).unique (lists_inOrder hfollows)

example : findImports "require('a'); import 'b'; export * from 'a'" "x.js" = ["a", "b"] := by cbv

end CodeSurvey
