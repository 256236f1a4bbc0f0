import CodeSurvey.References.TextCalls
import CodeSurvey.References.Usages

/-!
# References in texts

What is counted line by line: the lines of calls and of uses are in order and lie within the text,
and every counted call has its site and every counted line some use.
-/

namespace CodeSurvey.References
open Text

/-! ## Numbered lines -/

theorem zipIdx_increase {α : Type} (xs : List α) : xs.zipIdx.Pairwise fun x y => x.2 < y.2 := by
  rw [← List.pairwise_map (f := Prod.snd) (R := (· < ·)), List.zipIdx_map_snd]
  exact List.pairwise_lt_range'

theorem siteLines_sorted (counts : List Nat) : (siteLines counts).Pairwise (· ≤ ·) := by
  rw [siteLines, List.pairwise_flatMap]
  constructor
  · intro x _
    exact List.pairwise_replicate.2 (.inr (Nat.le_refl _))
  · refine (zipIdx_increase counts).imp fun {x y} hlt a ha b hb => ?_
    have ha' := List.eq_of_mem_replicate ha
    have hb' := List.eq_of_mem_replicate hb
    omega

theorem mem_siteLines {counts : List Nat} {l : Nat} (h : l ∈ siteLines counts) :
    1 ≤ l ∧ l ≤ counts.length := by
  obtain ⟨⟨n, i⟩, hx, hl⟩ := List.mem_flatMap.1 h
  have hi := List.snd_lt_of_mem_zipIdx hx
  have hl' := List.eq_of_mem_replicate hl
  dsimp only at hi hl'
  omega

theorem siteLines_eq_nil_iff {counts : List Nat} : siteLines counts = [] ↔ ∀ n ∈ counts, n = 0 := by
  rw [siteLines, List.flatMap_eq_nil_iff]
  constructor
  · intro h n hn
    rw [← List.zipIdx_map_fst 0 counts] at hn
    obtain ⟨⟨n, i⟩, hx, rfl⟩ := List.mem_map.1 hn
    simpa using h ⟨n, i⟩ hx
  · rintro h ⟨n, i⟩ hx
    have hn : n ∈ counts := by
      rw [← List.zipIdx_map_fst 0 counts]
      exact List.mem_map_of_mem hx
    simp [h n hn]

/-! ## Calls -/

theorem find?_callsInText (content : String) (known : List String) (name : String) :
    (callsInText content known).find? name =
      if name ∈ known ∧ 0 < (edgeOfText (lines content.toList) name).totalCalls then
        some (edgeOfText (lines content.toList) name)
      else none := by
  have h := SortedMap.find?_foldl_insert (fun e : CallEdge => decide (e.totalCalls > 0))
    (edgeOfText (lines content.toList)) known ∅ name
  simpa [callsInText] using h

variable {ls : List (List Char)} {name : String}

theorem edgeOfText_totalCalls :
    (edgeOfText ls name).totalCalls = (edgeOfText ls name).callSites.length := rfl

theorem edgeOfText_lines : (edgeOfText ls name).callSites.map CallSite.line =
    siteLines (ls.map (callsOnLine name.toList)) := by
  simp [edgeOfText, Function.comp_def]

theorem edgeOfText_totalCalls_eq_zero_iff : (edgeOfText ls name).totalCalls = 0 ↔
    ∀ l ∈ ls, callsOnLine name.toList l = 0 := by
  have hlines := congrArg List.length (@edgeOfText_lines ls name)
  rw [List.length_map] at hlines
  rw [edgeOfText_totalCalls, hlines, List.length_eq_zero_iff, siteLines_eq_nil_iff,
    List.forall_mem_map]

theorem edgeOfText_eq_empty (h : (edgeOfText ls name).totalCalls = 0) :
    edgeOfText ls name = ⟨0, []⟩ := by
  have hsites : (edgeOfText ls name).callSites = [] :=
    List.length_eq_zero_iff.1 (edgeOfText_totalCalls.symm.trans h)
  rw [← h, ← hsites]

theorem edgeOfText_callers {s : CallSite} (h : s ∈ (edgeOfText ls name).callSites) :
    s.caller = none := by
  obtain ⟨l, _, rfl⟩ := List.mem_map.1 h
  rfl

theorem edgeOfText_sorted :
    ((edgeOfText ls name).callSites.map CallSite.line).Pairwise (· ≤ ·) := by
  rw [edgeOfText_lines]
  exact siteLines_sorted _

theorem edgeOfText_within {l : Nat} (h : l ∈ (edgeOfText ls name).callSites.map CallSite.line) :
    1 ≤ l ∧ l ≤ ls.length := by
  rw [edgeOfText_lines] at h
  have hl := mem_siteLines h
  rwa [List.length_map] at hl

/-! ## Uses -/

theorem find?_findUsages (content : String) (names : List String) (name : String) :
    (findUsages content names).find? name =
      if name ∈ names ∧ 0 < (usageOfText (lines content.toList) name).total then
        some (usageOfText (lines content.toList) name)
      else none := by
  have h := SortedMap.find?_foldl_insert (fun e : UsageEntry => decide (e.total > 0))
    (usageOfText (lines content.toList)) names ∅ name
  simpa [findUsages] using h

def usedLine? (x : Nat × Nat) : Option Nat := if x.1 > 0 then some (x.2 + 1) else none

theorem usedLine?_eq_some {x : Nat × Nat} {l : Nat} :
    usedLine? x = some l ↔ 0 < x.1 ∧ x.2 + 1 = l := by
  rw [usedLine?]
  by_cases h : x.1 > 0
  · simp [h]
  · simp [h]

theorem usageOfText_lines : (usageOfText ls name).lines =
    (ls.map (usesOnLine name.toList)).zipIdx.filterMap usedLine? := rfl

theorem usageOfText_total_eq_zero_iff :
    (usageOfText ls name).total = 0 ↔ ∀ l ∈ ls, usesOnLine name.toList l = 0 := by
  have hsum (counts : List Nat) : counts.foldr (· + ·) 0 = 0 ↔ ∀ n ∈ counts, n = 0 := by
    induction counts with
    | nil => simp
    | cons n counts ih => simp [ih]
  rw [usageOfText, hsum, List.forall_mem_map]

theorem usageOfText_increase : (usageOfText ls name).lines.Pairwise (· < ·) := by
  rw [usageOfText_lines]
  refine (zipIdx_increase _).filterMap _ fun x y hlt a ha b hb => ?_
  have ha' := (usedLine?_eq_some.1 ha).2
  have hb' := (usedLine?_eq_some.1 hb).2
  omega

theorem usageOfText_within {l : Nat} (h : l ∈ (usageOfText ls name).lines) :
    1 ≤ l ∧ l ≤ ls.length := by
  rw [usageOfText_lines] at h
  obtain ⟨x, hx, hl⟩ := List.mem_filterMap.1 h
  have hi := List.snd_lt_of_mem_zipIdx hx
  have hl' := (usedLine?_eq_some.1 hl).2
  rw [List.length_map] at hi
  omega

theorem length_filterMap_usedLine?_le (counts : List Nat) (k : Nat) :
    ((counts.zipIdx k).filterMap usedLine?).length ≤ counts.foldr (· + ·) 0 := by
  induction counts generalizing k with
  | nil => exact Nat.le_refl 0
  | cons n counts ih =>
    have hrest := ih (k + 1)
    rw [List.zipIdx_cons, List.filterMap_cons, List.foldr_cons]
    cases hn : usedLine? (n, k) with
    | none =>
      dsimp only
      omega
    | some l =>
      have hpos := (usedLine?_eq_some.1 hn).1
      rw [List.length_cons]
      omega

theorem usageOfText_lines_le : (usageOfText ls name).lines.length ≤ (usageOfText ls name).total :=
  length_filterMap_usedLine?_le _ 0

theorem usageOfText_eq_empty (h : (usageOfText ls name).total = 0) :
    usageOfText ls name = ⟨0, []⟩ := by
  have hle := @usageOfText_lines_le ls name
  have hlines : (usageOfText ls name).lines = [] := List.length_eq_zero_iff.1 (by omega)
  rw [← h, ← hlines]

end CodeSurvey.References
