import CodeSurvey.Proofs.Findings.Conditions
import CodeSurvey.Proofs.JoinedTexts
import CodeSurvey.Proofs.Text.Chains
import Mathlib.Algebra.BigOperators.Ring.List
import Mathlib.Algebra.Order.BigOperators.Group.List
import Mathlib.Algebra.Order.Group.Nat
import Mathlib.Algebra.Ring.Nat

/-!
# Decision points

The decision points of a text are the matches of eight patterns that are looked for apart from one
another. Each pattern takes as many matches as there is room for, so joined texts have no fewer; and
each match holds two characters that no match of another pattern holds, so there are at most half as
many decision points as characters.
-/

namespace CodeSurvey.BranchCounts
open Text Text.Pattern References

/-! ## Patterns and their signs -/

/-- The patterns whose matches are decision points, each with its signs: of these characters a match
has at least two. -/
def decisions : List (Pattern × String) := [
  (conditionPattern "if", "if"),
  (conditionPattern "while", "wh"),
  (conditionPattern "for", "or"),
  (casePattern, "as"),
  (conditionPattern "catch", "ct"),
  (conditionalPattern, "?:"),
  (exactly "&&", "&"),
  (exactly "||", "|")]

theorem decisionPoints_scan (content : String) : (scan content).decisionPoints =
    (decisions.map fun d => d.1.count content.toList).sum := by
  have hle := count_elseIfPattern_le content.toList
  simp only [decisionPoints, scan, scanChars, decisions, List.map_cons, List.map_nil,
    List.sum_cons, List.sum_nil]
  omega

/-- A prompt pattern that reads two of its signs whenever it reads. -/
structure Decides (p : Pattern) (signs : List Char) : Prop where
  prompt : p.Prompt
  two_signs : ∀ {before chars after : List Char}, p.Reads before chars after →
    2 ≤ chars.countP (· ∈ signs)

variable {p : Pattern} {signs : List Char}

theorem Decides.readsSome (h : Decides p signs) : p.ReadsSome := by
  rintro before chars after hreads rfl
  have hsigns := h.two_signs hreads
  simp at hsigns

/-! ## Each pattern by itself -/

section Patterns
variable {before chars after : List Char}

theorem decides_conditionPattern {keyword : String} (hkeyword : isIdentifier keyword.toList)
    (hsigns : 2 ≤ keyword.toList.countP (· ∈ signs)) : Decides (conditionPattern keyword) signs := by
  obtain ⟨c, hstarts⟩ := startsWord_conditionPattern hkeyword
  constructor
  · exact hstarts.prompt
  · intro before chars after hreads
    obtain ⟨-, gap, rfl, -⟩ := reads_conditionPattern.1 hreads
    rw [List.countP_append]
    exact hsigns.trans (Nat.le_add_right _ _)

theorem reads_casePattern : casePattern.Reads before chars after ↔
    isWordAt before.getLast? ≠ isWordAt (chars ++ after).head? ∧
    ∃ gap, chars = "case".toList ++ gap ∧ gap.all isSpace ∧ gap ≠ [] := by
  rw [casePattern, reads_wordEdge, reads_all_cons]
  apply and_congr Iff.rfl
  constructor
  · rintro ⟨word, gap, rfl, hword, hgap⟩
    obtain rfl := reads_exactly.1 hword
    exact ⟨gap, rfl, reads_someSpace.1 hgap⟩
  · rintro ⟨gap, rfl, hgap⟩
    exact ⟨_, gap, rfl, reads_exactly.2 rfl, reads_someSpace.2 hgap⟩

theorem startsWord_casePattern : casePattern.StartsWord 'c' := by
  constructor
  · decide
  · intro before chars after hreads
    obtain ⟨hedge, gap, rfl, -⟩ := reads_casePattern.1 hreads
    have hc : isWordAt (some 'c') := by decide
    simpa [hc] using hedge
  · intro before chars after hreads
    obtain ⟨-, gap, rfl, hgap, -⟩ := reads_casePattern.1 hreads
    have hword : "ase".toList.all isWord := by decide
    refine ⟨"ase".toList, gap, rfl, List.all_eq_true.1 hword, fun hc => ?_⟩
    have hspace := isWord_of_all_isSpace hgap 'c' hc
    revert hspace
    decide

theorem decides_casePattern : Decides casePattern "as".toList := by
  constructor
  · exact startsWord_casePattern.prompt
  · intro before chars after hreads
    obtain ⟨-, gap, rfl, -⟩ := reads_casePattern.1 hreads
    rw [List.countP_append]
    exact Nat.le_trans (by decide) (Nat.le_add_right _ _)

/-- A conditional ends at the first colon after its question mark. -/
theorem conditional_of_reads (h : conditionalPattern.Reads before chars after) :
    ∃ body, chars = '?' :: (body ++ [':']) ∧ ':' ∉ body := by
  obtain ⟨mark, xs, rfl, hmark, h⟩ := reads_all_cons.1 h
  obtain ⟨gap, ys, rfl, hgap, h⟩ := reads_all_cons.1 h
  obtain ⟨line, zs, rfl, hline, h⟩ := reads_all_cons.1 h
  obtain ⟨gap', colon, rfl, hgap', hcolon⟩ := reads_all_cons.1 h
  obtain rfl := reads_exactly.1 hmark
  obtain rfl := reads_exactly.1 hcolon
  have hspace {xs : List Char} (hxs : xs.all isSpace) : ':' ∉ xs := fun hmem => by
    have hcolon := List.all_eq_true.1 hxs ':' hmem
    revert hcolon
    decide
  have hnone : ':' ∉ line := fun hmem => by
    have hcolon := List.all_eq_true.1 hline.1 ':' hmem
    revert hcolon
    decide
  refine ⟨gap ++ line ++ gap', by simp, ?_⟩
  simp [hspace (reads_spaces.1 hgap), hspace (reads_spaces.1 hgap'), hnone]

theorem decides_conditionalPattern : Decides conditionalPattern "?:".toList := by
  constructor
  · intro before gap inner xs ys after after' hreads hinner hys
    obtain ⟨body, hchars, hbody⟩ := conditional_of_reads hreads
    obtain ⟨body', rfl, -⟩ := conditional_of_reads hinner
    -- the colon of the inner conditional would have ended the outer one
    have hinit : gap ++ '?' :: (body' ++ [':']) ++ xs ++ ys.dropLast = '?' :: body := by
      rw [← List.dropLast_append_of_ne_nil hys, hchars, ← List.cons_append, List.dropLast_concat]
    have hmem : ':' ∈ '?' :: body := by
      rw [← hinit]
      simp
    exact absurd hmem (by simp [hbody])
  · intro before chars after hreads
    obtain ⟨body, rfl, -⟩ := conditional_of_reads hreads
    simp

theorem decides_exactly {text : String} (hlength : text.toList.length = 2)
    (hsigns : 2 ≤ text.toList.countP (· ∈ signs)) : Decides (exactly text) signs := by
  constructor
  · intro before gap inner xs ys after after' hreads hinner hys
    have houter := congrArg List.length (reads_exactly.1 hreads)
    have hlength' := congrArg List.length (reads_exactly.1 hinner)
    have hpos := List.length_pos_iff.2 hys
    simp only [List.length_append] at houter
    omega
  · intro before chars after hreads
    obtain rfl := reads_exactly.1 hreads
    exact hsigns

end Patterns

theorem decides_of_mem : ∀ d ∈ decisions, Decides d.1 d.2.toList := by
  simp only [decisions, List.forall_mem_cons]
  refine ⟨?_, ?_, ?_, ?_, ?_, ?_, ?_, ?_, fun d hd => nomatch hd⟩
  · exact decides_conditionPattern (by decide) (by decide)
  · exact decides_conditionPattern (by decide) (by decide)
  · exact decides_conditionPattern (by decide) (by decide)
  · exact decides_casePattern
  · exact decides_conditionPattern (by decide) (by decide)
  · exact decides_conditionalPattern
  · exact decides_exactly (by decide) (by decide)
  · exact decides_exactly (by decide) (by decide)

/-! ## All patterns together -/

theorem decisionPoints_joinTexts_le (a b : String) :
    (scan a).decisionPoints + (scan b).decisionPoints ≤ (scan (joinTexts a b)).decisionPoints := by
  have hjoined : (joinTexts a b).toList = a.toList ++ '\n' :: b.toList := by simp [joinTexts]
  rw [decisionPoints_scan, decisionPoints_scan, decisionPoints_scan, ← List.sum_map_add, hjoined]
  apply List.sum_le_sum
  intro d hd
  have hdecides := decides_of_mem d hd
  exact count_join_le hdecides.readsSome hdecides.prompt a.toList b.toList

/-- A character is of one kind at most, if no two kinds have one in common. -/
theorem sum_countP_le {kinds : List (List Char)} (h : kinds.flatten.Nodup) (text : List Char) :
    (kinds.map fun kind => text.countP (· ∈ kind)).sum ≤ text.length := by
  induction text with
  | nil => simp
  | cons c text ih =>
    have hone : (kinds.map fun kind => if c ∈ kind then 1 else 0).sum ≤ 1 := by
      calc (kinds.map fun kind => if c ∈ kind then 1 else 0).sum
          ≤ (kinds.map (List.count c)).sum := by
            apply List.sum_le_sum
            intro kind _
            split
            next hmem => exact List.count_pos_iff.2 hmem
            next => exact Nat.zero_le _
        _ = kinds.flatten.count c := List.count_flatten.symm
        _ ≤ 1 := List.nodup_iff_count_le_one.1 h c
    simp only [List.countP_cons, decide_eq_true_eq, List.sum_map_add, List.length_cons]
    omega

theorem two_mul_decisionPoints_le (content : String) :
    2 * (scan content).decisionPoints ≤ content.toList.length := by
  have hdistinct : (decisions.map fun d => d.2.toList).flatten.Nodup := by decide
  calc 2 * (scan content).decisionPoints
      = (decisions.map fun d => 2 * d.1.count content.toList).sum := by
        rw [decisionPoints_scan, List.sum_map_mul_left]
    _ ≤ (decisions.map fun d => content.toList.countP (· ∈ d.2.toList)).sum := by
        apply List.sum_le_sum
        intro d hd
        have hdecides := decides_of_mem d hd
        exact (chains_count hdecides.readsSome content.toList).mul_le_countP hdecides.two_signs
    _ ≤ content.toList.length := by
        have hle := sum_countP_le hdistinct content.toList
        rwa [List.map_map] at hle

end CodeSurvey.BranchCounts
