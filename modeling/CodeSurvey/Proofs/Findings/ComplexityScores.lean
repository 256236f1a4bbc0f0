import CodeSurvey.Proofs.Findings.DecisionPoints
import CodeSurvey.Proofs.Text.ByteOrder

/-!
# Complexity scores

The complexity of a text is a machine word. It is one more than the decision points as long as these
fit, which they do in any text of less than four gigabytes. Then what is added to a text never makes
it less complex.
-/

namespace CodeSurvey
open BranchCounts Text

/-! ## Exact scores -/

/-- One more than the decision points fits a machine word. -/
def BranchCounts.Fits (c : BranchCounts) : Prop := 1 + c.decisionPoints < 2 ^ 31

theorem BranchCounts.Fits.toInt_ofNat {c : BranchCounts} (h : c.Fits) :
    (Int32.ofNat c.decisionPoints).toInt = c.decisionPoints :=
  Int32.toInt_ofNat_of_lt (Nat.lt_of_le_of_lt (Nat.le_add_left _ 1) h)

theorem BranchCounts.Fits.toInt_cyclomatic {c : BranchCounts} (h : c.Fits) :
    c.cyclomatic.toInt = 1 + c.decisionPoints := by
  have hadd : c.cyclomatic = Int32.ofNat (1 + c.decisionPoints) := (Int32.ofNat_add 1 _).symm
  rw [hadd, Int32.toInt_ofNat_of_lt h, Int.natCast_add]
  rfl

theorem toInt_complexityOf {content : String} (h : (scan content).Fits) :
    (complexityOf content).toInt =
      (if content = "" then 0 else 1 + (scan content).decisionPoints : Nat) := by
  rw [complexityOf]
  by_cases hempty : content = ""
  · rw [if_pos hempty, if_pos (String.isEmpty_iff.2 hempty)]
    rfl
  · rw [if_neg hempty, if_neg (mt String.isEmpty_iff.1 hempty), h.toInt_cyclomatic,
      Int.natCast_add]
    rfl

/-! ## Levels -/

/-- Levels are ordered from low to high. -/
def ComplexityLevel.rank (level : ComplexityLevel) : Nat := all.idxOf level

theorem ComplexityLevel.rank_classify_mono {score score' : Int32} (h : score ≤ score')
    (t : ComplexityThresholds) : (classify score t).rank ≤ (classify score' t).rank := by
  rw [classify, classify]
  by_cases hhigh : score > t.high
  · rw [if_pos hhigh, if_pos (Int32.lt_of_lt_of_le hhigh h)]
  · rw [if_neg hhigh]
    by_cases hmedium : score > t.medium
    · rw [if_pos hmedium, if_pos (Int32.lt_of_lt_of_le hmedium h)]
      split <;> decide
    · rw [if_neg hmedium]
      exact Nat.zero_le _

/-! ## Adding to a text -/

/-- A text that a line feed joins of two has all the decision points of both, so that neither is
more complex than the whole. -/
theorem joined_complexity (a b : String) :
    (scan a).decisionPoints + (scan b).decisionPoints ≤ (scan (joinTexts a b)).decisionPoints ∧
    ((scan (joinTexts a b)).Fits → ∀ part ∈ [a, b],
      complexityOf part ≤ complexityOf (joinTexts a b) ∧
      ∀ t : ComplexityThresholds, (ComplexityScore.ofContent part t).level.rank ≤
        (ComplexityScore.ofContent (joinTexts a b) t).level.rank) := by
  have hsum := decisionPoints_joinTexts_le a b
  refine ⟨hsum, fun hfits part hpart => ?_⟩
  have hle : (scan part).decisionPoints ≤ (scan (joinTexts a b)).decisionPoints := by
    rcases List.mem_pair.1 hpart with rfl | rfl <;> omega
  have hjoined : joinTexts a b ≠ "" := by
    intro hempty
    have hlines := congrArg String.toList hempty
    simp [joinTexts] at hlines
  have hpartFits : (scan part).Fits := Nat.lt_of_le_of_lt (Nat.add_le_add_left hle 1) hfits
  have hscore : complexityOf part ≤ complexityOf (joinTexts a b) := by
    rw [Int32.le_iff_toInt_le, toInt_complexityOf hpartFits, toInt_complexityOf hfits,
      if_neg hjoined]
    split <;> omega
  exact ⟨hscore, fun t => ComplexityLevel.rank_classify_mono hscore t⟩

/-- The question mark at the end of the first text takes the colon of the second. -/
theorem joined_complexity_conditional :
    let joined := joinTexts "if (a) b ?" "c ? d : e"
    (scan joined).Fits ∧ "c ? d : e" ∈ ["if (a) b ?", "c ? d : e"] ∧
    (complexityOf "c ? d : e").toInt = 2 ∧ (complexityOf joined).toInt = 3 ∧
    (ComplexityScore.ofContent "c ? d : e" ⟨2, 4⟩).level.rank ≤
      (ComplexityScore.ofContent joined ⟨2, 4⟩).level.rank := by
  intro joined
  have hfits : (scan joined).Fits := by
    rw [Fits]
    decide +kernel
  have hpart : "c ? d : e" ∈ ["if (a) b ?", "c ? d : e"] := by simp
  have hlevels := ((joined_complexity "if (a) b ?" "c ? d : e").2 hfits _ hpart).2
  refine ⟨hfits, hpart, ?_, ?_, hlevels ⟨2, 4⟩⟩
  · decide +kernel
  · decide +kernel

/-! ## Bounds -/

/-- A text has at most half as many decision points as bytes, so that its complexity is exact if it
has less than four gigabytes. -/
theorem complexity_within_bytes (content : String) :
    (scan content).decisionPoints ≤ content.utf8ByteSize / 2 ∧
    (content ≠ "" → content.utf8ByteSize ≤ 2 ^ 32 - 4 →
      (Int32.ofNat (scan content).decisionPoints).toInt = (scan content).decisionPoints ∧
      (scan content).cyclomatic.toInt = 1 + (scan content).decisionPoints ∧
      1 ≤ (complexityOf content).toInt ∧
      (complexityOf content).toInt ≤ 1 + (content.utf8ByteSize / 2 : Nat)) := by
  have hsigns := two_mul_decisionPoints_le content
  have hbytes := length_le_utf8ByteSize content
  have hhalf : (scan content).decisionPoints ≤ content.utf8ByteSize / 2 := by omega
  refine ⟨hhalf, fun hne hsize => ?_⟩
  have hfits : (scan content).Fits := by
    rw [Fits]
    omega
  have hscore := toInt_complexityOf hfits
  rw [if_neg hne] at hscore
  refine ⟨hfits.toInt_ofNat, hfits.toInt_cyclomatic, ?_, ?_⟩
  · omega
  · omega

/-- In this text every other character starts a match. -/
theorem complexity_within_bytes_ampersands :
    "&&||&&" ≠ "" ∧ "&&||&&".utf8ByteSize ≤ 2 ^ 32 - 4 ∧
    (complexityOf "&&||&&").toInt = 1 + ("&&||&&".utf8ByteSize / 2 : Nat) ∧
    (complexityOf "&&||&&").toInt ≤ 1 + ("&&||&&".utf8ByteSize / 2 : Nat) := by
  have hne : "&&||&&" ≠ "" := by decide
  have hsize : "&&||&&".utf8ByteSize ≤ 2 ^ 32 - 4 := by decide
  refine ⟨hne, hsize, ?_, ((complexity_within_bytes "&&||&&").2 hne hsize).2.2.2⟩
  decide +kernel

end CodeSurvey
