import CodeSurvey.Proofs.JoinedTexts
import CodeSurvey.Proofs.Score.SummedScores

/-!
# Scores counted with care

Points are added up in machine words. Counted with every step checked, the score of some files comes
out just if their exact penalty fits a word. Then it lies between nothing and a hundred, and more
findings never make for a better grade. Unchecked, the words wrap around: a file with enough risky
lines scores far above a hundred.
-/

namespace CodeSurvey
open Penalty

/-! ## Checked words -/

/-- The sum of two words, if it is a word. -/
def addChecked (a b : Int32) : Option Int32 :=
  if (a + b).toInt = a.toInt + b.toInt then some (a + b) else none

/-- The difference of two words, if it is a word. -/
def subChecked (a b : Int32) : Option Int32 :=
  if (a - b).toInt = a.toInt - b.toInt then some (a - b) else none

theorem toInt_add_eq_iff {a b : Int32} (ha : 0 ≤ a.toInt) (hb : 0 ≤ b.toInt) :
    (a + b).toInt = a.toInt + b.toInt ↔ a.toInt + b.toInt < 2 ^ 31 := by
  constructor
  · intro h
    have hword := Int32.toInt_lt (a + b)
    omega
  · intro h
    rw [Int32.toInt_add, Int.bmod_eq_of_le (by omega) (by omega)]

theorem addChecked_of_nonneg {a b : Int32} (ha : 0 ≤ a.toInt) (hb : 0 ≤ b.toInt) :
    addChecked a b = if a.toInt + b.toInt < 2 ^ 31 then some (a + b) else none := by
  simp only [addChecked, toInt_add_eq_iff ha hb]

theorem toInt_ofNat_nonneg {n : Nat} (h : n < 2 ^ 31) : 0 ≤ (Int32.ofNat n).toInt := by
  rw [Int32.toInt_ofNat_of_lt h]
  omega

theorem addChecked_ofNat {m n : Nat} (hm : m < 2 ^ 31) (hn : n < 2 ^ 31) :
    addChecked (.ofNat m) (.ofNat n) = if m + n < 2 ^ 31 then some (.ofNat (m + n)) else none := by
  rw [addChecked_of_nonneg (toInt_ofNat_nonneg hm) (toInt_ofNat_nonneg hn),
    Int32.toInt_ofNat_of_lt hm, Int32.toInt_ofNat_of_lt hn, Int32.ofNat_add]
  have hcast : ((m : Int) + n < 2 ^ 31) ↔ m + n < 2 ^ 31 := by omega
  simp only [hcast]

theorem Penalty.weight_lt : ∀ p ∈ all, p.weight < 2 ^ 31 := by decide

namespace Breakdown

def addUpChecked (points : List Int32) : Option Int32 := points.foldlM addChecked 0

theorem foldlM_addChecked {points : List Int32} (h : ∀ p ∈ points, 0 ≤ p.toInt) {start : Int32}
    (hstart : 0 ≤ start.toInt) : points.foldlM addChecked start =
      if start.toInt + (points.map Int32.toInt).sum < 2 ^ 31 then
        some (points.foldl (· + ·) start) else none := by
  induction points generalizing start with
  | nil =>
    simpa using Int32.toInt_lt start
  | cons p points ih =>
    have hp := h p List.mem_cons_self
    have hpoints : ∀ q ∈ points, 0 ≤ q.toInt := fun q hq => h q (List.mem_cons_of_mem p hq)
    have hrest : 0 ≤ (points.map Int32.toInt).sum := by
      apply List.sum_nonneg
      intro n hn
      obtain ⟨q, hq, rfl⟩ := List.mem_map.1 hn
      exact hpoints q hq
    rw [List.foldlM_cons, addChecked_of_nonneg hstart hp, List.map_cons, List.sum_cons,
      List.foldl_cons]
    by_cases hsum : start.toInt + p.toInt < 2 ^ 31
    · have hexact := (toInt_add_eq_iff hstart hp).2 hsum
      rw [if_pos hsum, Option.bind_eq_bind, Option.bind_some, ih hpoints (by omega), hexact,
        Int.add_assoc]
    · rw [if_neg hsum, if_neg (by omega)]
      rfl

theorem addUpChecked_eq {points : List Int32} (h : ∀ p ∈ points, 0 ≤ p.toInt) :
    addUpChecked points =
      if (points.map Int32.toInt).sum < 2 ^ 31 then some (addUp points) else none := by
  rw [addUpChecked, foldlM_addChecked h (by decide), Int32.toInt_zero, Int.zero_add, addUp]

def chargeChecked (b : Breakdown) (p : Penalty) : Option Breakdown := do
  let points ← addChecked ((b.find? p.category).getD 0) p.points
  return b.insert p.category points

theorem getD_charged (ps : List Penalty) (p : Penalty) :
    ((ps.foldl charge ∅).find? p.category).getD 0 = Int32.ofNat (p.weight * ps.count p) := by
  rw [find?_charged]
  by_cases h : ps.count p = 0
  · simp [h]
  · simp [h]

/-- What one more penalty takes: that the points of its own kind still fit a word. -/
theorem chargeChecked_charged {ps : List Penalty} {q : Penalty}
    (hfits : q.weight * ps.count q < 2 ^ 31) : (ps.foldl charge ∅).chargeChecked q =
      if q.weight * ps.count q + q.weight < 2 ^ 31 then some ((ps.foldl charge ∅).charge q)
      else none := by
  have hcharge : (ps.foldl charge ∅).charge q = (ps.foldl charge ∅).insert q.category
      (.ofNat (q.weight * ps.count q + q.weight)) := by
    have hdefault : (default : Int32) = 0 := rfl
    rw [charge, SortedMap.update, hdefault, getD_charged, points_eq q (mem_all q), Int32.ofNat_add]
  rw [chargeChecked, getD_charged, points_eq q (mem_all q),
    addChecked_ofNat hfits (weight_lt q (mem_all q)), hcharge]
  split <;> rfl

theorem forall_fits_concat (ps : List Penalty) (q : Penalty) :
    (∀ p ∈ all, p.weight * (ps ++ [q]).count p < 2 ^ 31) ↔
      (∀ p ∈ all, p.weight * ps.count p < 2 ^ 31) ∧ q.weight * ps.count q + q.weight < 2 ^ 31 := by
  have hmine : q.weight * (ps ++ [q]).count q = q.weight * ps.count q + q.weight := by
    rw [List.count_append, List.count_singleton_self, Nat.mul_add, Nat.mul_one]
  constructor
  · intro h
    refine ⟨fun p hp => ?_, hmine ▸ h q (mem_all q)⟩
    have hle : ps.count p ≤ (ps ++ [q]).count p := (List.sublist_append_left ps [q]).count_le p
    exact Nat.lt_of_le_of_lt (Nat.mul_le_mul_left p.weight hle) (h p hp)
  · rintro ⟨h, hq⟩ p hp
    by_cases hpq : p = q
    · rwa [hpq, hmine]
    · simpa [List.count_append, List.count_singleton, Ne.symm hpq] using h p hp

/-- Penalties are charged with care just if the points of each fit a word. -/
theorem foldlM_chargeChecked (ps : List Penalty) : ps.foldlM chargeChecked ∅ =
    if ∀ p ∈ all, p.weight * ps.count p < 2 ^ 31 then some (ps.foldl charge ∅) else none := by
  induction ps using List.reverseRecOn with
  | nil => simp
  | append_singleton ps q ih =>
    rw [List.foldlM_append, ih, List.foldl_append, List.foldl_cons, List.foldl_nil]
    simp only [forall_fits_concat]
    by_cases hps : ∀ p ∈ all, p.weight * ps.count p < 2 ^ 31
    · rw [if_pos hps, Option.bind_eq_bind, Option.bind_some, List.foldlM_cons,
        chargeChecked_charged (hps q (mem_all q))]
      by_cases hq : q.weight * ps.count q + q.weight < 2 ^ 31
      · rw [if_pos hq, if_pos ⟨hps, hq⟩]
        rfl
      · rw [if_neg hq, if_neg fun h => hq h.2]
        rfl
    · rw [if_neg hps, if_neg fun h => hps h.1]
      rfl

def ofAnalysesChecked (analyses : List FileAnalysis) : Option Breakdown :=
  (analyses.flatMap Penalty.ofAnalysis).foldlM chargeChecked ∅

theorem ofAnalysesChecked_eq (files : List FileAnalysis) : ofAnalysesChecked files =
    if ∀ p ∈ all, p.exactPoints files < 2 ^ 31 then some (ofAnalyses files) else none := by
  rw [ofAnalysesChecked, foldlM_chargeChecked]
  simp only [count_penalties]
  exact if_congr Iff.rfl rfl rfl

section Values
variable {files : List FileAnalysis} (h : ∀ p ∈ all, p.exactPoints files < 2 ^ 31)
include h

theorem toInt_values : ((ofAnalyses files).values.map Int32.toInt).Perm
    (((incurred files).map (exactPoints files)).map Nat.cast) := by
  have hperm := (values_perm files).map Int32.toInt
  have hexact : (((incurred files).map (exactPoints files)).map Int32.ofNat).map Int32.toInt =
      ((incurred files).map (exactPoints files)).map Nat.cast := by
    simp only [List.map_map]
    apply List.map_congr_left
    intro p _
    exact Int32.toInt_ofNat_of_lt (h p (mem_all p))
  rwa [hexact] at hperm

theorem sum_values : ((ofAnalyses files).values.map Int32.toInt).sum = exactPenalty files := by
  rw [(toInt_values h).sum_eq, ← Nat.cast_list_sum, sum_incurred]

theorem values_nonneg : ∀ points ∈ (ofAnalyses files).values, 0 ≤ points.toInt := by
  intro points hpoints
  have hmem := (toInt_values h).mem_iff.1 (List.mem_map_of_mem hpoints)
  obtain ⟨n, -, hn⟩ := List.mem_map.1 hmem
  omega

/-- In whatever order the categories are added up, it is the exact penalty that has to fit. -/
theorem addUpChecked_values {order : List Int32 → List Int32}
    (horder : ∀ points, (order points).Perm points) :
    addUpChecked (order (ofAnalyses files).values) =
      if exactPenalty files < 2 ^ 31 then some (Int32.ofNat (exactPenalty files)) else none := by
  have hperm := horder (ofAnalyses files).values
  have hnonneg : ∀ p ∈ order (ofAnalyses files).values, 0 ≤ p.toInt := fun p hp =>
    values_nonneg h p (hperm.mem_iff.1 hp)
  have hsum : ((order (ofAnalyses files).values).map Int32.toInt).sum = exactPenalty files := by
    rw [(hperm.map Int32.toInt).sum_eq, sum_values h]
  have htotal : addUp (order (ofAnalyses files).values) = Int32.ofNat (exactPenalty files) :=
    (addUp_perm hperm).trans (total_ofAnalyses files)
  have hcast : ((exactPenalty files : Int) < 2 ^ 31) ↔ exactPenalty files < 2 ^ 31 := by omega
  rw [addUpChecked_eq hnonneg, hsum, htotal]
  simp only [hcast]

end Values
end Breakdown

namespace HealthScore
variable {files : List FileAnalysis}

/-- The score counted with every step checked, the categories added up in some order. -/
def ofAnalysesChecked (order : List Int32 → List Int32) (analyses : List FileAnalysis)
    (threshold : Int32) : Option HealthScore := do
  let breakdown ← Breakdown.ofAnalysesChecked analyses
  let lost ← Breakdown.addUpChecked (order breakdown.values)
  let left ← subChecked 100 lost
  let score := if left < 0 then 0 else left
  return { score := score, grade := gradeOf score, breakdown := breakdown,
           passed := score ≥ threshold, threshold := threshold }

theorem subChecked_hundred {lost : Int32} (h : 0 ≤ lost.toInt) :
    subChecked 100 lost = some (100 - lost) := by
  have hword := Int32.toInt_lt lost
  have hundred : (100 : Int32).toInt = 100 := rfl
  rw [subChecked, if_pos]
  rw [Int32.toInt_sub, hundred, Int.bmod_eq_of_le (by omega) (by omega)]

theorem ofAnalysesChecked_eq {order : List Int32 → List Int32}
    (horder : ∀ points, (order points).Perm points) (files : List FileAnalysis)
    (threshold : Int32) : ofAnalysesChecked order files threshold =
      if exactPenalty files < 2 ^ 31 then some (ofAnalyses files threshold) else none := by
  rw [ofAnalysesChecked, Breakdown.ofAnalysesChecked_eq]
  by_cases hpoints : ∀ p ∈ all, p.exactPoints files < 2 ^ 31
  · rw [if_pos hpoints, Option.bind_eq_bind, Option.bind_some,
      Breakdown.addUpChecked_values hpoints horder]
    by_cases hfits : exactPenalty files < 2 ^ 31
    · have htotal := Breakdown.total_ofAnalyses files
      rw [if_pos hfits, if_pos hfits, Option.bind_eq_bind, Option.bind_some,
        subChecked_hundred (toInt_ofNat_nonneg hfits), ← htotal]
      rfl
    · rw [if_neg hfits, if_neg hfits]
      rfl
  · have hnot : ¬ exactPenalty files < 2 ^ 31 := by
      intro hfits
      apply hpoints
      intro p _
      exact Nat.lt_of_le_of_lt (exactPoints_le files p) hfits
    rw [if_neg hpoints, if_neg hnot]
    rfl

/-! ## Grades -/

/-- The place of a grade among all, the best first. -/
def rank (grade : String) : Nat := (grades.map Prod.snd).idxOf grade

theorem gradeOf_eq (score : Int32) : gradeOf score =
    if 90 ≤ score then "A+" else if 80 ≤ score then "A" else if 70 ≤ score then "B"
    else if 60 ≤ score then "C" else if 50 ≤ score then "D" else "F" := by
  simp only [gradeOf, grades, List.find?_cons, List.find?_nil, ge_iff_le]
  grind

theorem rank_gradeOf (score : Int32) : rank (gradeOf score) =
    if 90 ≤ score then 0 else if 80 ≤ score then 1 else if 70 ≤ score then 2
    else if 60 ≤ score then 3 else if 50 ≤ score then 4 else 5 := by
  rw [gradeOf_eq]
  split_ifs <;> decide

theorem grade_ofAnalyses (files : List FileAnalysis) (threshold : Int32) :
    (ofAnalyses files threshold).grade = gradeOf (ofAnalyses files threshold).score := by
  simp only [ofAnalyses]

theorem rank_antitone {score score' : Int32} (h : score ≤ score') :
    rank (gradeOf score') ≤ rank (gradeOf score) := by
  rw [rank_gradeOf, rank_gradeOf]
  simp only [Int32.le_iff_toInt_le] at h ⊢
  split_ifs <;> omega

/-! ## More findings -/

/-- No fewer issues of any severity, no fewer files of high complexity, and no fewer that are
complex at all. -/
structure HasFindingsOf (files fewer : List FileAnalysis) : Prop where
  issues : ∀ s, (security s).times fewer ≤ (security s).times files
  high : complexHigh.times fewer ≤ complexHigh.times files
  complex : complexHigh.times fewer + complexMedium.times fewer ≤
    complexHigh.times files + complexMedium.times files

theorem hasFindingsOf_append (xs ys : List FileAnalysis) : HasFindingsOf (xs ++ ys) xs where
  issues s := by rw [times_append]; omega
  high := by rw [times_append]; omega
  complex := by rw [times_append, times_append]; omega

theorem HasFindingsOf.exactPenalty_le {files fewer : List FileAnalysis}
    (h : HasFindingsOf files fewer) : exactPenalty fewer ≤ exactPenalty files := by
  have hhigh := h.issues .high
  have hmedium := h.issues .medium
  have hlow := h.issues .low
  have hcomplex := h.complex
  have hlevel := h.high
  simp only [exactPenalty]
  omega

/-- The score of some files is counted without leaving the machine word just if their exact penalty
fits one. Then it lies between nothing and a hundred, and what has fewer findings is not graded
worse. -/
theorem counted_in_words_iff {order : List Int32 → List Int32}
    (horder : ∀ points, (order points).Perm points) (files : List FileAnalysis)
    (threshold : Int32) :
    ((ofAnalysesChecked order files threshold).isSome ↔ exactPenalty files < 2 ^ 31) ∧
    ∀ h, ofAnalysesChecked order files threshold = some h →
      h = ofAnalyses files threshold ∧ 0 ≤ h.score ∧ h.score ≤ 100 ∧
      ∀ fewer, HasFindingsOf files fewer → ∃ h',
        ofAnalysesChecked order fewer threshold = some h' ∧ rank h'.grade ≤ rank h.grade := by
  constructor
  · rw [ofAnalysesChecked_eq horder, Option.isSome_ite]
  · intro h hcounted
    rw [ofAnalysesChecked_eq horder, Option.ite_none_right_eq_some] at hcounted
    obtain ⟨hfits, hh⟩ := hcounted
    obtain rfl := Option.some.inj hh
    have hscore := score_toInt hfits threshold
    have hundred : (100 : Int32).toInt = 100 := rfl
    refine ⟨rfl, ?_, ?_, ?_⟩
    · rw [Int32.le_iff_toInt_le, hscore, Int32.toInt_zero]
      omega
    · rw [Int32.le_iff_toInt_le, hscore, hundred]
      omega
    · intro fewer hfewer
      have hle := hfewer.exactPenalty_le
      have hfits' : exactPenalty fewer < 2 ^ 31 := by omega
      refine ⟨ofAnalyses fewer threshold, ?_, ?_⟩
      · rw [ofAnalysesChecked_eq horder, if_pos hfits']
      · rw [grade_ofAnalyses, grade_ofAnalyses]
        apply rank_antitone
        rw [Int32.le_iff_toInt_le, hscore, score_toInt hfits']
        omega

theorem counted_in_words_riskyFile :
    exactPenalty ([riskyFile] ++ [branchyFile]) = 15 ∧
    ofAnalysesChecked List.reverse ([riskyFile] ++ [branchyFile]) 60 =
      some (ofAnalyses ([riskyFile] ++ [branchyFile]) 60) ∧
    rank (ofAnalyses [riskyFile] 60).grade ≤
      rank (ofAnalyses ([riskyFile] ++ [branchyFile]) 60).grade := by
  have hlost : exactPenalty ([riskyFile] ++ [branchyFile]) = 15 := by decide +kernel
  obtain ⟨hcounted, hsound⟩ := counted_in_words_iff List.reverse_perm ([riskyFile] ++ [branchyFile]) 60
  obtain ⟨h, hh⟩ := Option.isSome_iff_exists.1 (hcounted.2 (by rw [hlost]; decide))
  obtain ⟨rfl, -, -, hfewer⟩ := hsound h hh
  obtain ⟨h', hh', hrank⟩ := hfewer [riskyFile] (hasFindingsOf_append _ _)
  have hone := (counted_in_words_iff List.reverse_perm [riskyFile] 60).2 h' hh'
  exact ⟨hlost, hh, hone.1 ▸ hrank⟩

/-! ## A flood of findings -/

theorem score_of_wrapped {files : List FileAnalysis} (hleast : 2 ^ 31 + 100 < exactPenalty files)
    (hmost : exactPenalty files < 2 ^ 32) (threshold : Int32) :
    (ofAnalyses files threshold).score.toInt = 2 ^ 32 + 100 - exactPenalty files := by
  have hsub : 100 - Int32.ofNat (exactPenalty files) = Int32.ofInt (100 - exactPenalty files) := by
    rw [Int32.ofInt_sub, Int32.ofInt_eq_ofNat]
    rfl
  have hleft : (100 - Int32.ofNat (exactPenalty files)).toInt =
      2 ^ 32 + 100 - exactPenalty files := by
    have hwrap := Int.add_bmod_right (100 - (exactPenalty files : Int)) Int32.size
    rw [Int.bmod_eq_of_le (by simp; omega) (by simp; omega)] at hwrap
    rw [hsub, Int32.toInt_ofInt, ← hwrap]
    simp
    omega
  rw [score_ofAnalyses, totalPenalty, ofAnalyses, Breakdown.total_ofAnalyses]
  simp only [cutOff, Int32.lt_iff_toInt_lt, hleft, Int32.toInt_zero]
  rw [if_neg (by omega), hleft]

/-- A text of nothing but risky lines. -/
def riskyLines (n : Nat) : String := String.join (List.replicate n "eval(\n")

theorem riskyLines_succ (n : Nat) : riskyLines (n + 1) = joinTexts "eval(" (riskyLines n) := by
  rw [riskyLines, List.replicate_succ, String.join_cons, ← riskyLines, joinTexts]
  rfl

theorem severities_riskyLines (n : Nat) :
    (findIssues (riskyLines n) "a.py").map SecurityIssue.severity = List.replicate n .high := by
  induction n with
  | zero => decide +kernel
  | succ n ih =>
    have hfirst : (findIssues "eval(" "a.py").map SecurityIssue.severity = [.high] := by
      decide +kernel
    rw [riskyLines_succ, findIssues_joinTexts, List.map_append, hfirst, List.map_map]
    exact congrArg (Severity.high :: ·) ih

def floodedFile (n : Nat) : FileAnalysis := analyze (riskyLines n) "a.py" .standard

theorem times_floodedFile (n : Nat) (s : Severity) :
    (security s).times [floodedFile n] = (List.replicate n Severity.high).count s := by
  have hissues : (floodedFile n).security = findIssues (riskyLines n) "a.py" := rfl
  rw [times, List.flatMap_singleton, hissues, ← severities_riskyLines, List.count_eq_countP,
    List.countP_map]
  apply List.countP_congr
  intro i _
  simp

theorem exactPenalty_floodedFile (n : Nat) :
    10 * n ≤ exactPenalty [floodedFile n] ∧ exactPenalty [floodedFile n] ≤ 10 * n + 5 := by
  have hhigh : (security .high).times [floodedFile n] = n := by
    rw [times_floodedFile, List.count_replicate_self]
  have hmedium : (security .medium).times [floodedFile n] = 0 := by
    rw [times_floodedFile, List.count_replicate]
    rfl
  have hlow : (security .low).times [floodedFile n] = 0 := by
    rw [times_floodedFile, List.count_replicate]
    rfl
  have hcomplex : complexHigh.times [floodedFile n] + complexMedium.times [floodedFile n] ≤ 1 := by
    simp only [times, List.countP_singleton]
    cases (floodedFile n).complexity.level <;> decide
  simp only [exactPenalty, hhigh, hmedium, hlow]
  omega

theorem hasFindingsOf_floodedFile {n : Nat} (h : 6 ≤ n) :
    HasFindingsOf [floodedFile n] [floodedFile 6] := by
  have hplain : (floodedFile 6).complexity.level = .low := by decide +kernel
  have hhigh : complexHigh.times [floodedFile 6] = 0 := by simp [times, hplain]
  have hmedium : complexMedium.times [floodedFile 6] = 0 := by simp [times, hplain]
  constructor
  · intro s
    rw [times_floodedFile, times_floodedFile]
    exact ((List.replicate_sublist_replicate _).2 h).count_le s
  · rw [hhigh]
    exact Nat.zero_le _
  · rw [hhigh, hmedium]
    exact Nat.zero_le _

/-- Enough risky lines wrap the words around. Counted with care they have no score, and otherwise
one above a hundred: the file is graded best of all, and six of its lines alone worst of all. -/
theorem flood_scores_above_hundred :
    ofAnalysesChecked id [floodedFile 214748375] 60 = none ∧
    100 < (ofAnalyses [floodedFile 214748375] 60).score ∧
    HasFindingsOf [floodedFile 214748375] [floodedFile 6] ∧
    (ofAnalyses [floodedFile 6] 60).grade = "F" ∧
    (ofAnalyses [floodedFile 214748375] 60).grade = "A+" := by
  obtain ⟨hleast, hmost⟩ := exactPenalty_floodedFile 214748375
  have hscore : (ofAnalyses [floodedFile 214748375] 60).score.toInt =
      2 ^ 32 + 100 - exactPenalty [floodedFile 214748375] :=
    score_of_wrapped (by omega) (by omega) 60
  have hgood : 90 ≤ (ofAnalyses [floodedFile 214748375] 60).score := by
    have hninety : (90 : Int32).toInt = 90 := rfl
    rw [Int32.le_iff_toInt_le, hscore, hninety]
    omega
  refine ⟨?_, ?_, hasFindingsOf_floodedFile (by omega), by decide +kernel, ?_⟩
  · have hid : ∀ points : List Int32, (id points).Perm points := fun _ => .refl _
    rw [ofAnalysesChecked_eq hid, if_neg (by omega)]
  · have hundred : (100 : Int32).toInt = 100 := rfl
    rw [Int32.lt_iff_toInt_lt, hscore, hundred]
    omega
  · rw [grade_ofAnalyses, gradeOf_eq, if_pos hgood]

end HealthScore
end CodeSurvey
