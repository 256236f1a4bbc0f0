import CodeSurvey.Proofs.Score.Penalties
import CodeSurvey.Report.Basic

/-!
# Scores of files put together

As long as the exact penalty of some files fits a machine word, their score accounts for them point
by point, in whatever order files and categories come. Points of files put together add up, so more
files never make for a better score.
-/

namespace CodeSurvey
open Penalty

/-! ## Points by category -/

namespace Breakdown
variable {files : List FileAnalysis}

/-- The points in a category, none if it is left out. -/
def pointsIn (b : Breakdown) (category : String) : Int :=
  ((b.find? category).map Int32.toInt).getD 0

theorem toInt_exactPoints (hfits : exactPenalty files < 2 ^ 31) (p : Penalty) :
    (Int32.ofNat (p.exactPoints files)).toInt = p.exactPoints files :=
  Int32.toInt_ofNat_of_lt (Nat.lt_of_le_of_lt (exactPoints_le files p) hfits)

theorem pointsIn_category (hfits : exactPenalty files < 2 ^ 31) (p : Penalty) :
    (ofAnalyses files).pointsIn p.category = p.exactPoints files := by
  rw [pointsIn, find?_category]
  by_cases htimes : p.times files = 0
  · simp [htimes, exactPoints]
  · simp [htimes, toInt_exactPoints hfits p]

theorem pointsIn_of_ne {category : String} (h : ∀ p : Penalty, p.category ≠ category) :
    (ofAnalyses files).pointsIn category = 0 := by
  rw [pointsIn, find?_of_ne h]
  rfl

theorem mem_keys_iff (files : List FileAnalysis) (category : String) :
    category ∈ (ofAnalyses files).keys ↔
      ∃ p : Penalty, p.category = category ∧ 0 < p.exactPoints files := by
  rw [SortedMap.mem_keys, Option.isSome_iff_exists]
  constructor
  · rintro ⟨points, h⟩
    obtain ⟨p, htimes, hentry⟩ := find?_eq_some.1 h
    exact ⟨p, congrArg Prod.fst hentry, exactPoints_pos.2 htimes⟩
  · rintro ⟨p, rfl, hpos⟩
    exact ⟨_, find?_eq_some.2 ⟨p, exactPoints_pos.1 hpos, rfl⟩⟩

theorem pointsIn_append {xs ys : List FileAnalysis} (hfits : exactPenalty (xs ++ ys) < 2 ^ 31)
    (category : String) : (ofAnalyses (xs ++ ys)).pointsIn category =
      (ofAnalyses xs).pointsIn category + (ofAnalyses ys).pointsIn category := by
  have hsum := exactPenalty_append xs ys
  by_cases hcategory : ∃ p : Penalty, p.category = category
  · obtain ⟨p, rfl⟩ := hcategory
    rw [pointsIn_category hfits, pointsIn_category (by omega), pointsIn_category (by omega),
      exactPoints_append, Int.natCast_add]
  · have hne : ∀ p : Penalty, p.category ≠ category := fun p hp => hcategory ⟨p, hp⟩
    rw [pointsIn_of_ne hne, pointsIn_of_ne hne, pointsIn_of_ne hne]
    rfl

theorem ofAnalyses_perm {xs ys : List FileAnalysis} (h : xs.Perm ys) :
    ofAnalyses xs = ofAnalyses ys := by
  apply SortedMap.ext_find?
  intro category
  apply Option.ext
  intro points
  simp only [find?_eq_some, exactPoints, times_perm h]

theorem toInt_addUp_ofNat {ns : List Nat} (h : ns.sum < 2 ^ 31) :
    (addUp (ns.map Int32.ofNat)).toInt = ((ns.map Int32.ofNat).map Int32.toInt).sum := by
  have hexact : (ns.map Int32.ofNat).map Int32.toInt = ns.map Nat.cast := by
    rw [List.map_map]
    apply List.map_congr_left
    intro n hn
    exact Int32.toInt_ofNat_of_lt (Nat.lt_of_le_of_lt (List.le_sum_of_mem hn) h)
  rw [addUp_ofNat, Int32.toInt_ofNat_of_lt h, hexact, Nat.cast_list_sum]

/-- However the points are added up, no sum on the way leaves the machine word. -/
theorem toInt_addUp (hfits : exactPenalty files < 2 ^ 31) {points : List Int32}
    (h : points.Subperm (ofAnalyses files).values) :
    (addUp points).toInt = (points.map Int32.toInt).sum := by
  obtain ⟨chosen, hperm, hsub⟩ := h.trans (values_perm files).subperm
  obtain ⟨ns, hns, rfl⟩ := List.sublist_map_iff.1 hsub
  have hle : ns.sum ≤ exactPenalty files := by
    rw [← sum_incurred]
    exact hns.sum_le_sum fun _ _ => Nat.zero_le _
  rw [← addUp_perm hperm, ← (hperm.map Int32.toInt).sum_eq]
  exact toInt_addUp_ofNat (Nat.lt_of_le_of_lt hle hfits)

end Breakdown

/-! ## Scores -/

namespace HealthScore
variable {files : List FileAnalysis}

/-- What is left of a hundred, cut off at nothing. -/
def cutOff (lost : Int32) : Int32 :=
  let left := 100 - lost
  if left < 0 then 0 else left

theorem cutOff_toInt {n : Nat} (h : n < 2 ^ 31) :
    (cutOff (Int32.ofNat n)).toInt = max 0 (100 - n) := by
  have hsub : 100 - Int32.ofNat n = Int32.ofInt (100 - n) := by
    rw [Int32.ofInt_sub, Int32.ofInt_eq_ofNat]
    rfl
  have hleft : (100 - Int32.ofNat n).toInt = 100 - n := by
    rw [hsub, Int32.toInt_ofInt_of_le (by omega) (by omega)]
  simp only [cutOff, Int32.lt_iff_toInt_lt, hleft, Int32.toInt_zero]
  split
  · rw [Int32.toInt_zero]
    omega
  · rw [hleft]
    omega

theorem score_ofAnalyses (files : List FileAnalysis) (threshold : Int32) :
    (ofAnalyses files threshold).score = cutOff (ofAnalyses files threshold).totalPenalty := by
  rw [ofAnalyses, totalPenalty, cutOff]

theorem totalPenalty_toInt (hfits : exactPenalty files < 2 ^ 31) (threshold : Int32) :
    (ofAnalyses files threshold).totalPenalty.toInt = exactPenalty files := by
  rw [totalPenalty, ofAnalyses, Breakdown.total_ofAnalyses, Int32.toInt_ofNat_of_lt hfits]

theorem score_toInt (hfits : exactPenalty files < 2 ^ 31) (threshold : Int32) :
    (ofAnalyses files threshold).score.toInt = max 0 (100 - exactPenalty files) := by
  rw [score_ofAnalyses, totalPenalty, ofAnalyses, Breakdown.total_ofAnalyses, cutOff_toInt hfits]

end HealthScore

/-! ## Points as reports list them -/

/-- The entries stand, in this order, under the breakdown of the report as JSON. -/
def Report.Lists (r : Report) (entries : List BreakdownEntry) : Prop :=
  ∃ fields, r.encode = .object fields ∧
    fields.lookup "breakdown" = some (.array (entries.map BreakdownEntry.encode))

theorem Report.lists_breakdown (r : Report) : r.Lists r.breakdown := by
  refine ⟨_, rfl, ?_⟩
  -- the path to the field differs only by whether a configuration is named before it
  cases r.config <;> simp [Json.optionalField, SortedMap.lookup_entry]

theorem BreakdownEntry.sum_sorted (entries : List (String × Int32)) :
    ((BreakdownEntry.sorted entries).map fun e => e.points.toInt).sum =
      ((entries.map Prod.snd).map Int32.toInt).sum := by
  have hsorted := List.mergeSort_perm (entries.map fun e => BreakdownEntry.mk e.1 e.2)
    BreakdownEntry.precedes
  have hsum := (hsorted.map fun e => e.points.toInt).sum_eq
  rw [List.map_map] at hsum ⊢
  exact hsum

/-! ## Scores that account for files -/

namespace HealthScore

/-- The score is that of the files, however their points are counted. -/
structure AccountsFor (h : HealthScore) (files : List FileAnalysis) : Prop where
  points : ∀ p : Penalty, h.breakdown.pointsIn p.category = p.exactPoints files
  present : ∀ category, category ∈ h.breakdown.keys ↔
    ∃ p : Penalty, p.category = category ∧ 0 < p.exactPoints files
  total : h.totalPenalty.toInt = exactPenalty files
  score : h.score.toInt = max 0 (100 - exactPenalty files)
  passed : h.passed = true ↔ h.threshold ≤ h.score
  anyOrder : ∀ points : List Int32, points.Perm h.breakdown.values →
    Breakdown.addUp points = h.totalPenalty ∧ cutOff (Breakdown.addUp points) = h.score
  unwrapped : ∀ points : List Int32, points.Perm h.breakdown.values → ∀ done, done <+: points →
    (Breakdown.addUp done).toInt = (done.map Int32.toInt).sum
  listed : ∀ path config, ∃ entries, (Report.build path config files h).Lists entries ∧
    (entries.map fun e => e.points.toInt).sum = h.totalPenalty.toInt

theorem accountsFor_ofAnalyses {files : List FileAnalysis} (hfits : exactPenalty files < 2 ^ 31)
    (threshold : Int32) : (ofAnalyses files threshold).AccountsFor files where
  points := Breakdown.pointsIn_category hfits
  present := Breakdown.mem_keys_iff files
  total := totalPenalty_toInt hfits threshold
  score := score_toInt hfits threshold
  passed := by simp only [ofAnalyses, decide_eq_true_eq, ge_iff_le]
  anyOrder points hperm := by
    have htotal : Breakdown.addUp points = (ofAnalyses files threshold).totalPenalty :=
      Breakdown.addUp_perm hperm
    exact ⟨htotal, by rw [htotal, score_ofAnalyses]⟩
  unwrapped _ hperm _ hdone :=
    Breakdown.toInt_addUp hfits (hdone.sublist.subperm.trans hperm.subperm)
  listed path config :=
    ⟨_, Report.lists_breakdown _,
      (BreakdownEntry.sum_sorted _).trans (Breakdown.toInt_addUp hfits (.refl _)).symm⟩

/-- While their points fit a machine word, files put together are scored by the sum of their
points, in any order, and no better than some of them alone. -/
theorem scores_add_up {xs ys : List FileAnalysis} (hfits : exactPenalty (xs ++ ys) < 2 ^ 31)
    (threshold : Int32) :
    (ofAnalyses (xs ++ ys) threshold).AccountsFor (xs ++ ys) ∧
    (∀ category, (ofAnalyses (xs ++ ys) threshold).breakdown.pointsIn category =
      (ofAnalyses xs threshold).breakdown.pointsIn category +
        (ofAnalyses ys threshold).breakdown.pointsIn category) ∧
    (∀ files, files.Perm (xs ++ ys) →
      ofAnalyses files threshold = ofAnalyses (xs ++ ys) threshold) ∧
    (ofAnalyses (xs ++ ys) threshold).score ≤ (ofAnalyses xs threshold).score ∧
    ((ofAnalyses xs threshold).passed = false →
      (ofAnalyses (xs ++ ys) threshold).passed = false) := by
  have hsum := exactPenalty_append xs ys
  have hfirst : exactPenalty xs < 2 ^ 31 := by omega
  have hscore : (ofAnalyses (xs ++ ys) threshold).score ≤ (ofAnalyses xs threshold).score := by
    rw [Int32.le_iff_toInt_le, score_toInt hfits, score_toInt hfirst]
    omega
  have hboth := accountsFor_ofAnalyses hfits threshold
  have hxs := accountsFor_ofAnalyses hfirst threshold
  refine ⟨hboth, Breakdown.pointsIn_append hfits, ?_, hscore, ?_⟩
  · intro files hperm
    simp only [ofAnalyses, Breakdown.ofAnalyses_perm hperm]
  · -- a score that passes with more files passes with fewer
    intro hfailed
    rw [Bool.eq_false_iff] at hfailed ⊢
    intro hpassed
    exact hfailed (hxs.passed.2 (Int32.le_trans (hboth.passed.1 hpassed) hscore))

def riskyFile : FileAnalysis := analyze "eval(x)\n" "a.py" .standard

def branchyFile : FileAnalysis := analyze "if (a && b) \x7b\x7d\n" "b.py" ⟨⟨1, 2⟩, true⟩

/-- Ten points for the risky file fail a threshold of 95, and so do fifteen for both. -/
theorem scores_add_up_riskyFile :
    exactPenalty ([riskyFile] ++ [branchyFile]) = 15 ∧
    (ofAnalyses ([riskyFile] ++ [branchyFile]) 95).score.toInt = 85 ∧
    (ofAnalyses ([branchyFile] ++ [riskyFile]) 95).score.toInt = 85 ∧
    (ofAnalyses [riskyFile] 95).passed = false ∧
    (ofAnalyses ([riskyFile] ++ [branchyFile]) 95).passed = false := by
  have hlost : exactPenalty ([riskyFile] ++ [branchyFile]) = 15 := by decide +kernel
  have hfailed : (ofAnalyses [riskyFile] 95).passed = false := by decide +kernel
  obtain ⟨haccounts, -, hperm, -, hgate⟩ := scores_add_up (by rw [hlost]; decide) 95
  have hscore : (ofAnalyses ([riskyFile] ++ [branchyFile]) 95).score.toInt = 85 := by
    rw [haccounts.score, hlost]
    rfl
  refine ⟨hlost, hscore, ?_, hfailed, hgate hfailed⟩
  rw [hperm _ List.perm_append_comm, hscore]

end HealthScore
end CodeSurvey
