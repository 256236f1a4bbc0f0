import CodeSurvey.Score
import Mathlib.Algebra.BigOperators.Ring.Finset
import Mathlib.Algebra.Order.BigOperators.Group.List
import Mathlib.Algebra.Order.Group.Nat
import Mathlib.Data.List.Nodup

/-!
# Penalties

What some files lose, counted exactly, and what the breakdown of a score makes of it. A category
stands in the breakdown just if some file incurs its penalty, with the points of all of them in a
machine word.
-/

namespace CodeSurvey

/-! ## Counting exactly -/

namespace Penalty

def all : List Penalty :=
  [security .high, security .medium, security .low, complexHigh, complexMedium]

theorem mem_all (p : Penalty) : p ∈ all := by
  cases p with
  | security s => cases s <;> decide
  | complexHigh => decide
  | complexMedium => decide

theorem category_injective : ∀ p ∈ all, ∀ q ∈ all, p.category = q.category → p = q := by decide

def weight : Penalty → Nat
  | security .high => 10
  | security .medium => 5
  | security .low => 2
  | complexHigh => 5
  | complexMedium => 2

theorem weight_pos : ∀ p ∈ all, 0 < p.weight := by decide

theorem points_eq : ∀ p ∈ all, p.points = Int32.ofNat p.weight := by decide

/-- How often some files incur a penalty. -/
def times (files : List FileAnalysis) : Penalty → Nat
  | security s => (files.flatMap FileAnalysis.security).countP fun i => i.severity = s
  | complexHigh => files.countP fun a => a.complexity.level = .high
  | complexMedium => files.countP fun a => a.complexity.level = .medium

theorem times_append (xs ys : List FileAnalysis) (p : Penalty) :
    p.times (xs ++ ys) = p.times xs + p.times ys := by
  cases p <;> simp [times]

theorem times_perm {xs ys : List FileAnalysis} (h : xs.Perm ys) (p : Penalty) :
    p.times xs = p.times ys := by
  cases p with
  | security s => exact (h.flatMap_right _).countP_eq _
  | complexHigh => exact h.countP_eq _
  | complexMedium => exact h.countP_eq _

theorem count_ofAnalysis (a : FileAnalysis) (p : Penalty) :
    (ofAnalysis a).count p = p.times [a] := by
  rw [ofAnalysis, List.count_append]
  cases p with
  | security s =>
    have hlevel : (ofLevel a.complexity.level).count (security s) = 0 := by
      cases a.complexity.level <;> rfl
    rw [hlevel, List.count_eq_countP, List.countP_map, times, List.flatMap_singleton]
    apply List.countP_congr
    intro i _
    simp
  | complexHigh =>
    have hissues : (a.security.map fun i => security i.severity).count complexHigh = 0 := by
      simp [List.count_eq_zero]
    rw [hissues, times, List.countP_singleton]
    cases a.complexity.level <;> rfl
  | complexMedium =>
    have hissues : (a.security.map fun i => security i.severity).count complexMedium = 0 := by
      simp [List.count_eq_zero]
    rw [hissues, times, List.countP_singleton]
    cases a.complexity.level <;> rfl

theorem count_penalties (files : List FileAnalysis) (p : Penalty) :
    (files.flatMap ofAnalysis).count p = p.times files := by
  induction files with
  | nil => cases p <;> rfl
  | cons a files ih =>
    have hsplit := times_append [a] files p
    rw [List.singleton_append] at hsplit
    rw [List.flatMap_cons, List.count_append, ih, count_ofAnalysis, hsplit]

/-- The points that some files lose by a penalty. -/
def exactPoints (files : List FileAnalysis) (p : Penalty) : Nat := p.weight * p.times files

theorem exactPoints_append (xs ys : List FileAnalysis) (p : Penalty) :
    p.exactPoints (xs ++ ys) = p.exactPoints xs + p.exactPoints ys := by
  rw [exactPoints, times_append, Nat.mul_add, exactPoints, exactPoints]

theorem exactPoints_pos {files : List FileAnalysis} {p : Penalty} :
    0 < p.exactPoints files ↔ 0 < p.times files := by
  rw [exactPoints, Nat.mul_pos_iff_of_pos_left (weight_pos p (mem_all p))]

end Penalty

open Penalty

/-- Ten points for each high issue, five for each medium and two for each low one, five for each
file of high complexity and two for each of medium. -/
def exactPenalty (files : List FileAnalysis) : Nat :=
  10 * (security .high).times files + 5 * (security .medium).times files +
    2 * (security .low).times files + 5 * complexHigh.times files + 2 * complexMedium.times files

theorem exactPenalty_eq_sum (files : List FileAnalysis) :
    exactPenalty files = (Penalty.all.map (exactPoints files)).sum := by
  simp [exactPenalty, Penalty.all, exactPoints, weight, Nat.add_assoc]

theorem exactPenalty_append (xs ys : List FileAnalysis) :
    exactPenalty (xs ++ ys) = exactPenalty xs + exactPenalty ys := by
  simp only [exactPenalty, times_append]
  omega

theorem exactPoints_le (files : List FileAnalysis) (p : Penalty) :
    p.exactPoints files ≤ exactPenalty files := by
  rw [exactPenalty_eq_sum]
  exact List.le_sum_of_mem (List.mem_map_of_mem (mem_all p))

/-! ## Breakdowns -/

namespace Breakdown
variable {files : List FileAnalysis}

theorem foldl_replicate (p : Penalty) (n : Nat) (start : Int32) :
    (List.replicate n p).foldl (fun points q => points + q.points) start =
      start + Int32.ofNat (p.weight * n) := by
  induction n generalizing start with
  | zero => simp
  | succ n ih =>
    rw [List.replicate_succ, List.foldl_cons, ih, points_eq p (mem_all p), Int32.add_assoc,
      ← Int32.ofNat_add, Nat.mul_succ, Nat.add_comm]

theorem find?_charged (ps : List Penalty) (p : Penalty) :
    (ps.foldl charge ∅).find? p.category =
      if ps.count p = 0 then none else some (Int32.ofNat (p.weight * ps.count p)) := by
  have hmine : (ps.filter fun q => q.category == p.category) =
      List.replicate (ps.count p) p := by
    rw [← List.filter_beq]
    apply List.filter_congr
    intro q _
    rw [Bool.eq_iff_iff, beq_iff_eq, beq_iff_eq]
    exact ⟨category_injective q (mem_all q) p (mem_all p), congrArg category⟩
  have hstart : (default : Int32) = 0 := rfl
  have hfind := SortedMap.find?_foldl_update category (fun q points => points + q.points)
    ps ∅ p.category
  rw [hmine, SortedMap.find?_empty, Option.getD_none, hstart, foldl_replicate,
    Int32.zero_add] at hfind
  simp only [List.replicate_eq_nil_iff] at hfind
  exact hfind

theorem find?_category (files : List FileAnalysis) (p : Penalty) :
    (ofAnalyses files).find? p.category =
      if p.times files = 0 then none else some (Int32.ofNat (p.exactPoints files)) := by
  rw [ofAnalyses, find?_charged, count_penalties, exactPoints]

theorem find?_of_ne {category : String} (h : ∀ p : Penalty, p.category ≠ category) :
    (ofAnalyses files).find? category = none := by
  have hmine : ((files.flatMap ofAnalysis).filter fun q => q.category == category) = [] := by
    apply List.filter_eq_nil_iff.2
    intro q _
    simp [h q]
  have hfind := SortedMap.find?_foldl_update Penalty.category
    (fun q points => points + q.points) (files.flatMap ofAnalysis) ∅ category
  rw [hmine] at hfind
  exact hfind

/-- An entry is the exact points of a penalty that was incurred, in a machine word. -/
theorem find?_eq_some {category : String} {points : Int32} :
    (ofAnalyses files).find? category = some points ↔
      ∃ p : Penalty, 0 < p.times files ∧
        (p.category, Int32.ofNat (p.exactPoints files)) = (category, points) := by
  constructor
  · intro h
    by_cases hcategory : ∃ p : Penalty, p.category = category
    · obtain ⟨p, rfl⟩ := hcategory
      rw [find?_category] at h
      split at h
      · cases h
      next htimes =>
        cases h
        exact ⟨p, Nat.pos_of_ne_zero htimes, rfl⟩
    · rw [find?_of_ne fun p hp => hcategory ⟨p, hp⟩] at h
      cases h
  · rintro ⟨p, htimes, h⟩
    cases h
    rw [find?_category, if_neg (Nat.ne_of_gt htimes)]

/-- The penalties that some files incur. -/
def incurred (files : List FileAnalysis) : List Penalty :=
  Penalty.all.filter fun p => 0 < p.times files

theorem entries_perm (files : List FileAnalysis) :
    (ofAnalyses files).entries.Perm
      ((incurred files).map fun p => (p.category, Int32.ofNat (p.exactPoints files))) := by
  have hnodup : ((incurred files).map fun p =>
      (p.category, Int32.ofNat (p.exactPoints files))).Nodup := by
    apply List.Nodup.map_on
    · intro p _ q _ h
      exact category_injective p (mem_all p) q (mem_all q) (congrArg Prod.fst h)
    · exact List.Nodup.filter _ (by decide)
  apply (List.perm_ext_iff_of_nodup (SortedMap.nodup_entries _) hnodup).2
  intro ⟨category, points⟩
  rw [SortedMap.mem_entries, find?_eq_some, List.mem_map]
  simp only [incurred, List.mem_filter, decide_eq_true_eq, mem_all, true_and]

theorem sum_incurred (files : List FileAnalysis) :
    ((incurred files).map (exactPoints files)).sum = exactPenalty files := by
  rw [exactPenalty_eq_sum, incurred]
  induction Penalty.all with
  | nil => rfl
  | cons p ps ih =>
    rw [List.filter_cons, List.map_cons, List.sum_cons, ← ih]
    by_cases htimes : 0 < p.times files
    · simp [htimes]
    · have hzero : p.exactPoints files = 0 := by
        have h := mt exactPoints_pos.1 htimes
        omega
      simp [htimes, hzero]

/-! ## Totals -/

/-- Points added up one after the other. -/
def addUp (points : List Int32) : Int32 := points.foldl (· + ·) 0

theorem addUp_perm {points points' : List Int32} (h : points.Perm points') :
    addUp points = addUp points' := h.foldl_eq 0

theorem addUp_ofNat (ns : List Nat) : addUp (ns.map Int32.ofNat) = Int32.ofNat ns.sum := by
  have hstart (start : Int32) :
      (ns.map Int32.ofNat).foldl (· + ·) start = start + Int32.ofNat ns.sum := by
    induction ns generalizing start with
    | nil => simp
    | cons n ns ih =>
      rw [List.map_cons, List.foldl_cons, ih, List.sum_cons, Int32.ofNat_add, Int32.add_assoc]
  rw [addUp, hstart, Int32.zero_add]

theorem values_perm (files : List FileAnalysis) :
    (ofAnalyses files).values.Perm (((incurred files).map (exactPoints files)).map Int32.ofNat) := by
  have h := (entries_perm files).map Prod.snd
  rw [List.map_map] at h ⊢
  exact h

/-- The points of a breakdown come to the exact penalty in a machine word. -/
theorem total_ofAnalyses (files : List FileAnalysis) :
    (ofAnalyses files).total = Int32.ofNat (exactPenalty files) := by
  calc (ofAnalyses files).total
    _ = addUp (((incurred files).map (exactPoints files)).map Int32.ofNat) :=
      addUp_perm (values_perm files)
    _ = Int32.ofNat (exactPenalty files) := by rw [addUp_ofNat, sum_incurred]

end Breakdown
end CodeSurvey
