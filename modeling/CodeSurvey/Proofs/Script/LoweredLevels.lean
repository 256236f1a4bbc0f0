import CodeSurvey.Proofs.Script.LoweredParts
import CodeSurvey.Proofs.Script.TreeSearches

/-!
# Levels of lowered trees

How deeply a lowered tree nests. Lowering takes levels away, as of lists of arguments and of
parentheses, and puts others in, for what a loop declares and for what is left out; at most two
levels come for one.
-/

namespace CodeSurvey.Script

/-! ## Levels -/

theorem exists_level_above {α : Type} {a : α} {below : List (Nat × α)} {levels : Nat}
    (h : ∀ x ∈ ((0, a) :: below).map fun x => (x.1 + 1, x.2), x.1 ≤ levels) :
    ∃ k, levels = k + 1 ∧ ∀ x ∈ (0, a) :: below, x.1 ≤ k := by
  have hle : ∀ x ∈ (0, a) :: below, x.1 + 1 ≤ levels :=
    fun x hx => h _ (List.mem_map_of_mem hx)
  have hpos : 0 + 1 ≤ levels := hle (0, a) List.mem_cons_self
  refine ⟨levels - 1, by omega, ?_⟩
  intro x hx
  have hx := hle x hx
  omega

namespace SyntaxTree

/-- No node of a tree lies more than some levels below its root. -/
def Within (levels : Nat) (t : SyntaxTree) : Prop := ∀ x ∈ t.leveled 0, x.1 ≤ levels

theorem leveled_succ (level : Nat) (t : SyntaxTree) :
    t.leveled (level + 1) = (t.leveled level).map fun x => (x.1 + 1, x.2) := by
  induction t using childInduction generalizing level with
  | step t ih =>
    rw [leveled_eq, leveled_eq, List.map_cons, List.map_flatMap]
    congr 1
    exact List.flatMap_congr fun c hc => ih c hc (level + 1)

theorem Within.child {levels : Nat} {t c : SyntaxTree} (h : t.Within levels)
    (hc : c ∈ t.children) : ∃ k, levels = k + 1 ∧ c.Within k := by
  have hbelow : ∀ x ∈ c.leveled 1, x.1 ≤ levels := by
    intro x hx
    apply h
    rw [leveled_eq]
    exact List.mem_cons_of_mem _ (List.mem_flatMap.2 ⟨c, hc, hx⟩)
  rw [leveled_succ, leveled_eq] at hbelow
  unfold Within
  rw [leveled_eq]
  exact exists_level_above hbelow

end SyntaxTree

namespace Node

/-- A node and all nodes below it in preorder, each with its level, where the node itself stands at
`level`. -/
def leveled (level : Nat) (n : Node) : List (Nat × Node) :=
  (level, n) :: n.children.attach.flatMap fun ⟨c, _⟩ => leveled (level + 1) c
termination_by n
decreasing_by exact sizeOf_mem_children ‹_›

theorem leveled_eq (level : Nat) (n : Node) :
    n.leveled level = (level, n) :: n.children.flatMap (leveled (level + 1)) := by
  rw [leveled]
  congr 1
  simp only [List.flatMap_subtype, List.unattach_attach]

theorem leveled_succ (level : Nat) (n : Node) :
    n.leveled (level + 1) = (n.leveled level).map fun x => (x.1 + 1, x.2) := by
  induction n using childInduction generalizing level with
  | step n ih =>
    rw [leveled_eq, leveled_eq, List.map_cons, List.map_flatMap]
    congr 1
    exact List.flatMap_congr fun c hc => ih c hc (level + 1)

/-- No node lies more than some levels below another. -/
def Within (levels : Nat) (n : Node) : Prop := ∀ x ∈ n.leveled 0, x.1 ≤ levels

variable {levels k : Nat} {n c : Node}

theorem Within.mono (h : n.Within levels) (hle : levels ≤ k) : n.Within k :=
  fun x hx => Nat.le_trans (h x hx) hle

theorem Within.of_children (h : ∀ c ∈ n.children, c.Within levels) : n.Within (levels + 1) := by
  intro x hx
  rw [leveled_eq, List.mem_cons, List.mem_flatMap] at hx
  rcases hx with rfl | ⟨c, hc, hx⟩
  · exact Nat.zero_le _
  · rw [leveled_succ] at hx
    obtain ⟨y, hy, rfl⟩ := List.mem_map.1 hx
    exact Nat.succ_le_succ (h c hc y hy)

theorem Within.congr {m : Node} (h : n.Within levels) (hsame : m.children = n.children) :
    m.Within levels := by
  intro x hx
  rw [leveled_eq, hsame, List.mem_cons] at hx
  rcases hx with rfl | hx
  · exact Nat.zero_le _
  · apply h
    rw [leveled_eq]
    exact List.mem_cons_of_mem _ hx

theorem Within.of_leaf (h : n.children = []) : n.Within levels := by
  intro x hx
  rw [leveled_eq, h] at hx
  obtain rfl := List.mem_singleton.1 hx
  exact Nat.zero_le _

theorem Within.child (h : n.Within levels) (hc : c ∈ n.children) :
    ∃ k, levels = k + 1 ∧ c.Within k := by
  have hbelow : ∀ x ∈ c.leveled 1, x.1 ≤ levels := by
    intro x hx
    apply h
    rw [leveled_eq]
    exact List.mem_cons_of_mem _ (List.mem_flatMap.2 ⟨c, hc, hx⟩)
  rw [leveled_succ, leveled_eq] at hbelow
  unfold Within
  rw [leveled_eq]
  exact exists_level_above hbelow

theorem Within.below (h : n.Within levels) {x : Nat × Node} (hx : x ∈ n.leveled 0) :
    ∃ k, levels = k + x.1 ∧ x.2.Within k := by
  induction n using childInduction generalizing levels x with
  | step n ih =>
    rw [leveled_eq, List.mem_cons, List.mem_flatMap] at hx
    rcases hx with rfl | ⟨c, hc, hx⟩
    · exact ⟨levels, rfl, h⟩
    · rw [leveled_succ] at hx
      obtain ⟨y, hy, rfl⟩ := List.mem_map.1 hx
      obtain ⟨j, rfl, hj⟩ := h.child hc
      obtain ⟨k, rfl, hk⟩ := ih c hc hj hy
      exact ⟨k, rfl, hk⟩

end Node

/-! ## The bound -/

/-- At most two levels come for one, and one more for what is left out at the end. -/
theorem within_lower {t : SyntaxTree} {levels : Nat} (h : t.Within levels) :
    (lower t).Within (2 * levels + 1) := by
  -- A part may come from two levels below, so the induction is on the levels and not on the tree.
  induction levels using Nat.strong_induction_on generalizing t with
  | _ levels ih =>
    have below {c : SyntaxTree} (hc : c ∈ t.children) :
        ∃ k, levels = k + 1 ∧ c.Within k ∧ (lower c).Within (2 * k + 1) := by
      obtain ⟨k, rfl, hk⟩ := h.child hc
      exact ⟨k, rfl, hk, ih k (by omega) hk⟩
    rcases lower_cases t with ⟨c, hc, heq⟩ | hmade
    · obtain ⟨k, rfl, -, hlow⟩ := below hc
      rw [heq]
      apply hlow.mono
      omega
    · apply Node.Within.of_children
      intro n hn
      cases hmade.parts n hn with
      | child hc =>
        obtain ⟨k, rfl, -, hlow⟩ := below hc
        apply hlow.mono
        omega
      | inner hc hd =>
        obtain ⟨k, rfl, hk, -⟩ := below hc
        obtain ⟨j, rfl, hj⟩ := hk.child hd
        apply (ih j (by omega) hj).mono
        omega
      | method hc hkind =>
        obtain ⟨k, rfl, -, hlow⟩ := below hc
        apply (hlow.congr (children_method hkind)).mono
        omega
      | loopHead kind hc =>
        obtain ⟨k, rfl, -, hlow⟩ := below hc
        apply Node.Within.of_children
        intro m hm
        obtain rfl := List.mem_singleton.1 hm
        exact hlow
      | absent => exact .of_leaf rfl
      | innerAbsent => exact .of_leaf rfl

theorem within_of_program {t : SyntaxTree} {program : Node} (h : t.program = .ok program) :
    program.Within (2 * maxDepth + 1) := by
  obtain ⟨-, rfl⟩ := program_ok h
  apply within_lower
  intro x hx
  rw [program_eq] at h
  split at h
  · cases h
  next hfind => simpa using List.find?_eq_none.1 hfind x hx

end CodeSurvey.Script
