import CodeSurvey.Script.Lowering
import Mathlib.Data.List.Basic

/-!
# Subtrees

A syntax tree with all trees below it, in the order of the text.
-/

namespace CodeSurvey.Script.SyntaxTree

theorem childInduction {P : SyntaxTree → Prop} (step : ∀ t, (∀ c ∈ t.children, P c) → P t)
    (t : SyntaxTree) : P t :=
  step t fun c _ => childInduction step c
termination_by t
decreasing_by exact sizeOf_child ‹_›

def subtrees (t : SyntaxTree) : List SyntaxTree :=
  t :: t.children.attach.flatMap fun ⟨c, _⟩ => subtrees c
termination_by t
decreasing_by exact sizeOf_child ‹_›

theorem subtrees_eq (t : SyntaxTree) : t.subtrees = t :: t.children.flatMap subtrees := by
  rw [subtrees]
  congr 1
  simp only [List.flatMap_subtype, List.unattach_attach]

theorem subtrees_node (info : NodeInfo) (children : List SyntaxTree) :
    (node info children).subtrees = node info children :: children.flatMap subtrees :=
  subtrees_eq _

theorem mem_subtrees {t u : SyntaxTree} :
    u ∈ t.subtrees ↔ u = t ∨ ∃ c ∈ t.children, u ∈ c.subtrees := by
  rw [subtrees_eq, List.mem_cons, List.mem_flatMap]

theorem self_mem_subtrees (t : SyntaxTree) : t ∈ t.subtrees := mem_subtrees.2 (.inl rfl)

theorem mem_subtrees_trans {t u v : SyntaxTree} (hu : u ∈ t.subtrees) (hv : v ∈ u.subtrees) :
    v ∈ t.subtrees := by
  induction t using childInduction with
  | step t ih =>
    rcases mem_subtrees.1 hu with rfl | ⟨c, hc, hu⟩
    · exact hv
    · exact mem_subtrees.2 (.inr ⟨c, hc, ih c hc hu⟩)

end CodeSurvey.Script.SyntaxTree
