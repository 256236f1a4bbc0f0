import CodeSurvey.Proofs.Script.LoweredTrees
import Mathlib.Data.List.Flatten

/-!
# Lost trees

The trees that lowering leaves out, with all that lies below them. Whatever one looks for, all of
it is found among the trees that are not left out just if none of it is lost.
-/

namespace CodeSurvey.Script.SyntaxTree

def omitted (t : SyntaxTree) : List SyntaxTree := t.children.filter t.omits

/-- All trees that lie within a child that is left out somewhere. -/
def lost (t : SyntaxTree) : List SyntaxTree :=
  t.subtrees.flatMap fun u => u.omitted.flatMap subtrees

theorem lost_eq (t : SyntaxTree) :
    t.lost = t.omitted.flatMap subtrees ++ t.children.flatMap lost := by
  rw [lost, subtrees_eq, List.flatMap_cons, List.flatMap_assoc]
  rfl

theorem mem_lost {t x : SyntaxTree} :
    x ∈ t.lost ↔ (∃ c ∈ t.omitted, x ∈ c.subtrees) ∨ ∃ c ∈ t.children, x ∈ c.lost := by
  rw [lost_eq, List.mem_append, List.mem_flatMap, List.mem_flatMap]

def exposedBelow (t c : SyntaxTree) : List SyntaxTree := if t.omits c then [] else c.exposed

theorem exposed_eq_children (t : SyntaxTree) :
    t.exposed = t :: t.children.flatMap t.exposedBelow := by
  rw [exposed_eq]
  congr 1
  rw [kept]
  induction t.children with
  | nil => rfl
  | cons c cs ih =>
    rw [List.flatMap_cons, exposedBelow, ← ih, List.filter_cons]
    cases t.omits c <;> rfl

theorem exposedBelow_sublist {t c : SyntaxTree} (h : c.exposed.Sublist c.subtrees) :
    (t.exposedBelow c).Sublist c.subtrees := by
  rw [exposedBelow]
  split
  next => exact List.nil_sublist _
  next => exact h

theorem exposed_sublist (t : SyntaxTree) : t.exposed.Sublist t.subtrees := by
  induction t using childInduction with
  | step t ih =>
    rw [exposed_eq_children, subtrees_eq]
    refine List.Sublist.cons_cons t (List.Sublist.flatMap_right t.children fun c hc => ?_)
    exact exposedBelow_sublist (ih c hc)

theorem mem_subtrees_of_child {t c x : SyntaxTree} (hc : c ∈ t.children) (hx : x ∈ c.subtrees) :
    x ∈ t.subtrees := mem_subtrees.2 (.inr ⟨c, hc, hx⟩)

theorem mem_subtrees_of_lost {t x : SyntaxTree} (h : x ∈ t.lost) : x ∈ t.subtrees := by
  induction t using childInduction with
  | step t ih =>
    rcases mem_lost.1 h with ⟨c, hc, hx⟩ | ⟨c, hc, hx⟩
    · exact mem_subtrees_of_child (List.mem_filter.1 hc).1 hx
    · exact mem_subtrees_of_child hc (ih c hc hx)

/-- Where every part is within its counterpart, the wholes are equal just if all parts are. -/
theorem flatMap_eq_iff {α β : Type} {f g : α → List β} {l : List α}
    (h : ∀ x ∈ l, (f x).Sublist (g x)) : l.flatMap f = l.flatMap g ↔ ∀ x ∈ l, f x = g x := by
  refine ⟨fun heq => ?_, fun hall => List.flatMap_congr hall⟩
  induction l with
  | nil => simp
  | cons x l ih =>
    have hx := h x List.mem_cons_self
    have hl := fun y hy => h y (List.mem_cons_of_mem x hy)
    have hle := hx.length_le
    have hle' := (List.Sublist.flatMap_right l hl).length_le
    have hlen := congrArg List.length heq
    simp only [List.flatMap_cons, List.length_append] at hlen
    have hfx : f x = g x := hx.eq_of_length (by omega)
    have hrest : l.flatMap f = l.flatMap g := by
      rw [List.flatMap_cons, List.flatMap_cons, hfx] at heq
      exact List.append_cancel_left heq
    intro y hy
    rcases List.mem_cons.1 hy with rfl | hy
    · exact hfx
    · exact ih hl hrest y hy

variable {P : SyntaxTree → Bool}

theorem filter_exposedBelow_iff {t c : SyntaxTree}
    (ih : c.exposed.filter P = c.subtrees.filter P ↔ ∀ x ∈ c.lost, P x = false) :
    (t.exposedBelow c).filter P = c.subtrees.filter P ↔
      (t.omits c → ∀ x ∈ c.subtrees, P x = false) ∧ ∀ x ∈ c.lost, P x = false := by
  rw [exposedBelow]
  cases hc : t.omits c with
  | false => simpa using ih
  | true =>
    simp only [if_true, List.filter_nil, forall_const]
    constructor
    · intro h
      have hnone : ∀ x ∈ c.subtrees, P x = false := by
        simpa using List.filter_eq_nil_iff.1 h.symm
      exact ⟨hnone, fun x hx => hnone x (mem_subtrees_of_lost hx)⟩
    · rintro ⟨hnone, -⟩
      exact (List.filter_eq_nil_iff.2 fun x hx => by simp [hnone x hx]).symm

/-- All of what one looks for is found just if none of it is lost. -/
theorem filter_exposed_iff (t : SyntaxTree) :
    t.exposed.filter P = t.subtrees.filter P ↔ ∀ x ∈ t.lost, P x = false := by
  induction t using childInduction with
  | step t ih =>
    have hsub (c : SyntaxTree) (_ : c ∈ t.children) :
        ((t.exposedBelow c).filter P).Sublist (c.subtrees.filter P) :=
      (exposedBelow_sublist c.exposed_sublist).filter P
    have hbelow : (t.children.flatMap t.exposedBelow).filter P =
        (t.children.flatMap subtrees).filter P ↔ ∀ x ∈ t.lost, P x = false := by
      rw [List.filter_flatMap, List.filter_flatMap, flatMap_eq_iff hsub]
      constructor
      · intro h x hx
        rcases mem_lost.1 hx with ⟨c, hc, hx⟩ | ⟨c, hc, hx⟩
        · obtain ⟨hmem, homits⟩ := List.mem_filter.1 hc
          exact ((filter_exposedBelow_iff (ih c hmem)).1 (h c hmem)).1 homits x hx
        · exact ((filter_exposedBelow_iff (ih c hc)).1 (h c hc)).2 x hx
      · intro h c hc
        refine (filter_exposedBelow_iff (ih c hc)).2 ⟨fun homits x hx => ?_, fun x hx => ?_⟩
        · exact h x (mem_lost.2 (.inl ⟨c, List.mem_filter.2 ⟨hc, homits⟩, hx⟩))
        · exact h x (mem_lost.2 (.inr ⟨c, hc, hx⟩))
    rw [exposed_eq_children, subtrees_eq, List.filter_cons, List.filter_cons, ← hbelow]
    split
    · rw [List.cons_inj_right]
    · rfl

end CodeSurvey.Script.SyntaxTree
