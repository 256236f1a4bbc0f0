import CodeSurvey.Proofs.Script.LoweredParts

/-!
# Spans of lowered trees

Lowering makes up no spans. Whatever tree it starts from, each node and each declarator of the
program has the span of some tree.
-/

namespace CodeSurvey.Script
open SyntaxTree

namespace Node

def ownSpans (n : Node) : List Span := n.span :: n.declarators.map Declarator.span

/-- All spans at a node and below it have a property. -/
def Spanned (P : Span → Prop) (n : Node) : Prop := ∀ m ∈ n.preorder, ∀ s ∈ m.ownSpans, P s

variable {P : Span → Prop} {n : Node}

theorem Spanned.of_children (hown : ∀ s ∈ n.ownSpans, P s) (hbelow : ∀ c ∈ n.children, c.Spanned P) :
    n.Spanned P := by
  intro m hm
  rw [preorder_eq] at hm
  rcases List.mem_cons.1 hm with rfl | hm
  · exact hown
  · obtain ⟨c, hc, hm⟩ := List.mem_flatMap.1 hm
    exact hbelow c hc m hm

/-- Few nodes have declarators. -/
theorem Spanned.of_plain (hn : n.declarators = []) (hspan : P n.span)
    (hbelow : ∀ c ∈ n.children, c.Spanned P) : n.Spanned P := by
  refine .of_children (fun s hs => ?_) hbelow
  rw [ownSpans, hn] at hs
  obtain rfl := List.mem_singleton.1 hs
  exact hspan

theorem Spanned.of_leaf (hn : n.declarators = []) (hspan : P n.span) (hleaf : n.children = []) :
    n.Spanned P := by
  refine .of_plain hn hspan fun c hc => ?_
  rw [hleaf] at hc
  cases hc

theorem Spanned.declaration {kind : VariableKind} {ds : List (Declarator Node)} {span : Span}
    (hspan : P span) (hown : ∀ d ∈ ds, P d.span) (hbelow : ∀ d ∈ ds, ∀ c ∈ d.children, c.Spanned P) :
    (Node.declaration kind ds span).Spanned P := by
  refine .of_children ?_ ?_
  · intro s hs
    rcases List.mem_cons.1 hs with rfl | hs
    · exact hspan
    · obtain ⟨d, hd, rfl⟩ := List.mem_map.1 hs
      exact hown d hd
  · intro c hc
    obtain ⟨d, hd, hc⟩ := List.mem_flatMap.1 hc
    exact hbelow d hd c hc

theorem Spanned.child {c : Node} (h : n.Spanned P) (hc : c ∈ n.children) : c.Spanned P := by
  intro m hm
  apply h
  rw [preorder_eq, List.mem_cons, List.mem_flatMap]
  exact .inr ⟨c, hc, hm⟩

end Node

/-! ## Lowered trees -/

theorem LoweredPart.spanned {P : Span → Prop} {t : SyntaxTree} {n : Node} (h : LoweredPart t n)
    (ht : P t.span)
    (hchild : ∀ c ∈ t.children, P c.span ∧ (lower c).Spanned P)
    (hinner : ∀ c ∈ t.children, ∀ d ∈ c.children, (lower d).Spanned P) : n.Spanned P := by
  cases h with
  | child hc => exact (hchild _ hc).2
  | inner hc hd => exact hinner _ hc _ hd
  | method hc hkind =>
    refine .of_plain rfl (hchild _ hc).1 ?_
    intro m hm
    rw [children_method hkind] at hm
    exact (hchild _ hc).2.child hm
  | loopHead kind hc =>
    obtain ⟨hspan, hlower⟩ := hchild _ hc
    refine .declaration hspan ?_ ?_
    · intro d hd
      obtain rfl := List.mem_singleton.1 hd
      exact hspan
    · intro d hd m hm
      obtain rfl := List.mem_singleton.1 hd
      obtain rfl := List.mem_singleton.1 hm
      exact hlower
  | absent => exact .of_leaf rfl ht rfl
  | innerAbsent hc => exact .of_leaf rfl (hchild _ hc).1 rfl

theorem spanned_lower {P : Span → Prop} {t : SyntaxTree} (ht : ∀ u ∈ t.subtrees, P u.span) :
    (lower t).Spanned P := by
  have hself : P t.span := ht t t.self_mem_subtrees
  have hchild : ∀ c ∈ t.children, P c.span ∧ (lower c).Spanned P := by
    intro c hc
    have hsize := sizeOf_child hc
    have hbelow : ∀ u ∈ c.subtrees, P u.span := fun u hu => ht u (mem_subtrees_of_child hc hu)
    exact ⟨hbelow c c.self_mem_subtrees, spanned_lower hbelow⟩
  have hinner : ∀ c ∈ t.children, ∀ d ∈ c.children, (lower d).Spanned P := by
    intro c hc d hd
    have hsize := Nat.lt_trans (sizeOf_child hd) (sizeOf_child hc)
    exact spanned_lower fun u hu => ht u (mem_subtrees_of_child hc (mem_subtrees_of_child hd hu))
  rcases lower_cases t with ⟨c, hc, heq⟩ | ⟨hspan, hdeclared, hparts⟩
  · rw [heq]
    exact (hchild c hc).2
  · apply Node.Spanned.of_children
    · intro s hs
      rcases List.mem_cons.1 hs with rfl | hs
      · exact hspan ▸ hself
      · obtain ⟨d, hd, rfl⟩ := List.mem_map.1 hs
        obtain ⟨c, hc, heq⟩ := hdeclared d hd
        exact heq ▸ (hchild c hc).1
    · exact fun n hn => (hparts n hn).spanned hself hchild hinner
termination_by t

end CodeSurvey.Script
