import CodeSurvey.Proofs.Script.KeptItems

/-!
# Plain initializers

In the program of a tree that conforms no variable starts as a declared function: a declarator reads
no tree that declares one, in parentheses or not.
-/

namespace CodeSurvey.Script
open SyntaxTree

/-- No variable starts as a declared function. -/
def Node.InitializesPlainly (program : Node) : Prop :=
  ∀ d ∈ gather declarators program, ∀ f, d.init = some (.function f) → f.kind ≠ .declaration

theorem declares_of_lower {t : SyntaxTree} {f : FunctionNode Node} (h : lower t = .function f)
    (hf : f.kind = .declaration) :
    declaredFunctionKinds.contains t.kind ∨
      t.kind = "parenthesized_expression" ∧ ∃ c ∈ t.namedChildren, lower c = .function f := by
  by_cases hdeclared : declaredFunctionKinds.contains t.kind
  · exact .inl hdeclared
  · by_cases hparen : t.kind = "parenthesized_expression"
    · refine .inr ⟨hparen, ?_⟩
      rw [lower_eq, Lowering.lowerWith] at h
      simp only [hparen] at h
      rw [parenthesized_lowerBelow] at h
      split at h
      next c hc => exact ⟨c, by simp [hc], h⟩
      next => cases h
    · exfalso
      rw [lower_eq, Lowering.lowerWith] at h
      split at h
      case h_1 hk | h_2 hk => exact hdeclared (by rw [hk]; rfl)
      case h_3 | h_4 | h_5 | h_6 | h_8 =>
        cases h
        cases hf
      all_goals first
        | exact hparen ‹_›
        | cases h

theorem not_declaration_of_lower {t : SyntaxTree} (h : Conforms t)
    (hkind : declaredFunctionKinds.contains t.kind = false) {f : FunctionNode Node}
    (hlower : lower t = .function f) : f.kind ≠ .declaration := by
  induction t using SyntaxTree.childInduction with
  | step t ih =>
    intro hf
    rcases declares_of_lower hlower hf with hdeclared | ⟨hparen, c, hc, hlower'⟩
    · rw [hkind] at hdeclared
      cases hdeclared
    · have hmem := (List.mem_filter.1 hc).1
      have hroles : roles? t.kind = none := by
        rw [hparen]
        rfl
      have hlisted : declarationKinds.contains t.kind = false := by
        rw [hparen]
        rfl
      have hread := kind_of_readable hlisted (readable_of_named h hroles hc)
      exact ih c hmem (h.below_mem hmem) (hread.2.2.1 (.inr hparen)) hlower' hf

theorem not_declaration_of_init {c : SyntaxTree} (h : Conforms c)
    (hkind : c.kind = "variable_declarator") {f : FunctionNode Node}
    (hinit : c.declarator.init = some (.function f)) : f.kind ≠ .declaration := by
  obtain ⟨v, hv, hlower⟩ := Option.map_eq_some_iff.1 hinit
  have hroles : roles? c.kind = some [["name"], ["value"]] := by
    rw [hkind]
    rfl
  have hread := readable_of_field? h hroles ["value"] (by simp) (by simp) hv
  have hplain := (kind_of_readable (declarationKinds_of_roles hroles) hread).2.2.1 (.inl hkind)
  exact not_declaration_of_lower (h.below_mem (field?_some hv).1) hplain hlower

theorem init_of_loopHead? {t : SyntaxTree} {d : Declarator Node}
    (h : d ∈ t.loopHead?.toList.flatMap Node.declarators) : d.init = none := by
  rw [loopHead?] at h
  cases hleft : t.field? "left" with
  | none =>
    rw [hleft] at h
    cases h
  | some left =>
    cases hword : t.field? "kind" with
    | none =>
      rw [hleft, hword] at h
      cases h
    | some keyword =>
      rw [hleft, hword] at h
      obtain rfl : d = ⟨lower left, none, left.span⟩ := by simpa [Node.declarators] using h
      rfl

theorem initializesPlainly_lower {t : SyntaxTree} (h : Conforms t)
    (hkind : t.kind ≠ "variable_declarator") : (lower t).InitializesPlainly := by
  have hsparse : Sparse Node.declarators := by
    intro n hn
    cases n <;> simp_all [isProduct, Node.declarators]
  intro d hd f hinit
  rw [gather_lower hsparse h hkind] at hd
  obtain ⟨u, hu, hd⟩ := List.mem_flatMap.1 hd
  have hconforms := conforms_of_exposed h hu
  rw [made_eq, List.mem_append, List.mem_append, List.mem_append] at hd
  rcases hd with hd | hd | hd | hd
  · split at hd
    next hcall =>
      rw [lower_of_isCall hcall] at hd
      cases hd
    next => cases hd
  · split at hd
    next hfunction =>
      rw [lower_of_declaredFunction hfunction] at hd
      cases hd
    next => cases hd
  · split at hd
    next hdeclaration =>
      rw [lower_of_declaration hdeclaration] at hd
      obtain ⟨c, hc, rfl⟩ := List.mem_map.1 hd
      obtain ⟨hc, hdeclarator⟩ := List.mem_filter.1 hc
      have hmem := (List.mem_filter.1 hc).1
      exact not_declaration_of_init (hconforms.below_mem hmem) (of_decide_eq_true hdeclarator)
        hinit
    next => cases hd
  · split at hd
    next =>
      rw [init_of_loopHead? hd] at hinit
      cases hinit
    next => cases hd

end CodeSurvey.Script
