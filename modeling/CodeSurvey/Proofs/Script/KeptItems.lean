import CodeSurvey.Proofs.Script.LostTrees
import Mathlib.Data.List.Forall2
import Mathlib.Data.List.Perm.Basic

/-!
# Kept items

The calls, named functions and declared names of a tree, and their counterparts in the program it
is lowered to. Each that is not lost has exactly one.
-/

namespace CodeSurvey.Script

/-! ## Items of programs -/

namespace Node

def isCall : Node → Bool
  | .call .. => true
  | _ => false

def declaredFunction? : Node → Option String
  | .function f => if f.kind = .declaration then f.name else none
  | _ => none

def declarators : Node → List (Declarator Node)
  | .declaration _ ds _ => ds
  | _ => []

def namedDeclarators (program : Node) : List (Declarator Node) :=
  (program.preorder.flatMap declarators).filter fun d => d.name?.isSome

end Node

/-! ## Items of trees -/

namespace SyntaxTree

def isCall (t : SyntaxTree) : Bool := t.kind == "call_expression"

def declaredFunction? (t : SyntaxTree) : Option String :=
  if declaredFunctionKinds.contains t.kind then (t.field? "name").map text else none

def declaredName? (t : SyntaxTree) : Option String :=
  if t.kind = "variable_declarator" then
    (t.field? "name").bind fun c => if c.kind = "identifier" then some c.text else none
  else none

def isItem (t : SyntaxTree) : Bool :=
  t.isCall || t.declaredFunction?.isSome || t.declaredName?.isSome

/-- The declarators of plain names that loops over collections stand for without one of their
own. -/
def loopDeclarators (t : SyntaxTree) : List (Declarator Node) :=
  (t.exposed.flatMap fun u =>
    if u.kind = "for_in_statement" then u.loopHead?.toList.flatMap Node.declarators else []).filter
      fun d => d.name?.isSome

end SyntaxTree

open SyntaxTree

/-! ## Counterparts -/

def CallFor (t : SyntaxTree) (n : Node) : Prop := n.isCall ∧ n.span = t.span

def FunctionFor (t : SyntaxTree) (n : Node) : Prop :=
  n.declaredFunction? = t.declaredFunction? ∧ n.span = t.span

def DeclaratorFor (t : SyntaxTree) (d : Declarator Node) : Prop :=
  d.name? = t.declaredName? ∧ d.span = t.span

/-- Every call, every named function declaration and every declared name of a tree has exactly
one counterpart in a program, of the same span, and the program has no others, but for the names
that loops declare. -/
structure Preserves (t : SyntaxTree) (program : Node) : Prop where
  calls : List.Forall₂ CallFor (t.subtrees.filter SyntaxTree.isCall)
    (program.preorder.filter Node.isCall)
  functions : List.Forall₂ FunctionFor (t.subtrees.filter fun u => u.declaredFunction?.isSome)
    (program.preorder.filter fun n => n.declaredFunction?.isSome)
  declarators : ∃ ds, List.Forall₂ DeclaratorFor
      (t.subtrees.filter fun u => u.declaredName?.isSome) ds ∧
    (ds ++ t.loopDeclarators).Perm program.namedDeclarators

/-! ## What is not lost is kept -/

theorem map_filter_eq_flatMap {α β : Type} (p : α → Bool) (f : α → β) (l : List α) :
    (l.filter p).map f = l.flatMap fun x => if p x then [f x] else [] := by
  induction l with
  | nil => rfl
  | cons x l ih =>
    rw [List.filter_cons, List.flatMap_cons, ← ih]
    split <;> rfl

theorem filter_eq_flatMap {α : Type} (p : α → Bool) (l : List α) :
    l.filter p = l.flatMap fun x => if p x then [x] else [] := by
  rw [← List.map_id (l.filter p), map_filter_eq_flatMap]
  rfl

section Kept

variable {t : SyntaxTree}

theorem lower_of_isCall (h : t.isCall) :
    lower t = .call (t.lowered "function") t.arguments t.span := by
  have hkind : t.kind = "call_expression" := beq_iff_eq.1 h
  rw [lower_eq, Lowering.lowerWith]
  simp only [hkind]
  exact call_lowerBelow t

theorem lower_of_declaredFunction (h : declaredFunctionKinds.contains t.kind) :
    lower t = .function (Lowering.function (lowerBelow t) .declaration) := by
  simp only [declaredFunctionKinds, List.contains_cons, List.contains_nil, Bool.or_false,
    Bool.or_eq_true, beq_iff_eq] at h
  rw [lower_eq, Lowering.lowerWith]
  rcases h with h | h <;> simp only [h]

theorem declaredFunction?_lower (h : declaredFunctionKinds.contains t.kind) :
    (lower t).declaredFunction? = t.declaredFunction? := by
  rw [lower_of_declaredFunction h, SyntaxTree.declaredFunction?, if_pos h, ← fieldBelow?_val,
    Option.map_map]
  rfl

theorem lower_of_declaration (h : declarationKinds.contains t.kind) :
    lower t = .declaration (Lowering.declarationKind t)
      ((t.namedChildren.filter fun c => c.kind = "variable_declarator").map
        SyntaxTree.declarator) t.span := by
  simp only [declarationKinds, List.contains_cons, List.contains_nil, Bool.or_false,
    Bool.or_eq_true, beq_iff_eq] at h
  rw [lower_eq, Lowering.lowerWith, ← declaration_lowerBelow]
  rcases h with h | h <;> simp only [h]

theorem made_eq {β : Type} (own : Node → List β) (t : SyntaxTree) :
    t.made own =
      (if t.isCall then own (lower t) else []) ++
      ((if declaredFunctionKinds.contains t.kind then own (lower t) else []) ++
      ((if declarationKinds.contains t.kind then own (lower t) else []) ++
      (if t.kind = "for_in_statement" then t.loopHead?.toList.flatMap own else []))) := by
  rw [made]
  by_cases hloop : t.kind = "for_in_statement"
  · simp [hloop, SyntaxTree.isCall, declaredFunctionKinds, declarationKinds]
  · by_cases hcall : t.kind = "call_expression"
    · simp [hcall, SyntaxTree.isCall, isProductive, declaredFunctionKinds, declarationKinds]
    · by_cases hfunction : declaredFunctionKinds.contains t.kind
      · have hk := hfunction
        simp only [declaredFunctionKinds, List.contains_cons, List.contains_nil, Bool.or_false,
          Bool.or_eq_true, beq_iff_eq] at hk
        rcases hk with hk | hk <;>
          simp [hk, SyntaxTree.isCall, isProductive, declaredFunctionKinds, declarationKinds]
      · by_cases hdeclaration : declarationKinds.contains t.kind
        · have hk := hdeclaration
          simp only [declarationKinds, List.contains_cons, List.contains_nil, Bool.or_false,
            Bool.or_eq_true, beq_iff_eq] at hk
          rcases hk with hk | hk <;>
            simp [hk, SyntaxTree.isCall, isProductive, declaredFunctionKinds, declarationKinds]
        · have hprod : (isProductive t.kind && t.kind != "variable_declarator") = false := by
            simp_all [isProductive]
          have hcall' : t.isCall = false := beq_eq_false_iff_ne.2 hcall
          rw [if_neg hloop, if_neg hloop, if_neg hfunction, if_neg hdeclaration, hprod, hcall']
          rfl

theorem filter_lower (h : Conforms t) (hkind : t.kind ≠ "variable_declarator")
    {p : Node → Bool} {q : SyntaxTree → Bool} (hp : ∀ n, isProduct n = false → p n = false)
    (hdeclared : ∀ kind ds span, p (.declaration kind ds span) = false)
    (hq : ∀ u, ((u.isCall || declaredFunctionKinds.contains u.kind) && p (lower u)) = q u) :
    (lower t).preorder.filter p = (t.exposed.filter q).map lower := by
  let own : Node → List Node := fun n => if p n then [n] else []
  have hsparse : Sparse own := fun n hn => by simp [own, hp n hn]
  have hgather := gather_lower hsparse h hkind
  rw [gather, ← filter_eq_flatMap] at hgather
  rw [hgather, map_filter_eq_flatMap]
  refine List.flatMap_congr fun u _ => ?_
  have hdeclaration : (if declarationKinds.contains u.kind then own (lower u) else []) = [] := by
    split
    next hd => simp [own, lower_of_declaration hd, hdeclared]
    next => rfl
  have hloop : u.loopHead?.toList.flatMap own = [] := by
    rw [loopHead?]
    cases u.field? "left" <;> cases u.field? "kind" <;> simp [own, hdeclared]
  rw [made_eq, hdeclaration, hloop, ite_self, List.append_nil, List.append_nil, ← hq u]
  cases hcall : u.isCall with
  | false => cases declaredFunctionKinds.contains u.kind <;> simp [own]
  | true =>
    have hk : declaredFunctionKinds.contains u.kind = false := by
      rw [beq_iff_eq.1 hcall]
      rfl
    rw [hk]
    simp [own]

theorem calls_lower (h : Conforms t) (hkind : t.kind ≠ "variable_declarator") :
    (lower t).preorder.filter Node.isCall = (t.exposed.filter SyntaxTree.isCall).map lower := by
  refine filter_lower h hkind (fun n hn => ?_) (fun _ _ _ => rfl) fun u => ?_
  · cases n <;> simp_all [isProduct, Node.isCall]
  · cases hcall : u.isCall with
    | true =>
      rw [lower_of_isCall hcall]
      rfl
    | false =>
      cases hfunction : declaredFunctionKinds.contains u.kind with
      | true =>
        rw [lower_of_declaredFunction hfunction]
        rfl
      | false => rfl

theorem functions_lower (h : Conforms t) (hkind : t.kind ≠ "variable_declarator") :
    (lower t).preorder.filter (fun n => n.declaredFunction?.isSome) =
      (t.exposed.filter fun u => u.declaredFunction?.isSome).map lower := by
  refine filter_lower h hkind (fun n hn => ?_) (fun _ _ _ => rfl) fun u => ?_
  · cases n <;> simp_all [isProduct, Node.declaredFunction?]
  · cases hfunction : declaredFunctionKinds.contains u.kind with
    | true => rw [declaredFunction?_lower hfunction, Bool.or_true, Bool.true_and]
    | false =>
      cases hcall : u.isCall with
      | true =>
        rw [lower_of_isCall hcall, SyntaxTree.declaredFunction?, hfunction]
        rfl
      | false =>
        rw [SyntaxTree.declaredFunction?, hfunction]
        rfl

/-! ## Declarators -/

theorem name?_lower_of_isBound {c : SyntaxTree} (h : isBound c.kind) (init : Option Node)
    (span : Span) : (Declarator.mk (lower c) init span).name? =
      if c.kind = "identifier" then some c.text else none := by
  simp only [isBound, List.contains_cons, List.contains_nil, Bool.or_false, Bool.or_eq_true,
    beq_iff_eq] at h
  rw [lower_eq, Lowering.lowerWith]
  rcases h with h | h | h <;> simp [h, Declarator.name?]

theorem name?_declarator (h : Conforms t) (hkind : t.kind = "variable_declarator") :
    t.declarator.name? = t.declaredName? := by
  have hroles : roles? t.kind = some [["name"], ["value"]] := by
    rw [hkind]
    rfl
  rw [SyntaxTree.declarator, SyntaxTree.declaredName?, if_pos hkind, SyntaxTree.lowered]
  cases hname : t.field? "name" with
  | none => rfl
  | some c =>
    have hread := readable_of_field? h hroles ["name"] (by simp) (by simp) hname
    have hbound := (kind_of_readable (declarationKinds_of_roles hroles) hread).2.2.2 hkind
      (field?_some hname).2
    exact name?_lower_of_isBound hbound _ _

theorem conforms_of_exposed (h : Conforms t) {u : SyntaxTree} (hu : u ∈ t.exposed) :
    Conforms u := by
  induction t using SyntaxTree.childInduction with
  | step t ih =>
    rw [exposed_eq] at hu
    rcases List.mem_cons.1 hu with rfl | hu
    · exact h
    · obtain ⟨c, hc, hu⟩ := List.mem_flatMap.1 hu
      have hmem := (List.mem_filter.1 hc).1
      exact ih c hmem (h.below_mem hmem) hu

/-- Below a node that is no declaration, a declarator could only be lost. -/
theorem kept_not_declarator (h : Conforms t) (hkind : declarationKinds.contains t.kind = false)
    {c : SyntaxTree} (hc : c ∈ t.kept) : c.kind ≠ "variable_declarator" := by
  obtain ⟨hmem, hkept⟩ := List.mem_filter.1 hc
  cases hx : c.info.extra with
  | true =>
    intro hk
    have hprod := (h.isComment hmem hx).unproductive
    rw [hk] at hprod
    exact absurd hprod (by decide)
  | false =>
    obtain ⟨u, hu, -⟩ := h.use_own (SyntaxTree.mem_ownChildren.2 ⟨hmem, hx⟩)
    refine kind_of_use? hu hkind fun homitted => ?_
    subst homitted
    cases hroles : roles? t.kind with
    | none => exact use?_ne_omitted (omittedRoles_of_listed hroles) hu
    | some roles =>
      rcases use?_of_roles hroles hu with ⟨_, h', -, -, -⟩ | ⟨-, -, homits⟩ | ⟨-, h', -⟩
      · cases h'
      · have : t.omits c = true := homits
        simp [this] at hkept
      · cases h'

theorem filter_kept_of_other (h : Conforms t) (hkind : declarationKinds.contains t.kind = false) :
    (t.kept.filter fun c => c.declaredName?.isSome) = [] := by
  refine List.filter_eq_nil_iff.2 fun c hc => ?_
  simp [SyntaxTree.declaredName?, kept_not_declarator h hkind hc]

theorem filter_kept_of_declaration (h : Conforms t) (hkind : declarationKinds.contains t.kind) :
    (t.kept.filter fun c => c.declaredName?.isSome).map SyntaxTree.declarator =
      ((t.namedChildren.filter fun c => c.kind = "variable_declarator").map
        SyntaxTree.declarator).filter fun d => d.name?.isSome := by
  have hroles : roles? t.kind = none := by
    simp only [declarationKinds, List.contains_cons, List.contains_nil, Bool.or_false,
      Bool.or_eq_true, beq_iff_eq] at hkind
    rcases hkind with hk | hk <;> rw [hk] <;> rfl
  rw [List.filter_map, kept, namedChildren, List.filter_filter, List.filter_filter,
    List.filter_filter]
  congr 1
  refine List.filter_congr fun c hc => ?_
  have homits : t.omits c = false := by
    simp [SyntaxTree.omits, omittedRoles_of_listed hroles]
  by_cases hk : c.kind = "variable_declarator"
  · have hprod : isProductive c.kind = true := by
      rw [hk]
      rfl
    have hx : c.info.extra = false := by
      refine Bool.eq_false_iff.2 fun hx => ?_
      rw [(h.isComment hc hx).unproductive] at hprod
      cases hprod
    obtain ⟨u, hu, -⟩ := h.use_own (SyntaxTree.mem_ownChildren.2 ⟨hc, hx⟩)
    have hnamed : c.info.named = true := by
      rcases use?_of_listed hroles hu with ⟨hnamed, -, -⟩ | ⟨-, -, hunprod⟩
      · exact hnamed
      · exact absurd hprod (Bool.eq_false_iff.1 hunprod)
    have hname := name?_declarator (h.below_mem hc) hk
    simp [homits, hk, hx, hnamed, hname]
  · simp [SyntaxTree.declaredName?, hk]

theorem flatMap_kept_perm (t : SyntaxTree) :
    (t.exposed.flatMap kept).Perm (t.kept.flatMap exposed) := by
  induction t using SyntaxTree.childInduction with
  | step t ih =>
    rw [exposed_eq, List.flatMap_cons, List.flatMap_assoc]
    have hbelow : (t.kept.flatMap fun c => c.exposed.flatMap kept).Perm
        (t.kept.flatMap fun c => c.kept.flatMap exposed) :=
      List.Perm.flatMap_left t.kept fun c hc => ih c (List.mem_filter.1 hc).1
    have hcons := List.map_append_flatMap_perm t.kept id fun c => c.kept.flatMap exposed
    rw [List.map_id] at hcons
    refine (hbelow.append_left t.kept).trans (hcons.trans ?_)
    refine List.Perm.of_eq (List.flatMap_congr fun c _ => ?_)
    exact (exposed_eq c).symm

/-- The named declarators that are made of a tree: those of a declaration, or that of a loop. -/
theorem made_declarators (h : Conforms t) :
    (t.made Node.declarators).filter (fun d => d.name?.isSome) =
      (t.kept.filter fun c => c.declaredName?.isSome).map SyntaxTree.declarator ++
        (if t.kind = "for_in_statement" then t.loopHead?.toList.flatMap Node.declarators
          else []).filter fun d => d.name?.isSome := by
  have hcall : (if t.isCall then (lower t).declarators else []) = [] := by
    split
    next hc => rw [lower_of_isCall hc]; rfl
    next => rfl
  have hfunction :
      (if declaredFunctionKinds.contains t.kind then (lower t).declarators else []) = [] := by
    split
    next hf => rw [lower_of_declaredFunction hf]; rfl
    next => rfl
  rw [made_eq, hcall, hfunction, List.nil_append, List.nil_append, List.filter_append]
  congr 1
  cases hkind : declarationKinds.contains t.kind with
  | true =>
    rw [filter_kept_of_declaration h hkind, if_pos rfl, lower_of_declaration hkind]
    rfl
  | false =>
    rw [filter_kept_of_other h hkind]
    rfl

theorem declarators_lower (h : Conforms t) (hkind : t.kind ≠ "variable_declarator") :
    ((t.exposed.filter fun u => u.declaredName?.isSome).map SyntaxTree.declarator ++
      t.loopDeclarators).Perm (lower t).namedDeclarators := by
  have hsparse : Sparse Node.declarators := by
    intro n hn
    cases n <;> simp_all [isProduct, Node.declarators]
  have hgather := gather_lower hsparse h hkind
  rw [gather] at hgather
  rw [Node.namedDeclarators, hgather, loopDeclarators, List.filter_flatMap, List.filter_flatMap,
    List.flatMap_congr fun u hu => made_declarators (conforms_of_exposed h hu)]
  refine .trans (.append_right _ ?_) (List.flatMap_append_perm t.exposed _ _)
  -- declarators are met below their declarations, not at their own places
  have hroot : t.declaredName? = none := by simp [SyntaxTree.declaredName?, hkind]
  have hself : t.exposed.filter (fun u => u.declaredName?.isSome) =
      (t.kept.flatMap exposed).filter fun u => u.declaredName?.isSome := by
    rw [exposed_eq, List.filter_cons_of_neg (by simp [hroot])]
  have hperm := ((flatMap_kept_perm t).filter fun u => u.declaredName?.isSome).symm
  rw [List.filter_flatMap (l := t.exposed)] at hperm
  rw [hself, ← List.map_flatMap]
  exact hperm.map SyntaxTree.declarator

/-! ## Counterparts of what is not left out -/

theorem callFor_lower {u : SyntaxTree} (h : u.isCall) : CallFor u (lower u) := by
  rw [CallFor, lower_of_isCall h]
  exact ⟨rfl, rfl⟩

theorem functionFor_lower {u : SyntaxTree} (h : u.declaredFunction?.isSome) :
    FunctionFor u (lower u) := by
  have hkind : declaredFunctionKinds.contains u.kind = true := by
    refine Bool.eq_true_of_not_eq_false fun hk => ?_
    rw [SyntaxTree.declaredFunction?, hk] at h
    cases h
  refine ⟨declaredFunction?_lower hkind, ?_⟩
  rw [lower_of_declaredFunction hkind]
  rfl

theorem declaratorFor_declarator {u : SyntaxTree} (h : Conforms u)
    (hname : u.declaredName?.isSome) : DeclaratorFor u u.declarator := by
  have hkind : u.kind = "variable_declarator" := by
    by_contra hk
    rw [SyntaxTree.declaredName?, if_neg hk] at hname
    cases hname
  exact ⟨name?_declarator h hkind, rfl⟩

theorem forall₂_map_of_mem {α β : Type} {R : α → β → Prop} {f : α → β} {l : List α}
    (h : ∀ x ∈ l, R x (f x)) : List.Forall₂ R l (l.map f) := by
  rw [List.forall₂_map_right_iff, List.forall₂_same]
  exact h

theorem eq_of_sublist_of_forall₂ {α β : Type} {R : α → β → Prop} {l l' : List α} {m : List β}
    (hsub : l.Sublist l') (h : List.Forall₂ R l m) (h' : List.Forall₂ R l' m) : l = l' :=
  hsub.eq_of_length (h.length_eq.trans h'.length_eq.symm)

/-- The exact extent to which lowering preserves a tree. -/
theorem preserves_lower_iff (h : Conforms t) (hkind : t.kind ≠ "variable_declarator") :
    Preserves t (lower t) ↔ ∀ x ∈ t.lost, x.isItem = false := by
  have hcalls : List.Forall₂ CallFor (t.exposed.filter SyntaxTree.isCall)
      ((lower t).preorder.filter Node.isCall) := by
    rw [calls_lower h hkind]
    exact forall₂_map_of_mem fun u hu => callFor_lower (List.mem_filter.1 hu).2
  have hfunctions : List.Forall₂ FunctionFor
      (t.exposed.filter fun u => u.declaredFunction?.isSome)
      ((lower t).preorder.filter fun n => n.declaredFunction?.isSome) := by
    rw [functions_lower h hkind]
    exact forall₂_map_of_mem fun u hu => functionFor_lower (List.mem_filter.1 hu).2
  have hnames : List.Forall₂ DeclaratorFor (t.exposed.filter fun u => u.declaredName?.isSome)
      ((t.exposed.filter fun u => u.declaredName?.isSome).map SyntaxTree.declarator) := by
    refine forall₂_map_of_mem fun u hu => ?_
    obtain ⟨hu, hname⟩ := List.mem_filter.1 hu
    exact declaratorFor_declarator (conforms_of_exposed h hu) hname
  have hdeclarators := declarators_lower h hkind
  constructor
  · rintro ⟨hcalls', hfunctions', ds, hnames', hperm⟩
    have e₁ := eq_of_sublist_of_forall₂ (t.exposed_sublist.filter _) hcalls hcalls'
    have e₂ := eq_of_sublist_of_forall₂ (t.exposed_sublist.filter _) hfunctions hfunctions'
    have e₃ : (t.exposed.filter fun u => u.declaredName?.isSome) =
        t.subtrees.filter fun u => u.declaredName?.isSome := by
      refine (t.exposed_sublist.filter _).eq_of_length ?_
      have hlen := (hdeclarators.trans hperm.symm).length_eq
      rw [List.length_append, List.length_append, List.length_map] at hlen
      have hlen' := hnames'.length_eq
      omega
    intro x hx
    rw [isItem, (filter_exposed_iff t).1 e₁ x hx, (filter_exposed_iff t).1 e₂ x hx,
      (filter_exposed_iff t).1 e₃ x hx]
    rfl
  · intro hlost
    have hitem : ∀ x ∈ t.lost, x.isCall = false ∧ x.declaredFunction?.isSome = false ∧
        x.declaredName?.isSome = false := by
      intro x hx
      have h' := hlost x hx
      simp only [isItem, Bool.or_eq_false_iff] at h'
      exact ⟨h'.1.1, h'.1.2, h'.2⟩
    have e₁ := (filter_exposed_iff t).2 fun x hx => (hitem x hx).1
    have e₂ := (filter_exposed_iff t).2 fun x hx => (hitem x hx).2.1
    have e₃ := (filter_exposed_iff t).2 fun x hx => (hitem x hx).2.2
    exact ⟨e₁ ▸ hcalls, e₂ ▸ hfunctions, _, e₃ ▸ hnames, hdeclarators⟩

end Kept

end CodeSurvey.Script
