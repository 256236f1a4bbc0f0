import CodeSurvey.Script.Lowering

/-!
# Lowering, kind by kind

What each kind of tree is lowered to, in terms of the trees below it rather than of how they are
reached.
-/

namespace CodeSurvey.Script
open SyntaxTree Lowering

def lowerBelow (t : SyntaxTree) : LowerBelow t := fun c => lower c.1

theorem lower_eq (t : SyntaxTree) : lower t = lowerWith t (lowerBelow t) := by
  rw [lower]
  rfl

theorem under_lowerBelow {t : SyntaxTree} (c : Below t) :
    under (lowerBelow t) c = lowerBelow c.1 := rfl

/-! ## Looking below -/

namespace SyntaxTree

theorem namedBelow_val (t : SyntaxTree) : t.namedBelow.map Subtype.val = t.namedChildren := by
  simp [namedBelow, Function.comp_def]

theorem fieldBelow?_val (t : SyntaxTree) (name : String) :
    (t.fieldBelow? name).map Subtype.val = t.field? name := by
  simp [fieldBelow?, Function.comp_def]

theorem fieldBelow?_eq_none {t : SyntaxTree} {name : String} (h : t.field? name = none) :
    t.fieldBelow? name = none := by
  rw [← fieldBelow?_val, Option.map_eq_none_iff] at h
  exact h

theorem fieldBelow?_eq_some {t c : SyntaxTree} {name : String} (h : t.field? name = some c) :
    ∃ hc, t.fieldBelow? name = some ⟨c, hc⟩ := by
  rw [← fieldBelow?_val, Option.map_eq_some_iff] at h
  obtain ⟨⟨c', hc⟩, h, rfl⟩ := h
  exact ⟨hc, h⟩

def lowered (t : SyntaxTree) (name : String) : Node :=
  ((t.field? name).map lower).getD (.empty t.span)

def declarator (t : SyntaxTree) : Declarator Node :=
  ⟨t.lowered "name", (t.field? "value").map lower, t.span⟩

def params (t : SyntaxTree) : List Node :=
  match t.field? "parameters", t.field? "parameter" with
  | some list, _ => list.namedChildren.map lower
  | none, some single => [lower single]
  | none, none => []

def arguments (t : SyntaxTree) : List Node :=
  match t.field? "arguments" with
  | some args => if args.kind = "arguments" then args.namedChildren.map lower else [lower args]
  | none => []

/-- The declaration that a loop over a collection stands for, if it declares its variable. -/
def loopHead? (t : SyntaxTree) : Option Node :=
  match t.field? "left", t.field? "kind" with
  | some left, some keyword =>
    some (.declaration (.ofKeyword keyword.text) [⟨lower left, none, left.span⟩] left.span)
  | _, _ => none

end SyntaxTree

/-! ## What the parts come to -/

section Parts

variable (t : SyntaxTree)

theorem all_lowerBelow : all (lowerBelow t) = t.namedChildren.map lower := by
  rw [all, ← namedBelow_val, List.map_map]
  rfl

theorem field_lowerBelow (name : String) : field (lowerBelow t) name = t.lowered name := by
  rw [field, lowered, ← fieldBelow?_val, Option.map_map]
  rfl

theorem first?_lowerBelow : first? (lowerBelow t) = t.namedChildren.head?.map lower := by
  rw [first?, ← namedBelow_val, List.head?_map, Option.map_map]
  rfl

theorem declarator_lowerBelow (c : Below t) :
    Lowering.declarator (lowerBelow t) c = c.1.declarator := by
  rw [Lowering.declarator, SyntaxTree.declarator, under_lowerBelow, field_lowerBelow,
    ← fieldBelow?_val, Option.map_map]
  rfl

theorem params_lowerBelow (kind : FunctionKind) :
    (function (lowerBelow t) kind).params = t.params := by
  simp only [function, SyntaxTree.params]
  cases h : t.field? "parameters" with
  | some list =>
    obtain ⟨hc, hbelow⟩ := fieldBelow?_eq_some h
    rw [hbelow]
    exact all_lowerBelow list
  | none =>
    rw [fieldBelow?_eq_none h]
    cases h' : t.field? "parameter" with
    | some single =>
      obtain ⟨hc, hbelow⟩ := fieldBelow?_eq_some h'
      rw [hbelow]
      rfl
    | none => rw [fieldBelow?_eq_none h']

theorem children_function (kind : FunctionKind) :
    (function (lowerBelow t) kind).children = t.params ++ [t.lowered "body"] := by
  rw [FunctionNode.children, params_lowerBelow]
  rw [show (function (lowerBelow t) kind).body = field (lowerBelow t) "body" from rfl,
    field_lowerBelow]

theorem declaration_lowerBelow :
    declaration (lowerBelow t) = .declaration (declarationKind t)
      ((t.namedChildren.filter fun c => c.kind = "variable_declarator").map
        SyntaxTree.declarator) t.span := by
  rw [declaration, ← namedBelow_val, List.filter_map, List.map_map]
  congr 2
  funext c
  exact declarator_lowerBelow t c

theorem call_lowerBelow :
    Lowering.call (lowerBelow t) = .call (t.lowered "function") t.arguments t.span := by
  rw [Lowering.call, field_lowerBelow, SyntaxTree.arguments]
  cases h : t.field? "arguments" with
  | none => rw [fieldBelow?_eq_none h]
  | some args =>
    obtain ⟨hc, hbelow⟩ := fieldBelow?_eq_some h
    rw [hbelow]
    simp only [under_lowerBelow, all_lowerBelow]
    rfl

theorem forIn_lowerBelow :
    Lowering.forIn (lowerBelow t) = .other "for_in_statement"
      ((t.loopHead?.or ((t.field? "left").map lower)).toList ++
        ((t.field? "right").map lower).toList ++ ((t.field? "body").map lower).toList) t.span := by
  have side (name : String) :
      (t.fieldBelow? name).map (lowerBelow t) = (t.field? name).map lower := by
    rw [← fieldBelow?_val, Option.map_map]
    rfl
  rw [Lowering.forIn, loopHead?, List.append_assoc]
  simp only [List.filterMap_cons, side, List.filterMap_nil]
  congr 1
  congr 1
  · cases h : t.field? "left" with
    | none =>
      rw [fieldBelow?_eq_none h]
      rfl
    | some left =>
      obtain ⟨hc, hbelow⟩ := fieldBelow?_eq_some h
      rw [hbelow]
      cases t.field? "kind" <;> rfl
  · cases t.field? "right" <;> cases t.field? "body" <;> rfl

theorem propertyAccess_lowerBelow :
    ∃ property, propertyAccess (lowerBelow t) =
      .member (t.lowered "object") property none t.span := by
  rw [propertyAccess, field_lowerBelow]
  exact ⟨_, rfl⟩

theorem indexAccess_lowerBelow :
    ∃ property, indexAccess (lowerBelow t) =
      .member (t.lowered "object") property ((t.field? "index").map lower) t.span := by
  rw [indexAccess, field_lowerBelow, ← fieldBelow?_val t "index", Option.map_map]
  exact ⟨_, rfl⟩

theorem parenthesized_lowerBelow :
    parenthesized (lowerBelow t) =
      match t.namedChildren with
      | [c] => lower c
      | cs => .other "parenthesized_expression" (cs.map lower) t.span := by
  rw [parenthesized, ← namedBelow_val]
  match t.namedBelow with
  | [] => rfl
  | [c] => rfl
  | c :: d :: rest =>
    simp only [List.map_cons, List.map_map]
    rfl

end Parts

end CodeSurvey.Script
