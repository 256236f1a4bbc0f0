import CodeSurvey.Proofs.Script.KeptItems

/-!
# Parts of lowered trees

What a lowered tree is made of, one level down. Most of what is below it are the lowered children of
the tree. Some children give way to theirs, as lists of arguments do, and some nodes stand for no
tree of their own.
-/

namespace CodeSurvey.Script
open SyntaxTree Lowering

/-- What may be below a lowered tree: what its children are lowered to, or theirs; a method of a
class; the declaration of a loop; and what stands for something left out of the tree or of a child
of it. -/
inductive LoweredPart (t : SyntaxTree) : Node → Prop where
  | child {c} : c ∈ t.children → LoweredPart t (lower c)
  | inner {c d} : c ∈ t.children → d ∈ c.children → LoweredPart t (lower d)
  | method {c} : c ∈ t.children → c.kind = "method_definition" →
      LoweredPart t (Lowering.method (lowerBelow c))
  | loopHead {c} (kind : VariableKind) : c ∈ t.children →
      LoweredPart t (.declaration kind [⟨lower c, none, c.span⟩] c.span)
  | absent : LoweredPart t (.empty t.span)
  | innerAbsent {c} : c ∈ t.children → LoweredPart t (.empty c.span)

/-- A method has the children of the function that it would be outside of classes. -/
theorem children_method {t : SyntaxTree} (h : t.kind = "method_definition") :
    (Lowering.method (lowerBelow t)).children = (lower t).children := by
  rw [lower_eq, Lowering.lowerWith, h]
  rfl

/-- A node made of a tree: its lines are those of the tree, and what is below it are parts. -/
structure MadeOf (t : SyntaxTree) (n : Node) : Prop where
  span_eq : n.span = t.span
  declared : ∀ d ∈ n.declarators, ∃ c ∈ t.children, d.span = c.span
  parts : ∀ m ∈ n.children, LoweredPart t m

theorem MadeOf.of_plain {t : SyntaxTree} {n : Node} (hn : n.declarators = [])
    (hspan : n.span = t.span) (hparts : ∀ m ∈ n.children, LoweredPart t m) : MadeOf t n := by
  refine ⟨hspan, ?_, hparts⟩
  intro d hd
  rw [hn] at hd
  cases hd

namespace LoweredPart
variable {t : SyntaxTree} {n : Node}

theorem named (h : n ∈ t.namedChildren.map lower) : LoweredPart t n := by
  obtain ⟨c, hc, rfl⟩ := List.mem_map.1 h
  exact child (List.mem_filter.1 hc).1

theorem role {name : String} (h : n ∈ ((t.field? name).map lower).toList) : LoweredPart t n := by
  rw [Option.mem_toList, Option.map_eq_some_iff] at h
  obtain ⟨c, hc, rfl⟩ := h
  exact child (field?_some hc).1

theorem field (t : SyntaxTree) (name : String) : LoweredPart t (t.lowered name) := by
  rw [lowered]
  cases hc : t.field? name with
  | none => exact absent
  | some c => exact child (field?_some hc).1

/-- What is in a list is not below a node for the list. -/
theorem item {list : SyntaxTree} {name : String} (hlist : t.field? name = some list)
    (h : n ∈ list.namedChildren.map lower) : LoweredPart t n := by
  obtain ⟨c, hc, rfl⟩ := List.mem_map.1 h
  exact inner (field?_some hlist).1 (List.mem_filter.1 hc).1

theorem function (kind : FunctionKind)
    (h : n ∈ (Lowering.function (lowerBelow t) kind).children) : LoweredPart t n := by
  rw [children_function, List.mem_append, List.mem_singleton] at h
  rcases h with h | rfl
  · rw [params] at h
    split at h
    next list _ hlist => exact item hlist h
    next single _ hsingle =>
      obtain rfl := List.mem_singleton.1 h
      exact child (field?_some hsingle).1
    next => cases h
  · exact field t "body"

theorem classMember {c : Below t} (hc : c.1 ∈ t.children) :
    LoweredPart t (Lowering.classMember (lowerBelow t) c) := by
  rw [Lowering.classMember]
  split
  next hkind => exact method hc hkind
  next => exact child hc

theorem declarator {c : SyntaxTree} (hc : c ∈ t.children) (h : n ∈ c.declarator.children) :
    LoweredPart t n := by
  rcases List.mem_cons.1 h with rfl | h
  · rw [SyntaxTree.declarator, lowered]
    cases hd : c.field? "name" with
    | none => exact innerAbsent hc
    | some d => exact inner hc (field?_some hd).1
  · obtain ⟨d, hd, rfl⟩ := Option.map_eq_some_iff.1 (Option.mem_toList.1 h)
    exact inner hc (field?_some hd).1

theorem arguments (h : n ∈ t.arguments) : LoweredPart t n := by
  rw [SyntaxTree.arguments] at h
  split at h
  next args hargs =>
    split at h
    · exact item hargs h
    · obtain rfl := List.mem_singleton.1 h
      exact child (field?_some hargs).1
  next => cases h

theorem loopHead? (h : n ∈ t.loopHead?.toList) : LoweredPart t n := by
  rw [SyntaxTree.loopHead?] at h
  split at h
  next left keyword hleft _ =>
    obtain rfl := List.mem_singleton.1 h
    exact loopHead _ (field?_some hleft).1
  next => cases h

end LoweredPart

namespace MadeOf
variable (t : SyntaxTree)

theorem declaration : MadeOf t (Lowering.declaration (lowerBelow t)) := by
  rw [declaration_lowerBelow]
  have found {d : Declarator Node} (hd : d ∈ (t.namedChildren.filter fun c =>
      c.kind = "variable_declarator").map SyntaxTree.declarator) :
      ∃ c ∈ t.children, c.declarator = d := by
    obtain ⟨c, hc, rfl⟩ := List.mem_map.1 hd
    have hnamed : c ∈ t.namedChildren := (List.mem_filter.1 hc).1
    exact ⟨c, (List.mem_filter.1 hnamed).1, rfl⟩
  refine ⟨rfl, ?_, ?_⟩
  · intro d hd
    obtain ⟨c, hc, rfl⟩ := found hd
    exact ⟨c, hc, rfl⟩
  · intro n hn
    obtain ⟨d, hd, hn⟩ := List.mem_flatMap.1 hn
    obtain ⟨c, hc, rfl⟩ := found hd
    exact .declarator hc hn

theorem forIn : MadeOf t (Lowering.forIn (lowerBelow t)) := by
  rw [forIn_lowerBelow]
  apply of_plain rfl rfl
  intro n hn
  rw [Node.children, List.mem_append, List.mem_append] at hn
  rcases hn with (hn | hn) | hn
  · cases hhead : t.loopHead? with
    | none =>
      rw [hhead] at hn
      exact .role hn
    | some head =>
      apply LoweredPart.loopHead?
      rw [hhead] at hn ⊢
      exact hn
  · exact .role hn
  · exact .role hn

theorem call : MadeOf t (Lowering.call (lowerBelow t)) := by
  rw [call_lowerBelow]
  apply of_plain rfl rfl
  intro n hn
  rcases List.mem_cons.1 hn with rfl | hn
  · exact .field t "function"
  · exact .arguments hn

theorem propertyAccess : MadeOf t (Lowering.propertyAccess (lowerBelow t)) := by
  obtain ⟨property, heq⟩ := propertyAccess_lowerBelow t
  rw [heq]
  apply of_plain rfl rfl
  intro n hn
  obtain rfl := List.mem_singleton.1 hn
  exact .field t "object"

theorem indexAccess : MadeOf t (Lowering.indexAccess (lowerBelow t)) := by
  obtain ⟨property, heq⟩ := indexAccess_lowerBelow t
  rw [heq]
  apply of_plain rfl rfl
  intro n hn
  rcases List.mem_cons.1 hn with rfl | hn
  · exact .field t "object"
  · exact .role hn

end MadeOf

/-- Parentheses around a single expression give way to it. All else is made of the tree. -/
theorem lower_cases (t : SyntaxTree) :
    (∃ c ∈ t.children, lower t = lower c) ∨ MadeOf t (lower t) := by
  have all {n : Node} (hn : n ∈ Lowering.all (lowerBelow t)) : LoweredPart t n :=
    .named (all_lowerBelow t ▸ hn)
  have first {n : Node} (hn : n ∈ (Lowering.first? (lowerBelow t)).toList) : LoweredPart t n := by
    rw [first?_lowerBelow, ← List.head?_map] at hn
    exact .named (List.mem_of_head? (Option.mem_toList.1 hn))
  have field (name : String) : LoweredPart t (Lowering.field (lowerBelow t) name) :=
    field_lowerBelow t name ▸ .field t name
  rw [lower_eq, lowerWith]
  dsimp only
  split
  case h_32 =>
    rw [parenthesized_lowerBelow]
    split
    next c hc =>
      have hnamed : c ∈ t.namedChildren := hc ▸ List.mem_singleton_self c
      exact .inl ⟨c, (List.mem_filter.1 hnamed).1, rfl⟩
    next => exact .inr (.of_plain rfl rfl fun n hn => .named hn)
  all_goals apply Or.inr
  case h_1 | h_2 => exact .of_plain rfl rfl fun n hn => .function .declaration hn
  case h_3 | h_4 | h_5 | h_8 => exact .of_plain rfl rfl fun n hn => .function .expression hn
  case h_6 => exact .of_plain rfl rfl fun n hn => .function .arrow hn
  case h_7 =>
    apply MadeOf.of_plain rfl rfl
    intro n hn
    obtain ⟨c, hc, rfl⟩ := List.mem_map.1 hn
    have hnamed : c.1 ∈ t.namedChildren := t.namedBelow_val ▸ List.mem_map_of_mem hc
    exact .classMember (List.mem_filter.1 hnamed).1
  case h_9 | h_10 => exact .declaration t
  case h_11 => exact .forIn t
  case h_12 => exact .call t
  case h_16 => exact .propertyAccess t
  case h_17 => exact .indexAccess t
  case h_14 | h_15 | h_18 | h_19 | h_20 | h_21 | h_22 | h_23 =>
    apply MadeOf.of_plain rfl rfl
    intro n hn
    cases hn
  case h_26 | h_28 => exact .of_plain rfl rfl fun n hn => first hn
  case h_29 =>
    apply MadeOf.of_plain rfl rfl
    intro n hn
    rcases List.mem_cons.1 hn with rfl | hn
    · exact field "left"
    · obtain rfl := List.mem_singleton.1 hn
      exact field "right"
  case h_13 | h_24 | h_25 | h_27 | h_30 | h_31 | h_33 =>
    exact .of_plain rfl rfl fun n hn => all hn

end CodeSurvey.Script
