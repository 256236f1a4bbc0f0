import CodeSurvey.Facts.Basic
import CodeSurvey.Script.Tree

/-!
# Script nodes

A script reduced to what the survey looks at: functions, methods, declarations, calls, and the
shapes of values and parameters. All else is kept as a node of its kind with its children, so that
what is nested inside it is not lost.
-/

namespace CodeSurvey.Script

inductive FunctionKind where
  | declaration
  /-- A function as a value, methods of objects included. -/
  | expression
  | arrow
deriving DecidableEq, Inhabited

structure FunctionNode (Node : Type) where
  kind : FunctionKind
  name : Option String
  params : List Node
  body : Node
  /-- The body is the value itself rather than a block. -/
  expressionBody : Bool
  span : Span

/-- A method of a class; one with a computed or literal key has no name. -/
structure MethodNode (Node : Type) where
  name : Option String
  value : FunctionNode Node
  span : Span

structure Declarator (Node : Type) where
  id : Node
  init : Option Node
  span : Span

inductive LiteralKind where
  | string
  | number
  | bigInt
  | boolean
  | null
  | regExp
deriving DecidableEq, Inhabited

inductive Node where
  | function (f : FunctionNode Node)
  | method (m : MethodNode Node)
  | declaration (kind : VariableKind) (declarators : List (Declarator Node)) (span : Span)
  | call (callee : Node) (arguments : List Node) (span : Span)
  | creation (children : List Node) (span : Span)
  | identifier (name : String) (span : Span)
  /-- A property of an object, by name or by a computed key; a literal key gives both. -/
  | member (target : Node) (property : Option String) (computed : Option Node) (span : Span)
  | literal (kind : LiteralKind) (span : Span)
  | arrayLiteral (elements : List Node) (span : Span)
  | objectLiteral (properties : List Node) (span : Span)
  | returned (argument : Option Node) (span : Span)
  | block (body : List Node) (span : Span)
  | rest (argument : Option Node) (span : Span)
  | withDefault (left right : Node) (span : Span)
  | objectPattern (elements : List Node) (span : Span)
  | arrayPattern (elements : List Node) (span : Span)
  | other (kind : String) (children : List Node) (span : Span)

def FunctionNode.children (f : FunctionNode Node) : List Node := f.params ++ [f.body]

def Declarator.children (d : Declarator Node) : List Node := d.id :: d.init.toList

namespace Node

def empty (span : Span) : Node := other "empty" [] span

instance : Inhabited Node := ⟨empty ⟨1, 1⟩⟩

def children : Node → List Node
  | function f => f.children
  | method m => m.value.children
  | declaration _ ds _ => ds.flatMap Declarator.children
  | call callee args _ => callee :: args
  | member target _ computed _ => target :: computed.toList
  | returned argument _ | rest argument _ => argument.toList
  | withDefault left right _ => [left, right]
  | creation cs _ | arrayLiteral cs _ | objectLiteral cs _ | block cs _ | objectPattern cs _
  | arrayPattern cs _ | other _ cs _ => cs
  | identifier .. | literal .. => []

def span : Node → Span
  | function f => f.span
  | method m => m.span
  | declaration _ _ s | call _ _ s | creation _ s | identifier _ s | member _ _ _ s | literal _ s
  | arrayLiteral _ s | objectLiteral _ s | returned _ s | block _ s | rest _ s | withDefault _ _ s
  | objectPattern _ s | arrayPattern _ s | other _ _ s => s

theorem sizeOf_mem_children {c n : Node} (h : c ∈ n.children) : sizeOf c < sizeOf n := by
  have list {cs : List Node} (h : c ∈ cs) : sizeOf c < sizeOf cs := List.sizeOf_lt_of_mem h
  have opt {o : Option Node} (h : c ∈ o.toList) : sizeOf c < sizeOf o := by
    cases o with
    | none => simp at h
    | some a => simp_all
  have fn {f : FunctionNode Node} (h : c ∈ f.children) : sizeOf c < sizeOf f := by
    obtain ⟨k, nm, ps, b, e, s⟩ := f
    rcases List.mem_append.1 h with h | h
    · have := list h
      simp only [FunctionNode.mk.sizeOf_spec] at *
      omega
    · simp only [List.mem_singleton] at h
      subst h
      simp only [FunctionNode.mk.sizeOf_spec]
      omega
  cases n with
  | function f =>
    have := fn h
    simp only [function.sizeOf_spec]
    omega
  | method m =>
    obtain ⟨nm, f, s⟩ := m
    have : sizeOf c < sizeOf f := fn h
    simp only [method.sizeOf_spec, MethodNode.mk.sizeOf_spec]
    omega
  | declaration k ds s =>
    obtain ⟨d, hd, hc⟩ := List.mem_flatMap.1 h
    have h1 := List.sizeOf_lt_of_mem hd
    obtain ⟨i, o, s'⟩ := d
    have h2 : sizeOf c < sizeOf (Declarator.mk i o s') := by
      simp only [Declarator.children, List.mem_cons] at hc
      simp only [Declarator.mk.sizeOf_spec]
      rcases hc with hc | hc
      · subst hc; omega
      · have := opt hc
        omega
    simp only [declaration.sizeOf_spec]
    omega
  | call a cs s | member a p cs s =>
    rcases List.mem_cons.1 h with h | h
    · subst h
      simp
      omega
    · first
        | have := list h
          simp
          omega
        | have := opt h
          simp
          omega
  | withDefault l r s =>
    simp only [children, List.mem_cons, List.not_mem_nil, or_false] at h
    rcases h with h | h <;> subst h <;> simp <;> omega
  | returned o s | rest o s =>
    have := opt h
    simp
    omega
  | creation cs s | arrayLiteral cs s | objectLiteral cs s | block cs s | objectPattern cs s
  | arrayPattern cs s | other k cs s =>
    have : sizeOf c < sizeOf cs := list h
    simp
    omega
  | identifier => simp [children] at h
  | literal => simp [children] at h

end Node

/-- The declared name; patterns declare none of their own. -/
def Declarator.name? (d : Declarator Node) : Option String :=
  match d.id with
  | .identifier name _ => some name
  | _ => none

end CodeSurvey.Script
