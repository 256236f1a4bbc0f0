import CodeSurvey.Parsing.Parser
import CodeSurvey.Script.Tree

/-!
# From parse branches to syntax trees

Hidden branches give way to their children, and renamed ones take their new kind. Nodes are laid
out from left to right, none starting before the last one ended, so that the lines of a tree never
decrease in preorder and always lie within the text.
-/

namespace CodeSurvey.Script
open Parsing

def lineAt (src : Source) (place : Nat) : Nat :=
  1 + src.linesBefore.getD (min place src.size) 0

/-- The part of a branch's shape that concerns its children from some place on: their new kinds
and their own fields. -/
structure Slots where
  kinds : List (Option String)
  fields : List (String × Nat × Bool)
  place : Nat

namespace Slots

def ofShape (s : Shape) : Slots := ⟨s.kinds, s.fields, 0⟩

def kind? (s : Slots) (b : Branch) : Option String :=
  if b.extra then none else s.kinds.getD s.place none

def fieldsOf (s : Slots) : List String :=
  s.fields.filterMap fun (name, place, inherited) =>
    if place == s.place && !inherited then some name else none

def next (s : Slots) (b : Branch) : Slots :=
  if b.extra then s else { s with place := s.place + 1 }

end Slots

structure Layout where
  trees : List SyntaxTree
  stop : Nat

def Label.toMark (label : Label) (missing : Bool) : Mark :=
  if missing then .missing else if label = .error then .error else .sound

def nodeOver (src : Source) (display : Display) (b : BranchInfo) (fields : List String)
    (first : Nat) (below : Layout) : Layout :=
  let stop := max b.stop below.stop
  let kind := display.kind
  let info : NodeInfo :=
    { kind := kind, named := display.isNamed, extra := b.extra,
      mark := Label.toMark b.label b.missing,
      span := ⟨lineAt src first, lineAt src stop⟩,
      text := if below.trees.isEmpty || kind == "string" then src.slice first stop else "",
      fields := fields }
  ⟨[.node info below.trees], stop⟩

mutual

/-- Lay out a branch from `place` on, shown as `kind?` if given. -/
def layBranch (a : Automaton) (src : Source) (kind? : Option String) (fields : List String)
    (place : Nat) : Branch → Layout
  | .mk info children =>
    let slots := Slots.ofShape (a.shape info.shape)
    let display := match kind? with
      | some kind => .named kind
      | none => a.display info.label
    if display.isVisible then
      let first := max place info.first
      nodeOver src display info fields first (layBranches a src slots [] first children)
    else layBranches a src slots fields place children

def layBranches (a : Automaton) (src : Source) (slots : Slots) (inherited : List String)
    (place : Nat) : List Branch → Layout
  | [] => ⟨[], place⟩
  | b :: rest =>
    let fields := if b.extra then [] else slots.fieldsOf ++ inherited
    let head := layBranch a src (slots.kind? b) fields place b
    let tail := layBranches a src (slots.next b) inherited head.stop rest
    ⟨head.trees ++ tail.trees, tail.stop⟩

end

def emptyTree : SyntaxTree :=
  .node { kind := "ERROR", named := true, extra := false, mark := .error, span := ⟨1, 1⟩,
          text := "", fields := [] } []

def SyntaxTree.ofBranch (a : Automaton) (src : Source) (b : Branch) : SyntaxTree :=
  ((layBranch a src none [] 0 b).trees.head?).getD emptyTree

end CodeSurvey.Script
