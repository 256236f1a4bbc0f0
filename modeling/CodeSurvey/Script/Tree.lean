/-!
# Syntax trees

The tree of a script as a reader sees it: every node has a kind, the lines it spans and its
children in order. Where it first shows a fault is found by going through it in preorder.
-/

namespace CodeSurvey.Script

structure Span where
  startLine : Nat
  endLine : Nat
deriving DecidableEq, Inhabited

/-- Whether a node was read as it stands, gathers text that fits nowhere, or was put in for
something left out. -/
inductive Mark where
  | sound
  | error
  | missing
deriving DecidableEq, Inhabited

structure NodeInfo where
  kind : String
  /-- Stands for a rule or a kind of token rather than for a fixed piece of text. -/
  named : Bool
  /-- Stands outside the grammar's rules, like a comment. -/
  extra : Bool
  mark : Mark
  span : Span
  /-- The text of a leaf or of a string; empty for other nodes. -/
  text : String
  /-- The roles of the node in its parent. -/
  fields : List String
deriving DecidableEq, Inhabited

inductive SyntaxTree where
  | node (info : NodeInfo) (children : List SyntaxTree)
deriving Inhabited

namespace SyntaxTree

def info : SyntaxTree → NodeInfo
  | node info _ => info

def children : SyntaxTree → List SyntaxTree
  | node _ children => children

def kind (t : SyntaxTree) : String := t.info.kind
def span (t : SyntaxTree) : Span := t.info.span
def text (t : SyntaxTree) : String := t.info.text

def field? (t : SyntaxTree) (name : String) : Option SyntaxTree :=
  t.children.find? fun c => c.info.fields.contains name

def namedChildren (t : SyntaxTree) : List SyntaxTree :=
  t.children.filter fun c => c.info.named && !c.info.extra

/-! ## Faults -/

mutual

/-- Whether some node of the tree is not sound. -/
def hasFault : SyntaxTree → Bool
  | node info children => info.mark != .sound || hasFaultAny children

def hasFaultAny : List SyntaxTree → Bool
  | [] => false
  | t :: rest => hasFault t || hasFaultAny rest

end

mutual

/-- The line of the first node that is not sound. Sound trees are passed over. -/
def faultLine? : SyntaxTree → Option Nat
  | node info children =>
    match info.mark with
    | .sound => faultLineAny? children
    | _ => some info.span.startLine

def faultLineAny? : List SyntaxTree → Option Nat
  | [] => none
  | t :: rest =>
    if t.hasFault then (faultLine? t).or (faultLineAny? rest) else faultLineAny? rest

end

/-! ## Levels -/

mutual

/-- The nodes of a tree in preorder, each with its level, where the root stands at `level`. -/
def leveled (level : Nat) : SyntaxTree → List (Nat × SyntaxTree)
  | node info children => (level, node info children) :: leveledAll (level + 1) children

def leveledAll (level : Nat) : List SyntaxTree → List (Nat × SyntaxTree)
  | [] => []
  | t :: rest => leveled level t ++ leveledAll level rest

end

end SyntaxTree
end CodeSurvey.Script
