import CodeSurvey.Yaml.Event

/-!
# Documents

The nodes of a text as a tree. A text with a fault has a tree as far as it could be read, with a
cut where the next node should be; the fault shows only to those who get there.
-/

namespace CodeSurvey.Yaml

structure Scalar where
  style : ScalarStyle
  tag : Option (List Char)
  text : List Char
deriving DecidableEq, Inhabited

/-- A node. Nodes may be numbered, and an alias stands for the node of a number. -/
inductive Node where
  | scalar (mark : Mark) (number : Option Nat) (value : Scalar)
  | sequence (mark : Mark) (number : Option Nat) (items : List Node)
  | mapping (mark : Mark) (number : Option Nat) (entries : List (Node × Node))
  | alias (number : Nat)
  | cut
deriving Inhabited

namespace Node

mutual

def isWhole : Node → Bool
  | scalar .. | .alias _ => true
  | sequence _ _ items => areWhole items
  | mapping _ _ entries => entriesAreWhole entries
  | cut => false

def areWhole : List Node → Bool
  | [] => true
  | n :: rest => isWhole n && areWhole rest

def entriesAreWhole : List (Node × Node) → Bool
  | [] => true
  | (k, v) :: rest => isWhole k && isWhole v && entriesAreWhole rest

end

mutual

def numbered : Node → List (Nat × Node)
  | scalar m number value =>
    match number with
    | some n => [(n, scalar m number value)]
    | none => []
  | sequence m number items =>
    (match number with
      | some n => [(n, sequence m number items)]
      | none => []) ++ numberedItems items
  | mapping m number entries =>
    (match number with
      | some n => [(n, mapping m number entries)]
      | none => []) ++ numberedEntries entries
  | .alias _ | cut => []

def numberedItems : List Node → List (Nat × Node)
  | [] => []
  | n :: rest => numbered n ++ numberedItems rest

def numberedEntries : List (Node × Node) → List (Nat × Node)
  | [] => []
  | (k, v) :: rest => numbered k ++ numbered v ++ numberedEntries rest

end

end Node

/-! ## Building trees -/

inductive OpenNode where
  | sequence (mark : Mark) (number : Option Nat) (items : List Node)
  | mapping (mark : Mark) (number : Option Nat) (entries : List (Node × Node)) (key : Option Node)

namespace OpenNode

def add (n : Node) : OpenNode → OpenNode
  | sequence m number items => sequence m number (n :: items)
  | mapping m number entries none => mapping m number entries (some n)
  | mapping m number entries (some key) => mapping m number ((key, n) :: entries) none

def close : OpenNode → Node
  | sequence m number items => .sequence m number items.reverse
  | mapping m number entries _ => .mapping m number entries.reverse

def cutOff : OpenNode → Node
  | sequence m number items => .sequence m number (.cut :: items).reverse
  | mapping m number entries key =>
    .mapping m number ((key.getD .cut, .cut) :: entries).reverse

end OpenNode

/-- A tree that is being built: the open collections, the innermost first, and the root. -/
structure Growth where
  open_ : List OpenNode
  root : Option Node

namespace Growth

def add (n : Node) (g : Growth) : Growth :=
  match g.open_ with
  | [] => { g with root := g.root.or (some n) }
  | o :: rest => { g with open_ := o.add n :: rest }

def enter (o : OpenNode) (g : Growth) : Growth := { g with open_ := o :: g.open_ }

def leave (g : Growth) : Growth :=
  match g.open_ with
  | [] => g
  | o :: rest => add o.close { g with open_ := rest }

def cutOff (g : Growth) : Node :=
  match g.open_ with
  | [] => g.root.getD .cut
  | o :: rest => rest.foldl (fun inner o => (o.add inner).cutOff) o.cutOff

end Growth

/-! ## Loading -/

inductive LoadError where
  | fault (f : Fault)
  | unknownAnchor (mark : Mark)
deriving DecidableEq, Inhabited

structure Document where
  root : Node
  error : Option LoadError
deriving Inhabited

/-- The node an alias stands for: of several with its number the last one. -/
def Document.find? (d : Document) (number : Nat) : Option Node :=
  (Node.numbered d.root).reverse.lookup number

abbrev Anchors := List (List Char × Nat)

/-- Number a node that has an anchor. A name that is given again gets a new number. -/
def Anchors.number (anchors : Anchors) (anchor : Option (List Char)) : Option Nat × Anchors :=
  match anchor with
  | none => (none, anchors)
  | some name =>
    let n := anchors.length
    (some n, (name, n) :: anchors.filter fun a => a.1 != name)

inductive DocumentEnd where
  | ofDocument (rest : EventStream)
  | ofStream (mark : Mark)
  | early (error : LoadError)

def loadNodes : Nat → EventStream → Anchors → Growth → Growth × DocumentEnd
  | 0, s, _, g => (g, .ofStream s.tokens.mark)
  | budget + 1, s, anchors, g =>
    match EventStream.readEvent s with
    | .error fault => (g, .early (.fault fault))
    | .ok (e, s) =>
      match e.kind with
      | .streamStart | .documentStart => loadNodes budget s anchors g
      | .streamEnd => (g, .ofStream e.mark)
      | .documentEnd => (g, .ofDocument s)
      | .alias name =>
        match anchors.lookup name with
        | some n => loadNodes budget s anchors (g.add (.alias n))
        | none => (g, .early (.unknownAnchor e.mark))
      | .scalar p style text =>
        let (n, anchors) := anchors.number p.anchor
        loadNodes budget s anchors (g.add (.scalar e.mark n ⟨style, p.tag, text⟩))
      | .sequenceStart p =>
        let (n, anchors) := anchors.number p.anchor
        loadNodes budget s anchors (g.enter (.sequence e.mark n []))
      | .mappingStart p =>
        let (n, anchors) := anchors.number p.anchor
        loadNodes budget s anchors (g.enter (.mapping e.mark n [] none))
      | .sequenceEnd | .mappingEnd => loadNodes budget s anchors g.leave

/-- A bound on the events of a text. -/
def eventBudget (s : EventStream) : Nat := 16 * s.tokens.size + 64

structure Loaded where
  document : Document
  hasMore : Bool
deriving Inhabited

def hasDocument (s : EventStream) : Bool :=
  match EventStream.readEvent s with
  | .error _ => true
  | .ok (e, _) =>
    match e.kind with
    | .streamEnd => false
    | _ => true

def loadText (text : List Char) : Loaded :=
  let s := EventStream.start text
  match loadNodes (eventBudget s) s [] ⟨[], none⟩ with
  | (g, .ofDocument s) => ⟨⟨g.cutOff, none⟩, hasDocument s⟩
  | (g, .ofStream m) => ⟨⟨g.root.getD (.scalar m none ⟨.plain, none, []⟩), none⟩, false⟩
  | (g, .early error) => ⟨⟨g.cutOff, some error⟩, false⟩

/-! ## Control characters -/

def isAllowed (c : Char) : Bool :=
  let n := c.toNat
  n == 9 || n == 10 || n == 13 || (0x20 ≤ n && n ≤ 0x7e) || n == 0x85 || (0xa0 ≤ n && n ≤ 0xfffd) ||
    0x10000 ≤ n

def controlOffset? : Nat → List Char → Option Nat
  | _, [] => none
  | offset, c :: rest =>
    if isAllowed c then controlOffset? (offset + c.utf8Size) rest else some offset

/-- Load a text, which may start with a byte order mark. A text with control characters has no
nodes at all. -/
def load (text : List Char) : Loaded :=
  match controlOffset? 0 text with
  | some offset => ⟨⟨.cut, some (.fault ⟨.controlCharacter, .start, offset, none⟩)⟩, false⟩
  | none =>
    match text with
    | '\ufeff' :: rest => loadText rest
    | text => loadText text

end CodeSurvey.Yaml
