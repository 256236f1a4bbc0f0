import CodeSurvey.Script.Grammar
import CodeSurvey.Script.Tree

/-!
# Derivations

Which syntax trees a grammar admits, however a text is read. A part of a rule yields a row of
trees, the children it gives to the node above it: what shows stands for itself, and what is hidden
gives way to its own row. Lines and texts are left open, and so is where comments stand.
-/

namespace CodeSurvey.Parsing
open Script

structure Part where
  kind : Option String
  field : Option String

/-- What stands around a part of a rule: what was said of the inlined rule it belongs to, what is
said inside that rule, and the roles of the hidden rules it is a part of. -/
structure Context where
  outer : Part
  inner : Part
  inherited : List String

namespace Context

def plain : Context := ⟨⟨none, none⟩, ⟨none, none⟩, []⟩

/-- What is said of an inlined rule as a whole goes before what is said inside it. -/
def part (c : Context) : Part :=
  ⟨c.outer.kind <|> c.inner.kind, c.outer.field <|> c.inner.field⟩

def fields (c : Context) : List String := c.part.field.toList ++ c.inherited

def below (c : Context) : Context := { plain with inherited := c.fields }

def inline (c : Context) : Context := { c with outer := c.part, inner := ⟨none, none⟩ }

def inField (c : Context) (name : String) : Context :=
  { c with inner := { c.inner with field := some name } }

def shownAs (c : Context) (kind : String) : Context :=
  { c with inner := { c.inner with kind := some kind } }

def display (c : Context) (d : Display) : Display :=
  match c.part.kind with
  | some kind => .named kind
  | none => d

/-- Whether a tree may stand here for a symbol shown as `d`. -/
def admits (c : Context) (d : Display) (t : SyntaxTree) : Bool :=
  t.kind == (c.display d).kind && t.info.named == (c.display d).isNamed && !t.info.extra &&
    t.info.mark = .sound && t.info.fields == c.fields

end Context

end CodeSurvey.Parsing

namespace CodeSurvey.Script.SyntaxTree

/-- The children that belong to rules, comments left out. -/
def ownChildren (t : SyntaxTree) : List SyntaxTree := t.children.filter fun c => !c.info.extra

end CodeSurvey.Script.SyntaxTree

namespace CodeSurvey.Parsing.Grammar
open Script

variable (g : Grammar)

def rule? (name : String) : Option Definition := g.rules.find? fun d => d.name == name

/-- The token that a part of a rule is. The names of rules go before those of tokens. -/
def token? : Rule → Option Token
  | .lit text => g.tokens.find? fun t => t.literal == some text
  | .ref name =>
    if (g.rule? name).isSome then none else g.tokens.find? fun t => t.name == name
  | _ => none

def isExtra (t : SyntaxTree) : Bool :=
  t.children.isEmpty && t.info.extra && t.info.mark = .sound && t.info.fields.isEmpty &&
    g.tokens.any fun token => g.extras.contains token.name &&
      t.kind == token.display.kind && t.info.named == token.display.isNamed

/-- The rows of trees that a part of a rule yields. -/
inductive Yields : Context → Rule → List SyntaxTree → Prop where
  | token (found : g.token? rule = some token)
      (shown : (c.display token.display).isVisible) (fits : c.admits token.display t)
      (leaf : t.children = []) : Yields c rule [t]
  | hiddenToken (found : g.token? rule = some token)
      (hidden : (c.display token.display).isVisible = false) : Yields c rule []
  | node {name : String} {d : Definition} {c : Context} {t : SyntaxTree}
      (found : g.rule? name = some d) (whole : d.inlined = false)
      (shown : (c.display d.display).isVisible) (fits : c.admits d.display t)
      (row : Yields .plain d.rule t.ownChildren)
      (extras : ∀ e ∈ t.children, e.info.extra → g.isExtra e) : Yields c (.ref name) [t]
  | hiddenNode {name : String} {d : Definition} {c : Context} {ts : List SyntaxTree}
      (found : g.rule? name = some d) (whole : d.inlined = false)
      (hidden : (c.display d.display).isVisible = false) (row : Yields c.below d.rule ts) :
      Yields c (.ref name) ts
  | inlined {name : String} {d : Definition} {c : Context} {ts : List SyntaxTree}
      (found : g.rule? name = some d) (parts : d.inlined)
      (row : Yields c.inline d.rule ts) : Yields c (.ref name) ts
  | blank : Yields c .blank []
  | seqNil : Yields c (.seq []) []
  | seqCons (head : Yields c rule ts) (tail : Yields c (.seq rest) us) :
      Yields c (.seq (rule :: rest)) (ts ++ us)
  | choiceHead (row : Yields c rule ts) : Yields c (.choice (rule :: rest)) ts
  | choiceTail (row : Yields c (.choice rest) ts) : Yields c (.choice (rule :: rest)) ts
  | manyNil : Yields c (.many rule) []
  | manyCons (unnamed : c.part.kind = none) (head : Yields c.below rule ts)
      (tail : Yields c (.many rule) us) : Yields c (.many rule) (ts ++ us)
  | field {c : Context} {name : String} {rule : Rule} {ts : List SyntaxTree}
      (row : Yields (c.inField name) rule ts) : Yields c (.field name rule) ts
  | shownAs (row : Yields (c.shownAs kind) rule ts) : Yields c (.shownAs kind rule) ts
  | ranked (row : Yields c rule ts) : Yields c (.ranked rank side rule) ts
  | favoured (row : Yields c rule ts) : Yields c (.favoured bonus rule) ts

/-- The trees of whole texts: those of the first rule. -/
def Derives (t : SyntaxTree) : Prop :=
  ∃ d ∈ g.rules.head?, g.Yields .plain (.ref d.name) [t]

end CodeSurvey.Parsing.Grammar
