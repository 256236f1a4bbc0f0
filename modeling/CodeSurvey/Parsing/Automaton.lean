import CodeSurvey.Parsing.Merge

/-!
# The automaton of a grammar

What parsing needs to know, by state and symbol: the actions on a token, the state after a rule,
the tokens awaited, and how the nodes of the tree show.
-/

namespace CodeSurvey.Parsing

/-- What a tree node stands for. A skipped part gathers text passed over while recovering. -/
inductive Label where
  | token (id : Nat)
  | rule (id : Nat)
  | error
  | skipped
deriving DecidableEq, Inhabited

structure Automaton where
  tokens : Array Token
  rules : Array RuleInfo
  shapes : Array Shape
  rows : Array StateRow
  /-- The tokens awaited in each state; the end of the text comes after all tokens. -/
  awaited : Array TokenSet
  extras : TokenSet
  word : Nat
deriving Inhabited

namespace Automaton

/-- The state in which recovery looks for a way on. -/
def recovering : Nat := 0

def starting : Nat := 1

def endOfText (a : Automaton) : Nat := a.tokens.size

def actions (a : Automaton) (state token : Nat) : List Action :=
  (a.rows.getD state default).cells.getD token []

def goto (a : Automaton) (state rule : Nat) : Nat :=
  (a.rows.getD state default).gotos.getD rule 0

def afterToken (a : Automaton) (state token : Nat) : Nat :=
  match (a.actions state token).getLast? with
  | some (.shift target _) => target
  | some .shiftExtra => state
  | _ => 0

def isAwaited (a : Automaton) (state token : Nat) : Bool := !(a.actions state token).isEmpty

def closesOn (a : Automaton) (state token : Nat) : Bool :=
  match a.actions state token with
  | .reduce .. :: _ => true
  | _ => false

def display (a : Automaton) : Label → Display
  | .token id => (a.tokens[id]?.map Token.display).getD .hidden
  | .rule id => (a.rules[id]?.map RuleInfo.display).getD .hidden
  | .error => .named "ERROR"
  | .skipped => .hidden

def shape (a : Automaton) (id : Nat) : Shape := a.shapes.getD id default

end Automaton

/-- The tokens on which recovery goes on: all but those that only make sense where expected. What
may stand anywhere may stand there too. -/
def Grammar.recoveryRow (g : Grammar) (rules : Nat) : StateRow :=
  let cells := g.tokens.map fun t =>
    if g.extras.contains t.name then [Action.shiftExtra]
    else if g.expectedOnly.contains t.name then [] else [Action.recover]
  ⟨(cells ++ [[Action.recover]]).toArray, Array.replicate rules 0⟩

def Grammar.lexical (g : Grammar) : Lexical :=
  let watched := g.tokens.zipIdx.filterMap fun (t, i) => if t.contextual then some i else none
  let rivals := g.rivals.map fun (new, awaited) =>
    (g.tokenNumber new, TokenSet.singleton (g.tokenNumber awaited))
  { watched := .ofList watched, rivals := rivals, rivalled := .ofList (rivals.map Prod.fst) }

/-- Hidden rules that never show under another kind and are not kept wrap nothing but a child. -/
def Grammar.skippable (p : Productions) : Nat → Bool :=
  let renamed := p.all.toList.flatMap fun production =>
    production.steps.toList.filterMap fun s =>
      match s.sym, s.kind with
      | .rule id, some _ => some id
      | _, _ => none
  fun id =>
    let info := p.rules.getD id default
    !info.display.isVisible && !info.kept && !renamed.contains id

def Grammar.automaton (g : Grammar) : Automaton :=
  let p := g.productions
  let b := g.builder p p.items
  let table := b.states
  let rows := table.rows.setIfInBounds 0 (g.recoveryRow p.rules.size)
  let rows := skipAllWrappers (Grammar.skippable p) (mergeStates g.lexical table.cores rows)
  { tokens := p.tokens, rules := p.rules, shapes := p.shapes, rows := rows,
    awaited := rows.map fun row => .ofList (row.cells.toList.zipIdx.filterMap fun (cell, t) =>
      if cell.isEmpty then none else some t),
    extras := .ofList (g.extras.map g.tokenNumber), word := g.tokenNumber g.word }

end CodeSurvey.Parsing
