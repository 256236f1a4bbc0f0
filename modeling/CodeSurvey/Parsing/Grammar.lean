/-!
# Grammars

A grammar lists its tokens and its rules. The right side of a rule is a `Rule` expression over
tokens and other rules; ranks and sides settle which of two readings is kept where both are
possible, and a bonus decides between whole trees when both survive to the end.
-/

namespace CodeSurvey.Parsing

/-- How tightly a rule binds: by number, or by a level named in the grammar's orderings. -/
inductive Rank where
  | unranked
  | number (n : Int)
  | level (name : String)
deriving DecidableEq, Hashable, Inhabited

inductive Side where
  | left
  | right
deriving DecidableEq, Hashable, Inhabited

inductive Rule where
  | blank
  | lit (text : String)
  | ref (name : String)
  | seq (rules : List Rule)
  | choice (rules : List Rule)
  | many (rule : Rule)
  | field (name : String) (rule : Rule)
  | shownAs (kind : String) (rule : Rule)
  | ranked (rank : Rank) (side : Option Side) (rule : Rule)
  | favoured (bonus : Int) (rule : Rule)
deriving BEq, Inhabited

namespace Rule

instance : Coe String Rule := ⟨lit⟩

def opt (rule : Rule) : Rule := choice [rule, blank]

def sepBy1 (rule : Rule) : Rule := seq [rule, many (seq [lit ",", rule])]

def sepBy (rule : Rule) : Rule := opt (sepBy1 rule)

def level (name : String) (rule : Rule) : Rule := ranked (.level name) none rule

def leftAssoc (name : String) (rule : Rule) : Rule := ranked (.level name) (some .left) rule

def rightAssoc (name : String) (rule : Rule) : Rule := ranked (.level name) (some .right) rule

/-- Groups to the right without belonging to a level. -/
def groupsRight (rule : Rule) : Rule := ranked (.number 0) (some .right) rule

def groupsLeft (rule : Rule) : Rule := ranked (.number 0) (some .left) rule

end Rule

/-- How a token or rule shows in the tree: not at all, as a node of a named kind, or as a bare
piece of text. -/
inductive Display where
  | hidden
  | named (kind : String)
  | bare (text : String)
deriving DecidableEq, Inhabited

namespace Display

def isVisible : Display → Bool
  | hidden => false
  | _ => true

def isNamed : Display → Bool
  | named _ => true
  | _ => false

def kind : Display → String
  | hidden => ""
  | named k => k
  | bare t => t

end Display

/-- A token of the grammar. One without literal text is recognised by the scanner; one that is
contextual is recognised by looking around rather than by its own text. -/
structure Token where
  name : String
  display : Display
  literal : Option String
  contextual : Bool
deriving Inhabited

structure Definition where
  name : String
  display : Display
  inlined : Bool
  rule : Rule
deriving Inhabited

inductive Ranked where
  | level (name : String)
  | rule (name : String)
deriving DecidableEq, Inhabited

structure Grammar where
  /-- In the order in which a missing token is sought. -/
  tokens : List Token
  /-- The first one is the whole text. -/
  rules : List Definition
  /-- Each from the tightest to the loosest. -/
  orderings : List (List Ranked)
  /-- The token whose matches are searched for keywords. -/
  word : String
  /-- Tokens that may stand anywhere. -/
  extras : List String
  /-- Tokens recognised only where the grammar expects them, never while recovering. -/
  expectedOnly : List String
  /-- Rules that keep their place in the automaton although they only wrap another. -/
  kept : List String
  /-- Pairs of tokens of which the first is not brought into a state that awaits the second. -/
  rivals : List (String × String)

end CodeSurvey.Parsing
