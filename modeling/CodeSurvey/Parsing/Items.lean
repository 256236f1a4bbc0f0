import Std.Data.HashMap
import CodeSurvey.Parsing.Productions
import CodeSurvey.Parsing.TokenSet

/-!
# Items

An item is a production read up to some step. What was read before matters only as far as the
node to be built depends on it, so items that agree on the rest fall into one class, and states
are made of classes. For each class the tables here say what comes next, which class follows, and
which tokens may stand after the next symbol; for each rule, which classes it opens up.
-/

namespace CodeSurvey.Parsing

structure ItemKey where
  rule : Nat
  place : Nat
  length : Nat
  bonus : Int
  /-- A hidden rule with fields has been read. -/
  inherits : Bool
  rank : Rank
  side : Option Side
  before : List (Option String × Option String × Option Sym)
  after : List Step
deriving DecidableEq, Hashable, Inhabited

inductive Expected where
  | nothing
  | token (id : Nat)
  | rule (id : Nat)
deriving Inhabited

structure ItemInfo where
  rule : Nat
  place : Nat
  production : Nat
  rank : Rank
  side : Option Side
  expected : Expected
  /-- The class after the expected symbol is read. -/
  next : Nat
  /-- The tokens that may start what comes after the expected symbol, unless the item ends there. -/
  following : Option TokenSet
deriving Inhabited

/-- An item that reading a rule opens up: the tokens that may follow it for certain, and whether
whatever may follow the rule may follow it too. -/
structure Opening where
  item : Nat
  tokens : TokenSet
  inherits : Bool
deriving Inhabited

structure Items where
  infos : Array ItemInfo
  /-- The first items of each rule, with those of the rules it may start with. -/
  openings : Array (Array Opening)
  /-- The tokens each rule may start with. -/
  firsts : Array TokenSet
  /-- The item that reads the whole text. -/
  start : Nat
deriving Inhabited

/-! ## First tokens -/

def firstOf (firsts : Array TokenSet) : Sym → TokenSet
  | .token id => .singleton id
  | .rule id => firsts.getD id .empty

/-- The tokens the productions of each rule may start with, repeated until nothing is added. -/
def closeFirsts (p : Productions) : Nat → Array TokenSet → Array TokenSet
  | 0, firsts => firsts
  | passes + 1, firsts =>
    let next := p.all.foldl (fun acc production =>
      match production.steps[0]? with
      | some step => acc.modify production.rule (·.union (firstOf acc step.sym))
      | none => acc) firsts
    if next == firsts then firsts else closeFirsts p passes next

/-! ## Classes -/

def hasFields (p : Productions) (id : Nat) : Bool :=
  (p.ofRule.getD id #[]).any fun i =>
    !(p.shapes.getD (p.all.getD i default).shape default).fields.isEmpty

def inheritsFrom (p : Productions) (fielded : Array Bool) (step : Step) : Bool :=
  match step.sym with
  | .rule id => !(p.rules.getD id default).display.isVisible && fielded.getD id false
  | .token _ => false

def itemKey (p : Productions) (fielded : Array Bool) (production : Production) (place : Nat) :
    ItemKey :=
  let steps := production.steps.toList
  let before := steps.take place
  let inherits := before.any (inheritsFrom p fielded)
  let last := before.getLast?
  { rule := production.rule, place := place, length := steps.length, bonus := production.bonus,
    inherits := inherits,
    rank := (last.map Step.rank).getD .unranked, side := last.bind Step.side,
    before := before.map fun s => (s.kind, s.field, if inherits then some s.sym else none),
    after := steps.drop place }

/-- The classes of a grammar's items, and the class of each place of each production. -/
structure Classes where
  byKey : Std.HashMap ItemKey Nat
  members : Array (Nat × Nat)
  ofProduction : Array (Array Nat)

def classify (p : Productions) (fielded : Array Bool) : Classes :=
  p.all.zipIdx.foldl
    (fun acc (production, i) =>
      let (acc, own) := (List.range (production.steps.size + 1)).foldl
        (fun (acc : Classes × Array Nat) place =>
          let key := itemKey p fielded production place
          match acc.1.byKey[key]? with
          | some id => (acc.1, acc.2.push id)
          | none =>
            let id := acc.1.members.size
            ({ acc.1 with byKey := acc.1.byKey.insert key id,
                          members := acc.1.members.push (i, place) }, acc.2.push id))
        (acc, #[])
      { acc with ofProduction := acc.ofProduction.push own })
    ⟨∅, #[], #[]⟩

/-! ## Openings -/

/-- For each rule that reading `start` may begin with: the tokens sure to follow it, and whether
it may end where `start` ends. Repeated until nothing is added. -/
def reach (p : Productions) (firsts : Array TokenSet) :
    Nat → List (Nat × TokenSet × Bool) → Std.HashMap Nat (TokenSet × Bool) →
      Std.HashMap Nat (TokenSet × Bool)
  | 0, _, found => found
  | _, [], found => found
  | budget + 1, (rule, tokens, inherits) :: rest, found =>
    let (known, fresh) := match found[rule]? with
      | some known => (known, false)
      | none => ((.empty, false), true)
    let joined := (known.1.union tokens, known.2 || inherits)
    if !fresh && joined == known then reach p firsts budget rest found
    else
      let next := (p.ofRule.getD rule #[]).foldl
        (fun acc i =>
          let steps := (p.all.getD i default).steps
          match steps[0]?.map Step.sym, steps[1]? with
          | some (.rule id), some step => (id, firstOf firsts step.sym, false) :: acc
          | some (.rule id), none => (id, joined.1, joined.2) :: acc
          | _, _ => acc)
        rest
      reach p firsts budget next (found.insert rule joined)

def openingsOf (p : Productions) (firsts : Array TokenSet) (classes : Classes) (rule : Nat) :
    Array Opening :=
  let found := reach p firsts 100000 [(rule, .empty, true)] ∅
  let merged : Std.HashMap Nat (TokenSet × Bool) := found.fold
    (fun acc id (tokens, inherits) => (p.ofRule.getD id #[]).foldl
      (fun acc i =>
        let item := (classes.ofProduction.getD i #[]).getD 0 0
        let known := acc.getD item (.empty, false)
        acc.insert item (known.1.union tokens, known.2 || inherits))
      acc)
    ∅
  merged.fold (fun acc item (tokens, inherits) => acc.push ⟨item, tokens, inherits⟩) #[]

/-! ## The tables -/

def itemInfo (p : Productions) (firsts : Array TokenSet) (classes : Classes) (i place : Nat) :
    ItemInfo :=
  let production := p.all.getD i default
  let last := if place = 0 then none else production.steps[place - 1]?
  { rule := production.rule, place := place, production := i,
    rank := (last.map Step.rank).getD .unranked, side := last.bind Step.side,
    expected := match (production.steps[place]?).map Step.sym with
      | none => .nothing
      | some (.token id) => .token id
      | some (.rule id) => .rule id,
    next := (classes.ofProduction.getD i #[]).getD (place + 1) 0,
    following := (production.steps[place + 1]?).map fun s => firstOf firsts s.sym }

/-- The rule read as a whole is the first one; the item that reads it belongs to a rule of its
own, numbered after all others. -/
def Productions.items (p : Productions) : Items :=
  let firsts := closeFirsts p 64 (p.rules.map fun _ => .empty)
  let fielded := (Array.range p.rules.size).map (hasFields p)
  let classes := classify p fielded
  let infos := classes.members.map fun (i, place) => itemInfo p firsts classes i place
  let start := infos.size
  let whole : ItemInfo :=
    ⟨p.rules.size, 0, p.all.size, .unranked, none, .rule 0, start + 1, none⟩
  let read : ItemInfo :=
    ⟨p.rules.size, 1, p.all.size, .unranked, none, .nothing, 0, none⟩
  { infos := (infos.push whole).push read,
    openings := (Array.range p.rules.size).map (openingsOf p firsts classes),
    firsts := firsts, start := start }

end CodeSurvey.Parsing
