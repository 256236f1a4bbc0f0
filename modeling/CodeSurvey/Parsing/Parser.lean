import CodeSurvey.Parsing.Recovery

/-!
# Parsing

All open readings of a text are driven forward together. After each round the readings are
weighed against each other, those that cost too much are given up, and where none could go on the
best of them recovers. Parsing ends when no open reading can beat the best finished one.
-/

namespace CodeSurvey.Parsing
namespace Stacks

/-- What the actions of a state on a token came to: the reading has moved on or ended; or rules
were closed, and the last of them left a new reading; or they left none; or there were none. -/
inductive Outcome where
  | moved
  | closed (made : Nat)
  | absorbed
  | stuck
deriving Inhabited

def Outcome.noting (o : Outcome) : Option Nat → Outcome
  | some made => closed made
  | none => match o with
    | stuck => absorbed
    | o => o

/-- Take the actions of reading `v` on a token in order, up to the first that moves it. -/
def act (l : Language) (src : Source) (v : Nat) (token : Branch) :
    List Action → Stacks → Outcome → Stacks × Outcome
  | [], s, o => (s, o)
  | .shift target again :: rest, s, o =>
    if again then act l src v token rest s o
    else (s.push l.automaton v (some (token.markExtra false)) target, .moved)
  | .shiftExtra :: _, s, _ =>
    (s.push l.automaton v (some (token.markExtra true)) (s.state v), .moved)
  | .reduce rule size bonus shape :: rest, s, o =>
    let (s, made) := s.reduce l src v ⟨rule, size, bonus, shape⟩
    act l src v token rest s (o.noting made)
  | .accept :: _, s, _ => (s.accept l src v token, .moved)
  | .recover :: _, s, _ => (s.recover l src v token, .moved)

def actionsOn (l : Language) (s : Stacks) (v : Nat) (token : Branch) : List Action :=
  match token.label with
  | .token id => l.automaton.actions (s.state v) id
  | _ => []

/-- Close rules until the token is read or nothing can be done. A keyword that cannot stand here
is tried as a plain word before giving up. -/
def takeToken (l : Language) (src : Source) (v : Nat) :
    Nat → Stacks → Branch → List Action → Stacks
  | 0, s, _, _ => s.halt v
  | budget + 1, s, token, actions =>
    match act l src v token actions s .stuck with
    | (s, .moved) => s
    | (s, .closed made) =>
      let s := s.renumber made v
      takeToken l src v budget s token (s.actionsOn l v token)
    | (s, .absorbed) => s.halt v
    | (s, .stuck) =>
      let word := Label.token l.automaton.word
      let plain := token.withInfo ({ · with label := word })
      if token.info.keyword && token.label ≠ word && !(s.actionsOn l v plain).isEmpty then
        takeToken l src v budget s plain (s.actionsOn l v plain)
      else if s.state v = Automaton.recovering then s.recover l src v token
      else s.pause v token

def advance (l : Language) (src : Source) (s : Stacks) (v : Nat) : Stacks :=
  let token := l.lex src (s.state v) (s.place v) (s.hasAdvanced v)
  takeToken l src v ((src.size + 2) * 1000) s token (s.actionsOn l v token)

/-- Drive reading `v` past the place reached so far, or up to it if it is not the first. -/
def driveOne (l : Language) (src : Source) (v : Nat) : Nat → Stacks → Nat → Stacks × Nat
  | 0, s, reached => (s, reached)
  | budget + 1, s, reached =>
    if s.isActive v && v < s.count then
      let s := s.advance l src v
      let place := s.place v
      if place > reached || (v > 0 && place = reached) then (s, place)
      else driveOne l src v budget s reached
    else (s, reached)

def driveAll (l : Language) (src : Source) : Nat → Nat → Stacks → Nat → Stacks × Nat
  | 0, _, s, reached => (s, reached)
  | budget + 1, v, s, reached =>
    if v < s.count then
      let (s, reached) := driveOne l src v ((src.size + 2) * 10) s reached
      driveAll l src budget (v + 1) s reached
    else (s, reached)

/-! ## Choosing among readings -/

/-- Weigh reading `i` against the earlier ones from `j` on; the answer is the reading that comes
next. The better of two stands first. -/
def weigh (l : Language) (mine : Standing) : Nat → Stacks → Nat → Nat → Stacks × Nat
  | 0, s, i, _ => (s, i + 1)
  | budget + 1, s, i, j =>
    if j ≥ i then (s, i + 1)
    else
      let (s, theirs) := s.standing j
      match theirs.compare mine with
      | .takeLeft => (s.remove i, i)
      | .takeRight => weigh l mine budget (s.remove j) (i - 1) j
      | verdict =>
        match s.merge l.automaton j i with
        | (s, true) => (s, i)
        | (s, false) =>
          let s := if verdict = .preferRight then { s with heads := s.heads.swapIfInBounds i j }
            else s
          weigh l mine budget s i (j + 1)

/-- Weigh all readings; the least cost of one that is not in error is told. -/
def weighAll (l : Language) : Nat → Stacks → Nat → Option Nat → Stacks × Option Nat
  | 0, s, _, least => (s, least)
  | budget + 1, s, i, least =>
    if i ≥ s.count then (s, least)
    else if s.isHalted i then weighAll l budget (s.remove i) i least
    else
      let (s, mine) := s.standing i
      let least := if mine.inError then least
        else some (match least with
          | some n => min n mine.cost
          | none => mine.cost)
      let (s, next) := weigh l mine (s.count + 1) s i 0
      weighAll l budget s next least

/-- Where no reading can go on, the first paused one recovers; other paused ones end. -/
def resume (l : Language) (src : Source) : Nat → Nat → Nat → Bool → Stacks → Option Nat →
    Stacks × Option Nat
  | 0, _, _, _, s, least => (s, least)
  | budget + 1, i, count, going, s, least =>
    if i ≥ count then (s, least)
    else match (s.head i).status with
      | .paused token =>
        if !going && s.finishedCount < maxReadings then
          let least := some (s.errorCost i)
          let s := (s.updateHead i ({ · with status := .active })).handleError l src i token
          resume l src budget (i + 1) count true s least
        else resume l src budget i (count - 1) going (s.remove i) least
      | _ => resume l src budget (i + 1) count true s least

/-- Keep the best readings. The answer is the least cost at which parsing can still end. -/
def condense (l : Language) (src : Source) (s : Stacks) : Stacks × Option Nat :=
  let budget := s.count * s.count + s.count + 1
  let (s, least) := weighAll l budget s 0 none
  let s := { s with heads := s.heads.extract 0 maxReadings }
  resume l src (s.count + 1) 0 s.count false s least

def run (l : Language) (src : Source) : Nat → Stacks → Nat → Option Branch
  | 0, s, _ => s.finished
  | rounds + 1, s, reached =>
    let (s, reached) := driveAll l src (s.count + 1000) 0 s reached
    let last := s.count = 0
    let (s, least) := s.condense l src
    let settled := match s.finished, least with
      | some b, some n => decide (b.cost < n)
      | some _, none => true
      | none, _ => false
    if settled || last then s.finished else run l src rounds s reached

end Stacks

def Language.parse (l : Language) (src : Source) : Option Branch :=
  Stacks.run l src ((src.size + 2) * 1000) .initial 0

end CodeSurvey.Parsing
