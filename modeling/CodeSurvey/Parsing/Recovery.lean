import CodeSurvey.Parsing.Reductions

/-!
# Recovery

What to do with a reading that cannot take the next token: go on as if a missing token stood
there, go back to an earlier state that can take it, or pass over it. Each way has its cost, and
the cheapest whole reading wins in the end.
-/

namespace CodeSurvey.Parsing

def maxSummaryDepth : Nat := 16

namespace Stacks

/-- Finish a reading: each way down makes a whole tree, and the best one is kept. The end of the
text stands outside the rules. -/
def accept (l : Language) (src : Source) (s : Stacks) (v : Nat) (last : Branch) : Stacks :=
  let s := s.push l.automaton v (some (last.markExtra true)) Automaton.starting
  let (s, slices) := s.popAll v
  let s := slices.foldl
    (fun (s : Stacks) slice =>
      let reversed := slice.branches.reverse
      let after := (reversed.takeWhile Branch.extra).reverse
      match reversed.dropWhile Branch.extra with
      | [] => s
      | body :: before =>
        let children := before.reverse ++ body.children ++ after
        let root := Branch.node l.automaton src body.label body.info.shape 0 children
        let better := match s.finished with
          | none => true
          | some known => Branch.prefersSecond l.automaton known root
        { s with finishedCount := s.finishedCount + 1,
                 finished := if better then some root else s.finished })
    s
  let s := match slices with
    | slice :: _ => s.remove slice.version
    | [] => s
  s.halt v

def wrapError (l : Language) (src : Source) (s : Stacks) (version goal : Nat)
    (branches : List Branch) : Stacks :=
  let (s, error) := s.popError version
  let branches := (error.map Branch.children).getD [] ++ branches
  let (inner, trailing) := Branch.splitTrailing branches
  let wrapped := if inner.isEmpty then []
    else [(Branch.node l.automaton src .error 0 (s.place version) inner).markExtra true]
  (wrapped ++ trailing).foldl (fun s b => s.push l.automaton version (some b) goal) s

def recoverTo (l : Language) (src : Source) (s : Stacks) (v depth goal : Nat) : Stacks × Bool :=
  let (s, slices) := s.pop v depth
  let (s, previous) := slices.foldl
    (fun (acc : Stacks × Option Nat) slice =>
      let (s, previous) := acc
      if some slice.version == previous then (s, previous)
      else if s.state slice.version ≠ goal then (s.halt slice.version, previous)
      else (s.wrapError l src slice.version goal slice.branches, some slice.version))
    (s, none)
  (s, previous.isSome)

/-- Try the states passed before the error, the nearest first, as long as no other reading is
better than going back. -/
def recoverEarlier (l : Language) (src : Source) (v token cost progress count : Nat) :
    List Passed → Stacks → Stacks × Bool
  | [], s => (s, false)
  | p :: rest, s =>
    let place := s.place v
    let pass := p.state = Automaton.recovering || p.place = place ||
      (List.range count).any fun j => s.state j == p.state && s.place j == place
    if pass then recoverEarlier l src v token cost progress count rest s
    else
      let total := cost + p.depth * costs.skippedTree +
        src.bytes p.place place * costs.skippedByte + src.lines p.place place * costs.skippedLine
      match s.betterExists v total with
      | (s, true) => (s, false)
      | (s, false) =>
        if l.automaton.isAwaited p.state token then
          match s.recoverTo l src v (if progress > 0 then p.depth + 1 else p.depth) p.state with
          | (s, true) => (s, true)
          | (s, false) => recoverEarlier l src v token cost progress count rest s
        else recoverEarlier l src v token cost progress count rest s

def dropInactive (s : Stacks) (i : Nat) : Stacks :=
  let gone := (List.range s.count).filter fun v => v ≥ i && !s.isActive v
  gone.reverse.foldl remove s

def skipToken (l : Language) (src : Source) (s : Stacks) (v progress : Nat) (token : Branch) :
    Stacks :=
  let skipped := fun branches =>
    Branch.node l.automaton src .skipped 0 (s.place v) branches
  let this := skipped [token]
  if progress > 0 then
    match s.pop v 1 with
    | (s, slice :: more) =>
      let s := if more.isEmpty then s
        else { s with heads := s.heads.extract 0 (slice.version + 1) }
      let s := s.renumber slice.version v
      s.push l.automaton v (some (skipped (slice.branches ++ [this]))) Automaton.recovering
    | (s, []) => s.push l.automaton v (some this) Automaton.recovering
  else s.push l.automaton v (some this) Automaton.recovering

def recover (l : Language) (src : Source) (s : Stacks) (v : Nat) (token : Branch) : Stacks :=
  let count := s.count
  let summary := (s.head v).summary
  let (s, progress) := s.progressSince v
  let cost := s.errorCost v
  let number := match token.label with
    | .token id => some id
    | _ => none
  let (s, recovered) := match summary, number with
    | some passed, some id => recoverEarlier l src v id cost progress count passed s
    | _, _ => (s, false)
  let s := s.dropInactive count
  if number == some l.automaton.endOfText then
    let place := s.place v
    let s := s.push l.automaton v (some (Branch.node l.automaton src .error 0 place []))
      Automaton.starting
    s.accept l src v token
  else if recovered && s.count > maxReadings then s.halt v
  else
    let info := token.info
    let total := cost + costs.skippedTree + src.bytes info.start info.stop * costs.skippedByte +
      src.lines info.start info.stop * costs.skippedLine
    match s.betterExists v total with
    | (s, true) => s.halt v
    | (s, false) =>
      let extra := (number.map l.automaton.extras.contains).getD false
      s.skipToken l src v progress (if extra then token.markExtra true else token)

/-! ## Meeting an error -/

/-- Look for a token that, had it been there, would let the next one be read; the tokens are tried
in the grammar's order. A reading that has it is added. -/
def insertMissing (l : Language) (src : Source) (v : Nat) (next : Option Nat) :
    List Nat → Stacks → Stacks × Bool
  | [], s => (s, false)
  | t :: rest, s =>
    let state := s.state v
    let after := l.automaton.afterToken state t
    let closes := match next with
      | some n => l.automaton.closesOn after n
      | none => false
    if after = 0 || after = state || !closes then insertMissing l src v next rest s
    else
      let added := s.count
      let s := (s.copy v).push l.automaton added (some (Branch.missingToken t (s.place v))) after
      match s.reduceAll l src added next with
      | (s, true) => (s, true)
      | (s, false) => insertMissing l src v next rest s

/-- Mark the start of recovery on each of the readings, trying a missing token until one fits. -/
def beginRecovery (l : Language) (src : Source) (next : Option Nat) :
    List Nat → Stacks → Bool → Stacks
  | [], s, _ => s
  | v :: rest, s, inserted =>
    let (s, inserted) := if inserted then (s, true)
      else insertMissing l src v next (List.range l.automaton.tokens.size) s
    beginRecovery l src next rest (s.push l.automaton v none Automaton.recovering) inserted

def handleError (l : Language) (src : Source) (s : Stacks) (v : Nat) (token : Branch) : Stacks :=
  let before := s.count
  let (s, _) := s.reduceAll l src v none
  let count := s.count
  let next := match token.label with
    | .token id => some id
    | _ => none
  let added := (List.range count).filter (· ≥ before)
  let s := beginRecovery l src next (v :: added) s false
  let s := added.foldl (fun s _ => (s.merge l.automaton v before).1) s
  (s.summarize maxSummaryDepth v).recover l src v token

end Stacks
end CodeSurvey.Parsing
