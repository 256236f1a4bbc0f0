import CodeSurvey.Parsing.Scanning

/-!
# Reductions

Closing a rule: its branches are popped along every way down, a node is put over each list of
them, and readings that come to stand alike are joined again.
-/

namespace CodeSurvey.Parsing

/-- The most readings kept from one token to the next, and how many more may be open for a
moment. -/
def maxReadings : Nat := 6
def maxOverflow : Nat := 4

structure Closing where
  rule : Nat
  size : Nat
  bonus : Int
  shape : Nat
deriving Inhabited

namespace Stacks

/-- The better of the ways down to one node: the node over its branches, and the extras above. -/
def bestNode (l : Language) (src : Source) (c : Closing) (place : Nat) (first : List Branch)
    (others : List (List Branch)) : Branch × List Branch :=
  let build := fun (shape : Nat) (branches : List Branch) =>
    Branch.node l.automaton src (.rule c.rule) shape place branches
  let (inner, trailing) := Branch.splitTrailing first
  others.foldl
    (fun acc branches =>
      let (inner, trailing) := Branch.splitTrailing branches
      if Branch.prefersSecond l.automaton acc.1 (build 0 inner) then
        (build c.shape inner, trailing)
      else acc)
    (build c.shape inner, trailing)

/-- Join reading `v` into the first earlier one that stands alike, `except` left out. -/
def mergeIntoEarlier (l : Language) (s : Stacks) (except v : Nat) : List Nat → Stacks × Bool
  | [] => (s, false)
  | j :: rest =>
    if j = except then mergeIntoEarlier l s except v rest
    else match s.merge l.automaton j v with
      | (s, true) => (s, true)
      | (s, false) => mergeIntoEarlier l s except v rest

/-- Push the node of each group of slices. `removed` counts the readings gone since popping. -/
def closeSlices (l : Language) (src : Source) (v halted : Nat) (c : Closing) :
    Nat → Stacks → Nat → List Slice → Stacks
  | 0, s, _, _ => s
  | _, s, _, [] => s
  | budget + 1, s, removed, slice :: rest =>
    let version := slice.version - removed
    let same := rest.takeWhile fun x => x.version == slice.version
    let rest := rest.drop same.length
    if version > maxReadings + maxOverflow + halted then
      closeSlices l src v halted c budget (s.remove version) (removed + 1) rest
    else
      let (node, trailing) := bestNode l src c (s.place version) slice.branches
        (same.map Slice.branches)
      let state := l.automaton.goto (s.state version) c.rule
      let node := node.withInfo fun i => { i with bonus := i.bonus + c.bonus }
      let s := (node :: trailing).foldl
        (fun s b => s.push l.automaton version (some b) state) s
      let (s, merged) := mergeIntoEarlier l s v version (List.range version)
      closeSlices l src v halted c budget s (if merged then removed + 1 else removed) rest

/-- Close a rule on reading `v`. The readings so made come after all others; the first of them is
told, if there is one. -/
def reduce (l : Language) (src : Source) (s : Stacks) (v : Nat) (c : Closing) :
    Stacks × Option Nat :=
  let before := s.count
  let (s, slices) := s.pop v c.size
  let halted := ((List.range s.count).filter s.isHalted).length
  let s := closeSlices l src v halted c (slices.length + 1) s 0 slices
  (s, if s.count > before then some before else none)

/-! ## All reductions -/

/-- What a state can do on some tokens: whether it reads one, and the rules it closes. -/
def possibleOn (l : Language) (state : Nat) (tokens : List Nat) : Bool × List Closing :=
  tokens.foldl
    (fun acc t => (l.automaton.actions state t).foldl
      (fun (acc : Bool × List Closing) action =>
        match action with
        | .shift _ again => (acc.1 || !again, acc.2)
        | .recover => (true, acc.2)
        | .reduce rule size bonus shape =>
          if size = 0 || acc.2.any (fun c => c.rule == rule && c.size == size) then acc
          else (acc.1, acc.2 ++ [⟨rule, size, bonus, shape⟩])
        | _ => acc)
      acc)
    (false, [])

/-- Close rules on reading `v` and all readings that come of it, whatever token follows, or as far
as `token` allows. The answer tells whether one of them can then read the token. -/
def reduceAllFrom (l : Language) (src : Source) (token : Option Nat) (start initial : Nat) :
    Nat → Nat → Stacks → Nat → Bool → Stacks × Bool
  | 0, _, s, _, able => (s, able)
  | budget + 1, turn, s, v, able =>
    let count := s.count
    if v ≥ count then (s, able)
    else
      let (s, merged) := mergeIntoEarlier l s count v
        ((List.range v).filter (· ≥ initial))
      if merged then reduceAllFrom l src token start initial budget (turn + 1) s v able
      else
        let tokens := match token with
          | some t => [t]
          | none => List.range l.automaton.tokens.size
        let (reads, closings) := possibleOn l (s.state v) tokens
        let (s, last) := closings.foldl
          (fun (acc : Stacks × Option Nat) c => acc.1.reduce l src v c) (s, none)
        let next := if v = start then count else v + 1
        if reads then reduceAllFrom l src token start initial budget (turn + 1) s next true
        else match last with
          | some made =>
            if turn < maxReadings then
              reduceAllFrom l src token start initial budget (turn + 1) (s.renumber made v) v able
            else
              let s := if token.isSome then s.remove v else s
              reduceAllFrom l src token start initial budget (turn + 1) s next able
          | none =>
            let s := if token.isSome then s.remove v else s
            reduceAllFrom l src token start initial budget (turn + 1) s next able

/-- The end of the text sets no limit: it counts as any token. -/
def reduceAll (l : Language) (src : Source) (s : Stacks) (v : Nat) (token : Option Nat) :
    Stacks × Bool :=
  let token := if token == some l.automaton.endOfText then none else token
  reduceAllFrom l src token v s.count 1000 0 s v false

end Stacks
end CodeSurvey.Parsing
