import CodeSurvey.Parsing.States

/-!
# Merging states

States with the same items that differ only in the tokens that may follow are merged when nothing
depends on the difference: they act alike on every token both know, neither brings the other a
token that steers the scanner or rivals one it awaits, and what they lead to is merged as well.
-/

namespace CodeSurvey.Parsing

structure CompactRow where
  cells : List (Nat × List Action)
  known : TokenSet
  /-- Where each symbol leads; rules are numbered after the tokens. -/
  targets : List (Nat × Nat)
deriving Inhabited

def StateRow.compact (row : StateRow) : CompactRow :=
  let cells := row.cells.toList.zipIdx.filterMap fun (cell, t) =>
    if cell.isEmpty then none else some (t, cell)
  let shifts := cells.filterMap fun (t, cell) =>
    match cell.getLast? with
    | some (.shift target _) => some (t, target)
    | _ => none
  let gotos := row.gotos.toList.zipIdx.filterMap fun (target, id) =>
    if target = 0 then none else some (row.cells.size + id, target)
  ⟨cells, .ofList (cells.map Prod.fst), shifts ++ gotos⟩

/-! ## Groups -/

structure Groups where
  members : Array (List Nat)
  /-- The group of each state. -/
  ofState : Array Nat

/-- Keep the first member and all that do not differ from one kept before; the others leave in
the order in which they were found to differ. -/
def partitionBy (differ : Nat → Nat → Bool) : List Nat → List Nat × List Nat
  | [] => ([], [])
  | x :: xs =>
    let apart := xs.filter (differ x)
    let (kept, left) := partitionBy differ (xs.filter fun y => !differ x y)
    (x :: kept, apart ++ left)
termination_by ids => ids.length
decreasing_by
  simp only [List.unattach_filter, List.unattach_attach, List.length_cons]
  exact Nat.lt_succ_of_le (List.length_filter_le _ _)

/-- Split every group from `g` on, also those that splitting adds; tell whether any was split. -/
def Groups.split (differ : Array Nat → Nat → Nat → Bool) :
    Nat → Nat → Groups → Bool → Groups × Bool
  | 0, _, s, any => (s, any)
  | budget + 1, g, s, any =>
    match s.members[g]? with
    | none => (s, any)
    | some ids =>
      match partitionBy (differ s.ofState) ids with
      | (_, []) => split differ budget (g + 1) s any
      | (kept, left) =>
        let id := s.members.size
        split differ budget (g + 1)
          ⟨(s.members.setIfInBounds g kept).push left,
            left.foldl (fun acc state => acc.setIfInBounds state id) s.ofState⟩ true

/-- Split until no group is split any more; `passes` bounds the number of rounds. -/
def Groups.refine (differ : Array Nat → Nat → Nat → Bool) (budget : Nat) :
    Nat → Groups → Groups
  | 0, s => s
  | passes + 1, s =>
    match s.split differ budget 0 false with
    | (s, true) => s.refine differ budget passes
    | (s, false) => s

/-! ## When states differ -/

def sameAction (group : Array Nat) : Action → Action → Bool
  | .shift a again, .shift b again' => group.getD a 0 == group.getD b 0 && again == again'
  | x, y => x == y

def sameActions (group : Array Nat) : List Action → List Action → Bool
  | [], [] => true
  | x :: xs, y :: ys => sameAction group x y && sameActions group xs ys
  | _, _ => false

/-- Whether two lists agree on every key that both have. Keys increase along each list. -/
def agreeOnShared (same : α → α → Bool) : Nat → List (Nat × α) → List (Nat × α) → Bool
  | _, [], _ => true
  | _, _, [] => true
  | 0, _, _ => true
  | budget + 1, (i, x) :: xs, (j, y) :: ys =>
    if i < j then agreeOnShared same budget xs ((j, y) :: ys)
    else if j < i then agreeOnShared same budget ((i, x) :: xs) ys
    else same x y && agreeOnShared same budget xs ys

structure Lexical where
  /-- Tokens that steer the scanner. -/
  watched : TokenSet
  /-- Tokens with the awaited ones that each must not join. -/
  rivals : List (Nat × TokenSet)
  /-- The tokens that have rivals. -/
  rivalled : TokenSet

def actDifferently (lexical : Lexical) (rows : Array CompactRow) (group : Array Nat) (a b : Nat) :
    Bool :=
  let x := rows.getD a default
  let y := rows.getD b default
  let onlyX := x.known.diff y.known
  let onlyY := y.known.diff x.known
  if !(onlyX.union onlyY).disjoint lexical.watched then true
  else
    let clash := fun (only other : TokenSet) => !only.disjoint lexical.rivalled &&
      lexical.rivals.any fun (t, rivals) => only.contains t && !rivals.disjoint other
    clash onlyX y.known || clash onlyY x.known ||
      !agreeOnShared (sameActions group) 1000 x.cells y.cells

def leadElsewhere (rows : Array CompactRow) (group : Array Nat) (a b : Nat) : Bool :=
  let x := rows.getD a default
  let y := rows.getD b default
  !agreeOnShared (fun s t => group.getD s 0 == group.getD t 0) 1000 x.targets y.targets

/-! ## The merged rows -/

def Action.redirect (target : Nat → Nat) : Action → Action
  | .shift state again => .shift (target state) again
  | a => a

def StateRow.redirect (target : Nat → Nat) (row : StateRow) : StateRow :=
  ⟨row.cells.map (·.map (Action.redirect target)),
    row.gotos.map fun state => if state = 0 then 0 else target state⟩

def StateRow.join (a b : StateRow) : StateRow :=
  ⟨(a.cells.zip b.cells).map fun (x, y) => if x.isEmpty then y else x,
    (a.gotos.zip b.gotos).map fun (x, y) => if x = 0 then y else x⟩

/-- One row for each group, in the order of the groups. States 0 and 1 are alone in theirs. -/
def mergeStates (lexical : Lexical) (cores : Array Nat) (rows : Array StateRow) :
    Array StateRow :=
  let compact := rows.map StateRow.compact
  let count := cores.foldl max 0 + 1
  let initial : Groups :=
    ⟨((cores.zipIdx.foldl
        (fun (acc : Array (List Nat)) (core, state) => acc.modify core (state :: ·))
        (Array.replicate count [])).map List.reverse), cores⟩
  let budget := 4 * rows.size
  let (apart, _) := initial.split (actDifferently lexical compact) budget 0 false
  let groups := apart.refine (leadElsewhere compact) budget 100
  groups.members.map fun ids =>
    match ids with
    | [] => default
    | first :: rest =>
      (rest.foldl (fun row id => row.join (rows.getD id default)) (rows.getD first default)).redirect
        fun state => groups.ofState.getD state 0

/-! ## Skipping wrappers -/

/-- The hidden rule a state only ever closes around a single child, if that is all it does. -/
def StateRow.wrapper (skippable : Nat → Bool) (row : StateRow) : Option Nat :=
  let actions := row.cells.toList.flatten.filter (· != .shiftExtra)
  match actions with
  | .reduce rule 1 0 0 :: _ =>
    if skippable rule && actions.all (· == .reduce rule 1 0 0) then some rule else none
  | _ => none

/-- Lead past states that only close a wrapper: straight to where the wrapper itself leads. -/
def StateRow.skipWrappers (wrappers : Array (Option Nat)) (row : StateRow) : Nat → StateRow
  | 0 => row
  | passes + 1 =>
    let past := fun state => match wrappers.getD state none with
      | some rule => match row.gotos.getD rule 0 with
        | 0 => state
        | target => target
      | none => state
    (row.redirect past).skipWrappers wrappers passes

def skipAllWrappers (skippable : Nat → Bool) (rows : Array StateRow) : Array StateRow :=
  let wrappers := rows.map (StateRow.wrapper skippable)
  rows.map fun row => row.skipWrappers wrappers 4

end CodeSurvey.Parsing
