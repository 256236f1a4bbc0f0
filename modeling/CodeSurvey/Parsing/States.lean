import Std.Data.HashMap
import CodeSurvey.Parsing.Items

/-!
# States

The states of a grammar's automaton: item sets with the tokens that may follow each item, found
from the start item on. Where several actions are possible on one token, ranks and sides strike
out what they can; what is left is followed in parallel.
-/

namespace CodeSurvey.Parsing

inductive Action where
  /-- Read the token. Reading again inside a repetition yields to closing the repetition. -/
  | shift (state : Nat) (again : Bool)
  /-- Read a token that may stand anywhere. -/
  | shiftExtra
  | reduce (rule size : Nat) (bonus : Int) (shape : Nat)
  | accept
  | recover
deriving DecidableEq, Inhabited

/-- The items a state starts from, by increasing number, with the tokens that may follow. -/
abbrev Kernel := Array (Nat × TokenSet)

structure StateRow where
  /-- The actions on each token; the end of the text comes after all tokens. -/
  cells : Array (List Action)
  /-- The state after each rule, zero where there is none. -/
  gotos : Array Nat
deriving Inhabited

/-! ## Comparing ranks -/

def Ranked.covers (p : Productions) (rank : Rank) (rules : List Nat) : Ranked → Bool
  | .level name => rank == .level name
  | .rule name => rules.any fun id => (p.rules.getD id default).name == name

def compareIn (p : Productions) (a : Rank × List Nat) (b : Rank × List Nat) :
    List Ranked → Bool → Bool → Option Ordering
  | [], _, _ => none
  | entry :: rest, sawA, sawB =>
    if entry.covers p a.1 a.2 then
      if sawB then some .lt else compareIn p a b rest true sawB
    else if entry.covers p b.1 b.2 then
      if sawA then some .gt else compareIn p a b rest sawA true
    else compareIn p a b rest sawA sawB

/-- The tighter is the greater. Numbers compare with numbers and with the lack of a rank, which
counts as zero; all else is settled by the first ordering that names both. -/
def compareRanks (p : Productions) (orderings : List (List Ranked)) (a b : Rank × List Nat) :
    Ordering :=
  let named := (orderings.findSome? fun entries => compareIn p a b entries false false).getD .eq
  match a.1, b.1 with
  | .number m, .number n => if m ≠ 0 ∨ n ≠ 0 then compare m n else named
  | .number m, .unranked => if m ≠ 0 then compare m 0 else named
  | .unranked, .number n => if n ≠ 0 then compare 0 n else named
  | _, _ => named

/-! ## Settling conflicts -/

structure Standing where
  actions : List Action
  rank : Rank
  rules : List Nat
  left : Bool
  right : Bool
  unsided : Bool
deriving Inhabited

def Standing.none : Standing := ⟨[], .unranked, [], false, false, false⟩

/-- Add a reduction unless a tighter one stands; a tighter one replaces all others. -/
def Standing.add (cmp : Rank × List Nat → Rank × List Nat → Ordering) (s : Standing)
    (item : ItemInfo) (action : Action) : Standing :=
  let join := fun (s : Standing) => Standing.mk (s.actions ++ [action]) item.rank
    (if s.rules.contains item.rule then s.rules else s.rules ++ [item.rule])
    (s.left || item.side == some .left) (s.right || item.side == some .right)
    (s.unsided || item.side == .none)
  if s.actions.isEmpty then join s
  else match cmp (item.rank, [item.rule]) (s.rank, s.rules) with
    | .gt => join .none
    | .eq => join s
    | .lt => s

/-- Decide between the reductions and the shift to `target` on a token. `shifts` holds the
unfinished items that may go on with the token, `involved` the rules of all items in question. -/
def settle (p : Productions) (cmp : Rank × List Nat → Rank × List Nat → Ordering)
    (standing : Standing) (target : Nat) (shifts : List ItemInfo) (involved : List Nat) :
    List Action :=
  let repetition := match involved with
    | [] => false
    | rule :: rest => (p.rules.getD rule default).repetition && rest.all (· == rule)
  if repetition then standing.actions ++ [.shift target true]
  else
    let verdicts := shifts.map fun i => cmp (i.rank, [i.rule]) (standing.rank, standing.rules)
    let more := verdicts.contains .gt
    let less := verdicts.contains .lt
    let keepShift := [Action.shift target false]
    if more && !less then keepShift
    else if less && !more then standing.actions
    else if less || more then standing.actions ++ keepShift
    else match standing.left, standing.unsided, standing.right with
      | true, false, false => standing.actions
      | false, false, true => keepShift
      | _, _, _ => standing.actions ++ keepShift

/-! ## Closing a kernel -/

/-- Join the tokens into the slot of an item; report whether the slot was empty. -/
def joinAt (slots : Array TokenSet) (item : Nat) (tokens : TokenSet) : Array TokenSet × Bool :=
  let fresh := (slots.getD item .empty).isEmpty
  (slots.modify item (·.union tokens), fresh)

/-- All items of a state, in the order in which they were found. The slots are all empty before
and are left filled at the items found. -/
def Items.close (t : Items) (slots : Array TokenSet) (kernel : Kernel) :
    Array TokenSet × Array Nat :=
  kernel.foldl
    (fun acc (item, tokens) =>
      let (slots, fresh) := joinAt acc.1 item tokens
      let acc := (slots, if fresh then acc.2.push item else acc.2)
      let info := t.infos.getD item default
      match info.expected with
      | .rule id =>
        let after := info.following.getD tokens
        (t.openings.getD id #[]).foldl
          (fun acc o =>
            let tokens := if o.inherits then o.tokens.union after else o.tokens
            let (slots, fresh) := joinAt acc.1 o.item tokens
            (slots, if fresh then acc.2.push o.item else acc.2))
          acc
      | _ => acc)
    (slots, #[])

def Kernel.normal (entries : Array (Nat × TokenSet)) : Kernel :=
  (entries.qsort fun a b => a.1 < b.1).foldl
    (fun (acc : Kernel) entry =>
      match acc.back? with
      | some last =>
        if last.1 = entry.1 then acc.pop.push (last.1, last.2.union entry.2) else acc.push entry
      | none => acc.push entry)
    #[]

/-! ## Building all states -/

structure StateTable where
  kernels : Array Kernel
  numbers : Std.HashMap Kernel Nat
  cores : Array Nat
  coreNumbers : Std.HashMap (Array Nat) Nat
  rows : Array StateRow
  slots : Array TokenSet
  buckets : Array (Array (Nat × TokenSet))

def StateTable.state (s : StateTable) (kernel : Kernel) : StateTable × Nat :=
  match s.numbers[kernel]? with
  | some id => (s, id)
  | none =>
    let id := s.kernels.size
    let core := kernel.map Prod.fst
    let (coreNumbers, number) := match s.coreNumbers[core]? with
      | some n => (s.coreNumbers, n)
      | none => (s.coreNumbers.insert core s.coreNumbers.size, s.coreNumbers.size)
    ({ s with kernels := s.kernels.push kernel, numbers := s.numbers.insert kernel id,
              cores := s.cores.push number, coreNumbers := coreNumbers }, id)

structure Builder where
  productions : Productions
  items : Items
  compare : Rank × List Nat → Rank × List Nat → Ordering
  tokenCount : Nat
  extras : List Nat

def finishedBefore (a b : ItemInfo) : Bool :=
  a.place < b.place || (a.place == b.place &&
    (a.rule < b.rule || (a.rule == b.rule && a.production < b.production)))

def Builder.reduction (b : Builder) (i : ItemInfo) : Action :=
  match b.productions.all[i.production]? with
  | some production => .reduce i.rule i.place production.bonus production.shape
  | none => .accept

def Builder.standings (b : Builder) (finished : List (ItemInfo × TokenSet)) : Array Standing :=
  match finished with
  | [] => #[]
  | [(i, tokens)] =>
    let only := Standing.none.add b.compare i (b.reduction i)
    (Array.range (b.tokenCount + 1)).map fun t => if tokens.contains t then only else .none
  | _ => (Array.range (b.tokenCount + 1)).map fun t =>
    finished.foldl
      (fun s (i, tokens) => if tokens.contains t then s.add b.compare i (b.reduction i) else s)
      .none

def Builder.addRow (b : Builder) (s : StateTable) (kernel : Kernel) : StateTable :=
  let (slots, found) := b.items.close s.slots kernel
  -- Sort the items by what they expect.
  let (buckets, used, finished) := found.foldl
    (fun (acc : Array (Array (Nat × TokenSet)) × Array Nat × List (ItemInfo × TokenSet)) item =>
      let (buckets, used, finished) := acc
      let info := b.items.infos.getD item default
      let tokens := slots.getD item .empty
      match info.expected with
      | .nothing => (buckets, used, (info, tokens) :: finished)
      | .token id =>
        let used := if (buckets.getD id #[]).isEmpty then used.push id else used
        (buckets.modify id (·.push (info.next, tokens)), used, finished)
      | .rule id =>
        let id := b.tokenCount + id
        let used := if (buckets.getD id #[]).isEmpty then used.push id else used
        (buckets.modify id (·.push (info.next, tokens)), used, finished))
    (s.buckets, #[], [])
  let slots := found.foldl (fun slots item => slots.setIfInBounds item .empty) slots
  let finished := finished.mergeSort fun x y => !finishedBefore y.1 x.1
  let standings := b.standings finished
  -- Number the successors.
  let used := used.qsort (· < ·)
  let (s, buckets, targets) := used.foldl
    (fun (acc : StateTable × Array (Array (Nat × TokenSet)) × Array (Nat × Nat)) id =>
      let (s, buckets, targets) := acc
      let (s, target) := s.state (Kernel.normal (buckets.getD id #[]))
      (s, buckets.setIfInBounds id #[], targets.push (id, target)))
    ({ s with slots := #[], buckets := #[] }, buckets, #[])
  -- Fill the row.
  let cells := if standings.isEmpty then Array.replicate (b.tokenCount + 1) []
    else standings.map Standing.actions
  let (cells, gotos) := targets.foldl
    (fun (acc : Array (List Action) × Array Nat) (id, target) =>
      if id < b.tokenCount then
        let standing := standings.getD id .none
        if standing.actions.isEmpty then
          (acc.1.setIfInBounds id [.shift target false], acc.2)
        else
          let inner := kernel.toList.map fun (item, tokens) =>
            (b.items.infos.getD item default, tokens)
          let shifts := (inner.map Prod.fst).filter fun i => i.place > 0 &&
            match i.expected with
            | .token t => t == id
            | .rule r => (b.items.firsts.getD r .empty).contains id
            | .nothing => false
          let closing := (finished.filter fun f => f.2.contains id).map fun f => f.1.rule
          let involved := (shifts.map ItemInfo.rule ++ closing).filter
            (· < b.productions.rules.size)
          (acc.1.setIfInBounds id
            (settle b.productions b.compare standing target shifts involved), acc.2)
      else (acc.1, acc.2.setIfInBounds (id - b.tokenCount) target))
    (cells, Array.replicate b.productions.rules.size 0)
  let cells := b.extras.foldl
    (fun cells t => if (cells.getD t []).isEmpty then cells.setIfInBounds t [.shiftExtra] else cells)
    cells
  { s with rows := s.rows.push ⟨cells, gotos⟩, slots := slots, buckets := buckets }

/-- Add rows until every state has one; `budget` bounds the number of states. -/
def Builder.addRows (b : Builder) : Nat → StateTable → StateTable
  | 0, s => s
  | budget + 1, s =>
    match s.kernels[s.rows.size]? with
    | none => s
    | some kernel => b.addRows budget (b.addRow s kernel)

def Grammar.tokenNumber (g : Grammar) (name : String) : Nat :=
  g.tokens.findIdx fun t => t.name == name

def Grammar.builder (g : Grammar) (p : Productions) (t : Items) : Builder :=
  { productions := p, items := t,
    compare := compareRanks p g.orderings,
    tokenCount := p.tokens.size, extras := g.extras.map g.tokenNumber }

/-- State 0 is kept for recovery and has no items; state 1 is the start. -/
def Builder.states (b : Builder) : StateTable :=
  let empty : StateTable :=
    { kernels := #[], numbers := ∅, cores := #[], coreNumbers := ∅, rows := #[],
      slots := b.items.infos.map fun _ => .empty,
      buckets := Array.replicate (b.tokenCount + b.productions.rules.size) #[] }
  let (s, _) := empty.state #[]
  let (s, _) := s.state #[(b.items.start, .singleton b.tokenCount)]
  b.addRows 20000 s

end CodeSurvey.Parsing
