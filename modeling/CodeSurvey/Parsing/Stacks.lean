import CodeSurvey.Parsing.Branch

/-!
# Parallel stacks

The readings of a text that are still open, as stacks that share their lower parts. A node of the
shared part is a state reached at a place; its links lead down, each over the branch that was
read. Where two readings meet in one state at one place, their nodes are joined into one with
several links, and going down again finds every way up.
-/

namespace CodeSurvey.Parsing

/-- The step down from a node, and the branch above it; none where recovery began. -/
structure Link where
  below : Nat
  branch : Option Branch
deriving Inhabited

structure StackNode where
  state : Nat
  place : Nat
  links : Array Link
  cost : Nat
  bonus : Int
  progress : Nat
deriving Inhabited

structure Passed where
  state : Nat
  place : Nat
  depth : Nat
deriving Inhabited

inductive Status where
  | active
  | paused (token : Branch)
  | halted
deriving Inhabited

structure Head where
  node : Nat
  /-- The progress made when the last error was met. -/
  progressAtError : Nat
  status : Status
  summary : Option (List Passed)
deriving Inhabited

structure Stacks where
  nodes : Array StackNode
  heads : Array Head
  /-- The best whole reading so far, and how many there were. -/
  finished : Option Branch
  finishedCount : Nat
deriving Inhabited

namespace Stacks

def maxLinks : Nat := 8
def maxWalkers : Nat := 64

def initial : Stacks :=
  { nodes := #[⟨Automaton.starting, 0, #[], 0, 0, 0⟩], heads := #[⟨0, 0, .active, none⟩],
    finished := none, finishedCount := 0 }

def head (s : Stacks) (v : Nat) : Head := s.heads.getD v default
def node (s : Stacks) (id : Nat) : StackNode := s.nodes.getD id default
def top (s : Stacks) (v : Nat) : StackNode := s.node (s.head v).node
def state (s : Stacks) (v : Nat) : Nat := (s.top v).state
def place (s : Stacks) (v : Nat) : Nat := (s.top v).place
def count (s : Stacks) : Nat := s.heads.size

def isActive (s : Stacks) (v : Nat) : Bool :=
  match (s.head v).status with
  | .active => true
  | _ => false

def isPaused (s : Stacks) (v : Nat) : Bool :=
  match (s.head v).status with
  | .paused _ => true
  | _ => false

def isHalted (s : Stacks) (v : Nat) : Bool :=
  match (s.head v).status with
  | .halted => true
  | _ => false

def updateHead (s : Stacks) (v : Nat) (f : Head → Head) : Stacks :=
  { s with heads := s.heads.modify v f }

def halt (s : Stacks) (v : Nat) : Stacks := s.updateHead v ({ · with status := .halted })

def remove (s : Stacks) (v : Nat) : Stacks := { s with heads := s.heads.eraseIdxIfInBounds v }

def pause (s : Stacks) (v : Nat) (token : Branch) : Stacks :=
  let progress := (s.top v).progress
  s.updateHead v ({ · with status := .paused token, progressAtError := progress })

def copy (s : Stacks) (v : Nat) : Stacks :=
  { s with heads := s.heads.push { s.head v with summary := none } }

def renumber (s : Stacks) (a b : Nat) : Stacks :=
  if a = b then s
  else
    let source := s.head a
    let target := s.head b
    let moved := { source with summary := source.summary <|> target.summary }
    { s with heads := (s.heads.setIfInBounds b moved).eraseIdxIfInBounds a }

def push (s : Stacks) (auto : Automaton) (v : Nat) (branch : Option Branch) (state : Nat) :
    Stacks :=
  let belowId := (s.head v).node
  let below := s.node belowId
  let link : Link := ⟨belowId, branch⟩
  let top : StackNode := match branch with
    | some b =>
      { state := state, place := b.info.stop, links := #[link], cost := below.cost + b.cost,
        bonus := below.bonus + b.bonus, progress := below.progress + b.progress auto }
    | none => { below with state := state, links := #[link] }
  let id := s.nodes.size
  { s with
    nodes := s.nodes.push top,
    heads := s.heads.modify v fun h =>
      { h with node := id,
               progressAtError := if branch.isNone then top.progress else h.progressAtError } }

/-! ## Joining -/

def branchBonus (b : Option Branch) : Int := (b.map Branch.bonus).getD 0
def branchProgress (auto : Automaton) (b : Option Branch) : Nat :=
  (b.map (Branch.progress auto)).getD 0

/-- Whether two nodes stand for the same state at the same place at the same cost. -/
def sameStand (x y : StackNode) : Bool :=
  x.state == y.state && x.place == y.place && x.cost == y.cost

def addLink (auto : Automaton) : Nat → Stacks → Nat → Link → Stacks
  | 0, s, _, _ => s
  | depth + 1, s, id, link =>
    if link.below = id then s
    else
      let node := s.node id
      let target := s.node link.below
      let found := node.links.findIdx? fun old =>
        Branch.alike old.branch link.branch &&
          (old.below == link.below || sameStand (s.node old.below) target)
      match found with
      | some i =>
        let old := node.links.getD i default
        let bonus := target.bonus + branchBonus link.branch
        if old.below = link.below then
          if branchBonus link.branch > branchBonus old.branch then
            { s with nodes := s.nodes.modify id fun n =>
                { n with links := n.links.setIfInBounds i link, bonus := bonus } }
          else s
        else
          let s := target.links.foldl (fun s l => addLink auto depth s old.below l) s
          { s with nodes := s.nodes.modify id fun n => { n with bonus := max n.bonus bonus } }
      | none =>
        if node.links.size ≥ maxLinks then s
        else
          { s with nodes := s.nodes.modify id fun n =>
              { n with links := n.links.push link,
                       progress := max n.progress
                         (target.progress + branchProgress auto link.branch),
                       bonus := max n.bonus (target.bonus + branchBonus link.branch) } }

def canMerge (s : Stacks) (a b : Nat) : Bool :=
  s.isActive a && s.isActive b && sameStand (s.top a) (s.top b)

def merge (auto : Automaton) (s : Stacks) (a b : Nat) : Stacks × Bool :=
  if s.canMerge a b then
    let id := (s.head a).node
    let s := (s.top b).links.foldl (fun s l => addLink auto (s.nodes.size + 1) s id l) s
    let top := s.node id
    let s := if top.state = Automaton.recovering then
        s.updateHead a ({ · with progressAtError := top.progress })
      else s
    (s.remove b, true)
  else (s, false)

/-! ## Going down -/

/-- One way down from a head: where it is, the branches passed, the lowest first, and how many
of them count. -/
structure Walker where
  node : Nat
  branches : List Branch
  passed : Nat
deriving Inhabited

def Walker.step (w : Walker) (l : Link) : Walker :=
  match l.branch with
  | some b => ⟨l.below, b :: w.branches, if b.extra then w.passed else w.passed + 1⟩
  | none => ⟨l.below, w.branches, w.passed + 1⟩

/-- One round of going down. The first link is followed in place, the others by new walkers at
the end. `arrived` says whether to note a walker and whether to stop it. -/
def walkRound (s : Stacks) (arrived : Walker → Bool × Bool) (walkers : Array Walker) :
    Array Walker × Array Walker :=
  let (stayed, added, noted, _) := walkers.foldl
    (fun (acc : Array Walker × Array Walker × Array Walker × Nat) w =>
      let (stayed, added, noted, total) := acc
      let (note, stop) := arrived w
      let links := (s.node w.node).links
      let noted := if note then noted.push w else noted
      if stop || links.isEmpty then (stayed, added, noted, total - 1)
      else
        let others := (links.extract 1 links.size).extract 0 (maxWalkers - total)
        (stayed.push (w.step (links.getD 0 default)), added ++ others.map w.step, noted,
          total + others.size))
    (#[], #[], #[], walkers.size)
  (stayed ++ added, noted)

/-- Go down until all walkers have stopped; the walkers noted, in order. -/
def walk (s : Stacks) (arrived : Walker → Bool × Bool) : Nat → Array Walker → Array Walker
  | 0, _ => #[]
  | rounds + 1, walkers =>
    if walkers.isEmpty then #[]
    else
      let (walkers, noted) := walkRound s arrived walkers
      noted ++ walk s arrived rounds walkers

def walkFrom (s : Stacks) (v : Nat) (arrived : Walker → Bool × Bool) : Array Walker :=
  s.walk arrived (s.nodes.size + 2) #[⟨(s.head v).node, [], 0⟩]

structure Slice where
  branches : List Branch
  version : Nat
deriving Inhabited

def openBelow (s : Stacks) (v : Nat) (walkers : Array Walker) : Stacks × List Slice :=
  walkers.foldl
    (fun (acc : Stacks × List Slice) w =>
      let (s, slices) := acc
      let here := fun (slice : Slice) => (s.head slice.version).node == w.node
      match slices.reverse.find? here with
      | some slice =>
        let later := (slices.reverse.takeWhile fun x => !here x).reverse
        let upTo := slices.take (slices.length - later.length)
        (s, upTo ++ ⟨w.branches, slice.version⟩ :: later)
      | none =>
        let opened : Head := ⟨w.node, (s.head v).progressAtError, .active, none⟩
        ({ s with heads := s.heads.push opened }, slices ++ [⟨w.branches, s.heads.size⟩]))
    (s, [])

def pop (s : Stacks) (v n : Nat) : Stacks × List Slice :=
  s.openBelow v (s.walkFrom v fun w => (w.passed == n, w.passed == n))

def popAll (s : Stacks) (v : Nat) : Stacks × List Slice :=
  s.openBelow v (s.walkFrom v fun w => ((s.node w.node).links.isEmpty, false))

def popError (s : Stacks) (v : Nat) : Stacks × Option Branch :=
  let isError := fun (l : Link) => (l.branch.map Branch.label) == some .error
  match (s.top v).links.find? isError with
  | some l => (s.updateHead v ({ · with node := l.below }), l.branch)
  | none => (s, none)

def summarize (s : Stacks) (depth : Nat) (v : Nat) : Stacks :=
  let visited := s.walkFrom v fun w => (w.passed ≤ depth, w.passed > depth)
  let summary := visited.foldl
    (fun (acc : List Passed) w =>
      let n := s.node w.node
      let known := (acc.takeWhile fun p => p.depth ≥ w.passed).any fun p =>
        p.depth == w.passed && p.state == n.state
      if known then acc else ⟨n.state, n.place, w.passed⟩ :: acc)
    []
  s.updateHead v ({ · with summary := some summary.reverse })

/-! ## Weighing readings -/

def errorCost (s : Stacks) (v : Nat) : Nat :=
  let top := s.top v
  let atDiscontinuity := top.state = Automaton.recovering &&
    ((top.links[0]?.map fun l => l.branch.isNone).getD true)
  top.cost + (if s.isPaused v || atDiscontinuity then costs.recovery else 0)

/-- The progress since the last error. A head that fell below it is brought into line. -/
def progressSince (s : Stacks) (v : Nat) : Stacks × Nat :=
  let progress := (s.top v).progress
  let noted := (s.head v).progressAtError
  if progress < noted then (s.updateHead v ({ · with progressAtError := progress }), 0)
  else (s, progress - noted)

def advancedFrom (s : Stacks) (noted : Nat) : Nat → Nat → Bool
  | 0, _ => false
  | depth + 1, id =>
    let n := s.node id
    let link : Link := n.links.getD 0 default
    match link.branch with
    | some b =>
      if b.info.stop > b.info.start then true
      else if n.progress > noted && b.cost == 0 then s.advancedFrom noted depth link.below
      else false
    | none => false

def hasAdvanced (s : Stacks) (v : Nat) : Bool :=
  (s.top v).cost == 0 ||
    s.advancedFrom (s.head v).progressAtError s.nodes.size (s.head v).node

structure Standing where
  cost : Nat
  progress : Nat
  bonus : Int
  inError : Bool
deriving Inhabited

def standing (s : Stacks) (v : Nat) : Stacks × Standing :=
  let (s, progress) := s.progressSince v
  (s, { cost := s.errorCost v + (if s.isPaused v then costs.skippedTree else 0),
        progress := progress,
        bonus := (s.top v).bonus,
        inError := s.isPaused v || s.state v = Automaton.recovering })

inductive Verdict where
  | takeLeft
  | preferLeft
  | even
  | preferRight
  | takeRight
deriving DecidableEq

/-- The difference in cost, weighed by progress, beyond which a reading is given up. -/
def maxDifference : Nat := 18 * costs.skippedTree

def Standing.compare (x y : Standing) : Verdict :=
  if !x.inError && y.inError then if x.cost < y.cost then .takeLeft else .preferLeft
  else if x.inError && !y.inError then if y.cost < x.cost then .takeRight else .preferRight
  else if x.cost < y.cost then
    if (y.cost - x.cost) * (1 + x.progress) > maxDifference then .takeLeft else .preferLeft
  else if y.cost < x.cost then
    if (x.cost - y.cost) * (1 + y.progress) > maxDifference then .takeRight else .preferRight
  else if x.bonus > y.bonus then .preferLeft
  else if y.bonus > x.bonus then .preferRight
  else .even

def anyBetter (v : Nat) (mine : Standing) : List Nat → Stacks → Stacks × Bool
  | [], s => (s, false)
  | i :: others, s =>
    if i ≠ v && s.isActive i && s.place i ≥ s.place v then
      let (s, theirs) := s.standing i
      match mine.compare theirs with
      | .takeRight => (s, true)
      | .preferRight => if s.canMerge i v then (s, true) else anyBetter v mine others s
      | _ => anyBetter v mine others s
    else anyBetter v mine others s

def betterExists (s : Stacks) (v cost : Nat) : Stacks × Bool :=
  if (s.finished.map fun b => decide (b.cost ≤ cost)).getD false then (s, true)
  else
    let (s, progress) := s.progressSince v
    anyBetter v ⟨cost, progress, (s.top v).bonus, false⟩ (List.range s.count) s

end Stacks
end CodeSurvey.Parsing
