import CodeSurvey.Parsing.Automaton
import CodeSurvey.Parsing.Source

/-!
# Branches

The trees that parsing builds, hidden parts included. A branch knows the text it covers, what
its errors cost, and how much of it shows; parsing weighs readings by these.
-/

namespace CodeSurvey.Parsing

structure Costs where
  recovery : Nat
  missing : Nat
  skippedTree : Nat
  skippedByte : Nat
  skippedLine : Nat

def costs : Costs := ⟨500, 110, 100, 1, 30⟩

structure BranchInfo where
  label : Label
  /-- Stands outside the rules, like a comment. -/
  extra : Bool
  /-- Where the blank before it begins, where it begins itself, and where it ends. -/
  start : Nat
  first : Nat
  stop : Nat
  ownCost : Nat
  bonus : Int
  shape : Nat
  /-- Put in by recovery where the text has nothing. -/
  missing : Bool
  /-- A word that reads like a keyword. -/
  keyword : Bool
  visibleChildren : Nat
  visibleBelow : Nat
deriving Inhabited

inductive Branch where
  | mk (info : BranchInfo) (children : List Branch)
deriving Inhabited

namespace Branch

def info : Branch → BranchInfo
  | mk info _ => info

def children : Branch → List Branch
  | mk _ children => children

def label (b : Branch) : Label := b.info.label
def extra (b : Branch) : Bool := b.info.extra
def bonus (b : Branch) : Int := b.info.bonus

def withInfo (b : Branch) (f : BranchInfo → BranchInfo) : Branch := mk (f b.info) b.children

def markExtra (extra : Bool) (b : Branch) : Branch := b.withInfo ({ · with extra := extra })

def cost (b : Branch) : Nat :=
  if b.info.missing then costs.missing + costs.recovery else b.info.ownCost

def isVisible (a : Automaton) (b : Branch) : Bool := (a.display b.label).isVisible

def progress (a : Automaton) (b : Branch) : Nat :=
  b.info.visibleBelow + (if b.isVisible a then 1 else 0) +
    (if b.label = .skipped then 1 else 0)

def leaf (label : Label) (start first stop : Nat) : Branch :=
  mk { label := label, extra := false, start := start, first := first, stop := stop,
       ownCost := 0, bonus := 0, shape := 0, missing := false, keyword := false,
       visibleChildren := 0, visibleBelow := 0 } []

def missingToken (token place : Nat) : Branch :=
  (leaf (.token token) place place place).withInfo ({ · with missing := true })

def isErrorLabel (label : Label) : Bool := label = .error || label = .skipped

structure Sum where
  cost : Nat
  bonus : Int
  children : Nat
  below : Nat
  place : Nat

def Sum.add (a : Automaton) (label : Label) (kinds : List (Option String)) (s : Sum) (b : Branch) :
    Sum :=
  let info := b.info
  let childCost := if info.label = .skipped then 0 else b.cost
  let skipped :=
    if isErrorLabel label && !info.extra && !(info.label = .error && b.children.isEmpty) then
      if b.isVisible a then costs.skippedTree
      else if b.children.isEmpty then 0 else costs.skippedTree * info.visibleChildren
    else 0
  let renamed := !info.extra && info.label ≠ .token a.endOfText &&
    (kinds.getD s.place none).isSome
  let shows := renamed || b.isVisible a
  { cost := s.cost + childCost + skipped,
    bonus := s.bonus + info.bonus,
    children := s.children + (if shows then 1 else info.visibleChildren),
    below := s.below + info.visibleBelow + (if shows then 1 else 0),
    place := if info.extra then s.place else s.place + 1 }

/-- A node over the children; without children it is empty at `place`. -/
def node (a : Automaton) (src : Source) (label : Label) (shape place : Nat)
    (children : List Branch) : Branch :=
  let kinds := (a.shape shape).kinds
  let sum := children.foldl (Sum.add a label kinds) ⟨0, 0, 0, 0, 0⟩
  let start := (children.head?.map fun c => c.info.start).getD place
  let first := (children.head?.map fun c => c.info.first).getD place
  let stop := (children.getLast?.map fun c => c.info.stop).getD place
  let own := if isErrorLabel label then
      costs.recovery + costs.skippedByte * src.bytes first stop +
        costs.skippedLine * src.lines first stop
    else 0
  mk { label := label, extra := false, start := start, first := first, stop := stop,
       ownCost := sum.cost + own, bonus := sum.bonus, shape := shape, missing := false,
       keyword := false, visibleChildren := sum.children, visibleBelow := sum.below } children

def splitTrailing (bs : List Branch) : List Branch × List Branch :=
  let reversed := bs.reverse
  ((reversed.dropWhile extra).reverse, (reversed.takeWhile extra).reverse)

/-! ## Comparing readings -/

/-- Labels are ordered: tokens with the end of the text first, then rules, then errors. -/
def labelKey (a : Automaton) : Label → Nat × Nat
  | .token id => (0, if id = a.endOfText then 0 else id + 1)
  | .rule id => (1, id)
  | .error => (2, 0)
  | .skipped => (2, 1)

/-- The first difference in label or number of children, in preorder, decides. -/
def compareTrees (a : Automaton) : Nat → List (Branch × Branch) → Ordering
  | 0, _ => .eq
  | _, [] => .eq
  | budget + 1, (x, y) :: rest =>
    let kx := labelKey a x.label
    let ky := labelKey a y.label
    match (compare kx.1 ky.1).then ((compare kx.2 ky.2).then
      (compare x.children.length y.children.length)) with
    | .eq => compareTrees a budget (x.children.zip y.children ++ rest)
    | o => o

/-- Whether the second reading is to replace the first: it costs less, or has the larger bonus;
of two costly ones the later wins, and of two sound ones the smaller in preorder. -/
def prefersSecond (a : Automaton) (x y : Branch) : Bool :=
  if y.cost < x.cost then true
  else if x.cost < y.cost then false
  else if y.bonus > x.bonus then true
  else if x.bonus > y.bonus then false
  else if x.cost > 0 then true
  else compareTrees a 1000000 [(x, y)] == .gt

def alike : Option Branch → Option Branch → Bool
  | none, none => true
  | some x, some y =>
    x.label == y.label && ((x.cost > 0 && y.cost > 0) ||
      (x.info.first - x.info.start == y.info.first - y.info.start &&
        x.info.stop - x.info.first == y.info.stop - y.info.first &&
        x.children.length == y.children.length && x.extra == y.extra))
  | _, _ => false

end Branch
end CodeSurvey.Parsing
