import CodeSurvey.Script.Tree

/-!
# Cursors

How deeply a tree nests is found without recursion: a cursor goes from node to node in preorder,
down to the first child, across to the next sibling and up to the parent, and a counter follows
its depth.
-/

namespace CodeSurvey.Script

/-- A place in a tree. Below the top, the siblings that come later are kept, and the place of the
parent. -/
inductive Cursor where
  | top (root : SyntaxTree)
  | child (node : SyntaxTree) (later : List SyntaxTree) (parent : Cursor)

namespace Cursor

def node : Cursor → SyntaxTree
  | top root => root
  | child node _ _ => node

/-- How many nodes lie above. -/
def depth : Cursor → Nat
  | top _ => 0
  | child _ _ parent => parent.depth + 1

def firstChild? (c : Cursor) : Option Cursor :=
  match c.node.children with
  | [] => none
  | t :: later => some (child t later c)

def nextSibling? : Cursor → Option Cursor
  | child _ (t :: later) parent => some (child t later parent)
  | _ => none

def parent? : Cursor → Option Cursor
  | top _ => none
  | child _ _ parent => some parent

/-- The nodes in preorder that come after all of those below the cursor. -/
def ahead : Cursor → List (Nat × SyntaxTree)
  | top _ => []
  | child _ later parent => SyntaxTree.leveledAll (parent.depth + 1) later ++ parent.ahead

section
variable {c c' : Cursor}

theorem depth_of_firstChild? (h : c.firstChild? = some c') : c'.depth = c.depth + 1 := by
  unfold firstChild? at h
  split at h
  · cases h
  · cases h
    rfl

theorem depth_of_nextSibling? (h : c.nextSibling? = some c') : c'.depth = c.depth := by
  unfold nextSibling? at h
  split at h
  · cases h
    rfl
  · cases h

theorem depth_of_parent? (h : c.parent? = some c') : c.depth = c'.depth + 1 := by
  cases c with
  | top => cases h
  | child =>
    cases h
    rfl

theorem leveled_of_firstChild? (h : c.firstChild? = some c') :
    c.node.leveled c.depth ++ c.ahead =
      (c.depth, c.node) :: (c'.node.leveled c'.depth ++ c'.ahead) := by
  unfold firstChild? at h
  split at h
  · cases h
  next t later hchildren =>
    cases h
    generalize hnode : c.node = u at hchildren
    cases u with
    | node info children =>
      obtain rfl : children = t :: later := hchildren
      simp [SyntaxTree.leveled, SyntaxTree.leveledAll, ahead, depth, node]

theorem leveled_of_firstChild?_none (h : c.firstChild? = none) :
    c.node.leveled c.depth = [(c.depth, c.node)] := by
  unfold firstChild? at h
  split at h
  next hchildren =>
    generalize c.node = u at hchildren
    cases u with
    | node info children =>
      obtain rfl : children = [] := hchildren
      rfl
  · cases h

theorem ahead_of_nextSibling? (h : c.nextSibling? = some c') :
    c.ahead = c'.node.leveled c'.depth ++ c'.ahead := by
  unfold nextSibling? at h
  split at h
  · cases h
    simp [SyntaxTree.leveledAll, ahead, depth, node]
  · cases h

theorem ahead_of_parent? (hlast : c.nextSibling? = none) (h : c.parent? = some c') :
    c.ahead = c'.ahead := by
  cases c with
  | top => cases h
  | child u later parent =>
    cases h
    cases later with
    | nil => rfl
    | cons => cases hlast

theorem ahead_of_parent?_none (h : c.parent? = none) : c.ahead = [] := by
  cases c with
  | top => rfl
  | child => cases h

end

end Cursor

/-- A search for a node that lies too deep: the cursor, the count of its depth, and whether all
nodes below the cursor have been seen. -/
structure DepthSearch where
  cursor : Cursor
  depth : Nat
  climbing : Bool

namespace DepthSearch

def start (root : SyntaxTree) : DepthSearch := ⟨.top root, 0, false⟩

/-- What comes of a step: the search goes on, or ends with the line of a node that lies too
deep, if there is one. -/
inductive Outcome where
  | moved (s : DepthSearch)
  | ended (line : Option Nat)

def step (limit : Nat) (s : DepthSearch) : Outcome :=
  if s.climbing then
    match s.cursor.nextSibling? with
    | some c => .moved ⟨c, s.depth, false⟩
    | none =>
      match s.cursor.parent? with
      | some c => .moved ⟨c, s.depth - 1, true⟩
      | none => .ended none
  else if limit < s.depth then .ended (some s.cursor.node.span.startLine)
  else
    match s.cursor.firstChild? with
    | some c => .moved ⟨c, s.depth + 1, false⟩
    | none => .moved ⟨s.cursor, s.depth, true⟩

/-- The moves that a step makes. -/
inductive Move (limit : Nat) : DepthSearch → DepthSearch → Prop where
  | down {c c' depth} : depth ≤ limit → c.firstChild? = some c' →
      Move limit ⟨c, depth, false⟩ ⟨c', depth + 1, false⟩
  | turn {c depth} : depth ≤ limit → c.firstChild? = none →
      Move limit ⟨c, depth, false⟩ ⟨c, depth, true⟩
  | across {c c' depth} : c.nextSibling? = some c' →
      Move limit ⟨c, depth, true⟩ ⟨c', depth, false⟩
  | up {c c' depth} : c.nextSibling? = none → c.parent? = some c' →
      Move limit ⟨c, depth, true⟩ ⟨c', depth - 1, true⟩

theorem move_of_step {limit : Nat} {s s' : DepthSearch} (h : s.step limit = .moved s') :
    Move limit s s' := by
  obtain ⟨c, depth, climbing⟩ := s
  cases climbing with
  | true =>
    simp only [step, if_true] at h
    split at h
    next hnext =>
      cases h
      exact .across hnext
    next hlast =>
      split at h
      next hparent =>
        cases h
        exact .up hlast hparent
      · cases h
  | false =>
    simp only [step, Bool.false_eq_true, if_false] at h
    split at h
    · cases h
    next hdepth =>
      split at h
      next hchild =>
        cases h
        exact .down (Nat.le_of_not_lt hdepth) hchild
      next hleaf =>
        cases h
        exact .turn (Nat.le_of_not_lt hdepth) hleaf

/-- The nodes in preorder that have not been looked at. -/
def ahead (s : DepthSearch) : List (Nat × SyntaxTree) :=
  if s.climbing then s.cursor.ahead
  else s.cursor.node.leveled s.cursor.depth ++ s.cursor.ahead

/-- The node that a step looks at, with its level. A search that climbs looks at none. -/
def lookedAt (s : DepthSearch) : List (Nat × SyntaxTree) :=
  if s.climbing then [] else [(s.cursor.depth, s.cursor.node)]

/-- No move skips a node or comes back to one. -/
theorem ahead_of_move {limit : Nat} {s s' : DepthSearch} (h : Move limit s s') :
    s.ahead = s.lookedAt ++ s'.ahead := by
  cases h with
  | down _ hchild => exact Cursor.leveled_of_firstChild? hchild
  | turn _ hleaf => exact congrArg (· ++ _) (Cursor.leveled_of_firstChild?_none hleaf)
  | across hnext => exact Cursor.ahead_of_nextSibling? hnext
  | up hlast hparent => exact Cursor.ahead_of_parent? hlast hparent

/-- How many moves are left at most: each node ahead is come to and left, the nodes above are
left, and a search that climbs has yet to leave its node. -/
def remaining (s : DepthSearch) : Nat :=
  2 * s.ahead.length + s.cursor.depth + s.climbing.toNat

theorem remaining_of_move {limit : Nat} {s s' : DepthSearch} (h : Move limit s s') :
    s.remaining = s'.remaining + 1 := by
  rw [remaining, remaining, ahead_of_move h, List.length_append]
  cases h with
  | down _ hchild =>
    simp only [lookedAt, Cursor.depth_of_firstChild? hchild, Bool.false_eq_true, if_false,
      List.length_singleton, Bool.toNat_false]
    omega
  | turn =>
    simp only [lookedAt, Bool.false_eq_true, if_false, List.length_singleton, Bool.toNat_false,
      Bool.toNat_true]
    omega
  | across hnext =>
    simp only [lookedAt, Cursor.depth_of_nextSibling? hnext, if_true, List.length_nil,
      Bool.toNat_false, Bool.toNat_true]
    omega
  | up _ hparent =>
    simp only [lookedAt, Cursor.depth_of_parent? hparent, if_true, List.length_nil,
      Bool.toNat_true]
    omega

/-- Step until the search ends. -/
def search (limit : Nat) (s : DepthSearch) : Option Nat :=
  match _h : s.step limit with
  | .moved s' => search limit s'
  | .ended line => line
termination_by s.remaining
decreasing_by
  rw [remaining_of_move (move_of_step _h)]
  exact Nat.lt_succ_self _

end DepthSearch

/-- The line of the first node that lies more than `limit` levels below the root. -/
def SyntaxTree.tooDeepLine? (t : SyntaxTree) (limit : Nat) : Option Nat :=
  (DepthSearch.start t).search limit

end CodeSurvey.Script
