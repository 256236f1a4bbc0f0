import CodeSurvey.Proofs.Script.Subtrees
import CodeSurvey.Script.Program

/-!
# Searches through a tree

The search with a cursor ends on every tree, its counter is the depth of the cursor throughout,
and it finds the first node in preorder that lies too deep. The search for a fault passes over
sound trees and still finds the first fault in preorder. Both together decide whether a tree has a
program.
-/

namespace CodeSurvey.Script

namespace SyntaxTree

/-! ## Levels -/

theorem leveledAll_eq_flatMap (level : Nat) (ts : List SyntaxTree) :
    leveledAll level ts = ts.flatMap (leveled level) := by
  induction ts with
  | nil => rfl
  | cons t ts ih => rw [leveledAll, List.flatMap_cons, ih]

theorem leveled_eq (level : Nat) (t : SyntaxTree) :
    t.leveled level = (level, t) :: t.children.flatMap (leveled (level + 1)) := by
  cases t
  rw [leveled, leveledAll_eq_flatMap]
  rfl

theorem leveled_map_snd (level : Nat) (t : SyntaxTree) :
    (t.leveled level).map Prod.snd = t.subtrees := by
  induction t using childInduction generalizing level with
  | step t ih =>
    rw [leveled_eq, subtrees_eq, List.map_cons, List.map_flatMap]
    congr 1
    exact List.flatMap_congr fun c hc => ih c hc _

/-- A child of a node lies one level further down. -/
theorem mem_leveled_of_child {t u c : SyntaxTree} {level k : Nat} (hu : (k, u) ∈ t.leveled level)
    (hc : c ∈ u.children) : (k + 1, c) ∈ t.leveled level := by
  induction t using childInduction generalizing level with
  | step t ih =>
    rw [leveled_eq, List.mem_cons, List.mem_flatMap] at hu ⊢
    rcases hu with hu | ⟨d, hd, hu⟩
    · cases hu
      refine .inr ⟨c, hc, ?_⟩
      rw [leveled_eq]
      exact List.mem_cons_self
    · exact .inr ⟨d, hd, ih d hd hu⟩

/-! ## Faults -/

def isFaulty (t : SyntaxTree) : Bool := t.info.mark != .sound

theorem hasFaultAny_eq_any (ts : List SyntaxTree) : hasFaultAny ts = ts.any hasFault := by
  induction ts with
  | nil => rfl
  | cons t ts ih => rw [hasFaultAny, List.any_cons, ih]

theorem hasFault_iff {t : SyntaxTree} : t.hasFault ↔ ∃ u ∈ t.subtrees, u.isFaulty := by
  induction t using childInduction with
  | step t ih =>
    cases t with
    | node info children =>
      simp only [hasFault, hasFaultAny_eq_any, Bool.or_eq_true, List.any_eq_true, subtrees_node,
        List.mem_cons, exists_eq_or_imp]
      refine or_congr Iff.rfl ⟨?_, ?_⟩
      · rintro ⟨c, hc, hfault⟩
        obtain ⟨u, hu, hfaulty⟩ := (ih c hc).1 hfault
        exact ⟨u, List.mem_flatMap.2 ⟨c, hc, hu⟩, hfaulty⟩
      · rintro ⟨u, hu, hfaulty⟩
        obtain ⟨c, hc, hu⟩ := List.mem_flatMap.1 hu
        exact ⟨c, hc, (ih c hc).2 ⟨u, hu, hfaulty⟩⟩

theorem find?_isFaulty_eq_none {t : SyntaxTree} :
    t.subtrees.find? isFaulty = none ↔ t.hasFault = false := by
  rw [List.find?_eq_none, ← Bool.not_eq_true, hasFault_iff]
  simp only [not_exists, not_and]

/-- Passing over sound trees loses no fault. -/
theorem faultLineAny?_eq (ts : List SyntaxTree)
    (hts : ∀ t ∈ ts, t.faultLine? = (t.subtrees.find? isFaulty).map fun u => u.span.startLine) :
    faultLineAny? ts =
      ((ts.flatMap subtrees).find? isFaulty).map fun u => u.span.startLine := by
  induction ts with
  | nil => rfl
  | cons t ts ih =>
    have hrest := ih fun u hu => hts u (List.mem_cons_of_mem _ hu)
    rw [faultLineAny?, hrest, hts t List.mem_cons_self, List.flatMap_cons, List.find?_append]
    cases hfault : t.hasFault with
    | true => rw [if_pos rfl, Option.map_or]
    | false =>
      rw [find?_isFaulty_eq_none.2 hfault]
      rfl

theorem faultLine?_eq (t : SyntaxTree) :
    t.faultLine? = (t.subtrees.find? isFaulty).map fun u => u.span.startLine := by
  induction t using childInduction with
  | step t ih =>
    obtain ⟨⟨_, _, _, mark, _, _, _⟩, children⟩ := t
    rw [subtrees_node, List.find?_cons]
    cases mark with
    | sound => exact faultLineAny?_eq children ih
    | error => rfl
    | missing => rfl

theorem faultLine?_eq_none {t : SyntaxTree} : t.faultLine? = none ↔ t.hasFault = false := by
  rw [faultLine?_eq, Option.map_eq_none_iff, find?_isFaulty_eq_none]

end SyntaxTree

/-! ## Depth -/

/-- Whether a cursor stands in a tree: at the root, or at a child of the node that its parent
stands at, with the children that come later as its later siblings. -/
def Cursor.Within (t : SyntaxTree) : Cursor → Prop
  | top root => root = t
  | child u later parent => parent.Within t ∧ u :: later <:+ parent.node.children

namespace Cursor

variable {t : SyntaxTree} {c c' : Cursor}

theorem Within.firstChild? (h : c.Within t) (hc : c.firstChild? = some c') : c'.Within t := by
  unfold Cursor.firstChild? at hc
  split at hc
  · cases hc
  next hchildren =>
    cases hc
    exact ⟨h, hchildren ▸ List.suffix_refl _⟩

theorem Within.nextSibling? (h : c.Within t) (hc : c.nextSibling? = some c') : c'.Within t := by
  unfold Cursor.nextSibling? at hc
  split at hc
  · cases hc
    exact ⟨h.1, (List.suffix_cons _ _).trans h.2⟩
  · cases hc

theorem Within.parent? (h : c.Within t) (hc : c.parent? = some c') : c'.Within t := by
  cases c with
  | top => cases hc
  | child =>
    cases hc
    exact h.1

theorem Within.mem_leveled (h : c.Within t) : (c.depth, c.node) ∈ t.leveled 0 := by
  induction c with
  | top root =>
    obtain rfl : root = t := h
    rw [SyntaxTree.leveled_eq]
    exact List.mem_cons_self
  | child u later parent ih =>
    exact SyntaxTree.mem_leveled_of_child (ih h.1) (h.2.subset List.mem_cons_self)

end Cursor

namespace DepthSearch

variable {limit : Nat} {t : SyntaxTree} {s s' : DepthSearch}

/-- The counter is the depth of the cursor, which stands in the tree and at most one level too
deep. -/
structure Tracks (limit : Nat) (t : SyntaxTree) (s : DepthSearch) : Prop where
  depth : s.depth = s.cursor.depth
  within : s.cursor.Within t
  bounded : s.depth ≤ limit + 1

theorem tracks_start (limit : Nat) (t : SyntaxTree) : (start t).Tracks limit t :=
  ⟨rfl, rfl, Nat.zero_le _⟩

theorem Tracks.move (h : s.Tracks limit t) (hmove : Move limit s s') : s'.Tracks limit t := by
  cases hmove with
  | down hle hchild =>
    exact ⟨(congrArg (· + 1) h.depth).trans (Cursor.depth_of_firstChild? hchild).symm,
      h.within.firstChild? hchild, Nat.succ_le_succ hle⟩
  | turn => exact ⟨h.depth, h.within, h.bounded⟩
  | across hnext =>
    exact ⟨h.depth.trans (Cursor.depth_of_nextSibling? hnext).symm,
      h.within.nextSibling? hnext, h.bounded⟩
  | up _ hparent =>
    exact ⟨Nat.sub_eq_of_eq_add (h.depth.trans (Cursor.depth_of_parent? hparent)),
      h.within.parent? hparent, Nat.le_trans (Nat.sub_le _ _) h.bounded⟩

/-- A search that has to climb has counted the level that it leaves. -/
theorem Tracks.pos {c : Cursor} (h : s.Tracks limit t) (hparent : s.cursor.parent? = some c) :
    0 < s.depth := by
  rw [h.depth, Cursor.depth_of_parent? hparent]
  exact Nat.succ_pos _

/-! ### What a step finds -/

/-- The line of the first node of a list that lies too deep. -/
def firstBelow? (limit : Nat) (nodes : List (Nat × SyntaxTree)) : Option Nat :=
  (nodes.find? fun n => limit < n.1).map fun n => n.2.span.startLine

theorem firstBelow?_of_move (h : s.Tracks limit t) (hmove : Move limit s s') :
    firstBelow? limit s.ahead = firstBelow? limit s'.ahead := by
  -- What a move leaves behind does not lie too deep: the step would have ended there.
  have hlooked : s.lookedAt.find? (fun n => limit < n.1) = none := by
    cases hmove with
    | down hle | turn hle => simpa [lookedAt, ← h.depth] using hle
    | across | up => rfl
  rw [firstBelow?, firstBelow?, ahead_of_move hmove, List.find?_append, hlooked, Option.none_or]

theorem firstBelow?_of_ended {line : Option Nat} (h : s.Tracks limit t)
    (hstep : s.step limit = .ended line) : firstBelow? limit s.ahead = line := by
  obtain ⟨c, depth, climbing⟩ := s
  cases climbing with
  | true =>
    simp only [step, if_true] at hstep
    split at hstep
    · cases hstep
    · split at hstep
      · cases hstep
      next hparent =>
        cases hstep
        rw [ahead, if_pos rfl, Cursor.ahead_of_parent?_none hparent]
        rfl
  | false =>
    simp only [step, Bool.false_eq_true, if_false] at hstep
    split at hstep
    next hlt =>
      cases hstep
      have hdeep : limit < c.depth := h.depth ▸ hlt
      simp only [ahead, Bool.false_eq_true, if_false, SyntaxTree.leveled_eq, firstBelow?,
        List.cons_append, List.find?_cons, hdeep, decide_true, Option.map_some]
    · split at hstep <;> cases hstep

theorem search_eq (h : s.Tracks limit t) : s.search limit = firstBelow? limit s.ahead := by
  fun_induction search limit s with
  | case1 s s' hstep ih =>
    have hmove := move_of_step hstep
    rw [ih (h.move hmove), firstBelow?_of_move h hmove]
  | case2 s line hstep => exact (firstBelow?_of_ended h hstep).symm

/-! ### Runs -/

/-- The states of a search through a tree, with the moves made so far. -/
inductive Reached (limit : Nat) (t : SyntaxTree) : Nat → DepthSearch → Prop where
  | start : Reached limit t 0 (start t)
  | move {moves s s'} : Reached limit t moves s → s.step limit = .moved s' →
      Reached limit t (moves + 1) s'

theorem Reached.tracks {moves : Nat} (h : Reached limit t moves s) : s.Tracks limit t := by
  induction h with
  | start => exact tracks_start limit t
  | move _ hstep ih => exact ih.move (move_of_step hstep)

theorem ahead_start (t : SyntaxTree) : (start t).ahead = t.leveled 0 := List.append_nil _

theorem remaining_start (t : SyntaxTree) : (start t).remaining = 2 * t.subtrees.length := by
  rw [remaining, ahead_start, ← SyntaxTree.leveled_map_snd 0 t, List.length_map]
  rfl

theorem Reached.moves_add_remaining {moves : Nat} (h : Reached limit t moves s) :
    moves + s.remaining = 2 * t.subtrees.length := by
  induction h with
  | start => rw [remaining_start, Nat.zero_add]
  | @move moves s s' _ hstep ih =>
    rw [remaining_of_move (move_of_step hstep)] at ih
    omega

theorem Reached.ends {moves : Nat} (h : Reached limit t moves s) :
    ∃ moves' s', Reached limit t moves' s' ∧ s'.step limit = .ended (s.search limit) := by
  fun_induction search limit s generalizing moves with
  | case1 s s' hstep ih => exact ih (h.move hstep)
  | case2 s line hstep => exact ⟨moves, s, h, hstep⟩

end DepthSearch

theorem SyntaxTree.tooDeepLine?_eq (t : SyntaxTree) (limit : Nat) :
    t.tooDeepLine? limit =
      ((t.leveled 0).find? fun n => limit < n.1).map fun n => n.2.span.startLine := by
  rw [tooDeepLine?, DepthSearch.search_eq (DepthSearch.tracks_start limit t),
    DepthSearch.ahead_start]
  rfl

/-! ## Programs -/

/-- Only sound trees have programs. -/
theorem program_ok {t : SyntaxTree} {program : Node} (h : t.program = .ok program) :
    t.faultLine? = none ∧ program = lower t := by
  rw [SyntaxTree.program] at h
  split at h
  · cases h
  · split at h
    · cases h
    next hsound =>
      exact ⟨SyntaxTree.faultLine?_eq_none.2 (Bool.not_eq_true _ ▸ hsound),
        (Except.ok.inj h).symm⟩

theorem program_eq (t : SyntaxTree) :
    t.program =
      match (t.leveled 0).find? (fun n => maxDepth < n.1) with
      | some n => .error (.tooDeep n.2.span.startLine)
      | none =>
        match t.subtrees.find? SyntaxTree.isFaulty with
        | some u => .error (.malformed u.span.startLine)
        | none => .ok (lower t) := by
  rw [SyntaxTree.program, SyntaxTree.tooDeepLine?_eq]
  cases (t.leveled 0).find? fun n => maxDepth < n.1 with
  | some n => rfl
  | none =>
    simp only [Option.map_none, SyntaxTree.faultLine?_eq]
    cases hfind : t.subtrees.find? SyntaxTree.isFaulty with
    | none => rw [SyntaxTree.find?_isFaulty_eq_none.1 hfind]; rfl
    | some u =>
      have hfault : t.hasFault := by
        rw [SyntaxTree.hasFault_iff]
        exact ⟨u, List.mem_of_find?_eq_some hfind, List.find?_some hfind⟩
      rw [if_pos hfault]
      rfl

theorem program_of_sound {t : SyntaxTree} (hdepth : ∀ n ∈ t.leveled 0, n.1 ≤ maxDepth)
    (hsound : t.hasFault = false) : t.program = .ok (lower t) := by
  have hfind : (t.leveled 0).find? (fun n => maxDepth < n.1) = none :=
    List.find?_eq_none.2 fun n hn => by simpa using hdepth n hn
  rw [program_eq, hfind, SyntaxTree.find?_isFaulty_eq_none.2 hsound]

/-- A tree is refused for the first node in preorder that lies too deep, and else for the first
that is not sound. The search for depth ends on every tree, and all along its counter is the depth
of the cursor, so that it never climbs from a count of zero. -/
theorem program_by_preorder (t : SyntaxTree) :
    (t.program =
      match (t.leveled 0).find? (fun n => maxDepth < n.1) with
      | some n => .error (.tooDeep n.2.span.startLine)
      | none =>
        match t.subtrees.find? SyntaxTree.isFaulty with
        | some u => .error (.malformed u.span.startLine)
        | none => .ok (lower t)) ∧
    ∀ limit,
      (∃ moves s, DepthSearch.Reached limit t moves s ∧ moves ≤ 2 * t.subtrees.length ∧
        s.step limit = .ended (t.tooDeepLine? limit)) ∧
      ∀ moves s, DepthSearch.Reached limit t moves s →
        s.depth = s.cursor.depth ∧ s.depth ≤ limit + 1 ∧ s.cursor.Within t ∧
        (s.depth, s.cursor.node) ∈ t.leveled 0 ∧
        ∀ parent, s.cursor.parent? = some parent → 0 < s.depth := by
  refine ⟨program_eq t, fun limit => ⟨?_, fun moves s hs => ?_⟩⟩
  · have hstart : DepthSearch.Reached limit t 0 (.start t) := .start
    obtain ⟨moves, s, hs, hend⟩ := hstart.ends
    exact ⟨moves, s, hs, hs.moves_add_remaining ▸ Nat.le_add_right _ _, hend⟩
  · have htracks := hs.tracks
    exact ⟨htracks.depth, htracks.bounded, htracks.within,
      htracks.depth ▸ htracks.within.mem_leveled, fun _ hparent => htracks.pos hparent⟩

/-! A chain that nests too deeply, and a tree that goes on after what is missing in it. -/

def chain : Nat → Nat → SyntaxTree
  | 0, line => .node ⟨"array", true, false, .sound, ⟨line, line⟩, "", []⟩ []
  | levels + 1, line =>
    .node ⟨"array", true, false, .sound, ⟨line, line⟩, "", []⟩ [chain levels (line + 1)]

def openArray : SyntaxTree :=
  .node ⟨"array", true, false, .sound, ⟨1, 4⟩, "", []⟩ [
    chain 2 1,
    .node ⟨"array", true, false, .sound, ⟨2, 3⟩, "", []⟩ [
      .node ⟨"]", false, false, .missing, ⟨3, 3⟩, "", []⟩ []],
    .node ⟨"ERROR", true, false, .error, ⟨4, 4⟩, "", []⟩ []]

theorem program_by_preorder_chain :
    (chain 201 1).program = .error (.tooDeep 202) ∧
    openArray.program = .error (.malformed 3) ∧
    let s : DepthSearch := ⟨.child (chain 2 1) openArray.children.tail (.top openArray), 1, false⟩
    DepthSearch.Reached 200 openArray 1 s ∧ s.depth = s.cursor.depth := by
  have hdeep : (((chain 201 1).leveled 0).find? fun n => maxDepth < n.1).map
      (fun n => n.2.span.startLine) = some 202 := by decide +kernel
  obtain ⟨n, hn, hline⟩ := Option.map_eq_some_iff.1 hdeep
  have hs : DepthSearch.Reached 200 openArray 1
      ⟨.child (chain 2 1) openArray.children.tail (.top openArray), 1, false⟩ := .move .start rfl
  refine ⟨?_, ?_, hs, (((program_by_preorder openArray).2 200).2 1 _ hs).1⟩
  · rw [(program_by_preorder _).1, hn]
    exact congrArg (fun line => Except.error (ParseError.tooDeep line)) hline
  · rw [(program_by_preorder _).1, ← SyntaxTree.leveled_map_snd 0]
    rfl

end CodeSurvey.Script
