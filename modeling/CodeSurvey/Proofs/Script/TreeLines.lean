import CodeSurvey.Proofs.Script.Subtrees
import CodeSurvey.Proofs.Text.Lines
import CodeSurvey.Script.Parse
import Mathlib.Data.List.Induction
import Mathlib.Tactic.SplitIfs

/-!
# Lines of trees

The children of a tree lie within it and one after the other, so that lines never decrease from one
tree to the next in preorder. The trees that texts are laid out to are such, and do not leave the
text.
-/

namespace CodeSurvey.Script
namespace SyntaxTree

/-- A tree encloses its children, and they come in turn. -/
structure Nested (t : SyntaxTree) : Prop where
  span_le : t.span.startLine ≤ t.span.endLine
  start_le : ∀ c ∈ t.children, t.span.startLine ≤ c.span.startLine
  le_end : ∀ c ∈ t.children, c.span.endLine ≤ t.span.endLine
  inTurn : t.children.Pairwise fun c d => c.span.endLine ≤ d.span.startLine

/-- A tree is laid out over some lines. -/
structure LaidOut (lines : Nat) (t : SyntaxTree) : Prop where
  nested : ∀ u ∈ t.subtrees, u.Nested
  first_le : 1 ≤ t.span.startLine
  le_last : t.span.endLine ≤ lines

variable {t : SyntaxTree}

theorem lines_of_mem (h : ∀ u ∈ t.subtrees, u.Nested) {u : SyntaxTree} (hu : u ∈ t.subtrees) :
    t.span.startLine ≤ u.span.startLine ∧ u.span.endLine ≤ t.span.endLine := by
  induction t using childInduction with
  | step t ih =>
    rcases mem_subtrees.1 hu with rfl | ⟨c, hc, hu⟩
    · exact ⟨Nat.le_refl _, Nat.le_refl _⟩
    · have hself := h t t.self_mem_subtrees
      have hbelow := ih c hc (fun v hv => h v (mem_subtrees.2 (.inr ⟨c, hc, hv⟩))) hu
      have hstart := hself.start_le c hc
      have hend := hself.le_end c hc
      exact ⟨by omega, by omega⟩

theorem startLines_sorted (h : ∀ u ∈ t.subtrees, u.Nested) :
    (t.subtrees.map fun u => u.span.startLine).Pairwise (· ≤ ·) := by
  rw [List.pairwise_map]
  induction t using childInduction with
  | step t ih =>
    have hbelow (c : SyntaxTree) (hc : c ∈ t.children) : ∀ u ∈ c.subtrees, u.Nested :=
      fun u hu => h u (mem_subtrees.2 (.inr ⟨c, hc, hu⟩))
    have hself := h t t.self_mem_subtrees
    rw [subtrees_eq, List.pairwise_cons, List.pairwise_flatMap]
    refine ⟨?_, fun c hc => ih c hc (hbelow c hc), ?_⟩
    · intro u hu
      exact (lines_of_mem h (by rw [subtrees_eq]; exact List.mem_cons_of_mem t hu)).1
    · refine hself.inTurn.imp_of_mem fun {c d} hc hd hcd u hu v hv => ?_
      have hu' := (lines_of_mem (hbelow c hc) hu).2
      have hv' := (lines_of_mem (hbelow d hd) hv).1
      have hspan := (hbelow c hc u hu).span_le
      omega

theorem LaidOut.within {lines : Nat} (h : t.LaidOut lines) {u : SyntaxTree}
    (hu : u ∈ t.subtrees) : 1 ≤ u.span.startLine ∧ u.span.startLine ≤ lines := by
  have hlines := lines_of_mem h.nested hu
  have hspan := (h.nested u hu).span_le
  have hfirst := h.first_le
  have hlast := h.le_last
  exact ⟨by omega, by omega⟩

theorem LaidOut.of_oneLine (h : ∀ u ∈ t.subtrees, u.span = ⟨1, 1⟩) {lines : Nat}
    (hlines : 1 ≤ lines) : t.LaidOut lines := by
  have hline (u : SyntaxTree) (hu : u ∈ t.subtrees) :
      u.span.startLine = 1 ∧ u.span.endLine = 1 := by
    rw [h u hu]
    exact ⟨rfl, rfl⟩
  have hbelow {u c : SyntaxTree} (hu : u ∈ t.subtrees) (hc : c ∈ u.children) :=
    hline c (mem_subtrees_trans hu (mem_subtrees.2 (.inr ⟨c, hc, c.self_mem_subtrees⟩)))
  have hself := hline t t.self_mem_subtrees
  refine ⟨fun u hu => ?_, by omega, by omega⟩
  have hu' := hline u hu
  refine ⟨by omega, fun c hc => ?_, fun c hc => ?_, ?_⟩
  · have hc' := hbelow hu hc
    omega
  · have hc' := hbelow hu hc
    omega
  · refine List.pairwise_of_forall_mem_list fun c hc d hd => ?_
    have hc' := hbelow hu hc
    have hd' := hbelow hu hd
    omega

end SyntaxTree

/-! ## Lines of places -/

section Places
open Parsing

/-- One step of counting line ends, with all counts so far. -/
def addLineEnd (acc : Array Nat × Nat) (c : Char) : Array Nat × Nat :=
  let n := acc.2 + if c = '\n' then 1 else 0
  (acc.1.push n, n)

theorem foldl_addLineEnd (text : List Char) :
    (text.foldl addLineEnd (#[0], 0)).2 = text.count '\n' ∧
    (text.foldl addLineEnd (#[0], 0)).1.size = text.length + 1 ∧
    ∀ i ≤ text.length, (text.foldl addLineEnd (#[0], 0)).1.getD i 0 = (text.take i).count '\n' := by
  induction text using List.reverseRecOn with
  | nil =>
    refine ⟨rfl, rfl, fun i hi => ?_⟩
    obtain rfl : i = 0 := by simpa using hi
    rfl
  | append_singleton text c ih =>
    obtain ⟨hcount, hsize, hget⟩ := ih
    have hnext : (text ++ [c]).count '\n' = text.count '\n' + if c = '\n' then 1 else 0 := by
      simp [List.count_append, List.count_singleton]
    rw [List.foldl_append, List.foldl_cons, List.foldl_nil]
    simp only [addLineEnd, hcount, ← hnext]
    refine ⟨trivial, by simp [hsize], fun i hi => ?_⟩
    rw [List.length_append, List.length_singleton] at hi
    by_cases hlast : i = text.length + 1
    · subst hlast
      rw [Array.getD_eq_getD_getElem?, ← hsize, Array.getElem?_push_size, hsize,
        List.take_of_length_le (by simp)]
      rfl
    · have hi' : i ≤ text.length := by omega
      have hne : i ≠ (text.foldl addLineEnd (#[0], 0)).1.size := by omega
      rw [Array.getD_eq_getD_getElem?, Array.getElem?_push, if_neg hne,
        ← Array.getD_eq_getD_getElem?, hget i hi', List.take_append_of_le_length hi']

/-- Lines are counted by the line ends before a place. -/
theorem lineAt_ofString (text : String) (place : Nat) :
    lineAt (Source.ofString text) place = Text.lineOf text.toList place := by
  have hplace : min place (Source.ofString text).size ≤ text.toList.length := by
    rw [Source.size, Source.ofString, List.size_toArray]
    exact Nat.min_le_right _ _
  have htotal := (foldl_addLineEnd text.toList).2.2 _ hplace
  rw [lineAt, Text.lineOf, Nat.add_comm]
  congr 1
  refine htotal.trans ?_
  congr 1
  rw [Source.ofString, Source.size]
  simp [List.take_eq_take_iff]

theorem lineAt_mono (text : String) {a b : Nat} (h : a ≤ b) :
    lineAt (Source.ofString text) a ≤ lineAt (Source.ofString text) b := by
  rw [lineAt_ofString, lineAt_ofString]
  exact Text.lineOf_mono text.toList h

theorem lineAt_le (text : String) (place : Nat) :
    lineAt (Source.ofString text) place ≤ (Text.lines text.toList).length := by
  rw [lineAt_ofString]
  exact (Text.lineOf_within text.toList place).2

end Places

/-! ## Layouts -/

/-- Trees laid out from a place on: they lie between the place and the stop, one after the other. -/
structure Layout.From (src : Parsing.Source) (place : Nat) (l : Layout) : Prop where
  place_le : place ≤ l.stop
  start_le : ∀ t ∈ l.trees, lineAt src place ≤ t.span.startLine
  le_stop : ∀ t ∈ l.trees, t.span.endLine ≤ lineAt src l.stop
  inTurn : l.trees.Pairwise fun t u => t.span.endLine ≤ u.span.startLine
  nested : ∀ t ∈ l.trees, ∀ u ∈ t.subtrees, u.Nested

namespace Layout

open Parsing

variable {text : String} {place : Nat}

theorem From.nil : From (.ofString text) place ⟨[], place⟩ where
  place_le := Nat.le_refl place
  start_le := by simp
  le_stop := by simp
  inTurn := .nil
  nested := by simp

theorem From.append {head tail : Layout} (h : head.From (.ofString text) place)
    (h' : tail.From (.ofString text) head.stop) :
    From (.ofString text) place ⟨head.trees ++ tail.trees, tail.stop⟩ where
  place_le := Nat.le_trans h.place_le h'.place_le
  start_le := by
    intro t ht
    rcases List.mem_append.1 ht with ht | ht
    · exact h.start_le t ht
    · exact Nat.le_trans (lineAt_mono text h.place_le) (h'.start_le t ht)
  le_stop := by
    intro t ht
    rcases List.mem_append.1 ht with ht | ht
    · exact Nat.le_trans (h.le_stop t ht) (lineAt_mono text h'.place_le)
    · exact h'.le_stop t ht
  inTurn := by
    refine List.pairwise_append.2 ⟨h.inTurn, h'.inTurn, fun t ht u hu => ?_⟩
    exact Nat.le_trans (h.le_stop t ht) (h'.start_le u hu)
  nested := by
    intro t ht
    rcases List.mem_append.1 ht with ht | ht
    · exact h.nested t ht
    · exact h'.nested t ht

theorem From.nodeOver {first : Nat} {below : Layout} (hfirst : place ≤ first)
    (h : below.From (.ofString text) first) (display : Display) (b : BranchInfo)
    (fields : List String) :
    (nodeOver (.ofString text) display b fields first below).From (.ofString text) place := by
  have hstop : below.stop ≤ max b.stop below.stop := Nat.le_max_right _ _
  have hspan := Nat.le_trans h.place_le hstop
  constructor
  · exact Nat.le_trans hfirst hspan
  · intro t ht
    obtain rfl := List.mem_singleton.1 ht
    exact lineAt_mono text hfirst
  · intro t ht
    obtain rfl := List.mem_singleton.1 ht
    exact Nat.le_refl _
  · exact List.pairwise_singleton _ _
  · intro t ht u hu
    obtain rfl := List.mem_singleton.1 ht
    rcases SyntaxTree.mem_subtrees.1 hu with rfl | ⟨c, hc, hu⟩
    · refine ⟨lineAt_mono text hspan, h.start_le, fun c hc => ?_, h.inTurn⟩
      exact Nat.le_trans (h.le_stop c hc) (lineAt_mono text hstop)
    · exact h.nested c hc u hu

mutual

theorem from_layBranch (text : String) (a : Automaton) (kind? : Option String)
    (fields : List String) (place : Nat) (b : Branch) :
    (layBranch a (.ofString text) kind? fields place b).From (.ofString text) place := by
  obtain ⟨info, children⟩ := b
  rw [layBranch.eq_def]
  dsimp only
  split_ifs
  · exact .nodeOver (Nat.le_max_left _ _) (from_layBranches text a _ [] _ children) _ info fields
  · exact from_layBranches text a _ fields place children

theorem from_layBranches (text : String) (a : Automaton) (slots : Slots)
    (inherited : List String) (place : Nat) (bs : List Branch) :
    (layBranches a (.ofString text) slots inherited place bs).From (.ofString text) place := by
  cases bs with
  | nil => exact .nil
  | cons b rest =>
    rw [layBranches]
    exact .append (from_layBranch text a _ _ place b) (from_layBranches text a _ inherited _ rest)

end

end Layout

theorem laidOut_ofText (text : String) :
    (SyntaxTree.ofText text).LaidOut (Text.lines text.toList).length := by
  have hempty : emptyTree.LaidOut (Text.lines text.toList).length :=
    .of_oneLine (by simp [emptyTree, SyntaxTree.subtrees_node, SyntaxTree.span, SyntaxTree.info])
      (lineAt_le text 0 |> Nat.le_trans (Nat.le_add_right 1 _))
  unfold SyntaxTree.ofText
  generalize language.get = l
  dsimp only
  cases l.parse (.ofString text) with
  | none => exact hempty
  | some b =>
    have hfrom := Layout.from_layBranch text l.automaton none [] 0 b
    dsimp only
    rw [SyntaxTree.ofBranch]
    cases htree : (layBranch l.automaton (.ofString text) none [] 0 b).trees.head? with
    | none => exact hempty
    | some t =>
      have ht := List.mem_of_head? htree
      refine ⟨hfrom.nested t ht, ?_, ?_⟩
      · exact Nat.le_trans (Nat.le_add_right 1 _) (hfrom.start_le t ht)
      · exact Nat.le_trans (hfrom.le_stop t ht) (lineAt_le text _)

end CodeSurvey.Script
