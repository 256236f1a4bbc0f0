import CodeSurvey.Definitions.Extraction
import CodeSurvey.Findings.Security
import CodeSurvey.Proofs.References.KnownNames
import CodeSurvey.Proofs.Text.Lines

/-!
# Joined texts

What is found line by line in two texts that a line feed joins: all that is found in the first, and
all that is found in the second, moved down by the lines of the first. Nothing that is looked for
line by line reaches over the end of a line.
-/

namespace CodeSurvey
open Definitions References Script Text

def joinTexts (a b : String) : String := a ++ "\n" ++ b

theorem lines_joinTexts (a b : String) :
    lines (joinTexts a b).toList = lines a.toList ++ lines b.toList := by
  rw [joinTexts, String.toList_append, String.toList_append, ← lines_join]
  simp

/-! ## Moving down -/

def SecurityIssue.movedDown (k : Nat) (i : SecurityIssue) : SecurityIssue :=
  { i with line := i.line + k }

namespace CallEdge

def movedDown (k : Nat) (e : CallEdge) : CallEdge :=
  { e with callSites := e.callSites.map fun s => { s with line := s.line + k } }

/-- All calls of two edges. -/
def append (e e' : CallEdge) : CallEdge :=
  ⟨e.totalCalls + e'.totalCalls, e.callSites ++ e'.callSites⟩

end CallEdge

namespace UsageEntry

def movedDown (k : Nat) (e : UsageEntry) : UsageEntry := { e with lines := e.lines.map (· + k) }

/-- All uses of two entries. -/
def append (e e' : UsageEntry) : UsageEntry := ⟨e.total + e'.total, e.lines ++ e'.lines⟩

end UsageEntry

/-! ## Numbered lines -/

theorem zipIdx_append_moved {α : Type} (xs ys : List α) :
    (xs ++ ys).zipIdx = xs.zipIdx ++ ys.zipIdx.map (Prod.map id (· + xs.length)) := by
  rw [List.zipIdx_append, List.map_snd_add_zipIdx_eq_zipIdx, Nat.add_comm]

theorem siteLines_append (first rest : List Nat) :
    siteLines (first ++ rest) =
      siteLines first ++ (siteLines rest).map (· + first.length) := by
  rw [siteLines, zipIdx_append_moved, List.flatMap_append, List.flatMap_map, siteLines, siteLines,
    List.map_flatMap]
  congr 2
  funext x
  simp [Nat.add_right_comm]

theorem edgeOfText_append (first rest : List (List Char)) (name : String) :
    edgeOfText (first ++ rest) name =
      (edgeOfText first name).append ((edgeOfText rest name).movedDown first.length) := by
  simp [edgeOfText, siteLines_append, CallEdge.append, CallEdge.movedDown, Function.comp_def]

theorem usedLine?_moved (k : Nat) (x : Nat × Nat) :
    usedLine? (Prod.map id (· + k) x) = (usedLine? x).map (· + k) := by
  obtain ⟨n, i⟩ := x
  by_cases hn : n > 0
  · simp [usedLine?, hn, Nat.add_right_comm]
  · simp [usedLine?, hn]

theorem usageOfText_append (first rest : List (List Char)) (name : String) :
    usageOfText (first ++ rest) name =
      (usageOfText first name).append ((usageOfText rest name).movedDown first.length) := by
  have htotal : (usageOfText (first ++ rest) name).total =
      (usageOfText first name).total + (usageOfText rest name).total := by
    simp only [usageOfText, List.map_append]
    exact List.sum_append
  have hlines : (usageOfText (first ++ rest) name).lines =
      (usageOfText first name).lines ++
        (usageOfText rest name).lines.map (· + first.length) := by
    rw [usageOfText_lines, List.map_append, zipIdx_append_moved, List.filterMap_append,
      List.filterMap_map, List.length_map, usageOfText_lines, usageOfText_lines,
      List.map_filterMap]
    congr 2
    funext x
    exact usedLine?_moved first.length x
  rw [UsageEntry.append, UsageEntry.movedDown, ← htotal, ← hlines]

theorem findIssues_joinTexts (a b file : String) :
    findIssues (joinTexts a b) file =
      findIssues a file ++ (findIssues b file).map (.movedDown (a.toList.count '\n' + 1)) := by
  rw [findIssues, lines_joinTexts, zipIdx_append_moved, List.flatMap_append, List.flatMap_map,
    findIssues, findIssues, List.map_flatMap, length_lines]
  congr 2
  funext x
  simp [issuesOnLine, SecurityIssue.movedDown, SecurityIssue.ofRule, Nat.add_right_comm]

/-! ## Entries of joined texts -/

section Found
variable {α : Type} {append : α → α → α} {size : α → Nat}

/-- An entry, unless nothing was found. -/
def found? (size : α → Nat) (x : α) : Option α := if 0 < size x then some x else none

theorem found?_append {x y : α} (hsize : size (append x y) = size x + size y)
    (hleft : size x = 0 → append x y = y) (hright : size y = 0 → append x y = x) :
    found? size (append x y) = Option.merge append (found? size x) (found? size y) := by
  rw [found?, found?, found?, hsize]
  rcases Nat.eq_zero_or_pos (size x) with hx | hx
  · rcases Nat.eq_zero_or_pos (size y) with hy | hy
    · simp [hx, hy]
    · simp [hx, hy, hleft]
  · rcases Nat.eq_zero_or_pos (size y) with hy | hy
    · simp [hx, hy, hright]
    · have hsum : 0 < size x + size y := Nat.add_pos_left hx _
      simp [hx, hy, hsum]

theorem found?_map (f : α → α) (hf : ∀ x, size (f x) = size x) (x : α) :
    found? size (f x) = (found? size x).map f := by
  rw [found?, found?, hf]
  split <;> rfl

end Found

section Joined
variable (a b name : String)

theorem usesFound_eq (content : String) : usesFound content name =
    found? UsageEntry.total (usageOfText (lines content.toList) name) := by
  rw [usesFound, find?_findUsages]
  simp [found?]

theorem usesFound_joinTexts : usesFound (joinTexts a b) name =
    Option.merge UsageEntry.append (usesFound a name)
      ((usesFound b name).map (.movedDown (a.toList.count '\n' + 1))) := by
  rw [usesFound_eq, usesFound_eq, usesFound_eq, lines_joinTexts, usageOfText_append,
    length_lines, ← found?_map (UsageEntry.movedDown _) fun _ => rfl]
  apply found?_append
  · rfl
  · intro h
    simp [usageOfText_eq_empty h, UsageEntry.append]
  · intro h
    simp [usageOfText_eq_empty h, UsageEntry.append, UsageEntry.movedDown]

theorem callsFound_eq (content : String) (e : ParseError) : callsFound (.error e) content name =
    found? CallEdge.totalCalls (edgeOfText (lines content.toList) name) := by
  rw [callsFound, callsFrom, find?_callsInText]
  simp [found?]

theorem callsFound_joinTexts (e : ParseError) : callsFound (.error e) (joinTexts a b) name =
    Option.merge CallEdge.append (callsFound (.error e) a name)
      ((callsFound (.error e) b name).map (.movedDown (a.toList.count '\n' + 1))) := by
  rw [callsFound_eq, callsFound_eq, callsFound_eq, lines_joinTexts, edgeOfText_append,
    length_lines, ← found?_map (CallEdge.movedDown _) fun _ => rfl]
  apply found?_append
  · rfl
  · intro h
    simp [edgeOfText_eq_empty h, CallEdge.append]
  · intro h
    simp [edgeOfText_eq_empty h, CallEdge.append, CallEdge.movedDown]

end Joined

/-- In two texts that a line feed joins, what each line shows is found as in the text that it is
from, in the second text moved down by the lines of the first. A name is used or called as often as
in both together, and has no entry just if it has none in either. -/
theorem joined_texts (parse : String → SyntaxTree) (a b : String) :
    let k := a.toList.count '\n' + 1
    (∀ file, findIssues (joinTexts a b) file =
      findIssues a file ++ (findIssues b file).map (.movedDown k)) ∧
    (∀ (vars : List VariableDef) name,
      let names := vars.map VariableDef.name
      (findUsages (joinTexts a b) names).find? name =
        Option.merge UsageEntry.append ((findUsages a names).find? name)
          (((findUsages b names).find? name).map (.movedDown k))) ∧
    ∀ filename, (Language.ofFilename filename).isScript = false →
      ∀ (defs : List FunctionDef) name,
        let known := defs.map FunctionDef.name
        (findCallsWith parse (joinTexts a b) filename known).find? name =
          Option.merge CallEdge.append ((findCallsWith parse a filename known).find? name)
            (((findCallsWith parse b filename known).find? name).map (.movedDown k)) := by
  intro k
  refine ⟨findIssues_joinTexts a b, ?_, ?_⟩
  · intro vars name names
    simp only [find?_findUsages_eq]
    by_cases hname : name ∈ names
    · simp only [if_pos hname]
      exact usesFound_joinTexts a b name
    · simp [if_neg hname]
  · intro filename hscript defs name known
    have hread (content : String) : readWith parse content (.ofFilename filename) =
        .error (.unsupported (.ofFilename filename)) := by
      rw [readWith, hscript]
      rfl
    simp only [findCallsWith, hread, find?_callsFrom]
    by_cases hname : name ∈ known
    · simp only [if_pos hname]
      exact callsFound_joinTexts a b name _
    · simp [if_neg hname]

/-! ## A definition and calls below it -/

theorem joined_texts_calls :
    let defs := (extractFunctionsWith .ofText "def f():\n    f()\n" "a.py").items
    defs.map FunctionDef.name = ["f"] ∧ (Language.ofFilename "a.py").isScript = false ∧
    (findCallsWith .ofText (joinTexts "def f():\n    f()\n" "\nf(); f()") "a.py"
        (defs.map FunctionDef.name)).find? "f" =
      some ⟨3, [⟨2, none⟩, ⟨5, none⟩, ⟨5, none⟩]⟩ := by
  intro defs
  have hscript : (Language.ofFilename "a.py").isScript = false := by decide +kernel
  have hnames : defs.map FunctionDef.name = ["f"] := by decide +kernel
  have hjoined := (joined_texts .ofText "def f():\n    f()\n" "\nf(); f()").2.2 "a.py" hscript
    defs "f"
  have hfirst : (findCallsWith .ofText "def f():\n    f()\n" "a.py" ["f"]).find? "f" =
      some ⟨1, [⟨2, none⟩]⟩ := by decide +kernel
  have hrest : (findCallsWith .ofText "\nf(); f()" "a.py" ["f"]).find? "f" =
      some ⟨2, [⟨2, none⟩, ⟨2, none⟩]⟩ := by decide +kernel
  refine ⟨hnames, hscript, hjoined.trans ?_⟩
  rw [hnames, hfirst, hrest]
  decide +kernel

end CodeSurvey
