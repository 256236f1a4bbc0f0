import CodeSurvey.Proofs.Data.Results
import CodeSurvey.Proofs.Definitions.ProgramDefinitions
import CodeSurvey.Proofs.References.ProgramCalls
import CodeSurvey.Proofs.Script.LoweredLevels
import CodeSurvey.Proofs.Script.Preservation

/-!
# Depths of walks

How deep the walks through a program recurse. Each is repeated with a stack that holds so many
calls: a walk that needs more comes to nothing. A program that was read nests at most twice as
deeply as its source may, and a stack for that is enough for all walks.
-/

namespace CodeSurvey
open Script Definitions References

/-! ## Walks on a stack -/

section Walks

variable {σ β : Type} (own : σ → Node → List β) (next : σ → Node → List (σ × Node))

/-- A walk that hands something down from each node to the nodes that come next. Each call takes a
frame of the stack, and the calls it makes share the others. -/
def walkWithin : Nat → σ → Node → Option (List β)
  | 0, _, _ => none
  | frames + 1, s, n => do
    let below ← (next s n).mapM fun c => walkWithin frames c.1 c.2
    some (own s n ++ below.flatten)

variable {own next} {walk : σ → Node → List β} {levels : Nat} {n : Node}

theorem walkWithin_eq
    (step : ∀ s n, walk s n = own s n ++ (next s n).flatMap fun c => walk c.1 c.2)
    (below : ∀ s n, (next s n).map Prod.snd = n.children) (h : n.Within levels) (s : σ) :
    walkWithin own next (levels + 1) s n = some (walk s n) := by
  induction n using Node.childInduction generalizing levels s with
  | step n ih =>
    have hcalls : ∀ c ∈ next s n, walkWithin own next levels c.1 c.2 = some (walk c.1 c.2) := by
      intro c hc
      -- where there is a child there is a level for it, and so a frame left for the call
      have hchild : c.2 ∈ n.children := below s n ▸ List.mem_map_of_mem hc
      obtain ⟨k, rfl, hk⟩ := h.child hchild
      exact ih c.2 hchild hk c.1
    rw [walkWithin, mapM_eq_pure hcalls, step, List.flatMap_def]
    rfl

end Walks

def childrenInScope (top : Bool) (n : Node) : List (Bool × Node) :=
  n.children.map (Prod.mk (top && !isScope n))

theorem childrenInScope_map_snd (top : Bool) (n : Node) :
    (childrenInScope top n).map Prod.snd = n.children := by
  simp [childrenInScope, Function.comp_def]

def functionsWithin (o : Origin) : Nat → Bool → Node → Option (List FunctionDef) :=
  walkWithin (ownFunctions o) childrenInScope

def variablesWithin (file : String) : Nat → Bool → Node → Option (List VariableDef) :=
  walkWithin (ownVariables file) childrenInScope

def callsWithin : Nat → Option String → Node → Option (List (String × CallSite)) :=
  walkWithin ownCall childrenUnder

/-- The search for a return with a value stops at the first. -/
def hasValueReturnWithin : Nat → Node → Option Bool
  | 0, _ => none
  | frames + 1, n =>
    if isValueReturn n then some true else n.children.anyM (hasValueReturnWithin frames)

section Walkers

variable {levels : Nat} {n : Node}

theorem functionsWithin_eq (h : n.Within levels) (o : Origin) (top : Bool) :
    functionsWithin o (levels + 1) top n = some (functionsIn o top n) := by
  apply walkWithin_eq _ childrenInScope_map_snd h
  intro top n
  rw [functionsIn_eq, childrenInScope, List.flatMap_map]

theorem variablesWithin_eq (h : n.Within levels) (file : String) (top : Bool) :
    variablesWithin file (levels + 1) top n = some (variablesIn file top n) := by
  apply walkWithin_eq _ childrenInScope_map_snd h
  intro top n
  rw [variablesIn_eq, childrenInScope, List.flatMap_map]

theorem callsWithin_eq (h : n.Within levels) (caller : Option String) :
    callsWithin (levels + 1) caller n = some (callsIn caller n) := by
  apply walkWithin_eq _ childrenUnder_map_snd h
  intro caller n
  rw [callsIn_eq, childrenUnder_eq, List.flatMap_map]

theorem hasValueReturnWithin_eq (h : n.Within levels) :
    hasValueReturnWithin (levels + 1) n = some (hasValueReturn n) := by
  induction n using Node.childInduction generalizing levels with
  | step n ih =>
    have hcalls : ∀ c ∈ n.children, hasValueReturnWithin levels c = some (hasValueReturn c) := by
      intro c hc
      obtain ⟨k, rfl, hk⟩ := h.child hc
      exact ih c hc hk
    rw [hasValueReturnWithin, anyM_eq_pure hcalls, hasValueReturn]
    cases isValueReturn n <;> simp

end Walkers

/-! ## Depths -/

/-- Lowering at most doubles the levels of a tree, one more aside. Where a source is read, no walk
through its program recurses further below the root than that, nor does the search for returns,
which starts anew within each function. -/
theorem walks_within_depth :
    (∀ (t : SyntaxTree) (levels : Nat), (∀ x ∈ t.leveled 0, x.1 ≤ levels) →
      ∀ x ∈ (lower t).leveled 0, x.1 ≤ 2 * levels + 1) ∧
    ∀ (parse : String → SyntaxTree) (text : String) (language : Language) (program : Node),
      readWith parse text language = .ok program →
      (∀ x ∈ program.leveled 0, x.1 ≤ 2 * maxDepth + 1) ∧
      (∀ o, functionsWithin o (2 * maxDepth + 2) true program =
        some (functionsIn o true program)) ∧
      (∀ file, variablesWithin file (2 * maxDepth + 2) true program =
        some (variablesIn file true program)) ∧
      callsWithin (2 * maxDepth + 2) none program = some (callsIn none program) ∧
      ∀ x ∈ program.leveled 0,
        hasValueReturnWithin (2 * maxDepth + 2 - x.1) x.2 = some (hasValueReturn x.2) := by
  refine ⟨fun t levels h => within_lower h, fun parse text language program hread => ?_⟩
  have hwithin : program.Within (2 * maxDepth + 1) := by
    rw [readWith] at hread
    split at hread
    · exact within_of_program hread
    · cases hread
  refine ⟨hwithin, fun o => functionsWithin_eq hwithin o true,
    fun file => variablesWithin_eq hwithin file true, callsWithin_eq hwithin none, ?_⟩
  intro x hx
  obtain ⟨k, hk, hbelow⟩ := hwithin.below hx
  have hframes : 2 * maxDepth + 2 - x.1 = k + 1 := by omega
  rw [hframes]
  exact hasValueReturnWithin_eq hbelow

/-! A loop over a collection whose variable is a property of what was left out. -/

def openLoop : SyntaxTree :=
  OneLine.branch "for_in_statement" [] [
    .node ⟨"const", false, false, .sound, ⟨1, 1⟩, "const", ["kind"]⟩ [],
    OneLine.branch "member_expression" ["left"] []]

theorem walks_within_depth_openLoop :
    (∀ x ∈ openLoop.leveled 0, x.1 ≤ 1) ∧ (∀ x ∈ (lower openLoop).leveled 0, x.1 ≤ 3) ∧
    readWith (fun _ => openLoop) "" .javaScript = .ok (lower openLoop) ∧
    callsWithin 402 none (lower openLoop) = some (callsIn none (lower openLoop)) := by
  have hlevels : ∀ x ∈ openLoop.leveled 0, x.1 ≤ 1 := by decide
  have hread : readWith (fun _ => openLoop) "" .javaScript = .ok (lower openLoop) :=
    program_of_sound (by decide) (by decide)
  obtain ⟨-, -, -, hcalls, -⟩ := walks_within_depth.2 _ _ _ _ hread
  exact ⟨hlevels, walks_within_depth.1 openLoop 1 hlevels, hread, hcalls⟩

example : callsWithin 3 none (lower openLoop) = none := by
  rw [lower_eq]
  cbv

end CodeSurvey
