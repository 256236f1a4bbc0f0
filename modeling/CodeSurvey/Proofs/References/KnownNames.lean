import CodeSurvey.Proofs.References.ProgramCalls
import CodeSurvey.Proofs.References.TextReferences

/-!
# Names by themselves

What is found for a name in a file depends on the file and on the name. The other names that are
looked for do not matter, nor does what bears them or in which order they come.
-/

namespace CodeSurvey.References
open Script

/-! ## Searches by name -/

section Searches
variable {α β : Type} {name : β → String}

/-- A search for the names of some things finds for each name what it would find without the
others. -/
structure FindsEachName (name : β → String) (search : List β → SortedMap α) : Prop where
  more : ∀ xs ys n, n ∈ xs.map name → (search (xs ++ ys)).find? n = (search xs).find? n
  keys : ∀ xs key, key ∈ (search xs).keys → key ∈ xs.map name
  /-- Order, repetitions and all else about the things do not matter. -/
  names : ∀ xs ys, (∀ n, n ∈ xs.map name ↔ n ∈ ys.map name) → search xs = search ys

theorem findsEachName_of_find? {search : List String → SortedMap α} {alone : String → Option α}
    (h : ∀ names n, (search names).find? n = if n ∈ names then alone n else none) :
    FindsEachName name fun xs => search (xs.map name) := by
  constructor
  · intro xs ys n hn
    have hmore : n ∈ (xs ++ ys).map name := by
      rw [List.map_append]
      exact List.mem_append_left _ hn
    rw [h, h, if_pos hmore, if_pos hn]
  · intro xs key hkey
    rw [SortedMap.mem_keys, h] at hkey
    by_contra hnot
    rw [if_neg hnot] at hkey
    cases hkey
  · intro xs ys hnames
    apply SortedMap.ext_find?
    intro n
    rw [h, h]
    simp only [hnames]

end Searches

/-! ## Calls and uses -/

/-- What is found for a name that is looked for by itself. -/
def callsFound (reading : Reading) (content name : String) : Option CallEdge :=
  (callsFrom reading content [name]).find? name

def usesFound (content name : String) : Option UsageEntry :=
  (findUsages content [name]).find? name

theorem find?_callsFrom (reading : Reading) (content : String) (known : List String)
    (name : String) : (callsFrom reading content known).find? name =
      if name ∈ known then callsFound reading content name else none := by
  rw [callsFound]
  cases reading with
  | ok program =>
    rw [callsFrom, callsFrom, find?_callsInProgram, find?_callsInProgram]
    simp [ite_and]
  | error e =>
    rw [callsFrom, callsFrom, find?_callsInText, find?_callsInText]
    simp [ite_and]

theorem find?_findUsages_eq (content : String) (names : List String) (name : String) :
    (findUsages content names).find? name =
      if name ∈ names then usesFound content name else none := by
  rw [usesFound, find?_findUsages, find?_findUsages]
  simp [ite_and]

/-- Calls are found for each function by itself, and so are the uses of variables. -/
theorem finds_each_name (parse : String → SyntaxTree) (content filename : String) :
    FindsEachName FunctionDef.name (fun defs : List FunctionDef =>
      findCallsWith parse content filename (defs.map FunctionDef.name)) ∧
    FindsEachName VariableDef.name (fun vars : List VariableDef =>
      findUsages content (vars.map VariableDef.name)) :=
  ⟨findsEachName_of_find? (find?_callsFrom _ content),
    findsEachName_of_find? (find?_findUsages_eq content)⟩

end CodeSurvey.References
