import CodeSurvey.Definitions.Structural
import CodeSurvey.Proofs.Script.Occurrences
import Mathlib.Data.List.Forall2

/-!
# The definitions of a program

What a program defines is enumerated from the places of its nodes, and each definition found is
described from its place. The two searches for functions and for variables go their own ways and
still agree on the variables that start as functions.
-/

namespace CodeSurvey.Definitions
open Script

/-! ## What counts -/

inductive FunctionForm where
  | declared
  | assigned
  | method
deriving DecidableEq

/-- A function under a name, with what stands around it. -/
structure FunctionItem where
  form : FunctionForm
  name : String
  function : FunctionNode Node
  span : Span
  around : List Enclosure

/-- A declarator of a plain name, with what stands around its declaration. -/
structure VariableItem where
  name : String
  kind : VariableKind
  declarator : Declarator Node
  around : List Enclosure

def assignedItem? (around : List Enclosure) (d : Declarator Node) : Option FunctionItem :=
  match d.id, d.init with
  | .identifier name _, some (.function f) =>
    if f.kind = .declaration then none else some ⟨.assigned, name, f, d.span, around⟩
  | _, _ => none

def functionItemsAt (o : Occurrence) : List FunctionItem :=
  match o.node with
  | .function f =>
    if f.kind = .declaration then
      f.name.toList.map fun name => ⟨.declared, name, f, f.span, o.around⟩
    else []
  | .method m => m.name.toList.map fun name => ⟨.method, name, m.value, m.span, o.around⟩
  | .declaration _ ds _ => ds.filterMap (assignedItem? o.around)
  | _ => []

def variableItem? (around : List Enclosure) (kind : VariableKind) (d : Declarator Node) :
    Option VariableItem :=
  match d.id with
  | .identifier name _ => some ⟨name, kind, d, around⟩
  | _ => none

def variableItemsAt (o : Occurrence) : List VariableItem :=
  match o.node with
  | .declaration kind ds _ => ds.filterMap (variableItem? o.around kind)
  | _ => []

def functionItems (program : Node) : List FunctionItem :=
  program.occurrences.flatMap functionItemsAt

def variableItems (program : Node) : List VariableItem :=
  program.occurrences.flatMap variableItemsAt

/-! ## What is said of it -/

def FunctionItem.type (i : FunctionItem) : FunctionType :=
  match i.form, i.function.kind with
  | .method, _ => .method
  | .assigned, .arrow => .arrow
  | _, _ => .function

def Outermost (around : List Enclosure) : Prop := ∀ e ∈ around, isScope e.parent = false

/-- A definition says of an item what is to be seen in the program. -/
structure FunctionItem.Describes (o : Origin) (i : FunctionItem) (d : FunctionDef) : Prop where
  name_eq : d.name = i.name
  file_eq : d.file = o.file
  line_eq : d.line = i.span.startLine
  code_eq : d.code = slice o.lines i.span.startLine i.span.endLine
  type_eq : d.type = i.type
  isTopLevel_iff : d.isTopLevel ↔ i.form ≠ .method ∧ Outermost i.around
  isClassMethod_eq : d.isClassMethod = if i.form = .method then some true else none
  params_eq : d.params = i.function.params.map fun p => renderParam (some p)
  /-- A concise body is a value; else some return within the body has an argument. -/
  returnsValue_iff : d.returnsValue ↔ i.function.expressionBody ∨
    ∃ argument span, Node.returned (some argument) span ∈ i.function.body.preorder
  returnType_eq : d.returnType = .ofBool d.returnsValue
  unfilled : d.totalCalls = none ∧ d.callSites = none
  source_eq : d.source = .structural

structure VariableItem.Describes (file : String) (i : VariableItem) (v : VariableDef) : Prop where
  name_eq : v.name = i.name
  file_eq : v.file = file
  line_eq : v.line = i.declarator.span.startLine
  kind_eq : v.kind = i.kind
  valueType_eq : v.valueType = i.declarator.init.bind valueType?
  isTopLevel_iff : v.isTopLevel ↔ Outermost i.around
  unfilled : v.totalUsages = none ∧ v.usageLines = none
  source_eq : v.source = .structural

/-! ## Looking around and going down -/

theorem hasValueReturn_iff (n : Node) :
    hasValueReturn n ↔ ∃ argument span, Node.returned (some argument) span ∈ n.preorder := by
  induction n using Node.childInduction with
  | step n ih =>
    rw [hasValueReturn, Node.preorder_eq]
    simp only [Bool.or_eq_true, List.any_eq_true, List.mem_attach, true_and, Subtype.exists,
      List.mem_cons, List.mem_flatMap]
    constructor
    · rintro (h | ⟨c, hc, h⟩)
      · cases n with
        | returned argument s =>
          cases argument with
          | none => simp [isValueReturn] at h
          | some a => exact ⟨a, s, .inl rfl⟩
        | _ => simp [isValueReturn] at h
      · obtain ⟨a, s, h⟩ := (ih c hc).1 h
        exact ⟨a, s, .inr ⟨c, hc, h⟩⟩
    · rintro ⟨a, s, h | ⟨c, hc, h⟩⟩
      · exact .inl (h ▸ rfl)
      · exact .inr ⟨c, hc, (ih c hc).2 ⟨a, s, h⟩⟩

/-- What is handed down to a node tells whether anything around it is a scope. -/
def topUnder (around : List Enclosure) : Bool := around.all fun e => !isScope e.parent

theorem topUnder_iff (around : List Enclosure) : topUnder around ↔ Outermost around := by
  simp [topUnder, Outermost]

/-- A search that goes from each node to its children, and is at the top until it passes a scope,
goes through all places of a program in order. -/
theorem search_eq_occurrencesIn {β : Type} {own search : Bool → Node → List β}
    (step : ∀ top n, search top n = own top n ++ n.children.flatMap (search (top && !isScope n)))
    (around : List Enclosure) (n : Node) :
    search (topUnder around) n =
      (n.occurrencesIn around).flatMap fun x => own (topUnder x.around) x.node := by
  induction n using Node.childInduction generalizing around with
  | step n ih =>
    rw [step, Node.occurrencesIn_eq, List.flatMap_cons, List.flatMap_assoc]
    congr 1
    rw [← Node.enclosed_map_snd, List.flatMap_map]
    refine List.flatMap_congr fun x hx => ?_
    have hc : x.2 ∈ n.children := Node.enclosed_map_snd n ▸ List.mem_map_of_mem hx
    rw [← ih x.2 hc, topUnder, topUnder, List.all_cons, Node.enclosed_parent hx, Bool.and_comm]

theorem functionsIn_eq (o : Origin) (top : Bool) (n : Node) :
    functionsIn o top n =
      ownFunctions o top n ++ n.children.flatMap (functionsIn o (top && !isScope n)) := by
  rw [functionsIn]
  simp only [List.flatMap_subtype, List.unattach_attach]

theorem variablesIn_eq (file : String) (top : Bool) (n : Node) :
    variablesIn file top n =
      ownVariables file top n ++ n.children.flatMap (variablesIn file (top && !isScope n)) := by
  rw [variablesIn]
  simp only [List.flatMap_subtype, List.unattach_attach]

/-! ## From items to definitions -/

def FunctionItem.definition (o : Origin) (i : FunctionItem) : FunctionDef :=
  let d := define o i.name i.function i.type i.span (topUnder i.around)
  if i.form = .method then { d with isTopLevel := false, isClassMethod := some true } else d

def VariableItem.definition (file : String) (i : VariableItem) : VariableDef where
  name := i.name
  file := file
  line := i.declarator.span.startLine
  kind := i.kind
  valueType := i.declarator.init.bind valueType?
  isTopLevel := topUnder i.around
  totalUsages := none
  usageLines := none
  source := .structural

theorem FunctionItem.describes_definition (o : Origin) (i : FunctionItem) :
    i.Describes o (i.definition o) := by
  have hr : returnsValue i.function ↔ i.function.expressionBody ∨
      ∃ argument span, Node.returned (some argument) span ∈ i.function.body.preorder := by
    rw [returnsValue, Bool.or_eq_true, hasValueReturn_iff]
  by_cases h : i.form = .method
  · constructor <;> simp [FunctionItem.definition, h, define, hr]
  · constructor <;> simp [FunctionItem.definition, h, define, hr, topUnder_iff]

theorem VariableItem.describes_definition (file : String) (i : VariableItem) :
    i.Describes file (i.definition file) := by
  constructor <;> simp [VariableItem.definition, topUnder_iff]

theorem defineDeclared_eq (o : Origin) (around : List Enclosure) (d : Declarator Node) :
    defineDeclared o (topUnder around) d =
      (assignedItem? around d).map (FunctionItem.definition o) := by
  obtain ⟨id, init, s⟩ := d
  cases id with
  | identifier name s' =>
    cases init with
    | none => rfl
    | some init =>
      cases init with
      | function f =>
        obtain ⟨kind, name', ps, b, e, s''⟩ := f
        cases kind <;> rfl
      | _ => rfl
  | _ => cases init <;> rfl

theorem declare_eq (file : String) (around : List Enclosure) (kind : VariableKind)
    (d : Declarator Node) :
    declare file (topUnder around) kind d =
      (variableItem? around kind d).map (VariableItem.definition file) := by
  obtain ⟨id, init, s⟩ := d
  cases id <;> rfl

theorem ownFunctions_eq (o : Origin) (x : Occurrence) :
    ownFunctions o (topUnder x.around) x.node =
      (functionItemsAt x).map (FunctionItem.definition o) := by
  obtain ⟨around, n⟩ := x
  cases n with
  | function f =>
    obtain ⟨kind, name, ps, b, e, s⟩ := f
    cases kind <;> cases name <;> rfl
  | method m =>
    obtain ⟨name, f, s⟩ := m
    cases name <;> rfl
  | declaration kind ds s =>
    simp only [ownFunctions, functionItemsAt, List.map_filterMap]
    exact List.filterMap_congr fun d _ => defineDeclared_eq o around d
  | _ => rfl

theorem ownVariables_eq (file : String) (x : Occurrence) :
    ownVariables file (topUnder x.around) x.node =
      (variableItemsAt x).map (VariableItem.definition file) := by
  obtain ⟨around, n⟩ := x
  cases n with
  | declaration kind ds s =>
    simp only [ownVariables, variableItemsAt, List.map_filterMap]
    exact List.filterMap_congr fun d _ => declare_eq file around kind d
  | _ => rfl

theorem functions_eq_map (program : Node) (content file : String) :
    functions program content file =
      (functionItems program).map (FunctionItem.definition ⟨Text.lines content.toList, file⟩) := by
  have h := search_eq_occurrencesIn (functionsIn_eq ⟨Text.lines content.toList, file⟩) [] program
  rw [functions, functionItems, List.map_flatMap]
  refine Eq.trans h (List.flatMap_congr fun x _ => ?_)
  exact ownFunctions_eq _ x

theorem declaredVariables_eq_map (program : Node) (file : String) :
    declaredVariables program file =
      (variableItems program).map (VariableItem.definition file) := by
  have h := search_eq_occurrencesIn (variablesIn_eq file) [] program
  rw [declaredVariables, variableItems, List.map_flatMap]
  refine Eq.trans h (List.flatMap_congr fun x _ => ?_)
  exact ownVariables_eq file x

/-! ## Variables that start as functions -/

abbrev Key := String × Nat × Bool

def functionKey (d : FunctionDef) : Key := (d.name, d.line, d.isTopLevel)

def variableKey (v : VariableDef) : Key := (v.name, v.line, v.isTopLevel)

def startsAsFunction (v : VariableDef) : Bool := v.valueType = some .function

def FunctionItem.isAssigned (i : FunctionItem) : Bool := i.form = .assigned

theorem variableItem?_key (o : Origin) (around : List Enclosure) (kind : VariableKind)
    (d : Declarator Node) :
    (((variableItem? around kind d).map (VariableItem.definition o.file)).filter
        startsAsFunction).map variableKey =
      ((assignedItem? around d).filter FunctionItem.isAssigned).map
        (functionKey ∘ FunctionItem.definition o) := by
  obtain ⟨id, init, s⟩ := d
  cases id with
  | identifier name s' =>
    cases init with
    | none => rfl
    | some init =>
      cases init with
      | function f =>
        obtain ⟨kind, name', ps, b, e, s''⟩ := f
        cases kind <;> rfl
      | literal kind s'' => cases kind <;> rfl
      | _ => rfl
  | _ => cases init <;> rfl

theorem variableItemsAt_keys (o : Origin) (x : Occurrence) :
    (((variableItemsAt x).map (VariableItem.definition o.file)).filter startsAsFunction).map
        variableKey =
      ((functionItemsAt x).filter FunctionItem.isAssigned).map
        (functionKey ∘ FunctionItem.definition o) := by
  obtain ⟨around, n⟩ := x
  cases n with
  | function f =>
    obtain ⟨kind, name, ps, b, e, s⟩ := f
    cases kind <;> cases name <;> rfl
  | method m =>
    obtain ⟨name, f, s⟩ := m
    cases name <;> rfl
  | declaration kind ds s =>
    simp only [variableItemsAt, functionItemsAt, List.map_filterMap, List.filter_filterMap]
    exact List.filterMap_congr fun d _ => variableItem?_key o around kind d
  | _ => rfl

/-- The definitions of a program are those of its named function declarations, of its variables
that start as functions and of its named methods, one for each in preorder, and its variables are
those of its declarators of plain names. Both searches find the same variables that start as
functions. -/
theorem definitions_describe_program (program : Node) (content file : String) :
    List.Forall₂ (FunctionItem.Describes ⟨Text.lines content.toList, file⟩)
      (functionItems program) (functions program content file) ∧
    List.Forall₂ (VariableItem.Describes file)
      (variableItems program) (declaredVariables program file) ∧
    ((declaredVariables program file).filter startsAsFunction).map variableKey =
      (((functionItems program).zip (functions program content file)).filter
        (FunctionItem.isAssigned ∘ Prod.fst)).map (functionKey ∘ Prod.snd) := by
  have hf := functions_eq_map program content file
  have hv := declaredVariables_eq_map program file
  refine ⟨?_, ?_, ?_⟩
  · rw [hf, List.forall₂_map_right_iff, List.forall₂_same]
    exact fun i _ => i.describes_definition _
  · rw [hv, List.forall₂_map_right_iff, List.forall₂_same]
    exact fun i _ => i.describes_definition _
  · have hz : (functionItems program).zip (functions program content file) =
        (functionItems program).map fun i =>
          (i, i.definition ⟨Text.lines content.toList, file⟩) := by
      rw [hf, ← List.zip_map', List.map_id']
    have hr : (((functionItems program).zip (functions program content file)).filter
        (FunctionItem.isAssigned ∘ Prod.fst)).map (functionKey ∘ Prod.snd) =
        ((functionItems program).filter FunctionItem.isAssigned).map
          (functionKey ∘ FunctionItem.definition ⟨Text.lines content.toList, file⟩) := by
      rw [hz, List.filter_map, List.map_map]
      rfl
    rw [hr, hv]
    simp only [functionItems, variableItems, List.map_flatMap, List.filter_flatMap]
    exact List.flatMap_congr fun x _ => variableItemsAt_keys ⟨_, file⟩ x

end CodeSurvey.Definitions
