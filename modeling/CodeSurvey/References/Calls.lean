import CodeSurvey.Definitions.Extraction
import CodeSurvey.References.TextCalls

/-!
# Calls

Who calls the functions of a file. In a program a call belongs to the innermost named function
around it; in other texts calls are counted line by line, and lines that define the name do not
count.
-/

namespace CodeSurvey.References
open Script

/-! ## Calls in programs -/

/-- The name a call goes by: that of the function, or of the property called. -/
def calleeName? : Node → Option String
  | .identifier name _ => some name
  | .member _ property _ _ => property
  | _ => none

/-- The caller that calls in an initializer belong to. -/
def initCaller (caller : Option String) (d : Declarator Node) : Option String :=
  match d.init with
  | some (.function _) => d.name?.or caller
  | _ => caller

def declaratorUnder (caller : Option String) (d : Declarator Node) :
    List (Option String × Node) :=
  (caller, d.id) :: d.init.toList.map fun init => (initCaller caller d, init)

/-- The children of a node, each with the caller that its calls belong to. -/
def childrenUnder (caller : Option String) : Node → List (Option String × Node)
  | .function f =>
    let inner := if f.kind = .declaration then f.name.or caller else caller
    f.children.map (Prod.mk inner)
  | .declaration _ ds _ => ds.flatMap (declaratorUnder caller)
  | n => n.children.map (Prod.mk caller)

theorem childrenUnder_map_snd (caller : Option String) (n : Node) :
    (childrenUnder caller n).map Prod.snd = n.children := by
  have drop (c : Option String) (ns : List Node) : (ns.map (Prod.mk c)).map Prod.snd = ns := by
    simp [Function.comp_def]
  cases n with
  | declaration k ds s =>
    simp [childrenUnder, Node.children, List.map_flatMap, declaratorUnder, Function.comp_def]
    rfl
  | _ => exact drop _ _

theorem sizeOf_childrenUnder {caller : Option String} {n : Node} {c : Option String × Node}
    (h : c ∈ childrenUnder caller n) : sizeOf c.2 < sizeOf n :=
  Node.sizeOf_mem_children (childrenUnder_map_snd caller n ▸ List.mem_map_of_mem h)

def ownCall (caller : Option String) : Node → List (String × CallSite)
  | .call callee _ span => (calleeName? callee).toList.map fun name => (name, ⟨span.startLine, caller⟩)
  | _ => []

def callsIn (caller : Option String) (n : Node) : List (String × CallSite) :=
  ownCall caller n ++
    (childrenUnder caller n).attach.flatMap fun ⟨c, _⟩ => callsIn c.1 c.2
termination_by n
decreasing_by exact sizeOf_childrenUnder ‹_›

def recordAll (calls : List (String × CallSite)) : CallMap :=
  calls.foldl (fun m c => m.update c.1 fun e => e.record c.2.line c.2.caller) ∅

def callsInProgram (program : Node) (known : List String) : CallMap :=
  recordAll ((callsIn none program).filter fun c => known.contains c.1)

/-! ## Calls of a file -/

def callsFrom (reading : Reading) (content : String) (known : List String) : CallMap :=
  match reading with
  | .ok program => callsInProgram program known
  | .error _ => callsInText content known

def findCallsWith (parse : String → SyntaxTree) (content filename : String)
    (known : List String) : CallMap :=
  callsFrom (readWith parse content (.ofFilename filename)) content known

def findCalls (content filename : String) (known : List String) : CallMap :=
  findCallsWith .ofText content filename known

/-- Fill in the calls of a definition; a function that nobody calls gets none. -/
def applyCall (calls : CallMap) (d : FunctionDef) : FunctionDef :=
  let edge := (calls.find? d.name).getD default
  { d with totalCalls := some edge.totalCalls, callSites := some edge.callSites }

def applyCalls (defs : List FunctionDef) (calls : CallMap) : List FunctionDef :=
  defs.map (applyCall calls)

end CodeSurvey.References
