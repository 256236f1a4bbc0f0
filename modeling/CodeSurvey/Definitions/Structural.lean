import CodeSurvey.Definitions.Slice
import CodeSurvey.Script.Node

/-!
# Definitions in programs

Functions and variables read off the nodes of a program. A definition is at the top level if no
function or method is around it.
-/

namespace CodeSurvey.Definitions
open Script

/-! ## Parameters and results -/

def renderParam : Option Node → String
  | none => "unknown"
  | some n => render n
where
  render : Node → String
    | .identifier name _ => name
    | .withDefault left _ _ => render left ++ "=?"
    | .rest (some argument) _ => "..." ++ render argument
    | .rest none _ => "...unknown"
    | .objectPattern _ _ => "\x7b...\x7d"
    | .arrayPattern _ _ => "[...]"
    | _ => "param"

def isValueReturn : Node → Bool
  | .returned (some _) _ => true
  | _ => false

/-- Whether a return with a value lies anywhere within a node, nested functions included. -/
def hasValueReturn (n : Node) : Bool :=
  isValueReturn n || n.children.attach.any fun ⟨c, _⟩ => hasValueReturn c
termination_by n
decreasing_by exact Node.sizeOf_mem_children ‹_›

def returnsValue (f : FunctionNode Node) : Bool := f.expressionBody || hasValueReturn f.body

def literalType : LiteralKind → ValueType
  | .string => .string
  | .number => .number
  | .bigInt => .bigInt
  | .boolean => .boolean
  | .null | .regExp => .object

def valueType? : Node → Option ValueType
  | .literal kind _ => some (literalType kind)
  | .arrayLiteral _ _ => some .array
  | .objectLiteral _ _ => some .object
  | .function f => if f.kind = .declaration then none else some .function
  | .call _ _ _ => some .call
  | .creation _ _ => some .instance_
  | _ => none

/-! ## Functions -/

structure Origin where
  lines : List (List Char)
  file : String

def define (o : Origin) (name : String) (f : FunctionNode Node) (type : FunctionType)
    (span : Span) (isTopLevel : Bool) : FunctionDef where
  name := name
  file := o.file
  line := span.startLine
  code := slice o.lines span.startLine span.endLine
  type := type
  isTopLevel := isTopLevel
  isClassMethod := none
  params := f.params.map fun p => renderParam (some p)
  returnsValue := returnsValue f
  returnType := .ofBool (returnsValue f)
  totalCalls := none
  callSites := none
  source := .structural

/-- A variable that starts as a function defines it under its own name. -/
def defineDeclared (o : Origin) (top : Bool) (d : Declarator Node) : Option FunctionDef :=
  match d.name?, d.init with
  | some name, some (.function f) =>
    match f.kind with
    | .arrow => some (define o name f .arrow d.span top)
    | .expression => some (define o name f .function d.span top)
    | .declaration => none
  | _, _ => none

def ownFunctions (o : Origin) (top : Bool) : Node → List FunctionDef
  | .function f =>
    match f.kind, f.name with
    | .declaration, some name => [define o name f .function f.span top]
    | _, _ => []
  | .method m =>
    match m.name with
    | some name =>
      [{ define o name m.value .method m.span false with isClassMethod := some true }]
    | none => []
  | .declaration _ ds _ => ds.filterMap (defineDeclared o top)
  | _ => []

def isScope : Node → Bool
  | .function _ | .method _ => true
  | _ => false

def functionsIn (o : Origin) (top : Bool) (n : Node) : List FunctionDef :=
  ownFunctions o top n ++
    n.children.attach.flatMap fun ⟨c, _⟩ => functionsIn o (top && !isScope n) c
termination_by n
decreasing_by exact Node.sizeOf_mem_children ‹_›

def functions (program : Node) (content file : String) : List FunctionDef :=
  functionsIn ⟨Text.lines content.toList, file⟩ true program

/-! ## Variables -/

def declare (file : String) (top : Bool) (kind : VariableKind) (d : Declarator Node) :
    Option VariableDef :=
  d.name?.map fun name =>
    { name := name, file := file, line := d.span.startLine, kind := kind,
      valueType := d.init.bind valueType?, isTopLevel := top, totalUsages := none,
      usageLines := none, source := .structural }

def ownVariables (file : String) (top : Bool) : Node → List VariableDef
  | .declaration kind ds _ => ds.filterMap (declare file top kind)
  | _ => []

def variablesIn (file : String) (top : Bool) (n : Node) : List VariableDef :=
  ownVariables file top n ++
    n.children.attach.flatMap fun ⟨c, _⟩ => variablesIn file (top && !isScope n) c
termination_by n
decreasing_by exact Node.sizeOf_mem_children ‹_›

def declaredVariables (program : Node) (file : String) : List VariableDef := variablesIn file true program

end CodeSurvey.Definitions
