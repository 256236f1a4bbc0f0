import CodeSurvey.Data.SortedMap

/-!
# Facts

What the survey of a single file brings to light: definitions of functions, declarations of
variables, and where both are used. Lines are counted from one.
-/

namespace CodeSurvey

/-- How a fact was found: in the tree of a parsed file, or by patterns over its text. -/
inductive Provenance where
  | structural
  | pattern
deriving DecidableEq, Inhabited

inductive FunctionType where
  | function
  | arrow
  | method
deriving DecidableEq, Inhabited

inductive ReturnType where
  | value
  | void
deriving DecidableEq, Inhabited

def ReturnType.ofBool (returnsValue : Bool) : ReturnType := if returnsValue then value else void

structure CallSite where
  line : Nat
  /-- The innermost named function around the call, if it is known. -/
  caller : Option String
deriving DecidableEq, Inhabited

structure CallEdge where
  totalCalls : Nat
  callSites : List CallSite
deriving DecidableEq

namespace CallEdge

def empty : CallEdge := ⟨0, []⟩

instance : Inhabited CallEdge := ⟨empty⟩

def record (e : CallEdge) (line : Nat) (caller : Option String) : CallEdge :=
  ⟨e.totalCalls + 1, e.callSites ++ [⟨line, caller⟩]⟩

end CallEdge

abbrev CallMap := SortedMap CallEdge

structure UsageEntry where
  total : Nat
  lines : List Nat
deriving DecidableEq, Inhabited

abbrev UsageMap := SortedMap UsageEntry

/-- The call counts are filled in once calls have been looked for. -/
structure FunctionDef where
  name : String
  file : String
  line : Nat
  /-- The lines of the definition as they stand. -/
  code : String
  type : FunctionType
  isTopLevel : Bool
  isClassMethod : Option Bool
  params : List String
  returnsValue : Bool
  returnType : ReturnType
  totalCalls : Option Nat
  callSites : Option (List CallSite)
  source : Provenance
deriving DecidableEq, Inhabited

inductive VariableKind where
  | const
  | let_
  | var
  | unknown
deriving DecidableEq, Inhabited

def VariableKind.ofKeyword (keyword : String) : VariableKind :=
  if keyword = "const" then const
  else if keyword = "let" then let_
  else if keyword = "var" then var
  else unknown

/-- What kind of value a variable starts with, as far as its initializer shows at first sight. -/
inductive ValueType where
  | string
  | number
  | boolean
  | bigInt
  | object
  | array
  | function
  | call
  | instance_
deriving DecidableEq, Inhabited

structure VariableDef where
  name : String
  file : String
  line : Nat
  kind : VariableKind
  valueType : Option ValueType
  isTopLevel : Bool
  totalUsages : Option Nat
  usageLines : Option (List Nat)
  source : Provenance
deriving DecidableEq, Inhabited

/-! ## Names -/

namespace Provenance

def all : List Provenance := [structural, pattern]

def name : Provenance → String
  | structural => "structural"
  | pattern => "pattern"

end Provenance

namespace FunctionType

def all : List FunctionType := [function, arrow, method]

def name : FunctionType → String
  | function => "function"
  | arrow => "arrow"
  | method => "method"

end FunctionType

namespace ReturnType

def all : List ReturnType := [value, void]

def name : ReturnType → String
  | value => "value"
  | void => "void"

end ReturnType

namespace VariableKind

def all : List VariableKind := [const, let_, var, unknown]

def name : VariableKind → String
  | const => "const"
  | let_ => "let"
  | var => "var"
  | unknown => "unknown"

end VariableKind

namespace ValueType

def all : List ValueType :=
  [string, number, boolean, bigInt, object, array, function, call, instance_]

def name : ValueType → String
  | string => "string"
  | number => "number"
  | boolean => "boolean"
  | bigInt => "bigint"
  | object => "object"
  | array => "array"
  | function => "function"
  | call => "call"
  | instance_ => "instance"

end ValueType
end CodeSurvey
