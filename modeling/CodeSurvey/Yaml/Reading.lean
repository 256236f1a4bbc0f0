import CodeSurvey.Data.Format
import CodeSurvey.Text.Quoted
import CodeSurvey.Yaml.Document
import CodeSurvey.Yaml.Plain

/-!
# Reading YAML values

Readers of the values that the nodes of a document stand for. A misfit is placed at the innermost
node that was being read, with the path that leads there. Where nothing is written there is an
empty list or a record without fields.
-/

namespace CodeSurvey.Yaml

/-- Where a value stands in its document: names of fields and numbers of items; empty for all. -/
abbrev Path := String

namespace Path

def item (p : Path) (i : Nat) : Path :=
  (if p.isEmpty then "." else p) ++ "[" ++ toString i ++ "]"

def field (p : Path) (name : String) : Path := if p.isEmpty then name else p ++ "." ++ name

end Path

inductive ReadError where
  | misfit (m : Misfit) (place : Option (Mark × Path))
  | load (e : LoadError)
  | severalDocuments
deriving DecidableEq, Inhabited

namespace ReadError

def placeText (m : Mark) : String := if m.isShown then " at " ++ m.message else ""

def message : ReadError → String
  | misfit m none => m.message
  | misfit m (some (mark, path)) =>
    (if path.isEmpty then "" else path ++ ": ") ++ m.message ++ placeText mark
  | load (.fault f) => f.message
  | load (.unknownAnchor mark) => "unknown anchor" ++ placeText mark
  | severalDocuments =>
    "deserializing from YAML containing more than one document is not supported"

def placed (mark : Mark) (path : Path) : ReadError → ReadError
  | misfit m none => misfit m (some (mark, path))
  | e => e

end ReadError

structure Value where
  document : Document
  node : Node
  path : Path

abbrev Reading (α : Type) := Except ReadError α

namespace Value

def cutError (v : Value) : ReadError := .load (v.document.error.getD (.fault default))

def target (v : Value) : Node :=
  match v.node with
  | .alias n => (v.document.find? n).getD .cut
  | node => node

def fail {α : Type} (v : Value) (mark : Mark) (m : Misfit) : Reading α :=
  .error (.misfit m (some (mark, v.path)))

/-! ## Scalars -/

def textDescription (text : String) : String := "string " ++ Text.quoted text

def plainDescription : PlainValue → String
  | .nothing => "unit value"
  | .boolean b => booleanText b
  | .integer n => integerText n
  | .wide n word => integerText n ++ " as " ++ word
  | .decimal d => "floating point " ++ Misfit.ticked (d.write ⟨none⟩)
  | .text s => textDescription s

inductive CoreTag where
  | boolean
  | integer
  | decimal
  | nothing
deriving DecidableEq

def coreTag? (tag : List Char) : Option CoreTag :=
  let tag := String.ofList tag
  if tag = "tag:yaml.org,2002:bool" then some .boolean
  else if tag = "tag:yaml.org,2002:int" then some .integer
  else if tag = "tag:yaml.org,2002:float" then some .decimal
  else if tag = "tag:yaml.org,2002:null" then some .nothing
  else none

def taggedValue? (text : String) : CoreTag → Option PlainValue × String
  | .boolean => ((readBoolean? text).map .boolean, "a boolean")
  | .integer => (readInteger? text.toList, "an integer")
  | .decimal => ((readFloat? text.toList).map .decimal, "a float")
  | .nothing => (if isNull text then some .nothing else none, "null")

def scalarMisfit (s : Scalar) (expected : String) : Misfit :=
  let text := String.ofList s.text
  let asPlain := Misfit.wrongType (plainDescription (readPlain text)) expected
  let asText := Misfit.wrongType (textDescription text) expected
  match s.tag with
  | none => if s.style = .plain then asPlain else asText
  | some tag =>
    match coreTag? tag with
    | some t =>
      match taggedValue? text t with
      | (some v, _) => .wrongType (plainDescription v) expected
      | (none, name) => .wrongValue (textDescription text) name
    | none => if tag.head? = some '!' ∧ s.style = .plain then asPlain else asText

def mismatch {α : Type} (v : Value) (expected : String) : Reading α :=
  match v.target with
  | .scalar mark _ s => v.fail mark (scalarMisfit s expected)
  | .sequence mark .. => v.fail mark (.wrongType "sequence" expected)
  | .mapping mark .. => v.fail mark (.wrongType "map" expected)
  | .alias _ | .cut => .error v.cutError

def readText (v : Value) (expected : String) : Reading String :=
  match v.target with
  | .scalar _ _ s => .ok (String.ofList s.text)
  | _ => v.mismatch expected

/-- Whether a scalar may be read as a value of a core type: it is plain, or a literal block with
the tag of the type. -/
def isOpen (s : Scalar) (t : CoreTag) : Bool :=
  s.style = .plain || (s.style = .literal && s.tag.bind coreTag? == some t)

def readCore {α : Type} (t : CoreTag) (expected : String) (parse : String → Option α)
    (v : Value) : Reading (Mark × α) :=
  match v.target with
  | .scalar mark _ s =>
    match if isOpen s t then parse (String.ofList s.text) else none with
    | some a => .ok (mark, a)
    | none => v.mismatch expected
  | _ => v.mismatch expected

def readBoolean (v : Value) : Reading Bool := do
  return (← v.readCore .boolean "a boolean" readBoolean?).2

def readWhole (w : WordType) (v : Value) : Reading Int := do
  let parse (text : String) :=
    if w.least < 0 then readEither? signed64 text.toList else readUnsigned? unsigned64 text.toList
  let (mark, n) ← v.readCore .integer w.name parse
  if w.contains n then return n else v.fail mark (.wrongValue (integerText n) w.name)

/-! ## Optional values -/

def isAbsent (s : Scalar) : Except Misfit Bool :=
  let text := String.ofList s.text
  if s.style ≠ .plain then .ok false
  else
    match s.tag with
    | none => .ok (text.isEmpty || isNull text)
    | some tag =>
      if coreTag? tag ≠ some .nothing then .ok false
      else if isNull text then .ok true
      else .error (.wrongValue (textDescription text) "null")

def readOption {α : Type} (read : Value → Reading α) (v : Value) : Reading (Option α) :=
  match v.target with
  | .scalar _ _ s =>
    match isAbsent s with
    | .ok true => .ok none
    | .ok false => some <$> read v
    | .error m => .error (.misfit m none)
  | .alias _ | .cut => .error v.cutError
  | _ => some <$> read v

/-! ## Lists -/

def isBlankScalar (s : Scalar) : Bool := s.style = .plain && s.text.isEmpty

def readItems {α : Type} (read : Value → Reading α) (v : Value) (mark : Mark) :
    Nat → List Node → Reading (List α)
  | _, [] => .ok []
  | i, n :: rest => do
    let item : Value := { v with node := n, path := Path.item v.path i }
    let a ← (read item).mapError (.placed mark v.path)
    return a :: (← readItems read v mark (i + 1) rest)

def readList {α : Type} (read : Value → Reading α) (v : Value) : Reading (List α) :=
  match v.target with
  | .sequence mark _ items => readItems read v mark 0 items
  | .scalar _ _ s => if isBlankScalar s then .ok [] else v.mismatch "a sequence"
  | _ => v.mismatch "a sequence"

/-! ## Records -/

/-- The path of the value of a key. Behind an alias the name of the field does not show. -/
def valuePath (v : Value) (key : Node) : Path :=
  match key with
  | .scalar _ _ s => Path.field v.path (String.ofList s.text)
  | _ => Path.field v.path "?"

/-- Read the entries of a record in the order in which they stand, and check those that belong to
a field. -/
def readEntries {α : Type} (r : Record Value ReadError α) (v : Value) (mark : Mark) :
    List (Node × Node) → List (String × Value) → Reading (List (String × Value))
  | [], found => .ok found
  | (key, node) :: rest, found => do
    let name ← readText { v with node := key } "field identifier"
    match r.fields.lookup name with
    | none => if node.isWhole then readEntries r v mark rest found else .error v.cutError
    | some check =>
      if (found.lookup name).isSome then v.fail mark (.duplicateField name)
      else
        let value : Value := { v with node := node, path := v.valuePath key }
        (check value).mapError (.placed mark v.path)
        readEntries r v mark rest ((name, value) :: found)

def readRecord {α : Type} (typeName : String) (r : Record Value ReadError α) (v : Value) :
    Reading α :=
  let expected := "struct " ++ typeName
  let missing (name : String) : ReadError := .misfit (.missingField name) none
  match v.target with
  | .mapping mark _ entries => do
    let found ← readEntries r v mark entries []
    (r.build (List.lookup · found) missing).mapError (.placed mark v.path)
  | .scalar mark _ s =>
    if isBlankScalar s then (r.build (fun _ => none) missing).mapError (.placed mark v.path)
    else v.mismatch expected
  | _ => v.mismatch expected

def format : Format Value ReadError where
  text v := v.readText "a string"
  boolean := readBoolean
  whole := readWhole
  option := readOption
  list := readList
  record := readRecord

end Value

/-- Read a text that holds one document. A fault behind what was read comes to light at the end,
and so does a second document. -/
def readDocument {α : Type} (read : Value → Reading α) (text : String) : Reading α := do
  let loaded := load text.toList
  let a ← read ⟨loaded.document, loaded.document.root, ""⟩
  match loaded.document.error with
  | some e => throw (.load e)
  | none => if loaded.hasMore then throw .severalDocuments else return a

end CodeSurvey.Yaml
