import CodeSurvey.Data.Double
import CodeSurvey.Data.Format
import CodeSurvey.Data.Json
import CodeSurvey.Data.SortedMap
import CodeSurvey.Text.Quoted

/-!
# Reading JSON values

Readers of plain values, of lists and maps, of the names of an enumeration, and of records. A record
is an object, in which unknown fields are passed over, or an array of its fields in order.
-/

namespace CodeSurvey

namespace Double.Layout

/-- Numbers of up to seventeen digits are written out; larger and very small ones have an exponent,
which bears a sign. -/
def compact : Layout := ⟨some (-5, 15)⟩

end Double.Layout

namespace Json

/-- The number `digits` divided by a power of ten. Whole numbers that are written without a
fraction and fit a machine word stay whole. -/
def ofDecimal (digits : Int) (places : Nat) : Json :=
  if places = 0 ∧ -9223372036854775808 ≤ digits ∧ digits < 18446744073709551616 then number digits
  else decimal ((Double.ofDecimal (digits < 0) digits.natAbs (-places)).write .compact)

def description : Json → String
  | null => "null"
  | bool b => booleanText b
  | number n => integerText n
  | decimal text => "floating point " ++ Misfit.ticked text
  | string s => "string " ++ Text.quoted s
  | array _ => "sequence"
  | object _ => "map"

def mismatch (v : Json) (expected : String) : Misfit := .wrongType v.description expected

def readText : Json → Except Misfit String
  | string s => .ok s
  | v => .error (v.mismatch "a string")

def readBoolean : Json → Except Misfit Bool
  | bool b => .ok b
  | v => .error (v.mismatch "a boolean")

def readWhole (w : WordType) : Json → Except Misfit Int
  | number n => if w.contains n then .ok n else .error (.wrongValue (integerText n) w.name)
  | v => .error (v.mismatch w.name)

def readOption (read : Json → Except Misfit α) : Json → Except Misfit (Option α)
  | null => .ok none
  | v => some <$> read v

def readList (read : Json → Except Misfit α) : Json → Except Misfit (List α)
  | array items => items.mapM read
  | v => .error (v.mismatch "a sequence")

def readMap (read : Json → Except Misfit α) : Json → Except Misfit (SortedMap α)
  | object fields => do
    let entries ← fields.mapM fun (key, v) => do return (key, ← read v)
    return .ofList entries
  | v => .error (v.mismatch "a map")

def readName (all : List α) (name : α → String) (text : String) : Except Misfit α :=
  match all.find? fun a => name a == text with
  | some a => .ok a
  | none => .error (.unknownVariant text (all.map name))

/-- Read a value of an enumeration: its name, or an object that has nothing under its name. -/
def readVariant (all : List α) (name : α → String) : Json → Except Misfit α
  | string s => readName all name s
  | object [(key, v)] => do
    let a ← readName all name key
    match v with
    | null => return a
    | v => .error (v.mismatch "unit")
  | object _ => .error (.wrongValue "map" "map with a single key")
  | v => .error (v.mismatch "string or map")

/-! ## Records -/

def checkFields (r : Record Json Misfit α) (entries : List (String × Json)) :
    Except Misfit Unit :=
  entries.forM fun (key, v) =>
    match r.fields.lookup key with
    | some check => check v
    | none => .ok ()

def elementCount (n : Nat) : String := toString n ++ (if n = 1 then " element" else " elements")

def readRecord (typeName : String) (r : Record Json Misfit α) (v : Json) : Except Misfit α :=
  let expected := "struct " ++ typeName
  match v with
  | object entries => do
    checkFields r entries
    r.build (List.lookup · entries) .missingField
  | array items => do
    let entries := r.names.zip items
    checkFields r entries
    let a ← r.build (List.lookup · entries) fun name =>
      .wrongLength (r.names.idxOf name) (expected ++ " with " ++ elementCount r.names.length)
    if items.length > r.names.length then
      .error (.wrongLength items.length "fewer elements in array")
    return a
  | v => .error (v.mismatch expected)

def format : Format Json Misfit where
  text := readText
  boolean := readBoolean
  whole := readWhole
  option := readOption
  list := readList
  record := readRecord

end Json
end CodeSurvey
