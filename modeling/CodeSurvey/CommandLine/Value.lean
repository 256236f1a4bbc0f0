/-!
# Values on the command line

The types of values that arguments take, and how a value is read from its text.
-/

namespace CodeSurvey.CommandLine

inductive ValueType where
  /-- Any text that is not empty. -/
  | path
  /-- One of some words. -/
  | choice (words : List String)
  /-- A number within bounds. -/
  | integer (least greatest : Int)
deriving DecidableEq

inductive Value where
  | text (s : String)
  | integer (n : Int)
deriving DecidableEq

inductive ValueFault where
  | missing
  | notOffered
  | emptyNumber
  | notDigit
  | tooLarge
  | tooSmall
  | outOfBounds (n least greatest : Int)
deriving DecidableEq

def ValueFault.message : ValueFault → String
  | missing => ""
  | notOffered => ""
  | emptyNumber => "cannot parse integer from empty string"
  | notDigit => "invalid digit found in string"
  | tooLarge => "number too large to fit in target type"
  | tooSmall => "number too small to fit in target type"
  | outOfBounds n least greatest =>
    toString n ++ " is not in " ++ toString least ++ "..=" ++ toString greatest

def greatestWord : Int := 9223372036854775807

def leastWord : Int := -9223372036854775808

/-- Read digits on from a number, upwards or downwards; the first fault counts. -/
def readDigits (down : Bool) : Int → List Char → Except ValueFault Int
  | n, [] => .ok n
  | n, c :: rest =>
    if !c.isDigit then .error .notDigit
    else
      let digit : Int := c.toNat - '0'.toNat
      let next := if down then n * 10 - digit else n * 10 + digit
      if next > greatestWord then .error .tooLarge
      else if next < leastWord then .error .tooSmall
      else readDigits down next rest

def readInteger (text : String) : Except ValueFault Int :=
  match text.toList with
  | [] => .error .emptyNumber
  | ['+'] | ['-'] => .error .notDigit
  | '+' :: digits => readDigits false 0 digits
  | '-' :: digits => readDigits true 0 digits
  | digits => readDigits false 0 digits

namespace ValueType

def choices : ValueType → List String
  | choice words => words
  | _ => []

def read (text : String) : ValueType → Except ValueFault Value
  | path => if text.isEmpty then .error .missing else .ok (.text text)
  | choice words =>
    if words.contains text then .ok (.text text)
    else .error (if text.isEmpty then .missing else .notOffered)
  | integer least greatest => do
    let n ← readInteger text
    if least ≤ n ∧ n ≤ greatest then .ok (.integer n)
    else .error (.outOfBounds n least greatest)

end ValueType
end CodeSurvey.CommandLine
