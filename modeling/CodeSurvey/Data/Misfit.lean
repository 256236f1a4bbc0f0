/-!
# Misfits

Why a value does not have the form that was expected of it, whatever format it was read from.
-/

namespace CodeSurvey

inductive Misfit where
  | wrongType (found expected : String)
  | wrongValue (found expected : String)
  | wrongLength (length : Nat) (expected : String)
  | unknownVariant (name : String) (choices : List String)
  | missingField (name : String)
  | duplicateField (name : String)
deriving DecidableEq, Inhabited

namespace Misfit

def ticked (name : String) : String := "\x60" ++ name ++ "\x60"

def choiceText : List String → String
  | [] => "there are no variants"
  | [a] => "expected " ++ ticked a
  | [a, b] => "expected " ++ ticked a ++ " or " ++ ticked b
  | names => "expected one of " ++ ", ".intercalate (names.map ticked)

def message : Misfit → String
  | wrongType found expected => "invalid type: " ++ found ++ ", expected " ++ expected
  | wrongValue found expected => "invalid value: " ++ found ++ ", expected " ++ expected
  | wrongLength length expected =>
    "invalid length " ++ toString length ++ ", expected " ++ expected
  | unknownVariant name choices => "unknown variant " ++ ticked name ++ ", " ++ choiceText choices
  | missingField name => "missing field " ++ ticked name
  | duplicateField name => "duplicate field " ++ ticked name

end Misfit

/-! ## Machine words -/

structure WordType where
  name : String
  least : Int
  greatest : Int

namespace WordType

def contains (w : WordType) (n : Int) : Bool := w.least ≤ n && n ≤ w.greatest

def count : WordType := ⟨"usize", 0, 18446744073709551615⟩

def word64 : WordType := ⟨"u64", 0, 18446744073709551615⟩

def word32 : WordType := ⟨"u32", 0, 4294967295⟩

def signed32 : WordType := ⟨"i32", -2147483648, 2147483647⟩

end WordType

def integerText (n : Int) : String := "integer " ++ Misfit.ticked (toString n)

def booleanText (b : Bool) : String :=
  "boolean " ++ Misfit.ticked (if b then "true" else "false")

end CodeSurvey
