import CodeSurvey.Data.Double

/-!
# Plain values

What a plain scalar says: nothing, a truth value, a number or text. Numbers may be written to the
bases 16, 8 and 2; digits after a leading zero are no number.
-/

namespace CodeSurvey.Yaml

def nullWords : List String := ["null", "Null", "NULL", "~"]

def isNull (text : String) : Bool := nullWords.contains text

def readBoolean? (text : String) : Option Bool :=
  if ["true", "True", "TRUE"].contains text then some true
  else if ["false", "False", "FALSE"].contains text then some false
  else none

/-! ## Whole numbers -/

def digitValue? (base : Nat) (c : Char) : Option Nat :=
  let n :=
    if c.isDigit then c.toNat - 48
    else if c.isLower then c.toNat - 87
    else if c.isUpper then c.toNat - 55
    else base
  if n < base then some n else none

def readDigits? (base : Nat) (digits : List Char) : Option Nat :=
  if digits.isEmpty then none
  else (digits.mapM (digitValue? base)).map fun values => values.foldl (fun n d => base * n + d) 0

def isSign (c : Char) : Bool := c == '+' || c == '-'

def startsWithSign (text : List Char) : Bool := (text.head?.map isSign).getD false

def readSigned? (base : Nat) : List Char → Option Int
  | '+' :: digits => (readDigits? base digits).map Int.ofNat
  | '-' :: digits => (readDigits? base digits).map fun n => -(n : Int)
  | digits => (readDigits? base digits).map Int.ofNat

/-- More than one digit, the first of them a zero, with or without a sign. -/
def hasLeadingZero (text : List Char) : Bool :=
  match if startsWithSign text then text.drop 1 else text with
  | '0' :: d :: rest => (d :: rest).all Char.isDigit
  | _ => false

def withoutPlus : List Char → List Char
  | '+' :: rest => rest
  | text => text

def basePart? : List Char → Option (Nat × List Char)
  | '0' :: 'x' :: rest => some (16, rest)
  | '0' :: 'o' :: rest => some (8, rest)
  | '0' :: 'b' :: rest => some (2, rest)
  | _ => none

structure Bounds where
  least : Int
  greatest : Int

def Bounds.check (b : Bounds) (n : Option Int) : Option Int :=
  n.filter fun n => b.least ≤ n && n ≤ b.greatest

def readUnsigned? (b : Bounds) (text : List Char) : Option Int :=
  let body := withoutPlus text
  match basePart? body with
  | some (base, digits) => b.check ((readDigits? base digits).map Int.ofNat)
  | none =>
    if startsWithSign body || hasLeadingZero text then none
    else b.check ((readDigits? 10 body).map Int.ofNat)

def readNegative? (b : Bounds) (text : List Char) : Option Int :=
  match text with
  | '-' :: body =>
    match basePart? body with
    | some (base, digits) => b.check ((readDigits? base digits).map fun n => -(n : Int))
    | none => if hasLeadingZero text then none else b.check (readSigned? 10 text)
  | _ => if hasLeadingZero text then none else b.check (readSigned? 10 text)

def readEither? (b : Bounds) (text : List Char) : Option Int :=
  match text with
  | '+' :: body => if startsWithSign body then none else readUnsigned? b text
  | '-' :: _ => readNegative? b text
  | _ => readUnsigned? b text

def unsigned64 : Bounds := ⟨0, Int.pow 2 64 - 1⟩

def signed64 : Bounds := ⟨-Int.pow 2 63, Int.pow 2 63 - 1⟩

def unsigned128 : Bounds := ⟨0, Int.pow 2 128 - 1⟩

def signed128 : Bounds := ⟨-Int.pow 2 127, Int.pow 2 127 - 1⟩

/-! ## Fractions -/

def readExponent? : List Char → Option Int
  | [] => some 0
  | c :: rest => if c == 'e' || c == 'E' then readSigned? 10 rest else none

/-- A decimal: digits, a point and an exponent, with at least one digit before the exponent. -/
def readDecimal? (text : List Char) : Option Double :=
  let negative := text.head? == some '-'
  let body := if startsWithSign text then text.drop 1 else text
  let whole := body.takeWhile Char.isDigit
  let rest := body.drop whole.length
  let hasPoint := rest.head? == some '.'
  let places := if hasPoint then (rest.drop 1).takeWhile Char.isDigit else []
  let rest := if hasPoint then rest.drop (1 + places.length) else rest
  match readDigits? 10 (whole ++ places), readExponent? rest with
  | some digits, some exponent =>
    some (.ofDecimal negative digits (exponent - (places.length : Int)))
  | _, _ => none

def readFloat? (text : List Char) : Option Double :=
  let body := withoutPlus text
  if body.length < text.length && startsWithSign body then none
  else if [".inf", ".Inf", ".INF"].contains (String.ofList body) then some (.infinity false)
  else if ["-.inf", "-.Inf", "-.INF"].contains (String.ofList text) then some (.infinity true)
  else if [".nan", ".NaN", ".NAN"].contains (String.ofList text) then some .nan
  else
    match readDecimal? body with
    | some (.finite negative mantissa exponent) => some (.finite negative mantissa exponent)
    | _ => none

/-! ## Values -/

inductive PlainValue where
  | nothing
  | boolean (b : Bool)
  | integer (n : Int)
  /-- A whole number of more than 64 binary digits, and the name of its word type. -/
  | wide (n : Int) (word : String)
  | decimal (d : Double)
  | text (s : String)
deriving Inhabited

def readInteger? (text : List Char) : Option PlainValue :=
  ((readUnsigned? unsigned64 text).map .integer).or
    (((readNegative? signed64 text).map .integer).or
      (((readUnsigned? unsigned128 text).map fun n => .wide n "u128").or
        ((readNegative? signed128 text).map fun n => .wide n "i128")))

def readPlain (text : String) : PlainValue :=
  if text.isEmpty || isNull text then .nothing
  else
    match readBoolean? text with
    | some b => .boolean b
    | none =>
      match readInteger? text.toList with
      | some v => v
      | none =>
        if hasLeadingZero text.toList then .text text
        else ((readFloat? text.toList).map PlainValue.decimal).getD (.text text)

end CodeSurvey.Yaml
