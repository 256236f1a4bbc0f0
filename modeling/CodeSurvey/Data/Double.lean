/-!
# Double precision numbers

Numbers of 53 binary digits, read from decimals by rounding to the nearest and written with the
fewest decimal digits that read back. All arithmetic is exact.
-/

namespace CodeSurvey

/-- A finite number is its mantissa times a power of two. -/
inductive Double where
  | finite (negative : Bool) (mantissa : Nat) (exponent : Int)
  | infinity (negative : Bool)
  | nan
deriving DecidableEq, Inhabited

namespace Double

/-- The quotient rounded to the nearest whole number, a half to the even one. -/
def roundedQuotient (a b : Nat) : Nat :=
  let q := a / b
  let twice := 2 * (a % b)
  if twice > b ∨ (twice = b ∧ q % 2 = 1) then q + 1 else q

def scaleTwo (fraction : Nat × Nat) (power : Int) : Nat × Nat :=
  if power ≥ 0 then (fraction.1 * Nat.pow 2 power.toNat, fraction.2)
  else (fraction.1, fraction.2 * Nat.pow 2 (-power).toNat)

def scaleTen (fraction : Nat × Nat) (power : Int) : Nat × Nat :=
  if power ≥ 0 then (fraction.1 * Nat.pow 10 power.toNat, fraction.2)
  else (fraction.1, fraction.2 * Nat.pow 10 (-power).toNat)

def leastExponent : Int := -1074

def greatestExponent : Int := 971

def binaryOrder (fraction : Nat × Nat) : Int :=
  let guess : Int := (fraction.1.log2 : Int) - fraction.2.log2
  let (a, b) := scaleTwo fraction (-guess)
  if b ≤ a then guess else guess - 1

def ofFraction (negative : Bool) (fraction : Nat × Nat) : Double :=
  let exponent := max leastExponent (binaryOrder fraction - 52)
  let (a, b) := scaleTwo fraction (-exponent)
  let mantissa := roundedQuotient a b
  let (mantissa, exponent) :=
    if mantissa = Nat.pow 2 53 then (Nat.pow 2 52, exponent + 1) else (mantissa, exponent)
  if exponent > greatestExponent then infinity negative else finite negative mantissa exponent

def digitCount (n : Nat) : Nat := (Nat.toDigits 10 n).length

def ofDecimal (negative : Bool) (digits : Nat) (power : Int) : Double :=
  let order := (digitCount digits : Int) + power
  if digits = 0 ∨ order < -330 then finite negative 0 leastExponent
  else if order > 310 then infinity negative
  else ofFraction negative (scaleTen (digits, 1) power)

/-! ## The shortest decimal -/

def decimalOrder (fraction : Nat × Nat) : Int :=
  if fraction.2 ≤ fraction.1 then digitCount (fraction.1 / fraction.2) - 1
  else -(digitCount (fraction.2 / fraction.1) : Int)

/-- The numbers that read as a given positive double, bounds in quarters of its last binary digit. -/
structure Neighbourhood where
  low : Nat
  high : Nat
  closed : Bool

def neighbourhood (mantissa : Nat) (exponent : Int) : Neighbourhood where
  low := 4 * mantissa - (if mantissa = Nat.pow 2 52 ∧ exponent > leastExponent then 1 else 2)
  high := 4 * mantissa + 2
  closed := mantissa % 2 = 0

/-- Whether a fraction, in quarters of the last binary digit, lies in the neighbourhood. -/
def Neighbourhood.contains (n : Neighbourhood) (fraction : Nat × Nat) : Bool :=
  let (a, b) := fraction
  if n.closed then n.low * b ≤ a && a ≤ n.high * b else n.low * b < a && a < n.high * b

/-- The two points around a positive double on the grid of a power of ten, the nearer first. -/
def gridPoints (mantissa : Nat) (exponent power : Int) : List Nat :=
  let (a, b) := scaleTen (scaleTwo (mantissa, 1) exponent) (-power)
  let floor := a / b
  if 2 * (a % b) > b ∨ (2 * (a % b) = b ∧ floor % 2 = 1) then [floor + 1, floor]
  else [floor, floor + 1]

/-- The decimal on the grid of a power of ten that reads as a positive double. -/
def onGrid? (mantissa : Nat) (exponent power : Int) : Option Nat :=
  (gridPoints mantissa exponent power).find? fun point =>
    (neighbourhood mantissa exponent).contains (scaleTwo (scaleTen (point, 1) power) (2 - exponent))

/-- The fewest digits, and the power of ten they are to be multiplied by, that read as a positive
double. Seventeen digits are always enough. -/
def shortest (mantissa : Nat) (exponent : Int) : Nat × Int :=
  let order := decimalOrder (scaleTwo (mantissa, 1) exponent)
  ((List.range 17).findSome? fun (n : Nat) =>
    let power := order - n
    (onGrid? mantissa exponent power).map fun digits => (digits, power)).getD (mantissa, 0)

/-! ## Text -/

/-- Which decimal orders are written without an exponent; none stands for all of them. -/
structure Layout where
  positional : Option (Int × Int)

def zeros (n : Nat) : List Char := List.replicate n '0'

/-- Digits with the point after the one of order zero, and always one digit behind it. -/
def positionalText (digits : List Char) (order : Int) : List Char :=
  if order < 0 then ['0', '.'] ++ zeros (-order - 1).toNat ++ digits
  else
    let width := order.toNat + 1
    if digits.length ≤ width then digits ++ zeros (width - digits.length) ++ ['.', '0']
    else digits.take width ++ ['.'] ++ digits.drop width

def exponentText (digits : List Char) (order : Int) : List Char :=
  let mark := if order < 0 then ['e', '-'] else ['e', '+']
  let whole := digits.take 1
  let rest := digits.drop 1
  whole ++ (if rest.isEmpty then [] else '.' :: rest) ++ mark ++ Nat.toDigits 10 order.natAbs

def Layout.isPositional (l : Layout) (order : Int) : Bool :=
  match l.positional with
  | none => true
  | some (low, high) => low ≤ order && order ≤ high

def sign (negative : Bool) : String := if negative then "-" else ""

def significant (digits : Nat) : List Char :=
  ((Nat.toDigits 10 digits).reverse.dropWhile (· == '0')).reverse

def write (l : Layout) : Double → String
  | nan => "NaN"
  | infinity negative => sign negative ++ "inf"
  | finite negative mantissa exponent =>
    if mantissa = 0 then sign negative ++ "0.0"
    else
      let (digits, power) := shortest mantissa exponent
      let order := (digitCount digits : Int) - 1 + power
      sign negative ++ String.ofList (
        if l.isPositional order then positionalText (significant digits) order
        else exponentText (significant digits) order)

end Double
end CodeSurvey
