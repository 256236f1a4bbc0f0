import CodeSurvey.Parsing.Lexicon
import CodeSurvey.Script.Grammar

/-!
# The text of script tokens

Names may hold any character that is neither blank, control nor ASCII punctuation, and unicode
escapes. String fragments, escapes, patterns and flags follow directly on what comes before them.
-/

namespace CodeSurvey.Script
open Parsing Parsing.TokenPattern

def isLineBlank (c : Char) : Bool := c = ' ' || ('\t' ≤ c && c ≤ '\x0d')

def isSpaceSeparator (c : Char) : Bool :=
  let n := c.toNat
  n = 0x20 || n = 0xa0 || n = 0x1680 || (0x2000 ≤ n && n ≤ 0x200a) || n = 0x202f || n = 0x205f ||
    n = 0x3000

def isBlank (c : Char) : Bool :=
  isLineBlank c || isSpaceSeparator c ||
    [0xfeff, 0x2028, 0x2029, 0x2060, 0x200b].contains c.toNat

def isNamePart (c : Char) : Bool :=
  !(c.toNat ≤ 0x1f || (isBlank c && c.toNat ≠ 0x200b) ||
    ":;`\"'@#.,|^&<=>+-*/\\%?!~()[]\x7b\x7d".toList.contains c)

def isNameStart (c : Char) : Bool := isNamePart c && !c.isDigit

/-! ## Shared parts -/

def digit : TokenPattern := char Char.isDigit

def hexDigit : TokenPattern :=
  char fun c => c.isDigit || ('a' ≤ c && c ≤ 'f') || ('A' ≤ c && c ≤ 'F')

def octalDigit : TokenPattern := char fun c => '0' ≤ c && c ≤ '7'

def unicodeEscape : TokenPattern := any [
  all [exactly "\\u", times hexDigit 4 0],
  all [exactly "\\u\x7b", atLeastOnce hexDigit, exactly "\x7d"]]

def name : TokenPattern := all [
  any [char isNameStart, unicodeEscape], many (any [char isNamePart, unicodeEscape])]

def grouped (d : TokenPattern) : TokenPattern :=
  all [d, many (all [optional (exactly "_"), d])]

def number : TokenPattern :=
  let decimal := grouped digit
  let hex := all [oneOf "0", oneOf "xX", grouped hexDigit]
  let binary := all [oneOf "0", oneOf "bB", grouped (oneOf "01")]
  let octal := all [oneOf "0", oneOf "oO", grouped octalDigit]
  let exponent := all [oneOf "eE", optional (oneOf "-+"), decimal]
  let whole := any [
    exactly "0",
    all [optional (exactly "0"), oneOf "123456789",
      optional (all [optional (exactly "_"), decimal])]]
  any [
    hex, binary, octal, decimal,
    all [whole, exactly ".", optional decimal, optional exponent],
    all [exactly ".", decimal, optional exponent],
    all [whole, exponent],
    all [any [hex, binary, octal, decimal], exactly "n"]]

/-- Text in a JSX attribute: an ampersand is part of it unless it could start a reference. -/
def jsxFragment (quote : String) : TokenPattern := atLeastOnce (any [
  noneOf (quote ++ "&"), all [exactly "&", char fun c => !(c.isAlpha || c == '#')]])

def lineEnds : String := "\r\n\u2028\u2029"

def comment : TokenPattern :=
  let body := many (noneOf "*")
  let stars := atLeastOnce (exactly "*")
  any [
    all [exactly "//", many (noneOf lineEnds)],
    all [exactly "/*", body, stars, many (all [noneOf "/*", body, stars]), exactly "/"]]

def escape : TokenPattern := all [exactly "\\", any [
  noneOf "xu01234567",
  times octalDigit 1 2,
  all [exactly "x", times hexDigit 2 0],
  all [exactly "u", times hexDigit 4 0],
  all [exactly "u\x7b", atLeastOnce hexDigit, exactly "\x7d"],
  all [oneOf "\r?", oneOf "\n\u2028\u2029"]]]

def patternBody : TokenPattern :=
  let escaped := all [exactly "\\", noneOf "\n"]
  atLeastOnce (any [
    all [exactly "[", many (any [escaped, noneOf "]\n\\"]), exactly "]"],
    escaped,
    noneOf "/\\[\n"])

def characterReference : TokenPattern := all [
  exactly "&",
  any [
    all [exactly "#", any [all [oneOf "xX", times hexDigit 1 5], times digit 1 4]],
    times (char Char.isAlpha) 1 29],
  exactly ";"]

def jsxName : TokenPattern :=
  let isPart := fun (c : Char) => c.isAlphanum || c == '_' || c == '$'
  all [
    char fun c => isPart c && !c.isDigit, many (char isPart), exactly "-",
    many (char fun c => isPart c || c == '-')]

/-! ## The forms -/

def form? (t : Token) : Option TokenForm :=
  let free := fun p => some (TokenForm.mk p 0 0 false)
  let adjacent := fun p rank => some (TokenForm.mk p rank 1 true)
  match t.literal with
  | some text => some ⟨exactly text, 0, 2, false⟩
  | none => match t.name with
    | "identifier" => free name
    | "private_property_identifier" => free (all [exactly "#", name])
    | "number" => free number
    | "comment" => free comment
    | "hash_bang_line" => free (all [exactly "#!", many (noneOf "\n")])
    | "html_character_reference" => free characterReference
    | "jsx_identifier" => free jsxName
    | "static_get" => free (all [
        exactly "static", atLeastOnce (char isLineBlank), exactly "get",
        many (char isLineBlank), exactly "\n"])
    | "jsx_double_fragment" => adjacent (jsxFragment "\"") 1
    | "jsx_single_fragment" => adjacent (jsxFragment "'") 1
    | "double_fragment" => adjacent (atLeastOnce (noneOf "\"\\\r\n")) 1
    | "single_fragment" => adjacent (atLeastOnce (noneOf "'\\\r\n")) 1
    | "escape_sequence" => adjacent escape 0
    | "regex_pattern" => adjacent patternBody (-1)
    | "regex_flags" => adjacent (atLeastOnce (char Char.isLower)) 0
    | "regex_end" => some ⟨exactly "/", 1, 3, true⟩
    | _ => none

def lexicon : Lexicon where
  forms := grammar.tokens.zipIdx.filterMap fun (t, i) => (form? t).map (Prod.mk i)
  endOfText := grammar.tokens.length
  isBlank := isBlank

end CodeSurvey.Script
