import CodeSurvey.Text.AlphanumericTable
import CodeSurvey.Text.WordTable

/-!
# Classes of characters

Word characters bound words; white space separates and is trimmed; alphanumeric characters are
those of names. The classes cover all of Unicode.
-/

namespace CodeSurvey.Text

def isWord (c : Char) : Bool :=
  if c.toNat < 0x80 then c.isAlphanum || c == '_' else wordTable.contains c

def isAlphanumeric (c : Char) : Bool :=
  if c.toNat < 0x80 then c.isAlphanum else alphanumericTable.contains c

def isSpace (c : Char) : Bool :=
  let n := c.toNat
  (9 ≤ n && n ≤ 13) || n = 0x20 || n = 0x85 || n = 0xa0 || n = 0x1680 ||
    (0x2000 ≤ n && n ≤ 0x200a) || n = 0x2028 || n = 0x2029 || n = 0x202f || n = 0x205f || n = 0x3000

/-- Whether a lower case ASCII letter equals a character but for case. Two letters have a form
outside ASCII: the long s and the sign of kelvin. -/
def sameLetter (letter c : Char) : Bool :=
  c.toLower == letter || (letter == 's' && c == '\u017f') || (letter == 'k' && c == '\u212a')

def toLower (c : Char) : Char := if c = '\u212a' then 'k' else c.toLower

def trimChars (text : List Char) : List Char :=
  ((text.dropWhile isSpace).reverse.dropWhile isSpace).reverse

def trim (text : String) : String := String.ofList (trimChars text.toList)

end CodeSurvey.Text
