import CodeSurvey.Yaml.Token

/-!
# Anchors, tags and directives

Names that are given to nodes, the tags that tell their type, and the directives before a document
that give a version and handles of tags.
-/

namespace CodeSurvey.Yaml

/-! ## Anchors -/

def mayFollowName (c : Option Char) : Bool :=
  endsWord c ||
    match c with
    | some c => ['?', ':', ',', ']', '\x7d', '%', '@', '\x60'].contains c
    | none => false

def scanName (activity : Activity) (c : Cursor) : Except Fault (List Char × Cursor) :=
  let (name, after) := (c.skip 1).takeWhile isNameChar
  if name.isEmpty || !mayFollowName after.head then
    .error (.within activity c.mark .expectedAlphanumeric after.mark)
  else .ok (name, after)

/-! ## Addresses -/

structure TagContext where
  start : Mark
  inDirective : Bool

namespace TagContext

def fault (t : TagContext) (problem : Problem) (c : Cursor) : Fault :=
  .within (if t.inDirective then .parseTagDirective else .parseTag) t.start problem c.mark

end TagContext

def isUriChar (verbatim : Bool) (c : Char) : Bool :=
  isNameChar c ||
    [';', '/', '?', ':', '@', '&', '=', '+', '$', '.', '%', '!', '~', '*', '\'', '(', ')'].contains c ||
    (verbatim && [',', '[', ']'].contains c)

def readOctet (t : TagContext) (c : Cursor) : Except Fault (Nat × Cursor) :=
  match c.rest with
  | '%' :: a :: b :: _ =>
    match hexValue? a, hexValue? b with
    | some a, some b => .ok (16 * a + b, c.skip 3)
    | _, _ => .error (t.fault .expectedUriEscape c)
  | _ => .error (t.fault .expectedUriEscape c)

def octetCount? (first : Nat) : Option Nat :=
  if first < 0x80 then some 1
  else if 0xc0 ≤ first ∧ first < 0xe0 then some 2
  else if 0xe0 ≤ first ∧ first < 0xf0 then some 3
  else if 0xf0 ≤ first ∧ first < 0xf8 then some 4
  else none

def readTrailing (t : TagContext) : Nat → Cursor → List Nat → Except Fault (List Nat × Cursor)
  | 0, c, octets => .ok (octets, c)
  | n + 1, c, octets => do
    let (octet, after) ← readOctet t c
    if octet < 0x80 ∨ 0xc0 ≤ octet then throw (t.fault .wrongTrailingOctet c)
    readTrailing t n after (octet :: octets)

def readUriEscape (t : TagContext) (c : Cursor) : Except Fault (List Char × Cursor) := do
  let (first, after) ← readOctet t c
  match octetCount? first with
  | none => .error (t.fault .wrongLeadingOctet c)
  | some n =>
    let (octets, c) ← readTrailing t (n - 1) after [first]
    return (octets.map Char.ofNat, c)

/-- Read characters of an address; the last one comes first. -/
def uriChars (t : TagContext) (verbatim : Bool) :
    Nat → Cursor → List Char → Except Fault (List Char × Cursor)
  | 0, c, text => .ok (text, c)
  | budget + 1, c, text =>
    match c.head with
    | none => .ok (text, c)
    | some x =>
      if !isUriChar verbatim x then .ok (text, c)
      else if x == '%' then
        match readUriEscape t c with
        | .ok (escaped, c) => uriChars t verbatim budget c (escaped ++ text)
        | .error fault => .error fault
      else uriChars t verbatim budget (c.skip 1) (x :: text)

/-- Read an address that goes on from a handle without its exclamation mark. It may be empty only
if there is a handle. -/
def scanUri (t : TagContext) (verbatim : Bool) (handle : List Char) (c : Cursor) :
    Except Fault (List Char × Cursor) := do
  let (text, after) ← uriChars t verbatim c.rest.length c []
  if text.isEmpty && handle.isEmpty then throw (t.fault .expectedUri after)
  return (handle.drop 1 ++ text.reverse, after)

/-! ## Tags -/

def scanHandle (t : TagContext) (c : Cursor) : Except Fault (List Char × Cursor) := do
  if !c.sees '!' then
    throw (.within (if t.inDirective then .scanTagDirective else .scanTag) t.start
      .expectedExclamation c.mark)
  let (letters, after) := (c.skip 1).takeWhile isNameChar
  if after.sees '!' then return ('!' :: letters ++ ['!'], after.skip 1)
  if t.inDirective && !letters.isEmpty then
    throw (.within .parseTagHandle t.start .expectedExclamation after.mark)
  return ('!' :: letters, after)

def isWholeHandle (handle : List Char) : Bool := handle.length > 1 && handle.getLast? == some '!'

def scanTagParts (t : TagContext) (c : Cursor) :
    Except Fault (List Char × List Char × Cursor) := do
  if c.look 1 == some '<' then
    let (suffix, c) ← scanUri t true [] (c.skip 2)
    if !c.sees '>' then throw (.within .scanTag t.start .expectedAngle c.mark)
    return ([], suffix, c.skip 1)
  let (handle, c) ← scanHandle t c
  if isWholeHandle handle then
    let (suffix, c) ← scanUri t false [] c
    return (handle, suffix, c)
  let (suffix, c) ← scanUri t false handle c
  if suffix.isEmpty then return ([], ['!'], c)
  return (['!'], suffix, c)

def scanTag (inFlow : Bool) (c : Cursor) : Except Fault (List Char × List Char × Cursor) := do
  let start := c.mark
  let (handle, suffix, c) ← scanTagParts ⟨start, false⟩ c
  if !endsWord c.head && !(inFlow && c.sees ',') then
    throw (.within .scanTag start .expectedSpaceOrBreak c.mark)
  return (handle, suffix, c)

/-! ## Directives -/

def scanVersionNumber (start : Mark) (c : Cursor) : Except Fault (Nat × Cursor) :=
  let (digits, after) := c.takeWhile Char.isDigit
  if digits.length > 9 then .error (.within .scanVersion start .longVersion (c.mark.ahead 9))
  else if digits.isEmpty then .error (.within .scanVersion start .missingVersion c.mark)
  else .ok (digits.foldl (fun n d => 10 * n + (d.toNat - 48)) 0, after)

def scanVersion (start : Mark) (c : Cursor) : Except Fault (TokenKind × Cursor) := do
  let (major, c) ← scanVersionNumber start c.skipBlanks
  if !c.sees '.' then throw (.within .scanVersion start .expectedDigitOrDot c.mark)
  let (minor, c) ← scanVersionNumber start (c.skip 1)
  return (.versionDirective major minor, c)

def scanTagDirective (start : Mark) (c : Cursor) : Except Fault (TokenKind × Cursor) := do
  let t : TagContext := ⟨start, true⟩
  let (handle, c) ← scanHandle t c.skipBlanks
  if !c.seesBlank then throw (.within .scanTagDirective start .expectedSpace c.mark)
  let (head, c) ← scanUri t true [] c.skipBlanks
  if !endsWord c.head then throw (.within .scanTagDirective start .expectedSpaceOrBreak c.mark)
  return (.tagDirective handle head, c)

def scanDirective (c : Cursor) : Except Fault (Token × Cursor) := do
  let start := c.mark
  let fault (problem : Problem) (c : Cursor) : Fault := .within .scanDirective start problem c.mark
  let (name, c) := (c.skip 1).takeWhile isNameChar
  if name.isEmpty then throw (fault .missingDirectiveName c)
  if !endsWord c.head then throw (fault .nonAlphabetical c)
  let (kind, c) ←
    if name = ['Y', 'A', 'M', 'L'] then scanVersion start c
    else if name = ['T', 'A', 'G'] then scanTagDirective start c
    else throw (fault .unknownDirective c)
  let stop := c.mark
  let c := c.skipBlanks.skipComment
  if !endsLine c.head then throw (fault .expectedCommentOrBreak c)
  return (⟨kind, start, stop⟩, c.skipBreak)

end CodeSurvey.Yaml
