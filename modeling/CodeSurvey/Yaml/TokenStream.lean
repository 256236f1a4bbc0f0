import CodeSurvey.Yaml.Scalar
import CodeSurvey.Yaml.Tag

/-!
# Streams of tokens

Tokens are read when they are asked for. A token that may turn out to be a key without a question
mark is kept back until the rest of its line, or a colon, has been seen, for then tokens are put in
before it. Indentation opens and closes blocks outside brackets.
-/

namespace CodeSurvey.Yaml

structure SimpleKey where
  isPossible : Bool
  /-- Nothing but a key may stand there. -/
  isRequired : Bool
  /-- How many tokens of the text come before it. -/
  number : Nat
  mark : Mark
deriving Inhabited

def SimpleKey.none : SimpleKey := ⟨false, false, 0, .start⟩

structure TokenStream where
  /-- The length of the whole text, which bounds how often anything is done. -/
  size : Nat
  cursor : Cursor
  /-- Tokens that have been read but not asked for. -/
  queue : List Token
  /-- How many tokens have been handed over. -/
  taken : Nat
  started : Bool
  simpleKeyAllowed : Bool
  /-- The simple key of each bracket that is open, the innermost first, and of the text around. -/
  simpleKeys : List SimpleKey
  /-- The column of the innermost block; -1 where there is none. -/
  indent : Int
  outerIndents : List Int
deriving Inhabited

namespace TokenStream

def start (text : List Char) : TokenStream :=
  ⟨text.length, .start text, [], 0, false, true, [.none], -1, []⟩

def inFlow (s : TokenStream) : Bool := s.simpleKeys.length > 1

def mark (s : TokenStream) : Mark := s.cursor.mark

def column (s : TokenStream) : Int := s.cursor.column

def enqueue (s : TokenStream) (t : Token) : TokenStream := { s with queue := s.queue ++ [t] }

def insertAt (s : TokenStream) (number : Nat) (t : Token) : TokenStream :=
  { s with queue := s.queue.insertIdx (number - s.taken) t }

def goTo (s : TokenStream) (c : Cursor) : TokenStream := { s with cursor := c }

def allowSimpleKey (s : TokenStream) (allowed : Bool) : TokenStream :=
  { s with simpleKeyAllowed := allowed }

/-! ## Simple keys -/

/-- A simple key ends on its line and within 1024 characters. -/
def isStale (now : Mark) (k : SimpleKey) : Bool :=
  k.isPossible && (k.mark.line < now.line || k.mark.index + 1024 < now.index)

def missingColon (now : Mark) (k : SimpleKey) : Fault :=
  .within .scanSimpleKey k.mark .missingColon now

def dropStale (now : Mark) (k : SimpleKey) : Except Fault SimpleKey :=
  if !isStale now k then .ok k
  else if k.isRequired then .error (missingColon now k)
  else .ok { k with isPossible := false }

def dropStaleKeys (s : TokenStream) : Except Fault TokenStream := do
  let keys ← s.simpleKeys.reverse.mapM (dropStale s.mark)
  return { s with simpleKeys := keys.reverse }

def removeSimpleKey (s : TokenStream) : Except Fault TokenStream :=
  match s.simpleKeys with
  | k :: rest =>
    if k.isPossible && k.isRequired then .error (missingColon s.mark k)
    else .ok { s with simpleKeys := { k with isPossible := false } :: rest }
  | [] => .ok s

/-- Remember that the next token may be a key, where one is allowed. -/
def saveSimpleKey (s : TokenStream) : Except Fault TokenStream := do
  if !s.simpleKeyAllowed then return s
  let key : SimpleKey := ⟨true, !s.inFlow && s.indent == s.column, s.taken + s.queue.length, s.mark⟩
  let s ← s.removeSimpleKey
  return { s with simpleKeys := key :: s.simpleKeys.drop 1 }

/-! ## Indentation -/

/-- Open a block if a column is further in than the block around it. -/
def rollIndent (s : TokenStream) (column : Nat) (number : Option Nat) (kind : TokenKind)
    (mark : Mark) : TokenStream :=
  if s.inFlow || (column : Int) ≤ s.indent then s
  else
    let s := { s with outerIndents := s.indent :: s.outerIndents, indent := column }
    let token : Token := ⟨kind, mark, mark⟩
    match number with
    | none => s.enqueue token
    | some n => s.insertAt n token

def closeBlocks (column : Int) : TokenStream → List Int → TokenStream
  | s, [] => s
  | s, outer :: rest =>
    if s.indent > column then
      closeBlocks column
        { s.enqueue ⟨.blockEnd, s.mark, s.mark⟩ with indent := outer, outerIndents := rest } rest
    else s

def unrollIndent (s : TokenStream) (column : Int) : TokenStream :=
  if s.inFlow then s else closeBlocks column s s.outerIndents

/-! ## Reading tokens -/

def readMark (s : TokenStream) (width : Nat) (kind : TokenKind) : TokenStream :=
  let c := s.cursor.skip width
  (s.enqueue ⟨kind, s.mark, c.mark⟩).goTo c

def readStreamEnd (s : TokenStream) : Except Fault TokenStream := do
  let m := s.mark
  let m := if m.column ≠ 0 then ⟨m.index, m.line + 1, 0⟩ else m
  let s := (s.goTo ⟨s.cursor.rest, m⟩).unrollIndent (-1)
  let s ← s.removeSimpleKey
  return (s.allowSimpleKey false).enqueue ⟨.streamEnd, m, m⟩

def readDirective (s : TokenStream) : Except Fault TokenStream := do
  let s ← (s.unrollIndent (-1)).removeSimpleKey
  let (token, c) ← scanDirective s.cursor
  return ((s.allowSimpleKey false).enqueue token).goTo c

def readDocumentMark (s : TokenStream) (kind : TokenKind) : Except Fault TokenStream := do
  let s ← (s.unrollIndent (-1)).removeSimpleKey
  return (s.allowSimpleKey false).readMark 3 kind

def readFlowStart (s : TokenStream) (kind : TokenKind) : Except Fault TokenStream := do
  let s ← s.saveSimpleKey
  let s := { s with simpleKeys := .none :: s.simpleKeys }
  return (s.allowSimpleKey true).readMark 1 kind

def readFlowEnd (s : TokenStream) (kind : TokenKind) : Except Fault TokenStream := do
  let s ← s.removeSimpleKey
  let s := if s.inFlow then { s with simpleKeys := s.simpleKeys.drop 1 } else s
  return (s.allowSimpleKey false).readMark 1 kind

def readFlowEntry (s : TokenStream) : Except Fault TokenStream := do
  let s ← s.removeSimpleKey
  return (s.allowSimpleKey true).readMark 1 .flowEntry

def startBlock (s : TokenStream) (kind : TokenKind) (problem : Problem) :
    Except Fault TokenStream :=
  if s.inFlow then .ok s
  else if !s.simpleKeyAllowed then .error (.found problem s.mark)
  else .ok (s.rollIndent s.cursor.column none kind s.mark)

def readBlockEntry (s : TokenStream) : Except Fault TokenStream := do
  let s ← s.startBlock .blockSequenceStart .sequenceEntryNotAllowed
  let s ← s.removeSimpleKey
  return (s.allowSimpleKey true).readMark 1 .blockEntry

def readKey (s : TokenStream) : Except Fault TokenStream := do
  let s ← s.startBlock .blockMappingStart .mappingKeyNotAllowed
  let s ← s.removeSimpleKey
  return (s.allowSimpleKey (!s.inFlow)).readMark 1 .key

/-- Read a colon. It makes the simple key a key, or follows a key of several lines. -/
def readValue (s : TokenStream) : Except Fault TokenStream := do
  let k := s.simpleKeys.headD .none
  if k.isPossible then
    let s := s.insertAt k.number ⟨.key, k.mark, k.mark⟩
    let s := s.rollIndent k.mark.column (some k.number) .blockMappingStart k.mark
    let s := { s with simpleKeys := { k with isPossible := false } :: s.simpleKeys.drop 1 }
    return (s.allowSimpleKey false).readMark 1 .value
  let s ← s.startBlock .blockMappingStart .mappingValueNotAllowed
  return (s.allowSimpleKey (!s.inFlow)).readMark 1 .value

def readName (s : TokenStream) (activity : Activity) (kind : List Char → TokenKind) :
    Except Fault TokenStream := do
  let s ← s.saveSimpleKey
  let (name, c) ← scanName activity s.cursor
  return ((s.allowSimpleKey false).enqueue ⟨kind name, s.mark, c.mark⟩).goTo c

def readTag (s : TokenStream) : Except Fault TokenStream := do
  let s ← s.saveSimpleKey
  let (handle, suffix, c) ← scanTag s.inFlow s.cursor
  return ((s.allowSimpleKey false).enqueue ⟨.tag handle suffix, s.mark, c.mark⟩).goTo c

def readBlockScalar (s : TokenStream) (style : ScalarStyle) : Except Fault TokenStream := do
  let s ← s.removeSimpleKey
  let b ← scanBlock (style = .folded) s.indent s.cursor
  return ((s.allowSimpleKey true).enqueue ⟨.scalar style b.text, s.mark, b.stop⟩).goTo b.cursor

def readQuoted (s : TokenStream) (style : ScalarStyle) : Except Fault TokenStream := do
  let s ← s.saveSimpleKey
  let (text, c) ← scanQuoted (style = .singleQuoted) s.cursor
  return ((s.allowSimpleKey false).enqueue ⟨.scalar style text, s.mark, c.mark⟩).goTo c

def readPlain (s : TokenStream) : Except Fault TokenStream := do
  let s ← s.saveSimpleKey
  let p ← scanPlain s.inFlow s.indent s.cursor
  return ((s.allowSimpleKey p.onNewLine).enqueue ⟨.scalar .plain p.text, s.mark, p.stop⟩).goTo
    p.cursor

def startsPlain (inFlow : Bool) (c : Char) (next : Option Char) : Bool :=
  !(isBlank c || isBreak c || ['-', '?', ':', ',', '[', ']', '\x7b', '\x7d', '#', '&', '*', '!', '|',
      '>', '\'', '"', '%', '@', '\x60'].contains c) ||
    (c == '-' && !((next.map isBlank).getD false)) ||
    (!inFlow && (c == '?' || c == ':') && !endsWord next)

def readFrom (s : TokenStream) (c : Char) : Except Fault TokenStream :=
  let next := s.cursor.look 1
  if s.cursor.column = 0 && c == '%' then s.readDirective
  else if s.cursor.atDocumentMark then
    s.readDocumentMark (if c == '-' then .documentStart else .documentEnd)
  else if c == '[' then s.readFlowStart .flowSequenceStart
  else if c == '\x7b' then s.readFlowStart .flowMappingStart
  else if c == ']' then s.readFlowEnd .flowSequenceEnd
  else if c == '\x7d' then s.readFlowEnd .flowMappingEnd
  else if c == ',' then s.readFlowEntry
  else if c == '-' && endsWord next then s.readBlockEntry
  else if c == '?' && (s.inFlow || endsWord next) then s.readKey
  else if c == ':' && (s.inFlow || endsWord next) then s.readValue
  else if c == '*' then s.readName .scanAlias .alias
  else if c == '&' then s.readName .scanAnchor .anchor
  else if c == '!' then s.readTag
  else if c == '|' && !s.inFlow then s.readBlockScalar .literal
  else if c == '>' && !s.inFlow then s.readBlockScalar .folded
  else if c == '\'' then s.readQuoted .singleQuoted
  else if c == '"' then s.readQuoted .doubleQuoted
  else if startsPlain s.inFlow c next then s.readPlain
  else .error (.within .scanToken s.mark .noToken s.mark)

/-- Pass over blanks, comments and line breaks. After a line break a key may follow. Tabs are
passed over only where no key is allowed. -/
def skipToToken : Nat → TokenStream → TokenStream
  | 0, s => s
  | budget + 1, s =>
    let c := s.cursor
    let c := if c.column = 0 && c.sees '\ufeff' then c.skip 1 else c
    let withTabs := s.inFlow || !s.simpleKeyAllowed
    let c := (c.skipWhile fun x => x == ' ' || (withTabs && x == '\t')).skipComment
    if c.seesBreak then
      let s := s.goTo c.skipBreak
      skipToToken budget (if s.inFlow then s else s.allowSimpleKey true)
    else s.goTo c

def readNext (s : TokenStream) : Except Fault TokenStream := do
  if !s.started then
    return { s with started := true, queue := s.queue ++ [⟨.streamStart, s.mark, s.mark⟩] }
  let s := skipToToken (s.size + 1) s
  let s ← s.dropStaleKeys
  let s := s.unrollIndent s.column
  match s.cursor.head with
  | none => s.readStreamEnd
  | some c => s.readFrom c

/-! ## Handing over tokens -/

def headMayBeKey (s : TokenStream) : Bool :=
  s.simpleKeys.any fun k => k.isPossible && k.number == s.taken

def settle : Nat → TokenStream → Except Fault TokenStream
  | 0, s => .ok s
  | budget + 1, s => do
    if s.queue.isEmpty then settle budget (← s.readNext)
    else
      let s ← s.dropStaleKeys
      if s.headMayBeKey then settle budget (← s.readNext) else return s

def peek (s : TokenStream) : Except Fault (Token × TokenStream) := do
  let s ← settle (s.size + 3) s
  return (s.queue.headD ⟨.streamEnd, s.mark, s.mark⟩, s)

def advance (s : TokenStream) : TokenStream :=
  { s with queue := s.queue.drop 1, taken := s.taken + 1 }

end TokenStream
end CodeSurvey.Yaml
