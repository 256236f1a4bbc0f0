import CodeSurvey.Yaml.Token

/-!
# Scalars

The three ways to write a scalar: plain, between quotes, and as a block of lines. In the first two
a line break stands for a space, and further breaks for themselves. Text that is being put together
is kept with its last character first.
-/

namespace CodeSurvey.Yaml

/-! ## Folding lines -/

structure Folding where
  text : List Char
  /-- The blanks since then on the same line. -/
  blanks : List Char
  /-- The first line break since then. -/
  firstBreak : List Char
  /-- The line breaks after it. -/
  moreBreaks : List Char
  /-- A line break has been passed since then. -/
  onNewLine : Bool
deriving Inhabited

namespace Folding

def empty : Folding := ⟨[], [], [], [], false⟩

def push (f : Folding) (c : Char) : Folding := { f with text := c :: f.text }

/-- Settle what the blanks stand for: themselves on one line, a space for a single line feed, and
otherwise the line breaks after it. -/
def settle (f : Folding) : Folding :=
  if f.onNewLine then
    if f.firstBreak == ['\n'] then
      ⟨(if f.moreBreaks.isEmpty then [' '] else f.moreBreaks) ++ f.text, f.blanks, [], [], false⟩
    else ⟨f.moreBreaks ++ f.firstBreak ++ f.text, f.blanks, [], [], false⟩
  else ⟨f.blanks ++ f.text, [], f.firstBreak, f.moreBreaks, false⟩

def isSettled (f : Folding) : Bool := !f.onNewLine && f.blanks.isEmpty

def addBlank (f : Folding) (c : Char) : Folding :=
  if f.onNewLine then f else { f with blanks := c :: f.blanks }

def addBreak (f : Folding) (lineBreak : List Char) : Folding :=
  if f.onNewLine then { f with moreBreaks := lineBreak ++ f.moreBreaks }
  else { f with blanks := [], firstBreak := lineBreak, onNewLine := true }

def result (f : Folding) : List Char := f.text.reverse

end Folding

abbrev BlankRule := Cursor → Bool → Option Fault

def foldBlanks (refuse : BlankRule) : Nat → Cursor → Folding → Except Fault (Cursor × Folding)
  | 0, c, f => .ok (c, f)
  | budget + 1, c, f =>
    match c.head with
    | none => .ok (c, f)
    | some x =>
      if isBlank x then
        match refuse c f.onNewLine with
        | some fault => .error fault
        | none => foldBlanks refuse budget (c.skip 1) (f.addBlank x)
      else if isBreak x then
        let (lineBreak, c) := c.readBreak
        foldBlanks refuse budget c (f.addBreak lineBreak)
      else .ok (c, f)

/-! ## Plain scalars -/

def isRefusedAfterColon (c : Option Char) : Bool :=
  match c with
  | some c => [',', '?', '[', ']', '\x7b', '\x7d'].contains c
  | none => false

def endsPlain (inFlow : Bool) (c : Char) (next : Option Char) : Bool :=
  (c == ':' && endsWord next) || (inFlow && [',', '[', ']', '\x7b', '\x7d'].contains c)

def plainWord (inFlow : Bool) (start : Mark) :
    List Char → Mark → Folding → Except Fault (Cursor × Folding)
  | [], m, f => .ok (⟨[], m⟩, f)
  | c :: rest, m, f =>
    if endsWord (some c) then .ok (⟨c :: rest, m⟩, f)
    else if inFlow && c == ':' && isRefusedAfterColon rest.head? then
      .error (.within .scanPlain start .unexpectedColon m)
    else if endsPlain inFlow c rest.head? then .ok (⟨c :: rest, m⟩, f)
    else
      let f := if f.isSettled then f else f.settle
      plainWord inFlow start rest (m.ahead 1) (f.push c)

structure PlainScalar where
  text : List Char
  stop : Mark
  /-- Line breaks follow the scalar. -/
  onNewLine : Bool
  cursor : Cursor

/-- Tabs may not stand for indentation. -/
def plainBlankRule (start : Mark) (indent : Int) : BlankRule := fun c onNewLine =>
  if onNewLine && (c.column : Int) < indent && c.sees '\t' then
    some (.within .scanPlain start .tabViolatesIndentation c.mark)
  else none

def plainLines (inFlow : Bool) (start : Mark) (indent : Int) :
    Nat → Cursor → Folding → Mark → Except Fault PlainScalar
  | 0, c, f, stop => .ok ⟨f.result, stop, f.onNewLine, c⟩
  | budget + 1, c, f, stop => do
    if c.atDocumentMark || c.sees '#' then return ⟨f.result, stop, f.onNewLine, c⟩
    let (after, f) ← plainWord inFlow start c.rest c.mark f
    let stop := if after.mark.index = c.mark.index then stop else after.mark
    if !(after.seesBlank || after.seesBreak) then return ⟨f.result, stop, f.onNewLine, after⟩
    let (c, f) ← foldBlanks (plainBlankRule start indent) budget after f
    if !inFlow && (c.column : Int) < indent then return ⟨f.result, stop, f.onNewLine, c⟩
    plainLines inFlow start indent budget c f stop

def scanPlain (inFlow : Bool) (indent : Int) (c : Cursor) : Except Fault PlainScalar :=
  plainLines inFlow c.mark (indent + 1) (c.rest.length + 1) c .empty c.mark

/-! ## Quoted scalars -/

def simpleEscape? : Char → Option Char
  | '0' => some '\x00'
  | 'a' => some '\x07'
  | 'b' => some '\x08'
  | 't' => some '\t'
  | '\t' => some '\t'
  | 'n' => some '\n'
  | 'v' => some '\x0b'
  | 'f' => some '\x0c'
  | 'r' => some '\r'
  | 'e' => some '\x1b'
  | ' ' => some ' '
  | '"' => some '"'
  | '/' => some '/'
  | '\\' => some '\\'
  | 'N' => some '\u0085'
  | '_' => some '\u00a0'
  | 'L' => some '\u2028'
  | 'P' => some '\u2029'
  | _ => none

def escapeWidth? : Char → Option Nat
  | 'x' => some 2
  | 'u' => some 4
  | 'U' => some 8
  | _ => none

def hexNumber? (digits : List Char) : Option Nat :=
  (digits.mapM hexValue?).map fun values => values.foldl (fun n d => 16 * n + d) 0

/-- The character that an escape stands for, and how many characters the escape takes. -/
def readEscape (start : Mark) (c : Cursor) : Except Fault (Char × Nat) :=
  let fault (problem : Problem) (m : Mark) : Fault := .within .parseQuoted start problem m
  match c.look 1 with
  | none => .error (fault .unknownEscape c.mark)
  | some x =>
    match simpleEscape? x, escapeWidth? x with
    | some y, _ => .ok (y, 2)
    | none, none => .error (fault .unknownEscape c.mark)
    | none, some width =>
      let digits := (c.rest.drop 2).take width
      match hexNumber? digits with
      | none => .error (fault .expectedHexadecimal (c.mark.ahead 2))
      | some n =>
        if digits.length < width then .error (fault .expectedHexadecimal (c.mark.ahead 2))
        else if n.isValidChar then .ok (Char.ofNat n, 2 + width)
        else .error (fault .invalidEscapeCode (c.mark.ahead 2))

def quotedWord (single : Bool) (start : Mark) :
    Nat → Cursor → Folding → Except Fault (Cursor × Folding)
  | 0, c, f => .ok (c, f)
  | budget + 1, c, f =>
    match c.rest with
    | [] => .ok (c, f)
    | x :: rest =>
      if endsWord (some x) then .ok (c, f)
      else if single then
        if x == '\'' then
          if rest.head? == some '\'' then quotedWord single start budget (c.skip 2) (f.push '\'')
          else .ok (c, f)
        else quotedWord single start budget (c.skip 1) (f.push x)
      else if x == '"' then .ok (c, f)
      else if x == '\\' then
        if (rest.head?.map isBreak).getD false then
          .ok ((c.skip 1).skipBreak, { f with onNewLine := true })
        else
          match readEscape start c with
          | .ok (y, width) => quotedWord single start budget (c.skip width) (f.push y)
          | .error fault => .error fault
      else quotedWord single start budget (c.skip 1) (f.push x)

def quotedLines (single : Bool) (start : Mark) :
    Nat → Cursor → Folding → Except Fault (List Char × Cursor)
  | 0, c, f => .ok (f.result, c)
  | budget + 1, c, f => do
    if c.atDocumentMark then throw (.within .scanQuoted start .unexpectedDocumentMark c.mark)
    if c.isAtEnd then throw (.within .scanQuoted start .unexpectedEnd c.mark)
    let (c, f) ← quotedWord single start budget c f
    if c.sees (if single then '\'' else '"') then return (f.result, c.skip 1)
    let (c, f) ← foldBlanks (fun _ _ => none) budget c f
    quotedLines single start budget c f.settle

def scanQuoted (single : Bool) (c : Cursor) : Except Fault (List Char × Cursor) :=
  quotedLines single c.mark (c.rest.length + 1) (c.skip 1) .empty

/-! ## Block scalars -/

inductive Chomping where
  | strip
  | clip
  | keep
deriving DecidableEq

def chomping? : Option Char → Option Chomping
  | some '+' => some .keep
  | some '-' => some .strip
  | _ => none

def readIncrement (start : Mark) (c : Cursor) : Except Fault (Nat × Cursor) :=
  match c.head with
  | some x =>
    if x == '0' then .error (.within .scanBlock start .zeroIndentation c.mark)
    else if x.isDigit then .ok (x.toNat - 48, c.skip 1)
    else .ok (0, c)
  | none => .ok (0, c)

def readBlockHeader (start : Mark) (c : Cursor) : Except Fault (Chomping × Nat × Cursor) := do
  match chomping? c.head with
  | some chomping =>
    let (increment, c) ← readIncrement start (c.skip 1)
    return (chomping, increment, c)
  | none =>
    let (increment, c) ← readIncrement start c
    if increment = 0 then return (.clip, 0, c)
    match chomping? c.head with
    | some chomping => return (chomping, increment, c.skip 1)
    | none => return (.clip, increment, c)

/-- The lines between two lines of a block, with nothing but indentation on them. -/
structure BlockGap where
  breaks : List Char
  /-- The greatest indentation seen. -/
  width : Nat
  stop : Mark
  cursor : Cursor

/-- Pass over spaces up to an indentation, or over all of them if it is not known. -/
def skipIndentation (indent : Nat) (c : Cursor) : Cursor :=
  let spaces := (c.rest.takeWhile (· == ' ')).length
  c.skip (if indent = 0 then spaces else min spaces (indent - c.column))

def blockBreaks (start : Mark) (indent : Nat) :
    Nat → Cursor → List Char → Nat → Mark → Except Fault BlockGap
  | 0, c, breaks, width, stop => .ok ⟨breaks, width, stop, c⟩
  | budget + 1, c, breaks, width, stop => do
    let c := skipIndentation indent c
    let width := max width c.column
    if (indent = 0 || c.column < indent) && c.sees '\t' then
      throw (.within .scanBlock start .tabForIndentation c.mark)
    if !c.seesBreak then return ⟨breaks, width, stop, c⟩
    let (lineBreak, c) := c.readBreak
    blockBreaks start indent budget c (lineBreak ++ breaks) width c.mark

structure BlockText where
  text : List Char
  lastBreak : List Char
  moreBreaks : List Char
  /-- The last line started with a blank. -/
  afterBlank : Bool
  stop : Mark
  cursor : Cursor

/-- What the line breaks before a further line stand for: in folded blocks a single one is a space,
unless one of the lines around it starts with a blank. -/
def BlockText.joint (b : BlockText) (folded beforeBlank : Bool) : List Char :=
  if folded && b.lastBreak == ['\n'] && !b.afterBlank && !beforeBlank then
    b.moreBreaks ++ if b.moreBreaks.isEmpty then [' '] else []
  else b.moreBreaks ++ b.lastBreak

def blockLines (folded : Bool) (start : Mark) (indent : Nat) :
    Nat → BlockText → Except Fault BlockText
  | 0, b => .ok b
  | budget + 1, b => do
    let c := b.cursor
    if c.column ≠ indent || c.isAtEnd then return b
    let beforeBlank := c.seesBlank
    let joint := b.joint folded beforeBlank
    let (line, c) := c.takeWhile fun x => !isBreak x
    let (lastBreak, c) := c.readBreak
    let gap ← blockBreaks start indent budget c [] 0 c.mark
    blockLines folded start indent budget
      ⟨line.reverse ++ joint ++ b.text, lastBreak, gap.breaks, beforeBlank, gap.stop, gap.cursor⟩

structure BlockScalar where
  text : List Char
  stop : Mark
  cursor : Cursor

def scanBlock (folded : Bool) (blockIndent : Int) (c : Cursor) : Except Fault BlockScalar := do
  let start := c.mark
  let (chomping, increment, c) ← readBlockHeader start (c.skip 1)
  let c := c.skipBlanks.skipComment
  if !endsLine c.head then throw (.within .scanBlock start .expectedCommentOrBreak c.mark)
  let c := c.skipBreak
  let given := if increment = 0 then 0 else (max blockIndent 0).toNat + increment
  let gap ← blockBreaks start given (c.rest.length + 1) c [] 0 c.mark
  let indent := if given = 0 then max (max gap.width (blockIndent + 1).toNat) 1 else given
  let b ← blockLines folded start indent (gap.cursor.rest.length + 1)
    ⟨[], [], gap.breaks, false, gap.stop, gap.cursor⟩
  let tail := match chomping with
    | .strip => []
    | .clip => b.lastBreak
    | .keep => b.moreBreaks ++ b.lastBreak
  return ⟨(tail ++ b.text).reverse, b.stop, b.cursor⟩

end CodeSurvey.Yaml
