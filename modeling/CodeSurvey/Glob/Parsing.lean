/-!
# Globs

Patterns over paths. `?` stands for one byte and `*` for any bytes, separators included; `**` as a
whole component stands for any components; `[` and `]` hold a class of characters; braces hold
alternatives, which may have alternatives of their own; a backslash takes away the meaning of what
follows it.
-/

namespace CodeSurvey

inductive GlobPart where
  | literal (c : Char)
  | anyByte
  | anyBytes
  /-- Any directories at the start of a path. -/
  | leading
  /-- A separator, and any components that follow. -/
  | trailing
  /-- A separator, or two with any components between them. -/
  | between
  | oneOf (negated : Bool) (ranges : List (Char × Char))
  | alternatives (choices : List (List GlobPart))
deriving Inhabited

inductive GlobError where
  | unclosedClass
  | invalidRange (first last : Char)
  | unopenedGroup
  | unclosedGroup
  | danglingEscape
deriving DecidableEq, Inhabited

namespace GlobError

def message : GlobError → String
  | unclosedClass => "unclosed character class; missing ']'"
  | invalidRange first last =>
    "invalid range; '" ++ String.singleton first ++ "' > '" ++ String.singleton last ++ "'"
  | unopenedGroup =>
    "unopened alternate group; missing '\x7b' (maybe escape '\x7d' with '[\x7d]'?)"
  | unclosedGroup =>
    "unclosed alternate group; missing '\x7d' (maybe escape '\x7b' with '[\x7b]'?)"
  | danglingEscape => "dangling '\\'"

end GlobError

namespace Glob

/-! ## Classes of characters -/

structure OpenClass where
  negated : Bool
  /-- Nothing has been read since the bracket that opened the class. -/
  atStart : Bool
  /-- A closing bracket would stand for itself. -/
  isEmpty : Bool
  /-- The last range first. -/
  ranges : List (Char × Char)
  /-- The last range waits for its end. -/
  inRange : Bool

namespace OpenClass

def start : OpenClass := ⟨false, true, true, [], false⟩

def close (k : OpenClass) : GlobPart :=
  .oneOf k.negated (if k.inRange then ('-', '-') :: k.ranges else k.ranges).reverse

def add (k : OpenClass) (c : Char) : Except GlobError OpenClass :=
  let k := { k with atStart := false, isEmpty := false }
  match k.inRange, k.ranges with
  | true, (first, _) :: ranges =>
    if c < first then .error (.invalidRange first c)
    else .ok { k with ranges := (first, c) :: ranges, inRange := false }
  | _, ranges => .ok { k with ranges := (c, c) :: ranges, inRange := false }

def read (k : OpenClass) (c : Char) : Except GlobError OpenClass :=
  if k.atStart && (c == '!' || c == '^') then .ok { k with negated := true, atStart := false }
  else if c == '-' && !k.isEmpty && !k.inRange then .ok { k with inRange := true }
  else k.add c

def isClosedBy (k : OpenClass) (c : Char) : Bool := c == ']' && !k.isEmpty

end OpenClass

/-! ## Groups -/

/-- The pieces read so far. Pieces and choices are listed with the last one first. -/
structure Draft where
  /-- The choice that is being read. -/
  current : List GlobPart
  /-- The choices before it in its group. -/
  choices : List (List GlobPart)
  /-- Where the groups around it were left. -/
  outer : List (List GlobPart × List (List GlobPart))

namespace Draft

def empty : Draft := ⟨[], [], []⟩

def inGroup (d : Draft) : Bool := !d.outer.isEmpty

def push (d : Draft) (p : GlobPart) : Draft := { d with current := p :: d.current }

def openGroup (d : Draft) : Draft := ⟨[], [], (d.current, d.choices) :: d.outer⟩

def nextChoice (d : Draft) : Draft :=
  { d with current := [], choices := d.current.reverse :: d.choices }

def closeGroup (d : Draft) : Except GlobError Draft :=
  match d.outer with
  | [] => .error .unopenedGroup
  | (current, choices) :: outer =>
    let group := .alternatives (d.current.reverse :: d.choices).reverse
    .ok ⟨group :: current, choices, outer⟩

def finish (d : Draft) : Except GlobError (List GlobPart) :=
  if d.inGroup then .error .unclosedGroup else .ok d.current.reverse

end Draft

/-! ## Double stars -/

def isSeparator (c : Char) : Bool := c == '/'

inductive DoubleStar where
  /-- No whole component: the same as one star, or two. -/
  | plain
  | leading
  | trailing
  | between
deriving DecidableEq

/-- Two stars are a component where separators or ends of a choice stand on both sides. -/
def doubleStar (d : Draft) (previous next : Option Char) : DoubleStar :=
  let beforeSeparator := (next.map isSeparator).getD false
  if d.current.isEmpty then
    if next.isNone || beforeSeparator then .leading else .plain
  else if !((previous.map isSeparator).getD false) &&
      !(d.inGroup && (previous == some ',' || previous == some '\x7b')) then .plain
  else if next.isNone || (d.inGroup && (next == some ',' || next == some '\x7d')) then .trailing
  else if beforeSeparator then .between
  else .plain

/-- Put a component of two stars in place of the separator before it. Beside one that is there
already it adds nothing. -/
def Draft.pushStars (d : Draft) (p : GlobPart) : Draft :=
  match d.current with
  | .leading :: _ => d
  | .trailing :: _ => d
  | _ :: rest => { d with current := p :: rest }
  | [] => d

def Draft.pushDoubleStar (d : Draft) : DoubleStar → Draft
  | .plain => (d.push .anyBytes).push .anyBytes
  | .leading => d.push .leading
  | .trailing => d.pushStars .trailing
  | .between => d.pushStars .between

def takesSeparator : DoubleStar → Bool
  | .leading | .between => true
  | _ => false

/-! ## Parsing -/

def parseFrom (d : Draft) (inClass : Option OpenClass) (previous : Option Char) :
    List Char → Except GlobError (List GlobPart)
  | [] => if inClass.isSome then .error .unclosedClass else d.finish
  | c :: rest =>
    match inClass with
    | some k =>
      if k.isClosedBy c then parseFrom (d.push k.close) none (some c) rest
      else
        match k.read c with
        | .ok k => parseFrom d (some k) (some c) rest
        | .error e => .error e
    | none =>
      match c, rest with
      | '*', '*' :: rest =>
        let stars := doubleStar d previous rest.head?
        match takesSeparator stars, rest with
        | true, separator :: rest =>
          parseFrom (d.pushDoubleStar stars) none (some separator) rest
        | _, rest => parseFrom (d.pushDoubleStar stars) none (some '*') rest
      | '*', rest => parseFrom (d.push .anyBytes) none (some c) rest
      | '?', rest => parseFrom (d.push .anyByte) none (some c) rest
      | '[', rest => parseFrom d (some .start) (some c) rest
      | '\x7b', rest => parseFrom d.openGroup none (some c) rest
      | '\x7d', rest =>
        match d.closeGroup with
        | .ok d => parseFrom d none (some c) rest
        | .error e => .error e
      | ',', rest =>
        parseFrom (if d.inGroup then d.nextChoice else d.push (.literal ',')) none (some c) rest
      | '\\', c :: rest => parseFrom (d.push (.literal c)) none (some c) rest
      | '\\', [] => .error .danglingEscape
      | c, rest => parseFrom (d.push (.literal c)) none (some c) rest

def parse (text : String) : Except GlobError (List GlobPart) :=
  parseFrom .empty none none text.toList

end Glob
end CodeSurvey
