import CodeSurvey.Text.Character

/-!
# Text patterns

Patterns over text and where they match. A pattern prefers its first alternative, repeats as
often as it can, and gives back only what the rest of the pattern needs; of all matches the one
that starts first counts. Matches do not overlap.
-/

namespace CodeSurvey.Text

inductive Pattern where
  | empty
  | char (accepts : Char → Bool)
  /-- At least `least` accepted characters, as many as possible. -/
  | run (accepts : Char → Bool) (least : Nat)
  | seq (first second : Pattern)
  | either (first second : Pattern)
  | many (repeated : Pattern)
  /-- The start of the text or of a line. -/
  | lineStart
  /-- Between a word character and another one, or at an end of the text beside one. -/
  | wordEdge
  | group (index : Nat) (inner : Pattern)
deriving Inhabited

/-- A place in a text: what is before it, what comes after, and how many characters precede. -/
structure Place where
  before : Option Char
  rest : List Char
  offset : Nat
deriving Inhabited

namespace Place

def start (text : List Char) : Place := ⟨none, text, 0⟩

def next (p : Place) : Place :=
  match p.rest with
  | [] => p
  | c :: rest => ⟨some c, rest, p.offset + 1⟩

def atLineStart (p : Place) : Bool :=
  match p.before with
  | none => true
  | some c => c == '\n'

def atWordEdge (p : Place) : Bool :=
  (p.before.map isWord).getD false != (p.rest.head?.map isWord).getD false

/-- The places reached by reading accepted characters, the furthest first. -/
def runs (accepts : Char → Bool) : Option Char → List Char → Nat → List Place → List Place
  | before, [], offset, found => ⟨before, [], offset⟩ :: found
  | before, c :: rest, offset, found =>
    let found := ⟨before, c :: rest, offset⟩ :: found
    if accepts c then runs accepts (some c) rest (offset + 1) found else found

end Place

structure Stretch where
  start : Place
  stop : Place
deriving Inhabited

namespace Stretch

def length (s : Stretch) : Nat := s.stop.offset - s.start.offset

def chars (s : Stretch) : List Char := s.start.rest.take s.length

def text (s : Stretch) : String := String.ofList s.chars

end Stretch

structure Progress where
  place : Place
  groups : List (Nat × Stretch)
deriving Inhabited

structure Match where
  whole : Stretch
  groups : List (Nat × Stretch)
deriving Inhabited

def Match.group? (m : Match) (index : Nat) : Option Stretch := m.groups.lookup index

namespace Pattern

def firstOf (rest : Place → Option Progress) : List Place → Option Progress
  | [] => none
  | p :: places =>
    match rest p with
    | some r => some r
    | none => firstOf rest places

/-- Repeat a step as often as possible; a step that does not move is not repeated. -/
def iterate (step : Progress → (Progress → Option Progress) → Option Progress)
    (rest : Progress → Option Progress) : Nat → Progress → Option Progress
  | 0, s => rest s
  | budget + 1, s =>
    match step s fun t =>
        if t.place.offset > s.place.offset then iterate step rest budget t else none with
    | some r => some r
    | none => rest s

/-- Match a pattern and then what follows it, going back where that fails. -/
def follow : Pattern → Progress → (Progress → Option Progress) → Option Progress
  | empty, s, rest => rest s
  | char accepts, s, rest =>
    match s.place.rest with
    | c :: _ => if accepts c then rest { s with place := s.place.next } else none
    | [] => none
  | run accepts least, s, rest =>
    let p := s.place
    let places := Place.runs accepts p.before p.rest p.offset []
    firstOf (fun q => rest { s with place := q }) (places.take (places.length - least))
  | seq p q, s, rest => p.follow s fun t => q.follow t rest
  | either p q, s, rest =>
    match p.follow s rest with
    | some r => some r
    | none => q.follow s rest
  | many p, s, rest => iterate p.follow rest s.place.rest.length s
  | lineStart, s, rest => if s.place.atLineStart then rest s else none
  | wordEdge, s, rest => if s.place.atWordEdge then rest s else none
  | group index p, s, rest =>
    p.follow s fun t => rest { t with groups := (index, ⟨s.place, t.place⟩) :: t.groups }

def matchAt? (p : Pattern) (place : Place) : Option Match :=
  (p.follow ⟨place, []⟩ some).map fun s => ⟨⟨place, s.place⟩, s.groups⟩

def findIn? (p : Pattern) : Option Char → List Char → Nat → Option Match
  | before, [], offset => p.matchAt? ⟨before, [], offset⟩
  | before, c :: rest, offset =>
    match p.matchAt? ⟨before, c :: rest, offset⟩ with
    | some m => some m
    | none => findIn? p (some c) rest (offset + 1)

def find? (p : Pattern) (place : Place) : Option Match :=
  p.findIn? place.before place.rest place.offset

/-- The next match after one that ended at `last`: where the search starts, an empty match is
passed over if the last one ended there. -/
def findNext? (p : Pattern) (last : Option Nat) (place : Place) : Option Match :=
  match p.find? place with
  | some m =>
    if m.whole.length = 0 && last == some m.whole.stop.offset then
      if place.rest.isEmpty then none else p.find? place.next
    else some m
  | none => none

def findAllFrom (p : Pattern) : Nat → Option Nat → Place → List Match
  | 0, _, _ => []
  | budget + 1, last, place =>
    match p.findNext? last place with
    | some m => m :: findAllFrom p budget (some m.whole.stop.offset) m.whole.stop
    | none => []

/-- The matches that do not overlap, from left to right. -/
def findAll (p : Pattern) (text : List Char) : List Match :=
  p.findAllFrom (text.length + 1) none (.start text)

def isIn (p : Pattern) (text : List Char) : Bool := (p.find? (.start text)).isSome

def count (p : Pattern) (text : List Char) : Nat := (p.findAll text).length

def splice (replacement : Match → List Char) : Place → List Match → List Char
  | place, [] => place.rest
  | place, m :: rest =>
    (Stretch.mk place m.whole.start).chars ++ replacement m ++
      splice replacement m.whole.stop rest

def replaceAll (p : Pattern) (replacement : Match → List Char) (text : List Char) : List Char :=
  splice replacement (.start text) (p.findAll text)

/-! ## Building patterns -/

def all : List Pattern → Pattern
  | [] => empty
  | [p] => p
  | p :: ps => seq p (all ps)

def any : List Pattern → Pattern
  | [] => run (fun _ => false) 1
  | [p] => p
  | p :: ps => either p (any ps)

def optional (p : Pattern) : Pattern := either p empty

def atLeastOnce (p : Pattern) : Pattern := seq p (many p)

def exactChars (text : List Char) : Pattern := all (text.map fun c => char (· == c))

def exactly (text : String) : Pattern := exactChars text.toList

/-- Lower case letters of ASCII match whatever their case. -/
def anyCase (text : String) : Pattern := all (text.toList.map fun l => char (sameLetter l))

def oneOf (chars : String) : Pattern := char fun c => chars.toList.contains c

def spaces : Pattern := run isSpace 0

def someSpace : Pattern := run isSpace 1

def words (texts : List String) : Pattern := any (texts.map exactly)

end Pattern
end CodeSurvey.Text
