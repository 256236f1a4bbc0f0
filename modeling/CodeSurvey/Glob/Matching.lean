import CodeSurvey.Glob.Parsing

/-!
# Matching globs

A glob matches a path as a whole, byte by byte. While it is read from left to right the places of
the path that have been reached are marked: one mark before each byte and one at the end.
-/

namespace CodeSurvey.Glob

abbrev Marks := List Bool

def Marks.start (path : List UInt8) : Marks := true :: path.map fun _ => false

def Marks.over (accepts : UInt8 → Bool) (path : List UInt8) (m : Marks) : Marks :=
  false :: List.zipWith (fun b reached => reached && accepts b) path m

def Marks.onward (before : Bool) : Marks → Marks
  | [] => []
  | reached :: rest => (before || reached) :: onward (before || reached) rest

def Marks.or (a b : Marks) : Marks := List.zipWith (fun x y => x || y) a b

def Marks.atEnd (m : Marks) : Bool := m.getLast?.getD false

def slash : UInt8 := 0x2f

def overSlash (path : List UInt8) (m : Marks) : Marks := m.over (· == slash) path

/-! ## Classes over bytes -/

/-- The bytes of a range: its two characters byte by byte, and all from the last byte of the one to
the first of the other. -/
def byteRanges (range : Char × Char) : List (UInt8 × UInt8) :=
  let first := String.utf8EncodeChar range.1
  let last := String.utf8EncodeChar range.2
  if range.1 = range.2 then first.map fun b => (b, b)
  else
    (first.dropLast.map fun b => (b, b)) ++ [(first.getLast?.getD 0, last.head?.getD 0)] ++
      (last.tail.map fun b => (b, b))

def inRanges (ranges : List (Char × Char)) (b : UInt8) : Bool :=
  (ranges.flatMap byteRanges).any fun r => r.1 ≤ b && b ≤ r.2

/-! ## Pieces -/

mutual

/-- Whether a piece stands for nothing: a group whose choices are all empty. -/
def isBlank : GlobPart → Bool
  | .alternatives choices => areBlankChoices choices
  | _ => false

def areBlank : List GlobPart → Bool
  | [] => true
  | p :: rest => isBlank p && areBlank rest

def areBlankChoices : List (List GlobPart) → Bool
  | [] => true
  | choice :: rest => areBlank choice && areBlankChoices rest

end

mutual

/-- The places reached by a piece. An empty choice counts for nothing beside others. -/
def afterPart (path : List UInt8) (m : Marks) : GlobPart → Marks
  | .literal c => (String.utf8EncodeChar c).foldl (fun m b => m.over (· == b) path) m
  | .anyByte => m.over (fun _ => true) path
  | .anyBytes => m.onward false
  | .leading => m.or ((overSlash path m).or (overSlash path (m.onward false)))
  | .trailing => (overSlash path m).onward false
  | .between =>
    let once := overSlash path m
    once.or (overSlash path (once.onward false))
  | .oneOf negated ranges => m.over (fun b => inRanges ranges b != negated) path
  | .alternatives choices =>
    if areBlankChoices choices then m else afterChoices path m choices

def afterParts (path : List UInt8) (m : Marks) : List GlobPart → Marks
  | [] => m
  | p :: rest => afterParts path (afterPart path m p) rest

def afterChoices (path : List UInt8) (m : Marks) : List (List GlobPart) → Marks
  | [] => m.map fun _ => false
  | choice :: rest =>
    if areBlank choice then afterChoices path m rest
    else (afterParts path m choice).or (afterChoices path m rest)

end

/-- Whether a glob matches a path. Two stars by themselves match every path. -/
def isMatch (parts : List GlobPart) (path : String) : Bool :=
  match parts with
  | [.leading] => true
  | parts =>
    let bytes := path.toUTF8.toList
    (afterParts bytes (.start bytes) parts).atEnd

/-- Whether a path matches one of a list of patterns; one that is no glob matches nothing. -/
def matchesAny (patterns : List String) (path : String) : Bool :=
  patterns.any fun pattern =>
    match parse pattern with
    | .ok parts => isMatch parts path
    | .error _ => false

end CodeSurvey.Glob
