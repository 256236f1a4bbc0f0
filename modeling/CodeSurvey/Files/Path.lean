/-!
# Paths

A path is a text of names with slashes between them. Two paths that differ only in empty and `.`
parts are spelled differently and have the same parts; parts, not spellings, are compared.
-/

namespace CodeSurvey.Path

/-- A part of a path. `here` is a part only where a path begins. -/
inductive Part where
  | root
  | here
  | up
  | name (text : String)
deriving DecidableEq

namespace Part

def rank : Part → Nat
  | root => 0
  | here => 1
  | up => 2
  | name _ => 3

def text : Part → String
  | root => ""
  | here => "."
  | up => ".."
  | name text => text

/-- Roots come first, then `.`, then `..`, then names in their order. -/
instance : LT Part := ⟨fun a b => a.rank < b.rank ∨ a.rank = b.rank ∧ a.text < b.text⟩

instance (a b : Part) : Decidable (a < b) :=
  inferInstanceAs (Decidable (a.rank < b.rank ∨ a.rank = b.rank ∧ a.text < b.text))

end Part

/-- What stands between the slashes, with nothing before a slash at the start and after one at the
end. -/
def segments (path : String) : List String := (path.toList.splitOn '/').map String.ofList

/-- The part that a segment is anywhere but at the start. -/
def innerPart? : String → Option Part
  | "" => none
  | "." => none
  | ".." => some .up
  | text => some (.name text)

/-- The part that the first segment is; `alone` is set for a path without a slash. -/
def firstPart? (alone : Bool) : String → Option Part
  | "" => if alone then none else some .root
  | "." => some .here
  | ".." => some .up
  | text => some (.name text)

def labelled : List String → List (String × Option Part)
  | [] => []
  | first :: rest => (first, firstPart? rest.isEmpty first) :: rest.map fun s => (s, innerPart? s)

def parts (path : String) : List Part := (labelled (segments path)).filterMap Prod.snd

def ofParts : List Part → String
  | [.root] => "/"
  | parts => "/".intercalate (parts.map Part.text)

def isAbsolute (path : String) : Bool := path.toList.head? == some '/'

def endsInSlash (path : String) : Bool := path.toList.getLast? == some '/'

def join (base path : String) : String :=
  if isAbsolute path then path
  else if base.isEmpty || endsInSlash base then base ++ path
  else base ++ "/" ++ path

def isTrivial (segment : String) : Bool := (innerPart? segment).isNone

def trimmed (segments : List String) : String :=
  "/".intercalate ((segments.dropWhile isTrivial).reverse.dropWhile isTrivial).reverse

def dropParts : List Part → List (String × Option Part) → Option (List String)
  | [], rest => some (rest.map Prod.fst)
  | _ :: _, [] => none
  | part :: parts, (_, none) :: rest => dropParts (part :: parts) rest
  | part :: parts, (_, some p) :: rest => if p = part then dropParts parts rest else none

def dropTrivial : List (String × Option Part) → List (String × Option Part) :=
  List.dropWhile fun s => s.2.isNone

/-- The path of segments from the last to the first, without what stands for no part at its end. -/
def unreversed (segments : List (String × Option Part)) : String :=
  match dropTrivial segments with
  | [(_, some .root)] => "/"
  | kept => "/".intercalate (kept.map Prod.fst).reverse

/-- The rest of a path within a base, spelled as in the path; a path outside the base stays. Within
an empty base a path keeps how it starts. -/
def within (base path : String) : String :=
  match dropParts (parts base) (labelled (segments path)) with
  | some rest =>
    if base.isEmpty then unreversed (labelled (segments path)).reverse else trimmed rest
  | none => path

def fileName? (path : String) : Option String :=
  match (parts path).getLast? with
  | some (.name text) => some text
  | _ => none

/-- The path without its last part; a root and an empty path have none. -/
def parent? (path : String) : Option String :=
  match dropTrivial (labelled (segments path)).reverse with
  | [] | (_, some .root) :: _ => none
  | _ :: before => some (unreversed before)

/-- A path and what remains of it when its last parts are taken away one after the other. -/
def ancestors (path : String) : List String :=
  go path.length path
where
  go : Nat → String → List String
    | 0, path => [path]
    | n + 1, path =>
      match parent? path with
      | none => [path]
      | some above => path :: go n above

end CodeSurvey.Path
