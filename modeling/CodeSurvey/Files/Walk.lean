import CodeSurvey.Files.System

/-!
# Walks

All files within a directory, those of its directories with them. Links count as what they lead to;
a link to a directory that the walk is in would make it endless and stops it. In a tree without
links a walk is a recursion over the tree.
-/

namespace CodeSurvey

structure FoundFile where
  /-- The names that lead to it from the start of the walk; none if the walk starts at it. -/
  names : Place
  bytes : ByteArray

structure Visited where
  /-- The path by which the walk came. -/
  path : String
  /-- The place of the directory itself. -/
  place : Place

inductive WalkError where
  | unreadable (path : String) (error : FileError)
  | loop (path ancestor : String)
deriving DecidableEq

def WalkError.message : WalkError → String
  | unreadable path error => "IO error for operation on " ++ path ++ ": " ++ error.message
  | loop path ancestor =>
    "File system loop found: " ++ path ++ " points to an ancestor " ++ ancestor

namespace Walk

/-- Where a walk stands: in the first directory of `within`, the others of which hold it. -/
structure Position where
  names : Place
  within : List Visited

def Position.path (p : Position) : String := (p.within.head?.map Visited.path).getD ""

def Position.place (p : Position) : Place := (p.within.head?.map Visited.place).getD []

def Position.entryPath (p : Position) (name : String) : String := Path.join p.path name

def Position.enter (p : Position) (name : String) (place : Place) : Position :=
  ⟨p.names ++ [name], ⟨p.entryPath name, place⟩ :: p.within⟩

/-! Below, directories with names to be skipped are left out, and `follow` walks where the link of a
name leads. -/

mutual

def node (skip : String → Bool) (follow : Position → String → Except WalkError (List FoundFile))
    (p : Position) (name : String) : FileNode → Except WalkError (List FoundFile)
  | .file bytes => .ok [⟨p.names ++ [name], bytes⟩]
  | .link _ => follow p name
  | .directory inner =>
    if skip name then .ok [] else entries skip follow (p.enter name (p.place ++ [name])) inner
termination_by structural x => x

def entries (skip : String → Bool) (follow : Position → String → Except WalkError (List FoundFile))
    (p : Position) : List (String × FileNode) → Except WalkError (List FoundFile)
  | [] => .ok []
  | e :: rest => do return (← entry skip follow p e) ++ (← entries skip follow p rest)
termination_by structural x => x

def entry (skip : String → Bool) (follow : Position → String → Except WalkError (List FoundFile))
    (p : Position) : String × FileNode → Except WalkError (List FoundFile)
  | (name, inner) => node skip follow p name inner
termination_by structural x => x

end

/-- The files that a link leads to, through at most so many links to directories. -/
def link (fs : FileSystem) (skip : String → Bool) :
    Nat → Position → String → Except WalkError (List FoundFile)
  | 0, p, name => .error (.unreadable (p.entryPath name) .tooManyLinks)
  | more + 1, p, name =>
    match fs.visit (p.entryPath name) with
    | .error e => .error (.unreadable (p.entryPath name) e)
    | .ok (_, .file bytes) => .ok [⟨p.names ++ [name], bytes⟩]
    | .ok (_, .link _) => .error (.unreadable (p.entryPath name) .tooManyLinks)
    | .ok (place, .directory inner) =>
      match p.within.find? fun v => v.place == place with
      | some v => .error (.loop (p.entryPath name) v.path)
      | none =>
        if skip name then .ok []
        else entries skip (link fs skip more) (p.enter name place) inner

end Walk

/-- The files at and within a path, directories with names to be skipped left out. A walk is in no
directory twice, which bounds the links that it follows into one another. -/
def FileSystem.walk (fs : FileSystem) (skip : String → Bool) (path : String) :
    Except WalkError (List FoundFile) :=
  match fs.visit path with
  | .error e => .error (.unreadable path e)
  | .ok (_, .file bytes) => .ok [⟨[], bytes⟩]
  | .ok (_, .link _) => .error (.unreadable path .tooManyLinks)
  | .ok (place, .directory inner) =>
    Walk.entries skip (Walk.link fs skip (fs.root.directoryCount + 1)) ⟨[], [⟨path, place⟩]⟩ inner

end CodeSurvey
