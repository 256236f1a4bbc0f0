import CodeSurvey.Files.Node
import CodeSurvey.Files.Path

/-!
# File systems

A tree of files with a working directory, and what can be asked of it and done to it by paths. Paths
are followed step by step: each step starts at a directory, and a link is replaced by the steps of
its target.
-/

namespace CodeSurvey

inductive FileError where
  | missing
  | notDirectory
  | isDirectory
  | present
  | tooManyLinks
  | nameTooLong
  | nulByte
  | notText
deriving DecidableEq

namespace FileError

def numbered (text : String) (n : Nat) : String := text ++ " (os error " ++ toString n ++ ")"

def message : FileError → String
  | missing => numbered "No such file or directory" 2
  | notDirectory => numbered "Not a directory" 20
  | isDirectory => numbered "Is a directory" 21
  | present => numbered "File exists" 17
  | tooManyLinks => numbered "Too many levels of symbolic links" 40
  | nameTooLong => numbered "File name too long" 36
  | nulByte => "file name contained an unexpected NUL byte"
  | notText => "stream did not contain valid UTF-8"

end FileError

/-- A step along a path. `stay` asks for a directory and stays in it. -/
inductive PathStep where
  | top
  | stay
  | up
  | enter (name : String)
deriving DecidableEq

namespace PathStep

def ofSegment : String → PathStep
  | "" => stay
  | "." => stay
  | ".." => up
  | name => enter name

/-- The steps of segments after the first: empty ones count at the end only. -/
def ofSegments : List String → List PathStep
  | [] => []
  | [last] => [ofSegment last]
  | "" :: rest => ofSegments rest
  | segment :: rest => ofSegment segment :: ofSegments rest

def ofPath (path : String) : List PathStep :=
  match Path.segments path with
  | "" :: rest => top :: ofSegments rest
  | segments => ofSegments segments

end PathStep

structure FileSystem where
  root : FileNode
  /-- Where relative paths start. -/
  workingDirectory : Place

namespace FileSystem

def maxLinks : Nat := 40

def maxNameBytes : Nat := 255

def maxPathBytes : Nat := 4095

/-- Where steps lead. All but the last have to exist. -/
def follow (root : FileNode) (links : Nat) (place : Place) :
    List PathStep → Except FileError Place
  | [] => .ok place
  | step :: rest =>
    match root.find? place, step with
    | some (.directory _), .top => follow root links [] rest
    | some (.directory _), .stay => follow root links place rest
    | some (.directory _), .up => follow root links place.dropLast rest
    | some (.directory entries), .enter name =>
      if name.utf8ByteSize > maxNameBytes then .error .nameTooLong
      else
        match entries.lookup name with
        | some (.link target) =>
          match links with
          | 0 => .error .tooManyLinks
          | links + 1 => follow root links place (PathStep.ofPath target ++ rest)
        | some _ => follow root links (place ++ [name]) rest
        | none => if rest.isEmpty then .ok (place ++ [name]) else .error .missing
    | _, _ => .error .notDirectory
termination_by steps => (links, steps.length)

def steps (path : String) : Except FileError (List PathStep) :=
  if path.toList.contains '\x00' then .error .nulByte
  else if path.isEmpty then .error .missing
  else if path.utf8ByteSize > maxPathBytes then .error .nameTooLong
  else .ok (PathStep.ofPath path)

/-- Where a path leads. Its last name need not exist. -/
def locate (fs : FileSystem) (path : String) : Except FileError Place := do
  follow fs.root maxLinks fs.workingDirectory (← steps path)

def visit (fs : FileSystem) (path : String) : Except FileError (Place × FileNode) := do
  let place ← fs.locate path
  match fs.root.find? place with
  | some node => .ok (place, node)
  | none => .error .missing

def absolutePath (place : Place) : String := "/" ++ "/".intercalate place

def canonicalPath (fs : FileSystem) (path : String) : Except FileError String :=
  return absolutePath (← fs.visit path).1

def directoryBytes : Nat := 4096

def size (fs : FileSystem) (path : String) : Except FileError Nat := do
  match (← fs.visit path).2 with
  | .file bytes => .ok bytes.size
  | _ => .ok directoryBytes

def isFile (fs : FileSystem) (path : String) : Bool :=
  match fs.visit path with
  | .ok (_, .file _) => true
  | _ => false

def isDirectory (fs : FileSystem) (path : String) : Bool :=
  match fs.visit path with
  | .ok (_, .directory _) => true
  | _ => false

def isPresent (fs : FileSystem) (path : String) : Bool :=
  match fs.visit path with
  | .ok _ => true
  | .error _ => false

def readText (fs : FileSystem) (path : String) : Except FileError String := do
  match (← fs.visit path).2 with
  | .file bytes =>
    match String.fromUTF8? bytes with
    | some text => .ok text
    | none => .error .notText
  | _ => .error .isDirectory

/-! ## Changes -/

/-- The directory that holds the last name of a path, and that name; `none` for a path that ends in
another step. -/
def locateEntry (fs : FileSystem) (path : String) :
    Except FileError (Option (Place × String)) := do
  let steps ← steps path
  let place ← follow fs.root maxLinks fs.workingDirectory steps.dropLast
  match fs.root.find? place, steps.getLast? with
  | some (.directory _), some (.enter name) =>
    if name.utf8ByteSize > maxNameBytes then .error .nameTooLong else .ok (some (place, name))
  | some (.directory _), _ => .ok none
  | some _, _ => .error .notDirectory
  | none, _ => .error .missing

def create (fs : FileSystem) (path : String) (node : FileNode) : Except FileError FileSystem := do
  match ← fs.locateEntry path with
  | none => .error .present
  | some (place, name) =>
    match fs.root.find? (place ++ [name]) with
    | some _ => .error .present
    | none => .ok { fs with root := fs.root.insert node (place ++ [name]) }

def withoutSlashes (path : String) : String :=
  match (path.toList.reverse.dropWhile (· == '/')).reverse with
  | [] => path
  | kept => String.ofList kept

def makeDirectory (fs : FileSystem) (path : String) : Except FileError FileSystem :=
  fs.create (withoutSlashes path) .emptyDirectory

/-- Make the first of some paths, each within the next, and those of the others that it needs. -/
def makeFirst (fs : FileSystem) : List String → Except FileError FileSystem
  | [] => .ok fs
  | path :: above =>
    if path.isEmpty then .ok fs
    else
      match fs.makeDirectory path with
      | .ok fs => .ok fs
      | .error .missing => do
        let fs ← fs.makeFirst above
        if fs.isDirectory path then .ok fs else fs.makeDirectory path
      | .error e => if fs.isDirectory path then .ok fs else .error e

def makeDirectories (fs : FileSystem) (path : String) : Except FileError FileSystem :=
  fs.makeFirst (Path.ancestors path)

def write (fs : FileSystem) (path : String) (bytes : ByteArray) : Except FileError FileSystem := do
  if Path.endsInSlash path then
    let _ ← fs.locateEntry (withoutSlashes path)
    .error .isDirectory
  else
    let place ← fs.locate path
    match fs.root.find? place with
    | some (.directory _) => .error .isDirectory
    | _ => .ok { fs with root := fs.root.insert (.file bytes) place }

def remove (fs : FileSystem) (path : String) : Except FileError FileSystem := do
  match ← fs.locateEntry path with
  | none => .error .isDirectory
  | some (place, name) =>
    match fs.root.find? (place ++ [name]) with
    | none => .error .missing
    | some (.directory _) => .error .isDirectory
    | some _ => .ok { fs with root := fs.root.erase (place ++ [name]) }

inductive Change where
  | file (path : String) (bytes : ByteArray)
  | link (path target : String)
  | directory (path : String)

def apply (fs : FileSystem) : Change → Except FileError FileSystem
  | .file path bytes => do
    let fs ← fs.makeDirectories ((Path.parent? path).getD "")
    fs.write path bytes
  | .link path target => do
    let fs ← fs.makeDirectories ((Path.parent? path).getD "")
    fs.create path (.link target)
  | .directory path => fs.makeDirectories path

/-- What becomes of a file system by a change; one that is refused does nothing. -/
def change (fs : FileSystem) (c : Change) : FileSystem := (fs.apply c).toOption.getD fs

end FileSystem
end CodeSurvey
