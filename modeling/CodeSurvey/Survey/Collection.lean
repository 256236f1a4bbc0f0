import CodeSurvey.Config.Basic
import CodeSurvey.Files.Walk

/-!
# Collecting files

The files of a directory that a survey looks at: those that hold source code, are not excluded and
are not too large. Hidden directories and those of dependencies and builds are not entered; the name
of the directory itself does not matter, nor do hidden names of files.
-/

namespace CodeSurvey

def skippedDirectories : List String := ["node_modules", "vendor", "target", "__pycache__"]

def isHidden (name : String) : Bool := name.toList.head? == some '.'

namespace Config

def skips (c : Config) (name : String) : Bool :=
  (isHidden name && !c.includeHidden) || skippedDirectories.contains name

/-- Whether a survey takes a file; `relative` is its path within the survey. -/
def takes (c : Config) (relative name : String) (bytes : Nat) : Bool :=
  !c.isExcluded relative && isCode name && decide (bytes ≤ c.maxFileBytes.toNat)

end Config

def FoundFile.relative (f : FoundFile) : String := "/".intercalate f.names

def FoundFile.path (root : String) (f : FoundFile) : String := f.names.foldl Path.join root

def FoundFile.isTaken (c : Config) (root : String) (f : FoundFile) : Bool :=
  c.takes f.relative ((Path.fileName? (f.path root)).getD "") f.bytes.size

def sortPaths (paths : List String) : List String :=
  paths.mergeSort fun a b => decide (Path.parts a ≤ Path.parts b)

def collect (fs : FileSystem) (root : String) (c : Config) : Except WalkError (List String) := do
  let found ← fs.walk c.skips root
  return sortPaths ((found.filter (FoundFile.isTaken c root)).map (FoundFile.path root))

end CodeSurvey
