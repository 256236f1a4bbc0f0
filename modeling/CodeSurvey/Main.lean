import CodeSurvey.Program

/-!
# Command line

The files that a command names are read where they are. Which files a directory holds is read from
standard input, one name a line, as tools that list files print them. Relative names start at the
working directory.
-/

namespace CodeSurvey

def Command.paths : Command → List String
  | analyze request _ => request.path :: request.config.toList ++ Config.fileNames
  | init path => [path]

partial def readLines (input : IO.FS.Stream) (lines : Array String) : IO (Array String) := do
  let line ← input.getLine
  if line.isEmpty then return lines
  readLines input (lines.push (line.trimAsciiEnd.toString))

def listedFiles : Command → IO (List String)
  | .analyze _ _ => do return (← readLines (← IO.getStdin) #[]).toList
  | .init _ => return []

/-- The bytes of a file; a directory has none. -/
def readBytes? (path : String) : IO (Option ByteArray) := do
  try return some (← IO.FS.readBinFile path) catch _ => return none

def isThere (path : String) : IO Bool := do
  try
    let _ ← IO.FS.realPath path
    return true
  catch _ => return false

def readEntry? (path : String) : IO (Option FileSystem.Change) := do
  if !(← isThere path) then return none
  match ← readBytes? path with
  | some bytes => return some (.file path bytes)
  | none => return some (.directory path)

def readFiles (paths : List String) : IO FileSystem := do
  let place := (Path.segments (toString (← IO.currentDir))).filter fun s => !s.isEmpty
  let start : FileSystem := ⟨.emptyDirectory, []⟩
  let within := { start.change (.directory (FileSystem.absolutePath place)) with
    workingDirectory := place }
  return (← paths.filterMapM readEntry?).foldl FileSystem.change within

def writeFiles : Command → IO Unit
  | .analyze _ _ => return
  | .init path => do
    if let some directory := neededDirectory? path then IO.FS.createDirAll directory
    IO.FS.writeFile path configTemplate

def carryOut (request : Request) : IO UInt32 := do
  let files ← readFiles (request.command.paths ++ (← listedFiles request.command))
  match request.command.run files ⟨false⟩ with
  | .error e =>
    IO.eprint (errorLine e.message)
    return 2
  | .ok outcome =>
    if outcome.exitCode = 0 then writeFiles request.command
    IO.eprint outcome.errors
    IO.print outcome.output
    return outcome.exitCode

end CodeSurvey

def main (arguments : List String) : IO UInt32 :=
  match CodeSurvey.Request.ofArguments arguments with
  | .ok request => CodeSurvey.carryOut request
  | .error stop => do
    if stop.exitCode = 0 then IO.print stop.text else IO.eprint stop.text
    return stop.exitCode
