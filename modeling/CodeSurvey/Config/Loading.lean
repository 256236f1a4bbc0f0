import CodeSurvey.Config.Text
import CodeSurvey.Files.System

/-!
# Loading configurations

The configuration of a survey is that of a file which is named or which lies in the directory of the
survey under one of two names. Without a file it is the standard one.
-/

namespace CodeSurvey.Config

def fileNames : List String := ["codelens.yaml", ".codelens.yaml"]

def discover (fs : FileSystem) (directory : String) : Option String :=
  (fileNames.map (Path.join directory)).find? fs.isFile

inductive LoadError where
  | unreadable (path : String) (error : FileError)
  | unparsable (path : String) (error : Yaml.ReadError)
  | faulty (fault : Fault)

def LoadError.message : LoadError → String
  | unreadable path error => "parsing config " ++ path ++ ": " ++ error.message
  | unparsable path error => "parsing config " ++ path ++ ": " ++ error.message
  | faulty fault => fault.message

def ofFile (fs : FileSystem) (path : String) : Except LoadError Config := do
  let text ← (fs.readText path).mapError (LoadError.unreadable path)
  (ofText text).mapError (LoadError.unparsable path)

def validated (c : Config) : Except LoadError Config :=
  match c.fault? with
  | some fault => .error (.faulty fault)
  | none => .ok c

/-- The configuration at a path or else that of a directory, with the path that it comes from. -/
def load (fs : FileSystem) (path : Option String) (directory : String) :
    Except LoadError (Config × Option String) :=
  match path <|> discover fs directory with
  | some path => do return (← (← ofFile fs path).validated, some path)
  | none => do return (← standard.validated, none)

end CodeSurvey.Config
