import CodeSurvey.CommandLine.Similarity
import CodeSurvey.CommandLine.Usage

/-!
# Why a command line is not carried out

Either it asks for a text, or something is wrong with it. What is wrong is said with a hint at what
may have been meant and with the usage of the command that was being read.
-/

namespace CodeSurvey.CommandLine

inductive Hint where
  /-- The argument as a value. -/
  | asValue (text : String)
  | similarOption (long : String)
  | similarValue (text : String)
  | similarCommands (names : List String)
  /-- An option of another command. -/
  | elsewhere (command long : String)
  /-- A command, but for the dashes before it. -/
  | withoutDashes (command : String)
deriving DecidableEq

inductive Complaint where
  | unknownArgument (text : String)
  | unknownCommand (text : String)
  | noCommand
  | valueMissing (p : Parameter)
  | valueNotOffered (p : Parameter) (text : String)
  | valueUnreadable (p : Parameter) (text : String) (fault : ValueFault)
  | valueUnwanted (o : OptionSpec) (text : String)
  | repeated (p : Parameter)
  | missing (ps : List PositionalSpec)
deriving DecidableEq

inductive UsageLine where
  | none
  | general
  | specific (ps : List Parameter)
deriving DecidableEq

inductive Stop where
  | help (c : CommandSpec)
  /-- Help, because nothing was asked. -/
  | helpUnasked (c : CommandSpec)
  | version (text : String)
  | complaint (c : CommandSpec) (cause : Complaint) (hint : Option Hint) (usage : UsageLine)

def quote (text : String) : String := "'" ++ text ++ "'"

def Hint.message : Hint → String
  | asValue text => "to pass " ++ quote text ++ " as a value, use " ++ quote ("-- " ++ text)
  | similarOption long => "a similar argument exists: " ++ quote ("--" ++ long)
  | similarValue text => "a similar value exists: " ++ quote text
  | similarCommands [name] => "a similar subcommand exists: " ++ quote name
  | similarCommands names =>
    "some similar subcommands exist: " ++ ", ".intercalate (names.map quote)
  | elsewhere command long => quote (command ++ " --" ++ long) ++ " exists"
  | withoutDashes command =>
    "subcommand " ++ quote command ++ " exists; to use it, remove the '--' before it"

def listed (title : String) (values : List String) : String :=
  if values.isEmpty then "" else "\n " ++ note title values

def Complaint.message (c : CommandSpec) : Complaint → String
  | unknownArgument text => "unexpected argument " ++ quote text ++ " found"
  | unknownCommand text => "unrecognized subcommand " ++ quote text
  | noCommand =>
    quote c.bin ++ " requires a subcommand but one was not provided" ++
      listed "subcommands" c.subcommandNames
  | valueMissing p =>
    "a value is required for " ++ quote p.display ++ " but none was supplied" ++
      listed "possible values" p.type.choices
  | valueNotOffered p text =>
    "invalid value " ++ quote text ++ " for " ++ quote p.display ++
      listed "possible values" p.type.choices
  | valueUnreadable p text fault =>
    "invalid value " ++ quote text ++ " for " ++ quote p.display ++ ": " ++ fault.message
  | valueUnwanted o text =>
    "unexpected value " ++ quote text ++ " for " ++ quote o.display ++
      " found; no more were expected"
  | repeated p => "the argument " ++ quote p.display ++ " cannot be used multiple times"
  | missing ps =>
    "the following required arguments were not provided:" ++
      String.join (ps.map fun p => "\n  " ++ p.display)

def UsageLine.text (c : CommandSpec) : UsageLine → String
  | none => ""
  | general => "\n\nUsage: " ++ c.usage
  | specific ps => "\n\nUsage: " ++ c.usageWith ps

namespace Stop

/-- Texts that were asked for are no failure. -/
def exitCode : Stop → UInt32
  | help _ | version _ => 0
  | .helpUnasked _ | .complaint _ _ _ _ => 2

def text : Stop → String
  | .help c | .helpUnasked c => c.helpText
  | version text => text ++ "\n"
  | .complaint c cause hint usage =>
    "error: " ++ cause.message c ++
      ((hint.map fun h => "\n\n  tip: " ++ h.message).getD "") ++ usage.text c ++
      (if c.hasHelp then "\n\nFor more information, try '--help'.\n" else "\n")

end Stop
end CodeSurvey.CommandLine
