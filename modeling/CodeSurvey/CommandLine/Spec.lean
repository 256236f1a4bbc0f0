import CodeSurvey.CommandLine.Value

/-!
# What a command line may hold

Commands with their options and positional arguments, as data. Reading a command line, the usage
lines and the help screens all follow from it.
-/

namespace CodeSurvey.CommandLine

inductive OptionKind where
  | flag
  /-- An option with a value, which stands for it when it is not given. -/
  | valued (type : ValueType) (standard : Option String)
  | help
  | version
deriving DecidableEq

structure OptionSpec where
  long : String
  short : Option Char
  kind : OptionKind
  about : String
deriving DecidableEq

structure PositionalSpec where
  placeholder : String
  type : ValueType
  /-- Whether any number may be given, none included; otherwise there has to be one. -/
  many : Bool
  about : String
deriving DecidableEq

inductive Parameter where
  | option (o : OptionSpec)
  | positional (p : PositionalSpec)
deriving DecidableEq

structure CommandSpec where
  /-- The words that lead to the command, its own name last. -/
  words : List String
  aliases : List String
  about : String
  /-- In the order of the help screen. -/
  options : List OptionSpec
  positionals : List PositionalSpec
  commands : List CommandSpec

def OptionSpec.placeholder (o : OptionSpec) : String :=
  String.ofList (o.long.toList.map Char.toUpper)

def OptionSpec.display (o : OptionSpec) : String :=
  match o.kind with
  | .valued _ _ => "--" ++ o.long ++ " <" ++ o.placeholder ++ ">"
  | _ => "--" ++ o.long

def PositionalSpec.display (p : PositionalSpec) : String :=
  if p.many then "[" ++ p.placeholder ++ "]..." else "<" ++ p.placeholder ++ ">"

namespace Parameter

def display : Parameter → String
  | option o => o.display
  | positional p => p.display

def type : Parameter → ValueType
  | option o =>
    match o.kind with
    | .valued type _ => type
    | _ => .path
  | positional p => p.type

def isPositional : Parameter → Bool
  | positional _ => true
  | option _ => false

end Parameter

def helpOption : OptionSpec := ⟨"help", some 'h', .help, "Print help"⟩

def versionOption : OptionSpec := ⟨"version", some 'V', .version, "Print version"⟩

def helpName : String := "help"

namespace CommandSpec

def name (c : CommandSpec) : String := c.words.getLast?.getD ""

def bin (c : CommandSpec) : String := " ".intercalate c.words

def names (c : CommandSpec) : List String := c.name :: c.aliases

def helpCommand (c : CommandSpec) : CommandSpec where
  words := c.words ++ [helpName]
  aliases := []
  about := "Print this message or the help of the given subcommand(s)"
  options := []
  positionals := [⟨"COMMAND", .path, true, "Print help for the subcommand(s)"⟩]
  commands := []

def subcommands (c : CommandSpec) : List CommandSpec :=
  if c.commands.isEmpty then [] else c.commands ++ [c.helpCommand]

def subcommandNames (c : CommandSpec) : List String := c.subcommands.flatMap names

def subcommand? (c : CommandSpec) (name : String) : Option CommandSpec :=
  c.subcommands.find? fun s => s.names.contains name

def longs (c : CommandSpec) : List String := c.options.map OptionSpec.long

def long? (c : CommandSpec) (name : String) : Option OptionSpec :=
  c.options.find? fun o => o.long == name

def short? (c : CommandSpec) (letter : Char) : Option OptionSpec :=
  c.options.find? fun o => o.short == some letter

def hasHelp (c : CommandSpec) : Bool := c.options.any fun o => o.kind = .help

end CommandSpec
end CodeSurvey.CommandLine
