import CodeSurvey.CommandLine.Spec

/-!
# Usage lines and help screens
-/

namespace CodeSurvey.CommandLine

def padded (width : Nat) (text : String) : String :=
  text ++ String.ofList (List.replicate (width - text.length) ' ')

def sentence (words : List String) : String :=
  " ".intercalate (words.filter fun w => !w.isEmpty)

namespace CommandSpec

def hasOptionsTag (c : CommandSpec) : Bool :=
  c.options.any fun o => o.kind ≠ .help ∧ o.kind ≠ .version

def usage (c : CommandSpec) : String :=
  sentence ([c.bin, if c.hasOptionsTag then "[OPTIONS]" else ""] ++
    c.positionals.map PositionalSpec.display ++ [if c.commands.isEmpty then "" else "<COMMAND>"])

def usageWith (c : CommandSpec) (used : List Parameter) : String :=
  if used.isEmpty then c.usage
  else
    sentence ([c.bin] ++ (used.filter fun p => !p.isPositional).map Parameter.display ++
      c.positionals.map PositionalSpec.display ++ [if c.commands.isEmpty then "" else "<COMMAND>"])

end CommandSpec

/-! ## Help screens -/

structure HelpSection where
  title : String
  entries : List (String × String)

namespace HelpSection

def width (s : HelpSection) : Nat := (s.entries.map fun e => e.1.length).foldl max 0

def line (width : Nat) (e : String × String) : String :=
  "  " ++ padded (width + 2) e.1 ++ e.2 ++ "\n"

def text (s : HelpSection) : String :=
  if s.entries.isEmpty then ""
  else "\n" ++ s.title ++ ":\n" ++ String.join (s.entries.map (line s.width))

end HelpSection

def note (title : String) (values : List String) : String :=
  if values.isEmpty then "" else " [" ++ title ++ ": " ++ ", ".intercalate values ++ "]"

def OptionSpec.term (o : OptionSpec) : String :=
  match o.short with
  | some letter => "-" ++ String.singleton letter ++ ", " ++ o.display
  | none => "    " ++ o.display

def OptionSpec.explanation (o : OptionSpec) : String :=
  match o.kind with
  | .valued type standard =>
    o.about ++ note "default" standard.toList ++ note "possible values" type.choices
  | _ => o.about

def CommandSpec.explanation (c : CommandSpec) : String :=
  c.about ++ note (if c.aliases.length = 1 then "alias" else "aliases") c.aliases

def CommandSpec.helpText (c : CommandSpec) : String :=
  let sections : List HelpSection := [
    ⟨"Commands", c.subcommands.map fun s => (s.name, s.explanation)⟩,
    ⟨"Arguments", c.positionals.map fun p => (p.display, p.about)⟩,
    ⟨"Options", c.options.map fun o => (o.term, o.explanation)⟩]
  c.about ++ "\n\nUsage: " ++ c.usage ++ "\n" ++ String.join (sections.map HelpSection.text)

end CodeSurvey.CommandLine
