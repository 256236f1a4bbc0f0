import CodeSurvey.CommandLine.Stop

/-!
# Reading a command line

Arguments are read one after the other. A value waits until the next argument is settled, so that
of two faults the earlier one is reported, except that an argument nobody knows is reported at once.
-/

namespace CodeSurvey.CommandLine

structure Pending where
  parameter : Parameter
  value : Option String

structure Reading where
  command : CommandSpec
  /-- What was given to the commands around this one. -/
  outer : List (Parameter × Option Value)
  /-- What was given, in order; a value that could not be read is `none`. -/
  given : List (Parameter × Option Value)
  pending : Option Pending
  /-- The positional arguments that have not come. -/
  expected : List PositionalSpec
  /-- Whether `--` has come, so that nothing else is an option. -/
  trailing : Bool

structure Invocation where
  command : CommandSpec
  given : List (Parameter × Option Value)

namespace Reading

def start (c : CommandSpec) : Reading := ⟨c, [], [], none, c.positionals, false⟩

def enter (r : Reading) (c : CommandSpec) : Reading :=
  { start c with outer := r.outer ++ r.given }

def used (r : Reading) : List Parameter := r.given.map Prod.fst

def stop (r : Reading) (c : Complaint) (hint : Option Hint) (usage : UsageLine) : Stop :=
  .complaint r.command c hint usage

def isWaiting (r : Reading) : Bool :=
  match r.pending with
  | some ⟨_, none⟩ => true
  | _ => false

def valueFault (r : Reading) (p : Parameter) (text : String) : ValueFault → Stop
  | .missing => r.stop (.valueMissing p) none .none
  | .notOffered =>
    r.stop (.valueNotOffered p text)
      ((mostSimilar? text p.type.choices).map Hint.similarValue) .none
  | fault => r.stop (.valueUnreadable p text fault) none .none

/-- Take a parameter with its value. What cannot be taken is told in the second component; the first
is how reading goes on even so. -/
def take (r : Reading) (p : Parameter) (value : Except ValueFault (Option Value)) (text : String) :
    Reading × Option Stop :=
  if r.used.contains p then
    ({ r with given := r.given.filter fun g => g.1 != p }, some (r.stop (.repeated p) none .general))
  else
    match value with
    | .ok value => ({ r with given := r.given ++ [(p, value)] }, none)
    | .error fault => ({ r with given := r.given ++ [(p, none)] }, some (r.valueFault p text fault))

def settle (r : Reading) : Reading × Option Stop :=
  match r.pending with
  | none => (r, none)
  | some ⟨p, none⟩ => ({ r with pending := none }, some (r.stop (.valueMissing p) none .none))
  | some ⟨p, some text⟩ =>
    take { r with pending := none } p (some <$> p.type.read text) text

def orStop : Reading × Option Stop → Except Stop Reading
  | (_, some stop) => .error stop
  | (r, none) => .ok r

def settled (r : Reading) : Except Stop Reading := orStop r.settle

def takeFlag (r : Reading) (o : OptionSpec) (version : String) : Except Stop Reading := do
  let r ← r.settled
  match o.kind with
  | .help => .error (.help r.command)
  | .version => .error (.version version)
  | _ => orStop (r.take (.option o) (.ok none) "")

def takeAttached (r : Reading) (o : OptionSpec) (text : String) : Except Stop Reading := do
  let r ← r.settled
  let p := Parameter.option o
  orStop (r.take p (some <$> p.type.read text) text)

def await (r : Reading) (o : OptionSpec) : Except Stop Reading := do
  return { ← r.settled with pending := some ⟨.option o, none⟩ }

def takesValue (o : OptionSpec) : Bool :=
  match o.kind with
  | .valued _ _ => true
  | _ => false

/-! ## Options -/

def hasPositionals (r : Reading) : Bool := !r.command.positionals.isEmpty

/-- The option of another command that may have been meant: that of the command which comes first
among the remaining arguments. -/
def meantElsewhere? (r : Reading) (long : String) (rest : List String) : Option Hint :=
  let candidates := r.command.subcommands.filterMap fun c =>
    match mostSimilar? long c.longs, rest.idxOf? c.name with
    | some l, some i => some (i, Hint.elsewhere c.name l)
    | _, _ => none
  let first := candidates.foldl (fun best c =>
    match best with
    | some b => if c.1 < b.1 then some c else some b
    | none => some c) (none : Option (Nat × Hint))
  first.map Prod.snd

def unknownLong (r : Reading) (long : String) (rest : List String) : Stop :=
  let r := r.settle.1
  let text := "--" ++ long
  let meant := (mostSimilar? long r.command.longs).bind r.command.long?
  match meant with
  | some o =>
    let p := Parameter.option o
    let used := if r.used.contains p then r.used else r.used ++ [p]
    r.stop (.unknownArgument text) (some (.similarOption o.long)) (.specific used)
  | none =>
    let hint := r.meantElsewhere? long rest <|>
      if r.hasPositionals then some (.asValue text) else none
    r.stop (.unknownArgument text) hint (.specific r.used)

def takeLong (r : Reading) (version long : String) (attached : Option String)
    (rest : List String) : Except Stop Reading :=
  match r.command.long? long, attached with
  | none, _ => .error (r.unknownLong long rest)
  | some o, some text =>
    if takesValue o then r.takeAttached o text
    else .error (r.stop (.valueUnwanted o text) none (.specific (r.used ++ [.option o])))
  | some o, none => if takesValue o then r.await o else r.takeFlag o version

def unknownShort (r : Reading) (text : String) : Stop :=
  let hint := if r.hasPositionals then some (.asValue text) else none
  r.stop (.unknownArgument text) hint .general

/-- Options by their letters. The first one with a value takes what follows as its value. -/
def takeShorts (version : String) : Reading → List Char → Except Stop Reading
  | r, [] => .ok r
  | r, letter :: rest =>
    match r.command.short? letter with
    | none => .error (r.unknownShort ("-" ++ String.singleton letter))
    | some o =>
      if takesValue o then
        match rest with
        | [] => r.await o
        | '=' :: text => r.takeAttached o (String.ofList text)
        | text => r.takeAttached o (String.ofList text)
      else do takeShorts version (← r.takeFlag o version) rest

/-! ## Other arguments -/

def misplaced (r : Reading) (text : String) (looksLikeOption : Bool) : Stop :=
  let r := r.settle.1
  let similar := similarWords text r.command.subcommandNames
  if r.trailing && (r.command.subcommand? text).isSome then
    r.stop (.unknownArgument text) (some (.withoutDashes text)) .general
  else if !similar.isEmpty then
    r.stop (.unknownCommand text) (some (.similarCommands similar)) .general
  else if !r.command.commands.isEmpty && !r.hasPositionals then
    r.stop (.unknownCommand text) none .general
  else
    let hint :=
      if !r.trailing && r.hasPositionals && looksLikeOption then some (.asValue text) else none
    r.stop (.unknownArgument text) hint .general

def takePositional (r : Reading) (text : String) : Except Stop Reading :=
  match r.expected with
  | [] => .error (r.misplaced text (text.toList.head? == some '-' && text != "-"))
  | p :: later => do
    return { ← r.settled with
      pending := some ⟨.positional p, some text⟩,
      expected := if p.many then p :: later else later }

/-- An argument that is no option: a value that is waited for or a positional one. -/
def takeText (r : Reading) (text : String) : Except Stop Reading :=
  match r.pending with
  | some ⟨p, none⟩ => .ok { r with pending := some ⟨p, some text⟩ }
  | _ => r.takePositional text

def helpOf : CommandSpec → List String → Stop
  | c, [] => .help c
  | c, name :: rest =>
    match c.subcommand? name with
    | some s => helpOf s rest
    | none => .complaint c (.unknownCommand name) none .general

/-- Read one argument before which there was no `--`. -/
def takeArgument (r : Reading) (version text : String) (rest : List String) :
    Except Stop Reading :=
  match (if r.isWaiting then none else r.command.subcommand? text) with
  | some c => if c.name = helpName then .error (helpOf r.command rest) else .ok (r.enter c)
  | none =>
    match text.toList with
    | ['-', '-'] => .ok { r with trailing := true }
    | '-' :: '-' :: long =>
      let value := long.dropWhile (· != '=')
      r.takeLong version (String.ofList (long.takeWhile (· != '=')))
        (if value.isEmpty then none else some (String.ofList (value.drop 1))) rest
    | '-' :: letter :: letters => takeShorts version r (letter :: letters)
    | _ => r.takeText text

def finish (r : Reading) : Except Stop Invocation := do
  let r ← r.settled
  let missing := r.expected.filter fun p => !p.many
  if !r.command.commands.isEmpty then
    if r.given.isEmpty then .error (.helpUnasked r.command)
    else .error (r.stop .noCommand none .general)
  else if !missing.isEmpty then
    .error (r.stop (.missing missing) none (.specific (r.used ++ missing.map Parameter.positional)))
  else .ok ⟨r.command, r.outer ++ r.given⟩

def run (version : String) : Reading → List String → Except Stop Invocation
  | r, [] => r.finish
  | r, text :: rest => do
    let r ← if r.trailing then r.takePositional text else r.takeArgument version text rest
    run version r rest

end Reading

def read (c : CommandSpec) (version : String) (arguments : List String) :
    Except Stop Invocation :=
  Reading.run version (.start c) arguments

namespace Invocation

def value? (i : Invocation) (long : String) : Option Value :=
  i.given.findSome? fun g =>
    match g.1 with
    | .option o => if o.long = long then g.2 else none
    | .positional _ => none

def text? (i : Invocation) (long : String) : Option String :=
  match i.value? long with
  | some (.text s) => some s
  | some (.integer _) => none
  | none =>
    match i.command.long? long with
    | some ⟨_, _, .valued _ standard, _⟩ => standard
    | _ => none

def integer? (i : Invocation) (long : String) : Option Int :=
  match i.value? long with
  | some (.integer n) => some n
  | _ => none

def hasFlag (i : Invocation) (long : String) : Bool :=
  i.given.any fun g =>
    match g.1 with
    | .option o => o.long == long
    | .positional _ => false

def texts (i : Invocation) : List String :=
  i.given.filterMap fun g =>
    match g with
    | (.positional _, some (.text s)) => some s
    | _ => none

end Invocation
end CodeSurvey.CommandLine
