/-!
# Arguments of the command line

There are three subcommands. `probe` and `run` take the options `--device` and `--config`, `replay`
takes a path. Arguments are read from left to right, and the first fault counts.

The value of an option may follow it as an argument of its own. Such a value is checked only when
the next option or the end comes (`Pending`), so that an argument that is not known is found first.
-/

namespace Touchpad.CommandLine

/-- What the program is to do. -/
inductive Command where
  /-- Show what is known about a touchpad. -/
  | probe (device : String) (config : Option String)
  /-- Print the events of a touchpad. -/
  | run (device : String) (config : Option String)
  /-- Decode a recorded session. -/
  | replay (capture : String)
  deriving DecidableEq, Repr

/-- Why the arguments are no command. -/
inductive UsageError where
  | helpRequested
  | versionRequested
  | nothingGiven
  | unknownSubcommand
  | unknownArgument
  | missingArgument
  | invalidValue
  | surplusValue
  | repeatedOption
  deriving DecidableEq, Repr

/-- An argument as it looks, whatever is defined. -/
inductive Shape where
  /-- Two dashes, behind which there are no options. -/
  | separator
  /-- `--name` or `--name=value`. -/
  | long (name : String) (value : Option String)
  /-- A dash and letters. -/
  | short (letters : List Char)
  | plain (text : String)
  deriving DecidableEq, Repr

/-- Splits the text behind two dashes at the first equals sign. -/
def longShape (cs : List Char) : Shape :=
  let name := cs.takeWhile (· != '=')
  match cs.drop name.length with
  | [] => .long (String.ofList name) none
  | _ :: value => .long (String.ofList name) (some (String.ofList value))

def shape (argument : String) : Shape :=
  match argument.toList with
  | ['-', '-'] => .separator
  | '-' :: '-' :: cs => longShape cs
  | '-' :: c :: cs => .short (c :: cs)
  | _ => .plain argument

/-! ## Options of a device -/

/-- An option with a value. -/
inductive DeviceOption where
  | device
  | config
  deriving DecidableEq, Repr

namespace DeviceOption

def ofName? : String → Option DeviceOption
  | "device" => some device
  | "config" => some config
  | _ => none

def ofLetter? : Char → Option DeviceOption
  | 'd' => some device
  | 'c' => some config
  | _ => none

/-- Whether a value can be given for an option; a path is not empty. -/
def accepts : DeviceOption → String → Bool
  | device, _ => true
  | config, value => !value.isEmpty

end DeviceOption

/-- The values that were given and checked. -/
structure DeviceOptions where
  device : Option String := none
  config : Option String := none
  deriving DecidableEq, Repr

/-- An option whose value is not checked yet, and the value, if it has come. -/
abbrev Pending := Option (DeviceOption × Option String)

namespace DeviceOptions

def value? (g : DeviceOptions) : DeviceOption → Option String
  | .device => g.device
  | .config => g.config

/-- Checks a value; an option is given once. -/
def assign (g : DeviceOptions) (o : DeviceOption) (value : String) :
    Except UsageError DeviceOptions :=
  if (g.value? o).isSome then .error .repeatedOption
  else if !o.accepts value then .error .invalidValue
  else
    match o with
    | .device => .ok { g with device := some value }
    | .config => .ok { g with config := some value }

/-- Checks the value that is pending. -/
def settle (g : DeviceOptions) : Pending → Except UsageError DeviceOptions
  | none => .ok g
  | some (_, none) => .error .invalidValue
  | some (o, some value) => g.assign o value

/-- An option with or without a value of its own. -/
def take (g : DeviceOptions) (pending : Pending) (o : DeviceOption) (value : Option String) :
    Except UsageError (DeviceOptions × Pending) := do
  let g ← g.settle pending
  match value with
  | some value => return (← g.assign o value, none)
  | none => return (g, some (o, none))

/-- The request for help, once what was given before has been checked. -/
def help (g : DeviceOptions) (pending : Pending) : Except UsageError (DeviceOptions × Pending) := do
  let _ ← g.settle pending
  throw .helpRequested

/-- The value behind the letter of an option, which may stand behind an equals sign. -/
def attached : List Char → Option String
  | [] => none
  | '=' :: cs => some (String.ofList cs)
  | cs => some (String.ofList cs)

/-- One argument in front of a separator. -/
def step (g : DeviceOptions) (pending : Pending) : Shape →
    Except UsageError (DeviceOptions × Pending)
  | .long "help" none => g.help pending
  | .long "help" (some _) => .error .surplusValue
  | .long name value =>
    match DeviceOption.ofName? name with
    | some o => g.take pending o value
    | none => .error .unknownArgument
  | .short ('h' :: _) => g.help pending
  | .short (c :: cs) =>
    match DeviceOption.ofLetter? c with
    | some o => g.take pending o (attached cs)
    | none => .error .unknownArgument
  | .plain text =>
    match pending with
    | some (o, none) => .ok (g, some (o, some text))
    | some (_, some _) | none => .error .unknownArgument
  | .short [] | .separator => .error .unknownArgument

/-- Reads the arguments behind `probe` or `run`. -/
def read (g : DeviceOptions) (pending : Pending) : List String → Except UsageError DeviceOptions
  | [] => g.settle pending
  | a :: rest =>
    match shape a with
    | .separator => if rest.isEmpty then g.settle pending else .error .unknownArgument
    | s =>
      match g.step pending s with
      | .ok (next, pending) => read next pending rest
      | .error e => .error e

/-- The command that is made of a device and options. -/
def command (make : String → Option String → Command) (args : List String) :
    Except UsageError Command := do
  let g ← read {} none args
  match g.device with
  | some device => return make device g.config
  | none => throw .missingArgument

end DeviceOptions

/-! ## Paths and subcommands -/

def checkPath : Option String → Except UsageError String
  | none => .error .missingArgument
  | some path => if path.isEmpty then .error .invalidValue else .ok path

/-- The request for help behind a path that has been checked, if there was one. -/
def helpAfter (path : Option String) : UsageError :=
  if path == some "" then .invalidValue else .helpRequested

/-- Reads the arguments behind `replay`. -/
def readPath (path : Option String) (options : Bool) : List String → Except UsageError String
  | [] => checkPath path
  | a :: rest =>
    match if options then shape a else .plain a with
    | .separator => readPath path false rest
    | .long "help" none => .error (helpAfter path)
    | .long "help" (some _) => .error .surplusValue
    | .short ('h' :: _) => .error (helpAfter path)
    | .long _ _ | .short _ => .error .unknownArgument
    | .plain text =>
      if path.isNone then readPath (some text) options rest else .error .unknownArgument

def subcommands : List String := ["probe", "run", "replay", "help"]

/-- Which fault a request for help about subcommands is: only a single known one has help. -/
def helpAbout : List String → UsageError
  | [] => .helpRequested
  | [name] => if subcommands.contains name then .helpRequested else .unknownSubcommand
  | _ :: _ :: _ => .unknownSubcommand

/-- The fault that an argument is in the place of a subcommand. -/
def misplaced : Shape → UsageError
  | .long "help" none => .helpRequested
  | .long "version" none => .versionRequested
  | .long "help" (some _) | .long "version" (some _) => .surplusValue
  | .short ('h' :: _) => .helpRequested
  | .short ('V' :: _) => .versionRequested
  | .long _ _ | .short _ => .unknownArgument
  | .plain _ | .separator => .unknownSubcommand

/-- The command that arguments denote. -/
def parse : List String → Except UsageError Command
  | [] => .error .nothingGiven
  | "probe" :: args => DeviceOptions.command .probe args
  | "run" :: args => DeviceOptions.command .run args
  | "replay" :: args => (readPath none true args).map .replay
  | "help" :: args => .error (helpAbout args)
  | ["--"] => .error .nothingGiven
  | "--" :: a :: _ =>
    .error (if subcommands.contains a then .unknownArgument else .unknownSubcommand)
  | a :: _ => .error (misplaced (shape a))

end Touchpad.CommandLine
