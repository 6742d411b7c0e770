import Touchpad.CommandLine.Program

/-!
# The program

The outer layer: it reads the arguments, the environment, a file and the device, and prints what the
library makes of them. Files are searched for without opening any, and the one that is found is
opened. A dialogue is carried out on an open device by `perform`, with the half second that a device
has for every answer.
-/

namespace Touchpad.Main

open CommandLine

/-! ## Log records -/

/-- How important a level is. -/
def rank : Log.Level → Nat
  | .trace => 0
  | .debug => 1
  | .info => 2
  | .warn => 3
  | .error => 4

/-- The least importance of a record that is shown. -/
def leastRank (name : String) : Nat :=
  match name with
  | "trace" => 0
  | "debug" => 1
  | "warn" => 3
  | "error" => 4
  | "off" => 5
  | _ => 2

/-- Shows a record, if it is important enough. -/
def showRecord (least : Nat) (r : Log.Record) : IO Unit :=
  if least ≤ rank r.level then IO.eprintln r.line else pure ()

/-! ## Files -/

/-- The cause behind a failure that the system reports, told by the number of the failure. -/
def causeOf : IO.Error → AccessError
  | .noFileOrDirectory _ _ _ => .notFound
  | .permissionDenied _ 13 _ => .denied
  | .hardwareFault 5 _ => .deviceFailure
  | .inappropriateType _ 20 _ => .notDirectory
  | .inappropriateType _ 21 _ => .isDirectory
  | .resourceVanished 32 _ => .brokenPipe
  | e => .reported (toString e)

/-- The kind of what is at a path right now, behind all links. Nothing is opened for it. -/
def kindOf (path : String) : IO (Option Entry.Kind) := do
  match ← (do (← IO.FS.realPath path).metadata : IO IO.FS.Metadata).toBaseIO with
  | .error _ => return none
  | .ok found =>
    match found.type with
    | .file => return some .file
    | .dir => return some .directory
    | .symlink | .other => return some .special

/-- What stands for bytes that could not be read: no text. -/
def noText : ByteArray := ⟨#[0xff]⟩

/-- What comes of opening a path right now. A directory opens like a file and cannot be read. -/
def openPath (path : String) : IO Found := do
  match ← (IO.FS.Handle.mk path .read).toBaseIO, ← kindOf path with
  | .error e, none => return .error (causeOf e)
  | .error e, some kind => return .closed kind (causeOf e)
  | .ok _, some .directory => return .ok .directory
  | .ok handle, kind =>
    let content := (← handle.readBinToEnd.toBaseIO).toOption.getD noText
    return .ok (if kind = some .special then .special content else .file content)

/-- What is at some paths right now, with nothing opened; nothing is found at any other. -/
def survey (paths : List String) : IO Files := do
  let kinds ← paths.mapM fun path => return (path, ← kindOf path)
  return ⟨fun path =>
    match (kinds.lookup path).join with
    | some kind => .closed kind (.reported "not opened")
    | none => .error .notFound⟩

/-- The home of a user in the lines of the user database. -/
def homeIn (database : String) (user : String) : Option String :=
  (database.splitOn "\n").findSome? fun line =>
    match line.splitOn ":" with
    | [_, _, number, _, _, home, _] => if number = user then some home else none
    | _ => none

/-- The number of the user who runs the program, in what the system says about a process. -/
def userIn (status : String) : Option String :=
  (status.splitOn "\n").findSome? fun line =>
    match line.splitOn "\t" with
    | "Uid:" :: real :: _ => some real
    | _ => none

/-- The home that the user database names for the user who runs the program. -/
def accountHome : IO (Option String) := do
  try
    let status ← IO.FS.readFile "/proc/self/status"
    let database ← IO.FS.readFile "/etc/passwd"
    return (userIn status).bind (homeIn database)
  catch _ => return none

def environment : IO Environment := do
  return {
    home := (← IO.getEnv "HOME").getD ""
    account := ← accountHome
    configHome := ← IO.getEnv "XDG_CONFIG_HOME"
    configDirs := ← IO.getEnv "XDG_CONFIG_DIRS"
    dataHome := ← IO.getEnv "XDG_DATA_HOME"
    dataDirs := ← IO.getEnv "XDG_DATA_DIRS" }

/-- The paths that a command looks at. -/
def pathsOf (e : Environment) : Command → List String
  | .probe _ (some path) | .run _ (some path) => [path]
  | .probe _ none | .run _ none => Search.configCandidates e
  | .replay given => Search.captureCandidates e given

/-- The path that a command opens: one that is given, or one that a search finds. -/
def pathOf (f : Files) (e : Environment) : Command → Option String
  | .probe _ (some path) | .run _ (some path) => some path
  | .probe _ none | .run _ none => Search.configFile? f e
  | .replay given => some (Search.capturePath f e given)

/-- What a command finds right now. Of all the paths that it looks at it opens one at most. -/
def filesOf (e : Environment) (command : Command) : IO Files := do
  let seen ← survey (pathsOf e command)
  match pathOf seen e command with
  | none => return seen
  | some path =>
    let found ← openPath path
    return ⟨fun other => if other = path then found else seen.find other⟩

/-! ## Devices -/

/-- The milliseconds that a device has for an answer. -/
def patience : Nat := 500

/-- An open device: where to write, and what has been read ahead. -/
structure Channel where
  output : IO.FS.Handle
  unread : IO.Ref (List UInt8)
  closed : IO.Ref Bool

/-- Reads bytes ahead until the device is closed. -/
partial def readAhead (input : IO.FS.Handle) (channel : Channel) : IO Unit := do
  let bytes ← input.read 1
  if bytes.isEmpty then channel.closed.set true
  else
    channel.unread.modify (· ++ bytes.toList)
    readAhead input channel

/-- Opens a device, and begins to read ahead. -/
def openChannel (device : String) : IO Channel := do
  let output ← IO.FS.Handle.mk device .readWrite
  let input ← IO.FS.Handle.mk device .read
  let channel : Channel := ⟨output, ← IO.mkRef [], ← IO.mkRef false⟩
  let _ ← IO.asTask (do try readAhead input channel catch _ => channel.closed.set true)
    Task.Priority.dedicated
  return channel

def Channel.write (channel : Channel) (b : UInt8) : IO (Except TransportError Unit) := do
  let action : IO Unit := do
    channel.output.write ⟨#[b]⟩
    channel.output.flush
  match ← action.toBaseIO with
  | .ok _ => return .ok ()
  | .error e => return .error (.access (causeOf e))

/-- Takes the next byte within so many milliseconds. -/
def Channel.take (channel : Channel) (command : UInt8) : Nat → IO (Except TransportError UInt8)
  | 0 => return .error (.timeout command)
  | left + 1 => do
    match ← channel.unread.modifyGet fun bs => (bs.head?, bs.drop 1) with
    | some b => return .ok b
    | none =>
      if ← channel.closed.get then return .error (.access .endOfData)
      IO.sleep 1
      channel.take command left

/-- Waits for the byte that settles a command. -/
partial def Channel.await (channel : Channel) (least : Nat) (command : UInt8) :
    IO (Except TransportError Unit) := do
  match ← channel.take command patience with
  | .error cause => return .error cause
  | .ok b =>
    if b = Link.acknowledgement then return .ok ()
    else if Link.settles b then return .error (.refused command b)
    else
      showRecord least (Link.discarded command b)
      channel.await least command

/-- Carries out operations until one fails; returns the bytes that were read. -/
def Channel.carryOut (channel : Channel) (least : Nat) (last : UInt8) :
    List Operation → IO (Except TransportError Unit × List UInt8)
  | [] => return (.ok (), [])
  | .command b :: ops => do
    match ← channel.write b with
    | .error cause => return (.error cause, [])
    | .ok _ =>
      match ← channel.await least b with
      | .error cause => return (.error cause, [])
      | .ok _ => channel.carryOut least b ops
  | .read _ :: ops => do
    match ← channel.take last patience with
    | .error cause => return (.error cause, [])
    | .ok b =>
      let (outcome, bytes) ← channel.carryOut least last ops
      return (outcome, b :: bytes)

/-- Carries out a dialogue on an open device. -/
def perform {α : Type} (channel : Channel) (least : Nat) : Dialogue α → IO α
  | .done a => return a
  | .submit r next => do
    let (outcome, bytes) ← channel.carryOut least 0 r.operations
    perform channel least (next ⟨outcome, r.fill bytes⟩)
  | .note record next => do
    showRecord least record
    perform channel least next
  | .pause microseconds next => do
    IO.sleep (UInt32.ofNat (microseconds / 1000))
    perform channel least next

/-- Prints the events of a touchpad until its stream ends. -/
partial def listenTo (channel : Channel) (least : Nat) (d : Decoder) : IO Unit := do
  let isClosed ← channel.closed.get
  let bytes ← channel.unread.modifyGet fun bs => (bs, [])
  let (next, decoded) := d.bytes bytes
  decoded.records.forM (showRecord least)
  decoded.events.forM fun e => IO.println e.text
  if bytes.isEmpty then
    if isClosed then return
    IO.sleep 1
  listenTo channel least next

/-! ## Commands -/

def fail (cause : Failure) : IO UInt32 := do
  IO.eprintln ("Error: " ++ cause.message)
  return 1

def printReport (least : Nat) (r : Report) : IO UInt32 := do
  r.notes.forM (showRecord least)
  IO.print r.output
  match r.failure with
  | some cause => fail cause
  | none => return 0

/-- Goes on with an open device. -/
def withChannel (device : String) (least : Nat) (work : Channel → IO UInt32) : IO UInt32 := do
  match ← (openChannel device).toBaseIO with
  | .error e => fail (.transport (.access (causeOf e)))
  | .ok channel =>
    showRecord least (opened device)
    work channel

/-- Shows what is known about the touchpad behind a device. -/
def probeDevice (least : Nat) (config : Config) (channel : Channel) : IO UInt32 := do
  match ← perform channel least (probing config) with
  | .error cause => fail cause
  | .ok profile =>
    IO.println profile.table.render
    return 0

/-- Starts the touchpad behind a device and prints its events. -/
def runDevice (least : Nat) (config : Config) (channel : Channel) : IO UInt32 := do
  match ← perform channel least (preparing config) with
  | .error cause => fail cause
  | .ok profile =>
    showRecord least (Decoder.started profile)
    listenTo channel least (Decoder.new profile config)
    showRecord least (Log.warn "Touchpad stream closed")
    match ← perform channel least stopping with
    | .error cause => fail cause
    | .ok _ =>
      showRecord least (Log.info "Touchpad disabled")
      return 0

/-- Loads the options and goes on with them. -/
def withOptions (least : Nat) (f : Files) (e : Environment) (path : Option String)
    (work : Config → IO UInt32) : IO UInt32 := do
  (Config.loadNotes f e path).forM (showRecord least)
  match Config.load f e path with
  | .error cause => fail (.load cause)
  | .ok config => work config

/-- Does what a command says. -/
def execute (least : Nat) (command : Command) : IO UInt32 := do
  let e ← environment
  let f ← filesOf e command
  match command with
  | .replay given => printReport least (replay f e given)
  | .probe device path =>
    withOptions least f e path fun config => withChannel device least (probeDevice least config)
  | .run device path =>
    withOptions least f e path fun config => do
      showRecord least (usingOptions config)
      withChannel device least (runDevice least config)

/-! ## Usage -/

def usage : String := "\n".intercalate
  ["Usage: elanpad <COMMAND>", "", "Commands:",
   "  probe   Detect the touchpad and display what is known about it",
   "  run     Start the touchpad and print pointer events until interrupted",
   "  replay  Decode a recorded touchpad session",
   "  help    Print this message or the help of the given subcommand(s)", "", "Options:",
   "  -h, --help     Print help", "  -V, --version  Print version"]

/-- What is said about a fault in the arguments, and the code that the program ends with. -/
def usageError : UsageError → String × UInt32
  | .helpRequested => (usage, 0)
  | .versionRequested => ("elanpad 0.1.0", 0)
  | .nothingGiven => (usage, 2)
  | .unknownSubcommand => ("error: unrecognized subcommand\n\n" ++ usage, 2)
  | .unknownArgument => ("error: unexpected argument found\n\n" ++ usage, 2)
  | .missingArgument => ("error: a required argument was not provided\n\n" ++ usage, 2)
  | .invalidValue => ("error: a value is required for an option\n\n" ++ usage, 2)
  | .surplusValue => ("error: unexpected value for an option\n\n" ++ usage, 2)
  | .repeatedOption => ("error: an option cannot be used multiple times\n\n" ++ usage, 2)

end Touchpad.Main

open Touchpad Touchpad.Main in
def main (args : List String) : IO UInt32 := do
  let least := leastRank ((← IO.getEnv "LOG_LEVEL").getD "info")
  match CommandLine.parse args with
  | .ok command => execute least command
  | .error fault =>
    let (text, code) := usageError fault
    if code = 0 then IO.println text else IO.eprintln text
    return code
