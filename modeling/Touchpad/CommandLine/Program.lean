import Touchpad.Bus.Scripted
import Touchpad.Bus.Serial
import Touchpad.CommandLine.Arguments
import Touchpad.Control.Detection
import Touchpad.Control.StartUp
import Touchpad.Report.EventTable
import Touchpad.Report.ProfileTable
import Touchpad.Settings.Load
import Touchpad.Stream.Decoder

/-!
# What the program does

Each subcommand ends with what it printed, and with a failure if there was one. A recorded session
is replayed on a script. The two other subcommands need a device: what they say to it is a dialogue
(`probing`, `preparing`), which is the same for a device that is there and for a serial link on
which everything has already happened.
-/

namespace Touchpad.CommandLine

/-- Why a subcommand failed. -/
inductive Failure where
  | load (cause : LoadError)
  | transport (cause : TransportError)
  | detection (cause : DetectionError)
  | start (cause : StartError)
  | command (cause : CommandError)
  deriving DecidableEq, Repr

def Failure.message : Failure → String
  | load cause => cause.message
  | transport cause => cause.message
  | detection cause => cause.message
  | start cause => cause.message
  | command cause => cause.message

/-- What a subcommand printed and logged, and whether it failed. -/
structure Report where
  output : String := ""
  failure : Option Failure := none
  notes : List Log.Record := []

namespace Report

def failed (cause : Failure) : Report := { failure := some cause }

def printed (lines : List String) : Report := { output := String.join (lines.map (· ++ "\n")) }

def logged (notes : List Log.Record) : Report := { notes }

def append (a b : Report) : Report := ⟨a.output ++ b.output, b.failure, a.notes ++ b.notes⟩

instance : Append Report := ⟨append⟩

end Report

/-! ## Dialogues -/

/-- Detects a touchpad and starts it. -/
def preparing (config : Config) : Dialogue (Except Failure Profile) := do
  match ← Control.detect.run with
  | .error cause => return .error (.detection cause)
  | .ok profile =>
    match ← Control.start profile config with
    | (.error cause, _) => return .error (.start cause)
    | (.ok _, started) => return .ok started

def stopping : Dialogue (Except Failure Unit) := do
  match ← Control.stop.run with
  | .error cause => return .error (.command cause)
  | .ok _ => return .ok ()

/-- Detects a touchpad, starts it, and switches it off again. -/
def probing (config : Config) : Dialogue (Except Failure Profile) := do
  match ← preparing config with
  | .error cause => return .error cause
  | .ok profile =>
    match ← stopping with
    | .error cause => return .error cause
    | .ok _ => return .ok profile

/-! ## Recorded sessions -/

/-- Decodes the stream of a recorded session whose touchpad has been started. -/
def replayStream (capture : Capture) (config : Config) (profile : Profile) : Report :=
  match capture.streamBytes with
  | .error cause => .failed (.load (.invalidHex cause))
  | .ok stream =>
    let (_, decoded) := (Decoder.new profile config).bytes stream
    let clicks := decoded.events.countP Event.isClick
    .logged decoded.records ++
      .printed [(Event.table capture.name decoded.events).render,
        "Decoded " ++ toString decoded.events.length ++ " event(s)",
        "Found " ++ toString clicks ++ " click(s)"]

/-- The record of replies that nothing asked for. -/
def unusedNotes (s : Script) : List Log.Record :=
  if s.remaining = 0 then []
  else [Log.warn (toString s.remaining ++ " scripted replies were not used")]

def replayCapture (capture : Capture) : Report :=
  let config := capture.config.getD {}
  match capture.replyBytes with
  | .error cause => .failed (.load (.invalidHex cause))
  | .ok replies =>
    let session := (preparing config).run Script.transport (.ofReplies replies)
    .logged session.notes ++
      match session.value with
      | .error cause => .failed cause
      | .ok profile =>
        .logged (unusedNotes session.state) ++ .printed [profile.table.render] ++
          .logged [Decoder.started profile] ++ replayStream capture config profile

/-- Replays the recorded session that is given by a path or by its name. -/
def replay (f : Files) (e : Environment) (given : String) : Report :=
  let path := Search.capturePath f e given
  .logged (Search.captureNotes f e given ++
      [Log.debug ("Loading capture: " ++ Text.Quoted.encode path)]) ++
    match Capture.fromFile f path with
    | .error cause => .failed (.load cause)
    | .ok capture => replayCapture capture

/-! ## Devices -/

def opened (device : String) : Log.Record := Log.debug ("Opened serio_raw device: " ++ device)

/-- Shows what is known about the touchpad on a link. -/
def probeLink (config : Config) (link : Link) : Report :=
  let session := (probing config).run Link.transport link
  .logged session.notes ++
    match session.value with
    | .error cause => .failed cause
    | .ok profile => .printed [profile.table.render]

/-- The number of bytes that are read from a device at once. -/
def chunkSize : Nat := 64

/-- Decodes a stream in the chunks in which it is read. -/
def decodeChunks (d : Decoder) (stream : List UInt8) : Report :=
  if stream = [] then {}
  else
    let chunk := stream.take chunkSize
    let (next, decoded) := d.bytes chunk
    .logged (Log.trace ("Read " ++ toString chunk.length ++ " bytes: " ++ Hex.listed chunk) ::
        decoded.records) ++
      .printed (decoded.events.map Event.text) ++
      decodeChunks next (stream.drop chunkSize)
termination_by stream.length
decreasing_by
  have : stream.length ≠ 0 := by simpa using ‹¬stream = []›
  simp [chunkSize]
  omega

/-- Prints the events of a touchpad that has been started, until its stream ends. -/
def listen (config : Config) (profile : Profile) (link : Link) : Report :=
  let session := stopping.run Link.transport (link.advance link.unread.length)
  .logged [Decoder.started profile] ++ decodeChunks (Decoder.new profile config) link.unread ++
    .logged (Log.warn "Touchpad stream closed" :: session.notes) ++
    match session.value with
    | .error cause => .failed cause
    | .ok _ => .logged [Log.info "Touchpad disabled"]

/-- Starts the touchpad on a link and prints its events. -/
def runLink (config : Config) (link : Link) : Report :=
  let session := (preparing config).run Link.transport link
  .logged session.notes ++
    match session.value with
    | .error cause => .failed cause
    | .ok profile => listen config profile session.state

/-- The record of the options with which events are printed. -/
def usingOptions (config : Config) : Log.Record := Log.debug ("Using config: " ++ config.spelled)

/-- Does what a subcommand does to the link behind a device, once there are options. -/
def onLink (device : String) (link : Except AccessError Link) (work : Link → Report) : Report :=
  match link with
  | .error cause => .failed (.transport (.access cause))
  | .ok link => .logged [opened device] ++ work link

/-- Goes on with the options that are loaded from a file. -/
def withConfig (f : Files) (e : Environment) (path : Option String) (work : Config → Report) :
    Report :=
  .logged (Config.loadNotes f e path) ++
    match Config.load f e path with
    | .error cause => .failed (.load cause)
    | .ok config => work config

/-- What a command does where `link?` tells which link is behind a device. -/
def report (f : Files) (e : Environment) (link? : String → Except AccessError Link) :
    Command → Report
  | .replay capture => replay f e capture
  | .probe device path =>
    withConfig f e path fun config => onLink device (link? device) (probeLink config)
  | .run device path =>
    withConfig f e path fun config =>
      .logged [usingOptions config] ++ onLink device (link? device) (runLink config)

end Touchpad.CommandLine
