import Touchpad.Bus.Retry
import Touchpad.Control.Measure
import Touchpad.Settings.Config

/-!
# Start-up

A detected touchpad is asked for its capabilities, put into absolute mode, measured, and switched
on. The profile grows on the way, and what it has grown to is returned on failure too. Two steps are
tried again when they fail: the capabilities query, and reading back the mode register. A failed
resolution query is the only other failure that does not end the start-up.
-/

namespace Touchpad

/-- Why a touchpad could not be started. -/
inductive StartError where
  | capabilities (cause : CommandError)
  | absoluteMode (cause : CommandError)
  | readBack (cause : CommandError)
  /-- The mode register still says that the touchpad is in relative mode. -/
  | refusedAbsoluteMode (value : UInt8)
  | range (cause : RangeError)
  | enable (cause : CommandError)
  deriving DecidableEq, Repr

def StartError.message : StartError → String
  | capabilities cause => "failed to query capabilities: " ++ cause.message
  | absoluteMode cause => "failed to write absolute mode registers: " ++ cause.message
  | readBack cause => "failed to read back register 0x10: " ++ cause.message
  | refusedAbsoluteMode value =>
    "touchpad refused absolute mode, register 0x10 = " ++ Hex.markedByte value
  | range cause => "failed to query range: " ++ cause.message
  | enable cause => "failed to enable touchpad: " ++ cause.message

namespace Control

/-- The register that holds the reporting mode. -/
def modeRegister : UInt8 := 0x10

/-- The bit of the mode register that stands for absolute mode on the first generation. -/
def absoluteModeBit : UInt8 := 0x04

/-- Tries a command again while it fails, with a log record and a pause between two attempts. -/
def persist {α : Type} (tries delay : Nat) (talk : Talk CommandError α) : Talk CommandError α :=
  ExceptT.mk <| retry tries
    (fun attempt cause => do
      Dialogue.say (Log.debug ("Attempt " ++ toString attempt ++ "/" ++ toString (max tries 1) ++
        " failed: " ++ cause.message))
      Dialogue.wait delay)
    talk.run

def queryCapabilities (p : Profile) (config : Config) : Talk StartError Reply :=
  (persist config.commandRetries (config.commandDelay * 1000)
    (sendQuery p.queryEncoding Query.capabilities)).adapt StartError.capabilities

/--
Writes settings in order until one write fails. Returns the settings that were written, whether or
not all of them were.
-/
def writeSettings (g : Generation) :
    List Setting → Dialogue (Except CommandError Unit × List Setting)
  | [] => pure (.ok (), [])
  | s :: rest => do
    match ← (writeRegister g s.register s.value).run with
    | .error cause => pure (.error cause, [])
    | .ok _ =>
      let (outcome, written) ← writeSettings g rest
      pure (outcome, s :: written)

/-- Reads back the mode register, and checks it on the first generation. -/
def confirmMode (g : Generation) (config : Config) : Talk StartError Unit := do
  let value ← (persist config.readBackRetries config.readBackDelay
    (readRegister g modeRegister)).adapt StartError.readBack
  if g = .v1 ∧ value &&& absoluteModeBit = 0 then throw (.refusedAbsoluteMode value)

/-- Asks the fourth generation for its resolution; without an answer the profile stays as it is. -/
def completeResolution (p : Profile) : Dialogue Profile := do
  if p.generation = .v4 then
    match ← (queryResolution p).run with
    | .ok resolution => pure { p with resolution }
    | .error cause =>
      Dialogue.say (Log.warn ("Failed to query resolution data: " ++ cause.message))
      pure p
  else pure p

/-- Switches reporting on, which completes the start-up. -/
def switchOn (p : Profile) : Talk StartError Unit := do
  (setReporting true).adapt StartError.enable
  say (Log.info ("Started " ++ p.summary))

/-- The part of the start-up that follows absolute mode. -/
def measureAndEnable (p : Profile) : Dialogue (Except StartError Unit × Profile) := do
  match ← (queryRange p).run with
  | .error cause => pure (.error (.range cause), p)
  | .ok range =>
    let measured ← completeResolution { p with bounds := range.bounds, width := range.width }
    let outcome ← (switchOn measured).run
    pure (outcome, measured)

/-- Puts the touchpad into absolute mode and goes on from there. -/
def enterAbsoluteMode (p : Profile) (config : Config) :
    Dialogue (Except StartError Unit × Profile) := do
  let (outcome, written) ← writeSettings p.generation p.generation.absoluteMode
  let p := { p with registers := p.registers ++ written }
  match outcome with
  | .error cause => pure (.error (.absoluteMode cause), p)
  | .ok _ =>
    if p.generation.readsBackMode then
      match ← (confirmMode p.generation config).run with
      | .error cause => pure (.error cause, p)
      | .ok _ => measureAndEnable p
    else measureAndEnable p

/-- Completes the profile of a detected touchpad, puts it into absolute mode and switches it on. -/
def start (p : Profile) (config : Config) : Dialogue (Except StartError Unit × Profile) := do
  match ← (queryCapabilities p config).run with
  | .error cause => pure (.error cause, p)
  | .ok capabilities =>
    let p := { p with capabilities }
    Dialogue.say (Log.info ("Elantech capabilities: " ++ capabilities.spelled))
    if p.hasRocker then Dialogue.say (Log.debug "Touchpad has a rocker switch")
    enterAbsoluteMode p config

end Control

end Touchpad
