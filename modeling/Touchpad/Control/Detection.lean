import Touchpad.Control.Command
import Touchpad.Hardware.Identity
import Touchpad.Hardware.Profile

/-!
# Detection

Two round trips tell whether there is a supported touchpad: the magic knock, and then the query of
the firmware version, which also resolves the profile.
-/

namespace Touchpad

/-- Why a device is not accepted as a supported touchpad. -/
inductive DetectionError where
  | unexpectedKnock (reply : Reply)
  | invalidSignature (reply : Reply)
  | unknownHardware (firmware : Nat)
  | command (cause : CommandError)
  deriving DecidableEq, Repr

def DetectionError.message : DetectionError → String
  | unexpectedKnock reply => "unexpected magic knock: " ++ Hex.listed reply.toList
  | invalidSignature reply => "invalid firmware signature: " ++ Hex.listed reply.toList
  | unknownHardware firmware => "unknown hardware version in firmware " ++ Hex.version firmware
  | command cause => "command failed: " ++ cause.message

/-- The profile of a firmware version, or that its hardware is not known. -/
def Profile.resolve (firmware : Nat) : Except DetectionError Profile :=
  match Profile.ofFirmware? firmware with
  | some p => .ok p
  | none => .error (.unknownHardware firmware)

namespace Control

/-- The profile of the touchpad that answers, if a supported one does. -/
def detect : Talk DetectionError Profile := do
  let knock ← (exchange Request.magicKnock).adapt DetectionError.command
  if !Identity.answersKnock knock then
    say (Log.debug ("Unexpected magic knock result: " ++ knock.spelled))
    throw (.unexpectedKnock knock)
  let version ← (sendQuery .sliced Query.firmwareVersion).adapt DetectionError.command
  if !Identity.isSigned version then
    say (Log.debug ("Probably not a real Elantech touchpad: " ++ Hex.listed version.toList))
    throw (.invalidSignature version)
  let profile ← ExceptT.mk (.done (Profile.resolve (Identity.firmware version)))
  say (Log.info ("Elantech version " ++ profile.firmwareText ++ ", hardware " ++
    profile.generation.name))
  return profile

end Control

end Touchpad
