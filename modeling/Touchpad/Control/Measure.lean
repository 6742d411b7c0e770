import Touchpad.Control.Command
import Touchpad.Hardware.Range

/-!
# Asking for the coordinate range and the resolution

A range that the firmware version fixes is not asked for. Otherwise the firmware id comes first:
newer hardware answers with the range itself, the second generation with a hint how to compute it
from the capabilities.
-/

namespace Touchpad

/-- Why the coordinate range is not known. -/
inductive RangeError where
  | query (cause : CommandError)
  | invalidTraces (cause : Range.InvalidTraces)
  deriving DecidableEq, Repr

def RangeError.message : RangeError → String
  | query cause => "range query failed: " ++ cause.message
  | invalidTraces cause => cause.message

namespace Control

/-- The number of sensor traces at the edges that the second generation does not report. -/
def edgeTraces (firmware : Nat) : Nat := if 0x020800 < firmware ∧ firmware < 0x020900 then 1 else 2

/-- Whether the second generation computes its range from a sample reply. -/
def measuresBySample (firmware : Nat) (firmwareId : Reply) : Bool :=
  firmware / 0x10000 == 0x14 && firmwareId.second &&& 0x10 != 0

/-- The range of second-generation hardware that is not computed from a sample reply. -/
def rangeByFirmware (firmware : Nat) (capabilities : Reply) : Range :=
  let edge := edgeTraces firmware
  if firmware = 0x040216 then .upTo 819 405 0
  else if firmware = 0x040219 ∨ firmware = 0x040215 then .upTo 900 500 0
  else .upTo ((capabilities.second.toNat - edge) * 64) ((capabilities.third.toNat - edge) * 64) 0

/-- The range of second-generation hardware that answers with the dots of a trace, counted twice. -/
def rangeBySample (firmware : Nat) (capabilities sample : Reply) : Range :=
  let edge := edgeTraces firmware
  .upTo ((capabilities.second.toNat - edge) * sample.second.toNat / 2)
    ((capabilities.third.toNat - edge) * sample.third.toNat / 2) 0

/-- The range in a firmware id of the third and fourth generation. -/
def rangeByFirmwareId (g : Generation) (capabilities firmwareId : Reply) :
    Except RangeError Range :=
  let (maxX, maxY) := Range.maximaIn firmwareId
  match g with
  | .v4 =>
    match Range.traceWidth maxX capabilities.second.toNat with
    | .ok width => .ok (.upTo maxX maxY width)
    | .error cause => .error (.invalidTraces cause)
  | .v1 | .v2 | .v3 => .ok (.upTo maxX maxY 0)

/-- The coordinate range of a touchpad whose capabilities are known. -/
def queryRange (p : Profile) : Talk RangeError Range := do
  match Range.fixed? p.generation p.firmware with
  | some range => return range
  | none =>
    let ask (command : UInt8) : Talk RangeError Reply :=
      (sendQuery p.queryEncoding command).adapt RangeError.query
    match p.generation with
    | .v1 => return {}
    | .v2 =>
      let firmwareId ← ask Query.firmwareId
      if measuresBySample p.firmware firmwareId then
        let sample ← ask Query.sample
        return rangeBySample p.firmware p.capabilities sample
      else
        return rangeByFirmware p.firmware p.capabilities
    | .v3 | .v4 =>
      let firmwareId ← ask Query.firmwareId
      ExceptT.mk (.done (rangeByFirmwareId p.generation p.capabilities firmwareId))

def queryResolution (p : Profile) : Talk CommandError Resolution := do
  let reply ← sendQuery p.queryEncoding Query.resolution
  return Resolution.ofReply reply

end Control

end Touchpad
