import Touchpad.Bus.Request
import Touchpad.Hardware.Generation

/-!
# Device profiles

Everything that is known about a touchpad. Detection resolves a profile from the firmware version,
and start-up completes it with the capabilities, the registers that were written, the coordinate
range and the resolution.
-/

namespace Touchpad

/-- The absolute coordinates that a touchpad reports. -/
structure Bounds where
  minX : Nat := 0
  maxX : Nat := 0
  minY : Nat := 0
  maxY : Nat := 0
  deriving DecidableEq, Repr

/-- A sensor resolution in dots per millimetre. -/
structure Resolution where
  x : Nat := 0
  y : Nat := 0
  deriving DecidableEq, Repr

/-- What is known about a touchpad. -/
structure Profile where
  generation : Generation
  firmware : Nat
  /-- The reply to the capabilities query. -/
  capabilities : Reply
  /-- Whether packets of the first generation are checked for parity. -/
  parityCheck : Bool
  /-- Whether the firmware misreports coordinates where a touch starts. -/
  jumpyCursor : Bool
  reportsPressure : Bool
  /-- How much the decoder logs: nothing at zero. -/
  debug : Nat
  /-- The settings that were written, in order. -/
  registers : List Setting
  bounds : Bounds
  /-- The distance of two sensor traces. -/
  width : Nat
  resolution : Resolution
  deriving DecidableEq, Repr

namespace Profile

/-- The profile of a firmware version, before anything was asked of the device. -/
def ofGeneration (g : Generation) (firmware : Nat) : Profile where
  generation := g
  firmware := firmware
  capabilities := Reply.zero
  parityCheck := true
  jumpyCursor := firmware = 0x020022 ∨ firmware = 0x020600
  reportsPressure := g ≠ .v1 ∧ 0x020800 ≤ firmware
  debug := if g = .v1 then 0 else 2
  registers := []
  bounds := {}
  width := 0
  resolution := {}

/-- The profile of a firmware version whose generation is known. -/
def ofFirmware? (firmware : Nat) : Option Profile :=
  (Generation.ofFirmware? firmware).map (ofGeneration · firmware)

def packetSize (p : Profile) : Nat := p.generation.packetSize

def queryEncoding (p : Profile) : Encoding := p.generation.queryEncoding

def maxY (p : Profile) : Nat := p.bounds.maxY

def hasRocker (p : Profile) : Bool := p.capabilities.first &&& 0x04 != 0

/-- The value that was first written to a register. -/
def register? (p : Profile) (reg : UInt8) : Option UInt8 :=
  (p.registers.find? fun s => s.register == reg).map Setting.value

def firmwareText (p : Profile) : String := Hex.version p.firmware

def rangeX (p : Profile) : String := toString p.bounds.minX ++ ".." ++ toString p.bounds.maxX

def rangeY (p : Profile) : String := toString p.bounds.minY ++ ".." ++ toString p.bounds.maxY

/-- A profile on one line. -/
def summary (p : Profile) : String :=
  "Elantech " ++ p.generation.name ++ " (firmware " ++ p.firmwareText ++ ") x: " ++ p.rangeX ++
    " y: " ++ p.rangeY

end Profile

end Touchpad
