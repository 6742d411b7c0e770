/-!
# Hardware generations

There are four generations of the touchpad, which speak four dialects of one protocol. The firmware
version decides the generation; the generation decides the size of a packet, the encoding of queries
and registers, and which registers put the touchpad into absolute mode.
-/

namespace Touchpad

/-- How a byte of a query or a register access is framed on the bus. -/
inductive Encoding where
  /-- Four resolution settings that carry two bits each. -/
  | sliced
  /-- A vendor byte in front of the raw byte. -/
  | custom
  deriving DecidableEq, Repr

def Encoding.name : Encoding → String
  | sliced => "Sliced"
  | custom => "Custom"

/-- A register together with a value for it. -/
structure Setting where
  register : UInt8
  value : UInt8
  deriving DecidableEq, Repr

/-- A dialect of the protocol. -/
inductive Generation where
  | v1
  | v2
  | v3
  | v4
  deriving DecidableEq, Repr

namespace Generation

def number : Generation → Nat
  | v1 => 1
  | v2 => 2
  | v3 => 3
  | v4 => 4

def name (g : Generation) : String := "v" ++ toString g.number

/-- The generation of a controller: the low four bits of the leading byte of its version. -/
def ofController? : Nat → Option Generation
  | 2 | 4 => some v2
  | 5 => some v3
  | 6 => some v4
  | _ => none

/--
The generation of a firmware version. Early versions, and one later version, are of the first
generation whatever their controller.
-/
def ofFirmware? (firmware : Nat) : Option Generation :=
  if firmware < 0x020030 ∨ firmware = 0x020600 then some v1
  else ofController? (firmware / 0x10000 % 0x10)

def packetSize : Generation → Nat
  | v1 => 4
  | v2 | v3 | v4 => 6

def queryEncoding : Generation → Encoding
  | v1 | v2 => .sliced
  | v3 | v4 => .custom

def registerEncoding : Generation → Encoding
  | v1 => .sliced
  | v2 | v3 | v4 => .custom

/-- The settings that put the touchpad into absolute mode, in the order of writing. -/
def absoluteMode : Generation → List Setting
  | v1 => [⟨0x10, 0x16⟩, ⟨0x11, 0x8f⟩]
  | v2 => [⟨0x10, 0x54⟩, ⟨0x11, 0x88⟩, ⟨0x21, 0x60⟩]
  | v3 => [⟨0x10, 0x0b⟩]
  | v4 => [⟨0x07, 0x01⟩]

/-- Whether the mode register can be read back; the fourth generation has none. -/
def readsBackMode : Generation → Bool
  | v1 | v2 | v3 => true
  | v4 => false

theorem packetSize_pos (g : Generation) : 0 < g.packetSize := by cases g <;> decide

end Generation

end Touchpad
