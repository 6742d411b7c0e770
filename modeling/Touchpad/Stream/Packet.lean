import Touchpad.Hex.Printer
import Touchpad.Stream.Event

/-!
# Packets of the third generation

Six bytes, in which a finger report is spread as follows; dots are constant bits that tell the kinds
of packet apart.

    byte 0: n1  n0  w3  w2   .   .   R   L
    byte 1: p7  p6  p5  p4 x11 x10  x9  x8
    byte 2: x7  x6  x5  x4  x3  x2  x1  x0
    byte 3:  .   .  w1  w0   .   .   .   .
    byte 4: p3  p2  p1  p0 y11 y10  y9  y8
    byte 5: y7  y6  y5  y4  y3  y2  y1  y0
-/

namespace Touchpad

/-- The six bytes of a packet. -/
structure Packet where
  b0 : UInt8
  b1 : UInt8
  b2 : UInt8
  b3 : UInt8
  b4 : UInt8
  b5 : UInt8
  deriving DecidableEq, Repr

/-- What the constant bits of a packet say that it is. -/
inductive PacketKind where
  | unknown
  /-- The spurious packet after a finger has landed. -/
  | debounce
  /-- A report of one finger, or of the first of two. -/
  | head
  /-- A report of one finger, or of the second of two. -/
  | tail
  deriving DecidableEq, Repr

namespace PacketKind

def name : PacketKind → String
  | unknown => "Unknown"
  | debounce => "Debounce"
  | head => "V3Head"
  | tail => "V3Tail"

/-- Whether packets of this kind carry a finger report. -/
def isDecodable : PacketKind → Bool
  | head | tail => true
  | unknown | debounce => false

end PacketKind

/-- What a packet reports about the touch. -/
structure FingerReport where
  /-- The number of fingers, up to three. -/
  fingers : Nat
  buttons : Buttons
  x : Nat
  /-- The vertical coordinate, which grows upwards. -/
  y : Nat
  pressure : Nat
  width : Nat
  deriving DecidableEq, Repr

namespace Packet

def toList (p : Packet) : List UInt8 := [p.b0, p.b1, p.b2, p.b3, p.b4, p.b5]

/-- The packet that consists of six bytes. -/
def ofList? : List UInt8 → Option Packet
  | [b0, b1, b2, b3, b4, b5] => some ⟨b0, b1, b2, b3, b4, b5⟩
  | _ => none

/-- The packet that the hardware sends while a finger lands. -/
def debounce : Packet := ⟨0xc4, 0xff, 0xff, 0x02, 0xff, 0xff⟩

/-- The kind of a packet; the debounce packet has the constant bits of a head packet. -/
def kind (p : Packet) : PacketKind :=
  if p = debounce then .debounce
  else if p.b0 &&& 0x0c = 0x04 ∧ p.b3 &&& 0xcf = 0x02 then .head
  else if p.b0 &&& 0x0c = 0x0c ∧ p.b3 &&& 0xce = 0x0c then .tail
  else .unknown

/-- The finger report of a packet, read from its bits whatever its kind. -/
def report (p : Packet) : FingerReport where
  fingers := p.b0.toNat / 64
  buttons := ⟨p.b0.toNat.testBit 0, p.b0.toNat.testBit 1⟩
  x := p.b1.toNat % 16 * 256 + p.b2.toNat
  y := p.b4.toNat % 16 * 256 + p.b5.toNat
  pressure := p.b1.toNat / 16 * 16 + p.b4.toNat / 16
  width := p.b0.toNat / 16 % 4 * 4 + p.b3.toNat / 16 % 4

@[simp] theorem ofList?_toList (p : Packet) : ofList? p.toList = some p := rfl

theorem report_fingers_lt (p : Packet) : p.report.fingers < 4 := by
  have := p.b0.toNat_lt
  simp only [report]
  omega

theorem report_x_lt (p : Packet) : p.report.x < 4096 := by
  have := p.b2.toNat_lt
  simp only [report]
  omega

theorem report_y_lt (p : Packet) : p.report.y < 4096 := by
  have := p.b5.toNat_lt
  simp only [report]
  omega

end Packet

end Touchpad
