import Touchpad.Hardware.Profile
import Touchpad.Settings.Config
import Touchpad.Stream.Gesture
import Touchpad.Stream.Packet
import Touchpad.Stream.Parity

/-!
# Decoding the packet stream

The bytes of a touchpad are cut into packets of a fixed size, and each complete packet is decoded by
itself. Only packets of the third generation become events. Two fingers are reported by two packets:
a head for the first finger, and a tail for the second.

## Main definitions

* `Decoder.byte`, `Decoder.bytes`: one more byte, or several
* `Decoder.decode`: a complete packet
* `Decoder.reportFingers`: the finger report of a packet

What the decoder logs is kept apart from the events, as a list of remarks.
-/

namespace Touchpad

/-- What decoding has to say beside the events. -/
inductive Remark where
  | arrived (index : Nat) (byte : UInt8)
  | badParity (packet : List UInt8)
  | notDecoded (g : Generation)
  | dropped (kind : PacketKind) (packet : Packet)
  | gesture (remark : GestureRemark)
  /-- A head and the tail that belongs to it. -/
  | twoFingers (first second : Point)
  | report (report : FingerReport) (first second : Point)
  deriving DecidableEq, Repr

def Remark.record : Remark → Log.Record
  | arrived index byte => Log.trace ("Byte " ++ toString index ++ ": " ++ Hex.markedByte byte)
  | badParity packet => Log.trace ("Dropping packet with bad parity: " ++ Hex.listed packet)
  | notDecoded g =>
    Log.trace ("Absolute packets are not decoded for " ++ g.name ++ " hardware")
  | dropped kind packet =>
    Log.trace ("Dropping " ++ kind.name ++ " packet: " ++ Hex.listed packet.toList)
  | gesture remark => remark.record
  | twoFingers first second =>
    Log.trace ("Two finger sample: " ++ first.spelled ++ " " ++ second.spelled)
  | report r first second =>
    Log.debug (s!"fingers {r.fingers}, x1 {first.x}, y1 {first.y}, x2 {second.x}, y2 {second.y}" ++
      s!", width {r.width}, pres {r.pressure}")

/-- What decoding yields. -/
structure Decoded where
  events : List Event := []
  remarks : List Remark := []
  deriving DecidableEq, Repr

namespace Decoded

def append (a b : Decoded) : Decoded := ⟨a.events ++ b.events, a.remarks ++ b.remarks⟩

instance : Append Decoded := ⟨append⟩

def remark (r : Remark) : Decoded := { remarks := [r] }

def records (d : Decoded) : List Log.Record := d.remarks.map Remark.record

end Decoded

structure Decoder where
  profile : Profile
  gesture : Gesture
  /-- The bytes of the packet that is not complete yet. -/
  collected : List UInt8 := []
  /-- The position in a head packet that waits for its tail. -/
  head : Option Point := none
  /-- How much is logged. -/
  debug : Nat
  /-- Whether packets of the first generation are checked for parity. -/
  parityCheck : Bool
  deriving DecidableEq, Repr

namespace Decoder

/-- A decoder for a touchpad; the options win over the profile. -/
def new (p : Profile) (config : Config) : Decoder where
  profile := p
  gesture := Gesture.new config.tapToClick config.tapDistance
  debug := config.debug.getD p.debug
  parityCheck := config.parityCheck.getD p.parityCheck

/-- The record that a new decoder logs. -/
def started (p : Profile) : Log.Record :=
  Log.info ("Started Elantech " ++ p.generation.name ++ " driver.")

def pending (d : Decoder) : Nat := d.collected.length

/-- A 32-bit number whose highest bit is its sign. -/
def signed32 (n : Nat) : Int := Int.bmod n UInt32.size

/-- The position in a finger report, with the vertical axis turned to grow downwards. -/
def position (d : Decoder) (r : FingerReport) : Point := ⟨r.x, signed32 d.profile.maxY - r.y⟩

/-- Decodes the position of a finger into a slot, if it is usable. -/
def followUsable (d : Decoder) (slot : Nat) (p : Point) : Decoder × Decoded :=
  if p.isUsable then
    ({ d with gesture := d.gesture.follow slot p },
      { remarks := (d.gesture.followRemarks slot p).map .gesture })
  else (d, {})

/-- A packet without fingers: everything was lifted. -/
def liftAll (d : Decoder) (r : FingerReport) : Decoder × Decoded :=
  ({ d with gesture := d.gesture.release, head := none },
    { events := [.release (r.buttons.union d.gesture.tap)]
      remarks := d.gesture.releaseRemarks.map .gesture })

/-- A packet with one finger: a usable position is a movement from the one before. -/
def oneFinger (d : Decoder) (r : FingerReport) (p : Point) : Decoder × Decoded :=
  if p.isUsable then
    let events := (d.gesture.delta p).toList.map fun v => Event.motion v.1 v.2 r.buttons
    let moved := { d with gesture := d.gesture.moveTo p }
    let (next, decoded) := moved.followUsable 0 p
    (next, { decoded with events })
  else (d, {})

/-- A head packet of two fingers, which waits for its tail. -/
def twoFingerHead (d : Decoder) (p : Point) : Decoder × Decoded :=
  let (next, decoded) := d.followUsable 0 p
  ({ next with head := some p }, decoded)

/-- A tail packet of two fingers, which belongs to the head that waits. -/
def twoFingerTail (d : Decoder) (p : Point) : Decoder × Decoded :=
  let (next, decoded) := d.followUsable 1 p
  match d.head with
  | none => (next, decoded)
  | some first =>
    ({ next with head := none }, decoded ++ Decoded.remark (.twoFingers first p))

/-- What a finger report does to the state, and the two positions that are logged with it. -/
def touch (d : Decoder) (kind : PacketKind) (r : FingerReport) :
    Decoder × Decoded × Point × Point :=
  let p := d.position r
  match r.fingers with
  | 0 =>
    let (next, decoded) := d.liftAll r
    (next, decoded, .origin, .origin)
  | 1 =>
    let (next, decoded) := d.oneFinger r p
    (next, decoded, p, .origin)
  | 2 =>
    if kind = .head then
      let (next, decoded) := d.twoFingerHead p
      (next, decoded, p, .origin)
    else
      let (next, decoded) := d.twoFingerTail p
      (next, decoded, d.head.getD .origin, p)
  | _ => (d, {}, .origin, .origin)

/-- Decodes a finger report of a head or a tail packet. -/
def reportFingers (d : Decoder) (kind : PacketKind) (r : FingerReport) : Decoder × Decoded :=
  let (next, decoded, first, second) := d.touch kind r
  let decoded :=
    if d.debug > 1 then decoded ++ Decoded.remark (.report r first second) else decoded
  -- only now, because a release looks at the number of fingers in the packet before
  ({ next with gesture := next.gesture.setFingers r.fingers }, decoded)

/-- Decodes a packet of the third generation. -/
def decodePacket (d : Decoder) (p : Packet) : Decoder × Decoded :=
  if p.kind.isDecodable then d.reportFingers p.kind p.report
  else (d, .remark (.dropped p.kind p))

/-- Decodes the bytes of a complete packet. -/
def decode (d : Decoder) (bytes : List UInt8) : Decoder × Decoded :=
  match d.profile.generation with
  | .v1 =>
    if d.parityCheck && !Parity.accepts d.profile.firmware bytes then
      (d, .remark (.badParity bytes))
    else (d, {})
  | .v3 =>
    match Packet.ofList? bytes with
    | some p => d.decodePacket p
    | none => (d, {})
  | .v2 | .v4 => (d, .remark (.notDecoded d.profile.generation))

/-- What is logged about a single byte. -/
def arrival (d : Decoder) (b : UInt8) : Decoded :=
  if d.debug > 2 then .remark (.arrived d.pending b) else {}

/-- Takes one byte, and decodes the packet that it completes, if it does. -/
def byte (d : Decoder) (b : UInt8) : Decoder × Decoded :=
  let bytes := d.collected ++ [b]
  if bytes.length < d.profile.packetSize then
    ({ d with collected := bytes }, d.arrival b)
  else
    let emptied := { d with collected := [] }
    let (next, decoded) := emptied.decode bytes
    (next, d.arrival b ++ decoded)

/-- Takes bytes one after the other. -/
def bytes (d : Decoder) : List UInt8 → Decoder × Decoded
  | [] => (d, {})
  | b :: bs =>
    let (next, decoded) := d.byte b
    let (last, rest) := next.bytes bs
    (last, decoded ++ rest)

end Decoder

end Touchpad
