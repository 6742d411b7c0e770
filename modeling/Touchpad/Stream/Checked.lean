import Touchpad.Stream.Decoder
import Touchpad.Stream.Frame

/-!
# Decoding with numbers of 32 bits

`Touchpad.Stream.Decoder` computes positions and movements as integers without limits. Here they are
signed numbers of 32 bits: every difference and every absolute value is checked, and one that does
not fit is a fault. So are bytes that are not as many as a packet has.

## Main definitions

* `Checked.sub`, `Checked.magnitude`: the arithmetic
* `Checked.decode`: a complete packet, which may be put behind a frame

What is logged is left out.
-/

namespace Touchpad.Checked

/-! ## Arithmetic -/

/-- Whether a number is a signed number of 32 bits. -/
def Fits (n : Int) : Prop := -0x80000000 ≤ n ∧ n ≤ 0x7fffffff

instance (n : Int) : Decidable (Fits n) := inferInstanceAs (Decidable (_ ∧ _))

/-- A number that has to fit. -/
def fit (n : Int) : Except Fault Int := if Fits n then .ok n else .error (.overflow n)

/-- The difference of two numbers. -/
def sub (a b : Int) : Except Fault Int := fit (a - b)

/-- The absolute value of a number; that of the smallest one does not fit. -/
def magnitude (a : Int) : Except Fault Int := fit a.natAbs

/-! ## Gestures -/

def delta (g : Gesture) (p : Point) : Except Fault (Option (Int × Int)) :=
  match g.lastPoint with
  | none => return none
  | some last => do
    let dx ← sub p.x last.x
    let dy ← sub p.y last.y
    return some (dx, dy)

/-- Whether two positions differ by more than `distance`; the second axis may not matter. -/
def isBeyond (p start : Point) (distance : Nat) : Except Fault Bool := do
  let dx ← sub p.x start.x
  let dy ← sub p.y start.y
  let far ← magnitude dx
  if far > distance then return true
  else
    let far ← magnitude dy
    return far > distance

def move (t : Track) (distance : Nat) (p : Point) : Except Fault Track :=
  match t.start with
  | none => return { t with start := some p }
  | some start => do
    let beyond ← isBeyond p start distance
    return { t with inRange := t.inRange && !beyond }

def follow (g : Gesture) (slot : Nat) (p : Point) : Except Fault Gesture :=
  match g.track? slot with
  | none => return g
  | some t => do
    let moved ← move t g.distance p
    let g := g.setTrack slot moved
    return { g with mayTap := g.mayTap && (t.start.isNone || moved.inRange) }

def followUsable (g : Gesture) (slot : Nat) (p : Point) : Except Fault Gesture :=
  if p.isUsable then follow g slot p else return g

/-! ## Packets -/

def position (d : Decoder) (r : FingerReport) : Except Fault Point := do
  let y ← sub (Decoder.signed32 d.profile.maxY) r.y
  return ⟨r.x, y⟩

def oneFinger (d : Decoder) (r : FingerReport) (p : Point) :
    Except Fault (Decoder × List Event) := do
  if p.isUsable then
    let movement ← delta d.gesture p
    let gesture ← follow (d.gesture.moveTo p) 0 p
    return ({ d with gesture },
      movement.toList.map fun v => .motion v.1 v.2 r.buttons)
  else return (d, [])

def touch (d : Decoder) (kind : PacketKind) (r : FingerReport) :
    Except Fault (Decoder × List Event) := do
  match r.fingers with
  | 0 =>
    return ({ d with gesture := d.gesture.release, head := none },
      [.release (r.buttons.union d.gesture.tap)])
  | 1 =>
    let p ← position d r
    oneFinger d r p
  | 2 =>
    let p ← position d r
    if kind = .head then
      let gesture ← followUsable d.gesture 0 p
      return ({ d with gesture, head := some p }, [])
    else
      let gesture ← followUsable d.gesture 1 p
      return ({ d with gesture, head := none }, [])
  | _ => return (d, [])

def decodePacket (d : Decoder) (p : Packet) : Except Fault (Decoder × List Event) := do
  if p.kind.isDecodable then
    let (next, events) ← touch d p.kind p.report
    return ({ next with gesture := next.gesture.setFingers p.report.fingers }, events)
  else return (d, [])

def decode (d : Decoder) (bytes : List UInt8) : Except Fault (Decoder × List Event) :=
  match d.profile.generation with
  | .v3 =>
    match Packet.ofList? bytes with
    | some p => decodePacket d p
    | none => .error (.mismatch bytes.length)
  | .v1 | .v2 | .v4 => return (d, [])

end Touchpad.Checked
