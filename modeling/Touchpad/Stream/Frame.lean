import Touchpad.Stream.Event

/-!
# Frames

A driver has room for one packet. The bytes of a packet are put into a buffer of six places, over
what the packet before has left there, and the packet is handed on once there are enough of them.

Every access to the buffer is checked here: one that does not fit is a fault, and nothing goes on
behind it. What is done with a complete packet is a parameter, the `handle` of `Framed.byte`.

## Main definitions

* `Frame.push`: one more byte in the buffer
* `feed`: several inputs, one after the other, with the events of all
* `Framed.bytes`, `Framed.chunks`: what arrives at a frame, byte by byte or in chunks
-/

namespace Touchpad

/-- What buffers and numbers of a fixed size do not allow. -/
inductive Fault where
  /-- A place outside a buffer. -/
  | outside (place : Nat)
  /-- Bytes that do not fill the place they are copied to. -/
  | mismatch (length : Nat)
  /-- A number that needs more than 32 bits. -/
  | overflow (value : Int)
  deriving DecidableEq, Repr

/-- Takes inputs one after the other and collects their events, until one of them is a fault. -/
def feed {σ α : Type} (step : σ → α → Except Fault (σ × List Event)) (s : σ) :
    List α → Except Fault (σ × List Event)
  | [] => .ok (s, [])
  | a :: as => do
    let (next, events) ← step s a
    let (last, rest) ← feed step next as
    return (last, events ++ rest)

/-! ## The buffer -/

def Frame.capacity : Nat := 6

/-- The buffer of a packet that is not complete. -/
structure Frame where
  buffer : Vector UInt8 Frame.capacity
  /-- How many bytes of the packet have arrived. -/
  filled : Nat
  /-- How many bytes make a packet. -/
  size : Nat
  deriving DecidableEq, Repr

namespace Frame

/-- A frame for packets of a size, which is brought into the limits of the buffer. -/
def new (size : Nat) : Frame where
  buffer := Vector.replicate capacity 0
  filled := 0
  size := max 1 (min size capacity)

/-- Puts a byte into a place of the buffer. -/
def store (f : Frame) (place : Nat) (b : UInt8) : Except Fault Frame :=
  if h : place < capacity then .ok { f with buffer := f.buffer.set place b h }
  else .error (.outside place)

/-- The bytes in the first places of the buffer. -/
def front (f : Frame) (n : Nat) : Except Fault (List UInt8) :=
  if n ≤ capacity then .ok (f.buffer.toList.take n) else .error (.outside n)

/-- Takes one more byte. If it completes a packet, the packet comes out and the frame is empty. -/
def push (f : Frame) (b : UInt8) : Except Fault (Frame × Option (List UInt8)) := do
  let f ← f.store f.filled b
  if f.filled + 1 < f.size then return ({ f with filled := f.filled + 1 }, none)
  else
    let packet ← f.front f.size
    return ({ f with filled := 0 }, some packet)

end Frame

/-! ## A state behind a frame -/

/-- A state that packets act on, behind the frame that collects them. -/
structure Framed (σ : Type) where
  frame : Frame
  inner : σ

namespace Framed

variable {σ : Type} (handle : σ → List UInt8 → Except Fault (σ × List Event))

/-- Takes one byte, and handles the packet that it completes, if it does. -/
def byte (d : Framed σ) (b : UInt8) : Except Fault (Framed σ × List Event) := do
  match ← d.frame.push b with
  | (frame, none) => return (⟨frame, d.inner⟩, [])
  | (frame, some packet) =>
    let (inner, events) ← handle d.inner packet
    return (⟨frame, inner⟩, events)

def bytes : Framed σ → List UInt8 → Except Fault (Framed σ × List Event) := feed (byte handle)

def chunks : Framed σ → List (List UInt8) → Except Fault (Framed σ × List Event) :=
  feed (bytes handle)

end Framed

end Touchpad
