import Touchpad.Log
import Touchpad.Stream.Event

/-!
# Gestures

Finger positions are followed across packets in order to report relative movement and to make a
click of a short touch. A touch counts as a click while every finger stays within the tap distance
of where it landed; how long it lasts does not matter.

Every operation on the state has a second function that gives the remarks it makes. The state never
depends on the remarks.
-/

namespace Touchpad

/-- A position on the touchpad. -/
structure Point where
  x : Int
  y : Int
  deriving DecidableEq, Repr

namespace Point

/-- The position that stands for none. -/
def origin : Point := ⟨0, 0⟩

def spelled (p : Point) : String :=
  "Point \x7b x: " ++ toString p.x ++ ", y: " ++ toString p.y ++ " \x7d"

/-- Whether a packet with this position says where the finger is: neither coordinate is zero. -/
def isUsable (p : Point) : Bool := p.x != 0 && p.y != 0

end Point

/-- What is known about one finger since it landed. -/
structure Track where
  /-- Where the finger landed. -/
  start : Option Point := none
  /-- Whether it has stayed within the tap distance of that point. -/
  inRange : Bool := true
  deriving DecidableEq, Repr

/-- Whether two positions differ by more than `distance` on either axis. -/
def Point.isBeyond (p start : Point) (distance : Nat) : Bool :=
  (p.x - start.x).natAbs > distance || (p.y - start.y).natAbs > distance

namespace Track

/-- The track after another position of its finger. -/
def move (t : Track) (distance : Nat) (p : Point) : Track :=
  match t.start with
  | none => { t with start := some p }
  | some start => { t with inRange := t.inRange && !p.isBeyond start distance }

end Track

/-- The state of a touch. -/
structure Gesture where
  first : Track := {}
  second : Track := {}
  /-- Whether a click is still possible for this touch. -/
  mayTap : Bool := true
  /-- Whether clicks are made at all. -/
  enabled : Bool
  /-- How far a finger may travel and still tap. -/
  distance : Nat
  /-- The number of fingers in the last packet. -/
  lastFingers : Nat := 0
  /-- The last position of a single finger. -/
  lastPoint : Option Point := none
  deriving DecidableEq, Repr

/-- What following a touch has to say. -/
inductive GestureRemark where
  | ignored (slot : Nat)
  | landed (slot : Nat) (p : Point)
  | moved (slot : Nat) (dx dy : Int)
  | leftRange (slot : Nat)
  | tapped (fingers : Nat)
  deriving DecidableEq, Repr

def GestureRemark.record : GestureRemark → Log.Record
  | ignored slot => Log.warn s!"Ignoring finger slot {slot}"
  | landed slot p => Log.trace s!"Start point {slot}: x {p.x}, y {p.y}"
  | moved slot dx dy => Log.trace s!"Slot {slot} x_diff {dx}, y_diff {dy}"
  | leftRange slot => Log.trace s!"Slot {slot} moved out of tap range"
  | tapped fingers => Log.debug s!"Tap to click with {fingers} finger(s)"

namespace Gesture

/-- The largest distance that two coordinates can have. -/
def maxDistance : Nat := 0x7fffffff

/-- The state before the first touch; a distance out of reach is cut to the largest one. -/
def new (enabled : Bool) (distance : Nat) : Gesture :=
  { enabled, distance := min distance maxDistance }

/-- The track of a finger slot; there are two. -/
def track? (g : Gesture) : Nat → Option Track
  | 0 => some g.first
  | 1 => some g.second
  | _ => none

/-- The state with another track in a finger slot. -/
def setTrack (g : Gesture) (slot : Nat) (t : Track) : Gesture :=
  match slot with
  | 0 => { g with first := t }
  | 1 => { g with second := t }
  | _ => g

def startPoint (g : Gesture) (slot : Nat) : Option Point := (g.track? slot).bind Track.start

def inRange (g : Gesture) (slot : Nat) : Bool := (g.track? slot).any Track.inRange

/-- Whether a release would make a click. -/
def isTapEligible (g : Gesture) : Bool := g.enabled && g.mayTap

/-- The movement from the last position of a single finger to this one. -/
def delta (g : Gesture) (p : Point) : Option (Int × Int) :=
  g.lastPoint.map fun last => (p.x - last.x, p.y - last.y)

/-- Keeps a position for the next movement. -/
def moveTo (g : Gesture) (p : Point) : Gesture := { g with lastPoint := some p }

/-- Follows the finger of a slot; leaving the tap distance spoils the whole touch. -/
def follow (g : Gesture) (slot : Nat) (p : Point) : Gesture :=
  match g.track? slot with
  | none => g
  | some t =>
    let moved := t.move g.distance p
    let g := g.setTrack slot moved
    -- where a finger lands it cannot have left its range
    { g with mayTap := g.mayTap && (t.start.isNone || moved.inRange) }

def followRemarks (g : Gesture) (slot : Nat) (p : Point) : List GestureRemark :=
  match g.track? slot with
  | none => [.ignored slot]
  | some t =>
    match t.start with
    | none => [.landed slot p]
    | some start =>
      .moved slot (p.x - start.x) (p.y - start.y) ::
        if t.inRange && p.isBeyond start g.distance then [.leftRange slot] else []

/-- The button that a release makes. -/
def tap (g : Gesture) : Buttons :=
  if g.isTapEligible then ⟨g.lastFingers == 1, g.lastFingers == 2⟩ else .none

/-- The state after all fingers were lifted. -/
def release (g : Gesture) : Gesture :=
  { g with first := {}, second := {}, mayTap := true, lastPoint := none }

def releaseRemarks (g : Gesture) : List GestureRemark :=
  if g.tap.isEmpty then [] else [.tapped g.lastFingers]

/-- Keeps the number of fingers of the packet that was decoded. -/
def setFingers (g : Gesture) (fingers : Nat) : Gesture := { g with lastFingers := fingers }

end Gesture

end Touchpad
