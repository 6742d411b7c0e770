import Touchpad.Hardware.Profile

/-!
# Coordinate ranges and resolutions

The first generation and the early firmware of the second have a range that is fixed; the others
tell it in replies. The functions here unpack those replies; who asks for them is a matter of
`Touchpad.Control.Measure`.
-/

namespace Touchpad

/-- The coordinate range of a touchpad and the distance of its sensor traces. -/
structure Range where
  bounds : Bounds := {}
  width : Nat := 0
  deriving DecidableEq, Repr

namespace Range

/-- The bezel that the first generation reports as part of its range. -/
def bezel : Nat := 32

/-- The range of hardware whose firmware version fixes it. -/
def fixed? (g : Generation) (firmware : Nat) : Option Range :=
  match g with
  | .v1 => some { bounds := ⟨bezel, 576 - bezel, bezel, 384 - bezel⟩ }
  | .v2 =>
    if firmware ∈ [0x020800, 0x020b00, 0x020030] then some { bounds := ⟨0, 1152, 0, 768⟩ } else none
  | .v3 | .v4 => none

/-- The range from zero up to the given coordinates. -/
def upTo (maxX maxY : Nat) (width : Nat) : Range := { bounds := ⟨0, maxX, 0, maxY⟩, width }

/-- The largest coordinates in a firmware id: twelve bits each, the high four in the first byte. -/
def maximaIn (reply : Reply) : Nat × Nat :=
  (reply.first.toNat % 16 * 256 + reply.second.toNat,
    reply.first.toNat / 16 * 256 + reply.third.toNat)

/-- A number of sensor traces that does not fit the range. -/
structure InvalidTraces where
  traces : Nat
  maxX : Nat
  deriving DecidableEq, Repr

def InvalidTraces.message (e : InvalidTraces) : String :=
  "invalid trace count " ++ toString e.traces ++ " for x_max " ++ toString e.maxX

/-- The distance of two neighbouring sensor traces. -/
def traceWidth (maxX traces : Nat) : Except InvalidTraces Nat :=
  if traces < 2 ∨ maxX < traces then .error ⟨traces, maxX⟩ else .ok (maxX / (traces - 1))

end Range

namespace Resolution

/-- Dots per millimetre of a resolution code, which counts tens of dots per inch above 790. -/
def ofCode (code : Nat) : Nat := (code * 10 + 790) * 10 / 254

/-- The resolution in the reply to its query: one code in each half of the second byte. -/
def ofReply (reply : Reply) : Resolution :=
  ⟨ofCode (reply.second.toNat % 16), ofCode (reply.second.toNat / 16)⟩

end Resolution

end Touchpad
