/-!
# Parity of first-generation packets

The first byte of a packet holds one parity bit for each of the three bytes that follow it. A bit is
set where its byte has an even number of ones, so that byte and bit together have an odd number.
-/

namespace Touchpad.Parity

/-- Whether a number has an even number of ones: taking the lowest one away changes the answer. -/
def evenOnes (n : Nat) : Bool :=
  if n = 0 then true else !evenOnes (n &&& (n - 1))
termination_by n
decreasing_by
  have := @Nat.and_le_right n (n - 1)
  omega

/-- The parity bit that belongs to a byte. -/
def bit (b : UInt8) : Bool := evenOnes b.toNat

/-- The places of the parity bits in the first byte; old firmware has the first two swapped. -/
def places (firmware : Nat) : Nat × Nat × Nat :=
  if firmware < 0x020000 then (5, 4, 2) else (4, 5, 2)

/-- Whether the parity bits of a packet fit its bytes. -/
def accepts (firmware : Nat) : List UInt8 → Bool
  | b0 :: b1 :: b2 :: b3 :: _ =>
    let (p1, p2, p3) := places firmware
    bit b1 == b0.toNat.testBit p1 && bit b2 == b0.toNat.testBit p2 &&
      bit b3 == b0.toNat.testBit p3
  | _ => false

end Touchpad.Parity
