import Touchpad.Stream.Parity

/-!
# The table of parity bits

The parity bits of all bytes are worked out once, in order. The entry of a number is the opposite of
that of the number without its lowest one, which is there already because it is smaller. A packet is
checked against the table with masks and shifts; `Touchpad.Stream.Parity` says the same bit by bit.
-/

namespace Touchpad.Parity

/-- An entry for each byte: one where the byte has an even number of ones, and else zero. -/
structure Table where
  entries : Vector UInt8 256

namespace Table

def get (t : Table) (b : UInt8) : UInt8 := t.entries.get ⟨b.toNat, b.toNat_lt⟩

/-- Enters the number `i`, in a table with all numbers below it. -/
def enter (t : Table) (i : Fin 256) : Table :=
  let rest := i.val &&& (i.val - 1)
  have hrest : rest < 256 := Nat.lt_of_le_of_lt Nat.and_le_left i.isLt
  ⟨t.entries.set i.val (t.entries.get ⟨rest, hrest⟩ ^^^ 1) i.isLt⟩

/-- The table with the numbers up to `n`; all others have the entry zero. -/
def upTo : (n : Nat) → n < 256 → Table
  | 0, _ => ⟨(Vector.replicate 256 0).set 0 1⟩
  | n + 1, h => (upTo n (Nat.lt_of_succ_lt h)).enter ⟨n + 1, h⟩

def full : Table := upTo 255 (by decide)

/-- Whether the parity bits of a packet are the entries of its bytes. -/
def accepts (t : Table) (firmware : Nat) : List UInt8 → Bool
  | b0 :: b1 :: b2 :: b3 :: _ =>
    let (p1, p2) :=
      if firmware < 0x020000 then ((b0 &&& 0x20) >>> 5, (b0 &&& 0x10) >>> 4)
      else ((b0 &&& 0x10) >>> 4, (b0 &&& 0x20) >>> 5)
    let p3 := (b0 &&& 0x04) >>> 2
    t.get b1 == p1 && t.get b2 == p2 && t.get b3 == p3
  | _ => false

end Table

end Touchpad.Parity
