/-!
# Hexadecimal text of numbers and bytes

Lower-case digits, with zeros in front up to a least number of digits and never cut. A number that
stands in a sentence carries the mark `0x`; a row of bytes does not.
-/

namespace Touchpad.Hex

/-- The digits of `n`, with zeros in front up to `width` digits. -/
def padded (width n : Nat) : List Char :=
  let digits := Nat.toDigits 16 n
  List.replicate (width - digits.length) '0' ++ digits

/-- A number with at least `width` digits behind the mark `0x`. -/
def marked (width n : Nat) : String := String.ofList ('0' :: 'x' :: padded width n)

/-- The two digits of a byte. -/
def byte (b : UInt8) : String := String.ofList (padded 2 b.toNat)

/-- A byte behind the mark `0x`. -/
def markedByte (b : UInt8) : String := marked 2 b.toNat

/-- Bytes as a list in square brackets, such as `[3c, 03, c8]`. -/
def listed (bs : List UInt8) : String := "[" ++ ", ".intercalate (bs.map byte) ++ "]"

/-- Bytes one after the other with a blank between two. -/
def spaced (bs : List UInt8) : String := " ".intercalate (bs.map byte)

/-- A 24-bit version number: six digits or more, behind the mark `0x`. -/
def version (n : Nat) : String := marked 6 n

end Touchpad.Hex
