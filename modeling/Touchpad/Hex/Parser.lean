import Touchpad.Text.Blank

/-!
# Bytes written as words of hexadecimal digits

Each word of a text is one byte: digits of either case, after any number of marks `0x` and at most
one plus sign. The first word that is no byte is reported as it stands.
-/

namespace Touchpad.Hex

/-- The value of a hexadecimal digit of either case. -/
def digit? (c : Char) : Option Nat :=
  if '0' ≤ c ∧ c ≤ '9' then some (c.toNat - '0'.toNat)
  else if 'a' ≤ c ∧ c ≤ 'f' then some (c.toNat - 'a'.toNat + 10)
  else if 'A' ≤ c ∧ c ≤ 'F' then some (c.toNat - 'A'.toNat + 10)
  else none

/-- Removes every mark `0x` at the front. -/
def dropMarks : List Char → List Char
  | '0' :: 'x' :: cs => dropMarks cs
  | cs => cs

/-- Removes one plus sign at the front. -/
def dropPlus : List Char → List Char
  | '+' :: cs => cs
  | cs => cs

/-- The number that a row of digits in the given base denotes; there is none without a digit. -/
def number? (digitValue? : Char → Option Nat) (base : Nat) : List Char → Option Nat
  | [] => none
  | cs => cs.foldlM (fun n c => (digitValue? c).map fun d => n * base + d) 0

/-- The byte that a word denotes. -/
def byte? (word : List Char) : Option UInt8 := do
  let n ← number? digit? 16 (dropPlus (dropMarks word))
  if n < 256 then some (UInt8.ofNat n) else none

/-- A word that is no byte. -/
structure InvalidWord where
  word : String
  deriving DecidableEq, Repr

/-- The byte that a word denotes, or the word itself as the fault. -/
def readWord (word : List Char) : Except InvalidWord UInt8 :=
  match byte? word with
  | some b => .ok b
  | none => .error ⟨String.ofList word⟩

/-- The bytes that the words of a text denote, or its first word that is no byte. -/
def parse (text : String) : Except InvalidWord (List UInt8) :=
  (Text.words text.toList).mapM readWord

end Touchpad.Hex
