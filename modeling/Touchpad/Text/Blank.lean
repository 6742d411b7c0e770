import Touchpad.Text.Ranges

/-!
# White space between words

The characters of the Unicode property `White_Space`, and the words of a text between runs of them.
-/

namespace Touchpad.Text

/-- The ranges of the property `White_Space`, in ascending order. -/
def blankRanges : List (Nat × Nat) :=
  [(0x09, 0x0d), (0x20, 0x20), (0x85, 0x85), (0xa0, 0xa0), (0x1680, 0x1680), (0x2000, 0x200a),
   (0x2028, 0x2029), (0x202f, 0x202f), (0x205f, 0x205f), (0x3000, 0x3000)]

/-- Whether a character has the property `White_Space`. -/
def isBlank (c : Char) : Bool := inRanges blankRanges c

/-- Puts a character in front of the word that is being read. -/
def extendWord (c : Char) : List (List Char) → List (List Char)
  | [] => [[c]]
  | w :: ws => (c :: w) :: ws

/--
The words of a text together with an unfinished first word: its head is what stands before the
first blank, and may be empty.
-/
def pieces : List Char → List (List Char)
  | [] => [[]]
  | c :: cs => if isBlank c then [] :: pieces cs else extendWord c (pieces cs)

/-- The non-empty runs of characters between white space, in order. -/
def words (cs : List Char) : List (List Char) := (pieces cs).filter fun w => !w.isEmpty

theorem words_nil : words [] = [] := rfl

end Touchpad.Text
