import Touchpad.Text.CharWidth

/-!
# Ligatures

Some scripts write several letters as one sign. A text is read from its end, so that the rest of a
ligature (`LigatureEnd`) is known when its first letter comes. Most ligatures form across joiners
and variation selectors; some form only across a joiner.

## Main definitions

* `LigatureEnd.ofChar?`: the letters that end a ligature
* `LigatureEnd.before?`: how a ligature goes on to the left
-/

namespace Touchpad.Text

/-! ## Classes of characters -/

/-- Whether a character is an Arabic letter that is written like lam. -/
def isLam (c : Char) : Bool :=
  inRanges [(0x644, 0x644), (0x6b5, 0x6b8), (0x76a, 0x76a), (0x8a6, 0x8a6), (0x8c7, 0x8c7)] c

/-- Whether a character is an Arabic letter that is written like alef. -/
def isAlef (c : Char) : Bool :=
  inRanges [(0x622, 0x623), (0x625, 0x625), (0x627, 0x627), (0x671, 0x673), (0x675, 0x675),
    (0x773, 0x774), (0x870, 0x882)] c

/-- Whether a character is a Khmer letter that can be written below another. -/
def isSubscriptLetter (c : Char) : Bool :=
  inRanges [(0x1780, 0x1782), (0x1784, 0x1787), (0x1789, 0x178c), (0x178e, 0x1793),
    (0x1795, 0x1798), (0x179b, 0x179d), (0x17a0, 0x17a0), (0x17a2, 0x17a2), (0x17a7, 0x17a7),
    (0x17ab, 0x17ac), (0x17af, 0x17af)] c

def isTifinagh (c : Char) : Bool := inRanges [(0x2d31, 0x2d65), (0x2d6f, 0x2d6f)] c

/-- The characters without a column that separate Arabic letters. -/
def separatorRanges : List (Nat × Nat) :=
  [(0x605, 0x605), (0x890, 0x891), (0x8e2, 0x8e2), (0x9be, 0x9be), (0x9d7, 0x9d7), (0xb3e, 0xb3e),
   (0xb57, 0xb57), (0xbbe, 0xbbe), (0xbd7, 0xbd7), (0xcc0, 0xcc0), (0xcc2, 0xcc2), (0xcc7, 0xcc8),
   (0xcca, 0xccb), (0xcd5, 0xcd6), (0xd3e, 0xd3e), (0xd4e, 0xd4e), (0xd57, 0xd57), (0xdcf, 0xdcf),
   (0xddf, 0xddf), (0x1160, 0x11ff), (0x1715, 0x1715), (0x1734, 0x1734), (0x180e, 0x180e),
   (0x1b35, 0x1b35), (0x1b3b, 0x1b3b), (0x1b3d, 0x1b3d), (0x1b43, 0x1b44), (0x1baa, 0x1baa),
   (0x1bf2, 0x1bf3), (0x200c, 0x200d), (0x2065, 0x2069), (0x302e, 0x302f), (0x3164, 0x3164),
   (0xa8fa, 0xa8fa), (0xa953, 0xa953), (0xa9c0, 0xa9c0), (0xd7b0, 0xd7c6), (0xd7cb, 0xd7fb),
   (0xffa0, 0xffa0), (0xfff0, 0xfff8), (0x111c0, 0x111c0), (0x111c2, 0x111c3), (0x11235, 0x11235),
   (0x1133e, 0x1133e), (0x1134d, 0x1134d), (0x11357, 0x11357), (0x113b8, 0x113b8),
   (0x113c2, 0x113c2), (0x113c5, 0x113c5), (0x113c7, 0x113c9), (0x113cf, 0x113cf),
   (0x113d1, 0x113d1), (0x114b0, 0x114b0), (0x114bd, 0x114bd), (0x115af, 0x115af),
   (0x116b6, 0x116b6), (0x11930, 0x11930), (0x1193d, 0x1193d), (0x1193f, 0x1193f),
   (0x11941, 0x11941), (0x11a84, 0x11a89), (0x11d46, 0x11d46), (0x11f02, 0x11f02),
   (0x11f41, 0x11f41), (0x16ff0, 0x16ff1), (0x1d165, 0x1d166), (0x1d16d, 0x1d172),
   (0xe0000, 0xe0000), (0xe0002, 0xe001f), (0xe0080, 0xe00ff), (0xe01f0, 0xe0fff)]

/-- Whether Arabic letters are joined as if a character between them were not there. -/
def isTransparent (c : Char) : Bool := isZeroWidth c && !inRanges separatorRanges c

/-- Whether a character is a mark that is ignored by default. -/
def isIgnoredMark (c : Char) : Bool :=
  inRanges [(0x34f, 0x34f), (0x17b4, 0x17b5), (0x180b, 0x180d), (0x180f, 0x180f), (0xfe00, 0xfe0f),
    (0xe0100, 0xe01ef)] c

/-! ## Ligatures by script -/

/-- What a text begins with, as far as it may be the rest of a ligature. -/
inductive LigatureEnd where
  /-- An Arabic alef, which a lam goes in front of. -/
  | alef
  /-- A Hebrew lamed, which an alef is joined to. -/
  | lamed (joined : Bool)
  /-- A Khmer letter, which the sign of a subscript goes in front of. -/
  | subscript
  /-- A Buginese ya, which the vowel i is joined to. -/
  | ya (joined : Bool)
  /-- The same with the vowel, which the letter a goes in front of. -/
  | vowelYa
  /-- A Tifinagh consonant, which another is joined to. -/
  | consonant (joined : Bool)
  /-- The same with the sign that joins consonants. -/
  | joinedConsonant
  /-- A Lisu tone letter, which another goes in front of. -/
  | tone
  /-- An Orkhon i, which an ic is joined to. -/
  | orkhon (joined : Bool)
  /-- A Kirat Rai vowel e, which goes into a longer vowel. -/
  | vowelE
  /-- A Kirat Rai vowel ai, which goes into a longer vowel. -/
  | vowelAi
  deriving DecidableEq, Repr

namespace LigatureEnd

/-- What a character is the rest of when it stands by itself. -/
def ofChar? (c : Char) : Option LigatureEnd :=
  if isAlef c then some .alef
  else if isSubscriptLetter c then some .subscript
  else if isTifinagh c then some (.consonant false)
  else match c.toNat with
    | 0x5dc => some (.lamed false)
    | 0x1a10 => some (.ya false)
    | 0xa4fc | 0xa4fd => some .tone
    | 0x10c03 => some (.orkhon false)
    | 0x16d67 => some .vowelE
    | 0x16d68 => some .vowelAi
    | _ => none

/-- Whether a ligature forms across a variation selector. -/
def spansSelector : LigatureEnd → Bool
  | .vowelE | .vowelAi => false
  | _ => true

/-- The rest of a ligature with a joiner in front of it. -/
def join : LigatureEnd → LigatureEnd
  | .lamed _ => .lamed true
  | .ya _ => .ya true
  | .consonant _ => .consonant true
  | .orkhon _ => .orkhon true
  | l => l

/-- The columns that a letter adds in front of the rest of its ligature, and the rest then. -/
def letterBefore? (c : Char) : LigatureEnd → Option (Int × Option LigatureEnd)
  | .alef =>
    if isLam c then some (0, none) else if isTransparent c then some (0, some .alef) else none
  | .lamed true => if c.toNat = 0x5d0 then some (0, none) else none
  | .subscript => if c.toNat = 0x17d2 then some (-1, none) else none
  | .ya true => if c.toNat = 0x1a17 then some (0, some .vowelYa) else none
  | .vowelYa => if c.toNat = 0x1a15 then some (0, none) else none
  | .consonant joined =>
    if c.toNat = 0x2d7f then some (1, some .joinedConsonant)
    else if joined && isTifinagh c then some (0, none)
    else none
  | .joinedConsonant => if isTifinagh c then some (-1, none) else none
  | .tone => if inRanges [(0xa4f8, 0xa4fb)] c then some (0, none) else none
  | .orkhon true => if c.toNat = 0x10c32 then some (0, none) else none
  | .vowelE =>
    match c.toNat with
    | 0x16d63 | 0x16d69 => some (0, none)
    | 0x16d67 => some (0, some .vowelAi)
    | 0x16d68 => some (1, some .vowelE)
    | _ => none
  | .vowelAi => if c.toNat = 0x16d63 then some (0, none) else none
  | .lamed false | .ya false | .orkhon false => none

/--
The columns that a character adds in front of the rest of a ligature, if it belongs to the ligature,
and what the rest is then. All ligatures but those of alef form across joiners and ignored marks.
-/
def before? (c : Char) (l : LigatureEnd) : Option (Int × Option LigatureEnd) :=
  if l.spansSelector && l != .alef && c == '\u200d' then some (0, some l.join)
  else if l.spansSelector && l != .alef && isIgnoredMark c then some (0, some l)
  else l.letterBefore? c

end LigatureEnd

end Touchpad.Text
