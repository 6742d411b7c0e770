/-!
# Characters and places of a YAML text

A text is read from left to right by a cursor, which knows its line, its column and the octets in
front of it on the line. All ways to write a line break are made one beforehand (`unifyBreaks`), so
that every character moves the cursor by one column or to the next line.
-/

namespace Touchpad.Yaml

/-! ## Characters -/

/-- Whether a character may stand in a YAML text at all. -/
def isAllowed (c : Char) : Bool :=
  let n := c.toNat
  n == 0x09 || n == 0x0a || n == 0x0d || (0x20 ≤ n && n ≤ 0x7e) || n == 0x85 ||
    (0xa0 ≤ n && n ≤ 0xd7ff) || (0xe000 ≤ n && n ≤ 0xfffd) || 0x10000 ≤ n

/-- Writes every line break as one line feed; line and paragraph separators stay what they are. -/
def unifyBreaks : List Char → List Char
  | '\r' :: '\n' :: cs => '\n' :: unifyBreaks cs
  | c :: cs => (if c = '\r' ∨ c = '\x85' then '\n' else c) :: unifyBreaks cs
  | [] => []

def isBreak (c : Char) : Bool := c == '\n' || c == '\u2028' || c == '\u2029'

def isBlank (c : Char) : Bool := c == ' ' || c == '\t'

/-- Whether a character separates words. -/
def isGap (c : Char) : Bool := isBlank c || isBreak c

/-- Whether a text begins with a separator or is at its end. -/
def atGap : List Char → Bool
  | [] => true
  | c :: _ => isGap c

/-- Whether a character may stand in the name of an anchor, a directive or a tag handle. -/
def isNameChar (c : Char) : Bool := c.isAlphanum || c == '_' || c == '-'

/-- The byte order mark, which is skipped where a line begins. -/
def byteOrderMark : Char := '\uFEFF'

/-- Whether a text begins with a document marker, which counts in the first column only. -/
def atMarker (marker : Char) : List Char → Bool
  | a :: b :: c :: cs => a == marker && b == marker && c == marker && atGap cs
  | _ => false

/-- Whether a text begins with a marker that starts or ends a document. -/
def atDocumentMarker (cs : List Char) : Bool := atMarker '-' cs || atMarker '.' cs

/-! ## Places -/

/-- A place in a text; all counts begin at zero. -/
structure Place where
  line : Nat := 0
  /-- The number of characters in front of it on its line. -/
  column : Nat := 0
  /-- The number of octets in front of it on its line. -/
  octets : Nat := 0
  deriving DecidableEq, Repr

def Place.after (p : Place) (c : Char) : Place :=
  if isBreak c then ⟨p.line + 1, 0, 0⟩ else ⟨p.line, p.column + 1, p.octets + c.utf8Size⟩

/-- The unread rest of a text and the place where it begins. -/
structure Cursor where
  rest : List Char
  place : Place := {}
  deriving DecidableEq, Repr

namespace Cursor

def advance : Cursor → Nat → Cursor
  | c, 0 => c
  | ⟨[], p⟩, _ + 1 => ⟨[], p⟩
  | ⟨c :: cs, p⟩, n + 1 => advance ⟨cs, p.after c⟩ n

/-- The leading characters of a class, and the cursor behind them. -/
def span (c : Cursor) (p : Char → Bool) : List Char × Cursor :=
  let taken := c.rest.takeWhile p
  (taken, c.advance taken.length)

/-- The cursor behind the leading characters of a class. -/
def skipWhile (c : Cursor) (p : Char → Bool) : Cursor := (c.span p).2

/-- The cursor behind spaces, tabs and a comment, if the line ends there. -/
def skipLineEnd? (c : Cursor) : Option Cursor :=
  let c := c.skipWhile isBlank
  let c := if c.rest.head? = some '#' then c.skipWhile fun x => !isBreak x else c
  match c.rest with
  | [] => some c
  | x :: _ => if isBreak x then some (c.advance 1) else none

end Cursor

end Touchpad.Yaml
