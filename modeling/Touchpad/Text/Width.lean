import Touchpad.Text.Emoji
import Touchpad.Text.Ligature

/-!
# Display width

How many columns a text takes on a terminal: the sum over its characters, except where characters
are shown as one. The width of a character then depends on what is behind it, so a text is read from
its end.

## Variation selectors

A selector says how the character in front of it is shown: as an emoji, as text, or as wide as an
East Asian character. It counts only directly behind a character that has that form. Several of them
may stand together in front of a ligature.

## Main definitions

* `width`: the columns that a text takes
-/

namespace Touchpad.Text

/-! ## What is behind a character -/

/-- What the text behind a character begins with. -/
inductive Behind where
  /-- Nothing that the character could be shown as one with. -/
  | plain
  | ligature (rest : LigatureEnd)
  | emoji (rest : EmojiEnd)
  deriving DecidableEq, Repr

namespace Behind

/-- What a character is for those in front of it when it stands by itself. -/
def ofChar (c : Char) : Behind :=
  match LigatureEnd.ofChar? c with
  | some l => .ligature l
  | none => (EmojiEnd.ofChar? c).elim .plain .emoji

/-- What a character sees across a selector: only a ligature. -/
def acrossSelector : Behind → Behind
  | .ligature l => if l.spansSelector then .ligature l else .plain
  | _ => .plain

/-- What a character sees across an emoji selector: also what it is joined to. -/
def acrossEmojiSelector : Behind → Behind
  | .emoji .joined => .emoji .joined
  | .emoji .joinedKeycap => .emoji .joinedKeycap
  | b => b.acrossSelector

/-- The columns that a character adds if it is shown as one with what is behind it. -/
def before? (c : Char) : Behind → Option (Int × Behind)
  | .plain => none
  | .ligature l => (l.before? c).map fun r => (r.1, r.2.elim .plain .ligature)
  | .emoji e => (e.before? c).map fun r => (r.1, .emoji r.2)

end Behind

/-! ## Selectors -/

/-- A form in which a character may be shown. -/
inductive Selector where
  | emoji
  | text
  | fullwidth
  deriving DecidableEq, Repr

namespace Selector

/-- The selector that a character is. -/
def ofChar? : Char → Option Selector
  | '\ufe0f' => some .emoji
  | '\ufe0e' => some .text
  | '\ufe01' => some .fullwidth
  | _ => none

/-- Whether a character has the form. -/
def applies : Selector → Char → Bool
  | .emoji, c => hasEmojiForm c
  | .text, c => hasTextForm c
  | .fullwidth, c => ['\u2018', '\u2019', '\u201c', '\u201d'].contains c

/-- The columns of a character in that form; an emoji that is joined to another adds none. -/
def widthBefore : Selector → Behind → Int × Behind
  | .emoji, .emoji _ => (0, .emoji .whole)
  | .emoji, _ => (2, .emoji .whole)
  | .text, _ => (1, .plain)
  | .fullwidth, _ => (2, .plain)

/-- What a character sees across the selector if it has the form. -/
def across : Selector → Behind → Behind
  | .emoji, b => b.acrossEmojiSelector
  | .text, b | .fullwidth, b => b.acrossSelector

end Selector

/-! ## Width of a text -/

/-- What the width of a character depends on. -/
structure Context where
  behind : Behind := .plain
  /-- The selectors directly behind the character, the nearest first. -/
  selectors : List Selector := []
  deriving DecidableEq, Repr

namespace Context

/-- The context across the selectors, where none of them applies. -/
def beyond (context : Context) : Behind :=
  if context.selectors.isEmpty then context.behind else context.behind.acrossSelector

/--
The context in front of a selector. The selectors behind it stay in front of a ligature, except that
an emoji selector counts nowhere but directly behind a character.
-/
def select (s : Selector) (context : Context) : Context :=
  let others := match context.beyond.acrossSelector with
    | .ligature _ => context.selectors.filter (· != .emoji)
    | _ => []
  ⟨s.across context.beyond, s :: others⟩

/-- The columns of a character that no selector applies to, and the context in front of it. -/
def columnsBeyond (c : Char) (context : Context) : Int × Context :=
  match Selector.ofChar? c, context.beyond.before? c with
  | some s, _ => (0, context.select s)
  | none, some (w, b) => (w, { behind := b })
  | none, none => (charWidth c, { behind := .ofChar c })

/-- The columns that a character takes in its context, and the context in front of it. -/
def columns (c : Char) (context : Context) : Int × Context :=
  match context.selectors.find? (·.applies c) with
  | some s =>
    let (w, b) := s.widthBefore context.behind
    (w, { behind := b })
  | none => context.columnsBeyond c

end Context

/-- The columns of a text with a character more in front, and the context in front of that. -/
def prepend (c : Char) (text : Int × Context) : Int × Context :=
  let (w, context) := text.2.columns c
  (w + text.1, context)

/-- The columns that a text takes. -/
def width (s : String) : Nat := (s.toList.foldr prepend (0, {})).1.toNat

end Touchpad.Text
