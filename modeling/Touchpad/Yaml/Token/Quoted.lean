import Touchpad.Hex.Parser
import Touchpad.Yaml.Token.Folding

/-!
# Quoted scalars

Between single quotes, a quote is written twice. Between double quotes, a backslash introduces an
escape; an escaped line break is dropped. Lines are folded in both.
-/

namespace Touchpad.Yaml

/-- The character that a one-letter escape stands for. -/
def escape? : Char → Option Char
  | '0' => some '\x00'
  | 'a' => some '\x07'
  | 'b' => some '\x08'
  | 't' | '\t' => some '\t'
  | 'n' => some '\n'
  | 'v' => some '\x0b'
  | 'f' => some '\x0c'
  | 'r' => some '\r'
  | 'e' => some '\x1b'
  | ' ' => some ' '
  | '\x22' => some '\x22'
  | '/' => some '/'
  | '\\' => some '\\'
  | 'N' => some '\x85'
  | '_' => some '\xa0'
  | 'L' => some '\u2028'
  | 'P' => some '\u2029'
  | _ => none

/-- The number of hexadecimal digits after the letter of a numeric escape. -/
def escapeDigits? : Char → Option Nat
  | 'x' => some 2
  | 'u' => some 4
  | 'U' => some 8
  | _ => none

/-- The character of a code point, which must be one. -/
def scalarValue? (n : Nat) : Option Char := if n.isValidChar then some (Char.ofNat n) else none

/-- What the next character of a quoted scalar means. -/
inductive QuoteState where
  | text
  /-- Inside a numeric escape, with that many digits to come. -/
  | digits (left value : Nat)
  deriving DecidableEq, Repr

/--
Reads the rest of a quoted scalar behind its opening quote. `done` is what has been read, in reverse
order, and `gap` is what has been read since the last word.
-/
def quotedFrom (quote : Char) (place : Place) (done : List Char) (gap : Gap) :
    QuoteState → List Char → Option (List Char × Cursor)
  | _, [] => none
  | .digits left value, c :: cs =>
    match Hex.digit? c with
    | none => none
    | some d =>
      let value := value * 16 + d
      if left = 1 then
        match scalarValue? value with
        | none => none
        | some x => quotedFrom quote (place.after c) (x :: done) .empty .text cs
      else quotedFrom quote (place.after c) done gap (.digits (left - 1) value) cs
  | .text, c :: cs =>
    if isGap c then quotedFrom quote (place.after c) done (gap.add c) .text cs
    else if place.column = 0 && atDocumentMarker (c :: cs) then none
    else
      let done := gap.folded ++ done
      let here := place.after c
      if c = quote then
        match cs with
        | '\x27' :: cs' =>
          if quote = '\x27' then
            quotedFrom quote (here.after quote) (quote :: done) .empty .text cs'
          else some (done.reverse, ⟨cs, here⟩)
        | _ => some (done.reverse, ⟨cs, here⟩)
      else if c = '\\' && quote = '\x22' then
        match cs with
        | [] => none
        | e :: cs' =>
          if isBreak e then quotedFrom quote (here.after e) done (.breaks none []) .text cs'
          else
            match escape? e, escapeDigits? e with
            | some x, _ => quotedFrom quote (here.after e) (x :: done) .empty .text cs'
            | none, some n => quotedFrom quote (here.after e) done .empty (.digits n 0) cs'
            | none, none => none
      else quotedFrom quote here (c :: done) .empty .text cs

/-- Reads the quoted scalar at the cursor, whose first character is the quote. -/
def quoted? (quote : Char) (c : Cursor) : Option (List Char × Cursor) :=
  let inside := c.advance 1
  quotedFrom quote inside.place [] .empty .text inside.rest

end Touchpad.Yaml
