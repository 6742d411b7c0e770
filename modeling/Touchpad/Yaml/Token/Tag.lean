import Touchpad.Hex.Parser
import Touchpad.Yaml.Cursor
import Touchpad.Yaml.Token

/-!
# Anchors, tags and directives

The tokens that begin with an indicator and go on with a name: anchors and aliases, tags in their
three forms, and the directives in front of a document.
-/

namespace Touchpad.Yaml

/-! ## Anchors and aliases -/

/-- Whether a name of an anchor may end in front of this text. -/
def endsAnchor : List Char → Bool
  | [] => true
  | c :: _ => isGap c || ['?', ':', ',', ']', '\x7d', '%', '@', '\x60'].contains c

/-- Reads the name behind the indicator at the cursor. -/
def anchorName? (c : Cursor) : Option (List Char × Cursor) :=
  let (name, c) := (c.advance 1).span isNameChar
  if name.isEmpty || !endsAnchor c.rest then none else some (name, c)

/-! ## Tags -/

/-- Whether a character may stand in the address of a tag; `%` introduces an octet. -/
def isUriChar (verbatim : Bool) (c : Char) : Bool :=
  isNameChar c || [';', '/', '?', ':', '@', '&', '=', '+', '$', '.', '!', '~', '*', '\x27', '(',
    ')'].contains c || (verbatim && [',', '[', ']'].contains c)

/-- The number of octets of a character in UTF-8 by its first octet. -/
def octetCount? (octet : Nat) : Option Nat :=
  if octet < 0x80 then some 1
  else if octet / 0x20 = 6 then some 2
  else if octet / 0x10 = 14 then some 3
  else if octet / 0x08 = 30 then some 4
  else none

/--
Reads an address as octets. `pending` is the number of octets that the character being spelled with
`%` still lacks. Also returns the number of characters that were read.
-/
def uri? (verbatim : Bool) (pending : Nat) : List Char → Option (List Char × Nat)
  | [] => if pending = 0 then some ([], 0) else none
  | '%' :: a :: b :: cs => do
    let octet := (← Hex.digit? a) * 16 + (← Hex.digit? b)
    let left ←
      if pending = 0 then (octetCount? octet).map (· - 1)
      else if octet / 0x40 = 2 then some (pending - 1) else none
    let (rest, size) ← uri? verbatim left cs
    return (Char.ofNat octet :: rest, size + 3)
  | c :: cs =>
    if pending = 0 && c != '%' then
      if isUriChar verbatim c then do
        let (rest, size) ← uri? verbatim 0 cs
        return (c :: rest, size + 1)
      else some ([], 0)
    else none

/-- The octets of an address up to the first zero, which ends it. -/
def cutAtZero (cs : List Char) : List Char := cs.takeWhile (· != '\x00')

/-- Reads an address at the cursor, which may be empty only behind a beginning of it. -/
def address? (verbatim : Bool) (beginning : List Char) (c : Cursor) :
    Option (List Char × Cursor) := do
  let (octets, size) ← uri? verbatim 0 c.rest
  if beginning.isEmpty && octets.isEmpty then none
  else return (cutAtZero (beginning.drop 1 ++ octets), c.advance size)

/-- Reads a tag handle: an exclamation mark, a name, and another mark, if there is one. -/
def handle? (c : Cursor) : Option (List Char × Cursor) :=
  if c.rest.head? = some '!' then
    let (name, c) := (c.advance 1).span isNameChar
    if c.rest.head? = some '!' then some ('!' :: name ++ ['!'], c.advance 1)
    else some ('!' :: name, c)
  else none

/-- Whether what was read as a handle is one that a tag can use: it ends as it begins. -/
def isNamedHandle (handle : List Char) : Bool := handle.length > 1 && handle.getLast? == some '!'

/-- Reads a tag in angle brackets, or with a handle, or without one. -/
def tagName? (c : Cursor) : Option (TagName × Cursor) := do
  if (c.advance 1).rest.head? = some '<' then
    let (suffix, c) ← address? true [] (c.advance 2)
    if c.rest.head? = some '>' then return (⟨[], suffix⟩, c.advance 1) else none
  else
    let (handle, c) ← handle? c
    if isNamedHandle handle then
      let (suffix, c) ← address? false [] c
      return (⟨handle, suffix⟩, c)
    else
      let (suffix, c) ← address? false handle c
      return (if suffix.isEmpty then ⟨[], ['!']⟩ else ⟨['!'], suffix⟩, c)

/-- Reads the tag at the cursor; only a separator may follow, or a comma in a flow collection. -/
def tag? (inFlow : Bool) (c : Cursor) : Option (TagName × Cursor) := do
  let (name, c) ← tagName? c
  if atGap c.rest || (inFlow && c.rest.head? == some ',') then return (name, c) else none

/-! ## Directives -/

/-- Reads a version part of at most nine digits. -/
def versionPart? (c : Cursor) : Option (Nat × Cursor) := do
  let (digits, c) := c.span Char.isDigit
  if digits.length > 9 then none
  else
    let n ← Hex.number? Hex.digit? 10 digits
    return (n, c)

/-- Reads the version of a version directive. -/
def versionDirective? (c : Cursor) : Option (Token × Cursor) := do
  let (major, c) ← versionPart? (c.skipWhile isBlank)
  if c.rest.head? = some '.' then
    let (minor, c) ← versionPart? (c.advance 1)
    return (.versionDirective major minor, c)
  else none

/-- Reads the handle and the replacement of a tag directive. -/
def tagDirective? (c : Cursor) : Option (Token × Cursor) := do
  let (handle, c) ← handle? (c.skipWhile isBlank)
  if (isNamedHandle handle || handle == ['!']) && c.rest.head?.any isBlank then
    let (replacement, c) ← address? true [] (c.skipWhile isBlank)
    if atGap c.rest then return (.tagDirective handle replacement, c) else none
  else none

/-- Reads the directive at the cursor with the rest of its line. Only two directives are known. -/
def directive? (c : Cursor) : Option (Token × Cursor) := do
  let (name, c) := (c.advance 1).span isNameChar
  if !atGap c.rest then none
  else
    let (token, c) ←
      if name == ['Y', 'A', 'M', 'L'] then versionDirective? c
      else if name == ['T', 'A', 'G'] then tagDirective? c
      else none
    return (token, ← c.skipLineEnd?)

end Touchpad.Yaml
