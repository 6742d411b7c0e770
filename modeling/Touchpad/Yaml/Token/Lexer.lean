import Touchpad.Yaml.Token.Block
import Touchpad.Yaml.Token.Plain
import Touchpad.Yaml.Token.Quoted
import Touchpad.Yaml.Token.Tag

/-!
# Reading tokens

Indentation becomes tokens here: a block collection begins where its first entry is indented further
than what is around it, and ends where a line is indented less.

## Simple keys

Whether a scalar or a collection is the key of a mapping shows only when a colon follows it on the
same line. The tokens are therefore kept in slots: where a key may begin, an empty slot is left in
front of it (`PendingKey`), and the colon fills it.

## Termination

Every step reads at least one character, so a text takes no more steps than it has characters; their
number bounds the recursion of `Lexer.run`.
-/

namespace Touchpad.Yaml

/-- A place where a key may have begun. -/
structure PendingKey where
  /-- The slot in front of it. -/
  slot : Nat
  place : Place
  /-- Whether nothing but a key can stand there. -/
  isRequired : Bool

namespace PendingKey

/-- The largest number of octets from the beginning of a key to its colon. -/
def reach : Nat := 1024

/-- Whether a colon at this place is too far away. -/
def isStale (k : PendingKey) (p : Place) : Bool :=
  k.place.line < p.line || k.place.octets + reach < p.octets

/-- The key, unless it is stale; a required key cannot become so. -/
def refresh (p : Place) : Option PendingKey → Option (Option PendingKey)
  | none => some none
  | some k => if k.isStale p then (if k.isRequired then none else some none) else some (some k)

end PendingKey

/-- The state of reading tokens. -/
structure Lexer where
  cursor : Cursor
  slots : Array (List Token) := #[]
  /-- The columns of the open block collections, the innermost first. -/
  columns : List Nat := []
  /-- Whether a simple key may begin here. -/
  keyAllowed : Bool := true
  /-- Where a key may have begun in the innermost flow collection. -/
  pending : Option PendingKey := none
  /-- The same for the flow collections around it, the innermost first. -/
  outer : List (Option PendingKey) := []

namespace Lexer

/-! ## Parts of a step -/

def inFlow (l : Lexer) : Bool := !l.outer.isEmpty

def column (l : Lexer) : Nat := l.cursor.place.column

/-- The least column of what belongs to the innermost block collection. -/
def leastColumn (l : Lexer) : Nat :=
  match l.columns with
  | [] => 0
  | c :: _ => c + 1

def emit (l : Lexer) (t : Token) : Lexer := { l with slots := l.slots.push [t] }

/-- Adds a token, and moves the cursor behind its text. -/
def emitTo (l : Lexer) (t : Token) (c : Cursor) : Lexer := { l.emit t with cursor := c }

/-- Forgets where a key may have begun, unless one is required there. -/
def dropKey (l : Lexer) : Option Lexer :=
  match l.pending with
  | some k => if k.isRequired then none else some { l with pending := none }
  | none => some l

/-- Notes that a key may begin here, with an empty slot in front of it. -/
def noteKey (l : Lexer) : Option Lexer :=
  if l.keyAllowed then do
    let l ← l.dropKey
    let isRequired := !l.inFlow && l.columns.head? == some l.column
    let key : PendingKey := { slot := l.slots.size, place := l.cursor.place, isRequired }
    return { l with pending := some key, slots := l.slots.push [] }
  else some l

/-- Forgets the key if it is too far away by now; those around it come later. -/
def refreshKey (l : Lexer) : Option Lexer :=
  (PendingKey.refresh l.cursor.place l.pending).map fun pending => { l with pending }

/-- Ends the block collections that are indented at least as far as `least`. -/
def unindent (l : Lexer) (least : Nat) : Lexer :=
  if l.inFlow then l
  else
    let closed := l.columns.takeWhile (least ≤ ·)
    { l with
      columns := l.columns.drop closed.length
      slots := l.slots ++ Array.replicate closed.length [.blockEnd] }

/-- Whether a block collection begins when something is found at that column. -/
def opensAt (l : Lexer) (column : Nat) : Bool := !l.inFlow && l.leastColumn ≤ column

/-- Begins a block collection at the cursor, if it is indented further than what is around it. -/
def indent (l : Lexer) (t : Token) : Lexer :=
  if l.opensAt l.column then { l.emit t with columns := l.column :: l.columns } else l

/-- The cursor behind separators and comments, and whether a key may begin there. -/
def skipGap (inFlow : Bool) (inComment keyAllowed : Bool) (place : Place) :
    List Char → Cursor × Bool
  | [] => (⟨[], place⟩, keyAllowed)
  | c :: cs =>
    let here := place.after c
    if isBreak c then skipGap inFlow false (keyAllowed || !inFlow) here cs
    else if inComment || c == '#' then skipGap inFlow true keyAllowed here cs
    -- a tab cannot indent anything, so it only counts where no key may begin
    else if c == ' ' || (c == '\t' && (inFlow || !keyAllowed)) ||
        (c == byteOrderMark && place.column == 0) then
      skipGap inFlow false keyAllowed here cs
    else (⟨c :: cs, place⟩, keyAllowed)

def toNext (l : Lexer) : Lexer :=
  let (cursor, keyAllowed) := skipGap l.inFlow false l.keyAllowed l.cursor.place l.cursor.rest
  { l with cursor, keyAllowed }

/-! ## The kinds of token -/

/-- An indicator of one character. -/
def indicator (l : Lexer) (t : Token) : Lexer := l.emitTo t (l.cursor.advance 1)

/-- The beginning of a flow collection, which may itself be a key. -/
def flowStart (l : Lexer) (t : Token) : Option Lexer := do
  let l ← l.noteKey
  return { l with pending := none, outer := l.pending :: l.outer, keyAllowed := true }.indicator t

def flowEnd (l : Lexer) (t : Token) : Option Lexer := do
  let l ← l.dropKey
  let l := match l.outer with
    | [] => l
    | pending :: outer => { l with pending, outer }
  return { l with keyAllowed := false }.indicator t

def flowEntry (l : Lexer) : Option Lexer := do
  let l ← l.dropKey
  return { l with keyAllowed := true }.indicator .flowEntry

/-- The dash in front of an entry of a block sequence. -/
def blockEntry (l : Lexer) : Option Lexer :=
  if l.inFlow || l.keyAllowed then do
    let l ← (l.indent .blockSequenceStart).dropKey
    return { l with keyAllowed := true }.indicator .blockEntry
  else none

/-- The question mark in front of a key. -/
def explicitKey (l : Lexer) : Option Lexer :=
  if l.inFlow || l.keyAllowed then do
    let l ← (l.indent .blockMappingStart).dropKey
    return { l with keyAllowed := !l.inFlow }.indicator .key
  else none

/-- The colon behind a simple key, whose slot it fills. -/
def valueOf (l : Lexer) (k : PendingKey) : Lexer :=
  let opens := l.opensAt k.place.column
  -- a mapping that begins with this key begins in front of the key
  let slot := if opens then [.blockMappingStart, .key] else [.key]
  { l with
    slots := l.slots.setIfInBounds k.slot slot
    columns := if opens then k.place.column :: l.columns else l.columns
    pending := none
    keyAllowed := false }.indicator .value

/-- The colon in front of a value. -/
def value (l : Lexer) : Option Lexer :=
  match l.pending with
  | some k => some (l.valueOf k)
  | none =>
    if l.inFlow || l.keyAllowed then
      let l := l.indent .blockMappingStart
      some ({ l with keyAllowed := !l.inFlow }.indicator .value)
    else none

/-- A token with a name, or a quoted scalar; it may be or begin a key. -/
def named (l : Lexer) (read : Cursor → Option (Token × Cursor)) : Option Lexer := do
  let l ← l.noteKey
  let (t, c) ← read l.cursor
  return { l with keyAllowed := false }.emitTo t c

def blockScalar (l : Lexer) (folds : Bool) : Option Lexer := do
  let l ← l.dropKey
  let (text, c) ← block? folds l.leastColumn l.cursor
  let style := if folds then ScalarStyle.folded else .literal
  return { l with keyAllowed := true }.emitTo (.scalar ⟨style, String.ofList text⟩) c

def quotedScalar (l : Lexer) (quote : Char) (style : ScalarStyle) : Option Lexer :=
  l.named fun c => (quoted? quote c).map fun r => (.scalar ⟨style, String.ofList r.1⟩, r.2)

def plainScalar (l : Lexer) : Option Lexer := do
  let l ← l.noteKey
  let r ← plain? l.inFlow l.leastColumn l.cursor
  return { l with keyAllowed := r.endsLine }.emitTo (.scalar ⟨.plain, String.ofList r.text⟩)
    r.cursor

/-- Ends all block collections in front of a directive, a document marker or the end of the text. -/
def closeAll (l : Lexer) : Option Lexer := do
  let l ← (l.unindent 0).dropKey
  return { l with keyAllowed := false }

def directive (l : Lexer) : Option Lexer := do
  let l ← l.closeAll
  let (t, c) ← directive? l.cursor
  return l.emitTo t c

def documentMarker (l : Lexer) (t : Token) : Option Lexer := do
  let l ← l.closeAll
  return l.emitTo t (l.cursor.advance 3)

/-- The characters that cannot begin a plain scalar. -/
def indicators : List Char :=
  ['-', '?', ':', ',', '[', ']', '\x7b', '\x7d', '#', '&', '*', '!', '|', '>', '\x27', '\x22', '%',
    '@', '\x60']

/-- Whether a plain scalar may begin with `c`, which is followed by `cs`. -/
def startsPlain (inFlow : Bool) (c : Char) (cs : List Char) : Bool :=
  !(isGap c || indicators.contains c) || (c == '-' && !cs.head?.any isBlank) ||
    (!inFlow && (c == '?' || c == ':') && !atGap cs)

/-- The token that begins with `c`, which is followed by `cs`. -/
def token (l : Lexer) (c : Char) (cs : List Char) : Option Lexer :=
  if l.column = 0 && c = '%' then l.directive
  else if l.column = 0 && atMarker '-' (c :: cs) then l.documentMarker .documentStart
  else if l.column = 0 && atMarker '.' (c :: cs) then l.documentMarker .documentEnd
  else if c = '-' && atGap cs then l.blockEntry
  else if c = '?' && (l.inFlow || atGap cs) then l.explicitKey
  else if c = ':' && (l.inFlow || atGap cs) then l.value
  else
    match c with
    | '[' => l.flowStart .flowSequenceStart
    | '\x7b' => l.flowStart .flowMappingStart
    | ']' => l.flowEnd .flowSequenceEnd
    | '\x7d' => l.flowEnd .flowMappingEnd
    | ',' => l.flowEntry
    | '*' => l.named fun c => (anchorName? c).map fun r => (.aliasOf r.1, r.2)
    | '&' => l.named fun c => (anchorName? c).map fun r => (.anchor r.1, r.2)
    | '!' => l.named fun c => (tag? l.inFlow c).map fun r => (.tag r.1, r.2)
    | '\x27' => l.quotedScalar '\x27' .singleQuoted
    | '\x22' => l.quotedScalar '\x22' .doubleQuoted
    | _ =>
      if c = '|' && !l.inFlow then l.blockScalar false
      else if c = '>' && !l.inFlow then l.blockScalar true
      else if startsPlain l.inFlow c cs then l.plainScalar
      else none

/-! ## All tokens -/

/-- Moves to the next token and makes the ends of block collections in front of it. -/
def prepare (l : Lexer) : Option Lexer := do
  let l ← l.toNext.refreshKey
  return l.unindent (l.column + 1)

/-- The tokens of the rest of a text, if it can be read in that number of steps. -/
def run (l : Lexer) (steps : Nat) : Option (List Token) := do
  let ready ← l.prepare
  match ready.cursor.rest, steps with
  | [], _ => ready.closeAll.map fun last => last.slots.toList.flatten
  | _ :: _, 0 => none
  | c :: cs, steps + 1 => (← ready.token c cs).run steps

end Lexer

/-- The tokens of a text, if it can be read. -/
def Token.scan? (text : String) : Option (List Token) :=
  let cs := unifyBreaks text.toList
  if text.toList.all isAllowed then Lexer.run { cursor := ⟨cs, {}⟩ } cs.length else none

end Touchpad.Yaml
