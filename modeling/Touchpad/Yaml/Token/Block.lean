import Touchpad.Yaml.Cursor

/-!
# Block scalars

A block scalar is introduced by a header: an indicator, with an optional number of indentation
columns and an optional sign that says what becomes of the last line breaks. Its lines follow,
indented by the given number of columns or by as many as its first line has.

In a folded scalar a line break between two lines that do not begin with a blank becomes a space.
-/

namespace Touchpad.Yaml

/-- What becomes of the line breaks at the end of a block scalar. -/
inductive Chomping where
  | strip
  | clip
  | keep
  deriving DecidableEq, Repr

/-- What the header of a block scalar says. -/
structure BlockHeader where
  chomping : Chomping := .clip
  /-- The number of columns by which the lines are indented further than what is around them. -/
  increment : Option Nat := none
  deriving DecidableEq, Repr

/-- The sign in a header, if it is one. -/
def chomping? : Char → Option Chomping
  | '+' => some .keep
  | '-' => some .strip
  | _ => none

/-- The number of columns in a header, which is a digit other than zero. -/
def increment? (c : Char) : Option Nat :=
  if '1' ≤ c ∧ c ≤ '9' then some (c.toNat - '0'.toNat) else none

/-- The header behind its indicator, and its length. A digit zero makes it invalid later on. -/
def blockHeader : List Char → BlockHeader × Nat
  | [] => ({}, 0)
  | a :: cs =>
    let next := cs.head?
    match chomping? a, increment? a with
    | some sign, _ =>
      match next.bind increment? with
      | some n => (⟨sign, some n⟩, 2)
      | none => (⟨sign, none⟩, 1)
    | none, some n =>
      match next.bind chomping? with
      | some sign => (⟨sign, some n⟩, 2)
      | none => (⟨.clip, some n⟩, 1)
    | none, none => ({}, 0)

/-- Where in a block scalar the reader is. -/
inductive BlockState where
  /-- In front of a line, at its indentation. -/
  | indentation
  /-- Inside a line. -/
  | content
  deriving DecidableEq, Repr

/-- A block scalar that is being read; characters are in reverse order. -/
structure BlockReader where
  folds : Bool
  /-- The column of the lines, once it is known. -/
  indent : Option Nat
  /-- The least column that a detected indentation can have. -/
  leastIndent : Nat
  /-- The largest column that was seen in front of the first line. -/
  widest : Nat := 0
  done : List Char := []
  /-- The line break behind the last line. -/
  leading : List Char := []
  /-- The breaks of the empty lines behind it. -/
  trailing : List Char := []
  /-- Whether the last line begins with a blank. -/
  leadingBlank : Bool := false

namespace BlockReader

/-- Whether the column is still left of the indentation, as far as that is known. -/
def isLeft (r : BlockReader) (column : Nat) : Bool := r.indent.all (column < ·)

/-- The reader at the end of an indentation, where an unknown one is settled. -/
def settle (r : BlockReader) (column : Nat) : BlockReader :=
  match r.indent with
  | some _ => r
  | none => { r with indent := some (max (max r.widest column) r.leastIndent) }

/-- What the line breaks in front of a line become, in reverse order. -/
def joint (r : BlockReader) (startsBlank : Bool) : List Char :=
  if r.folds && r.leading == ['\n'] && !r.leadingBlank && !startsBlank then
    if r.trailing.isEmpty then [' '] else r.trailing
  else r.trailing ++ r.leading

/-- The reader behind the first character of a line. -/
def startLine (r : BlockReader) (c : Char) : BlockReader :=
  { r with
    done := c :: (r.joint (isBlank c) ++ r.done)
    leading := []
    trailing := []
    leadingBlank := isBlank c }

/-- The text of the scalar. -/
def finish (r : BlockReader) : Chomping → List Char
  | .strip => r.done.reverse
  | .clip => (r.leading ++ r.done).reverse
  | .keep => (r.trailing ++ r.leading ++ r.done).reverse

end BlockReader

/-- Reads the lines of a block scalar. A tab cannot stand where indentation is expected. -/
def blockFrom (place : Place) (r : BlockReader) :
    BlockState → List Char → Option (BlockReader × Cursor)
  | .indentation, [] => some (r.settle place.column, ⟨[], place⟩)
  | .content, [] => some (r, ⟨[], place⟩)
  | .content, c :: cs =>
    let here := place.after c
    if isBreak c then blockFrom here { r with leading := [c] } .indentation cs
    else blockFrom here { r with done := c :: r.done } .content cs
  | .indentation, c :: cs =>
    let here := place.after c
    if r.isLeft place.column && c = ' ' then blockFrom here r .indentation cs
    else if r.isLeft place.column && c = '\t' then none
    else if isBreak c then
      let widest := max r.widest place.column
      blockFrom here { r with widest, trailing := c :: r.trailing } .indentation cs
    else
      let r := r.settle place.column
      if r.indent = some place.column then blockFrom here (r.startLine c) .content cs
      else some (r, ⟨c :: cs, place⟩)

/--
Reads the block scalar at the cursor, whose first character is the indicator. `parent` is the least
column of what belongs to the collection around it.
-/
def block? (folds : Bool) (parent : Nat) (c : Cursor) : Option (List Char × Cursor) := do
  let c := c.advance 1
  let (header, size) := blockHeader c.rest
  let body ← (c.advance size).skipLineEnd?
  let reader : BlockReader :=
    { folds
      indent := header.increment.map fun n => parent - 1 + n
      leastIndent := max parent 1 }
  let (reader, last) ← blockFrom body.place reader .indentation body.rest
  return (reader.finish header.chomping, last)

end Touchpad.Yaml
