import Touchpad.Yaml.Token.Folding

/-!
# Plain scalars

A plain scalar is written without quotes. It ends before a colon that is followed by a separator,
before a comment or a document marker, and where the indentation ends; inside a flow collection also
before an indicator of the collection.
-/

namespace Touchpad.Yaml

/-- The indicators of flow collections. -/
def isFlowIndicator (c : Char) : Bool :=
  c == ',' || c == '[' || c == ']' || c == '\x7b' || c == '\x7d'

/-- Whether a word of a plain scalar cannot go on with this text. -/
def endsPlain (inFlow : Bool) : List Char → Bool
  | [] => true
  | c :: cs => (c == ':' && atGap cs) || (inFlow && isFlowIndicator c)

/-- Whether a colon stands in front of an indicator of a flow collection, which is not allowed. -/
def isStrayColon : List Char → Bool
  | ':' :: c :: _ => isFlowIndicator c || c == '?'
  | _ => false

/-- A plain scalar that was read, and whether a line ended behind it. -/
structure PlainRead where
  text : List Char
  endsLine : Bool
  cursor : Cursor

/-- Whether a text that follows a gap does not belong to the scalar any more. -/
def isBehindPlain (inFlow : Bool) (indent : Nat) (place : Place) (cs : List Char) : Bool :=
  (!inFlow && place.column < indent) || (place.column == 0 && atDocumentMarker cs) ||
    cs.head? == some '#'

/--
Reads the rest of a plain scalar. `indent` is the least column of its lines, `done` is what has been
read, in reverse order, and `gap` is what has been read since the last word.
-/
def plainFrom (inFlow : Bool) (indent : Nat) (place : Place) (done : List Char) (gap : Gap) :
    List Char → Option PlainRead
  | [] => some ⟨done.reverse, gap.hasBreak, ⟨[], place⟩⟩
  | c :: cs =>
    if isGap c then
      if gap.hasBreak && place.column < indent && c = '\t' then none
      else plainFrom inFlow indent (place.after c) done (gap.add c) cs
    else if !gap.isEmpty && isBehindPlain inFlow indent place (c :: cs) then
      some ⟨done.reverse, gap.hasBreak, ⟨c :: cs, place⟩⟩
    else if inFlow && isStrayColon (c :: cs) then none
    else if endsPlain inFlow (c :: cs) then
      some ⟨done.reverse, gap.hasBreak, ⟨c :: cs, place⟩⟩
    else plainFrom inFlow indent (place.after c) (c :: (gap.folded ++ done)) .empty cs

/-- Reads the plain scalar at the cursor. -/
def plain? (inFlow : Bool) (indent : Nat) (c : Cursor) : Option PlainRead :=
  plainFrom inFlow indent c.place [] .empty c.rest

end Touchpad.Yaml
