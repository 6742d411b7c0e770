import Touchpad.Hex.Parser
import Touchpad.Yaml.Node.Parser

/-!
# Values in a YAML document

How a node is read when a certain kind of value is expected. Only a plain scalar is a truth value or
a number, or a literal block with the tag of that kind. Every scalar is a text. An optional value is
absent where there is nothing, or a plain null.
-/

namespace Touchpad.Yaml

/-- A tag of the core schema. -/
def coreTag (name : String) : List Char := ("tag:yaml.org,2002:" ++ name).toList

/-- A scalar with its tag. -/
structure TaggedScalar where
  tag : Option (List Char)
  scalar : Scalar

namespace TaggedScalar

/-- Whether a scalar may be read as a value of the kind with the given tag. -/
def readsAs (s : TaggedScalar) (tag : List Char) : Bool :=
  match s.scalar.style with
  | .plain => true
  | .literal => s.tag == some tag
  | .singleQuoted | .doubleQuoted | .folded => false

end TaggedScalar

/-- The truth value that a word spells. -/
def truthValue? : String → Option Bool
  | "true" | "True" | "TRUE" => some true
  | "false" | "False" | "FALSE" => some false
  | _ => none

def isNull (word : String) : Bool := ["null", "Null", "NULL", "~"].contains word

/-- The value of a digit in the given base. -/
def digitBelow? (base : Nat) (c : Char) : Option Nat := (Hex.digit? c).filter (· < base)

/-- A number in the given base that fits into 64 bits. -/
def numberIn? (base : Nat) (digits : List Char) : Option Nat :=
  (Hex.number? (digitBelow? base) base digits).filter (· < UInt64.size)

/-- The base that a digit sequence is marked with, and the digits behind the mark. -/
def markedBase? : List Char → Option (Nat × List Char)
  | '0' :: 'x' :: cs => some (16, cs)
  | '0' :: 'o' :: cs => some (8, cs)
  | '0' :: 'b' :: cs => some (2, cs)
  | _ => none

/-- A decimal number, which has no zeros in front. -/
def decimal? : List Char → Option Nat
  | '0' :: _ :: _ => none
  | cs => numberIn? 10 cs

/-- The natural number that a word spells: a plus sign may stand in front. -/
def natural? (word : List Char) : Option Nat :=
  let digits := Hex.dropPlus word
  match markedBase? digits with
  | some (base, rest) => numberIn? base rest
  | none => decimal? digits

namespace Document

/-- The scalar that a node stands for. -/
def scalar? (d : Document) (n : Node) : Option TaggedScalar :=
  match d.resolve n with
  | some (.scalar _ tag scalar) => some ⟨tag, scalar⟩
  | _ => none

def text? (d : Document) (n : Node) : Option String := (d.scalar? n).map fun s => s.scalar.text

def bool? (d : Document) (n : Node) : Option Bool := do
  let s ← d.scalar? n
  if s.readsAs (coreTag "bool") then truthValue? s.scalar.text else none

/-- The natural number below `bound` that a node stands for. -/
def natBelow? (bound : Nat) (d : Document) (n : Node) : Option Nat := do
  let s ← d.scalar? n
  if s.readsAs (coreTag "int") then (natural? s.scalar.text.toList).filter (· < bound) else none

/-- Whether a node stands for an absent value, unless it is one with a tag that it does not fit. -/
def isAbsent? (d : Document) (n : Node) : Option Bool :=
  match d.scalar? n with
  | none => some false
  | some ⟨tag, scalar⟩ =>
    if scalar.style != .plain then some false
    else
      match tag with
      | none => some (scalar.text.isEmpty || isNull scalar.text)
      | some tag =>
        if tag == coreTag "null" then (if isNull scalar.text then some true else none)
        else some false

/-- The optional value that a node stands for. -/
def option? {α : Type} (read : Document → Node → Option α) (d : Document) (n : Node) :
    Option (Option α) := do
  if ← d.isAbsent? n then return none else (read d n).map some

/-! ## Fields -/

/-- A name and the node that is given for it. -/
abbrev Field := String × Node

/-- The name of an entry of a mapping, which is a scalar. -/
def field? (d : Document) (entry : Node × Node) : Option Field :=
  (d.text? entry.1).map fun name => (name, entry.2)

/-- The fields that a node stands for: an empty plain scalar has none. -/
def fields? (d : Document) (n : Node) : Option (List Field) :=
  match d.resolve n with
  | some (.mapping _ entries) => entries.mapM d.field?
  | some (.scalar _ _ scalar) =>
    if scalar.style = .plain && scalar.text.isEmpty then some [] else none
  | _ => none

/-- The fields at the root; a text without anything has none. -/
def rootFields? (d : Document) : Option (List Field) :=
  match d.root with
  | none => some []
  | some root => d.fields? root

/-- The node that is given for a name, if any; it cannot be given twice. -/
def single? (fields : List Field) (name : String) : Option (Option Node) :=
  match fields.filter fun f => f.1 == name with
  | [] => some none
  | [f] => some (some f.2)
  | _ => none

/-- The value of a field, or the given one where the field is left out. -/
def fieldOr {α : Type} (d : Document) (fields : List Field) (name : String)
    (read : Document → Node → Option α) (fallback : α) : Option α := do
  match ← single? fields name with
  | none => return fallback
  | some n => read d n

/-- The value of a field that cannot be left out. -/
def required? {α : Type} (d : Document) (fields : List Field) (name : String)
    (read : Document → Node → Option α) : Option α := do
  let n ← ← single? fields name
  read d n

end Document

end Touchpad.Yaml
