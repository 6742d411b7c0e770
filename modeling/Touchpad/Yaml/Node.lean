import Touchpad.Yaml.Token

/-!
# Nodes of a YAML document

What the tokens of a document spell: scalars, sequences and mappings, and aliases of nodes that
carry an anchor. Anchors are numbered; an alias has the number of the anchor that it names.
-/

namespace Touchpad.Yaml

/-- A node of a document. -/
inductive Node where
  | scalar (anchor : Option Nat) (tag : Option (List Char)) (scalar : Scalar)
  | sequence (anchor : Option Nat) (items : List Node)
  | mapping (anchor : Option Nat) (entries : List (Node × Node))
  | aliasOf (anchor : Nat)

namespace Node

/-- The empty plain scalar, which stands where a node is left out. -/
def empty : Node := scalar none none ⟨.plain, ""⟩

/-- The number of the anchor of a node. -/
def anchor? : Node → Option Nat
  | scalar anchor _ _ => anchor
  | sequence anchor _ => anchor
  | mapping anchor _ => anchor
  | aliasOf _ => none

mutual

/-- The nodes that carry anchors with their numbers, in the order in which they begin. -/
def anchored (n : Node) : List (Nat × Node) :=
  let here := (n.anchor?.map fun a => (a, n)).toList
  match n with
  | scalar _ _ _ => here
  | sequence _ items => here ++ anchoredItems items
  | mapping _ entries => here ++ anchoredEntries entries
  | aliasOf _ => here

/-- The same for the items of a sequence. -/
def anchoredItems : List Node → List (Nat × Node)
  | [] => []
  | n :: ns => n.anchored ++ anchoredItems ns

/-- The same for the entries of a mapping. -/
def anchoredEntries : List (Node × Node) → List (Nat × Node)
  | [] => []
  | (k, v) :: es => k.anchored ++ v.anchored ++ anchoredEntries es

end

end Node

/-- A document: its root, unless there is nothing in the text. -/
structure Document where
  root : Option Node

namespace Document

/--
The node with an anchor of the given number. When two have the same number, which happens after a
name was given to a second node, the one that begins last is meant.
-/
def anchored? (d : Document) (anchor : Nat) : Option Node :=
  d.root.bind fun root => root.anchored.reverse.lookup anchor

/-- The node that a node stands for: an alias stands for the node with its anchor. -/
def resolve (d : Document) : Node → Option Node
  | .aliasOf anchor => d.anchored? anchor
  | n => some n

end Document

end Touchpad.Yaml
