import Touchpad.Yaml.Node
import Touchpad.Yaml.Token.Lexer

/-!
# From tokens to nodes

A recursive descent along the grammar of the tokens. A function takes the tokens in front of it and
returns what it made of some of them together with the others.

## Termination

A function recurses either behind a token that it has read itself, or on what another function has
left over. What is read comes with the proof that no more tokens are left over than there were
(`Parsed.length_le`), so the recursion ends.

## Main definitions

* `node?`: a node with everything below it
* `Document.parse?`: the document that a text spells
-/

namespace Touchpad.Yaml

/-! ## Anchors and tags -/

/-- The names of anchors with their numbers. -/
abbrev Anchors := List (List Char × Nat)

/-- Gives a name the number of names so far. -/
def Anchors.bind (a : Anchors) (name : List Char) : Anchors :=
  (name, a.length) :: a.filter fun e => e.1 != name

/-- The tag handles that have a meaning. -/
abbrev TagHandles := List (List Char × List Char)

/-- The handles that have a meaning without a directive. -/
def TagHandles.builtin : TagHandles :=
  [(['!'], ['!']), (['!', '!'], "tag:yaml.org,2002:".toList)]

/-- The tag that a name denotes; its handle must have a meaning. -/
def TagName.resolve? (handles : TagHandles) (t : TagName) : Option (List Char) :=
  if t.handle.isEmpty then some t.suffix
  else (handles.lookup t.handle).map (· ++ t.suffix)

/-- The anchor and the tag in front of a node. -/
structure Properties where
  anchor : Option (List Char) := none
  tag : Option TagName := none

namespace Properties

def isEmpty (p : Properties) : Bool := p.anchor.isNone && p.tag.isNone

/-- The names of anchors inside the node. -/
def bind (p : Properties) (a : Anchors) : Anchors := p.anchor.elim a a.bind

def number (p : Properties) (a : Anchors) : Option Nat := p.anchor.map fun _ => a.length

/-- The tag of the node, unless its handle has no meaning. -/
def tag? (p : Properties) (handles : TagHandles) : Option (Option (List Char)) :=
  match p.tag with
  | none => some none
  | some name => (name.resolve? handles).map some

def scalar? (p : Properties) (handles : TagHandles) (a : Anchors) (s : Scalar) : Option Node :=
  (p.tag? handles).map fun tag => .scalar (p.number a) tag s

end Properties

/-! ## Nodes -/

/-- What was read, the names of anchors that are known from then on, and the tokens left over. -/
structure Parsed (α : Type) (limit : Nat) where
  value : α
  anchors : Anchors
  rest : List Token
  length_le : rest.length ≤ limit

def Parsed.map {α β : Type} {n : Nat} (p : Parsed α n) (f : α → β) : Parsed β n :=
  ⟨f p.value, p.anchors, p.rest, p.length_le⟩

def Parsed.within {α : Type} {m n : Nat} (p : Parsed α m) (h : m ≤ n) : Parsed α n :=
  ⟨p.value, p.anchors, p.rest, Nat.le_trans p.length_le h⟩

/-- Behind another token even fewer are left. -/
theorem Parsed.lt_of_rest_eq {α : Type} {n : Nat} (p : Parsed α n) {t : Token} {ts : List Token}
    (h : p.rest = t :: ts) : ts.length < n := by
  have le := p.length_le
  rw [h] at le
  exact le

/-- The empty node, which is read where a node is left out. -/
def leftOut (anchors : Anchors) (ts : List Token) : Parsed Node ts.length :=
  ⟨.empty, anchors, ts, Nat.le_refl _⟩

/-- Where a node stands. -/
inductive Position where
  /-- In a flow collection, where no block collection can begin. -/
  | flow
  /-- An entry of a block sequence, or the root. -/
  | block
  /-- A key or a value of a block mapping, where a sequence need not be indented. -/
  | mappingPart
  deriving DecidableEq, Repr

/-- Whether the first token is one of a list. -/
def startsWith (ts : List Token) (tokens : List Token) : Bool := ts.head?.any tokens.contains

/-- The tokens in front of which a part of a block mapping is left out. -/
def mappingPartEnds : List Token := [.key, .value, .blockEnd]

mutual

/-- Reads a node whose properties have been read so far. -/
def node? (handles : TagHandles) (position : Position) (props : Properties) (anchors : Anchors)
    (ts : List Token) : Option (Parsed Node ts.length) :=
  let inside := props.bind anchors
  let collection {α : Type} {n : Nat} (make : α → Node) (p : Parsed α n) :
      Option (Parsed Node n) :=
    (props.tag? handles).map fun _ => p.map make
  let bare (ts : List Token) : Option (Parsed Node ts.length) :=
    if props.isEmpty then none
    else (props.scalar? handles anchors ⟨.plain, ""⟩).map fun n => ⟨n, inside, ts, Nat.le_refl _⟩
  match ts with
  | .aliasOf name :: rest =>
    -- behind an anchor or a tag an alias is not part of the node, which is empty then
    if props.isEmpty then
      (anchors.lookup name).map fun n => ⟨.aliasOf n, anchors, rest, Nat.le_succ _⟩
    else bare _
  | .anchor name :: rest =>
    if props.anchor.isNone then
      (node? handles position { props with anchor := some name } anchors rest).map
        (·.within (Nat.le_succ _))
    else bare _
  | .tag name :: rest =>
    if props.tag.isNone then
      (node? handles position { props with tag := some name } anchors rest).map
        (·.within (Nat.le_succ _))
    else bare _
  | .scalar s :: rest =>
    (props.scalar? handles anchors s).map fun n => ⟨n, inside, rest, Nat.le_succ _⟩
  | .flowSequenceStart :: rest => do
    let items ← flowItems? handles inside rest
    collection (.sequence (props.number anchors)) (items.within (Nat.le_succ _))
  | .flowMappingStart :: rest => do
    let entries ← flowEntries? handles inside rest
    collection (.mapping (props.number anchors)) (entries.within (Nat.le_succ _))
  | .blockSequenceStart :: rest =>
    if position = .flow then bare _
    else do
      let items ← blockItems? handles inside rest
      collection (.sequence (props.number anchors)) (items.within (Nat.le_succ _))
  | .blockMappingStart :: rest =>
    if position = .flow then bare _
    else do
      let entries ← blockEntries? handles inside rest
      collection (.mapping (props.number anchors)) (entries.within (Nat.le_succ _))
  | .blockEntry :: rest =>
    if position = .mappingPart then do
      let items ← openItems? handles inside (.blockEntry :: rest)
      collection (.sequence (props.number anchors)) items
    else bare _
  | others => bare others
termination_by 3 * ts.length + 1
decreasing_by all_goals (simp only [List.length_cons]; omega)

/-- Reads the items of a block sequence up to its end. -/
def blockItems? (handles : TagHandles) (anchors : Anchors) (ts : List Token) :
    Option (Parsed (List Node) ts.length) :=
  match ts with
  | .blockEntry :: rest => do
    let item ←
      if startsWith rest [.blockEntry, .blockEnd] then some (leftOut anchors rest)
      else node? handles .block {} anchors rest
    have le := item.length_le
    let items ← blockItems? handles item.anchors item.rest
    return (items.map (item.value :: ·)).within (Nat.le_succ_of_le le)
  | .blockEnd :: rest => some ⟨[], anchors, rest, Nat.le_succ _⟩
  | _ => none
termination_by 3 * ts.length
decreasing_by all_goals (simp only [List.length_cons]; omega)

/-- Reads the items of a block sequence that is not indented; any other token ends it. -/
def openItems? (handles : TagHandles) (anchors : Anchors) (ts : List Token) :
    Option (Parsed (List Node) ts.length) :=
  match ts with
  | .blockEntry :: rest => do
    let item ←
      if startsWith rest (.blockEntry :: mappingPartEnds) then some (leftOut anchors rest)
      else node? handles .block {} anchors rest
    have le := item.length_le
    let items ← openItems? handles item.anchors item.rest
    return (items.map (item.value :: ·)).within (Nat.le_succ_of_le le)
  | others => some ⟨[], anchors, others, Nat.le_refl _⟩
termination_by 3 * ts.length
decreasing_by all_goals (simp only [List.length_cons]; omega)

/-- Reads the entries of a block mapping up to its end. -/
def blockEntries? (handles : TagHandles) (anchors : Anchors) (ts : List Token) :
    Option (Parsed (List (Node × Node)) ts.length) :=
  match ts with
  | .key :: rest => do
    let key ←
      if startsWith rest mappingPartEnds then some (leftOut anchors rest)
      else node? handles .mappingPart {} anchors rest
    have keyLe := key.length_le
    let value ← blockValue? handles key.anchors key.rest
    have valueLe := value.length_le
    let entries ← blockEntries? handles value.anchors value.rest
    return (entries.map ((key.value, value.value) :: ·)).within
      (Nat.le_succ_of_le (Nat.le_trans valueLe keyLe))
  | .blockEnd :: rest => some ⟨[], anchors, rest, Nat.le_succ _⟩
  | _ => none
termination_by 3 * ts.length
decreasing_by all_goals (simp only [List.length_cons]; omega)

/-- Reads the value of an entry of a block mapping, which may be left out. -/
def blockValue? (handles : TagHandles) (anchors : Anchors) (ts : List Token) :
    Option (Parsed Node ts.length) :=
  match ts with
  | .value :: rest => do
    let value ←
      if startsWith rest mappingPartEnds then some (leftOut anchors rest)
      else node? handles .mappingPart {} anchors rest
    return value.within (Nat.le_succ _)
  | others => some (leftOut anchors others)
termination_by 3 * ts.length
decreasing_by all_goals (simp only [List.length_cons]; omega)

/-- Reads the items of a flow sequence up to its end. -/
def flowItems? (handles : TagHandles) (anchors : Anchors) (ts : List Token) :
    Option (Parsed (List Node) ts.length) :=
  match ts with
  | .flowSequenceEnd :: rest => some ⟨[], anchors, rest, Nat.le_succ _⟩
  | ts => do
    let item ← flowItem? handles anchors ts
    match h : item.rest with
    | .flowSequenceEnd :: rest =>
      return ⟨[item.value], item.anchors, rest, Nat.le_of_lt (item.lt_of_rest_eq h)⟩
    | .flowEntry :: rest =>
      have lt := item.lt_of_rest_eq h
      let items ← flowItems? handles item.anchors rest
      return (items.map (item.value :: ·)).within (Nat.le_of_lt lt)
    | _ => none
termination_by 3 * ts.length + 3
decreasing_by all_goals omega

/--
Reads an item of a flow sequence. A key begins a mapping of a single entry; where the key is left
out, the token behind it is skipped.
-/
def flowItem? (handles : TagHandles) (anchors : Anchors) (ts : List Token) :
    Option (Parsed Node ts.length) :=
  match ts with
  | .key :: rest => do
    let key ←
      if startsWith rest [.value, .flowEntry, .flowSequenceEnd] then
        some ((leftOut anchors (rest.drop 1)).within (List.drop_sublist 1 rest).length_le)
      else node? handles .flow {} anchors rest
    have le := key.length_le
    let value ← flowValue? handles .flowSequenceEnd key.anchors key.rest
    return (value.map fun v => .mapping none [(key.value, v)]).within (Nat.le_succ_of_le le)
  | ts => node? handles .flow {} anchors ts
termination_by 3 * ts.length + 2
decreasing_by
  · simp only [List.length_cons]; omega
  · simp only [List.length_cons]; omega
  · omega

/-- Reads the value of an entry in a flow collection that ends with `close`; it may be left out. -/
def flowValue? (handles : TagHandles) (close : Token) (anchors : Anchors) (ts : List Token) :
    Option (Parsed Node ts.length) :=
  match ts with
  | .value :: rest => do
    let value ←
      if startsWith rest [.flowEntry, close] then some (leftOut anchors rest)
      else node? handles .flow {} anchors rest
    return value.within (Nat.le_succ _)
  | others => some (leftOut anchors others)
termination_by 3 * ts.length
decreasing_by all_goals (simp only [List.length_cons]; omega)

/-- Reads the entries of a flow mapping up to its end. -/
def flowEntries? (handles : TagHandles) (anchors : Anchors) (ts : List Token) :
    Option (Parsed (List (Node × Node)) ts.length) :=
  match ts with
  | .flowMappingEnd :: rest => some ⟨[], anchors, rest, Nat.le_succ _⟩
  | ts => do
    let entry ← flowMappingEntry? handles anchors ts
    match h : entry.rest with
    | .flowMappingEnd :: rest =>
      return ⟨[entry.value], entry.anchors, rest, Nat.le_of_lt (entry.lt_of_rest_eq h)⟩
    | .flowEntry :: rest =>
      have lt := entry.lt_of_rest_eq h
      let entries ← flowEntries? handles entry.anchors rest
      return (entries.map (entry.value :: ·)).within (Nat.le_of_lt lt)
    | _ => none
termination_by 3 * ts.length + 3
decreasing_by all_goals omega

/-- Reads an entry of a flow mapping; a node that is no key has no value. -/
def flowMappingEntry? (handles : TagHandles) (anchors : Anchors) (ts : List Token) :
    Option (Parsed (Node × Node) ts.length) :=
  match ts with
  | .key :: rest => do
    let key ←
      if startsWith rest [.value, .flowEntry, .flowMappingEnd] then some (leftOut anchors rest)
      else node? handles .flow {} anchors rest
    have le := key.length_le
    let value ← flowValue? handles .flowMappingEnd key.anchors key.rest
    return (value.map fun v => (key.value, v)).within (Nat.le_succ_of_le le)
  | ts => do
    let key ← node? handles .flow {} anchors ts
    return key.map fun k => (k, .empty)
termination_by 3 * ts.length + 2
decreasing_by
  · simp only [List.length_cons]; omega
  · simp only [List.length_cons]; omega
  · omega

end

/-! ## Documents -/

/-- What the directives in front of a document say. -/
structure Directives where
  hasVersion : Bool := false
  handles : TagHandles := []

/-- Reads the directives in front of a document. None may be repeated, and the version is known. -/
def directives? (d : Directives) : List Token → Option (Directives × List Token)
  | .versionDirective major minor :: ts =>
    if d.hasVersion || major != 1 || !(minor == 1 || minor == 2) then none
    else directives? { d with hasVersion := true } ts
  | .tagDirective handle replacement :: ts =>
    if (d.handles.lookup handle).isSome then none
    else directives? { d with handles := d.handles ++ [(handle, replacement)] } ts
  | ts => some (d, ts)

/-- The tokens in front of which the root of an explicit document is left out. -/
def endsDocument : List Token → Bool
  | [] => true
  | t :: _ =>
    match t with
    | .versionDirective _ _ | .tagDirective _ _ | .documentStart | .documentEnd => true
    | _ => false

/-- Whether nothing but document ends is left. -/
def isOver (ts : List Token) : Bool := ts.all (· == .documentEnd)

/-- Reads the root of a document, which needs a marker in front of it where there are directives. -/
def root? (handles : TagHandles) (hasDirectives : Bool) (ts : List Token) :
    Option (Parsed Node ts.length) :=
  match ts with
  | .documentStart :: content => do
    let root ←
      if endsDocument content then some (leftOut [] content)
      else node? handles .block {} [] content
    return root.within (Nat.le_succ _)
  | .documentEnd :: _ => none
  | content => if hasDirectives then none else node? handles .block {} [] content

/-- The document that tokens spell, if they spell no more than one. -/
def Document.ofTokens? (ts : List Token) : Option Document := do
  if ts.isEmpty then return ⟨none⟩
  let (directives, body) ← directives? {} ts
  let handles := directives.handles ++ .builtin
  let root ← root? handles (body.length < ts.length) body
  if isOver root.rest then return ⟨some root.value⟩ else none

/-- The document that a text spells, if it spells no more than one. -/
def Document.parse? (text : String) : Option Document :=
  (Token.scan? text).bind Document.ofTokens?

end Touchpad.Yaml
