import Touchpad.Yaml.Cursor

/-!
# Folding of lines

Between two words of a quoted or plain scalar, blanks on one line are kept, and a line break becomes
a space, unless more breaks follow it, of which it then is the separator. Blanks around a break are
dropped. A line or paragraph separator is kept instead.
-/

namespace Touchpad.Yaml

/-- What was read since the last word; characters are in reverse order. -/
inductive Gap where
  /-- Blanks on one line. -/
  | blanks (cs : List Char)
  /-- Line breaks: the first one, unless it was escaped, and those that followed. -/
  | breaks (first : Option Char) (more : List Char)
  deriving DecidableEq, Repr

namespace Gap

def empty : Gap := blanks []

def addBlank (c : Char) : Gap → Gap
  | blanks cs => blanks (c :: cs)
  | breaks first more => breaks first more

def addBreak (c : Char) : Gap → Gap
  | blanks _ => breaks (some c) []
  | breaks first more => breaks first (c :: more)

def add (c : Char) (g : Gap) : Gap := if isBreak c then g.addBreak c else g.addBlank c

/-- What a gap is folded into, in reverse order. -/
def folded : Gap → List Char
  | blanks cs => cs
  | breaks none more => more
  | breaks (some '\n') [] => [' ']
  | breaks (some '\n') more => more
  | breaks (some c) more => more ++ [c]

def isEmpty : Gap → Bool
  | blanks cs => cs.isEmpty
  | breaks _ _ => false

/-- Whether a line ended in the gap. -/
def hasBreak : Gap → Bool
  | blanks _ => false
  | breaks _ _ => true

end Gap

end Touchpad.Yaml
