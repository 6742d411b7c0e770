/-!
# Pointer events

What the decoder reports: relative movement of one finger, and the moment at which all fingers are
lifted, each with the buttons that are held.
-/

namespace Touchpad

/-- The buttons that are held. -/
structure Buttons where
  left : Bool := false
  right : Bool := false
  deriving DecidableEq, Repr

namespace Buttons

def none : Buttons := {}

def union (a b : Buttons) : Buttons := ⟨a.left || b.left, a.right || b.right⟩

/-- Whether every button of the second is held in the first. -/
def contains (a b : Buttons) : Bool := (!b.left || a.left) && (!b.right || a.right)

def isEmpty (b : Buttons) : Bool := !b.left && !b.right

/-- The buttons as a number: one for left, two for right. -/
def bits (b : Buttons) : Nat := b.left.toNat + 2 * b.right.toNat

/-- The buttons as two letters, with a dash for one that is not held. -/
def text (b : Buttons) : String :=
  (if b.left then "L" else "-") ++ (if b.right then "R" else "-")

end Buttons

/-- What an event tells. -/
inductive EventKind where
  /-- One finger moved. -/
  | motion
  /-- All fingers were lifted. -/
  | release
  deriving DecidableEq, Repr

def EventKind.name : EventKind → String
  | motion => "Motion"
  | release => "Release"

structure Event where
  kind : EventKind
  dx : Int
  dy : Int
  buttons : Buttons
  deriving DecidableEq, Repr

namespace Event

def motion (dx dy : Int) (buttons : Buttons) : Event := ⟨.motion, dx, dy, buttons⟩

/-- A release, which never moves the pointer. -/
def release (buttons : Buttons) : Event := ⟨.release, 0, 0, buttons⟩

/-- Whether an event is a release with a button held. -/
def isClick (e : Event) : Bool := e.kind == .release && !e.buttons.isEmpty

def text (e : Event) : String :=
  e.kind.name ++ " dx: " ++ toString e.dx ++ ", dy: " ++ toString e.dy ++ ", buttons: " ++
    e.buttons.text

end Event

end Touchpad
