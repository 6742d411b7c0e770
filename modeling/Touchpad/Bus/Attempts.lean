import Touchpad.Bus.Retry
import Touchpad.Log

/-!
# Attempts in a loop

`Touchpad.retry` knows how many attempts are left, and ends by its recursion. Here the attempts are
made in a loop which only a success ends, or a failure of the last attempt that is allowed. They are
counted with an unsigned number of 32 bits, and a number that does not fit is a fault. The operation
that is tried has a state of its own, and what is done is kept in a journal.

## Main definitions

* `Attempts`: an operation, and how it is tried
* `Attempts.call`, `Attempts.between`: what `Touchpad.retry` does with an operation
* `Attempts.turn`: one turn of the loop
* `Attempts.Leads`, `Attempts.Ends`: turns of the loop, one after the other, and its end
-/

namespace Touchpad

/-! ## Journals -/

/-- What attempts do, as it can be seen from outside. -/
inductive Deed (ε α : Type) where
  /-- The operation was called, and this came out of it. -/
  | call (outcome : Except ε α)
  | note (record : Log.Record)
  | pause (microseconds : Nat)

def Deed.isCall {ε α : Type} : Deed ε α → Bool
  | call _ => true
  | note _ | pause _ => false

/-- The state of an operation that is tried, and what was done so far. -/
structure Journal (σ ε α : Type) where
  state : σ
  deeds : List (Deed ε α)

namespace Journal

variable {σ ε α : Type}

def new (s : σ) : Journal σ ε α := ⟨s, []⟩

/-- How often the operation was called. -/
def calls (j : Journal σ ε α) : Nat := j.deeds.countP Deed.isCall

def add (deed : Deed ε α) : StateM (Journal σ ε α) Unit :=
  modify fun j => { j with deeds := j.deeds ++ [deed] }

end Journal

/-! ## Attempts -/

/-- An operation with a state of its own that is tried until it succeeds. -/
structure Attempts (σ ε α : Type) where
  /-- What a call comes to, and the state that it leaves. -/
  operation : σ → Except ε α × σ
  /-- The text of an error. -/
  spell : ε → String
  /-- How many attempts are made at most; zero counts as one. -/
  tries : UInt32
  /-- The microseconds between two attempts. -/
  delay : Nat

namespace Attempts

/-- Where the loop stands in front of a turn. -/
structure Round (σ ε α : Type) where
  /-- The number of the attempt that comes next. -/
  attempt : UInt32
  journal : Journal σ ε α

/-- What a turn of the loop comes to. -/
inductive Turn (σ ε α : Type) where
  | again (next : Round σ ε α)
  | ended (value : Except ε α) (journal : Journal σ ε α)
  /-- The number of the next attempt does not fit. -/
  | overflow

variable {σ ε α : Type} (a : Attempts σ ε α)

def allowed : UInt32 := max a.tries 1

/-- What is logged about an attempt that failed, where another one follows. -/
def record (attempt : Nat) (cause : ε) : Log.Record :=
  Log.debug ("Attempt " ++ toString attempt ++ "/" ++ toString a.allowed.toNat ++ " failed: " ++
    a.spell cause)

/-- Calls the operation. -/
def call : StateM (Journal σ ε α) (Except ε α) := do
  let j ← get
  let (outcome, state) := a.operation j.state
  set { j with state }
  Journal.add (.call outcome)
  return outcome

/-- Passes from a failed attempt to the next one. -/
def between (attempt : Nat) (cause : ε) : StateM (Journal σ ε α) Unit := do
  Journal.add (.note (a.record attempt cause))
  Journal.add (.pause a.delay)

/-- The first round: nothing was done, and the first attempt comes next. -/
def first (s : σ) : Round σ ε α := ⟨1, .new s⟩

/-- One turn of the loop. -/
def turn (r : Round σ ε α) : Turn σ ε α :=
  match a.call r.journal with
  | (.ok value, j) => .ended (.ok value) j
  | (.error cause, j) =>
    if r.attempt < a.allowed then
      let (_, j) := a.between r.attempt.toNat cause j
      if r.attempt.toNat + 1 < UInt32.size then .again ⟨r.attempt + 1, j⟩ else .overflow
    else .ended (.error cause) j

/-- Whether a turn of the loop leads from a round to the next one. -/
def Leads (r next : Round σ ε α) : Prop := a.turn r = .again next

/-- Whether the loop ends, a number of turns behind some round, and what it comes to there. -/
inductive Ends (a : Attempts σ ε α) : Round σ ε α → Except ε α → Journal σ ε α → Prop
  | now {r : Round σ ε α} {value : Except ε α} {j : Journal σ ε α} :
      a.turn r = .ended value j → Ends a r value j
  | later {r next : Round σ ε α} {value : Except ε α} {j : Journal σ ε α} :
      a.Leads r next → Ends a next value j → Ends a r value j

end Attempts

end Touchpad
