import Touchpad.Bus.Transport

/-!
# Dialogues with a device

What a program says to a device, as a tree: a node is a request together with what follows each
possible completion of it, a log record, or a pause. A dialogue knows nothing about transports. Any
transport can answer it (`Dialogue.run`), and a statement about all transports is one about all
paths of the tree.

## Main definitions

* `Dialogue`: the tree, with its monad
* `Dialogue.run`: the path that a transport takes through it
-/

namespace Touchpad

/-- A conversation with a device that ends with a value. -/
inductive Dialogue (α : Type) where
  | done (value : α)
  /-- Submits a request, and goes on according to its completion. -/
  | submit (request : Request) (next : Completion → Dialogue α)
  | note (record : Log.Record) (next : Dialogue α)
  | pause (microseconds : Nat) (next : Dialogue α)

namespace Dialogue

variable {α β : Type}

/-- Goes on with a second dialogue where the first one ends. -/
def bind : Dialogue α → (α → Dialogue β) → Dialogue β
  | done a, k => k a
  | submit r next, k => submit r fun c => (next c).bind k
  | note record next, k => note record (next.bind k)
  | pause d next, k => pause d (next.bind k)

instance : Monad Dialogue where
  pure := done
  bind := bind

def request (r : Request) : Dialogue Completion := submit r done

def say (record : Log.Record) : Dialogue Unit := note record (done ())

def wait (microseconds : Nat) : Dialogue Unit := pause microseconds (done ())

/-- How a dialogue went on a transport. -/
structure Transcript (σ α : Type) where
  value : α
  state : σ
  /-- The requests that were submitted, as they stood before, in order. -/
  requests : List Request
  /-- What was logged, in order. -/
  notes : List Log.Record

/-- Follows the path through a dialogue on which a transport answers the requests. -/
def run {σ : Type} (t : Transport σ) (s : σ) : Dialogue α → Transcript σ α
  | done a => ⟨a, s, [], []⟩
  | submit r next =>
    let answer := t.submit s r
    let rest := run t answer.state (next (answer.completion r))
    { rest with requests := r :: rest.requests, notes := answer.notes ++ rest.notes }
  | note record next =>
    let rest := run t s next
    { rest with notes := record :: rest.notes }
  | pause _ next => run t s next

end Dialogue

end Touchpad
