import Touchpad.AccessError
import Touchpad.Bus.Request
import Touchpad.Log

/-!
# Transports

A transport carries out requests, one at a time. It is a state and a way to answer a request in a
state: whether the round trip succeeded, which bytes it read, the next state, and what it logged.
The only thing a transport can do to a request is to fill its first reads, so a command byte or the
order of the operations never changes, whatever the transport.
-/

namespace Touchpad

/-- Why a round trip failed. -/
inductive TransportError where
  | access (cause : AccessError)
  /-- The device answered a command byte with a refusal. -/
  | refused (command response : UInt8)
  /-- No byte came in time; `command` was the last one that was sent. -/
  | timeout (command : UInt8)
  /-- A script has no bytes left. -/
  | exhausted
  deriving DecidableEq, Repr

def TransportError.message : TransportError → String
  | access cause => "i/o error: " ++ cause.message
  | refused command response =>
    "device rejected command " ++ Hex.markedByte command ++ " with " ++ Hex.markedByte response
  | timeout command => "timed out waiting for a response to " ++ Hex.markedByte command
  | exhausted => "no more scripted replies"

/-- What a transport makes of a request. -/
structure Submission (σ : Type) where
  outcome : Except TransportError Unit
  /-- The bytes that were read, in order; there may be fewer than reads when the request failed. -/
  taken : List UInt8
  state : σ
  notes : List Log.Record := []

/-- A way to carry out requests, with states of type `σ`. -/
structure Transport (σ : Type) where
  submit : σ → Request → Submission σ

/-- What a caller sees of a round trip: its outcome, and the request with what was read. -/
structure Completion where
  outcome : Except TransportError Unit
  request : Request

def Submission.completion {σ : Type} (s : Submission σ) (r : Request) : Completion :=
  ⟨s.outcome, r.fill s.taken⟩

end Touchpad
