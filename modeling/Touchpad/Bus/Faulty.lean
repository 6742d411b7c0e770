import Touchpad.Bus.Transport

/-!
# A transport that fails on demand

Submissions are counted from zero, and those that are listed fail before the transport behind sees
them. All others are passed on.
-/

namespace Touchpad

/-- A transport state together with the submissions that are to fail. -/
structure Faulty (σ : Type) where
  inner : σ
  submitted : Nat
  failures : List (Nat × TransportError)

namespace Faulty

/-- Fails the listed submissions and passes the others on; of two entries the first counts. -/
def transport {σ : Type} (t : Transport σ) : Transport (Faulty σ) where
  submit s r :=
    let next := s.submitted + 1
    match s.failures.lookup s.submitted with
    | some e => { outcome := .error e, taken := [], state := { s with submitted := next } }
    | none =>
      let answer := t.submit s.inner r
      { outcome := answer.outcome
        taken := answer.taken
        state := { s with inner := answer.state, submitted := next }
        notes := answer.notes }

end Faulty

end Touchpad
