/-!
# Repeated attempts

An operation that may fail is tried again until it succeeds or the allowed attempts are used up. At
least one attempt is always made, and between two attempts the failure is handed on, so that the
caller can log it and wait.
-/

namespace Touchpad

variable {m : Type → Type} [Monad m] {ε α : Type}

/--
Makes attempt number `n`, and up to `more` further ones as long as they fail. `between` sees the
number of the failed attempt and its error, and runs only when another attempt follows.
-/
def retryFrom (between : Nat → ε → m Unit) (operation : m (Except ε α)) (n : Nat) :
    Nat → m (Except ε α)
  | 0 => operation
  | more + 1 => do
    match ← operation with
    | .ok a => pure (.ok a)
    | .error e =>
      between n e
      retryFrom between operation (n + 1) more

/-- Makes up to `tries` attempts, and one where `tries` is zero. -/
def retry (tries : Nat) (between : Nat → ε → m Unit) (operation : m (Except ε α)) :
    m (Except ε α) :=
  retryFrom between operation 1 (max tries 1 - 1)

end Touchpad
