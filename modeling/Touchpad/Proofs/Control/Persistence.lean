import Touchpad.Bus.Scripted
import Touchpad.Control.StartUp
import Touchpad.Proofs.Bus.Attempts
import Touchpad.Proofs.Bus.Exchange

/-!
# Commands that are tried again

A command on a transport is an operation whose state is that of the transport. So a command that is
tried again takes the course of attempts at it.

* `run_retryFrom`: the attempts of a course, on the transport
* `persist_law`: which attempts are made, with which requests and pauses
-/

namespace Touchpad

namespace Dialogue

variable {σ α β : Type}

/-- The pauses on the path that a transport takes through a dialogue, in order. -/
def pauses (t : Transport σ) (s : σ) : Dialogue α → List Nat
  | done _ => []
  | submit r next =>
    let answer := t.submit s r
    pauses t answer.state (next (answer.completion r))
  | note _ next => pauses t s next
  | pause n next => n :: pauses t s next

theorem pauses_bind (t : Transport σ) (s : σ) (d : Dialogue α) (k : α → Dialogue β) :
    (d >>= k).pauses t s =
      d.pauses t s ++ (k (d.run t s).value).pauses t (d.run t s).state := by
  show (d.bind k).pauses t s = _
  induction d generalizing s with
  | done a => rfl
  | submit r next ih => exact ih _ _
  | note record next ih => exact ih s
  | pause n next ih => exact congrArg (n :: ·) (ih s)

end Dialogue

namespace Control

variable {σ α : Type} {t : Transport σ} {s : σ} {talk : Talk CommandError α} {tries : UInt32}
  {delay n more : Nat} {cause : CommandError} {failures : List CommandError}
  {value : Except CommandError α}

/-- A command on a transport, as an operation on the state of the transport. -/
def attemptsAt (t : Transport σ) (talk : Talk CommandError α) (tries : UInt32) (delay : Nat) :
    Attempts σ CommandError α where
  operation s := ((talk.run.run t s).value, (talk.run.run t s).state)
  spell := CommandError.message
  tries
  delay

/-- Passes from a failed attempt to the next one, with a record and a pause. -/
def passOn (record : Nat → CommandError → Log.Record) (delay n : Nat) (cause : CommandError) :
    Dialogue Unit := do
  Dialogue.say (record n cause)
  Dialogue.wait delay

/-- A command that is tried again is repeated with the records and pauses of its attempts. -/
theorem run_persist :
    (persist tries.toNat delay talk).run =
      retry tries.toNat (passOn (attemptsAt t talk tries delay).record delay) talk.run := by
  unfold Attempts.record
  rw [Attempts.toNat_allowed]
  rfl

/-- A success, or a failure without attempts left, is the last attempt. -/
theorem run_retryFrom_last {between : Nat → CommandError → Dialogue Unit}
    (h : (talk.run.run t s).value.isOk = true ∨ more = 0) :
    (retryFrom between talk.run n more).run t s = talk.run.run t s ∧
      (retryFrom between talk.run n more).pauses t s = talk.run.pauses t s := by
  cases more with
  | zero => exact ⟨rfl, rfl⟩
  | succ more =>
    have hok := h.resolve_right (Nat.succ_ne_zero more)
    cases hv : (talk.run.run t s).value with
    | ok v =>
      unfold retryFrom
      simp only [Dialogue.run_bind, Dialogue.pauses_bind, hv]
      refine ⟨?_, List.append_nil _⟩
      simp [pure, Dialogue.run, ← hv]
    | error cause =>
      rw [hv] at hok
      cases hok

/-- A failure with attempts left is followed by its record, a pause and another attempt. -/
theorem run_retryFrom_of_error (h : (talk.run.run t s).value = .error cause)
    (record : Nat → CommandError → Log.Record) (delay n more : Nat) :
    let d := retryFrom (passOn record delay) talk.run n (more + 1)
    let rest := retryFrom (passOn record delay) talk.run (n + 1) more
    let first := talk.run.run t s
    (d.run t s).value = (rest.run t first.state).value ∧
      (d.run t s).state = (rest.run t first.state).state ∧
      (d.run t s).requests = first.requests ++ (rest.run t first.state).requests ∧
      d.pauses t s = talk.run.pauses t s ++ delay :: rest.pauses t first.state := by
  intro d rest first
  unfold d retryFrom
  simp only [Dialogue.run_bind, Dialogue.pauses_bind, h]
  exact ⟨rfl, rfl, rfl, rfl⟩

/-- **A command that is tried again takes its course**, with the pause between two attempts. -/
theorem run_retryFrom (h : (attemptsAt t talk tries delay).Course s more failures value)
    (record : Nat → CommandError → Log.Record) (n : Nat) :
    let a := attemptsAt t talk tries delay
    let states := a.states s (failures.length + 1)
    let d := retryFrom (passOn record delay) talk.run n more
    (d.run t s).value = value ∧ (d.run t s).state = a.stateAfter s (failures.length + 1) ∧
      (d.run t s).requests = states.flatMap (fun s => (talk.run.run t s).requests) ∧
      d.pauses t s = [delay].intercalate (states.map (talk.run.pauses t)) := by
  induction h generalizing n with
  | @last s more h =>
    intro a states d
    obtain ⟨hrun, hpauses⟩ : d.run t s = talk.run.run t s ∧ d.pauses t s = talk.run.pauses t s :=
      run_retryFrom_last h
    refine ⟨congrArg _ hrun, congrArg _ hrun, ?_, ?_⟩
    · rw [hrun]
      simp [states]
    · rw [hpauses]
      simp [states]
  | @failed s more cause failures value h hc ih =>
    obtain ⟨hvalue, hstate, hrequests, hpauses⟩ :=
      run_retryFrom_of_error h record delay n more
    obtain ⟨ihvalue, ihstate, ihrequests, ihpauses⟩ := ih (n + 1)
    intro a states d
    have hstates : states = s :: a.states (talk.run.run t s).state (failures.length + 1) :=
      Attempts.states_succ
    refine ⟨hvalue.trans ihvalue, hstate.trans ihstate, ?_, ?_⟩
    · rw [hrequests, hstates, List.flatMap_cons]
      exact congrArg _ ihrequests
    · rw [hpauses, hstates, List.map_cons]
      refine (congrArg (talk.run.pauses t s ++ delay :: ·) ihpauses).trans ?_
      -- there is another attempt behind, so that the pause stands in front of its pauses
      simp only [Attempts.states_succ, List.map_cons, List.intercalate_cons_cons]
      rw [List.append_assoc]
      rfl

/--
**Commands that are tried again.** On any transport, a command is given until it succeeds, at most
as often as is allowed. Each attempt begins in the state in which the one before has left the
transport, and makes its own requests there. All but the last one fail, and the last one decides.
Between two attempts, and nowhere else, there is a pause that the command does not make itself.
-/
theorem persist_law (t : Transport σ) (s : σ) (talk : Talk CommandError α) (tries : UInt32)
    (delay : Nat) :
    let a := attemptsAt t talk tries delay
    let d := (persist tries.toNat delay talk).run
    ∃ failures : List CommandError,
      let calls := failures.length + 1
      (calls : ℕ∞) = min (a.firstSuccess s) (max tries.toNat 1 : Nat) ∧
      a.outcomes s calls = failures.map .error ++ [(d.run t s).value] ∧
      (d.run t s).state = a.stateAfter s calls ∧
      (d.run t s).requests = (a.states s calls).flatMap (fun s => (talk.run.run t s).requests) ∧
      d.pauses t s = [delay].intercalate ((a.states s calls).map (talk.run.pauses t)) := by
  intro a d
  obtain ⟨failures, value, h⟩ := a.exists_course s (max tries.toNat 1 - 1)
  have hd : d = retry tries.toNat (passOn a.record delay) talk.run := run_persist
  obtain ⟨hvalue, hstate, hrequests, hpauses⟩ := run_retryFrom h a.record 1
  rw [hd]
  refine ⟨failures, ?_, ?_, hstate, hrequests, hpauses⟩
  · rw [h.calls_eq, Attempts.max_sub_add_cancel]
  · rw [h.outcomes_eq, ← hvalue]
    rfl

/-- Two pauses of half a second between three attempts that find nothing to read. -/
example :
    (queryCapabilities (.ofGeneration .v3 0x450f01) {}).run.pauses Script.transport
      (.ofReplies []) = [500000, 500000] := by
  decide

end Control

end Touchpad
