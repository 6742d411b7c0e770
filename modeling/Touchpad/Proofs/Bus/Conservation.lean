import Touchpad.Proofs.Bus.Agreement

/-!
# No reply byte is lost

A script takes the bytes of a request from the front of its queue all at once. That is what becomes
of them one by one: each read takes the next byte, and the first one that finds none puts an end to
the request. What was read before that stays read.

* `Operation.carryOut`: operations that are carried out one by one
* `Script.carryOut_eq_submit`: a script answers like this
* `Script.Fulfilled`, `Script.RanOut`: the two ways in which a request can end
* `Script.conservation_law`: what becomes of all bytes in calls of any number and order
-/

namespace Touchpad

/-! ## Operations one by one -/

namespace Operation

variable {ops : List Operation} {bs queue : List UInt8}

/-- An operation without what it has read. -/
def blank : Operation → Operation
  | command b => command b
  | read _ => read 0

@[simp] theorem sent?_blank (op : Operation) : op.blank.sent? = op.sent? := by
  cases op <;> rfl

@[simp] theorem fill_nil (ops : List Operation) : fill ops [] = ops := by
  cases ops <;> rfl

@[simp] theorem fill_command (b : UInt8) (ops : List Operation) (bs : List UInt8) :
    fill (command b :: ops) bs = command b :: fill ops bs := by
  cases bs with
  | nil => rw [fill_nil, fill_nil]
  | cons x bs => rfl

/-- Filling in values does not change what the operations are. -/
theorem map_blank_fill : (fill ops bs).map blank = ops.map blank := by
  induction ops generalizing bs with
  | nil => rfl
  | cons op ops ih =>
    cases bs with
    | nil => rw [fill_nil]
    | cons b bs =>
      cases op with
      | command byte => exact congrArg (command byte :: ·) ih
      | read value => exact congrArg (read 0 :: ·) ih

/--
What becomes of operations and of a queue, one operation after the other: whether there was a byte
for each read, the operations with what they have read, and the bytes that are left.
-/
def carryOut :
    List Operation → List UInt8 → Except TransportError Unit × List Operation × List UInt8
  | [], queue => (.ok (), [], queue)
  | command byte :: ops, queue =>
    let (outcome, done, left) := carryOut ops queue
    (outcome, command byte :: done, left)
  | read value :: ops, [] => (.error .exhausted, read value :: ops, [])
  | read _ :: ops, b :: queue =>
    let (outcome, done, left) := carryOut ops queue
    (outcome, read b :: done, left)

/-- One by one the reads take the bytes that they can have altogether. -/
theorem carryOut_eq (ops : List Operation) (queue : List UInt8) :
    let n := (ops.filterMap value?).length
    carryOut ops queue =
      (if queue.length < n then .error .exhausted else .ok (), fill ops (queue.take n),
        queue.drop n) := by
  induction ops generalizing queue with
  | nil => simp [carryOut]
  | cons op ops ih =>
    cases op with
    | command byte =>
      simp only [carryOut, ih, fill_command, List.filterMap_cons, value?]
      rfl
    | read value =>
      cases queue with
      | nil => simp [carryOut, value?]
      | cons b queue => simp [carryOut, ih, value?, fill]

end Operation

namespace Request

variable {r : Request} {bs : List UInt8}

/-- A request without what it has read. -/
def blank (r : Request) : Request := ⟨r.operations.map Operation.blank⟩

theorem blank_fill : (r.fill bs).blank = r.blank := congrArg mk Operation.map_blank_fill

theorem commands_blank (r : Request) : r.blank.commands = r.commands := by
  simp only [commands, blank, List.filterMap_map, Function.comp_def, Operation.sent?_blank]

theorem commands_fill : (r.fill bs).commands = r.commands := by
  rw [← commands_blank, blank_fill, commands_blank]

/-- The first reads hold the bytes, and the others what they held before. -/
theorem values_fill_of_le (h : bs.length ≤ r.readCount) :
    (r.fill bs).values = bs ++ r.values.drop bs.length := by
  obtain ⟨ops⟩ := r
  unfold readCount values at h
  unfold values fill
  induction ops generalizing bs with
  | nil =>
    rw [List.eq_nil_of_length_eq_zero (Nat.le_zero.mp h)]
    rfl
  | cons op ops ih =>
    cases bs with
    | nil => simp
    | cons b bs =>
      cases op with
      | command byte => exact ih h
      | read value => exact congrArg (b :: ·) (ih (Nat.le_of_succ_le_succ h))

end Request

/-! ## One request -/

namespace Script

open Dialogue (records)
open Exchange (successes)

variable {s : Script} {r : Request}

/-- A script gives a request the bytes that it reads, as far as there are any. -/
@[simp] theorem submit_taken : (s.submit r).taken = s.replies.take r.readCount := by
  unfold submit
  split <;> rfl

/-- A request fails on a script exactly if bytes are missing. -/
@[simp] theorem submit_outcome :
    (s.submit r).outcome =
      if s.replies.length < r.readCount then .error .exhausted else .ok () := by
  unfold submit
  split <;> rfl

@[simp] theorem submit_replies : (s.submit r).state.replies = s.replies.drop r.readCount := by
  unfold submit
  split
  · next h => exact (List.drop_of_length_le (Nat.le_of_lt h)).symm
  · rfl

/-- **A script carries out the operations of a request one by one**, in effect. -/
theorem carryOut_eq_submit (s : Script) (r : Request) :
    Operation.carryOut r.operations s.replies =
      ((s.submit r).outcome, (r.fill (s.submit r).taken).operations,
        (s.submit r).state.replies) := by
  rw [submit_outcome, submit_taken, submit_replies]
  exact Operation.carryOut_eq r.operations s.replies

/-- What a request leaves behind if there is a byte for each of its reads. -/
structure Fulfilled (s : Script) (r : Request) (a : Submission Script) : Prop where
  outcome : a.outcome = .ok ()
  length_taken : a.taken.length = r.readCount
  replies : a.taken ++ a.state.replies = s.replies
  history : a.state.history = s.history ++ [r.fill a.taken]

/-- What a request leaves behind if it reads more than there is. -/
structure RanOut (s : Script) (a : Submission Script) : Prop where
  outcome : a.outcome = .error .exhausted
  taken : a.taken = s.replies
  replies : a.state.replies = []
  history : a.state.history = s.history

/-- A request is fulfilled exactly if there are enough bytes. -/
theorem fulfilled_iff : s.Fulfilled r (s.submit r) ↔ r.readCount ≤ s.replies.length := by
  constructor
  · intro h
    rw [← h.length_taken, submit_taken]
    exact List.length_take_le' ..
  · intro h
    refine ⟨?_, ?_, ?_, ?_⟩
    · rw [submit_outcome, if_neg (Nat.not_lt_of_le h)]
    · rw [submit_taken, List.length_take_of_le h]
    · rw [submit_taken, submit_replies, List.take_append_drop]
    · rw [submit, if_neg (Nat.not_lt_of_le h)]

theorem ranOut_iff : s.RanOut (s.submit r) ↔ s.replies.length < r.readCount := by
  constructor
  · intro h
    have hok := h.outcome
    rw [submit_outcome] at hok
    split at hok
    · next hlt => exact hlt
    · cases hok
  · intro h
    refine ⟨?_, ?_, ?_, ?_⟩
    · rw [submit_outcome, if_pos h]
    · rw [submit_taken, List.take_of_length_le (Nat.le_of_lt h)]
    · rw [submit_replies, List.drop_of_length_le (Nat.le_of_lt h)]
    · rw [submit, if_pos h]

/-! ## Calls -/

/-- A call of a script. -/
inductive Call where
  | push (bs : List UInt8)
  | submit (r : Request)

namespace Call

/-- The script after a call. -/
def apply (s : Script) : Call → Script
  | push bs => s.push bs
  | submit r => (s.submit r).state

/-- The bytes that a call brings. -/
def bytes : Call → List UInt8
  | push bs => bs
  | submit _ => []

def request? : Call → Option Request
  | push _ => none
  | submit r => some r

end Call

/-- The script after calls, one after the other. -/
def after (s : Script) (calls : List Call) : Script := calls.foldl Call.apply s

def exchange (s : Script) (r : Request) : Exchange := ⟨r, (s.submit r).outcome, (s.submit r).taken⟩

/-- The round trips of the requests among calls. -/
def exchanges (s : Script) : List Call → List Exchange
  | [] => []
  | .push bs :: calls => (s.push bs).exchanges calls
  | .submit r :: calls => s.exchange r :: (s.submit r).state.exchanges calls

/-- Every call that is a request is one round trip. -/
theorem map_request_exchanges (s : Script) (calls : List Call) :
    (s.exchanges calls).map Exchange.request = calls.filterMap Call.request? := by
  induction calls generalizing s with
  | nil => rfl
  | cons c calls ih =>
    cases c with
    | push bs => exact ih (s.push bs)
    | submit r => exact congrArg (r :: ·) (ih (s.submit r).state)

/-- **Each byte is read or still there**, in the order in which they came. -/
theorem taken_append_replies (s : Script) (calls : List Call) :
    (s.exchanges calls).flatMap Exchange.taken ++ (s.after calls).replies =
      s.replies ++ calls.flatMap Call.bytes := by
  induction calls generalizing s with
  | nil => simp [exchanges, after]
  | cons c calls ih =>
    cases c with
    | push bs => exact (ih (s.push bs)).trans (List.append_assoc ..)
    | submit r =>
      have hrest := ih (s.submit r).state
      calc (s.submit r).taken ++ ((s.submit r).state.exchanges calls).flatMap Exchange.taken ++
            ((s.submit r).state.after calls).replies
        _ = (s.submit r).taken ++ ((s.submit r).state.replies ++ calls.flatMap Call.bytes) := by
          rw [List.append_assoc, hrest]
        _ = s.replies ++ calls.flatMap Call.bytes := by
          rw [← List.append_assoc, submit_taken, submit_replies, List.take_append_drop]

/-- The history is that of the round trips that succeeded. -/
theorem history_after (s : Script) (calls : List Call) :
    (s.after calls).history = s.history ++ records (successes (s.exchanges calls)) := by
  induction calls generalizing s with
  | nil => exact (List.append_nil _).symm
  | cons c calls ih =>
    cases c with
    | push bs => exact ih (s.push bs)
    | submit r =>
      refine (ih (s.submit r).state).trans ?_
      rcases Nat.lt_or_ge s.replies.length r.readCount with hlt | hle
      · have h := ranOut_iff.mpr hlt
        have hfailed : ¬ (s.exchange r).Succeeded := fun hok => by cases h.outcome.symm.trans hok
        rw [h.history, exchanges, Exchange.successes_cons_of_not hfailed]
      · have h := fulfilled_iff.mpr hle
        have hok : (s.exchange r).Succeeded := h.outcome
        rw [h.history, exchanges, Exchange.successes_cons hok, List.append_assoc]
        rfl

/-- What was sent are the commands of the requests that succeeded. -/
theorem sent_after (s : Script) (calls : List Call) :
    (s.after calls).sent =
      s.sent ++ (successes (s.exchanges calls)).flatMap fun e => e.request.commands := by
  unfold sent
  rw [history_after, List.flatMap_append, records, List.flatMap_map]
  simp only [Exchange.completion, Request.commands_fill]

/--
**What becomes of the bytes of a script** in calls of any number and order. The bytes that requests
have read, whether they succeeded or not, and those that are still there are the bytes that came, in
their order. The history holds the requests that succeeded, with what they have read, and what was
sent are their commands. The next request fails if it reads more than there is. In that case it
takes what is there, and the history stays the same; otherwise it takes one byte for each read. The
operations of a request stay what they are and where they are, and what is read goes to the first of
its reads. All of this comes about one operation after the other.
-/
theorem conservation_law (initial : List UInt8) (calls : List Call) :
    let s := (ofReplies initial).after calls
    let es := (ofReplies initial).exchanges calls
    es.map Exchange.request = calls.filterMap Call.request? ∧
      es.flatMap Exchange.taken ++ s.replies = initial ++ calls.flatMap Call.bytes ∧
      s.history = records (successes es) ∧
      s.sent = ((successes es).flatMap fun e => e.request.commands) ∧
      ∀ r : Request,
        let answer := s.submit r
        let done := r.fill answer.taken
        Operation.carryOut r.operations s.replies =
            (answer.outcome, done.operations, answer.state.replies) ∧
          done.blank = r.blank ∧ done.commands = r.commands ∧
          done.values = answer.taken ++ r.values.drop answer.taken.length ∧
          (s.Fulfilled r answer ↔ r.readCount ≤ s.replies.length) ∧
          (s.RanOut answer ↔ s.replies.length < r.readCount) := by
  refine ⟨map_request_exchanges _ calls, taken_append_replies _ calls, history_after _ calls,
    sent_after _ calls, ?_⟩
  intro r answer done
  have htaken : answer.taken.length ≤ r.readCount := by
    rw [submit_taken]
    exact List.length_take_le ..
  exact ⟨carryOut_eq_submit _ r, Request.blank_fill, Request.commands_fill,
    Request.values_fill_of_le htaken, fulfilled_iff, ranOut_iff⟩

end Script

end Touchpad
