import Touchpad.Bus.Dialogue

/-!
# Round trips of a dialogue

A run of a dialogue on a transport leaves a list of round trips, each with its request, its outcome
and the bytes that were read. `Dialogue.exchanges` collects them, and `Dialogue.Path` says which
lists a dialogue can leave at all, without a transport.

* `path_run`: every run takes a path
* `run_of_replays`: a transport that answers as on a path takes that path
* `run_bind`: two dialogues, one after the other, on a transport
* `path_bind_iff`: the paths of two dialogues, one after the other

A statement about every transport is one about every path, and a path is taken apart along the
dialogue.
-/

namespace Touchpad

/-! ## Filled requests -/

namespace Request

theorem readCount_fill (r : Request) (bs : List UInt8) : (r.fill bs).readCount = r.readCount := by
  unfold readCount values fill
  induction r.operations generalizing bs with
  | nil => rfl
  | cons op ops ih =>
    rcases bs with _ | ⟨b, bs⟩
    · cases op <;> rfl
    · cases op with
      | command byte => exact ih (b :: bs)
      | read value => exact congrArg Nat.succ (ih bs)

/-- As many values as a request reads are its values afterwards. -/
theorem values_fill {r : Request} {bs : List UInt8} (h : bs.length = r.readCount) :
    (r.fill bs).values = bs := by
  obtain ⟨ops⟩ := r
  unfold readCount values at h
  unfold values fill
  induction ops generalizing bs with
  | nil => exact (List.eq_nil_of_length_eq_zero h).symm
  | cons op ops ih =>
    cases op with
    | command byte =>
      cases bs with
      | nil => exact List.eq_nil_of_length_eq_zero h.symm
      | cons b bs => exact ih h
    | read value =>
      cases bs with
      | nil => cases h
      | cons b bs => exact congrArg (b :: ·) (ih (Nat.succ.inj h))

/-- A request with three reads has a reply. -/
theorem exists_reply {r : Request} (h : 3 ≤ r.readCount) : ∃ reply, r.reply? = some reply := by
  have hl : 3 ≤ r.values.reverse.length := by rwa [List.length_reverse]
  unfold reply? Reply.ofLast?
  rcases hv : r.values.reverse with _ | ⟨third, _ | ⟨second, _ | ⟨first, rest⟩⟩⟩
  · simp [hv] at hl
  · simp [hv] at hl
  · simp [hv] at hl
  · exact ⟨_, rfl⟩

end Request

/-! ## Round trips -/

/-- A round trip that took place. -/
structure Exchange where
  request : Request
  outcome : Except TransportError Unit
  /-- The bytes that were read, in order. -/
  taken : List UInt8

namespace Exchange

/-- What a caller saw of a round trip. -/
def completion (e : Exchange) : Completion := ⟨e.outcome, e.request.fill e.taken⟩

/-- Whether a round trip succeeded. -/
def Succeeded (e : Exchange) : Prop := e.outcome = .ok ()

/-- A round trip succeeded if its outcome is no error. -/
theorem succeeded_iff_isOk {e : Exchange} : e.Succeeded ↔ e.outcome.isOk = true := by
  unfold Succeeded
  cases e.outcome <;> simp [Except.isOk, Except.toBool]

instance (e : Exchange) : Decidable e.Succeeded := decidable_of_iff _ succeeded_iff_isOk.symm

/-- The round trips that succeeded. -/
def successes (es : List Exchange) : List Exchange := es.filter fun e => e.Succeeded

variable {es es₁ es₂ : List Exchange} {e : Exchange}

theorem successes_append : successes (es₁ ++ es₂) = successes es₁ ++ successes es₂ :=
  List.filter_append ..

theorem successes_cons (h : e.Succeeded) : successes (e :: es) = e :: successes es :=
  List.filter_cons_of_pos (decide_eq_true h)

theorem successes_cons_of_not (h : ¬ e.Succeeded) : successes (e :: es) = successes es :=
  List.filter_cons_of_neg (by simpa using h)

theorem successes_singleton (h : e.Succeeded) : successes [e] = [e] := successes_cons h

theorem successes_of_forall (h : ∀ e ∈ es, e.Succeeded) : successes es = es :=
  List.filter_eq_self.mpr fun e he => decide_eq_true (h e he)

theorem successes_of_forall_not (h : ∀ e ∈ es, ¬ e.Succeeded) : successes es = [] :=
  List.filter_eq_nil_iff.mpr fun e he => by simpa using h e he

end Exchange

/-- The transport that gives the same answer to every request. -/
def Transport.constant (outcome : Except TransportError Unit) (taken : List UInt8) :
    Transport Unit where
  submit _ _ := { outcome, taken, state := () }

namespace Dialogue

variable {σ α β : Type}

/-- The round trips of a dialogue on a transport, in order. -/
def exchanges (t : Transport σ) (s : σ) : Dialogue α → List Exchange
  | done _ => []
  | submit r next =>
    let answer := t.submit s r
    ⟨r, answer.outcome, answer.taken⟩ :: exchanges t answer.state (next (answer.completion r))
  | note _ next => exchanges t s next
  | pause _ next => exchanges t s next

/-- Whether a dialogue can have some round trips, in this order, and end with a value. -/
def Path : Dialogue α → List Exchange → α → Prop
  | done a, es, b => es = [] ∧ b = a
  | submit r next, es, b =>
    ∃ e rest, es = e :: rest ∧ e.request = r ∧ Path (next e.completion) rest b
  | note _ next, es, b => Path next es b
  | pause _ next, es, b => Path next es b

/-- **Every run takes a path.** -/
theorem path_run (t : Transport σ) (s : σ) (d : Dialogue α) :
    d.Path (d.exchanges t s) (d.run t s).value := by
  induction d generalizing s with
  | done a => exact ⟨rfl, rfl⟩
  | submit r next ih => exact ⟨_, _, rfl, rfl, ih _ _⟩
  | note record next ih => exact ih s
  | pause d next ih => exact ih s

/-- A transport that always gives the same answer gives no other one. -/
theorem exchanges_constant {outcome : Except TransportError Unit} {taken : List UInt8}
    {d : Dialogue α} {e : Exchange} (h : e ∈ d.exchanges (Transport.constant outcome taken) ()) :
    e.outcome = outcome ∧ e.taken = taken := by
  induction d with
  | done a => cases h
  | submit r next ih =>
    rcases List.mem_cons.mp h with rfl | h
    · exact ⟨rfl, rfl⟩
    · exact ih _ h
  | note record next ih => exact ih h
  | pause n next ih => exact ih h

/--
Whether a transport answers some requests, one after the other, in the way that round trips record.
-/
def Replays (t : Transport σ) : σ → List Exchange → Prop
  | _, [] => True
  | s, e :: es =>
    let answer := t.submit s e.request
    answer.outcome = e.outcome ∧ answer.taken = e.taken ∧ Replays t answer.state es

/-- A transport replays what it has just done, if it is put back to where it was. -/
theorem replays_exchanges (t : Transport σ) (s : σ) (d : Dialogue α) :
    Replays t s (d.exchanges t s) := by
  induction d generalizing s with
  | done a => trivial
  | submit r next ih => exact ⟨rfl, rfl, ih _ _⟩
  | note record next ih => exact ih s
  | pause n next ih => exact ih s

/-- **A transport that answers as on a path takes that path.** -/
theorem run_of_replays {t : Transport σ} {s : σ} {d : Dialogue α} {es : List Exchange} {a : α}
    (hp : d.Path es a) (h : Replays t s es) : d.exchanges t s = es ∧ (d.run t s).value = a := by
  induction d generalizing s es with
  | done b =>
    obtain ⟨rfl, rfl⟩ := hp
    exact ⟨rfl, rfl⟩
  | submit r next ih =>
    obtain ⟨e, rest, rfl, rfl, hp⟩ := hp
    obtain ⟨ho, ht, h⟩ := h
    have hc : (t.submit s e.request).completion e.request = e.completion := by
      unfold Submission.completion Exchange.completion
      rw [ho, ht]
    obtain ⟨hes, hv⟩ := ih e.completion hp h
    simp only [exchanges, run, hc, ho, ht, hes, hv, and_self]
  | note record next ih => exact ih hp h
  | pause n next ih => exact ih hp h

/-- The requests of a run are those of its round trips. -/
theorem requests_run (t : Transport σ) (s : σ) (d : Dialogue α) :
    (d.run t s).requests = (d.exchanges t s).map Exchange.request := by
  induction d generalizing s with
  | done a => rfl
  | submit r next ih => simp only [run, exchanges, List.map_cons, ih]
  | note record next ih => exact ih s
  | pause d next ih => exact ih s

/-- A transport goes through two dialogues one after the other. -/
theorem run_bind (t : Transport σ) (s : σ) (d : Dialogue α) (k : α → Dialogue β) :
    (d >>= k).run t s =
      let first := d.run t s
      let rest := (k first.value).run t first.state
      ⟨rest.value, rest.state, first.requests ++ rest.requests, first.notes ++ rest.notes⟩ := by
  show (d.bind k).run t s = _
  induction d generalizing s with
  | done a => rfl
  | submit r next ih => simp [bind, run, ih]
  | note record next ih => simp [bind, run, ih]
  | pause n next ih => simp [bind, run, ih]

/-- **A path of two dialogues is a path of the first and one of the second.** -/
theorem path_bind_iff {d : Dialogue α} {k : α → Dialogue β} {es : List Exchange} {b : β} :
    (d >>= k).Path es b ↔
      ∃ es₁ a es₂, es = es₁ ++ es₂ ∧ d.Path es₁ a ∧ (k a).Path es₂ b := by
  show (d.bind k).Path es b ↔ _
  induction d generalizing es with
  | done a =>
    constructor
    · exact fun h => ⟨[], a, es, rfl, ⟨rfl, rfl⟩, h⟩
    · rintro ⟨_, _, es₂, rfl, ⟨rfl, rfl⟩, h⟩
      exact h
  | submit r next ih =>
    constructor
    · rintro ⟨e, rest, rfl, rfl, h⟩
      obtain ⟨es₁, a, es₂, rfl, h₁, h₂⟩ := (ih e.completion).mp h
      exact ⟨e :: es₁, a, es₂, rfl, ⟨e, es₁, rfl, rfl, h₁⟩, h₂⟩
    · rintro ⟨_, a, es₂, rfl, ⟨e, rest, rfl, rfl, h₁⟩, h₂⟩
      exact ⟨e, rest ++ es₂, rfl, rfl, (ih e.completion).mpr ⟨rest, a, es₂, rfl, h₁, h₂⟩⟩
  | note record next ih => exact ih
  | pause d next ih => exact ih

theorem path_pure_iff {a b : α} {es : List Exchange} :
    (pure a : Dialogue α).Path es b ↔ es = [] ∧ b = a := Iff.rfl

/-- A log record is no round trip. -/
theorem path_say_iff {record : Log.Record} {es : List Exchange} {u : Unit} :
    (say record).Path es u ↔ es = [] := by
  simp [say, Path]

/-- A pause is no round trip. -/
theorem path_wait_iff {n : Nat} {es : List Exchange} {u : Unit} :
    (wait n).Path es u ↔ es = [] := by
  simp [wait, Path]

end Dialogue

end Touchpad
