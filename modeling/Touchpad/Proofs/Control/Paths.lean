import Touchpad.Control.StartUp
import Touchpad.Proofs.Bus.Plan

/-!
# Paths of commands

The commands to the touchpad are single round trips whose value is read off the completion, and the
steps of the start-up are made of them.

* `path_bind_iff`: the paths of two commands, one after the other
* `Asks`: a command that is a single round trip
* `path_persist`: a command that is tried again
-/

namespace Touchpad

/-! ## How much requests read -/

namespace Request

theorem values_empty : empty.values = [] := rfl

@[simp] theorem values_command (r : Request) (byte : UInt8) :
    (r.command byte).values = r.values := by
  simp [command, Operation.value?]

@[simp] theorem values_vendor (r : Request) (byte : UInt8) : (r.vendor byte).values = r.values := by
  simp [vendor]

@[simp] theorem values_sliced (r : Request) (value : UInt8) :
    (r.sliced value).values = r.values := by
  simp [sliced, slices]

end Request

theorem Query.readCount_request (encoding : Encoding) (command : UInt8) :
    (request encoding command).readCount = 3 := by
  cases encoding <;> rfl

theorem Register.readCount_readRequest (g : Generation) (reg : UInt8) :
    (readRequest g reg).readCount = 3 := by
  cases g <;> rfl

theorem Register.readCount_writeRequest (g : Generation) (reg value : UInt8) :
    (writeRequest g reg value).readCount = 0 := by
  cases g <;> simp [writeRequest, access, Request.readCount, Request.values_empty]

/-! ## What a caller reads off a completion -/

namespace Exchange

variable {e : Exchange}

/-- A request with a reply succeeds exactly if its reply is known. -/
theorem succeeded_iff_reply (h : 3 ≤ e.request.readCount) :
    e.Succeeded ↔ e.completion.reply.isOk = true := by
  obtain ⟨reply, hr⟩ := Request.exists_reply (r := e.request.fill e.taken)
    (by rwa [Request.readCount_fill])
  unfold Succeeded Completion.reply completion
  rw [hr]
  cases e.outcome <;> simp [Except.isOk, Except.toBool]

/-- The reply of a round trip that succeeded is known. -/
theorem exists_reply (h : 3 ≤ e.request.readCount) (hs : e.Succeeded) :
    ∃ reply, e.completion.reply = .ok reply := by
  have hok := (succeeded_iff_reply h).mp hs
  cases hreply : e.completion.reply with
  | ok reply => exact ⟨reply, rfl⟩
  | error cause =>
    rw [hreply] at hok
    cases hok

/-- A request without a reply succeeds exactly if it is done. -/
theorem succeeded_iff_done : e.Succeeded ↔ e.completion.done.isOk = true := by
  unfold Succeeded Completion.done completion
  cases e.outcome <;> simp [Except.isOk, Except.toBool]

end Exchange

namespace Control

variable {ε ε' α β : Type} {es : List Exchange}

/-! ## Commands in sequence -/

/-- **Commands in sequence**: both take place, or the first one fails. -/
theorem path_bind_iff {x : Talk ε α} {f : α → Talk ε β} {v : Except ε β} :
    (x >>= f).run.Path es v ↔
      (∃ es₁ a es₂, es = es₁ ++ es₂ ∧ x.run.Path es₁ (.ok a) ∧ (f a).run.Path es₂ v) ∨
        ∃ cause, x.run.Path es (.error cause) ∧ v = .error cause := by
  rw [ExceptT.run_bind, Dialogue.path_bind_iff]
  constructor
  · rintro ⟨es₁, a | a, es₂, rfl, h₁, h₂⟩
    · obtain ⟨rfl, rfl⟩ := h₂
      exact .inr ⟨a, by rwa [List.append_nil], rfl⟩
    · exact .inl ⟨es₁, a, es₂, rfl, h₁, h₂⟩
  · rintro (⟨es₁, a, es₂, rfl, h₁, h₂⟩ | ⟨cause, h, rfl⟩)
    · exact ⟨es₁, .ok a, es₂, rfl, h₁, h₂⟩
    · exact ⟨es, .error cause, [], (List.append_nil es).symm, h, rfl, rfl⟩

/-- Putting an error in other words changes the value of a path and none of its round trips. -/
theorem path_adapt_iff {x : Talk ε α} {f : ε → ε'} {v : Except ε' α} :
    (x.adapt f).run.Path es v ↔ ∃ w, x.run.Path es w ∧ v = w.mapError f := by
  show (x.run >>= fun w => pure (w.mapError f)).Path es v ↔ _
  rw [Dialogue.path_bind_iff]
  constructor
  · rintro ⟨es₁, w, es₂, rfl, h, rfl, rfl⟩
    exact ⟨w, by rwa [List.append_nil], rfl⟩
  · rintro ⟨w, h, rfl⟩
    exact ⟨es, w, [], (List.append_nil es).symm, h, rfl, rfl⟩

theorem path_pure_iff {a : α} {v : Except ε α} :
    (pure a : Talk ε α).run.Path es v ↔ es = [] ∧ v = .ok a := Iff.rfl

/-- A check that ends the commands with an error where it fails. -/
theorem path_check_iff {c : Prop} [Decidable c] {record : Log.Record} {cause : ε}
    {f : Unit → Talk ε α} {v : Except ε α} :
    (if c then (do say record; let u ← throw cause; f u) else f ()).run.Path es v ↔
      c ∧ es = [] ∧ v = .error cause ∨ ¬ c ∧ (f ()).run.Path es v := by
  split
  case isTrue hc =>
    rw [or_iff_left fun h => h.1 hc, and_iff_right hc]
    rfl
  case isFalse hc => rw [or_iff_right fun h => hc h.1, and_iff_right hc]

/-! ## Single round trips -/

/-- Whether a command is a single round trip of a request, with a value that is read off it. -/
structure Asks (talk : Talk ε α) (r : Request) (read : Exchange → Except ε α) : Prop where
  path : ∀ {es v}, talk.run.Path es v → ∃ e, es = [e] ∧ e.request = r ∧ v = read e
  succeeded_iff : ∀ {e : Exchange}, e.request = r → (e.Succeeded ↔ (read e).isOk = true)

/-- A single round trip is one with its errors put in other words, too. -/
theorem Asks.adapt {talk : Talk ε α} {r : Request} {read : Exchange → Except ε α}
    (h : Asks talk r read) (f : ε → ε') :
    Asks (talk.adapt f) r fun e => (read e).mapError f where
  path hp := by
    obtain ⟨w, hw, rfl⟩ := path_adapt_iff.mp hp
    obtain ⟨e, rfl, hr, rfl⟩ := h.path hw
    exact ⟨e, rfl, hr, rfl⟩
  succeeded_iff {e} hr := by
    rw [h.succeeded_iff hr]
    cases read e <;> rfl

/-- What follows a round trip without another one only changes its value. -/
theorem Asks.bind {talk : Talk ε α} {r : Request} {read : Exchange → Except ε α}
    (h : Asks talk r read) {f : α → Talk ε β} {g : α → β}
    (hf : ∀ {a es v}, (f a).run.Path es v → es = [] ∧ v = .ok (g a)) :
    Asks (talk >>= f) r fun e => (read e).map g where
  path hp := by
    rcases path_bind_iff.mp hp with ⟨es₁, a, es₂, rfl, h₁, h₂⟩ | ⟨cause, h₁, rfl⟩
    · obtain ⟨e, rfl, hr, he⟩ := h.path h₁
      obtain ⟨rfl, rfl⟩ := hf h₂
      exact ⟨e, rfl, hr, by rw [← he]; rfl⟩
    · obtain ⟨e, rfl, hr, he⟩ := h.path h₁
      exact ⟨e, rfl, hr, by rw [← he]; rfl⟩
  succeeded_iff {e} hr := by
    rw [h.succeeded_iff hr]
    cases read e <;> rfl

theorem Asks.map {talk : Talk ε α} {r : Request} {read : Exchange → Except ε α}
    (h : Asks talk r read) (f : α → β) :
    Asks (do let a ← talk; return f a) r fun e => (read e).map f :=
  h.bind fun hp => hp

/-- A log record in front changes nothing. -/
theorem Asks.after_say {talk : Talk ε α} {r : Request} {read : Exchange → Except ε α}
    (h : Asks talk r read) (record : Log.Record) : Asks (do say record; talk) r read where
  path hp := h.path hp
  succeeded_iff := h.succeeded_iff

/-- A single round trip may be answered in any way. -/
theorem Asks.path_of {talk : Talk ε α} {r : Request} {read : Exchange → Except ε α} {e : Exchange}
    (h : Asks talk r read) (hr : e.request = r) : talk.run.Path [e] (read e) := by
  -- on a transport that gives nothing but this answer
  have hp := Dialogue.path_run (Transport.constant e.outcome e.taken) () talk.run
  obtain ⟨last, hes, hlast, hv⟩ := h.path hp
  have hmem : last ∈ talk.run.exchanges (Transport.constant e.outcome e.taken) () := by simp [hes]
  obtain ⟨ho, ht⟩ := Dialogue.exchanges_constant hmem
  obtain rfl : last = e := by
    cases last
    cases e
    simp_all
  rwa [hes, hv] at hp

theorem eq_ok_of_mapError {f : ε → ε'} {v : Except ε α} {a : α} (h : .ok a = v.mapError f) :
    v = .ok a := by
  cases v with
  | ok b => exact congrArg Except.ok (Except.ok.inj h).symm
  | error cause => cases h

/-- A round trip that comes first, with what follows it: without a value nothing does. -/
theorem Asks.cases_bind {talk : Talk ε α} {r : Request} {read : Exchange → Except ε α}
    (h : Asks talk r read) {f : ε → ε'} {k : α → Talk ε' β} {v : Except ε' β}
    (hp : (talk.adapt f >>= k).run.Path es v) :
    ∃ e rest, es = e :: rest ∧ e.request = r ∧
      ((∃ a, read e = .ok a ∧ (k a).run.Path rest v) ∨
        ∃ cause, read e = .error cause ∧ rest = [] ∧ v = .error (f cause)) := by
  have hask := h.adapt f
  rcases path_bind_iff.mp hp with ⟨es₁, a, es₂, rfl, h₁, h₂⟩ | ⟨cause, h₁, rfl⟩
  · obtain ⟨e, rfl, hr, hread⟩ := hask.path h₁
    exact ⟨e, es₂, rfl, hr, .inl ⟨a, eq_ok_of_mapError hread, h₂⟩⟩
  · obtain ⟨e, rfl, hr, hread⟩ := hask.path h₁
    refine ⟨e, [], rfl, hr, .inr ?_⟩
    cases hv : read e with
    | ok a =>
      rw [hv] at hread
      cases hread
    | error c =>
      rw [hv] at hread
      cases hread
      exact ⟨c, rfl, rfl, rfl⟩

/-- A request for a reply is a single round trip. -/
theorem asks_exchange {r : Request} (h : 3 ≤ r.readCount) :
    Asks (exchange r) r fun e => e.completion.reply where
  path hp := by
    obtain ⟨e, rest, rfl, hr, rfl, rfl⟩ := hp
    exact ⟨e, rfl, hr, rfl⟩
  succeeded_iff hr := Exchange.succeeded_iff_reply (by rwa [hr])

theorem asks_order (r : Request) : Asks (order r) r fun e => e.completion.done where
  path hp := by
    obtain ⟨e, rest, rfl, hr, rfl, rfl⟩ := hp
    exact ⟨e, rfl, hr, rfl⟩
  succeeded_iff _ := Exchange.succeeded_iff_done

/-- A query is a single round trip, and its value is the reply. -/
theorem asks_sendQuery (encoding : Encoding) (command : UInt8) :
    Asks (sendQuery encoding command) (Query.request encoding command)
      fun e => e.completion.reply := by
  have h : Asks (sendQuery encoding command) (Query.request encoding command)
      fun e => e.completion.reply.map id := by
    refine Asks.after_say (Asks.bind (asks_exchange ?_) ?_) _
    · exact Nat.le_of_eq (Query.readCount_request encoding command).symm
    · exact fun h => h
  simpa only [Except.map_id, id_eq] using h

/-- Writing a valid register is a single round trip. -/
theorem asks_writeRegister (g : Generation) {s : Setting} (h : Register.isValid s.register) :
    Asks (writeRegister g s.register s.value) (Register.writeRequest g s.register s.value)
      fun e => e.completion.done := by
  unfold writeRegister Register.write?
  rw [if_pos h]
  exact (asks_order _).after_say _

/-- Reading a valid register is a single round trip, and its value is in the reply. -/
theorem asks_readRegister (g : Generation) {reg : UInt8} (h : Register.isValid reg) :
    Asks (readRegister g reg) (Register.readRequest g reg)
      fun e => e.completion.reply.map (Register.valueIn g) := by
  unfold readRegister Register.read?
  rw [if_pos h]
  refine Asks.bind (asks_exchange ?_) fun h => h
  exact Nat.le_of_eq (Register.readCount_readRequest g reg).symm

theorem asks_setReporting (enable : Bool) :
    Asks (setReporting enable) (Request.reporting enable) fun e => e.completion.done :=
  asks_order _

/-! ## Repeated round trips -/

/-- Repeated attempts at a round trip: some failed ones, and then one that decides the value. -/
theorem path_retryFrom {talk : Talk ε α} {s : Step} {read : Exchange → Except ε α}
    (h : Asks talk s.request read) {between : Nat → ε → Dialogue Unit}
    (hb : ∀ {n cause es u}, (between n cause).Path es u → es = []) {n : Nat} {v : Except ε α}
    (hp : (retryFrom between talk.run n s.more).Path es v) :
    ∃ failed last, es = failed ++ [last] ∧ s.Tried failed last ∧ v = read last := by
  -- induction on the attempts that are left: a failure with some left leads to the next one
  obtain ⟨r, more, needed, accepts⟩ := s
  induction more generalizing n es with
  | zero =>
    obtain ⟨e, rfl, hr, rfl⟩ := h.path hp
    exact ⟨[], e, rfl, .single hr rfl, rfl⟩
  | succ more ih =>
    obtain ⟨es₁, w, es₂, rfl, h₁, h₂⟩ := Dialogue.path_bind_iff.mp hp
    obtain ⟨e, rfl, hr, rfl⟩ := h.path h₁
    cases hread : read e with
    | ok a =>
      rw [hread] at h₂
      obtain ⟨rfl, rfl⟩ := h₂
      have : e.Succeeded := by
        rw [h.succeeded_iff hr, hread]
        rfl
      exact ⟨[], e, rfl, ⟨Nat.zero_le _, .inl this, by simp, hr⟩, hread.symm⟩
    | error cause =>
      rw [hread] at h₂
      obtain ⟨es₃, u, es₄, rfl, h₃, h₄⟩ := Dialogue.path_bind_iff.mp h₂
      obtain rfl := hb h₃
      obtain ⟨failed, last, rfl, ht, rfl⟩ := ih h h₄
      refine ⟨e :: failed, last, rfl, ⟨Nat.succ_le_succ ht.length_le,
        ht.exhausted.imp_right (congrArg Nat.succ), ?_, ht.request⟩, rfl⟩
      rintro e' (_ | ⟨_, he'⟩)
      · have : ¬ e.Succeeded := by
          rw [h.succeeded_iff hr, hread]
          exact Bool.false_ne_true
        exact ⟨hr, this⟩
      · exact ht.failed e' he'

/-- **A command that is tried again**: the last attempt decides, and its success is the value's. -/
theorem path_persist {talk : Talk CommandError α} {s : Step}
    {read : Exchange → Except CommandError α} (h : Asks talk s.request read) {tries delay : Nat}
    (hm : s.more = max tries 1 - 1) {f : CommandError → ε} {v : Except ε α}
    (hp : ((persist tries delay talk).adapt f).run.Path es v) :
    ∃ failed last, es = failed ++ [last] ∧ s.Tried failed last ∧ v = (read last).mapError f ∧
      (last.Succeeded ↔ v.isOk = true) := by
  obtain ⟨w, hw, rfl⟩ := path_adapt_iff.mp hp
  unfold persist retry at hw
  rw [← hm] at hw
  -- between two attempts there is a record and a pause, and no round trip
  have hb {n : Nat} {cause : CommandError} {es : List Exchange} {u : Unit}
      (hp : (do
        Dialogue.say (Log.debug ("Attempt " ++ toString n ++ "/" ++ toString (max tries 1) ++
          " failed: " ++ cause.message))
        Dialogue.wait delay).Path es u) : es = [] := by
    obtain ⟨es₁, _, es₂, rfl, h₁, h₂⟩ := Dialogue.path_bind_iff.mp hp
    rw [Dialogue.path_say_iff.mp h₁, Dialogue.path_wait_iff.mp h₂, List.append_nil]
  obtain ⟨failed, last, rfl, ht, rfl⟩ := path_retryFrom h (fun hp => hb hp) hw
  refine ⟨failed, last, rfl, ht, rfl, ?_⟩
  rw [h.succeeded_iff ht.request]
  cases read last <;> rfl

end Control

end Touchpad
