import Touchpad.Proofs.Control.Replies

/-!
# Accesses to registers

A register that does not exist is rejected before anything is sent. Every other access is a single
round trip, so that rejected accesses leave no trace among accesses of any number and order.

* `Access.run_of_not_hasRegister`: a rejected access
* `Access.requests_run_of_hasRegister`, `Access.run_read`: the other ones
* `Access.run_all_filter`: accesses without the rejected ones among them
* `access_law`: what accesses do to a script
-/

namespace Touchpad

/-! ## Transcripts -/

namespace Dialogue

variable {σ α β : Type}

/-- A transcript in which something else was made of the value. -/
def Transcript.map (f : α → β) (x : Transcript σ α) : Transcript σ β :=
  ⟨f x.value, x.state, x.requests, x.notes⟩

end Dialogue

namespace Control

/-- A read or a write of a register. -/
inductive Access where
  | read (g : Generation) (reg : UInt8)
  | write (g : Generation) (reg value : UInt8)

namespace Access

def register : Access → UInt8
  | read _ reg => reg
  | write _ reg _ => reg

/-- Whether there is such a register. -/
def HasRegister (a : Access) : Prop :=
  0x07 ≤ a.register.toNat ∧ a.register.toNat ≤ 0x11 ∨
    0x20 ≤ a.register.toNat ∧ a.register.toNat ≤ 0x26

instance (a : Access) : Decidable a.HasRegister := inferInstanceAs (Decidable (_ ∨ _))

/-- The request of an access. -/
def request : Access → Request
  | read g reg => Register.readRequest g reg
  | write g reg value => Register.writeRequest g reg value

/-- What an access says to the touchpad; a write ends without a value. -/
def talk : Access → Talk CommandError (Option UInt8)
  | read g reg => do
    let value ← readRegister g reg
    return some value
  | write g reg value => do
    writeRegister g reg value
    return none

/-- Accesses one after the other, each with how it ended. -/
def all : List Access → Dialogue (List (Access × Except CommandError (Option UInt8)))
  | [] => return []
  | a :: as => do
    let v ← a.talk.run
    let vs ← all as
    return (a, v) :: vs

theorem isValid_iff (a : Access) : Register.isValid a.register = true ↔ a.HasRegister := by
  simp [Register.isValid, HasRegister, UInt8.le_iff_toNat_le]

variable {a : Access}

/-- **A rejected access says nothing.** -/
theorem talk_of_not_hasRegister (h : ¬ a.HasRegister) :
    a.talk.run = .done (.error (.invalidRegister a.register)) := by
  have hvalid := mt a.isValid_iff.mp h
  cases a with
  | read g reg =>
    have hread : Register.read? g reg = none := if_neg hvalid
    simp only [talk, readRegister, hread]
    rfl
  | write g reg value =>
    have hwrite : Register.write? g reg value = none := if_neg hvalid
    simp only [talk, writeRegister, hwrite]
    rfl

/-- **Any other access is a single round trip** of its request. -/
theorem exists_asks (h : a.HasRegister) : ∃ read, Asks a.talk a.request read := by
  have hvalid := a.isValid_iff.mpr h
  cases a with
  | read g reg => exact ⟨_, (asks_readRegister g hvalid).map some⟩
  | write g reg value =>
    exact ⟨_, (asks_writeRegister g (s := ⟨reg, value⟩) hvalid).map fun _ => none⟩

section Run

variable {σ : Type} (t : Transport σ) (s : σ)

/-- An access to a register that does not exist sends nothing and changes nothing. -/
theorem run_of_not_hasRegister (h : ¬ a.HasRegister) :
    a.talk.run.run t s = ⟨.error (.invalidRegister a.register), s, [], []⟩ := by
  rw [talk_of_not_hasRegister h]
  rfl

theorem requests_run_of_hasRegister (h : a.HasRegister) :
    (a.talk.run.run t s).requests = [a.request] := by
  obtain ⟨read, hasks⟩ := exists_asks h
  obtain ⟨e, hes, hr, -⟩ := hasks.path (Dialogue.path_run t s a.talk.run)
  rw [Dialogue.requests_run, hes, List.map_singleton, hr]

/-- A read of a register that exists: its round trip, and the value in the reply. -/
theorem run_read {g : Generation} {reg : UInt8} (h : (read g reg).HasRegister) :
    let answer := t.submit s (Register.readRequest g reg)
    let transcript := (read g reg).talk.run.run t s
    transcript.value =
        (answer.completion (Register.readRequest g reg)).reply.map
          (fun reply => some (Register.valueIn g reply)) ∧
      transcript.state = answer.state := by
  have hread : Register.read? g reg = some (Register.readRequest g reg) :=
    if_pos ((read g reg).isValid_iff.mpr h)
  simp only [talk, readRegister, hread, ExceptT.run_bind, Dialogue.run_bind, run_exchange]
  generalize ((t.submit s _).completion _).reply = answered
  cases answered with
  | ok reply => exact ⟨rfl, rfl⟩
  | error cause => exact ⟨rfl, rfl⟩

/-- The first access is made first, and the others follow it whatever comes of it. -/
theorem run_all_cons (a : Access) (as : List Access) :
    (all (a :: as)).run t s =
      let first := a.talk.run.run t s
      let rest := (all as).run t first.state
      ⟨(a, first.value) :: rest.value, rest.state, first.requests ++ rest.requests,
        first.notes ++ rest.notes⟩ := by
  simp only [all, Dialogue.run_bind]
  simp [pure, Dialogue.run]

theorem map_fst_all (as : List Access) : ((all as).run t s).value.map Prod.fst = as := by
  induction as generalizing s with
  | nil => rfl
  | cons a as ih =>
    rw [run_all_cons]
    exact congrArg (a :: ·) (ih _)

/-- **Rejected accesses can be left out.** -/
theorem run_all_filter (as : List Access) :
    (all (as.filter (HasRegister ·))).run t s =
      ((all as).run t s).map (·.filter (HasRegister ·.1)) := by
  induction as generalizing s with
  | nil => rfl
  | cons a as ih =>
    by_cases h : a.HasRegister
    · rw [List.filter_cons_of_pos (by simpa using h)]
      simp only [run_all_cons, ih, Dialogue.Transcript.map]
      rw [List.filter_cons_of_pos (by simpa using h)]
    · rw [List.filter_cons_of_neg (by simpa using h)]
      simp only [run_all_cons, ih, Dialogue.Transcript.map, run_of_not_hasRegister t s h]
      rw [List.filter_cons_of_neg (by simpa using h)]
      rfl

/-- The requests are those of the accesses to registers that exist. -/
theorem requests_run_all (as : List Access) :
    ((all as).run t s).requests = (as.filter (HasRegister ·)).map request := by
  induction as generalizing s with
  | nil => rfl
  | cons a as ih =>
    simp only [run_all_cons, ih]
    by_cases h : a.HasRegister
    · rw [List.filter_cons_of_pos (by simpa using h), requests_run_of_hasRegister t s h]
      rfl
    · rw [List.filter_cons_of_neg (by simpa using h), run_of_not_hasRegister t s h]
      rfl

end Run

/-! ## Accesses on a script -/

/-- The value of a register stands in the three bytes that its read takes. -/
theorem run_read_eq_ok_iff (s : Script) (g : Generation) (reg : UInt8) (v : Option UInt8) :
    let transcript := (read g reg).talk.run.run Script.transport s
    transcript.value = .ok v ↔
      (read g reg).HasRegister ∧ ∃ reply : Reply,
        s.replies = reply.toList ++ transcript.state.replies ∧
          v = some (Register.valueIn g reply) := by
  intro transcript
  by_cases h : (read g reg).HasRegister
  · have hcount := Register.readCount_readRequest g reg
    obtain ⟨hvalue, hstate⟩ := run_read Script.transport s h
    have hok (x : Except CommandError Reply) :
        x.map (fun reply => some (Register.valueIn g reply)) = .ok v ↔
          ∃ reply, x = .ok reply ∧ v = some (Register.valueIn g reply) := by
      cases x <;> simp [Except.map, eq_comm]
    refine (Eq.congr_left hvalue).trans ((hok _).trans ?_)
    rw [and_iff_right h]
    refine exists_congr fun reply => and_congr_left fun _ => ?_
    rw [show transcript.state = (s.submit (Register.readRequest g reg)).state from hstate]
    exact Script.reply_submit_eq_ok_iff hcount
  · have hrun := run_of_not_hasRegister Script.transport s h
    simp [transcript, hrun, h]

/--
**What accesses do to a script.** An access to a register that does not exist fails with its number
and leaves the script as it is; nothing is submitted and nothing is logged. Every other access
submits one request. So the requests of accesses are those of the registers that exist, and without
the rejected ones among them everything else stays the same: how the other accesses end, the history
and the bytes that are left. A read that succeeds has taken three bytes, and its value is the first
of them, or the second one in the fourth generation.
-/
theorem access_law (s : Script) (accesses : List Access) :
    let t := Script.transport
    let transcript := (all accesses).run t s
    let possible := accesses.filter (HasRegister ·)
    (∀ (a : Access) s, ¬ a.HasRegister →
        a.talk.run.run t s = ⟨.error (.invalidRegister a.register), s, [], []⟩) ∧
      (∀ (a : Access) s, a.HasRegister → (a.talk.run.run t s).requests = [a.request]) ∧
      transcript.value.map Prod.fst = accesses ∧
      transcript.requests = possible.map request ∧
      (all possible).run t s = transcript.map (·.filter (HasRegister ·.1)) ∧
      ∀ g reg s v,
        let transcript := (read g reg).talk.run.run t s
        transcript.value = .ok v ↔ (read g reg).HasRegister ∧ ∃ reply : Reply,
          s.replies = reply.toList ++ transcript.state.replies ∧
            v = some (if g = .v4 then reply.second else reply.first) := by
  refine ⟨fun a s h => run_of_not_hasRegister _ s h, fun a s h => requests_run_of_hasRegister _ s h,
    map_fst_all _ s accesses, requests_run_all _ s accesses, run_all_filter _ s accesses, ?_⟩
  intro g reg s v
  have hvalue (reply : Reply) :
      Register.valueIn g reply = if g = .v4 then reply.second else reply.first := by
    cases g <;> rfl
  simpa only [hvalue] using run_read_eq_ok_iff s g reg v

end Access

end Control

end Touchpad
