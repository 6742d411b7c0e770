import Mathlib.Data.List.TakeWhile
import Touchpad.Proofs.Bus.Conservation

/-!
# A request in step with the device

On a serial link nothing says in advance how much of the input belongs to which operation. A command
takes all bytes up to the first one that settles it, a read takes the next byte, and the first
operation that gets no answer puts an end to the request. Where that happens is a matter of the
input alone: either it can be cut into answers to all operations, or there is an operation at which
the cutting comes to an end.

* `Operation.Answered`: the front of some input answers operations
* `Operation.Stuck`: the rest of the input does not answer an operation, and why
* `Operation.answered_or_stuck`: one or the other holds
* `Link.InStep`: no command is written before the one ahead of it was acknowledged
* `Link.submit_law`: what becomes of a request on a link on which the device is present
-/

namespace Touchpad

/-! ## Bytes that settle nothing -/

namespace Link

/-- The three bytes that settle a command. -/
theorem settles_iff {b : UInt8} : settles b = true ↔ b = 0xfa ∨ b = 0xfe ∨ b = 0xfc := by
  simp [settles, acknowledgement, refusals]

theorem settles_eq_false_iff {b : UInt8} :
    settles b = false ↔ b ≠ 0xfa ∧ b ≠ 0xfe ∧ b ≠ 0xfc := by
  rw [Bool.eq_false_iff, ne_eq, settles_iff, not_or, not_or]

/-- Whether no byte settles a command. -/
def Quiet (bs : List UInt8) : Prop := ∀ b ∈ bs, b ≠ 0xfa ∧ b ≠ 0xfe ∧ b ≠ 0xfc

theorem quiet_iff {bs : List UInt8} : Quiet bs ↔ ∀ b ∈ bs, settles b = false := by
  simp only [Quiet, settles_eq_false_iff]

theorem find?_settles_eq_none_iff {bs : List UInt8} : bs.find? settles = none ↔ Quiet bs := by
  simp [quiet_iff]

/-- The first byte that settles a command stands behind bytes that do not. -/
theorem find?_settles_of_quiet {noise rest : List UInt8} {answer : UInt8} (hn : Quiet noise)
    (ha : settles answer = true) : (noise ++ answer :: rest).find? settles = some answer := by
  rw [List.find?_append, find?_settles_eq_none_iff.mpr hn, Option.none_or,
    List.find?_cons_of_pos ha]

/-- Either no byte settles a command, or there is a first one that does. -/
theorem quiet_or_settled (bs : List UInt8) :
    Quiet bs ∨ ∃ noise answer rest, bs = noise ++ answer :: rest ∧ Quiet noise ∧
      (answer = 0xfa ∨ answer = 0xfe ∨ answer = 0xfc) := by
  by_cases h : ∃ b ∈ bs, settles b = true
  · obtain ⟨noise, answer, rest, rfl, hn, ha⟩ := exists_first_settling h
    exact .inr ⟨noise, answer, rest, rfl, quiet_iff.mpr hn, settles_iff.mp ha⟩
  · refine .inl (quiet_iff.mpr fun b hb => ?_)
    rw [Bool.eq_false_iff]
    exact fun hs => h ⟨b, hb, hs⟩

end Link

/-! ## Cutting the input -/

namespace Operation

open Link (Quiet)

variable {op : Operation} {ops before done : List Operation}
  {unread rest left : List UInt8} {last : UInt8} {cause : TransportError}

/--
Whether the front of some input answers operations: afterwards they stand as in `done`, and `rest`
is what is left of the input.
-/
structure Answered (ops : List Operation) (unread : List UInt8) (done : List Operation)
    (rest : List UInt8) : Prop where
  alike : done.map blank = ops.map blank
  answers : ∃ input, unread = input ++ rest ∧ Answers done input

/-- The byte of the last command, or the given one where there is no command. -/
def lastSent (last : UInt8) (ops : List Operation) : UInt8 := (ops.filterMap sent?).getLastD last

@[simp] theorem lastSent_nil : lastSent last [] = last := rfl

@[simp] theorem lastSent_command (last b : UInt8) (ops : List Operation) :
    lastSent last (command b :: ops) = lastSent b ops := List.getLastD_cons ..

@[simp] theorem lastSent_read (last b : UInt8) (ops : List Operation) :
    lastSent last (read b :: ops) = lastSent last ops := rfl

theorem lastSent_append (last : UInt8) (ops₁ ops₂ : List Operation) :
    lastSent last (ops₁ ++ ops₂) = lastSent (lastSent last ops₁) ops₂ := by
  induction ops₁ generalizing last with
  | nil => rfl
  | cons op ops₁ ih =>
    cases op with
    | command b => simpa using ih b
    | read b => simpa using ih last

/--
Why an operation gets no answer from what is left of the input when nothing comes behind it, and
what it leaves. The command byte ahead of the operation is `last`.
-/
inductive Stuck (last : UInt8) :
    Operation → List UInt8 → TransportError → List UInt8 → Prop
  /-- Nothing is left for a read. -/
  | starved {value : UInt8} : Stuck last (.read value) [] (.timeout last) []
  /-- The device does not answer a command. -/
  | ignored {b : UInt8} {rest : List UInt8} :
      Quiet rest → Stuck last (.command b) rest (.timeout b) []
  | refused {b answer : UInt8} {noise left : List UInt8} :
      Quiet noise → answer = 0xfe ∨ answer = 0xfc →
        Stuck last (.command b) (noise ++ answer :: left) (.refused b answer) left

namespace Answered

theorem nil (unread : List UInt8) : Answered [] unread [] unread := ⟨rfl, [], rfl, .nil⟩

/-- A command takes its noise and its acknowledgement. -/
theorem command {b : UInt8} {noise : List UInt8} (hn : Quiet noise)
    (h : Answered ops unread done rest) :
    Answered (.command b :: ops) (noise ++ 0xfa :: unread) (.command b :: done) rest := by
  obtain ⟨halike, input, rfl, hanswers⟩ := h
  refine ⟨congrArg (Operation.command b :: ·) halike, noise ++ 0xfa :: input, ?_,
    .command hn hanswers⟩
  rw [List.append_assoc, List.cons_append]

/-- An operation that reads takes the next byte. -/
theorem read (b value : UInt8) (h : Answered ops unread done rest) :
    Answered (.read value :: ops) (b :: unread) (.read b :: done) rest := by
  obtain ⟨halike, input, rfl, hanswers⟩ := h
  exact ⟨congrArg (Operation.read 0 :: ·) halike, b :: input, rfl, .read hanswers⟩

/-- What is sent does not depend on what is read. -/
theorem filterMap_sent? (h : Answered ops unread done rest) :
    done.filterMap sent? = ops.filterMap sent? := by
  have hcommands := Request.commands_blank ⟨done⟩
  rw [Request.blank, h.alike] at hcommands
  exact hcommands.symm.trans (Request.commands_blank ⟨ops⟩)

end Answered

/--
**The input answers all operations, or there is one that it does not answer**, and all operations
before that one are answered.
-/
theorem answered_or_stuck (last : UInt8) (ops : List Operation) (unread : List UInt8) :
    (∃ done rest, Answered ops unread done rest) ∨
      ∃ before op after done rest cause left, ops = before ++ op :: after ∧
        Answered before unread done rest ∧ Stuck (lastSent last before) op rest cause left := by
  -- an answer to the first operation is cut off, and the others go on with the rest of the input
  induction ops generalizing last unread with
  | nil => exact .inl ⟨[], unread, .nil unread⟩
  | cons op ops ih =>
    cases op with
    | command b =>
      rcases Link.quiet_or_settled unread with hq | ⟨noise, answer, unread, rfl, hn, ha⟩
      · exact .inr ⟨[], _, ops, [], unread, _, _, rfl, .nil unread, .ignored hq⟩
      · rcases ha with rfl | ha
        · rcases ih b unread with ⟨done, rest, h⟩ |
            ⟨before, op, after, done, rest, cause, left, rfl, h, hstuck⟩
          · exact .inl ⟨_, rest, h.command hn⟩
          · rw [← lastSent_command last] at hstuck
            exact .inr ⟨_, op, after, _, rest, cause, left, rfl, h.command hn, hstuck⟩
        · exact .inr ⟨[], _, ops, [], _, _, _, rfl, .nil _, .refused hn ha⟩
    | read value =>
      cases unread with
      | nil => exact .inr ⟨[], _, ops, [], [], _, _, rfl, .nil [], .starved⟩
      | cons b unread =>
        rcases ih last unread with ⟨done, rest, h⟩ |
          ⟨before, op, after, done, rest, cause, left, rfl, h, hstuck⟩
        · exact .inl ⟨_, rest, h.read b value⟩
        · rw [← lastSent_read last value] at hstuck
          exact .inr ⟨_, op, after, _, rest, cause, left, rfl, h.read b value, hstuck⟩

/-- What operations have read, put into those in front of others, leaves the others as they are. -/
theorem fill_append_of_alike (h : done.map blank = before.map blank) (ops : List Operation) :
    fill (before ++ ops) (done.filterMap value?) = done ++ ops := by
  induction before generalizing done with
  | nil =>
    rw [List.map_eq_nil_iff.mp h]
    exact fill_nil ops
  | cons op before ih =>
    obtain ⟨op', done, rfl, hop, hrest⟩ := List.map_eq_cons_iff.mp h
    cases op with
    | command b =>
      cases op' with
      | command b' =>
        cases hop
        simp only [List.cons_append, List.filterMap_cons, value?, fill_command, ih hrest]
      | read b' => cases hop
    | read value =>
      cases op' with
      | command b' => cases hop
      | read b' => exact congrArg (read b' :: ·) (ih hrest)

/-- Filling the operations with what was read is what they have become. -/
theorem Answered.fill_eq (h : Answered ops unread done rest) :
    fill ops (done.filterMap value?) = done := by
  simpa using fill_append_of_alike h.alike []

/-- Whether the input ends before an operation has got its answer. -/
def EndsEarly : Operation → List UInt8 → Prop
  | command _, rest => rest.find? Link.settles = none
  | read _, rest => rest = []

namespace Stuck

/-- A refusal is a command that one of two bytes settles first. -/
theorem cause_eq_refused_iff (h : Stuck last op rest cause left) {b answer : UInt8} :
    cause = .refused b answer ↔
      op = .command b ∧ rest.find? Link.settles = some answer ∧
        (answer = 0xfe ∨ answer = 0xfc) := by
  cases h with
  | starved => simp
  | ignored hq => simp [Link.find?_settles_eq_none_iff.mpr hq]
  | @refused b' answer' noise left hn ha =>
    rw [Link.find?_settles_of_quiet hn (Link.settles_iff.mpr (.inr ha))]
    simp only [TransportError.refused.injEq, command.injEq, Option.some.injEq]
    constructor
    · rintro ⟨rfl, rfl⟩
      exact ⟨rfl, rfl, ha⟩
    · rintro ⟨rfl, rfl, -⟩
      exact ⟨rfl, rfl⟩

/-- A timeout is an operation for which the bytes end too early. -/
theorem cause_eq_timeout_iff (h : Stuck last op rest cause left) {b : UInt8} :
    cause = .timeout b ↔ op.EndsEarly rest ∧ b = lastSent last [op] := by
  cases h with
  | starved => simp [EndsEarly, eq_comm]
  | ignored hq => simp [EndsEarly, Link.find?_settles_eq_none_iff.mpr hq, eq_comm]
  | refused hn ha =>
    simp [EndsEarly, Link.find?_settles_of_quiet hn (Link.settles_iff.mpr (.inr ha))]

end Stuck

end Operation

/-! ## A request on a link -/

namespace Link

open Operation (Answered Stuck lastSent)

variable {l : Link} {b last : UInt8} {op : Operation} {ops before done : List Operation}
  {rest left : List UInt8} {cause : TransportError}

/--
**Operations that are answered succeed**, with the bytes that they read, and all commands among them
are written.
-/
theorem run_of_answered (last : UInt8) (h : l.Listens) (ha : Answered ops l.unread done rest) :
    (l.run last ops).outcome = .ok () ∧ (l.run last ops).taken = done.filterMap Operation.value? ∧
      After l (l.run last ops).state (ops.filterMap Operation.sent?) rest := by
  obtain ⟨input, hinput, hanswers⟩ := ha.answers
  have hrun := run_of_answers last h hanswers hinput
  rwa [ha.filterMap_sent?, ← ha.fill_eq, run_fill, ha.fill_eq] at hrun

/-- A command that fails puts an end to the operations behind it. -/
theorem run_command_of_error (h : (l.sendCommand b).outcome = .error cause) :
    l.run last (.command b :: ops) = l.sendCommand b := by
  simp only [run, h]

/-- What follows operations that succeed goes on from where they have left the link. -/
theorem run_append (last : UInt8) {ops : List Operation} (more : List Operation)
    (h : (l.run last ops).outcome = .ok ()) :
    let first := l.run last ops
    let second := first.state.run (lastSent last ops) more
    l.run last (ops ++ more) =
      { second with
        taken := first.taken ++ second.taken, notes := first.notes ++ second.notes } := by
  -- a failure in front would be the outcome of the whole, against the assumption
  induction ops generalizing l last with
  | nil => rfl
  | cons op ops ih =>
    cases op with
    | command b =>
      cases hstep : (l.sendCommand b).outcome with
      | error cause =>
        rw [run_command_of_error hstep, hstep] at h
        cases h
      | ok u =>
        simp only [List.cons_append, run, Operation.lastSent_command, hstep] at h ⊢
        simp only [ih b h, List.append_assoc]
    | read value =>
      simp only [List.cons_append, run, Operation.lastSent_read] at h ⊢
      cases hl : l.unread with
      | nil =>
        rw [hl] at h
        cases h
      | cons x unread =>
        simp only [hl] at h ⊢
        simp only [ih last h, List.cons_append]

theorem taken_sendCommand (l : Link) (b : UInt8) : (l.sendCommand b).taken = [] := by
  unfold sendCommand await
  split
  · rfl
  · dsimp only
    split <;> rfl

/-- A command that is not answered takes all that is left. -/
theorem sendCommand_eq_of_quiet (b : UInt8) (hw : l.writeFault = none) (hq : Quiet l.unread) :
    (l.sendCommand b).outcome = .error (l.readFault b) ∧
      (l.sendCommand b).state = (l.write b).advance l.unread.length := by
  have htake : (l.write b).unread.takeWhile (fun x => !settles x) = l.unread :=
    List.takeWhile_eq_self_iff.mpr fun x hx => by rw [quiet_iff.mp hq x hx]; rfl
  have hdrop : (l.write b).unread.drop l.unread.length = [] := List.drop_length
  rw [sendCommand_eq_await b hw]
  unfold await
  simp only [htake, hdrop, and_true]
  rfl

theorem listens_of_present (h : l.farEnd = .present) : l.Listens := by
  intro cause
  rw [h]
  nofun

/-- An operation that gets no answer puts an end to those behind it. -/
theorem run_of_stuck (after : List Operation) (h : l.farEnd = .present)
    (hs : Stuck last op l.unread cause left) :
    (l.run last (op :: after)).outcome = .error cause ∧ (l.run last (op :: after)).taken = [] ∧
      After l (l.run last (op :: after)).state ([op].filterMap Operation.sent?) left := by
  generalize hl : l.unread = unread at hs
  cases hs with
  | starved =>
    simp only [run, hl, readFault, h, true_and]
    exact ⟨hl, rfl, (List.append_nil _).symm⟩
  | @ignored b _ hq =>
    rw [← hl] at hq
    have hw : l.writeFault = none := by
      unfold writeFault
      rw [h]
    obtain ⟨houtcome, hstate⟩ := sendCommand_eq_of_quiet b hw hq
    have hafter : After l (l.sendCommand b).state [b] [] := by
      rw [hstate]
      exact (after_write b).trans (after_advance List.drop_length)
    have hread : l.readFault b = .timeout b := by
      unfold readFault
      rw [h]
    rw [run_command_of_error houtcome]
    exact ⟨houtcome.trans (congrArg _ hread), taken_sendCommand l b, hafter⟩
  | @refused b answer noise _ hn ha =>
    have hsettles : settles answer = true := settles_iff.mpr (.inr ha)
    have hne : answer ≠ acknowledgement := by
      rcases ha with rfl | rfl <;> decide
    obtain ⟨houtcome, hafter⟩ :=
      sendCommand_of_settles b (listens_of_present h) (quiet_iff.mp hn) hsettles hl
    rw [if_neg hne] at houtcome
    rw [run_command_of_error houtcome]
    exact ⟨houtcome, taken_sendCommand l b, hafter⟩

/-- **A request that fails** does so at the first operation that gets no answer. -/
theorem run_of_answered_of_stuck (after : List Operation) (h : l.farEnd = .present)
    (ha : Answered before l.unread done rest)
    (hs : Stuck (lastSent last before) op rest cause left) :
    let a := l.run last (before ++ op :: after)
    a.outcome = .error cause ∧ a.taken = done.filterMap Operation.value? ∧
      After l a.state ((before ++ [op]).filterMap Operation.sent?) left := by
  intro a
  obtain ⟨hok, htaken, hafter⟩ := run_of_answered last (listens_of_present h) ha
  have happend := run_append last (op :: after) hok
  rw [← hafter.unread] at hs
  obtain ⟨houtcome, hnone, hend⟩ := run_of_stuck after (hafter.farEnd.trans h) hs
  unfold a
  rw [happend, List.filterMap_append]
  refine ⟨houtcome, ?_, hafter.trans hend⟩
  show (l.run last before).taken ++ _ = _
  rw [hnone, htaken, List.append_nil]

/-! ## The order of writes and acknowledgements -/

/--
Whether, wherever a command is written and another one after it, the bytes taken in between open
with an acknowledgement, behind bytes that settle nothing.
-/
def InStep (transfers : List Transfer) : Prop :=
  ∀ earlier b waiting c later, transfers = earlier ++ .wrote b :: (waiting ++ .wrote c :: later) →
    ∃ noise rest, waiting = noise.map .took ++ .took 0xfa :: rest ∧ Quiet noise

variable {transfers earlier later : List Transfer} {taken : List UInt8} {c : UInt8}

/-- What is written is not among the bytes that were taken. -/
theorem exists_append_of_took_append_eq
    (h : taken.map .took ++ transfers = earlier ++ .wrote c :: later) :
    ∃ rest, earlier = taken.map .took ++ rest ∧ transfers = rest ++ .wrote c :: later := by
  induction taken generalizing earlier with
  | nil => exact ⟨earlier, rfl, h⟩
  | cons b taken ih =>
    cases earlier with
    | nil => cases h
    | cons t earlier =>
      obtain ⟨rfl, htail⟩ := List.cons.inj h
      obtain ⟨rest, rfl, hrest⟩ := ih htail
      exact ⟨rest, rfl, hrest⟩

theorem not_took_eq (h : taken.map .took = earlier ++ .wrote c :: later) : False := by
  rw [← List.append_nil (taken.map _)] at h
  obtain ⟨rest, -, hrest⟩ := exists_append_of_took_append_eq h
  cases rest <;> cases hrest

theorem InStep.took_append (taken : List UInt8) (h : InStep transfers) :
    InStep (taken.map .took ++ transfers) := by
  intro earlier b waiting c later heq
  obtain ⟨rest, rfl, hrest⟩ := exists_append_of_took_append_eq heq
  exact h rest b waiting c later hrest

theorem InStep.took (b : UInt8) (h : InStep transfers) : InStep (.took b :: transfers) :=
  h.took_append [b]

theorem inStep_nil : InStep [] := by
  intro earlier b waiting c later heq
  cases earlier <;> cases heq

/-- A command is acknowledged, and then others may follow. -/
theorem InStep.acknowledged {noise : List UInt8} (b : UInt8) (hn : Quiet noise)
    (h : InStep transfers) :
    InStep (.wrote b :: ((noise ++ [0xfa]).map .took ++ transfers)) := by
  intro earlier b' waiting c later heq
  cases earlier with
  | nil =>
    obtain ⟨rest, rfl, -⟩ := exists_append_of_took_append_eq (List.cons.inj heq).2
    refine ⟨noise, rest, ?_, hn⟩
    rw [List.map_append, List.append_assoc]
    rfl
  | cons t earlier =>
    exact h.took_append _ earlier b' waiting c later (List.cons.inj heq).2

/-- A command is not acknowledged, and none follows. -/
theorem inStep_unacknowledged (b : UInt8) (taken : List UInt8) :
    InStep (.wrote b :: taken.map .took) := by
  intro earlier b' waiting c later heq
  cases earlier with
  | nil => exact (not_took_eq (List.cons.inj heq).2).elim
  | cons t earlier => exact (not_took_eq (List.cons.inj heq).2).elim

/-- What a command transfers, depending on whether it is acknowledged. -/
theorem exists_sendCommand_activity (l : Link) (b : UInt8) :
    (∃ noise, (l.sendCommand b).outcome = .ok () ∧ Quiet noise ∧
        (l.sendCommand b).state.activity =
          l.activity ++ .wrote b :: (noise ++ [0xfa]).map .took) ∨
      ∃ cause transfers, (l.sendCommand b).outcome = .error cause ∧ InStep transfers ∧
        (l.sendCommand b).state.activity = l.activity ++ transfers := by
  -- nothing can be written, no answer comes, or the first byte that settles the command decides
  cases hw : l.writeFault with
  | some cause =>
    have hsend : l.sendCommand b = ⟨.error (.access cause), [], l, []⟩ := by
      unfold sendCommand
      rw [hw]
    rw [hsend]
    exact .inr ⟨_, [], rfl, inStep_nil, (List.append_nil _).symm⟩
  | none =>
    have hactivity (n : Nat) : ((l.write b).advance n).activity =
        l.activity ++ .wrote b :: (l.unread.take n).map .took := List.append_assoc ..
    rcases quiet_or_settled l.unread with hq | ⟨noise, answer, rest, hl, hn, ha⟩
    · obtain ⟨houtcome, hstate⟩ := sendCommand_eq_of_quiet b hw hq
      rw [hstate, hactivity]
      exact .inr ⟨_, _, houtcome, inStep_unacknowledged b _, rfl⟩
    · obtain ⟨houtcome, hstate⟩ :=
        sendCommand_eq_of_settles b hw (quiet_iff.mp hn) (settles_iff.mpr ha) hl
      have htake : l.unread.take (noise.length + 1) = noise ++ [answer] := by
        rw [hl, List.append_cons]
        exact List.take_left' (by simp)
      rw [hstate, hactivity, htake]
      by_cases hack : answer = acknowledgement
      · rw [if_pos hack] at houtcome
        rw [hack]
        exact .inl ⟨noise, houtcome, hn, rfl⟩
      · rw [if_neg hack] at houtcome
        exact .inr ⟨_, _, houtcome, inStep_unacknowledged b _, rfl⟩

/-- **A request is in step with the device**, whatever becomes of it. -/
theorem exists_run_activity (l : Link) (last : UInt8) (ops : List Operation) :
    ∃ transfers, (l.run last ops).state.activity = l.activity ++ transfers ∧
      InStep transfers := by
  induction ops generalizing l last with
  | nil => exact ⟨[], (List.append_nil _).symm, inStep_nil⟩
  | cons op ops ih =>
    cases op with
    | command b =>
      rcases exists_sendCommand_activity l b with ⟨noise, hok, hn, hactivity⟩ |
        ⟨cause, transfers, herror, hstep, hactivity⟩
      · obtain ⟨transfers, hrest, hstep⟩ := ih (l.sendCommand b).state b
        refine ⟨_, ?_, hstep.acknowledged b hn⟩
        simp only [run, hok, hrest, hactivity, List.append_assoc, List.cons_append]
      · rw [run_command_of_error herror]
        exact ⟨transfers, hactivity, hstep⟩
    | read value =>
      cases hl : l.unread with
      | nil =>
        simp only [run, hl]
        exact ⟨[], (List.append_nil _).symm, inStep_nil⟩
      | cons b unread =>
        obtain ⟨transfers, hrest, hstep⟩ := ih (l.advance 1) last
        have htook : (l.advance 1).activity = l.activity ++ [.took b] := by
          simp [advance, hl]
        refine ⟨_, ?_, hstep.took b⟩
        simp only [run, hl]
        rw [hrest, htook, List.append_assoc]
        rfl

/-! ## What becomes of a request -/

/-- A request whose operations are answered succeeds. -/
theorem submit_of_answered {r : Request} (h : l.Listens)
    (ha : Answered r.operations l.unread done rest) :
    (l.submit r).outcome = .ok () ∧
      ((l.submit r).completion r).request.operations = done ∧
      After l (l.submit r).state r.commands rest := by
  obtain ⟨hok, htaken, hafter⟩ := run_of_answered 0 h ha
  refine ⟨hok, ?_, hafter⟩
  show Operation.fill r.operations (l.run 0 r.operations).taken = done
  rw [htaken, ha.fill_eq]

/-- A request fails at the operation that is stuck, behind those that are answered. -/
theorem submit_of_stuck {r : Request} {after : List Operation} (h : l.farEnd = .present)
    (hr : r.operations = before ++ op :: after) (ha : Answered before l.unread done rest)
    (hs : Stuck (lastSent 0 before) op rest cause left) :
    (l.submit r).outcome = .error cause ∧
      ((l.submit r).completion r).request.operations = done ++ op :: after ∧
      After l (l.submit r).state ((before ++ [op]).filterMap Operation.sent?) left := by
  obtain ⟨herror, htaken, hafter⟩ := run_of_answered_of_stuck after h ha hs
  rw [← hr] at herror htaken hafter
  refine ⟨herror, ?_, hafter⟩
  show Operation.fill r.operations (l.run 0 r.operations).taken = done ++ op :: after
  rw [htaken, hr, Operation.fill_append_of_alike ha.alike]

/--
**A request on a link on which the device is present**, with any bytes unread and nothing behind
them. It never writes a command before the one ahead of it was acknowledged. It succeeds if and only
if the input can be cut into answers to its operations: for each command bytes that settle nothing
and an acknowledgement, for each read one byte. Exactly these answers are taken, and the reads hold
theirs. Otherwise there is an operation without an answer. All operations before it have theirs, it
and those after it hold what they held before, and what was written are the commands up to it. The
request fails with a refusal if and only if the operation is a command and the first byte that
settles it is a refusal, and with a timeout if and only if the input ends first. A timeout is blamed
on the last command that was written for this request, or on zero if there was none.
-/
theorem submit_law (l : Link) (r : Request) (h : l.farEnd = .present) :
    let answer := l.submit r
    let done := (answer.completion r).request.operations
    (∃ transfers, answer.state.activity = l.activity ++ transfers ∧ InStep transfers) ∧
      (answer.outcome = .ok () ↔ ∃ ops rest, Answered r.operations l.unread ops rest) ∧
      (∀ ops rest, Answered r.operations l.unread ops rest →
        done = ops ∧ answer.state.unread = rest ∧ answer.state.sent = l.sent ++ r.commands) ∧
      ∀ cause, answer.outcome = .error cause →
        ∃ before op after carried rest, r.operations = before ++ op :: after ∧
          Answered before l.unread carried rest ∧ done = carried ++ op :: after ∧
          answer.state.sent = l.sent ++ (before ++ [op]).filterMap Operation.sent? ∧
          Stuck (lastSent 0 before) op rest cause answer.state.unread ∧
          (∀ c response, cause = .refused c response ↔
            op = .command c ∧ rest.find? settles = some response ∧
              (response = 0xfe ∨ response = 0xfc)) ∧
          ∀ c, cause = .timeout c ↔ op.EndsEarly rest ∧ c = lastSent 0 (before ++ [op]) := by
  intro answer done
  have hlistens := listens_of_present h
  refine ⟨exists_run_activity l 0 r.operations, ?_, ?_, ?_⟩
  · constructor
    · intro hok
      rcases Operation.answered_or_stuck 0 r.operations l.unread with hanswered |
        ⟨before, op, after, carried, rest, cause, left, hr, hanswered, hstuck⟩
      · exact hanswered
      · obtain ⟨herror, -, -⟩ := submit_of_stuck h hr hanswered hstuck
        cases hok.symm.trans herror
    · rintro ⟨ops, rest, hanswered⟩
      exact (submit_of_answered hlistens hanswered).1
  · intro ops rest hanswered
    obtain ⟨-, hdone, hafter⟩ := submit_of_answered hlistens hanswered
    exact ⟨hdone, hafter.unread, hafter.sent⟩
  · intro cause hcause
    rcases Operation.answered_or_stuck 0 r.operations l.unread with ⟨ops, rest, hanswered⟩ |
      ⟨before, op, after, carried, rest, cause', left, hr, hanswered, hstuck⟩
    · obtain ⟨hok, -, -⟩ := submit_of_answered hlistens hanswered
      cases hok.symm.trans hcause
    · obtain ⟨herror, hdone, hafter⟩ := submit_of_stuck h hr hanswered hstuck
      cases hcause.symm.trans herror
      rw [← hafter.unread] at hstuck
      refine ⟨before, op, after, carried, rest, hr, hanswered, hdone, hafter.sent, hstuck,
        fun c response => hstuck.cause_eq_refused_iff, fun c => ?_⟩
      rw [hstuck.cause_eq_timeout_iff, Operation.lastSent_append]

/-- A request that discards what is queued ahead of an acknowledgement, and one that is refused. -/
theorem submit_law_accepted_and_refused :
    let accepted : Request := ⟨[.read 5, .command 0xe9, .read 6, .read 7]⟩
    let answer := (waiting [0x44, 0x10, 0x08, 0xfa, 0xfe, 0xfa, 0x01] .present).submit accepted
    let refused : Request := ⟨[.read 5, .command 0xe9, .read 6, .command 0xf5, .read 7]⟩
    let input := [0x44, 0xfa, 0x08, 0x00, 0xfe, 0x01]
    (answer.completion accepted).request.operations =
        [.read 0x44, .command 0xe9, .read 0xfe, .read 0xfa] ∧
      answer.state.unread = [0x01] ∧ answer.state.sent = [0xe9] ∧
      ((waiting input .present).submit refused).outcome = .error (.refused 0xf5 0xfe) ∧
      ¬ ∃ ops rest, Answered refused.operations input ops rest := by
  intro accepted answer refused input
  have hcut : Answered accepted.operations [0x44, 0x10, 0x08, 0xfa, 0xfe, 0xfa, 0x01]
      [.read 0x44, .command 0xe9, .read 0xfe, .read 0xfa] [0x01] := by
    have hnoise : Quiet [0x10, 0x08] := quiet_iff.mpr (by decide +kernel)
    exact .read _ _ (.command hnoise (.read _ _ (.read _ _ (.nil _))))
  obtain ⟨-, -, hdone, -⟩ := submit_law (waiting _ .present) accepted rfl
  obtain ⟨hops, hunread, hsent⟩ := hdone _ _ hcut
  obtain ⟨-, hiff, -⟩ := submit_law (waiting input .present) refused rfl
  have hrefused :
      ((waiting input .present).submit refused).outcome = .error (.refused 0xf5 0xfe) := rfl
  refine ⟨hops, hunread, hsent, hrefused, fun hanswered => ?_⟩
  cases hrefused.symm.trans (hiff.mpr hanswered)

end Link

end Touchpad
