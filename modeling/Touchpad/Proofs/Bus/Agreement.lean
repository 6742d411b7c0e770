import Touchpad.Bus.Scripted
import Touchpad.Bus.Serial
import Touchpad.Proofs.Bus.Exchange

/-!
# Scripts and links agree

A script answers a dialogue from a list of bytes. On a link the same bytes arrive among
acknowledgements, and whatever was queued ahead of an acknowledgement is discarded. `Answers` says
which input of a link amounts to the operations that a script has recorded.

* `Link.run_of_answers`: the operations of a request, on a link
* `Dialogue.history_run`: a script on which everything succeeds records the round trips
* `Dialogue.run_link`: a link whose input answers these records has the same round trips
-/

namespace Touchpad

/-! ## Input that answers operations -/

/--
Whether input answers operations that have been carried out: each command by an acknowledgement
behind bytes that settle nothing, each read by the byte that it holds.
-/
inductive Answers : List Operation → List UInt8 → Prop
  | nil : Answers [] []
  | command {b : UInt8} {noise input : List UInt8} {ops : List Operation} :
      (∀ x ∈ noise, x ≠ 0xfa ∧ x ≠ 0xfe ∧ x ≠ 0xfc) → Answers ops input →
        Answers (.command b :: ops) (noise ++ 0xfa :: input)
  | read {b : UInt8} {input : List UInt8} {ops : List Operation} :
      Answers ops input → Answers (.read b :: ops) (b :: input)

/-- What answers an operation, with some bytes ahead of an acknowledgement. -/
def Operation.answer (noise : List UInt8) : Operation → List UInt8
  | command _ => noise ++ [0xfa]
  | read b => [b]

namespace Answers

variable {ops ops₁ ops₂ : List Operation} {input : List UInt8}

theorem append_cases (h : Answers (ops₁ ++ ops₂) input) :
    ∃ input₁ input₂, input = input₁ ++ input₂ ∧ Answers ops₁ input₁ ∧ Answers ops₂ input₂ := by
  induction ops₁ generalizing input with
  | nil => exact ⟨[], input, rfl, nil, h⟩
  | cons op ops₁ ih =>
    cases h with
    | command hn h =>
      obtain ⟨input₁, input₂, rfl, h₁, h₂⟩ := ih h
      exact ⟨_, input₂, by simp, command hn h₁, h₂⟩
    | read h =>
      obtain ⟨input₁, input₂, rfl, h₁, h₂⟩ := ih h
      exact ⟨_, input₂, rfl, read h₁, h₂⟩

/-- Input that answers operations, with the same noise ahead of every acknowledgement. -/
theorem flatMap_answer {noise : List UInt8} (h : ∀ x ∈ noise, x ≠ 0xfa ∧ x ≠ 0xfe ∧ x ≠ 0xfc)
    (ops : List Operation) : Answers ops (ops.flatMap (Operation.answer noise)) := by
  induction ops with
  | nil => exact nil
  | cons op ops ih =>
    rw [List.flatMap_cons]
    cases op with
    | command b =>
      show Answers _ (noise ++ [0xfa] ++ _)
      rw [List.append_assoc]
      exact command h ih
    | read b => exact read ih

end Answers

/-! ## A request on a link -/

namespace Link

variable {l : Link} {input tail : List UInt8}

/-- Whether the far end takes what is written while there is something left to read. -/
def Listens (l : Link) : Prop := ∀ cause, l.farEnd ≠ .gone cause

/-- A device that listens and has bytes to give can be written to. -/
theorem writeFault_of_listens (h : l.Listens) (hl : l.unread ≠ []) : l.writeFault = none := by
  unfold writeFault
  cases hf : l.farEnd with
  | present => rfl
  | silent => rfl
  | gone cause => exact absurd hf (h cause)
  | leaving cause =>
    show (if l.unread.isEmpty then some cause else none) = none
    rw [if_neg (by simpa using hl)]

/-- If any byte settles, there is a first one, with nothing but noise in front of it. -/
theorem exists_first_settling {queue : List UInt8} (h : ∃ b ∈ queue, settles b = true) :
    ∃ noise answer rest, queue = noise ++ answer :: rest ∧
      (∀ b ∈ noise, settles b = false) ∧ settles answer = true := by
  cases hf : queue.find? settles with
  | none =>
    obtain ⟨b, hb, hs⟩ := h
    exact absurd hs (List.find?_eq_none.mp hf b hb)
  | some answer =>
    obtain ⟨ha, noise, rest, rfl, hn⟩ := List.find?_eq_some_iff_append.mp hf
    exact ⟨noise, answer, rest, rfl, fun b hb => by simpa using hn b hb, ha⟩

theorem settles_eq_false {b : UInt8} (h : b ≠ 0xfa ∧ b ≠ 0xfe ∧ b ≠ 0xfc) :
    settles b = false := by
  simp [settles, acknowledgement, refusals, h]

/-- What a link is like after it has taken what stands ahead of `tail` and written some bytes. -/
structure After (l l' : Link) (written tail : List UInt8) : Prop where
  unread : l'.unread = tail
  farEnd : l'.farEnd = l.farEnd
  sent : l'.sent = l.sent ++ written

theorem After.trans {l₁ l₂ l₃ : Link} {w₁ w₂ t₁ t₂ : List UInt8} (h₁ : After l₁ l₂ w₁ t₁)
    (h₂ : After l₂ l₃ w₂ t₂) : After l₁ l₃ (w₁ ++ w₂) t₂ where
  unread := h₂.unread
  farEnd := h₂.farEnd.trans h₁.farEnd
  sent := by rw [h₂.sent, h₁.sent, List.append_assoc]

theorem After.listens {l' : Link} {written : List UInt8} (h : After l l' written tail)
    (hl : l.Listens) : l'.Listens := by
  intro cause
  rw [h.farEnd]
  exact hl cause

theorem after_advance {n : Nat} (h : l.unread.drop n = tail) : After l (l.advance n) [] tail where
  unread := h
  farEnd := rfl
  sent := by
    simp only [sent, advance, List.filterMap_append, List.filterMap_map]
    congr 1
    exact List.filterMap_eq_nil_iff.mpr fun b _ => rfl

theorem after_write (b : UInt8) : After l (l.write b) [b] l.unread where
  unread := rfl
  farEnd := rfl
  sent := by
    simp only [sent, write, List.filterMap_append]
    rfl

/-- A byte that can be written is waited for. -/
theorem sendCommand_eq_await (b : UInt8) (hw : l.writeFault = none) :
    l.sendCommand b = (l.write b).await b := by
  unfold sendCommand
  rw [hw]

/-- The first byte that settles a command is the last one that the command takes. -/
theorem sendCommand_eq_of_settles (b : UInt8) {noise : List UInt8} {answer : UInt8}
    (hw : l.writeFault = none) (hn : ∀ x ∈ noise, settles x = false) (ha : settles answer = true)
    (hl : l.unread = noise ++ answer :: tail) :
    (l.sendCommand b).outcome =
        (if answer = acknowledgement then .ok () else .error (.refused b answer)) ∧
      (l.sendCommand b).state = (l.write b).advance (noise.length + 1) := by
  have htake : (l.write b).unread.takeWhile (fun x => !settles x) = noise := by
    show l.unread.takeWhile _ = noise
    rw [hl, List.takeWhile_append_of_pos fun x hx => by rw [hn x hx]; rfl]
    simp [ha]
  have hdrop : (l.write b).unread.drop noise.length = answer :: tail := by
    show l.unread.drop noise.length = _
    rw [hl, List.drop_left]
  rw [sendCommand_eq_await b hw]
  unfold await
  simp only [htake, hdrop, and_self]

/-- **A command is settled by the first byte that can do so**, whatever that byte was sent for. -/
theorem sendCommand_of_settles (b : UInt8) {noise : List UInt8} {answer : UInt8} (h : l.Listens)
    (hn : ∀ x ∈ noise, settles x = false) (ha : settles answer = true)
    (hl : l.unread = noise ++ answer :: tail) :
    (l.sendCommand b).outcome =
        (if answer = acknowledgement then .ok () else .error (.refused b answer)) ∧
      After l (l.sendCommand b).state [b] tail := by
  have hw : l.writeFault = none := writeFault_of_listens h (by simp [hl])
  obtain ⟨houtcome, hstate⟩ := sendCommand_eq_of_settles b hw hn ha hl
  rw [hstate]
  refine ⟨houtcome, (after_write b).trans (after_advance ?_)⟩
  show l.unread.drop (noise.length + 1) = tail
  rw [hl, ← List.drop_drop, List.drop_left]
  rfl

/-- A command is accepted behind bytes that settle nothing. -/
theorem sendCommand_of_noise (b : UInt8) {noise : List UInt8} (h : l.Listens)
    (hn : ∀ x ∈ noise, x ≠ 0xfa ∧ x ≠ 0xfe ∧ x ≠ 0xfc) (hl : l.unread = noise ++ 0xfa :: tail) :
    (l.sendCommand b).outcome = .ok () ∧ After l (l.sendCommand b).state [b] tail :=
  sendCommand_of_settles b h (fun x hx => settles_eq_false (hn x hx)) rfl hl

/-- What a request read earlier does not matter to a link. -/
theorem run_fill (last : UInt8) (ops : List Operation) (bs : List UInt8) :
    l.run last (Operation.fill ops bs) = l.run last ops := by
  induction ops generalizing l last bs with
  | nil => rfl
  | cons op ops ih =>
    rcases bs with _ | ⟨b, bs⟩
    · rfl
    · cases op with
      | command byte => simp only [Operation.fill, run, ih]
      | read value => simp only [Operation.fill, run, ih]

/-- **The operations of a request** succeed on a link whose input answers them. -/
theorem run_of_answers (last : UInt8) {ops : List Operation} (h : l.Listens)
    (ha : Answers ops input) (hl : l.unread = input ++ tail) :
    (l.run last ops).outcome = .ok () ∧ (l.run last ops).taken = ops.filterMap Operation.value? ∧
      After l (l.run last ops).state (ops.filterMap Operation.sent?) tail := by
  -- induction on the input, whose parts say how far each operation advances the link
  induction ha generalizing l last with
  | nil =>
    refine ⟨rfl, rfl, ⟨hl, rfl, ?_⟩⟩
    exact (List.append_nil _).symm
  | @command b noise input ops hn _ ih =>
    rw [List.append_assoc, List.cons_append] at hl
    obtain ⟨hok, hafter⟩ := sendCommand_of_noise b h hn hl
    obtain ⟨ho, ht, hs⟩ := ih b (hafter.listens h) hafter.unread
    simp only [run, hok]
    exact ⟨ho, ht, hafter.trans hs⟩
  | @read b input ops _ ih =>
    have hafter : After l (l.advance 1) [] (input ++ tail) := by
      refine after_advance ?_
      rw [hl]
      rfl
    obtain ⟨ho, ht, hs⟩ := ih last (hafter.listens h) hafter.unread
    rw [List.cons_append] at hl
    simp only [run, hl]
    exact ⟨ho, congrArg (b :: ·) ht, hafter.trans hs⟩

end Link

/-! ## A request on a script -/

namespace Script

variable {s : Script} {r : Request}

/-- A request that succeeds on a script has taken the next bytes, one for each read. -/
theorem submit_of_succeeded (h : (transport.submit s r).outcome = .ok ()) :
    (transport.submit s r).taken.length = r.readCount ∧
      (transport.submit s r).state.history =
        s.history ++ [r.fill (transport.submit s r).taken] := by
  simp only [transport, submit] at h ⊢
  by_cases hlt : s.replies.length < r.readCount
  · rw [if_pos hlt] at h
    cases h
  · rw [if_neg hlt]
    exact ⟨List.length_take_of_le (Nat.le_of_not_lt hlt), rfl⟩

/-- **A request that succeeds on a script** goes the same way on a link whose input answers it. -/
theorem submit_link {l : Link} {input tail : List UInt8} (hlink : l.Listens)
    (h : (transport.submit s r).outcome = .ok ())
    (hinput : Answers (r.fill (transport.submit s r).taken).operations input)
    (hl : l.unread = input ++ tail) :
    (Link.transport.submit l r).completion r = (transport.submit s r).completion r ∧
      (Link.transport.submit l r).outcome = (transport.submit s r).outcome ∧
      (Link.transport.submit l r).taken = (transport.submit s r).taken ∧
      Link.After l (Link.transport.submit l r).state
        (r.fill (transport.submit s r).taken).commands tail := by
  obtain ⟨ho, ht, hafter⟩ := Link.run_of_answers 0 hlink hinput hl
  -- the link is asked with empty reads, but what the reads hold does not matter to it
  have hsubmit : l.run 0 (r.fill (transport.submit s r).taken).operations =
      Link.transport.submit l r := Link.run_fill 0 r.operations _
  have hvalues := Request.values_fill (submit_of_succeeded h).1
  rw [hsubmit] at ho ht hafter
  have ht : (Link.transport.submit l r).taken = (transport.submit s r).taken := ht.trans hvalues
  refine ⟨?_, ho.trans h.symm, ht, hafter⟩
  unfold Submission.completion
  rw [ht, ho, h]

end Script

/-! ## Dialogues -/

namespace Dialogue

variable {α : Type} {d : Dialogue α} {s : Script}

/-- The requests of round trips as they stood afterwards. -/
def records (es : List Exchange) : List Request := es.map fun e => e.completion.request

/-- A script on which everything succeeds records the round trips. -/
theorem history_run (h : ∀ e ∈ d.exchanges Script.transport s, e.Succeeded) :
    (d.run Script.transport s).state.history =
      s.history ++ records (d.exchanges Script.transport s) := by
  induction d generalizing s with
  | done a => exact (List.append_nil _).symm
  | submit r next ih =>
    have hrest := ih _ fun e he => h e (List.mem_cons_of_mem _ he)
    rw [(Script.submit_of_succeeded (h _ List.mem_cons_self)).2, List.append_assoc] at hrest
    exact hrest
  | note record next ih => exact ih h
  | pause n next ih => exact ih h

/-- **A link whose input answers what a script has recorded** has the same round trips. -/
theorem run_link {l : Link} {input tail : List UInt8} (hlink : l.Listens)
    (h : ∀ e ∈ d.exchanges Script.transport s, e.Succeeded)
    (hinput : Answers ((records (d.exchanges Script.transport s)).flatMap Request.operations) input)
    (hl : l.unread = input ++ tail) :
    d.exchanges Link.transport l = d.exchanges Script.transport s ∧
      (d.run Link.transport l).value = (d.run Script.transport s).value ∧
      Link.After l (d.run Link.transport l).state
        ((records (d.exchanges Script.transport s)).flatMap Request.commands) tail := by
  induction d generalizing s l input with
  | done a =>
    cases hinput
    exact ⟨rfl, rfl, hl, rfl, (List.append_nil _).symm⟩
  | submit r next ih =>
    -- the first part of the input answers this request, the second part all that follow
    obtain ⟨input₁, input₂, rfl, h₁, h₂⟩ := Answers.append_cases hinput
    rw [List.append_assoc] at hl
    obtain ⟨hc, ho, ht, hafter⟩ := Script.submit_link hlink (h _ List.mem_cons_self) h₁ hl
    obtain ⟨he, hv, hrest⟩ := ih _ (hafter.listens hlink)
      (fun e he => h e (List.mem_cons_of_mem _ he)) h₂ hafter.unread
    simp only [exchanges, run, hc, ho, ht, he, hv]
    exact ⟨trivial, trivial, hafter.trans hrest⟩
  | note record next ih => exact ih hlink h hinput hl
  | pause n next ih => exact ih hlink h hinput hl

end Dialogue

end Touchpad
