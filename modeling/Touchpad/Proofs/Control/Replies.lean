import Touchpad.Proofs.Bus.Told
import Touchpad.Proofs.Control.Paths

/-!
# Replies

The reply to a request is what its last three reads hold. On a script these are the last three bytes
that the request has taken, if it reads as many as that. Requests that end with a status request and
its reads always have a reply, whatever the transport has put there.

* `Reply.ofLast?_eq_some_iff`: the last three of some bytes
* `Script.replyCourse_submit`: how a request for a reply ends on a script
* `Request.IsQuestion`: the requests that end with a status request
* `reply_law`: which replies there are
-/

namespace Touchpad

/-! ## The last three bytes -/

namespace Reply

variable {bs : List UInt8} {reply : Reply}

theorem ofLast?_eq_none_iff : ofLast? bs = none ↔ bs.length < 3 := by
  rw [← List.length_reverse]
  unfold ofLast?
  match bs.reverse with
  | [] | [_] | [_, _] => simp
  | _ :: _ :: _ :: _ => simp

/-- A reply is the last three bytes. -/
theorem ofLast?_eq_some_iff : ofLast? bs = some reply ↔ ∃ front, bs = front ++ reply.toList := by
  constructor
  · intro h
    unfold ofLast? at h
    split at h
    · next third second first rest hbs =>
      obtain rfl := Option.some.inj h
      refine ⟨rest.reverse, ?_⟩
      rw [← List.reverse_reverse bs, hbs]
      simp [toList]
    · cases h
  · rintro ⟨front, rfl⟩
    simp [ofLast?, toList]

theorem length_toList (reply : Reply) : reply.toList.length = 3 := rfl

theorem toList_inj {reply' : Reply} (h : reply.toList = reply'.toList) : reply = reply' := by
  cases reply
  cases reply'
  simpa [toList] using h

end Reply

/-! ## Replies on a script -/

namespace Script

variable {s : Script} {r : Request} {reply : Reply} {v : Except CommandError Reply}

/-- What a caller makes of a request that a script has a byte for each read of. -/
theorem reply_submit (h : r.readCount ≤ s.replies.length) :
    ((s.submit r).completion r).reply =
      match Reply.ofLast? (s.replies.take r.readCount) with
      | some reply => .ok reply
      | none => .error (.shortReply r.readCount) := by
  have hvalues : (r.fill (s.replies.take r.readCount)).values = s.replies.take r.readCount :=
    Request.values_fill (List.length_take_of_le h)
  unfold Completion.reply Submission.completion Request.reply?
  rw [submit_outcome, submit_taken, if_neg (Nat.not_lt_of_le h), hvalues, Request.readCount_fill]
  cases Reply.ofLast? (s.replies.take r.readCount) <;> rfl

/-- The three ways in which a request for a reply can end on a script. -/
inductive ReplyCourse (s : Script) (r : Request) : Except CommandError Reply → Prop
  | exhausted : s.replies.length < r.readCount → ReplyCourse s r (.error (.transport .exhausted))
  | short : r.readCount ≤ s.replies.length → r.readCount < 3 →
      ReplyCourse s r (.error (.shortReply r.readCount))
  | replied {reply : Reply} {front : List UInt8} : r.readCount ≤ s.replies.length →
      s.replies.take r.readCount = front ++ reply.toList → ReplyCourse s r (.ok reply)

/-- **A request for a reply takes one of these courses.** -/
theorem replyCourse_submit (s : Script) (r : Request) :
    ReplyCourse s r ((s.submit r).completion r).reply := by
  rcases Nat.lt_or_ge s.replies.length r.readCount with hlt | hle
  · have hreply : ((s.submit r).completion r).reply = .error (.transport .exhausted) := by
      unfold Completion.reply Submission.completion
      rw [submit_outcome, if_pos hlt]
    rw [hreply]
    exact .exhausted hlt
  · rw [reply_submit hle]
    cases hlast : Reply.ofLast? (s.replies.take r.readCount) with
    | none =>
      have hlength := Reply.ofLast?_eq_none_iff.mp hlast
      rw [List.length_take_of_le hle] at hlength
      exact .short hle hlength
    | some reply =>
      obtain ⟨front, hfront⟩ := Reply.ofLast?_eq_some_iff.mp hlast
      exact .replied hle hfront

namespace ReplyCourse

theorem three_le {front : List UInt8} (hle : r.readCount ≤ s.replies.length)
    (h : s.replies.take r.readCount = front ++ reply.toList) : 3 ≤ r.readCount := by
  have hlength := congrArg List.length h
  rw [List.length_take_of_le hle, List.length_append, Reply.length_toList] at hlength
  omega

/-- A script is exhausted exactly if it has fewer bytes than the request reads. -/
theorem eq_exhausted_iff (h : ReplyCourse s r v) :
    v = .error (.transport .exhausted) ↔ s.replies.length < r.readCount := by
  cases h with
  | exhausted hlt => simp [hlt]
  | short hle hshort => simp [hle]
  | replied hle hfront => simp [hle]

/-- A reply is short exactly if the request reads fewer than three bytes. -/
theorem eq_short_iff (h : ReplyCourse s r v) {n : Nat} :
    v = .error (.shortReply n) ↔
      r.readCount ≤ s.replies.length ∧ r.readCount < 3 ∧ n = r.readCount := by
  cases h with
  | exhausted hlt => simp [hlt]
  | short hle hshort => simp [hle, hshort, eq_comm]
  | replied hle hfront =>
    have hlong := three_le hle hfront
    simp [hlong]

/-- A reply is known exactly if there are enough bytes and it stands at their end. -/
theorem eq_ok_iff (h : ReplyCourse s r v) :
    v = .ok reply ↔
      r.readCount ≤ s.replies.length ∧
        ∃ front, s.replies.take r.readCount = front ++ reply.toList := by
  cases h with
  | exhausted hlt => simp [hlt]
  | short hle hshort =>
    refine ⟨nofun, fun ⟨_, front, hfront⟩ => ?_⟩
    have hlong := three_le hle hfront
    omega
  | replied hle hfront =>
    constructor
    · intro heq
      obtain rfl := Except.ok.inj heq
      exact ⟨hle, _, hfront⟩
    · rintro ⟨-, front', hfront'⟩
      have heq := Reply.toList_inj (List.append_inj_right' (hfront.symm.trans hfront') rfl)
      rw [heq]

/-- Some reply is known exactly if there are enough bytes, three at least. -/
theorem exists_ok_iff (h : ReplyCourse s r v) :
    (∃ reply, v = .ok reply) ↔ r.readCount ≤ s.replies.length ∧ 3 ≤ r.readCount := by
  cases h with
  | exhausted hlt => simp [hlt]
  | short hle hshort => simp [hshort]
  | replied hle hfront => simp [hle, three_le hle hfront]

end ReplyCourse

/-- The reply to a request that reads three bytes are the bytes that it takes. -/
theorem reply_submit_eq_ok_iff (h : r.readCount = 3) :
    ((s.submit r).completion r).reply = .ok reply ↔
      s.replies = reply.toList ++ (s.submit r).state.replies := by
  rw [(replyCourse_submit s r).eq_ok_iff, submit_replies, h]
  constructor
  · rintro ⟨hle, front, hfront⟩
    have hlength := congrArg List.length hfront
    rw [List.length_take_of_le hle, List.length_append, Reply.length_toList] at hlength
    obtain rfl := List.eq_nil_of_length_eq_zero (by omega : front.length = 0)
    rw [List.nil_append] at hfront
    rw [← hfront, List.take_append_drop]
  · intro hreplies
    have hlength := congrArg List.length hreplies
    rw [List.length_append, Reply.length_toList] at hlength
    refine ⟨by omega, [], ?_⟩
    rw [hreplies]
    rfl

end Script

/-! ## Questions -/

theorem Operation.fill_map_command (commands : List UInt8) (ops : List Operation)
    (bs : List UInt8) :
    fill (commands.map command ++ ops) bs = commands.map command ++ fill ops bs := by
  induction commands with
  | nil => rfl
  | cons b commands ih => rw [List.map_cons, List.cons_append, fill_command, ih, List.cons_append]

theorem Operation.fill_reads (bs : List UInt8) :
    fill [read 0, read 0, read 0] bs = (Reply.nth bs 0).toList.map read := by
  rcases bs with _ | ⟨b0, _ | ⟨b1, _ | ⟨b2, bs⟩⟩⟩ <;> rfl

namespace Request

variable {r : Request}

/-- A request that reads nothing consists of its commands. -/
theorem operations_eq_commands (h : r.values = []) :
    r.operations = r.commands.map Operation.command := by
  unfold values at h
  unfold commands
  revert h
  induction r.operations with
  | nil => exact fun _ => rfl
  | cons op ops ih =>
    intro h
    cases op with
    | command b => exact congrArg (Operation.command b :: ·) (ih h)
    | read b => cases h

/-- What a request holds that ends with a status request, when bytes have been put into it. -/
theorem operations_fill_status (h : r.values = []) (bs : List UInt8) :
    (r.status.fill bs).operations = r.commands.map Operation.command ++
      .command statusRequest :: (Reply.nth bs 0).toList.map Operation.read := by
  have hoperations : r.status.operations = r.commands.map Operation.command ++
      [.command statusRequest, .read 0, .read 0, .read 0] := by
    rw [← operations_eq_commands h]
    simp only [status, Request.command, read, operations_add, List.append_assoc]
    rfl
  rw [fill, hoperations, Operation.fill_map_command, Operation.fill_command,
    Operation.fill_reads]

/-- The requests whose reply is what a status request behind commands has brought. -/
inductive IsQuestion : Request → Prop
  | query (encoding : Encoding) (command : UInt8) : IsQuestion (Query.request encoding command)
  | register {g : Generation} {reg : UInt8} {r : Request} :
      Register.read? g reg = some r → IsQuestion r
  | knock : IsQuestion .magicKnock

namespace IsQuestion

/-- A question is a request that reads nothing, with a status request behind it. -/
theorem exists_body (h : IsQuestion r) : ∃ body : Request, body.values = [] ∧ r = body.status := by
  cases h with
  | query encoding command =>
    cases encoding with
    | sliced => exact ⟨_, values_sliced _ command, rfl⟩
    | custom => exact ⟨_, values_vendor _ command, rfl⟩
  | @register g reg r hread =>
    unfold Register.read? at hread
    split at hread
    · obtain rfl := Option.some.inj hread
      refine ⟨_, ?_, rfl⟩
      cases g <;> simp [Register.access, values_empty]
    · cases hread
  | knock => exact ⟨_, by simp only [values_command, values_empty], rfl⟩

/-- What a question holds when bytes have been put into its reads. -/
theorem operations_fill (h : IsQuestion r) (bs : List UInt8) :
    ∃ commands : List UInt8, (r.fill bs).operations = commands.map Operation.command ++
      .command statusRequest :: (Reply.nth bs 0).toList.map Operation.read := by
  obtain ⟨body, hbody, rfl⟩ := h.exists_body
  exact ⟨body.commands, operations_fill_status hbody bs⟩

/-- The reply of a question is what its status request reads. -/
theorem reply?_fill (h : IsQuestion r) (bs : List UInt8) :
    (r.fill bs).reply? = some (Reply.nth bs 0) := by
  obtain ⟨commands, hoperations⟩ := h.operations_fill bs
  have hquiet : (commands.map Operation.command).filterMap Operation.value? = [] :=
    List.filterMap_eq_nil_iff.mpr fun op hop => by
      obtain ⟨b, -, rfl⟩ := List.mem_map.mp hop
      rfl
  have hvalues : (r.fill bs).values = (Reply.nth bs 0).toList := by
    rw [values, hoperations, List.filterMap_append, hquiet]
    rfl
  rw [reply?, hvalues]
  rfl

/-- **A question always has a reply**, if the transport carries it out. -/
theorem reply_completion {σ : Type} (h : IsQuestion r) (answer : Submission σ) :
    (answer.completion r).reply =
      match answer.outcome with
      | .ok () => .ok (Reply.nth answer.taken 0)
      | .error cause => .error (.transport cause) := by
  unfold Completion.reply Submission.completion
  rw [h.reply?_fill]
  cases answer.outcome <;> rfl

end IsQuestion

end Request

/-! ## Every transport -/

namespace Control

/-- A request for a reply is submitted once, and what comes of it is read off the completion. -/
theorem run_exchange {σ : Type} (t : Transport σ) (s : σ) (r : Request) :
    (exchange r).run.run t s =
      let answer := t.submit s r
      ⟨(answer.completion r).reply, answer.state, [r], answer.notes⟩ :=
  congrArg (Dialogue.Transcript.mk _ _ [r]) (List.append_nil _)

/--
**Which replies there are.** On a script a request fails if it reads more than there is, whatever
was there is gone then, and the history stays the same. Otherwise the request is recorded and its
bytes are taken, and the reply consists of the last three of these bytes, in order; a request with
fewer reads has no reply. A query, a read of a register and the knock have one on every transport
that carries them out: it is what was read behind their last command, the status request.
-/
theorem reply_law (script : Script) (r : Request) :
    let there := script.replies.length
    let transcript := (exchange r).run.run Script.transport script
    (transcript.value = .error (.transport .exhausted) ↔ there < r.readCount) ∧
      (there < r.readCount → transcript.state = ⟨[], script.history⟩) ∧
      (r.readCount ≤ there → transcript.state = ⟨script.replies.drop r.readCount,
        script.history ++ [r.fill (script.replies.take r.readCount)]⟩) ∧
      (∀ n, transcript.value = .error (.shortReply n) ↔
        r.readCount ≤ there ∧ r.readCount < 3 ∧ n = r.readCount) ∧
      ((∃ reply, transcript.value = .ok reply) ↔ r.readCount ≤ there ∧ 3 ≤ r.readCount) ∧
      (∀ reply, transcript.value = .ok reply ↔ r.readCount ≤ there ∧
        ∃ front, script.replies.take r.readCount = front ++ reply.toList) ∧
      (r.IsQuestion → ∀ {σ : Type} (t : Transport σ) (s : σ),
        let answer := t.submit s r
        ∃ (commands : List UInt8) (reply : Reply),
          (answer.completion r).request.operations = commands.map Operation.command ++
            .command Request.statusRequest :: reply.toList.map Operation.read ∧
          ((exchange r).run.run t s).value =
            match answer.outcome with
            | .ok () => .ok reply
            | .error cause => .error (.transport cause)) := by
  intro there transcript
  have hcourse : script.ReplyCourse r transcript.value := Script.replyCourse_submit script r
  have hstate : transcript.state = (script.submit r).state := rfl
  refine ⟨hcourse.eq_exhausted_iff, fun hlt => ?_, fun hle => ?_, fun n => hcourse.eq_short_iff,
    hcourse.exists_ok_iff, fun reply => hcourse.eq_ok_iff, fun hr σ t s => ?_⟩
  · rw [hstate, Script.submit, if_pos hlt]
  · rw [hstate, Script.submit, if_neg (Nat.not_lt_of_le hle)]
  · obtain ⟨commands, hoperations⟩ := hr.operations_fill (t.submit s r).taken
    exact ⟨commands, _, hoperations, hr.reply_completion (t.submit s r)⟩

end Control

end Touchpad
