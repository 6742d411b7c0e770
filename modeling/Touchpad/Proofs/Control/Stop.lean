import Touchpad.Control.Command
import Touchpad.Proofs.Bus.Agreement
import Touchpad.Stream.Packet

/-!
# Switching off a touchpad that reports

Packets may be queued when reporting is switched off, and the acknowledgement arrives behind them.
The bytes of a packet can have any value, also those that settle a command. The first such byte is
taken for the answer, and what stands behind it stays unread.

* `run_stop_of_settles`: the byte that decides
* `stop_law`: which queues are discarded as a whole, and what happens with the others
* `stop_does_not_survive_a_stream`: not every queue of packets is discarded
-/

namespace Touchpad.Control

open Link (exists_first_settling)

variable {l : Link} {queue tail : List UInt8}

theorem run_stop (l : Link) :
    (stop.run.run Link.transport l).value =
        (l.sendCommand 0xf5).outcome.mapError CommandError.transport ∧
      (stop.run.run Link.transport l).state = (l.sendCommand 0xf5).state := by
  show ((l.run 0 [.command 0xf5]).completion (Request.reporting false)).done = _ ∧
    (l.run 0 [.command 0xf5]).state = _
  simp only [Link.run]
  -- nothing follows the command, whether it was accepted or not
  cases h : (l.sendCommand 0xf5).outcome with
  | error cause =>
    refine ⟨?_, rfl⟩
    simp only [Submission.completion, Completion.done, h]
    rfl
  | ok u => exact ⟨rfl, rfl⟩

/-- **The first byte that settles a command decides**, and what stands behind it is not read. -/
theorem run_stop_of_settles {noise : List UInt8} {answer : UInt8} (h : l.Listens)
    (hn : ∀ b ∈ noise, Link.settles b = false) (ha : Link.settles answer = true)
    (hl : l.unread = noise ++ answer :: tail) :
    (stop.run.run Link.transport l).value =
        (if answer = 0xfa then .ok () else .error (.transport (.refused 0xf5 answer))) ∧
      Link.After l (stop.run.run Link.transport l).state [0xf5] tail := by
  obtain ⟨hvalue, hstate⟩ := run_stop l
  obtain ⟨houtcome, hafter⟩ := Link.sendCommand_of_settles 0xf5 h hn ha hl
  rw [hstate]
  refine ⟨?_, hafter⟩
  rw [hvalue, houtcome]
  show (if answer = 0xfa then _ else _ : Except TransportError Unit).mapError _ = _
  split <;> rfl

/--
**Switching off behind a queue** writes a single byte. It succeeds and discards exactly the queue
and the acknowledgement if and only if no byte of the queue settles a command. Otherwise the first
byte that does is taken for the answer, and all that stands behind it stays unread, with the
acknowledgement.
-/
theorem stop_law (l : Link) (queue tail : List UInt8) (h : l.Listens)
    (hl : l.unread = queue ++ 0xfa :: tail) :
    let stopped := stop.run.run Link.transport l
    stopped.state.sent = l.sent ++ [0xf5] ∧
      (stopped.value = .ok () ∧ stopped.state.unread = tail ↔
        ∀ b ∈ queue, Link.settles b = false) ∧
      ∀ noise answer rest, queue = noise ++ answer :: rest →
        (∀ b ∈ noise, Link.settles b = false) → Link.settles answer = true →
          stopped.value =
              (if answer = 0xfa then .ok () else .error (.transport (.refused 0xf5 answer))) ∧
            stopped.state.unread = rest ++ 0xfa :: tail := by
  intro stopped
  have hdecides {noise rest : List UInt8} {answer : UInt8} (hq : queue = noise ++ answer :: rest)
      (hn : ∀ b ∈ noise, Link.settles b = false) (ha : Link.settles answer = true) :
      stopped.value =
          (if answer = 0xfa then .ok () else .error (.transport (.refused 0xf5 answer))) ∧
        Link.After l stopped.state [0xf5] (rest ++ 0xfa :: tail) := by
    refine run_stop_of_settles h hn ha ?_
    rw [hl, hq, List.append_assoc, List.cons_append]
  by_cases hall : ∀ b ∈ queue, Link.settles b = false
  · obtain ⟨hvalue, hafter⟩ := run_stop_of_settles h hall rfl hl
    refine ⟨hafter.sent, iff_of_true ⟨hvalue, hafter.unread⟩ hall, ?_⟩
    rintro noise answer rest rfl - ha
    rw [hall answer (by simp)] at ha
    cases ha
  · have hsome : ∃ b ∈ queue, Link.settles b = true := by simpa using hall
    obtain ⟨noise, answer, rest, hq, hn, ha⟩ := exists_first_settling hsome
    obtain ⟨-, hafter⟩ := hdecides hq hn ha
    refine ⟨hafter.sent, iff_of_false ?_ hall, ?_⟩
    · -- the acknowledgement is among what is left, so that more than the tail is unread
      rintro ⟨-, htail⟩
      have hlen := congrArg List.length (hafter.unread.symm.trans htail)
      simp only [List.length_append, List.length_cons] at hlen
      omega
    · intro noise answer rest hq hn ha
      obtain ⟨hvalue, hafter⟩ := hdecides hq hn ha
      exact ⟨hvalue, hafter.unread⟩

/-- A refusal in the payload of a packet, behind a packet without one. -/
theorem stop_law_refused_by_a_packet :
    let queue := [0x44, 0x00, 0x64, 0x02, 0x02, 0x58, 0x44, 0x00, 0xfe, 0x02, 0x02, 0x58]
    let stopped := stop.run.run Link.transport (.waiting (queue ++ [0xfa, 0x08]) .present)
    stopped.state.sent = [0xf5] ∧ stopped.value = .error (.transport (.refused 0xf5 0xfe)) ∧
      stopped.state.unread = [0x02, 0x02, 0x58, 0xfa, 0x08] := by
  intro queue stopped
  obtain ⟨hsent, -, hdecides⟩ :=
    stop_law (.waiting (queue ++ [0xfa, 0x08]) .present) queue [0x08] nofun rfl
  obtain ⟨hvalue, hunread⟩ :=
    hdecides [0x44, 0x00, 0x64, 0x02, 0x02, 0x58, 0x44, 0x00] 0xfe [0x02, 0x02, 0x58] rfl
      (by decide +kernel) rfl
  exact ⟨hsent, hvalue, hunread⟩

/-- **Not every queue of packets is discarded**, although they are all head and tail packets. -/
theorem stop_does_not_survive_a_stream :
    ¬ ∀ (ps : List Packet) (tail : List UInt8), (∀ p ∈ ps, p.kind.isDecodable) →
      let stopped := stop.run.run Link.transport
        (.waiting (ps.flatMap Packet.toList ++ 0xfa :: tail) .present)
      stopped.state.sent = [0xf5] ∧ stopped.value = .ok () ∧ stopped.state.unread = tail := by
  intro h
  have hunread := (h [⟨0x44, 0x00, 0xfe, 0x02, 0x02, 0x58⟩] [] (by decide)).2.2
  revert hunread
  decide +kernel

end Touchpad.Control
