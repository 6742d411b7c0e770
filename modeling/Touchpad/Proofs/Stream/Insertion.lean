import Mathlib.Logic.Relation
import Touchpad.Proofs.Stream.PacketStep

/-!
# Packets that do not matter

Two kinds of packets leave no trace in a stream. One kind has no finger report and can stand
anywhere. The other reports fingers but no position: three fingers, or one finger at an unusable
position. It sets the number of fingers and nothing else, and that number is only looked at when all
fingers are lifted. So it can stand in front of any packet that reports fingers, which sets the
number anew.

* `Packet.Insertion`: one such packet more
* `decodePacket_withFingers`: a packet that reports fingers does not look at their last number
* `insertion_law`: any number of such packets more
-/

namespace Touchpad

namespace Packet

/-- Whether a packet reports that there are fingers. -/
def isTouch (p : Packet) : Bool := p.kind.isDecodable && p.report.fingers != 0

/-- Whether a packet reports fingers, but no position that counts. -/
def isIdle (maxY : Nat) (p : Packet) : Bool :=
  p.kind.isDecodable &&
    (p.report.fingers == 3 || p.report.fingers == 1 && !(p.point maxY).isUsable)

/-- One more packet that does not matter. -/
inductive Insertion (maxY : Nat) : List Packet → List Packet → Prop
  /-- A packet without a finger report, anywhere. -/
  | dropped (before after : List Packet) {p : Packet} (hp : p.kind.isDecodable = false) :
      Insertion maxY (before ++ after) (before ++ p :: after)
  /-- A packet without a position, in front of a packet that reports fingers. -/
  | idle (before after : List Packet) {p q : Packet} (hp : p.isIdle maxY = true)
      (hq : q.isTouch = true) :
      Insertion maxY (before ++ q :: after) (before ++ p :: q :: after)

end Packet

/-! ## The last number of fingers -/

namespace Gesture

variable (g : Gesture) (n slot : Nat) (q : Point)

/-- The number of fingers is no part of a slot. -/
theorem track?_setFingers : (g.setFingers n).track? slot = g.track? slot := by
  unfold track?
  split <;> rfl

/-- A finger is followed alike, whatever the number of fingers was. -/
theorem follow_setFingers :
    (g.setFingers n).follow slot q = (g.follow slot q).setFingers n := by
  unfold follow
  rw [track?_setFingers]
  split
  · rfl
  · unfold setTrack
    split <;> rfl

theorem followRemarks_setFingers :
    (g.setFingers n).followRemarks slot q = g.followRemarks slot q := by
  unfold followRemarks
  rw [track?_setFingers]
  rfl

end Gesture

namespace Decoder

variable {d : Decoder} {n : Nat} {p : Packet} {ps qs : List Packet}

/-- A decoder that has last seen another number of fingers. -/
def withFingers (d : Decoder) (n : Nat) : Decoder := { d with gesture := d.gesture.setFingers n }

/-- Following a finger does not look at the last number of fingers. -/
theorem followUsable_withFingers (d : Decoder) (n slot : Nat) (q : Point) :
    (d.withFingers n).followUsable slot q =
      ((d.followUsable slot q).1.withFingers n, (d.followUsable slot q).2) := by
  unfold followUsable withFingers
  dsimp only
  rw [Gesture.follow_setFingers, Gesture.followRemarks_setFingers]
  split <;> rfl

theorem oneFinger_withFingers (d : Decoder) (n : Nat) (r : FingerReport) (q : Point) :
    (d.withFingers n).oneFinger r q =
      ((d.oneFinger r q).1.withFingers n, (d.oneFinger r q).2) := by
  have hmoved : ({ d.withFingers n with gesture := (d.withFingers n).gesture.moveTo q } : Decoder) =
      withFingers { d with gesture := d.gesture.moveTo q } n := rfl
  unfold oneFinger
  rw [hmoved]
  dsimp only
  rw [followUsable_withFingers]
  split <;> rfl

theorem twoFingerHead_withFingers (d : Decoder) (n : Nat) (q : Point) :
    (d.withFingers n).twoFingerHead q =
      ((d.twoFingerHead q).1.withFingers n, (d.twoFingerHead q).2) := by
  unfold twoFingerHead
  rw [followUsable_withFingers]
  rfl

theorem twoFingerTail_withFingers (d : Decoder) (n : Nat) (q : Point) :
    (d.withFingers n).twoFingerTail q =
      ((d.twoFingerTail q).1.withFingers n, (d.twoFingerTail q).2) := by
  have hhead : (d.withFingers n).head = d.head := rfl
  unfold twoFingerTail
  rw [followUsable_withFingers, hhead]
  cases d.head <;> rfl

/-- Only the packet that lifts all fingers looks at how many there were. -/
theorem touch_withFingers (d : Decoder) (n : Nat) (kind : PacketKind) {r : FingerReport}
    (hf : r.fingers ≠ 0) :
    (d.withFingers n).touch kind r = ((d.touch kind r).1.withFingers n, (d.touch kind r).2) := by
  have hposition : (d.withFingers n).position r = d.position r := rfl
  have hhead : (d.withFingers n).head = d.head := rfl
  unfold touch
  rw [hposition, hhead]
  dsimp only
  split
  · next h => exact absurd h hf
  · rw [oneFinger_withFingers]
  · split
    · rw [twoFingerHead_withFingers]
    · rw [twoFingerTail_withFingers]
  · rfl

/-- **A packet that reports fingers does not look at their last number.** -/
theorem decodePacket_withFingers (d : Decoder) (n : Nat) (hp : p.isTouch = true) :
    (d.withFingers n).decodePacket p = d.decodePacket p := by
  simp only [Packet.isTouch, Bool.and_eq_true, bne_iff_ne] at hp
  unfold decodePacket reportFingers
  rw [if_pos hp.1, if_pos hp.1, touch_withFingers d n p.kind hp.2]
  rfl

/-! ## Packets that are inserted -/

/-- A packet that is not decoded changes nothing and yields no event. -/
theorem decodePacket_of_dropped (d : Decoder) (hp : p.kind.isDecodable = false) :
    (d.decodePacket p).1 = d ∧ (d.decodePacket p).2.events = [] := by
  unfold decodePacket
  rw [if_neg (by simp [hp])]
  exact ⟨rfl, rfl⟩

/-- **A packet without a position** sets the number of fingers, and nothing else happens. -/
theorem decodePacket_of_isIdle (hy : d.profile.maxY < 0x40000000)
    (hp : p.isIdle d.profile.maxY = true) :
    (d.decodePacket p).1 = d.withFingers p.report.fingers ∧ (d.decodePacket p).2.events = [] := by
  simp only [Packet.isIdle, Bool.and_eq_true, Bool.or_eq_true, beq_iff_eq,
    Bool.not_eq_true'] at hp
  obtain ⟨hk, hidle⟩ := hp
  have htouch : (d.touch p.kind p.report).1 = d ∧ (d.touch p.kind p.report).2.1.events = [] := by
    rcases hidle with hf | ⟨hf, hu⟩
    · simp only [touch, hf, and_self]
    · rw [(touch_one hf).1, (touch_one hf).2, position_eq_point hy, oneFinger_of_unusable hu]
      exact ⟨rfl, rfl⟩
  have hstate : (d.reportFingers p.kind p.report).1 =
      (d.touch p.kind p.report).1.withFingers p.report.fingers := rfl
  unfold decodePacket
  rw [if_pos hk, hstate, reportFingers_events, htouch.1, htouch.2]
  exact ⟨rfl, rfl⟩

/-- **One packet more changes nothing.** -/
theorem packets_of_insertion (hy : d.profile.maxY < 0x40000000)
    (h : Packet.Insertion d.profile.maxY ps qs) :
    d.packets qs = d.packets ps ∧ d.eventsOf qs = d.eventsOf ps := by
  cases h with
  | dropped before after hp =>
    obtain ⟨hstate, hevents⟩ := decodePacket_of_dropped (d.packets before) hp
    simp only [packets_append, eventsOf_append, packets_cons, eventsOf_cons, hstate, hevents,
      List.nil_append, and_self]
  | @idle before after p q hp hq =>
    have hprofile : (d.packets before).profile = d.profile := profile_packets d before
    obtain ⟨hstate, hevents⟩ := decodePacket_of_isIdle (d := d.packets before) (p := p)
      (by rw [hprofile]; exact hy) (by rw [hprofile]; exact hp)
    simp only [packets_append, eventsOf_append, packets_cons, eventsOf_cons, hstate, hevents,
      decodePacket_withFingers _ _ hq, List.nil_append, and_self]

/--
**Packets that do not matter.** A decoder between two packets, in whatever state, yields the same
events for some packets as for these with any number of packets inserted that have no finger report,
or that report fingers without a position in front of a packet that reports fingers too. It also
ends up in the same state, with the same gesture and the same waiting head.
-/
theorem insertion_law (h : d.BetweenPackets) (hy : d.profile.maxY < 0x40000000)
    (hi : Relation.ReflTransGen (Packet.Insertion d.profile.maxY) ps qs) :
    (d.bytes (qs.flatMap Packet.toList)).2.events =
        (d.bytes (ps.flatMap Packet.toList)).2.events ∧
      (d.bytes (qs.flatMap Packet.toList)).1 = (d.bytes (ps.flatMap Packet.toList)).1 := by
  rw [bytes_flatMap_toList_events h, bytes_flatMap_toList_events h, bytes_flatMap_toList h,
    bytes_flatMap_toList h]
  -- induction on the packets that were inserted
  induction hi with
  | refl => exact ⟨rfl, rfl⟩
  | tail _ hstep ih =>
    obtain ⟨hstate, hevents⟩ := packets_of_insertion hy hstep
    exact ⟨hevents.trans ih.1, hstate.trans ih.2⟩

/-- A movement goes on behind a spurious packet and behind one with three fingers. -/
theorem insertion_law_three_fingers :
    let profile := { Profile.ofGeneration .v3 0x450f01 with bounds := ⟨0, 1470, 0, 700⟩ }
    let d := Decoder.new profile {}
    let three : Packet := ⟨0xc4, 0, 0, 0x02, 0, 0⟩
    let land : Packet := ⟨0x44, 0, 100, 0x02, 0, 200⟩
    let move : Packet := ⟨0x45, 0, 110, 0x02, 0, 180⟩
    let inserted := [land, Packet.debounce, three, move]
    d.BetweenPackets ∧ d.profile.maxY < 0x40000000 ∧
      Relation.ReflTransGen (Packet.Insertion d.profile.maxY) [land, move] inserted ∧
      (d.bytes (inserted.flatMap Packet.toList)).2.events = [.motion 10 20 ⟨true, false⟩] := by
  intro profile d three land move inserted
  have hd : d.BetweenPackets := betweenPackets_new rfl {}
  have hthree : Packet.Insertion d.profile.maxY [land, move] [land, three, move] :=
    .idle [land] [] (by decide) (by decide)
  have hdebounce : Packet.Insertion d.profile.maxY [land, three, move] inserted :=
    .dropped [land] [three, move] (by decide)
  have hi := (Relation.ReflTransGen.single hthree).tail hdebounce
  refine ⟨hd, by decide, hi, ?_⟩
  rw [(insertion_law hd (by decide) hi).1]
  decide

-- in front of a packet that lifts all fingers it does matter: with three fingers there is no tap
example :
    let d := Decoder.new { Profile.ofGeneration .v3 0x450f01 with bounds := ⟨0, 1470, 0, 700⟩ } {}
    let land : Packet := ⟨0x44, 0, 100, 0x02, 0, 200⟩
    let three : Packet := ⟨0xc4, 0, 0, 0x02, 0, 0⟩
    let lift : Packet := ⟨0x04, 0, 0, 0x02, 0, 0⟩
    d.eventsOf [land, lift] = [.release ⟨true, false⟩] ∧
      d.eventsOf [land, three, lift] = [.release ⟨false, false⟩] := by
  decide

end Decoder

end Touchpad
