import Touchpad.Proofs.Stream.Frames

/-!
# What one packet does

`Decoder.PacketStep` lists, one case for each kind of finger report, what a packet makes of the
gesture and the waiting head of a decoder and which events it yields. `Decoder.packetStep` says that
decoding is one of these cases. What holds of the gesture and the events along every run of packets
is shown by going through them.

The vertical axis of the positions is turned by a subtraction from the largest coordinate. That
coordinate becomes signed first, which changes nothing as long as its highest bit is clear.
-/

namespace Touchpad

/-- The position in a packet, with the vertical axis turned to grow downwards from `maxY`. -/
def Packet.point (maxY : Nat) (p : Packet) : Point := ⟨p.report.x, maxY - p.report.y⟩

/-- Follows the finger of a slot to a position that may be unusable. -/
def Gesture.followUsable (g : Gesture) (slot : Nat) (q : Point) : Gesture :=
  if q.isUsable then g.follow slot q else g

namespace Decoder

variable {d : Decoder} {p : Packet}

/-- Below the sign bit a number stays what it is. -/
theorem signed32_of_lt {n : Nat} (h : n < 0x80000000) : signed32 n = n := by
  unfold signed32 UInt32.size
  rw [Int.bmod_def]
  omega

/-- On a touchpad of ordinary size the position is the difference of two natural numbers. -/
theorem position_eq_point (h : d.profile.maxY < 0x40000000) (p : Packet) :
    d.position p.report = p.point d.profile.maxY := by
  rw [position, signed32_of_lt (Nat.lt_trans h (by decide)), Packet.point]

/-! ## The parts of a step -/

theorem reportFingers_gesture (d : Decoder) (kind : PacketKind) (r : FingerReport) :
    (d.reportFingers kind r).1.gesture = (d.touch kind r).1.gesture.setFingers r.fingers := rfl

theorem reportFingers_head (d : Decoder) (kind : PacketKind) (r : FingerReport) :
    (d.reportFingers kind r).1.head = (d.touch kind r).1.head := rfl

theorem reportFingers_events (d : Decoder) (kind : PacketKind) (r : FingerReport) :
    (d.reportFingers kind r).2.events = (d.touch kind r).2.1.events := by
  unfold reportFingers
  dsimp only
  split <;> simp

/-- A decoder follows a finger as its gesture does. -/
theorem followUsable_gesture (d : Decoder) (slot : Nat) (q : Point) :
    (d.followUsable slot q).1.gesture = d.gesture.followUsable slot q := by
  unfold followUsable Gesture.followUsable
  split <;> rfl

/-- Following a finger leaves the waiting head alone. -/
theorem followUsable_head (d : Decoder) (slot : Nat) (q : Point) :
    (d.followUsable slot q).1.head = d.head := by
  unfold followUsable
  split <;> rfl

/-- Following a finger yields no event; only the movement of one finger does. -/
theorem followUsable_events (d : Decoder) (slot : Nat) (q : Point) :
    (d.followUsable slot q).2.events = [] := by
  unfold followUsable
  split <;> rfl

/--
One finger at a usable position moves the pointer by the way from the position before, if there is
one, and is followed in the first slot.
-/
theorem oneFinger_of_usable {q : Point} (h : q.isUsable = true) (r : FingerReport) :
    (d.oneFinger r q).1.gesture = (d.gesture.moveTo q).follow 0 q ∧
      (d.oneFinger r q).1.head = d.head ∧
      (d.oneFinger r q).2.events =
        (d.gesture.delta q).toList.map fun v => .motion v.1 v.2 r.buttons := by
  unfold oneFinger
  rw [if_pos h]
  refine ⟨?_, followUsable_head _ 0 q, rfl⟩
  show (followUsable _ 0 q).1.gesture = _
  rw [followUsable_gesture, Gesture.followUsable, if_pos h]

theorem oneFinger_of_unusable {q : Point} (h : q.isUsable = false) (r : FingerReport) :
    d.oneFinger r q = (d, {}) := by
  unfold oneFinger
  rw [if_neg (by simp [h])]

/-- A tail is followed in the second slot, with or without a waiting head. -/
theorem twoFingerTail_gesture (d : Decoder) (q : Point) :
    (d.twoFingerTail q).1.gesture = d.gesture.followUsable 1 q := by
  rw [← followUsable_gesture]
  unfold twoFingerTail
  dsimp only
  split <;> rfl

theorem twoFingerTail_head (d : Decoder) (q : Point) : (d.twoFingerTail q).1.head = none := by
  unfold twoFingerTail
  dsimp only
  split
  · next h => rw [followUsable_head, h]
  · rfl

theorem twoFingerTail_events (d : Decoder) (q : Point) : (d.twoFingerTail q).2.events = [] := by
  unfold twoFingerTail
  dsimp only
  split <;> simp [followUsable_events]

theorem touch_one {kind : PacketKind} {r : FingerReport} (h : r.fingers = 1) :
    (d.touch kind r).1 = (d.oneFinger r (d.position r)).1 ∧
      (d.touch kind r).2.1 = (d.oneFinger r (d.position r)).2 := by
  simp only [touch, h, and_self]

theorem touch_head {r : FingerReport} (h : r.fingers = 2) :
    (d.touch .head r).1 = (d.twoFingerHead (d.position r)).1 ∧
      (d.touch .head r).2.1 = (d.twoFingerHead (d.position r)).2 := by
  simp only [touch, h, if_pos, and_self]

theorem touch_tail {r : FingerReport} (h : r.fingers = 2) :
    (d.touch .tail r).1 = (d.twoFingerTail (d.position r)).1 ∧
      (d.touch .tail r).2.1 = (d.twoFingerTail (d.position r)).2 := by
  simp only [touch, h, reduceCtorEq, if_false, and_self]

/-! ## The cases of a step -/

/-- What a packet makes of the gesture and the waiting head, and which events it yields. -/
inductive PacketStep (d : Decoder) (p : Packet) : Gesture → Option Point → List Event → Prop where
  /-- The packet carries no finger report. -/
  | dropped (hk : p.kind.isDecodable = false) : PacketStep d p d.gesture d.head []
  /-- All fingers were lifted. -/
  | lifted (hk : p.kind.isDecodable = true) (hf : p.report.fingers = 0) :
      PacketStep d p (d.gesture.release.setFingers 0) none
        [.release (p.report.buttons.union d.gesture.tap)]
  /-- One finger is somewhere. -/
  | moved {q : Point} (hk : p.kind.isDecodable = true) (hf : p.report.fingers = 1)
      (hq : q = p.point d.profile.maxY) (hu : q.isUsable = true) :
      PacketStep d p (((d.gesture.moveTo q).follow 0 q).setFingers 1) d.head
        ((d.gesture.delta q).toList.map fun v => .motion v.1 v.2 p.report.buttons)
  /-- One finger is at an unusable position. -/
  | lost (hk : p.kind.isDecodable = true) (hf : p.report.fingers = 1)
      (hu : (p.point d.profile.maxY).isUsable = false) :
      PacketStep d p (d.gesture.setFingers 1) d.head []
  /-- The first of two fingers. -/
  | first {q : Point} (hk : p.kind = .head) (hf : p.report.fingers = 2)
      (hq : q = p.point d.profile.maxY) :
      PacketStep d p ((d.gesture.followUsable 0 q).setFingers 2) (some q) []
  /-- The second of two fingers. -/
  | second {q : Point} (hk : p.kind = .tail) (hf : p.report.fingers = 2)
      (hq : q = p.point d.profile.maxY) :
      PacketStep d p ((d.gesture.followUsable 1 q).setFingers 2) none []
  /-- More fingers than there are slots. -/
  | crowded (hk : p.kind.isDecodable = true) (hf : p.report.fingers = 3) :
      PacketStep d p (d.gesture.setFingers 3) d.head []

/-- **Decoding a packet is one of the steps.** -/
theorem packetStep (h : d.profile.maxY < 0x40000000) (p : Packet) :
    PacketStep d p (d.decodePacket p).1.gesture (d.decodePacket p).1.head
      (d.decodePacket p).2.events := by
  unfold decodePacket
  by_cases hk : p.kind.isDecodable = true
  · rw [if_pos hk, reportFingers_gesture, reportFingers_head, reportFingers_events]
    have hlt := p.report_fingers_lt
    match hf : p.report.fingers, hlt with
    | 0, _ =>
      simp only [touch, hf]
      exact .lifted hk hf
    | 1, _ =>
      rw [(touch_one hf).1, (touch_one hf).2, position_eq_point h]
      cases hu : (p.point d.profile.maxY).isUsable with
      | true =>
        obtain ⟨hg, hh, he⟩ := oneFinger_of_usable hu p.report
        rw [hg, hh, he]
        exact .moved hk hf rfl hu
      | false =>
        rw [oneFinger_of_unusable hu]
        exact .lost hk hf hu
    | 2, _ =>
      cases hkind : p.kind with
      | head =>
        rw [(touch_head hf).1, (touch_head hf).2, position_eq_point h]
        show PacketStep d p ((d.followUsable 0 _).1.gesture.setFingers 2) (some _)
          (d.followUsable 0 _).2.events
        rw [followUsable_gesture, followUsable_events]
        exact .first hkind hf rfl
      | tail =>
        rw [(touch_tail hf).1, (touch_tail hf).2, position_eq_point h, twoFingerTail_gesture,
          twoFingerTail_head, twoFingerTail_events]
        exact .second hkind hf rfl
      | unknown | debounce => simp [hkind, PacketKind.isDecodable] at hk
    | 3, _ =>
      simp only [touch, hf]
      exact .crowded hk hf
  · rw [if_neg hk]
    exact .dropped (by simpa using hk)

end Decoder

end Touchpad
