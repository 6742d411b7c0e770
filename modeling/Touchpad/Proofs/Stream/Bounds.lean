import Touchpad.Proofs.Stream.Framing
import Touchpad.Proofs.Stream.Tap
import Touchpad.Stream.Checked

/-!
# Bounds of positions and movements

Whatever a decoder of the third generation keeps about a touch are usable positions of packets. Two
of them are closer to each other than twelve bits can tell, so that no difference needs more than 32
bits, and none of the checks of `Touchpad.Checked` fails.

* `Point.Seen`, `Gesture.Seen`: usable positions of packets, and a gesture that keeps no others
* `PacketStep.seen`, `PacketStep.movement_le`: what one packet preserves, and how far it moves
* `Checked.delta_eq`, `Checked.follow_eq`: positions that are near what a gesture keeps pass the
  checks
* `Checked.decodePacket_eq`: on such a gesture the checked decoder does what the decoder does
* `Checked.feed_decode`: along a whole stream it does too

The largest coordinate itself only has to be a number below 2³⁰.
-/

namespace Touchpad

/-! ## Seen positions -/

/-- Whether a position is a usable one that a packet can report. -/
def Point.Seen (maxY : Nat) (q : Point) : Prop :=
  q.isUsable = true ∧ ∃ p : Packet, q = p.point maxY

namespace Point

variable {maxY : Nat} {q start : Point}

/-- **Two positions of one touchpad are close to each other.** -/
theorem Seen.sub_le (hq : q.Seen maxY) (hs : start.Seen maxY) :
    (q.x - start.x).natAbs ≤ 4094 ∧ (q.y - start.y).natAbs ≤ 4095 := by
  obtain ⟨hu, p, rfl⟩ := hq
  obtain ⟨hv, r, rfl⟩ := hs
  have hpx := p.report_x_lt
  have hpy := p.report_y_lt
  have hrx := r.report_x_lt
  have hry := r.report_y_lt
  -- a usable position is not at the left edge
  simp only [isUsable, Packet.point, Bool.and_eq_true, bne_iff_ne] at hu hv
  simp only [Packet.point]
  omega

/--
No position is further from another than a tap distance can be, so that every touch stays near.
-/
theorem Seen.isNear (hq : q.Seen maxY) (hs : start.Seen maxY) :
    q.IsNear Gesture.maxDistance start := by
  obtain ⟨-, p, rfl⟩ := hq
  obtain ⟨-, r, rfl⟩ := hs
  exact Packet.isNear_point maxY p r

end Point

/-- Whether a finger landed at a seen position, if it did. -/
def Track.Seen (maxY : Nat) (t : Track) : Prop := ∀ q, t.start = some q → q.Seen maxY

/-- Whether all positions that a gesture keeps were seen. -/
structure Gesture.Seen (maxY : Nat) (g : Gesture) : Prop where
  lastPoint : ∀ q, g.lastPoint = some q → q.Seen maxY
  first : g.first.Seen maxY
  second : g.second.Seen maxY

/--
A finger that lands at a seen position is remembered there, and one that is down already stays.
-/
theorem Track.Seen.move {maxY : Nat} {t : Track} {q : Point} (h : t.Seen maxY) (hq : q.Seen maxY)
    (distance : Nat) : (t.move distance q).Seen maxY := by
  intro r hr
  unfold Track.move at hr
  split at hr
  · cases hr
    exact hq
  · exact h r hr

namespace Gesture

variable {maxY : Nat} {g : Gesture} {q : Point}

theorem seen_new (enabled : Bool) (distance : Nat) : (new enabled distance).Seen maxY :=
  ⟨nofun, nofun, nofun⟩

theorem seen_release (g : Gesture) : g.release.Seen maxY := ⟨nofun, nofun, nofun⟩

/-- Both slots of a gesture keep seen positions only. -/
theorem Seen.track (h : g.Seen maxY) {slot : Nat} {t : Track} (ht : g.track? slot = some t) :
    t.Seen maxY := by
  match slot with
  | 0 =>
    cases ht
    exact h.first
  | 1 =>
    cases ht
    exact h.second
  | _ + 2 => cases ht

theorem Seen.startPoint (h : g.Seen maxY) {slot : Nat} {start : Point}
    (hs : g.startPoint slot = some start) : start.Seen maxY := by
  obtain ⟨t, ht, hstart⟩ := Option.bind_eq_some_iff.mp hs
  exact h.track ht start hstart

theorem Seen.setFingers (h : g.Seen maxY) (n : Nat) : (g.setFingers n).Seen maxY :=
  ⟨h.lastPoint, h.first, h.second⟩

theorem Seen.moveTo (h : g.Seen maxY) (hq : q.Seen maxY) : (g.moveTo q).Seen maxY := by
  refine ⟨?_, h.first, h.second⟩
  intro r hr
  cases hr
  exact hq

theorem Seen.follow (h : g.Seen maxY) (hq : q.Seen maxY) (slot : Nat) :
    (g.follow slot q).Seen maxY := by
  match slot with
  | 0 => exact ⟨h.lastPoint, h.first.move hq g.distance, h.second⟩
  | 1 => exact ⟨h.lastPoint, h.first, h.second.move hq g.distance⟩
  | _ + 2 => exact h

/-- A position of a packet is seen if it is usable, and not followed if it is not. -/
theorem Seen.followUsable (h : g.Seen maxY) {p : Packet} (hq : q = p.point maxY) (slot : Nat) :
    (g.followUsable slot q).Seen maxY := by
  unfold Gesture.followUsable
  split
  · next hu => exact h.follow ⟨hu, p, hq⟩ slot
  · exact h

end Gesture

/-! ## A packet -/

namespace Decoder

variable {d : Decoder} {p : Packet} {g : Gesture} {head : Option Point} {events : List Event}

/-- **A packet leaves only seen positions behind.** -/
theorem PacketStep.seen (h : PacketStep d p g head events)
    (hd : d.gesture.Seen d.profile.maxY) : g.Seen d.profile.maxY := by
  cases h with
  | dropped => exact hd
  | lifted => exact (Gesture.seen_release _).setFingers 0
  | moved _ _ hq hu =>
    have hseen : Point.Seen d.profile.maxY _ := ⟨hu, p, hq⟩
    exact ((hd.moveTo hseen).follow hseen 0).setFingers 1
  | lost => exact hd.setFingers 1
  | first _ _ hq => exact (hd.followUsable hq 0).setFingers 2
  | second _ _ hq => exact (hd.followUsable hq 1).setFingers 2
  | crowded => exact hd.setFingers 3

/-- **A packet moves the pointer by twelve bits at most.** -/
theorem PacketStep.movement_le (h : PacketStep d p g head events)
    (hd : d.gesture.Seen d.profile.maxY) :
    ∀ e ∈ events, e.kind = .motion → e.dx.natAbs ≤ 4094 ∧ e.dy.natAbs ≤ 4095 := by
  cases h with
  | @moved q _ _ hq hu =>
    intro e he _
    obtain ⟨v, hv, rfl⟩ := List.mem_map.mp he
    obtain ⟨last, hlast, rfl⟩ := Option.map_eq_some_iff.mp (Option.mem_toList.mp hv)
    have hseen : q.Seen d.profile.maxY := ⟨hu, p, hq⟩
    exact hseen.sub_le (hd.lastPoint last hlast)
  | lifted => simp [Event.release]
  | dropped | lost | first | second | crowded => simp

end Decoder

/-! ## Checked arithmetic -/

namespace Checked

variable {maxY : Nat} {g : Gesture} {q start : Point}

theorem sub_of_le {a b : Int} (h : (a - b).natAbs ≤ Gesture.maxDistance) :
    sub a b = .ok (a - b) := by
  refine if_pos ?_
  unfold Gesture.maxDistance at h
  unfold Fits
  omega

theorem magnitude_of_le {a : Int} (h : a.natAbs ≤ Gesture.maxDistance) :
    magnitude a = .ok (a.natAbs : Int) := by
  refine if_pos ?_
  unfold Gesture.maxDistance at h
  unfold Fits
  omega

/-- A movement passes the checks if the position before it is near. -/
theorem delta_eq (h : ∀ last, g.lastPoint = some last → q.IsNear Gesture.maxDistance last) :
    delta g q = .ok (g.delta q) := by
  unfold delta Gesture.delta
  cases hlast : g.lastPoint with
  | none => rfl
  | some last =>
    obtain ⟨hx, hy⟩ := h last hlast
    dsimp only
    rw [sub_of_le hx, sub_of_le hy]
    rfl

/--
Comparing a position with a near one passes the checks, also where only one axis is looked at.
-/
theorem isBeyond_eq (h : q.IsNear Gesture.maxDistance start) (distance : Nat) :
    isBeyond q start distance = .ok (q.isBeyond start distance) := by
  obtain ⟨hx, hy⟩ := h
  unfold isBeyond Point.isBeyond
  rw [sub_of_le hx, sub_of_le hy]
  show Except.bind (magnitude (q.x - start.x)) _ = _
  rw [magnitude_of_le hx, magnitude_of_le hy]
  -- the second axis is looked at only where the first one does not decide
  show (if ((q.x - start.x).natAbs : Int) > distance then _ else _) = _
  by_cases hfar : (q.x - start.x).natAbs > distance
  · rw [if_pos (Int.ofNat_lt.mpr hfar), decide_eq_true hfar]
    rfl
  · rw [if_neg (fun h => hfar (Int.ofNat_lt.mp h)), decide_eq_false hfar, Bool.false_or]
    show Except.ok (decide (((q.y - start.y).natAbs : Int) > distance)) = _
    exact congrArg Except.ok (decide_eq_decide.mpr Int.ofNat_lt)

theorem move_eq {t : Track} (h : ∀ start, t.start = some start → q.IsNear Gesture.maxDistance start)
    (distance : Nat) : move t distance q = .ok (t.move distance q) := by
  unfold move Track.move
  cases hs : t.start with
  | none => rfl
  | some start =>
    dsimp only
    rw [isBeyond_eq (h start hs)]
    rfl

/-- Following a finger passes the checks if it landed near. -/
theorem follow_eq {slot : Nat}
    (h : ∀ start, g.startPoint slot = some start → q.IsNear Gesture.maxDistance start) :
    follow g slot q = .ok (g.follow slot q) := by
  unfold follow Gesture.follow
  unfold Gesture.startPoint at h
  cases ht : g.track? slot with
  | none => rfl
  | some t =>
    rw [ht] at h
    dsimp only
    rw [move_eq h]
    rfl

/-- On a gesture of seen positions the checks pass for every packet. -/
theorem followUsable_eq (hg : g.Seen maxY) {p : Packet} (hq : q = p.point maxY) (slot : Nat) :
    followUsable g slot q = .ok (g.followUsable slot q) := by
  unfold followUsable Gesture.followUsable
  split
  · next hu =>
    have hseen : q.Seen maxY := ⟨hu, p, hq⟩
    exact follow_eq fun start hs => hseen.isNear (hg.startPoint hs)
  · rfl

/-! ## Checked packets -/

section Packets

variable {d : Decoder}

/--
**A position fits in 32 bits** wherever the largest coordinate does: the difference is between it
and zero, up to the twelve bits of a packet.
-/
theorem position_eq (h : d.profile.maxY < 0x80000000) (p : Packet) :
    position d p.report = .ok (d.position p.report) := by
  have hy := p.report_y_lt
  have hfits : Fits ((d.profile.maxY : Int) - p.report.y) := by
    unfold Fits
    omega
  unfold position Decoder.position
  rw [Decoder.signed32_of_lt h, sub, fit, if_pos hfits]
  rfl

/-- On a touchpad of ordinary size it is the position of the packet. -/
theorem position_eq_point (h : d.profile.maxY < 0x40000000) (p : Packet) :
    position d p.report = .ok (p.point d.profile.maxY) := by
  rw [position_eq (Nat.lt_trans h (by decide)), Decoder.position_eq_point h]

theorem oneFinger_eq (hd : d.gesture.Seen d.profile.maxY) {p : Packet} {q : Point}
    (hq : q = p.point d.profile.maxY) (r : FingerReport) :
    oneFinger d r q = .ok ((d.oneFinger r q).1, (d.oneFinger r q).2.events) := by
  unfold oneFinger Decoder.oneFinger Decoder.followUsable
  cases hu : q.isUsable with
  | true =>
    have hseen : q.Seen d.profile.maxY := ⟨hu, p, hq⟩
    rw [delta_eq fun last hlast => hseen.isNear (hd.lastPoint last hlast),
      follow_eq fun start hs => hseen.isNear ((hd.moveTo hseen).startPoint hs)]
    rfl
  | false => rfl

theorem followUsable_fst (d : Decoder) (slot : Nat) (q : Point) :
    (d.followUsable slot q).1 = { d with gesture := d.gesture.followUsable slot q } := by
  unfold Decoder.followUsable Gesture.followUsable
  split <;> rfl

theorem twoFingerHead_fst (d : Decoder) (q : Point) :
    (d.twoFingerHead q).1 = { d with gesture := d.gesture.followUsable 0 q, head := some q } := by
  show ({ (d.followUsable 0 q).1 with head := some q } : Decoder) = _
  rw [followUsable_fst]

theorem twoFingerTail_fst (d : Decoder) (q : Point) :
    (d.twoFingerTail q).1 = { d with gesture := d.gesture.followUsable 1 q, head := none } := by
  have hnext := followUsable_fst d 1 q
  unfold Decoder.twoFingerTail
  dsimp only
  split
  · next h => rw [hnext, ← h]
  · rw [hnext]

/-- **A finger report passes the checks**, however many fingers it has. -/
theorem touch_eq (h : d.profile.maxY < 0x40000000) (hd : d.gesture.Seen d.profile.maxY)
    (p : Packet) (kind : PacketKind) :
    touch d kind p.report =
      .ok ((d.touch kind p.report).1, (d.touch kind p.report).2.1.events) := by
  have hlt := p.report_fingers_lt
  match hf : p.report.fingers, hlt with
  | 0, _ =>
    simp only [touch, Decoder.touch, hf]
    rfl
  | 1, _ =>
    rw [(Decoder.touch_one hf).1, (Decoder.touch_one hf).2, Decoder.position_eq_point h]
    simp only [touch, hf, position_eq_point h]
    exact oneFinger_eq hd rfl p.report
  | 2, _ =>
    simp only [touch, Decoder.touch, hf, position_eq_point h, Decoder.position_eq_point h]
    show (if kind = .head then _ else _) = _
    by_cases hk : kind = .head
    · rw [if_pos hk, if_pos hk, followUsable_eq hd rfl]
      show _ = Except.ok ((d.twoFingerHead _).1, (d.followUsable 0 _).2.events)
      rw [Decoder.followUsable_events, twoFingerHead_fst]
      rfl
    · rw [if_neg hk, if_neg hk, followUsable_eq hd rfl]
      show _ = Except.ok ((d.twoFingerTail _).1, (d.twoFingerTail _).2.events)
      rw [Decoder.twoFingerTail_events, twoFingerTail_fst]
      rfl
  | 3, _ =>
    simp only [touch, Decoder.touch, hf]
    rfl

/-- **On seen positions no check fails**, and a packet has the effect that it has on integers. -/
theorem decodePacket_eq (h : d.profile.maxY < 0x40000000) (hd : d.gesture.Seen d.profile.maxY)
    (p : Packet) :
    decodePacket d p = .ok ((d.decodePacket p).1, (d.decodePacket p).2.events) := by
  unfold decodePacket Decoder.decodePacket
  split
  · rw [touch_eq h hd, Decoder.reportFingers_events]
    rfl
  · rfl

end Packets

/-! ## Checked streams -/

section Streams

variable {d : Decoder}

/-- Six bytes are the bytes of a packet. -/
theorem exists_toList {block : List UInt8} (h : block.length = 6) :
    ∃ p : Packet, block = p.toList := by
  obtain ⟨p, rest, rfl⟩ := Packet.exists_toList_append (Nat.le_of_eq h.symm)
  rw [List.length_append, Packet.length_toList] at h
  exact ⟨p, by rw [List.eq_nil_of_length_eq_zero (by omega : rest.length = 0), List.append_nil]⟩

/-- **Along a stream of packets no check fails**, and no packet moves the pointer far. -/
theorem feed_decode (h3 : d.profile.generation = .v3) (h : d.profile.maxY < 0x40000000)
    (hd : d.gesture.Seen d.profile.maxY) {bs : List (List UInt8)}
    (hbs : ∀ block ∈ bs, block.length = 6) :
    feed decode d bs = .ok ((d.blockwise bs).1, (d.blockwise bs).2.events) ∧
      ∀ e ∈ (d.blockwise bs).2.events, e.kind = .motion →
        e.dx.natAbs ≤ 4094 ∧ e.dy.natAbs ≤ 4095 := by
  induction bs generalizing d with
  | nil => exact ⟨rfl, by simp [Decoder.blockwise]⟩
  | cons block bs ih =>
    obtain ⟨p, rfl⟩ := exists_toList (hbs block List.mem_cons_self)
    have hdecode : d.decode p.toList = d.decodePacket p := by
      simp only [Decoder.decode, h3, Packet.ofList?_toList]
    have hchecked : decode d p.toList =
        .ok ((d.decodePacket p).1, (d.decodePacket p).2.events) := by
      simp only [decode, h3, Packet.ofList?_toList, decodePacket_eq h hd]
    have hprofile : (d.decodePacket p).1.profile = d.profile := by rw [Decoder.decodePacket_eq]
    have hstep := Decoder.packetStep h p
    obtain ⟨hfeed, hmove⟩ := ih (d := (d.decodePacket p).1) (by rw [hprofile, h3])
      (by rw [hprofile]; exact h) (by rw [hprofile]; exact hstep.seen hd)
      fun b hb => hbs b (List.mem_cons_of_mem _ hb)
    rw [feed_cons_of_ok hchecked, hfeed, Decoder.blockwise_cons, hdecode]
    refine ⟨rfl, ?_⟩
    intro e he
    rcases List.mem_append.mp he with he | he
    · exact hstep.movement_le hd e he
    · exact hmove e he

end Streams

end Checked

end Touchpad
