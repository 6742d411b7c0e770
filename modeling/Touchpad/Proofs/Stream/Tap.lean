import Touchpad.Proofs.Stream.History

/-!
# Taps

When a release makes a click. The answer is read off the packets since the last release: the last
one that has a report says which button it is, and all usable positions of either finger have to
stay near the place where that finger landed.

* `Packet.Tapped`: packets end in a touch that counts as a tap
* `tap_ofPackets`: the gesture makes a click for such packets only
* `release_law`: the events of a whole stream

A gesture stores the tap distance cut to 31 bits. That does not matter, because two positions of one
touchpad are never further apart than twelve bits can tell (`isNear_point`).
-/

namespace Touchpad

/-! ## Staying in place -/

namespace Point

/-- Whether two positions are at most `distance` apart on both axes. -/
def IsNear (distance : Nat) (q start : Point) : Prop :=
  (q.x - start.x).natAbs ≤ distance ∧ (q.y - start.y).natAbs ≤ distance

/-- Whether a finger that was at some positions was always near the first one. -/
def StayNear (distance : Nat) (qs : List Point) : Prop :=
  ∀ start, qs.head? = some start → ∀ q ∈ qs, q.IsNear distance start

instance (distance : Nat) (q start : Point) : Decidable (q.IsNear distance start) :=
  inferInstanceAs (Decidable (_ ∧ _))

instance (distance : Nat) (qs : List Point) : Decidable (StayNear distance qs) :=
  inferInstanceAs (Decidable (∀ start ∈ qs.head?, ∀ q ∈ qs, q.IsNear distance start))

theorem isBeyond_eq_false_iff {distance : Nat} {q start : Point} :
    q.isBeyond start distance = false ↔ q.IsNear distance start := by
  simp [isBeyond, IsNear]

theorem isNear_self (distance : Nat) (q : Point) : q.IsNear distance q := by
  simp [IsNear]

/-- A limit that is kept anyway does not matter to a distance. -/
theorem isNear_min_iff {distance limit : Nat} {q start : Point} (h : q.IsNear limit start) :
    q.IsNear (min distance limit) start ↔ q.IsNear distance start := by
  unfold IsNear at *
  omega

/-- A limit that no two positions exceed need not be kept. -/
theorem stayNear_min_iff {distance limit : Nat} {qs : List Point}
    (h : ∀ q ∈ qs, ∀ start ∈ qs, q.IsNear limit start) :
    StayNear (min distance limit) qs ↔ StayNear distance qs := by
  have hnear : ∀ start, qs.head? = some start → ∀ q ∈ qs, q.IsNear limit start :=
    fun start hs q hq => h q hq start (List.mem_of_head? hs)
  constructor
  · exact fun h start hs q hq => (isNear_min_iff (hnear start hs q hq)).mp (h start hs q hq)
  · exact fun h start hs q hq => (isNear_min_iff (hnear start hs q hq)).mpr (h start hs q hq)

end Point

/-- A track is in range as long as its finger has stayed near the place where it landed. -/
theorem Track.inRange_ofPoints_iff {distance : Nat} {qs : List Point} :
    (ofPoints distance qs).inRange = true ↔ Point.StayNear distance qs := by
  cases qs with
  | nil => simp [ofPoints, Point.StayNear]
  | cons start qs =>
    simp [ofPoints, Point.StayNear, Point.isBeyond_eq_false_iff, Point.isNear_self]

/-! ## Positions of one touchpad -/

namespace Packet

variable {maxY slot : Nat} {ps : List Packet}

/-- No two positions of packets are further from each other than a distance can say. -/
theorem isNear_point (maxY : Nat) (p q : Packet) :
    (p.point maxY).IsNear Gesture.maxDistance (q.point maxY) := by
  have hpx := p.report_x_lt
  have hpy := p.report_y_lt
  have hqx := q.report_x_lt
  have hqy := q.report_y_lt
  simp only [Point.IsNear, point, Gesture.maxDistance]
  omega

theorem exists_of_mem_slotPoints {q : Point} (h : q ∈ slotPoints maxY slot ps) :
    ∃ p ∈ ps, p.point maxY = q := by
  obtain ⟨p, hp, hq⟩ := List.mem_filterMap.mp h
  unfold pointFor? at hq
  split at hq
  · exact ⟨p, hp, Option.some.inj hq⟩
  · cases hq

/-- For the positions in packets the tap distance need not be cut. -/
theorem stayNear_slotPoints_iff {distance : Nat} :
    Point.StayNear (min distance Gesture.maxDistance) (slotPoints maxY slot ps) ↔
      Point.StayNear distance (slotPoints maxY slot ps) := by
  refine Point.stayNear_min_iff fun q hq start hs => ?_
  obtain ⟨p, -, rfl⟩ := exists_of_mem_slotPoints hq
  obtain ⟨r, -, rfl⟩ := exists_of_mem_slotPoints hs
  exact isNear_point maxY p r

/-! ## Clicks -/

/-- Whether packets end in a touch of `n` fingers that counts as a tap. -/
structure Tapped (maxY : Nat) (config : Config) (ps : List Packet) (n : Nat) : Prop where
  enabled : config.tapToClick = true
  fingers : lastFingers? ps = some n
  first : Point.StayNear config.tapDistance (slotPoints maxY 0 (sinceLift ps))
  second : Point.StayNear config.tapDistance (slotPoints maxY 1 (sinceLift ps))

/-- **A touch may be a tap** if taps are enabled and both fingers stayed near. -/
theorem isTapEligible_ofPackets_iff {config : Config} :
    (Gesture.ofPackets maxY config ps).isTapEligible = true ↔
      config.tapToClick = true ∧
        Point.StayNear config.tapDistance (slotPoints maxY 0 (sinceLift ps)) ∧
        Point.StayNear config.tapDistance (slotPoints maxY 1 (sinceLift ps)) := by
  simp only [Gesture.isTapEligible, Gesture.ofPackets, Bool.and_eq_true,
    Track.inRange_ofPoints_iff, stayNear_slotPoints_iff]

theorem tapped_iff {config : Config} {n : Nat} :
    Tapped maxY config ps n ↔
      (Gesture.ofPackets maxY config ps).isTapEligible = true ∧ lastFingers? ps = some n := by
  rw [isTapEligible_ofPackets_iff]
  exact ⟨fun h => ⟨⟨h.enabled, h.first, h.second⟩, h.fingers⟩,
    fun ⟨⟨he, h0, h1⟩, hf⟩ => ⟨he, hf, h0, h1⟩⟩

/-- A number of fingers above zero was reported by a packet. -/
theorem getD_lastFingers?_eq_iff {n : Nat} (h : 0 < n) :
    (lastFingers? ps).getD 0 = n ↔ lastFingers? ps = some n := by
  cases lastFingers? ps with
  | none => simp; omega
  | some m => simp

/-- **A gesture makes a click exactly if the packets end in a tap of one or two fingers.** -/
theorem tap_ofPackets (maxY : Nat) (config : Config) (ps : List Packet) :
    ((Gesture.ofPackets maxY config ps).tap.left = true ↔ Tapped maxY config ps 1) ∧
      ((Gesture.ofPackets maxY config ps).tap.right = true ↔ Tapped maxY config ps 2) := by
  have hfingers : (Gesture.ofPackets maxY config ps).lastFingers = (lastFingers? ps).getD 0 := rfl
  rw [tapped_iff, tapped_iff, Gesture.tap, hfingers,
    ← getD_lastFingers?_eq_iff (by decide : 0 < 1), ← getD_lastFingers?_eq_iff (by decide : 0 < 2)]
  split
  · next h => simp [h]
  · next h => simp [h, Buttons.none]

/-- Behind a packet that lifts all fingers a tap needs a packet that reports its fingers. -/
theorem Tapped.exists_touch {config : Config} {i j n : Nat} {p : Packet}
    (h : Tapped maxY config (ps.take j) n) (hn : 0 < n) (hij : i < j) (hp : ps[i]? = some p)
    (hl : p.isLift = true) :
    ∃ k r, i < k ∧ k < j ∧ ps[k]? = some r ∧ r.kind.isDecodable = true ∧ r.report.fingers = n := by
  obtain ⟨front, r, back, htake, hr, hf, hback⟩ := exists_of_lastFingers? h.fingers
  have hp' : (front ++ r :: back)[i]? = some p := by
    rw [← htake, List.getElem?_take_of_lt hij, hp]
  have hr' : (ps.take j)[front.length]? = some r := by
    rw [htake]
    simp
  obtain ⟨hlt, -⟩ := List.getElem?_eq_some_iff.mp hr'
  have hj : front.length < j := Nat.lt_of_lt_of_le hlt (List.length_take_le j ps)
  rw [List.getElem?_take_of_lt hj] at hr'
  simp only [isLift, Bool.and_eq_true, beq_iff_eq] at hl
  refine ⟨front.length, r, ?_, hj, hr', hr, hf⟩
  rcases Nat.lt_trichotomy i front.length with hi | hi | hi
  · exact hi
  · -- the packet that lifts the fingers is itself the last one with a report
    rw [hi, List.getElem?_append_right (Nat.le_refl _)] at hp'
    simp at hp'
    rw [hp', hl.2] at hf
    omega
  · rw [List.getElem?_append_right (Nat.le_of_lt hi)] at hp'
    obtain ⟨k, hk⟩ := Nat.exists_eq_add_of_lt hi
    rw [show i - front.length = k + 1 by omega, List.getElem?_cons_succ] at hp'
    rw [hback p (List.mem_of_getElem? hp')] at hl
    cases hl.1

end Packet

/-! ## Releases of a stream -/

namespace Decoder

open Packet (Tapped)

/-- A lift yields a release with the buttons that are held and the click of the touch. -/
theorem PacketStep.release_of_isLift {d : Decoder} {p : Packet} {g : Gesture}
    {head : Option Point} {events : List Event} (h : PacketStep d p g head events)
    (hl : p.isLift = true) : events = [.release (p.report.buttons.union d.gesture.tap)] := by
  simp only [Packet.isLift, Bool.and_eq_true, beq_iff_eq] at hl
  cases h with
  | lifted => rfl
  | dropped hk => simp [hk] at hl
  | moved _ hf | lost _ hf | first _ hf | second _ hf | crowded _ hf => omega

theorem PacketStep.kind_ne_release {d : Decoder} {p : Packet} {g : Gesture}
    {head : Option Point} {events : List Event} (h : PacketStep d p g head events)
    (hl : p.isLift = false) : ∀ e ∈ events, e.kind ≠ .release := by
  cases h with
  | lifted hk hf => simp [Packet.isLift, hk, hf] at hl
  | moved =>
    intro e he
    obtain ⟨v, -, rfl⟩ := List.mem_map.mp he
    simp [Event.motion]
  | dropped | lost | first | second | crowded => simp

variable {profile : Profile} {stream : List UInt8}

/-- The events at a lift in a stream are its release. -/
theorem yieldAt_events_of_isLift (h3 : profile.generation = .v3)
    (hy : profile.maxY < 0x40000000) (config : Config) {i : Nat} {p : Packet}
    (hp : (Packet.cut stream)[i]? = some p) (hl : p.isLift = true) :
    ((new profile config).yieldAt stream i).events =
      [.release (p.report.buttons.union
        (Gesture.ofPackets profile.maxY config ((Packet.cut stream).take i)).tap)] := by
  have hstep := packetStep (d := (new profile config).packets ((Packet.cut stream).take i))
    (by rw [profile_packets]; exact hy) p
  rw [yieldAt_events (betweenPackets_new h3 config) hp, hstep.release_of_isLift hl,
    gesture_packets hy]

theorem kind_ne_release_of_mem_yieldAt (h3 : profile.generation = .v3)
    (hy : profile.maxY < 0x40000000) (config : Config) {i : Nat} {p : Packet}
    (hp : (Packet.cut stream)[i]? = some p) (hl : p.isLift = false) :
    ∀ e ∈ ((new profile config).yieldAt stream i).events, e.kind ≠ .release := by
  have hstep := packetStep (d := (new profile config).packets ((Packet.cut stream).take i))
    (by rw [profile_packets]; exact hy) p
  rw [yieldAt_events (betweenPackets_new h3 config) hp]
  exact hstep.kind_ne_release hl

/--
**The releases of a stream.** A packet that lifts all fingers yields one release, no other packet
yields any, and nothing is yielded between packets. The buttons of a release are those in its
packet, together with the left or the right one if the packets in front of it end in a tap of one or
of two fingers. Between two packets that lift all fingers, a tap at the second one needs a packet
that reports fingers.
-/
theorem release_law (h3 : profile.generation = .v3) (hy : profile.maxY < 0x40000000)
    (config : Config) (stream : List UInt8) :
    let d := Decoder.new profile config
    let ps := Packet.cut stream
    (d.bytes stream).2.events =
        (List.range ps.length).flatMap (fun i => (d.yieldAt stream i).events) ∧
      (∀ i p, ps[i]? = some p → p.isLift = true →
        ∃ click : Buttons,
          (d.yieldAt stream i).events = [.release (p.report.buttons.union click)] ∧
          (click.left = true ↔ Tapped profile.maxY config (ps.take i) 1) ∧
          (click.right = true ↔ Tapped profile.maxY config (ps.take i) 2)) ∧
      (∀ i p, ps[i]? = some p → p.isLift = false →
        ∀ e ∈ (d.yieldAt stream i).events, e.kind ≠ .release) ∧
      ∀ i j n p, i < j → 0 < n → ps[i]? = some p → p.isLift = true →
        Tapped profile.maxY config (ps.take j) n →
        ∃ k r, i < k ∧ k < j ∧ ps[k]? = some r ∧ r.kind.isDecodable = true ∧
          r.report.fingers = n := by
  intro d ps
  refine ⟨bytes_events (betweenPackets_new h3 config) stream, ?_, ?_, ?_⟩
  · intro i p hp hl
    exact ⟨_, yieldAt_events_of_isLift h3 hy config hp hl,
      Packet.tap_ofPackets profile.maxY config (ps.take i)⟩
  · intro i p hp hl
    exact kind_ne_release_of_mem_yieldAt h3 hy config hp hl
  · intro i j n p hij hn hp hl ht
    exact ht.exists_touch hn hij hp hl

/-- A finger that lands and is lifted from the same place makes a left click. -/
theorem release_law_one_finger_tap :
    let profile := { Profile.ofGeneration .v3 0x450f01 with bounds := ⟨0, 1470, 0, 700⟩ }
    let stream : List UInt8 := [0x44, 0, 100, 0x02, 0x02, 0x58, 0x04, 0, 0, 0x02, 0, 0]
    profile.generation = .v3 ∧ profile.maxY < 0x40000000 ∧
      ((Decoder.new profile {}).yieldAt stream 1).events = [.release ⟨true, false⟩] := by
  intro profile stream
  refine ⟨rfl, by decide, ?_⟩
  obtain ⟨click, hevents, hleft, hright⟩ :=
    (release_law (show profile.generation = .v3 from rfl) (by decide) {} stream).2.1 1
      ⟨0x04, 0, 0, 0x02, 0, 0⟩ rfl rfl
  have htapped : Tapped profile.maxY {} ((Packet.cut stream).take 1) 1 :=
    Packet.tapped_iff.mpr ⟨by decide, by decide⟩
  have hsingle : ¬ Tapped profile.maxY {} ((Packet.cut stream).take 1) 2 := fun h =>
    absurd h.fingers (by decide)
  rw [← hleft] at htapped
  rw [← hright, Bool.not_eq_true] at hsingle
  rw [hevents, Buttons.union, htapped, hsingle]
  rfl

end Decoder

end Touchpad
