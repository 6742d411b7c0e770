import Mathlib.Data.List.Induction
import Touchpad.Proofs.Stream.PacketStep

/-!
# The gesture as a function of the packets

A decoder keeps five values about a touch and updates them packet by packet. This module describes
them by the packets that have arrived, without a run.

* `Packet.sinceLift`: the packets behind the last one that lifts all fingers
* `Packet.slotPoints`: the usable positions that packets give to a finger slot
* `Packet.singles`: the packets with one finger at a usable position
* `Gesture.ofPackets`: the gesture that these describe

`gesture_packets` says that this is the gesture of a new decoder after the packets. The proof is an
induction on the packets from the last one, whose step goes through `Decoder.PacketStep`.
-/

namespace Touchpad

/-! ## What a packet says -/

namespace Packet

variable {maxY slot : Nat} {p : Packet} {ps : List Packet}

/-- Whether a packet reports that all fingers were lifted. -/
def isLift (p : Packet) : Bool := p.kind.isDecodable && p.report.fingers == 0

/-- Whether a packet reports one finger at a usable position. -/
def isSingle (maxY : Nat) (p : Packet) : Bool :=
  p.kind.isDecodable && p.report.fingers == 1 && (p.point maxY).isUsable

/-- The finger slot that a packet reports on: of two fingers the tail has the second. -/
def slot? (p : Packet) : Option Nat :=
  match p.kind, p.report.fingers with
  | .head, 1 | .tail, 1 | .head, 2 => some 0
  | .tail, 2 => some 1
  | _, _ => none

/-- The usable position that a packet gives to a slot. -/
def pointFor? (maxY slot : Nat) (p : Packet) : Option Point :=
  if p.slot? = some slot ∧ (p.point maxY).isUsable then some (p.point maxY) else none

/-! ## What packets say together -/

/-- The packets behind the last one that lifts all fingers, or all of them. -/
def sinceLift (ps : List Packet) : List Packet := (ps.reverse.takeWhile fun p => !p.isLift).reverse

/-- The usable positions that packets give to a slot. -/
def slotPoints (maxY slot : Nat) (ps : List Packet) : List Point :=
  ps.filterMap (pointFor? maxY slot)

/-- The packets with one finger at a usable position. -/
def singles (maxY : Nat) (ps : List Packet) : List Packet := ps.filter (isSingle maxY)

/-- The number of fingers in the last packet that has a report. -/
def lastFingers? (ps : List Packet) : Option Nat :=
  (ps.filter fun p => p.kind.isDecodable).getLast?.map fun p => p.report.fingers

theorem sinceLift_concat_of_lift (h : p.isLift = true) : sinceLift (ps ++ [p]) = [] := by
  simp [sinceLift, h]

theorem sinceLift_concat (h : p.isLift = false) : sinceLift (ps ++ [p]) = sinceLift ps ++ [p] := by
  simp [sinceLift, h]

@[simp] theorem slotPoints_concat :
    slotPoints maxY slot (ps ++ [p]) =
      slotPoints maxY slot ps ++ (p.pointFor? maxY slot).toList := by
  unfold slotPoints
  rw [List.filterMap_append]
  cases h : p.pointFor? maxY slot <;> simp [h]

@[simp] theorem singles_concat :
    singles maxY (ps ++ [p]) = singles maxY ps ++ if p.isSingle maxY then [p] else [] := by
  simp [singles, List.filter_cons]

@[simp] theorem lastFingers?_concat :
    lastFingers? (ps ++ [p]) =
      if p.kind.isDecodable then some p.report.fingers else lastFingers? ps := by
  unfold lastFingers?
  cases h : p.kind.isDecodable <;> simp [h]

/-- The last packet that has a report is the one behind which none has. -/
theorem exists_of_lastFingers? {n : Nat} (h : lastFingers? ps = some n) :
    ∃ front r back, ps = front ++ r :: back ∧ r.kind.isDecodable = true ∧ r.report.fingers = n ∧
      ∀ s ∈ back, s.kind.isDecodable = false := by
  induction ps using List.reverseRecOn with
  | nil => cases h
  | append_singleton ps p ih =>
    rw [lastFingers?_concat] at h
    split at h
    · next hk => exact ⟨ps, p, [], rfl, hk, Option.some.inj h, by simp⟩
    · next hk =>
      obtain ⟨front, r, back, rfl, hr, hn, hback⟩ := ih h
      refine ⟨front, r, back ++ [p], by simp, hr, hn, ?_⟩
      intro s hs
      rcases List.mem_append.mp hs with hs | hs
      · exact hback s hs
      · rw [List.mem_singleton.mp hs]
        simpa using hk

theorem slot?_of_not_isDecodable (h : p.kind.isDecodable = false) : p.slot? = none := by
  cases hk : p.kind <;> simp_all [PacketKind.isDecodable, slot?]

theorem slot?_of_one (h : p.kind.isDecodable = true) (hf : p.report.fingers = 1) :
    p.slot? = some 0 := by
  cases hk : p.kind <;> simp_all [PacketKind.isDecodable, slot?]

/-- Three fingers are in no slot. -/
theorem slot?_of_crowded (hf : p.report.fingers = 3) : p.slot? = none := by
  cases hk : p.kind <;> simp [slot?, hk, hf]

end Packet

/-! ## Tracks -/

namespace Track

variable {distance : Nat} {q : Point} {qs : List Point}

/-- The track of a finger that was at some positions. -/
def ofPoints (distance : Nat) : List Point → Track
  | [] => {}
  | start :: qs => { start := some start, inRange := qs.all fun q => !q.isBeyond start distance }

/-- A finger landed at its first position. -/
theorem start_ofPoints : (ofPoints distance qs).start = qs.head? := by
  cases qs <;> rfl

/-- The last position is the one to which the finger was moved last. -/
theorem ofPoints_concat :
    ofPoints distance (qs ++ [q]) = (ofPoints distance qs).move distance q := by
  cases qs <;> simp [ofPoints, move]

/-- A finger that has just landed is within its range. -/
theorem inRange_ofPoints_concat :
    (ofPoints distance (qs ++ [q])).inRange =
      ((ofPoints distance qs).inRange &&
        ((ofPoints distance qs).start.isNone || (ofPoints distance (qs ++ [q])).inRange)) := by
  cases qs with
  | nil => rfl
  | cons start qs => simp [ofPoints, Bool.and_self_left]

end Track

/-! ## The gesture -/

namespace Gesture

/-- The gesture that packets leave behind. -/
def ofPackets (maxY : Nat) (config : Config) (ps : List Packet) : Gesture :=
  let distance := min config.tapDistance maxDistance
  let touch := Packet.sinceLift ps
  let first := Track.ofPoints distance (Packet.slotPoints maxY 0 touch)
  let second := Track.ofPoints distance (Packet.slotPoints maxY 1 touch)
  { first
    second
    mayTap := first.inRange && second.inRange
    enabled := config.tapToClick
    distance
    lastFingers := (Packet.lastFingers? ps).getD 0
    lastPoint := (Packet.singles maxY touch).getLast?.map (Packet.point maxY) }

variable {g : Gesture} {q : Point} {qs : List Point}

/-- Following the first finger adds a position to its track. -/
theorem follow_first (hf : g.first = .ofPoints g.distance qs)
    (ht : g.mayTap = (g.first.inRange && g.second.inRange)) :
    g.follow 0 q =
      { g with
        first := .ofPoints g.distance (qs ++ [q])
        mayTap := (Track.ofPoints g.distance (qs ++ [q])).inRange && g.second.inRange } := by
  simp only [follow, track?, setTrack, ht, hf, ← Track.ofPoints_concat]
  rw [Bool.and_right_comm, ← Track.inRange_ofPoints_concat]

/-- Following the second finger adds a position to its track. -/
theorem follow_second (hs : g.second = .ofPoints g.distance qs)
    (ht : g.mayTap = (g.first.inRange && g.second.inRange)) :
    g.follow 1 q =
      { g with
        second := .ofPoints g.distance (qs ++ [q])
        mayTap := g.first.inRange && (Track.ofPoints g.distance (qs ++ [q])).inRange } := by
  simp only [follow, track?, setTrack, ht, hs, ← Track.ofPoints_concat]
  rw [Bool.and_assoc, ← Track.inRange_ofPoints_concat]

end Gesture

namespace Decoder

variable {d : Decoder} {config : Config} {p : Packet} {ps : List Packet}

/-- **A packet keeps the gesture the one that the packets describe.** -/
theorem PacketStep.gesture_eq {g : Gesture} {head : Option Point} {events : List Event}
    (h : PacketStep d p g head events) (hd : d.gesture = .ofPackets d.profile.maxY config ps) :
    g = .ofPackets d.profile.maxY config (ps ++ [p]) := by
  cases h with
  | dropped hk =>
    have hl : p.isLift = false := by simp [Packet.isLift, hk]
    have hs : p.slot? = none := Packet.slot?_of_not_isDecodable hk
    simp [hd, Gesture.ofPackets, Packet.sinceLift_concat hl, Packet.pointFor?, Packet.isSingle,
      hk, hs]
  | lifted hk hf =>
    -- the touch begins anew: there are no positions of it
    have hl : p.isLift = true := by simp [Packet.isLift, hk, hf]
    simp [hd, Gesture.ofPackets, Packet.sinceLift_concat_of_lift hl, Gesture.release,
      Gesture.setFingers, hk, hf, Packet.slotPoints, Packet.singles, Track.ofPoints]
  | moved hk hf hq hu =>
    have hl : p.isLift = false := by simp [Packet.isLift, hf]
    have hs : p.slot? = some 0 := Packet.slot?_of_one hk hf
    rw [Gesture.follow_first (by rw [Gesture.moveTo, hd]; rfl) (by rw [Gesture.moveTo, hd]; rfl),
      hd]
    subst hq
    simp [Gesture.ofPackets, Packet.sinceLift_concat hl, Packet.pointFor?, Packet.isSingle,
      Gesture.setFingers, Gesture.moveTo, hk, hf, hs, hu]
  | lost hk hf hu =>
    have hl : p.isLift = false := by simp [Packet.isLift, hf]
    simp [hd, Gesture.ofPackets, Packet.sinceLift_concat hl, Packet.pointFor?, Packet.isSingle,
      Gesture.setFingers, hk, hf, hu]
  | first hk hf hq =>
    have hl : p.isLift = false := by simp [Packet.isLift, hf]
    have hs : p.slot? = some 0 := by simp [Packet.slot?, hk, hf]
    subst hq
    unfold Gesture.followUsable
    split
    · next hu =>
      rw [Gesture.follow_first (by rw [hd]; rfl) (by rw [hd]; rfl), hd]
      simp [Gesture.ofPackets, Packet.sinceLift_concat hl, Packet.pointFor?, Packet.isSingle,
        Gesture.setFingers, PacketKind.isDecodable, hk, hf, hs, hu]
    · next hu =>
      simp [hd, Gesture.ofPackets, Packet.sinceLift_concat hl, Packet.pointFor?, Packet.isSingle,
        Gesture.setFingers, PacketKind.isDecodable, hk, hf, hu]
  | second hk hf hq =>
    have hl : p.isLift = false := by simp [Packet.isLift, hf]
    have hs : p.slot? = some 1 := by simp [Packet.slot?, hk, hf]
    subst hq
    unfold Gesture.followUsable
    split
    · next hu =>
      rw [Gesture.follow_second (by rw [hd]; rfl) (by rw [hd]; rfl), hd]
      simp [Gesture.ofPackets, Packet.sinceLift_concat hl, Packet.pointFor?, Packet.isSingle,
        Gesture.setFingers, PacketKind.isDecodable, hk, hf, hs, hu]
    · next hu =>
      simp [hd, Gesture.ofPackets, Packet.sinceLift_concat hl, Packet.pointFor?, Packet.isSingle,
        Gesture.setFingers, PacketKind.isDecodable, hk, hf, hu]
  | crowded hk hf =>
    have hl : p.isLift = false := by simp [Packet.isLift, hf]
    have hs : p.slot? = none := Packet.slot?_of_crowded hf
    simp [hd, Gesture.ofPackets, Packet.sinceLift_concat hl, Packet.pointFor?, Packet.isSingle,
      Gesture.setFingers, hk, hf, hs]

/-- **After any packets a new decoder holds the gesture that the packets describe.** -/
theorem gesture_packets {profile : Profile} (h : profile.maxY < 0x40000000) (config : Config)
    (ps : List Packet) :
    ((new profile config).packets ps).gesture = .ofPackets profile.maxY config ps := by
  induction ps using List.reverseRecOn with
  | nil => rfl
  | append_singleton ps p ih =>
    have hprofile : ((new profile config).packets ps).profile = profile := profile_packets _ ps
    have hstep := (packetStep (by rw [hprofile]; exact h) p).gesture_eq (by rw [hprofile]; exact ih)
    rw [packets_concat, hstep, hprofile]

end Decoder

end Touchpad
