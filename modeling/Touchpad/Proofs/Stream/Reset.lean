import Touchpad.Proofs.Stream.Framing
import Touchpad.Proofs.Stream.History

/-!
# Starting over

Once all fingers were lifted, nothing is left of the packets before: a decoder yields for the rest
of its stream what a new decoder yields for it, and ends up in the same state.

* `packets_concat_of_isLift`: the decoder after such a packet is a new one
* `exists_yield_of_ready`: the bytes that earlier packets have left in a buffer do not matter
* `reset_law`: both, for a decoder by itself and for one behind a frame

The packet is cleared away in two steps. The gesture forgets the touch when it is released, and the
number of fingers only afterwards, when the packet has been decoded; the waiting head goes too.
-/

namespace Touchpad

variable {profile : Profile} {config : Config} {lift : Packet}

/-! ## What is left of a touch -/

/-- Packets that end with all fingers lifted describe the gesture before the first touch. -/
theorem Gesture.ofPackets_concat_of_isLift (maxY : Nat) (ps : List Packet)
    (hl : lift.isLift = true) :
    ofPackets maxY config (ps ++ [lift]) = new config.tapToClick config.tapDistance := by
  have htouch : Packet.sinceLift (ps ++ [lift]) = [] := Packet.sinceLift_concat_of_lift hl
  have hfingers : Packet.lastFingers? (ps ++ [lift]) = some 0 := by
    simp only [Packet.isLift, Bool.and_eq_true, beq_iff_eq] at hl
    rw [Packet.lastFingers?_concat, if_pos hl.1, hl.2]
  unfold ofPackets
  rw [htouch, hfingers]
  rfl

namespace Decoder

theorem PacketStep.head_of_isLift {d : Decoder} {g : Gesture} {head : Option Point}
    {events : List Event} (h : PacketStep d lift g head events) (hl : lift.isLift = true) :
    head = none := by
  simp only [Packet.isLift, Bool.and_eq_true, beq_iff_eq] at hl
  cases h with
  | lifted => rfl
  | dropped hk => simp [hk] at hl
  | moved _ hf | lost _ hf | first _ hf | second _ hf | crowded _ hf => omega

/-- Packets change the gesture and the waiting head, and nothing else. -/
theorem packets_eq (d : Decoder) (ps : List Packet) :
    d.packets ps =
      { d with gesture := (d.packets ps).gesture, head := (d.packets ps).head } := by
  induction ps generalizing d with
  | nil => rfl
  | cons p ps ih =>
    rw [packets_cons]
    refine (ih (d.decodePacket p).1).trans ?_
    congr 1 <;> rw [decodePacket_eq]

/-- **A packet that lifts all fingers leaves a new decoder behind.** -/
theorem packets_concat_of_isLift (hy : profile.maxY < 0x40000000) (config : Config)
    (ps : List Packet) (hl : lift.isLift = true) :
    (new profile config).packets (ps ++ [lift]) = new profile config := by
  have hg : ((new profile config).packets (ps ++ [lift])).gesture =
      (new profile config).gesture := by
    rw [gesture_packets hy, Gesture.ofPackets_concat_of_isLift _ _ hl]
    rfl
  have hh : ((new profile config).packets (ps ++ [lift])).head = none := by
    have hprofile : ((new profile config).packets ps).profile = profile := profile_packets _ ps
    rw [packets_concat]
    exact (packetStep (by rw [hprofile]; exact hy) lift).head_of_isLift hl
  rw [packets_eq, hg, hh]
  rfl

/-! ## What is left in a buffer -/

/-- Decoding behind a frame, with what is remarked about the packets put down beside it. -/
def noting (s : Decoder × List Remark) (block : List UInt8) :
    Except Fault ((Decoder × List Remark) × List Event) :=
  .ok (((s.1.decode block).1, s.2 ++ (s.1.decode block).2.remarks), (s.1.decode block).2.events)

/-- Noting the remarks on the way changes nothing. -/
theorem feed_noting (s : Decoder × List Remark) (bs : List (List UInt8)) :
    feed noting s bs =
      .ok (((s.1.blockwise bs).1, s.2 ++ (s.1.blockwise bs).2.remarks),
        (s.1.blockwise bs).2.events) := by
  induction bs generalizing s with
  | nil =>
    rw [feed, blockwise, List.append_nil]
  | cons block bs ih =>
    rw [feed_cons_of_ok rfl, ih, blockwise_cons]
    show Except.ok _ = _
    rw [List.append_assoc]
    rfl

/-- What a frame yields does not depend on the bytes that earlier packets have left in it. -/
theorem exists_yield_of_ready {used fresh : Frame} (h : used.Ready) (h0 : used.filled = 0)
    (hf : fresh.Ready) (hf0 : fresh.filled = 0) (hsize : used.size = fresh.size)
    (s : Decoder × List Remark) (stream : List UInt8) :
    ∃ final final' events,
      Framed.bytes noting ⟨used, s⟩ stream = .ok (final, events) ∧
      Framed.bytes noting ⟨fresh, s⟩ stream = .ok (final', events) ∧
      final.inner = final'.inner ∧ final.frame.filled = final'.frame.filled := by
  have hused := Framed.bytes_eq_feed_blocks noting h h0 s stream
  have hfresh := Framed.bytes_eq_feed_blocks noting hf hf0 s stream
  -- both are what the blocks of the stream yield by themselves
  rw [hsize, feed_noting] at hused
  rw [feed_noting] at hfresh
  obtain ⟨⟨final, events⟩, hfinal, heq⟩ := exists_of_map_eq_ok hused
  obtain ⟨⟨final', events'⟩, hfinal', heq'⟩ := exists_of_map_eq_ok hfresh
  obtain ⟨hinner, hfilled, hevents⟩ : final.inner = final'.inner ∧
      final.frame.filled = final'.frame.filled ∧ events = events' := by
    simpa only [Prod.mk.injEq] using heq.trans heq'.symm
  subst hevents
  exact ⟨final, final', events, hfinal, hfinal', hinner, hfilled⟩

/-! ## Streams -/

/-- A stream of whole packets leaves nothing over. -/
theorem blockwise_blocks_of_whole {d : Decoder} {stream : List UInt8} (hc : d.collected = [])
    (h : stream.length % d.profile.packetSize = 0) :
    (d.blockwise (blocks d.profile.packetSize stream)).1 = (d.bytes stream).1 := by
  have hpos : 0 < d.profile.packetSize := d.profile.generation.packetSize_pos
  obtain ⟨rest, hstream, hrest, hall⟩ := exists_eq_flatten_blocks hpos stream
  obtain rfl : rest = [] := List.eq_nil_of_length_eq_zero (hrest.trans h)
  rw [List.append_nil] at hstream
  rw [← (bytes_flatten hc hall).1, ← hstream]

/--
**A stream whose packets end with all fingers lifted** leaves a decoder behind that is equal to a
new one, so that the rest of the stream yields the same events and the same remarks, among them the
pairs of two fingers, and ends in the same state as with a new decoder. Behind a frame, whose buffer
still holds the bytes of the last packet, nothing of that shows either.
-/
theorem reset_law (h3 : profile.generation = .v3) (hy : profile.maxY < 0x40000000)
    (config : Config) (before : List Packet) (hl : lift.isLift = true) :
    let size := profile.packetSize
    let fresh := Decoder.new profile config
    let stream := (before ++ [lift]).flatMap Packet.toList
    (∀ rest, (fresh.bytes (stream ++ rest)).1 = (fresh.bytes rest).1 ∧
      (fresh.bytes (stream ++ rest)).2 = (fresh.bytes stream).2 ++ (fresh.bytes rest).2) ∧
    ∃ used yielded,
      Framed.bytes noting ⟨Frame.new size, (fresh, [])⟩ stream = .ok (used, yielded) ∧
      used.inner.1 = fresh ∧
      ∀ rest, ∃ final final' events,
        Framed.bytes noting ⟨used.frame, (used.inner.1, [])⟩ rest = .ok (final, events) ∧
        Framed.bytes noting ⟨Frame.new size, (fresh, [])⟩ rest = .ok (final', events) ∧
        final.inner = final'.inner ∧ final.frame.filled = final'.frame.filled := by
  intro size fresh stream
  have hstate : (fresh.bytes stream).1 = fresh := by
    rw [bytes_flatMap_toList (betweenPackets_new h3 config)]
    exact packets_concat_of_isLift hy config before hl
  refine ⟨fun rest => ?_, ?_⟩
  · rw [bytes_append, hstate]
    exact ⟨rfl, rfl⟩
  · have hsize : (Frame.new size).size = size :=
      Frame.size_new profile.generation.packetSize_pos (packetSize_le_capacity profile)
    have hwhole : stream.length % size = 0 := by
      show ((before ++ [lift]).flatMap Packet.toList).length % profile.packetSize = 0
      rw [Packet.length_flatMap_toList, Profile.packetSize, h3]
      exact Nat.mul_mod_right 6 _
    have hview := Framed.bytes_eq_feed_blocks noting (Frame.ready_new size) rfl (fresh, []) stream
    rw [hsize, hwhole, feed_noting] at hview
    obtain ⟨⟨used, yielded⟩, hbytes, heq⟩ := exists_of_map_eq_ok hview
    obtain ⟨hinner, hfilled, -⟩ := by simpa only [Prod.mk.injEq] using heq
    obtain ⟨hready, hused⟩ := Framed.ready_of_bytes noting (Frame.ready_new size) hbytes
    have hfresh : used.inner.1 = fresh := by
      rw [hinner]
      exact (blockwise_blocks_of_whole rfl hwhole).trans hstate
    refine ⟨used, yielded, hbytes, hfresh, fun rest => ?_⟩
    rw [hfresh]
    exact exists_yield_of_ready hready hfilled (Frame.ready_new size) rfl hused (fresh, []) rest

/-- The first of two fingers is forgotten when all are lifted before the second is reported. -/
theorem reset_law_behind_a_waiting_head :
    let profile := { Profile.ofGeneration .v3 0x450f01 with bounds := ⟨0, 1470, 0, 700⟩ }
    let head : Packet := ⟨0x84, 0, 50, 0x02, 0, 50⟩
    let lift : Packet := ⟨0x04, 0, 0, 0x02, 0, 0⟩
    let tail : Packet := ⟨0x8c, 0, 60, 0x0c, 0, 60⟩
    let fresh := Decoder.new profile {}
    let stream := ([head] ++ [lift]).flatMap Packet.toList
    profile.generation = .v3 ∧ profile.maxY < 0x40000000 ∧ lift.isLift = true ∧
      (fresh.bytes (stream ++ tail.toList)).1 = (fresh.bytes tail.toList).1 ∧
      (fresh.bytes (stream ++ tail.toList)).2.remarks = (fresh.bytes stream).2.remarks ++
        [.gesture (.landed 1 ⟨60, 640⟩), .report tail.report .origin ⟨60, 640⟩] := by
  intro profile head lift tail fresh stream
  have hl : lift.isLift = true := by decide
  have hlaw := reset_law (show profile.generation = .v3 from rfl) (by decide) {} [head] hl
  obtain ⟨hstate, hyield⟩ := hlaw.1 tail.toList
  refine ⟨rfl, by decide, hl, hstate, ?_⟩
  have htail : (fresh.bytes tail.toList).2.remarks =
      [.gesture (.landed 1 ⟨60, 640⟩), .report tail.report .origin ⟨60, 640⟩] := by decide
  rw [hyield, Decoded.remarks_append, htail]

end Decoder

end Touchpad
