import Touchpad.Proofs.Stream.Blocks
import Touchpad.Proofs.Stream.PacketStep

/-!
# Streams in chunks

How a stream is cut into chunks on its way to a decoder makes no difference. Blocks of the size of a
packet are decoded one after the other, each by itself, and what is left of the stream waits.

* `Decoder.chunks`: chunks, one after the other
* `Decoder.blockwise`: blocks, each decoded by itself
* `chunks_eq`, `bytes_eq_blockwise`: what a decoder makes of chunks and of a stream
* `framing_law`: the same for a decoder behind a buffer that is used again for every packet

This holds for all generations. Only the third yields events; for the others nothing ever happens
to the gesture.
-/

namespace Touchpad

namespace Decoder

variable {d : Decoder} {block : List UInt8}

/-! ## Chunks -/

/-- Takes chunks of bytes one after the other. -/
def chunks (d : Decoder) : List (List UInt8) → Decoder × Decoded
  | [] => (d, {})
  | chunk :: rest =>
    let (next, decoded) := d.bytes chunk
    let (last, others) := next.chunks rest
    (last, decoded ++ others)

/-- **Chunks do not matter**, neither to the events nor to what is logged. -/
theorem chunks_eq (d : Decoder) (cs : List (List UInt8)) : d.chunks cs = d.bytes cs.flatten := by
  induction cs generalizing d with
  | nil => rfl
  | cons chunk cs ih => simp only [chunks, List.flatten_cons, bytes_append, ih]

/-! ## A single block -/

/-- A block changes the gesture and the waiting head, and nothing else. -/
theorem decode_eq (d : Decoder) (block : List UInt8) :
    (d.decode block).1 =
      { d with gesture := (d.decode block).1.gesture, head := (d.decode block).1.head } := by
  unfold decode
  split
  · split <;> rfl
  · split
    · exact decodePacket_eq d _
    · rfl
  · rfl
  · rfl

theorem profile_decode (d : Decoder) (block : List UInt8) :
    (d.decode block).1.profile = d.profile := by
  rw [decode_eq]

theorem collected_decode (d : Decoder) (block : List UInt8) :
    (d.decode block).1.collected = d.collected := by
  rw [decode_eq]

/-- Only the third generation decodes its blocks, whatever their parity. -/
theorem decode_of_ne_v3 (h : d.profile.generation ≠ .v3) (block : List UInt8) :
    (d.decode block).1 = d ∧ (d.decode block).2.events = [] := by
  unfold decode
  split
  · split <;> exact ⟨rfl, rfl⟩
  · next h3 => exact absurd h3 h
  · exact ⟨rfl, rfl⟩
  · exact ⟨rfl, rfl⟩

theorem length_oneFinger_events_le (d : Decoder) (r : FingerReport) (q : Point) :
    (d.oneFinger r q).2.events.length ≤ 1 := by
  cases hu : q.isUsable with
  | true =>
    rw [(oneFinger_of_usable hu r).2.2, List.length_map]
    cases d.gesture.delta q <;> simp
  | false => simp [oneFinger_of_unusable hu]

/-- A finger report yields one event at most. -/
theorem length_touch_events_le (d : Decoder) (kind : PacketKind) (r : FingerReport) :
    (d.touch kind r).2.1.events.length ≤ 1 := by
  unfold touch
  dsimp only
  split
  · exact Nat.le_refl 1
  · exact length_oneFinger_events_le d r _
  · split
    · simp [twoFingerHead, followUsable_events]
    · simp [twoFingerTail_events]
  · exact Nat.zero_le 1

/-- **A block yields at most one event.** -/
theorem length_decode_events_le (d : Decoder) (block : List UInt8) :
    (d.decode block).2.events.length ≤ 1 := by
  cases hg : d.profile.generation with
  | v3 =>
    simp only [decode, hg]
    split
    · next p _ =>
      unfold decodePacket
      split
      · rw [reportFingers_events]
        exact length_touch_events_le d p.kind p.report
      · exact Nat.zero_le 1
    · exact Nat.zero_le 1
  | v1 | v2 | v4 =>
    have hne : d.profile.generation ≠ .v3 := by simp [hg]
    rw [(decode_of_ne_v3 hne block).2]
    exact Nat.zero_le 1

/-! ## Blocks -/

/-- Decodes blocks one after the other, each by itself. -/
def blockwise (d : Decoder) : List (List UInt8) → Decoder × Decoded
  | [] => (d, {})
  | block :: rest =>
    let (next, decoded) := d.decode block
    let (last, others) := next.blockwise rest
    (last, decoded ++ others)

theorem blockwise_cons (d : Decoder) (block : List UInt8) (rest : List (List UInt8)) :
    d.blockwise (block :: rest) =
      (((d.decode block).1.blockwise rest).1,
        (d.decode block).2 ++ ((d.decode block).1.blockwise rest).2) := rfl

theorem profile_blockwise (d : Decoder) (bs : List (List UInt8)) :
    (d.blockwise bs).1.profile = d.profile := by
  induction bs generalizing d with
  | nil => rfl
  | cons block bs ih => rw [blockwise_cons, ih, profile_decode]

theorem collected_blockwise (d : Decoder) (bs : List (List UInt8)) :
    (d.blockwise bs).1.collected = d.collected := by
  induction bs generalizing d with
  | nil => rfl
  | cons block bs ih => rw [blockwise_cons, ih, collected_decode]

/-- The other generations have no events and no state that changes. -/
theorem blockwise_of_ne_v3 (h : d.profile.generation ≠ .v3) (bs : List (List UInt8)) :
    (d.blockwise bs).1 = d ∧ (d.blockwise bs).2.events = [] := by
  induction bs with
  | nil => exact ⟨rfl, rfl⟩
  | cons block bs ih =>
    obtain ⟨hd, he⟩ := decode_of_ne_v3 h block
    rw [blockwise_cons, hd, Decoded.events_append, he, ih.2]
    exact ⟨ih.1, rfl⟩

/-- Bytes that make up whole blocks are decoded block by block. -/
theorem bytes_flatten (hc : d.collected = []) {bs : List (List UInt8)}
    (h : ∀ block ∈ bs, block.length = d.profile.packetSize) :
    (d.bytes bs.flatten).1 = (d.blockwise bs).1 ∧
      (d.bytes bs.flatten).2.events = (d.blockwise bs).2.events := by
  induction bs generalizing d with
  | nil => exact ⟨rfl, rfl⟩
  | cons block bs ih =>
    have hblock := bytes_of_complete hc (h block List.mem_cons_self)
    obtain ⟨hstate, hevents⟩ := ih (d := (d.decode block).1) (by rw [collected_decode, hc])
      fun b hb => by rw [profile_decode, h b (List.mem_cons_of_mem block hb)]
    rw [List.flatten_cons, bytes_append, hblock, blockwise_cons]
    refine ⟨hstate, ?_⟩
    simp [hevents]

/-- **A stream is decoded block by block**, and what is left of it waits. -/
theorem bytes_eq_blockwise (hc : d.collected = []) (stream : List UInt8) :
    (d.bytes stream).2.events =
        (d.blockwise (blocks d.profile.packetSize stream)).2.events ∧
      (d.bytes stream).1.gesture =
        (d.blockwise (blocks d.profile.packetSize stream)).1.gesture ∧
      (d.bytes stream).1.pending = stream.length % d.profile.packetSize := by
  have hpos : 0 < d.profile.packetSize := d.profile.generation.packetSize_pos
  obtain ⟨rest, hstream, hrest, hall⟩ := exists_eq_flatten_blocks hpos stream
  obtain ⟨hstate, hevents⟩ := bytes_flatten hc hall
  have hlast : (d.blockwise (blocks d.profile.packetSize stream)).1.collected = [] := by
    rw [collected_blockwise, hc]
  have hlt : ((d.blockwise (blocks d.profile.packetSize stream)).1.collected ++ rest).length <
      (d.blockwise (blocks d.profile.packetSize stream)).1.profile.packetSize := by
    rw [hlast, List.nil_append, profile_blockwise, hrest]
    exact Nat.mod_lt _ hpos
  have hbytes : d.bytes stream =
      (((d.blockwise (blocks d.profile.packetSize stream)).1.bytes rest).1,
        (d.bytes (blocks d.profile.packetSize stream).flatten).2 ++
          ((d.blockwise (blocks d.profile.packetSize stream)).1.bytes rest).2) := by
    conv => lhs; rw [hstream]
    rw [bytes_append, hstate]
  rw [hbytes, bytes_of_incomplete hlt, Decoded.events_append, hevents, events_arrivals,
    List.append_nil, pending, hlast, List.nil_append]
  exact ⟨rfl, rfl, hrest⟩

/-- **Chunks of any sizes are decoded like the blocks that their bytes make up.** -/
theorem chunks_eq_blockwise (hc : d.collected = []) (cs : List (List UInt8)) :
    let alone := d.blockwise (blocks d.profile.packetSize cs.flatten)
    (d.chunks cs).2.events = alone.2.events ∧
      (d.chunks cs).1.gesture = alone.1.gesture ∧
      (d.chunks cs).1.pending = cs.flatten.length % d.profile.packetSize := by
  rw [chunks_eq]
  exact bytes_eq_blockwise hc cs.flatten

/-! ## Behind a frame -/

/-- Decoding as something to do with a complete packet. It is never a fault. -/
def handle (d : Decoder) (block : List UInt8) : Except Fault (Decoder × List Event) :=
  .ok ((d.decode block).1, (d.decode block).2.events)

/-- Handling blocks one by one never fails. -/
theorem feed_handle (d : Decoder) (bs : List (List UInt8)) :
    feed handle d bs = .ok ((d.blockwise bs).1, (d.blockwise bs).2.events) := by
  induction bs generalizing d with
  | nil => rfl
  | cons block bs ih =>
    rw [feed_cons_of_ok rfl, ih]
    rfl

theorem packetSize_le_capacity (p : Profile) : p.packetSize ≤ Frame.capacity := by
  cases h : p.generation <;> simp [Profile.packetSize, Generation.packetSize, Frame.capacity, h]

theorem exists_of_map_eq_ok {ε α β : Type} {f : α → β} {x : Except ε α} {b : β}
    (h : x.map f = .ok b) : ∃ a, x = .ok a ∧ f a = b := by
  cases x with
  | error cause => cases h
  | ok a => exact ⟨a, rfl, Except.ok.inj h⟩

/-- What a fresh frame in front of a state makes of chunks, if their packets are no fault. -/
theorem exists_framed {σ : Type} {handle : σ → List UInt8 → Except Fault (σ × List Event)}
    (p : Profile) {s last : σ} {cs : List (List UInt8)} {events : List Event}
    (h : feed handle s (blocks p.packetSize cs.flatten) = .ok (last, events)) :
    ∃ final, Framed.chunks handle ⟨Frame.new p.packetSize, s⟩ cs = .ok (final, events) ∧
      final.inner = last ∧ final.frame.filled = cs.flatten.length % p.packetSize := by
  have hsize : (Frame.new p.packetSize).size = p.packetSize :=
    Frame.size_new p.generation.packetSize_pos (packetSize_le_capacity p)
  have hbytes :=
    Framed.bytes_eq_feed_blocks handle (Frame.ready_new p.packetSize) rfl s cs.flatten
  rw [← Framed.chunks_eq, hsize, h] at hbytes
  obtain ⟨⟨final, events'⟩, hfinal, heq⟩ := exists_of_map_eq_ok hbytes
  obtain ⟨rfl, hfilled, rfl⟩ : final.inner = last ∧ final.frame.filled = _ ∧ events' = events := by
    simpa only [Prod.mk.injEq] using heq
  exact ⟨final, hfinal, rfl, hfilled⟩

/--
**Chunks of a stream.** The stream that the chunks make up consists of blocks of the size of a
packet and of less than a block behind them. A new decoder yields what these blocks yield, one after
the other and each decoded by itself; it ends with the gesture that they leave behind, and with as
many bytes as are left over. A decoder behind a frame, whose buffer keeps the bytes of earlier
packets, does the same and never leaves the buffer. A block yields one event at most, and none
outside the third generation, where the gesture does not change either.
-/
theorem framing_law (profile : Profile) (config : Config) (cs : List (List UInt8)) :
    let size := profile.packetSize
    let stream := cs.flatten
    let fresh := Decoder.new profile config
    let alone := fresh.blockwise (blocks size stream)
    (∃ rest, stream = (blocks size stream).flatten ++ rest ∧ rest.length = stream.length % size ∧
      ∀ block ∈ blocks size stream, block.length = size) ∧
    ((fresh.chunks cs).2.events = alone.2.events ∧
      (fresh.chunks cs).1.gesture = alone.1.gesture ∧
      (fresh.chunks cs).1.pending = stream.length % size) ∧
    (∃ final, Framed.chunks handle ⟨Frame.new size, fresh⟩ cs = .ok (final, alone.2.events) ∧
      final.inner.gesture = alone.1.gesture ∧ final.frame.filled = stream.length % size) ∧
    (∀ i block, (blocks size stream)[i]? = some block →
      ((fresh.blockwise ((blocks size stream).take i)).1.decode block).2.events.length ≤ 1) ∧
    (profile.generation ≠ .v3 → alone.2.events = [] ∧ alone.1.gesture = fresh.gesture) := by
  intro size stream fresh alone
  refine ⟨exists_eq_flatten_blocks profile.generation.packetSize_pos stream, ?_, ?_, ?_, ?_⟩
  · exact chunks_eq_blockwise (d := fresh) rfl cs
  · obtain ⟨final, hchunks, hinner, hfilled⟩ :=
      exists_framed profile (feed_handle fresh (blocks size stream))
    exact ⟨final, hchunks, congrArg Decoder.gesture hinner, hfilled⟩
  · intro i block _
    exact length_decode_events_le _ block
  · intro h
    obtain ⟨hstate, hevents⟩ := blockwise_of_ne_v3 (d := fresh) h (blocks size stream)
    exact ⟨hevents, congrArg Decoder.gesture hstate⟩

end Decoder

end Touchpad
