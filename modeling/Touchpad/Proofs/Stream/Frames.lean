import Touchpad.Stream.Decoder

/-!
# Streams as sequences of packets

A decoder of the third generation reads a stream in packets of six bytes. This module relates the
byte-wise run of `Decoder.bytes` to a run over packets.

* `Packet.cut` cuts a stream into its packets and leaves an incomplete last one out.
* `Decoder.packets` is the state after packets, each decoded by itself, and `Decoder.eventsOf` is
  what they yield.
* `Decoder.yieldAt` is what the decoder yields while one packet of a stream arrives.

The link between them is `yieldAt_part`: what a decoder between two packets yields for a packet
depends on the bytes before it only through the packets that they make up. `bytes_part` adds that
nothing is yielded elsewhere. Both hold of any part of what is yielded that arriving bytes do not
add to; `yieldAt_events` and `bytes_events` say it of the events.
-/

namespace Touchpad

/-! ## What several steps yield -/

namespace Decoded

@[simp] theorem events_append (a b : Decoded) : (a ++ b).events = a.events ++ b.events := rfl

@[simp] theorem remarks_append (a b : Decoded) : (a ++ b).remarks = a.remarks ++ b.remarks := rfl

@[simp] theorem events_remark (r : Remark) : (remark r).events = [] := rfl

/-- Whether a part of what is yielded adds up over several steps, and arriving bytes have none. -/
structure IsPart {α : Type} (part : Decoded → List α) : Prop where
  nil : part {} = []
  append (a b : Decoded) : part (a ++ b) = part a ++ part b
  arrived (index : Nat) (b : UInt8) : part (remark (.arrived index b)) = []

theorem isPart_events : IsPart events := ⟨rfl, fun _ _ => rfl, fun _ _ => rfl⟩

protected theorem eq {a b : Decoded} (he : a.events = b.events) (hr : a.remarks = b.remarks) :
    a = b := by
  cases a
  cases b
  simp_all

theorem nil_append (a : Decoded) : ({} : Decoded) ++ a = a :=
  Decoded.eq (by simp) (by simp)

theorem append_nil (a : Decoded) : a ++ ({} : Decoded) = a :=
  Decoded.eq (by simp) (by simp)

theorem append_assoc (a b c : Decoded) : a ++ b ++ c = a ++ (b ++ c) :=
  Decoded.eq (by simp) (by simp)

end Decoded

/-! ## Cutting a stream -/

namespace Packet

/-- The packets of a stream, six bytes each. What is left over is not a packet. -/
def cut : List UInt8 → List Packet
  | b0 :: b1 :: b2 :: b3 :: b4 :: b5 :: rest => ⟨b0, b1, b2, b3, b4, b5⟩ :: cut rest
  | _ => []

@[simp] theorem length_toList (p : Packet) : p.toList.length = 6 := rfl

/-- A packet in front of a stream is the first one that is cut off it. -/
@[simp] theorem cut_toList_append (p : Packet) (rest : List UInt8) :
    cut (p.toList ++ rest) = p :: cut rest := rfl

theorem cut_of_length_lt {stream : List UInt8} (h : stream.length < 6) : cut stream = [] := by
  match stream, h with
  | [], _ | [_], _ | [_, _], _ | [_, _, _], _ | [_, _, _, _], _ | [_, _, _, _, _], _ => rfl

/-- A stream with at least six bytes begins with a packet. -/
theorem exists_toList_append {stream : List UInt8} (h : 6 ≤ stream.length) :
    ∃ (p : Packet) (rest : List UInt8), stream = p.toList ++ rest := by
  match stream, h with
  | b0 :: b1 :: b2 :: b3 :: b4 :: b5 :: rest, _ => exact ⟨⟨b0, b1, b2, b3, b4, b5⟩, rest, rfl⟩

/-- **A stream is its packets and fewer than six bytes behind them.** -/
theorem exists_eq_flatMap_cut (stream : List UInt8) :
    ∃ rest, rest.length < 6 ∧ stream = (cut stream).flatMap toList ++ rest := by
  by_cases h : stream.length < 6
  · exact ⟨stream, h, by simp [cut_of_length_lt h]⟩
  · obtain ⟨p, tail, rfl⟩ := exists_toList_append (Nat.le_of_not_lt h)
    obtain ⟨rest, hrest, htail⟩ := exists_eq_flatMap_cut tail
    refine ⟨rest, hrest, ?_⟩
    rw [cut_toList_append, List.flatMap_cons, List.append_assoc, ← htail]
termination_by stream.length

theorem length_flatMap_toList (ps : List Packet) : (ps.flatMap toList).length = 6 * ps.length := by
  induction ps with
  | nil => rfl
  | cons p ps ih =>
    rw [List.flatMap_cons, List.length_append, ih, length_toList, List.length_cons]
    omega

/-- The bytes in front of a packet are those of the packets in front of it. -/
theorem take_eq_flatMap_take {stream : List UInt8} {i : Nat} (h : i ≤ (cut stream).length) :
    stream.take (6 * i) = ((cut stream).take i).flatMap toList := by
  obtain ⟨rest, -, hstream⟩ := exists_eq_flatMap_cut stream
  have hlen : (((cut stream).take i).flatMap toList).length = 6 * i := by
    rw [length_flatMap_toList, List.length_take, Nat.min_eq_left h]
  have hsplit : stream =
      ((cut stream).take i).flatMap toList ++ (((cut stream).drop i).flatMap toList ++ rest) := by
    rw [← List.append_assoc, ← List.flatMap_append, List.take_append_drop, ← hstream]
  conv => lhs; rw [hsplit]
  exact List.take_left' hlen

/-- The six bytes in the place of a packet are the bytes of that packet. -/
theorem take_drop_eq_toList {stream : List UInt8} {i : Nat} {p : Packet}
    (h : (cut stream)[i]? = some p) : (stream.drop (6 * i)).take 6 = p.toList := by
  obtain ⟨hi, hp⟩ := List.getElem?_eq_some_iff.mp h
  have hnext : stream.take (6 * (i + 1)) = stream.take (6 * i) ++ p.toList := by
    rw [take_eq_flatMap_take hi, take_eq_flatMap_take (Nat.le_of_lt hi), List.take_add_one, h]
    simp
  rw [Nat.mul_succ, List.take_add] at hnext
  exact List.append_cancel_left hnext

end Packet

/-! ## The run over packets -/

namespace Decoder

variable {d : Decoder}

/-- The state after some packets, each of which is decoded by itself. -/
def packets (d : Decoder) (ps : List Packet) : Decoder :=
  ps.foldl (fun d p => (d.decodePacket p).1) d

/-- What a decoder yields while the packet number `i` of a stream arrives. -/
def yieldAt (d : Decoder) (stream : List UInt8) (i : Nat) : Decoded :=
  ((d.bytes (stream.take (6 * i))).1.bytes ((stream.drop (6 * i)).take 6)).2

@[simp] theorem packets_nil (d : Decoder) : d.packets [] = d := rfl

@[simp] theorem packets_cons (d : Decoder) (p : Packet) (ps : List Packet) :
    d.packets (p :: ps) = (d.decodePacket p).1.packets ps := rfl

theorem packets_append (d : Decoder) (ps qs : List Packet) :
    d.packets (ps ++ qs) = (d.packets ps).packets qs := List.foldl_append

/-- The last packet is decoded where the others have led. -/
theorem packets_concat (d : Decoder) (ps : List Packet) (p : Packet) :
    d.packets (ps ++ [p]) = ((d.packets ps).decodePacket p).1 := packets_append d ps [p]

/-- The events of some packets, each of which is decoded by itself. -/
def eventsOf (d : Decoder) : List Packet → List Event
  | [] => []
  | p :: ps => (d.decodePacket p).2.events ++ (d.decodePacket p).1.eventsOf ps

@[simp] theorem eventsOf_nil (d : Decoder) : d.eventsOf [] = [] := rfl

@[simp] theorem eventsOf_cons (d : Decoder) (p : Packet) (ps : List Packet) :
    d.eventsOf (p :: ps) = (d.decodePacket p).2.events ++ (d.decodePacket p).1.eventsOf ps := rfl

theorem eventsOf_append (d : Decoder) (ps qs : List Packet) :
    d.eventsOf (ps ++ qs) = d.eventsOf ps ++ (d.packets ps).eventsOf qs := by
  induction ps generalizing d with
  | nil => rfl
  | cons p ps ih =>
    rw [List.cons_append, eventsOf_cons, eventsOf_cons, ih, packets_cons, List.append_assoc]

theorem bytes_cons (d : Decoder) (b : UInt8) (bs : List UInt8) :
    d.bytes (b :: bs) = (((d.byte b).1.bytes bs).1, (d.byte b).2 ++ ((d.byte b).1.bytes bs).2) :=
  rfl

/-- Bytes are decoded one after the other, in two parts as well as at once. -/
theorem bytes_append (d : Decoder) (xs ys : List UInt8) :
    d.bytes (xs ++ ys) =
      (((d.bytes xs).1.bytes ys).1, (d.bytes xs).2 ++ ((d.bytes xs).1.bytes ys).2) := by
  induction xs generalizing d with
  | nil => simp [bytes, Decoded.nil_append]
  | cons b xs ih => simp only [List.cons_append, bytes, ih, Decoded.append_assoc]

/-! ## Bytes of one packet -/

/-- What is logged about bytes that arrive one after the other. -/
def arrivals (d : Decoder) : List UInt8 → Decoded
  | [] => {}
  | b :: bs => d.arrival b ++ arrivals { d with collected := d.collected ++ [b] } bs

/-- What is logged about single bytes has no such part. -/
theorem part_arrivals {α : Type} {part : Decoded → List α} (hpart : Decoded.IsPart part)
    (d : Decoder) (bs : List UInt8) : part (d.arrivals bs) = [] := by
  induction bs generalizing d with
  | nil => exact hpart.nil
  | cons b bs ih =>
    have hb : part (d.arrival b) = [] := by
      unfold arrival
      split
      · exact hpart.arrived _ _
      · exact hpart.nil
    rw [arrivals, hpart.append, hb, ih, List.nil_append]

@[simp] theorem events_arrivals (d : Decoder) (bs : List UInt8) : (d.arrivals bs).events = [] :=
  part_arrivals Decoded.isPart_events d bs

/-- The last byte arrives where the others are pending. -/
theorem arrivals_concat (d : Decoder) (bs : List UInt8) (b : UInt8) :
    d.arrivals (bs ++ [b]) =
      d.arrivals bs ++ ({ d with collected := d.collected ++ bs } : Decoder).arrival b := by
  induction bs generalizing d with
  | nil => simp [arrivals, Decoded.nil_append, Decoded.append_nil]
  | cons c bs ih => simp [arrivals, ih, Decoded.append_assoc]

/-- Bytes that do not complete a packet are collected. -/
theorem bytes_of_incomplete {bs : List UInt8}
    (h : (d.collected ++ bs).length < d.profile.packetSize) :
    d.bytes bs = ({ d with collected := d.collected ++ bs }, d.arrivals bs) := by
  induction bs generalizing d with
  | nil => simp [bytes, arrivals]
  | cons b bs ih =>
    have hb : (d.collected ++ [b]).length < d.profile.packetSize := by
      simp only [List.length_append, List.length_cons, List.length_nil] at h ⊢
      omega
    have hbyte : d.byte b = ({ d with collected := d.collected ++ [b] }, d.arrival b) := by
      simp only [byte, if_pos hb]
    rw [bytes_cons, hbyte, ih (d := { d with collected := d.collected ++ [b] }) (by simpa using h)]
    simp [arrivals]

/-- Bytes that make up a packet are decoded as one. -/
theorem bytes_of_complete {bs : List UInt8} (hc : d.collected = [])
    (h : bs.length = d.profile.packetSize) :
    d.bytes bs = ((d.decode bs).1, d.arrivals bs ++ (d.decode bs).2) := by
  have hpos : 0 < d.profile.packetSize := d.profile.generation.packetSize_pos
  obtain ⟨front, last, rfl⟩ : ∃ front last, bs = front ++ [last] := by
    rcases List.eq_nil_or_concat bs with rfl | ⟨front, last, rfl⟩
    · rw [List.length_nil] at h
      omega
    · exact ⟨front, last, List.concat_eq_append⟩
  rw [List.length_append, List.length_singleton] at h
  have hfront : (d.collected ++ front).length < d.profile.packetSize := by
    rw [hc, List.nil_append]
    omega
  -- the last byte completes the packet, and the decoder is as it was before the first
  have hlast : ({ d with collected := front } : Decoder).byte last =
      ((d.decode (front ++ [last])).1,
        ({ d with collected := front } : Decoder).arrival last ++
          (d.decode (front ++ [last])).2) := by
    have hfull : ¬ (front ++ [last]).length < d.profile.packetSize := by
      simp [h]
    have hsame : ({ d with collected := [] } : Decoder) = d := by rw [← hc]
    simp only [byte, if_neg hfull, hsame]
  rw [bytes_append, bytes_of_incomplete hfront, hc, List.nil_append, bytes_cons, hlast,
    arrivals_concat, hc]
  simp [bytes, Decoded.append_assoc, Decoded.append_nil]

/-! ## Packets of the third generation -/

/-- Whether a decoder reads packets of the third generation and waits for the next one. -/
structure BetweenPackets (d : Decoder) : Prop where
  generation : d.profile.generation = .v3
  collected : d.collected = []

/-- A new decoder of the third generation is between packets. -/
theorem betweenPackets_new {profile : Profile} (h : profile.generation = .v3) (config : Config) :
    (new profile config).BetweenPackets := ⟨h, rfl⟩

/-- A packet changes the gesture and the waiting head, and nothing else. -/
theorem decodePacket_eq (d : Decoder) (p : Packet) :
    (d.decodePacket p).1 =
      { d with gesture := (d.decodePacket p).1.gesture, head := (d.decodePacket p).1.head } := by
  -- each handler writes these two fields only
  unfold decodePacket
  split
  · unfold reportFingers touch liftAll oneFinger twoFingerHead twoFingerTail followUsable
    dsimp only
    split
    · rfl
    · split <;> rfl
    · split
      · split <;> rfl
      · split <;> split <;> rfl
    · rfl
  · rfl

theorem BetweenPackets.decodePacket (h : d.BetweenPackets) (p : Packet) :
    (d.decodePacket p).1.BetweenPackets := by
  rw [decodePacket_eq]
  exact ⟨h.generation, h.collected⟩

theorem profile_packets (d : Decoder) (ps : List Packet) : (d.packets ps).profile = d.profile := by
  induction ps generalizing d with
  | nil => rfl
  | cons p ps ih => rw [packets_cons, ih, decodePacket_eq]

/-- Decoding packets ends between packets. -/
theorem BetweenPackets.packets (h : d.BetweenPackets) (ps : List Packet) :
    (d.packets ps).BetweenPackets := by
  induction ps generalizing d with
  | nil => exact h
  | cons p ps ih => exact ih (h.decodePacket p)

/-- **The six bytes of a packet have the effect of the packet.** -/
theorem bytes_toList (h : d.BetweenPackets) (p : Packet) :
    d.bytes p.toList = ((d.decodePacket p).1, d.arrivals p.toList ++ (d.decodePacket p).2) := by
  have hsize : p.toList.length = d.profile.packetSize := by
    rw [Packet.length_toList, Profile.packetSize, h.generation]
    rfl
  have hdecode : d.decode p.toList = d.decodePacket p := by
    simp only [decode, h.generation, Packet.ofList?_toList]
  rw [bytes_of_complete h.collected hsize, hdecode]

/-- The bytes of packets lead where the packets lead. -/
theorem bytes_flatMap_toList (h : d.BetweenPackets) (ps : List Packet) :
    (d.bytes (ps.flatMap Packet.toList)).1 = d.packets ps := by
  induction ps generalizing d with
  | nil => rfl
  | cons p ps ih =>
    rw [List.flatMap_cons, bytes_append, packets_cons, bytes_toList h, ih (h.decodePacket p)]

theorem bytes_flatMap_toList_events (h : d.BetweenPackets) (ps : List Packet) :
    (d.bytes (ps.flatMap Packet.toList)).2.events = d.eventsOf ps := by
  induction ps generalizing d with
  | nil => rfl
  | cons p ps ih =>
    rw [List.flatMap_cons, bytes_append, eventsOf_cons, bytes_toList h, ← ih (h.decodePacket p)]
    simp

section Parts

variable {α : Type} {part : Decoded → List α}

/-- **What a packet of a stream yields depends on the packets in front of it only.** -/
theorem yieldAt_part (hpart : Decoded.IsPart part) (h : d.BetweenPackets) {stream : List UInt8}
    {i : Nat} {p : Packet} (hp : (Packet.cut stream)[i]? = some p) :
    part (d.yieldAt stream i) =
      part ((d.packets ((Packet.cut stream).take i)).decodePacket p).2 := by
  have hi : i ≤ (Packet.cut stream).length :=
    Nat.le_of_lt (List.getElem?_eq_some_iff.mp hp).1
  rw [yieldAt, Packet.take_eq_flatMap_take hi, Packet.take_drop_eq_toList hp,
    bytes_flatMap_toList h, bytes_toList (h.packets _), hpart.append, part_arrivals hpart,
    List.nil_append]

/-- What the first packets of a stream yield, packet by packet. -/
theorem bytes_take_part (hpart : Decoded.IsPart part) (d : Decoder) (stream : List UInt8)
    (n : Nat) :
    part (d.bytes (stream.take (6 * n))).2 =
      (List.range n).flatMap fun i => part (d.yieldAt stream i) := by
  induction n with
  | zero => exact hpart.nil
  | succ n ih =>
    rw [Nat.mul_succ, List.take_add, bytes_append, hpart.append, ih, List.range_succ,
      List.flatMap_append, List.flatMap_singleton]
    rfl

/-- **A stream yields what its packets yield, one after the other, and nothing else.** -/
theorem bytes_part (hpart : Decoded.IsPart part) (h : d.BetweenPackets) (stream : List UInt8) :
    part (d.bytes stream).2 =
      (List.range (Packet.cut stream).length).flatMap fun i => part (d.yieldAt stream i) := by
  obtain ⟨rest, hrest, hstream⟩ := Packet.exists_eq_flatMap_cut stream
  have htake := Packet.take_eq_flatMap_take (Nat.le_refl (Packet.cut stream).length)
  rw [List.take_length] at htake
  have hnext := h.packets (Packet.cut stream)
  have hlen : ((d.packets (Packet.cut stream)).collected ++ rest).length <
      (d.packets (Packet.cut stream)).profile.packetSize := by
    rw [hnext.collected, List.nil_append, Profile.packetSize, hnext.generation]
    exact hrest
  rw [← bytes_take_part hpart, htake]
  conv => lhs; rw [hstream]
  rw [bytes_append, hpart.append, bytes_flatMap_toList h, bytes_of_incomplete hlen,
    part_arrivals hpart, List.append_nil]

end Parts

/-- The events at a packet are those of decoding it where the packets in front of it have led. -/
theorem yieldAt_events (h : d.BetweenPackets) {stream : List UInt8} {i : Nat} {p : Packet}
    (hp : (Packet.cut stream)[i]? = some p) :
    (d.yieldAt stream i).events =
      ((d.packets ((Packet.cut stream).take i)).decodePacket p).2.events :=
  yieldAt_part Decoded.isPart_events h hp

/-- **A stream has the events of its packets**, in order, and no others. -/
theorem bytes_events (h : d.BetweenPackets) (stream : List UInt8) :
    (d.bytes stream).2.events =
      (List.range (Packet.cut stream).length).flatMap fun i => (d.yieldAt stream i).events :=
  bytes_part Decoded.isPart_events h stream

/-- The events of a stream are those of the packets that it is cut into. -/
theorem bytes_events_eq_eventsOf (h : d.BetweenPackets) (stream : List UInt8) :
    (d.bytes stream).2.events = d.eventsOf (Packet.cut stream) := by
  have htake := Packet.take_eq_flatMap_take (Nat.le_refl (Packet.cut stream).length)
  rw [List.take_length] at htake
  rw [bytes_events h, ← bytes_take_part Decoded.isPart_events, htake,
    bytes_flatMap_toList_events h]

end Decoder

end Touchpad
