import Touchpad.Proofs.Stream.Bounds
import Touchpad.Proofs.Stream.History

/-!
# Samples of two fingers

Two fingers are reported by a head packet and a tail packet, with anything in between. A head waits
until the next head or tail of two fingers, or until all fingers are lifted, and a tail that comes
while a head waits makes a sample with it.

* `Decoder.PairStep`: what a packet makes of the waiting head, and the samples it yields
* `Packet.Waits`: the head that waits in front of a packet, said of the packets alone
* `Decoder.sample_law`: the samples of a stream
-/

namespace Touchpad

/-! ## Samples -/

/-- The two positions of a sample. -/
def Remark.sample? : Remark → Option (Point × Point)
  | twoFingers first second => some (first, second)
  | _ => none

/-- The samples among the remarks. -/
def Decoded.samples (d : Decoded) : List (Point × Point) := d.remarks.filterMap Remark.sample?

namespace Decoded

theorem mem_samples {d : Decoded} {first second : Point} :
    (first, second) ∈ d.samples ↔ .twoFingers first second ∈ d.remarks := by
  unfold samples
  rw [List.mem_filterMap]
  constructor
  · rintro ⟨r, hr, hsample⟩
    cases r <;> cases hsample
    exact hr
  · exact fun h => ⟨_, h, rfl⟩

theorem samples_append (a b : Decoded) : (a ++ b).samples = a.samples ++ b.samples :=
  List.filterMap_append

theorem isPart_samples : IsPart samples := ⟨rfl, samples_append, fun _ _ => rfl⟩

theorem samples_gesture (events : List Event) (rs : List GestureRemark) :
    samples { events, remarks := rs.map .gesture } = [] := by
  simp [samples, Remark.sample?]

end Decoded

/-! ## Heads and tails -/

namespace Packet

variable {ps : List Packet} {p head tail : Packet} {i j k : Nat}

/-- Whether a packet reports the first of two fingers. -/
def isFirst (p : Packet) : Bool := p.kind == .head && p.report.fingers == 2

/-- Whether a packet reports the second of two fingers. -/
def isSecond (p : Packet) : Bool := p.kind == .tail && p.report.fingers == 2

/-- Whether a packet lets a head wait on: no finger is lifted, and there are not two of them. -/
structure Bystands (p : Packet) : Prop where
  not_lift : ¬ p.isLift
  not_first : ¬ p.isFirst
  not_second : ¬ p.isSecond

/-- A packet that is not decoded is no matter to a waiting head. -/
theorem bystands_of_not_isDecodable (h : p.kind.isDecodable = false) : p.Bystands := by
  cases hk : p.kind with
  | unknown | debounce =>
    exact ⟨by simp [isLift, h], by simp [Packet.isFirst, hk], by simp [isSecond, hk]⟩
  | head | tail =>
    rw [hk] at h
    cases h

theorem bystands_of_fingers (h0 : p.report.fingers ≠ 0) (h2 : p.report.fingers ≠ 2) :
    p.Bystands :=
  ⟨by simp [isLift, h0], by simp [Packet.isFirst, h2], by simp [isSecond, h2]⟩

theorem not_of_isLift (h : p.isLift) : ¬ p.isFirst ∧ ¬ p.isSecond := by
  unfold isLift at h
  simp only [Bool.and_eq_true, beq_iff_eq] at h
  simp [isFirst, isSecond, h.2]

theorem not_isSecond_of_isFirst (h : p.isFirst) : ¬ p.isSecond := by
  unfold isFirst at h
  simp only [Bool.and_eq_true, beq_iff_eq] at h
  simp [isSecond, h.1]

/-- Whether the head at place `j` waits when the packet at place `i` comes. -/
structure Waits (ps : List Packet) (j i : Nat) (head : Packet) : Prop where
  lt : j < i
  packet : ps[j]? = some head
  first : head.isFirst
  between : ∀ k p, j < k → k < i → ps[k]? = some p → p.Bystands

/-- Whether the tail at place `i` belongs to the head at place `j`. -/
structure Pairs (ps : List Packet) (j i : Nat) (head tail : Packet) : Prop
    extends Waits ps j i head where
  tail_packet : ps[i]? = some tail
  second : tail.isSecond

/--
A head waits behind a packet if it is that packet, or if it waited in front of one that is no matter
to it.
-/
theorem waits_succ_iff (hp : ps[i]? = some p) :
    Waits ps j (i + 1) head ↔
      j = i ∧ head = p ∧ p.isFirst ∨ Waits ps j i head ∧ p.Bystands := by
  constructor
  · intro h
    rcases Nat.lt_or_eq_of_le (Nat.le_of_lt_succ h.lt) with hlt | rfl
    · right
      refine ⟨⟨hlt, h.packet, h.first, ?_⟩, h.between i p hlt (Nat.lt_succ_self i) hp⟩
      intro k q hjk hki hq
      exact h.between k q hjk (Nat.lt_succ_of_lt hki) hq
    · left
      obtain rfl : head = p := Option.some.inj (h.packet.symm.trans hp)
      exact ⟨rfl, rfl, h.first⟩
  · rintro (⟨rfl, rfl, hf⟩ | ⟨h, hquiet⟩)
    · refine ⟨Nat.lt_succ_self j, hp, hf, ?_⟩
      intro k q hjk hki
      omega
    · refine ⟨Nat.lt_succ_of_lt h.lt, h.packet, h.first, ?_⟩
      intro k q hjk hki hq
      rcases Nat.lt_or_eq_of_le (Nat.le_of_lt_succ hki) with hlt | rfl
      · exact h.between k q hjk hlt hq
      · obtain rfl : q = p := Option.some.inj (hq.symm.trans hp)
        exact hquiet

/-- A head that has made a sample does not make a later one. -/
theorem Pairs.not_later {i' : Nat} {head' tail' : Packet} (h : Pairs ps j i head tail)
    (h' : Pairs ps j i' head' tail') : ¬ i < i' := by
  intro hlt
  have hb : tail.Bystands := h'.between i tail h.lt hlt h.tail_packet
  exact hb.not_second h.second

/-- **A head belongs to one tail at most.** -/
theorem Pairs.unique {i' : Nat} {head' tail' : Packet} (h : Pairs ps j i head tail)
    (h' : Pairs ps j i' head' tail') : i = i' :=
  Nat.le_antisymm (Nat.not_lt.mp (h'.not_later h)) (Nat.not_lt.mp (h.not_later h'))

/-- **Behind a release or a tail** a head comes first, and then its tail. -/
theorem Pairs.exists_first (h : Pairs ps j i head tail) (hki : k < i) (hp : ps[k]? = some p)
    (hend : p.isLift ∨ p.isSecond) :
    ∃ m q, k < m ∧ m < i ∧ ps[m]? = some q ∧ q.isFirst := by
  rcases Nat.lt_trichotomy j k with hjk | rfl | hkj
  · have hb : p.Bystands := h.between k p hjk hki hp
    rcases hend with hl | hs
    · exact absurd hl hb.not_lift
    · exact absurd hs hb.not_second
  · obtain rfl : head = p := Option.some.inj (h.packet.symm.trans hp)
    rcases hend with hl | hs
    · exact absurd h.first (not_of_isLift hl).1
    · exact absurd hs (not_isSecond_of_isFirst h.first)
  · exact ⟨j, head, hkj, h.lt, h.packet, h.first⟩

end Packet

namespace Decoder

variable {d : Decoder} {p : Packet}

/-- What a packet makes of the waiting head, and the samples that it yields. -/
inductive PairStep (d : Decoder) (p : Packet) : Option Point → List (Point × Point) → Prop where
  | lifted (hl : p.isLift) : PairStep d p none []
  | first (hf : p.isFirst) : PairStep d p (some (d.position p.report)) []
  | second (hs : p.isSecond) :
      PairStep d p none (d.head.toList.map fun first => (first, d.position p.report))
  | bystander (hp : p.Bystands) : PairStep d p d.head []

namespace PairStep

variable {head : Option Point} {samples : List (Point × Point)} {q first second : Point}

/-- Where the waiting head behind a packet comes from. -/
theorem head_eq_some_iff (h : PairStep d p head samples) :
    head = some q ↔ p.isFirst ∧ q = d.position p.report ∨ p.Bystands ∧ d.head = some q := by
  cases h with
  | lifted hl =>
    refine iff_of_false nofun ?_
    rintro (⟨hf, -⟩ | ⟨hb, -⟩)
    · exact (Packet.not_of_isLift hl).1 hf
    · exact hb.not_lift hl
  | first hf =>
    rw [or_iff_left fun hb => hb.1.not_first hf, and_iff_right hf, Option.some.injEq, eq_comm]
  | second hs =>
    refine iff_of_false nofun ?_
    rintro (⟨hf, -⟩ | ⟨hb, -⟩)
    · exact Packet.not_isSecond_of_isFirst hf hs
    · exact hb.not_second hs
  | bystander hb => rw [or_iff_right fun hf => hb.not_first hf.1, and_iff_right hb]

/-- A packet has a sample if it is a tail and a head waits. -/
theorem mem_samples_iff (h : PairStep d p head samples) :
    (first, second) ∈ samples ↔
      p.isSecond ∧ d.head = some first ∧ second = d.position p.report := by
  cases h with
  | lifted hl => exact iff_of_false List.not_mem_nil fun hs => (Packet.not_of_isLift hl).2 hs.1
  | first hf =>
    exact iff_of_false List.not_mem_nil fun hs => Packet.not_isSecond_of_isFirst hf hs.1
  | second hs =>
    rw [and_iff_right hs]
    simp [eq_comm]
  | bystander hb => exact iff_of_false List.not_mem_nil fun hs => hb.not_second hs.1

theorem length_samples_le (h : PairStep d p head samples) : samples.length ≤ 1 := by
  cases h with
  | lifted | first | bystander => exact Nat.zero_le 1
  | second =>
    rw [List.length_map]
    exact Option.length_toList_le

end PairStep

theorem reportFingers_samples (d : Decoder) (kind : PacketKind) (r : FingerReport) :
    (d.reportFingers kind r).2.samples = (d.touch kind r).2.1.samples := by
  unfold reportFingers
  dsimp only
  split
  · exact (Decoded.samples_append _ _).trans (List.append_nil _)
  · rfl

theorem followUsable_samples (d : Decoder) (slot : Nat) (q : Point) :
    (d.followUsable slot q).2.samples = [] := by
  unfold followUsable
  split
  · exact Decoded.samples_gesture [] _
  · rfl

theorem oneFinger_head (d : Decoder) (r : FingerReport) (q : Point) :
    (d.oneFinger r q).1.head = d.head := by
  unfold oneFinger
  split
  · exact followUsable_head _ 0 q
  · rfl

theorem oneFinger_samples (d : Decoder) (r : FingerReport) (q : Point) :
    (d.oneFinger r q).2.samples = [] := by
  unfold oneFinger
  split
  · exact followUsable_samples _ 0 q
  · rfl

/-- A tail makes a sample with the head that waits. -/
theorem twoFingerTail_samples (d : Decoder) (q : Point) :
    (d.twoFingerTail q).2.samples = d.head.toList.map fun first => (first, q) := by
  unfold twoFingerTail
  dsimp only
  split
  · next hnone =>
    rw [followUsable_samples, hnone]
    rfl
  · next first hsome =>
    rw [Decoded.samples_append, followUsable_samples, hsome]
    rfl

/-- **What a packet does to pairs** is one of the steps. -/
theorem pairStep (d : Decoder) (p : Packet) :
    PairStep d p (d.decodePacket p).1.head (d.decodePacket p).2.samples := by
  unfold decodePacket
  split
  case isFalse hk =>
    exact .bystander (Packet.bystands_of_not_isDecodable (by simpa using hk))
  case isTrue hk =>
    rw [reportFingers_head, reportFingers_samples]
    have hlt := p.report_fingers_lt
    match hf : p.report.fingers, hlt with
    | 0, _ =>
      have hl : p.isLift := by simp [Packet.isLift, hk, hf]
      have hquiet : (d.liftAll p.report).2.samples = [] := Decoded.samples_gesture _ _
      simp only [touch, hf]
      rw [hquiet]
      exact .lifted hl
    | 1, _ =>
      rw [(touch_one hf).1, (touch_one hf).2, oneFinger_head, oneFinger_samples]
      exact .bystander (Packet.bystands_of_fingers (by simp [hf]) (by simp [hf]))
    | 2, _ =>
      cases hkind : p.kind with
      | head =>
        rw [(touch_head hf).1, (touch_head hf).2]
        show PairStep d p (some _) (d.followUsable 0 _).2.samples
        rw [followUsable_samples]
        exact .first (by simp [Packet.isFirst, hkind, hf])
      | tail =>
        rw [(touch_tail hf).1, (touch_tail hf).2, twoFingerTail_head, twoFingerTail_samples]
        exact .second (by simp [Packet.isSecond, hkind, hf])
      | unknown | debounce => simp [hkind, PacketKind.isDecodable] at hk
    | 3, _ =>
      simp only [touch, hf]
      exact .bystander (Packet.bystands_of_fingers (by simp [hf]) (by simp [hf]))

/-! ## The samples of a stream -/

/-- Positions depend on the profile only, which packets do not change. -/
theorem position_packets (d : Decoder) (ps : List Packet) (r : FingerReport) :
    (d.packets ps).position r = d.position r := by
  rw [position, profile_packets, position]

/-- **The head that waits** when a packet comes is the one that the packets describe. -/
theorem head_packets_iff (hd : d.head = none) {ps : List Packet} {i : Nat} (hi : i ≤ ps.length)
    {q : Point} :
    (d.packets (ps.take i)).head = some q ↔
      ∃ j head, Packet.Waits ps j i head ∧ q = d.position head.report := by
  induction i with
  | zero =>
    rw [List.take_zero, packets_nil, hd]
    refine iff_of_false nofun ?_
    rintro ⟨j, head, h, -⟩
    exact absurd h.lt (Nat.not_lt_zero j)
  | succ i ih =>
    have hp : ps[i]? = some ps[i] := List.getElem?_eq_getElem hi
    have ih := ih (Nat.le_of_succ_le hi)
    have hstep := pairStep (d.packets (ps.take i)) ps[i]
    rw [List.take_succ_eq_append_getElem hi, packets_concat, hstep.head_eq_some_iff,
      position_packets, ih]
    simp only [Packet.waits_succ_iff hp]
    constructor
    · rintro (⟨hf, rfl⟩ | ⟨hb, j, head, h, rfl⟩)
      · exact ⟨i, ps[i], .inl ⟨rfl, rfl, hf⟩, rfl⟩
      · exact ⟨j, head, .inr ⟨h, hb⟩, rfl⟩
    · rintro ⟨j, head, ⟨rfl, rfl, hf⟩ | ⟨h, hb⟩, rfl⟩
      · exact .inl ⟨hf, rfl⟩
      · exact .inr ⟨hb, j, head, h, rfl⟩

/-- The samples of a packet: a tail of two fingers has one if a head waits for it. -/
theorem mem_samples_yieldAt_iff (h : d.BetweenPackets) (hd : d.head = none) {stream : List UInt8}
    {i : Nat} (hi : i < (Packet.cut stream).length) {first second : Point} :
    (first, second) ∈ (d.yieldAt stream i).samples ↔
      ∃ j head tail, Packet.Pairs (Packet.cut stream) j i head tail ∧
        first = d.position head.report ∧ second = d.position tail.report := by
  have hp := List.getElem?_eq_getElem hi
  rw [yieldAt_part Decoded.isPart_samples h hp, (pairStep _ _).mem_samples_iff,
    head_packets_iff hd (Nat.le_of_lt hi), position_packets]
  constructor
  · rintro ⟨hs, ⟨j, head, hw, rfl⟩, rfl⟩
    exact ⟨j, head, _, ⟨hw, hp, hs⟩, rfl, rfl⟩
  · rintro ⟨j, head, tail, hpair, rfl, rfl⟩
    obtain rfl : tail = (Packet.cut stream)[i] := Option.some.inj (hpair.tail_packet.symm.trans hp)
    exact ⟨hpair.second, ⟨j, head, hpair.toWaits, rfl⟩, rfl⟩

/-- A packet has at most one sample. -/
theorem length_samples_yieldAt_le (h : d.BetweenPackets) {stream : List UInt8} {i : Nat}
    (hi : i < (Packet.cut stream).length) : (d.yieldAt stream i).samples.length ≤ 1 := by
  rw [yieldAt_part Decoded.isPart_samples h (List.getElem?_eq_getElem hi)]
  exact (pairStep _ _).length_samples_le

/--
**Samples of two fingers pair each tail with the right head.** A stream has the samples of its
packets and no others, and a packet has at most one. It has one if it is a tail of two fingers and
a head of two fingers comes somewhere in front of it, with no packet between them that lifts all
fingers or is another head or tail of two fingers; the sample has the positions of the two. So a
head is in one sample at most, and behind a release or a tail there is no sample before a new head.
The positions are those that signed numbers of 32 bits give, if the largest coordinate is one.
-/
theorem sample_law {profile : Profile} (h3 : profile.generation = .v3) (config : Config)
    (stream : List UInt8) :
    let d := new profile config
    let ps := Packet.cut stream
    (d.bytes stream).2.samples =
      ((List.range ps.length).flatMap fun i => (d.yieldAt stream i).samples) ∧
    (∀ i < ps.length, (d.yieldAt stream i).samples.length ≤ 1) ∧
    (∀ i < ps.length, ∀ first second,
      .twoFingers first second ∈ (d.yieldAt stream i).remarks ↔
        ∃ j head tail, Packet.Pairs ps j i head tail ∧
          first = d.position head.report ∧ second = d.position tail.report) ∧
    (∀ j i i' head head' tail tail', Packet.Pairs ps j i head tail →
      Packet.Pairs ps j i' head' tail' → i = i') ∧
    (∀ k i p, k < i → i < ps.length → ps[k]? = some p → p.isLift ∨ p.isSecond →
      (∀ m q, k < m → m < i → ps[m]? = some q → ¬ q.isFirst) →
        (d.yieldAt stream i).samples = []) ∧
    (profile.maxY < 0x80000000 →
      ∀ p ∈ ps, Checked.position d p.report = .ok (d.position p.report)) := by
  intro d ps
  have h : d.BetweenPackets := betweenPackets_new h3 config
  have hmem {i : Nat} (hi : i < ps.length) {first second : Point} :
      (first, second) ∈ (d.yieldAt stream i).samples ↔ _ :=
    mem_samples_yieldAt_iff h rfl hi
  refine ⟨bytes_part Decoded.isPart_samples h stream,
    fun i hi => length_samples_yieldAt_le h hi, ?_, ?_, ?_, fun hy p _ => Checked.position_eq hy p⟩
  · intro i hi first second
    rw [← Decoded.mem_samples, hmem hi]
  · intro j i i' head head' tail tail' hpair hpair'
    exact hpair.unique hpair'
  · intro k i p hki hi hp hend hfirst
    refine List.eq_nil_iff_forall_not_mem.mpr fun sample hsample => ?_
    obtain ⟨j, head, tail, hpair, -⟩ := (hmem hi).mp hsample
    obtain ⟨m, q, hkm, hmi, hq, hqfirst⟩ := hpair.exists_first hki hp hend
    exact hfirst m q hkm hmi hq hqfirst

/-- A packet of one finger between head and tail does not part them. -/
theorem sample_law_around_one_finger :
    let profile := { Profile.ofGeneration .v3 0x450f01 with bounds := { maxY := 700 } }
    let d := new profile {}
    let stream := [0x84, 0x01, 0x10, 0x02, 0x01, 0x20, 0x44, 0x00, 0x05, 0x02, 0x00, 0x07,
      0x8c, 0x02, 0x30, 0x0c, 0x02, 0x40]
    profile.generation = .v3 ∧
      .twoFingers ⟨0x110, 412⟩ ⟨0x230, 124⟩ ∈ (d.yieldAt stream 2).remarks ∧
      profile.maxY < 0x80000000 ∧
      ∀ p ∈ Packet.cut stream, Checked.position d p.report = .ok (d.position p.report) := by
  intro profile d stream
  have hlaw := @sample_law profile rfl {} stream
  have hbetween : ∀ k p, 0 < k → k < 2 → (Packet.cut stream)[k]? = some p → p.Bystands := by
    intro k p hk hk2 hp
    obtain rfl : k = 1 := by omega
    cases hp
    exact ⟨by decide, by decide, by decide⟩
  have hsmall : profile.maxY < 0x80000000 := by decide
  obtain ⟨-, -, hsamples, -, -, hpositions⟩ := hlaw
  refine ⟨rfl, (hsamples 2 (by decide) _ _).mpr ⟨0, _, _, ⟨⟨by decide, rfl, by decide, hbetween⟩,
    rfl, by decide⟩, by decide, by decide⟩, hsmall, hpositions hsmall⟩

end Decoder

end Touchpad
