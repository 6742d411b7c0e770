import Touchpad.Proofs.Stream.Tap

/-!
# Movements

A packet with one finger at a usable position moves the pointer by its distance from the last such
packet of the same touch, whatever packets lie between them. In the difference of two vertical
coordinates the turned axis cancels out.

* `Packet.movement`: the event of a packet, from the packets in front of it
* `Packet.Leads`: events that follow some packets from the first to the last
* `motion_law`: the movements of a whole stream
-/

namespace Touchpad

/-! ## How far events lead -/

/-- The distance that some events move the pointer. -/
def Event.travel : List Event → Int × Int
  | [] => (0, 0)
  | e :: es => (e.dx + (travel es).1, e.dy + (travel es).2)

theorem Event.travel_concat (es : List Event) (e : Event) :
    travel (es ++ [e]) = ((travel es).1 + e.dx, (travel es).2 + e.dy) := by
  induction es with
  | nil => simp [travel]
  | cons f es ih => simp [travel, ih, Int.add_assoc]

namespace Packet

variable {maxY : Nat} {p : Packet} {ps ks : List Packet} {es : List Event}

/-- The movement to a packet from the last single finger in front of it, if there is one. -/
def movement (maxY : Nat) (earlier : List Packet) (p : Packet) : List Event :=
  if p.isSingle maxY then
    (singles maxY earlier).getLast?.toList.map fun q =>
      .motion (p.report.x - q.report.x) (q.report.y - p.report.y) p.report.buttons
  else []

/-- There is motion exactly at a single finger that follows another one. -/
theorem exists_mem_movement_iff :
    (∃ e ∈ p.movement maxY ps, e.kind = .motion) ↔
      p.isSingle maxY = true ∧ singles maxY ps ≠ [] := by
  unfold movement
  cases hs : p.isSingle maxY with
  | false => simp
  | true =>
    cases hlast : (singles maxY ps).getLast? with
    | none => simp [List.getLast?_eq_none_iff.mp hlast]
    | some q =>
      have hne : singles maxY ps ≠ [] := by
        intro h
        rw [h] at hlast
        cases hlast
      simp [hne, Event.motion]

/-- Events that move the pointer along some packets, from the first to the last. -/
structure Leads (maxY : Nat) (ks : List Packet) (es : List Event) : Prop where
  kind : ∀ e ∈ es, e.kind = .motion
  length : es.length = ks.length - 1
  travel : ∀ first last, ks.head? = some first → ks.getLast? = some last →
    Event.travel es =
      ((last.point maxY).x - (first.point maxY).x, (last.point maxY).y - (first.point maxY).y)

theorem leads_nil : Leads maxY [] [] := ⟨by simp, rfl, by simp⟩

theorem leads_singleton (p : Packet) : Leads maxY [p] [] := by
  refine ⟨by simp, rfl, ?_⟩
  intro first last hfirst hlast
  cases hfirst
  cases hlast
  simp [Event.travel]

/-- One more packet takes one more movement. -/
theorem Leads.concat {q : Packet} (h : Leads maxY ks es) (hq : ks.getLast? = some q) (p : Packet)
    (buttons : Buttons) :
    Leads maxY (ks ++ [p])
      (es ++ [.motion (p.report.x - q.report.x) (q.report.y - p.report.y) buttons]) := by
  have hne : ks ≠ [] := by
    rintro rfl
    cases hq
  refine ⟨?_, ?_, ?_⟩
  · intro e he
    rcases List.mem_append.mp he with he | he
    · exact h.kind e he
    · rw [List.mem_singleton.mp he]
      rfl
  · have hpos := List.length_pos_iff.mpr hne
    simp only [List.length_append, List.length_singleton, h.length]
    omega
  · intro first last hfirst hlast
    have hhead : (ks ++ [p]).head? = ks.head? := by
      cases ks with
      | nil => exact absurd rfl hne
      | cons => rfl
    rw [hhead] at hfirst
    rw [List.getLast?_concat] at hlast
    obtain rfl := Option.some.inj hlast
    rw [Event.travel_concat, h.travel first q hfirst hq]
    simp only [Event.motion, point, Prod.mk.injEq]
    omega

/-- **Single fingers lead from one to the next**, and other packets do not matter. -/
theorem Leads.movement (h : Leads maxY (singles maxY ps) es) (p : Packet) :
    Leads maxY (singles maxY (ps ++ [p])) (es ++ p.movement maxY ps) := by
  rw [singles_concat, Packet.movement]
  split
  · cases hq : (singles maxY ps).getLast? with
    | some q => exact h.concat hq p p.report.buttons
    | none =>
      rw [List.getLast?_eq_none_iff] at hq
      have hes : es = [] := by
        have := h.length
        rw [hq] at this
        exact List.length_eq_zero_iff.mp this
      rw [hq, hes]
      exact leads_singleton p
  · simpa using h

theorem isSingle_of_isLift (h : p.isLift = true) : p.isSingle maxY = false := by
  simp only [isLift, Bool.and_eq_true, beq_iff_eq] at h
  simp [isSingle, h.2]

/-- Behind a packet that lifts all fingers the packets begin anew. -/
theorem sinceLift_append {before : List Packet}
    (hb : before = [] ∨ ∃ r, before.getLast? = some r ∧ r.isLift = true)
    (h : ∀ p ∈ ps, p.isLift = false) : sinceLift (before ++ ps) = ps := by
  induction ps using List.reverseRecOn with
  | nil =>
    rw [List.append_nil]
    rcases hb with rfl | ⟨r, hr, hl⟩
    · rfl
    · obtain ⟨front, rfl⟩ := List.getLast?_eq_some_iff.mp hr
      exact sinceLift_concat_of_lift hl
  | append_singleton ps p ih =>
    rw [← List.append_assoc, sinceLift_concat (h p (by simp)),
      ih fun q hq => h q (List.mem_append_left _ hq)]

end Packet

/-! ## Movements of a stream -/

namespace Decoder

open Packet (sinceLift singles Leads)

/-- The events of a packet that does not lift all fingers. -/
theorem PacketStep.events_eq_movement {d : Decoder} {config : Config} {ps : List Packet}
    {p : Packet} {g : Gesture} {head : Option Point} {events : List Event}
    (h : PacketStep d p g head events) (hd : d.gesture = .ofPackets d.profile.maxY config ps)
    (hl : p.isLift = false) : events = p.movement d.profile.maxY (sinceLift ps) := by
  cases h with
  | lifted hk hf => simp [Packet.isLift, hk, hf] at hl
  | moved hk hf hq hu =>
    subst hq
    rw [Packet.movement, if_pos (by simp [Packet.isSingle, hk, hf, hu]), hd]
    cases hlast : (singles d.profile.maxY (sinceLift ps)).getLast? with
    | none => simp [Gesture.delta, Gesture.ofPackets, hlast]
    | some q =>
      -- both positions were turned, and their difference turns the axis back
      have hturn : ((d.profile.maxY : Int) - p.report.y) - (d.profile.maxY - q.report.y) =
          q.report.y - p.report.y := by omega
      simp only [Gesture.delta, Gesture.ofPackets, hlast, Packet.point, Option.map_some, hturn,
        Option.toList_some, List.map_cons, List.map_nil]
  | dropped hk => simp [Packet.movement, Packet.isSingle, hk]
  | lost hk hf hu => simp [Packet.movement, Packet.isSingle, hu]
  | first hk hf | second hk hf | crowded hk hf => simp [Packet.movement, Packet.isSingle, hf]

variable {profile : Profile} {stream : List UInt8}

/-- A packet that lifts nothing yields its movement and no other event. -/
theorem yieldAt_events_eq_movement (h3 : profile.generation = .v3)
    (hy : profile.maxY < 0x40000000) (config : Config) {i : Nat} {p : Packet}
    (hp : (Packet.cut stream)[i]? = some p) (hl : p.isLift = false) :
    ((new profile config).yieldAt stream i).events =
      p.movement profile.maxY (sinceLift ((Packet.cut stream).take i)) := by
  have hprofile := profile_packets (new profile config) ((Packet.cut stream).take i)
  have hstep := packetStep (d := (new profile config).packets ((Packet.cut stream).take i))
    (by rw [hprofile]; exact hy) p
  have hgesture := gesture_packets hy config ((Packet.cut stream).take i)
  rw [yieldAt_events (betweenPackets_new h3 config) hp,
    hstep.events_eq_movement (by rw [hprofile]; exact hgesture) hl, hprofile]
  rfl

/-- The events of packets among which none lifts all fingers, behind one that does. -/
theorem leads_span (h3 : profile.generation = .v3) (hy : profile.maxY < 0x40000000)
    (config : Config) {before span after : List Packet}
    (hcut : Packet.cut stream = before ++ span ++ after)
    (hb : before = [] ∨ ∃ r, before.getLast? = some r ∧ r.isLift = true)
    (hspan : ∀ p ∈ span, p.isLift = false) (n : Nat) (hn : n ≤ span.length) :
    Leads profile.maxY (singles profile.maxY (span.take n))
      ((List.range n).flatMap fun i =>
        ((new profile config).yieldAt stream (before.length + i)).events) := by
  -- packet by packet: none of them lifts all fingers, so that they are all of one touch
  induction n with
  | zero => exact Packet.leads_nil
  | succ n ih =>
    have hp : span[n]? = some span[n] := List.getElem?_eq_getElem hn
    have hcutp : (Packet.cut stream)[before.length + n]? = some span[n] := by
      rw [hcut, List.append_assoc, List.getElem?_append_right (by omega),
        List.getElem?_append_left (by omega), Nat.add_sub_cancel_left, hp]
    have htake : (Packet.cut stream).take (before.length + n) = before ++ span.take n := by
      rw [hcut, List.append_assoc, List.take_length_add_append,
        List.take_append_of_le_length (by omega)]
    rw [List.range_succ, List.flatMap_append, List.take_add_one, hp, List.flatMap_singleton,
      yieldAt_events_eq_movement h3 hy config hcutp (hspan _ (List.getElem_mem hn)), htake,
      Packet.sinceLift_append hb fun q hq => hspan q (List.mem_of_mem_take hq)]
    exact (ih (Nat.le_of_succ_le hn)).movement span[n]

/--
**The movements of a stream.** A packet yields a movement exactly if it has one finger at a usable
position and a packet of the same touch in front of it does too. The movement leads from the latest
such packet to this one, it is the only event of the packet, and its buttons are those in the
packet. The movements of packets between two that lift all fingers lead from the first single finger
among them to the last.
-/
theorem motion_law (h3 : profile.generation = .v3) (hy : profile.maxY < 0x40000000)
    (config : Config) (stream : List UInt8) :
    let d := Decoder.new profile config
    let ps := Packet.cut stream
    (∀ i p, ps[i]? = some p →
      ((∃ e ∈ (d.yieldAt stream i).events, e.kind = .motion) ↔
        p.isSingle profile.maxY = true ∧
          singles profile.maxY (sinceLift (ps.take i)) ≠ []) ∧
      ∀ q, p.isSingle profile.maxY = true →
        (singles profile.maxY (sinceLift (ps.take i))).getLast? = some q →
        (d.yieldAt stream i).events =
          [.motion (p.report.x - q.report.x) (q.report.y - p.report.y) p.report.buttons]) ∧
    ∀ before span after, ps = before ++ span ++ after →
      (before = [] ∨ ∃ r, before.getLast? = some r ∧ r.isLift = true) →
      (∀ p ∈ span, p.isLift = false) →
      Leads profile.maxY (singles profile.maxY span)
        ((List.range span.length).flatMap fun i =>
          (d.yieldAt stream (before.length + i)).events) := by
  dsimp only
  refine ⟨?_, ?_⟩
  · intro i p hp
    cases hl : p.isLift with
    | true =>
      rw [yieldAt_events_of_isLift h3 hy config hp hl, Packet.isSingle_of_isLift hl]
      simp [Event.release]
    | false =>
      rw [yieldAt_events_eq_movement h3 hy config hp hl]
      refine ⟨Packet.exists_mem_movement_iff, ?_⟩
      intro q hs hq
      rw [Packet.movement, if_pos hs, hq]
      rfl
  · intro before span after hcut hb hspan
    have := leads_span h3 hy config hcut hb hspan span.length (Nat.le_refl _)
    rwa [List.take_length] at this

/-- The pointer follows a finger past a packet with two fingers. -/
theorem motion_law_past_two_fingers :
    let profile := { Profile.ofGeneration .v3 0x450f01 with bounds := ⟨0, 1470, 0, 700⟩ }
    let stream : List UInt8 :=
      [0x44, 0, 100, 0x02, 0, 200, 0x84, 0, 50, 0x02, 0, 50, 0x45, 0, 110, 0x02, 0, 180]
    profile.generation = .v3 ∧ profile.maxY < 0x40000000 ∧
      ((Decoder.new profile {}).yieldAt stream 2).events = [.motion 10 20 ⟨true, false⟩] := by
  intro profile stream
  refine ⟨rfl, by decide, ?_⟩
  exact ((motion_law (show profile.generation = .v3 from rfl) (by decide) {} stream).1 2
    ⟨0x45, 0, 110, 0x02, 0, 180⟩ rfl).2 ⟨0x44, 0, 100, 0x02, 0, 200⟩ (by decide) (by decide)

end Decoder

end Touchpad
