import Mathlib.Data.List.Forall2
import Touchpad.Proofs.Stream.Motion

/-!
# What options do to events

Two decoders of one stream may differ in all their options, and in all of their profiles but the
largest vertical coordinate. Their events differ in nothing but the clicks that are added to
releases.

* `Packet.eventsBehind`: the events of packets, for any rule that says when there is a click
* `eventsOf_packets`: a decoder yields these, where the clicks are the taps of its gesture
* `forall₂_eventsBehind`: clicks that are related one by one make events that are
* `independence_law`: two decoders of one stream

Once a finger leaves the smaller of two distances the two decoders hold different gestures up to the
next release. No relation between the gestures is needed, because each is a function of the packets.
-/

namespace Touchpad

namespace Buttons

theorem contains_iff {a b : Buttons} :
    a.contains b = true ↔ (b.left = true → a.left = true) ∧ (b.right = true → a.right = true) := by
  rcases a with ⟨_ | _, _ | _⟩ <;> rcases b with ⟨_ | _, _ | _⟩ <;> decide

theorem contains_self (a : Buttons) : a.contains a = true := contains_iff.mpr ⟨id, id⟩

theorem union_contains_union {a b : Buttons} (h : a.contains b = true) (c : Buttons) :
    (c.union a).contains (c.union b) = true := by
  obtain ⟨hl, hr⟩ := contains_iff.mp h
  simp only [contains_iff, union, Bool.or_eq_true]
  exact ⟨Or.imp_right hl, Or.imp_right hr⟩

@[simp] theorem union_none (a : Buttons) : a.union .none = a := by
  simp [union, none]

end Buttons

namespace Event

/-- Whether two events are the same but for the buttons of a release. -/
structure Alike (e f : Event) : Prop where
  kind : f.kind = e.kind
  dx : f.dx = e.dx
  dy : f.dy = e.dy
  buttons : e.kind = .motion → f.buttons = e.buttons

theorem Alike.refl (e : Event) : e.Alike e := ⟨rfl, rfl, rfl, fun _ => rfl⟩

/-- Releases are alike, whatever is clicked with them. -/
theorem alike_release (a b : Buttons) : (release a).Alike (release b) := ⟨rfl, rfl, rfl, nofun⟩

/-- Whether an event is another one, with a click added to it if that is a release. -/
structure Clicked (e f : Event) : Prop extends Alike e f where
  click : ∃ click : Buttons, f.buttons = e.buttons.union click

theorem Clicked.refl (e : Event) : e.Clicked e := ⟨.refl e, .none, by simp⟩

/-- A release that is without a click on one side may have one on the other. -/
theorem clicked_release (held click : Buttons) :
    (release (held.union .none)).Clicked (release (held.union click)) := by
  refine ⟨alike_release _ _, click, ?_⟩
  rw [Buttons.union_none]
  rfl

end Event

/-! ## Events with given clicks -/

namespace Packet

/-- The events of a packet behind others. The click of a release depends on those. -/
def events (maxY : Nat) (click : List Packet → Buttons) (earlier : List Packet) (p : Packet) :
    List Event :=
  if p.isLift then [.release (p.report.buttons.union (click earlier))]
  else p.movement maxY (sinceLift earlier)

/-- The events of packets behind others. -/
def eventsBehind (maxY : Nat) (click : List Packet → Buttons) (earlier : List Packet) :
    List Packet → List Event
  | [] => []
  | p :: ps => p.events maxY click earlier ++ eventsBehind maxY click (earlier ++ [p]) ps

/-- The events of packets with the buttons that are held, and no clicks. -/
def heldEvents (maxY : Nat) (ps : List Packet) : List Event :=
  eventsBehind maxY (fun _ => .none) [] ps

variable {maxY : Nat} {click click' : List Packet → Buttons} {R : Event → Event → Prop}

theorem kind_of_mem_movement {ps : List Packet} {p : Packet} {e : Event}
    (h : e ∈ p.movement maxY ps) : e.kind = .motion := by
  unfold movement at h
  split at h
  · obtain ⟨q, -, rfl⟩ := List.mem_map.mp h
    rfl
  · cases h

theorem forall₂_events (hmotion : ∀ e : Event, e.kind = .motion → R e e)
    (hrelease : ∀ (held : Buttons) (earlier : List Packet),
      R (.release (held.union (click earlier))) (.release (held.union (click' earlier))))
    (earlier : List Packet) (p : Packet) :
    List.Forall₂ R (p.events maxY click earlier) (p.events maxY click' earlier) := by
  unfold events
  split
  · exact .cons (hrelease p.report.buttons earlier) .nil
  · exact List.forall₂_same.mpr fun e he => hmotion e (kind_of_mem_movement he)

/-- **Clicks that are related one by one make related events.** -/
theorem forall₂_eventsBehind (hmotion : ∀ e : Event, e.kind = .motion → R e e)
    (hrelease : ∀ (held : Buttons) (earlier : List Packet),
      R (.release (held.union (click earlier))) (.release (held.union (click' earlier))))
    (earlier ps : List Packet) :
    List.Forall₂ R (eventsBehind maxY click earlier ps) (eventsBehind maxY click' earlier ps) := by
  induction ps generalizing earlier with
  | nil => exact .nil
  | cons p ps ih =>
    exact List.rel_append (forall₂_events hmotion hrelease earlier p) (ih (earlier ++ [p]))

end Packet

/-! ## Clicks and options -/

namespace Gesture

open Packet (Tapped)

variable {maxY : Nat} {config config' : Config}

/-- A gesture depends on the options for taps and on no others. -/
theorem ofPackets_congr (ht : config.tapToClick = config'.tapToClick)
    (hd : config.tapDistance = config'.tapDistance) (ps : List Packet) :
    ofPackets maxY config ps = ofPackets maxY config' ps := by
  simp only [ofPackets, ht, hd]

theorem tap_ofPackets_of_disabled (ht : config.tapToClick = false) (ps : List Packet) :
    (ofPackets maxY config ps).tap = .none := by
  have hnot : ¬ (ofPackets maxY config ps).isTapEligible = true := by
    rw [Packet.isTapEligible_ofPackets_iff, ht]
    exact fun h => Bool.false_ne_true h.1
  rw [tap, if_neg hnot]

end Gesture

/-- Positions that stay near stay near within a longer distance. -/
theorem Point.StayNear.mono {distance distance' : Nat} (hd : distance ≤ distance')
    {qs : List Point} (h : StayNear distance qs) : StayNear distance' qs := by
  intro start hs q hq
  obtain ⟨hx, hy⟩ := h start hs q hq
  exact ⟨Nat.le_trans hx hd, Nat.le_trans hy hd⟩

/-- A tap stays one if the fingers may travel further. -/
theorem Packet.Tapped.mono {maxY n : Nat} {config config' : Config} {ps : List Packet}
    (ht : config'.tapToClick = true) (hd : config.tapDistance ≤ config'.tapDistance)
    (h : Tapped maxY config ps n) : Tapped maxY config' ps n :=
  ⟨ht, h.fingers, h.first.mono hd, h.second.mono hd⟩

/-- **A longer distance clicks whatever a shorter one does.** -/
theorem Gesture.tap_contains_tap {maxY : Nat} {config config' : Config}
    (ht : config'.tapToClick = true) (hd : config.tapDistance ≤ config'.tapDistance)
    (ps : List Packet) :
    (ofPackets maxY config' ps).tap.contains (ofPackets maxY config ps).tap = true := by
  obtain ⟨hleft, hright⟩ := Packet.tap_ofPackets maxY config ps
  obtain ⟨hleft', hright'⟩ := Packet.tap_ofPackets maxY config' ps
  rw [Buttons.contains_iff, hleft, hright, hleft', hright']
  exact ⟨.mono ht hd, .mono ht hd⟩

/-! ## The law -/

namespace Decoder

open Packet (cut eventsBehind heldEvents)

variable {profile profile' : Profile}

/-- The events of packets behind others. -/
theorem eventsOf_packets (hy : profile.maxY < 0x40000000) (config : Config)
    (earlier ps : List Packet) :
    ((new profile config).packets earlier).eventsOf ps =
      eventsBehind profile.maxY (fun qs => (Gesture.ofPackets profile.maxY config qs).tap)
        earlier ps := by
  induction ps generalizing earlier with
  | nil => rfl
  | cons p ps ih =>
    have hprofile : ((new profile config).packets earlier).profile = profile :=
      profile_packets _ earlier
    have hgesture := gesture_packets hy config earlier
    have hstep := packetStep (d := (new profile config).packets earlier)
      (by rw [hprofile]; exact hy) p
    rw [eventsOf_cons, ← packets_concat, ih, eventsBehind, Packet.events]
    congr 1
    split
    · next hl => rw [hstep.release_of_isLift hl, hgesture]
    · next hl =>
      rw [hstep.events_eq_movement (by rw [hprofile]; exact hgesture) (by simpa using hl),
        hprofile]

/-- The options for taps decide about the clicks of a stream and about nothing else in it. -/
theorem bytes_events_eq_eventsBehind (h3 : profile.generation = .v3)
    (hy : profile.maxY < 0x40000000) (config : Config) (stream : List UInt8) :
    ((new profile config).bytes stream).2.events =
      eventsBehind profile.maxY (fun qs => (Gesture.ofPackets profile.maxY config qs).tap)
        [] (cut stream) := by
  rw [bytes_events_eq_eventsOf (betweenPackets_new h3 config), ← eventsOf_packets hy config]
  rfl

/-- A decoder adds nothing but clicks to what is held. -/
theorem forall₂_clicked (h3 : profile.generation = .v3) (hy : profile.maxY < 0x40000000)
    (config : Config) (stream : List UInt8) :
    List.Forall₂ Event.Clicked (heldEvents profile.maxY (cut stream))
      ((new profile config).bytes stream).2.events := by
  rw [bytes_events_eq_eventsBehind h3 hy config]
  exact Packet.forall₂_eventsBehind (fun e _ => .refl e)
    (fun held _ => Event.clicked_release held _) [] _

/--
**Options do not reach the events but for clicks.** Any two decoders of the third generation with
the same largest vertical coordinate yield events for a stream that are alike one by one: the same
movements with the same buttons, and releases in the same places. Each list is that of what the
packets hold, with clicks added to releases. For the same tap options the lists are equal, without
taps nothing is added, and with a larger tap distance no button is lost.
-/
theorem independence_law (h3 : profile.generation = .v3) (h3' : profile'.generation = .v3)
    (hy : profile.maxY < 0x40000000) (hsame : profile'.maxY = profile.maxY)
    (config config' : Config) (stream : List UInt8) :
    let events := ((new profile config).bytes stream).2.events
    let events' := ((new profile' config').bytes stream).2.events
    let held := heldEvents profile.maxY (cut stream)
    List.Forall₂ Event.Alike events events' ∧
      List.Forall₂ Event.Clicked held events ∧ List.Forall₂ Event.Clicked held events' ∧
      (config.tapToClick = config'.tapToClick → config.tapDistance = config'.tapDistance →
        events = events') ∧
      (config.tapToClick = false → events = held) ∧
      (config.tapToClick = true → config'.tapToClick = true →
        config.tapDistance ≤ config'.tapDistance →
        List.Forall₂ (fun e e' => e'.buttons.contains e.buttons = true) events events') := by
  intro events events' held
  have hevents : events = eventsBehind profile.maxY _ [] (cut stream) :=
    bytes_events_eq_eventsBehind h3 hy config stream
  have hevents' : events' = eventsBehind profile'.maxY _ [] (cut stream) :=
    bytes_events_eq_eventsBehind h3' (by rw [hsame]; exact hy) config' stream
  rw [hsame] at hevents'
  refine ⟨?_, forall₂_clicked h3 hy config stream, ?_, ?_, ?_, ?_⟩
  · rw [hevents, hevents']
    exact Packet.forall₂_eventsBehind (fun e _ => .refl e)
      (fun _ _ => Event.alike_release _ _) [] _
  · have hclicked := forall₂_clicked h3' (by rw [hsame]; exact hy) config' stream
    rwa [hsame] at hclicked
  · intro ht hd
    simp only [hevents, hevents', Gesture.ofPackets_congr ht hd]
  · intro ht
    simp only [hevents, Gesture.tap_ofPackets_of_disabled ht]
    rfl
  · intro _ ht' hd
    rw [hevents, hevents']
    refine Packet.forall₂_eventsBehind (fun e _ => e.buttons.contains_self)
      (fun pressed earlier => ?_) [] _
    exact Buttons.union_contains_union (Gesture.tap_contains_tap ht' hd earlier) pressed

/-- A finger that travels ten units makes a click for one of two distances. -/
theorem independence_law_of_two_distances :
    let profile := { Profile.ofGeneration .v3 0x450f01 with bounds := ⟨0, 1470, 0, 700⟩ }
    let profile' :=
      { Profile.ofGeneration .v3 0x150500 with bounds := ⟨1, 2, 3, 700⟩, debug := 3, width := 9 }
    let narrow : Config := { tapDistance := 9, debug := some 0 }
    let wide : Config := { tapDistance := 10, commandRetries := 0 }
    let stream : List UInt8 :=
      [0x46, 0, 100, 0x02, 0, 200, 0x46, 0, 110, 0x02, 0, 195, 0x06, 0, 0, 0x02, 0, 0]
    let events := ((new profile narrow).bytes stream).2.events
    let events' := ((new profile' wide).bytes stream).2.events
    profile.generation = .v3 ∧ profile'.generation = .v3 ∧ profile.maxY < 0x40000000 ∧
      profile'.maxY = profile.maxY ∧ events ≠ events' ∧ List.Forall₂ Event.Alike events events' ∧
      List.Forall₂ (fun e e' => e'.buttons.contains e.buttons = true) events events' ∧
      events = [.motion 10 5 ⟨false, true⟩, .release ⟨false, true⟩] ∧
      events' = [.motion 10 5 ⟨false, true⟩, .release ⟨true, true⟩] := by
  intro profile profile' narrow wide stream events events'
  obtain ⟨halike, -, -, -, -, hcontains⟩ :=
    independence_law (show profile.generation = .v3 from rfl)
      (show profile'.generation = .v3 from rfl) (by decide) rfl narrow wide stream
  exact ⟨rfl, rfl, by decide, rfl, by decide, halike, hcontains rfl rfl (by decide), by decide,
    by decide⟩

end Decoder

end Touchpad
