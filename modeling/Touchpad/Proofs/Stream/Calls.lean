import Mathlib.Data.List.DropRight
import Touchpad.Proofs.Stream.Bounds

/-!
# Calls in any order

The decoder calls a gesture in a few patterns, one for each kind of packet. Here the calls come in
any order, with any slots and any positions. What a gesture holds is again a function of what has
happened since the last release, but for the number of fingers, which outlives it.

* `Gesture.Call`, `Gesture.after`: an operation on a gesture, and a sequence of them
* `Gesture.ofCalls`: the gesture that calls describe
* `Gesture.after_new`: it is the one that a new gesture becomes
* `Checked.callAll_eq`: none of the calls needs more than 32 bits
* `Gesture.calls_law`: what can be asked of a gesture

Whether a click is still possible is stored beside the two tracks. It is no more than that both are
in range, which each call preserves.
-/

namespace Touchpad

namespace Gesture

/-- An operation on a gesture. -/
inductive Call where
  | moveTo (p : Point)
  | follow (slot : Nat) (p : Point)
  | release
  | setFingers (fingers : Nat)
  deriving DecidableEq, Repr

namespace Call

/-- The gesture after a call. -/
def apply (g : Gesture) : Call → Gesture
  | moveTo p => g.moveTo p
  | follow slot p => g.follow slot p
  | release => g.release
  | setFingers fingers => g.setFingers fingers

def isRelease : Call → Bool
  | release => true
  | moveTo _ | follow _ _ | setFingers _ => false

/-- The position to which a call moves a single finger. -/
def single? : Call → Option Point
  | moveTo p => some p
  | follow _ _ | release | setFingers _ => none

/-- The position that a call gives to a slot. -/
def pointFor? (slot : Nat) : Call → Option Point
  | follow s p => if s = slot then some p else none
  | moveTo _ | release | setFingers _ => none

def fingers? : Call → Option Nat
  | setFingers fingers => some fingers
  | moveTo _ | follow _ _ | release => none

/-- The position in a call, wherever it goes. -/
def point? : Call → Option Point
  | moveTo p | follow _ p => some p
  | release | setFingers _ => none

/-! ## What calls say together -/

/-- The calls behind the last release, or all of them. -/
def sinceRelease (cs : List Call) : List Call := cs.rtakeWhile fun c => !c.isRelease

def singles (cs : List Call) : List Point := cs.filterMap single?

def slotPoints (slot : Nat) (cs : List Call) : List Point := cs.filterMap (pointFor? slot)

def fingers (cs : List Call) : List Nat := cs.filterMap fingers?

variable {slot : Nat} {c : Call} {cs : List Call}

theorem sinceRelease_concat_release : sinceRelease (cs ++ [release]) = [] := by
  simp [sinceRelease, isRelease]

theorem sinceRelease_concat (cs : List Call) (h : c.isRelease = false) :
    sinceRelease (cs ++ [c]) = sinceRelease cs ++ [c] := by
  simp [sinceRelease, h]

theorem mem_of_mem_sinceRelease (h : c ∈ sinceRelease cs) : c ∈ cs :=
  List.rtakeWhile_suffix _ _ |>.subset h

@[simp] theorem singles_concat : singles (cs ++ [c]) = singles cs ++ c.single?.toList := by
  unfold singles
  rw [List.filterMap_append]
  cases h : c.single? <;> simp [h]

@[simp] theorem slotPoints_concat :
    slotPoints slot (cs ++ [c]) = slotPoints slot cs ++ (c.pointFor? slot).toList := by
  unfold slotPoints
  rw [List.filterMap_append]
  cases h : c.pointFor? slot <;> simp [h]

@[simp] theorem fingers_concat : fingers (cs ++ [c]) = fingers cs ++ c.fingers?.toList := by
  unfold fingers
  rw [List.filterMap_append]
  cases h : c.fingers? <;> simp [h]

end Call

/-- The gesture after calls, one after the other. -/
def after (g : Gesture) (cs : List Call) : Gesture := cs.foldl Call.apply g

/-- The gesture that calls describe. -/
def ofCalls (enabled : Bool) (distance : Nat) (cs : List Call) : Gesture :=
  let reach := min distance maxDistance
  let touch := Call.sinceRelease cs
  let first := Track.ofPoints reach (Call.slotPoints 0 touch)
  let second := Track.ofPoints reach (Call.slotPoints 1 touch)
  { first
    second
    mayTap := first.inRange && second.inRange
    enabled
    distance := reach
    lastFingers := (Call.fingers cs).getLast?.getD 0
    lastPoint := (Call.singles touch).getLast? }

variable {enabled : Bool} {distance slot : Nat} {c : Call} {cs : List Call}

/-- **A call makes of a gesture the one that the calls describe.** -/
theorem ofCalls_concat :
    ofCalls enabled distance (cs ++ [c]) = c.apply (ofCalls enabled distance cs) := by
  cases c with
  | moveTo p =>
    have htouch := Call.sinceRelease_concat (c := .moveTo p) cs rfl
    simp [ofCalls, htouch, Call.apply, moveTo, Call.single?, Call.pointFor?, Call.fingers?]
  | follow slot p =>
    have htouch := Call.sinceRelease_concat (c := .follow slot p) cs rfl
    rcases slot with _ | _ | slot
    · rw [Call.apply, follow_first rfl rfl]
      simp [ofCalls, htouch, Call.single?, Call.pointFor?, Call.fingers?]
    · rw [Call.apply, follow_second rfl rfl]
      simp [ofCalls, htouch, Call.single?, Call.pointFor?, Call.fingers?]
    · -- there is no such slot
      show _ = ofCalls enabled distance cs
      simp [ofCalls, htouch, Call.single?, Call.pointFor?, Call.fingers?]
  | release =>
    simp [ofCalls, Call.sinceRelease_concat_release, Call.apply, release, Call.singles,
      Call.slotPoints, Track.ofPoints, Call.fingers?]
  | setFingers fingers =>
    have htouch := Call.sinceRelease_concat (c := .setFingers fingers) cs rfl
    simp [ofCalls, htouch, Call.apply, setFingers, Call.single?, Call.pointFor?, Call.fingers?]

/-- **After any calls a new gesture is the one that the calls describe.** -/
theorem after_new (enabled : Bool) (distance : Nat) (cs : List Call) :
    (new enabled distance).after cs = ofCalls enabled distance cs := by
  induction cs using List.reverseRecOn with
  | nil => rfl
  | append_singleton cs c ih =>
    rw [ofCalls_concat, ← ih, after, List.foldl_append]
    rfl

/-! ## Numbers of 32 bits -/

end Gesture

/-- Whether both coordinates of a position are below 2³⁰. -/
def Point.InReach (p : Point) : Prop := p.x.natAbs < 0x40000000 ∧ p.y.natAbs < 0x40000000

instance (p : Point) : Decidable p.InReach := inferInstanceAs (Decidable (_ ∧ _))

/-- Within reach no two positions are further from each other than a distance can say. -/
theorem Point.InReach.isNear {p q : Point} (hp : p.InReach) (hq : q.InReach) :
    p.IsNear Gesture.maxDistance q := by
  unfold Point.InReach at hp hq
  unfold Point.IsNear Gesture.maxDistance
  omega

namespace Gesture

/-- Whether the position in a call, if there is one, is in reach. -/
def Call.InReach (c : Call) : Prop := ∀ p ∈ c.point?, p.InReach

instance (c : Call) : Decidable c.InReach := inferInstanceAs (Decidable (∀ p ∈ c.point?, _))

variable {enabled : Bool} {distance slot : Nat} {c : Call} {cs : List Call} {q : Point}

theorem inReach_of_mem_singles (h : ∀ c ∈ cs, c.InReach)
    (hq : q ∈ Call.singles (Call.sinceRelease cs)) : q.InReach := by
  obtain ⟨c, hc, hp⟩ := List.mem_filterMap.mp hq
  refine h c (Call.mem_of_mem_sinceRelease hc) q ?_
  cases c with
  | moveTo p => exact hp
  | follow | release | setFingers => cases hp

theorem inReach_of_mem_slotPoints (h : ∀ c ∈ cs, c.InReach)
    (hq : q ∈ Call.slotPoints slot (Call.sinceRelease cs)) : q.InReach := by
  obtain ⟨c, hc, hp⟩ := List.mem_filterMap.mp hq
  refine h c (Call.mem_of_mem_sinceRelease hc) q ?_
  cases c with
  | follow s p =>
    change (if s = slot then some p else none) = some q at hp
    split at hp
    · exact hp
    · cases hp
  | moveTo | release | setFingers => cases hp

/-- A finger landed at its first position since the last release. -/
theorem startPoint_ofCalls (hs : slot < 2) :
    (ofCalls enabled distance cs).startPoint slot =
      (Call.slotPoints slot (Call.sinceRelease cs)).head? := by
  match slot with
  | 0 => exact Track.start_ofPoints
  | 1 => exact Track.start_ofPoints

theorem track?_eq_none (g : Gesture) (hs : 2 ≤ slot) : g.track? slot = none := by
  match slot with
  | _ + 2 => rfl

theorem startPoint_of_le (g : Gesture) (hs : 2 ≤ slot) : g.startPoint slot = none := by
  rw [startPoint, track?_eq_none g hs]
  rfl

/-- A slot is in range as long as its positions have stayed near the first one. -/
theorem inRange_ofCalls_iff (h : ∀ c ∈ cs, c.InReach) (hs : slot < 2) :
    (ofCalls enabled distance cs).inRange slot = true ↔
      Point.StayNear distance (Call.slotPoints slot (Call.sinceRelease cs)) := by
  -- no two positions of the calls are as far apart as the distance is cut to
  have hcut : Point.StayNear (min distance maxDistance)
      (Call.slotPoints slot (Call.sinceRelease cs)) ↔ Point.StayNear distance _ :=
    Point.stayNear_min_iff fun q hq start hstart =>
      (inReach_of_mem_slotPoints h hq).isNear (inReach_of_mem_slotPoints h hstart)
  rw [← hcut]
  match slot with
  | 0 | 1 => exact Track.inRange_ofPoints_iff

/-- The flag beside the tracks says no more than that both are in range. -/
theorem isTapEligible_ofCalls_iff :
    (ofCalls enabled distance cs).isTapEligible = true ↔
      enabled = true ∧ ∀ slot < 2, (ofCalls enabled distance cs).inRange slot = true := by
  rw [isTapEligible, Bool.and_eq_true]
  refine and_congr_right fun _ => ?_
  show (_ && _) = true ↔ _
  rw [Bool.and_eq_true]
  constructor
  · rintro ⟨hfirst, hsecond⟩ slot hs
    rcases slot with _ | _ | slot
    · exact hfirst
    · exact hsecond
    · omega
  · exact fun hall => ⟨hall 0 (by decide), hall 1 (by decide)⟩

end Gesture

namespace Checked

open Gesture (Call)

/-- A call whose numbers have to fit. -/
def call (g : Gesture) : Call → Except Fault Gesture
  | .moveTo p => do
    let _ ← delta g p
    return g.moveTo p
  | .follow slot p => follow g slot p
  | .release => return g.release
  | .setFingers fingers => return g.setFingers fingers

/-- Calls whose numbers have to fit, one after the other. -/
def callAll (g : Gesture) (cs : List Call) : Except Fault Gesture := cs.foldlM call g

variable {enabled : Bool} {distance : Nat} {c : Call} {cs : List Call}

/-- **A call within reach passes the checks** on every gesture that such calls lead to. -/
theorem call_eq (h : ∀ c ∈ cs, c.InReach) (hc : c.InReach) :
    call (.ofCalls enabled distance cs) c = .ok (c.apply (.ofCalls enabled distance cs)) := by
  cases c with
  | moveTo p =>
    have hnear : ∀ last, (Gesture.ofCalls enabled distance cs).lastPoint = some last →
        p.IsNear Gesture.maxDistance last := by
      intro last hlast
      have hmem : last ∈ Call.singles (Call.sinceRelease cs) := List.mem_of_getLast? hlast
      exact (hc p rfl).isNear (Gesture.inReach_of_mem_singles h hmem)
    rw [call, delta_eq hnear]
    rfl
  | follow slot p =>
    refine follow_eq fun start hstart => (hc p rfl).isNear ?_
    by_cases hs : slot < 2
    · rw [Gesture.startPoint_ofCalls hs] at hstart
      exact Gesture.inReach_of_mem_slotPoints h (List.mem_of_head? hstart)
    · rw [Gesture.startPoint_of_le _ (Nat.le_of_not_lt hs)] at hstart
      cases hstart
  | release => rfl
  | setFingers fingers => rfl

/-- **Calls within reach pass all checks**, and have the effect that they have on integers. -/
theorem callAll_eq (h : ∀ c ∈ cs, c.InReach) :
    callAll (.new enabled distance) cs = .ok ((Gesture.new enabled distance).after cs) := by
  induction cs using List.reverseRecOn with
  | nil => rfl
  | append_singleton cs c ih =>
    have hcs : ∀ c ∈ cs, c.InReach := fun c hc => h c (List.mem_append_left _ hc)
    have hc : c.InReach := h c (by simp)
    rw [callAll, List.foldlM_append, ← callAll, ih hcs, Gesture.after_new, Gesture.after_new,
      Gesture.ofCalls_concat]
    show List.foldlM call (Gesture.ofCalls enabled distance cs) [c] = _
    rw [List.foldlM_cons, call_eq hcs hc]
    rfl

end Checked

/-! ## The law -/

namespace Gesture

/-- A slot that does not exist follows nothing. -/
theorem follow_of_le (g : Gesture) {slot : Nat} (hs : 2 ≤ slot) (p : Point) :
    g.follow slot p = g := by
  unfold follow
  rw [track?_eq_none g hs]

/-- A tap is the left button exactly if one finger made it. -/
theorem tap_left_iff (g : Gesture) :
    g.tap.left = true ↔ g.isTapEligible = true ∧ g.lastFingers = 1 := by
  unfold tap
  split
  · next h => simp [h]
  · next h => simp [h, Buttons.none]

/-- A tap is the right button exactly if two fingers made it. -/
theorem tap_right_iff (g : Gesture) :
    g.tap.right = true ↔ g.isTapEligible = true ∧ g.lastFingers = 2 := by
  unfold tap
  split
  · next h => simp [h]
  · next h => simp [h, Buttons.none]

/--
**What a gesture holds after calls in any order.** Each of the two slots knows its first position
since the last release, and whether all others were near it; the distance counts in full, although
the gesture cuts it. A tap is possible if both slots are in range and taps are made at all. The last
position of a single finger is forgotten at a release, and the number of fingers is not. Any other
slot is ignored. A release makes the left button for one finger and the right one for two, if a tap
is possible, and no button otherwise. All differences and absolute values on the way are numbers of
32 bits.
-/
theorem calls_law (enabled : Bool) (distance : Nat) (cs : List Call)
    (h : ∀ c ∈ cs, c.InReach) :
    let g := (new enabled distance).after cs
    let touch := Call.sinceRelease cs
    Checked.callAll (new enabled distance) cs = .ok g ∧
      (∀ slot < 2, g.startPoint slot = (Call.slotPoints slot touch).head? ∧
        (g.inRange slot = true ↔ Point.StayNear distance (Call.slotPoints slot touch))) ∧
      (g.isTapEligible = true ↔ enabled = true ∧ ∀ slot < 2, g.inRange slot = true) ∧
      g.lastPoint = (Call.singles touch).getLast? ∧
      g.lastFingers = (Call.fingers cs).getLast?.getD 0 ∧
      (∀ slot p, 2 ≤ slot → g.follow slot p = g) ∧
      (g.tap.left = true ↔ g.isTapEligible = true ∧ g.lastFingers = 1) ∧
      (g.tap.right = true ↔ g.isTapEligible = true ∧ g.lastFingers = 2) := by
  intro g touch
  have hg : g = ofCalls enabled distance cs := after_new enabled distance cs
  refine ⟨Checked.callAll_eq h, ?_, ?_, ?_, ?_, ?_, g.tap_left_iff, g.tap_right_iff⟩
  · intro slot hs
    rw [hg]
    exact ⟨startPoint_ofCalls hs, inRange_ofCalls_iff h hs⟩
  · rw [hg]
    exact isTapEligible_ofCalls_iff
  · rw [hg]
    rfl
  · rw [hg]
    rfl
  · exact fun slot p hs => g.follow_of_le hs p

/-- A finger that crosses all that is in reach taps only if the distance allows for that much. -/
theorem calls_law_from_corner_to_corner :
    let start : Point := ⟨-0x3fffffff, -0x3fffffff⟩
    let corner : Point := ⟨0x3fffffff, 0x3fffffff⟩
    let cs : List Call :=
      [.follow 1 corner, .follow 1 start, .release, .moveTo start, .follow 0 start,
        .follow 7 ⟨0, 0⟩, .moveTo corner, .follow 0 corner, .setFingers 1]
    let wide := (new true 0xffffffff).after cs
    let narrow := (new true 0x7ffffffd).after cs
    (∀ c ∈ cs, c.InReach) ∧ wide.startPoint 0 = some start ∧ wide.startPoint 1 = none ∧
      wide.lastPoint = some corner ∧ wide.tap.left = true ∧ narrow.tap.left = false := by
  intro start corner cs wide narrow
  have hreach : ∀ c ∈ cs, c.InReach := by decide
  obtain ⟨-, hslots, htap, hlast, hfingers, -, hleft, -⟩ := calls_law true 0xffffffff cs hreach
  obtain ⟨-, hslots', htap', -, -, -, hleft', -⟩ := calls_law true 0x7ffffffd cs hreach
  have hnear : ∀ slot < 2,
      Point.StayNear 0xffffffff (Call.slotPoints slot (Call.sinceRelease cs)) := by
    decide
  refine ⟨hreach, (hslots 0 (by decide)).1, (hslots 1 (by decide)).1, hlast, ?_, ?_⟩
  · refine hleft.mpr ⟨htap.mpr ⟨rfl, ?_⟩, hfingers⟩
    exact fun slot hs => (hslots slot hs).2.mpr (hnear slot hs)
  · refine Bool.eq_false_iff.mpr fun hclick => ?_
    have hrange := (htap'.mp (hleft'.mp hclick).1).2 0 (by decide)
    exact absurd ((hslots' 0 (by decide)).2.mp hrange) (by decide)

end Gesture

end Touchpad
