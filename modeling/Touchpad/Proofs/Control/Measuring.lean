import Mathlib.Algebra.Group.Nat.Defs
import Touchpad.Bus.Scripted
import Touchpad.Control.Unsigned
import Touchpad.Proofs.Control.StartPlan

/-!
# Asking for the coordinate range

What comes of asking for the range depends on the generation, the firmware and up to two replies.
The numbers in a reply are bytes, so that no sum and no product of them comes close to 32 bits, and
the number of sensor traces is checked before it is used as a divisor.

* `Range.WellFormed`: what every range has in common
* `Unsigned.queryRange_eq`: with numbers of 32 bits, asking for the range goes the same way
* `Control.RangeCourse.wellFormed`, `Control.RangeCourse.eq_query_iff`,
  `Control.RangeCourse.eq_invalidTraces_iff`: what comes of each way in which it can go
* `Control.queryRange_law`: the range, the errors and the requests, on every transport
-/

namespace Touchpad

/-! ## Numbers of 32 bits -/

namespace Unsigned

variable {a b A B : Nat}

theorem mul_eq (ha : a ≤ A) (hb : b ≤ B) (h : A * B < size) : mul a b = .ok (a * b) :=
  if_pos (Nat.lt_of_le_of_lt (Nat.mul_le_mul ha hb) h)

theorem add_eq (ha : a ≤ A) (hb : b ≤ B) (h : A + B < size) : add a b = .ok (a + b) :=
  if_pos (Nat.lt_of_le_of_lt (Nat.add_le_add ha hb) h)

theorem sub_eq (h : b ≤ a) : sub a b = .ok (a - b) := if_pos h

theorem div_eq (h : b ≠ 0) : div a b = .ok (a / b) := if_neg h

theorem toNat_le (b : UInt8) : b.toNat ≤ 255 := Nat.le_of_lt_succ b.toNat_lt

theorem toNat_sub_le (b : UInt8) (n : Nat) : b.toNat - n ≤ 255 :=
  Nat.le_trans (Nat.sub_le _ n) (toNat_le b)

/-- The range that the firmware decides about is computed without overflow. -/
theorem rangeByFirmware_eq (firmware : Nat) (capabilities : Reply) :
    rangeByFirmware firmware capabilities =
      .ok (Control.rangeByFirmware firmware capabilities) := by
  have hmul (b : UInt8) :
      mul (b.toNat - Control.edgeTraces firmware) 64 =
        .ok ((b.toNat - Control.edgeTraces firmware) * 64) :=
    mul_eq (toNat_sub_le b _) (Nat.le_refl 64) (by decide)
  unfold rangeByFirmware Control.rangeByFirmware
  dsimp only
  split
  · rfl
  · split
    · rfl
    · rw [hmul, hmul]
      rfl

theorem rangeBySample_eq (firmware : Nat) (capabilities sample : Reply) :
    rangeBySample firmware capabilities sample =
      .ok (Control.rangeBySample firmware capabilities sample) := by
  have hmul (b c : UInt8) :
      mul (b.toNat - Control.edgeTraces firmware) c.toNat =
        .ok ((b.toNat - Control.edgeTraces firmware) * c.toNat) :=
    mul_eq (toNat_sub_le b _) (toNat_le c) (by decide)
  unfold rangeBySample Control.rangeBySample
  dsimp only
  rw [hmul, hmul]
  rfl

theorem maximaIn_eq (reply : Reply) : maximaIn reply = .ok (Range.maximaIn reply) := by
  have hlow : reply.first.toNat % 16 ≤ 15 := by omega
  have hhigh : reply.first.toNat / 16 ≤ 15 := by
    have := toNat_le reply.first
    omega
  have hmul {n : Nat} (h : n ≤ 15) : mul n 256 = .ok (n * 256) :=
    mul_eq h (Nat.le_refl 256) (by decide)
  have hadd {n : Nat} (h : n ≤ 15) (b : UInt8) :
      add (n * 256) b.toNat = .ok (n * 256 + b.toNat) :=
    add_eq (Nat.mul_le_mul_right 256 h) (toNat_le b) (by decide)
  unfold maximaIn
  simp only [hmul hlow, hmul hhigh, bind, Except.bind, hadd hlow, hadd hhigh]
  rfl

/-- The number of traces is checked, so that the number of gaps between them is positive. -/
theorem traceWidth_eq (maxX traces : Nat) :
    traceWidth maxX traces =
      (Range.traceWidth maxX traces).mapError fun cause => .range (.invalidTraces cause) := by
  unfold traceWidth Range.traceWidth
  by_cases hbad : traces < 2 ∨ maxX < traces
  · rw [if_pos hbad, if_pos hbad]
    rfl
  · have hgaps : sub traces 1 = .ok (traces - 1) := sub_eq (by omega)
    have hdiv : div maxX (traces - 1) = .ok (maxX / (traces - 1)) := div_eq (by omega)
    rw [if_neg hbad, if_neg hbad]
    simp only [hgaps]
    exact hdiv

/-- The range in a firmware id is computed without overflow, and fails for its traces only. -/
theorem rangeByFirmwareId_eq (g : Generation) (capabilities firmwareId : Reply) :
    rangeByFirmwareId g capabilities firmwareId =
      (Control.rangeByFirmwareId g capabilities firmwareId).mapError .range := by
  unfold rangeByFirmwareId Control.rangeByFirmwareId
  rw [maximaIn_eq]
  generalize Range.maximaIn firmwareId = maxima
  obtain ⟨maxX, maxY⟩ := maxima
  cases g with
  | v4 =>
    show (traceWidth maxX _ >>= fun width => pure (Range.upTo maxX maxY width)) = _
    rw [traceWidth_eq]
    dsimp only
    cases Range.traceWidth maxX capabilities.second.toNat <;> rfl
  | v1 => rfl
  | v2 => rfl
  | v3 => rfl

end Unsigned

/-! ## The dialogue -/

theorem Dialogue.bind_assoc {α β γ : Type} (d : Dialogue α) (k₁ : α → Dialogue β)
    (k₂ : β → Dialogue γ) : (d.bind k₁).bind k₂ = d.bind fun a => (k₁ a).bind k₂ := by
  induction d with
  | done a => rfl
  | submit r next ih => exact congrArg (submit r) (funext ih)
  | note record next ih => exact congrArg (note record) ih
  | pause n next ih => exact congrArg (pause n) ih

/-- Errors can be renamed at the end, or in each of two commands that follow each other. -/
theorem Control.adapt_bind {ε ε' α β : Type} (x : Talk ε α) (k : α → Talk ε β) (f : ε → ε') :
    (x >>= k).adapt f = x.adapt f >>= fun a => (k a).adapt f := by
  refine (Dialogue.bind_assoc x.run _ _).trans (.trans ?_ (Dialogue.bind_assoc x.run _ _).symm)
  refine congrArg (Dialogue.bind x.run) (funext fun w => ?_)
  cases w with
  | ok a => rfl
  | error cause => rfl

namespace Unsigned

/--
**With numbers of 32 bits, asking for the range goes the same way**: no number overflows, no
difference is negative, and nothing is divided by zero.
-/
theorem queryRange_eq (p : Profile) :
    queryRange p = (Control.queryRange p).adapt Failure.range := by
  -- the queries are the same, and so is what is made of their replies
  unfold queryRange Control.queryRange
  cases hf : Range.fixed? p.generation p.firmware with
  | some range => rfl
  | none =>
    cases hg : p.generation with
    | v1 => rfl
    | v2 =>
      dsimp only
      rw [Control.adapt_bind]
      congr 1
      funext firmwareId
      split
      · rw [Control.adapt_bind]
        congr 1
        funext sample
        rw [rangeBySample_eq]
        rfl
      · rw [rangeByFirmware_eq]
        rfl
    | v3 | v4 =>
      dsimp only
      rw [Control.adapt_bind]
      congr 1
      funext firmwareId
      rw [rangeByFirmwareId_eq]
      rfl

end Unsigned

/-! ## Well-formed ranges -/

/--
Whether a range goes from a smallest to a largest coordinate of fifteen bits. In the fourth
generation, with the given number of traces, its width is the distance of two traces rounded down;
there is none in the others.
-/
structure Range.WellFormed (g : Generation) (traces : Nat) (r : Range) : Prop where
  minX_le : r.bounds.minX ≤ r.bounds.maxX
  maxX_lt : r.bounds.maxX < 2 ^ 15
  minY_le : r.bounds.minY ≤ r.bounds.maxY
  maxY_lt : r.bounds.maxY < 2 ^ 15
  width_of_v4 : g = .v4 → 1 ≤ r.width ∧ r.width * (traces - 1) ≤ r.bounds.maxX ∧
    r.bounds.maxX < (r.width + 1) * (traces - 1)
  width_of_ne_v4 : g ≠ .v4 → r.width = 0

namespace Range

variable {g : Generation} {traces maxX maxY width : Nat} {r : Range}

/-- A range without a distance of traces only has to be small enough. -/
theorem wellFormed_upTo (hg : g ≠ .v4) (hx : maxX < 2 ^ 15) (hy : maxY < 2 ^ 15) :
    (upTo maxX maxY 0).WellFormed g traces where
  minX_le := Nat.zero_le _
  maxX_lt := hx
  minY_le := Nat.zero_le _
  maxY_lt := hy
  width_of_v4 h := absurd h hg
  width_of_ne_v4 _ := rfl

theorem wellFormed_of_fixed {firmware : Nat} (h : fixed? g firmware = some r) :
    r.WellFormed g traces := by
  cases g with
  | v1 =>
    cases h
    exact ⟨by decide, by decide, by decide, by decide, nofun, fun _ => rfl⟩
  | v2 =>
    obtain ⟨-, rfl⟩ := Option.ite_some_none_eq_some.mp h
    exact ⟨by decide, by decide, by decide, by decide, nofun, fun _ => rfl⟩
  | v3 => cases h
  | v4 => cases h

/-- There is no trace width for less than two traces, or for more than there are coordinates. -/
theorem traceWidth_eq_error_iff {cause : InvalidTraces} :
    traceWidth maxX traces = .error cause ↔
      (traces < 2 ∨ maxX < traces) ∧ cause = ⟨traces, maxX⟩ := by
  unfold traceWidth
  by_cases hbad : traces < 2 ∨ maxX < traces
  · rw [if_pos hbad, and_iff_right hbad]
    exact ⟨fun h => (Except.error.inj h).symm, fun h => congrArg _ h.symm⟩
  · rw [if_neg hbad]
    exact iff_of_false nofun fun h => hbad h.1

/-- The distance of two traces is the largest coordinate divided among the gaps, rounded down. -/
theorem traceWidth_bounds (h : traceWidth maxX traces = .ok width) :
    1 ≤ width ∧ width * (traces - 1) ≤ maxX ∧ maxX < (width + 1) * (traces - 1) := by
  unfold traceWidth at h
  by_cases hbad : traces < 2 ∨ maxX < traces
  · rw [if_pos hbad] at h
    cases h
  · rw [if_neg hbad] at h
    cases h
    have hgaps : 0 < traces - 1 := by omega
    refine ⟨?_, Nat.div_mul_le_self _ _, ?_⟩
    · rw [Nat.le_div_iff_mul_le hgaps]
      omega
    · rw [Nat.mul_comm]
      exact Nat.lt_mul_div_succ maxX hgaps

end Range

namespace Control

/-- A range that the firmware decides about is well formed. -/
theorem wellFormed_rangeByFirmware {g : Generation} {traces : Nat} (hg : g ≠ .v4) (firmware : Nat)
    (capabilities : Reply) : (rangeByFirmware firmware capabilities).WellFormed g traces := by
  have hlt (b : UInt8) : (b.toNat - edgeTraces firmware) * 64 < 2 ^ 15 := by
    have := Unsigned.toNat_sub_le b (edgeTraces firmware)
    omega
  unfold rangeByFirmware
  dsimp only
  split
  · exact Range.wellFormed_upTo hg (by decide) (by decide)
  · split
    · exact Range.wellFormed_upTo hg (by decide) (by decide)
    · exact Range.wellFormed_upTo hg (hlt _) (hlt _)

theorem wellFormed_rangeBySample {g : Generation} {traces : Nat} (hg : g ≠ .v4) (firmware : Nat)
    (capabilities sample : Reply) :
    (rangeBySample firmware capabilities sample).WellFormed g traces := by
  have hlt (b c : UInt8) : (b.toNat - edgeTraces firmware) * c.toNat / 2 < 2 ^ 15 := by
    have := Nat.mul_le_mul (Unsigned.toNat_sub_le b (edgeTraces firmware)) (Unsigned.toNat_le c)
    omega
  exact Range.wellFormed_upTo hg (hlt _ _) (hlt _ _)

/-- A range in a firmware id is well formed. -/
theorem wellFormed_rangeByFirmwareId {g : Generation} {capabilities firmwareId : Reply}
    {range : Range} (h : rangeByFirmwareId g capabilities firmwareId = .ok range) :
    range.WellFormed g capabilities.second.toNat := by
  obtain ⟨hx, hy⟩ := maximaIn_lt firmwareId
  unfold rangeByFirmwareId at h
  generalize Range.maximaIn firmwareId = maxima at h hx hy
  obtain ⟨maxX, maxY⟩ := maxima
  have hx : maxX < 2 ^ 15 := Nat.lt_trans hx (by decide)
  have hy : maxY < 2 ^ 15 := Nat.lt_trans hy (by decide)
  cases g with
  | v4 =>
    dsimp only at h
    cases hw : Range.traceWidth maxX capabilities.second.toNat with
    | error cause =>
      rw [hw] at h
      cases h
    | ok width =>
      rw [hw] at h
      cases h
      exact ⟨Nat.zero_le _, hx, Nat.zero_le _, hy, fun _ => Range.traceWidth_bounds hw, nofun⟩
  | v1 | v2 | v3 =>
    cases h
    exact Range.wellFormed_upTo nofun hx hy

/-- **A firmware id is rejected** for the number of traces, and only in the fourth generation. -/
theorem rangeByFirmwareId_eq_error_iff {g : Generation} {capabilities firmwareId : Reply}
    {cause : RangeError} :
    rangeByFirmwareId g capabilities firmwareId = .error cause ↔
      g = .v4 ∧
        (capabilities.second.toNat < 2 ∨
          (Range.maximaIn firmwareId).1 < capabilities.second.toNat) ∧
        cause = .invalidTraces ⟨capabilities.second.toNat, (Range.maximaIn firmwareId).1⟩ := by
  unfold rangeByFirmwareId
  generalize Range.maximaIn firmwareId = maxima
  obtain ⟨maxX, maxY⟩ := maxima
  cases g with
  | v4 =>
    have hiff := @Range.traceWidth_eq_error_iff capabilities.second.toNat maxX
    dsimp only
    cases hw : Range.traceWidth maxX capabilities.second.toNat with
    | ok width =>
      rw [hw] at hiff
      refine iff_of_false nofun ?_
      rintro ⟨-, hbad, -⟩
      cases hiff.mpr ⟨hbad, rfl⟩
    | error invalid =>
      obtain ⟨hbad, rfl⟩ := hiff.mp hw
      rw [and_iff_right rfl, and_iff_right hbad]
      exact ⟨fun h => (Except.error.inj h).symm, fun h => congrArg _ h.symm⟩
  | v1 | v2 | v3 => exact iff_of_false nofun fun h => nomatch h.1

/-! ## What comes of asking -/

variable {p : Profile} {es : List Exchange} {v : Except RangeError Range}

namespace RangeCourse

/-- **Every range that is measured is well formed**, whatever the replies are. -/
theorem wellFormed {range : Range} (h : RangeCourse p es (.ok range)) :
    range.WellFormed p.generation p.capabilities.second.toNat := by
  have hv2 (hg : p.generation = .v2) : p.generation ≠ .v4 := by
    rw [hg]
    nofun
  generalize hv : (Except.ok range : Except RangeError Range) = v at h
  cases h with
  | fixed hf =>
    cases hv
    exact Range.wellFormed_of_fixed hf
  | unanswered => cases hv
  | byFirmware hg =>
    cases hv
    exact wellFormed_rangeByFirmware (hv2 hg) _ _
  | sampleUnanswered => cases hv
  | bySample hg =>
    cases hv
    exact wellFormed_rangeBySample (hv2 hg) _ _ _
  | byFirmwareId => exact wellFormed_rangeByFirmwareId hv.symm

/-- A failed query, and only a failed query, is returned as such. -/
theorem eq_query_iff (h : RangeCourse p es v) {cause : CommandError} :
    v = .error (.query cause) ↔ ∃ e ∈ es, e.completion.reply = .error cause := by
  cases h with
  | fixed hf => simp
  | unanswered hf hr he => simp [he]
  | byFirmware hg hf hr he hs => simp [he]
  | sampleUnanswered hg hf hr he hs hr' he' => simp [he, he']
  | bySample hg hf hr he hs hr' he' => simp [he, he']
  | byFirmwareId hg hr he => simp [he, rangeByFirmwareId_eq_error_iff]

/--
**When the traces are invalid**: on the fourth generation, by its firmware id and its capabilities.
-/
theorem eq_invalidTraces_iff (h : RangeCourse p es v) {cause : Range.InvalidTraces} :
    v = .error (.invalidTraces cause) ↔
      p.generation = .v4 ∧ ∃ e ∈ es, ∃ firmwareId, e.request = askFirmwareId .v4 ∧
        e.completion.reply = .ok firmwareId ∧
          (p.capabilities.second.toNat < 2 ∨
            (Range.maximaIn firmwareId).1 < p.capabilities.second.toNat) ∧
          cause = ⟨p.capabilities.second.toNat, (Range.maximaIn firmwareId).1⟩ := by
  cases h with
  | fixed hf => simp
  | unanswered hf hr he => simp [he]
  | byFirmware hg => simp [hg]
  | sampleUnanswered hg => simp [hg]
  | bySample hg => simp [hg]
  | byFirmwareId hg hr he =>
    rw [rangeByFirmwareId_eq_error_iff]
    refine and_congr_right fun hg => ?_
    rw [hg] at hr
    simp [he, hr]

/-- Unless the range is fixed, the firmware id is asked for before anything else. -/
theorem exists_first (h : RangeCourse p es v) (hf : Range.fixed? p.generation p.firmware = none) :
    ∃ e rest, es = e :: rest ∧ e.request = askFirmwareId p.generation := by
  cases h with
  | fixed hsome => cases hf.symm.trans hsome
  | unanswered _ hr => exact ⟨_, _, rfl, hr⟩
  | byFirmware _ _ hr => exact ⟨_, _, rfl, hr⟩
  | sampleUnanswered _ _ hr => exact ⟨_, _, rfl, hr⟩
  | bySample _ _ hr => exact ⟨_, _, rfl, hr⟩
  | byFirmwareId _ hr => exact ⟨_, _, rfl, hr⟩

end RangeCourse

/-! ## The range of a touchpad -/

/--
**What comes of asking for the coordinate range**, for every profile and on every transport. With
numbers of 32 bits the dialogue is the same, and none of its numbers overflows, no difference is
negative and nothing is divided by zero. A range that comes is well-formed. The number of traces is
rejected if and only if the touchpad is of the fourth generation, has answered the query for the
firmware id, and has fewer than two traces or more of them than the largest coordinate says. Nothing
is submitted for a range that is fixed. Otherwise the firmware id is asked for first, and a query
without a reply is what the error tells.
-/
theorem queryRange_law {σ : Type} (t : Transport σ) (s : σ) (p : Profile) :
    let asked := (queryRange p).run.exchanges t s
    let value := ((queryRange p).run.run t s).value
    let traces := p.capabilities.second.toNat
    Unsigned.queryRange p = (queryRange p).adapt Unsigned.Failure.range ∧
      (∀ range, value = .ok range → range.WellFormed p.generation traces) ∧
      (∀ cause, value = .error (.invalidTraces cause) ↔
        p.generation = .v4 ∧ ∃ e ∈ asked, ∃ firmwareId, e.request = askFirmwareId .v4 ∧
          e.completion.reply = .ok firmwareId ∧
            (traces < 2 ∨ (Range.maximaIn firmwareId).1 < traces) ∧
            cause = ⟨traces, (Range.maximaIn firmwareId).1⟩) ∧
      (∀ range, Range.fixed? p.generation p.firmware = some range →
        asked = [] ∧ value = .ok range) ∧
      (Range.fixed? p.generation p.firmware = none →
        ∃ e rest, asked = e :: rest ∧ e.request = askFirmwareId p.generation) ∧
      ∀ cause, value = .error (.query cause) ↔ ∃ e ∈ asked, e.completion.reply = .error cause := by
  intro asked value traces
  have hp : (queryRange p).run.Path asked value := Dialogue.path_run t s _
  have hcourse : RangeCourse p asked value := path_queryRange_course hp
  refine ⟨Unsigned.queryRange_eq p, ?_, ?_, ?_, hcourse.exists_first, ?_⟩
  · intro range hvalue
    rw [hvalue] at hcourse
    exact hcourse.wellFormed
  · intro cause
    exact hcourse.eq_invalidTraces_iff
  · intro range hf
    rwa [queryRange_of_fixed hf] at hp
  · intro cause
    exact hcourse.eq_query_iff

/-- A touchpad of the fourth generation with eleven traces, ten gaps on 1470 coordinates. -/
theorem queryRange_law_of_eleven_traces :
    let p := { Profile.ofGeneration .v4 0x461f00 with capabilities := ⟨0x01, 0x0b, 0x0c⟩ }
    let replies := Script.ofReplies [0x25, 0xbe, 0xbc]
    Range.WellFormed .v4 11 (.upTo 1470 700 147) ∧
      ∃ e rest, (queryRange p).run.exchanges Script.transport replies = e :: rest ∧
        e.request = askFirmwareId .v4 := by
  intro p replies
  obtain ⟨-, hwell, -, -, hfirst, -⟩ := queryRange_law Script.transport replies p
  have hvalue : ((queryRange p).run.run Script.transport replies).value =
      .ok (.upTo 1470 700 147) := by
    decide +kernel
  exact ⟨hwell _ hvalue, hfirst rfl⟩

end Control

end Touchpad
