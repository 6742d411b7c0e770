import Touchpad.Control.Detection
import Touchpad.Proofs.Control.Paths

/-!
# Which devices are recognized

A device is recognized by two replies, each of which is checked, and the first check that fails ends
the detection. What is checked is said here in terms of the bytes of the replies.

* `Identity.answersKnock_iff`, `Identity.isSigned_iff`, `Identity.ofFirmware?_eq_some_iff`: the
  checks
* `Control.DetectionCourse`: the ways in which detection can go
* `Control.detect_law`: what is submitted, and what comes of it, on every transport
-/

namespace Touchpad

variable {reply : Reply} {g : Generation}

/-! ## The checks -/

namespace Identity

/-- The replies to the magic knock that only the hardware gives. -/
def knockAnswers : List Reply := [⟨0x3c, 0x03, 0xc8⟩, ⟨0x3c, 0x03, 0x00⟩]

theorem answersKnock_iff : answersKnock reply = true ↔ reply ∈ knockAnswers := by
  obtain ⟨first, second, third⟩ := reply
  simp [answersKnock, knockAnswers]
  tauto

/-- Whether a version reply cannot be the status of a mouse, which ends with a sample rate. -/
def Signed (reply : Reply) : Prop :=
  reply.first ≠ 0 ∧ (reply.second = 0 ∨ reply.third ∉ mouseSampleRates)

theorem isSigned_iff : isSigned reply = true ↔ Signed reply := by
  simp [isSigned, Signed]

/-- Whether a firmware version is older than the numbering of controllers. -/
def Early (firmware : Nat) : Prop := firmware < 0x020030 ∨ firmware = 0x020600

/-- Whether a version reply is one of a generation. -/
def Tells (reply : Reply) : Generation → Prop
  | .v1 => Early (firmware reply)
  | .v2 => ¬ Early (firmware reply) ∧ (reply.first.toNat % 16 = 2 ∨ reply.first.toNat % 16 = 4)
  | .v3 => ¬ Early (firmware reply) ∧ reply.first.toNat % 16 = 5
  | .v4 => ¬ Early (firmware reply) ∧ reply.first.toNat % 16 = 6

/-- The controller is in the leading byte. -/
theorem firmware_div (reply : Reply) : firmware reply / 0x10000 = reply.first.toNat := by
  have h2 := reply.second.toNat_lt
  have h3 := reply.third.toNat_lt
  unfold firmware
  omega

theorem le_firmware (h : reply.first ≠ 0) : 0x10000 ≤ firmware reply := by
  have hpos : reply.first.toNat ≠ 0 := fun hzero => h (UInt8.toNat_inj.mp hzero)
  unfold firmware
  omega

theorem ofController?_eq_some_iff {n : Nat} :
    Generation.ofController? n = some g ↔
      (n = 2 ∨ n = 4) ∧ g = .v2 ∨ n = 5 ∧ g = .v3 ∨ n = 6 ∧ g = .v4 := by
  unfold Generation.ofController?
  split <;> simp_all [eq_comm]

/-- **The generation of a version reply.** -/
theorem ofFirmware?_eq_some_iff :
    Generation.ofFirmware? (firmware reply) = some g ↔ Tells reply g := by
  unfold Generation.ofFirmware?
  rw [firmware_div]
  split
  case isTrue hearly =>
    have hearly : Early (firmware reply) := hearly
    cases g <;> simp [Tells, hearly]
  case isFalse hlater =>
    have hlater : ¬ Early (firmware reply) := hlater
    rw [ofController?_eq_some_iff]
    cases g <;> simp [Tells, hlater]

theorem Tells.unique {g' : Generation} (h : Tells reply g) (h' : Tells reply g') : g = g' :=
  Option.some.inj
    ((ofFirmware?_eq_some_iff.mpr h).symm.trans (ofFirmware?_eq_some_iff.mpr h'))

/-- The versions that tell a generation. -/
theorem exists_tells_iff :
    (∃ g, Tells reply g) ↔
      Early (firmware reply) ∨ reply.first.toNat % 16 ∈ [2, 4, 5, 6] := by
  simp only [List.mem_cons, List.not_mem_nil, or_false]
  constructor
  · rintro ⟨g, hg⟩
    cases g <;> simp only [Tells] at hg <;> tauto
  · intro h
    by_cases hearly : Early (firmware reply)
    · exact ⟨.v1, hearly⟩
    · rcases h with h | h | h | h | h
      · exact absurd h hearly
      · exact ⟨.v2, hearly, .inl h⟩
      · exact ⟨.v2, hearly, .inr h⟩
      · exact ⟨.v3, hearly, h⟩
      · exact ⟨.v4, hearly, h⟩

end Identity

/-! ## Round trips with a reply -/

/-- A round trip with at least three reads comes without a reply only if it failed. -/
theorem Exchange.reply_eq_error_iff {e : Exchange} {cause : CommandError}
    (h : 3 ≤ e.request.readCount) :
    e.completion.reply = .error cause ↔
      ∃ failure, e.outcome = .error failure ∧ cause = .transport failure := by
  obtain ⟨reply, hr⟩ := Request.exists_reply (r := e.request.fill e.taken)
    (by rwa [Request.readCount_fill])
  unfold Completion.reply completion
  rw [hr]
  cases e.outcome <;> simp [eq_comm]

namespace Control

open Identity (knockAnswers Signed Tells Early firmware)

/-! ## The course of a detection -/

/-- The request for the firmware version, the same for every generation. -/
def askVersion : Request := Query.request .sliced Query.firmwareVersion

/-- Whether a round trip is the magic knock, with one of the answers of the hardware. -/
def Knocked (e : Exchange) : Prop :=
  e.request = Request.magicKnock ∧ ∃ reply ∈ knockAnswers, e.completion.reply = .ok reply

/-- How detection can go: the first check that fails is the last one. -/
inductive DetectionCourse : List Exchange → Except DetectionError Profile → Prop
  | unanswered {e : Exchange} {cause : CommandError} : e.request = Request.magicKnock →
      e.completion.reply = .error cause → DetectionCourse [e] (.error (.command cause))
  | unexpectedKnock {e : Exchange} {knock : Reply} : e.request = Request.magicKnock →
      e.completion.reply = .ok knock → knock ∉ knockAnswers →
        DetectionCourse [e] (.error (.unexpectedKnock knock))
  | versionUnanswered {e e' : Exchange} {cause : CommandError} : Knocked e →
      e'.request = askVersion → e'.completion.reply = .error cause →
        DetectionCourse [e, e'] (.error (.command cause))
  | unsigned {e e' : Exchange} {version : Reply} : Knocked e → e'.request = askVersion →
      e'.completion.reply = .ok version → ¬ Signed version →
        DetectionCourse [e, e'] (.error (.invalidSignature version))
  | unknownHardware {e e' : Exchange} {version : Reply} : Knocked e → e'.request = askVersion →
      e'.completion.reply = .ok version → Signed version → (∀ g, ¬ Tells version g) →
        DetectionCourse [e, e'] (.error (.unknownHardware (firmware version)))
  | recognized {e e' : Exchange} {version : Reply} {g : Generation} : Knocked e →
      e'.request = askVersion → e'.completion.reply = .ok version → Signed version →
        Tells version g → DetectionCourse [e, e'] (.ok (.ofGeneration g (firmware version)))

variable {es : List Exchange} {v : Except DetectionError Profile}

/-- **Detection takes one of its courses.** -/
theorem path_detect_course (hp : detect.run.Path es v) : DetectionCourse es v := by
  have hknock : Asks (exchange Request.magicKnock) Request.magicKnock _ := asks_exchange (by decide)
  obtain ⟨e, rest, rfl, hr, ⟨knock, hreply, hp⟩ | ⟨cause, hreply, rfl, rfl⟩⟩ := hknock.cases_bind hp
  case inr => exact .unanswered hr hreply
  rcases path_check_iff.mp hp with ⟨hbad, rfl, rfl⟩ | ⟨hgood, hp⟩
  case inl =>
    refine .unexpectedKnock hr hreply fun hanswer => ?_
    rw [Identity.answersKnock_iff.mpr hanswer] at hbad
    cases hbad
  have hanswer : knock ∈ knockAnswers := Identity.answersKnock_iff.mp (by simpa using hgood)
  have hknocked : Knocked e := ⟨hr, knock, hanswer, hreply⟩
  have hask : Asks (sendQuery .sliced Query.firmwareVersion) askVersion _ := asks_sendQuery _ _
  obtain ⟨e', rest, rfl, hr', ⟨version, hreply', hp⟩ | ⟨cause, hreply', rfl, rfl⟩⟩ :=
    hask.cases_bind hp
  case inr => exact .versionUnanswered hknocked hr' hreply'
  rcases path_check_iff.mp hp with ⟨hbad, rfl, rfl⟩ | ⟨hgood, hp⟩
  case inl =>
    refine .unsigned hknocked hr' hreply' fun hsigned => ?_
    rw [Identity.isSigned_iff.mpr hsigned] at hbad
    cases hbad
  have hsigned : Signed version := Identity.isSigned_iff.mp (by simpa using hgood)
  cases hg : Generation.ofFirmware? (firmware version) with
  | none =>
    have hresolve : Profile.resolve (firmware version) =
        .error (.unknownHardware (firmware version)) := by
      simp [Profile.resolve, Profile.ofFirmware?, hg]
    rw [hresolve] at hp
    obtain ⟨rfl, rfl⟩ := hp
    refine .unknownHardware hknocked hr' hreply' hsigned fun g htells => ?_
    cases hg.symm.trans (Identity.ofFirmware?_eq_some_iff.mpr htells)
  | some g =>
    have hresolve :
        Profile.resolve (firmware version) = .ok (.ofGeneration g (firmware version)) := by
      simp [Profile.resolve, Profile.ofFirmware?, hg]
    rw [hresolve] at hp
    obtain ⟨rfl, rfl⟩ := hp
    exact .recognized hknocked hr' hreply' hsigned (Identity.ofFirmware?_eq_some_iff.mp hg)

/-! ## What comes of it -/

/-- Whether nothing is known of a touchpad beyond its firmware version. -/
structure Unmeasured (p : Profile) : Prop where
  capabilities : p.capabilities = ⟨0, 0, 0⟩
  registers : p.registers = []
  bounds : p.bounds = ⟨0, 0, 0, 0⟩
  width : p.width = 0
  resolution : p.resolution = ⟨0, 0⟩

/-- A profile that was just detected has not been measured. -/
theorem unmeasured_ofGeneration (g : Generation) (firmware : Nat) :
    Unmeasured (.ofGeneration g firmware) :=
  ⟨rfl, rfl, rfl, rfl, rfl⟩

namespace DetectionCourse

/-- The version is asked for if and only if the knock was answered. -/
theorem requests (h : DetectionCourse es v) :
    ∃ e, e.request = Request.magicKnock ∧
      (es = [e] ∧ (∀ reply ∈ knockAnswers, e.completion.reply ≠ .ok reply) ∨
        ∃ e', es = [e, e'] ∧ e'.request = askVersion ∧
          ∃ reply ∈ knockAnswers, e.completion.reply = .ok reply) := by
  cases h with
  | unanswered hr he => exact ⟨_, hr, .inl ⟨rfl, fun _ _ => by simp [he]⟩⟩
  | unexpectedKnock hr he hbad =>
    refine ⟨_, hr, .inl ⟨rfl, fun reply hmem heq => hbad ?_⟩⟩
    rw [he] at heq
    cases heq
    exact hmem
  | versionUnanswered hk hr' => exact ⟨_, hk.1, .inr ⟨_, rfl, hr', hk.2⟩⟩
  | unsigned hk hr' => exact ⟨_, hk.1, .inr ⟨_, rfl, hr', hk.2⟩⟩
  | unknownHardware hk hr' => exact ⟨_, hk.1, .inr ⟨_, rfl, hr', hk.2⟩⟩
  | recognized hk hr' => exact ⟨_, hk.1, .inr ⟨_, rfl, hr', hk.2⟩⟩

/-- What is said of the reply to a second request is said of the one that came. -/
theorem exists_version_iff {e e' : Exchange} {version : Reply} {P : Reply → Prop}
    (he' : e'.completion.reply = .ok version) :
    (∃ knock query reply, [e, e'] = [knock, query] ∧ query.completion.reply = .ok reply ∧ P reply) ↔
      P version := by
  simp [he']

/-- **Detection succeeds** exactly if the version is signed and tells a generation. -/
theorem eq_ok_iff (h : DetectionCourse es v) {p : Profile} :
    v = .ok p ↔ ∃ knock query version, es = [knock, query] ∧
      query.completion.reply = .ok version ∧ Signed version ∧ Tells version p.generation ∧
        p = .ofGeneration p.generation (firmware version) := by
  cases h with
  | unanswered | unexpectedKnock => simp
  | versionUnanswered _ _ he' => simp [he']
  | unsigned _ _ he' hbad =>
    rw [exists_version_iff he']
    exact iff_of_false nofun fun hok => hbad hok.1
  | unknownHardware _ _ he' _ hbad =>
    rw [exists_version_iff he']
    exact iff_of_false nofun fun hok => hbad _ hok.2.1
  | recognized _ _ he' hs hg =>
    rw [exists_version_iff he']
    constructor
    · intro hv
      cases hv
      exact ⟨hs, hg, rfl⟩
    · rintro ⟨-, hg', hp⟩
      rw [hp, hg.unique hg']

/--
**The knock is unexpected** exactly if it is answered otherwise, and then nothing else is asked.
-/
theorem eq_unexpectedKnock_iff (h : DetectionCourse es v) {reply : Reply} :
    v = .error (.unexpectedKnock reply) ↔
      ∃ knock, es = [knock] ∧ knock.completion.reply = .ok reply ∧ reply ∉ knockAnswers := by
  cases h with
  | unanswered _ he => simp [he]
  | unexpectedKnock _ he hbad =>
    constructor
    · intro hv
      cases hv
      exact ⟨_, rfl, he, hbad⟩
    · rintro ⟨_, hes, hreply, -⟩
      cases hes
      cases he.symm.trans hreply
      rfl
  | versionUnanswered | unsigned | unknownHardware | recognized => simp

/-- **The signature is invalid** exactly if the version is known and not signed. -/
theorem eq_invalidSignature_iff (h : DetectionCourse es v) {reply : Reply} :
    v = .error (.invalidSignature reply) ↔
      ∃ knock query version, es = [knock, query] ∧ query.completion.reply = .ok version ∧
        ¬ Signed version ∧ reply = version := by
  cases h with
  | unanswered | unexpectedKnock => simp
  | versionUnanswered _ _ he' => simp [he']
  | unsigned _ _ he' hbad =>
    rw [exists_version_iff he', and_iff_right hbad]
    simp [eq_comm]
  | unknownHardware _ _ he' hs | recognized _ _ he' hs =>
    rw [exists_version_iff he']
    exact iff_of_false nofun fun hbad => hbad.1 hs

/-- **The hardware is unknown** exactly if a signed version tells no generation. -/
theorem eq_unknownHardware_iff (h : DetectionCourse es v) {n : Nat} :
    v = .error (.unknownHardware n) ↔
      ∃ knock query version, es = [knock, query] ∧ query.completion.reply = .ok version ∧
        Signed version ∧ (∀ g, ¬ Tells version g) ∧ n = firmware version := by
  cases h with
  | unanswered | unexpectedKnock => simp
  | versionUnanswered _ _ he' => simp [he']
  | unsigned _ _ he' hbad =>
    rw [exists_version_iff he']
    exact iff_of_false nofun fun hs => hbad hs.1
  | unknownHardware _ _ he' hs hbad =>
    rw [exists_version_iff he', and_iff_right hs, and_iff_right hbad]
    simp [eq_comm]
  | recognized _ _ he' _ hg =>
    rw [exists_version_iff he']
    exact iff_of_false nofun fun hbad => hbad.2.1 _ hg

/-- Both requests have a reply, so that only the transport can keep it back. -/
theorem readCount (h : DetectionCourse es v) : ∀ e ∈ es, 3 ≤ e.request.readCount := by
  obtain ⟨e, hr, ⟨rfl, -⟩ | ⟨e', rfl, hr', -⟩⟩ := h.requests
  · simp only [List.forall_mem_singleton, hr]
    decide
  · simp only [List.forall_mem_cons, hr, hr', askVersion]
    decide

/-- **A command fails** exactly if one of the round trips does. -/
theorem eq_command_iff (h : DetectionCourse es v) {cause : CommandError} :
    v = .error (.command cause) ↔
      ∃ e ∈ es, ∃ failure, e.outcome = .error failure ∧ cause = .transport failure := by
  have hfailed : v = .error (.command cause) ↔ ∃ e ∈ es, e.completion.reply = .error cause := by
    cases h with
    | unanswered _ he => simp [he]
    | unexpectedKnock _ he => simp [he]
    | versionUnanswered hk _ he' =>
      obtain ⟨-, _, -, he⟩ := hk
      simp [he, he']
    | unsigned hk _ he' | unknownHardware hk _ he' | recognized hk _ he' =>
      obtain ⟨-, _, -, he⟩ := hk
      simp [he, he']
  rw [hfailed]
  refine exists_congr fun e => and_congr_right fun he => ?_
  exact Exchange.reply_eq_error_iff (h.readCount e he)

end DetectionCourse

/--
**Which devices are recognized**, on every transport. The magic knock is submitted first, and the
query of the firmware version only if the knock was answered as the hardware does. A profile comes
if and only if the version came, is signed and tells a generation; the profile has this generation
and version, and nothing else in it is known. Otherwise the error is the first check that failed,
with what the transport said, the bytes of the reply, or the version.
-/
theorem detect_law {σ : Type} (t : Transport σ) (s : σ) :
    let asked := detect.run.exchanges t s
    let value := (detect.run.run t s).value
    (detect.run.run t s).requests = asked.map Exchange.request ∧
    (∃ knock, knock.request = Request.magicKnock ∧
      (asked = [knock] ∧ (∀ reply ∈ knockAnswers, knock.completion.reply ≠ .ok reply) ∨
        ∃ query, asked = [knock, query] ∧ query.request = askVersion ∧
          ∃ reply ∈ knockAnswers, knock.completion.reply = .ok reply)) ∧
    ((∃ p, value = .ok p) ↔
      ∃ knock query version, asked = [knock, query] ∧ query.completion.reply = .ok version ∧
        Signed version ∧
          (Early (firmware version) ∨ version.first.toNat % 16 ∈ [2, 4, 5, 6])) ∧
    (∀ p, value = .ok p ↔
      ∃ knock query version, asked = [knock, query] ∧ query.completion.reply = .ok version ∧
        Signed version ∧ Tells version p.generation ∧
          p = .ofGeneration p.generation (firmware version)) ∧
    (∀ p, value = .ok p → 0x010000 ≤ p.firmware ∧ p.firmware < 0x1000000 ∧ Unmeasured p) ∧
    (∀ cause, value = .error (.command cause) ↔
      ∃ e ∈ asked, ∃ failure, e.outcome = .error failure ∧ cause = .transport failure) ∧
    (∀ reply, value = .error (.unexpectedKnock reply) ↔
      ∃ knock, asked = [knock] ∧ knock.completion.reply = .ok reply ∧ reply ∉ knockAnswers) ∧
    (∀ reply, value = .error (.invalidSignature reply) ↔
      ∃ knock query version, asked = [knock, query] ∧ query.completion.reply = .ok version ∧
        ¬ Signed version ∧ reply = version) ∧
    ∀ n, value = .error (.unknownHardware n) ↔
      ∃ knock query version, asked = [knock, query] ∧ query.completion.reply = .ok version ∧
        Signed version ∧ (∀ g, ¬ Tells version g) ∧ n = firmware version := by
  intro asked value
  have hcourse : DetectionCourse asked value := path_detect_course (Dialogue.path_run t s _)
  refine ⟨Dialogue.requests_run t s _, hcourse.requests, ?_, fun p => hcourse.eq_ok_iff, ?_,
    fun cause => hcourse.eq_command_iff, fun reply => hcourse.eq_unexpectedKnock_iff,
    fun reply => hcourse.eq_invalidSignature_iff, fun n => hcourse.eq_unknownHardware_iff⟩
  · constructor
    · rintro ⟨p, hp⟩
      obtain ⟨knock, query, version, hasked, hversion, hsigned, hg, -⟩ := hcourse.eq_ok_iff.mp hp
      exact ⟨knock, query, version, hasked, hversion, hsigned,
        Identity.exists_tells_iff.mp ⟨_, hg⟩⟩
    · rintro ⟨knock, query, version, hasked, hversion, hsigned, hknown⟩
      obtain ⟨g, hg⟩ := Identity.exists_tells_iff.mpr hknown
      exact ⟨.ofGeneration g (firmware version), hcourse.eq_ok_iff.mpr
        ⟨knock, query, version, hasked, hversion, hsigned, hg, rfl⟩⟩
  · intro p hp
    obtain ⟨_, _, version, -, -, hsigned, -, hprofile⟩ := hcourse.eq_ok_iff.mp hp
    rw [hprofile]
    exact ⟨Identity.le_firmware hsigned.1, Identity.firmware_lt version,
      unmeasured_ofGeneration _ _⟩

end Control

end Touchpad
