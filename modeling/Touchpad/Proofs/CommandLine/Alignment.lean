import Touchpad.Proofs.CommandLine.Preparing
import Touchpad.Proofs.Control.Hearing

/-!
# Which reply answers which question

A recorded session is a list of bytes without any marks in it. What they mean depends on which
question takes which three of them, and the questions depend on the bytes: the generation and the
firmware decide about them, and for some firmware a bit of an earlier reply does.

* `neededBytes`: how many bytes a session takes at least
* `Accepted`: bytes from which a touchpad is detected and started
* `sessionQuestions`: the questions of such a session
* `alignment_law`: each of them is answered by the next three bytes

The options say how often a question is repeated. On a list of bytes that never happens with
success.
-/

namespace Touchpad.CommandLine

open Control
open Exchange (questions)

variable {R rest : List UInt8} {asked : List Request} {config : Config} {p q : Profile}

/-! ## What a session takes -/

/-- The number of bytes without which a touchpad is not started. -/
def neededBytes (g : Generation) (firmware : Nat) (R : List UInt8) : Nat :=
  match g with
  | .v1 | .v4 => 12
  | .v2 =>
    if firmware ∈ [0x020800, 0x020b00, 0x020030] then 12
    else if firmware / 0x10000 = 0x14 ∧ R.getD 13 0 &&& 0x10 ≠ 0 then 18
    else 15
  | .v3 => 15

/-- Whether a touchpad with a profile is detected and started from some bytes. -/
structure Accepted (R : List UInt8) (p : Profile) : Prop where
  knock : Identity.answersKnock (Reply.nth R 0) = true
  signed : Identity.isSigned (Reply.nth R 1) = true
  known : Profile.ofFirmware? (Identity.firmware (Reply.nth R 1)) = some p
  length : neededBytes p.generation p.firmware R ≤ R.length
  /-- The first generation confirms absolute mode. -/
  absolute : p.generation = .v1 → R.getD 9 0 &&& 0x04 ≠ 0
  /-- The fourth generation has a number of traces that fits its range. -/
  traces : p.generation = .v4 → 2 ≤ (R.getD 7 0).toNat ∧
    (R.getD 7 0).toNat ≤ (Range.maximaIn (Reply.nth R 3)).1

/-- The questions of a session behind the two of detection, in order. -/
def startQuestions (p : Profile) (R : List UInt8) : List Request :=
  openingQuestions p.generation ++
    askRange p.generation p.firmware (measuresBySample p.firmware (Reply.nth R 4)) ++
    resolutionQuestions p.generation

/-- The questions of a session, in order. -/
def sessionQuestions (p : Profile) (R : List UInt8) : List Request :=
  [Request.magicKnock, Query.request .sliced Query.firmwareVersion] ++ startQuestions p R

/-- The bytes behind the replies of detection and those in front of the range. -/
def rangeBytes (g : Generation) (R : List UInt8) : List UInt8 :=
  (R.drop 6).drop (3 * (openingQuestions g).length)

/-! ## Where the replies are -/

theorem nth_drop_six (R : List UInt8) (k : Nat) : Reply.nth (R.drop 6) k = Reply.nth R (2 + k) :=
  Reply.nth_drop_mul R 2 k

/-- What is asked about the range depends on the firmware id of the session. -/
theorem rangeQuestions_rangeBytes (g : Generation) (firmware : Nat) (R : List UInt8) :
    rangeQuestions g firmware (rangeBytes g R) =
      askRange g firmware (measuresBySample firmware (Reply.nth R 4)) := by
  cases g with
  | v1 | v3 | v4 => rfl
  | v2 =>
    have hreply : Reply.nth (rangeBytes .v2 R) 0 = Reply.nth R 4 :=
      (Reply.nth_drop_mul (R.drop 6) 2 0).trans (nth_drop_six R 2)
    rw [rangeQuestions, hreply]

/-- A session needs the bytes of all questions but the one for the resolution. -/
theorem neededBytes_eq (g : Generation) (firmware : Nat) (R : List UInt8) :
    neededBytes g firmware R = 6 + 3 * (openingQuestions g ++
      askRange g firmware (measuresBySample firmware (Reply.nth R 4))).length := by
  cases g with
  | v1 | v3 | v4 => rfl
  | v2 =>
    have hsample : measuresBySample firmware (Reply.nth R 4) = true ↔
        firmware / 0x10000 = 0x14 ∧ R.getD 13 0 &&& 0x10 ≠ 0 := by
      simp [measuresBySample, Reply.nth]
    rw [neededBytes, askRange, List.length_append]
    split
    · rfl
    · by_cases hs : measuresBySample firmware (Reply.nth R 4) = true
      · rw [if_pos hs, if_pos (hsample.mp hs)]
        rfl
      · rw [if_neg hs, if_neg fun h => hs (hsample.mpr h)]
        rfl

/-- A firmware id makes a range if there are two traces at least and no more than coordinates. -/
theorem exists_rangeByFirmwareId_iff {capabilities firmwareId : Reply} :
    (∃ range, rangeByFirmwareId .v4 capabilities firmwareId = .ok range) ↔
      2 ≤ capabilities.second.toNat ∧
        capabilities.second.toNat ≤ (Range.maximaIn firmwareId).1 := by
  rw [← Nat.not_lt, ← Nat.not_lt, ← not_or]
  simp only [rangeByFirmwareId, Range.traceWidth]
  by_cases hbad : capabilities.second.toNat < 2 ∨
      (Range.maximaIn firmwareId).1 < capabilities.second.toNat
  · rw [if_pos hbad]
    exact iff_of_false nofun fun h => h hbad
  · rw [if_neg hbad]
    exact iff_of_true ⟨_, rfl⟩ hbad

/-- A range is told unless the fourth generation has a number of traces that does not fit it. -/
theorem exists_rangeIn_iff (g : Generation) (firmware : Nat) (R : List UInt8) :
    (∃ range, rangeIn g firmware (Reply.nth R 2) (rangeBytes g R) = .ok range) ↔
      (g = .v4 → 2 ≤ (R.getD 7 0).toNat ∧
        (R.getD 7 0).toNat ≤ (Range.maximaIn (Reply.nth R 3)).1) := by
  cases g with
  | v1 => exact iff_of_true ⟨_, rfl⟩ nofun
  | v2 =>
    refine iff_of_true ?_ nofun
    unfold rangeIn
    split
    · exact ⟨_, rfl⟩
    · by_cases hs : measuresBySample firmware (Reply.nth (rangeBytes .v2 R) 0) = true
      · exact ⟨_, if_pos hs⟩
      · exact ⟨_, if_neg hs⟩
  | v3 => exact iff_of_true ⟨_, rfl⟩ nofun
  | v4 =>
    have hreply : Reply.nth (rangeBytes .v4 R) 0 = Reply.nth R 3 :=
      (Reply.nth_drop_mul (R.drop 6) 1 0).trans (nth_drop_six R 1)
    show (∃ range, rangeByFirmwareId .v4 (Reply.nth R 2) (Reply.nth (rangeBytes .v4 R) 0) = _) ↔ _
    rw [hreply, exists_rangeByFirmwareId_iff]
    exact ⟨fun h _ => h, fun h => h rfl⟩

/-- The resolution is told by the bytes behind those that are needed. -/
theorem resolutionIn_drop (g : Generation) (firmware : Nat) (other : Resolution) (R : List UInt8) :
    resolutionIn g other ((R.drop 6).drop (3 * (openingQuestions g ++
        askRange g firmware (measuresBySample firmware (Reply.nth R 4))).length)) =
      if g = .v4 ∧ 15 ≤ R.length then Resolution.ofReply (Reply.nth R 4) else other := by
  unfold resolutionIn
  by_cases hg : g = .v4
  · subst hg
    have hreply : Reply.nth ((R.drop 6).drop (3 * 2)) 0 = Reply.nth R 4 :=
      (Reply.nth_drop_mul (R.drop 6) 2 0).trans (nth_drop_six R 2)
    have hlen : 3 ≤ ((R.drop 6).drop (3 * 2)).length ↔ 15 ≤ R.length := by
      rw [List.length_drop, List.length_drop]
      omega
    show (if _ ∧ 3 ≤ ((R.drop 6).drop (3 * 2)).length then
      Resolution.ofReply (Reply.nth ((R.drop 6).drop (3 * 2)) 0) else other) = _
    rw [hreply]
    simp only [hlen]
  · rw [if_neg fun h => hg h.1, if_neg fun h => hg h.1]

theorem drop_startQuestions (p : Profile) (R : List UInt8) :
    (R.drop 6).drop (3 * (startQuestions p R).length) =
      R.drop (3 * (sessionQuestions p R).length) := by
  rw [List.drop_drop, sessionQuestions, List.length_append, Nat.mul_add]
  rfl

/-- Each question of a session takes three bytes; the resolution need not be there. -/
theorem length_sessionQuestions (p : Profile) (R : List UInt8) :
    3 * (sessionQuestions p R).length =
      neededBytes p.generation p.firmware R + if p.generation = .v4 then 3 else 0 := by
  have hresolution : 3 * (resolutionQuestions p.generation).length =
      if p.generation = .v4 then 3 else 0 := by
    unfold resolutionQuestions
    split <;> rfl
  rw [neededBytes_eq, ← hresolution]
  simp only [sessionQuestions, startQuestions, List.length_append, List.length_cons,
    List.length_nil]
  omega

theorem readCount_of_mem_askRange {g : Generation} {firmware : Nat} {sample : Bool} :
    ∀ r ∈ askRange g firmware sample, r.readCount = 3 := by
  have hasked (command : UInt8) : (Query.request g.queryEncoding command).readCount = 3 :=
    Query.readCount_request _ command
  unfold askRange
  split
  · simp
  · split
    · simp
    · split <;> simp [askFirmwareId, hasked]
  · simp [askFirmwareId, hasked]
  · simp [askFirmwareId, hasked]

theorem readCount_of_mem_sessionQuestions :
    ∀ r ∈ sessionQuestions p R, r.readCount = 3 := by
  have hmode : ∀ r ∈ modeQuestions p.generation, r.readCount = 3 := by
    unfold modeQuestions
    split <;> simp [readMode, Register.readCount_readRequest]
  have hresolution : ∀ r ∈ resolutionQuestions p.generation, r.readCount = 3 := by
    unfold resolutionQuestions
    split <;> simp [readCount_askResolution]
  simp only [sessionQuestions, startQuestions, openingQuestions, List.forall_mem_append,
    List.forall_mem_cons]
  exact ⟨⟨rfl, Query.readCount_request _ _, List.forall_mem_nil _⟩,
    ⟨⟨Query.readCount_request _ _, hmode⟩, readCount_of_mem_askRange⟩, hresolution⟩

/-! ## The law -/

/-- The profile that a session ends with, from the one that was detected and the range. -/
def preparedProfile (p : Profile) (range : Range) (R : List UInt8) : Profile :=
  { p with
    capabilities := Reply.nth R 2
    registers := p.generation.absoluteMode
    bounds := range.bounds
    width := range.width
    resolution :=
      if p.generation = .v4 ∧ 15 ≤ R.length then Resolution.ofReply (Reply.nth R 4) else {} }

/-- A start-up behind the two replies by which a touchpad was detected. -/
theorem heard_start_detected_iff {firmware : Nat}
    (hp : Profile.ofFirmware? firmware = some p) (hlen : 6 ≤ R.length) :
    Heard (R.drop 6) ((start p config).Path · (.ok (), q)) asked rest ↔
      neededBytes p.generation p.firmware R ≤ R.length ∧
        (p.generation = .v1 → R.getD 9 0 &&& 0x04 ≠ 0) ∧
        ∃ range, rangeIn p.generation p.firmware (Reply.nth R 2) (rangeBytes p.generation R) =
            .ok range ∧
          q = preparedProfile p range R ∧
          asked = startQuestions p R ∧ rest = (R.drop 6).drop (3 * asked.length) := by
  obtain ⟨g, -, rfl⟩ := Option.map_eq_some_iff.mp hp
  have hbytes : (R.drop 6).drop (3 * (openingQuestions g).length) = rangeBytes g R := rfl
  rw [heard_start_iff]
  simp only [Profile.ofGeneration, hbytes, rangeQuestions_rangeBytes, resolutionIn_drop g firmware,
    nth_drop_six, List.nil_append]
  refine and_congr ?_ Iff.rfl
  rw [neededBytes_eq, List.length_drop]
  omega

/-- **A session on some bytes** is what can be read off them. -/
theorem heard_preparing_iff :
    Heard R ((preparing config).Path · (.ok q)) asked rest ↔
      ∃ p range, Accepted R p ∧
        rangeIn p.generation p.firmware (Reply.nth R 2) (rangeBytes p.generation R) = .ok range ∧
        q = preparedProfile p range R ∧ asked = sessionQuestions p R ∧
        rest = R.drop (3 * asked.length) := by
  rw [Heard.congr fun _ => path_preparing_ok_iff, Heard.exists_iff]
  refine exists_congr fun p => ?_
  rw [Heard.append_iff]
  constructor
  · rintro ⟨_, _, others, rfl, hdetect, hstart⟩
    obtain ⟨hlen, hknock, hsigned, hknown, rfl, rfl⟩ := heard_detect_iff.mp hdetect
    obtain ⟨hneeded, hbit, range, hrange, hq, rfl, rfl⟩ :=
      (heard_start_detected_iff hknown hlen).mp hstart
    have htraces := (exists_rangeIn_iff p.generation p.firmware R).mp ⟨range, hrange⟩
    refine ⟨range, ⟨hknock, hsigned, hknown, hneeded, hbit, htraces⟩, hrange, hq, rfl,
      drop_startQuestions p R⟩
  · rintro ⟨range, ⟨hknock, hsigned, hknown, hneeded, hbit, -⟩, hrange, hq, rfl, rfl⟩
    have hlen : 6 ≤ R.length := by
      rw [neededBytes_eq] at hneeded
      omega
    refine ⟨_, _, _, rfl, heard_detect_iff.mpr ⟨hlen, hknock, hsigned, hknown, rfl, rfl⟩,
      (heard_start_detected_iff hknown hlen).mpr ⟨hneeded, hbit, range, hrange, hq, rfl,
        (drop_startQuestions p R).symm⟩⟩

/-- Bytes that are accepted are heard by a session that succeeds. -/
theorem exists_heard_of_accepted (config : Config) (h : Accepted R p) :
    ∃ range,
      rangeIn p.generation p.firmware (Reply.nth R 2) (rangeBytes p.generation R) = .ok range ∧
        Heard R ((preparing config).Path · (.ok (preparedProfile p range R)))
          (sessionQuestions p R) (R.drop (3 * (sessionQuestions p R).length)) := by
  obtain ⟨range, hrange⟩ := (exists_rangeIn_iff p.generation p.firmware R).mpr h.traces
  exact ⟨range, hrange, heard_preparing_iff.mpr ⟨p, range, h, hrange, rfl, rfl, rfl⟩⟩

/--
**Replies are aligned with questions.** A touchpad is detected and started from exactly the bytes
that are accepted, whatever the options. Its questions then follow from these bytes, each takes the
next three of them, and so the profile is made of what stands where each question finds its reply.
Behind the needed bytes only the resolution of the fourth generation takes some: three, or the one
or two that are there, which tell no resolution.
-/
theorem alignment_law (R : List UInt8) (config : Config) :
    let run := (preparing config).run Script.transport (.ofReplies R)
    let asked := questions ((preparing config).exchanges Script.transport (.ofReplies R))
    ((∃ profile, run.value = .ok profile) ↔ ∃ p, Accepted R p) ∧
      ∀ p, Accepted R p →
        (∃ range,
          rangeIn p.generation p.firmware (Reply.nth R 2) (rangeBytes p.generation R) = .ok range ∧
            run.value = .ok (preparedProfile p range R)) ∧
        asked.map Exchange.request = sessionQuestions p R ∧
        (∀ k e, asked[k]? = some e → e.taken = (R.drop (3 * k)).take 3) ∧
        run.state.replies =
          R.drop (neededBytes p.generation p.firmware R + if p.generation = .v4 then 3 else 0) := by
  intro run asked
  refine ⟨⟨?_, ?_⟩, fun p h => ?_⟩
  · rintro ⟨profile, hv⟩
    have hpath := Dialogue.path_run Script.transport (.ofReplies R) (preparing config)
    have htold := Dialogue.told_run (preparing config) (.ofReplies R)
    obtain ⟨p, -, h, -⟩ := heard_preparing_iff.mp ⟨_, hv ▸ hpath, htold, rfl⟩
    exact ⟨p, h⟩
  · rintro ⟨p, h⟩
    obtain ⟨range, -, es, hp, ht, -⟩ := exists_heard_of_accepted config h
    exact ⟨_, (Dialogue.run_of_told (s := .ofReplies R) hp ht).2.1⟩
  · obtain ⟨range, hrange, es, hp, ht, hasked⟩ := exists_heard_of_accepted config h
    obtain ⟨rfl, hv, hs⟩ := Dialogue.run_of_told (s := .ofReplies R) hp ht
    have htaken := (ht.taken_eq (hasked ▸ readCount_of_mem_sessionQuestions)).2
    refine ⟨⟨range, hrange, hv⟩, hasked, htaken, ?_⟩
    rw [hs, length_sessionQuestions]

/-- One byte too many is dropped, and tells no resolution. -/
theorem alignment_law_of_dropped_byte :
    let R : List UInt8 :=
      [0x3c, 0x03, 0xc8, 0x46, 0x1f, 0x00, 0x08, 0x0f, 0x0c, 0x25, 0xbe, 0xbc, 0x31]
    let p := Profile.ofGeneration .v4 0x461f00
    let run := (preparing {}).run Script.transport (.ofReplies R)
    Accepted R p ∧
      (∃ profile, run.value = .ok profile ∧ profile.capabilities = ⟨0x08, 0x0f, 0x0c⟩ ∧
        profile.resolution = {}) ∧
      run.state.replies = [] := by
  intro R p run
  have h : Accepted R p := ⟨by decide, by decide, by decide, by decide, nofun, by decide⟩
  obtain ⟨⟨range, -, hv⟩, -, -, hrest⟩ := (alignment_law R {}).2 p h
  exact ⟨h, ⟨_, hv, rfl, rfl⟩, hrest⟩

end Touchpad.CommandLine
