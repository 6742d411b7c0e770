import Touchpad.Proofs.Control.Paths

/-!
# The plan of a start-up

What a start-up does is laid down by the generation and the firmware, up to what two replies say:
the capabilities, which a firmware id has to agree with, and whether the firmware id calls for a
sample. The plan is put together from the plans of its parts, and each part of the dialogue keeps to
its own.

* `RangeCourse`, `path_queryRange`: asking for the range
* `path_completeResolution_iff`: asking for the resolution
* `path_measureAndEnable`, `path_enterAbsoluteMode`: what follows the capabilities
* `nodup_startPlan`: no request belongs to two steps
* `path_start`: the whole start-up
-/

namespace Touchpad

namespace Control

/-! ## The plan -/

/-- The request for the capabilities. -/
def askCapabilities (g : Generation) : Request := Query.request g.queryEncoding Query.capabilities

/-- The request for the firmware id. -/
def askFirmwareId (g : Generation) : Request := Query.request g.queryEncoding Query.firmwareId

/-- The request for the resolution. -/
def askResolution (g : Generation) : Request := Query.request g.queryEncoding Query.resolution

/-- The request that reads back the mode register. -/
def readMode (g : Generation) : Request := Register.readRequest g modeRegister

/-- The requests that write the settings of absolute mode. -/
def writeMode (g : Generation) : List Request :=
  g.absoluteMode.map fun s => Register.writeRequest g s.register s.value

/-- The requests for the coordinate range. -/
def askRange (g : Generation) (firmware : Nat) (sample : Bool) : List Request :=
  match g with
  | .v1 => []
  | .v2 =>
    if firmware ∈ [0x020800, 0x020b00, 0x020030] then []
    else if sample then [askFirmwareId g, Query.request g.queryEncoding Query.sample]
    else [askFirmwareId g]
  | .v3 | .v4 => [askFirmwareId g]

/-- Whether what was read back does not contradict absolute mode. -/
def ConfirmsMode (g : Generation) (e : Exchange) : Prop :=
  g = .v1 → ∃ reply, e.completion.reply = .ok reply ∧ reply.first &&& absoluteModeBit ≠ 0

/-- Whether the firmware id calls for a sample. -/
def SampleDue (g : Generation) (firmware : Nat) (es : List Exchange) : Prop :=
  g = .v2 ∧ firmware / 0x10000 = 0x14 ∧ ∃ e ∈ es, e.request = askFirmwareId g ∧
    ∃ reply, e.completion.reply = .ok reply ∧ reply.second &&& 0x10 ≠ 0

/-- The step that asks for the capabilities. -/
def capabilitiesStep (g : Generation) (config : Config) : Step where
  request := askCapabilities g
  more := max config.commandRetries 1 - 1

/-- The step that reads back the mode register. -/
def confirmStep (g : Generation) (config : Config) : Step where
  request := readMode g
  more := max config.readBackRetries 1 - 1
  accepts := ConfirmsMode g

/-- The plan of absolute mode. -/
def entering (g : Generation) (config : Config) : List Step :=
  (writeMode g).map Step.once ++ if g.readsBackMode then [confirmStep g config] else []

/-- Whether the reply of a round trip is a firmware id that makes a range with the capabilities. -/
def MakesRange (capabilities : Reply) (e : Exchange) : Prop :=
  ∃ firmwareId range, e.completion.reply = .ok firmwareId ∧
    rangeByFirmwareId .v4 capabilities firmwareId = .ok range

/-- The step that asks the fourth generation for its firmware id. -/
def tracesStep (capabilities : Reply) : Step where
  request := askFirmwareId .v4
  accepts := MakesRange capabilities

/-- The plan of the coordinate range. -/
def ranging (g : Generation) (capabilities : Reply) (firmware : Nat) (sample : Bool) : List Step :=
  if g = .v4 then [tracesStep capabilities] else (askRange g firmware sample).map Step.once

/-- The step that asks for the resolution, of which nothing depends. -/
def resolutionStep (g : Generation) : Step where
  request := askResolution g
  needed := false

/-- The plan of the resolution. -/
def resolving (g : Generation) : List Step := if g = .v4 then [resolutionStep g] else []

/-- The step that switches reporting on. -/
def enabling : Step := Step.once (Request.reporting true)

/-- The plan of a whole start-up. -/
def startPlan (g : Generation) (capabilities : Reply) (firmware : Nat) (config : Config)
    (sample : Bool) : List Step :=
  capabilitiesStep g config :: (entering g config ++
    (ranging g capabilities firmware sample ++ (resolving g ++ [enabling])))

/-! ## The requests of the plan -/

section Requests

variable {g : Generation} {capabilities : Reply} {firmware : Nat} {config : Config} {sample : Bool}

theorem map_request_map_once (rs : List Request) : (rs.map Step.once).map Step.request = rs := by
  rw [List.map_map]
  exact List.map_id rs

theorem map_request_entering :
    (entering g config).map Step.request =
      writeMode g ++ if g.readsBackMode then [readMode g] else [] := by
  cases g <;> rfl

theorem map_request_ranging :
    (ranging g capabilities firmware sample).map Step.request = askRange g firmware sample := by
  unfold ranging
  split
  · next hg =>
    subst hg
    rfl
  · exact map_request_map_once _

theorem map_request_resolving :
    (resolving g).map Step.request = if g = .v4 then [askResolution g] else [] := by
  cases g <;> rfl

/-- The requests for the range are among two, in this order. -/
theorem askRange_sublist :
    (askRange g firmware sample).Sublist
      [askFirmwareId g, Query.request g.queryEncoding Query.sample] := by
  have hone {a b : Request} : [a].Sublist [a, b] := List.cons_sublist_cons.mpr (List.nil_sublist _)
  cases g with
  | v1 => exact List.nil_sublist _
  | v2 =>
    show (if _ then [] else if sample then _ else _).Sublist _
    split
    · exact List.nil_sublist _
    · split
      · exact List.Sublist.refl _
      · exact hone
  | v3 => exact hone
  | v4 => exact hone

theorem ite_sublist {α : Type} {c : Prop} [Decidable c] (l : List α) :
    (if c then l else []).Sublist l := by
  split
  · exact List.Sublist.refl l
  · exact List.nil_sublist l

/-- **No two steps of a start-up make the same request.** -/
theorem nodup_startPlan :
    ((startPlan g capabilities firmware config sample).map Step.request).Nodup := by
  -- the requests of all steps that any firmware takes
  have hall : (askCapabilities g :: ((writeMode g ++ [readMode g]) ++
      ([askFirmwareId g, Query.request g.queryEncoding Query.sample] ++ ([askResolution g] ++
        [Request.reporting true])))).Nodup := by
    cases g <;> decide
  refine hall.sublist ?_
  simp only [startPlan, List.map_cons, List.map_append, map_request_entering, map_request_ranging,
    map_request_resolving]
  refine .cons_cons _ (.append ?_ (.append askRange_sublist (.append (ite_sublist _) (.refl _))))
  exact .append (.refl _) (ite_sublist _)

end Requests

/-! ## Single steps -/

section Steps

variable {ε α : Type} {es : List Exchange}

/-- A command that is a single round trip keeps to a plan of one attempt. -/
theorem Asks.follows {talk : Talk ε α} {r : Request} {read : Exchange → Except ε α}
    (h : Asks talk r read) {v : Except ε α} (hp : talk.run.Path es v) :
    ∃ e, es = [e] ∧ e.request = r ∧ v = read e ∧ Follows [Step.once r] [e] v.isOk := by
  obtain ⟨e, rfl, hr, rfl⟩ := h.path hp
  have ht : (Step.once r).Tried [] e := .single hr rfl
  have hs : (Step.once r).Passed e ↔ (read e).isOk = true := by
    rw [← h.succeeded_iff hr]
    exact ⟨fun hp => (hp rfl).1, fun hp _ => ⟨hp, trivial⟩⟩
  refine ⟨e, rfl, hr, rfl, ?_⟩
  cases hok : (read e).isOk with
  | true => exact Follows.passed ht (hs.mpr hok) Follows.nil
  | false => exact Follows.broken ht fun hp => Bool.false_ne_true (hok.symm.trans (hs.mp hp))

end Steps

/-! ## The coordinate range -/

section Sample

variable {g : Generation} {firmware : Nat} {es es₁ es₂ : List Exchange}

theorem sampleDue_append_iff :
    SampleDue g firmware (es₁ ++ es₂) ↔ SampleDue g firmware es₁ ∨ SampleDue g firmware es₂ := by
  unfold SampleDue
  simp only [List.mem_append, or_and_right, exists_or, and_or_left]

theorem not_sampleDue_of_forall_ne (h : ∀ e ∈ es, e.request ≠ askFirmwareId g) :
    ¬ SampleDue g firmware es := by
  rintro ⟨_, _, e, he, hr, _⟩
  exact h e he hr

/-- A firmware id that is known decides whether a sample is due. -/
theorem sampleDue_singleton_iff {e : Exchange} {reply : Reply}
    (hr : e.request = askFirmwareId .v2) (he : e.completion.reply = .ok reply) :
    SampleDue .v2 firmware [e] ↔ measuresBySample firmware reply = true := by
  unfold SampleDue measuresBySample
  simp [hr, he]

end Sample

section Range

variable {es : List Exchange}

theorem queryRange_of_fixed {p : Profile} {range : Range}
    (h : Range.fixed? p.generation p.firmware = some range) : queryRange p = pure range := by
  unfold queryRange
  rw [h]

/-- The second generation has a fixed range on three firmware versions only. -/
theorem fixed?_v2_eq_none_iff {firmware : Nat} :
    Range.fixed? .v2 firmware = none ↔ firmware ∉ [0x020800, 0x020b00, 0x020030] := by
  show (if _ then some _ else none) = none ↔ _
  exact ite_eq_right_iff.trans ⟨fun h hm => Option.some_ne_none _ (h hm), fun h hm => absurd hm h⟩

/-- The largest coordinates in a firmware id take twelve bits each. -/
theorem maximaIn_lt (reply : Reply) :
    (Range.maximaIn reply).1 < 0x1000 ∧ (Range.maximaIn reply).2 < 0x1000 := by
  have h₁ := reply.first.toNat_lt
  have h₂ := reply.second.toNat_lt
  have h₃ := reply.third.toNat_lt
  unfold Range.maximaIn
  omega

theorem askRange_of_fixed {g : Generation} {firmware : Nat} {range : Range}
    (h : Range.fixed? g firmware = some range) (sample : Bool) :
    askRange g firmware sample = [] := by
  cases g with
  | v1 => rfl
  | v2 =>
    -- a fixed range is one of three firmware versions
    have hmem : firmware ∈ [0x020800, 0x020b00, 0x020030] := by
      by_contra hmem
      rw [fixed?_v2_eq_none_iff.mpr hmem] at h
      cases h
    exact if_pos hmem
  | v3 => cases h
  | v4 => cases h

theorem askRange_v2 {firmware : Nat} (h : Range.fixed? .v2 firmware = none) (sample : Bool) :
    askRange .v2 firmware sample =
      askFirmwareId .v2 :: if sample then [Query.request .sliced Query.sample] else [] := by
  show (if _ then [] else _) = _
  rw [if_neg (fixed?_v2_eq_none_iff.mp h)]
  cases sample <;> rfl

/-- A range that is fixed takes no steps. -/
theorem ranging_of_fixed {g : Generation} {firmware : Nat} {range : Range} (capabilities : Reply)
    (h : Range.fixed? g firmware = some range) (sample : Bool) :
    ranging g capabilities firmware sample = [] := by
  have hg : g ≠ .v4 := by
    rintro rfl
    cases h
  rw [ranging, if_neg hg, askRange_of_fixed h]
  rfl

/-- The second generation is asked for its firmware id, and for a sample if there is one. -/
theorem ranging_v2 {firmware : Nat} (capabilities : Reply)
    (h : Range.fixed? .v2 firmware = none) (sample : Bool) :
    ranging .v2 capabilities firmware sample = Step.once (askFirmwareId .v2) ::
      if sample then [Step.once (Query.request .sliced Query.sample)] else [] := by
  rw [ranging, if_neg nofun, askRange_v2 h]
  cases sample <;> rfl

/-- Without a fixed range the firmware id comes first. -/
theorem ranging_of_not_fixed {g : Generation} {firmware : Nat} (capabilities : Reply)
    (h : Range.fixed? g firmware = none) :
    ranging g capabilities firmware false =
      [if g = .v4 then tracesStep capabilities else Step.once (askFirmwareId g)] := by
  cases g with
  | v1 => cases h
  | v2 => exact ranging_v2 capabilities h false
  | v3 => rfl
  | v4 => rfl

/--
How asking for the range can go: a range that is fixed is not asked for, and a query without a reply
is the last one. The value at the end is made from the replies.
-/
inductive RangeCourse (p : Profile) : List Exchange → Except RangeError Range → Prop
  | fixed {range : Range} : Range.fixed? p.generation p.firmware = some range →
      RangeCourse p [] (.ok range)
  | unanswered {e : Exchange} {cause : CommandError} :
      Range.fixed? p.generation p.firmware = none → e.request = askFirmwareId p.generation →
        e.completion.reply = .error cause → RangeCourse p [e] (.error (.query cause))
  | byFirmware {e : Exchange} {firmwareId : Reply} : p.generation = .v2 →
      Range.fixed? p.generation p.firmware = none → e.request = askFirmwareId p.generation →
        e.completion.reply = .ok firmwareId → measuresBySample p.firmware firmwareId = false →
          RangeCourse p [e] (.ok (rangeByFirmware p.firmware p.capabilities))
  | sampleUnanswered {e e' : Exchange} {firmwareId : Reply} {cause : CommandError} :
      p.generation = .v2 → Range.fixed? p.generation p.firmware = none →
        e.request = askFirmwareId p.generation → e.completion.reply = .ok firmwareId →
          measuresBySample p.firmware firmwareId = true →
            e'.request = Query.request p.queryEncoding Query.sample →
              e'.completion.reply = .error cause → RangeCourse p [e, e'] (.error (.query cause))
  | bySample {e e' : Exchange} {firmwareId sample : Reply} : p.generation = .v2 →
      Range.fixed? p.generation p.firmware = none → e.request = askFirmwareId p.generation →
        e.completion.reply = .ok firmwareId → measuresBySample p.firmware firmwareId = true →
          e'.request = Query.request p.queryEncoding Query.sample →
            e'.completion.reply = .ok sample →
              RangeCourse p [e, e'] (.ok (rangeBySample p.firmware p.capabilities sample))
  | byFirmwareId {e : Exchange} {firmwareId : Reply} :
      p.generation = .v3 ∨ p.generation = .v4 → e.request = askFirmwareId p.generation →
        e.completion.reply = .ok firmwareId →
          RangeCourse p [e] (rangeByFirmwareId p.generation p.capabilities firmwareId)

/-- **Asking for the range takes one of its courses.** -/
theorem path_queryRange_course {p : Profile} {v : Except RangeError Range}
    (hp : (queryRange p).run.Path es v) : RangeCourse p es v := by
  cases hf : Range.fixed? p.generation p.firmware with
  | some range =>
    rw [queryRange_of_fixed hf] at hp
    obtain ⟨rfl, rfl⟩ := hp
    exact .fixed hf
  | none =>
    unfold queryRange at hp
    rw [hf] at hp
    cases hg : p.generation with
    | v1 => simp [hg, Range.fixed?] at hf
    | v2 =>
      rw [hg] at hp
      obtain ⟨e, rest, rfl, hr, ⟨firmwareId, hid, hp⟩ | ⟨cause, hid, rfl, rfl⟩⟩ :=
        (asks_sendQuery _ _).cases_bind hp
      · cases hs : measuresBySample p.firmware firmwareId with
        | true =>
          rw [hs, if_pos rfl] at hp
          obtain ⟨e', rest, rfl, hr', ⟨sample, hsample, rfl, rfl⟩ |
            ⟨cause, hsample, rfl, rfl⟩⟩ := (asks_sendQuery _ _).cases_bind hp
          · exact .bySample hg hf hr hid hs hr' hsample
          · exact .sampleUnanswered hg hf hr hid hs hr' hsample
        | false =>
          rw [hs] at hp
          obtain ⟨rfl, rfl⟩ := hp
          exact .byFirmware hg hf hr hid hs
      · exact .unanswered hf hr hid
    | v3 | v4 =>
      have hnew : p.generation = .v3 ∨ p.generation = .v4 := by simp [hg]
      rw [hg] at hp
      obtain ⟨e, rest, rfl, hr, ⟨firmwareId, hid, rfl, rfl⟩ | ⟨cause, hid, rfl, rfl⟩⟩ :=
        (asks_sendQuery _ _).cases_bind hp
      · have hcourse := RangeCourse.byFirmwareId hnew hr hid
        rwa [hg] at hcourse
      · exact .unanswered hf hr hid

/-- A query keeps to a plan of one attempt, which passes if the reply is known. -/
theorem follows_query {encoding : Encoding} {command : UInt8} {e : Exchange}
    (hr : e.request = Query.request encoding command) :
    Follows [Step.once (Query.request encoding command)] [e] e.completion.reply.isOk := by
  have hask := asks_sendQuery encoding command
  obtain ⟨_, he, -, -, h⟩ := hask.follows (hask.path_of hr)
  obtain rfl := List.head_eq_of_cons_eq he
  exact h

/-- A firmware id that is not known breaks the plan off. -/
theorem follows_unanswered {g : Generation} {firmware : Nat} {e : Exchange} {cause : CommandError}
    (capabilities : Reply) (hf : Range.fixed? g firmware = none)
    (hr : e.request = askFirmwareId g) (he : e.completion.reply = .error cause) :
    Follows (ranging g capabilities firmware false) [e] false := by
  have hlost : ¬ e.Succeeded := by
    rw [((asks_sendQuery g.queryEncoding Query.firmwareId).succeeded_iff hr), he]
    exact Bool.false_ne_true
  rw [ranging_of_not_fixed capabilities hf]
  by_cases hg : g = .v4
  · subst hg
    have ht : (tracesStep capabilities).Tried [] e := .single hr rfl
    exact Follows.broken ht fun hp => hlost (hp rfl).1
  · rw [if_neg hg]
    have ht : (Step.once (askFirmwareId g)).Tried [] e := .single hr rfl
    exact Follows.broken ht fun hp => hlost (hp rfl).1

/-- The firmware id of the fourth generation passes if it makes a range. -/
theorem follows_traces {firmware : Nat} {e : Exchange} {capabilities firmwareId : Reply}
    (hr : e.request = askFirmwareId .v4) (he : e.completion.reply = .ok firmwareId) :
    Follows (ranging .v4 capabilities firmware false) [e]
      (rangeByFirmwareId .v4 capabilities firmwareId).isOk := by
  have ht : (tracesStep capabilities).Tried [] e := .single hr rfl
  cases hrange : rangeByFirmwareId .v4 capabilities firmwareId with
  | ok range =>
    have hanswered : e.Succeeded := by
      rw [((asks_sendQuery Generation.v4.queryEncoding Query.firmwareId).succeeded_iff hr), he]
      rfl
    exact Follows.passed ht (fun _ => ⟨hanswered, firmwareId, range, he, hrange⟩) Follows.nil
  | error cause =>
    refine Follows.broken ht fun hp => ?_
    obtain ⟨other, range, he', hrange'⟩ := (hp rfl).2
    rw [he] at he'
    cases he'
    rw [hrange] at hrange'
    cases hrange'

/-- A firmware id that calls for a sample, and the query for the sample. -/
theorem follows_sample {firmware : Nat} {e e' : Exchange} (capabilities : Reply)
    {firmwareId : Reply}
    (hf : Range.fixed? .v2 firmware = none) (hr : e.request = askFirmwareId .v2)
    (he : e.completion.reply = .ok firmwareId) (hs : measuresBySample firmware firmwareId = true)
    (hr' : e'.request = Query.request .sliced Query.sample) :
    SampleDue .v2 firmware [e, e'] ∧
      Follows (ranging .v2 capabilities firmware true) [e, e'] e'.completion.reply.isOk := by
  have hdue : SampleDue .v2 firmware [e] := (sampleDue_singleton_iff hr he).mpr hs
  have hfirst := follows_query hr
  rw [he] at hfirst
  refine ⟨sampleDue_append_iff.mpr (.inl hdue : _ ∨ SampleDue .v2 firmware [e']), ?_⟩
  rw [ranging_v2 capabilities hf]
  exact hfirst.append (follows_query hr')

/-- **Asking for the range** keeps to its plan. -/
theorem path_queryRange {p : Profile} {v : Except RangeError Range}
    (hp : (queryRange p).run.Path es v) :
    ∃ sample, (sample = true ↔ SampleDue p.generation p.firmware es) ∧
      Follows (ranging p.generation p.capabilities p.firmware sample) es v.isOk := by
  have hcourse := path_queryRange_course hp
  obtain ⟨g, firmware, capabilities, _⟩ := p
  cases hcourse with
  | fixed hf =>
    refine ⟨false, by simp [SampleDue], ?_⟩
    rw [ranging_of_fixed _ hf]
    exact Follows.nil
  | unanswered hf hr he => exact ⟨false, by simp [SampleDue, he], follows_unanswered _ hf hr he⟩
  | byFirmware hg hf hr he hs =>
    obtain rfl : g = .v2 := hg
    have hfollows := follows_query hr
    rw [he] at hfollows
    refine ⟨false, ?_, ?_⟩
    · rw [sampleDue_singleton_iff hr he, hs]
    · rw [ranging_of_not_fixed _ hf]
      exact hfollows
  | sampleUnanswered hg hf hr he hs hr' he' =>
    obtain rfl : g = .v2 := hg
    obtain ⟨hdue, hfollows⟩ := follows_sample capabilities hf hr he hs hr'
    rw [he'] at hfollows
    exact ⟨true, iff_of_true rfl hdue, hfollows⟩
  | bySample hg hf hr he hs hr' he' =>
    obtain rfl : g = .v2 := hg
    obtain ⟨hdue, hfollows⟩ := follows_sample capabilities hf hr he hs hr'
    rw [he'] at hfollows
    exact ⟨true, iff_of_true rfl hdue, hfollows⟩
  | byFirmwareId hg hr he =>
    rcases hg with rfl | rfl
    · have hfollows := follows_query hr
      rw [he] at hfollows
      exact ⟨false, by simp [SampleDue], hfollows⟩
    · exact ⟨false, by simp [SampleDue], follows_traces hr he⟩

end Range

/-! ## Resolution and reporting -/

section Ending

variable {es : List Exchange}

theorem asks_queryResolution (p : Profile) :
    Asks (queryResolution p) (askResolution p.generation)
      fun e => e.completion.reply.map Resolution.ofReply :=
  (asks_sendQuery _ _).map Resolution.ofReply

/-- A profile after a round trip that asked for the resolution. -/
def resolvedBy (p : Profile) (e : Exchange) : Profile :=
  match e.completion.reply with
  | .ok reply => { p with resolution := Resolution.ofReply reply }
  | .error _ => p

/-- **Asking for the resolution** is a single round trip of the fourth generation. -/
theorem path_completeResolution_iff {p q : Profile} :
    (completeResolution p).Path es q ↔
      (p.generation = .v4 ∧
        ∃ e, es = [e] ∧ e.request = askResolution p.generation ∧ q = resolvedBy p e) ∨
      (p.generation ≠ .v4 ∧ es = [] ∧ q = p) := by
  have hask := asks_queryResolution p
  unfold completeResolution
  by_cases hg : p.generation = .v4
  · rw [if_pos hg, or_iff_left (fun h => h.1 hg), and_iff_right hg]
    constructor
    · intro hp
      obtain ⟨es₁, w, es₂, rfl, h₁, h₂⟩ := Dialogue.path_bind_iff.mp hp
      obtain ⟨e, rfl, hr, rfl⟩ := hask.path h₁
      have hq : es₂ = [] ∧ q = resolvedBy p e := by
        unfold resolvedBy
        cases hreply : e.completion.reply <;> rwa [hreply] at h₂
      obtain ⟨rfl, rfl⟩ := hq
      exact ⟨e, rfl, hr, rfl⟩
    · rintro ⟨e, rfl, hr, rfl⟩
      refine Dialogue.path_bind_iff.mpr ⟨[e], _, [], rfl, hask.path_of hr, ?_⟩
      unfold resolvedBy
      cases e.completion.reply <;> exact ⟨rfl, rfl⟩
  · rw [if_neg hg, or_iff_right (fun h => hg h.1), and_iff_right hg]
    exact Dialogue.path_pure_iff

/-- Asking for the resolution goes on, whatever comes of it. -/
theorem path_completeResolution {p q : Profile} (hp : (completeResolution p).Path es q) :
    Follows (resolving p.generation) es true := by
  unfold resolving
  rcases path_completeResolution_iff.mp hp with ⟨hg, e, rfl, hr, -⟩ | ⟨hg, rfl, -⟩
  · rw [if_pos hg]
    have ht : (resolutionStep p.generation).Tried [] e := .single hr rfl
    exact Follows.passed ht (fun h => absurd h Bool.false_ne_true) Follows.nil
  · rw [if_neg hg]
    exact Follows.nil

theorem path_switchOn {p : Profile} {v : Except StartError Unit}
    (hp : (switchOn p).run.Path es v) : Follows [enabling] es v.isOk := by
  have h : Asks (switchOn p) (Request.reporting true)
      fun e => (e.completion.done.mapError StartError.enable).map fun _ => () :=
    ((asks_setReporting true).adapt StartError.enable).bind fun hp => hp
  obtain ⟨e, rfl, _, _, hf⟩ := h.follows hp
  exact hf

/-- None of the last steps asks for the firmware id. -/
theorem ending_ne_askFirmwareId (g : Generation) :
    ∀ s ∈ resolving g ++ [enabling], s.request ≠ askFirmwareId g := by
  cases g <;> decide

/-- **What follows absolute mode** keeps to its plan. -/
theorem path_measureAndEnable {p : Profile} {v : Except StartError Unit × Profile}
    (hp : (measureAndEnable p).Path es v) :
    ∃ sample, (sample = true ↔ SampleDue p.generation p.firmware es) ∧
      Follows (ranging p.generation p.capabilities p.firmware sample ++
        (resolving p.generation ++ [enabling])) es v.1.isOk := by
  obtain ⟨es₁, w, es₂, rfl, h₁, h₂⟩ := Dialogue.path_bind_iff.mp hp
  obtain ⟨sample, hs, hf⟩ := path_queryRange h₁
  cases w with
  | error cause =>
    obtain ⟨rfl, rfl⟩ := h₂
    rw [List.append_nil]
    exact ⟨sample, hs, hf.append_of_broken⟩
  | ok range =>
    obtain ⟨es₃, q, es₄, rfl, h₃, h₄⟩ := Dialogue.path_bind_iff.mp h₂
    obtain ⟨es₅, outcome, es₆, rfl, h₅, rfl, rfl⟩ := Dialogue.path_bind_iff.mp h₄
    have hend := (path_completeResolution h₃).append (path_switchOn h₅)
    refine ⟨sample, ?_, ?_⟩
    · -- what follows the range does not ask for the firmware id again
      rw [hs, sampleDue_append_iff, List.append_nil]
      have hne := hend.forall_ne (ending_ne_askFirmwareId p.generation)
      exact (or_iff_left (not_sampleDue_of_forall_ne hne)).symm
    · rw [List.append_nil]
      exact hf.append hend

end Ending

/-! ## Absolute mode -/

section Mode

variable {g : Generation} {es : List Exchange}

/-- **Writing settings** keeps to one step for each of them. -/
theorem path_writeSettings {settings : List Setting}
    (hvalid : ∀ s ∈ settings, Register.isValid s.register)
    {v : Except CommandError Unit × List Setting} (hp : (writeSettings g settings).Path es v) :
    Follows ((settings.map fun s => Register.writeRequest g s.register s.value).map Step.once) es
      v.1.isOk := by
  induction settings generalizing es v with
  | nil =>
    obtain ⟨rfl, rfl⟩ := hp
    exact Follows.nil
  | cons s settings ih =>
    obtain ⟨es₁, w, es₂, rfl, h₁, h₂⟩ := Dialogue.path_bind_iff.mp hp
    obtain ⟨e, rfl, _, _, hf⟩ := (asks_writeRegister g (hvalid s List.mem_cons_self)).follows h₁
    cases w with
    | error cause =>
      obtain ⟨rfl, rfl⟩ := h₂
      exact hf.append_of_broken
    | ok u =>
      obtain ⟨es₃, w, es₄, rfl, h₃, rfl, rfl⟩ := Dialogue.path_bind_iff.mp h₂
      have hrest := ih (fun s' hs' => hvalid s' (List.mem_cons_of_mem s hs')) h₃
      rw [List.append_nil]
      exact hf.append hrest

/-- A value that was read back confirms absolute mode unless it refuses it. -/
theorem confirmsMode_iff {e : Exchange} {value : UInt8}
    (h : e.completion.reply.map (Register.valueIn g) = .ok value) :
    ConfirmsMode g e ↔ ¬ (g = .v1 ∧ value &&& absoluteModeBit = 0) := by
  cases hr : e.completion.reply with
  | error cause =>
    rw [hr] at h
    cases h
  | ok reply =>
    obtain rfl : Register.valueIn g reply = value := by
      rw [hr] at h
      exact Except.ok.inj h
    unfold ConfirmsMode
    rw [not_and]
    refine forall_congr' fun hg => ?_
    subst hg
    simp [hr, Register.valueIn]

/-- **Reading back the mode register** keeps to its step: the value has to confirm absolute mode. -/
theorem path_confirmMode {config : Config} {v : Except StartError Unit}
    (hp : (confirmMode g config).run.Path es v) : Follows [confirmStep g config] es v.isOk := by
  have hask : Asks (readRegister g modeRegister) (confirmStep g config).request
      fun e => e.completion.reply.map (Register.valueIn g) := asks_readRegister g (by decide)
  rcases path_bind_iff.mp hp with ⟨es₁, value, es₂, rfl, h₁, h₂⟩ | ⟨cause, h₁, rfl⟩
  · obtain ⟨failed, last, rfl, ht, hv, hok⟩ := path_persist hask rfl h₁
    have hmode := confirmsMode_iff (eq_ok_of_mapError hv)
    split at h₂
    · next hrefused =>
      obtain ⟨rfl, rfl⟩ := h₂
      rw [List.append_nil]
      exact Follows.broken ht fun hpass => hmode.mp (hpass rfl).2 hrefused
    · next hconfirmed =>
      -- the step has passed: the attempt succeeded, and its value confirms absolute mode
      obtain ⟨rfl, rfl⟩ := h₂
      exact Follows.passed ht (fun _ => ⟨hok.mpr rfl, hmode.mpr hconfirmed⟩) Follows.nil
  · obtain ⟨failed, last, rfl, ht, _, hok⟩ := path_persist hask rfl h₁
    exact Follows.broken ht fun hpass => Bool.false_ne_true (hok.mp (hpass rfl).1)

theorem isValid_of_mem_absoluteMode (g : Generation) :
    ∀ s ∈ g.absoluteMode, Register.isValid s.register := by
  cases g <;> decide

theorem askCapabilities_ne_askFirmwareId (g : Generation) :
    askCapabilities g ≠ askFirmwareId g := by
  cases g <;> decide

/-- None of the steps of absolute mode asks for the firmware id. -/
theorem entering_ne_askFirmwareId (g : Generation) (config : Config) :
    ∀ s ∈ entering g config, s.request ≠ askFirmwareId g := by
  intro s hs
  have hmem : s.request ∈ (entering g config).map Step.request := List.mem_map_of_mem hs
  rw [map_request_entering] at hmem
  revert hmem
  generalize s.request = r
  revert r
  cases g <;> decide

end Mode

/-! ## The whole start-up -/

section Start

variable {es : List Exchange} {config : Config}

/-- **Asking for the capabilities** keeps to its step, whose success gives the capabilities. -/
theorem path_queryCapabilities {p : Profile} {v : Except StartError Reply}
    (hp : (queryCapabilities p config).run.Path es v) :
    Follows [capabilitiesStep p.generation config] es v.isOk ∧
      ∀ e ∈ es, e.Succeeded → ∃ capabilities,
        v = .ok capabilities ∧ e.completion.reply = .ok capabilities := by
  have hask : Asks (sendQuery p.queryEncoding Query.capabilities)
      (capabilitiesStep p.generation config).request fun e => e.completion.reply :=
    asks_sendQuery _ _
  obtain ⟨failed, last, rfl, ht, hv, hok⟩ := path_persist hask rfl hp
  constructor
  · cases hv : v.isOk with
    | true =>
      rw [← List.append_nil (failed ++ [last])]
      exact Follows.passed ht (fun _ => ⟨hok.mpr hv, trivial⟩) Follows.nil
    | false =>
      refine Follows.broken ht fun hpass => ?_
      exact Bool.false_ne_true (hv.symm.trans (hok.mp (hpass rfl).1))
  · intro e he hs
    rcases List.mem_append.mp he with he | he
    · exact absurd hs (ht.failed e he).2
    · obtain rfl := List.mem_singleton.mp he
      have hvalue := hok.mp hs
      cases v with
      | ok capabilities => exact ⟨capabilities, rfl, eq_ok_of_mapError hv⟩
      | error cause => cases hvalue

/--
Whether round trips go through a plan and then on to the measurement, for a profile of the same
hardware, or break the plan off.
-/
def MeasuresAfter (p : Profile) (plan : List Step) (es : List Exchange)
    (v : Except StartError Unit × Profile) : Prop :=
  (Follows plan es false ∧ v.1.isOk = false) ∨
    ∃ es₁ es₂ q, es = es₁ ++ es₂ ∧ Follows plan es₁ true ∧ q.generation = p.generation ∧
      q.capabilities = p.capabilities ∧ q.firmware = p.firmware ∧ (measureAndEnable q).Path es₂ v

/-- Steps in front that were passed are followed by the rest of the plan. -/
theorem MeasuresAfter.prepend {p : Profile} {front plan : List Step} {es₁ es₂ : List Exchange}
    {v : Except StartError Unit × Profile} (h₁ : Follows front es₁ true)
    (h₂ : MeasuresAfter p plan es₂ v) : MeasuresAfter p (front ++ plan) (es₁ ++ es₂) v := by
  rcases h₂ with ⟨h₂, hv⟩ | ⟨es₃, es₄, q, rfl, h₂, hq⟩
  · exact .inl ⟨h₁.append h₂, hv⟩
  · exact .inr ⟨es₁ ++ es₃, es₄, q, (List.append_assoc ..).symm, h₁.append h₂, hq⟩

/-- **Entering absolute mode** keeps to its plan, and the measurement follows it. -/
theorem path_enterAbsoluteMode {p : Profile} {v : Except StartError Unit × Profile}
    (hp : (enterAbsoluteMode p config).Path es v) :
    MeasuresAfter p (entering p.generation config) es v := by
  obtain ⟨es₁, ⟨outcome, written⟩, es₂, rfl, h₁, h₂⟩ := Dialogue.path_bind_iff.mp hp
  have hw := path_writeSettings (isValid_of_mem_absoluteMode p.generation) h₁
  cases outcome with
  | error cause =>
    obtain ⟨rfl, rfl⟩ := h₂
    rw [List.append_nil]
    exact .inl ⟨hw.append_of_broken, rfl⟩
  | ok u =>
    let q : Profile := { p with registers := p.registers ++ written }
    refine MeasuresAfter.prepend hw ?_
    -- with or without a register to read back
    change Dialogue.Path (if p.generation.readsBackMode then _ else _) es₂ v at h₂
    split at h₂
    · next hback =>
      rw [if_pos hback]
      obtain ⟨es₃, w, es₄, rfl, h₃, h₄⟩ := Dialogue.path_bind_iff.mp h₂
      have hc := path_confirmMode h₃
      cases w with
      | error cause =>
        obtain ⟨rfl, rfl⟩ := h₄
        rw [List.append_nil]
        exact .inl ⟨hc, rfl⟩
      | ok u => exact .inr ⟨es₃, es₄, q, rfl, hc, rfl, rfl, rfl, h₄⟩
    · next hback =>
      rw [if_neg hback]
      exact .inr ⟨[], es₂, q, rfl, Follows.nil, rfl, rfl, rfl, h₂⟩

/-- A start-up asks for the capabilities, and enters absolute mode with them; logging is no step. -/
theorem path_start_iff {p : Profile} {v : Except StartError Unit × Profile} :
    (start p config).Path es v ↔
      ∃ es₁ w es₂, es = es₁ ++ es₂ ∧ (queryCapabilities p config).run.Path es₁ w ∧
        match w with
        | .error cause => es₂ = [] ∧ v = (.error cause, p)
        | .ok capabilities => (enterAbsoluteMode { p with capabilities } config).Path es₂ v := by
  unfold start
  rw [Dialogue.path_bind_iff]
  refine exists_congr fun es₁ => exists_congr fun w => exists_congr fun es₂ => ?_
  refine and_congr_right fun _ => and_congr_right fun _ => ?_
  cases w with
  | error cause => exact Iff.rfl
  | ok capabilities =>
    show Dialogue.Path (if _ then _ else _) es₂ v ↔ _
    split <;> exact Iff.rfl

/-- What follows the capabilities keeps to the rest of the plan. -/
theorem follows_enterAbsoluteMode {p : Profile} {v : Except StartError Unit × Profile}
    (hp : (enterAbsoluteMode p config).Path es v) :
    ∃ sample, (sample = true ↔ SampleDue p.generation p.firmware es) ∧
      Follows (entering p.generation config ++
        (ranging p.generation p.capabilities p.firmware sample ++
          (resolving p.generation ++ [enabling]))) es v.1.isOk := by
  have hne {es through} (h : Follows (entering p.generation config) es through) :
      ¬ SampleDue p.generation p.firmware es :=
    not_sampleDue_of_forall_ne (h.forall_ne (entering_ne_askFirmwareId _ _))
  rcases path_enterAbsoluteMode hp with ⟨h, hv⟩ | ⟨es₁, es₂, q, rfl, h₁, hg, hc, hf, h₂⟩
  · refine ⟨false, iff_of_false Bool.false_ne_true (hne h), ?_⟩
    rw [hv]
    exact h.append_of_broken
  · obtain ⟨sample, hs, h₂⟩ := path_measureAndEnable h₂
    rw [hg, hf] at hs
    rw [hg, hc, hf] at h₂
    refine ⟨sample, ?_, h₁.append h₂⟩
    rw [hs, sampleDue_append_iff]
    exact (or_iff_right (hne h₁)).symm

/-- **A start-up keeps to its plan**, with the capabilities that it was answered with. -/
theorem path_start {p : Profile} {v : Except StartError Unit × Profile}
    (hp : (start p config).Path es v) :
    ∃ sample capabilities, (sample = true ↔ SampleDue p.generation p.firmware es) ∧
      (∀ e ∈ es, e.request = askCapabilities p.generation → e.Succeeded →
        e.completion.reply = .ok capabilities) ∧
      Follows (startPlan p.generation capabilities p.firmware config sample) es v.1.isOk := by
  obtain ⟨es₁, w, es₂, rfl, h₁, h₂⟩ := path_start_iff.mp hp
  obtain ⟨hf, hcap⟩ := path_queryCapabilities h₁
  have hne : ¬ SampleDue p.generation p.firmware es₁ :=
    not_sampleDue_of_forall_ne (hf.forall_ne fun s hs => by
      rw [List.mem_singleton.mp hs]
      exact askCapabilities_ne_askFirmwareId p.generation)
  cases w with
  | error cause =>
    obtain ⟨rfl, rfl⟩ := h₂
    rw [List.append_nil]
    refine ⟨false, p.capabilities, iff_of_false Bool.false_ne_true hne, ?_, ?_⟩
    · intro e he _ hs
      obtain ⟨capabilities, hv, -⟩ := hcap e he hs
      cases hv
    · exact hf.append_of_broken
  | ok capabilities =>
    obtain ⟨sample, hs, h⟩ := follows_enterAbsoluteMode h₂
    refine ⟨sample, capabilities, ?_, ?_, ?_⟩
    · rw [hs, sampleDue_append_iff]
      exact (or_iff_right hne).symm
    · intro e he hr hs
      rcases List.mem_append.mp he with he | he
      · obtain ⟨_, hv, hreply⟩ := hcap e he hs
        cases hv
        exact hreply
      · -- the steps behind the first one make other requests
        obtain ⟨s, hs', hr'⟩ := h.exists_step e he
        have hn : ((startPlan p.generation capabilities p.firmware config sample).map
          Step.request).Nodup := nodup_startPlan
        exact absurd (List.mem_map.mpr ⟨s, hs', hr'.symm.trans hr⟩) (List.nodup_cons.mp hn).1
    · exact hf.append h

end Start

end Control

end Touchpad
