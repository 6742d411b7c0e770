import Touchpad.Control.Detection
import Touchpad.Proofs.Bus.Told
import Touchpad.Proofs.Control.Completion

/-!
# Start-ups on a script

A start-up that succeeds on a script takes its questions in order, three bytes for each. Attempts
that fail do not shift them: behind the first failure nothing can be read any more.

* `Asks.inquires_persist`: a command that is tried again succeeds at once or not at all
* `heard_detect_iff`: detection
* `hearsRange`: the range
* `heard_start_iff`: a whole start-up, with the profile that comes out
-/

namespace Touchpad

namespace Control

open Exchange (scripted questions)

variable {bs rest : List UInt8} {asked : List Request} {config : Config} {p q : Profile}

/-! ## Single round trips -/

section Commands

variable {ε ε' α β : Type}

/-- A question is answered by the three bytes that are next. -/
theorem reply_scripted {r : Request} (hr : r.readCount = 3) (h : 3 ≤ bs.length) :
    (scripted bs r).completion.reply = .ok (Reply.nth bs 0) := by
  have hok : (scripted bs r).outcome = .ok () := Exchange.succeeded_scripted_iff.mpr (hr ▸ h)
  have htaken : (scripted bs r).taken = bs.take 3 := congrArg bs.take hr
  have hvalues : (r.fill (bs.take 3)).values = bs.take 3 :=
    Request.values_fill ((List.length_take_of_le h).trans hr.symm)
  have hreply : (r.fill (bs.take 3)).reply? = some (Reply.nth bs 0) := by
    unfold Request.reply?
    rw [hvalues]
    match bs, h with
    | a :: b :: c :: rest, _ => rfl
  have hcompletion : (scripted bs r).completion = ⟨.ok (), r.fill (bs.take 3)⟩ := by
    unfold Exchange.completion
    rw [hok, htaken]
    rfl
  simp only [Completion.reply, hcompletion, hreply]

/-- The paths of a single round trip are all answers to its request. -/
theorem Asks.path_iff {talk : Talk ε α} {r : Request} {read : Exchange → Except ε α}
    (h : Asks talk r read) {es : List Exchange} {v : Except ε α} :
    talk.run.Path es v ↔ ∃ e, es = [e] ∧ e.request = r ∧ v = read e := by
  constructor
  · exact h.path
  · rintro ⟨e, rfl, hr, rfl⟩
    exact h.path_of hr

/-- **A single round trip** takes the bytes that are next. -/
theorem Asks.heard_iff {talk : Talk ε α} {r : Request} {read : Exchange → Except ε α}
    (h : Asks talk r read) {v : Except ε α} :
    Heard bs (talk.run.Path · v) asked rest ↔
      v = read (scripted bs r) ∧ asked = (questions [scripted bs r]).map Exchange.request ∧
        rest = bs.drop r.readCount :=
  (Heard.congr fun _ => h.path_iff).trans Heard.single_iff

/-- Whether a command is a question, with a value that is read off the next three bytes. -/
structure Inquires (talk : Talk ε α) (r : Request) (f : Reply → α) : Prop where
  heard_iff : ∀ {bs rest : List UInt8} {asked : List Request} {a : α},
    Heard bs (talk.run.Path · (.ok a)) asked rest ↔
      3 ≤ bs.length ∧ a = f (Reply.nth bs 0) ∧ asked = [r] ∧ rest = bs.drop 3

/-- A round trip with a reply inquires: it takes three bytes. -/
theorem Asks.inquires {talk : Talk CommandError α} {r : Request} {f : Reply → α}
    (h : Asks talk r fun e => e.completion.reply.map f) (hr : r.readCount = 3) :
    Inquires talk r f := by
  refine ⟨fun {bs rest asked a} => ?_⟩
  rw [h.heard_iff, Heard.questions_scripted (by omega), hr]
  by_cases hlen : 3 ≤ bs.length
  · rw [reply_scripted hr hlen]
    simp [hlen, Except.map]
  · have hfailed : ¬ (scripted bs r).Succeeded := by
      rwa [Exchange.succeeded_scripted_iff, hr]
    rw [h.succeeded_iff rfl] at hfailed
    refine iff_of_false (fun hok => hfailed ?_) fun hok => hlen hok.1
    rw [← hok.1]
    rfl

theorem Asks.map_id {talk : Talk CommandError Reply} {r : Request}
    (h : Asks talk r fun e => e.completion.reply) :
    Asks talk r fun e => e.completion.reply.map id := by
  simpa only [Except.map_id, id_eq] using h

theorem inquires_knock : Inquires (exchange Request.magicKnock) Request.magicKnock id :=
  (asks_exchange (by decide)).map_id.inquires rfl

theorem inquires_sendQuery (encoding : Encoding) (command : UInt8) :
    Inquires (sendQuery encoding command) (Query.request encoding command) id :=
  (asks_sendQuery encoding command).map_id.inquires (Query.readCount_request encoding command)

theorem Inquires.adapt {talk : Talk ε α} {r : Request} {f : Reply → α} (h : Inquires talk r f)
    (g : ε → ε') : Inquires (talk.adapt g) r f :=
  ⟨(Heard.congr fun _ => path_adapt_ok_iff).trans h.heard_iff⟩

/-- **A command that is tried again** succeeds at the first attempt, or not at all. -/
theorem Asks.inquires_persist {talk : Talk CommandError α} {r : Request} {f : Reply → α}
    (h : Asks talk r fun e => e.completion.reply.map f) (hr : r.readCount = 3)
    (tries delay : Nat) : Inquires (persist tries delay talk) r f := by
  refine ⟨fun {bs rest asked a} => ?_⟩
  rw [← (h.inquires hr).heard_iff]
  constructor
  · rintro ⟨es, hp, ht, rfl⟩
    obtain ⟨failed, last, rfl, hfailed, hlast⟩ := h.exists_of_path_persist hp
    cases failed with
    | nil => exact ⟨[last], hlast, ht, rfl⟩
    | cons e failed =>
      -- the bytes ran out with the first attempt
      obtain ⟨e', he', hread, hv⟩ := h.path hlast
      obtain rfl := List.singleton_inj.mp he'
      have hok : last.Succeeded := by
        rw [h.succeeded_iff hread, ← hv]
        rfl
      have hpos : 0 < last.request.readCount := by
        rw [hread, hr]
        decide
      exact absurd hok (ht.not_succeeded_behind (hfailed e List.mem_cons_self) last (by simp) hpos)
  · rintro ⟨es, hp, ht, rfl⟩
    exact ⟨es, path_persist_of_ok hp tries delay, ht, rfl⟩

/-- An order that reads nothing is always carried out. -/
theorem Asks.heard_order_iff {talk : Talk CommandError Unit} {r : Request}
    (h : Asks talk r fun e => e.completion.done) (hr : r.readCount = 0) :
    Heard bs (talk.run.Path · (.ok ())) asked rest ↔ asked = [] ∧ rest = bs := by
  have hok : (scripted bs r).Succeeded := by
    rw [Exchange.succeeded_scripted_iff, hr]
    exact Nat.zero_le _
  have hquiet : questions [scripted bs r] = [] := Exchange.questions_cons_of_eq_zero hr
  have hdone : (scripted bs r).completion.done = .ok () := by
    unfold Completion.done Exchange.completion
    rw [hok]
  rw [h.heard_iff, hquiet, hdone, hr, List.drop_zero]
  exact and_iff_right rfl

/-! ## Commands in sequence -/

/-- Commands in sequence are heard one after the other. -/
theorem heard_bind_ok_iff {x : Talk ε α} {f : α → Talk ε β} {b : β} :
    Heard bs ((x >>= f).run.Path · (.ok b)) asked rest ↔
      ∃ a asked₁ mid asked₂, asked = asked₁ ++ asked₂ ∧
        Heard bs (x.run.Path · (.ok a)) asked₁ mid ∧
        Heard mid ((f a).run.Path · (.ok b)) asked₂ rest := by
  rw [Heard.congr fun _ => path_bind_ok_iff]
  exact Heard.bind_iff

/-- **A question and what follows it.** -/
theorem Inquires.bind_iff {x : Talk ε α} {r : Request} {g : Reply → α} (h : Inquires x r g)
    {f : α → Talk ε β} {b : β} :
    Heard bs ((x >>= f).run.Path · (.ok b)) asked rest ↔
      3 ≤ bs.length ∧ ∃ others, asked = r :: others ∧
        Heard (bs.drop 3) ((f (g (Reply.nth bs 0))).run.Path · (.ok b)) others rest := by
  rw [heard_bind_ok_iff]
  constructor
  · rintro ⟨a, asked₁, mid, others, rfl, h₁, h₂⟩
    obtain ⟨hlen, rfl, rfl, rfl⟩ := h.heard_iff.mp h₁
    exact ⟨hlen, others, rfl, h₂⟩
  · rintro ⟨hlen, others, rfl, h₂⟩
    exact ⟨_, [r], _, others, rfl, h.heard_iff.mpr ⟨hlen, rfl, rfl, rfl⟩, h₂⟩

theorem heard_done_iff {a b : α} :
    Heard bs ((Dialogue.done a).Path · b) asked rest ↔ a = b ∧ asked = [] ∧ rest = bs := by
  have hpath (es : List Exchange) : (Dialogue.done a).Path es b ↔ a = b ∧ es = [] :=
    and_comm.trans (and_congr_left fun _ => eq_comm)
  rw [Heard.congr hpath, Heard.and_iff, Heard.nil_iff]

theorem heard_pure_iff {a b : α} :
    Heard bs ((pure a : Talk ε α).run.Path · (.ok b)) asked rest ↔
      a = b ∧ asked = [] ∧ rest = bs :=
  heard_done_iff.trans (and_congr_left fun _ => Except.ok.injEq a b ▸ Iff.rfl)

/-- What is known without a question. -/
theorem heard_known_bind_iff {v : Except ε α} {f : α → Talk ε β} {b : β} :
    Heard bs ((ExceptT.mk (.done v) >>= f).run.Path · (.ok b)) asked rest ↔
      ∃ a, v = .ok a ∧ Heard bs ((f a).run.Path · (.ok b)) asked rest := by
  cases v with
  | ok a =>
    constructor
    · exact fun h => ⟨a, rfl, h⟩
    · rintro ⟨_, hv, h⟩
      obtain rfl := Except.ok.inj hv
      exact h
  | error cause =>
    constructor
    · rintro ⟨es, ⟨-, hp⟩, -⟩
      cases hp
    · rintro ⟨_, h, -⟩
      cases h

/-- A log record in front changes nothing. -/
theorem heard_after_say_iff {record : Log.Record} {f : Unit → Talk ε α} {v : Except ε α} :
    Heard bs ((say record >>= f).run.Path · v) asked rest ↔
      Heard bs ((f ()).run.Path · v) asked rest :=
  Iff.rfl

/-- A check that is passed. -/
theorem heard_check_ok_iff {c : Prop} [Decidable c] {record : Log.Record} {cause : ε}
    {f : Unit → Talk ε α} {a : α} :
    Heard bs ((if c then (do say record; let u ← throw cause; f u) else f ()).run.Path · (.ok a))
        asked rest ↔
      ¬ c ∧ Heard bs ((f ()).run.Path · (.ok a)) asked rest := by
  have hpath (es : List Exchange) :
      (if c then (do say record; let u ← throw cause; f u) else f ()).run.Path es (.ok a) ↔
        ¬ c ∧ (f ()).run.Path es (.ok a) :=
    path_check_iff.trans (or_iff_right fun h => nomatch h.2.2)
  rw [Heard.congr hpath, Heard.and_iff]

end Commands

/-! ## Detection -/

theorem resolve_eq_ok_iff {firmware : Nat} :
    Profile.resolve firmware = .ok p ↔ Profile.ofFirmware? firmware = some p := by
  unfold Profile.resolve
  cases Profile.ofFirmware? firmware <;> simp

/-- **Detection** asks two questions. -/
theorem heard_detect_iff :
    Heard bs (detect.run.Path · (.ok p)) asked rest ↔
      6 ≤ bs.length ∧ Identity.answersKnock (Reply.nth bs 0) = true ∧
        Identity.isSigned (Reply.nth bs 1) = true ∧
        Profile.ofFirmware? (Identity.firmware (Reply.nth bs 1)) = some p ∧
        asked = [Request.magicKnock, Query.request .sliced Query.firmwareVersion] ∧
        rest = bs.drop 6 := by
  unfold detect
  rw [(inquires_knock.adapt _).bind_iff]
  simp only [heard_check_ok_iff, ((inquires_sendQuery _ _).adapt _).bind_iff, heard_known_bind_iff,
    heard_after_say_iff, heard_pure_iff, resolve_eq_ok_iff, Reply.nth_drop, List.drop_drop,
    List.length_drop, id_eq, Bool.not_eq_true', Bool.not_eq_false]
  constructor
  · rintro ⟨-, _, rfl, hknock, hlen, _, rfl, hsigned, _, hp, rfl, rfl, rfl⟩
    exact ⟨by omega, hknock, hsigned, hp, rfl, rfl⟩
  · rintro ⟨hlen, hknock, hsigned, hp, rfl, rfl⟩
    exact ⟨by omega, _, rfl, hknock, by omega, _, rfl, hsigned, p, hp, rfl, rfl, rfl⟩

/-! ## The range -/

/-- The questions for a range, where the first one is answered by the bytes that are next. -/
def rangeQuestions (g : Generation) (firmware : Nat) (bs : List UInt8) : List Request :=
  askRange g firmware (measuresBySample firmware (Reply.nth bs 0))

/-- The range in the answers to these questions. -/
def rangeIn (g : Generation) (firmware : Nat) (capabilities : Reply) (bs : List UInt8) :
    Except RangeError Range :=
  match Range.fixed? g firmware with
  | some range => .ok range
  | none =>
    match g with
    | .v1 => .ok {}
    | .v2 =>
      if measuresBySample firmware (Reply.nth bs 0) then
        .ok (rangeBySample firmware capabilities (Reply.nth bs 1))
      else .ok (rangeByFirmware firmware capabilities)
    | .v3 | .v4 => rangeByFirmwareId g capabilities (Reply.nth bs 0)

/-- Whether a dialogue that asks for the range takes the bytes that tell it. -/
def HearsRange (p : Profile) : Prop :=
  ∀ {bs rest : List UInt8} {asked : List Request} {range : Range},
    Heard bs ((queryRange p).run.Path · (.ok range)) asked rest ↔
      3 * (rangeQuestions p.generation p.firmware bs).length ≤ bs.length ∧
        rangeIn p.generation p.firmware p.capabilities bs = .ok range ∧
        asked = rangeQuestions p.generation p.firmware bs ∧
        rest = bs.drop (3 * (rangeQuestions p.generation p.firmware bs).length)

/-- A range that is fixed takes no bytes. -/
theorem hearsRange_of_fixed {fixed : Range}
    (hf : Range.fixed? p.generation p.firmware = some fixed) : HearsRange p := by
  intro bs rest asked range
  have hasked : rangeQuestions p.generation p.firmware bs = [] := askRange_of_fixed hf _
  have hrange : rangeIn p.generation p.firmware p.capabilities bs = .ok fixed := by
    unfold rangeIn
    rw [hf]
  rw [queryRange_of_fixed hf, hasked, hrange, heard_pure_iff, Except.ok.injEq]
  exact (and_iff_right (Nat.zero_le _)).symm

/-- The second generation is asked for a sample if a bit of its firmware id says so. -/
theorem hearsRange_v2 (hg : p.generation = .v2) (hf : Range.fixed? .v2 p.firmware = none) :
    HearsRange p := by
  intro bs rest asked range
  obtain ⟨g, firmware, _⟩ := p
  obtain rfl : g = .v2 := hg
  simp only [queryRange, rangeIn, rangeQuestions, hf, askRange_v2 hf]
  rw [((inquires_sendQuery _ _).adapt _).bind_iff]
  simp only [id_eq]
  by_cases hm : measuresBySample firmware (Reply.nth bs 0) = true
  · simp only [if_pos hm, ((inquires_sendQuery _ _).adapt _).bind_iff, heard_pure_iff,
      Reply.nth_drop, List.length_drop, List.drop_drop, id_eq, List.length_cons, List.length_nil]
    constructor
    · rintro ⟨-, _, rfl, hlen, _, rfl, rfl, rfl, rfl⟩
      exact ⟨by omega, rfl, rfl, rfl⟩
    · rintro ⟨hlen, hr, rfl, rfl⟩
      exact ⟨by omega, _, rfl, by omega, [], rfl, Except.ok.inj hr, rfl, rfl⟩
  · simp only [if_neg hm, heard_pure_iff, List.length_singleton]
    constructor
    · rintro ⟨hlen, _, rfl, rfl, rfl, rfl⟩
      exact ⟨hlen, rfl, rfl, rfl⟩
    · rintro ⟨hlen, hr, rfl, rfl⟩
      exact ⟨hlen, [], rfl, Except.ok.inj hr, rfl, rfl⟩

/-- The newer generations tell the range in their firmware id. -/
theorem hearsRange_firmwareId (hg : p.generation = .v3 ∨ p.generation = .v4) : HearsRange p := by
  intro bs rest asked range
  have hq : queryRange p = (sendQuery p.queryEncoding Query.firmwareId).adapt RangeError.query >>=
      fun reply => ExceptT.mk (.done (rangeByFirmwareId p.generation p.capabilities reply)) := by
    obtain ⟨g, _⟩ := p
    rcases hg with rfl | rfl <;> rfl
  have hasked : rangeQuestions p.generation p.firmware bs = [askFirmwareId p.generation] := by
    rcases hg with hg | hg <;> rw [hg] <;> rfl
  have hrange : rangeIn p.generation p.firmware p.capabilities bs =
      rangeByFirmwareId p.generation p.capabilities (Reply.nth bs 0) := by
    rcases hg with hg | hg <;> rw [hg] <;> rfl
  rw [hq, ((inquires_sendQuery _ _).adapt _).bind_iff, hasked, hrange]
  constructor
  · rintro ⟨hlen, _, rfl, h⟩
    obtain ⟨hr, rfl, rfl⟩ := heard_done_iff.mp h
    exact ⟨hlen, hr, rfl, rfl⟩
  · rintro ⟨hlen, hr, rfl, rfl⟩
    exact ⟨hlen, [], rfl, heard_done_iff.mpr ⟨hr, rfl, rfl⟩⟩

/-- **Asking for the range** takes one question for each of the replies in which it is. -/
theorem hearsRange (p : Profile) : HearsRange p := by
  cases hf : Range.fixed? p.generation p.firmware with
  | some fixed => exact hearsRange_of_fixed hf
  | none =>
    cases hg : p.generation with
    | v1 =>
      rw [hg] at hf
      cases hf
    | v2 => exact hearsRange_v2 hg (hg ▸ hf)
    | v3 => exact hearsRange_firmwareId (.inl hg)
    | v4 => exact hearsRange_firmwareId (.inr hg)

/-! ## Resolution and reporting -/

def resolutionQuestions (g : Generation) : List Request :=
  if g = .v4 then [askResolution g] else []

/-- The resolution in the bytes that are next, if they are all there, and another one otherwise. -/
def resolutionIn (g : Generation) (other : Resolution) (bs : List UInt8) : Resolution :=
  if g = .v4 ∧ 3 ≤ bs.length then Resolution.ofReply (Reply.nth bs 0) else other

theorem readCount_askResolution (g : Generation) : (askResolution g).readCount = 3 :=
  Query.readCount_request _ _

/--
A resolution that is asked for on a script is read off the next bytes, as far as there are any.
-/
theorem resolvedBy_scripted (hg : p.generation = .v4) :
    resolvedBy p (scripted bs (askResolution p.generation)) =
      { p with resolution := resolutionIn p.generation p.resolution bs } := by
  have hr := readCount_askResolution p.generation
  unfold resolvedBy resolutionIn
  by_cases hlen : 3 ≤ bs.length
  · rw [reply_scripted hr hlen, if_pos ⟨hg, hlen⟩]
  · rw [if_neg fun h => hlen h.2]
    have hfailed : ¬ (scripted bs (askResolution p.generation)).Succeeded := by
      rwa [Exchange.succeeded_scripted_iff, hr]
    cases hreply : (scripted bs (askResolution p.generation)).completion.reply with
    | ok reply =>
      refine absurd ?_ hfailed
      rw [Exchange.succeeded_iff_reply (Nat.le_of_eq hr.symm), hreply]
      rfl
    | error cause => rfl

/-- **Asking for the resolution** goes on, whatever is left of the bytes. -/
theorem heard_completeResolution_iff :
    Heard bs ((completeResolution p).Path · q) asked rest ↔
      q = { p with resolution := resolutionIn p.generation p.resolution bs } ∧
        asked = resolutionQuestions p.generation ∧
        rest = bs.drop (3 * (resolutionQuestions p.generation).length) := by
  by_cases hg : p.generation = .v4
  · have hr := readCount_askResolution p.generation
    have hpath (es : List Exchange) : (completeResolution p).Path es q ↔
        ∃ e, es = [e] ∧ e.request = askResolution p.generation ∧ q = resolvedBy p e := by
      rw [path_completeResolution_iff, or_iff_left fun h => h.1 hg, and_iff_right hg]
    have hasked : resolutionQuestions p.generation = [askResolution p.generation] := if_pos hg
    rw [Heard.congr hpath, Heard.single_iff, resolvedBy_scripted hg,
      Heard.questions_scripted (by omega), hr, hasked]
    rfl
  · have hpath (es : List Exchange) : (completeResolution p).Path es q ↔ q = p ∧ es = [] := by
      rw [path_completeResolution_iff, or_iff_right fun h => hg h.1, and_iff_right hg, and_comm]
    have hasked : resolutionQuestions p.generation = [] := if_neg hg
    have hsame : resolutionIn p.generation p.resolution bs = p.resolution := if_neg fun h => hg h.1
    rw [Heard.congr hpath, Heard.and_iff, Heard.nil_iff, hasked, hsame]
    rfl

/-- Reporting is switched on whatever is left of the bytes. -/
theorem heard_switchOn_iff :
    Heard bs ((switchOn p).run.Path · (.ok ())) asked rest ↔ asked = [] ∧ rest = bs := by
  have hpath (es : List Exchange) :
      (switchOn p).run.Path es (.ok ()) ↔ (setReporting true).run.Path es (.ok ()) := by
    rw [switchOn, path_bind_ok_iff]
    constructor
    · rintro ⟨es₁, u, es₂, rfl, h₁, h₂⟩
      obtain ⟨rfl, -⟩ := h₂
      rw [List.append_nil]
      exact path_adapt_ok_iff.mp h₁
    · intro h
      exact ⟨es, (), [], (List.append_nil es).symm, path_adapt_ok_iff.mpr h, rfl, rfl⟩
  rw [Heard.congr hpath]
  exact (asks_setReporting true).heard_order_iff rfl

/-! ## Absolute mode -/

theorem path_writeSettings_cons_iff {g : Generation} {s : Setting} {settings : List Setting}
    {es : List Exchange} :
    (writeSettings g (s :: settings)).Path es (.ok (), s :: settings) ↔
      ∃ es₁ es₂, es = es₁ ++ es₂ ∧ (writeRegister g s.register s.value).run.Path es₁ (.ok ()) ∧
        (writeSettings g settings).Path es₂ (.ok (), settings) := by
  constructor
  · intro hp
    obtain ⟨es₁, cause | u, es₂, rfl, h₁, h₂⟩ := Dialogue.path_bind_iff.mp hp
    · cases h₂.2
    · obtain ⟨es₃, ⟨outcome, written⟩, es₄, rfl, h₃, rfl, h₄⟩ := Dialogue.path_bind_iff.mp h₂
      cases h₄
      exact ⟨es₁, es₃, by rw [List.append_nil], h₁, h₃⟩
  · rintro ⟨es₁, es₂, rfl, h₁, h₂⟩
    refine Dialogue.path_bind_iff.mpr ⟨es₁, .ok (), es₂, rfl, h₁, ?_⟩
    exact Dialogue.path_bind_iff.mpr
      ⟨es₂, (.ok (), settings), [], (List.append_nil es₂).symm, h₂, rfl, rfl⟩

/-- Settings are written whatever is left of the bytes. -/
theorem heard_writeSettings_iff {g : Generation} {settings : List Setting}
    (hvalid : ∀ s ∈ settings, Register.isValid s.register) :
    Heard bs ((writeSettings g settings).Path · (.ok (), settings)) asked rest ↔
      asked = [] ∧ rest = bs := by
  induction settings generalizing bs asked with
  | nil => exact heard_done_iff.trans (and_iff_right rfl)
  | cons s settings ih =>
    have hwrite {bs mid : List UInt8} {asked : List Request} :
        Heard bs ((writeRegister g s.register s.value).run.Path · (.ok ())) asked mid ↔
          asked = [] ∧ mid = bs :=
      (asks_writeRegister g (hvalid s List.mem_cons_self)).heard_order_iff
        (Register.readCount_writeRequest g _ _)
    have hrest {bs : List UInt8} {asked : List Request} :
        Heard bs ((writeSettings g settings).Path · (.ok (), settings)) asked rest ↔
          asked = [] ∧ rest = bs :=
      ih fun s' hs' => hvalid s' (List.mem_cons_of_mem s hs')
    rw [Heard.congr fun _ => path_writeSettings_cons_iff, Heard.append_iff]
    simp only [hwrite, hrest]
    constructor
    · rintro ⟨_, _, _, rfl, ⟨rfl, rfl⟩, rfl, rfl⟩
      exact ⟨rfl, rfl⟩
    · rintro ⟨rfl, rfl⟩
      exact ⟨[], rest, [], rfl, ⟨rfl, rfl⟩, rfl, rfl⟩

/-- **Reading back the mode register** takes one question. -/
theorem heard_confirmMode_iff {g : Generation} :
    Heard bs ((confirmMode g config).run.Path · (.ok ())) asked rest ↔
      3 ≤ bs.length ∧ (g = .v1 → (Reply.nth bs 0).first &&& absoluteModeBit ≠ 0) ∧
        asked = [readMode g] ∧ rest = bs.drop 3 := by
  have hask := asks_readRegister g (show Register.isValid modeRegister by decide)
  have hread := hask.inquires_persist (Register.readCount_readRequest g modeRegister)
    config.readBackRetries config.readBackDelay
  have hvalue : g = .v1 →
      Register.valueIn g (Reply.nth bs 0) = (Reply.nth bs 0).first := by
    rintro rfl
    rfl
  unfold confirmMode
  rw [(hread.adapt _).bind_iff]
  refine and_congr_right fun _ => ?_
  split
  · next hrefused =>
    refine iff_of_false ?_ ?_
    · rintro ⟨_, -, _, ⟨-, hp⟩, -⟩
      cases hp
    · rintro ⟨hbit, -⟩
      rw [hvalue hrefused.1] at hrefused
      exact hbit hrefused.1 hrefused.2
  · next hconfirmed =>
    constructor
    · rintro ⟨_, rfl, h⟩
      obtain ⟨-, rfl, rfl⟩ := heard_pure_iff.mp h
      refine ⟨fun hg hbit => hconfirmed ⟨hg, ?_⟩, rfl, rfl⟩
      rwa [hvalue hg]
    · rintro ⟨-, rfl, rfl⟩
      exact ⟨[], rfl, heard_pure_iff.mpr ⟨rfl, rfl, rfl⟩⟩

/-! ## The parts of a start-up -/

theorem heard_measureAndEnable_iff :
    Heard bs ((measureAndEnable p).Path · (.ok (), q)) asked rest ↔
      let ranging := rangeQuestions p.generation p.firmware bs
      ∃ range, rangeIn p.generation p.firmware p.capabilities bs = .ok range ∧
        3 * ranging.length ≤ bs.length ∧
        q = { p with
          bounds := range.bounds
          width := range.width
          resolution := resolutionIn p.generation p.resolution (bs.drop (3 * ranging.length)) } ∧
        asked = ranging ++ resolutionQuestions p.generation ∧
        rest = bs.drop (3 * asked.length) := by
  have hpath (es : List Exchange) : (measureAndEnable p).Path es (.ok (), q) ↔
      ∃ range es₁ es₂, es = es₁ ++ es₂ ∧ (queryRange p).run.Path es₁ (.ok range) ∧
        ∃ es₃ es₄, es₂ = es₃ ++ es₄ ∧
          (completeResolution { p with bounds := range.bounds, width := range.width }).Path es₃ q ∧
          (switchOn q).run.Path es₄ (.ok ()) := by
    rw [path_measureAndEnable_ok_iff]
    constructor
    · rintro ⟨es₁, range, es₃, es₄, rfl, h₁, h₃, h₄⟩
      exact ⟨range, es₁, es₃ ++ es₄, rfl, h₁, es₃, es₄, rfl, h₃, h₄⟩
    · rintro ⟨range, es₁, _, rfl, h₁, es₃, es₄, rfl, h₃, h₄⟩
      exact ⟨es₁, range, es₃, es₄, rfl, h₁, h₃, h₄⟩
  rw [Heard.congr hpath, Heard.exists_iff]
  refine exists_congr fun range => ?_
  simp only [Heard.append_iff, hearsRange p, heard_completeResolution_iff, heard_switchOn_iff]
  constructor
  · rintro ⟨_, _, _, rfl, ⟨hlen, hrange, rfl, rfl⟩, _, _, _, rfl, ⟨rfl, rfl, rfl⟩, rfl, rfl⟩
    refine ⟨hrange, hlen, rfl, by rw [List.append_nil], ?_⟩
    rw [List.drop_drop, List.append_nil, List.length_append, Nat.mul_add]
  · rintro ⟨hrange, hlen, rfl, rfl, rfl⟩
    refine ⟨_, _, _, rfl, ⟨hlen, hrange, rfl, rfl⟩, _, _, [], (List.append_nil _).symm,
      ⟨rfl, rfl, rfl⟩, rfl, ?_⟩
    rw [List.drop_drop, List.length_append, Nat.mul_add]

/-- The questions in absolute mode. -/
def modeQuestions (g : Generation) : List Request := if g.readsBackMode then [readMode g] else []

/-- Absolute mode is entered with one question, or without any. -/
theorem heard_enterAbsoluteMode_iff :
    Heard bs ((enterAbsoluteMode p config).Path · (.ok (), q)) asked rest ↔
      3 * (modeQuestions p.generation).length ≤ bs.length ∧
        (p.generation = .v1 → (Reply.nth bs 0).first &&& absoluteModeBit ≠ 0) ∧
        ∃ others, asked = modeQuestions p.generation ++ others ∧
          Heard (bs.drop (3 * (modeQuestions p.generation).length))
            ((measureAndEnable
              { p with registers := p.registers ++ p.generation.absoluteMode }).Path · (.ok (), q))
            others rest := by
  have hpath (es : List Exchange) : (enterAbsoluteMode p config).Path es (.ok (), q) ↔
      ∃ es₁ es₂, es = es₁ ++ es₂ ∧
        (writeSettings p.generation p.generation.absoluteMode).Path es₁
          (.ok (), p.generation.absoluteMode) ∧
        ∃ es₃ es₄, es₂ = es₃ ++ es₄ ∧
          (if p.generation.readsBackMode then
            (confirmMode p.generation config).run.Path es₃ (.ok ()) else es₃ = []) ∧
          (measureAndEnable
            { p with registers := p.registers ++ p.generation.absoluteMode }).Path
              es₄ (.ok (), q) := by
    rw [path_enterAbsoluteMode_ok_iff]
    constructor
    · rintro ⟨es₁, es₃, es₄, rfl, h₁, h₃, h₄⟩
      exact ⟨es₁, es₃ ++ es₄, rfl, h₁, es₃, es₄, rfl, h₃, h₄⟩
    · rintro ⟨es₁, _, rfl, h₁, es₃, es₄, rfl, h₃, h₄⟩
      exact ⟨es₁, es₃, es₄, rfl, h₁, h₃, h₄⟩
  rw [Heard.congr hpath]
  simp only [modeQuestions, Heard.append_iff,
    heard_writeSettings_iff (isValid_of_mem_absoluteMode p.generation)]
  split
  · next hback =>
    simp only [heard_confirmMode_iff, List.length_singleton]
    constructor
    · rintro ⟨_, _, _, rfl, ⟨rfl, rfl⟩, _, _, others, rfl, ⟨hlen, hbit, rfl, rfl⟩, h⟩
      exact ⟨hlen, hbit, others, rfl, h⟩
    · rintro ⟨hlen, hbit, others, rfl, h⟩
      exact ⟨[], bs, _, rfl, ⟨rfl, rfl⟩, [_], _, others, rfl, ⟨hlen, hbit, rfl, rfl⟩, h⟩
  · next hback =>
    have hbit : p.generation = .v1 → (Reply.nth bs 0).first &&& absoluteModeBit ≠ 0 := by
      intro hg
      rw [hg] at hback
      exact absurd rfl hback
    simp only [Heard.nil_iff, List.length_nil, Nat.mul_zero, List.drop_zero, List.nil_append]
    constructor
    · rintro ⟨_, _, _, rfl, ⟨rfl, rfl⟩, _, _, others, rfl, ⟨rfl, rfl⟩, h⟩
      exact ⟨Nat.zero_le _, hbit, others, rfl, h⟩
    · rintro ⟨-, -, others, rfl, h⟩
      exact ⟨[], bs, asked, rfl, ⟨rfl, rfl⟩, [], bs, asked, rfl, ⟨rfl, rfl⟩, h⟩

/-- The questions in front of those for the range. -/
def openingQuestions (g : Generation) : List Request := askCapabilities g :: modeQuestions g

/--
**A start-up on a script** asks for the capabilities first. Its questions and the profile that comes
out can be read off the bytes.
-/
theorem heard_start_iff :
    Heard bs ((start p config).Path · (.ok (), q)) asked rest ↔
      let opening := openingQuestions p.generation
      let ranging := rangeQuestions p.generation p.firmware (bs.drop (3 * opening.length))
      3 * (opening ++ ranging).length ≤ bs.length ∧
        (p.generation = .v1 → (Reply.nth bs 1).first &&& absoluteModeBit ≠ 0) ∧
        ∃ range, rangeIn p.generation p.firmware (Reply.nth bs 0) (bs.drop (3 * opening.length)) =
            .ok range ∧
          q = { p with
            capabilities := Reply.nth bs 0
            registers := p.registers ++ p.generation.absoluteMode
            bounds := range.bounds
            width := range.width
            resolution := resolutionIn p.generation p.resolution
              (bs.drop (3 * (opening ++ ranging).length)) } ∧
          asked = opening ++ ranging ++ resolutionQuestions p.generation ∧
          rest = bs.drop (3 * asked.length) := by
  have hcap : Inquires (queryCapabilities p config) (askCapabilities p.generation) id :=
    ((asks_sendQuery _ _).map_id.inquires_persist (Query.readCount_request _ _) _ _).adapt _
  have hopening : 3 * (openingQuestions p.generation).length =
      3 + 3 * (modeQuestions p.generation).length := by
    rw [openingQuestions, List.length_cons, Nat.mul_succ, Nat.add_comm]
  have hdrop : (bs.drop 3).drop (3 * (modeQuestions p.generation).length) =
      bs.drop (3 * (openingQuestions p.generation).length) := by
    rw [List.drop_drop, hopening]
  rw [Heard.congr fun _ => path_start_ok_iff, Heard.bind_iff]
  simp only [hcap.heard_iff, heard_enterAbsoluteMode_iff, heard_measureAndEnable_iff]
  constructor
  · rintro ⟨_, _, _, _, rfl, ⟨hcap, rfl, rfl, rfl⟩, hmode, hbit, _, rfl, range, hrange, hlen, hq,
      rfl, rfl⟩
    rw [Reply.nth_drop] at hbit
    rw [id_eq, hdrop] at hrange
    rw [hdrop] at hlen hq
    refine ⟨?_, hbit, range, hrange, ?_, ?_, ?_⟩
    · rw [List.length_drop] at hmode hlen
      rw [List.length_append]
      omega
    · rw [hq, List.drop_drop, List.length_append, Nat.mul_add]
      rfl
    · rw [hdrop]
      simp only [openingQuestions, List.cons_append, List.nil_append, List.append_assoc]
    · rw [hdrop, List.drop_drop]
      simp only [openingQuestions, List.length_append, List.length_cons, List.length_nil]
      congr 1
      omega
  · rintro ⟨hlen, hbit, range, hrange, hq, rfl, rfl⟩
    rw [List.length_append, Nat.mul_add] at hlen hq
    refine ⟨_, [_], _, _, ?_, ⟨by omega, rfl, rfl, rfl⟩, ?_, ?_, _, rfl, range, ?_, ?_, ?_, rfl, ?_⟩
    · rw [hdrop]
      simp only [openingQuestions, List.cons_append, List.nil_append, List.append_assoc]
    · rw [List.length_drop]
      omega
    · rwa [Reply.nth_drop]
    · rwa [id_eq, hdrop]
    · rw [hdrop, List.length_drop]
      omega
    · rw [hdrop, List.drop_drop, hq]
      rfl
    · rw [hdrop, List.drop_drop]
      simp only [openingQuestions, List.length_append, List.length_cons]
      congr 1
      omega

end Control

end Touchpad
