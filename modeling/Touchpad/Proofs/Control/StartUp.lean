import Touchpad.Proofs.Control.StartPlan

/-!
# The law of a start-up

Whatever the transport does, the requests of a start-up are a beginning of one sequence, only two of
them are ever repeated, a failure ends the start-up unless it is the resolution's, and reporting is
only switched on at the end of a sequence in which everything else went well. The sequence is begun
in any case, and it is only broken off for a reason: an attempt that failed and was the last one, or
an answer that cannot be used.

* `startRequests`, `allowedTries`: the sequence, and how often each of its requests is tried
* `Refused`: the answers that cannot be used
* `StartLaw`: what the round trips of a start-up are like
* `start_law`: they are, on every transport
-/

namespace Touchpad

namespace Control

/--
The requests of a whole start-up, with the number of attempts at the capabilities and at reading
back the mode register.
-/
def startRequests (g : Generation) (firmware : Nat) (sample : Bool) (asked confirmed : Nat) :
    List Request :=
  List.replicate asked (askCapabilities g) ++ (writeMode g ++
    (if g.readsBackMode then List.replicate confirmed (readMode g) else [])) ++
  (askRange g firmware sample ++ (if g = .v4 then [askResolution g] else [])) ++
  [Request.reporting true]

/-- How often a request is tried before a start-up is given up. -/
def allowedTries (g : Generation) (config : Config) (r : Request) : Nat :=
  if r = askCapabilities g then max 1 config.commandRetries
  else if r = readMode g then max 1 config.readBackRetries
  else 1

/-- Whether a round trip is answered, behind others, in a way that ends a start-up. -/
inductive Refused (g : Generation) (before : List Exchange) (e : Exchange) : Prop
  /-- The first generation is still in relative mode. -/
  | mode {reply : Reply} : g = .v1 → e.request = readMode .v1 → e.completion.reply = .ok reply →
      reply.first &&& absoluteModeBit = 0 → Refused g before e
  /-- The firmware id of the fourth generation does not go with the traces it claimed to have. -/
  | traces {e' : Exchange} {capabilities firmwareId : Reply} {cause : RangeError} :
      g = .v4 → e.request = askFirmwareId .v4 → e.completion.reply = .ok firmwareId →
        e' ∈ before → e'.request = askCapabilities .v4 →
          e'.completion.reply = .ok capabilities →
            rangeByFirmwareId .v4 capabilities firmwareId = .error cause → Refused g before e

/-- What the round trips of a start-up are like, and whether it succeeds. -/
structure StartLaw (p : Profile) (config : Config) (es : List Exchange) (ok : Bool) : Prop where
  /-- The requests are a beginning of the sequence, and all of it once reporting is switched on. -/
  requests : ∃ sample asked confirmed,
    (sample = true ↔ SampleDue p.generation p.firmware es) ∧
    (1 ≤ asked ∧ asked ≤ max 1 config.commandRetries) ∧
    (1 ≤ confirmed ∧ confirmed ≤ max 1 config.readBackRetries) ∧
    es.map Exchange.request <+: startRequests p.generation p.firmware sample asked confirmed ∧
    (Request.reporting true ∈ es.map Exchange.request →
      es.map Exchange.request = startRequests p.generation p.firmware sample asked confirmed)
  /-- The capabilities are asked for in any case, before anything else. -/
  first : es.head?.map Exchange.request = some (askCapabilities p.generation)
  /-- Only two requests are ever repeated, and only after they failed. -/
  repeated : es.Pairwise fun e later => later.request = e.request → ¬ e.Succeeded ∧
    (e.request = askCapabilities p.generation ∨ e.request = readMode p.generation)
  /-- Nothing follows a failure but another attempt, except where the resolution is not known. -/
  failed : es.IsChain fun e next => e.Succeeded ∨ next.request = e.request ∨
    (p.generation = .v4 ∧ e.request = askResolution p.generation)
  /-- Reporting is switched on once, at the end, and after everything else went well. -/
  enabled : ∀ before e after, es = before ++ e :: after → e.request = Request.reporting true →
    after = [] ∧ Request.reporting true ∉ before.map Exchange.request ∧
    (∀ r ∈ before.map Exchange.request, (p.generation = .v4 ∧ r = askResolution p.generation) ∨
      ∃ e' ∈ before, e'.request = r ∧ e'.Succeeded) ∧
    (p.generation = .v1 → ∃ e' ∈ before, e'.request = readMode .v1 ∧
      ∃ reply, e'.completion.reply = .ok reply ∧ reply.first &&& absoluteModeBit ≠ 0)
  /--
  A start-up is only given up for a reason: a request failed for the last time that it is tried, or
  its answer cannot be used.
  -/
  givenUp : ok = false → ∃ before e, es = before ++ [e] ∧
    ((¬ e.Succeeded ∧ e.request ≠ askResolution p.generation ∧
        (es.map Exchange.request).count e.request = allowedTries p.generation config e.request) ∨
      Refused p.generation before e)
  /-- A start-up succeeds exactly if reporting is switched on. -/
  ok_iff : ok = true ↔ ∃ e ∈ es, e.request = Request.reporting true ∧ e.Succeeded

/-! ## The sequence and the plan -/

section Sequence

variable {g : Generation} {capabilities : Reply} {firmware : Nat} {config : Config} {sample : Bool}

/-- The plan without its last step. -/
def quietPlan (g : Generation) (capabilities : Reply) (firmware : Nat) (config : Config)
    (sample : Bool) : List Step :=
  capabilitiesStep g config ::
    (entering g config ++ (ranging g capabilities firmware sample ++ resolving g))

theorem startPlan_eq :
    startPlan g capabilities firmware config sample =
      quietPlan g capabilities firmware config sample ++ [enabling] := by
  simp only [startPlan, quietPlan, List.cons_append, List.append_assoc]

/-- Reporting is switched on by the last step only. -/
theorem request_ne_reporting {s : Step}
    (hs : s ∈ quietPlan g capabilities firmware config sample) :
    s.request ≠ Request.reporting true := by
  have hn : ((startPlan g capabilities firmware config sample).map Step.request).Nodup :=
    nodup_startPlan
  rw [startPlan_eq, List.map_append] at hn
  exact (List.nodup_append.mp hn).2.2 s.request (List.mem_map_of_mem hs) enabling.request
    List.mem_cons_self

/-- The requests that are tried once. -/
def singleRequests (g : Generation) : List Request :=
  writeMode g ++
    [askFirmwareId g, Query.request g.queryEncoding Query.sample, Request.reporting true]

/-- **A step of a start-up** is one of four that the plan knows more about, or a single attempt. -/
theorem mem_startPlan_cases {s : Step}
    (hs : s ∈ startPlan g capabilities firmware config sample) :
    s = capabilitiesStep g config ∨ s = confirmStep g config ∨
      (g = .v4 ∧ s = tracesStep capabilities) ∨ (g = .v4 ∧ s = resolutionStep g) ∨
        ∃ r ∈ singleRequests g, s = Step.once r := by
  simp only [startPlan, entering, ranging, resolving, enabling, List.mem_cons, List.mem_append,
    List.mem_map, List.mem_ite_nil_right, List.not_mem_nil, or_false] at hs
  rcases hs with hs | (⟨r, hr, hs⟩ | ⟨_, hs⟩) | hs | hs | hs
  · exact .inl hs
  · exact .inr (.inr (.inr (.inr ⟨r, List.mem_append_left _ hr, hs.symm⟩)))
  · exact .inr (.inl hs)
  · split at hs
    · next hg => exact .inr (.inr (.inl ⟨hg, List.mem_singleton.mp hs⟩))
    · obtain ⟨r, hr, hs⟩ := List.mem_map.mp hs
      have hmem := askRange_sublist.subset hr
      refine .inr (.inr (.inr (.inr ⟨r, List.mem_append_right _ ?_, hs.symm⟩)))
      exact List.mem_append_left [Request.reporting true] hmem
  · exact .inr (.inr (.inr (.inl hs)))
  · exact .inr (.inr (.inr (.inr ⟨_, List.mem_append_right _ (by simp), hs⟩)))

/-- What is tried once is no request that is repeated, and none that may fail. -/
theorem ne_of_mem_singleRequests {r : Request} (hr : r ∈ singleRequests g) :
    r ≠ askCapabilities g ∧ r ≠ readMode g ∧ r ≠ askResolution g := by
  revert hr
  revert r
  cases g <;> decide

/-- A step allows as many attempts as its request is tried. -/
theorem more_add_one_eq_allowedTries {s : Step}
    (hs : s ∈ startPlan g capabilities firmware config sample) :
    s.more + 1 = allowedTries g config s.request := by
  have hmax (n : Nat) : max n 1 - 1 + 1 = max 1 n := by omega
  have hmode : readMode g ≠ askCapabilities g := by cases g <;> decide
  have hother {r : Request} (h : r ≠ askCapabilities g ∧ r ≠ readMode g) :
      1 = allowedTries g config r := by
    rw [allowedTries, if_neg h.1, if_neg h.2]
  rcases mem_startPlan_cases hs with rfl | rfl | ⟨rfl, rfl⟩ | ⟨rfl, rfl⟩ | ⟨r, hr, rfl⟩
  · rw [allowedTries]
    exact (hmax config.commandRetries).trans (if_pos rfl).symm
  · rw [allowedTries]
    exact (hmax config.readBackRetries).trans ((if_neg hmode).trans (if_pos rfl)).symm
  · exact hother (by decide : askFirmwareId .v4 ≠ _ ∧ askFirmwareId .v4 ≠ _)
  · exact hother (by decide : askResolution .v4 ≠ _ ∧ askResolution .v4 ≠ _)
  · obtain ⟨hc, hm, -⟩ := ne_of_mem_singleRequests hr
    exact hother ⟨hc, hm⟩

/-- The requests of the plan, with the numbers of attempts of its two repeated steps. -/
theorem script_startPlan {times : Request → Nat}
    (h : ∀ s ∈ startPlan g capabilities firmware config sample,
      1 ≤ times s.request ∧ times s.request ≤ s.more + 1) :
    Follows.script times (startPlan g capabilities firmware config sample) =
      startRequests g firmware sample (times (askCapabilities g)) (times (readMode g)) := by
  -- a part of the plan without repeated steps
  have hone {plan : List Step} (hplan : plan ⊆ startPlan g capabilities firmware config sample)
      (hm : ∀ s ∈ plan, s.more = 0) : Follows.script times plan = plan.map Step.request :=
    Follows.script_eq_map fun s hs => by
      have hb := h s (hplan hs)
      rw [hm s hs] at hb
      exact Nat.le_antisymm hb.2 hb.1
  have hmap {rs : List Request} : ∀ s ∈ rs.map Step.once, s.more = 0 := by
    intro s hs
    obtain ⟨r, _, rfl⟩ := List.mem_map.mp hs
    rfl
  have hwrite : Follows.script times ((writeMode g).map Step.once) = writeMode g := by
    rw [hone (fun s hs => by simp [startPlan, entering, hs]) hmap, map_request_map_once]
  have hconfirm : Follows.script times (if g.readsBackMode then [confirmStep g config] else []) =
      if g.readsBackMode then List.replicate (times (readMode g)) (readMode g) else [] := by
    split
    · exact Follows.script_singleton times _
    · rfl
  have hrange : Follows.script times (ranging g capabilities firmware sample) =
      askRange g firmware sample := by
    rw [hone (fun s hs => by simp [startPlan, hs]), map_request_ranging]
    unfold ranging
    split
    · exact List.forall_mem_singleton.mpr rfl
    · exact hmap
  have hresolution : Follows.script times (resolving g) =
      if g = .v4 then [askResolution g] else [] := by
    rw [hone (fun s hs => by simp [startPlan, hs]), map_request_resolving]
    cases g <;> simp [resolving, resolutionStep]
  have henable : Follows.script times [enabling] = [Request.reporting true] :=
    hone (by simp [startPlan]) (List.forall_mem_singleton.mpr rfl)
  simp only [startPlan, entering, startRequests, Follows.script_append, Follows.script_cons, hwrite,
    hconfirm, hrange, hresolution, henable, List.append_assoc]
  rfl

end Sequence

/-! ## The law -/

section Law

variable {g : Generation} {capabilities : Reply} {firmware : Nat} {config : Config} {sample : Bool}
  {es : List Exchange} {ok : Bool}

/-- Reporting is not switched on, or it is at the end of a plan that was gone through. -/
theorem enabled_cases (h : Follows (startPlan g capabilities firmware config sample) es ok) :
    (Request.reporting true ∉ es.map Exchange.request ∧ ok = false) ∨
      ∃ before e, es = before ++ [e] ∧ e.request = Request.reporting true ∧
        (e.Succeeded ↔ ok = true) ∧
        Follows (quietPlan g capabilities firmware config sample) before true ∧
        Request.reporting true ∉ before.map Exchange.request := by
  have hquiet {es through}
      (h : Follows (quietPlan g capabilities firmware config sample) es through) :
      Request.reporting true ∉ es.map Exchange.request := by
    intro hmem
    obtain ⟨e, he, hr⟩ := List.mem_map.mp hmem
    obtain ⟨s, hs, hsr⟩ := h.exists_step e he
    exact request_ne_reporting hs (hsr.symm.trans hr)
  rw [startPlan_eq] at h
  rcases h.append_cases with ⟨h, hok⟩ | ⟨es₁, es₂, rfl, h₁, h₂⟩
  · exact .inl ⟨hquiet h, hok⟩
  · obtain ⟨e, rfl, hr, hok⟩ := h₂.exists_of_once
    exact .inr ⟨es₁, e, rfl, hr, hok, h₁, hquiet h₁⟩

/-- **The requests are a beginning of the sequence**, and all of it once reporting is on. -/
theorem exists_attempts (h : Follows (startPlan g capabilities firmware config sample) es ok) :
    ∃ asked confirmed, (1 ≤ asked ∧ asked ≤ max 1 config.commandRetries) ∧
      (1 ≤ confirmed ∧ confirmed ≤ max 1 config.readBackRetries) ∧
      es.map Exchange.request <+: startRequests g firmware sample asked confirmed ∧
      (Request.reporting true ∈ es.map Exchange.request →
        es.map Exchange.request = startRequests g firmware sample asked confirmed) := by
  obtain ⟨times, hb, hpre⟩ := h.requests nodup_startPlan
  have hall : Request.reporting true ∈ es.map Exchange.request →
      es.map Exchange.request =
        Follows.script times (startPlan g capabilities firmware config sample) := by
    intro hmem
    have henable := hb enabling (by simp [startPlan])
    have hlast : Follows.script times [enabling] = [Request.reporting true] := by
      rw [Follows.script_singleton, Nat.le_antisymm henable.2 henable.1]
      rfl
    rw [startPlan_eq, Follows.script_append, hlast] at hpre ⊢
    rcases List.prefix_concat_iff.mp hpre with heq | hquiet
    · exact heq
    · obtain ⟨s, hs, hr⟩ := Follows.exists_step_of_mem_script (hquiet.subset hmem)
      exact absurd hr.symm (request_ne_reporting hs)
  rw [script_startPlan hb] at hpre hall
  obtain ⟨hasked, hasked'⟩ := hb (capabilitiesStep g config) (by simp [startPlan])
  have hmax (n m : Nat) (h : n ≤ max m 1 - 1 + 1) : n ≤ max 1 m := by omega
  cases hg : g.readsBackMode with
  | true =>
    obtain ⟨hconfirmed, hconfirmed'⟩ :=
      hb (confirmStep g config) (by simp [startPlan, entering, hg])
    exact ⟨_, _, ⟨hasked, hmax _ _ hasked'⟩, ⟨hconfirmed, hmax _ _ hconfirmed'⟩, hpre, hall⟩
  | false =>
    -- nothing is read back, so that any number of attempts at it will do
    have heq (n m k : Nat) :
        startRequests g firmware sample n m = startRequests g firmware sample n k := by
      simp only [startRequests, hg, Bool.false_eq_true, if_false]
    rw [heq _ _ 1] at hpre hall
    exact ⟨_, 1, ⟨hasked, hmax _ _ hasked'⟩, ⟨Nat.le_refl 1, Nat.le_max_left 1 _⟩, hpre, hall⟩

/-- At the end of the plan every request succeeded that has to. -/
theorem exists_succeeded (h : Follows (quietPlan g capabilities firmware config sample) es true) :
    ∀ r ∈ es.map Exchange.request, (g = .v4 ∧ r = askResolution g) ∨
      ∃ e ∈ es, e.request = r ∧ e.Succeeded := by
  intro r hr
  obtain ⟨e, he, rfl⟩ := List.mem_map.mp hr
  obtain ⟨s, hs, hsr⟩ := h.exists_step e he
  obtain ⟨e', he', hr', hpassed⟩ := h.exists_passed s hs
  rw [hsr]
  have hs : s ∈ startPlan g capabilities firmware config sample := by
    rw [startPlan_eq]
    exact List.mem_append_left _ hs
  rcases mem_startPlan_cases hs with rfl | rfl | ⟨hg, rfl⟩ | ⟨hg, rfl⟩ | ⟨r, _, rfl⟩
  · exact .inr ⟨e', he', hr', (hpassed rfl).1⟩
  · exact .inr ⟨e', he', hr', (hpassed rfl).1⟩
  · exact .inr ⟨e', he', hr', (hpassed rfl).1⟩
  · exact .inl ⟨hg, rfl⟩
  · exact .inr ⟨e', he', hr', (hpassed rfl).1⟩

/-- At the end of the plan the first generation has confirmed absolute mode. -/
theorem exists_confirmed (h : Follows (quietPlan g capabilities firmware config sample) es true)
    (hg : g = .v1) : ∃ e ∈ es, e.request = readMode .v1 ∧
      ∃ reply, e.completion.reply = .ok reply ∧ reply.first &&& absoluteModeBit ≠ 0 := by
  subst hg
  obtain ⟨e, he, hr, hpassed⟩ := h.exists_passed (confirmStep .v1 config)
    (by simp [quietPlan, entering, Generation.readsBackMode])
  exact ⟨e, he, hr, (hpassed rfl).2 rfl⟩

/-- The step that comes first has been passed wherever another one is tried. -/
theorem exists_capabilities {front back : List Step} {s : Step}
    (hplan : startPlan g capabilities firmware config sample = front ++ s :: back)
    (hne : s.request ≠ askCapabilities g) (h : Follows front es true) :
    ∃ e ∈ es, e.request = askCapabilities g ∧ e.Succeeded := by
  have hmem : capabilitiesStep g config ∈ front := by
    cases front with
    | nil => exact absurd (congrArg Step.request (List.cons.inj hplan).1).symm hne
    | cons s' front =>
      rw [(List.cons.inj hplan).1]
      exact List.mem_cons_self
  obtain ⟨e, he, hr, hpassed⟩ := h.exists_passed _ hmem
  exact ⟨e, he, hr, (hpassed rfl).1⟩

/-- A reply of the mode register that does not confirm absolute mode is refused. -/
theorem refused_of_not_confirmsMode {before : List Exchange} {e : Exchange}
    (hr : e.request = readMode g) (hs : e.Succeeded) (h : ¬ ConfirmsMode g e) :
    Refused g before e := by
  obtain ⟨rfl, hno⟩ := Classical.not_imp.mp h
  have hcount : e.request.readCount = 3 := by rw [hr, readMode, Register.readCount_readRequest]
  obtain ⟨reply, hreply⟩ := Exchange.exists_reply (Nat.le_of_eq hcount.symm) hs
  refine .mode rfl hr hreply ?_
  by_contra hbit
  exact hno ⟨reply, hreply, hbit⟩

/-- A firmware id that does not make a range is refused. -/
theorem refused_of_not_makesRange {before : List Exchange} {e e' : Exchange}
    (hr : e.request = askFirmwareId .v4) (hs : e.Succeeded) (h : ¬ MakesRange capabilities e)
    (he' : e' ∈ before) (hr' : e'.request = askCapabilities .v4)
    (hreply' : e'.completion.reply = .ok capabilities) : Refused .v4 before e := by
  have hcount : e.request.readCount = 3 := by rw [hr, askFirmwareId, Query.readCount_request]
  obtain ⟨firmwareId, hreply⟩ := Exchange.exists_reply (Nat.le_of_eq hcount.symm) hs
  cases hrange : rangeByFirmwareId .v4 capabilities firmwareId with
  | ok range => exact absurd ⟨firmwareId, range, hreply, hrange⟩ h
  | error cause => exact .traces rfl hr hreply he' hr' hreply' hrange

/-- **A start-up is given up at its last attempt**, or because of an answer. -/
theorem exists_last (h : Follows (startPlan g capabilities firmware config sample) es false)
    (hcap : ∀ e ∈ es, e.request = askCapabilities g → e.Succeeded →
      e.completion.reply = .ok capabilities) :
    ∃ before e, es = before ++ [e] ∧
      ((¬ e.Succeeded ∧ e.request ≠ askResolution g ∧
          (es.map Exchange.request).count e.request = allowedTries g config e.request) ∨
        Refused g before e) := by
  obtain ⟨front, s, back, es₁, failed, last, hplan, rfl, h₁, ht, hbroken⟩ := h.broken_off
  have hs : s ∈ startPlan g capabilities firmware config sample := by simp [hplan]
  obtain ⟨hneeded, hunmet⟩ : s.needed = true ∧ ¬ (last.Succeeded ∧ s.accepts last) :=
    Classical.not_imp.mp hbroken
  refine ⟨es₁ ++ failed, last, (List.append_assoc ..).symm, ?_⟩
  by_cases hlast : last.Succeeded
  · -- the step asked for more than success
    have hrefused : ¬ s.accepts last := fun haccepts => hunmet ⟨hlast, haccepts⟩
    refine .inr ?_
    rcases mem_startPlan_cases hs with rfl | rfl | ⟨rfl, rfl⟩ | ⟨-, rfl⟩ | ⟨r, _, rfl⟩
    · exact absurd trivial hrefused
    · exact refused_of_not_confirmsMode ht.request hlast hrefused
    · obtain ⟨e', he', hr', hs'⟩ :=
        exists_capabilities hplan (askCapabilities_ne_askFirmwareId .v4).symm h₁
      have hreply' := hcap e' (List.mem_append_left _ he') hr' hs'
      exact refused_of_not_makesRange ht.request hlast hrefused (List.mem_append_left _ he') hr'
        hreply'
    · cases hneeded
    · exact absurd trivial hrefused
  · refine .inl ⟨hlast, ?_, ?_⟩
    · rw [ht.request]
      rcases mem_startPlan_cases hs with rfl | rfl | ⟨rfl, rfl⟩ | ⟨-, rfl⟩ | ⟨r, hr, rfl⟩
      · show askCapabilities g ≠ askResolution g
        cases g <;> decide
      · show readMode g ≠ askResolution g
        cases g <;> decide
      · show askFirmwareId .v4 ≠ askResolution .v4
        decide
      · cases hneeded
      · exact (ne_of_mem_singleRequests hr).2.2
    · have hn : ((front ++ s :: back).map Step.request).Nodup := hplan ▸ nodup_startPlan
      rw [ht.request, h₁.count_request ht hn hlast, more_add_one_eq_allowedTries hs]

theorem startLaw_of_follows {p : Profile}
    (h : Follows (startPlan p.generation capabilities p.firmware config sample) es ok)
    (hcap : ∀ e ∈ es, e.request = askCapabilities p.generation → e.Succeeded →
      e.completion.reply = .ok capabilities)
    (hs : sample = true ↔ SampleDue p.generation p.firmware es) : StartLaw p config es ok where
  requests := by
    obtain ⟨asked, confirmed, h⟩ := exists_attempts h
    exact ⟨sample, asked, confirmed, hs, h⟩
  first := h.head?_request
  repeated := by
    refine (h.pairwise nodup_startPlan).imp fun hR heq => ?_
    obtain ⟨hfailed, s, hmem, hr, hmore⟩ := hR heq
    refine ⟨hfailed, ?_⟩
    rcases mem_startPlan_cases hmem with rfl | rfl | ⟨_, rfl⟩ | ⟨_, rfl⟩ | ⟨r, _, rfl⟩
    · exact .inl hr.symm
    · exact .inr hr.symm
    · exact absurd hmore (Nat.lt_irrefl 0)
    · exact absurd hmore (Nat.lt_irrefl 0)
    · exact absurd hmore (Nat.lt_irrefl 0)
  failed := by
    refine h.isChain.imp fun e next he => ?_
    rcases he with he | he | ⟨s, hmem, hr, hneeded⟩
    · exact .inl he
    · exact .inr (.inl he)
    · rcases mem_startPlan_cases hmem with rfl | rfl | ⟨_, rfl⟩ | ⟨hg, rfl⟩ | ⟨r, _, rfl⟩
      · cases hneeded
      · cases hneeded
      · cases hneeded
      · exact .inr (.inr ⟨hg, hr.symm⟩)
      · cases hneeded
  enabled := by
    intro before e after hes hr
    rcases enabled_cases h with ⟨hno, _⟩ | ⟨front, last, rfl, _, _, hquiet, hno⟩
    · exact absurd (List.mem_map.mpr ⟨e, by simp [hes], hr⟩) hno
    · rcases List.eq_nil_or_concat after with rfl | ⟨after, x, rfl⟩
      · obtain ⟨rfl, _⟩ := List.append_inj' hes rfl
        exact ⟨rfl, hno, exists_succeeded hquiet, exists_confirmed hquiet⟩
      · -- something behind it would make it one of the round trips before the last
        rw [List.concat_eq_append, ← List.cons_append, ← List.append_assoc] at hes
        obtain ⟨rfl, _⟩ := List.append_inj' hes rfl
        exact absurd (List.mem_map.mpr ⟨e, by simp, hr⟩) hno
  givenUp := by
    rintro rfl
    exact exists_last h hcap
  ok_iff := by
    rcases enabled_cases h with ⟨hno, rfl⟩ | ⟨before, e, rfl, hr, hok, _, hno⟩
    · refine iff_of_false Bool.false_ne_true ?_
      rintro ⟨e, he, hr, _⟩
      exact hno (List.mem_map.mpr ⟨e, he, hr⟩)
    · rw [← hok]
      refine ⟨fun he => ⟨e, by simp, hr, he⟩, ?_⟩
      rintro ⟨e', hmem, hr', he'⟩
      rcases List.mem_append.mp hmem with hmem | hmem
      · exact absurd (List.mem_map.mpr ⟨e', hmem, hr'⟩) hno
      · rwa [List.mem_singleton.mp hmem] at he'

/-- **The law of a start-up**, whatever the transport does. -/
theorem start_law {σ : Type} (t : Transport σ) (s : σ) (p : Profile) (config : Config) :
    ((start p config).run t s).requests =
        ((start p config).exchanges t s).map Exchange.request ∧
      StartLaw p config ((start p config).exchanges t s)
        ((start p config).run t s).value.1.isOk := by
  obtain ⟨sample, capabilities, hs, hcap, h⟩ := path_start (Dialogue.path_run t s (start p config))
  exact ⟨Dialogue.requests_run t s _, startLaw_of_follows h hcap hs⟩

end Law

end Control

end Touchpad
