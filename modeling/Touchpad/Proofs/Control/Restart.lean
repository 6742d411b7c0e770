import Touchpad.Bus.Faulty
import Touchpad.Bus.Scripted
import Touchpad.Proofs.Control.Completion

/-!
# Starting a touchpad again

A profile with which a start-up has succeeded can be started once more. If the touchpad answers as
before, the second start-up goes the same way: what is said depends on the generation and the
firmware, and what was found out is found out again. Attempts that failed the first time need not
fail the second time.

* `Steady`: a command whose failed attempts may be left out
* `path_start_successes`: a start-up without its failed attempts
* `path_start_again`: a start-up from where the first one has ended
* `restart_law`: only the list of settings differs, to which the settings are added once more
* `restart_changes_the_profile`: it does differ
-/

namespace Touchpad

instance Dialogue.decidableReplays {σ : Type} (t : Transport σ) :
    (s : σ) → (es : List Exchange) → Decidable (Replays t s es)
  | _, [] => inferInstanceAs (Decidable True)
  | s, e :: es =>
    have := decidableReplays t (t.submit s e.request).state es
    inferInstanceAs (Decidable (_ ∧ _ ∧ _))

namespace Control

open Exchange (successes successes_append successes_singleton successes_of_forall
  successes_of_forall_not)

variable {es : List Exchange} {config : Config} {p q : Profile}

/-! ## Without the failed attempts -/

section Steady

variable {ε ε' α β : Type}

/-- Whether a command that succeeds also does so without its attempts that failed. -/
structure Steady (x : Talk ε α) : Prop where
  path : ∀ {es a}, x.run.Path es (.ok a) → x.run.Path (successes es) (.ok a)

theorem Steady.bind {x : Talk ε α} {f : α → Talk ε β} (hx : Steady x) (hf : ∀ a, Steady (f a)) :
    Steady (x >>= f) where
  path hp := by
    obtain ⟨es₁, a, es₂, rfl, h₁, h₂⟩ := path_bind_ok_iff.mp hp
    rw [successes_append]
    exact path_bind_ok_iff.mpr ⟨_, a, _, rfl, hx.path h₁, (hf a).path h₂⟩

theorem Steady.adapt {x : Talk ε α} (hx : Steady x) (f : ε → ε') : Steady (x.adapt f) where
  path hp := path_adapt_ok_iff.mpr (hx.path (path_adapt_ok_iff.mp hp))

/-- What is known without the touchpad is steady. -/
theorem Steady.of_nil {x : Talk ε α} (h : ∀ {es a}, x.run.Path es (.ok a) → es = []) :
    Steady x where
  path hp := by
    obtain rfl := h hp
    exact hp

theorem steady_done (v : Except ε α) : Steady (ExceptT.mk (.done v)) := .of_nil fun hp => hp.1

theorem steady_say (record : Log.Record) : Steady (say record : Talk ε Unit) :=
  .of_nil fun hp => hp.1

theorem Asks.steady {talk : Talk ε α} {r : Request} {read : Exchange → Except ε α}
    (h : Asks talk r read) : Steady talk where
  path hp := by
    obtain ⟨e, rfl, he⟩ := h.succeeded hp
    rwa [successes_singleton he]

/-- So is one that is tried again: a second time it succeeds at once. -/
theorem Asks.steady_persist {talk : Talk CommandError α} {r : Request}
    {read : Exchange → Except CommandError α} (h : Asks talk r read) (tries delay : Nat) :
    Steady (persist tries delay talk) where
  path hp := by
    obtain ⟨failed, last, rfl, hfailed, hlast⟩ := h.exists_of_path_persist hp
    rw [successes_append, successes_of_forall_not hfailed, List.nil_append]
    exact path_persist_of_ok (h.steady.path hlast) tries delay

theorem steady_queryCapabilities (p : Profile) (config : Config) :
    Steady (queryCapabilities p config) :=
  ((asks_sendQuery _ _).steady_persist _ _).adapt _

theorem steady_confirmMode (g : Generation) (config : Config) : Steady (confirmMode g config) := by
  have hask := asks_readRegister g (show Register.isValid modeRegister by decide)
  refine Steady.bind ((hask.steady_persist _ _).adapt _) fun value => ?_
  split
  · exact steady_done _
  · exact steady_done _

theorem steady_queryRange (p : Profile) : Steady (queryRange p) := by
  have hask (command : UInt8) :
      Steady ((sendQuery p.queryEncoding command).adapt RangeError.query) :=
    (asks_sendQuery _ command).steady.adapt _
  unfold queryRange
  split
  · exact steady_done _
  · dsimp only
    split
    · exact steady_done _
    · -- the second generation may be asked for a sample too
      refine (hask _).bind fun firmwareId => ?_
      split
      · exact (hask _).bind fun sample => steady_done _
      · exact steady_done _
    · exact (hask _).bind fun firmwareId => steady_done _
    · exact (hask _).bind fun firmwareId => steady_done _

theorem steady_switchOn (p : Profile) : Steady (switchOn p) :=
  ((asks_setReporting true).adapt _).steady.bind fun _ => steady_say _

end Steady

theorem request_of_mem_resolving {g : Generation} {s : Step} (h : s ∈ resolving g) :
    s.request = askResolution g := by
  unfold resolving at h
  split at h
  · rw [List.mem_singleton.mp h]
    rfl
  · cases h

/-- **A start-up without its failed attempts**, if it was told the resolution. -/
theorem path_start_successes (hp : (start p config).Path es (.ok (), q))
    (hres : ∀ e ∈ es, e.request = askResolution q.generation → e.Succeeded) :
    (start p config).Path (successes es) (.ok (), q) := by
  obtain ⟨es₁, capabilities, rest, rfl, hcap, hp⟩ := path_start_ok_iff.mp hp
  obtain ⟨es₂, es₃, rest, rfl, hwrite, hback, hp⟩ := path_enterAbsoluteMode_ok_iff.mp hp
  obtain ⟨es₄, range, es₅, es₆, rfl, hrange, hmeasure, hon⟩ := path_measureAndEnable_ok_iff.mp hp
  have hgen : q.generation = p.generation := by
    obtain ⟨resolution, rfl⟩ := path_completeResolution_eq hmeasure
    rfl
  have hwritten : successes es₂ = es₂ :=
    successes_of_forall (path_writeSettings_ok (isValid_of_mem_absoluteMode _) hwrite).2
  have hmeasured : successes es₅ = es₅ := by
    refine successes_of_forall fun e he => hres e (by simp [he]) ?_
    obtain ⟨s, hs, hr⟩ := (path_completeResolution hmeasure).exists_step e he
    rw [hr, hgen]
    exact request_of_mem_resolving hs
  simp only [successes_append, hwritten, hmeasured]
  refine path_start_ok_iff.mpr
    ⟨_, capabilities, _, rfl, (steady_queryCapabilities _ _).path hcap, ?_⟩
  refine path_enterAbsoluteMode_ok_iff.mpr ⟨es₂, successes es₃, _, rfl, hwrite, ?_, ?_⟩
  · split at hback
    · next h =>
      rw [if_pos h]
      exact (steady_confirmMode _ _).path hback
    · next h =>
      rw [if_neg h, hback]
      rfl
  · refine path_measureAndEnable_ok_iff.mpr ⟨_, range, es₅, _, rfl, ?_, hmeasure, ?_⟩
    · exact (steady_queryRange _).path hrange
    · exact (steady_switchOn _).path hon

/-! ## Once more -/

/-- What is asked for the range depends on the hardware alone. -/
theorem queryRange_congr (hg : q.generation = p.generation) (hf : q.firmware = p.firmware)
    (hc : q.capabilities = p.capabilities) : queryRange q = queryRange p := by
  unfold queryRange Profile.queryEncoding
  rw [hg, hf, hc]

/-- A profile with the resolution that was found stays as it is. -/
theorem path_completeResolution_again {p' : Profile} (hp : (completeResolution p).Path es q)
    (hg : p'.generation = p.generation) (hr : p'.resolution = q.resolution) :
    (completeResolution p').Path es p' := by
  refine path_completeResolution_iff.mpr ?_
  rw [hg]
  rcases path_completeResolution_iff.mp hp with ⟨h4, e, rfl, he, rfl⟩ | ⟨h4, rfl, -⟩
  · refine .inl ⟨h4, e, rfl, he, ?_⟩
    unfold resolvedBy at hr ⊢
    split
    · next reply hreply =>
      rw [hreply] at hr
      rw [← show p'.resolution = Resolution.ofReply reply from hr]
    · rfl
  · exact .inr ⟨h4, rfl, rfl⟩

/-- Switching reporting on depends on nothing but the touchpad. -/
theorem path_switchOn_congr {v : Except StartError Unit} (hp : (switchOn p).run.Path es v)
    (q : Profile) : (switchOn q).run.Path es v := by
  have h := path_bind_iff.mp hp
  exact path_bind_iff.mpr h

/--
**A start-up from where the first one has ended** goes the same way on the same round trips, and the
settings of absolute mode are added once more.
-/
theorem path_start_again (hp : (start p config).Path es (.ok (), q)) :
    (start q config).Path es
      (.ok (), { q with registers := q.registers ++ q.generation.absoluteMode }) := by
  obtain ⟨es₁, capabilities, rest, rfl, hcap, hp⟩ := path_start_ok_iff.mp hp
  obtain ⟨es₂, es₃, rest, rfl, hwrite, hback, hp⟩ := path_enterAbsoluteMode_ok_iff.mp hp
  obtain ⟨es₄, range, es₅, es₆, rfl, hrange, hmeasure, hon⟩ := path_measureAndEnable_ok_iff.mp hp
  obtain ⟨resolution, rfl⟩ := path_completeResolution_eq hmeasure
  refine path_start_ok_iff.mpr ⟨es₁, capabilities, _, rfl, hcap, ?_⟩
  refine path_enterAbsoluteMode_ok_iff.mpr ⟨es₂, es₃, _, rfl, hwrite, hback, ?_⟩
  refine path_measureAndEnable_ok_iff.mpr ⟨es₄, range, es₅, es₆, rfl, ?_, ?_, ?_⟩
  · rw [queryRange_congr rfl rfl rfl]
    exact hrange
  · exact path_completeResolution_again hmeasure rfl rfl
  · exact path_switchOn_congr hon _

/--
**Starting again** from the profile with which a start-up has succeeded, on any transport that gives
the same answers as before. It succeeds after the same round trips, and every field of the profile
is as it was, except that the settings of absolute mode stand in its list of settings once more. The
attempts that had failed may be left out, unless they were made for the resolution.
-/
theorem restart_law {σ τ : Type} (t : Transport σ) (s : σ) (u : Transport τ) (r : τ)
    (p q : Profile) (config : Config) :
    let first := (start p config).exchanges t s
    let second := start q config
    let again : Profile := { q with registers := q.registers ++ q.generation.absoluteMode }
    ((start p config).run t s).value = (.ok (), q) →
      (Dialogue.Replays u r first →
        second.exchanges u r = first ∧ (second.run u r).value = (.ok (), again)) ∧
      ((∀ e ∈ first, e.request = askResolution q.generation → e.Succeeded) →
        Dialogue.Replays u r (successes first) →
          second.exchanges u r = successes first ∧ (second.run u r).value = (.ok (), again)) := by
  intro first second again hok
  have hp := Dialogue.path_run t s (start p config)
  rw [hok] at hp
  refine ⟨fun hreplay => ?_, fun hres hreplay => ?_⟩
  · exact Dialogue.run_of_replays (path_start_again hp) hreplay
  · exact Dialogue.run_of_replays (path_start_again (path_start_successes hp hres)) hreplay

/-- What a touchpad of the fourth generation replies while it is started. -/
def fourthGenerationReplies : List UInt8 :=
  [0x08, 0x17, 0x0c, 0x25, 0xbe, 0xbc, 0x00, 0xf0, 0x00]

/-- A touchpad of the fourth generation that loses the first query, and is started again. -/
theorem restart_law_after_a_retry :
    let p := Profile.ofGeneration .v4 0x461f00
    let q : Profile := { p with
      capabilities := ⟨0x08, 0x17, 0x0c⟩
      registers := [⟨0x07, 0x01⟩]
      bounds := ⟨0, 1470, 0, 700⟩
      width := 66
      resolution := ⟨31, 37⟩ }
    let again : Profile := { q with registers := [⟨0x07, 0x01⟩, ⟨0x07, 0x01⟩] }
    let flaky := Faulty.transport Script.transport
    let lost : Faulty Script := ⟨.ofReplies fourthGenerationReplies, 0, [(0, .timeout 0xe9)]⟩
    ((start p {}).run flaky lost).value = (.ok (), q) ∧
      ((start q {}).run flaky lost).value = (.ok (), again) ∧
      ((start q {}).run Script.transport (.ofReplies fourthGenerationReplies)).value =
        (.ok (), again) := by
  intro p q again flaky lost
  have hok : ((start p {}).run flaky lost).value = (.ok (), q) := by
    decide +kernel
  have hres : ∀ e ∈ (start p {}).exchanges flaky lost,
      e.request = askResolution q.generation → e.Succeeded := by
    decide +kernel
  have hreplay : Dialogue.Replays Script.transport (.ofReplies fourthGenerationReplies)
      (successes ((start p {}).exchanges flaky lost)) := by
    decide +kernel
  -- the same transport fails again, and the script does not
  have hsame := (restart_law flaky lost flaky lost p q {} hok).1
  have hscript :=
    (restart_law flaky lost Script.transport (.ofReplies fourthGenerationReplies) p q {} hok).2
  exact ⟨hok, (hsame (Dialogue.replays_exchanges flaky lost _)).2, (hscript hres hreplay).2⟩

/-- **A profile is not what it was** after another start, although nothing has failed. -/
theorem restart_changes_the_profile :
    ¬ ∀ (firmware : Nat) (p q : Profile) (config : Config) (s : Script),
      Profile.ofFirmware? firmware = some p →
      ((start p config).run Script.transport s).value = (.ok (), q) →
      (∀ e ∈ (start p config).exchanges Script.transport s, e.Succeeded) →
        ((start q config).run Script.transport s).value = (.ok (), q) := by
  intro h
  have hagain := h 0x461f00 (.ofGeneration .v4 0x461f00)
    { Profile.ofGeneration .v4 0x461f00 with
      capabilities := ⟨0x08, 0x17, 0x0c⟩
      registers := [⟨0x07, 0x01⟩]
      bounds := ⟨0, 1470, 0, 700⟩
      width := 66
      resolution := ⟨31, 37⟩ }
    {} (.ofReplies fourthGenerationReplies) rfl rfl (by decide +kernel)
  revert hagain
  decide +kernel

end Control

end Touchpad
