import Touchpad.Proofs.Bus.Tolerance
import Touchpad.Proofs.Control.Restart
import Touchpad.Proofs.Control.StartUp

/-!
# What a start-up leaves behind

A start-up may fail at any of its requests, and the profile is returned as far as it has come. The
error tells how far that is.

* `Leaves`: the profile behind each way in which a start-up ends
* `path_start_leaves`: it is that on every path, put together from the parts of the start-up
* `tolerates_start`: the resolution decides about nothing but itself
* `outcome_law`: both, on every transport
-/

namespace Touchpad

/-- A profile with the reply to the capabilities query, and with the settings written since. -/
def Profile.prepared (p : Profile) (capabilities : Reply) (written : List Setting) : Profile :=
  { p with capabilities, registers := p.registers ++ written }

namespace Control

/-! ## How far a profile has come -/

/--
Whether round trips have told the capabilities and written settings. These come in the order of
absolute mode from its first one on, and they are those whose writes succeeded.
-/
structure Prepares (g : Generation) (es : List Exchange) (capabilities : Reply)
    (written : List Setting) : Prop where
  told : ∃ e ∈ es, e.request = askCapabilities g ∧ e.completion.reply = .ok capabilities
  beginning : written <+: g.absoluteMode
  mem_iff : ∀ s ∈ g.absoluteMode, s ∈ written ↔
    ∃ e ∈ es, e.request = Register.writeRequest g s.register s.value ∧ e.Succeeded

/-- Whether a part of the round trips has asked for the coordinate range of a profile and got it. -/
def Measures (p : Profile) (es : List Exchange) (range : Range) : Prop :=
  ∃ before asked after, es = before ++ (asked ++ after) ∧
    (queryRange p).run.Path asked (.ok range)

/-- What round trips make of a resolution: only a reply of the fourth generation replaces it. -/
inductive Resolves (g : Generation) (es : List Exchange) (old : Resolution) : Resolution → Prop
  | replaced {e : Exchange} {reply : Reply} : g = .v4 → e ∈ es → e.request = askResolution g →
      e.completion.reply = .ok reply → Resolves g es old (Resolution.ofReply reply)
  | kept : (∀ e ∈ es, e.request = askResolution g → ¬ e.Succeeded) → Resolves g es old old

/-- **What a start-up leaves** of a profile, for each way in which it may end. -/
def Leaves (p : Profile) (es : List Exchange) (q : Profile) : Except StartError Unit → Prop
  | .error (.capabilities _) => q = p
  | .error (.absoluteMode _) =>
    ∃ capabilities written, Prepares p.generation es capabilities written ∧
      written ≠ p.generation.absoluteMode ∧ q = p.prepared capabilities written
  | .error (.readBack _) | .error (.refusedAbsoluteMode _) | .error (.range _) =>
    ∃ capabilities, Prepares p.generation es capabilities p.generation.absoluteMode ∧
      q = p.prepared capabilities p.generation.absoluteMode
  | .error (.enable _) | .ok () =>
    ∃ capabilities range, Prepares p.generation es capabilities p.generation.absoluteMode ∧
      Measures (p.prepared capabilities p.generation.absoluteMode) es range ∧
      Resolves p.generation es p.resolution q.resolution ∧
      q = { p.prepared capabilities p.generation.absoluteMode with
        bounds := range.bounds, width := range.width, resolution := q.resolution }

/--
Whether two profiles agree in what detection has found out. The parity of a byte is a function of
its own, `Parity.bit`, and no part of a profile.
-/
structure SameDevice (p q : Profile) : Prop where
  generation : q.generation = p.generation
  firmware : q.firmware = p.firmware
  parityCheck : q.parityCheck = p.parityCheck
  jumpyCursor : q.jumpyCursor = p.jumpyCursor
  reportsPressure : q.reportsPressure = p.reportsPressure
  debug : q.debug = p.debug

section Leaving

variable {g : Generation} {es front : List Exchange} {config : Config} {p q : Profile}
  {capabilities : Reply} {old new : Resolution}

/-- What follows the last write does not change what was written. -/
theorem Prepares.append (h : Prepares g es capabilities g.absoluteMode) (more : List Exchange) :
    Prepares g (es ++ more) capabilities g.absoluteMode where
  told := by
    obtain ⟨e, he, ht⟩ := h.told
    exact ⟨e, List.mem_append_left more he, ht⟩
  beginning := h.beginning
  mem_iff s hs := by
    obtain ⟨e, he, hw⟩ := (h.mem_iff s hs).mp hs
    exact iff_of_true hs ⟨e, List.mem_append_left more he, hw⟩

/-- Round trips for anything else leave the resolution alone. -/
theorem Resolves.append_append (h : Resolves g es old new) {back : List Exchange}
    (hfront : ∀ e ∈ front, e.request ≠ askResolution g)
    (hback : ∀ e ∈ back, e.request ≠ askResolution g) :
    Resolves g (front ++ (es ++ back)) old new := by
  cases h with
  | replaced hg he hr hreply =>
    exact replaced hg (List.mem_append_right front (List.mem_append_left back he)) hr hreply
  | kept hfailed =>
    refine kept fun e he hr => ?_
    rcases List.mem_append.mp he with he | he
    · exact absurd hr (hfront e he)
    · rcases List.mem_append.mp he with he | he
      · exact hfailed e he hr
      · exact absurd hr (hback e he)

/-- However a start-up ends, it leaves the fields alone that detection has filled in. -/
theorem Leaves.sameDevice {outcome : Except StartError Unit} (h : Leaves p es q outcome) :
    SameDevice p q := by
  have hprepared (capabilities : Reply) (written : List Setting) :
      SameDevice p (p.prepared capabilities written) := ⟨rfl, rfl, rfl, rfl, rfl, rfl⟩
  rcases outcome with cause | u
  · cases cause with
    | capabilities cause =>
      obtain rfl : q = p := h
      exact ⟨rfl, rfl, rfl, rfl, rfl, rfl⟩
    | absoluteMode cause =>
      obtain ⟨capabilities, written, -, -, rfl⟩ := h
      exact hprepared capabilities written
    | readBack cause | refusedAbsoluteMode value | range cause =>
      obtain ⟨capabilities, -, rfl⟩ := h
      exact hprepared capabilities _
    | enable cause =>
      obtain ⟨capabilities, range, -, -, -, hq⟩ := h
      rw [hq]
      exact ⟨rfl, rfl, rfl, rfl, rfl, rfl⟩
  · obtain ⟨capabilities, range, -, -, -, hq⟩ := h
    rw [hq]
    exact ⟨rfl, rfl, rfl, rfl, rfl, rfl⟩

end Leaving

/-! ## Errors of the parts -/

section Errors

variable {ε ε' α : Type} {es : List Exchange} {config : Config} {p : Profile} {cause : StartError}

theorem exists_of_path_adapt_error {x : Talk ε α} {f : ε → ε'} {cause : ε'}
    (hp : (x.adapt f).run.Path es (.error cause)) : ∃ c, cause = f c := by
  obtain ⟨w, -, hw⟩ := path_adapt_iff.mp hp
  cases w with
  | ok a => cases hw
  | error c => exact ⟨c, Except.error.inj hw⟩

theorem path_queryCapabilities_error
    (hp : (queryCapabilities p config).run.Path es (.error cause)) :
    ∃ c, cause = .capabilities c :=
  exists_of_path_adapt_error hp

/-- Reading back fails, or what is read back refuses absolute mode. -/
theorem path_confirmMode_error {g : Generation}
    (hp : (confirmMode g config).run.Path es (.error cause)) :
    (∃ c, cause = .readBack c) ∨ ∃ value, cause = .refusedAbsoluteMode value := by
  rcases path_bind_iff.mp hp with ⟨es₁, value, es₂, rfl, -, h₂⟩ | ⟨c, h₁, hc⟩
  · split at h₂
    · obtain ⟨-, hc⟩ := h₂
      exact .inr ⟨value, Except.error.inj hc⟩
    · cases h₂.2
  · obtain rfl := Except.error.inj hc
    exact .inl (exists_of_path_adapt_error h₁)

theorem path_switchOn_error (hp : (switchOn p).run.Path es (.error cause)) :
    ∃ c, cause = .enable c := by
  rcases path_bind_iff.mp hp with ⟨es₁, u, es₂, rfl, -, h₂⟩ | ⟨c, h₁, hc⟩
  · cases h₂.2
  · obtain rfl := Except.error.inj hc
    exact exists_of_path_adapt_error h₁

end Errors

/-! ## Which requests do not ask for the resolution -/

section Avoiding

variable {g : Generation} {config : Config} {p : Profile}

/-- No other request of a start-up asks for the resolution. -/
theorem ne_askResolution (g : Generation) :
    ∀ r ∈ askCapabilities g :: readMode g :: askFirmwareId g ::
      Query.request g.queryEncoding Query.sample :: Request.reporting true :: writeMode g,
      r ≠ askResolution g := by
  cases g <;> decide

theorem avoids_queryCapabilities (p : Profile) (config : Config) :
    (queryCapabilities p config).run.Avoids (askResolution p.generation) where
  path hp := by
    refine (path_queryCapabilities hp).1.forall_ne (List.forall_mem_singleton.mpr ?_)
    exact ne_askResolution _ _ (by simp [capabilitiesStep])

theorem avoids_writeSettings (g : Generation) :
    (writeSettings g g.absoluteMode).Avoids (askResolution g) where
  path hp := by
    refine (path_writeSettings (isValid_of_mem_absoluteMode g) hp).forall_ne ?_
    refine List.forall_mem_map.mpr fun r hr => ne_askResolution g r ?_
    have hr : r ∈ writeMode g := hr
    simp [hr]

theorem avoids_confirmMode (g : Generation) (config : Config) :
    (confirmMode g config).run.Avoids (askResolution g) where
  path hp := by
    refine (path_confirmMode hp).forall_ne (List.forall_mem_singleton.mpr ?_)
    exact ne_askResolution _ _ (by simp [confirmStep])

/-- Asking for the range does not ask for the resolution. -/
theorem avoids_queryRange (p : Profile) :
    (queryRange p).run.Avoids (askResolution p.generation) where
  path hp := by
    obtain ⟨sample, -, h⟩ := path_queryRange hp
    refine h.forall_ne fun s hs => ne_askResolution _ _ ?_
    have hr := List.mem_map_of_mem (f := Step.request) hs
    rw [map_request_ranging] at hr
    have hr := askRange_sublist.subset hr
    simp only [List.mem_cons, List.not_mem_nil, or_false] at hr
    rcases hr with hr | hr <;> simp [hr]

theorem avoids_switchOn (p : Profile) (g : Generation) :
    (switchOn p).run.Avoids (askResolution g) where
  path hp := by
    refine (path_switchOn hp).forall_ne (List.forall_mem_singleton.mpr ?_)
    exact ne_askResolution g _ (by simp [enabling, Step.once])

end Avoiding

/-! ## The parts of a start-up that fails -/

section Parts

variable {g : Generation} {es : List Exchange} {config : Config} {p q : Profile}
  {capabilities : Reply}

/-- The capabilities are known from one of the requests for them, and nothing else is asked. -/
theorem path_queryCapabilities_told
    (hp : (queryCapabilities p config).run.Path es (.ok capabilities)) :
    (∀ e ∈ es, e.request = askCapabilities p.generation) ∧ ∃ e ∈ es,
      e.request = askCapabilities p.generation ∧ e.completion.reply = .ok capabilities := by
  obtain ⟨h, hcap⟩ := path_queryCapabilities hp
  constructor
  · intro e he
    obtain ⟨s, hs, hr⟩ := h.exists_step e he
    rwa [List.mem_singleton.mp hs] at hr
  · obtain ⟨e, he, hr, hpassed⟩ := h.exists_passed _ List.mem_cons_self
    obtain ⟨_, hv, hreply⟩ := hcap e he (hpassed rfl).1
    cases hv
    exact ⟨e, he, hr, hreply⟩

/--
**Writing settings** stops at the first write that fails, and what is returned are the settings
whose writes succeeded.
-/
theorem path_writeSettings_cases {settings : List Setting}
    (hvalid : ∀ s ∈ settings, Register.isValid s.register)
    (hinj : ∀ s ∈ settings, ∀ s' ∈ settings,
      Register.writeRequest g s.register s.value = Register.writeRequest g s'.register s'.value →
        s = s')
    {v : Except CommandError Unit × List Setting} (hp : (writeSettings g settings).Path es v) :
    v.2 <+: settings ∧ (v.1.isOk = true ↔ v.2 = settings) ∧
      ∀ s ∈ settings, s ∈ v.2 ↔
        ∃ e ∈ es, e.request = Register.writeRequest g s.register s.value ∧ e.Succeeded := by
  induction settings generalizing es v with
  | nil =>
    obtain ⟨rfl, rfl⟩ := hp
    exact ⟨List.nil_prefix, iff_of_true rfl rfl, by simp⟩
  | cons s settings ih =>
    obtain ⟨es₁, w, es₂, rfl, h₁, h₂⟩ := Dialogue.path_bind_iff.mp hp
    have hask := asks_writeRegister g (hvalid s List.mem_cons_self)
    obtain ⟨e, rfl, hr, hw⟩ := hask.path h₁
    have he : e.Succeeded ↔ w.isOk = true := by rw [hw, hask.succeeded_iff hr]
    cases w with
    | error cause =>
      obtain ⟨rfl, rfl⟩ := h₂
      have hfailed : ¬ e.Succeeded := fun h => Bool.false_ne_true (he.mp h)
      refine ⟨List.nil_prefix, ?_, ?_⟩
      · exact iff_of_false Bool.false_ne_true (List.cons_ne_nil s settings).symm
      · simp [hfailed]
    | ok u =>
      have he : e.Succeeded := he.mpr rfl
      obtain ⟨es₃, ⟨outcome, written⟩, es₄, rfl, h₃, rfl, rfl⟩ := Dialogue.path_bind_iff.mp h₂
      obtain ⟨hbeginning, hall, hmem⟩ := ih
        (fun s' hs' => hvalid s' (List.mem_cons_of_mem s hs'))
        (fun s₁ h₁ s₂ h₂ => hinj s₁ (List.mem_cons_of_mem s h₁) s₂ (List.mem_cons_of_mem s h₂)) h₃
      rw [List.append_nil, List.singleton_append]
      refine ⟨List.cons_prefix_cons.mpr ⟨rfl, hbeginning⟩, ?_, fun s' hs' => ?_⟩
      · rw [hall]
        exact (List.cons_inj_right s).symm
      · rw [List.exists_mem_cons_iff]
        by_cases hss : s' = s
        · subst hss
          exact iff_of_true List.mem_cons_self (.inl ⟨hr, he⟩)
        · -- another setting is written by another request than the first one
          have hne :
              ¬ (e.request = Register.writeRequest g s'.register s'.value ∧ e.Succeeded) := by
            rintro ⟨hr', -⟩
            exact hss (hinj s List.mem_cons_self s' hs' (hr.symm.trans hr')).symm
          rw [List.mem_cons, or_iff_right hss, or_iff_right hne]
          exact hmem s' ((List.mem_cons.mp hs').resolve_left hss)

theorem writeRequest_injOn (g : Generation) : ∀ s ∈ g.absoluteMode, ∀ s' ∈ g.absoluteMode,
    Register.writeRequest g s.register s.value = Register.writeRequest g s'.register s'.value →
      s = s' := by
  cases g <;> decide

theorem writeRequest_ne_askCapabilities (g : Generation) : ∀ s ∈ g.absoluteMode,
    Register.writeRequest g s.register s.value ≠ askCapabilities g := by
  cases g <;> decide

/-- What is known once the settings of absolute mode were written, or could not be. -/
theorem path_writeSettings_prepares {front : List Exchange}
    (hfront : ∀ e ∈ front, e.request = askCapabilities g)
    (htold : ∃ e ∈ front, e.request = askCapabilities g ∧ e.completion.reply = .ok capabilities)
    {v : Except CommandError Unit × List Setting}
    (hp : (writeSettings g g.absoluteMode).Path es v) :
    Prepares g (front ++ es) capabilities v.2 ∧ (v.1.isOk = true ↔ v.2 = g.absoluteMode) := by
  obtain ⟨hbeginning, hall, hmem⟩ :=
    path_writeSettings_cases (isValid_of_mem_absoluteMode g) (writeRequest_injOn g) hp
  refine ⟨⟨?_, hbeginning, fun s hs => ?_⟩, hall⟩
  · obtain ⟨e, he, ht⟩ := htold
    exact ⟨e, List.mem_append_left es he, ht⟩
  · rw [hmem s hs]
    constructor
    · rintro ⟨e, he, hw⟩
      exact ⟨e, List.mem_append_right front he, hw⟩
    · rintro ⟨e, he, hw, hs'⟩
      rcases List.mem_append.mp he with he | he
      · -- nothing was written while the capabilities were asked for
        exact absurd (hw.symm.trans (hfront e he)) (writeRequest_ne_askCapabilities g s hs)
      · exact ⟨e, he, hw, hs'⟩

/-- **Asking for the resolution** replaces it by a reply, and leaves it alone without one. -/
theorem path_completeResolution_resolves (hp : (completeResolution p).Path es q) :
    Resolves p.generation es p.resolution q.resolution := by
  rcases path_completeResolution_iff.mp hp with ⟨hg, e, rfl, hr, rfl⟩ | ⟨-, rfl, rfl⟩
  · unfold resolvedBy
    cases hreply : e.completion.reply with
    | ok reply => exact .replaced hg List.mem_cons_self hr hreply
    | error cause =>
      have hfailed : ¬ e.Succeeded := by
        rw [(asks_queryResolution p).succeeded_iff hr, hreply]
        exact Bool.false_ne_true
      refine .kept fun e' he' _ => ?_
      rwa [List.mem_singleton.mp he']
  · exact .kept fun e he => absurd he List.not_mem_nil

/-- **The measurement**, for a profile that was prepared by the round trips in front. -/
theorem path_measureAndEnable_leaves {front : List Exchange}
    (hprepares : Prepares p.generation front capabilities p.generation.absoluteMode)
    (hfront : ∀ e ∈ front, e.request ≠ askResolution p.generation)
    {v : Except StartError Unit × Profile}
    (hp : (measureAndEnable (p.prepared capabilities p.generation.absoluteMode)).Path es v) :
    Leaves p (front ++ es) v.2 v.1 := by
  have hprepares := hprepares.append es
  obtain ⟨es₁, w, rest, rfl, h₁, hp⟩ := Dialogue.path_bind_iff.mp hp
  cases w with
  | error cause =>
    obtain ⟨rfl, rfl⟩ := hp
    exact ⟨capabilities, hprepares, rfl⟩
  | ok range =>
    obtain ⟨es₂, q, rest, rfl, h₂, hp⟩ := Dialogue.path_bind_iff.mp hp
    obtain ⟨es₃, outcome, _, rfl, h₃, rfl, rfl⟩ := Dialogue.path_bind_iff.mp hp
    rw [List.append_nil] at hprepares ⊢
    have hmeasures : Measures (p.prepared capabilities p.generation.absoluteMode)
        (front ++ (es₁ ++ (es₂ ++ es₃))) range := ⟨front, es₁, es₂ ++ es₃, rfl, h₁⟩
    have hresolves : Resolves p.generation (front ++ (es₁ ++ (es₂ ++ es₃))) p.resolution
        q.resolution := by
      rw [← List.append_assoc]
      have hself := path_completeResolution_resolves h₂
      refine Resolves.append_append hself (List.forall_mem_append.mpr ⟨hfront, ?_⟩) ?_
      · exact (avoids_queryRange _).path h₁
      · exact (avoids_switchOn q _).path h₃
    obtain ⟨resolution, rfl⟩ := path_completeResolution_eq h₂
    cases outcome with
    | error cause =>
      obtain ⟨c, rfl⟩ := path_switchOn_error h₃
      exact ⟨capabilities, range, hprepares, hmeasures, hresolves, rfl⟩
    | ok u => exact ⟨capabilities, range, hprepares, hmeasures, hresolves, rfl⟩

/-- **Absolute mode**, for a profile whose capabilities were told by the round trips in front. -/
theorem path_enterAbsoluteMode_leaves {front : List Exchange}
    (hfront : ∀ e ∈ front, e.request = askCapabilities p.generation)
    (htold : ∃ e ∈ front, e.request = askCapabilities p.generation ∧
      e.completion.reply = .ok capabilities)
    {v : Except StartError Unit × Profile}
    (hp : (enterAbsoluteMode { p with capabilities } config).Path es v) :
    Leaves p (front ++ es) v.2 v.1 := by
  obtain ⟨es₁, ⟨outcome, written⟩, rest, rfl, h₁, hp⟩ := Dialogue.path_bind_iff.mp hp
  obtain ⟨hprepares, hall⟩ := path_writeSettings_prepares hfront htold h₁
  cases outcome with
  | error cause =>
    obtain ⟨rfl, rfl⟩ := hp
    rw [List.append_nil]
    exact ⟨capabilities, written, hprepares, fun h => Bool.false_ne_true (hall.mpr h), rfl⟩
  | ok u =>
    obtain rfl : written = p.generation.absoluteMode := hall.mp rfl
    have hwritten : ∀ e ∈ front ++ es₁, e.request ≠ askResolution p.generation := by
      refine List.forall_mem_append.mpr ⟨fun e he => ?_, (avoids_writeSettings _).path h₁⟩
      rw [hfront e he]
      exact ne_askResolution _ _ List.mem_cons_self
    rw [← List.append_assoc]
    -- with or without a register to read back
    change Dialogue.Path (if p.generation.readsBackMode then _ else _) rest v at hp
    split at hp
    · obtain ⟨es₂, w, es₃, rfl, h₂, h₃⟩ := Dialogue.path_bind_iff.mp hp
      rw [← List.append_assoc]
      cases w with
      | error cause =>
        obtain ⟨rfl, rfl⟩ := h₃
        rw [List.append_nil]
        have hleft := hprepares.append es₂
        rcases path_confirmMode_error h₂ with ⟨c, rfl⟩ | ⟨value, rfl⟩
        · exact ⟨capabilities, hleft, rfl⟩
        · exact ⟨capabilities, hleft, rfl⟩
      | ok u =>
        refine path_measureAndEnable_leaves (hprepares.append es₂) ?_ h₃
        exact List.forall_mem_append.mpr ⟨hwritten, (avoids_confirmMode _ _).path h₂⟩
    · exact path_measureAndEnable_leaves hprepares hwritten hp

/-- **What a start-up leaves** on every path. -/
theorem path_start_leaves {v : Except StartError Unit × Profile}
    (hp : (start p config).Path es v) : Leaves p es v.2 v.1 := by
  obtain ⟨es₁, w, es₂, rfl, h₁, h₂⟩ := path_start_iff.mp hp
  cases w with
  | error cause =>
    obtain ⟨c, rfl⟩ := path_queryCapabilities_error h₁
    obtain ⟨rfl, rfl⟩ := h₂
    exact rfl
  | ok capabilities =>
    obtain ⟨hfront, htold⟩ := path_queryCapabilities_told h₁
    exact path_enterAbsoluteMode_leaves hfront htold h₂

end Parts

/-! ## Another resolution -/

/-- Whether two start-ups end in the same way, up to the resolution. -/
def SameButResolution (v v' : Except StartError Unit × Profile) : Prop :=
  v'.1 = v.1 ∧ v'.2 = { v.2 with resolution := v'.2.resolution }

section Tolerance

open Dialogue (Tolerates)

/-- Without its reply, the resolution stays and everything else is as with it. -/
theorem tolerates_completeResolution {p : Profile} {g : Generation} (h : p.generation = g) :
    Tolerates (askResolution g) (fun q q' => q' = { q with resolution := q'.resolution })
      (completeResolution p) (completeResolution p) where
  path {es es' q} hp hes := by
    subst h
    rcases path_completeResolution_iff.mp hp with ⟨hg, e, rfl, hr, rfl⟩ | ⟨hg, rfl, rfl⟩
    · obtain ⟨e', rest, he, hrest, rfl⟩ := List.forall₂_cons_left_iff.mp hes
      obtain rfl := List.forall₂_nil_left_iff.mp hrest
      have hp' : (completeResolution p).Path [e'] (resolvedBy p e') :=
        path_completeResolution_iff.mpr (.inl ⟨hg, e', rfl, he.request.trans hr, rfl⟩)
      obtain ⟨resolution, hq⟩ := path_completeResolution_eq hp
      obtain ⟨resolution', hq'⟩ := path_completeResolution_eq hp'
      refine ⟨_, hp', ?_⟩
      rw [hq, hq']
    · obtain rfl := List.forall₂_nil_left_iff.mp hes
      exact ⟨q, path_completeResolution_iff.mpr (.inr ⟨hg, rfl, rfl⟩), rfl⟩

/-- Switching reporting on does not ask for the resolution, whatever the profile. -/
theorem tolerates_switchOn (q q' : Profile) (g : Generation) :
    Tolerates (askResolution g) Eq (switchOn q).run (switchOn q').run where
  path hp hes := by
    obtain rfl := Dialogue.eq_of_agreesUnless hes ((avoids_switchOn q g).path hp)
    exact ⟨_, path_switchOn_congr hp q', rfl⟩

/-- What follows absolute mode tolerates that the resolution is not known. -/
theorem tolerates_measureAndEnable {p : Profile} {g : Generation} (h : p.generation = g) :
    Tolerates (askResolution g) SameButResolution (measureAndEnable p) (measureAndEnable p) := by
  subst h
  refine .bind (.of_avoids (avoids_queryRange p)) fun w _ h => ?_
  subst h
  cases w with
  | error cause => exact .pure ⟨rfl, rfl⟩
  | ok range =>
    refine .bind (tolerates_completeResolution rfl) fun q q' hq => ?_
    refine .bind (tolerates_switchOn q q' _) fun outcome _ h => ?_
    subst h
    exact .pure ⟨rfl, hq⟩

theorem tolerates_enterAbsoluteMode (p : Profile) (config : Config) :
    Tolerates (askResolution p.generation) SameButResolution
      (enterAbsoluteMode p config) (enterAbsoluteMode p config) := by
  refine .bind (.of_avoids (avoids_writeSettings p.generation)) fun w _ h => ?_
  subst h
  obtain ⟨outcome, written⟩ := w
  cases outcome with
  | error cause => exact .pure ⟨rfl, rfl⟩
  | ok u =>
    show Tolerates _ _ (if p.generation.readsBackMode then _ else _) (if _ then _ else _)
    split
    · refine .bind (.of_avoids (avoids_confirmMode p.generation config)) fun w _ h => ?_
      subst h
      cases w with
      | error cause => exact .pure ⟨rfl, rfl⟩
      | ok u => exact tolerates_measureAndEnable rfl
    · exact tolerates_measureAndEnable rfl

/-- **A start-up does not depend on the resolution** that it is told, or whether it is told any. -/
theorem tolerates_start (p : Profile) (config : Config) :
    Tolerates (askResolution p.generation) SameButResolution (start p config) (start p config) where
  path hp hes := by
    obtain ⟨es₁, w, es₂, rfl, h₁, h₂⟩ := path_start_iff.mp hp
    obtain ⟨es₁', es₂', rfl, hes₁, hes₂⟩ := Dialogue.exists_append_of_agreesUnless hes
    obtain rfl := Dialogue.eq_of_agreesUnless hes₁ ((avoids_queryCapabilities p config).path h₁)
    cases w with
    | error cause =>
      obtain ⟨rfl, rfl⟩ := h₂
      obtain rfl := List.forall₂_nil_left_iff.mp hes₂
      exact ⟨_, path_start_iff.mpr ⟨_, _, [], rfl, h₁, rfl, rfl⟩, rfl, rfl⟩
    | ok capabilities =>
      obtain ⟨v', h₂', hv⟩ := (tolerates_enterAbsoluteMode _ config).path h₂ hes₂
      exact ⟨v', path_start_iff.mpr ⟨_, _, es₂', rfl, h₁, h₂'⟩, hv⟩

end Tolerance

/-! ## The law -/

/--
**A start-up leaves a profile of which is known how far it has come**, whatever the transport does.
On a second transport that gives the same answers, except to the query of the resolution, it makes
the same requests, and ends in the same way and with the same profile up to the resolution.
-/
theorem outcome_law {σ τ : Type} (t : Transport σ) (s : σ) (u : Transport τ) (r : τ) (p : Profile)
    (config : Config) :
    let es := (start p config).exchanges t s
    let ended := ((start p config).run t s).value
    Leaves p es ended.2 ended.1 ∧ SameDevice p ended.2 ∧
      ∀ es', List.Forall₂ (Exchange.AgreesUnless (askResolution p.generation)) es es' →
        Dialogue.Replays u r es' →
          (start p config).exchanges u r = es' ∧
          SameButResolution ended ((start p config).run u r).value := by
  intro es ended
  have hleaves : Leaves p es ended.2 ended.1 :=
    path_start_leaves (Dialogue.path_run t s (start p config))
  refine ⟨hleaves, hleaves.sameDevice, fun es' hes hu => ?_⟩
  exact (tolerates_start p config).run hes hu

/-- A touchpad of the fourth generation, and another one that does not tell its resolution. -/
theorem outcome_law_without_a_resolution :
    let p := Profile.ofGeneration .v4 0x461f00
    let q : Profile := { p with
      capabilities := ⟨0x08, 0x17, 0x0c⟩
      registers := [⟨0x07, 0x01⟩]
      bounds := ⟨0, 1470, 0, 700⟩
      width := 66
      resolution := ⟨31, 37⟩ }
    let talkative : Script := .ofReplies fourthGenerationReplies
    let silent : Faulty Script := ⟨.ofReplies fourthGenerationReplies, 0, [(3, .timeout 0xe9)]⟩
    ((start p {}).run Script.transport talkative).value = (.ok (), q) ∧
      ((start p {}).run (Faulty.transport Script.transport) silent).value =
        (.ok (), { q with resolution := {} }) := by
  intro p q talkative silent
  have hok : ((start p {}).run Script.transport talkative).value = (.ok (), q) := by
    decide +kernel
  have hagrees : List.Forall₂ (Exchange.AgreesUnless (askResolution .v4))
      ((start p {}).exchanges Script.transport talkative)
      ((start p {}).exchanges (Faulty.transport Script.transport) silent) := by
    decide +kernel
  have hkept : ((start p {}).run (Faulty.transport Script.transport) silent).value.2.resolution =
      {} := by
    decide +kernel
  obtain ⟨-, -, htwo⟩ := outcome_law Script.transport talkative
    (Faulty.transport Script.transport) silent p {}
  obtain ⟨-, hsame, hprofile⟩ := htwo _ hagrees (Dialogue.replays_exchanges _ _ _)
  rw [hok] at hsame hprofile
  rw [hkept] at hprofile
  exact ⟨hok, Prod.ext hsame hprofile⟩

end Control

end Touchpad
