import Touchpad.Proofs.Control.StartPlan

/-!
# Start-ups that succeed

A start-up succeeds if and only if all its parts do, and then the profile has grown by what they
found out.

* `path_start_ok_iff`, `path_enterAbsoluteMode_ok_iff`, `path_measureAndEnable_ok_iff`: the parts,
  from the outside to the inside
* `path_completeResolution_eq`: the resolution is the only field that may stay as it was
* `maxY_le_of_path_start`: the vertical range of a touchpad of the third generation
-/

namespace Touchpad

namespace Control

variable {es : List Exchange} {config : Config} {p q : Profile}

/-! ## Commands that succeed -/

section Commands

variable {ε ε' α β : Type}

theorem path_bind_ok_iff {x : Talk ε α} {f : α → Talk ε β} {b : β} :
    (x >>= f).run.Path es (.ok b) ↔
      ∃ es₁ a es₂, es = es₁ ++ es₂ ∧ x.run.Path es₁ (.ok a) ∧ (f a).run.Path es₂ (.ok b) := by
  rw [path_bind_iff]
  refine or_iff_left ?_
  rintro ⟨_, _, h⟩
  cases h

theorem path_adapt_ok_iff {x : Talk ε α} {f : ε → ε'} {a : α} :
    (x.adapt f).run.Path es (.ok a) ↔ x.run.Path es (.ok a) := by
  rw [path_adapt_iff]
  constructor
  · rintro ⟨w, hw, h⟩
    rwa [← eq_ok_of_mapError h]
  · exact fun h => ⟨.ok a, h, rfl⟩

theorem Asks.succeeded {talk : Talk ε α} {r : Request} {read : Exchange → Except ε α} {a : α}
    (h : Asks talk r read) (hp : talk.run.Path es (.ok a)) : ∃ e, es = [e] ∧ e.Succeeded := by
  obtain ⟨e, rfl, hr, hread⟩ := h.path hp
  refine ⟨e, rfl, (h.succeeded_iff hr).mpr ?_⟩
  rw [← hread]
  rfl

/-- Repeated attempts that succeed: some failed ones, and then one that succeeds by itself. -/
theorem Asks.exists_of_path_persist {talk : Talk CommandError α} {r : Request}
    {read : Exchange → Except CommandError α} (h : Asks talk r read) {tries delay : Nat} {a : α}
    (hp : (persist tries delay talk).run.Path es (.ok a)) :
    ∃ failed last, es = failed ++ [last] ∧ (∀ e ∈ failed, ¬ e.Succeeded) ∧
      talk.run.Path [last] (.ok a) := by
  let s : Step := { request := r, more := max tries 1 - 1 }
  obtain ⟨failed, last, rfl, ht, hv⟩ := path_retryFrom (s := s) h (by exact fun hb => hb.1) hp
  refine ⟨failed, last, rfl, fun e he => (ht.failed e he).2, ?_⟩
  rw [hv]
  exact h.path_of ht.request

/-- A command that succeeds at once is not tried again. -/
theorem path_persist_of_ok {talk : Talk CommandError α} {a : α}
    (hp : talk.run.Path es (.ok a)) (tries delay : Nat) :
    (persist tries delay talk).run.Path es (.ok a) := by
  show (retryFrom _ talk.run 1 (max tries 1 - 1)).Path es (.ok a)
  cases max tries 1 - 1 with
  | zero => exact hp
  | succ more =>
    exact Dialogue.path_bind_iff.mpr ⟨es, .ok a, [], (List.append_nil es).symm, hp, rfl, rfl⟩

/-- Settings that could all be written are all recorded, and each took one round trip. -/
theorem path_writeSettings_ok {g : Generation} {settings written : List Setting}
    (hvalid : ∀ s ∈ settings, Register.isValid s.register)
    (hp : (writeSettings g settings).Path es (.ok (), written)) :
    written = settings ∧ ∀ e ∈ es, e.Succeeded := by
  induction settings generalizing es written with
  | nil =>
    obtain ⟨rfl, h⟩ := hp
    exact ⟨congrArg Prod.snd h, by simp⟩
  | cons s settings ih =>
    obtain ⟨es₁, w, es₂, rfl, h₁, h₂⟩ := Dialogue.path_bind_iff.mp hp
    cases w with
    | error cause => cases h₂.2
    | ok u =>
      obtain ⟨e, rfl, he⟩ := (asks_writeRegister g (hvalid s List.mem_cons_self)).succeeded h₁
      obtain ⟨es₃, ⟨outcome, rest⟩, es₄, rfl, h₃, rfl, h₄⟩ := Dialogue.path_bind_iff.mp h₂
      obtain ⟨rfl, rfl⟩ := Prod.mk.inj h₄
      obtain ⟨rfl, hrest⟩ := ih (fun s' hs' => hvalid s' (List.mem_cons_of_mem s hs')) h₃
      refine ⟨rfl, ?_⟩
      simpa [he] using hrest

end Commands

/-! ## The parts of a start-up -/

/-- **A start-up succeeds** if the capabilities come, and absolute mode is entered with them. -/
theorem path_start_ok_iff :
    (start p config).Path es (.ok (), q) ↔
      ∃ es₁ capabilities es₂, es = es₁ ++ es₂ ∧
        (queryCapabilities p config).run.Path es₁ (.ok capabilities) ∧
        (enterAbsoluteMode { p with capabilities } config).Path es₂ (.ok (), q) := by
  rw [path_start_iff]
  constructor
  · rintro ⟨es₁, capabilities | capabilities, es₂, rfl, h₁, h₂⟩
    · cases h₂.2
    · exact ⟨es₁, capabilities, es₂, rfl, h₁, h₂⟩
  · rintro ⟨es₁, capabilities, es₂, rfl, h₁, h₂⟩
    exact ⟨es₁, .ok capabilities, es₂, rfl, h₁, h₂⟩

/--
**Absolute mode is entered** if all settings are written, and the mode register says so where it can
be read back. The settings are added to the ones that the profile has.
-/
theorem path_enterAbsoluteMode_ok_iff :
    (enterAbsoluteMode p config).Path es (.ok (), q) ↔
      ∃ es₁ es₂ es₃, es = es₁ ++ (es₂ ++ es₃) ∧
        (writeSettings p.generation p.generation.absoluteMode).Path es₁
          (.ok (), p.generation.absoluteMode) ∧
        (if p.generation.readsBackMode then (confirmMode p.generation config).run.Path es₂ (.ok ())
          else es₂ = []) ∧
        (measureAndEnable { p with registers := p.registers ++ p.generation.absoluteMode }).Path es₃
          (.ok (), q) := by
  have hvalid := isValid_of_mem_absoluteMode p.generation
  unfold enterAbsoluteMode
  rw [Dialogue.path_bind_iff]
  constructor
  · rintro ⟨es₁, ⟨outcome | u, written⟩, es₂, rfl, h₁, h₂⟩
    · cases h₂.2
    · obtain ⟨rfl, -⟩ := path_writeSettings_ok hvalid h₁
      change Dialogue.Path (if p.generation.readsBackMode then _ else _) es₂ _ at h₂
      split at h₂
      · next hback =>
        obtain ⟨es₃, w, es₄, rfl, h₃, h₄⟩ := Dialogue.path_bind_iff.mp h₂
        cases w with
        | error cause => cases h₄.2
        | ok u => exact ⟨es₁, es₃, es₄, rfl, h₁, by rwa [if_pos hback], h₄⟩
      · next hback => exact ⟨es₁, [], es₂, rfl, h₁, by rw [if_neg hback], h₂⟩
  · rintro ⟨es₁, es₂, es₃, rfl, h₁, h₂, h₃⟩
    refine ⟨es₁, _, es₂ ++ es₃, rfl, h₁, ?_⟩
    show Dialogue.Path (if p.generation.readsBackMode then _ else _) (es₂ ++ es₃) _
    split at h₂
    · next hback =>
      rw [if_pos hback]
      exact Dialogue.path_bind_iff.mpr ⟨es₂, .ok (), es₃, rfl, h₂, h₃⟩
    · next hback =>
      subst h₂
      rw [if_neg hback]
      exact h₃

/-- **What follows succeeds** if the range comes and reporting can be switched on. -/
theorem path_measureAndEnable_ok_iff :
    (measureAndEnable p).Path es (.ok (), q) ↔
      ∃ es₁ range es₂ es₃, es = es₁ ++ (es₂ ++ es₃) ∧
        (queryRange p).run.Path es₁ (.ok range) ∧
        (completeResolution { p with bounds := range.bounds, width := range.width }).Path es₂ q ∧
        (switchOn q).run.Path es₃ (.ok ()) := by
  unfold measureAndEnable
  rw [Dialogue.path_bind_iff]
  constructor
  · rintro ⟨es₁, cause | range, es₂, rfl, h₁, h₂⟩
    · cases h₂.2
    · obtain ⟨es₃, measured, es₄, rfl, h₃, h₄⟩ := Dialogue.path_bind_iff.mp h₂
      obtain ⟨es₅, outcome, es₆, rfl, h₅, rfl, h₆⟩ := Dialogue.path_bind_iff.mp h₄
      obtain ⟨rfl, rfl⟩ := Prod.mk.inj h₆
      exact ⟨es₁, range, es₃, es₅, by rw [List.append_nil], h₁, h₃, h₅⟩
  · rintro ⟨es₁, range, es₂, es₃, rfl, h₁, h₂, h₃⟩
    refine ⟨es₁, .ok range, es₂ ++ es₃, rfl, h₁, ?_⟩
    refine Dialogue.path_bind_iff.mpr ⟨es₂, q, es₃, rfl, h₂, ?_⟩
    exact Dialogue.path_bind_iff.mpr ⟨es₃, .ok (), [], (List.append_nil es₃).symm, h₃, rfl, rfl⟩

/-- Asking for the resolution changes nothing but the resolution. -/
theorem path_completeResolution_eq (hp : (completeResolution p).Path es q) :
    ∃ resolution, q = { p with resolution } := by
  rcases path_completeResolution_iff.mp hp with ⟨-, e, -, -, rfl⟩ | ⟨-, -, rfl⟩
  · unfold resolvedBy
    split
    · exact ⟨_, rfl⟩
    · exact ⟨p.resolution, rfl⟩
  · exact ⟨q.resolution, rfl⟩

/-! ## The range of the third generation -/

/-- A firmware id has twelve bits for the largest coordinate. -/
theorem maxY_le_of_path_queryRange {range : Range} (hg : p.generation = .v3)
    (hp : (queryRange p).run.Path es (.ok range)) : range.bounds.maxY ≤ 4095 := by
  obtain ⟨g, _⟩ := p
  obtain rfl : g = .v3 := hg
  obtain ⟨es₁, reply, es₂, rfl, h₁, h₂⟩ := path_bind_ok_iff.mp hp
  obtain ⟨rfl, h₂⟩ := h₂
  obtain rfl : range = .upTo (Range.maximaIn reply).1 (Range.maximaIn reply).2 0 :=
    Except.ok.inj h₂
  exact Nat.le_of_lt_succ (maximaIn_lt reply).2

/-- **The vertical range of the third generation** takes twelve bits. -/
theorem maxY_le_of_path_start (hp : (start p config).Path es (.ok (), q))
    (hg : q.generation = .v3) : q.maxY ≤ 4095 := by
  obtain ⟨es₁, capabilities, rest, rfl, -, hp⟩ := path_start_ok_iff.mp hp
  obtain ⟨es₂, es₃, rest, rfl, -, -, hp⟩ := path_enterAbsoluteMode_ok_iff.mp hp
  obtain ⟨es₄, range, es₅, es₆, rfl, hrange, hres, -⟩ := path_measureAndEnable_ok_iff.mp hp
  obtain ⟨resolution, rfl⟩ := path_completeResolution_eq hres
  exact maxY_le_of_path_queryRange hg hrange

end Control

end Touchpad
