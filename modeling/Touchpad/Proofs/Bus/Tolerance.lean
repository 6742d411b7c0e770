import Mathlib.Data.List.Forall2
import Touchpad.Proofs.Bus.Exchange

/-!
# Answers that may change

What becomes of a dialogue when one of its requests is answered in another way, and all others as
before.

* `Dialogue.Avoids`: a dialogue that never submits the request, so that nothing changes for it
* `Dialogue.Tolerates`: a dialogue that ends with a related value, whatever the other answer is
* `Dialogue.Tolerates.bind`: two such dialogues, one after the other
* `Dialogue.Tolerates.run`: the two ways on two transports
-/

namespace Touchpad

/-- Whether two round trips are the same, up to what one particular request is answered. -/
structure Exchange.AgreesUnless (r : Request) (e e' : Exchange) : Prop where
  request : e'.request = e.request
  eq : e.request ≠ r → e' = e

deriving instance DecidableEq for Exchange

instance (r : Request) (e e' : Exchange) : Decidable (Exchange.AgreesUnless r e e') :=
  decidable_of_iff (e'.request = e.request ∧ (e.request ≠ r → e' = e))
    ⟨fun h => ⟨h.1, h.2⟩, fun h => ⟨h.request, h.eq⟩⟩

namespace Dialogue

variable {α β γ δ σ τ : Type} {r : Request} {es es' es₁ es₂ : List Exchange}

/-- Whether a dialogue never submits a request. -/
structure Avoids (r : Request) (d : Dialogue α) : Prop where
  path : ∀ {es a}, d.Path es a → ∀ e ∈ es, e.request ≠ r

/--
Whether a second dialogue follows the first one to a related value, on round trips that are the same
up to what one request is answered.
-/
structure Tolerates (r : Request) (R : α → β → Prop) (d : Dialogue α) (d' : Dialogue β) : Prop where
  path : ∀ {es es' a}, d.Path es a → List.Forall₂ (Exchange.AgreesUnless r) es es' →
    ∃ b, d'.Path es' b ∧ R a b

/-- Round trips that differ in a request at most are the same where it is not made. -/
theorem eq_of_agreesUnless (h : List.Forall₂ (Exchange.AgreesUnless r) es es')
    (hne : ∀ e ∈ es, e.request ≠ r) : es' = es := by
  induction h with
  | nil => rfl
  | cons he _ ih =>
    obtain ⟨hr, hne⟩ := List.forall_mem_cons.mp hne
    rw [he.eq hr, ih hne]

/-- Round trips that agree with some in two parts have two parts that agree. -/
theorem exists_append_of_agreesUnless
    (h : List.Forall₂ (Exchange.AgreesUnless r) (es₁ ++ es₂) es') :
    ∃ es₁' es₂', es' = es₁' ++ es₂' ∧ List.Forall₂ (Exchange.AgreesUnless r) es₁ es₁' ∧
      List.Forall₂ (Exchange.AgreesUnless r) es₂ es₂' := by
  induction es₁ generalizing es' with
  | nil => exact ⟨[], es', rfl, .nil, h⟩
  | cons e es₁ ih =>
    obtain ⟨e', rest, he, hrest, rfl⟩ := List.forall₂_cons_left_iff.mp h
    obtain ⟨es₁', es₂', rfl, h₁, h₂⟩ := ih hrest
    exact ⟨e' :: es₁', es₂', rfl, .cons he h₁, h₂⟩

namespace Tolerates

variable {R : α → β → Prop} {S : γ → δ → Prop}

/-- A dialogue that does not make the request takes the same path either way. -/
theorem of_avoids {d : Dialogue α} (h : d.Avoids r) : Tolerates r Eq d d where
  path hp hes := by
    obtain rfl := eq_of_agreesUnless hes (h.path hp)
    exact ⟨_, hp, rfl⟩

theorem pure {a : α} {b : β} (h : R a b) : Tolerates r R (pure a) (pure b) where
  path hp hes := by
    obtain ⟨rfl, rfl⟩ := hp
    cases hes
    exact ⟨b, ⟨rfl, rfl⟩, h⟩

/-- **In sequence**: what follows related values has to end with related values again. -/
theorem bind {d : Dialogue α} {d' : Dialogue β} {k : α → Dialogue γ} {k' : β → Dialogue δ}
    (hd : Tolerates r R d d') (hk : ∀ a b, R a b → Tolerates r S (k a) (k' b)) :
    Tolerates r S (d >>= k) (d' >>= k') where
  path hp hes := by
    obtain ⟨es₁, a, es₂, rfl, h₁, h₂⟩ := path_bind_iff.mp hp
    obtain ⟨es₁', es₂', rfl, hes₁, hes₂⟩ := exists_append_of_agreesUnless hes
    obtain ⟨b, hb, hab⟩ := hd.path h₁ hes₁
    obtain ⟨c, hc, hS⟩ := (hk a b hab).path h₂ hes₂
    exact ⟨c, path_bind_iff.mpr ⟨es₁', b, es₂', rfl, hb, hc⟩, hS⟩

/-- **On two transports**, the second of which gives the other answers. -/
theorem run {d : Dialogue α} {d' : Dialogue β} (h : Tolerates r R d d') {t : Transport σ} {s : σ}
    {u : Transport τ} {v : τ} (hes : List.Forall₂ (Exchange.AgreesUnless r) (d.exchanges t s) es')
    (hu : Replays u v es') : d'.exchanges u v = es' ∧ R (d.run t s).value (d'.run u v).value := by
  obtain ⟨b, hb, hab⟩ := h.path (path_run t s d) hes
  obtain ⟨hexchanges, hvalue⟩ := run_of_replays hb hu
  rw [hvalue]
  exact ⟨hexchanges, hab⟩

end Tolerates

end Dialogue

end Touchpad
