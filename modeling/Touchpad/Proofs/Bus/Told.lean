import Touchpad.Proofs.Bus.Conservation

/-!
# What a script tells a dialogue

On a script each round trip takes the bytes that are next, so that all round trips of a dialogue
follow from its requests and from the bytes that are there at first.

* `Told`: round trips on a script, and the bytes that they leave
* `Dialogue.told_run`, `Dialogue.run_of_told`: a dialogue takes the path that a script tells
* `Told.taken_eq`: one question after the other takes the next three bytes
* `Heard`: the questions of some round trips, and the bytes that they leave
-/

namespace Touchpad

/-! ## Replies among bytes -/

namespace Reply

/-- The reply number `k` among bytes that are replies one after the other. -/
def nth (bs : List UInt8) (k : Nat) : Reply :=
  ⟨bs.getD (3 * k) 0, bs.getD (3 * k + 1) 0, bs.getD (3 * k + 2) 0⟩

/-- Behind some replies the others are counted from there. -/
theorem nth_drop_mul (bs : List UInt8) (j k : Nat) : nth (bs.drop (3 * j)) k = nth bs (j + k) := by
  simp only [nth, List.getD_eq_getElem?_getD, List.getElem?_drop, Nat.mul_add, Nat.add_assoc]

theorem nth_drop (bs : List UInt8) (k : Nat) : nth (bs.drop 3) k = nth bs (1 + k) :=
  nth_drop_mul bs 1 k

end Reply

/-! ## Round trips on a script -/

namespace Exchange

/-- The round trip of a request where some bytes are there to be read. -/
def scripted (bs : List UInt8) (r : Request) : Exchange where
  request := r
  outcome := if bs.length < r.readCount then .error .exhausted else .ok ()
  taken := bs.take r.readCount

variable {bs : List UInt8} {r : Request}

/-- A round trip on a script follows from its bytes alone. -/
theorem exchange_eq_scripted (s : Script) (r : Request) : s.exchange r = scripted s.replies r := by
  rw [Script.exchange, Script.submit_outcome, Script.submit_taken]
  rfl

/-- A round trip on a script succeeds if there are enough bytes. -/
theorem succeeded_scripted_iff : (scripted bs r).Succeeded ↔ r.readCount ≤ bs.length := by
  unfold Succeeded scripted
  dsimp only
  split <;> simp <;> omega

/-- The round trips that read something. -/
def questions (es : List Exchange) : List Exchange := es.filter fun e => 0 < e.request.readCount

variable {e : Exchange} {es : List Exchange}

theorem questions_cons (h : 0 < e.request.readCount) : questions (e :: es) = e :: questions es :=
  List.filter_cons_of_pos (decide_eq_true h)

theorem questions_cons_of_eq_zero (h : e.request.readCount = 0) :
    questions (e :: es) = questions es :=
  List.filter_cons_of_neg (by simp [h])

theorem questions_append (es₁ es₂ : List Exchange) :
    questions (es₁ ++ es₂) = questions es₁ ++ questions es₂ :=
  List.filter_append ..

end Exchange

open Exchange (scripted questions questions_cons questions_cons_of_eq_zero questions_append)

/--
Whether round trips take the bytes that are there, one after the other, and which bytes they leave.
-/
def Told : List UInt8 → List Exchange → List UInt8 → Prop
  | bs, [], rest => rest = bs
  | bs, e :: es, rest => e = scripted bs e.request ∧ Told (bs.drop e.request.readCount) es rest

namespace Told

variable {bs rest : List UInt8} {es es₁ es₂ : List Exchange}

/-- Round trips in two parts: the second part begins with the bytes that the first one leaves. -/
theorem append_iff :
    Told bs (es₁ ++ es₂) rest ↔ ∃ mid, Told bs es₁ mid ∧ Told mid es₂ rest := by
  induction es₁ generalizing bs with
  | nil =>
    constructor
    · exact fun h => ⟨bs, rfl, h⟩
    · rintro ⟨_, rfl, h⟩
      exact h
  | cons e es₁ ih =>
    constructor
    · rintro ⟨he, h⟩
      obtain ⟨mid, h₁, h₂⟩ := ih.mp h
      exact ⟨mid, ⟨he, h₁⟩, h₂⟩
    · rintro ⟨mid, ⟨he, h₁⟩, h₂⟩
      exact ⟨he, ih.mpr ⟨mid, h₁, h₂⟩⟩

/-- Where no bytes are left, nothing can be read. -/
theorem not_succeeded_of_nil (h : Told [] es rest) :
    ∀ e ∈ es, 0 < e.request.readCount → ¬ e.Succeeded := by
  induction es with
  | nil => simp
  | cons e es ih =>
    obtain ⟨he, h⟩ := h
    rw [List.drop_nil] at h
    refine List.forall_mem_cons.mpr ⟨fun hread hok => ?_, ih h⟩
    rw [he, Exchange.succeeded_scripted_iff] at hok
    exact absurd (Nat.lt_of_lt_of_le hread hok) (Nat.lt_irrefl 0)

/-- **Behind a failure nothing can be read** any more. -/
theorem not_succeeded_behind {e : Exchange} (h : Told bs (e :: es) rest) (he : ¬ e.Succeeded) :
    ∀ e' ∈ es, 0 < e'.request.readCount → ¬ e'.Succeeded := by
  obtain ⟨heq, h⟩ := h
  rw [heq, Exchange.succeeded_scripted_iff, Nat.not_le] at he
  rw [List.drop_of_length_le (Nat.le_of_lt he)] at h
  exact h.not_succeeded_of_nil

/--
**One question after the other takes the next three bytes**, or what is left of them, if each asks
for three.
-/
theorem taken_eq (h : Told bs es rest)
    (h3 : ∀ r ∈ (questions es).map Exchange.request, r.readCount = 3) :
    rest = bs.drop (3 * (questions es).length) ∧
      ∀ k e, (questions es)[k]? = some e → e.taken = (bs.drop (3 * k)).take 3 := by
  induction es generalizing bs with
  | nil => exact ⟨h, nofun⟩
  | cons e es ih =>
    obtain ⟨he, h⟩ := h
    rcases Nat.eq_zero_or_pos e.request.readCount with hquiet | hread
    · rw [hquiet, List.drop_zero] at h
      rw [questions_cons_of_eq_zero hquiet] at h3 ⊢
      exact ih h h3
    · rw [questions_cons hread, List.map_cons, List.forall_mem_cons] at h3
      rw [h3.1] at h
      obtain ⟨hrest, htaken⟩ := ih h h3.2
      rw [questions_cons hread]
      refine ⟨?_, ?_⟩
      · rw [hrest, List.drop_drop, List.length_cons]
        congr 1
        omega
      · intro k e' hk
        cases k with
        | zero =>
          obtain rfl := Option.some.inj hk
          rw [he]
          show bs.take e.request.readCount = _
          rw [h3.1]
          rfl
        | succ k =>
          rw [htaken k e' hk, List.drop_drop]
          congr 2
          omega

end Told

/-! ## Dialogues on a script -/

namespace Dialogue

variable {α : Type} {d : Dialogue α} {s : Script} {es : List Exchange} {a : α}
  {rest : List UInt8}

/-- **The round trips of a dialogue on a script** are told by the bytes of the script. -/
theorem told_run (d : Dialogue α) (s : Script) :
    Told s.replies (d.exchanges Script.transport s) (d.run Script.transport s).state.replies := by
  induction d generalizing s with
  | done a => exact rfl
  | submit r next ih =>
    refine ⟨Exchange.exchange_eq_scripted s r, ?_⟩
    rw [← Script.submit_replies]
    exact ih _ _
  | note record next ih => exact ih s
  | pause n next ih => exact ih s

/-- **A path whose round trips a script tells** is the one that the dialogue takes on it. -/
theorem run_of_told (hp : d.Path es a) (h : Told s.replies es rest) :
    d.exchanges Script.transport s = es ∧ (d.run Script.transport s).value = a ∧
      (d.run Script.transport s).state.replies = rest := by
  induction d generalizing s es with
  | done b =>
    obtain ⟨rfl, rfl⟩ := hp
    exact ⟨rfl, rfl, h.symm⟩
  | submit r next ih =>
    obtain ⟨e, es, rfl, rfl, hp⟩ := hp
    obtain ⟨he, h⟩ := h
    rw [← Exchange.exchange_eq_scripted] at he
    rw [← Script.submit_replies] at h
    have hc : (s.submit e.request).completion e.request = e.completion :=
      (congrArg Exchange.completion he).symm
    obtain ⟨hes, hv, hs⟩ := ih e.completion hp h
    rw [← hc] at hes hv hs
    refine ⟨?_, hv, hs⟩
    conv => rhs; rw [he]
    exact congrArg (_ :: ·) hes
  | note record next ih => exact ih hp h
  | pause n next ih => exact ih hp h

end Dialogue

/-! ## Questions and what they leave -/

/--
Whether there are round trips of some kind on bytes, with questions that ask for something in order,
and with some bytes left behind them.
-/
def Heard (bs : List UInt8) (P : List Exchange → Prop) (asked : List Request)
    (rest : List UInt8) : Prop :=
  ∃ es, P es ∧ Told bs es rest ∧ (questions es).map Exchange.request = asked

namespace Heard

variable {bs rest : List UInt8} {asked : List Request} {P Q : List Exchange → Prop}

theorem congr (h : ∀ es, P es ↔ Q es) : Heard bs P asked rest ↔ Heard bs Q asked rest :=
  exists_congr fun es => and_congr_left fun _ => h es

/-- Round trips of one kind and then of another. -/
theorem append_iff :
    Heard bs (fun es => ∃ es₁ es₂, es = es₁ ++ es₂ ∧ P es₁ ∧ Q es₂) asked rest ↔
      ∃ asked₁ mid asked₂, asked = asked₁ ++ asked₂ ∧ Heard bs P asked₁ mid ∧
        Heard mid Q asked₂ rest := by
  constructor
  · rintro ⟨_, ⟨es₁, es₂, rfl, h₁, h₂⟩, ht, rfl⟩
    obtain ⟨mid, ht₁, ht₂⟩ := Told.append_iff.mp ht
    refine ⟨_, mid, _, ?_, ⟨es₁, h₁, ht₁, rfl⟩, ⟨es₂, h₂, ht₂, rfl⟩⟩
    rw [questions_append, List.map_append]
  · rintro ⟨_, mid, _, rfl, ⟨es₁, h₁, ht₁, rfl⟩, ⟨es₂, h₂, ht₂, rfl⟩⟩
    refine ⟨es₁ ++ es₂, ⟨es₁, es₂, rfl, h₁, h₂⟩, Told.append_iff.mpr ⟨mid, ht₁, ht₂⟩, ?_⟩
    rw [questions_append, List.map_append]

theorem exists_iff {α : Type} {P : α → List Exchange → Prop} :
    Heard bs (fun es => ∃ a, P a es) asked rest ↔ ∃ a, Heard bs (P a) asked rest := by
  constructor
  · rintro ⟨es, ⟨a, h⟩, ht⟩
    exact ⟨a, es, h, ht⟩
  · rintro ⟨a, es, h, ht⟩
    exact ⟨es, ⟨a, h⟩, ht⟩

/-- Round trips of one kind with a value, and then others that depend on it. -/
theorem bind_iff {α : Type} {P Q : α → List Exchange → Prop} :
    Heard bs (fun es => ∃ es₁ a es₂, es = es₁ ++ es₂ ∧ P a es₁ ∧ Q a es₂) asked rest ↔
      ∃ a asked₁ mid asked₂, asked = asked₁ ++ asked₂ ∧ Heard bs (P a) asked₁ mid ∧
        Heard mid (Q a) asked₂ rest := by
  have hswap (es : List Exchange) : (∃ es₁ a es₂, es = es₁ ++ es₂ ∧ P a es₁ ∧ Q a es₂) ↔
      ∃ a es₁ es₂, es = es₁ ++ es₂ ∧ P a es₁ ∧ Q a es₂ :=
    exists_comm
  rw [congr hswap, exists_iff]
  exact exists_congr fun a => append_iff

theorem and_iff {p : Prop} :
    Heard bs (fun es => p ∧ P es) asked rest ↔ p ∧ Heard bs P asked rest := by
  constructor
  · rintro ⟨es, ⟨hp, h⟩, ht⟩
    exact ⟨hp, es, h, ht⟩
  · rintro ⟨hp, es, h, ht⟩
    exact ⟨es, ⟨hp, h⟩, ht⟩

/-- A request that reads something asks one question. -/
theorem questions_scripted {r : Request} (hr : 0 < r.readCount) :
    (questions [scripted bs r]).map Exchange.request = [r] :=
  congrArg (List.map Exchange.request) (questions_cons hr)

/-- A single round trip, of which something holds. -/
theorem single_iff {r : Request} {P : Exchange → Prop} :
    Heard bs (fun es => ∃ e, es = [e] ∧ e.request = r ∧ P e) asked rest ↔
      P (scripted bs r) ∧ asked = (questions [scripted bs r]).map Exchange.request ∧
        rest = bs.drop r.readCount := by
  constructor
  · rintro ⟨_, ⟨e, rfl, rfl, h⟩, ⟨he, rfl⟩, rfl⟩
    rw [← he]
    exact ⟨h, rfl, rfl⟩
  · rintro ⟨h, rfl, rfl⟩
    exact ⟨_, ⟨scripted bs r, rfl, rfl, h⟩, ⟨rfl, rfl⟩, rfl⟩

theorem nil_iff : Heard bs (· = []) asked rest ↔ asked = [] ∧ rest = bs := by
  constructor
  · rintro ⟨_, rfl, rfl, rfl⟩
    exact ⟨rfl, rfl⟩
  · rintro ⟨rfl, rfl⟩
    exact ⟨[], rfl, rfl, rfl⟩

end Heard

end Touchpad
