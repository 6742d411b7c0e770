import Mathlib.Data.ENat.Lattice
import Mathlib.Logic.Relation
import Touchpad.Bus.Attempts

/-!
# How often something is tried

Attempts at an operation that has a state of its own: some fail, and then there is one that succeeds
or is the last one that is allowed. `Attempts.Course` says which attempts these are, along the calls
of the operation, and everything that makes attempts follows it.

* `Course.calls_eq`: how many attempts there are
* `Course.retryFrom_eq`, `Course.ends`: attempts by recursion, and in a loop
* `turn_cases`, `counts`: the number of the attempt in the loop, in one turn and in all of them
* `retry_law`: all of this for any operation and any allowed number
-/

namespace Touchpad

namespace Attempts

variable {σ ε α : Type} (a : Attempts σ ε α)

/-! ## An operation that is called again and again -/

/-- The state of the operation after some calls, whatever came out of them. -/
def stateAfter (s : σ) (n : Nat) : σ := (fun s => (a.operation s).2)^[n] s

/-- What comes out of the call that follows `n` other ones. -/
def outcome (s : σ) (n : Nat) : Except ε α := (a.operation (a.stateAfter s n)).1

/-- The states in which the first calls begin, in order. -/
def states (s : σ) (n : Nat) : List σ := (List.range n).map (a.stateAfter s)

/-- What comes out of the first calls, in order. -/
def outcomes (s : σ) (n : Nat) : List (Except ε α) :=
  (a.states s n).map fun s => (a.operation s).1

/-- The number of the first call that succeeds; it is infinite if there is none. -/
noncomputable def firstSuccess (s : σ) : ℕ∞ :=
  ⨅ n : { n : Nat // (a.outcome s n).isOk = true }, ((n.val + 1 : Nat) : ℕ∞)

/-- What is done in attempts that failed and had others behind them; the first has number `n`. -/
def failing (n : Nat) (failures : List ε) : List (Deed ε α) :=
  (failures.zipIdx n).flatMap fun f =>
    [.call (.error f.1), .note (a.record f.2 f.1), .pause a.delay]

/--
The attempts at an operation, of which some `more` are allowed behind the first one: the failures of
those that have others behind them, and what comes out of the last one.
-/
inductive Course (a : Attempts σ ε α) : σ → Nat → List ε → Except ε α → Prop
  | last {s : σ} {more : Nat} : (a.operation s).1.isOk = true ∨ more = 0 →
      Course a s more [] (a.operation s).1
  | failed {s : σ} {more : Nat} {cause : ε} {failures : List ε} {value : Except ε α} :
      (a.operation s).1 = .error cause → Course a (a.operation s).2 more failures value →
        Course a s (more + 1) (cause :: failures) value

variable {a} {r next : Round σ ε α} {n more : Nat} {s : σ} {j : Journal σ ε α} {cause : ε}
  {failures : List ε} {value : Except ε α}

@[simp] theorem stateAfter_succ :
    a.stateAfter s (n + 1) = a.stateAfter (a.operation s).2 n := rfl

@[simp] theorem states_zero : a.states s 0 = [] := rfl

@[simp] theorem states_succ : a.states s (n + 1) = s :: a.states (a.operation s).2 n := by
  unfold states
  rw [List.range_succ_eq_map, List.map_cons, List.map_map]
  rfl

@[simp] theorem failing_nil : a.failing n [] = [] := rfl

@[simp] theorem failing_cons :
    a.failing n (cause :: failures) =
      [.call (.error cause), .note (a.record n cause), .pause a.delay] ++
        a.failing (n + 1) failures := by
  simp [failing]

theorem countP_isCall_failing : (a.failing n failures).countP Deed.isCall = failures.length := by
  induction failures generalizing n with
  | nil => rfl
  | cons cause failures ih =>
    rw [failing_cons, List.countP_append, ih]
    exact Nat.add_comm 1 failures.length

theorem call_apply : a.call j =
    ((a.operation j.state).1,
      ⟨(a.operation j.state).2, j.deeds ++ [.call (a.operation j.state).1]⟩) := rfl

/-- Between two calls there is a record and a pause, and the state stays. -/
theorem between_apply : a.between n cause j =
    ((), ⟨j.state, j.deeds ++ [.note (a.record n cause), .pause a.delay]⟩) := by
  show ((), Journal.mk j.state (j.deeds ++ [_] ++ [_])) = _
  rw [List.append_assoc]
  rfl

/-! ## Courses -/

/-- Repeated attempts take some course, whatever the operation. -/
theorem exists_course (a : Attempts σ ε α) (s : σ) (more : Nat) :
    ∃ failures value, a.Course s more failures value := by
  induction more generalizing s with
  | zero => exact ⟨[], _, .last (.inr rfl)⟩
  | succ more ih =>
    cases h : (a.operation s).1 with
    | ok v => exact ⟨[], _, .last (.inl (by rw [h]; rfl))⟩
    | error cause =>
      obtain ⟨failures, value, hc⟩ := ih (a.operation s).2
      exact ⟨cause :: failures, value, .failed h hc⟩

/-- The attempts that are allowed, counted as the first one and those behind it. -/
theorem max_sub_add_cancel (tries : Nat) : max tries 1 - 1 + 1 = max tries 1 :=
  Nat.sub_add_cancel (Nat.le_max_right tries 1)

namespace Course

/-- The outcomes of a course are its failures and then its value. -/
theorem outcomes_eq (h : a.Course s more failures value) :
    a.outcomes s (failures.length + 1) = failures.map .error ++ [value] := by
  induction h with
  | last => rfl
  | failed h _ ih =>
    unfold outcomes at ih ⊢
    rw [List.length_cons, states_succ, List.map_cons, h, ih]
    rfl

theorem length_le (h : a.Course s more failures value) : failures.length ≤ more := by
  induction h with
  | last => exact Nat.zero_le _
  | failed _ _ ih => exact Nat.succ_le_succ ih

/-- The attempts end with a success, or because no other one is allowed. -/
theorem last_cases (h : a.Course s more failures value) :
    value.isOk = true ∨ failures.length = more := by
  induction h with
  | last h => exact h.imp_right Eq.symm
  | failed _ _ ih => exact ih.imp_right (congrArg Nat.succ)

/-- The value is the outcome of the last call. -/
theorem outcome_length (h : a.Course s more failures value) :
    a.outcome s failures.length = value := by
  induction h with
  | last => rfl
  | failed _ _ ih => exact ih

/-- No attempt but the last one succeeds. -/
theorem not_isOk (h : a.Course s more failures value) (hn : n < failures.length) :
    ¬ (a.outcome s n).isOk = true := by
  induction h generalizing n with
  | last => cases hn
  | @failed s _ cause _ _ h _ ih =>
    cases n with
    | zero =>
      show ¬ (a.operation s).1.isOk = true
      rw [h]
      exact Bool.false_ne_true
    | succ n => exact ih (Nat.lt_of_succ_lt_succ hn)

/-- **As many attempts are made as it takes**, unless fewer are allowed. -/
theorem calls_eq (h : a.Course s more failures value) :
    ((failures.length + 1 : Nat) : ℕ∞) = min (a.firstSuccess s) ((more + 1 : Nat) : ℕ∞) := by
  have hfirst : ((failures.length + 1 : Nat) : ℕ∞) ≤ a.firstSuccess s := by
    refine le_iInf ?_
    rintro ⟨n, hok⟩
    refine Nat.cast_le.mpr (Nat.succ_le_succ (Nat.le_of_not_lt fun hlt => ?_))
    exact h.not_isOk hlt hok
  have hmore : ((failures.length + 1 : Nat) : ℕ∞) ≤ (more + 1 : Nat) :=
    Nat.cast_le.mpr (Nat.succ_le_succ h.length_le)
  refine le_antisymm (le_min hfirst hmore) ?_
  rcases h.last_cases with hok | hlen
  · rw [← h.outcome_length] at hok
    refine (min_le_left _ _).trans ?_
    exact iInf_le_of_le ⟨failures.length, hok⟩ (le_refl _)
  · rw [hlen]
    exact min_le_right _ _

end Course

/-! ## Attempts by recursion -/

/-- A call that succeeds, or that no other one may follow, is the last one. -/
theorem retryFrom_eq_call (h : (a.operation j.state).1.isOk = true ∨ more = 0) :
    retryFrom a.between a.call n more j = a.call j := by
  cases more with
  | zero => rfl
  | succ more =>
    have hok := h.resolve_right (Nat.succ_ne_zero more)
    cases hv : (a.operation j.state).1 with
    | ok v =>
      simp only [retryFrom, bind, StateT.bind, call_apply, hv]
      rfl
    | error cause =>
      rw [hv] at hok
      cases hok

theorem retryFrom_of_error (h : (a.operation j.state).1 = .error cause) :
    retryFrom a.between a.call n (more + 1) j =
      retryFrom a.between a.call (n + 1) more
        ⟨(a.operation j.state).2, j.deeds ++ a.failing n [cause]⟩ := by
  simp [retryFrom, bind, StateT.bind, call_apply, between_apply, h]

/-- **Attempts by recursion take their course.** -/
theorem Course.retryFrom_eq (h : a.Course s more failures value) {deeds : List (Deed ε α)} :
    retryFrom a.between a.call n more ⟨s, deeds⟩ =
      (value, ⟨a.stateAfter s (failures.length + 1),
        deeds ++ a.failing n failures ++ [.call value]⟩) := by
  induction h generalizing n deeds with
  | last h =>
    rw [retryFrom_eq_call h, call_apply]
    simp [stateAfter]
  | failed h _ ih =>
    rw [retryFrom_of_error h, ih]
    simp

/-! ## Attempts in a loop -/

/-- The number of calls that are allowed is the number of tries, and one at least. -/
theorem toNat_allowed : a.allowed.toNat = max a.tries.toNat 1 := by
  have hmax : a.allowed = if a.tries ≤ 1 then 1 else a.tries := rfl
  rw [hmax]
  split
  case isTrue h =>
    have hle : a.tries.toNat ≤ 1 := UInt32.le_iff_toNat_le.mp h
    exact (Nat.max_eq_right hle).symm
  case isFalse h =>
    have hlt : 1 < a.tries.toNat := Nat.lt_of_not_le fun hle => h (UInt32.le_iff_toNat_le.mpr hle)
    exact (Nat.max_eq_left (Nat.le_of_lt hlt)).symm

/-- The number of an attempt that is allowed fits. -/
theorem lt_size_of_lt (h : r.attempt < a.allowed) : r.attempt.toNat + 1 < UInt32.size :=
  Nat.lt_of_le_of_lt (UInt32.lt_iff_toNat_lt.mp h) a.allowed.toNat_lt

/-- As long as attempts are left, counting them does not overflow. -/
theorem toNat_succ (h : r.attempt < a.allowed) :
    (r.attempt + 1).toNat = r.attempt.toNat + 1 := by
  rw [UInt32.toNat_add]
  exact Nat.mod_eq_of_lt (lt_size_of_lt h)

/-- A turn of the loop is the last one for the same reasons for which a call is. -/
theorem turn_eq_ended
    (h : (a.operation r.journal.state).1.isOk = true ∨ ¬ r.attempt < a.allowed) :
    a.turn r = .ended (a.call r.journal).1 (a.call r.journal).2 := by
  cases hv : (a.operation r.journal.state).1 with
  | ok v => simp [turn, call_apply, hv]
  | error cause =>
    rw [hv] at h
    have hlt : ¬ r.attempt < a.allowed := h.resolve_left Bool.false_ne_true
    simp [turn, call_apply, hv, hlt]

theorem turn_eq_again (h : (a.operation r.journal.state).1 = .error cause)
    (hlt : r.attempt < a.allowed) :
    a.turn r = .again ⟨r.attempt + 1, ⟨(a.operation r.journal.state).2,
      r.journal.deeds ++ a.failing r.attempt.toNat [cause]⟩⟩ := by
  have hsize := lt_size_of_lt hlt
  simp [turn, call_apply, between_apply, h, hlt, hsize]

/-- **The loop takes the same course**, with a number that says how many attempts are left. -/
theorem Course.ends (h : a.Course s more failures value) (attempt : UInt32)
    (deeds : List (Deed ε α)) (hn : attempt.toNat + more = a.allowed.toNat) :
    a.Ends ⟨attempt, ⟨s, deeds⟩⟩ value ⟨a.stateAfter s (failures.length + 1),
      deeds ++ a.failing attempt.toNat failures ++ [.call value]⟩ := by
  induction h generalizing attempt deeds with
  | @last s more h =>
    have hend : (a.operation s).1.isOk = true ∨ ¬ attempt < a.allowed := by
      refine h.imp_right fun hmore hlt => ?_
      have := UInt32.lt_iff_toNat_lt.mp hlt
      omega
    refine .now ((turn_eq_ended hend).trans ?_)
    simp [call_apply, stateAfter]
  | @failed s more cause failures value h _ ih =>
    have hlt : attempt < a.allowed := by
      rw [UInt32.lt_iff_toNat_lt]
      omega
    have hnext : (attempt + 1).toNat = attempt.toNat + 1 :=
      toNat_succ (r := ⟨attempt, ⟨s, deeds⟩⟩) hlt
    have hrest := ih (attempt + 1) (deeds ++ a.failing attempt.toNat [cause]) (by omega)
    refine .later (turn_eq_again h hlt) ?_
    simpa [hnext] using hrest

/-- The loop cannot end in two ways. -/
theorem Ends.unique {value' : Except ε α} {j' : Journal σ ε α} (h : a.Ends r value j)
    (h' : a.Ends r value' j') : value' = value ∧ j' = j := by
  induction h with
  | now hturn =>
    cases h' with
    | now hturn' =>
      rw [hturn] at hturn'
      cases hturn'
      exact ⟨rfl, rfl⟩
    | later hlead' _ =>
      rw [Leads, hturn] at hlead'
      cases hlead'
  | later hlead _ ih =>
    cases h' with
    | now hturn' =>
      rw [Leads, hturn'] at hlead
      cases hlead
    | later hlead' h' =>
      rw [Leads] at hlead hlead'
      rw [hlead] at hlead'
      cases hlead'
      exact ih h'

/-- **What a turn comes to**: the end, or the next round while attempts are left. -/
theorem turn_cases (a : Attempts σ ε α) (r : Round σ ε α) :
    (∃ value j, a.turn r = .ended value j) ∨
      r.attempt < a.allowed ∧ ∃ j : Journal σ ε α,
        j.calls = r.journal.calls + 1 ∧ a.turn r = .again ⟨r.attempt + 1, j⟩ := by
  by_cases hlt : r.attempt < a.allowed
  · cases hv : (a.operation r.journal.state).1 with
    | ok v => exact .inl ⟨_, _, turn_eq_ended (.inl (by rw [hv]; rfl))⟩
    | error cause =>
      refine .inr ⟨hlt, _, ?_, turn_eq_again hv hlt⟩
      unfold Journal.calls
      rw [List.countP_append, countP_isCall_failing]
      rfl
  · exact .inl ⟨_, _, turn_eq_ended (.inr hlt)⟩

/-- **No turn overflows**, whatever the counter is. -/
theorem turn_ne_overflow (a : Attempts σ ε α) (r : Round σ ε α) : a.turn r ≠ .overflow := by
  intro h
  rcases turn_cases a r with ⟨_, _, hturn⟩ | ⟨_, _, _, hturn⟩
  · rw [hturn] at h
    cases h
  · rw [hturn] at h
    cases h

/-- Whether a round counts the attempts, and has not come to the end of those that are allowed. -/
structure Counts (a : Attempts σ ε α) (r : Round σ ε α) : Prop where
  toNat_attempt : r.attempt.toNat = r.journal.calls + 1
  attempt_le : r.attempt ≤ a.allowed

theorem Counts.first (a : Attempts σ ε α) (s : σ) : a.Counts (first s) where
  toNat_attempt := rfl
  attempt_le := by
    rw [UInt32.le_iff_toNat_le, toNat_allowed]
    exact Nat.le_max_right a.tries.toNat 1

/-- **A turn goes on counting.** -/
theorem Counts.step (h : a.Counts r) (hlead : a.Leads r next) : a.Counts next := by
  unfold Leads at hlead
  rcases turn_cases a r with ⟨_, _, hturn⟩ | ⟨hlt, j, hcalls, hturn⟩
  · rw [hturn] at hlead
    cases hlead
  · rw [hturn] at hlead
    cases hlead
    refine ⟨?_, ?_⟩
    · rw [toNat_succ hlt, h.toNat_attempt, hcalls]
    · rw [UInt32.le_iff_toNat_le, toNat_succ hlt]
      exact UInt32.lt_iff_toNat_lt.mp hlt

/-- **All rounds count the attempts**, within those that are allowed. -/
theorem counts (h : Relation.ReflTransGen a.Leads (first s) r) : a.Counts r := by
  induction h with
  | refl => exact .first a s
  | tail _ hlead ih => exact ih.step hlead

/--
**The law of attempts.** An operation with any state of its own is called until it succeeds, at most
as often as is allowed, where zero counts as one. Each call begins in the state that the one before
has left. All calls but the last one fail; each of them is followed by a record and a single pause.
The last one decides, whether it is the first success or the last failure. The loop ends, too, and
in no other way. Its counter is always the number of the next attempt, which never exceeds those
that are allowed, so that it fits.
-/
theorem retry_law (a : Attempts σ ε α) (s : σ) :
    ∃ (failures : List ε) (value : Except ε α),
      let calls := failures.length + 1
      let journal : Journal σ ε α := ⟨a.stateAfter s calls, a.failing 1 failures ++ [.call value]⟩
      journal.calls = calls ∧
      (calls : ℕ∞) = min (a.firstSuccess s) (max a.tries.toNat 1 : Nat) ∧
      a.outcomes s calls = failures.map .error ++ [value] ∧
      (retry a.tries.toNat a.between a.call).run (.new s) = (value, journal) ∧
      (∀ v j, a.Ends (first s) v j ↔ v = value ∧ j = journal) ∧
      ∀ r, Relation.ReflTransGen a.Leads (first s) r →
        r.attempt.toNat = r.journal.calls + 1 ∧ r.attempt ≤ max a.tries 1 ∧
          a.turn r ≠ .overflow := by
  obtain ⟨failures, value, h⟩ := exists_course a s (max a.tries.toNat 1 - 1)
  refine ⟨failures, value, ?_, ?_, h.outcomes_eq, h.retryFrom_eq, fun v j => ?_, fun r hr => ?_⟩
  · unfold Journal.calls
    rw [List.countP_append, countP_isCall_failing]
    rfl
  · rw [h.calls_eq, max_sub_add_cancel]
  · have hends : a.Ends (first s) value ⟨_, _⟩ := h.ends 1 [] <| by
      rw [toNat_allowed, ← max_sub_add_cancel]
      exact Nat.add_comm 1 _
    constructor
    · exact hends.unique
    · rintro ⟨rfl, rfl⟩
      exact hends
  · obtain ⟨hattempt, hle⟩ := counts hr
    exact ⟨hattempt, hle, turn_ne_overflow a r⟩

/-- An operation that succeeds with its third call, and keeps the number of calls. -/
example :
    let a : Attempts Nat Unit Nat :=
      ⟨fun n => (if n < 2 then .error () else .ok n, n + 1), fun _ => "not yet", 5, 2000⟩
    (retry 5 a.between a.call).run (.new 0) =
      (.ok 2, ⟨3, a.failing 1 [(), ()] ++ [.call (.ok 2)]⟩) :=
  rfl

end Attempts

end Touchpad
