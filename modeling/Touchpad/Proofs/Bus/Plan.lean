import Mathlib.Data.List.Chain
import Touchpad.Proofs.Bus.Exchange

/-!
# Plans

A plan lists the requests that a dialogue means to make, in order. A step of it may be tried again
while it fails, and it may be one whose failure does not matter. `Follows` says which round trips
keep to a plan, and whether they went through all of it. A plan is broken off at a step only, after
as many attempts as the step allows.

* `Follows.append`, `Follows.append_cases`: a plan in two parts
* `Follows.broken_off`: where a plan was broken off
* `Follows.requests`: the requests are those of the plan, as far as it got
* `Follows.pairwise`: a request is only repeated after it failed
* `Follows.isChain`: after a failure comes nothing but another attempt
-/

namespace Touchpad

/-- A step of a plan. -/
structure Step where
  request : Request
  /-- How many attempts may follow the first one. -/
  more : Nat := 0
  /-- Whether the plan is broken off when the step fails. -/
  needed : Bool := true
  /-- What is asked of the last attempt, apart from having succeeded. -/
  accepts : Exchange → Prop := fun _ => True

namespace Step

/-- Whether the plan may go on after a last attempt. -/
def Passed (s : Step) (last : Exchange) : Prop :=
  s.needed = true → last.Succeeded ∧ s.accepts last

/--
Whether a step was tried, with some failed attempts and then a last one. If that one failed too, it
was the last one allowed.
-/
structure Tried (s : Step) (failed : List Exchange) (last : Exchange) : Prop where
  length_le : failed.length ≤ s.more
  exhausted : last.Succeeded ∨ failed.length = s.more
  failed : ∀ e ∈ failed, e.request = s.request ∧ ¬ e.Succeeded
  request : last.request = s.request

/-- The step that consists of a single attempt. -/
def once (r : Request) : Step := { request := r }

/-- A single attempt is all that a step allows if no more may follow. -/
theorem Tried.single {s : Step} {last : Exchange} (h : last.request = s.request)
    (hm : s.more = 0) : s.Tried [] last :=
  ⟨Nat.zero_le s.more, .inr hm.symm, by simp, h⟩

/-- Nothing comes before the attempt at a step that allows one only. -/
theorem Tried.eq_nil {r : Request} {failed : List Exchange} {last : Exchange}
    (h : (once r).Tried failed last) : failed = [] :=
  List.eq_nil_of_length_eq_zero (Nat.le_zero.mp h.length_le)

/-- All attempts at a step make its request. -/
theorem Tried.request_eq {s : Step} {failed : List Exchange} {last : Exchange}
    (h : s.Tried failed last) : ∀ e ∈ failed ++ [last], e.request = s.request := by
  intro e he
  rcases List.mem_append.mp he with he | he
  · exact (h.failed e he).1
  · rw [List.mem_singleton.mp he, h.request]

/-- The request of a step is made once for each attempt. -/
theorem Tried.map_request {s : Step} {failed : List Exchange} {last : Exchange}
    (h : s.Tried failed last) :
    (failed ++ [last]).map Exchange.request =
      List.replicate (failed.length + 1) s.request := by
  rw [List.eq_replicate_iff]
  refine ⟨by simp, fun r hr => ?_⟩
  obtain ⟨e, he, rfl⟩ := List.mem_map.mp hr
  exact h.request_eq e he

end Step

/--
Whether round trips keep to a plan, and whether they went through all of it (`true`) or broke it off
(`false`).
-/
inductive Follows : List Step → List Exchange → Bool → Prop
  | nil : Follows [] [] true
  | broken {s : Step} {plan : List Step} {failed : List Exchange} {last : Exchange} :
      s.Tried failed last → ¬ s.Passed last → Follows (s :: plan) (failed ++ [last]) false
  | passed {s : Step} {plan : List Step} {failed es : List Exchange} {last : Exchange}
      {through : Bool} :
      s.Tried failed last → s.Passed last → Follows plan es through →
        Follows (s :: plan) (failed ++ [last] ++ es) through

namespace Follows

variable {plan front back : List Step} {es es₁ es₂ : List Exchange} {through : Bool}

/-! ## Plans in parts -/

/-- A plan in two parts is followed in two parts. -/
theorem append (h₁ : Follows front es₁ true) (h₂ : Follows back es₂ through) :
    Follows (front ++ back) (es₁ ++ es₂) through := by
  -- induction on the way through the first part, which cannot have been broken off
  generalize hb : true = b at h₁
  induction h₁ with
  | nil => exact h₂
  | broken => cases hb
  | passed ht hp _ ih =>
    rw [List.append_assoc]
    exact passed ht hp (ih hb)

/-- A plan that was broken off stays so with more steps behind it. -/
theorem append_of_broken (h : Follows front es false) : Follows (front ++ back) es false := by
  generalize hb : false = b at h
  induction h with
  | nil => cases hb
  | broken ht hp => exact broken ht hp
  | passed ht hp _ ih => exact passed ht hp (hb ▸ ih hb)

/-- **A plan in two parts is broken off in the first, or the second follows.** -/
theorem append_cases (h : Follows (front ++ back) es through) :
    (Follows front es false ∧ through = false) ∨
      ∃ es₁ es₂, es = es₁ ++ es₂ ∧ Follows front es₁ true ∧ Follows back es₂ through := by
  -- the steps of the front are used up one after the other, unless one of them is the last
  induction front generalizing es with
  | nil => exact .inr ⟨[], es, rfl, nil, h⟩
  | cons s front ih =>
    cases h with
    | broken ht hp => exact .inl ⟨broken ht hp, rfl⟩
    | passed ht hp h =>
      rcases ih h with ⟨h₁, hf⟩ | ⟨es₁, es₂, rfl, h₁, h₂⟩
      · exact .inl ⟨passed ht hp h₁, hf⟩
      · exact .inr ⟨_, es₂, (List.append_assoc ..).symm, passed ht hp h₁, h₂⟩

/-- A plan of one single attempt. -/
theorem exists_of_once {r : Request} (h : Follows [Step.once r] es through) :
    ∃ e, es = [e] ∧ e.request = r ∧ (e.Succeeded ↔ through = true) := by
  cases h with
  | broken ht hp =>
    obtain rfl := ht.eq_nil
    refine ⟨_, rfl, ht.request, ?_⟩
    simpa [Step.Passed, Step.once] using hp
  | passed ht hp h =>
    cases h
    obtain rfl := ht.eq_nil
    refine ⟨_, rfl, ht.request, ?_⟩
    simpa [Step.Passed, Step.once] using hp

/--
**A plan is broken off at one of its steps**, with all steps in front of it passed and the attempts
at it used up.
-/
theorem broken_off (h : Follows plan es false) :
    ∃ front s back es₁ failed last, plan = front ++ s :: back ∧ es = es₁ ++ (failed ++ [last]) ∧
      Follows front es₁ true ∧ s.Tried failed last ∧ ¬ s.Passed last := by
  generalize hb : false = b at h
  induction h with
  | nil => cases hb
  | @broken s plan failed last ht hp =>
    exact ⟨[], s, plan, [], failed, last, rfl, rfl, nil, ht, hp⟩
  | @passed s plan failed es last through ht hp _ ih =>
    obtain ⟨front, s', back, es₁, failed', last', rfl, rfl, h₁, ht', hp'⟩ := ih hb
    exact ⟨s :: front, s', back, _, failed', last', rfl, (List.append_assoc ..).symm,
      passed ht hp h₁, ht', hp'⟩

/-- The first request is the one of the first step, whatever comes of it. -/
theorem head?_request {s : Step} (h : Follows (s :: plan) es through) :
    es.head?.map Exchange.request = some s.request := by
  have hhead {failed : List Exchange} {last : Exchange} (ht : s.Tried failed last) :
      (failed ++ [last]).head?.map Exchange.request = some s.request := by
    rw [← List.head?_map, ht.map_request]
    rfl
  cases h with
  | broken ht _ => exact hhead ht
  | passed ht _ _ =>
    rw [List.head?_append_of_ne_nil _ (by simp)]
    exact hhead ht

/-! ## What the round trips of a plan look like -/

/-- Every round trip belongs to a step. -/
theorem exists_step (h : Follows plan es through) :
    ∀ e ∈ es, ∃ s ∈ plan, e.request = s.request := by
  intro e he
  induction h with
  | nil => cases he
  | broken ht _ => exact ⟨_, List.mem_cons_self, ht.request_eq e he⟩
  | passed ht _ _ ih =>
    rcases List.mem_append.mp he with he | he
    · exact ⟨_, List.mem_cons_self, ht.request_eq e he⟩
    · obtain ⟨s, hs, hr⟩ := ih he
      exact ⟨s, List.mem_cons_of_mem _ hs, hr⟩

theorem forall_ne {r : Request} (h : Follows plan es through)
    (hne : ∀ s ∈ plan, s.request ≠ r) : ∀ e ∈ es, e.request ≠ r := by
  intro e he
  obtain ⟨s, hs, hr⟩ := h.exists_step e he
  rw [hr]
  exact hne s hs

/-- A plan that was gone through has passed each of its steps. -/
theorem exists_passed (h : Follows plan es true) :
    ∀ s ∈ plan, ∃ e ∈ es, e.request = s.request ∧ s.Passed e := by
  intro s hs
  generalize hb : true = b at h
  induction h with
  | nil => cases hs
  | broken => cases hb
  | @passed _ _ failed es last _ ht hp _ ih =>
    rcases List.mem_cons.mp hs with rfl | hs
    · exact ⟨last, by simp, ht.request, hp⟩
    · obtain ⟨e, he, hr⟩ := ih hs hb
      exact ⟨e, List.mem_append_right _ he, hr⟩

/-! ## The requests of a plan -/

/-- The requests of a plan, each a number of times. -/
def script (times : Request → Nat) (plan : List Step) : List Request :=
  plan.flatMap fun s => List.replicate (times s.request) s.request

theorem script_cons (times : Request → Nat) (s : Step) :
    script times (s :: plan) = List.replicate (times s.request) s.request ++ script times plan :=
  List.flatMap_cons

theorem script_append (times : Request → Nat) :
    script times (front ++ back) = script times front ++ script times back :=
  List.flatMap_append

theorem script_singleton (times : Request → Nat) (s : Step) :
    script times [s] = List.replicate (times s.request) s.request := by
  rw [script_cons]
  exact List.append_nil _

theorem exists_step_of_mem_script {times : Request → Nat} {r : Request}
    (h : r ∈ script times plan) : ∃ s ∈ plan, r = s.request := by
  obtain ⟨s, hs, hr⟩ := List.mem_flatMap.mp h
  exact ⟨s, hs, List.eq_of_mem_replicate hr⟩

theorem script_congr {f g : Request → Nat} (h : ∀ s ∈ plan, f s.request = g s.request) :
    script f plan = script g plan := by
  induction plan with
  | nil => rfl
  | cons s plan ih =>
    rw [script_cons, script_cons, h s List.mem_cons_self,
      ih fun s' hs' => h s' (List.mem_cons_of_mem _ hs')]

/-- Steps that count once have their requests in order. -/
theorem script_eq_map {times : Request → Nat} (h : ∀ s ∈ plan, times s.request = 1) :
    script times plan = plan.map Step.request := by
  induction plan with
  | nil => rfl
  | cons s plan ih =>
    rw [script_cons, h s List.mem_cons_self, ih fun s' hs' => h s' (List.mem_cons_of_mem s hs')]
    rfl

/-- Numbers of times for a plan with one more step in front. -/
theorem exists_times_cons {s : Step} {n : Nat} (hn : (s :: plan).map Step.request |>.Nodup)
    (h₁ : 1 ≤ n) (h₂ : n ≤ s.more + 1) (times : Request → Nat)
    (ht : ∀ s' ∈ plan, 1 ≤ times s'.request ∧ times s'.request ≤ s'.more + 1) :
    ∃ times' : Request → Nat,
      (∀ s' ∈ s :: plan, 1 ≤ times' s'.request ∧ times' s'.request ≤ s'.more + 1) ∧
      script times' (s :: plan) = List.replicate n s.request ++ script times plan := by
  let times' (r : Request) : Nat := if r = s.request then n else times r
  -- the steps behind have other requests, so that nothing changes for them
  have hs : times' s.request = n := if_pos rfl
  have hp : ∀ s' ∈ plan, times' s'.request = times s'.request := by
    intro s' hs'
    refine if_neg fun he => ?_
    exact (List.nodup_cons.mp hn).1 (List.mem_map.mpr ⟨s', hs', he⟩)
  refine ⟨times', ?_, by rw [script_cons, hs, script_congr hp]⟩
  intro s' hs'
  rcases List.mem_cons.mp hs' with rfl | hs'
  · rw [hs]
    exact ⟨h₁, h₂⟩
  · rw [hp s' hs']
    exact ht s' hs'

/-- **The requests are those of the plan, as far as it got**, each as often as it was tried. -/
theorem requests (h : Follows plan es through) (hn : (plan.map Step.request).Nodup) :
    ∃ times : Request → Nat,
      (∀ s ∈ plan, 1 ≤ times s.request ∧ times s.request ≤ s.more + 1) ∧
      es.map Exchange.request <+: script times plan := by
  have hone : ∀ s : Step, 1 ≤ 1 ∧ 1 ≤ s.more + 1 := fun s => ⟨Nat.le_refl 1, Nat.le_add_left 1 _⟩
  induction h with
  | nil => exact ⟨fun _ => 1, fun s _ => hone s, List.nil_prefix⟩
  | @broken s plan failed last ht _ =>
    obtain ⟨times, hb, he⟩ := exists_times_cons hn (Nat.le_add_left 1 failed.length)
      (Nat.succ_le_succ ht.length_le) (fun _ => 1) fun s _ => hone s
    -- the steps that were not reached count once, which does not matter to a prefix
    refine ⟨times, hb, ?_⟩
    rw [he, ht.map_request]
    exact List.prefix_append _ _
  | @passed s plan failed es last through ht _ _ ih =>
    obtain ⟨times, hb, hpre⟩ := ih (List.nodup_cons.mp hn).2
    obtain ⟨times', hb', he⟩ := exists_times_cons hn (Nat.le_add_left 1 failed.length)
      (Nat.succ_le_succ ht.length_le) times hb
    refine ⟨times', hb', ?_⟩
    rw [he, List.map_append, ht.map_request]
    exact (List.prefix_append_right_inj _).mpr hpre

/--
**A step is given up after its last attempt.** The request of the step at which a plan is broken off
was made as often as the step allows, unless it was answered.
-/
theorem count_request {front back : List Step} {s : Step} {failed : List Exchange}
    {last : Exchange} (h : Follows front es₁ through) (ht : s.Tried failed last)
    (hn : ((front ++ s :: back).map Step.request).Nodup) (hlast : ¬ last.Succeeded) :
    ((es₁ ++ (failed ++ [last])).map Exchange.request).count s.request = s.more + 1 := by
  -- the steps in front make other requests
  have hfront : s.request ∉ es₁.map Exchange.request := by
    intro hmem
    obtain ⟨e, he, hr⟩ := List.mem_map.mp hmem
    obtain ⟨s', hs', hr'⟩ := h.exists_step e he
    rw [List.map_append] at hn
    exact (List.nodup_append.mp hn).2.2 s'.request (List.mem_map_of_mem hs') s.request
      List.mem_cons_self (hr'.symm.trans hr)
  rw [List.map_append, List.count_append, List.count_eq_zero.mpr hfront, ht.map_request,
    List.count_replicate_self, ht.exhausted.resolve_left hlast, Nat.zero_add]

/-! ## Failures -/

/-- A relation that everything but the last round trip has to all others holds of every two. -/
theorem pairwise_concat_of_forall {R : Exchange → Exchange → Prop} {last : Exchange}
    (h : ∀ e ∈ es, ∀ later, R e later) : (es ++ [last]).Pairwise R := by
  refine List.pairwise_append.mpr ⟨?_, List.pairwise_singleton R last, fun e he _ _ => h e he _⟩
  exact List.pairwise_of_forall_mem_list fun e he later _ => h e he later

/-- **A request is only repeated after it failed**, and only where the plan allows for it. -/
theorem pairwise (h : Follows plan es through) (hn : (plan.map Step.request).Nodup) :
    es.Pairwise fun e later => later.request = e.request →
      ¬ e.Succeeded ∧ ∃ s ∈ plan, s.request = e.request ∧ 0 < s.more := by
  have hfailed : ∀ {s : Step} {failed : List Exchange} {last : Exchange}, s.Tried failed last →
      ∀ e ∈ failed, ¬ e.Succeeded ∧ s.request = e.request ∧ 0 < s.more := by
    intro s failed last ht e he
    have hpos : 0 < failed.length := List.length_pos_of_mem he
    exact ⟨(ht.failed e he).2, (ht.failed e he).1.symm, Nat.lt_of_lt_of_le hpos ht.length_le⟩
  induction h with
  | nil => exact List.Pairwise.nil
  | @broken s plan failed last ht _ =>
    refine pairwise_concat_of_forall fun e he _ _ => ?_
    obtain ⟨hf, hr, hm⟩ := hfailed ht e he
    exact ⟨hf, s, List.mem_cons_self, hr, hm⟩
  | @passed s plan failed es last through ht _ h ih =>
    obtain ⟨hs, hn⟩ := List.nodup_cons.mp hn
    refine List.pairwise_append.mpr ⟨?_, (ih hn).imp ?_, ?_⟩
    · refine pairwise_concat_of_forall fun e he _ _ => ?_
      obtain ⟨hf, hr, hm⟩ := hfailed ht e he
      exact ⟨hf, s, List.mem_cons_self, hr, hm⟩
    · intro e later hR he
      obtain ⟨hf, s', hs', hr⟩ := hR he
      exact ⟨hf, s', List.mem_cons_of_mem s hs', hr⟩
    · -- a request of the steps behind is not the one of this step
      intro e he later hlater heq
      obtain ⟨s', hs', hr⟩ := h.exists_step later hlater
      have : s'.request = s.request := by rw [← hr, heq, ht.request_eq e he]
      exact absurd (List.mem_map.mpr ⟨s', hs', this⟩) hs

/-- **After a failure comes nothing but another attempt**, unless the plan tolerates it. -/
theorem isChain (h : Follows plan es through) :
    es.IsChain fun e next => e.Succeeded ∨ next.request = e.request ∨
      ∃ s ∈ plan, s.request = e.request ∧ s.needed = false := by
  have hsame : ∀ {s : Step} {failed : List Exchange} {last : Exchange}, s.Tried failed last →
      (failed ++ [last]).Pairwise fun e next => next.request = e.request := by
    intro s failed last ht
    refine List.pairwise_of_forall_mem_list fun e he next hnext => ?_
    rw [ht.request_eq e he, ht.request_eq next hnext]
  induction h with
  | nil => exact List.isChain_nil
  | broken ht _ => exact (hsame ht).isChain.imp fun _ _ h => .inr (.inl h)
  | @passed s plan failed es last through ht hp h ih =>
    refine List.isChain_append.mpr ⟨?_, ih.imp ?_, ?_⟩
    · exact (hsame ht).isChain.imp fun _ _ h => .inr (.inl h)
    · rintro e next (he | he | ⟨s', hs', hr⟩)
      · exact .inl he
      · exact .inr (.inl he)
      · exact .inr (.inr ⟨s', List.mem_cons_of_mem s hs', hr⟩)
    · -- the next step only comes after this one has passed
      intro e he next _
      rw [List.getLast?_append, List.getLast?_singleton] at he
      obtain rfl : last = e := by simpa using he
      cases hneed : s.needed with
      | true => exact .inl (hp hneed).1
      | false => exact .inr (.inr ⟨s, List.mem_cons_self, ht.request.symm, hneed⟩)

end Follows

end Touchpad
