import Mathlib.Data.List.Forall2
import Mathlib.Data.Nat.Digits.Defs
import Touchpad.Hex.Parser
import Touchpad.Proofs.Text.Words

/-!
# The grammar of hexadecimal text

What a text of bytes is, said without the reader: each word is a row of digits behind any number of
marks `0x` and an optional plus sign, and the digits denote a number below 256. The reader accepts
these texts and no others, and each byte is the number of its word.

* `digit?_eq_some_iff`, `number?_eq_some_iff`, `byte?_eq_some_iff`: one digit, a row of digits, a
  word
* `Spells.unique`: no word can be read in two ways
* `parse_law`: the texts that are read, and their bytes

One mark and no sign is what the format promises. The reader takes more than that
(`parse_is_lenient`).
-/

namespace Touchpad.Hex

open Text (IsWord words)

variable {c : Char} {ds word : List Char} {marks marks' n n' v : Nat} {signed signed' : Bool}

/-! ## Digits -/

/-- Whether a character is the digit of a value, in either case. -/
def IsDigit (c : Char) (v : Nat) : Prop :=
  v < 16 ∧ (c = Nat.digitChar v ∨ c = (Nat.digitChar v).toUpper)

instance : Decidable (IsDigit c v) := inferInstanceAs (Decidable (_ ∧ _))

theorem IsDigit.digit? (h : IsDigit c v) : digit? c = some v := by
  have hall : ∀ v < 16, Hex.digit? (Nat.digitChar v) = some v ∧
      Hex.digit? (Nat.digitChar v).toUpper = some v := by decide
  obtain ⟨hv, rfl | rfl⟩ := h
  · exact (hall v hv).1
  · exact (hall v hv).2

/-- No character behind the letter `f` is a digit. -/
theorem toNat_lt_of_digit? (h : digit? c = some v) : c.toNat < 103 := by
  by_contra hc
  have hnot : ∀ d : Char, d.toNat < 103 → ¬ c ≤ d := by
    intro d hd hle
    have hnat : c.toNat ≤ d.toNat := UInt32.le_iff_toNat_le.mp (Char.le_def.mp hle)
    omega
  simp [digit?, hnot] at h

/-- Whatever is read as a digit is one. -/
theorem digit?_eq_some_iff : digit? c = some v ↔ IsDigit c v := by
  constructor
  · intro h
    have hall : ∀ n < 103, ∀ v ∈ digit? (Char.ofNat n), IsDigit (Char.ofNat n) v := by decide
    have hc := hall c.toNat (toNat_lt_of_digit? h) v
    rw [Char.ofNat_toNat] at hc
    exact hc h
  · exact IsDigit.digit?

/-- Digits are neither signs nor the second character of a mark. -/
theorem IsDigit.ne (h : IsDigit c v) : c ≠ '+' ∧ c ≠ 'x' := by
  constructor
  · rintro rfl
    cases h.digit?
  · rintro rfl
    cases h.digit?

/-! ## Numbers -/

/--
Whether a row of digits denotes a number. There is at least one digit, and zeros may stand in
front.
-/
def Denotes (ds : List Char) (n : Nat) : Prop :=
  ds ≠ [] ∧ ∃ vs, List.Forall₂ IsDigit ds vs ∧ Nat.ofDigits 16 vs.reverse = n

/-- Reading on behind digits that have been read. -/
theorem foldlM_digit?_eq_some_iff {read : Nat} :
    ds.foldlM (fun n c => (digit? c).map fun d => n * 16 + d) read = some n ↔
      ∃ vs, List.Forall₂ IsDigit ds vs ∧
        read * 16 ^ vs.length + Nat.ofDigits 16 vs.reverse = n := by
  induction ds generalizing read with
  | nil => simp
  | cons c ds ih =>
    simp only [List.foldlM_cons, Option.bind_eq_bind, Option.bind_eq_some_iff,
      Option.map_eq_some_iff, digit?_eq_some_iff, ih]
    constructor
    · rintro ⟨_, ⟨v, hv, rfl⟩, vs, hvs, rfl⟩
      refine ⟨v :: vs, .cons hv hvs, ?_⟩
      rw [List.reverse_cons, Nat.ofDigits_append, Nat.ofDigits_singleton, List.length_reverse,
        List.length_cons]
      ring
    · rintro ⟨vs, hvs, rfl⟩
      obtain ⟨v, vs, hv, hrest, rfl⟩ := List.forall₂_cons_left_iff.mp hvs
      refine ⟨read * 16 + v, ⟨v, hv, rfl⟩, vs, hrest, ?_⟩
      rw [List.reverse_cons, Nat.ofDigits_append, Nat.ofDigits_singleton, List.length_reverse,
        List.length_cons]
      ring

/-- Digits are read as the number that they denote. -/
theorem number?_eq_some_iff : number? digit? 16 ds = some n ↔ Denotes ds n := by
  cases ds with
  | nil => simp [number?, Denotes]
  | cons c ds =>
    rw [number?, foldlM_digit?_eq_some_iff]
    · simp [Denotes]
    · exact List.cons_ne_nil c ds

/-- A number starts with a digit. -/
theorem Denotes.exists_cons (h : Denotes ds n) : ∃ c rest v, ds = c :: rest ∧ IsDigit c v := by
  obtain ⟨hne, vs, hvs, -⟩ := h
  cases hvs with
  | nil => exact absurd rfl hne
  | cons hv _ => exact ⟨_, _, _, rfl, hv⟩

/-! ## Marks and the sign -/

/-- A number of marks, and the sign behind them. -/
def lead (marks : Nat) (signed : Bool) : List Char :=
  (List.replicate marks ['0', 'x']).flatten ++ if signed then ['+'] else []

/-- Whether a word spells a number, with the given number of marks and with or without the sign. -/
def Spells (marks : Nat) (signed : Bool) (word : List Char) (n : Nat) : Prop :=
  ∃ ds, word = lead marks signed ++ ds ∧ Denotes ds n

theorem lead_succ_append (marks : Nat) (signed : Bool) (cs : List Char) :
    lead (marks + 1) signed ++ cs = '0' :: 'x' :: (lead marks signed ++ cs) := by
  simp [lead, List.replicate_succ]

theorem lead_zero_inj : ∀ {signed signed' : Bool}, lead 0 signed = lead 0 signed' →
    signed = signed' := by
  decide

/-- Behind all the marks no other mark stands. -/
theorem Denotes.not_marked (h : Denotes ds n) (rest : List Char) :
    lead 0 signed ++ ds ≠ '0' :: 'x' :: rest := by
  obtain ⟨-, vs, hvs, -⟩ := h
  intro heq
  cases signed with
  | true => cases heq
  | false =>
    obtain rfl : ds = '0' :: 'x' :: rest := heq
    cases hvs with
    | cons _ hvs =>
      cases hvs with
      | cons hx _ => exact hx.ne.2 rfl

/-- All marks in front of digits are dropped, and a sign behind them stays. -/
theorem dropMarks_lead (h : Denotes ds n) :
    dropMarks (lead marks signed ++ ds) = lead 0 signed ++ ds := by
  induction marks with
  | zero =>
    rw [dropMarks]
    exact h.not_marked
  | succ marks ih => rw [lead_succ_append, dropMarks, ih]

theorem dropPlus_lead (h : Denotes ds n) : dropPlus (lead 0 signed ++ ds) = ds := by
  cases signed with
  | true => rfl
  | false =>
    obtain ⟨c, rest, v, rfl, hv⟩ := h.exists_cons
    simp only [lead, List.replicate_zero, List.flatten_nil, Bool.false_eq_true, if_false,
      List.nil_append]
    rw [dropPlus]
    rintro cs heq
    cases heq
    exact hv.ne.1 rfl

/-- What the reader takes off a word are marks and a sign. -/
theorem exists_lead (word : List Char) :
    ∃ marks signed, word = lead marks signed ++ dropPlus (dropMarks word) := by
  fun_induction dropMarks word with
  | case1 cs ih =>
    obtain ⟨marks, signed, h⟩ := ih
    exact ⟨marks + 1, signed, by rw [lead_succ_append, ← h]⟩
  | case2 cs =>
    fun_cases dropPlus cs with
    | case1 cs => exact ⟨0, true, rfl⟩
    | case2 => exact ⟨0, false, rfl⟩

/-- **No word can be read in two ways**: not as two numbers, and not with other marks or signs. -/
theorem Spells.unique (h : Spells marks signed word n) (h' : Spells marks' signed' word n') :
    marks = marks' ∧ signed = signed' ∧ n = n' := by
  obtain ⟨ds, rfl, hds⟩ := h
  obtain ⟨ds', heq, hds'⟩ := h'
  induction marks generalizing marks' with
  | zero =>
    cases marks' with
    | zero =>
      have hrest : ds = ds' := by
        rw [← dropPlus_lead hds, ← dropPlus_lead hds', heq]
      subst hrest
      have hn := (number?_eq_some_iff.mpr hds).symm.trans (number?_eq_some_iff.mpr hds')
      exact ⟨rfl, lead_zero_inj (List.append_cancel_right heq), Option.some.inj hn⟩
    | succ marks' =>
      rw [lead_succ_append] at heq
      exact absurd heq (hds.not_marked _)
  | succ marks ih =>
    rw [lead_succ_append] at heq
    cases marks' with
    | zero => exact absurd heq.symm (hds'.not_marked _)
    | succ marks' =>
      rw [lead_succ_append] at heq
      obtain ⟨hmarks, hrest⟩ := ih (by simpa using heq)
      exact ⟨congrArg (· + 1) hmarks, hrest⟩

/-! ## Words -/

/-- **A word is read** as the byte that it spells. -/
theorem byte?_eq_some_iff {b : UInt8} :
    byte? word = some b ↔ ∃ marks signed, Spells marks signed word b.toNat := by
  simp only [byte?, Option.bind_eq_bind, Option.bind_eq_some_iff]
  constructor
  · rintro ⟨n, hn, hb⟩
    split at hb
    case isFalse => cases hb
    case isTrue hlt =>
      obtain rfl : UInt8.ofNat n = b := Option.some.inj hb
      obtain ⟨marks, signed, hword⟩ := exists_lead word
      refine ⟨marks, signed, _, hword, ?_⟩
      rw [UInt8.toNat_ofNat_of_lt' hlt]
      exact number?_eq_some_iff.mp hn
  · rintro ⟨marks, signed, ds, rfl, hds⟩
    refine ⟨b.toNat, ?_, ?_⟩
    · rw [dropMarks_lead hds, dropPlus_lead hds]
      exact number?_eq_some_iff.mpr hds
    · rw [if_pos b.toNat_lt, UInt8.ofNat_toNat]

/-- A word is read if it is a byte. -/
theorem readWord_eq_ok_iff {b : UInt8} : readWord word = .ok b ↔ byte? word = some b := by
  rw [readWord]
  cases byte? word with
  | none => simp
  | some b' => simp

/-! ## Texts -/

/-- Reading one by one succeeds if each can be read. -/
theorem mapM_eq_ok_iff {α β ε : Type} {f : α → Except ε β} {xs : List α} {ys : List β} :
    xs.mapM f = .ok ys ↔ xs.Forall₂ (fun x y => f x = .ok y) ys := by
  induction xs generalizing ys with
  | nil => simp [pure, Except.pure, eq_comm]
  | cons x xs ih =>
    rw [List.mapM_cons, List.forall₂_cons_left_iff]
    cases hx : f x with
    | error e => simp [bind, Except.bind]
    | ok y =>
      cases hxs : xs.mapM f with
      | error e => simp [bind, Except.bind, ← ih, hxs]
      | ok ys' => simp [bind, Except.bind, pure, Except.pure, ← ih, hxs, eq_comm]

/-- **A text is read** if each of its words spells a byte. -/
theorem parse_eq_ok_iff {text : String} {bs : List UInt8} :
    parse text = .ok bs ↔
      (words text.toList).Forall₂ (fun word b => ∃ marks signed, Spells marks signed word b.toNat)
        bs := by
  simp only [parse, mapM_eq_ok_iff, readWord_eq_ok_iff, byte?_eq_some_iff]

/-- A row of words can be read if each of them spells a byte. -/
theorem exists_forall₂_spells_iff {ws : List (List Char)} :
    (∃ bs : List UInt8, ws.Forall₂ (fun word b => ∃ marks signed, Spells marks signed word b.toNat)
        bs) ↔
      ∀ word ∈ ws, ∃ marks signed n, n ≤ 255 ∧ Spells marks signed word n := by
  induction ws with
  | nil => exact ⟨fun _ _ hword => absurd hword List.not_mem_nil, fun _ => ⟨[], .nil⟩⟩
  | cons w ws ih =>
    rw [List.forall_mem_cons, ← ih]
    constructor
    · rintro ⟨_, _ | ⟨⟨marks, signed, hw⟩, hws⟩⟩
      exact ⟨⟨marks, signed, _, Nat.le_of_lt_succ (UInt8.toNat_lt _), hw⟩, _, hws⟩
    · rintro ⟨⟨marks, signed, n, hn, hw⟩, bs, hws⟩
      refine ⟨UInt8.ofNat n :: bs, .cons ⟨marks, signed, ?_⟩ hws⟩
      rwa [UInt8.toNat_ofNat_of_lt' (Nat.lt_succ_of_le hn)]

/--
**The grammar of hexadecimal text.** A text is read as some bytes if its words spell them, one each.
There are such bytes if and only if every word of the text, which is what stands between white space
or an end on both sides, is a row of digits behind marks and a sign that denotes at most 255.
-/
theorem parse_law (text : String) :
    (∀ bs, parse text = .ok bs ↔
      (words text.toList).Forall₂ (fun word b => ∃ marks signed, Spells marks signed word b.toNat)
        bs) ∧
    ((∃ bs, parse text = .ok bs) ↔
      ∀ word, IsWord text.toList word →
        ∃ marks signed n, n ≤ 255 ∧ Spells marks signed word n) := by
  refine ⟨fun bs => parse_eq_ok_iff, ?_⟩
  simp only [parse_eq_ok_iff, exists_forall₂_spells_iff, Text.mem_words_iff]

/-- More than one mark, and a sign, are read although the format promises neither. -/
theorem parse_is_lenient :
    (parse "0x0x3c" = .ok [0x3c] ∧ IsWord "0x0x3c".toList "0x0x3c".toList ∧
      ¬ ∃ marks ≤ 1, ∃ n ≤ 255, Spells marks false "0x0x3c".toList n) ∧
    (parse "+3c" = .ok [0x3c] ∧ IsWord "+3c".toList "+3c".toList ∧
      ¬ ∃ marks ≤ 1, ∃ n ≤ 255, Spells marks false "+3c".toList n) := by
  have hds : Denotes ['3', 'c'] 0x3c := number?_eq_some_iff.mp rfl
  have htwice : Spells 2 false "0x0x3c".toList 0x3c := ⟨['3', 'c'], rfl, hds⟩
  have hsigned : Spells 0 true "+3c".toList 0x3c := ⟨['3', 'c'], rfl, hds⟩
  refine ⟨⟨by decide, Text.mem_words_iff.mp (by decide), ?_⟩,
    ⟨by decide, Text.mem_words_iff.mp (by decide), ?_⟩⟩
  · rintro ⟨marks, hmarks, n, -, h⟩
    have heq : marks = 2 := (h.unique htwice).1
    omega
  · rintro ⟨marks, -, n, -, h⟩
    cases (h.unique hsigned).2.1

end Touchpad.Hex
