import Touchpad.Proofs.Hex.Grammar

/-!
# Texts of bytes, and how they are read back

A byte has many spellings: with a mark or without, in digits of either case, with zeros in front.
Each of them is read as the byte, and a text that has one for every byte, with white space between
them, is read as the bytes.

* `Style.spells`: each spelling of a byte is a word of the grammar
* `words_render`: the words of a rendering are the spellings
* `parse_append_gap`: reading goes word by word, also over two texts
* `parse_eq_error_iff`: the word that is reported
-/

namespace Touchpad.Hex

open Text (isBlank words)

variable {c : Char} {ds w : List Char} {marks n v : Nat} {signed : Bool} {text : String}

/-! ## Renderings -/

/-- A run of white space, possibly empty. -/
structure Blanks where
  chars : List Char
  all_blank : ∀ c ∈ chars, isBlank c = true

/-- White space that keeps two words apart. -/
structure Gap extends Blanks where
  ne_nil : chars ≠ []

/--
How a byte is written: whether behind a mark, with how many zeros in front of its digits, and which
of the digits are capital.
-/
structure Style where
  marked : Bool
  zeros : Nat
  capital : Nat → Bool

/-- The digits of a byte. -/
def Style.digits (s : Style) (b : UInt8) : List Char :=
  List.replicate s.zeros '0' ++
    (Nat.toDigits 16 b.toNat).mapIdx fun i c => if s.capital i then c.toUpper else c

/-- The spelling of a byte. -/
def Style.spelling (s : Style) (b : UInt8) : List Char :=
  (if s.marked then ['0', 'x'] else []) ++ s.digits b

/-- A byte with its style, and the white space between it and the byte in front of it. -/
structure Item where
  gap : Gap
  style : Style
  byte : UInt8

/-- The spelling of an item's byte. -/
def Item.spelling (item : Item) : List Char := item.style.spelling item.byte

/-- The text of a row of items. In front of the first one is the opening, and not its gap. -/
def render (opening closing : Blanks) : List Item → List Char
  | [] => opening.chars ++ closing.chars
  | item :: items =>
    opening.chars ++
      (item.spelling ++ (items.flatMap fun i => i.gap.chars ++ i.spelling) ++ closing.chars)

/-! ## Spellings of a byte -/

theorem isDigit_recase (capital : Bool) (hv : v < 16) :
    IsDigit (if capital then (Nat.digitChar v).toUpper else Nat.digitChar v) v := by
  cases capital with
  | false => exact ⟨hv, .inl rfl⟩
  | true => exact ⟨hv, .inr rfl⟩

/-- A byte has one digit or two. -/
theorem toDigits_byte (b : UInt8) :
    (b.toNat < 16 ∧ Nat.toDigits 16 b.toNat = [Nat.digitChar b.toNat]) ∨
      Nat.toDigits 16 b.toNat = [Nat.digitChar (b.toNat / 16), Nat.digitChar (b.toNat % 16)] := by
  by_cases hsmall : b.toNat < 16
  · exact .inl ⟨hsmall, Nat.toDigits_of_lt_base hsmall⟩
  · have hb : b.toNat / 16 < 16 := by
      have := b.toNat_lt
      omega
    right
    rw [Nat.toDigits_eq_if (by decide), if_neg hsmall, Nat.toDigits_of_lt_base hb]
    rfl

/-- Zeros in front change nothing. -/
theorem Denotes.zeros (h : Denotes ds n) (k : Nat) : Denotes (List.replicate k '0' ++ ds) n := by
  induction k with
  | zero => exact h
  | succ k ih =>
    obtain ⟨-, vs, hvs, rfl⟩ := ih
    refine ⟨List.cons_ne_nil _ _, 0 :: vs, .cons (by decide) hvs, ?_⟩
    rw [List.reverse_cons, Nat.ofDigits_append, Nat.ofDigits_singleton, Nat.mul_zero, Nat.add_zero]

/-- In every style the digits of a byte denote it. -/
theorem Style.denotes_digits (s : Style) (b : UInt8) : Denotes (s.digits b) b.toNat := by
  refine Denotes.zeros ?_ s.zeros
  rcases toDigits_byte b with ⟨hsmall, hdigits⟩ | hdigits
  · rw [hdigits]
    exact ⟨List.cons_ne_nil _ _, [b.toNat], .cons (isDigit_recase _ hsmall) .nil,
      Nat.ofDigits_singleton⟩
  · have hhigh : b.toNat / 16 < 16 := by
      have := b.toNat_lt
      omega
    rw [hdigits]
    refine ⟨List.cons_ne_nil _ _, [b.toNat / 16, b.toNat % 16],
      .cons (isDigit_recase _ hhigh) (.cons (isDigit_recase _ (Nat.mod_lt _ (by decide))) .nil), ?_⟩
    rw [List.reverse_cons, List.reverse_singleton, List.singleton_append, Nat.ofDigits_cons,
      Nat.ofDigits_singleton]
    exact Nat.mod_add_div b.toNat 16

/-- **A spelling of a byte spells it.** -/
theorem Style.spells (s : Style) (b : UInt8) :
    Spells (if s.marked then 1 else 0) false (s.spelling b) b.toNat := by
  refine ⟨s.digits b, ?_, s.denotes_digits b⟩
  cases hmarked : s.marked <;> simp [Style.spelling, lead, hmarked]

/-- A byte is read back in whatever style it is spelled. -/
theorem Style.readWord (s : Style) (b : UInt8) : readWord (s.spelling b) = .ok b :=
  readWord_eq_ok_iff.mpr (byte?_eq_some_iff.mpr ⟨_, _, s.spells b⟩)

/-! ## The words of a rendering -/

theorem IsDigit.not_blank (h : IsDigit c v) : isBlank c = false := by
  have hall : ∀ v < 16, isBlank (Nat.digitChar v) = false ∧
      isBlank (Nat.digitChar v).toUpper = false := by decide
  obtain ⟨hv, rfl | rfl⟩ := h
  · exact (hall v hv).1
  · exact (hall v hv).2

theorem not_blank_of_mem_lead (h : c ∈ lead marks signed) : isBlank c = false := by
  have hc : c = '0' ∨ c = 'x' ∨ c = '+' := by
    rw [lead, List.mem_append] at h
    rcases h with h | h
    · obtain ⟨mark, hmark, hc⟩ := List.mem_flatten.mp h
      rw [(List.mem_replicate.mp hmark).2] at hc
      simp only [List.mem_cons, List.not_mem_nil, or_false] at hc
      exact hc.imp_right .inl
    · cases signed with
      | false => cases h
      | true => exact .inr (.inr (List.mem_singleton.mp h))
  rcases hc with rfl | rfl | rfl <;> decide

/-- A word that spells something is one word. -/
theorem Spells.words (h : Spells marks signed w n) : words w = [w] := by
  obtain ⟨ds, rfl, hne, vs, hvs, -⟩ := h
  have hds : (∀ c ∈ ds, isBlank c = false) ∧ List.Forall₂ IsDigit ds vs :=
    (List.forall₂_and_left ds vs).mp (hvs.imp fun _ _ hv => ⟨hv.not_blank, hv⟩)
  refine Text.words_eq_singleton (by simp [hne]) ?_
  intro c hc
  rcases List.mem_append.mp hc with hc | hc
  · exact not_blank_of_mem_lead hc
  · exact hds.1 c hc

/-- The words of a rendering are the spellings of its bytes. -/
theorem words_append_items (first : Item) (items : List Item) (closing : Blanks) :
    words (first.spelling ++ (items.flatMap fun i => i.gap.chars ++ i.spelling) ++ closing.chars) =
      first.spelling :: items.map Item.spelling := by
  have hfirst : words first.spelling = [first.spelling] := (first.style.spells first.byte).words
  induction items generalizing first with
  | nil =>
    rw [List.flatMap_nil, List.append_nil, Text.words_append_blanks closing.all_blank, hfirst]
    rfl
  | cons item items ih =>
    have hitem := ih item (item.style.spells item.byte).words
    rw [List.append_assoc] at hitem
    rw [List.flatMap_cons, List.append_assoc, List.append_assoc, List.append_assoc,
      ← List.append_assoc, Text.words_append_gap item.gap.ne_nil item.gap.all_blank, hfirst, hitem]
    rfl

/-- **The words of a rendering** are the spellings of its bytes. -/
theorem words_render (opening closing : Blanks) (items : List Item) :
    words (render opening closing items) = items.map Item.spelling := by
  cases items with
  | nil => rw [render, Text.words_append_blanks closing.all_blank, ← List.append_nil opening.chars,
      Text.words_blank_append opening.all_blank, Text.words_nil, List.map_nil]
  | cons item items =>
    rw [render, Text.words_blank_append opening.all_blank, words_append_items]
    rfl

/-- **What is written is read back.** -/
theorem parse_render (opening closing : Blanks) (items : List Item) :
    parse (String.ofList (render opening closing items)) = .ok (items.map Item.byte) := by
  rw [parse, String.toList_ofList, words_render, mapM_eq_ok_iff, List.forall₂_map_left_iff,
    List.forall₂_map_right_iff, List.forall₂_same]
  intro item _
  exact item.style.readWord item.byte

/-! ## Word by word -/

/-- **Two texts with white space between them** are read one after the other. -/
theorem parse_append_gap (gap : Gap) (a b : String) :
    parse (a ++ String.ofList gap.chars ++ b) = do
      let front ← parse a
      let back ← parse b
      return front ++ back := by
  rw [parse, String.toList_append, String.toList_append, String.toList_ofList,
    Text.words_append_gap gap.ne_nil gap.all_blank, List.mapM_append]
  rfl

/-- A word of a text can be read on its own. -/
theorem parse_word (h : w ∈ words text.toList) :
    parse (String.ofList w) = (readWord w).map fun b => [b] := by
  obtain ⟨hne, hdark⟩ := Text.not_blank_of_mem_words h
  rw [parse, String.toList_ofList, Text.words_eq_singleton hne hdark]
  cases hw : Hex.readWord w <;> simp [bind, Except.bind, pure, Except.pure, Except.map, hw]

/-- A word that is not read is the one that the error names. -/
theorem readWord_eq_error_iff {e : InvalidWord} :
    readWord w = .error e ↔ (∀ b, readWord w ≠ .ok b) ∧ String.ofList w = e.word := by
  obtain ⟨word⟩ := e
  rw [readWord]
  cases byte? w <;> simp

/-- Reading one by one stops at the first that cannot be read. -/
theorem mapM_eq_error_iff {α β ε : Type} {f : α → Except ε β} {xs : List α} {e : ε} :
    xs.mapM f = .error e ↔
      ∃ before x after, xs = before ++ x :: after ∧ (∀ u ∈ before, ∃ y, f u = .ok y) ∧
        f x = .error e := by
  constructor
  · intro h
    induction xs with
    | nil => cases h
    | cons x xs ih =>
      rw [List.mapM_cons] at h
      cases hx : f x with
      | error e' =>
        rw [hx] at h
        cases h
        exact ⟨[], x, xs, rfl, by simp, hx⟩
      | ok y =>
        cases hxs : xs.mapM f with
        | ok ys =>
          rw [hx, hxs] at h
          cases h
        | error e' =>
          rw [hx, hxs] at h
          cases h
          obtain ⟨before, x', after, rfl, hbefore, hx'⟩ := ih hxs
          exact ⟨x :: before, x', after, rfl, List.forall_mem_cons.mpr ⟨⟨y, hx⟩, hbefore⟩, hx'⟩
  · rintro ⟨before, x, after, rfl, hbefore, hx⟩
    induction before with
    | nil =>
      rw [List.nil_append, List.mapM_cons, hx]
      rfl
    | cons u before ih =>
      obtain ⟨⟨y, hu⟩, hrest⟩ := List.forall_mem_cons.mp hbefore
      rw [List.cons_append, List.mapM_cons, hu, ih hrest]
      rfl

/-- **The word that is reported** is the first one of the text that cannot be read on its own. -/
theorem parse_eq_error_iff {e : InvalidWord} :
    parse text = .error e ↔
      ∃ before after, words text.toList = before ++ e.word.toList :: after ∧
        (∀ u ∈ before, ∃ b, parse (String.ofList u) = .ok [b]) ∧
        ∀ bs, parse e.word ≠ .ok bs := by
  -- a word of the text is read by itself as it is read in the text
  have hok : ∀ u ∈ words text.toList, ∀ b,
      parse (String.ofList u) = .ok [b] ↔ readWord u = .ok b := by
    intro u hu b
    rw [parse_word hu]
    cases readWord u <;> simp [Except.map]
  have hbad : ∀ u ∈ words text.toList,
      (∀ bs, parse (String.ofList u) ≠ .ok bs) ↔ ∀ b, readWord u ≠ .ok b := by
    intro u hu
    rw [parse_word hu]
    cases readWord u <;> simp [Except.map]
  constructor
  · intro h
    obtain ⟨before, x, after, hwords, hbefore, hx⟩ := mapM_eq_error_iff.mp h
    obtain ⟨hx, hword⟩ := readWord_eq_error_iff.mp hx
    refine ⟨before, after, ?_, ?_, ?_⟩
    · rw [hwords, ← hword, String.toList_ofList]
    · intro u hu
      obtain ⟨b, hb⟩ := hbefore u hu
      exact ⟨b, (hok u (by simp [hwords, hu]) b).mpr hb⟩
    · rw [← hword]
      exact (hbad x (by simp [hwords])).mpr hx
  · rintro ⟨before, after, hwords, hbefore, hbad'⟩
    refine mapM_eq_error_iff.mpr ⟨before, e.word.toList, after, hwords, ?_, ?_⟩
    · intro u hu
      obtain ⟨b, hb⟩ := hbefore u hu
      exact ⟨b, (hok u (by simp [hwords, hu]) b).mp hb⟩
    · rw [← String.ofList_toList (s := e.word)] at hbad'
      exact readWord_eq_error_iff.mpr
        ⟨(hbad _ (by simp [hwords])).mp hbad', String.ofList_toList⟩

/--
**Reading inverts writing, word by word.** Every rendering of some bytes is read as these bytes,
whatever the spellings and the white space. Two texts with white space between them are read one
after the other: the bytes are those of both, and the fault is the one of the first text if it has
one and otherwise that of the second. So a fault is the first word of the text, as it stands, that
cannot be read on its own.
-/
theorem rendering_law :
    (∀ (opening closing : Blanks) (items : List Item),
      parse (String.ofList (render opening closing items)) = .ok (items.map Item.byte)) ∧
    (∀ (gap : Gap) (a b : String),
      parse (a ++ String.ofList gap.chars ++ b) =
        match parse a, parse b with
        | .ok front, .ok back => .ok (front ++ back)
        | .error e, _ => .error e
        | .ok _, .error e => .error e) ∧
    ∀ (text : String) (e : InvalidWord),
      parse text = .error e ↔
        ∃ before after, words text.toList = before ++ e.word.toList :: after ∧
          (∀ u ∈ before, ∃ b, parse (String.ofList u) = .ok [b]) ∧
          ∀ bs, parse e.word ≠ .ok bs := by
  refine ⟨parse_render, ?_, fun text e => parse_eq_error_iff⟩
  intro gap a b
  rw [parse_append_gap]
  cases parse a <;> cases parse b <;> rfl

end Touchpad.Hex
