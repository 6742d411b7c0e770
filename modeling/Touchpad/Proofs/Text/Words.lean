import Touchpad.Text.Blank

/-!
# The words of a text

A text is cut at its white space. Nothing that stands between two words can reach into them, so the
words of two texts with white space between them are the words of the one and then those of the
other.

* `words_append_gap`: two texts with white space between them
* `words_eq_singleton`: a text without white space is a word
* `IsWord`, `mem_words_iff`: what a word is, said without the cutting
-/

namespace Touchpad.Text

variable {c : Char} {cs ds gap word : List Char}

/-! ## Cutting -/

/-- The pieces of a text are what it is split into at its white space. -/
theorem pieces_eq_splitOnP (cs : List Char) : pieces cs = cs.splitOnP isBlank := by
  induction cs with
  | nil => rfl
  | cons c cs ih =>
    rw [pieces, ih, List.splitOnP_cons_eq_if_modifyHead]
    obtain ⟨p, ps, hps⟩ := List.exists_cons_of_ne_nil (List.splitOnP_ne_nil isBlank cs)
    rw [hps]
    rfl

/-- A blank parts the words in front of it from those behind it. -/
theorem words_append_blank (h : isBlank c = true) (cs ds : List Char) :
    words (cs ++ c :: ds) = words cs ++ words ds := by
  simp only [words, pieces_eq_splitOnP]
  rw [List.splitOnP_append_cons cs ds h, List.filter_append]

/-- White space in front of a text does not matter. -/
theorem words_blank_append (h : ∀ c ∈ gap, isBlank c = true) (cs : List Char) :
    words (gap ++ cs) = words cs := by
  induction gap with
  | nil => rfl
  | cons c gap ih =>
    have hc : isBlank c = true := h c List.mem_cons_self
    rw [List.cons_append, ← List.nil_append (c :: (gap ++ cs)), words_append_blank hc,
      ih fun d hd => h d (List.mem_cons_of_mem c hd)]
    rfl

/-- **White space between two texts** keeps their words apart. -/
theorem words_append_gap (hne : gap ≠ []) (h : ∀ c ∈ gap, isBlank c = true) (cs ds : List Char) :
    words (cs ++ gap ++ ds) = words cs ++ words ds := by
  obtain ⟨c, gap, rfl⟩ := List.exists_cons_of_ne_nil hne
  rw [List.append_assoc, List.cons_append, words_append_blank (h c List.mem_cons_self),
    words_blank_append fun d hd => h d (List.mem_cons_of_mem c hd)]

theorem words_append_blanks (h : ∀ c ∈ gap, isBlank c = true) (cs : List Char) :
    words (cs ++ gap) = words cs := by
  by_cases hne : gap = []
  · rw [hne, List.append_nil]
  · have hgap := words_append_gap hne h cs []
    rwa [List.append_nil, words_nil, List.append_nil] at hgap

/-! ## Single words -/

/-- **A text without white space is a word.** -/
theorem words_eq_singleton (hne : word ≠ []) (h : ∀ c ∈ word, isBlank c = false) :
    words word = [word] := by
  rw [words, pieces_eq_splitOnP, List.splitOnP_eq_singleton h]
  simp [hne]

/-- A text has no white space, or it can be cut at the first. -/
theorem exists_first_blank (cs : List Char) :
    (∀ c ∈ cs, isBlank c = false) ∨
      ∃ front c rest, cs = front ++ c :: rest ∧ (∀ d ∈ front, isBlank d = false) ∧
        isBlank c = true := by
  cases hfind : cs.find? isBlank with
  | none =>
    left
    simpa using hfind
  | some c =>
    right
    obtain ⟨hc, front, rest, rfl, hfront⟩ := List.find?_eq_some_iff_append.mp hfind
    exact ⟨front, c, rest, rfl, by simpa using hfront, hc⟩

/-! ## What a word is -/

/-- Whether a word stands between two parts of a text: white space or an end is on both sides. -/
structure Delimited (before word after : List Char) : Prop where
  ne_nil : word ≠ []
  not_blank : ∀ c ∈ word, isBlank c = false
  front : ∀ c, before.getLast? = some c → isBlank c = true
  back : ∀ c, after.head? = some c → isBlank c = true

/-- Whether a text has a word. -/
def IsWord (text word : List Char) : Prop :=
  ∃ before after, text = before ++ word ++ after ∧ Delimited before word after

/-- What is delimited by blanks is a word. -/
theorem Delimited.mem_words {before after : List Char} (h : Delimited before word after) :
    word ∈ words (before ++ word ++ after) := by
  have hword : words word = [word] := words_eq_singleton h.ne_nil h.not_blank
  have hfront : ∀ cs, words (before ++ cs) = words before ++ words cs := by
    intro cs
    rcases List.eq_nil_or_concat before with rfl | ⟨before, c, rfl⟩
    · rfl
    · rw [List.concat_eq_append] at h ⊢
      have hc : isBlank c = true := h.front c (by simp)
      rw [List.append_assoc, List.singleton_append, words_append_blank hc,
        words_append_blank hc, words_nil, List.append_nil]
  have hback : words (word ++ after) = words word ++ words after := by
    cases after with
    | nil => simp [words_nil]
    | cons c after =>
      have hc : isBlank c = true := h.back c rfl
      rw [words_append_blank hc, ← List.nil_append (c :: after), words_append_blank hc]
      rfl
  rw [List.append_assoc, hfront, hback, hword]
  simp

/-- One more piece of text in front takes no word away. -/
theorem IsWord.prepend {text : List Char} (h : IsWord text word) (front : List Char)
    (hc : isBlank c = true) : IsWord (front ++ c :: text) word := by
  obtain ⟨before, after, rfl, hword⟩ := h
  refine ⟨front ++ c :: before, after, by simp, hword.ne_nil, hword.not_blank, ?_, hword.back⟩
  intro d hd
  cases before with
  | nil =>
    obtain rfl : c = d := by simpa using hd
    exact hc
  | cons b before =>
    have hlast : (front ++ c :: b :: before).getLast? = (b :: before).getLast? := by
      rw [List.getLast?_append, List.getLast?_cons_cons, List.getLast?_cons, Option.some_or]
    rw [hlast] at hd
    exact hword.front d hd

/-- **The words of a text** are its runs of characters between white space. -/
theorem mem_words_iff {text : List Char} : word ∈ words text ↔ IsWord text word := by
  constructor
  · intro h
    -- word by word: what stands in front of the first white space, and then the rest
    induction hn : text.length using Nat.strongRecOn generalizing text with
    | _ n ih =>
      rcases exists_first_blank text with hdark | ⟨front, c, rest, rfl, hdark, hc⟩
      · by_cases hne : text = []
        · rw [hne, words_nil] at h
          cases h
        · rw [words_eq_singleton hne hdark, List.mem_singleton] at h
          subst h
          exact ⟨[], [], by simp, hne, hdark, by simp, by simp⟩
      · rw [words_append_blank hc, List.mem_append] at h
        rcases h with h | h
        · by_cases hne : front = []
          · rw [hne, words_nil] at h
            cases h
          · rw [words_eq_singleton hne hdark, List.mem_singleton] at h
            subst h
            exact ⟨[], c :: rest, by simp, hne, hdark, by simp, by simpa using hc⟩
        · have hlt : rest.length < n := by
            rw [← hn, List.length_append, List.length_cons]
            omega
          exact (ih rest.length hlt h rfl).prepend front hc
  · rintro ⟨before, after, rfl, hword⟩
    exact hword.mem_words

/-- Words have characters, and none of them is white space. -/
theorem not_blank_of_mem_words {text : List Char} (h : word ∈ words text) :
    word ≠ [] ∧ ∀ c ∈ word, isBlank c = false := by
  obtain ⟨before, after, -, hword⟩ := mem_words_iff.mp h
  exact ⟨hword.ne_nil, hword.not_blank⟩

end Touchpad.Text
