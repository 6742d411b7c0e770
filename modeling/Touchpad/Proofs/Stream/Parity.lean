import Touchpad.Proofs.Stream.Layout
import Touchpad.Stream.ParityTable

/-!
# Parity detects single wrong bits

A parity bit is worked out by taking one one after the other away from its byte, and a packet with a
wrong bit has a byte whose number of ones does not fit. Both come down to the same fact: where two
numbers differ in a single bit, one of them has an even number of ones and the other has not.

* `countP_ne_of_differAt`: that fact
* `bit_eq`: what a parity bit says about the number of ones
* `Table.get_full`: the table has the parity bits of all bytes
* `parity_law`: which packets are accepted, and which changes to a packet are noticed
-/

namespace Touchpad.Parity

/-! ## Numbers of ones -/

/-- How many bits of a byte are set. -/
def ones (b : UInt8) : Nat := (List.range 8).countP b.toNat.testBit

/-- Whether two rows of bits differ at one place only. -/
structure DifferAt (p q : Nat → Bool) (i : Nat) : Prop where
  here : p i = !q i
  elsewhere : ∀ j, j ≠ i → p j = q j

theorem countP_eq_of_below {p q : Nat → Bool} {w : Nat} (h : ∀ j < w, p j = q j) :
    (List.range w).countP p = (List.range w).countP q :=
  List.countP_congr fun j hj => by rw [h j (List.mem_range.mp hj)]

/-- **Where two rows differ at one place**, one has an even number of ones and the other has not. -/
theorem countP_ne_of_differAt {p q : Nat → Bool} {i w : Nat} (h : DifferAt p q i) (hi : i < w) :
    (List.range w).countP p % 2 ≠ (List.range w).countP q % 2 := by
  induction w with
  | zero => cases hi
  | succ w ih =>
    have hrange (f : Nat → Bool) :
        (List.range (w + 1)).countP f = (List.range w).countP f + (f w).toNat := by
      rw [List.range_succ, List.countP_append, List.countP_singleton]
      cases f w <;> rfl
    rw [hrange, hrange]
    rcases Nat.lt_succ_iff_lt_or_eq.mp hi with hlt | rfl
    · have hw := h.elsewhere w (Nat.ne_of_gt hlt)
      have hcount := ih hlt
      rw [hw]
      omega
    · have hbelow := countP_eq_of_below fun j hj => h.elsewhere j (Nat.ne_of_lt hj)
      rw [hbelow, h.here]
      cases q i <;> simp <;> omega

/-! ## The parity bit -/

/-- Of an even number the lowest one is that of its half. -/
theorem testBit_and_pred_succ {n : Nat} (heven : n % 2 = 0) (h : 0 < n) (j : Nat) :
    (n &&& (n - 1)).testBit (j + 1) = (n / 2 &&& (n / 2 - 1)).testBit j := by
  have hhalf : (n - 1) / 2 = n / 2 - 1 := by omega
  rw [Nat.testBit_and, Nat.testBit_succ, Nat.testBit_succ, hhalf, ← Nat.testBit_and]

/-- A number without its lowest one differs from it at that place only. -/
theorem exists_differAt_and_pred {n : Nat} (h : 0 < n) :
    ∃ i, n.testBit i = true ∧ DifferAt n.testBit (n &&& (n - 1)).testBit i := by
  induction n using Nat.strongRecOn with
  | ind n ih =>
    rcases Nat.mod_two_eq_zero_or_one n with heven | hodd
    · -- the lowest one is that of the half
      obtain ⟨i, hi, hdiffer⟩ := ih (n / 2) (by omega) (by omega)
      refine ⟨i + 1, by rwa [Nat.testBit_succ], ?_, ?_⟩
      · rw [testBit_and_pred_succ heven h, Nat.testBit_succ]
        exact hdiffer.here
      · intro j hj
        cases j with
        | zero => simp [Nat.testBit_zero, heven]
        | succ j =>
          rw [testBit_and_pred_succ heven h, Nat.testBit_succ]
          exact hdiffer.elsewhere j (by omega)
    · have hhalf : (n - 1) / 2 = n / 2 := by omega
      refine ⟨0, by simp [Nat.testBit_zero, hodd], ?_, ?_⟩
      · have hpred : (n - 1) % 2 = 0 := by omega
        simp [Nat.testBit_zero, hodd, hpred]
      · intro j hj
        obtain ⟨j, rfl⟩ := Nat.exists_eq_succ_of_ne_zero hj
        rw [Nat.testBit_and, Nat.testBit_succ, Nat.testBit_succ, hhalf, Bool.and_self]

theorem lt_of_testBit {n i : Nat} (hn : n < 256) (h : n.testBit i = true) : i < 8 := by
  refine Nat.lt_of_not_le fun hi => ?_
  have hpow : 2 ^ 8 ≤ 2 ^ i := Nat.pow_le_pow_right (by decide) hi
  rw [Nat.testBit_lt_two_pow (Nat.lt_of_lt_of_le hn hpow)] at h
  cases h

/-- **Taking ones away one by one** tells whether their number is even. -/
theorem evenOnes_eq {n : Nat} (h : n < 256) :
    evenOnes n = decide ((List.range 8).countP n.testBit % 2 = 0) := by
  induction n using Nat.strongRecOn with
  | ind n ih =>
    rcases Nat.eq_zero_or_pos n with rfl | hpos
    · rw [evenOnes]
      rfl
    · obtain ⟨i, hi, hdiffer⟩ := exists_differAt_and_pred hpos
      have hle : n &&& (n - 1) ≤ n - 1 := Nat.and_le_right
      have hcount := countP_ne_of_differAt hdiffer (lt_of_testBit h hi)
      rw [evenOnes, if_neg (Nat.ne_of_gt hpos), ih _ (by omega) (by omega), ← decide_not,
        decide_eq_decide]
      omega

/-- The parity bit of a byte tells whether its ones are even in number. -/
theorem bit_eq (b : UInt8) : bit b = decide (ones b % 2 = 0) := evenOnes_eq b.toNat_lt

/-- A parity bit fits its byte if both together have an odd number of ones. -/
theorem bit_beq_iff {b : UInt8} {p : Bool} : (bit b == p) = true ↔ (ones b + p.toNat) % 2 = 1 := by
  rw [bit_eq, beq_iff_eq]
  cases p with
  | false =>
    rw [Bool.toNat_false, decide_eq_false_iff_not]
    omega
  | true =>
    rw [Bool.toNat_true, decide_eq_true_iff]
    omega

/-! ## The table -/

namespace Table

/-- An entry is the one of the number without its lowest one, turned over. -/
theorem get_enter_self (t : Table) (i : Fin 256) :
    (t.enter i).entries.get i =
      t.entries.get ⟨i &&& (i - 1), Nat.lt_of_le_of_lt Nat.and_le_left i.isLt⟩ ^^^ 1 :=
  Vector.getElem_set_self i.isLt

theorem get_enter_of_ne (t : Table) {i j : Fin 256} (h : i ≠ j) :
    (t.enter i).entries.get j = t.entries.get j :=
  Vector.getElem_set_ne i.isLt j.isLt (Fin.val_ne_of_ne h)

/-- The numbers up to `n` have their parity bits. -/
theorem get_upTo {n : Nat} (h : n < 256) (i : Fin 256) (hi : i ≤ n) :
    (upTo n h).entries.get i = (evenOnes i).toUInt8 := by
  induction n generalizing i with
  | zero =>
    obtain rfl : i = 0 := Fin.ext (Nat.le_zero.mp hi)
    rw [Fin.val_zero, evenOnes]
    rfl
  | succ n ih =>
    rw [upTo]
    rcases Nat.le_succ_iff.mp hi with hle | heq
    · rw [get_enter_of_ne _ (Fin.ne_of_gt (Nat.lt_succ_of_le hle)), ih _ i hle]
    · obtain rfl : i = ⟨n + 1, h⟩ := Fin.ext heq
      rw [get_enter_self, ih _ _ Nat.and_le_right]
      have hnot (e : Bool) : e.toUInt8 ^^^ 1 = (!e).toUInt8 := by cases e <;> rfl
      rw [hnot]
      conv => rhs; rw [evenOnes, if_neg (Nat.succ_ne_zero n)]

/-- **The table has the parity bits of all bytes.** -/
theorem get_full (b : UInt8) : full.get b = (bit b).toUInt8 :=
  get_upTo (n := 255) (by decide) ⟨b.toNat, b.toNat_lt⟩ (Nat.le_of_lt_succ b.toNat_lt)

/-- A masked bit at its place is equal to a parity bit if it is that bit. -/
theorem get_full_beq (b b0 : UInt8) {k : Nat} {p : UInt8}
    (hp : p = (b0.toNat.testBit k).toUInt8) :
    (full.get b == p) = (bit b == b0.toNat.testBit k) := by
  rw [get_full, hp]
  cases bit b <;> cases b0.toNat.testBit k <;> rfl

/-- **Masks and shifts against the table** come to the same as single bits. -/
theorem accepts_full (firmware : Nat) (packet : List UInt8) :
    full.accepts firmware packet = Parity.accepts firmware packet := by
  have h5 : ∀ b : UInt8, (b &&& 0x20) >>> 5 = (b.toNat.testBit 5).toUInt8 :=
    Packet.forall_byte (by decide +kernel)
  have h4 : ∀ b : UInt8, (b &&& 0x10) >>> 4 = (b.toNat.testBit 4).toUInt8 :=
    Packet.forall_byte (by decide +kernel)
  have h2 : ∀ b : UInt8, (b &&& 0x04) >>> 2 = (b.toNat.testBit 2).toUInt8 :=
    Packet.forall_byte (by decide +kernel)
  match packet with
  | [] | [_] | [_, _] | [_, _, _] => rfl
  | b0 :: b1 :: b2 :: b3 :: rest =>
    unfold accepts Parity.accepts places
    rcases Nat.lt_or_ge firmware 0x020000 with h | h
    · simp only [if_pos h, get_full_beq b1 b0 (h5 b0), get_full_beq b2 b0 (h4 b0),
        get_full_beq b3 b0 (h2 b0)]
    · simp only [if_neg (Nat.not_lt_of_le h), get_full_beq b1 b0 (h4 b0),
        get_full_beq b2 b0 (h5 b0), get_full_beq b3 b0 (h2 b0)]

end Table

/-! ## Packets -/

/-- The place of the parity bit of byte number `k` in the first byte. -/
def place (firmware k : Nat) : Nat :=
  match k with
  | 1 => if firmware < 0x020000 then 5 else 4
  | 2 => if firmware < 0x020000 then 4 else 5
  | _ => 2

theorem place_lt (firmware k : Nat) : place firmware k < 8 := by
  unfold place
  split
  · split <;> decide
  · split <;> decide
  · decide

/-- Whether a byte and its parity bit together have an odd number of ones. -/
def IsOdd (firmware : Nat) (packet : List UInt8) (k : Nat) : Prop :=
  (ones (packet.getD k 0) + ((packet.getD 0 0).toNat.testBit (place firmware k)).toNat) % 2 = 1

/--
A packet is accepted if it is long enough and its three other bytes agree with their parity bits.
-/
theorem accepts_iff {firmware : Nat} {packet : List UInt8} :
    accepts firmware packet = true ↔
      4 ≤ packet.length ∧ ∀ k ∈ [1, 2, 3], IsOdd firmware packet k := by
  match packet with
  | [] | [_] | [_, _] | [_, _, _] => simp [accepts]
  | b0 :: b1 :: b2 :: b3 :: rest =>
    rw [and_iff_right (by simp)]
    simp only [accepts, Bool.and_eq_true, bit_beq_iff, and_assoc, List.forall_mem_cons]
    unfold places IsOdd place
    split <;> simp

/-! ## Changes to a packet -/

/-- A byte with its bit number `j` the other way round. -/
def flipBit (b : UInt8) (j : Nat) : UInt8 := b ^^^ 1 <<< UInt8.ofNat j

theorem differAt_flipBit (b : UInt8) {j : Nat} (h : j < 8) :
    DifferAt (flipBit b j).toNat.testBit b.toNat.testBit j := by
  have hmask : ∀ j < 8, ((1 : UInt8) <<< UInt8.ofNat j).toNat = 1 <<< j := by decide
  have hflip (i : Nat) : (flipBit b j).toNat.testBit i = (b.toNat.testBit i ^^ decide (j = i)) := by
    rw [flipBit, UInt8.toNat_xor, hmask j h, Nat.testBit_xor, Nat.one_shiftLeft,
      Nat.testBit_two_pow]
  refine ⟨?_, fun i hi => ?_⟩
  · simp [hflip]
  · simp [hflip, Ne.symm hi]

variable {firmware : Nat} {packet : List UInt8}

theorem getD_modify_self {k : Nat} (f : UInt8 → UInt8) (hk : k < packet.length) :
    (packet.modify k f).getD k 0 = f (packet.getD k 0) := by
  simp [List.getD_eq_getElem?_getD, hk]

theorem getD_modify_of_ne {k i : Nat} (f : UInt8 → UInt8) (h : k ≠ i) :
    (packet.modify k f).getD i 0 = packet.getD i 0 := by
  simp [List.getD_eq_getElem?_getD, h]

/-- **A wrong bit in a byte** is noticed. -/
theorem not_isOdd_of_flip {k j : Nat} (hk : 0 < k) (hlength : k < packet.length) (hj : j < 8)
    (h : IsOdd firmware packet k) : ¬ IsOdd firmware (packet.modify k (flipBit · j)) k := by
  have hcount := countP_ne_of_differAt (differAt_flipBit (packet.getD k 0) hj) hj
  unfold IsOdd ones at *
  rw [getD_modify_self _ hlength, getD_modify_of_ne _ (Nat.ne_of_gt hk)]
  omega

/-- **A wrong parity bit** is noticed. -/
theorem not_isOdd_of_flip_place {k : Nat} (hk : 0 < k) (hlength : 0 < packet.length)
    (h : IsOdd firmware packet k) :
    ¬ IsOdd firmware (packet.modify 0 (flipBit · (place firmware k))) k := by
  have hbit := (differAt_flipBit (packet.getD 0 0) (place_lt firmware k)).here
  unfold IsOdd at *
  rw [getD_modify_self _ hlength, getD_modify_of_ne _ (Nat.ne_of_lt hk), hbit]
  revert h
  cases (packet.getD 0 0).toNat.testBit (place firmware k) <;> simp <;> omega

/-- **Only three bytes and three bits matter.** -/
theorem accepts_congr {other : List UInt8} (hbytes : ∀ k ∈ [1, 2, 3], other[k]? = packet[k]?)
    (hbits : ∀ k ∈ [1, 2, 3], (other.getD 0 0).toNat.testBit (place firmware k) =
      (packet.getD 0 0).toNat.testBit (place firmware k)) :
    accepts firmware other = accepts firmware packet := by
  have hfour (l : List UInt8) : 4 ≤ l.length ↔ l[3]?.isSome = true := by
    rw [isSome_getElem?]
    rfl
  have hodd (k : Nat) (hk : k ∈ [1, 2, 3]) :
      IsOdd firmware other k ↔ IsOdd firmware packet k := by
    unfold IsOdd
    rw [List.getD_eq_getElem?_getD, hbytes k hk, hbits k hk, ← List.getD_eq_getElem?_getD]
  rw [Bool.eq_iff_iff, accepts_iff, accepts_iff, hfour, hfour, hbytes 3 (by simp)]
  exact and_congr_right fun _ => forall₂_congr hodd

/-- One byte that disagrees is enough to refuse a packet. -/
theorem accepts_eq_false {k : Nat} (hk : k ∈ [1, 2, 3]) (h : ¬ IsOdd firmware packet k) :
    accepts firmware packet = false :=
  Bool.eq_false_iff.mpr fun haccepts => h ((accepts_iff.mp haccepts).2 k hk)

/--
**Parity detects every single wrong bit.** A packet is accepted if it has at least four bytes and
each of the three bytes behind the first one has an odd number of ones together with its parity bit;
old firmware has the first two parity bits swapped. So an accepted packet is rejected as soon as one
bit of these bytes or one of the parity bits is flipped. Nothing else counts: a packet with the same
three bytes and the same parity bits has the same verdict. The table gives the same verdicts.
-/
theorem parity_law (firmware : Nat) (packet : List UInt8) :
    let flipped (k j : Nat) : List UInt8 := packet.modify k (flipBit · j)
    (accepts firmware packet = true ↔
      4 ≤ packet.length ∧ ∀ k ∈ [1, 2, 3], IsOdd firmware packet k) ∧
      (accepts firmware packet = true → ∀ k ∈ [1, 2, 3],
        (∀ j < 8, accepts firmware (flipped k j) = false) ∧
          accepts firmware (flipped 0 (place firmware k)) = false) ∧
      (∀ other : List UInt8, (∀ k ∈ [1, 2, 3], other[k]? = packet[k]?) →
        (∀ k ∈ [1, 2, 3], (other.getD 0 0).toNat.testBit (place firmware k) =
          (packet.getD 0 0).toNat.testBit (place firmware k)) →
        accepts firmware other = accepts firmware packet) ∧
      Table.full.accepts firmware packet = accepts firmware packet := by
  intro flipped
  refine ⟨accepts_iff, ?_, fun other => accepts_congr, Table.accepts_full firmware packet⟩
  intro haccepts k hk
  obtain ⟨hlength, hodd⟩ := accepts_iff.mp haccepts
  have hrange : 0 < k ∧ k < packet.length := by
    simp only [List.mem_cons, List.not_mem_nil, or_false] at hk
    omega
  refine ⟨fun j hj => accepts_eq_false hk ?_, accepts_eq_false hk ?_⟩
  · exact not_isOdd_of_flip hrange.1 hrange.2 hj (hodd k hk)
  · exact not_isOdd_of_flip_place hrange.1 (by omega) (hodd k hk)

/-- A packet of newer firmware, which old firmware cannot have sent. -/
example : accepts 0x020030 [0x1c, 0x12, 0x34, 0x56] = true ∧
    accepts 0x010000 [0x1c, 0x12, 0x34, 0x56] = false := by
  decide +kernel

end Touchpad.Parity
