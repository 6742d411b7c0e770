import Mathlib.Algebra.Group.Nat.Defs
import Touchpad.Stream.Packet

/-!
# The layout of packets

A finger report is put into a packet bit by bit, as the diagram in `Touchpad.Stream.Packet` says,
among the constant bits of its form. Reading such a packet gives the report back, and every packet
that can be decoded has come about like this.

* `Packet.Form`: the bits that belong to no field
* `Packet.layout`: the packet of a form and a report
* `Packet.report_layout`, `Packet.layout_report`: there and back
* `Packet.layout_law`: forms and reports are the same as packets that can be decoded
-/

namespace Touchpad

attribute [ext] FingerReport Packet

/-- Whether every field of a report has room in a packet. -/
structure FingerReport.Fits (r : FingerReport) : Prop where
  fingers : r.fingers < 4
  x : r.x < 4096
  y : r.y < 4096
  pressure : r.pressure < 256
  width : r.width < 16

/-! ## Bytes of bits -/

/-- The byte of eight bits, the highest one first. -/
def byteOfBits (b7 b6 b5 b4 b3 b2 b1 b0 : Bool) : UInt8 :=
  UInt8.ofNat (b7.toNat * 128 + b6.toNat * 64 + b5.toNat * 32 + b4.toNat * 16 + b3.toNat * 8 +
    b2.toNat * 4 + b1.toNat * 2 + b0.toNat)

/-- The number of two bits, the higher one first. -/
def pairOfBits (hi lo : Bool) : Nat := hi.toNat * 2 + lo.toNat

theorem pairOfBits_lt (hi lo : Bool) : pairOfBits hi lo < 4 := by
  cases hi <;> cases lo <;> decide

theorem pairOfBits_testBit (n k : Nat) :
    pairOfBits (n.testBit (k + 1)) (n.testBit k) = n / 2 ^ k % 4 := by
  rw [pairOfBits, Nat.toNat_testBit, Nat.toNat_testBit, Nat.pow_succ, ← Nat.div_div_eq_div_mul]
  omega

theorem testBit_eq_of_mod {n k : Nat} {b : Bool} (h : n / 2 ^ k % 2 = b.toNat) :
    n.testBit k = b := by
  rw [Nat.testBit_eq_decide_div_mod_eq, h]
  cases b <;> rfl

/-- A byte in pairs of bits. -/
theorem toNat_byteOfBits (b7 b6 b5 b4 b3 b2 b1 b0 : Bool) :
    (byteOfBits b7 b6 b5 b4 b3 b2 b1 b0).toNat =
      pairOfBits b7 b6 * 64 + pairOfBits b5 b4 * 16 + pairOfBits b3 b2 * 4 + pairOfBits b1 b0 := by
  have h3 := pairOfBits_lt b7 b6
  have h2 := pairOfBits_lt b5 b4
  have h1 := pairOfBits_lt b3 b2
  have h0 := pairOfBits_lt b1 b0
  unfold pairOfBits at *
  rw [byteOfBits, UInt8.toNat_ofNat']
  omega

/-- A byte of four bits of one number and four bits of another one. -/
theorem toNat_byteOfBits_testBit (n k m j : Nat) :
    (byteOfBits (n.testBit (k + 3)) (n.testBit (k + 2)) (n.testBit (k + 1)) (n.testBit k)
      (m.testBit (j + 3)) (m.testBit (j + 2)) (m.testBit (j + 1)) (m.testBit j)).toNat =
        n / 2 ^ k % 16 * 16 + m / 2 ^ j % 16 := by
  have hfour (n k : Nat) : n / 2 ^ (k + 2) % 4 * 4 + n / 2 ^ k % 4 = n / 2 ^ k % 16 := by
    rw [Nat.pow_add, ← Nat.div_div_eq_div_mul]
    omega
  have hn := hfour n k
  have hm := hfour m j
  rw [toNat_byteOfBits, pairOfBits_testBit n (k + 2), pairOfBits_testBit n k,
    pairOfBits_testBit m (j + 2), pairOfBits_testBit m j]
  omega

namespace Packet

/-! ## Forms and layouts -/

/-- The bits of a packet that belong to no field. -/
inductive Form where
  | head
  /-- The last bit of the fourth byte is free. -/
  | tail (spare : Bool)
  deriving DecidableEq, Repr

namespace Form

def kind : Form → PacketKind
  | head => .head
  | tail _ => .tail

/-- The constant bits of the first byte, as a number. -/
def opening : Form → Nat
  | head => 1
  | tail _ => 3

/-- The last four bits of the fourth byte, as a number. -/
def ending : Form → Nat
  | head => 2
  | tail spare => 12 + spare.toNat

theorem opening_lt (form : Form) : form.opening < 4 := by
  rcases form with _ | spare <;> decide +revert

theorem ending_lt (form : Form) : form.ending < 16 := by
  rcases form with _ | spare <;> decide +revert

/-- The marks in the fourth byte tell the forms apart. -/
theorem ending_inj {form form' : Form} : form.ending = form'.ending ↔ form = form' := by
  rcases form with _ | spare <;> rcases form' with _ | spare' <;> decide +revert

end Form

/-- The packet of a form with the bits of a report in their places. -/
def layout (form : Form) (r : FingerReport) : Packet :=
  let n := r.fingers.testBit
  let w := r.width.testBit
  let p := r.pressure.testBit
  let x := r.x.testBit
  let y := r.y.testBit
  let right := r.buttons.right
  let left := r.buttons.left
  { b0 :=
      match form with
      | .head => byteOfBits (n 1) (n 0) (w 3) (w 2) false true right left
      | .tail _ => byteOfBits (n 1) (n 0) (w 3) (w 2) true true right left
    b1 := byteOfBits (p 7) (p 6) (p 5) (p 4) (x 11) (x 10) (x 9) (x 8)
    b2 := byteOfBits (x 7) (x 6) (x 5) (x 4) (x 3) (x 2) (x 1) (x 0)
    b3 :=
      match form with
      | .head => byteOfBits false false (w 1) (w 0) false false true false
      | .tail spare => byteOfBits false false (w 1) (w 0) true true false spare
    b4 := byteOfBits (p 3) (p 2) (p 1) (p 0) (y 11) (y 10) (y 9) (y 8)
    b5 := byteOfBits (y 7) (y 6) (y 5) (y 4) (y 3) (y 2) (y 1) (y 0) }

section Bytes

variable (form : Form) (r : FingerReport)

/-- The first byte: the number of fingers, the upper bits of the width, marks and buttons. -/
theorem toNat_layout_b0 :
    (layout form r).b0.toNat =
      r.fingers % 4 * 64 + r.width / 4 % 4 * 16 + form.opening * 4 +
        pairOfBits r.buttons.right r.buttons.left := by
  have hn : pairOfBits (r.fingers.testBit 1) (r.fingers.testBit 0) = r.fingers / 1 % 4 :=
    pairOfBits_testBit r.fingers 0
  have hw : pairOfBits (r.width.testBit 3) (r.width.testBit 2) = r.width / 4 % 4 :=
    pairOfBits_testBit r.width 2
  cases form <;> simp only [layout, toNat_byteOfBits, hn, hw, Nat.div_one] <;> rfl

/-- The second byte: the upper bits of the pressure and of the first coordinate. -/
theorem toNat_layout_b1 :
    (layout form r).b1.toNat = r.pressure / 16 % 16 * 16 + r.x / 256 % 16 :=
  toNat_byteOfBits_testBit r.pressure 4 r.x 8

theorem toNat_layout_b2 : (layout form r).b2.toNat = r.x / 16 % 16 * 16 + r.x / 1 % 16 :=
  toNat_byteOfBits_testBit r.x 4 r.x 0

/-- The fourth byte: the lower bits of the width and marks. -/
theorem toNat_layout_b3 : (layout form r).b3.toNat = r.width % 4 * 16 + form.ending := by
  have hw : pairOfBits (r.width.testBit 1) (r.width.testBit 0) = r.width / 1 % 4 :=
    pairOfBits_testBit r.width 0
  cases form with
  | head =>
    simp only [layout, toNat_byteOfBits, hw, Nat.div_one]
    simp [pairOfBits, Form.ending]
  | tail spare =>
    simp only [layout, toNat_byteOfBits, hw, Nat.div_one]
    simp [pairOfBits, Form.ending]
    omega

/-- The fifth byte: the lower bits of the pressure and the upper ones of the second coordinate. -/
theorem toNat_layout_b4 :
    (layout form r).b4.toNat = r.pressure / 1 % 16 * 16 + r.y / 256 % 16 :=
  toNat_byteOfBits_testBit r.pressure 0 r.y 8

theorem toNat_layout_b5 : (layout form r).b5.toNat = r.y / 16 % 16 * 16 + r.y / 1 % 16 :=
  toNat_byteOfBits_testBit r.y 4 r.y 0

end Bytes

/-! ## The bits of a form -/

/-- Whether the bits that belong to no field are those of a form. -/
structure HasForm (p : Packet) (form : Form) : Prop where
  opening : p.b0.toNat / 4 % 4 = form.opening
  unused : p.b3.toNat / 64 = 0
  ending : p.b3.toNat % 16 = form.ending

theorem hasForm_layout (form : Form) (r : FingerReport) : (layout form r).HasForm form := by
  have h0 := toNat_layout_b0 form r
  have h3 := toNat_layout_b3 form r
  have hbuttons := pairOfBits_lt r.buttons.right r.buttons.left
  have hopening := form.opening_lt
  have hending := form.ending_lt
  exact ⟨by omega, by omega, by omega⟩

/-- The forms do not overlap. -/
theorem HasForm.unique {p : Packet} {form form' : Form} (h : p.HasForm form)
    (h' : p.HasForm form') : form = form' :=
  Form.ending_inj.mp (h.ending.symm.trans h'.ending)

/-- What holds for the numbers below 256 holds for all bytes. -/
theorem forall_byte {P : UInt8 → Prop} (h : ∀ n < 256, P (UInt8.ofNat n)) (b : UInt8) : P b := by
  simpa using h b.toNat b.toNat_lt

/-- The marks of a head, as masks of two bytes. -/
theorem hasForm_head_iff {p : Packet} :
    p.HasForm .head ↔ p.b0 &&& 0x0c = 0x04 ∧ p.b3 &&& 0xcf = 0x02 := by
  have h0 : p.b0 &&& 0x0c = 0x04 ↔ p.b0.toNat / 4 % 4 = 1 :=
    forall_byte (P := fun b => b &&& 0x0c = 0x04 ↔ b.toNat / 4 % 4 = 1) (by decide +kernel) p.b0
  have h3 : p.b3 &&& 0xcf = 0x02 ↔ p.b3.toNat / 64 = 0 ∧ p.b3.toNat % 16 = 2 :=
    forall_byte (P := fun b => b &&& 0xcf = 0x02 ↔ b.toNat / 64 = 0 ∧ b.toNat % 16 = 2)
      (by decide +kernel) p.b3
  rw [h0, h3]
  exact ⟨fun h => ⟨h.opening, h.unused, h.ending⟩, fun h => ⟨h.1, h.2.1, h.2.2⟩⟩

/-- The marks of a tail, as masks of two bytes; one bit is free. -/
theorem exists_hasForm_tail_iff {p : Packet} :
    (∃ spare, p.HasForm (.tail spare)) ↔ p.b0 &&& 0x0c = 0x0c ∧ p.b3 &&& 0xce = 0x0c := by
  have h0 : p.b0 &&& 0x0c = 0x0c ↔ p.b0.toNat / 4 % 4 = 3 :=
    forall_byte (P := fun b => b &&& 0x0c = 0x0c ↔ b.toNat / 4 % 4 = 3) (by decide +kernel) p.b0
  have h3 : p.b3 &&& 0xce = 0x0c ↔
      p.b3.toNat / 64 = 0 ∧ ∃ spare : Bool, p.b3.toNat % 16 = 12 + spare.toNat :=
    forall_byte (P := fun b => b &&& 0xce = 0x0c ↔
      b.toNat / 64 = 0 ∧ ∃ spare : Bool, b.toNat % 16 = 12 + spare.toNat) (by decide +kernel) p.b3
  rw [h0, h3]
  constructor
  · rintro ⟨spare, h⟩
    exact ⟨h.opening, h.unused, spare, h.ending⟩
  · rintro ⟨h, hunused, spare, hending⟩
    exact ⟨spare, h, hunused, hending⟩

/-- The debounce packet has the form of a head packet, and is the only such one of another kind. -/
theorem HasForm.kind_eq {p : Packet} {form : Form} (h : p.HasForm form) (hp : p ≠ debounce) :
    p.kind = form.kind := by
  cases form with
  | head =>
    rw [kind, if_neg hp, if_pos (hasForm_head_iff.mp h)]
    rfl
  | tail spare =>
    have hhead : ¬ (p.b0 &&& 0x0c = 0x04 ∧ p.b3 &&& 0xcf = 0x02) := by
      intro hbits
      cases h.unique (hasForm_head_iff.mpr hbits)
    rw [kind, if_neg hp, if_neg hhead, if_pos (exists_hasForm_tail_iff.mp ⟨spare, h⟩)]
    rfl

/-- Every packet that is decoded has one of the forms. -/
theorem exists_hasForm {p : Packet} (h : p.kind.isDecodable = true) : ∃ form, p.HasForm form := by
  unfold kind at h
  split at h
  · cases h
  · split at h
    · next hbits => exact ⟨.head, hasForm_head_iff.mpr hbits⟩
    · split at h
      · next hbits =>
        obtain ⟨spare, htail⟩ := exists_hasForm_tail_iff.mpr hbits
        exact ⟨.tail spare, htail⟩
      · cases h

/-! ## There and back -/

/-- The fields of a report take as many bits as a packet has for them. -/
theorem fits_report (p : Packet) : p.report.Fits where
  fingers := p.report_fingers_lt
  x := p.report_x_lt
  y := p.report_y_lt
  pressure := by
    have h1 := p.b1.toNat_lt
    have h4 := p.b4.toNat_lt
    simp only [report]
    omega
  width := by
    simp only [report]
    omega

/-- **Reading a layout gives the report back.** -/
theorem report_layout (form : Form) {r : FingerReport} (h : r.Fits) :
    (layout form r).report = r := by
  have h0 := toNat_layout_b0 form r
  have h1 := toNat_layout_b1 form r
  have h4 := toNat_layout_b4 form r
  have hfingers : (layout form r).report.fingers = r.fingers := by
    have hn := h.fingers
    have hopening := form.opening_lt
    have hbuttons := pairOfBits_lt r.buttons.right r.buttons.left
    show (layout form r).b0.toNat / 64 = r.fingers
    omega
  have hbuttons : (layout form r).report.buttons = r.buttons := by
    have hright := r.buttons.right.toNat_le
    have hleft := r.buttons.left.toNat_le
    unfold pairOfBits at h0
    have h : (layout form r).b0.toNat.testBit 0 = r.buttons.left :=
      testBit_eq_of_mod (by rw [Nat.pow_zero]; omega)
    have h' : (layout form r).b0.toNat.testBit 1 = r.buttons.right :=
      testBit_eq_of_mod (by rw [Nat.pow_one]; omega)
    simp only [report, h, h']
  have hx : (layout form r).report.x = r.x := by
    have hx := h.x
    have h2 := toNat_layout_b2 form r
    show (layout form r).b1.toNat % 16 * 256 + (layout form r).b2.toNat = r.x
    omega
  have hy : (layout form r).report.y = r.y := by
    have hy := h.y
    have h5 := toNat_layout_b5 form r
    show (layout form r).b4.toNat % 16 * 256 + (layout form r).b5.toNat = r.y
    omega
  have hpressure : (layout form r).report.pressure = r.pressure := by
    have hp := h.pressure
    show (layout form r).b1.toNat / 16 * 16 + (layout form r).b4.toNat / 16 = r.pressure
    omega
  have hwidth : (layout form r).report.width = r.width := by
    have hw := h.width
    have h3 := toNat_layout_b3 form r
    have hending := form.ending_lt
    have hopening := form.opening_lt
    have hbuttons := pairOfBits_lt r.buttons.right r.buttons.left
    show (layout form r).b0.toNat / 16 % 4 * 4 + (layout form r).b3.toNat / 16 % 4 = r.width
    omega
  exact FingerReport.ext hfingers hbuttons hx hy hpressure hwidth

/-- **Every packet of a form is the layout of its report.** -/
theorem layout_report {p : Packet} {form : Form} (h : p.HasForm form) :
    layout form p.report = p := by
  have hopening := h.opening
  have hunused := h.unused
  have hending := h.ending
  have h0 : (layout form p.report).b0.toNat = p.b0.toNat := by
    have hlt := p.b0.toNat_lt
    have hbuttons : pairOfBits p.report.buttons.right p.report.buttons.left =
        p.b0.toNat / 1 % 4 := pairOfBits_testBit p.b0.toNat 0
    rw [toNat_layout_b0, hbuttons]
    simp only [report]
    omega
  have h1 : (layout form p.report).b1.toNat = p.b1.toNat := by
    have hlt := p.b1.toNat_lt
    have hlt2 := p.b2.toNat_lt
    have hlt4 := p.b4.toNat_lt
    rw [toNat_layout_b1]
    simp only [report]
    omega
  have h2 : (layout form p.report).b2.toNat = p.b2.toNat := by
    have hlt := p.b2.toNat_lt
    rw [toNat_layout_b2]
    simp only [report]
    omega
  have h3 : (layout form p.report).b3.toNat = p.b3.toNat := by
    rw [toNat_layout_b3]
    simp only [report]
    omega
  have h4 : (layout form p.report).b4.toNat = p.b4.toNat := by
    have hlt := p.b4.toNat_lt
    have hlt5 := p.b5.toNat_lt
    rw [toNat_layout_b4]
    simp only [report]
    omega
  have h5 : (layout form p.report).b5.toNat = p.b5.toNat := by
    have hlt := p.b5.toNat_lt
    rw [toNat_layout_b5]
    simp only [report]
    omega
  exact Packet.ext (UInt8.toNat_inj.mp h0) (UInt8.toNat_inj.mp h1) (UInt8.toNat_inj.mp h2)
    (UInt8.toNat_inj.mp h3) (UInt8.toNat_inj.mp h4) (UInt8.toNat_inj.mp h5)

/-- The report of the debounce packet: three fingers, and all numbers at their limits but one. -/
def debounceReport : FingerReport where
  fingers := 3
  buttons := {}
  x := 4095
  y := 4095
  pressure := 255
  width := 0

theorem layout_debounceReport : layout .head debounceReport = debounce := by decide

/-- **A layout tells its form and its report.** -/
theorem layout_injective {form form' : Form} {r r' : FingerReport} (h : r.Fits) (h' : r'.Fits) :
    layout form r = layout form' r' ↔ form = form' ∧ r = r' := by
  constructor
  · intro heq
    have hform := hasForm_layout form r
    rw [heq] at hform
    refine ⟨hform.unique (hasForm_layout form' r'), ?_⟩
    rw [← report_layout form h, heq, report_layout form' h']
  · rintro ⟨rfl, rfl⟩
    rfl

/--
**The packets that can be decoded are the layouts of reports.** A report whose fields have room is
read back from its layout, whatever the form is. The layout is of the kind of its form, unless it is
the debounce packet, which is that of one report in the form of a head packet. The other way round,
every packet that can be decoded is the layout of its own report in a form of its kind. Different
forms and different reports have different layouts, so that the kinds do not overlap. As all reports
occur and each has one layout, no bit is read for two fields, and only the free one for none.
-/
theorem layout_law :
    (∀ (form : Form) (r : FingerReport), r.Fits →
      (layout form r).report = r ∧
      ((layout form r).kind = form.kind ↔ layout form r ≠ debounce) ∧
      (layout form r = debounce ↔ form = .head ∧ r = debounceReport)) ∧
    (∀ p : Packet, p.kind.isDecodable = true →
      p.report.Fits ∧ ∃ form : Form, p.kind = form.kind ∧ layout form p.report = p) ∧
    ∀ (form form' : Form) (r r' : FingerReport), r.Fits → r'.Fits →
      (layout form r = layout form' r' ↔ form = form' ∧ r = r') := by
  refine ⟨fun form r h => ⟨report_layout form h, ⟨?_, ?_⟩, ?_⟩, fun p h => ?_, ?_⟩
  · -- the debounce packet has a kind of its own
    intro hkind hdebounce
    rw [hdebounce] at hkind
    cases form <;> cases hkind
  · exact (hasForm_layout form r).kind_eq
  · rw [← layout_debounceReport]
    exact layout_injective h (fits_report debounce)
  · obtain ⟨form, hform⟩ := exists_hasForm h
    have hp : p ≠ debounce := by
      rintro rfl
      cases h
    exact ⟨fits_report p, form, hform.kind_eq hp, layout_report hform⟩
  · exact fun _ _ _ _ => layout_injective

/-- Two fingers and a button in a tail packet with its free bit set. -/
theorem layout_law_of_two_fingers :
    let r : FingerReport := ⟨2, { left := true }, 0x123, 0x258, 0x5a, 0x0b⟩
    let p : Packet := ⟨0xad, 0x51, 0x23, 0x3d, 0xa2, 0x58⟩
    r.Fits ∧ p.kind.isDecodable = true ∧ layout (.tail true) r = p ∧ p.report = r ∧
      p.kind = .tail ∧ ∃ form : Form, p.kind = form.kind ∧ layout form p.report = p := by
  intro r p
  have hfits : r.Fits := ⟨by decide, by decide, by decide, by decide, by decide⟩
  have hlayout : layout (.tail true) r = p := by decide
  have hdecodable : p.kind.isDecodable = true := by decide
  obtain ⟨hthere, hback, -⟩ := layout_law
  obtain ⟨hreport, hkind, -⟩ := hthere (.tail true) r hfits
  rw [hlayout] at hreport hkind
  exact ⟨hfits, hdecodable, hlayout, hreport, hkind.mpr (by decide), (hback p hdecodable).2⟩

end Packet

end Touchpad
