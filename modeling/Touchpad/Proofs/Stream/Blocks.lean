import Touchpad.Stream.Frame

/-!
# Blocks of a stream

A frame hands on packets of one size. This module compares it with a stream that is simply cut into
blocks of that size: `bytes_eq_feed_blocks` says that what happens behind a frame is what happens to
the blocks, one after the other, and that the frame then holds what is left of the stream.

* `feed_append_of_ok`, `feed_feed`, `feed_invariant`: inputs in parts
* `blocks`: the blocks of a stream
* `Frame.Ready`: a frame that has room for the next byte
* `bytes_incomplete`, `bytes_complete`: fewer bytes than a packet, and just as many

What is done with a packet does not matter to any of this, and it may be a fault.
-/

namespace Touchpad

/-! ## Inputs in parts -/

section Feed

variable {σ α : Type} {step : σ → α → Except Fault (σ × List Event)}

theorem feed_cons_of_ok {s next : σ} {a : α} {events : List Event}
    (h : step s a = .ok (next, events)) (as : List α) :
    feed step s (a :: as) = (feed step next as).map fun r => (r.1, events ++ r.2) := by
  rw [feed, h]
  show Except.bind (feed step next as) _ = _
  cases feed step next as <;> rfl

theorem feed_cons_of_error {s : σ} {a : α} {fault : Fault} (h : step s a = .error fault)
    (as : List α) : feed step s (a :: as) = .error fault := by
  rw [feed, h]
  rfl

/-- Steps in two parts: the second part begins where the first has led. -/
theorem feed_append_of_ok {s next : σ} {as : List α} {events : List Event}
    (h : feed step s as = .ok (next, events)) (bs : List α) :
    feed step s (as ++ bs) = (feed step next bs).map fun r => (r.1, events ++ r.2) := by
  induction as generalizing s events with
  | nil =>
    cases h
    rw [List.nil_append]
    cases feed step next bs <;> rfl
  | cons a as ih =>
    cases hstep : step s a with
    | error fault =>
      rw [feed_cons_of_error hstep] at h
      cases h
    | ok r =>
      rw [feed_cons_of_ok hstep] at h
      cases hfeed : feed step r.1 as with
      | error fault =>
        rw [hfeed] at h
        cases h
      | ok q =>
        rw [hfeed] at h
        cases h
        rw [List.cons_append, feed_cons_of_ok hstep, ih hfeed]
        cases feed step q.1 bs with
        | error fault => rfl
        | ok p => exact congrArg (fun events => Except.ok (p.1, events)) (List.append_assoc ..).symm

theorem feed_append_of_error {s : σ} {as : List α} {fault : Fault}
    (h : feed step s as = .error fault) (bs : List α) :
    feed step s (as ++ bs) = .error fault := by
  induction as generalizing s with
  | nil => cases h
  | cons a as ih =>
    cases hstep : step s a with
    | error cause =>
      rw [feed_cons_of_error hstep] at h
      rw [List.cons_append, feed_cons_of_error hstep, h]
    | ok r =>
      rw [feed_cons_of_ok hstep] at h
      cases hfeed : feed step r.1 as with
      | error cause =>
        rw [hfeed] at h
        rw [List.cons_append, feed_cons_of_ok hstep, ih (hfeed.trans h)]
        rfl
      | ok q =>
        rw [hfeed] at h
        cases h

/-- **Chunks do not matter**: they are taken like what they make up together. -/
theorem feed_feed (s : σ) (chunks : List (List α)) :
    feed (feed step) s chunks = feed step s chunks.flatten := by
  induction chunks generalizing s with
  | nil => rfl
  | cons chunk chunks ih =>
    rw [List.flatten_cons]
    cases h : feed step s chunk with
    | error fault => rw [feed_cons_of_error h, feed_append_of_error h]
    | ok r => rw [feed_cons_of_ok h, feed_append_of_ok h, ih]

/-- What every input keeps is kept by all of them together. -/
theorem feed_invariant {P : σ → Prop}
    (hstep : ∀ s a next events, P s → step s a = .ok (next, events) → P next) {s last : σ}
    {as : List α} {events : List Event} (hs : P s) (h : feed step s as = .ok (last, events)) :
    P last := by
  induction as generalizing s events with
  | nil =>
    cases h
    exact hs
  | cons a as ih =>
    cases ha : step s a with
    | error fault =>
      rw [feed_cons_of_error ha] at h
      cases h
    | ok r =>
      rw [feed_cons_of_ok ha] at h
      cases hfeed : feed step r.1 as with
      | error fault =>
        rw [hfeed] at h
        cases h
      | ok q =>
        rw [hfeed] at h
        cases h
        exact ih (hstep s a r.1 r.2 hs ha) hfeed

end Feed

/-! ## Cutting a stream -/

/-- The blocks of `n` bytes that a stream consists of. What is left over is not a block. -/
def blocks (n : Nat) (stream : List UInt8) : List (List UInt8) :=
  if n = 0 ∨ stream.length < n then []
  else stream.take n :: blocks n (stream.drop n)
termination_by stream.length
decreasing_by
  rw [List.length_drop]
  omega

section Blocks

variable {n : Nat} {stream : List UInt8}

theorem blocks_of_lt (h : stream.length < n) : blocks n stream = [] := by
  rw [blocks, if_pos (.inr h)]

/-- The first block is what comes first, if there is enough of it. -/
theorem blocks_of_le (hn : 0 < n) (h : n ≤ stream.length) :
    blocks n stream = stream.take n :: blocks n (stream.drop n) := by
  rw [blocks, if_neg (by omega)]

/-- **A stream is its blocks and what is left over**, which is less than a block. -/
theorem exists_eq_flatten_blocks (hn : 0 < n) (stream : List UInt8) :
    ∃ rest, stream = (blocks n stream).flatten ++ rest ∧ rest.length = stream.length % n ∧
      ∀ block ∈ blocks n stream, block.length = n := by
  by_cases h : stream.length < n
  · refine ⟨stream, ?_, (Nat.mod_eq_of_lt h).symm, ?_⟩ <;> simp [blocks_of_lt h]
  · have hle : n ≤ stream.length := Nat.le_of_not_lt h
    obtain ⟨rest, hrest, hlen, hall⟩ := exists_eq_flatten_blocks hn (stream.drop n)
    refine ⟨rest, ?_, ?_, ?_⟩
    · rw [blocks_of_le hn hle, List.flatten_cons, List.append_assoc, ← hrest,
        List.take_append_drop]
    · rw [hlen, List.length_drop, ← Nat.mod_eq_sub_mod hle]
    · rw [blocks_of_le hn hle]
      intro block hblock
      rcases List.mem_cons.mp hblock with rfl | hblock
      · exact List.length_take_of_le hle
      · exact hall block hblock
termination_by stream.length
decreasing_by
  rw [List.length_drop]
  omega

end Blocks

/-! ## The buffer -/

namespace Frame

variable {f : Frame} {b : UInt8}

/-- Whether there is a place for the next byte, and none behind the last byte of a packet. -/
structure Ready (f : Frame) : Prop where
  filled_lt : f.filled < f.size
  size_le : f.size ≤ capacity

/-- The bytes of the packet that is not complete yet. -/
def collected (f : Frame) : List UInt8 := f.buffer.toList.take f.filled

theorem ready_new (size : Nat) : (new size).Ready := by
  refine ⟨?_, ?_⟩ <;> simp only [new, capacity] <;> omega

theorem size_new {size : Nat} (hpos : 0 < size) (hle : size ≤ capacity) :
    (new size).size = size := by
  simp only [new]
  omega

/-- A frame that is ready has room for another byte. -/
theorem Ready.filled_lt_capacity (h : f.Ready) : f.filled < capacity :=
  Nat.lt_of_lt_of_le h.filled_lt h.size_le

theorem Ready.length_collected (h : f.Ready) : f.collected.length = f.filled := by
  have := h.filled_lt_capacity
  simp only [collected, List.length_take, Vector.length_toList]
  omega

/-- Nothing is collected in a frame that counts no bytes, whatever is left in its buffer. -/
theorem collected_of_empty (h : f.filled = 0) : f.collected = [] := by
  rw [collected, h, List.take_zero]

/-- The bytes up to the one that has just been stored. -/
theorem take_set (h : f.filled < capacity) (b : UInt8) :
    (f.buffer.set f.filled b h).toList.take (f.filled + 1) = f.collected ++ [b] := by
  have hlen : f.filled < f.buffer.toList.length := by rwa [Vector.length_toList]
  rw [Vector.toList_set, List.take_add_one, List.take_set_of_le (Nat.le_refl _),
    List.getElem?_set_self hlen]
  rfl

theorem store_filled (h : f.Ready) (b : UInt8) :
    f.store f.filled b =
      .ok { f with buffer := f.buffer.set f.filled b h.filled_lt_capacity } := by
  rw [store, dif_pos h.filled_lt_capacity]

/-- A byte that does not complete the packet is put behind the others. -/
theorem push_incomplete (h : f.Ready) (hlt : f.filled + 1 < f.size) (b : UInt8) :
    ∃ f' : Frame, f.push b = .ok (f', none) ∧ f'.Ready ∧ f'.size = f.size ∧
      f'.collected = f.collected ++ [b] := by
  refine ⟨{ f with
    buffer := f.buffer.set f.filled b h.filled_lt_capacity, filled := f.filled + 1 }, ?_,
    ⟨hlt, h.size_le⟩, rfl, take_set h.filled_lt_capacity b⟩
  rw [push, store_filled h]
  exact if_pos hlt

/-- A byte that completes the packet comes out behind the others, with nothing else. -/
theorem push_complete (h : f.Ready) (heq : f.filled + 1 = f.size) (b : UInt8) :
    ∃ f' : Frame, f.push b = .ok (f', some (f.collected ++ [b])) ∧ f'.Ready ∧
      f'.size = f.size ∧ f'.filled = 0 := by
  have hpos : 0 < f.size := Nat.lt_of_le_of_lt (Nat.zero_le _) h.filled_lt
  refine ⟨{ f with buffer := f.buffer.set f.filled b h.filled_lt_capacity, filled := 0 }, ?_,
    ⟨hpos, h.size_le⟩, rfl, rfl⟩
  have hfront : ({ f with buffer := f.buffer.set f.filled b h.filled_lt_capacity } : Frame).front
      f.size = .ok (f.collected ++ [b]) := by
    rw [front, if_pos h.size_le, ← heq, take_set h.filled_lt_capacity]
  rw [push, store_filled h]
  show (if f.filled + 1 < f.size then _ else _) = _
  rw [if_neg (by omega)]
  show Except.bind (front _ f.size) _ = _
  rw [hfront]
  rfl

/-- Whether or not a packet comes out, there is room for the next byte. -/
theorem Ready.of_push {f' : Frame} {packet : Option (List UInt8)} (h : f.Ready)
    (hp : f.push b = .ok (f', packet)) : f'.Ready ∧ f'.size = f.size := by
  rcases Nat.lt_or_eq_of_le (Nat.succ_le_of_lt h.filled_lt) with hlt | heq
  · obtain ⟨f₁, hpush, h₁, hsize, -⟩ := push_incomplete h hlt b
    rw [hp] at hpush
    obtain ⟨rfl, -⟩ := Prod.mk.inj (Except.ok.inj hpush)
    exact ⟨h₁, hsize⟩
  · obtain ⟨f₁, hpush, h₁, hsize, -⟩ := push_complete h heq b
    rw [hp] at hpush
    obtain ⟨rfl, -⟩ := Prod.mk.inj (Except.ok.inj hpush)
    exact ⟨h₁, hsize⟩

end Frame

/-! ## Bytes behind a frame -/

namespace Framed

variable {σ : Type} (handle : σ → List UInt8 → Except Fault (σ × List Event)) {f : Frame}
  {bs : List UInt8}

/-- Chunks are handled like all their bytes at once. -/
theorem chunks_eq (d : Framed σ) (cs : List (List UInt8)) :
    chunks handle d cs = bytes handle d cs.flatten :=
  feed_feed d cs

/-- Bytes that do not complete a packet are collected. -/
theorem bytes_incomplete (h : f.Ready) (hlt : (f.collected ++ bs).length < f.size) (s : σ) :
    ∃ f' : Frame, bytes handle ⟨f, s⟩ bs = .ok (⟨f', s⟩, []) ∧ f'.Ready ∧ f'.size = f.size ∧
      f'.collected = f.collected ++ bs := by
  induction bs generalizing f with
  | nil => exact ⟨f, rfl, h, rfl, (List.append_nil _).symm⟩
  | cons b bs ih =>
    have hfilled : f.filled + 1 < f.size := by
      simp only [List.length_append, h.length_collected, List.length_cons] at hlt
      omega
    obtain ⟨f₁, hpush, h₁, hsize₁, hcol₁⟩ := Frame.push_incomplete h hfilled b
    obtain ⟨f₂, hbytes, h₂, hsize₂, hcol₂⟩ := ih h₁ (by rw [hcol₁, hsize₁]; simpa using hlt)
    refine ⟨f₂, ?_, h₂, hsize₂.trans hsize₁, by simp [hcol₂, hcol₁]⟩
    have hbyte : byte handle ⟨f, s⟩ b = .ok (⟨f₁, s⟩, []) := by
      simp only [byte, hpush]
      rfl
    rw [bytes, feed_cons_of_ok hbyte, ← bytes, hbytes]
    rfl

/-- Bytes that make up a packet are handled as one, whatever the packets before have left. -/
theorem bytes_complete (h : f.Ready) (h0 : f.filled = 0) (hlen : bs.length = f.size) (s : σ) :
    ∃ f' : Frame, bytes handle ⟨f, s⟩ bs = (handle s bs).map (fun r => (⟨f', r.1⟩, r.2)) ∧
      f'.Ready ∧ f'.size = f.size ∧ f'.filled = 0 := by
  obtain ⟨front, last, rfl⟩ : ∃ front last, bs = front ++ [last] := by
    rcases List.eq_nil_or_concat bs with rfl | ⟨front, last, rfl⟩
    · have := h.filled_lt
      rw [h0, ← hlen] at this
      exact absurd this (Nat.lt_irrefl 0)
    · exact ⟨front, last, List.concat_eq_append⟩
  rw [List.length_append, List.length_singleton] at hlen
  have hcol : f.collected = [] := Frame.collected_of_empty h0
  have hlt : (f.collected ++ front).length < f.size := by
    rw [hcol, List.nil_append]
    omega
  obtain ⟨f₁, hfront, h₁, hsize₁, hcol₁⟩ := bytes_incomplete handle h hlt s
  rw [hcol, List.nil_append] at hcol₁
  obtain ⟨f₂, hpush, h₂, hsize₂, hfilled₂⟩ :=
    Frame.push_complete h₁ (by rw [← h₁.length_collected, hcol₁, hlen, hsize₁]) last
  refine ⟨f₂, ?_, h₂, hsize₂.trans hsize₁, hfilled₂⟩
  have hbyte : byte handle ⟨f₁, s⟩ last =
      (handle s (front ++ [last])).map fun r => (⟨f₂, r.1⟩, r.2) := by
    simp only [byte, hpush, hcol₁]
    show Except.bind (handle s (front ++ [last])) _ = _
    cases handle s (front ++ [last]) <;> rfl
  rw [bytes, feed_append_of_ok hfront]
  cases hhandle : handle s (front ++ [last]) with
  | error fault =>
    rw [hhandle] at hbyte
    rw [feed_cons_of_error hbyte]
    rfl
  | ok r =>
    rw [hhandle] at hbyte
    rw [feed_cons_of_ok hbyte]
    exact congrArg (fun events => Except.ok (_, events)) (List.append_nil r.2)

/-- A byte leaves a frame ready, and of the same size. -/
theorem ready_of_byte {d next : Framed σ} {b : UInt8} {events : List Event}
    (h : d.frame.Ready) (hbyte : byte handle d b = .ok (next, events)) :
    next.frame.Ready ∧ next.frame.size = d.frame.size := by
  unfold byte at hbyte
  cases hpush : d.frame.push b with
  | error fault =>
    rw [hpush] at hbyte
    cases hbyte
  | ok r =>
    obtain ⟨f₁, packet⟩ := r
    have hf : f₁.Ready ∧ f₁.size = d.frame.size := h.of_push hpush
    rw [hpush] at hbyte
    cases packet with
    | none =>
      cases hbyte
      exact hf
    | some packet =>
      change Except.bind (handle d.inner packet) _ = _ at hbyte
      cases hhandle : handle d.inner packet with
      | error fault =>
        rw [hhandle] at hbyte
        cases hbyte
      | ok q =>
        rw [hhandle] at hbyte
        cases hbyte
        exact hf

/-- **The buffer stays in order** as long as nothing is a fault. -/
theorem ready_of_bytes {d last : Framed σ} {events : List Event} (h : d.frame.Ready)
    (hbytes : bytes handle d bs = .ok (last, events)) :
    last.frame.Ready ∧ last.frame.size = d.frame.size := by
  refine feed_invariant (P := fun x => x.frame.Ready ∧ x.frame.size = d.frame.size)
    (fun s b next events hs hbyte => ?_) ⟨h, rfl⟩ hbytes
  obtain ⟨hready, hsize⟩ := ready_of_byte handle hs.1 hbyte
  exact ⟨hready, hsize.trans hs.2⟩

/-- **Behind a frame happens what happens to the blocks of the stream**, and nothing else. -/
theorem bytes_eq_feed_blocks {f : Frame} (h : f.Ready) (h0 : f.filled = 0) (s : σ)
    (stream : List UInt8) :
    (bytes handle ⟨f, s⟩ stream).map (fun r => (r.1.inner, r.1.frame.filled, r.2)) =
      (feed handle s (blocks f.size stream)).map fun r =>
        (r.1, stream.length % f.size, r.2) := by
  have hpos : 0 < f.size := Nat.lt_of_le_of_lt (Nat.zero_le _) h.filled_lt
  by_cases hlt : stream.length < f.size
  · have hcol : f.collected = [] := Frame.collected_of_empty h0
    have hlt' : (f.collected ++ stream).length < f.size := by rwa [hcol, List.nil_append]
    obtain ⟨f₁, hbytes, h₁, -, hcol₁⟩ := bytes_incomplete handle h hlt' s
    rw [hcol, List.nil_append] at hcol₁
    have hfilled : f₁.filled = stream.length % f.size := by
      rw [← h₁.length_collected, hcol₁, Nat.mod_eq_of_lt hlt]
    rw [hbytes, blocks_of_lt hlt]
    exact congrArg (fun n => Except.ok (s, n, [])) hfilled
  · have hle : f.size ≤ stream.length := Nat.le_of_not_lt hlt
    obtain ⟨f₁, hblock, h₁, hsize₁, h0₁⟩ := bytes_complete handle h h0
      (List.length_take_of_le hle) s
    have hmod : (stream.drop f.size).length % f.size = stream.length % f.size := by
      rw [List.length_drop, ← Nat.mod_eq_sub_mod hle]
    rw [blocks_of_le hpos hle]
    conv => lhs; rw [← List.take_append_drop f.size stream]
    cases hhandle : handle s (stream.take f.size) with
    | error fault =>
      rw [hhandle] at hblock
      rw [bytes, feed_append_of_error hblock, feed_cons_of_error hhandle]
      rfl
    | ok r =>
      rw [hhandle] at hblock
      -- the rest of the stream arrives at a frame that is as empty as this one
      have ih := bytes_eq_feed_blocks h₁ h0₁ r.1 (stream.drop f.size)
      rw [hsize₁, hmod, bytes] at ih
      rw [bytes, feed_append_of_ok hblock, feed_cons_of_ok hhandle]
      cases hrest : feed (byte handle) ⟨f₁, r.1⟩ (stream.drop f.size) with
      | error cause =>
        cases hfeed : feed handle r.1 (blocks f.size (stream.drop f.size)) with
        | error fault =>
          rw [hrest, hfeed] at ih
          exact congrArg Except.error (Except.error.inj ih)
        | ok p =>
          rw [hrest, hfeed] at ih
          cases ih
      | ok q =>
        cases hfeed : feed handle r.1 (blocks f.size (stream.drop f.size)) with
        | error fault =>
          rw [hrest, hfeed] at ih
          cases ih
        | ok p =>
          rw [hrest, hfeed] at ih
          exact congrArg (fun w => Except.ok (w.1, w.2.1, r.2 ++ w.2.2)) (Except.ok.inj ih)
termination_by stream.length
decreasing_by
  rw [List.length_drop]
  omega

end Framed

end Touchpad
