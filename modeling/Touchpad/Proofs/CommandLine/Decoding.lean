import Touchpad.Proofs.CommandLine.Preparing
import Touchpad.Proofs.Control.Completion
import Touchpad.Proofs.Stream.Bounds

/-!
# From a start-up to a stream

A vertical range of twelve bits, which is what a touchpad of the third generation can tell, is all
that a decoder needs so that its numbers fit into 32 bits. This module connects the two ends: the
profile with which a start-up succeeds, and the decoder that is made from it.

* `decoding_in_bounds`: no access, no copy and no number of that decoder is out of bounds
-/

namespace Touchpad.CommandLine

theorem maxY_le_of_prepared {σ : Type} {t : Transport σ} {s : σ} {config : Config}
    {profile : Profile} (hok : ((preparing config).run t s).value = .ok profile)
    (h3 : profile.generation = .v3) : profile.maxY ≤ 4095 := by
  have hp := Dialogue.path_run t s (preparing config)
  rw [hok] at hp
  obtain ⟨p, _, _, -, -, hstart⟩ := path_preparing_ok_iff.mp hp
  exact Control.maxY_le_of_path_start hstart h3

/--
**Decoding stays in bounds** for a touchpad of the third generation that was detected and started,
whatever it answered, whatever the options are and whatever it sends in which chunks. The largest
vertical coordinate is the same number with a sign. Behind the buffer of a packet, and with numbers
of 32 bits, the decoder never meets a fault, and it yields the same events as without these limits.
No movement among them is further than 4094 horizontally or 4095 vertically.
-/
theorem decoding_in_bounds {σ : Type} (t : Transport σ) (s : σ) (config options : Config)
    (profile : Profile) (cs : List (List UInt8)) :
    ((preparing config).run t s).value = .ok profile → profile.generation = .v3 →
      let fresh := Decoder.new profile options
      let events := (fresh.chunks cs).2.events
      Decoder.signed32 profile.maxY = profile.maxY ∧
        (∃ final, Framed.chunks Checked.decode ⟨Frame.new profile.packetSize, fresh⟩ cs =
            .ok (final, events) ∧
          final.inner.gesture = (fresh.chunks cs).1.gesture ∧
          final.frame.filled = (fresh.chunks cs).1.pending) ∧
        ∀ e ∈ events, e.kind = .motion → e.dx.natAbs ≤ 4094 ∧ e.dy.natAbs ≤ 4095 := by
  intro hok h3 fresh events
  have hmax : profile.maxY < 0x40000000 :=
    Nat.lt_of_le_of_lt (maxY_le_of_prepared hok h3) (by decide)
  have hsize : profile.packetSize = 6 := congrArg Generation.packetSize h3
  -- the stream, cut into packets
  obtain ⟨_, -, -, hall⟩ := exists_eq_flatten_blocks profile.generation.packetSize_pos cs.flatten
  obtain ⟨hfeed, hmove⟩ := Checked.feed_decode (d := fresh) h3 hmax
    (Gesture.seen_new options.tapToClick options.tapDistance) fun b hb => (hall b hb).trans hsize
  obtain ⟨hevents, hgesture, hpending⟩ := Decoder.chunks_eq_blockwise (d := fresh) rfl cs
  obtain ⟨final, hchunks, hinner, hfilled⟩ := Decoder.exists_framed profile hfeed
  have hsame : events = (fresh.blockwise (blocks profile.packetSize cs.flatten)).2.events := hevents
  rw [hsame]
  have hsigned : Decoder.signed32 profile.maxY = profile.maxY :=
    Decoder.signed32_of_lt (Nat.lt_trans hmax (by decide))
  refine ⟨hsigned, ⟨final, hchunks, ?_, ?_⟩, hmove⟩
  · rw [hgesture, hinner]
    rfl
  · rw [hpending, hfilled]
    rfl

/-- One finger across the whole touchpad: the two limits are reached. -/
theorem decoding_in_bounds_corner_to_corner :
    let profile : Profile := { Profile.ofGeneration .v3 0x450f01 with
      capabilities := ⟨0x08, 0x17, 0x0c⟩, registers := [⟨0x10, 0x0b⟩], bounds := ⟨0, 1470, 0, 700⟩ }
    let cs := [[0x44, 0x00, 0x01, 0x02], [], [0x00, 0x00, 0x44, 0x0f], [0xff, 0x02, 0x0f, 0xff]]
    ((preparing {}).run Script.transport (.ofReplies thirdGenerationReplies)).value = .ok profile ∧
      profile.generation = .v3 ∧ Decoder.signed32 profile.maxY = 700 ∧
      ∃ final, Framed.chunks Checked.decode ⟨Frame.new 6, Decoder.new profile {}⟩ cs =
        .ok (final, [.motion 4094 (-4095) {}]) := by
  intro profile cs
  have hok : ((preparing {}).run Script.transport (.ofReplies thirdGenerationReplies)).value =
      .ok profile := by
    decide +kernel
  obtain ⟨hsigned, ⟨final, hchunks, -, -⟩, -⟩ :=
    decoding_in_bounds Script.transport (.ofReplies thirdGenerationReplies) {} {} profile cs hok rfl
  have hevents : ((Decoder.new profile {}).chunks cs).2.events = [.motion 4094 (-4095) {}] := by
    decide +kernel
  rw [hevents] at hchunks
  exact ⟨hok, rfl, hsigned, final, hchunks⟩

end Touchpad.CommandLine
