import Touchpad.CommandLine.Program
import Touchpad.Proofs.Bus.Agreement

/-!
# Starting a touchpad on a script and on a link

What a recorded session shows on a script holds on a serial link too: a touchpad that is detected
and started from a list of reply bytes is detected and started in the same way when these bytes
arrive among acknowledgements and noise.

* `preparing_agrees`: both end with the same profile, after the same bytes were written
-/

namespace Touchpad.CommandLine

/-- A touchpad is prepared if it is detected and then started. -/
theorem path_preparing_ok_iff {config : Config} {es : List Exchange} {q : Profile} :
    (preparing config).Path es (.ok q) ↔
      ∃ p es₁ es₂, es = es₁ ++ es₂ ∧ Control.detect.run.Path es₁ (.ok p) ∧
        (Control.start p config).Path es₂ (.ok (), q) := by
  constructor
  · intro hp
    obtain ⟨es₁, cause | p, es₂, rfl, h₁, h₂⟩ := Dialogue.path_bind_iff.mp hp
    · cases h₂.2
    · obtain ⟨es₃, ⟨cause | u, started⟩, es₄, rfl, h₃, h₄⟩ := Dialogue.path_bind_iff.mp h₂
      · cases h₄.2
      · obtain ⟨rfl, h₄⟩ := h₄
        obtain rfl := Except.ok.inj h₄
        exact ⟨p, es₁, es₃, by rw [List.append_nil], h₁, h₃⟩
  · rintro ⟨p, es₁, es₂, rfl, h₁, h₂⟩
    refine Dialogue.path_bind_iff.mpr ⟨es₁, .ok p, es₂, rfl, h₁, ?_⟩
    exact Dialogue.path_bind_iff.mpr
      ⟨es₂, (.ok (), q), [], (List.append_nil es₂).symm, h₂, rfl, rfl⟩

/--
**Scripts and links agree** on detecting and starting a touchpad, if nothing fails on the script.
The link has input for what the script has recorded, behind it a tail that nothing asks for, and a
device that takes what is written to it.
-/
theorem preparing_agrees (replies input tail : List UInt8) (config : Config) (profile : Profile)
    (farEnd : FarEnd) :
    let script := (preparing config).run Script.transport (.ofReplies replies)
    let link := (preparing config).run Link.transport (.waiting (input ++ tail) farEnd)
    script.value = .ok profile →
    (∀ e ∈ (preparing config).exchanges Script.transport (.ofReplies replies), e.Succeeded) →
    Answers (script.state.history.flatMap Request.operations) input →
    (∀ cause, farEnd ≠ .gone cause) →
      link.value = .ok profile ∧ link.state.sent = script.state.sent ∧
        link.state.unread = tail := by
  intro script link hok hall hinput hfar
  have hhistory : script.state.history =
      Dialogue.records ((preparing config).exchanges Script.transport (.ofReplies replies)) :=
    (Dialogue.history_run hall).trans (List.nil_append _)
  rw [hhistory] at hinput
  have hlink : (Link.waiting (input ++ tail) farEnd).Listens := hfar
  obtain ⟨_, hvalue, hafter⟩ := Dialogue.run_link hlink hall hinput rfl
  refine ⟨hvalue.trans hok, ?_, hafter.unread⟩
  rw [hafter.sent, Script.sent, hhistory]
  exact List.nil_append _

/-- What a touchpad of the third generation replies until it is started. -/
def thirdGenerationReplies : List UInt8 :=
  [0x3c, 0x03, 0xc8, 0x45, 0x0f, 0x01, 0x08, 0x17, 0x0c, 0x0b, 0x00, 0x00, 0x25, 0xbe, 0xbc]

/-- Its session on a link, with a byte of noise ahead of every acknowledgement. -/
theorem preparing_agrees_third_generation :
    let script := (preparing {}).run Script.transport (.ofReplies thirdGenerationReplies)
    let input := (script.state.history.flatMap Request.operations).flatMap (Operation.answer [0x1c])
    let link := (preparing {}).run Link.transport (.waiting (input ++ [0x08, 0x00]) .present)
    ∃ profile, link.value = .ok profile ∧ link.state.sent = script.state.sent ∧
      link.state.unread = [0x08, 0x00] := by
  have hok : ((preparing {}).run Script.transport
      (.ofReplies thirdGenerationReplies)).value.isOk = true := by
    decide +kernel
  have hall : ∀ e ∈ (preparing {}).exchanges Script.transport
      (.ofReplies thirdGenerationReplies), e.Succeeded := by
    decide +kernel
  have hnoise : ∀ x ∈ [(0x1c : UInt8)], x ≠ 0xfa ∧ x ≠ 0xfe ∧ x ≠ 0xfc := by
    intro x hx
    rw [List.mem_singleton.mp hx]
    decide
  intro script input link
  cases hvalue : script.value with
  | error cause =>
    rw [show _ = Except.error cause from hvalue] at hok
    cases hok
  | ok profile =>
    refine ⟨profile, preparing_agrees thirdGenerationReplies input [0x08, 0x00] {} profile .present
      hvalue hall ?_ nofun⟩
    exact Answers.flatMap_answer hnoise _

end Touchpad.CommandLine
