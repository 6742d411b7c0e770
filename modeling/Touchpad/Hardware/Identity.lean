import Touchpad.Bus.Request

/-!
# Telling the hardware apart from a mouse

The two replies by which a touchpad identifies itself. A regular mouse answers both requests too, so
the replies are checked against what a mouse can say.
-/

namespace Touchpad.Identity

/-- Whether a reply to the magic knock comes from the hardware. -/
def answersKnock (reply : Reply) : Bool :=
  reply.first == 0x3c && reply.second == 0x03 && [0xc8, 0x00].contains reply.third

/-- The sample rates that a mouse reports in its last status byte. -/
def mouseSampleRates : List UInt8 := [200, 100, 80, 60, 40, 20, 10]

/-- Whether a version reply looks like one of the hardware, and not like the status of a mouse. -/
def isSigned (reply : Reply) : Bool :=
  reply.first != 0 && (reply.second == 0 || !mouseSampleRates.contains reply.third)

/-- The 24-bit version that a version reply spells, the most significant byte first. -/
def firmware (reply : Reply) : Nat :=
  (reply.first.toNat * 256 + reply.second.toNat) * 256 + reply.third.toNat

/-- A version reply spells fewer than 25 bits. -/
theorem firmware_lt (reply : Reply) : firmware reply < 0x1000000 := by
  have h1 := reply.first.toNat_lt
  have h2 := reply.second.toNat_lt
  have h3 := reply.third.toNat_lt
  unfold firmware
  omega

end Touchpad.Identity
