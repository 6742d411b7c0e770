import Touchpad.Control.Measure

/-!
# The coordinate range with numbers of 32 bits

`Touchpad.Control.Measure` computes the coordinate range with natural numbers. Here they are
unsigned numbers of 32 bits: every sum and every product has to fit, a difference must not be
negative, and nothing can be divided by zero. Whatever does not hold is a failure.

## Main definitions

* `Unsigned.add`, `Unsigned.mul`, `Unsigned.sub`, `Unsigned.div`: the arithmetic
* `Unsigned.queryRange`: asking for the coordinate range
-/

namespace Touchpad.Unsigned

/-- Why the coordinate range is not known if arithmetic can fail, too. -/
inductive Failure where
  /-- A sum or a product does not fit. -/
  | overflow (result : Nat)
  /-- A larger number was to be subtracted from a smaller one. -/
  | underflow (minuend subtrahend : Nat)
  | zeroDivisor (dividend : Nat)
  | range (cause : RangeError)
  deriving DecidableEq, Repr

/-! ## Arithmetic -/

/-- The number of unsigned numbers of 32 bits. -/
def size : Nat := 0x100000000

/-- A number that has to fit. -/
def fit (n : Nat) : Except Failure Nat := if n < size then .ok n else .error (.overflow n)

def add (a b : Nat) : Except Failure Nat := fit (a + b)

def mul (a b : Nat) : Except Failure Nat := fit (a * b)

def sub (a b : Nat) : Except Failure Nat :=
  if b ≤ a then .ok (a - b) else .error (.underflow a b)

def div (a b : Nat) : Except Failure Nat :=
  if b = 0 then .error (.zeroDivisor a) else .ok (a / b)

/-! ## Replies -/

/-- The range of second-generation hardware that is not computed from a sample reply. -/
def rangeByFirmware (firmware : Nat) (capabilities : Reply) : Except Failure Range := do
  let edge := Control.edgeTraces firmware
  if firmware = 0x040216 then return .upTo 819 405 0
  else if firmware = 0x040219 ∨ firmware = 0x040215 then return .upTo 900 500 0
  else
    -- fewer traces than there are at the edges count as none, which is no failure
    let maxX ← mul (capabilities.second.toNat - edge) 64
    let maxY ← mul (capabilities.third.toNat - edge) 64
    return .upTo maxX maxY 0

/-- The range of second-generation hardware that answers with the dots of a trace, counted twice. -/
def rangeBySample (firmware : Nat) (capabilities sample : Reply) : Except Failure Range := do
  let edge := Control.edgeTraces firmware
  let dotsX ← mul (capabilities.second.toNat - edge) sample.second.toNat
  let maxX ← div dotsX 2
  let dotsY ← mul (capabilities.third.toNat - edge) sample.third.toNat
  let maxY ← div dotsY 2
  return .upTo maxX maxY 0

/-- The largest coordinates in a firmware id: twelve bits each, the high four in the first byte. -/
def maximaIn (reply : Reply) : Except Failure (Nat × Nat) := do
  let highX ← mul (reply.first.toNat % 16) 256
  let maxX ← add highX reply.second.toNat
  let highY ← mul (reply.first.toNat / 16) 256
  let maxY ← add highY reply.third.toNat
  return (maxX, maxY)

/-- The distance of two neighbouring sensor traces. -/
def traceWidth (maxX traces : Nat) : Except Failure Nat := do
  if traces < 2 ∨ maxX < traces then throw (.range (.invalidTraces ⟨traces, maxX⟩))
  let gaps ← sub traces 1
  div maxX gaps

/-- The range in a firmware id of the third and fourth generation. -/
def rangeByFirmwareId (g : Generation) (capabilities firmwareId : Reply) :
    Except Failure Range := do
  let (maxX, maxY) ← maximaIn firmwareId
  match g with
  | .v4 =>
    let width ← traceWidth maxX capabilities.second.toNat
    return .upTo maxX maxY width
  | .v1 | .v2 | .v3 => return .upTo maxX maxY 0

/-! ## The dialogue -/

/-- The coordinate range of a touchpad whose capabilities are known. -/
def queryRange (p : Profile) : Control.Talk Failure Range := do
  match Range.fixed? p.generation p.firmware with
  | some range => return range
  | none =>
    let ask (command : UInt8) : Control.Talk Failure Reply :=
      ((Control.sendQuery p.queryEncoding command).adapt RangeError.query).adapt Failure.range
    match p.generation with
    | .v1 => return {}
    | .v2 =>
      let firmwareId ← ask Query.firmwareId
      if Control.measuresBySample p.firmware firmwareId then
        let sample ← ask Query.sample
        ExceptT.mk (.done (rangeBySample p.firmware p.capabilities sample))
      else ExceptT.mk (.done (rangeByFirmware p.firmware p.capabilities))
    | .v3 | .v4 =>
      let firmwareId ← ask Query.firmwareId
      ExceptT.mk (.done (rangeByFirmwareId p.generation p.capabilities firmwareId))

end Touchpad.Unsigned
