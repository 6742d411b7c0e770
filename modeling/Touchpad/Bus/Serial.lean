import Touchpad.Bus.Transport

/-!
# The serial link to a device

Every byte goes straight to the device and every byte of the device arrives in one stream, in which
acknowledgements, reply bytes and packet bytes follow each other. A command waits for its
acknowledgement and discards what was queued ahead of it; a refusal ends the request. Bytes that are
already there are read before anything else, so a link is the list of unread bytes together with
what happens at its end.

The activity of a link lists what was written and what was taken, in the order in which it happened.
-/

namespace Touchpad

/-- What becomes of a link on which nothing is left to read. -/
inductive FarEnd where
  /-- The device is there and silent: a read times out. -/
  | present
  /-- The device sends nothing more: a read finds the end, a write succeeds. -/
  | silent
  /-- The device is gone: a read finds the end, and every write fails. -/
  | gone (cause : AccessError)
  /-- The device stays until everything has been read, and then it is gone. -/
  | leaving (cause : AccessError)
  deriving DecidableEq, Repr

/-- One byte on its way. -/
inductive Transfer where
  | wrote (byte : UInt8)
  | took (byte : UInt8)
  deriving DecidableEq, Repr

def Transfer.wrote? : Transfer → Option UInt8
  | wrote b => some b
  | took _ => none

/-- One end of a serial connection. -/
structure Link where
  unread : List UInt8
  farEnd : FarEnd
  activity : List Transfer
  deriving DecidableEq, Repr

namespace Link

def waiting (unread : List UInt8) (farEnd : FarEnd) : Link := ⟨unread, farEnd, []⟩

def sent (l : Link) : List UInt8 := l.activity.filterMap Transfer.wrote?

/-- The byte by which a device accepts a command. -/
def acknowledgement : UInt8 := 0xfa

/-- The bytes by which a device refuses a command. -/
def refusals : List UInt8 := [0xfe, 0xfc]

/-- Whether a byte settles a command. -/
def settles (b : UInt8) : Bool := b == acknowledgement || refusals.contains b

/-- Why nothing can be written now, if so. -/
def writeFault (l : Link) : Option AccessError :=
  match l.farEnd with
  | .present | .silent => none
  | .gone cause => some cause
  | .leaving cause => if l.unread.isEmpty then some cause else none

/-- Why nothing comes when there is nothing left to read. -/
def readFault (l : Link) (command : UInt8) : TransportError :=
  match l.farEnd with
  | .present => .timeout command
  | .silent | .gone _ | .leaving _ => .access .endOfData

/-- The link after its first `n` unread bytes were taken. -/
def advance (l : Link) (n : Nat) : Link :=
  { l with
    unread := l.unread.drop n
    activity := l.activity ++ (l.unread.take n).map .took }

def write (l : Link) (b : UInt8) : Link := { l with activity := l.activity ++ [.wrote b] }

/-- The record of a byte that was discarded while a command waited. -/
def discarded (command b : UInt8) : Log.Record :=
  Log.trace ("Discarding " ++ Hex.markedByte b ++ " while waiting for ack of " ++
    Hex.markedByte command)

/-- Waits for the byte that settles a command, and discards what is queued ahead of it. -/
def await (l : Link) (command : UInt8) : Submission Link :=
  let noise := l.unread.takeWhile fun b => !settles b
  let notes := noise.map (discarded command)
  match l.unread.drop noise.length with
  | [] =>
    { outcome := .error (l.readFault command), taken := [], state := l.advance noise.length, notes }
  | answer :: _ =>
    { outcome :=
        if answer = acknowledgement then .ok () else .error (.refused command answer)
      taken := []
      state := l.advance (noise.length + 1)
      notes }

/-- Sends a command byte and waits until it is settled. -/
def sendCommand (l : Link) (command : UInt8) : Submission Link :=
  match l.writeFault with
  | some cause => { outcome := .error (.access cause), taken := [], state := l }
  | none => (l.write command).await command

/--
Carries out operations in order until one fails. A read that finds nothing is blamed on `last`, the
command byte that was sent last.
-/
def run (last : UInt8) (l : Link) : List Operation → Submission Link
  | [] => { outcome := .ok (), taken := [], state := l }
  | .command b :: ops =>
    let step := l.sendCommand b
    match step.outcome with
    | .error _ => step
    | .ok _ =>
      let rest := run b step.state ops
      { rest with notes := step.notes ++ rest.notes }
  | .read _ :: ops =>
    match l.unread with
    | [] => { outcome := .error (l.readFault last), taken := [], state := l }
    | b :: _ =>
      let rest := run last (l.advance 1) ops
      { rest with taken := b :: rest.taken }

/-- Carries out a request; before its first command the byte zero stands for the last one. -/
def submit (l : Link) (r : Request) : Submission Link := l.run 0 r.operations

def transport : Transport Link := ⟨submit⟩

end Link

end Touchpad
