import Touchpad.Bus.Dialogue
import Touchpad.Hardware.Register

/-!
# Commands to the touchpad

The round trips of which detection and start-up consist. A register that does not exist is rejected
before anything is sent.
-/

namespace Touchpad

/-- Why a command failed. -/
inductive CommandError where
  | invalidRegister (reg : UInt8)
  | transport (cause : TransportError)
  /-- The request read fewer bytes than a reply has. -/
  | shortReply (got : Nat)
  deriving DecidableEq, Repr

def CommandError.message : CommandError → String
  | invalidRegister reg => "invalid register " ++ Hex.markedByte reg
  | transport cause => "transport error: " ++ cause.message
  | shortReply got => "expected a 3 byte reply, got " ++ toString got

/-- The reply that a completed request holds. -/
def Completion.reply (c : Completion) : Except CommandError Reply :=
  match c.outcome, c.request.reply? with
  | .error cause, _ => .error (.transport cause)
  | .ok _, some reply => .ok reply
  | .ok _, none => .error (.shortReply c.request.readCount)

/-- Whether a request whose reads do not matter was completed. -/
def Completion.done (c : Completion) : Except CommandError Unit :=
  match c.outcome with
  | .error cause => .error (.transport cause)
  | .ok _ => .ok ()

namespace Control

/-- A dialogue that may fail. -/
abbrev Talk (ε α : Type) := ExceptT ε Dialogue α

def say {ε : Type} (record : Log.Record) : Talk ε Unit :=
  ExceptT.mk (.note record (.done (.ok ())))

def exchange (r : Request) : Talk CommandError Reply :=
  ExceptT.mk (.submit r fun c => .done c.reply)

/-- Submits a request that has no reply. -/
def order (r : Request) : Talk CommandError Unit :=
  ExceptT.mk (.submit r fun c => .done c.done)

/-- Sends a query and returns its reply. -/
def sendQuery (encoding : Encoding) (command : UInt8) : Talk CommandError Reply := do
  say (Log.debug ("Sending " ++ encoding.name ++ " query: " ++ Hex.markedByte command))
  let reply ← exchange (Query.request encoding command)
  say (Log.debug ("Query " ++ Hex.markedByte command ++ " result: " ++ reply.spelled))
  return reply

def writeRegister (g : Generation) (reg value : UInt8) : Talk CommandError Unit := do
  match Register.write? g reg value with
  | none => throw (.invalidRegister reg)
  | some r =>
    say (Log.debug ("Writing register " ++ Hex.markedByte reg ++ " = " ++ Hex.markedByte value))
    order r

def readRegister (g : Generation) (reg : UInt8) : Talk CommandError UInt8 := do
  match Register.read? g reg with
  | none => throw (.invalidRegister reg)
  | some r =>
    let reply ← exchange r
    let value := Register.valueIn g reply
    say (Log.debug ("Read register " ++ Hex.markedByte reg ++ " = " ++ Hex.markedByte value))
    return value

def setReporting (enable : Bool) : Talk CommandError Unit := order (Request.reporting enable)

/-- Switches reporting off for good. -/
def stop : Talk CommandError Unit := do
  say (Log.info "Disabling Elantech touchpad")
  setReporting false

end Control

end Touchpad
