import Touchpad.Bus.Request
import Touchpad.Hardware.Generation

/-!
# Register accesses and queries as requests

How the four generations spell their vendor commands on the bus. A sliced command carries its bytes
in resolution settings; a custom command puts the vendor byte in front of each of them. A register
outside the two ranges of the hardware has no request.
-/

namespace Touchpad

/-- The vendor byte in front of a raw command byte. -/
def vendorByte : UInt8 := 0xf8

/-- Adds a raw byte behind the vendor byte. -/
def Request.vendor (r : Request) (byte : UInt8) : Request := (r.command vendorByte).command byte

namespace Query

/-- Asks for the coordinate range. -/
def firmwareId : UInt8 := 0x00

def firmwareVersion : UInt8 := 0x01

def capabilities : UInt8 := 0x02

/-- Asks for the sample resolution. -/
def sample : UInt8 := 0x03

def resolution : UInt8 := 0x04

/-- The request of a query, whose reply is read with a status request. -/
def request (encoding : Encoding) (command : UInt8) : Request :=
  match encoding with
  | .sliced => (Request.empty.sliced command).status
  | .custom => (Request.empty.vendor command).status

end Query

namespace Register

/-- Whether the hardware has a register of that number. -/
def isValid (reg : UInt8) : Bool := (0x07 ≤ reg && reg ≤ 0x11) || (0x20 ≤ reg && reg ≤ 0x26)

/-- The sub-command that reads a register of the older generations. -/
def readCode : UInt8 := 0x10

/-- The sub-command that writes a register of the older generations. -/
def writeCode : UInt8 := 0x11

/-- The sub-command that reads or writes a register of the newer generations. -/
def accessCode : UInt8 := 0x00

/-- The opening of a custom register access. -/
def access (code reg : UInt8) : Request := (Request.empty.vendor code).vendor reg

/-- The request that writes a value; a scaling reset completes it. -/
def writeRequest (g : Generation) (reg value : UInt8) : Request :=
  let body := match g with
    | .v1 => ((Request.empty.sliced writeCode).sliced reg).sliced value
    | .v2 => (access writeCode reg).vendor value
    | .v3 => (access accessCode reg).vendor value
    -- the code is repeated in front of the value
    | .v4 => ((access accessCode reg).vendor accessCode).vendor value
  body.command Request.setScaling

def readRequest (g : Generation) (reg : UInt8) : Request :=
  let body := match g with
    | .v1 => (Request.empty.sliced readCode).sliced reg
    | .v2 => access readCode reg
    | .v3 | .v4 => access accessCode reg
  body.status

/-- The request that writes a value, if there is such a register. -/
def write? (g : Generation) (reg value : UInt8) : Option Request :=
  if isValid reg then some (writeRequest g reg value) else none

/-- The request that reads a register, if there is one. -/
def read? (g : Generation) (reg : UInt8) : Option Request :=
  if isValid reg then some (readRequest g reg) else none

/-- The value of a register in the reply to its read. -/
def valueIn (g : Generation) (reply : Reply) : UInt8 :=
  match g with
  | .v1 | .v2 | .v3 => reply.first
  | .v4 => reply.second

end Register

namespace Request

/-- The sequence of commands to which only this hardware gives its special answer. -/
def magicKnock : Request :=
  (((((empty.command setDefaults).command disableReporting).command setScaling).command
    setScaling).command setScaling).status

/-- The request that switches reporting on or off. -/
def reporting (enable : Bool) : Request :=
  empty.command (if enable then enableReporting else disableReporting)

end Request

end Touchpad
