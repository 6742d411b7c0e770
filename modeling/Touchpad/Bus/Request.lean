import Touchpad.Hex.Printer

/-!
# Requests on the auxiliary bus

A request is an ordered list of bus operations that are carried out as one round trip: command bytes
to send, and bytes to read. After the round trip its reads hold the bytes that came back.

## Main definitions

* `Request.sliced`: a byte in four two-bit slices
* `Request.fill`: the bytes of a round trip put into the reads, in order
* `Request.reply?`: the last three reads
-/

namespace Touchpad

/-- The three bytes that answer a status request. -/
structure Reply where
  first : UInt8
  second : UInt8
  third : UInt8
  deriving DecidableEq, Repr

namespace Reply

/-- The reply of three zeros, for what has not been asked yet. -/
def zero : Reply := ⟨0, 0, 0⟩

def toList (r : Reply) : List UInt8 := [r.first, r.second, r.third]

def ofLast? (bs : List UInt8) : Option Reply :=
  match bs.reverse with
  | third :: second :: first :: _ => some ⟨first, second, third⟩
  | _ => none

/-- The bytes of a reply, each behind the mark `0x`, with commas between them. -/
def spelled (r : Reply) : String := ", ".intercalate (r.toList.map Hex.markedByte)

end Reply

/-- A single operation on the bus. -/
inductive Operation where
  /-- Send a byte, which the device acknowledges. -/
  | command (byte : UInt8)
  /-- Read a byte; holds the byte that was read. -/
  | read (value : UInt8)
  deriving DecidableEq, Repr

namespace Operation

def sent? : Operation → Option UInt8
  | command b => some b
  | read _ => none

def value? : Operation → Option UInt8
  | command _ => none
  | read b => some b

def spelled : Operation → String
  | command b => "SendCommand(" ++ Hex.byte b ++ ")"
  | read b => "ReadData(" ++ Hex.byte b ++ ")"

/-- Puts bytes into the reads of a list of operations, in order, until either runs out. -/
def fill : List Operation → List UInt8 → List Operation
  | [], _ => []
  | ops, [] => ops
  | command b :: ops, bs => command b :: fill ops bs
  | read _ :: ops, b :: bs => read b :: fill ops bs

end Operation

/-- Bus operations that are carried out in order as one round trip. -/
structure Request where
  operations : List Operation
  deriving DecidableEq, Repr

namespace Request

/-- The byte that resets scaling, and that opens every sliced byte. -/
def setScaling : UInt8 := 0xe6

/-- The byte that sets the resolution to the byte that follows. -/
def setResolution : UInt8 := 0xe8

/-- The byte that asks for the three status bytes. -/
def statusRequest : UInt8 := 0xe9

def enableReporting : UInt8 := 0xf4

/-- The byte that restores the defaults and switches reporting off. -/
def disableReporting : UInt8 := 0xf5

def setDefaults : UInt8 := 0xf6

def empty : Request := ⟨[]⟩

def add (r : Request) (ops : List Operation) : Request := ⟨r.operations ++ ops⟩

def command (r : Request) (byte : UInt8) : Request := r.add [.command byte]

def read (r : Request) : Request := r.add [.read 0]

/-- The four two-bit slices of a byte, the most significant first. -/
def slices (value : UInt8) : List UInt8 :=
  [value >>> 6 &&& 3, value >>> 4 &&& 3, value >>> 2 &&& 3, value &&& 3]

/-- Adds a byte in slices: a scaling reset, then four resolutions of two bits each. -/
def sliced (r : Request) (value : UInt8) : Request :=
  (slices value).foldl (fun q slice => (q.command setResolution).command slice)
    (r.command setScaling)

/-- Adds a status request and the reads of its reply. -/
def status (r : Request) : Request := (r.command statusRequest).read.read.read

def commands (r : Request) : List UInt8 := r.operations.filterMap Operation.sent?

def values (r : Request) : List UInt8 := r.operations.filterMap Operation.value?

def readCount (r : Request) : Nat := r.values.length

/-- The last three reads; a request with fewer has no reply. -/
def reply? (r : Request) : Option Reply := Reply.ofLast? r.values

/-- The request with the given bytes in its first reads. -/
def fill (r : Request) (bs : List UInt8) : Request := ⟨Operation.fill r.operations bs⟩

def spelled (r : Request) : String :=
  "[" ++ ", ".intercalate (r.operations.map Operation.spelled) ++ "]"

@[simp] theorem operations_add (r : Request) (ops : List Operation) :
    (r.add ops).operations = r.operations ++ ops := rfl

@[simp] theorem commands_add (r : Request) (ops : List Operation) :
    (r.add ops).commands = r.commands ++ ops.filterMap Operation.sent? := by
  simp [commands]

@[simp] theorem values_add (r : Request) (ops : List Operation) :
    (r.add ops).values = r.values ++ ops.filterMap Operation.value? := by
  simp [values]

end Request

end Touchpad
