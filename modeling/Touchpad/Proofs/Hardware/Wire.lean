import Touchpad.Hardware.Register

/-!
# Instructions on the wire

A touchpad only sees command bytes, one after the other, and has to find out by itself where a
request ends. The encodings share their beginnings: a scaling reset opens every byte in slices and
also closes a write, and the vendor byte with a zero opens a query, a read and a write. Values can
be equal to any of these bytes. Nevertheless the instructions can be told apart.

* `Instruction`: what is asked of a touchpad in one request
* `Wire.bytes`: the command bytes of some instructions
* `Wire.next?`: reads the first instruction off the wire; its register has to exist, and bytes that
  are the same in all instructions of a kind are not looked at
* `wire_law`: the bytes tell the instructions
-/

namespace Touchpad

/-- A register that the hardware has. -/
abbrev Register.Number := { reg : UInt8 // Register.isValid reg = true }

/-- What is asked of a touchpad in one request. -/
inductive Instruction where
  | query (encoding : Encoding) (command : UInt8)
  | write (reg : Register.Number) (value : UInt8)
  | read (reg : Register.Number)
  | knock
  | reporting (enable : Bool)
  deriving DecidableEq

namespace Request

theorem commands_command (r : Request) (b : UInt8) :
    (r.command b).commands = r.commands ++ [b] :=
  commands_add r [.command b]

theorem commands_vendor (r : Request) (b : UInt8) :
    (r.vendor b).commands = r.commands ++ [vendorByte, b] := by
  rw [vendor, commands_command, commands_command, List.append_assoc]
  rfl

theorem commands_status (r : Request) : r.status.commands = r.commands ++ [statusRequest] := by
  unfold status read command
  simp only [commands_add]
  simp [Operation.sent?]

end Request

/-! ## Instructions -/

namespace Register

theorem isSome_write? {reg : UInt8} (h : isValid reg = true) (g : Generation) (value : UInt8) :
    (write? g reg value).isSome = true := by
  rw [write?, if_pos h]
  rfl

theorem isSome_read? {reg : UInt8} (h : isValid reg = true) (g : Generation) :
    (read? g reg).isSome = true := by
  rw [read?, if_pos h]
  rfl

end Register

/-- The request of an instruction in a dialect. -/
def Instruction.request (g : Generation) : Instruction → Request
  | query encoding command => Query.request encoding command
  | write reg value => (Register.write? g reg value).get (Register.isSome_write? reg.2 g value)
  | read reg => (Register.read? g reg).get (Register.isSome_read? reg.2 g)
  | knock => .magicKnock
  | reporting enable => .reporting enable

namespace Wire

/-- The command bytes of some instructions, in order. -/
def bytes (g : Generation) (is : List Instruction) : List UInt8 :=
  is.flatMap fun i => (i.request g).commands

/-! ## Bytes in slices -/

/-- The command bytes of a byte in slices. -/
def sliced (v : UInt8) : List UInt8 := (Request.empty.sliced v).commands

/-- Puts four slices together. -/
def join (a b c d : UInt8) : UInt8 := a * 64 + b * 16 + c * 4 + d

/-- Reads a byte in slices off the wire, without a look at what stands between the slices. -/
def unslice? : List UInt8 → Option (UInt8 × List UInt8)
  | _ :: _ :: a :: _ :: b :: _ :: c :: _ :: d :: rest => some (join a b c d, rest)
  | _ => none

theorem toNat_and_three (v : UInt8) : (v &&& 3).toNat = v.toNat % 4 :=
  Nat.and_two_pow_sub_one_eq_mod v.toNat 2

/-- A byte is put together from its four pairs of bits. -/
theorem join_slices (v : UInt8) :
    join (v >>> 6 &&& 3) (v >>> 4 &&& 3) (v >>> 2 &&& 3) (v &&& 3) = v := by
  have hv : v.toNat < 256 := v.toNat_lt
  have h6 : (v >>> 6).toNat = v.toNat / 64 := Nat.shiftRight_eq_div_pow v.toNat 6
  have h4 : (v >>> 4).toNat = v.toNat / 16 := Nat.shiftRight_eq_div_pow v.toNat 4
  have h2 : (v >>> 2).toNat = v.toNat / 4 := Nat.shiftRight_eq_div_pow v.toNat 2
  apply UInt8.toNat_inj.mp
  simp only [join, UInt8.toNat_add, UInt8.toNat_mul, toNat_and_three, h6, h4, h2,
    UInt8.reduceToNat]
  omega

/-- A byte that was sliced is read back, with what stands behind it. -/
theorem unslice?_sliced (v : UInt8) (rest : List UInt8) :
    unslice? (sliced v ++ rest) = some (v, rest) := by
  show some (join _ _ _ _, rest) = _
  rw [join_slices]

/-- Slicing a byte adds its bytes on the wire to those of a request. -/
theorem commands_sliced (r : Request) (v : UInt8) :
    (r.sliced v).commands = r.commands ++ sliced v := by
  simp [Request.sliced, Request.slices, Request.command, sliced, Request.commands, Request.add,
    Request.empty, Operation.sent?]

/-! ## Reading instructions -/

/-- The instruction that accesses a register, if the hardware has it. -/
def access? (reg : UInt8) (instruction : Register.Number → Instruction) (rest : List UInt8) :
    Option (Instruction × List UInt8) :=
  if h : Register.isValid reg = true then some (instruction ⟨reg, h⟩, rest) else none

/-- The number of a register that exists is read back as the register. -/
theorem access?_number (reg : Register.Number) (instruction : Register.Number → Instruction)
    (rest : List UInt8) : access? reg instruction rest = some (instruction reg, rest) :=
  dif_pos reg.2

/-- Reads the value of a write in slices and the scaling reset behind it. -/
def writeSliced? (reg : UInt8) (wire : List UInt8) : Option (Instruction × List UInt8) :=
  match unslice? wire with
  | some (value, rest) => access? reg (.write · value) (rest.drop 1)
  | none => none

/-- Reads a register in slices. It is the last byte of a read, and a write goes on. -/
def accessSliced? (wire : List UInt8) : Option (Instruction × List UInt8) :=
  match unslice? wire with
  | some (reg, stop :: rest) =>
    if stop = Request.statusRequest then access? reg .read rest else writeSliced? reg (stop :: rest)
  | _ => none

/-- Reads a byte in slices. It is the only byte of a query, and an access goes on. -/
def nextSliced? (wire : List UInt8) : Option (Instruction × List UInt8) :=
  match unslice? wire with
  | some (command, stop :: rest) =>
    if stop = Request.statusRequest then some (.query .sliced command, rest)
    else accessSliced? (stop :: rest)
  | _ => none

/-- Reads a custom instruction behind its first vendor byte. -/
def nextCustom? (g : Generation) : List UInt8 → Option (Instruction × List UInt8)
  | command :: stop :: rest =>
    if stop = Request.statusRequest then some (.query .custom command, rest)
    else
      match rest with
      | reg :: stop :: rest =>
        if stop = Request.statusRequest then access? reg .read rest
        else
          -- the fourth generation repeats the code in front of the value
          match rest.drop (if g = .v4 then 2 else 0) with
          | value :: rest => access? reg (.write · value) (rest.drop 1)
          | [] => none
      | _ => none
  | _ => none

/-- Reads the first instruction off the wire. -/
def next? (g : Generation) : List UInt8 → Option (Instruction × List UInt8)
  | [] => none
  | b :: rest =>
    if b = Request.enableReporting then some (.reporting true, rest)
    else if b = Request.disableReporting then some (.reporting false, rest)
    else if b = Request.setDefaults then some (.knock, rest.drop 5)
    else if b = vendorByte then nextCustom? g rest
    else nextSliced? (b :: rest)

/-- A sliced byte in front of a status request is a query. -/
theorem nextSliced?_query (command : UInt8) (rest : List UInt8) :
    nextSliced? (sliced command ++ Request.statusRequest :: rest) =
      some (.query .sliced command, rest) := by
  unfold nextSliced?
  rw [unslice?_sliced]
  rfl

/-- Two sliced bytes begin an access to a register. -/
theorem nextSliced?_access (code reg : UInt8) (rest : List UInt8) :
    nextSliced? (sliced code ++ (sliced reg ++ rest)) = accessSliced? (sliced reg ++ rest) := by
  unfold nextSliced?
  rw [unslice?_sliced]
  rfl

/-- A register in front of a status request is read. -/
theorem accessSliced?_read (reg : Register.Number) (rest : List UInt8) :
    accessSliced? (sliced reg ++ Request.statusRequest :: rest) = some (.read reg, rest) := by
  unfold accessSliced?
  rw [unslice?_sliced]
  exact access?_number reg .read rest

/-- A register in front of a value is written. -/
theorem accessSliced?_write (reg : Register.Number) (value stop : UInt8) (rest : List UInt8) :
    accessSliced? (sliced reg ++ (sliced value ++ stop :: rest)) =
      some (.write reg value, rest) := by
  have hvalue :
      writeSliced? reg (sliced value ++ stop :: rest) = some (.write reg value, rest) := by
    unfold writeSliced?
    rw [unslice?_sliced]
    exact access?_number reg (.write · value) rest
  unfold accessSliced?
  rw [unslice?_sliced]
  exact hvalue

/-! ## The first instruction -/

theorem request_write (g : Generation) (reg : Register.Number) (value : UInt8) :
    (Instruction.write reg value).request g = Register.writeRequest g reg value := by
  simp only [Instruction.request, Register.write?, if_pos reg.2, Option.get_some]

theorem request_read (g : Generation) (reg : Register.Number) :
    (Instruction.read reg).request g = Register.readRequest g reg := by
  simp only [Instruction.request, Register.read?, if_pos reg.2, Option.get_some]

theorem commands_empty : Request.empty.commands = [] := rfl

/-- An access begins with two vendor bytes, its code and the register. -/
theorem commands_access (code reg : UInt8) :
    (Register.access code reg).commands = [vendorByte, code, vendorByte, reg] := by
  rw [Register.access, Request.commands_vendor, Request.commands_vendor, commands_empty]
  rfl

/-- **A write is read back** from the bytes of its request, whatever stands behind them. -/
theorem next?_write (g : Generation) (reg : Register.Number) (value : UInt8) (rest : List UInt8) :
    next? g ((Register.writeRequest g reg value).commands ++ rest) =
      some (.write reg value, rest) := by
  have haccess := access?_number reg (.write · value) rest
  cases g with
  | v1 =>
    have hcommands : (Register.writeRequest .v1 reg value).commands =
        sliced Register.writeCode ++ (sliced reg ++ (sliced value ++ [Request.setScaling])) := by
      simp only [Register.writeRequest, Request.commands_command, commands_sliced, commands_empty,
        List.nil_append, List.append_assoc]
    rw [hcommands]
    simp only [List.append_assoc, List.singleton_append]
    exact (nextSliced?_access Register.writeCode reg _).trans (accessSliced?_write reg value _ rest)
  | v2 | v3 | v4 =>
    simp only [Register.writeRequest, Request.commands_command, Request.commands_vendor,
      commands_access]
    exact haccess

/-- **A read is read back** from the bytes of its request, whatever stands behind them. -/
theorem next?_read (g : Generation) (reg : Register.Number) (rest : List UInt8) :
    next? g ((Register.readRequest g reg).commands ++ rest) = some (.read reg, rest) := by
  have haccess := access?_number reg .read rest
  cases g with
  | v1 =>
    have hcommands : (Register.readRequest .v1 reg).commands =
        sliced Register.readCode ++ (sliced reg ++ [Request.statusRequest]) := by
      simp only [Register.readRequest, Request.commands_status, commands_sliced, commands_empty,
        List.nil_append, List.append_assoc]
    rw [hcommands]
    simp only [List.append_assoc, List.singleton_append]
    exact (nextSliced?_access Register.readCode reg _).trans (accessSliced?_read reg rest)
  | v2 | v3 | v4 =>
    simp only [Register.readRequest, Request.commands_status, commands_access]
    exact haccess

/-- **The first instruction can be read off the wire**, whatever follows it. -/
theorem next?_append (g : Generation) (i : Instruction) (rest : List UInt8) :
    next? g ((i.request g).commands ++ rest) = some (i, rest) := by
  cases i with
  | query encoding command =>
    cases encoding with
    | custom => rfl
    | sliced => exact nextSliced?_query command rest
  | write reg value =>
    rw [request_write]
    exact next?_write g reg value rest
  | read reg =>
    rw [request_read]
    exact next?_read g reg rest
  | knock => rfl
  | reporting enable => cases enable <;> rfl

/-! ## All instructions -/

theorem bytes_cons (g : Generation) (i : Instruction) (is : List Instruction) :
    bytes g (i :: is) = (i.request g).commands ++ bytes g is :=
  List.flatMap_cons

/-- **The bytes of instructions begin with those of others** only if the instructions do. -/
theorem bytes_prefix_iff {g : Generation} {is js : List Instruction} :
    bytes g is <+: bytes g js ↔ is <+: js := by
  constructor
  · intro h
    induction is generalizing js with
    | nil => exact List.nil_prefix
    | cons i is ih =>
      obtain ⟨tail, htail⟩ := h
      rw [bytes_cons, List.append_assoc] at htail
      have hi : next? g (bytes g js) = some (i, bytes g is ++ tail) := by
        rw [← htail, next?_append]
      cases js with
      | nil => cases hi
      | cons j js =>
        rw [bytes_cons, next?_append] at hi
        obtain ⟨rfl, hrest⟩ := Prod.mk.inj (Option.some.inj hi)
        exact List.cons_prefix_cons.mpr ⟨rfl, ih ⟨tail, hrest.symm⟩⟩
  · rintro ⟨tail, rfl⟩
    exact ⟨bytes g tail, List.flatMap_append.symm⟩

/--
**The bytes tell the instructions.** In every dialect the command bytes of some instructions, one
after the other, belong to no other instructions, and those of one instruction are not the beginning
of those of another one.
-/
theorem wire_law (g : Generation) :
    (∀ is js, bytes g is = bytes g js ↔ is = js) ∧
      ∀ i j : Instruction, (i.request g).commands <+: (j.request g).commands ↔ i = j := by
  refine ⟨fun is js => ⟨fun h => ?_, fun h => by rw [h]⟩, fun i j => ?_⟩
  · have hij : is <+: js := bytes_prefix_iff.mp ⟨[], (List.append_nil _).trans h⟩
    have hji : js <+: is := bytes_prefix_iff.mp ⟨[], (List.append_nil _).trans h.symm⟩
    exact hij.eq_of_length (Nat.le_antisymm hij.length_le hji.length_le)
  · have hsingle (k : Instruction) : (k.request g).commands = bytes g [k] := by
      rw [bytes, List.flatMap_singleton]
    rw [hsingle, hsingle, bytes_prefix_iff, List.cons_prefix_cons, and_iff_left List.nil_prefix]

end Wire

end Touchpad
