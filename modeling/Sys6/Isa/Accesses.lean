import Sys6.Isa.Semantics

/-!
# Bus accesses of the instruction set

Which addresses an instruction reads and writes, in order: the opcode, the operand bytes, the
pointer bytes, and what its row does at the effective address or on the stack.
-/

namespace Sys6

inductive BusAccess
  | read (addr : Word)
  | write (addr : Word) (val : Byte)
deriving DecidableEq, Repr

namespace Isa

/-- What an instruction does at its effective address. -/
inductive Use
  | none | read | modify | store
deriving DecidableEq, Repr

def Mnemonic.use : Mnemonic → Use
  | .ADC | .SBC | .AND | .ORA | .EOR | .CMP | .CPX | .CPY | .BIT | .LDA | .LDX | .LDY => .read
  | .ASL | .LSR | .ROL | .ROR | .INC | .DEC => .modify
  | .STA | .STX | .STY => .store
  | _ => .none

/-- The number of operand bytes. -/
def Mode.operandBytes : Mode → Nat
  | .accumulator | .implied => 0
  | .absolute | .absoluteX | .absoluteY | .indirect => 2
  | _ => 1

variable {β : Type} [BusLike β]

namespace Arch

def operandAccesses (s : Arch β) (mode : Mode) : List BusAccess :=
  (List.range mode.operandBytes).map fun i => .read (s.pc + BitVec.ofNat 16 i)

/-- The bytes of a pointer in page 0, or of the target of an indirect jump. -/
def pointerAccesses (s : Arch β) : Operand → List BusAccess
  | .indirectX b => [.read (word 0#8 (b + s.x)), .read (word 0#8 (b + s.x + 1#8))]
  | .indirectY b => [.read (word 0#8 b), .read (word 0#8 (b + 1#8))]
  | .indirect w => [.read w, .read (word w.hi (w.lo + 1#8))]
  | _ => []

/-- The byte a store writes: that of its register; otherwise what the instruction makes of
the byte `v`. -/
def written (mn : Mnemonic) (v : Byte) (s : Arch β) : Byte :=
  match mn with
  | .STA => s.a
  | .STX => s.x
  | .STY => s.y
  | mn => (exec mn .accumulator { s with a := v }).a

/-- The accesses at the effective address. Immediate bytes and the accumulator have none. -/
def effectAccesses (s : Arch β) (mn : Mnemonic) (o : Operand) : List BusAccess :=
  let ea := s.address o
  match mn.use, o with
  | .none, _ | .read, .immediate _ | .read, .accumulator | .modify, .accumulator => []
  | .read, _ => [.read ea.1]
  | .modify, _ => [.read ea.1, .write ea.1 (written mn (ea.2.read ea.1).1 ea.2)]
  | .store, _ => [.write ea.1 (written mn 0#8 s)]

/-- The accesses of an instruction after its opcode. The first one of `BRK`, `PHA`, `PHP`,
`PLA`, `PLP` and `RTI` is thrown away. -/
def rowAccesses (s : Arch β) (mn : Mnemonic) (mode : Mode) : List BusAccess :=
  match mn with
  | .PHA => [.read s.pc, .write (word 1#8 s.sp) s.a]
  | .PHP => [.read s.pc, .write (word 1#8 s.sp) { s.p with b := true }.toByte]
  | .PLA | .PLP => [.read s.pc, .read (word 1#8 (s.sp + 1#8))]
  | .RTS => [.read (word 1#8 (s.sp + 1#8)), .read (word 1#8 (s.sp + 2#8))]
  | .RTI =>
    [.read s.pc, .read (word 1#8 (s.sp + 1#8)), .read (word 1#8 (s.sp + 2#8)),
      .read (word 1#8 (s.sp + 3#8))]
  | .BRK =>
    [.read s.pc, .write (word 1#8 s.sp) (s.pc + 1#16).hi,
      .write (word 1#8 (s.sp - 1#8)) (s.pc + 1#16).lo,
      .write (word 1#8 (s.sp - 2#8)) { s.p with b := true }.toByte,
      .read 0xFFFE#16, .read 0xFFFF#16]
  | .JSR =>
    -- the return address is pushed between the two operand bytes
    [.read s.pc, .write (word 1#8 s.sp) (s.pc + 1#16).hi,
      .write (word 1#8 (s.sp - 1#8)) (s.pc + 1#16).lo, .read (s.pc + 1#16)]
  | mn =>
    let o := s.fetchOperand mode
    s.operandAccesses mode ++ o.2.pointerAccesses o.1 ++ o.2.effectAccesses mn o.1

/-- The accesses of one instruction. -/
def accesses (s : Arch β) : List BusAccess :=
  .read s.pc ::
    match decode s.fetch.1 with
    | none => []
    | some (mn, mode) => s.fetch.2.rowAccesses mn mode

end Arch

end Isa

end Sys6
