import Sys6.Cpu.Alu

/-!
# The state of the CPU

`CPU6502` holds the registers, the clock, and every latch that survives from one tick
to the next. The bus is a field: reads may change it, as they do for the TTY.
-/

namespace Sys6

/-- What the CPU sees of the world behind its address and data lines. -/
class BusLike (β : Type) where
  read : β → Word → Byte × β
  write : β → Word → Byte → β

inductive CpuStep
  | T0 | T1 | T2 | T3 | T4 | T5 | T6
deriving DecidableEq, Repr

inductive ClockPhase
  | Low | LowToHigh | High | HighToLow
deriving DecidableEq, Repr

inductive AluOp
  | ADC | SBC | AND | ORA | EOR | CMP | ASL | LSR | ROL | ROR | INC | DEC | BIT
deriving DecidableEq, Repr

/-- The status register, bit 0 first. Bit 5 has no name in the source. -/
@[ext] structure PFlags where
  c : Bool := false
  z : Bool := false
  i : Bool := false
  d : Bool := false
  b : Bool := false
  u : Bool := false
  v : Bool := false
  n : Bool := false
deriving DecidableEq, Repr

namespace PFlags

def toByte (p : PFlags) : Byte :=
  BitVec.ofBoolListLE [p.c, p.z, p.i, p.d, p.b, p.u, p.v, p.n]

def ofByte (val : Byte) : PFlags :=
  ⟨val.getLsbD 0, val.getLsbD 1, val.getLsbD 2, val.getLsbD 3, val.getLsbD 4, val.getLsbD 5,
    val.getLsbD 6, val.getLsbD 7⟩

end PFlags

structure EffectiveAddress where
  address : Word
  pageCrossed : Bool

structure CPU6502 (β : Type) where
  bus : β
  a : Byte := 0#8
  x : Byte := 0#8
  y : Byte := 0#8
  pc : Word := 0#16
  sp : Byte := 0#8
  pFlags : PFlags := {}
  cpuStep : CpuStep := .T0
  clockPhase : ClockPhase := .Low
  addrLatch : Word := 0#16
  effAddr : Word := 0#16
  pageCrossed : Bool := false
  ir : Byte := 0#8
  branchOffset : Byte := 0#8
  branchTaken : Bool := false
  halted : Bool := false
  resetActive : Bool := false
  aluA : Byte := 0#8
  aluB : Byte := 0#8
  aluFunction : AluFunction := .ADD
  aluCarryIn : Bool := false
  aluOutput : AluResult := ⟨0#8, false⟩

def indexedAddress (base : Word) (index : Byte) : EffectiveAddress :=
  let address := base + index.setWidth 16
  ⟨address, base &&& 0xFF00#16 != address &&& 0xFF00#16⟩

def relativeAddress (base : Word) (offset : Byte) : EffectiveAddress :=
  let address := base + offset.signExtend 16
  ⟨address, base &&& 0xFF00#16 != address &&& 0xFF00#16⟩

namespace CPU6502

variable {β : Type}

def setA (val : Byte) (cpu : CPU6502 β) : CPU6502 β := { cpu with a := val }

def setX (val : Byte) (cpu : CPU6502 β) : CPU6502 β := { cpu with x := val }

def setY (val : Byte) (cpu : CPU6502 β) : CPU6502 β := { cpu with y := val }

def setPC (val : Word) (cpu : CPU6502 β) : CPU6502 β := { cpu with pc := val }

def setSP (val : Byte) (cpu : CPU6502 β) : CPU6502 β := { cpu with sp := val }

def P (cpu : CPU6502 β) : Byte := cpu.pFlags.toByte

def setP (val : Byte) (cpu : CPU6502 β) : CPU6502 β :=
  { cpu with pFlags := PFlags.ofByte val }

def setCFlag (val : Bool) (cpu : CPU6502 β) : CPU6502 β :=
  { cpu with pFlags := { cpu.pFlags with c := val } }

def setZFlag (val : Bool) (cpu : CPU6502 β) : CPU6502 β :=
  { cpu with pFlags := { cpu.pFlags with z := val } }

def setIFlag (val : Bool) (cpu : CPU6502 β) : CPU6502 β :=
  { cpu with pFlags := { cpu.pFlags with i := val } }

def setDFlag (val : Bool) (cpu : CPU6502 β) : CPU6502 β :=
  { cpu with pFlags := { cpu.pFlags with d := val } }

def setBFlag (val : Bool) (cpu : CPU6502 β) : CPU6502 β :=
  { cpu with pFlags := { cpu.pFlags with b := val } }

def setVFlag (val : Bool) (cpu : CPU6502 β) : CPU6502 β :=
  { cpu with pFlags := { cpu.pFlags with v := val } }

def setNFlag (val : Bool) (cpu : CPU6502 β) : CPU6502 β :=
  { cpu with pFlags := { cpu.pFlags with n := val } }

/-- `m_bus.read(addr)`: the byte goes to `k`, together with the CPU on the bus it leaves. -/
def busRead [BusLike β] (cpu : CPU6502 β) (addr : Word)
    (k : Byte → CPU6502 β → CPU6502 β) : CPU6502 β :=
  k (BusLike.read cpu.bus addr).1 { cpu with bus := (BusLike.read cpu.bus addr).2 }

def busWrite [BusLike β] (cpu : CPU6502 β) (addr : Word) (val : Byte) : CPU6502 β :=
  { cpu with bus := BusLike.write cpu.bus addr val }

def advance (next : CpuStep) (cpu : CPU6502 β) : CPU6502 β := { cpu with cpuStep := next }

def incPC (cpu : CPU6502 β) : CPU6502 β := { cpu with pc := cpu.pc + 1#16 }

end CPU6502

end Sys6
