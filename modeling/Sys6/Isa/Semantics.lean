import Sys6.Cpu.State
import Sys6.Isa.Manual

/-!
# Reference semantics of the instruction set

One step of an NMOS 6502 in binary mode, on any bus. Results and flags are those of the
arithmetic of numbers: the carry of a sum is read off the sum of naturals, the overflow
off the sum of integers. Over a plain memory the bus is a function and reads do nothing
else.
-/

namespace Sys6.Isa

/-- The state a programmer sees, with the bus. -/
structure Arch (β : Type) where
  a : Byte
  x : Byte
  y : Byte
  sp : Byte
  p : PFlags
  pc : Word
  halted : Bool
  bus : β

/-- An addressing mode together with the operand bytes of one instruction. -/
inductive Operand
  | immediate (v : Byte)
  | zeroPage (b : Byte)
  | zeroPageX (b : Byte)
  | zeroPageY (b : Byte)
  | absolute (w : Word)
  | absoluteX (w : Word)
  | absoluteY (w : Word)
  | indirectX (b : Byte)
  | indirectY (b : Byte)
  | accumulator
  | implied
  | relative (d : Byte)
  | indirect (w : Word)
deriving DecidableEq, Repr

instance : BusLike (Word → Byte) where
  read mem addr := (mem addr, mem)
  write mem addr val := Function.update mem addr val

variable {β : Type} [BusLike β]

namespace Arch

def read (addr : Word) (s : Arch β) : Byte × Arch β :=
  ((BusLike.read s.bus addr).1, { s with bus := (BusLike.read s.bus addr).2 })

def write (addr : Word) (val : Byte) (s : Arch β) : Arch β :=
  { s with bus := BusLike.write s.bus addr val }

/-- The byte at PC; PC moves on. -/
def fetch (s : Arch β) : Byte × Arch β :=
  let r := s.read s.pc
  (r.1, { r.2 with pc := s.pc + 1#16 })

def fetchWord (s : Arch β) : Word × Arch β :=
  let lo := s.fetch
  let hi := lo.2.fetch
  (word hi.1 lo.1, hi.2)

def fetchOperand (s : Arch β) : Mode → Operand × Arch β
  | .immediate => (.immediate s.fetch.1, s.fetch.2)
  | .zeroPage => (.zeroPage s.fetch.1, s.fetch.2)
  | .zeroPageX => (.zeroPageX s.fetch.1, s.fetch.2)
  | .zeroPageY => (.zeroPageY s.fetch.1, s.fetch.2)
  | .absolute => (.absolute s.fetchWord.1, s.fetchWord.2)
  | .absoluteX => (.absoluteX s.fetchWord.1, s.fetchWord.2)
  | .absoluteY => (.absoluteY s.fetchWord.1, s.fetchWord.2)
  | .indirectX => (.indirectX s.fetch.1, s.fetch.2)
  | .indirectY => (.indirectY s.fetch.1, s.fetch.2)
  | .accumulator => (.accumulator, s)
  | .implied => (.implied, s)
  | .relative => (.relative s.fetch.1, s.fetch.2)
  | .indirect => (.indirect s.fetchWord.1, s.fetchWord.2)

/-- The word stored in page 0 at `b` and `b + 1`, both taken mod 256. -/
def pointer (b : Byte) (s : Arch β) : Word × Arch β :=
  let lo := s.read (word 0#8 b)
  let hi := lo.2.read (word 0#8 (b + 1#8))
  (word hi.1 lo.1, hi.2)

/-- The effective address. Indexing wraps in page 0 for the zero-page modes and mod 2^16
for the others. Modes without an address get an address that is never used. -/
def address (s : Arch β) : Operand → Word × Arch β
  | .zeroPage b => (word 0#8 b, s)
  | .zeroPageX b => (word 0#8 (b + s.x), s)
  | .zeroPageY b => (word 0#8 (b + s.y), s)
  | .absolute w => (w, s)
  | .absoluteX w => (w + s.x.setWidth 16, s)
  | .absoluteY w => (w + s.y.setWidth 16, s)
  | .indirectX b => s.pointer (b + s.x)
  | .indirectY b => ((s.pointer b).1 + s.y.setWidth 16, (s.pointer b).2)
  | .indirect w =>
    -- the high byte of the target comes from the page of its low byte
    let lo := s.read w
    let hi := lo.2.read (word w.hi (w.lo + 1#8))
    (word hi.1 lo.1, hi.2)
  | _ => (0#16, s)

def operandValue (s : Arch β) : Operand → Byte × Arch β
  | .immediate v => (v, s)
  | .accumulator => (s.a, s)
  | o => (s.address o).2.read (s.address o).1

def setZN (r : Byte) (s : Arch β) : Arch β :=
  { s with p := { s.p with z := decide (r = 0#8), n := r.msb } }

def setA (v : Byte) (s : Arch β) : Arch β := { s.setZN v with a := v }

def setX (v : Byte) (s : Arch β) : Arch β := { s.setZN v with x := v }

def setY (v : Byte) (s : Arch β) : Arch β := { s.setZN v with y := v }

def adc (v : Byte) (s : Arch β) : Arch β :=
  let sum : Nat := s.a.toNat + v.toNat + s.p.c.toNat
  let signed : Int := s.a.toInt + v.toInt + s.p.c.toNat
  { s with p := { s.p with c := decide (256 ≤ sum), v := decide (signed < -128 ∨ 127 < signed) } }
    |>.setA (BitVec.ofNat 8 sum)

def sbc (v : Byte) (s : Arch β) : Arch β :=
  let borrow : Nat := 1 - s.p.c.toNat
  let diff : Int := s.a.toNat - v.toNat - borrow
  let signed : Int := s.a.toInt - v.toInt - borrow
  { s with p := { s.p with c := decide (0 ≤ diff), v := decide (signed < -128 ∨ 127 < signed) } }
    |>.setA (BitVec.ofInt 8 diff)

def compare (r v : Byte) (s : Arch β) : Arch β :=
  { s with p := { s.p with c := decide (v ≤ r) } } |>.setZN (r - v)

def bit (v : Byte) (s : Arch β) : Arch β :=
  { s with p := { s.p with z := decide (s.a &&& v = 0#8), n := v.getLsbD 7, v := v.getLsbD 6 } }

/-- Run `op` on the byte the operand denotes. -/
def onValue (o : Operand) (op : Byte → Arch β → Arch β) (s : Arch β) : Arch β :=
  op (s.operandValue o).1 (s.operandValue o).2

def store (o : Operand) (v : Byte) (s : Arch β) : Arch β :=
  (s.address o).2.write (s.address o).1 v

/-- Replace the byte the operand denotes by `op.1` of it and set the flags of the new byte;
`op.2` is the new carry, where the instruction has one. -/
def modify (o : Operand) (op : Byte → Byte × Option Bool) (s : Arch β) : Arch β :=
  let carry (r : Byte × Option Bool) (s : Arch β) : Arch β :=
    { s with p := { s.p with c := r.2.getD s.p.c } }
  match o with
  | .accumulator => (carry (op s.a) s).setA (op s.a).1
  | o =>
    let ea := s.address o
    let m := ea.2.read ea.1
    (carry (op m.1) (m.2.write ea.1 (op m.1).1)).setZN (op m.1).1

def asl (v : Byte) : Byte × Option Bool :=
  (BitVec.ofNat 8 (2 * v.toNat), some (decide (256 ≤ 2 * v.toNat)))

def lsr (v : Byte) : Byte × Option Bool :=
  (BitVec.ofNat 8 (v.toNat / 2), some (decide (v.toNat % 2 = 1)))

def rol (c : Bool) (v : Byte) : Byte × Option Bool :=
  (BitVec.ofNat 8 (2 * v.toNat + c.toNat), some (decide (256 ≤ 2 * v.toNat)))

def ror (c : Bool) (v : Byte) : Byte × Option Bool :=
  (BitVec.ofNat 8 (v.toNat / 2 + 128 * c.toNat), some (decide (v.toNat % 2 = 1)))

def inc (v : Byte) : Byte × Option Bool := (v + 1#8, none)

def dec (v : Byte) : Byte × Option Bool := (v - 1#8, none)

/-- Relative to the PC after the branch instruction. -/
def branch (o : Operand) (taken : Bool) (s : Arch β) : Arch β :=
  match o with
  | .relative d => if taken then { s with pc := s.pc + d.signExtend 16 } else s
  | _ => s

def push (v : Byte) (s : Arch β) : Arch β :=
  { s.write (word 1#8 s.sp) v with sp := s.sp - 1#8 }

def pull (s : Arch β) : Byte × Arch β :=
  { s with sp := s.sp + 1#8 }.read (word 1#8 (s.sp + 1#8))

def pushWord (w : Word) (s : Arch β) : Arch β := (s.push w.hi).push w.lo

def pullWord (s : Arch β) : Word × Arch β :=
  let lo := s.pull
  let hi := lo.2.pull
  (word hi.1 lo.1, hi.2)

/-- The byte after the opcode is read and ignored. -/
def discard (s : Arch β) : Arch β := (s.read s.pc).2

def jsr (s : Arch β) : Arch β :=
  let lo := s.fetch
  let pushed := lo.2.pushWord lo.2.pc
  let hi := pushed.read pushed.pc
  { hi.2 with pc := word hi.1 lo.1 }

def rts (s : Arch β) : Arch β :=
  let r := s.pullWord
  { r.2 with pc := r.1 + 1#16 }

def brk (s : Arch β) : Arch β :=
  let s := s.fetch.2
  let s := (s.pushWord s.pc).push { s.p with b := true }.toByte
  let lo := s.read 0xFFFE#16
  let hi := lo.2.read 0xFFFF#16
  { hi.2 with pc := word hi.1 lo.1, p := { s.p with i := true }, halted := true }

def rti (s : Arch β) : Arch β :=
  let p := s.discard.pull
  let w := p.2.pullWord
  { w.2 with p := PFlags.ofByte p.1, pc := w.1 }

end Arch

open Arch in
/-- The effect of an instruction once its operand bytes are read and PC is past them. `JSR`
fetches its high operand byte after its pushes; the row here is for code off the stack page,
and `step` uses `Arch.jsr`. -/
def exec (mn : Mnemonic) (o : Operand) (s : Arch β) : Arch β :=
  match mn with
  | .ADC => s.onValue o adc
  | .SBC => s.onValue o sbc
  | .AND => s.onValue o fun v s => s.setA (s.a &&& v)
  | .ORA => s.onValue o fun v s => s.setA (s.a ||| v)
  | .EOR => s.onValue o fun v s => s.setA (s.a ^^^ v)
  | .CMP => s.onValue o fun v s => s.compare s.a v
  | .CPX => s.onValue o fun v s => s.compare s.x v
  | .CPY => s.onValue o fun v s => s.compare s.y v
  | .BIT => s.onValue o bit
  | .ASL => s.modify o asl
  | .LSR => s.modify o lsr
  | .ROL => s.modify o (rol s.p.c)
  | .ROR => s.modify o (ror s.p.c)
  | .INC => s.modify o inc
  | .DEC => s.modify o dec
  | .INX => s.setX (s.x + 1#8)
  | .DEX => s.setX (s.x - 1#8)
  | .INY => s.setY (s.y + 1#8)
  | .DEY => s.setY (s.y - 1#8)
  | .TAX => s.setX s.a
  | .TXA => s.setA s.x
  | .TAY => s.setY s.a
  | .TYA => s.setA s.y
  | .TSX => s.setX s.sp
  | .TXS => { s with sp := s.x }
  | .LDA => s.onValue o setA
  | .LDX => s.onValue o setX
  | .LDY => s.onValue o setY
  | .STA => s.store o s.a
  | .STX => s.store o s.x
  | .STY => s.store o s.y
  | .BPL => s.branch o (!s.p.n)
  | .BMI => s.branch o s.p.n
  | .BVC => s.branch o (!s.p.v)
  | .BVS => s.branch o s.p.v
  | .BCC => s.branch o (!s.p.c)
  | .BCS => s.branch o s.p.c
  | .BNE => s.branch o (!s.p.z)
  | .BEQ => s.branch o s.p.z
  | .CLC => { s with p := { s.p with c := false } }
  | .SEC => { s with p := { s.p with c := true } }
  | .CLI => { s with p := { s.p with i := false } }
  | .SEI => { s with p := { s.p with i := true } }
  | .CLV => { s with p := { s.p with v := false } }
  | .CLD => { s with p := { s.p with d := false } }
  | .SED => { s with p := { s.p with d := true } }
  | .BRK => s.brk
  | .JSR => { s.pushWord (s.pc - 1#16) with pc := (s.address o).1 }
  | .RTS => s.rts
  | .JMP => { (s.address o).2 with pc := (s.address o).1 }
  | .PHA => s.discard.push s.a
  | .PLA => (s.discard.pull).2.setA (s.discard.pull).1
  | .PHP => s.discard.push { s.p with b := true }.toByte
  | .PLP => { (s.discard.pull).2 with p := PFlags.ofByte (s.discard.pull).1 }
  | .RTI => s.rti
  | .NOP => s

/-- One instruction. -/
def step (s : Arch β) : Arch β :=
  let op := s.fetch
  match decode op.1 with
  | none => op.2
  | some (.JSR, _) => op.2.jsr
  | some (mn, mode) => exec mn (op.2.fetchOperand mode).1 (op.2.fetchOperand mode).2

end Sys6.Isa
