import Sys6.Cpu.Selectors

/-!
# Capture and commit handlers

A capture handler runs at the rising clock edge and fills latches, a commit handler runs
at the falling edge and changes registers and memory. The copies of an addressing mode
that differ only in the index register, or in what is done with the operand, are one
definition with that as a parameter; each handler of the source is an application of it.
-/

namespace Sys6.CPU6502

variable {β : Type} [BusLike β]

def reg (cpu : CPU6502 β) : Reg → Byte
  | .A => cpu.a
  | .X => cpu.x
  | .Y => cpu.y

def beginBinaryAluOp (aluOp : AluOp) (regValue operand : Byte) (cpu : CPU6502 β) : CPU6502 β :=
  let cpu := { cpu with aluA := regValue, aluB := operand, aluCarryIn := cpu.pFlags.c }
  match aluOp with
  | .ADC => { cpu with aluFunction := .ADD }
  | .SBC => { cpu with aluFunction := .ADD, aluB := ~~~operand }
  | .AND => { cpu with aluFunction := .AND }
  | .ORA => { cpu with aluFunction := .OR }
  | .EOR => { cpu with aluFunction := .XOR }
  | .CMP => { cpu with aluFunction := .ADD, aluB := ~~~operand, aluCarryIn := true }
  | .BIT => { cpu with aluFunction := .AND }
  | _ => cpu

def applyBinaryAluOp (operand : Byte) (cpu : CPU6502 β) : CPU6502 β :=
  match binaryAluSelect cpu.ir with
  | some (aluOp, r) => cpu.beginBinaryAluOp aluOp (cpu.reg r) operand
  | none => cpu

def commitBinaryAluResult (cpu : CPU6502 β) : CPU6502 β :=
  let out := cpu.aluOutput
  match binaryCommitSelect cpu.ir with
  | some .arithmetic =>
    ((((cpu.setA out.value).setCFlag out.carry).setZFlag (aluZero out.value)).setVFlag
      (aluOverflow cpu.aluA cpu.aluB out.value)).setNFlag (aluNegative out.value)
  | some .logical =>
    ((cpu.setA out.value).setZFlag (aluZero out.value)).setNFlag (aluNegative out.value)
  | some .compare =>
    ((cpu.setCFlag out.carry).setZFlag (aluZero out.value)).setNFlag (aluNegative out.value)
  | some .bitTest =>
    -- N and V are bits 7 and 6 of the operand itself, which still stands in `aluB`
    ((cpu.setZFlag (aluZero out.value)).setNFlag (cpu.aluB &&& 0x80#8 != 0#8)).setVFlag
      (cpu.aluB &&& 0x40#8 != 0#8)
  | none => cpu

def beginUnaryAluOp (aluOp : AluOp) (value : Byte) (cpu : CPU6502 β) : CPU6502 β :=
  let cpu := { cpu with aluB := value }
  match aluOp with
  | .ASL => { cpu with aluFunction := .SHL, aluCarryIn := false }
  | .LSR => { cpu with aluFunction := .SHR, aluCarryIn := false }
  | .ROL => { cpu with aluFunction := .ROL, aluCarryIn := cpu.pFlags.c }
  | .ROR => { cpu with aluFunction := .ROR, aluCarryIn := cpu.pFlags.c }
  | .INC => { cpu with aluFunction := .ADD, aluA := 0x01#8, aluCarryIn := false }
  | .DEC => { cpu with aluFunction := .ADD, aluA := 0xFF#8, aluCarryIn := false }
  | _ => cpu

def applyUnaryAluOp (value : Byte) (cpu : CPU6502 β) : CPU6502 β :=
  match unaryAluSelect cpu.ir with
  | some aluOp => cpu.beginUnaryAluOp aluOp value
  | none => cpu

def commitUnaryAluFlags (cpu : CPU6502 β) : CPU6502 β :=
  let out := cpu.aluOutput
  match unaryCommitSelect cpu.ir with
  | some .shift =>
    ((cpu.setCFlag out.carry).setZFlag (aluZero out.value)).setNFlag (aluNegative out.value)
  | some .incDec => (cpu.setZFlag (aluZero out.value)).setNFlag (aluNegative out.value)
  | none => cpu

/-- A load passes its byte through the ALU: OR with zero. -/
def loadOperand (operand : Byte) (cpu : CPU6502 β) : CPU6502 β :=
  { cpu with aluA := 0#8, aluB := operand, aluFunction := .OR }

def commitLoadResult (cpu : CPU6502 β) : CPU6502 β :=
  let value := cpu.aluOutput.value
  let cpu := match loadSelect cpu.ir with
    | some .A => cpu.setA value
    | some .X => cpu.setX value
    | some .Y => cpu.setY value
    | none => cpu
  (cpu.setZFlag (aluZero value)).setNFlag (aluNegative value)

def storeSourceValue (cpu : CPU6502 β) : Byte :=
  match storeSelect cpu.ir with
  | some r => cpu.reg r
  | none => 0#8

/-! ## The T-states of the addressing modes -/

def latchLow (cpu : CPU6502 β) : CPU6502 β :=
  cpu.busRead cpu.pc fun v cpu => { cpu with addrLatch := v.setWidth 16 }

def latchHigh (cpu : CPU6502 β) : CPU6502 β :=
  cpu.busRead cpu.pc fun v cpu => { cpu with addrLatch := cpu.addrLatch ||| v.setWidth 16 <<< 8 }

def indexZeroPage (index : Byte) (cpu : CPU6502 β) : CPU6502 β :=
  { cpu with addrLatch := (cpu.addrLatch + index.setWidth 16) &&& 0xFF#16 }

/-- The second operand byte arrives and the index is added, with the page-cross latch. -/
def resolveIndexed (index : Byte) (cpu : CPU6502 β) : CPU6502 β :=
  cpu.busRead cpu.pc fun v cpu =>
    let resolved := indexedAddress (cpu.addrLatch ||| v.setWidth 16 <<< 8) index
    { cpu with effAddr := resolved.address, pageCrossed := resolved.pageCrossed }

/-- As `resolveIndexed`, for the instructions that do not consult the page-cross latch. -/
def resolveIndexedFixed (index : Byte) (cpu : CPU6502 β) : CPU6502 β :=
  cpu.busRead cpu.pc fun v cpu =>
    let resolved := indexedAddress (cpu.addrLatch ||| v.setWidth 16 <<< 8) index
    { cpu with effAddr := resolved.address }

def pointerLow (cpu : CPU6502 β) : CPU6502 β :=
  cpu.busRead cpu.addrLatch fun v cpu => { cpu with effAddr := v.setWidth 16 }

def pointerHigh (cpu : CPU6502 β) : CPU6502 β :=
  cpu.busRead ((cpu.addrLatch + 1#16) &&& 0xFF#16) fun v cpu =>
    { cpu with effAddr := cpu.effAddr ||| v.setWidth 16 <<< 8 }

def resolvePointer (index : Byte) (cpu : CPU6502 β) : CPU6502 β :=
  cpu.busRead ((cpu.addrLatch + 1#16) &&& 0xFF#16) fun v cpu =>
    let resolved := indexedAddress (cpu.effAddr ||| v.setWidth 16 <<< 8) index
    { cpu with effAddr := resolved.address, pageCrossed := resolved.pageCrossed }

def resolvePointerFixed (index : Byte) (cpu : CPU6502 β) : CPU6502 β :=
  cpu.busRead ((cpu.addrLatch + 1#16) &&& 0xFF#16) fun v cpu =>
    let resolved := indexedAddress (cpu.effAddr ||| v.setWidth 16 <<< 8) index
    { cpu with effAddr := resolved.address }

section Operand

/-! Modes that read an operand: `use` takes the byte, `finish` commits the result. -/

variable (use : Byte → CPU6502 β → CPU6502 β) (finish : CPU6502 β → CPU6502 β)

def captureImmediate (cpu : CPU6502 β) : CPU6502 β := cpu.busRead cpu.pc use

def commitImmediate (cpu : CPU6502 β) : CPU6502 β := (finish cpu.incPC).advance .T0

def captureZeroPage (cpu : CPU6502 β) : CPU6502 β :=
  match cpu.cpuStep with
  | .T1 => cpu.latchLow
  | .T2 => cpu.busRead cpu.addrLatch use
  | _ => cpu

def commitZeroPage (cpu : CPU6502 β) : CPU6502 β :=
  match cpu.cpuStep with
  | .T1 => cpu.incPC.advance .T2
  | .T2 => (finish cpu).advance .T0
  | _ => cpu

def captureZeroPageIndexed (index : CPU6502 β → Byte) (cpu : CPU6502 β) : CPU6502 β :=
  match cpu.cpuStep with
  | .T1 => cpu.latchLow
  | .T2 => cpu.indexZeroPage (index cpu)
  | .T3 => cpu.busRead cpu.addrLatch use
  | _ => cpu

def commitZeroPageIndexed (cpu : CPU6502 β) : CPU6502 β :=
  match cpu.cpuStep with
  | .T1 => cpu.incPC.advance .T2
  | .T2 => cpu.advance .T3
  | .T3 => (finish cpu).advance .T0
  | _ => cpu

def captureAbsolute (cpu : CPU6502 β) : CPU6502 β :=
  match cpu.cpuStep with
  | .T1 => cpu.latchLow
  | .T2 => cpu.latchHigh
  | .T3 => cpu.busRead cpu.addrLatch use
  | _ => cpu

def commitAbsolute (cpu : CPU6502 β) : CPU6502 β :=
  match cpu.cpuStep with
  | .T1 => cpu.incPC.advance .T2
  | .T2 => cpu.incPC.advance .T3
  | .T3 => (finish cpu).advance .T0
  | _ => cpu

def captureAbsoluteIndexed (index : CPU6502 β → Byte) (cpu : CPU6502 β) : CPU6502 β :=
  match cpu.cpuStep with
  | .T1 => cpu.latchLow
  | .T2 => cpu.resolveIndexed (index cpu)
  | .T3 => if !cpu.pageCrossed then cpu.busRead cpu.effAddr use else cpu
  | .T4 => cpu.busRead cpu.effAddr use
  | _ => cpu

def commitAbsoluteIndexed (cpu : CPU6502 β) : CPU6502 β :=
  match cpu.cpuStep with
  | .T1 => cpu.incPC.advance .T2
  | .T2 => cpu.incPC.advance .T3
  | .T3 => if cpu.pageCrossed then cpu.advance .T4 else (finish cpu).advance .T0
  | .T4 => (finish cpu).advance .T0
  | _ => cpu

def captureIndirectX (cpu : CPU6502 β) : CPU6502 β :=
  match cpu.cpuStep with
  | .T1 => cpu.latchLow
  | .T2 => cpu.indexZeroPage cpu.x
  | .T3 => cpu.pointerLow
  | .T4 => cpu.pointerHigh
  | .T5 => cpu.busRead cpu.effAddr use
  | _ => cpu

def commitIndirectX (cpu : CPU6502 β) : CPU6502 β :=
  match cpu.cpuStep with
  | .T1 => cpu.incPC.advance .T2
  | .T2 => cpu.advance .T3
  | .T3 => cpu.advance .T4
  | .T4 => cpu.advance .T5
  | .T5 => (finish cpu).advance .T0
  | _ => cpu

def captureIndirectY (cpu : CPU6502 β) : CPU6502 β :=
  match cpu.cpuStep with
  | .T1 => cpu.latchLow
  | .T2 => cpu.pointerLow
  | .T3 => cpu.resolvePointer cpu.y
  | .T4 => if !cpu.pageCrossed then cpu.busRead cpu.effAddr use else cpu
  | .T5 => cpu.busRead cpu.effAddr use
  | _ => cpu

def commitIndirectY (cpu : CPU6502 β) : CPU6502 β :=
  match cpu.cpuStep with
  | .T1 => cpu.incPC.advance .T2
  | .T2 => cpu.advance .T3
  | .T3 => cpu.advance .T4
  | .T4 => if cpu.pageCrossed then cpu.advance .T5 else (finish cpu).advance .T0
  | .T5 => (finish cpu).advance .T0
  | _ => cpu

end Operand

def captureReadImmediate : CPU6502 β → CPU6502 β := captureImmediate applyBinaryAluOp

def commitReadImmediate : CPU6502 β → CPU6502 β := commitImmediate commitBinaryAluResult

def captureReadZeroPage : CPU6502 β → CPU6502 β := captureZeroPage applyBinaryAluOp

def commitReadZeroPage : CPU6502 β → CPU6502 β := commitZeroPage commitBinaryAluResult

def captureReadZeroPageX : CPU6502 β → CPU6502 β :=
  captureZeroPageIndexed applyBinaryAluOp CPU6502.x

def commitReadZeroPageX : CPU6502 β → CPU6502 β := commitZeroPageIndexed commitBinaryAluResult

def captureReadAbsolute : CPU6502 β → CPU6502 β := captureAbsolute applyBinaryAluOp

def commitReadAbsolute : CPU6502 β → CPU6502 β := commitAbsolute commitBinaryAluResult

def captureReadAbsoluteX : CPU6502 β → CPU6502 β :=
  captureAbsoluteIndexed applyBinaryAluOp CPU6502.x

def commitReadAbsoluteX : CPU6502 β → CPU6502 β := commitAbsoluteIndexed commitBinaryAluResult

def captureReadAbsoluteY : CPU6502 β → CPU6502 β :=
  captureAbsoluteIndexed applyBinaryAluOp CPU6502.y

def commitReadAbsoluteY : CPU6502 β → CPU6502 β := commitAbsoluteIndexed commitBinaryAluResult

def captureReadIndirectX : CPU6502 β → CPU6502 β := captureIndirectX applyBinaryAluOp

def commitReadIndirectX : CPU6502 β → CPU6502 β := commitIndirectX commitBinaryAluResult

def captureReadIndirectY : CPU6502 β → CPU6502 β := captureIndirectY applyBinaryAluOp

def commitReadIndirectY : CPU6502 β → CPU6502 β := commitIndirectY commitBinaryAluResult

def captureLoadImmediate : CPU6502 β → CPU6502 β := captureImmediate loadOperand

def commitLoadImmediate : CPU6502 β → CPU6502 β := commitImmediate commitLoadResult

def captureLoadZeroPage : CPU6502 β → CPU6502 β := captureZeroPage loadOperand

def commitLoadZeroPage : CPU6502 β → CPU6502 β := commitZeroPage commitLoadResult

def captureLoadZeroPageX : CPU6502 β → CPU6502 β := captureZeroPageIndexed loadOperand CPU6502.x

def commitLoadZeroPageX : CPU6502 β → CPU6502 β := commitZeroPageIndexed commitLoadResult

def captureLoadZeroPageY : CPU6502 β → CPU6502 β := captureZeroPageIndexed loadOperand CPU6502.y

def commitLoadZeroPageY : CPU6502 β → CPU6502 β := commitZeroPageIndexed commitLoadResult

def captureLoadAbsolute : CPU6502 β → CPU6502 β := captureAbsolute loadOperand

def commitLoadAbsolute : CPU6502 β → CPU6502 β := commitAbsolute commitLoadResult

def captureLoadAbsoluteX : CPU6502 β → CPU6502 β := captureAbsoluteIndexed loadOperand CPU6502.x

def commitLoadAbsoluteX : CPU6502 β → CPU6502 β := commitAbsoluteIndexed commitLoadResult

def captureLoadAbsoluteY : CPU6502 β → CPU6502 β := captureAbsoluteIndexed loadOperand CPU6502.y

def commitLoadAbsoluteY : CPU6502 β → CPU6502 β := commitAbsoluteIndexed commitLoadResult

def captureLoadIndirectX : CPU6502 β → CPU6502 β := captureIndirectX loadOperand

def commitLoadIndirectX : CPU6502 β → CPU6502 β := commitIndirectX commitLoadResult

def captureLoadIndirectY : CPU6502 β → CPU6502 β := captureIndirectY loadOperand

def commitLoadIndirectY : CPU6502 β → CPU6502 β := commitIndirectY commitLoadResult

def captureShiftAccumulator (cpu : CPU6502 β) : CPU6502 β := cpu.applyUnaryAluOp cpu.a

def commitShiftAccumulator (cpu : CPU6502 β) : CPU6502 β :=
  (cpu.setA cpu.aluOutput.value).commitUnaryAluFlags.advance .T0

/-- The last T-state of a read-modify-write instruction. -/
def commitRmwResult (addr : Word) (cpu : CPU6502 β) : CPU6502 β :=
  (cpu.busWrite addr cpu.aluOutput.value).commitUnaryAluFlags.advance .T0

def captureRmwZeroPage : CPU6502 β → CPU6502 β := captureZeroPage applyUnaryAluOp

def commitRmwZeroPage (cpu : CPU6502 β) : CPU6502 β :=
  match cpu.cpuStep with
  | .T1 => cpu.incPC.advance .T2
  | .T2 => cpu.advance .T3
  | .T3 => cpu.advance .T4
  | .T4 => cpu.commitRmwResult cpu.addrLatch
  | _ => cpu

def captureRmwZeroPageX : CPU6502 β → CPU6502 β :=
  captureZeroPageIndexed applyUnaryAluOp CPU6502.x

def commitRmwZeroPageX (cpu : CPU6502 β) : CPU6502 β :=
  match cpu.cpuStep with
  | .T1 => cpu.incPC.advance .T2
  | .T2 => cpu.advance .T3
  | .T3 => cpu.advance .T4
  | .T4 => cpu.advance .T5
  | .T5 => cpu.commitRmwResult cpu.addrLatch
  | _ => cpu

def captureRmwAbsolute : CPU6502 β → CPU6502 β := captureAbsolute applyUnaryAluOp

def commitRmwAbsolute (cpu : CPU6502 β) : CPU6502 β :=
  match cpu.cpuStep with
  | .T1 => cpu.incPC.advance .T2
  | .T2 => cpu.incPC.advance .T3
  | .T3 => cpu.advance .T4
  | .T4 => cpu.advance .T5
  | .T5 => cpu.commitRmwResult cpu.addrLatch
  | _ => cpu

def captureRmwAbsoluteX (cpu : CPU6502 β) : CPU6502 β :=
  match cpu.cpuStep with
  | .T1 => cpu.latchLow
  | .T2 => cpu.resolveIndexedFixed cpu.x
  | .T4 => cpu.busRead cpu.effAddr applyUnaryAluOp
  | _ => cpu

def commitRmwAbsoluteX (cpu : CPU6502 β) : CPU6502 β :=
  match cpu.cpuStep with
  | .T1 => cpu.incPC.advance .T2
  | .T2 => cpu.incPC.advance .T3
  | .T3 => cpu.advance .T4
  | .T4 => cpu.advance .T5
  | .T5 => cpu.advance .T6
  | .T6 => cpu.commitRmwResult cpu.effAddr
  | _ => cpu

def captureStoreZeroPage (cpu : CPU6502 β) : CPU6502 β :=
  match cpu.cpuStep with
  | .T1 => cpu.latchLow
  | _ => cpu

def commitStoreZeroPage (cpu : CPU6502 β) : CPU6502 β :=
  match cpu.cpuStep with
  | .T1 => cpu.incPC.advance .T2
  | .T2 => (cpu.busWrite cpu.addrLatch cpu.storeSourceValue).advance .T0
  | _ => cpu

def captureStoreZeroPageIndexed (index : CPU6502 β → Byte) (cpu : CPU6502 β) : CPU6502 β :=
  match cpu.cpuStep with
  | .T1 => cpu.latchLow
  | .T2 => cpu.indexZeroPage (index cpu)
  | _ => cpu

def commitStoreZeroPageIndexed (cpu : CPU6502 β) : CPU6502 β :=
  match cpu.cpuStep with
  | .T1 => cpu.incPC.advance .T2
  | .T2 => cpu.advance .T3
  | .T3 => (cpu.busWrite cpu.addrLatch cpu.storeSourceValue).advance .T0
  | _ => cpu

def captureStoreZeroPageX : CPU6502 β → CPU6502 β := captureStoreZeroPageIndexed CPU6502.x

def commitStoreZeroPageX : CPU6502 β → CPU6502 β := commitStoreZeroPageIndexed

def captureStoreZeroPageY : CPU6502 β → CPU6502 β := captureStoreZeroPageIndexed CPU6502.y

def commitStoreZeroPageY : CPU6502 β → CPU6502 β := commitStoreZeroPageIndexed

def captureStoreAbsolute (cpu : CPU6502 β) : CPU6502 β :=
  match cpu.cpuStep with
  | .T1 => cpu.latchLow
  | .T2 => cpu.latchHigh
  | _ => cpu

def commitStoreAbsolute (cpu : CPU6502 β) : CPU6502 β :=
  match cpu.cpuStep with
  | .T1 => cpu.incPC.advance .T2
  | .T2 => cpu.incPC.advance .T3
  | .T3 => (cpu.busWrite cpu.addrLatch cpu.storeSourceValue).advance .T0
  | _ => cpu

def captureStoreAbsoluteIndexed (index : CPU6502 β → Byte) (cpu : CPU6502 β) : CPU6502 β :=
  match cpu.cpuStep with
  | .T1 => cpu.latchLow
  | .T2 => cpu.resolveIndexedFixed (index cpu)
  | _ => cpu

def commitStoreAbsoluteIndexed (cpu : CPU6502 β) : CPU6502 β :=
  match cpu.cpuStep with
  | .T1 => cpu.incPC.advance .T2
  | .T2 => cpu.incPC.advance .T3
  | .T3 => cpu.advance .T4
  | .T4 => (cpu.busWrite cpu.effAddr cpu.storeSourceValue).advance .T0
  | _ => cpu

def captureStoreAbsoluteX : CPU6502 β → CPU6502 β := captureStoreAbsoluteIndexed CPU6502.x

def commitStoreAbsoluteX : CPU6502 β → CPU6502 β := commitStoreAbsoluteIndexed

def captureStoreAbsoluteY : CPU6502 β → CPU6502 β := captureStoreAbsoluteIndexed CPU6502.y

def commitStoreAbsoluteY : CPU6502 β → CPU6502 β := commitStoreAbsoluteIndexed

def captureStoreIndirectX (cpu : CPU6502 β) : CPU6502 β :=
  match cpu.cpuStep with
  | .T1 => cpu.latchLow
  | .T2 => cpu.indexZeroPage cpu.x
  | .T3 => cpu.pointerLow
  | .T4 => cpu.pointerHigh
  | _ => cpu

def captureStoreIndirectY (cpu : CPU6502 β) : CPU6502 β :=
  match cpu.cpuStep with
  | .T1 => cpu.latchLow
  | .T2 => cpu.pointerLow
  | .T3 => cpu.resolvePointerFixed cpu.y
  | _ => cpu

/-- `commitStoreIndirectX` and `commitStoreIndirectY` have the same T-states. -/
def commitStoreIndirect (cpu : CPU6502 β) : CPU6502 β :=
  match cpu.cpuStep with
  | .T1 => cpu.incPC.advance .T2
  | .T2 => cpu.advance .T3
  | .T3 => cpu.advance .T4
  | .T4 => cpu.advance .T5
  | .T5 => (cpu.busWrite cpu.effAddr cpu.storeSourceValue).advance .T0
  | _ => cpu

def commitStoreIndirectX : CPU6502 β → CPU6502 β := commitStoreIndirect

def commitStoreIndirectY : CPU6502 β → CPU6502 β := commitStoreIndirect

def captureImpliedIncDec (cpu : CPU6502 β) : CPU6502 β :=
  if cpu.ir = cOpINX then cpu.beginUnaryAluOp .INC cpu.x
  else if cpu.ir = cOpDEX then cpu.beginUnaryAluOp .DEC cpu.x
  else if cpu.ir = cOpINY then cpu.beginUnaryAluOp .INC cpu.y
  else if cpu.ir = cOpDEY then cpu.beginUnaryAluOp .DEC cpu.y
  else cpu

def commitImpliedIncDec (cpu : CPU6502 β) : CPU6502 β :=
  let value := cpu.aluOutput.value
  let cpu :=
    if cpu.ir ∈ [cOpINX, cOpDEX] then cpu.setX value
    else if cpu.ir ∈ [cOpINY, cOpDEY] then cpu.setY value
    else cpu
  ((cpu.setZFlag (aluZero value)).setNFlag (aluNegative value)).advance .T0

def captureImpliedTransfer (cpu : CPU6502 β) : CPU6502 β :=
  let source :=
    if cpu.ir ∈ [cOpTAX, cOpTAY] then cpu.a
    else if cpu.ir ∈ [cOpTXA, cOpTXS] then cpu.x
    else if cpu.ir = cOpTYA then cpu.y
    else if cpu.ir = cOpTSX then cpu.sp
    else 0#8
  { cpu with aluA := 0#8, aluB := source, aluFunction := .OR }

def commitImpliedTransfer (cpu : CPU6502 β) : CPU6502 β :=
  let value := cpu.aluOutput.value
  let cpu :=
    if cpu.ir ∈ [cOpTAX, cOpTSX] then
      ((cpu.setX value).setZFlag (aluZero value)).setNFlag (aluNegative value)
    else if cpu.ir = cOpTAY then
      ((cpu.setY value).setZFlag (aluZero value)).setNFlag (aluNegative value)
    else if cpu.ir ∈ [cOpTXA, cOpTYA] then
      ((cpu.setA value).setZFlag (aluZero value)).setNFlag (aluNegative value)
    else if cpu.ir = cOpTXS then cpu.setSP value
    else cpu
  cpu.advance .T0

def captureImpliedFlagOp (cpu : CPU6502 β) : CPU6502 β := cpu

def commitImpliedFlagOp (cpu : CPU6502 β) : CPU6502 β :=
  let cpu :=
    if cpu.ir = cOpCLC then cpu.setCFlag false
    else if cpu.ir = cOpSEC then cpu.setCFlag true
    else if cpu.ir = cOpCLI then cpu.setIFlag false
    else if cpu.ir = cOpSEI then cpu.setIFlag true
    else if cpu.ir = cOpCLV then cpu.setVFlag false
    else if cpu.ir = cOpCLD then cpu.setDFlag false
    else if cpu.ir = cOpSED then cpu.setDFlag true
    else cpu
  cpu.advance .T0

def captureNOP (cpu : CPU6502 β) : CPU6502 β := cpu

def commitNOP (cpu : CPU6502 β) : CPU6502 β := cpu.advance .T0

/-! ## Branches and jumps -/

def evaluateBranchCondition (opcode : Byte) (cFlag zFlag nFlag vFlag : Bool) : Bool :=
  if opcode = cOpBPL then !nFlag
  else if opcode = cOpBMI then nFlag
  else if opcode = cOpBVC then !vFlag
  else if opcode = cOpBVS then vFlag
  else if opcode = cOpBCC then !cFlag
  else if opcode = cOpBCS then cFlag
  else if opcode = cOpBNE then !zFlag
  else if opcode = cOpBEQ then zFlag
  else false

def captureBranch (cpu : CPU6502 β) : CPU6502 β :=
  match cpu.cpuStep with
  | .T1 =>
    cpu.busRead cpu.pc fun v cpu =>
      { cpu with
        branchOffset := v
        branchTaken := evaluateBranchCondition cpu.ir cpu.pFlags.c cpu.pFlags.z cpu.pFlags.n
          cpu.pFlags.v }
  | .T2 =>
    let resolved := relativeAddress cpu.pc cpu.branchOffset
    { cpu with effAddr := resolved.address, pageCrossed := resolved.pageCrossed }
  | _ => cpu

def commitBranch (cpu : CPU6502 β) : CPU6502 β :=
  match cpu.cpuStep with
  | .T1 => cpu.incPC.advance (if cpu.branchTaken then .T2 else .T0)
  | .T2 => if cpu.pageCrossed then cpu.advance .T3 else (cpu.setPC cpu.effAddr).advance .T0
  | .T3 => (cpu.setPC cpu.effAddr).advance .T0
  | _ => cpu

/-- `0x0100 + m_SP` -/
def stackAddr (cpu : CPU6502 β) : Word := 0x0100#16 + cpu.sp.setWidth 16

def push (val : Byte) (cpu : CPU6502 β) : CPU6502 β :=
  (cpu.busWrite cpu.stackAddr val).setSP (cpu.sp - 1#8)

def incSP (cpu : CPU6502 β) : CPU6502 β := cpu.setSP (cpu.sp + 1#8)

def pcHigh (cpu : CPU6502 β) : Byte := (cpu.pc >>> 8).setWidth 8

def pcLow (cpu : CPU6502 β) : Byte := (cpu.pc &&& 0xFF#16).setWidth 8

/-- The dummy read of the byte after the opcode. -/
def discardRead (cpu : CPU6502 β) : CPU6502 β := cpu.busRead cpu.pc fun _ cpu => cpu

def captureBRK (cpu : CPU6502 β) : CPU6502 β :=
  match cpu.cpuStep with
  | .T1 => cpu.discardRead
  | .T5 => cpu.busRead cBRKVector fun v cpu => { cpu with addrLatch := v.setWidth 16 }
  | .T6 =>
    cpu.busRead (cBRKVector + 1#16) fun v cpu =>
      { cpu with addrLatch := cpu.addrLatch ||| v.setWidth 16 <<< 8 }
  | _ => cpu

def commitBRK (cpu : CPU6502 β) : CPU6502 β :=
  match cpu.cpuStep with
  | .T1 => cpu.incPC.advance .T2
  | .T2 => (cpu.push cpu.pcHigh).advance .T3
  | .T3 => (cpu.push cpu.pcLow).advance .T4
  | .T4 =>
    let cpu := cpu.setBFlag true
    ((cpu.push cpu.P).setIFlag true).advance .T5
  | .T5 => cpu.advance .T6
  | .T6 => { cpu.setPC cpu.addrLatch with halted := true, cpuStep := .T0 }
  | _ => cpu

def captureJSR (cpu : CPU6502 β) : CPU6502 β :=
  match cpu.cpuStep with
  | .T1 => cpu.latchLow
  | .T5 =>
    cpu.busRead cpu.pc fun v cpu =>
      { cpu with addrLatch := cpu.addrLatch &&& 0x00FF#16 ||| v.setWidth 16 <<< 8 }
  | _ => cpu

def commitJSR (cpu : CPU6502 β) : CPU6502 β :=
  match cpu.cpuStep with
  | .T1 => cpu.incPC.advance .T2
  | .T2 => cpu.advance .T3
  | .T3 => (cpu.push cpu.pcHigh).advance .T4
  | .T4 => (cpu.push cpu.pcLow).advance .T5
  | .T5 => (cpu.setPC cpu.addrLatch).advance .T0
  | _ => cpu

def captureRTS (cpu : CPU6502 β) : CPU6502 β :=
  match cpu.cpuStep with
  | .T3 => cpu.busRead cpu.stackAddr fun v cpu => { cpu with addrLatch := v.setWidth 16 }
  | .T4 =>
    cpu.busRead cpu.stackAddr fun v cpu =>
      { cpu with addrLatch := cpu.addrLatch &&& 0x00FF#16 ||| v.setWidth 16 <<< 8 }
  | _ => cpu

def commitRTS (cpu : CPU6502 β) : CPU6502 β :=
  match cpu.cpuStep with
  | .T1 => cpu.advance .T2
  | .T2 => cpu.incSP.advance .T3
  | .T3 => cpu.incSP.advance .T4
  | .T4 => cpu.advance .T5
  | .T5 => (cpu.setPC (cpu.addrLatch + 1#16)).advance .T0
  | _ => cpu

def captureJMPAbsolute (cpu : CPU6502 β) : CPU6502 β :=
  match cpu.cpuStep with
  | .T1 => cpu.latchLow
  | .T2 => cpu.latchHigh
  | _ => cpu

def commitJMPAbsolute (cpu : CPU6502 β) : CPU6502 β :=
  match cpu.cpuStep with
  | .T1 => cpu.incPC.advance .T2
  | .T2 => (cpu.setPC cpu.addrLatch).advance .T0
  | _ => cpu

def captureJMPIndirect (cpu : CPU6502 β) : CPU6502 β :=
  match cpu.cpuStep with
  | .T1 => cpu.latchLow
  | .T2 => cpu.latchHigh
  | .T3 => cpu.pointerLow
  | .T4 =>
    -- the high byte is fetched without a carry into the page
    let highByteAddr := cpu.addrLatch &&& 0xFF00#16 ||| (cpu.addrLatch + 1#16) &&& 0x00FF#16
    cpu.busRead highByteAddr fun v cpu =>
      { cpu with effAddr := cpu.effAddr ||| v.setWidth 16 <<< 8 }
  | _ => cpu

def commitJMPIndirect (cpu : CPU6502 β) : CPU6502 β :=
  match cpu.cpuStep with
  | .T1 => cpu.incPC.advance .T2
  | .T2 => cpu.incPC.advance .T3
  | .T3 => cpu.advance .T4
  | .T4 => (cpu.setPC cpu.effAddr).advance .T0
  | _ => cpu

def captureRTI (cpu : CPU6502 β) : CPU6502 β :=
  match cpu.cpuStep with
  | .T1 => cpu.discardRead
  | _ => cpu

def commitRTI (cpu : CPU6502 β) : CPU6502 β :=
  match cpu.cpuStep with
  | .T1 => cpu.advance .T2
  | .T2 => cpu.incSP.advance .T3
  | .T3 => cpu.busRead cpu.stackAddr fun v cpu => (cpu.setP v).incSP.advance .T4
  | .T4 =>
    cpu.busRead cpu.stackAddr fun v cpu =>
      { cpu.incSP with addrLatch := v.setWidth 16, cpuStep := .T5 }
  | .T5 =>
    cpu.busRead cpu.stackAddr fun v cpu =>
      let addrLatch := cpu.addrLatch ||| v.setWidth 16 <<< 8
      { cpu with addrLatch := addrLatch, pc := addrLatch, cpuStep := .T0 }
  | _ => cpu

def captureImpliedPush (cpu : CPU6502 β) : CPU6502 β :=
  match cpu.cpuStep with
  | .T1 => cpu.discardRead
  | _ => cpu

def commitImpliedPush (cpu : CPU6502 β) : CPU6502 β :=
  match cpu.cpuStep with
  | .T1 => cpu.advance .T2
  | .T2 =>
    if cpu.ir = cOpPHP then
      let cpu := cpu.setBFlag true
      (cpu.push cpu.P).advance .T0
    else (cpu.push cpu.a).advance .T0
  | _ => cpu

def captureImpliedPull (cpu : CPU6502 β) : CPU6502 β :=
  match cpu.cpuStep with
  | .T1 => cpu.discardRead
  | .T3 => cpu.busRead cpu.stackAddr fun v cpu => { cpu with addrLatch := v.setWidth 16 }
  | _ => cpu

def commitImpliedPull (cpu : CPU6502 β) : CPU6502 β :=
  match cpu.cpuStep with
  | .T1 => cpu.advance .T2
  | .T2 => cpu.incSP.advance .T3
  | .T3 =>
    let pulled : Byte := cpu.addrLatch.setWidth 8
    if cpu.ir = cOpPLA then
      (((cpu.setA pulled).setZFlag (aluZero pulled)).setNFlag (aluNegative pulled)).advance .T0
    else (cpu.setP pulled).advance .T0
  | _ => cpu

/-! ## Reset and opcode fetch -/

def captureReset (cpu : CPU6502 β) : CPU6502 β :=
  match cpu.cpuStep with
  | .T0 | .T1 => cpu.discardRead
  | .T5 => cpu.busRead cResetVector fun v cpu => { cpu with addrLatch := v.setWidth 16 }
  | .T6 =>
    cpu.busRead (cResetVector + 1#16) fun v cpu =>
      { cpu with addrLatch := cpu.addrLatch ||| v.setWidth 16 <<< 8 }
  | _ => cpu

def commitReset (cpu : CPU6502 β) : CPU6502 β :=
  match cpu.cpuStep with
  | .T0 => { cpu with halted := false, cpuStep := .T1 }
  | .T1 => cpu.advance .T2
  | .T2 => (cpu.setSP (cpu.sp - 1#8)).advance .T3
  | .T3 => (cpu.setSP (cpu.sp - 1#8)).advance .T4
  | .T4 => ((cpu.setSP (cpu.sp - 1#8)).setIFlag true).advance .T5
  | .T5 => cpu.advance .T6
  | .T6 => { cpu.setPC cpu.addrLatch with resetActive := false, cpuStep := .T0 }

def captureOpcodeFetch (cpu : CPU6502 β) : CPU6502 β :=
  cpu.busRead cpu.pc fun v cpu => { cpu with ir := v }

def commitOpcodeFetch (cpu : CPU6502 β) : CPU6502 β := cpu.incPC.advance .T1

end Sys6.CPU6502
