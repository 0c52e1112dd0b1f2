import Sys6.Cpu.Clock

/-!
# Comments as assertions

The handlers once more, with each comment that calls a branch unreachable taken as an assertion. The
result is `none` where such a branch is executed.
-/

namespace Sys6

namespace Asserted

variable {β : Type} [BusLike β]

/-- A branch with the comment. -/
def unreachable {α : Type} : Option α := none

/-- A switch on the T-state: these have a label, and nothing that is called asserts anything. -/
def within (steps : List CpuStep) (handler : CPU6502 β → CPU6502 β) (cpu : CPU6502 β) : Option (CPU6502 β) :=
  if cpu.cpuStep ∈ steps then some (handler cpu) else unreachable

/-- A switch on `m_IR` with these labels. -/
def among (opcodes : List Byte) (handler : CPU6502 β → CPU6502 β) (cpu : CPU6502 β) : Option (CPU6502 β) :=
  if cpu.ir ∈ opcodes then some (handler cpu) else unreachable

/-- A switch on `m_IR` that some opcodes have a label in. -/
def labelled {α : Type} (select : Byte → Option α) (handler : CPU6502 β → CPU6502 β) (cpu : CPU6502 β) :
    Option (CPU6502 β) :=
  match select cpu.ir with
  | some _ => some (handler cpu)
  | none => unreachable

def busRead (cpu : CPU6502 β) (addr : Word) (k : Byte → CPU6502 β → Option (CPU6502 β)) : Option (CPU6502 β) :=
  k (BusLike.read cpu.bus addr).1 { cpu with bus := (BusLike.read cpu.bus addr).2 }

def beginBinaryAluOp (aluOp : AluOp) (regValue operand : Byte) (cpu : CPU6502 β) : Option (CPU6502 β) :=
  match aluOp with
  | .ADC | .SBC | .AND | .ORA | .EOR | .CMP | .BIT => some (cpu.beginBinaryAluOp aluOp regValue operand)
  | _ => unreachable

def applyBinaryAluOp (operand : Byte) (cpu : CPU6502 β) : Option (CPU6502 β) :=
  match binaryAluSelect cpu.ir with
  | some (aluOp, r) => beginBinaryAluOp aluOp (cpu.reg r) operand cpu
  | none => unreachable

def commitBinaryAluResult : CPU6502 β → Option (CPU6502 β) :=
  labelled binaryCommitSelect CPU6502.commitBinaryAluResult

def beginUnaryAluOp (aluOp : AluOp) (value : Byte) (cpu : CPU6502 β) : Option (CPU6502 β) :=
  match aluOp with
  | .ASL | .LSR | .ROL | .ROR | .INC | .DEC => some (cpu.beginUnaryAluOp aluOp value)
  | _ => unreachable

def applyUnaryAluOp (value : Byte) (cpu : CPU6502 β) : Option (CPU6502 β) :=
  match unaryAluSelect cpu.ir with
  | some aluOp => beginUnaryAluOp aluOp value cpu
  | none => unreachable

def commitUnaryAluFlags : CPU6502 β → Option (CPU6502 β) :=
  labelled unaryCommitSelect CPU6502.commitUnaryAluFlags

def loadOperand (operand : Byte) (cpu : CPU6502 β) : Option (CPU6502 β) := some (cpu.loadOperand operand)

def commitLoadResult : CPU6502 β → Option (CPU6502 β) := labelled loadSelect CPU6502.commitLoadResult

def storeSourceValue (cpu : CPU6502 β) : Option Byte :=
  match storeSelect cpu.ir with
  | some r => some (cpu.reg r)
  | none => unreachable

section Operand

variable (use : Byte → CPU6502 β → Option (CPU6502 β)) (finish : CPU6502 β → Option (CPU6502 β))

def captureImmediate (cpu : CPU6502 β) : Option (CPU6502 β) := busRead cpu cpu.pc use

def commitImmediate (cpu : CPU6502 β) : Option (CPU6502 β) := (finish cpu.incPC).map (CPU6502.advance .T0)

def captureZeroPage (cpu : CPU6502 β) : Option (CPU6502 β) :=
  match cpu.cpuStep with
  | .T1 => some cpu.latchLow
  | .T2 => busRead cpu cpu.addrLatch use
  | _ => unreachable

def commitZeroPage (cpu : CPU6502 β) : Option (CPU6502 β) :=
  match cpu.cpuStep with
  | .T1 => some (cpu.incPC.advance .T2)
  | .T2 => (finish cpu).map (CPU6502.advance .T0)
  | _ => unreachable

def captureZeroPageIndexed (index : CPU6502 β → Byte) (cpu : CPU6502 β) : Option (CPU6502 β) :=
  match cpu.cpuStep with
  | .T1 => some cpu.latchLow
  | .T2 => some (cpu.indexZeroPage (index cpu))
  | .T3 => busRead cpu cpu.addrLatch use
  | _ => unreachable

def commitZeroPageIndexed (cpu : CPU6502 β) : Option (CPU6502 β) :=
  match cpu.cpuStep with
  | .T1 => some (cpu.incPC.advance .T2)
  | .T2 => some (cpu.advance .T3)
  | .T3 => (finish cpu).map (CPU6502.advance .T0)
  | _ => unreachable

def captureAbsolute (cpu : CPU6502 β) : Option (CPU6502 β) :=
  match cpu.cpuStep with
  | .T1 => some cpu.latchLow
  | .T2 => some cpu.latchHigh
  | .T3 => busRead cpu cpu.addrLatch use
  | _ => unreachable

def commitAbsolute (cpu : CPU6502 β) : Option (CPU6502 β) :=
  match cpu.cpuStep with
  | .T1 => some (cpu.incPC.advance .T2)
  | .T2 => some (cpu.incPC.advance .T3)
  | .T3 => (finish cpu).map (CPU6502.advance .T0)
  | _ => unreachable

def captureAbsoluteIndexed (index : CPU6502 β → Byte) (cpu : CPU6502 β) : Option (CPU6502 β) :=
  match cpu.cpuStep with
  | .T1 => some cpu.latchLow
  | .T2 => some (cpu.resolveIndexed (index cpu))
  | .T3 => if !cpu.pageCrossed then busRead cpu cpu.effAddr use else some cpu
  | .T4 => busRead cpu cpu.effAddr use
  | _ => unreachable

def commitAbsoluteIndexed (cpu : CPU6502 β) : Option (CPU6502 β) :=
  match cpu.cpuStep with
  | .T1 => some (cpu.incPC.advance .T2)
  | .T2 => some (cpu.incPC.advance .T3)
  | .T3 => if cpu.pageCrossed then some (cpu.advance .T4) else (finish cpu).map (CPU6502.advance .T0)
  | .T4 => (finish cpu).map (CPU6502.advance .T0)
  | _ => unreachable

def captureIndirectX (cpu : CPU6502 β) : Option (CPU6502 β) :=
  match cpu.cpuStep with
  | .T1 => some cpu.latchLow
  | .T2 => some (cpu.indexZeroPage cpu.x)
  | .T3 => some cpu.pointerLow
  | .T4 => some cpu.pointerHigh
  | .T5 => busRead cpu cpu.effAddr use
  | _ => unreachable

def commitIndirectX (cpu : CPU6502 β) : Option (CPU6502 β) :=
  match cpu.cpuStep with
  | .T1 => some (cpu.incPC.advance .T2)
  | .T2 => some (cpu.advance .T3)
  | .T3 => some (cpu.advance .T4)
  | .T4 => some (cpu.advance .T5)
  | .T5 => (finish cpu).map (CPU6502.advance .T0)
  | _ => unreachable

def captureIndirectY (cpu : CPU6502 β) : Option (CPU6502 β) :=
  match cpu.cpuStep with
  | .T1 => some cpu.latchLow
  | .T2 => some cpu.pointerLow
  | .T3 => some (cpu.resolvePointer cpu.y)
  | .T4 => if !cpu.pageCrossed then busRead cpu cpu.effAddr use else some cpu
  | .T5 => busRead cpu cpu.effAddr use
  | _ => unreachable

def commitIndirectY (cpu : CPU6502 β) : Option (CPU6502 β) :=
  match cpu.cpuStep with
  | .T1 => some (cpu.incPC.advance .T2)
  | .T2 => some (cpu.advance .T3)
  | .T3 => some (cpu.advance .T4)
  | .T4 => if cpu.pageCrossed then some (cpu.advance .T5) else (finish cpu).map (CPU6502.advance .T0)
  | .T5 => (finish cpu).map (CPU6502.advance .T0)
  | _ => unreachable

end Operand

def captureShiftAccumulator (cpu : CPU6502 β) : Option (CPU6502 β) := applyUnaryAluOp cpu.a cpu

def commitShiftAccumulator (cpu : CPU6502 β) : Option (CPU6502 β) :=
  (commitUnaryAluFlags (cpu.setA cpu.aluOutput.value)).map (CPU6502.advance .T0)

def commitRmwResult (addr : Word) (cpu : CPU6502 β) : Option (CPU6502 β) :=
  (commitUnaryAluFlags (cpu.busWrite addr cpu.aluOutput.value)).map (CPU6502.advance .T0)

def captureRmwZeroPage (cpu : CPU6502 β) : Option (CPU6502 β) :=
  match cpu.cpuStep with
  | .T1 => some cpu.latchLow
  | .T2 => busRead cpu cpu.addrLatch applyUnaryAluOp
  | .T3 | .T4 => some cpu
  | _ => unreachable

def commitRmwZeroPage (cpu : CPU6502 β) : Option (CPU6502 β) :=
  match cpu.cpuStep with
  | .T1 => some (cpu.incPC.advance .T2)
  | .T2 => some (cpu.advance .T3)
  | .T3 => some (cpu.advance .T4)
  | .T4 => commitRmwResult cpu.addrLatch cpu
  | _ => unreachable

def captureRmwZeroPageX (cpu : CPU6502 β) : Option (CPU6502 β) :=
  match cpu.cpuStep with
  | .T1 => some cpu.latchLow
  | .T2 => some (cpu.indexZeroPage cpu.x)
  | .T3 => busRead cpu cpu.addrLatch applyUnaryAluOp
  | .T4 | .T5 => some cpu
  | _ => unreachable

def commitRmwZeroPageX (cpu : CPU6502 β) : Option (CPU6502 β) :=
  match cpu.cpuStep with
  | .T1 => some (cpu.incPC.advance .T2)
  | .T2 => some (cpu.advance .T3)
  | .T3 => some (cpu.advance .T4)
  | .T4 => some (cpu.advance .T5)
  | .T5 => commitRmwResult cpu.addrLatch cpu
  | _ => unreachable

def captureRmwAbsolute (cpu : CPU6502 β) : Option (CPU6502 β) :=
  match cpu.cpuStep with
  | .T1 => some cpu.latchLow
  | .T2 => some cpu.latchHigh
  | .T3 => busRead cpu cpu.addrLatch applyUnaryAluOp
  | .T4 | .T5 => some cpu
  | _ => unreachable

def commitRmwAbsolute (cpu : CPU6502 β) : Option (CPU6502 β) :=
  match cpu.cpuStep with
  | .T1 => some (cpu.incPC.advance .T2)
  | .T2 => some (cpu.incPC.advance .T3)
  | .T3 => some (cpu.advance .T4)
  | .T4 => some (cpu.advance .T5)
  | .T5 => commitRmwResult cpu.addrLatch cpu
  | _ => unreachable

def captureRmwAbsoluteX (cpu : CPU6502 β) : Option (CPU6502 β) :=
  match cpu.cpuStep with
  | .T1 => some cpu.latchLow
  | .T2 => some (cpu.resolveIndexedFixed cpu.x)
  | .T3 => some cpu
  | .T4 => busRead cpu cpu.effAddr applyUnaryAluOp
  | .T5 | .T6 => some cpu
  | _ => unreachable

def commitRmwAbsoluteX (cpu : CPU6502 β) : Option (CPU6502 β) :=
  match cpu.cpuStep with
  | .T1 => some (cpu.incPC.advance .T2)
  | .T2 => some (cpu.incPC.advance .T3)
  | .T3 => some (cpu.advance .T4)
  | .T4 => some (cpu.advance .T5)
  | .T5 => some (cpu.advance .T6)
  | .T6 => commitRmwResult cpu.effAddr cpu
  | _ => unreachable

/-- The last T-state of a store. -/
def commitStoreResult (addr : Word) (cpu : CPU6502 β) : Option (CPU6502 β) :=
  (storeSourceValue cpu).map fun val => (cpu.busWrite addr val).advance .T0

def captureStoreZeroPage : CPU6502 β → Option (CPU6502 β) :=
  within [.T1, .T2] CPU6502.captureStoreZeroPage

def commitStoreZeroPage (cpu : CPU6502 β) : Option (CPU6502 β) :=
  match cpu.cpuStep with
  | .T1 => some (cpu.incPC.advance .T2)
  | .T2 => commitStoreResult cpu.addrLatch cpu
  | _ => unreachable

def captureStoreZeroPageX : CPU6502 β → Option (CPU6502 β) :=
  within [.T1, .T2, .T3] CPU6502.captureStoreZeroPageX

def captureStoreZeroPageY : CPU6502 β → Option (CPU6502 β) :=
  within [.T1, .T2, .T3] CPU6502.captureStoreZeroPageY

/-- `commitStoreZeroPageX` and `commitStoreZeroPageY` have the same T-states. -/
def commitStoreZeroPageIndexed (cpu : CPU6502 β) : Option (CPU6502 β) :=
  match cpu.cpuStep with
  | .T1 => some (cpu.incPC.advance .T2)
  | .T2 => some (cpu.advance .T3)
  | .T3 => commitStoreResult cpu.addrLatch cpu
  | _ => unreachable

def captureStoreAbsolute : CPU6502 β → Option (CPU6502 β) :=
  within [.T1, .T2, .T3] CPU6502.captureStoreAbsolute

def commitStoreAbsolute (cpu : CPU6502 β) : Option (CPU6502 β) :=
  match cpu.cpuStep with
  | .T1 => some (cpu.incPC.advance .T2)
  | .T2 => some (cpu.incPC.advance .T3)
  | .T3 => commitStoreResult cpu.addrLatch cpu
  | _ => unreachable

-- there is no label for T4, in which the byte is written
def captureStoreAbsoluteX : CPU6502 β → Option (CPU6502 β) :=
  within [.T1, .T2, .T3] CPU6502.captureStoreAbsoluteX

def captureStoreAbsoluteY : CPU6502 β → Option (CPU6502 β) :=
  within [.T1, .T2, .T3] CPU6502.captureStoreAbsoluteY

/-- `commitStoreAbsoluteX` and `commitStoreAbsoluteY` have the same T-states. -/
def commitStoreAbsoluteIndexed (cpu : CPU6502 β) : Option (CPU6502 β) :=
  match cpu.cpuStep with
  | .T1 => some (cpu.incPC.advance .T2)
  | .T2 => some (cpu.incPC.advance .T3)
  | .T3 => some (cpu.advance .T4)
  | .T4 => commitStoreResult cpu.effAddr cpu
  | _ => unreachable

def captureStoreIndirectX : CPU6502 β → Option (CPU6502 β) :=
  within [.T1, .T2, .T3, .T4, .T5] CPU6502.captureStoreIndirectX

-- nor is there one for T5 here
def captureStoreIndirectY : CPU6502 β → Option (CPU6502 β) :=
  within [.T1, .T2, .T3, .T4] CPU6502.captureStoreIndirectY

def commitStoreIndirect (cpu : CPU6502 β) : Option (CPU6502 β) :=
  match cpu.cpuStep with
  | .T1 => some (cpu.incPC.advance .T2)
  | .T2 => some (cpu.advance .T3)
  | .T3 => some (cpu.advance .T4)
  | .T4 => some (cpu.advance .T5)
  | .T5 => commitStoreResult cpu.effAddr cpu
  | _ => unreachable

def captureImpliedIncDec : CPU6502 β → Option (CPU6502 β) :=
  among [cOpINX, cOpDEX, cOpINY, cOpDEY] CPU6502.captureImpliedIncDec

def commitImpliedIncDec : CPU6502 β → Option (CPU6502 β) :=
  among [cOpINX, cOpDEX, cOpINY, cOpDEY] CPU6502.commitImpliedIncDec

def captureImpliedTransfer : CPU6502 β → Option (CPU6502 β) :=
  among [cOpTAX, cOpTAY, cOpTXA, cOpTXS, cOpTYA, cOpTSX] CPU6502.captureImpliedTransfer

def commitImpliedTransfer : CPU6502 β → Option (CPU6502 β) :=
  among [cOpTAX, cOpTSX, cOpTAY, cOpTXA, cOpTYA, cOpTXS] CPU6502.commitImpliedTransfer

def commitImpliedFlagOp : CPU6502 β → Option (CPU6502 β) :=
  among [cOpCLC, cOpSEC, cOpCLI, cOpSEI, cOpCLV, cOpCLD, cOpSED] CPU6502.commitImpliedFlagOp

def evaluateBranchCondition (opcode : Byte) (cFlag zFlag nFlag vFlag : Bool) : Option Bool :=
  if opcode ∈ [cOpBPL, cOpBMI, cOpBVC, cOpBVS, cOpBCC, cOpBCS, cOpBNE, cOpBEQ] then
    some (CPU6502.evaluateBranchCondition opcode cFlag zFlag nFlag vFlag)
  else unreachable

def captureBranch (cpu : CPU6502 β) : Option (CPU6502 β) :=
  match cpu.cpuStep with
  | .T1 =>
    busRead cpu cpu.pc fun v cpu =>
      (evaluateBranchCondition cpu.ir cpu.pFlags.c cpu.pFlags.z cpu.pFlags.n cpu.pFlags.v).map fun taken =>
        { cpu with branchOffset := v, branchTaken := taken }
  | .T2 | .T3 => some cpu.captureBranch
  | _ => unreachable

def commitBranch : CPU6502 β → Option (CPU6502 β) := within [.T1, .T2, .T3] CPU6502.commitBranch

def captureBRK : CPU6502 β → Option (CPU6502 β) := within [.T1, .T2, .T3, .T4, .T5, .T6] CPU6502.captureBRK

def commitBRK : CPU6502 β → Option (CPU6502 β) := within [.T1, .T2, .T3, .T4, .T5, .T6] CPU6502.commitBRK

def captureJSR : CPU6502 β → Option (CPU6502 β) := within [.T1, .T2, .T3, .T4, .T5] CPU6502.captureJSR

def commitJSR : CPU6502 β → Option (CPU6502 β) := within [.T1, .T2, .T3, .T4, .T5] CPU6502.commitJSR

def captureRTS : CPU6502 β → Option (CPU6502 β) := within [.T1, .T2, .T3, .T4, .T5] CPU6502.captureRTS

def commitRTS : CPU6502 β → Option (CPU6502 β) := within [.T1, .T2, .T3, .T4, .T5] CPU6502.commitRTS

def captureJMPAbsolute : CPU6502 β → Option (CPU6502 β) := within [.T1, .T2] CPU6502.captureJMPAbsolute

def commitJMPAbsolute : CPU6502 β → Option (CPU6502 β) := within [.T1, .T2] CPU6502.commitJMPAbsolute

def captureJMPIndirect : CPU6502 β → Option (CPU6502 β) :=
  within [.T1, .T2, .T3, .T4] CPU6502.captureJMPIndirect

def commitJMPIndirect : CPU6502 β → Option (CPU6502 β) :=
  within [.T1, .T2, .T3, .T4] CPU6502.commitJMPIndirect

/-- The default of `captureRTI` is no such branch: it stands for T2 to T5. -/
def captureRTI (cpu : CPU6502 β) : Option (CPU6502 β) := some cpu.captureRTI

def commitRTI : CPU6502 β → Option (CPU6502 β) := within [.T1, .T2, .T3, .T4, .T5] CPU6502.commitRTI

def captureImpliedPush : CPU6502 β → Option (CPU6502 β) := within [.T1, .T2] CPU6502.captureImpliedPush

def commitImpliedPush : CPU6502 β → Option (CPU6502 β) := within [.T1, .T2] CPU6502.commitImpliedPush

def captureImpliedPull : CPU6502 β → Option (CPU6502 β) := within [.T1, .T2, .T3] CPU6502.captureImpliedPull

def commitImpliedPull : CPU6502 β → Option (CPU6502 β) := within [.T1, .T2, .T3] CPU6502.commitImpliedPull

def captureReset : CPU6502 β → Option (CPU6502 β) :=
  within [.T0, .T1, .T2, .T3, .T4, .T5, .T6] CPU6502.captureReset

def commitReset : CPU6502 β → Option (CPU6502 β) :=
  within [.T0, .T1, .T2, .T3, .T4, .T5, .T6] CPU6502.commitReset

/-! ## The clock -/

def capture : Handler → CPU6502 β → Option (CPU6502 β)
  | .readImmediate => captureImmediate applyBinaryAluOp
  | .readAbsolute => captureAbsolute applyBinaryAluOp
  | .readZeroPage => captureZeroPage applyBinaryAluOp
  | .readZeroPageX => captureZeroPageIndexed applyBinaryAluOp CPU6502.x
  | .readAbsoluteX => captureAbsoluteIndexed applyBinaryAluOp CPU6502.x
  | .readAbsoluteY => captureAbsoluteIndexed applyBinaryAluOp CPU6502.y
  | .readIndirectX => captureIndirectX applyBinaryAluOp
  | .readIndirectY => captureIndirectY applyBinaryAluOp
  | .shiftAccumulator => captureShiftAccumulator
  | .rmwZeroPage => captureRmwZeroPage
  | .rmwZeroPageX => captureRmwZeroPageX
  | .rmwAbsolute => captureRmwAbsolute
  | .rmwAbsoluteX => captureRmwAbsoluteX
  | .impliedIncDec => captureImpliedIncDec
  | .impliedTransfer => captureImpliedTransfer
  | .impliedFlagOp => fun cpu => some cpu.captureImpliedFlagOp
  | .loadImmediate => captureImmediate loadOperand
  | .loadZeroPage => captureZeroPage loadOperand
  | .loadZeroPageX => captureZeroPageIndexed loadOperand CPU6502.x
  | .loadZeroPageY => captureZeroPageIndexed loadOperand CPU6502.y
  | .loadAbsolute => captureAbsolute loadOperand
  | .loadAbsoluteX => captureAbsoluteIndexed loadOperand CPU6502.x
  | .loadAbsoluteY => captureAbsoluteIndexed loadOperand CPU6502.y
  | .loadIndirectX => captureIndirectX loadOperand
  | .loadIndirectY => captureIndirectY loadOperand
  | .storeZeroPage => captureStoreZeroPage
  | .storeZeroPageX => captureStoreZeroPageX
  | .storeZeroPageY => captureStoreZeroPageY
  | .storeAbsolute => captureStoreAbsolute
  | .storeAbsoluteX => captureStoreAbsoluteX
  | .storeAbsoluteY => captureStoreAbsoluteY
  | .storeIndirectX => captureStoreIndirectX
  | .storeIndirectY => captureStoreIndirectY
  | .branch => captureBranch
  | .brk => captureBRK
  | .jsr => captureJSR
  | .rts => captureRTS
  | .jmpAbsolute => captureJMPAbsolute
  | .jmpIndirect => captureJMPIndirect
  | .nop => fun cpu => some cpu.captureNOP
  | .rti => captureRTI
  | .impliedPush => captureImpliedPush
  | .impliedPull => captureImpliedPull

def commit : Handler → CPU6502 β → Option (CPU6502 β)
  | .readImmediate => commitImmediate commitBinaryAluResult
  | .readAbsolute => commitAbsolute commitBinaryAluResult
  | .readZeroPage => commitZeroPage commitBinaryAluResult
  | .readZeroPageX => commitZeroPageIndexed commitBinaryAluResult
  | .readAbsoluteX => commitAbsoluteIndexed commitBinaryAluResult
  | .readAbsoluteY => commitAbsoluteIndexed commitBinaryAluResult
  | .readIndirectX => commitIndirectX commitBinaryAluResult
  | .readIndirectY => commitIndirectY commitBinaryAluResult
  | .shiftAccumulator => commitShiftAccumulator
  | .rmwZeroPage => commitRmwZeroPage
  | .rmwZeroPageX => commitRmwZeroPageX
  | .rmwAbsolute => commitRmwAbsolute
  | .rmwAbsoluteX => commitRmwAbsoluteX
  | .impliedIncDec => commitImpliedIncDec
  | .impliedTransfer => commitImpliedTransfer
  | .impliedFlagOp => commitImpliedFlagOp
  | .loadImmediate => commitImmediate commitLoadResult
  | .loadZeroPage => commitZeroPage commitLoadResult
  | .loadZeroPageX => commitZeroPageIndexed commitLoadResult
  | .loadZeroPageY => commitZeroPageIndexed commitLoadResult
  | .loadAbsolute => commitAbsolute commitLoadResult
  | .loadAbsoluteX => commitAbsoluteIndexed commitLoadResult
  | .loadAbsoluteY => commitAbsoluteIndexed commitLoadResult
  | .loadIndirectX => commitIndirectX commitLoadResult
  | .loadIndirectY => commitIndirectY commitLoadResult
  | .storeZeroPage => commitStoreZeroPage
  | .storeZeroPageX => commitStoreZeroPageIndexed
  | .storeZeroPageY => commitStoreZeroPageIndexed
  | .storeAbsolute => commitStoreAbsolute
  | .storeAbsoluteX => commitStoreAbsoluteIndexed
  | .storeAbsoluteY => commitStoreAbsoluteIndexed
  | .storeIndirectX => commitStoreIndirect
  | .storeIndirectY => commitStoreIndirect
  | .branch => commitBranch
  | .brk => commitBRK
  | .jsr => commitJSR
  | .rts => commitRTS
  | .jmpAbsolute => commitJMPAbsolute
  | .jmpIndirect => commitJMPIndirect
  | .nop => fun cpu => some cpu.commitNOP
  | .rti => commitRTI
  | .impliedPush => commitImpliedPush
  | .impliedPull => commitImpliedPull

def onClockHigh (cpu : CPU6502 β) : Option (CPU6502 β) :=
  if cpu.resetActive then captureReset cpu
  else if cpu.cpuStep = .T0 then some cpu.captureOpcodeFetch
  else
    match captureHandler cpu.ir with
    | some handler => capture handler cpu
    | none => some cpu

def onClockLow (cpu : CPU6502 β) : Option (CPU6502 β) :=
  if cpu.resetActive then commitReset cpu
  else if cpu.cpuStep = .T0 then some cpu.commitOpcodeFetch
  else
    match commitHandler cpu.ir with
    | some handler => commit handler cpu
    | none => some (cpu.advance .T0)

def tick (cpu : CPU6502 β) : Option (CPU6502 β) :=
  let cpu := { cpu with
    aluOutput := ALU.execute cpu.aluA cpu.aluB cpu.aluFunction cpu.aluCarryIn
    clockPhase := nextClockPhase cpu.clockPhase }
  match cpu.clockPhase with
  | .High => onClockHigh cpu
  | .Low => onClockLow cpu
  | _ => some cpu

end Asserted

end Sys6
