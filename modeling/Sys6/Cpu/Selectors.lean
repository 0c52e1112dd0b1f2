import Sys6.Cpu.Opcodes
import Sys6.Cpu.State

/-!
# Opcode switches inside the handlers

The shared helpers of a family choose the operation, the source register and the flag
subset from `m_IR`. Each switch is a function here, in the order of its case labels.
-/

namespace Sys6

inductive Reg
  | A | X | Y
deriving DecidableEq, Repr

inductive BinaryCommit
  | arithmetic | logical | compare | bitTest
deriving DecidableEq, Repr

inductive UnaryCommit
  | shift | incDec
deriving DecidableEq, Repr

/-- The switch of `applyBinaryAluOp`: the operation and the register it works on. -/
def binaryAluSelect (ir : Byte) : Option (AluOp × Reg) :=
  if ir ∈ [cOpADCImmediate, cOpADCZeroPage, cOpADCZeroPageX, cOpADCAbsolute, cOpADCAbsoluteX,
      cOpADCAbsoluteY, cOpADCIndirectX, cOpADCIndirectY] then
    some (.ADC, .A)
  else if ir ∈ [cOpSBCImmediate, cOpSBCZeroPage, cOpSBCZeroPageX, cOpSBCAbsolute,
      cOpSBCAbsoluteX, cOpSBCAbsoluteY, cOpSBCIndirectX, cOpSBCIndirectY] then
    some (.SBC, .A)
  else if ir ∈ [cOpANDImmediate, cOpANDZeroPage, cOpANDZeroPageX, cOpANDAbsolute,
      cOpANDAbsoluteX, cOpANDAbsoluteY, cOpANDIndirectX, cOpANDIndirectY] then
    some (.AND, .A)
  else if ir ∈ [cOpORAImmediate, cOpORAZeroPage, cOpORAZeroPageX, cOpORAAbsolute,
      cOpORAAbsoluteX, cOpORAAbsoluteY, cOpORAIndirectX, cOpORAIndirectY] then
    some (.ORA, .A)
  else if ir ∈ [cOpEORImmediate, cOpEORZeroPage, cOpEORZeroPageX, cOpEORAbsolute,
      cOpEORAbsoluteX, cOpEORAbsoluteY, cOpEORIndirectX, cOpEORIndirectY] then
    some (.EOR, .A)
  else if ir ∈ [cOpCMPImmediate, cOpCMPZeroPage, cOpCMPZeroPageX, cOpCMPAbsolute,
      cOpCMPAbsoluteX, cOpCMPAbsoluteY, cOpCMPIndirectX, cOpCMPIndirectY] then
    some (.CMP, .A)
  else if ir ∈ [cOpCPXImmediate, cOpCPXZeroPage, cOpCPXAbsolute] then
    some (.CMP, .X)
  else if ir ∈ [cOpCPYImmediate, cOpCPYZeroPage, cOpCPYAbsolute] then
    some (.CMP, .Y)
  else if ir ∈ [cOpBITZeroPage, cOpBITAbsolute] then
    some (.BIT, .A)
  else none

/-- The switch of `commitBinaryAluResult`. -/
def binaryCommitSelect (ir : Byte) : Option BinaryCommit :=
  if ir ∈ [cOpADCImmediate, cOpADCZeroPage, cOpADCZeroPageX, cOpADCAbsolute, cOpADCAbsoluteX,
      cOpADCAbsoluteY, cOpADCIndirectX, cOpADCIndirectY, cOpSBCImmediate, cOpSBCZeroPage,
      cOpSBCZeroPageX, cOpSBCAbsolute, cOpSBCAbsoluteX, cOpSBCAbsoluteY, cOpSBCIndirectX,
      cOpSBCIndirectY] then
    some .arithmetic
  else if ir ∈ [cOpANDImmediate, cOpANDZeroPage, cOpANDZeroPageX, cOpANDAbsolute,
      cOpANDAbsoluteX, cOpANDAbsoluteY, cOpANDIndirectX, cOpANDIndirectY, cOpORAImmediate,
      cOpORAZeroPage, cOpORAZeroPageX, cOpORAAbsolute, cOpORAAbsoluteX, cOpORAAbsoluteY,
      cOpORAIndirectX, cOpORAIndirectY, cOpEORImmediate, cOpEORZeroPage, cOpEORZeroPageX,
      cOpEORAbsolute, cOpEORAbsoluteX, cOpEORAbsoluteY, cOpEORIndirectX, cOpEORIndirectY] then
    some .logical
  else if ir ∈ [cOpCMPImmediate, cOpCMPZeroPage, cOpCMPZeroPageX, cOpCMPAbsolute,
      cOpCMPAbsoluteX, cOpCMPAbsoluteY, cOpCMPIndirectX, cOpCMPIndirectY, cOpCPXImmediate,
      cOpCPXZeroPage, cOpCPXAbsolute, cOpCPYImmediate, cOpCPYZeroPage, cOpCPYAbsolute] then
    some .compare
  else if ir ∈ [cOpBITZeroPage, cOpBITAbsolute] then
    some .bitTest
  else none

/-- The switch of `applyUnaryAluOp`. -/
def unaryAluSelect (ir : Byte) : Option AluOp :=
  if ir ∈ [cOpASLAccumulator, cOpASLZeroPage, cOpASLZeroPageX, cOpASLAbsolute, cOpASLAbsoluteX] then
    some .ASL
  else if ir ∈ [cOpLSRAccumulator, cOpLSRZeroPage, cOpLSRZeroPageX, cOpLSRAbsolute,
      cOpLSRAbsoluteX] then
    some .LSR
  else if ir ∈ [cOpROLAccumulator, cOpROLZeroPage, cOpROLZeroPageX, cOpROLAbsolute,
      cOpROLAbsoluteX] then
    some .ROL
  else if ir ∈ [cOpRORAccumulator, cOpRORZeroPage, cOpRORZeroPageX, cOpRORAbsolute,
      cOpRORAbsoluteX] then
    some .ROR
  else if ir ∈ [cOpINCZeroPage, cOpINCZeroPageX, cOpINCAbsolute, cOpINCAbsoluteX] then
    some .INC
  else if ir ∈ [cOpDECZeroPage, cOpDECZeroPageX, cOpDECAbsolute, cOpDECAbsoluteX] then
    some .DEC
  else none

/-- The switch of `commitUnaryAluFlags`. -/
def unaryCommitSelect (ir : Byte) : Option UnaryCommit :=
  if ir ∈ [cOpASLAccumulator, cOpASLZeroPage, cOpASLZeroPageX, cOpASLAbsolute, cOpASLAbsoluteX,
      cOpLSRAccumulator, cOpLSRZeroPage, cOpLSRZeroPageX, cOpLSRAbsolute, cOpLSRAbsoluteX,
      cOpROLAccumulator, cOpROLZeroPage, cOpROLZeroPageX, cOpROLAbsolute, cOpROLAbsoluteX,
      cOpRORAccumulator, cOpRORZeroPage, cOpRORZeroPageX, cOpRORAbsolute, cOpRORAbsoluteX] then
    some .shift
  else if ir ∈ [cOpINCZeroPage, cOpINCZeroPageX, cOpINCAbsolute, cOpINCAbsoluteX,
      cOpDECZeroPage, cOpDECZeroPageX, cOpDECAbsolute, cOpDECAbsoluteX] then
    some .incDec
  else none

/-- The switch of `commitLoadResult`. -/
def loadSelect (ir : Byte) : Option Reg :=
  if ir ∈ [cOpLDAImmediate, cOpLDAZeroPage, cOpLDAZeroPageX, cOpLDAAbsolute, cOpLDAAbsoluteX,
      cOpLDAAbsoluteY, cOpLDAIndirectX, cOpLDAIndirectY] then
    some .A
  else if ir ∈ [cOpLDXImmediate, cOpLDXZeroPage, cOpLDXZeroPageY, cOpLDXAbsolute,
      cOpLDXAbsoluteY] then
    some .X
  else if ir ∈ [cOpLDYImmediate, cOpLDYZeroPage, cOpLDYZeroPageX, cOpLDYAbsolute,
      cOpLDYAbsoluteX] then
    some .Y
  else none

/-- The switch of `storeSourceValue`. -/
def storeSelect (ir : Byte) : Option Reg :=
  if ir ∈ [cOpSTAZeroPage, cOpSTAZeroPageX, cOpSTAAbsolute, cOpSTAAbsoluteX, cOpSTAAbsoluteY,
      cOpSTAIndirectX, cOpSTAIndirectY] then
    some .A
  else if ir ∈ [cOpSTXZeroPage, cOpSTXZeroPageY, cOpSTXAbsolute] then
    some .X
  else if ir ∈ [cOpSTYZeroPage, cOpSTYZeroPageX, cOpSTYAbsolute] then
    some .Y
  else none

end Sys6
