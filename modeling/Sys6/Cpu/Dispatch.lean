import Sys6.Cpu.Opcodes

/-!
# The two dispatch switches

`onClockHigh` and `onClockLow` each select a handler from `m_IR` with a switch of their
own. Both switches are kept, label by label, and compared afterwards.
-/

namespace Sys6

inductive Handler
  | readImmediate | readAbsolute | readZeroPage | readZeroPageX | readAbsoluteX
  | readAbsoluteY | readIndirectX | readIndirectY | shiftAccumulator | rmwZeroPage
  | rmwZeroPageX | rmwAbsolute | rmwAbsoluteX | impliedIncDec | impliedTransfer
  | impliedFlagOp | loadImmediate | loadZeroPage | loadZeroPageX | loadZeroPageY
  | loadAbsolute | loadAbsoluteX | loadAbsoluteY | loadIndirectX | loadIndirectY
  | storeZeroPage | storeZeroPageX | storeZeroPageY | storeAbsolute | storeAbsoluteX
  | storeAbsoluteY | storeIndirectX | storeIndirectY | branch | brk | jsr | rts
  | jmpAbsolute | jmpIndirect | nop | rti | impliedPush | impliedPull
deriving DecidableEq, Repr

/-- The switch of `onClockHigh`. -/
def captureHandler (ir : Byte) : Option Handler :=
  if ir ∈ [cOpADCImmediate, cOpSBCImmediate, cOpANDImmediate, cOpORAImmediate, cOpEORImmediate,
      cOpCMPImmediate, cOpCPXImmediate, cOpCPYImmediate] then
    some .readImmediate
  else if ir ∈ [cOpADCAbsolute, cOpSBCAbsolute, cOpANDAbsolute, cOpORAAbsolute, cOpEORAbsolute,
      cOpCMPAbsolute, cOpCPXAbsolute, cOpCPYAbsolute, cOpBITAbsolute] then
    some .readAbsolute
  else if ir ∈ [cOpADCZeroPage, cOpSBCZeroPage, cOpANDZeroPage, cOpORAZeroPage, cOpEORZeroPage,
      cOpCMPZeroPage, cOpCPXZeroPage, cOpCPYZeroPage, cOpBITZeroPage] then
    some .readZeroPage
  else if ir ∈ [cOpADCZeroPageX, cOpSBCZeroPageX, cOpANDZeroPageX, cOpORAZeroPageX,
      cOpEORZeroPageX, cOpCMPZeroPageX] then
    some .readZeroPageX
  else if ir ∈ [cOpADCAbsoluteX, cOpSBCAbsoluteX, cOpANDAbsoluteX, cOpORAAbsoluteX,
      cOpEORAbsoluteX, cOpCMPAbsoluteX] then
    some .readAbsoluteX
  else if ir ∈ [cOpADCAbsoluteY, cOpSBCAbsoluteY, cOpANDAbsoluteY, cOpORAAbsoluteY,
      cOpEORAbsoluteY, cOpCMPAbsoluteY] then
    some .readAbsoluteY
  else if ir ∈ [cOpADCIndirectX, cOpSBCIndirectX, cOpANDIndirectX, cOpORAIndirectX,
      cOpEORIndirectX, cOpCMPIndirectX] then
    some .readIndirectX
  else if ir ∈ [cOpADCIndirectY, cOpSBCIndirectY, cOpANDIndirectY, cOpORAIndirectY,
      cOpEORIndirectY, cOpCMPIndirectY] then
    some .readIndirectY
  else if ir ∈ [cOpASLAccumulator, cOpLSRAccumulator, cOpROLAccumulator, cOpRORAccumulator] then
    some .shiftAccumulator
  else if ir ∈ [cOpASLZeroPage, cOpLSRZeroPage, cOpROLZeroPage, cOpRORZeroPage, cOpINCZeroPage,
      cOpDECZeroPage] then
    some .rmwZeroPage
  else if ir ∈ [cOpASLZeroPageX, cOpLSRZeroPageX, cOpROLZeroPageX, cOpRORZeroPageX,
      cOpINCZeroPageX, cOpDECZeroPageX] then
    some .rmwZeroPageX
  else if ir ∈ [cOpASLAbsolute, cOpLSRAbsolute, cOpROLAbsolute, cOpRORAbsolute, cOpINCAbsolute,
      cOpDECAbsolute] then
    some .rmwAbsolute
  else if ir ∈ [cOpASLAbsoluteX, cOpLSRAbsoluteX, cOpROLAbsoluteX, cOpRORAbsoluteX,
      cOpINCAbsoluteX, cOpDECAbsoluteX] then
    some .rmwAbsoluteX
  else if ir ∈ [cOpINX, cOpDEX, cOpINY, cOpDEY] then
    some .impliedIncDec
  else if ir ∈ [cOpTAX, cOpTXA, cOpTAY, cOpTYA, cOpTSX, cOpTXS] then
    some .impliedTransfer
  else if ir ∈ [cOpCLC, cOpSEC, cOpCLI, cOpSEI, cOpCLV, cOpCLD, cOpSED] then
    some .impliedFlagOp
  else if ir ∈ [cOpLDAImmediate, cOpLDXImmediate, cOpLDYImmediate] then
    some .loadImmediate
  else if ir ∈ [cOpLDAZeroPage, cOpLDXZeroPage, cOpLDYZeroPage] then
    some .loadZeroPage
  else if ir ∈ [cOpLDAZeroPageX, cOpLDYZeroPageX] then
    some .loadZeroPageX
  else if ir ∈ [cOpLDXZeroPageY] then
    some .loadZeroPageY
  else if ir ∈ [cOpLDAAbsolute, cOpLDXAbsolute, cOpLDYAbsolute] then
    some .loadAbsolute
  else if ir ∈ [cOpLDAAbsoluteX, cOpLDYAbsoluteX] then
    some .loadAbsoluteX
  else if ir ∈ [cOpLDAAbsoluteY, cOpLDXAbsoluteY] then
    some .loadAbsoluteY
  else if ir ∈ [cOpLDAIndirectX] then
    some .loadIndirectX
  else if ir ∈ [cOpLDAIndirectY] then
    some .loadIndirectY
  else if ir ∈ [cOpSTAZeroPage, cOpSTXZeroPage, cOpSTYZeroPage] then
    some .storeZeroPage
  else if ir ∈ [cOpSTAZeroPageX, cOpSTYZeroPageX] then
    some .storeZeroPageX
  else if ir ∈ [cOpSTXZeroPageY] then
    some .storeZeroPageY
  else if ir ∈ [cOpSTAAbsolute, cOpSTXAbsolute, cOpSTYAbsolute] then
    some .storeAbsolute
  else if ir ∈ [cOpSTAAbsoluteX] then
    some .storeAbsoluteX
  else if ir ∈ [cOpSTAAbsoluteY] then
    some .storeAbsoluteY
  else if ir ∈ [cOpSTAIndirectX] then
    some .storeIndirectX
  else if ir ∈ [cOpSTAIndirectY] then
    some .storeIndirectY
  else if ir ∈ [cOpBPL, cOpBMI, cOpBVC, cOpBVS, cOpBCC, cOpBCS, cOpBNE, cOpBEQ] then
    some .branch
  else if ir ∈ [cOpBRK] then
    some .brk
  else if ir ∈ [cOpJSR] then
    some .jsr
  else if ir ∈ [cOpRTS] then
    some .rts
  else if ir ∈ [cOpJMPAbsolute] then
    some .jmpAbsolute
  else if ir ∈ [cOpJMPIndirect] then
    some .jmpIndirect
  else if ir ∈ [cOpNOP] then
    some .nop
  else if ir ∈ [cOpRTI] then
    some .rti
  else if ir ∈ [cOpPHA, cOpPHP] then
    some .impliedPush
  else if ir ∈ [cOpPLA, cOpPLP] then
    some .impliedPull
  else none

/-- The switch of `onClockLow`. -/
def commitHandler (ir : Byte) : Option Handler :=
  if ir ∈ [cOpADCImmediate, cOpSBCImmediate, cOpANDImmediate, cOpORAImmediate, cOpEORImmediate,
      cOpCMPImmediate, cOpCPXImmediate, cOpCPYImmediate] then
    some .readImmediate
  else if ir ∈ [cOpADCAbsolute, cOpSBCAbsolute, cOpANDAbsolute, cOpORAAbsolute, cOpEORAbsolute,
      cOpCMPAbsolute, cOpCPXAbsolute, cOpCPYAbsolute, cOpBITAbsolute] then
    some .readAbsolute
  else if ir ∈ [cOpADCZeroPage, cOpSBCZeroPage, cOpANDZeroPage, cOpORAZeroPage, cOpEORZeroPage,
      cOpCMPZeroPage, cOpCPXZeroPage, cOpCPYZeroPage, cOpBITZeroPage] then
    some .readZeroPage
  else if ir ∈ [cOpADCZeroPageX, cOpSBCZeroPageX, cOpANDZeroPageX, cOpORAZeroPageX,
      cOpEORZeroPageX, cOpCMPZeroPageX] then
    some .readZeroPageX
  else if ir ∈ [cOpADCAbsoluteX, cOpSBCAbsoluteX, cOpANDAbsoluteX, cOpORAAbsoluteX,
      cOpEORAbsoluteX, cOpCMPAbsoluteX] then
    some .readAbsoluteX
  else if ir ∈ [cOpADCAbsoluteY, cOpSBCAbsoluteY, cOpANDAbsoluteY, cOpORAAbsoluteY,
      cOpEORAbsoluteY, cOpCMPAbsoluteY] then
    some .readAbsoluteY
  else if ir ∈ [cOpADCIndirectX, cOpSBCIndirectX, cOpANDIndirectX, cOpORAIndirectX,
      cOpEORIndirectX, cOpCMPIndirectX] then
    some .readIndirectX
  else if ir ∈ [cOpADCIndirectY, cOpSBCIndirectY, cOpANDIndirectY, cOpORAIndirectY,
      cOpEORIndirectY, cOpCMPIndirectY] then
    some .readIndirectY
  else if ir ∈ [cOpASLAccumulator, cOpLSRAccumulator, cOpROLAccumulator, cOpRORAccumulator] then
    some .shiftAccumulator
  else if ir ∈ [cOpASLZeroPage, cOpLSRZeroPage, cOpROLZeroPage, cOpRORZeroPage, cOpINCZeroPage,
      cOpDECZeroPage] then
    some .rmwZeroPage
  else if ir ∈ [cOpASLZeroPageX, cOpLSRZeroPageX, cOpROLZeroPageX, cOpRORZeroPageX,
      cOpINCZeroPageX, cOpDECZeroPageX] then
    some .rmwZeroPageX
  else if ir ∈ [cOpASLAbsolute, cOpLSRAbsolute, cOpROLAbsolute, cOpRORAbsolute, cOpINCAbsolute,
      cOpDECAbsolute] then
    some .rmwAbsolute
  else if ir ∈ [cOpASLAbsoluteX, cOpLSRAbsoluteX, cOpROLAbsoluteX, cOpRORAbsoluteX,
      cOpINCAbsoluteX, cOpDECAbsoluteX] then
    some .rmwAbsoluteX
  else if ir ∈ [cOpINX, cOpDEX, cOpINY, cOpDEY] then
    some .impliedIncDec
  else if ir ∈ [cOpTAX, cOpTXA, cOpTAY, cOpTYA, cOpTSX, cOpTXS] then
    some .impliedTransfer
  else if ir ∈ [cOpCLC, cOpSEC, cOpCLI, cOpSEI, cOpCLV, cOpCLD, cOpSED] then
    some .impliedFlagOp
  else if ir ∈ [cOpLDAImmediate, cOpLDXImmediate, cOpLDYImmediate] then
    some .loadImmediate
  else if ir ∈ [cOpLDAZeroPage, cOpLDXZeroPage, cOpLDYZeroPage] then
    some .loadZeroPage
  else if ir ∈ [cOpLDAZeroPageX, cOpLDYZeroPageX] then
    some .loadZeroPageX
  else if ir ∈ [cOpLDXZeroPageY] then
    some .loadZeroPageY
  else if ir ∈ [cOpLDAAbsolute, cOpLDXAbsolute, cOpLDYAbsolute] then
    some .loadAbsolute
  else if ir ∈ [cOpLDAAbsoluteX, cOpLDYAbsoluteX] then
    some .loadAbsoluteX
  else if ir ∈ [cOpLDAAbsoluteY, cOpLDXAbsoluteY] then
    some .loadAbsoluteY
  else if ir ∈ [cOpLDAIndirectX] then
    some .loadIndirectX
  else if ir ∈ [cOpLDAIndirectY] then
    some .loadIndirectY
  else if ir ∈ [cOpSTAZeroPage, cOpSTXZeroPage, cOpSTYZeroPage] then
    some .storeZeroPage
  else if ir ∈ [cOpSTAZeroPageX, cOpSTYZeroPageX] then
    some .storeZeroPageX
  else if ir ∈ [cOpSTXZeroPageY] then
    some .storeZeroPageY
  else if ir ∈ [cOpSTAAbsolute, cOpSTXAbsolute, cOpSTYAbsolute] then
    some .storeAbsolute
  else if ir ∈ [cOpSTAAbsoluteX] then
    some .storeAbsoluteX
  else if ir ∈ [cOpSTAAbsoluteY] then
    some .storeAbsoluteY
  else if ir ∈ [cOpSTAIndirectX] then
    some .storeIndirectX
  else if ir ∈ [cOpSTAIndirectY] then
    some .storeIndirectY
  else if ir ∈ [cOpBPL, cOpBMI, cOpBVC, cOpBVS, cOpBCC, cOpBCS, cOpBNE, cOpBEQ] then
    some .branch
  else if ir ∈ [cOpBRK] then
    some .brk
  else if ir ∈ [cOpJSR] then
    some .jsr
  else if ir ∈ [cOpRTS] then
    some .rts
  else if ir ∈ [cOpJMPAbsolute] then
    some .jmpAbsolute
  else if ir ∈ [cOpJMPIndirect] then
    some .jmpIndirect
  else if ir ∈ [cOpNOP] then
    some .nop
  else if ir ∈ [cOpRTI] then
    some .rti
  else if ir ∈ [cOpPHA, cOpPHP] then
    some .impliedPush
  else if ir ∈ [cOpPLA, cOpPLP] then
    some .impliedPull
  else none

/-- The two switches agree on every opcode. -/
theorem commitHandler_eq_captureHandler (ir : Byte) : commitHandler ir = captureHandler ir := by
  revert ir
  exact Byte.forall_of_quarters (by decide +kernel) (by decide +kernel) (by decide +kernel) (by decide +kernel)

end Sys6
