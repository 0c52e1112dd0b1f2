import Sys6.Proofs.Effects

/-!
# The switches against the manual

The dispatch switch and the selectors are compared with the rows of the manual, over all
opcodes.
-/

namespace Sys6

open Isa (Mnemonic Mode)

def binaryFits (ir : Byte) (mn : Mnemonic) : Bool :=
  match binaryOf mn with
  | some (op, r, k) => binaryAluSelect ir == some (op, r) && binaryCommitSelect ir == some k
  | none => false

def unaryFits (ir : Byte) (mn : Mnemonic) : Bool :=
  match unaryOf mn with
  | some (op, k) => unaryAluSelect ir == some op && unaryCommitSelect ir == some k
  | none => false

def loadFits (ir : Byte) (mn : Mnemonic) : Bool :=
  (loadOf mn).isSome && loadSelect ir == loadOf mn

def storeFits (ir : Byte) (mn : Mnemonic) : Bool :=
  (storeOf mn).isSome && storeSelect ir == storeOf mn

/-- The handler of an opcode belongs to the row of the opcode. -/
def Handler.fits (ir : Byte) (mn : Mnemonic) (mode : Mode) : Handler → Bool
  | .readImmediate => mode == .immediate && binaryFits ir mn
  | .readAbsolute => mode == .absolute && binaryFits ir mn
  | .readZeroPage => mode == .zeroPage && binaryFits ir mn
  | .readZeroPageX => mode == .zeroPageX && binaryFits ir mn
  | .readAbsoluteX => mode == .absoluteX && binaryFits ir mn
  | .readAbsoluteY => mode == .absoluteY && binaryFits ir mn
  | .readIndirectX => mode == .indirectX && binaryFits ir mn
  | .readIndirectY => mode == .indirectY && binaryFits ir mn
  | .shiftAccumulator => mode == .accumulator && unaryFits ir mn
  | .rmwZeroPage => mode == .zeroPage && unaryFits ir mn
  | .rmwZeroPageX => mode == .zeroPageX && unaryFits ir mn
  | .rmwAbsolute => mode == .absolute && unaryFits ir mn
  | .rmwAbsoluteX => mode == .absoluteX && unaryFits ir mn
  | .impliedIncDec => mode == .implied &&
      (ir, mn) ∈ [(cOpINX, Mnemonic.INX), (cOpDEX, .DEX), (cOpINY, .INY), (cOpDEY, .DEY)]
  | .impliedTransfer => mode == .implied &&
      (ir, mn) ∈ [(cOpTAX, Mnemonic.TAX), (cOpTXA, .TXA), (cOpTAY, .TAY), (cOpTYA, .TYA),
        (cOpTSX, .TSX), (cOpTXS, .TXS)]
  | .impliedFlagOp => mode == .implied &&
      (ir, mn) ∈ [(cOpCLC, Mnemonic.CLC), (cOpSEC, .SEC), (cOpCLI, .CLI), (cOpSEI, .SEI),
        (cOpCLV, .CLV), (cOpCLD, .CLD), (cOpSED, .SED)]
  | .loadImmediate => mode == .immediate && loadFits ir mn
  | .loadZeroPage => mode == .zeroPage && loadFits ir mn
  | .loadZeroPageX => mode == .zeroPageX && loadFits ir mn
  | .loadZeroPageY => mode == .zeroPageY && loadFits ir mn
  | .loadAbsolute => mode == .absolute && loadFits ir mn
  | .loadAbsoluteX => mode == .absoluteX && loadFits ir mn
  | .loadAbsoluteY => mode == .absoluteY && loadFits ir mn
  | .loadIndirectX => mode == .indirectX && loadFits ir mn
  | .loadIndirectY => mode == .indirectY && loadFits ir mn
  | .storeZeroPage => mode == .zeroPage && storeFits ir mn
  | .storeZeroPageX => mode == .zeroPageX && storeFits ir mn
  | .storeZeroPageY => mode == .zeroPageY && storeFits ir mn
  | .storeAbsolute => mode == .absolute && storeFits ir mn
  | .storeAbsoluteX => mode == .absoluteX && storeFits ir mn
  | .storeAbsoluteY => mode == .absoluteY && storeFits ir mn
  | .storeIndirectX => mode == .indirectX && storeFits ir mn
  | .storeIndirectY => mode == .indirectY && storeFits ir mn
  | .branch => mode == .relative &&
      (ir, mn) ∈ [(cOpBPL, Mnemonic.BPL), (cOpBMI, .BMI), (cOpBVC, .BVC), (cOpBVS, .BVS),
        (cOpBCC, .BCC), (cOpBCS, .BCS), (cOpBNE, .BNE), (cOpBEQ, .BEQ)]
  | .brk => (mn, mode, ir) = (.BRK, .implied, cOpBRK)
  | .jsr => (mn, mode) = (.JSR, .absolute)
  | .rts => (mn, mode) = (.RTS, .implied)
  | .jmpAbsolute => (mn, mode) = (.JMP, .absolute)
  | .jmpIndirect => (mn, mode) = (.JMP, .indirect)
  | .nop => (mn, mode) = (.NOP, .implied)
  | .rti => (mn, mode) = (.RTI, .implied)
  | .impliedPush =>
    (mn, mode, ir) = (.PHA, .implied, cOpPHA) ∨ (mn, mode, ir) = (.PHP, .implied, cOpPHP)
  | .impliedPull =>
    (mn, mode, ir) = (.PLA, .implied, cOpPLA) ∨ (mn, mode, ir) = (.PLP, .implied, cOpPLP)

/-- The dispatch of one opcode agrees with the manual. -/
def dispatchFits (ir : Byte) : Bool :=
  match captureHandler ir, Isa.decode ir with
  | some h, some (mn, mode) => h.fits ir mn mode && (ir ∈ [cOpBRK, cOpPHP]) == (mn ∈ [.BRK, .PHP])
  | none, none => true
  | _, _ => false

theorem dispatchFits_all (ir : Byte) : dispatchFits ir = true := by
  revert ir
  exact Byte.forall_of_quarters (by decide +kernel) (by decide +kernel) (by decide +kernel) (by decide +kernel)

end Sys6
