import Sys6.Cpu.Dispatch
import Sys6.Cpu.Handlers
import Sys6.Library.DoWhile

/-!
# The clock

One `tick` moves the clock by one of its four phases. The rising edge captures, the
falling edge commits; the other two phases only let the ALU settle.
-/

namespace Sys6

def Handler.capture {β : Type} [BusLike β] : Handler → CPU6502 β → CPU6502 β
  | .readImmediate => CPU6502.captureReadImmediate
  | .readAbsolute => CPU6502.captureReadAbsolute
  | .readZeroPage => CPU6502.captureReadZeroPage
  | .readZeroPageX => CPU6502.captureReadZeroPageX
  | .readAbsoluteX => CPU6502.captureReadAbsoluteX
  | .readAbsoluteY => CPU6502.captureReadAbsoluteY
  | .readIndirectX => CPU6502.captureReadIndirectX
  | .readIndirectY => CPU6502.captureReadIndirectY
  | .shiftAccumulator => CPU6502.captureShiftAccumulator
  | .rmwZeroPage => CPU6502.captureRmwZeroPage
  | .rmwZeroPageX => CPU6502.captureRmwZeroPageX
  | .rmwAbsolute => CPU6502.captureRmwAbsolute
  | .rmwAbsoluteX => CPU6502.captureRmwAbsoluteX
  | .impliedIncDec => CPU6502.captureImpliedIncDec
  | .impliedTransfer => CPU6502.captureImpliedTransfer
  | .impliedFlagOp => CPU6502.captureImpliedFlagOp
  | .loadImmediate => CPU6502.captureLoadImmediate
  | .loadZeroPage => CPU6502.captureLoadZeroPage
  | .loadZeroPageX => CPU6502.captureLoadZeroPageX
  | .loadZeroPageY => CPU6502.captureLoadZeroPageY
  | .loadAbsolute => CPU6502.captureLoadAbsolute
  | .loadAbsoluteX => CPU6502.captureLoadAbsoluteX
  | .loadAbsoluteY => CPU6502.captureLoadAbsoluteY
  | .loadIndirectX => CPU6502.captureLoadIndirectX
  | .loadIndirectY => CPU6502.captureLoadIndirectY
  | .storeZeroPage => CPU6502.captureStoreZeroPage
  | .storeZeroPageX => CPU6502.captureStoreZeroPageX
  | .storeZeroPageY => CPU6502.captureStoreZeroPageY
  | .storeAbsolute => CPU6502.captureStoreAbsolute
  | .storeAbsoluteX => CPU6502.captureStoreAbsoluteX
  | .storeAbsoluteY => CPU6502.captureStoreAbsoluteY
  | .storeIndirectX => CPU6502.captureStoreIndirectX
  | .storeIndirectY => CPU6502.captureStoreIndirectY
  | .branch => CPU6502.captureBranch
  | .brk => CPU6502.captureBRK
  | .jsr => CPU6502.captureJSR
  | .rts => CPU6502.captureRTS
  | .jmpAbsolute => CPU6502.captureJMPAbsolute
  | .jmpIndirect => CPU6502.captureJMPIndirect
  | .nop => CPU6502.captureNOP
  | .rti => CPU6502.captureRTI
  | .impliedPush => CPU6502.captureImpliedPush
  | .impliedPull => CPU6502.captureImpliedPull

def Handler.commit {β : Type} [BusLike β] : Handler → CPU6502 β → CPU6502 β
  | .readImmediate => CPU6502.commitReadImmediate
  | .readAbsolute => CPU6502.commitReadAbsolute
  | .readZeroPage => CPU6502.commitReadZeroPage
  | .readZeroPageX => CPU6502.commitReadZeroPageX
  | .readAbsoluteX => CPU6502.commitReadAbsoluteX
  | .readAbsoluteY => CPU6502.commitReadAbsoluteY
  | .readIndirectX => CPU6502.commitReadIndirectX
  | .readIndirectY => CPU6502.commitReadIndirectY
  | .shiftAccumulator => CPU6502.commitShiftAccumulator
  | .rmwZeroPage => CPU6502.commitRmwZeroPage
  | .rmwZeroPageX => CPU6502.commitRmwZeroPageX
  | .rmwAbsolute => CPU6502.commitRmwAbsolute
  | .rmwAbsoluteX => CPU6502.commitRmwAbsoluteX
  | .impliedIncDec => CPU6502.commitImpliedIncDec
  | .impliedTransfer => CPU6502.commitImpliedTransfer
  | .impliedFlagOp => CPU6502.commitImpliedFlagOp
  | .loadImmediate => CPU6502.commitLoadImmediate
  | .loadZeroPage => CPU6502.commitLoadZeroPage
  | .loadZeroPageX => CPU6502.commitLoadZeroPageX
  | .loadZeroPageY => CPU6502.commitLoadZeroPageY
  | .loadAbsolute => CPU6502.commitLoadAbsolute
  | .loadAbsoluteX => CPU6502.commitLoadAbsoluteX
  | .loadAbsoluteY => CPU6502.commitLoadAbsoluteY
  | .loadIndirectX => CPU6502.commitLoadIndirectX
  | .loadIndirectY => CPU6502.commitLoadIndirectY
  | .storeZeroPage => CPU6502.commitStoreZeroPage
  | .storeZeroPageX => CPU6502.commitStoreZeroPageX
  | .storeZeroPageY => CPU6502.commitStoreZeroPageY
  | .storeAbsolute => CPU6502.commitStoreAbsolute
  | .storeAbsoluteX => CPU6502.commitStoreAbsoluteX
  | .storeAbsoluteY => CPU6502.commitStoreAbsoluteY
  | .storeIndirectX => CPU6502.commitStoreIndirectX
  | .storeIndirectY => CPU6502.commitStoreIndirectY
  | .branch => CPU6502.commitBranch
  | .brk => CPU6502.commitBRK
  | .jsr => CPU6502.commitJSR
  | .rts => CPU6502.commitRTS
  | .jmpAbsolute => CPU6502.commitJMPAbsolute
  | .jmpIndirect => CPU6502.commitJMPIndirect
  | .nop => CPU6502.commitNOP
  | .rti => CPU6502.commitRTI
  | .impliedPush => CPU6502.commitImpliedPush
  | .impliedPull => CPU6502.commitImpliedPull

def nextClockPhase : ClockPhase → ClockPhase
  | .Low => .LowToHigh
  | .LowToHigh => .High
  | .High => .HighToLow
  | .HighToLow => .Low

namespace CPU6502

variable {β : Type} [BusLike β]

def onClockHigh (cpu : CPU6502 β) : CPU6502 β :=
  if cpu.resetActive then cpu.captureReset
  else if cpu.cpuStep = .T0 then cpu.captureOpcodeFetch
  else
    match captureHandler cpu.ir with
    | some handler => handler.capture cpu
    | none => cpu

def onClockLow (cpu : CPU6502 β) : CPU6502 β :=
  if cpu.resetActive then cpu.commitReset
  else if cpu.cpuStep = .T0 then cpu.commitOpcodeFetch
  else
    match commitHandler cpu.ir with
    | some handler => handler.commit cpu
    | none => cpu.advance .T0

def tick (cpu : CPU6502 β) : CPU6502 β :=
  let cpu := { cpu with
    aluOutput := ALU.execute cpu.aluA cpu.aluB cpu.aluFunction cpu.aluCarryIn
    clockPhase := nextClockPhase cpu.clockPhase }
  match cpu.clockPhase with
  | .High => cpu.onClockHigh
  | .Low => cpu.onClockLow
  | _ => cpu

/-- The loop condition of `reset` and `executeInstruction`, negated. -/
def atBoundary (cpu : CPU6502 β) : Bool := cpu.cpuStep == .T0 && cpu.clockPhase == .Low

def beginReset (cpu : CPU6502 β) : CPU6502 β :=
  { cpu with resetActive := true, cpuStep := .T0 }

/-- `fuel` bounds the number of ticks; 28 are enough from every reachable state. -/
def reset (fuel : Nat) (cpu : CPU6502 β) : Option (CPU6502 β) :=
  doWhile tick atBoundary fuel cpu.beginReset

def executeInstruction (fuel : Nat) (cpu : CPU6502 β) : Option (CPU6502 β) :=
  doWhile tick atBoundary fuel cpu

def runToClockHigh (fuel : Nat) (cpu : CPU6502 β) : Option (CPU6502 β) :=
  doWhile tick (fun cpu => cpu.clockPhase == .High) fuel cpu

end CPU6502

end Sys6
