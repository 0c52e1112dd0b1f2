import Sys6.Cpu.Clock

/-!
# What the handlers leave alone

A capture handler moves latches and may read the bus; a commit handler does not touch
the clock, the instruction register or the reset line.
-/

namespace Sys6

variable {β : Type}

/-- Between the two there is at most one read. -/
def ReadOnce [BusLike β] (b b' : β) : Prop := b' = b ∨ ∃ addr, b' = (BusLike.read b addr).2

namespace CPU6502

/-- What no capture handler of an instruction changes. -/
structure Core where
  a : Byte
  x : Byte
  y : Byte
  pc : Word
  sp : Byte
  pFlags : PFlags
  cpuStep : CpuStep
  clockPhase : ClockPhase
  ir : Byte
  halted : Bool
  resetActive : Bool

def core (cpu : CPU6502 β) : Core :=
  ⟨cpu.a, cpu.x, cpu.y, cpu.pc, cpu.sp, cpu.pFlags, cpu.cpuStep, cpu.clockPhase, cpu.ir,
    cpu.halted, cpu.resetActive⟩

/-- `core` together with the address latches. -/
def latched (cpu : CPU6502 β) : Core × Word × Word × Bool :=
  (cpu.core, cpu.addrLatch, cpu.effAddr, cpu.pageCrossed)

lemma latched_applyBinaryAluOp (v : Byte) (cpu : CPU6502 β) :
    (cpu.applyBinaryAluOp v).latched = cpu.latched := by
  unfold applyBinaryAluOp
  cases binaryAluSelect cpu.ir with
  | none => rfl
  | some p => obtain ⟨op, r⟩ := p; cases op <;> rfl

lemma latched_beginUnaryAluOp (op : AluOp) (v : Byte) (cpu : CPU6502 β) :
    (cpu.beginUnaryAluOp op v).latched = cpu.latched := by
  cases op <;> rfl

lemma latched_applyUnaryAluOp (v : Byte) (cpu : CPU6502 β) :
    (cpu.applyUnaryAluOp v).latched = cpu.latched := by
  unfold applyUnaryAluOp
  cases unaryAluSelect cpu.ir with
  | none => rfl
  | some op => exact latched_beginUnaryAluOp op v cpu

lemma latched_loadOperand (v : Byte) (cpu : CPU6502 β) :
    (cpu.loadOperand v).latched = cpu.latched := rfl

lemma core_of_latched {c c' : CPU6502 β} (h : c.latched = c'.latched) : c.core = c'.core :=
  congrArg Prod.fst h

lemma core_applyBinaryAluOp (v : Byte) (cpu : CPU6502 β) :
    (cpu.applyBinaryAluOp v).core = cpu.core := core_of_latched (latched_applyBinaryAluOp v cpu)

lemma core_applyUnaryAluOp (v : Byte) (cpu : CPU6502 β) :
    (cpu.applyUnaryAluOp v).core = cpu.core := core_of_latched (latched_applyUnaryAluOp v cpu)

lemma core_loadOperand (v : Byte) (cpu : CPU6502 β) : (cpu.loadOperand v).core = cpu.core := rfl

lemma bus_applyBinaryAluOp (v : Byte) (cpu : CPU6502 β) : (cpu.applyBinaryAluOp v).bus = cpu.bus := by
  unfold applyBinaryAluOp
  cases binaryAluSelect cpu.ir with
  | none => rfl
  | some p => obtain ⟨op, r⟩ := p; cases op <;> rfl

lemma bus_applyUnaryAluOp (v : Byte) (cpu : CPU6502 β) : (cpu.applyUnaryAluOp v).bus = cpu.bus := by
  unfold applyUnaryAluOp
  cases unaryAluSelect cpu.ir with
  | none => rfl
  | some op => cases op <;> rfl

/-- What no commit handler changes. -/
structure Sequencer where
  clockPhase : ClockPhase
  ir : Byte
  resetActive : Bool

def sequencer (cpu : CPU6502 β) : Sequencer := ⟨cpu.clockPhase, cpu.ir, cpu.resetActive⟩

lemma sequencer_commitBinaryAluResult (cpu : CPU6502 β) :
    cpu.commitBinaryAluResult.sequencer = cpu.sequencer := by
  unfold commitBinaryAluResult
  cases binaryCommitSelect cpu.ir with
  | none => rfl
  | some k => cases k <;> rfl

lemma sequencer_commitUnaryAluFlags (cpu : CPU6502 β) :
    cpu.commitUnaryAluFlags.sequencer = cpu.sequencer := by
  unfold commitUnaryAluFlags
  cases unaryCommitSelect cpu.ir with
  | none => rfl
  | some k => cases k <;> rfl

lemma sequencer_commitLoadResult (cpu : CPU6502 β) :
    cpu.commitLoadResult.sequencer = cpu.sequencer := by
  unfold commitLoadResult
  cases loadSelect cpu.ir with
  | none => rfl
  | some r => cases r <;> rfl

@[simp] lemma sequencer_advance (t : CpuStep) (cpu : CPU6502 β) :
    (cpu.advance t).sequencer = cpu.sequencer := rfl

@[simp] lemma sequencer_incPC (cpu : CPU6502 β) : cpu.incPC.sequencer = cpu.sequencer := rfl

section Finish

variable {finish : CPU6502 β → CPU6502 β} (hfin : ∀ c, (finish c).sequencer = c.sequencer)
include hfin

lemma sequencer_commitImmediate (cpu : CPU6502 β) :
    (commitImmediate finish cpu).sequencer = cpu.sequencer := by
  simp only [commitImmediate, sequencer_advance, hfin, sequencer_incPC]

lemma sequencer_commitZeroPage (cpu : CPU6502 β) :
    (commitZeroPage finish cpu).sequencer = cpu.sequencer := by
  unfold commitZeroPage
  cases cpu.cpuStep <;> simp only [sequencer_advance, hfin, sequencer_incPC]

lemma sequencer_commitZeroPageIndexed (cpu : CPU6502 β) :
    (commitZeroPageIndexed finish cpu).sequencer = cpu.sequencer := by
  unfold commitZeroPageIndexed
  cases cpu.cpuStep <;> simp only [sequencer_advance, hfin, sequencer_incPC]

lemma sequencer_commitAbsolute (cpu : CPU6502 β) :
    (commitAbsolute finish cpu).sequencer = cpu.sequencer := by
  unfold commitAbsolute
  cases cpu.cpuStep <;> simp only [sequencer_advance, hfin, sequencer_incPC]

lemma sequencer_commitAbsoluteIndexed (cpu : CPU6502 β) :
    (commitAbsoluteIndexed finish cpu).sequencer = cpu.sequencer := by
  unfold commitAbsoluteIndexed
  cases cpu.cpuStep <;> simp only [sequencer_advance, hfin, sequencer_incPC]
  split_ifs <;> simp only [sequencer_advance, hfin]

lemma sequencer_commitIndirectX (cpu : CPU6502 β) :
    (commitIndirectX finish cpu).sequencer = cpu.sequencer := by
  unfold commitIndirectX
  cases cpu.cpuStep <;> simp only [sequencer_advance, hfin, sequencer_incPC]

lemma sequencer_commitIndirectY (cpu : CPU6502 β) :
    (commitIndirectY finish cpu).sequencer = cpu.sequencer := by
  unfold commitIndirectY
  cases cpu.cpuStep <;> simp only [sequencer_advance, hfin, sequencer_incPC]
  split_ifs <;> simp only [sequencer_advance, hfin]

end Finish

lemma sequencer_commitImpliedIncDec (cpu : CPU6502 β) :
    cpu.commitImpliedIncDec.sequencer = cpu.sequencer := by
  unfold commitImpliedIncDec
  split_ifs <;> rfl

lemma sequencer_commitImpliedTransfer (cpu : CPU6502 β) :
    cpu.commitImpliedTransfer.sequencer = cpu.sequencer := by
  unfold commitImpliedTransfer
  split_ifs <;> rfl

lemma sequencer_commitImpliedFlagOp (cpu : CPU6502 β) :
    cpu.commitImpliedFlagOp.sequencer = cpu.sequencer := by
  unfold commitImpliedFlagOp
  split_ifs <;> rfl

lemma sequencer_commitBranch (cpu : CPU6502 β) : cpu.commitBranch.sequencer = cpu.sequencer := by
  unfold commitBranch
  cases cpu.cpuStep <;> cases cpu.pageCrossed <;> rfl

lemma sequencer_commitRTS (cpu : CPU6502 β) : cpu.commitRTS.sequencer = cpu.sequencer := by
  unfold commitRTS
  cases cpu.cpuStep <;> rfl

lemma sequencer_commitJMPAbsolute (cpu : CPU6502 β) :
    cpu.commitJMPAbsolute.sequencer = cpu.sequencer := by
  unfold commitJMPAbsolute
  cases cpu.cpuStep <;> rfl

lemma sequencer_commitJMPIndirect (cpu : CPU6502 β) :
    cpu.commitJMPIndirect.sequencer = cpu.sequencer := by
  unfold commitJMPIndirect
  cases cpu.cpuStep <;> rfl

lemma sequencer_commitImpliedPull (cpu : CPU6502 β) :
    cpu.commitImpliedPull.sequencer = cpu.sequencer := by
  unfold commitImpliedPull
  cases cpu.cpuStep <;> first | rfl | (dsimp only; split_ifs <;> rfl)

lemma clockPhase_commitReset (cpu : CPU6502 β) : cpu.commitReset.clockPhase = cpu.clockPhase := by
  unfold commitReset
  cases cpu.cpuStep <;> rfl

variable [BusLike β]

lemma sequencer_commitRmwResult (addr : Word) (cpu : CPU6502 β) :
    (cpu.commitRmwResult addr).sequencer = cpu.sequencer := by
  unfold commitRmwResult
  rw [sequencer_advance, sequencer_commitUnaryAluFlags]
  rfl

lemma sequencer_commitRmwZeroPage (cpu : CPU6502 β) :
    cpu.commitRmwZeroPage.sequencer = cpu.sequencer := by
  unfold commitRmwZeroPage
  cases cpu.cpuStep <;> first | rfl | exact sequencer_commitRmwResult _ cpu

lemma sequencer_commitRmwZeroPageX (cpu : CPU6502 β) :
    cpu.commitRmwZeroPageX.sequencer = cpu.sequencer := by
  unfold commitRmwZeroPageX
  cases cpu.cpuStep <;> first | rfl | exact sequencer_commitRmwResult _ cpu

lemma sequencer_commitRmwAbsolute (cpu : CPU6502 β) :
    cpu.commitRmwAbsolute.sequencer = cpu.sequencer := by
  unfold commitRmwAbsolute
  cases cpu.cpuStep <;> first | rfl | exact sequencer_commitRmwResult _ cpu

lemma sequencer_commitRmwAbsoluteX (cpu : CPU6502 β) :
    cpu.commitRmwAbsoluteX.sequencer = cpu.sequencer := by
  unfold commitRmwAbsoluteX
  cases cpu.cpuStep <;> first | rfl | exact sequencer_commitRmwResult _ cpu

lemma sequencer_commitStoreZeroPage (cpu : CPU6502 β) :
    cpu.commitStoreZeroPage.sequencer = cpu.sequencer := by
  unfold commitStoreZeroPage
  cases cpu.cpuStep <;> rfl

lemma sequencer_commitStoreZeroPageIndexed (cpu : CPU6502 β) :
    cpu.commitStoreZeroPageIndexed.sequencer = cpu.sequencer := by
  unfold commitStoreZeroPageIndexed
  cases cpu.cpuStep <;> rfl

lemma sequencer_commitStoreAbsolute (cpu : CPU6502 β) :
    cpu.commitStoreAbsolute.sequencer = cpu.sequencer := by
  unfold commitStoreAbsolute
  cases cpu.cpuStep <;> rfl

lemma sequencer_commitStoreAbsoluteIndexed (cpu : CPU6502 β) :
    cpu.commitStoreAbsoluteIndexed.sequencer = cpu.sequencer := by
  unfold commitStoreAbsoluteIndexed
  cases cpu.cpuStep <;> rfl

lemma sequencer_commitStoreIndirect (cpu : CPU6502 β) :
    cpu.commitStoreIndirect.sequencer = cpu.sequencer := by
  unfold commitStoreIndirect
  cases cpu.cpuStep <;> rfl

lemma sequencer_commitBRK (cpu : CPU6502 β) : cpu.commitBRK.sequencer = cpu.sequencer := by
  unfold commitBRK
  cases cpu.cpuStep <;> rfl

lemma sequencer_commitJSR (cpu : CPU6502 β) : cpu.commitJSR.sequencer = cpu.sequencer := by
  unfold commitJSR
  cases cpu.cpuStep <;> rfl

lemma sequencer_commitRTI (cpu : CPU6502 β) : cpu.commitRTI.sequencer = cpu.sequencer := by
  unfold commitRTI
  cases cpu.cpuStep <;> rfl

lemma sequencer_commitImpliedPush (cpu : CPU6502 β) :
    cpu.commitImpliedPush.sequencer = cpu.sequencer := by
  unfold commitImpliedPush
  cases cpu.cpuStep <;> first | rfl | split_ifs <;> rfl

/-- Committing leaves the clock, the instruction register and the reset line alone. -/
theorem sequencer_commit (h : Handler) (cpu : CPU6502 β) :
    (h.commit cpu).sequencer = cpu.sequencer := by
  cases h with
  | readImmediate => exact sequencer_commitImmediate sequencer_commitBinaryAluResult cpu
  | readAbsolute => exact sequencer_commitAbsolute sequencer_commitBinaryAluResult cpu
  | readZeroPage => exact sequencer_commitZeroPage sequencer_commitBinaryAluResult cpu
  | readZeroPageX => exact sequencer_commitZeroPageIndexed sequencer_commitBinaryAluResult cpu
  | readAbsoluteX | readAbsoluteY =>
    exact sequencer_commitAbsoluteIndexed sequencer_commitBinaryAluResult cpu
  | readIndirectX => exact sequencer_commitIndirectX sequencer_commitBinaryAluResult cpu
  | readIndirectY => exact sequencer_commitIndirectY sequencer_commitBinaryAluResult cpu
  | shiftAccumulator => exact sequencer_commitUnaryAluFlags (cpu.setA _)
  | rmwZeroPage => exact sequencer_commitRmwZeroPage cpu
  | rmwZeroPageX => exact sequencer_commitRmwZeroPageX cpu
  | rmwAbsolute => exact sequencer_commitRmwAbsolute cpu
  | rmwAbsoluteX => exact sequencer_commitRmwAbsoluteX cpu
  | impliedIncDec => exact sequencer_commitImpliedIncDec cpu
  | impliedTransfer => exact sequencer_commitImpliedTransfer cpu
  | impliedFlagOp => exact sequencer_commitImpliedFlagOp cpu
  | loadImmediate => exact sequencer_commitImmediate sequencer_commitLoadResult cpu
  | loadZeroPage => exact sequencer_commitZeroPage sequencer_commitLoadResult cpu
  | loadZeroPageX | loadZeroPageY =>
    exact sequencer_commitZeroPageIndexed sequencer_commitLoadResult cpu
  | loadAbsolute => exact sequencer_commitAbsolute sequencer_commitLoadResult cpu
  | loadAbsoluteX | loadAbsoluteY =>
    exact sequencer_commitAbsoluteIndexed sequencer_commitLoadResult cpu
  | loadIndirectX => exact sequencer_commitIndirectX sequencer_commitLoadResult cpu
  | loadIndirectY => exact sequencer_commitIndirectY sequencer_commitLoadResult cpu
  | storeZeroPage => exact sequencer_commitStoreZeroPage cpu
  | storeZeroPageX | storeZeroPageY => exact sequencer_commitStoreZeroPageIndexed cpu
  | storeAbsolute => exact sequencer_commitStoreAbsolute cpu
  | storeAbsoluteX | storeAbsoluteY => exact sequencer_commitStoreAbsoluteIndexed cpu
  | storeIndirectX | storeIndirectY => exact sequencer_commitStoreIndirect cpu
  | branch => exact sequencer_commitBranch cpu
  | brk => exact sequencer_commitBRK cpu
  | jsr => exact sequencer_commitJSR cpu
  | rts => exact sequencer_commitRTS cpu
  | jmpAbsolute => exact sequencer_commitJMPAbsolute cpu
  | jmpIndirect => exact sequencer_commitJMPIndirect cpu
  | nop => rfl
  | rti => exact sequencer_commitRTI cpu
  | impliedPush => exact sequencer_commitImpliedPush cpu
  | impliedPull => exact sequencer_commitImpliedPull cpu

lemma clockPhase_onClockLow (cpu : CPU6502 β) : cpu.onClockLow.clockPhase = cpu.clockPhase := by
  unfold onClockLow
  split_ifs with hr ht
  · exact clockPhase_commitReset cpu
  · rfl
  · cases commitHandler cpu.ir with
    | none => rfl
    | some h => exact congrArg Sequencer.clockPhase (sequencer_commit h cpu)

/-- The core is kept, and the bus is read once at most. -/
structure Captured (cpu cpu' : CPU6502 β) : Prop where
  core : cpu'.core = cpu.core
  bus : ReadOnce cpu.bus cpu'.bus

lemma Captured.latches {cpu cpu' : CPU6502 β} (hcore : cpu'.core = cpu.core) (hbus : cpu'.bus = cpu.bus) :
    Captured cpu cpu' := ⟨hcore, .inl hbus⟩

lemma Captured.read {cpu cpu' : CPU6502 β} {addr : Word} (hcore : cpu'.core = cpu.core)
    (hbus : cpu'.bus = (BusLike.read cpu.bus addr).2) : Captured cpu cpu' := ⟨hcore, .inr ⟨addr, hbus⟩⟩

section Operand

variable {use : Byte → CPU6502 β → CPU6502 β} (hcore : ∀ v c, (use v c).core = c.core)
  (hbus : ∀ v c, (use v c).bus = c.bus)
include hcore hbus

lemma captured_busRead (cpu : CPU6502 β) (addr : Word) : Captured cpu (cpu.busRead addr use) := by
  apply Captured.read
  · unfold busRead
    rw [hcore]
    rfl
  · unfold busRead
    rw [hbus]

lemma captured_captureImmediate (cpu : CPU6502 β) : Captured cpu (captureImmediate use cpu) :=
  captured_busRead hcore hbus cpu cpu.pc

lemma captured_captureZeroPage (cpu : CPU6502 β) : Captured cpu (captureZeroPage use cpu) := by
  unfold captureZeroPage
  cases cpu.cpuStep <;>
    first | exact .latches rfl rfl | exact .read rfl rfl | exact captured_busRead hcore hbus cpu _

lemma captured_captureZeroPageIndexed (index : CPU6502 β → Byte) (cpu : CPU6502 β) :
    Captured cpu (captureZeroPageIndexed use index cpu) := by
  unfold captureZeroPageIndexed
  cases cpu.cpuStep <;>
    first | exact .latches rfl rfl | exact .read rfl rfl | exact captured_busRead hcore hbus cpu _

lemma captured_captureAbsolute (cpu : CPU6502 β) : Captured cpu (captureAbsolute use cpu) := by
  unfold captureAbsolute
  cases cpu.cpuStep <;>
    first | exact .latches rfl rfl | exact .read rfl rfl | exact captured_busRead hcore hbus cpu _

lemma captured_captureAbsoluteIndexed (index : CPU6502 β → Byte) (cpu : CPU6502 β) :
    Captured cpu (captureAbsoluteIndexed use index cpu) := by
  unfold captureAbsoluteIndexed
  cases cpu.cpuStep <;> cases cpu.pageCrossed <;>
    first | exact .latches rfl rfl | exact .read rfl rfl | exact captured_busRead hcore hbus cpu _

lemma captured_captureIndirectX (cpu : CPU6502 β) : Captured cpu (captureIndirectX use cpu) := by
  unfold captureIndirectX
  cases cpu.cpuStep <;>
    first | exact .latches rfl rfl | exact .read rfl rfl | exact captured_busRead hcore hbus cpu _

lemma captured_captureIndirectY (cpu : CPU6502 β) : Captured cpu (captureIndirectY use cpu) := by
  unfold captureIndirectY
  cases cpu.cpuStep <;> cases cpu.pageCrossed <;>
    first | exact .latches rfl rfl | exact .read rfl rfl | exact captured_busRead hcore hbus cpu _

end Operand

lemma captured_captureStoreZeroPageIndexed (index : CPU6502 β → Byte) (cpu : CPU6502 β) :
    Captured cpu (captureStoreZeroPageIndexed index cpu) := by
  unfold captureStoreZeroPageIndexed
  cases cpu.cpuStep <;> first | exact .latches rfl rfl | exact .read rfl rfl

lemma captured_captureStoreAbsoluteIndexed (index : CPU6502 β → Byte) (cpu : CPU6502 β) :
    Captured cpu (captureStoreAbsoluteIndexed index cpu) := by
  unfold captureStoreAbsoluteIndexed
  cases cpu.cpuStep <;> first | exact .latches rfl rfl | exact .read rfl rfl

lemma captured_captureRmwAbsoluteX (cpu : CPU6502 β) : Captured cpu cpu.captureRmwAbsoluteX := by
  unfold captureRmwAbsoluteX
  cases cpu.cpuStep <;>
    first
    | exact .latches rfl rfl
    | exact .read rfl rfl
    | exact captured_busRead core_applyUnaryAluOp bus_applyUnaryAluOp cpu _

lemma captured_captureReset (cpu : CPU6502 β) : Captured cpu cpu.captureReset := by
  unfold captureReset
  cases cpu.cpuStep <;> first | exact .latches rfl rfl | exact .read rfl rfl

/-- Capturing changes nothing that the programmer or the sequencer can see, and reads the bus once at most. -/
theorem captured_capture (h : Handler) (cpu : CPU6502 β) : Captured cpu (h.capture cpu) := by
  cases h with
  | readImmediate => exact captured_captureImmediate core_applyBinaryAluOp bus_applyBinaryAluOp cpu
  | readAbsolute => exact captured_captureAbsolute core_applyBinaryAluOp bus_applyBinaryAluOp cpu
  | readZeroPage => exact captured_captureZeroPage core_applyBinaryAluOp bus_applyBinaryAluOp cpu
  | readZeroPageX => exact captured_captureZeroPageIndexed core_applyBinaryAluOp bus_applyBinaryAluOp _ cpu
  | readAbsoluteX | readAbsoluteY =>
    exact captured_captureAbsoluteIndexed core_applyBinaryAluOp bus_applyBinaryAluOp _ cpu
  | readIndirectX => exact captured_captureIndirectX core_applyBinaryAluOp bus_applyBinaryAluOp cpu
  | readIndirectY => exact captured_captureIndirectY core_applyBinaryAluOp bus_applyBinaryAluOp cpu
  | shiftAccumulator => exact .latches (core_applyUnaryAluOp _ cpu) (bus_applyUnaryAluOp _ cpu)
  | rmwZeroPage => exact captured_captureZeroPage core_applyUnaryAluOp bus_applyUnaryAluOp cpu
  | rmwZeroPageX => exact captured_captureZeroPageIndexed core_applyUnaryAluOp bus_applyUnaryAluOp _ cpu
  | rmwAbsolute => exact captured_captureAbsolute core_applyUnaryAluOp bus_applyUnaryAluOp cpu
  | rmwAbsoluteX => exact captured_captureRmwAbsoluteX cpu
  | impliedIncDec =>
    simp only [Handler.capture, captureImpliedIncDec]
    split_ifs <;> exact .latches rfl rfl
  | loadImmediate => exact captured_captureImmediate core_loadOperand (fun _ _ => rfl) cpu
  | loadZeroPage => exact captured_captureZeroPage core_loadOperand (fun _ _ => rfl) cpu
  | loadZeroPageX | loadZeroPageY => exact captured_captureZeroPageIndexed core_loadOperand (fun _ _ => rfl) _ cpu
  | loadAbsolute => exact captured_captureAbsolute core_loadOperand (fun _ _ => rfl) cpu
  | loadAbsoluteX | loadAbsoluteY => exact captured_captureAbsoluteIndexed core_loadOperand (fun _ _ => rfl) _ cpu
  | loadIndirectX => exact captured_captureIndirectX core_loadOperand (fun _ _ => rfl) cpu
  | loadIndirectY => exact captured_captureIndirectY core_loadOperand (fun _ _ => rfl) cpu
  | storeZeroPageX | storeZeroPageY => exact captured_captureStoreZeroPageIndexed _ cpu
  | storeAbsoluteX | storeAbsoluteY => exact captured_captureStoreAbsoluteIndexed _ cpu
  | impliedTransfer | impliedFlagOp | nop => exact .latches rfl rfl
  | storeZeroPage =>
    simp only [Handler.capture, captureStoreZeroPage]
    cases cpu.cpuStep <;> first | exact .latches rfl rfl | exact .read rfl rfl
  | storeAbsolute =>
    simp only [Handler.capture, captureStoreAbsolute]
    cases cpu.cpuStep <;> first | exact .latches rfl rfl | exact .read rfl rfl
  | storeIndirectX =>
    simp only [Handler.capture, captureStoreIndirectX]
    cases cpu.cpuStep <;> first | exact .latches rfl rfl | exact .read rfl rfl
  | storeIndirectY =>
    simp only [Handler.capture, captureStoreIndirectY]
    cases cpu.cpuStep <;> first | exact .latches rfl rfl | exact .read rfl rfl
  | branch =>
    simp only [Handler.capture, captureBranch]
    cases hs : cpu.cpuStep with
    | T1 => exact .read rfl rfl
    | _ => exact .latches (by simp [core, hs]) rfl
  | brk =>
    simp only [Handler.capture, captureBRK]
    cases cpu.cpuStep <;> first | exact .latches rfl rfl | exact .read rfl rfl
  | jsr =>
    simp only [Handler.capture, captureJSR]
    cases cpu.cpuStep <;> first | exact .latches rfl rfl | exact .read rfl rfl
  | rts =>
    simp only [Handler.capture, captureRTS]
    cases cpu.cpuStep <;> first | exact .latches rfl rfl | exact .read rfl rfl
  | jmpAbsolute =>
    simp only [Handler.capture, captureJMPAbsolute]
    cases cpu.cpuStep <;> first | exact .latches rfl rfl | exact .read rfl rfl
  | jmpIndirect =>
    simp only [Handler.capture, captureJMPIndirect]
    cases cpu.cpuStep <;> first | exact .latches rfl rfl | exact .read rfl rfl
  | rti =>
    simp only [Handler.capture, captureRTI]
    cases cpu.cpuStep <;> first | exact .latches rfl rfl | exact .read rfl rfl
  | impliedPush =>
    simp only [Handler.capture, captureImpliedPush]
    cases cpu.cpuStep <;> first | exact .latches rfl rfl | exact .read rfl rfl
  | impliedPull =>
    simp only [Handler.capture, captureImpliedPull]
    cases cpu.cpuStep <;> first | exact .latches rfl rfl | exact .read rfl rfl

lemma core_capture (h : Handler) (cpu : CPU6502 β) : (h.capture cpu).core = cpu.core :=
  (captured_capture h cpu).core

lemma core_captureReset (cpu : CPU6502 β) : cpu.captureReset.core = cpu.core := (captured_captureReset cpu).core

lemma clockPhase_onClockHigh (cpu : CPU6502 β) :
    cpu.onClockHigh.clockPhase = cpu.clockPhase := by
  unfold onClockHigh
  split_ifs with hr ht
  · exact congrArg Core.clockPhase (core_captureReset cpu)
  · rfl
  · cases captureHandler cpu.ir with
    | none => rfl
    | some h => exact congrArg Core.clockPhase (core_capture h cpu)

end CPU6502

end Sys6
