import Sys6.Isa.Semantics
import Sys6.Proofs.Frames

/-!
# Clock cycles

From a low clock four ticks make one cycle: the capture handler of the current T-state,
a settled ALU, the commit handler. An instruction is a loop of cycles.
-/

namespace Sys6

variable {β : Type}

namespace CPU6502

/-- The programmer-visible part, with the bus. -/
def arch (cpu : CPU6502 β) : Isa.Arch β :=
  ⟨cpu.a, cpu.x, cpu.y, cpu.sp, cpu.pFlags, cpu.pc, cpu.halted, cpu.bus⟩

/-- The clock goes up. -/
def rise (cpu : CPU6502 β) : CPU6502 β :=
  { cpu with
    aluOutput := ALU.execute cpu.aluA cpu.aluB cpu.aluFunction cpu.aluCarryIn
    clockPhase := .High }

/-- The clock goes down; the ALU shows the result of its latches. -/
def fall (cpu : CPU6502 β) : CPU6502 β :=
  { cpu with
    aluOutput := ALU.execute cpu.aluA cpu.aluB cpu.aluFunction cpu.aluCarryIn
    clockPhase := .Low }

@[simp] lemma arch_rise (cpu : CPU6502 β) : cpu.rise.arch = cpu.arch := rfl

@[simp] lemma arch_fall (cpu : CPU6502 β) : cpu.fall.arch = cpu.arch := rfl

variable [BusLike β]

/-- One full cycle from a low clock. -/
def cycle (cpu : CPU6502 β) : CPU6502 β := cpu.rise.onClockHigh.fall.onClockLow

lemma tick_low {cpu : CPU6502 β} (h : cpu.clockPhase = .Low) :
    cpu.tick = { cpu with
      aluOutput := ALU.execute cpu.aluA cpu.aluB cpu.aluFunction cpu.aluCarryIn
      clockPhase := .LowToHigh } := by
  simp only [tick, h, nextClockPhase]

lemma tick_lowToHigh {cpu : CPU6502 β} (h : cpu.clockPhase = .LowToHigh) :
    cpu.tick = cpu.rise.onClockHigh := by
  simp only [tick, h, nextClockPhase, rise]

lemma tick_high {cpu : CPU6502 β} (h : cpu.clockPhase = .High) :
    cpu.tick = { cpu with
      aluOutput := ALU.execute cpu.aluA cpu.aluB cpu.aluFunction cpu.aluCarryIn
      clockPhase := .HighToLow } := by
  simp only [tick, h, nextClockPhase]

lemma tick_highToLow {cpu : CPU6502 β} (h : cpu.clockPhase = .HighToLow) :
    cpu.tick = cpu.fall.onClockLow := by
  simp only [tick, h, nextClockPhase, fall]

lemma tick_tick_low {cpu : CPU6502 β} (h : cpu.clockPhase = .Low) :
    cpu.tick.tick = cpu.rise.onClockHigh := by
  rw [tick_low h, tick_lowToHigh rfl]
  rfl

/-- From a low clock, four ticks are one cycle. -/
theorem tick_four {cpu : CPU6502 β} (h : cpu.clockPhase = .Low) :
    cpu.tick.tick.tick.tick = cpu.cycle := by
  have hhigh : cpu.rise.onClockHigh.clockPhase = .High := by
    rw [clockPhase_onClockHigh]
    rfl
  rw [tick_tick_low h, tick_high hhigh, tick_highToLow rfl]
  rfl

/-- The last T-state of an instruction is over. -/
def done (cpu : CPU6502 β) : Bool := cpu.cpuStep == .T0

omit [BusLike β] in
@[simp] lemma done_advance (cpu : CPU6502 β) : (cpu.advance .T0).done = true := rfl

lemma clockPhase_cycle (cpu : CPU6502 β) : cpu.cycle.clockPhase = .Low :=
  clockPhase_onClockLow _

/-- Between two cycles the clock is not low. -/
lemma atBoundary_between {cpu : CPU6502 β} (h : cpu.clockPhase = .Low) {i : Nat} (h0 : 0 < i)
    (hi : i < 4) : (tick^[i] cpu).atBoundary = false := by
  have hhigh : cpu.tick.tick.clockPhase = .High := by
    rw [tick_tick_low h, clockPhase_onClockHigh]
    rfl
  have hne : ∀ c : CPU6502 β, c.clockPhase ≠ .Low → c.atBoundary = false := by
    intro c hc
    unfold atBoundary
    cases hp : c.clockPhase <;> simp_all
  apply hne
  interval_cases i
  · simp [tick_low h]
  · simp [hhigh]
  · simp [tick_high hhigh]

/-- The tick loop from a low clock is a loop of cycles. -/
theorem doWhile_tick (n : Nat) (cpu : CPU6502 β) (h : cpu.clockPhase = .Low) :
    doWhile tick atBoundary (4 * n) cpu = doWhile cycle done n cpu := by
  induction n generalizing cpu with
  | zero => rfl
  | succ n ih =>
    have hskip : ∀ i, i < 3 → atBoundary (tick^[i + 1] cpu) = false :=
      fun i hi => atBoundary_between h (by omega) (by omega)
    have hbound : cpu.cycle.atBoundary = cpu.cycle.done := by
      unfold atBoundary done
      rw [clockPhase_cycle]
      simp
    rw [show 4 * (n + 1) = 3 + (4 * n + 1) by omega, doWhile_skip tick atBoundary 3 _ _ hskip,
      doWhile_succ, doWhile_succ]
    have hfour : (tick^[3] cpu).tick = cpu.cycle := tick_four h
    rw [hfour, hbound, ih _ (clockPhase_cycle cpu)]

/-- The CPU before the first cycle of an instruction. -/
structure Settled (cpu : CPU6502 β) : Prop where
  cpuStep : cpu.cpuStep = .T0
  clockPhase : cpu.clockPhase = .Low
  resetActive : cpu.resetActive = false

/-- The CPU between two cycles of an instruction. -/
structure Running (cpu : CPU6502 β) : Prop where
  cpuStep : cpu.cpuStep ≠ .T0
  resetActive : cpu.resetActive = false

end CPU6502

/-- One cycle in a T-state of a handler. -/
def Handler.cycle [BusLike β] (h : Handler) (cpu : CPU6502 β) : CPU6502 β :=
  h.commit (h.capture cpu.rise).fall

namespace CPU6502

variable [BusLike β]

lemma sequencer_handlerCycle (h : Handler) (cpu : CPU6502 β) :
    (h.cycle cpu).sequencer = ⟨.Low, cpu.ir, cpu.resetActive⟩ := by
  unfold Handler.cycle
  rw [sequencer_commit]
  have hc := core_capture h cpu.rise
  have hir : (h.capture cpu.rise).ir = cpu.ir := congrArg Core.ir hc
  have hra : (h.capture cpu.rise).resetActive = cpu.resetActive := congrArg Core.resetActive hc
  rw [← hir, ← hra]
  rfl

lemma cycle_eq_handlerCycle {cpu : CPU6502 β} {h : Handler} (hr : cpu.Running)
    (hh : captureHandler cpu.ir = some h) : cpu.cycle = h.cycle cpu := by
  have hstep : cpu.rise.cpuStep ≠ .T0 := hr.cpuStep
  have hreset : cpu.rise.resetActive = false := hr.resetActive
  have hir : captureHandler cpu.rise.ir = some h := hh
  have hhigh : cpu.rise.onClockHigh = h.capture cpu.rise := by
    unfold onClockHigh
    rw [hreset, hir]
    simp only [Bool.false_eq_true, if_false, if_neg hstep]
  have hc := core_capture h cpu.rise
  have hstep' : (h.capture cpu.rise).fall.cpuStep ≠ .T0 := by
    rw [show (h.capture cpu.rise).fall.cpuStep = cpu.rise.cpuStep from congrArg Core.cpuStep hc]
    exact hstep
  have hreset' : (h.capture cpu.rise).fall.resetActive = false :=
    (congrArg Core.resetActive hc).trans hreset
  have hir' : commitHandler (h.capture cpu.rise).fall.ir = some h := by
    rw [show (h.capture cpu.rise).fall.ir = cpu.rise.ir from congrArg Core.ir hc,
      commitHandler_eq_captureHandler]
    exact hir
  unfold cycle Handler.cycle
  rw [hhigh]
  unfold onClockLow
  rw [hreset', hir']
  simp only [Bool.false_eq_true, if_false, if_neg hstep']

lemma doWhile_cycle_eq_handler (n : Nat) {cpu : CPU6502 β} {h : Handler} (hr : cpu.Running)
    (hh : captureHandler cpu.ir = some h) :
    doWhile cycle done n cpu = doWhile h.cycle done n cpu := by
  induction n generalizing cpu with
  | zero => rfl
  | succ n ih =>
    have hseq := sequencer_handlerCycle h cpu
    rw [doWhile_succ, doWhile_succ, cycle_eq_handlerCycle hr hh]
    by_cases hd : (h.cycle cpu).done = true
    · rw [if_pos hd, if_pos hd]
    · rw [if_neg hd, if_neg hd]
      apply ih
      · refine ⟨fun h0 => hd (by simp [done, h0]), ?_⟩
        exact (congrArg Sequencer.resetActive hseq).trans hr.resetActive
      · rw [show (h.cycle cpu).ir = cpu.ir from congrArg Sequencer.ir hseq]
        exact hh

/-- The CPU after the opcode fetch. -/
def fetched (cpu : CPU6502 β) : CPU6502 β :=
  { cpu.rise with
    bus := (BusLike.read cpu.bus cpu.pc).2
    ir := (BusLike.read cpu.bus cpu.pc).1
    pc := cpu.pc + 1#16
    cpuStep := .T1
    clockPhase := .Low }

lemma cycle_settled {cpu : CPU6502 β} (h : cpu.Settled) : cpu.cycle = cpu.fetched := by
  obtain ⟨bus, a, x, y, pc, sp, p, step, phase, al, ea, pcr, ir, bo, bt, hl, ra, aa, ab, af, ac,
    ao⟩ := cpu
  obtain ⟨rfl, rfl, rfl⟩ := h
  rfl

/-- An opcode with a handler: the fetch, then the cycles of the handler. -/
theorem executeInstruction_handler {cpu : CPU6502 β} (hs : cpu.Settled) {h : Handler}
    (hh : captureHandler cpu.fetched.ir = some h) :
    executeInstruction 28 cpu = doWhile h.cycle done 6 cpu.fetched := by
  unfold executeInstruction
  rw [show 28 = 4 * 7 from rfl, doWhile_tick 7 cpu hs.clockPhase, doWhile_succ, cycle_settled hs]
  have hr : cpu.fetched.Running := ⟨by simp [fetched], hs.resetActive⟩
  rw [if_neg (by simp [done, fetched]), doWhile_cycle_eq_handler 6 hr hh]

/-- An opcode without a handler ends in its second cycle. -/
lemma cycle_unlisted {cpu : CPU6502 β} (hs : cpu.Settled)
    (hh : captureHandler cpu.fetched.ir = none) :
    cpu.fetched.cycle = cpu.fetched.rise.fall.advance .T0 := by
  have hstep : cpu.fetched.rise.cpuStep ≠ .T0 := by simp [fetched, rise]
  have hreset : cpu.fetched.rise.resetActive = false := hs.resetActive
  have hir : captureHandler cpu.fetched.rise.ir = none := hh
  have hhigh : cpu.fetched.rise.onClockHigh = cpu.fetched.rise := by
    unfold onClockHigh
    rw [hreset, hir]
    simp only [Bool.false_eq_true, if_false, if_neg hstep]
  unfold cycle
  rw [hhigh]
  have hstep' : cpu.fetched.rise.fall.cpuStep ≠ .T0 := hstep
  have hreset' : cpu.fetched.rise.fall.resetActive = false := hreset
  have hir' : commitHandler cpu.fetched.rise.fall.ir = none := by
    rw [commitHandler_eq_captureHandler]
    exact hir
  unfold onClockLow
  rw [hreset', hir']
  simp only [Bool.false_eq_true, if_false, if_neg hstep']

theorem executeInstruction_unlisted {cpu : CPU6502 β} (hs : cpu.Settled)
    (hh : captureHandler cpu.fetched.ir = none) :
    executeInstruction 28 cpu = some (cpu.fetched.rise.fall.advance .T0) := by
  unfold executeInstruction
  rw [show 28 = 4 * 7 from rfl, doWhile_tick 7 cpu hs.clockPhase, doWhile_succ, cycle_settled hs]
  rw [if_neg (by simp [done, fetched]), doWhile_succ, cycle_unlisted hs hh,
    if_pos (done_advance _)]

end CPU6502

end Sys6
