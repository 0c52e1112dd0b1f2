import Sys6.Library.Strides
import Sys6.Proofs.ClockPhases
import Sys6.Proofs.FlagFrame
import Sys6.Proofs.Timing

/-!
# Whoever drives the clock

`tick`, `runToClockHigh`, `executeInstruction` and `run` can be mixed in any order. All of them move along
one sequence of instructions: none is skipped, none is run twice, and the manual's cycles say where in
an instruction a driver has stopped.
-/

namespace Sys6

open CPU6502 Isa

/-- An instruction that is about to be executed, and the ticks that have been made of it. -/
structure Moment (β : Type) where
  arch : Arch β
  ticks : Nat

inductive DriverCall where
  | tick
  | runToClockHigh
  | executeInstruction
  | run (maxInstructions : Nat)

variable {β : Type} [BusLike β]

namespace Moment

/-- So many ticks later, where they lead into the next instruction and no further. -/
def later (n : Nat) (m : Moment β) : Moment β :=
  if m.ticks + n < 4 * m.arch.cycles then ⟨m.arch, m.ticks + n⟩
  else ⟨codeStep m.arch, m.ticks + n - 4 * m.arch.cycles⟩

/-- The clock gets high with the second of every four ticks. -/
def ticksToHigh (m : Moment β) : Nat := 4 - (m.ticks + 2) % 4

def finish (m : Moment β) : Moment β := ⟨codeStep m.arch, 0⟩

def run : Nat → Moment β → Moment β
  | 0, m => m
  | n + 1, m => if m.arch.halted then m else run n m.finish

end Moment

/-- `run` of the CPU; `fuel` bounds the ticks of each instruction. -/
def CPU6502.runInstructions (fuel : Nat) : Nat → CPU6502 β → Option (Bool × CPU6502 β)
  | 0, cpu => some (cpu.halted, cpu)
  | maxInstructions + 1, cpu =>
    if cpu.halted then some (cpu.halted, cpu)
    else (cpu.executeInstruction fuel).bind (runInstructions fuel maxInstructions)

namespace DriverCall

def move : DriverCall → Moment β → Moment β
  | .tick, m => m.later 1
  | .runToClockHigh, m => m.later m.ticksToHigh
  | .executeInstruction, m => m.finish
  | .run maxInstructions, m => m.run maxInstructions

end DriverCall

/-- `BRK` halts when it is over. -/
lemma Handler.halted_commit (h : Handler) (cpu : CPU6502 β) :
    (h.commit cpu).halted = cpu.halted ∨ (h.commit cpu).cpuStep = .T0 := by
  obtain ⟨bus, a, x, y, pc, sp, p, step, phase, al, ea, pcr, ir, bo, bt, hl, ra, aa, ab, af, ac,
    ao⟩ := cpu
  cases h <;> cases step <;>
    first
    | exact .inl rfl
    | exact .inr rfl
    | (cases pcr <;> first | exact .inl rfl | exact .inr rfl)
    | (simp only [commit, CPU6502.commitImpliedPush, CPU6502.commitImpliedPull]
       split_ifs <;> exact .inl rfl)

namespace CPU6502

variable {cpu cpu' : CPU6502 β} {m : Moment β}

lemma resetActive_tick (h : cpu.resetActive = false) : cpu.tick.resetActive = false := by
  cases hp : cpu.clockPhase with
  | Low => rw [tick_low hp]; exact h
  | High => rw [tick_high hp]; exact h
  | LowToHigh =>
    have hrise : cpu.rise.resetActive = false := h
    rw [tick_lowToHigh hp, onClockHigh, if_neg (by simp [hrise])]
    split_ifs
    · exact h
    · cases captureHandler cpu.rise.ir with
      | none => exact h
      | some hd => exact (congrArg Core.resetActive (core_capture hd cpu.rise)).trans h
  | HighToLow =>
    have hfall : cpu.fall.resetActive = false := h
    rw [tick_highToLow hp, onClockLow, if_neg (by simp [hfall])]
    split_ifs
    · exact h
    · cases commitHandler cpu.fall.ir with
      | none => exact h
      | some hd => exact (congrArg Sequencer.resetActive (sequencer_commit hd cpu.fall)).trans h

lemma halted_tick (h : cpu.resetActive = false) (hb : cpu.tick.atBoundary = false) :
    cpu.tick.halted = cpu.halted := by
  cases hp : cpu.clockPhase with
  | Low => rw [tick_low hp]
  | High => rw [tick_high hp]
  | LowToHigh => exact congrArg Visible.halted (tick_rises hp).1
  | HighToLow =>
    have hfall : cpu.fall.resetActive = false := h
    have hphase : cpu.tick.clockPhase = .Low := by
      rw [clockPhase_tick, hp]
      rfl
    have hstep : cpu.tick.cpuStep ≠ .T0 := by
      intro hstep
      simp [atBoundary, hstep, hphase] at hb
    rw [tick_highToLow hp, onClockLow, if_neg (by simp [hfall])] at hstep ⊢
    split_ifs at hstep ⊢
    · rfl
    · cases hh : commitHandler cpu.fall.ir with
      | none => rfl
      | some hd =>
        simp only [hh] at hstep ⊢
        exact (hd.halted_commit cpu.fall).resolve_right hstep

lemma rounds_instruction (hs : cpu.Settled) : Rounds tick atBoundary (4 * cpu.arch.cycles) cpu := by
  have hfits := dispatchFits_all cpu.fetched.ir
  have htiming := timingFits_all cpu.fetched.ir
  refine rounds_tick hs.clockPhase ?_
  rw [Arch.cycles, show cpu.arch.fetch.1 = cpu.fetched.ir from rfl]
  unfold dispatchFits at hfits
  unfold timingFits at htiming
  cases hh : captureHandler cpu.fetched.ir <;>
    cases hrow : Isa.manual.find? fun row => row.opcode = cpu.fetched.ir <;>
    simp only [hh, hrow, Bool.false_eq_true, Bool.and_eq_true, beq_iff_eq] at htiming
  case none.none =>
    have hfirst := cycle_settled hs
    refine .next (by rw [hfirst]; rfl) (.last ?_)
    rw [hfirst, cycle_unlisted hs hh]
    rfl
  case some.some h row =>
    have hd : Isa.decode cpu.fetched.ir = some (row.mnemonic, row.mode) := by
      rw [Isa.decode, hrow]
      rfl
    simp only [hh, hd, Bool.and_eq_true] at hfits
    have hr := rounds_cycle hs hh (rounds_handler rfl hfits.1)
    dsimp only
    rw [htiming.1, htiming.2]
    rw [Nat.add_right_comm] at hr
    exact hr

/-- All its ticks. -/
lemma tick_instruction (hs : cpu.Settled) : (tick^[4 * cpu.arch.cycles] cpu).Settled ∧
    (tick^[4 * cpu.arch.cycles] cpu).arch = codeStep cpu.arch ∧ 4 * cpu.arch.cycles ≤ 28 := by
  have hrounds := rounds_instruction hs
  obtain ⟨cpu', hrun, hs', harch⟩ := executeInstruction_refines hs
  have hle : 4 * cpu.arch.cycles ≤ 28 := by
    by_contra hlt
    have hnone : executeInstruction 28 cpu = none := hrounds.doWhile_none (by omega)
    rw [hrun] at hnone
    cases hnone
  have hsame : executeInstruction 28 cpu = some (tick^[4 * cpu.arch.cycles] cpu) :=
    doWhile_mono tick atBoundary hrounds.doWhile_eq hle
  rw [hrun] at hsame
  obtain rfl := Option.some.inj hsame
  exact ⟨hs', harch, hle⟩

lemma strides : Strides (tick (β := β)) atBoundary Settled fun cpu => 4 * cpu.arch.cycles where
  rounds := rounds_instruction
  again := fun hs => (tick_instruction hs).1

/-- So many ticks have been made since the CPU was settled with these registers. -/
def Clocked (cpu : CPU6502 β) (m : Moment β) : Prop :=
  ∃ cpu₀ : CPU6502 β, cpu₀.arch = m.arch ∧
    Past tick Settled (fun cpu => 4 * cpu.arch.cycles) cpu₀ m.ticks cpu

lemma Settled.at_start (hs : cpu.Settled) : cpu.Clocked ⟨cpu.arch, 0⟩ := ⟨cpu, rfl, strides.start hs⟩

namespace Clocked

lemma halted (h : cpu.Clocked m) : cpu.halted = m.arch.halted := by
  obtain ⟨cpu₀, harch, hpast⟩ := h
  rw [← harch]
  exact strides.kept (fun cpu => cpu.resetActive = false) Settled.resetActive (fun _ => resetActive_tick)
    (fun _ => halted_tick) hpast

/-- Between two instructions. -/
lemma settled (h : cpu.Clocked m) (hm : m.ticks = 0) : cpu.Settled ∧ cpu.arch = m.arch := by
  obtain ⟨cpu₀, harch, hbase, -, hat⟩ := h
  rw [hm] at hat
  obtain rfl : cpu = cpu₀ := hat
  exact ⟨hbase, harch⟩

lemma later (h : cpu.Clocked m) {n : Nat} (hn : n ≤ 4) : (tick^[n] cpu).Clocked (m.later n) := by
  obtain ⟨cpu₀, harch, hpast⟩ := h
  obtain ⟨hs', harch', -⟩ := tick_instruction hpast.base
  have hbefore : m.ticks < 4 * cpu₀.arch.cycles := hpast.before
  have hpos : 0 < 4 * (tick^[4 * cpu₀.arch.cycles] cpu₀).arch.cycles := (rounds_instruction hs').pos
  have hadvance := strides.advance hpast (n := n) (by omega)
  unfold Moment.later
  rw [← harch]
  split_ifs at hadvance ⊢ with hshort
  · exact ⟨cpu₀, rfl, hadvance⟩
  · exact ⟨_, harch', hadvance⟩

lemma finish (h : cpu.Clocked m) : ∃ cpu', executeInstruction 28 cpu = some cpu' ∧ cpu'.Clocked m.finish := by
  obtain ⟨cpu₀, harch, hpast⟩ := h
  obtain ⟨hs', harch', hle⟩ := tick_instruction hpast.base
  refine ⟨_, strides.finish hpast hle, _, ?_, strides.start hs'⟩
  rw [harch', harch]
  rfl

lemma runs (h : cpu.Clocked m) (n : Nat) : ∃ cpu',
    cpu.runInstructions 28 n = some ((m.run n).arch.halted, cpu') ∧ cpu'.Clocked (m.run n) := by
  induction n generalizing cpu m with
  | zero => exact ⟨cpu, by rw [runInstructions, h.halted]; rfl, h⟩
  | succ n ih =>
    rw [runInstructions, Moment.run, h.halted]
    split_ifs with hhalted
    · exact ⟨cpu, rfl, h⟩
    · obtain ⟨cpu₁, hrun, h₁⟩ := h.finish
      rw [hrun]
      exact ih h₁

end Clocked

end CPU6502

namespace Isa

namespace Arch

lemma halted_fetchOperand (s : Arch β) (mode : Mode) : (s.fetchOperand mode).2.halted = s.halted := by
  cases mode <;> rfl

lemma halted_address (s : Arch β) (o : Operand) : (s.address o).2.halted = s.halted := by
  cases o <;> rfl

lemma halted_operandValue (s : Arch β) (o : Operand) : (s.operandValue o).2.halted = s.halted := by
  cases o <;> rfl

lemma halted_modify (o : Operand) (op : Byte → Byte × Option Bool) (s : Arch β) :
    (s.modify o op).halted = s.halted := by
  cases o <;> rfl

omit [BusLike β] in
lemma halted_branch (o : Operand) (taken : Bool) (s : Arch β) : (s.branch o taken).halted = s.halted := by
  cases o <;> cases taken <;> rfl

end Arch

open Arch in
lemma halted_exec {mn : Mnemonic} (h : mn ≠ .BRK) (o : Operand) (s : Arch β) : (exec mn o s).halted = s.halted := by
  cases mn with
  | BRK => exact absurd rfl h
  | ADC | SBC | AND | ORA | EOR | CMP | CPX | CPY | BIT | LDA | LDX | LDY => exact halted_operandValue s o
  | ASL | LSR | ROL | ROR | INC | DEC => exact halted_modify o _ s
  | STA | STX | STY | JMP => exact halted_address s o
  | BPL | BMI | BVC | BVS | BCC | BCS | BNE | BEQ => exact halted_branch o _ s
  | _ => rfl

/-- `BRK` and `PHP` are the instructions of their two opcodes. -/
lemma live_iff {op : Byte} {mn : Mnemonic} {mode : Mode} (hd : decode op = some (mn, mode)) :
    op ∈ [cOpBRK, cOpPHP] ↔ mn ∈ [Mnemonic.BRK, .PHP] := by
  have hfits := dispatchFits_all op
  unfold dispatchFits at hfits
  rw [hd] at hfits
  cases hh : captureHandler op with
  | none =>
    rw [hh] at hfits
    cases hfits
  | some h =>
    rw [hh] at hfits
    simpa only [beq_iff_eq, decide_eq_decide] using (Bool.and_eq_true_iff.mp hfits).2

lemma halted_step {s : Arch β} (h : s.fetch.1 ≠ cOpBRK) : (step s).halted = s.halted := by
  have hphp : decode cOpPHP = some (.PHP, .implied) := by decide
  cases hd : decode s.fetch.1 with
  | none =>
    rw [step_unlisted hd]
    rfl
  | some row =>
    obtain ⟨mn, mode⟩ := row
    have hmn : mn ≠ .BRK := by
      rintro rfl
      obtain hop | hop : s.fetch.1 = cOpBRK ∨ s.fetch.1 = cOpPHP := by simpa using (live_iff hd).mpr (by decide)
      · exact h hop
      · rw [hop, hphp] at hd
        cases hd
    by_cases hjsr : mn = .JSR
    · subst hjsr
      rw [step_jsr hd]
      simp only [Arch.jsr, Arch.fetch, Arch.pushWord, Arch.push, Arch.write, Arch.read]
    · rw [step_listed hd hjsr, halted_exec hmn, Arch.halted_fetchOperand]
      rfl

end Isa

namespace CPU6502

variable {cpu : CPU6502 β}

lemma halted_codeStep (s : Arch β) : (codeStep s).halted = (s.halted || s.fetch.1 == cOpBRK) := by
  have hlive : (codeStep s).halted = (Isa.step s).halted := by
    unfold codeStep
    split_ifs <;> rfl
  rw [hlive]
  by_cases hop : s.fetch.1 = cOpBRK
  · have hd : Isa.decode s.fetch.1 = some (.BRK, .implied) := by
      rw [hop]
      decide
    rw [Isa.step_listed hd (by decide), hop]
    simp [Isa.exec, Arch.brk]
  · rw [Isa.halted_step hop]
    simp [hop]

/-- As long as no `BRK` is executed nothing is halted. -/
lemma halted_iterate {s : Arch β} (hs : s.halted = false) {n : Nat}
    (h : ∀ i < n, (codeStep^[i] s).fetch.1 ≠ cOpBRK) :
    (codeStep^[n] s).halted = false := by
  induction n with
  | zero => exact hs
  | succ n ih =>
    rw [Function.iterate_succ_apply', halted_codeStep, ih fun i hi => h i (by omega)]
    simpa using h n (by omega)

lemma run_eq_iterate {m : Moment β} {n : Nat} (h : ∀ i < n, (codeStep^[i] m.arch).halted = false)
    (hticks : m.ticks = 0) (more : Nat) : m.run (n + more) = Moment.run more ⟨codeStep^[n] m.arch, 0⟩ := by
  induction n generalizing m with
  | zero =>
    obtain ⟨arch, ticks⟩ := m
    obtain rfl : ticks = 0 := hticks
    rw [Nat.zero_add]
    rfl
  | succ n ih =>
    have h0 : m.arch.halted = false := h 0 (Nat.succ_pos n)
    rw [Nat.add_right_comm, Moment.run, h0, if_neg (by simp),
      ih (m := m.finish) (fun i hi => h (i + 1) (by omega)) rfl]
    rfl

/-- `run` executes the instructions up to the first `BRK` or to its bound, and tells which of the two it
was. A CPU that is halted stays as it is. -/
theorem run_until_brk (hs : cpu.Settled) (maxInstructions : Nat) :
    (cpu.halted = true → cpu.runInstructions 28 maxInstructions = some (true, cpu)) ∧
    (cpu.halted = false → (∀ i < maxInstructions, (codeStep^[i] cpu.arch).fetch.1 ≠ cOpBRK) →
      ∃ cpu', cpu.runInstructions 28 maxInstructions = some (false, cpu') ∧ cpu'.Settled ∧
        cpu'.arch = codeStep^[maxInstructions] cpu.arch) ∧
    (cpu.halted = false → ∀ n < maxInstructions, (∀ i < n, (codeStep^[i] cpu.arch).fetch.1 ≠ cOpBRK) →
      (codeStep^[n] cpu.arch).fetch.1 = cOpBRK →
      ∃ cpu', cpu.runInstructions 28 maxInstructions = some (true, cpu') ∧ cpu'.Settled ∧
        cpu'.arch = codeStep^[n + 1] cpu.arch) := by
  obtain ⟨cpu', hrun, hat⟩ := hs.at_start.runs maxInstructions
  refine ⟨fun hhalted => ?_, fun hhalted hno => ?_, fun hhalted n hn hno hbrk => ?_⟩
  · cases maxInstructions with
    | zero => rw [runInstructions, hhalted]
    | succ n => rw [runInstructions, hhalted, if_pos rfl]
  · have hall : ∀ i < maxInstructions, (codeStep^[i] cpu.arch).halted = false := fun i hi =>
      halted_iterate hhalted fun j hj => hno j (by omega)
    have hend := run_eq_iterate (m := ⟨cpu.arch, 0⟩) hall rfl 0
    rw [Nat.add_zero, Moment.run] at hend
    rw [hend] at hrun hat
    obtain ⟨hs', harch⟩ := hat.settled rfl
    exact ⟨cpu', by rw [hrun, halted_iterate hhalted hno], hs', harch⟩
  · obtain ⟨more, rfl⟩ : ∃ k, maxInstructions = n + 1 + k := ⟨maxInstructions - (n + 1), by omega⟩
    have hall : ∀ i < n + 1, (codeStep^[i] cpu.arch).halted = false := fun i hi =>
      halted_iterate hhalted fun j hj => hno j (by omega)
    have hhalts : (codeStep^[n + 1] cpu.arch).halted = true := by
      rw [Function.iterate_succ_apply', halted_codeStep, hbrk]
      simp
    have hend : Moment.run (n + 1 + more) ⟨cpu.arch, 0⟩ = ⟨codeStep^[n + 1] cpu.arch, 0⟩ := by
      rw [run_eq_iterate (m := ⟨cpu.arch, 0⟩) hall rfl more]
      cases more with
      | zero => rfl
      | succ k => rw [Moment.run, hhalts, if_pos rfl]
    rw [hend] at hrun hat
    obtain ⟨hs', harch⟩ := hat.settled rfl
    exact ⟨cpu', by rw [hrun, hhalts], hs', harch⟩

/-- Memory that is all zero is all `BRK`. -/
theorem run_until_brk_zero : ∃ cpu' : CPU6502 (Word → Byte),
    runInstructions 28 100 ({ bus := fun _ => 0#8 } : CPU6502 (Word → Byte)) = some (true, cpu') ∧
      cpu'.arch = codeStep ({ bus := fun _ => 0#8 } : CPU6502 (Word → Byte)).arch := by
  have hs : ({ bus := fun _ => 0#8 } : CPU6502 (Word → Byte)).Settled := ⟨rfl, rfl, rfl⟩
  obtain ⟨cpu', hrun, -, harch⟩ := (run_until_brk hs 100).2.2 rfl 0
    (by decide) (fun i hi => absurd hi (Nat.not_lt_zero i)) rfl
  exact ⟨cpu', hrun, harch⟩

end CPU6502

end Sys6
