import Sys6.Proofs.BusTrace
import Sys6.Proofs.Reset

/-!
# Reset in the middle of anything

The reset sequence looks at no latch that an instruction may have left behind. Where it is armed
decides only whether its first read of the opcode still happens.
-/

namespace Sys6

variable {β : Type} [BusLike β]

namespace CPU6502

/-- The reads that are thrown away: the first one is missed when the clock is already up. -/
def dummyReads : ClockPhase → Nat
  | .Low | .LowToHigh => 2
  | .High | .HighToLow => 1

/-- The bus after `n` reads at `addr`. -/
def readAgain (n : Nat) (addr : Word) (bus : β) : β := (fun b => (BusLike.read b addr).2)^[n] bus

/-- The first T-state of the reset sequence is over. -/
def armed (bus : β) (cpu : CPU6502 β) : CPU6502 β :=
  { cpu.fall with bus := bus, halted := false, resetActive := true, cpuStep := .T1 }

/-- What the rest of the reset sequence makes of it. -/
def restarted (bus : β) (cpu : CPU6502 β) : Isa.Arch β :=
  let lo := BusLike.read bus 0xFFFC#16
  let hi := BusLike.read lo.2 0xFFFD#16
  ⟨cpu.a, cpu.x, cpu.y, cpu.sp - 3#8, { cpu.pFlags with i := true }, word hi.1 lo.1, false, hi.2⟩

lemma armed_resets (bus : β) (cpu : CPU6502 β) : ∃ cpu', doWhile tick atBoundary 24 (cpu.armed bus) = some cpu' ∧
    cpu'.Settled ∧ cpu'.arch = cpu.restarted (BusLike.read bus cpu.pc).2 := by
  have hrun : doWhile tick atBoundary 24 (cpu.armed bus) = doWhile resetCycle done 6 (cpu.armed bus) := by
    rw [show 24 = 4 * 6 from rfl, doWhile_tick 6 _ rfl]
    exact doWhile_congr (fun _ h => cycle_eq_resetCycle h.1) (fun _ => resetCycle_active) 6 ⟨rfl, rfl⟩
  rw [hrun]
  obtain ⟨b, a, x, y, pc, sp, p, step, phase, al, ea, pcr, ir, bo, bt, hl, ra, aa, ab, af, ac,
    ao⟩ := cpu
  refine ⟨_, rfl, ⟨rfl, rfl, rfl⟩, ?_⟩
  have hsp : sp - 3#8 = sp - 1#8 - 1#8 - 1#8 := by bv_omega
  simp only [restarted, hsp, ← or_shiftLeft_eq_word]
  rfl

/-- From any phase the first falling clock ends the first T-state. -/
lemma arms (cpu : CPU6502 β) : ∃ k ≤ 4, doWhile tick atBoundary (k + 24) cpu.beginReset =
    doWhile tick atBoundary 24 (cpu.armed (readAgain (dummyReads cpu.clockPhase - 1) cpu.pc cpu.bus)) := by
  have hskip : ∀ (k : Nat) (c c' : CPU6502 β), tick^[k] c = c' →
      (∀ i, i < k → atBoundary (tick^[i + 1] c) = false) →
      doWhile tick atBoundary (k + 24) c = doWhile tick atBoundary 24 c' := by
    rintro k c _ rfl h
    exact doWhile_skip tick atBoundary k 24 c h
  obtain ⟨b, a, x, y, pc, sp, p, step, phase, al, ea, pcr, ir, bo, bt, hl, ra, aa, ab, af, ac,
    ao⟩ := cpu
  cases phase with
  | Low =>
    refine ⟨4, le_rfl, hskip 4 _ _ rfl fun i hi => ?_⟩
    interval_cases i <;> rfl
  | LowToHigh =>
    refine ⟨3, by omega, hskip 3 _ _ rfl fun i hi => ?_⟩
    interval_cases i <;> rfl
  | High =>
    refine ⟨2, by omega, hskip 2 _ _ rfl fun i hi => ?_⟩
    interval_cases i <;> rfl
  | HighToLow =>
    refine ⟨1, by omega, hskip 1 _ _ rfl fun i hi => ?_⟩
    interval_cases i
    rfl

lemma reset_restarts (cpu : CPU6502 β) : ∃ cpu', reset 28 cpu = some cpu' ∧ cpu'.Settled ∧
    cpu'.arch = cpu.restarted (readAgain (dummyReads cpu.clockPhase) cpu.pc cpu.bus) := by
  obtain ⟨k, hk, harm⟩ := arms cpu
  obtain ⟨cpu', hrun, hset, harch⟩ :=
    armed_resets (readAgain (dummyReads cpu.clockPhase - 1) cpu.pc cpu.bus) cpu
  rw [← harm] at hrun
  refine ⟨cpu', doWhile_mono _ _ hrun (by omega), hset, harch.trans ?_⟩
  cases cpu.clockPhase <;> rfl

/-- The accesses of a reset. -/
def resetAccesses (cpu : CPU6502 β) : List BusAccess :=
  ((reset 28 (cpu.withBus (⟨cpu.bus, []⟩ : Recorded β))).map fun cpu => cpu.bus.seen).getD []

lemma resetAccesses_eq (cpu : CPU6502 β) : cpu.resetAccesses =
    List.replicate (dummyReads cpu.clockPhase) (.read cpu.pc) ++ [.read 0xFFFC#16, .read 0xFFFD#16] := by
  obtain ⟨cpu', hrun, -, harch⟩ := reset_restarts (cpu.withBus (⟨cpu.bus, []⟩ : Recorded β))
  have hbus : cpu'.bus = _ := congrArg Isa.Arch.bus harch
  unfold resetAccesses
  rw [hrun, Option.map_some, Option.getD_some, hbus]
  cases hp : cpu.clockPhase with
  | Low | LowToHigh | High | HighToLow =>
    rw [show (cpu.withBus (⟨cpu.bus, []⟩ : Recorded β)).clockPhase = _ from hp]
    rfl

/-- Whatever the CPU is doing, a reset ends settled at the reset vector, and it only reads. -/
theorem reset_from_anywhere (cpu : CPU6502 β) : ∃ cpu', reset 28 cpu = some cpu' ∧ cpu'.Settled ∧
    cpu'.arch = cpu.restarted (readAgain (dummyReads cpu.clockPhase) cpu.pc cpu.bus) ∧
    (∀ access ∈ cpu.resetAccesses, ∃ addr, access = .read addr) ∧
    ((∀ (bus : β) addr, (BusLike.read bus addr).2 = bus) → cpu'.bus = cpu.bus ∧
      cpu'.pc = word (BusLike.read cpu.bus 0xFFFD#16).1 (BusLike.read cpu.bus 0xFFFC#16).1) := by
  obtain ⟨cpu', hrun, hset, harch⟩ := reset_restarts cpu
  refine ⟨cpu', hrun, hset, harch, fun access hmem => ?_, fun hram => ?_⟩
  · rw [resetAccesses_eq] at hmem
    obtain hmem | hmem := List.mem_append.mp hmem
    · exact ⟨_, List.eq_of_mem_replicate hmem⟩
    · simp only [List.mem_cons, List.not_mem_nil, or_false] at hmem
      obtain rfl | rfl := hmem
      · exact ⟨_, rfl⟩
      · exact ⟨_, rfl⟩
  · have hsame : ∀ n, readAgain n cpu.pc cpu.bus = cpu.bus := by
      intro n
      induction n with
      | zero => rfl
      | succ n ih => rw [readAgain, Function.iterate_succ_apply, hram]; exact ih
    rw [hsame] at harch
    have hbus : cpu'.bus = _ := congrArg Isa.Arch.bus harch
    have hpc : cpu'.pc = _ := congrArg Isa.Arch.pc harch
    simp only [restarted, hram] at hbus hpc
    exact ⟨hbus, hpc⟩

end CPU6502

end Sys6
