import Sys6.Isa.BusMap
import Sys6.Proofs.Refinement

/-!
# The reset sequence

Seven cycles: two reads that are thrown away, three decrements of the stack pointer, and
the two bytes of the reset vector.
-/

namespace Sys6

open Isa (Arch BusMap)

namespace Isa.Arch

variable {β γ : Type} [BusLike β] [BusLike γ]

/-- The effect of a reset. -/
def reset (s : Arch β) : Arch β :=
  let s := s.discard.discard
  let lo := s.read 0xFFFC#16
  let hi := lo.2.read 0xFFFD#16
  { hi.2 with
    pc := word hi.1 lo.1, sp := s.sp - 3#8, p := { s.p with i := true }, halted := false }

lemma map_reset {f : β → γ} (hf : BusMap f) (s : Arch β) : (s.map f).reset = s.reset.map f := by
  simp only [reset, map_discard hf, map_read hf]
  rfl

end Isa.Arch

namespace CPU6502

variable {β : Type} [BusLike β]

/-- While a reset is active, a cycle is one T-state of the reset sequence. -/
lemma cycle_reset {cpu : CPU6502 β} (h : cpu.resetActive = true) :
    cpu.cycle = cpu.rise.captureReset.fall.commitReset := by
  have hrise : cpu.rise.resetActive = true := h
  have hfall : cpu.rise.captureReset.fall.resetActive = true := by
    unfold fall captureReset discardRead busRead
    split <;> exact h
  unfold cycle onClockHigh onClockLow
  rw [if_pos hrise, if_pos hfall]

/-- What a T-state of the reset sequence does, the settled ALU included. -/
def resetCycle (cpu : CPU6502 β) : CPU6502 β :=
  let cpu := cpu.fall
  match cpu.cpuStep with
  | .T0 => { cpu with bus := (BusLike.read cpu.bus cpu.pc).2, halted := false, cpuStep := .T1 }
  | .T1 => { cpu with bus := (BusLike.read cpu.bus cpu.pc).2, cpuStep := .T2 }
  | .T2 => { cpu with sp := cpu.sp - 1#8, cpuStep := .T3 }
  | .T3 => { cpu with sp := cpu.sp - 1#8, cpuStep := .T4 }
  | .T4 => { cpu with sp := cpu.sp - 1#8, pFlags := { cpu.pFlags with i := true }, cpuStep := .T5 }
  | .T5 =>
    { cpu with
      bus := (BusLike.read cpu.bus 0xFFFC#16).2
      addrLatch := (BusLike.read cpu.bus 0xFFFC#16).1.setWidth 16
      cpuStep := .T6 }
  | .T6 =>
    let hi := BusLike.read cpu.bus 0xFFFD#16
    { cpu with
      bus := hi.2
      addrLatch := cpu.addrLatch ||| hi.1.setWidth 16 <<< 8
      pc := cpu.addrLatch ||| hi.1.setWidth 16 <<< 8
      resetActive := false
      cpuStep := .T0 }

lemma cycle_eq_resetCycle {cpu : CPU6502 β} (h : cpu.resetActive = true) : cpu.cycle = cpu.resetCycle := by
  rw [cycle_reset h]
  obtain ⟨bus, a, x, y, pc, sp, p, step, phase, al, ea, pcr, ir, bo, bt, hl, ra, aa, ab, af, ac,
    ao⟩ := cpu
  cases step <;> rfl

lemma resetCycle_active {cpu : CPU6502 β} (h : cpu.resetActive = true ∧ cpu.clockPhase = .Low)
    (hd : cpu.resetCycle.done = false) :
    cpu.resetCycle.resetActive = true ∧ cpu.resetCycle.clockPhase = .Low := by
  obtain ⟨bus, a, x, y, pc, sp, p, step, phase, al, ea, pcr, ir, bo, bt, hl, ra, aa, ab, af, ac,
    ao⟩ := cpu
  cases step with
  | T6 => cases hd
  | _ => exact ⟨h.1, rfl⟩

/-- A reset of a settled CPU ends settled, at the reset vector. -/
theorem reset_settled {cpu : CPU6502 β} (hs : cpu.Settled) :
    ∃ cpu', reset 28 cpu = some cpu' ∧ cpu'.Settled ∧ cpu'.arch = cpu.arch.reset := by
  have hlow : cpu.beginReset.clockPhase = .Low := hs.clockPhase
  have hrun : reset 28 cpu = doWhile resetCycle done 7 cpu.beginReset := by
    unfold reset
    rw [show 28 = 4 * 7 from rfl, doWhile_tick 7 _ hlow]
    exact doWhile_congr (fun _ h => cycle_eq_resetCycle h.1) (fun _ => resetCycle_active) 7 ⟨rfl, hlow⟩
  rw [hrun]
  obtain ⟨bus, a, x, y, pc, sp, p, step, phase, al, ea, pcr, ir, bo, bt, hl, ra, aa, ab, af, ac,
    ao⟩ := cpu
  refine ⟨_, rfl, ⟨rfl, rfl, rfl⟩, ?_⟩
  have hsp : ∀ b : Byte, b - 3#8 = b - 1#8 - 1#8 - 1#8 := by
    intro b
    bv_omega
  simp only [Isa.Arch.reset, hsp, ← or_shiftLeft_eq_word]
  rfl

end CPU6502

end Sys6
