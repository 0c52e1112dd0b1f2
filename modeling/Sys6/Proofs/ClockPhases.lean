import Sys6.Proofs.BusTrace
import Sys6.Proofs.Progress

/-!
# What happens on which clock phase

The two settling phases only move the ALU's output, a rising clock fills latches and reads the bus
once at most. So registers, flags and memory change when the clock has fallen, and not before.
-/

namespace Sys6

variable {β : Type} [BusLike β]

namespace CPU6502

/-- The registers, the flags and the T-state. -/
structure Visible where
  a : Byte
  x : Byte
  y : Byte
  sp : Byte
  pc : Word
  pFlags : PFlags
  halted : Bool
  cpuStep : CpuStep

omit [BusLike β] in
def visible (cpu : CPU6502 β) : Visible :=
  ⟨cpu.a, cpu.x, cpu.y, cpu.sp, cpu.pc, cpu.pFlags, cpu.halted, cpu.cpuStep⟩

omit [BusLike β] in
lemma visible_of_core {c c' : CPU6502 β} (h : c.core = c'.core) : c.visible = c'.visible :=
  congrArg (fun k : Core => (⟨k.a, k.x, k.y, k.sp, k.pc, k.pFlags, k.halted, k.cpuStep⟩ : Visible)) h

lemma visible_onClockHigh (cpu : CPU6502 β) : cpu.onClockHigh.visible = cpu.visible := by
  unfold onClockHigh
  split_ifs with hr ht
  · exact visible_of_core (core_captureReset cpu)
  · rfl
  · cases captureHandler cpu.ir with
    | none => rfl
    | some h => exact visible_of_core (core_capture h cpu)

lemma readOnce_onClockHigh (cpu : CPU6502 β) : ReadOnce cpu.bus cpu.onClockHigh.bus := by
  unfold onClockHigh
  split_ifs with hr ht
  · exact (captured_captureReset cpu).bus
  · exact .inr ⟨_, rfl⟩
  · cases captureHandler cpu.ir with
    | none => exact .inl rfl
    | some h => exact (captured_capture h cpu).bus

/-- The accesses a `tick` makes. -/
def tickAccesses (cpu : CPU6502 β) : List BusAccess :=
  (cpu.withBus (⟨cpu.bus, []⟩ : Recorded β)).tick.bus.seen

/-- A settling phase. -/
lemma tick_settles {cpu : CPU6502 β} (h : cpu.clockPhase = .Low ∨ cpu.clockPhase = .High) :
    cpu.tick = { cpu with
      aluOutput := ALU.execute cpu.aluA cpu.aluB cpu.aluFunction cpu.aluCarryIn
      clockPhase := nextClockPhase cpu.clockPhase } := by
  obtain h | h := h
  · rw [tick_low h, h]
    rfl
  · rw [tick_high h, h]
    rfl

lemma tick_rises {cpu : CPU6502 β} (h : cpu.clockPhase = .LowToHigh) :
    cpu.tick.visible = cpu.visible ∧ ReadOnce cpu.bus cpu.tick.bus := by
  rw [tick_lowToHigh h]
  exact ⟨visible_onClockHigh cpu.rise, readOnce_onClockHigh cpu.rise⟩

lemma tickAccesses_settles {cpu : CPU6502 β} (h : cpu.clockPhase = .Low ∨ cpu.clockPhase = .High) :
    cpu.tickAccesses = [] := by
  have hwatched := tick_settles (show (cpu.withBus (⟨cpu.bus, []⟩ : Recorded β)).clockPhase = .Low ∨ _ from h)
  unfold tickAccesses
  rw [hwatched]
  rfl

lemma tickAccesses_rises {cpu : CPU6502 β} (h : cpu.clockPhase = .LowToHigh) :
    ∀ access ∈ cpu.tickAccesses, ∃ addr, access = .read addr := by
  intro access hmem
  unfold tickAccesses at hmem
  obtain ⟨-, hbus | ⟨addr, hbus⟩⟩ :=
    tick_rises (show (cpu.withBus (⟨cpu.bus, []⟩ : Recorded β)).clockPhase = .LowToHigh from h)
  · rw [hbus] at hmem
    cases hmem
  · rw [hbus] at hmem
    exact ⟨addr, List.mem_singleton.mp hmem⟩

/-- From every state, on every bus: what a tick may change and access, by the phase it arrives at. -/
theorem changes_only_on_low (cpu : CPU6502 β) :
    (cpu.tick.clockPhase = .LowToHigh ∨ cpu.tick.clockPhase = .HighToLow →
      cpu.tick.visible = cpu.visible ∧ cpu.tick.bus = cpu.bus ∧ cpu.tickAccesses = []) ∧
    (cpu.tick.clockPhase = .High → cpu.tick.visible = cpu.visible ∧ ReadOnce cpu.bus cpu.tick.bus ∧
      ∀ access ∈ cpu.tickAccesses, ∃ addr, access = .read addr) ∧
    (cpu.tick.visible ≠ cpu.visible ∨ (∃ addr v, .write addr v ∈ cpu.tickAccesses) →
      cpu.tick.clockPhase = .Low) := by
  have hsettle : cpu.clockPhase = .Low ∨ cpu.clockPhase = .High →
      cpu.tick.visible = cpu.visible ∧ cpu.tick.bus = cpu.bus ∧ cpu.tickAccesses = [] := by
    intro h
    refine ⟨?_, ?_, tickAccesses_settles h⟩
    · rw [tick_settles h]
      rfl
    · rw [tick_settles h]
  have hnext : ∀ phase, cpu.clockPhase = phase → cpu.tick.clockPhase = nextClockPhase phase := by
    rintro phase rfl
    exact clockPhase_tick cpu
  cases hp : cpu.clockPhase with
  | Low =>
    rw [hnext _ hp]
    obtain ⟨hvisible, hbus, haccesses⟩ := hsettle (.inl hp)
    refine ⟨fun _ => ⟨hvisible, hbus, haccesses⟩, (by simp [nextClockPhase]), ?_⟩
    rintro (h | ⟨addr, v, h⟩)
    · exact absurd hvisible h
    · rw [haccesses] at h
      cases h
  | LowToHigh =>
    rw [hnext _ hp]
    obtain ⟨hvisible, hread⟩ := tick_rises hp
    have haccesses := tickAccesses_rises hp
    refine ⟨(by simp [nextClockPhase]), fun _ => ⟨hvisible, hread, haccesses⟩, ?_⟩
    rintro (h | ⟨addr, v, h⟩)
    · exact absurd hvisible h
    · obtain ⟨addr', h'⟩ := haccesses _ h
      cases h'
  | High =>
    rw [hnext _ hp]
    obtain ⟨hvisible, hbus, haccesses⟩ := hsettle (.inr hp)
    refine ⟨fun _ => ⟨hvisible, hbus, haccesses⟩, (by simp [nextClockPhase]), ?_⟩
    rintro (h | ⟨addr, v, h⟩)
    · exact absurd hvisible h
    · rw [haccesses] at h
      cases h
  | HighToLow =>
    rw [hnext _ hp]
    exact ⟨(by simp [nextClockPhase]), (by simp [nextClockPhase]), fun _ => rfl⟩

end CPU6502

end Sys6
