import Sys6.Isa.RamOn
import Sys6.Memory.Bus
import Sys6.Proofs.Refinement

/-!
# The CPU on 64 KiB of RAM

With one RAM over the whole address space the bus is a plain memory, and an instruction
of the CPU is one step of the reference over that memory.
-/

namespace Sys6

open Isa (Mnemonic Mode Arch)

instance : DeviceStore Unit RAM where
  size ram _ := ram.size
  read ram _ offset := (ram.read offset, ram)
  write ram _ offset val := ram.write offset val

/-- The bus of the CPU tests: `attach(0x0000, 0xFFFF, ram)`. -/
def ram64k (mem : Word → Byte) : Wired Unit RAM :=
  ⟨⟨[⟨0x0000#16, 0xFFFF#16, ()⟩]⟩, ⟨0x10000, mem⟩⟩

lemma ram64k_attach (mem : Word → Byte) :
    Bus.attach (⟨0x10000, mem⟩ : RAM) 0x0000#16 0xFFFF#16 () {} = .ok (ram64k mem).bus := by
  simp [Bus.attach, ram64k, DeviceStore.size]

lemma findMapping_ram64k (mem : Word → Byte) (addr : Word) :
    (ram64k mem).bus.findMapping addr = some ⟨0x0000#16, 0xFFFF#16, ()⟩ := by
  have hle : addr ≤ 0xFFFF#16 := by
    rw [BitVec.le_def]
    have := addr.isLt
    simp only [BitVec.toNat_ofNat]
    omega
  simp [Bus.findMapping, ram64k, hle]

theorem busMap_ram64k : Isa.BusMap ram64k where
  read mem addr := by
    show Wired.read (ram64k mem) addr = _
    unfold Wired.read
    simp only [findMapping_ram64k, BitVec.sub_zero]
    rfl
  write mem addr v := by
    show Wired.write (ram64k mem) addr v = _
    unfold Wired.write
    simp only [findMapping_ram64k, BitVec.sub_zero]
    rfl

lemma ramOn_ram64k : Isa.RamOn (fun w => ∃ mem : Word → Byte, True ∧ w = ram64k mem) fun _ => True :=
  Isa.ramOn_memory.map busMap_ram64k

namespace CPU6502

/-- The instructions that move and compute data. -/
def dataProcessing : List Mnemonic :=
  [.ADC, .SBC, .AND, .ORA, .EOR, .CMP, .CPX, .CPY, .BIT, .ASL, .LSR, .ROL, .ROR, .INC, .DEC,
    .INX, .DEX, .INY, .DEY, .TAX, .TXA, .TAY, .TYA, .TSX, .TXS, .CLC, .SEC, .CLI, .SEI, .CLV,
    .CLD, .SED, .LDA, .LDX, .LDY, .STA, .STX, .STY]

/-- The live B flag set to `b`. -/
def withLiveB (b : Bool) {β : Type} (s : Arch β) : Arch β := { s with p := { s.p with b := b } }

lemma executeInstruction_ram64k {cpu : CPU6502 (Wired Unit RAM)} (hs : cpu.Settled)
    {s : Arch (Word → Byte)} (hbus : cpu.arch = s.map ram64k) :
    ∃ cpu', executeInstruction 28 cpu = some cpu' ∧ cpu'.Settled ∧
      cpu'.arch = (codeStep s).map ram64k := by
  obtain ⟨cpu', hrun, hs', harch⟩ := executeInstruction_refines hs
  refine ⟨cpu', hrun, hs', ?_⟩
  rw [harch, hbus]
  unfold codeStep
  rw [Isa.Arch.map_fetch busMap_ram64k, Isa.map_step busMap_ram64k]
  split_ifs <;> rfl

lemma codeStep_of_mem {β : Type} [BusLike β] {s : Arch β} {mn : Mnemonic} {mode : Mode}
    (hd : Isa.decode s.fetch.1 = some (mn, mode)) (hmn : mn ∉ [Mnemonic.BRK, .PHP]) :
    codeStep s = Isa.step s := by
  unfold codeStep
  rw [if_neg]
  intro hmem
  simp only [List.mem_cons, List.not_mem_nil, or_false] at hmem
  rcases hmem with h | h <;> rw [h] at hd <;> cases hd <;> exact hmn (by decide)

/-- Every instruction that moves or computes data ends in the state of the reference. -/
theorem data_processing_refines {cpu : CPU6502 (Wired Unit RAM)} (hs : cpu.Settled)
    {s : Arch (Word → Byte)} (hbus : cpu.arch = s.map ram64k) {mn : Mnemonic} {mode : Mode}
    (hd : Isa.decode (s.bus s.pc) = some (mn, mode)) (hmn : mn ∈ dataProcessing) :
    ∃ cpu', executeInstruction 28 cpu = some cpu' ∧ cpu'.Settled ∧
      cpu'.arch = (Isa.step s).map ram64k := by
  obtain ⟨cpu', hrun, hs', harch⟩ := executeInstruction_ram64k hs hbus
  refine ⟨cpu', hrun, hs', ?_⟩
  rw [harch, codeStep_of_mem (s := s) hd]
  rintro h
  fin_cases h <;> revert hmn <;> decide

theorem data_processing_refines_adc :
    ∃ cpu', executeInstruction 28 ({ bus := ram64k fun _ => 0x69#8, a := 0x7F#8 } : CPU6502 _) =
      some cpu' ∧ cpu'.a = 0xE8#8 ∧ cpu'.pFlags.v = true ∧ cpu'.pFlags.c = false := by
  have hs : Settled ({ bus := ram64k fun _ => 0x69#8, a := 0x7F#8 } : CPU6502 _) :=
    ⟨rfl, rfl, rfl⟩
  obtain ⟨cpu', hrun, -, harch⟩ := data_processing_refines hs
    (s := ⟨0x7F#8, 0#8, 0#8, 0#8, {}, 0#16, false, fun _ => 0x69#8⟩) rfl
    (show Isa.decode 0x69#8 = some (.ADC, .immediate) by decide) (by decide)
  refine ⟨cpu', hrun, ?_, ?_, ?_⟩
  · rw [show cpu'.a = cpu'.arch.a from rfl, harch]
    decide
  · rw [show cpu'.pFlags = cpu'.arch.p from rfl, harch]
    decide
  · rw [show cpu'.pFlags = cpu'.arch.p from rfl, harch]
    decide

/-- Every instruction, and every opcode without a row, ends in the state of the reference;
only `BRK` and `PHP` leave the live B flag in a state of their own. -/
theorem control_flow_refines {cpu : CPU6502 (Wired Unit RAM)} (hs : cpu.Settled)
    {s : Arch (Word → Byte)} (hbus : cpu.arch = s.map ram64k) :
    ∃ cpu', executeInstruction 28 cpu = some cpu' ∧ cpu'.Settled ∧
      (∃ b, cpu'.arch = (withLiveB b (Isa.step s)).map ram64k) ∧
      (s.bus s.pc ∉ [cOpBRK, cOpPHP] → cpu'.arch = (Isa.step s).map ram64k) := by
  obtain ⟨cpu', hrun, hs', harch⟩ := executeInstruction_ram64k hs hbus
  refine ⟨cpu', hrun, hs', ?_, ?_⟩
  · rw [harch]
    unfold codeStep
    split_ifs with h
    · exact ⟨true, rfl⟩
    · exact ⟨(Isa.step s).p.b, rfl⟩
  · intro hop
    rw [harch]
    unfold codeStep
    exact congrArg (Arch.map ram64k) (if_neg hop)

/-- `JMP ($00FF)` takes its high byte from `$0000`. -/
theorem control_flow_refines_jmp :
    ∃ cpu', executeInstruction 28 ({ bus := ram64k fun a => if a = 0x0301#16 then 0xFF#8 else
        if a = 0x00FF#16 then 0x34#8 else if a = 0x0000#16 then 0x12#8 else
        if a = 0x0302#16 then 0x00#8 else 0x6C#8, pc := 0x0300#16 } : CPU6502 _) = some cpu' ∧
      cpu'.pc = 0x1234#16 := by
  set mem : Word → Byte := fun a => if a = 0x0301#16 then 0xFF#8 else
    if a = 0x00FF#16 then 0x34#8 else if a = 0x0000#16 then 0x12#8 else
    if a = 0x0302#16 then 0x00#8 else 0x6C#8
  have hs : Settled ({ bus := ram64k mem, pc := 0x0300#16 } : CPU6502 _) := ⟨rfl, rfl, rfl⟩
  obtain ⟨cpu', hrun, -, -, harch⟩ := control_flow_refines hs
    (s := ⟨0#8, 0#8, 0#8, 0#8, {}, 0x0300#16, false, mem⟩) rfl
  refine ⟨cpu', hrun, ?_⟩
  rw [show cpu'.pc = cpu'.arch.pc from rfl, harch (by decide)]
  decide

end CPU6502

end Sys6
