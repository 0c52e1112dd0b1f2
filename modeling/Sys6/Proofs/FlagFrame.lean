import Sys6.Proofs.Refinement

/-!
# Instructions that set no flags

Stores, branches, jumps, pushes, `TXS`, `NOP` and the opcodes without a row read the status register
at most. `PHP` alone also changes it.
-/

namespace Sys6

open Isa (Mnemonic Mode Operand Arch)

variable {β : Type}

lemma PFlags.ofByte_toByte (p : PFlags) : PFlags.ofByte p.toByte = p := by
  obtain ⟨c, z, i, d, b, u, v, n⟩ := p
  revert c z i d b u v n
  decide

lemma PFlags.toByte_inj {p p' : PFlags} : p.toByte = p'.toByte ↔ p = p' := by
  constructor
  · intro h
    rw [← p.ofByte_toByte, h, p'.ofByte_toByte]
  · rintro rfl
    rfl

namespace Isa

/-- The instructions that are said to leave the status register alone. -/
def Mnemonic.setsNoFlag : Mnemonic → Bool
  | .STA | .STX | .STY | .BPL | .BMI | .BVC | .BVS | .BCC | .BCS | .BNE | .BEQ | .JMP | .JSR | .RTS
  | .PHA | .PHP | .TXS | .NOP => true
  | _ => false

variable [BusLike β]

lemma p_fetchOperand (mode : Mode) (s : Arch β) : (s.fetchOperand mode).2.p = s.p := by
  cases mode <;> rfl

lemma p_address (o : Operand) (s : Arch β) : (s.address o).2.p = s.p := by
  cases o <;> rfl

lemma p_store (o : Operand) (v : Byte) (s : Arch β) : (s.store o v).p = s.p := p_address o s

omit [BusLike β] in
lemma p_branch (o : Operand) (taken : Bool) (s : Arch β) : (s.branch o taken).p = s.p := by
  cases o with
  | relative d => cases taken <;> rfl
  | _ => rfl

lemma p_exec {mn : Mnemonic} (h : mn.setsNoFlag = true) (o : Operand) (s : Arch β) :
    (exec mn o s).p = s.p := by
  cases mn with
  | STA | STX | STY => exact p_store o _ s
  | BPL | BMI | BVC | BVS | BCC | BCS | BNE | BEQ => exact p_branch o _ s
  | JMP => exact p_address o s
  | JSR | RTS | PHA | PHP | TXS | NOP => rfl
  | _ => cases h

lemma step_listed {s : Arch β} {mn : Mnemonic} {mode : Mode} (hd : decode s.fetch.1 = some (mn, mode))
    (hjsr : mn ≠ .JSR) : step s = exec mn (s.fetch.2.fetchOperand mode).1 (s.fetch.2.fetchOperand mode).2 := by
  simp only [step, hd]

lemma step_jsr {s : Arch β} {mode : Mode} (hd : decode s.fetch.1 = some (.JSR, mode)) :
    step s = s.fetch.2.jsr := by
  simp only [step, hd]

lemma step_unlisted {s : Arch β} (hd : decode s.fetch.1 = none) : step s = s.fetch.2 := by
  simp only [step, hd]

/-- In the reference none of them changes a flag. -/
theorem p_step {s : Arch β} (h : ∀ mn mode, decode s.fetch.1 = some (mn, mode) → mn.setsNoFlag = true) :
    (step s).p = s.p := by
  cases hd : decode s.fetch.1 with
  | none => rw [step_unlisted hd]; rfl
  | some row =>
    obtain ⟨mn, mode⟩ := row
    by_cases hjsr : mn = .JSR
    · subst hjsr
      rw [step_jsr hd]
      simp only [Arch.jsr, Arch.fetch, Arch.pushWord, Arch.push, Arch.write, Arch.read]
    · rw [step_listed hd hjsr, p_exec (h mn mode hd), p_fetchOperand]
      rfl

end Isa

namespace CPU6502

variable [BusLike β]

/-- The opcode at PC. -/
def opcode (cpu : CPU6502 β) : Byte := (BusLike.read cpu.bus cpu.pc).1

/-- The opcode at PC belongs to one of these instructions, or to none. -/
def SetsNoFlag (cpu : CPU6502 β) : Prop :=
  ∀ mn mode, Isa.decode cpu.opcode = some (mn, mode) → mn.setsNoFlag = true

/-- Bit 4 of the byte that `PHP` pushes is set, and the status register stays as it is. -/
structure FlagsKept (cpu cpu' : CPU6502 β) : Prop where
  live : cpu'.P = cpu.P
  pushed : cpu.opcode = cOpPHP → cpu'.bus =
    BusLike.write cpu.arch.fetch.2.discard.bus (word 1#8 cpu.sp) { cpu.pFlags with b := true }.toByte

/-- The live register is kept, except that `PHP` sets B. -/
theorem flags_kept_iff {cpu : CPU6502 β} (hs : cpu.Settled) (hflag : cpu.SetsNoFlag) :
    ∃ cpu', executeInstruction 28 cpu = some cpu' ∧
      (FlagsKept cpu cpu' ↔ (cpu.opcode = cOpPHP → cpu.pFlags.b = true)) := by
  obtain ⟨cpu', hrun, -, harch⟩ := executeInstruction_refines hs
  have hp : (Isa.step cpu.arch).p = cpu.pFlags := Isa.p_step hflag
  have hbus : cpu'.bus = (Isa.step cpu.arch).bus := by
    rw [show cpu'.bus = cpu'.arch.bus from rfl, harch]
    unfold codeStep
    split_ifs <;> rfl
  have hpushed : cpu.opcode = cOpPHP → cpu'.bus =
      BusLike.write cpu.arch.fetch.2.discard.bus (word 1#8 cpu.sp) { cpu.pFlags with b := true }.toByte := by
    intro hop
    have hd : Isa.decode cpu.arch.fetch.1 = some (.PHP, .implied) := by
      rw [show cpu.arch.fetch.1 = cOpPHP from hop]
      decide
    rw [hbus, Isa.step]
    simp only [hd]
    rfl
  have hbrk : cpu.opcode ≠ cOpBRK := by
    intro hop
    have hd : Isa.decode cpu.opcode = some (.BRK, .implied) := by
      rw [hop]
      decide
    exact absurd (hflag _ _ hd) (by decide)
  have hlive : cpu'.pFlags = if cpu.opcode = cOpPHP then { cpu.pFlags with b := true } else cpu.pFlags := by
    rw [show cpu'.pFlags = cpu'.arch.p from rfl, harch]
    unfold codeStep
    by_cases hop : cpu.opcode = cOpPHP
    · have hmem : cpu.arch.fetch.1 ∈ [cOpBRK, cOpPHP] := List.mem_cons_of_mem _ (List.mem_singleton.mpr hop)
      rw [if_pos hmem, if_pos hop, ← hp]
      rfl
    · have hmem : cpu.arch.fetch.1 ∉ [cOpBRK, cOpPHP] := by
        simp only [List.mem_cons, List.not_mem_nil, or_false, not_or]
        exact ⟨hbrk, hop⟩
      rw [if_neg hmem, if_neg hop, hp]
  refine ⟨cpu', hrun, fun h hop => ?_, fun h => ⟨?_, hpushed⟩⟩
  · have hP := PFlags.toByte_inj.mp h.live
    rw [hlive, if_pos hop] at hP
    exact (congrArg PFlags.b hP).symm
  · refine PFlags.toByte_inj.mpr ?_
    rw [hlive]
    split_ifs with hop
    · ext
      all_goals first | rfl | exact (h hop).symm
    · rfl

/-- `STA $8585`, with every flag but B set. -/
theorem flags_kept_iff_sta :
    let cpu : CPU6502 (Word → Byte) := { bus := fun _ => 0x85#8, pFlags := PFlags.ofByte 0xEF#8 }
    ∃ cpu', executeInstruction 28 cpu = some cpu' ∧ cpu'.P = 0xEF#8 := by
  intro cpu
  have hs : cpu.Settled := ⟨rfl, rfl, rfl⟩
  have hflag : cpu.SetsNoFlag := by
    intro mn mode hd
    have hd' : some (Mnemonic.STA, Mode.zeroPage) = some (mn, mode) := hd
    cases hd'
    rfl
  obtain ⟨cpu', hrun, hiff⟩ := flags_kept_iff hs hflag
  have hkept := hiff.mpr fun hop => absurd hop (by decide)
  exact ⟨cpu', hrun, hkept.live.trans (by decide)⟩

/-- `PHP` with B clear sets it. -/
theorem php_sets_live_b :
    let cpu : CPU6502 (Word → Byte) := { bus := fun _ => cOpPHP }
    cpu.Settled ∧ cpu.SetsNoFlag ∧ cpu.P = 0#8 ∧
      ∃ cpu', executeInstruction 28 cpu = some cpu' ∧ cpu'.P = 0x10#8 := by
  intro cpu
  have hs : cpu.Settled := ⟨rfl, rfl, rfl⟩
  have hflag : cpu.SetsNoFlag := by
    intro mn mode hd
    have hd' : some (Mnemonic.PHP, Mode.implied) = some (mn, mode) := hd
    cases hd'
    rfl
  obtain ⟨cpu', hrun, -, harch⟩ := executeInstruction_refines hs
  refine ⟨hs, hflag, by decide, cpu', hrun, ?_⟩
  rw [show cpu'.P = cpu'.arch.p.toByte from rfl, harch]
  decide

end CPU6502

end Sys6
