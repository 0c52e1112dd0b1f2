import Sys6.Proofs.Drivers
import Sys6.Proofs.StraightLine

/-!
# Flags that nothing reads

No instruction looks at I, D, B or bit 5: there is no decimal mode and there are no interrupts. They show
only in the byte that `PHP` and `BRK` push, so two runs that differ in nothing else are alike until then.
-/

namespace Sys6

open Isa (Arch Mnemonic Mode Operand)

variable {β : Type} [BusLike β]

namespace PFlags

/-- Without the flags that nothing reads. -/
def hush (p : PFlags) : PFlags := { p with i := false, d := false, b := false, u := false }

end PFlags

namespace Isa

namespace Arch

omit [BusLike β] in
def hush (s : Arch β) : Arch β := { s with p := s.p.hush }

lemma fetch_hush (s : Arch β) : s.hush.fetch = (s.fetch.1, s.fetch.2.hush) := rfl

lemma fetchOperand_hush (s : Arch β) (mode : Mode) :
    s.hush.fetchOperand mode = ((s.fetchOperand mode).1, (s.fetchOperand mode).2.hush) := by
  cases mode <;> rfl

lemma address_hush (s : Arch β) (o : Operand) : s.hush.address o = ((s.address o).1, (s.address o).2.hush) := by
  cases o <;> rfl

lemma operandValue_hush (s : Arch β) (o : Operand) :
    s.hush.operandValue o = ((s.operandValue o).1, (s.operandValue o).2.hush) := by
  cases o <;> rfl

lemma onValue_hush {op : Byte → Arch β → Arch β} (hop : ∀ v s, (op v s.hush).hush = (op v s).hush) (s : Arch β)
    (o : Operand) : (s.hush.onValue o op).hush = (s.onValue o op).hush := by
  unfold onValue
  rw [operandValue_hush]
  exact hop _ _

lemma store_hush (s : Arch β) (o : Operand) (v : Byte) : (s.hush.store o v).hush = (s.store o v).hush := by
  cases o <;> rfl

lemma modify_hush (s : Arch β) (o : Operand) (op : Byte → Byte × Option Bool) :
    (s.hush.modify o op).hush = (s.modify o op).hush := by
  cases o <;> rfl

omit [BusLike β] in
lemma branch_hush (s : Arch β) (o : Operand) (taken : Bool) :
    (s.hush.branch o taken).hush = (s.branch o taken).hush := by
  cases o <;> cases taken <;> rfl

end Arch

open Arch

lemma exec_hush {mn : Mnemonic} (h : mn ∉ [Mnemonic.BRK, .PHP]) (o : Operand) (s : Arch β) :
    (exec mn o s.hush).hush = (exec mn o s).hush := by
  cases mn with
  | BRK | PHP => exact absurd (by decide) h
  | ADC | SBC | AND | ORA | EOR | CMP | CPX | CPY | BIT | LDA | LDX | LDY =>
    exact onValue_hush (fun _ _ => rfl) s o
  | ASL | LSR | ROL | ROR | INC | DEC => exact modify_hush s o _
  | STA | STX | STY => exact store_hush s o _
  | BPL | BMI | BVC | BVS | BCC | BCS | BNE | BEQ => exact branch_hush s o _
  | JMP | JSR =>
    simp only [exec, address_hush]
    rfl
  | _ => rfl

lemma step_hush {s : Arch β} (h : s.fetch.1 ∉ [cOpBRK, cOpPHP]) : (step s.hush).hush = (step s).hush := by
  have hop : s.hush.fetch.1 = s.fetch.1 := rfl
  cases hd : decode s.fetch.1 with
  | none =>
    rw [step_unlisted hd, step_unlisted (hop.symm ▸ hd)]
    rfl
  | some row =>
    obtain ⟨mn, mode⟩ := row
    have hmn : mn ∉ [Mnemonic.BRK, .PHP] := fun hlive => h ((live_iff hd).mpr hlive)
    by_cases hjsr : mn = .JSR
    · subst hjsr
      rw [step_jsr hd, step_jsr (hop.symm ▸ hd)]
      rfl
    · rw [step_listed hd hjsr, step_listed (hop.symm ▸ hd) hjsr, fetch_hush, fetchOperand_hush]
      exact exec_hush hmn _ _

lemma cycles_hush (s : Arch β) : s.hush.cycles = s.cycles := by
  have hop : s.hush.fetch.1 = s.fetch.1 := rfl
  unfold Arch.cycles
  rw [hop]
  cases manual.find? fun row => row.opcode = s.fetch.1 with
  | none => rfl
  | some row =>
    dsimp only
    rw [fetch_hush, fetchOperand_hush]
    generalize (s.fetch.2.fetchOperand row.mode) = r
    cases row.note with
    | none => rfl
    | pageCross => cases r.1 <;> rfl
    | branch => cases r.1 <;> cases row.mnemonic <;> rfl

end Isa

namespace CPU6502

variable {cpu cpu' : CPU6502 β} {s t : Arch β}

lemma codeStep_hush (h : s.fetch.1 ∉ [cOpBRK, cOpPHP]) (hst : s.hush = t.hush) :
    (codeStep s).hush = (codeStep t).hush := by
  have hop : t.fetch.1 = s.fetch.1 := by
    show t.hush.fetch.1 = s.hush.fetch.1
    rw [hst]
  rw [codeStep, codeStep, if_neg h, if_neg (hop ▸ h), ← Isa.step_hush h, hst, Isa.step_hush (hop ▸ h)]

/-- As long as neither runs into `PHP` or `BRK`. -/
lemma iterate_hush {n : Nat} (h : ∀ i < n, (codeStep^[i] s).fetch.1 ∉ [cOpBRK, cOpPHP]) (hst : s.hush = t.hush) :
    (codeStep^[n] s).hush = (codeStep^[n] t).hush := by
  induction n with
  | zero => exact hst
  | succ n ih =>
    rw [Function.iterate_succ_apply', Function.iterate_succ_apply']
    exact codeStep_hush (h n (by omega)) (ih fun i hi => h i (by omega))

lemma executeInstructions_refines (hs : cpu.Settled) (n : Nat) :
    ∃ cpu', executeInstructions n cpu = some cpu' ∧ cpu'.Settled ∧ cpu'.arch = codeStep^[n] cpu.arch := by
  induction n generalizing cpu with
  | zero => exact ⟨cpu, rfl, hs, rfl⟩
  | succ n ih =>
    obtain ⟨cpu₁, hrun, hs₁, harch⟩ := executeInstruction_refines hs
    obtain ⟨cpu', hrest, hs', harch'⟩ := ih hs₁
    refine ⟨cpu', by rw [executeInstructions, hrun]; exact hrest, hs', ?_⟩
    rw [harch', harch]
    rfl

/-- Two CPUs that differ in I, D, B and bit 5 alone run the same program alike, to the last register, flag and
access of the bus, and in the same time, until they execute a `PHP` or a `BRK`. -/
theorem silent_flags (hs : cpu.Settled) (hs' : cpu'.Settled) (halike : cpu.arch.hush = cpu'.arch.hush) {n : Nat}
    (hquiet : ∀ i < n, (codeStep^[i] cpu.arch).fetch.1 ∉ [cOpBRK, cOpPHP]) :
    ∃ cpu₁ cpu₁', executeInstructions n cpu = some cpu₁ ∧ executeInstructions n cpu' = some cpu₁' ∧
      cpu₁.arch.hush = cpu₁'.arch.hush ∧
      ∀ i < n, (codeStep^[i] cpu.arch).cycles = (codeStep^[i] cpu'.arch).cycles := by
  obtain ⟨cpu₁, hrun, -, harch⟩ := executeInstructions_refines hs n
  obtain ⟨cpu₁', hrun', -, harch'⟩ := executeInstructions_refines hs' n
  refine ⟨cpu₁, cpu₁', hrun, hrun', ?_, fun i hi => ?_⟩
  · rw [harch, harch']
    exact iterate_hush hquiet halike
  · rw [← Isa.cycles_hush, iterate_hush (fun j hj => hquiet j (by omega)) halike, Isa.cycles_hush]

/-- `ADC #$69` with and without D. -/
theorem silent_flags_adc : ∃ cpu₁ cpu₁' : CPU6502 (Word → Byte),
    executeInstructions 5 { bus := fun _ => 0x69#8, pFlags := { d := true } } = some cpu₁ ∧
    executeInstructions 5 { bus := fun _ => 0x69#8 } = some cpu₁' ∧ cpu₁.a = cpu₁'.a := by
  have hs : ({ bus := fun _ => 0x69#8, pFlags := { d := true } } : CPU6502 (Word → Byte)).Settled := ⟨rfl, rfl, rfl⟩
  have hs' : ({ bus := fun _ => 0x69#8 } : CPU6502 (Word → Byte)).Settled := ⟨rfl, rfl, rfl⟩
  obtain ⟨cpu₁, cpu₁', hrun, hrun', halike, -⟩ := silent_flags (n := 5) hs hs' rfl (by decide +kernel)
  exact ⟨cpu₁, cpu₁', hrun, hrun', congrArg Arch.a halike⟩

end CPU6502

end Sys6
