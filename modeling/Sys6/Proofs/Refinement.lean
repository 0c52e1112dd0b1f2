import Sys6.Proofs.ControlFlow
import Sys6.Proofs.OpcodeTable

/-!
# Every instruction refines its row of the manual

Each family of handlers contributes its addressing modes and its effect.
-/

namespace Sys6

open Isa (Mnemonic Mode Operand Arch)

variable {β : Type} [BusLike β]

namespace CPU6502

lemma binaryFits_elim {ir : Byte} {mn : Mnemonic} (h : binaryFits ir mn = true) :
    ∃ op r k, binaryOf mn = some (op, r, k) ∧ binaryAluSelect ir = some (op, r) ∧
      binaryCommitSelect ir = some k := by
  unfold binaryFits at h
  split at h
  · rename_i op r k hmn
    simp only [Bool.and_eq_true, beq_iff_eq] at h
    exact ⟨op, r, k, hmn, h.1, h.2⟩
  · cases h

lemma unaryFits_elim {ir : Byte} {mn : Mnemonic} (h : unaryFits ir mn = true) :
    ∃ op k, unaryOf mn = some (op, k) ∧ unaryAluSelect ir = some op ∧
      unaryCommitSelect ir = some k := by
  unfold unaryFits at h
  split at h
  · rename_i op k hmn
    simp only [Bool.and_eq_true, beq_iff_eq] at h
    exact ⟨op, k, hmn, h.1, h.2⟩
  · cases h

lemma loadFits_elim {ir : Byte} {mn : Mnemonic} (h : loadFits ir mn = true) :
    ∃ r, loadOf mn = some r ∧ loadSelect ir = some r := by
  simp only [loadFits, Bool.and_eq_true, beq_iff_eq, Option.isSome_iff_exists] at h
  obtain ⟨⟨r, hr⟩, hir⟩ := h
  exact ⟨r, hr, hir.trans hr⟩

lemma storeFits_elim {ir : Byte} {mn : Mnemonic} (h : storeFits ir mn = true) :
    ∃ r, storeOf mn = some r ∧ storeSelect ir = some r := by
  simp only [storeFits, Bool.and_eq_true, beq_iff_eq, Option.isSome_iff_exists] at h
  obtain ⟨⟨r, hr⟩, hir⟩ := h
  exact ⟨r, hr, hir.trans hr⟩

/-- An instruction that reads its operand depends on the operand byte only. -/
lemma exec_binary {mn : Mnemonic} {p : AluOp × Reg × BinaryCommit} (hmn : binaryOf mn = some p)
    (o : Operand) (s : Arch β) :
    Isa.exec mn o s = Isa.exec mn (.immediate (s.operandValue o).1) (s.operandValue o).2 := by
  cases mn <;> first | rfl | cases hmn

lemma exec_load {mn : Mnemonic} {r : Reg} (hmn : loadOf mn = some r) (o : Operand) (s : Arch β) :
    Isa.exec mn o s = Isa.exec mn (.immediate (s.operandValue o).1) (s.operandValue o).2 := by
  cases mn <;> first | rfl | cases hmn

lemma runs_binary {h : Handler} {cpu : CPU6502 β} {mn : Mnemonic} {o : Operand × Arch β}
    (hf : binaryFits cpu.ir mn = true)
    (hd : Delivers applyBinaryAluOp commitBinaryAluResult cpu (o.2.operandValue o.1)
      (doWhile h.cycle done 6 cpu)) :
    Runs h cpu (Isa.exec mn o.1 o.2) := by
  obtain ⟨op, r, k, hmn, hop, hk⟩ := binaryFits_elim hf
  obtain ⟨c, harch, hir, hout⟩ := hd
  refine ⟨_, hout, ?_⟩
  rw [exec_binary hmn, ← harch]
  rw [← hir] at hop hk
  exact arch_binary hmn hop hk _

lemma runs_load {h : Handler} {cpu : CPU6502 β} {mn : Mnemonic} {o : Operand × Arch β}
    (hf : loadFits cpu.ir mn = true)
    (hd : Delivers loadOperand commitLoadResult cpu (o.2.operandValue o.1)
      (doWhile h.cycle done 6 cpu)) :
    Runs h cpu (Isa.exec mn o.1 o.2) := by
  obtain ⟨r, hmn, hr⟩ := loadFits_elim hf
  obtain ⟨c, harch, hir, hout⟩ := hd
  refine ⟨_, hout, ?_⟩
  rw [exec_load hmn, ← harch]
  rw [← hir] at hr
  exact arch_load hmn hr _

lemma runs_modify {h : Handler} {cpu : CPU6502 β} {mn : Mnemonic} {o : Operand × Arch β}
    (hf : unaryFits cpu.ir mn = true) (hexec : ∀ op, o.2.modify o.1 op =
      modifyAt (o.2.address o.1).1 (op (o.2.operandValue o.1).1) (o.2.operandValue o.1).2)
    (hp : (o.2.operandValue o.1).2.p = o.2.p)
    (hd : Modifies cpu (o.2.address o.1).1 (o.2.operandValue o.1) (doWhile h.cycle done 6 cpu)) :
    Runs h cpu (Isa.exec mn o.1 o.2) := by
  obtain ⟨op, k, hmn, hop, hk⟩ := unaryFits_elim hf
  obtain ⟨c, t, harch, hir, hout⟩ := hd
  refine ⟨_, hout, ?_⟩
  rw [← hir] at hop hk
  have hexec' : Isa.exec mn o.1 o.2 = o.2.modify o.1 (unarySem mn o.2.p.c) := by
    cases mn <;> first | rfl | cases hmn
  rw [arch_modify hmn hop hk, hexec', hexec, ← harch, ← hp, ← harch]
  rfl

lemma address_regs (o : Operand) (s : Arch β) :
    (s.address o).2.a = s.a ∧ (s.address o).2.x = s.x ∧ (s.address o).2.y = s.y := by
  cases o <;> exact ⟨rfl, rfl, rfl⟩

lemma runs_store {h : Handler} {cpu : CPU6502 β} {mn : Mnemonic} {o : Operand × Arch β}
    (hf : storeFits cpu.ir mn = true)
    (hd : Stores cpu (o.2.address o.1).1 (o.2.address o.1).2 (doWhile h.cycle done 6 cpu)) :
    Runs h cpu (Isa.exec mn o.1 o.2) := by
  obtain ⟨r, hmn, hr⟩ := storeFits_elim hf
  obtain ⟨c, harch, hir, hout⟩ := hd
  refine ⟨_, hout, ?_⟩
  rw [← hir] at hr
  rw [arch_store hmn hr, harch]
  obtain ⟨ha, hx, hy⟩ := address_regs o.1 o.2
  cases mn with
  | STA => exact congrArg (fun v => (o.2.address o.1).2.write (o.2.address o.1).1 v) ha
  | STX => exact congrArg (fun v => (o.2.address o.1).2.write (o.2.address o.1).1 v) hx
  | STY => exact congrArg (fun v => (o.2.address o.1).2.write (o.2.address o.1).1 v) hy
  | _ => cases hmn

omit [BusLike β] in
lemma binary_incPC (v : Byte) (c : CPU6502 β) :
    applyBinaryAluOp v c.incPC = (applyBinaryAluOp v c).incPC := by
  have hir : c.incPC.ir = c.ir := rfl
  unfold applyBinaryAluOp
  rw [hir]
  cases binaryAluSelect c.ir with
  | none => rfl
  | some p => obtain ⟨op, r⟩ := p; cases op <;> cases r <;> rfl

lemma runs_shiftAccumulator {cpu : CPU6502 β} {mn : Mnemonic} (hf : unaryFits cpu.ir mn = true) :
    Runs .shiftAccumulator cpu (Isa.exec mn .accumulator cpu.arch) := by
  obtain ⟨op, k, hmn, hop, hk⟩ := unaryFits_elim hf
  exact runs_one rfl (arch_shiftAccumulator (c := cpu.rise) hmn hop hk)

/-- What the reference does with an opcode whose row is `mn`, `mode`. -/
def stepRow (mn : Mnemonic) (mode : Mode) (s : Arch β) : Arch β :=
  match mn with
  | .JSR => s.jsr
  | .BRK => setLiveB s.brk
  | .PHP => setLiveB (Isa.exec .PHP (s.fetchOperand mode).1 (s.fetchOperand mode).2)
  | mn => Isa.exec mn (s.fetchOperand mode).1 (s.fetchOperand mode).2

section StepRow

variable {ir : Byte} {mn : Mnemonic} {mode : Mode} {s : Arch β}

lemma stepRow_of_ne (h : mn ∉ [Mnemonic.JSR, .BRK, .PHP]) :
    stepRow mn mode s = Isa.exec mn (s.fetchOperand mode).1 (s.fetchOperand mode).2 := by
  cases mn <;> first | rfl | exact absurd (by decide) h

/-- The rows of the four families are none of these. -/
lemma stepRow_of_fits (h : binaryFits ir mn ∨ unaryFits ir mn ∨ loadFits ir mn ∨ storeFits ir mn) :
    stepRow mn mode s = Isa.exec mn (s.fetchOperand mode).1 (s.fetchOperand mode).2 := by
  apply stepRow_of_ne
  intro hmem
  simp only [binaryFits, unaryFits, loadFits, storeFits] at h
  fin_cases hmem <;> simp [binaryOf, unaryOf, loadOf, storeOf] at h

lemma stepRow_of_mem {l : List (Byte × Mnemonic)} (h : (ir, mn) ∈ l)
    (hl : ∀ p ∈ l, p.2 ∉ [Mnemonic.JSR, .BRK, .PHP]) :
    stepRow mn mode s = Isa.exec mn (s.fetchOperand mode).1 (s.fetchOperand mode).2 :=
  stepRow_of_ne (hl _ h)

end StepRow

section Row

variable {h : Handler} {cpu : CPU6502 β} {mn : Mnemonic} {mode m : Mode}

lemma runs_binary_row (hf : (mode == m && binaryFits cpu.ir mn) = true)
    (hd : Delivers applyBinaryAluOp commitBinaryAluResult cpu
      ((cpu.arch.fetchOperand m).2.operandValue (cpu.arch.fetchOperand m).1) (doWhile h.cycle done 6 cpu)) :
    Runs h cpu (stepRow mn mode cpu.arch) := by
  simp only [Bool.and_eq_true, beq_iff_eq] at hf
  obtain ⟨rfl, hf⟩ := hf
  rw [stepRow_of_fits (.inl hf)]
  exact runs_binary hf hd

lemma runs_load_row (hf : (mode == m && loadFits cpu.ir mn) = true)
    (hd : Delivers loadOperand commitLoadResult cpu
      ((cpu.arch.fetchOperand m).2.operandValue (cpu.arch.fetchOperand m).1) (doWhile h.cycle done 6 cpu)) :
    Runs h cpu (stepRow mn mode cpu.arch) := by
  simp only [Bool.and_eq_true, beq_iff_eq] at hf
  obtain ⟨rfl, hf⟩ := hf
  rw [stepRow_of_fits (.inr (.inr (.inl hf)))]
  exact runs_load hf hd

lemma runs_store_row (hf : (mode == m && storeFits cpu.ir mn) = true)
    (hd : Stores cpu ((cpu.arch.fetchOperand m).2.address (cpu.arch.fetchOperand m).1).1
      ((cpu.arch.fetchOperand m).2.address (cpu.arch.fetchOperand m).1).2 (doWhile h.cycle done 6 cpu)) :
    Runs h cpu (stepRow mn mode cpu.arch) := by
  simp only [Bool.and_eq_true, beq_iff_eq] at hf
  obtain ⟨rfl, hf⟩ := hf
  rw [stepRow_of_fits (.inr (.inr (.inr hf)))]
  exact runs_store hf hd

lemma runs_modify_row (hf : (mode == m && unaryFits cpu.ir mn) = true) (hexec : ∀ op,
      (cpu.arch.fetchOperand m).2.modify (cpu.arch.fetchOperand m).1 op =
        modifyAt ((cpu.arch.fetchOperand m).2.address (cpu.arch.fetchOperand m).1).1
          (op ((cpu.arch.fetchOperand m).2.operandValue (cpu.arch.fetchOperand m).1).1)
          ((cpu.arch.fetchOperand m).2.operandValue (cpu.arch.fetchOperand m).1).2)
    (hp : ((cpu.arch.fetchOperand m).2.operandValue (cpu.arch.fetchOperand m).1).2.p =
      (cpu.arch.fetchOperand m).2.p)
    (hd : Modifies cpu ((cpu.arch.fetchOperand m).2.address (cpu.arch.fetchOperand m).1).1
      ((cpu.arch.fetchOperand m).2.operandValue (cpu.arch.fetchOperand m).1) (doWhile h.cycle done 6 cpu)) :
    Runs h cpu (stepRow mn mode cpu.arch) := by
  simp only [Bool.and_eq_true, beq_iff_eq] at hf
  obtain ⟨rfl, hf⟩ := hf
  rw [stepRow_of_fits (.inr (.inl hf))]
  exact runs_modify hf hexec hp hd

end Row

theorem runs_of_fits {cpu : CPU6502 β} (ht : cpu.cpuStep = .T1) {h : Handler} {mn : Mnemonic}
    {mode : Mode} (hf : h.fits cpu.ir mn mode = true) : Runs h cpu (stepRow mn mode cpu.arch) := by
  cases h with
  | readImmediate => exact runs_binary_row hf (delivers_immediate latched_applyBinaryAluOp binary_incPC cpu)
  | readZeroPage => exact runs_binary_row hf (delivers_zeroPage latched_applyBinaryAluOp ht)
  | readZeroPageX => exact runs_binary_row hf (delivers_zeroPageIndexed latched_applyBinaryAluOp .X ht)
  | readAbsolute => exact runs_binary_row hf (delivers_absolute latched_applyBinaryAluOp ht)
  | readAbsoluteX => exact runs_binary_row hf (delivers_absoluteIndexed latched_applyBinaryAluOp .X ht)
  | readAbsoluteY => exact runs_binary_row hf (delivers_absoluteIndexed latched_applyBinaryAluOp .Y ht)
  | readIndirectX => exact runs_binary_row hf (delivers_indirectX latched_applyBinaryAluOp ht)
  | readIndirectY => exact runs_binary_row hf (delivers_indirectY latched_applyBinaryAluOp ht)
  | loadImmediate => exact runs_load_row hf (delivers_immediate latched_loadOperand (fun _ _ => rfl) cpu)
  | loadZeroPage => exact runs_load_row hf (delivers_zeroPage latched_loadOperand ht)
  | loadZeroPageX => exact runs_load_row hf (delivers_zeroPageIndexed latched_loadOperand .X ht)
  | loadZeroPageY => exact runs_load_row hf (delivers_zeroPageIndexed latched_loadOperand .Y ht)
  | loadAbsolute => exact runs_load_row hf (delivers_absolute latched_loadOperand ht)
  | loadAbsoluteX => exact runs_load_row hf (delivers_absoluteIndexed latched_loadOperand .X ht)
  | loadAbsoluteY => exact runs_load_row hf (delivers_absoluteIndexed latched_loadOperand .Y ht)
  | loadIndirectX => exact runs_load_row hf (delivers_indirectX latched_loadOperand ht)
  | loadIndirectY => exact runs_load_row hf (delivers_indirectY latched_loadOperand ht)
  | shiftAccumulator =>
    simp only [Handler.fits, Bool.and_eq_true, beq_iff_eq] at hf
    obtain ⟨rfl, hf⟩ := hf
    rw [stepRow_of_fits (.inr (.inl hf))]
    exact runs_shiftAccumulator hf
  | rmwZeroPage => exact runs_modify_row hf (fun _ => rfl) rfl (modifies_zeroPage ht)
  | rmwZeroPageX => exact runs_modify_row hf (fun _ => rfl) rfl (modifies_zeroPageX ht)
  | rmwAbsolute => exact runs_modify_row hf (fun _ => rfl) rfl (modifies_absolute ht)
  | rmwAbsoluteX => exact runs_modify_row hf (fun _ => rfl) rfl (modifies_absoluteX ht)
  | storeZeroPage => exact runs_store_row hf (stores_zeroPage ht)
  | storeZeroPageX => exact runs_store_row hf (stores_zeroPageIndexed .X ht)
  | storeZeroPageY => exact runs_store_row hf (stores_zeroPageIndexed .Y ht)
  | storeAbsolute => exact runs_store_row hf (stores_absolute ht)
  | storeAbsoluteX => exact runs_store_row hf (stores_absoluteIndexed .X ht)
  | storeAbsoluteY => exact runs_store_row hf (stores_absoluteIndexed .Y ht)
  | storeIndirectX => exact runs_store_row hf (stores_indirectX ht)
  | storeIndirectY => exact runs_store_row hf (stores_indirectY ht)
  | impliedIncDec =>
    simp only [Handler.fits, Bool.and_eq_true, beq_iff_eq, decide_eq_true_eq] at hf
    obtain ⟨rfl, hf⟩ := hf
    rw [stepRow_of_mem hf (by decide)]
    exact runs_impliedIncDec hf
  | impliedTransfer =>
    simp only [Handler.fits, Bool.and_eq_true, beq_iff_eq, decide_eq_true_eq] at hf
    obtain ⟨rfl, hf⟩ := hf
    rw [stepRow_of_mem hf (by decide)]
    exact runs_impliedTransfer hf
  | impliedFlagOp =>
    simp only [Handler.fits, Bool.and_eq_true, beq_iff_eq, decide_eq_true_eq] at hf
    obtain ⟨rfl, hf⟩ := hf
    rw [stepRow_of_mem hf (by decide)]
    exact runs_impliedFlagOp hf
  | branch =>
    simp only [Handler.fits, Bool.and_eq_true, beq_iff_eq, decide_eq_true_eq] at hf
    obtain ⟨rfl, hf⟩ := hf
    rw [stepRow_of_mem hf (by decide)]
    exact runs_branch ht hf
  | jsr =>
    simp only [Handler.fits, Prod.mk.injEq, decide_eq_true_eq] at hf
    obtain ⟨rfl, rfl⟩ := hf
    exact runs_jsr ht
  | rts =>
    simp only [Handler.fits, Prod.mk.injEq, decide_eq_true_eq] at hf
    obtain ⟨rfl, rfl⟩ := hf
    exact runs_rts ht
  | jmpAbsolute =>
    simp only [Handler.fits, Prod.mk.injEq, decide_eq_true_eq] at hf
    obtain ⟨rfl, rfl⟩ := hf
    exact runs_jmpAbsolute ht
  | jmpIndirect =>
    simp only [Handler.fits, Prod.mk.injEq, decide_eq_true_eq] at hf
    obtain ⟨rfl, rfl⟩ := hf
    exact runs_jmpIndirect ht
  | nop =>
    simp only [Handler.fits, Prod.mk.injEq, decide_eq_true_eq] at hf
    obtain ⟨rfl, rfl⟩ := hf
    exact runs_nop cpu
  | rti =>
    simp only [Handler.fits, Prod.mk.injEq, decide_eq_true_eq] at hf
    obtain ⟨rfl, rfl⟩ := hf
    exact runs_rti ht
  | brk =>
    simp only [Handler.fits, Prod.mk.injEq, decide_eq_true_eq] at hf
    obtain ⟨rfl, rfl, -⟩ := hf
    exact runs_brk ht
  | impliedPush =>
    simp only [Handler.fits, Prod.mk.injEq, decide_eq_true_eq] at hf
    rcases hf with ⟨rfl, rfl, hir⟩ | ⟨rfl, rfl, hir⟩
    · exact runs_pha ht hir
    · exact runs_php ht hir
  | impliedPull =>
    simp only [Handler.fits, Prod.mk.injEq, decide_eq_true_eq] at hf
    rcases hf with ⟨rfl, rfl, hir⟩ | ⟨rfl, rfl, hir⟩
    · exact runs_pla ht hir
    · exact runs_plp ht hir

/-- The reference step, with the live B flag as `BRK` and `PHP` leave it. -/
def codeStep (s : Arch β) : Arch β :=
  if s.fetch.1 ∈ [cOpBRK, cOpPHP] then setLiveB (Isa.step s) else Isa.step s

lemma codeStep_listed {s : Arch β} {mn : Mnemonic} {mode : Mode}
    (hd : Isa.decode s.fetch.1 = some (mn, mode))
    (hb : (s.fetch.1 ∈ [cOpBRK, cOpPHP]) ↔ mn ∈ [Mnemonic.BRK, .PHP])
    (hbrk : mn = .BRK → mode = .implied) :
    codeStep s = stepRow mn mode s.fetch.2 := by
  simp only [codeStep, hb, Isa.step, hd]
  cases mn with
  | BRK => rw [hbrk rfl]; rfl
  | _ => rfl

lemma sequencer_doWhile (h : Handler) (n : Nat) {cpu cpu' : CPU6502 β}
    (hrun : doWhile h.cycle done n cpu = some cpu') :
    cpu'.sequencer = ⟨.Low, cpu.ir, cpu.resetActive⟩ ∧ cpu'.cpuStep = .T0 := by
  induction n generalizing cpu with
  | zero => cases hrun
  | succ n ih =>
    have hseq := sequencer_handlerCycle h cpu
    rw [doWhile_succ] at hrun
    split_ifs at hrun with hd
    · cases hrun
      exact ⟨hseq, by simpa [done] using hd⟩
    · have := ih hrun
      rw [show (h.cycle cpu).ir = cpu.ir from congrArg Sequencer.ir hseq,
        show (h.cycle cpu).resetActive = cpu.resetActive from
          congrArg Sequencer.resetActive hseq] at this
      exact this

/-- From every settled state an instruction ends within 28 ticks, in a settled state that
shows the reference step. -/
theorem executeInstruction_refines {cpu : CPU6502 β} (hs : cpu.Settled) :
    ∃ cpu', executeInstruction 28 cpu = some cpu' ∧ cpu'.Settled ∧
      cpu'.arch = codeStep cpu.arch := by
  have hfits := dispatchFits_all cpu.fetched.ir
  unfold dispatchFits at hfits
  split at hfits
  · rename_i h mn mode hh hd
    simp only [Bool.and_eq_true, beq_iff_eq, decide_eq_decide] at hfits
    have ht : cpu.fetched.cpuStep = .T1 := rfl
    obtain ⟨cpu', hrun, harch⟩ := runs_of_fits ht hfits.1
    obtain ⟨hseq, hstep⟩ := sequencer_doWhile h 6 hrun
    refine ⟨cpu', (executeInstruction_handler hs hh).trans hrun, ⟨hstep, ?_, ?_⟩, ?_⟩
    · exact congrArg Sequencer.clockPhase hseq
    · exact (congrArg Sequencer.resetActive hseq).trans hs.resetActive
    · rw [harch]
      symm
      refine codeStep_listed (s := cpu.arch) hd hfits.2 ?_
      rintro rfl
      cases h <;> simp_all [Handler.fits, binaryFits, unaryFits, loadFits, storeFits, binaryOf,
        unaryOf, loadOf, storeOf]
  · rename_i hh hd
    refine ⟨_, executeInstruction_unlisted hs hh, ⟨rfl, rfl, hs.resetActive⟩, ?_⟩
    have hb : ¬cpu.arch.fetch.1 ∈ [cOpBRK, cOpPHP] := by
      intro hmem
      have hd' : Isa.decode cpu.arch.fetch.1 = none := hd
      simp only [List.mem_cons, List.not_mem_nil, or_false] at hmem
      rcases hmem with hmem | hmem <;> rw [hmem] at hd' <;> revert hd' <;> decide
    have hd' : Isa.decode cpu.arch.fetch.1 = none := hd
    simp only [codeStep, if_neg hb, Isa.step, hd']
    rfl
  · cases hfits

end CPU6502

end Sys6
