import Sys6.Isa.Semantics
import Sys6.Proofs.Cycle
import Sys6.Proofs.Effects

/-!
# Implied instructions, jumps and the stack

Each handler here belongs to a few opcodes and is followed T-state by T-state.
-/

namespace Sys6

open Isa (Mnemonic Mode Operand Arch)

variable {β : Type} [BusLike β]

namespace Isa.Arch

omit [BusLike β]

/-- A register that takes the ALU's output, with the flags of that byte. -/
lemma set_alu (put : Byte → Arch β) {v v' : Byte} (h : v' = v) : (put v).setZN v =
    { put v' with p := { (put v').p with z := aluZero v', n := aluNegative v' } } := by
  subst h
  rw [aluZero_eq, aluNegative_eq]
  rfl

variable [BusLike β]

lemma push_eq (v : Byte) (s : Arch β) :
    s.push v = { s.write (0x0100#16 + s.sp.setWidth 16) v with sp := s.sp - 1#8 } := by
  rw [page_add]
  rfl

lemma pull_eq (s : Arch β) :
    s.pull = { s with sp := s.sp + 1#8 }.read (0x0100#16 + (s.sp + 1#8).setWidth 16) := by
  rw [page_add]
  rfl

lemma pushWord_eq (w : Word) (s : Arch β) :
    s.pushWord w = (s.push ((w >>> 8).setWidth 8)).push ((w &&& 0xFF#16).setWidth 8) := by
  rw [shiftRight_eq_hi, and_mask_eq_lo]
  rfl

end Isa.Arch

namespace CPU6502

/-- From its first T-state, the handler ends in the visible state `s`. -/
def Runs (h : Handler) (cpu : CPU6502 β) (s : Arch β) : Prop :=
  ∃ cpu' : CPU6502 β, doWhile h.cycle done 6 cpu = some cpu' ∧ cpu'.arch = s

lemma runs_of {h : Handler} {cpu : CPU6502 β} {s : Arch β} (n : Nat) (hn : n < 6)
    (hskip : ∀ i, i < n → done (h.cycle^[i + 1] cpu) = false)
    (hdone : done (h.cycle^[n + 1] cpu) = true) (harch : (h.cycle^[n + 1] cpu).arch = s) :
    Runs h cpu s :=
  ⟨_, (doWhile_eq_some_iff _ _ _ _ _).mpr ⟨n, hn, rfl, hdone, hskip⟩, harch⟩

lemma runs_one {h : Handler} {cpu : CPU6502 β} {s : Arch β} (hdone : done (h.cycle cpu) = true)
    (harch : (h.cycle cpu).arch = s) : Runs h cpu s :=
  runs_of 0 (by omega) (fun _ hi => absurd hi (by omega)) hdone harch

theorem runs_impliedIncDec {mn : Mnemonic} {cpu : CPU6502 β}
    (h : (cpu.ir, mn) ∈ [(cOpINX, Mnemonic.INX), (cOpDEX, .DEX), (cOpINY, .INY), (cOpDEY, .DEY)]) :
    Runs .impliedIncDec cpu (Isa.exec mn .implied cpu.arch) := by
  obtain ⟨bus, a, x, y, pc, sp, p, step, phase, al, ea, pcr, ir, bo, bt, hl, ra, aa, ab, af, ac,
    ao⟩ := cpu
  simp only [List.mem_cons, Prod.mk.injEq, List.not_mem_nil, or_false] at h
  rcases h with ⟨rfl, rfl⟩ | ⟨rfl, rfl⟩ | ⟨rfl, rfl⟩ | ⟨rfl, rfl⟩
  · exact runs_one rfl (Arch.set_alu (fun v => ⟨a, v, y, sp, p, pc, hl, bus⟩) (execute_inc x)).symm
  · exact runs_one rfl (Arch.set_alu (fun v => ⟨a, v, y, sp, p, pc, hl, bus⟩) (execute_dec x)).symm
  · exact runs_one rfl (Arch.set_alu (fun v => ⟨a, x, v, sp, p, pc, hl, bus⟩) (execute_inc y)).symm
  · exact runs_one rfl (Arch.set_alu (fun v => ⟨a, x, v, sp, p, pc, hl, bus⟩) (execute_dec y)).symm

theorem runs_impliedTransfer {mn : Mnemonic} {cpu : CPU6502 β}
    (h : (cpu.ir, mn) ∈ [(cOpTAX, Mnemonic.TAX), (cOpTXA, .TXA), (cOpTAY, .TAY), (cOpTYA, .TYA),
      (cOpTSX, .TSX), (cOpTXS, .TXS)]) :
    Runs .impliedTransfer cpu (Isa.exec mn .implied cpu.arch) := by
  obtain ⟨bus, a, x, y, pc, sp, p, step, phase, al, ea, pcr, ir, bo, bt, hl, ra, aa, ab, af, ac,
    ao⟩ := cpu
  simp only [List.mem_cons, Prod.mk.injEq, List.not_mem_nil, or_false] at h
  rcases h with ⟨rfl, rfl⟩ | ⟨rfl, rfl⟩ | ⟨rfl, rfl⟩ | ⟨rfl, rfl⟩ | ⟨rfl, rfl⟩ | ⟨rfl, rfl⟩
  · exact runs_one rfl (Arch.set_alu (fun v => ⟨a, v, y, sp, p, pc, hl, bus⟩) (or_zero_value a ac)).symm
  · exact runs_one rfl (Arch.set_alu (fun v => ⟨v, x, y, sp, p, pc, hl, bus⟩) (or_zero_value x ac)).symm
  · exact runs_one rfl (Arch.set_alu (fun v => ⟨a, x, v, sp, p, pc, hl, bus⟩) (or_zero_value a ac)).symm
  · exact runs_one rfl (Arch.set_alu (fun v => ⟨v, x, y, sp, p, pc, hl, bus⟩) (or_zero_value y ac)).symm
  · exact runs_one rfl (Arch.set_alu (fun v => ⟨a, v, y, sp, p, pc, hl, bus⟩) (or_zero_value sp ac)).symm
  · have hx := or_zero_value x ac
    exact runs_one rfl (congrArg (fun v => (⟨a, x, y, v, p, pc, hl, bus⟩ : Arch β)) hx)

theorem runs_impliedFlagOp {mn : Mnemonic} {cpu : CPU6502 β}
    (h : (cpu.ir, mn) ∈ [(cOpCLC, Mnemonic.CLC), (cOpSEC, .SEC), (cOpCLI, .CLI), (cOpSEI, .SEI),
      (cOpCLV, .CLV), (cOpCLD, .CLD), (cOpSED, .SED)]) :
    Runs .impliedFlagOp cpu (Isa.exec mn .implied cpu.arch) := by
  obtain ⟨bus, a, x, y, pc, sp, p, step, phase, al, ea, pcr, ir, bo, bt, hl, ra, aa, ab, af, ac,
    ao⟩ := cpu
  simp only [List.mem_cons, Prod.mk.injEq, List.not_mem_nil, or_false] at h
  rcases h with ⟨rfl, rfl⟩ | ⟨rfl, rfl⟩ | ⟨rfl, rfl⟩ | ⟨rfl, rfl⟩ | ⟨rfl, rfl⟩ | ⟨rfl, rfl⟩ |
    ⟨rfl, rfl⟩ <;> exact runs_one rfl rfl

theorem runs_nop (cpu : CPU6502 β) : Runs .nop cpu (Isa.exec .NOP .implied cpu.arch) :=
  runs_one rfl rfl

/-- The condition of a branch mnemonic. -/
def taken (p : PFlags) : Mnemonic → Bool
  | .BPL => !p.n
  | .BMI => p.n
  | .BVC => !p.v
  | .BVS => p.v
  | .BCC => !p.c
  | .BCS => p.c
  | .BNE => !p.z
  | .BEQ => p.z
  | _ => false

/-- A taken branch goes to its target in T2, or in T3 when the target is on another page. -/
lemma branch_taken {cpu : CPU6502 β} (ht : cpu.cpuStep = .T2) :
    ∃ cpu' : CPU6502 β, doWhile Handler.branch.cycle done 5 cpu = some cpu' ∧
      cpu'.arch = { cpu.arch with pc := cpu.pc + cpu.branchOffset.signExtend 16 } := by
  obtain ⟨bus, a, x, y, pc, sp, p, step, phase, al, ea, pcr, ir, bo, bt, hl, ra, aa, ab, af, ac,
    ao⟩ := cpu
  cases ht
  set c : CPU6502 β := ⟨bus, a, x, y, pc, sp, p, .T2, phase, al, ea, pcr, ir, bo, bt, hl, ra, aa,
    ab, af, ac, ao⟩ with hc
  set d : CPU6502 β := (Handler.branch.capture c.rise).fall with hd
  have hcyc : Handler.branch.cycle c =
      if d.pageCrossed then d.advance .T3 else (d.setPC d.effAddr).advance .T0 := rfl
  cases hcross : d.pageCrossed with
  | false =>
    rw [hcross] at hcyc
    exact ⟨_, doWhile_last 4 hcyc, rfl⟩
  | true =>
    rw [hcross] at hcyc
    have hlast : Handler.branch.cycle (d.advance .T3) =
        (((d.advance .T3).rise.fall).setPC d.effAddr).advance .T0 := rfl
    rw [doWhile_pass 4 hcyc rfl]
    exact ⟨_, doWhile_last 3 hlast, rfl⟩

omit [BusLike β] in
lemma branchCondition_eq {mn : Mnemonic} {cpu : CPU6502 β}
    (h : (cpu.ir, mn) ∈ [(cOpBPL, Mnemonic.BPL), (cOpBMI, .BMI), (cOpBVC, .BVC), (cOpBVS, .BVS),
      (cOpBCC, .BCC), (cOpBCS, .BCS), (cOpBNE, .BNE), (cOpBEQ, .BEQ)]) :
    evaluateBranchCondition cpu.ir cpu.pFlags.c cpu.pFlags.z cpu.pFlags.n cpu.pFlags.v =
      taken cpu.pFlags mn := by
  simp only [List.mem_cons, Prod.mk.injEq, List.not_mem_nil, or_false] at h
  rcases h with ⟨h, rfl⟩ | ⟨h, rfl⟩ | ⟨h, rfl⟩ | ⟨h, rfl⟩ | ⟨h, rfl⟩ | ⟨h, rfl⟩ | ⟨h, rfl⟩ |
    ⟨h, rfl⟩ <;> rw [h] <;> rfl

theorem runs_branch {mn : Mnemonic} {cpu : CPU6502 β} (ht : cpu.cpuStep = .T1)
    (h : (cpu.ir, mn) ∈ [(cOpBPL, Mnemonic.BPL), (cOpBMI, .BMI), (cOpBVC, .BVC), (cOpBVS, .BVS),
      (cOpBCC, .BCC), (cOpBCS, .BCS), (cOpBNE, .BNE), (cOpBEQ, .BEQ)]) :
    let o := cpu.arch.fetchOperand .relative
    Runs .branch cpu (Isa.exec mn o.1 o.2) := by
  intro o
  have hcond := branchCondition_eq h
  have hexec : Isa.exec mn o.1 o.2 = o.2.branch o.1 (taken cpu.pFlags mn) := by
    simp only [List.mem_cons, Prod.mk.injEq, List.not_mem_nil, or_false] at h
    rcases h with ⟨-, rfl⟩ | ⟨-, rfl⟩ | ⟨-, rfl⟩ | ⟨-, rfl⟩ | ⟨-, rfl⟩ | ⟨-, rfl⟩ | ⟨-, rfl⟩ |
      ⟨-, rfl⟩ <;> rfl
  rw [hexec, ← hcond]
  obtain ⟨bus, a, x, y, pc, sp, p, step, phase, al, ea, pcr, ir, bo, bt, hl, ra, aa, ab, af, ac,
    ao⟩ := cpu
  cases ht
  set c : CPU6502 β := ⟨bus, a, x, y, pc, sp, p, .T1, phase, al, ea, pcr, ir, bo, bt, hl, ra, aa,
    ab, af, ac, ao⟩ with hc
  have hstep : (Handler.branch.cycle c).cpuStep =
      if evaluateBranchCondition ir p.c p.z p.n p.v then .T2 else .T0 := rfl
  cases hb : evaluateBranchCondition ir p.c p.z p.n p.v with
  | false =>
    rw [hb] at hstep
    exact runs_one (by simp [done, hstep]) rfl
  | true =>
    rw [hb] at hstep
    obtain ⟨c', hrun, harch⟩ := branch_taken hstep
    refine ⟨c', ?_, harch⟩
    rw [doWhile_pass 5 rfl (by simp [done, hstep]), hrun]

/-- The live B flag after `BRK` and `PHP`. -/
def setLiveB (s : Arch β) : Arch β := { s with p := { s.p with b := true } }

theorem runs_jmpAbsolute {cpu : CPU6502 β} (ht : cpu.cpuStep = .T1) :
    let o := cpu.arch.fetchOperand .absolute
    Runs .jmpAbsolute cpu (Isa.exec .JMP o.1 o.2) := by
  intro o
  have ho : Isa.exec .JMP o.1 o.2 = { cpu.arch.fetchWord.2 with pc := cpu.arch.fetchWord.1 } := rfl
  rw [ho, Arch.fetchWord_fst]
  obtain ⟨bus, a, x, y, pc, sp, p, step, phase, al, ea, pcr, ir, bo, bt, hl, ra, aa, ab, af, ac,
    ao⟩ := cpu
  cases ht
  refine runs_of 1 (by omega) ?_ rfl rfl
  intro i hi
  interval_cases i
  rfl

theorem runs_jmpIndirect {cpu : CPU6502 β} (ht : cpu.cpuStep = .T1) :
    let o := cpu.arch.fetchOperand .indirect
    Runs .jmpIndirect cpu (Isa.exec .JMP o.1 o.2) := by
  intro o
  have ho : Isa.exec .JMP o.1 o.2 =
      let w := cpu.arch.fetchWord
      let lo := w.2.read w.1
      let hi := lo.2.read (w.1 &&& 0xFF00#16 ||| (w.1 + 1#16) &&& 0x00FF#16)
      { hi.2 with pc := lo.1.setWidth 16 ||| hi.1.setWidth 16 <<< 8 } := by
    simp only [wrap_in_page, or_shiftLeft_eq_word]
    rfl
  simp only [ho, Arch.fetchWord_fst]
  obtain ⟨bus, a, x, y, pc, sp, p, step, phase, al, ea, pcr, ir, bo, bt, hl, ra, aa, ab, af, ac,
    ao⟩ := cpu
  cases ht
  refine runs_of 3 (by omega) ?_ rfl rfl
  intro i hi
  interval_cases i <;> rfl

/-- The address latch with the low byte masked and the high byte put in. -/
lemma latched_word (lo hi : Byte) : word hi lo = lo.setWidth 16 &&& 0x00FF#16 ||| hi.setWidth 16 <<< 8 := by
  rw [zeroExtend_eq_word lo, and_low_mask, word_lo, ← zeroExtend_eq_word, or_shiftLeft_eq_word]

/-- A byte in the address latch. -/
lemma latched_byte (b : Byte) : (b.setWidth 16).setWidth 8 = b := by
  rw [zeroExtend_eq_word]
  exact word_lo 0#8 b

theorem runs_jsr {cpu : CPU6502 β} (ht : cpu.cpuStep = .T1) : Runs .jsr cpu cpu.arch.jsr := by
  simp only [Arch.jsr, Arch.pushWord_eq, Arch.push_eq, latched_word]
  obtain ⟨bus, a, x, y, pc, sp, p, step, phase, al, ea, pcr, ir, bo, bt, hl, ra, aa, ab, af, ac,
    ao⟩ := cpu
  cases ht
  refine runs_of 4 (by omega) ?_ rfl rfl
  intro i hi
  interval_cases i <;> rfl

theorem runs_rts {cpu : CPU6502 β} (ht : cpu.cpuStep = .T1) : Runs .rts cpu cpu.arch.rts := by
  simp only [Arch.rts, Arch.pullWord, Arch.pull_eq, latched_word]
  obtain ⟨bus, a, x, y, pc, sp, p, step, phase, al, ea, pcr, ir, bo, bt, hl, ra, aa, ab, af, ac,
    ao⟩ := cpu
  cases ht
  refine runs_of 4 (by omega) ?_ rfl rfl
  intro i hi
  interval_cases i <;> rfl

theorem runs_rti {cpu : CPU6502 β} (ht : cpu.cpuStep = .T1) : Runs .rti cpu cpu.arch.rti := by
  simp only [Arch.rti, Arch.pullWord, Arch.pull_eq, ← or_shiftLeft_eq_word]
  obtain ⟨bus, a, x, y, pc, sp, p, step, phase, al, ea, pcr, ir, bo, bt, hl, ra, aa, ab, af, ac,
    ao⟩ := cpu
  cases ht
  refine runs_of 4 (by omega) ?_ rfl rfl
  intro i hi
  interval_cases i <;> rfl

theorem runs_brk {cpu : CPU6502 β} (ht : cpu.cpuStep = .T1) :
    Runs .brk cpu (setLiveB cpu.arch.brk) := by
  simp only [Arch.brk, Arch.pushWord_eq, Arch.push_eq, ← or_shiftLeft_eq_word]
  obtain ⟨bus, a, x, y, pc, sp, p, step, phase, al, ea, pcr, ir, bo, bt, hl, ra, aa, ab, af, ac,
    ao⟩ := cpu
  cases ht
  refine runs_of 5 (by omega) ?_ rfl rfl
  intro i hi
  interval_cases i <;> rfl

theorem runs_pha {cpu : CPU6502 β} (ht : cpu.cpuStep = .T1) (hir : cpu.ir = cOpPHA) :
    Runs .impliedPush cpu (Isa.exec .PHA .implied cpu.arch) := by
  simp only [Isa.exec, Arch.push_eq]
  obtain ⟨bus, a, x, y, pc, sp, p, step, phase, al, ea, pcr, ir, bo, bt, hl, ra, aa, ab, af, ac,
    ao⟩ := cpu
  cases ht
  cases hir
  refine runs_of 1 (by omega) ?_ rfl rfl
  intro i hi
  interval_cases i
  rfl

theorem runs_php {cpu : CPU6502 β} (ht : cpu.cpuStep = .T1) (hir : cpu.ir = cOpPHP) :
    Runs .impliedPush cpu (setLiveB (Isa.exec .PHP .implied cpu.arch)) := by
  simp only [Isa.exec, Arch.push_eq]
  obtain ⟨bus, a, x, y, pc, sp, p, step, phase, al, ea, pcr, ir, bo, bt, hl, ra, aa, ab, af, ac,
    ao⟩ := cpu
  cases ht
  cases hir
  refine runs_of 1 (by omega) ?_ rfl rfl
  intro i hi
  interval_cases i
  rfl

theorem runs_pla {cpu : CPU6502 β} (ht : cpu.cpuStep = .T1) (hir : cpu.ir = cOpPLA) :
    Runs .impliedPull cpu (Isa.exec .PLA .implied cpu.arch) := by
  have hset : ∀ (v : Byte) (s : Arch β), s.setA v = { s with
      a := (v.setWidth 16).setWidth 8
      p := { s.p with
        z := aluZero ((v.setWidth 16).setWidth 8)
        n := aluNegative ((v.setWidth 16).setWidth 8) } } :=
    fun v s => Arch.set_alu (fun v => { s with a := v }) (latched_byte v)
  simp only [Isa.exec, Arch.pull_eq, hset]
  obtain ⟨bus, a, x, y, pc, sp, p, step, phase, al, ea, pcr, ir, bo, bt, hl, ra, aa, ab, af, ac,
    ao⟩ := cpu
  cases ht
  cases hir
  refine runs_of 2 (by omega) ?_ rfl rfl
  intro i hi
  interval_cases i <;> rfl

theorem runs_plp {cpu : CPU6502 β} (ht : cpu.cpuStep = .T1) (hir : cpu.ir = cOpPLP) :
    Runs .impliedPull cpu (Isa.exec .PLP .implied cpu.arch) := by
  have hlo : ∀ b : Byte, PFlags.ofByte b = PFlags.ofByte ((b.setWidth 16).setWidth 8) := by
    intro b
    rw [latched_byte]
  simp only [Isa.exec, Arch.pull_eq]
  rw [hlo]
  obtain ⟨bus, a, x, y, pc, sp, p, step, phase, al, ea, pcr, ir, bo, bt, hl, ra, aa, ab, af, ac,
    ao⟩ := cpu
  cases ht
  cases hir
  refine runs_of 2 (by omega) ?_ rfl rfl
  intro i hi
  interval_cases i <;> rfl

end CPU6502

end Sys6
