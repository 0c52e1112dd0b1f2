import Sys6.Proofs.Cycle

/-!
# The addressing modes of an operand read

`use` is what the capture handler does with the operand, `finish` what the commit handler
does in the last T-state. A mode delivers its operand: after the address T-states the
instruction ends with `use` and `finish` on a CPU that has read what the reference reads.
-/

namespace Sys6

variable {β : Type}

namespace Isa.Arch

variable [BusLike β]

lemma fetchWord_fst (s : Arch β) :
    s.fetchWord.1 = s.fetch.1.setWidth 16 ||| s.fetch.2.fetch.1.setWidth 16 <<< 8 :=
  (or_shiftLeft_eq_word _ _).symm

lemma pointer_fst (b : Byte) (s : Arch β) :
    (s.pointer b).1 =
      (s.read (word 0#8 b)).1.setWidth 16 |||
        ((s.read (word 0#8 b)).2.read ((word 0#8 b + 1#16) &&& 0xFF#16)).1.setWidth 16 <<< 8 := by
  rw [or_shiftLeft_eq_word, word_zero_succ_and]
  rfl

lemma pointer_snd (b : Byte) (s : Arch β) :
    (s.pointer b).2 =
      ((s.read (word 0#8 b)).2.read ((word 0#8 b + 1#16) &&& 0xFF#16)).2 := by
  rw [word_zero_succ_and]
  rfl

end Isa.Arch

namespace CPU6502

lemma doWhile_last {body : CPU6502 β → CPU6502 β} (n : Nat) {cpu cpu' : CPU6502 β}
    (h : body cpu = cpu'.advance .T0) :
    doWhile body done (n + 1) cpu = some (cpu'.advance .T0) := by
  rw [doWhile_succ, h, if_pos (done_advance cpu')]

lemma doWhile_pass {body : CPU6502 β → CPU6502 β} (n : Nat) {cpu cpu' : CPU6502 β}
    (h : body cpu = cpu') (hd : cpu'.done = false) :
    doWhile body done (n + 1) cpu = doWhile body done n cpu' := by
  rw [doWhile_succ, h, hd, if_neg (by simp)]

lemma addrLatch_applyUnaryAluOp (v : Byte) (cpu : CPU6502 β) :
    (cpu.applyUnaryAluOp v).addrLatch = cpu.addrLatch :=
  congrArg (fun l => l.2.1) (latched_applyUnaryAluOp v cpu)

lemma effAddr_applyUnaryAluOp (v : Byte) (cpu : CPU6502 β) :
    (cpu.applyUnaryAluOp v).effAddr = cpu.effAddr :=
  congrArg (fun l => l.2.2.1) (latched_applyUnaryAluOp v cpu)

variable [BusLike β]

/-- The CPU that has read the byte at `addr` with its clock up. -/
def readAt (addr : Word) (cpu : CPU6502 β) : CPU6502 β :=
  { cpu.rise with bus := (BusLike.read cpu.bus addr).2 }

/-- One cycle of a pair of handlers. -/
def cycleOf (capture commit : CPU6502 β → CPU6502 β) (cpu : CPU6502 β) : CPU6502 β :=
  commit (capture cpu.rise).fall

section Operand

variable (use : Byte → CPU6502 β → CPU6502 β) (finish : CPU6502 β → CPU6502 β)

/-- The end of an instruction that works on the operand `r.1`, on the bus of `r.2`. -/
def Delivers (cpu : CPU6502 β) (r : Byte × Isa.Arch β) (out : Option (CPU6502 β)) : Prop :=
  ∃ c : CPU6502 β, c.arch = r.2 ∧ c.ir = cpu.ir ∧
    out = some ((finish (use r.1 c).fall).advance .T0)

variable {use finish} (huse : ∀ v c, (use v c).latched = c.latched)
include huse

/-- After `n` address T-states the CPU is in T-state `t`, which reads `addr` and finishes. -/
lemma delivers_of {capture commit : CPU6502 β → CPU6502 β} (n k : Nat) (cpu : CPU6502 β)
    (addr : Word) {r : Byte × Isa.Arch β}
    (hskip : ∀ i, i < n → done ((cycleOf capture commit)^[i + 1] cpu) = false)
    (hcap : let c := (cycleOf capture commit)^[n] cpu
      capture c.rise = c.rise.busRead addr use)
    (hcommit : let c := (cycleOf capture commit)^[n] cpu
      ∀ c' : CPU6502 β, c'.cpuStep = c.cpuStep → c'.pageCrossed = c.pageCrossed →
        commit c' = (finish c').advance .T0)
    (hir : ((cycleOf capture commit)^[n] cpu).ir = cpu.ir)
    (hr : ((cycleOf capture commit)^[n] cpu).arch.read addr = r) :
    Delivers use finish cpu r (doWhile (cycleOf capture commit) done (n + (k + 1)) cpu) := by
  subst hr
  set c := (cycleOf capture commit)^[n] cpu with hn
  refine ⟨c.readAt addr, rfl, hir, ?_⟩
  rw [doWhile_skip _ done n (k + 1) cpu hskip, ← hn]
  apply doWhile_last
  have hl := huse (c.arch.read addr).1 (c.readAt addr)
  have hc : capture c.rise = use (c.arch.read addr).1 (c.readAt addr) := hcap
  unfold cycleOf
  rw [hc]
  apply hcommit
  · exact congrArg Core.cpuStep (core_of_latched hl)
  · exact congrArg (fun l => l.2.2.2) hl

/-- As `delivers_of`, where T-state `t` is a wait after a page cross and `t'` reads then. -/
lemma delivers_crossing {capture commit : CPU6502 β → CPU6502 β} (n k : Nat) (cpu : CPU6502 β)
    (addr : Word) (t' : CpuStep) {r : Byte × Isa.Arch β}
    (hskip : ∀ i, i < n → done ((cycleOf capture commit)^[i + 1] cpu) = false)
    (hcap : let c := (cycleOf capture commit)^[n] cpu
      capture c.rise = if !c.pageCrossed then c.rise.busRead addr use else c.rise)
    (hcommit : let c := (cycleOf capture commit)^[n] cpu
      ∀ c' : CPU6502 β, c'.cpuStep = c.cpuStep →
        commit c' = if c'.pageCrossed then c'.advance t' else (finish c').advance .T0)
    (hcap' : let c := ((cycleOf capture commit)^[n] cpu).rise.fall.advance t'
      capture c.rise = c.rise.busRead addr use)
    (hcommit' : ∀ c' : CPU6502 β, c'.cpuStep = t' → commit c' = (finish c').advance .T0)
    (ht' : (t' == CpuStep.T0) = false)
    (hir : ((cycleOf capture commit)^[n] cpu).ir = cpu.ir)
    (hr : ((cycleOf capture commit)^[n] cpu).arch.read addr = r) :
    Delivers use finish cpu r (doWhile (cycleOf capture commit) done (n + (k + 2)) cpu) := by
  set c := (cycleOf capture commit)^[n] cpu with hn
  dsimp only at hcap hcommit hcap'
  cases hcross : c.pageCrossed with
  | false =>
    refine delivers_of huse n (k + 1) cpu addr hskip ?_ ?_ hir hr
    · dsimp only
      rw [← hn, hcap, hcross]
      rfl
    · intro _ c' hstep hp
      rw [hcommit c' hstep, hp, hcross]
      rfl
  | true =>
    have hwait : cycleOf capture commit c = c.rise.fall.advance t' := by
      have hcap0 : capture c.rise = c.rise := by
        rw [hcap, hcross]
        rfl
      unfold cycleOf
      rw [hcap0, hcommit c.rise.fall rfl]
      exact if_pos hcross
    have hnext : (cycleOf capture commit)^[n + 1] cpu = c.rise.fall.advance t' := by
      rw [Function.iterate_succ_apply', ← hn, hwait]
    rw [show n + (k + 2) = (n + 1) + (k + 1) by omega]
    refine delivers_of huse (n + 1) k cpu addr ?_ ?_ ?_ ?_ ?_
    · intro i hi
      rcases Nat.lt_succ_iff_lt_or_eq.mp hi with hi | rfl
      · exact hskip i hi
      · rw [hnext]
        exact ht'
    · rw [hnext]
      exact hcap'
    · rw [hnext]
      intro _ c' hstep _
      exact hcommit' c' hstep
    · rw [hnext]
      exact hir
    · rw [hnext]
      exact hr

lemma delivers_immediate (hinc : ∀ v c, use v (incPC c) = (use v c).incPC) (cpu : CPU6502 β) :
    Delivers use finish cpu cpu.arch.fetch
      (doWhile (cycleOf (captureImmediate use) (commitImmediate finish)) done 6 cpu) := by
  obtain ⟨c, harch, hir, hout⟩ : Delivers use (fun c => finish c.incPC) cpu (cpu.arch.read cpu.pc)
      (doWhile (cycleOf (captureImmediate use) (commitImmediate finish)) done 6 cpu) :=
    delivers_of huse 0 5 cpu cpu.pc (fun i hi => absurd hi (by omega)) rfl (fun _ _ _ => rfl) rfl
      rfl
  refine ⟨c.incPC, ?_, hir, ?_⟩
  · have hpc : c.arch.pc = cpu.pc := by
      rw [harch]
      rfl
    show ({ c.arch with pc := c.arch.pc + 1#16 } : Isa.Arch β) = cpu.arch.fetch.2
    rw [hpc, harch]
    rfl
  · rw [hout, hinc]
    rfl

lemma delivers_zeroPage {cpu : CPU6502 β} (ht : cpu.cpuStep = .T1) :
    Delivers use finish cpu (cpu.arch.fetch.2.read (word 0#8 cpu.arch.fetch.1))
      (doWhile (cycleOf (captureZeroPage use) (commitZeroPage finish)) done 6 cpu) := by
  rw [← zeroExtend_eq_word]
  obtain ⟨bus, a, x, y, pc, sp, p, step, phase, al, ea, pcr, ir, bo, bt, hl, ra, aa, ab, af, ac,
    ao⟩ := cpu
  cases ht
  refine delivers_of huse 1 4 _ _ ?_ rfl ?_ rfl rfl
  · intro i hi
    interval_cases i
    rfl
  · rintro c c' (hc : c'.cpuStep = .T2) -
    simp only [commitZeroPage, hc]

lemma delivers_zeroPageIndexed (r : Reg) {cpu : CPU6502 β} (ht : cpu.cpuStep = .T1) :
    Delivers use finish cpu
      (cpu.arch.fetch.2.read (word 0#8 (cpu.arch.fetch.1 + cpu.reg r)))
      (doWhile (cycleOf (captureZeroPageIndexed use (fun c => c.reg r))
        (commitZeroPageIndexed finish)) done 6 cpu) := by
  rw [← word_zero_add_and, ← zeroExtend_eq_word]
  obtain ⟨bus, a, x, y, pc, sp, p, step, phase, al, ea, pcr, ir, bo, bt, hl, ra, aa, ab, af, ac,
    ao⟩ := cpu
  cases ht
  refine delivers_of huse 2 3 _ _ ?_ rfl ?_ rfl rfl
  · intro i hi
    interval_cases i <;> rfl
  · rintro c c' (hc : c'.cpuStep = .T3) -
    simp only [commitZeroPageIndexed, hc]

lemma delivers_absolute {cpu : CPU6502 β} (ht : cpu.cpuStep = .T1) :
    Delivers use finish cpu (cpu.arch.fetchWord.2.read cpu.arch.fetchWord.1)
      (doWhile (cycleOf (captureAbsolute use) (commitAbsolute finish)) done 6 cpu) := by
  rw [Isa.Arch.fetchWord_fst]
  obtain ⟨bus, a, x, y, pc, sp, p, step, phase, al, ea, pcr, ir, bo, bt, hl, ra, aa, ab, af, ac,
    ao⟩ := cpu
  cases ht
  refine delivers_of huse 2 3 _ _ ?_ rfl ?_ rfl rfl
  · intro i hi
    interval_cases i <;> rfl
  · rintro c c' (hc : c'.cpuStep = .T3) -
    simp only [commitAbsolute, hc]

lemma delivers_absoluteIndexed (r : Reg) {cpu : CPU6502 β} (ht : cpu.cpuStep = .T1) :
    Delivers use finish cpu
      (cpu.arch.fetchWord.2.read (cpu.arch.fetchWord.1 + (cpu.reg r).setWidth 16))
      (doWhile (cycleOf (captureAbsoluteIndexed use (fun c => c.reg r))
        (commitAbsoluteIndexed finish)) done 6 cpu) := by
  rw [Isa.Arch.fetchWord_fst]
  obtain ⟨bus, a, x, y, pc, sp, p, step, phase, al, ea, pcr, ir, bo, bt, hl, ra, aa, ab, af, ac,
    ao⟩ := cpu
  cases ht
  refine delivers_crossing huse 2 2 _ _ .T4 ?_ rfl ?_ rfl ?_ rfl rfl rfl
  · intro i hi
    interval_cases i <;> rfl
  · rintro c c' (hc : c'.cpuStep = .T3)
    simp only [commitAbsoluteIndexed, hc]
  · intro c' hc
    simp only [commitAbsoluteIndexed, hc]

lemma delivers_indirectX {cpu : CPU6502 β} (ht : cpu.cpuStep = .T1) :
    let ptr := cpu.arch.fetch.2.pointer (cpu.arch.fetch.1 + cpu.x)
    Delivers use finish cpu (ptr.2.read ptr.1)
      (doWhile (cycleOf (captureIndirectX use) (commitIndirectX finish)) done 6 cpu) := by
  intro ptr
  rw [Isa.Arch.pointer_fst, Isa.Arch.pointer_snd, ← word_zero_add_and, ← zeroExtend_eq_word]
  obtain ⟨bus, a, x, y, pc, sp, p, step, phase, al, ea, pcr, ir, bo, bt, hl, ra, aa, ab, af, ac,
    ao⟩ := cpu
  cases ht
  refine delivers_of huse 4 1 _ _ ?_ rfl ?_ rfl rfl
  · intro i hi
    interval_cases i <;> rfl
  · rintro c c' (hc : c'.cpuStep = .T5) -
    simp only [commitIndirectX, hc]

lemma delivers_indirectY {cpu : CPU6502 β} (ht : cpu.cpuStep = .T1) :
    let ptr := cpu.arch.fetch.2.pointer cpu.arch.fetch.1
    Delivers use finish cpu (ptr.2.read (ptr.1 + cpu.y.setWidth 16))
      (doWhile (cycleOf (captureIndirectY use) (commitIndirectY finish)) done 6 cpu) := by
  intro ptr
  rw [Isa.Arch.pointer_fst, Isa.Arch.pointer_snd, ← zeroExtend_eq_word]
  obtain ⟨bus, a, x, y, pc, sp, p, step, phase, al, ea, pcr, ir, bo, bt, hl, ra, aa, ab, af, ac,
    ao⟩ := cpu
  cases ht
  refine delivers_crossing huse 3 1 _ _ .T5 ?_ rfl ?_ rfl ?_ rfl rfl rfl
  · intro i hi
    interval_cases i <;> rfl
  · rintro c c' (hc : c'.cpuStep = .T4)
    simp only [commitIndirectY, hc]
  · intro c' hc
    simp only [commitIndirectY, hc]

end Operand

section Modify

/-- The end of an instruction that rewrites the byte `r.1` it has read at `addr`. -/
def Modifies (cpu : CPU6502 β) (addr : Word) (r : Byte × Isa.Arch β)
    (out : Option (CPU6502 β)) : Prop :=
  ∃ (c : CPU6502 β) (t : CpuStep), c.arch = r.2 ∧ c.ir = cpu.ir ∧
    out = some (((c.applyUnaryAluOp r.1).fall.advance t).commitRmwResult addr)

/-- After `n` address T-states one T-state reads the operand; the ALU holds its output
through the wait `t` up to the T-state `t'` that writes. -/
lemma modifies_of {capture commit : CPU6502 β → CPU6502 β} (n k : Nat) (cpu : CPU6502 β)
    (addr : Word) {r : Byte × Isa.Arch β} (t t' : CpuStep) (target : CPU6502 β → Word)
    (hskip : ∀ i, i < n → done ((cycleOf capture commit)^[i + 1] cpu) = false)
    (hcap : let c := (cycleOf capture commit)^[n] cpu
      capture c.rise = c.rise.busRead addr applyUnaryAluOp)
    (hcommit : ∀ c : CPU6502 β, c.cpuStep = ((cycleOf capture commit)^[n] cpu).cpuStep →
      commit c = c.advance t)
    (ht : (t == CpuStep.T0) = false) (ht' : (t' == CpuStep.T0) = false)
    (hwait : ∀ c : CPU6502 β, cycleOf capture commit (c.fall.advance t) = c.fall.advance t')
    (hlast : ∀ c : CPU6502 β, cycleOf capture commit (c.fall.advance t') =
      (c.fall.advance t').commitRmwResult (target c))
    (htarget : ∀ v c, target (applyUnaryAluOp v c) = target c)
    (hir : ((cycleOf capture commit)^[n] cpu).ir = cpu.ir)
    (haddr : target ((cycleOf capture commit)^[n] cpu) = addr)
    (hread : ∀ c : CPU6502 β, target (c.readAt addr) = target c)
    (hr : ((cycleOf capture commit)^[n] cpu).arch.read addr = r) :
    Modifies cpu addr r (doWhile (cycleOf capture commit) done (n + (k + 3)) cpu) := by
  subst hr
  set c := (cycleOf capture commit)^[n] cpu with hn
  refine ⟨c.readAt addr, t', rfl, hir, ?_⟩
  rw [doWhile_skip _ done n (k + 3) cpu hskip, ← hn]
  have hl := latched_applyUnaryAluOp (c.arch.read addr).1 (c.readAt addr)
  have hc : capture c.rise = (c.readAt addr).applyUnaryAluOp (c.arch.read addr).1 := hcap
  have hcyc : cycleOf capture commit c =
      ((c.readAt addr).applyUnaryAluOp (c.arch.read addr).1).fall.advance t := by
    unfold cycleOf
    rw [hc]
    apply hcommit
    exact congrArg Core.cpuStep (core_of_latched hl)
  rw [doWhile_pass (k + 2) hcyc ht, doWhile_pass (k + 1) (hwait _) ht']
  have hend := hlast ((c.readAt addr).applyUnaryAluOp (c.arch.read addr).1)
  rw [htarget, hread, haddr] at hend
  exact doWhile_last k hend

lemma modifies_zeroPage {cpu : CPU6502 β} (ht : cpu.cpuStep = .T1) :
    let addr := word 0#8 cpu.arch.fetch.1
    Modifies cpu addr (cpu.arch.fetch.2.read addr)
      (doWhile (cycleOf captureRmwZeroPage commitRmwZeroPage) done 6 cpu) := by
  intro addr
  have haddr : addr = cpu.arch.fetch.1.setWidth 16 := (zeroExtend_eq_word _).symm
  rw [haddr]
  obtain ⟨bus, a, x, y, pc, sp, p, step, phase, al, ea, pcr, ir, bo, bt, hl, ra, aa, ab, af, ac,
    ao⟩ := cpu
  cases ht
  refine modifies_of 1 2 _ _ .T3 .T4 addrLatch ?_ rfl ?_ rfl rfl
    (fun _ => rfl) (fun _ => rfl) addrLatch_applyUnaryAluOp rfl rfl (fun _ => rfl) rfl
  · intro i hi
    interval_cases i
    rfl
  · rintro c (hc : c.cpuStep = .T2)
    simp only [commitRmwZeroPage, hc]

lemma modifies_zeroPageX {cpu : CPU6502 β} (ht : cpu.cpuStep = .T1) :
    let addr := word 0#8 (cpu.arch.fetch.1 + cpu.x)
    Modifies cpu addr (cpu.arch.fetch.2.read addr)
      (doWhile (cycleOf captureRmwZeroPageX commitRmwZeroPageX) done 6 cpu) := by
  intro addr
  have haddr : addr = (cpu.arch.fetch.1.setWidth 16 + cpu.x.setWidth 16) &&& 0xFF#16 := by
    rw [zeroExtend_eq_word cpu.arch.fetch.1, word_zero_add_and]
  rw [haddr]
  obtain ⟨bus, a, x, y, pc, sp, p, step, phase, al, ea, pcr, ir, bo, bt, hl, ra, aa, ab, af, ac,
    ao⟩ := cpu
  cases ht
  refine modifies_of 2 1 _ _ .T4 .T5 addrLatch ?_ rfl ?_ rfl rfl
    (fun _ => rfl) (fun _ => rfl) addrLatch_applyUnaryAluOp rfl rfl (fun _ => rfl) rfl
  · intro i hi
    interval_cases i <;> rfl
  · rintro c (hc : c.cpuStep = .T3)
    simp only [commitRmwZeroPageX, hc]

lemma modifies_absolute {cpu : CPU6502 β} (ht : cpu.cpuStep = .T1) :
    Modifies cpu cpu.arch.fetchWord.1 (cpu.arch.fetchWord.2.read cpu.arch.fetchWord.1)
      (doWhile (cycleOf captureRmwAbsolute commitRmwAbsolute) done 6 cpu) := by
  rw [Isa.Arch.fetchWord_fst]
  obtain ⟨bus, a, x, y, pc, sp, p, step, phase, al, ea, pcr, ir, bo, bt, hl, ra, aa, ab, af, ac,
    ao⟩ := cpu
  cases ht
  refine modifies_of 2 1 _ _ .T4 .T5 addrLatch ?_ rfl ?_ rfl rfl
    (fun _ => rfl) (fun _ => rfl) addrLatch_applyUnaryAluOp rfl rfl (fun _ => rfl) rfl
  · intro i hi
    interval_cases i <;> rfl
  · rintro c (hc : c.cpuStep = .T3)
    simp only [commitRmwAbsolute, hc]

lemma modifies_absoluteX {cpu : CPU6502 β} (ht : cpu.cpuStep = .T1) :
    let addr := cpu.arch.fetchWord.1 + cpu.x.setWidth 16
    Modifies cpu addr (cpu.arch.fetchWord.2.read addr)
      (doWhile (cycleOf captureRmwAbsoluteX commitRmwAbsoluteX) done 6 cpu) := by
  dsimp only
  rw [Isa.Arch.fetchWord_fst]
  obtain ⟨bus, a, x, y, pc, sp, p, step, phase, al, ea, pcr, ir, bo, bt, hl, ra, aa, ab, af, ac,
    ao⟩ := cpu
  cases ht
  refine modifies_of 3 0 _ _ .T5 .T6 effAddr ?_ rfl ?_ rfl rfl
    (fun _ => rfl) (fun _ => rfl) effAddr_applyUnaryAluOp rfl rfl (fun _ => rfl) rfl
  · intro i hi
    interval_cases i <;> rfl
  · rintro c (hc : c.cpuStep = .T4)
    simp only [commitRmwAbsoluteX, hc]

end Modify

section Store

/-- The end of an instruction that writes a register to `addr`, on the bus of `s`. -/
def Stores (cpu : CPU6502 β) (addr : Word) (s : Isa.Arch β) (out : Option (CPU6502 β)) : Prop :=
  ∃ c : CPU6502 β, c.arch = s ∧ c.ir = cpu.ir ∧
    out = some ((c.busWrite addr c.storeSourceValue).advance .T0)

/-- After `n` address T-states one T-state writes. -/
lemma stores_of {capture commit : CPU6502 β → CPU6502 β} (n k : Nat) (cpu : CPU6502 β)
    (addr : Word) {s : Isa.Arch β}
    (hskip : ∀ i, i < n → done ((cycleOf capture commit)^[i + 1] cpu) = false)
    (hwrite : let c := ((cycleOf capture commit)^[n] cpu)
      cycleOf capture commit c =
        (c.rise.fall.busWrite addr c.rise.fall.storeSourceValue).advance .T0)
    (hir : ((cycleOf capture commit)^[n] cpu).ir = cpu.ir)
    (hs : ((cycleOf capture commit)^[n] cpu).arch = s) :
    Stores cpu addr s (doWhile (cycleOf capture commit) done (n + (k + 1)) cpu) := by
  refine ⟨((cycleOf capture commit)^[n] cpu).rise.fall, hs, hir, ?_⟩
  rw [doWhile_skip _ done n (k + 1) cpu hskip]
  exact doWhile_last k hwrite

lemma stores_zeroPage {cpu : CPU6502 β} (ht : cpu.cpuStep = .T1) :
    Stores cpu (word 0#8 cpu.arch.fetch.1) cpu.arch.fetch.2
      (doWhile (cycleOf captureStoreZeroPage commitStoreZeroPage) done 6 cpu) := by
  rw [← zeroExtend_eq_word]
  obtain ⟨bus, a, x, y, pc, sp, p, step, phase, al, ea, pcr, ir, bo, bt, hl, ra, aa, ab, af, ac,
    ao⟩ := cpu
  cases ht
  refine stores_of 1 4 _ _ ?_ rfl rfl rfl
  intro i hi
  interval_cases i
  rfl

lemma stores_zeroPageIndexed (r : Reg) {cpu : CPU6502 β} (ht : cpu.cpuStep = .T1) :
    Stores cpu (word 0#8 (cpu.arch.fetch.1 + cpu.reg r)) cpu.arch.fetch.2
      (doWhile (cycleOf (captureStoreZeroPageIndexed (fun c => c.reg r))
        commitStoreZeroPageIndexed) done 6 cpu) := by
  rw [← word_zero_add_and, ← zeroExtend_eq_word]
  obtain ⟨bus, a, x, y, pc, sp, p, step, phase, al, ea, pcr, ir, bo, bt, hl, ra, aa, ab, af, ac,
    ao⟩ := cpu
  cases ht
  refine stores_of 2 3 _ _ ?_ rfl rfl rfl
  intro i hi
  interval_cases i <;> rfl

lemma stores_absolute {cpu : CPU6502 β} (ht : cpu.cpuStep = .T1) :
    Stores cpu cpu.arch.fetchWord.1 cpu.arch.fetchWord.2
      (doWhile (cycleOf captureStoreAbsolute commitStoreAbsolute) done 6 cpu) := by
  rw [Isa.Arch.fetchWord_fst]
  obtain ⟨bus, a, x, y, pc, sp, p, step, phase, al, ea, pcr, ir, bo, bt, hl, ra, aa, ab, af, ac,
    ao⟩ := cpu
  cases ht
  refine stores_of 2 3 _ _ ?_ rfl rfl rfl
  intro i hi
  interval_cases i <;> rfl

lemma stores_absoluteIndexed (r : Reg) {cpu : CPU6502 β} (ht : cpu.cpuStep = .T1) :
    Stores cpu (cpu.arch.fetchWord.1 + (cpu.reg r).setWidth 16) cpu.arch.fetchWord.2
      (doWhile (cycleOf (captureStoreAbsoluteIndexed (fun c => c.reg r))
        commitStoreAbsoluteIndexed) done 6 cpu) := by
  rw [Isa.Arch.fetchWord_fst]
  obtain ⟨bus, a, x, y, pc, sp, p, step, phase, al, ea, pcr, ir, bo, bt, hl, ra, aa, ab, af, ac,
    ao⟩ := cpu
  cases ht
  refine stores_of 3 2 _ _ ?_ rfl rfl rfl
  intro i hi
  interval_cases i <;> rfl

lemma stores_indirectX {cpu : CPU6502 β} (ht : cpu.cpuStep = .T1) :
    let ptr := cpu.arch.fetch.2.pointer (cpu.arch.fetch.1 + cpu.x)
    Stores cpu ptr.1 ptr.2
      (doWhile (cycleOf captureStoreIndirectX commitStoreIndirectX) done 6 cpu) := by
  intro ptr
  rw [Isa.Arch.pointer_fst, Isa.Arch.pointer_snd, ← word_zero_add_and, ← zeroExtend_eq_word]
  obtain ⟨bus, a, x, y, pc, sp, p, step, phase, al, ea, pcr, ir, bo, bt, hl, ra, aa, ab, af, ac,
    ao⟩ := cpu
  cases ht
  refine stores_of 4 1 _ _ ?_ rfl rfl rfl
  intro i hi
  interval_cases i <;> rfl

lemma stores_indirectY {cpu : CPU6502 β} (ht : cpu.cpuStep = .T1) :
    let ptr := cpu.arch.fetch.2.pointer cpu.arch.fetch.1
    Stores cpu (ptr.1 + cpu.y.setWidth 16) ptr.2
      (doWhile (cycleOf captureStoreIndirectY commitStoreIndirectY) done 6 cpu) := by
  intro ptr
  rw [Isa.Arch.pointer_fst, Isa.Arch.pointer_snd, ← zeroExtend_eq_word]
  obtain ⟨bus, a, x, y, pc, sp, p, step, phase, al, ea, pcr, ir, bo, bt, hl, ra, aa, ab, af, ac,
    ao⟩ := cpu
  cases ht
  refine stores_of 4 1 _ _ ?_ rfl rfl rfl
  intro i hi
  interval_cases i <;> rfl

end Store

end CPU6502

end Sys6
