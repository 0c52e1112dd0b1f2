import Sys6.Proofs.ControlFlow
import Sys6.Proofs.OpcodeTable
import Sys6.Proofs.Progress

/-!
# Cycle counts

The T-states of a handler are counted from what its commits do to the step counter. With the
opcode fetch they are the cycles of the row in the manual.
-/

namespace Sys6

open Isa (Mnemonic Mode Operand Arch CycleNote)

namespace Isa.Arch

variable {β : Type} [BusLike β]

/-- The addresses are on different pages. -/
def crosses (base target : Word) : Bool := base.hi != target.hi

/-- What the note of a row adds, once the operand bytes are read. -/
def extraCycles (s : Arch β) (mn : Mnemonic) (o : Operand) : CycleNote → Nat
  | .none => 0
  | .pageCross =>
    match o with
    | .absoluteX w | .absoluteY w => if crosses w (s.address o).1 then 1 else 0
    | .indirectY b => if crosses (s.pointer b).1 (s.address o).1 then 1 else 0
    | _ => 0
  | .branch =>
    match o with
    | .relative d =>
      if CPU6502.taken s.p mn then if crosses s.pc (s.pc + d.signExtend 16) then 2 else 1 else 0
    | _ => 0

/-- The cycles of the coming instruction; two for an opcode the manual does not list. -/
def cycles (s : Arch β) : Nat :=
  match manual.find? fun row => row.opcode = s.fetch.1 with
  | none => 2
  | some row =>
    let o := s.fetch.2.fetchOperand row.mode
    row.cycles + o.2.extraCycles row.mnemonic o.1 row.note

end Isa.Arch

namespace CPU6502

variable {β : Type} [BusLike β]

lemma iterate_tick_four {cpu : CPU6502 β} (h : cpu.clockPhase = .Low) (n : Nat) :
    tick^[4 * n] cpu = cycle^[n] cpu ∧ (cycle^[n] cpu).clockPhase = .Low := by
  induction n with
  | zero => exact ⟨rfl, h⟩
  | succ n ih =>
    rw [show 4 * (n + 1) = 4 + 4 * n by omega, Function.iterate_add_apply, ih.1,
      Function.iterate_succ_apply' cycle]
    exact ⟨tick_four ih.2, clockPhase_cycle _⟩

lemma rounds_tick {cpu : CPU6502 β} (h : cpu.clockPhase = .Low) {n : Nat}
    (hr : Rounds cycle done n cpu) : Rounds tick atBoundary (4 * n) cpu := by
  have hbound : ∀ j, (cycle^[j] cpu).atBoundary = (cycle^[j] cpu).done := by
    intro j
    unfold atBoundary done
    rw [(iterate_tick_four h j).2]
    simp
  refine ⟨by have := hr.pos; omega, ?_, ?_⟩
  · rw [(iterate_tick_four h n).1, hbound]
    exact hr.ends
  · intro i h0 hi
    obtain ⟨htick, hlow⟩ := iterate_tick_four h (i / 4)
    have hsplit : tick^[i] cpu = tick^[i % 4] (cycle^[i / 4] cpu) := by
      rw [← htick, ← Function.iterate_add_apply]
      congr 1
      omega
    rw [hsplit]
    rcases Nat.eq_zero_or_pos (i % 4) with hz | hp
    · rw [hz]
      exact (hbound _).trans (hr.before (i / 4) (by omega) (by omega))
    · exact atBoundary_between hlow hp (by omega)

/-- The fetch and the cycles of the handler. -/
lemma rounds_cycle {cpu : CPU6502 β} (hs : cpu.Settled) {h : Handler}
    (hh : captureHandler cpu.fetched.ir = some h) {n : Nat}
    (hr : Rounds h.cycle done n cpu.fetched) : Rounds cycle done (n + 1) cpu := by
  have hfirst := cycle_settled hs
  refine .next ?_ ?_
  · rw [hfirst]
    rfl
  · rw [hfirst]
    refine Rounds.congr (fun c => c.Running ∧ captureHandler c.ir = some h)
      (fun c hc => cycle_eq_handlerCycle hc.1 hc.2) ?_ ⟨⟨by simp [fetched], hs.resetActive⟩, hh⟩ hr
    rintro c ⟨hrun, hir⟩ hd
    have hseq := sequencer_handlerCycle h c
    refine ⟨⟨fun h0 => ?_, (congrArg Sequencer.resetActive hseq).trans hrun.resetActive⟩, ?_⟩
    · simp [done, h0] at hd
    · rw [show (h.cycle c).ir = c.ir from congrArg Sequencer.ir hseq]
      exact hir

end CPU6502

namespace Handler

/-- The T-states after the opcode fetch, when no page is crossed and no branch taken. -/
def tstates : Handler → Nat
  | .readImmediate | .loadImmediate | .shiftAccumulator | .impliedIncDec | .impliedTransfer
  | .impliedFlagOp | .nop | .branch => 1
  | .readZeroPage | .loadZeroPage | .storeZeroPage | .jmpAbsolute | .impliedPush => 2
  | .readAbsolute | .readZeroPageX | .readAbsoluteX | .readAbsoluteY | .loadAbsolute
  | .loadZeroPageX | .loadZeroPageY | .loadAbsoluteX | .loadAbsoluteY | .storeZeroPageX
  | .storeZeroPageY | .storeAbsolute | .impliedPull => 3
  | .readIndirectY | .loadIndirectY | .rmwZeroPage | .storeAbsoluteX | .storeAbsoluteY
  | .jmpIndirect => 4
  | .readIndirectX | .loadIndirectX | .rmwZeroPageX | .rmwAbsolute | .storeIndirectX
  | .storeIndirectY | .jsr | .rts | .rti => 5
  | .rmwAbsoluteX | .brk => 6

/-- The handlers whose T-states depend on more than the opcode. -/
def note : Handler → CycleNote
  | .readAbsoluteX | .readAbsoluteY | .readIndirectY | .loadAbsoluteX | .loadAbsoluteY
  | .loadIndirectY => .pageCross
  | .branch => .branch
  | _ => .none

variable {β : Type} [BusLike β] {cpu : CPU6502 β}

lemma commit_fixed {h : Handler} (hn : h.note = .none) (h1 : 1 ≤ cpu.cpuStep.toNat)
    (h2 : cpu.cpuStep.toNat ≤ h.tstates) :
    (h.commit cpu).cpuStep.toNat =
      if cpu.cpuStep.toNat = h.tstates then 0 else cpu.cpuStep.toNat + 1 := by
  obtain ⟨bus, a, x, y, pc, sp, p, step, phase, al, ea, pcr, ir, bo, bt, hl, ra, aa, ab, af, ac,
    ao⟩ := cpu
  cases h <;> cases step <;>
    first
    | rfl
    | (cases hn; done)
    | (simp only [CpuStep.toNat, tstates] at h1 h2; omega)
    | (simp only [commit, CPU6502.commitImpliedPush, CPU6502.commitImpliedPull, tstates,
         CpuStep.toNat, if_true]
       split_ifs <;> rfl)

lemma commit_crossing {h : Handler} (hn : h.note = .pageCross) (h1 : 1 ≤ cpu.cpuStep.toNat)
    (h2 : cpu.cpuStep.toNat ≤ h.tstates + 1) :
    (h.commit cpu).cpuStep.toNat =
      if cpu.cpuStep.toNat < h.tstates ∨ cpu.cpuStep.toNat = h.tstates ∧ cpu.pageCrossed = true
      then cpu.cpuStep.toNat + 1 else 0 := by
  obtain ⟨bus, a, x, y, pc, sp, p, step, phase, al, ea, pcr, ir, bo, bt, hl, ra, aa, ab, af, ac,
    ao⟩ := cpu
  cases h <;>
    first
    | (cases hn; done)
    | (cases step <;>
        first
        | rfl
        | (simp only [CpuStep.toNat, tstates] at h1 h2; omega)
        | (cases pcr <;> rfl))

omit [BusLike β] in
lemma done_iff (cpu : CPU6502 β) : cpu.done = true ↔ cpu.cpuStep.toNat = 0 := by
  unfold CPU6502.done
  cases cpu.cpuStep <;> simp [CpuStep.toNat]

/-- The commit of a cycle is made in the T-state the cycle began in. -/
lemma cpuStep_before_commit (h : Handler) (cpu : CPU6502 β) :
    (h.capture cpu.rise).fall.cpuStep = cpu.cpuStep :=
  congrArg CPU6502.Core.cpuStep (CPU6502.core_capture h cpu.rise)

/-- One cycle of a handler whose timing is fixed. -/
lemma cycle_fixed {h : Handler} (hn : h.note = .none) (h1 : 1 ≤ cpu.cpuStep.toNat)
    (h2 : cpu.cpuStep.toNat ≤ h.tstates) :
    (h.cycle cpu).cpuStep.toNat =
      if cpu.cpuStep.toNat = h.tstates then 0 else cpu.cpuStep.toNat + 1 := by
  rw [← cpuStep_before_commit h cpu] at h1 h2 ⊢
  exact commit_fixed hn h1 h2

omit [BusLike β] in
lemma not_done_of_pos (h : 0 < cpu.cpuStep.toNat) : cpu.done = false := by
  rw [Bool.eq_false_iff, ne_eq, done_iff]
  omega

lemma rounds_fixed {h : Handler} (hn : h.note = .none) (k : Nat) (h1 : 1 ≤ cpu.cpuStep.toNat)
    (hk : cpu.cpuStep.toNat + k = h.tstates) : Rounds h.cycle CPU6502.done (k + 1) cpu := by
  induction k generalizing cpu with
  | zero =>
    have hc := cycle_fixed hn h1 (by omega)
    rw [if_pos (by omega)] at hc
    exact .last ((done_iff _).mpr hc)
  | succ k ih =>
    have hc := cycle_fixed hn h1 (by omega)
    rw [if_neg (by omega)] at hc
    exact .next (not_done_of_pos (by omega)) (ih (by omega) (by omega))

/-- In its deciding T-state a capture leaves the page-cross latch alone. -/
lemma pageCrossed_capture {h : Handler} (hn : h.note = .pageCross)
    (ht : cpu.cpuStep.toNat = h.tstates) : (h.capture cpu).pageCrossed = cpu.pageCrossed := by
  have hbinary : ∀ (v : Byte) (c : CPU6502 β), (c.applyBinaryAluOp v).pageCrossed = c.pageCrossed :=
    fun v c => congrArg (fun l => l.2.2.2) (CPU6502.latched_applyBinaryAluOp v c)
  obtain ⟨bus, a, x, y, pc, sp, p, step, phase, al, ea, pcr, ir, bo, bt, hl, ra, aa, ab, af, ac,
    ao⟩ := cpu
  cases h <;>
    first
    | (cases hn; done)
    | (cases step <;>
        first
        | (simp only [CpuStep.toNat, tstates] at ht; omega)
        | (cases pcr <;> first | rfl | exact hbinary _ _))

lemma cycle_crossing {h : Handler} (hn : h.note = .pageCross) (h1 : 1 ≤ cpu.cpuStep.toNat)
    (h2 : cpu.cpuStep.toNat ≤ h.tstates + 1) :
    (h.cycle cpu).cpuStep.toNat =
      if cpu.cpuStep.toNat < h.tstates ∨ cpu.cpuStep.toNat = h.tstates ∧ cpu.pageCrossed = true
      then cpu.cpuStep.toNat + 1 else 0 := by
  have hstep := cpuStep_before_commit h cpu
  have hc : (h.cycle cpu).cpuStep.toNat = _ :=
    commit_crossing hn (by rw [hstep]; exact h1) (by rw [hstep]; exact h2)
  rw [hstep] at hc
  rcases Nat.lt_or_ge cpu.cpuStep.toNat h.tstates with hlt | hge
  · rw [hc, if_pos (.inl hlt), if_pos (.inl hlt)]
  rcases Nat.eq_or_lt_of_le hge with heq | hgt
  · have hlatch : (h.capture cpu.rise).fall.pageCrossed = cpu.pageCrossed :=
      pageCrossed_capture hn heq.symm
    rw [hc, hlatch]
  · rw [hc, if_neg (by omega), if_neg (by omega)]

lemma rounds_crossing {h : Handler} (hn : h.note = .pageCross) (k : Nat)
    (h1 : 1 ≤ cpu.cpuStep.toNat) (hk : cpu.cpuStep.toNat + k = h.tstates) :
    Rounds h.cycle CPU6502.done
      (k + 1 + if (h.cycle^[k] cpu).pageCrossed = true then 1 else 0) cpu := by
  induction k generalizing cpu with
  | zero =>
    have hc := cycle_crossing hn h1 (by omega)
    rw [Function.iterate_zero_apply]
    by_cases hp : cpu.pageCrossed = true
    · rw [if_pos (.inr ⟨by omega, hp⟩)] at hc
      rw [if_pos hp]
      refine .next (not_done_of_pos (by omega)) (.last ?_)
      have hc' := cycle_crossing hn (by omega) (by omega : (h.cycle cpu).cpuStep.toNat ≤ _)
      rw [if_neg (by omega)] at hc'
      exact (done_iff _).mpr hc'
    · have hno : ¬(cpu.cpuStep.toNat < h.tstates ∨
          cpu.cpuStep.toNat = h.tstates ∧ cpu.pageCrossed = true) := by
        rintro (hlt | ⟨-, hcross⟩)
        · omega
        · exact hp hcross
      rw [if_neg hno] at hc
      rw [if_neg hp]
      exact .last ((done_iff _).mpr hc)
  | succ k ih =>
    have hc := cycle_crossing hn h1 (by omega)
    rw [if_pos (.inl (by omega))] at hc
    rw [Function.iterate_succ_apply, Nat.add_right_comm (k + 1)]
    exact .next (not_done_of_pos (by omega)) (ih (by omega) (by omega))

end Handler

lemma crosses_eq (base target : Word) :
    (base &&& 0xFF00#16 != target &&& 0xFF00#16) = Isa.Arch.crosses base target := by
  rw [and_high_mask, and_high_mask, Isa.Arch.crosses, Bool.eq_iff_iff, bne_iff_ne, bne_iff_ne]
  simp

lemma pageCrossed_indexedAddress (base : Word) (index : Byte) :
    (indexedAddress base index).pageCrossed =
      Isa.Arch.crosses base (base + index.setWidth 16) :=
  crosses_eq _ _

namespace CPU6502

variable {β : Type} [BusLike β] {cpu : CPU6502 β}

/-- After its address T-states an indexed read has latched whether the index crosses a page. -/
lemma crossed_absoluteIndexed {h : Handler} {r : Reg} (ht : cpu.cpuStep = .T1)
    (hh : (h, r) ∈ [(Handler.readAbsoluteX, Reg.X), (.loadAbsoluteX, .X), (.readAbsoluteY, .Y),
      (.loadAbsoluteY, .Y)]) :
    (h.cycle^[h.tstates - 1] cpu).pageCrossed = Arch.crosses cpu.arch.fetchWord.1
      (cpu.arch.fetchWord.1 + (cpu.reg r).setWidth 16) := by
  rw [← pageCrossed_indexedAddress, Arch.fetchWord_fst]
  obtain ⟨bus, a, x, y, pc, sp, p, step, phase, al, ea, pcr, ir, bo, bt, hl, ra, aa, ab, af, ac,
    ao⟩ := cpu
  cases ht
  simp only [List.mem_cons, Prod.mk.injEq, List.not_mem_nil, or_false] at hh
  rcases hh with ⟨rfl, rfl⟩ | ⟨rfl, rfl⟩ | ⟨rfl, rfl⟩ | ⟨rfl, rfl⟩ <;> rfl

lemma crossed_indirectY {h : Handler} (ht : cpu.cpuStep = .T1)
    (hh : h ∈ [Handler.readIndirectY, .loadIndirectY]) :
    let ptr := cpu.arch.fetch.2.pointer cpu.arch.fetch.1
    (h.cycle^[h.tstates - 1] cpu).pageCrossed = Arch.crosses ptr.1 (ptr.1 + cpu.y.setWidth 16) := by
  intro ptr
  rw [← pageCrossed_indexedAddress, Arch.pointer_fst, ← zeroExtend_eq_word]
  obtain ⟨bus, a, x, y, pc, sp, p, step, phase, al, ea, pcr, ir, bo, bt, hl, ra, aa, ab, af, ac,
    ao⟩ := cpu
  cases ht
  simp only [List.mem_cons, List.not_mem_nil, or_false] at hh
  rcases hh with rfl | rfl <;> rfl

lemma pageCrossed_relativeAddress (base : Word) (offset : Byte) :
    (relativeAddress base offset).pageCrossed = Arch.crosses base (base + offset.signExtend 16) :=
  crosses_eq _ _

lemma rounds_branch_taken (ht : cpu.cpuStep = .T2) :
    Rounds Handler.branch.cycle done
      (if Arch.crosses cpu.pc (cpu.pc + cpu.branchOffset.signExtend 16) then 2 else 1) cpu := by
  rw [← pageCrossed_relativeAddress]
  obtain ⟨bus, a, x, y, pc, sp, p, step, phase, al, ea, pcr, ir, bo, bt, hl, ra, aa, ab, af, ac,
    ao⟩ := cpu
  cases ht
  set c : CPU6502 β := ⟨bus, a, x, y, pc, sp, p, .T2, phase, al, ea, pcr, ir, bo, bt, hl, ra, aa,
    ab, af, ac, ao⟩ with hc
  set d : CPU6502 β := (Handler.branch.capture c.rise).fall with hd
  have hcyc : Handler.branch.cycle c =
      if d.pageCrossed then d.advance .T3 else (d.setPC d.effAddr).advance .T0 := rfl
  have hcross : d.pageCrossed = (relativeAddress c.pc c.branchOffset).pageCrossed := rfl
  rw [hcross] at hcyc
  cases hp : (relativeAddress c.pc c.branchOffset).pageCrossed with
  | false =>
    rw [hp] at hcyc
    exact .last (by rw [hcyc]; rfl)
  | true =>
    rw [hp] at hcyc
    exact .next (by rw [hcyc]; rfl) (.last (by rw [hcyc]; rfl))

/-- A branch takes one T-state, one more when taken, and one more to another page. -/
lemma rounds_branch (ht : cpu.cpuStep = .T1) :
    Rounds Handler.branch.cycle done
      (1 + if evaluateBranchCondition cpu.ir cpu.pFlags.c cpu.pFlags.z cpu.pFlags.n cpu.pFlags.v then
          if Arch.crosses (cpu.pc + 1#16) (cpu.pc + 1#16 + cpu.arch.fetch.1.signExtend 16) then 2
          else 1
        else 0) cpu := by
  obtain ⟨bus, a, x, y, pc, sp, p, step, phase, al, ea, pcr, ir, bo, bt, hl, ra, aa, ab, af, ac,
    ao⟩ := cpu
  cases ht
  set c : CPU6502 β := ⟨bus, a, x, y, pc, sp, p, .T1, phase, al, ea, pcr, ir, bo, bt, hl, ra, aa,
    ab, af, ac, ao⟩ with hc
  have hstep : (Handler.branch.cycle c).cpuStep =
      if evaluateBranchCondition ir p.c p.z p.n p.v then .T2 else .T0 := rfl
  cases hb : evaluateBranchCondition ir p.c p.z p.n p.v with
  | false =>
    rw [hb] at hstep
    exact .last (by simp [done, hstep])
  | true =>
    rw [hb] at hstep
    have hr := rounds_branch_taken hstep
    have hpc : (Handler.branch.cycle c).pc = c.pc + 1#16 := rfl
    have hoffset : (Handler.branch.cycle c).branchOffset = c.arch.fetch.1 := rfl
    rw [hpc, hoffset] at hr
    rw [if_pos rfl, Nat.add_comm]
    exact .next (by simp [done, hstep]) hr

/-- The timing of a handler is that of the row. -/
def timingFits (ir : Byte) : Bool :=
  match captureHandler ir, Isa.manual.find? fun row => row.opcode = ir with
  | some h, some row => row.cycles == h.tstates + 1 && row.note == h.note
  | none, none => true
  | _, _ => false

theorem timingFits_all (ir : Byte) : timingFits ir = true := by
  have hrows : ∀ row ∈ Isa.manual, (captureHandler row.opcode).all
      (fun h => row.cycles == h.tstates + 1 && row.note == h.note) = true := by
    decide +kernel
  have hfits := dispatchFits_all ir
  unfold timingFits
  unfold dispatchFits Isa.decode at hfits
  cases hfind : Isa.manual.find? fun row => row.opcode = ir with
  | none =>
    rw [hfind] at hfits
    cases hh : captureHandler ir with
    | none => rfl
    | some h =>
      rw [hh] at hfits
      exact hfits
  | some row =>
    rw [hfind] at hfits
    have hop : row.opcode = ir := by simpa using List.find?_some hfind
    have hrow := hrows row (List.mem_of_find?_eq_some hfind)
    rw [hop] at hrow
    cases hh : captureHandler ir with
    | none =>
      rw [hh] at hfits
      exact hfits
    | some h =>
      rw [hh] at hrow
      exact hrow

/-- The T-states of a handler are the cycles of its row, less the fetch. -/
lemma rounds_handler (ht : cpu.cpuStep = .T1) {h : Handler} {mn : Mnemonic} {mode : Mode}
    (hf : h.fits cpu.ir mn mode = true) :
    let o := cpu.arch.fetchOperand mode
    Rounds h.cycle done (h.tstates + o.2.extraCycles mn o.1 h.note) cpu := by
  intro o
  have h1 : cpu.cpuStep.toNat = 1 := by rw [ht]; rfl
  have hpos : 0 < h.tstates := by cases h <;> decide
  cases hn : h.note with
  | none =>
    have hr : Rounds h.cycle done _ cpu :=
      Handler.rounds_fixed hn (h.tstates - 1) (by omega) (by omega)
    rwa [Nat.sub_add_cancel hpos] at hr
  | pageCross =>
    have hr : Rounds h.cycle done _ cpu :=
      Handler.rounds_crossing hn (h.tstates - 1) (by omega) (by omega)
    rw [Nat.sub_add_cancel hpos] at hr
    have hmode : ∀ {m : Mode} {b : Bool}, (mode == m && b) = true → mode = m := by
      intro m b hb
      rw [Bool.and_eq_true, beq_iff_eq] at hb
      exact hb.1
    cases h with
    | readAbsoluteX | loadAbsoluteX =>
      rw [crossed_absoluteIndexed (r := .X) ht (by decide)] at hr
      obtain rfl := hmode hf
      exact hr
    | readAbsoluteY | loadAbsoluteY =>
      rw [crossed_absoluteIndexed (r := .Y) ht (by decide)] at hr
      obtain rfl := hmode hf
      exact hr
    | readIndirectY | loadIndirectY =>
      rw [crossed_indirectY ht (by decide)] at hr
      obtain rfl := hmode hf
      exact hr
    | _ => cases hn
  | branch =>
    have hbranch : h = .branch := by cases h <;> first | rfl | cases hn
    subst hbranch
    have hr := rounds_branch ht
    simp only [Handler.fits, Bool.and_eq_true, beq_iff_eq, decide_eq_true_eq] at hf
    obtain ⟨rfl, hmem⟩ := hf
    rw [branchCondition_eq hmem] at hr
    exact hr

/-- The loop of `executeInstruction` makes four ticks for each cycle of the manual, no more and
no fewer, from every settled state and on every bus. -/
theorem instruction_cycles {cpu : CPU6502 β} (hs : cpu.Settled) :
    executeInstruction (4 * cpu.arch.cycles) cpu = some (tick^[4 * cpu.arch.cycles] cpu) ∧
      ∀ fuel, fuel < 4 * cpu.arch.cycles → executeInstruction fuel cpu = none := by
  suffices hr : Rounds tick atBoundary (4 * cpu.arch.cycles) cpu from
    ⟨hr.doWhile_eq, fun fuel => hr.doWhile_none⟩
  refine rounds_tick hs.clockPhase ?_
  have hfits := dispatchFits_all cpu.fetched.ir
  have htiming := timingFits_all cpu.fetched.ir
  have hop : cpu.arch.fetch.1 = cpu.fetched.ir := rfl
  unfold dispatchFits at hfits
  unfold timingFits at htiming
  unfold Arch.cycles
  rw [hop]
  cases hh : captureHandler cpu.fetched.ir with
  | none =>
    cases hrow : Isa.manual.find? fun row => row.opcode = cpu.fetched.ir with
    | some row => simp [hh, hrow] at htiming
    | none =>
      have hfirst := cycle_settled hs
      refine .next (by rw [hfirst]; rfl) (.last ?_)
      rw [hfirst, cycle_unlisted hs hh]
      rfl
  | some h =>
    cases hrow : Isa.manual.find? fun row => row.opcode = cpu.fetched.ir with
    | none => simp [hh, hrow] at htiming
    | some row =>
      have hd : Isa.decode cpu.fetched.ir = some (row.mnemonic, row.mode) := by
        rw [Isa.decode, hrow]
        rfl
      simp only [hh, hrow, Bool.and_eq_true, beq_iff_eq] at htiming
      simp only [hh, hd, Bool.and_eq_true] at hfits
      obtain ⟨hcycles, hnote⟩ := htiming
      have hr := rounds_cycle hs hh (rounds_handler rfl hfits.1)
      dsimp only
      rw [hcycles, hnote, Nat.add_right_comm]
      exact hr

/-- `LDA $B9B9,Y` with `$FF` in Y crosses a page. -/
theorem instruction_cycles_lda :
    ({ bus := fun _ => 0xB9#8, y := 0xFF#8 } : CPU6502 (Word → Byte)).arch.cycles = 5 ∧
    executeInstruction 20 ({ bus := fun _ => 0xB9#8, y := 0xFF#8 } : CPU6502 (Word → Byte)) =
      some (tick^[20] ({ bus := fun _ => 0xB9#8, y := 0xFF#8 } : CPU6502 (Word → Byte))) ∧
    ∀ fuel, fuel < 20 →
      executeInstruction fuel ({ bus := fun _ => 0xB9#8, y := 0xFF#8 } : CPU6502 (Word → Byte)) = none := by
  have hc : ({ bus := fun _ => 0xB9#8, y := 0xFF#8 } : CPU6502 (Word → Byte)).arch.cycles = 5 := by
    decide
  have hs : ({ bus := fun _ => 0xB9#8, y := 0xFF#8 } : CPU6502 (Word → Byte)).Settled := ⟨rfl, rfl, rfl⟩
  have h := instruction_cycles hs
  rw [hc] at h
  exact ⟨hc, h⟩

end CPU6502

end Sys6
