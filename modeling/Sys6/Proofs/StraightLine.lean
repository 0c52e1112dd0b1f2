import Sys6.Isa.RamOn
import Sys6.Proofs.FlagFrame
import Sys6.Proofs.RamMachine

/-!
# Straight-line programs

Programs of loads, stores and arithmetic on fixed addresses. They run over any bus that has RAM
at the operands, wherever the code is and whatever else answers, as they would on a plain memory.
-/

namespace Sys6

namespace Isa

/-- A line of a straight-line program: an instruction alone, or on the byte at an address. -/
inductive Instruction
  | plain (mn : Mnemonic)
  | on (mn : Mnemonic) (addr : Word)
deriving DecidableEq, Repr

/-- What a line does over a plain memory. -/
def Instruction.run (t : Arch (Word → Byte)) : Instruction → Arch (Word → Byte)
  | .plain mn => exec mn .implied t
  | .on mn addr => exec mn (.absolute addr) t

/-- The lines of which arithmetic is made, with their bytes in `P`. -/
def Instruction.Arithmetic (P : Word → Prop) : Instruction → Prop
  | .plain mn => mn ∈ [Mnemonic.CLC, .SEC]
  | .on mn addr => mn ∈ [Mnemonic.LDA, .STA, .ADC, .SBC, .ASL, .ROL, .LSR, .ROR] ∧ P addr

variable {β : Type} [BusLike β] {I : β → Prop} {P : Word → Prop}

/-- The line is the next instruction. The byte of `on` may be addressed in any mode. -/
def Arch.At (s : Arch β) : Instruction → Prop
  | .plain mn => ∃ mode, decode s.fetch.1 = some (mn, mode)
  | .on mn addr => ∃ mode, decode s.fetch.1 = some (mn, mode) ∧ mode ∉ [Mode.immediate, .accumulator] ∧
      ((s.fetch.2.fetchOperand mode).2.address (s.fetch.2.fetchOperand mode).1).1 = addr

/-- The plain memory `t` has the accumulator, the flags and the RAM of `s`. -/
structure Agrees (I : β → Prop) (P : Word → Prop) (s : Arch β) (t : Arch (Word → Byte)) : Prop where
  bus : I s.bus
  a : s.a = t.a
  p : s.p = t.p
  ram : ∀ w, P w → peek s.bus w = t.bus w

namespace Agrees

variable (hram : RamOn I P) {s : Arch β} {t : Arch (Word → Byte)} (h : Agrees I P s t)
include hram h

lemma read (addr : Word) : Agrees I P (s.read addr).2 t where
  bus := hram.read _ _ h.bus
  a := h.a
  p := h.p
  ram w hw := (hram.peek_read _ _ _ h.bus hw).trans (h.ram w hw)

lemma write (addr : Word) (v : Byte) : Agrees I P (s.write addr v) (t.write addr v) where
  bus := hram.write _ _ _ h.bus
  a := h.a
  p := h.p
  ram w hw := by
    show peek (BusLike.write s.bus addr v) w = Function.update t.bus addr v w
    rw [hram.peek_write _ _ _ _ h.bus hw, Function.update_apply, h.ram w hw]

lemma fetch : Agrees I P s.fetch.2 t := by
  obtain ⟨hbus, ha, hp, hmem⟩ := h.read hram s.pc
  exact ⟨hbus, ha, hp, hmem⟩

lemma fetchOperand (mode : Mode) : Agrees I P (s.fetchOperand mode).2 t := by
  cases mode with
  | accumulator | implied => exact h
  | absolute | absoluteX | absoluteY | indirect => exact (h.fetch hram).fetch hram
  | _ => exact h.fetch hram

lemma pointer (b : Byte) : Agrees I P (s.pointer b).2 t := (h.read hram _).read hram _

lemma address (o : Operand) : Agrees I P (s.address o).2 t := by
  cases o with
  | indirectX b | indirectY b => exact h.pointer hram _
  | indirect w => exact (h.read hram _).read hram _
  | _ => exact h

end Agrees

/-- An operand that is neither in the code nor in the accumulator. -/
def Operand.inMemory : Operand → Bool
  | .immediate _ | .accumulator => false
  | _ => true

lemma inMemory_fetched (s : Arch β) {mode : Mode} (h : mode ∉ [Mode.immediate, .accumulator]) :
    (s.fetchOperand mode).1.inMemory = true := by
  cases mode with
  | immediate | accumulator => exact absurd h (by decide)
  | _ => rfl

lemma operandValue_inMemory {o : Operand} (ho : o.inMemory = true) (s : Arch β) :
    s.operandValue o = (s.address o).2.read (s.address o).1 := by
  cases o with
  | immediate | accumulator => cases ho
  | _ => rfl

lemma modify_inMemory {o : Operand} (ho : o.inMemory = true) (op : Byte → Byte × Option Bool)
    (s : Arch β) : s.modify o op =
      let m := (s.address o).2.read (s.address o).1
      { m.2.write (s.address o).1 (op m.1).1 with
        p := { m.2.p with c := (op m.1).2.getD m.2.p.c } }.setZN (op m.1).1 := by
  cases o with
  | immediate | accumulator => cases ho
  | _ => rfl

section Operands

variable (hram : RamOn I P) {s : Arch β} {t : Arch (Word → Byte)} (h : Agrees I P s t)
  {o : Operand} (ho : o.inMemory = true) (hP : P (s.address o).1)
include hram h ho hP

lemma Agrees.operandValue : (s.operandValue o).1 = t.bus (s.address o).1 ∧
    Agrees I P (s.operandValue o).2 t := by
  have hat := h.address hram o
  rw [operandValue_inMemory ho]
  exact ⟨hat.ram _ hP, hat.read hram _⟩

lemma Agrees.modify (op : Byte → Byte × Option Bool) :
    Agrees I P (s.modify o op) (t.modify (.absolute (s.address o).1) op) := by
  have hat := h.address hram o
  have hread := hat.read hram (s.address o).1
  have hv : ((s.address o).2.read (s.address o).1).1 = t.bus (s.address o).1 := hat.ram _ hP
  rw [modify_inMemory ho, modify_inMemory rfl]
  simp only [hv]
  obtain ⟨hbus, ha, hp, hmem⟩ := hread.write hram (s.address o).1 (op (t.bus (s.address o).1)).1
  refine ⟨hbus, ha, ?_, hmem⟩
  simp only [Arch.setZN]
  rw [hread.p]
  rfl

/-- A line on a byte of RAM does to the bus what it does to the plain memory. -/
lemma Agrees.exec {mn : Mnemonic}
    (hmn : mn ∈ [Mnemonic.LDA, .STA, .ADC, .SBC, .ASL, .ROL, .LSR, .ROR]) :
    Agrees I P (exec mn o s) (exec mn (.absolute (s.address o).1) t) := by
  obtain ⟨hv, hat⟩ := h.operandValue hram ho hP
  obtain ⟨hbus, ha, hp, hmem⟩ := hat
  simp only [List.mem_cons, List.not_mem_nil, or_false] at hmn
  rcases hmn with rfl | rfl | rfl | rfl | rfl | rfl | rfl | rfl
  case inl =>
    show Agrees I P ((s.operandValue o).2.setA (s.operandValue o).1) (t.setA (t.bus (s.address o).1))
    rw [hv]
    refine ⟨hbus, rfl, ?_, hmem⟩
    simp only [Arch.setA, Arch.setZN, hp]
  case inr.inl =>
    have hst := (h.address hram o).write hram (s.address o).1 s.a
    rw [h.a] at hst
    show Agrees I P ((s.address o).2.write (s.address o).1 s.a) (t.write (s.address o).1 t.a)
    rw [h.a]
    exact hst
  case inr.inr.inl =>
    show Agrees I P ((s.operandValue o).2.adc (s.operandValue o).1) (t.adc (t.bus (s.address o).1))
    rw [hv]
    refine ⟨hbus, ?_, ?_, hmem⟩
    · simp only [Arch.adc, Arch.setA, hp, ha]
    · simp only [Arch.adc, Arch.setA, Arch.setZN, hp, ha]
  case inr.inr.inr.inl =>
    show Agrees I P ((s.operandValue o).2.sbc (s.operandValue o).1) (t.sbc (t.bus (s.address o).1))
    rw [hv]
    refine ⟨hbus, ?_, ?_, hmem⟩
    · simp only [Arch.sbc, Arch.setA, hp, ha]
    · simp only [Arch.sbc, Arch.setA, Arch.setZN, hp, ha]
  case inr.inr.inr.inr.inl => exact h.modify hram ho hP Arch.asl
  case inr.inr.inr.inr.inr.inl =>
    show Agrees I P (s.modify o (Arch.rol s.p.c))
      (t.modify (.absolute (s.address o).1) (Arch.rol t.p.c))
    rw [h.p]
    exact h.modify hram ho hP _
  case inr.inr.inr.inr.inr.inr.inl => exact h.modify hram ho hP Arch.lsr
  case inr.inr.inr.inr.inr.inr.inr =>
    show Agrees I P (s.modify o (Arch.ror s.p.c))
      (t.modify (.absolute (s.address o).1) (Arch.ror t.p.c))
    rw [h.p]
    exact h.modify hram ho hP _

end Operands

end Isa

namespace CPU6502

open Isa (Mnemonic Arch Instruction RamOn Agrees)

variable {β : Type} [BusLike β] {I : β → Prop} {P : Word → Prop}

/-- `n` calls of `executeInstruction`. -/
def executeInstructions : Nat → CPU6502 β → Option (CPU6502 β)
  | 0, cpu => some cpu
  | n + 1, cpu => (executeInstruction 28 cpu).bind (executeInstructions n)

/-- The lines are the instructions executed from here on. -/
def Follows : List Instruction → CPU6502 β → Prop
  | [], _ => True
  | l :: ls, cpu => cpu.arch.At l ∧ ∀ cpu', executeInstruction 28 cpu = some cpu' → Follows ls cpu'

lemma codeStep_agrees (hram : RamOn I P) {s : Arch β} {t : Arch (Word → Byte)} (h : Agrees I P s t)
    {l : Instruction} (hl : l.Arithmetic P) (hat : s.At l) : Agrees I P (codeStep s) (l.run t) := by
  cases l with
  | plain mn =>
    obtain ⟨mode, hd⟩ := hat
    have hfetch := (h.fetch hram).fetchOperand hram mode
    obtain ⟨hbus, ha, hp, hmem⟩ := hfetch
    have hmn : mn ∈ [Mnemonic.CLC, .SEC] := hl
    simp only [List.mem_cons, List.not_mem_nil, or_false] at hmn
    rcases hmn with rfl | rfl
    all_goals
      rw [codeStep_of_mem hd (by decide), Isa.step_listed hd (by decide)]
      refine ⟨hbus, ha, ?_, hmem⟩
      simp only [Isa.exec, Instruction.run, hp]
  | on mn addr =>
    obtain ⟨mode, hd, hmode, rfl⟩ := hat
    obtain ⟨hmn, hP⟩ := hl
    have hfetch := (h.fetch hram).fetchOperand hram mode
    have hall : ∀ mn ∈ [Mnemonic.LDA, .STA, .ADC, .SBC, .ASL, .ROL, .LSR, .ROR],
        mn ∉ [Mnemonic.BRK, .PHP] ∧ mn ≠ .JSR := by decide
    have hne := hall mn hmn
    rw [codeStep_of_mem hd hne.1, Isa.step_listed hd hne.2]
    exact hfetch.exec hram (Isa.inMemory_fetched _ hmode) hP hmn

/-- The accumulator, the flags and the bus of a CPU, the bus as a plain memory. -/
def plain (cpu : CPU6502 β) : Arch (Word → Byte) :=
  ⟨cpu.a, cpu.x, cpu.y, cpu.sp, cpu.pFlags, cpu.pc, cpu.halted, peek cpu.bus⟩

/-- The lines are executed one after the other, as on a plain memory. -/
lemma run_agrees (hram : RamOn I P) {ls : List Instruction} (hls : ∀ l ∈ ls, l.Arithmetic P)
    {cpu : CPU6502 β} (hs : cpu.Settled) (hfollows : Follows ls cpu) {t : Arch (Word → Byte)}
    (h : Agrees I P cpu.arch t) :
    ∃ cpu', executeInstructions ls.length cpu = some cpu' ∧ cpu'.Settled ∧
      Agrees I P cpu'.arch (ls.foldl Instruction.run t) := by
  induction ls generalizing cpu t with
  | nil => exact ⟨cpu, rfl, hs, h⟩
  | cons l ls ih =>
    obtain ⟨hat, hnext⟩ := hfollows
    obtain ⟨cpu₁, hrun, hs₁, harch⟩ := executeInstruction_refines hs
    have h₁ := codeStep_agrees hram h (hls l List.mem_cons_self) hat
    rw [← harch] at h₁
    obtain ⟨cpu', hrest, hs', h'⟩ :=
      ih (fun l hl => hls l (List.mem_cons_of_mem _ hl)) hs₁ (hnext cpu₁ hrun) h₁
    refine ⟨cpu', ?_, hs', h'⟩
    rw [List.length_cons, executeInstructions, hrun]
    exact hrest

/-- Where the line after the one at `pc` begins. -/
def next (pc : Word) : Instruction → Word
  | .plain _ => pc + 1#16
  | .on _ _ => pc + 1#16 + 1#16 + 1#16

/-- The addresses of a line at `pc`, its operand a word. -/
def bytes (pc : Word) : Instruction → List Word
  | .plain _ => [pc]
  | .on _ _ => [pc, pc + 1#16, pc + 1#16 + 1#16]

/-- The line is in the code at `pc`. -/
def At (bus : β) (pc : Word) : Instruction → Prop
  | .plain mn => Isa.decode (peek bus pc) = some (mn, .implied)
  | .on mn addr => Isa.decode (peek bus pc) = some (mn, .absolute) ∧ peek bus (pc + 1#16) = addr.lo ∧
      peek bus (pc + 1#16 + 1#16) = addr.hi

def placement : Word → List Instruction → List Word
  | _, [] => []
  | pc, l :: ls => bytes pc l ++ placement (next pc l) ls

def Placed (bus : β) : Word → List Instruction → Prop
  | _, [] => True
  | pc, l :: ls => At bus pc l ∧ Placed bus (next pc l) ls

lemma At.congr {bus bus' : β} {pc : Word} {l : Instruction} (h : At bus pc l)
    (heq : ∀ w ∈ bytes pc l, peek bus' w = peek bus w) : At bus' pc l := by
  cases l with
  | plain mn =>
    have hpc := heq pc List.mem_cons_self
    rw [At, hpc]
    exact h
  | on mn addr =>
    simp only [bytes, List.forall_mem_cons] at heq
    rw [At, heq.1, heq.2.1, heq.2.2.1]
    exact h

lemma Placed.congr {bus bus' : β} {pc : Word} {ls : List Instruction} (h : Placed bus pc ls)
    (heq : ∀ w ∈ placement pc ls, peek bus' w = peek bus w) : Placed bus' pc ls := by
  induction ls generalizing pc with
  | nil => trivial
  | cons l ls ih =>
    refine ⟨h.1.congr fun w hw => heq w (List.mem_append_left _ hw), ih h.2 fun w hw => ?_⟩
    exact heq w (List.mem_append_right _ hw)

lemma pc_exec {mn : Mnemonic}
    (hmn : mn ∈ [Mnemonic.CLC, .SEC, .LDA, .STA, .ADC, .SBC, .ASL, .ROL, .LSR, .ROR])
    (o : Isa.Operand) (s : Arch β) : (Isa.exec mn o s).pc = s.pc := by
  simp only [List.mem_cons, List.not_mem_nil, or_false] at hmn
  rcases hmn with rfl | rfl | rfl | rfl | rfl | rfl | rfl | rfl | rfl | rfl
  all_goals cases o <;> rfl

/-- A line in the code at PC is the next instruction, and the code goes on after it. -/
lemma at_code (hram : RamOn I P) {s : Arch β} (hI : I s.bus) {l : Instruction} (hl : l.Arithmetic P)
    (hat : At s.bus s.pc l) (hP : ∀ w ∈ bytes s.pc l, P w) : s.At l ∧ (codeStep s).pc = next s.pc l := by
  cases l with
  | plain mn =>
    refine ⟨⟨.implied, hat⟩, ?_⟩
    have hmn : mn ∈ [Mnemonic.CLC, .SEC] := hl
    simp only [List.mem_cons, List.not_mem_nil, or_false] at hmn
    have hd : Isa.decode s.fetch.1 = some (mn, .implied) := hat
    rcases hmn with rfl | rfl
    all_goals
      rw [codeStep_of_mem hd (by decide), Isa.step_listed hd (by decide), pc_exec (by decide)]
      rfl
  | on mn addr =>
    obtain ⟨hd, hlo, hhi⟩ := hat
    simp only [bytes, List.forall_mem_cons] at hP
    have hd' : Isa.decode s.fetch.1 = some (mn, .absolute) := hd
    have hlo' : s.fetch.2.fetch.1 = addr.lo := (hram.peek_read _ _ _ hI hP.2.1).trans hlo
    have hI₁ : I s.fetch.2.bus := hram.read _ _ hI
    have hhi' : s.fetch.2.fetch.2.fetch.1 = addr.hi :=
      (hram.peek_read _ _ _ hI₁ hP.2.2.1).trans ((hram.peek_read _ _ _ hI hP.2.2.1).trans hhi)
    refine ⟨⟨.absolute, hd', by decide, ?_⟩, ?_⟩
    · show word s.fetch.2.fetch.2.fetch.1 s.fetch.2.fetch.1 = addr
      rw [hlo', hhi', word_hi_lo]
    · have hall : ∀ mn ∈ [Mnemonic.LDA, .STA, .ADC, .SBC, .ASL, .ROL, .LSR, .ROR],
          mn ∉ [Mnemonic.BRK, .PHP] ∧ mn ≠ .JSR ∧
            mn ∈ [Mnemonic.CLC, .SEC, .LDA, .STA, .ADC, .SBC, .ASL, .ROL, .LSR, .ROR] := by decide
      obtain ⟨hbrk, hjsr, hmem⟩ := hall mn hl.1
      rw [codeStep_of_mem hd' hbrk, Isa.step_listed hd' hjsr, pc_exec hmem]
      rfl

lemma bus_run {l : Instruction} (hl : l.Arithmetic P) {w : Word} (hw : ∀ mn, l ≠ .on mn w)
    (t : Arch (Word → Byte)) : (l.run t).bus w = t.bus w := by
  cases l with
  | plain mn =>
    have hmn : mn ∈ [Mnemonic.CLC, .SEC] := hl
    simp only [List.mem_cons, List.not_mem_nil, or_false] at hmn
    rcases hmn with rfl | rfl <;> rfl
  | on mn addr =>
    have hne : w ≠ addr := by
      rintro rfl
      exact hw mn rfl
    obtain ⟨hmn, -⟩ := hl
    simp only [List.mem_cons, List.not_mem_nil, or_false] at hmn
    rcases hmn with rfl | rfl | rfl | rfl | rfl | rfl | rfl | rfl
    all_goals first | rfl | exact Function.update_of_ne hne _ _

/-- Lines placed in RAM that they do not overwrite are executed one after the other. -/
theorem follows_placed (hram : RamOn I P) {ls : List Instruction} (hls : ∀ l ∈ ls, l.Arithmetic P)
    {cpu : CPU6502 β} (hs : cpu.Settled) (hI : I cpu.bus) (hplaced : Placed cpu.bus cpu.pc ls)
    (hcode : ∀ w ∈ placement cpu.pc ls, P w ∧ ∀ mn, Instruction.on mn w ∉ ls) : Follows ls cpu := by
  induction ls generalizing cpu with
  | nil => trivial
  | cons l ls ih =>
    have hl := hls l List.mem_cons_self
    have hplain : Agrees I P cpu.arch cpu.plain := ⟨hI, rfl, rfl, fun _ _ => rfl⟩
    obtain ⟨hat, hpc⟩ := at_code hram (s := cpu.arch) hI hl hplaced.1 fun w hw =>
      (hcode w (List.mem_append_left _ hw)).1
    refine ⟨hat, fun cpu' hrun => ?_⟩
    obtain ⟨cpu₁, hrun₁, hs₁, harch⟩ := executeInstruction_refines hs
    obtain rfl : cpu₁ = cpu' := Option.some.inj (hrun₁.symm.trans hrun)
    have h₁ := codeStep_agrees hram hplain hl hat
    rw [← harch] at h₁ hpc
    have hpc₁ : cpu₁.pc = next cpu.pc l := hpc
    have hcode₁ : ∀ w ∈ placement cpu₁.pc ls, P w ∧ ∀ mn, Instruction.on mn w ∉ l :: ls := by
      intro w hw
      rw [hpc₁] at hw
      exact hcode w (List.mem_append_right _ hw)
    refine ih (fun l hl => hls l (List.mem_cons_of_mem _ hl)) hs₁ h₁.bus ?_ ?_
    · have hrest : Placed cpu.bus cpu₁.pc ls := by
        rw [hpc₁]
        exact hplaced.2
      apply hrest.congr
      intro w hw
      obtain ⟨hP, hnot⟩ := hcode₁ w hw
      have hne : ∀ mn, l ≠ .on mn w := by
        rintro mn rfl
        exact hnot mn List.mem_cons_self
      exact (h₁.ram w hP).trans (bus_run hl hne cpu.plain)
    · intro w hw
      obtain ⟨hP, hnot⟩ := hcode₁ w hw
      exact ⟨hP, fun mn hmem => hnot mn (List.mem_cons_of_mem _ hmem)⟩

end CPU6502

end Sys6
