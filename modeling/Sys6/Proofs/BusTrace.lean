import Sys6.Isa.Accesses
import Sys6.Isa.Watched
import Sys6.Proofs.Refinement

/-!
# The bus accesses of every instruction

An instruction on a watched bus does what it does on the bus itself, and what is seen of it
are the accesses of its row, no more.
-/

namespace Sys6

open Isa (Arch BusMap Mnemonic Mode Operand Keeps)

section Naturality

variable {β γ : Type} [BusLike β] [BusLike γ]

lemma CPU6502.map_codeStep {f : β → γ} (hf : BusMap f) (s : Arch β) :
    codeStep (s.map f) = (codeStep s).map f := by
  unfold codeStep
  rw [Isa.Arch.map_fetch hf, Isa.map_step hf]
  split_ifs <;> rfl

/-- What every access keeps, every instruction keeps. -/
lemma CPU6502.codeStep_keeps {I : β → Prop} (h : Keeps I) {s : Arch β} (hs : I s.bus) :
    I (codeStep s).bus := by
  let _ := h.bus
  have hmap := map_codeStep h.busMap_val
    (⟨s.a, s.x, s.y, s.sp, s.p, s.pc, s.halted, ⟨s.bus, hs⟩⟩ : Arch { b : β // I b })
  have hbus := congrArg Arch.bus hmap
  rw [show (codeStep s).bus = _ from hbus]
  exact Subtype.property _

end Naturality

abbrev noteRead {β : Type} (_ : β) (addr : Word) : List BusAccess := [.read addr]

abbrev noteWrite {β : Type} (_ : β) (addr : Word) (val : Byte) : List BusAccess := [.write addr val]

/-- A bus that records all accesses. -/
abbrev Recorded (β : Type) := Watched (noteRead (β := β)) (noteWrite (β := β))

namespace Isa.Arch

variable {β : Type} [BusLike β] (s : Arch (Recorded β))

/-- The record so far. -/
abbrev seen (s : Arch (Recorded β)) : List BusAccess := s.bus.seen

@[simp] lemma seen_read (addr : Word) : (s.read addr).2.seen = s.seen ++ [.read addr] := rfl

@[simp] lemma seen_write (addr : Word) (v : Byte) :
    (s.write addr v).seen = s.seen ++ [.write addr v] := rfl

@[simp] lemma seen_fetch : s.fetch.2.seen = s.seen ++ [.read s.pc] := rfl

lemma seen_append_two {l : List BusAccess} {a b : BusAccess} : l ++ [a] ++ [b] = l ++ [a, b] := by
  rw [List.append_assoc, List.singleton_append]

@[simp] lemma seen_fetchWord :
    s.fetchWord.2.seen = s.seen ++ [.read s.pc, .read (s.pc + 1#16)] := by
  have h : s.fetchWord.2.seen = s.seen ++ [.read s.pc] ++ [.read (s.pc + 1#16)] := rfl
  rw [h, seen_append_two]

lemma seen_fetchOperand (mode : Mode) :
    (s.fetchOperand mode).2.seen = s.seen ++ s.operandAccesses mode := by
  cases mode <;> simp [fetchOperand, operandAccesses, Mode.operandBytes, List.range_succ]

@[simp] lemma seen_pointer (b : Byte) :
    (s.pointer b).2.seen = s.seen ++ [.read (word 0#8 b), .read (word 0#8 (b + 1#8))] := by
  have h : (s.pointer b).2.seen =
      s.seen ++ [.read (word 0#8 b)] ++ [.read (word 0#8 (b + 1#8))] := rfl
  rw [h, seen_append_two]

lemma seen_address (o : Operand) : (s.address o).2.seen = s.seen ++ s.pointerAccesses o := by
  cases o with
  | indirect w => simp [address, pointerAccesses]
  | _ => simp [address, pointerAccesses]

lemma seen_push (v : Byte) : (s.push v).seen = s.seen ++ [.write (word 1#8 s.sp) v] := rfl

lemma seen_pull : s.pull.2.seen = s.seen ++ [.read (word 1#8 (s.sp + 1#8))] := rfl

lemma seen_discard : s.discard.seen = s.seen ++ [.read s.pc] := rfl

/-- Loads and the instructions that compute with a byte. -/
lemma seen_exec_read {mn : Mnemonic} (h : mn.use = .read) (o : Operand) :
    (exec mn o s).seen = (s.operandValue o).2.seen := by
  cases mn <;> first | rfl | cases h

lemma seen_operandValue {mn : Mnemonic} (h : mn.use = .read) (o : Operand) :
    (s.operandValue o).2.seen = s.seen ++ s.pointerAccesses o ++ s.effectAccesses mn o := by
  cases o with
  | immediate v => simp [operandValue, effectAccesses, pointerAccesses, h]
  | accumulator => simp [operandValue, effectAccesses, pointerAccesses, h]
  | _ => simp only [operandValue, effectAccesses, h, seen_read, seen_address]

lemma seen_exec_modify {mn : Mnemonic} (h : mn.use = .modify) (o : Operand) :
    (exec mn o s).seen = s.seen ++ s.pointerAccesses o ++ s.effectAccesses mn o := by
  cases o with
  | accumulator =>
    simp only [effectAccesses, pointerAccesses, h, List.append_nil]
    cases mn <;> first | rfl | cases h
  | _ =>
    simp only [effectAccesses, h, ← seen_append_two, ← seen_address]
    cases mn <;> first | rfl | cases h

lemma seen_exec_store {mn : Mnemonic} (h : mn.use = .store) (o : Operand) :
    (exec mn o s).seen = s.seen ++ s.pointerAccesses o ++ s.effectAccesses mn o := by
  simp only [effectAccesses, h, ← seen_address]
  cases mn <;> first | rfl | cases h

lemma sp_two (b : Byte) : b + 1#8 + 1#8 = b + 2#8 := by bv_omega

lemma sp_sub_two (b : Byte) : b - 1#8 - 1#8 = b - 2#8 := by bv_omega

lemma seen_pushWord (w : Word) : (s.pushWord w).seen =
    s.seen ++ [.write (word 1#8 s.sp) w.hi, .write (word 1#8 (s.sp - 1#8)) w.lo] := by
  rw [pushWord, seen_push, seen_push, seen_append_two]
  rfl

lemma seen_pullWord : s.pullWord.2.seen =
    s.seen ++ [.read (word 1#8 (s.sp + 1#8)), .read (word 1#8 (s.sp + 2#8))] := by
  have h : s.pullWord.2.seen =
      s.seen ++ [.read (word 1#8 (s.sp + 1#8))] ++ [.read (word 1#8 (s.sp + 1#8 + 1#8))] := rfl
  rw [h, seen_append_two, sp_two]

lemma fetch_pc : s.fetch.2.pc = s.pc + 1#16 := rfl

lemma fetch_sp : s.fetch.2.sp = s.sp := rfl

lemma pushWord_sp (w : Word) : (s.pushWord w).sp = s.sp - 1#8 - 1#8 := rfl

lemma pull_sp : s.pull.2.sp = s.sp + 1#8 := rfl

lemma seen_jsr (mode : Mode) : s.jsr.seen = s.seen ++ s.rowAccesses .JSR mode := by
  have h : s.jsr.seen = (s.fetch.2.pushWord s.fetch.2.pc).seen ++ [.read (s.pc + 1#16)] := rfl
  rw [h, seen_pushWord, seen_fetch, fetch_pc, fetch_sp, List.append_assoc, List.append_assoc]
  rfl

lemma seen_brk (mode : Mode) : s.brk.seen = s.seen ++ s.rowAccesses .BRK mode := by
  have h : s.brk.seen = ((s.fetch.2.pushWord s.fetch.2.pc).push { s.p with b := true }.toByte).seen ++
      [.read 0xFFFE#16] ++ [.read 0xFFFF#16] := rfl
  rw [h, seen_push, pushWord_sp, seen_pushWord, seen_fetch, fetch_pc, fetch_sp, sp_sub_two]
  simp only [rowAccesses, List.append_assoc]
  rfl

lemma seen_rti (mode : Mode) : s.rti.seen = s.seen ++ s.rowAccesses .RTI mode := by
  have h : s.rti.seen = s.discard.pull.2.pullWord.2.seen := rfl
  have hsp : s.discard.sp = s.sp := rfl
  rw [h, seen_pullWord, seen_pull, seen_discard, pull_sp, hsp, sp_two]
  simp only [rowAccesses, List.append_assoc, BitVec.add_assoc]
  rfl

/-- Instructions without an address: the stack instructions, and those that touch neither the
stack nor the bus. -/
abbrev stackOps : List Mnemonic := [.PHA, .PHP, .PLA, .PLP, .RTS, .RTI, .BRK]

lemma mode_of_decode {op : Byte} {mn : Mnemonic} {mode : Mode} (h : decode op = some (mn, mode)) :
    (mn ∈ stackOps → mode = .implied) ∧
    (mn.use = .none → mn ∉ stackOps → mn ∉ [.JSR, .JMP] → mode = .implied ∨ mode = .relative) := by
  have hall : ∀ row ∈ manual, (row.mnemonic ∈ stackOps → row.mode = .implied) ∧
      (row.mnemonic.use = .none → row.mnemonic ∉ stackOps → row.mnemonic ∉ [.JSR, .JMP] →
        row.mode = .implied ∨ row.mode = .relative) := by
    decide +kernel
  obtain ⟨row, hfind, hrow⟩ := Option.map_eq_some_iff.mp h
  obtain ⟨rfl, rfl⟩ := Prod.ext_iff.mp hrow
  exact hall row (List.mem_of_find?_eq_some hfind)

lemma seen_stack {mn : Mnemonic} (h : mn ∈ stackOps) :
    (exec mn .implied s).seen = s.seen ++ s.rowAccesses mn .implied := by
  cases mn with
  | PHA | PHP | PLA | PLP => exact seen_append_two
  | RTS => exact seen_pullWord s
  | RTI => exact seen_rti s _
  | BRK => exact seen_brk s _
  | _ => exact absurd h (by decide)

lemma rowAccesses_of_not_stack {mn : Mnemonic} (h : mn ∉ stackOps) (hjsr : mn ≠ .JSR) (mode : Mode) :
    s.rowAccesses mn mode = s.operandAccesses mode ++
      (s.fetchOperand mode).2.pointerAccesses (s.fetchOperand mode).1 ++
      (s.fetchOperand mode).2.effectAccesses mn (s.fetchOperand mode).1 := by
  cases mn <;> first | rfl | exact absurd rfl hjsr | exact absurd (by decide) h

lemma seen_exec_jmp (o : Operand) :
    (exec .JMP o s).seen = s.seen ++ s.pointerAccesses o ++ s.effectAccesses .JMP o := by
  have h : (exec .JMP o s).seen = (s.address o).2.seen := rfl
  rw [h, seen_address]
  simp [effectAccesses, Mnemonic.use]

/-- Branches and register instructions leave the bus alone. -/
lemma seen_exec_silent {mn : Mnemonic} (h : mn.use = .none) (hs : mn ∉ stackOps)
    (hj : mn ∉ [.JSR, .JMP]) (o : Operand) : (exec mn o s).seen = s.seen := by
  have hbranch : ∀ taken, (s.branch o taken).seen = s.seen := by
    intro taken
    cases o <;> cases taken <;> rfl
  cases mn with
  | BPL | BMI | BVC | BVS | BCC | BCS | BNE | BEQ => exact hbranch _
  | JSR | JMP => exact absurd (by decide) hj
  | PHA | PHP | PLA | PLP | RTS | RTI | BRK => exact absurd (by decide) hs
  | _ => first | rfl | cases h

/-- After the opcode, an instruction makes the accesses of its row. -/
lemma seen_row {op : Byte} {mn : Mnemonic} {mode : Mode} (h : decode op = some (mn, mode))
    (hjsr : mn ≠ .JSR) :
    (exec mn (s.fetchOperand mode).1 (s.fetchOperand mode).2).seen =
      s.seen ++ s.rowAccesses mn mode := by
  obtain ⟨himplied, hsilent⟩ := mode_of_decode h
  by_cases hs : mn ∈ stackOps
  · rw [himplied hs]
    exact seen_stack s hs
  rw [rowAccesses_of_not_stack s hs hjsr, ← List.append_assoc, ← List.append_assoc,
    ← seen_fetchOperand]
  cases hu : mn.use with
  | read => rw [seen_exec_read _ hu, seen_operandValue _ hu]
  | modify => rw [seen_exec_modify _ hu]
  | store => rw [seen_exec_store _ hu]
  | none =>
    by_cases hj : mn = .JMP
    · rw [hj, seen_exec_jmp]
    have hjj : mn ∉ [Mnemonic.JSR, .JMP] := by simp [hjsr, hj]
    rw [seen_exec_silent _ hu hs hjj]
    rcases hsilent hu hs hjj with rfl | rfl
    · simp [fetchOperand, pointerAccesses, effectAccesses, hu]
    · simp [fetchOperand, pointerAccesses, effectAccesses, hu]

lemma seen_step : (step s).seen = s.seen ++ s.accesses := by
  have hfetch : ∀ l, s.seen ++ BusAccess.read s.pc :: l = s.fetch.2.seen ++ l := by
    intro l
    rw [seen_fetch, List.append_assoc]
    rfl
  simp only [step, accesses, hfetch]
  split
  · rename_i hd
    simp only [hd, List.append_nil]
  · rename_i mode hd
    simp only [hd]
    exact seen_jsr _ _
  · rename_i mn mode hjsr hd
    simp only [hd]
    exact seen_row _ hd hjsr

end Isa.Arch

namespace Isa.Arch

section Map

variable {β γ : Type} [BusLike β] [BusLike γ] {f : β → γ} (hf : BusMap f)
include hf

lemma map_effectAccesses (mn : Mnemonic) (o : Operand) (s : Arch β) :
    (s.map f).effectAccesses mn o = s.effectAccesses mn o := by
  have hw : ∀ (v : Byte) (s : Arch β), written mn v (s.map f) = written mn v s := by
    intro v s
    have hexec := congrArg Arch.a (map_exec hf mn .accumulator { s with a := v })
    cases mn <;> first | rfl | exact hexec
  simp only [effectAccesses, map_address hf, map_read hf, hw]

lemma map_rowAccesses (mn : Mnemonic) (mode : Mode) (s : Arch β) :
    (s.map f).rowAccesses mn mode = s.rowAccesses mn mode := by
  have hop : (s.map f).operandAccesses mode = s.operandAccesses mode := rfl
  have hptr : ∀ (o : Operand) (s : Arch β), (s.map f).pointerAccesses o = s.pointerAccesses o := by
    intro o s
    cases o <;> rfl
  have hrest : (s.map f).operandAccesses mode ++
        ((s.map f).fetchOperand mode).2.pointerAccesses ((s.map f).fetchOperand mode).1 ++
        ((s.map f).fetchOperand mode).2.effectAccesses mn ((s.map f).fetchOperand mode).1 =
      s.operandAccesses mode ++ (s.fetchOperand mode).2.pointerAccesses (s.fetchOperand mode).1 ++
        (s.fetchOperand mode).2.effectAccesses mn (s.fetchOperand mode).1 := by
    rw [hop, map_fetchOperand hf, hptr, map_effectAccesses hf]
  cases mn <;> first | rfl | exact hrest

lemma map_accesses (s : Arch β) : (s.map f).accesses = s.accesses := by
  simp only [accesses, map_fetch hf, map_rowAccesses hf, map_pc]

end Map

end Isa.Arch

namespace CPU6502

variable {β : Type} [BusLike β]

def withBus {β γ : Type} (cpu : CPU6502 β) (bus : γ) : CPU6502 γ := { cpu with bus := bus }

/-- What an observer of the bus sees of the coming instruction. -/
def sees {ε : Type} (onRead : β → Word → List ε) (onWrite : β → Word → Byte → List ε)
    (cpu : CPU6502 β) : List ε :=
  let watched : Watched onRead onWrite := ⟨cpu.bus, []⟩
  match executeInstruction 28 (cpu.withBus watched) with
  | some cpu => cpu.bus.seen
  | none => []

lemma bus_codeStep (s : Arch β) : (codeStep s).bus = (Isa.step s).bus := by
  unfold codeStep
  split_ifs <;> rfl

/-- On a bus that records, the instruction adds its accesses to the record. -/
lemma seen_codeStep (s : Arch (Recorded β)) :
    (codeStep s).bus.seen = s.bus.seen ++ (s.map Watched.bus).accesses := by
  rw [bus_codeStep, Isa.Arch.map_accesses Watched.busMap_bus]
  exact Isa.Arch.seen_step s

/-- The observed run is the run. -/
theorem executeInstruction_watched {ε : Type} (onRead : β → Word → List ε)
    (onWrite : β → Word → Byte → List ε) {cpu : CPU6502 β} (hs : cpu.Settled) (seen : List ε) :
    ∃ cpu' w', executeInstruction 28 cpu = some cpu' ∧
      executeInstruction 28 (cpu.withBus (⟨cpu.bus, seen⟩ : Watched onRead onWrite)) = some w' ∧
      w'.arch = codeStep (cpu.withBus (⟨cpu.bus, seen⟩ : Watched onRead onWrite)).arch ∧
      w'.arch.map Watched.bus = cpu'.arch := by
  have hs' : (cpu.withBus (⟨cpu.bus, seen⟩ : Watched onRead onWrite)).Settled :=
    ⟨hs.cpuStep, hs.clockPhase, hs.resetActive⟩
  obtain ⟨cpu', hrun, -, harch⟩ := executeInstruction_refines hs
  obtain ⟨w', hrun', -, harch'⟩ := executeInstruction_refines hs'
  refine ⟨cpu', w', hrun, hrun', harch', ?_⟩
  rw [harch', harch, ← map_codeStep Watched.busMap_bus]
  rfl

lemma sees_eq {ε : Type} (onRead : β → Word → List ε) (onWrite : β → Word → Byte → List ε)
    {cpu : CPU6502 β} (hs : cpu.Settled) :
    cpu.sees onRead onWrite =
      (codeStep (cpu.withBus (⟨cpu.bus, []⟩ : Watched onRead onWrite)).arch).bus.seen := by
  obtain ⟨-, w', -, hrun, harch, -⟩ := executeInstruction_watched onRead onWrite hs []
  unfold sees
  simp only [hrun]
  rw [← harch]
  rfl

/-- The bus accesses of one instruction, in order. -/
lemma sees_accesses {cpu : CPU6502 β} (hs : cpu.Settled) :
    cpu.sees noteRead noteWrite = cpu.arch.accesses := by
  rw [sees_eq _ _ hs]
  exact seen_codeStep (cpu.withBus (⟨cpu.bus, []⟩ : Recorded β)).arch

/-- From every settled state and on every bus, an instruction makes the accesses of its row, and
watching them does not disturb it. -/
theorem instruction_accesses {cpu : CPU6502 β} (hs : cpu.Settled) :
    cpu.sees noteRead noteWrite = cpu.arch.accesses ∧
    ∃ cpu' w', executeInstruction 28 cpu = some cpu' ∧
      executeInstruction 28 (cpu.withBus (⟨cpu.bus, []⟩ : Recorded β)) = some w' ∧
      w'.arch.map Watched.bus = cpu'.arch := by
  obtain ⟨cpu', w', hrun, hrun', -, hmap⟩ := executeInstruction_watched noteRead noteWrite hs []
  exact ⟨sees_accesses hs, cpu', w', hrun, hrun', hmap⟩

/-- `LDA $ADAD`, on a memory full of its opcode. -/
theorem instruction_accesses_lda :
    ({ bus := fun _ => 0xAD#8 } : CPU6502 (Word → Byte)).sees noteRead noteWrite =
      [.read 0#16, .read 1#16, .read 2#16, .read 0xADAD#16] ∧
    ∃ cpu' w', executeInstruction 28 ({ bus := fun _ => 0xAD#8 } : CPU6502 (Word → Byte)) = some cpu' ∧
      executeInstruction 28 (({ bus := fun _ => 0xAD#8 } : CPU6502 (Word → Byte)).withBus
        (⟨fun _ => 0xAD#8, []⟩ : Recorded (Word → Byte))) = some w' ∧
      w'.arch.map Watched.bus = cpu'.arch := by
  have hs : ({ bus := fun _ => 0xAD#8 } : CPU6502 (Word → Byte)).Settled := ⟨rfl, rfl, rfl⟩
  have h := instruction_accesses hs
  exact ⟨h.1.trans (by decide), h.2⟩

end CPU6502

end Sys6
