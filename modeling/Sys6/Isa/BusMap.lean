import Sys6.Isa.Semantics

/-!
# The reference semantics under a map of buses

A map that commutes with reads and writes commutes with every instruction.
-/

namespace Sys6.Isa

variable {β γ : Type} [BusLike β] [BusLike γ]

/-- `f` is a bus simulation: reads give the same byte, and the buses stay related. -/
structure BusMap (f : β → γ) : Prop where
  read : ∀ b addr, BusLike.read (f b) addr =
    ((BusLike.read b addr).1, f (BusLike.read b addr).2)
  write : ∀ b addr v, BusLike.write (f b) addr v = f (BusLike.write b addr v)

namespace Arch

omit [BusLike β] [BusLike γ] in
def map (f : β → γ) (s : Arch β) : Arch γ :=
  ⟨s.a, s.x, s.y, s.sp, s.p, s.pc, s.halted, f s.bus⟩

section Fields

omit [BusLike β] [BusLike γ]
variable (f : β → γ) (s : Arch β)

@[simp] lemma map_pc : (s.map f).pc = s.pc := rfl

@[simp] lemma map_p : (s.map f).p = s.p := rfl

lemma map_branch (o : Operand) (taken : Bool) :
    (s.map f).branch o taken = (s.branch o taken).map f := by
  cases o <;> cases taken <;> rfl

end Fields

variable {f : β → γ} (hf : BusMap f)
include hf

lemma map_read (addr : Word) (s : Arch β) :
    (s.map f).read addr = ((s.read addr).1, (s.read addr).2.map f) := by
  simp only [read, map, hf.read]

lemma map_write (addr : Word) (v : Byte) (s : Arch β) :
    (s.map f).write addr v = (s.write addr v).map f := by
  simp only [write, map, hf.write]

lemma map_fetch (s : Arch β) : (s.map f).fetch = (s.fetch.1, s.fetch.2.map f) := by
  simp only [fetch, read, map, hf.read]

lemma map_fetchWord (s : Arch β) :
    (s.map f).fetchWord = (s.fetchWord.1, s.fetchWord.2.map f) := by
  simp only [fetchWord, map_fetch hf]

lemma map_fetchOperand (mode : Mode) (s : Arch β) :
    (s.map f).fetchOperand mode = ((s.fetchOperand mode).1, (s.fetchOperand mode).2.map f) := by
  cases mode with
  | accumulator | implied => rfl
  | _ => simp only [fetchOperand, map_fetch hf, map_fetchWord hf]

lemma map_pointer (b : Byte) (s : Arch β) :
    (s.map f).pointer b = ((s.pointer b).1, (s.pointer b).2.map f) := by
  simp only [pointer, map_read hf]

lemma map_address (o : Operand) (s : Arch β) :
    (s.map f).address o = ((s.address o).1, (s.address o).2.map f) := by
  cases o <;> simp only [address, map_read hf, map_pointer hf] <;> rfl

lemma map_operandValue (o : Operand) (s : Arch β) :
    (s.map f).operandValue o = ((s.operandValue o).1, (s.operandValue o).2.map f) := by
  cases o with
  | accumulator => rfl
  | _ => simp only [operandValue, map_address hf, map_read hf]

lemma map_store (o : Operand) (v : Byte) (s : Arch β) :
    (s.map f).store o v = (s.store o v).map f := by
  simp only [store, map_address hf, map_write hf]

lemma map_modify (o : Operand) (op : Byte → Byte × Option Bool) (s : Arch β) :
    (s.map f).modify o op = (s.modify o op).map f := by
  cases o <;> simp only [modify, map_address hf, map_read hf, map_write hf] <;> rfl

lemma map_push (v : Byte) (s : Arch β) : (s.map f).push v = (s.push v).map f := by
  simp only [push, write, map, hf.write]

lemma map_pushWord (w : Word) (s : Arch β) : (s.map f).pushWord w = (s.pushWord w).map f := by
  simp only [pushWord, map_push hf]

lemma map_pull (s : Arch β) : (s.map f).pull = (s.pull.1, s.pull.2.map f) := by
  simp only [pull, read, map, hf.read]

lemma map_pullWord (s : Arch β) : (s.map f).pullWord = (s.pullWord.1, s.pullWord.2.map f) := by
  simp only [pullWord, map_pull hf]

lemma map_discard (s : Arch β) : (s.map f).discard = s.discard.map f := by
  simp only [discard, map_pc, map_read hf]

lemma map_jsr (s : Arch β) : (s.map f).jsr = s.jsr.map f := by
  simp only [jsr, map_fetch hf, map_pc, map_pushWord hf, map_read hf]
  rfl

lemma map_rts (s : Arch β) : (s.map f).rts = s.rts.map f := by
  simp only [rts, map_pullWord hf]
  rfl

lemma map_brk (s : Arch β) : (s.map f).brk = s.brk.map f := by
  simp only [brk, map_fetch hf, map_pc, map_p, map_pushWord hf, map_push hf, map_read hf]
  rfl

lemma map_rti (s : Arch β) : (s.map f).rti = s.rti.map f := by
  simp only [rti, map_discard hf, map_pull hf, map_pullWord hf]
  rfl

end Arch

open Arch

variable {f : β → γ} (hf : BusMap f)
include hf

theorem map_exec (mn : Mnemonic) (o : Operand) (s : Arch β) :
    exec mn o (s.map f) = (exec mn o s).map f := by
  cases mn with
  | ADC | SBC | AND | ORA | EOR | CMP | CPX | CPY | BIT | LDA | LDX | LDY =>
    simp only [exec, onValue, map_operandValue hf]
    rfl
  | ASL | LSR | ROL | ROR | INC | DEC => exact map_modify hf o _ s
  | STA | STX | STY => exact map_store hf o _ s
  | BPL | BMI | BVC | BVS | BCC | BCS | BNE | BEQ =>
    exact map_branch f s o _
  | BRK => exact map_brk hf s
  | JSR =>
    simp only [exec, map_address hf, map_pc, map_pushWord hf]
    rfl
  | RTS => exact map_rts hf s
  | RTI => exact map_rti hf s
  | JMP =>
    simp only [exec, map_address hf]
    rfl
  | PHA | PHP =>
    simp only [exec, map_discard hf]
    exact map_push hf _ _
  | PLA | PLP =>
    simp only [exec, map_discard hf, map_pull hf]
    rfl
  | _ => rfl

/-- One instruction commutes with a map of buses. -/
theorem map_step (s : Arch β) : step (s.map f) = (step s).map f := by
  simp only [step, map_fetch hf]
  cases decode s.fetch.1 with
  | none => rfl
  | some row =>
    obtain ⟨mn, mode⟩ := row
    simp only [map_fetchOperand hf]
    cases mn with
    | JSR => exact map_jsr hf _
    | _ => exact map_exec hf _ _ _

end Sys6.Isa
