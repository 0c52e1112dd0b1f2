import Sys6.Isa.RamOn

/-!
# The stack

Page 1 below the stack pointer as a list of bytes. Pushing puts a byte in front of the list, as
long as the list leaves room for it in the page, and pulling takes it away.
-/

namespace Sys6

open Isa (Mnemonic Mode Operand Arch)

def movesStack (mn : Mnemonic) : Bool :=
  mn ∈ [Mnemonic.PHA, .PHP, .PLA, .PLP, .RTS, .RTI, .BRK, .JSR, .TXS]

namespace Isa

/-- The bytes above `sp`, which wraps at the end of the page. -/
def Holds (page : Byte → Byte) : Byte → List Byte → Prop
  | _, [] => True
  | sp, v :: l => page (sp + 1#8) = v ∧ Holds page (sp + 1#8) l

/-- A byte that is none of them may change. -/
lemma Holds.update {page : Byte → Byte} {sp x : Byte} {l : List Byte} (h : Holds page sp l)
    (hx : ∀ i < l.length, sp + 1#8 + BitVec.ofNat 8 i ≠ x) (v : Byte) :
    Holds (Function.update page x v) sp l := by
  induction l generalizing sp with
  | nil => trivial
  | cons w l ih =>
    obtain ⟨htop, hrest⟩ := h
    have hne : sp + 1#8 ≠ x := by
      have h0 := hx 0 (by simp)
      simpa using h0
    refine ⟨?_, ih hrest fun i hi => ?_⟩
    · rw [Function.update_of_ne hne, htop]
    · have hi' := hx (i + 1) (by simpa using hi)
      intro heq
      apply hi'
      rw [← heq]
      bv_omega

variable {β : Type} [BusLike β]

namespace Arch

/-- Page 1. -/
def page (s : Arch β) (x : Byte) : Byte := peek s.bus (word 1#8 x)

/-- The stack holds `l`, counted from `base`. -/
structure Stacked (I : β → Prop) (base : Byte) (l : List Byte) (s : Arch β) : Prop where
  bus : I s.bus
  sp : s.sp = base - BitVec.ofNat 8 l.length
  holds : Holds s.page s.sp l

variable {I : β → Prop} {base v : Byte} {l : List Byte} {s : Arch β}

/-- Only the bus and the stack pointer matter. -/
lemma Stacked.regs (h : s.Stacked I base l) {s' : Arch β} (hbus : s'.bus = s.bus) (hsp : s'.sp = s.sp) :
    s'.Stacked I base l := by
  obtain ⟨hI, hs, hl⟩ := h
  refine ⟨by rwa [hbus], by rwa [hsp], ?_⟩
  rw [hsp, show s'.page = s.page from funext fun x => congrArg (peek · (word 1#8 x)) hbus]
  exact hl

variable (hram : RamOn I fun w => w.hi = 1#8)
include hram

lemma Stacked.read (h : s.Stacked I base l) (addr : Word) : (s.read addr).2.Stacked I base l := by
  refine ⟨hram.read _ _ h.bus, h.sp, ?_⟩
  have hpage : (s.read addr).2.page = s.page := funext fun x =>
    hram.peek_read _ _ _ h.bus (word_hi 1#8 x)
  rw [hpage]
  exact h.holds

lemma Stacked.fetch (h : s.Stacked I base l) : s.fetch.2.Stacked I base l :=
  (h.read hram s.pc).regs rfl rfl

lemma Stacked.push (h : s.Stacked I base l) (hlen : l.length < 256) (v : Byte) :
    (s.push v).Stacked I base (v :: l) := by
  have hpage : (s.push v).page = Function.update s.page s.sp v := by
    funext x
    have hwrite := hram.peek_write s.bus (word 1#8 s.sp) v (word 1#8 x) h.bus (word_hi 1#8 x)
    rw [Function.update_apply]
    refine hwrite.trans ?_
    simp only [word_inj, true_and]
    rfl
  refine ⟨hram.write _ _ _ h.bus, ?_, ?_⟩
  · show s.sp - 1#8 = _
    rw [h.sp, List.length_cons]
    bv_omega
  · show Holds _ (s.sp - 1#8) (v :: l)
    rw [hpage]
    have hsp : s.sp - 1#8 + 1#8 = s.sp := by bv_omega
    refine ⟨?_, ?_⟩
    · rw [hsp, Function.update_self]
    · rw [hsp]
      apply h.holds.update
      intro i hi heq
      bv_omega

lemma Stacked.pull (h : s.Stacked I base (v :: l)) : s.pull.1 = v ∧ s.pull.2.Stacked I base l := by
  obtain ⟨hI, hsp, htop, hrest⟩ := h
  refine ⟨htop, ?_⟩
  have hnext : Stacked I base l { s with sp := s.sp + 1#8 } := by
    refine ⟨hI, ?_, hrest⟩
    show s.sp + 1#8 = _
    rw [hsp, List.length_cons]
    bv_omega
  exact hnext.read hram _

lemma Stacked.pushWord (h : s.Stacked I base l) (hlen : l.length + 2 ≤ 256) (w : Word) :
    (s.pushWord w).Stacked I base (w.lo :: w.hi :: l) := by
  have hhi := h.push hram (by omega) w.hi
  exact hhi.push hram (Nat.lt_of_succ_le hlen) w.lo

lemma Stacked.pullWord {w : Word} (h : s.Stacked I base (w.lo :: w.hi :: l)) :
    s.pullWord.1 = w ∧ s.pullWord.2.Stacked I base l := by
  obtain ⟨hlo, h₁⟩ := h.pull hram
  obtain ⟨hhi, h₂⟩ := h₁.pull hram
  refine ⟨?_, h₂⟩
  show word s.pull.2.pull.1 s.pull.1 = w
  rw [hlo, hhi, word_hi_lo]

end Arch

lemma sp_fetchOperand (mode : Mode) (s : Arch β) : (s.fetchOperand mode).2.sp = s.sp := by
  cases mode <;> rfl

lemma sp_operandValue (o : Operand) (s : Arch β) : (s.operandValue o).2.sp = s.sp := by
  cases o <;> rfl

lemma sp_address (o : Operand) (s : Arch β) : (s.address o).2.sp = s.sp := by
  cases o <;> rfl

lemma sp_modify (o : Operand) (op : Byte → Byte × Option Bool) (s : Arch β) :
    (s.modify o op).sp = s.sp := by
  cases o <;> rfl

omit [BusLike β] in
lemma sp_branch (o : Operand) (taken : Bool) (s : Arch β) : (s.branch o taken).sp = s.sp := by
  cases o <;> cases taken <;> rfl

lemma sp_exec {mn : Mnemonic} (h : movesStack mn = false) (o : Operand) (s : Arch β) :
    (exec mn o s).sp = s.sp := by
  cases mn with
  | PHA | PHP | PLA | PLP | RTS | RTI | BRK | JSR | TXS => cases h
  | BPL | BMI | BVC | BVS | BCC | BCS | BNE | BEQ => exact sp_branch o _ s
  | ASL | LSR | ROL | ROR | INC | DEC => exact sp_modify o _ s
  | STA | STX | STY | JMP => exact sp_address o s
  | ADC | SBC | AND | ORA | EOR | CMP | CPX | CPY | BIT | LDA | LDX | LDY => exact sp_operandValue o s
  | _ => rfl

end Isa

end Sys6
