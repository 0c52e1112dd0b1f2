import Sys6.Isa.Stack
import Sys6.Proofs.BusTrace
import Sys6.Proofs.FlagFrame
import Sys6.Proofs.RamMachine

/-!
# Nested pushes and calls

Whatever is pushed is pulled again by the matching instruction, however the pairs are nested, from
any stack pointer and up to all of page 1.
-/

namespace Sys6

open Isa (Mnemonic Mode Operand Arch RamOn Keeps)

variable {β : Type} [BusLike β] {I : β → Prop} {P : Word → Prop}

namespace CPU6502

/-- RAM that an instruction does not write keeps its bytes. -/
theorem peek_codeStep (hram : RamOn I P) {s : Arch β} (hI : I s.bus) {w : Word} (hP : P w)
    (hw : ∀ v, BusAccess.write w v ∉ s.accesses) : peek (codeStep s).bus w = peek s.bus w := by
  let J (b : Recorded β) : Prop := I b.bus ∧ ((∀ v, BusAccess.write w v ∉ b.seen) → peek b.bus w = peek s.bus w)
  have hkeeps : Keeps J := by
    constructor
    · rintro b addr ⟨hb, hpeek⟩
      refine ⟨hram.read _ _ hb, fun hseen => ?_⟩
      have hseen' : ∀ v, BusAccess.write w v ∉ b.seen := fun v hv =>
        hseen v (List.mem_append_left _ hv)
      exact (hram.peek_read _ _ _ hb hP).trans (hpeek hseen')
    · rintro b addr v ⟨hb, hpeek⟩
      refine ⟨hram.write _ _ _ hb, fun hseen => ?_⟩
      have hseen' : ∀ v, BusAccess.write w v ∉ b.seen := fun v hv =>
        hseen v (List.mem_append_left _ hv)
      have hne : w ≠ addr := by
        rintro rfl
        exact hseen v (List.mem_append_right _ List.mem_cons_self)
      have hwrite := hram.peek_write b.bus addr v w hb hP
      rw [if_neg hne] at hwrite
      exact hwrite.trans (hpeek hseen')
  let s' : Arch (Recorded β) := ⟨s.a, s.x, s.y, s.sp, s.p, s.pc, s.halted, ⟨s.bus, []⟩⟩
  have hstart : J s'.bus := ⟨hI, fun _ => rfl⟩
  have hend := codeStep_keeps hkeeps hstart
  have hbus : (codeStep s).bus = (codeStep s').bus.bus := by
    have hmap := map_codeStep Watched.busMap_bus s'
    exact congrArg Arch.bus hmap
  have hseen : (codeStep s').bus.seen = s.accesses := seen_codeStep s'
  rw [hbus]
  apply hend.2
  rw [hseen]
  exact hw

end CPU6502

/-- An instruction that pushes and the one that takes the same away. -/
inductive Pair
  | accumulator | status | call | interrupt
deriving DecidableEq, Repr

namespace Pair

def opener : Pair → Mnemonic
  | .accumulator => .PHA
  | .status => .PHP
  | .call => .JSR
  | .interrupt => .BRK

def closer : Pair → Mnemonic
  | .accumulator => .PLA
  | .status => .PLP
  | .call => .RTS
  | .interrupt => .RTI

/-- How many bytes are on the stack in between. -/
def size : Pair → Nat
  | .accumulator | .status => 1
  | .call => 2
  | .interrupt => 3

/-- What the second instruction restores of the state before the first one. -/
def Restored (before after : Arch β) : Pair → Prop
  | .accumulator => after.a = before.a
  | .status => after.p.toByte = before.p.toByte ||| 0x10#8
  | .call => after.pc = before.pc + 3#16
  | .interrupt => after.pc = before.pc + 2#16 ∧ after.p.toByte = before.p.toByte ||| 0x10#8

/-- The bytes in between, the last one pushed first. -/
def frame (s : Arch β) : Pair → List Byte
  | .accumulator => [s.a]
  | .status => [{ s.p with b := true }.toByte]
  | .call => [(s.pc + 1#16 + 1#16).lo, (s.pc + 1#16 + 1#16).hi]
  | .interrupt => [{ s.p with b := true }.toByte, (s.pc + 1#16 + 1#16).lo, (s.pc + 1#16 + 1#16).hi]

omit [BusLike β] in
lemma length_frame (s : Arch β) (k : Pair) : (k.frame s).length = k.size := by
  cases k <;> rfl

end Pair

namespace CPU6502

lemma codeStep_live {s : Arch β} {mn : Mnemonic} {mode : Mode} (hd : Isa.decode s.fetch.1 = some (mn, mode))
    (hmn : mn ∈ [Mnemonic.BRK, .PHP]) : codeStep s = setLiveB (Isa.exec mn .implied s.fetch.2) := by
  have hall : ∀ row ∈ Isa.manual, row.mnemonic ∈ [Mnemonic.BRK, .PHP] →
      row.opcode ∈ [cOpBRK, cOpPHP] ∧ row.mode = .implied := by
    decide +kernel
  obtain ⟨row, hfind, hrow⟩ := Option.map_eq_some_iff.mp hd
  obtain ⟨rfl, rfl⟩ := Prod.ext_iff.mp hrow
  obtain ⟨hop, hmode⟩ := hall row (List.mem_of_find?_eq_some hfind) hmn
  have hfound := List.find?_some hfind
  have hopcode : row.opcode = s.fetch.1 := by simpa using hfound
  show codeStep s = setLiveB (Isa.exec row.mnemonic .implied s.fetch.2)
  have hjsr : row.mnemonic ≠ .JSR := by
    intro hjsr
    have hmem : row.mnemonic ∈ [Mnemonic.BRK, .PHP] := hmn
    rw [hjsr] at hmem
    exact absurd hmem (by decide)
  unfold codeStep
  rw [if_pos (hopcode ▸ hop), Isa.step_listed hd hjsr, hmode]
  rfl

lemma codeStep_implied {s : Arch β} {mn : Mnemonic} {mode : Mode} (hd : Isa.decode s.fetch.1 = some (mn, mode))
    (hmn : mn ∈ [Mnemonic.PHA, .PLA, .PLP, .RTS, .RTI]) : codeStep s = Isa.exec mn .implied s.fetch.2 := by
  have hall : ∀ mn ∈ [Mnemonic.PHA, .PLA, .PLP, .RTS, .RTI],
      mn ∈ Isa.Arch.stackOps ∧ mn ∉ [Mnemonic.BRK, .PHP] ∧ mn ≠ .JSR := by decide
  obtain ⟨hstack, hlive, hjsr⟩ := hall mn hmn
  rw [codeStep_of_mem hd hlive, Isa.step_listed hd hjsr, (Isa.Arch.mode_of_decode hd).1 hstack]
  rfl

section Pairs

variable (hram : RamOn I fun w => w.hi = 1#8) {base : Byte} {l : List Byte} {s : Arch β} {mode : Mode}
include hram

/-- The first instruction of a pair puts its frame on the stack. -/
theorem opens {k : Pair} (hd : Isa.decode s.fetch.1 = some (k.opener, mode)) (h : s.Stacked I base l)
    (hlen : l.length + k.size ≤ 256) : (codeStep s).Stacked I base (k.frame s ++ l) := by
  have hfetch := h.fetch hram
  cases k with
  | accumulator =>
    rw [codeStep_implied hd (by decide)]
    exact (hfetch.read hram _).push hram hlen _
  | status =>
    rw [codeStep_live hd (by decide)]
    have hpush := (hfetch.read hram s.fetch.2.pc).push hram hlen { s.p with b := true }.toByte
    exact hpush.regs rfl rfl
  | call =>
    rw [codeStep_of_mem hd (by decide), Isa.step_jsr hd]
    have hpush := (hfetch.fetch hram).pushWord hram hlen (s.pc + 1#16 + 1#16)
    exact (hpush.read hram _).regs rfl rfl
  | interrupt =>
    rw [codeStep_live hd (by decide)]
    have hword := (hfetch.fetch hram).pushWord hram (show l.length + 2 ≤ 256 from by
      simp only [Pair.size] at hlen
      omega) (s.pc + 1#16 + 1#16)
    have hpush := hword.push hram (Nat.lt_of_succ_le hlen) { s.p with b := true }.toByte
    exact ((hpush.read hram 0xFFFE#16).read hram 0xFFFF#16).regs rfl rfl

omit [BusLike β] hram in
lemma toByte_pulled (p : PFlags) :
    (PFlags.ofByte { p with b := true }.toByte).toByte = p.toByte ||| 0x10#8 := by
  rw [PFlags.ofByte_toByte]
  obtain ⟨c, z, i, d, b, u, v, n⟩ := p
  revert c z i d b u v n
  decide

/-- The second instruction of a pair takes the frame away and restores what is in it. -/
theorem closes {k : Pair} (hd : Isa.decode s.fetch.1 = some (k.closer, mode)) {s₀ : Arch β}
    (h : s.Stacked I base (k.frame s₀ ++ l)) :
    (codeStep s).Stacked I base l ∧ k.Restored s₀ (codeStep s) := by
  have hfetch := h.fetch hram
  cases k with
  | accumulator =>
    rw [codeStep_implied hd (by decide)]
    obtain ⟨hv, hpull⟩ := (hfetch.read hram s.fetch.2.pc).pull hram
    exact ⟨hpull.regs rfl rfl, hv⟩
  | status =>
    rw [codeStep_implied hd (by decide)]
    obtain ⟨hv, hpull⟩ := (hfetch.read hram s.fetch.2.pc).pull hram
    refine ⟨hpull.regs rfl rfl, ?_⟩
    show (PFlags.ofByte s.fetch.2.discard.pull.1).toByte = s₀.p.toByte ||| 0x10#8
    rw [← toByte_pulled]
    exact congrArg (fun v => (PFlags.ofByte v).toByte) hv
  | call =>
    rw [codeStep_implied hd (by decide)]
    obtain ⟨hw, hpull⟩ := hfetch.pullWord hram
    refine ⟨hpull.regs rfl rfl, ?_⟩
    show s.fetch.2.pullWord.1 + 1#16 = s₀.pc + 3#16
    rw [hw]
    bv_omega
  | interrupt =>
    rw [codeStep_implied hd (by decide)]
    obtain ⟨hv, hpull⟩ := (hfetch.read hram s.fetch.2.pc).pull hram
    obtain ⟨hw, hpulls⟩ := hpull.pullWord hram
    refine ⟨hpulls.regs rfl rfl, ?_, ?_⟩
    · have hpc : (Isa.exec .RTI .implied s.fetch.2).pc = s₀.pc + 1#16 + 1#16 := hw
      exact hpc.trans (by bv_omega)
    · show (PFlags.ofByte s.fetch.2.discard.pull.1).toByte = s₀.p.toByte ||| 0x10#8
      rw [← toByte_pulled]
      exact congrArg (fun v => (PFlags.ofByte v).toByte) hv

end Pairs

/-- The next instruction is `mn`. -/
def IsNext (mn : Mnemonic) (cpu : CPU6502 β) : Prop := ∃ mode, Isa.decode cpu.opcode = some (mn, mode)

/-- The next instruction neither moves the stack pointer nor writes to page 1. -/
structure LeavesStack (cpu : CPU6502 β) : Prop where
  sp : ∀ mn mode, Isa.decode cpu.opcode = some (mn, mode) → movesStack mn = false
  page : ∀ addr v, BusAccess.write addr v ∈ cpu.sees noteRead noteWrite → addr.hi ≠ 1#8

/-- A run of well-nested pairs, with other instructions anywhere, that keeps at most `d` bytes on
the stack. Each pair is listed with the states before its first and after its second instruction. -/
inductive Nested : Nat → CPU6502 β → List (Pair × CPU6502 β × CPU6502 β) → CPU6502 β → Prop
  | done {d : Nat} {cpu : CPU6502 β} : Nested d cpu [] cpu
  | other {d : Nat} {cpu cpu₁ cpu' : CPU6502 β} {pairs : List (Pair × CPU6502 β × CPU6502 β)} :
      cpu.LeavesStack → executeInstruction 28 cpu = some cpu₁ → Nested d cpu₁ pairs cpu' →
      Nested d cpu pairs cpu'
  | pair {d : Nat} {k : Pair} {cpu cpu₁ cpu₂ cpu₃ cpu' : CPU6502 β}
      {inner rest : List (Pair × CPU6502 β × CPU6502 β)} :
      k.size ≤ d → cpu.IsNext k.opener → executeInstruction 28 cpu = some cpu₁ →
      Nested (d - k.size) cpu₁ inner cpu₂ →
      cpu₂.IsNext k.closer → executeInstruction 28 cpu₂ = some cpu₃ → Nested d cpu₃ rest cpu' →
      Nested d cpu ((k, cpu, cpu₃) :: inner ++ rest) cpu'

lemma sp_codeStep {s : Arch β}
    (h : ∀ mn mode, Isa.decode s.fetch.1 = some (mn, mode) → movesStack mn = false) :
    (codeStep s).sp = s.sp := by
  have hlive : (codeStep s).sp = (Isa.step s).sp := by
    unfold codeStep
    split_ifs <;> rfl
  rw [hlive]
  cases hd : Isa.decode s.fetch.1 with
  | none =>
    rw [Isa.step_unlisted hd]
    rfl
  | some row =>
    obtain ⟨mn, mode⟩ := row
    have hmn := h mn mode hd
    have hjsr : mn ≠ .JSR := by
      rintro rfl
      cases hmn
    rw [Isa.step_listed hd hjsr, Isa.sp_exec hmn, Isa.sp_fetchOperand]
    rfl

lemma leaves_stack (hram : RamOn I fun w => w.hi = 1#8) {base : Byte} {l : List Byte} {cpu : CPU6502 β}
    (hs : cpu.Settled) (hleaves : cpu.LeavesStack) (h : cpu.arch.Stacked I base l) :
    (codeStep cpu.arch).Stacked I base l := by
  obtain ⟨hI, hsp, hl⟩ := h
  have hstack := sp_codeStep (s := cpu.arch) hleaves.sp
  have hpage : (codeStep cpu.arch).page = cpu.arch.page := by
    funext x
    apply peek_codeStep hram hI (word_hi 1#8 x)
    intro v hv
    rw [← sees_accesses hs] at hv
    exact hleaves.page _ v hv (word_hi 1#8 x)
  refine ⟨codeStep_keeps hram.toKeeps hI, by rw [hstack, hsp], ?_⟩
  rw [hpage, hstack]
  exact hl

/-- The stack is as it was, and every pair has restored what it saved. -/
lemma Nested.stacked (hram : RamOn I fun w => w.hi = 1#8) {d : Nat} {cpu cpu' : CPU6502 β}
    {pairs : List (Pair × CPU6502 β × CPU6502 β)} (h : Nested d cpu pairs cpu') (hs : cpu.Settled)
    {base : Byte} {l : List Byte} (hstacked : cpu.arch.Stacked I base l) (hlen : l.length + d ≤ 256) :
    cpu'.Settled ∧ cpu'.arch.Stacked I base l ∧ ∀ q ∈ pairs, q.1.Restored q.2.1.arch q.2.2.arch := by
  induction h generalizing l with
  | done => exact ⟨hs, hstacked, fun q hq => absurd hq List.not_mem_nil⟩
  | other hleaves hrun _ ih =>
    obtain ⟨cpu₁, hrun₁, hs₁, harch⟩ := executeInstruction_refines hs
    obtain rfl := Option.some.inj (hrun₁.symm.trans hrun)
    have hnext := leaves_stack hram hs hleaves hstacked
    rw [← harch] at hnext
    exact ih hs₁ hnext hlen
  | @pair d k cpu cpu₁ cpu₂ cpu₃ cpu' inner rest hd hopen hrun _ hclose hrun' _ ihinner ihrest =>
    obtain ⟨c₁, hrun₁, hs₁, harch₁⟩ := executeInstruction_refines hs
    obtain rfl := Option.some.inj (hrun₁.symm.trans hrun)
    obtain ⟨mode, hmode⟩ := hopen
    have hopened := opens hram (s := cpu.arch) hmode hstacked (by omega)
    rw [← harch₁] at hopened
    obtain ⟨hs₂, hstacked₂, hinner⟩ := ihinner hs₁ hopened (by
      rw [List.length_append, Pair.length_frame]
      omega)
    obtain ⟨c₃, hrun₃, hs₃, harch₃⟩ := executeInstruction_refines hs₂
    obtain rfl := Option.some.inj (hrun₃.symm.trans hrun')
    obtain ⟨mode', hmode'⟩ := hclose
    obtain ⟨hclosed, hrestored⟩ := closes hram (s := cpu₂.arch) hmode' hstacked₂
    rw [← harch₃] at hclosed hrestored
    obtain ⟨hs', hstacked', hrest⟩ := ihrest hs₃ hclosed hlen
    refine ⟨hs', hstacked', ?_⟩
    intro q hq
    simp only [List.cons_append, List.mem_cons, List.mem_append] at hq
    obtain rfl | hq | hq := hq
    · exact hrestored
    · exact hinner q hq
    · exact hrest q hq

/-- Well-nested pairs that fit in page 1 restore what they saved, and leave the stack pointer where
it was. -/
theorem nested_restores (hram : RamOn I fun w => w.hi = 1#8) {cpu cpu' : CPU6502 β}
    {pairs : List (Pair × CPU6502 β × CPU6502 β)} (hs : cpu.Settled) (hI : I cpu.bus)
    (h : Nested 256 cpu pairs cpu') :
    cpu'.sp = cpu.sp ∧ ∀ q ∈ pairs, q.1.Restored q.2.1.arch q.2.2.arch := by
  have hempty : cpu.arch.Stacked I cpu.sp [] := ⟨hI, by simp [arch], trivial⟩
  obtain ⟨-, hstacked, hpairs⟩ := h.stacked hram hs hempty le_rfl
  refine ⟨?_, hpairs⟩
  have hsp : cpu'.sp = cpu.sp - BitVec.ofNat 8 0 := hstacked.sp
  rw [hsp]
  exact BitVec.sub_zero _

/-- `JSR $0310` with the stack pointer at `$01`, and there `PHA`, `PLA` and `RTS`: the stack wraps. -/
theorem nested_restores_call :
    let mem : Word → Byte := fun w => if w = 0x0300#16 then 0x20#8 else if w = 0x0301#16 then 0x10#8 else
      if w = 0x0302#16 then 0x03#8 else if w = 0x0310#16 then 0x48#8 else
      if w = 0x0311#16 then 0x68#8 else if w = 0x0312#16 then 0x60#8 else 0#8
    let cpu : CPU6502 (Word → Byte) := { bus := mem, a := 0x5A#8, sp := 0x01#8, pc := 0x0300#16 }
    ∃ cpu₁ cpu₂ cpu₃ cpu₄, executeInstruction 28 cpu = some cpu₁ ∧ executeInstruction 28 cpu₁ = some cpu₂ ∧
      executeInstruction 28 cpu₂ = some cpu₃ ∧ executeInstruction 28 cpu₃ = some cpu₄ ∧
      cpu₄.sp = 0x01#8 ∧ cpu₄.pc = 0x0303#16 ∧ cpu₃.a = cpu₁.a := by
  intro mem cpu
  have hs : cpu.Settled := ⟨rfl, rfl, rfl⟩
  obtain ⟨cpu₁, hrun₁, hs₁, harch₁⟩ := executeInstruction_refines hs
  obtain ⟨cpu₂, hrun₂, hs₂, harch₂⟩ := executeInstruction_refines hs₁
  obtain ⟨cpu₃, hrun₃, hs₃, harch₃⟩ := executeInstruction_refines hs₂
  obtain ⟨cpu₄, hrun₄, -, harch₄⟩ := executeInstruction_refines hs₃
  rw [harch₁] at harch₂
  rw [harch₂] at harch₃
  have hcall : cpu.IsNext (Pair.opener .call) := ⟨.absolute, by decide⟩
  have hpush : cpu₁.IsNext (Pair.opener .accumulator) := by
    refine ⟨.implied, ?_⟩
    show Isa.decode cpu₁.arch.fetch.1 = _
    rw [harch₁]
    decide
  have hpull : cpu₂.IsNext (Pair.closer .accumulator) := by
    refine ⟨.implied, ?_⟩
    show Isa.decode cpu₂.arch.fetch.1 = _
    rw [harch₂]
    decide
  have hreturn : cpu₃.IsNext (Pair.closer .call) := by
    refine ⟨.implied, ?_⟩
    show Isa.decode cpu₃.arch.fetch.1 = _
    rw [harch₃]
    decide
  have hinner : Nested (256 - Pair.size .call) cpu₁ ([(.accumulator, cpu₁, cpu₃)] ++ []) cpu₃ :=
    .pair (by decide) hpush hrun₂ .done hpull hrun₃ .done
  have hnested : Nested 256 cpu ((.call, cpu, cpu₄) :: ([(.accumulator, cpu₁, cpu₃)] ++ []) ++ []) cpu₄ :=
    .pair (by decide) hcall hrun₁ hinner hreturn hrun₄ .done
  have hram : RamOn (fun _ : Word → Byte => True) fun w => w.hi = 1#8 :=
    Isa.ramOn_memory.mono fun _ _ => trivial
  obtain ⟨hsp, hpairs⟩ := nested_restores hram hs trivial hnested
  exact ⟨cpu₁, cpu₂, cpu₃, cpu₄, hrun₁, hrun₂, hrun₃, hrun₄, hsp,
    hpairs (.call, cpu, cpu₄) (by simp), hpairs (.accumulator, cpu₁, cpu₃) (by simp)⟩

end CPU6502

end Sys6
