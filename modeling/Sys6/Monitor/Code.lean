import Sys6.Isa.Stack
import Sys6.Monitor.Events

/-!
# Executing the firmware

`line` disassembles the ROM. A step at a line of the firmware is the effect of its
instruction, without a fetch.
-/

namespace Sys6

open Isa (Mnemonic Mode Operand Arch)

/-- What a line does besides its effect. -/
inductive LineKind
  /-- The stack pointer stays, and nothing is seen. -/
  | plain
  /-- Nothing is seen. -/
  | stack
  | seen
deriving DecidableEq, Repr

structure Line where
  mnemonic : Mnemonic
  operand : Operand
  kind : LineKind
deriving DecidableEq, Repr

def mayWriteTape (mn : Mnemonic) (o : Operand) : Bool :=
  (mn.use = .modify || mn.use = .store) &&
    match o with
    | .zeroPage _ | .zeroPageX _ | .zeroPageY _ | .accumulator => false
    | .absolute w => isTapeReg w
    | _ => true

def kindOf (pc : Word) (mn : Mnemonic) (o : Operand) : LineKind :=
  if pc ∈ entries ∨ pc ∈ cursorSites ∨ mayWriteTape mn o then .seen
  else if movesStack mn then .stack
  else .plain

def operandOf (b b' : Byte) : Mode → Operand
  | .immediate => .immediate b
  | .zeroPage => .zeroPage b
  | .zeroPageX => .zeroPageX b
  | .zeroPageY => .zeroPageY b
  | .absolute => .absolute (word b' b)
  | .absoluteX => .absoluteX (word b' b)
  | .absoluteY => .absoluteY (word b' b)
  | .indirectX => .indirectX b
  | .indirectY => .indirectY b
  | .accumulator => .accumulator
  | .implied => .implied
  | .relative => .relative b
  | .indirect => .indirect (word b' b)

/-- The length of the instruction with this operand. -/
def Isa.Operand.length : Operand → Word
  | .accumulator | .implied => 1#16
  | .absolute _ | .absoluteX _ | .absoluteY _ | .indirect _ => 3#16
  | _ => 2#16

/-- The instruction the ROM holds at `pc`. Instructions that touch the live B flag, and those
whose operand could leave the ROM, are not lines. -/
def line (pc : Word) : Option Line :=
  if pc.hi < 0xC0#8 ∨ pc.hi = 0xFF#8 then none
  else
    match Isa.decode (monitor.image (pc - monitor.kRomBase)) with
    | none | some (.BRK, _) | some (.PHP, _) => none
    | some (mn, mode) =>
      let o := operandOf (monitor.image (pc + 1#16 - monitor.kRomBase))
        (monitor.image (pc + 2#16 - monitor.kRomBase)) mode
      some ⟨mn, o, kindOf pc mn o⟩

namespace Machine

abbrev Leads (I : Machine → Prop) (m : Machine) (evs : List Event) (m' : Machine) : Prop :=
  Run.Leads step sees I m evs m'

/-- The effect of an instruction in ROM, where the discarded reads do nothing. -/
def exec (mn : Mnemonic) (o : Operand) (m : Machine) : Machine :=
  match mn with
  | .PHA => m.push m.a
  | .PLA => m.pull.2.setA m.pull.1
  | mn => Isa.exec mn o m

def execLine (l : Line) (m : Machine) : Machine :=
  exec l.mnemonic l.operand { m.poll with pc := m.pc + l.operand.length }

lemma read_rom {pc : Word} (h : ¬pc.hi < 0xC0#8) (m : Machine) :
    m.read pc = (monitor.image (pc - monitor.kRomBase), m) := by
  have hb : BusLike.read m.bus pc = (monitor.image (pc - monitor.kRomBase), m.bus) := by
    have hne : ∀ b : Byte, b < 0xC0#8 → pc.hi ≠ b := by
      rintro b hb rfl
      exact h hb
    have h80 : ¬pc.hi < 0x80#8 := fun h80 => h (by bv_omega)
    show Board.read m.bus pc = _
    unfold Board.read
    rw [if_neg (hne _ (by decide)), if_neg (hne _ (by decide)), if_neg h80,
      if_neg (hne _ (by decide)), if_neg h]
  unfold Arch.read
  rw [hb]

lemma fetch_rom {m : Machine} (h : ¬m.pc.hi < 0xC0#8) :
    m.fetch = (monitor.image (m.pc - monitor.kRomBase), { m with pc := m.pc + 1#16 }) := by
  unfold Arch.fetch
  rw [read_rom h]

lemma fetchOperand_rom {pc : Word} (h1 : ¬(pc + 1#16).hi < 0xC0#8)
    (h2 : ¬(pc + 2#16).hi < 0xC0#8) {m : Machine} (hm : m.pc = pc + 1#16) (mode : Mode) :
    m.fetchOperand mode =
      let o := operandOf (monitor.image (pc + 1#16 - monitor.kRomBase))
        (monitor.image (pc + 2#16 - monitor.kRomBase)) mode
      (o, { m with pc := pc + o.length }) := by
  have e2 : pc + 1#16 + 1#16 = pc + 2#16 := by bv_omega
  have e3 : pc + 2#16 + 1#16 = pc + 3#16 := by bv_omega
  have hf : m.fetch =
      (monitor.image (pc + 1#16 - monitor.kRomBase), { m with pc := pc + 2#16 }) := by
    rw [fetch_rom (by rwa [hm]), hm, e2]
  have hw : m.fetchWord = (word (monitor.image (pc + 2#16 - monitor.kRomBase))
      (monitor.image (pc + 1#16 - monitor.kRomBase)), { m with pc := pc + 3#16 }) := by
    simp only [Arch.fetchWord, hf, fetch_rom (m := { m with pc := pc + 2#16 }) h2, e3]
  cases mode with
  | accumulator | implied => simp only [Arch.fetchOperand, operandOf, Operand.length, ← hm]
  | _ => simp only [Arch.fetchOperand, operandOf, Operand.length, hf, hw]

lemma hi_add {pc : Word} (h : ¬pc.hi < 0xC0#8) (hff : pc.hi ≠ 0xFF#8) :
    ¬(pc + 1#16).hi < 0xC0#8 ∧ ¬(pc + 2#16).hi < 0xC0#8 := by
  have h0 := pc.hi_toNat
  have h1 := (pc + 1#16).hi_toNat
  have h2 := (pc + 2#16).hi_toNat
  have hff' : pc.hi.toNat ≠ 255 := fun h => hff (BitVec.eq_of_toNat_eq h)
  simp only [BitVec.lt_def, BitVec.toNat_add, BitVec.toNat_ofNat] at *
  have := pc.isLt
  omega

/-- In ROM the high operand byte of `JSR` does not depend on the pushes before its fetch. -/
lemma jsr_rom {pc : Word} (h1 : ¬(pc + 1#16).hi < 0xC0#8) (h2 : ¬(pc + 2#16).hi < 0xC0#8)
    {m : Machine} (hm : m.pc = pc + 1#16) :
    m.jsr = Isa.exec .JSR (.absolute (word (monitor.image (pc + 2#16 - monitor.kRomBase))
      (monitor.image (pc + 1#16 - monitor.kRomBase)))) { m with pc := pc + 3#16 } := by
  have e2 : pc + 1#16 + 1#16 = pc + 2#16 := by bv_omega
  have e3 : pc + 3#16 - 1#16 = pc + 2#16 := by bv_omega
  have hf : m.fetch =
      (monitor.image (pc + 1#16 - monitor.kRomBase), { m with pc := pc + 2#16 }) := by
    rw [fetch_rom (by rwa [hm]), hm, e2]
  have hpush : ∀ m : Machine, (m.pushWord (pc + 2#16)).pc = m.pc := fun _ => rfl
  simp only [Arch.jsr, hf, hpush, read_rom h2, Isa.exec, e3]
  rfl

lemma decode_jsr {b : Byte} {mode : Mode} (h : Isa.decode b = some (.JSR, mode)) :
    mode = .absolute := by
  have hall : ∀ row ∈ Isa.manual, row.mnemonic = .JSR → row.mode = .absolute := by decide +kernel
  obtain ⟨row, hfind, hrow⟩ := Option.map_eq_some_iff.mp h
  obtain ⟨hmn, rfl⟩ := Prod.ext_iff.mp hrow
  exact hall row (List.mem_of_find?_eq_some hfind) hmn

lemma decode_pha_pla {b : Byte} {mn : Mnemonic} {mode : Mode}
    (h : Isa.decode b = some (mn, mode)) (hmn : mn ∈ [Mnemonic.PHA, .PLA]) : mode = .implied := by
  have hall : ∀ row ∈ Isa.manual, row.mnemonic ∈ [Mnemonic.PHA, .PLA] → row.mode = .implied := by
    decide +kernel
  obtain ⟨row, hfind, hrow⟩ := Option.map_eq_some_iff.mp h
  obtain ⟨rfl, rfl⟩ := Prod.ext_iff.mp hrow
  exact hall row (List.mem_of_find?_eq_some hfind) hmn

/-- A step at a line of the firmware. -/
theorem step_line {m : Machine} {l : Line} (h : line m.pc = some l) : m.step = m.execLine l := by
  unfold line at h
  split_ifs at h with hrom
  simp only [not_or] at hrom
  obtain ⟨h1, h2⟩ := hi_add hrom.1 hrom.2
  have hf : m.poll.fetch = (monitor.image (m.pc - monitor.kRomBase),
      { m.poll with pc := m.pc + 1#16 }) := fetch_rom hrom.1
  have ho := fetchOperand_rom h1 h2 (m := { m.poll with pc := m.pc + 1#16 }) rfl
  have hj := jsr_rom h1 h2 (m := { m.poll with pc := m.pc + 1#16 }) rfl
  have hlive : monitor.image (m.pc - monitor.kRomBase) ∉ [cOpBRK, cOpPHP] := by
    intro hmem
    simp only [List.mem_cons, List.not_mem_nil, or_false] at hmem
    rcases hmem with hmem | hmem
    · rw [hmem, show Isa.decode cOpBRK = some (.BRK, .implied) by decide] at h
      cases h
    · rw [hmem, show Isa.decode cOpPHP = some (.PHP, .implied) by decide] at h
      cases h
  unfold step CPU6502.codeStep
  rw [hf, if_neg hlive]
  unfold Isa.step
  rw [hf]
  split at h
  · cases h
  · cases h
  · cases h
  · rename_i mn mode hbrk hphp hd
    cases h
    simp only [hd, ho]
    cases mn with
    | JSR =>
      obtain rfl := decode_jsr hd
      exact hj
    | PHA | PLA =>
      obtain rfl := decode_pha_pla hd (by simp)
      have hdisc : Arch.discard ({ m.poll with pc := m.pc + 1#16 } : Machine) =
          { m.poll with pc := m.pc + 1#16 } := by
        unfold Arch.discard
        rw [read_rom h1]
      simp only [Isa.exec, operandOf, Operand.length, hdisc]
      rfl
    | _ => rfl

lemma isTapeReg_word {page : Byte} (h : page < 0x80#8) (b : Byte) : isTapeReg (word page b) = false := by
  have hlt : ¬0x8002#16 ≤ word page b := by
    rw [BitVec.le_def, word_toNat]
    have := b.isLt
    rw [BitVec.lt_def] at h
    simp only [BitVec.toNat_ofNat] at h ⊢
    omega
  simp [isTapeReg, hlt]

/-- Of the accesses of a row only those at the effective address can be writes to the tape. -/
lemma tapeWrites_row (motorOn : Bool) (m : Machine) (mn : Mnemonic) (mode : Mode) :
    (m.rowAccesses mn mode).filterMap (BusAccess.tapeWrite motorOn) =
      ((m.fetchOperand mode).2.effectAccesses mn (m.fetchOperand mode).1).filterMap
        (BusAccess.tapeWrite motorOn) := by
  have hstack : ∀ b, isTapeReg (word 1#8 b) = false := isTapeReg_word (by decide)
  have hop : (m.operandAccesses mode).filterMap (BusAccess.tapeWrite motorOn) = [] := by
    simp [Arch.operandAccesses, List.filterMap_map, BusAccess.tapeWrite, Function.comp_def]
  have hptr : ∀ (m : Machine) (o : Operand),
      (m.pointerAccesses o).filterMap (BusAccess.tapeWrite motorOn) = [] := by
    intro m o
    cases o <;> rfl
  have hrest : (m.operandAccesses mode ++
        (m.fetchOperand mode).2.pointerAccesses (m.fetchOperand mode).1 ++
        (m.fetchOperand mode).2.effectAccesses mn (m.fetchOperand mode).1).filterMap
          (BusAccess.tapeWrite motorOn) =
      ((m.fetchOperand mode).2.effectAccesses mn (m.fetchOperand mode).1).filterMap
        (BusAccess.tapeWrite motorOn) := by
    rw [List.filterMap_append, List.filterMap_append, hop, hptr, List.nil_append, List.nil_append]
  cases mn with
  | PHA | PHP | PLA | PLP | RTS | RTI | BRK | JSR =>
    simp [Arch.rowAccesses, Arch.effectAccesses, Mnemonic.use, BusAccess.tapeWrite, hstack]
  | _ => exact hrest

/-- The writes to the tape at a line are those at its effective address. -/
lemma tapeWrites_line {m : Machine} {mn : Mnemonic} {o : Operand} {kind : LineKind}
    (h : line m.pc = some ⟨mn, o, kind⟩) : m.tapeWrites =
      (Arch.effectAccesses { m.poll with pc := m.pc + o.length } mn o).filterMap
        (BusAccess.tapeWrite m.bus.tape.motorOn) := by
  unfold line at h
  split_ifs at h with hrom
  simp only [not_or] at hrom
  obtain ⟨h1, h2⟩ := hi_add hrom.1 hrom.2
  have hf : m.poll.fetch = (monitor.image (m.pc - monitor.kRomBase),
      { m.poll with pc := m.pc + 1#16 }) := fetch_rom hrom.1
  have ho := fetchOperand_rom h1 h2 (m := { m.poll with pc := m.pc + 1#16 }) rfl
  split at h
  · cases h
  · cases h
  · cases h
  · rename_i mn mode hbrk hphp hd
    cases h
    unfold tapeWrites Arch.accesses
    rw [hf]
    simp only [hd, List.filterMap_cons, BusAccess.tapeWrite]
    exact (tapeWrites_row _ _ _ _).trans (by rw [ho])

lemma kind_line {pc : Word} {l : Line} (h : line pc = some l) :
    l.kind = kindOf pc l.mnemonic l.operand := by
  unfold line at h
  split_ifs at h
  split at h <;> cases h
  rfl

lemma effect_of_not_mayWriteTape {m : Machine} {mn : Mnemonic} {o : Operand} (motorOn : Bool)
    (h : mayWriteTape mn o = false) :
    (m.effectAccesses mn o).filterMap (BusAccess.tapeWrite motorOn) = [] := by
  have hzp : ∀ b, isTapeReg (word 0#8 b) = false := isTapeReg_word (by decide)
  unfold mayWriteTape at h
  unfold Arch.effectAccesses
  cases hu : mn.use with
  | none => rfl
  | read => cases o <;> rfl
  | modify | store =>
    rw [hu] at h
    cases o with
    | zeroPage | zeroPageX | zeroPageY => simp [Arch.address, BusAccess.tapeWrite, hzp]
    | absolute w =>
      have hw : isTapeReg w = false := by simpa using h
      simp [Arch.address, BusAccess.tapeWrite, hw]
    | accumulator =>
      have h0 : isTapeReg 0#16 = false := by decide
      simp [Arch.address, BusAccess.tapeWrite, h0]
    | _ => cases h

lemma sees_of_kind {m : Machine} {mn : Mnemonic} {o : Operand} {kind : LineKind}
    (h : line m.pc = some ⟨mn, o, kind⟩) (hk : kind ≠ .seen) : m.sees = [] := by
  have hkind := kind_line h
  unfold kindOf at hkind
  split_ifs at hkind with hsite
  · exact absurd hkind hk
  all_goals
    simp only [not_or, Bool.not_eq_true] at hsite
    unfold sees
    rw [if_neg hsite.1, if_neg hsite.2.1, tapeWrites_line h, effect_of_not_mayWriteTape _ hsite.2.2]
    rfl

lemma sp_exec {mn : Mnemonic} (h : movesStack mn = false) (o : Operand) (m : Machine) :
    (exec mn o m).sp = m.sp := by
  cases mn with
  | PHA | PLA => cases h
  | _ => exact Isa.sp_exec h o m

/-- A plain line is executed and `k` goes on. -/
def followLine (k : Machine → Option Machine) (m : Machine) : Option Line → Option Machine
  | some ⟨mn, o, .plain⟩ => k (exec mn o { m.poll with pc := m.pc + o.length })
  | _ => none

/-- `n` steps through plain lines. -/
def follow : Nat → Machine → Option Machine
  | 0, m => some m
  | n + 1, m => followLine (follow n) m (line m.pc)

-- No definitional unfolding here: a step would be compared with the whole rest of the run.
@[simp] lemma followLine_some (k : Machine → Option Machine) (m : Machine) (mn : Mnemonic)
    (o : Operand) : followLine k m (some ⟨mn, o, .plain⟩) =
      k (exec mn o { m.poll with pc := m.pc + o.length }) :=
  (rfl)

@[simp] lemma follow_zero (m : Machine) : follow 0 m = some m := (rfl)

@[simp] lemma follow_succ (n : Nat) (m : Machine) :
    follow (n + 1) m = followLine (follow n) m (line m.pc) :=
  (rfl)

/-- Plain lines lead on unseen, with the stack pointer where it was. -/
theorem leadsIn_of_follow (n : Nat) {m m' : Machine} (h : follow n m = some m') :
    Run.LeadsIn step sees (fun m' => m'.sp = m.sp) n m [] m' := by
  induction n generalizing m with
  | zero =>
    cases h
    exact ⟨rfl, rfl, fun i hi => absurd hi (by omega)⟩
  | succ n ih =>
    rw [follow_succ] at h
    unfold followLine at h
    split at h
    · rename_i mn o hl
      have hstep : m.step = exec mn o { m.poll with pc := m.pc + o.length } := step_line hl
      have hstack : movesStack mn = false := by
        have hkind := kind_line hl
        unfold kindOf at hkind
        split_ifs at hkind with hsite hmoves
        simpa using hmoves
      have hsp : m.step.sp = m.sp := by
        rw [hstep]
        exact sp_exec hstack o _
      have hrest := ih h
      rw [← hstep, hsp] at hrest
      have hone : Run.LeadsIn step sees (fun m' => m'.sp = m.sp) 1 m m.sees m.step :=
        Run.leadsIn_one rfl
      have hrun := hone.trans hrest
      rwa [sees_of_kind hl (by decide), Nat.add_comm] at hrun
    · cases h

end Machine

end Sys6
