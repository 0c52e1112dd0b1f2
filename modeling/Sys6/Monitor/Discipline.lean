import Sys6.Library.CallStack
import Sys6.Monitor.ColdStart

/-!
# The stack discipline of the firmware

The return addresses of the monitor lie in page 1, where `POKE`, `LOAD` and user programs can reach them.
As long as these keep off it, the monitor runs as if its stack were out of reach.
-/

namespace Sys6

open Isa (Mnemonic Operand Arch)

open CallStack (Flow Entry Shape)

/-- The branches. -/
def branches (mn : Mnemonic) : Bool := mn ∈ [Mnemonic.BPL, .BMI, .BVC, .BVS, .BCC, .BCS, .BNE, .BEQ]

namespace Machine

/-- PC, SP and page 1 are the same. -/
structure Kept (m m' : Machine) : Prop where
  pc : m'.pc = m.pc
  sp : m'.sp = m.sp
  stack : m'.bus.stack = m.bus.stack

namespace Kept

variable {m m' m'' : Machine}

lemma refl (m : Machine) : Kept m m := ⟨rfl, rfl, rfl⟩

lemma trans (h : Kept m m') (h' : Kept m' m'') : Kept m m'' :=
  ⟨h'.pc.trans h.pc, h'.sp.trans h.sp, h'.stack.trans h.stack⟩

lemma regs (h : Kept m m') (hpc : m''.pc = m'.pc) (hsp : m''.sp = m'.sp) (hbus : m''.bus = m'.bus) : Kept m m'' :=
  ⟨hpc.trans h.pc, hsp.trans h.sp, (congrArg Board.stack hbus).trans h.stack⟩

lemma read (m : Machine) (addr : Word) : Kept m (m.read addr).2 := by
  obtain ⟨ready, tape, hframe, -⟩ := m.bus.read_frame addr
  have hbus : (m.read addr).2.bus = (m.bus.read addr).2 := rfl
  exact ⟨rfl, rfl, by rw [hbus, hframe]⟩

lemma write (m : Machine) {addr : Word} (h : addr.hi ≠ 0x01#8) (v : Byte) : Kept m (m.write addr v) := by
  refine ⟨rfl, rfl, ?_⟩
  show (m.bus.write addr v).stack = m.bus.stack
  unfold Board.write
  rw [if_neg h]
  split_ifs
  · exact (rfl : (m.bus.setZp addr.lo v).stack = _)
  · rfl
  · rfl
  · rfl

lemma address (m : Machine) (o : Operand) : Kept m (m.address o).2 := by
  cases o with
  | indirectX b => exact (read _ _).trans (read _ _)
  | indirectY b => exact (read _ _).trans (read _ _)
  | indirect w => exact (read _ _).trans (read _ _)
  | _ => exact refl m

lemma operandValue (m : Machine) (o : Operand) : Kept m (m.operandValue o).2 := by
  cases o with
  | immediate v => exact refl m
  | accumulator => exact refl m
  | _ => exact (address m _).trans (read _ _)

lemma store {o : Operand} (h : (m.address o).1.hi ≠ 0x01#8) (v : Byte) : Kept m (m.store o v) :=
  (address m o).trans (write _ h v)

lemma modify {o : Operand} (h : o ≠ .accumulator → (m.address o).1.hi ≠ 0x01#8) (op : Byte → Byte × Option Bool) :
    Kept m (m.modify o op) := by
  by_cases hacc : o = .accumulator
  · rw [hacc]
    exact ⟨rfl, rfl, rfl⟩
  · obtain ⟨v, p, heq⟩ : ∃ v p, m.modify o op =
        { ((m.address o).2.read (m.address o).1).2.write (m.address o).1 v with p := p } := by
      cases o with
      | accumulator => exact absurd rfl hacc
      | _ => exact ⟨_, _, rfl⟩
    rw [heq]
    exact (((address m o).trans (read _ _)).trans (write _ (h hacc) v)).regs rfl rfl rfl

end Kept

/-- What neither jumps nor works on the stack changes page 1 through its operand or not at all. -/
lemma kept_exec {m : Machine} {mn : Mnemonic} {o : Operand} (hmoves : movesStack mn = false)
    (hjmp : mn ≠ .JMP) (hbranch : branches mn = false)
    (hstore : mn.use = .store ∨ mn.use = .modify ∧ o ≠ .accumulator → (m.address o).1.hi ≠ 0x01#8) :
    Kept m (exec mn o m) := by
  have hread := Kept.operandValue m o
  cases mn with
  | PHA | PHP | PLA | PLP | RTS | RTI | BRK | JSR | TXS => cases hmoves
  | JMP => exact absurd rfl hjmp
  | BPL | BMI | BVC | BVS | BCC | BCS | BNE | BEQ => cases hbranch
  | STA => exact Kept.store (hstore (.inl rfl)) m.a
  | STX => exact Kept.store (hstore (.inl rfl)) m.x
  | STY => exact Kept.store (hstore (.inl rfl)) m.y
  | ASL | LSR | ROL | ROR | INC | DEC => exact Kept.modify (fun hacc => hstore (.inr ⟨rfl, hacc⟩)) _
  | ADC | SBC | AND | ORA | EOR | CMP | CPX | CPY | BIT | LDA | LDX | LDY => exact hread.regs rfl rfl rfl
  | _ => exact ⟨rfl, rfl, rfl⟩

end Machine

def Isa.Operand.absolute? : Operand → Option Word
  | .absolute w => some w
  | _ => none

def Isa.Operand.relative? : Operand → Option Byte
  | .relative v => some v
  | _ => none

/-- Where a line leads, as far as it tells. -/
def Line.flow (pc : Word) (l : Line) : Flow Word :=
  let after := pc + l.operand.length
  if l.mnemonic = .JSR then (l.operand.absolute?.map fun w => .call w after).getD .leave
  else if l.mnemonic = .RTS then .back
  else if l.mnemonic = .PHA then .push after
  else if l.mnemonic = .PLA then .pull after
  else if l.mnemonic = .JMP then (l.operand.absolute?.map fun w => .next [w]).getD .leave
  else if branches l.mnemonic then
    (l.operand.relative?.map fun v => .next [after, Machine.branchTarget after v]).getD .leave
  else if movesStack l.mnemonic then .leave
  else .next [after]

/-- The stores of `POKE` and `LOAD`. -/
def storeSites : List Word := [0xCC1C#16, 0xD134#16]

/-- What it stores to is not page 1, or seen. -/
def Line.storesSeen (pc : Word) (l : Line) : Bool :=
  if l.mnemonic.use = .store ∨ l.mnemonic.use = .modify then
    match l.operand with
    | .accumulator | .zeroPage _ | .zeroPageX _ => true
    | .absolute w => w.hi ≠ 0x01#8
    | .indirectY b => b = 0xF0#8 && pc ∈ storeSites
    | _ => false
  else true

/-- Where the instruction at `pc` leads. `RUN` calls what lies in RAM. -/
def flow (pc : Word) : Flow Word :=
  if pc = monitor.kRunAddr then .leave
  else
    match line pc with
    | some l => if l.storesSeen pc then l.flow pc else .leave
    | none => .leave

/-- A stretch of code, with the shape of its first address. -/
structure Stretch where
  start : Word
  stop : Word
  shape : Shape

/-- The shapes of the instructions from `pc` to `stop`, where all data that are pushed are pulled again
further down. -/
def shapesTo (stop : Word) : Nat → Word → Shape → List (Word × Shape)
  | 0, _, _ => []
  | n + 1, pc, s =>
    if pc = stop then []
    else
      match line pc with
      | none => []
      | some l =>
        (pc, s) :: shapesTo stop n (pc + l.operand.length)
          (match l.mnemonic with
          | .PHA => { s with height := s.height + 1 }
          | .PLA => { s with height := s.height - 1 }
          | _ => s)

/-- The routines, and what each may use of the stack. -/
def stretches : List Stretch := [
  ⟨monitor.kGetCharAddr, 0xC00B#16, ⟨false, 0, 0⟩⟩,
  ⟨monitor.kPutCharAddr, 0xC104#16, ⟨false, 0, 0⟩⟩,
  ⟨monitor.kPrintHexByteAddr, 0xC20F#16, ⟨false, 0, 3⟩⟩,
  ⟨monitor.kPrintNibbleAddr, 0xC22E#16, ⟨false, 0, 0⟩⟩,
  ⟨monitor.kPrintStringAddr, 0xC30E#16, ⟨false, 0, 2⟩⟩,
  ⟨monitor.kReadLineAddr, 0xC442#16, ⟨false, 0, 2⟩⟩,
  ⟨monitor.kParseAddrAddr, 0xC53A#16, ⟨false, 0, 2⟩⟩,
  ⟨monitor.kParseByteAddr, 0xC636#16, ⟨false, 0, 2⟩⟩,
  ⟨monitor.kHexValAddr, 0xC729#16, ⟨false, 0, 0⟩⟩,
  ⟨monitor.kDispatchAddr, 0xC898#16, ⟨false, 0, 5⟩⟩,
  ⟨monitor.kPeekAddr, 0xCA26#16, ⟨false, 0, 5⟩⟩,
  ⟨monitor.kListAddr, 0xCB66#16, ⟨false, 0, 5⟩⟩,
  ⟨monitor.kPokeAddr, 0xCC28#16, ⟨false, 0, 4⟩⟩,
  ⟨monitor.kRunAddr, 0xCD02#16, ⟨false, 0, 5⟩⟩,
  ⟨monitor.kColdStartAddr, monitor.kWarmStartAddr, ⟨true, 0, 7⟩⟩,
  ⟨monitor.kMainLoopAddr, 0xCF40#16, ⟨true, 0, 7⟩⟩,
  ⟨monitor.kSaveAddr, 0xD080#16, ⟨false, 0, 2⟩⟩,
  ⟨monitor.kLoadAddr, 0xD16E#16, ⟨false, 0, 3⟩⟩,
  -- the read of a byte from the tape, which pulls its datum on two ways
  ⟨0xD16E#16, 0xD17C#16, ⟨false, 0, 1⟩⟩,
  ⟨0xD17C#16, 0xD17F#16, ⟨false, 1, 1⟩⟩,
  ⟨monitor.kRewindAddr, 0xD220#16, ⟨false, 0, 2⟩⟩]

def Stretch.code (t : Stretch) : List (Word × Shape) := shapesTo t.stop 100 t.start t.shape

/-- The shape of an instruction of the firmware. -/
def shapeAt (pc : Word) : Option Shape :=
  (stretches.find? fun t => t.start.toNat ≤ pc.toNat ∧ pc.toNat < t.stop.toNat).bind fun t =>
    (t.code.find? fun p => p.1.toNat == pc.toNat).map (·.2)

/-- What is checked of every instruction. -/
def disciplined (pc : Word) (s : Shape) : Bool :=
  CallStack.checked flow shapeAt pc s && s.room ≤ 7 &&
    (pc = monitor.kRunAddr || flow pc ≠ .leave)

lemma stretches_disciplined :
    (stretches.all fun t => t.code.all fun p => disciplined p.1 p.2) = true := by
  -- one stretch at a time, as the kernel keeps all it has reduced until it is through
  unfold stretches
  iterate 20 refine (Bool.and_eq_true _ _).mpr ⟨by decide +kernel, ?_⟩
  decide +kernel

lemma disciplined_of_shapeAt {pc : Word} {s : Shape} (h : shapeAt pc = some s) : disciplined pc s = true := by
  obtain ⟨t, ht, hp⟩ := Option.bind_eq_some_iff.mp h
  obtain ⟨⟨pc', s'⟩, hfind, rfl⟩ := Option.map_eq_some_iff.mp hp
  obtain rfl : pc' = pc := by
    have heq := List.find?_some hfind
    exact BitVec.eq_of_toNat_eq (by simpa using heq)
  have hall := List.all_eq_true.mp stretches_disciplined t (List.mem_of_find?_eq_some ht)
  exact List.all_eq_true.mp hall _ (List.mem_of_find?_eq_some hfind)

lemma shapeAt_checked : CallStack.Checked flow shapeAt := by
  intro pc s h
  have hd := disciplined_of_shapeAt h
  simp only [disciplined, Bool.and_eq_true] at hd
  exact hd.1.1

lemma shapeAt_room (pc : Word) (s : Shape) (h : shapeAt pc = some s) : s.room ≤ 7 := by
  have hd := disciplined_of_shapeAt h
  simp only [disciplined, Bool.and_eq_true, decide_eq_true_eq] at hd
  exact hd.1.2

/-- Only `RUN` leaves. -/
lemma stays_of_shapeAt {pc : Word} {s : Shape} (h : shapeAt pc = some s) (hrun : pc ≠ monitor.kRunAddr) :
    flow pc ≠ .leave := by
  have hd := disciplined_of_shapeAt h
  simp only [disciplined, Bool.and_eq_true, Bool.or_eq_true, decide_eq_true_eq] at hd
  exact hd.2.resolve_left hrun

lemma line_of_flow {pc : Word} {f : Flow Word} (h : flow pc = f) (hf : f ≠ .leave) :
    ∃ l, line pc = some l ∧ l.storesSeen pc = true ∧ l.flow pc = f := by
  unfold flow at h
  split_ifs at h with hrun
  · exact absurd h.symm hf
  · cases hl : line pc with
    | none =>
      rw [hl] at h
      exact absurd h.symm hf
    | some l =>
      rw [hl] at h
      simp only at h
      split_ifs at h with hseen
      · exact ⟨l, rfl, hseen, h⟩
      · exact absurd h.symm hf

lemma absolute?_eq {o : Operand} {f : Word → Flow Word} {g : Flow Word}
    (h : (o.absolute?.map f).getD .leave = g) (hg : g ≠ .leave) : ∃ w, o = .absolute w ∧ f w = g := by
  cases o with
  | absolute w => exact ⟨w, rfl, h⟩
  | _ => exact absurd h.symm hg

lemma relative?_eq {o : Operand} {f : Byte → Flow Word} {g : Flow Word}
    (h : (o.relative?.map f).getD .leave = g) (hg : g ≠ .leave) : ∃ v, o = .relative v ∧ f v = g := by
  cases o with
  | relative v => exact ⟨v, rfl, h⟩
  | _ => exact absurd h.symm hg

lemma Line.flow_next {pc : Word} {l : Line} {targets : List Word} (h : l.flow pc = .next targets) :
    (∃ w, l.mnemonic = .JMP ∧ l.operand = .absolute w ∧ targets = [w]) ∨
    (∃ v, branches l.mnemonic = true ∧ l.operand = .relative v ∧
      targets = [pc + l.operand.length, Machine.branchTarget (pc + l.operand.length) v]) ∨
    (movesStack l.mnemonic = false ∧ l.mnemonic ≠ .JMP ∧ branches l.mnemonic = false ∧
      targets = [pc + l.operand.length]) := by
  unfold flow at h
  split_ifs at h with hjsr hrts hpha hpla hjmp hbranch hstack
  · obtain ⟨w, -, hw⟩ := absolute?_eq h (by simp)
    cases hw
  · obtain ⟨w, hw, htargets⟩ := absolute?_eq h (by simp)
    cases htargets
    exact .inl ⟨w, hjmp, hw, rfl⟩
  · obtain ⟨v, hv, htargets⟩ := relative?_eq h (by simp)
    cases htargets
    exact .inr (.inl ⟨v, hbranch, hv, rfl⟩)
  · cases h
    exact .inr (.inr ⟨by simpa using hstack, hjmp, by simpa using hbranch, rfl⟩)

/-- The other lines are told by their mnemonic. -/
lemma Line.flow_stack {pc : Word} {l : Line} {f : Flow Word} (h : l.flow pc = f) :
    (∀ w b, f = .call w b → l.mnemonic = .JSR ∧ l.operand = .absolute w ∧ b = pc + l.operand.length) ∧
    (f = .back → l.mnemonic = .RTS) ∧
    (∀ b, f = .push b → l.mnemonic = .PHA ∧ b = pc + l.operand.length) ∧
    (∀ b, f = .pull b → l.mnemonic = .PLA ∧ b = pc + l.operand.length) := by
  subst h
  unfold flow
  split_ifs with hjsr hrts hpha hpla hjmp hbranch hstack
  · cases ho : l.operand.absolute? with
    | none => simp
    | some w =>
      obtain ⟨w', hw', heq⟩ : ∃ w', l.operand = .absolute w' ∧ w' = w := by
        cases hop : l.operand with
        | absolute w' => exact ⟨w', rfl, Option.some.inj (by rw [← ho, hop]; rfl)⟩
        | _ => rw [hop] at ho; cases ho
      subst heq
      simp [hjsr, hw']
  · simp [hrts]
  · simp [hpha]
  · simp [hpla]
  · cases l.operand.absolute? <;> simp
  · cases l.operand.relative? <;> simp
  · simp
  · simp

/-- The bytes of a stack, the topmost first. A return address is pushed as the last byte of the `JSR`. -/
def stackBytes : List (Entry Word Byte) → List Byte
  | [] => []
  | .ret b :: stack => (b - 1#16).lo :: (b - 1#16).hi :: stackBytes stack
  | .datum v :: stack => v :: stackBytes stack

lemma length_stackBytes (stack : List (Entry Word Byte)) : (stackBytes stack).length = CallStack.size stack := by
  induction stack with
  | nil => rfl
  | cons e stack ih =>
    cases e with
    | ret b =>
      rw [CallStack.size_ret, ← ih]
      simp only [stackBytes, List.length_cons]
      omega
    | datum v =>
      rw [CallStack.size_datum, ← ih]
      simp only [stackBytes, List.length_cons]
      omega

/-- Neither the user's program is entered, nor does `POKE` or `LOAD` store to page 1. -/
def Confined : Event → Prop
  | .visit pc _ _ => pc ≠ monitor.kRunAddr
  | .access pc addr _ => pc ∈ storeSites → addr.hi ≠ 0x01#8
  | .tapeWrite _ _ _ => True

namespace Machine

/-- Below the SP of `m₀`, page 1 of `m` holds the stack; above, it is as in `m₀`. -/
structure Shadowed (m₀ : Machine) (stack : List (Entry Word Byte)) (m : Machine) : Prop where
  sp : m.sp = m₀.sp - BitVec.ofNat 8 (CallStack.size stack)
  holds : Isa.Holds m.bus.stack m.sp (stackBytes stack)
  scratch : Scratch 7 m₀.sp m₀.bus.stack m.bus.stack

namespace Shadowed

variable {m₀ m m' : Machine} {stack : List (Entry Word Byte)} {b : Word} {v : Byte}

lemma congr (h : Shadowed m₀ stack m) (hsp : m'.sp = m.sp) (hstack : m'.bus.stack = m.bus.stack) :
    Shadowed m₀ stack m' := by
  refine ⟨hsp.trans h.sp, ?_, ?_⟩
  · rw [hstack, hsp]
    exact h.holds
  · rw [hstack]
    exact h.scratch

/-- A byte is pushed. -/
lemma push_byte {bytes : List Byte} {page page' : Byte → Byte} {base sp : Byte} {n : Nat}
    (hsp : sp = base - BitVec.ofNat 8 n) (hn : n < 7) (hlen : bytes.length = n) (h : Isa.Holds page sp bytes)
    (hscratch : Scratch 7 base page' page) (v : Byte) :
    Isa.Holds (Function.update page sp v) (sp - 1#8) (v :: bytes) ∧
      Scratch 7 base page' (Function.update page sp v) := by
  have hback : sp - 1#8 + 1#8 = sp := by bv_omega
  refine ⟨⟨by rw [hback, Function.update_self], ?_⟩, fun x hx => ?_⟩
  · rw [hback]
    refine h.update (fun i hi heq => ?_) v
    bv_omega
  · have hne : x ≠ sp := by
      rintro rfl
      bv_omega
    rw [Function.update_of_ne hne]
    exact hscratch x hx

lemma push (h : Shadowed m₀ stack m) (hfree : 1 + CallStack.size stack ≤ 7) (hsp : m'.sp = m.sp - 1#8)
    (hstack : m'.bus.stack = Function.update m.bus.stack m.sp v) : Shadowed m₀ (.datum v :: stack) m' := by
  obtain ⟨hholds, hscratch⟩ :=
    push_byte h.sp (by omega) (length_stackBytes stack) h.holds h.scratch v
  refine ⟨?_, ?_, ?_⟩
  · rw [hsp, h.sp, CallStack.size_datum]
    bv_omega
  · rwa [hstack, hsp]
  · rwa [hstack]

lemma call (h : Shadowed m₀ stack m) (hfree : 2 + CallStack.size stack ≤ 7) (hsp : m'.sp = m.sp - 2#8)
    (hstack : m'.bus.stack = pushed m.bus.stack m.sp (b - 1#16)) : Shadowed m₀ (.ret b :: stack) m' := by
  obtain ⟨hholds, hscratch⟩ :=
    push_byte h.sp (by omega) (length_stackBytes stack) h.holds h.scratch (b - 1#16).hi
  have hsp₁ : m.sp - 1#8 = m₀.sp - BitVec.ofNat 8 (CallStack.size stack + 1) := by
    rw [h.sp]
    bv_omega
  obtain ⟨hholds', hscratch'⟩ := push_byte hsp₁ (by omega)
    (by rw [List.length_cons, length_stackBytes]) hholds hscratch (b - 1#16).lo
  have hsp₂ : m.sp - 1#8 - 1#8 = m.sp - 2#8 := by bv_omega
  rw [hsp₂] at hholds'
  refine ⟨?_, ?_, ?_⟩
  · rw [hsp, h.sp, CallStack.size_ret]
    bv_omega
  · rw [hstack, hsp]
    exact hholds'
  · rw [hstack]
    exact hscratch'

lemma pull (h : Shadowed m₀ (.datum v :: stack) m) (hsp : m'.sp = m.sp + 1#8)
    (hstack : m'.bus.stack = m.bus.stack) : Shadowed m₀ stack m' := by
  refine ⟨?_, ?_, ?_⟩
  · rw [hsp, h.sp, CallStack.size_datum]
    bv_omega
  · rw [hstack, hsp]
    exact h.holds.2
  · rw [hstack]
    exact h.scratch

/-- A return goes where the call has said. -/
lemma back (h : Shadowed m₀ (.ret b :: stack) m) (hsp : m'.sp = m.sp + 2#8)
    (hstack : m'.bus.stack = m.bus.stack) :
    word (m.bus.stack (m.sp + 2#8)) (m.bus.stack (m.sp + 1#8)) + 1#16 = b ∧ Shadowed m₀ stack m' := by
  have hsp₂ : m.sp + 1#8 + 1#8 = m.sp + 2#8 := by bv_omega
  obtain ⟨hlo, hhi, hholds⟩ := h.holds
  rw [hsp₂] at hhi hholds
  refine ⟨?_, ?_, ?_, ?_⟩
  · rw [hlo, hhi, word_hi_lo]
    bv_omega
  · rw [hsp, h.sp, CallStack.size_ret]
    bv_omega
  · rw [hstack, hsp]
    exact hholds
  · rw [hstack]
    exact h.scratch

end Shadowed

variable {m₀ m : Machine} {stack : List (Entry Word Byte)}

lemma visit_confined (h : ∀ x ∈ m.sees, Confined x) : m.pc ≠ monitor.kRunAddr := by
  intro hpc
  have hentry : m.pc ∈ entries := by
    rw [hpc]
    decide
  exact h m.visit (visit_mem_sees hentry) hpc

/-- A store that is confined is none to page 1. -/
lemma store_confined {l : Line} (hseen : l.storesSeen m.pc = true) (h : ∀ x ∈ m.sees, Confined x)
    (hstore : l.mnemonic.use = .store ∨ l.mnemonic.use = .modify ∧ l.operand ≠ .accumulator) :
    (Arch.address { m.poll with pc := m.pc + l.operand.length } l.operand).1.hi ≠ 0x01#8 := by
  have huse : l.mnemonic.use = .store ∨ l.mnemonic.use = .modify := hstore.imp_right And.left
  obtain ⟨mn, o, kind⟩ := l
  unfold Line.storesSeen at hseen
  rw [if_pos huse] at hseen
  have hzero : ∀ c : Byte, (word 0#8 c).hi ≠ 0x01#8 := by
    intro c
    rw [word_hi]
    decide
  cases o with
  | accumulator => exact (by decide : Word.hi 0#16 ≠ 0x01#8)
  | zeroPage c => exact hzero c
  | zeroPageX c => exact hzero _
  | absolute w => exact of_decide_eq_true hseen
  | indirectY c =>
    simp only [Bool.and_eq_true, decide_eq_true_eq] at hseen
    obtain ⟨rfl, hsite⟩ := hseen
    have hcursor : m.pc ∈ cursorSites := by
      simp only [storeSites, List.mem_cons, List.not_mem_nil, or_false] at hsite
      obtain hpc | hpc := hsite
      · rw [hpc]
        decide
      · rw [hpc]
        decide
    have hmem :
        Event.access m.pc (word m.bus.work.addrHi m.bus.work.addrLo + m.y.setWidth 16) m.step.a ∈ m.sees := by
      unfold sees
      rw [if_pos hcursor]
      simp
    have haddr := h _ hmem hsite
    simp only [Arch.address, Arch.pointer, read_zp]
    exact haddr
  | _ => cases hseen

lemma exec_branches {mn : Mnemonic} (h : branches mn = true) (v : Byte) (m : Machine) :
    ∃ taken : Bool, exec mn (.relative v) m = { m with pc := if taken then branchTarget m.pc v else m.pc } := by
  cases mn with
  | BPL | BMI | BVC | BVS | BCC | BCS | BNE | BEQ => exact ⟨_, exec_branch m v _⟩
  | _ => cases h

/-- What neither calls, returns, pushes nor pulls. -/
lemma next_follows {targets : List Word} (hgood : ∀ x ∈ m.sees, Confined x) (h : Shadowed m₀ stack m)
    (hflow : flow m.pc = .next targets) : m.step.pc ∈ targets ∧ Shadowed m₀ stack m.step := by
  obtain ⟨l, hl, hseen, hnext⟩ := line_of_flow hflow (by simp)
  have hstore := store_confined hseen hgood
  rw [step_line hl, execLine]
  set m₁ : Machine := { m.poll with pc := m.pc + l.operand.length } with hm₁
  have h₁ : Shadowed m₀ stack m₁ := h.congr rfl rfl
  obtain ⟨w, hmn, ho, rfl⟩ | ⟨v, hbranch, ho, rfl⟩ | ⟨hmoves, hjmp, hbranch, rfl⟩ := Line.flow_next hnext
  · rw [hmn, ho, exec_jmp]
    exact ⟨List.mem_singleton.mpr rfl, h₁.congr rfl rfl⟩
  · obtain ⟨taken, hexec⟩ := exec_branches hbranch v m₁
    have hpc₁ : m₁.pc = m.pc + l.operand.length := rfl
    rw [ho, hexec]
    refine ⟨?_, h₁.congr rfl rfl⟩
    cases taken with
    | true => exact List.mem_cons_of_mem _ (List.mem_singleton.mpr (by rw [← ho]; rfl))
    | false => exact List.mem_cons.mpr (.inl (by rw [← ho]; rfl))
  · have hkept := kept_exec hmoves hjmp hbranch hstore
    exact ⟨List.mem_singleton.mpr hkept.pc, h₁.congr hkept.sp hkept.stack⟩

/-- The firmware keeps its stack in page 1 as if it were out of reach. -/
lemma follows (m₀ : Machine) : CallStack.Follows flow 7 step Arch.pc (Shadowed m₀)
    fun m => ∀ x ∈ m.sees, Confined x where
  next hgood h hflow := next_follows hgood h hflow
  call {m stack w b} _ h hflow hfree := by
    obtain ⟨l, hl, -, hcall⟩ := line_of_flow hflow (by simp)
    obtain ⟨hmn, ho, rfl⟩ := (Line.flow_stack hcall).1 w b rfl
    rw [step_line hl, execLine, hmn, ho, exec_jsr]
    exact ⟨rfl, h.call hfree rfl rfl⟩
  back {m stack b} _ h hflow := by
    obtain ⟨l, hl, -, hback⟩ := line_of_flow hflow (by simp)
    have hmn := (Line.flow_stack hback).2.1 rfl
    have hexec : ∀ o (m : Machine), exec .RTS o m = exec .RTS .implied m := fun _ _ => rfl
    rw [step_line hl, execLine, hmn, hexec, exec_rts]
    exact h.back rfl rfl
  push {m stack b} _ h hflow hfree := by
    obtain ⟨l, hl, -, hpush⟩ := line_of_flow hflow (by simp)
    obtain ⟨hmn, rfl⟩ := (Line.flow_stack hpush).2.2.1 b rfl
    have hexec : ∀ o (m : Machine), exec .PHA o m = exec .PHA .implied m := fun _ _ => rfl
    rw [step_line hl, execLine, hmn, hexec, exec_pha]
    exact ⟨rfl, m.a, h.push hfree rfl rfl⟩
  pull {m stack b v} _ h hflow := by
    obtain ⟨l, hl, -, hpull⟩ := line_of_flow hflow (by simp)
    obtain ⟨hmn, rfl⟩ := (Line.flow_stack hpull).2.2.2 b rfl
    have hexec : ∀ o (m : Machine), exec .PLA o m = exec .PLA .implied m := fun _ _ => rfl
    rw [step_line hl, execLine, hmn, hexec, exec_pla]
    exact ⟨rfl, h.pull rfl rfl⟩

/-- A run from the top of the code. -/
lemma run_disciplined (hpc : m.pc = monitor.kMainLoopAddr ∨ m.pc = monitor.kColdStartAddr) {n : Nat}
    (hseen : ∀ x ∈ Run.trace step sees n m, Confined x) :
    ∃ stack, CallStack.Moves flow n (m.pc, []) ((step^[n] m).pc, stack) ∧ Shadowed m stack (step^[n] m) ∧
      CallStack.Framed shapeAt (step^[n] m).pc stack ∧ CallStack.size stack ≤ 7 := by
  have hstart : Shadowed m [] m := ⟨by simp [CallStack.size], trivial, .refl _ _ _⟩
  have hframed : CallStack.Framed (β := Byte) shapeAt m.pc [] := by
    have hshape : shapeAt m.pc = some ⟨true, 0, 7⟩ := by
      obtain hpc | hpc := hpc
      · rw [hpc]
        decide +kernel
      · rw [hpc]
        decide +kernel
    have htop : CallStack.Framed shapeAt m.pc (([] : List Byte).map .datum) := .top hshape rfl rfl
    exact htop
  refine (follows m).moves shapeAt_checked shapeAt_room (fun m' s hgood hs => ?_) hstart hframed n fun i hi x hx => ?_
  · exact stays_of_shapeAt hs (visit_confined hgood)
  · exact hseen x (Run.mem_trace.mpr ⟨i, hi, hx⟩)

end Machine

namespace System

/-- From a reset or from the prompt on, for any input and however long: unless the user's program is
entered or `POKE` or `LOAD` stores to page 1, control stays at the instructions of the firmware and goes as on
a machine whose return addresses are out of reach; no more than seven bytes of the stack are used, and all
the others are left alone. -/
theorem firmware_confined {sys sys' : System} (hready : sys.Ready)
    (hpc : sys.cpu.pc = monitor.kMainLoopAddr ∨ sys.cpu.pc = monitor.kColdStartAddr) {n : Nat}
    (hrun : sys.steps n = some sys') (hseen : ∀ x ∈ sys.seenIn n, Confined x) :
    (shapeAt sys'.cpu.pc).isSome ∧
    ∃ stack : List (Entry Word Byte), CallStack.Moves flow n (sys.cpu.pc, []) (sys'.cpu.pc, stack) ∧
      CallStack.size stack ≤ 7 ∧ sys'.cpu.sp = sys.cpu.sp - BitVec.ofNat 8 (CallStack.size stack) ∧
      Isa.Holds (fun b => sys'.ram (word 1#8 b)) sys'.cpu.sp (stackBytes stack) ∧
      ∀ b : Byte, 7 ≤ (sys.cpu.sp - b).toNat → sys'.ram (word 1#8 b) = sys.ram (word 1#8 b) := by
  have hm := hready.shows
  obtain ⟨sys₁, hsteps, hshows, htrace⟩ := hm.steps n
  rw [hrun] at hsteps
  cases hsteps
  rw [htrace] at hseen
  rw [hm.pc] at hpc
  obtain ⟨stack, hmoves, hshadowed, hframed, hsize⟩ := Machine.run_disciplined hpc hseen
  have hpage : (fun b => sys'.ram (word 1#8 b)) = (Machine.step^[n] sys.machine).bus.stack :=
    funext hshows.ram_stack
  obtain ⟨s, hs⟩ := hframed.shaped
  rw [hshows.pc, hshows.sp, hm.pc, hm.sp, hpage]
  refine ⟨by rw [hs]; rfl, stack, hmoves, hsize, hshadowed.sp, hshadowed.holds, fun b hb => ?_⟩
  rw [hshows.ram_stack, hm.ram_stack]
  exact hshadowed.scratch b hb

/-- A line that is no command, and all that is called for it. -/
theorem firmware_confined_bad : ∃ n sys', 0 < n ∧ (typing [0x58#8] default).steps n = some sys' ∧
    ∃ stack : List (Entry Word Byte), CallStack.Moves flow n (0xCF11#16, []) (0xCF11#16, stack) ∧
      sys'.cpu.sp = 0#8 - BitVec.ofNat 8 (CallStack.size stack) := by
  have hready := ready_typing [0x58#8] default
  have hears := hears_typing [0x58#8] default (by decide)
  have hin := hears.2
  rw [hready.shows.input] at hin
  obtain ⟨n, sys', m', hround, -, hserved, -⟩ :=
    hready.shows.round rfl (Machine.mainLoop_rejects rfl hears.1 hin (by decide))
  obtain ⟨x, work, e, -, hseen, hdone⟩ := hserved.done
  have hbad : e = [] := hdone.1
  have hconfined : ∀ ev ∈ (typing [0x58#8] default).seenIn n, Confined ev := by
    rw [hseen, hbad]
    rintro ev (_ | ⟨_, _ | _⟩)
    show (0xCF11#16 : Word) ≠ 0xCD00#16
    decide
  obtain ⟨-, stack, hmoves, -, hsp, -⟩ := firmware_confined hready (.inl rfl) hround.run hconfined
  rw [hround.pc] at hmoves
  exact ⟨n, sys', hround.pos, hround.run, stack, hmoves, hsp⟩

end System

end Sys6
