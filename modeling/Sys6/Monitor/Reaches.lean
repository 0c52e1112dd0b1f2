import Sys6.Monitor.Exec

/-!
# Stretches of firmware code

`Reaches m k s q evs P`: from `m` the machine comes to a state with `P`, seeing `evs`, and
writes at most the `k` bytes of the stack page at and below `s`; on the way its stack pointer
is at most `k` below `s`. Where `q` holds it does nothing to the terminal's input but poll
it. A routine `Returns` when it comes back to its caller with the stack pointer restored.
-/

namespace Sys6

open Isa (Arch)

/-- Only polls lie between the two. -/
def Polled (inp inp' : Input) : Prop := ∃ n, inp' = inp.after n

lemma Polled.refl (inp : Input) : Polled inp inp := ⟨0, rfl⟩

lemma Polled.trans {i j k : Input} (h : Polled i j) (h' : Polled j k) : Polled i k := by
  obtain ⟨a, rfl⟩ := h
  obtain ⟨b, rfl⟩ := h'
  exact ⟨a + b, Input.after_after a b i⟩

@[simp] lemma polled_after (inp : Input) (n : Nat) : Polled inp (inp.after n) := ⟨n, rfl⟩

@[simp] lemma polled_after_after (inp : Input) {a b : Nat} (h : a ≤ b) :
    Polled (inp.after a) (inp.after b) :=
  ⟨b - a, by rw [Input.after_after, Nat.add_sub_cancel' h]⟩

/-- Only the `k` bytes from `s` down differ. -/
def Scratch (k : Nat) (s : Byte) (stack stack' : Byte → Byte) : Prop :=
  ∀ b : Byte, k ≤ (s - b).toNat → stack' b = stack b

lemma Scratch.refl (k : Nat) (s : Byte) (stack : Byte → Byte) : Scratch k s stack stack :=
  fun _ _ => rfl

lemma Scratch.trans {k : Nat} {s : Byte} {u v w : Byte → Byte} (h : Scratch k s u v)
    (h' : Scratch k s v w) : Scratch k s u w :=
  fun b hb => (h' b hb).trans (h b hb)

lemma Scratch.mono {k k' : Nat} {s : Byte} {u v : Byte → Byte} (h : Scratch k s u v)
    (hk : k ≤ k') : Scratch k' s u v :=
  fun b hb => h b (by omega)

/-- What is left of the machine apart from PC, SP, A, P, the stack and the input. -/
structure View where
  x : Byte
  y : Byte
  work : Work
  low : Byte → Byte
  high : Word → Byte
  out : List Byte
  tape : Tape

namespace Machine

@[simp] def view (m : Machine) : View :=
  ⟨m.x, m.y, m.bus.work, m.bus.low, m.bus.high, m.bus.out, m.bus.tape⟩

/-- Where an `RTS` would go. -/
def ret (m : Machine) : Word :=
  word (m.bus.stack (m.sp + 2#8)) (m.bus.stack (m.sp + 1#8)) + 1#16

/-- The stack pointer is at most `k` below `s`. -/
def Deep (k : Nat) (s : Byte) (m : Machine) : Prop := (s - m.sp).toNat ≤ k

lemma Deep.mono {k k' : Nat} {s : Byte} {m : Machine} (h : Deep k s m) (hk : k ≤ k') : Deep k' s m :=
  Nat.le_trans h hk

/-- Seen from `j` bytes further up. -/
lemma Deep.below {k : Nat} {j s : Byte} {m : Machine} (h : Deep k (s - j) m) : Deep (k + j.toNat) s m := by
  unfold Deep at h ⊢
  bv_omega

def Reaches (m : Machine) (k : Nat) (s : Byte) (q : Prop) (evs : List Event)
    (P : Machine → Prop) : Prop :=
  ∃ m', m.Leads (Deep k s) evs m' ∧ Scratch k s m.bus.stack m'.bus.stack ∧
    (q → Polled m.bus.input m'.bus.input) ∧ P m'

/-- Nothing is said of A, P and the input. -/
@[simp] def Any (_ : Byte) (_ : PFlags) (_ : Input) : Prop := True

/-- PC and SP are these, `R` holds of A, P and the input, and the rest is `v`. -/
structure At (pc : Word) (sp : Byte) (R : Byte → PFlags → Input → Prop) (v : View) (m : Machine) :
    Prop where
  pc : m.pc = pc
  sp : m.sp = sp
  result : R m.a m.p m.bus.input
  view : m.view = v

@[simp] lemma at_iff {pc : Word} {sp : Byte} {R : Byte → PFlags → Input → Prop} {v : View} {m : Machine} :
    At pc sp R v m ↔ m.pc = pc ∧ m.sp = sp ∧ R m.a m.p m.bus.input ∧ m.view = v :=
  ⟨fun h => ⟨h.pc, h.sp, h.result, h.view⟩, fun h => ⟨h.1, h.2.1, h.2.2.1, h.2.2.2⟩⟩

/-- From its first instruction on, a routine comes back to its caller. -/
def Returns (m : Machine) (k : Nat) (q : Prop) (evs : List Event) (R : Byte → PFlags → Input → Prop)
    (v : View) : Prop :=
  Reaches m k m.sp q evs (At m.ret (m.sp + 2#8) R v)

variable {k : Nat} {s : Byte} {q : Prop} {m : Machine} {e e' : List Event} {P Q : Machine → Prop}
  {R : Byte → PFlags → Input → Prop} {v v' : View} {pc : Word} {sp : Byte}

lemma Reaches.refl (h : P m) : Reaches m k s q [] P :=
  ⟨m, .refl m, .refl k s _, fun _ => .refl _, h⟩

/-- Sequencing. -/
lemma Reaches.bind (h : Reaches m k s q e P) (h' : ∀ m', P m' → Reaches m' k s q e' Q) :
    Reaches m k s q (e ++ e') Q := by
  obtain ⟨m₁, hl, hs, hp, h₁⟩ := h
  obtain ⟨m₂, hl', hs', hp', h₂⟩ := h' m₁ h₁
  exact ⟨m₂, hl.trans hl', hs.trans hs', fun hq => (hp hq).trans (hp' hq), h₂⟩

lemma Reaches.mono {k' : Nat} {q' : Prop} (h : Reaches m k s q e P) (hk : k ≤ k') (hq : q' → q)
    (hP : ∀ m', P m' → Q m') : Reaches m k' s q' e Q := by
  obtain ⟨m', hl, hs, hp, h⟩ := h
  exact ⟨m', hl.mono fun _ hd => hd.mono hk, hs.mono hk, fun h => hp (hq h), hP m' h⟩

/-- What is known of the stack, told to the rest. -/
lemma Reaches.kept (h : Reaches m k s q e P) :
    Reaches m k s q e fun m' => P m' ∧ Scratch k s m.bus.stack m'.bus.stack := by
  obtain ⟨m', hl, hs, hp, h⟩ := h
  exact ⟨m', hl, hs, hp, h, hs⟩

/-- Sequencing after an unseen stretch whose end is known but for A, P, the input and the scratch
area of the stack. -/
lemma Reaches.nextKept {k' : Nat} (h : Reaches m k' s q [] (At pc sp R v)) (hk : k' ≤ k)
    (h' : ∀ a p halted stack input, R a p input → Scratch k' s m.bus.stack stack →
      Reaches ⟨a, v.x, v.y, sp, p, pc, halted,
        ⟨v.work, v.low, stack, v.high, input, v.out, v.tape⟩⟩ k s q e Q) :
    Reaches m k s q e Q := by
  refine Reaches.bind (e := []) (h.kept.mono hk id fun _ => id) ?_
  rintro ⟨a, x, y, sp, p, pc, halted, w, low, stack, high, input, out, tape⟩ ⟨⟨rfl, rfl, hr, hv⟩, hs⟩
  cases hv
  exact h' a p halted stack input hr hs

/-- The same where nothing needs to be known of the stack. -/
lemma Reaches.next {k' : Nat} (h : Reaches m k' s q [] (At pc sp R v)) (hk : k' ≤ k)
    (h' : ∀ a p halted stack input, R a p input → Reaches ⟨a, v.x, v.y, sp, p, pc, halted,
      ⟨v.work, v.low, stack, v.high, input, v.out, v.tape⟩⟩ k s q e Q) :
    Reaches m k s q e Q :=
  h.nextKept hk fun a p halted stack input hr _ => h' a p halted stack input hr

/-- The same after a stretch where one thing is seen. -/
lemma Reaches.nextSeen {k' : Nat} {ev : Event} (h : Reaches m k' s q [ev] (At pc sp R v))
    (hk : k' ≤ k) (h' : ∀ a p halted stack input, R a p input → Reaches ⟨a, v.x, v.y, sp, p, pc, halted,
      ⟨v.work, v.low, stack, v.high, input, v.out, v.tape⟩⟩ k s q e Q) :
    Reaches m k s q (ev :: e) Q := by
  refine Reaches.bind (e := [ev]) (h.mono hk id fun _ => id) ?_
  rintro ⟨a, x, y, sp, p, pc, halted, w, low, stack, high, input, out, tape⟩ ⟨rfl, rfl, hr, hv⟩
  cases hv
  exact h' a p halted stack input hr

/-- What is known of the input, told to the rest. -/
lemma Reaches.polled (h : Reaches m k s True e (At pc sp R v)) : Reaches m k s q e
    (At pc sp (fun a p input => R a p input ∧ Polled m.bus.input input) v) := by
  obtain ⟨m', hl, hs, hp, h⟩ := h
  exact ⟨m', hl, hs, fun _ => hp trivial, h.pc, h.sp, ⟨h.result, hp trivial⟩, h.view⟩

/-- The state it comes to. -/
lemma Reaches.state (h : Reaches m k s q e P) : ∃ m', P m' ∧ Reaches m k s q e (· = m') := by
  obtain ⟨m', hl, hs, hp, h⟩ := h
  exact ⟨m', h, m', hl, hs, hp, rfl⟩

lemma Reaches.polls (h : Reaches m k s q e P) :
    Reaches m k s False e fun m' => P m' ∧ (q → Polled m.bus.input m'.bus.input) := by
  obtain ⟨m', hl, hs, hp, h⟩ := h
  exact ⟨m', hl, hs, False.elim, h, hp⟩

/-- `n` lines lead to a state with `P` and leave the stack and the input alone. -/
@[simp] def Follows (m : Machine) (n k : Nat) (s : Byte) (q : Prop) (P : Machine → Prop) : Prop :=
  ∃ m', m.follow n = some m' ∧ (s - m.sp).toNat ≤ k ∧ m'.bus.stack = m.bus.stack ∧
    (q → Polled m.bus.input m'.bus.input) ∧ P m'

/-- The last lines of a stretch. -/
lemma Reaches.finish (n : Nat) (h : m.Follows n k s q P) : Reaches m k s q [] P := by
  obtain ⟨m', hf, hd, hs, hp, h⟩ := h
  have hlead : m.Leads (Deep k s) [] m' := by
    refine ⟨n, (leadsIn_of_follow n hf).mono fun m₁ hm => ?_⟩
    unfold Deep
    rwa [hm]
  refine ⟨m', hlead, ?_, hp, h⟩
  rw [hs]
  exact .refl k s _

/-- Lines on the way: they lead to `pc`. -/
lemma Reaches.via (n : Nat) (pc : Word) (R : Byte → PFlags → Input → Prop) (v : View)
    (h : m.Follows n k s q (At pc m.sp R v))
    (h' : ∀ a p halted stack input, R a p input → Reaches ⟨a, v.x, v.y, m.sp, p, pc, halted,
      ⟨v.work, v.low, stack, v.high, input, v.out, v.tape⟩⟩ k s q e Q) : Reaches m k s q e Q :=
  .next (.finish n h) le_rfl h'

/-- The bytes above the scratch area keep the return address. -/
lemma ret_eq_of_scratch {m m' : Machine} (hk : k ≤ 254) (hsp : m'.sp = m.sp)
    (hs : Scratch k m.sp m.bus.stack m'.bus.stack) : m'.ret = m.ret := by
  unfold ret
  rw [hsp, hs (m.sp + 2#8) (by bv_omega), hs (m.sp + 1#8) (by bv_omega)]

/-- Where the stack pointer is the same again, so is the return address. -/
lemma Reaches.same_ret (h : Reaches m k m.sp q e P) (hk : k ≤ 254) :
    Reaches m k m.sp q e fun m' => P m' ∧ (m'.sp = m.sp → m'.ret = m.ret) := by
  obtain ⟨m', hl, hs, hp, h⟩ := h
  exact ⟨m', hl, hs, hp, h, fun hsp => ret_eq_of_scratch hk hsp hs⟩

/-- One line, whatever is seen at it. -/
lemma Reaches.one {mn : Isa.Mnemonic} {o : Isa.Operand} {kind : LineKind}
    (hl : line m.pc = some ⟨mn, o, kind⟩) (hd : (s - m.sp).toNat ≤ k)
    (hs : (exec mn o { m.poll with pc := m.pc + o.length }).bus.stack = m.bus.stack)
    (hp : q → Polled m.bus.input (exec mn o { m.poll with pc := m.pc + o.length }).bus.input)
    (h : Reaches (exec mn o { m.poll with pc := m.pc + o.length }) k s q e P) :
    Reaches m k s q (m.sees ++ e) P := by
  have hstep : m.step = exec mn o { m.poll with pc := m.pc + o.length } := step_line hl
  rw [← hstep] at hs hp h
  obtain ⟨m', hlead, hs', hp', h⟩ := h
  exact ⟨m', hlead.head hd, hs ▸ hs', fun hq => (hp hq).trans (hp' hq), h⟩

/-- One line where nothing is seen. -/
lemma Reaches.unseen {mn : Isa.Mnemonic} {o : Isa.Operand} {kind : LineKind}
    (hl : line m.pc = some ⟨mn, o, kind⟩) (hk : kind ≠ .seen) (hd : (s - m.sp).toNat ≤ k)
    (hs : (exec mn o { m.poll with pc := m.pc + o.length }).bus.stack = m.bus.stack)
    (hp : q → Polled m.bus.input (exec mn o { m.poll with pc := m.pc + o.length }).bus.input)
    (h : Reaches (exec mn o { m.poll with pc := m.pc + o.length }) k s q e P) : Reaches m k s q e P := by
  have hline := Reaches.one hl hd hs hp h
  rwa [sees_of_kind hl hk] at hline

/-- The visit of an entry. -/
def visit (m : Machine) : Event :=
  .visit m.pc (word m.bus.work.addrHi m.bus.work.addrLo) (word m.bus.work.addr2Hi m.bus.work.addr2Lo)

lemma sees_entry {mn : Isa.Mnemonic} {o : Isa.Operand} (hl : line m.pc = some ⟨mn, o, .seen⟩)
    (hpc : m.pc ∈ entries) (hw : mayWriteTape mn o = false) : m.sees = [m.visit] := by
  have hcursor : m.pc ∉ cursorSites := by
    have hall : ∀ pc ∈ entries, pc ∉ cursorSites := by simp [entries, cursorSites]
    exact hall m.pc hpc
  unfold sees
  rw [if_pos hpc, if_neg hcursor, tapeWrites_line hl, effect_of_not_mayWriteTape _ hw]
  rfl

lemma not_mem_entries {pc : Word} (h : pc ∈ cursorSites) : pc ∉ entries := by
  have hall : ∀ pc ∈ cursorSites, pc ∉ entries := by simp [entries, cursorSites]
  exact hall pc h

/-- A load through the cursor. -/
lemma sees_load (hl : line m.pc = some ⟨.LDA, .indirectY 0xF0#8, .seen⟩) (hpc : m.pc ∈ cursorSites)
    (hy : m.y = 0#8) : m.sees = [.access m.pc (word m.bus.work.addrHi m.bus.work.addrLo)
      (exec .LDA (.indirectY 0xF0#8) { m.poll with pc := m.pc + 2#16 }).a] := by
  have hstep : m.step = exec .LDA (.indirectY 0xF0#8) { m.poll with pc := m.pc + 2#16 } := step_line hl
  unfold sees
  rw [if_neg (not_mem_entries hpc), if_pos hpc, tapeWrites_line hl, hstep, hy,
    effect_of_not_mayWriteTape _ rfl]
  simp

/-- A store through the cursor. -/
lemma sees_store (hl : line m.pc = some ⟨.STA, .indirectY 0xF0#8, .seen⟩) (hpc : m.pc ∈ cursorSites)
    (hy : m.y = 0#8) (hw : isTapeReg (word m.bus.work.addrHi m.bus.work.addrLo) = false) :
    m.sees = [.access m.pc (word m.bus.work.addrHi m.bus.work.addrLo) m.a] := by
  have hstep : m.step = exec .STA (.indirectY 0xF0#8) { m.poll with pc := m.pc + 2#16 } := step_line hl
  have ha : m.step.a = m.a := by
    rw [hstep]
    rfl
  have haddr : word m.bus.work.addrHi m.bus.work.addrLo + (0#8).setWidth 16 =
      word m.bus.work.addrHi m.bus.work.addrLo := by simp
  have hacc : Arch.effectAccesses { m.poll with pc := m.pc + 2#16 } .STA (.indirectY 0xF0#8) =
      [.write (word m.bus.work.addrHi m.bus.work.addrLo + m.y.setWidth 16) m.a] := rfl
  rw [hy, haddr] at hacc
  unfold sees
  rw [if_neg (not_mem_entries hpc), if_pos hpc, tapeWrites_line hl, ha, hy, haddr]
  simp only [Isa.Operand.length, hacc]
  simp [BusAccess.tapeWrite, hw]

/-- A store to a register of the tape. -/
lemma sees_tape {w : Word} (hl : line m.pc = some ⟨.STA, .absolute w, .seen⟩)
    (hpc : m.pc ∉ entries ∧ m.pc ∉ cursorSites) (hw : isTapeReg w = true) :
    m.sees = [.tapeWrite w m.a m.bus.tape.motorOn] := by
  have hacc : Arch.effectAccesses { m.poll with pc := m.pc + 3#16 } .STA (.absolute w) =
      [.write w m.a] := rfl
  unfold sees
  rw [if_neg hpc.1, if_neg hpc.2, tapeWrites_line hl]
  simp only [Isa.Operand.length, hacc]
  simp [BusAccess.tapeWrite, hw]

/-- The line at an entry. -/
lemma Reaches.entry {mn : Isa.Mnemonic} {o : Isa.Operand}
    (hl : line m.pc = some ⟨mn, o, .seen⟩) (hpc : m.pc ∈ entries) (hw : mayWriteTape mn o = false)
    (h : Reaches (exec mn o { m.poll with pc := m.pc + o.length }) k s q e P)
    (hd : (s - m.sp).toNat ≤ k := by simp)
    (hs : (exec mn o { m.poll with pc := m.pc + o.length }).bus.stack = m.bus.stack := by simp)
    (hp : q → Polled m.bus.input (exec mn o { m.poll with pc := m.pc + o.length }).bus.input := by simp) :
    Reaches m k s q (m.visit :: e) P := by
  have hline := Reaches.one hl hd hs hp h
  rwa [sees_entry hl hpc hw] at hline

/-- The first step of a stretch, at a line where nothing is seen. -/
lemma leads_line {I : Machine → Prop} {mn : Isa.Mnemonic} {o : Isa.Operand} {kind : LineKind}
    {m' : Machine} (hl : line m.pc = some ⟨mn, o, kind⟩) (hk : kind ≠ .seen) (hI : I m)
    (h : Machine.Leads I (exec mn o { m.poll with pc := m.pc + o.length }) e m') : m.Leads I e m' := by
  have hstep : m.step = exec mn o { m.poll with pc := m.pc + o.length } := step_line hl
  rw [← hstep] at h
  have hhead := h.head hI
  rwa [sees_of_kind hl hk] at hhead

/-- A byte kept on the stack from a `PHA` to its `PLA`. -/
lemma Reaches.saved (hl : line m.pc = some ⟨.PHA, .implied, .stack⟩)
    (hl' : line pc = some ⟨.PLA, .implied, .stack⟩) (hk : k ≤ 255)
    (h : ∀ halted stack input, Reaches ⟨m.a, m.x, m.y, m.sp - 1#8, m.p, m.pc + 1#16,
      halted, ⟨m.bus.work, m.bus.low, stack, m.bus.high, input, m.bus.out, m.bus.tape⟩⟩ k (m.sp - 1#8) q []
      (At pc (m.sp - 1#8) R v))
    (h' : ∀ p halted stack input, Reaches ⟨m.a, v.x, v.y, m.sp, p, pc + 1#16, halted,
      ⟨v.work, v.low, stack, v.high, input, v.out, v.tape⟩⟩ (k + 1) m.sp q e Q) :
    Reaches m (k + 1) m.sp q e Q := by
  obtain ⟨m₁, hlead, hs, hp, hpc, hsp, -, hv⟩ := h m.halted (Function.update m.bus.stack m.sp m.a)
    (m.bus.input.after 1)
  have hsp' : m.sp - 1#8 + 1#8 = m.sp := by bv_omega
  have hkept : m₁.bus.stack m.sp = m.a := by
    rw [hs m.sp (by bv_omega)]
    exact Function.update_self _ _ _
  have hscratch : Scratch (k + 1) m.sp m.bus.stack m₁.bus.stack := by
    intro b hb
    rw [hs b (by bv_omega)]
    exact Function.update_of_ne (by rintro rfl; simp at hb) _ _
  have hpla : m₁.Leads (Deep (k + 1) m.sp) [] ⟨m.a, v.x, v.y, m.sp, m₁.p.zn m.a, pc + 1#16, m₁.halted,
      ⟨v.work, v.low, m₁.bus.stack, v.high, m₁.bus.input.after 1, v.out, v.tape⟩⟩ := by
    refine leads_line (by rw [hpc]; exact hl') (by decide) ?_ ?_
    · unfold Deep
      rw [hsp]
      bv_omega
    obtain ⟨a, x, y, sp, p, pc, halted, w, low, stack, high, input, out, tape⟩ := m₁
    obtain rfl : pc = _ := hpc
    obtain rfl : sp = _ := hsp
    have hkept' : stack m.sp = m.a := hkept
    subst hv
    simpa [view, hsp', hkept'] using .refl _
  obtain ⟨m₂, hlead₂, hs₂, hp₂, h₂⟩ := h' _ _ _ _
  refine ⟨m₂, ?_, hscratch.trans hs₂, fun hq => ?_, h₂⟩
  · have hdeep : Machine.Leads (Deep (k + 1) m.sp) _ [] m₁ := hlead.mono fun m' hd => hd.below
    have hrun := (leads_line hl (by decide) (by simp [Deep]) (by simpa using hdeep)).trans
      (hpla.trans hlead₂)
    simpa using hrun
  · exact ((polled_after _ 1).trans (hp hq)).trans ((polled_after _ 1).trans (hp₂ hq))

lemma ret_pushed {m : Machine} {sp : Byte} {w : Word} {stack : Byte → Byte} (hsp : m.sp = sp - 2#8)
    (hs : m.bus.stack = pushed stack sp w) : m.ret = w + 1#16 := by
  have h1 : sp - 2#8 + 1#8 = sp - 1#8 := by bv_omega
  have h2 : sp - 2#8 + 2#8 = sp := by bv_omega
  have hne : sp ≠ sp - 1#8 := by bv_omega
  unfold ret
  rw [hsp, hs, h1, h2]
  simp [pushed, hne]

/-- The machine after `JSR w`. -/
def called (m : Machine) (w : Word) : Machine :=
  ⟨m.a, m.x, m.y, m.sp - 2#8, m.p, w, m.halted, ⟨m.bus.work, m.bus.low,
    pushed m.bus.stack m.sp (m.pc + 3#16 - 1#16), m.bus.high, m.bus.input.after 1, m.bus.out,
    m.bus.tape⟩⟩

lemma ret_called (w : Word) : (m.called w).ret = m.pc + 3#16 := by
  have h3 : m.pc + 3#16 - 1#16 + 1#16 = m.pc + 3#16 := by bv_omega
  exact (ret_pushed rfl rfl).trans h3

lemma leads_called {I : Machine → Prop} {w : Word} (hl : line m.pc = some ⟨.JSR, .absolute w, .stack⟩)
    (hI : I m) : m.Leads I [] (m.called w) :=
  leads_line hl (by decide) hI (by simpa [called] using .refl _)

lemma Reaches.call {w : Word} (hl : line m.pc = some ⟨.JSR, .absolute w, .stack⟩) (hk : k ≤ 254)
    (h : Reaches (m.called w) k (m.sp - 2#8) q e P) : Reaches m (k + 2) m.sp q e P := by
  obtain ⟨m', hlead, hs, hp, h⟩ := h
  have hcall : m.Leads (Deep (k + 2) m.sp) [] (m.called w) := leads_called hl (by simp [Deep])
  refine ⟨m', hcall.trans (hlead.mono fun m' hd => hd.below), ?_, fun hq => ?_, h⟩
  · intro b hb
    rw [hs b (by bv_omega)]
    have h0 : b ≠ m.sp := by rintro rfl; simp at hb
    have h1 : b ≠ m.sp - 1#8 := by
      rintro rfl
      bv_omega
    simp [called, pushed, h0, h1]
  · exact (polled_after _ 1).trans (hp hq)

/-- A call. -/
lemma Returns.call {w : Word} (hl : line m.pc = some ⟨.JSR, .absolute w, .stack⟩) (hk : k ≤ 254)
    (h : ∀ halted stack, Returns ⟨m.a, m.x, m.y, m.sp - 2#8, m.p, w, halted, ⟨m.bus.work,
      m.bus.low, stack, m.bus.high, m.bus.input.after 1, m.bus.out, m.bus.tape⟩⟩ k q e R v) :
    Reaches m (k + 2) m.sp q e (At (m.pc + 3#16) m.sp R v) := by
  have hsp : m.sp - 2#8 + 2#8 = m.sp := by bv_omega
  refine Reaches.call hl hk ((h m.halted _).mono le_rfl id fun m' hm => ?_)
  exact ⟨hm.pc.trans (ret_called w), hm.sp.trans hsp, hm.result, hm.view⟩

/-- The machine is about to execute an `RTS`. -/
structure Leaving (sp : Byte) (R : Byte → PFlags → Input → Prop) (v : View) (m : Machine) : Prop where
  line : line m.pc = some ⟨.RTS, .implied, .stack⟩
  sp : m.sp = sp
  result : R m.a m.p (m.bus.input.after 1)
  view : m.view = v

@[simp] lemma leaving_iff : Leaving sp R v m ↔ Sys6.line m.pc = some ⟨.RTS, .implied, .stack⟩ ∧ m.sp = sp ∧
    R m.a m.p (m.bus.input.after 1) ∧ m.view = v :=
  ⟨fun h => ⟨h.line, h.sp, h.result, h.view⟩, fun h => ⟨h.1, h.2.1, h.2.2.1, h.2.2.2⟩⟩

/-- A routine that ends in `RTS`. -/
lemma Returns.of_rts (hk : k ≤ 254) (h : Reaches m k m.sp q e (Leaving m.sp R v)) :
    Returns m k q e R v := by
  obtain ⟨m', hlead, hs, hp, hl, hsp, hr, hv⟩ := h
  have hret := ret_eq_of_scratch hk hsp hs
  have hlast : m'.Leads (Deep k m.sp) [] (exec .RTS .implied { m'.poll with pc := m'.pc + 1#16 }) :=
    leads_line hl (by decide) (by simp [Deep, hsp]) (.refl _)
  have hlead' := hlead.trans hlast
  rw [List.append_nil, exec_rts] at hlead'
  refine ⟨_, hlead', hs, fun hq => (hp hq).trans (polled_after _ 1), ?_⟩
  refine ⟨hret, ?_, hr, hv⟩
  rw [← hsp]
  rfl

/-- It runs on for ever with its stack pointer at most `k` below `s`, and only `E` is seen. -/
def Stays (m : Machine) (k : Nat) (s : Byte) (E : Event → Prop) : Prop :=
  Run.Always step sees (Deep k s) E m

lemma Stays.mono {k' : Nat} {E E' : Event → Prop} (h : Stays m k s E) (hk : k ≤ k')
    (hE : ∀ x, E x → E' x) : Stays m k' s E' :=
  Run.Always.mono h (fun _ hd => hd.mono hk) hE

lemma Reaches.stays {E : Event → Prop} (h : Reaches m k s q e P) (he : ∀ x ∈ e, E x)
    (h' : ∀ m', P m' → Stays m' k s E) : Stays m k s E := by
  obtain ⟨m', hlead, -, -, hP⟩ := h
  exact Run.Leads.always hlead he (h' m' hP)

lemma stays_call {E : Event → Prop} {w : Word} (hl : line m.pc = some ⟨.JSR, .absolute w, .stack⟩)
    (h : ∀ halted stack, Stays ⟨m.a, m.x, m.y, m.sp - 2#8, m.p, w, halted, ⟨m.bus.work,
      m.bus.low, stack, m.bus.high, m.bus.input.after 1, m.bus.out, m.bus.tape⟩⟩ k (m.sp - 2#8) E) :
    Stays m (k + 2) m.sp E := by
  have hcall : m.Leads (Deep (k + 2) m.sp) [] (m.called w) := leads_called hl (by simp [Deep])
  exact Run.Leads.always hcall (by simp) (Run.Always.mono (h _ _) (fun m' hd => hd.below) fun _ => id)

/-- A routine that ends in another one. -/
lemma Returns.tail (hk : k ≤ 254)
    (h : Reaches m k m.sp q e fun m' => m'.sp = m.sp ∧ Returns m' k q e' R v) :
    Returns m k q (e ++ e') R v := by
  obtain ⟨m₁, hlead, hs, hp, hsp, m', hlead', hs', hp', h⟩ := h
  rw [hsp] at hlead'
  refine ⟨m', hlead.trans hlead', hs.trans (hsp ▸ hs'), fun hq => (hp hq).trans (hp' hq), ?_⟩
  rw [ret_eq_of_scratch hk hsp hs, hsp] at h
  exact h

/-- As `Reaches`, with `Q` of what is seen and the state the machine comes to. -/
def Does (m : Machine) (k : Nat) (s : Byte) (q : Prop) (Q : List Event → Machine → Prop) : Prop :=
  ∃ e, Reaches m k s q e (Q e)

section Does

variable {Q : List Event → Machine → Prop} {V : List Event → View → Prop}

lemma Does.refl (h : Q [] m) : Does m k s q Q := ⟨[], .refl h⟩

lemma Does.mono {k' : Nat} {q' : Prop} {Q' : List Event → Machine → Prop} (h : Does m k s q Q)
    (hk : k ≤ k') (hq : q' → q) (hQ : ∀ e m', Q e m' → Q' e m') : Does m k' s q' Q' := by
  obtain ⟨e, h⟩ := h
  exact ⟨e, h.mono hk hq (hQ e)⟩

lemma Reaches.does (h : Reaches m k s q e P)
    (h' : ∀ m', P m' → Does m' k s q fun e' => Q (e ++ e')) : Does m k s q Q := by
  obtain ⟨m₁, hl, hs, hp, h₁⟩ := h
  obtain ⟨e', m₂, hl', hs', hp', h₂⟩ := h' m₁ h₁
  exact ⟨e ++ e', m₂, hl.trans hl', hs.trans hs', fun hq => (hp hq).trans (hp' hq), h₂⟩

lemma Does.bind {Q' : List Event → Machine → Prop} (h : Does m k s q Q')
    (h' : ∀ e m', Q' e m' → Does m' k s q fun e' => Q (e ++ e')) : Does m k s q Q := by
  obtain ⟨e, h⟩ := h
  exact h.does (h' e)

/-- The scratch area of a routine, as its caller sees it. -/
lemma Does.deeper (h : Does m k (s - 2#8) q Q) (hk : k ≤ 253) : Does m (k + 2) s q Q := by
  obtain ⟨e, m', hl, hs, hp, hQ⟩ := h
  refine ⟨e, m', hl.mono fun m₁ hd => hd.below, fun b hb => hs b ?_, hp, hQ⟩
  bv_omega

lemma Stays.deeper {E : Event → Prop} (h : Stays m k (s - 2#8) E) : Stays m (k + 2) s E :=
  Run.Always.mono h (fun _ hd => hd.below) fun _ => id

lemma Does.polls (h : Does m k s q Q) :
    Does m k s False fun e m' => Q e m' ∧ (q → Polled m.bus.input m'.bus.input) := by
  obtain ⟨e, h⟩ := h
  exact ⟨e, h.polls⟩

lemma Does.or {Q' : List Event → Machine → Prop} (h : Does m k s q fun e m' => Q e m' ∨ Q' e m') :
    Does m k s q Q ∨ Does m k s q Q' := by
  obtain ⟨e, m', hl, hs, hp, hQ | hQ⟩ := h
  · exact .inl ⟨e, m', hl, hs, hp, hQ⟩
  · exact .inr ⟨e, m', hl, hs, hp, hQ⟩

lemma Does.next {k' : Nat} (h : Reaches m k' s q e (At pc sp R v)) (hk : k' ≤ k)
    (h' : ∀ a p halted stack input, R a p input → Does ⟨a, v.x, v.y, sp, p, pc, halted,
      ⟨v.work, v.low, stack, v.high, input, v.out, v.tape⟩⟩ k s q fun e' => Q (e ++ e')) :
    Does m k s q Q := by
  refine (h.mono hk id fun _ => id).does ?_
  rintro ⟨a, x, y, sp, p, pc, halted, w, low, stack, high, input, out, tape⟩ ⟨rfl, rfl, hr, hv⟩
  cases hv
  exact h' a p halted stack input hr

lemma Does.finish (n : Nat) (h : m.Follows n k s q (Q [])) : Does m k s q Q :=
  ⟨[], .finish n h⟩

lemma Does.via (n : Nat) (pc : Word) (R : Byte → PFlags → Input → Prop) (v : View)
    (h : m.Follows n k s q (At pc m.sp R v))
    (h' : ∀ a p halted stack input, R a p input → Does ⟨a, v.x, v.y, m.sp, p, pc, halted,
      ⟨v.work, v.low, stack, v.high, input, v.out, v.tape⟩⟩ k s q Q) : Does m k s q Q :=
  .next (.finish n h) le_rfl h'

lemma Does.entry {mn : Isa.Mnemonic} {o : Isa.Operand}
    (hl : line m.pc = some ⟨mn, o, .seen⟩) (hpc : m.pc ∈ entries) (hw : mayWriteTape mn o = false)
    (h : Does (exec mn o { m.poll with pc := m.pc + o.length }) k s q fun e => Q (m.visit :: e))
    (hd : (s - m.sp).toNat ≤ k := by simp)
    (hs : (exec mn o { m.poll with pc := m.pc + o.length }).bus.stack = m.bus.stack := by simp)
    (hp : q → Polled m.bus.input (exec mn o { m.poll with pc := m.pc + o.length }).bus.input := by simp) :
    Does m k s q Q := by
  obtain ⟨e, h⟩ := h
  exact ⟨_, .entry hl hpc hw h hd hs hp⟩

lemma Does.stays {E : Event → Prop} (h : Does m k s q Q)
    (h' : ∀ e m', Q e m' → (∀ x ∈ e, E x) ∧ Stays m' k s E) : Stays m k s E := by
  obtain ⟨e, m', hlead, -, -, hQ⟩ := h
  exact Run.Leads.always hlead (h' e m' hQ).1 (h' e m' hQ).2

/-- A loop that never ends, with something seen in every round. -/
theorem stays_of_recurrent {E : Event → Prop} (inv : Machine → Prop)
    (hinv : ∀ m, inv m → Does m k s False fun e m' => e ≠ [] ∧ (∀ x ∈ e, E x) ∧ inv m')
    (h : inv m) : Stays m k s E := by
  refine Run.always_of_recurrent inv (fun m hm => .inr ?_) h
  obtain ⟨e, m', hlead, -, -, hne, hE, hm'⟩ := hinv m hm
  exact ⟨e, m', Run.Leads.on_of_event hlead hne, hE, hm'⟩

/-- A routine comes back to its caller, with `V` of what is seen and of the view. -/
def Finishes (m : Machine) (k : Nat) (q : Prop) (V : List Event → View → Prop) : Prop :=
  Does m k m.sp q fun e m' => m'.pc = m.ret ∧ m'.sp = m.sp + 2#8 ∧ V e m'.view

lemma Returns.finishes (h : Returns m k q e R v) (hV : V e v) : Finishes m k q V := by
  refine ⟨e, h.mono le_rfl id fun m' hm => ⟨hm.pc, hm.sp, ?_⟩⟩
  rwa [hm.view]

lemma Finishes.mono {k' : Nat} {q' : Prop} {V' : List Event → View → Prop} (h : Finishes m k q V)
    (hk : k ≤ k') (hq : q' → q) (hV : ∀ e v, V e v → V' e v) : Finishes m k' q' V' :=
  Does.mono h hk hq fun e m' hm => ⟨hm.1, hm.2.1, hV e m'.view hm.2.2⟩

lemma Finishes.of_rts (hk : k ≤ 254) (h : Does m k m.sp q fun e m' =>
    line m'.pc = some ⟨.RTS, .implied, .stack⟩ ∧ m'.sp = m.sp ∧ V e m'.view) : Finishes m k q V := by
  obtain ⟨e, m', hlead, hs, hp, hl, hsp, hV⟩ := h
  have hleave : Leaving m.sp Any m'.view m' := ⟨hl, hsp, trivial, rfl⟩
  exact Returns.finishes (.of_rts hk ⟨m', hlead, hs, hp, hleave⟩) hV

lemma Finishes.tail (hk : k ≤ 254) (h : Does m k m.sp q fun e m' =>
    m'.sp = m.sp ∧ Finishes m' k q fun e' => V (e ++ e')) : Finishes m k q V := by
  obtain ⟨e, m₁, hlead, hs, hp, hsp, e', m', hlead', hs', hp', h⟩ := h
  rw [hsp] at hlead'
  refine ⟨e ++ e', m', hlead.trans hlead', hs.trans (hsp ▸ hs'), fun hq => (hp hq).trans (hp' hq), ?_⟩
  rw [ret_eq_of_scratch hk hsp hs, hsp] at h
  exact h

end Does

end Machine

end Sys6
