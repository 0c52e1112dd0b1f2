import Sys6.Monitor.Reaches

/-!
# Calls of the routines

A routine that is called with a `JSR` is back when PC is behind the `JSR` and the return
address is off the stack. The lemmas about the machine are read here as facts about runs of
the system.
-/

namespace Sys6

open Isa (Arch)

/-- The addresses accessed through the cursor. -/
def Event.cursor : Event → Option Word
  | .access _ addr _ => some addr
  | _ => none

/-- What the loads through the cursor have read, and the stores written. -/
def Event.accessed : Event → Option (Word × Byte)
  | .access _ addr data => some (addr, data)
  | _ => none

namespace System

/-- A byte of RAM. -/
def ram (sys : System) (addr : Word) : Byte := sys.cpu.bus.devices.ram.data addr

/-- The word in `$F0/$F1`. -/
def addr (sys : System) : Word := word (sys.ram 0x00F1#16) (sys.ram 0x00F0#16)

/-- The word in `$F2/$F3`. -/
def addr2 (sys : System) : Word := word (sys.ram 0x00F3#16) (sys.ram 0x00F2#16)

/-- Where the `RTS` of a routine goes that has just been called. -/
def ret (sys : System) : Word :=
  word (sys.ram (word 1#8 (sys.cpu.sp + 2#8))) (sys.ram (word 1#8 (sys.cpu.sp + 1#8))) + 1#16

/-- The routine that `sys` has called is back at its caller. -/
def Back (sys sys' : System) : Prop :=
  sys'.cpu.pc = sys.ret ∧ sys'.cpu.sp = sys.cpu.sp + 2#8

/-- The routine at whose first instruction `sys` stands comes back to its caller in `n` steps. -/
structure ReturnsIn (sys : System) (n : Nat) (sys' : System) : Prop where
  run : sys.steps n = some sys'
  back : sys.Back sys'
  first : ∀ i < n, ∀ sys₁, sys.steps i = some sys₁ → ¬sys.Back sys₁

lemma ReturnsIn.unique {sys sys' sys'' : System} {n n' : Nat} (h : sys.ReturnsIn n sys')
    (h' : sys.ReturnsIn n' sys'') : n = n' ∧ sys' = sys'' := by
  obtain hlt | rfl | hlt := Nat.lt_trichotomy n n'
  · exact absurd h.back (h'.first n hlt sys' h.run)
  · exact ⟨rfl, Option.some.inj (h.run.symm.trans h'.run)⟩
  · exact absurd h'.back (h.first n' hlt sys'' h'.run)

/-- A system at `pc` where nothing is typed and RAM is zero off the workspace. -/
def standing (pc : Word) (work : Work) (tape : Tape) : System where
  term _ := none
  cpu :=
    { bus := Board.wire ⟨work, fun _ => 0#8, fun _ => 0#8, fun _ => 0#8, ⟨false, 0#8, fun _ => none⟩, [], tape⟩
      pc := pc }

/-- A tape at its start, held in memory. -/
def cassette (content : List Byte) : Tape :=
  { (default : Tape) with backing := some ⟨content, true, false, false, 0, 0, [], []⟩ }

lemma ready_standing (pc : Word) (work : Work) (tape : Tape) : (standing pc work tape).Ready :=
  ready_of_wire ⟨rfl, rfl, rfl⟩ rfl

lemma Shows.ram_zp {sys : System} {m : Machine} (h : sys.Shows m) (b : Byte) :
    sys.ram (word 0#8 b) = m.bus.zp b := by
  rw [System.ram, h.ram]
  simp [Board.ram]

lemma Shows.ram_stack {sys : System} {m : Machine} (h : sys.Shows m) (b : Byte) :
    sys.ram (word 1#8 b) = m.bus.stack b := by
  rw [System.ram, h.ram]
  simp [Board.ram]

lemma Shows.ret {sys : System} {m : Machine} (h : sys.Shows m) : sys.ret = m.ret := by
  rw [System.ret, h.ram_stack, h.ram_stack, h.sp]
  rfl

lemma back_iff {sys sys' : System} {m m' : Machine} (h : sys.Shows m) (h' : sys'.Shows m') :
    sys.Back sys' ↔ m'.pc = m.ret ∧ m'.sp = m.sp + 2#8 := by
  rw [Back, h.ret, h.sp, h'.pc, h'.sp]

/-- With at most 253 bytes of scratch the stack pointer is not above the return address. -/
lemma sp_ne_of_deep {k : Nat} {m m' : Machine} (hk : k ≤ 253) (h : m'.Deep k m.sp) :
    m'.sp ≠ m.sp + 2#8 := by
  unfold Machine.Deep at h
  intro hsp
  rw [hsp] at h
  bv_omega

/-- A routine that comes back: what holds of the machine then, and what the stack has kept. -/
theorem Shows.returned {sys : System} {m : Machine} {k : Nat} {q : Prop}
    {Q : List Event → Machine → Prop} (h : sys.Shows m)
    (hf : m.Does k m.sp q fun e m' => m'.pc = m.ret ∧ m'.sp = m.sp + 2#8 ∧ Q e m') (hk : k ≤ 253) :
    ∃ n sys' m', sys.ReturnsIn n sys' ∧ sys'.Shows m' ∧ Q (sys.seenIn n) m' ∧
      Scratch k m.sp m.bus.stack m'.bus.stack := by
  obtain ⟨evs, m', ⟨n, hrun, htrace, hwithin⟩, hs, -, hpc, hsp, hQ⟩ := hf
  obtain ⟨sys', hsteps, hshows, hseen⟩ := h.steps n
  rw [hrun] at hshows
  rw [← htrace, ← hseen] at hQ
  refine ⟨n, sys', m', ⟨hsteps, (back_iff h hshows).mpr ⟨hpc, hsp⟩, ?_⟩, hshows, hQ, hs⟩
  intro i hi sys₁ hsteps₁ hback
  obtain ⟨sys₂, hsteps₂, hshows₂, -⟩ := h.steps i
  rw [hsteps₁] at hsteps₂
  cases hsteps₂
  exact sp_ne_of_deep hk (hwithin i hi) ((back_iff h hshows₂).mp hback).2

/-- A routine that comes back, with what is seen of it and what it leaves behind. -/
theorem Shows.returns {sys : System} {m : Machine} {k : Nat} {q : Prop}
    {V : List Event → View → Prop} (h : sys.Shows m) (hf : m.Finishes k q V) (hk : k ≤ 253) :
    ∃ n sys' m', sys.ReturnsIn n sys' ∧ sys'.Shows m' ∧ V (sys.seenIn n) m'.view ∧
      Scratch k m.sp m.bus.stack m'.bus.stack :=
  h.returned (Q := fun e m' => V e m'.view) hf hk

/-- One that runs for ever does not. -/
theorem Shows.never_returns {sys sys' : System} {m : Machine} {k n : Nat} {E : Event → Prop}
    (h : sys.Shows m) (hs : m.Stays k m.sp E) (hk : k ≤ 253) : ¬sys.ReturnsIn n sys' := by
  intro hret
  obtain ⟨sys₁, hsteps, hshows, -⟩ := h.steps n
  rw [hret.run] at hsteps
  cases hsteps
  exact sp_ne_of_deep hk (hs n).1 ((back_iff h hshows).mp hret.back).2

lemma Shows.addr {sys : System} {m : Machine} (h : sys.Shows m) :
    sys.addr = word m.bus.work.addrHi m.bus.work.addrLo := by
  unfold System.addr System.ram
  rw [h.ram]
  rfl

lemma Shows.addr2 {sys : System} {m : Machine} (h : sys.Shows m) :
    sys.addr2 = word m.bus.work.addr2Hi m.bus.work.addr2Lo := by
  unfold System.addr2 System.ram
  rw [h.ram]
  rfl

lemma Shows.out {sys : System} {m : Machine} (h : sys.Shows m) : sys.tty.out = m.bus.out :=
  congrArg TTY.out h.tty

lemma Shows.tape {sys : System} {m : Machine} (h : sys.Shows m) :
    sys.tty.tapeBacking = m.bus.tape.backing ∧ sys.tty.tapePosition = m.bus.tape.position ∧
    sys.tty.tapeMotorOn = m.bus.tape.motorOn ∧ sys.tty.tapeEot = m.bus.tape.eot ∧
    sys.tty.tapeError = m.bus.tape.error := by
  rw [h.tty]
  exact ⟨rfl, rfl, rfl, rfl, rfl⟩

lemma Shows.board_tape {sys : System} {m : Machine} (h : sys.Shows m) : sys.board.tape = m.bus.tape := by
  show (⟨sys.tty.tapeBacking, sys.tty.tapePosition, sys.tty.tapeMotorOn, sys.tty.tapeEot,
    sys.tty.tapeError⟩ : Tape) = _
  rw [h.tty]
  rfl

/-- RAM is unchanged where page 0, the stack and the rest are. -/
lemma Shows.ram_eq {sys sys' : System} {m m' : Machine} (h : sys.Shows m) (h' : sys'.Shows m')
    {addr : Word} (hzp : addr.hi = 0#8 → m'.bus.zp addr.lo = m.bus.zp addr.lo)
    (hstack : addr.hi = 1#8 → m'.bus.stack addr.lo = m.bus.stack addr.lo)
    (hhigh : m'.bus.high addr = m.bus.high addr) : sys'.ram addr = sys.ram addr := by
  unfold System.ram
  rw [h.ram, h'.ram]
  unfold Board.ram
  split_ifs with h0 h1
  · exact hzp h0
  · exact hstack h1
  · exact hhigh

end System

end Sys6
