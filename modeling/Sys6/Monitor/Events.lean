import Sys6.Library.Run
import Sys6.Monitor.Machine

/-!
# What is seen of a run

The places of the firmware where something is decided about a command, and the writes to the
registers of the tape, wherever they come from.
-/

namespace Sys6

open Isa (Arch)

/-- The prompt and the entries of the commands. -/
def entries : List Word :=
  [0xCF11#16, 0xCA00#16, 0xCB00#16, 0xCC00#16, 0xCD00#16, 0xD000#16, 0xD100#16, 0xD200#16]

/-- The loads and stores through the cursor in `$F0/$F1`: those of `PEEK`, `LIST`, `SAVE`, `POKE`
and `LOAD`. -/
def cursorSites : List Word := [0xCA16#16, 0xCB2E#16, 0xD053#16, 0xCC1C#16, 0xD134#16]

/-- `TAPE_STATUS`, `TAPE_CONTROL` and `TAPE_DATA`. -/
def isTapeReg (addr : Word) : Bool := 0x8002#16 ≤ addr && addr ≤ 0x8004#16

inductive Event
  /-- The first instruction at an entry, with the words in `$F0/$F1` and `$F2/$F3`. -/
  | visit (pc addr addr2 : Word)
  /-- An access through the cursor, with its effective address and A after it: the byte that a
  load has read, or that a store has written. -/
  | access (pc addr : Word) (data : Byte)
  /-- A write to a register of the tape, with its motor on or off. -/
  | tapeWrite (addr : Word) (val : Byte) (motorOn : Bool)
deriving DecidableEq, Repr

def BusAccess.tapeWrite (motorOn : Bool) : BusAccess → Option Event
  | .read _ => none
  | .write addr val => if isTapeReg addr then some (.tapeWrite addr val motorOn) else none

namespace System

/-- What is seen of the coming `step`. -/
def sees (sys : System) : List Event :=
  let ram := sys.cpu.bus.devices.ram.data
  let cursor := word (ram 0x00F1#16) (ram 0x00F0#16)
  (if sys.cpu.pc ∈ entries then
    [.visit sys.cpu.pc cursor (word (ram 0x00F3#16) (ram 0x00F2#16))] else []) ++
  (if sys.cpu.pc ∈ cursorSites then
    [.access sys.cpu.pc (cursor + sys.cpu.y.setWidth 16)
      ((sys.step.map fun sys => sys.cpu.a).getD 0#8)] else []) ++
    (sys.poll.cpu.sees noteRead noteWrite).filterMap (BusAccess.tapeWrite sys.tty.tapeMotorOn)

/-- What is seen in `n` steps. -/
def seenIn : Nat → System → List Event
  | 0, _ => []
  | n + 1, sys => sys.sees ++ (sys.step.map (seenIn n)).getD []

end System

namespace Machine

def tapeWrites (m : Machine) : List Event :=
  m.poll.accesses.filterMap (BusAccess.tapeWrite m.bus.tape.motorOn)

def sees (m : Machine) : List Event :=
  (if m.pc ∈ entries then
    [.visit m.pc (word m.bus.work.addrHi m.bus.work.addrLo)
      (word m.bus.work.addr2Hi m.bus.work.addr2Lo)] else []) ++
  (if m.pc ∈ cursorSites then
    [.access m.pc (word m.bus.work.addrHi m.bus.work.addrLo + m.y.setWidth 16) m.step.a]
    else []) ++
    m.tapeWrites

end Machine

namespace System

lemma Shows.pc {sys : System} {m : Machine} (h : sys.Shows m) : sys.cpu.pc = m.pc :=
  congrArg Arch.pc h.arch

lemma Shows.a {sys : System} {m : Machine} (h : sys.Shows m) : sys.cpu.a = m.a :=
  congrArg Arch.a h.arch

lemma Shows.x {sys : System} {m : Machine} (h : sys.Shows m) : sys.cpu.x = m.x :=
  congrArg Arch.x h.arch

lemma Shows.y {sys : System} {m : Machine} (h : sys.Shows m) : sys.cpu.y = m.y :=
  congrArg Arch.y h.arch

lemma Shows.sp {sys : System} {m : Machine} (h : sys.Shows m) : sys.cpu.sp = m.sp :=
  congrArg Arch.sp h.arch

lemma Shows.p {sys : System} {m : Machine} (h : sys.Shows m) : sys.cpu.pFlags = m.p :=
  congrArg Arch.p h.arch

lemma Shows.ram {sys : System} {m : Machine} (h : sys.Shows m) :
    sys.cpu.bus.devices.ram.data = m.bus.ram :=
  congrArg (fun a : Arch (Wired DevicePtr Devices) => a.bus.devices.ram.data) h.arch

lemma Shows.sees {sys : System} {m : Machine} (h : sys.Shows m) : sys.sees = m.sees := by
  obtain ⟨sys', hstep, h'⟩ := h.step
  have hmotor : sys.tty.tapeMotorOn = m.bus.tape.motorOn := congrArg TTY.tapeMotorOn h.tty
  have hacc : sys.poll.cpu.sees noteRead noteWrite = m.poll.accesses := by
    rw [CPU6502.sees_accesses h.poll.settled, h.poll.arch, Arch.map_accesses Board.busMap_wire]
  unfold System.sees Machine.sees Machine.tapeWrites
  simp only [hstep, Option.map_some, Option.getD_some, h.pc, h.y, h.ram, h'.a, hmotor, hacc]
  rfl

/-- A run of the system is a run of the machine, and the same is seen of it. -/
theorem Shows.steps {sys : System} {m : Machine} (h : sys.Shows m) (n : Nat) :
    ∃ sys', sys.steps n = some sys' ∧ sys'.Shows (Machine.step^[n] m) ∧
      sys.seenIn n = Run.trace Machine.step Machine.sees n m := by
  induction n generalizing sys m with
  | zero => exact ⟨sys, rfl, h, rfl⟩
  | succ n ih =>
    obtain ⟨sys₁, hstep, h₁⟩ := h.step
    obtain ⟨sys', hsteps, h', hseen⟩ := ih h₁
    refine ⟨sys', ?_, h', ?_⟩
    · rw [System.steps, hstep]
      exact hsteps
    · rw [seenIn, hstep, Run.trace, h.sees]
      exact congrArg (m.sees ++ ·) hseen

end System

end Sys6
