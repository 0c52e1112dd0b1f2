import Sys6.Monitor.Board
import Sys6.Proofs.BusTrace
import Sys6.Proofs.Reset

/-!
# The machine behind the monitor

The reference semantics on the board, with one poll of the terminal before each
instruction. A run of the system is a run of this machine.
-/

namespace Sys6

open Isa (Arch)

abbrev Machine := Arch Board

namespace Machine

def poll (m : Machine) : Machine := { m with bus := { m.bus with input := m.bus.input.poll } }

def step (m : Machine) : Machine := CPU6502.codeStep m.poll

end Machine

def Board.withPolls (polls : Nat → Option Byte) (b : Board) : Board :=
  { b with input := { b.input with polls := polls } }

/-- The answers of the terminal play no part in an access. -/
lemma Board.busMap_withPolls (polls : Nat → Option Byte) : Isa.BusMap (withPolls polls) where
  read b addr := by
    show (b.withPolls polls).read addr = ((b.read addr).1, (b.read addr).2.withPolls polls)
    unfold Board.read
    split_ifs <;> rfl
  write b addr v := by
    show (b.withPolls polls).write addr v = (b.write addr v).withPolls polls
    unfold Board.write
    split_ifs <;> rfl

lemma Machine.polls_step (m : Machine) : m.step.bus.input.polls = m.poll.bus.input.polls := by
  have h : CPU6502.codeStep m.poll =
      Arch.map (Board.withPolls m.poll.bus.input.polls) (CPU6502.codeStep m.poll) :=
    CPU6502.map_codeStep (Board.busMap_withPolls m.poll.bus.input.polls) m.poll
  have hp := congrArg (fun s : Machine => s.bus.input.polls) h
  exact hp

/-- The system as the constructor leaves it but for the contents of RAM, the terminal and
the CPU, which stands between two instructions. -/
structure System.Ready (sys : System) : Prop where
  settled : sys.cpu.Settled
  bus : System.bus sys.cpu.bus.devices = .ok sys.cpu.bus.bus
  ram : sys.cpu.bus.devices.ram.size = System.kRamSize
  rom : monitor.install ⟨monitor.kRomSize, fun _ => 0#8⟩ = .ok sys.cpu.bus.devices.rom

/-- The system and the machine are in the same state. -/
structure System.Shows (sys : System) (m : Machine) : Prop where
  settled : sys.cpu.Settled
  arch : sys.cpu.arch = m.map Board.wire
  term : sys.term = m.bus.input.polls

namespace System

/-- The three devices can be attached, and make up the system's bus. -/
lemma bus_eq {devices : Devices} (hram : devices.ram.size = kRamSize)
    (hrom : devices.rom.size = monitor.kRomSize) : System.bus devices = .ok Board.systemBus := by
  simp only [System.bus, Bus.attach, DeviceStore.size, hram, hrom]
  rfl

/-- The board of a system. -/
def board (sys : System) : Board where
  work :=
    { lineBuf := fun c => sys.cpu.bus.devices.ram.data (word 0#8 c)
      lineLen := sys.cpu.bus.devices.ram.data 0x0040#16
      linePos := sys.cpu.bus.devices.ram.data 0x0041#16
      tapeLenLo := sys.cpu.bus.devices.ram.data 0x0042#16
      tapeLenHi := sys.cpu.bus.devices.ram.data 0x0043#16
      checksum := sys.cpu.bus.devices.ram.data 0x0044#16
      addrLo := sys.cpu.bus.devices.ram.data 0x00F0#16
      addrHi := sys.cpu.bus.devices.ram.data 0x00F1#16
      addr2Lo := sys.cpu.bus.devices.ram.data 0x00F2#16
      addr2Hi := sys.cpu.bus.devices.ram.data 0x00F3#16
      byteVal := sys.cpu.bus.devices.ram.data 0x00F4#16
      scratchLo := sys.cpu.bus.devices.ram.data 0x00F5#16
      scratchHi := sys.cpu.bus.devices.ram.data 0x00F6#16
      rowCount := sys.cpu.bus.devices.ram.data 0x00F7#16
      strPtrLo := sys.cpu.bus.devices.ram.data 0x00FC#16
      strPtrHi := sys.cpu.bus.devices.ram.data 0x00FD#16 }
  low c := sys.cpu.bus.devices.ram.data (word 0#8 c)
  stack c := sys.cpu.bus.devices.ram.data (word 1#8 c)
  high := sys.cpu.bus.devices.ram.data
  input := ⟨sys.tty.rxReady, sys.tty.rxByte, sys.term⟩
  out := sys.tty.out
  tape := ⟨sys.tty.tapeBacking, sys.tty.tapePosition, sys.tty.tapeMotorOn, sys.tty.tapeEot,
    sys.tty.tapeError⟩

def machine (sys : System) : Machine :=
  ⟨sys.cpu.a, sys.cpu.x, sys.cpu.y, sys.cpu.sp, sys.cpu.pFlags, sys.cpu.pc, sys.cpu.halted,
    sys.board⟩

lemma zp_board (sys : System) (c : Byte) :
    sys.board.zp c = sys.cpu.bus.devices.ram.data (word 0#8 c) := by
  rcases Board.cell_cases c with h | h | h
  · simp only [Board.zp, if_pos h]
    rfl
  · rw [Board.zp_of_not_isWork h]
    rfl
  · simp only [List.mem_cons, List.not_mem_nil, or_false] at h
    rcases h with rfl | rfl | rfl | rfl | rfl | rfl | rfl | rfl | rfl | rfl | rfl | rfl | rfl |
      rfl | rfl
    all_goals rfl

lemma ram_board (sys : System) : sys.board.ram = sys.cpu.bus.devices.ram.data := by
  funext w
  unfold Board.ram
  split_ifs with h0 h1
  · rw [zp_board, ← h0, word_hi_lo]
  · show sys.cpu.bus.devices.ram.data (word 1#8 w.lo) = _
    rw [← h1, word_hi_lo]
  · rfl

/-- Every ready system is some machine. -/
theorem Ready.shows {sys : System} (h : sys.Ready) : sys.Shows sys.machine := by
  obtain ⟨hset, hbus, hram, hrom⟩ := h
  have hrom' : sys.cpu.bus.devices.rom = ⟨monitor.kRomSize, monitor.image⟩ := by
    rw [monitor.install_blank] at hrom
    exact (Except.ok.inj hrom).symm
  have hbus' : sys.cpu.bus.bus = Board.systemBus := by
    rw [bus_eq hram (by rw [hrom'])] at hbus
    exact (Except.ok.inj hbus).symm
  refine ⟨hset, ?_, rfl⟩
  have hwire : sys.cpu.bus = sys.board.wire := by
    show (⟨sys.cpu.bus.bus, ⟨⟨sys.cpu.bus.devices.ram.size, sys.cpu.bus.devices.ram.data⟩,
      sys.cpu.bus.devices.tty, sys.cpu.bus.devices.rom⟩⟩ : Wired DevicePtr Devices) = _
    rw [hbus', hram, hrom', ← ram_board]
    rfl
  unfold CPU6502.arch
  rw [hwire]
  rfl

lemma ready_of_wire {sys : System} {b : Board} (hs : sys.cpu.Settled) (hbus : sys.cpu.bus = b.wire) :
    sys.Ready := by
  refine ⟨hs, ?_, ?_, ?_⟩
  · rw [hbus, bus_eq rfl rfl]
    rfl
  · rw [hbus]
    rfl
  · rw [hbus, monitor.install_blank]
    rfl

lemma Shows.ready {sys : System} {m : Machine} (h : sys.Shows m) : sys.Ready :=
  ready_of_wire h.settled (congrArg Arch.bus h.arch)

lemma Shows.tty {sys : System} {m : Machine} (h : sys.Shows m) : sys.tty = m.bus.tty :=
  congrArg (fun a : Arch (Wired DevicePtr Devices) => a.bus.devices.tty) h.arch

lemma Shows.poll {sys : System} {m : Machine} (h : sys.Shows m) : sys.poll.Shows m.poll := by
  have htty := h.tty
  have hready : sys.tty.rxReady = m.bus.input.ready := congrArg TTY.rxReady htty
  unfold System.poll System.pull System.tryReadByte Machine.poll Input.poll
  rw [hready, h.term]
  by_cases hr : m.bus.input.ready = true
  · rw [if_pos hr, if_pos hr]
    exact h
  · rw [if_neg hr, if_neg hr]
    cases hp : m.bus.input.polls 0 with
    | none => exact ⟨h.settled, h.arch, rfl⟩
    | some b =>
      refine ⟨⟨h.settled.cpuStep, h.settled.clockPhase, h.settled.resetActive⟩, ?_, rfl⟩
      have hrecv : sys.tty.receive b = { m.bus.tty with rxByte := b, rxReady := true } := by
        unfold TTY.receive
        rw [hready, if_neg hr, htty]
      show ({ sys.cpu.arch with bus := { sys.cpu.arch.bus with devices := { sys.cpu.arch.bus.devices with
        tty := sys.tty.receive b } } } : Arch (Wired DevicePtr Devices)) = _
      rw [hrecv, h.arch]
      rfl

/-- One call of `step` is one step of the machine. -/
theorem Shows.step {sys : System} {m : Machine} (h : sys.Shows m) :
    ∃ sys', sys.step = some sys' ∧ sys'.Shows m.step := by
  have hp := h.poll
  obtain ⟨cpu', hrun, hset, harch⟩ := CPU6502.executeInstruction_refines hp.settled
  refine ⟨{ sys.poll with cpu := cpu' }, ?_, hset, ?_, ?_⟩
  · unfold System.step
    rw [hrun]
    rfl
  · show cpu'.arch = _
    rw [harch, hp.arch, CPU6502.map_codeStep Board.busMap_wire]
    rfl
  · exact hp.term.trans m.polls_step.symm

/-- Constructed, then reset and stepped any number of times, in any order. -/
inductive Reachable (term : Nat → Option Byte) (tapeBacking : Option IoStream) : System → Prop
  | create {sys : System} : System.create term tapeBacking = .ok sys → Reachable term tapeBacking sys
  | reset {sys sys' : System} : Reachable term tapeBacking sys → sys.reset = some sys' →
      Reachable term tapeBacking sys'
  | step {sys sys' : System} : Reachable term tapeBacking sys → sys.step = some sys' →
      Reachable term tapeBacking sys'

lemma create_ok (term : Nat → Option Byte) (tapeBacking : Option IoStream) :
    System.create term tapeBacking = .ok { term := term, cpu := { bus := ⟨Board.systemBus,
      ⟨RAM.ofSize kRamSize, { tapeBacking := tapeBacking }, ⟨monitor.kRomSize, monitor.image⟩⟩⟩ } } := by
  unfold System.create
  simp only
  rw [bus_eq rfl rfl, monitor.install_blank]
  rfl

lemma ready_create {term : Nat → Option Byte} {tapeBacking : Option IoStream} {sys : System}
    (h : System.create term tapeBacking = .ok sys) : sys.Ready := by
  rw [create_ok] at h
  cases h
  refine ⟨⟨rfl, rfl, rfl⟩, bus_eq rfl rfl, rfl, monitor.install_blank⟩

/-- A reset takes 28 ticks. -/
lemma Ready.reset {sys : System} (h : sys.Ready) : ∃ sys', sys.reset = some sys' ∧ sys'.Ready ∧
    sys'.cpu.arch = sys.cpu.arch.reset ∧ sys'.term = sys.term := by
  obtain ⟨cpu', hrun, hset, harch⟩ := CPU6502.reset_settled h.settled
  refine ⟨{ sys with cpu := cpu' }, by rw [System.reset, hrun]; rfl, ?_, harch, rfl⟩
  have hbus := harch
  rw [h.shows.arch, Arch.map_reset Board.busMap_wire] at hbus
  exact ready_of_wire hset (congrArg Arch.bus hbus)

lemma Reachable.ready {term : Nat → Option Byte} {tapeBacking : Option IoStream} {sys : System}
    (h : Reachable term tapeBacking sys) : sys.Ready := by
  induction h with
  | create h => exact ready_create h
  | reset _ hreset ih =>
    obtain ⟨sys', hreset', hready, -⟩ := ih.reset
    rw [hreset] at hreset'
    cases hreset'
    exact hready
  | step _ hstep ih =>
    obtain ⟨sys', hstep', hshows⟩ := ih.shows.step
    rw [hstep] at hstep'
    cases hstep'
    exact hshows.ready

end System

end Sys6
