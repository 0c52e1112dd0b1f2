import Sys6.Cpu.Clock
import Sys6.Peripherals.Tty
import Sys6.System.MonitorFirmware

/-!
# The system

CPU, bus, RAM, terminal and monitor ROM as the constructor wires them. The terminal is the
sequence of its answers to `tryReadByte`.
-/

namespace Sys6

inductive DevicePtr
  | ram | tty | rom
deriving DecidableEq, Repr

structure Devices where
  ram : RAM
  tty : TTY
  rom : ROM

instance : DeviceStore DevicePtr Devices where
  size devices
    | .ram => devices.ram.size
    | .tty => TTY.size
    | .rom => devices.rom.size
  read devices ptr offset :=
    match ptr with
    | .ram => (devices.ram.read offset, devices)
    | .tty => ((devices.tty.read offset).1, { devices with tty := (devices.tty.read offset).2 })
    | .rom => (devices.rom.read offset, devices)
  write devices ptr offset val :=
    match ptr with
    | .ram => { devices with ram := devices.ram.write offset val }
    | .tty => { devices with tty := devices.tty.write offset val }
    | .rom => { devices with rom := devices.rom.write offset val }

/-- `m_bus` and the devices are the bus of the CPU. -/
structure System where
  term : Nat → Option Byte
  cpu : CPU6502 (Wired DevicePtr Devices)

namespace System

def kRamSize : Nat := 0x8000

def bus (devices : Devices) : Except String (Bus DevicePtr) := do
  let bus ← Bus.attach devices 0x0000#16 0x7FFF#16 .ram {}
  let bus ← Bus.attach devices 0x8000#16 0x80FF#16 .tty bus
  Bus.attach devices 0xC000#16 0xFFFF#16 .rom bus

def create (term : Nat → Option Byte) (tapeBacking : Option IoStream) : Except String System := do
  let devices : Devices :=
    { ram := RAM.ofSize kRamSize
      tty := { tapeBacking := tapeBacking }
      rom := ⟨monitor.kRomSize, fun _ => 0#8⟩ }
  let bus ← bus devices
  let rom ← monitor.install devices.rom
  return { term := term, cpu := { bus := ⟨bus, { devices with rom := rom }⟩ } }

def tty (sys : System) : TTY := sys.cpu.bus.devices.tty

def setTty (tty : TTY) (sys : System) : System :=
  { sys with cpu := { sys.cpu with
      bus := { sys.cpu.bus with devices := { sys.cpu.bus.devices with tty := tty } } } }

/-- The next answer of the terminal. -/
def tryReadByte (sys : System) : Option Byte × System :=
  (sys.term 0, { sys with term := fun i => sys.term (i + 1) })

/-- The first half of `step`, with the byte it got from the terminal: `tryReadByte` is called
only while the holding register is free. -/
def pull (sys : System) : Option Byte × System :=
  if sys.tty.rxReady then (none, sys)
  else
    let r := sys.tryReadByte
    match r.1 with
    | some b => (some b, r.2.setTty (r.2.tty.receive b))
    | none => (none, r.2)

def poll (sys : System) : System := sys.pull.2

def reset (sys : System) : Option System :=
  (sys.cpu.reset 28).map fun cpu => { sys with cpu := cpu }

/-- `none` would be an instruction that does not end within 28 ticks. -/
def step (sys : System) : Option System :=
  (sys.poll.cpu.executeInstruction 28).map fun cpu => { sys.poll with cpu := cpu }

/-- `n` calls of `step`. -/
def steps : Nat → System → Option System
  | 0, sys => some sys
  | n + 1, sys => sys.step.bind (steps n)

end System

end Sys6
