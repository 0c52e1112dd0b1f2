import Sys6.Cpu.State

/-!
# Memory devices and the bus

The bus holds pointers to devices; the devices themselves stand in a store beside it, as
the members of `System` and of the test fixtures do. Loggers are left out.
-/

namespace Sys6

/-- `m_data` has `size` cells, all zero at first. -/
structure RAM where
  size : Nat
  data : Word → Byte

namespace RAM

def ofSize (size : Nat) : RAM := ⟨size, fun _ => 0#8⟩

def read (ram : RAM) (offset : Word) : Byte := ram.data offset

def write (ram : RAM) (offset : Word) (val : Byte) : RAM :=
  { ram with data := Function.update ram.data offset val }

end RAM

structure ROM where
  size : Nat
  data : Word → Byte

namespace ROM

def read (rom : ROM) (offset : Word) : Byte := rom.data offset

/-- A write through the bus is ignored. -/
def write (rom : ROM) (_offset : Word) (_val : Byte) : ROM := rom

/-- The firmware loader writes past the bus. -/
def load (rom : ROM) (offset : Word) (val : Byte) : ROM :=
  { rom with data := Function.update rom.data offset val }

end ROM

/-- The devices behind pointers of type `ι`. Reading may change a device. -/
class DeviceStore (ι δ : Type) where
  size : δ → ι → Nat
  read : δ → ι → Word → Byte × δ
  write : δ → ι → Word → Byte → δ

structure Mapping (ι : Type) where
  start : Word
  last : Word
  device : ι
deriving DecidableEq, Repr

structure Bus (ι : Type) where
  mappings : List (Mapping ι) := []

namespace Bus

variable {ι δ : Type} [DeviceStore ι δ]

def attach (devices : δ) (start last : Word) (device : ι) (bus : Bus ι) :
    Except String (Bus ι) :=
  if last < start then
    .error "Bus::attach: end address is before start address"
  else if last.toNat - start.toNat + 1 ≠ DeviceStore.size devices device then
    .error "Bus::attach: range size does not match device size"
  else if bus.mappings.any fun m => start ≤ m.last && last ≥ m.start then
    .error "Bus::attach: range overlaps an existing mapping"
  else .ok { bus with mappings := bus.mappings ++ [⟨start, last, device⟩] }

def findMapping (bus : Bus ι) (addr : Word) : Option (Mapping ι) :=
  bus.mappings.find? fun m => addr ≥ m.start && addr ≤ m.last

end Bus

/-- A bus together with the devices its mappings point to. -/
structure Wired (ι δ : Type) where
  bus : Bus ι
  devices : δ

namespace Wired

variable {ι δ : Type} [DeviceStore ι δ]

def read (w : Wired ι δ) (addr : Word) : Byte × Wired ι δ :=
  match w.bus.findMapping addr with
  | none => (0xFF#8, w)
  | some m =>
    let r := DeviceStore.read w.devices m.device (addr - m.start)
    (r.1, { w with devices := r.2 })

def write (w : Wired ι δ) (addr : Word) (val : Byte) : Wired ι δ :=
  match w.bus.findMapping addr with
  | none => w
  | some m =>
    { w with devices := DeviceStore.write w.devices m.device (addr - m.start) val }

instance : BusLike (Wired ι δ) where
  read := read
  write := write

end Wired

end Sys6
