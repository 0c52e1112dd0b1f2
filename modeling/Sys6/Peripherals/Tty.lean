import Sys6.Peripherals.IoStream

/-!
# The terminal and its tape

One page of registers: the serial port at offsets 0 and 1, the tape at offsets 2 to 4. The
terminal output is the list of bytes put so far.
-/

namespace Sys6

structure TTY where
  out : List Byte := []
  rxByte : Byte := 0#8
  rxReady : Bool := false
  tapeBacking : Option IoStream := none
  tapePosition : Nat := 0
  tapeMotorOn : Bool := false
  tapeEot : Bool := false
  tapeError : Bool := false
deriving DecidableEq, Repr

namespace TTY

def size : Nat := 256

def readSerial (offset : Word) (tty : TTY) : Byte × TTY :=
  if offset = 0#16 then
    let status := 0x02#8
    (if tty.rxReady then status ||| 0x01#8 else status, tty)
  else (tty.rxByte, { tty with rxReady := false })

def writeSerial (offset : Word) (val : Byte) (tty : TTY) : TTY :=
  if offset = 1#16 then { tty with out := tty.out ++ [val] } else tty

/-- A byte arrives; while the single holding register is full it is lost. -/
def receive (byte : Byte) (tty : TTY) : TTY :=
  if tty.rxReady then tty else { tty with rxByte := byte, rxReady := true }

def tapeStatus (tty : TTY) : Byte :=
  (if tty.tapeBacking.isSome then 0x01#8 else 0#8) |||
  (if tty.tapeMotorOn then 0x02#8 else 0#8) |||
  (if tty.tapeEot then 0x04#8 else 0#8) |||
  (if tty.tapeError then 0x08#8 else 0#8)

def readTape (offset : Word) (tty : TTY) : Byte × TTY :=
  if offset = 0x02#16 then (tty.tapeStatus, tty)
  else if offset = 0x03#16 then (0x00#8, tty)
  else
    match tty.tapeBacking, tty.tapeMotorOn with
    | some backing, true =>
      let r := (backing.seekg tty.tapePosition).get
      match r.1 with
      | none =>
        (0x00#8, { tty with tapeBacking := some r.2.clear, tapeEot := true, tapeError := true })
      | some c =>
        (c, { tty with
          tapeBacking := some r.2
          tapeEot := false
          tapeError := false
          tapePosition := tty.tapePosition + 1 })
    | _, _ => (0x00#8, { tty with tapeError := true })

def writeTape (offset : Word) (val : Byte) (tty : TTY) : TTY :=
  if offset = 0x02#16 then tty
  else if offset = 0x03#16 then
    let tty := { tty with tapeMotorOn := val &&& 0x01#8 != 0#8 }
    if val &&& 0x02#8 != 0#8 then
      { tty with tapePosition := 0, tapeEot := false, tapeError := false }
    else tty
  else
    match tty.tapeBacking, tty.tapeMotorOn with
    | some backing, true =>
      -- the stream is not asked whether it took the byte
      { tty with
        tapeBacking := some ((backing.seekp tty.tapePosition).put val).flush
        tapePosition := tty.tapePosition + 1
        tapeEot := false
        tapeError := false }
    | _, _ => { tty with tapeError := true }

def read (offset : Word) (tty : TTY) : Byte × TTY :=
  if offset ≤ 1#16 then tty.readSerial offset
  else if offset ≥ 2#16 ∧ offset ≤ 4#16 then tty.readTape offset
  else (0x00#8, tty)

def write (offset : Word) (val : Byte) (tty : TTY) : TTY :=
  if offset ≤ 1#16 then tty.writeSerial offset val
  else if offset ≥ 2#16 ∧ offset ≤ 4#16 then tty.writeTape offset val
  else tty

inductive Access
  | read (offset : Word)
  | write (offset : Word) (val : Byte)
deriving DecidableEq, Repr

def access (tty : TTY) : Access → TTY
  | .read offset => (tty.read offset).2
  | .write offset val => tty.write offset val

/-- `P` holds at every `TAPE_DATA` write that is made with the motor on. -/
def AtEveryTapeWrite (P : TTY → Byte → Prop) : List Access → TTY → Prop
  | [], _ => True
  | a :: rest, tty =>
    (∀ val, a = .write 4#16 val → tty.tapeMotorOn = true → P tty val) ∧
      AtEveryTapeWrite P rest (tty.access a)

/-- The byte of a `TAPE_DATA` write stands at the cursor and the cursor moved on, or
`TAPE_STATUS.ERROR` reads 1 and the cursor stayed. -/
def WriteReported (tty : TTY) (val : Byte) : Prop :=
  let after := tty.write 4#16 val
  (∃ backing, after.tapeBacking = some backing ∧ backing.content[tty.tapePosition]? = some val ∧
      after.tapePosition = tty.tapePosition + 1) ∨
    ((after.read 2#16).1.getLsbD 3 = true ∧ after.tapePosition = tty.tapePosition)

/-- The stream takes a byte at the cursor, or has that very byte there once its pending bytes
are written out. -/
def WriteTaken (tty : TTY) (val : Byte) : Prop :=
  ∀ backing, tty.tapeBacking = some backing →
    backing.stores tty.tapePosition = true ∨ backing.settled[tty.tapePosition]? = some val

lemma writeReported_iff {tty : TTY} (hb : tty.tapeBacking.isSome) (hm : tty.tapeMotorOn = true)
    (val : Byte) : tty.WriteReported val ↔ tty.WriteTaken val := by
  obtain ⟨backing, hb⟩ := Option.isSome_iff_exists.mp hb
  have hafter : tty.write 4#16 val = { tty with
      tapeBacking := some ((backing.seekp tty.tapePosition).put val).flush
      tapePosition := tty.tapePosition + 1
      tapeEot := false
      tapeError := false } := by
    have hw : tty.write 4#16 val = tty.writeTape 4#16 val := rfl
    rw [hw]
    unfold writeTape
    rw [hb, hm]
    rfl
  have hcontent : ((backing.seekp tty.tapePosition).put val).flush.content[tty.tapePosition]? =
      some val ↔ backing.stores tty.tapePosition = true ∨
        backing.settled[tty.tapePosition]? = some val := by
    rw [IoStream.content_write]
    cases backing.stores tty.tapePosition with
    | true => simp [IoStream.getElem?_writeAt]
    | false => simp
  unfold WriteReported WriteTaken
  rw [hafter, hb]
  simp only [Option.some.injEq, forall_eq', ← hcontent]
  constructor
  · rintro (⟨b, hb', hv, -⟩ | ⟨-, hpos⟩)
    · rw [hb']
      exact hv
    · omega
  · exact fun hv => .inl ⟨_, rfl, hv, trivial⟩

/-- An access neither inserts nor removes the cassette. -/
lemma isSome_access (tty : TTY) (a : Access) :
    (tty.access a).tapeBacking.isSome = tty.tapeBacking.isSome := by
  cases a with
  | read offset =>
    simp only [access, read, readSerial, readTape]
    split_ifs <;> try rfl
    split
    · rename_i hb _
      split <;> simp [hb]
    · rfl
  | write offset val =>
    simp only [access, write, writeSerial, writeTape]
    split_ifs <;> try rfl
    split
    · rename_i hb _
      simp [hb]
    · rfl

/-- A run reports every tape write exactly when the stream takes every byte of it. -/
theorem tape_writes_reported_iff {tty : TTY} (hb : tty.tapeBacking.isSome)
    (accesses : List Access) :
    AtEveryTapeWrite WriteReported accesses tty ↔ AtEveryTapeWrite WriteTaken accesses tty := by
  induction accesses generalizing tty with
  | nil => rfl
  | cons a rest ih =>
    unfold AtEveryTapeWrite
    rw [ih (by rw [isSome_access, hb])]
    refine and_congr_left fun _ => ?_
    refine forall_congr' fun val => imp_congr_right fun _ => ?_
    exact imp_congr_right fun hm => writeReported_iff hb hm val

theorem tape_writes_reported_iff_blank :
    AtEveryTapeWrite WriteReported [.write 3#16 0x01#8, .write 4#16 0xAB#8]
        { tapeBacking := some ⟨[], true, false, false, 0, 0, [], []⟩ } ↔
      AtEveryTapeWrite WriteTaken [.write 3#16 0x01#8, .write 4#16 0xAB#8]
        { tapeBacking := some ⟨[], true, false, false, 0, 0, [], []⟩ } :=
  tape_writes_reported_iff rfl _

/-- A file stream that could not be opened takes nothing, and nobody is told. -/
theorem tape_write_lost :
    ¬AtEveryTapeWrite WriteReported [.write 3#16 0x01#8, .write 4#16 0xAB#8]
      { tapeBacking := some { content := [], opened := false, seeksPastEnd := true, failed := true } } := by
  intro h
  have hw := h.2.1 0xAB#8 rfl (by decide)
  rcases hw with ⟨backing, hb, hv, -⟩ | ⟨he, -⟩
  · cases hb
    revert hv
    decide
  · revert he
    decide

end TTY

end Sys6
