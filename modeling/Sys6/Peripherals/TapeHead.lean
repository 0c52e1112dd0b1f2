import Sys6.Peripherals.Tty

/-!
# The tape head

A cassette deck in its own terms, and the terminal's tape registers as an implementation of
it. The backing is a byte stream in memory.
-/

namespace Sys6

/-- The last `q` of the list is also a `p`, which may ask what came before it. -/
def LastIs {α : Type} (p : List α → α → Prop) (q : α → Prop) (l : List α) : Prop :=
  ∃ pre a post, l = pre ++ a :: post ∧ p pre a ∧ ∀ b ∈ post, ¬q b

lemma not_lastIs_nil {α : Type} {p : List α → α → Prop} {q : α → Prop} : ¬LastIs p q [] := by
  rintro ⟨pre, a, post, h, -⟩
  simp at h

lemma lastIs_concat {α : Type} {p : List α → α → Prop} {q : α → Prop} {l : List α} {a : α} :
    LastIs p q (l ++ [a]) ↔ p l a ∨ LastIs p q l ∧ ¬q a := by
  constructor
  · rintro ⟨pre, b, post, h, hp, hq⟩
    rcases List.eq_nil_or_concat post with rfl | ⟨post, c, rfl⟩
    · obtain ⟨rfl, hab⟩ := List.append_inj' h rfl
      obtain rfl := List.singleton_inj.mp hab
      exact .inl hp
    · have h' : l ++ [a] = (pre ++ b :: post) ++ [c] := by simpa using h
      obtain ⟨rfl, hab⟩ := List.append_inj' h' rfl
      obtain rfl := List.singleton_inj.mp hab
      exact .inr ⟨⟨pre, b, post, rfl, hp, fun x hx => hq x (by simp [hx])⟩, hq a (by simp)⟩
  · rintro (hp | ⟨⟨pre, b, post, rfl, hp, hq⟩, hqa⟩)
    · exact ⟨l, a, [], rfl, hp, by simp⟩
    · refine ⟨pre, b, post ++ [a], by simp, hp, ?_⟩
      intro x hx
      rw [List.mem_append, List.mem_singleton] at hx
      rcases hx with hx | rfl
      · exact hq x hx
      · exact hqa

/-- What happens at the registers. -/
inductive TTY.Event
  | access (a : TTY.Access)
  | receive (byte : Byte)
deriving DecidableEq, Repr

namespace TTY.Event

abbrev readData : Event := .access (.read 4#16)
abbrev writeData (val : Byte) : Event := .access (.write 4#16 val)
abbrev writeControl (val : Byte) : Event := .access (.write 3#16 val)

/-- An access to `TAPE_DATA`. -/
def IsData (e : Event) : Prop := e = readData ∨ ∃ val, e = writeData val

def IsControl (e : Event) : Prop := ∃ val, e = writeControl val

/-- A write to `TAPE_CONTROL` with the rewind strobe set. -/
def IsRewind (e : Event) : Prop := ∃ val, e = writeControl val ∧ val.getLsbD 1 = true

def StartsMotor (e : Event) : Prop := ∃ val, e = writeControl val ∧ val.getLsbD 0 = true

/-- An access to one of the three tape registers. -/
def AtTape : Event → Prop
  | .access (.read offset) => 2#16 ≤ offset ∧ offset ≤ 4#16
  | .access (.write offset _) => 2#16 ≤ offset ∧ offset ≤ 4#16
  | .receive _ => False

end TTY.Event

/-- A deck with a cassette in it, or without. The head is never past the end of the tape, and
the end is only reported together with an error. -/
structure Deck where
  cassette : Option (List Byte)
  head : Nat
  motor : Bool
  eot : Bool
  error : Bool
  head_le : head ≤ (cassette.getD []).length
  error_of_eot : eot = true → error = true

namespace Deck

def insert (cassette : Option (List Byte)) : Deck :=
  ⟨cassette, 0, false, false, false, Nat.zero_le _, id⟩

/-- The byte under the head comes back and the head moves on. -/
def readData (deck : Deck) : Byte × Deck :=
  match h : deck.cassette, deck.motor with
  | some tape, true =>
    if hlt : deck.head < tape.length then
      (tape[deck.head], ⟨some tape, deck.head + 1, true, false, false, hlt, id⟩)
    else
      (0#8, ⟨some tape, deck.head, true, true, true, by simpa [h] using deck.head_le, id⟩)
  | _, _ => (0#8, { deck with error := true, error_of_eot := fun _ => rfl })

/-- The byte replaces the one under the head, or lengthens the tape. -/
def writeData (val : Byte) (deck : Deck) : Deck :=
  match h : deck.cassette, deck.motor with
  | some tape, true =>
    ⟨some (tape.take deck.head ++ val :: tape.drop (deck.head + 1)), deck.head + 1, true, false,
      false, by
        have := deck.head_le
        simp only [h, Option.getD_some] at this
        simp only [Option.getD_some, List.length_append, List.length_take, List.length_cons]
        omega, id⟩
  | _, _ => { deck with error := true, error_of_eot := fun _ => rfl }

def writeControl (val : Byte) (deck : Deck) : Deck :=
  if val.getLsbD 1 then
    ⟨deck.cassette, 0, val.getLsbD 0, false, false, Nat.zero_le _, id⟩
  else { deck with motor := val.getLsbD 0 }

/-- The answer to an event and the deck after it; only three kinds of access concern it. -/
def event (deck : Deck) : TTY.Event → Deck
  | .access (.read offset) => if offset = 4#16 then deck.readData.2 else deck
  | .access (.write offset val) =>
    if offset = 3#16 then deck.writeControl val
    else if offset = 4#16 then deck.writeData val
    else deck
  | .receive _ => deck

def events (deck : Deck) (es : List TTY.Event) : Deck := es.foldl event deck

end Deck

namespace IoStream

/-- A stream in memory, at rest: nothing can go wrong with it. -/
structure InMemory (s : IoStream) : Prop where
  opened : s.opened = true
  bounded : s.seeksPastEnd = false
  good : s.failed = false
  flushed : s.buffer = []
  noFaults : s.faults = []

variable {s : IoStream} {pos : Nat}

lemma InMemory.canSeek (h : s.InMemory) : s.canSeek pos = decide (pos ≤ s.content.length) := by
  simp [IoStream.canSeek, h.opened, h.bounded]

lemma InMemory.writeOut (h : s.InMemory) : s.writeOut = (true, s) := writeOut_empty h.flushed

/-- Whatever it holds and wherever it stands. -/
lemma InMemory.moved (h : s.InMemory) (content : List Byte) (g p : Nat) :
    InMemory { s with content := content, getPosition := g, putPosition := p } :=
  ⟨h.opened, h.bounded, h.good, h.flushed, h.noFaults⟩

lemma InMemory.settled (h : s.InMemory) : s.settled = s.content := by
  simp [IoStream.settled, h.writeOut]

lemma InMemory.seekg (h : s.InMemory) (hpos : pos ≤ s.content.length) :
    s.seekg pos = { s with getPosition := pos } := by
  simp [IoStream.seekg, h.good, h.writeOut, h.canSeek, hpos]

lemma InMemory.get_byte (h : s.InMemory) (hpos : pos < s.content.length) :
    (s.seekg pos).get = (some s.content[pos], { s with getPosition := pos + 1 }) := by
  rw [h.seekg hpos.le]
  simp [get, h.good, h.opened, hpos]

lemma InMemory.get_end (h : s.InMemory) :
    (s.seekg s.content.length).get =
      (none, { s with getPosition := s.content.length, failed := true }) := by
  rw [h.seekg le_rfl]
  simp [get, h.good, h.opened]

lemma InMemory.store (h : s.InMemory) (hpos : pos ≤ s.content.length) (val : Byte) :
    ((s.seekp pos).put val).flush = { s with
      content := s.content.take pos ++ val :: s.content.drop (pos + 1)
      putPosition := pos + 1 } := by
  have hseek : s.seekp pos = { s with putPosition := pos } := by
    simp [seekp, h.good, h.writeOut, h.canSeek, hpos]
  have hgap : pos - s.content.length = 0 := by omega
  rw [hseek]
  simp [put, flush, IoStream.writeOut, nextFault, h.good, h.opened, h.flushed, h.noFaults, writeAll,
    writeAt, hgap]

end IoStream

namespace TTY

def event (tty : TTY) : Event → TTY
  | .access a => tty.access a
  | .receive byte => tty.receive byte

def events (tty : TTY) (es : List Event) : TTY := es.foldl event tty

lemma event_readData (tty : TTY) : tty.event .readData = (tty.read 4#16).2 := rfl

lemma event_writeData (tty : TTY) (val : Byte) : tty.event (.writeData val) = tty.write 4#16 val := rfl

lemma event_writeControl (tty : TTY) (val : Byte) :
    tty.event (.writeControl val) = tty.write 3#16 val := rfl

/-- The terminal works this deck, through a stream in memory. -/
structure Works (tty : TTY) (deck : Deck) : Prop where
  cassette : deck.cassette = tty.tapeBacking.map IoStream.content
  inMemory : ∀ backing, tty.tapeBacking = some backing → backing.InMemory
  head : deck.head = tty.tapePosition
  motor : deck.motor = tty.tapeMotorOn
  eot : deck.eot = tty.tapeEot
  error : deck.error = tty.tapeError

variable {tty : TTY} {deck : Deck}

/-- Only the tape fields matter. -/
lemma Works.congr {tty' : TTY} (h : tty.Works deck) (hb : tty'.tapeBacking = tty.tapeBacking)
    (hp : tty'.tapePosition = tty.tapePosition) (hm : tty'.tapeMotorOn = tty.tapeMotorOn)
    (he : tty'.tapeEot = tty.tapeEot) (hr : tty'.tapeError = tty.tapeError) : tty'.Works deck := by
  refine ⟨?_, ?_, ?_, ?_, ?_, ?_⟩
  · rw [hb, h.cassette]
  · rw [hb]
    exact h.inMemory
  · rw [hp, h.head]
  · rw [hm, h.motor]
  · rw [he, h.eot]
  · rw [hr, h.error]

section Accesses

variable {s : IoStream}

lemma read_data_byte (hb : tty.tapeBacking = some s) (hs : s.InMemory) (hm : tty.tapeMotorOn = true)
    (hlt : tty.tapePosition < s.content.length) :
    tty.read 4#16 = (s.content[tty.tapePosition], { tty with
      tapeBacking := some { s with getPosition := tty.tapePosition + 1 }
      tapePosition := tty.tapePosition + 1
      tapeEot := false
      tapeError := false }) := by
  have hread : tty.read 4#16 = tty.readTape 4#16 := rfl
  rw [hread]
  unfold readTape
  simp [hb, hm, hs.get_byte hlt]

lemma read_data_end (hb : tty.tapeBacking = some s) (hs : s.InMemory) (hm : tty.tapeMotorOn = true)
    (hend : tty.tapePosition = s.content.length) :
    tty.read 4#16 = (0#8, { tty with
      tapeBacking := some { s with getPosition := s.content.length }
      tapeEot := true
      tapeError := true }) := by
  have hread : tty.read 4#16 = tty.readTape 4#16 := rfl
  rw [hread]
  unfold readTape
  simp [hb, hm, hend, hs.get_end, IoStream.clear, hs.good]

/-- Without a cassette, or with the motor off, there is nothing to read. -/
lemma read_data_idle (h : tty.tapeBacking = none ∨ tty.tapeMotorOn = false) :
    tty.read 4#16 = (0#8, { tty with tapeError := true }) := by
  have hread : tty.read 4#16 = tty.readTape 4#16 := rfl
  rw [hread]
  unfold readTape
  rcases h with h | h
  · simp [h]
  · cases hb : tty.tapeBacking with
    | none => simp
    | some s => simp [h]

lemma write_data_byte (hb : tty.tapeBacking = some s) (hs : s.InMemory)
    (hm : tty.tapeMotorOn = true) (hle : tty.tapePosition ≤ s.content.length) (val : Byte) :
    tty.write 4#16 val = { tty with
      tapeBacking := some { s with
        content := s.content.take tty.tapePosition ++ val :: s.content.drop (tty.tapePosition + 1)
        putPosition := tty.tapePosition + 1 }
      tapePosition := tty.tapePosition + 1
      tapeEot := false
      tapeError := false } := by
  have hwrite : tty.write 4#16 val = tty.writeTape 4#16 val := rfl
  rw [hwrite]
  unfold writeTape
  simp [hb, hm, hs.store hle]

lemma write_data_idle (h : tty.tapeBacking = none ∨ tty.tapeMotorOn = false) (val : Byte) :
    tty.write 4#16 val = { tty with tapeError := true } := by
  have hwrite : tty.write 4#16 val = tty.writeTape 4#16 val := rfl
  rw [hwrite]
  unfold writeTape
  rcases h with h | h
  · simp [h]
  · cases hb : tty.tapeBacking with
    | none => simp
    | some s => simp [h]

lemma write_control (val : Byte) :
    tty.write 3#16 val = if val.getLsbD 1 then { tty with
        tapeMotorOn := val.getLsbD 0
        tapePosition := 0
        tapeEot := false
        tapeError := false }
      else { tty with tapeMotorOn := val.getLsbD 0 } := by
  have h0 : ∀ b : Byte, (b &&& 0x01#8 != 0#8) = b.getLsbD 0 := by decide
  have h1 : ∀ b : Byte, (b &&& 0x02#8 != 0#8) = b.getLsbD 1 := by decide
  have hwrite : tty.write 3#16 val = tty.writeTape 3#16 val := rfl
  rw [hwrite]
  simp [writeTape, h0, h1]

end Accesses

def SameTape (tty tty' : TTY) : Prop :=
  tty'.tapeBacking = tty.tapeBacking ∧ tty'.tapePosition = tty.tapePosition ∧
  tty'.tapeMotorOn = tty.tapeMotorOn ∧ tty'.tapeEot = tty.tapeEot ∧ tty'.tapeError = tty.tapeError

def SameSerial (tty tty' : TTY) : Prop :=
  tty'.out = tty.out ∧ tty'.rxByte = tty.rxByte ∧ tty'.rxReady = tty.rxReady

lemma sameTape_event {e : Event} (hd : ¬e.IsData) (hc : ¬e.IsControl) :
    tty.SameTape (tty.event e) := by
  cases e with
  | receive byte =>
    simp only [event, receive]
    split_ifs <;> exact ⟨rfl, rfl, rfl, rfl, rfl⟩
  | access a =>
    cases a with
    | read offset =>
      have h4 : offset ≠ 4#16 := fun h => hd (.inl (by rw [h]))
      simp only [event, access, read, readSerial, readTape]
      split_ifs with h0 h1 h2 h3 h5
      any_goals exact ⟨rfl, rfl, rfl, rfl, rfl⟩
      bv_omega
    | write offset val =>
      have h4 : offset ≠ 4#16 := fun h => hd (.inr ⟨val, by rw [h]⟩)
      have h3 : offset ≠ 3#16 := fun h => hc ⟨val, by rw [h]⟩
      simp only [event, access, write, writeSerial, writeTape]
      split_ifs with h0 h1 h2 h5
      any_goals exact ⟨rfl, rfl, rfl, rfl, rfl⟩
      bv_omega

lemma sameSerial_event {e : Event} (h : e.AtTape) : tty.SameSerial (tty.event e) := by
  cases e with
  | receive byte => exact h.elim
  | access a =>
    cases a with
    | read offset =>
      have h1 : ¬offset ≤ 1#16 := by
        have := h.1
        bv_omega
      simp only [event, access, read, readTape, if_neg h1]
      split_ifs
      any_goals exact ⟨rfl, rfl, rfl⟩
      split
      · split <;> exact ⟨rfl, rfl, rfl⟩
      · exact ⟨rfl, rfl, rfl⟩
    | write offset val =>
      have h1 : ¬offset ≤ 1#16 := by
        have := h.1
        bv_omega
      simp only [event, access, write, writeTape, if_neg h1]
      split_ifs
      any_goals exact ⟨rfl, rfl, rfl⟩
      split <;> exact ⟨rfl, rfl, rfl⟩

lemma Works.readData (h : tty.Works deck) :
    (tty.read 4#16).1 = deck.readData.1 ∧ (tty.read 4#16).2.Works deck.readData.2 := by
  obtain ⟨cassette, head, motor, eot, error, hle, himp⟩ := deck
  obtain ⟨hc, hin, hp, hm, he, hr⟩ := h
  simp only at hc hp hm he hr hle
  cases hb : tty.tapeBacking with
  | none =>
    obtain rfl : cassette = none := by rw [hc, hb]; rfl
    rw [read_data_idle (.inl hb)]
    exact ⟨rfl, hc, hin, hp, hm, he, rfl⟩
  | some s =>
    obtain rfl : cassette = some s.content := by rw [hc, hb]; rfl
    have hs := hin s hb
    cases motor with
    | false =>
      rw [read_data_idle (.inr hm.symm)]
      exact ⟨rfl, hc, hin, hp, hm, he, rfl⟩
    | true =>
      have hkeep : ∀ g, ({ s with getPosition := g } : IoStream).InMemory := fun _ => hs.moved _ _ _
      rcases Nat.lt_or_ge head s.content.length with hlt | hge
      · rw [read_data_byte hb hs hm.symm (hp ▸ hlt)]
        simp only [Deck.readData, hlt, dif_pos, hp.symm, true_and]
        exact ⟨rfl, by simp [hkeep], rfl, hm, rfl, rfl⟩
      · have hend : head = s.content.length := by
          simp only [Option.getD_some] at hle
          omega
        rw [read_data_end hb hs hm.symm (hp ▸ hend)]
        simp only [Deck.readData, dif_neg (show ¬head < s.content.length by omega), true_and]
        exact ⟨rfl, by simp [hkeep], hp, hm, rfl, rfl⟩

lemma Works.writeData (h : tty.Works deck) (val : Byte) :
    (tty.write 4#16 val).Works (deck.writeData val) := by
  obtain ⟨cassette, head, motor, eot, error, hle, himp⟩ := deck
  obtain ⟨hc, hin, hp, hm, he, hr⟩ := h
  simp only at hc hp hm he hr hle
  cases hb : tty.tapeBacking with
  | none =>
    obtain rfl : cassette = none := by rw [hc, hb]; rfl
    rw [write_data_idle (.inl hb)]
    exact ⟨hc, hin, hp, hm, he, rfl⟩
  | some s =>
    obtain rfl : cassette = some s.content := by rw [hc, hb]; rfl
    have hs := hin s hb
    cases motor with
    | false =>
      rw [write_data_idle (.inr hm.symm)]
      exact ⟨hc, hin, hp, hm, he, rfl⟩
    | true =>
      rw [write_data_byte hb hs hm.symm (hp ▸ hle)]
      simp only [hp.symm]
      refine ⟨rfl, ?_, rfl, hm, rfl, rfl⟩
      rintro _ ⟨⟩
      exact hs.moved _ _ _

lemma Works.writeControl (h : tty.Works deck) (val : Byte) :
    (tty.write 3#16 val).Works (deck.writeControl val) := by
  rw [write_control]
  unfold Deck.writeControl
  split_ifs
  · exact ⟨h.cassette, h.inMemory, rfl, rfl, rfl, rfl⟩
  · exact ⟨h.cassette, h.inMemory, h.head, rfl, h.eot, h.error⟩

lemma Works.event (h : tty.Works deck) (e : Event) : (tty.event e).Works (deck.event e) := by
  by_cases hd : e.IsData
  · rcases hd with rfl | ⟨val, rfl⟩
    · exact h.readData.2
    · exact h.writeData val
  by_cases hc : e.IsControl
  · obtain ⟨val, rfl⟩ := hc
    exact h.writeControl val
  · have hsame : deck.event e = deck := by
      cases e with
      | receive byte => rfl
      | access a =>
        cases a with
        | read offset => exact if_neg fun h4 => hd (.inl (by rw [h4]))
        | write offset val =>
          have h3 : offset ≠ 3#16 := fun h3 => hc ⟨val, by rw [h3]⟩
          have h4 : offset ≠ 4#16 := fun h4 => hd (.inr ⟨val, by rw [h4]⟩)
          simp [Deck.event, h3, h4]
    have hkept : tty.SameTape (tty.event e) := sameTape_event hd hc
    obtain ⟨hb, hp, hm, he, hr⟩ := hkept
    rw [hsame]
    exact h.congr hb hp hm he hr

lemma Works.events (h : tty.Works deck) (es : List Event) :
    (tty.events es).Works (deck.events es) := by
  induction es generalizing tty deck with
  | nil => exact h
  | cons e es ih => exact ih (h.event e)

/-- The bytes on the cassette, with those its stream has still to write out; none without one. -/
def tapeContent (tty : TTY) : List Byte := (tty.tapeBacking.map IoStream.settled).getD []

lemma tapeContent_inMemory {s : IoStream} (hb : tty.tapeBacking = some s) (hs : s.InMemory) :
    tty.tapeContent = s.content := by
  rw [tapeContent, hb, Option.map_some, Option.getD_some, hs.settled]

lemma Works.tapeContent_eq (h : tty.Works deck) : tty.tapeContent = deck.cassette.getD [] := by
  rw [h.cassette]
  cases hb : tty.tapeBacking with
  | none => simp [tapeContent, hb]
  | some s => exact tapeContent_inMemory hb (h.inMemory s hb)

lemma Works.position_le (h : tty.Works deck) : tty.tapePosition ≤ tty.tapeContent.length := by
  rw [h.tapeContent_eq, ← h.head]
  exact deck.head_le

/-- A data access fails with the motor off, without a cassette, and when it reads past the
end. -/
def Fails (tty : TTY) (e : Event) : Prop :=
  e.IsData ∧ (tty.tapeBacking = none ∨ tty.tapeMotorOn = false ∨
    e = .readData ∧ tty.tapePosition = tty.tapeContent.length)

/-- One event, by its kind. -/
structure HeadStep (tty : TTY) (e : Event) : Prop where
  kept : (∀ val, e = .writeData val → tty.tapeMotorOn = false) →
    (tty.event e).tapeContent = tty.tapeContent
  written : ∀ val, e = .writeData val → tty.tapeMotorOn = true → tty.tapeBacking.isSome = true →
    (tty.event e).tapePosition = tty.tapePosition + 1 ∧
    (tty.event e).tapeContent =
      if tty.tapePosition < tty.tapeContent.length then tty.tapeContent.set tty.tapePosition val
      else tty.tapeContent ++ [val]
  grows : tty.tapeContent.length ≤ (tty.event e).tapeContent.length
  readByte : e = .readData → tty.tapeMotorOn = true →
    ∀ b, tty.tapeContent[tty.tapePosition]? = some b →
      (tty.read 4#16).1 = b ∧ (tty.event e).tapePosition = tty.tapePosition + 1
  readEnd : e = .readData → tty.tapeMotorOn = true → tty.tapeBacking.isSome = true →
    tty.tapePosition = tty.tapeContent.length →
      (tty.read 4#16).1 = 0#8 ∧ (tty.event e).tapePosition = tty.tapePosition ∧
      (tty.event e).tapeEot = true ∧ (tty.event e).tapeError = true
  idle : e.IsData → tty.tapeBacking = none ∨ tty.tapeMotorOn = false →
    tty.event e = { tty with tapeError := true }
  other : ¬e.IsData → ¬e.IsControl → tty.SameTape (tty.event e)
  serial : e.AtTape → tty.SameSerial (tty.event e)

/-- Where a data access finds the tape, or does not. -/
lemma Works.data_cases (h : tty.Works deck) :
    (tty.tapeBacking = none ∨ tty.tapeMotorOn = false) ∨
    ∃ s, tty.tapeBacking = some s ∧ tty.tapeMotorOn = true ∧ s.InMemory ∧
      tty.tapeContent = s.content ∧ tty.tapePosition ≤ s.content.length := by
  cases hb : tty.tapeBacking with
  | none => exact .inl (.inl rfl)
  | some s =>
    have hcontent : tty.tapeContent = s.content := tapeContent_inMemory hb (h.inMemory s hb)
    have hle := h.position_le
    rw [hcontent] at hle
    cases hm : tty.tapeMotorOn with
    | false => exact .inl (.inr rfl)
    | true => exact .inr ⟨s, rfl, rfl, h.inMemory s hb, hcontent, hle⟩

lemma Works.tapeError_event (h : tty.Works deck) (e : Event) :
    (tty.event e).tapeError = true ↔
      tty.Fails e ∨ tty.tapeError = true ∧ ¬(e.IsData ∨ e.IsRewind) := by
  by_cases hd : e.IsData
  · simp only [hd, true_or, not_true, and_false, or_false, Fails, true_and]
    rcases h.data_cases with hidle | ⟨s, hb, hm, hs, hc, hle⟩
    · have hevent : tty.event e = { tty with tapeError := true } := by
        rcases hd with rfl | ⟨val, rfl⟩
        · exact congrArg Prod.snd (read_data_idle hidle)
        · exact write_data_idle hidle val
      rw [hevent]
      tauto
    · rcases hd with rfl | ⟨val, rfl⟩
      · simp only [event_readData, hb, hm, hc]
        rcases Nat.lt_or_ge tty.tapePosition s.content.length with hlt | hge
        · rw [read_data_byte hb hs hm hlt]
          simp [hlt.ne]
        · have hend : tty.tapePosition = s.content.length := by omega
          rw [read_data_end hb hs hm hend]
          simp [hend]
      · simp only [event_writeData, hb, hm]
        rw [write_data_byte hb hs hm hle]
        simp
  · have hf : ¬tty.Fails e := fun hf => hd hf.1
    simp only [hd, false_or, hf]
    by_cases hc : e.IsControl
    · obtain ⟨val, rfl⟩ := hc
      have hrw : (Event.writeControl val).IsRewind ↔ val.getLsbD 1 = true := by
        constructor
        · rintro ⟨v, hv, h1⟩
          cases hv
          exact h1
        · exact fun h1 => ⟨val, rfl, h1⟩
      rw [hrw]
      simp only [event_writeControl, write_control]
      by_cases h1 : val.getLsbD 1 = true
      · rw [if_pos h1]
        simp [h1]
      · rw [if_neg h1]
        simp only [h1, not_false_eq_true, and_true, Bool.false_eq_true]
    · have hnr : ¬e.IsRewind := fun ⟨val, hv, _⟩ => hc ⟨val, hv⟩
      rw [(sameTape_event hd hc).2.2.2.2]
      simp [hnr]

lemma tapeMotorOn_event (tty : TTY) (e : Event) :
    (tty.event e).tapeMotorOn = true ↔
      e.StartsMotor ∨ tty.tapeMotorOn = true ∧ ¬e.IsControl := by
  by_cases hc : e.IsControl
  · obtain ⟨val, rfl⟩ := hc
    have hctl : (Event.writeControl val).IsControl := ⟨val, rfl⟩
    have hstart : (Event.writeControl val).StartsMotor ↔ val.getLsbD 0 = true := by
      constructor
      · rintro ⟨v, hv, h0⟩
        cases hv
        exact h0
      · exact fun h0 => ⟨val, rfl, h0⟩
    rw [hstart]
    simp only [event_writeControl, write_control, hctl, not_true, and_false, or_false]
    split_ifs <;> rfl
  · have hns : ¬e.StartsMotor := fun ⟨val, hv, _⟩ => hc ⟨val, hv⟩
    simp only [hns, hc, not_false_eq_true, and_true, false_or]
    by_cases hd : e.IsData
    · rcases hd with rfl | ⟨val, rfl⟩
      · simp only [event_readData, read, readTape]
        split_ifs <;> try contradiction
        split
        · split <;> rfl
        · rfl
      · simp only [event_writeData, write, writeTape]
        split_ifs <;> try contradiction
        split <;> rfl
    · rw [(sameTape_event hd hc).2.2.1]

/-- The content under one event. -/
lemma Works.tapeContent_event (h : tty.Works deck) (e : Event) :
    (tty.event e).tapeContent = tty.tapeContent ∨
    ∃ val, e = .writeData val ∧ tty.tapeMotorOn = true ∧
      (tty.event e).tapePosition = tty.tapePosition + 1 ∧
      (tty.event e).tapeContent =
        tty.tapeContent.take tty.tapePosition ++ val :: tty.tapeContent.drop (tty.tapePosition + 1) := by
  by_cases hd : e.IsData
  · rcases h.data_cases with hidle | ⟨s, hb, hm, hs, hc, hle⟩
    · left
      rcases hd with rfl | ⟨val, rfl⟩
      · rw [event_readData, read_data_idle hidle]
        rfl
      · rw [event_writeData, write_data_idle hidle]
        rfl
    · rcases hd with rfl | ⟨val, rfl⟩
      · left
        rw [event_readData, hc]
        rcases Nat.lt_or_ge tty.tapePosition s.content.length with hlt | hge
        · rw [read_data_byte hb hs hm hlt, tapeContent_inMemory rfl (hs.moved _ _ _)]
        · rw [read_data_end hb hs hm (by omega), tapeContent_inMemory rfl (hs.moved _ _ _)]
      · refine .inr ⟨val, rfl, hm, ?_⟩
        rw [event_writeData, write_data_byte hb hs hm hle, hc, tapeContent_inMemory rfl (hs.moved _ _ _)]
        exact ⟨rfl, rfl⟩
  · left
    by_cases hc : e.IsControl
    · obtain ⟨val, rfl⟩ := hc
      rw [event_writeControl, write_control]
      split_ifs <;> rfl
    · rw [tapeContent, (sameTape_event hd hc).1, tapeContent]

lemma Works.headStep (h : tty.Works deck) (e : Event) : tty.HeadStep e := by
  have hle := h.position_le
  refine ⟨?_, ?_, ?_, ?_, ?_, ?_, sameTape_event, sameSerial_event⟩
  · intro hoff
    obtain heq | ⟨val, rfl, hm, -⟩ := h.tapeContent_event e
    · exact heq
    · rw [hoff val rfl] at hm
      cases hm
  · rintro val rfl hm hb
    obtain ⟨s, hb⟩ := Option.isSome_iff_exists.mp hb
    have hs := h.inMemory s hb
    have hc : tty.tapeContent = s.content := tapeContent_inMemory hb hs
    rw [hc] at hle
    rw [event_writeData, write_data_byte hb hs hm hle, hc]
    refine ⟨rfl, ?_⟩
    rw [tapeContent_inMemory rfl (hs.moved _ _ _)]
    split_ifs with hlt
    · rw [List.set_eq_take_append_cons_drop, if_pos hlt]
    · rw [List.take_of_length_le (by omega), List.drop_of_length_le (by omega)]
  · obtain heq | ⟨val, -, -, -, heq⟩ := h.tapeContent_event e
    · rw [heq]
    · rw [heq, List.length_append, List.length_take, List.length_cons, List.length_drop]
      omega
  · rintro rfl hm b hat
    obtain hidle | ⟨s, hb, -, hs, hc, -⟩ := h.data_cases
    · rcases hidle with hb | hoff
      · simp [tapeContent, hb] at hat
      · rw [hm] at hoff
        cases hoff
    · rw [hc] at hat
      obtain ⟨hlt, hat⟩ := List.getElem?_eq_some_iff.mp hat
      rw [event_readData, read_data_byte hb hs hm hlt]
      exact ⟨hat, rfl⟩
  · rintro rfl hm hb hend
    obtain ⟨s, hb⟩ := Option.isSome_iff_exists.mp hb
    have hc : tty.tapeContent = s.content := tapeContent_inMemory hb (h.inMemory s hb)
    rw [event_readData, read_data_end hb (h.inMemory s hb) hm (hc ▸ hend)]
    exact ⟨rfl, rfl, rfl, rfl⟩
  · rintro hd hidle
    rcases hd with rfl | ⟨val, rfl⟩
    · rw [event_readData, read_data_idle hidle]
    · rw [event_writeData, write_data_idle hidle]

/-- A fresh terminal with a cassette in it, or without. -/
def loaded (cassette : Option (List Byte)) : TTY :=
  { tapeBacking := cassette.map fun content => { content } }

lemma works_loaded (cassette : Option (List Byte)) :
    (loaded cassette).Works (Deck.insert cassette) := by
  refine ⟨?_, ?_, rfl, rfl, rfl, rfl⟩
  · cases cassette <;> rfl
  · intro backing hb
    obtain ⟨content, -, rfl⟩ := Option.map_eq_some_iff.mp hb
    exact ⟨rfl, rfl, rfl, rfl, rfl⟩

lemma events_concat (tty : TTY) (es : List Event) (e : Event) :
    tty.events (es ++ [e]) = (tty.events es).event e := by
  simp [events]

lemma tapeMotorOn_events (cassette : Option (List Byte)) (es : List Event) :
    ((loaded cassette).events es).tapeMotorOn = true ↔
      LastIs (fun _ e => e.StartsMotor) Event.IsControl es := by
  induction es using List.reverseRecOn with
  | nil => simp [events, loaded, not_lastIs_nil]
  | append_singleton es e ih => rw [events_concat, tapeMotorOn_event, lastIs_concat, ih]

lemma tapeError_events (cassette : Option (List Byte)) (es : List Event) :
    ((loaded cassette).events es).tapeError = true ↔
      LastIs (fun before e => ((loaded cassette).events before).Fails e)
        (fun e => e.IsData ∨ e.IsRewind) es := by
  induction es using List.reverseRecOn with
  | nil => simp [events, loaded, not_lastIs_nil]
  | append_singleton es e ih =>
    have h := (works_loaded cassette).events es
    rw [events_concat, h.tapeError_event, lastIs_concat, ih]

lemma tapeStatus_bits (tty : TTY) :
    tty.tapeStatus.getLsbD 0 = tty.tapeBacking.isSome ∧
    tty.tapeStatus.getLsbD 1 = tty.tapeMotorOn ∧
    tty.tapeStatus.getLsbD 2 = tty.tapeEot ∧ tty.tapeStatus.getLsbD 3 = tty.tapeError := by
  unfold tapeStatus
  cases tty.tapeBacking.isSome <;> cases tty.tapeMotorOn <;> cases tty.tapeEot <;>
    cases tty.tapeError <;> decide

/-- The tape registers over any run of events, from a fresh terminal. -/
theorem tape_head_refines (cassette : Option (List Byte)) (es : List Event) :
    let tty := (loaded cassette).events es
    let status := (tty.read 2#16).1
    tty.Works ((Deck.insert cassette).events es) ∧
    tty.tapePosition ≤ tty.tapeContent.length ∧
    (status.getLsbD 2 = true → status.getLsbD 3 = true) ∧
    (status.getLsbD 1 = true ↔ LastIs (fun _ e => e.StartsMotor) Event.IsControl es) ∧
    (status.getLsbD 3 = true ↔
      LastIs (fun before e => ((loaded cassette).events before).Fails e)
        (fun e => e.IsData ∨ e.IsRewind) es) ∧
    ∀ e, tty.HeadStep e := by
  intro tty status
  have h : tty.Works ((Deck.insert cassette).events es) := (works_loaded cassette).events es
  obtain ⟨-, hmotor, heot, herror⟩ := tty.tapeStatus_bits
  rw [show status = tty.tapeStatus from rfl, hmotor, heot, herror]
  refine ⟨h, h.position_le, ?_, tapeMotorOn_events cassette es, tapeError_events cassette es,
    h.headStep⟩
  rw [← h.eot, ← h.error]
  exact ((Deck.insert cassette).events es).error_of_eot

end TTY

end Sys6
