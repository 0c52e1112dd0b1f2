import Sys6.Monitor.Load
import Sys6.Peripherals.TapeHead

/-!
# Blocks on a tape

What `LOAD` finds on a tape that can be read, as a function of the bytes from the cursor on.
-/

namespace Sys6

/-- The data, as far as they are there. -/
def blockBytes : List Byte → List Byte
  | lo :: hi :: rest => rest.take (word hi lo).toNat
  | _ => []

/-- The block is there up to its checksum byte. -/
def wholeBlock : List Byte → Bool
  | lo :: hi :: rest => (word hi lo).toNat < rest.length
  | _ => false

/-- It is, and the checksum is that of the data. -/
def goodBlock : List Byte → Bool
  | lo :: hi :: rest =>
    rest[(word hi lo).toNat]? = some (xorOf 0#8 (rest.take (word hi lo).toNat))
  | _ => false

namespace IoStream

/-- The stream is open, has not failed, and can write out what is pending. -/
structure Readable (s : IoStream) : Prop where
  opened : s.opened = true
  good : s.failed = false
  writesOut : s.writeOut.1 = true

variable {s : IoStream} {pos : Nat}

lemma InMemory.readable (h : s.InMemory) : s.Readable :=
  ⟨h.opened, h.good, congrArg Prod.fst h.writeOut⟩

lemma Readable.settled_eq (h : s.Readable) : s.settled = s.writeOut.2.content := by
  simp [settled, h.good]

/-- Wherever a stream stands after a seek, it can be read again and holds the same. -/
lemma Readable.sought (h : s.Readable) {s' : IoStream} (hopened : s'.opened = s.writeOut.2.opened)
    (hcontent : s'.content = s.writeOut.2.content) (hbuffer : s'.buffer = s.writeOut.2.buffer)
    (hgood : s'.failed = false) : s'.settled = s.settled ∧ s'.Readable := by
  have hwrite : s'.writeOut = (true, s') := by
    refine writeOut_empty ?_
    rw [hbuffer, buffer_writeOut h.opened h.writesOut]
  refine ⟨?_, ?_, hgood, congrArg Prod.fst hwrite⟩
  · rw [h.settled_eq, settled, hgood, hwrite, ← hcontent]
    rfl
  · rw [hopened, opened_writeOut, h.opened]

/-- A byte of the content is read. -/
lemma Readable.get_byte (h : s.Readable) (hpos : pos < s.settled.length) :
    ∃ s', (s.seekg pos).get = (some s.settled[pos], s') ∧ s'.settled = s.settled ∧ s'.Readable := by
  have hlt := hpos
  rw [h.settled_eq] at hlt
  have hopened : s.writeOut.2.opened = true := by rw [opened_writeOut, h.opened]
  have hcan : s.writeOut.2.canSeek pos = true := by simp [canSeek, hopened, hlt.le]
  have hgood : s.writeOut.2.failed = false := by rw [failed_writeOut, h.good]
  have hbyte : s.writeOut.2.content[pos]? = some s.settled[pos] := by
    simp only [h.settled_eq]
    exact List.getElem?_eq_getElem hlt
  have hget : (s.seekg pos).get =
      (some s.settled[pos], { s.writeOut.2 with getPosition := pos + 1 }) := by
    rw [seekg_moved h.good h.writesOut hcan]
    exact get_some hgood hopened hbyte
  exact ⟨_, hget, h.sought rfl rfl rfl hgood⟩

/-- Past the content nothing is read, and the stream fails until it is cleared. -/
lemma Readable.get_end (h : s.Readable) (hpos : s.settled.length ≤ pos) :
    ∃ s', (s.seekg pos).get = (none, s') ∧ s'.clear.settled = s.settled ∧ s'.clear.Readable := by
  rw [h.settled_eq] at hpos
  have hgood : s.writeOut.2.failed = false := by rw [failed_writeOut, h.good]
  cases hcan : s.writeOut.2.canSeek pos with
  | true =>
    have hget : (s.seekg pos).get = (none, { s.writeOut.2 with getPosition := pos, failed := true }) := by
      rw [seekg_moved h.good h.writesOut hcan]
      exact get_none hgood (opened_of_canSeek hcan) (List.getElem?_eq_none hpos)
    exact ⟨_, hget, h.sought rfl rfl rfl rfl⟩
  | false =>
    have hget : (s.seekg pos).get = (none, { s.writeOut.2 with failed := true }) := by
      rw [seekg_refused h.good (by rw [hcan, Bool.and_false])]
      exact get_failed rfl
    exact ⟨_, hget, h.sought rfl rfl rfl rfl⟩

end IoStream

/-- The motor is on, and the tape holds `content` and can be read at `pos`. -/
structure Tape.Reads (content : List Byte) (pos : Nat) (t : Tape) : Prop where
  motorOn : t.motorOn = true
  position : t.position = pos
  backing : ∃ s, t.backing = some s ∧ s.settled = content ∧ s.Readable

namespace Tape

variable {t : Tape} {content : List Byte} {pos : Nat}

/-- A byte is read. -/
lemma Reads.get_byte (h : t.Reads content pos) (hpos : pos < content.length) :
    t.get.2.error = false ∧ t.get.1 = content[pos] ∧ t.get.2.Reads content (pos + 1) := by
  obtain ⟨backing, position, motorOn, eot, error⟩ := t
  obtain ⟨rfl, rfl, s, rfl, rfl, hs⟩ := h
  obtain ⟨s', hget, hsettled, hs'⟩ := hs.get_byte hpos
  have ht : get ⟨some s, position, true, eot, error⟩ =
      (s.settled[position], ⟨some s', position + 1, true, false, false⟩) := by
    simp only [get, hget]
  rw [ht]
  exact ⟨rfl, rfl, rfl, rfl, _, rfl, hsettled, hs'⟩

/-- At the end there is an error, and the tape stays where it is. -/
lemma Reads.get_end (h : t.Reads content pos) (hpos : content.length ≤ pos) :
    t.get.2.error = true ∧ t.get.2.Reads content pos := by
  obtain ⟨backing, position, motorOn, eot, error⟩ := t
  obtain ⟨rfl, rfl, s, rfl, rfl, hs⟩ := h
  obtain ⟨s', hget, hsettled, hs'⟩ := hs.get_end hpos
  have ht : get ⟨some s, position, true, eot, error⟩ =
      (0x00#8, ⟨some s'.clear, position, true, true, true⟩) := by
    simp only [get, hget]
  rw [ht]
  exact ⟨rfl, rfl, rfl, _, rfl, hsettled, hs'⟩

lemma Reads.takes (n : Nat) (h : t.Reads content pos) : (t.takes n).1 = (content.drop pos).take n ∧
    (t.takes n).2.Reads content
      (if n ≤ (content.drop pos).length then pos + n else max pos content.length) := by
  induction n generalizing t pos with
  | zero => simpa [Tape.takes] using h
  | succ n ih =>
    rw [List.length_drop]
    by_cases hpos : pos < content.length
    · obtain ⟨he, hb, hnext⟩ := h.get_byte hpos
      obtain ⟨hdata, hreads⟩ := ih hnext
      have htakes : t.takes (n + 1) = (t.get.1 :: (t.get.2.takes n).1, (t.get.2.takes n).2) := by
        simp [Tape.takes, next, he]
      rw [htakes, List.drop_eq_getElem_cons hpos, List.take_succ_cons, hb, hdata]
      refine ⟨rfl, ?_⟩
      rw [List.length_drop] at hreads
      have hto : (if n ≤ content.length - (pos + 1) then pos + 1 + n else max (pos + 1) content.length) =
          if n + 1 ≤ content.length - pos then pos + (n + 1) else max pos content.length := by
        split_ifs <;> omega
      rwa [hto] at hreads
    · obtain ⟨he, hend⟩ := h.get_end (by omega)
      have htakes : t.takes (n + 1) = ([], t.get.2) := by
        simp [Tape.takes, next, he]
      have hto : (if n + 1 ≤ content.length - pos then pos + (n + 1) else max pos content.length) = pos := by
        split_ifs <;> omega
      rw [htakes, List.drop_eq_nil_of_le (by omega), hto]
      exact ⟨rfl, hend⟩

/-- `LOAD` on a tape that can be read. -/
theorem Reads.load (h : t.Reads content pos) : t.load.1 = blockBytes (content.drop pos) ∧
    t.load.2.1 = goodBlock (content.drop pos) ∧
    t.load.2.2.Reads content (if wholeBlock (content.drop pos)
      then pos + (blockBytes (content.drop pos)).length + 3 else max pos content.length) := by
  by_cases hpos : pos < content.length
  · obtain ⟨he, hlo, hreads⟩ := h.get_byte hpos
    rw [List.drop_eq_getElem_cons hpos]
    by_cases hpos' : pos + 1 < content.length
    · obtain ⟨he', hhi, hreads'⟩ := hreads.get_byte hpos'
      rw [List.drop_eq_getElem_cons hpos', load_of_begins ⟨he, he'⟩]
      have hlen : t.blockLen = word content[pos + 1] content[pos] := by
        unfold blockLen
        rw [hlo, hhi]
      obtain ⟨hdata, hend⟩ := hreads'.takes t.blockLen.toNat
      have hdata' : t.blockData.1 = (content.drop (pos + 1 + 1)).take t.blockLen.toNat := hdata
      have hend' : t.blockData.2.Reads content _ := hend
      have hrest : (content.drop (pos + 1 + 1)).length = content.length - (pos + 1 + 1) := List.length_drop
      have hlength : t.blockData.1.length = min t.blockLen.toNat (content.length - (pos + 1 + 1)) := by
        rw [hdata', List.length_take, hrest]
      rw [hrest] at hend'
      simp only [blockBytes, goodBlock, wholeBlock, ← hlen, ← hdata', hrest, hlength, decide_eq_true_eq,
        List.getElem?_drop]
      obtain hshort | hmissing | hwhole := Nat.lt_trichotomy (content.length - (pos + 1 + 1)) t.blockLen.toNat
      · have hnone : content[pos + 1 + 1 + t.blockLen.toNat]? = none := List.getElem?_eq_none (by omega)
        rw [if_neg (by omega)] at hend'
        refine ⟨trivial, ?_, ?_⟩
        · simp [hnone, hshort]
        · rw [if_neg (by omega), if_pos (by omega)]
          have hto : max pos content.length = max (pos + 1 + 1) content.length := by omega
          rwa [hto]
      · have hnone : content[pos + 1 + 1 + t.blockLen.toNat]? = none := List.getElem?_eq_none (by omega)
        rw [if_pos (by omega)] at hend'
        obtain ⟨hsum, hreads''⟩ := hend'.get_end (by omega)
        refine ⟨trivial, ?_, ?_⟩
        · simp [hnone, hsum]
        · rw [if_neg (by omega), if_neg (by omega)]
          have hto : max pos content.length = pos + 1 + 1 + t.blockLen.toNat := by omega
          rwa [hto]
      · rw [if_pos (by omega)] at hend'
        obtain ⟨hsum, hbyte, hreads''⟩ := hend'.get_byte (by omega)
        have hsome := List.getElem?_eq_getElem (l := content) (i := pos + 1 + 1 + t.blockLen.toNat) (by omega)
        refine ⟨trivial, ?_, ?_⟩
        · have hnot : ¬min t.blockLen.toNat (content.length - (pos + 1 + 1)) < t.blockLen.toNat := by omega
          simp [hsome, hsum, hbyte, hnot]
        · rw [if_pos hwhole, if_neg (by omega)]
          have hto : pos + min t.blockLen.toNat (content.length - (pos + 1 + 1)) + 3 =
              pos + 1 + 1 + t.blockLen.toNat + 1 := by omega
          rwa [hto]
    · obtain ⟨he', hend⟩ := hreads.get_end (by omega)
      rw [List.drop_eq_nil_of_le (by omega), load_of_high he he']
      have hto : max pos content.length = pos + 1 := by omega
      refine ⟨rfl, rfl, ?_⟩
      simpa [wholeBlock, hto] using hend
  · obtain ⟨he, hend⟩ := h.get_end (by omega)
    rw [List.drop_eq_nil_of_le (by omega), load_of_low he]
    have hto : max pos content.length = pos := by omega
    refine ⟨rfl, rfl, ?_⟩
    simpa [wholeBlock, hto] using hend

end Tape

namespace TTY

/-- A tape is in, and its stream can be read. -/
def Readable (tty : TTY) : Prop := ∃ s, tty.tapeBacking = some s ∧ s.Readable

end TTY

namespace System

lemma Shows.reads {sys : System} {m : Machine} (h : sys.Shows m) (hr : sys.tty.Readable) :
    (m.bus.tape.control 0x01#8).Reads sys.tty.tapeContent sys.tty.tapePosition := by
  obtain ⟨s, hs, hread⟩ := hr
  obtain ⟨hbacking, hposition, -⟩ := h.tape
  refine ⟨by simp, ?_, s, ?_, ?_, hread⟩
  · rw [hposition]
    rfl
  · rw [Tape.backing_control, ← hbacking, hs]
  · rw [TTY.tapeContent, hs]
    rfl

lemma load_complains {sys : System} (hready : sys.Ready) (hpc : sys.cpu.pc = 0xD100#16)
    (htape : sys.tty.tapeBacking = none) : ∃ n sys', sys.ReturnsIn n sys' ∧
      sys'.tty.out = sys.tty.out ++ complaint ∧ sys'.tty.tapeMotorOn = sys.tty.tapeMotorOn ∧
      ∀ addr : Word, (addr.hi = 1#8 → 2 ≤ (sys.cpu.sp - addr.lo).toNat) →
        sys'.ram addr = sys.ram addr := by
  have hm := hready.shows
  rw [hm.tape.1] at htape
  have hnone : sys.machine.bus.tape.backing.isSome = false := by
    rw [htape]
    rfl
  obtain ⟨n, sys', m', hret, hshows, ⟨-, hview⟩, hscratch⟩ :=
    hm.returns (Machine.load_refuses (q := False) hpc hnone) (by omega)
  refine ⟨n, sys', hret, ?_, ?_, fun addr hdeep => ?_⟩
  · rw [hshows.out, hm.out]
    exact congrArg View.out hview
  · rw [hshows.tape.2.2.1, hm.tape.2.2.1]
    exact congrArg (fun v => v.tape.motorOn) hview
  · have hwork : m'.bus.work = sys.machine.bus.work := congrArg View.work hview
    have hlow : m'.bus.low = sys.machine.bus.low := congrArg View.low hview
    refine hm.ram_eq hshows (fun _ => ?_) (fun h1 => ?_) (congrFun (congrArg View.high hview) addr)
    · rw [Board.zp, Board.zp, hwork, hlow]
    · refine hscratch addr.lo ?_
      rw [← hm.sp]
      exact hdeep h1

end System

end Sys6
