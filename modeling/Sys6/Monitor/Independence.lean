import Sys6.Monitor.Session

/-!
# What a command depends on

Two systems with like tapes and like RAM off page 1 and the workspace answer a line alike. What the
registers, the stack and the workspace hold from earlier commands plays no part.
-/

namespace Sys6

namespace IoStream

/-- A stream, wherever it stands: every access of the tape seeks first. -/
def parked (s : IoStream) : IoStream := { s with getPosition := 0, putPosition := 0 }

lemma writeOut_parked (s : IoStream) : s.parked.writeOut = (s.writeOut.1, s.writeOut.2.parked) := by
  have hb : s.parked.buffer = s.buffer := rfl
  have ho : s.parked.opened = s.opened := rfl
  have hn : s.parked.nextFault = s.nextFault := rfl
  unfold writeOut
  rw [hb, ho, hn]
  split_ifs
  · rfl
  · cases s.nextFault <;> rfl

/-- What a seek leaves, wherever the stream stood. -/
lemma seek_cases (pos : Nat) (s : IoStream) (hf : s.failed = false) :
    (∃ r : IoStream, r.failed = false ∧ r.opened = true ∧ s.seekg pos = { r with getPosition := pos } ∧
      s.parked.seekg pos = { r.parked with getPosition := pos } ∧
      s.seekp pos = { r with putPosition := pos } ∧
      s.parked.seekp pos = { r.parked with putPosition := pos }) ∨
    ∃ r : IoStream, s.seekg pos = { r with failed := true } ∧ s.parked.seekg pos = { r.parked with failed := true } ∧
      s.seekp pos = { r with failed := true } ∧
      s.parked.seekp pos = { r.parked with failed := true } := by
  have hf' : s.parked.failed = false := hf
  have hwrite := s.writeOut_parked
  have hcan : ∀ r : IoStream, r.parked.canSeek pos = r.canSeek pos := fun _ => rfl
  cases hc : s.writeOut.1 && s.writeOut.2.canSeek pos with
  | true =>
    obtain ⟨hw, hc⟩ := Bool.and_eq_true_iff.mp hc
    refine .inl ⟨s.writeOut.2, by rw [failed_writeOut, hf], opened_of_canSeek hc, seekg_moved hf hw hc, ?_,
      seekp_moved hf hw hc, ?_⟩
    · simp [seekg, hf', hwrite, hw, hcan, hc]
    · simp [seekp, hf', hwrite, hw, hcan, hc]
  | false =>
    refine .inr ⟨s.writeOut.2, seekg_refused hf hc, ?_, seekp_refused hf hc, ?_⟩
    · rw [seekg_refused hf' (by rw [hwrite, hcan, hc]), hwrite]
    · rw [seekp_refused hf' (by rw [hwrite, hcan, hc]), hwrite]

lemma seek_get (pos : Nat) (s : IoStream) : (s.seekg pos).get.1 = (s.parked.seekg pos).get.1 ∧
    (s.seekg pos).get.2.parked = (s.parked.seekg pos).get.2.parked := by
  cases hf : s.failed with
  | true =>
    rw [seekg_failed hf, seekg_failed (s := s.parked) hf, get_failed hf, get_failed (s := s.parked) hf]
    exact ⟨rfl, rfl⟩
  | false =>
    obtain ⟨r, hr, ho, hseek, hseek', -⟩ | ⟨r, hseek, hseek', -⟩ := s.seek_cases pos hf
    · rw [hseek, hseek']
      cases hb : r.content[pos]? with
      | none =>
        rw [get_none (s := { r with getPosition := pos }) hr ho hb,
          get_none (s := { r.parked with getPosition := pos }) hr ho hb]
        exact ⟨rfl, rfl⟩
      | some b =>
        rw [get_some (s := { r with getPosition := pos }) hr ho hb,
          get_some (s := { r.parked with getPosition := pos }) hr ho hb]
        exact ⟨rfl, rfl⟩
    · rw [hseek, hseek', get_failed rfl, get_failed rfl]
      exact ⟨rfl, rfl⟩

/-- The put position plays no part in a flush. -/
lemma flush_parked (s : IoStream) : s.flush.parked = s.parked.flush := by
  have hf : s.parked.failed = s.failed := rfl
  unfold flush
  rw [hf, writeOut_parked]
  dsimp only
  split_ifs <;> rfl

lemma seek_put (pos : Nat) (v : Byte) (s : IoStream) :
    ((s.seekp pos).put v).parked = ((s.parked.seekp pos).put v).parked := by
  cases hf : s.failed with
  | true =>
    rw [seekp_failed hf, seekp_failed (s := s.parked) hf, put_failed hf, put_failed (s := s.parked) hf]
    rfl
  | false =>
    obtain ⟨r, hr, ho, -, -, hseek, hseek'⟩ | ⟨r, -, -, hseek, hseek'⟩ := s.seek_cases pos hf
    · rw [hseek, hseek']
      cases hn : r.nextFault with
      | some n =>
        have hrefused := Option.isSome_of_mem hn
        rw [put_refused (s := { r with putPosition := pos }) hr hrefused,
          put_refused (s := { r.parked with putPosition := pos }) hr hrefused]
        rfl
      | none =>
        rw [put_taken (s := { r with putPosition := pos }) hr ho hn,
          put_taken (s := { r.parked with putPosition := pos }) hr ho hn]
        rfl
    · rw [hseek, hseek', put_failed rfl, put_failed rfl]
      rfl

end IoStream

namespace Tape

def parked (t : Tape) : Tape := { t with backing := t.backing.map IoStream.parked }

/-- The same tape, wherever its stream stands. -/
def Alike (t t' : Tape) : Prop := t.parked = t'.parked

variable {t t' : Tape}

lemma Alike.present (h : t.Alike t') : t.backing.isSome = t'.backing.isSome := by
  have hbacking := congrArg (fun t => t.backing.isSome) h
  simpa [parked] using hbacking

lemma Alike.error (h : t.Alike t') : t.error = t'.error := by
  have herror := congrArg Tape.error h
  exact herror

lemma control_parked (v : Byte) (t : Tape) : (t.control v).parked = t.parked.control v := by
  unfold control
  split_ifs <;> rfl

lemma Alike.control (h : t.Alike t') (v : Byte) : (t.control v).Alike (t'.control v) := by
  unfold Alike
  rw [control_parked, control_parked, h]

lemma get_parked (t : Tape) : t.get.1 = t.parked.get.1 ∧ t.get.2.parked = t.parked.get.2.parked := by
  obtain ⟨backing, position, motorOn, eot, error⟩ := t
  cases backing with
  | none => exact ⟨rfl, rfl⟩
  | some s =>
    cases motorOn with
    | false =>
      refine ⟨rfl, ?_⟩
      simp [get, parked, IoStream.parked]
    | true =>
      obtain ⟨hbyte, hstream⟩ := s.seek_get position
      cases hget : (s.parked.seekg position).get.1 with
      | none =>
        rw [hget] at hbyte
        have hclear : (s.seekg position).get.2.clear.parked = (s.parked.seekg position).get.2.clear.parked :=
          congrArg IoStream.clear hstream
        simp [get, parked, hbyte, hget, hclear]
      | some c =>
        rw [hget] at hbyte
        simp [get, parked, hbyte, hget, hstream]

lemma Alike.get (h : t.Alike t') : t.get.1 = t'.get.1 ∧ t.get.2.Alike t'.get.2 := by
  obtain ⟨hbyte, htape⟩ := t.get_parked
  obtain ⟨hbyte', htape'⟩ := t'.get_parked
  unfold Alike at h ⊢
  rw [hbyte, hbyte', htape, htape', h]
  exact ⟨rfl, rfl⟩

lemma put_parked (v : Byte) (t : Tape) : (t.put v).parked = (t.parked.put v).parked := by
  obtain ⟨backing, position, motorOn, eot, error⟩ := t
  cases backing with
  | none => rfl
  | some s =>
    cases motorOn with
    | false => simp [put, parked, IoStream.parked]
    | true =>
      have hstream := congrArg IoStream.flush (s.seek_put position v)
      rw [← IoStream.flush_parked, ← IoStream.flush_parked] at hstream
      simp [put, parked, hstream]

lemma Alike.put (h : t.Alike t') (v : Byte) : (t.put v).Alike (t'.put v) := by
  unfold Alike at h ⊢
  rw [put_parked v t, put_parked v t', h]

lemma Alike.puts (h : t.Alike t') (bytes : List Byte) : (t.puts bytes).Alike (t'.puts bytes) := by
  induction bytes generalizing t t' with
  | nil => exact h
  | cons b bytes ih => exact ih (h.put b)

lemma Alike.takes (h : t.Alike t') (n : Nat) :
    (t.takes n).1 = (t'.takes n).1 ∧ (t.takes n).2.Alike (t'.takes n).2 := by
  induction n generalizing t t' with
  | zero => exact ⟨rfl, h⟩
  | succ n ih =>
    obtain ⟨hbyte, hrest⟩ := h.get
    have herror := hrest.error
    obtain ⟨hbytes, htape⟩ := ih hrest
    unfold Tape.takes
    cases he : t'.get.2.error with
    | true =>
      rw [he] at herror
      simpa [next, he, herror] using hrest
    | false =>
      rw [he] at herror
      simp only [next, he, herror, Bool.false_eq_true, if_false]
      exact ⟨by rw [hbyte, hbytes], htape⟩

/-- Like tapes hold the same block. -/
lemma Alike.load (h : t.Alike t') : t.load.1 = t'.load.1 ∧ t.load.2.1 = t'.load.2.1 ∧
    t.load.2.2.Alike t'.load.2.2 := by
  obtain ⟨hlo, h₁⟩ := h.get
  obtain ⟨hhi, h₂⟩ := h₁.get
  have he₁ := h₁.error
  have he₂ := h₂.error
  cases hlow : t'.get.2.error with
  | true =>
    rw [load_of_low hlow, load_of_low (he₁.trans hlow)]
    exact ⟨rfl, rfl, h₁⟩
  | false =>
    cases hhigh : t'.get.2.get.2.error with
    | true =>
      rw [load_of_high hlow hhigh, load_of_high (he₁.trans hlow) (he₂.trans hhigh)]
      exact ⟨rfl, rfl, h₂⟩
    | false =>
      have hlen : t.blockLen = t'.blockLen := by rw [blockLen, blockLen, hlo, hhi]
      obtain ⟨hdata, h₃⟩ := h₂.takes t'.blockLen.toNat
      rw [load_of_begins ⟨hlow, hhigh⟩, load_of_begins ⟨he₁.trans hlow, he₂.trans hhigh⟩]
      have hdata' : t.blockData.1 = t'.blockData.1 := by rw [blockData, blockData, hlen, hdata]
      have h₃' : t.blockData.2.Alike t'.blockData.2 := by
        rw [blockData, blockData, hlen]
        exact h₃
      obtain ⟨hsum, h₄⟩ := h₃'.get
      refine ⟨hdata', ?_, ?_⟩
      · rw [hdata', hlen, h₄.error, hsum]
      · rw [hdata', hlen]
        split_ifs
        · exact h₃'
        · exact h₄

end Tape

/-- Off the I/O page, page 1 and the workspace. -/
structure Plain (addr : Word) : Prop where
  quiet : Quiet addr
  stack : addr.hi ≠ 0x01#8
  low : ¬addr ≤ 0x0044#16
  high : ¬(0x00F0#16 ≤ addr ∧ addr ≤ 0x00FD#16)

instance (addr : Word) : Decidable (Plain addr) :=
  decidable_of_iff (Quiet addr ∧ addr.hi ≠ 0x01#8 ∧ ¬addr ≤ 0x0044#16 ∧
      ¬(0x00F0#16 ≤ addr ∧ addr ≤ 0x00FD#16))
    ⟨fun ⟨hquiet, hstack, hlow, hhigh⟩ => ⟨hquiet, hstack, hlow, hhigh⟩,
      fun h => ⟨h.quiet, h.stack, h.low, h.high⟩⟩

lemma Plain.free {addr : Word} (h : Plain addr) (hram : addr.hi < 0x80#8) : Free addr := by
  refine ⟨?_, h.stack, h.low, h.high⟩
  have hhi := addr.hi_toNat
  simp only [BitVec.lt_def, BitVec.toNat_ofNat] at hram ⊢
  omega

lemma Plain.clear {addr : Word} (h : Plain addr) : Clear addr := by
  by_cases hram : addr.hi < 0x80#8
  · exact (h.free hram).clear
  · refine ⟨h.quiet, h.stack, fun h0 => ?_⟩
    rw [h0] at hram
    exact absurd (by decide) hram

namespace Command

/-- What it reads. -/
def sources : Command → List Word
  | .peek a => [a]
  | .list a last | .save a last => addresses a (span a last)
  | _ => []

end Command

/-- The same at all places that a command may be about. -/
structure View.Alike (v v' : View) : Prop where
  mem : ∀ addr, Free addr → v.mem addr = v'.mem addr
  tape : v.tape.Alike v'.tape

namespace View

variable {v v' : View}

/-- Above RAM nothing changes. -/
lemma mem_above (v v' : View) {addr : Word} (hram : ¬addr.hi < 0x80#8) : v.mem addr = v'.mem addr := by
  have h0 : addr.hi ≠ 0#8 := by
    intro h0
    rw [h0] at hram
    exact absurd (by decide) hram
  unfold mem
  rw [if_neg h0, if_neg h0, if_neg hram, if_neg hram]

lemma Alike.plain (h : v.Alike v') {addr : Word} (haddr : Plain addr) : v.mem addr = v'.mem addr := by
  by_cases hram : addr.hi < 0x80#8
  · exact h.mem addr (haddr.free hram)
  · exact mem_above v v' hram

/-- What is read of like memories is the same. -/
lemma Alike.shown (h : v.Alike v') {a : Word} {bytes bytes' : List Byte} (hlen : bytes.length = bytes'.length)
    (hplain : ∀ addr ∈ addresses a bytes.length, Plain addr) (hb : Shown v a bytes) (hb' : Shown v' a bytes') :
    bytes = bytes' := by
  refine List.ext_getElem hlen fun i hi hi' => ?_
  have haddr := hplain _ (mem_addresses.mpr ⟨i, hi, rfl⟩)
  rw [hb.get i hi haddr.clear, hb'.get i hi' haddr.clear, h.plain haddr]

lemma mem_store (v : View) (a addr : Word) (b : Byte) :
    (v.stores a [b]).mem addr = if addr = a ∧ a.hi < 0x80#8 then b else v.mem addr := by
  split_ifs with h
  · obtain ⟨rfl, hram⟩ := h
    exact mem_stores_one hram
  · by_cases ha : addr = a
    · subst ha
      have hram : ¬addr.hi < 0x80#8 := fun hram => h ⟨rfl, hram⟩
      exact mem_above _ _ hram
    · exact mem_stores_of_not_mem (by simpa [addresses] using ha)

lemma Alike.stores (h : v.Alike v') (a : Word) (bytes : List Byte) :
    (v.stores a bytes).Alike (v'.stores a bytes) := by
  induction bytes generalizing a v v' with
  | nil => exact h
  | cons b bytes ih =>
    have hone : (v.stores a [b]).Alike (v'.stores a [b]) := by
      refine ⟨fun addr hf => ?_, h.tape⟩
      rw [mem_store, mem_store, h.mem addr hf]
    exact ih hone (a + 1#16)

end View

/-- Both have printed the same, and are alike again. -/
def SameAnswer (v v' w w' : View) : Prop :=
  ∃ text, v'.out = v.out ++ text ∧ w'.out = w.out ++ text ∧ v'.Alike w'

namespace Command

variable {v v' w w' : View} {e e' : List Event}

lemma quietRange_of_plain {a last : Word} (h : ∀ addr ∈ addresses a (span a last), Plain addr) :
    QuietRange a last := fun i hi => (h _ (mem_addresses.mpr ⟨i, hi, rfl⟩)).quiet

lemma alike_peek (h : v.Alike w) (haddr : v.work.addr = w.work.addr) (hplain : Plain v.work.addr)
    (hd : Machine.Peeked v e v') (hd' : Machine.Peeked w e' w') : SameAnswer v v' w w' := by
  obtain ⟨data, tape, e₁, -, hround, rfl⟩ := hd
  obtain ⟨data', tape', e₁', -, hround', rfl⟩ := hd'
  have hplain' : Plain w.work.addr := haddr ▸ hplain
  have hdata : data = data' := by
    rw [hround.shown hplain.clear, hround'.shown hplain'.clear, h.plain hplain, haddr]
  have htape : tape.Alike tape' := by
    rw [hround.quiet hplain.quiet, hround'.quiet hplain'.quiet]
    exact h.tape
  refine ⟨addrText v.work.addr ++ hexText data ++ crlf, ?_, ?_, h.mem, htape⟩
  · simp
  · simp [hdata, haddr]

lemma alike_list (h : v.Alike w) (haddr : v.work.addr = w.work.addr) (haddr2 : v.work.addr2 = w.work.addr2)
    (hplain : ∀ addr ∈ addresses v.work.addr (span v.work.addr v.work.addr2), Plain addr)
    (hd : Machine.Listed v e v') (hd' : Machine.Listed w e' w') : SameAnswer v v' w w' := by
  obtain ⟨bytes, tape, y, rowCount, e₁, -, hwalk, rfl⟩ := hd
  obtain ⟨bytes', tape', y', rowCount', e₁', -, hwalk', rfl⟩ := hd'
  have hquiet := quietRange_of_plain hplain
  have hquiet' : QuietRange w.work.addr w.work.addr2 := by rwa [haddr, haddr2] at hquiet
  have hlen : bytes.length = bytes'.length := by rw [hwalk.length, hwalk'.length, haddr, haddr2]
  have hshown' := hwalk'.shown
  rw [← haddr] at hshown'
  rw [← hwalk.length] at hplain
  obtain rfl : bytes = bytes' := h.shown hlen hplain hwalk.shown hshown'
  refine ⟨dump v.work.addr bytes, rfl, ?_, h.mem, ?_⟩
  · rw [haddr]
  · show tape.Alike tape'
    rw [hwalk.quiet hquiet, hwalk'.quiet hquiet']
    exact h.tape

lemma alike_save (h : v.Alike w) (haddr : v.work.addr = w.work.addr) (haddr2 : v.work.addr2 = w.work.addr2)
    (hplain : ∀ addr ∈ addresses v.work.addr (span v.work.addr v.work.addr2), Plain addr)
    (hd : Machine.Saved v e v') (hd' : Machine.Saved w e' w') : SameAnswer v v' w w' := by
  obtain ⟨bytes, tape, y, hlen, -, -, -, htape, hshown, rfl⟩ := hd
  obtain ⟨bytes', tape', y', hlen', -, -, -, htape', hshown', rfl⟩ := hd'
  have hquiet := quietRange_of_plain hplain
  have hquiet' : QuietRange w.work.addr w.work.addr2 := by rwa [haddr, haddr2] at hquiet
  have hlens : bytes.length = bytes'.length := by rw [hlen, hlen', haddr, haddr2]
  rw [← haddr] at hshown'
  rw [← hlen] at hplain
  obtain rfl : bytes = bytes' := h.shown hlens hplain hshown hshown'
  refine ⟨[], (List.append_nil _).symm, (List.append_nil _).symm, h.mem, ?_⟩
  show tape.Alike tape'
  rw [htape hquiet, htape' hquiet']
  exact ((h.tape.control _).puts _).control _

lemma quiet_of_plain {cmd : Command} (h : ∀ addr ∈ cmd.sources, Plain addr) : cmd.Quiet := by
  cases cmd with
  | peek a => exact (h a List.mem_cons_self).quiet
  | list a last => exact quietRange_of_plain h
  | save a last => exact quietRange_of_plain h
  | _ => trivial

/-- What a command does depends on nothing but what is alike. -/
lemma Done.alike {cmd : Command} (h : v.Alike w) (harmed : cmd.Armed v.work) (harmed' : cmd.Armed w.work)
    (hplain : ∀ addr ∈ cmd.sources, Plain addr) (hd : cmd.Done v e v') (hd' : cmd.Done w e' w') :
    SameAnswer v v' w w' := by
  have hpresent := h.tape.present
  have hcomplaint : SameAnswer v (v.printed complaint) w (w.printed complaint) :=
    ⟨complaint, rfl, rfl, h.mem, h.tape⟩
  cases cmd with
  | peek a =>
    obtain rfl : v.work.addr = a := harmed
    exact alike_peek h harmed'.symm (hplain _ List.mem_cons_self) hd hd'
  | list a last =>
    obtain ⟨rfl, rfl⟩ := harmed
    exact alike_list h harmed'.1.symm harmed'.2.symm hplain hd hd'
  | poke a bytes =>
    obtain ⟨-, -, x, y, work, rfl⟩ : Poked v bytes e v' := hd
    obtain ⟨-, -, x', y', work', rfl⟩ : Poked w bytes e' w' := hd'
    have hstores := h.stores a bytes
    rw [show v.work.addr = a from harmed.1, show w.work.addr = a from harmed'.1]
    exact ⟨[], (List.append_nil _).symm, (List.append_nil _).symm, hstores.mem, hstores.tape⟩
  | run a => exact hd.elim
  | save a last =>
    obtain ⟨rfl, rfl⟩ := harmed
    by_cases hrange : v.tape.backing.isSome ∧ v.work.addr ≤ v.work.addr2
    · have hrange' : w.tape.backing.isSome ∧ v.work.addr ≤ v.work.addr2 := hpresent ▸ hrange
      exact alike_save h harmed'.1.symm harmed'.2.symm hplain ((if_pos hrange).mp hd) ((if_pos hrange').mp hd')
    · have hrange' : ¬(w.tape.backing.isSome ∧ v.work.addr ≤ v.work.addr2) := hpresent ▸ hrange
      rw [((if_neg hrange).mp hd).2, ((if_neg hrange').mp hd').2]
      exact hcomplaint
  | load a =>
    by_cases htape : v.tape.backing.isSome
    · have htape' : w.tape.backing.isSome := hpresent ▸ htape
      obtain ⟨-, y, cursor, len, sum, rfl⟩ := (if_pos htape).mp hd
      obtain ⟨-, y', cursor', len', sum', rfl⟩ := (if_pos htape').mp hd'
      obtain ⟨hdata, hgood, hrest⟩ := (h.tape.control 0x01#8).load
      have hstores := h.stores a (v.tape.control 0x01#8).load.1
      rw [show v.work.addr = a from harmed, show w.work.addr = a from harmed']
      refine ⟨_, rfl, ?_, ?_, hrest.control _⟩
      · rw [hgood]
      · rw [← hdata]
        exact hstores.mem
    · have htape' : ¬w.tape.backing.isSome := hpresent ▸ htape
      rw [((if_neg htape).mp hd).2, ((if_neg htape').mp hd').2]
      exact hcomplaint
  | rewind a =>
    by_cases htape : v.tape.backing.isSome
    · have htape' : w.tape.backing.isSome := hpresent ▸ htape
      rw [((if_pos htape).mp hd).2, ((if_pos htape').mp hd').2]
      exact ⟨[], (List.append_nil _).symm, (List.append_nil _).symm, h.mem, h.tape.control _⟩
    · have htape' : ¬w.tape.backing.isSome := hpresent ▸ htape
      rw [((if_neg htape).mp hd).2, ((if_neg htape').mp hd').2]
      exact hcomplaint
  | bad =>
    rw [hd.2, hd'.2]
    exact hcomplaint

lemma endless_congr {t t' : Tape} (h : t.Alike t') (cmd : Command) : cmd.Endless t ↔ cmd.Endless t' := by
  cases cmd with
  | save a last =>
    unfold Endless
    rw [h.present]
  | _ => rfl

lemma stores_congr {t t' : Tape} (h : t.Alike t') (cmd : Command) : cmd.stores t = cmd.stores t' := by
  cases cmd with
  | load a =>
    unfold stores
    rw [h.present, (h.control 0x01#8).load.1]
  | _ => rfl

end Command

/-- Two rounds with the same line. -/
lemma Machine.Served.alike {m₁ m₂ m₁' m₂' : Machine} {keys : List Byte} {e₁ e₂ : List Event}
    (h₁ : m₁.Served keys e₁ m₁') (h : m₁.view.Alike m₂.view) (h₂ : m₂.Served keys e₂ m₂')
    (hsources : ∀ addr ∈ (command (typed keys)).sources, Plain addr) :
    ∃ text, m₁'.bus.out = m₁.bus.out ++ text ∧ m₂'.bus.out = m₂.bus.out ++ text ∧ m₁'.view.Alike m₂'.view := by
  obtain ⟨x₁, work₁, e₁, harmed₁, -, hdone₁⟩ := h₁.done
  obtain ⟨x₂, work₂, e₂, harmed₂, -, hdone₂⟩ := h₂.done
  have hstart : View.Alike { m₁.view with x := x₁, y := 2#8, work := work₁, out := m₁.bus.out ++ heading keys }
      { m₂.view with x := x₂, y := 2#8, work := work₂, out := m₂.bus.out ++ heading keys } := ⟨h.mem, h.tape⟩
  obtain ⟨text, hout₁, hout₂, halike⟩ := hdone₁.alike hstart harmed₁ harmed₂ hsources hdone₂
  refine ⟨heading keys ++ text, ?_, ?_, halike⟩
  · rw [← List.append_assoc]
    exact hout₁
  · rw [← List.append_assoc]
    exact hout₂

/-- Nothing is left of what was to come. -/
lemma Input.ready_of_types {inp inp' : Input} {ks : List Byte} (h : inp.Types ks) (hd : inp.Delivers ks inp') :
    inp'.ready = false := by
  rw [← List.append_nil ks] at h
  obtain ⟨c, hnone⟩ := h.tail hd
  have hfirst := hnone 0
  unfold bytes at hfirst
  by_contra hready
  rw [if_pos (by simpa using hready)] at hfirst
  cases hfirst

namespace System

/-- The tapes are alike, and RAM off page 1 and the workspace is. -/
structure Alike (sys sys' : System) : Prop where
  tape : sys.board.tape.Alike sys'.board.tape
  ram : ∀ addr, Free addr → sys.ram addr = sys'.ram addr

lemma alike_iff {sys sys' : System} {m m' : Machine} (h : sys.Shows m) (h' : sys'.Shows m') :
    sys.Alike sys' ↔ m.view.Alike m'.view := by
  have hram : ∀ addr, Free addr → (sys.ram addr = sys'.ram addr ↔ m.view.mem addr = m'.view.mem addr) := by
    intro addr hf
    rw [h.ram_mem hf.clear hf.hi_lt, h'.ram_mem hf.clear hf.hi_lt]
  constructor
  · intro halike
    refine ⟨fun addr hf => (hram addr hf).mp (halike.ram addr hf), ?_⟩
    have htape := halike.tape
    rw [h.board_tape, h'.board_tape] at htape
    exact htape
  · intro halike
    refine ⟨?_, fun addr hf => (hram addr hf).mpr (halike.mem addr hf)⟩
    rw [h.board_tape, h'.board_tape]
    exact halike.tape

variable {sys sys' : System} {keys : List Byte} {n : Nat}

/-- There is no next prompt after a command that does not end. -/
lemma not_endless_of_round (hready : sys.Ready) (hpc : sys.cpu.pc = 0xCF11#16) (hkeys : sys.Hears keys)
    (hround : sys.RoundIn n sys') : ¬(command (typed keys)).Endless sys.machine.bus.tape := by
  intro hends
  have hm := hready.shows
  have hpc' : sys.machine.pc = 0xCF11#16 := hpc
  obtain ⟨e, m', ⟨k, hlead⟩, -, -, rfl, hstays⟩ := Machine.mainLoop_endless hpc' hkeys.1 hkeys.2 hends
  obtain ⟨sys₁, hsteps, hshows, -⟩ := hm.steps n
  rw [hround.run] at hsteps
  cases hsteps
  have hprompt := hround.pc
  rw [hshows.pc] at hprompt
  by_cases hlt : n < k
  · exact Machine.first_of_command hpc' hlead (fun x hx => absurd hx List.not_mem_nil) n hround.pos hlt hprompt
  · obtain ⟨i, rfl⟩ := Nat.exists_eq_add_of_le' (Nat.not_lt.mp hlt)
    rw [Function.iterate_add_apply, hlead.run] at hprompt
    exact Machine.pc_ne_of_command (hstays i).2 hprompt

/-- A round with a line that is no run has carried the line out. -/
lemma served_of_round (hready : sys.Ready) (hpc : sys.cpu.pc = 0xCF11#16) (hkeys : sys.Hears keys)
    (hrun : (command (typed keys)).isRun = false)
    (hstores : ∀ addr ∈ (command (typed keys)).stores sys.machine.bus.tape, Clear addr)
    (hround : sys.RoundIn n sys') : ∃ m', sys'.Shows m' ∧ sys.machine.Served keys (sys.seenIn n) m' := by
  have hends := not_endless_of_round hready hpc hkeys hround
  obtain ⟨k, sys₁, m', hround', hshows, hserved⟩ := round_of_line hready hpc hkeys hrun hstores hends
  obtain ⟨rfl, rfl⟩ := hround.unique hround'
  exact ⟨m', hshows, hserved⟩

/-- The keys behind the line are still to come. -/
lemma yields_of_round {more : List Byte} (hready : sys.Ready) (hpc : sys.cpu.pc = 0xCF11#16)
    (hkeys : sys.Hears keys) (hrun : (command (typed keys)).isRun = false)
    (hstores : ∀ addr ∈ (command (typed keys)).stores sys.machine.bus.tape, Clear addr)
    (hquiet : (command (typed keys)).Quiet) (hround : sys.RoundIn n sys')
    (hin : sys.input.Yields (keys ++ [0x0D#8] ++ more)) : sys'.input.Yields more := by
  obtain ⟨m', hshows, hserved⟩ := served_of_round hready hpc hkeys hrun hstores hround
  rw [hshows.input]
  exact hin.tail _ (hserved.input hquiet)

/-- A line is answered alike by systems that are alike, whatever else they hold. -/
theorem stale_state_unread {sys₁ sys₂ sys₁' : System} {n₁ : Nat} (hready₁ : sys₁.Ready) (hready₂ : sys₂.Ready)
    (hpc₁ : sys₁.cpu.pc = 0xCF11#16) (hpc₂ : sys₂.cpu.pc = 0xCF11#16) (halike : sys₁.Alike sys₂)
    (hkeys₁ : sys₁.Hears keys) (hkeys₂ : sys₂.Hears keys) (hrun : (command (typed keys)).isRun = false)
    (hsources : ∀ addr ∈ (command (typed keys)).sources, Plain addr)
    (hstores : ∀ addr ∈ (command (typed keys)).stores sys₁.board.tape, Plain addr)
    (hround : sys₁.RoundIn n₁ sys₁') :
    ∃ n₂ sys₂', sys₂.RoundIn n₂ sys₂' ∧
      (∃ text, sys₁'.tty.out = sys₁.tty.out ++ text ∧ sys₂'.tty.out = sys₂.tty.out ++ text) ∧
      sys₁'.Alike sys₂' ∧
      (sys₁.input.Types (keys ++ [0x0D#8]) → sys₁'.tty.rxReady = false) ∧
      (sys₂.input.Types (keys ++ [0x0D#8]) → sys₂'.tty.rxReady = false) := by
  have hm₁ := hready₁.shows
  have hm₂ := hready₂.shows
  have hviews := (alike_iff hm₁ hm₂).mp halike
  have htape : sys₁.machine.bus.tape.Alike sys₂.machine.bus.tape := hviews.tape
  -- both lines come to their end
  have hends₁ := not_endless_of_round hready₁ hpc₁ hkeys₁ hround
  have hends₂ : ¬(command (typed keys)).Endless sys₂.machine.bus.tape := fun h =>
    hends₁ ((Command.endless_congr htape _).mpr h)
  have hclear₁ : ∀ addr ∈ (command (typed keys)).stores sys₁.machine.bus.tape, Clear addr :=
    fun addr hmem => (hstores addr hmem).clear
  have hclear₂ : ∀ addr ∈ (command (typed keys)).stores sys₂.machine.bus.tape, Clear addr := by
    rw [← Command.stores_congr htape]
    exact hclear₁
  obtain ⟨m₁, hshows₁, hserved₁⟩ := served_of_round hready₁ hpc₁ hkeys₁ hrun hclear₁ hround
  obtain ⟨n₂, sys₂', m₂, hround₂, hshows₂, hserved₂⟩ := round_of_line hready₂ hpc₂ hkeys₂ hrun hclear₂ hends₂
  obtain ⟨text, hout₁, hout₂, halike'⟩ := hserved₁.alike hviews hserved₂ hsources
  have hquiet := Command.quiet_of_plain hsources
  refine ⟨n₂, sys₂', hround₂, ⟨text, ?_, ?_⟩, (alike_iff hshows₁ hshows₂).mpr halike',
    fun htypes => ?_, fun htypes => ?_⟩
  · rw [hshows₁.out, hm₁.out, hout₁]
  · rw [hshows₂.out, hm₂.out, hout₂]
  · rw [hshows₁.tty]
    exact Input.ready_of_types htypes (hserved₁.input hquiet)
  · rw [hshows₂.tty]
    exact Input.ready_of_types htypes (hserved₂.input hquiet)

/-- `200` is typed at the prompt of a fresh system and of one with other things in the workspace and in SP. -/
theorem stale_state_unread_peek : ∃ n₁ n₂ sys₁ sys₂ text,
    (typing [0x32#8, 0x30#8, 0x30#8] default).RoundIn n₁ sys₁ ∧
    { standing 0xCF11#16 { (default : Work) with lineLen := 7#8, scratchLo := 0x55#8 } default with
      term := fun i => ([0x32#8, 0x30#8, 0x30#8] ++ [0x0D#8])[i]?
      cpu := (standing 0xCF11#16 { (default : Work) with lineLen := 7#8, scratchLo := 0x55#8 } default).cpu.setSP
        0x80#8 }.RoundIn n₂ sys₂ ∧
    sys₁.tty.out = text ∧ sys₂.tty.out = text ∧ sys₁.Alike sys₂ := by
  set sys : System := { standing 0xCF11#16 { (default : Work) with lineLen := 7#8, scratchLo := 0x55#8 } default with
    term := fun i => ([0x32#8, 0x30#8, 0x30#8] ++ [0x0D#8])[i]?
    cpu := (standing 0xCF11#16 { (default : Work) with lineLen := 7#8, scratchLo := 0x55#8 } default).cpu.setSP
      0x80#8 }
  have hready₁ := ready_typing [0x32#8, 0x30#8, 0x30#8] default
  have hready₂ : sys.Ready := ready_of_wire ⟨rfl, rfl, rfl⟩ rfl
  have hkeys₁ := hears_typing [0x32#8, 0x30#8, 0x30#8] default (by decide)
  have hkeys₂ : sys.Hears [0x32#8, 0x30#8, 0x30#8] := hkeys₁
  have hcmd : command (typed [0x32#8, 0x30#8, 0x30#8]) = .peek 0x0200#16 := by decide
  have halike : (typing [0x32#8, 0x30#8, 0x30#8] default).Alike sys := by
    have hshows₁ : (typing [0x32#8, 0x30#8, 0x30#8] default).Shows ⟨0#8, 0#8, 0#8, 0#8, {}, 0xCF11#16, false,
        ⟨default, fun _ => 0#8, fun _ => 0#8, fun _ => 0#8,
          ⟨false, 0#8, fun i => ([0x32#8, 0x30#8, 0x30#8] ++ [0x0D#8])[i]?⟩, [], default⟩⟩ :=
      ⟨⟨rfl, rfl, rfl⟩, rfl, rfl⟩
    have hshows₂ : sys.Shows ⟨0#8, 0#8, 0#8, 0x80#8, {}, 0xCF11#16, false,
        ⟨{ (default : Work) with lineLen := 7#8, scratchLo := 0x55#8 }, fun _ => 0#8, fun _ => 0#8, fun _ => 0#8,
          ⟨false, 0#8, fun i => ([0x32#8, 0x30#8, 0x30#8] ++ [0x0D#8])[i]?⟩, [], default⟩⟩ :=
      ⟨⟨rfl, rfl, rfl⟩, rfl, rfl⟩
    exact (alike_iff hshows₁ hshows₂).mpr ⟨fun _ _ => rfl, rfl⟩
  obtain ⟨n₁, sys₁, -, hround₁, -⟩ := round_of_line hready₁ rfl hkeys₁ (by rw [hcmd]; rfl)
    (by rw [hcmd]; exact fun _ h => absurd h List.not_mem_nil) (by rw [hcmd]; exact id)
  have hplain : ∀ addr ∈ (command (typed [0x32#8, 0x30#8, 0x30#8])).sources, Plain addr := by
    rw [hcmd]
    intro addr hmem
    obtain rfl := List.mem_singleton.mp hmem
    exact ⟨by decide, by decide, by decide, by decide⟩
  obtain ⟨n₂, sys₂, hround₂, ⟨text, hout₁, hout₂⟩, halike', -⟩ :=
    stale_state_unread hready₁ hready₂ rfl rfl halike hkeys₁ hkeys₂ (by rw [hcmd]; rfl) hplain
      (by rw [hcmd]; exact fun _ h => absurd h List.not_mem_nil) hround₁
  exact ⟨n₁, n₂, sys₁, sys₂, text, hround₁, hround₂, hout₁, hout₂, halike'⟩

end System

end Sys6
