import Sys6.Monitor.Blocks
import Sys6.Monitor.CommandLine
import Sys6.Monitor.Independence

/-!
# SAVE, REWIND, LOAD

A session at the prompt that saves ranges, rewinds, and loads them again. The saves leave a tape
that starts with their blocks, and the loads need nothing more of it.
-/

namespace Sys6

/-- The bytes of some blocks. -/
def recording (blocks : List (List Byte)) : List Byte := blocks.flatMap block

lemma length_block (bytes : List Byte) : (block bytes).length = bytes.length + 3 := by
  simp [block]

/-- What `LOAD` finds where `SAVE` has written. -/
lemma block_read {bytes : List Byte} (rest : List Byte) (h : bytes.length < 65536) :
    blockBytes (block bytes ++ rest) = bytes ∧ goodBlock (block bytes ++ rest) = true ∧
      wholeBlock (block bytes ++ rest) = true := by
  have hlen : (word (Word.hi (BitVec.ofNat 16 bytes.length)) (Word.lo (BitVec.ofNat 16 bytes.length))).toNat =
      bytes.length := by
    rw [word_hi_lo, BitVec.toNat_ofNat]
    omega
  have hshape : block bytes ++ rest = Word.lo (BitVec.ofNat 16 bytes.length) ::
      Word.hi (BitVec.ofNat 16 bytes.length) :: (bytes ++ xorOf 0#8 bytes :: rest) := by
    simp [block]
  rw [hshape, blockBytes, goodBlock, wholeBlock, hlen]
  refine ⟨by simp, by simp, ?_⟩
  simp only [List.length_append, List.length_cons, decide_eq_true_eq]
  omega

namespace Tape

variable {t : Tape} {content : List Byte} {pos : Nat}

/-- A tape in memory that has been written up to the cursor. -/
structure Recorded (written : List Byte) (t : Tape) : Prop where
  position : t.position = written.length
  backing : ∃ s, t.backing = some s ∧ s.InMemory ∧ written <+: s.content

lemma Recorded.control {written : List Byte} (h : t.Recorded written) {v : Byte} (hv : v &&& 0x02#8 = 0#8) :
    (t.control v).Recorded written := by
  have hkeep : t.control v = { t with motorOn := v &&& 0x01#8 != 0#8 } := by
    unfold Tape.control
    rw [hv]
    rfl
  rw [hkeep]
  exact ⟨h.position, h.backing⟩

lemma Recorded.put {written : List Byte} (h : t.Recorded written) (hmotor : t.motorOn = true) (b : Byte) :
    (t.put b).Recorded (written ++ [b]) := by
  obtain ⟨backing, position, motorOn, eot, error⟩ := t
  obtain ⟨rfl, s, rfl, hs, after, hcontent⟩ := h
  obtain rfl : motorOn = true := hmotor
  have hle : written.length ≤ s.content.length := by
    rw [← hcontent, List.length_append]
    omega
  have hstore := hs.store hle b
  refine ⟨?_, _, rfl, ?_, ?_⟩
  · simp [Tape.put]
  · rw [hstore]
    exact hs.moved _ _ _
  · rw [hstore, ← hcontent]
    simp

lemma Recorded.puts {written : List Byte} (h : t.Recorded written) (hmotor : t.motorOn = true)
    (bytes : List Byte) : (t.puts bytes).Recorded (written ++ bytes) := by
  induction bytes generalizing t written with
  | nil => simpa [Tape.puts] using h
  | cons b bytes ih =>
    have hrest := ih (h.put hmotor b) (by simpa using hmotor)
    simpa [Tape.puts] using hrest

/-- A tape that can be read, at this place. -/
structure Stands (content : List Byte) (pos : Nat) (t : Tape) : Prop where
  position : t.position = pos
  backing : ∃ s, t.backing = some s ∧ s.settled = content ∧ s.Readable

lemma Recorded.rewound {written : List Byte} (h : t.Recorded written) :
    ∃ rest, (t.control 0x02#8).Stands (written ++ rest) 0 := by
  obtain ⟨-, s, hs, hmem, rest, hcontent⟩ := h
  refine ⟨rest, rfl, s, ?_, hmem.settled.trans hcontent.symm, hmem.readable⟩
  rw [backing_control, hs]

lemma Stands.reads (h : t.Stands content pos) : (t.control 0x01#8).Reads content pos := by
  obtain ⟨hpos, s, hs, hcontent⟩ := h
  refine ⟨by simp, hpos, s, ?_, hcontent⟩
  rw [backing_control, hs]

lemma Reads.stands (h : t.Reads content pos) : (t.control 0x00#8).Stands content pos := by
  obtain ⟨-, hpos, s, hs, hcontent⟩ := h
  refine ⟨hpos, s, ?_, hcontent⟩
  rw [backing_control, hs]

/-- `LOAD` where a block of `SAVE` stands. -/
lemma Stands.load {before bytes rest : List Byte} (h : t.Stands (before ++ (block bytes ++ rest)) before.length)
    (hlen : bytes.length < 65536) : (t.control 0x01#8).load.1 = bytes ∧ (t.control 0x01#8).load.2.1 = true ∧
      ((t.control 0x01#8).load.2.2.control 0x00#8).Stands ((before ++ block bytes) ++ rest)
        (before ++ block bytes).length := by
  obtain ⟨hdata, hgood, hreads⟩ := h.reads.load
  rw [List.drop_left] at hdata hgood hreads
  obtain ⟨hbytes, hok, hwhole⟩ := block_read rest hlen
  rw [hbytes] at hdata hreads
  rw [hok] at hgood
  rw [hwhole, if_pos rfl] at hreads
  refine ⟨hdata, hgood, ?_⟩
  have hpos : (before ++ block bytes).length = before.length + bytes.length + 3 := by
    rw [List.length_append, length_block]
    omega
  rw [hpos, List.append_assoc]
  exact hreads.stands

end Tape

namespace System

/-- What a read at the address gives. -/
def byteAt (sys : System) (addr : Word) : Byte := (BusLike.read sys.cpu.bus addr).1

variable {sys sys' : System} {m : Machine} {keys text : List Byte} {a last : Word} {n : Nat}

lemma Shows.byteAt (h : sys.Shows m) {addr : Word} (hc : Clear addr) : sys.byteAt addr = m.view.mem addr := by
  have hbus : sys.cpu.bus = m.bus.wire := congrArg Isa.Arch.bus h.arch
  have hread : (BusLike.read m.bus.wire addr).1 = (m.bus.read addr).1 :=
    congrArg Prod.fst (Board.busMap_wire.read m.bus addr)
  rw [System.byteAt, hbus, hread, Board.read_of_clear hc m.bus (v := m.view) rfl rfl]

/-- `SAVE` has written what stands in the range. -/
lemma save_line (hready : sys.Ready) (hpc : sys.cpu.pc = 0xCF11#16) (hkeys : sys.Hears keys)
    (hname : Names (typed keys) (.save a last)) (hround : sys.RoundIn n sys')
    (hout : sys'.tty.out = sys.tty.out ++ heading keys ++ text) (htext : 0x3F#8 ∉ text)
    (hplain : ∀ addr ∈ addresses a (span a last), Plain addr) (htape : sys.board.tape.backing.isSome) :
    sys'.Ready ∧ span a last < 65536 ∧ sys'.board.tape = ((sys.board.tape.control 0x01#8).puts
      (block ((addresses a (span a last)).map sys.byteAt))).control 0x00#8 := by
  have hm := hready.shows
  have hcmd : command (typed keys) = .save a last := hname.command.1
  have hends := not_endless_of_round hready hpc hkeys hround
  have hlast : last ≠ 0xFFFF#16 := by
    rintro rfl
    rw [hcmd] at hends
    exact hends ⟨htape, rfl⟩
  have hspan : span a last < 65536 := by
    unfold span
    bv_omega
  obtain ⟨m', hshows, hserved⟩ := served_of_round hready hpc hkeys (by rw [hcmd]; rfl)
    (by rw [hcmd]; exact fun addr hmem => absurd hmem List.not_mem_nil) hround
  refine ⟨hshows.ready, hspan, ?_⟩
  obtain ⟨x, work, e, harmed, -, hdone⟩ := hserved.done
  rw [hcmd] at harmed hdone
  obtain ⟨rfl, rfl⟩ : work.addr = a ∧ work.addr2 = last := harmed
  by_cases hrange : sys.board.tape.backing.isSome ∧ work.addr ≤ work.addr2
  · obtain ⟨bytes, tape, y, hlen, -, -, -, hput, hshown, hview⟩ := (if_pos hrange).mp hdone
    have hlen : bytes.length = span work.addr work.addr2 := hlen
    have hbytes : bytes = (addresses work.addr (span work.addr work.addr2)).map sys.byteAt := by
      refine List.ext_getElem (by simpa [addresses] using hlen) fun i hi hi' => ?_
      have hmem : work.addr + BitVec.ofNat 16 i ∈ addresses work.addr (span work.addr work.addr2) :=
        mem_addresses.mpr ⟨i, by omega, rfl⟩
      have hclear := (hplain _ hmem).clear
      have hbyte : bytes[i] = sys.machine.view.mem (work.addr + BitVec.ofNat 16 i) := hshown.get i hi hclear
      rw [hbyte, ← hm.byteAt hclear]
      simp [addresses]
    rw [hshows.board_tape, ← hbytes]
    have hquiet := Command.quietRange_of_plain hplain
    exact (congrArg View.tape hview).trans (hput hquiet)
  · -- it has not come back without a complaint
    have hcomplaint := congrArg View.out ((if_neg hrange).mp hdone).2
    have hout' : sys'.tty.out = sys.tty.out ++ heading keys ++ complaint := hshows.out.trans hcomplaint
    rw [hout, List.append_cancel_left_eq] at hout'
    rw [hout'] at htext
    exact absurd (by decide) htext

/-- A range that ends below `$FFFF` is saved without a word. -/
lemma save_quiet (hready : sys.Ready) (hpc : sys.cpu.pc = 0xCF11#16) (hkeys : sys.Hears keys)
    (hname : Names (typed keys) (.save a last)) (hle : a ≤ last) (hlast : last ≠ 0xFFFF#16)
    (htape : sys.board.tape.backing.isSome) :
    ∃ n sys', sys.RoundIn n sys' ∧ sys'.tty.out = sys.tty.out ++ heading keys := by
  have hcmd : command (typed keys) = .save a last := hname.command.1
  obtain ⟨n, sys', m', hround, hshows, hserved⟩ := round_of_line hready hpc hkeys (by rw [hcmd]; rfl)
    (by rw [hcmd]; exact fun addr hmem => absurd hmem List.not_mem_nil)
    (by rw [hcmd]; exact fun hends => hlast hends.2)
  obtain ⟨x, work, e, harmed, -, hdone⟩ := hserved.done
  rw [hcmd] at harmed hdone
  obtain ⟨rfl, rfl⟩ : work.addr = a ∧ work.addr2 = last := harmed
  obtain ⟨bytes, tape, y, -, -, -, -, -, -, hview⟩ := (if_pos ⟨htape, hle⟩).mp hdone
  refine ⟨n, sys', hround, ?_⟩
  rw [hshows.out]
  exact congrArg View.out hview

/-- `REWIND` takes a recorded tape to its start. -/
lemma rewind_line {written : List Byte} (hready : sys.Ready) (hpc : sys.cpu.pc = 0xCF11#16)
    (hkeys : sys.Hears keys) (hname : Names (typed keys) (.rewind a)) (htape : sys.board.tape.Recorded written) :
    ∃ n sys' rest, sys.RoundIn n sys' ∧ sys'.Ready ∧ sys'.tty.out = sys.tty.out ++ heading keys ∧
      sys'.board.tape.Stands (written ++ rest) 0 := by
  have hm := hready.shows
  have hcmd : command (typed keys) = .rewind a := hname.command.1
  obtain ⟨n, sys', m', hround, hshows, hserved⟩ := round_of_line hready hpc hkeys (by rw [hcmd]; rfl)
    (by rw [hcmd]; exact fun addr hmem => absurd hmem List.not_mem_nil) (by rw [hcmd]; exact id)
  obtain ⟨x, work, e, -, -, hdone⟩ := hserved.done
  rw [hcmd] at hdone
  obtain ⟨s, hs, -⟩ := htape.backing
  have hpresent : sys.machine.bus.tape.backing.isSome := by
    rw [← hm.board_tape, hs]
    rfl
  obtain ⟨-, hview⟩ := (if_pos hpresent).mp hdone
  obtain ⟨rest, hstands⟩ := htape.rewound
  refine ⟨n, sys', rest, hround, hshows.ready, ?_, ?_⟩
  · rw [hshows.out]
    exact congrArg View.out hview
  · have htape' : sys'.board.tape = sys.board.tape.control 0x02#8 :=
      hshows.board_tape.trans (congrArg View.tape hview)
    rw [htape']
    exact hstands

/-- A load stores the block that the tape stands before. -/
lemma load_stores {before bytes rest : List Byte} (hready : sys.Ready) (hname : Names (typed keys) (.load a))
    (hstands : sys.board.tape.Stands (before ++ (block bytes ++ rest)) before.length)
    (hlen : bytes.length < 65536) (hfree : ∀ addr ∈ addresses a bytes.length, Free addr) :
    ∀ addr ∈ (command (typed keys)).stores sys.machine.bus.tape, Clear addr := by
  obtain ⟨hdata, -⟩ := hstands.load hlen
  obtain ⟨s, hs, -⟩ := hstands.backing
  have hpresent : sys.machine.bus.tape.backing.isSome := by
    rw [← hready.shows.board_tape, hs]
    rfl
  have htape : (sys.machine.bus.tape.control 0x01#8).load.1 = bytes := hdata
  rw [hname.command.1]
  simp only [Command.stores, hpresent, if_true, htape]
  exact fun addr hmem => (hfree addr hmem).clear

/-- `LOAD` brings back the block that the tape stands before. -/
lemma load_line {before bytes rest : List Byte} (hready : sys.Ready) (hpc : sys.cpu.pc = 0xCF11#16)
    (hkeys : sys.Hears keys) (hname : Names (typed keys) (.load a))
    (hstands : sys.board.tape.Stands (before ++ (block bytes ++ rest)) before.length)
    (hlen : bytes.length < 65536) (hfree : ∀ addr ∈ addresses a bytes.length, Free addr) :
    ∃ n sys', sys.RoundIn n sys' ∧ sys'.Ready ∧ sys'.tty.out = sys.tty.out ++ heading keys ∧
      (∀ j (hj : j < bytes.length), sys'.ram (a + BitVec.ofNat 16 j) = bytes[j]) ∧
      (∀ addr, Plain addr → addr ∉ addresses a bytes.length → sys'.byteAt addr = sys.byteAt addr) ∧
      sys'.board.tape.Stands ((before ++ block bytes) ++ rest) (before ++ block bytes).length := by
  have hm := hready.shows
  have hcmd : command (typed keys) = .load a := hname.command.1
  obtain ⟨hdata, hgood, hnext⟩ := hstands.load hlen
  obtain ⟨s, hs, -⟩ := hstands.backing
  have hpresent : sys.machine.bus.tape.backing.isSome := by
    rw [← hm.board_tape, hs]
    rfl
  have htape : (sys.machine.bus.tape.control 0x01#8).load.1 = bytes := hdata
  obtain ⟨n, sys', m', hround, hshows, hserved⟩ := round_of_line hready hpc hkeys (by rw [hcmd]; rfl)
    (load_stores hready hname hstands hlen hfree) (by rw [hcmd]; exact id)
  obtain ⟨x, work, e, harmed, -, hdone⟩ := hserved.done
  rw [hcmd] at harmed hdone
  obtain rfl : work.addr = a := harmed
  obtain ⟨-, y, cursor, len, sum, hview⟩ := (if_pos hpresent).mp hdone
  have hmem : m'.view.mem = (sys.machine.view.stores work.addr bytes).mem := by
    rw [hview]
    exact congrArg (fun b => (sys.machine.view.stores work.addr b).mem) htape
  refine ⟨n, sys', hround, hshows.ready, ?_, fun j hj => ?_, fun addr hplain hnot => ?_, ?_⟩
  · rw [hshows.out, hm.out]
    have hout := congrArg View.out hview
    have hgood' : (sys.machine.bus.tape.control 0x01#8).load.2.1 = true := hgood
    simpa [hgood'] using hout
  · have hf := hfree _ (mem_addresses.mpr ⟨j, hj, rfl⟩)
    rw [hshows.ram_mem hf.clear hf.hi_lt, hmem]
    exact mem_stores (by omega) j hj hf.hi_lt
  · rw [hshows.byteAt hplain.clear, hm.byteAt hplain.clear, hmem]
    exact mem_stores_of_not_mem hnot
  · rw [hshows.board_tape]
    have htape' : m'.bus.tape = (sys.board.tape.control 0x01#8).load.2.2.control 0x00#8 :=
      congrArg View.tape hview
    rw [htape']
    exact hnext

/-- Lines that save these ranges bring the system from prompt to prompt, and none is answered with a
`?`. The blocks are what each range has held when it was saved. -/
inductive Saves : System → List (Word × Word) → List (List Byte) → System → Prop
  | nil (sys : System) : Saves sys [] [] sys
  | cons {sys sys₁ sys' : System} {keys text : List Byte} {a last : Word} {n : Nat}
      {ranges : List (Word × Word)} {blocks : List (List Byte)} :
      sys.Hears keys → Names (typed keys) (.save a last) → sys.RoundIn n sys₁ →
      sys₁.tty.out = sys.tty.out ++ heading keys ++ text → 0x3F#8 ∉ text →
      Saves sys₁ ranges blocks sys' →
      Saves sys ((a, last) :: ranges) ((addresses a (span a last)).map sys.byteAt :: blocks) sys'

/-- Lines that load to these addresses, one after the other, bring these blocks there, and nothing else
changes. -/
def LoadsBack (sys : System) : List (Word × List Byte) → Prop
  | [] => True
  | (a, bytes) :: rest => ∀ keys, sys.Hears keys → Names (typed keys) (.load a) →
      ∃ n sys', sys.RoundIn n sys' ∧ sys'.tty.out = sys.tty.out ++ heading keys ∧
        (∀ j (hj : j < bytes.length), sys'.ram (a + BitVec.ofNat 16 j) = bytes[j]) ∧
        (∀ addr, Plain addr → addr ∉ addresses a bytes.length → sys'.byteAt addr = sys.byteAt addr) ∧
        sys'.LoadsBack rest

/-- The tape has what was on it, and then the blocks. -/
lemma Saves.recorded {sys sys' : System} {ranges : List (Word × Word)} {blocks : List (List Byte)}
    (h : sys.Saves ranges blocks sys') (hready : sys.Ready) (hpc : sys.cpu.pc = 0xCF11#16)
    (hplain : ∀ r ∈ ranges, ∀ addr ∈ addresses r.1 (span r.1 r.2), Plain addr) {written : List Byte}
    (htape : sys.board.tape.Recorded written) :
    sys'.Ready ∧ sys'.cpu.pc = 0xCF11#16 ∧ sys'.board.tape.Recorded (written ++ recording blocks) ∧
      List.Forall₂ (fun r bytes => bytes.length = span r.1 r.2 ∧ bytes.length < 65536) ranges blocks := by
  induction h generalizing written with
  | nil sys => exact ⟨hready, hpc, by simpa [recording] using htape, .nil⟩
  | @cons sys sys₁ sys' keys text a last n ranges blocks hkeys hname hround hout htext _ ih =>
    obtain ⟨s, hs, -⟩ := htape.backing
    have hrange := hplain (a, last) List.mem_cons_self
    obtain ⟨hready₁, hspan, htape₁⟩ :=
      save_line hready hpc hkeys hname hround hout htext hrange (by rw [hs]; rfl)
    have hlen : ((addresses a (span a last)).map sys.byteAt).length = span a last := by simp [addresses]
    have hrec : sys₁.board.tape.Recorded (written ++ block ((addresses a (span a last)).map sys.byteAt)) := by
      rw [htape₁]
      exact ((htape.control (by decide)).puts (by simp) _).control (by decide)
    obtain ⟨hready', hpc', hrest, hall⟩ :=
      ih hready₁ hround.pc (fun r hr => hplain r (List.mem_cons_of_mem _ hr)) hrec
    refine ⟨hready', hpc', ?_, .cons ⟨hlen, by rw [hlen]; exact hspan⟩ hall⟩
    simpa [recording] using hrest

/-- A tape that stands before these blocks gives them back. -/
lemma loadsBack_of_stands {sys : System} {jobs : List (Word × List Byte)} {before rest : List Byte}
    (hready : sys.Ready) (hpc : sys.cpu.pc = 0xCF11#16)
    (hjobs : ∀ job ∈ jobs, job.2.length < 65536 ∧ ∀ addr ∈ addresses job.1 job.2.length, Free addr)
    (hstands : sys.board.tape.Stands (before ++ (recording (jobs.map Prod.snd) ++ rest)) before.length) :
    sys.LoadsBack jobs := by
  induction jobs generalizing sys before with
  | nil => trivial
  | cons job jobs ih =>
    obtain ⟨a, bytes⟩ := job
    intro keys hkeys hname
    obtain ⟨hlen, hfree⟩ := hjobs _ List.mem_cons_self
    have hfirst : sys.board.tape.Stands
        (before ++ (block bytes ++ (recording (jobs.map Prod.snd) ++ rest))) before.length := by
      simpa [recording] using hstands
    obtain ⟨n, sys', hround, hready', hout, hram, hother, hnext⟩ :=
      load_line hready hpc hkeys hname hfirst hlen hfree
    exact ⟨n, sys', hround, hout, hram, hother,
      ih hready' hround.pc (fun job hjob => hjobs job (List.mem_cons_of_mem _ hjob)) hnext⟩

/-- Targets that have room for the ranges have room for the blocks. -/
lemma jobs_fit {ranges : List (Word × Word)} {blocks : List (List Byte)} {targets : List Word}
    (hblocks : List.Forall₂ (fun r bytes => bytes.length = span r.1 r.2 ∧ bytes.length < 65536) ranges blocks)
    (htargets : List.Forall₂ (fun r target => ∀ addr ∈ addresses target (span r.1 r.2), Free addr) ranges
      targets) :
    (targets.zip blocks).map Prod.snd = blocks ∧ ∀ job ∈ targets.zip blocks,
      job.2.length < 65536 ∧ ∀ addr ∈ addresses job.1 job.2.length, Free addr := by
  induction hblocks generalizing targets with
  | nil =>
    cases htargets
    exact ⟨rfl, fun job hjob => absurd hjob List.not_mem_nil⟩
  | @cons r bytes ranges blocks hbytes _ ih =>
    cases htargets with
    | @cons _ target _ targets hfree hrest =>
      obtain ⟨hmap, hall⟩ := ih hrest
      refine ⟨by rw [List.zip_cons_cons, List.map_cons, hmap], fun job hjob => ?_⟩
      rw [List.zip_cons_cons, List.mem_cons] at hjob
      obtain rfl | hjob := hjob
      · refine ⟨hbytes.2, ?_⟩
        rw [hbytes.1]
        exact hfree
      · exact hall job hjob

/-- What was saved comes back: after a `REWIND` the lines load the blocks that the earlier lines have
saved, in their order, wherever there is room for them. -/
theorem save_rewind_load {sys sysS : System} {ranges : List (Word × Word)} {blocks : List (List Byte)}
    {targets : List Word} (hready : sys.Ready) (hpc : sys.cpu.pc = 0xCF11#16)
    (hbacking : ∃ s, sys.tty.tapeBacking = some s ∧ s.InMemory) (hstart : sys.tty.tapePosition = 0)
    (hplain : ∀ r ∈ ranges, ∀ addr ∈ addresses r.1 (span r.1 r.2), Plain addr)
    (htargets : List.Forall₂ (fun r target => ∀ addr ∈ addresses target (span r.1 r.2), Free addr) ranges
      targets)
    (hsaves : sys.Saves ranges blocks sysS) :
    ∀ keys a, sysS.Hears keys → Names (typed keys) (.rewind a) →
      ∃ n sysW, sysS.RoundIn n sysW ∧ sysW.tty.out = sysS.tty.out ++ heading keys ∧
        sysW.LoadsBack (targets.zip blocks) := by
  intro keys a hkeys hname
  have htape : sys.board.tape.Recorded [] := by
    obtain ⟨s, hs, hmem⟩ := hbacking
    exact ⟨hstart, s, hs, hmem, List.nil_prefix⟩
  obtain ⟨hreadyS, hpcS, hrec, hblocks⟩ := hsaves.recorded hready hpc hplain htape
  obtain ⟨n, sysW, rest, hround, hreadyW, hout, hstands⟩ := rewind_line hreadyS hpcS hkeys hname hrec
  obtain ⟨hmap, hjobs⟩ := jobs_fit hblocks htargets
  have hbegin : sysW.board.tape.Stands ([] ++ (recording ((targets.zip blocks).map Prod.snd) ++ rest)) 0 := by
    rw [hmap]
    simpa using hstands
  exact ⟨n, sysW, hround, hout, loadsBack_of_stands hreadyW hround.pc hjobs hbegin⟩

/-- The first line of several, where it saves a range that ends below `$FFFF`. -/
lemma save_first {more : List Byte} (hready : sys.Ready) (hpc : sys.cpu.pc = 0xCF11#16) (hcr : 0x0D#8 ∉ keys)
    (hin : sys.input.Yields (keys ++ [0x0D#8] ++ more)) (hname : Names (typed keys) (.save a last))
    (hle : a ≤ last) (hlast : last ≠ 0xFFFF#16) (hplain : ∀ addr ∈ addresses a (span a last), Plain addr)
    (htape : sys.board.tape.backing.isSome) :
    ∃ n sys', sys.RoundIn n sys' ∧ sys'.tty.out = sys.tty.out ++ heading keys ∧ sys'.Ready ∧
      sys'.board.tape.backing.isSome ∧ sys'.input.Yields more := by
  have hkeys : sys.Hears keys := ⟨hcr, hin.left⟩
  obtain ⟨n, sys', hround, hout⟩ := save_quiet hready hpc hkeys hname hle hlast htape
  have hsilent : sys'.tty.out = sys.tty.out ++ heading keys ++ [] := by rw [hout, List.append_nil]
  obtain ⟨hready', -, htape'⟩ :=
    save_line hready hpc hkeys hname hround hsilent List.not_mem_nil hplain htape
  refine ⟨n, sys', hround, hout, hready', ?_, yields_of_round hready hpc hkeys ?_ ?_ ?_ hround hin⟩
  · rw [htape']
    simpa only [Tape.backing_control, Tape.present_puts] using htape
  · rw [hname.command.1]
    rfl
  · rw [hname.command.1]
    exact fun addr hmem => absurd hmem List.not_mem_nil
  · rw [hname.command.1]
    exact Command.quietRange_of_plain hplain

/-- `C000.C001 S`, `C010.C012 S`, `0 W`, `300 L` and `400 L`. -/
def tapeLines : Fin 5 → List Byte
  | 0 => [0x43#8, 0x30#8, 0x30#8, 0x30#8, 0x2E#8, 0x43#8, 0x30#8, 0x30#8, 0x31#8, 0x20#8, 0x53#8]
  | 1 => [0x43#8, 0x30#8, 0x31#8, 0x30#8, 0x2E#8, 0x43#8, 0x30#8, 0x31#8, 0x32#8, 0x20#8, 0x53#8]
  | 2 => [0x30#8, 0x20#8, 0x57#8]
  | 3 => [0x33#8, 0x30#8, 0x30#8, 0x20#8, 0x4C#8]
  | 4 => [0x34#8, 0x30#8, 0x30#8, 0x20#8, 0x4C#8]

def tapeKeys : List Byte := tapeLines 0 ++ [0x0D#8] ++ (tapeLines 1 ++ [0x0D#8] ++
  (tapeLines 2 ++ [0x0D#8] ++ (tapeLines 3 ++ [0x0D#8] ++ tapeLines 4)))

lemma tapeLines_names : Names (typed (tapeLines 0)) (.save 0xC000#16 0xC001#16) ∧
    Names (typed (tapeLines 1)) (.save 0xC010#16 0xC012#16) ∧ Names (typed (tapeLines 2)) (.rewind 0#16) ∧
    Names (typed (tapeLines 3)) (.load 0x0300#16) ∧ Names (typed (tapeLines 4)) (.load 0x0400#16) := by
  refine ⟨?_, ?_, ?_, ?_, ?_⟩
  · exact @Names.save [0x43#8, 0x30#8, 0x30#8, 0x30#8] [0x43#8, 0x30#8, 0x30#8, 0x31#8]
      ⟨by decide, by decide, by decide⟩ ⟨by decide, by decide, by decide⟩
  · exact @Names.save [0x43#8, 0x30#8, 0x31#8, 0x30#8] [0x43#8, 0x30#8, 0x31#8, 0x32#8]
      ⟨by decide, by decide, by decide⟩ ⟨by decide, by decide, by decide⟩
  · exact @Names.rewind [0x30#8] ⟨by decide, by decide, by decide⟩
  · exact @Names.load [0x33#8, 0x30#8, 0x30#8] ⟨by decide, by decide, by decide⟩
  · exact @Names.load [0x34#8, 0x30#8, 0x30#8] ⟨by decide, by decide, by decide⟩

lemma plain_tapeRanges : (∀ addr ∈ addresses 0xC000#16 (span 0xC000#16 0xC001#16), Plain addr) ∧
    ∀ addr ∈ addresses 0xC010#16 (span 0xC010#16 0xC012#16), Plain addr := by
  have hfirst : addresses 0xC000#16 (span 0xC000#16 0xC001#16) = [0xC000#16, 0xC001#16] := by decide
  have hsecond : addresses 0xC010#16 (span 0xC010#16 0xC012#16) = [0xC010#16, 0xC011#16, 0xC012#16] := by
    decide
  rw [hfirst, hsecond]
  simp only [List.forall_mem_cons, List.not_mem_nil, false_imp_iff, implies_true, and_true]
  decide

lemma free_tapeTargets : (∀ addr ∈ addresses 0x0300#16 (span 0xC000#16 0xC001#16), Free addr) ∧
    ∀ addr ∈ addresses 0x0400#16 (span 0xC010#16 0xC012#16), Free addr := by
  have hfirst : addresses 0x0300#16 (span 0xC000#16 0xC001#16) = [0x0300#16, 0x0301#16] := by decide
  have hsecond : addresses 0x0400#16 (span 0xC010#16 0xC012#16) = [0x0400#16, 0x0401#16, 0x0402#16] := by
    decide
  rw [hfirst, hsecond]
  simp only [List.forall_mem_cons, List.not_mem_nil, false_imp_iff, implies_true, and_true]
  decide

/-- Two blocks of the monitor come to `$0300` and `$0400` by way of a blank tape. -/
theorem save_rewind_load_two : ∃ n₁ n₂ n₃ n₄ n₅ sys₁ sys₂ sys₃ sys₄ sys₅,
    (typing tapeKeys (cassette [])).RoundIn n₁ sys₁ ∧ sys₁.RoundIn n₂ sys₂ ∧ sys₂.RoundIn n₃ sys₃ ∧
      sys₃.RoundIn n₄ sys₄ ∧ sys₄.RoundIn n₅ sys₅ ∧
      (∀ j < 2, sys₄.ram (0x0300#16 + BitVec.ofNat 16 j) =
        (typing tapeKeys (cassette [])).byteAt (0xC000#16 + BitVec.ofNat 16 j)) ∧
      ∀ j < 3, sys₅.ram (0x0400#16 + BitVec.ofNat 16 j) = sys₁.byteAt (0xC010#16 + BitVec.ofNat 16 j) := by
  obtain ⟨hname₁, hname₂, hname₃, hname₄, hname₅⟩ := tapeLines_names
  obtain ⟨hplain₁, hplain₂⟩ := plain_tapeRanges
  obtain ⟨hfree₁, hfree₂⟩ := free_tapeTargets
  have hready := ready_typing tapeKeys (cassette [])
  have hin : (typing tapeKeys (cassette [])).input.Yields (tapeLines 0 ++ [0x0D#8] ++ (tapeLines 1 ++ [0x0D#8] ++
      (tapeLines 2 ++ [0x0D#8] ++ (tapeLines 3 ++ [0x0D#8] ++ (tapeLines 4 ++ [0x0D#8]))))) :=
    yields_typing tapeKeys (cassette [])
  -- the two saves
  obtain ⟨n₁, sys₁, hround₁, hout₁, hready₁, htape₁, hin₁⟩ :=
    save_first hready rfl (by decide) hin hname₁ (by decide) (by decide) hplain₁ rfl
  obtain ⟨n₂, sys₂, hround₂, hout₂, hready₂, -, hin₂⟩ :=
    save_first hready₁ hround₁.pc (by decide) hin₁ hname₂ (by decide) (by decide) hplain₂ htape₁
  have hsaves : (typing tapeKeys (cassette [])).Saves [(0xC000#16, 0xC001#16), (0xC010#16, 0xC012#16)]
      [(addresses 0xC000#16 (span 0xC000#16 0xC001#16)).map (typing tapeKeys (cassette [])).byteAt,
        (addresses 0xC010#16 (span 0xC010#16 0xC012#16)).map sys₁.byteAt] sys₂ :=
    .cons ⟨by decide, hin.left⟩ hname₁ hround₁ (by rw [hout₁, List.append_nil]) List.not_mem_nil
      (.cons ⟨by decide, hin₁.left⟩ hname₂ hround₂ (by rw [hout₂, List.append_nil]) List.not_mem_nil
        (.nil sys₂))
  have hblank : ∃ s, (typing tapeKeys (cassette [])).tty.tapeBacking = some s ∧ s.InMemory :=
    ⟨⟨[], true, false, false, 0, 0, [], []⟩, rfl, rfl, rfl, rfl, rfl, rfl⟩
  have hranges : ∀ r ∈ [(0xC000#16, 0xC001#16), (0xC010#16, 0xC012#16)],
      ∀ addr ∈ addresses r.1 (span r.1 r.2), Plain addr := by
    simp only [List.forall_mem_cons, List.not_mem_nil, false_imp_iff, implies_true, and_true]
    exact ⟨hplain₁, hplain₂⟩
  -- the line that rewinds, and those that load
  have hkeys₃ : sys₂.Hears (tapeLines 2) := ⟨by decide, hin₂.left⟩
  obtain ⟨n₃, sys₃, hround₃, -, hloads⟩ := save_rewind_load hready rfl hblank rfl hranges
    (.cons hfree₁ (.cons hfree₂ .nil)) hsaves _ _ hkeys₃ hname₃
  have hin₃ := yields_of_round hready₂ hround₂.pc hkeys₃ (by rw [hname₃.command.1]; rfl)
    (by rw [hname₃.command.1]; exact fun addr hmem => absurd hmem List.not_mem_nil)
    (by rw [hname₃.command.1]; trivial) hround₃ hin₂
  have hkeys₄ : sys₃.Hears (tapeLines 3) := ⟨by decide, hin₃.left⟩
  obtain ⟨n₄, sys₄, hround₄, -, hram₄, -, hloads₄⟩ := hloads _ hkeys₄ hname₄
  have hready₃ := hround₃.ready hready₂
  have hstands : ∃ rest, sys₃.board.tape.Stands ([] ++ (block ((addresses 0xC000#16
      (span 0xC000#16 0xC001#16)).map (typing tapeKeys (cassette [])).byteAt) ++ rest)) ([] : List Byte).length := by
    obtain ⟨s, hs, hmem⟩ := hblank
    obtain ⟨-, hpc₂, hrec, -⟩ := hsaves.recorded hready rfl hranges ⟨rfl, s, hs, hmem, List.nil_prefix⟩
    obtain ⟨n, sysW, rest, hround, -, -, hstands⟩ := rewind_line hready₂ hpc₂ hkeys₃ hname₃ hrec
    obtain ⟨rfl, rfl⟩ := hround₃.unique hround
    exact ⟨_, by simpa [recording] using hstands⟩
  obtain ⟨rest, hstands⟩ := hstands
  have hlen : ((addresses 0xC000#16 (span 0xC000#16 0xC001#16)).map
      (typing tapeKeys (cassette [])).byteAt).length = span 0xC000#16 0xC001#16 := by simp [addresses]
  have hstores := load_stores hready₃ hname₄ hstands (by rw [hlen]; decide) (by rwa [hlen])
  have hin₄ := yields_of_round hready₃ hround₃.pc hkeys₄ (by rw [hname₄.command.1]; rfl) hstores
    (by rw [hname₄.command.1]; trivial) hround₄ hin₃
  have hkeys₅ : sys₄.Hears (tapeLines 4) := ⟨by decide, hin₄⟩
  obtain ⟨n₅, sys₅, hround₅, -, hram₅, -⟩ := hloads₄ _ hkeys₅ hname₅
  exact ⟨n₁, n₂, n₃, n₄, n₅, sys₁, sys₂, sys₃, sys₄, sys₅, hround₁, hround₂, hround₃, hround₄, hround₅,
    fun j hj => (hram₄ j hj).trans (by simp [addresses]), fun j hj => (hram₅ j hj).trans (by simp [addresses])⟩

end System

end Sys6
