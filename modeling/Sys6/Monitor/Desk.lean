import Sys6.Library.Dialogue
import Sys6.Monitor.Independence
import Sys6.Monitor.TapeSession

/-!
# What the monitor is for

The monitor as its user sees it: a memory, a cassette and an answer to every line. Nothing is said
here about the CPU, its stack or the workspace on page 0; a session with the system is a session
with this desk as long as no line touches these.
-/

namespace Sys6

/-- The memory and the cassette. -/
structure Desk where
  mem : Word → Byte
  tape : Tape

namespace Desk

/-- A store changes RAM and nothing else. -/
def store (a : Word) (b : Byte) (d : Desk) : Desk :=
  if a < 0x8000#16 then { d with mem := Function.update d.mem a b } else d

/-- Stores one after another. -/
def stores (a : Word) : List Byte → Desk → Desk
  | [], d => d
  | b :: bytes, d => stores (a + 1#16) bytes (d.store a b)

/-- What stands in a range. -/
def range (a last : Word) (d : Desk) : List Byte := (addresses a (span a last)).map d.mem

end Desk

namespace Command

/-- What is printed in answer to a command, and what it leaves; nothing for one that is not heard
of again. -/
def answer (d : Desk) : Command → Option (List Byte × Desk)
  | .peek a => some (addrText a ++ hexText (d.mem a) ++ crlf, d)
  | .list a last => if last = 0xFFFF#16 then none else some (dump a (d.range a last), d)
  | .poke a bytes => some ([], d.stores a bytes)
  | .run _ => none
  | .save a last =>
    if d.tape.backing.isSome ∧ a ≤ last then
      if last = 0xFFFF#16 then none
      else some ([], { d with tape := ((d.tape.control 0x01#8).puts (block (d.range a last))).control 0x00#8 })
    else some (complaint, d)
  | .load a =>
    if d.tape.backing.isSome then
      let r := (d.tape.control 0x01#8).load
      some (if r.2.1 then [] else complaint, { d.stores a r.1 with tape := r.2.2.control 0x00#8 })
    else some (complaint, d)
  | .rewind _ =>
    if d.tape.backing.isSome then some ([], { d with tape := d.tape.control 0x02#8 })
    else some (complaint, d)
  | .bad => some (complaint, d)

/-- It leaves the monitor where it is, and reads and stores where the desk knows what is there. -/
structure Proper (d : Desk) (cmd : Command) : Prop where
  stays : cmd.isRun = false
  sources : ∀ addr ∈ cmd.sources, Plain addr
  stores : ∀ addr ∈ cmd.stores d.tape, Plain addr

end Command

namespace Desk

/-- All that is printed for a line, and what it leaves. -/
def reply (d : Desk) (keys : List Byte) : Option (List Byte × Desk) :=
  ((command (typed keys)).answer d).map fun r => (heading keys ++ r.1, r.2)

/-- A session, line by line. -/
def session (d : Desk) (lines : List (List Byte)) : Option (List Byte × Desk) := Dialogue.run reply d lines

/-- Every line of the session is typed without RETURN, and is proper when it comes to it. -/
def Orderly (d : Desk) (lines : List (List Byte)) : Prop :=
  Dialogue.Along reply (fun d keys => 0x0D#8 ∉ keys ∧ (command (typed keys)).Proper d) d lines

variable {d d' : Desk} {keys text : List Byte} {lines : List (List Byte)}

lemma reply_of_answer (h : (command (typed keys)).answer d = some (text, d')) :
    d.reply keys = some (heading keys ++ text, d') := by
  rw [reply, h]
  rfl

lemma session_cons (h : (command (typed keys)).answer d = some (text, d')) : d.session (keys :: lines) =
    (d'.session lines).map fun r => (heading keys ++ text ++ r.1, r.2) :=
  Dialogue.run_cons (reply_of_answer h)

lemma session_cons_none (h : (command (typed keys)).answer d = none) : d.session (keys :: lines) = none :=
  Dialogue.run_cons_none (by rw [reply, h]; rfl)

lemma orderly_cons (hcr : 0x0D#8 ∉ keys) (hproper : (command (typed keys)).Proper d)
    (h : ∀ text d', (command (typed keys)).answer d = some (text, d') → d'.Orderly lines) :
    d.Orderly (keys :: lines) := by
  refine ⟨⟨hcr, hproper⟩, fun text d' hreply => ?_⟩
  obtain ⟨⟨text', d''⟩, hanswer, heq⟩ := Option.map_eq_some_iff.mp hreply
  obtain ⟨-, rfl⟩ := Prod.mk.inj heq
  exact h text' d'' hanswer

end Desk

/-- The keys of a session. -/
def strokes (lines : List (List Byte)) : List Byte := lines.flatMap (· ++ [0x0D#8])

/-- The memory and the cassette are those of the desk. -/
structure View.Pictures (v : View) (d : Desk) : Prop where
  mem : ∀ addr, Plain addr → v.mem addr = d.mem addr
  tape : v.tape.Alike d.tape

namespace View

variable {v v' : View} {d : Desk}

lemma Pictures.store (h : v.Pictures d) (a : Word) (b : Byte) : (v.stores a [b]).Pictures (d.store a b) := by
  have hhi : a.hi < 0x80#8 ↔ a < 0x8000#16 := by
    have := a.hi_toNat
    simp only [BitVec.lt_def, BitVec.toNat_ofNat]
    omega
  refine ⟨fun addr haddr => ?_, ?_⟩
  · rw [mem_store, h.mem addr haddr, Desk.store]
    by_cases hram : a < 0x8000#16
    · simp only [if_pos hram, hhi.mpr hram, and_true, Function.update_apply]
    · simp only [if_neg hram, mt hhi.mp hram, and_false, if_false]
  · unfold Desk.store
    split_ifs
    · exact h.tape
    · exact h.tape

lemma Pictures.stores (h : v.Pictures d) (a : Word) (bytes : List Byte) :
    (v.stores a bytes).Pictures (d.stores a bytes) := by
  induction bytes generalizing a v d with
  | nil => exact h
  | cons b bytes ih => exact ih (h.store a b) (a + 1#16)

/-- What is read of a range is what stands there on the desk. -/
lemma Pictures.range {a last : Word} {bytes : List Byte} (h : v.Pictures d)
    (hlen : bytes.length = span a last) (hshown : Shown v a bytes)
    (hplain : ∀ addr ∈ addresses a (span a last), Plain addr) : bytes = d.range a last := by
  refine List.ext_getElem (by simpa [Desk.range, addresses] using hlen) fun i hi hi' => ?_
  have haddr := hplain _ (mem_addresses.mpr ⟨i, by omega, rfl⟩)
  rw [hshown.get i hi haddr.clear, h.mem _ haddr]
  simp [Desk.range, addresses]

lemma Pictures.of_tape {tape tape' : Tape} (h : v.Pictures d) (halike : tape.Alike tape') :
    View.Pictures { v with tape := tape } { d with tape := tape' } := ⟨h.mem, halike⟩

end View

namespace Command

variable {v v' : View} {d : Desk} {e : List Event} {cmd : Command}

/-- What a command has done when it comes back, against a desk. -/
def Answered (v v' : View) (r : Option (List Byte × Desk)) : Prop :=
  ∃ text d', r = some (text, d') ∧ v'.out = v.out ++ text ∧ v'.Pictures d'

lemma answered_complaint (h : v.Pictures d) : Answered v (v.printed complaint) (some (complaint, d)) :=
  ⟨complaint, d, rfl, rfl, h.mem, h.tape⟩

lemma answered_peek {a : Word} (h : v.Pictures d) (harmed : v.work.addr = a) (hplain : Plain a)
    (hd : Machine.Peeked v e v') : Answered v v' ((Command.peek a).answer d) := by
  subst harmed
  obtain ⟨data, tape, e₁, -, hround, rfl⟩ := hd
  have hdata : data = d.mem v.work.addr := (hround.shown hplain.clear).trans (h.mem _ hplain)
  refine ⟨_, d, rfl, ?_, h.mem, ?_⟩
  · simp [hdata]
  · show tape.Alike d.tape
    rw [hround.quiet hplain.quiet]
    exact h.tape

lemma answered_list {a last : Word} (h : v.Pictures d) (harmed : v.work.addr = a ∧ v.work.addr2 = last)
    (hends : last ≠ 0xFFFF#16) (hplain : ∀ addr ∈ addresses a (span a last), Plain addr)
    (hd : Machine.Listed v e v') : Answered v v' ((Command.list a last).answer d) := by
  obtain ⟨rfl, rfl⟩ := harmed
  obtain ⟨bytes, tape, y, rowCount, e₁, -, hwalk, rfl⟩ := hd
  have hbytes := h.range hwalk.length hwalk.shown hplain
  refine ⟨_, d, if_neg hends, ?_, h.mem, ?_⟩
  · rw [← hbytes]
  · show tape.Alike d.tape
    rw [hwalk.quiet (quietRange_of_plain hplain)]
    exact h.tape

lemma answered_save {a last : Word} (h : v.Pictures d) (harmed : v.work.addr = a ∧ v.work.addr2 = last)
    (hends : ¬(Command.save a last).Endless v.tape)
    (hplain : ∀ addr ∈ addresses a (span a last), Plain addr)
    (hd : (Command.save a last).Done v e v') : Answered v v' ((Command.save a last).answer d) := by
  obtain ⟨rfl, rfl⟩ := harmed
  have hpresent := h.tape.present
  by_cases hrange : v.tape.backing.isSome ∧ v.work.addr ≤ v.work.addr2
  · have hlast : v.work.addr2 ≠ 0xFFFF#16 := fun hlast => hends ⟨hrange.1, hlast⟩
    have hrange' : d.tape.backing.isSome ∧ v.work.addr ≤ v.work.addr2 := hpresent ▸ hrange
    obtain ⟨bytes, tape, y, hlen, -, -, -, htape, hshown, rfl⟩ := (if_pos hrange).mp hd
    have hbytes := h.range hlen hshown hplain
    refine ⟨[], _, (if_pos hrange').trans (if_neg hlast), (List.append_nil _).symm, h.mem, ?_⟩
    show tape.Alike _
    rw [htape (quietRange_of_plain hplain), ← hbytes]
    exact ((h.tape.control _).puts _).control _
  · have hrange' : ¬(d.tape.backing.isSome ∧ v.work.addr ≤ v.work.addr2) := hpresent ▸ hrange
    rw [((if_neg hrange).mp hd).2, answer, if_neg hrange']
    exact answered_complaint h

lemma answered_load {a : Word} (h : v.Pictures d) (harmed : v.work.addr = a)
    (hd : (Command.load a).Done v e v') : Answered v v' ((Command.load a).answer d) := by
  subst harmed
  have hpresent := h.tape.present
  by_cases htape : v.tape.backing.isSome
  · have htape' : d.tape.backing.isSome := hpresent ▸ htape
    obtain ⟨-, y, cursor, len, sum, rfl⟩ := (if_pos htape).mp hd
    obtain ⟨hdata, hgood, hrest⟩ := (h.tape.control 0x01#8).load
    have hstores := h.stores v.work.addr (v.tape.control 0x01#8).load.1
    have hanswer : (Command.load v.work.addr).answer d =
        some (if (d.tape.control 0x01#8).load.2.1 then [] else complaint,
          { d.stores v.work.addr (d.tape.control 0x01#8).load.1 with
            tape := (d.tape.control 0x01#8).load.2.2.control 0x00#8 }) := if_pos htape'
    rw [hanswer, ← hgood, ← hdata]
    exact ⟨_, _, rfl, rfl, hstores.mem, hrest.control _⟩
  · have htape' : ¬d.tape.backing.isSome := hpresent ▸ htape
    rw [((if_neg htape).mp hd).2, answer, if_neg htape']
    exact answered_complaint h

lemma answered_rewind {a : Word} (h : v.Pictures d) (hd : (Command.rewind a).Done v e v') :
    Answered v v' ((Command.rewind a).answer d) := by
  have hpresent := h.tape.present
  by_cases htape : v.tape.backing.isSome
  · have htape' : d.tape.backing.isSome := hpresent ▸ htape
    rw [((if_pos htape).mp hd).2, answer, if_pos htape']
    exact ⟨[], _, rfl, (List.append_nil _).symm, h.of_tape (h.tape.control _)⟩
  · have htape' : ¬d.tape.backing.isSome := hpresent ▸ htape
    rw [((if_neg htape).mp hd).2, answer, if_neg htape']
    exact answered_complaint h

/-- A command that comes back has answered as the desk does. -/
lemma Done.answered (h : v.Pictures d) (harmed : cmd.Armed v.work) (hproper : cmd.Proper d)
    (hends : ¬cmd.Endless v.tape) (hd : cmd.Done v e v') : Answered v v' (cmd.answer d) := by
  cases cmd with
  | peek a => exact answered_peek h harmed (hproper.sources _ List.mem_cons_self) hd
  | list a last => exact answered_list h harmed hends hproper.sources hd
  | poke a bytes =>
    obtain ⟨-, -, x, y, work, rfl⟩ : Poked v bytes e v' := hd
    have hstores := h.stores a bytes
    rw [show v.work.addr = a from harmed.1]
    exact ⟨[], _, rfl, (List.append_nil _).symm, hstores.mem, hstores.tape⟩
  | run a => exact hd.elim
  | save a last => exact answered_save h harmed hends hproper.sources hd
  | load a => exact answered_load h harmed hd
  | rewind a => exact answered_rewind h hd
  | bad =>
    rw [hd.2]
    exact answered_complaint h

/-- No answer is to be had from an endless command alone. -/
lemma answer_eq_none (hrun : cmd.isRun = false) : cmd.answer d = none ↔ cmd.Endless d.tape := by
  cases cmd with
  | list a last => simp [answer, Endless]
  | run a => cases hrun
  | save a last =>
    unfold answer Endless
    by_cases hlast : last = 0xFFFF#16
    · have hle : a ≤ last := by
        rw [hlast]
        bv_omega
      by_cases htape : d.tape.backing.isSome <;> simp [hlast, htape, hlast ▸ hle]
    · by_cases hrange : d.tape.backing.isSome ∧ a ≤ last <;> simp [hlast, hrange]
  | load a =>
    unfold answer Endless
    split_ifs <;> simp
  | rewind a =>
    unfold answer Endless
    split_ifs <;> simp
  | _ => simp [answer, Endless]

end Command

namespace System

/-- The system's memory and cassette are those of the desk. -/
structure Pictures (sys : System) (d : Desk) : Prop where
  mem : ∀ addr, Plain addr → sys.byteAt addr = d.mem addr
  tape : sys.board.tape.Alike d.tape

/-- From a prompt to the `k`-th one after it. -/
def Rounds (sys : System) : Nat → System → Prop
  | 0, sys' => sys = sys'
  | k + 1, sys' => ∃ n sys₁, sys.RoundIn n sys₁ ∧ sys₁.Rounds k sys'

variable {sys sys' : System} {d : Desk} {keys : List Byte} {lines : List (List Byte)} {n : Nat}

lemma pictures_iff {m : Machine} (h : sys.Shows m) : sys.Pictures d ↔ m.view.Pictures d := by
  have htape : sys.board.tape = m.view.tape := h.board_tape
  constructor
  · intro hp
    refine ⟨fun addr haddr => ?_, htape ▸ hp.tape⟩
    rw [← h.byteAt haddr.clear]
    exact hp.mem addr haddr
  · intro hp
    refine ⟨fun addr haddr => ?_, htape ▸ hp.tape⟩
    rw [h.byteAt haddr.clear]
    exact hp.mem addr haddr

/-- One line. -/
lemma round_answered (hready : sys.Ready) (hpc : sys.cpu.pc = 0xCF11#16) (hkeys : sys.Hears keys)
    (hp : sys.Pictures d) (hproper : (command (typed keys)).Proper d)
    (hends : ¬(command (typed keys)).Endless d.tape) :
    ∃ n sys' text d', sys.RoundIn n sys' ∧ sys'.Ready ∧ (command (typed keys)).answer d = some (text, d') ∧
      sys'.tty.out = sys.tty.out ++ heading keys ++ text ∧ sys'.Pictures d' ∧
      ∀ more, sys.input.Yields (keys ++ [0x0D#8] ++ more) → sys'.input.Yields more := by
  have hview := (pictures_iff hready.shows).mp hp
  have htape : sys.machine.bus.tape.Alike d.tape := hview.tape
  have hends' : ¬(command (typed keys)).Endless sys.machine.bus.tape := fun h =>
    hends ((Command.endless_congr htape _).mp h)
  have hclear : ∀ addr ∈ (command (typed keys)).stores sys.machine.bus.tape, Clear addr := by
    rw [Command.stores_congr htape]
    exact fun addr hmem => (hproper.stores addr hmem).clear
  have hquiet := Command.quiet_of_plain hproper.sources
  obtain ⟨n, sys', m', hround, hshows, hserved⟩ := round_of_line hready hpc hkeys hproper.stays hclear hends'
  obtain ⟨x, work, e, harmed, -, hdone⟩ := hserved.done
  have hstart : View.Pictures { sys.machine.view with
      x := x, y := 2#8, work := work, out := sys.machine.bus.out ++ heading keys } d := ⟨hview.mem, hview.tape⟩
  obtain ⟨text, d', hanswer, hout, hp'⟩ := hdone.answered hstart harmed hproper hends'
  refine ⟨n, sys', text, d', hround, hshows.ready, hanswer, ?_, (pictures_iff hshows).mpr hp', fun more hin => ?_⟩
  · rw [hshows.out]
    exact hout
  · exact yields_of_round hready hpc hkeys hproper.stays hclear hquiet hround hin

/-- A session with the system is the session with the desk: the same text in the same order, line by
line, and in the end the same memory and the same cassette. Where the desk has no answer to a line, the
system does not come back to its prompt. -/
structure Answers (sys : System) (d : Desk) (lines : List (List Byte)) : Prop where
  answered : ∀ text d', d.session lines = some (text, d') →
    ∃ sys', sys.Rounds lines.length sys' ∧ sys'.Ready ∧ sys'.cpu.pc = 0xCF11#16 ∧
      sys'.tty.out = sys.tty.out ++ text ∧ sys'.Pictures d' ∧
      ∀ more, sys.input.Yields (strokes lines ++ more) → sys'.input.Yields more
  endless : d.session lines = none →
    ∃ k sys' text d', k < lines.length ∧ sys.Rounds k sys' ∧ d.session (lines.take k) = some (text, d') ∧
      sys'.tty.out = sys.tty.out ++ text ∧ sys'.Pictures d' ∧ ∀ n sys'', ¬sys'.RoundIn n sys''

lemma strokes_cons (keys : List Byte) (lines : List (List Byte)) :
    strokes (keys :: lines) = keys ++ [0x0D#8] ++ strokes lines := rfl

lemma answers_nil (hready : sys.Ready) (hpc : sys.cpu.pc = 0xCF11#16) (hp : sys.Pictures d) :
    sys.Answers d [] := by
  refine ⟨fun text d' h => ?_, fun h => by cases h⟩
  cases h
  exact ⟨sys, rfl, hready, hpc, (List.append_nil _).symm, hp, fun more h => h⟩

/-- Where the desk has no answer, neither has the system. -/
lemma answers_endless (hready : sys.Ready) (hpc : sys.cpu.pc = 0xCF11#16) (hkeys : sys.Hears keys)
    (hp : sys.Pictures d) (hproper : (command (typed keys)).Proper d)
    (hends : (command (typed keys)).Endless d.tape) : sys.Answers d (keys :: lines) := by
  have hnone : d.session (keys :: lines) = none :=
    Desk.session_cons_none ((Command.answer_eq_none hproper.stays).mpr hends)
  have htape := ((pictures_iff hready.shows).mp hp).tape
  refine ⟨fun text d' h => ?_, fun _ => ?_⟩
  · rw [hnone] at h
    cases h
  · exact ⟨0, sys, [], d, Nat.succ_pos _, rfl, rfl, (List.append_nil _).symm, hp, fun n sys'' hround =>
      not_endless_of_round hready hpc hkeys hround ((Command.endless_congr htape _).mpr hends)⟩

/-- A line that is answered, before others that are. -/
lemma answers_cons {sys₁ : System} {d₁ : Desk} {text : List Byte} (hround : sys.RoundIn n sys₁)
    (hanswer : (command (typed keys)).answer d = some (text, d₁))
    (hout : sys₁.tty.out = sys.tty.out ++ heading keys ++ text)
    (hmore : ∀ more, sys.input.Yields (keys ++ [0x0D#8] ++ more) → sys₁.input.Yields more)
    (h : sys₁.Answers d₁ lines) : sys.Answers d (keys :: lines) := by
  have hsession : d.session (keys :: lines) =
      (d₁.session lines).map fun r => (heading keys ++ text ++ r.1, r.2) := Desk.session_cons hanswer
  constructor
  · intro text' d' hs
    rw [hsession] at hs
    obtain ⟨⟨more, d''⟩, hs', heq⟩ := Option.map_eq_some_iff.mp hs
    cases heq
    obtain ⟨sys', hrounds, hready', hpc', hout', hp', hmore'⟩ := h.answered more d'' hs'
    refine ⟨sys', ⟨n, sys₁, hround, hrounds⟩, hready', hpc', ?_, hp', fun keys' hin => ?_⟩
    · rw [hout', hout]
      simp only [List.append_assoc]
    · rw [strokes_cons, List.append_assoc] at hin
      exact hmore' keys' (hmore _ hin)
  · intro hs
    rw [hsession] at hs
    obtain ⟨k, sys', more, d', hk, hrounds, hsome, hout', hp', hstuck⟩ := h.endless (Option.map_eq_none_iff.mp hs)
    refine ⟨k + 1, sys', heading keys ++ text ++ more, d', Nat.succ_lt_succ hk, ⟨n, sys₁, hround, hrounds⟩,
      ?_, ?_, hp', hstuck⟩
    · rw [List.take_succ_cons, Desk.session_cons hanswer, hsome]
      rfl
    · rw [hout', hout]
      simp only [List.append_assoc]

theorem answers_of_orderly (hready : sys.Ready) (hpc : sys.cpu.pc = 0xCF11#16) (hp : sys.Pictures d)
    (horderly : d.Orderly lines) (hin : sys.input.Yields (strokes lines)) : sys.Answers d lines := by
  induction lines generalizing sys d with
  | nil => exact answers_nil hready hpc hp
  | cons keys lines ih =>
    obtain ⟨⟨hcr, hproper⟩, hrest⟩ := horderly
    rw [strokes_cons] at hin
    have hkeys : sys.Hears keys := ⟨hcr, hin.left⟩
    by_cases hends : (command (typed keys)).Endless d.tape
    · exact answers_endless hready hpc hkeys hp hproper hends
    · obtain ⟨n, sys₁, text, d₁, hround, hready₁, hanswer, hout, hp₁, hmore⟩ :=
        round_answered hready hpc hkeys hp hproper hends
      exact answers_cons hround hanswer hout hmore (ih hready₁ hround.pc hp₁
        (hrest _ _ (Desk.reply_of_answer hanswer)) (hmore _ hin))

end System

end Sys6
