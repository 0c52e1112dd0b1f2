import Sys6.Library.Checksum
import Sys6.Monitor.ColdStart
import Sys6.Monitor.Restore

/-!
# Blocks on a cassette

A recorder is a memory and a list of blocks with a place in it. `SAVE` puts a block in this place, `LOAD` takes
the one that is there, and both go on to the next. The bytes on the tape are the recorder's blocks one behind
the other, as long as no block is saved over one of another length.
-/

namespace Sys6

namespace IoStream

/-- A read at any place leaves a stream in memory at rest, once an error is cleared. -/
lemma InMemory.get {s : IoStream} (h : s.InMemory) (pos : Nat) :
    ((s.seekg pos).get.1.isSome → (s.seekg pos).get.2.InMemory) ∧ (s.seekg pos).get.2.clear.InMemory := by
  have hclear : ∀ g, InMemory { s with getPosition := g, failed := false } :=
    fun _ => ⟨h.opened, h.bounded, rfl, h.flushed, h.noFaults⟩
  cases hc : s.canSeek pos with
  | true =>
    have hseek : s.seekg pos = { s with getPosition := pos } := by
      simp [IoStream.seekg, h.good, h.writeOut, hc]
    rw [hseek]
    cases hb : s.content[pos]? with
    | none =>
      rw [get_none (s := { s with getPosition := pos }) h.good h.opened hb]
      exact ⟨fun hsome => absurd hsome (by simp), hclear _⟩
    | some c =>
      rw [get_some (s := { s with getPosition := pos }) h.good h.opened hb]
      exact ⟨fun _ => h.moved _ _ _, hclear _⟩
  | false =>
    have hseek : s.seekg pos = { s with failed := true } := by
      simp [IoStream.seekg, h.good, h.writeOut, hc]
    rw [hseek, get_failed rfl]
    exact ⟨fun hsome => absurd hsome (by simp), hclear _⟩

end IoStream

/-- All the bytes of a whole block are there. -/
lemma wholeBlock_length {bytes : List Byte} (h : wholeBlock bytes = true) :
    (blockBytes bytes).length + 3 ≤ bytes.length := by
  unfold wholeBlock at h
  unfold blockBytes
  split at h
  · rename_i lo hi rest
    simp only [decide_eq_true_eq] at h
    simp only [List.length_take, List.length_cons]
    omega
  · cases h

namespace Tape

variable {t : Tape} {content : List Byte} {pos : Nat}

/-- What there is of a stream is one in memory. -/
def AtRest (t : Tape) : Prop := ∀ s, t.backing = some s → s.InMemory

lemma AtRest.control (h : t.AtRest) (v : Byte) : (t.control v).AtRest := by
  intro s hs
  rw [backing_control] at hs
  exact h s hs

lemma AtRest.get (h : t.AtRest) : t.get.2.AtRest := by
  obtain ⟨backing, position, motorOn, eot, error⟩ := t
  cases backing with
  | none => exact fun s hs => absurd hs (by simp [Tape.get])
  | some s₀ =>
    obtain ⟨hsome, hclear⟩ := (h s₀ rfl).get position
    cases motorOn with
    | false =>
      rintro s hs
      exact h s hs
    | true =>
      intro s hs
      cases hg : (s₀.seekg position).get.1 with
      | none =>
        simp only [Tape.get, hg] at hs
        cases hs
        exact hclear
      | some c =>
        simp only [Tape.get, hg] at hs
        cases hs
        exact hsome (by rw [hg]; rfl)

lemma AtRest.next (h : t.AtRest) {b : Option Byte} {t' : Tape} (hnext : t.next = (b, t')) : t'.AtRest := by
  have ht : t.get.2 = t' := congrArg Prod.snd hnext
  exact ht ▸ h.get

lemma AtRest.takes (h : t.AtRest) (n : Nat) : (t.takes n).2.AtRest := by
  induction n generalizing t with
  | zero => exact h
  | succ n ih =>
    rw [Tape.takes]
    split
    · rename_i t' hnext
      exact h.next hnext
    · rename_i b t' hnext
      exact ih (h.next hnext)

lemma AtRest.load (h : t.AtRest) : t.load.2.2.AtRest := by
  unfold Tape.load
  split
  · rename_i t₁ h₁
    exact h.next h₁
  · rename_i lo t₁ h₁
    split
    · rename_i t₂ h₂
      exact (h.next h₁).next h₂
    · rename_i hi t₂ h₂
      have hdata := ((h.next h₁).next h₂).takes (word hi lo).toNat
      simp only
      split_ifs
      · exact hdata
      · split
        · rename_i t₃ h₃
          exact hdata.next h₃
        · rename_i sum t₃ h₃
          exact hdata.next h₃

/-- A tape in memory with the head at `pos`. -/
structure Rests (content : List Byte) (pos : Nat) (t : Tape) : Prop where
  position : t.position = pos
  bounded : pos ≤ content.length
  backing : ∃ s, t.backing = some s ∧ s.InMemory ∧ s.content = content

namespace Rests

lemma stands (h : t.Rests content pos) : t.Stands content pos := by
  obtain ⟨s, hs, hmem, hcontent⟩ := h.backing
  exact ⟨h.position, s, hs, hmem.settled.trans hcontent, hmem.readable⟩

lemma atRest (h : t.Rests content pos) : t.AtRest := by
  obtain ⟨s, hs, hmem, -⟩ := h.backing
  rintro s' hs'
  obtain rfl : s = s' := Option.some.inj (hs.symm.trans hs')
  exact hmem

lemma of_stands (h : t.Stands content pos) (hrest : t.AtRest) (hpos : pos ≤ content.length) :
    t.Rests content pos := by
  obtain ⟨s, hs, hcontent, -⟩ := h.backing
  exact ⟨h.position, hpos, s, hs, hrest s hs, (hrest s hs).settled.symm.trans hcontent⟩

lemma present (h : t.Rests content pos) : t.backing.isSome = true := by
  obtain ⟨s, hs, -⟩ := h.backing
  rw [hs]
  rfl

lemma control (h : t.Rests content pos) {v : Byte} (hv : v &&& 0x02#8 = 0#8) : (t.control v).Rests content pos := by
  refine ⟨?_, h.bounded, ?_⟩
  · unfold Tape.control
    rw [hv]
    exact h.position
  · rw [backing_control]
    exact h.backing

lemma rewind (h : t.Rests content pos) : (t.control 0x02#8).Rests content 0 := by
  refine ⟨rfl, Nat.zero_le _, ?_⟩
  rw [backing_control]
  exact h.backing

lemma put (h : t.Rests content pos) (hmotor : t.motorOn = true) (b : Byte) :
    (t.put b).Rests (content.take pos ++ b :: content.drop (pos + 1)) (pos + 1) := by
  obtain ⟨backing, position, motorOn, eot, error⟩ := t
  obtain ⟨rfl, hpos, s, rfl, hs, rfl⟩ := h
  obtain rfl : motorOn = true := hmotor
  have hstore := hs.store hpos b
  refine ⟨rfl, ?_, _, rfl, ?_, ?_⟩
  · rw [List.length_append, List.length_cons, List.length_take, Nat.min_eq_left hpos]
    omega
  · rw [hstore]
    exact hs.moved _ _ _
  · rw [hstore]

/-- The bytes replace as many from the head on, or lengthen the tape. -/
lemma puts (h : t.Rests content pos) (hmotor : t.motorOn = true) (bytes : List Byte) :
    (t.puts bytes).Rests (content.take pos ++ bytes ++ content.drop (pos + bytes.length)) (pos + bytes.length) := by
  induction bytes generalizing t content pos with
  | nil => simpa [Tape.puts] using h
  | cons b bytes ih =>
    have hpos : (content.take pos).length = pos := by
      rw [List.length_take]
      exact Nat.min_eq_left h.bounded
    have hrest := ih (h.put hmotor b) (by simpa using hmotor)
    have htake : (content.take pos ++ b :: content.drop (pos + 1)).take (pos + 1) = content.take pos ++ [b] := by
      rw [List.take_append, hpos, List.take_of_length_le (by omega)]
      simp
    have hdrop : (content.take pos ++ b :: content.drop (pos + 1)).drop (pos + 1 + bytes.length) =
        content.drop (pos + 1 + bytes.length) := by
      rw [List.drop_append, hpos, List.drop_eq_nil_of_le (by omega)]
      have hlen : pos + 1 + bytes.length - pos = bytes.length + 1 := by omega
      rw [hlen, List.drop_succ_cons, List.drop_drop, List.nil_append]
    rw [htake, hdrop] at hrest
    have hlen : pos + (b :: bytes).length = pos + 1 + bytes.length := by
      rw [List.length_cons]
      omega
    rw [hlen]
    simpa [Tape.puts] using hrest

end Rests

/-- What `LOAD` leaves of a tape in memory. -/
lemma Rests.load (h : t.Rests content pos) : (t.control 0x01#8).load.1 = blockBytes (content.drop pos) ∧
    (t.control 0x01#8).load.2.1 = goodBlock (content.drop pos) ∧
    ((t.control 0x01#8).load.2.2.control 0x00#8).Rests content (if wholeBlock (content.drop pos)
      then pos + (blockBytes (content.drop pos)).length + 3 else max pos content.length) := by
  obtain ⟨hdata, hgood, hreads⟩ := h.stands.reads.load
  refine ⟨hdata, hgood, .of_stands hreads.stands ((h.atRest.control _).load.control _) ?_⟩
  split_ifs with hwhole
  · have hlen := wholeBlock_length hwhole
    rw [List.length_drop] at hlen
    omega
  · exact Nat.max_le.mpr ⟨h.bounded, le_rfl⟩

end Tape

/-! ## The recorder -/

structure Recorder where
  mem : Word → Byte
  blocks : List (List Byte)
  place : Nat

namespace Recorder

/-- Its memory, at a desk without a cassette. -/
def desk (r : Recorder) : Desk := ⟨r.mem, default⟩

/-- A block is put where the place is. -/
def saved (bytes : List Byte) (r : Recorder) : Recorder :=
  { r with blocks := r.blocks.take r.place ++ bytes :: r.blocks.drop (r.place + 1), place := r.place + 1 }

def answer (r : Recorder) : Command → Option (List Byte × Recorder)
  | .save a last =>
    if a ≤ last then
      if last = 0xFFFF#16 then none else some ([], r.saved (r.desk.range a last))
    else some (complaint, r)
  | .load a =>
    match r.blocks[r.place]? with
    | some bytes => some ([], { r with mem := (r.desk.stores a bytes).mem, place := r.place + 1 })
    | none => some (complaint, r)
  | .rewind _ => some ([], { r with place := 0 })
  | cmd => (cmd.answer r.desk).map fun x => (x.1, { r with mem := x.2.mem })

/-- Where a command stores. -/
def stores (r : Recorder) : Command → List Word
  | .poke a bytes => addresses a bytes.length
  | .load a => addresses a ((r.blocks[r.place]?).getD []).length
  | _ => []

/-- A proper command, and none that saves over a block of another length. -/
structure Fits (r : Recorder) (cmd : Command) : Prop where
  stays : cmd.isRun = false
  sources : ∀ addr ∈ cmd.sources, Plain addr
  stores : ∀ addr ∈ r.stores cmd, Plain addr
  saves : ∀ a last, cmd = .save a last → ∀ old, r.blocks[r.place]? = some old → old.length = span a last

def reply (r : Recorder) (keys : List Byte) : Option (List Byte × Recorder) :=
  (r.answer (command (typed keys))).map fun x => (heading keys ++ x.1, x.2)

def session (r : Recorder) (lines : List (List Byte)) : Option (List Byte × Recorder) :=
  Dialogue.run reply r lines

def Orderly (r : Recorder) (lines : List (List Byte)) : Prop :=
  Dialogue.Along reply (fun r keys => 0x0D#8 ∉ keys ∧ r.Fits (command (typed keys))) r lines

/-- The desk has this memory, and these blocks on its cassette. -/
structure Plays (d : Desk) (r : Recorder) : Prop where
  mem : d.mem = r.mem
  place : r.place ≤ r.blocks.length
  short : ∀ bytes ∈ r.blocks, bytes.length < 65536
  tape : d.tape.Rests (recording r.blocks) (recording (r.blocks.take r.place)).length

end Recorder

lemma recording_append (blocks blocks' : List (List Byte)) :
    recording (blocks ++ blocks') = recording blocks ++ recording blocks' := by
  simp [recording]

lemma recording_cons (bytes : List Byte) (blocks : List (List Byte)) :
    recording (bytes :: blocks) = block bytes ++ recording blocks := rfl

lemma recording_split (blocks : List (List Byte)) (k : Nat) :
    recording blocks = recording (blocks.take k) ++ recording (blocks.drop k) := by
  rw [← recording_append, List.take_append_drop]

lemma drop_place {blocks : List (List Byte)} {k : Nat} {bytes : List Byte} (h : blocks[k]? = some bytes) :
    blocks.drop k = bytes :: blocks.drop (k + 1) := by
  obtain ⟨hk, rfl⟩ := List.getElem?_eq_some_iff.mp h
  exact List.drop_eq_getElem_cons hk

/-- The tape behind the place. -/
lemma drop_recording (blocks : List (List Byte)) (k : Nat) :
    (recording blocks).drop (recording (blocks.take k)).length = recording (blocks.drop k) := by
  rw [recording_split blocks k, List.drop_left]

/-- A block that is written replaces one of its length, or comes at the end. -/
lemma recording_saved {blocks : List (List Byte)} {k : Nat} {bytes : List Byte}
    (h : ∀ old, blocks[k]? = some old → old.length = bytes.length) :
    (recording blocks).take (recording (blocks.take k)).length ++ block bytes ++
        (recording blocks).drop ((recording (blocks.take k)).length + (block bytes).length) =
      recording (blocks.take k ++ bytes :: blocks.drop (k + 1)) := by
  have htake : (recording blocks).take (recording (blocks.take k)).length = recording (blocks.take k) := by
    rw [recording_split blocks k, List.take_left]
  have hdrop : (recording (blocks.drop k)).drop (block bytes).length = recording (blocks.drop (k + 1)) := by
    cases hold : blocks[k]? with
    | none =>
      have hk : blocks.length ≤ k := List.getElem?_eq_none_iff.mp hold
      rw [List.drop_eq_nil_of_le hk, List.drop_eq_nil_of_le (Nat.le_succ_of_le hk)]
      rfl
    | some old =>
      have hlen : (block bytes).length = (block old).length := by
        rw [length_block, length_block, h old hold]
      rw [drop_place hold, recording_cons, hlen, List.drop_left]
  rw [htake, ← List.drop_drop, drop_recording, hdrop, recording_append, recording_cons, List.append_assoc]

namespace Desk

lemma tape_stores (a : Word) (bytes : List Byte) (d : Desk) : (d.stores a bytes).tape = d.tape := by
  induction bytes generalizing a d with
  | nil => rfl
  | cons b bytes ih =>
    rw [stores, ih, store]
    split_ifs <;> rfl

/-- Stores have nothing to do with the tape. -/
lemma mem_stores_congr (a : Word) (bytes : List Byte) {d d' : Desk} (h : d.mem = d'.mem) :
    (d.stores a bytes).mem = (d'.stores a bytes).mem := by
  induction bytes generalizing a d d' with
  | nil => exact h
  | cons b bytes ih =>
    refine ih (a + 1#16) ?_
    unfold store
    split_ifs
    · simp only [h]
    · exact h

end Desk

namespace Recorder

variable {d : Desk} {r : Recorder} {cmd : Command}

lemma Plays.range (h : Plays d r) (a last : Word) : d.range a last = r.desk.range a last := by
  unfold Desk.range desk
  rw [h.mem]

/-- The reply to a command, against a desk that plays the recorder. -/
def Replied (d : Desk) (r : Recorder) (cmd : Command) : Prop :=
  (r.answer cmd = none → cmd.answer d = none) ∧
    ∀ text r', r.answer cmd = some (text, r') → ∃ d', cmd.answer d = some (text, d') ∧ Plays d' r'

lemma replied_some {text : List Byte} {r' : Recorder} {d' : Desk} (hr : r.answer cmd = some (text, r'))
    (hd : cmd.answer d = some (text, d')) (h : Plays d' r') : Replied d r cmd := by
  refine ⟨fun hnone => ?_, fun text' r'' hsome => ?_⟩
  · rw [hr] at hnone
    cases hnone
  · rw [hr] at hsome
    obtain ⟨rfl, rfl⟩ := Prod.mk.inj (Option.some.inj hsome)
    exact ⟨d', hd, h⟩

lemma replied_none (hr : r.answer cmd = none) (hd : cmd.answer d = none) : Replied d r cmd := by
  refine ⟨fun _ => hd, fun text r' hsome => ?_⟩
  rw [hr] at hsome
  cases hsome

lemma replied_save {a last : Word} (h : Plays d r) (hfits : r.Fits (.save a last)) :
    Replied d r (.save a last) := by
  have hpresent := h.tape.present
  by_cases hle : a ≤ last
  · by_cases hlast : last = 0xFFFF#16
    · exact replied_none ((if_pos hle).trans (if_pos hlast)) ((if_pos ⟨hpresent, hle⟩).trans (if_pos hlast))
    · have hr : r.answer (.save a last) = some ([], r.saved (r.desk.range a last)) :=
        (if_pos hle).trans (if_neg hlast)
      have hd : (Command.save a last).answer d = some ([], { d with
          tape := ((d.tape.control 0x01#8).puts (block (d.range a last))).control 0x00#8 }) :=
        (if_pos ⟨hpresent, hle⟩).trans (if_neg hlast)
      refine replied_some hr hd ⟨h.mem, ?_, ?_, ?_⟩
      · show r.place + 1 ≤ (r.blocks.take r.place ++ _ :: r.blocks.drop (r.place + 1)).length
        rw [List.length_append, List.length_cons, List.length_take, Nat.min_eq_left h.place]
        omega
      · have hspan : span a last < 65536 := by
          unfold span
          bv_omega
        intro bytes hmem
        obtain hmem | hmem := List.mem_append.mp hmem
        · exact h.short bytes (List.mem_of_mem_take hmem)
        · obtain rfl | hmem := List.mem_cons.mp hmem
          · simpa [Desk.range, addresses] using hspan
          · exact h.short bytes (List.mem_of_mem_drop hmem)
      · have hlen : (r.desk.range a last).length = span a last := by simp [Desk.range, addresses]
        have hputs := (h.tape.control (v := 0x01#8) (by decide)).puts (by simp) (block (d.range a last))
        rw [h.range] at hputs ⊢
        rw [recording_saved fun old hold => (hfits.saves a last rfl old hold).trans hlen.symm] at hputs
        have hplace : (r.blocks.take r.place).length = r.place := by
          rw [List.length_take, Nat.min_eq_left h.place]
        have htake : (r.saved (r.desk.range a last)).blocks.take (r.place + 1) =
            r.blocks.take r.place ++ [r.desk.range a last] := by
          show (r.blocks.take r.place ++ _ :: _).take (r.place + 1) = _
          rw [List.take_append, hplace, List.take_of_length_le (by omega)]
          simp
        show Tape.Rests _ (recording ((r.saved (r.desk.range a last)).blocks.take (r.place + 1))).length _
        rw [htake, recording_append, List.length_append]
        have hsingle : recording [r.desk.range a last] = block (r.desk.range a last) := by simp [recording]
        rw [hsingle]
        exact hputs.control (v := 0x00#8) (by decide)
  · have hd : (Command.save a last).answer d = some (complaint, d) := if_neg fun hrange => hle hrange.2
    exact replied_some (if_neg hle) hd h

lemma replied_load {a : Word} (h : Plays d r) : Replied d r (.load a) := by
  have hpresent := h.tape.present
  obtain ⟨hdata, hgood, hrests⟩ := h.tape.load
  rw [drop_recording] at hdata hgood hrests
  have hd : (Command.load a).answer d = some (if (d.tape.control 0x01#8).load.2.1 then [] else complaint,
      { d.stores a (d.tape.control 0x01#8).load.1 with
        tape := (d.tape.control 0x01#8).load.2.2.control 0x00#8 }) := if_pos hpresent
  rw [hdata, hgood] at hd
  cases hblock : r.blocks[r.place]? with
  | none =>
    -- the head is at the end of the tape
    have hend : r.blocks.length ≤ r.place := List.getElem?_eq_none_iff.mp hblock
    have hr : r.answer (.load a) = some (complaint, r) := by simp only [answer, hblock]
    rw [List.drop_eq_nil_of_le hend] at hd hrests
    refine replied_some hr hd ⟨h.mem, h.place, h.short, ?_⟩
    have hwhole : wholeBlock (recording []) = false := rfl
    rw [hwhole, if_neg (by simp), List.take_of_length_le hend, Nat.max_self] at hrests
    rw [List.take_of_length_le hend]
    exact hrests
  | some bytes =>
    obtain ⟨hplace, hbytes⟩ := List.getElem?_eq_some_iff.mp hblock
    have hr : r.answer (.load a) =
        some ([], { r with mem := (r.desk.stores a bytes).mem, place := r.place + 1 }) := by
      simp only [answer, hblock]
    obtain ⟨hread, hok, hwhole⟩ :=
      block_read (recording (r.blocks.drop (r.place + 1))) (h.short bytes (hbytes ▸ List.getElem_mem hplace))
    rw [drop_place hblock, recording_cons] at hd hrests
    rw [hread, hok, if_pos rfl] at hd
    rw [hread, hwhole, if_pos rfl] at hrests
    refine replied_some hr hd ⟨Desk.mem_stores_congr a bytes h.mem, hplace, h.short, ?_⟩
    have htake : r.blocks.take (r.place + 1) = r.blocks.take r.place ++ [bytes] := by
      rw [List.take_add_one, hblock]
      rfl
    have hsingle : recording [bytes] = block bytes := by simp [recording]
    rw [htake, recording_append, List.length_append, hsingle, length_block, ← Nat.add_assoc]
    exact hrests

lemma replied_rewind {a : Word} (h : Plays d r) : Replied d r (.rewind a) := by
  have hd : (Command.rewind a).answer d = some ([], { d with tape := d.tape.control 0x02#8 }) :=
    if_pos h.tape.present
  refine @replied_some _ _ _ _ { r with place := 0 } _ rfl hd ⟨h.mem, Nat.zero_le _, h.short, ?_⟩
  exact h.tape.rewind

/-- The commands that have nothing to do with the tape. -/
lemma replied_other (h : Plays d r) (hr : r.answer cmd =
    (cmd.answer r.desk).map fun x => (x.1, { r with mem := x.2.mem }))
    (hd : cmd.answer d = (cmd.answer r.desk).map fun x => (x.1, { x.2 with tape := d.tape })) :
    Replied d r cmd := by
  cases hx : cmd.answer r.desk with
  | none =>
    rw [hx] at hr hd
    exact replied_none hr hd
  | some x =>
    rw [hx] at hr hd
    exact replied_some hr hd ⟨rfl, h.place, h.short, h.tape⟩

/-- A desk that plays the recorder answers as the recorder does. -/
lemma Plays.replied (h : Plays d r) (hfits : r.Fits cmd) : Replied d r cmd := by
  obtain ⟨mem, tape⟩ := d
  obtain rfl : mem = r.mem := h.mem
  cases cmd with
  | save a last => exact replied_save h hfits
  | load a => exact replied_load h
  | rewind a => exact replied_rewind h
  | run a => cases hfits.stays
  | peek a => exact replied_other h rfl rfl
  | bad => exact replied_other h rfl rfl
  | list a last =>
    refine replied_other h rfl ?_
    by_cases hlast : last = 0xFFFF#16
    · have hdesk : (Command.list a last).answer r.desk = none := if_pos hlast
      rw [hdesk]
      exact if_pos hlast
    · have hdesk : (Command.list a last).answer r.desk = some (dump a (r.desk.range a last), r.desk) := if_neg hlast
      rw [hdesk]
      exact if_neg hlast
  | poke a bytes =>
    refine replied_other h rfl ?_
    have hmem := @Desk.mem_stores_congr a bytes ⟨r.mem, tape⟩ r.desk rfl
    have htape := Desk.tape_stores a bytes ⟨r.mem, tape⟩
    have hstores : Desk.stores a bytes ⟨r.mem, tape⟩ = ⟨(Desk.stores a bytes r.desk).mem, tape⟩ := by
      rw [← hmem]
      exact congrArg (Desk.mk (Desk.stores a bytes ⟨r.mem, tape⟩).mem) htape
    simp only [Command.answer, Option.map_some, hstores]

/-- A line that fits the recorder is proper at the desk. -/
lemma Plays.proper (h : Plays d r) (hfits : r.Fits cmd) : cmd.Proper d := by
  refine ⟨hfits.stays, hfits.sources, ?_⟩
  cases cmd with
  | load a =>
    intro addr haddr
    have hdata : (d.tape.control 0x01#8).load.1 = (r.blocks[r.place]?).getD [] := by
      rw [h.tape.load.1, drop_recording]
      cases hblock : r.blocks[r.place]? with
      | none =>
        rw [List.drop_eq_nil_of_le (List.getElem?_eq_none_iff.mp hblock)]
        rfl
      | some bytes =>
        obtain ⟨hplace, hbytes⟩ := List.getElem?_eq_some_iff.mp hblock
        rw [drop_place hblock, recording_cons]
        exact (block_read _ (h.short bytes (hbytes ▸ List.getElem_mem hplace))).1
    refine hfits.stores addr ?_
    rw [stores, ← hdata]
    simp only [Command.stores, h.tape.present, if_true] at haddr
    exact haddr
  | poke a bytes => exact hfits.stores
  | _ => exact fun addr haddr => absurd haddr (by simp [Command.stores])

lemma simulates : Dialogue.Simulates Desk.reply reply Plays
    (fun r keys => 0x0D#8 ∉ keys ∧ r.Fits (command (typed keys))) where
  unanswered := by
    rintro d r keys h ⟨-, hfits⟩ hnone
    rw [reply, Option.map_eq_none_iff] at hnone
    rw [Desk.reply, (h.replied hfits).1 hnone]
    rfl
  answered := by
    rintro d r keys text r' h ⟨-, hfits⟩ hsome
    obtain ⟨⟨more, r''⟩, hanswer, heq⟩ := Option.map_eq_some_iff.mp hsome
    obtain ⟨rfl, rfl⟩ := Prod.mk.inj heq
    obtain ⟨d', hd', h'⟩ := (h.replied hfits).2 more r'' hanswer
    exact ⟨d', Desk.reply_of_answer hd', h'⟩

lemma Plays.orderly {lines : List (List Byte)} (h : Plays d r) (horderly : r.Orderly lines) : d.Orderly lines :=
  simulates.along (fun hplays hfits => ⟨hfits.1, hplays.proper hfits.2⟩) h horderly

lemma Plays.session {lines : List (List Byte)} (h : Plays d r) (horderly : r.Orderly lines) :
    (r.session lines = none → d.session lines = none) ∧ ∀ text r', r.session lines = some (text, r') →
      ∃ d', d.session lines = some (text, d') ∧ Plays d' r' :=
  simulates.run h horderly

end Recorder

lemma Tape.Rests.of_alike {t t' : Tape} {content : List Byte} {pos : Nat} (h : t.Rests content pos)
    (halike : t'.Alike t) : t'.Rests content pos := by
  obtain ⟨s, hs, hmem, hcontent⟩ := h.backing
  have hparked : t'.parked = t.parked := halike
  have hbacking : t'.backing.map IoStream.parked = t.backing.map IoStream.parked := congrArg Tape.backing hparked
  rw [hs] at hbacking
  obtain ⟨s', hs', hs''⟩ := Option.map_eq_some_iff.mp hbacking
  have hpos : t'.parked.position = t.parked.position := congrArg Tape.position hparked
  refine ⟨hpos.trans h.position, h.bounded, s', hs', ⟨?_, ?_, ?_, ?_, ?_⟩, ?_⟩
  · exact (congrArg IoStream.opened hs'').trans hmem.opened
  · exact (congrArg IoStream.seeksPastEnd hs'').trans hmem.bounded
  · exact (congrArg IoStream.failed hs'').trans hmem.good
  · exact (congrArg IoStream.buffer hs'').trans hmem.flushed
  · exact (congrArg IoStream.faults hs'').trans hmem.noFaults
  · exact (congrArg IoStream.content hs'').trans hcontent

namespace System

variable {sys : System} {r : Recorder} {keys : List Byte} {lines : List (List Byte)} {a : Word}

/-- The system has the recorder's memory, and its blocks on the cassette. -/
structure Holds (sys : System) (r : Recorder) : Prop where
  mem : ∀ addr, Plain addr → sys.byteAt addr = r.mem addr
  place : r.place ≤ r.blocks.length
  short : ∀ bytes ∈ r.blocks, bytes.length < 65536
  tape : sys.board.tape.Rests (recording r.blocks) (recording (r.blocks.take r.place)).length

lemma Pictures.holds {d : Desk} (h : sys.Pictures d) (hplays : Recorder.Plays d r) : sys.Holds r := by
  refine ⟨fun addr haddr => ?_, hplays.place, hplays.short, hplays.tape.of_alike h.tape⟩
  rw [h.mem addr haddr, hplays.mem]

lemma Holds.plays (h : sys.Holds r) : Recorder.Plays ⟨r.mem, sys.board.tape⟩ r :=
  ⟨rfl, h.place, h.short, h.tape⟩

/-- An orderly session of saves, loads, rewinds and the other commands is that of the recorder, in whatever
order they come: the text is the recorder's, and so are in the end the memory and the blocks on the tape. -/
theorem cassette_session (hready : sys.Ready) (hpc : sys.cpu.pc = 0xCF11#16) (h : sys.Holds r)
    (horderly : r.Orderly lines) (hin : sys.input.Yields (strokes lines)) :
    (∀ text r', r.session lines = some (text, r') → ∃ sys', sys.Rounds lines.length sys' ∧ sys'.Ready ∧
      sys'.cpu.pc = 0xCF11#16 ∧ sys'.tty.out = sys.tty.out ++ text ∧ sys'.Holds r') ∧
    (r.session lines = none → ∃ k sys', k < lines.length ∧ sys.Rounds k sys' ∧ ∀ n sys'', ¬sys'.RoundIn n sys'') := by
  have hplays := h.plays
  have hpictures : sys.Pictures ⟨r.mem, sys.board.tape⟩ := ⟨h.mem, rfl⟩
  have hanswers := answers_of_orderly hready hpc hpictures (hplays.orderly horderly) hin
  obtain ⟨hnone, hsome⟩ := hplays.session horderly
  constructor
  · intro text r' hsession
    obtain ⟨d', hd', hplays'⟩ := hsome text r' hsession
    obtain ⟨sys', hrounds, hready', hpc', hout, hp', -⟩ := hanswers.answered text d' hd'
    exact ⟨sys', hrounds, hready', hpc', hout, hp'.holds hplays'⟩
  · intro hsession
    obtain ⟨k, sys', -, -, hk, hrounds, -, -, -, hstuck⟩ := hanswers.endless (hnone hsession)
    exact ⟨k, sys', hk, hrounds, hstuck⟩

/-- `300 L` and `300.300 S`. -/
def copyLines : List (List Byte) :=
  [[0x33#8, 0x30#8, 0x30#8, 0x20#8, 0x4C#8],
    [0x33#8, 0x30#8, 0x30#8, 0x2E#8, 0x33#8, 0x30#8, 0x30#8, 0x20#8, 0x53#8]]

/-- A block of one byte is read, and written once more behind itself. -/
lemma copy_session (mem : Word → Byte) : Recorder.Orderly ⟨mem, [[0x42#8]], 0⟩ copyLines ∧
    Recorder.session ⟨mem, [[0x42#8]], 0⟩ copyLines = some (copyLines.flatMap heading,
      ⟨(Desk.stores 0x0300#16 [0x42#8] ⟨mem, default⟩).mem, [[0x42#8], [0x42#8]], 2⟩) := by
  have h300 : HexRun 4 [0x33#8, 0x30#8, 0x30#8] := ⟨by decide, by decide, by decide⟩
  have hload : command (typed [0x33#8, 0x30#8, 0x30#8, 0x20#8, 0x4C#8]) = .load 0x0300#16 :=
    (Names.load h300).command.1
  have hsave : command (typed [0x33#8, 0x30#8, 0x30#8, 0x2E#8, 0x33#8, 0x30#8, 0x30#8, 0x20#8, 0x53#8]) =
      .save 0x0300#16 0x0300#16 := (Names.save h300 h300).command.1
  have hplain : Plain 0x0300#16 := ⟨by decide, by decide, by decide, by decide⟩
  have hrange : addresses 0x0300#16 (span 0x0300#16 0x0300#16) = [0x0300#16] := by decide
  let r₁ : Recorder := ⟨(Desk.stores 0x0300#16 [0x42#8] ⟨mem, default⟩).mem, [[0x42#8]], 1⟩
  have hanswer : Recorder.answer ⟨mem, [[0x42#8]], 0⟩ (.load 0x0300#16) = some ([], r₁) := rfl
  have hbytes : r₁.desk.range 0x0300#16 0x0300#16 = [0x42#8] := by
    rw [Desk.range, hrange]
    rfl
  have hanswer' : r₁.answer (.save 0x0300#16 0x0300#16) = some ([], r₁.saved [0x42#8]) := by
    rw [← hbytes]
    rfl
  refine ⟨⟨⟨by decide, ?_⟩, fun text r' hreply => ⟨⟨by decide, ?_⟩, fun _ _ _ => trivial⟩⟩,
    (Dialogue.run_cons (by rw [Recorder.reply, hload, hanswer]; rfl)).trans ?_⟩
  · rw [hload]
    refine ⟨rfl, fun addr hmem => absurd hmem List.not_mem_nil, fun addr hmem => ?_, fun a last heq => by cases heq⟩
    obtain rfl := List.mem_singleton.mp hmem
    exact hplain
  · rw [Recorder.reply, hload, hanswer] at hreply
    obtain ⟨-, rfl⟩ := Prod.mk.inj (Option.some.inj hreply)
    rw [hsave]
    refine ⟨rfl, fun addr hmem => ?_, fun addr hmem => absurd hmem List.not_mem_nil, fun a last _ old hold => ?_⟩
    · simp only [Command.sources, hrange] at hmem
      obtain rfl := List.mem_singleton.mp hmem
      exact hplain
    · cases hold
  · rw [Dialogue.run_cons (by rw [Recorder.reply, hsave, hanswer']; rfl)]
    simp only [List.append_nil, Option.map_some, Dialogue.run, copyLines, List.flatMap_cons, List.flatMap_nil]
    rfl

theorem cassette_session_copy : ∃ sys',
    (typing (strokes copyLines).dropLast (cassette (block [0x42#8]))).Rounds 2 sys' ∧
    sys'.board.tape.Rests (recording [[0x42#8], [0x42#8]]) 8 := by
  have hholds : (typing (strokes copyLines).dropLast (cassette (block [0x42#8]))).Holds
      ⟨(typing (strokes copyLines).dropLast (cassette (block [0x42#8]))).byteAt, [[0x42#8]], 0⟩ :=
    ⟨fun _ _ => rfl, by decide, by decide, rfl, by decide, _, rfl, ⟨rfl, rfl, rfl, rfl, rfl⟩, rfl⟩
  obtain ⟨horderly, hsession⟩ :=
    copy_session (typing (strokes copyLines).dropLast (cassette (block [0x42#8]))).byteAt
  have hall := cassette_session (ready_typing (strokes copyLines).dropLast (cassette (block [0x42#8]))) rfl hholds
    horderly (yields_typing (strokes copyLines).dropLast (cassette (block [0x42#8])))
  obtain ⟨sys', hrounds, -, -, -, hholds'⟩ := hall.1 _ _ hsession
  exact ⟨sys', hrounds, hholds'.tape⟩

end System

/-! ## A damaged block -/

/-- The checksum is right if it makes the XOR of all behind the length zero. -/
lemma goodBlock_iff {body : List Byte} {lo hi : Byte} (rest : List Byte) (h : body.length = (word hi lo).toNat + 1) :
    goodBlock (lo :: hi :: (body ++ rest)) = true ↔ xorOf 0#8 body = 0#8 := by
  obtain ⟨data, sum, rfl⟩ : ∃ data sum, body = data ++ [sum] := by
    have hne : body ≠ [] := List.ne_nil_of_length_eq_add_one h
    exact ⟨body.dropLast, body.getLast hne, (List.dropLast_append_getLast hne).symm⟩
  have hlen : data.length = (word hi lo).toNat := by simpa using h
  have hsum : xorOf 0#8 (data ++ [sum]) = sum ^^^ xorOf 0#8 data := by simp [xorOf]
  rw [goodBlock, ← hlen, hsum]
  simp only [List.append_assoc, List.take_left, List.singleton_append, decide_eq_true_eq, Nat.le_refl,
    List.getElem?_append_right, Nat.sub_self, List.getElem?_cons_zero, Option.some_inj]
  exact ⟨fun heq => by rw [heq, BitVec.xor_self], BitVec.xor_eq_zero_iff.mp⟩

/-- One byte behind the length is not what `SAVE` has written there: the data are there, and do not add up. -/
lemma block_damaged {bytes : List Byte} {i : Nat} {v : Byte} (rest : List Byte) (hlen : bytes.length < 65536)
    (h2 : 2 ≤ i) (hi : i < (block bytes).length) (hv : v ≠ (block bytes)[i]) :
    blockBytes ((block bytes).set i v ++ rest) = (((block bytes).set i v).drop 2).take bytes.length ∧
      goodBlock ((block bytes).set i v ++ rest) = false ∧ wholeBlock ((block bytes).set i v ++ rest) = true := by
  obtain ⟨i, rfl⟩ : ∃ j, i = j + 2 := ⟨i - 2, by omega⟩
  let body := bytes ++ [xorOf 0#8 bytes]
  have hword : (word (Word.hi (BitVec.ofNat 16 bytes.length)) (Word.lo (BitVec.ofNat 16 bytes.length))).toNat =
      bytes.length := by
    rw [word_hi_lo, BitVec.toNat_ofNat]
    omega
  have hshape : (block bytes).set (i + 2) v = Word.lo (BitVec.ofNat 16 bytes.length) ::
      Word.hi (BitVec.ofNat 16 bytes.length) :: body.set i v := rfl
  have hbody : i < body.length := by simpa [body, block] using hi
  have hv' : v ≠ body[i] := hv
  have hsum : xorOf 0#8 body = 0#8 := by simp [body, xorOf]
  have hset : (body.set i v).length = bytes.length + 1 := by simp [body]
  have hdamage : xorOf 0#8 (body.set i v) ≠ xorOf 0#8 body :=
    Checksum.foldl_set_ne (fun b c c' h => by simpa using h) (fun c b b' h => by simpa using h) hbody hv' 0#8
  rw [hshape, List.cons_append, List.cons_append]
  refine ⟨?_, ?_, ?_⟩
  · rw [blockBytes, hword, List.take_append_of_le_length (by omega)]
    rfl
  · have hlength : (body.set i v).length =
        (word (Word.hi (BitVec.ofNat 16 bytes.length)) (Word.lo (BitVec.ofNat 16 bytes.length))).toNat + 1 := by
      rw [hset, hword]
    have hgood := goodBlock_iff rest hlength
    rw [← Bool.not_eq_true, hgood]
    exact fun hzero => hdamage (hzero.trans hsum.symm)
  · rw [wholeBlock, hword, List.length_append, hset]
    simp only [decide_eq_true_eq]
    omega

namespace System

variable {sys : System} {keys : List Byte} {a : Word}

/-- Where one byte of a block, data or checksum, has become another, `LOAD` says so. The data are stored
as they are on the tape, nothing else is, and the head is behind the block. -/
theorem damage_reported {bytes content rest : List Byte} {pos i : Nat} {v : Byte} (hready : sys.Ready)
    (hpc : sys.cpu.pc = 0xCF11#16) (hkeys : sys.Hears keys) (hcmd : command (typed keys) = .load a)
    (htape : sys.board.tape.Rests content pos) (hlen : bytes.length < 65536)
    (hblock : content.drop pos = (block bytes).set i v ++ rest) (h2 : 2 ≤ i) (hi : i < (block bytes).length)
    (hv : v ≠ (block bytes)[i]) (hfree : ∀ addr ∈ addresses a bytes.length, Free addr) :
    ∃ n sys', sys.RoundIn n sys' ∧ sys'.tty.out = sys.tty.out ++ heading keys ++ complaint ∧
      (∀ j < bytes.length, ((block bytes).set i v)[2 + j]? = some (sys'.ram (a + BitVec.ofNat 16 j))) ∧
      (∀ addr, Plain addr → addr ∉ addresses a bytes.length → sys'.byteAt addr = sys.byteAt addr) ∧
      sys'.board.tape.Rests content (pos + (block bytes).length) := by
  have hpictures : sys.Pictures ⟨sys.byteAt, sys.board.tape⟩ := ⟨fun _ _ => rfl, rfl⟩
  obtain ⟨hdata, hgood, hwhole⟩ := block_damaged rest hlen h2 hi hv
  obtain ⟨hload, hok, hrests⟩ := htape.load
  rw [hblock] at hload hok hrests
  rw [hdata] at hload hrests
  rw [hgood] at hok
  have hcount : ((((block bytes).set i v).drop 2).take bytes.length).length = bytes.length := by
    rw [List.length_take, List.length_drop, List.length_set, length_block]
    omega
  rw [hwhole, if_pos rfl, hcount, Nat.add_assoc, ← length_block] at hrests
  have hpresent := htape.present
  have hanswer : (Command.load a).answer ⟨sys.byteAt, sys.board.tape⟩ =
      some (if (sys.board.tape.control 0x01#8).load.2.1 then [] else complaint,
        { Desk.stores a (sys.board.tape.control 0x01#8).load.1 ⟨sys.byteAt, sys.board.tape⟩ with
          tape := (sys.board.tape.control 0x01#8).load.2.2.control 0x00#8 }) := if_pos hpresent
  rw [hload, hok] at hanswer
  have hproper : (command (typed keys)).Proper ⟨sys.byteAt, sys.board.tape⟩ := by
    rw [hcmd]
    refine ⟨rfl, fun addr h => absurd h List.not_mem_nil, fun addr h => ?_⟩
    simp only [Command.stores, hpresent, if_true, hload, hcount] at h
    exact (hfree addr h).plain
  obtain ⟨n, sys', text, d', hround, hready', hanswer', hout, hp', -⟩ :=
    round_answered hready hpc hkeys hpictures hproper (by rw [hcmd]; exact id)
  rw [hcmd, hanswer] at hanswer'
  obtain ⟨rfl, rfl⟩ := Prod.mk.inj (Option.some.inj hanswer')
  -- what is in memory after the stores
  have hview := ((pictures_iff hready.shows).mp hpictures).stores a
    ((((block bytes).set i v).drop 2).take bytes.length)
  have hmem : ∀ addr, Plain addr → sys'.byteAt addr =
      (sys.machine.view.stores a ((((block bytes).set i v).drop 2).take bytes.length)).mem addr := by
    intro addr haddr
    rw [hp'.mem addr haddr, hview.mem addr haddr]
  refine ⟨n, sys', hround, hout, fun j hj => ?_, fun addr haddr hnot => ?_, hrests.of_alike hp'.tape⟩
  · have hf := hfree _ (mem_addresses.mpr ⟨j, hj, rfl⟩)
    rw [ram_eq_byteAt hready' hf, hmem _ hf.plain, mem_stores (by omega) j (by omega) hf.hi_lt, List.getElem_take,
      List.getElem_drop]
    exact List.getElem?_eq_getElem _
  · rw [hmem addr haddr, mem_stores_of_not_mem (by rwa [hcount]), hready.shows.byteAt haddr.clear]

/-- One flipped bit on a tape. -/
theorem damage_reported_one : ∃ n sys',
    (typing [0x33#8, 0x30#8, 0x30#8, 0x20#8, 0x4C#8] (cassette [0x01#8, 0x00#8, 0x43#8, 0x42#8])).RoundIn n sys' ∧
    sys'.tty.out = heading [0x33#8, 0x30#8, 0x30#8, 0x20#8, 0x4C#8] ++ complaint := by
  have hcmd : command (typed [0x33#8, 0x30#8, 0x30#8, 0x20#8, 0x4C#8]) = .load 0x0300#16 :=
    (@Names.load [0x33#8, 0x30#8, 0x30#8] ⟨by decide, by decide, by decide⟩).command.1
  have htape : (cassette [0x01#8, 0x00#8, 0x43#8, 0x42#8]).Rests [0x01#8, 0x00#8, 0x43#8, 0x42#8] 0 :=
    ⟨rfl, by decide, _, rfl, ⟨rfl, rfl, rfl, rfl, rfl⟩, rfl⟩
  have hfree : ∀ addr ∈ addresses 0x0300#16 [0x42#8].length, Free addr := by
    intro addr hmem
    obtain rfl := List.mem_singleton.mp hmem
    exact ⟨by decide, by decide, by decide, by decide⟩
  have hready := ready_typing [0x33#8, 0x30#8, 0x30#8, 0x20#8, 0x4C#8] (cassette [0x01#8, 0x00#8, 0x43#8, 0x42#8])
  have hkeys := hears_typing [0x33#8, 0x30#8, 0x30#8, 0x20#8, 0x4C#8] (cassette [0x01#8, 0x00#8, 0x43#8, 0x42#8])
    (by decide)
  obtain ⟨n, sys', hround, hout, -⟩ := @damage_reported _ _ _ [0x42#8] _ [] _ 2 0x43#8 hready rfl hkeys hcmd htape
    (by decide) (by decide) (by decide) (by decide) (by decide) hfree
  exact ⟨n, sys', hround, hout⟩

end System

end Sys6
