import Sys6.Monitor.List

/-!
# SAVE

A block on the tape is its length, low byte first, its data, and the XOR of the data. `SAVE`
writes one byte by byte while it walks through the range.
-/

namespace Sys6

/-- The XOR of some bytes on top of `c`. -/
def xorOf (c : Byte) (bytes : List Byte) : Byte := bytes.foldl (fun c b => b ^^^ c) c

/-- The bytes of a block. -/
def block (bytes : List Byte) : List Byte :=
  let len : Word := BitVec.ofNat 16 bytes.length
  len.lo :: len.hi :: bytes ++ [xorOf 0#8 bytes]

namespace Tape

/-- Writes to `TAPE_DATA` one after another. -/
def puts (t : Tape) (bytes : List Byte) : Tape := bytes.foldl (fun t b => t.put b) t

@[simp] lemma motorOn_put (t : Tape) (v : Byte) : (t.put v).motorOn = t.motorOn := by
  unfold put
  split <;> rfl

@[simp] lemma present_put (t : Tape) (v : Byte) : (t.put v).backing.isSome = t.backing.isSome := by
  unfold put
  split
  · rename_i h _
    simp [h]
  · rfl

lemma present_puts (t : Tape) (bytes : List Byte) : (t.puts bytes).backing.isSome = t.backing.isSome := by
  induction bytes generalizing t with
  | nil => rfl
  | cons b bytes ih => exact (ih (t.put b)).trans (present_put t b)

@[simp] lemma motorOn_control (t : Tape) (v : Byte) :
    (t.control v).motorOn = (v &&& 0x01#8 != 0#8) := by
  unfold control
  split_ifs <;> rfl

@[simp] lemma backing_control (t : Tape) (v : Byte) : (t.control v).backing = t.backing := by
  unfold control
  split_ifs <;> rfl

/-- The lowest bit of `TAPE_STATUS` is set while a tape is in. -/
lemma status_present (t : Tape) : t.status &&& 0x01#8 = if t.backing.isSome then 0x01#8 else 0#8 := by
  unfold status
  cases t.backing.isSome <;> cases t.motorOn <;> cases t.eot <;> cases t.error <;> decide

/-- Bit 3 of `TAPE_STATUS` is the error. -/
lemma status_error (t : Tape) : t.status &&& 0x08#8 = if t.error then 0x08#8 else 0#8 := by
  unfold status
  cases t.backing.isSome <;> cases t.motorOn <;> cases t.eot <;> cases t.error <;> decide

end Tape

namespace Work

/-- The word in `$42/$43`. -/
def tapeLen (w : Work) : Word := word w.tapeLenHi w.tapeLenLo

def setTapeLen (v : Word) (w : Work) : Work := { w with tapeLenLo := v.lo, tapeLenHi := v.hi }

end Work

/-- What a range leaves on the bus when it is saved: each byte is read and written to the tape. -/
def saves (a : Word) : List Byte → List Event
  | [] => []
  | b :: bytes => .access 0xD053#16 a b :: .tapeWrite 0x8004#16 b true :: saves (a + 1#16) bytes

lemma cursor_saves (a : Word) (bytes : List Byte) :
    (saves a bytes).filterMap Event.cursor = addresses a bytes.length := by
  induction bytes generalizing a with
  | nil => rfl
  | cons b bytes ih =>
    rw [List.length_cons, addresses_succ, ← ih]
    rfl

/-- A whole range has gone to the tape. -/
structure SaveWalk (v : View) (bytes : List Byte) (tape : Tape) (e : List Event) : Prop where
  length : bytes.length = span v.work.addr v.work.addr2
  seen : e = saves v.work.addr bytes
  motorOn : tape.motorOn = true
  present : tape.backing.isSome = v.tape.backing.isSome
  quiet : QuietRange v.work.addr v.work.addr2 → tape = v.tape.puts bytes
  shown : Shown v v.work.addr bytes

lemma SaveWalk.nil {v : View} (h : v.work.addr2 < v.work.addr) (hmotor : v.tape.motorOn = true) :
    SaveWalk v [] v.tape [] :=
  ⟨(span_of_lt h).symm, rfl, hmotor, rfl, fun _ => rfl, trivial⟩

lemma SaveWalk.cons {v v' : View} {data : Byte} {bytes : List Byte} {tape tape' : Tape}
    {e e' : List Event} (h : Round v 0xD053#16 data tape e) (htape : v'.tape = tape.put data)
    (hon : Onward v v') (h' : SaveWalk v' bytes tape' e') (hle : v.work.addr ≤ v.work.addr2)
    (he : v.work.addr2 ≠ 0xFFFF#16) :
    SaveWalk v (data :: bytes) tape' (e ++ [.tapeWrite 0x8004#16 data true] ++ e') := by
  obtain ⟨haddr, haddr2, hmem⟩ := hon
  obtain ⟨hlen, hseen, hmotor, hpres, hquiet, hshown⟩ := h'
  rw [haddr, haddr2] at hlen hquiet
  rw [haddr] at hseen hshown
  rw [htape] at hpres hquiet
  refine ⟨?_, ?_, hmotor, ?_, fun hq => ?_, h.shown, ?_⟩
  · rw [List.length_cons, hlen, span_of_le hle he]
  · rw [h.seen, hseen]
    rfl
  · rw [hpres, Tape.present_put, h.present]
  · rw [hquiet (hq.tail hle he), h.quiet (hq.head hle he)]
    rfl
  · exact hshown.congr hmem.symm

namespace Machine

variable {q : Prop} {m : Machine}

/-- A write to `TAPE_DATA`, with the motor on. -/
lemma putTape (val : Byte) (hl : line m.pc = some ⟨.STA, .absolute 0x8004#16, .seen⟩)
    (hsite : m.pc ∉ entries ∧ m.pc ∉ cursorSites) (hmotor : m.bus.tape.motorOn = true) (ha : m.a = val) :
    Reaches m 0 m.sp q [.tapeWrite 0x8004#16 val true] (At (m.pc + 3#16) m.sp
      (fun a _ _ => a = val) { m.view with tape := m.bus.tape.put val }) := by
  have hseen := sees_tape hl hsite (by decide)
  have hexec : exec .STA (.absolute 0x8004#16) { m.poll with pc := m.pc + 3#16 } =
      { m with
        pc := m.pc + 3#16
        bus := { m.bus with input := m.bus.input.after 1, tape := m.bus.tape.put m.a } } := by
    rw [poll_eq, exec_sta_abs, write_tapeData]
  subst ha
  rw [hmotor] at hseen
  rw [← hseen, ← List.append_nil m.sees]
  refine .one hl (by simp) ?_ ?_ ?_
  · rw [show m.pc + (Isa.Operand.absolute 0x8004#16).length = m.pc + 3#16 from rfl, hexec]
  · rw [show m.pc + (Isa.Operand.absolute 0x8004#16).length = m.pc + 3#16 from rfl, hexec]
    exact fun _ => polled_after _ 1
  · rw [show m.pc + (Isa.Operand.absolute 0x8004#16).length = m.pc + 3#16 from rfl, hexec]
    exact .refl ⟨rfl, rfl, rfl, rfl⟩

/-- A write to `TAPE_CONTROL`. -/
lemma controlTape (val : Byte) {motor : Bool} (hl : line m.pc = some ⟨.STA, .absolute 0x8003#16, .seen⟩)
    (hsite : m.pc ∉ entries ∧ m.pc ∉ cursorSites) (hmotor : m.bus.tape.motorOn = motor) (ha : m.a = val) :
    Reaches m 0 m.sp q [.tapeWrite 0x8003#16 val motor] (At (m.pc + 3#16) m.sp Any
      { m.view with tape := m.bus.tape.control val }) := by
  have hseen := sees_tape hl hsite (by decide)
  have hexec : exec .STA (.absolute 0x8003#16) { m.poll with pc := m.pc + 3#16 } =
      { m with
        pc := m.pc + 3#16
        bus := { m.bus with input := m.bus.input.after 1, tape := m.bus.tape.control m.a } } := by
    rw [poll_eq, exec_sta_abs, write_tapeControl]
  subst ha hmotor
  rw [← hseen, ← List.append_nil m.sees]
  refine .one hl (by simp) ?_ ?_ ?_
  · rw [show m.pc + (Isa.Operand.absolute 0x8003#16).length = m.pc + 3#16 from rfl, hexec]
  · rw [show m.pc + (Isa.Operand.absolute 0x8003#16).length = m.pc + 3#16 from rfl, hexec]
    exact fun _ => polled_after _ 1
  · rw [show m.pc + (Isa.Operand.absolute 0x8003#16).length = m.pc + 3#16 from rfl, hexec]
    exact .refl ⟨rfl, rfl, trivial, rfl⟩

/-! ## SAVE -/

/-- The range is refused when it is empty. -/
lemma save_range (hpc : m.pc = 0xD00A#16) : Reaches m 0 m.sp q []
    (At (if m.bus.work.addr ≤ m.bus.work.addr2 then 0xD01B#16 else 0xD070#16) m.sp Any m.view) := by
  obtain ⟨a, x, y, sp, p, pc, halted, w, low, stack, high, input, out, tape⟩ := m
  obtain rfl : pc = _ := hpc
  simp only [addr_le_addr2]
  by_cases hhi : w.addrHi ≤ w.addr2Hi
  · by_cases heq : w.addr2Hi = w.addrHi
    · by_cases hlo : w.addrLo ≤ w.addr2Lo
      · rw [if_pos (.inr ⟨heq.symm, hlo⟩)]
        exact .finish 7 (by simp [hhi, eq_true heq, hlo])
      · rw [if_neg (by rintro (h | ⟨-, h⟩); bv_omega; exact hlo h)]
        exact .finish 8 (by simp [hhi, eq_true heq, hlo])
    · rw [if_pos (.inl (by bv_omega))]
      exact .finish 4 (by simp [hhi, heq])
  · rw [if_neg (by rintro (h | ⟨h, -⟩) <;> bv_omega)]
    exact .finish 4 (by simp [hhi])

/-- Without a tape, or for an empty range, there is a complaint. -/
lemma save_start (hpc : m.pc = 0xD000#16) : Reaches m 0 m.sp q [m.visit]
    (At (if m.bus.tape.backing.isSome ∧ m.bus.work.addr ≤ m.bus.work.addr2 then 0xD01B#16
      else 0xD070#16) m.sp Any m.view) := by
  obtain ⟨a, x, y, sp, p, pc, halted, w, low, stack, high, input, out, tape⟩ := m
  obtain rfl : pc = _ := hpc
  have hsite : 0xD000#16 ∈ entries := by decide
  have hst := tape.status_present
  refine .entry line_D000 hsite rfl ?_
  cases hb : tape.backing.isSome with
  | true =>
    rw [hb] at hst
    refine .via 2 0xD00A#16 Any ⟨x, y, w, low, high, out, tape⟩ (by simp [hst]) fun _ _ _ _ _ _ => ?_
    simp only [true_and]
    exact save_range rfl
  | false =>
    rw [hb] at hst
    exact .finish 3 (by simp [hst])

lemma save_complains (hpc : m.pc = 0xD070#16) : Returns m 2 q [] Any (m.printed complaint) := by
  refine complain_returns ?_ ?_ ?_
  · rw [hpc]
    exact ⟨line_D070, line_D072⟩
  · rw [hpc]
    exact ⟨⟨line_D075, line_D077⟩, ⟨line_D07A, line_D07C⟩⟩
  · rw [hpc]
    exact line_D07F

lemma word_sub (h l h' l' : Byte) :
    word (BitVec.ofInt 8 (sbcDiff h' h (decide (0 ≤ sbcDiff l' l true))))
      (BitVec.ofInt 8 (sbcDiff l' l true)) = word h' l' - word h l := by
  have hh := h.isLt
  have hl := l.isLt
  have hh' := h'.isLt
  have hl' := l'.isLt
  apply BitVec.eq_of_toNat_eq
  rw [BitVec.toNat_sub, word_toNat, word_toNat, word_toNat, BitVec.toNat_ofInt, BitVec.toNat_ofInt]
  by_cases hb : 0 ≤ sbcDiff l' l true
  · simp only [hb, decide_true]
    simp only [sbcDiff, Bool.toNat_true] at hb ⊢
    omega
  · simp only [hb, decide_false]
    simp only [sbcDiff, Bool.toNat_true, Bool.toNat_false] at hb ⊢
    omega

/-- The length of the range into `$42/$43`, and a checksum of zero. -/
lemma save_length (hpc : m.pc = 0xD020#16) : Reaches m 0 m.sp q [] (At 0xD037#16 m.sp Any
    { m.view with work := { m.bus.work.setTapeLen (m.bus.work.addr2 - m.bus.work.addr + 1#16) with
        checksum := 0#8 } }) := by
  obtain ⟨a, x, y, sp, p, pc, halted, w, low, stack, high, input, out, tape⟩ := m
  obtain rfl : pc = _ := hpc
  have hsub := word_sub w.addrHi w.addrLo w.addr2Hi w.addr2Lo
  have hinc := word_add_one (BitVec.ofInt 8 (sbcDiff w.addr2Hi w.addrHi
    (decide (0 ≤ sbcDiff w.addr2Lo w.addrLo true)))) (BitVec.ofInt 8 (sbcDiff w.addr2Lo w.addrLo true))
  rw [hsub] at hinc
  by_cases hz : BitVec.ofInt 8 (sbcDiff w.addr2Lo w.addrLo true) + 1#8 = 0#8
  · rw [if_pos hz] at hinc
    exact .finish 12 (by simp [Work.setTapeLen, Work.addr, Work.addr2, hinc, hz])
  · rw [if_neg hz] at hinc
    exact .finish 11 (by simp [Work.setTapeLen, Work.addr, Work.addr2, hinc, hz])

/-- The motor goes on and the length is written. -/
lemma save_header {len : Word} (hpc : m.pc = 0xD01B#16)
    (hlen : m.bus.work.addr2 - m.bus.work.addr + 1#16 = len) :
    Reaches m 0 m.sp q [.tapeWrite 0x8003#16 0x01#8 m.bus.tape.motorOn,
        .tapeWrite 0x8004#16 len.lo true, .tapeWrite 0x8004#16 len.hi true]
      (At 0xD041#16 m.sp Any
        { m.view with
          work := { m.bus.work.setTapeLen len with checksum := 0#8 }
          tape := (m.bus.tape.control 0x01#8).puts [len.lo, len.hi] }) := by
  obtain ⟨a, x, y, sp, p, pc, halted, w, low, stack, high, input, out, tape⟩ := m
  obtain rfl : pc = _ := hpc
  have h8003 : 0xD01D#16 ∉ entries ∧ 0xD01D#16 ∉ cursorSites := by decide
  have hlo : 0xD039#16 ∉ entries ∧ 0xD039#16 ∉ cursorSites := by decide
  have hhi : 0xD03E#16 ∉ entries ∧ 0xD03E#16 ∉ cursorSites := by decide
  have hon : (tape.control 0x01#8).motorOn = true := by simp
  simp only at hlen
  refine .via 1 0xD01D#16 (fun a _ _ => a = 0x01#8) ⟨x, y, w, low, high, out, tape⟩ (by simp) ?_
  rintro _ p halted stack input rfl
  refine .nextSeen (controlTape 0x01#8 line_D01D h8003 rfl rfl) le_rfl fun _ _ _ _ _ _ => ?_
  refine .next (save_length rfl) le_rfl fun _ _ _ _ _ _ => ?_
  refine .via 1 0xD039#16 (fun a _ _ => a = len.lo)
    ⟨x, y, { w.setTapeLen len with checksum := 0#8 }, low, high, out, tape.control 0x01#8⟩
    (by simp [hlen, Work.setTapeLen]) ?_
  rintro _ p halted stack input rfl
  refine .nextSeen (putTape len.lo line_D039 hlo hon rfl) le_rfl fun _ _ _ _ _ _ => ?_
  have hon' : ((tape.control 0x01#8).put len.lo).motorOn = true := by simp
  refine .via 1 0xD03E#16 (fun a _ _ => a = len.hi)
    ⟨x, y, { w.setTapeLen len with checksum := 0#8 }, low, high, out, (tape.control 0x01#8).put len.lo⟩
    (by simp [Work.setTapeLen]) ?_
  rintro _ p halted stack input rfl
  refine .nextSeen (putTape len.hi line_D03E hhi hon' rfl) le_rfl fun _ _ _ _ _ _ => ?_
  exact .refl ⟨rfl, rfl, trivial, rfl⟩

/-- One byte of the range has gone to the tape and into the checksum. -/
def SavedByte (m : Machine) (e : List Event) (m' : Machine) : Prop :=
  ∃ data tape e', Round m.view 0xD053#16 data tape e' ∧ e = e' ++ [.tapeWrite 0x8004#16 data true] ∧
    m'.pc = 0xD041#16 ∧ m'.sp = m.sp ∧ m'.view =
      { m.view with
        y := 0#8
        work := { m.bus.work.setAddr (m.bus.work.addr + 1#16) with
          checksum := data ^^^ m.bus.work.checksum }
        tape := tape.put data }

lemma save_tests : TestsRange 0xD041#16 0x1C#8 0x14#8 :=
  ⟨line_D041, line_D043, line_D045, line_D047, line_D049, line_D04B, line_D04D, line_D04F⟩

lemma save_round (hpc : m.pc = 0xD041#16) (hle : m.bus.work.addr ≤ m.bus.work.addr2)
    (hmotor : m.bus.tape.motorOn = true) (hq : q → Quiet m.bus.work.addr) :
    Does m 0 m.sp q (SavedByte m) := by
  obtain ⟨a, x, y, sp, p, pc, halted, w, low, stack, high, input, out, tape⟩ := m
  obtain rfl : pc = _ := hpc
  have hadv : Advances 0xD05C#16 := ⟨line_D05C, line_D05E, line_D060⟩
  simp only at hle hmotor hq
  have hread : 0xD053#16 ∈ cursorSites := by decide
  have hput : 0xD055#16 ∉ entries ∧ 0xD055#16 ∉ cursorSites := by decide
  refine .next (testRange save_tests (t := 0xD065#16) rfl rfl) le_rfl fun _ _ _ _ _ _ => ?_
  simp only [if_pos hle]
  refine .via 1 0xD053#16 Any ⟨x, 0#8, w, low, high, out, tape⟩ (by simp) fun _ _ _ _ _ _ => ?_
  refine .loadCursor line_D053 hread rfl (by simp) hq
    fun data _ _ tape' hmotor' htape hquiet hclear => ?_
  refine .next (putTape data line_D055 hput (hmotor'.trans hmotor) rfl) le_rfl
    fun a _ _ _ _ ha => ?_
  obtain rfl : a = data := ha
  refine .via 2 0xD05C#16 Any ⟨x, 0#8, { w with checksum := a ^^^ w.checksum }, low, high, out,
    tape'.put a⟩ (by simp) fun _ _ _ _ _ _ => ?_
  refine .next (advance hadv) le_rfl fun _ _ _ _ _ _ => ?_
  refine .via 1 0xD041#16 Any ⟨x, 0#8, { w.setAddr (w.addr + 1#16) with checksum := a ^^^ w.checksum },
    low, high, out, tape'.put a⟩ (by simp [Work.setAddr, Work.addr]) fun _ _ _ _ _ _ => ?_
  exact .refl ⟨a, tape', _, ⟨rfl, hmotor', htape, hquiet, hclear⟩, rfl, rfl, rfl, rfl⟩

/-- The saving of a range is over. -/
def SavedRange (m : Machine) (n : Nat) (e : List Event) (m' : Machine) : Prop :=
  ∃ bytes tape y, SaveWalk m.view bytes tape e ∧ m'.pc = 0xD065#16 ∧ m'.sp = m.sp ∧ m'.view =
    { m.view with
      y := y
      work := { m.bus.work.setAddr (m.bus.work.addr + BitVec.ofNat 16 n) with
        checksum := xorOf m.bus.work.checksum bytes }
      tape := tape }

lemma save_loop (n : Nat) (hpc : m.pc = 0xD041#16)
    (hn : span m.bus.work.addr m.bus.work.addr2 = n) (hend : m.bus.work.addr2 ≠ 0xFFFF#16)
    (hmotor : m.bus.tape.motorOn = true) (hq : q → QuietRange m.bus.work.addr m.bus.work.addr2) :
    Does m 0 m.sp q (SavedRange m n) := by
  induction n generalizing m with
  | zero =>
    have htest : TestsRange m.pc 0x1C#8 0x14#8 := by
      rw [hpc]
      exact save_tests
    have hlt := lt_of_span_zero hn
    have hle : ¬m.bus.work.addr ≤ m.bus.work.addr2 := by bv_omega
    refine (testRange htest (t := 0xD065#16) (by rw [hpc]; rfl) (by rw [hpc]; rfl)).does fun m' hm =>
      .refl ⟨[], m.bus.tape, m.y, .nil hlt hmotor, ?_, hm.sp, ?_⟩
    · rw [hm.pc, if_neg hle]
    · rw [hm.view]
      simp [xorOf, Work.setAddr, Work.addr]
  | succ n ih =>
    have hle := le_of_span_succ hn
    refine (save_round hpc hle hmotor fun h => (hq h).head hle hend).bind ?_
    rintro e m₁ ⟨data, tape, e₁, hround, rfl, hpc₁, hsp₁, hview⟩
    have hwork : m₁.bus.work = _ := congrArg View.work hview
    have htape : m₁.bus.tape = tape.put data := congrArg View.tape hview
    have hon : Onward m.view m₁.view := by
      rw [hview]
      exact ⟨word_hi_lo _, rfl, rfl⟩
    have hmotor' : m₁.bus.tape.motorOn = true := by
      rw [htape, Tape.motorOn_put, hround.motorOn]
      exact hmotor
    have hend₁ : m₁.bus.work.addr2 ≠ 0xFFFF#16 := hon.addr2.trans_ne hend
    have hrest := ih hpc₁ (hon.span_eq hn hend) hend₁ hmotor' fun h => hon.quietRange (hq h) hle hend
    rw [hsp₁] at hrest
    refine hrest.mono le_rfl id ?_
    rintro e' m' ⟨bytes, tape', y', hwalk, hpc', hsp', hview'⟩
    refine ⟨data :: bytes, tape', y', .cons hround htape hon hwalk hle hend, hpc', hsp'.trans hsp₁, ?_⟩
    have haddr : m₁.bus.work.addr = m.bus.work.addr + 1#16 := hon.addr
    rw [hview', haddr, succ_offset, hwork]
    have hx : m₁.x = m.x := congrArg View.x hview
    have hlow : m₁.bus.low = m.bus.low := congrArg View.low hview
    have hhigh : m₁.bus.high = m.bus.high := congrArg View.high hview
    have hout : m₁.bus.out = m.bus.out := congrArg View.out hview
    simp [hx, hlow, hhigh, hout, xorOf, Work.setAddr]

/-- The checksum, and the motor goes off. -/
lemma save_done (hpc : m.pc = 0xD065#16) (hmotor : m.bus.tape.motorOn = true) :
    Reaches m 0 m.sp q [.tapeWrite 0x8004#16 m.bus.work.checksum true, .tapeWrite 0x8003#16 0x00#8 true]
      (At 0xD06F#16 m.sp Any
        { m.view with tape := (m.bus.tape.put m.bus.work.checksum).control 0x00#8 }) := by
  obtain ⟨a, x, y, sp, p, pc, halted, w, low, stack, high, input, out, tape⟩ := m
  obtain rfl : pc = _ := hpc
  simp only at hmotor
  have hput : 0xD067#16 ∉ entries ∧ 0xD067#16 ∉ cursorSites := by decide
  have hcontrol : 0xD06C#16 ∉ entries ∧ 0xD06C#16 ∉ cursorSites := by decide
  have hon : (tape.put w.checksum).motorOn = true := by simp [hmotor]
  refine .via 1 0xD067#16 (fun a _ _ => a = w.checksum) ⟨x, y, w, low, high, out, tape⟩ (by simp) ?_
  rintro _ p halted stack input rfl
  refine .nextSeen (putTape w.checksum line_D067 hput hmotor rfl) le_rfl fun _ _ _ _ _ _ => ?_
  refine .via 1 0xD06C#16 (fun a _ _ => a = 0x00#8)
    ⟨x, y, w, low, high, out, tape.put w.checksum⟩ (by simp) ?_
  rintro _ p halted stack input rfl
  refine .nextSeen (controlTape 0x00#8 line_D06C hcontrol hon rfl) le_rfl fun _ _ _ _ _ _ => ?_
  exact .refl ⟨rfl, rfl, trivial, rfl⟩

/-- What `SAVE` has done when it comes back. -/
def Saved (v : View) (e : List Event) (v' : View) : Prop :=
  ∃ bytes tape y, bytes.length = span v.work.addr v.work.addr2 ∧
    e = v.visit 0xD000#16 :: .tapeWrite 0x8003#16 0x01#8 v.tape.motorOn ::
      .tapeWrite 0x8004#16 (Word.lo (BitVec.ofNat 16 bytes.length)) true ::
      .tapeWrite 0x8004#16 (Word.hi (BitVec.ofNat 16 bytes.length)) true ::
      (saves v.work.addr bytes ++
        [.tapeWrite 0x8004#16 (xorOf 0#8 bytes) true, .tapeWrite 0x8003#16 0x00#8 true]) ∧
    tape.motorOn = false ∧ tape.backing.isSome = v.tape.backing.isSome ∧
    (QuietRange v.work.addr v.work.addr2 →
      tape = ((v.tape.control 0x01#8).puts (block bytes)).control 0x00#8) ∧
    Shown v v.work.addr bytes ∧ v' =
      { v with
        y := y
        work := { (v.work.setTapeLen (BitVec.ofNat 16 bytes.length)).setAddr
            (v.work.addr + BitVec.ofNat 16 bytes.length) with checksum := xorOf 0#8 bytes }
        tape := tape }

lemma ofNat_span {a e : Word} (h : a ≤ e) : BitVec.ofNat 16 (span a e) = e - a + 1#16 := by
  apply BitVec.eq_of_toNat_eq
  rw [BitVec.le_def] at h
  rw [span, BitVec.toNat_add, BitVec.toNat_sub, BitVec.toNat_ofNat, BitVec.toNat_ofNat]
  have := a.isLt
  have := e.isLt
  omega

lemma save_block (hpc : m.pc = 0xD01B#16) (hle : m.bus.work.addr ≤ m.bus.work.addr2)
    (hend : m.bus.work.addr2 ≠ 0xFFFF#16) (hq : q → QuietRange m.bus.work.addr m.bus.work.addr2) :
    Does m 0 m.sp q fun e m' => m'.pc = 0xD06F#16 ∧ m'.sp = m.sp ∧
      Saved m.view (m.view.visit 0xD000#16 :: e) m'.view := by
  have hspan := ofNat_span hle
  have hon : ((m.bus.tape.control 0x01#8).puts [Word.lo (BitVec.ofNat 16 (span m.bus.work.addr
      m.bus.work.addr2)), Word.hi (BitVec.ofNat 16 (span m.bus.work.addr m.bus.work.addr2))]).motorOn =
      true := by
    simp [Tape.puts]
  refine Does.next (save_header hpc hspan.symm) le_rfl fun _ _ _ _ _ _ => ?_
  refine Does.bind (save_loop (span m.bus.work.addr m.bus.work.addr2) rfl rfl hend hon hq) ?_
  rintro e m₁ ⟨bytes, tape, y, ⟨hlen, hseen, hmotor, hpres, hquiet, hshown⟩, hpc₁, hsp₁, hview⟩
  have hlen : bytes.length = span m.bus.work.addr m.bus.work.addr2 := hlen
  have hseen : e = saves m.bus.work.addr bytes := hseen
  have hwork : m₁.bus.work = _ := congrArg View.work hview
  have htape : m₁.bus.tape = tape := congrArg View.tape hview
  have hsum : m₁.bus.work.checksum = xorOf 0#8 bytes := by
    rw [hwork]
  have hdone := save_done (q := q) hpc₁ (by rw [htape]; exact hmotor)
  have hsp₁ : m₁.sp = m.sp := hsp₁
  rw [hsp₁, hsum, htape] at hdone
  refine hdone.does fun m' hm => .refl ⟨hm.pc, hm.sp, bytes, (tape.put (xorOf 0#8 bytes)).control 0x00#8, y,
    hlen, ?_, by simp, ?_, fun hq => ?_, hshown.congr rfl, ?_⟩
  · rw [hseen, hlen]
    rfl
  · simp only [Tape.backing_control, Tape.present_put, hpres]
    simp [Tape.puts]
  · have hquiet' := hquiet hq
    rw [hquiet']
    simp [block, hlen, Tape.puts]
  · rw [hm.view, hview, hlen]
    rfl

/-- `SAVE` with a tape in, for every range that is not empty and does not end with the last
address. -/
theorem save_finishes (hpc : m.pc = 0xD000#16) (htape : m.bus.tape.backing.isSome)
    (hle : m.bus.work.addr ≤ m.bus.work.addr2) (hend : m.bus.work.addr2 ≠ 0xFFFF#16)
    (hq : q → QuietRange m.bus.work.addr m.bus.work.addr2) : Finishes m 0 q (Saved m.view) := by
  refine .of_rts (by omega) ?_
  refine Does.next (save_start hpc) le_rfl fun _ _ _ _ _ _ => ?_
  refine Does.mono (save_block (if_pos ⟨htape, hle⟩) hle hend hq) le_rfl id ?_
  rintro e m' ⟨hpc', hsp', hsaved⟩
  refine ⟨by rw [hpc']; exact line_D06F, hsp', ?_⟩
  rw [visit, hpc]
  exact hsaved

/-- Otherwise it complains. -/
theorem save_refuses (hpc : m.pc = 0xD000#16)
    (h : ¬(m.bus.tape.backing.isSome ∧ m.bus.work.addr ≤ m.bus.work.addr2)) :
    Finishes m 2 q fun e v => e = [m.visit] ∧ v = m.printed complaint := by
  refine .tail (by omega) ?_
  refine Does.next (save_start hpc) (by omega) fun _ _ _ _ _ _ => .refl ⟨rfl, ?_⟩
  exact (save_complains (if_neg h)).finishes ⟨rfl, rfl⟩

/-- What is seen of `SAVE`. -/
def saveEvent : Event → Prop
  | .visit pc _ _ => pc = 0xD000#16
  | .access pc _ _ => pc = 0xD053#16
  | .tapeWrite _ _ _ => True

/-- Up to the last address `SAVE` never ends. -/
theorem save_stays (hpc : m.pc = 0xD000#16) (htape : m.bus.tape.backing.isSome)
    (hend : m.bus.work.addr2 = 0xFFFF#16) : Stays m 0 m.sp saveEvent := by
  have hle : m.bus.work.addr ≤ m.bus.work.addr2 := by
    rw [hend]
    bv_omega
  have hloop : ∀ m' : Machine, m'.pc = 0xD041#16 → m'.sp = m.sp → m'.bus.work.addr2 = 0xFFFF#16 →
      m'.bus.tape.motorOn = true → Stays m' 0 m.sp saveEvent := by
    intro m' hpc hsp hend hmotor
    refine stays_of_recurrent (fun m₁ => m₁.pc = 0xD041#16 ∧ m₁.sp = m.sp ∧
      m₁.bus.work.addr2 = 0xFFFF#16 ∧ m₁.bus.tape.motorOn = true) ?_ ⟨hpc, hsp, hend, hmotor⟩
    rintro m₁ ⟨hpc, hsp, hend, hmotor⟩
    have hle : m₁.bus.work.addr ≤ m₁.bus.work.addr2 := by
      rw [hend]
      bv_omega
    rw [← hsp]
    refine (save_round hpc hle hmotor False.elim).mono le_rfl id ?_
    rintro e m₂ ⟨data, tape, e₁, hround, rfl, hpc₂, hsp₂, hview⟩
    have hwork : m₂.bus.work = _ := congrArg View.work hview
    have htape₂ : m₂.bus.tape = tape.put data := congrArg View.tape hview
    refine ⟨by simp, ?_, hpc₂, hsp₂, ?_, ?_⟩
    · rw [hround.seen]
      simp [saveEvent]
    · rw [hwork]
      exact hend
    · rw [htape₂, Tape.motorOn_put, hround.motorOn]
      exact hmotor
  have hstart : Does m 0 m.sp False fun e m' => (∀ x ∈ e, saveEvent x) ∧ m'.pc = 0xD041#16 ∧
      m'.sp = m.sp ∧ m'.bus.work.addr2 = 0xFFFF#16 ∧ m'.bus.tape.motorOn = true := by
    refine Does.next (save_start hpc) le_rfl fun _ _ _ _ _ _ => ?_
    refine Does.next (save_header (if_pos ⟨htape, hle⟩) rfl) le_rfl fun _ _ _ _ _ _ => ?_
    refine .refl ⟨?_, rfl, rfl, hend, by simp [Tape.puts]⟩
    simp [visit, saveEvent, hpc]
  refine hstart.stays ?_
  rintro e m' ⟨he, hpc', hsp', hend', hmotor'⟩
  exact ⟨he, hloop m' hpc' hsp' hend' hmotor'⟩

end Machine

namespace System

lemma save_never_returns {sys sys' : System} {n : Nat} (hready : sys.Ready)
    (hpc : sys.cpu.pc = 0xD000#16) (htape : sys.tty.tapeBacking.isSome)
    (hend : sys.addr2 = 0xFFFF#16) : ¬sys.ReturnsIn n sys' := by
  have hm := hready.shows
  rw [hm.addr2] at hend
  rw [hm.tape.1] at htape
  exact hm.never_returns (Machine.save_stays hpc htape hend) (by omega)

lemma save_refused {sys : System} (hready : sys.Ready) (hpc : sys.cpu.pc = 0xD000#16)
    (h : ¬(sys.tty.tapeBacking.isSome ∧ sys.addr ≤ sys.addr2)) : ∃ n sys', sys.ReturnsIn n sys' ∧
      sys.seenIn n = [.visit 0xD000#16 sys.addr sys.addr2] ∧ sys'.tty.out = sys.tty.out ++ complaint := by
  have hm := hready.shows
  have hvisit : sys.machine.visit = .visit 0xD000#16 sys.addr sys.addr2 := by
    rw [hm.addr, hm.addr2, Machine.visit, show sys.machine.pc = 0xD000#16 from hpc]
  rw [hm.addr, hm.addr2, hm.tape.1] at h
  obtain ⟨n, sys', m', hret, hshows, ⟨hseen, hview⟩, -⟩ :=
    hm.returns (Machine.save_refuses (q := False) hpc h) (by omega)
  refine ⟨n, sys', hret, hseen.trans (by rw [hvisit]), ?_⟩
  rw [hshows.out, hm.out]
  exact congrArg View.out hview

/-- `SAVE` returns and its cursor goes once through the range, unless that ends with the last
address. -/
lemma save_returns {sys : System} (hready : sys.Ready) (hpc : sys.cpu.pc = 0xD000#16)
    (htape : sys.tty.tapeBacking.isSome) (hend : sys.addr2 ≠ 0xFFFF#16) : ∃ n sys', sys.ReturnsIn n sys' ∧
      (sys.seenIn n).filterMap Event.cursor = addresses sys.addr (span sys.addr sys.addr2) := by
  have hm := hready.shows
  have haddr := hm.addr
  have haddr2 := hm.addr2
  by_cases hle : sys.addr ≤ sys.addr2
  · have hle' := hle
    rw [haddr, haddr2] at hle'
    rw [haddr2] at hend
    rw [hm.tape.1] at htape
    obtain ⟨n, sys', m', hret, -, ⟨bytes, tape, y, hlen, hseen, -⟩, -⟩ :=
      hm.returns (Machine.save_finishes (q := False) hpc htape hle' hend False.elim) (by omega)
    have hlen' : bytes.length = span sys.addr sys.addr2 := by
      rw [haddr, haddr2]
      exact hlen
    refine ⟨n, sys', hret, ?_⟩
    rw [hseen, ← hlen', haddr]
    simp [List.filterMap_cons, Event.cursor, View.visit, cursor_saves, Work.addr]
  · obtain ⟨n, sys', hret, hseen, -⟩ := save_refused hready hpc (fun h => hle h.2)
    have hspan : span sys.addr sys.addr2 = 0 := span_of_lt (by bv_omega)
    refine ⟨n, sys', hret, ?_⟩
    rw [hseen, hspan]
    rfl

/-- A system at `SAVE`, to save the bytes at `$0000` and `$0001`. -/
def savingTwo : System := standing 0xD000#16 { (default : Work) with addr2Lo := 0x01#8 } (cassette [])

/-- `LIST` and `SAVE` return, with their cursor once at each address of the range, exactly when the
range does not end with the last address of all. -/
theorem list_save_return_iff {sys : System} (hready : sys.Ready) :
    (sys.cpu.pc = 0xCB00#16 →
      ((∃ n sys', sys.ReturnsIn n sys' ∧
        (sys.seenIn n).filterMap Event.cursor = addresses sys.addr (span sys.addr sys.addr2)) ↔
      sys.addr2 ≠ 0xFFFF#16)) ∧
    (sys.cpu.pc = 0xD000#16 → sys.tty.tapeBacking.isSome →
      ((∃ n sys', sys.ReturnsIn n sys' ∧
        (sys.seenIn n).filterMap Event.cursor = addresses sys.addr (span sys.addr sys.addr2)) ↔
      sys.addr2 ≠ 0xFFFF#16)) := by
  refine ⟨fun hpc => ⟨?_, list_returns hready hpc⟩, fun hpc htape => ⟨?_, save_returns hready hpc htape⟩⟩
  · rintro ⟨n, sys', hret, -⟩ hend
    exact list_never_returns hready hpc hend hret
  · rintro ⟨n, sys', hret, -⟩ hend
    exact save_never_returns hready hpc htape hend hret

theorem list_save_return_iff_two :
    (∃ n sys', (standing 0xCB00#16 { (default : Work) with addr2Lo := 0x01#8 } default).ReturnsIn n sys' ∧
      ((standing 0xCB00#16 { (default : Work) with addr2Lo := 0x01#8 } default).seenIn n).filterMap Event.cursor =
        [0#16, 1#16]) ∧
    ∃ n sys', savingTwo.ReturnsIn n sys' ∧ (savingTwo.seenIn n).filterMap Event.cursor = [0#16, 1#16] :=
  ⟨((list_save_return_iff (ready_standing _ _ _)).1 rfl).mpr (by decide),
    ((list_save_return_iff (ready_standing _ _ _)).2 rfl rfl).mpr (by decide)⟩

/-- From $0000 to $FFFF neither of them returns. -/
theorem full_range_never_returns :
    (¬∃ n sys', (standing 0xCB00#16 { (default : Work) with addr2Lo := 0xFF#8, addr2Hi := 0xFF#8 }
      default).ReturnsIn n sys') ∧
    ¬∃ n sys', (standing 0xD000#16 { (default : Work) with addr2Lo := 0xFF#8, addr2Hi := 0xFF#8 }
      (cassette [])).ReturnsIn n sys' := by
  constructor
  · rintro ⟨n, sys', hret⟩
    exact list_never_returns (ready_standing _ _ _) rfl (by decide) hret
  · rintro ⟨n, sys', hret⟩
    exact save_never_returns (ready_standing _ _ _) rfl rfl (by decide) hret

end System

end Sys6
