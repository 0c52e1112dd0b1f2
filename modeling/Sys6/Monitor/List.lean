import Sys6.Monitor.Cursor

/-!
# PEEK and LIST

`dump` is the listing of some bytes, in rows of sixteen. `LIST` prints it byte by byte, with
the number of bytes already in the row in `ROWCOUNT`.
-/

namespace Sys6

def addrText (a : Word) : List Byte := hexText a.hi ++ hexText a.lo ++ [0x3A#8, 0x20#8]

def bytesText (bytes : List Byte) : List Byte := bytes.flatMap fun b => hexText b ++ [0x20#8]

/-- One row without its line end. -/
def rowText (a : Word) (bytes : List Byte) : List Byte := addrText a ++ bytesText bytes

/-- Rows of sixteen bytes, and what is left in a last one. -/
def dump (a : Word) : List Byte → List Byte
  | [] => []
  | b :: bytes =>
    rowText a ((b :: bytes).take 16) ++ crlf ++ dump (a + 16#16) ((b :: bytes).drop 16)
termination_by bytes => bytes.length
decreasing_by simp only [List.length_drop, List.length_cons]; omega

/-- What `LIST` prints of `bytes` when `row` bytes are already in the row. -/
def listed : Word → Nat → List Byte → List Byte
  | _, row, [] => if row = 0 then [] else crlf
  | a, row, b :: bytes => (if row = 0 then addrText a else []) ++ hexText b ++ [0x20#8] ++
      if row = 15 then crlf ++ listed (a + 1#16) 0 bytes else listed (a + 1#16) (row + 1) bytes

/-- A row that has begun is filled up, and then new ones follow. -/
lemma listed_eq (bytes : List Byte) (a : Word) : listed a 0 bytes = dump a bytes ∧
    ∀ row, 0 < row → row ≤ 15 → listed a row bytes = bytesText (bytes.take (16 - row)) ++ crlf ++
      dump (a + BitVec.ofNat 16 (16 - row)) (bytes.drop (16 - row)) := by
  induction bytes generalizing a with
  | nil =>
    refine ⟨by simp [listed, dump], fun row h0 h15 => ?_⟩
    have hrow : row ≠ 0 := by omega
    simp [listed, dump, hrow, bytesText]
  | cons b bytes ih =>
    obtain ⟨ih0, ih⟩ := ih (a + 1#16)
    constructor
    · have h16 : a + 1#16 + 15#16 = a + 16#16 := by bv_omega
      rw [listed, dump]
      simp [ih 1 (by omega) (by omega), h16, rowText, bytesText]
    · intro row h0 h15
      have hrow : row ≠ 0 := by omega
      have hlen : 16 - row = (15 - row) + 1 := by omega
      rw [listed, if_neg hrow, hlen, List.take_succ_cons, List.drop_succ_cons]
      by_cases h : row = 15
      · subst h
        rw [if_pos rfl, ih0]
        simp [bytesText]
      · have hnext : a + 1#16 + BitVec.ofNat 16 (16 - (row + 1)) = a + BitVec.ofNat 16 (15 - row + 1) := by
          rw [show 16 - (row + 1) = 15 - row by omega, succ_offset]
        rw [if_neg h, ih (row + 1) (by omega) (by omega), hnext,
          show 16 - (row + 1) = 15 - row by omega]
        simp [bytesText]

/-- Up to sixteen bytes are one row. -/
lemma dump_row (a : Word) {bytes : List Byte} (hne : bytes ≠ []) (hlen : bytes.length ≤ 16) :
    dump a bytes = rowText a bytes ++ crlf := by
  cases bytes with
  | nil => exact absurd rfl hne
  | cons b bytes => rw [dump, List.take_of_length_le hlen, List.drop_eq_nil_of_le hlen, dump, List.append_nil]

/-- The number of addresses from `a` to `e`. -/
def span (a e : Word) : Nat := e.toNat + 1 - a.toNat

/-- Every address of the range is quiet. -/
def QuietRange (a e : Word) : Prop := ∀ i < span a e, Quiet (a + BitVec.ofNat 16 i)

lemma span_of_lt {a e : Word} (h : e < a) : span a e = 0 := by
  unfold span
  bv_omega

lemma span_of_le {a e : Word} (h : a ≤ e) (he : e ≠ 0xFFFF#16) :
    span a e = span (a + 1#16) e + 1 := by
  unfold span
  bv_omega

lemma lt_of_span_zero {a e : Word} (h : span a e = 0) : e < a := by
  unfold span at h
  bv_omega

lemma le_of_span_succ {a e : Word} {n : Nat} (h : span a e = n + 1) : a ≤ e := by
  unfold span at h
  bv_omega

/-- The bytes of a walk are those of the memory, wherever it is clear. -/
def Shown (v : View) (a : Word) : List Byte → Prop
  | [] => True
  | b :: bytes => (Clear a → b = v.mem a) ∧ Shown v (a + 1#16) bytes

lemma Shown.congr {v v' : View} {a : Word} {bytes : List Byte} (h : Shown v a bytes)
    (hmem : v'.mem = v.mem) : Shown v' a bytes := by
  induction bytes generalizing a with
  | nil => trivial
  | cons b bytes ih => exact ⟨fun hc => hmem ▸ h.1 hc, ih h.2⟩

lemma Shown.get {v : View} {a : Word} {bytes : List Byte} (h : Shown v a bytes) (i : Nat)
    (hi : i < bytes.length) (hc : Clear (a + BitVec.ofNat 16 i)) : bytes[i] = v.mem (a + BitVec.ofNat 16 i) := by
  induction bytes generalizing a i with
  | nil => exact absurd hi (by simp)
  | cons b bytes ih =>
    cases i with
    | zero =>
      have ha : a + BitVec.ofNat 16 0 = a := by simp
      rw [ha] at hc ⊢
      exact h.1 hc
    | succ i =>
      rw [← succ_offset] at hc ⊢
      exact ih h.2 i (by simpa using hi) hc

/-- One read through the cursor at the site `pc`, which returns `data` and leaves the tape as
`tape`. -/
structure Round (v : View) (pc : Word) (data : Byte) (tape : Tape) (e : List Event) : Prop where
  seen : e = [.access pc v.work.addr data]
  motorOn : tape.motorOn = v.tape.motorOn
  present : tape.backing.isSome = v.tape.backing.isSome
  quiet : Quiet v.work.addr → tape = v.tape
  shown : Clear v.work.addr → data = v.mem v.work.addr

/-- The reads of a whole range. -/
structure Walk (v : View) (pc : Word) (bytes : List Byte) (tape : Tape) (e : List Event) : Prop where
  length : bytes.length = span v.work.addr v.work.addr2
  seen : e = sweep pc v.work.addr bytes
  motorOn : tape.motorOn = v.tape.motorOn
  present : tape.backing.isSome = v.tape.backing.isSome
  quiet : QuietRange v.work.addr v.work.addr2 → tape = v.tape
  shown : Shown v v.work.addr bytes

lemma QuietRange.head {a e : Word} (h : QuietRange a e) (hle : a ≤ e) (he : e ≠ 0xFFFF#16) :
    Quiet a := by
  have h0 := h 0 (by rw [span_of_le hle he]; omega)
  simpa using h0

lemma QuietRange.tail {a e : Word} (h : QuietRange a e) (hle : a ≤ e) (he : e ≠ 0xFFFF#16) :
    QuietRange (a + 1#16) e := by
  intro i hi
  have hsucc := h (i + 1) (by rw [span_of_le hle he]; omega)
  rwa [← succ_offset] at hsucc

lemma Walk.nil {v : View} {pc : Word} (h : v.work.addr2 < v.work.addr) : Walk v pc [] v.tape [] :=
  ⟨(span_of_lt h).symm, rfl, rfl, rfl, fun _ => rfl, trivial⟩

/-- The round of a range command is over: the cursor has moved on, towards the same end and over the
same memory. -/
structure Onward (v v' : View) : Prop where
  addr : v'.work.addr = v.work.addr + 1#16
  addr2 : v'.work.addr2 = v.work.addr2
  mem : v'.mem = v.mem

namespace Onward

variable {v v' : View}

lemma span_eq {n : Nat} (h : Onward v v') (hn : span v.work.addr v.work.addr2 = n + 1)
    (he : v.work.addr2 ≠ 0xFFFF#16) : span v'.work.addr v'.work.addr2 = n := by
  rw [span_of_le (le_of_span_succ hn) he] at hn
  rw [h.addr, h.addr2]
  omega

lemma quietRange (h : Onward v v') (hq : QuietRange v.work.addr v.work.addr2)
    (hle : v.work.addr ≤ v.work.addr2) (he : v.work.addr2 ≠ 0xFFFF#16) :
    QuietRange v'.work.addr v'.work.addr2 := by
  rw [h.addr, h.addr2]
  exact hq.tail hle he

end Onward

/-- One read and the rest of the range. -/
lemma Walk.cons {v v' : View} {pc : Word} {data : Byte} {bytes : List Byte} {tape' : Tape}
    {e e' : List Event} (h : Round v pc data v'.tape e) (hon : Onward v v')
    (h' : Walk v' pc bytes tape' e') (hle : v.work.addr ≤ v.work.addr2)
    (he : v.work.addr2 ≠ 0xFFFF#16) : Walk v pc (data :: bytes) tape' (e ++ e') := by
  obtain ⟨haddr, haddr2, hmem⟩ := hon
  obtain ⟨hlen, hseen, hmotor, hpres, hquiet, hshown⟩ := h'
  rw [haddr, haddr2] at hlen hquiet
  rw [haddr] at hseen hshown
  refine ⟨?_, ?_, hmotor.trans h.motorOn, hpres.trans h.present, fun hq => ?_, h.shown, ?_⟩
  · rw [List.length_cons, hlen, span_of_le hle he]
  · rw [h.seen, hseen]
    rfl
  · rw [hquiet (hq.tail hle he), h.quiet (hq.head hle he)]
  · exact hshown.congr hmem.symm

namespace Machine

variable {q : Prop} {m : Machine}

/-! ## LIST -/

/-- The address at the start of a row. -/
lemma list_rowStart (hpc : m.pc = 0xCB14#16) :
    Reaches m 5 m.sp q [] (At 0xCB2E#16 m.sp Any
      { m.view with
        y := 0#8
        out := m.bus.out ++ if m.bus.work.rowCount = 0#8 then addrText m.bus.work.addr else [] }) := by
  obtain ⟨a, x, y, sp, p, pc, halted, w, low, stack, high, input, out, tape⟩ := m
  obtain rfl : pc = _ := hpc
  by_cases h0 : w.rowCount = 0#8
  · refine .via 3 0xCB1A#16 (fun a _ _ => a = w.addrHi) ⟨x, y, w, low, high, out, tape⟩
      (by simp [eq_true h0]) ?_
    rintro _ p halted stack input rfl
    refine .next (call_printHexByte line_CB1A) le_rfl fun _ _ _ _ _ _ => ?_
    refine .via 1 0xCB1F#16 (fun a _ _ => a = w.addrLo)
      ⟨x, y, w, low, high, out ++ hexText w.addrHi, tape⟩ (by simp) ?_
    rintro _ p halted stack input rfl
    refine .next (call_printHexByte line_CB1F) le_rfl fun _ _ _ _ _ _ => ?_
    refine .emit (c := 0x3A#8) ⟨line_CB22, line_CB24⟩ (by omega) fun _ _ _ _ _ => ?_
    refine .emit (c := 0x20#8) ⟨line_CB27, line_CB29⟩ (by omega) fun _ _ _ _ _ => ?_
    exact .finish 1 (by simp [addrText, Work.addr, h0])
  · exact .finish 3 (by simp [h0])

/-- A byte of a row. -/
lemma list_byte (hpc : m.pc = 0xCB30#16) :
    Reaches m 5 m.sp q [] (At 0xCB38#16 m.sp Any (m.printed (hexText m.a ++ [0x20#8]))) := by
  obtain ⟨a, x, y, sp, p, pc, halted, w, low, stack, high, input, out, tape⟩ := m
  obtain rfl : pc = _ := hpc
  refine .next (call_printHexByte line_CB30) le_rfl fun _ _ _ _ _ _ => ?_
  refine .emit (c := 0x20#8) ⟨line_CB33, line_CB35⟩ (by omega) fun _ _ _ _ _ => ?_
  exact .refl ⟨rfl, rfl, trivial, by simp⟩

/-- On to the next byte, and to a new line when the row is full. -/
lemma list_next {row : Nat} (hpc : m.pc = 0xCB38#16) (hrow : m.bus.work.rowCount = BitVec.ofNat 8 row)
    (h15 : row ≤ 15) :
    Reaches m 5 m.sp q [] (At 0xCB04#16 m.sp Any
      { m.view with
        work := { m.bus.work.setAddr (m.bus.work.addr + 1#16) with
          rowCount := if row = 15 then 0#8 else BitVec.ofNat 8 (row + 1) }
        out := m.bus.out ++ if row = 15 then crlf else [] }) := by
  obtain ⟨a, x, y, sp, p, pc, halted, w, low, stack, high, input, out, tape⟩ := m
  obtain rfl : pc = _ := hpc
  have hadv : Advances 0xCB38#16 := ⟨line_CB38, line_CB3A, line_CB3C⟩
  have hnext : w.rowCount + 1#8 = BitVec.ofNat 8 (row + 1) := by
    rw [BitVec.ofNat_add, ← hrow]
  refine .next (advance hadv) (by omega) fun _ _ _ _ _ _ => ?_
  by_cases h : row = 15
  · have hge : 0x10#8 ≤ BitVec.ofNat 8 (row + 1) := by
      rw [h]
      decide
    refine .via 4 0xCB46#16 Any ⟨x, y, { w.setAddr (w.addr + 1#16) with rowCount := w.rowCount + 1#8 },
      low, high, out, tape⟩ (by simp [Work.setAddr, hnext, hge]) fun _ _ _ _ _ _ => ?_
    refine .crlf ⟨⟨line_CB46, line_CB48⟩, ⟨line_CB4B, line_CB4D⟩⟩ (by omega) fun _ _ _ _ _ => ?_
    exact .finish 3 (by simp [h])
  · have hlt : ¬0x10#8 ≤ BitVec.ofNat 8 (row + 1) := by
      rw [BitVec.le_def, BitVec.toNat_ofNat, BitVec.toNat_ofNat]
      omega
    exact .finish 4 (by simp [Work.setAddr, hnext, hlt, h])

lemma row_eq_zero {row : Nat} {rowCount : Byte} (hrow : rowCount = BitVec.ofNat 8 row)
    (h15 : row ≤ 15) : rowCount = 0#8 ↔ row = 0 := by
  rw [hrow, ← BitVec.toNat_inj, BitVec.toNat_ofNat, BitVec.toNat_ofNat]
  omega

lemma list_tests : TestsRange 0xCB04#16 0x4B#8 0x43#8 :=
  ⟨line_CB04, line_CB06, line_CB08, line_CB0A, line_CB0C, line_CB0E, line_CB10, line_CB12⟩

lemma list_round {row : Nat} (hpc : m.pc = 0xCB04#16) (hle : m.bus.work.addr ≤ m.bus.work.addr2)
    (hrow : m.bus.work.rowCount = BitVec.ofNat 8 row) (h15 : row ≤ 15)
    (hq : q → Quiet m.bus.work.addr) :
    Does m 5 m.sp q fun e m' => ∃ data tape, Round m.view 0xCB2E#16 data tape e ∧
      m'.pc = 0xCB04#16 ∧ m'.sp = m.sp ∧ m'.view =
        { m.view with
          y := 0#8
          work := { m.bus.work.setAddr (m.bus.work.addr + 1#16) with
            rowCount := if row = 15 then 0#8 else BitVec.ofNat 8 (row + 1) }
          out := m.bus.out ++ (if row = 0 then addrText m.bus.work.addr else []) ++ hexText data ++
            [0x20#8] ++ (if row = 15 then crlf else [])
          tape := tape } := by
  obtain ⟨a, x, y, sp, p, pc, halted, w, low, stack, high, input, out, tape⟩ := m
  obtain rfl : pc = _ := hpc
  simp only at hle hrow hq
  have hzero := row_eq_zero hrow h15
  have hsite : 0xCB2E#16 ∈ cursorSites := by decide
  refine .next (testRange list_tests (t := 0xCB57#16) rfl rfl) (by omega) fun _ _ _ _ _ _ => ?_
  refine .next (list_rowStart (by simp [hle])) le_rfl fun _ _ _ _ _ _ => ?_
  refine .loadCursor line_CB2E hsite rfl (by simp) hq
    fun data _ _ tape' hmotor htape hquiet hclear => ?_
  refine .next (list_byte rfl) le_rfl fun _ _ _ _ _ _ => ?_
  refine .next (list_next rfl hrow h15) le_rfl fun _ _ _ _ _ _ => .refl ?_
  refine ⟨data, tape', ⟨rfl, hmotor, htape, hquiet, hclear⟩, rfl, rfl, ?_⟩
  simp [hzero]

/-- Past the end of the range a row that has begun is ended. -/
lemma list_stop {row : Nat} (hpc : m.pc = 0xCB04#16) (hlt : m.bus.work.addr2 < m.bus.work.addr)
    (hrow : m.bus.work.rowCount = BitVec.ofNat 8 row) (h15 : row ≤ 15) :
    Reaches m 5 m.sp q [] (At 0xCB65#16 m.sp Any (m.printed (if row = 0 then [] else crlf))) := by
  obtain ⟨a, x, y, sp, p, pc, halted, w, low, stack, high, input, out, tape⟩ := m
  obtain rfl : pc = _ := hpc
  simp only at hlt hrow
  have hle : ¬w.addr ≤ w.addr2 := by bv_omega
  have hzero := row_eq_zero hrow h15
  refine .next (testRange list_tests (t := 0xCB57#16) rfl rfl) (by omega) fun _ _ _ _ _ _ => ?_
  simp only [if_neg hle]
  by_cases h0 : row = 0
  · exact .finish 2 (by simp [eq_true (hzero.mpr h0), h0])
  · have hne : w.rowCount ≠ 0#8 := fun h => h0 (hzero.mp h)
    refine .via 2 0xCB5B#16 Any ⟨x, y, w, low, high, out, tape⟩ (by simp [hne]) fun _ _ _ _ _ _ => ?_
    refine .crlf ⟨⟨line_CB5B, line_CB5D⟩, ⟨line_CB60, line_CB62⟩⟩ (by omega) fun _ _ _ _ _ => ?_
    exact .refl ⟨rfl, rfl, trivial, by simp [h0]⟩

/-- From the loop head of `LIST` to its `RTS`. -/
lemma list_loop (n row : Nat) (hpc : m.pc = 0xCB04#16)
    (hn : span m.bus.work.addr m.bus.work.addr2 = n) (hend : m.bus.work.addr2 ≠ 0xFFFF#16)
    (hrow : m.bus.work.rowCount = BitVec.ofNat 8 row) (h15 : row ≤ 15)
    (hq : q → QuietRange m.bus.work.addr m.bus.work.addr2) :
    Does m 5 m.sp q fun e m' => m'.pc = 0xCB65#16 ∧ m'.sp = m.sp ∧
      ∃ bytes tape y rowCount, Walk m.view 0xCB2E#16 bytes tape e ∧ m'.view =
        { m.view with
          y := y
          work := { m.bus.work.setAddr (m.bus.work.addr + BitVec.ofNat 16 n) with rowCount := rowCount }
          out := m.bus.out ++ listed m.bus.work.addr row bytes
          tape := tape } := by
  induction n generalizing m row with
  | zero =>
    have hlt := lt_of_span_zero hn
    refine (list_stop hpc hlt hrow h15).does fun m' hm => .refl ⟨hm.pc, hm.sp, [], m.bus.tape,
      m.y, m.bus.work.rowCount, Walk.nil hlt, ?_⟩
    rw [hm.view]
    simp [listed, Work.setAddr, Work.addr]
  | succ n ih =>
    have hle := le_of_span_succ hn
    refine (list_round hpc hle hrow h15 fun h => (hq h).head hle hend).bind ?_
    rintro e m₁ ⟨data, tape, hround, hpc₁, hsp₁, hview⟩
    have hwork : m₁.bus.work = _ := congrArg View.work hview
    have hout : m₁.bus.out = _ := congrArg View.out hview
    have htape : m₁.bus.tape = tape := congrArg View.tape hview
    have hon : Onward m.view m₁.view := by
      rw [hview]
      exact ⟨word_hi_lo _, rfl, rfl⟩
    have hrow' : m₁.bus.work.rowCount = BitVec.ofNat 8 (if row = 15 then 0 else row + 1) := by
      rw [hwork]
      split_ifs <;> rfl
    have hend₁ : m₁.bus.work.addr2 ≠ 0xFFFF#16 := hon.addr2.trans_ne hend
    have hrest := ih (if row = 15 then 0 else row + 1) hpc₁ (hon.span_eq hn hend) hend₁ hrow'
      (by split_ifs <;> omega) (fun h => hon.quietRange (hq h) hle hend)
    rw [hsp₁] at hrest
    refine hrest.mono le_rfl id ?_
    rintro e' m' ⟨hpc', hsp', bytes, tape', y', rowCount, hwalk, hview'⟩
    have hround' : Round m.view 0xCB2E#16 data m₁.view.tape e := by rwa [← htape] at hround
    refine ⟨hpc', hsp', data :: bytes, tape', y', rowCount,
      Walk.cons hround' hon hwalk hle hend, ?_⟩
    have haddr : m₁.bus.work.addr = m.bus.work.addr + 1#16 := hon.addr
    rw [hview', haddr, succ_offset, hout, hwork]
    have hx : m₁.x = m.x := congrArg View.x hview
    have hlow : m₁.bus.low = m.bus.low := congrArg View.low hview
    have hhigh : m₁.bus.high = m.bus.high := congrArg View.high hview
    by_cases h : row = 15
    · simp [hx, hlow, hhigh, listed, h, Work.setAddr]
    · simp [hx, hlow, hhigh, listed, h, Work.setAddr]

/-- What `LIST` has done when it comes back. -/
def Listed (v : View) (e : List Event) (v' : View) : Prop :=
  ∃ bytes tape y rowCount e', e = v.visit 0xCB00#16 :: e' ∧ Walk v 0xCB2E#16 bytes tape e' ∧ v' =
    { v with
      y := y
      work := { v.work.setAddr (v.work.addr + BitVec.ofNat 16 bytes.length) with rowCount := rowCount }
      out := v.out ++ dump v.work.addr bytes
      tape := tape }

/-- `LIST`, for every range that does not end with the last address. -/
theorem list_finishes (hpc : m.pc = 0xCB00#16) (hend : m.bus.work.addr2 ≠ 0xFFFF#16)
    (hq : q → QuietRange m.bus.work.addr m.bus.work.addr2) : Finishes m 5 q (Listed m.view) := by
  obtain ⟨a, x, y, sp, p, pc, halted, w, low, stack, high, input, out, tape⟩ := m
  obtain rfl : pc = _ := hpc
  have hsite : 0xCB00#16 ∈ entries := by decide
  refine .of_rts (by omega) (.entry line_CB00 hsite rfl ?_)
  refine .via 1 0xCB04#16 Any ⟨x, y, { w with rowCount := 0#8 }, low, high, out, tape⟩ (by simp)
    fun _ _ _ _ _ _ => ?_
  refine Does.mono (list_loop (span w.addr w.addr2) 0 rfl rfl hend rfl (by omega) hq) le_rfl id ?_
  rintro e m' ⟨hpc', hsp', bytes, tape', y', rowCount, hwalk, hview⟩
  refine ⟨by rw [hpc']; exact line_CB65, hsp', bytes, tape', y', rowCount, e, rfl,
    ⟨hwalk.length, hwalk.seen, hwalk.motorOn, hwalk.present, hwalk.quiet, hwalk.shown.congr rfl⟩, ?_⟩
  refine hview.trans ?_
  have hlen : bytes.length = span w.addr w.addr2 := hwalk.length
  rw [(listed_eq bytes _).1, hlen]
  rfl

/-- The visits of `LIST`. -/
def listEvent : Event → Prop
  | .visit pc _ _ => pc = 0xCB00#16
  | .access pc _ _ => pc = 0xCB2E#16
  | .tapeWrite _ _ _ => False

/-- Up to the last address `LIST` never ends: behind `$FFFF` the cursor is below the end again. -/
theorem list_stays (hpc : m.pc = 0xCB00#16) (hend : m.bus.work.addr2 = 0xFFFF#16) :
    Stays m 5 m.sp listEvent := by
  have hloop : ∀ m' : Machine, m'.pc = 0xCB04#16 → m'.sp = m.sp → m'.bus.work.addr2 = 0xFFFF#16 →
      m'.bus.work.rowCount = BitVec.ofNat 8 0 → Stays m' 5 m.sp listEvent := by
    intro m' hpc hsp hend hrow
    refine stays_of_recurrent (fun m₁ => m₁.pc = 0xCB04#16 ∧ m₁.sp = m.sp ∧
      m₁.bus.work.addr2 = 0xFFFF#16 ∧ ∃ row ≤ 15, m₁.bus.work.rowCount = BitVec.ofNat 8 row) ?_
      ⟨hpc, hsp, hend, 0, by omega, hrow⟩
    rintro m₁ ⟨hpc, hsp, hend, row, h15, hrow⟩
    have hle : m₁.bus.work.addr ≤ m₁.bus.work.addr2 := by
      rw [hend]
      bv_omega
    rw [← hsp]
    refine (list_round hpc hle hrow h15 False.elim).mono le_rfl id ?_
    rintro e m₂ ⟨data, tape, hround, hpc₂, hsp₂, hview⟩
    have hwork : m₂.bus.work = _ := congrArg View.work hview
    refine ⟨by rw [hround.seen]; simp, ?_, hpc₂, hsp₂, ?_, if row = 15 then 0 else row + 1,
      by split_ifs <;> omega, ?_⟩
    · rw [hround.seen]
      simp [listEvent]
    · rw [hwork]
      exact hend
    · rw [hwork]
      split_ifs <;> rfl
  obtain ⟨a, x, y, sp, p, pc, halted, w, low, stack, high, input, out, tape⟩ := m
  obtain rfl : pc = _ := hpc
  have hsite : 0xCB00#16 ∈ entries := by decide
  have haddr2 : { w with rowCount := 0#8 }.addr2 = 0xFFFF#16 := hend
  have hstart : Does ⟨a, x, y, sp, p, 0xCB00#16, halted, ⟨w, low, stack, high, input, out, tape⟩⟩ 5 sp
      False fun e m' => (∀ x ∈ e, listEvent x) ∧ m'.pc = 0xCB04#16 ∧ m'.sp = sp ∧
        m'.bus.work.addr2 = 0xFFFF#16 ∧ m'.bus.work.rowCount = BitVec.ofNat 8 0 :=
    .entry line_CB00 hsite rfl (.finish 1 (by simp [visit, listEvent, haddr2]))
  refine hstart.stays ?_
  rintro e m' ⟨he, hpc', hsp', hend', hrow'⟩
  exact ⟨he, hloop m' hpc' hsp' hend' hrow'⟩

/-! ## PEEK -/

/-- What `PEEK` has done when it comes back. -/
def Peeked (v : View) (e : List Event) (v' : View) : Prop :=
  ∃ data tape e', e = v.visit 0xCA00#16 :: e' ∧ Round v 0xCA16#16 data tape e' ∧ v' =
    { v with
      y := 0#8
      out := v.out ++ addrText v.work.addr ++ hexText data ++ crlf
      tape := tape }

theorem peek_finishes (hpc : m.pc = 0xCA00#16) (hq : q → Quiet m.bus.work.addr) :
    Finishes m 5 q (Peeked m.view) := by
  obtain ⟨a, x, y, sp, p, pc, halted, w, low, stack, high, input, out, tape⟩ := m
  obtain rfl : pc = _ := hpc
  have hentry : 0xCA00#16 ∈ entries := by decide
  have hsite : 0xCA16#16 ∈ cursorSites := by decide
  refine .of_rts (by omega) (.entry line_CA00 hentry rfl ?_)
  refine .next (call_printHexByte line_CA02) le_rfl fun _ _ _ _ _ _ => ?_
  refine .via 1 0xCA07#16 (fun a _ _ => a = w.addrLo)
    ⟨x, y, w, low, high, out ++ hexText w.addrHi, tape⟩ (by simp) ?_
  rintro _ p halted stack input rfl
  refine .next (call_printHexByte line_CA07) le_rfl fun _ _ _ _ _ _ => ?_
  refine .next (emit (c := 0x3A#8) ⟨line_CA0A, line_CA0C⟩) (by omega) fun _ _ _ _ _ _ => ?_
  refine .next (emit (c := 0x20#8) ⟨line_CA0F, line_CA11⟩) (by omega) fun _ _ _ _ _ _ => ?_
  refine .via 1 0xCA16#16 Any
    ⟨x, 0#8, w, low, high, out ++ addrText w.addr, tape⟩
    (by simp [addrText, Work.addr]) fun _ _ _ _ _ _ => ?_
  refine .loadCursor line_CA16 hsite rfl (by simp) hq
    fun data _ _ tape' hmotor htape hquiet hclear => ?_
  refine .next (call_printHexByte line_CA18) le_rfl fun _ _ _ _ _ _ => ?_
  refine .next (emit (c := 0x0D#8) ⟨line_CA1B, line_CA1D⟩) (by omega) fun _ _ _ _ _ _ => ?_
  refine .next (emit (c := 0x0A#8) ⟨line_CA20, line_CA22⟩) (by omega) fun _ _ _ _ _ _ => .refl ?_
  refine ⟨line_CA25, rfl, data, tape', _, rfl, ⟨rfl, hmotor, htape, hquiet, hclear⟩, ?_⟩
  simp [addrText, Work.addr, crlf]

end Machine

namespace System

/-- `LIST` returns and its cursor goes once through the range, unless that ends with the last
address. -/
lemma list_returns {sys : System} (hready : sys.Ready) (hpc : sys.cpu.pc = 0xCB00#16)
    (hend : sys.addr2 ≠ 0xFFFF#16) : ∃ n sys', sys.ReturnsIn n sys' ∧
      (sys.seenIn n).filterMap Event.cursor = addresses sys.addr (span sys.addr sys.addr2) := by
  have hm := hready.shows
  have haddr := hm.addr
  have haddr2 := hm.addr2
  rw [haddr2] at hend
  obtain ⟨n, sys', m', hret, -, ⟨bytes, tape, y, rowCount, e', hseen, hwalk, -⟩, -⟩ :=
    hm.returns (Machine.list_finishes (q := False) hpc hend False.elim) (by omega)
  have hlen : bytes.length = span sys.addr sys.addr2 := by
    rw [haddr, haddr2]
    exact hwalk.length
  refine ⟨n, sys', hret, ?_⟩
  rw [hseen, hwalk.seen, ← hlen, haddr]
  exact cursor_sweep 0xCB2E#16 _ bytes

lemma list_never_returns {sys sys' : System} {n : Nat} (hready : sys.Ready)
    (hpc : sys.cpu.pc = 0xCB00#16) (hend : sys.addr2 = 0xFFFF#16) : ¬sys.ReturnsIn n sys' := by
  have hm := hready.shows
  rw [hm.addr2] at hend
  exact hm.never_returns (Machine.list_stays hpc hend) (by omega)

end System

end Sys6
