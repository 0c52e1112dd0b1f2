import Sys6.Monitor.Keyboard

/-!
# Parsing digits

`HEXVAL`, and the two routines that read a run of hex digits at `LINEPOS`: `PARSE_ADDR` reads
as many as there are, `PARSE_BYTE` at most two.
-/

namespace Sys6

/-- The value of a hex digit, upper or lower case. -/
def hexVal (c : Byte) : Option Byte :=
  if 0x30#8 ≤ c ∧ c < 0x3A#8 then some (c - 0x30#8)
  else if 0x41#8 ≤ c ∧ c < 0x47#8 then some (c - 0x37#8)
  else if 0x61#8 ≤ c ∧ c < 0x67#8 then some (c - 0x57#8)
  else none

lemma hexVal_lt {c d : Byte} (h : hexVal c = some d) : d.toNat < 16 := by
  unfold hexVal at h
  split_ifs at h
  all_goals
    cases h
    bv_omega

/-- The values of the digits `text` starts with. -/
def digits : List Byte → List Byte
  | [] => []
  | c :: text =>
    match hexVal c with
    | some d => d :: digits text
    | none => []

lemma length_digits_le (text : List Byte) : (digits text).length ≤ text.length := by
  induction text with
  | nil => simp [digits]
  | cons c text ih =>
    unfold digits
    split <;> simp [ih]

lemma digits_eq_cons {text : List Byte} {d : Byte} {ds : List Byte} (h : digits text = d :: ds) :
    ∃ c rest, text = c :: rest ∧ hexVal c = some d ∧ digits rest = ds := by
  cases text with
  | nil => simp [digits] at h
  | cons c rest =>
    cases hv : hexVal c with
    | none => simp [digits, hv] at h
    | some d' =>
      simp only [digits, hv, List.cons.injEq] at h
      exact ⟨c, rest, rfl, by rw [h.1] at hv; exact hv, h.2⟩

/-- `$F0/$F1` after one more digit. -/
def shiftIn (v : Word) (d : Byte) : Word := 16#16 * v + d.setWidth 16

/-- The address that digits make; only the last four count. -/
def address (ds : List Byte) : Word := ds.foldl shiftIn 0#16

lemma word_zero : word 0#8 0#8 = 0#16 ∧ Word.lo 0#16 = 0#8 ∧ Word.hi 0#16 = 0#8 := by decide

namespace Work

/-- The word in `$F0/$F1`. -/
def addr (w : Work) : Word := word w.addrHi w.addrLo

def setAddr (v : Word) (w : Work) : Work := { w with addrLo := v.lo, addrHi := v.hi }

@[simp] lemma addr_setAddr (v : Word) (w : Work) : (w.setAddr v).addr = v := word_hi_lo v

@[simp] lemma setAddr_setAddr (u v : Word) (w : Work) : (w.setAddr u).setAddr v = w.setAddr v := rfl

end Work

/-- `pre ++ rest` is the line in `LINEBUF`, and `LINEPOS` stands between the two. -/
structure Reading (w : Work) (pre rest : List Byte) : Prop where
  buf : Holds w.lineBuf (pre ++ rest)
  short : (pre ++ rest).length ≤ 64
  len : w.lineLen = BitVec.ofNat 8 (pre ++ rest).length
  pos : w.linePos = BitVec.ofNat 8 pre.length

namespace Reading

variable {w : Work} {pre rest : List Byte} {c : Byte}

lemma length_lt (h : Reading w pre (c :: rest)) : pre.length < 64 := by
  have := h.short
  simp only [List.length_append, List.length_cons] at this
  omega

lemma done (h : Reading w pre []) : w.lineLen ≤ w.linePos := by
  rw [h.len, h.pos, List.append_nil]
  exact BitVec.le_refl _

lemma more (h : Reading w pre (c :: rest)) : ¬w.lineLen ≤ w.linePos := by
  have hshort := h.short
  rw [h.len, h.pos, BitVec.le_def]
  simp only [List.length_append, List.length_cons, BitVec.toNat_ofNat] at hshort ⊢
  omega

lemma char (h : Reading w pre (c :: rest)) : w.lineBuf w.linePos = c := by
  rw [h.pos, h.buf pre.length (by simp)]
  simp

lemma inBuf (h : Reading w pre (c :: rest)) : w.linePos < 0x40#8 := by
  have := h.length_lt
  rw [h.pos, BitVec.lt_def]
  simp only [BitVec.toNat_ofNat]
  omega

/-- Past some characters. -/
lemma skip {u : Work} {text : List Byte} (h : Reading w pre (text ++ rest)) (hbuf : u.lineBuf = w.lineBuf)
    (hlen : u.lineLen = w.lineLen) (hpos : u.linePos = w.linePos + BitVec.ofNat 8 text.length) :
    Reading u (pre ++ text) rest := by
  have happ : pre ++ text ++ rest = pre ++ (text ++ rest) := List.append_assoc pre text rest
  refine ⟨?_, ?_, ?_, ?_⟩
  · rw [happ, hbuf]
    exact h.buf
  · rw [happ]
    exact h.short
  · rw [happ, hlen]
    exact h.len
  · rw [hpos, h.pos, List.length_append, BitVec.ofNat_add]

/-- Past one more character; the other cells may change. -/
lemma step {u : Work} (h : Reading w pre (c :: rest)) (hbuf : u.lineBuf = w.lineBuf)
    (hlen : u.lineLen = w.lineLen) (hpos : u.linePos = w.linePos + 1#8) :
    Reading u (pre ++ [c]) rest :=
  skip (show Reading w pre ([c] ++ rest) from h) hbuf hlen hpos

/-- The other cells play no part. -/
lemma congr {u : Work} (h : Reading w pre rest) (hbuf : u.lineBuf = w.lineBuf)
    (hlen : u.lineLen = w.lineLen) (hpos : u.linePos = w.linePos) : Reading u pre rest :=
  ⟨by rw [hbuf]; exact h.buf, h.short, by rw [hlen]; exact h.len, by rw [hpos]; exact h.pos⟩

end Reading

namespace Machine

variable {q : Prop} {m : Machine}

/-! ## HEXVAL -/

lemma sbc_eq_sub (a v : Byte) : BitVec.ofInt 8 (sbcDiff a v true) = a - v := by
  apply BitVec.eq_of_toNat_eq
  have ha := a.isLt
  have hv := v.isLt
  rw [BitVec.toNat_ofInt, BitVec.toNat_sub]
  simp only [sbcDiff, Bool.toNat_true]
  omega

/-- Carry clear and the value in A, or carry set. -/
def HexResult (v : Option Byte) (a : Byte) (p : PFlags) (_ : Input) : Prop :=
  match v with
  | some d => a = d ∧ p.c = false
  | none => p.c = true

theorem hexVal_returns (hpc : m.pc = 0xC700#16) :
    Returns m 0 q [] (HexResult (hexVal m.a)) m.view := by
  obtain ⟨a, x, y, sp, p, pc, halted, w, low, stack, high, input, out, tape⟩ := m
  obtain rfl : pc = _ := hpc
  refine .of_rts (by omega) ?_
  by_cases h30 : 0x30#8 ≤ a
  · by_cases h3A : 0x3A#8 ≤ a
    · by_cases h41 : 0x41#8 ≤ a
      · by_cases h47 : 0x47#8 ≤ a
        · by_cases h61 : 0x61#8 ≤ a
          · by_cases h67 : 0x67#8 ≤ a
            · have hv : hexVal a = none := by
                rw [hexVal, if_neg (by bv_omega), if_neg (by bv_omega), if_neg (by bv_omega)]
              exact .finish 13 (by simp [h30, h3A, h41, h47, h61, h67, hv, HexResult])
            · have hv : hexVal a = some (a - 0x57#8) := by
                rw [hexVal, if_neg (by bv_omega), if_neg (by bv_omega), if_pos (by bv_omega)]
              exact .finish 15 (by simp [h30, h3A, h41, h47, h61, h67, hv, sbc_eq_sub, HexResult])
          · have hv : hexVal a = none := by
              rw [hexVal, if_neg (by bv_omega), if_neg (by bv_omega), if_neg (by bv_omega)]
            exact .finish 11 (by simp [h30, h3A, h41, h47, h61, hv, HexResult])
        · have hv : hexVal a = some (a - 0x37#8) := by
            rw [hexVal, if_neg (by bv_omega), if_pos (by bv_omega)]
          exact .finish 11 (by simp [h30, h3A, h41, h47, hv, sbc_eq_sub, HexResult])
      · have hv : hexVal a = none := by
          rw [hexVal, if_neg (by bv_omega), if_neg (by bv_omega), if_neg (by bv_omega)]
        exact .finish 7 (by simp [h30, h3A, h41, hv, HexResult])
    · have hv : hexVal a = some (a - 0x30#8) := by
        rw [hexVal, if_pos (by bv_omega)]
      exact .finish 7 (by simp [h30, h3A, hv, sbc_eq_sub, HexResult])
  · have hv : hexVal a = none := by
      rw [hexVal, if_neg (by bv_omega), if_neg (by bv_omega), if_neg (by bv_omega)]
    exact .finish 3 (by simp [h30, hv, HexResult])

lemma call_hexVal (hl : line m.pc = some ⟨.JSR, .absolute 0xC700#16, .stack⟩) :
    Reaches m 2 m.sp q [] (At (m.pc + 3#16) m.sp (HexResult (hexVal m.a)) m.view) :=
  Returns.call hl (by omega) fun _ _ => hexVal_returns rfl

/-! ## PARSE_ADDR -/

lemma word_add_self (h l : Byte) : word h l + word h l =
    word (BitVec.ofNat 8 (2 * h.toNat + (decide (256 ≤ 2 * l.toNat)).toNat))
      (BitVec.ofNat 8 (2 * l.toNat)) := by
  apply BitVec.eq_of_toNat_eq
  have hh := h.isLt
  have hl := l.isLt
  rw [BitVec.toNat_add, word_toNat, word_toNat, BitVec.toNat_ofNat, BitVec.toNat_ofNat]
  by_cases hc : 256 ≤ 2 * l.toNat
  · simp only [hc, decide_true, Bool.toNat_true]
    omega
  · simp only [hc, decide_false, Bool.toNat_false]
    omega

/-- A digit fits under a shifted value. -/
lemma or_digit : ∀ n < 16, ∀ d < 16, BitVec.ofNat 8 d ||| BitVec.ofNat 8 (16 * n) =
    BitVec.ofNat 8 (16 * n + d) := by
  decide

lemma word_or_digit (v : Word) {d : Byte} (hd : d.toNat < 16) :
    d ||| Word.lo (16#16 * v) = (shiftIn v d).lo ∧ Word.hi (16#16 * v) = (shiftIn v d).hi := by
  have hv := v.isLt
  have hlo : Word.lo (16#16 * v) = BitVec.ofNat 8 (16 * (v.toNat % 16)) := by
    apply BitVec.eq_of_toNat_eq
    rw [Word.lo_toNat, BitVec.toNat_mul, BitVec.toNat_ofNat, BitVec.toNat_ofNat]
    omega
  have hsum : (shiftIn v d).toNat = (16 * v.toNat + d.toNat) % 65536 := by
    rw [shiftIn, BitVec.toNat_add, BitVec.toNat_mul, BitVec.toNat_setWidth, BitVec.toNat_ofNat]
    omega
  constructor
  · have hd' : d = BitVec.ofNat 8 d.toNat := by simp
    rw [hlo, hd', or_digit _ (by omega) _ hd, ← hd']
    apply BitVec.eq_of_toNat_eq
    rw [Word.lo_toNat, hsum, BitVec.toNat_ofNat]
    omega
  · apply BitVec.eq_of_toNat_eq
    rw [Word.hi_toNat, Word.hi_toNat, hsum, BitVec.toNat_mul, BitVec.toNat_ofNat]
    omega

/-- `ASL $F0`, `ROL $F1`. -/
lemma shift_addr (h : line m.pc = some ⟨.ASL, .zeroPage 0xF0#8, .plain⟩)
    (h' : line (m.pc + 2#16) = some ⟨.ROL, .zeroPage 0xF1#8, .plain⟩) :
    Reaches m 0 m.sp q [] (At (m.pc + 4#16) m.sp Any
      { m.view with work := m.bus.work.setAddr (m.bus.work.addr + m.bus.work.addr) }) := by
  obtain ⟨a, x, y, sp, p, pc, halted, w, low, stack, high, input, out, tape⟩ := m
  have h4 : pc + 2#16 + 2#16 = pc + 4#16 := by bv_omega
  exact .finish 2 (by simp [h, h', h4, Work.setAddr, Work.addr, word_add_self])

/-- One digit of an address. -/
lemma parseAddr_digit {d : Byte} (hpc : m.pc = 0xC515#16) (ha : m.a = d) (hd : d.toNat < 16) :
    Reaches m 1 m.sp q [] (At 0xC508#16 m.sp Any
      { m.view with work := { m.bus.work.setAddr (shiftIn m.bus.work.addr d) with
          linePos := m.bus.work.linePos + 1#8
          scratchLo := m.bus.work.scratchLo + 1#8 } }) := by
  obtain ⟨a, x, y, sp, p, pc, halted, w, low, stack, high, input, out, tape⟩ := m
  obtain rfl : pc = _ := hpc
  obtain rfl : a = _ := ha
  have h16 : w.addr + w.addr + (w.addr + w.addr) + (w.addr + w.addr + (w.addr + w.addr)) +
      (w.addr + w.addr + (w.addr + w.addr) + (w.addr + w.addr + (w.addr + w.addr))) =
      16#16 * w.addr := by bv_omega
  refine Reaches.saved (k := 0) (R := Any)
    (v := ⟨x, y, w.setAddr (16#16 * w.addr), low, high, out, tape⟩) line_C515
    line_C526 (by omega) (fun _ _ _ => ?_) fun _ _ _ _ => ?_
  · refine .next (shift_addr line_C516 line_C518) le_rfl fun _ _ _ _ _ _ => ?_
    refine .next (shift_addr line_C51A line_C51C) le_rfl fun _ _ _ _ _ _ => ?_
    refine .next (shift_addr line_C51E line_C520) le_rfl fun _ _ _ _ _ _ => ?_
    refine .next (shift_addr line_C522 line_C524) le_rfl fun _ _ _ _ _ _ => ?_
    refine .refl ⟨rfl, rfl, trivial, ?_⟩
    simp [h16]
  · obtain ⟨hlo, hhi⟩ := word_or_digit w.addr hd
    exact .finish 5 (by simp [Work.setAddr, hlo, hhi])

/-- From the loop head of `PARSE_ADDR` to its last digit. -/
lemma parseAddr_loop {pre rest : List Byte} (hpc : m.pc = 0xC508#16)
    (h : Reading m.bus.work pre rest) :
    Reaches m 2 m.sp q [] (At 0xC532#16 m.sp Any
      { m.view with
        x := m.bus.work.linePos + BitVec.ofNat 8 (digits rest).length
        work := { m.bus.work.setAddr ((digits rest).foldl shiftIn m.bus.work.addr) with
          linePos := m.bus.work.linePos + BitVec.ofNat 8 (digits rest).length
          scratchLo := m.bus.work.scratchLo + BitVec.ofNat 8 (digits rest).length } }) := by
  induction rest generalizing m pre with
  | nil =>
    obtain ⟨a, x, y, sp, p, pc, halted, w, low, stack, high, input, out, tape⟩ := m
    obtain rfl : pc = _ := hpc
    exact .finish 3 (by simp [h.done, digits, Work.setAddr, Work.addr])
  | cons c rest ih =>
    obtain ⟨a, x, y, sp, p, pc, halted, w, low, stack, high, input, out, tape⟩ := m
    obtain rfl : pc = _ := hpc
    simp only at h
    refine .via 4 0xC510#16 (fun a' _ _ => a' = c) ⟨w.linePos, y, w, low, high, out, tape⟩
      (by simp [h.more, Board.zp_lineBuf _ h.inBuf, h.char]) ?_
    rintro c p halted stack input rfl
    refine .next (call_hexVal line_C510) le_rfl fun _ _ _ _ _ hr => ?_
    cases hv : hexVal c with
    | none =>
      rw [hv] at hr
      have hcarry : PFlags.c _ = true := hr
      exact .finish 1 (by simp [hcarry, digits, hv, Work.setAddr, Work.addr])
    | some d =>
      rw [hv] at hr
      obtain ⟨ha, hcarry⟩ := hr
      refine .via 1 0xC515#16 (fun a' _ _ => a' = d) ⟨w.linePos, y, w, low, high, out, tape⟩
        (by simp [hcarry, ha]) fun _ _ _ _ _ ha => ?_
      refine .next (parseAddr_digit rfl ha (hexVal_lt hv)) (by omega) fun _ _ _ _ _ _ => ?_
      have h' := h.step (u := { w.setAddr (shiftIn w.addr d) with
        linePos := w.linePos + 1#8, scratchLo := w.scratchLo + 1#8 }) rfl rfl rfl
      refine Reaches.mono (ih rfl h') le_rfl id fun m' hm => ⟨hm.pc, hm.sp, trivial, ?_⟩
      rw [hm.view]
      have hsum : ∀ b : Byte, b + 1#8 + BitVec.ofNat 8 (digits rest).length =
          b + BitVec.ofNat 8 ((digits rest).length + 1) := by
        intro b
        rw [BitVec.ofNat_add]
        bv_omega
      simp [digits, hv, hsum, Work.setAddr, Work.addr]

theorem parseAddr_returns {pre rest : List Byte} (hpc : m.pc = 0xC500#16)
    (h : Reading m.bus.work pre rest) :
    Returns m 2 q [] (fun _ p _ => p.c = decide (digits rest = []))
      { m.view with
        x := m.bus.work.linePos + BitVec.ofNat 8 (digits rest).length
        work := { m.bus.work.setAddr (address (digits rest)) with
          linePos := m.bus.work.linePos + BitVec.ofNat 8 (digits rest).length
          scratchLo := BitVec.ofNat 8 (digits rest).length } } := by
  obtain ⟨a, x, y, sp, p, pc, halted, w, low, stack, high, input, out, tape⟩ := m
  obtain rfl : pc = _ := hpc
  have hstart := h.congr (u := { w with addrLo := 0#8, addrHi := 0#8, scratchLo := 0#8 }) rfl rfl rfl
  refine .of_rts (by omega) ?_
  refine .via 4 0xC508#16 Any ⟨x, y, { w with addrLo := 0#8, addrHi := 0#8, scratchLo := 0#8 }, low, high, out,
    tape⟩ (by simp) fun _ _ _ _ _ _ => ?_
  refine .next (parseAddr_loop rfl hstart) le_rfl fun _ _ _ _ _ _ => ?_
  cases hd : digits rest with
  | nil =>
    exact .finish 3 (by simp [Work.setAddr, Work.addr, address, word_zero])
  | cons d ds =>
    have hlen : ds.length + 1 ≤ 64 := by
      have h1 := length_digits_le rest
      have h2 := h.short
      rw [hd, List.length_cons] at h1
      rw [List.length_append] at h2
      omega
    have hne : BitVec.ofNat 8 (ds.length + 1) ≠ 0#8 := by
      intro h0
      have := congrArg BitVec.toNat h0
      simp only [BitVec.toNat_ofNat] at this
      omega
    exact .finish 3 (by simp [hne, Work.setAddr, Work.addr, address, word_zero])

lemma call_parseAddr {pre rest : List Byte}
    (hl : line m.pc = some ⟨.JSR, .absolute 0xC500#16, .stack⟩) (h : Reading m.bus.work pre rest) :
    Reaches m 4 m.sp q [] (At (m.pc + 3#16) m.sp (fun _ p _ => p.c = decide (digits rest = []))
      { m.view with
        x := m.bus.work.linePos + BitVec.ofNat 8 (digits rest).length
        work := { m.bus.work.setAddr (address (digits rest)) with
          linePos := m.bus.work.linePos + BitVec.ofNat 8 (digits rest).length
          scratchLo := BitVec.ofNat 8 (digits rest).length } }) :=
  Returns.call hl (by omega) fun _ _ => parseAddr_returns rfl h

/-! ## PARSE_BYTE -/

/-- `BYTEVAL` after one more digit. -/
def shiftByte (v d : Byte) : Byte := 16#8 * v + d

/-- The digits of a byte: the first two at most. -/
def byteDigits (text : List Byte) : List Byte := (digits text).take 2

lemma byte_or_digit (v : Byte) {d : Byte} (hd : d.toNat < 16) : d ||| 16#8 * v = shiftByte v d := by
  have hv : 16#8 * v = BitVec.ofNat 8 (16 * (v.toNat % 16)) := by
    apply BitVec.eq_of_toNat_eq
    rw [BitVec.toNat_mul, BitVec.toNat_ofNat, BitVec.toNat_ofNat]
    omega
  have hd' : d = BitVec.ofNat 8 d.toNat := by simp
  rw [shiftByte, hv, hd', or_digit _ (by omega) _ hd, ← hd', Nat.add_comm]
  apply BitVec.eq_of_toNat_eq
  simp only [BitVec.toNat_add, BitVec.toNat_ofNat]
  omega

/-- Four `ASL $F4`, and the digit. -/
lemma parseByte_digit {d : Byte} (hpc : m.pc = 0xC619#16) (ha : m.a = d) (hd : d.toNat < 16) :
    Reaches m 1 m.sp q [] (At 0xC606#16 m.sp Any
      { m.view with work := { m.bus.work with
          byteVal := shiftByte m.bus.work.byteVal d
          linePos := m.bus.work.linePos + 1#8
          scratchLo := m.bus.work.scratchLo + 1#8 } }) := by
  obtain ⟨a, x, y, sp, p, pc, halted, w, low, stack, high, input, out, tape⟩ := m
  obtain rfl : pc = _ := hpc
  obtain rfl : a = _ := ha
  have h16 : BitVec.ofNat 8 (2 * (2 * (2 * (2 * w.byteVal.toNat)) % 256)) = 16#8 * w.byteVal := by
    apply BitVec.eq_of_toNat_eq
    rw [BitVec.toNat_mul, BitVec.toNat_ofNat, BitVec.toNat_ofNat]
    omega
  refine Reaches.saved (k := 0) (R := Any)
    (v := ⟨x, y, { w with byteVal := 16#8 * w.byteVal }, low, high, out, tape⟩) line_C619
    line_C622 (by omega) (fun _ _ _ => ?_) fun _ _ _ _ => ?_
  · exact .finish 4 (by simp [h16])
  · exact .finish 5 (by simp [byte_or_digit w.byteVal hd])

lemma parseByte_full (hpc : m.pc = 0xC606#16) (h2 : 2#8 ≤ m.bus.work.scratchLo) :
    Reaches m 2 m.sp q [] (At 0xC62E#16 m.sp Any m.view) := by
  obtain ⟨a, x, y, sp, p, pc, halted, w, low, stack, high, input, out, tape⟩ := m
  obtain rfl : pc = _ := hpc
  simp only at h2
  exact .finish 3 (by simp [h2])

lemma parseByte_end {pre rest : List Byte} (hpc : m.pc = 0xC606#16)
    (h2 : ¬2#8 ≤ m.bus.work.scratchLo) (h : Reading m.bus.work pre rest) (hd : digits rest = []) :
    Reaches m 2 m.sp q [] (At 0xC62E#16 m.sp Any { m.view with x := m.bus.work.linePos }) := by
  obtain ⟨a, x, y, sp, p, pc, halted, w, low, stack, high, input, out, tape⟩ := m
  obtain rfl : pc = _ := hpc
  simp only at h2 h
  cases rest with
  | nil =>
    exact .finish 6 (by simp [h2, h.done])
  | cons c rest =>
    have hv : hexVal c = none := by
      cases hv : hexVal c with
      | none => rfl
      | some d => simp [digits, hv] at hd
    refine .via 7 0xC614#16 (fun a' _ _ => a' = c) ⟨w.linePos, y, w, low, high, out, tape⟩
      (by simp [h2, h.more, Board.zp_lineBuf _ h.inBuf, h.char]) ?_
    rintro c p halted stack input rfl
    refine .next (call_hexVal line_C614) le_rfl fun _ _ _ _ _ hr => ?_
    rw [hv] at hr
    have hcarry : PFlags.c _ = true := hr
    exact .finish 1 (by simp [hcarry])

lemma parseByte_more {pre rest : List Byte} {c d : Byte} (hpc : m.pc = 0xC606#16)
    (h2 : ¬2#8 ≤ m.bus.work.scratchLo) (h : Reading m.bus.work pre (c :: rest))
    (hv : hexVal c = some d) :
    Reaches m 2 m.sp q [] (At 0xC606#16 m.sp Any
      { m.view with
        x := m.bus.work.linePos
        work := { m.bus.work with
          byteVal := shiftByte m.bus.work.byteVal d
          linePos := m.bus.work.linePos + 1#8
          scratchLo := m.bus.work.scratchLo + 1#8 } }) := by
  obtain ⟨a, x, y, sp, p, pc, halted, w, low, stack, high, input, out, tape⟩ := m
  obtain rfl : pc = _ := hpc
  simp only at h2 h
  refine .via 7 0xC614#16 (fun a' _ _ => a' = c) ⟨w.linePos, y, w, low, high, out, tape⟩
    (by simp [h2, h.more, Board.zp_lineBuf _ h.inBuf, h.char]) ?_
  rintro c p halted stack input rfl
  refine .next (call_hexVal line_C614) le_rfl fun _ _ _ _ _ hr => ?_
  rw [hv] at hr
  obtain ⟨ha, hcarry⟩ := hr
  refine .via 1 0xC619#16 (fun a' _ _ => a' = d) ⟨w.linePos, y, w, low, high, out, tape⟩ (by simp [hcarry, ha])
    fun _ _ _ _ _ ha => ?_
  exact (parseByte_digit rfl ha (hexVal_lt hv)).mono (by omega) id fun _ h => h

lemma parseByte_done (hpc : m.pc = 0xC62E#16) :
    Reaches m 2 m.sp q [] (Leaving m.sp (fun _ p _ => p.c = decide (m.bus.work.scratchLo = 0#8))
      m.view) := by
  obtain ⟨a, x, y, sp, p, pc, halted, w, low, stack, high, input, out, tape⟩ := m
  obtain rfl : pc = _ := hpc
  by_cases h0 : w.scratchLo = 0#8
  · exact .finish 3 (by simp [eq_true h0])
  · exact .finish 3 (by simp [h0])

theorem parseByte_returns {pre rest : List Byte} (hpc : m.pc = 0xC600#16)
    (h : Reading m.bus.work pre rest) :
    Returns m 2 q [] (fun _ p _ => p.c = decide (digits rest = []))
      { m.view with
        x := m.bus.work.linePos + BitVec.ofNat 8 (min (digits rest).length 1)
        work := { m.bus.work with
          byteVal := (byteDigits rest).foldl shiftByte 0#8
          linePos := m.bus.work.linePos + BitVec.ofNat 8 (byteDigits rest).length
          scratchLo := BitVec.ofNat 8 (byteDigits rest).length } } := by
  obtain ⟨a, x, y, sp, p, pc, halted, w, low, stack, high, input, out, tape⟩ := m
  obtain rfl : pc = _ := hpc
  simp only at h
  refine .of_rts (by omega) ?_
  refine .via 3 0xC606#16 Any ⟨x, y, { w with byteVal := 0#8, scratchLo := 0#8 }, low, high, out, tape⟩ (by simp)
    fun _ _ _ _ _ _ => ?_
  have h0 := h.congr (u := { w with byteVal := 0#8, scratchLo := 0#8 }) rfl rfl rfl
  rcases hd : digits rest with _ | ⟨d, ds⟩
  · refine .next (parseByte_end rfl (by simp) h0 hd) le_rfl fun _ _ _ _ _ _ => ?_
    refine (parseByte_done rfl).mono le_rfl id fun m' hm => ⟨hm.line, hm.sp, ?_, ?_⟩
    · rw [hm.result]
      simp
    · rw [hm.view]
      simp [byteDigits, hd]
  · obtain ⟨c, rest', rfl, hv, hd'⟩ := digits_eq_cons hd
    refine .next (parseByte_more rfl (by simp) h0 hv) le_rfl fun _ _ _ _ _ _ => ?_
    have h1 := h0.step (u := { w with
      byteVal := shiftByte 0#8 d, linePos := w.linePos + 1#8, scratchLo := 1#8 }) rfl rfl rfl
    rcases ds with _ | ⟨d', ds⟩
    · refine .next (parseByte_end rfl (by simp) h1 hd') le_rfl fun _ _ _ _ _ _ => ?_
      refine (parseByte_done rfl).mono le_rfl id fun m' hm => ⟨hm.line, hm.sp, ?_, ?_⟩
      · rw [hm.result]
        simp
      · rw [hm.view]
        simp [byteDigits, hd]
    · obtain ⟨c', rest'', rfl, hv', -⟩ := digits_eq_cons hd'
      refine .next (parseByte_more rfl (by simp) h1 hv') le_rfl fun _ _ _ _ _ _ => ?_
      refine .next (parseByte_full rfl (by simp)) le_rfl fun _ _ _ _ _ _ => ?_
      refine (parseByte_done rfl).mono le_rfl id fun m' hm => ⟨hm.line, hm.sp, ?_, ?_⟩
      · rw [hm.result]
        simp
      · rw [hm.view]
        have htwo : w.linePos + 1#8 + 1#8 = w.linePos + 2#8 := by bv_omega
        simp [byteDigits, hd, htwo]

lemma call_parseByte {pre rest : List Byte}
    (hl : line m.pc = some ⟨.JSR, .absolute 0xC600#16, .stack⟩) (h : Reading m.bus.work pre rest) :
    Reaches m 4 m.sp q [] (At (m.pc + 3#16) m.sp (fun _ p _ => p.c = decide (digits rest = []))
      { m.view with
        x := m.bus.work.linePos + BitVec.ofNat 8 (min (digits rest).length 1)
        work := { m.bus.work with
          byteVal := (byteDigits rest).foldl shiftByte 0#8
          linePos := m.bus.work.linePos + BitVec.ofNat 8 (byteDigits rest).length
          scratchLo := BitVec.ofNat 8 (byteDigits rest).length } }) :=
  Returns.call hl (by omega) fun _ _ => parseByte_returns rfl h

end Machine

end Sys6
