import Sys6.Monitor.Calls
import Sys6.Monitor.Print
import Sys6.Monitor.Parse

/-!
# The cursor

The commands walk through memory with the word in `$F0/$F1`, and compare it with the one in
`$F2/$F3`. What a read through it does depends on the address: on the page of the terminal it
may move the tape or free the holding register.
-/

namespace Sys6

open Isa (Arch)

/-- The word in `$F2/$F3`. -/
def Work.addr2 (w : Work) : Word := word w.addr2Hi w.addr2Lo

/-- Off the page of the terminal a read has no effect. -/
def Quiet (addr : Word) : Prop := addr.hi ≠ 0x80#8

/-- Neither I/O, nor stack, nor workspace: no command changes what is there by working. -/
structure Clear (addr : Word) : Prop where
  quiet : Quiet addr
  stack : addr.hi ≠ 0x01#8
  work : addr.hi = 0x00#8 → Board.isWork addr.lo = false

instance (addr : Word) : Decidable (Quiet addr) := inferInstanceAs (Decidable (_ ≠ _))

/-- What is at a clear address. -/
def View.mem (v : View) (addr : Word) : Byte :=
  if addr.hi = 0x00#8 then v.low addr.lo
  else if addr.hi < 0x80#8 then v.high addr
  else if addr.hi < 0xC0#8 then 0xFF#8
  else monitor.image (addr - monitor.kRomBase)

/-- Page 0 off the workspace after a store. -/
def storeLow (addr : Word) (data : Byte) (low : Byte → Byte) : Byte → Byte :=
  if addr.hi = 0x00#8 then Function.update low addr.lo data else low

/-- RAM from page 2 on after a store. -/
def storeHigh (addr : Word) (data : Byte) (high : Word → Byte) : Word → Byte :=
  if addr.hi = 0x00#8 then high
  else if addr.hi < 0x80#8 then Function.update high addr data else high

def storesLow (addr : Word) : List Byte → (Byte → Byte) → Byte → Byte
  | [], low => low
  | b :: bytes, low => storesLow (addr + 1#16) bytes (storeLow addr b low)

def storesHigh (addr : Word) : List Byte → (Word → Byte) → Word → Byte
  | [], high => high
  | b :: bytes, high => storesHigh (addr + 1#16) bytes (storeHigh addr b high)

/-- `bytes` are stored from `addr` on, all at clear addresses. -/
@[simp] def View.stores (addr : Word) (bytes : List Byte) (v : View) : View :=
  { v with low := storesLow addr bytes v.low, high := storesHigh addr bytes v.high }

/-- The visit of an entry. -/
def View.visit (v : View) (pc : Word) : Event := .visit pc v.work.addr v.work.addr2

/-- The accesses at the site `pc` that read or write `bytes` from `a` on. -/
def sweep (pc : Word) (a : Word) : List Byte → List Event
  | [] => []
  | b :: bytes => .access pc a b :: sweep pc (a + 1#16) bytes

/-- The `n` addresses from `a` on. -/
def addresses (a : Word) (n : Nat) : List Word := (List.range n).map fun i => a + BitVec.ofNat 16 i

lemma addresses_succ (a : Word) (n : Nat) : addresses a (n + 1) = a :: addresses (a + 1#16) n := by
  have hnext : ((fun i => a + BitVec.ofNat 16 i) ∘ Nat.succ) = fun i => a + 1#16 + BitVec.ofNat 16 i := by
    funext i
    exact (succ_offset a i).symm
  rw [addresses, List.range_succ_eq_map, List.map_cons, List.map_map, hnext]
  simp [addresses]

lemma addresses_append (a : Word) (k n : Nat) :
    addresses a (k + n) = addresses a k ++ addresses (a + BitVec.ofNat 16 k) n := by
  have hshift : (fun i => a + BitVec.ofNat 16 (k + i)) = fun i => a + BitVec.ofNat 16 k + BitVec.ofNat 16 i := by
    funext i
    rw [BitVec.ofNat_add, BitVec.add_assoc]
  unfold addresses
  rw [List.range_add, List.map_append, List.map_map]
  exact congrArg (_ ++ ·) (congrArg (List.map · (List.range n)) hshift)

lemma View.stores_append (a : Word) (bytes more : List Byte) (v : View) : v.stores a (bytes ++ more) =
    (v.stores a bytes).stores (a + BitVec.ofNat 16 bytes.length) more := by
  induction bytes generalizing a v with
  | nil => simp [storesLow, storesHigh]
  | cons b bytes ih =>
    rw [List.length_cons, ← succ_offset]
    exact ih (a + 1#16) (v.stores a [b])

lemma cursor_sweep (pc a : Word) (bytes : List Byte) :
    (sweep pc a bytes).filterMap Event.cursor = addresses a bytes.length := by
  induction bytes generalizing a with
  | nil => rfl
  | cons b bytes ih =>
    rw [List.length_cons, addresses_succ, ← ih]
    rfl

namespace TTY

lemma readTape_frame (offset : Word) (tty : TTY) :
    (tty.readTape offset).2.out = tty.out ∧ (tty.readTape offset).2.rxByte = tty.rxByte ∧
    (tty.readTape offset).2.tapeMotorOn = tty.tapeMotorOn ∧
    (tty.readTape offset).2.tapeBacking.isSome = tty.tapeBacking.isSome := by
  obtain ⟨out, rxByte, rxReady, backing, position, motorOn, eot, error⟩ := tty
  by_cases h2 : offset = 0x02#16
  · rw [readTape, if_pos h2]
    exact ⟨rfl, rfl, rfl, rfl⟩
  by_cases h3 : offset = 0x03#16
  · rw [readTape, if_neg h2, if_pos h3]
    exact ⟨rfl, rfl, rfl, rfl⟩
  rw [readTape, if_neg h2, if_neg h3]
  cases backing with
  | none => exact ⟨rfl, rfl, rfl, rfl⟩
  | some backing =>
    cases motorOn with
    | false => exact ⟨rfl, rfl, rfl, rfl⟩
    | true =>
      simp only
      split <;> exact ⟨rfl, rfl, rfl, rfl⟩

/-- A read of a register never touches the output, the received byte or the motor, and leaves the
tape in. -/
lemma read_frame (offset : Word) (tty : TTY) :
    (tty.read offset).2.out = tty.out ∧ (tty.read offset).2.rxByte = tty.rxByte ∧
    (tty.read offset).2.tapeMotorOn = tty.tapeMotorOn ∧
    (tty.read offset).2.tapeBacking.isSome = tty.tapeBacking.isSome := by
  unfold read
  by_cases h1 : offset ≤ 1#16
  · rw [if_pos h1]
    unfold readSerial
    split_ifs <;> exact ⟨rfl, rfl, rfl, rfl⟩
  · rw [if_neg h1]
    split_ifs
    · exact readTape_frame offset tty
    · exact ⟨rfl, rfl, rfl, rfl⟩

end TTY

namespace Board

lemma read_of_quiet {addr : Word} (h : Quiet addr) (b : Board) : (b.read addr).2 = b := by
  unfold Board.read
  rw [if_neg (show ¬addr.hi = 0x80#8 from h)]
  split_ifs <;> rfl

/-- A read changes at most `RXRDY` and the tape, which stays in and keeps its motor as it is. -/
lemma read_frame (b : Board) (addr : Word) : ∃ ready tape,
    (b.read addr).2 = { b with input := { b.input with ready := ready }, tape := tape } ∧
    tape.motorOn = b.tape.motorOn ∧ tape.backing.isSome = b.tape.backing.isSome := by
  by_cases h : Quiet addr
  · exact ⟨b.input.ready, b.tape, read_of_quiet h b, rfl, rfl⟩
  · have h80 : addr.hi = 0x80#8 := not_not.mp h
    obtain ⟨hout, hbyte, hmotor, htape⟩ := TTY.read_frame (word 0#8 addr.lo) b.tty
    have hread : (b.read addr).2 = b.setTty (b.tty.read (word 0#8 addr.lo)).2 := by
      unfold Board.read
      rw [h80, if_neg (by decide), if_neg (by decide), if_neg (by decide), if_pos rfl]
    refine ⟨(b.tty.read (word 0#8 addr.lo)).2.rxReady,
      (b.setTty (b.tty.read (word 0#8 addr.lo)).2).tape, hread.trans ?_, hmotor, htape⟩
    unfold setTty
    rw [hout, hbyte]
    rfl

lemma read_of_clear {addr : Word} (h : Clear addr) (b : Board) {v : View} (hlow : v.low = b.low)
    (hhigh : v.high = b.high) : b.read addr = (v.mem addr, b) := by
  have hquiet : ¬addr.hi = 0x80#8 := h.quiet
  unfold Board.read View.mem
  rw [if_neg h.stack, if_neg hquiet, hlow, hhigh]
  split_ifs with h0
  · rw [zp_of_not_isWork (h.work h0)]
  all_goals rfl

lemma write_of_clear {addr : Word} (h : Clear addr) (data : Byte) (b : Board) : b.write addr data =
    { b with low := storeLow addr data b.low, high := storeHigh addr data b.high } := by
  have hquiet : ¬addr.hi = 0x80#8 := h.quiet
  unfold Board.write storeLow storeHigh
  rw [if_neg h.stack, if_neg hquiet]
  split_ifs with h0
  · have hwork := h.work h0
    have hne : ∀ d : Byte, isWork d = true → addr.lo ≠ d := by
      rintro d hd rfl
      rw [hwork] at hd
      cases hd
    have hlt : ¬addr.lo < 0x40#8 := by
      intro hlt
      have h40 : isWork addr.lo = true := by
        simp only [isWork, Bool.or_eq_true, decide_eq_true_eq]
        exact .inl (.inl (.inl (by bv_omega)))
      rw [hwork] at h40
      cases h40
    unfold setZp
    rw [hwork, if_neg hlt, if_neg (hne _ rfl), if_neg (hne _ rfl), if_neg (hne _ rfl), if_neg (hne _ rfl),
      if_neg (hne _ rfl), if_neg (hne _ rfl), if_neg (hne _ rfl), if_neg (hne _ rfl),
      if_neg (hne _ rfl), if_neg (hne _ rfl), if_neg (hne _ rfl), if_neg (hne _ rfl),
      if_neg (hne _ rfl), if_neg (hne _ rfl), if_neg (hne _ rfl)]
    rfl
  all_goals rfl

end Board

lemma Quiet.not_isTapeReg {addr : Word} (h : Quiet addr) : isTapeReg addr = false := by
  have hhi : addr.hi.toNat = addr.toNat / 256 := addr.hi_toNat
  have hne : addr.hi.toNat ≠ 0x80 := fun heq => h (BitVec.eq_of_toNat_eq heq)
  simp only [isTapeReg, Bool.and_eq_false_iff, decide_eq_false_iff_not, BitVec.le_def, BitVec.toNat_ofNat]
  omega

namespace Machine

variable {k : Nat} {s : Byte} {q : Prop} {m : Machine} {Q : List Event → Machine → Prop}

/-- `LDA ($F0),Y` with Y zero. -/
lemma exec_loadCursor (hy : m.y = 0#8) : ∃ data input tape,
    exec .LDA (.indirectY 0xF0#8) { m.poll with pc := m.pc + 2#16 } = ⟨data, m.x, 0#8, m.sp, m.p.zn data,
      m.pc + 2#16, m.halted, ⟨m.bus.work, m.bus.low, m.bus.stack, m.bus.high, input, m.bus.out, tape⟩⟩ ∧
    tape.motorOn = m.bus.tape.motorOn ∧ tape.backing.isSome = m.bus.tape.backing.isSome ∧
    (Quiet m.bus.work.addr → input = m.bus.input.after 1 ∧ tape = m.bus.tape) ∧
    (Clear m.bus.work.addr → data = m.view.mem m.bus.work.addr) := by
  obtain ⟨a, x, y, sp, p, pc, halted, w, low, stack, high, input, out, tape⟩ := m
  obtain rfl : y = _ := hy
  obtain ⟨ready, tape', hframe, hmotor, htape⟩ :=
    Board.read_frame ⟨w, low, stack, high, input.after 1, out, tape⟩ w.addr
  have haddr : word w.addrHi w.addrLo + (0#8).setWidth 16 = w.addr := by
    simp [Work.addr]
  refine ⟨(Board.read ⟨w, low, stack, high, input.after 1, out, tape⟩ w.addr).1,
    { input.after 1 with ready := ready }, tape', ?_, hmotor, htape, fun hquiet => ?_, fun hclear => ?_⟩
  · have hread : ∀ r : Byte × Board, Board.read ⟨w, low, stack, high, input.after 1, out, tape⟩ w.addr = r →
        Arch.read w.addr (⟨a, x, 0#8, sp, p, pc + 2#16, halted, ⟨w, low, stack, high, input.after 1, out,
          tape⟩⟩ : Machine) = (r.1, ⟨a, x, 0#8, sp, p, pc + 2#16, halted, r.2⟩) := fun r h => read_of h
    rw [poll_eq, exec_lda_indY]
    simp only [Board.zp_cells, show 0xF0#8 + 1#8 = 0xF1#8 by decide, haddr, hread _ rfl, hframe]
  · have hb := Board.read_of_quiet hquiet ⟨w, low, stack, high, input.after 1, out, tape⟩
    rw [hframe] at hb
    exact ⟨congrArg Board.input hb, congrArg Board.tape hb⟩
  · exact congrArg Prod.fst (Board.read_of_clear hclear _ rfl rfl)

/-- A load through the cursor. -/
lemma Does.loadCursor (hl : line m.pc = some ⟨.LDA, .indirectY 0xF0#8, .seen⟩)
    (hsite : m.pc ∈ cursorSites)
    (hy : m.y = 0#8) (hd : (s - m.sp).toNat ≤ k) (hq : q → Quiet m.bus.work.addr)
    (h : ∀ data p input tape, tape.motorOn = m.bus.tape.motorOn →
      tape.backing.isSome = m.bus.tape.backing.isSome →
      (Quiet m.bus.work.addr → tape = m.bus.tape) →
      (Clear m.bus.work.addr → data = m.view.mem m.bus.work.addr) →
      Does ⟨data, m.x, 0#8, m.sp, p, m.pc + 2#16, m.halted, ⟨m.bus.work, m.bus.low, m.bus.stack,
        m.bus.high, input, m.bus.out, tape⟩⟩ k s q fun e => Q (.access m.pc m.bus.work.addr data :: e)) :
    Does m k s q Q := by
  obtain ⟨data, input, tape, hexec, hmotor, htape, hquiet, hclear⟩ := exec_loadCursor hy
  have hseen := sees_load hl hsite hy
  rw [hexec] at hseen
  obtain ⟨e, hrest⟩ := h data _ input tape hmotor htape (fun h => (hquiet h).2) hclear
  refine ⟨m.sees ++ e, .one hl hd ?_ (fun h => ?_) ?_⟩
  · rw [show m.pc + (Isa.Operand.indirectY 0xF0#8).length = m.pc + 2#16 from rfl, hexec]
  · rw [show m.pc + (Isa.Operand.indirectY 0xF0#8).length = m.pc + 2#16 from rfl, hexec,
      (hquiet (hq h)).1]
    exact polled_after _ 1
  · rw [show m.pc + (Isa.Operand.indirectY 0xF0#8).length = m.pc + 2#16 from rfl, hexec, hseen]
    exact hrest

/-- A store through the cursor at a clear address. -/
lemma storeCursor (hl : line m.pc = some ⟨.STA, .indirectY 0xF0#8, .seen⟩)
    (hsite : m.pc ∈ cursorSites) (hy : m.y = 0#8) (hclear : Clear m.bus.work.addr) :
    Reaches m 0 m.sp q [.access m.pc m.bus.work.addr m.a] (At (m.pc + 2#16) m.sp Any
      (m.view.stores m.bus.work.addr [m.a])) := by
  have hseen := sees_store hl hsite hy hclear.quiet.not_isTapeReg
  have haddr : word m.bus.work.addrHi m.bus.work.addrLo + (0#8).setWidth 16 = m.bus.work.addr := by
    simp [Work.addr]
  have hexec : exec .STA (.indirectY 0xF0#8) { m.poll with pc := m.pc + 2#16 } =
      { m with
        pc := m.pc + 2#16
        bus := { m.bus with
          low := storeLow m.bus.work.addr m.a m.bus.low
          high := storeHigh m.bus.work.addr m.a m.bus.high
          input := m.bus.input.after 1 } } := by
    rw [poll_eq, exec_sta_indY]
    simp only [Board.zp_cells, show 0xF0#8 + 1#8 = 0xF1#8 by decide, hy, haddr]
    exact write_of (Board.write_of_clear hclear _ _)
  rw [show (.access m.pc m.bus.work.addr m.a : Event) = .access m.pc (word m.bus.work.addrHi
    m.bus.work.addrLo) m.a from rfl, ← hseen, ← List.append_nil m.sees]
  refine .one hl (by simp) ?_ ?_ ?_
  · rw [show m.pc + (Isa.Operand.indirectY 0xF0#8).length = m.pc + 2#16 from rfl, hexec]
  · rw [show m.pc + (Isa.Operand.indirectY 0xF0#8).length = m.pc + 2#16 from rfl, hexec]
    exact fun _ => polled_after _ 1
  · rw [show m.pc + (Isa.Operand.indirectY 0xF0#8).length = m.pc + 2#16 from rfl, hexec]
    exact .refl ⟨rfl, rfl, trivial, rfl⟩

/-- `INC $F0`, and `INC $F1` when that wraps. -/
def Advances (pc : Word) : Prop :=
  line pc = some ⟨.INC, .zeroPage 0xF0#8, .plain⟩ ∧
  line (pc + 2#16) = some ⟨.BNE, .relative 0x02#8, .plain⟩ ∧
  line (pc + 4#16) = some ⟨.INC, .zeroPage 0xF1#8, .plain⟩

lemma advance (h : Advances m.pc) : Reaches m 0 m.sp q [] (At (m.pc + 6#16) m.sp Any
    { m.view with work := m.bus.work.setAddr (m.bus.work.addr + 1#16) }) := by
  obtain ⟨a, x, y, sp, p, pc, halted, w, low, stack, high, input, out, tape⟩ := m
  have h4 : pc + 2#16 + 2#16 = pc + 4#16 := by bv_omega
  have h6 : pc + 4#16 + 2#16 = pc + 6#16 := by bv_omega
  have hto : branchTarget (pc + 4#16) 0x02#8 = pc + 6#16 := by
    rw [← add_signExtend, show (0x02#8).signExtend 16 = 2#16 by decide, h6]
  obtain ⟨h1, h2, h3⟩ := h
  simp only at h1 h2 h3
  have hnext := word_add_one w.addrHi w.addrLo
  by_cases hz : w.addrLo + 1#8 = 0#8
  · rw [if_pos hz] at hnext
    exact .finish 3 (by simp [h1, h2, h3, h4, h6, eq_true hz, Work.setAddr, Work.addr, hnext])
  · rw [if_neg hz] at hnext
    exact .finish 2 (by simp [h1, h2, h4, hz, hto, Work.setAddr, Work.addr, hnext])

/-- The cursor against the word in `$F2/$F3`: the code goes on behind the comparison while the
cursor is not above it. -/
def TestsRange (pc : Word) (d d' : Byte) : Prop :=
  line pc = some ⟨.LDA, .zeroPage 0xF1#8, .plain⟩ ∧
  line (pc + 2#16) = some ⟨.CMP, .zeroPage 0xF3#8, .plain⟩ ∧
  line (pc + 4#16) = some ⟨.BCC, .relative 0x0A#8, .plain⟩ ∧
  line (pc + 6#16) = some ⟨.BNE, .relative d, .plain⟩ ∧
  line (pc + 8#16) = some ⟨.LDA, .zeroPage 0xF0#8, .plain⟩ ∧
  line (pc + 10#16) = some ⟨.CMP, .zeroPage 0xF2#8, .plain⟩ ∧
  line (pc + 12#16) = some ⟨.BEQ, .relative 0x02#8, .plain⟩ ∧
  line (pc + 14#16) = some ⟨.BCS, .relative d', .plain⟩

lemma addr_le_addr2 (w : Work) : w.addr ≤ w.addr2 ↔
    w.addrHi < w.addr2Hi ∨ w.addrHi = w.addr2Hi ∧ w.addrLo ≤ w.addr2Lo := by
  unfold Work.addr Work.addr2
  rw [BitVec.le_def, BitVec.lt_def, BitVec.le_def, word_toNat, word_toNat, ← BitVec.toNat_inj]
  have := w.addrLo.isLt
  have := w.addr2Lo.isLt
  omega

lemma testRange {d d' : Byte} {t : Word} (h : TestsRange m.pc d d')
    (hd : branchTarget (m.pc + 8#16) d = t) (hd' : branchTarget (m.pc + 16#16) d' = t) :
    Reaches m 0 m.sp q [] (At (if m.bus.work.addr ≤ m.bus.work.addr2 then m.pc + 16#16 else t) m.sp
      Any m.view) := by
  obtain ⟨a, x, y, sp, p, pc, halted, w, low, stack, high, input, out, tape⟩ := m
  have hpcs : pc + 2#16 + 2#16 = pc + 4#16 ∧ pc + 4#16 + 2#16 = pc + 6#16 ∧
      pc + 6#16 + 2#16 = pc + 8#16 ∧ pc + 8#16 + 2#16 = pc + 10#16 ∧
      pc + 10#16 + 2#16 = pc + 12#16 ∧ pc + 12#16 + 2#16 = pc + 14#16 ∧
      pc + 14#16 + 2#16 = pc + 16#16 := by
    refine ⟨?_, ?_, ?_, ?_, ?_, ?_, ?_⟩ <;> bv_omega
  have hgo : branchTarget (pc + 6#16) 0x0A#8 = pc + 16#16 ∧
      branchTarget (pc + 14#16) 0x02#8 = pc + 16#16 := by
    rw [← add_signExtend, ← add_signExtend, show (0x0A#8).signExtend 16 = 10#16 by decide,
      show (0x02#8).signExtend 16 = 2#16 by decide]
    constructor <;> bv_omega
  obtain ⟨h1, h2, h3, h4, h5, h6, h7, h8⟩ := h
  simp only at h1 h2 h3 h4 h5 h6 h7 h8 hd hd'
  simp only [addr_le_addr2]
  by_cases hlt : w.addrHi < w.addr2Hi
  · have hle : ¬w.addr2Hi ≤ w.addrHi := by bv_omega
    rw [if_pos (.inl hlt)]
    exact .finish 3 (by simp [h1, h2, h3, hpcs, hgo, hle])
  have hle : w.addr2Hi ≤ w.addrHi := by bv_omega
  by_cases hhi : w.addrHi = w.addr2Hi
  · by_cases hlo : w.addrLo = w.addr2Lo
    · rw [if_pos (.inr ⟨hhi, by bv_omega⟩)]
      exact .finish 7 (by simp [h1, h2, h3, h4, h5, h6, h7, hpcs, hgo, hhi, hlo])
    by_cases hlolt : w.addrLo < w.addr2Lo
    · have hle' : ¬w.addr2Lo ≤ w.addrLo := by bv_omega
      rw [if_pos (.inr ⟨hhi, by bv_omega⟩)]
      exact .finish 8 (by simp [h1, h2, h3, h4, h5, h6, h7, h8, hpcs, hhi, hlo, hle'])
    · have hle' : w.addr2Lo ≤ w.addrLo := by bv_omega
      rw [if_neg (by rintro (h | ⟨-, h⟩); exact hlt h; bv_omega)]
      exact .finish 8 (by simp [h1, h2, h3, h4, h5, h6, h7, h8, hpcs, hhi, hlo, hle', hd'])
  · rw [if_neg (by rintro (h | ⟨h, -⟩); exact hlt h; exact hhi h)]
    exact .finish 4 (by simp [h1, h2, h3, h4, hpcs, hhi, hle, hd])

end Machine

end Sys6
