import Sys6.Monitor.Code

/-!
# The instructions the firmware is made of

Each instruction form the firmware uses, as an update of the machine's record.
-/

namespace Sys6

open Isa (Arch)

/-- The flags after a result `v`. -/
def PFlags.zn (v : Byte) (p : PFlags) : PFlags := { p with z := decide (v = 0#8), n := v.msb }

def PFlags.setC (c : Bool) (p : PFlags) : PFlags := { p with c := c }

def PFlags.setCV (c v : Bool) (p : PFlags) : PFlags := { p with c := c, v := v }

attribute [simp] PFlags.zn PFlags.setC PFlags.setCV Isa.Operand.length

/-- The input after `n` polls. -/
def Input.after (n : Nat) (inp : Input) : Input := Input.poll^[n] inp

@[simp] lemma Input.after_after (a b : Nat) (inp : Input) :
    (inp.after a).after b = inp.after (a + b) := by
  rw [Input.after, Input.after, Input.after, Nat.add_comm, Function.iterate_add_apply]

namespace Board

variable (b : Board) (v : Byte)

/-- `zp` and `setZp` at the workspace cells. -/
@[simp] lemma zp_cells : b.zp 0x40#8 = b.work.lineLen ∧ b.zp 0x41#8 = b.work.linePos ∧
    b.zp 0x42#8 = b.work.tapeLenLo ∧ b.zp 0x43#8 = b.work.tapeLenHi ∧
    b.zp 0x44#8 = b.work.checksum ∧ b.zp 0xF0#8 = b.work.addrLo ∧ b.zp 0xF1#8 = b.work.addrHi ∧
    b.zp 0xF2#8 = b.work.addr2Lo ∧ b.zp 0xF3#8 = b.work.addr2Hi ∧ b.zp 0xF4#8 = b.work.byteVal ∧
    b.zp 0xF5#8 = b.work.scratchLo ∧ b.zp 0xF6#8 = b.work.scratchHi ∧
    b.zp 0xF7#8 = b.work.rowCount ∧ b.zp 0xFC#8 = b.work.strPtrLo ∧
    b.zp 0xFD#8 = b.work.strPtrHi :=
  ⟨rfl, rfl, rfl, rfl, rfl, rfl, rfl, rfl, rfl, rfl, rfl, rfl, rfl, rfl, rfl⟩

@[simp] lemma setZp_cells :
    b.setZp 0x40#8 v = { b with work := { b.work with lineLen := v } } ∧
    b.setZp 0x41#8 v = { b with work := { b.work with linePos := v } } ∧
    b.setZp 0x42#8 v = { b with work := { b.work with tapeLenLo := v } } ∧
    b.setZp 0x43#8 v = { b with work := { b.work with tapeLenHi := v } } ∧
    b.setZp 0x44#8 v = { b with work := { b.work with checksum := v } } ∧
    b.setZp 0xF0#8 v = { b with work := { b.work with addrLo := v } } ∧
    b.setZp 0xF1#8 v = { b with work := { b.work with addrHi := v } } ∧
    b.setZp 0xF2#8 v = { b with work := { b.work with addr2Lo := v } } ∧
    b.setZp 0xF3#8 v = { b with work := { b.work with addr2Hi := v } } ∧
    b.setZp 0xF4#8 v = { b with work := { b.work with byteVal := v } } ∧
    b.setZp 0xF5#8 v = { b with work := { b.work with scratchLo := v } } ∧
    b.setZp 0xF6#8 v = { b with work := { b.work with scratchHi := v } } ∧
    b.setZp 0xF7#8 v = { b with work := { b.work with rowCount := v } } ∧
    b.setZp 0xFC#8 v = { b with work := { b.work with strPtrLo := v } } ∧
    b.setZp 0xFD#8 v = { b with work := { b.work with strPtrHi := v } } :=
  ⟨rfl, rfl, rfl, rfl, rfl, rfl, rfl, rfl, rfl, rfl, rfl, rfl, rfl, rfl, rfl⟩

lemma zp_lineBuf {c : Byte} (h : c < 0x40#8) : b.zp c = b.work.lineBuf c := if_pos h

lemma setZp_lineBuf {c : Byte} (h : c < 0x40#8) : b.setZp c v =
    { b with work := { b.work with lineBuf := Function.update b.work.lineBuf c v } } := by
  have hne : ∀ d : Byte, 0x40#8 ≤ d → c ≠ d := by
    rintro d hd rfl
    bv_omega
  have hwork : isWork c = true := by
    simp only [isWork, Bool.or_eq_true, decide_eq_true_eq]
    exact .inl (.inl (.inl (by bv_omega)))
  unfold setZp
  simp only [if_pos h, hwork, if_true]
  rw [if_neg (hne _ (by decide)), if_neg (hne _ (by decide)), if_neg (hne _ (by decide)),
    if_neg (hne _ (by decide)), if_neg (hne _ (by decide)), if_neg (hne _ (by decide)),
    if_neg (hne _ (by decide)), if_neg (hne _ (by decide)), if_neg (hne _ (by decide)),
    if_neg (hne _ (by decide)), if_neg (hne _ (by decide)), if_neg (hne _ (by decide)),
    if_neg (hne _ (by decide)), if_neg (hne _ (by decide)), if_neg (hne _ (by decide))]

end Board

/-- `TAPE_STATUS`. -/
def Tape.status (t : Tape) : Byte :=
  (if t.backing.isSome then 0x01#8 else 0#8) ||| (if t.motorOn then 0x02#8 else 0#8) |||
  (if t.eot then 0x04#8 else 0#8) ||| (if t.error then 0x08#8 else 0#8)

/-- A write to `TAPE_CONTROL`. -/
def Tape.control (v : Byte) (t : Tape) : Tape :=
  if v &&& 0x02#8 != 0#8 then
    { t with motorOn := v &&& 0x01#8 != 0#8, position := 0, eot := false, error := false }
  else { t with motorOn := v &&& 0x01#8 != 0#8 }

/-- A read of `TAPE_DATA`. -/
def Tape.get (t : Tape) : Byte × Tape :=
  match t.backing, t.motorOn with
  | some backing, true =>
    let r := (backing.seekg t.position).get
    match r.1 with
    | none => (0x00#8, { t with backing := some r.2.clear, eot := true, error := true })
    | some c =>
      (c, { t with backing := some r.2, eot := false, error := false, position := t.position + 1 })
  | _, _ => (0x00#8, { t with error := true })

/-- A write to `TAPE_DATA`. -/
def Tape.put (v : Byte) (t : Tape) : Tape :=
  match t.backing, t.motorOn with
  | some backing, true =>
    { t with
      backing := some ((backing.seekp t.position).put v).flush
      position := t.position + 1
      eot := false
      error := false }
  | _, _ => { t with error := true }

@[simp] lemma byte_sub_eq_zero (a b : Byte) : a - b = 0#8 ↔ a = b := by
  constructor
  · intro h
    bv_omega
  · rintro rfl
    exact BitVec.sub_self a

namespace Machine

@[simp] lemma poll_eq (m : Machine) :
    m.poll = { m with bus := { m.bus with input := m.bus.input.after 1 } } := (rfl)

lemma read_of {m : Machine} {addr : Word} {v : Byte} {b : Board}
    (h : Board.read m.bus addr = (v, b)) : m.read addr = (v, { m with bus := b }) := by
  have h' : BusLike.read m.bus addr = (v, b) := h
  unfold Arch.read
  rw [h']

lemma write_of {m : Machine} {addr : Word} {v : Byte} {b : Board}
    (h : Board.write m.bus addr v = b) : m.write addr v = { m with bus := b } := by
  have h' : BusLike.write m.bus addr v = b := h
  unfold Arch.write
  rw [h']

lemma read_zp (m : Machine) (b : Byte) : m.read (word 0#8 b) = (m.bus.zp b, m) := by
  apply read_of
  unfold Board.read
  rw [word_hi, word_lo, if_pos rfl]

lemma write_zp (m : Machine) (b v : Byte) :
    m.write (word 0#8 b) v = { m with bus := m.bus.setZp b v } := by
  apply write_of
  unfold Board.write
  rw [word_hi, word_lo, if_pos rfl]

lemma read_stack (m : Machine) (b : Byte) : m.read (word 1#8 b) = (m.bus.stack b, m) := by
  apply read_of
  unfold Board.read
  rw [word_hi, word_lo, if_neg (by decide), if_pos rfl]

lemma write_stack (m : Machine) (b v : Byte) : m.write (word 1#8 b) v =
    { m with bus := { m.bus with stack := Function.update m.bus.stack b v } } := by
  apply write_of
  unfold Board.write
  rw [word_hi, word_lo, if_neg (by decide), if_pos rfl]

section Registers

variable (m : Machine) (v : Byte)

@[simp] lemma read_status : m.read 0x8000#16 = (if m.bus.input.ready then 0x03#8 else 0x02#8, m) := by
  obtain ⟨a, x, y, sp, p, pc, h, w, low, stack, high, ⟨ready, byte, polls⟩, out, tape⟩ := m
  cases ready <;> exact read_of rfl

@[simp] lemma read_data : m.read 0x8001#16 = (m.bus.input.byte,
    { m with bus := { m.bus with input := { m.bus.input with ready := false } } }) :=
  read_of rfl

@[simp] lemma read_tapeStatus : m.read 0x8002#16 = (m.bus.tape.status, m) := read_of rfl

@[simp] lemma read_tapeData : m.read 0x8004#16 = (m.bus.tape.get.1,
    { m with bus := { m.bus with tape := m.bus.tape.get.2 } }) := by
  obtain ⟨a, x, y, sp, p, pc, h, w, low, stack, high, input, out, backing, position, motorOn, eot,
    error⟩ := m
  apply read_of
  cases backing with
  | none => rfl
  | some backing =>
    cases motorOn with
    | false => rfl
    | true =>
      have hget : Tape.get ⟨some backing, position, true, eot, error⟩ =
          match ((backing.seekg position).get).1 with
          | none => (0x00#8, ⟨some ((backing.seekg position).get).2.clear, position, true, true, true⟩)
          | some c => (c, ⟨some ((backing.seekg position).get).2, position + 1, true, false, false⟩) :=
        rfl
      have htty : (TTY.readTape 0x0004#16 ⟨out, input.byte, input.ready, some backing, position, true,
          eot, error⟩) =
          match ((backing.seekg position).get).1 with
          | none => (0x00#8, ⟨out, input.byte, input.ready, some ((backing.seekg position).get).2.clear,
              position, true, true, true⟩)
          | some c => (c, ⟨out, input.byte, input.ready, some ((backing.seekg position).get).2,
              position + 1, true, false, false⟩) := (rfl)
      have hread : Board.read ⟨w, low, stack, high, input, out, some backing, position, true, eot,
          error⟩ 0x8004#16 = ((TTY.readTape 0x0004#16 ⟨out, input.byte, input.ready, some backing,
          position, true, eot, error⟩).1, Board.setTty (TTY.readTape 0x0004#16 ⟨out, input.byte,
          input.ready, some backing, position, true, eot, error⟩).2 ⟨w, low, stack, high, input, out,
          some backing, position, true, eot, error⟩) := (rfl)
      simp only [hread, htty, hget]
      cases ((backing.seekg position).get).1 <;> rfl

@[simp] lemma write_data : m.write 0x8001#16 v =
    { m with bus := { m.bus with out := m.bus.out ++ [v] } } :=
  write_of rfl

@[simp] lemma write_tapeControl : m.write 0x8003#16 v =
    { m with bus := { m.bus with tape := m.bus.tape.control v } } := by
  have hw : Board.write m.bus 0x8003#16 v = m.bus.setTty (m.bus.tty.writeTape 0x0003#16 v) := (rfl)
  apply write_of
  rw [hw]
  simp only [TTY.writeTape, Tape.control]
  rw [if_neg (by decide), if_pos trivial]
  split_ifs <;> rfl

@[simp] lemma write_tapeData : m.write 0x8004#16 v =
    { m with bus := { m.bus with tape := m.bus.tape.put v } } := by
  obtain ⟨a, x, y, sp, p, pc, h, w, low, stack, high, input, out, backing, position, motorOn, eot,
    error⟩ := m
  apply write_of
  cases backing with
  | none => rfl
  | some backing => cases motorOn <;> rfl

end Registers

/-! ## The instructions -/

section Exec

variable (m : Machine) (b v : Byte) (w : Word)

@[simp] lemma exec_lda_imm : exec .LDA (.immediate v) m = { m with a := v, p := m.p.zn v } := (rfl)

@[simp] lemma exec_ldx_imm : exec .LDX (.immediate v) m = { m with x := v, p := m.p.zn v } := (rfl)

@[simp] lemma exec_ldy_imm : exec .LDY (.immediate v) m = { m with y := v, p := m.p.zn v } := (rfl)

@[simp] lemma exec_lda_zp :
    exec .LDA (.zeroPage b) m = { m with a := m.bus.zp b, p := m.p.zn (m.bus.zp b) } := by
  show Isa.exec .LDA (.zeroPage b) m = _
  simp only [Isa.exec, Arch.onValue, Arch.operandValue, Arch.address, read_zp]
  rfl

@[simp] lemma exec_ldx_zp :
    exec .LDX (.zeroPage b) m = { m with x := m.bus.zp b, p := m.p.zn (m.bus.zp b) } := by
  show Isa.exec .LDX (.zeroPage b) m = _
  simp only [Isa.exec, Arch.onValue, Arch.operandValue, Arch.address, read_zp]
  rfl

@[simp] lemma exec_lda_zpx : exec .LDA (.zeroPageX b) m =
    { m with a := m.bus.zp (b + m.x), p := m.p.zn (m.bus.zp (b + m.x)) } := by
  show Isa.exec .LDA (.zeroPageX b) m = _
  simp only [Isa.exec, Arch.onValue, Arch.operandValue, Arch.address, read_zp]
  rfl

@[simp] lemma exec_lda_abs : exec .LDA (.absolute w) m =
    { (m.read w).2 with a := (m.read w).1, p := (m.read w).2.p.zn (m.read w).1 } := (rfl)

/-- A load through a pointer in page 0. -/
@[simp] lemma exec_lda_indY : exec .LDA (.indirectY b) m =
    let r := m.read (word (m.bus.zp (b + 1#8)) (m.bus.zp b) + m.y.setWidth 16)
    { r.2 with a := r.1, p := r.2.p.zn r.1 } := by
  show Isa.exec .LDA (.indirectY b) m = _
  simp only [Isa.exec, Arch.onValue, Arch.operandValue, Arch.address, Arch.pointer, read_zp]
  rfl

@[simp] lemma exec_sta_zp : exec .STA (.zeroPage b) m = { m with bus := m.bus.setZp b m.a } := by
  show Isa.exec .STA (.zeroPage b) m = _
  simp only [Isa.exec, Arch.store, Arch.address, write_zp]

@[simp] lemma exec_stx_zp : exec .STX (.zeroPage b) m = { m with bus := m.bus.setZp b m.x } := by
  show Isa.exec .STX (.zeroPage b) m = _
  simp only [Isa.exec, Arch.store, Arch.address, write_zp]

@[simp] lemma exec_sta_zpx :
    exec .STA (.zeroPageX b) m = { m with bus := m.bus.setZp (b + m.x) m.a } := by
  show Isa.exec .STA (.zeroPageX b) m = _
  simp only [Isa.exec, Arch.store, Arch.address, write_zp]

@[simp] lemma exec_sta_abs : exec .STA (.absolute w) m = m.write w m.a := (rfl)

@[simp] lemma exec_sta_indY : exec .STA (.indirectY b) m =
    m.write (word (m.bus.zp (b + 1#8)) (m.bus.zp b) + m.y.setWidth 16) m.a := by
  show Isa.exec .STA (.indirectY b) m = _
  simp only [Isa.exec, Arch.store, Arch.address, Arch.pointer, read_zp]

@[simp] lemma exec_and_imm :
    exec .AND (.immediate v) m = { m with a := m.a &&& v, p := m.p.zn (m.a &&& v) } := (rfl)

@[simp] lemma exec_ora_zp : exec .ORA (.zeroPage b) m =
    { m with a := m.a ||| m.bus.zp b, p := m.p.zn (m.a ||| m.bus.zp b) } := by
  show Isa.exec .ORA (.zeroPage b) m = _
  simp only [Isa.exec, Arch.onValue, Arch.operandValue, Arch.address, read_zp]
  rfl

@[simp] lemma exec_eor_zp : exec .EOR (.zeroPage b) m =
    { m with a := m.a ^^^ m.bus.zp b, p := m.p.zn (m.a ^^^ m.bus.zp b) } := by
  show Isa.exec .EOR (.zeroPage b) m = _
  simp only [Isa.exec, Arch.onValue, Arch.operandValue, Arch.address, read_zp]
  rfl

@[simp] lemma exec_cmp_imm : exec .CMP (.immediate v) m =
    { m with p := (m.p.setC (decide (v ≤ m.a))).zn (m.a - v) } := (rfl)

@[simp] lemma exec_cpx_imm : exec .CPX (.immediate v) m =
    { m with p := (m.p.setC (decide (v ≤ m.x))).zn (m.x - v) } := (rfl)

@[simp] lemma exec_cmp_zp : exec .CMP (.zeroPage b) m =
    { m with p := (m.p.setC (decide (m.bus.zp b ≤ m.a))).zn (m.a - m.bus.zp b) } := by
  show Isa.exec .CMP (.zeroPage b) m = _
  simp only [Isa.exec, Arch.onValue, Arch.operandValue, Arch.address, read_zp]
  rfl

@[simp] lemma exec_cpx_zp : exec .CPX (.zeroPage b) m =
    { m with p := (m.p.setC (decide (m.bus.zp b ≤ m.x))).zn (m.x - m.bus.zp b) } := by
  show Isa.exec .CPX (.zeroPage b) m = _
  simp only [Isa.exec, Arch.onValue, Arch.operandValue, Arch.address, read_zp]
  rfl

/-- The sum with the carry, and whether the signed sum overflows. -/
def adcSum (a v : Byte) (c : Bool) : Nat := a.toNat + v.toNat + c.toNat

def adcOverflow (a v : Byte) (c : Bool) : Bool :=
  let signed : Int := a.toInt + v.toInt + c.toNat
  decide (signed < -128 ∨ 127 < signed)

/-- The difference with the borrow, and whether the signed difference overflows. -/
def sbcDiff (a v : Byte) (c : Bool) : Int := a.toNat - v.toNat - ((1 - c.toNat : Nat) : Int)

def sbcOverflow (a v : Byte) (c : Bool) : Bool :=
  let signed : Int := a.toInt - v.toInt - ((1 - c.toNat : Nat) : Int)
  decide (signed < -128 ∨ 127 < signed)

@[simp] lemma exec_adc_imm : exec .ADC (.immediate v) m =
    { m with
      a := BitVec.ofNat 8 (adcSum m.a v m.p.c)
      p := (m.p.setCV (decide (256 ≤ adcSum m.a v m.p.c)) (adcOverflow m.a v m.p.c)).zn
        (BitVec.ofNat 8 (adcSum m.a v m.p.c)) } := (rfl)

@[simp] lemma exec_sbc_imm : exec .SBC (.immediate v) m =
    { m with
      a := BitVec.ofInt 8 (sbcDiff m.a v m.p.c)
      p := (m.p.setCV (decide (0 ≤ sbcDiff m.a v m.p.c)) (sbcOverflow m.a v m.p.c)).zn
        (BitVec.ofInt 8 (sbcDiff m.a v m.p.c)) } := (rfl)

@[simp] lemma exec_sbc_zp : exec .SBC (.zeroPage b) m =
    { m with
      a := BitVec.ofInt 8 (sbcDiff m.a (m.bus.zp b) m.p.c)
      p := (m.p.setCV (decide (0 ≤ sbcDiff m.a (m.bus.zp b) m.p.c))
        (sbcOverflow m.a (m.bus.zp b) m.p.c)).zn
        (BitVec.ofInt 8 (sbcDiff m.a (m.bus.zp b) m.p.c)) } := by
  show Isa.exec .SBC (.zeroPage b) m = _
  simp only [Isa.exec, Arch.onValue, Arch.operandValue, Arch.address, read_zp]
  rfl

@[simp] lemma exec_lsr_acc : exec .LSR .accumulator m =
    { m with
      a := BitVec.ofNat 8 (m.a.toNat / 2)
      p := (m.p.setC (decide (m.a.toNat % 2 = 1))).zn (BitVec.ofNat 8 (m.a.toNat / 2)) } := (rfl)

@[simp] lemma exec_asl_zp : exec .ASL (.zeroPage b) m =
    { m with
      bus := m.bus.setZp b (BitVec.ofNat 8 (2 * (m.bus.zp b).toNat))
      p := (m.p.setC (decide (256 ≤ 2 * (m.bus.zp b).toNat))).zn
        (BitVec.ofNat 8 (2 * (m.bus.zp b).toNat)) } := by
  show Isa.exec .ASL (.zeroPage b) m = _
  simp only [Isa.exec, Arch.modify, Arch.address, read_zp, Arch.asl, write_zp]
  rfl

@[simp] lemma exec_rol_zp : exec .ROL (.zeroPage b) m =
    { m with
      bus := m.bus.setZp b (BitVec.ofNat 8 (2 * (m.bus.zp b).toNat + m.p.c.toNat))
      p := (m.p.setC (decide (256 ≤ 2 * (m.bus.zp b).toNat))).zn
        (BitVec.ofNat 8 (2 * (m.bus.zp b).toNat + m.p.c.toNat)) } := by
  show Isa.exec .ROL (.zeroPage b) m = _
  simp only [Isa.exec, Arch.modify, Arch.address, read_zp, Arch.rol, write_zp]
  rfl

@[simp] lemma exec_inc_zp : exec .INC (.zeroPage b) m =
    { m with bus := m.bus.setZp b (m.bus.zp b + 1#8), p := m.p.zn (m.bus.zp b + 1#8) } := by
  show Isa.exec .INC (.zeroPage b) m = _
  simp only [Isa.exec, Arch.modify, Arch.address, read_zp, write_zp]
  rfl

@[simp] lemma exec_dec_zp : exec .DEC (.zeroPage b) m =
    { m with bus := m.bus.setZp b (m.bus.zp b - 1#8), p := m.p.zn (m.bus.zp b - 1#8) } := by
  show Isa.exec .DEC (.zeroPage b) m = _
  simp only [Isa.exec, Arch.modify, Arch.address, read_zp, write_zp]
  rfl

@[simp] lemma exec_inx : exec .INX .implied m = { m with x := m.x + 1#8, p := m.p.zn (m.x + 1#8) } := (rfl)

@[simp] lemma exec_dex : exec .DEX .implied m = { m with x := m.x - 1#8, p := m.p.zn (m.x - 1#8) } := (rfl)

@[simp] lemma exec_iny : exec .INY .implied m = { m with y := m.y + 1#8, p := m.p.zn (m.y + 1#8) } := (rfl)

@[simp] lemma exec_txs : exec .TXS .implied m = { m with sp := m.x } := (rfl)

@[simp] lemma exec_clc : exec .CLC .implied m = { m with p := m.p.setC false } := (rfl)

@[simp] lemma exec_sec : exec .SEC .implied m = { m with p := m.p.setC true } := (rfl)

/-- The target of a branch, from the address behind it, in a form that evaluates well. -/
def branchTarget (pc : Word) (v : Byte) : Word :=
  BitVec.ofNat 16 ((pc.toNat + v.toNat + if v.toNat < 128 then 0 else 0xFF00) % 0x10000)

lemma add_signExtend (pc : Word) (v : Byte) : pc + v.signExtend 16 = branchTarget pc v := by
  apply BitVec.eq_of_toNat_eq
  rw [branchTarget, BitVec.toNat_add, BitVec.toNat_signExtend, BitVec.msb_eq_decide]
  simp only [BitVec.toNat_setWidth, BitVec.toNat_ofNat]
  have := v.isLt
  by_cases h : v.toNat < 128
  · have h' : ¬128 ≤ v.toNat := by omega
    simp [h, h']
  · have h' : 128 ≤ v.toNat := by omega
    simp only [h, h', if_false, decide_true, if_true]
    omega

lemma exec_branch (taken : Bool) : m.branch (.relative v) taken =
    { m with pc := if taken then branchTarget m.pc v else m.pc } := by
  rw [← add_signExtend]
  cases taken <;> rfl

@[simp] lemma exec_beq : exec .BEQ (.relative v) m =
    { m with pc := if m.p.z then branchTarget m.pc v else m.pc } :=
  exec_branch m v m.p.z

@[simp] lemma exec_bcs : exec .BCS (.relative v) m =
    { m with pc := if m.p.c then branchTarget m.pc v else m.pc } :=
  exec_branch m v m.p.c

@[simp] lemma exec_bne : exec .BNE (.relative v) m =
    { m with pc := if m.p.z then m.pc else branchTarget m.pc v } := by
  refine (exec_branch m v (!m.p.z)).trans ?_
  cases m.p.z <;> rfl

@[simp] lemma exec_bcc : exec .BCC (.relative v) m =
    { m with pc := if m.p.c then m.pc else branchTarget m.pc v } := by
  refine (exec_branch m v (!m.p.c)).trans ?_
  cases m.p.c <;> rfl

@[simp] lemma exec_jmp : exec .JMP (.absolute w) m = { m with pc := w } := (rfl)

/-- The return address on the stack page, high byte first. -/
def pushed (stack : Byte → Byte) (sp : Byte) (w : Word) : Byte → Byte :=
  Function.update (Function.update stack sp w.hi) (sp - 1#8) w.lo

@[simp] lemma exec_jsr : exec .JSR (.absolute w) m =
    { m with
      pc := w
      sp := m.sp - 2#8
      bus := { m.bus with stack := pushed m.bus.stack m.sp (m.pc - 1#16) } } := by
  have hs : m.sp - 1#8 - 1#8 = m.sp - 2#8 := by bv_omega
  show Isa.exec .JSR (.absolute w) m = _
  simp only [Isa.exec, Arch.pushWord, Arch.push, write_stack, hs]
  rfl

@[simp] lemma exec_rts : exec .RTS .implied m =
    { m with
      pc := word (m.bus.stack (m.sp + 2#8)) (m.bus.stack (m.sp + 1#8)) + 1#16
      sp := m.sp + 2#8 } := by
  have hs : m.sp + 1#8 + 1#8 = m.sp + 2#8 := by bv_omega
  show Isa.exec .RTS .implied m = _
  simp only [Isa.exec, Arch.rts, Arch.pullWord, Arch.pull, read_stack, hs]

@[simp] lemma exec_pha : exec .PHA .implied m =
    { m with
      sp := m.sp - 1#8
      bus := { m.bus with stack := Function.update m.bus.stack m.sp m.a } } := by
  show m.push m.a = _
  simp only [Arch.push, write_stack]

@[simp] lemma exec_pla : exec .PLA .implied m =
    { m with
      a := m.bus.stack (m.sp + 1#8)
      sp := m.sp + 1#8
      p := m.p.zn (m.bus.stack (m.sp + 1#8)) } := by
  show m.pull.2.setA m.pull.1 = _
  simp only [Arch.pull, read_stack]
  rfl

end Exec

end Machine

end Sys6
