import Sys6.Monitor.Save
import Sys6.Monitor.Stores

/-!
# LOAD and REWIND

`LOAD` reads a block: the length, the data, which it stores as it comes, and the checksum. It
asks for the error flag after each byte and gives up at the first error.
-/

namespace Sys6

namespace Tape

/-- One byte, if `TAPE_STATUS` shows no error after it. -/
def next (t : Tape) : Option Byte × Tape := (if t.get.2.error then none else some t.get.1, t.get.2)

/-- Up to `n` bytes, before the first error. -/
def takes : Nat → Tape → List Byte × Tape
  | 0, t => ([], t)
  | n + 1, t =>
    match t.next with
    | (none, t') => ([], t')
    | (some b, t') => (b :: (takes n t').1, (takes n t').2)

/-- What `LOAD` makes of the tape: the data it stores, whether it is content with the block, and
the tape behind it. -/
def load (t : Tape) : List Byte × Bool × Tape :=
  match t.next with
  | (none, t) => ([], false, t)
  | (some lo, t) =>
    match t.next with
    | (none, t) => ([], false, t)
    | (some hi, t) =>
      let data := t.takes (word hi lo).toNat
      if data.1.length < (word hi lo).toNat then (data.1, false, data.2)
      else
        match data.2.next with
        | (none, t) => (data.1, false, t)
        | (some sum, t) => (data.1, sum = xorOf 0#8 data.1, t)

@[simp] lemma motorOn_get (t : Tape) : t.get.2.motorOn = t.motorOn := by
  unfold get
  split
  · simp only
    split <;> rfl
  · rfl

lemma motorOn_takes (n : Nat) (t : Tape) : (t.takes n).2.motorOn = t.motorOn := by
  induction n generalizing t with
  | zero => rfl
  | succ n ih =>
    unfold takes
    cases he : t.get.2.error <;> simp [next, he, ih]

/-- Both bytes of the length are there. -/
structure Begins (t : Tape) : Prop where
  low : t.get.2.error = false
  high : t.get.2.get.2.error = false

/-- The length at the start of a block. -/
def blockLen (t : Tape) : Word := word t.get.2.get.1 t.get.1

/-- The data behind the length. -/
def blockData (t : Tape) : List Byte × Tape := t.get.2.get.2.takes t.blockLen.toNat

lemma load_of_low {t : Tape} (h : t.get.2.error = true) : t.load = ([], false, t.get.2) := by
  simp [load, next, h]

lemma load_of_high {t : Tape} (h : t.get.2.error = false) (h' : t.get.2.get.2.error = true) :
    t.load = ([], false, t.get.2.get.2) := by
  simp [load, next, h, h']

lemma load_of_begins {t : Tape} (h : t.Begins) : t.load = (t.blockData.1,
    decide (¬t.blockData.1.length < t.blockLen.toNat ∧ t.blockData.2.get.2.error = false ∧
      t.blockData.2.get.1 = xorOf 0#8 t.blockData.1),
    if t.blockData.1.length < t.blockLen.toNat then t.blockData.2 else t.blockData.2.get.2) := by
  unfold blockData blockLen
  by_cases hshort : (t.get.2.get.2.takes (word t.get.2.get.1 t.get.1).toNat).1.length <
      (word t.get.2.get.1 t.get.1).toNat
  · simp [load, next, h.low, h.high, hshort]
  · cases he : (t.get.2.get.2.takes (word t.get.2.get.1 t.get.1).toNat).2.get.2.error <;>
      simp [load, next, h.low, h.high, hshort, he]

lemma motorOn_load (t : Tape) : t.load.2.2.motorOn = t.motorOn := by
  cases he : t.get.2.error with
  | true => simp [load_of_low he]
  | false =>
    cases he' : t.get.2.get.2.error with
    | true => simp [load_of_high he he']
    | false =>
      rw [load_of_begins ⟨he, he'⟩]
      simp only
      split_ifs <;> simp [blockData, motorOn_takes]

end Tape

lemma word_sub_one (h l : Byte) :
    word h l - 1#16 = if l = 0#8 then word (h - 1#8) (l - 1#8) else word h (l - 1#8) := by
  apply BitVec.eq_of_toNat_eq
  have hh := h.isLt
  have hl := l.isLt
  have hl0 : l = 0#8 ↔ l.toNat = 0 := by
    rw [← BitVec.toNat_inj]
    rfl
  split_ifs with h0
  · rw [hl0] at h0
    rw [BitVec.toNat_sub, word_toNat, word_toNat, BitVec.toNat_sub, BitVec.toNat_sub]
    simp only [BitVec.toNat_ofNat]
    omega
  · rw [hl0] at h0
    rw [BitVec.toNat_sub, word_toNat, word_toNat, BitVec.toNat_sub]
    simp only [BitVec.toNat_ofNat]
    omega

namespace Machine

variable {q : Prop} {m : Machine}

/-! ## READ_TAPE_BYTE -/

/-- The byte read, with C for an error. -/
theorem readTapeByte_returns (hpc : m.pc = 0xD16E#16) : Returns m 1 q []
    (fun a p _ => a = m.bus.tape.get.1 ∧ p.c = m.bus.tape.get.2.error)
    { m.view with tape := m.bus.tape.get.2 } := by
  obtain ⟨a, x, y, sp, p, pc, halted, w, low, stack, high, input, out, tape⟩ := m
  obtain rfl : pc = _ := hpc
  have hst := tape.get.2.status_error
  refine .of_rts (by omega) (.via 1 0xD171#16 (fun a _ _ => a = tape.get.1)
    ⟨x, y, w, low, high, out, tape.get.2⟩ (by simp) ?_)
  rintro _ p halted stack input rfl
  cases he : tape.get.2.error with
  | true =>
    rw [he] at hst
    exact Reaches.saved (k := 0) (R := Any) (v := ⟨x, y, w, low, high, out, tape.get.2⟩)
      line_D171 line_D179 (by omega) (fun _ _ _ => .finish 3 (by simp [hst]))
      fun _ _ _ _ => .finish 1 (by simp)
  | false =>
    rw [he] at hst
    exact Reaches.saved (k := 0) (R := Any) (v := ⟨x, y, w, low, high, out, tape.get.2⟩)
      line_D171 line_D17C (by omega) (fun _ _ _ => .finish 3 (by simp [hst]))
      fun _ _ _ _ => .finish 1 (by simp)

lemma call_readTapeByte (hl : line m.pc = some ⟨.JSR, .absolute 0xD16E#16, .stack⟩) :
    Reaches m 3 m.sp q [] (At (m.pc + 3#16) m.sp
      (fun a p _ => a = m.bus.tape.get.1 ∧ p.c = m.bus.tape.get.2.error)
      { m.view with tape := m.bus.tape.get.2 }) :=
  Returns.call hl (by omega) fun _ _ => readTapeByte_returns rfl

lemma tapeLen_eq_zero (w : Work) : w.tapeLen = 0#16 ↔ w.tapeLenLo ||| w.tapeLenHi = 0#8 := by
  have hlo := w.tapeLenLo.isLt
  rw [Work.tapeLen, BitVec.or_eq_zero_iff, ← BitVec.toNat_inj, ← BitVec.toNat_inj, ← BitVec.toNat_inj,
    word_toNat]
  simp only [BitVec.toNat_ofNat]
  omega

/-- The error exit from the loop. -/
lemma load_error (hpc : m.pc = 0xD121#16) (hlen : m.bus.work.tapeLen ≠ 0#16)
    (he : m.bus.tape.get.2.error = true) :
    Reaches m 3 m.sp q [] (At 0xD150#16 m.sp Any { m.view with tape := m.bus.tape.get.2 }) := by
  obtain ⟨a, x, y, sp, p, pc, halted, w, low, stack, high, input, out, tape⟩ := m
  obtain rfl : pc = _ := hpc
  rw [ne_eq, tapeLen_eq_zero] at hlen
  simp only at hlen he
  refine .via 3 0xD127#16 Any ⟨x, y, w, low, high, out, tape⟩ (by simp [hlen]) fun _ _ _ _ _ _ => ?_
  refine .next (call_readTapeByte line_D127) le_rfl fun _ _ _ _ _ hr => ?_
  exact .finish 1 (by simp [hr.2, he])

/-- A byte is read and added to the checksum. -/
lemma load_byte (hpc : m.pc = 0xD121#16) (hlen : m.bus.work.tapeLen ≠ 0#16)
    (he : m.bus.tape.get.2.error = false) :
    Reaches m 3 m.sp q [] (At 0xD134#16 m.sp (fun a _ _ => a = m.bus.tape.get.1)
      { m.view with
        y := 0#8
        work := { m.bus.work with checksum := m.bus.tape.get.1 ^^^ m.bus.work.checksum }
        tape := m.bus.tape.get.2 }) := by
  obtain ⟨a, x, y, sp, p, pc, halted, w, low, stack, high, input, out, tape⟩ := m
  obtain rfl : pc = _ := hpc
  rw [ne_eq, tapeLen_eq_zero] at hlen
  simp only at hlen he
  refine .via 3 0xD127#16 Any ⟨x, y, w, low, high, out, tape⟩ (by simp [hlen]) fun _ _ _ _ _ _ => ?_
  refine .next (call_readTapeByte line_D127) le_rfl fun a _ _ _ _ hr => ?_
  obtain ⟨rfl, hc⟩ : a = tape.get.1 ∧ _ := hr
  refine .via 1 0xD12C#16 (fun a _ _ => a = tape.get.1) ⟨x, y, w, low, high, out, tape.get.2⟩
    (by simp [hc, he]) ?_
  rintro _ p halted stack input rfl
  exact Reaches.saved (k := 2) (R := Any) (v := ⟨x, y, { w with checksum := tape.get.1 ^^^ w.checksum },
    low, high, out, tape.get.2⟩) line_D12C line_D131 (by omega)
    (fun _ _ _ => .finish 2 (by simp)) fun _ _ _ _ => .finish 1 (by simp)

/-- The byte is stored, the cursor moves on and the length counts down. -/
lemma load_store (hpc : m.pc = 0xD134#16) (hy : m.y = 0#8) (hclear : Clear m.bus.work.addr) :
    Reaches m 0 m.sp q [.access 0xD134#16 m.bus.work.addr m.a] (At 0xD121#16 m.sp Any
      { m.view.stores m.bus.work.addr [m.a] with
        work := (m.bus.work.setAddr (m.bus.work.addr + 1#16)).setTapeLen
          (m.bus.work.tapeLen - 1#16) }) := by
  obtain ⟨a, x, y, sp, p, pc, halted, w, low, stack, high, input, out, tape⟩ := m
  obtain rfl : pc = _ := hpc
  have hsite : 0xD134#16 ∈ cursorSites := by decide
  have hadv : Advances 0xD136#16 := ⟨line_D136, line_D138, line_D13A⟩
  have hdec := word_sub_one w.tapeLenHi w.tapeLenLo
  refine .nextSeen (storeCursor line_D134 hsite hy hclear) le_rfl fun _ _ _ _ _ _ => ?_
  refine .next (advance hadv) le_rfl fun _ _ _ _ _ _ => ?_
  by_cases h0 : w.tapeLenLo = 0#8
  · rw [if_pos h0] at hdec
    exact .finish 5 (by simp [Work.setAddr, eq_true h0, Work.setTapeLen, Work.tapeLen, hdec])
  · rw [if_neg h0] at hdec
    exact .finish 4 (by simp [Work.setAddr, h0, Work.setTapeLen, Work.tapeLen, hdec])

/-- The state after one round of the loop. -/
def loadNext (m : Machine) : View :=
  { m.view.stores m.bus.work.addr [m.bus.tape.get.1] with
    y := 0#8
    work := { (m.bus.work.setAddr (m.bus.work.addr + 1#16)).setTapeLen (m.bus.work.tapeLen - 1#16) with
      checksum := m.bus.tape.get.1 ^^^ m.bus.work.checksum }
    tape := m.bus.tape.get.2 }

/-- One round of the loop at a clear address. -/
lemma load_round (hpc : m.pc = 0xD121#16) (hlen : m.bus.work.tapeLen ≠ 0#16)
    (he : m.bus.tape.get.2.error = false) (hclear : Clear m.bus.work.addr) :
    Reaches m 3 m.sp q [.access 0xD134#16 m.bus.work.addr m.bus.tape.get.1]
      (At 0xD121#16 m.sp Any (loadNext m)) := by
  refine .next (load_byte hpc hlen he) le_rfl fun a _ _ _ _ ha => ?_
  obtain rfl : a = m.bus.tape.get.1 := ha
  exact Reaches.mono (load_store rfl rfl hclear) (by omega) id fun m' hm =>
    ⟨hm.pc, hm.sp, trivial, hm.view⟩

/-- The data of a block of `n` bytes have been stored as far as the tape had them. -/
def Fetched (m : Machine) (n : Nat) (data : List Byte × Tape) (e : List Event) (m' : Machine) :
    Prop :=
  e = sweep 0xD134#16 m.bus.work.addr data.1 ∧
  m'.pc = (if data.1.length < n then 0xD150#16 else 0xD147#16) ∧ m'.sp = m.sp ∧
  ∃ y len, m'.view =
    { m.view.stores m.bus.work.addr data.1 with
      y := y
      work :=
        { (m.bus.work.setAddr (m.bus.work.addr + BitVec.ofNat 16 data.1.length)).setTapeLen len with
          checksum := xorOf m.bus.work.checksum data.1 }
      tape := data.2 }

lemma takes_succ_of_error {tape : Tape} (he : tape.get.2.error = true) (n : Nat) :
    tape.takes (n + 1) = ([], tape.get.2) := by
  simp [Tape.takes, Tape.next, he]

lemma takes_succ_of_ok {tape : Tape} (he : tape.get.2.error = false) (n : Nat) :
    tape.takes (n + 1) = (tape.get.1 :: (tape.get.2.takes n).1, (tape.get.2.takes n).2) := by
  simp [Tape.takes, Tape.next, he]

/-- A round and what is fetched behind it. -/
lemma Fetched.cons {m₁ m' : Machine} {n : Nat} {e : List Event} (he : m.bus.tape.get.2.error = false)
    (hsp : m₁.sp = m.sp) (hview₁ : m₁.view = loadNext m) (h : Fetched m₁ n (m₁.bus.tape.takes n) e m') :
    Fetched m (n + 1) (m.bus.tape.takes (n + 1))
      (.access 0xD134#16 m.bus.work.addr m.bus.tape.get.1 :: e) m' := by
  obtain ⟨hseen, hpc', hsp', y, len, hview⟩ := h
  have hwork : m₁.bus.work = _ := congrArg View.work hview₁
  have htape : m₁.bus.tape = m.bus.tape.get.2 := congrArg View.tape hview₁
  have haddr : m₁.bus.work.addr = m.bus.work.addr + 1#16 := by
    rw [hwork]
    exact word_hi_lo _
  rw [htape] at hseen hpc' hview
  unfold Fetched
  rw [takes_succ_of_ok he]
  refine ⟨?_, hpc'.trans ?_, hsp'.trans hsp, y, len, ?_⟩
  · rw [hseen, haddr]
    rfl
  · simp only [List.length_cons, Nat.add_lt_add_iff_right]
  · rw [hview, haddr, succ_offset, hwork, hview₁]
    simp [loadNext, Work.setTapeLen, Work.setAddr, storesLow, storesHigh, xorOf]

lemma load_loop (n : Nat) (hpc : m.pc = 0xD121#16) (hn : m.bus.work.tapeLen.toNat = n) :
    Does m 3 m.sp q fun e m' => Fetched m n (m.bus.tape.takes n) e m' ∨
      Strays 0xD134#16 m.bus.work.addr (m.bus.tape.takes n).1.length e m' := by
  induction n generalizing m with
  | zero =>
    obtain ⟨a, x, y, sp, p, pc, halted, w, low, stack, high, input, out, tape⟩ := m
    obtain rfl : pc = _ := hpc
    have hlen : w.tapeLen = 0#16 := BitVec.eq_of_toNat_eq hn
    rw [tapeLen_eq_zero] at hlen
    refine .via 3 0xD147#16 Any ⟨x, y, w, low, high, out, tape⟩ (by simp [eq_true hlen])
      fun _ _ _ _ _ _ => ?_
    refine .refl (.inl ⟨rfl, rfl, rfl, y, w.tapeLen, ?_⟩)
    simp [Tape.takes, storesLow, storesHigh, xorOf, Work.setTapeLen, Work.setAddr, Work.tapeLen, Work.addr]
  | succ n ih =>
    have hlen : m.bus.work.tapeLen ≠ 0#16 := by
      intro h0
      rw [h0] at hn
      exact absurd hn (by simp)
    cases he : m.bus.tape.get.2.error with
    | true =>
      refine (load_error hpc hlen he).does fun m' hm => .refl (.inl ?_)
      unfold Fetched
      rw [takes_succ_of_error he]
      refine ⟨rfl, hm.pc.trans (by simp), hm.sp, m.y, m.bus.work.tapeLen, ?_⟩
      rw [hm.view]
      simp [storesLow, storesHigh, xorOf, Work.setTapeLen, Work.setAddr, Work.tapeLen, Work.addr]
    | false =>
      have htakes := takes_succ_of_ok he n
      by_cases hclear : Clear m.bus.work.addr
      · refine (load_round hpc hlen he hclear).does fun m₁ hm => ?_
        have hwork : m₁.bus.work = _ := congrArg View.work hm.view
        have htape : m₁.bus.tape = m.bus.tape.get.2 := congrArg View.tape hm.view
        have haddr : m₁.bus.work.addr = m.bus.work.addr + 1#16 := by
          rw [hwork]
          exact word_hi_lo _
        have hlen₁ : m₁.bus.work.tapeLen = m.bus.work.tapeLen - 1#16 := by
          rw [hwork]
          exact word_hi_lo _
        have hn₁ : m₁.bus.work.tapeLen.toNat = n := by
          rw [hlen₁, BitVec.toNat_sub]
          simp only [BitVec.toNat_ofNat]
          omega
        have hrest := ih hm.pc hn₁
        rw [hm.sp] at hrest
        refine hrest.mono le_rfl id ?_
        rintro e m' (hfetched | hstray)
        · exact .inl (hfetched.cons he hm.sp hm.view)
        · rw [haddr, htape] at hstray
          refine .inr ?_
          rw [htakes, List.length_cons, Nat.add_comm]
          exact hstray.behind (k := 1) (by simp [commandEvent])
      · refine Does.next (load_byte hpc hlen he) le_rfl fun _ _ _ _ _ _ =>
          .refl (.inr ⟨by simp, rfl, rfl, ?_, hclear⟩)
        rw [htakes, List.length_cons, addresses_succ]
        exact List.mem_cons_self

/-- Without a tape there is a complaint. -/
lemma load_start (hpc : m.pc = 0xD100#16) : Reaches m 0 m.sp q [m.visit]
    (At (if m.bus.tape.backing.isSome then 0xD10A#16 else 0xD15E#16) m.sp Any m.view) := by
  obtain ⟨a, x, y, sp, p, pc, halted, w, low, stack, high, input, out, tape⟩ := m
  obtain rfl : pc = _ := hpc
  have hsite : 0xD100#16 ∈ entries := by decide
  have hst := tape.status_present
  refine .entry line_D100 hsite rfl ?_
  cases hb : tape.backing.isSome with
  | true =>
    rw [hb] at hst
    exact .finish 2 (by simp [hst])
  | false =>
    rw [hb] at hst
    exact .finish 3 (by simp [hst])

/-- The motor goes on and the first byte of the length is read. -/
lemma load_low (hpc : m.pc = 0xD10A#16) :
    Reaches m 3 m.sp q [.tapeWrite 0x8003#16 0x01#8 m.bus.tape.motorOn]
      (At (if (m.bus.tape.control 0x01#8).get.2.error then 0xD150#16 else 0xD116#16) m.sp Any
        { m.view with
          work := if (m.bus.tape.control 0x01#8).get.2.error then m.bus.work
            else { m.bus.work with tapeLenLo := (m.bus.tape.control 0x01#8).get.1 }
          tape := (m.bus.tape.control 0x01#8).get.2 }) := by
  obtain ⟨a, x, y, sp, p, pc, halted, w, low, stack, high, input, out, tape⟩ := m
  obtain rfl : pc = _ := hpc
  have hsite : 0xD10C#16 ∉ entries ∧ 0xD10C#16 ∉ cursorSites := by decide
  refine .via 1 0xD10C#16 (fun a _ _ => a = 0x01#8) ⟨x, y, w, low, high, out, tape⟩ (by simp) ?_
  rintro _ p halted stack input rfl
  refine .nextSeen (controlTape 0x01#8 line_D10C hsite rfl rfl) (by omega) fun _ _ _ _ _ _ => ?_
  refine .next (call_readTapeByte line_D10F) le_rfl fun a _ _ _ _ hr => ?_
  obtain ⟨rfl, hc⟩ : a = (tape.control 0x01#8).get.1 ∧ _ := hr
  cases he : (tape.control 0x01#8).get.2.error with
  | true => exact .finish 1 (by simp [hc, he])
  | false => exact .finish 2 (by simp [hc, he])

/-- The second byte of the length. -/
lemma load_high (hpc : m.pc = 0xD116#16) :
    Reaches m 3 m.sp q [] (At (if m.bus.tape.get.2.error then 0xD150#16 else 0xD121#16) m.sp Any
      { m.view with
        work := if m.bus.tape.get.2.error then m.bus.work
          else { m.bus.work with tapeLenHi := m.bus.tape.get.1, checksum := 0#8 }
        tape := m.bus.tape.get.2 }) := by
  obtain ⟨a, x, y, sp, p, pc, halted, w, low, stack, high, input, out, tape⟩ := m
  obtain rfl : pc = _ := hpc
  refine .next (call_readTapeByte line_D116) le_rfl fun a _ _ _ _ hr => ?_
  obtain ⟨rfl, hc⟩ : a = tape.get.1 ∧ _ := hr
  cases he : tape.get.2.error with
  | true => exact .finish 1 (by simp [hc, he])
  | false => exact .finish 4 (by simp [hc, he])

/-- The checksum on the tape against the one of the data. -/
lemma load_verify (hpc : m.pc = 0xD147#16) :
    Reaches m 3 m.sp q [] (At (if m.bus.tape.get.2.error = false ∧ m.bus.tape.get.1 = m.bus.work.checksum
      then 0xD158#16 else 0xD150#16) m.sp Any { m.view with tape := m.bus.tape.get.2 }) := by
  obtain ⟨a, x, y, sp, p, pc, halted, w, low, stack, high, input, out, tape⟩ := m
  obtain rfl : pc = _ := hpc
  refine .next (call_readTapeByte line_D147) le_rfl fun a _ _ _ _ hr => ?_
  obtain ⟨rfl, hc⟩ : a = tape.get.1 ∧ _ := hr
  cases he : tape.get.2.error with
  | true => exact .finish 1 (by simp [hc, he])
  | false =>
    by_cases hsum : tape.get.1 = w.checksum
    · exact .finish 3 (by simp [hc, he, hsum])
    · exact .finish 3 (by simp [hc, he, hsum])

/-- The data and the checksum have been read. -/
def ReadData (m : Machine) (n : Nat) (data : List Byte × Tape) (e : List Event) (m' : Machine) :
    Prop :=
  e = sweep 0xD134#16 m.bus.work.addr data.1 ∧
  m'.pc = (if ¬data.1.length < n ∧ data.2.get.2.error = false ∧ data.2.get.1 = xorOf 0#8 data.1
    then 0xD158#16 else 0xD150#16) ∧ m'.sp = m.sp ∧
  ∃ y cursor len sum, m'.view =
    { m.view.stores m.bus.work.addr data.1 with
      y := y
      work := { (m.bus.work.setAddr cursor).setTapeLen len with checksum := sum }
      tape := if data.1.length < n then data.2 else data.2.get.2 }

lemma load_data (hpc : m.pc = 0xD121#16) (hsum : m.bus.work.checksum = 0#8) :
    Does m 3 m.sp q fun e m' =>
      ReadData m m.bus.work.tapeLen.toNat (m.bus.tape.takes m.bus.work.tapeLen.toNat) e m' ∨
      Strays 0xD134#16 m.bus.work.addr (m.bus.tape.takes m.bus.work.tapeLen.toNat).1.length e m' := by
  refine (load_loop m.bus.work.tapeLen.toNat hpc rfl).bind ?_
  rintro e m₁ (⟨hseen, hpc₁, hsp₁, y, len, hview⟩ | hstray)
  · have hwork : m₁.bus.work = _ := congrArg View.work hview
    have htape : m₁.bus.tape = _ := congrArg View.tape hview
    have hsum₁ : m₁.bus.work.checksum =
        xorOf 0#8 (m.bus.tape.takes m.bus.work.tapeLen.toNat).1 := by
      rw [hwork, hsum]
    by_cases hshort : (m.bus.tape.takes m.bus.work.tapeLen.toNat).1.length < m.bus.work.tapeLen.toNat
    · rw [if_pos hshort] at hpc₁
      refine .refl (.inl ?_)
      unfold ReadData
      rw [if_neg fun h => h.1 hshort, if_pos hshort]
      exact ⟨by rw [hseen, List.append_nil], hpc₁, hsp₁, y, _, len, _, hview⟩
    · rw [if_neg hshort] at hpc₁
      have hverify := load_verify (q := q) hpc₁
      rw [hsp₁, htape, hsum₁] at hverify
      refine hverify.does fun m' hm => .refl (.inl ?_)
      unfold ReadData
      rw [if_neg hshort]
      refine ⟨by rw [hseen]; simp, hm.pc.trans (by simp only [hshort, not_false_eq_true, true_and]), hm.sp,
        y, m.bus.work.addr + BitVec.ofNat 16 (m.bus.tape.takes m.bus.work.tapeLen.toNat).1.length, len,
        xorOf m.bus.work.checksum (m.bus.tape.takes m.bus.work.tapeLen.toNat).1, ?_⟩
      rw [hm.view, hview]
  · refine .refl (.inr ?_)
    rwa [List.append_nil]

/-- The block has been read, and it was good or not. -/
def Read (m : Machine) (r : List Byte × Bool × Tape) (e : List Event) (m' : Machine) : Prop :=
  e = .tapeWrite 0x8003#16 0x01#8 m.bus.tape.motorOn :: sweep 0xD134#16 m.bus.work.addr r.1 ∧
  m'.pc = (if r.2.1 then 0xD158#16 else 0xD150#16) ∧ m'.sp = m.sp ∧
  ∃ y cursor len sum, m'.view =
    { m.view.stores m.bus.work.addr r.1 with
      y := y
      work := { (m.bus.work.setAddr cursor).setTapeLen len with checksum := sum }
      tape := r.2.2 }

lemma load_block (hpc : m.pc = 0xD10A#16) : Does m 3 m.sp q fun e m' =>
    Read m (m.bus.tape.control 0x01#8).load e m' ∨
    Strays 0xD134#16 m.bus.work.addr (m.bus.tape.control 0x01#8).load.1.length e m' := by
  have hlow := load_low (q := q) hpc
  cases he : (m.bus.tape.control 0x01#8).get.2.error with
  | true =>
    rw [he] at hlow
    refine hlow.does fun m' hm => .refl (.inl ?_)
    unfold Read
    rw [Tape.load_of_low he]
    refine ⟨rfl, hm.pc.trans (by simp), hm.sp, m.y, m.bus.work.addr, m.bus.work.tapeLen,
      m.bus.work.checksum, ?_⟩
    rw [hm.view]
    simp [storesLow, storesHigh, Work.setAddr, Work.addr, Work.setTapeLen, Work.tapeLen]
  | false =>
    rw [he] at hlow
    simp only [Bool.false_eq_true, if_false] at hlow
    refine hlow.does fun m₁ hm₁ => ?_
    have hhigh := load_high (q := q) hm₁.pc
    have hwork₁ : m₁.bus.work = _ := congrArg View.work hm₁.view
    have htape₁ : m₁.bus.tape = (m.bus.tape.control 0x01#8).get.2 := congrArg View.tape hm₁.view
    rw [hm₁.sp, htape₁] at hhigh
    cases he' : (m.bus.tape.control 0x01#8).get.2.get.2.error with
    | true =>
      rw [he'] at hhigh
      refine hhigh.does fun m' hm => .refl (.inl ?_)
      unfold Read
      rw [Tape.load_of_high he he']
      refine ⟨rfl, hm.pc.trans (by simp), hm.sp, m.y, m.bus.work.addr,
        word m.bus.work.tapeLenHi (m.bus.tape.control 0x01#8).get.1, m.bus.work.checksum, ?_⟩
      rw [hm.view, hm₁.view, hwork₁]
      simp [storesLow, storesHigh, Work.setAddr, Work.addr, Work.setTapeLen]
    | false =>
      rw [he'] at hhigh
      simp only [Bool.false_eq_true, if_false] at hhigh
      have hload := Tape.load_of_begins ⟨he, he'⟩
      refine hhigh.does fun m₂ hm₂ => ?_
      have hwork₂ : m₂.bus.work = _ := congrArg View.work hm₂.view
      have htape₂ : m₂.bus.tape = (m.bus.tape.control 0x01#8).get.2.get.2 := congrArg View.tape hm₂.view
      rw [hwork₁] at hwork₂
      have haddr : m₂.bus.work.addr = m.bus.work.addr := by
        rw [hwork₂]
        rfl
      have hlen : m₂.bus.work.tapeLen = (m.bus.tape.control 0x01#8).blockLen := by
        rw [hwork₂]
        rfl
      have hdata := load_data (q := q) hm₂.pc (by rw [hwork₂])
      rw [hm₂.sp] at hdata
      rw [haddr, hlen, htape₂] at hdata
      refine hdata.mono le_rfl id ?_
      rintro e m' (⟨hseen, hpc', hsp', y, cursor, len, sum, hview⟩ | hstray)
      · rw [haddr] at hseen hview
        rw [hm₂.view, hm₁.view, hwork₂] at hview
        refine .inl ⟨by rw [hseen, hload]; rfl, hpc'.trans ?_, hsp'.trans hm₂.sp, y, cursor,
          len, sum, hview.trans ?_⟩
        · rw [hload]
          simp only [decide_eq_true_eq]
          rfl
        · rw [hload]
          simp only [Work.setAddr, Work.setTapeLen, Tape.blockData]
          rfl
      · rw [hload]
        exact .inr (hstray.prepend (by simp [commandEvent]))

/-- What `LOAD` has done when it comes back, where the tape gives it `r`. -/
def Loaded (v : View) (r : List Byte × Bool × Tape) (e : List Event) (v' : View) : Prop :=
  e = v.visit 0xD100#16 :: .tapeWrite 0x8003#16 0x01#8 v.tape.motorOn ::
    (sweep 0xD134#16 v.work.addr r.1 ++ [.tapeWrite 0x8003#16 0x00#8 true]) ∧
  ∃ y cursor len sum, v' =
    { v.stores v.work.addr r.1 with
      y := y
      work := { (v.work.setAddr cursor).setTapeLen len with checksum := sum }
      out := v.out ++ if r.2.1 then [] else complaint
      tape := r.2.2.control 0x00#8 }

/-- The motor goes off, with a complaint. -/
lemma load_fails (hpc : m.pc = 0xD150#16) (hmotor : m.bus.tape.motorOn = true) :
    Returns m 2 q [.tapeWrite 0x8003#16 0x00#8 true] Any
      { m.printed complaint with tape := m.bus.tape.control 0x00#8 } := by
  obtain ⟨a, x, y, sp, p, pc, halted, w, low, stack, high, input, out, tape⟩ := m
  obtain rfl : pc = _ := hpc
  have hsite : 0xD152#16 ∉ entries ∧ 0xD152#16 ∉ cursorSites := by decide
  refine .of_rts (by omega) (.via 1 0xD152#16 (fun a _ _ => a = 0x00#8)
    ⟨x, y, w, low, high, out, tape⟩ (by simp) ?_)
  rintro _ p halted stack input rfl
  refine .nextSeen (controlTape 0x00#8 line_D152 hsite hmotor rfl) (by omega) fun _ _ _ _ _ _ => ?_
  refine .via 1 0xD15E#16 Any ⟨x, y, w, low, high, out, tape.control 0x00#8⟩ (by simp)
    fun _ _ _ _ _ _ => ?_
  refine .complain (k := 2) ⟨line_D15E, line_D160⟩
    ⟨⟨line_D163, line_D165⟩, ⟨line_D168, line_D16A⟩⟩ (by omega) fun _ _ _ _ _ => ?_
  exact .refl ⟨line_D16D, rfl, trivial, rfl⟩

/-- The motor goes off. -/
lemma load_succeeds (hpc : m.pc = 0xD158#16) (hmotor : m.bus.tape.motorOn = true) :
    Returns m 0 q [.tapeWrite 0x8003#16 0x00#8 true] Any
      { m.view with tape := m.bus.tape.control 0x00#8 } := by
  obtain ⟨a, x, y, sp, p, pc, halted, w, low, stack, high, input, out, tape⟩ := m
  obtain rfl : pc = _ := hpc
  have hsite : 0xD15A#16 ∉ entries ∧ 0xD15A#16 ∉ cursorSites := by decide
  refine .of_rts (by omega) (.via 1 0xD15A#16 (fun a _ _ => a = 0x00#8)
    ⟨x, y, w, low, high, out, tape⟩ (by simp) ?_)
  rintro _ p halted stack input rfl
  refine .nextSeen (controlTape 0x00#8 line_D15A hsite hmotor rfl) (by omega) fun _ _ _ _ _ _ => ?_
  exact .refl ⟨line_D15D, rfl, trivial, rfl⟩

/-- `LOAD` with a tape in comes back, unless it is about to store at an address that is not clear. -/
theorem load_does (hpc : m.pc = 0xD100#16) (htape : m.bus.tape.backing.isSome) :
    Finishes m 3 q (Loaded m.view (m.bus.tape.control 0x01#8).load) ∨
    Does m 3 m.sp q (Strays 0xD134#16 m.bus.work.addr
      (m.bus.tape.control 0x01#8).load.1.length) := by
  have hblock : Does m 3 m.sp q fun e m' =>
      (∃ e', e = m.visit :: e' ∧ Read m (m.bus.tape.control 0x01#8).load e' m') ∨
      Strays 0xD134#16 m.bus.work.addr (m.bus.tape.control 0x01#8).load.1.length e m' := by
    refine Does.next (load_start hpc) (by omega) fun _ _ _ _ _ _ => ?_
    refine Does.mono (load_block (if_pos htape)) le_rfl id ?_
    rintro e m' (hread | hstray)
    · exact .inl ⟨e, rfl, hread⟩
    · have hvisit : commandEvent m.visit := by
        unfold visit
        rw [hpc]
        exact ⟨by decide, by decide⟩
      exact .inr (hstray.prepend (by simpa using hvisit))
  obtain hread | hstray := hblock.or
  · refine .inl (.tail (by omega) (hread.mono le_rfl id ?_))
    rintro e m' ⟨e', rfl, rfl, hpc', hsp', y, cursor, len, sum, hview⟩
    have hvisit : m.visit = m.view.visit 0xD100#16 := by
      rw [visit, hpc]
      rfl
    have htape' : m'.bus.tape = (m.bus.tape.control 0x01#8).load.2.2 := congrArg View.tape hview
    have hout : m'.bus.out = m.bus.out := congrArg View.out hview
    have hmotor : m'.bus.tape.motorOn = true := by
      rw [htape', Tape.motorOn_load]
      simp
    refine ⟨hsp', ?_⟩
    cases hgood : (m.bus.tape.control 0x01#8).load.2.1 with
    | true =>
      rw [hgood] at hpc'
      refine ((load_succeeds hpc' hmotor).finishes ?_).mono (by omega) id fun _ _ => id
      refine ⟨by rw [hvisit]; rfl, y, cursor, len, sum, ?_⟩
      rw [hview, htape', hgood]
      simp
    | false =>
      rw [hgood] at hpc'
      refine ((load_fails hpc' hmotor).finishes ?_).mono (by omega) id fun _ _ => id
      refine ⟨by rw [hvisit]; rfl, y, cursor, len, sum, ?_⟩
      rw [printed, hview, htape', hout, hgood]
      simp
  · exact .inr hstray

lemma load_complains (hpc : m.pc = 0xD15E#16) : Returns m 2 q [] Any (m.printed complaint) := by
  refine complain_returns ?_ ?_ ?_
  · rw [hpc]
    exact ⟨line_D15E, line_D160⟩
  · rw [hpc]
    exact ⟨⟨line_D163, line_D165⟩, ⟨line_D168, line_D16A⟩⟩
  · rw [hpc]
    exact line_D16D

/-- Without a tape it complains. -/
theorem load_refuses (hpc : m.pc = 0xD100#16) (htape : m.bus.tape.backing.isSome = false) :
    Finishes m 2 q fun e v => e = [m.visit] ∧ v = m.printed complaint := by
  refine .tail (by omega) ?_
  refine Does.next (load_start hpc) (by omega) fun _ _ _ _ _ _ => .refl ⟨rfl, ?_⟩
  exact (load_complains (by simp [htape])).finishes ⟨rfl, rfl⟩

/-! ## REWIND -/

/-- What `REWIND` has done when it comes back. -/
def Rewound (v : View) (e : List Event) (v' : View) : Prop :=
  e = [v.visit 0xD200#16, .tapeWrite 0x8003#16 0x02#8 v.tape.motorOn] ∧
  v' = { v with tape := v.tape.control 0x02#8 }

lemma rewind_start (hpc : m.pc = 0xD200#16) : Reaches m 0 m.sp q [m.visit]
    (At (if m.bus.tape.backing.isSome then 0xD20A#16 else 0xD210#16) m.sp Any m.view) := by
  obtain ⟨a, x, y, sp, p, pc, halted, w, low, stack, high, input, out, tape⟩ := m
  obtain rfl : pc = _ := hpc
  have hsite : 0xD200#16 ∈ entries := by decide
  have hst := tape.status_present
  refine .entry line_D200 hsite rfl ?_
  cases hb : tape.backing.isSome with
  | true =>
    rw [hb] at hst
    exact .finish 2 (by simp [hst])
  | false =>
    rw [hb] at hst
    exact .finish 3 (by simp [hst])

lemma rewind_complains (hpc : m.pc = 0xD210#16) : Returns m 2 q [] Any (m.printed complaint) := by
  refine complain_returns ?_ ?_ ?_
  · rw [hpc]
    exact ⟨line_D210, line_D212⟩
  · rw [hpc]
    exact ⟨⟨line_D215, line_D217⟩, ⟨line_D21A, line_D21C⟩⟩
  · rw [hpc]
    exact line_D21F

/-- The cursor goes back to the start and the motor off. -/
lemma rewind_tape (hpc : m.pc = 0xD20A#16) :
    Returns m 0 q [.tapeWrite 0x8003#16 0x02#8 m.bus.tape.motorOn] Any
      { m.view with tape := m.bus.tape.control 0x02#8 } := by
  obtain ⟨a, x, y, sp, p, pc, halted, w, low, stack, high, input, out, tape⟩ := m
  obtain rfl : pc = _ := hpc
  have hsite : 0xD20C#16 ∉ entries ∧ 0xD20C#16 ∉ cursorSites := by decide
  refine .of_rts (by omega) (.via 1 0xD20C#16 (fun a _ _ => a = 0x02#8)
    ⟨x, y, w, low, high, out, tape⟩ (by simp) ?_)
  rintro _ p halted stack input rfl
  refine .nextSeen (controlTape 0x02#8 line_D20C hsite rfl rfl) le_rfl fun _ _ _ _ _ _ => ?_
  exact .refl ⟨line_D20F, rfl, trivial, rfl⟩

theorem rewind_finishes (hpc : m.pc = 0xD200#16) (htape : m.bus.tape.backing.isSome) :
    Finishes m 0 q (Rewound m.view) := by
  refine .tail (by omega) ?_
  refine Does.next (rewind_start hpc) le_rfl fun _ _ _ _ _ _ => .refl ⟨rfl, ?_⟩
  refine (rewind_tape (if_pos htape)).finishes ?_
  rw [visit, hpc]
  exact ⟨rfl, rfl⟩

theorem rewind_refuses (hpc : m.pc = 0xD200#16) (htape : m.bus.tape.backing.isSome = false) :
    Finishes m 2 q fun e v => e = [m.visit] ∧ v = m.printed complaint := by
  refine .tail (by omega) ?_
  refine Does.next (rewind_start hpc) (by omega) fun _ _ _ _ _ _ => .refl ⟨rfl, ?_⟩
  exact (rewind_complains (by simp [htape])).finishes ⟨rfl, rfl⟩

end Machine

end Sys6
