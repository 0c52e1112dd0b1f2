import Sys6.Monitor.Listing
import Sys6.Monitor.Reaches

/-!
# Output

`PUTCHAR`, `PRINT_NIBBLE`, `PRINT_HEX_BYTE`, and the short pieces of code around them that
print a character, a line end, or the complaint of a failed command.
-/

namespace Sys6

/-- The character of a nibble. -/
def hexDigit (n : Byte) : Byte := if n < 0x0A#8 then n + 0x30#8 else n + 0x37#8

/-- The two characters of a byte, high nibble first. -/
def hexText (b : Byte) : List Byte :=
  [hexDigit (BitVec.ofNat 8 (b.toNat / 16)), hexDigit (b &&& 0x0F#8)]

def crlf : List Byte := [0x0D#8, 0x0A#8]

/-- `?` and a line end. -/
def complaint : List Byte := 0x3F#8 :: crlf

namespace Machine

variable {q : Prop} {m : Machine}

/-- The view after `text` is printed. -/
@[simp] def printed (m : Machine) (text : List Byte) : View := { m.view with out := m.bus.out ++ text }

theorem putChar_returns (hpc : m.pc = 0xC100#16) :
    Returns m 0 q [] Any (m.printed [m.a]) := by
  obtain ⟨a, x, y, sp, p, pc, halted, w, low, stack, high, input, out, tape⟩ := m
  obtain rfl : pc = _ := hpc
  exact .of_rts (by omega) (.finish 1 (by simp))

lemma call_putChar (hl : line m.pc = some ⟨.JSR, .absolute 0xC100#16, .stack⟩) :
    Reaches m 2 m.sp q [] (At (m.pc + 3#16) m.sp Any (m.printed [m.a])) :=
  Returns.call hl (by omega) fun _ _ => putChar_returns rfl

lemma hexDigit_of_lt {n : Byte} (h : n < 0x0A#8) :
    hexDigit n = BitVec.ofNat 8 (adcSum n 0x30#8 false) := by
  rw [hexDigit, if_pos h]
  apply BitVec.eq_of_toNat_eq
  simp [adcSum]

lemma hexDigit_of_le {n : Byte} (h : 0x0A#8 ≤ n) :
    hexDigit n = BitVec.ofNat 8 (adcSum n 0x36#8 true) := by
  rw [hexDigit, if_neg (by bv_omega)]
  apply BitVec.eq_of_toNat_eq
  simp [adcSum]

theorem printNibble_returns (hpc : m.pc = 0xC220#16) :
    Returns m 0 q [] Any (m.printed [hexDigit m.a]) := by
  obtain ⟨a, x, y, sp, p, pc, halted, w, low, stack, high, input, out, tape⟩ := m
  obtain rfl : pc = _ := hpc
  refine .tail (k := 0) (e := []) (by omega) ?_
  refine .via 4 0xC100#16 (fun d _ _ => d = hexDigit a) ⟨x, y, w, low, high, out, tape⟩ ?_ ?_
  · by_cases ha : a < 0x0A#8
    · have ha' : ¬0x0A#8 ≤ a := by bv_omega
      simp [ha', hexDigit_of_lt ha]
    · have ha' : 0x0A#8 ≤ a := by bv_omega
      simp [ha', hexDigit_of_le ha']
  · rintro _ p halted stack input rfl
    exact .refl ⟨rfl, putChar_returns rfl⟩

lemma call_printNibble (hl : line m.pc = some ⟨.JSR, .absolute 0xC220#16, .stack⟩) :
    Reaches m 2 m.sp q [] (At (m.pc + 3#16) m.sp Any (m.printed [hexDigit m.a])) :=
  Returns.call hl (by omega) fun _ _ => printNibble_returns rfl

theorem printHexByte_returns (hpc : m.pc = 0xC200#16) :
    Returns m 3 q [] Any (m.printed (hexText m.a)) := by
  obtain ⟨a, x, y, sp, p, pc, halted, w, low, stack, high, input, out, tape⟩ := m
  obtain rfl : pc = _ := hpc
  have hhigh : BitVec.ofNat 8 (a.toNat / 2 % 256 / 2 % 256 / 2 % 256 / 2) =
      BitVec.ofNat 8 (a.toNat / 16) := by
    congr 1
    omega
  refine .of_rts (by omega) ?_
  refine Reaches.saved (k := 2) (R := Any)
    (v := ⟨x, y, w, low, high, out ++ [hexDigit (BitVec.ofNat 8 (a.toNat / 16))], tape⟩)
    line_C200 line_C208 (by omega) (fun _ _ _ => ?_) fun _ _ _ _ => ?_
  · refine .via 4 0xC205#16 (fun a' _ _ => a' = BitVec.ofNat 8 (a.toNat / 16)) ⟨x, y, w, low, high, out, tape⟩
      (by simp [hhigh]) ?_
    rintro _ p halted stack input rfl
    exact call_printNibble line_C205
  · refine .via 1 0xC20B#16 (fun a' _ _ => a' = a &&& 0x0F#8)
      ⟨x, y, w, low, high, out ++ [hexDigit (BitVec.ofNat 8 (a.toNat / 16))], tape⟩ (by simp) ?_
    rintro _ p halted stack input rfl
    refine .next (call_printNibble line_C20B) (by omega) fun _ _ _ _ _ _ => ?_
    exact .refl ⟨line_C20E, rfl, trivial, by simp [hexText]⟩

lemma call_printHexByte (hl : line m.pc = some ⟨.JSR, .absolute 0xC200#16, .stack⟩) :
    Reaches m 5 m.sp q [] (At (m.pc + 3#16) m.sp Any (m.printed (hexText m.a))) :=
  Returns.call hl (by omega) fun _ _ => printHexByte_returns rfl

/-- `LDA #c` and a call of `PUTCHAR` stand at `pc`. -/
def Emits (pc : Word) (c : Byte) : Prop :=
  line pc = some ⟨.LDA, .immediate c, .plain⟩ ∧
    line (pc + 2#16) = some ⟨.JSR, .absolute 0xC100#16, .stack⟩

lemma emit {c : Byte} (h : Emits m.pc c) :
    Reaches m 2 m.sp q [] (At (m.pc + 5#16) m.sp Any (m.printed [c])) := by
  obtain ⟨a, x, y, sp, p, pc, halted, w, low, stack, high, input, out, tape⟩ := m
  have h5 : pc + 5#16 = pc + 2#16 + 3#16 := by bv_omega
  rw [h5]
  refine .via 1 (pc + 2#16) (fun a' _ _ => a' = c) ⟨x, y, w, low, high, out, tape⟩ (by simp [h.1]) ?_
  rintro _ p halted stack input rfl
  exact call_putChar h.2

lemma Reaches.emit {k : Nat} {c : Byte} {e : List Event} {Q : Machine → Prop}
    (h : Emits m.pc c) (hk : 2 ≤ k)
    (h' : ∀ a p halted stack input, Reaches ⟨a, m.x, m.y, m.sp, p, m.pc + 5#16, halted,
      ⟨m.bus.work, m.bus.low, stack, m.bus.high, input, m.bus.out ++ [c], m.bus.tape⟩⟩ k m.sp q e Q) :
    Reaches m k m.sp q e Q :=
  .next (Machine.emit h) hk fun a p halted stack input _ => h' a p halted stack input

/-- Both characters of a line end. -/
def EmitsCrlf (pc : Word) : Prop := Emits pc 0x0D#8 ∧ Emits (pc + 5#16) 0x0A#8

lemma Reaches.crlf {k : Nat} {e : List Event} {Q : Machine → Prop}
    (h : EmitsCrlf m.pc) (hk : 2 ≤ k)
    (h' : ∀ a p halted stack input, Reaches ⟨a, m.x, m.y, m.sp, p, m.pc + 10#16, halted,
      ⟨m.bus.work, m.bus.low, stack, m.bus.high, input, m.bus.out ++ Sys6.crlf, m.bus.tape⟩⟩ k m.sp q e Q) :
    Reaches m k m.sp q e Q := by
  have h10 : m.pc + 5#16 + 5#16 = m.pc + 10#16 := by bv_omega
  refine .emit h.1 hk fun _ _ _ _ _ => ?_
  refine .emit h.2 hk fun a p halted stack input => ?_
  simpa [h10, Sys6.crlf] using h' a p halted stack input

/-- The failed command's answer, up to what follows it. -/
lemma Reaches.complain {k : Nat} {e : List Event} {Q : Machine → Prop}
    (h : Emits m.pc 0x3F#8) (hcrlf : EmitsCrlf (m.pc + 5#16)) (hk : 2 ≤ k)
    (h' : ∀ a p halted stack input, Reaches ⟨a, m.x, m.y, m.sp, p, m.pc + 15#16, halted,
      ⟨m.bus.work, m.bus.low, stack, m.bus.high, input, m.bus.out ++ complaint, m.bus.tape⟩⟩ k m.sp q e Q) :
    Reaches m k m.sp q e Q := by
  have h15 : m.pc + 5#16 + 10#16 = m.pc + 15#16 := by bv_omega
  refine .emit h hk fun _ _ _ _ _ => ?_
  refine .crlf hcrlf hk fun a p halted stack input => ?_
  simpa [h15, complaint] using h' a p halted stack input

/-- A complaint and an `RTS`. -/
lemma complain_returns (h : Emits m.pc 0x3F#8) (hcrlf : EmitsCrlf (m.pc + 5#16))
    (hrts : line (m.pc + 15#16) = some ⟨.RTS, .implied, .stack⟩) :
    Returns m 2 q [] Any (m.printed complaint) :=
  .of_rts (by omega) (.complain h hcrlf (by omega) fun _ _ _ _ _ => .refl ⟨hrts, rfl, trivial, rfl⟩)

/-- `text` and a zero byte stand in ROM from `addr` on. -/
def RomText (addr : Word) : List Byte → Prop
  | [] => ¬addr.hi < 0xC0#8 ∧ monitor.image (addr - monitor.kRomBase) = 0#8
  | c :: text => ¬addr.hi < 0xC0#8 ∧ monitor.image (addr - monitor.kRomBase) = c ∧ c ≠ 0#8 ∧
      RomText (addr + 1#16) text

/-- From the loop head of `PRINT_STRING` to its `RTS`. -/
lemma printString_loop (text : List Byte) (hpc : m.pc = 0xC302#16)
    (ht : RomText (word m.bus.work.strPtrHi m.bus.work.strPtrLo + m.y.setWidth 16) text)
    (hy : m.y.toNat + text.length < 256) :
    Reaches m 2 m.sp q [] (At 0xC30D#16 m.sp Any
      { m.printed text with y := m.y + BitVec.ofNat 8 text.length }) := by
  induction text generalizing m with
  | nil =>
    obtain ⟨a, x, y, sp, p, pc, halted, w, low, stack, high, input, out, tape⟩ := m
    obtain rfl : pc = _ := hpc
    obtain ⟨hrom, hc⟩ := ht
    simp only at hrom hc
    exact .finish 2 (by simp [read_rom hrom, hc])
  | cons c text ih =>
    obtain ⟨a, x, y, sp, p, pc, halted, w, low, stack, high, input, out, tape⟩ := m
    obtain rfl : pc = _ := hpc
    obtain ⟨hrom, hc, hne, ht⟩ := ht
    simp only at hrom hc
    refine .via 2 0xC306#16 (fun a' _ _ => a' = c) ⟨x, y, w, low, high, out, tape⟩
      (by simp [read_rom hrom, hc, hne]) ?_
    rintro c p halted stack input rfl
    refine .next (call_putChar line_C306) le_rfl fun _ _ _ _ _ _ => ?_
    refine .via 2 0xC302#16 Any ⟨x, y + 1#8, w, low, high, out ++ [c], tape⟩ (by simp) fun _ _ _ _ _ _ => ?_
    have hy' : (y + 1#8).toNat = y.toNat + 1 := by
      simp only [List.length_cons] at hy
      bv_omega
    have hnext : word w.strPtrHi w.strPtrLo + y.setWidth 16 + 1#16 =
        word w.strPtrHi w.strPtrLo + (y + 1#8).setWidth 16 := by
      have : (y + 1#8).setWidth 16 = y.setWidth 16 + 1#16 := by bv_omega
      rw [this, BitVec.add_assoc]
    have hlen : y + 1#8 + BitVec.ofNat 8 text.length = y + BitVec.ofNat 8 (text.length + 1) := by
      rw [BitVec.add_assoc, ← BitVec.ofNat_add, Nat.add_comm]
    rw [hnext] at ht
    simp only [List.length_cons] at hy
    refine Reaches.mono (ih rfl ht (by simp only; omega)) le_rfl id fun m' hm => ⟨hm.pc, hm.sp, trivial, ?_⟩
    rw [hm.view]
    simp [hlen]

theorem printString_returns (text : List Byte) (hpc : m.pc = 0xC300#16)
    (ht : RomText (word m.bus.work.strPtrHi m.bus.work.strPtrLo) text) (hlen : text.length < 256) :
    Returns m 2 q [] Any
      { m.printed text with y := BitVec.ofNat 8 text.length } := by
  obtain ⟨a, x, y, sp, p, pc, halted, w, low, stack, high, input, out, tape⟩ := m
  obtain rfl : pc = _ := hpc
  refine .of_rts (by omega) ?_
  refine .via 1 0xC302#16 Any ⟨x, 0#8, w, low, high, out, tape⟩ (by simp) fun _ _ _ _ _ _ => ?_
  refine .next (printString_loop text rfl (by simpa using ht) (by simpa using hlen)) le_rfl
    fun _ _ _ _ _ _ => ?_
  exact .refl ⟨line_C30D, rfl, trivial, by simp [printed, view]⟩

/-- The text at `PROMPT`. -/
def prompt : List Byte := [0x3E#8, 0x20#8]

lemma romText_prompt : RomText 0xCE0F#16 prompt := by
  simp only [RomText, prompt]
  decide

end Machine

end Sys6
