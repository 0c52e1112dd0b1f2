import Sys6.Monitor.Calls
import Sys6.Monitor.Grammar

/-!
# The numbers of a line

Calls of `PARSE_ADDR` and of `PARSE_BYTE`, wherever `LINEPOS` stands in whatever line.
-/

namespace Sys6

/-- The digits of a text are those of the run of hex characters that it starts with. -/
lemma digits_eq_hexVals (text : List Byte) :
    digits text = hexVals (text.takeWhile fun c => (hexVal c).isSome) := by
  induction text with
  | nil => rfl
  | cons c text ih =>
    cases hc : hexVal c with
    | none => simp [digits, hexVals, hc]
    | some d =>
      simp only [digits, hc, List.takeWhile_cons, Option.isSome_some, if_true]
      rw [ih]
      simp [hexVals, hc]

lemma byteValue_eq (text : List Byte) : (Machine.byteDigits text).foldl Machine.shiftByte 0#8 =
    BitVec.ofNat 8 (hexNumber ((text.takeWhile fun c => (hexVal c).isSome).take 2)) := by
  rw [Machine.byteDigits, digits_eq_hexVals, hexVals, ← List.map_take]
  exact foldl_hexVals (fun _ _ => by simp [Machine.shiftByte]) _ 0

namespace System

/-- `LINELEN` -/
def lineLen (sys : System) : Nat := (sys.ram 0x0040#16).toNat

/-- `LINEPOS` -/
def linePos (sys : System) : Nat := (sys.ram 0x0041#16).toNat

/-- The characters of the line from `LINEPOS` on. -/
def lineRest (sys : System) : List Byte :=
  (List.range (sys.lineLen - sys.linePos)).map fun i => sys.ram (BitVec.ofNat 16 (sys.linePos + i))

/-- The hex digits that stand at `LINEPOS`. -/
def hexRun (sys : System) : List Byte := sys.lineRest.takeWhile fun c => (hexVal c).isSome

/-- RAM is as it was, but for these cells and two bytes below the stack pointer. -/
def Spares (sys : System) (cells : List Word) (sys' : System) : Prop :=
  ∀ addr : Word, addr ∉ cells → (addr.hi = 1#8 → 2 ≤ (sys.cpu.sp - addr.lo).toNat) →
    sys'.ram addr = sys.ram addr

variable {sys : System}

lemma word_zero_ofNat {i : Nat} (hi : i < 256) : word 0#8 (BitVec.ofNat 8 i) = BitVec.ofNat 16 i := by
  apply BitVec.eq_of_toNat_eq
  rw [word_toNat, BitVec.toNat_ofNat, BitVec.toNat_ofNat, BitVec.toNat_ofNat]
  omega

/-- The line and where it is read. -/
lemma reading_line (hlen : sys.lineLen ≤ 64) (hpos : sys.linePos ≤ sys.lineLen) :
    ∃ pre, Reading sys.machine.bus.work pre sys.lineRest := by
  have hline : (List.range sys.linePos).map (fun i => sys.ram (BitVec.ofNat 16 i)) ++ sys.lineRest =
      (List.range sys.lineLen).map fun i => sys.ram (BitVec.ofNat 16 i) := by
    have hsplit : sys.lineLen = sys.linePos + (sys.lineLen - sys.linePos) := by omega
    conv_rhs => rw [hsplit, List.range_add, List.map_append, List.map_map]
    rfl
  refine ⟨(List.range sys.linePos).map fun i => sys.ram (BitVec.ofNat 16 i), ?_, ?_, ?_, ?_⟩
  · rw [hline]
    intro i hi
    have hi' : i < sys.lineLen := by simpa using hi
    rw [List.getElem_map, List.getElem_range, ← word_zero_ofNat (by omega)]
    rfl
  · rw [hline]
    simpa using hlen
  · rw [hline, List.length_map, List.length_range]
    exact (BitVec.ofNat_toNat 8 (sys.ram 0x0040#16)).symm.trans (by simp [lineLen])
  · rw [List.length_map, List.length_range]
    exact (BitVec.ofNat_toNat 8 (sys.ram 0x0041#16)).symm.trans (by simp [linePos])

lemma length_hexRun (hlen : sys.lineLen ≤ 64) (hpos : sys.linePos ≤ sys.lineLen) :
    sys.linePos + sys.hexRun.length ≤ 64 := by
  have hrun : sys.hexRun.length ≤ sys.lineRest.length := (List.takeWhile_sublist _).length_le
  have hrest : sys.lineRest.length = sys.lineLen - sys.linePos := by simp [lineRest]
  omega

lemma Shows.spares {sys' : System} {m m' : Machine} (cells : List Byte) (h : sys.Shows m) (h' : sys'.Shows m')
    (hzp : ∀ c ∉ cells, m'.bus.zp c = m.bus.zp c) (hstack : Scratch 2 m.sp m.bus.stack m'.bus.stack)
    (hhigh : m'.bus.high = m.bus.high) : sys.Spares (cells.map (word 0#8)) sys' := by
  intro addr hnot hdeep
  refine h.ram_eq h' (fun h0 => hzp addr.lo fun hmem => hnot ?_) (fun h1 => hstack addr.lo ?_) (by rw [hhigh])
  · exact List.mem_map.mpr ⟨addr.lo, hmem, by rw [← h0, word_hi_lo]⟩
  · rw [← h.sp]
    exact hdeep h1

/-- `LINEPOS` behind some digits. -/
lemma linePos_add {n : Nat} (h : sys.linePos + n ≤ 64) :
    (sys.machine.bus.work.linePos + BitVec.ofNat 8 n).toNat = sys.linePos + n := by
  have hpos : sys.machine.bus.work.linePos.toNat = sys.linePos := rfl
  rw [BitVec.toNat_add, hpos, BitVec.toNat_ofNat]
  omega

lemma carry_iff {p : PFlags} {text run : List Byte} (hdigits : digits text = hexVals run)
    (hp : p.c = decide (digits text = [])) : p.c = true ↔ run.length = 0 := by
  rw [hp, hdigits, decide_eq_true_eq, List.length_eq_zero_iff]
  exact List.map_eq_nil_iff

/-- What a parser that has taken `n` digits leaves of the machine: the digits are behind `LINEPOS`, C says
whether there were any, and only `cells` have changed. -/
lemma parsed (hready : sys.Ready) (hlen : sys.lineLen ≤ 64) (hpos : sys.linePos ≤ sys.lineLen) {n : Nat}
    (hn : n ≤ sys.hexRun.length) {v : View} (cells : List Byte)
    (hreturns : sys.machine.Returns 2 False [] (fun _ p _ => p.c = decide (digits sys.lineRest = [])) v)
    (htaken : v.work.linePos = sys.machine.bus.work.linePos + BitVec.ofNat 8 n)
    (hcells : ∀ m' : Machine, m'.view = v → ∀ c ∉ cells, m'.bus.zp c = sys.machine.bus.zp c)
    (hkept : v.high = sys.machine.bus.high ∧ v.out = sys.machine.bus.out ∧ v.tape = sys.machine.bus.tape) :
    ∃ k sys' m', sys.ReturnsIn k sys' ∧ sys'.Shows m' ∧ m'.view = v ∧ sys'.linePos = sys.linePos + n ∧
      (sys'.cpu.pFlags.c = true ↔ sys.hexRun.length = 0) ∧ sys.Spares (cells.map (word 0#8)) sys' ∧
      sys'.tty.out = sys.tty.out ∧ sys'.board.tape = sys.board.tape := by
  have hm := hready.shows
  have hrun := length_hexRun hlen hpos
  obtain ⟨hhigh, hout, htape⟩ := hkept
  obtain ⟨k, sys', m', hret, hshows, ⟨hcarry, hview⟩, hscratch⟩ :=
    hm.returned (Q := fun _ m' => m'.p.c = decide (digits sys.lineRest = []) ∧ m'.view = v)
      ⟨[], hreturns.mono le_rfl id fun m' hm' => ⟨hm'.pc, hm'.sp, hm'.result, hm'.view⟩⟩ (by omega)
  refine ⟨k, sys', m', hret, hshows, hview, ?_, ?_, ?_, ?_, ?_⟩
  · have hcell : sys'.ram (word 0#8 0x41#8) = m'.bus.work.linePos := hshows.ram_zp 0x41#8
    have hwork : m'.bus.work = v.work := congrArg View.work hview
    rw [hwork, htaken] at hcell
    rw [← linePos_add (by omega)]
    exact congrArg BitVec.toNat hcell
  · rw [hshows.p]
    exact carry_iff (digits_eq_hexVals sys.lineRest) hcarry
  · exact hm.spares cells hshows (hcells m' hview) hscratch ((congrArg View.high hview).trans hhigh)
  · rw [hshows.out, hm.out]
    exact (congrArg View.out hview).trans hout
  · rw [hshows.board_tape, hm.board_tape]
    exact (congrArg View.tape hview).trans htape

lemma parse_addr (hready : sys.Ready) (hpc : sys.cpu.pc = 0xC500#16) (hlen : sys.lineLen ≤ 64)
    (hpos : sys.linePos ≤ sys.lineLen) : ∃ n sys', sys.ReturnsIn n sys' ∧
      sys'.linePos = sys.linePos + sys.hexRun.length ∧ sys'.addr = BitVec.ofNat 16 (hexNumber sys.hexRun) ∧
      (sys'.cpu.pFlags.c = true ↔ sys.hexRun.length = 0) ∧
      sys.Spares [0x0041#16, 0x00F0#16, 0x00F1#16, 0x00F5#16] sys' ∧
      sys'.tty.out = sys.tty.out ∧ sys'.board.tape = sys.board.tape := by
  obtain ⟨pre, hreading⟩ := reading_line hlen hpos
  have hdigits : digits sys.lineRest = hexVals sys.hexRun := digits_eq_hexVals sys.lineRest
  have hsize : (digits sys.lineRest).length = sys.hexRun.length := by rw [hdigits, hexVals, List.length_map]
  obtain ⟨n, sys', m', hret, hshows, hview, hline, hcarry, hspares, hkept⟩ :=
    parsed hready hlen hpos le_rfl [0x41#8, 0xF0#8, 0xF1#8, 0xF5#8] (Machine.parseAddr_returns hpc hreading)
      (by rw [hsize]) (fun m' hview c hc => by
        have hwork : m'.bus.work = _ := congrArg View.work hview
        have hlow : m'.bus.low = sys.machine.bus.low := congrArg View.low hview
        simp only [List.mem_cons, List.not_mem_nil, or_false, not_or] at hc
        simp [Board.zp, hwork, hlow, hc, Work.setAddr]) ⟨rfl, rfl, rfl⟩
  refine ⟨n, sys', hret, hline, ?_, hcarry, hspares, hkept⟩
  have hwork : m'.bus.work = _ := congrArg View.work hview
  rw [hshows.addr, hwork, ← address_hexVals, ← hdigits]
  exact word_hi_lo _

lemma parse_byte (hready : sys.Ready) (hpc : sys.cpu.pc = 0xC600#16) (hlen : sys.lineLen ≤ 64)
    (hpos : sys.linePos ≤ sys.lineLen) : ∃ n sys', sys.ReturnsIn n sys' ∧
      sys'.linePos = sys.linePos + min sys.hexRun.length 2 ∧
      sys'.ram 0x00F4#16 = BitVec.ofNat 8 (hexNumber (sys.hexRun.take 2)) ∧
      (sys'.cpu.pFlags.c = true ↔ sys.hexRun.length = 0) ∧
      sys.Spares [0x0041#16, 0x00F4#16, 0x00F5#16] sys' ∧
      sys'.tty.out = sys.tty.out ∧ sys'.board.tape = sys.board.tape := by
  obtain ⟨pre, hreading⟩ := reading_line hlen hpos
  have hdigits : digits sys.lineRest = hexVals sys.hexRun := digits_eq_hexVals sys.lineRest
  have hsize : (Machine.byteDigits sys.lineRest).length = min sys.hexRun.length 2 := by
    rw [Machine.byteDigits, hdigits, List.length_take, hexVals, List.length_map, Nat.min_comm]
  obtain ⟨n, sys', m', hret, hshows, hview, hline, hcarry, hspares, hkept⟩ :=
    parsed hready hlen hpos (Nat.min_le_left _ 2) [0x41#8, 0xF4#8, 0xF5#8]
      (Machine.parseByte_returns hpc hreading) (by rw [hsize]) (fun m' hview c hc => by
        have hwork : m'.bus.work = _ := congrArg View.work hview
        have hlow : m'.bus.low = sys.machine.bus.low := congrArg View.low hview
        simp only [List.mem_cons, List.not_mem_nil, or_false, not_or] at hc
        simp [Board.zp, hwork, hlow, hc]) ⟨rfl, rfl, rfl⟩
  refine ⟨n, sys', hret, hline, ?_, hcarry, hspares, hkept⟩
  have hcell : sys'.ram (word 0#8 0xF4#8) = m'.bus.work.byteVal := hshows.ram_zp 0xF4#8
  have hwork : m'.bus.work = _ := congrArg View.work hview
  refine hcell.trans ?_
  rw [hwork]
  exact byteValue_eq sys.lineRest

/-- Only the line counts. -/
lemma hexRun_congr {other : System} (hlen : other.lineLen = sys.lineLen) (hpos : other.linePos = sys.linePos)
    (hline : ∀ i < sys.lineLen, other.ram (BitVec.ofNat 16 i) = sys.ram (BitVec.ofNat 16 i)) :
    other.hexRun = sys.hexRun := by
  have hrest : other.lineRest = sys.lineRest := by
    unfold lineRest
    rw [hlen, hpos]
    refine List.map_congr_left fun i hi => hline _ ?_
    have hi' := List.mem_range.mp hi
    omega
  unfold hexRun
  rw [hrest]

/-- `PARSE_ADDR` and `PARSE_BYTE` take the hex digits at `LINEPOS`, as many as there are and two at the
most, and change nothing but the cells of their result. What stands behind the line does not matter. -/
theorem numbers_parsed (hready : sys.Ready) (hlen : sys.lineLen ≤ 64) (hpos : sys.linePos ≤ sys.lineLen) :
    (sys.cpu.pc = 0xC500#16 → ∃ n sys', sys.ReturnsIn n sys' ∧
      sys'.linePos = sys.linePos + sys.hexRun.length ∧ sys'.addr = BitVec.ofNat 16 (hexNumber sys.hexRun) ∧
      (sys'.cpu.pFlags.c = true ↔ sys.hexRun.length = 0) ∧
      sys.Spares [0x0041#16, 0x00F0#16, 0x00F1#16, 0x00F5#16] sys' ∧
      sys'.tty.out = sys.tty.out ∧ sys'.board.tape = sys.board.tape) ∧
    (sys.cpu.pc = 0xC600#16 → ∃ n sys', sys.ReturnsIn n sys' ∧
      sys'.linePos = sys.linePos + min sys.hexRun.length 2 ∧
      sys'.ram 0x00F4#16 = BitVec.ofNat 8 (hexNumber (sys.hexRun.take 2)) ∧
      (sys'.cpu.pFlags.c = true ↔ sys.hexRun.length = 0) ∧
      sys.Spares [0x0041#16, 0x00F4#16, 0x00F5#16] sys' ∧
      sys'.tty.out = sys.tty.out ∧ sys'.board.tape = sys.board.tape) ∧
    ∀ other : System, other.lineLen = sys.lineLen → other.linePos = sys.linePos →
      (∀ i < sys.lineLen, other.ram (BitVec.ofNat 16 i) = sys.ram (BitVec.ofNat 16 i)) →
      other.hexRun = sys.hexRun :=
  ⟨fun hpc => parse_addr hready hpc hlen hpos, fun hpc => parse_byte hready hpc hlen hpos,
    fun _ hlen' hpos' hline => hexRun_congr hlen' hpos' hline⟩

/-- The buffer is full of ones, the line ends behind the second, and `PARSE_ADDR` makes `$0011` of it. -/
theorem numbers_parsed_two : ∃ n sys',
    (standing 0xC500#16 { (default : Work) with lineBuf := fun _ => 0x31#8, lineLen := 2#8 } default).ReturnsIn n
      sys' ∧ sys'.addr = 0x0011#16 ∧ sys'.linePos = 2 ∧ sys'.cpu.pFlags.c ≠ true := by
  set sys := standing 0xC500#16 { (default : Work) with lineBuf := fun _ => 0x31#8, lineLen := 2#8 } default
  have hlen : sys.lineLen = 2 := rfl
  have hpos : sys.linePos = 0 := rfl
  have hrun : sys.hexRun = [0x31#8, 0x31#8] := by decide
  have hready : sys.Ready := ready_standing _ _ _
  obtain ⟨haddr, -⟩ := numbers_parsed hready (by omega) (by omega)
  obtain ⟨n, sys', hret, hpos', haddr', hcarry, -⟩ := haddr rfl
  rw [hrun] at hpos' haddr' hcarry
  refine ⟨n, sys', hret, haddr'.trans (by decide), ?_, ?_⟩
  · rw [hpos', hpos]
    rfl
  · rw [ne_eq, hcarry]
    decide

end System

end Sys6
