import Sys6.Isa.RamOn
import Sys6.Monitor.Image
import Sys6.System.System

/-!
# The board behind the firmware

The memory of the system laid out the way the firmware uses it: the workspace cells of
page 0 under their names, the rest of page 0, the stack page, the RAM above, and the
registers of the terminal and the tape. `Board.wire` builds the system's bus from it.
-/

namespace Sys6

/-- The holding register of the terminal, and the answers still to come. -/
structure Input where
  ready : Bool
  byte : Byte
  polls : Nat → Option Byte

/-- One `tryReadByte`, made only while the holding register is free. -/
def Input.poll (inp : Input) : Input :=
  if inp.ready then inp
  else
    match inp.polls 0 with
    | some b => ⟨true, b, fun i => inp.polls (i + 1)⟩
    | none => { inp with polls := fun i => inp.polls (i + 1) }

structure Tape where
  backing : Option IoStream
  position : Nat
  motorOn : Bool
  eot : Bool
  error : Bool
deriving Inhabited

/-- The workspace cells of page 0. -/
structure Work where
  lineBuf : Byte → Byte
  lineLen : Byte
  linePos : Byte
  tapeLenLo : Byte
  tapeLenHi : Byte
  checksum : Byte
  addrLo : Byte
  addrHi : Byte
  addr2Lo : Byte
  addr2Hi : Byte
  byteVal : Byte
  scratchLo : Byte
  scratchHi : Byte
  rowCount : Byte
  strPtrLo : Byte
  strPtrHi : Byte
deriving Inhabited

structure Board where
  work : Work
  /-- Page 0 off the workspace. -/
  low : Byte → Byte
  stack : Byte → Byte
  /-- RAM from page 2 on. -/
  high : Word → Byte
  input : Input
  out : List Byte
  tape : Tape

namespace Board

/-- Page 0. -/
def zp (b : Board) (c : Byte) : Byte :=
  if c < 0x40#8 then b.work.lineBuf c
  else if c = 0x40#8 then b.work.lineLen
  else if c = 0x41#8 then b.work.linePos
  else if c = 0x42#8 then b.work.tapeLenLo
  else if c = 0x43#8 then b.work.tapeLenHi
  else if c = 0x44#8 then b.work.checksum
  else if c = 0xF0#8 then b.work.addrLo
  else if c = 0xF1#8 then b.work.addrHi
  else if c = 0xF2#8 then b.work.addr2Lo
  else if c = 0xF3#8 then b.work.addr2Hi
  else if c = 0xF4#8 then b.work.byteVal
  else if c = 0xF5#8 then b.work.scratchLo
  else if c = 0xF6#8 then b.work.scratchHi
  else if c = 0xF7#8 then b.work.rowCount
  else if c = 0xFC#8 then b.work.strPtrLo
  else if c = 0xFD#8 then b.work.strPtrHi
  else b.low c

/-- The workspace: `$00-$44`, `$F0-$F7` and the string pointer. -/
def isWork (c : Byte) : Bool :=
  c ≤ 0x44#8 || (0xF0#8 ≤ c && c ≤ 0xF7#8) || c = 0xFC#8 || c = 0xFD#8

def setZp (c v : Byte) (b : Board) : Board :=
  { b with
    work :=
      { lineBuf := if c < 0x40#8 then Function.update b.work.lineBuf c v else b.work.lineBuf
        lineLen := if c = 0x40#8 then v else b.work.lineLen
        linePos := if c = 0x41#8 then v else b.work.linePos
        tapeLenLo := if c = 0x42#8 then v else b.work.tapeLenLo
        tapeLenHi := if c = 0x43#8 then v else b.work.tapeLenHi
        checksum := if c = 0x44#8 then v else b.work.checksum
        addrLo := if c = 0xF0#8 then v else b.work.addrLo
        addrHi := if c = 0xF1#8 then v else b.work.addrHi
        addr2Lo := if c = 0xF2#8 then v else b.work.addr2Lo
        addr2Hi := if c = 0xF3#8 then v else b.work.addr2Hi
        byteVal := if c = 0xF4#8 then v else b.work.byteVal
        scratchLo := if c = 0xF5#8 then v else b.work.scratchLo
        scratchHi := if c = 0xF6#8 then v else b.work.scratchHi
        rowCount := if c = 0xF7#8 then v else b.work.rowCount
        strPtrLo := if c = 0xFC#8 then v else b.work.strPtrLo
        strPtrHi := if c = 0xFD#8 then v else b.work.strPtrHi }
    low := if isWork c then b.low else Function.update b.low c v }

lemma zp_of_not_isWork {c : Byte} (h : isWork c = false) (b : Board) : b.zp c = b.low c := by
  have hne : ∀ d : Byte, isWork d = true → c ≠ d := by
    rintro d hd rfl
    rw [h] at hd
    cases hd
  have hlt : ¬c < 0x40#8 := by
    intro hlt
    have : isWork c = true := by
      simp only [isWork, Bool.or_eq_true, decide_eq_true_eq]
      exact .inl (.inl (.inl (by bv_omega)))
    rw [h] at this
    cases this
  unfold zp
  rw [if_neg hlt, if_neg (hne _ rfl), if_neg (hne _ rfl), if_neg (hne _ rfl), if_neg (hne _ rfl),
    if_neg (hne _ rfl), if_neg (hne _ rfl), if_neg (hne _ rfl), if_neg (hne _ rfl),
    if_neg (hne _ rfl), if_neg (hne _ rfl), if_neg (hne _ rfl), if_neg (hne _ rfl),
    if_neg (hne _ rfl), if_neg (hne _ rfl), if_neg (hne _ rfl)]

/-- The sixteen kinds of cells of page 0. -/
lemma cell_cases (c : Byte) : c < 0x40#8 ∨ isWork c = false ∨
    c ∈ [0x40#8, 0x41#8, 0x42#8, 0x43#8, 0x44#8, 0xF0#8, 0xF1#8, 0xF2#8, 0xF3#8, 0xF4#8, 0xF5#8,
      0xF6#8, 0xF7#8, 0xFC#8, 0xFD#8] := by
  revert c
  decide

lemma zp_setZp (b : Board) (c v c' : Byte) :
    (b.setZp c v).zp c' = if c = c' then v else b.zp c' := by
  rcases cell_cases c' with h | h | h
  · simp only [zp, setZp, if_pos h]
    by_cases hc : c = c'
    · subst hc
      rw [if_pos h, if_pos rfl, Function.update_self]
    · rw [if_neg hc]
      split_ifs
      · rw [Function.update_of_ne (Ne.symm hc)]
      · rfl
  · rw [zp_of_not_isWork h, zp_of_not_isWork h]
    by_cases hc : c = c'
    · subst hc
      simp [setZp, h]
    · rw [if_neg hc]
      simp only [setZp]
      split_ifs
      · rfl
      · rw [Function.update_of_ne (Ne.symm hc)]
  · simp only [List.mem_cons, List.not_mem_nil, or_false] at h
    rcases h with rfl | rfl | rfl | rfl | rfl | rfl | rfl | rfl | rfl | rfl | rfl | rfl | rfl |
      rfl | rfl
    all_goals rfl

def tty (b : Board) : TTY where
  out := b.out
  rxByte := b.input.byte
  rxReady := b.input.ready
  tapeBacking := b.tape.backing
  tapePosition := b.tape.position
  tapeMotorOn := b.tape.motorOn
  tapeEot := b.tape.eot
  tapeError := b.tape.error

def setTty (tty : TTY) (b : Board) : Board :=
  { b with
    out := tty.out
    input := { b.input with ready := tty.rxReady, byte := tty.rxByte }
    tape := ⟨tty.tapeBacking, tty.tapePosition, tty.tapeMotorOn, tty.tapeEot, tty.tapeError⟩ }

def read (b : Board) (addr : Word) : Byte × Board :=
  if addr.hi = 0x00#8 then (b.zp addr.lo, b)
  else if addr.hi = 0x01#8 then (b.stack addr.lo, b)
  else if addr.hi < 0x80#8 then (b.high addr, b)
  else if addr.hi = 0x80#8 then
    ((b.tty.read (word 0#8 addr.lo)).1, b.setTty (b.tty.read (word 0#8 addr.lo)).2)
  else if addr.hi < 0xC0#8 then (0xFF#8, b)
  else (monitor.image (addr - monitor.kRomBase), b)

def write (b : Board) (addr : Word) (v : Byte) : Board :=
  if addr.hi = 0x00#8 then b.setZp addr.lo v
  else if addr.hi = 0x01#8 then { b with stack := Function.update b.stack addr.lo v }
  else if addr.hi < 0x80#8 then { b with high := Function.update b.high addr v }
  else if addr.hi = 0x80#8 then b.setTty (b.tty.write (word 0#8 addr.lo) v)
  else b

instance : BusLike Board where
  read := read
  write := write

def ram (b : Board) (addr : Word) : Byte :=
  if addr.hi = 0x00#8 then b.zp addr.lo
  else if addr.hi = 0x01#8 then b.stack addr.lo
  else b.high addr

/-- The mappings the constructor attaches. -/
def systemBus : Bus DevicePtr :=
  ⟨[⟨0x0000#16, 0x7FFF#16, .ram⟩, ⟨0x8000#16, 0x80FF#16, .tty⟩, ⟨0xC000#16, 0xFFFF#16, .rom⟩]⟩

def wire (b : Board) : Wired DevicePtr Devices :=
  ⟨systemBus, ⟨⟨System.kRamSize, b.ram⟩, b.tty, ⟨monitor.kRomSize, monitor.image⟩⟩⟩

lemma findMapping_systemBus (addr : Word) : systemBus.findMapping addr =
    if addr.hi < 0x80#8 then some ⟨0x0000#16, 0x7FFF#16, .ram⟩
    else if addr.hi = 0x80#8 then some ⟨0x8000#16, 0x80FF#16, .tty⟩
    else if addr.hi < 0xC0#8 then none
    else some ⟨0xC000#16, 0xFFFF#16, .rom⟩ := by
  have hhi : addr.hi.toNat = addr.toNat / 256 := addr.hi_toNat
  simp only [BitVec.lt_def, ← BitVec.toNat_inj, hhi, BitVec.toNat_ofNat]
  have hfind : ∀ (start last : Word) (ptr : DevicePtr) (rest : List (Mapping DevicePtr)),
      List.find? (fun m => addr ≥ m.start && addr ≤ m.last) (⟨start, last, ptr⟩ :: rest) =
        if start.toNat ≤ addr.toNat ∧ addr.toNat ≤ last.toNat then some ⟨start, last, ptr⟩
        else List.find? (fun m => addr ≥ m.start && addr ≤ m.last) rest := by
    intro start last ptr rest
    rw [List.find?_cons]
    by_cases h : start.toNat ≤ addr.toNat ∧ addr.toNat ≤ last.toNat
    · rw [if_pos h]
      simp [BitVec.le_def, h.1, h.2]
    · rw [if_neg h]
      have : (decide (addr ≥ start) && decide (addr ≤ last)) = false := by
        simpa [BitVec.le_def] using h
      simp only [this]
  simp only [systemBus, Bus.findMapping, hfind, List.find?_nil, BitVec.toNat_ofNat]
  have := addr.isLt
  split_ifs <;> first | rfl | omega

@[simp] lemma tty_setTty (b : Board) (tty : TTY) : (b.setTty tty).tty = tty := rfl

lemma ram_setZp (b : Board) (addr : Word) (h : addr.hi = 0#8) (v : Byte) :
    (b.setZp addr.lo v).ram = Function.update b.ram addr v := by
  funext w
  by_cases hw : w = addr
  · subst hw
    simp [ram, h, zp_setZp]
  · rw [Function.update_of_ne hw]
    unfold ram
    split_ifs with h0 h1
    · rw [zp_setZp, if_neg]
      intro hlo
      exact hw (by rw [← word_hi_lo w, ← word_hi_lo addr, h0, h, hlo])
    · rfl
    · rfl

lemma ram_stack (b : Board) (addr : Word) (h : addr.hi = 1#8) (v : Byte) :
    ({ b with stack := Function.update b.stack addr.lo v } : Board).ram =
      Function.update b.ram addr v := by
  funext w
  by_cases hw : w = addr
  · subst hw
    simp [ram, h]
  · rw [Function.update_of_ne hw]
    unfold ram
    split_ifs with h0 h1
    · rfl
    · refine Function.update_of_ne ?_ _ _
      intro hlo
      exact hw (by rw [← word_hi_lo w, ← word_hi_lo addr, h1, h, hlo])
    · rfl

lemma ram_high (b : Board) (addr : Word) (h0 : addr.hi ≠ 0#8) (h1 : addr.hi ≠ 1#8) (v : Byte) :
    ({ b with high := Function.update b.high addr v } : Board).ram =
      Function.update b.ram addr v := by
  funext w
  by_cases hw : w = addr
  · subst hw
    simp [ram, h0, h1]
  · rw [Function.update_of_ne hw]
    unfold ram
    split_ifs
    · rfl
    · rfl
    · exact Function.update_of_ne hw _ _

lemma sub_page_tty {addr : Word} (h : addr.hi = 0x80#8) : addr - 0x8000#16 = word 0#8 addr.lo := by
  apply BitVec.eq_of_toNat_eq
  have hhi := addr.hi_toNat
  rw [h] at hhi
  rw [word_toNat, addr.lo_toNat, BitVec.toNat_sub]
  have := addr.isLt
  simp only [BitVec.toNat_ofNat] at hhi ⊢
  omega

/-- The board's bus is the bus the constructor of `System` wires. -/
theorem busMap_wire : Isa.BusMap wire where
  read b addr := by
    show Wired.read b.wire addr = ((b.read addr).1, (b.read addr).2.wire)
    have hfind : b.wire.bus.findMapping addr = _ := findMapping_systemBus addr
    unfold Wired.read
    rw [hfind]
    unfold Board.read
    by_cases h2 : addr.hi < 0x80#8
    · rw [if_pos h2]
      simp only [BitVec.sub_zero, DeviceStore.read, RAM.read]
      show (b.ram addr, b.wire) = _
      unfold ram
      split_ifs <;> rfl
    · have h0 : addr.hi ≠ 0#8 := fun h => h2 (by rw [h]; decide)
      have h1 : addr.hi ≠ 1#8 := fun h => h2 (by rw [h]; decide)
      rw [if_neg h2, if_neg h2, if_neg h0, if_neg h1]
      split_ifs with h3 h4
      · simp only [sub_page_tty h3]
        rfl
      · rfl
      · rfl
  write b addr v := by
    show Wired.write b.wire addr v = (b.write addr v).wire
    have hfind : b.wire.bus.findMapping addr = _ := findMapping_systemBus addr
    unfold Wired.write
    rw [hfind]
    unfold Board.write
    by_cases h2 : addr.hi < 0x80#8
    · rw [if_pos h2]
      simp only [BitVec.sub_zero, DeviceStore.write, RAM.write]
      have hwire : ∀ b' : Board, b'.ram = Function.update b.ram addr v → b'.tty = b.tty →
          b'.wire = ⟨systemBus, ⟨⟨System.kRamSize, Function.update b.ram addr v⟩, b.tty,
            ⟨monitor.kRomSize, monitor.image⟩⟩⟩ := by
        intro b' hram htty
        rw [wire, hram, htty]
      symm
      split_ifs with h0 h1
      · exact hwire _ (ram_setZp b addr h0 v) rfl
      · exact hwire _ (ram_stack b addr h1 v) rfl
      · exact hwire _ (ram_high b addr h0 h1 v) rfl
    · have h0 : addr.hi ≠ 0#8 := fun h => h2 (by rw [h]; decide)
      have h1 : addr.hi ≠ 1#8 := fun h => h2 (by rw [h]; decide)
      rw [if_neg h2, if_neg h2, if_neg h0, if_neg h1]
      split_ifs with h3 h4
      · simp only [sub_page_tty h3]
        rfl
      · rfl
      · rfl

lemma peek_ram {addr : Word} (h : addr.hi < 0x80#8) (b : Board) : peek b addr = b.ram addr := by
  show (b.read addr).1 = _
  unfold Board.read ram
  split_ifs <;> rfl

lemma ram_read (b : Board) (addr : Word) : (b.read addr).2.ram = b.ram := by
  unfold Board.read
  split_ifs <;> rfl

lemma ram_write {w : Word} (hw : w.hi < 0x80#8) (b : Board) (addr : Word) (v : Byte) :
    (b.write addr v).ram w = if w = addr then v else b.ram w := by
  rw [← Function.update_apply]
  unfold Board.write
  split_ifs with h0 h1 h2 h3
  · rw [ram_setZp b addr h0]
  · rw [ram_stack b addr h1]
  · rw [ram_high b addr h0 h1]
  all_goals
    have hne : w ≠ addr := by
      rintro rfl
      exact h2 hw
    exact (Function.update_of_ne hne _ _).symm

/-- Addresses below `$8000` are RAM. -/
lemma ramOn_board : Isa.RamOn (fun _ : Board => True) fun w => w.hi < 0x80#8 where
  read _ _ h := h
  write _ _ _ h := h
  peek_read b addr w _ hw := by
    rw [peek_ram hw, peek_ram hw]
    exact congrFun (ram_read b addr) w
  peek_write b addr v w _ hw := by
    rw [peek_ram hw, peek_ram hw]
    exact ram_write hw b addr v

lemma ramOn_wire : Isa.RamOn (fun w => ∃ b : Board, True ∧ w = b.wire) fun w => w.hi < 0x80#8 :=
  ramOn_board.map busMap_wire

end Board

end Sys6
