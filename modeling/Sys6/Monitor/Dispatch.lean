import Sys6.Monitor.Blocks
import Sys6.Monitor.Poke

/-!
# DISPATCH

What the monitor takes a line for, and the code that decides it: after the first address the
next character says what is meant.
-/

namespace Sys6

inductive Command
  | peek (addr : Word)
  | list (addr addr2 : Word)
  | poke (addr : Word) (bytes : List Byte)
  | run (addr : Word)
  | save (addr addr2 : Word)
  | load (addr : Word)
  | rewind (addr : Word)
  /-- A line that is answered with `?`. -/
  | bad
deriving DecidableEq, Repr

/-- What follows the digits. -/
def afterDigits (text : List Byte) : List Byte := text.drop (digits text).length

/-- After both addresses of a range; nothing behind an `S` is looked at. -/
def rangeCommand (a e : Word) : List Byte → Command
  | [] => .list a e
  | c :: rest => if c = 0x20#8 ∧ rest.head? = some 0x53#8 then .save a e else .bad

/-- After an address and a space; nothing behind the letter is looked at. -/
def letterCommand (a : Word) : List Byte → Command
  | [] => .bad
  | c :: _ =>
    if c = 0x52#8 then .run a
    else if c = 0x4C#8 then .load a
    else if c = 0x57#8 then .rewind a
    else .bad

/-- After the first address. -/
def dispatch (a : Word) : List Byte → Command
  | [] => .peek a
  | c :: rest =>
    if c = 0x2E#8 then
      if digits rest = [] then .bad else rangeCommand a (address (digits rest)) (afterDigits rest)
    else if c = 0x3A#8 then .poke a (tokens rest)
    else if c = 0x20#8 then letterCommand a rest
    else .bad

/-- What the monitor takes a line for. -/
def command (text : List Byte) : Command :=
  if digits text = [] then .bad else dispatch (address (digits text)) (afterDigits text)

namespace Command

/-- Where the command is carried out. -/
@[simp] def entry : Command → Word
  | .peek _ => 0xCA00#16
  | .list _ _ => 0xCB00#16
  | .poke _ _ => 0xCC00#16
  | .run _ => 0xCD00#16
  | .save _ _ => 0xD000#16
  | .load _ => 0xD100#16
  | .rewind _ => 0xD200#16
  | .bad => 0xC888#16

/-- Its arguments are in the workspace. -/
def Armed (w : Work) : Command → Prop
  | .peek a | .run a | .load a | .rewind a => w.addr = a
  | .list a e | .save a e => w.addr = a ∧ w.addr2 = e
  | .poke a bytes => w.addr = a ∧ ∃ pre rest, Reading w pre rest ∧ tokens rest = bytes
  | .bad => True

end Command

/-- Past the digits that stand next. -/
lemma Reading.afterDigits {w u : Work} {pre rest : List Byte} (h : Reading w pre rest)
    (hbuf : u.lineBuf = w.lineBuf) (hlen : u.lineLen = w.lineLen)
    (hpos : u.linePos = w.linePos + BitVec.ofNat 8 (digits rest).length) :
    Reading u (pre ++ rest.take (digits rest).length) (afterDigits rest) := by
  have hsplit := List.take_append_drop (digits rest).length rest
  have htake : (rest.take (digits rest).length).length = (digits rest).length :=
    List.length_take_of_le (length_digits_le rest)
  rw [← hsplit] at h
  exact h.skip hbuf hlen (by rw [htake, hpos])

namespace Machine

variable {q : Prop} {m : Machine} {pre rest : List Byte} {c : Byte}

/-- At the code that carries out the command, with its arguments; nothing but X and the workspace
has changed. -/
def Dispatched (m : Machine) (cmd : Command) (m' : Machine) : Prop :=
  m'.pc = cmd.entry ∧ m'.sp = m.sp ∧ cmd.Armed m'.bus.work ∧
    ∃ x work, m'.view = { m.view with x := x, work := work }

/-- The last lines before the code of a command. -/
lemma Reaches.dispatched {k : Nat} {cmd : Command} (n : Nat) (work : Work) (harmed : cmd.Armed work)
    (h : m.Follows n k m.sp q fun m' => m'.pc = cmd.entry ∧ m'.sp = m.sp ∧
      ∃ x, m'.view = { m.view with x := x, work := work }) :
    Reaches m k m.sp q [] (Dispatched m cmd) := by
  refine (Reaches.finish n h).mono le_rfl id ?_
  rintro m' ⟨hpc, hsp, x, hview⟩
  have hwork : m'.bus.work = work := congrArg View.work hview
  exact ⟨hpc, hsp, hwork ▸ harmed, x, work, hview⟩

lemma Dispatched.congr {m₁ m' : Machine} {cmd : Command} (h : Dispatched m₁ cmd m') (hsp : m₁.sp = m.sp)
    {x : Byte} {work : Work} (hview : m₁.view = { m.view with x := x, work := work }) :
    Dispatched m cmd m' := by
  obtain ⟨hpc, hsp', harmed, x', work', hview'⟩ := h
  refine ⟨hpc, hsp'.trans hsp, harmed, x', work', ?_⟩
  rw [hview', hview]

/-- An address and a space: the letter decides. -/
lemma mayBeRun (hpc : m.pc = 0xC867#16) (h : Reading m.bus.work pre (0x20#8 :: rest)) :
    Reaches m 0 m.sp q [] (Dispatched m (letterCommand m.bus.work.addr rest)) := by
  obtain ⟨a, x, y, sp, p, pc, halted, w, low, stack, high, input, out, tape⟩ := m
  obtain rfl : pc = _ := hpc
  simp only at h
  have hnext := h.step (u := { w with linePos := w.linePos + 1#8 }) rfl rfl rfl
  cases rest with
  | nil =>
    have hdone : w.lineLen ≤ w.linePos + 1#8 := hnext.done
    exact .dispatched 4 w trivial (by simp [letterCommand, hdone])
  | cons c rest =>
    have hmore : ¬w.lineLen ≤ w.linePos + 1#8 := hnext.more
    have hbuf : w.linePos + 1#8 < 0x40#8 := hnext.inBuf
    have hchar : w.lineBuf (w.linePos + 1#8) = c := hnext.char
    by_cases hR : c = 0x52#8
    · have hcmd : letterCommand w.addr (c :: rest) = .run w.addr := by simp [letterCommand, hR]
      simp only [hcmd]
      exact .dispatched 8 w rfl (by simp [hmore, Board.zp_lineBuf _ hbuf, hchar, eq_true hR])
    by_cases hL : c = 0x4C#8
    · have hcmd : letterCommand w.addr (c :: rest) = .load w.addr := by simp [letterCommand, hL]
      simp only [hcmd]
      exact .dispatched 10 w rfl (by simp [hmore, Board.zp_lineBuf _ hbuf, hchar, hR, eq_true hL])
    by_cases hW : c = 0x57#8
    · have hcmd : letterCommand w.addr (c :: rest) = .rewind w.addr := by simp [letterCommand, hW]
      simp only [hcmd]
      exact .dispatched 12 w rfl (by simp [hmore, Board.zp_lineBuf _ hbuf, hchar, hR, hL, eq_true hW])
    · have hcmd : letterCommand w.addr (c :: rest) = .bad := by simp [letterCommand, hR, hL, hW]
      simp only [hcmd]
      exact .dispatched 12 w trivial (by simp [hmore, Board.zp_lineBuf _ hbuf, hchar, hR, hL, hW])

/-- Both addresses of a range have been read, and `rest` follows the second one. -/
def RangeRead (m : Machine) (e : Word) (rest : List Byte) (m' : Machine) : Prop :=
  m'.pc = 0xC843#16 ∧ m'.sp = m.sp ∧ m'.bus.work.addr = m.bus.work.addr ∧ m'.bus.work.addr2 = e ∧
  (∃ pre, Reading m'.bus.work pre rest) ∧ ∃ x work, m'.view = { m.view with x := x, work := work }

/-- The second address goes to `$F2/$F3`, and the first one back to `$F0/$F1`. -/
lemma doList_addr (hpc : m.pc = 0xC81C#16) (h : Reading m.bus.work pre (0x2E#8 :: rest))
    (hd : digits rest ≠ []) :
    Reaches m 4 m.sp q [] (RangeRead m (address (digits rest)) (afterDigits rest)) := by
  obtain ⟨a, x, y, sp, p, pc, halted, w, low, stack, high, input, out, tape⟩ := m
  obtain rfl : pc = _ := hpc
  simp only at h
  have hnext : Reading { w with linePos := w.linePos + 1#8, addr2Lo := w.addrLo, addr2Hi := w.addrHi }
      (pre ++ [0x2E#8]) rest := h.step rfl rfl rfl
  refine .via 5 0xC826#16 Any
    ⟨x, y, { w with linePos := w.linePos + 1#8, addr2Lo := w.addrLo, addr2Hi := w.addrHi }, low, high, out,
      tape⟩ (by simp) fun _ _ _ _ _ _ => ?_
  refine .next (call_parseAddr line_C826 hnext) le_rfl fun _ _ _ _ _ hr => ?_
  have hcarry : PFlags.c _ = decide (digits rest = []) := hr
  refine .via 13 0xC843#16 Any
    ⟨w.linePos + 1#8 + BitVec.ofNat 8 (digits rest).length, y,
      { w with
        linePos := w.linePos + 1#8 + BitVec.ofNat 8 (digits rest).length
        addr2Lo := (address (digits rest)).lo
        addr2Hi := (address (digits rest)).hi
        scratchLo := (address (digits rest)).lo
        scratchHi := (address (digits rest)).hi }, low, high, out, tape⟩
    (by simp [hcarry, hd, Work.setAddr]) fun _ _ _ _ _ _ => ?_
  refine .refl ⟨rfl, rfl, rfl, word_hi_lo _, ⟨_, hnext.afterDigits rfl rfl rfl⟩, _, _, rfl⟩

/-- No digit behind the dot. -/
lemma doList_bad (hpc : m.pc = 0xC81C#16) (h : Reading m.bus.work pre (0x2E#8 :: rest))
    (hd : digits rest = []) : Reaches m 4 m.sp q [] (Dispatched m .bad) := by
  obtain ⟨a, x, y, sp, p, pc, halted, w, low, stack, high, input, out, tape⟩ := m
  obtain rfl : pc = _ := hpc
  simp only at h
  have hnext : Reading { w with linePos := w.linePos + 1#8, addr2Lo := w.addrLo, addr2Hi := w.addrHi }
      (pre ++ [0x2E#8]) rest := h.step rfl rfl rfl
  refine .via 5 0xC826#16 Any
    ⟨x, y, { w with linePos := w.linePos + 1#8, addr2Lo := w.addrLo, addr2Hi := w.addrHi }, low, high, out,
      tape⟩ (by simp) fun _ _ _ _ _ _ => ?_
  refine .next (call_parseAddr line_C826 hnext) le_rfl fun _ _ _ _ _ hr => ?_
  have hcarry : PFlags.c _ = decide (digits rest = []) := hr
  exact .finish 1 (by simp [hcarry, hd, Dispatched, Command.Armed])

/-- Behind both addresses: the end of the line, or a space and an `S`. -/
lemma doListEnd (hpc : m.pc = 0xC843#16) (h : Reading m.bus.work pre rest) :
    Reaches m 0 m.sp q [] (Dispatched m (rangeCommand m.bus.work.addr m.bus.work.addr2 rest)) := by
  obtain ⟨a, x, y, sp, p, pc, halted, w, low, stack, high, input, out, tape⟩ := m
  obtain rfl : pc = _ := hpc
  simp only at h
  cases rest with
  | nil => exact .dispatched 4 w ⟨rfl, rfl⟩ (by simp [rangeCommand, h.done])
  | cons c rest =>
    have hnext : Reading { w with linePos := w.linePos + 1#8 } (pre ++ [c]) rest := h.step rfl rfl rfl
    by_cases hc : c = 0x20#8
    · cases rest with
      | nil =>
        have hdone : w.lineLen ≤ w.linePos + 1#8 := hnext.done
        have hcmd : rangeCommand w.addr w.addr2 [c] = .bad := by simp [rangeCommand]
        simp only [hcmd]
        exact .dispatched 10 w trivial (by simp [h.more, Board.zp_lineBuf _ h.inBuf, h.char, eq_true hc, hdone])
      | cons c' rest =>
        have hmore : ¬w.lineLen ≤ w.linePos + 1#8 := hnext.more
        have hbuf : w.linePos + 1#8 < 0x40#8 := hnext.inBuf
        have hchar : w.lineBuf (w.linePos + 1#8) = c' := hnext.char
        by_cases hS : c' = 0x53#8
        · have hcmd : rangeCommand w.addr w.addr2 (c :: c' :: rest) = .save w.addr w.addr2 := by
            simp [rangeCommand, hc, hS]
          simp only [hcmd]
          exact .dispatched 14 w ⟨rfl, rfl⟩ (by simp [h.more, Board.zp_lineBuf _ h.inBuf, h.char, eq_true hc, hmore,
            Board.zp_lineBuf _ hbuf, hchar, eq_true hS])
        · have hcmd : rangeCommand w.addr w.addr2 (c :: c' :: rest) = .bad := by
            simp [rangeCommand, hS]
          simp only [hcmd]
          exact .dispatched 13 w trivial (by simp [h.more, Board.zp_lineBuf _ h.inBuf, h.char, eq_true hc, hmore,
            Board.zp_lineBuf _ hbuf, hchar, hS])
    · have hcmd : rangeCommand w.addr w.addr2 (c :: rest) = .bad := by simp [rangeCommand, hc]
      simp only [hcmd]
      exact .dispatched 7 w trivial (by simp [h.more, Board.zp_lineBuf _ h.inBuf, h.char, hc])

/-- The range commands. -/
lemma doList (hpc : m.pc = 0xC81C#16) (h : Reading m.bus.work pre (0x2E#8 :: rest)) :
    Reaches m 4 m.sp q [] (Dispatched m (dispatch m.bus.work.addr (0x2E#8 :: rest))) := by
  by_cases hd : digits rest = []
  · have hcmd : dispatch m.bus.work.addr (0x2E#8 :: rest) = .bad := by simp [dispatch, hd]
    rw [hcmd]
    exact doList_bad hpc h hd
  · have hcmd : dispatch m.bus.work.addr (0x2E#8 :: rest) =
        rangeCommand m.bus.work.addr (address (digits rest)) (afterDigits rest) := by
      simp [dispatch, hd]
    rw [hcmd]
    refine Reaches.bind (e := []) (doList_addr hpc h hd) ?_
    rintro m₁ ⟨hpc₁, hsp₁, haddr, haddr2, ⟨pre₁, h₁⟩, x, work, hview⟩
    have hend := doListEnd (q := q) hpc₁ h₁
    rw [haddr, haddr2, hsp₁] at hend
    exact hend.mono (by omega) id fun m' hm => hm.congr hsp₁ hview

/-- Once the first address has been read. -/
theorem dispatch_reaches (hpc : m.pc = 0xC800#16) (h : Reading m.bus.work pre rest) :
    Reaches m 4 m.sp q [] (Dispatched m (dispatch m.bus.work.addr rest)) := by
  obtain ⟨a, x, y, sp, p, pc, halted, w, low, stack, high, input, out, tape⟩ := m
  obtain rfl : pc = _ := hpc
  simp only at h
  cases rest with
  | nil => exact .dispatched 4 w rfl (by simp [dispatch, h.done])
  | cons c rest =>
    by_cases hdot : c = 0x2E#8
    · subst hdot
      refine .via 7 0xC81C#16 Any ⟨w.linePos, y, w, low, high, out, tape⟩
        (by simp [h.more, Board.zp_lineBuf _ h.inBuf, h.char]) fun _ _ _ _ _ _ => ?_
      exact (doList rfl h).mono le_rfl id fun m' hm => hm.congr rfl rfl
    by_cases hcolon : c = 0x3A#8
    · have hnext : Reading { w with linePos := w.linePos + 1#8 } (pre ++ [c]) rest := h.step rfl rfl rfl
      have hcmd : dispatch w.addr (c :: rest) = .poke w.addr (tokens rest) := by
        simp [dispatch, hcolon]
      simp only [hcmd]
      exact .dispatched 11 { w with linePos := w.linePos + 1#8 } ⟨rfl, _, _, hnext, rfl⟩
        (by simp [h.more, Board.zp_lineBuf _ h.inBuf, h.char, hdot, eq_true hcolon])
    by_cases hspace : c = 0x20#8
    · subst hspace
      have hcmd : dispatch w.addr (0x20#8 :: rest) = letterCommand w.addr rest := by simp [dispatch]
      simp only [hcmd]
      refine .via 11 0xC867#16 Any ⟨w.linePos, y, w, low, high, out, tape⟩
        (by simp [h.more, Board.zp_lineBuf _ h.inBuf, h.char]) fun _ _ _ _ _ _ => ?_
      exact Reaches.mono (mayBeRun rfl h) (by omega) id fun m' hm => hm.congr rfl rfl
    · have hcmd : dispatch w.addr (c :: rest) = .bad := by simp [dispatch, hdot, hcolon, hspace]
      simp only [hcmd]
      exact .dispatched 12 w trivial (by simp [h.more, Board.zp_lineBuf _ h.inBuf, h.char, hdot, hcolon, hspace])

/-- The answer to a line that is no command. -/
lemma dispatch_complains (hpc : m.pc = 0xC888#16) : Returns m 2 q [] Any (m.printed complaint) := by
  refine complain_returns ?_ ?_ ?_
  · rw [hpc]
    exact ⟨line_C888, line_C88A⟩
  · rw [hpc]
    exact ⟨⟨line_C88D, line_C88F⟩, ⟨line_C892, line_C894⟩⟩
  · rw [hpc]
    exact line_C897

end Machine

end Sys6
