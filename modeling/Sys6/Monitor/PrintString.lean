import Sys6.Monitor.TapeSession

/-!
# PRINT_STRING

The routine for programs: the string whose address is in `$FC/$FD`, up to a zero byte. Y is the index, so a
string of 256 bytes and more is printed from its start again, for ever.
-/

namespace Sys6

/-- Off the page of the terminal, and not one of the two bytes of the stack that a call of a routine
from `sp` uses. -/
structure Steady (sp : Byte) (addr : Word) : Prop where
  quiet : Quiet addr
  stack : addr.hi = 0x01#8 → 2 ≤ (sp - addr.lo).toNat

instance (sp : Byte) (addr : Word) : Decidable (Steady sp addr) :=
  decidable_of_iff (Quiet addr ∧ (addr.hi = 0x01#8 → 2 ≤ (sp - addr.lo).toNat))
    ⟨fun h => ⟨h.1, h.2⟩, fun h => ⟨h.quiet, h.stack⟩⟩

/-- What is at a steady address stays there. -/
lemma Board.read_of_steady {sp : Byte} {addr : Word} (h : Steady sp addr) {b b' : Board}
    (hwork : b'.work = b.work) (hlow : b'.low = b.low) (hhigh : b'.high = b.high)
    (hstack : Scratch 2 sp b.stack b'.stack) : b'.read addr = ((b.read addr).1, b') := by
  have hquiet : ¬addr.hi = 0x80#8 := h.quiet
  unfold Board.read
  rw [if_neg hquiet, if_neg hquiet]
  split_ifs with h0 h1
  · rw [Board.zp, Board.zp, hwork, hlow]
  · rw [hstack _ (h.stack h1)]
  · rw [hhigh]
  · rfl
  · rfl

namespace Machine

variable {q : Prop} {m : Machine} {c : Byte}

/-- What a read at the address gives. -/
def byteAt (m : Machine) (addr : Word) : Byte := (m.bus.read addr).1

lemma byteAt_of_steady {sp : Byte} {addr : Word} (h : Steady sp addr) (hc : m.byteAt addr = c)
    {m' : Machine} (hwork : m'.bus.work = m.bus.work) (hlow : m'.bus.low = m.bus.low)
    (hhigh : m'.bus.high = m.bus.high) (hstack : Scratch 2 sp m.bus.stack m'.bus.stack) :
    m'.byteAt addr = c := by
  rw [← hc]
  unfold byteAt
  rw [Board.read_of_steady h hwork hlow hhigh hstack]

/-- A machine with the same memory reads the same. -/
lemma read_quiet {sp : Byte} {addr : Word} (h : Steady sp addr) (hc : m.byteAt addr = c) (m' : Machine)
    (hwork : m'.bus.work = m.bus.work) (hlow : m'.bus.low = m.bus.low) (hhigh : m'.bus.high = m.bus.high)
    (hstack : m'.bus.stack = m.bus.stack) : m'.read addr = (c, m') := by
  rw [← hc]
  exact read_of (Board.read_of_steady h hwork hlow hhigh (hstack ▸ .refl 2 sp _))

/-- The word in `$FC/$FD`. -/
def strPtr (m : Machine) : Word := word m.bus.work.strPtrHi m.bus.work.strPtrLo

/-- The address of a byte of the string. -/
def strAt (m : Machine) (y : Byte) : Word := m.strPtr + y.setWidth 16

/-- A byte that is not zero is printed, and Y goes on. -/
lemma printString_char (hpc : m.pc = 0xC302#16) (hsteady : Steady m.sp (m.strAt m.y))
    (hc : m.byteAt (m.strAt m.y) = c) (hne : c ≠ 0#8) :
    Reaches m 2 m.sp q [] (At 0xC302#16 m.sp Any { m.printed [c] with y := m.y + 1#8 }) := by
  have hread := read_quiet hsteady hc
  obtain ⟨a, x, y, sp, p, pc, halted, w, low, stack, high, input, out, tape⟩ := m
  obtain rfl : pc = _ := hpc
  simp only [strAt, strPtr] at hread
  refine .via 2 0xC306#16 (fun a _ _ => a = c) ⟨x, y, w, low, high, out, tape⟩ (by simp [hread, hne]) ?_
  rintro _ p halted stack input rfl
  refine .next (call_putChar line_C306) le_rfl fun _ _ _ _ _ _ => ?_
  exact .finish 2 (by simp [printed, view])

/-- The zero byte. -/
lemma printString_end (hpc : m.pc = 0xC302#16) (hsteady : Steady m.sp (m.strAt m.y))
    (hc : m.byteAt (m.strAt m.y) = 0#8) : Reaches m 2 m.sp q [] (At 0xC30D#16 m.sp Any m.view) := by
  have hread := read_quiet hsteady hc
  obtain ⟨a, x, y, sp, p, pc, halted, w, low, stack, high, input, out, tape⟩ := m
  obtain rfl : pc = _ := hpc
  simp only [strAt, strPtr] at hread
  exact .finish 2 (by simp [hread])

lemma strAt_ofNat (m : Machine) (i : Nat) : m.strAt (BitVec.ofNat 8 i) = m.strPtr + BitVec.ofNat 16 (i % 256) := by
  have hindex : (BitVec.ofNat 8 i).setWidth 16 = BitVec.ofNat 16 (i % 256) := by
    apply BitVec.eq_of_toNat_eq
    rw [BitVec.toNat_setWidth, BitVec.toNat_ofNat, BitVec.toNat_ofNat]
  rw [strAt, hindex]

/-- From the head of the loop, `text` is printed wherever Y starts. -/
lemma printString_text (text : List Byte) (hpc : m.pc = 0xC302#16)
    (ht : ∀ i (hi : i < text.length), Steady m.sp (m.strAt (m.y + BitVec.ofNat 8 i)) ∧
      m.byteAt (m.strAt (m.y + BitVec.ofNat 8 i)) = text[i]) (hne : 0#8 ∉ text) :
    Reaches m 2 m.sp q [] (At 0xC302#16 m.sp Any
      { m.printed text with y := m.y + BitVec.ofNat 8 text.length }) := by
  induction text generalizing m with
  | nil => exact .refl ⟨hpc, rfl, trivial, by simp⟩
  | cons c text ih =>
    obtain ⟨hsteady, hc⟩ := ht 0 (Nat.succ_pos _)
    have hy : m.y + BitVec.ofNat 8 0 = m.y := BitVec.add_zero _
    rw [hy] at hsteady hc
    have hzero : c ≠ 0#8 := fun h => hne (h ▸ List.mem_cons_self)
    refine .nextKept (printString_char hpc hsteady hc hzero) le_rfl fun a p halted stack input _ hstack => ?_
    have hindex : ∀ i, m.y + 1#8 + BitVec.ofNat 8 i = m.y + BitVec.ofNat 8 (i + 1) := by
      intro i
      rw [BitVec.add_assoc, ← BitVec.ofNat_add, Nat.add_comm]
    refine Reaches.mono (ih rfl (fun i hi => ?_) fun h => hne (List.mem_cons_of_mem _ h)) le_rfl id
      fun m' hm => ⟨hm.pc, hm.sp, trivial, ?_⟩
    · simp only [hindex]
      obtain ⟨hsteady, hc⟩ := ht (i + 1) (Nat.succ_lt_succ hi)
      exact ⟨hsteady, byteAt_of_steady hsteady hc rfl rfl rfl hstack⟩
    · rw [hm.view]
      simp [hindex]

/-- The entry of the routine. -/
lemma printString_entry (hpc : m.pc = 0xC300#16) :
    Reaches m 2 m.sp q [] (At 0xC302#16 m.sp Any { m.view with y := 0#8 }) := by
  obtain ⟨a, x, y, sp, p, pc, halted, w, low, stack, high, input, out, tape⟩ := m
  obtain rfl : pc = _ := hpc
  exact .finish 1 (by simp)

/-- All that Y gets to is `text`. -/
lemma printString_prints (text : List Byte) (hpc : m.pc = 0xC300#16)
    (ht : ∀ i (hi : i < text.length), Steady m.sp (m.strPtr + BitVec.ofNat 16 (i % 256)) ∧
      m.byteAt (m.strPtr + BitVec.ofNat 16 (i % 256)) = text[i]) (hne : 0#8 ∉ text) :
    Reaches m 2 m.sp q [] (At 0xC302#16 m.sp Any
      { m.printed text with y := BitVec.ofNat 8 text.length }) := by
  refine .nextKept (printString_entry hpc) le_rfl fun a p halted stack input _ hstack => ?_
  refine Reaches.mono (printString_text text rfl (fun i hi => ?_) hne) le_rfl id
    fun m' hm => ⟨hm.pc, hm.sp, trivial, ?_⟩
  · simp only [BitVec.zero_add, strAt_ofNat]
    obtain ⟨hsteady, hc⟩ := ht i hi
    exact ⟨hsteady, byteAt_of_steady hsteady hc rfl rfl rfl hstack⟩
  · rw [hm.view]
    simp

/-- A string that ends. -/
lemma printString_ends (text : List Byte) (hpc : m.pc = 0xC300#16) (hlen : text.length < 256)
    (ht : ∀ i (hi : i < text.length), Steady m.sp (m.strPtr + BitVec.ofNat 16 i) ∧
      m.byteAt (m.strPtr + BitVec.ofNat 16 i) = text[i]) (hne : 0#8 ∉ text)
    (hsteady : Steady m.sp (m.strPtr + BitVec.ofNat 16 text.length))
    (hend : m.byteAt (m.strPtr + BitVec.ofNat 16 text.length) = 0#8) :
    Returns m 2 q [] Any { m.printed text with y := BitVec.ofNat 8 text.length } := by
  have ht' : ∀ i (hi : i < text.length), Steady m.sp (m.strPtr + BitVec.ofNat 16 (i % 256)) ∧
      m.byteAt (m.strPtr + BitVec.ofNat 16 (i % 256)) = text[i] := by
    intro i hi
    rw [Nat.mod_eq_of_lt (hi.trans hlen)]
    exact ht i hi
  refine .of_rts (by omega) ?_
  refine .nextKept (printString_prints text hpc ht' hne) le_rfl fun a p halted stack input _ hstack => ?_
  refine .next (printString_end rfl ?_ ?_) le_rfl fun a p halted stack input _ => ?_
  · simp only [strAt_ofNat, Nat.mod_eq_of_lt hlen]
    exact hsteady
  · simp only [strAt_ofNat, Nat.mod_eq_of_lt hlen]
    exact byteAt_of_steady hsteady hend rfl rfl rfl hstack
  · exact .refl ⟨line_C30D, rfl, trivial, rfl⟩

/-- One with no end among the 256 bytes. -/
lemma printString_stays (hpc : m.pc = 0xC300#16) (ht : ∀ i < 256, Steady m.sp (m.strPtr + BitVec.ofNat 16 i) ∧
    m.byteAt (m.strPtr + BitVec.ofNat 16 i) ≠ 0#8) : Stays m 2 m.sp fun _ => True := by
  refine (printString_entry (q := False) hpc).kept.stays (fun _ _ => trivial) fun m₀ h₀ => ?_
  -- every round prints one byte and leaves the string alone
  refine Run.always_of_recurrent (fun m₁ => m₁.pc = 0xC302#16 ∧ m₁.sp = m.sp ∧
    m₁.bus.work = m.bus.work ∧ m₁.bus.low = m.bus.low ∧ m₁.bus.high = m.bus.high ∧
    Scratch 2 m.sp m.bus.stack m₁.bus.stack) (fun m₁ hm₁ => .inr ?_) ?_
  · obtain ⟨hpc₁, hsp₁, hwork₁, hlow₁, hhigh₁, hstack₁⟩ := hm₁
    have hat : m₁.strAt m₁.y = m.strPtr + BitVec.ofNat 16 m₁.y.toNat := by
      have hptr : m₁.strPtr = m.strPtr := by
        unfold strPtr
        rw [hwork₁]
      rw [strAt, hptr, BitVec.ofNat_toNat]
    obtain ⟨hsteady, hne⟩ := ht m₁.y.toNat m₁.y.isLt
    rw [← hat] at hsteady hne
    have hbyte := byteAt_of_steady hsteady rfl hwork₁ hlow₁ hhigh₁ hstack₁
    rw [← hbyte] at hne
    rw [← hsp₁] at hsteady
    obtain ⟨m₂, hlead, hs, -, h₂⟩ := printString_char (q := False) hpc₁ hsteady rfl hne
    have hout : m₂.bus.out = m₁.bus.out ++ [m₁.byteAt (m₁.strAt m₁.y)] := congrArg View.out h₂.view
    have hdiff : m₁ ≠ m₂ := by
      intro heq
      rw [← heq] at hout
      simp at hout
    rw [hsp₁] at hlead hs
    exact ⟨[], m₂, Run.Leads.on_of_ne hlead hdiff, fun _ _ => trivial, h₂.pc, h₂.sp.trans hsp₁,
      (congrArg View.work h₂.view).trans hwork₁, (congrArg View.low h₂.view).trans hlow₁,
      (congrArg View.high h₂.view).trans hhigh₁, hstack₁.trans hs⟩
  · obtain ⟨h₀, hstack⟩ := h₀
    exact ⟨h₀.pc, h₀.sp, congrArg View.work h₀.view, congrArg View.low h₀.view, congrArg View.high h₀.view,
      hstack⟩

end Machine

namespace System

/-- The word in `$FC/$FD`. -/
def strPtr (sys : System) : Word := word (sys.ram 0x00FD#16) (sys.ram 0x00FC#16)

lemma Shows.strPtr {sys : System} {m : Machine} (h : sys.Shows m) : sys.strPtr = m.strPtr := by
  unfold System.strPtr System.ram
  rw [h.ram]
  rfl

lemma Shows.byteAt_eq {sys : System} {m : Machine} (h : sys.Shows m) (addr : Word) :
    sys.byteAt addr = m.byteAt addr := by
  have hbus : sys.cpu.bus = m.bus.wire := congrArg Isa.Arch.bus h.arch
  rw [System.byteAt, hbus]
  exact congrArg Prod.fst (Board.busMap_wire.read m.bus addr)

variable {sys : System}

/-- Any program's call of `PRINT_STRING`. A string of less than 256 bytes is printed, and nothing else in RAM
changes than what is below the stack pointer; one that has no end in 256 bytes is printed round and round. -/
theorem string_printed (hready : sys.Ready) (hpc : sys.cpu.pc = 0xC300#16) :
    (∀ text : List Byte, text.length < 256 → 0#8 ∉ text →
      (∀ i < text.length + 1, Steady sys.cpu.sp (sys.strPtr + BitVec.ofNat 16 i) ∧
        (text ++ [0#8])[i]? = some (sys.byteAt (sys.strPtr + BitVec.ofNat 16 i))) →
      ∃ n sys', sys.ReturnsIn n sys' ∧ sys'.tty.out = sys.tty.out ++ text ∧ sys'.cpu.x = sys.cpu.x ∧
        sys'.cpu.y = BitVec.ofNat 8 text.length ∧
        ∀ addr, (addr.hi = 1#8 → 2 ≤ (sys.cpu.sp - addr.lo).toNat) → sys'.ram addr = sys.ram addr) ∧
    ((∀ i < 256, Steady sys.cpu.sp (sys.strPtr + BitVec.ofNat 16 i) ∧
        sys.byteAt (sys.strPtr + BitVec.ofNat 16 i) ≠ 0#8) →
      (∀ n sys', ¬sys.ReturnsIn n sys') ∧
      ∀ k, ∃ n sys', sys.steps n = some sys' ∧ sys'.tty.out = sys.tty.out ++
        (List.range k).map fun i => sys.byteAt (sys.strPtr + BitVec.ofNat 16 (i % 256))) := by
  have hm := hready.shows
  have hpc' : sys.machine.pc = 0xC300#16 := hpc
  rw [hm.strPtr, hm.sp]
  simp only [hm.byteAt_eq]
  refine ⟨fun text hlen hne ht => ?_, fun ht => ⟨fun n sys' => ?_, fun k => ?_⟩⟩
  · have hbytes : ∀ i (hi : i < text.length),
        Steady sys.machine.sp (sys.machine.strPtr + BitVec.ofNat 16 i) ∧
        sys.machine.byteAt (sys.machine.strPtr + BitVec.ofNat 16 i) = text[i] := by
      intro i hi
      obtain ⟨hsteady, hbyte⟩ := ht i (by omega)
      rw [List.getElem?_append_left hi, List.getElem?_eq_getElem hi] at hbyte
      exact ⟨hsteady, (Option.some.inj hbyte).symm⟩
    obtain ⟨hsteady, hend⟩ := ht text.length (Nat.lt_succ_self _)
    rw [List.getElem?_concat_length] at hend
    have hreturns :=
      Machine.printString_ends (q := False) text hpc' hlen hbytes hne hsteady (Option.some.inj hend).symm
    obtain ⟨n, sys', m', hret, hshows, hview, hscratch⟩ := hm.returns
      (hreturns.finishes (V := fun _ v => v = { sys.machine.printed text with y := BitVec.ofNat 8 text.length }) rfl)
      (by omega)
    refine ⟨n, sys', hret, ?_, ?_, ?_, fun addr haddr => ?_⟩
    · rw [hshows.out, hm.out]
      exact congrArg View.out hview
    · rw [show sys'.cpu.x = m'.x from congrArg Isa.Arch.x hshows.arch]
      exact congrArg View.x hview
    · rw [hshows.y]
      exact congrArg View.y hview
    · have hwork : m'.bus.work = sys.machine.bus.work := congrArg View.work hview
      have hlow : m'.bus.low = sys.machine.bus.low := congrArg View.low hview
      refine hm.ram_eq hshows (fun _ => ?_) (fun h1 => hscratch addr.lo (haddr h1))
        (congrFun (congrArg View.high hview) addr)
      rw [Board.zp, Board.zp, hwork, hlow]
  · exact hm.never_returns (Machine.printString_stays hpc' ht) (by omega)
  · let text := (List.range k).map fun i => sys.machine.byteAt (sys.machine.strPtr + BitVec.ofNat 16 (i % 256))
    have hbytes : ∀ i (hi : i < text.length),
        Steady sys.machine.sp (sys.machine.strPtr + BitVec.ofNat 16 (i % 256)) ∧
        sys.machine.byteAt (sys.machine.strPtr + BitVec.ofNat 16 (i % 256)) = text[i] := by
      intro i hi
      refine ⟨(ht (i % 256) (Nat.mod_lt _ (by omega))).1, ?_⟩
      rw [List.getElem_map, List.getElem_range]
    have hne : 0#8 ∉ text := by
      intro hmem
      obtain ⟨i, -, hi⟩ := List.mem_map.mp hmem
      exact (ht (i % 256) (Nat.mod_lt _ (by omega))).2 hi
    obtain ⟨m', ⟨n, hlead⟩, -, -, hat⟩ := Machine.printString_prints (q := False) text hpc' hbytes hne
    obtain ⟨sys', hsteps, hshows, -⟩ := hm.steps n
    rw [hlead.run] at hshows
    refine ⟨n, sys', hsteps, ?_⟩
    rw [hshows.out, hm.out]
    exact congrArg View.out hat.view

/-- The prompt. -/
theorem string_printed_prompt : ∃ n sys', (standing 0xC300#16 { (default : Work) with
    strPtrLo := 0x0F#8, strPtrHi := 0xCE#8 } (cassette [])).ReturnsIn n sys' ∧
    sys'.tty.out = [0x3E#8, 0x20#8] := by
  have hready := ready_standing 0xC300#16 { (default : Work) with strPtrLo := 0x0F#8, strPtrHi := 0xCE#8 }
    (cassette [])
  have hm := hready.shows
  have hbytes : ∀ i < 3, Steady 0x00#8 (0xCE0F#16 + BitVec.ofNat 16 i) ∧ ([0x3E#8, 0x20#8] ++ [0#8])[i]? =
      some (Machine.byteAt (standing 0xC300#16 { (default : Work) with strPtrLo := 0x0F#8, strPtrHi := 0xCE#8 }
        (cassette [])).machine (0xCE0F#16 + BitVec.ofNat 16 i)) := by
    intro i hi
    obtain rfl | rfl | rfl : i = 0 ∨ i = 1 ∨ i = 2 := by omega
    · exact ⟨⟨by decide, by decide⟩, by decide⟩
    · exact ⟨⟨by decide, by decide⟩, by decide⟩
    · exact ⟨⟨by decide, by decide⟩, by decide⟩
  obtain ⟨n, sys', hret, hout, -⟩ := (string_printed hready rfl).1 [0x3E#8, 0x20#8] (by decide) (by decide)
    fun i hi => ⟨(hbytes i hi).1, (hbytes i hi).2.trans (congrArg some (hm.byteAt_eq _).symm)⟩
  exact ⟨n, sys', hret, hout⟩

end System

end Sys6
