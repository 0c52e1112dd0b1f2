import Sys6.Monitor.Grammar
import Sys6.Monitor.Session

/-!
# POKE at the prompt

A line with a POKE stores its tokens, and a row that `LIST` has printed is such a line.
-/

namespace Sys6

namespace System

/-- All of them are free only when they are few. -/
lemma length_le_of_free {a : Word} {n : Nat} (h : ∀ i < n, Free (a + BitVec.ofNat 16 i)) : n ≤ 65536 := by
  by_contra hn
  have hlt : (0x8000#16 - a).toNat < n := by
    have := (0x8000#16 - a).isLt
    omega
  have hfree := (h _ hlt).ram
  rw [BitVec.ofNat_toNat, BitVec.setWidth_eq] at hfree
  have heq : a + (0x8000#16 - a) = 0x8000#16 := by bv_omega
  rw [heq] at hfree
  exact absurd hfree (by decide)

/-- A line that is a POKE at clear addresses. -/
lemma poke_stores {sys : System} (hready : sys.Ready) (hpc : sys.cpu.pc = 0xCF11#16) {keys : List Byte}
    (hkeys : sys.Hears keys) {a : Word} {bytes : List Byte} (hcmd : command (typed keys) = .poke a bytes)
    (hclear : ∀ i < bytes.length, Clear (a + BitVec.ofNat 16 i)) :
    ∃ n sys', sys.RoundIn n sys' ∧ sys'.tty.out = sys.tty.out ++ heading keys ∧
      ∀ addr, Free addr → sys'.ram addr = (sys.machine.view.stores a bytes).mem addr := by
  have hm := hready.shows
  have hstores : ∀ addr ∈ (command (typed keys)).stores sys.machine.bus.tape, Clear addr := by
    rw [hcmd]
    intro addr hmem
    obtain ⟨i, hi, rfl⟩ := mem_addresses.mp hmem
    exact hclear i hi
  obtain ⟨n, sys', m', hround, hshows, hserved⟩ :=
    round_of_line hready hpc hkeys (by rw [hcmd]; rfl) hstores (by rw [hcmd]; exact id)
  obtain ⟨x, work, e, harmed, -, hdone⟩ := hserved.done
  rw [hcmd] at harmed hdone
  obtain ⟨-, -, x', y', work', hview⟩ : Poked _ _ _ _ := hdone
  rw [show Work.addr _ = a from harmed.1] at hview
  refine ⟨n, sys', hround, ?_, fun addr hf => ?_⟩
  · rw [hshows.out, hm.out]
    exact congrArg View.out hview
  · rw [hshows.ram_mem hf.clear hf.hi_lt, hview]
    rfl

/-- A line that is a POKE of free RAM. -/
lemma poke_line {sys : System} (hready : sys.Ready) (hpc : sys.cpu.pc = 0xCF11#16) {keys : List Byte}
    (hkeys : sys.Hears keys) {a : Word} {bytes : List Byte} (hcmd : command (typed keys) = .poke a bytes)
    (hfree : ∀ i < bytes.length, Free (a + BitVec.ofNat 16 i)) :
    ∃ n sys', sys.RoundIn n sys' ∧ sys'.tty.out = sys.tty.out ++ heading keys ∧
      (∀ i (hi : i < bytes.length), sys'.ram (a + BitVec.ofNat 16 i) = bytes[i]) ∧
      ∀ addr, Free addr → addr ∉ addresses a bytes.length → sys'.ram addr = sys.ram addr := by
  obtain ⟨n, sys', hround, hout, hram⟩ :=
    poke_stores hready hpc hkeys hcmd fun i hi => (hfree i hi).clear
  refine ⟨n, sys', hround, hout, fun i hi => ?_, fun addr hf hnot => ?_⟩
  · rw [hram _ (hfree i hi)]
    exact mem_stores (length_le_of_free hfree) i hi (hfree i hi).hi_lt
  · rw [hram addr hf, hready.shows.ram_mem hf.clear hf.hi_lt]
    exact mem_stores_of_not_mem hnot

/-- A POKE stores its tokens. -/
theorem poke_writes_tokens {sys : System} (hready : sys.Ready) (hpc : sys.cpu.pc = 0xCF11#16)
    {keys addrText text : List Byte} {toks : List (List Byte)} (hkeys : sys.Hears keys)
    (hline : typed keys = addrText ++ 0x3A#8 :: text) (haddr : HexRun 4 addrText) (htoks : Spaced toks text)
    (hfree : ∀ i < toks.length, Free (BitVec.ofNat 16 (hexNumber addrText + i))) :
    ∃ n sys', sys.RoundIn n sys' ∧
      (∀ i (hi : i < toks.length), sys'.ram (BitVec.ofNat 16 (hexNumber addrText + i)) =
        BitVec.ofNat 8 (hexNumber toks[i])) ∧
      (∀ addr, Free addr → (∀ i < toks.length, addr ≠ BitVec.ofNat 16 (hexNumber addrText + i)) →
        sys'.ram addr = sys.ram addr) ∧
      sys'.tty.out = sys.tty.out ++ heading keys := by
  have hcmd := command_poke haddr htoks
  rw [← hline] at hcmd
  simp only [BitVec.ofNat_add] at hfree ⊢
  obtain ⟨n, sys', hround, hout, hram, hother⟩ := poke_line hready hpc hkeys hcmd (by simpa using hfree)
  refine ⟨n, sys', hround, fun i hi => ?_, fun addr hf hnot => hother addr hf fun hmem => ?_, hout⟩
  · rw [hram i (by simpa using hi), List.getElem_map]
  · obtain ⟨i, hi, heq⟩ := mem_addresses.mp hmem
    exact hnot i (by simpa using hi) heq

/-- `200:41 42`. -/
theorem poke_writes_tokens_two :
    ∃ n sys', (typing [0x32#8, 0x30#8, 0x30#8, 0x3A#8, 0x34#8, 0x31#8, 0x20#8, 0x34#8, 0x32#8]
      default).RoundIn n sys' ∧ sys'.ram 0x0200#16 = 0x41#8 ∧ sys'.ram 0x0201#16 = 0x42#8 := by
  have haddr : HexRun 4 [0x32#8, 0x30#8, 0x30#8] := ⟨by decide, by decide, by decide⟩
  have hlast : Spaced [[0x34#8, 0x32#8]] [0x34#8, 0x32#8] :=
    @Spaced.token [0x34#8, 0x32#8] [] [] ⟨by decide, by decide, by decide⟩ (by decide) .nil
  have htoks : Spaced [[0x34#8, 0x31#8], [0x34#8, 0x32#8]] [0x34#8, 0x31#8, 0x20#8, 0x34#8, 0x32#8] :=
    @Spaced.token [0x34#8, 0x31#8] [[0x34#8, 0x32#8]] [0x20#8, 0x34#8, 0x32#8]
      ⟨by decide, by decide, by decide⟩ (by decide) (.space hlast)
  have hfree : ∀ i < 2, Free (BitVec.ofNat 16 (hexNumber [0x32#8, 0x30#8, 0x30#8] + i)) := by
    intro i hi
    obtain rfl | rfl : i = 0 ∨ i = 1 := by omega
    · exact ⟨by decide, by decide, by decide, by decide⟩
    · exact ⟨by decide, by decide, by decide, by decide⟩
  have hkeys := hears_typing [0x32#8, 0x30#8, 0x30#8, 0x3A#8, 0x34#8, 0x31#8, 0x20#8, 0x34#8, 0x32#8] default
    (by decide)
  obtain ⟨n, sys', hround, hram, -⟩ :=
    poke_writes_tokens (ready_typing _ _) rfl hkeys (by decide) haddr htoks hfree
  exact ⟨n, sys', hround, hram 0 (by decide), hram 1 (by decide)⟩

/-- `LIST` of a short range prints one row. -/
lemma list_row {sys : System} (hready : sys.Ready) (hpc : sys.cpu.pc = 0xCB00#16) {n : Nat} (hn : 0 < n)
    (hn16 : n ≤ 16) (haddr2 : sys.addr2 = sys.addr + BitVec.ofNat 16 (n - 1))
    (hfree : ∀ i < n, Free (sys.addr + BitVec.ofNat 16 i)) :
    ∃ k sys' bytes, sys.ReturnsIn k sys' ∧ sys'.tty.out = sys.tty.out ++ rowText sys.addr bytes ++ crlf ∧
      bytes.length = n ∧ ∀ i (hi : i < bytes.length), bytes[i] = sys.ram (sys.addr + BitVec.ofNat 16 i) := by
  have hm := hready.shows
  have hfirst := (hfree 0 hn).ram
  have hlast := (hfree (n - 1) (by omega)).ram
  rw [← haddr2] at hlast
  have hend : sys.addr2 ≠ 0xFFFF#16 := by
    intro h
    rw [h] at hlast
    exact absurd hlast (by decide)
  have hspan : span sys.addr sys.addr2 = n := by
    have ha : sys.addr + BitVec.ofNat 16 0 = sys.addr := by simp
    rw [ha] at hfirst
    have hle : (BitVec.ofNat 16 (n - 1)).toNat = n - 1 := by
      rw [BitVec.toNat_ofNat]
      omega
    rw [span, haddr2, BitVec.toNat_add, hle]
    rw [BitVec.lt_def] at hfirst
    simp only [BitVec.toNat_ofNat] at hfirst
    omega
  rw [hm.addr2] at hend
  obtain ⟨k, sys', m', hret, hshows, ⟨bytes, tape, y, rowCount, e', -, hwalk, hview⟩, -⟩ :=
    hm.returns (Machine.list_finishes (q := False) hpc hend False.elim) (by omega)
  have hlen : bytes.length = n := by
    rw [← hspan, hm.addr, hm.addr2]
    exact hwalk.length
  have hne : bytes ≠ [] := by
    rintro rfl
    rw [List.length_nil] at hlen
    omega
  have hout : m'.bus.out = _ := congrArg View.out hview
  refine ⟨k, sys', bytes, hret, ?_, hlen, fun i hi => ?_⟩
  · rw [hshows.out, hout, dump_row _ hne (by omega), hm.out, hm.addr, List.append_assoc]
    rfl
  · have hf := hfree i (by omega)
    rw [hm.ram_mem hf.clear hf.hi_lt, hm.addr]
    rw [hm.addr] at hf
    exact hwalk.shown.get i hi hf.clear

/-- A row of a listing restores its bytes. -/
theorem listed_row_restores {sys : System} (hready : sys.Ready) (hpc : sys.cpu.pc = 0xCB00#16) {n : Nat}
    (hn : 0 < n) (hn16 : n ≤ 16) (haddr2 : sys.addr2 = sys.addr + BitVec.ofNat 16 (n - 1))
    (hfree : ∀ i < n, Free (sys.addr + BitVec.ofNat 16 i)) :
    ∃ k listed text, sys.ReturnsIn k listed ∧ listed.tty.out = sys.tty.out ++ text ++ crlf ∧
      ∀ sys₁ : System, sys₁.Ready → sys₁.cpu.pc = 0xCF11#16 → sys₁.input.Yields (text ++ [0x0D#8]) →
        ∃ n₁ sys₁', sys₁.RoundIn n₁ sys₁' ∧
          (∀ i < n, sys₁'.ram (sys.addr + BitVec.ofNat 16 i) = sys.ram (sys.addr + BitVec.ofNat 16 i)) ∧
          (∀ addr, Free addr → (∀ i < n, addr ≠ sys.addr + BitVec.ofNat 16 i) →
            sys₁'.ram addr = sys₁.ram addr) ∧
          sys₁'.tty.out = sys₁.tty.out ++ Machine.prompt ++ text ++ crlf := by
  obtain ⟨k, sys', bytes, hret, hout, rfl, hbytes⟩ := list_row hready hpc hn hn16 haddr2 hfree
  refine ⟨k, sys', rowText sys.addr bytes, hret, hout, fun sys₁ hready₁ hpc₁ hin => ?_⟩
  have hlen : (rowText sys.addr bytes).length ≤ 64 := by
    rw [length_rowText]
    omega
  obtain ⟨htyped, hechoed⟩ := typed_plain (fun c hc => (plain_rowText hc).2) hlen
  have hcr : 0x0D#8 ∉ rowText sys.addr bytes := fun hmem => (plain_rowText hmem).1 rfl
  have hcmd := command_rowText sys.addr bytes
  rw [← htyped] at hcmd
  obtain ⟨n₁, sys₁', hround, hout₁, hram, hother⟩ := poke_line hready₁ hpc₁ ⟨hcr, hin⟩ hcmd hfree
  refine ⟨n₁, sys₁', hround, fun i hi => ?_, fun addr hf hnot => hother addr hf fun hmem => ?_, ?_⟩
  · rw [hram i hi, hbytes i hi]
  · obtain ⟨i, hi, heq⟩ := mem_addresses.mp hmem
    exact hnot i hi heq
  · rw [hout₁, heading, hechoed]
    simp

/-- The bytes at `$0200` and `$0201`. -/
theorem listed_row_restores_two : ∃ k listed text,
    (standing 0xCB00#16 { (default : Work) with addrHi := 0x02#8, addr2Lo := 0x01#8, addr2Hi := 0x02#8 }
      default).ReturnsIn k listed ∧
    listed.tty.out = text ++ crlf ∧
    ∀ sys₁ : System, sys₁.Ready → sys₁.cpu.pc = 0xCF11#16 → sys₁.input.Yields (text ++ [0x0D#8]) →
      ∃ n₁ sys₁', sys₁.RoundIn n₁ sys₁' ∧ sys₁'.ram 0x0200#16 = 0#8 ∧ sys₁'.ram 0x0201#16 = 0#8 := by
  have hfree : ∀ i < 2, Free ((standing 0xCB00#16
      { (default : Work) with addrHi := 0x02#8, addr2Lo := 0x01#8, addr2Hi := 0x02#8 } default).addr +
        BitVec.ofNat 16 i) := by
    intro i hi
    obtain rfl | rfl : i = 0 ∨ i = 1 := by omega
    · exact ⟨by decide, by decide, by decide, by decide⟩
    · exact ⟨by decide, by decide, by decide, by decide⟩
  obtain ⟨k, listed, text, hret, hout, hall⟩ :=
    listed_row_restores (ready_standing _ _ _) rfl (by decide) (by decide) (by decide) hfree
  refine ⟨k, listed, text, hret, hout, fun sys₁ hready hpc hin => ?_⟩
  obtain ⟨n₁, sys₁', hround, hram, -⟩ := hall sys₁ hready hpc hin
  exact ⟨n₁, sys₁', hround, hram 0 (by decide), hram 1 (by decide)⟩

end System

end Sys6
