import Sys6.Monitor.Session

/-!
# The line editor

A call of `READ_LINE`, for every sequence of keys.
-/

namespace Sys6

namespace System

/-- The buffer holds the keys as they stand after the editing, and the echo shows it. -/
theorem readLine_edits {sys : System} {keys : List Byte} (hready : sys.Ready) (hpc : sys.cpu.pc = 0xC400#16)
    (hears : sys.Hears keys) : ∃ n sys', sys.ReturnsIn n sys' ∧
      (∀ i (hi : i < (typed keys).length), sys'.ram (BitVec.ofNat 16 i) = (typed keys)[i]) ∧
      sys'.ram 0x0040#16 = BitVec.ofNat 8 (typed keys).length ∧ (typed keys).length ≤ 64 ∧
      sys'.tty.out = sys.tty.out ++ echoed [] keys ++ crlf ∧
      ∀ addr : Word, ¬addr ≤ 0x0040#16 → (addr.hi = 1#8 → 2 ≤ (sys.cpu.sp - addr.lo).toNat) →
        sys'.ram addr = sys.ram addr := by
  have hm := hready.shows
  have hin := hears.2
  rw [hm.input] at hin
  have hread := Machine.Returns.finishes (Machine.readLine_returns hpc hears.1 hin)
    (V := fun _ v => v = _) rfl
  obtain ⟨n, sys', m', hret, hshows, hview, hscratch⟩ := hm.returns hread (by omega)
  have hlen : (typed keys).length ≤ 64 := length_foldl_edit (by simp) keys
  have hwork : m'.bus.work = _ := congrArg View.work hview
  have hlow : m'.bus.low = sys.machine.bus.low := congrArg View.low hview
  have hhigh : m'.bus.high = sys.machine.bus.high := congrArg View.high hview
  have hholds : Holds (keyedIn sys.machine.bus.work.lineBuf [] keys) (typed keys) :=
    holds_keyedIn (fun i hi => absurd hi (by simp)) (by simp) keys
  refine ⟨n, sys', hret, fun i hi => ?_, ?_, hlen, ?_, fun addr hbuf hstack => ?_⟩
  · have hi8 : (BitVec.ofNat 8 i).toNat = i := by
      rw [BitVec.toNat_ofNat]
      omega
    have hword : BitVec.ofNat 16 i = word 0#8 (BitVec.ofNat 8 i) := by
      apply BitVec.eq_of_toNat_eq
      rw [word_toNat, hi8, BitVec.toNat_ofNat, BitVec.toNat_ofNat]
      omega
    have hcell : BitVec.ofNat 8 i < 0x40#8 := by
      rw [BitVec.lt_def, hi8, BitVec.toNat_ofNat]
      omega
    rw [hword, hshows.ram_zp, Board.zp, if_pos hcell, hwork]
    exact hholds i hi
  · rw [show (0x0040#16 : Word) = word 0#8 0x40#8 by decide, hshows.ram_zp, Board.zp, hwork]
    rfl
  · have hout : m'.bus.out = _ := congrArg View.out hview
    rw [hshows.out, hout, hm.out]
  · refine hm.ram_eq hshows (fun h0 => ?_) (fun h1 => ?_) (by rw [hhigh])
    · have hcell : ¬addr.lo.toNat ≤ 0x40 := by
        have hhi := addr.hi_toNat
        have hlo := addr.lo_toNat
        rw [h0] at hhi
        simp only [BitVec.le_def, BitVec.toNat_ofNat] at hbuf hhi
        omega
      have hbuf : ¬addr.lo < 0x40#8 := by
        simp only [BitVec.lt_def, BitVec.toNat_ofNat]
        omega
      have hlen : addr.lo ≠ 0x40#8 := by
        intro h
        rw [h] at hcell
        exact hcell (by decide)
      unfold Board.zp
      rw [hwork, hlow, if_neg hbuf, if_neg hbuf, if_neg hlen, if_neg hlen]
    · refine hscratch addr.lo ?_
      rw [← hm.sp]
      exact hstack h1

/-- `A`, a backspace and `B` are typed. -/
theorem readLine_edits_backspace : ∃ n sys',
    { standing 0xC400#16 default default with
      term := fun i => ([0x41#8, 0x08#8, 0x42#8] ++ [0x0D#8])[i]? }.ReturnsIn n sys' ∧
    sys'.ram 0x0000#16 = 0x42#8 ∧ sys'.ram 0x0040#16 = 1#8 ∧
    sys'.tty.out = [0x41#8, 0x08#8, 0x20#8, 0x08#8, 0x42#8] ++ crlf := by
  set sys : System := { standing 0xC400#16 default default with
    term := fun i => ([0x41#8, 0x08#8, 0x42#8] ++ [0x0D#8])[i]? }
  have hready : sys.Ready := ready_of_wire ⟨rfl, rfl, rfl⟩ rfl
  have hears : sys.Hears [0x41#8, 0x08#8, 0x42#8] := hears_typing [0x41#8, 0x08#8, 0x42#8] default (by decide)
  obtain ⟨n, sys', hret, htext, hlen, -, hout, -⟩ := readLine_edits hready rfl hears
  exact ⟨n, sys', hret, htext 0 (by decide), hlen, hout⟩

end System

end Sys6
