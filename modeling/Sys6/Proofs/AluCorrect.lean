import Sys6.Cpu.Alu

/-!
# The ALU computes sums and differences

The adder with an inverted operand subtracts, and the bit formula for the overflow flag
says that the signed result does not fit in a byte.
-/

namespace Sys6

lemma aluZero_eq (d : Byte) : aluZero d = decide (d = 0#8) := by
  unfold aluZero
  rw [Bool.eq_iff_iff]
  simp

/-- Masking a single bit reads it. -/
lemma and_twoPow_ne_zero (i : Nat) (hi : i < 8) (d : Byte) : (d &&& BitVec.twoPow 8 i != 0#8) = d.getLsbD i := by
  have hne : BitVec.twoPow 8 i ≠ 0#8 := by
    intro h
    have hbit := congrArg (fun v : Byte => v.getLsbD i) h
    simp [hi] at hbit
  rw [BitVec.and_twoPow]
  cases d.getLsbD i with
  | false => rfl
  | true => exact bne_iff_ne.mpr hne

lemma and_sign_ne_zero (d : Byte) : (d &&& 0x80#8 != 0#8) = d.msb :=
  and_twoPow_ne_zero 7 (by omega) d

lemma and_one_ne_zero (d : Byte) : (d &&& 0x01#8 != 0#8) = decide (d.toNat % 2 = 1) := by
  have hbit : (d &&& 0x01#8 != 0#8) = d.getLsbD 0 := and_twoPow_ne_zero 0 (by omega) d
  rw [hbit, BitVec.getLsbD, Nat.testBit_zero]

lemma aluNegative_eq (d : Byte) : aluNegative d = d.msb := and_sign_ne_zero d

lemma aluOverflow_eq (a b d : Byte) :
    aluOverflow a b d = (a.msb == b.msb && a.msb != d.msb) := by
  unfold aluOverflow
  rw [and_sign_ne_zero, BitVec.msb_and, BitVec.msb_not, BitVec.msb_xor, BitVec.msb_xor]
  cases a.msb <;> cases b.msb <;> cases d.msb <;> rfl

lemma Byte.msb_eq (d : Byte) : d.msb = decide (128 ≤ d.toNat) := by
  rw [BitVec.msb_eq_decide]

lemma and_sign_eq_carry (v : Byte) : (v &&& 0x80#8 != 0#8) = decide (256 ≤ 2 * v.toNat) := by
  rw [and_sign_ne_zero, Byte.msb_eq, decide_eq_decide]
  omega

lemma Byte.toInt_eq (d : Byte) : d.toInt = if 128 ≤ d.toNat then (d.toNat : Int) - 256 else d.toNat := by
  rw [BitVec.toInt_eq_toNat_cond]
  have := d.isLt
  split_ifs <;> omega

lemma ALU.execute_add (a b : Byte) (c : Bool) :
    ALU.execute a b .ADD c =
      ⟨BitVec.ofNat 8 (a.toNat + b.toNat + c.toNat), decide (256 ≤ a.toNat + b.toNat + c.toNat)⟩ := by
  have hc : (if c then 1 else 0) = c.toNat := by cases c <;> rfl
  simp only [ALU.execute, hc, AluResult.mk.injEq]
  constructor
  · rw [show (0xFF : Nat) = 2 ^ 8 - 1 from rfl, Nat.and_two_pow_sub_one_eq_mod]
    apply BitVec.eq_of_toNat_eq
    simp only [BitVec.toNat_ofNat]
    omega
  · rw [decide_eq_decide]
    omega

/-- The overflow flag of a sum with carry. -/
lemma aluOverflow_add (a b : Byte) (c : Bool) :
    aluOverflow a b (BitVec.ofNat 8 (a.toNat + b.toNat + c.toNat)) =
      decide (a.toInt + b.toInt + c.toNat < -128 ∨ 127 < a.toInt + b.toInt + c.toNat) := by
  rw [aluOverflow_eq, Bool.eq_iff_iff]
  simp only [Byte.msb_eq, Byte.toInt_eq, BitVec.toNat_ofNat, Bool.and_eq_true, beq_iff_eq,
    bne_iff_ne, ne_eq, decide_eq_decide, decide_eq_true_eq]
  have ha := a.isLt
  have hb := b.isLt
  have hc : c.toNat ≤ 1 := Bool.toNat_le c
  split_ifs <;> omega

lemma Byte.not_toNat (m : Byte) : (~~~m).toNat = 255 - m.toNat := BitVec.toNat_not

/-- Adding the inverted operand subtracts, and a carry in means no borrow. -/
lemma add_not_eq_ofInt (a m : Byte) (c : Bool) :
    BitVec.ofNat 8 (a.toNat + (~~~m).toNat + c.toNat) =
      BitVec.ofInt 8 (a.toNat - m.toNat - (1 - c.toNat : Nat)) := by
  have ha := a.isLt
  have hm := m.isLt
  have hc : c.toNat ≤ 1 := Bool.toNat_le c
  have he : ((a.toNat + (~~~m).toNat + c.toNat : Nat) : Int) =
      ((a.toNat : Int) - m.toNat - (1 - c.toNat : Nat)) + (256 : Nat) := by
    rw [Byte.not_toNat]
    omega
  rw [← BitVec.ofInt_natCast, he]
  apply BitVec.eq_of_toInt_eq
  rw [BitVec.toInt_ofInt, BitVec.toInt_ofInt]
  exact Int.add_bmod_right _ 256

/-- The adder carries out of a subtraction when nothing is borrowed. -/
lemma carry_sub (a m : Byte) (c : Bool) :
    256 ≤ a.toNat + (~~~m).toNat + c.toNat ↔
      (0 : Int) ≤ a.toNat - m.toNat - (1 - c.toNat : Nat) := by
  have hm := m.isLt
  have hc : c.toNat ≤ 1 := Bool.toNat_le c
  rw [Byte.not_toNat]
  omega

/-- The overflow flag of a difference with borrow. -/
lemma aluOverflow_sub (a m : Byte) (c : Bool) :
    aluOverflow a (~~~m) (BitVec.ofNat 8 (a.toNat + (~~~m).toNat + c.toNat)) =
      decide (a.toInt - m.toInt - (1 - c.toNat : Nat) < -128 ∨
        127 < a.toInt - m.toInt - (1 - c.toNat : Nat)) := by
  rw [aluOverflow_add, decide_eq_decide]
  have hm := m.isLt
  have hc : c.toNat ≤ 1 := Bool.toNat_le c
  have hnot : (~~~m).toInt = -1 - m.toInt := by
    rw [Byte.toInt_eq, Byte.toInt_eq, Byte.not_toNat]
    split_ifs <;> omega
  rw [hnot]
  omega

lemma add_not_true (a m : Byte) : BitVec.ofNat 8 (a.toNat + (~~~m).toNat + true.toNat) = a - m := by
  apply BitVec.eq_of_toNat_eq
  have hm := m.isLt
  rw [BitVec.toNat_ofNat, Byte.not_toNat, BitVec.toNat_sub, Bool.toNat_true]
  omega

lemma carry_compare (a m : Byte) : 256 ≤ a.toNat + (~~~m).toNat + true.toNat ↔ m ≤ a := by
  rw [carry_sub, BitVec.le_def]
  simp only [Bool.toNat_true]
  omega

end Sys6
