import Sys6.Isa.Semantics
import Sys6.Proofs.AddressModes
import Sys6.Proofs.AluCorrect

/-!
# What the last T-state of each family does

The selectors pick an ALU function at the capture and a set of flags at the commit. When
both belong to one mnemonic, the two together are the reference effect of that mnemonic.
-/

namespace Sys6

open Isa (Mnemonic Mode Operand Arch)

variable {β : Type}

def binaryOf : Mnemonic → Option (AluOp × Reg × BinaryCommit)
  | .ADC => some (.ADC, .A, .arithmetic)
  | .SBC => some (.SBC, .A, .arithmetic)
  | .AND => some (.AND, .A, .logical)
  | .ORA => some (.ORA, .A, .logical)
  | .EOR => some (.EOR, .A, .logical)
  | .CMP => some (.CMP, .A, .compare)
  | .CPX => some (.CMP, .X, .compare)
  | .CPY => some (.CMP, .Y, .compare)
  | .BIT => some (.BIT, .A, .bitTest)
  | _ => none

def unaryOf : Mnemonic → Option (AluOp × UnaryCommit)
  | .ASL => some (.ASL, .shift)
  | .LSR => some (.LSR, .shift)
  | .ROL => some (.ROL, .shift)
  | .ROR => some (.ROR, .shift)
  | .INC => some (.INC, .incDec)
  | .DEC => some (.DEC, .incDec)
  | _ => none

def loadOf : Mnemonic → Option Reg
  | .LDA => some .A
  | .LDX => some .X
  | .LDY => some .Y
  | _ => none

def storeOf : Mnemonic → Option Reg
  | .STA => some .A
  | .STX => some .X
  | .STY => some .Y
  | _ => none

/-- The effect of a shift or count on its byte. -/
def unarySem : Mnemonic → Bool → Byte → Byte × Option Bool
  | .LSR, _ => Arch.lsr
  | .ROL, c => Arch.rol c
  | .ROR, c => Arch.ror c
  | .INC, _ => Arch.inc
  | .DEC, _ => Arch.dec
  | _, _ => Arch.asl

lemma or_zero_value (v : Byte) (c : Bool) : (ALU.execute 0#8 v .OR c).value = v :=
  BitVec.zero_or

lemma shiftLeft_toNat (v : Byte) : (v <<< 1).toNat = 2 * v.toNat % 256 := by
  rw [BitVec.toNat_shiftLeft, Nat.shiftLeft_eq]
  omega

lemma shiftRight_toNat (v : Byte) : (v >>> 1).toNat = v.toNat / 2 := by
  rw [BitVec.toNat_ushiftRight, Nat.shiftRight_eq_div_pow]

lemma execute_shl (a v : Byte) (c : Bool) :
    ALU.execute a v .SHL c = ⟨(Arch.asl v).1, decide (256 ≤ 2 * v.toNat)⟩ := by
  have hvalue : v <<< 1 = (Arch.asl v).1 := by
    apply BitVec.eq_of_toNat_eq
    rw [shiftLeft_toNat, Arch.asl, BitVec.toNat_ofNat]
  simp only [ALU.execute, hvalue, and_sign_eq_carry]

lemma execute_shr (a v : Byte) (c : Bool) :
    ALU.execute a v .SHR c = ⟨(Arch.lsr v).1, decide (v.toNat % 2 = 1)⟩ := by
  have hvalue : v >>> 1 = (Arch.lsr v).1 := by
    have hv := v.isLt
    apply BitVec.eq_of_toNat_eq
    rw [shiftRight_toNat, Arch.lsr, BitVec.toNat_ofNat]
    omega
  simp only [ALU.execute, hvalue, and_one_ne_zero]

lemma execute_rol (a v : Byte) (c : Bool) :
    ALU.execute a v .ROL c = ⟨(Arch.rol c v).1, decide (256 ≤ 2 * v.toNat)⟩ := by
  have hvalue : (v <<< 1) ||| (if c then 0x01#8 else 0x00#8) = (Arch.rol c v).1 := by
    apply BitVec.eq_of_toNat_eq
    have hbit : (if c then 0x01#8 else 0x00#8 : Byte).toNat = c.toNat := by cases c <;> rfl
    have hlow := Nat.two_pow_add_eq_or_of_lt (i := 1) (b := c.toNat) (Bool.toNat_lt c) (v.toNat % 128)
    rw [BitVec.toNat_or, shiftLeft_toNat, hbit, show 2 * v.toNat % 256 = 2 ^ 1 * (v.toNat % 128) by omega, ← hlow,
      Arch.rol, BitVec.toNat_ofNat]
    have hc := Bool.toNat_lt c
    omega
  simp only [ALU.execute, hvalue, and_sign_eq_carry]

lemma execute_ror (a v : Byte) (c : Bool) :
    ALU.execute a v .ROR c = ⟨(Arch.ror c v).1, decide (v.toNat % 2 = 1)⟩ := by
  have hvalue : (v >>> 1) ||| (if c then 0x80#8 else 0x00#8) = (Arch.ror c v).1 := by
    have hv := v.isLt
    apply BitVec.eq_of_toNat_eq
    have hbit : (if c then 0x80#8 else 0x00#8 : Byte).toNat = 2 ^ 7 * c.toNat := by cases c <;> rfl
    have hhigh := Nat.two_pow_add_eq_or_of_lt (i := 7) (b := v.toNat / 2) (by omega) c.toNat
    rw [BitVec.toNat_or, shiftRight_toNat, hbit, Nat.or_comm, ← hhigh, Arch.ror, BitVec.toNat_ofNat]
    have hc := Bool.toNat_lt c
    omega
  simp only [ALU.execute, hvalue, and_one_ne_zero]

lemma execute_inc (v : Byte) : (ALU.execute 0x01#8 v .ADD false).value = v + 1#8 := by
  rw [ALU.execute_add]
  apply BitVec.eq_of_toNat_eq
  simp only [BitVec.toNat_ofNat, BitVec.toNat_add, Bool.toNat_false]
  omega

lemma execute_dec (v : Byte) : (ALU.execute 0xFF#8 v .ADD false).value = v - 1#8 := by
  rw [ALU.execute_add]
  apply BitVec.eq_of_toNat_eq
  simp only [BitVec.toNat_ofNat, BitVec.toNat_sub, Bool.toNat_false]
  omega

lemma sign_bits (v : Byte) :
    (v &&& 0x80#8 != 0#8) = v.getLsbD 7 ∧ (v &&& 0x40#8 != 0#8) = v.getLsbD 6 :=
  ⟨and_twoPow_ne_zero 7 (by omega) v, and_twoPow_ne_zero 6 (by omega) v⟩

namespace CPU6502

lemma ir_applyBinaryAluOp (v : Byte) (c : CPU6502 β) : (c.applyBinaryAluOp v).fall.ir = c.ir :=
  congrArg Core.ir (core_applyBinaryAluOp v c)

lemma ir_applyUnaryAluOp (v : Byte) (c : CPU6502 β) (t : CpuStep) :
    ((c.applyUnaryAluOp v).fall.advance t).ir = c.ir :=
  congrArg Core.ir (core_applyUnaryAluOp v c)

lemma arch_applyUnaryAluOp (v : Byte) (c : CPU6502 β) : (c.applyUnaryAluOp v).arch = c.arch := by
  unfold applyUnaryAluOp
  cases unaryAluSelect c.ir with
  | none => rfl
  | some op => cases op <;> rfl

variable [BusLike β]

theorem arch_binary {mn : Mnemonic} {op : AluOp} {r : Reg} {k : BinaryCommit}
    (hmn : binaryOf mn = some (op, r, k)) {c : CPU6502 β}
    (hop : binaryAluSelect c.ir = some (op, r)) (hk : binaryCommitSelect c.ir = some k) (v : Byte) :
    ((c.applyBinaryAluOp v).fall.commitBinaryAluResult).arch =
      Isa.exec mn (.immediate v) c.arch := by
  have hir := ir_applyBinaryAluOp v c
  unfold commitBinaryAluResult
  rw [hir, hk]
  unfold applyBinaryAluOp
  rw [hop]
  cases mn <;> simp only [binaryOf, Option.some.injEq, Prod.mk.injEq, reduceCtorEq] at hmn <;>
    obtain ⟨rfl, rfl, rfl⟩ := hmn <;>
    simp only [Isa.exec, Arch.onValue, Arch.operandValue, Arch.adc, Arch.sbc, Arch.compare, Arch.bit,
      Arch.setA, Arch.setZN, beginBinaryAluOp, setA, setZFlag, setNFlag, setCFlag, setVFlag, fall,
      arch, reg, ALU.execute_add, aluZero_eq, aluNegative_eq]
  case ADC =>
    rw [aluOverflow_add]
    rfl
  case SBC =>
    rw [aluOverflow_sub, add_not_eq_ofInt]
    simp only [carry_sub]
    rfl
  case CMP | CPX | CPY =>
    simp only [add_not_true, carry_compare]
    rfl
  case BIT =>
    rw [(sign_bits v).1, (sign_bits v).2]
    rfl
  all_goals rfl

theorem arch_load {mn : Mnemonic} {r : Reg} (hmn : loadOf mn = some r) {c : CPU6502 β}
    (hr : loadSelect c.ir = some r) (v : Byte) :
    ((c.loadOperand v).fall.commitLoadResult).arch = Isa.exec mn (.immediate v) c.arch := by
  have hir : loadSelect (c.loadOperand v).fall.ir = some r := hr
  have hv : (c.loadOperand v).fall.aluOutput.value = v := or_zero_value v c.aluCarryIn
  unfold commitLoadResult
  rw [hir, hv]
  cases mn <;> simp only [loadOf, Option.some.injEq, reduceCtorEq] at hmn <;>
    subst hmn <;>
    simp only [aluZero_eq, aluNegative_eq] <;> rfl

omit [BusLike β] in
/-- The ALU output and the flags of a shift or count. -/
lemma unary_output {mn : Mnemonic} {op : AluOp} {k : UnaryCommit}
    (hmn : unaryOf mn = some (op, k)) {c : CPU6502 β}
    (hop : unaryAluSelect c.ir = some op) (hk : unaryCommitSelect c.ir = some k) (v : Byte)
    (d : CPU6502 β) (hout : d.aluOutput = (c.applyUnaryAluOp v).fall.aluOutput)
    (hir : d.ir = c.ir) :
    d.aluOutput.value = (unarySem mn c.pFlags.c v).1 ∧
      d.commitUnaryAluFlags.arch =
        { d.arch with p := { d.pFlags with
            c := (unarySem mn c.pFlags.c v).2.getD d.pFlags.c
            z := decide ((unarySem mn c.pFlags.c v).1 = 0#8)
            n := ((unarySem mn c.pFlags.c v).1).msb } } := by
  unfold commitUnaryAluFlags
  rw [hir, hk, hout]
  unfold applyUnaryAluOp
  rw [hop]
  cases mn <;> simp only [unaryOf, Option.some.injEq, Prod.mk.injEq, reduceCtorEq] at hmn <;>
    obtain ⟨rfl, rfl⟩ := hmn <;>
    simp only [unarySem, beginUnaryAluOp, setZFlag, setNFlag, setCFlag, fall, arch, execute_shl,
      execute_shr, execute_rol, execute_ror, execute_inc, execute_dec, aluZero_eq, aluNegative_eq] <;>
    constructor <;> first | rfl | trivial

/-- The last step of a read-modify-write instruction. -/
def modifyAt (addr : Word) (r : Byte × Option Bool) (s : Arch β) : Arch β :=
  { s.write addr r.1 with p := { s.p with c := r.2.getD s.p.c } } |>.setZN r.1

theorem arch_modify {mn : Mnemonic} {op : AluOp} {k : UnaryCommit}
    (hmn : unaryOf mn = some (op, k)) {c : CPU6502 β} (hop : unaryAluSelect c.ir = some op)
    (hk : unaryCommitSelect c.ir = some k) (v : Byte) (addr : Word) (t : CpuStep) :
    (((c.applyUnaryAluOp v).fall.advance t).commitRmwResult addr).arch =
      modifyAt addr (unarySem mn c.pFlags.c v) c.arch := by
  set d := (c.applyUnaryAluOp v).fall.advance t with hd
  obtain ⟨hval, hflags⟩ := unary_output hmn hop hk v (d.busWrite addr d.aluOutput.value) rfl
    (ir_applyUnaryAluOp v c t)
  have harch : d.arch = c.arch := arch_applyUnaryAluOp v c
  have hp : d.pFlags = c.pFlags := congrArg Arch.p harch
  have hend : (d.commitRmwResult addr).arch =
      (d.busWrite addr d.aluOutput.value).commitUnaryAluFlags.arch := rfl
  have hw : (d.busWrite addr d.aluOutput.value).arch =
      d.arch.write addr (unarySem mn c.pFlags.c v).1 := by
    rw [← hval]
    rfl
  rw [hend, hflags, hw, harch, show (d.busWrite addr d.aluOutput.value).pFlags = c.pFlags from hp]
  rfl

theorem arch_shiftAccumulator {mn : Mnemonic} {op : AluOp} {k : UnaryCommit}
    (hmn : unaryOf mn = some (op, k)) {c : CPU6502 β} (hop : unaryAluSelect c.ir = some op)
    (hk : unaryCommitSelect c.ir = some k) :
    ((c.applyUnaryAluOp c.a).fall.commitShiftAccumulator).arch =
      Isa.exec mn .accumulator c.arch := by
  set d := (c.applyUnaryAluOp c.a).fall with hd
  obtain ⟨hval, hflags⟩ := unary_output hmn hop hk c.a (d.setA d.aluOutput.value) rfl
    (ir_applyUnaryAluOp c.a c .T0)
  have harch : d.arch = c.arch := arch_applyUnaryAluOp c.a c
  have hp : d.pFlags = c.pFlags := congrArg Arch.p harch
  have hend : d.commitShiftAccumulator.arch =
      (d.setA d.aluOutput.value).commitUnaryAluFlags.arch := rfl
  have hw : (d.setA d.aluOutput.value).arch =
      { d.arch with a := (unarySem mn c.pFlags.c c.a).1 } := by
    rw [← hval]
    rfl
  rw [hend, hflags, hw, harch, show (d.setA d.aluOutput.value).pFlags = c.pFlags from hp]
  cases mn <;> simp only [unaryOf, Option.some.injEq, Prod.mk.injEq, reduceCtorEq] at hmn <;> rfl

theorem arch_store {mn : Mnemonic} {r : Reg} (hmn : storeOf mn = some r) {c : CPU6502 β}
    (hr : storeSelect c.ir = some r) (addr : Word) :
    ((c.busWrite addr c.storeSourceValue).advance .T0).arch =
      Isa.exec mn (.absolute addr) c.arch := by
  unfold storeSourceValue
  rw [hr]
  cases mn <;> simp only [storeOf, Option.some.injEq, reduceCtorEq] at hmn <;> subst hmn <;> rfl

end CPU6502

end Sys6
