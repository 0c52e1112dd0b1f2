import Sys6.Library.Limbs
import Sys6.Proofs.StraightLine

/-!
# Multi-byte arithmetic

Programs that add, subtract, double and halve numbers of any length, one byte after the other.
-/

namespace Sys6

open Isa (Mnemonic Arch)

lemma toInt_eq_signed (v : Byte) : v.toInt = signed 256 v.toNat := by
  rw [BitVec.toInt_eq_toNat_cond]
  unfold signed
  split_ifs <;> simp

namespace Isa.Arch

variable (s : Arch (Word → Byte)) (v : Byte)

lemma adc_limb : (s.adc v).a.toNat + 256 * (s.adc v).p.c.toNat = s.a.toNat + v.toNat + s.p.c.toNat := by
  have ha := s.a.isLt
  have hv := v.isLt
  have hc : s.p.c.toNat ≤ 1 := Bool.toNat_le _
  simp only [adc, setA, setZN, BitVec.toNat_ofNat]
  by_cases h : 256 ≤ s.a.toNat + v.toNat + s.p.c.toNat
  · rw [decide_eq_true h, Bool.toNat_true]
    omega
  · rw [decide_eq_false h, Bool.toNat_false]
    omega

lemma adc_overflow : (s.adc v).p.v = true ↔
    ¬InRange 256 (signed 256 s.a.toNat + signed 256 v.toNat + s.p.c.toNat) := by
  simp only [adc, setA, setZN, decide_eq_true_eq, toInt_eq_signed, InRange]
  omega

/-- The borrow is the carry turned over. -/
lemma sbc_limb : s.a.toNat + 256 * (1 - (s.sbc v).p.c.toNat) =
    (s.sbc v).a.toNat + v.toNat + (1 - s.p.c.toNat) := by
  have ha := s.a.isLt
  have hv := v.isLt
  have hc : s.p.c.toNat ≤ 1 := Bool.toNat_le _
  simp only [sbc, setA, setZN, BitVec.toNat_ofInt]
  by_cases h : (0 : ℤ) ≤ s.a.toNat - v.toNat - (1 - s.p.c.toNat : ℕ)
  · rw [decide_eq_true h, Bool.toNat_true]
    omega
  · rw [decide_eq_false h, Bool.toNat_false]
    omega

lemma sbc_overflow : (s.sbc v).p.v = true ↔
    ¬InRange 256 (signed 256 s.a.toNat - signed 256 v.toNat - (1 - s.p.c.toNat : ℕ)) := by
  simp only [sbc, setA, setZN, decide_eq_true_eq, toInt_eq_signed, InRange]
  omega

lemma rol_limb (c : Bool) : (rol c v).1.toNat + 256 * ((rol c v).2.getD false).toNat =
    v.toNat + v.toNat + c.toNat := by
  have hv := v.isLt
  have hc : c.toNat ≤ 1 := Bool.toNat_le _
  simp only [rol, BitVec.toNat_ofNat, Option.getD_some]
  by_cases h : 256 ≤ 2 * v.toNat
  · rw [decide_eq_true h, Bool.toNat_true]
    omega
  · rw [decide_eq_false h, Bool.toNat_false]
    omega

lemma ror_limb (c : Bool) : 2 * (ror c v).1.toNat + ((ror c v).2.getD false).toNat =
    v.toNat + 256 * c.toNat := by
  have hv := v.isLt
  have hc : c.toNat ≤ 1 := Bool.toNat_le _
  simp only [ror, BitVec.toNat_ofNat, Option.getD_some]
  by_cases h : v.toNat % 2 = 1
  · rw [decide_eq_true h, Bool.toNat_true]
    omega
  · rw [decide_eq_false h, Bool.toNat_false]
    omega

/-- The first limb is shifted as the others are, with nothing carried in. -/
lemma asl_eq_rol : asl v = rol false v := by simp [asl, rol]

lemma lsr_eq_ror : lsr v = ror false v := by simp [lsr, ror]

end Isa.Arch

/-- The number in the `n` bytes at `f 0`, `f 1`, … -/
def value {β : Type} [BusLike β] (f : ℕ → Word) (n : ℕ) (bus : β) : ℕ :=
  number 256 (fun i => (peek bus (f i)).toNat) n

lemma value_lt {β : Type} [BusLike β] (f : ℕ → Word) (n : ℕ) (bus : β) : value f n bus < 256 ^ n :=
  number_lt fun _ _ => BitVec.isLt _

lemma value_congr {β γ : Type} [BusLike β] [BusLike γ] {f : ℕ → Word} {n : ℕ} {bus : β} {bus' : γ}
    (h : ∀ i < n, peek bus (f i) = peek bus' (f i)) : value f n bus = value f n bus' := by
  apply number_congr
  intro i hi
  rw [h i hi]

/-- The sign of a number is that of its last byte. -/
lemma signed_value {β : Type} [BusLike β] (f : ℕ → Word) (n : ℕ) (bus : β) :
    signed (256 ^ (n + 1)) (value f (n + 1) bus) =
      value f n bus + 256 ^ n * signed 256 (peek bus (f n)).toNat :=
  signed_number (H := 128) rfl (value_lt f n bus)

namespace Isa

/-- `LDA a; op b; STA r`. -/
def limb (op : Mnemonic) (a b r : Word) : List Instruction := [.on .LDA a, .on op b, .on .STA r]

def limbs (op : Mnemonic) (a b r : ℕ → Word) (n : ℕ) : List Instruction :=
  (List.range n).flatMap fun i => limb op (a i) (b i) (r i)

lemma limbs_succ (op : Mnemonic) (a b r : ℕ → Word) (n : ℕ) :
    limbs op a b r (n + 1) = limbs op a b r n ++ limb op (a n) (b n) (r n) := by
  simp [limbs, List.range_succ]

/-- No byte of the result is written before the byte of an operand at the same place is read, and
none is written twice. -/
def Apart (n : ℕ) (a b r : ℕ → Word) : Prop :=
  ∀ i j, i < j → j < n → r i ≠ a j ∧ r i ≠ b j ∧ r i ≠ r j

section Limbs

variable {op : Mnemonic} {a b r : ℕ → Word} {n k : ℕ} (t : Arch (Word → Byte))

/-- One limb writes the byte of the result. -/
lemma bus_limb (hop : op ∈ [Mnemonic.ADC, .SBC]) (a b r : Word) :
    ((limb op a b r).foldl Instruction.run t).bus =
      Function.update t.bus r ((limb op a b r).foldl Instruction.run t).a := by
  simp only [List.mem_cons, List.not_mem_nil, or_false] at hop
  rcases hop with rfl | rfl <;> rfl

lemma bus_limbs (hop : op ∈ [Mnemonic.ADC, .SBC]) {w : Word} (hw : ∀ i < k, r i ≠ w) :
    ((limbs op a b r k).foldl Instruction.run t).bus w = t.bus w := by
  induction k with
  | zero => rfl
  | succ k ih =>
    have hne : w ≠ r k := (hw k (by omega)).symm
    rw [limbs_succ, List.foldl_append, bus_limb _ hop, Function.update_of_ne hne]
    exact ih fun i hi => hw i (by omega)

/-- What a limb finds and leaves behind in a chain. -/
structure LimbStep (op : Mnemonic) (a b r : ℕ → Word) (k : ℕ) (t u u' : Arch (Word → Byte)) : Prop where
  run : u' = (limb op (a k) (b k) (r k)).foldl Instruction.run u
  left : u.bus (a k) = t.bus (a k)
  right : u.bus (b k) = t.bus (b k)
  low : value r k u'.bus = value r k u.bus
  byte : u'.bus (r k) = u'.a

lemma limbStep (hop : op ∈ [Mnemonic.ADC, .SBC]) (hapart : Apart n a b r) (hk : k < n) :
    LimbStep op a b r k t ((limbs op a b r k).foldl Instruction.run t)
      ((limbs op a b r (k + 1)).foldl Instruction.run t) := by
  have hrun : (limbs op a b r (k + 1)).foldl Instruction.run t =
      (limb op (a k) (b k) (r k)).foldl Instruction.run ((limbs op a b r k).foldl Instruction.run t) := by
    rw [limbs_succ, List.foldl_append]
  refine ⟨hrun, ?_, ?_, ?_, ?_⟩
  · exact bus_limbs t hop fun i hi => (hapart i k hi hk).1
  · exact bus_limbs t hop fun i hi => (hapart i k hi hk).2.1
  · apply value_congr
    intro i hi
    show ((limbs op a b r (k + 1)).foldl Instruction.run t).bus (r i) = _
    rw [hrun, bus_limb _ hop, Function.update_of_ne (hapart i k hi hk).2.2]
    rfl
  · rw [hrun, bus_limb _ hop, Function.update_self]

lemma LimbStep.adc {u u' : Arch (Word → Byte)} (h : LimbStep .ADC a b r k t u u') :
    (u'.bus (r k)).toNat + 256 * u'.p.c.toNat = (t.bus (a k)).toNat + (t.bus (b k)).toNat + u.p.c.toNat ∧
    (u'.p.v = true ↔ ¬InRange 256 (signed 256 (t.bus (a k)).toNat + signed 256 (t.bus (b k)).toNat +
      u.p.c.toNat)) := by
  have hlimb := Arch.adc_limb (u.setA (u.bus (a k))) (u.bus (b k))
  have hover := Arch.adc_overflow (u.setA (u.bus (a k))) (u.bus (b k))
  rw [h.byte, ← h.left, ← h.right, h.run]
  exact ⟨hlimb, hover⟩

lemma LimbStep.sbc {u u' : Arch (Word → Byte)} (h : LimbStep .SBC a b r k t u u') :
    (t.bus (a k)).toNat + 256 * (1 - u'.p.c.toNat) =
      (u'.bus (r k)).toNat + (t.bus (b k)).toNat + (1 - u.p.c.toNat) ∧
    (u'.p.v = true ↔ ¬InRange 256 (signed 256 (t.bus (a k)).toNat - signed 256 (t.bus (b k)).toNat -
      (1 - u.p.c.toNat : ℕ))) := by
  have hlimb := Arch.sbc_limb (u.setA (u.bus (a k))) (u.bus (b k))
  have hover := Arch.sbc_overflow (u.setA (u.bus (a k))) (u.bus (b k))
  rw [h.byte, ← h.left, ← h.right, h.run]
  exact ⟨hlimb, hover⟩

/-- After `k` limbs of a sum the carry stands for what is missing. -/
theorem sum_limbs (hapart : Apart n a b r) (hc : t.p.c = false) (hk : k ≤ n) :
    let u := (limbs .ADC a b r k).foldl Instruction.run t
    value r k u.bus + u.p.c.toNat * 256 ^ k = value a k t.bus + value b k t.bus := by
  induction k with
  | zero =>
    show 0 + t.p.c.toNat * 256 ^ 0 = 0 + 0
    rw [hc]
    rfl
  | succ k ih =>
    have hstep := limbStep t (show Mnemonic.ADC ∈ _ by decide) hapart hk
    have hlow := ih (by omega)
    dsimp only at hlow
    rw [← hstep.low] at hlow
    exact ripple hlow hstep.adc.1

/-- After `k` limbs of a difference the borrow stands for what is too much. -/
theorem difference_limbs (hapart : Apart n a b r) (hc : t.p.c = true) (hk : k ≤ n) :
    let u := (limbs .SBC a b r k).foldl Instruction.run t
    value a k t.bus + (1 - u.p.c.toNat) * 256 ^ k = value r k u.bus + value b k t.bus := by
  induction k with
  | zero =>
    show 0 + (1 - t.p.c.toNat) * 256 ^ 0 = 0 + 0
    rw [hc]
    rfl
  | succ k ih =>
    have hstep := limbStep t (show Mnemonic.SBC ∈ _ by decide) hapart hk
    have hlow := ih (by omega)
    dsimp only at hlow
    rw [← hstep.low] at hlow
    exact ripple hlow hstep.sbc.1

/-- The last limb of a sum overflows when the sum does. -/
theorem sum_overflow (hapart : Apart (n + 1) a b r) (hc : t.p.c = false) :
    ((limbs .ADC a b r (n + 1)).foldl Instruction.run t).p.v = true ↔
      ¬InRange (256 ^ (n + 1)) (signed (256 ^ (n + 1)) (value a (n + 1) t.bus) +
        signed (256 ^ (n + 1)) (value b (n + 1) t.bus)) := by
  have hstep := limbStep t (show Mnemonic.ADC ∈ _ by decide) hapart (Nat.lt_succ_self n)
  have hlow := sum_limbs t hapart hc (Nat.le_succ n)
  set u := (limbs .ADC a b r n).foldl Instruction.run t
  have hcast : (value r n u.bus : ℤ) + u.p.c.toNat * 256 ^ n = value a n t.bus + value b n t.bus := by
    exact_mod_cast hlow
  have hsum : signed (256 ^ (n + 1)) (value a (n + 1) t.bus) + signed (256 ^ (n + 1)) (value b (n + 1) t.bus) =
      value r n u.bus + (256 ^ n : ℕ) * (signed 256 (t.bus (a n)).toNat + signed 256 (t.bus (b n)).toNat +
        u.p.c.toNat) := by
    rw [signed_value, signed_value]
    push_cast
    show (value a n t.bus + 256 ^ n * signed 256 (t.bus (a n)).toNat : ℤ) +
      (value b n t.bus + 256 ^ n * signed 256 (t.bus (b n)).toNat) = _
    linear_combination -hcast
  rw [hstep.adc.2, hsum, pow_succ, inRange_iff (H := 128) rfl (value_lt r n u.bus)]

/-- The last limb of a difference overflows when the difference does. -/
theorem difference_overflow (hapart : Apart (n + 1) a b r) (hc : t.p.c = true) :
    ((limbs .SBC a b r (n + 1)).foldl Instruction.run t).p.v = true ↔
      ¬InRange (256 ^ (n + 1)) (signed (256 ^ (n + 1)) (value a (n + 1) t.bus) -
        signed (256 ^ (n + 1)) (value b (n + 1) t.bus)) := by
  have hstep := limbStep t (show Mnemonic.SBC ∈ _ by decide) hapart (Nat.lt_succ_self n)
  have hlow := difference_limbs t hapart hc (Nat.le_succ n)
  set u := (limbs .SBC a b r n).foldl Instruction.run t
  have hcast : (value a n t.bus : ℤ) + (1 - u.p.c.toNat : ℕ) * 256 ^ n = value r n u.bus + value b n t.bus := by
    exact_mod_cast hlow
  have hdiff : signed (256 ^ (n + 1)) (value a (n + 1) t.bus) - signed (256 ^ (n + 1)) (value b (n + 1) t.bus) =
      value r n u.bus + (256 ^ n : ℕ) * (signed 256 (t.bus (a n)).toNat - signed 256 (t.bus (b n)).toNat -
        (1 - u.p.c.toNat : ℕ)) := by
    rw [signed_value, signed_value]
    push_cast
    show (value a n t.bus + 256 ^ n * signed 256 (t.bus (a n)).toNat : ℤ) -
      (value b n t.bus + 256 ^ n * signed 256 (t.bus (b n)).toNat) = _
    linear_combination hcast
  rw [hstep.sbc.2, hdiff, pow_succ, inRange_iff (H := 128) rfl (value_lt r n u.bus)]

end Limbs

section Shifts

variable {a : ℕ → Word} {n k : ℕ} (t : Arch (Word → Byte))

/-- `op` on the byte at each address. -/
def shifts (op : Mnemonic) (a : ℕ → Word) (is : List ℕ) : List Instruction := is.map fun i => .on op (a i)

lemma rol_run (w : Word) (t : Arch (Word → Byte)) :
    ((Instruction.on .ROL w).run t).bus = Function.update t.bus w (Arch.rol t.p.c (t.bus w)).1 ∧
      ((Instruction.on .ROL w).run t).p.c = (Arch.rol t.p.c (t.bus w)).2.getD false := ⟨rfl, rfl⟩

lemma ror_run (w : Word) (t : Arch (Word → Byte)) :
    ((Instruction.on .ROR w).run t).bus = Function.update t.bus w (Arch.ror t.p.c (t.bus w)).1 ∧
      ((Instruction.on .ROR w).run t).p.c = (Arch.ror t.p.c (t.bus w)).2.getD false := ⟨rfl, rfl⟩

/-- `ASL` is `ROL` with the carry cleared, and `LSR` is `ROR`. -/
lemma asl_run (w : Word) (t : Arch (Word → Byte)) :
    (Instruction.on .ASL w).run t = (Instruction.on .ROL w).run ((Instruction.plain .CLC).run t) := by
  show t.modify (.absolute w) Arch.asl = Arch.modify (.absolute w) (Arch.rol false) _
  rw [funext Arch.asl_eq_rol]
  rfl

lemma lsr_run (w : Word) (t : Arch (Word → Byte)) :
    (Instruction.on .LSR w).run t = (Instruction.on .ROR w).run ((Instruction.plain .CLC).run t) := by
  show t.modify (.absolute w) Arch.lsr = Arch.modify (.absolute w) (Arch.ror false) _
  rw [funext Arch.lsr_eq_ror]
  rfl

lemma bus_shifts {op : Mnemonic} (hop : op ∈ [Mnemonic.ROL, .ROR]) {w : Word} (is : List ℕ)
    (hw : ∀ i ∈ is, a i ≠ w) : ((shifts op a is).foldl Instruction.run t).bus w = t.bus w := by
  induction is generalizing t with
  | nil => rfl
  | cons i is ih =>
    have hne : w ≠ a i := (hw i List.mem_cons_self).symm
    have hfirst : ((Instruction.on op (a i)).run t).bus w = t.bus w := by
      simp only [List.mem_cons, List.not_mem_nil, or_false] at hop
      rcases hop with rfl | rfl
      · rw [(rol_run _ t).1, Function.update_of_ne hne]
      · rw [(ror_run _ t).1, Function.update_of_ne hne]
    have hrest := ih ((Instruction.on op (a i)).run t) fun j hj => hw j (List.mem_cons_of_mem _ hj)
    exact hrest.trans hfirst

variable (hinj : ∀ i j, i < j → j < n → a i ≠ a j) (hk : k ≤ n)
include hinj hk

/-- After `k` bytes of a double the carry stands for what is missing. -/
theorem double_shifts (hc : t.p.c = false) :
    let u := (shifts .ROL a (List.range k)).foldl Instruction.run t
    value a k u.bus + u.p.c.toNat * 256 ^ k = value a k t.bus + value a k t.bus := by
  induction k with
  | zero =>
    show 0 + t.p.c.toNat * 256 ^ 0 = 0 + 0
    rw [hc]
    rfl
  | succ k ih =>
    have hlow := ih (by omega)
    have hlast : (shifts .ROL a (List.range (k + 1))).foldl Instruction.run t =
        (Instruction.on .ROL (a k)).run ((shifts .ROL a (List.range k)).foldl Instruction.run t) := by
      simp [shifts, List.range_succ]
    rw [hlast]
    dsimp only at hlow ⊢
    have hahead : ((shifts .ROL a (List.range k)).foldl Instruction.run t).bus (a k) = t.bus (a k) :=
      bus_shifts t (by decide) _ fun i hi => hinj i k (List.mem_range.mp hi) hk
    set u := (shifts .ROL a (List.range k)).foldl Instruction.run t
    obtain ⟨hbus, hcarry⟩ := rol_run (a k) u
    have hlimb := Arch.rol_limb (u.bus (a k)) u.p.c
    rw [← hcarry] at hlimb
    have hbehind : value a k ((Instruction.on .ROL (a k)).run u).bus = value a k u.bus := by
      apply value_congr
      intro i hi
      show ((Instruction.on .ROL (a k)).run u).bus (a i) = u.bus (a i)
      rw [hbus, Function.update_of_ne (hinj i k hi hk)]
    rw [← hbehind] at hlow
    refine ripple hlow ?_
    show (((Instruction.on .ROL (a k)).run u).bus (a k)).toNat + _ = (t.bus (a k)).toNat + (t.bus (a k)).toNat + _
    rw [hbus, Function.update_self, ← hahead]
    exact hlimb

/-- The carry that comes in at the top of a half leaves at the bottom. -/
theorem half_shifts :
    let u := (shifts .ROR a (List.range k).reverse).foldl Instruction.run t
    2 * value a k u.bus + u.p.c.toNat = value a k t.bus + t.p.c.toNat * 256 ^ k := by
  induction k generalizing t with
  | zero =>
    show 2 * 0 + t.p.c.toNat = 0 + t.p.c.toNat * 256 ^ 0
    omega
  | succ k ih =>
    have hfirst : (shifts .ROR a (List.range (k + 1)).reverse).foldl Instruction.run t =
        (shifts .ROR a (List.range k).reverse).foldl Instruction.run ((Instruction.on .ROR (a k)).run t) := by
      simp [shifts, List.range_succ]
    rw [hfirst]
    have hlow := ih ((Instruction.on .ROR (a k)).run t) (by omega)
    dsimp only at hlow ⊢
    obtain ⟨hbus, hcarry⟩ := ror_run (a k) t
    have hlimb := Arch.ror_limb (t.bus (a k)) t.p.c
    rw [← hcarry] at hlimb
    have hbehind : value a k ((Instruction.on .ROR (a k)).run t).bus = value a k t.bus := by
      apply value_congr
      intro i hi
      show ((Instruction.on .ROR (a k)).run t).bus (a i) = t.bus (a i)
      rw [hbus, Function.update_of_ne (hinj i k hi hk)]
    have hkept : ((shifts .ROR a (List.range k).reverse).foldl Instruction.run
        ((Instruction.on .ROR (a k)).run t)).bus (a k) = ((Instruction.on .ROR (a k)).run t).bus (a k) := by
      apply bus_shifts _ (by decide)
      intro i hi
      exact hinj i k (List.mem_range.mp (List.mem_reverse.mp hi)) hk
    rw [hbehind] at hlow
    refine ripple_down hlow ?_
    show 2 * (((shifts .ROR a (List.range k).reverse).foldl Instruction.run ((Instruction.on .ROR (a k)).run t)).bus
      (a k)).toNat + _ = (t.bus (a k)).toNat + _
    rw [hkept, hbus, Function.update_self]
    exact hlimb

end Shifts

end Isa

/-- The four programs. -/
inductive Chain
  | sum | difference | double | half
deriving DecidableEq, Repr

open Isa (Instruction)

/-- The lines of a program for `n` bytes at `a`, at `b` and, of the result, at `r`. Doubles and
halves stay where they are. -/
def Chain.lines (n : ℕ) (a b r : ℕ → Word) : Chain → List Instruction
  | .sum => .plain .CLC :: (List.range n).flatMap fun i => [.on .LDA (a i), .on .ADC (b i), .on .STA (r i)]
  | .difference =>
    .plain .SEC :: (List.range n).flatMap fun i => [.on .LDA (a i), .on .SBC (b i), .on .STA (r i)]
  | .double => .on .ASL (a 0) :: (List.range (n - 1)).map fun i => .on .ROL (a (i + 1))
  | .half => .on .LSR (a (n - 1)) :: (List.range (n - 1)).reverse.map fun i => .on .ROR (a i)

/-- The result in memory and in the flags. -/
def Chain.Correct {β : Type} [BusLike β] (n : ℕ) (a b r : ℕ → Word) (before after : CPU6502 β) :
    Chain → Prop
  | .sum =>
    let x := value a n before.bus
    let y := value b n before.bus
    value r n after.bus = (x + y) % 256 ^ n ∧ (after.pFlags.c = true ↔ 256 ^ n ≤ x + y) ∧
      (after.pFlags.v = true ↔ ¬InRange (256 ^ n) (signed (256 ^ n) x + signed (256 ^ n) y))
  | .difference =>
    let x := value a n before.bus
    let y := value b n before.bus
    (value r n after.bus : ℤ) = (x - y) % 256 ^ n ∧ (after.pFlags.c = true ↔ y ≤ x) ∧
      (after.pFlags.v = true ↔ ¬InRange (256 ^ n) (signed (256 ^ n) x - signed (256 ^ n) y))
  | .double =>
    let x := value a n before.bus
    value a n after.bus = 2 * x % 256 ^ n ∧ after.pFlags.c = x.testBit (8 * n - 1)
  | .half =>
    let x := value a n before.bus
    value a n after.bus = x / 2 ∧ after.pFlags.c = x.testBit 0

namespace Isa

section Plain

variable {a b r : ℕ → Word} {n : ℕ} (t : Arch (Word → Byte))

/-- A carry of `M`, or none, is in a sum `x` of which `z` is kept. -/
lemma carry_iff {x z M : ℕ} {c : Bool} (h : z + c.toNat * M = x) (hz : z < M) : c = true ↔ M ≤ x := by
  cases c with
  | false =>
    simp only [Bool.toNat_false, Nat.zero_mul] at h
    simp only [Bool.false_eq_true, false_iff]
    omega
  | true =>
    simp only [Bool.toNat_true, Nat.one_mul] at h
    simp only [true_iff]
    omega

lemma sum_correct (hapart : Apart n a b r) (hn : 1 ≤ n) :
    let u := (Chain.sum.lines n a b r).foldl Instruction.run t
    value r n u.bus = (value a n t.bus + value b n t.bus) % 256 ^ n ∧
      (u.p.c = true ↔ 256 ^ n ≤ value a n t.bus + value b n t.bus) ∧
      (u.p.v = true ↔ ¬InRange (256 ^ n) (signed (256 ^ n) (value a n t.bus) +
        signed (256 ^ n) (value b n t.bus))) := by
  obtain ⟨m, rfl⟩ : ∃ m, n = m + 1 := ⟨n - 1, by omega⟩
  have hsum := sum_limbs ((Instruction.plain .CLC).run t) hapart rfl le_rfl
  have hover := sum_overflow ((Instruction.plain .CLC).run t) hapart rfl
  have hlt := value_lt r (m + 1)
    ((limbs .ADC a b r (m + 1)).foldl Instruction.run ((Instruction.plain .CLC).run t)).bus
  exact ⟨mod_of_carry hsum hlt, carry_iff hsum hlt, hover⟩

lemma difference_correct (hapart : Apart n a b r) (hn : 1 ≤ n) :
    let u := (Chain.difference.lines n a b r).foldl Instruction.run t
    (value r n u.bus : ℤ) = (value a n t.bus - value b n t.bus) % 256 ^ n ∧
      (u.p.c = true ↔ value b n t.bus ≤ value a n t.bus) ∧
      (u.p.v = true ↔ ¬InRange (256 ^ n) (signed (256 ^ n) (value a n t.bus) -
        signed (256 ^ n) (value b n t.bus))) := by
  obtain ⟨m, rfl⟩ : ∃ m, n = m + 1 := ⟨n - 1, by omega⟩
  have hdiff := difference_limbs ((Instruction.plain .SEC).run t) hapart rfl le_rfl
  have hover := difference_overflow ((Instruction.plain .SEC).run t) hapart rfl
  have hlt := value_lt r (m + 1)
    ((limbs .SBC a b r (m + 1)).foldl Instruction.run ((Instruction.plain .SEC).run t)).bus
  have hb := value_lt b (m + 1) t.bus
  set u := (limbs .SBC a b r (m + 1)).foldl Instruction.run ((Instruction.plain .SEC).run t)
  have hdiff' : value a (m + 1) t.bus + (1 - u.p.c.toNat) * 256 ^ (m + 1) =
      value r (m + 1) u.bus + value b (m + 1) t.bus := hdiff
  refine ⟨?_, ?_, hover⟩
  · show (value r (m + 1) u.bus : ℤ) = _
    have hcast : (value a (m + 1) t.bus : ℤ) + (1 - u.p.c.toNat : ℕ) * 256 ^ (m + 1) =
        value r (m + 1) u.bus + value b (m + 1) t.bus := by exact_mod_cast hdiff'
    rw [show (value a (m + 1) t.bus - value b (m + 1) t.bus : ℤ) =
      value r (m + 1) u.bus - (1 - u.p.c.toNat : ℕ) * 256 ^ (m + 1) by linarith, Int.sub_mul_emod_self_right,
      Int.emod_eq_of_lt (Int.natCast_nonneg _) (by exact_mod_cast hlt)]
  · show u.p.c = true ↔ _
    cases hc : u.p.c with
    | false =>
      simp only [hc, Bool.toNat_false, Nat.sub_zero, Nat.one_mul] at hdiff'
      simp only [Bool.false_eq_true, false_iff]
      omega
    | true =>
      simp only [hc, Bool.toNat_true, Nat.sub_self, Nat.zero_mul] at hdiff'
      simp only [true_iff]
      omega

variable (hinj : ∀ i j, i < j → j < n → a i ≠ a j) (hn : 1 ≤ n)
include hinj hn

lemma double_correct :
    let u := (Chain.double.lines n a b r).foldl Instruction.run t
    value a n u.bus = 2 * value a n t.bus % 256 ^ n ∧ u.p.c = (value a n t.bus).testBit (8 * n - 1) := by
  obtain ⟨m, rfl⟩ : ∃ m, n = m + 1 := ⟨n - 1, by omega⟩
  have hdouble := double_shifts ((Instruction.plain .CLC).run t) hinj le_rfl rfl
  have hlines : (Chain.double.lines (m + 1) a b r).foldl Instruction.run t =
      (shifts .ROL a (List.range (m + 1))).foldl Instruction.run ((Instruction.plain .CLC).run t) := by
    rw [Chain.lines, List.foldl_cons, asl_run, shifts, List.range_succ_eq_map]
    simp only [List.map_cons, List.map_map, List.foldl_cons]
    rfl
  rw [hlines]
  set u := (shifts .ROL a (List.range (m + 1))).foldl Instruction.run ((Instruction.plain .CLC).run t)
  have hlt := value_lt a (m + 1) u.bus
  have hdouble' : value a (m + 1) u.bus + u.p.c.toNat * 256 ^ (m + 1) = 2 * value a (m + 1) t.bus := by
    rw [Nat.two_mul]
    exact hdouble
  refine ⟨mod_of_carry hdouble' hlt, ?_⟩
  have hx := value_lt a (m + 1) t.bus
  have hpow : 256 ^ (m + 1) = 2 * 2 ^ (8 * (m + 1) - 1) := by
    rw [← pow_succ', show 8 * (m + 1) - 1 + 1 = 8 * (m + 1) by omega, pow_mul]
    norm_num
  rw [Bool.eq_iff_iff, carry_iff hdouble' hlt]
  rw [hpow] at hx ⊢
  rw [testBit_top (by omega)]
  omega

lemma half_correct :
    let u := (Chain.half.lines n a b r).foldl Instruction.run t
    value a n u.bus = value a n t.bus / 2 ∧ u.p.c = (value a n t.bus).testBit 0 := by
  obtain ⟨m, rfl⟩ : ∃ m, n = m + 1 := ⟨n - 1, by omega⟩
  have hhalf := half_shifts ((Instruction.plain .CLC).run t) hinj le_rfl
  have hlines : (Chain.half.lines (m + 1) a b r).foldl Instruction.run t =
      (shifts .ROR a (List.range (m + 1)).reverse).foldl Instruction.run ((Instruction.plain .CLC).run t) := by
    rw [Chain.lines, List.foldl_cons, lsr_run, shifts, List.range_succ]
    simp
  rw [hlines]
  set u := (shifts .ROR a (List.range (m + 1)).reverse).foldl Instruction.run ((Instruction.plain .CLC).run t)
  have hhalf' : 2 * value a (m + 1) u.bus + u.p.c.toNat = value a (m + 1) t.bus := by
    have hadd : 2 * value a (m + 1) u.bus + u.p.c.toNat = value a (m + 1) t.bus + 0 * 256 ^ (m + 1) := hhalf
    omega
  have hc : u.p.c.toNat ≤ 1 := Bool.toNat_le _
  refine ⟨by omega, ?_⟩
  rw [Nat.testBit_zero, ← hhalf']
  cases u.p.c <;> simp

end Plain

end Isa

namespace CPU6502

open Isa (Mnemonic Arch Instruction RamOn Apart Agrees)

variable {β : Type} [BusLike β] {I : β → Prop} {P : Word → Prop} {n : ℕ} {a b r : ℕ → Word}

lemma arithmetic_lines (hn : 1 ≤ n) (hP : ∀ i < n, P (a i) ∧ P (b i) ∧ P (r i)) (op : Chain) :
    ∀ l ∈ op.lines n a b r, l.Arithmetic P := by
  intro l hl
  cases op with
  | sum | difference =>
    simp only [Chain.lines, List.mem_cons, List.mem_flatMap, List.mem_range, List.not_mem_nil, or_false] at hl
    obtain rfl | ⟨i, hi, rfl | rfl | rfl⟩ := hl
    · exact (by simp [Instruction.Arithmetic])
    · exact ⟨by decide, (hP i hi).1⟩
    · exact ⟨by decide, (hP i hi).2.1⟩
    · exact ⟨by decide, (hP i hi).2.2⟩
  | double =>
    simp only [Chain.lines, List.mem_cons, List.mem_map, List.mem_range] at hl
    obtain rfl | ⟨i, hi, rfl⟩ := hl
    · exact ⟨by decide, (hP 0 hn).1⟩
    · exact ⟨by decide, (hP (i + 1) (by omega)).1⟩
  | half =>
    simp only [Chain.lines, List.mem_cons, List.mem_map, List.mem_reverse, List.mem_range] at hl
    obtain rfl | ⟨i, hi, rfl⟩ := hl
    · exact ⟨by decide, (hP (n - 1) (by omega)).1⟩
    · exact ⟨by decide, (hP i (by omega)).1⟩

/-- Each program computes on numbers of any length what its name says. -/
theorem chain_correct (hram : RamOn I P) (hn : 1 ≤ n) (hP : ∀ i < n, P (a i) ∧ P (b i) ∧ P (r i))
    (hapart : Apart n a b r) (hinj : ∀ i j, i < j → j < n → a i ≠ a j) {cpu : CPU6502 β}
    (hs : cpu.Settled) (hI : I cpu.bus) (op : Chain) (hfollows : Follows (op.lines n a b r) cpu) :
    ∃ cpu', executeInstructions (op.lines n a b r).length cpu = some cpu' ∧
      op.Correct n a b r cpu cpu' := by
  have hplain : Agrees I P cpu.arch cpu.plain := ⟨hI, rfl, rfl, fun _ _ => rfl⟩
  obtain ⟨cpu', hrun, -, hend⟩ := run_agrees hram (arithmetic_lines hn hP op) hs hfollows hplain
  refine ⟨cpu', hrun, ?_⟩
  have hvalue : ∀ f : ℕ → Word, (∀ i < n, P (f i)) → value f n cpu'.bus =
      value f n ((op.lines n a b r).foldl Instruction.run cpu.plain).bus := by
    intro f hf
    apply value_congr
    intro i hi
    exact hend.ram (f i) (hf i hi)
  have hp : cpu'.pFlags = ((op.lines n a b r).foldl Instruction.run cpu.plain).p := hend.p
  have hr := hvalue r fun i hi => (hP i hi).2.2
  have ha := hvalue a fun i hi => (hP i hi).1
  cases op with
  | sum =>
    unfold Chain.Correct
    rw [hr, hp]
    exact Isa.sum_correct cpu.plain hapart hn
  | difference =>
    unfold Chain.Correct
    rw [hr, hp]
    exact Isa.difference_correct cpu.plain hapart hn
  | double =>
    unfold Chain.Correct
    rw [ha, hp]
    exact Isa.double_correct cpu.plain hinj hn
  | half =>
    unfold Chain.Correct
    rw [ha, hp]
    exact Isa.half_correct cpu.plain hinj hn

/-- `$00FF + $0001` at `$0200`: a carry between the bytes and none out of the sum. -/
theorem chain_correct_sum :
    let code : List Byte := [0x18#8, 0xAD#8, 0x10#8, 0x00#8, 0x6D#8, 0x12#8, 0x00#8, 0x8D#8, 0x14#8, 0x00#8,
      0xAD#8, 0x11#8, 0x00#8, 0x6D#8, 0x13#8, 0x00#8, 0x8D#8, 0x15#8, 0x00#8]
    let mem : Word → Byte := fun w => if w = 0x0010#16 then 0xFF#8 else if w = 0x0012#16 then 0x01#8 else
      code.getD (w - 0x0200#16).toNat 0#8
    let cpu : CPU6502 (Word → Byte) := { bus := mem, pc := 0x0200#16, pFlags := { d := true } }
    ∃ cpu', executeInstructions 7 cpu = some cpu' ∧ peek cpu'.bus 0x0014#16 = 0x00#8 ∧
      peek cpu'.bus 0x0015#16 = 0x01#8 ∧ cpu'.pFlags.c = false := by
  intro code mem cpu
  let place (base : Word) (i : ℕ) : Word := base + BitVec.ofNat 16 i
  let ls : List Instruction := [.plain .CLC, .on .LDA 0x0010#16, .on .ADC 0x0012#16, .on .STA 0x0014#16,
    .on .LDA 0x0011#16, .on .ADC 0x0013#16, .on .STA 0x0015#16]
  have hlines : Chain.sum.lines 2 (place 0x0010#16) (place 0x0012#16) (place 0x0014#16) = ls := by decide
  have hP : ∀ i < 2, True ∧ True ∧ True := fun _ _ => ⟨trivial, trivial, trivial⟩
  have hlt : ∀ i j : ℕ, i < j → j < 2 → i = 0 ∧ j = 1 := fun i j h h' => by omega
  have hcode : ∀ w ∈ placement 0x0200#16 ls, True ∧ ∀ mn, Instruction.on mn w ∉ ls := by
    have hhigh : (placement 0x0200#16 ls).all (fun w => 0x0200#16 ≤ w) = true := by decide
    intro w hw
    refine ⟨trivial, fun mn hmem => ?_⟩
    have hw' := of_decide_eq_true (List.all_eq_true.mp hhigh w hw)
    simp only [ls, List.mem_cons, Instruction.on.injEq, List.not_mem_nil, or_false, reduceCtorEq, false_or] at hmem
    bv_omega
  have hplaced : Placed mem 0x0200#16 ls := by
    have hclc : Isa.decode 0x18#8 = some (.CLC, .implied) := by decide
    have hlda : Isa.decode 0xAD#8 = some (.LDA, .absolute) := by decide
    have hadc : Isa.decode 0x6D#8 = some (.ADC, .absolute) := by decide
    have hsta : Isa.decode 0x8D#8 = some (.STA, .absolute) := by decide
    exact ⟨hclc, ⟨hlda, rfl, rfl⟩, ⟨hadc, rfl, rfl⟩, ⟨hsta, rfl, rfl⟩, ⟨hlda, rfl, rfl⟩, ⟨hadc, rfl, rfl⟩,
      ⟨hsta, rfl, rfl⟩, trivial⟩
  have hs : cpu.Settled := ⟨rfl, rfl, rfl⟩
  have hls := arithmetic_lines (P := fun _ => True) (a := place 0x0010#16) (b := place 0x0012#16)
    (r := place 0x0014#16) (n := 2) (by omega) hP .sum
  rw [hlines] at hls
  have hfollows : Follows ls cpu := follows_placed Isa.ramOn_memory hls hs trivial hplaced hcode
  rw [← hlines] at hfollows
  have hapart : Apart 2 (place 0x0010#16) (place 0x0012#16) (place 0x0014#16) := by
    intro i j h h'
    obtain ⟨rfl, rfl⟩ := hlt i j h h'
    decide
  have hinj : ∀ i j, i < j → j < 2 → place 0x0010#16 i ≠ place 0x0010#16 j := by
    intro i j h h'
    obtain ⟨rfl, rfl⟩ := hlt i j h h'
    decide
  obtain ⟨cpu', hrun, hsum, hc, -⟩ :=
    chain_correct Isa.ramOn_memory (by omega) hP hapart hinj hs trivial .sum hfollows
  have hx : value (place 0x0010#16) 2 cpu.bus = 0xFF := by decide
  have hy : value (place 0x0012#16) 2 cpu.bus = 1 := by decide
  rw [hx, hy] at hsum hc
  have hr : (peek cpu'.bus 0x0014#16).toNat + (peek cpu'.bus 0x0015#16).toNat * 256 = 0x100 := by
    simpa [value, number, Finset.sum_range_succ, place] using hsum
  have hlo := (peek cpu'.bus 0x0014#16).isLt
  refine ⟨cpu', hrun, ?_, ?_, ?_⟩
  · bv_omega
  · bv_omega
  · simpa using hc

end CPU6502

end Sys6
