import Mathlib.Tactic
import Mathlib.Algebra.BigOperators.Group.Finset.Basic
import Mathlib.Algebra.Order.BigOperators.Group.Finset

/-!
# Numbers in limbs

A natural number in base `B`, least significant limb first, and what the carries of a
limb-by-limb sum have to do with the carry and the overflow of the whole.
-/

namespace Sys6

variable {B n : ℕ} {d e : ℕ → ℕ}

/-- The number with the limbs `d 0`, …, `d (n - 1)`. -/
def number (B : ℕ) (d : ℕ → ℕ) (n : ℕ) : ℕ := ∑ i ∈ Finset.range n, d i * B ^ i

lemma number_zero (B : ℕ) (d : ℕ → ℕ) : number B d 0 = 0 := rfl

lemma number_succ (B : ℕ) (d : ℕ → ℕ) (n : ℕ) : number B d (n + 1) = number B d n + d n * B ^ n :=
  Finset.sum_range_succ _ n

lemma number_congr (h : ∀ i < n, d i = e i) : number B d n = number B e n := by
  apply Finset.sum_congr rfl
  intro i hi
  rw [h i (Finset.mem_range.mp hi)]

lemma number_lt (h : ∀ i < n, d i < B) : number B d n < B ^ n := by
  induction n with
  | zero => simp [number_zero]
  | succ n ih =>
    have hlow := ih fun i hi => h i (by omega)
    have hmul : (d n + 1) * B ^ n ≤ B * B ^ n := Nat.mul_le_mul_right _ (h n (by omega))
    rw [number_succ, pow_succ]
    linarith

/-- One more limb of a sum, from the low end. -/
lemma ripple {a b r : ℕ → ℕ} {c c' : ℕ}
    (h : number B r n + c * B ^ n = number B a n + number B b n)
    (hlimb : r n + B * c' = a n + b n + c) :
    number B r (n + 1) + c' * B ^ (n + 1) = number B a (n + 1) + number B b (n + 1) := by
  have hmul := congrArg (· * B ^ n) hlimb
  simp only [add_mul] at hmul
  simp only [number_succ, pow_succ]
  linarith

/-- One more limb of a half, at the high end, which is shifted first. -/
lemma ripple_down {v r : ℕ → ℕ} {c₀ c c' : ℕ}
    (h : 2 * number B r n + c' = number B v n + c * B ^ n) (hlimb : 2 * r n + c = v n + B * c₀) :
    2 * number B r (n + 1) + c' = number B v (n + 1) + c₀ * B ^ (n + 1) := by
  have hmul := congrArg (· * B ^ n) hlimb
  simp only [add_mul] at hmul
  simp only [number_succ, pow_succ]
  linarith

/-- What is left of a number below `M` when a carry of `M` is taken out. -/
lemma mod_of_carry {x z M c : ℕ} (h : z + c * M = x) (hz : z < M) : z = x % M := by
  rw [← h, Nat.add_mul_mod_self_right, Nat.mod_eq_of_lt hz]

/-- The top bit of a number of `i + 1` bits. -/
lemma testBit_top {x i : ℕ} (h : x < 2 * 2 ^ i) : x.testBit i = true ↔ 2 ^ i ≤ x := by
  have hlt : x / 2 ^ i < 2 := Nat.div_lt_of_lt_mul (by rwa [mul_comm] at h)
  rw [Nat.testBit_eq_decide_div_mod_eq, decide_eq_true_eq, Nat.mod_eq_of_lt hlt]
  constructor
  · intro hone
    by_contra hlow
    rw [Nat.div_eq_of_lt (by omega)] at hone
    omega
  · intro hle
    have hpos : 1 ≤ x / 2 ^ i := (Nat.one_le_div_iff (by positivity)).mpr hle
    omega

/-- The signed reading of one of `M` values. -/
def signed (M x : ℕ) : ℤ := if 2 * x < M then x else x - M

/-- There is such a value. -/
def InRange (M : ℕ) (z : ℤ) : Prop := -M ≤ 2 * z ∧ 2 * z < M

/-- The sign of a number is that of its last limb. -/
lemma signed_number {H : ℕ} (hB : B = 2 * H) (hlow : number B d n < B ^ n) :
    signed (B ^ (n + 1)) (number B d (n + 1)) = number B d n + B ^ n * signed B (d n) := by
  have hiff : 2 * (number B d n + d n * B ^ n) < B ^ (n + 1) ↔ 2 * d n < B := by
    rw [pow_succ', hB] at *
    constructor
    · intro h
      by_contra hge
      have : H * (2 * H) ^ n ≤ d n * (2 * H) ^ n := Nat.mul_le_mul_right _ (by omega)
      linarith
    · intro h
      have : (d n + 1) * (2 * H) ^ n ≤ H * (2 * H) ^ n := Nat.mul_le_mul_right _ (by omega)
      linarith
  unfold signed
  rw [number_succ]
  simp only [hiff]
  split_ifs
  · push_cast
    ring
  · push_cast
    ring

/-- Whether a sum is in range is seen at its last limb. -/
lemma inRange_iff {H : ℕ} (hB : B = 2 * H) {W low : ℕ} (hlow : low < W) (t : ℤ) :
    InRange (W * B) (low + W * t) ↔ InRange B t := by
  have hW : (low : ℤ) < W := by exact_mod_cast hlow
  have hlow0 : (0 : ℤ) ≤ low := Int.natCast_nonneg low
  have hW0 : (0 : ℤ) < W := by linarith
  unfold InRange
  rw [hB]
  push_cast
  constructor
  · rintro ⟨h, h'⟩
    constructor
    · by_contra hlt
      have : (W : ℤ) * (t + 1) ≤ W * -H := mul_le_mul_of_nonneg_left (by linarith) hW0.le
      linarith
    · by_contra hge
      have : (W : ℤ) * H ≤ W * t := mul_le_mul_of_nonneg_left (by linarith) hW0.le
      linarith
  · rintro ⟨h, h'⟩
    constructor
    · have : (W : ℤ) * -H ≤ W * t := mul_le_mul_of_nonneg_left (by linarith) hW0.le
      linarith
    · have : (W : ℤ) * (t + 1) ≤ W * H := mul_le_mul_of_nonneg_left (by linarith) hW0.le
      linarith

end Sys6
