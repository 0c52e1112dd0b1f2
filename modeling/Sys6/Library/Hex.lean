import Sys6.Library.Word

/-!
# Hex text

The digits in both cases, the pairs of digits that write bytes, and texts with spaces anywhere
between the digits.
-/

namespace Sys6

namespace Hex

/-- The characters that write a digit. -/
def digitChars (v : Nat) : List Char :=
  if v < 10 then [Char.ofNat ('0'.toNat + v)]
  else [Char.ofNat ('A'.toNat + (v - 10)), Char.ofNat ('a'.toNat + (v - 10))]

def digitValue (c : Char) : Option Nat :=
  if '0' ≤ c ∧ c ≤ '9' then some (c.toNat - '0'.toNat)
  else if 'a' ≤ c ∧ c ≤ 'f' then some (c.toNat - 'a'.toNat + 10)
  else if 'A' ≤ c ∧ c ≤ 'F' then some (c.toNat - 'A'.toNat + 10)
  else none

lemma digitValue_of_mem {v : Nat} (hv : v < 16) {c : Char} (h : c ∈ digitChars v) :
    digitValue c = some v := by
  have hall : ∀ v < 16, (digitChars v).all fun c => digitValue c = some v := by decide
  have hc := List.all_eq_true.mp (hall v hv) c h
  exact of_decide_eq_true hc

lemma toNat_le {c d : Char} (h : c ≤ d) : c.toNat ≤ d.toNat := h

lemma mem_of_digitValue {v : Nat} {c : Char} (h : digitValue c = some v) : v < 16 ∧ c ∈ digitChars v := by
  have hself : c = Char.ofNat c.toNat := (Char.ofNat_toNat c).symm
  have h0 : '0'.toNat = 48 := rfl
  have h9 : '9'.toNat = 57 := rfl
  have ha : 'a'.toNat = 97 := rfl
  have hf : 'f'.toNat = 102 := rfl
  have hA : 'A'.toNat = 65 := rfl
  have hF : 'F'.toNat = 70 := rfl
  unfold digitValue at h
  split_ifs at h with hdigit hlower hupper
  · obtain rfl := Option.some.inj h
    have hlo := toNat_le hdigit.1
    have hhi := toNat_le hdigit.2
    refine ⟨by omega, ?_⟩
    rw [digitChars, if_pos (by omega), List.mem_singleton]
    rw [show '0'.toNat + (c.toNat - '0'.toNat) = c.toNat by omega]
    exact hself
  · obtain rfl := Option.some.inj h
    have hlo := toNat_le hlower.1
    have hhi := toNat_le hlower.2
    refine ⟨by omega, ?_⟩
    rw [digitChars, if_neg (by omega)]
    rw [show 'a'.toNat + (c.toNat - 'a'.toNat + 10 - 10) = c.toNat by omega, ← hself]
    exact List.mem_cons_of_mem _ (List.mem_singleton.mpr rfl)
  · obtain rfl := Option.some.inj h
    have hlo := toNat_le hupper.1
    have hhi := toNat_le hupper.2
    refine ⟨by omega, ?_⟩
    rw [digitChars, if_neg (by omega)]
    rw [show 'A'.toNat + (c.toNat - 'A'.toNat + 10 - 10) = c.toNat by omega, ← hself]
    exact List.mem_cons_self

/-- No digit is written with this character. -/
def NotHex (c : Char) : Prop := ∀ v < 16, c ∉ digitChars v

lemma notHex_iff {c : Char} : NotHex c ↔ digitValue c = none := by
  constructor
  · intro h
    cases hv : digitValue c with
    | none => rfl
    | some v =>
      obtain ⟨hlt, hmem⟩ := mem_of_digitValue hv
      exact absurd hmem (h v hlt)
  · intro h v hv hmem
    rw [digitValue_of_mem hv hmem] at h
    cases h

/-- These digits write these bytes. -/
inductive Writes : List Byte → List Char → Prop
  | nil : Writes [] []
  | cons {b : Byte} {bs : List Byte} {d d' : Char} {ds : List Char} :
      d ∈ digitChars (b.toNat / 16) → d' ∈ digitChars (b.toNat % 16) → Writes bs ds →
      Writes (b :: bs) (d :: d' :: ds)

/-- The same with spaces anywhere. -/
def Renders (space : Char → Bool) (bs : List Byte) (text : List Char) : Prop :=
  Writes bs (text.filter fun c => !space c)

/-- The bytes of the pairs before the first one that is none. -/
def leading : List Char → List Byte
  | d :: d' :: ds =>
    match digitValue d, digitValue d' with
    | some high, some low => BitVec.ofNat 8 (high <<< 4 ||| low) :: leading ds
    | _, _ => []
  | _ => []

lemma leading_cons {d d' : Char} {ds : List Char} {high low : Nat} (hhigh : digitValue d = some high)
    (hlow : digitValue d' = some low) :
    leading (d :: d' :: ds) = BitVec.ofNat 8 (high <<< 4 ||| low) :: leading ds := by
  simp only [leading, hhigh, hlow]

lemma leading_bad {d d' : Char} {ds : List Char}
    (h : ∀ high low, digitValue d = some high → digitValue d' = some low → False) :
    leading (d :: d' :: ds) = [] := by
  unfold leading
  split
  · rename_i high low hhigh hlow
    exact (h high low hhigh hlow).elim
  · rfl

lemma pair_eq {high low : Nat} (hlow : low < 16) : high <<< 4 ||| low = 16 * high + low := by
  rw [← Nat.shiftLeft_add_eq_or_of_lt (show low < 2 ^ 4 by omega), Nat.shiftLeft_eq]
  omega

lemma Writes.leading {bs : List Byte} {ds : List Char} (h : Writes bs ds) : leading ds = bs := by
  induction h with
  | nil => rfl
  | @cons b bs d d' ds hd hd' _ ih =>
    have hb := b.isLt
    have hhigh := digitValue_of_mem (by omega) hd
    have hlow := digitValue_of_mem (by omega) hd'
    have hpair : BitVec.ofNat 8 ((b.toNat / 16) <<< 4 ||| b.toNat % 16) = b := by
      rw [pair_eq (by omega), Nat.div_add_mod, BitVec.ofNat_toNat, BitVec.setWidth_eq]
    simp only [Hex.leading, hhigh, hlow, ih, hpair]

/-- All pairs are complete and made of digits. -/
def Whole (ds : List Char) : Prop := ds.length % 2 = 0 ∧ ∀ c ∈ ds, (digitValue c).isSome

instance : DecidablePred Whole := fun ds =>
  @instDecidableAnd _ _ inferInstance (List.decidableBAll _ ds)

lemma whole_cons {d d' : Char} {ds : List Char} :
    Whole (d :: d' :: ds) ↔ (digitValue d).isSome ∧ (digitValue d').isSome ∧ Whole ds := by
  simp only [Whole, List.length_cons, List.forall_mem_cons]
  rw [show (ds.length + 1 + 1) % 2 = ds.length % 2 by omega]
  tauto

lemma not_whole_bad {d d' : Char} {ds : List Char}
    (h : ∀ high low, digitValue d = some high → digitValue d' = some low → False) :
    ¬Whole (d :: d' :: ds) := by
  rw [whole_cons]
  rintro ⟨hd, hd', -⟩
  obtain ⟨high, hhigh⟩ := Option.isSome_iff_exists.mp hd
  obtain ⟨low, hlow⟩ := Option.isSome_iff_exists.mp hd'
  exact h high low hhigh hlow

lemma Writes.whole {bs : List Byte} {ds : List Char} (h : Writes bs ds) : Whole ds := by
  induction h with
  | nil => exact ⟨rfl, by simp⟩
  | @cons b bs d d' ds hd hd' _ ih =>
    have hb := b.isLt
    rw [whole_cons, digitValue_of_mem (by omega) hd, digitValue_of_mem (by omega) hd']
    exact ⟨rfl, rfl, ih⟩

lemma not_whole_iff {ds : List Char} : ¬Whole ds ↔ ds.length % 2 = 1 ∨ ∃ c ∈ ds, NotHex c := by
  simp only [Whole, not_and_or, not_forall, notHex_iff, Option.not_isSome_iff_eq_none, exists_prop]
  rw [Nat.mod_two_not_eq_zero]

end Hex

end Sys6
