import Mathlib.Tactic

/-!
# Bytes and sixteen-bit words

A word is handled as the pair of its high and its low byte. Addresses of a byte
machine are then compared page by page, without arithmetic.
-/

namespace Sys6

abbrev Byte := BitVec 8
abbrev Word := BitVec 16

-- membership in a list of bytes or words is decided with these
instance : LawfulBEq Byte := inferInstance

instance : LawfulBEq Word := inferInstance

/-- The word with the given high and low byte. -/
def word (hi lo : Byte) : Word := hi ++ lo

namespace Word

def hi (w : Word) : Byte := w.extractLsb' 8 8

def lo (w : Word) : Byte := w.setWidth 8

end Word

lemma word_toNat (hi lo : Byte) : (word hi lo).toNat = 256 * hi.toNat + lo.toNat := by
  unfold word
  rw [BitVec.toNat_append, ← Nat.shiftLeft_add_eq_or_of_lt lo.isLt, Nat.shiftLeft_eq]
  omega

@[simp] lemma word_hi (hi lo : Byte) : Word.hi (word hi lo) = hi := by
  unfold Word.hi word
  exact BitVec.extractLsb'_append_eq_left

@[simp] lemma word_lo (hi lo : Byte) : Word.lo (word hi lo) = lo := by
  unfold Word.lo word
  exact BitVec.setWidth_append_eq_right

@[simp] lemma word_inj (h l h' l' : Byte) : word h l = word h' l' ↔ h = h' ∧ l = l' := by
  constructor
  · intro he
    exact ⟨by simpa using congrArg Word.hi he, by simpa using congrArg Word.lo he⟩
  · rintro ⟨rfl, rfl⟩
    rfl

lemma Word.hi_toNat (w : Word) : w.hi.toNat = w.toNat / 256 := by
  unfold Word.hi
  rw [BitVec.extractLsb'_toNat, Nat.shiftRight_eq_div_pow]
  have := w.isLt
  omega

lemma Word.lo_toNat (w : Word) : w.lo.toNat = w.toNat % 256 := by
  unfold Word.lo
  rw [BitVec.toNat_setWidth]

@[simp] lemma word_hi_lo (w : Word) : word w.hi w.lo = w := by
  apply BitVec.eq_of_toNat_eq
  rw [word_toNat, Word.hi_toNat, Word.lo_toNat]
  omega

/-- Incrementing a word through its bytes: the high byte moves when the low one wraps. -/
lemma word_add_one (h l : Byte) :
    word h l + 1#16 = word (if l + 1#8 = 0#8 then h + 1#8 else h) (l + 1#8) := by
  apply BitVec.eq_of_toNat_eq
  have hh := h.isLt
  have hl := l.isLt
  by_cases hz : l + 1#8 = 0#8
  · have hn : (l + 1#8).toNat = 0 := by rw [hz]; rfl
    simp only [BitVec.toNat_add, BitVec.toNat_ofNat] at hn
    rw [if_pos hz]
    simp only [BitVec.toNat_add, word_toNat, BitVec.toNat_ofNat]
    omega
  · have hn : (l + 1#8).toNat ≠ 0 := fun h0 => hz (BitVec.eq_of_toNat_eq (by rw [h0]; rfl))
    simp only [BitVec.toNat_add, BitVec.toNat_ofNat] at hn
    rw [if_neg hz]
    simp only [BitVec.toNat_add, word_toNat, BitVec.toNat_ofNat]
    omega

lemma succ_offset (start : Word) (i : Nat) :
    start + 1#16 + BitVec.ofNat 16 i = start + BitVec.ofNat 16 (i + 1) := by
  rw [BitVec.ofNat_add]
  bv_omega

lemma zeroExtend_eq_word (b : Byte) : b.setWidth 16 = word 0#8 b := by
  apply BitVec.eq_of_toNat_eq
  have := b.isLt
  rw [word_toNat, BitVec.toNat_setWidth, BitVec.toNat_ofNat]
  omega

lemma shiftLeft_eq_word (b : Byte) : b.setWidth 16 <<< 8 = word b 0#8 := by
  apply BitVec.eq_of_toNat_eq
  have := b.isLt
  rw [word_toNat, BitVec.toNat_shiftLeft, BitVec.toNat_setWidth, BitVec.toNat_ofNat,
    Nat.shiftLeft_eq]
  omega

lemma word_or (h l h' l' : Byte) : word h l ||| word h' l' = word (h ||| h') (l ||| l') := by
  unfold word
  exact BitVec.or_append

lemma word_and (h l h' l' : Byte) : word h l &&& word h' l' = word (h &&& h') (l &&& l') := by
  unfold word
  exact BitVec.and_append

lemma or_shiftLeft_eq_word (lo hi : Byte) :
    lo.setWidth 16 ||| hi.setWidth 16 <<< 8 = word hi lo := by
  rw [zeroExtend_eq_word, shiftLeft_eq_word, word_or, BitVec.zero_or, BitVec.or_zero]

lemma and_low_mask (w : Word) : w &&& 0xFF#16 = word 0#8 w.lo := by
  rw [← word_hi_lo w, show (0xFF#16 : Word) = word 0#8 0xFF#8 from rfl, word_and]
  congr 1
  · simp
  · rw [show (0xFF#8 : Byte) = BitVec.allOnes 8 from rfl, BitVec.and_allOnes, word_lo]

lemma and_high_mask (w : Word) : w &&& 0xFF00#16 = word w.hi 0#8 := by
  rw [← word_hi_lo w, show (0xFF00#16 : Word) = word 0xFF#8 0#8 from rfl, word_and]
  congr 1
  · rw [show (0xFF#8 : Byte) = BitVec.allOnes 8 from rfl, BitVec.and_allOnes, word_hi]
  · simp

lemma Word.lo_add (v w : Word) : (v + w).lo = v.lo + w.lo := by
  unfold Word.lo
  exact BitVec.setWidth_add v w (by decide)

lemma word_zero_add_and (b x : Byte) :
    (word 0#8 b + x.setWidth 16) &&& 0xFF#16 = word 0#8 (b + x) := by
  rw [and_low_mask, Word.lo_add, zeroExtend_eq_word, word_lo, word_lo]

lemma word_zero_succ_and (b : Byte) : (word 0#8 b + 1#16) &&& 0xFF#16 = word 0#8 (b + 1#8) := by
  rw [and_low_mask, Word.lo_add, word_lo]
  rfl

lemma page_add (b : Byte) : 0x0100#16 + b.setWidth 16 = word 1#8 b := by
  apply BitVec.eq_of_toNat_eq
  have := b.isLt
  rw [word_toNat, BitVec.toNat_add, BitVec.toNat_setWidth, BitVec.toNat_ofNat, BitVec.toNat_ofNat]
  omega

lemma shiftRight_eq_hi (w : Word) : (w >>> 8).setWidth 8 = w.hi := by
  apply BitVec.eq_of_toNat_eq
  have := w.isLt
  rw [Word.hi_toNat, BitVec.toNat_setWidth, BitVec.toNat_ushiftRight, Nat.shiftRight_eq_div_pow]
  omega

lemma and_mask_eq_lo (w : Word) : (w &&& 0xFF#16).setWidth 8 = w.lo := by
  rw [and_low_mask]
  exact word_lo _ _

lemma wrap_in_page (w : Word) :
    w &&& 0xFF00#16 ||| (w + 1#16) &&& 0xFF#16 = word w.hi (w.lo + 1#8) := by
  rw [and_high_mask, and_low_mask, word_or, Word.lo_add, BitVec.or_zero, BitVec.zero_or]
  rfl

/-- All bytes, a quarter at a time. -/
lemma Byte.forall_of_quarters {P : Byte → Prop} (h0 : ∀ i : Fin 64, P (BitVec.ofNat 8 i))
    (h1 : ∀ i : Fin 64, P (BitVec.ofNat 8 (64 + i))) (h2 : ∀ i : Fin 64, P (BitVec.ofNat 8 (128 + i)))
    (h3 : ∀ i : Fin 64, P (BitVec.ofNat 8 (192 + i))) (b : Byte) : P b := by
  have hb := b.isLt
  have hat : ∀ n, n = b.toNat → BitVec.ofNat 8 n = b := by
    rintro n rfl
    exact BitVec.ofNat_toNat 8 b ▸ BitVec.setWidth_eq b
  by_cases c1 : b.toNat < 64
  · exact hat _ rfl ▸ h0 ⟨b.toNat, c1⟩
  by_cases c2 : b.toNat < 128
  · exact hat (64 + (b.toNat - 64)) (by omega) ▸ h1 ⟨b.toNat - 64, by omega⟩
  by_cases c3 : b.toNat < 192
  · exact hat (128 + (b.toNat - 128)) (by omega) ▸ h2 ⟨b.toNat - 128, by omega⟩
  · exact hat (192 + (b.toNat - 192)) (by omega) ▸ h3 ⟨b.toNat - 192, by omega⟩

end Sys6
