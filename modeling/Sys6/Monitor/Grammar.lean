import Sys6.Monitor.Dispatch

/-!
# The text of a line

Hex numbers, and the tokens behind the colon of a POKE, as they are written.
-/

namespace Sys6

/-- The number that hex digits make. -/
def hexNumber (text : List Byte) : Nat :=
  text.foldl (fun n c => 16 * n + ((hexVal c).getD 0#8).toNat) 0

/-- Nothing but hex digits, upper or lower case. -/
def IsHex (text : List Byte) : Prop := ∀ c ∈ text, (hexVal c).isSome

instance (text : List Byte) : Decidable (IsHex text) :=
  inferInstanceAs (Decidable (∀ c ∈ text, (hexVal c).isSome))

/-- One to `k` hex digits. -/
structure HexRun (k : Nat) (text : List Byte) : Prop where
  hex : IsHex text
  nonempty : text ≠ []
  length_le : text.length ≤ k

/-- Tokens of one or two hex digits, with at least one space between two of them and any number
of spaces around them. -/
inductive Spaced : List (List Byte) → List Byte → Prop
  | nil : Spaced [] []
  | space {toks : List (List Byte)} {text : List Byte} : Spaced toks text → Spaced toks (0x20#8 :: text)
  | token {tok : List Byte} {toks : List (List Byte)} {text : List Byte} : HexRun 2 tok →
      (∀ c ∈ text.head?, c = 0x20#8) → Spaced toks text → Spaced (tok :: toks) (tok ++ text)

/-- Text behind the colon of a POKE that is no list of tokens. -/
def Malformed (text : List Byte) : Prop := ¬∃ toks, Spaced toks text

/-- Tokens and spaces are all there is. -/
lemma Spaced.plain {toks : List (List Byte)} {text : List Byte} (h : Spaced toks text) :
    ∀ c ∈ text, c = 0x20#8 ∨ (hexVal c).isSome := by
  induction h with
  | nil => exact fun c hc => absurd hc List.not_mem_nil
  | space h ih =>
    intro c hc
    obtain rfl | hc := List.mem_cons.mp hc
    · exact .inl rfl
    · exact ih c hc
  | token hrun hhead h ih =>
    intro c hc
    obtain hc | hc := List.mem_append.mp hc
    · exact .inr (hrun.hex c hc)
    · exact ih c hc

lemma hexVal_space : hexVal 0x20#8 = none := by decide

lemma digits_of_head {text : List Byte} (h : ∀ c ∈ text.head?, hexVal c = none) : digits text = [] := by
  cases text with
  | nil => rfl
  | cons c text =>
    have hc : hexVal c = none := h c rfl
    simp [digits, hc]

/-- The values of the characters, those that are no digits counted as 0. -/
def hexVals (text : List Byte) : List Byte := text.map fun c => (hexVal c).getD 0#8

/-- Digits, up to what is none. -/
lemma digits_hex {text rest : List Byte} (h : IsHex text) (hrest : digits rest = []) :
    digits (text ++ rest) = hexVals text := by
  induction text with
  | nil => exact hrest
  | cons c text ih =>
    obtain ⟨d, hd⟩ := Option.isSome_iff_exists.mp (h c List.mem_cons_self)
    have hrun := ih fun c hc => h c (List.mem_cons_of_mem _ hc)
    simp [digits, hd, hrun, hexVals]

lemma afterDigits_hex {text rest : List Byte} (h : IsHex text) (hrest : digits rest = []) :
    afterDigits (text ++ rest) = rest := by
  unfold afterDigits
  rw [digits_hex h hrest, hexVals, List.length_map, List.drop_left]

/-- Digits shifted into a word make their number, as far as it fits. -/
lemma foldl_hexVals {w : Nat} {shift : BitVec w → Byte → BitVec w}
    (hshift : ∀ v d, shift v d = BitVec.ofNat w 16 * v + d.setWidth w) (text : List Byte) (n : Nat) :
    (hexVals text).foldl shift (BitVec.ofNat w n) =
      BitVec.ofNat w (text.foldl (fun n c => 16 * n + ((hexVal c).getD 0#8).toNat) n) := by
  induction text generalizing n with
  | nil => rfl
  | cons c text ih =>
    have hstep : shift (BitVec.ofNat w n) ((hexVal c).getD 0#8) =
        BitVec.ofNat w (16 * n + ((hexVal c).getD 0#8).toNat) := by
      rw [hshift, BitVec.ofNat_add, BitVec.ofNat_mul, BitVec.ofNat_toNat]
    exact (congrArg ((hexVals text).foldl shift) hstep).trans (ih _)

lemma address_hexVals (text : List Byte) : address (hexVals text) = BitVec.ofNat 16 (hexNumber text) :=
  foldl_hexVals (fun _ _ => rfl) text 0

lemma byteDigits_hex {tok rest : List Byte} (h : HexRun 2 tok) (hrest : digits rest = []) :
    Machine.byteDigits (tok ++ rest) = hexVals tok := by
  rw [Machine.byteDigits, digits_hex h.hex hrest, List.take_of_length_le]
  rw [hexVals, List.length_map]
  exact h.length_le

lemma byteValue_hex {tok rest : List Byte} (h : HexRun 2 tok) (hrest : digits rest = []) :
    byteValue (tok ++ rest) = BitVec.ofNat 8 (hexNumber tok) := by
  rw [byteValue, byteDigits_hex h hrest]
  exact foldl_hexVals (fun _ _ => by simp [Machine.shiftByte]) tok 0

/-- `POKE` finds the tokens that are there. -/
lemma tokens_spaced {toks : List (List Byte)} {text : List Byte} (h : Spaced toks text) :
    tokens text = toks.map fun tok => BitVec.ofNat 8 (hexNumber tok) := by
  induction h with
  | nil => rw [tokens, List.map_nil]
  | space h ih => rw [tokens, if_pos rfl, ih]
  | @token tok toks text hrun hhead h ih =>
    have hrest : digits text = [] := by
      refine digits_of_head fun c hc => ?_
      rw [hhead c hc]
      exact hexVal_space
    have hdigits := digits_hex hrun.hex hrest
    have hvalue := byteValue_hex hrun hrest
    have hdrop : (tok ++ text).drop (Machine.byteDigits (tok ++ text)).length = text := by
      rw [byteDigits_hex hrun hrest, hexVals, List.length_map, List.drop_left]
    obtain ⟨c, tok', rfl⟩ := List.exists_cons_of_ne_nil hrun.nonempty
    have hc : c ≠ 0x20#8 := by
      rintro rfl
      have hsome := hrun.hex 0x20#8 List.mem_cons_self
      rw [hexVal_space] at hsome
      cases hsome
    have hne : digits (c :: tok' ++ text) ≠ [] := by
      rw [hdigits]
      simp [hexVals]
    rw [List.cons_append] at *
    rw [tokens, if_neg hc, if_neg hne, hdrop, ih, hvalue]
    rfl

/-- Behind the digits of an address, however long. -/
lemma command_hex {addrText rest : List Byte} (hex : IsHex addrText) (hne : addrText ≠ [])
    (hrest : digits rest = []) :
    command (addrText ++ rest) = dispatch (BitVec.ofNat 16 (hexNumber addrText)) rest := by
  have hvals : hexVals addrText ≠ [] := by simp [hexVals, hne]
  rw [command, digits_hex hex hrest, if_neg hvals, afterDigits_hex hex hrest, address_hexVals]

/-- A line with an address and a colon is a POKE, whatever is behind the colon. -/
lemma command_colon {addrText : List Byte} (haddr : HexRun 4 addrText) (text : List Byte) :
    command (addrText ++ 0x3A#8 :: text) = .poke (BitVec.ofNat 16 (hexNumber addrText)) (tokens text) := by
  rw [command_hex haddr.hex haddr.nonempty (digits_of_head (by simp [hexVal]))]
  simp [dispatch]

/-- A line with an address, a colon and tokens is a POKE of these. -/
lemma command_poke {addrText text : List Byte} {toks : List (List Byte)} (haddr : HexRun 4 addrText)
    (htoks : Spaced toks text) : command (addrText ++ 0x3A#8 :: text) =
      .poke (BitVec.ofNat 16 (hexNumber addrText)) (toks.map fun tok => BitVec.ofNat 8 (hexNumber tok)) := by
  rw [command_colon haddr, tokens_spaced htoks]

/-- A line with an address, a space and an `R` is a RUN. -/
lemma command_run {addrText : List Byte} (haddr : HexRun 4 addrText) :
    command (addrText ++ [0x20#8, 0x52#8]) = .run (BitVec.ofNat 16 (hexNumber addrText)) := by
  rw [command_hex haddr.hex haddr.nonempty (digits_of_head (by simp [hexVal]))]
  simp [dispatch, letterCommand]

lemma hexVal_hexDigit (n : Byte) (h : n < 0x10#8) : hexVal (hexDigit n) = some n := by
  revert n
  decide

lemma hexNumber_hexText (b : Byte) : hexNumber (hexText b) = b.toNat := by
  revert b
  decide

lemma isHex_hexText (b : Byte) : IsHex (hexText b) := by
  have hhi : BitVec.ofNat 8 (b.toNat / 16) < 0x10#8 := by
    rw [BitVec.lt_def, BitVec.toNat_ofNat, BitVec.toNat_ofNat]
    have := b.isLt
    omega
  have hlo : b &&& 0x0F#8 < 0x10#8 := by
    revert b
    decide
  intro c hc
  rw [hexText, List.mem_cons, List.mem_singleton] at hc
  obtain rfl | rfl := hc
  · rw [hexVal_hexDigit _ hhi]
    rfl
  · rw [hexVal_hexDigit _ hlo]
    rfl

lemma hexRun_hexText (b : Byte) : HexRun 2 (hexText b) :=
  ⟨isHex_hexText b, List.cons_ne_nil _ _, Nat.le_refl 2⟩

/-- The address at the start of a row. -/
lemma hexRun_addr (a : Word) : HexRun 4 (hexText a.hi ++ hexText a.lo) := by
  refine ⟨fun c hc => ?_, List.cons_ne_nil _ _, Nat.le_refl 4⟩
  obtain hc | hc := List.mem_append.mp hc
  · exact isHex_hexText _ c hc
  · exact isHex_hexText _ c hc

lemma hexNumber_addr (a : Word) : hexNumber (hexText a.hi ++ hexText a.lo) = a.toNat := by
  have hhi := hexNumber_hexText a.hi
  have hlo := hexNumber_hexText a.lo
  rw [a.hi_toNat] at hhi
  rw [a.lo_toNat] at hlo
  simp only [hexNumber, hexText, List.cons_append, List.nil_append, List.foldl_cons, List.foldl_nil] at hhi hlo ⊢
  omega

/-- The bytes of a row are tokens. -/
lemma spaced_bytesText (bytes : List Byte) : Spaced (bytes.map hexText) (bytesText bytes) := by
  induction bytes with
  | nil => exact .nil
  | cons b bytes ih =>
    have htext : bytesText (b :: bytes) = hexText b ++ 0x20#8 :: bytesText bytes := by
      simp [bytesText]
    rw [htext]
    exact .token (hexRun_hexText b) (by simp) (.space ih)

/-- A row of a listing is a POKE of its bytes. -/
lemma command_rowText (a : Word) (bytes : List Byte) : command (rowText a bytes) = .poke a bytes := by
  have htext : rowText a bytes =
      (hexText a.hi ++ hexText a.lo) ++ 0x3A#8 :: 0x20#8 :: bytesText bytes := by
    simp [rowText, addrText]
  have hbyte : (fun tok => BitVec.ofNat 8 (hexNumber tok)) ∘ hexText = id := by
    funext b
    simp [hexNumber_hexText]
  have hbytes : (bytes.map hexText).map (fun tok => BitVec.ofNat 8 (hexNumber tok)) = bytes := by
    rw [List.map_map, hbyte, List.map_id]
  rw [htext, command_poke (hexRun_addr a) (.space (spaced_bytesText bytes)), hexNumber_addr, hbytes]
  simp

/-- No key of a row is RETURN or a rubout. -/
lemma plain_rowText {a : Word} {bytes : List Byte} {c : Byte} (h : c ∈ rowText a bytes) :
    c ≠ 0x0D#8 ∧ isRubout c = false := by
  have hhex : ∀ c : Byte, (hexVal c).isSome → c ≠ 0x0D#8 ∧ isRubout c = false := by decide
  have hc : (hexVal c).isSome ∨ c = 0x3A#8 ∨ c = 0x20#8 := by
    simp only [rowText, addrText, bytesText, List.mem_append, List.mem_cons, List.not_mem_nil, or_false,
      List.mem_flatMap] at h
    obtain ((h | h) | h | h) | ⟨b, -, h | h⟩ := h
    · exact .inl (isHex_hexText _ c h)
    · exact .inl (isHex_hexText _ c h)
    · exact .inr (.inl h)
    · exact .inr (.inr h)
    · exact .inl (isHex_hexText b c h)
    · exact .inr (.inr h)
  obtain hc | rfl | rfl := hc
  · exact hhex c hc
  · decide
  · decide

lemma length_rowText (a : Word) (bytes : List Byte) : (rowText a bytes).length = 6 + 3 * bytes.length := by
  induction bytes with
  | nil => rfl
  | cons b bytes ih =>
    have htext : rowText a (b :: bytes) = addrText a ++ (hexText b ++ [0x20#8]) ++ bytesText bytes := by
      simp [rowText, bytesText]
    have hlen : (rowText a bytes).length = (addrText a).length + (bytesText bytes).length := List.length_append
    rw [hlen] at ih
    rw [htext, List.length_append, List.length_append, List.length_append]
    simp only [hexText, List.length_cons, List.length_nil] at ih ⊢
    omega

end Sys6
