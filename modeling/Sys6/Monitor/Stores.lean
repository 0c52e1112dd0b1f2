import Sys6.Monitor.Cursor

/-!
# RAM after a command

`POKE` and `LOAD` store bytes one after another. Where these go and what else a command leaves
behind, read as facts about the RAM of the system.
-/

namespace Sys6

/-- RAM off page 1 and off the workspace. -/
structure Free (addr : Word) : Prop where
  ram : addr < 0x8000#16
  stack : addr.hi ≠ 0x01#8
  low : ¬addr ≤ 0x0044#16
  high : ¬(0x00F0#16 ≤ addr ∧ addr ≤ 0x00FD#16)

instance (addr : Word) : Decidable (Free addr) :=
  decidable_of_iff (addr < 0x8000#16 ∧ addr.hi ≠ 0x01#8 ∧ ¬addr ≤ 0x0044#16 ∧
      ¬(0x00F0#16 ≤ addr ∧ addr ≤ 0x00FD#16))
    ⟨fun ⟨hram, hstack, hlow, hhigh⟩ => ⟨hram, hstack, hlow, hhigh⟩,
      fun h => ⟨h.ram, h.stack, h.low, h.high⟩⟩

lemma Free.hi_lt {addr : Word} (h : Free addr) : addr.hi < 0x80#8 := by
  have hhi := addr.hi_toNat
  have hram := h.ram
  simp only [BitVec.lt_def, BitVec.toNat_ofNat] at hram ⊢
  omega

lemma Free.clear {addr : Word} (h : Free addr) : Clear addr := by
  refine ⟨fun h80 => ?_, h.stack, fun h0 => ?_⟩
  · have hlt := h.hi_lt
    rw [h80] at hlt
    exact absurd hlt (by decide)
  · have hhi := addr.hi_toNat
    have hlo := addr.lo_toNat
    have hlow := h.low
    have hhigh := h.high
    rw [h0] at hhi
    simp only [BitVec.le_def, BitVec.toNat_ofNat] at hhi hlow hhigh
    have hFC : addr.lo ≠ 0xFC#8 := by
      intro heq
      rw [heq] at hlo
      simp only [BitVec.toNat_ofNat] at hlo
      omega
    have hFD : addr.lo ≠ 0xFD#8 := by
      intro heq
      rw [heq] at hlo
      simp only [BitVec.toNat_ofNat] at hlo
      omega
    simp only [Board.isWork, BitVec.le_def, BitVec.toNat_ofNat, hFC, hFD, decide_false, Bool.or_false,
      Bool.or_eq_false_iff, Bool.and_eq_false_iff, decide_eq_false_iff_not]
    omega

lemma mem_addresses {addr a : Word} {n : Nat} :
    addr ∈ addresses a n ↔ ∃ i < n, addr = a + BitVec.ofNat 16 i := by
  simp [addresses, eq_comm]

lemma storeLow_of_ne {addr a : Word} {b : Byte} {low : Byte → Byte} (h0 : addr.hi = 0#8) (hne : addr ≠ a) :
    storeLow a b low addr.lo = low addr.lo := by
  unfold storeLow
  split_ifs with ha
  · refine Function.update_of_ne (fun hlo => hne ?_) _ _
    rw [← word_hi_lo addr, ← word_hi_lo a, h0, ha, hlo]
  · rfl

lemma storeHigh_of_ne {addr a : Word} {b : Byte} {high : Word → Byte} (hne : addr ≠ a) :
    storeHigh a b high addr = high addr := by
  unfold storeHigh
  split_ifs
  · rfl
  · exact Function.update_of_ne hne _ _
  · rfl

lemma storesLow_of_not_mem {addr a : Word} {bytes : List Byte} {low : Byte → Byte} (h0 : addr.hi = 0#8)
    (h : addr ∉ addresses a bytes.length) : storesLow a bytes low addr.lo = low addr.lo := by
  induction bytes generalizing a low with
  | nil => rfl
  | cons b bytes ih =>
    rw [List.length_cons, addresses_succ, List.mem_cons, not_or] at h
    exact (ih h.2).trans (storeLow_of_ne h0 h.1)

lemma storesHigh_of_not_mem {addr a : Word} {bytes : List Byte} {high : Word → Byte}
    (h : addr ∉ addresses a bytes.length) : storesHigh a bytes high addr = high addr := by
  induction bytes generalizing a high with
  | nil => rfl
  | cons b bytes ih =>
    rw [List.length_cons, addresses_succ, List.mem_cons, not_or] at h
    exact (ih h.2).trans (storeHigh_of_ne h.1)

lemma mem_stores_of_not_mem {addr a : Word} {bytes : List Byte} {v : View}
    (h : addr ∉ addresses a bytes.length) : (v.stores a bytes).mem addr = v.mem addr := by
  unfold View.mem
  split_ifs with h0
  · exact storesLow_of_not_mem h0 h
  · exact storesHigh_of_not_mem h
  · rfl
  · rfl

lemma mem_stores_one {a : Word} {b : Byte} {v : View} (h : a.hi < 0x80#8) : (v.stores a [b]).mem a = b := by
  unfold View.mem
  by_cases h0 : a.hi = 0x00#8
  · rw [if_pos h0]
    show storeLow a b v.low a.lo = b
    rw [storeLow, if_pos h0, Function.update_self]
  · rw [if_neg h0, if_pos h]
    show storeHigh a b v.high a = b
    rw [storeHigh, if_neg h0, if_pos h, Function.update_self]

/-- Every byte is where it was stored. -/
lemma mem_stores {a : Word} {bytes : List Byte} {v : View} (hlen : bytes.length ≤ 65536) (i : Nat)
    (hi : i < bytes.length) (hram : (a + BitVec.ofNat 16 i).hi < 0x80#8) :
    (v.stores a bytes).mem (a + BitVec.ofNat 16 i) = bytes[i] := by
  induction bytes generalizing a v i with
  | nil => exact absurd hi (by simp)
  | cons b bytes ih =>
    rw [List.length_cons] at hlen hi
    have hsucc : ∀ j, a + BitVec.ofNat 16 (j + 1) = a + 1#16 + BitVec.ofNat 16 j :=
      fun j => (succ_offset a j).symm
    have hcons : v.stores a (b :: bytes) = (v.stores a [b]).stores (a + 1#16) bytes := rfl
    rw [hcons]
    cases i with
    | zero =>
      have ha : a + BitVec.ofNat 16 0 = a := by simp
      have hnot : a ∉ addresses (a + 1#16) bytes.length := by
        rw [mem_addresses]
        rintro ⟨j, hj, heq⟩
        have hzero : BitVec.ofNat 16 (j + 1) = 0#16 := by
          rw [← hsucc] at heq
          generalize BitVec.ofNat 16 (j + 1) = x at heq ⊢
          bv_omega
        have hmod := congrArg BitVec.toNat hzero
        simp only [BitVec.toNat_ofNat] at hmod
        omega
      rw [ha, mem_stores_of_not_mem hnot]
      exact mem_stores_one (by simpa using hram)
    | succ i =>
      rw [hsucc i] at hram
      rw [hsucc i, List.getElem_cons_succ]
      have hlen' : bytes.length ≤ 65536 := by omega
      have hi' : i < bytes.length := by omega
      exact ih (v := v.stores a [b]) hlen' i hi' hram

/-- What is seen while a command is carried out. -/
def commandEvent : Event → Prop
  | .visit pc _ _ => pc ≠ 0xCF11#16 ∧ pc ≠ 0xCD00#16
  | _ => True

/-- `LOAD` or `POKE` is about to store at one of the `n` addresses from `a` on, and it is not
clear. -/
structure Machine.Strays (pc a : Word) (n : Nat) (e : List Event) (m : Machine) : Prop where
  seen : ∀ x ∈ e, commandEvent x
  pc : m.pc = pc
  y : m.y = 0#8
  mem : m.bus.work.addr ∈ addresses a n
  not_clear : ¬Clear m.bus.work.addr

/-- Behind other events of the command. -/
lemma Machine.Strays.prepend {pc a : Word} {n : Nat} {e e₀ : List Event} {m : Machine}
    (h : Strays pc a n e m) (he : ∀ x ∈ e₀, commandEvent x) : Strays pc a n (e₀ ++ e) m := by
  refine ⟨fun x hx => ?_, h.pc, h.y, h.mem, h.not_clear⟩
  obtain hx | hx := List.mem_append.mp hx
  · exact he x hx
  · exact h.seen x hx

/-- Behind the first `k` bytes. -/
lemma Machine.Strays.behind {pc a : Word} {k n : Nat} {e e₀ : List Event} {m : Machine}
    (h : Strays pc (a + BitVec.ofNat 16 k) n e m) (he : ∀ x ∈ e₀, commandEvent x) :
    Strays pc a (k + n) (e₀ ++ e) m := by
  have hmem : m.bus.work.addr ∈ addresses a (k + n) := by
    rw [addresses_append]
    exact List.mem_append_right _ h.mem
  exact Strays.prepend ⟨h.seen, h.pc, h.y, hmem, h.not_clear⟩ he

namespace System

/-- RAM at a clear address. -/
lemma Shows.ram_mem {sys : System} {m : Machine} (h : sys.Shows m) {addr : Word} (hclear : Clear addr)
    (hram : addr.hi < 0x80#8) : sys.ram addr = m.view.mem addr := by
  unfold System.ram
  rw [h.ram]
  unfold Board.ram View.mem
  rw [if_neg hclear.stack, if_pos hram]
  split_ifs with h0
  · exact Board.zp_of_not_isWork (hclear.work h0) m.bus
  · rfl

end System

end Sys6
