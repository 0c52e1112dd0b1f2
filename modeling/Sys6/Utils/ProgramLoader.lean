import Sys6.Library.Hex
import Sys6.Monitor.Image

/-!
# The program loader

`loadProgram` writes hex text into a device byte by byte, and throws at the first character that is
no digit. What has been written until then stays. A `Char` stands for one byte of the `std::string`.
-/

namespace Sys6

/-- Of a device the loader uses its `write` only. -/
class MemoryDevice (δ : Type) where
  write : δ → Word → Byte → δ

instance : MemoryDevice RAM := ⟨RAM.write⟩

instance : MemoryDevice ROM := ⟨ROM.write⟩

namespace ProgramLoader

def hexDigitValue {m : Type → Type} [Monad m] [MonadExceptOf String m] (c : Char) : m Nat :=
  if '0' ≤ c ∧ c ≤ '9' then pure (c.toNat - '0'.toNat)
  else if 'a' ≤ c ∧ c ≤ 'f' then pure (c.toNat - 'a'.toNat + 10)
  else if 'A' ≤ c ∧ c ≤ 'F' then pure (c.toNat - 'A'.toNat + 10)
  else throw "loadProgram: invalid hex character"

variable {δ : Type} [MemoryDevice δ]

/-- The loop over the digit pairs, from `address` on. -/
def loadDigits (address : Word) : List Char → EStateM String δ Unit
  | d :: d' :: digits => do
    let high ← hexDigitValue d
    let low ← hexDigitValue d'
    modify fun device => MemoryDevice.write device address (BitVec.ofNat 8 (high <<< 4 ||| low))
    loadDigits (address + 1#16) digits
  | _ => pure ()

end ProgramLoader

/-- The device is the state; it keeps what has been written when an exception is thrown. -/
def loadProgram {δ : Type} [MemoryDevice δ] (startAddress : Word) (hex : String) : EStateM String δ Unit := do
  let digits := hex.toList.filter fun c => !monitor.isspace c
  if digits.length % 2 ≠ 0 then throw "loadProgram: hex string has odd digit count"
  ProgramLoader.loadDigits startAddress digits

namespace ProgramLoader

variable {δ : Type} [MemoryDevice δ]

/-- The writes of some bytes at consecutive addresses. -/
def writesFrom : Word → List Byte → List (Word × Byte)
  | _, [] => []
  | a, b :: bs => (a, b) :: writesFrom (a + 1#16) bs

/-- The device after these writes, in order. -/
def performed (device : δ) (writes : List (Word × Byte)) : δ :=
  writes.foldl (fun device w => MemoryDevice.write device w.1 w.2) device

omit [MemoryDevice δ] in
lemma hexDigitValue_run (c : Char) (device : δ) :
    (hexDigitValue c : EStateM String δ Nat).run device = match Hex.digitValue c with
      | some v => .ok v device
      | none => .error "loadProgram: invalid hex character" device := by
  unfold hexDigitValue Hex.digitValue
  split_ifs <;> rfl

lemma loadDigits_cons (address : Word) (d d' : Char) (ds : List Char) (device : δ) :
    (loadDigits address (d :: d' :: ds)).run device = match Hex.digitValue d, Hex.digitValue d' with
      | some high, some low => (loadDigits (address + 1#16) ds).run
          (MemoryDevice.write device address (BitVec.ofNat 8 (high <<< 4 ||| low)))
      | _, _ => .error "loadProgram: invalid hex character" device := by
  have hhigh := hexDigitValue_run d device
  have hlow := hexDigitValue_run d' device
  simp only [EStateM.run] at hhigh hlow
  simp only [EStateM.run, loadDigits, bind, EStateM.bind, hhigh]
  cases Hex.digitValue d with
  | none => rfl
  | some high =>
    simp only [hlow]
    cases Hex.digitValue d' with
    | none => rfl
    | some low => rfl

/-- The pairs before the first bad one are written, and a bad one is the end. -/
lemma loadDigits_run (ds : List Char) (heven : ds.length % 2 = 0) (address : Word) (device : δ) :
    (loadDigits address ds).run device =
      if Hex.Whole ds then .ok () (performed device (writesFrom address (Hex.leading ds)))
      else .error "loadProgram: invalid hex character"
        (performed device (writesFrom address (Hex.leading ds))) := by
  induction ds using Hex.leading.induct generalizing address device with
  | case1 d d' ds high low hlow hhigh ih =>
    have heven' : ds.length % 2 = 0 := by
      simp only [List.length_cons] at heven
      omega
    have hwhole : Hex.Whole (d :: d' :: ds) ↔ Hex.Whole ds := by
      rw [Hex.whole_cons, hhigh, hlow]
      simp
    rw [loadDigits_cons, Hex.leading_cons hhigh hlow, hhigh, hlow]
    simp only [hwhole]
    exact ih heven' _ _
  | case2 d d' ds hbad =>
    rw [loadDigits_cons, if_neg (Hex.not_whole_bad hbad), Hex.leading_bad hbad]
    split
    · rename_i high low hhigh hlow
      exact (hbad high low hhigh hlow).elim
    · rfl
  | case3 ds hshort =>
    cases ds with
    | nil => rfl
    | cons d ds =>
      cases ds with
      | nil => simp at heven
      | cons d' ds => exact absurd rfl (hshort d d' ds)

/-- What becomes of the device, and whether an exception is thrown. -/
lemma loadProgram_run (startAddress : Word) (hex : String) (device : δ) :
    let ds := hex.toList.filter fun c => !monitor.isspace c
    (loadProgram startAddress hex).run device =
      if ds.length % 2 ≠ 0 then .error "loadProgram: hex string has odd digit count" device
      else if Hex.Whole ds then .ok () (performed device (writesFrom startAddress (Hex.leading ds)))
      else .error "loadProgram: invalid hex character"
        (performed device (writesFrom startAddress (Hex.leading ds))) := by
  intro ds
  by_cases hodd : ds.length % 2 ≠ 0
  · rw [if_pos hodd]
    unfold loadProgram
    rw [if_pos hodd]
    rfl
  · rw [if_neg hodd, ← loadDigits_run ds (by omega)]
    unfold loadProgram
    rw [if_neg hodd]

lemma hexDigitValue_monitor (c : Char) : monitor.hexDigitValue c = match Hex.digitValue c with
    | some v => .ok v
    | none => .error "loadRoutine: invalid hex character" := by
  unfold monitor.hexDigitValue Hex.digitValue
  split_ifs <;> rfl

lemma hexBytes_cons (d d' : Char) (ds : List Char) :
    monitor.hexBytes (d :: d' :: ds) = match Hex.digitValue d, Hex.digitValue d' with
      | some high, some low => (monitor.hexBytes ds).map (BitVec.ofNat 8 (high <<< 4 ||| low) :: ·)
      | _, _ => .error "loadRoutine: invalid hex character" := by
  rw [monitor.hexBytes, hexDigitValue_monitor, hexDigitValue_monitor]
  cases Hex.digitValue d with
  | none => rfl
  | some high =>
    cases Hex.digitValue d' with
    | none => rfl
    | some low => cases monitor.hexBytes ds <;> rfl

lemma hexBytes_eq (ds : List Char) (heven : ds.length % 2 = 0) : monitor.hexBytes ds =
    if Hex.Whole ds then .ok (Hex.leading ds) else .error "loadRoutine: invalid hex character" := by
  induction ds using Hex.leading.induct with
  | case1 d d' ds high low hlow hhigh ih =>
    have heven' : ds.length % 2 = 0 := by
      simp only [List.length_cons] at heven
      omega
    have hwhole : Hex.Whole (d :: d' :: ds) ↔ Hex.Whole ds := by
      rw [Hex.whole_cons, hhigh, hlow]
      simp
    rw [hexBytes_cons, Hex.leading_cons hhigh hlow, hhigh, hlow]
    simp only [hwhole, ih heven']
    split_ifs <;> rfl
  | case2 d d' ds hbad =>
    rw [hexBytes_cons, if_neg (Hex.not_whole_bad hbad)]
    split
    · rename_i high low hhigh hlow
      exact (hbad high low hhigh hlow).elim
    · rfl
  | case3 ds hshort =>
    cases ds with
    | nil => rfl
    | cons d ds =>
      cases ds with
      | nil => simp at heven
      | cons d' ds => exact absurd rfl (hshort d d' ds)

lemma loadRoutine_run (busAddr : Word) (hex : String) (rom : ROM) :
    let ds := hex.toList.filter fun c => !monitor.isspace c
    monitor.loadRoutine busAddr hex rom =
      if ds.length % 2 ≠ 0 then .error "loadRoutine: hex string has odd digit count"
      else if Hex.Whole ds then .ok (rom.loadBytes (busAddr - monitor.kRomBase) (Hex.leading ds))
      else .error "loadRoutine: invalid hex character" := by
  intro ds
  have hparse : monitor.parse hex = if ds.length % 2 ≠ 0 then
      .error "loadRoutine: hex string has odd digit count" else monitor.hexBytes ds := rfl
  rw [monitor.loadRoutine_eq, hparse]
  split_ifs with hodd hwhole
  · rfl
  · rw [hexBytes_eq ds (by omega), if_pos hwhole]
    rfl
  · rw [hexBytes_eq ds (by omega), if_neg hwhole]
    rfl

/-! ## Both loaders -/

/-- The characters left without the white space are no pairs of digits. -/
def Malformed (hex : String) : Prop :=
  (hex.toList.filter fun c => !monitor.isspace c).length % 2 = 1 ∨
  ∃ c ∈ hex.toList, monitor.isspace c = false ∧ Hex.NotHex c

lemma malformed_iff {hex : String} :
    Malformed hex ↔ ¬Hex.Whole (hex.toList.filter fun c => !monitor.isspace c) := by
  rw [Hex.not_whole_iff, Malformed]
  simp only [List.mem_filter, Bool.not_eq_eq_eq_not, Bool.not_true, and_assoc]

/-- Every rendering of the bytes is decoded by both loaders, with the same writes; and both throw at
the same texts. -/
theorem loaders_agree {δ : Type} [MemoryDevice δ] (device : δ) (rom : ROM) (start : Word) (hex : String) :
    (∀ bytes, Hex.Renders monitor.isspace bytes hex.toList → start.toNat + bytes.length ≤ 65536 →
      (loadProgram start hex).run device = .ok () (performed device (writesFrom start bytes)) ∧
      ∃ rom', monitor.loadRoutine (0xC000#16 + start) hex rom = .ok rom' ∧ rom'.size = rom.size ∧
        (∀ i (hi : i < bytes.length), rom'.data (start + BitVec.ofNat 16 i) = bytes[i]) ∧
        ∀ offset : Word, (∀ i < bytes.length, offset ≠ start + BitVec.ofNat 16 i) →
          rom'.data offset = rom.data offset) ∧
    ((∃ e device', (loadProgram start hex).run device = .error e device') ↔ Malformed hex) ∧
    ((∃ e, monitor.loadRoutine (0xC000#16 + start) hex rom = .error e) ↔ Malformed hex) := by
  have hbase : 0xC000#16 + start - monitor.kRomBase = start := by
    unfold monitor.kRomBase
    bv_omega
  have hprogram := loadProgram_run start hex device
  have hroutine := loadRoutine_run (0xC000#16 + start) hex rom
  simp only [hbase] at hprogram hroutine
  set ds := hex.toList.filter fun c => !monitor.isspace c with hds
  refine ⟨fun bytes hrenders hsize => ?_, ?_, ?_⟩
  · have hwrites : Hex.Writes bytes ds := hrenders
    have heven : ¬ds.length % 2 ≠ 0 := fun h => h hwrites.whole.1
    rw [if_neg heven, if_pos hwrites.whole, hwrites.leading] at hprogram hroutine
    have hdata : ∀ w, (rom.loadBytes start bytes).data w =
        if start.toNat ≤ w.toNat then (bytes[w.toNat - start.toNat]?).getD (rom.data w) else rom.data w := by
      intro w
      have h := monitor.data_loadBytes bytes rom start.toNat w hsize
      rwa [BitVec.ofNat_toNat, BitVec.setWidth_eq] at h
    refine ⟨hprogram, _, hroutine, monitor.size_loadBytes bytes rom start, fun i hi => ?_, fun offset hoffset => ?_⟩
    · have hw : (start + BitVec.ofNat 16 i).toNat = start.toNat + i := by
        rw [BitVec.toNat_add, BitVec.toNat_ofNat]
        omega
      rw [hdata, hw, if_pos (by omega), Nat.add_sub_cancel_left, List.getElem?_eq_getElem hi]
      rfl
    · rw [hdata]
      split_ifs with hle
      · rw [List.getElem?_eq_none, Option.getD_none]
        by_contra hlt
        refine hoffset (offset.toNat - start.toNat) (by omega) ?_
        apply BitVec.eq_of_toNat_eq
        rw [BitVec.toNat_add, BitVec.toNat_ofNat]
        have := offset.isLt
        omega
      · rfl
  · rw [hprogram, malformed_iff, ← hds]
    by_cases hodd : ds.length % 2 ≠ 0
    · rw [if_pos hodd]
      exact ⟨fun _ h => hodd h.1, fun _ => ⟨_, _, rfl⟩⟩
    rw [if_neg hodd]
    by_cases hwhole : Hex.Whole ds
    · rw [if_pos hwhole]
      exact ⟨nofun, fun h => absurd hwhole h⟩
    · rw [if_neg hwhole]
      exact ⟨fun _ => hwhole, fun _ => ⟨_, _, rfl⟩⟩
  · rw [hroutine, malformed_iff, ← hds]
    by_cases hodd : ds.length % 2 ≠ 0
    · rw [if_pos hodd]
      exact ⟨fun _ h => hodd h.1, fun _ => ⟨_, rfl⟩⟩
    rw [if_neg hodd]
    by_cases hwhole : Hex.Whole ds
    · rw [if_pos hwhole]
      exact ⟨nofun, fun h => absurd hwhole h⟩
    · rw [if_neg hwhole]
      exact ⟨fun _ => hwhole, fun _ => ⟨_, rfl⟩⟩

lemma size_performed (writes : List (Word × Byte)) (ram : RAM) : (performed ram writes).size = ram.size := by
  induction writes generalizing ram with
  | nil => rfl
  | cons w writes ih => exact ih (ram.write w.1 w.2)

/-- An address that is not written to. -/
lemma data_performed_of_ne {w : Word} (bytes : List Byte) {start : Word} {ram : RAM}
    (h : ∀ j < bytes.length, start + BitVec.ofNat 16 j ≠ w) :
    (performed ram (writesFrom start bytes)).data w = ram.data w := by
  induction bytes generalizing start ram with
  | nil => rfl
  | cons b bytes ih =>
    have h0 : w ≠ start := by
      intro heq
      exact h 0 (by simp) (by rw [heq]; simp)
    have hrest : (performed (ram.write start b) (writesFrom (start + 1#16) bytes)).data w =
        (ram.write start b).data w := ih fun j hj => by
      rw [succ_offset]
      exact h (j + 1) (by simpa using hj)
    exact hrest.trans (Function.update_of_ne h0 _ _)

/-- The last byte that is written to an address stays there. -/
lemma data_performed_last (bytes : List Byte) {start : Word} {ram : RAM} {i : Nat} (hi : i < bytes.length)
    (hlast : ∀ j, i < j → j < bytes.length → start + BitVec.ofNat 16 j ≠ start + BitVec.ofNat 16 i) :
    (performed ram (writesFrom start bytes)).data (start + BitVec.ofNat 16 i) = bytes[i] := by
  induction bytes generalizing start ram i with
  | nil => cases hi
  | cons b bytes ih =>
    have hcons : performed ram (writesFrom start (b :: bytes)) =
        performed (ram.write start b) (writesFrom (start + 1#16) bytes) := rfl
    rw [hcons]
    cases i with
    | zero =>
      have hrest : (performed (ram.write start b) (writesFrom (start + 1#16) bytes)).data
          (start + BitVec.ofNat 16 0) = (ram.write start b).data (start + BitVec.ofNat 16 0) :=
        data_performed_of_ne bytes fun j hj => by
          rw [succ_offset]
          exact hlast (j + 1) (by omega) (by simpa using hj)
      rw [hrest]
      simp [RAM.write]
    | succ i =>
      have hi' : i < bytes.length := by simpa using hi
      have hrest : (performed (ram.write start b) (writesFrom (start + 1#16) bytes)).data
          (start + 1#16 + BitVec.ofNat 16 i) = bytes[i] := ih hi' fun j hij hj => by
        rw [succ_offset, succ_offset]
        exact hlast (j + 1) (by omega) (by simpa using hj)
      rwa [succ_offset] at hrest

/-- The writes leave the RAM as it is where the last one to each address does. -/
lemma performed_eq_iff (bytes : List Byte) (start : Word) (ram : RAM) :
    performed ram (writesFrom start bytes) = ram ↔
      ∀ i (hi : i < bytes.length),
        (∀ j, i < j → j < bytes.length → start + BitVec.ofNat 16 j ≠ start + BitVec.ofNat 16 i) →
        ram.data (start + BitVec.ofNat 16 i) = bytes[i] := by
  constructor
  · intro h i hi hlast
    rw [← data_performed_last bytes hi hlast, h]
  · intro h
    have hdata : (performed ram (writesFrom start bytes)).data = ram.data := by
      funext w
      by_cases hhit : ∃ i < bytes.length, start + BitVec.ofNat 16 i = w
      · classical
        obtain ⟨i, hi, rfl⟩ := hhit
        set P := fun j => j < bytes.length ∧ start + BitVec.ofNat 16 j = start + BitVec.ofNat 16 i
        obtain ⟨hlt, heq⟩ := Nat.findGreatest_spec (P := P) (le_of_lt hi) ⟨hi, rfl⟩
        have hlast : ∀ j, Nat.findGreatest P bytes.length < j → j < bytes.length →
            start + BitVec.ofNat 16 j ≠ start + BitVec.ofNat 16 (Nat.findGreatest P bytes.length) := by
          intro j hij hj hsame
          exact Nat.findGreatest_is_greatest hij (le_of_lt hj) ⟨hj, hsame.trans heq⟩
        rw [← heq, data_performed_last bytes hlt hlast, h _ hlt hlast]
      · exact data_performed_of_ne bytes fun j hj heq => hhit ⟨j, hj, heq⟩
    have hsize := size_performed (writesFrom start bytes) ram
    generalize performed ram (writesFrom start bytes) = ram' at hdata hsize
    obtain ⟨size, data⟩ := ram'
    obtain rfl : size = _ := hsize
    obtain rfl : data = _ := hdata
    rfl

/-- The RAM is as before the call exactly where the pairs before the bad one say what it holds
already. -/
theorem rejected_unchanged_iff {ram ram' : RAM} {start : Word} {hex e : String}
    (h : (loadProgram start hex).run ram = .error e ram') :
    let ds := hex.toList.filter fun c => !monitor.isspace c
    ram' = ram ↔ ds.length % 2 = 1 ∨
      ∀ i (hi : i < (Hex.leading ds).length),
        (∀ j, i < j → j < (Hex.leading ds).length → start + BitVec.ofNat 16 j ≠ start + BitVec.ofNat 16 i) →
        ram.data (start + BitVec.ofNat 16 i) = (Hex.leading ds)[i] := by
  intro ds
  have hrun := loadProgram_run start hex ram
  simp only at hrun
  rw [h] at hrun
  by_cases hodd : ds.length % 2 ≠ 0
  · rw [if_pos hodd] at hrun
    cases hrun
    exact ⟨fun _ => .inl (by omega), fun _ => rfl⟩
  rw [if_neg hodd] at hrun
  by_cases hwhole : Hex.Whole ds
  · rw [if_pos hwhole] at hrun
    cases hrun
  · rw [if_neg hwhole] at hrun
    cases hrun
    rw [performed_eq_iff]
    exact ⟨.inr, fun h => h.resolve_left (by omega)⟩

/-- The pairs before the bad one are in RAM already. -/
theorem rejected_unchanged_iff_present :
    let ram := (RAM.ofSize 16).write 0#16 0xA9#8
    (loadProgram 0#16 "A9 00 ZZ").run ram = .error "loadProgram: invalid hex character" ram := by
  intro ram
  have h : (loadProgram 0#16 "A9 00 ZZ").run ram = .error "loadProgram: invalid hex character"
      ((ram.write 0#16 0xA9#8).write 1#16 0x00#8) := rfl
  have hleading : Hex.leading ("A9 00 ZZ".toList.filter fun c => !monitor.isspace c) = [0xA9#8, 0x00#8] := by
    decide
  have hpresent : ∀ i (hi : i < [0xA9#8, 0x00#8].length),
      ram.data (0#16 + BitVec.ofNat 16 i) = [0xA9#8, 0x00#8][i] := by decide
  have hsame := (rejected_unchanged_iff h).mpr (.inr fun i hi _ => by simp only [hleading]; exact hpresent i _)
  rwa [hsame] at h

/-- `A9` is written before `ZZ` is rejected. -/
theorem rejected_program_half_loaded : ∃ e ram', (loadProgram 0#16 "A9 ZZ").run (RAM.ofSize 16) = .error e ram' ∧
    (RAM.ofSize 16).data 0#16 = 0#8 ∧ ram'.data 0#16 = 0xA9#8 ∧ ram' ≠ RAM.ofSize 16 := by
  refine ⟨_, _, rfl, rfl, by decide, fun h => ?_⟩
  have hdata := congrArg (fun ram => RAM.data ram 0#16) h
  revert hdata
  decide

end ProgramLoader

end Sys6
