import Sys6.Memory.Bus

/-!
# Attaching devices

Whatever is attached in whatever order, the mappings of a bus are ranges of the sizes of their
devices, and no two of them overlap. So the first match of a lookup is the only one.
-/

namespace Sys6

/-- Where at most one element answers, the order of the list does not matter. -/
lemma find?_perm {α : Type} {p : α → Bool} {l l' : List α} (hp : l.Perm l')
    (hone : ∀ a ∈ l, ∀ b ∈ l, p a = true → p b = true → a = b) : l.find? p = l'.find? p := by
  cases h : l.find? p with
  | none =>
    rw [List.find?_eq_none] at h
    symm
    rw [List.find?_eq_none]
    exact fun a ha => h a (hp.mem_iff.mpr ha)
  | some a =>
    have ha := List.mem_of_find?_eq_some h
    have hpa := List.find?_some h
    cases h' : l'.find? p with
    | none =>
      rw [List.find?_eq_none] at h'
      exact absurd hpa (h' a (hp.mem_iff.mp ha))
    | some b =>
      have hb := hp.mem_iff.mpr (List.mem_of_find?_eq_some h')
      rw [hone a ha b hb hpa (List.find?_some h')]

namespace Mapping

variable {ι : Type}

/-- The mapping answers for `addr`. -/
def Covers (m : Mapping ι) (addr : Word) : Prop := m.start ≤ addr ∧ addr ≤ m.last

def Disjoint (m m' : Mapping ι) : Prop := m.last < m'.start ∨ m'.last < m.start

lemma Disjoint.symm {m m' : Mapping ι} (h : m.Disjoint m') : m'.Disjoint m := Or.symm h

instance : Std.Symm (Disjoint (ι := ι)) := ⟨fun _ _ => Disjoint.symm⟩

lemma Disjoint.not_covers {m m' : Mapping ι} (h : m.Disjoint m') {addr : Word} (hm : m.Covers addr) :
    ¬m'.Covers addr := by
  rintro ⟨h1, h2⟩
  obtain ⟨h3, h4⟩ := hm
  rcases h with h | h
  · bv_omega
  · bv_omega

/-- The range is as long as the device. -/
def Fits {δ : Type} [DeviceStore ι δ] (devices : δ) (m : Mapping ι) : Prop :=
  m.start ≤ m.last ∧ m.last.toNat - m.start.toNat + 1 = DeviceStore.size devices m.device

lemma Fits.offset_lt {δ : Type} [DeviceStore ι δ] {devices : δ} {m : Mapping ι} (h : m.Fits devices)
    {addr : Word} (hc : m.Covers addr) :
    (addr - m.start).toNat < DeviceStore.size devices m.device := by
  obtain ⟨h1, h2⟩ := h
  obtain ⟨h3, h4⟩ := hc
  rw [← h2]
  bv_omega

end Mapping

namespace Bus

variable {ι δ : Type} [DeviceStore ι δ]

/-- The mappings are ranges of their devices, apart from each other. -/
structure Valid (devices : δ) (bus : Bus ι) : Prop where
  fits : ∀ m ∈ bus.mappings, m.Fits devices
  disjoint : bus.mappings.Pairwise Mapping.Disjoint

/-- A call of `attach` on a bus that the caller keeps: what is thrown, and the bus after. -/
def call (devices : δ) (bus : Bus ι) (m : Mapping ι) : Option String × Bus ι :=
  match attach devices m.start m.last m.device bus with
  | .ok bus' => (none, bus')
  | .error e => (some e, bus)

/-- The bus after a sequence of calls, accepted or not. -/
def calls (devices : δ) (bus : Bus ι) (ms : List (Mapping ι)) : Bus ι :=
  ms.foldl (fun bus m => (bus.call devices m).2) bus

/-- All calls of the sequence are accepted. -/
def Accepts (devices : δ) (bus : Bus ι) : List (Mapping ι) → Prop
  | [] => True
  | m :: ms => (bus.call devices m).1 = none ∧ Accepts devices (bus.call devices m).2 ms

/-- The device and the offset an access is handed to. -/
def route (bus : Bus ι) (addr : Word) : Option (ι × Word) :=
  (bus.findMapping addr).map fun m => (m.device, addr - m.start)

/-- A call is accepted when the range fits its device and is clear of the others. -/
lemma call_cases (devices : δ) (bus : Bus ι) (m : Mapping ι) :
    (m.Fits devices ∧ (∀ m' ∈ bus.mappings, m'.Disjoint m) ∧
      bus.call devices m = (none, ⟨bus.mappings ++ [m]⟩)) ∨
    (¬(m.Fits devices ∧ ∀ m' ∈ bus.mappings, m'.Disjoint m) ∧
      ∃ e, bus.call devices m = (some e, bus)) := by
  unfold call attach
  by_cases h1 : m.last < m.start
  · refine .inr ⟨?_, _, by rw [if_pos h1]⟩
    rintro ⟨⟨h, -⟩, -⟩
    bv_omega
  by_cases h2 : m.last.toNat - m.start.toNat + 1 ≠ DeviceStore.size devices m.device
  · exact .inr ⟨fun h => h2 h.1.2, _, by rw [if_neg h1, if_pos h2]⟩
  by_cases h3 : bus.mappings.any fun m' => m.start ≤ m'.last && m.last ≥ m'.start
  · refine .inr ⟨?_, _, by rw [if_neg h1, if_neg h2, if_pos h3]⟩
    rintro ⟨-, h⟩
    obtain ⟨m', hm', hover⟩ := List.any_eq_true.mp h3
    simp only [ge_iff_le, Bool.and_eq_true, decide_eq_true_eq] at hover
    rcases h m' hm' with h | h
    · bv_omega
    · bv_omega
  · refine .inl ⟨⟨by bv_omega, not_not.mp h2⟩, ?_, by rw [if_neg h1, if_neg h2, if_neg h3]⟩
    intro m' hm'
    simp only [ge_iff_le, List.any_eq_true, not_exists, not_and, Bool.and_eq_true,
      decide_eq_true_eq] at h3
    by_cases h : m'.last < m.start
    · exact .inl h
    · exact .inr (by have := h3 m' hm'; bv_omega)

lemma Valid.call {devices : δ} {bus : Bus ι} (h : bus.Valid devices) (m : Mapping ι) :
    (bus.call devices m).2.Valid devices := by
  obtain ⟨hfits, hclear, hc⟩ | ⟨-, e, hc⟩ := call_cases devices bus m
  · rw [hc]
    refine ⟨?_, ?_⟩
    · intro m' hm'
      rw [List.mem_append, List.mem_singleton] at hm'
      rcases hm' with hm' | rfl
      · exact h.fits m' hm'
      · exact hfits
    · rw [List.pairwise_append]
      exact ⟨h.disjoint, List.pairwise_singleton _ _, by simpa using hclear⟩
  · rw [hc]
    exact h

/-- The invariant over any history of calls. -/
lemma Valid.calls {devices : δ} {bus : Bus ι} (h : bus.Valid devices) (ms : List (Mapping ι)) :
    (bus.calls devices ms).Valid devices := by
  induction ms generalizing bus with
  | nil => exact h
  | cons m ms ih => exact ih (h.call m)

lemma valid_empty (devices : δ) : (⟨[]⟩ : Bus ι).Valid devices :=
  ⟨by simp, List.Pairwise.nil⟩

lemma Valid.unique {devices : δ} {bus : Bus ι} (h : bus.Valid devices) {addr : Word} {m m' : Mapping ι}
    (hm : m ∈ bus.mappings) (hm' : m' ∈ bus.mappings) (hc : m.Covers addr) (hc' : m'.Covers addr) :
    m = m' := by
  by_contra hne
  exact (h.disjoint.forall hm hm' hne).not_covers hc hc'

omit [DeviceStore ι δ] in
lemma findMapping_some {bus : Bus ι} {addr : Word} {m : Mapping ι} (h : bus.findMapping addr = some m) :
    m ∈ bus.mappings ∧ m.Covers addr := by
  refine ⟨List.mem_of_find?_eq_some h, ?_⟩
  have hp := List.find?_some h
  simpa [Mapping.Covers] using hp

omit [DeviceStore ι δ] in
lemma findMapping_none {bus : Bus ι} {addr : Word} :
    bus.findMapping addr = none ↔ ∀ m ∈ bus.mappings, ¬m.Covers addr := by
  simp [findMapping, Mapping.Covers]

lemma Valid.findMapping_eq {devices : δ} {bus : Bus ι} (h : bus.Valid devices) {addr : Word} {m : Mapping ι}
    (hm : m ∈ bus.mappings) (hc : m.Covers addr) : bus.findMapping addr = some m := by
  cases hf : bus.findMapping addr with
  | none => exact absurd hc (findMapping_none.mp hf m hm)
  | some m' =>
    obtain ⟨hm', hc'⟩ := findMapping_some hf
    rw [h.unique hm hm' hc hc']

lemma accepts_iff {devices : δ} {bus : Bus ι} {ms : List (Mapping ι)} :
    bus.Accepts devices ms ↔ (∀ m ∈ ms, m.Fits devices) ∧
      (∀ m ∈ ms, ∀ m' ∈ bus.mappings, m'.Disjoint m) ∧ ms.Pairwise Mapping.Disjoint := by
  induction ms generalizing bus with
  | nil => simp [Accepts]
  | cons m ms ih =>
    unfold Accepts
    obtain ⟨hfits, hclear, hc⟩ | ⟨hnot, e, hc⟩ := call_cases devices bus m
    · rw [hc, ih, List.pairwise_cons]
      simp only [List.mem_append, List.mem_singleton, List.forall_mem_cons]
      constructor
      · rintro ⟨-, h1, h2, h3⟩
        exact ⟨⟨hfits, h1⟩, ⟨hclear, fun a ha b hb => h2 a ha b (.inl hb)⟩,
          fun a ha => h2 a ha m (.inr rfl), h3⟩
      · rintro ⟨⟨-, h1⟩, ⟨-, h2⟩, h3, h4⟩
        refine ⟨trivial, h1, ?_, h4⟩
        rintro a ha b (hb | rfl)
        · exact h2 a ha b hb
        · exact h3 a ha
    · rw [hc]
      constructor
      · rintro ⟨h, -⟩
        cases h
      · rintro ⟨h1, h2, -⟩
        exact absurd ⟨h1 m (by simp), h2 m (by simp)⟩ hnot

lemma mappings_calls {devices : δ} {bus : Bus ι} {ms : List (Mapping ι)} (h : bus.Accepts devices ms) :
    (bus.calls devices ms).mappings = bus.mappings ++ ms := by
  induction ms generalizing bus with
  | nil => simp [calls]
  | cons m ms ih =>
    obtain ⟨h1, h2⟩ := h
    obtain ⟨-, -, hc⟩ | ⟨-, e, hc⟩ := call_cases devices bus m
    · have := ih h2
      rw [hc] at this
      rw [calls, List.foldl_cons, hc]
      simpa [calls] using this
    · rw [hc] at h1
      cases h1

/-- A reordering of accepted calls is accepted. -/
lemma Accepts.perm {devices : δ} {ms ms' : List (Mapping ι)} (h : (⟨[]⟩ : Bus ι).Accepts devices ms)
    (hp : ms.Perm ms') : (⟨[]⟩ : Bus ι).Accepts devices ms' := by
  rw [accepts_iff] at h ⊢
  obtain ⟨h1, -, h3⟩ := h
  exact ⟨fun m hm => h1 m (hp.mem_iff.mpr hm), by simp, h3.perm hp Mapping.Disjoint.symm⟩

lemma Valid.accepts {devices : δ} {bus : Bus ι} (h : bus.Valid devices) :
    (⟨[]⟩ : Bus ι).Accepts devices bus.mappings :=
  accepts_iff.mpr ⟨h.fits, by simp, h.disjoint⟩

/-- Buses with the same mappings route every address alike. -/
lemma Valid.route_eq {devices : δ} {bus bus' : Bus ι} (h : bus.Valid devices)
    (hp : bus.mappings.Perm bus'.mappings) (addr : Word) : bus'.route addr = bus.route addr := by
  unfold route findMapping
  rw [find?_perm hp fun m hm m' hm' hc hc' => ?_]
  have hcover : m.Covers addr := by simpa [Mapping.Covers] using hc
  exact h.unique hm hm' hcover (by simpa [Mapping.Covers] using hc')

lemma Valid.offset_lt {devices : δ} {bus : Bus ι} (h : bus.Valid devices) {addr : Word} {d : ι}
    {offset : Word} (hr : bus.route addr = some (d, offset)) :
    offset.toNat < DeviceStore.size devices d := by
  obtain ⟨m, hm, hd⟩ := Option.map_eq_some_iff.mp hr
  cases hd
  obtain ⟨hmem, hc⟩ := findMapping_some hm
  exact (h.fits m hmem).offset_lt hc

/-- A mapped access is one of the device, at the offset. -/
lemma access_mapped {bus : Bus ι} {addr : Word} {d : ι} {offset : Word} (hr : bus.route addr = some (d, offset))
    (devices : δ) (val : Byte) :
    Wired.read ⟨bus, devices⟩ addr =
        ((DeviceStore.read devices d offset).1, ⟨bus, (DeviceStore.read devices d offset).2⟩) ∧
      Wired.write ⟨bus, devices⟩ addr val = ⟨bus, DeviceStore.write devices d offset val⟩ := by
  obtain ⟨m, hf, hd⟩ := Option.map_eq_some_iff.mp hr
  cases hd
  simp [Wired.read, Wired.write, hf]

lemma access_unmapped {bus : Bus ι} {addr : Word} (hr : bus.route addr = none) (devices : δ)
    (val : Byte) : Wired.read ⟨bus, devices⟩ addr = (0xFF#8, ⟨bus, devices⟩) ∧
      Wired.write ⟨bus, devices⟩ addr val = ⟨bus, devices⟩ := by
  have hf : bus.findMapping addr = none := Option.map_eq_none_iff.mp hr
  simp [Wired.read, Wired.write, hf]

/-- Over any history of `attach` calls on a fresh bus. -/
theorem attach_history (devices : δ) (ms : List (Mapping ι)) :
    let bus := (⟨[]⟩ : Bus ι).calls devices ms
    bus.mappings.Pairwise Mapping.Disjoint ∧ (∀ m ∈ bus.mappings, m.Fits devices) ∧
    (∀ m, (bus.call devices m).1 ≠ none → (bus.call devices m).2 = bus) ∧
    (∀ addr, ∀ m ∈ bus.mappings, ∀ m' ∈ bus.mappings, m.Covers addr → m'.Covers addr → m = m') ∧
    (∀ addr, (∀ m ∈ bus.mappings, ¬m.Covers addr) → bus.route addr = none) ∧
    (∀ addr, ∀ m ∈ bus.mappings, m.Covers addr → bus.route addr = some (m.device, addr - m.start)) ∧
    (∀ addr d offset, bus.route addr = some (d, offset) →
      offset.toNat < DeviceStore.size devices d ∧ ∀ (devices' : δ) (val : Byte),
      Wired.read ⟨bus, devices'⟩ addr =
        ((DeviceStore.read devices' d offset).1, ⟨bus, (DeviceStore.read devices' d offset).2⟩) ∧
      Wired.write ⟨bus, devices'⟩ addr val = ⟨bus, DeviceStore.write devices' d offset val⟩) ∧
    (∀ addr, bus.route addr = none → ∀ (devices' : δ) (val : Byte),
      Wired.read ⟨bus, devices'⟩ addr = (0xFF#8, ⟨bus, devices'⟩) ∧
      Wired.write ⟨bus, devices'⟩ addr val = ⟨bus, devices'⟩) ∧
    ((⟨[]⟩ : Bus ι).Accepts devices ms → bus.mappings = ms) ∧
    (∀ ms', bus.mappings.Perm ms' → (⟨[]⟩ : Bus ι).Accepts devices ms' ∧
      ∀ addr, ((⟨[]⟩ : Bus ι).calls devices ms').route addr = bus.route addr) := by
  intro bus
  have hv : bus.Valid devices := (valid_empty devices).calls ms
  refine ⟨hv.disjoint, hv.fits, ?_, fun addr m hm m' hm' => hv.unique hm hm', ?_, ?_, ?_, ?_, ?_, ?_⟩
  · intro m hne
    obtain ⟨-, -, hc⟩ | ⟨-, e, hc⟩ := call_cases devices bus m
    · rw [hc] at hne
      exact absurd rfl hne
    · rw [hc]
  · intro addr hnone
    rw [route, findMapping_none.mpr hnone]
    rfl
  · intro addr m hm hc
    rw [route, hv.findMapping_eq hm hc]
    rfl
  · exact fun addr d offset hr => ⟨hv.offset_lt hr, fun devices' val => access_mapped hr devices' val⟩
  · exact fun addr hr devices' val => access_unmapped hr devices' val
  · intro hacc
    exact mappings_calls hacc
  · intro ms' hp
    have hacc := hv.accepts.perm hp
    refine ⟨hacc, hv.route_eq ?_⟩
    rw [mappings_calls hacc]
    exact hp

end Bus

end Sys6
