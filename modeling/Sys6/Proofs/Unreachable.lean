import Sys6.Cpu.Asserted
import Sys6.Library.Checked
import Sys6.Proofs.Progress

/-!
# Which unreachable branches are reached

The asserted clock agrees with the clock where it says anything. In every run the only assertions that
fail are those of three capture handlers, in the T-state in which their store is written.
-/

namespace Sys6

variable {β : Type}

/-- T-states in which a handler captures without a label for them. -/
def Handler.unlabelled (t : CpuStep) : Handler → Bool
  | .storeAbsoluteX | .storeAbsoluteY => t == .T4
  | .storeIndirectY => t == .T5
  | _ => false

/-- Where no assertion fails, the two are the same. -/
def Erases (asserted : CPU6502 β → Option (CPU6502 β)) (handler : CPU6502 β → CPU6502 β) : Prop :=
  ∀ cpu cpu', asserted cpu = some cpu' → handler cpu = cpu'

namespace Asserted

/-- The opcode has a label in the switches of the binary-ALU family. -/
def binaryLabels (ir : Byte) : Bool :=
  (binaryAluSelect ir).any (fun p => p.1 ∈ [AluOp.ADC, .SBC, .AND, .ORA, .EOR, .CMP, .BIT]) &&
    (binaryCommitSelect ir).isSome

/-- The opcode has a label in the switches of the unary-ALU family. -/
def unaryLabels (ir : Byte) : Bool :=
  (unaryAluSelect ir).any (fun op => op ∈ [AluOp.ASL, .LSR, .ROL, .ROR, .INC, .DEC]) &&
    (unaryCommitSelect ir).isSome

/-- The opcode has a label in every switch on `m_IR` that the handler goes through. The last three stores have
one opcode each. -/
def takes (ir : Byte) : Handler → Bool
  | .readImmediate | .readAbsolute | .readZeroPage | .readZeroPageX | .readAbsoluteX | .readAbsoluteY
  | .readIndirectX | .readIndirectY => binaryLabels ir
  | .shiftAccumulator | .rmwZeroPage | .rmwZeroPageX | .rmwAbsolute | .rmwAbsoluteX => unaryLabels ir
  | .impliedIncDec => ir ∈ [cOpINX, cOpDEX, cOpINY, cOpDEY]
  | .impliedTransfer =>
    ir ∈ [cOpTAX, cOpTAY, cOpTXA, cOpTXS, cOpTYA, cOpTSX] ∧ ir ∈ [cOpTAX, cOpTSX, cOpTAY, cOpTXA, cOpTYA, cOpTXS]
  | .impliedFlagOp => ir ∈ [cOpCLC, cOpSEC, cOpCLI, cOpSEI, cOpCLV, cOpCLD, cOpSED]
  | .loadImmediate | .loadZeroPage | .loadZeroPageX | .loadZeroPageY | .loadAbsolute | .loadAbsoluteX
  | .loadAbsoluteY | .loadIndirectX | .loadIndirectY => (loadSelect ir).isSome
  | .storeZeroPage | .storeZeroPageX | .storeZeroPageY | .storeAbsolute | .storeIndirectX => (storeSelect ir).isSome
  | .storeAbsoluteX => ir = cOpSTAAbsoluteX
  | .storeAbsoluteY => ir = cOpSTAAbsoluteY
  | .storeIndirectY => ir = cOpSTAIndirectY
  | .branch => ir ∈ [cOpBPL, cOpBMI, cOpBVC, cOpBVS, cOpBCC, cOpBCS, cOpBNE, cOpBEQ]
  | .brk | .jsr | .rts | .jmpAbsolute | .jmpIndirect | .nop | .rti | .impliedPush | .impliedPull => true

/-- The dispatch switch routes to a handler only opcodes that it has labels for. -/
lemma takes_of_handler : ∀ ir : Byte, ∀ h ∈ captureHandler ir, takes ir h = true :=
  Byte.forall_of_quarters (by decide +kernel) (by decide +kernel) (by decide +kernel) (by decide +kernel)

/-- An assertion changes nothing, and does not fail where `holds`. -/
structure Asserts {α : Type} (holds : Prop) (asserted : Option α) (plain : α) : Prop where
  erases : ∀ a, asserted = some a → plain = a
  isSome : holds → asserted.isSome = true

section Asserts

variable {α : Type} {holds holds' : Prop} {asserted : Option α} {plain : α}

lemma Asserts.some (a : α) : Asserts holds (some a) a := ⟨fun _ => Option.some.inj, fun _ => rfl⟩

lemma Asserts.unreachable (h : ¬holds) (a : α) : Asserts holds unreachable a :=
  ⟨fun _ hnone => (Option.some_ne_none _ hnone.symm).elim, fun hholds => absurd hholds h⟩

lemma Asserts.mono (h : Asserts holds asserted plain) (himp : holds' → holds) : Asserts holds' asserted plain :=
  ⟨h.erases, fun hholds => h.isSome (himp hholds)⟩

lemma Asserts.map (h : Asserts holds asserted plain) (f : α → α) : Asserts holds (asserted.map f) (f plain) := by
  refine ⟨fun a ha => ?_, fun hholds => ?_⟩
  · obtain ⟨b, hb, rfl⟩ := Option.map_eq_some_iff.mp ha
    rw [h.erases b hb]
  · rw [Option.isSome_map]
    exact h.isSome hholds

end Asserts

section Switches

variable {cpu : CPU6502 β}

lemma within_isSome {steps : List CpuStep} {handler : CPU6502 β → CPU6502 β} :
    (within steps handler cpu).isSome = decide (cpu.cpuStep ∈ steps) := by
  unfold within
  split_ifs with h <;> simp [h, unreachable]

lemma within_asserts (steps : List CpuStep) (handler : CPU6502 β → CPU6502 β) :
    Asserts (cpu.cpuStep ∈ steps) (within steps handler cpu) (handler cpu) := by
  unfold within
  split_ifs with h
  · exact .some _
  · exact .unreachable h _

lemma among_asserts (opcodes : List Byte) (handler : CPU6502 β → CPU6502 β) :
    Asserts (cpu.ir ∈ opcodes) (among opcodes handler cpu) (handler cpu) := by
  unfold among
  split_ifs with h
  · exact .some _
  · exact .unreachable h _

lemma labelled_asserts {α : Type} (select : Byte → Option α) (handler : CPU6502 β → CPU6502 β) :
    Asserts ((select cpu.ir).isSome = true) (labelled select handler cpu) (handler cpu) := by
  unfold labelled
  cases select cpu.ir with
  | some a => exact .some _
  | none => exact .unreachable Bool.false_ne_true _

lemma applyBinaryAluOp_asserts (v : Byte) :
    Asserts (binaryLabels cpu.ir = true) (applyBinaryAluOp v cpu) (cpu.applyBinaryAluOp v) := by
  refine Asserts.mono ?_ fun h => (Bool.and_eq_true_iff.mp h).1
  unfold applyBinaryAluOp CPU6502.applyBinaryAluOp
  cases binaryAluSelect cpu.ir with
  | none => exact .unreachable Bool.false_ne_true _
  | some p =>
    obtain ⟨op, r⟩ := p
    cases op with
    | ADC | SBC | AND | ORA | EOR | CMP | BIT => exact .some _
    | _ => exact .unreachable Bool.false_ne_true _

lemma applyUnaryAluOp_asserts (v : Byte) :
    Asserts (unaryLabels cpu.ir = true) (applyUnaryAluOp v cpu) (cpu.applyUnaryAluOp v) := by
  refine Asserts.mono ?_ fun h => (Bool.and_eq_true_iff.mp h).1
  unfold applyUnaryAluOp CPU6502.applyUnaryAluOp
  cases unaryAluSelect cpu.ir with
  | none => exact .unreachable Bool.false_ne_true _
  | some op =>
    cases op with
    | ASL | LSR | ROL | ROR | INC | DEC => exact .some _
    | _ => exact .unreachable Bool.false_ne_true _

variable [BusLike β]

lemma commitStoreResult_asserts (addr : Word) : Asserts ((storeSelect cpu.ir).isSome = true)
    (commitStoreResult addr cpu) ((cpu.busWrite addr cpu.storeSourceValue).advance .T0) := by
  unfold commitStoreResult storeSourceValue CPU6502.storeSourceValue
  cases storeSelect cpu.ir with
  | some r => exact .some _
  | none => exact .unreachable Bool.false_ne_true _

lemma captureBranch_asserts :
    Asserts (cpu.ir ∈ [cOpBPL, cOpBMI, cOpBVC, cOpBVS, cOpBCC, cOpBCS, cOpBNE, cOpBEQ] ∧
      Handler.branch.hasCase cpu.cpuStep = true) (captureBranch cpu) cpu.captureBranch := by
  cases hs : cpu.cpuStep with
  | T1 =>
    simp only [captureBranch, CPU6502.captureBranch, hs, busRead, CPU6502.busRead, evaluateBranchCondition]
    split_ifs with hir
    · exact .some _
    · exact .unreachable (fun h => hir h.1) _
  | T2 | T3 =>
    simp only [captureBranch, hs]
    exact .some _
  | T0 | T4 | T5 | T6 =>
    simp only [captureBranch, hs]
    exact .unreachable (fun h => Bool.false_ne_true h.2) _

/-- What is asserted when a handler captures. The cases of a family differ in their T-states: one either has a
label and asks nothing, or asks for the label of the opcode, or has no label. -/
theorem capture_asserts (h : Handler) :
    Asserts (takes cpu.ir h = true ∧ (h.hasCase cpu.cpuStep && !h.unlabelled cpu.cpuStep) = true)
      (capture h cpu) (h.capture cpu) := by
  obtain ⟨bus, a, x, y, pc, sp, p, step, phase, al, ea, crossed, ir, bo, bt, hl, ra, aa, ab, af, ac, ao⟩ := cpu
  cases h with
  | readImmediate | readAbsolute | readZeroPage | readZeroPageX | readAbsoluteX | readAbsoluteY | readIndirectX
  | readIndirectY =>
    cases step <;> cases crossed <;> first
      | exact .some _
      | exact (applyBinaryAluOp_asserts _).mono And.left
      | exact .unreachable (fun h => Bool.false_ne_true h.2) _
  | loadImmediate | loadZeroPage | loadZeroPageX | loadZeroPageY | loadAbsolute | loadAbsoluteX | loadAbsoluteY
  | loadIndirectX | loadIndirectY =>
    cases step <;> cases crossed <;> first
      | exact .some _
      | exact .unreachable (fun h => Bool.false_ne_true h.2) _
  | shiftAccumulator | rmwZeroPage | rmwZeroPageX | rmwAbsolute | rmwAbsoluteX =>
    cases step <;> first
      | exact .some _
      | exact (applyUnaryAluOp_asserts _).mono And.left
      | exact .unreachable (fun h => Bool.false_ne_true h.2) _
  | impliedIncDec => exact (among_asserts _ _).mono fun h => of_decide_eq_true h.1
  | impliedTransfer => exact (among_asserts _ _).mono fun h => (of_decide_eq_true h.1).1
  | branch => exact captureBranch_asserts.mono fun h => ⟨of_decide_eq_true h.1, (Bool.and_eq_true_iff.mp h.2).1⟩
  | impliedFlagOp | nop | rti => exact .some _
  | storeZeroPage | storeZeroPageX | storeZeroPageY | storeAbsolute | storeAbsoluteX | storeAbsoluteY
  | storeIndirectX | storeIndirectY | brk | jsr | rts | jmpAbsolute | jmpIndirect | impliedPush | impliedPull =>
    cases step <;> first
      | exact .some _
      | exact .unreachable (fun h => Bool.false_ne_true h.2) _

/-- What is asserted when a handler commits. -/
theorem commit_asserts (h : Handler) :
    Asserts (takes cpu.ir h = true ∧ h.hasCase cpu.cpuStep = true) (commit h cpu) (h.commit cpu) := by
  have hbinary : ∀ c : CPU6502 β, Asserts (binaryLabels c.ir = true)
      ((commitBinaryAluResult c).map (CPU6502.advance .T0)) (c.commitBinaryAluResult.advance .T0) := fun c =>
    ((labelled_asserts _ _).map _).mono fun h => (Bool.and_eq_true_iff.mp h).2
  have hunary : ∀ c : CPU6502 β, Asserts (unaryLabels c.ir = true)
      ((commitUnaryAluFlags c).map (CPU6502.advance .T0)) (c.commitUnaryAluFlags.advance .T0) := fun c =>
    ((labelled_asserts _ _).map _).mono fun h => (Bool.and_eq_true_iff.mp h).2
  have hload : ∀ c : CPU6502 β, Asserts ((loadSelect c.ir).isSome = true)
      ((commitLoadResult c).map (CPU6502.advance .T0)) (c.commitLoadResult.advance .T0) := fun c =>
    (labelled_asserts _ _).map _
  obtain ⟨bus, a, x, y, pc, sp, p, step, phase, al, ea, crossed, ir, bo, bt, hl, ra, aa, ab, af, ac, ao⟩ := cpu
  cases h with
  | readImmediate | readAbsolute | readZeroPage | readZeroPageX | readAbsoluteX | readAbsoluteY | readIndirectX
  | readIndirectY =>
    cases step <;> cases crossed <;> first
      | exact .some _
      | exact (hbinary _).mono And.left
      | exact .unreachable (fun h => Bool.false_ne_true h.2) _
  | loadImmediate | loadZeroPage | loadZeroPageX | loadZeroPageY | loadAbsolute | loadAbsoluteX | loadAbsoluteY
  | loadIndirectX | loadIndirectY =>
    cases step <;> cases crossed <;> first
      | exact .some _
      | exact (hload _).mono And.left
      | exact .unreachable (fun h => Bool.false_ne_true h.2) _
  | shiftAccumulator | rmwZeroPage | rmwZeroPageX | rmwAbsolute | rmwAbsoluteX =>
    cases step <;> first
      | exact .some _
      | exact (hunary _).mono And.left
      | exact .unreachable (fun h => Bool.false_ne_true h.2) _
  | storeZeroPage | storeZeroPageX | storeZeroPageY | storeAbsolute | storeAbsoluteX | storeAbsoluteY
  | storeIndirectX | storeIndirectY =>
    cases step <;> first
      | exact .some _
      | exact (commitStoreResult_asserts _).mono fun h => h.1
      | exact (commitStoreResult_asserts _).mono fun h => by rw [of_decide_eq_true h.1]; rfl
      | exact .unreachable (fun h => Bool.false_ne_true h.2) _
  | impliedIncDec | impliedFlagOp => exact (among_asserts _ _).mono fun h => of_decide_eq_true h.1
  | impliedTransfer => exact (among_asserts _ _).mono fun h => (of_decide_eq_true h.1).2
  | nop => exact .some _
  | branch | brk | jsr | rts | jmpAbsolute | jmpIndirect | rti | impliedPush | impliedPull =>
    exact (within_asserts _ _).mono fun h => of_decide_eq_true h.2

end Switches

variable [BusLike β]

lemma onClockHigh_erases : Erases (β := β) onClockHigh CPU6502.onClockHigh := by
  intro cpu cpu' h
  unfold onClockHigh at h
  unfold CPU6502.onClockHigh
  split_ifs at h ⊢
  · exact (within_asserts _ _).erases _ h
  · exact Option.some.inj h
  · cases hh : captureHandler cpu.ir with
    | none =>
      rw [hh] at h
      exact Option.some.inj h
    | some hd =>
      rw [hh] at h
      exact (capture_asserts hd).erases cpu' h

lemma onClockLow_erases : Erases (β := β) onClockLow CPU6502.onClockLow := by
  intro cpu cpu' h
  unfold onClockLow at h
  unfold CPU6502.onClockLow
  split_ifs at h ⊢
  · exact (within_asserts _ _).erases _ h
  · exact Option.some.inj h
  · cases hh : commitHandler cpu.ir with
    | none =>
      rw [hh] at h
      exact Option.some.inj h
    | some hd =>
      rw [hh] at h
      exact (commit_asserts hd).erases cpu' h

/-- An asserted tick that is not stopped is a tick. -/
theorem tick_erases : Erases (β := β) tick CPU6502.tick := by
  intro cpu cpu'
  unfold tick CPU6502.tick
  dsimp only
  cases nextClockPhase cpu.clockPhase with
  | Low => exact onClockLow_erases _ cpu'
  | High => exact onClockHigh_erases _ cpu'
  | LowToHigh | HighToLow => exact Option.some.inj

/-! ## Which assertions hold -/

variable {cpu : CPU6502 β}

/-- In a T-state of its instruction a capture handler runs into such a branch exactly where it has no label. -/
theorem capture_isSome {h : Handler} (hh : captureHandler cpu.ir = some h) (hcase : h.hasCase cpu.cpuStep = true) :
    (capture h cpu).isSome = !h.unlabelled cpu.cpuStep := by
  have htakes : takes cpu.ir h = true := takes_of_handler cpu.ir h hh
  cases hlabel : h.unlabelled cpu.cpuStep with
  | false => exact (capture_asserts h).isSome ⟨htakes, by rw [hcase, hlabel]; rfl⟩
  | true =>
    cases h with
    | storeAbsoluteX | storeAbsoluteY | storeIndirectY =>
      refine within_isSome.trans ?_
      rw [eq_of_beq hlabel]
      rfl
    | _ => cases hlabel

/-- A commit handler never does. -/
theorem commit_isSome {h : Handler} (hh : captureHandler cpu.ir = some h) (hcase : h.hasCase cpu.cpuStep = true) :
    (commit h cpu).isSome = true :=
  (commit_asserts h).isSome ⟨takes_of_handler cpu.ir h hh, hcase⟩

end Asserted

namespace CPU6502

/-- The CPU is in the T-state in which STA absolute,X, STA absolute,Y or STA (indirect),Y writes. -/
def AtStore (cpu : CPU6502 β) : Prop :=
  cpu.resetActive = false ∧
    (cpu.ir ∈ [cOpSTAAbsoluteX, cOpSTAAbsoluteY] ∧ cpu.cpuStep = .T4 ∨
      cpu.ir = cOpSTAIndirectY ∧ cpu.cpuStep = .T5)

/-- The same, by the handler. -/
lemma atStore_iff {cpu : CPU6502 β} (hreset : cpu.resetActive = false) :
    cpu.AtStore ↔ ∃ h, captureHandler cpu.ir = some h ∧ h.unlabelled cpu.cpuStep = true := by
  constructor
  · rintro ⟨-, ⟨hir, ht⟩ | ⟨hir, ht⟩⟩
    · rw [ht]
      rcases List.mem_pair.mp hir with hir | hir
      · exact ⟨.storeAbsoluteX, by rw [hir]; rfl, rfl⟩
      · exact ⟨.storeAbsoluteY, by rw [hir]; rfl, rfl⟩
    · rw [ht]
      exact ⟨.storeIndirectY, by rw [hir]; rfl, rfl⟩
  · rintro ⟨h, hh, ht⟩
    refine ⟨hreset, ?_⟩
    have htakes := Asserted.takes_of_handler cpu.ir h hh
    cases h with
    | storeAbsoluteX => exact .inl ⟨List.mem_pair.mpr (.inl (of_decide_eq_true htakes)), eq_of_beq ht⟩
    | storeAbsoluteY => exact .inl ⟨List.mem_pair.mpr (.inr (of_decide_eq_true htakes)), eq_of_beq ht⟩
    | storeIndirectY => exact .inr ⟨of_decide_eq_true htakes, eq_of_beq ht⟩
    | _ => cases ht

end CPU6502

namespace Asserted

variable [BusLike β] {cpu : CPU6502 β}

omit [BusLike β] in
lemma hasCase_of_live (h : cpu.Live) (hreset : cpu.resetActive = false) (ht : cpu.cpuStep ≠ .T0) {hd : Handler}
    (hh : captureHandler cpu.ir = some hd) : hd.hasCase cpu.cpuStep = true := by
  have hcase : CPU6502.hasCommitCase cpu.ir cpu.cpuStep = true := by
    rcases h with h | h | h
    · exact absurd h ht
    · rw [hreset] at h
      cases h
    · exact h
  unfold CPU6502.hasCommitCase at hcase
  rw [commitHandler_eq_captureHandler, hh] at hcase
  exact hcase

/-- A live CPU captures without reaching such a branch, but for the three stores. -/
lemma onClockHigh_isSome (h : cpu.Live) : (onClockHigh cpu).isSome = true ↔ ¬cpu.AtStore := by
  unfold onClockHigh
  by_cases hreset : cpu.resetActive = true
  · rw [if_pos hreset]
    refine iff_of_true ?_ fun hstore => by rw [hstore.1] at hreset; cases hreset
    unfold captureReset
    rw [within_isSome]
    cases cpu.cpuStep <;> rfl
  · rw [if_neg hreset]
    rw [Bool.not_eq_true] at hreset
    rw [CPU6502.atStore_iff hreset]
    by_cases ht : cpu.cpuStep = .T0
    · rw [if_pos ht]
      refine iff_of_true rfl ?_
      rintro ⟨hd, -, hu⟩
      rw [ht] at hu
      cases hd <;> cases hu
    · rw [if_neg ht]
      cases hh : captureHandler cpu.ir with
      | none => exact iff_of_true rfl (by rintro ⟨hd, hnone, -⟩; cases hnone)
      | some hd =>
        have hcapture := capture_isSome hh (hasCase_of_live h hreset ht hh)
        simp only [Option.some.injEq, exists_eq_left', hcapture, Bool.not_eq_true', Bool.not_eq_true]

lemma onClockLow_isSome (h : cpu.Live) : (onClockLow cpu).isSome = true := by
  unfold onClockLow
  by_cases hreset : cpu.resetActive = true
  · rw [if_pos hreset]
    unfold commitReset
    rw [within_isSome]
    cases cpu.cpuStep <;> rfl
  · rw [if_neg hreset]
    rw [Bool.not_eq_true] at hreset
    by_cases ht : cpu.cpuStep = .T0
    · rw [if_pos ht]
      rfl
    · rw [if_neg ht]
      cases hh : commitHandler cpu.ir with
      | none => rfl
      | some hd =>
        rw [commitHandler_eq_captureHandler] at hh
        exact commit_isSome hh (hasCase_of_live h hreset ht hh)

/-- A tick of a live CPU reaches such a branch exactly where the clock rises on one of these stores. -/
theorem tick_isSome (h : cpu.Live) :
    (tick cpu).isSome = true ↔ ¬(cpu.clockPhase = .LowToHigh ∧ cpu.AtStore) := by
  unfold tick
  dsimp only
  cases hp : cpu.clockPhase with
  | LowToHigh =>
    rw [and_iff_right rfl]
    exact @onClockHigh_isSome β _ cpu.rise h
  | HighToLow => exact iff_of_true (@onClockLow_isSome β _ cpu.fall h) fun hrise => by cases hrise.1
  | Low | High => exact iff_of_true rfl fun hrise => by cases hrise.1

/-! ## Every run -/

def call (cpu : CPU6502 β) : CPU6502.Call → Option (CPU6502 β)
  | .tick => tick cpu
  | c => some (cpu.call c)

/-- The calls on a fresh CPU, up to the first branch that is called unreachable. -/
def run (bus : β) (calls : List CPU6502.Call) : Option (CPU6502 β) := calls.foldlM call { bus }

lemma call_erases (cpu : CPU6502 β) (c : CPU6502.Call) (cpu' : CPU6502 β) (h : call cpu c = some cpu') :
    cpu.call c = cpu' := by
  cases c with
  | tick => exact tick_erases cpu cpu' h
  | _ => exact Option.some.inj h

/-- Exactly these ticks of a run execute a branch that its handler calls unreachable. -/
theorem run_eq_some_iff (bus : β) (calls : List CPU6502.Call) :
    run bus calls = some (CPU6502.run bus calls) ↔
      ∀ earlier later, calls = earlier ++ .tick :: later →
        ¬((CPU6502.run bus earlier).clockPhase = .LowToHigh ∧ (CPU6502.run bus earlier).AtStore) := by
  have hlive : ∀ earlier, (CPU6502.run bus earlier).Live := fun earlier =>
    (CPU6502.reachable_run bus earlier).live
  unfold run
  rw [CPU6502.run, Checked.foldlM_eq_some_iff call_erases]
  constructor
  · intro h earlier later hcalls
    exact (tick_isSome (hlive earlier)).mp (h earlier .tick later hcalls)
  · intro h earlier c later hcalls
    cases c with
    | tick => exact (tick_isSome (hlive earlier)).mpr (h earlier later hcalls)
    | _ => rfl

/-- STA absolute,X from a memory that holds nothing else. The clock rises on its T4 in the eighteenth tick. -/
theorem run_store_none : run (fun _ : Word => 0x9D#8) (List.replicate 18 .tick) = none := by
  rfl

end Asserted

end Sys6
