import Sys6.Proofs.Cycle

/-!
# The clocked state machine never gets stuck

A commit handler leaves the T-state alone in its default branch. `Handler.hasCase` lists
the T-states with a branch of their own; each of them finishes the instruction or goes on
to a later T-state that again has one.
-/

namespace Sys6

variable {β : Type} [BusLike β]

def CpuStep.toNat : CpuStep → Nat
  | .T0 => 0
  | .T1 => 1
  | .T2 => 2
  | .T3 => 3
  | .T4 => 4
  | .T5 => 5
  | .T6 => 6

/-- The T-states with a case of their own in the commit handler. Handlers without a switch
finish from every T-state. -/
def Handler.hasCase (t : CpuStep) : Handler → Bool
  | .readImmediate | .shiftAccumulator | .impliedIncDec | .impliedTransfer | .impliedFlagOp
  | .loadImmediate | .nop => true
  | .readZeroPage | .loadZeroPage | .storeZeroPage | .jmpAbsolute | .impliedPush =>
    t ∈ [.T1, .T2]
  | .readAbsolute | .readZeroPageX | .loadAbsolute | .loadZeroPageX | .loadZeroPageY
  | .storeZeroPageX | .storeZeroPageY | .storeAbsolute | .branch | .impliedPull =>
    t ∈ [.T1, .T2, .T3]
  | .readAbsoluteX | .readAbsoluteY | .loadAbsoluteX | .loadAbsoluteY | .rmwZeroPage
  | .storeAbsoluteX | .storeAbsoluteY | .jmpIndirect =>
    t ∈ [.T1, .T2, .T3, .T4]
  | .readIndirectX | .readIndirectY | .loadIndirectX | .loadIndirectY | .rmwZeroPageX
  | .rmwAbsolute | .storeIndirectX | .storeIndirectY | .jsr | .rts | .rti =>
    t ∈ [.T1, .T2, .T3, .T4, .T5]
  | .rmwAbsoluteX | .brk => t ∈ [.T1, .T2, .T3, .T4, .T5, .T6]

/-- `t` finishes the instruction, or is a later T-state than `s` with a case of its own. -/
def Handler.goesOn (h : Handler) (s t : CpuStep) : Bool :=
  t == .T0 || (decide (s.toNat < t.toNat) && h.hasCase t)

/-- A case advances or finishes. -/
theorem Handler.commit_case (h : Handler) {cpu : CPU6502 β}
    (hc : h.hasCase cpu.cpuStep = true) :
    h.goesOn cpu.cpuStep (h.commit cpu).cpuStep = true := by
  obtain ⟨bus, a, x, y, pc, sp, p, step, phase, al, ea, pcr, ir, bo, bt, hl, ra, aa, ab, af, ac,
    ao⟩ := cpu
  cases h <;> cases step <;>
    first
    | rfl
    | (cases hc; done)
    | (cases pcr <;> rfl)
    | (cases bt <;> rfl)
    | (simp only [commit, CPU6502.commitImpliedPush, CPU6502.commitImpliedPull]
       split_ifs <;> rfl)

namespace CPU6502

/-- The pair of opcode and T-state has a case in the commit switch. The default branch of
the dispatch itself is a case: it finishes. -/
def hasCommitCase (ir : Byte) (t : CpuStep) : Bool :=
  match commitHandler ir with
  | some h => h.hasCase t
  | none => true

/-- The CPU is between instructions, in a reset, or in a T-state its opcode provides for. -/
def Live (cpu : CPU6502 β) : Prop :=
  cpu.cpuStep = .T0 ∨ cpu.resetActive = true ∨ hasCommitCase cpu.ir cpu.cpuStep = true

/-- Commits up to the next boundary, at most. -/
def commitsLeft (cpu : CPU6502 β) : Nat := 7 - cpu.cpuStep.toNat

lemma hasCommitCase_T1 (ir : Byte) : hasCommitCase ir .T1 = true := by
  unfold hasCommitCase
  cases commitHandler ir with
  | none => rfl
  | some h => cases h <;> rfl

/-- A commit keeps the CPU live and finishes or moves to a later T-state. -/
theorem live_onClockLow {cpu : CPU6502 β} (h : cpu.Live) :
    cpu.onClockLow.Live ∧
      (cpu.onClockLow.cpuStep = .T0 ∨ cpu.cpuStep.toNat < cpu.onClockLow.cpuStep.toNat) := by
  unfold onClockLow
  split_ifs with hreset ht
  · constructor
    · unfold commitReset
      cases cpu.cpuStep <;> first | exact .inl rfl | exact .inr (.inl hreset)
    · unfold commitReset
      cases cpu.cpuStep <;>
        first | exact .inl rfl | exact .inr (by simp [advance, CpuStep.toNat])
  · refine ⟨.inr (.inr (hasCommitCase_T1 cpu.ir)), .inr ?_⟩
    rw [ht]
    exact Nat.zero_lt_one
  · have hcase : hasCommitCase cpu.ir cpu.cpuStep = true := by
      rcases h with h | h | h
      · exact absurd h ht
      · exact absurd h hreset
      · exact h
    unfold hasCommitCase at hcase
    cases hh : commitHandler cpu.ir with
    | none => exact ⟨.inl rfl, .inl rfl⟩
    | some hd =>
      rw [hh] at hcase
      have hgo := hd.commit_case hcase
      simp only [Handler.goesOn, Bool.or_eq_true, beq_iff_eq, Bool.and_eq_true,
        decide_eq_true_eq] at hgo
      have hir : (hd.commit cpu).ir = cpu.ir := congrArg Sequencer.ir (sequencer_commit hd cpu)
      rcases hgo with h0 | ⟨hlt, hnext⟩
      · exact ⟨.inl h0, .inl h0⟩
      · refine ⟨.inr (.inr ?_), .inr hlt⟩
        unfold hasCommitCase
        rw [hir, hh]
        exact hnext

lemma live_onClockHigh {cpu : CPU6502 β} (h : cpu.Live) :
    cpu.onClockHigh.Live ∧ cpu.onClockHigh.cpuStep = cpu.cpuStep := by
  unfold onClockHigh
  split_ifs with hreset ht
  · have hc := core_captureReset cpu
    exact ⟨.inr (.inl ((congrArg Core.resetActive hc).trans hreset)), congrArg Core.cpuStep hc⟩
  · exact ⟨.inl ht, rfl⟩
  · cases captureHandler cpu.ir with
    | none => exact ⟨h, rfl⟩
    | some hd =>
      have hc := core_capture hd cpu
      refine ⟨?_, congrArg Core.cpuStep hc⟩
      unfold Live
      rw [show (hd.capture cpu).cpuStep = cpu.cpuStep from congrArg Core.cpuStep hc,
        show (hd.capture cpu).resetActive = cpu.resetActive from congrArg Core.resetActive hc,
        show (hd.capture cpu).ir = cpu.ir from congrArg Core.ir hc]
      exact h

theorem live_tick {cpu : CPU6502 β} (h : cpu.Live) : cpu.tick.Live := by
  unfold tick
  dsimp only
  cases cpu.clockPhase with
  | Low | High => exact h
  | LowToHigh => exact (@live_onClockHigh β _ cpu.rise h).1
  | HighToLow => exact (@live_onClockLow β _ cpu.fall h).1

/-- The states a driver can bring a fresh CPU to. -/
inductive Reachable : CPU6502 β → Prop
  | fresh (bus : β) : Reachable { bus }
  | tick {cpu} : Reachable cpu → Reachable cpu.tick
  | beginReset {cpu} : Reachable cpu → Reachable cpu.beginReset
  | setA {cpu} (val : Byte) : Reachable cpu → Reachable (cpu.setA val)
  | setX {cpu} (val : Byte) : Reachable cpu → Reachable (cpu.setX val)
  | setY {cpu} (val : Byte) : Reachable cpu → Reachable (cpu.setY val)
  | setPC {cpu} (val : Word) : Reachable cpu → Reachable (cpu.setPC val)
  | setSP {cpu} (val : Byte) : Reachable cpu → Reachable (cpu.setSP val)
  | setP {cpu} (val : Byte) : Reachable cpu → Reachable (cpu.setP val)
  | setCFlag {cpu} (val : Bool) : Reachable cpu → Reachable (cpu.setCFlag val)
  | setZFlag {cpu} (val : Bool) : Reachable cpu → Reachable (cpu.setZFlag val)
  | setIFlag {cpu} (val : Bool) : Reachable cpu → Reachable (cpu.setIFlag val)
  | setDFlag {cpu} (val : Bool) : Reachable cpu → Reachable (cpu.setDFlag val)
  | setBFlag {cpu} (val : Bool) : Reachable cpu → Reachable (cpu.setBFlag val)
  | setVFlag {cpu} (val : Bool) : Reachable cpu → Reachable (cpu.setVFlag val)
  | setNFlag {cpu} (val : Bool) : Reachable cpu → Reachable (cpu.setNFlag val)

theorem Reachable.live {cpu : CPU6502 β} (h : Reachable cpu) : cpu.Live := by
  induction h with
  | fresh => exact .inl rfl
  | tick _ ih => exact live_tick ih
  | beginReset => exact .inl rfl
  | _ => assumption

/-- What a driver can call. -/
inductive Call
  | tick
  | beginReset
  | setA (val : Byte)
  | setX (val : Byte)
  | setY (val : Byte)
  | setPC (val : Word)
  | setSP (val : Byte)
  | setP (val : Byte)
  | setCFlag (val : Bool)
  | setZFlag (val : Bool)
  | setIFlag (val : Bool)
  | setDFlag (val : Bool)
  | setBFlag (val : Bool)
  | setVFlag (val : Bool)
  | setNFlag (val : Bool)
deriving DecidableEq

def call (cpu : CPU6502 β) : Call → CPU6502 β
  | .tick => cpu.tick
  | .beginReset => cpu.beginReset
  | .setA val => cpu.setA val
  | .setX val => cpu.setX val
  | .setY val => cpu.setY val
  | .setPC val => cpu.setPC val
  | .setSP val => cpu.setSP val
  | .setP val => cpu.setP val
  | .setCFlag val => cpu.setCFlag val
  | .setZFlag val => cpu.setZFlag val
  | .setIFlag val => cpu.setIFlag val
  | .setDFlag val => cpu.setDFlag val
  | .setBFlag val => cpu.setBFlag val
  | .setVFlag val => cpu.setVFlag val
  | .setNFlag val => cpu.setNFlag val

/-- These calls on a fresh CPU, in this order. -/
def run (bus : β) (calls : List Call) : CPU6502 β := calls.foldl call { bus }

lemma reachable_call {cpu : CPU6502 β} (h : Reachable cpu) (c : Call) : Reachable (cpu.call c) := by
  cases c with
  | tick => exact .tick h
  | beginReset => exact .beginReset h
  | setA val => exact .setA val h
  | setX val => exact .setX val h
  | setY val => exact .setY val h
  | setPC val => exact .setPC val h
  | setSP val => exact .setSP val h
  | setP val => exact .setP val h
  | setCFlag val => exact .setCFlag val h
  | setZFlag val => exact .setZFlag val h
  | setIFlag val => exact .setIFlag val h
  | setDFlag val => exact .setDFlag val h
  | setBFlag val => exact .setBFlag val h
  | setVFlag val => exact .setVFlag val h
  | setNFlag val => exact .setNFlag val h

/-- Every run stays among the reachable states. -/
theorem reachable_run (bus : β) (calls : List Call) : Reachable (run bus calls) := by
  induction calls using List.reverseRecOn with
  | nil => exact .fresh bus
  | append_singleton calls c ih =>
    unfold run at ih ⊢
    rw [List.foldl_append]
    exact reachable_call ih c

/-- Ticks up to the next commit. -/
def ticksToLow : ClockPhase → Nat
  | .Low => 4
  | .LowToHigh => 3
  | .High => 2
  | .HighToLow => 1

lemma doWhile_tick_pass {cpu : CPU6502 β} (fuel : Nat) (h : cpu.tick.clockPhase ≠ .Low) :
    doWhile CPU6502.tick atBoundary (fuel + 1) cpu = doWhile CPU6502.tick atBoundary fuel cpu.tick := by
  have hb : cpu.tick.atBoundary = false := by
    unfold atBoundary
    cases hp : cpu.tick.clockPhase <;> simp_all
  rw [doWhile_succ, hb, if_neg (by simp)]

/-- The next commit is at most four ticks away, and nothing before it stops the loop. -/
lemma reach_commit {cpu : CPU6502 β} (h : cpu.Live) :
    ∃ c : CPU6502 β, c.Live ∧ c.cpuStep = cpu.cpuStep ∧ c.clockPhase = .Low ∧ ∀ fuel,
      doWhile CPU6502.tick atBoundary (ticksToLow cpu.clockPhase + fuel) cpu =
        if c.onClockLow.done then some c.onClockLow
        else doWhile CPU6502.tick atBoundary fuel c.onClockLow := by
  have hfall : ∀ cpu : CPU6502 β, cpu.Live → cpu.clockPhase = .HighToLow →
      ∃ c : CPU6502 β, c.Live ∧ c.cpuStep = cpu.cpuStep ∧ c.clockPhase = .Low ∧ ∀ fuel,
        doWhile CPU6502.tick atBoundary (fuel + 1) cpu =
          if c.onClockLow.done then some c.onClockLow
          else doWhile CPU6502.tick atBoundary fuel c.onClockLow := by
    intro cpu h hp
    refine ⟨cpu.fall, h, rfl, rfl, fun fuel => ?_⟩
    have hb : cpu.fall.onClockLow.atBoundary = cpu.fall.onClockLow.done := by
      unfold atBoundary done
      rw [clockPhase_onClockLow]
      simp [fall]
    rw [doWhile_succ, tick_highToLow hp, hb]
  have hhigh : ∀ cpu : CPU6502 β, cpu.Live → cpu.clockPhase = .High →
      ∃ c : CPU6502 β, c.Live ∧ c.cpuStep = cpu.cpuStep ∧ c.clockPhase = .Low ∧ ∀ fuel,
        doWhile CPU6502.tick atBoundary (fuel + 2) cpu =
          if c.onClockLow.done then some c.onClockLow
          else doWhile CPU6502.tick atBoundary fuel c.onClockLow := by
    intro cpu h hp
    have ht := tick_high hp
    obtain ⟨c, hc, hs, hl, hrun⟩ := hfall cpu.tick (live_tick h) (by rw [ht])
    refine ⟨c, hc, hs.trans (by rw [ht]), hl, fun fuel => ?_⟩
    rw [doWhile_tick_pass (fuel + 1) (by simp [ht]), hrun]
  have hrise : ∀ cpu : CPU6502 β, cpu.Live → cpu.clockPhase = .LowToHigh →
      ∃ c : CPU6502 β, c.Live ∧ c.cpuStep = cpu.cpuStep ∧ c.clockPhase = .Low ∧ ∀ fuel,
        doWhile CPU6502.tick atBoundary (fuel + 3) cpu =
          if c.onClockLow.done then some c.onClockLow
          else doWhile CPU6502.tick atBoundary fuel c.onClockLow := by
    intro cpu h hp
    have ht := tick_lowToHigh hp
    have hph : cpu.tick.clockPhase = .High := by
      rw [ht, clockPhase_onClockHigh]
      rfl
    obtain ⟨c, hc, hs, hl, hrun⟩ := hhigh cpu.tick (live_tick h) hph
    refine ⟨c, hc, hs.trans ?_, hl, fun fuel => ?_⟩
    · rw [ht]
      exact (@live_onClockHigh β _ cpu.rise h).2
    · rw [doWhile_tick_pass (fuel + 2) (by simp [hph]), hrun]
  cases hp : cpu.clockPhase with
  | HighToLow =>
    obtain ⟨c, hc, hs, hl, hrun⟩ := hfall cpu h hp
    exact ⟨c, hc, hs, hl, fun fuel => by rw [← hrun fuel, Nat.add_comm]; rfl⟩
  | High =>
    obtain ⟨c, hc, hs, hl, hrun⟩ := hhigh cpu h hp
    exact ⟨c, hc, hs, hl, fun fuel => by rw [← hrun fuel, Nat.add_comm]; rfl⟩
  | LowToHigh =>
    obtain ⟨c, hc, hs, hl, hrun⟩ := hrise cpu h hp
    exact ⟨c, hc, hs, hl, fun fuel => by rw [← hrun fuel, Nat.add_comm]; rfl⟩
  | Low =>
    have ht := tick_low hp
    obtain ⟨c, hc, hs, hl, hrun⟩ := hrise cpu.tick (live_tick h) (by rw [ht])
    refine ⟨c, hc, hs.trans (by rw [ht]), hl, fun fuel => ?_⟩
    rw [← hrun fuel, ← doWhile_tick_pass (fuel + 3) (by simp [ht]), Nat.add_comm]
    rfl

lemma CpuStep_toNat_le (t : CpuStep) : t.toNat ≤ 6 := by
  cases t <;> decide

/-- The loop of `reset` and `executeInstruction` ends after the commits that are left. -/
theorem doWhile_tick_returns (k : Nat) {cpu : CPU6502 β} (h : cpu.Live)
    (hk : commitsLeft cpu ≤ k + 1) :
    ∃ cpu', doWhile CPU6502.tick atBoundary (ticksToLow cpu.clockPhase + 4 * k) cpu = some cpu' := by
  induction k generalizing cpu with
  | zero =>
    obtain ⟨c, hc, hs, hl, hrun⟩ := reach_commit h
    have hdone : c.onClockLow.cpuStep = .T0 := by
      rcases (live_onClockLow hc).2 with h0 | hlt
      · exact h0
      · have := CpuStep_toNat_le c.onClockLow.cpuStep
        unfold commitsLeft at hk
        rw [hs] at hlt
        omega
    rw [hrun, if_pos (by simp [done, hdone])]
    exact ⟨_, rfl⟩
  | succ k ih =>
    obtain ⟨c, hc, hs, hl, hrun⟩ := reach_commit h
    rw [hrun]
    by_cases hd : c.onClockLow.done = true
    · exact ⟨_, if_pos hd⟩
    · rw [if_neg hd]
      obtain ⟨hlive, h0 | hlt⟩ := live_onClockLow hc
      · exact absurd (by simp [done, h0]) hd
      · have hnext := ih hlive (by unfold commitsLeft at hk ⊢; rw [hs] at hlt; omega)
        rw [clockPhase_onClockLow, hl] at hnext
        rwa [show 4 * (k + 1) = ticksToLow .Low + 4 * k by rw [ticksToLow]; omega]

lemma returns_within {cpu : CPU6502 β} (h : cpu.Live) :
    ∃ cpu', doWhile CPU6502.tick atBoundary 28 cpu = some cpu' := by
  obtain ⟨cpu', hrun⟩ := doWhile_tick_returns 6 h (by unfold commitsLeft; omega)
  refine ⟨cpu', doWhile_mono _ _ hrun ?_⟩
  cases cpu.clockPhase <;> decide

lemma clockPhase_tick (cpu : CPU6502 β) : cpu.tick.clockPhase = nextClockPhase cpu.clockPhase := by
  cases hp : cpu.clockPhase with
  | Low => rw [tick_low hp]; rfl
  | LowToHigh => rw [tick_lowToHigh hp, clockPhase_onClockHigh]; rfl
  | High => rw [tick_high hp]; rfl
  | HighToLow => rw [tick_highToLow hp, clockPhase_onClockLow]; rfl

lemma runToClockHigh_returns (cpu : CPU6502 β) : ∃ cpu', runToClockHigh 4 cpu = some cpu' := by
  cases hp : cpu.clockPhase <;>
    simp [runToClockHigh, doWhile, clockPhase_tick, hp, nextClockPhase]

/-- No reachable state is stuck: the T-state is one its opcode provides for, the next commit
finishes or goes on to a later T-state, and the loops over `tick` return. -/
theorem clock_never_stuck {cpu : CPU6502 β} (h : Reachable cpu) :
    (cpu.cpuStep = .T0 ∨ cpu.resetActive = true ∨ hasCommitCase cpu.ir cpu.cpuStep = true) ∧
      (cpu.onClockLow.cpuStep = .T0 ∨ cpu.cpuStep.toNat < cpu.onClockLow.cpuStep.toNat) ∧
      (∃ cpu', executeInstruction 28 cpu = some cpu') ∧ (∃ cpu', reset 28 cpu = some cpu') ∧
      ∃ cpu', runToClockHigh 4 cpu = some cpu' :=
  ⟨h.live, (live_onClockLow h.live).2, returns_within h.live, returns_within h.beginReset.live,
    runToClockHigh_returns cpu⟩

theorem clock_never_stuck_fresh :
    let cpu : CPU6502 (Word → Byte) := ({ bus := fun _ => 0xEA#8 } : CPU6502 (Word → Byte)).tick
    (cpu.cpuStep = .T0 ∨ cpu.resetActive = true ∨ hasCommitCase cpu.ir cpu.cpuStep = true) ∧
      (cpu.onClockLow.cpuStep = .T0 ∨ cpu.cpuStep.toNat < cpu.onClockLow.cpuStep.toNat) ∧
      (∃ cpu', executeInstruction 28 cpu = some cpu') ∧ (∃ cpu', reset 28 cpu = some cpu') ∧
      ∃ cpu', runToClockHigh 4 cpu = some cpu' :=
  clock_never_stuck (.tick (.fresh _))

end CPU6502

end Sys6
