import Sys6.Monitor.Machine
import Sys6.Peripherals.TapeHead

/-!
# Bytes from the terminal

`step` pulls a byte from the terminal only while the holding register is free, and a read of
`$8001` frees it. So what the program takes, followed by what is pending, is what was pulled.
-/

namespace Sys6

namespace TTY

/-- The byte in the holding register that no read has taken. -/
def pending (tty : TTY) : List Byte := if tty.rxReady then [tty.rxByte] else []

lemma SameSerial.pending {tty tty' : TTY} (h : tty.SameSerial tty') : tty'.pending = tty.pending := by
  unfold TTY.pending
  rw [h.2.1, h.2.2]

lemma pending_read (tty : TTY) {offset : Word} (h : offset ≠ 1#16) :
    (tty.read offset).2.pending = tty.pending := by
  by_cases ht : 2#16 ≤ offset ∧ offset ≤ 4#16
  · exact (sameSerial_event (e := .access (.read offset)) ht).pending
  unfold read
  split_ifs with h1
  · have h0 : offset = 0#16 := by bv_omega
    rw [h0]
    rfl
  · rfl

lemma read_data (tty : TTY) : tty.read 1#16 = (tty.rxByte, { tty with rxReady := false }) := rfl

lemma pending_write (tty : TTY) (offset : Word) (val : Byte) :
    (tty.write offset val).pending = tty.pending := by
  by_cases ht : 2#16 ≤ offset ∧ offset ≤ 4#16
  · exact (sameSerial_event (e := .access (.write offset val)) ht).pending
  unfold write writeSerial
  split_ifs <;> rfl

end TTY

namespace System

/-- A read of `$8001` while `RXRDY` is set takes the byte it returns. -/
abbrev noteTaken (w : Wired DevicePtr Devices) (addr : Word) : List Byte :=
  if addr = 0x8001#16 ∧ w.devices.tty.rxReady = true then [(w.read addr).1] else []

/-- The bytes the coming `step` takes from the terminal. -/
def taken (sys : System) : List Byte := sys.poll.cpu.sees noteTaken fun _ _ _ => []

/-- The byte the coming `step` pulls from the terminal. -/
def pulled (sys : System) : List Byte := sys.pull.1.toList

def pending (sys : System) : List Byte := sys.tty.pending

/-- All bytes taken in `n` steps. -/
def takenIn : Nat → System → List Byte
  | 0, _ => []
  | n + 1, sys => sys.taken ++ (sys.step.map (takenIn n)).getD []

def pulledIn : Nat → System → List Byte
  | 0, _ => []
  | n + 1, sys => sys.pulled ++ (sys.step.map (pulledIn n)).getD []

/-- On the wiring of the system, what was taken and what is pending make up `l`. -/
structure Conserves (l : List Byte)
    (w : Watched noteTaken fun (_ : Wired DevicePtr Devices) (_ : Word) (_ : Byte) => []) : Prop where
  bus : w.bus.bus = Board.systemBus
  law : w.seen ++ w.bus.devices.tty.pending = l

lemma read_systemBus (devices : Devices) (addr : Word) :
    let r := Wired.read ⟨Board.systemBus, devices⟩ addr
    r.2.bus = Board.systemBus ∧
    (addr.hi = 0x80#8 → r.1 = (devices.tty.read (word 0#8 addr.lo)).1 ∧
      r.2.devices.tty = (devices.tty.read (word 0#8 addr.lo)).2) ∧
    (addr.hi ≠ 0x80#8 → r.2.devices.tty = devices.tty) := by
  have hfind := Board.findMapping_systemBus addr
  unfold Wired.read
  rw [hfind]
  by_cases h2 : addr.hi < 0x80#8
  · have h80 : addr.hi ≠ 0x80#8 := by
      intro h
      rw [h] at h2
      exact absurd h2 (by decide)
    rw [if_pos h2]
    exact ⟨rfl, fun h => absurd h h80, fun _ => rfl⟩
  rw [if_neg h2]
  by_cases h80 : addr.hi = 0x80#8
  · rw [if_pos h80]
    refine ⟨rfl, fun _ => ?_, fun h => absurd h80 h⟩
    simp only [Board.sub_page_tty h80]
    exact ⟨rfl, rfl⟩
  · rw [if_neg h80]
    split_ifs
    · exact ⟨rfl, fun h => absurd h h80, fun _ => rfl⟩
    · exact ⟨rfl, fun h => absurd h h80, fun _ => rfl⟩

lemma write_systemBus (devices : Devices) (addr : Word) (val : Byte) :
    let w := Wired.write ⟨Board.systemBus, devices⟩ addr val
    w.bus = Board.systemBus ∧ w.devices.tty.pending = devices.tty.pending := by
  have hfind := Board.findMapping_systemBus addr
  unfold Wired.write
  rw [hfind]
  split_ifs
  · exact ⟨rfl, rfl⟩
  · exact ⟨rfl, devices.tty.pending_write _ _⟩
  · exact ⟨rfl, rfl⟩
  · exact ⟨rfl, rfl⟩

lemma keeps_conserves (l : List Byte) : Isa.Keeps (Conserves l) where
  read w addr h := by
    obtain ⟨⟨bus, devices⟩, seen⟩ := w
    obtain ⟨rfl, hlaw⟩ := h
    obtain ⟨hbus, htty, hother⟩ := read_systemBus devices addr
    refine ⟨hbus, ?_⟩
    show seen ++ noteTaken ⟨Board.systemBus, devices⟩ addr ++
      (Wired.read ⟨Board.systemBus, devices⟩ addr).2.devices.tty.pending = l
    by_cases h80 : addr.hi = 0x80#8
    · obtain ⟨hval, hdev⟩ := htty h80
      rw [hdev]
      by_cases h1 : addr.lo = 1#8
      · -- the read that takes the byte
        have haddr : addr = 0x8001#16 := by rw [← word_hi_lo addr, h80, h1]; rfl
        rw [h1] at hval ⊢
        rw [show word 0#8 1#8 = 1#16 from rfl, TTY.read_data] at hval ⊢
        rw [← hlaw]
        unfold noteTaken TTY.pending
        cases devices.tty.rxReady with
        | true =>
          rw [if_pos ⟨haddr, rfl⟩, hval]
          simp
        | false => simp
      · have haddr : addr ≠ 0x8001#16 := by
          rintro rfl
          exact h1 rfl
        have hoff : word 0#8 addr.lo ≠ 1#16 := by
          intro h
          have hlo := congrArg Word.lo h
          rw [word_lo] at hlo
          exact h1 hlo
        rw [TTY.pending_read _ hoff]
        simpa [noteTaken, haddr] using hlaw
    · have haddr : addr ≠ 0x8001#16 := by
        rintro rfl
        exact h80 rfl
      rw [hother h80]
      simpa [noteTaken, haddr] using hlaw
  write w addr v h := by
    obtain ⟨⟨bus, devices⟩, seen⟩ := w
    obtain ⟨rfl, hlaw⟩ := h
    obtain ⟨hbus, hpending⟩ := write_systemBus devices addr v
    refine ⟨hbus, ?_⟩
    show seen ++ [] ++ (Wired.write ⟨Board.systemBus, devices⟩ addr v).devices.tty.pending = l
    rw [hpending, List.append_nil]
    exact hlaw

@[simp] lemma tty_setTty (sys : System) (tty : TTY) : (sys.setTty tty).tty = tty := rfl

lemma pull_busy {sys : System} (h : sys.tty.rxReady = true) : sys.pull = (none, sys) := if_pos h

lemma pull_none {sys : System} (hr : sys.tty.rxReady = false) (ht : sys.term 0 = none) :
    sys.pull = (none, sys.tryReadByte.2) := by
  simp [pull, hr, tryReadByte, ht]

/-- A byte that is pulled goes to the free holding register. -/
lemma pull_some {sys : System} {b : Byte} (hr : sys.tty.rxReady = false) (ht : sys.term 0 = some b) :
    sys.pull = (some b, sys.tryReadByte.2.setTty (sys.tty.receive b)) := by
  have htty : sys.tryReadByte.2.tty = sys.tty := rfl
  simp [pull, hr, htty, show sys.tryReadByte.1 = some b from ht]

/-- `poll` never drops a byte. -/
lemma pending_poll (sys : System) : sys.poll.pending = sys.pending ++ sys.pulled := by
  unfold poll pulled
  cases hr : sys.tty.rxReady with
  | true => simp [pull_busy hr]
  | false =>
    cases ht : sys.term 0 with
    | none =>
      rw [pull_none hr ht]
      exact (List.append_nil _).symm
    | some b =>
      rw [pull_some hr ht]
      simp [pending, TTY.pending, TTY.receive, hr]

/-- What is pulled is gone from the terminal: the next answer, if a byte, or none at all. -/
lemma term_poll (sys : System) : ∃ k ≤ 1, (∀ i, sys.poll.term i = sys.term (i + k)) ∧
    sys.pulled = (List.range k).filterMap sys.term := by
  unfold poll pulled
  cases hr : sys.tty.rxReady with
  | true => exact ⟨0, Nat.zero_le 1, by simp [pull_busy hr], by simp [pull_busy hr]⟩
  | false =>
    cases ht : sys.term 0 with
    | none => exact ⟨1, le_rfl, by simp [pull_none hr ht, tryReadByte], by simp [pull_none hr ht, ht]⟩
    | some b =>
      exact ⟨1, le_rfl, by simp [pull_some hr ht, tryReadByte, setTty], by simp [pull_some hr ht, ht]⟩

lemma Ready.poll {sys : System} (h : sys.Ready) : sys.poll.Ready := h.shows.poll.ready

/-- What a step takes, with what it leaves pending, is what was pending and what it pulled. -/
lemma Ready.step_conserves {sys : System} (h : sys.Ready) :
    ∃ sys', sys.step = some sys' ∧ sys'.Ready ∧
      sys.taken ++ sys'.pending = sys.pending ++ sys.pulled := by
  have hp := h.poll
  have hbus : sys.poll.cpu.bus.bus = Board.systemBus := by
    have hw : sys.poll.cpu.bus = sys.machine.poll.bus.wire := congrArg Isa.Arch.bus h.shows.poll.arch
    rw [hw]
    rfl
  obtain ⟨sys', hstep, hshows⟩ := h.shows.step
  refine ⟨sys', hstep, hshows.ready, ?_⟩
  obtain ⟨cpu', w', hrun, -, harch, hmap⟩ :=
    CPU6502.executeInstruction_watched noteTaken (fun _ _ _ => []) hp.settled []
  have hcpu : sys'.cpu = cpu' := by
    unfold step at hstep
    rw [hrun] at hstep
    exact (congrArg System.cpu (Option.some.inj hstep)).symm
  have hlaw := (CPU6502.codeStep_keeps (keeps_conserves sys.poll.pending)
    (s := (sys.poll.cpu.withBus (⟨sys.poll.cpu.bus, []⟩ : Watched noteTaken fun _ _ _ => [])).arch)
    ⟨hbus, rfl⟩).law
  rw [← harch] at hlaw
  have hpending : sys'.pending = w'.arch.bus.bus.devices.tty.pending := by
    have hb := congrArg Isa.Arch.bus hmap
    unfold pending tty
    rw [hcpu, show cpu'.bus = _ from hb.symm]
    rfl
  rw [← pending_poll, hpending, ← hlaw, taken, CPU6502.sees_eq _ _ hp.settled, ← harch]

lemma Ready.run_conserves {sys : System} (h : sys.Ready) (n : Nat) :
    ∃ sys', sys.steps n = some sys' ∧ sys'.Ready ∧
      sys.takenIn n ++ sys'.pending = sys.pending ++ sys.pulledIn n := by
  induction n generalizing sys with
  | zero => exact ⟨sys, rfl, h, by simp [takenIn, pulledIn]⟩
  | succ n ih =>
    obtain ⟨sys₁, hstep, h₁, hlaw⟩ := h.step_conserves
    obtain ⟨sys₂, hrun, h₂, hlaw'⟩ := ih h₁
    refine ⟨sys₂, by rw [steps, hstep]; exact hrun, h₂, ?_⟩
    simp only [takenIn, pulledIn, hstep, Option.map_some, Option.getD_some]
    rw [List.append_assoc, hlaw', ← List.append_assoc, hlaw, List.append_assoc]

lemma term_step {sys sys' : System} (h : sys.step = some sys') : sys'.term = sys.poll.term := by
  obtain ⟨cpu, -, rfl⟩ := Option.map_eq_some_iff.mp h
  rfl

/-- A run asks the terminal some number of times, and pulls the answers that are bytes. -/
lemma run_pulls {sys sys' : System} (n : Nat) (h : sys.steps n = some sys') :
    ∃ k ≤ n, (∀ i, sys'.term i = sys.term (i + k)) ∧
      sys.pulledIn n = (List.range k).filterMap sys.term := by
  induction n generalizing sys with
  | zero =>
    obtain rfl := Option.some.inj h
    exact ⟨0, le_rfl, fun _ => rfl, rfl⟩
  | succ n ih =>
    obtain ⟨sys₁, hstep, hrun⟩ := Option.bind_eq_some_iff.mp h
    obtain ⟨k, hk, hterm, hpulled⟩ := sys.term_poll
    obtain ⟨k', hk', hterm', hpulled'⟩ := ih hrun
    rw [term_step hstep] at hterm' hpulled'
    refine ⟨k + k', by omega, fun i => ?_, ?_⟩
    · rw [hterm', hterm, Nat.add_assoc, Nat.add_comm k']
    · have hrest : (List.range k').filterMap sys.poll.term =
          ((List.range k').map (k + ·)).filterMap sys.term := by
        rw [List.filterMap_map]
        refine congrFun (congrArg _ ?_) _
        funext i
        rw [hterm, Function.comp_apply, Nat.add_comm]
      simp only [pulledIn, hstep, Option.map_some, Option.getD_some]
      rw [hpulled, hpulled', hrest, ← List.filterMap_append, ← List.range_add]

lemma length_pending (sys : System) : sys.pending.length ≤ 1 := by
  unfold pending TTY.pending
  split_ifs
  · exact le_rfl
  · exact Nat.zero_le 1

/-- No byte from the terminal is lost, duplicated or reordered, whatever the program does: those
among its answers that are bytes were taken in turn, but for the last, which may be pending. -/
theorem terminal_bytes_conserved {term : Nat → Option Byte} {tapeBacking : Option IoStream}
    {sys : System} (h : Reachable term tapeBacking sys) (n : Nat) :
    ∃ sys', sys.steps n = some sys' ∧
      (∃ k ≤ n, (∀ i, sys'.term i = sys.term (i + k)) ∧
        sys.pulledIn n = (List.range k).filterMap sys.term) ∧
      sys.takenIn n ++ sys'.pending = sys.pending ++ sys.pulledIn n ∧
      sys'.pending.length ≤ 1 ∧
      (∀ b ∈ sys'.pulled, sys'.tty.rxReady = false ∧ sys'.poll.pending = [b]) ∧
      ∀ sys'', sys'.step = some sys'' → sys'.taken = [] → sys''.pending = sys'.poll.pending := by
  obtain ⟨sys', hrun, hready, hlaw⟩ := h.ready.run_conserves n
  refine ⟨sys', hrun, run_pulls n hrun, hlaw, sys'.length_pending, ?_, ?_⟩
  · intro b hb
    have hfree : sys'.tty.rxReady = false := by
      by_contra hr
      simp [pulled, pull_busy (Bool.eq_true_of_not_eq_false hr)] at hb
    refine ⟨hfree, ?_⟩
    have hpulled : sys'.pulled = [b] := by
      cases ht : sys'.term 0 with
      | none => simp [pulled, pull_none hfree ht] at hb
      | some c =>
        rw [pulled, pull_some hfree ht] at hb ⊢
        rw [List.mem_singleton.mp hb]
        rfl
    rw [pending_poll, hpulled]
    simp [pending, TTY.pending, hfree]
  · intro sys'' hstep hnone
    obtain ⟨s, hs, -, hlaw'⟩ := hready.step_conserves
    rw [hstep] at hs
    cases hs
    rw [hnone, List.nil_append, ← pending_poll] at hlaw'
    exact hlaw'

/-- Keys that wait at the terminal of a fresh system, over three steps. -/
theorem terminal_bytes_conserved_fresh :
    ∃ sys sys' : System, System.create (fun i => if i < 2 then some 0x41#8 else none) none = .ok sys ∧
      sys.steps 3 = some sys' ∧ sys.takenIn 3 ++ sys'.pending = sys.pending ++ sys.pulledIn 3 := by
  have hc := create_ok (fun i => if i < 2 then some 0x41#8 else none) none
  obtain ⟨sys', hrun, -, hlaw, -⟩ := terminal_bytes_conserved (.create hc) 3
  exact ⟨_, sys', hc, hrun, hlaw⟩

end System

end Sys6
