import Sys6.Monitor.Session

/-!
# From prompt to prompt

What no line changes: the stack above SP, SP itself, and the motor, which is off.
-/

namespace Sys6

/-- Neither the user's program is entered nor does `POKE` or `LOAD` store at an address that is not
clear. -/
def Harmless : Event → Prop
  | .visit pc _ _ => pc ≠ 0xCD00#16
  | .access pc addr _ => pc = 0xCC1C#16 ∨ pc = 0xD134#16 → Clear addr
  | .tapeWrite _ _ _ => True

/-- A command that comes back leaves the motor off. -/
lemma Command.Done.motor_off {cmd : Command} {v v' : View} {e : List Event} (h : cmd.Done v e v')
    (hv : v.tape.motorOn = false) : v'.tape.motorOn = false := by
  cases cmd with
  | peek a =>
    obtain ⟨data, tape, e', -, hround, rfl⟩ := h
    exact hround.motorOn.trans hv
  | list a last =>
    obtain ⟨bytes, tape, y, rowCount, e', -, hwalk, rfl⟩ := h
    exact hwalk.motorOn.trans hv
  | poke a bytes =>
    have h : Poked v bytes e v' := h
    obtain ⟨x, y, work, rfl⟩ := h.view
    have hstores : (v.stores v.work.addr bytes).tape = v.tape := by simp
    exact (congrArg Tape.motorOn hstores).trans hv
  | run a => exact h.elim
  | save a last =>
    by_cases hrange : v.tape.backing.isSome ∧ a ≤ last
    · obtain ⟨bytes, tape, y, -, -, hoff, -, -, -, rfl⟩ := (if_pos hrange).mp h
      exact hoff
    · obtain ⟨-, rfl⟩ := (if_neg hrange).mp h
      exact hv
  | load a =>
    by_cases htape : v.tape.backing.isSome
    · obtain ⟨-, y, cursor, len, sum, rfl⟩ := (if_pos htape).mp h
      simp
    · obtain ⟨-, rfl⟩ := (if_neg htape).mp h
      exact hv
  | rewind a =>
    by_cases htape : v.tape.backing.isSome
    · obtain ⟨-, rfl⟩ := (if_pos htape).mp h
      simp
    · obtain ⟨-, rfl⟩ := (if_neg htape).mp h
      exact hv
  | bad =>
    obtain ⟨-, rfl⟩ := h
    exact hv

namespace Machine

variable {m m' : Machine}

/-- As at `m₀`, apart from what the commands use of the stack. -/
structure Prompted (m₀ m : Machine) : Prop where
  sp : m.sp = m₀.sp
  stack : Scratch 7 m₀.sp m₀.bus.stack m.bus.stack
  motor : m.bus.tape.motorOn = false

/-- The prompt is not seen again without harm. -/
abbrev Lost (m : Machine) : Prop := Run.Leaves step sees (fun m => m.pc = 0xCF11#16) Harmless m

lemma lost_of_stays {k : Nat} {s : Byte} (h : m.Stays k s commandEvent) : m.Lost :=
  h.leaves fun _ hm => pc_ne_of_command hm

lemma lost_of_run (hpc : m.pc = 0xCD00#16) : m.Lost := by
  have hne : m.pc ≠ 0xCF11#16 := by
    rw [hpc]
    decide
  have hentry : m.pc ∈ entries := by
    rw [hpc]
    decide
  exact Run.leaves_of_obs hne (visit_mem_sees hentry) fun hvisit => hvisit hpc

lemma lost_of_astray {e : List Event} (h : Astray e m) : m.Lost := by
  have hne : m.pc ≠ 0xCF11#16 := by
    obtain hpc | hpc := h.pc
    · rw [hpc]
      decide
    · rw [hpc]
      decide
  have hsite : m.pc ∈ cursorSites := by
    obtain hpc | hpc := h.pc
    · rw [hpc]
      decide
    · rw [hpc]
      decide
  have haddr : word m.bus.work.addrHi m.bus.work.addrLo + m.y.setWidth 16 = m.bus.work.addr := by
    rw [h.y]
    simp [Work.addr]
  have hmem : Event.access m.pc m.bus.work.addr m.step.a ∈ m.sees := by
    unfold sees
    rw [if_pos hsite, haddr]
    simp
  exact Run.leaves_of_obs hne hmem fun haccess => h.not_clear (haccess h.pc)

/-- One round, or the last one. -/
lemma round_or_lost (hpc : m.pc = 0xCF11#16) (hmotor : m.bus.tape.motorOn = false) :
    Does m 7 m.sp False fun e m' => ∃ e', e = m.visit :: e' ∧ (∀ x ∈ e', commandEvent x) ∧
      (m'.pc = 0xCF11#16 ∧ m'.sp = m.sp ∧ m'.bus.tape.motorOn = false ∨ m'.Lost) := by
  obtain ⟨keys, hcr, hin⟩ | hnone := m.bus.input.line_or_noCr
  · obtain hserved | ⟨-, hrun⟩ | ⟨-, hends⟩ | ⟨-, hstray⟩ := mainLoop_round hpc hcr hin
    · refine hserved.mono le_rfl id fun e m' h => ?_
      obtain ⟨x, work, e', -, rfl, hdone⟩ := h.done
      exact ⟨e', rfl, hdone.seen, .inl ⟨h.pc, h.sp, hdone.motor_off hmotor⟩⟩
    · refine hrun.mono le_rfl id ?_
      rintro e m' ⟨rfl, hpc'⟩
      exact ⟨[], rfl, by simp, .inr (lost_of_run hpc')⟩
    · refine hends.mono le_rfl id ?_
      rintro e m' ⟨rfl, hstays⟩
      exact ⟨[], rfl, by simp, .inr (lost_of_stays hstays)⟩
    · refine hstray.mono le_rfl id ?_
      rintro e m' ⟨e', rfl, h⟩
      exact ⟨e', rfl, h.seen, .inr (lost_of_astray h)⟩
  · refine (mainLoop_waits hpc hnone).mono le_rfl id ?_
    rintro e m' ⟨rfl, hstays⟩
    exact ⟨[], rfl, by simp, .inr (lost_of_stays hstays)⟩

/-- At every prompt the stack is as at the first one, as long as no harm is done. -/
theorem prompted_again (hpc : m.pc = 0xCF11#16) (hmotor : m.bus.tape.motorOn = false) {n : Nat}
    (hseen : ∀ x ∈ Run.trace step sees n m, Harmless x) (hpc' : (step^[n] m).pc = 0xCF11#16) :
    Prompted m (step^[n] m) := by
  refine Run.invariant_at_heads (I := fun _ => True) (fun m => m.pc = 0xCF11#16) (Prompted m)
    (fun m₁ hpc₁ h₁ => ?_) hpc ⟨rfl, .refl _ _ _, hmotor⟩ hseen hpc'
  obtain ⟨e, m', ⟨n, hlead⟩, hs, -, e', rfl, hcommand, hnext⟩ := round_or_lost hpc₁ h₁.motor
  obtain ⟨k, rfl⟩ : ∃ k, n = k + 1 := by
    cases n with
    | zero => exact absurd hlead.trace (by simp [Run.trace])
    | succ k => exact ⟨k, rfl⟩
  refine ⟨k, _, m', hlead.mono fun _ _ => trivial, first_of_command hpc₁ hlead hcommand, ?_⟩
  obtain ⟨hpc', hsp', hmotor'⟩ | hlost := hnext
  · rw [h₁.sp] at hs hsp'
    exact .inl ⟨hpc', hsp', h₁.stack.trans hs, hmotor'⟩
  · exact .inr hlost

end Machine

namespace System

/-- From the prompt with the motor off: whenever the monitor is at the prompt again, SP, the stack
above it and the motor are as before. -/
theorem prompts_keep_stack {sys sys' : System} (hready : sys.Ready) (hpc : sys.cpu.pc = 0xCF11#16)
    (hsp : 0x10#8 ≤ sys.cpu.sp) (hmotor : sys.tty.tapeMotorOn = false) {n : Nat}
    (hrun : sys.steps n = some sys') (hseen : ∀ e ∈ sys.seenIn n, Harmless e)
    (hpc' : sys'.cpu.pc = 0xCF11#16) :
    sys'.cpu.sp = sys.cpu.sp ∧
    (∀ b : Byte, sys.cpu.sp < b → sys'.ram (word 1#8 b) = sys.ram (word 1#8 b)) ∧
    sys'.tty.tapeMotorOn = false := by
  have hm := hready.shows
  obtain ⟨sys₁, hsteps, hshows, htrace⟩ := hm.steps n
  rw [hrun] at hsteps
  cases hsteps
  rw [htrace] at hseen
  rw [hm.pc] at hpc
  rw [hm.tape.2.2.1] at hmotor
  rw [hshows.pc] at hpc'
  have h := Machine.prompted_again hpc hmotor hseen hpc'
  refine ⟨?_, fun b hb => ?_, hshows.tape.2.2.1.trans h.motor⟩
  · rw [hshows.sp, h.sp, hm.sp]
  · rw [hshows.ram_stack, hm.ram_stack]
    refine h.stack b ?_
    rw [← hm.sp]
    simp only [BitVec.lt_def, BitVec.le_def] at hb hsp
    bv_omega

/-- A line that is no command. -/
theorem prompts_keep_stack_bad : ∃ n sys', 0 < n ∧
    { typing [0x58#8] default with cpu := (typing [0x58#8] default).cpu.setSP 0xFF#8 }.steps n = some sys' ∧
    sys'.cpu.pc = 0xCF11#16 ∧ sys'.cpu.sp = 0xFF#8 ∧ sys'.tty.tapeMotorOn = false := by
  set sys := { typing [0x58#8] default with cpu := (typing [0x58#8] default).cpu.setSP 0xFF#8 }
  have hready : sys.Ready := ready_of_wire ⟨rfl, rfl, rfl⟩ rfl
  have hears : sys.Hears [0x58#8] := hears_typing [0x58#8] default (by decide)
  have hin := hears.2
  rw [hready.shows.input] at hin
  obtain ⟨n, sys', m', hround, -, hserved, -⟩ :=
    hready.shows.round rfl (Machine.mainLoop_rejects rfl hears.1 hin (by decide))
  obtain ⟨x, work, e, -, hseen, hdone⟩ := hserved.done
  have hbad : e = [] := hdone.1
  have hharmless : ∀ ev ∈ sys.seenIn n, Harmless ev := by
    rw [hseen, hbad]
    rintro ev (_ | ⟨_, _ | _⟩)
    show (0xCF11#16 : Word) ≠ 0xCD00#16
    decide
  obtain ⟨hsp, -, hmotor⟩ :=
    prompts_keep_stack hready rfl (by decide) rfl hround.run hharmless hround.pc
  exact ⟨n, sys', hround.pos, hround.run, hround.pc, hsp, hmotor⟩

end System

end Sys6
