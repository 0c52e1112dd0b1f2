import Sys6.Monitor.Session

/-!
# BRK

The vector of `BRK` lies in ROM, and so does all the code from there to the prompt. Nothing of
it looks at RAM before it is written.
-/

namespace Sys6

open Isa (Arch)

lemma TTY.rxReady_read {tty : TTY} (h : tty.rxReady = false) (offset : Word) :
    (tty.read offset).2.rxReady = false := by
  obtain ⟨out, rxByte, rxReady, backing, position, motorOn, eot, error⟩ := tty
  obtain rfl : rxReady = false := h
  unfold read
  split_ifs
  · unfold readSerial
    split_ifs <;> rfl
  · unfold readTape
    split_ifs
    · rfl
    · rfl
    · cases backing with
      | none => rfl
      | some backing =>
        cases motorOn with
        | false => rfl
        | true =>
          simp only
          split <;> rfl
  · rfl

lemma Board.ready_read {b : Board} (h : b.input.ready = false) (addr : Word) :
    (b.read addr).2.input.ready = false := by
  unfold Board.read
  split_ifs
  all_goals first | exact h | exact TTY.rxReady_read h _

namespace Machine

variable {m : Machine} {out : List Byte}

/-- Nothing is typed any more, and `out` has been printed. -/
structure Silent (out : List Byte) (m : Machine) : Prop where
  ready : m.bus.input.ready = false
  polls : ∀ i, m.bus.input.polls i = none
  out : m.bus.out = out

namespace Silent

lemma read (h : Silent out m) (addr : Word) : Silent out (m.read addr).2 := by
  obtain ⟨ready, tape, hframe, -⟩ := m.bus.read_frame addr
  have hready := Board.ready_read h.ready addr
  have hbus : (m.read addr).2.bus = (m.bus.read addr).2 := rfl
  refine ⟨by rw [hbus]; exact hready, ?_, ?_⟩
  · rw [hbus, hframe]
    exact h.polls
  · rw [hbus, hframe]
    exact h.out

lemma push (h : Silent out m) (v : Byte) : Silent out (m.push v) := by
  unfold Arch.push
  rw [write_stack]
  exact ⟨h.ready, h.polls, h.out⟩

lemma poll_bus (h : Silent out m) :
    m.poll.bus = m.bus.withPolls fun i => m.bus.input.polls (i + 1) := by
  have hpoll : m.bus.input.poll = { m.bus.input with polls := fun i => m.bus.input.polls (i + 1) } := by
    unfold Input.poll
    rw [if_neg (by simp [h.ready]), h.polls 0]
  unfold Machine.poll Board.withPolls
  rw [hpoll]

lemma poll (h : Silent out m) : Silent out m.poll := by
  refine ⟨?_, fun i => ?_, ?_⟩
  · rw [h.poll_bus]
    exact h.ready
  · rw [h.poll_bus]
    exact h.polls (i + 1)
  · rw [h.poll_bus]
    exact h.out

lemma fetch (h : Silent out m) : Silent out m.fetch.2 := by
  obtain ⟨hready, hpolls, hout⟩ := h.read m.pc
  exact ⟨hready, hpolls, hout⟩

lemma brk (h : Silent out m) : Silent out m.brk := by
  have hpushed : Silent out ((m.fetch.2.pushWord m.fetch.2.pc).push { m.p with b := true }.toByte) := by
    unfold Arch.pushWord
    exact ((h.fetch.push _).push _).push _
  obtain ⟨hready, hpolls, hout⟩ := (hpushed.read 0xFFFE#16).read 0xFFFF#16
  exact ⟨hready, hpolls, hout⟩

end Silent

lemma pc_brk (m : Machine) : m.brk.pc = 0xCF0E#16 := by
  have hlo : ¬Word.hi 0xFFFE#16 < 0xC0#8 := by decide
  have hhi : ¬Word.hi 0xFFFF#16 < 0xC0#8 := by decide
  unfold Arch.brk
  simp only [read_rom hlo, read_rom hhi]
  decide

/-- From an opcode `BRK` the machine gets to `WARM_START`. -/
lemma step_brk (h : Silent out m) (hop : (m.read m.pc).1 = cOpBRK) :
    m.step.pc = 0xCF0E#16 ∧ Silent out m.step := by
  have hfetch : m.poll.fetch.1 = cOpBRK := by
    have hread : m.poll.fetch.1 = (m.poll.bus.read m.pc).1 := rfl
    have hpolls := (Board.busMap_withPolls fun i => m.bus.input.polls (i + 1)).read m.bus m.pc
    rw [hread, h.poll_bus]
    exact (congrArg Prod.fst hpolls).trans hop
  have hstep : m.step = CPU6502.setLiveB m.poll.fetch.2.brk := by
    have hdecode : Isa.decode m.poll.fetch.1 = some (.BRK, .implied) := by
      rw [hfetch]
      rfl
    exact CPU6502.codeStep_listed hdecode (by rw [hfetch]; decide) fun _ => rfl
  have hlive : ∀ m' : Machine, m'.pc = 0xCF0E#16 → Silent out m' →
      (CPU6502.setLiveB m').pc = 0xCF0E#16 ∧ Silent out (CPU6502.setLiveB m') :=
    fun m' hpc hs => ⟨hpc, hs.ready, hs.polls, hs.out⟩
  rw [hstep]
  exact hlive _ (pc_brk _) h.poll.fetch.brk

/-- `WARM_START` makes the stack empty. -/
lemma warmStart (hpc : m.pc = 0xCF0E#16) :
    Reaches m 255 0xFF#8 True [] (At 0xCF11#16 0xFF#8 Any { m.view with x := 0xFF#8 }) := by
  obtain ⟨a, x, y, sp, p, pc, halted, w, low, stack, high, input, out, tape⟩ := m
  obtain rfl : pc = _ := hpc
  have hdeep : (0xFF#8 - sp).toNat ≤ 255 := by
    have := (0xFF#8 - sp).isLt
    omega
  refine .via 1 0xCF10#16 Any ⟨0xFF#8, y, w, low, high, out, tape⟩ (by simpa using hdeep)
    fun _ _ _ _ _ _ => ?_
  exact .unseen line_CF10 (by decide) hdeep rfl (fun _ => by simp) (.refl (by simp))

/-- From the prompt to the loop of `GETCHAR`. -/
lemma prompt_waits (hpc : m.pc = 0xCF1C#16) : ∃ m' : Machine, m.Leads (fun _ => True) [] m' ∧
    m'.pc = 0xC000#16 ∧ m'.sp = m.sp - 4#8 ∧ m'.bus.out = m.bus.out := by
  have hread : m.Leads (fun _ => True) [] (m.called 0xC400#16) :=
    leads_called (by rw [hpc]; exact line_CF1C) trivial
  obtain ⟨m₁, hstart, hpc₁, hsp₁, hout₁⟩ : ∃ m₁ : Machine, (m.called 0xC400#16).Leads (fun _ => True) [] m₁ ∧
      m₁.pc = 0xC402#16 ∧ m₁.sp = m.sp - 2#8 ∧ m₁.bus.out = m.bus.out :=
    ⟨_, leads_line line_C400 (by decide) trivial (.refl _), rfl, rfl, rfl⟩
  have hget : m₁.Leads (fun _ => True) [] (m₁.called 0xC000#16) :=
    leads_called (by rw [hpc₁]; exact line_C402) trivial
  refine ⟨m₁.called 0xC000#16, (hread.trans hstart).trans hget, rfl, ?_, hout₁⟩
  show m₁.sp - 2#8 = m.sp - 4#8
  rw [hsp₁]
  bv_omega

/-- From `BRK` to the loop of `GETCHAR`. -/
lemma brk_prompts (h : Silent out m) (hop : (m.read m.pc).1 = cOpBRK) :
    ∃ evs, ∃ m' : Machine, m.Leads (fun _ => True) evs m' ∧ m'.pc = 0xC000#16 ∧ m'.sp = 0xFB#8 ∧
      m'.bus.out = out ++ prompt := by
  obtain ⟨hpc₁, hsilent₁⟩ := step_brk h hop
  have hbrk : m.Leads (fun _ => True) m.sees m.step := ⟨1, Run.leadsIn_one trivial⟩
  obtain ⟨m₂, hwarm, -, -, h₂⟩ := warmStart hpc₁
  obtain ⟨m₃, hprompt, -, -, h₃⟩ := mainLoop_prompt (q := True) h₂.pc
  obtain ⟨m₄, hwait, hpc₄, hsp₄, hout₄⟩ := prompt_waits h₃.pc
  refine ⟨_, m₄, ((hbrk.trans (hwarm.mono fun _ _ => trivial)).trans (hprompt.mono fun _ _ => trivial)).trans
    hwait, hpc₄, ?_, ?_⟩
  · rw [hsp₄, h₃.sp, h₂.sp]
    decide
  · have hout₂ : m₂.bus.out = m.step.bus.out := congrArg View.out h₂.view
    have hout₃ : m₃.bus.out = m₂.bus.out ++ prompt := congrArg View.out h₃.view
    rw [hout₄, hout₃, hout₂, hsilent₁.out]

end Machine

namespace System

/-- Wherever a program has got to, the ROM is as `install` has built it, and `BRK` leads back to the
prompt. -/
theorem brk_recovers {term : Nat → Option Byte} {tapeBacking : Option IoStream} {sys : System}
    (h : Reachable term tapeBacking sys) :
    monitor.install ⟨monitor.kRomSize, fun _ => 0#8⟩ = .ok sys.cpu.bus.devices.rom ∧
    ((BusLike.read sys.cpu.bus sys.cpu.pc).1 = cOpBRK → sys.tty.rxReady = false →
      (∀ i, sys.term i = none) → ∃ n sys', sys.steps n = some sys' ∧ sys'.cpu.pc = 0xC000#16 ∧
        sys'.cpu.sp = 0xFB#8 ∧ sys'.tty.out = sys.tty.out ++ [0x3E#8, 0x20#8]) := by
  refine ⟨h.ready.rom, fun hop hready hterm => ?_⟩
  have hm := h.ready.shows
  have hbus : sys.cpu.bus = sys.machine.bus.wire := congrArg Arch.bus hm.arch
  have hop' : (sys.machine.read sys.machine.pc).1 = cOpBRK := by
    rw [hbus, hm.pc] at hop
    exact (congrArg Prod.fst (Board.busMap_wire.read sys.machine.bus sys.machine.pc)).symm.trans hop
  obtain ⟨evs, m', ⟨n, hlead⟩, hpc, hsp, hout⟩ :=
    Machine.brk_prompts ⟨hready, hterm, rfl⟩ hop'
  obtain ⟨sys', hsteps, hshows, -⟩ := hm.steps n
  rw [hlead.run] at hshows
  exact ⟨n, sys', hsteps, hshows.pc.trans hpc, hshows.sp.trans hsp, hshows.out.trans hout⟩

/-- A system that has just been built stands at a `BRK` in empty RAM. -/
theorem brk_recovers_created : ∃ sys n sys', System.create (fun _ => none) none = .ok sys ∧
    sys.steps n = some sys' ∧ sys'.cpu.pc = 0xC000#16 ∧ sys'.cpu.sp = 0xFB#8 ∧
    sys'.tty.out = [0x3E#8, 0x20#8] := by
  have hcreate := create_ok (fun _ => none) none
  obtain ⟨n, sys', hsteps, hpc, hsp, hout⟩ :=
    (brk_recovers (.create hcreate)).2 rfl rfl fun _ => rfl
  exact ⟨_, n, sys', hcreate, hsteps, hpc, hsp, hout⟩

end System

end Sys6
