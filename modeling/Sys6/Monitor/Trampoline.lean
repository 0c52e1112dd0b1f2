import Sys6.Monitor.Grammar
import Sys6.Monitor.Session
import Sys6.Proofs.StackLaw

/-!
# RUN

The monitor calls a program through a `JSR` and an `RTS` of its own in page 0, and the program
comes back through three return addresses.
-/

namespace Sys6

open Isa (Arch)

namespace Machine

variable {m : Machine}

/-- `JSR` to the address in the workspace, and `RTS`. -/
def Trampoline (addr : Word) (low : Byte → Byte) : Prop :=
  low 0xF8#8 = 0x20#8 ∧ low 0xF9#8 = addr.lo ∧ low 0xFA#8 = addr.hi ∧ low 0xFB#8 = 0x60#8

/-- The machine at the trampoline, with the call of `RUN` on the stack. -/
structure Built (m m' : Machine) : Prop where
  pc : m'.pc = 0x00F8#16
  sp : m'.sp = m.sp - 2#8
  stack : m'.bus.stack = pushed m.bus.stack m.sp 0xCD12#16
  view : m'.view = { m.view with low := m'.bus.low }
  trampoline : Trampoline m.bus.work.addr m'.bus.low
  low : ∀ b : Byte, b < 0xF0#8 ∨ 0xFD#8 < b → m'.bus.low b = m.bus.low b
  input : Polled m.bus.input m'.bus.input

lemma setZp_trampoline (b : Board) (v : Byte) :
    b.setZp 0xF8#8 v = { b with low := Function.update b.low 0xF8#8 v } ∧
    b.setZp 0xF9#8 v = { b with low := Function.update b.low 0xF9#8 v } ∧
    b.setZp 0xFA#8 v = { b with low := Function.update b.low 0xFA#8 v } ∧
    b.setZp 0xFB#8 v = { b with low := Function.update b.low 0xFB#8 v } :=
  ⟨rfl, rfl, rfl, rfl⟩

/-- The code of `RUN` puts the trampoline into page 0. -/
lemma run_arms (hpc : m.pc = 0xCD00#16) : Reaches m 0 m.sp True [m.visit] (At 0xCD10#16 m.sp Any
    { m.view with low := Function.update (Function.update (Function.update (Function.update m.bus.low
      0xF8#8 0x20#8) 0xF9#8 m.bus.work.addrLo) 0xFA#8 m.bus.work.addrHi) 0xFB#8 0x60#8 }) := by
  obtain ⟨a, x, y, sp, p, pc, halted, w, low, stack, high, input, out, tape⟩ := m
  obtain rfl : pc = _ := hpc
  have hsite : 0xCD00#16 ∈ entries := by decide
  exact .entry line_CD00 hsite rfl (.finish 7 (by simp [setZp_trampoline]))

/-- And calls it. -/
lemma run_builds (hpc : m.pc = 0xCD00#16) :
    ∃ evs, ∃ m' : Machine, m.Leads (fun _ => True) evs m' ∧ Built m m' := by
  obtain ⟨m₁, hlead, hstack, hpolled, hpc₁, hsp₁, -, hview⟩ := run_arms hpc
  have hstack₁ : m₁.bus.stack = m.bus.stack := funext fun b => hstack b (Nat.zero_le _)
  have hlow : m₁.bus.low = _ := congrArg View.low hview
  have hcall : m₁.Leads (fun _ => True) [] (m₁.called 0x00F8#16) :=
    leads_called (by rw [hpc₁]; exact line_CD10) trivial
  refine ⟨_, m₁.called 0x00F8#16, (hlead.mono fun _ _ => trivial).trans hcall, rfl, ?_, ?_, ?_, ?_, fun b hb => ?_,
    (hpolled trivial).trans (polled_after _ 1)⟩
  · show m₁.sp - 2#8 = _
    rw [hsp₁]
  · show pushed m₁.bus.stack m₁.sp (m₁.pc + 3#16 - 1#16) = _
    rw [hstack₁, hsp₁, hpc₁]
    rfl
  · show m₁.view = { m.view with low := m₁.bus.low }
    rw [hlow, hview]
  · show Trampoline _ m₁.bus.low
    rw [hlow]
    simp [Trampoline, Work.addr]
  · show m₁.bus.low b = _
    rw [hlow]
    have hne : ∀ c : Byte, 0xF0#8 ≤ c → c ≤ 0xFD#8 → b ≠ c := by
      rintro c hlo hhi rfl
      bv_omega
    simp [Function.update_of_ne, hne]

lemma fetch_zp {b : Byte} (hpc : m.pc = word 0#8 b) :
    m.fetch = (m.bus.zp b, { m with pc := m.pc + 1#16 }) := by
  unfold Arch.fetch
  simp only [hpc, read_zp]

lemma last_of_trampoline : (0x00F8#16 : Word) + 3#16 - 1#16 = 0x00FA#16 := by decide

/-- The trampoline is a call of the program. -/
lemma step_trampoline {addr : Word} (hpc : m.pc = 0x00F8#16) (h : Trampoline addr m.bus.low) :
    m.step = m.called addr := by
  obtain ⟨a, x, y, sp, p, pc, halted, w, low, stack, high, input, out, tape⟩ := m
  obtain rfl : pc = _ := hpc
  obtain ⟨hop, hlo, hhi, -⟩ := h
  let m₁ : Machine := ⟨a, x, y, sp, p, 0x00F8#16, halted, ⟨w, low, stack, high, input.poll, out, tape⟩⟩
  have hfetch : m₁.fetch = (low 0xF8#8, { m₁ with pc := 0x00F9#16 }) := fetch_zp (b := 0xF8#8) rfl
  have hd : Isa.decode m₁.fetch.1 = some (.JSR, .absolute) := by
    rw [hfetch, show low 0xF8#8 = 0x20#8 from hop]
    show Isa.decode 0x20#8 = some (.JSR, .absolute)
    decide
  have hstep : CPU6502.codeStep m₁ = Arch.jsr { m₁ with pc := 0x00F9#16 } := by
    rw [CPU6502.codeStep_of_mem hd (by decide), Isa.step_jsr hd, hfetch]
  have hfetch' : Arch.fetch { m₁ with pc := 0x00F9#16 } = (low 0xF9#8, { m₁ with pc := 0x00FA#16 }) :=
    fetch_zp (b := 0xF9#8) rfl
  have hread : ∀ m : Machine, m.read 0x00FA#16 = (m.bus.zp 0xFA#8, m) := fun m => read_zp m 0xFA#8
  have htarget : word (low 0xFA#8) (low 0xF9#8) = addr := by
    rw [show low 0xFA#8 = _ from hhi, show low 0xF9#8 = _ from hlo, word_hi_lo]
  have hsp : m₁.sp - 1#8 - 1#8 = sp - 2#8 := by
    show sp - 1#8 - 1#8 = _
    bv_omega
  show CPU6502.codeStep m₁ = _
  rw [hstep]
  unfold Arch.jsr
  simp only [hfetch', Arch.pushWord, Arch.push, write_stack, hread, hsp]
  simp only [called, pushed, last_of_trampoline, ← htarget]
  rfl

/-- After an `RTS`. -/
def returned (m : Machine) : Machine :=
  { m with pc := m.ret, sp := m.sp + 2#8, bus := { m.bus with input := m.bus.input.after 1 } }

/-- An `RTS` anywhere: one that is read from a register may free the holding register or move the tape. -/
lemma step_rts_anywhere (hop : m.poll.fetch.1 = 0x60#8) :
    (∃ ready tape, m.step = { m.returned with
      bus := { m.returned.bus with input := { m.returned.bus.input with ready := ready }, tape := tape } }) ∧
    (Quiet m.pc → m.step = m.returned) := by
  have hd : Isa.decode m.poll.fetch.1 = some (.RTS, .implied) := by
    rw [hop]
    decide
  have hstep : m.step = exec .RTS .implied m.poll.fetch.2 := CPU6502.codeStep_implied hd (by decide)
  have hbus : m.poll.fetch.2.bus = (m.poll.bus.read m.pc).2 := rfl
  rw [hstep, exec_rts, hbus]
  constructor
  · obtain ⟨ready, tape, hframe, -⟩ := m.poll.bus.read_frame m.pc
    rw [hframe]
    exact ⟨ready, tape, rfl⟩
  · intro hquiet
    rw [Board.read_of_quiet hquiet]
    rfl

lemma opcode_rom {w : Word} (hpc : m.pc = w) (hrom : ¬w.hi < 0xC0#8) :
    m.poll.fetch.1 = monitor.image (w - monitor.kRomBase) := by
  have hpoll : m.poll.pc = w := hpc
  rw [fetch_rom (by rwa [hpoll]), hpoll]

/-- The return addresses of the program, of the trampoline and of `RUN`, and the `RTS` of the
trampoline. -/
structure Pending (s : Byte) (m : Machine) : Prop where
  loop : word (m.bus.stack s) (m.bus.stack (s - 1#8)) = 0xCF2A#16
  run : word (m.bus.stack (s - 2#8)) (m.bus.stack (s - 3#8)) = 0xCD12#16
  trampoline : word (m.bus.stack (s - 4#8)) (m.bus.stack (s - 5#8)) = 0x00FA#16
  rts : m.bus.low 0xFB#8 = 0x60#8

/-- From the `RTS` of the trampoline the monitor comes back to its prompt. -/
lemma trampoline_leaves {s : Byte} (h : Pending s m) (hpc : m.pc = 0x00FB#16) (hsp : m.sp = s - 4#8) :
    ∃ evs, ∃ m' : Machine, m.Leads (fun _ => True) evs m' ∧ m'.pc = 0xCF11#16 ∧ m'.sp = s ∧
      m'.view = m.view ∧ Polled m.bus.input m'.bus.input := by
  obtain ⟨hloop, hrun, -, hrts⟩ := h
  -- in the trampoline
  have hop : m.poll.fetch.1 = 0x60#8 := by
    have hpoll : m.poll.pc = word 0#8 0xFB#8 := hpc
    rw [fetch_zp hpoll]
    exact hrts
  have hstep := (step_rts_anywhere hop).2 (by rw [hpc]; decide)
  have hpc₁ : m.returned.pc = 0xCD13#16 := by
    show m.ret = _
    unfold ret
    rw [hsp, show s - 4#8 + 2#8 = s - 2#8 by bv_omega, show s - 4#8 + 1#8 = s - 3#8 by bv_omega, hrun]
    rfl
  have hsp₁ : m.returned.sp = s - 2#8 := by
    show m.sp + 2#8 = _
    rw [hsp]
    bv_omega
  -- in `RUN`
  have hop₁ : m.returned.poll.fetch.1 = 0x60#8 := by
    rw [opcode_rom hpc₁ (by decide)]
    decide
  have hstep₁ := (step_rts_anywhere hop₁).2 (by rw [hpc₁]; decide)
  have hpc₂ : m.returned.returned.pc = 0xCF2B#16 := by
    show m.returned.ret = _
    unfold ret
    rw [hsp₁, show s - 2#8 + 2#8 = s by bv_omega, show s - 2#8 + 1#8 = s - 1#8 by bv_omega]
    show word (m.bus.stack _) (m.bus.stack _) + 1#16 = _
    rw [hloop]
    rfl
  have hsp₂ : m.returned.returned.sp = s := by
    show m.returned.sp + 2#8 = _
    rw [hsp₁]
    bv_omega
  -- in `MAIN_LOOP`
  obtain ⟨m', hlead, -, hpolled, hat⟩ := mainLoop_jump (q := True) hpc₂
  have hlead₂ := hlead.mono (J := fun _ => True) fun _ _ => trivial
  rw [← hstep₁] at hlead₂
  have hlead₁ := hlead₂.head trivial
  rw [← hstep] at hlead₁
  exact ⟨_, m', hlead₁.head trivial, hat.pc, hat.sp.trans hsp₂, hat.view,
    ((polled_after _ 1).trans (polled_after _ 1)).trans (hpolled trivial)⟩

/-- From the `RTS` of the program the monitor comes back to its prompt. Nothing else changes, but where that
`RTS` is read from a register. -/
lemma run_leaves {s : Byte} (h : Pending s m) (hsp : m.sp = s - 6#8) (hop : m.poll.fetch.1 = 0x60#8) :
    ∃ evs, ∃ m' : Machine, m.Leads (fun _ => True) evs m' ∧ m'.pc = 0xCF11#16 ∧ m'.sp = s ∧
      m'.bus.out = m.bus.out ∧ (Quiet m.pc → m'.view = m.view ∧ Polled m.bus.input m'.bus.input) := by
  have hret : m.ret = 0x00FB#16 := by
    unfold ret
    rw [hsp, show s - 6#8 + 2#8 = s - 4#8 by bv_omega, show s - 6#8 + 1#8 = s - 5#8 by bv_omega, h.trampoline]
    rfl
  have hsp₁ : m.sp + 2#8 = s - 4#8 := by
    rw [hsp]
    bv_omega
  obtain ⟨⟨ready, tape, hstep⟩, hquiet⟩ := step_rts_anywhere hop
  have hpending : Pending s m.step := by
    rw [hstep]
    exact ⟨h.loop, h.run, h.trampoline, h.rts⟩
  obtain ⟨evs, m', hlead, hpc', hsp', hview, hpolled⟩ :=
    trampoline_leaves hpending (by rw [hstep]; exact hret) (by rw [hstep]; exact hsp₁)
  refine ⟨_, m', hlead.head trivial, hpc', hsp', ?_, fun hq => ?_⟩
  · rw [show m'.bus.out = m.step.bus.out from congrArg View.out hview, hstep]
    rfl
  · rw [hquiet hq] at hview hpolled
    exact ⟨hview, (polled_after _ 1).trans hpolled⟩

lemma pushed_of_ne {stack : Byte → Byte} {sp b : Byte} {w : Word} (h : b ≠ sp) (h' : b ≠ sp - 1#8) :
    pushed stack sp w b = stack b := by
  unfold pushed
  rw [Function.update_of_ne h', Function.update_of_ne h]

lemma word_pushed (stack : Byte → Byte) (sp : Byte) (w : Word) :
    word (pushed stack sp w sp) (pushed stack sp w (sp - 1#8)) = w := by
  have hne : sp ≠ sp - 1#8 := by bv_omega
  unfold pushed
  rw [Function.update_self, Function.update_of_ne hne, Function.update_self, word_hi_lo]

lemma sub_ne_sub (s : Byte) {i j : Byte} (h : i ≠ j) : s - i ≠ s - j := by
  intro hs
  apply h
  bv_omega

/-- What stands on the stack after two calls. -/
lemma two_calls (stack : Byte → Byte) (s : Byte) (w w' : Word) :
    let stack' := pushed (pushed stack (s - 2#8) w) (s - 4#8) w'
    stack' (s - 0#8) = stack (s - 0#8) ∧ stack' (s - 1#8) = stack (s - 1#8) ∧
      word (stack' (s - 2#8)) (stack' (s - 3#8)) = w ∧ word (stack' (s - 4#8)) (stack' (s - 5#8)) = w' := by
  have e3 : s - 2#8 - 1#8 = s - 3#8 := by bv_omega
  have e5 : s - 4#8 - 1#8 = s - 5#8 := by bv_omega
  have hframe : ∀ i : Byte, i ≠ 4#8 → i ≠ 5#8 →
      pushed (pushed stack (s - 2#8) w) (s - 4#8) w' (s - i) = pushed stack (s - 2#8) w (s - i) := by
    intro i h4 h5
    refine pushed_of_ne (sub_ne_sub s h4) ?_
    rw [e5]
    exact sub_ne_sub s h5
  have hframe' : ∀ i : Byte, i ≠ 2#8 → i ≠ 3#8 → pushed stack (s - 2#8) w (s - i) = stack (s - i) := by
    intro i h2 h3
    refine pushed_of_ne (sub_ne_sub s h2) ?_
    rw [e3]
    exact sub_ne_sub s h3
  have hword := word_pushed stack (s - 2#8) w
  have hword' := word_pushed (pushed stack (s - 2#8) w) (s - 4#8) w'
  rw [e3] at hword
  rw [e5] at hword'
  refine ⟨?_, ?_, ?_, hword'⟩
  · rw [hframe 0#8 (by decide) (by decide), hframe' 0#8 (by decide) (by decide)]
  · rw [hframe 1#8 (by decide) (by decide), hframe' 1#8 (by decide) (by decide)]
  · rw [hframe 2#8 (by decide) (by decide), hframe 3#8 (by decide) (by decide), hword]

/-- What is pending at the entry of the program. -/
lemma Built.pending {m₀ : Machine} {s : Byte} {addr : Word} (h : Built m m₀) (hsp : m.sp = s - 2#8)
    (hret : m.ret = 0xCF2B#16) : Pending s (m₀.called addr) := by
  have hsp₀ : m₀.sp = s - 4#8 := by
    rw [h.sp, hsp]
    bv_omega
  have hs : (m₀.called addr).bus.stack = pushed (pushed m.bus.stack (s - 2#8) 0xCD12#16) (s - 4#8) 0x00FA#16 := by
    show pushed m₀.bus.stack m₀.sp (m₀.pc + 3#16 - 1#16) = _
    rw [h.pc, last_of_trampoline, h.stack, hsp₀, hsp]
  have e0 : s - 2#8 + 2#8 = s - 0#8 := by bv_omega
  have e1 : s - 2#8 + 1#8 = s - 1#8 := by bv_omega
  have hloop : word (m.bus.stack (s - 0#8)) (m.bus.stack (s - 1#8)) = 0xCF2A#16 := by
    unfold ret at hret
    rw [hsp, e0, e1] at hret
    bv_omega
  obtain ⟨h0, h1, hrun, htramp⟩ := two_calls m.bus.stack s 0xCD12#16 0x00FA#16
  rw [← hs] at h0 h1 hrun htramp
  rw [← h0, ← h1, BitVec.sub_zero] at hloop
  exact ⟨hloop, hrun, htramp, h.trampoline.2.2.2⟩

/-- The six bytes above the stack pointer of the entry. -/
lemma above_entry (s : Byte) : s - 6#8 + 1#8 + BitVec.ofNat 8 0 = s - 5#8 ∧
    s - 6#8 + 1#8 + BitVec.ofNat 8 1 = s - 4#8 ∧ s - 6#8 + 1#8 + BitVec.ofNat 8 2 = s - 3#8 ∧
    s - 6#8 + 1#8 + BitVec.ofNat 8 3 = s - 2#8 ∧ s - 6#8 + 1#8 + BitVec.ofNat 8 4 = s - 1#8 ∧
    s - 6#8 + 1#8 + BitVec.ofNat 8 5 = s := by
  revert s
  decide

/-- `Pending` is about six bytes above the stack pointer and one in page 0. -/
lemma Pending.of_same {s : Byte} {m₁ m₂ : Machine} (h : Pending s m₁) (hrts : m₂.bus.low 0xFB#8 = m₁.bus.low 0xFB#8)
    (hstack : ∀ i < 6, m₂.bus.stack (s - 6#8 + 1#8 + BitVec.ofNat 8 i) =
      m₁.bus.stack (s - 6#8 + 1#8 + BitVec.ofNat 8 i)) : Pending s m₂ := by
  obtain ⟨e0, e1, e2, e3, e4, e5⟩ := above_entry s
  have h0 := hstack 0 (by decide)
  have h1 := hstack 1 (by decide)
  have h2 := hstack 2 (by decide)
  have h3 := hstack 3 (by decide)
  have h4 := hstack 4 (by decide)
  have h5 := hstack 5 (by decide)
  rw [e0] at h0
  rw [e1] at h1
  rw [e2] at h2
  rw [e3] at h3
  rw [e4] at h4
  rw [e5] at h5
  obtain ⟨hloop, hrun, htramp, hrts₁⟩ := h
  refine ⟨?_, ?_, ?_, ?_⟩
  · rw [h5, h4, hloop]
  · rw [h3, h2, hrun]
  · rw [h1, h0, htramp]
  · rw [hrts, hrts₁]

end Machine

namespace System

/-- The next instruction is an `RTS` with the stack pointer of the entry, and `$00FB` and the six bytes
above the stack pointer are those of the entry. -/
structure Leaves (entered left : System) : Prop where
  opcode : left.poll.cpu.opcode = cOpRTS
  sp : left.cpu.sp = entered.cpu.sp
  rts : left.ram 0x00FB#16 = entered.ram 0x00FB#16
  stack : ∀ i < 6, left.ram (word 1#8 (entered.cpu.sp + 1#8 + BitVec.ofNat 8 i)) =
    entered.ram (word 1#8 (entered.cpu.sp + 1#8 + BitVec.ofNat 8 i))

lemma Shows.opcode {sys : System} {m : Machine} (h : sys.Shows m) : sys.poll.cpu.opcode = m.poll.fetch.1 := by
  have hp := h.poll
  have hread := Board.busMap_wire.read m.poll.bus m.poll.pc
  have hbus : sys.poll.cpu.bus = m.poll.bus.wire := congrArg Arch.bus hp.arch
  unfold CPU6502.opcode
  rw [hbus, hp.pc, hread]
  rfl

/-- The monitor at its prompt prints it, whatever is in the registers. -/
lemma Shows.prompts {sys : System} {m : Machine} (h : sys.Shows m) (hpc : m.pc = 0xCF11#16) :
    ∃ n prompted, sys.steps n = some prompted ∧ prompted.cpu.pc = 0xCF1C#16 ∧
      prompted.tty.out = sys.tty.out ++ Machine.prompt := by
  obtain ⟨m', ⟨n, hlead⟩, -, -, hpc', -, -, hview⟩ := Machine.mainLoop_prompt (q := True) hpc
  obtain ⟨prompted, hsteps, hshows, -⟩ := h.steps n
  rw [hlead.run] at hshows
  have hout : m'.bus.out = m.bus.out ++ Machine.prompt := congrArg View.out hview
  exact ⟨n, prompted, hsteps, by rw [hshows.pc, hpc'], by rw [hshows.out, hout, h.out]⟩

/-- What is pending when the program leaves. -/
lemma Leaves.pending {entered left : System} {m m' : Machine} {s : Byte} (hleaves : entered.Leaves left)
    (h : entered.Shows m) (h' : left.Shows m') (hsp : m.sp = s - 6#8) (hpending : m.Pending s) :
    m'.Pending s ∧ m'.sp = s - 6#8 ∧ m'.poll.fetch.1 = 0x60#8 := by
  obtain ⟨hop, hsp', hrts, hstack⟩ := hleaves
  rw [h'.opcode] at hop
  rw [h.sp, h'.sp, hsp] at hsp'
  rw [h.sp, hsp] at hstack
  rw [show (0x00FB#16 : Word) = word 0#8 0xFB#8 by decide, h.ram_zp, h'.ram_zp] at hrts
  refine ⟨hpending.of_same hrts fun i hi => ?_, hsp', hop⟩
  have hbyte := hstack i hi
  rwa [h.ram_stack, h'.ram_stack] at hbyte

/-- From the `RTS` of the program the monitor comes back to its prompt. -/
lemma Shows.comes_back {entered left : System} {m m' : Machine} {s : Byte} (h : entered.Shows m)
    (hsp : m.sp = s - 6#8) (hpending : m.Pending s) (h' : left.Shows m') (hleaves : entered.Leaves left) :
    ∃ n back m'', left.steps n = some back ∧ back.Shows m'' ∧ m''.pc = 0xCF11#16 ∧ m''.sp = s ∧
      back.tty.out = left.tty.out ∧
      (Quiet m'.pc → m''.view = m'.view ∧ Polled m'.bus.input m''.bus.input) := by
  obtain ⟨hpending', hsp', hop⟩ := hleaves.pending h h' hsp hpending
  obtain ⟨evs, m'', ⟨n, hlead⟩, hpc, hsp'', hout, hquiet⟩ := Machine.run_leaves hpending' hsp' hop
  obtain ⟨back, hsteps, hshows, -⟩ := h'.steps n
  rw [hlead.run] at hshows
  exact ⟨n, back, m'', hsteps, hshows, hpc, hsp'', by rw [hshows.out, hout, h'.out], hquiet⟩

/-- What `R` has come to before the program: the machine at the trampoline, and what a step makes of it. -/
structure Enters (sys : System) (keys : List Byte) (addr : Word) (m : Machine) : Prop where
  pc : m.pc = 0x00F8#16
  trampoline : Machine.Trampoline addr m.bus.low
  step : m.step = m.called addr
  sp : m.step.sp = sys.cpu.sp - 6#8
  pending : m.step.Pending sys.cpu.sp
  out : m.step.bus.out = sys.tty.out ++ heading keys
  low : ∀ b : Byte, b < 0xF0#8 ∨ 0xFD#8 < b → m.step.bus.low b = sys.machine.bus.low b
  high : m.step.bus.high = sys.machine.bus.high
  tape : m.step.bus.tape = sys.machine.bus.tape
  input : sys.machine.bus.input.Delivers (keys ++ [0x0D#8]) m.step.bus.input

/-- The `R` of a line, up to the program. -/
lemma line_enters {sys : System} {keys : List Byte} {addr : Word} (hready : sys.Ready)
    (hpc : sys.cpu.pc = 0xCF11#16) (hkeys : sys.Hears keys) (hcmd : command (typed keys) = .run addr) :
    ∃ n built m, sys.steps n = some built ∧ built.Shows m ∧ sys.Enters keys addr m := by
  have hm := hready.shows
  have hpc' : sys.machine.pc = 0xCF11#16 := hpc
  have hin := hkeys.2
  rw [hm.input] at hin
  have hd : digits (typed keys) ≠ [] := by
    intro hd
    rw [command, if_pos hd] at hcmd
    cases hcmd
  -- the line is read
  obtain ⟨m₁, hlead₁, -, -, ⟨hpc₁, hsp₁, hin₁, x, work, hview₁⟩, hret, harmed⟩ :=
    Machine.mainLoop_orders hpc' hkeys.1 hin hd
  rw [hcmd] at hpc₁ harmed
  have haddr : m₁.bus.work.addr = addr := harmed
  -- the trampoline is built
  obtain ⟨evs, m₂, hlead₂, hbuilt⟩ := Machine.run_builds hpc₁
  obtain ⟨n, hlead⟩ := (hlead₁.mono fun _ _ => trivial).trans hlead₂
  obtain ⟨built, hsteps, hshows, -⟩ := hm.steps n
  rw [hlead.run] at hshows
  have htramp := hbuilt.trampoline
  rw [haddr] at htramp
  have hstep := Machine.step_trampoline hbuilt.pc htramp
  refine ⟨n, built, m₂, hsteps, hshows, hbuilt.pc, htramp, hstep, ?_, ?_, ?_, fun b hb => ?_, ?_, ?_, ?_⟩
  · rw [hstep]
    show m₂.sp - 2#8 = _
    rw [hbuilt.sp, hsp₁, hm.sp]
    bv_omega
  · rw [hstep]
    exact hbuilt.pending hsp₁ hret
  · rw [hstep, hm.out]
    exact (congrArg View.out hbuilt.view).trans (congrArg View.out hview₁)
  · rw [hstep]
    exact (hbuilt.low b hb).trans (congrFun (congrArg View.low hview₁) b)
  · rw [hstep]
    exact (congrArg View.high hbuilt.view).trans (congrArg View.high hview₁)
  · rw [hstep]
    exact (congrArg View.tape hbuilt.view).trans (congrArg View.tape hview₁)
  · rw [hstep]
    have hpolled : Polled m₁.bus.input (m₂.called addr).bus.input := hbuilt.input.trans (polled_after _ 1)
    simpa using hin₁.trans (Input.delivers_of_polled hpolled)

/-- `R` enters the program through the trampoline, and when the program leaves the monitor is at its
prompt again. -/
theorem run_comes_back {sys : System} (hready : sys.Ready) (hpc : sys.cpu.pc = 0xCF11#16)
    {keys addrText : List Byte} (hkeys : sys.Hears keys) (hline : typed keys = addrText ++ [0x20#8, 0x52#8])
    (haddr : HexRun 4 addrText) :
    let addr : Word := BitVec.ofNat 16 (hexNumber addrText)
    ∃ n built entered, sys.steps n = some built ∧ built.cpu.pc = 0x00F8#16 ∧
      built.ram 0x00F8#16 = 0x20#8 ∧ built.ram 0x00F9#16 = addr.lo ∧ built.ram 0x00FA#16 = addr.hi ∧
      built.ram 0x00FB#16 = 0x60#8 ∧
      built.step = some entered ∧ entered.cpu.pc = addr ∧ entered.cpu.sp = sys.cpu.sp - 6#8 ∧
      (∀ w : Word, 0x0200#16 ≤ w → w < 0x8000#16 → entered.ram w = sys.ram w) ∧
      ∀ k left, entered.steps k = some left → entered.Leaves left →
        ∃ n' back, left.steps n' = some back ∧ back.cpu.pc = 0xCF11#16 ∧ back.cpu.sp = sys.cpu.sp ∧
          back.tty.out = left.tty.out ∧
          ∃ n'' prompted, back.steps n'' = some prompted ∧ prompted.cpu.pc = 0xCF1C#16 ∧
            prompted.tty.out = back.tty.out ++ Machine.prompt := by
  intro addr
  have hm := hready.shows
  have hcmd : command (typed keys) = .run addr := by rw [hline, command_run haddr]
  obtain ⟨n, built, m, hsteps, hshows, henters⟩ := line_enters hready hpc hkeys hcmd
  obtain ⟨entered, hstep, hentered⟩ := hshows.step
  have hcell : ∀ b, built.ram (word 0#8 b) = m.bus.zp b := fun b => hshows.ram_zp b
  have htramp := henters.trampoline
  refine ⟨n, built, entered, hsteps, by rw [hshows.pc, henters.pc], (hcell 0xF8#8).trans htramp.1,
    (hcell 0xF9#8).trans htramp.2.1, (hcell 0xFA#8).trans htramp.2.2.1, (hcell 0xFB#8).trans htramp.2.2.2,
    hstep, ?_, hentered.sp.trans henters.sp, fun w hw _ => ?_, fun k left hk hleaves => ?_⟩
  · rw [hentered.pc, henters.step]
    rfl
  · have hhi : ¬w.hi < 2#8 := by
      have hhi := w.hi_toNat
      simp only [BitVec.lt_def, BitVec.le_def, BitVec.toNat_ofNat] at hw ⊢
      omega
    refine hm.ram_eq hentered (fun h0 => ?_) (fun h1 => ?_) (by rw [henters.high])
    · rw [h0] at hhi
      exact absurd (by decide) hhi
    · rw [h1] at hhi
      exact absurd (by decide) hhi
  · obtain ⟨left', hk', hleft, -⟩ := hentered.steps k
    rw [hk] at hk'
    cases hk'
    obtain ⟨n', back, m', hback, hshows', hpc', hsp', hout, -⟩ :=
      hentered.comes_back henters.sp henters.pending hleft hleaves
    exact ⟨n', back, hback, hshows'.pc.trans hpc', hshows'.sp.trans hsp', hout, hshows'.prompts hpc'⟩

/-- `INX` and `RTS` at `$0200`. -/
def countingCode (addr : Word) : Byte :=
  if addr = 0x0200#16 then 0xE8#8 else if addr = 0x0201#16 then 0x60#8 else 0#8

/-- The program is in memory, and `200 R` is typed. -/
def counting : System where
  term i := ([0x32#8, 0x30#8, 0x30#8, 0x20#8, 0x52#8] ++ [0x0D#8])[i]?
  cpu :=
    { bus := Board.wire ⟨default, fun _ => 0#8, fun _ => 0#8, countingCode, ⟨false, 0#8, fun _ => none⟩, [], default⟩
      pc := 0xCF11#16 }

lemma fetch_counting {m : Machine} {addr : Word} {v : Byte} (hpc : m.pc = addr) (hfree : Free addr)
    (hmem : m.view.mem addr = v) : m.poll.fetch = (v, { m.poll with pc := addr + 1#16 }) := by
  have hread := Machine.read_of (Board.read_of_clear hfree.clear m.poll.bus (v := m.view) rfl rfl)
  have hpoll : m.poll.pc = addr := hpc
  unfold Arch.fetch
  rw [hpoll, hread, hmem]

/-- One step of the program. -/
lemma step_counting {m : Machine} (hpc : m.pc = 0x0200#16) (hmem : m.view.mem 0x0200#16 = 0xE8#8) : m.step =
    { m with
      x := m.x + 1#8
      p := m.p.zn (m.x + 1#8)
      pc := 0x0201#16
      bus := { m.bus with input := m.bus.input.after 1 } } := by
  have hfetch := fetch_counting hpc (by decide) hmem
  have hd : Isa.decode m.poll.fetch.1 = some (.INX, .implied) := by
    rw [hfetch]
    show Isa.decode 0xE8#8 = _
    decide
  have hstep : m.step = Machine.exec .INX .implied m.poll.fetch.2 := by
    unfold Machine.step
    rw [CPU6502.codeStep_of_mem hd (by decide), Isa.step_listed hd (by decide)]
    rfl
  rw [hstep, hfetch, Machine.exec_inx]
  rfl

/-- The program leaves after its first instruction. -/
lemma leaves_counting {entered : System} (hready : entered.Ready) (hpc : entered.cpu.pc = 0x0200#16)
    (hop : entered.ram 0x0200#16 = 0xE8#8) (hop' : entered.ram 0x0201#16 = 0x60#8) :
    ∃ left, entered.steps 1 = some left ∧ left.cpu.x = entered.cpu.x + 1#8 ∧ entered.Leaves left := by
  have hm := hready.shows
  have hfree : Free 0x0200#16 := by decide
  have hfree' : Free 0x0201#16 := by decide
  rw [hm.ram_mem hfree.clear hfree.hi_lt] at hop
  rw [hm.ram_mem hfree'.clear hfree'.hi_lt] at hop'
  have hstep := step_counting (m := entered.machine) hpc hop
  have hpc' : entered.machine.step.pc = 0x0201#16 := by rw [hstep]
  have hmem : entered.machine.step.view.mem 0x0201#16 = 0x60#8 := by
    rw [hstep]
    exact hop'
  obtain ⟨left, hleft, hshows⟩ := hm.step
  have hone : entered.steps 1 = some left := by
    rw [steps, hleft]
    rfl
  refine ⟨left, hone, ?_, ?_, ?_, ?_, fun i _ => ?_⟩
  · rw [hshows.x, hstep, hm.x]
  · rw [hshows.opcode, fetch_counting hpc' hfree' hmem]
    rfl
  · rw [hshows.sp, hstep, hm.sp]
  · rw [show (0x00FB#16 : Word) = word 0#8 0xFB#8 by decide, hshows.ram_zp, hm.ram_zp, hstep]
    rfl
  · rw [hshows.ram_stack, hm.ram_stack, hstep]

/-- The program counts X and comes back. -/
theorem run_comes_back_counting : ∃ n n' n'' : Nat, ∃ built entered left back prompted : System,
    counting.steps n = some built ∧ built.step = some entered ∧ entered.cpu.pc = 0x0200#16 ∧
    entered.steps 1 = some left ∧ left.cpu.x = entered.cpu.x + 1#8 ∧ left.steps n' = some back ∧
    back.cpu.pc = 0xCF11#16 ∧ back.cpu.sp = 0#8 ∧ back.steps n'' = some prompted ∧
    prompted.tty.out = back.tty.out ++ Machine.prompt := by
  have hbytes : counting.input.bytes 6 = [0x32#8, 0x30#8, 0x30#8, 0x20#8, 0x52#8] ++ [0x0D#8] :=
    range_filterMap_getElem? _
  have hhears : counting.Hears [0x32#8, 0x30#8, 0x30#8, 0x20#8, 0x52#8] := ⟨by decide, 6, by rw [hbytes]⟩
  have hready : counting.Ready := ready_of_wire ⟨rfl, rfl, rfl⟩ rfl
  have haddr : HexRun 4 [0x32#8, 0x30#8, 0x30#8] := ⟨by decide, by decide, by decide⟩
  obtain ⟨n, built, entered, hsteps, -, -, -, -, -, hentered, hpc, -, hram, hreturn⟩ :=
    run_comes_back hready rfl hhears (by decide) haddr
  obtain ⟨built', hsteps', hbuilt, -⟩ := hready.shows.steps n
  rw [hsteps] at hsteps'
  cases hsteps'
  obtain ⟨entered', hentered', hshows⟩ := hbuilt.step
  rw [hentered] at hentered'
  cases hentered'
  obtain ⟨left, hleft, hx, hleaves⟩ := leaves_counting hshows.ready hpc
    (hram 0x0200#16 (by decide) (by decide)) (hram 0x0201#16 (by decide) (by decide))
  obtain ⟨n', back, hback, hpc', hsp', -, n'', prompted, hprompted, -, hout⟩ := hreturn 1 left hleft hleaves
  exact ⟨n, n', n'', built, entered, left, back, prompted, hsteps, hentered, hpc, hleft, hx, hback, hpc', hsp',
    hprompted, hout⟩

end System

end Sys6
