import Sys6.Monitor.Restore
import Sys6.Monitor.Trampoline

/-!
# Sessions with programs

`R` gives the machine away. Of a program nothing is taken here but a contract: what it prints, what it leaves
in memory and on the cassette, and that it comes to an `RTS` with the stack as it has got it. The sessions of
the desk go on through such programs, the `R` that enters them and the return through the trampoline.
-/

namespace Sys6

open Isa (Arch)

namespace Machine

variable {m : Machine}

/-- The trampoline is out of sight of the desk. -/
lemma pictures_of_low {v v' : View} {d : Desk} (h : v.Pictures d)
    (hlow : ∀ b : Byte, b < 0xF0#8 ∨ 0xFD#8 < b → v'.low b = v.low b) (hhigh : v'.high = v.high)
    (htape : v'.tape = v.tape) : v'.Pictures d := by
  refine ⟨fun addr hplain => ?_, htape ▸ h.tape⟩
  rw [← h.mem addr hplain]
  unfold View.mem
  rw [hhigh]
  split_ifs with h0
  · refine hlow addr.lo ?_
    have hoff := hplain.high
    have hword : addr.toNat = addr.lo.toNat := by
      rw [← word_hi_lo addr, h0, word_toNat]
      simp
    simp only [BitVec.le_def, BitVec.lt_def, BitVec.toNat_ofNat] at hoff ⊢
    omega
  all_goals rfl

variable {d : Desk}

lemma fetch_plain (hp : m.view.Pictures d) (hplain : Plain m.pc) :
    m.fetch = (d.mem m.pc, { m with pc := m.pc + 1#16 }) := by
  have hread := read_of (Board.read_of_clear hplain.clear m.bus (v := m.view) rfl rfl)
  unfold Arch.fetch
  rw [hread, hp.mem m.pc hplain]

/-- The operand of an instruction that the desk has at `pc`. -/
lemma fetchOperand_plain {pc : Word} (hp : m.view.Pictures d) (hm : m.pc = pc + 1#16) (h1 : Plain (pc + 1#16))
    (h2 : Plain (pc + 2#16)) (mode : Isa.Mode) : m.fetchOperand mode =
      let o := operandOf (d.mem (pc + 1#16)) (d.mem (pc + 2#16)) mode
      (o, { m with pc := pc + o.length }) := by
  have e2 : pc + 1#16 + 1#16 = pc + 2#16 := by bv_omega
  have e3 : pc + 2#16 + 1#16 = pc + 3#16 := by bv_omega
  have hf : m.fetch = (d.mem (pc + 1#16), { m with pc := pc + 2#16 }) := by
    rw [fetch_plain hp (by rwa [hm]), hm, e2]
  have hw : m.fetchWord = (word (d.mem (pc + 2#16)) (d.mem (pc + 1#16)), { m with pc := pc + 3#16 }) := by
    have hp' : View.Pictures (view { m with pc := pc + 2#16 }) d := ⟨hp.mem, hp.tape⟩
    simp only [Arch.fetchWord, hf, fetch_plain hp' h2, e3]
  cases mode with
  | accumulator | implied => simp only [Arch.fetchOperand, operandOf, Isa.Operand.length, ← hm]
  | _ => simp only [Arch.fetchOperand, operandOf, Isa.Operand.length, hf, hw]

/-- A step at an instruction that the desk has in its memory. -/
lemma step_plain {mn : Isa.Mnemonic} {mode : Isa.Mode} (hp : m.view.Pictures d) (h0 : Plain m.pc)
    (h1 : Plain (m.pc + 1#16)) (h2 : Plain (m.pc + 2#16)) (hd : Isa.decode (d.mem m.pc) = some (mn, mode))
    (hmn : mn ∉ [Isa.Mnemonic.BRK, .PHP, .JSR, .PHA, .PLA]) :
    m.step = execLine ⟨mn, operandOf (d.mem (m.pc + 1#16)) (d.mem (m.pc + 2#16)) mode, .plain⟩ m := by
  have hp' : m.poll.view.Pictures d := ⟨hp.mem, hp.tape⟩
  have hfetch : m.poll.fetch = (d.mem m.pc, { m.poll with pc := m.pc + 1#16 }) := fetch_plain hp' h0
  have hp₁ : View.Pictures (view { m.poll with pc := m.pc + 1#16 }) d := ⟨hp.mem, hp.tape⟩
  have hoperand := fetchOperand_plain hp₁ rfl h1 h2 mode
  simp only [List.mem_cons, List.not_mem_nil, or_false, not_or] at hmn
  obtain ⟨hbrk, hphp, hjsr, hpha, hpla⟩ := hmn
  have hd' : Isa.decode m.poll.fetch.1 = some (mn, mode) := by
    rw [hfetch]
    exact hd
  unfold step
  rw [CPU6502.codeStep_of_mem hd' (by simp [hbrk, hphp])]
  unfold Isa.step
  simp only [hfetch, hd, hoperand]
  cases mn with
  | JSR => exact absurd rfl hjsr
  | PHA => exact absurd rfl hpha
  | PLA => exact absurd rfl hpla
  | _ => rfl

/-- `LDA #c` and `JMP PUTCHAR`. -/
def putcCode (c : Byte) : List Byte := [0xA9#8, c, 0x4C#8, 0x00#8, 0xC1#8]

/-- `LDA #c`. -/
lemma step_lda_plain {c : Byte} (hp : m.view.Pictures d) (h0 : Plain m.pc) (h1 : Plain (m.pc + 1#16))
    (h2 : Plain (m.pc + 2#16)) (e0 : d.mem m.pc = 0xA9#8) (e1 : d.mem (m.pc + 1#16) = c) : m.step =
      { m with a := c, p := m.p.zn c, pc := m.pc + 2#16, bus := { m.bus with input := m.bus.input.after 1 } } := by
  have hd : Isa.decode (d.mem m.pc) = some (.LDA, .immediate) := by
    rw [e0]
    decide
  rw [step_plain hp h0 h1 h2 hd (by decide), e1]
  simp [execLine, operandOf, Isa.Operand.length]

/-- `JMP w`. -/
lemma step_jmp_plain {w : Word} (hp : m.view.Pictures d) (h0 : Plain m.pc) (h1 : Plain (m.pc + 1#16))
    (h2 : Plain (m.pc + 2#16)) (e0 : d.mem m.pc = 0x4C#8) (e1 : d.mem (m.pc + 1#16) = w.lo)
    (e2 : d.mem (m.pc + 2#16) = w.hi) :
    m.step = { m with pc := w, bus := { m.bus with input := m.bus.input.after 1 } } := by
  have hd : Isa.decode (d.mem m.pc) = some (.JMP, .absolute) := by
    rw [e0]
    decide
  rw [step_plain hp h0 h1 h2 hd (by decide), e1, e2]
  simp [execLine, operandOf, Isa.Operand.length]

/-- Up to the `RTS` of `PUTCHAR`. -/
lemma putc_steps {c : Byte} (hp : m.view.Pictures d) (hcode : ∀ i (hi : i < 5), Plain (m.pc + BitVec.ofNat 16 i) ∧
    d.mem (m.pc + BitVec.ofNat 16 i) = (putcCode c)[i]) : step^[3] m =
      { m with
        a := c
        p := m.p.zn c
        pc := 0xC103#16
        bus := { m.bus with input := m.bus.input.after 3, out := m.bus.out ++ [c] } } := by
  obtain ⟨h0, e0⟩ := hcode 0 (by decide)
  obtain ⟨h1, e1⟩ := hcode 1 (by decide)
  obtain ⟨h2, e2⟩ := hcode 2 (by decide)
  obtain ⟨h3, e3⟩ := hcode 3 (by decide)
  obtain ⟨h4, e4⟩ := hcode 4 (by decide)
  have a3 : m.pc + 2#16 + 1#16 = m.pc + 3#16 := by bv_omega
  have a4 : m.pc + 2#16 + 2#16 = m.pc + 4#16 := by bv_omega
  rw [show m.pc + BitVec.ofNat 16 0 = m.pc from BitVec.add_zero _] at h0 e0
  have hlda := step_lda_plain (c := c) hp h0 h1 h2 e0 e1
  have hp₁ : m.step.view.Pictures d := by
    rw [hlda]
    exact ⟨hp.mem, hp.tape⟩
  have hpc₁ : m.step.pc = m.pc + 2#16 := by rw [hlda]
  have hjmp := step_jmp_plain (w := 0xC100#16) hp₁ (by rwa [hpc₁]) (by rw [hpc₁, a3]; exact h3)
    (by rw [hpc₁, a4]; exact h4) (by rw [hpc₁]; exact e2) (by rw [hpc₁, a3]; exact e3) (by rw [hpc₁, a4]; exact e4)
  have hsta : ∀ m' : Machine, m'.pc = 0xC100#16 → m'.step = m'.execLine ⟨.STA, .absolute 0x8001#16, .plain⟩ :=
    fun m' hpc => step_line (by rw [hpc]; exact line_C100)
  show m.step.step.step = _
  rw [hjmp, hlda, hsta _ rfl]
  simp [execLine, Isa.Operand.length]

end Machine

/-- What the programs do, by the addresses they start at: what is printed, and the desk that is left. -/
abbrev Programs := Word → Desk → Option (List Byte × Desk)

namespace Desk

/-- The answer to any command. -/
def answerWith (programs : Programs) (d : Desk) : Command → Option (List Byte × Desk)
  | .run a => programs a d
  | cmd => cmd.answer d

def replyWith (programs : Programs) (d : Desk) (keys : List Byte) : Option (List Byte × Desk) :=
  (d.answerWith programs (command (typed keys))).map fun r => (heading keys ++ r.1, r.2)

def sessionWith (programs : Programs) (d : Desk) (lines : List (List Byte)) : Option (List Byte × Desk) :=
  Dialogue.run (replyWith programs) d lines

/-- What is asked of the lines. Nothing is asked of those that enter a program. -/
def OrderlyWith (programs : Programs) (d : Desk) (lines : List (List Byte)) : Prop :=
  Dialogue.Along (replyWith programs) (fun d keys => 0x0D#8 ∉ keys ∧
    ((command (typed keys)).isRun = false → (command (typed keys)).Proper d)) d lines

variable {programs : Programs} {d : Desk} {cmd : Command}

lemma answerWith_of_not_run (h : cmd.isRun = false) : d.answerWith programs cmd = cmd.answer d := by
  cases cmd with
  | run a => cases h
  | _ => rfl

end Desk

namespace System

/-- Wherever it is entered with what `d` has in memory and on the cassette, the program at `a` comes to an
`RTS` that leaves it, and has printed `text` and left `d'`. Keys that are typed in the meantime wait. -/
def Fulfils (a : Word) (d : Desk) (text : List Byte) (d' : Desk) : Prop :=
  ∀ entered : System, entered.Ready → entered.cpu.pc = a → entered.Pictures d →
    ∃ k left, entered.steps k = some left ∧ entered.Leaves left ∧ Quiet left.cpu.pc ∧
      left.tty.out = entered.tty.out ++ text ∧ left.Pictures d' ∧
      ∀ keys, entered.input.Yields keys → left.input.Yields keys

variable {sys : System} {d d' : Desk} {keys text : List Byte} {a : Word}

/-- The `RTS` of the program, up to the prompt. -/
lemma line_leaves {entered left : System} {m : Machine} {s : Byte} {k : Nat} (h : entered.Shows m)
    (hsp : m.sp = s - 6#8) (hpending : m.Pending s) (hsteps : entered.steps k = some left)
    (hleaves : entered.Leaves left) (hquiet : Quiet left.cpu.pc) (hp : left.Pictures d) :
    ∃ n back, left.steps n = some back ∧ back.Ready ∧ back.cpu.pc = 0xCF11#16 ∧ back.cpu.sp = s ∧
      back.tty.out = left.tty.out ∧ back.Pictures d ∧ ∀ keys, left.input.Yields keys → back.input.Yields keys := by
  obtain ⟨left', hsteps', hleft, -⟩ := h.steps k
  rw [hsteps] at hsteps'
  cases hsteps'
  obtain ⟨n, back, m', hback, hshows, hpc', hsp', hout, hrest⟩ := h.comes_back hsp hpending hleft hleaves
  obtain ⟨hview, hpolled⟩ := hrest (hleft.pc ▸ hquiet)
  refine ⟨n, back, hback, hshows.ready, hshows.pc.trans hpc', hshows.sp.trans hsp', hout, ?_, fun keys hin => ?_⟩
  · rw [pictures_iff hshows, hview, ← pictures_iff hleft]
    exact hp
  · rw [hshows.input]
    rw [hleft.input] at hin
    exact Input.Yields.tail [] hin (Input.delivers_of_polled hpolled)

lemma steps_trans {sys₁ sys₂ : System} {n n' : Nat} (h : sys.steps n = some sys₁) (h' : sys₁.steps n' = some sys₂) :
    sys.steps (n + n') = some sys₂ := by
  induction n generalizing sys with
  | zero =>
    cases h
    rwa [Nat.zero_add]
  | succ n ih =>
    rw [steps] at h
    obtain ⟨sys₀, hstep, hrest⟩ := Option.bind_eq_some_iff.mp h
    rw [Nat.add_right_comm, steps, hstep]
    exact ih hrest

/-- A run from prompt to prompt in which `text` appears. -/
def Prints (sys : System) (text : List Byte) (sys' : System) : Prop :=
  ∃ n, sys.steps n = some sys' ∧ sys'.cpu.sp = sys.cpu.sp ∧ sys'.tty.out = sys.tty.out ++ text

lemma Prints.refl (sys : System) : sys.Prints [] sys := ⟨0, rfl, rfl, (List.append_nil _).symm⟩

lemma Prints.trans {sys₁ sys₂ : System} {more : List Byte} (h : sys.Prints text sys₁) (h' : sys₁.Prints more sys₂) :
    sys.Prints (text ++ more) sys₂ := by
  obtain ⟨n, hsteps, hsp, hout⟩ := h
  obtain ⟨n', hsteps', hsp', hout'⟩ := h'
  exact ⟨n + n', steps_trans hsteps hsteps', hsp'.trans hsp, by rw [hout', hout, List.append_assoc]⟩

/-- The system is at its prompt with the desk, and these lines and keys are to come. -/
structure Awaits (more : List Byte) (sys : System) (d : Desk) (lines : List (List Byte)) : Prop where
  ready : sys.Ready
  pc : sys.cpu.pc = 0xCF11#16
  pictures : sys.Pictures d
  input : sys.input.Yields (strokes lines ++ more)

/-- A line that enters a program. -/
lemma program_line {more : List Byte} {lines : List (List Byte)} (h : Awaits more sys d (keys :: lines))
    (hcr : 0x0D#8 ∉ keys) (hcmd : command (typed keys) = .run a) (hfulfils : Fulfils a d text d') :
    ∃ sys', sys.Prints (heading keys ++ text) sys' ∧ Awaits more sys' d' lines := by
  have hin := h.input
  rw [strokes_cons, List.append_assoc] at hin
  -- into the program
  obtain ⟨n, built, m, hbuilt, hm, henters⟩ := line_enters h.ready h.pc ⟨hcr, hin.left⟩ hcmd
  obtain ⟨entered, hstep, hshows⟩ := hm.step
  have hpc : entered.cpu.pc = a := by
    rw [hshows.pc, henters.step]
    rfl
  have hp : entered.Pictures d := (pictures_iff hshows).mpr <|
    Machine.pictures_of_low ((pictures_iff h.ready.shows).mp h.pictures) henters.low henters.high henters.tape
  have hrest : entered.input.Yields (strokes lines ++ more) := by
    have hall := h.input
    rw [h.ready.shows.input, strokes_cons, List.append_assoc] at hall
    rw [hshows.input]
    exact hall.tail _ henters.input
  have hone : built.steps 1 = some entered := by
    rw [steps, hstep]
    rfl
  -- the program, and back
  obtain ⟨k, left, hrun, hleaves, hquiet, hout, hp', hkept⟩ := hfulfils entered hshows.ready hpc hp
  obtain ⟨n', back, hback, hready, hpc', hsp', hout', hp'', hkept'⟩ :=
    line_leaves hshows henters.sp henters.pending hrun hleaves hquiet hp'
  have hsteps := steps_trans (steps_trans (steps_trans hbuilt hone) hrun) hback
  refine ⟨back, ⟨n + 1 + k + n', hsteps, hsp', ?_⟩, hready, hpc', hp'', hkept' _ (hkept _ hrest)⟩
  rw [hout', hout, hshows.out, henters.out]
  simp only [List.append_assoc]

/-- One that does not. -/
lemma command_line {more : List Byte} {lines : List (List Byte)} (h : Awaits more sys d (keys :: lines))
    (hcr : 0x0D#8 ∉ keys) (hproper : (command (typed keys)).Proper d)
    (hanswer : (command (typed keys)).answer d = some (text, d')) :
    ∃ sys', sys.Prints (heading keys ++ text) sys' ∧ Awaits more sys' d' lines := by
  have hin := h.input
  rw [strokes_cons, List.append_assoc] at hin
  have hkeys : sys.Hears keys := ⟨hcr, hin.left⟩
  have hends : ¬(command (typed keys)).Endless d.tape := by
    rw [← Command.answer_eq_none hproper.stays, hanswer]
    simp
  obtain ⟨n, sys', text', d'', hround, hready, hanswer', hout, hp', hmore⟩ :=
    round_answered h.ready h.pc hkeys h.pictures hproper hends
  rw [hanswer] at hanswer'
  obtain ⟨rfl, rfl⟩ := Prod.mk.inj (Option.some.inj hanswer')
  have htape : sys.machine.bus.tape.Alike d.tape := ((pictures_iff h.ready.shows).mp h.pictures).tape
  have hclear : ∀ addr ∈ (command (typed keys)).stores sys.machine.bus.tape, Clear addr := by
    rw [Command.stores_congr htape]
    exact fun addr hmem => (hproper.stores addr hmem).clear
  obtain ⟨m', hshows, hserved⟩ := served_of_round h.ready h.pc hkeys hproper.stays hclear hround
  refine ⟨sys', ⟨n, hround.run, hshows.sp.trans hserved.sp, ?_⟩, hready, hround.pc, hp', hmore _ hin⟩
  rw [hout, List.append_assoc]

/-- Any line. -/
lemma line_carried {programs : Programs} {more : List Byte} {lines : List (List Byte)}
    (hprograms : ∀ a d text d', programs a d = some (text, d') → Fulfils a d text d')
    (h : Awaits more sys d (keys :: lines)) (hcr : 0x0D#8 ∉ keys)
    (hproper : (command (typed keys)).isRun = false → (command (typed keys)).Proper d)
    (hreply : d.replyWith programs keys = some (text, d')) :
    ∃ sys', sys.Prints text sys' ∧ Awaits more sys' d' lines := by
  obtain ⟨⟨text', d''⟩, hanswer, heq⟩ := Option.map_eq_some_iff.mp hreply
  obtain ⟨rfl, rfl⟩ := Prod.mk.inj heq
  by_cases hrun : (command (typed keys)).isRun = false
  · rw [Desk.answerWith_of_not_run hrun] at hanswer
    exact command_line h hcr (hproper hrun) hanswer
  · cases hcmd : command (typed keys) with
    | run a =>
      rw [hcmd] at hanswer
      exact program_line h hcr hcmd (hprograms a d text' d'' hanswer)
    | _ =>
      rw [hcmd] at hrun
      exact absurd rfl hrun

/-- A session in which programs are entered, by the contracts of these: what is printed, and what is left of
memory, cassette and stack, is what the desk says line by line. -/
theorem programs_session {programs : Programs} {lines : List (List Byte)} {more : List Byte}
    (hprograms : ∀ a d text d', programs a d = some (text, d') → Fulfils a d text d')
    (hready : sys.Ready) (hpc : sys.cpu.pc = 0xCF11#16) (hp : sys.Pictures d)
    (horderly : d.OrderlyWith programs lines) (hin : sys.input.Yields (strokes lines ++ more))
    (hsession : d.sessionWith programs lines = some (text, d')) :
    ∃ n sys', sys.steps n = some sys' ∧ sys'.Ready ∧ sys'.cpu.pc = 0xCF11#16 ∧ sys'.cpu.sp = sys.cpu.sp ∧
      sys'.tty.out = sys.tty.out ++ text ∧ sys'.Pictures d' ∧ sys'.input.Yields more := by
  obtain ⟨sys', ⟨n, hsteps, hsp, hout⟩, hawaits⟩ :=
    Dialogue.carried (H := Awaits more) Prints.refl Prints.trans
      (fun h hline => line_carried hprograms h hline.1 hline.2)
      ⟨hready, hpc, hp, hin⟩ horderly hsession
  exact ⟨n, sys', hsteps, hawaits.ready, hawaits.pc, hsp, hout, hawaits.pictures, hawaits.input⟩

/-- Wherever it stands, and whatever the character. -/
lemma fulfils_putc {c : Byte} (hcode : ∀ i (hi : i < 5), Plain (a + BitVec.ofNat 16 i) ∧
    d.mem (a + BitVec.ofNat 16 i) = (Machine.putcCode c)[i]) : Fulfils a d [c] d := by
  intro entered hready hpc hp
  have hm := hready.shows
  have hpc' : entered.machine.pc = a := hpc
  have hp' := (pictures_iff hm).mp hp
  rw [← hpc'] at hcode
  have hthree := Machine.putc_steps hp' hcode
  obtain ⟨left, hsteps, hshows, -⟩ := hm.steps 3
  rw [hthree] at hshows
  have hleft : left.cpu.pc = 0xC103#16 := hshows.pc
  refine ⟨3, left, hsteps, ⟨?_, hshows.sp.trans hm.sp.symm, ?_, fun i _ => ?_⟩, ?_, ?_, ?_, fun keys hin => ?_⟩
  · rw [hshows.opcode, Machine.opcode_rom (w := 0xC103#16) rfl (by decide)]
    decide
  · rw [show (0x00FB#16 : Word) = word 0#8 0xFB#8 by decide, hshows.ram_zp, hm.ram_zp]
    rfl
  · rw [hshows.ram_stack, hm.ram_stack]
  · rw [hleft]
    decide
  · rw [hshows.out, hm.out]
  · exact (pictures_iff hshows).mpr ⟨hp'.mem, hp'.tape⟩
  · rw [hm.input] at hin
    rw [hshows.input]
    exact Input.Yields.tail [] hin (Input.delivers_after 3 _)

/-- There is such a program at `$0200`. -/
def putcAt : Programs := fun a d =>
  if a = 0x0200#16 ∧ ∀ i : Fin 5, d.mem (a + BitVec.ofNat 16 i) = (Machine.putcCode 0x41#8)[i] then
    some ([0x41#8], d)
  else none

/-- `200: A9 41 4C 00 C1`. -/
def pokeLine : List Byte :=
  [0x32#8, 0x30#8, 0x30#8, 0x3A#8, 0x41#8, 0x39#8, 0x20#8, 0x34#8, 0x31#8, 0x20#8, 0x34#8, 0x43#8, 0x20#8,
    0x30#8, 0x30#8, 0x20#8, 0x43#8, 0x31#8]

/-- `200 R`. -/
def runLine : List Byte := [0x32#8, 0x30#8, 0x30#8, 0x20#8, 0x52#8]

def putcLines : List (List Byte) := [pokeLine, runLine]

lemma plain_putc (i : Fin 5) : Plain (0x0200#16 + BitVec.ofNat 16 i) := by
  have h0200 : 0x0200#16 ≤ 0x0200#16 + BitVec.ofNat 16 i := by
    revert i
    decide
  have h8000 : 0x0200#16 + BitVec.ofNat 16 i < 0x8000#16 := by
    revert i
    decide
  exact (free_of_le h0200 h8000).plain

lemma putc_session (d : Desk) : d.OrderlyWith putcAt putcLines ∧ d.sessionWith putcAt putcLines =
    some (putcLines.flatMap heading ++ [0x41#8], d.stores 0x0200#16 (Machine.putcCode 0x41#8)) := by
  unfold putcLines
  have hpoke : command (typed pokeLine) = .poke 0x0200#16 (Machine.putcCode 0x41#8) := by
    decide +kernel
  have hrun : command (typed runLine) = .run 0x0200#16 := by
    decide +kernel
  have hreply : d.replyWith putcAt pokeLine =
      some (heading pokeLine ++ [], d.stores 0x0200#16 (Machine.putcCode 0x41#8)) := by
    rw [Desk.replyWith, hpoke]
    rfl
  have hmem : ∀ i : Fin 5, (d.stores 0x0200#16 (Machine.putcCode 0x41#8)).mem (0x0200#16 + BitVec.ofNat 16 i) =
      (Machine.putcCode 0x41#8)[i] := by
    intro i
    fin_cases i <;> simp [Machine.putcCode, Desk.stores, Desk.store, Function.update]
  have hreply' : (d.stores 0x0200#16 (Machine.putcCode 0x41#8)).replyWith putcAt runLine =
      some (heading runLine ++ [0x41#8], d.stores 0x0200#16 (Machine.putcCode 0x41#8)) := by
    rw [Desk.replyWith, hrun, Desk.answerWith, putcAt, if_pos ⟨rfl, hmem⟩]
    rfl
  constructor
  · refine ⟨⟨by decide, fun _ => ⟨by rw [hpoke]; rfl, ?_, ?_⟩⟩, fun text d' h => ⟨⟨by decide, fun hfalse => ?_⟩,
      fun _ _ _ => trivial⟩⟩
    · rw [hpoke]
      exact fun _ h => absurd h List.not_mem_nil
    · rw [hpoke]
      intro addr h
      obtain ⟨i, hi, rfl⟩ := mem_addresses.mp h
      exact plain_putc ⟨i, hi⟩
    · rw [hrun] at hfalse
      cases hfalse
  · rw [Desk.sessionWith, Dialogue.run_cons hreply, Dialogue.run_cons hreply']
    simp [Dialogue.run]

/-- `A` is printed behind the second line, and then there is the prompt. -/
theorem programs_session_putc : ∃ n sys', (typing (strokes putcLines).dropLast default).steps n = some sys' ∧
    sys'.cpu.pc = 0xCF11#16 ∧ sys'.cpu.sp = 0#8 ∧ sys'.tty.out = putcLines.flatMap heading ++ [0x41#8] := by
  have hprograms : ∀ a d text d', putcAt a d = some (text, d') → Fulfils a d text d' := by
    intro a d text d' h
    unfold putcAt at h
    split_ifs at h with hcond
    cases h
    obtain ⟨rfl, hcode⟩ := hcond
    exact fulfils_putc fun i hi => ⟨plain_putc ⟨i, hi⟩, hcode ⟨i, hi⟩⟩
  have hpictures : (typing (strokes putcLines).dropLast default).Pictures
      ⟨(typing (strokes putcLines).dropLast default).byteAt, default⟩ := ⟨fun _ _ => rfl, rfl⟩
  obtain ⟨horderly, hsession⟩ := putc_session ⟨(typing (strokes putcLines).dropLast default).byteAt, default⟩
  have hin : (typing (strokes putcLines).dropLast default).input.Yields (strokes putcLines ++ []) := by
    rw [List.append_nil]
    exact yields_typing (strokes putcLines).dropLast default
  obtain ⟨n, sys', hsteps, -, hpc, hsp, hout, -⟩ := programs_session hprograms
    (ready_typing (strokes putcLines).dropLast default) rfl hpictures horderly hin hsession
  exact ⟨n, sys', hsteps, hpc, hsp, hout⟩

end System

end Sys6
