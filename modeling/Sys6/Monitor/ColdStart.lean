import Sys6.Monitor.Desk

/-!
# COLD_START

What the reset vector leads to: the banner, and then the prompt. A reset may come at any moment of
any program.
-/

namespace Sys6

open Isa (Arch)

/-- The text at `BANNER`. -/
def banner : List Byte :=
  [0x73#8, 0x79#8, 0x73#8, 0x36#8, 0x20#8, 0x6D#8, 0x6F#8, 0x6E#8, 0x69#8, 0x74#8, 0x6F#8, 0x72#8, 0x0D#8, 0x0A#8]

-- COLD_START
@[simp] lemma line_CF00 : line 0xCF00#16 = some ⟨.LDA, .immediate 0x00#8, .plain⟩ := by decide

@[simp] lemma line_CF02 : line 0xCF02#16 = some ⟨.STA, .zeroPage 0xFC#8, .plain⟩ := by decide

@[simp] lemma line_CF04 : line 0xCF04#16 = some ⟨.LDA, .immediate 0xCE#8, .plain⟩ := by decide

@[simp] lemma line_CF06 : line 0xCF06#16 = some ⟨.STA, .zeroPage 0xFD#8, .plain⟩ := by decide

@[simp] lemma line_CF08 : line 0xCF08#16 = some ⟨.JSR, .absolute 0xC300#16, .stack⟩ := by decide

@[simp] lemma line_CF0B : line 0xCF0B#16 = some ⟨.JMP, .absolute 0xCF11#16, .plain⟩ := by decide

namespace Machine

variable {q : Prop} {m : Machine}

lemma romText_banner : RomText 0xCE00#16 banner := by
  simp only [RomText, banner]
  decide

/-- The banner. -/
lemma coldStart_prints (hpc : m.pc = 0xCF00#16) : Reaches m 4 m.sp q [] (At 0xCF11#16 m.sp Any
    { m.printed banner with
      y := 14#8
      work := { m.bus.work with strPtrLo := 0x00#8, strPtrHi := 0xCE#8 } }) := by
  obtain ⟨a, x, y, sp, p, pc, halted, w, low, stack, high, input, out, tape⟩ := m
  obtain rfl : pc = _ := hpc
  have hptr : word 0xCE#8 0x00#8 = 0xCE00#16 := by decide
  have ht : RomText (word 0xCE#8 0x00#8) banner := by
    rw [hptr]
    exact romText_banner
  have hcall : ∀ a p halted stack input, Reaches ⟨a, x, y, sp, p, 0xCF08#16, halted, ⟨{ w with
      strPtrLo := 0x00#8, strPtrHi := 0xCE#8 }, low, stack, high, input, out, tape⟩⟩ 4 sp q []
      (At 0xCF0B#16 sp Any ⟨x, 14#8, { w with strPtrLo := 0x00#8, strPtrHi := 0xCE#8 }, low, high,
        out ++ banner, tape⟩) := by
    intro a p halted stack input
    exact Returns.call line_CF08 (by omega) fun _ _ => printString_returns banner rfl ht (by decide)
  refine .via 4 0xCF08#16 Any ⟨x, y, { w with strPtrLo := 0x00#8, strPtrHi := 0xCE#8 }, low, high, out,
    tape⟩ (by simp) fun _ _ _ _ _ _ => ?_
  refine .next (hcall _ _ _ _ _) le_rfl fun _ _ _ _ _ _ => ?_
  exact .finish 1 (by simp)

/-- The vector of the reset lies in ROM. -/
lemma reset_pc (m : Machine) : m.reset.pc = 0xCF00#16 := by
  have hlo : ¬Word.hi 0xFFFC#16 < 0xC0#8 := by decide
  have hhi : ¬Word.hi 0xFFFD#16 < 0xC0#8 := by decide
  unfold Arch.reset
  simp only [read_rom hlo, read_rom hhi]
  decide

lemma reset_bus_eq (m : Machine) : m.reset.bus = (m.discard.discard).bus := by
  have hlo : ¬Word.hi 0xFFFC#16 < 0xC0#8 := by decide
  have hhi : ¬Word.hi 0xFFFD#16 < 0xC0#8 := by decide
  unfold Arch.reset
  simp only [read_rom hlo, read_rom hhi]

/-- A reset reads where PC points, which may be a register. -/
lemma reset_bus_of_quiet (hquiet : Quiet m.pc) : m.reset.bus = m.bus := by
  have hdiscard : m.discard = m := by
    have hbus : (m.read m.pc).2.bus = m.bus := Board.read_of_quiet hquiet m.bus
    unfold Arch.discard
    show { m with bus := (m.read m.pc).2.bus } = m
    rw [hbus]
  rw [reset_bus_eq, hdiscard, hdiscard]

end Machine

namespace System

variable {sys : System} {d : Desk}

/-- `COLD_START` gets to the prompt without a look at what RAM holds. -/
lemma coldStart_answers (hready : sys.Ready) (hpc : sys.cpu.pc = 0xCF00#16) (hp : sys.Pictures d) :
    ∃ n sys', sys.steps n = some sys' ∧ sys'.Ready ∧ sys'.cpu.pc = 0xCF11#16 ∧
      sys'.tty.out = sys.tty.out ++ banner ∧ sys'.Pictures d ∧
      ∀ keys, sys.input.Yields keys → sys'.input.Yields keys := by
  have hm := hready.shows
  have hpc' : sys.machine.pc = 0xCF00#16 := hpc
  obtain ⟨m', ⟨n, hlead⟩, -, hpolled, hat⟩ := Machine.coldStart_prints (q := True) hpc'
  obtain ⟨sys', hsteps, hshows, -⟩ := hm.steps n
  rw [hlead.run] at hshows
  have hview := (pictures_iff hm).mp hp
  have hout : m'.bus.out = sys.machine.bus.out ++ banner := congrArg View.out hat.view
  refine ⟨n, sys', hsteps, hshows.ready, hshows.pc.trans hat.pc, ?_, (pictures_iff hshows).mpr ?_, fun keys hin => ?_⟩
  · rw [hshows.out, hout, hm.out]
  · rw [hat.view]
    exact ⟨hview.mem, hview.tape⟩
  · rw [hshows.input]
    exact Input.Yields.tail [] hin (Input.delivers_of_polled (hpolled trivial))

/-- A reset leaves memory and cassette alone unless PC points at a register. -/
lemma reset_pictures (hready : sys.Ready) (hquiet : Quiet sys.cpu.pc) (hp : sys.Pictures d) :
    ∃ sys', sys.reset = some sys' ∧ sys'.Ready ∧ sys'.cpu.pc = 0xCF00#16 ∧ sys'.tty.out = sys.tty.out ∧
      sys'.Pictures d ∧ sys'.input = sys.input := by
  have hm := hready.shows
  obtain ⟨sys', hreset, hready', harch, hterm⟩ := hready.reset
  let m' : Machine := sys.machine.reset
  have hbus : m'.bus = sys.machine.bus := Machine.reset_bus_of_quiet hquiet
  have hshows : sys'.Shows m' := by
    refine ⟨hready'.settled, ?_, ?_⟩
    · rw [harch, hm.arch, Arch.map_reset Board.busMap_wire]
    · rw [hterm, hm.term, hbus]
  have hview := (pictures_iff hm).mp hp
  have hlow : m'.view.low = sys.machine.view.low := congrArg Board.low hbus
  have hhigh : m'.view.high = sys.machine.view.high := congrArg Board.high hbus
  refine ⟨sys', hreset, hready', hshows.pc.trans (Machine.reset_pc _), ?_, (pictures_iff hshows).mpr ⟨?_, ?_⟩, ?_⟩
  · rw [hshows.out, hbus, hm.out]
  · intro addr haddr
    rw [← hview.mem addr haddr]
    unfold View.mem
    rw [hlow, hhigh]
  · have htape : m'.view.tape = sys.machine.view.tape := congrArg Board.tape hbus
    rw [htape]
    exact hview.tape
  · rw [hshows.input, hbus, hm.input]

/-- A reset, whatever any program has done before, and then a session: the banner is printed, and
the lines are answered from what memory and cassette hold. -/
theorem reset_session {term : Nat → Option Byte} {tapeBacking : Option IoStream} {lines : List (List Byte)}
    (h : Reachable term tapeBacking sys) (hquiet : Quiet sys.cpu.pc) (hp : sys.Pictures d)
    (horderly : d.Orderly lines) (hin : sys.input.Yields (strokes lines)) :
    ∃ sys₁ n sys₂, sys.reset = some sys₁ ∧ sys₁.steps n = some sys₂ ∧
      sys₂.tty.out = sys.tty.out ++ banner ∧ sys₂.Answers d lines := by
  obtain ⟨sys₁, hreset, hready₁, hpc₁, hout₁, hp₁, hin₁⟩ := reset_pictures h.ready hquiet hp
  obtain ⟨n, sys₂, hsteps, hready₂, hpc₂, hout₂, hp₂, hin₂⟩ := coldStart_answers hready₁ hpc₁ hp₁
  refine ⟨sys₁, n, sys₂, hreset, hsteps, ?_, ?_⟩
  · rw [hout₂, hout₁]
  · exact answers_of_orderly hready₂ hpc₂ hp₂ horderly (hin₂ _ (by rwa [hin₁]))

lemma plain_0200 : Plain 0x0200#16 := ⟨by decide, by decide, by decide, by decide⟩

/-- `200: 41` and `200`. -/
def demoLines : List (List Byte) :=
  [[0x32#8, 0x30#8, 0x30#8, 0x3A#8, 0x34#8, 0x31#8], [0x32#8, 0x30#8, 0x30#8]]

lemma demo_commands (d : Desk) : d.Orderly demoLines ∧ d.session demoLines =
    some (heading [0x32#8, 0x30#8, 0x30#8, 0x3A#8, 0x34#8, 0x31#8] ++ (heading [0x32#8, 0x30#8, 0x30#8] ++
      (addrText 0x0200#16 ++ hexText 0x41#8 ++ crlf)), d.store 0x0200#16 0x41#8) := by
  have hpoke : command (typed [0x32#8, 0x30#8, 0x30#8, 0x3A#8, 0x34#8, 0x31#8]) =
      .poke 0x0200#16 [0x41#8] := by
    decide +kernel
  have hpeek : command (typed [0x32#8, 0x30#8, 0x30#8]) = .peek 0x0200#16 := by decide
  have hanswer : (command (typed [0x32#8, 0x30#8, 0x30#8, 0x3A#8, 0x34#8, 0x31#8])).answer d =
      some ([], d.store 0x0200#16 0x41#8) := by
    rw [hpoke]
    rfl
  have hanswer' : (command (typed [0x32#8, 0x30#8, 0x30#8])).answer (d.store 0x0200#16 0x41#8) =
      some (addrText 0x0200#16 ++ hexText 0x41#8 ++ crlf, d.store 0x0200#16 0x41#8) := by
    rw [hpeek]
    rfl
  constructor
  · refine Desk.orderly_cons (by decide) ⟨by rw [hpoke]; rfl, ?_, ?_⟩ fun text d' h =>
      Desk.orderly_cons (by decide) ⟨by rw [hpeek]; rfl, ?_, ?_⟩ fun _ _ _ => trivial
    · rw [hpoke]
      exact fun _ h => absurd h List.not_mem_nil
    · rw [hpoke]
      intro addr h
      obtain rfl := List.mem_singleton.mp h
      exact plain_0200
    · rw [hpeek]
      intro addr h
      obtain rfl := List.mem_singleton.mp h
      exact plain_0200
    · rw [hpeek]
      exact fun _ h => absurd h List.not_mem_nil
  · rw [demoLines, Desk.session_cons hanswer, Desk.session_cons hanswer']
    simp [Desk.session, Dialogue.run]

/-- Power on, reset, and two lines. -/
theorem reset_session_created : ∃ sys sys₁ n sys₂ sys',
    System.create (fun i => (strokes demoLines)[i]?) none = .ok sys ∧ sys.reset = some sys₁ ∧
    sys₁.steps n = some sys₂ ∧ sys₂.Rounds 2 sys' ∧ sys'.byteAt 0x0200#16 = 0x41#8 ∧
    sys'.tty.out = banner ++ (heading [0x32#8, 0x30#8, 0x30#8, 0x3A#8, 0x34#8, 0x31#8] ++
      (heading [0x32#8, 0x30#8, 0x30#8] ++ (addrText 0x0200#16 ++ hexText 0x41#8 ++ crlf))) := by
  have hcreate := create_ok (fun i => (strokes demoLines)[i]?) none
  set sys : System := { term := fun i => (strokes demoLines)[i]?, cpu := { bus := ⟨Board.systemBus,
    ⟨RAM.ofSize kRamSize, { tapeBacking := none }, ⟨monitor.kRomSize, monitor.image⟩⟩⟩ } }
  have hin : sys.input.Yields (strokes demoLines) := by
    have hbytes : sys.input.bytes (strokes demoLines).length = strokes demoLines := range_filterMap_getElem? _
    exact ⟨(strokes demoLines).length, by rw [hbytes]⟩
  have hpictures : sys.Pictures ⟨sys.byteAt, sys.board.tape⟩ := ⟨fun _ _ => rfl, rfl⟩
  have hdemo := demo_commands ⟨sys.byteAt, sys.board.tape⟩
  obtain ⟨sys₁, n, sys₂, hreset, hsteps, hout, hanswers⟩ :=
    reset_session (.create hcreate) (by decide) hpictures hdemo.1 hin
  obtain ⟨sys', hrounds, -, -, hout', hp', -⟩ := hanswers.answered _ _ hdemo.2
  refine ⟨sys, sys₁, n, sys₂, sys', hcreate, hreset, hsteps, hrounds, ?_, ?_⟩
  · rw [hp'.mem _ plain_0200]
    rfl
  · rw [hout', hout]
    rfl

end System

end Sys6
