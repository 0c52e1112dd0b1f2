import Sys6.Monitor.Commands

/-!
# MAIN_LOOP

The prompt, a line, and the command it is taken for. `Served` is one round of the loop.
-/

namespace Sys6

/-- What the monitor prints before it answers. -/
def heading (keys : List Byte) : List Byte := Machine.prompt ++ echoed [] keys ++ crlf

namespace Machine

variable {q : Prop} {m : Machine} {keys : List Byte}

lemma mainLoop_prompt (hpc : m.pc = 0xCF11#16) : Reaches m 4 m.sp q [m.visit] (At 0xCF1C#16 m.sp Any
    { m.printed prompt with
      y := 2#8
      work := { m.bus.work with strPtrLo := 0x0F#8, strPtrHi := 0xCE#8 } }) := by
  obtain ⟨a, x, y, sp, p, pc, halted, w, low, stack, high, input, out, tape⟩ := m
  obtain rfl : pc = _ := hpc
  have hsite : 0xCF11#16 ∈ entries := by decide
  have hptr : word 0xCE#8 0x0F#8 = 0xCE0F#16 := by decide
  have ht : RomText (word 0xCE#8 0x0F#8) prompt := by
    rw [hptr]
    exact romText_prompt
  have hcall : ∀ a p halted stack input, Reaches ⟨a, x, y, sp, p, 0xCF19#16, halted, ⟨{ w with
      strPtrLo := 0x0F#8, strPtrHi := 0xCE#8 }, low, stack, high, input, out, tape⟩⟩ 4 sp q []
      (At 0xCF1C#16 sp Any ⟨x, 2#8, { w with strPtrLo := 0x0F#8, strPtrHi := 0xCE#8 }, low, high,
        out ++ prompt, tape⟩) := by
    intro a p halted stack input
    exact Returns.call line_CF19 (by omega) fun _ _ => printString_returns prompt rfl ht (by decide)
  exact .entry line_CF11 hsite rfl (.via 3 0xCF19#16 Any
    ⟨x, y, { w with strPtrLo := 0x0F#8, strPtrHi := 0xCE#8 }, low, high, out, tape⟩ (by simp)
    fun _ _ _ _ _ _ => hcall _ _ _ _ _)

/-- The line is read, and the parser stands at its first character. -/
lemma mainLoop_line (hpc : m.pc = 0xCF1C#16) (hcr : 0x0D#8 ∉ keys)
    (hin : m.bus.input.Yields (keys ++ [0x0D#8])) :
    Reaches m 4 m.sp False [] (At 0xCF23#16 m.sp
      (fun _ _ input => m.bus.input.Delivers (keys ++ [0x0D#8]) input)
      { m.view with
        x := BitVec.ofNat 8 (typed keys).length
        work := { m.bus.work with
          lineBuf := keyedIn m.bus.work.lineBuf [] keys
          lineLen := BitVec.ofNat 8 (typed keys).length
          linePos := 0#8 }
        out := m.bus.out ++ echoed [] keys ++ crlf }) := by
  obtain ⟨a, x, y, sp, p, pc, halted, w, low, stack, high, input, out, tape⟩ := m
  obtain rfl : pc = _ := hpc
  have hpoll := Input.delivers_after 1 input
  have hin' : (input.after 1).Yields (keys ++ [0x0D#8]) := .tail [] hin hpoll
  have hcall : Reaches ⟨a, x, y, sp, p, 0xCF1C#16, halted, ⟨w, low, stack, high, input, out, tape⟩⟩ 4 sp False []
      (At 0xCF1F#16 sp (fun _ _ input' => (input.after 1).Delivers (keys ++ [0x0D#8]) input')
        ⟨BitVec.ofNat 8 (typed keys).length, y, { w with
          lineBuf := keyedIn w.lineBuf [] keys
          lineLen := BitVec.ofNat 8 (typed keys).length }, low, high, out ++ echoed [] keys ++ crlf, tape⟩) :=
    Returns.call line_CF1C (by omega) fun _ _ => readLine_returns rfl hcr hin'
  refine .next hcall le_rfl fun _ _ _ _ input' hd => ?_
  have hdelivered : input.Delivers (keys ++ [0x0D#8]) (input'.after 2) := by
    simpa using (hpoll.trans hd).trans (Input.delivers_after 2 input')
  exact .finish 2 (by simp [hdelivered])

/-- The digits at the start of `text` have been read. -/
def DigitsRead (m : Machine) (text : List Byte) (m' : Machine) : Prop :=
  m'.pc = 0xCF26#16 ∧ m'.sp = m.sp ∧ m'.p.c = decide (digits text = []) ∧
  m'.bus.work.addr = address (digits text) ∧ (∃ pre, Reading m'.bus.work pre (afterDigits text)) ∧
  Polled m.bus.input m'.bus.input ∧ ∃ x work, m'.view = { m.view with x := x, work := work }

lemma mainLoop_digits {text : List Byte} (hpc : m.pc = 0xCF23#16) (h : Reading m.bus.work [] text) :
    Reaches m 4 m.sp False [] (DigitsRead m text) := by
  have hl : line m.pc = some ⟨.JSR, .absolute 0xC500#16, .stack⟩ := by
    rw [hpc]
    exact line_CF23
  refine ((call_parseAddr (q := True) hl h).polled (q := False)).mono le_rfl id fun m' hm => ?_
  have hwork : m'.bus.work = _ := congrArg View.work hm.view
  have hrest : Reading m'.bus.work ([] ++ text.take (digits text).length) (afterDigits text) := by
    rw [hwork]
    exact h.afterDigits rfl rfl rfl
  refine ⟨by rw [hm.pc, hpc]; rfl, hm.sp, hm.result.1, ?_, ⟨_, hrest⟩, hm.result.2, _, _, hm.view⟩
  rw [hwork]
  exact word_hi_lo _

/-- The line has come in at the prompt of `m`, and the monitor is at `pc`. -/
structure Heard (m : Machine) (keys : List Byte) (pc : Word) (sp : Byte) (m' : Machine) : Prop where
  pc : m'.pc = pc
  sp : m'.sp = sp
  input : m.bus.input.Delivers (keys ++ [0x0D#8]) m'.bus.input
  view : ∃ x work, m'.view =
    { m.view with x := x, y := 2#8, work := work, out := m.bus.out ++ heading keys }

/-- The first address has been read, or there is none. -/
def Parsed (m : Machine) (keys : List Byte) (m' : Machine) : Prop :=
  Heard m keys 0xCF26#16 m.sp m' ∧ m'.p.c = decide (digits (typed keys) = []) ∧
  m'.bus.work.addr = address (digits (typed keys)) ∧
  ∃ pre, Reading m'.bus.work pre (afterDigits (typed keys))

lemma mainLoop_parse (hpc : m.pc = 0xCF11#16) (hcr : 0x0D#8 ∉ keys)
    (hin : m.bus.input.Yields (keys ++ [0x0D#8])) :
    Reaches m 4 m.sp False [m.visit] (Parsed m keys) := by
  have hprompt := (mainLoop_prompt (q := True) hpc).polled (q := False)
  obtain ⟨a, x, y, sp, p, pc, halted, w, low, stack, high, input, out, tape⟩ := m
  obtain rfl : pc = _ := hpc
  refine .nextSeen hprompt le_rfl fun _ _ _ _ input₁ hr => ?_
  have hd₁ := Input.delivers_of_polled hr.2
  have hin₁ : input₁.Yields (keys ++ [0x0D#8]) := .tail [] hin hd₁
  refine .next (mainLoop_line rfl hcr hin₁) le_rfl fun _ _ _ _ input₂ hd₂ => ?_
  have hreading : Reading { w with
      strPtrLo := 0x0F#8, strPtrHi := 0xCE#8
      lineBuf := keyedIn w.lineBuf [] keys, lineLen := BitVec.ofNat 8 (typed keys).length
      linePos := 0#8 } [] (typed keys) :=
    ⟨holds_keyedIn (fun i hi => absurd hi (by simp)) (by simp) keys,
      length_foldl_edit (by simp) keys, rfl, rfl⟩
  refine Reaches.mono (mainLoop_digits rfl hreading) le_rfl id ?_
  rintro m' ⟨hpc, hsp, hcarry, haddr, hrest, hpolled, x, work, hview⟩
  refine ⟨⟨hpc, hsp, ?_, x, work, ?_⟩, hcarry, haddr, hrest⟩
  · have hd := (hd₁.trans hd₂).trans (Input.delivers_of_polled hpolled)
    simpa using hd
  · rw [hview]
    simp [heading]

/-- The arguments of the command are in the workspace, the monitor is at its code, and it will come
back behind the call of `DISPATCH`. -/
def Called (m : Machine) (cmd : Command) (m' : Machine) : Prop :=
  m'.pc = cmd.entry ∧ m'.sp = m.sp - 2#8 ∧ m'.ret = 0xCF2B#16 ∧ cmd.Armed m'.bus.work ∧
  ∃ x work, m'.view = { m.view with x := x, work := work }

lemma mainLoop_call {pre rest : List Byte} (hpc : m.pc = 0xCF28#16) (h : Reading m.bus.work pre rest) :
    Reaches m 6 m.sp q [] (Called m (dispatch m.bus.work.addr rest)) := by
  have hl : line m.pc = some ⟨.JSR, .absolute 0xC800#16, .stack⟩ := by
    rw [hpc]
    exact line_CF28
  have hret : (m.called 0xC800#16).ret = 0xCF2B#16 := by
    rw [ret_called, hpc]
    rfl
  have hgo := (dispatch_reaches (q := q) (m := m.called 0xC800#16) rfl h).same_ret (by omega)
  refine Reaches.call hl (by omega) (hgo.mono le_rfl id ?_)
  rintro m' ⟨⟨hpc', hsp', harmed, x, work, hview⟩, hsame⟩
  exact ⟨hpc', hsp', (hsame hsp').trans hret, harmed, x, work, hview⟩

/-- A command has been read at the prompt of `m`. -/
structure Ordered (m : Machine) (keys : List Byte) (m' : Machine) : Prop where
  heard : Heard m keys (command (typed keys)).entry (m.sp - 2#8) m'
  ret : m'.ret = 0xCF2B#16
  armed : (command (typed keys)).Armed m'.bus.work

/-- A line that starts with an address. -/
theorem mainLoop_orders (hpc : m.pc = 0xCF11#16) (hcr : 0x0D#8 ∉ keys)
    (hin : m.bus.input.Yields (keys ++ [0x0D#8])) (hd : digits (typed keys) ≠ []) :
    Reaches m 6 m.sp False [m.visit] (Ordered m keys) := by
  have hcmd : command (typed keys) = dispatch (address (digits (typed keys))) (afterDigits (typed keys)) := by
    rw [command, if_neg hd]
  have hdigits : decide (digits (typed keys) = []) = false := decide_eq_false hd
  rw [← List.append_nil [m.visit]]
  refine Reaches.bind ((mainLoop_parse hpc hcr hin).mono (by omega) id fun _ => id) ?_
  rintro m₁ ⟨⟨hpc₁, hsp₁, hin₁, x₁, work₁, hview₁⟩, hcarry, haddr, pre, hreading⟩
  have hbranch : Reaches m₁ 6 m.sp True [] (At 0xCF28#16 m.sp Any m₁.view) := by
    obtain ⟨a, x, y, sp, p, pc, halted, w, low, stack, high, input, out, tape⟩ := m₁
    obtain rfl : pc = _ := hpc₁
    obtain rfl : sp = _ := hsp₁
    have hcarry : p.c = false := hcarry.trans hdigits
    exact .finish 1 (by simp [hcarry])
  refine Reaches.bind (e := []) (hbranch.polled (q := False)) fun m₂ hm₂ => ?_
  have hwork : m₂.bus.work = m₁.bus.work := congrArg View.work hm₂.view
  have hcall := (mainLoop_call (q := True) hm₂.pc (by rw [hwork]; exact hreading)).polls
  rw [hm₂.sp, hwork, haddr, ← hcmd] at hcall
  refine hcall.mono le_rfl id ?_
  rintro m' ⟨⟨hpc', hsp', hret, harmed, x, work, hview⟩, hpolled⟩
  refine ⟨⟨hpc', ?_, ?_, x, work, ?_⟩, hret, harmed⟩
  · rw [hsp', hm₂.sp]
  · have hd₁ := hin₁.trans (Input.delivers_of_polled hm₂.result.2)
    simpa using hd₁.trans (Input.delivers_of_polled (hpolled trivial))
  · rw [hview, hm₂.view, hview₁]

/-- The monitor is at its prompt again, with the command of the line carried out. -/
structure Served (m : Machine) (keys : List Byte) (e : List Event) (m' : Machine) : Prop where
  pc : m'.pc = 0xCF11#16
  sp : m'.sp = m.sp
  done : ∃ x work e', (command (typed keys)).Armed work ∧ e = m.visit :: e' ∧
    (command (typed keys)).Done
      { m.view with x := x, y := 2#8, work := work, out := m.bus.out ++ heading keys } e' m'.view
  input : (command (typed keys)).Quiet → m.bus.input.Delivers (keys ++ [0x0D#8]) m'.bus.input

lemma badLine (hpc : m.pc = 0xCF26#16) (hcarry : m.p.c = true) :
    Reaches m 2 m.sp q [] (At 0xCF11#16 m.sp Any (m.printed complaint)) := by
  obtain ⟨a, x, y, sp, p, pc, halted, w, low, stack, high, input, out, tape⟩ := m
  obtain rfl : pc = _ := hpc
  have hcarry : p.c = true := hcarry
  refine .via 1 0xCF2E#16 Any ⟨x, y, w, low, high, out, tape⟩ (by simp [hcarry]) fun _ _ _ _ _ _ => ?_
  refine .complain (k := 2) ⟨line_CF2E, line_CF30⟩
    ⟨⟨line_CF33, line_CF35⟩, ⟨line_CF38, line_CF3A⟩⟩ (by omega) fun _ _ _ _ _ => ?_
  exact .finish 1 (by simp)

/-- A line that does not start with an address. -/
lemma mainLoop_rejects (hpc : m.pc = 0xCF11#16) (hcr : 0x0D#8 ∉ keys)
    (hin : m.bus.input.Yields (keys ++ [0x0D#8])) (hd : digits (typed keys) = []) :
    Does m 7 m.sp False (Served m keys) := by
  have hcmd : command (typed keys) = .bad := by rw [command, if_pos hd]
  refine ((mainLoop_parse hpc hcr hin).mono (by omega) id fun _ => id).does ?_
  rintro m₁ ⟨⟨hpc₁, hsp₁, hin₁, x, work, hview⟩, hcarry, -⟩
  have hbad := (badLine (q := True) hpc₁ (hcarry.trans (decide_eq_true hd))).polled (q := False)
  rw [hsp₁] at hbad
  refine (hbad.mono (by omega) id fun _ => id).does fun m' hm => .refl ⟨hm.pc, hm.sp, ?_, fun _ => ?_⟩
  · rw [hcmd]
    refine ⟨x, work, [], trivial, rfl, rfl, ?_⟩
    rw [← hview]
    exact hm.view
  · have hd := hin₁.trans (Input.delivers_of_polled hm.result.2)
    simpa using hd

/-- Behind the call of `DISPATCH`. -/
lemma mainLoop_jump (hpc : m.pc = 0xCF2B#16) : Reaches m 0 m.sp q [] (At 0xCF11#16 m.sp Any m.view) := by
  obtain ⟨a, x, y, sp, p, pc, halted, w, low, stack, high, input, out, tape⟩ := m
  obtain rfl : pc = _ := hpc
  exact .finish 1 (by simp)

/-- A command that comes back does so to the prompt. -/
lemma Ordered.served {m₁ : Machine} (h : Ordered m keys m₁)
    (hfin : Finishes m₁ 5 (command (typed keys)).Quiet ((command (typed keys)).Done m₁.view)) :
    Does m₁ 7 m.sp False fun e' => Served m keys (m.visit :: e') := by
  obtain ⟨⟨hpc₁, hsp₁, hin₁, x, work, hview⟩, hret, harmed⟩ := h
  have hback := Does.polls hfin
  rw [hsp₁] at hback
  refine (hback.deeper (by omega)).bind ?_
  rintro e m₂ ⟨⟨hpc₂, hsp₂, hdone⟩, hpolled₂⟩
  have hsp : m₂.sp = m.sp := by
    rw [hsp₂]
    bv_omega
  have hjump := (mainLoop_jump (hpc₂.trans hret)).polled (q := False)
  rw [hsp] at hjump
  refine (hjump.mono (by omega) id fun _ => id).does fun m' hm =>
    .refl ⟨hm.pc, hm.sp, ⟨x, m₁.bus.work, e, harmed, by simp, ?_⟩, fun hquiet => ?_⟩
  · have hwork : m₁.bus.work = work := congrArg View.work hview
    rw [hm.view, hwork, ← hview]
    exact hdone
  · have hd := (hin₁.trans (Input.delivers_of_polled (hpolled₂ hquiet))).trans
      (Input.delivers_of_polled hm.result.2)
    simpa using hd

/-- Without a CR the monitor waits at its prompt. -/
lemma mainLoop_waits (hpc : m.pc = 0xCF11#16) (hin : m.bus.input.NoCr) :
    Does m 7 m.sp False fun e m' => e = [m.visit] ∧ Stays m' 7 m.sp commandEvent := by
  have hprompt := (mainLoop_prompt (q := True) hpc).polled (q := False)
  refine (hprompt.mono (by omega) id fun _ => id).does fun m₁ hm => .refl ⟨by simp, ?_⟩
  have hin₁ := hin.tail (Input.delivers_of_polled hm.result.2)
  have hl : line m₁.pc = some ⟨.JSR, .absolute 0xC400#16, .stack⟩ := by
    rw [hm.pc]
    exact line_CF1C
  have hwait := stays_call (E := fun _ => False) hl fun halted stack =>
    readLine_waits rfl (hin₁.tail (Input.delivers_after 1 m₁.bus.input))
  rw [hm.sp] at hwait
  exact hwait.mono (by omega) fun _ hev => hev.elim

/-- A line with a command that does not end. -/
lemma mainLoop_endless (hpc : m.pc = 0xCF11#16) (hcr : 0x0D#8 ∉ keys)
    (hin : m.bus.input.Yields (keys ++ [0x0D#8])) (hends : (command (typed keys)).Endless m.bus.tape) :
    Does m 7 m.sp False fun e m' => e = [m.visit] ∧ Stays m' 7 m.sp commandEvent := by
  have hd : digits (typed keys) ≠ [] := by
    intro hd
    rw [command, if_pos hd] at hends
    exact hends.elim
  obtain ⟨m₁, hord, hgo⟩ := (mainLoop_orders hpc hcr hin hd).state
  have hgo := hgo.mono (show 6 ≤ 7 by omega) id fun _ => id
  obtain ⟨⟨hpc₁, hsp₁, -, x, work, hview⟩, -, harmed⟩ := hord
  have htape : m₁.bus.tape = m.bus.tape := congrArg View.tape hview
  rw [← htape] at hends
  have hstays := endless_stays hpc₁ harmed hends
  rw [hsp₁] at hstays
  refine hgo.does ?_
  rintro _ rfl
  exact .refl ⟨by simp, hstays.deeper⟩

/-- What becomes of a line. -/
theorem mainLoop_round (hpc : m.pc = 0xCF11#16) (hcr : 0x0D#8 ∉ keys)
    (hin : m.bus.input.Yields (keys ++ [0x0D#8])) :
    Does m 7 m.sp False (Served m keys) ∨
    (command (typed keys)).isRun ∧ (Does m 7 m.sp False fun e m' => e = [m.visit] ∧ m'.pc = 0xCD00#16) ∨
    (command (typed keys)).Endless m.bus.tape ∧
      (Does m 7 m.sp False fun e m' => e = [m.visit] ∧ Stays m' 7 m.sp commandEvent) ∨
    (∃ addr ∈ (command (typed keys)).stores m.bus.tape, ¬Clear addr) ∧
      Does m 7 m.sp False fun e m' => ∃ e', e = m.visit :: e' ∧ Astray e' m' := by
  by_cases hd : digits (typed keys) = []
  · exact .inl (mainLoop_rejects hpc hcr hin hd)
  obtain ⟨m₁, hord, hgo⟩ := (mainLoop_orders hpc hcr hin hd).state
  have hgo := hgo.mono (show 6 ≤ 7 by omega) id fun _ => id
  obtain ⟨⟨hpc₁, hsp₁, -, x, work, hview⟩, -, harmed⟩ := id hord
  have htape : m₁.bus.tape = m.bus.tape := congrArg View.tape hview
  obtain hrun | hfin | ⟨hends, hstays⟩ | ⟨hstores, hastray⟩ := carries hpc₁ harmed
  · refine .inr (.inl ⟨hrun, hgo.does ?_⟩)
    rintro _ rfl
    refine .refl ⟨by simp, hpc₁.trans ?_⟩
    cases hcmd : command (typed keys) with
    | run a => rfl
    | _ => rw [hcmd] at hrun; cases hrun
  · refine .inl (hgo.does ?_)
    rintro _ rfl
    exact (hord.served hfin).mono le_rfl id fun e m' hm => by simpa using hm
  · rw [htape] at hends
    rw [hsp₁] at hstays
    refine .inr (.inr (.inl ⟨hends, hgo.does ?_⟩))
    rintro _ rfl
    exact .refl ⟨by simp, hstays.deeper⟩
  · rw [htape] at hstores
    rw [hsp₁] at hastray
    refine .inr (.inr (.inr ⟨hstores, hgo.does ?_⟩))
    rintro _ rfl
    exact (hastray.deeper (by omega)).mono le_rfl (fun _ => trivial) fun e m' hm => ⟨e, by simp, hm⟩

end Machine

end Sys6
