import Sys6.Monitor.Calls
import Sys6.Monitor.MainLoop

/-!
# Sessions

A system at the prompt of the monitor, and what becomes of the line that is typed there.
-/

namespace Sys6

lemma commandEvent_sweep {pc a : Word} {bytes : List Byte} {x : Event} (h : x ∈ sweep pc a bytes) :
    commandEvent x := by
  induction bytes generalizing a with
  | nil => cases h
  | cons b bytes ih =>
    obtain rfl | h := List.mem_cons.mp h
    · trivial
    · exact ih h

lemma commandEvent_saves {a : Word} {bytes : List Byte} {x : Event} (h : x ∈ saves a bytes) :
    commandEvent x := by
  induction bytes generalizing a with
  | nil => cases h
  | cons b bytes ih =>
    obtain rfl | h := List.mem_cons.mp h
    · trivial
    obtain rfl | h := List.mem_cons.mp h
    · trivial
    · exact ih h

/-- Only `MAIN_LOOP` itself is at the prompt. -/
lemma Command.Done.seen {cmd : Command} {v v' : View} {e : List Event} (h : cmd.Done v e v') :
    ∀ x ∈ e, commandEvent x := by
  have hvisit : ∀ pc : Word, pc ≠ 0xCF11#16 → pc ≠ 0xCD00#16 → commandEvent (v.visit pc) :=
    fun pc h h' => ⟨h, h'⟩
  cases cmd with
  | peek a =>
    obtain ⟨data, tape, e', rfl, hround, -⟩ := h
    rw [hround.seen]
    simp [commandEvent, View.visit]
  | list a last =>
    obtain ⟨bytes, tape, y, rowCount, e', rfl, hwalk, -⟩ := h
    rw [hwalk.seen]
    rintro x (_ | ⟨_, hx⟩)
    · exact hvisit _ (by decide) (by decide)
    · exact commandEvent_sweep hx
  | poke a bytes =>
    have h : Poked v bytes e v' := h
    exact fun x hx => commandEvent_poke (h.seen x hx)
  | run a => exact h.elim
  | save a last =>
    by_cases hrange : v.tape.backing.isSome ∧ a ≤ last
    · obtain ⟨bytes, tape, y, -, rfl, -⟩ := (if_pos hrange).mp h
      intro x hx
      simp only [List.mem_cons, List.mem_append, List.not_mem_nil, or_false] at hx
      obtain rfl | rfl | rfl | rfl | hx | rfl | rfl := hx
      · exact hvisit _ (by decide) (by decide)
      · trivial
      · trivial
      · trivial
      · exact commandEvent_saves hx
      · trivial
      · trivial
    · rw [((if_neg hrange).mp h).1]
      simp [commandEvent, View.visit]
  | load a =>
    by_cases htape : v.tape.backing.isSome
    · intro x hx
      rw [((if_pos htape).mp h).1] at hx
      simp only [List.mem_cons, List.mem_append, List.not_mem_nil, or_false] at hx
      obtain rfl | rfl | hx | rfl := hx
      · exact hvisit _ (by decide) (by decide)
      · trivial
      · exact commandEvent_sweep hx
      · trivial
    · rw [((if_neg htape).mp h).1]
      simp [commandEvent, View.visit]
  | rewind a =>
    by_cases htape : v.tape.backing.isSome
    · rw [((if_pos htape).mp h).1]
      simp [commandEvent, View.visit]
    · rw [((if_neg htape).mp h).1]
      simp [commandEvent, View.visit]
  | bad =>
    rw [h.1]
    simp

namespace Machine

variable {m m' : Machine} {e : List Event}

lemma visit_mem_sees (h : m.pc ∈ entries) : m.visit ∈ m.sees := by
  unfold sees
  rw [if_pos h]
  exact List.mem_append_left _ (List.mem_append_left _ List.mem_cons_self)

lemma sees_prompt (hpc : m.pc = 0xCF11#16) : m.sees = [m.visit] := by
  have hl : line m.pc = some ⟨.LDA, .immediate 0x0F#8, .seen⟩ := by
    rw [hpc]
    exact line_CF11
  have hentry : m.pc ∈ entries := by
    rw [hpc]
    decide
  exact sees_entry hl hentry rfl

/-- Where only a command is seen, the monitor is not at its prompt. -/
lemma pc_ne_of_command (h : ∀ x ∈ m.sees, commandEvent x) : m.pc ≠ 0xCF11#16 := by
  intro hpc
  have hev := h m.visit (by rw [sees_prompt hpc]; exact List.mem_cons_self)
  exact hev.1 hpc

/-- Behind the first step of a stretch from the prompt. -/
lemma sees_between {I : Machine → Prop} {n : Nat} (hpc : m.pc = 0xCF11#16)
    (h : Run.LeadsIn step sees I n m (m.visit :: e) m') {i : Nat} (hi : 0 < i) (hin : i < n) :
    ∀ x ∈ sees (step^[i] m), x ∈ e := by
  obtain ⟨n, rfl⟩ : ∃ k, n = k + 1 := ⟨n - 1, by omega⟩
  obtain ⟨i, rfl⟩ : ∃ k, i = k + 1 := ⟨i - 1, by omega⟩
  have htrace := h.trace
  rw [Run.trace, sees_prompt hpc, List.singleton_append, List.cons_inj_right] at htrace
  intro x hx
  rw [← htrace]
  exact Run.mem_trace.mpr ⟨i, by omega, hx⟩

/-- From the prompt, a stretch on which only a command is seen. -/
lemma first_of_command {n : Nat} {e : List Event} {I : Machine → Prop} (hpc : m.pc = 0xCF11#16)
    (h : Run.LeadsIn step sees I n m (m.visit :: e) m') (he : ∀ x ∈ e, commandEvent x) :
    ∀ i, 0 < i → i < n → (step^[i] m).pc ≠ 0xCF11#16 := by
  intro i hi hin
  exact pc_ne_of_command fun x hx => he x (sees_between hpc h hi hin x hx)

end Machine

namespace System

/-- What the terminal still has for the system. -/
def input (sys : System) : Input := ⟨sys.tty.rxReady, sys.tty.rxByte, sys.term⟩

/-- The next keys that are typed are these, and then RETURN. -/
def Hears (sys : System) (keys : List Byte) : Prop :=
  0x0D#8 ∉ keys ∧ sys.input.Yields (keys ++ [0x0D#8])

/-- A system at the prompt is there again for the first time after `n` steps. -/
structure RoundIn (sys : System) (n : Nat) (sys' : System) : Prop where
  run : sys.steps n = some sys'
  pos : 0 < n
  pc : sys'.cpu.pc = 0xCF11#16
  first : ∀ i, 0 < i → i < n → ∀ sys₁, sys.steps i = some sys₁ → sys₁.cpu.pc ≠ 0xCF11#16

lemma RoundIn.unique {sys sys' sys'' : System} {n n' : Nat} (h : sys.RoundIn n sys')
    (h' : sys.RoundIn n' sys'') : n = n' ∧ sys' = sys'' := by
  obtain hlt | rfl | hlt := Nat.lt_trichotomy n n'
  · exact absurd h.pc (h'.first n h.pos hlt sys' h.run)
  · exact ⟨rfl, Option.some.inj (h.run.symm.trans h'.run)⟩
  · exact absurd h'.pc (h.first n' h'.pos hlt sys'' h'.run)

lemma RoundIn.ready {sys sys' : System} {n : Nat} (h : sys.RoundIn n sys') (hready : sys.Ready) :
    sys'.Ready := by
  obtain ⟨sys₁, hsteps, hshows, -⟩ := hready.shows.steps n
  rw [h.run] at hsteps
  cases hsteps
  exact hshows.ready

lemma Shows.input {sys : System} {m : Machine} (h : sys.Shows m) : sys.input = m.bus.input := by
  unfold System.input
  rw [h.tty, h.term]
  rfl

/-- A system at the prompt where `keys` and RETURN are typed, a key at each poll. -/
def typing (keys : List Byte) (tape : Tape) : System :=
  { standing 0xCF11#16 default tape with term := fun i => (keys ++ [0x0D#8])[i]? }

lemma ready_typing (keys : List Byte) (tape : Tape) : (typing keys tape).Ready :=
  ready_of_wire ⟨rfl, rfl, rfl⟩ rfl

lemma range_filterMap_getElem? (l : List Byte) : (List.range l.length).filterMap (fun i => l[i]?) = l := by
  induction l with
  | nil => rfl
  | cons b l ih =>
    rw [List.length_cons, List.range_succ_eq_map, List.filterMap_cons, List.filterMap_map]
    exact congrArg (b :: ·) ih

lemma yields_typing (keys : List Byte) (tape : Tape) : (typing keys tape).input.Yields (keys ++ [0x0D#8]) := by
  have hbytes : (typing keys tape).input.bytes (keys ++ [0x0D#8]).length = keys ++ [0x0D#8] :=
    range_filterMap_getElem? _
  exact ⟨(keys ++ [0x0D#8]).length, by rw [hbytes]⟩

lemma hears_typing (keys : List Byte) (tape : Tape) (h : 0x0D#8 ∉ keys) : (typing keys tape).Hears keys :=
  ⟨h, yields_typing keys tape⟩

/-- A line with a command that comes back. -/
theorem Shows.round {sys : System} {m : Machine} {keys : List Byte} (h : sys.Shows m)
    (hpc : sys.cpu.pc = 0xCF11#16) (hround : m.Does 7 m.sp False (m.Served keys)) :
    ∃ n sys' m', sys.RoundIn n sys' ∧ sys'.Shows m' ∧ m.Served keys (sys.seenIn n) m' ∧
      Scratch 7 m.sp m.bus.stack m'.bus.stack := by
  rw [h.pc] at hpc
  obtain ⟨evs, m', ⟨n, hlead⟩, hs, -, hserved⟩ := hround
  obtain ⟨x, work, e, harmed, rfl, hdone⟩ := hserved.done
  obtain ⟨sys', hsteps, hshows, hseen⟩ := h.steps n
  rw [hlead.run] at hshows
  rw [hlead.trace] at hseen
  refine ⟨n, sys', m', ⟨hsteps, ?_, ?_, ?_⟩, hshows, by rwa [hseen], hs⟩
  · cases n with
    | zero => exact absurd hlead.trace (by simp [Run.trace])
    | succ n => omega
  · rw [hshows.pc]
    exact hserved.pc
  · intro i hi hin sys₁ hsteps₁
    obtain ⟨sys₂, hsteps₂, hshows₂, -⟩ := h.steps i
    rw [hsteps₁] at hsteps₂
    cases hsteps₂
    rw [hshows₂.pc]
    exact Machine.pc_ne_of_command fun x hx =>
      hdone.seen x (Machine.sees_between hpc hlead hi hin x hx)

/-- A line that is no run, does not store where it may not, and ends. -/
lemma round_of_line {sys : System} {keys : List Byte} (hready : sys.Ready)
    (hpc : sys.cpu.pc = 0xCF11#16) (hkeys : sys.Hears keys) (hrun : (command (typed keys)).isRun = false)
    (hstores : ∀ addr ∈ (command (typed keys)).stores sys.machine.bus.tape, Clear addr)
    (hends : ¬(command (typed keys)).Endless sys.machine.bus.tape) :
    ∃ n sys' m', sys.RoundIn n sys' ∧ sys'.Shows m' ∧ sys.machine.Served keys (sys.seenIn n) m' := by
  have hpc' : sys.machine.pc = 0xCF11#16 := hpc
  have hserved : sys.machine.Does 7 sys.machine.sp False (sys.machine.Served keys) := by
    obtain h | ⟨h, -⟩ | ⟨h, -⟩ | ⟨⟨addr, hmem, hnot⟩, -⟩ := Machine.mainLoop_round hpc' hkeys.1 hkeys.2
    · exact h
    · rw [hrun] at h
      cases h
    · exact absurd h hends
    · exact absurd (hstores addr hmem) hnot
  obtain ⟨n, sys', m', hround, hshows, hserved, -⟩ := hready.shows.round hpc hserved
  exact ⟨n, sys', m', hround, hshows, hserved⟩

end System

end Sys6
