import Sys6.Monitor.Grammar
import Sys6.Monitor.Session

/-!
# The commands as they are written

`Names` is the table of the commands. The monitor accepts more than that: `Sloppy` lists what else
it takes for a command.
-/

namespace Sys6

/-- The line is this command, addresses of one to four digits and all. -/
inductive Names : List Byte → Command → Prop
  | peek {A : List Byte} : HexRun 4 A → Names A (.peek (BitVec.ofNat 16 (hexNumber A)))
  | list {A E : List Byte} : HexRun 4 A → HexRun 4 E → Names (A ++ 0x2E#8 :: E)
      (.list (BitVec.ofNat 16 (hexNumber A)) (BitVec.ofNat 16 (hexNumber E)))
  | run {A : List Byte} : HexRun 4 A →
      Names (A ++ [0x20#8, 0x52#8]) (.run (BitVec.ofNat 16 (hexNumber A)))
  | save {A E : List Byte} : HexRun 4 A → HexRun 4 E → Names (A ++ 0x2E#8 :: (E ++ [0x20#8, 0x53#8]))
      (.save (BitVec.ofNat 16 (hexNumber A)) (BitVec.ofNat 16 (hexNumber E)))
  | load {A : List Byte} : HexRun 4 A →
      Names (A ++ [0x20#8, 0x4C#8]) (.load (BitVec.ofNat 16 (hexNumber A)))
  | rewind {A : List Byte} : HexRun 4 A →
      Names (A ++ [0x20#8, 0x57#8]) (.rewind (BitVec.ofNat 16 (hexNumber A)))

/-- A command, but for an address of more than four digits or for what stands behind the letter. -/
inductive Sloppy : List Byte → Prop
  | peek {A : List Byte} : IsHex A → 4 < A.length → Sloppy A
  | list {A E : List Byte} : IsHex A → IsHex E → A ≠ [] → E ≠ [] → 4 < A.length ∨ 4 < E.length →
      Sloppy (A ++ 0x2E#8 :: E)
  | save {A E rest : List Byte} : IsHex A → IsHex E → A ≠ [] → E ≠ [] →
      4 < A.length ∨ 4 < E.length ∨ rest ≠ [] → Sloppy (A ++ 0x2E#8 :: (E ++ 0x20#8 :: 0x53#8 :: rest))
  | letter {A rest : List Byte} {c : Byte} : IsHex A → A ≠ [] → c = 0x52#8 ∨ c = 0x4C#8 ∨ c = 0x57#8 →
      4 < A.length ∨ rest ≠ [] → Sloppy (A ++ 0x20#8 :: c :: rest)

lemma digits_nil : digits [] = [] := rfl

lemma digits_dot (text : List Byte) : digits (0x2E#8 :: text) = [] := digits_of_head (by simp [hexVal])

lemma digits_space (text : List Byte) : digits (0x20#8 :: text) = [] :=
  digits_of_head (by simp [hexVal_space])

lemma hexVals_ne {A : List Byte} (h : A ≠ []) : hexVals A ≠ [] := by simpa [hexVals] using h

lemma length_hexVals (A : List Byte) : (hexVals A).length = A.length := List.length_map ..

lemma command_all {A : List Byte} (h : IsHex A) (hne : A ≠ []) :
    command A = .peek (BitVec.ofNat 16 (hexNumber A)) := by
  have hall := command_hex h hne digits_nil
  rwa [List.append_nil] at hall

lemma command_range {A E rest : List Byte} (hA : IsHex A) (hneA : A ≠ []) (hE : IsHex E) (hneE : E ≠ [])
    (hrest : digits rest = []) : command (A ++ 0x2E#8 :: (E ++ rest)) =
      rangeCommand (BitVec.ofNat 16 (hexNumber A)) (BitVec.ofNat 16 (hexNumber E)) rest := by
  rw [command_hex hA hneA (digits_dot _), dispatch, if_pos rfl, digits_hex hE hrest, if_neg (hexVals_ne hneE),
    afterDigits_hex hE hrest, address_hexVals]

lemma command_letter {A rest : List Byte} (hA : IsHex A) (hne : A ≠ []) :
    command (A ++ 0x20#8 :: rest) = letterCommand (BitVec.ofNat 16 (hexNumber A)) rest := by
  rw [command_hex hA hne (digits_space _), dispatch, if_neg (by decide), if_neg (by decide), if_pos rfl]

/-- A command that is written properly is read as such. -/
lemma Names.command {text : List Byte} {cmd : Command} (h : Names text cmd) :
    command text = cmd ∧ cmd ≠ .bad := by
  cases h with
  | peek hA => exact ⟨command_all hA.hex hA.nonempty, by simp⟩
  | list hA hE =>
    have hcmd := command_range hA.hex hA.nonempty hE.hex hE.nonempty digits_nil
    rw [List.append_nil] at hcmd
    exact ⟨hcmd, by simp⟩
  | run hA => exact ⟨command_run hA, by simp⟩
  | save hA hE => exact ⟨command_range hA.hex hA.nonempty hE.hex hE.nonempty (digits_space _), by simp⟩
  | load hA => exact ⟨command_letter hA.hex hA.nonempty, by simp⟩
  | rewind hA => exact ⟨command_letter hA.hex hA.nonempty, by simp⟩

lemma Names.entry_ne {text : List Byte} {cmd : Command} (h : Names text cmd) : cmd.entry ≠ 0xCC00#16 := by
  cases h <;> simp [Command.entry]

/-- So is one that is not. -/
lemma Sloppy.command {text : List Byte} (h : Sloppy text) :
    command text ≠ .bad ∧ (command text).entry ≠ 0xCC00#16 := by
  cases h with
  | peek hA hlen =>
    have hne : text ≠ [] := by
      rintro rfl
      simp at hlen
    rw [command_all hA hne]
    exact ⟨by simp, by simp [Command.entry]⟩
  | list hA hE hneA hneE =>
    have hcmd := command_range hA hneA hE hneE digits_nil
    rw [List.append_nil] at hcmd
    rw [hcmd]
    exact ⟨by simp [rangeCommand], by simp [rangeCommand, Command.entry]⟩
  | save hA hE hneA hneE =>
    rw [command_range hA hneA hE hneE (digits_space _)]
    exact ⟨by simp [rangeCommand], by simp [rangeCommand, Command.entry]⟩
  | letter hA hne hc =>
    rw [command_letter hA hne]
    obtain rfl | rfl | rfl := hc
    · exact ⟨by simp [letterCommand], by simp [letterCommand, Command.entry]⟩
    · exact ⟨by simp [letterCommand], by simp [letterCommand, Command.entry]⟩
    · exact ⟨by simp [letterCommand], by simp [letterCommand, Command.entry]⟩

/-- At most four digits an address, and nothing behind the letter. -/
def Tidy (text : List Byte) : Prop :=
  (digits text).length ≤ 4 ∧
    if (afterDigits text).head? = some 0x2E#8 then
      (digits (afterDigits text).tail).length ≤ 4 ∧ (afterDigits (afterDigits text).tail).length ≤ 2
    else (afterDigits text).length ≤ 2

instance (text : List Byte) : Decidable (Tidy text) := inferInstanceAs (Decidable (_ ∧ _))

lemma tidy_hex {A rest : List Byte} (hA : IsHex A) (hrest : digits rest = []) : Tidy (A ++ rest) ↔
    A.length ≤ 4 ∧ if rest.head? = some 0x2E#8 then
      (digits rest.tail).length ≤ 4 ∧ (afterDigits rest.tail).length ≤ 2 else rest.length ≤ 2 := by
  unfold Tidy
  rw [digits_hex hA hrest, afterDigits_hex hA hrest, length_hexVals]

lemma tidy_range {A E rest : List Byte} (hA : IsHex A) (hE : IsHex E) (hrest : digits rest = []) :
    Tidy (A ++ 0x2E#8 :: (E ++ rest)) ↔ A.length ≤ 4 ∧ E.length ≤ 4 ∧ rest.length ≤ 2 := by
  rw [tidy_hex hA (digits_dot _), List.head?_cons, if_pos rfl, List.tail_cons, digits_hex hE hrest,
    afterDigits_hex hE hrest, length_hexVals]

lemma tidy_letter {A rest : List Byte} {c : Byte} (hA : IsHex A) :
    Tidy (A ++ 0x20#8 :: c :: rest) ↔ A.length ≤ 4 ∧ rest = [] := by
  rw [tidy_hex hA (digits_space _), List.head?_cons, if_neg (by decide)]
  simp

lemma tidy_all {A : List Byte} (hA : IsHex A) : Tidy A ↔ A.length ≤ 4 := by
  have hall := tidy_hex hA digits_nil
  rw [List.append_nil] at hall
  simpa using hall

lemma Names.tidy {text : List Byte} {cmd : Command} (h : Names text cmd) : Tidy text := by
  cases h with
  | peek hA => exact (tidy_all hA.hex).mpr hA.length_le
  | list hA hE =>
    have htidy := tidy_range hA.hex hE.hex digits_nil
    rw [List.append_nil] at htidy
    exact htidy.mpr ⟨hA.length_le, hE.length_le, Nat.zero_le 2⟩
  | run hA => exact (tidy_letter hA.hex).mpr ⟨hA.length_le, rfl⟩
  | save hA hE =>
    exact (tidy_range hA.hex hE.hex (digits_space _)).mpr ⟨hA.length_le, hE.length_le, Nat.le_refl 2⟩
  | load hA => exact (tidy_letter hA.hex).mpr ⟨hA.length_le, rfl⟩
  | rewind hA => exact (tidy_letter hA.hex).mpr ⟨hA.length_le, rfl⟩

lemma Sloppy.not_tidy {text : List Byte} (h : Sloppy text) : ¬Tidy text := by
  intro htidy
  cases h with
  | peek hA hlen =>
    have hle := (tidy_all hA).mp htidy
    omega
  | @list A E hA hE hneA hneE hlen =>
    have hiff := tidy_range hA hE digits_nil
    rw [List.append_nil] at hiff
    obtain ⟨h1, h2, -⟩ := hiff.mp htidy
    omega
  | save hA hE hneA hneE hlen =>
    obtain ⟨h1, h2, h3⟩ := (tidy_range hA hE (digits_space _)).mp htidy
    obtain hlen | hlen | hrest := hlen
    · omega
    · omega
    · have hpos := List.length_pos_iff.mpr hrest
      simp only [List.length_cons] at h3
      omega
  | letter hA hne hc hlen =>
    obtain ⟨h1, h2⟩ := (tidy_letter hA).mp htidy
    obtain hlen | hrest := hlen
    · omega
    · exact hrest h2

/-- The digits a line starts with. -/
lemma split_digits (text : List Byte) : ∃ A, IsHex A ∧ text = A ++ afterDigits text ∧ digits text = hexVals A ∧
    digits (afterDigits text) = [] := by
  induction text with
  | nil => exact ⟨[], fun c hc => absurd hc List.not_mem_nil, rfl, rfl, rfl⟩
  | cons c text ih =>
    cases hc : hexVal c with
    | none =>
      have hd : digits (c :: text) = [] := by simp [digits, hc]
      have hafter : afterDigits (c :: text) = c :: text := by simp [afterDigits, hd]
      exact ⟨[], fun c hc => absurd hc List.not_mem_nil, by rw [hafter]; rfl, hd, by rw [hafter, hd]⟩
    | some v =>
      obtain ⟨A, hA, htext, hdigits, hrest⟩ := ih
      have hd : digits (c :: text) = v :: digits text := by simp [digits, hc]
      have hafter : afterDigits (c :: text) = afterDigits text := by simp [afterDigits, hd]
      refine ⟨c :: A, fun d hd' => ?_, ?_, ?_, by rw [hafter, hrest]⟩
      · obtain rfl | hd' := List.mem_cons.mp hd'
        · rw [hc]
          rfl
        · exact hA d hd'
      · rw [hafter, List.cons_append, ← htext]
      · rw [hd, hdigits]
        simp [hexVals, hc]

lemma hexRun_of {A : List Byte} (hA : IsHex A) (hne : A ≠ []) (hlen : ¬4 < A.length) : HexRun 4 A :=
  ⟨hA, hne, Nat.not_lt.mp hlen⟩

/-- A letter behind the address. -/
lemma names_or_sloppy_letter {A rest : List Byte} (hA : IsHex A) (hne : A ≠ [])
    (h : letterCommand (BitVec.ofNat 16 (hexNumber A)) rest ≠ .bad) :
    Names (A ++ 0x20#8 :: rest) (letterCommand (BitVec.ofNat 16 (hexNumber A)) rest) ∨
      Sloppy (A ++ 0x20#8 :: rest) := by
  cases rest with
  | nil => exact absurd rfl h
  | cons c rest =>
    by_cases hlen : 4 < A.length ∨ rest ≠ []
    · refine .inr (.letter hA hne ?_ hlen)
      by_contra hc
      simp only [not_or] at hc
      exact h (by rw [letterCommand, if_neg hc.1, if_neg hc.2.1, if_neg hc.2.2])
    · rw [not_or, not_not] at hlen
      obtain ⟨hlen, rfl⟩ := hlen
      have hrun := hexRun_of hA hne hlen
      rw [letterCommand] at h ⊢
      split_ifs at h ⊢ with hR hL hW
      · rw [hR]
        exact .inl (.run hrun)
      · rw [hL]
        exact .inl (.load hrun)
      · rw [hW]
        exact .inl (.rewind hrun)
      · exact absurd rfl h

/-- A second address behind the first one. -/
lemma names_or_sloppy_range {A rest : List Byte} (hA : IsHex A) (hneA : A ≠ [])
    (h : command (A ++ 0x2E#8 :: rest) ≠ .bad) :
    Names (A ++ 0x2E#8 :: rest) (command (A ++ 0x2E#8 :: rest)) ∨ Sloppy (A ++ 0x2E#8 :: rest) := by
  obtain ⟨E, hE, hrest, hdE, htail⟩ := split_digits rest
  generalize afterDigits rest = tail at hrest htail
  subst hrest
  have hneE : E ≠ [] := by
    rintro rfl
    apply h
    rw [command_hex hA hneA (digits_dot _), dispatch, if_pos rfl, hdE]
    rfl
  rw [command_range hA hneA hE hneE htail] at h ⊢
  by_cases hlen : 4 < A.length ∨ 4 < E.length
  · right
    cases tail with
    | nil =>
      rw [List.append_nil]
      exact .list hA hE hneA hneE hlen
    | cons c tail =>
      rw [rangeCommand] at h
      split_ifs at h with hc
      · obtain ⟨rfl, hS⟩ := hc
        obtain ⟨rest', rfl⟩ := List.head?_eq_some_iff.mp hS
        refine .save hA hE hneA hneE ?_
        omega
      · exact absurd rfl h
  · rw [not_or] at hlen
    have hrunA := hexRun_of hA hneA hlen.1
    have hrunE := hexRun_of hE hneE hlen.2
    cases tail with
    | nil =>
      rw [List.append_nil]
      exact .inl (.list hrunA hrunE)
    | cons c tail =>
      rw [rangeCommand] at h ⊢
      split_ifs at h ⊢ with hc
      · obtain ⟨rfl, hS⟩ := hc
        obtain ⟨rest', rfl⟩ := List.head?_eq_some_iff.mp hS
        by_cases hr : rest' = []
        · subst hr
          exact .inl (.save hrunA hrunE)
        · exact .inr (.save hA hE hneA hneE (.inr (.inr hr)))
      · exact absurd rfl h

/-- Nothing else is taken for a command, but a POKE. -/
lemma names_or_sloppy {text : List Byte} (hcolon : ∀ hex rest, text = hex ++ 0x3A#8 :: rest → ¬IsHex hex)
    (h : command text ≠ .bad) : Names text (command text) ∨ Sloppy text := by
  obtain ⟨A, hA, htext, hd, htail⟩ := split_digits text
  generalize afterDigits text = tail at htext htail
  have hne : A ≠ [] := by
    rintro rfl
    have hnone : digits text = [] := hd
    exact h (by rw [command, if_pos hnone])
  subst htext
  cases tail with
  | nil =>
    rw [List.append_nil] at *
    rw [command_all hA hne]
    by_cases hlen : 4 < A.length
    · exact .inr (.peek hA hlen)
    · exact .inl (.peek (hexRun_of hA hne hlen))
  | cons c rest =>
    by_cases hdot : c = 0x2E#8
    · subst hdot
      exact names_or_sloppy_range hA hne h
    by_cases hpoke : c = 0x3A#8
    · subst hpoke
      exact absurd hA (hcolon A rest rfl)
    by_cases hspace : c = 0x20#8
    · subst hspace
      rw [command_letter hA hne] at h ⊢
      exact names_or_sloppy_letter hA hne h
    · refine absurd ?_ h
      rw [command_hex hA hne htail, dispatch, if_neg hdot, if_neg hpoke, if_neg hspace]

namespace Command

/-- The operands of the command are in `$F0/$F1` and `$F2/$F3`. -/
def Operands (sys : System) : Command → Prop
  | .peek a | .run a | .load a | .rewind a => sys.addr = a
  | .list a e | .save a e => sys.addr = a ∧ sys.addr2 = e
  | .poke a _ => sys.addr = a
  | .bad => False

lemma entry_mem {sys : System} {cmd : Command} (h : cmd.Operands sys) :
    cmd.entry ∈ entries ∧ cmd.entry ≠ 0xCF11#16 := by
  cases cmd with
  | bad => exact h.elim
  | _ => simp [Command.entry, entries]

lemma operands_armed {sys : System} {m : Machine} {cmd : Command} (hshows : sys.Shows m)
    (h : cmd.Armed m.bus.work) (hne : cmd ≠ .bad) : cmd.Operands sys := by
  have haddr : sys.addr = m.bus.work.addr := hshows.addr
  have haddr2 : sys.addr2 = m.bus.work.addr2 := hshows.addr2
  cases cmd with
  | bad => exact absurd rfl hne
  | list a e => exact ⟨haddr.trans h.1, haddr2.trans h.2⟩
  | save a e => exact ⟨haddr.trans h.1, haddr2.trans h.2⟩
  | poke a bytes => exact haddr.trans h.1
  | _ => exact haddr.trans h

/-- Code and operands make the command, but for the bytes of a POKE. -/
lemma Operands.unique {sys : System} {cmd cmd' : Command} (h : cmd.Operands sys) (h' : cmd'.Operands sys)
    (hentry : cmd.entry = cmd'.entry) (hpoke : cmd.entry ≠ 0xCC00#16) : cmd = cmd' := by
  cases cmd <;> cases cmd' <;> simp_all [entry, Operands]

end Command

namespace System

/-- The line has made the monitor enter the code of the command, with its operands, before that of
any other; it comes back to `MAIN_LOOP`. -/
structure PerformsIn (sys : System) (n : Nat) (cmd : Command) (sys' : System) : Prop where
  run : sys.steps n = some sys'
  pc : sys'.cpu.pc = cmd.entry
  operands : cmd.Operands sys'
  ret : sys'.ret = 0xCF2B#16
  first : ∀ i, 0 < i → i < n → ∀ sys₁, sys.steps i = some sys₁ → sys₁.cpu.pc ∉ entries

def Performs (sys : System) (cmd : Command) : Prop := ∃ n sys', sys.PerformsIn n cmd sys'

/-- The line is answered with a `?`, and neither RAM nor the tape is touched. -/
structure RefusesIn (sys : System) (n : Nat) (keys : List Byte) (sys' : System) : Prop where
  round : sys.RoundIn n sys'
  out : sys'.tty.out = sys.tty.out ++ heading keys ++ complaint
  ram : ∀ addr, Free addr → sys'.ram addr = sys.ram addr
  tape : sys'.board.tape = sys.board.tape
  untouched : ∀ addr val motorOn, .tapeWrite addr val motorOn ∉ sys.seenIn n

/-- The line is taken for the command that it is, or else it is refused. -/
def Obeys (sys : System) (keys : List Byte) : Prop :=
  (∀ cmd, sys.Performs cmd ↔ Names (typed keys) cmd) ∧
  ((∀ cmd, ¬Names (typed keys) cmd) → ∃ n sys', sys.RefusesIn n keys sys')

/-- Where only the prompt is seen no code of a command is entered. -/
lemma entries_of_seen {sys : System} {n : Nat} {x : Event} (hready : sys.Ready) (hpc : sys.cpu.pc = 0xCF11#16)
    (hseen : sys.seenIn n = [x]) :
    ∀ i, 0 < i → i < n → ∀ sys₁, sys.steps i = some sys₁ → sys₁.cpu.pc ∉ entries := by
  have hm := hready.shows
  obtain ⟨sys', hsteps, -, htrace⟩ := hm.steps n
  rw [htrace] at hseen
  intro i hi hin sys₁ hsteps₁ hentry
  obtain ⟨k, rfl⟩ : ∃ k, n = k + 1 := ⟨n - 1, by omega⟩
  have hfirst : sys.machine.sees = [sys.machine.visit] := Machine.sees_prompt hpc
  have hrest := hseen
  rw [Run.trace, hfirst, List.singleton_append, List.cons.injEq] at hrest
  obtain ⟨rfl, -⟩ := hrest
  have hlead : Run.LeadsIn Machine.step Machine.sees (fun _ => True) (k + 1) sys.machine [sys.machine.visit]
      (Machine.step^[k + 1] sys.machine) := ⟨rfl, hseen, fun _ _ => trivial⟩
  obtain ⟨sys₂, hsteps₂, hshows₂, -⟩ := hm.steps i
  rw [hsteps₁] at hsteps₂
  cases hsteps₂
  rw [hshows₂.pc] at hentry
  have hvisit := Machine.sees_between hpc hlead hi hin _ (Machine.visit_mem_sees hentry)
  exact absurd hvisit List.not_mem_nil

lemma PerformsIn.unique {sys sys₁ sys₂ : System} {n₁ n₂ : Nat} {cmd₁ cmd₂ : Command}
    (hpc : sys.cpu.pc = 0xCF11#16) (h₁ : sys.PerformsIn n₁ cmd₁ sys₁) (h₂ : sys.PerformsIn n₂ cmd₂ sys₂)
    (hpoke : cmd₁.entry ≠ 0xCC00#16) : cmd₁ = cmd₂ := by
  have hpos : ∀ {n sys' cmd}, sys.PerformsIn n cmd sys' → 0 < n := by
    intro n sys' cmd h
    by_contra hn
    obtain rfl : n = 0 := by omega
    obtain rfl : sys = sys' := Option.some.inj h.run
    exact (Command.entry_mem h.operands).2 (h.pc.symm.trans hpc)
  have hentry : ∀ {n sys' cmd}, sys.PerformsIn n cmd sys' → sys'.cpu.pc ∈ entries := by
    intro n sys' cmd h
    rw [h.pc]
    exact (Command.entry_mem h.operands).1
  obtain hlt | rfl | hlt := Nat.lt_trichotomy n₁ n₂
  · exact absurd (hentry h₁) (h₂.first n₁ (hpos h₁) hlt sys₁ h₁.run)
  · obtain rfl : sys₁ = sys₂ := Option.some.inj (h₁.run.symm.trans h₂.run)
    exact h₁.operands.unique h₂.operands (h₁.pc.symm.trans h₂.pc) hpoke
  · exact absurd (hentry h₂) (h₁.first n₂ (hpos h₂) hlt sys₂ h₂.run)

variable {sys : System} {keys : List Byte}

/-- A line that is taken for a command. -/
lemma performs_command (hready : sys.Ready) (hpc : sys.cpu.pc = 0xCF11#16) (hkeys : sys.Hears keys)
    (hne : command (typed keys) ≠ .bad) : ∃ n sys', sys.PerformsIn n (command (typed keys)) sys' := by
  have hm := hready.shows
  have hpc' : sys.machine.pc = 0xCF11#16 := hpc
  have hd : digits (typed keys) ≠ [] := fun hd => hne (by rw [command, if_pos hd])
  obtain ⟨m', ⟨n, hlead⟩, -, -, hord⟩ := Machine.mainLoop_orders hpc' hkeys.1 hkeys.2 hd
  obtain ⟨sys', hsteps, hshows, hseen⟩ := hm.steps n
  rw [hlead.run] at hshows
  rw [hlead.trace] at hseen
  exact ⟨n, sys', hsteps, by rw [hshows.pc, hord.heard.pc], Command.operands_armed hshows hord.armed hne,
    by rw [hshows.ret, hord.ret], entries_of_seen hready hpc hseen⟩

/-- A line that is taken for none. -/
lemma refuses_bad (hready : sys.Ready) (hpc : sys.cpu.pc = 0xCF11#16) (hkeys : sys.Hears keys)
    (hbad : command (typed keys) = .bad) :
    ∃ n sys', sys.RefusesIn n keys sys' ∧ sys.seenIn n = [sys.machine.visit] := by
  have hm := hready.shows
  have hstores : ∀ addr ∈ (command (typed keys)).stores sys.machine.bus.tape, Clear addr := by
    rw [hbad]
    exact fun addr hmem => absurd hmem List.not_mem_nil
  obtain ⟨n, sys', m', hround, hshows, hserved⟩ :=
    round_of_line hready hpc hkeys (by rw [hbad]; rfl) hstores (by rw [hbad]; exact id)
  obtain ⟨x, work, e, -, hseen, hdone⟩ := hserved.done
  rw [hbad] at hdone
  obtain ⟨rfl, hview⟩ := hdone
  refine ⟨n, sys', ⟨hround, ?_, fun addr hf => ?_, ?_, ?_⟩, hseen⟩
  · rw [hshows.out]
    exact congrArg View.out hview
  · rw [hshows.ram_mem hf.clear hf.hi_lt, hm.ram_mem hf.clear hf.hi_lt, hview]
    rfl
  · rw [hshows.board_tape]
    exact congrArg View.tape hview
  · rw [hseen]
    intro addr val motorOn hmem
    cases List.mem_singleton.mp hmem

/-- Then no code of a command is entered before the next prompt. -/
lemma not_performs_bad (hready : sys.Ready) (hpc : sys.cpu.pc = 0xCF11#16) (hkeys : sys.Hears keys)
    (hbad : command (typed keys) = .bad) (cmd : Command) : ¬sys.Performs cmd := by
  rintro ⟨k, sys₁, h⟩
  obtain ⟨n, sys', href, hseen⟩ := refuses_bad hready hpc hkeys hbad
  obtain ⟨hentry, hprompt⟩ := Command.entry_mem h.operands
  have hpos : 0 < k := by
    by_contra hk
    obtain rfl : k = 0 := by omega
    obtain rfl : sys = sys₁ := Option.some.inj h.run
    exact hprompt (h.pc.symm.trans hpc)
  obtain hlt | rfl | hlt := Nat.lt_trichotomy k n
  · refine entries_of_seen hready hpc hseen k hpos hlt sys₁ h.run ?_
    rw [h.pc]
    exact hentry
  · obtain rfl : sys' = sys₁ := Option.some.inj (href.round.run.symm.trans h.run)
    exact hprompt (h.pc.symm.trans href.round.pc)
  · refine h.first n href.round.pos hlt sys' href.round.run ?_
    rw [href.round.pc]
    decide

/-- What is performed is what the line is taken for. -/
lemma performs_iff (hready : sys.Ready) (hpc : sys.cpu.pc = 0xCF11#16) (hkeys : sys.Hears keys)
    (hpoke : (command (typed keys)).entry ≠ 0xCC00#16) (cmd : Command) :
    sys.Performs cmd ↔ command (typed keys) = cmd ∧ cmd ≠ .bad := by
  constructor
  · intro h
    have hne : command (typed keys) ≠ .bad := fun hbad => not_performs_bad hready hpc hkeys hbad cmd h
    obtain ⟨n, sys', h'⟩ := performs_command hready hpc hkeys hne
    obtain ⟨k, sys₁, h⟩ := h
    obtain rfl := h'.unique hpc h hpoke
    exact ⟨rfl, hne⟩
  · rintro ⟨rfl, hne⟩
    exact performs_command hready hpc hkeys hne

/-- The monitor keeps to the table of the commands on all lines but the sloppy ones. -/
theorem command_line_obeyed_iff (hready : sys.Ready) (hpc : sys.cpu.pc = 0xCF11#16) (hkeys : sys.Hears keys)
    (hcolon : ∀ hex rest, typed keys = hex ++ 0x3A#8 :: rest → ¬IsHex hex) :
    sys.Obeys keys ↔ ¬Sloppy (typed keys) := by
  have hpoke : (command (typed keys)).entry ≠ 0xCC00#16 := by
    by_cases hbad : command (typed keys) = .bad
    · rw [hbad]
      decide
    obtain hnames | hsloppy := names_or_sloppy hcolon hbad
    · exact hnames.entry_ne
    · exact hsloppy.command.2
  have hperforms := performs_iff hready hpc hkeys hpoke
  constructor
  · rintro ⟨hcmd, -⟩ hsloppy
    have hnames := (hcmd _).mp ((hperforms _).mpr ⟨rfl, hsloppy.command.1⟩)
    exact hsloppy.not_tidy hnames.tidy
  · intro hsloppy
    have hnames : command (typed keys) ≠ .bad → Names (typed keys) (command (typed keys)) := fun hne =>
      (names_or_sloppy hcolon hne).resolve_right hsloppy
    refine ⟨fun cmd => ⟨fun h => ?_, fun h => ?_⟩, fun hnone => ?_⟩
    · obtain ⟨rfl, hne⟩ := (hperforms cmd).mp h
      exact hnames hne
    · exact (hperforms cmd).mpr h.command
    · have hbad : command (typed keys) = .bad := by
        by_contra hne
        exact hnone _ (hnames hne)
      obtain ⟨n, sys', href, -⟩ := refuses_bad hready hpc hkeys hbad
      exact ⟨n, sys', href⟩

lemma no_colon {text : List Byte} (h : 0x3A#8 ∉ text) (hex rest : List Byte) :
    text = hex ++ 0x3A#8 :: rest → ¬IsHex hex := by
  rintro rfl
  exact absurd (List.mem_append_right hex List.mem_cons_self) h

/-- `1000` is not sloppy. -/
theorem command_line_obeyed_iff_peek : (typing [0x31#8, 0x30#8, 0x30#8, 0x30#8] default).Obeys
    [0x31#8, 0x30#8, 0x30#8, 0x30#8] := by
  have hkeys := hears_typing [0x31#8, 0x30#8, 0x30#8, 0x30#8] default (by decide)
  have htyped : typed [0x31#8, 0x30#8, 0x30#8, 0x30#8] = [0x31#8, 0x30#8, 0x30#8, 0x30#8] := by decide
  have hcolon : ∀ hex rest, typed [0x31#8, 0x30#8, 0x30#8, 0x30#8] = hex ++ 0x3A#8 :: rest → ¬IsHex hex := by
    rw [htyped]
    exact no_colon (by decide)
  refine (command_line_obeyed_iff (ready_typing _ _) rfl hkeys hcolon).mpr fun hsloppy => ?_
  rw [htyped] at hsloppy
  exact hsloppy.not_tidy (by decide)

/-- `12345` is no command, and it is taken for a PEEK of `$2345`. -/
theorem five_digits_accepted :
    (typing [0x31#8, 0x32#8, 0x33#8, 0x34#8, 0x35#8] default).Performs (.peek 0x2345#16) ∧
    (∀ cmd, ¬Names (typed [0x31#8, 0x32#8, 0x33#8, 0x34#8, 0x35#8]) cmd) ∧
    ¬(typing [0x31#8, 0x32#8, 0x33#8, 0x34#8, 0x35#8] default).Obeys [0x31#8, 0x32#8, 0x33#8, 0x34#8, 0x35#8] := by
  have hkeys := hears_typing [0x31#8, 0x32#8, 0x33#8, 0x34#8, 0x35#8] default (by decide)
  have hcmd : command (typed [0x31#8, 0x32#8, 0x33#8, 0x34#8, 0x35#8]) = .peek 0x2345#16 := by decide
  have hperforms := performs_command (ready_typing _ _) rfl hkeys (by rw [hcmd]; nofun)
  rw [hcmd] at hperforms
  have hnone : ∀ cmd, ¬Names (typed [0x31#8, 0x32#8, 0x33#8, 0x34#8, 0x35#8]) cmd := fun cmd h =>
    absurd h.tidy (by decide)
  exact ⟨hperforms, hnone, fun h => hnone _ ((h.1 _).mp hperforms)⟩

end System

end Sys6
