import Sys6.Library.Replay
import Sys6.System.Terminal

/-!
# What a run leaves

Whatever program runs, with all it jumps to and overwrites: the bus answers every read from what was last
written there, and what stands in RAM and on the terminal in the end is what was written.
-/

namespace Sys6

/-- A byte that comes from the terminal, and what goes over the bus. -/
inductive Transfer
  | key (b : Byte)
  | got (addr : Word) (val : Byte)
  | put (addr : Word) (val : Byte)
deriving DecidableEq, Repr

/-- RAM and the registers of the terminal, without a bus. -/
structure Cells where
  ram : Word → Byte
  tty : TTY

namespace Cells

/-- What a read should give. -/
def look (c : Cells) (addr : Word) : Byte :=
  if addr.hi < 0x80#8 then c.ram addr
  else if addr.hi = 0x80#8 then (c.tty.read (word 0#8 addr.lo)).1
  else if addr.hi < 0xC0#8 then 0xFF#8
  else monitor.image (addr - monitor.kRomBase)

def next (c : Cells) : Transfer → Cells
  | .key b => { c with tty := c.tty.receive b }
  | .got addr _ =>
    if addr.hi = 0x80#8 then { c with tty := (c.tty.read (word 0#8 addr.lo)).2 } else c
  | .put addr val =>
    if addr.hi < 0x80#8 then { c with ram := Function.update c.ram addr val }
    else if addr.hi = 0x80#8 then { c with tty := c.tty.write (word 0#8 addr.lo) val }
    else c

/-- The answer is the one the cells give. -/
def Fits (c : Cells) : Transfer → Prop
  | .got addr val => val = c.look addr
  | _ => True

end Cells

namespace TTY

lemma out_read (tty : TTY) (offset : Word) : (tty.read offset).2.out = tty.out := by
  simp only [read, readSerial, readTape]
  split_ifs
  any_goals rfl
  split
  · split <;> rfl
  · rfl

lemma out_write (tty : TTY) (offset : Word) (val : Byte) :
    (tty.write offset val).out = tty.out ++ if offset = 1#16 then [val] else [] := by
  simp only [write, writeSerial, writeTape]
  split_ifs with h1 h2 h3 h4
  any_goals simp
  any_goals (exfalso; bv_omega)
  split <;> rfl

lemma out_receive (tty : TTY) (b : Byte) : (tty.receive b).out = tty.out := by
  unfold receive
  split_ifs <;> rfl

end TTY

namespace Transfer

/-- The writes, in order. -/
def puts (log : List Transfer) : List (Word × Byte) :=
  log.filterMap fun
    | .put addr val => some (addr, val)
    | _ => none

/-- What is written to `TTY_DATA`, in order. -/
def sent (log : List Transfer) : List Byte :=
  log.filterMap fun
    | .put addr val => if addr = 0x8001#16 then some val else none
    | _ => none

variable {c : Cells}

lemma ram_next (t : Transfer) {addr : Word} (haddr : addr.hi < 0x80#8) (log : List Transfer) (f : Word → Byte)
    (h : c.ram addr = (Replay.lastWrite addr (puts log)).getD (f addr)) :
    (c.next t).ram addr = (Replay.lastWrite addr (puts (log ++ [t]))).getD (f addr) := by
  have hputs : ∀ t, puts (log ++ [t]) = puts log ++ puts [t] := fun t => List.filterMap_append
  rw [hputs]
  cases t with
  | key b => simpa [Cells.next, puts] using h
  | got a v =>
    have hram : (c.next (.got a v)).ram = c.ram := by
      simp only [Cells.next]
      split_ifs <;> rfl
    rw [hram, h]
    simp [puts]
  | put a v =>
    have hone : puts [Transfer.put a v] = [(a, v)] := rfl
    rw [hone, Replay.lastWrite_update, Function.update_apply]
    by_cases ha : addr = a
    · subst ha
      simp [Cells.next, haddr]
    · rw [if_neg ha, ← h]
      simp only [Cells.next]
      split_ifs
      · exact Function.update_of_ne ha _ _
      · rfl
      · rfl

/-- RAM holds what has been written last. -/
lemma ram_foldl (c : Cells) (log : List Transfer) {addr : Word} (haddr : addr.hi < 0x80#8) :
    (log.foldl Cells.next c).ram addr = (Replay.lastWrite addr (puts log)).getD (c.ram addr) := by
  induction log using List.reverseRecOn with
  | nil => rfl
  | append_singleton log t ih =>
    rw [List.foldl_append]
    exact ram_next t haddr log c.ram ih

lemma out_next (c : Cells) (t : Transfer) : (c.next t).tty.out = c.tty.out ++ sent [t] := by
  cases t with
  | key b => simp [Cells.next, sent, TTY.out_receive]
  | got a v =>
    simp only [Cells.next]
    split_ifs <;> simp [sent, TTY.out_read]
  | put a v =>
    have hdata : a = 0x8001#16 ↔ a.hi = 0x80#8 ∧ word 0#8 a.lo = 1#16 := by
      constructor
      · rintro rfl
        decide
      · rintro ⟨hhi, hlo⟩
        have hlo' : a.lo = 1#8 := by
          have := congrArg Word.lo hlo
          rwa [word_lo] at this
        rw [← word_hi_lo a, hhi, hlo']
        rfl
    have hsent : sent [.put a v] = if a = 0x8001#16 then [v] else [] := by
      unfold sent
      split_ifs with ha <;> simp [ha]
    rw [hsent]
    simp only [Cells.next]
    by_cases h80 : a.hi = 0x80#8
    · have h2 : ¬a.hi < 0x80#8 := by
        rw [h80]
        decide
      rw [if_neg h2, if_pos h80, TTY.out_write]
      simp only [hdata, h80, true_and]
    · rw [if_neg (mt hdata.mp fun h => h80 h.1), List.append_nil]
      split_ifs <;> rfl

/-- The terminal shows all that was sent to it. -/
lemma out_foldl (c : Cells) (log : List Transfer) : (log.foldl Cells.next c).tty.out = c.tty.out ++ sent log := by
  induction log generalizing c with
  | nil => exact (List.append_nil _).symm
  | cons t log ih =>
    have hsent : sent (t :: log) = sent [t] ++ sent log := List.filterMap_append (l := [t])
    rw [List.foldl_cons, ih, out_next, hsent, List.append_assoc]

end Transfer

namespace System

def cells (sys : System) : Cells := ⟨sys.cpu.bus.devices.ram.data, sys.tty⟩

abbrev noteGot (w : Wired DevicePtr Devices) (addr : Word) : List Transfer := [.got addr (w.read addr).1]

abbrev notePut (_ : Wired DevicePtr Devices) (addr : Word) (val : Byte) : List Transfer := [.put addr val]

/-- The transfers of the coming `step`. -/
def transfers (sys : System) : List Transfer := sys.pulled.map .key ++ sys.poll.cpu.sees noteGot notePut

/-- The transfers of `n` steps. -/
def ledger : Nat → System → List Transfer
  | 0, _ => []
  | n + 1, sys => sys.transfers ++ (sys.step.map (ledger n)).getD []

/-- On the wiring of the system, the transfers lead from `c₀` to what the devices hold. -/
structure Accounts (c₀ : Cells) (w : Watched noteGot notePut) : Prop where
  bus : w.bus.bus = Board.systemBus
  rom : w.bus.devices.rom = ⟨monitor.kRomSize, monitor.image⟩
  right : Replay.Right Cells.Fits Cells.next c₀ w.seen ⟨w.bus.devices.ram.data, w.bus.devices.tty⟩

lemma read_cells {devices : Devices} (hrom : devices.rom = ⟨monitor.kRomSize, monitor.image⟩) (addr : Word) :
    let c : Cells := ⟨devices.ram.data, devices.tty⟩
    let r := Wired.read ⟨Board.systemBus, devices⟩ addr
    r.1 = c.look addr ∧ r.2.bus = Board.systemBus ∧ r.2.devices.rom = devices.rom ∧
      (⟨r.2.devices.ram.data, r.2.devices.tty⟩ : Cells) = c.next (.got addr r.1) := by
  have hfind := Board.findMapping_systemBus addr
  unfold Wired.read
  rw [hfind]
  simp only [Cells.look, Cells.next]
  by_cases h2 : addr.hi < 0x80#8
  · have h80 : addr.hi ≠ 0x80#8 := by
      intro h
      rw [h] at h2
      exact absurd h2 (by decide)
    rw [if_pos h2, if_pos h2, if_neg h80]
    simp only [BitVec.sub_zero]
    exact ⟨rfl, trivial, rfl, rfl⟩
  · by_cases h80 : addr.hi = 0x80#8
    · simp only [if_neg h2, if_pos h80, Board.sub_page_tty h80]
      exact ⟨rfl, trivial, rfl, rfl⟩
    · simp only [if_neg h2, if_neg h80]
      split_ifs
      · exact ⟨rfl, rfl, rfl, rfl⟩
      · refine ⟨?_, rfl, rfl, rfl⟩
        show devices.rom.read (addr - 0xC000#16) = _
        rw [hrom]
        rfl

lemma write_cells (devices : Devices) (addr : Word) (val : Byte) :
    let c : Cells := ⟨devices.ram.data, devices.tty⟩
    let w := Wired.write ⟨Board.systemBus, devices⟩ addr val
    w.bus = Board.systemBus ∧ w.devices.rom = devices.rom ∧
      (⟨w.devices.ram.data, w.devices.tty⟩ : Cells) = c.next (.put addr val) := by
  have hfind := Board.findMapping_systemBus addr
  unfold Wired.write
  rw [hfind]
  simp only [Cells.next]
  by_cases h2 : addr.hi < 0x80#8
  · simp only [if_pos h2, BitVec.sub_zero]
    exact ⟨trivial, rfl, rfl⟩
  · by_cases h80 : addr.hi = 0x80#8
    · simp only [if_neg h2, if_pos h80, Board.sub_page_tty h80]
      exact ⟨trivial, rfl, rfl⟩
    · simp only [if_neg h2, if_neg h80]
      split_ifs
      · exact ⟨rfl, rfl, rfl⟩
      · exact ⟨rfl, rfl, rfl⟩

lemma keeps_accounts (c₀ : Cells) : Isa.Keeps (Accounts c₀) where
  read w addr h := by
    obtain ⟨⟨bus, devices⟩, seen⟩ := w
    obtain ⟨rfl, hrom, hright⟩ := h
    obtain ⟨hval, hbus, hrom', hcells⟩ := read_cells hrom addr
    refine ⟨hbus, hrom'.trans hrom, ?_⟩
    have hnext := hright.snoc (e := Transfer.got addr (Wired.read ⟨Board.systemBus, devices⟩ addr).1) hval
    rw [← hcells] at hnext
    exact hnext
  write w addr v h := by
    obtain ⟨⟨bus, devices⟩, seen⟩ := w
    obtain ⟨rfl, hrom, hright⟩ := h
    obtain ⟨hbus, hrom', hcells⟩ := write_cells devices addr v
    refine ⟨hbus, hrom'.trans hrom, ?_⟩
    have hnext := hright.snoc (e := Transfer.put addr v) trivial
    rw [← hcells] at hnext
    exact hnext

lemma cells_poll (sys : System) :
    Replay.Right Cells.Fits Cells.next sys.cells (sys.pulled.map Transfer.key) sys.poll.cells := by
  unfold poll pulled
  cases hr : sys.tty.rxReady with
  | true =>
    rw [pull_busy hr]
    exact Replay.Right.nil _
  | false =>
    cases ht : sys.term 0 with
    | none =>
      rw [pull_none hr ht]
      exact Replay.Right.nil _
    | some b =>
      rw [pull_some hr ht]
      exact (Replay.Right.nil sys.cells).snoc (e := Transfer.key b) trivial

lemma Ready.step_accounts {sys : System} (h : sys.Ready) : ∃ sys', sys.step = some sys' ∧ sys'.Ready ∧
    Replay.Right Cells.Fits Cells.next sys.cells sys.transfers sys'.cells := by
  have hp := h.poll
  have hwire : sys.poll.cpu.bus = sys.machine.poll.bus.wire := congrArg Isa.Arch.bus h.shows.poll.arch
  obtain ⟨sys', hstep, hshows⟩ := h.shows.step
  refine ⟨sys', hstep, hshows.ready, ?_⟩
  obtain ⟨cpu', w', hrun, -, harch, hmap⟩ := CPU6502.executeInstruction_watched noteGot notePut hp.settled []
  have hcpu : sys'.cpu = cpu' := by
    unfold step at hstep
    rw [hrun] at hstep
    exact (congrArg System.cpu (Option.some.inj hstep)).symm
  have hstart : Accounts sys.poll.cells (⟨sys.poll.cpu.bus, []⟩ : Watched noteGot notePut) := by
    refine ⟨?_, ?_, Replay.Right.nil _⟩
    · rw [hwire]
      rfl
    · rw [hwire]
      rfl
  have hright := (CPU6502.codeStep_keeps (keeps_accounts sys.poll.cells)
    (s := (sys.poll.cpu.withBus (⟨sys.poll.cpu.bus, []⟩ : Watched noteGot notePut)).arch) hstart).right
  have hcells : sys'.cells = ⟨w'.arch.bus.bus.devices.ram.data, w'.arch.bus.bus.devices.tty⟩ := by
    have hb := congrArg Isa.Arch.bus hmap
    unfold cells tty
    rw [hcpu, show cpu'.bus = _ from hb.symm]
    rfl
  rw [transfers, CPU6502.sees_eq _ _ hp.settled, hcells, harch]
  exact sys.cells_poll.append hright

lemma Ready.run_accounts {sys : System} (h : sys.Ready) (n : Nat) : ∃ sys', sys.steps n = some sys' ∧ sys'.Ready ∧
    Replay.Right Cells.Fits Cells.next sys.cells (sys.ledger n) sys'.cells := by
  induction n generalizing sys with
  | zero => exact ⟨sys, rfl, h, Replay.Right.nil _⟩
  | succ n ih =>
    obtain ⟨sys₁, hstep, h₁, hright⟩ := h.step_accounts
    obtain ⟨sys', hrun, h', hright'⟩ := ih h₁
    refine ⟨sys', by rw [steps, hstep]; exact hrun, h', ?_⟩
    simp only [ledger, hstep, Option.map_some, Option.getD_some]
    exact hright.append hright'

/-- In any run of any program a read of RAM gives what was written there last, ROM gives the monitor and what
is not mapped gives `$FF`. RAM holds in the end what was written last, and the terminal shows all that was
sent to it, in order. -/
theorem reads_see_last_write {term : Nat → Option Byte} {tapeBacking : Option IoStream} {sys : System}
    (h : Reachable term tapeBacking sys) (n : Nat) : ∃ sys', sys.steps n = some sys' ∧
      (∀ pre addr val post, sys.ledger n = pre ++ .got addr val :: post →
        (addr.hi < 0x80#8 → val = (Replay.lastWrite addr (Transfer.puts pre)).getD (sys.cells.ram addr)) ∧
        (addr.hi = 0x80#8 → val = ((pre.foldl Cells.next sys.cells).tty.read (word 0#8 addr.lo)).1) ∧
        (0x80#8 < addr.hi → addr.hi < 0xC0#8 → val = 0xFF#8) ∧
        (0xC0#8 ≤ addr.hi → val = monitor.image (addr - monitor.kRomBase))) ∧
      (∀ addr, addr.hi < 0x80#8 →
        sys'.cells.ram addr = (Replay.lastWrite addr (Transfer.puts (sys.ledger n))).getD (sys.cells.ram addr)) ∧
      sys'.tty.out = sys.tty.out ++ Transfer.sent (sys.ledger n) := by
  obtain ⟨sys', hrun, -, hentries, hfinal⟩ := h.ready.run_accounts n
  refine ⟨sys', hrun, fun pre addr val post heq => ?_, fun addr haddr => ?_, ?_⟩
  · have hval : val = (pre.foldl Cells.next sys.cells).look addr := hentries pre _ post heq
    rw [hval]
    unfold Cells.look
    refine ⟨fun h2 => ?_, fun h80 => ?_, fun h81 hc0 => ?_, fun hc0 => ?_⟩
    · rw [if_pos h2, Transfer.ram_foldl _ _ h2]
    · rw [if_neg (by rw [h80]; decide), if_pos h80]
    · rw [if_neg (by bv_omega), if_neg (by bv_omega), if_pos hc0]
    · rw [if_neg (by bv_omega), if_neg (by bv_omega), if_neg (by bv_omega)]
  · rw [hfinal, Transfer.ram_foldl _ _ haddr]
  · have hout : sys'.tty.out = sys'.cells.tty.out := rfl
    rw [hout, hfinal, Transfer.out_foldl]
    rfl

/-- A fresh system reads `BRK` in its blank RAM. -/
theorem reads_see_last_write_fresh : ∃ sys sys' : System, System.create (fun _ => none) none = .ok sys ∧
    sys.steps 3 = some sys' ∧ sys'.tty.out = Transfer.sent (sys.ledger 3) := by
  have hc := create_ok (fun _ => none) none
  obtain ⟨sys', hrun, -, -, hout⟩ := reads_see_last_write (.create hc) 3
  exact ⟨_, sys', hc, hrun, hout⟩

end System

end Sys6
