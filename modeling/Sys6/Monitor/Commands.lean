import Sys6.Monitor.Dispatch

/-!
# The commands

Every command comes back to its caller, with three exceptions: `R` leaves the monitor, a range
up to the last address never ends, and a store at an address that is not clear can do anything.
-/

namespace Sys6

def View.printed (text : List Byte) (v : View) : View := { v with out := v.out ++ text }

namespace Command

/-- What the command has done when it comes back. -/
def Done (v : View) (e : List Event) (v' : View) : Command → Prop
  | .peek _ => Machine.Peeked v e v'
  | .list _ _ => Machine.Listed v e v'
  | .poke _ bytes => Poked v bytes e v'
  | .run _ => False
  | .save a last =>
    if v.tape.backing.isSome ∧ a ≤ last then Machine.Saved v e v'
    else e = [v.visit 0xD000#16] ∧ v' = v.printed complaint
  | .load _ =>
    if v.tape.backing.isSome then Machine.Loaded v (v.tape.control 0x01#8).load e v'
    else e = [v.visit 0xD100#16] ∧ v' = v.printed complaint
  | .rewind _ =>
    if v.tape.backing.isSome then Machine.Rewound v e v'
    else e = [v.visit 0xD200#16] ∧ v' = v.printed complaint
  | .bad => e = [] ∧ v' = v.printed complaint

/-- What it reads are no registers. -/
def Quiet : Command → Prop
  | .peek a => Sys6.Quiet a
  | .list a last | .save a last => QuietRange a last
  | _ => True

/-- Where it stores. -/
def stores (tape : Tape) : Command → List Word
  | .poke a bytes => addresses a bytes.length
  | .load a => if tape.backing.isSome then addresses a (tape.control 0x01#8).load.1.length else []
  | _ => []

/-- It never comes back. -/
def Endless (tape : Tape) : Command → Prop
  | .list _ last => last = 0xFFFF#16
  | .save _ last => tape.backing.isSome ∧ last = 0xFFFF#16
  | _ => False

def isRun : Command → Bool
  | .run _ => true
  | _ => false

end Command

namespace Machine

variable {q : Prop} {m : Machine} {cmd : Command}

/-- `POKE` or `LOAD` is about to store at an address that is not clear. -/
structure Astray (e : List Event) (m : Machine) : Prop where
  seen : ∀ x ∈ e, commandEvent x
  pc : m.pc = 0xCC1C#16 ∨ m.pc = 0xD134#16
  y : m.y = 0#8
  not_clear : ¬Clear m.bus.work.addr

lemma visit_eq {pc : Word} (hpc : m.pc = pc) : m.visit = m.view.visit pc := by
  rw [visit, hpc]
  rfl

/-- A command that stores comes back, or it goes astray. -/
lemma carries_poke {a : Word} {bytes : List Byte} (hpc : m.pc = 0xCC00#16)
    (h : (Command.poke a bytes).Armed m.bus.work) :
    Finishes m 5 q (Poked m.view bytes) ∨
    (∃ addr ∈ addresses a bytes.length, ¬Clear addr) ∧ Does m 5 m.sp q Astray := by
  obtain ⟨rfl, pre, rest, hreading, rfl⟩ := h
  obtain hdone | hstray := poke_does (q := q) hpc hreading
  · exact .inl (hdone.mono (by omega) id fun _ _ => id)
  · refine .inr ⟨?_, hstray.mono (by omega) id fun e m' hm => ⟨hm.seen, .inl hm.pc, hm.y, hm.not_clear⟩⟩
    obtain ⟨e, m', -, -, -, hm⟩ := hstray
    exact ⟨_, hm.mem, hm.not_clear⟩

lemma carries_load {a : Word} (hpc : m.pc = 0xD100#16) (h : m.bus.work.addr = a) :
    Finishes m 5 q (Command.Done m.view · · (.load a)) ∨
    (∃ addr ∈ (Command.load a).stores m.bus.tape, ¬Clear addr) ∧
      Does m 5 m.sp q Astray := by
  subst h
  cases htape : m.bus.tape.backing.isSome with
  | true =>
    obtain hdone | hstray := load_does (q := q) hpc htape
    · refine .inl (hdone.mono (by omega) id fun e v hv => ?_)
      simpa [Command.Done, htape] using hv
    · refine .inr ⟨?_, hstray.mono (by omega) id fun e m' hm => ⟨hm.seen, .inr hm.pc, hm.y, hm.not_clear⟩⟩
      obtain ⟨e, m', -, -, -, hm⟩ := hstray
      refine ⟨_, ?_, hm.not_clear⟩
      simpa [Command.stores, htape] using hm.mem
  | false =>
    refine .inl ((load_refuses hpc htape).mono (by omega) id ?_)
    rintro e v ⟨rfl, rfl⟩
    rw [visit_eq hpc]
    simp [Command.Done, htape, View.printed, printed]

lemma carries_save {a last : Word} (hpc : m.pc = 0xD000#16)
    (h : m.bus.work.addr = a ∧ m.bus.work.addr2 = last) (hends : ¬(Command.save a last).Endless m.bus.tape) :
    Finishes m 5 (QuietRange a last) (Command.Done m.view · · (.save a last)) := by
  obtain ⟨rfl, rfl⟩ := h
  by_cases hrange : m.bus.tape.backing.isSome ∧ m.bus.work.addr ≤ m.bus.work.addr2
  · have hlast : m.bus.work.addr2 ≠ 0xFFFF#16 := fun hlast => hends ⟨hrange.1, hlast⟩
    refine (save_finishes hpc hrange.1 hrange.2 hlast id).mono (by omega) id fun e v hv => ?_
    simpa [Command.Done, hrange] using hv
  · refine (save_refuses hpc hrange).mono (by omega) id ?_
    rintro e v ⟨rfl, rfl⟩
    rw [visit_eq hpc]
    exact (if_neg hrange).mpr ⟨rfl, rfl⟩

lemma carries_rewind {a : Word} (hpc : m.pc = 0xD200#16) :
    Finishes m 5 q (Command.Done m.view · · (.rewind a)) := by
  cases htape : m.bus.tape.backing.isSome with
  | true =>
    refine (rewind_finishes hpc htape).mono (by omega) id fun e v hv => ?_
    simpa [Command.Done, htape] using hv
  | false =>
    refine (rewind_refuses hpc htape).mono (by omega) id ?_
    rintro e v ⟨rfl, rfl⟩
    rw [visit_eq hpc]
    simp [Command.Done, htape, View.printed, printed]

/-- A range up to the last address is gone through for ever. -/
lemma endless_stays (hpc : m.pc = cmd.entry) (h : cmd.Armed m.bus.work) (hends : cmd.Endless m.bus.tape) :
    Stays m 5 m.sp commandEvent := by
  cases cmd with
  | list a last =>
    refine (list_stays hpc (h.2.trans hends)).mono le_rfl ?_
    rintro (_ | _ | _) hev
    · exact ⟨by rw [hev]; decide, by rw [hev]; decide⟩
    · trivial
    · trivial
  | save a last =>
    refine (save_stays hpc hends.1 (h.2.trans hends.2)).mono (by omega) ?_
    rintro (_ | _ | _) hev
    · exact ⟨by rw [hev]; decide, by rw [hev]; decide⟩
    · trivial
    · trivial
  | _ => exact hends.elim

/-- What becomes of a command once its arguments are in the workspace. -/
theorem carries (hpc : m.pc = cmd.entry) (h : cmd.Armed m.bus.work) :
    cmd.isRun ∨ Finishes m 5 cmd.Quiet (cmd.Done m.view) ∨
    (cmd.Endless m.bus.tape ∧ Stays m 5 m.sp commandEvent) ∨
    (∃ addr ∈ cmd.stores m.bus.tape, ¬Clear addr) ∧ Does m 5 m.sp True Astray := by
  by_cases hends : cmd.Endless m.bus.tape
  · exact .inr (.inr (.inl ⟨hends, endless_stays hpc h hends⟩))
  cases cmd with
  | peek a =>
    have haddr : m.bus.work.addr = a := h
    refine .inr (.inl (peek_finishes hpc fun hq => ?_))
    rwa [haddr]
  | list a last =>
    obtain ⟨haddr, haddr2⟩ := h
    refine .inr (.inl (list_finishes hpc (by rw [haddr2]; exact hends) fun hq => ?_))
    rwa [haddr, haddr2]
  | poke a bytes =>
    obtain hdone | hstray := carries_poke (q := True) hpc h
    · exact .inr (.inl (hdone.mono le_rfl (fun _ => trivial) fun _ _ => id))
    · exact .inr (.inr (.inr hstray))
  | run a => exact .inl rfl
  | save a last => exact .inr (.inl (carries_save hpc h hends))
  | load a =>
    obtain hdone | hstray := carries_load (q := True) hpc h
    · exact .inr (.inl (hdone.mono le_rfl (fun _ => trivial) fun _ _ => id))
    · exact .inr (.inr (.inr hstray))
  | rewind a => exact .inr (.inl (carries_rewind hpc))
  | bad =>
    have hpc : m.pc = 0xC888#16 := hpc
    exact .inr (.inl (((dispatch_complains hpc).finishes ⟨rfl, rfl⟩).mono (by omega) id fun _ _ => id))

end Machine

end Sys6
