import Sys6.Monitor.Stores

/-!
# POKE

`POKE` reads the rest of the line byte by byte, stores each where the cursor stands, and stops
at the end of the line or at the first character that is neither a space nor a hex digit.
-/

namespace Sys6

open Machine (byteDigits shiftByte)

/-- The byte `PARSE_BYTE` reads at the start of `text`. -/
def byteValue (text : List Byte) : Byte := (byteDigits text).foldl shiftByte 0#8

lemma length_byteDigits_le (text : List Byte) : (byteDigits text).length ≤ text.length :=
  (List.length_take_le' 2 (digits text)).trans (length_digits_le text)

/-- The bytes `POKE` finds in `text`. -/
def tokens : List Byte → List Byte
  | [] => []
  | c :: text =>
    if c = 0x20#8 then tokens text
    else if digits (c :: text) = [] then []
    else byteValue (c :: text) :: tokens ((c :: text).drop (byteDigits (c :: text)).length)
termination_by text => text.length
decreasing_by
  · simp
  · rename_i hdigits
    have hpos : 0 < (byteDigits (c :: text)).length := by
      rw [byteDigits, List.length_take]
      have := List.length_pos_iff.mpr hdigits
      omega
    rw [List.length_drop, List.length_cons]
    omega

/-- What is seen of `POKE`. -/
def pokeEvent : Event → Prop
  | .visit pc _ _ => pc = 0xCC00#16
  | .access pc _ _ => pc = 0xCC1C#16
  | .tapeWrite _ _ _ => False

lemma commandEvent_poke {x : Event} (h : pokeEvent x) : commandEvent x := by
  cases x with
  | visit pc addr addr2 =>
    obtain rfl : pc = 0xCC00#16 := h
    exact ⟨by decide, by decide⟩
  | access pc addr data => trivial
  | tapeWrite addr val motorOn => trivial

/-- `POKE` has stored `bytes`. -/
structure Poked (v : View) (bytes : List Byte) (e : List Event) (v' : View) : Prop where
  seen : ∀ x ∈ e, pokeEvent x
  accessed : e.filterMap Event.accessed = (addresses v.work.addr bytes.length).zip bytes
  view : ∃ x y work, v' = { v.stores v.work.addr bytes with x := x, y := y, work := work }

/-- Some bytes and then some more. -/
lemma Poked.trans {v v₁ v' : View} {bytes more : List Byte} {e e' : List Event} (h : Poked v bytes e v₁)
    (haddr : v₁.work.addr = v.work.addr + BitVec.ofNat 16 bytes.length) (h' : Poked v₁ more e' v') :
    Poked v (bytes ++ more) (e ++ e') v' := by
  obtain ⟨x, y, work, hview⟩ := h.view
  obtain ⟨x', y', work', hview'⟩ := h'.view
  refine ⟨fun ev hev => ?_, ?_, x', y', work', ?_⟩
  · obtain hev | hev := List.mem_append.mp hev
    · exact h.seen ev hev
    · exact h'.seen ev hev
  · have hlen : (addresses v.work.addr bytes.length).length = bytes.length := by simp [addresses]
    rw [List.filterMap_append, h.accessed, h'.accessed, haddr, List.length_append, addresses_append,
      List.zip_append hlen]
  · rw [hview', haddr, hview, View.stores_append]
    rfl

namespace Machine

variable {q : Prop} {m : Machine} {pre rest : List Byte} {c : Byte}

lemma poke_end (hpc : m.pc = 0xCC00#16) (h : Reading m.bus.work pre []) :
    Reaches m 0 m.sp q [m.visit] (At 0xCC27#16 m.sp Any m.view) := by
  obtain ⟨a, x, y, sp, p, pc, halted, w, low, stack, high, input, out, tape⟩ := m
  obtain rfl : pc = _ := hpc
  have hsite : 0xCC00#16 ∈ entries := by decide
  exact .entry line_CC00 hsite rfl (.finish 2 (by simp [h.done]))

lemma poke_space (hpc : m.pc = 0xCC00#16) (h : Reading m.bus.work pre (0x20#8 :: rest)) :
    Reaches m 0 m.sp q [m.visit] (At 0xCC00#16 m.sp Any
      { m.view with
        x := m.bus.work.linePos
        work := { m.bus.work with linePos := m.bus.work.linePos + 1#8 } }) := by
  obtain ⟨a, x, y, sp, p, pc, halted, w, low, stack, high, input, out, tape⟩ := m
  obtain rfl : pc = _ := hpc
  have hsite : 0xCC00#16 ∈ entries := by decide
  simp only at h
  exact .entry line_CC00 hsite rfl (.finish 8 (by simp [h.more, Board.zp_lineBuf _ h.inBuf, h.char]))

/-- Up to the call of `PARSE_BYTE`. -/
lemma poke_token (hpc : m.pc = 0xCC00#16) (h : Reading m.bus.work pre (c :: rest)) (hc : c ≠ 0x20#8) :
    Reaches m 0 m.sp q [m.visit] (At 0xCC13#16 m.sp Any { m.view with x := m.bus.work.linePos }) := by
  obtain ⟨a, x, y, sp, p, pc, halted, w, low, stack, high, input, out, tape⟩ := m
  obtain rfl : pc = _ := hpc
  have hsite : 0xCC00#16 ∈ entries := by decide
  simp only at h
  exact .entry line_CC00 hsite rfl (.finish 6 (by simp [h.more, Board.zp_lineBuf _ h.inBuf, h.char, hc]))

/-- `PARSE_BYTE` finds no digit, and the line is over for `POKE`. -/
lemma poke_stop (hpc : m.pc = 0xCC13#16) (h : Reading m.bus.work pre rest) (hd : digits rest = []) :
    Reaches m 4 m.sp q [] (At 0xCC27#16 m.sp Any
      { m.view with
        x := m.bus.work.linePos
        work := { m.bus.work with byteVal := 0#8, scratchLo := 0#8 } }) := by
  obtain ⟨a, x, y, sp, p, pc, halted, w, low, stack, high, input, out, tape⟩ := m
  obtain rfl : pc = _ := hpc
  refine .next (call_parseByte line_CC13 h) le_rfl fun _ _ _ _ _ hr => ?_
  have hcarry : PFlags.c _ = decide (digits rest = []) := hr
  exact .finish 1 (by simp [hcarry, hd, byteDigits])

/-- A byte has been read and is about to be stored. -/
lemma poke_read (hpc : m.pc = 0xCC13#16) (h : Reading m.bus.work pre rest) (hd : digits rest ≠ []) :
    Reaches m 4 m.sp q [] (At 0xCC1C#16 m.sp (fun a _ _ => a = byteValue rest)
      { m.view with
        x := m.bus.work.linePos + 1#8
        y := 0#8
        work := { m.bus.work with
          byteVal := byteValue rest
          linePos := m.bus.work.linePos + BitVec.ofNat 8 (byteDigits rest).length
          scratchLo := BitVec.ofNat 8 (byteDigits rest).length } }) := by
  obtain ⟨a, x, y, sp, p, pc, halted, w, low, stack, high, input, out, tape⟩ := m
  obtain rfl : pc = _ := hpc
  have hmin : min (digits rest).length 1 = 1 := by
    have := List.length_pos_iff.mpr hd
    omega
  refine .next (call_parseByte line_CC13 h) le_rfl fun _ _ _ _ _ hr => ?_
  have hcarry : PFlags.c _ = decide (digits rest = []) := hr
  exact .finish 3 (by simp [hcarry, hd, hmin, byteValue])

/-- The byte is stored and the cursor moves on. -/
lemma poke_store (hpc : m.pc = 0xCC1C#16) (hy : m.y = 0#8) (hclear : Clear m.bus.work.addr) :
    Reaches m 0 m.sp q [.access 0xCC1C#16 m.bus.work.addr m.a] (At 0xCC00#16 m.sp Any
      { m.view.stores m.bus.work.addr [m.a] with
        work := m.bus.work.setAddr (m.bus.work.addr + 1#16) }) := by
  obtain ⟨a, x, y, sp, p, pc, halted, w, low, stack, high, input, out, tape⟩ := m
  obtain rfl : pc = _ := hpc
  have hsite : 0xCC1C#16 ∈ cursorSites := by decide
  have hadv : Advances 0xCC1E#16 := ⟨line_CC1E, line_CC20, line_CC22⟩
  refine .nextSeen (storeCursor line_CC1C hsite hy hclear) le_rfl fun _ _ _ _ _ _ => ?_
  refine .next (advance hadv) le_rfl fun _ _ _ _ _ _ => ?_
  exact .finish 1 (by simp)

/-- One byte of the line. -/
lemma poke_round (hpc : m.pc = 0xCC00#16) (h : Reading m.bus.work pre (c :: rest)) (hc : c ≠ 0x20#8)
    (hd : digits (c :: rest) ≠ []) (hclear : Clear m.bus.work.addr) :
    Reaches m 4 m.sp q [m.visit, .access 0xCC1C#16 m.bus.work.addr (byteValue (c :: rest))]
      (At 0xCC00#16 m.sp Any
        { m.view.stores m.bus.work.addr [byteValue (c :: rest)] with
          x := m.bus.work.linePos + 1#8
          y := 0#8
          work := { m.bus.work.setAddr (m.bus.work.addr + 1#16) with
            byteVal := byteValue (c :: rest)
            linePos := m.bus.work.linePos + BitVec.ofNat 8 (byteDigits (c :: rest)).length
            scratchLo := BitVec.ofNat 8 (byteDigits (c :: rest)).length } }) := by
  refine .nextSeen (poke_token hpc h hc) (by omega) fun _ _ _ _ _ _ => ?_
  refine .next (poke_read rfl h hd) le_rfl fun a _ _ _ _ ha => ?_
  obtain rfl : a = byteValue (c :: rest) := ha
  exact Reaches.mono (poke_store rfl rfl hclear) (by omega) id fun m' hm =>
    ⟨hm.pc, hm.sp, trivial, hm.view⟩

/-- Where `POKE` gets when the line is read from here on. -/
def PokedTo (m : Machine) (rest : List Byte) (e : List Event) (m' : Machine) : Prop :=
  m'.pc = 0xCC27#16 ∧ m'.sp = m.sp ∧ Poked m.view (tokens rest) e m'.view

lemma poked_nil (hpc : m.pc = 0xCC00#16) (x y : Byte) (work : Work) :
    Poked m.view [] [m.visit] { m.view with x := x, y := y, work := work } :=
  ⟨by simpa [visit, pokeEvent] using hpc, rfl, x, y, work, rfl⟩

/-- A round has stored `bytes`, and `POKE` reads on with `rest`. -/
structure PokesOn (m : Machine) (bytes rest : List Byte) (e : List Event) (m₁ : Machine) : Prop where
  pc : m₁.pc = 0xCC00#16
  sp : m₁.sp = m.sp
  reading : ∃ pre, Reading m₁.bus.work pre rest
  addr : m₁.bus.work.addr = m.bus.work.addr + BitVec.ofNat 16 bytes.length
  poked : Poked m.view bytes e m₁.view

/-- The round over a space. -/
lemma poke_skips (hpc : m.pc = 0xCC00#16) (h : Reading m.bus.work pre (0x20#8 :: rest)) :
    Reaches m 4 m.sp q [m.visit] (PokesOn m [] rest [m.visit]) := by
  refine (poke_space hpc h).mono (by omega) id fun m₁ hm => ?_
  have hwork : m₁.bus.work = _ := congrArg View.work hm.view
  refine ⟨hm.pc, hm.sp, ⟨pre ++ [0x20#8], ?_⟩, ?_, ?_⟩
  · rw [hwork]
    exact h.step rfl rfl rfl
  · rw [hwork]
    simp [Work.addr]
  · rw [hm.view]
    exact poked_nil hpc _ _ _

/-- The round over a byte. -/
lemma poke_stores (hpc : m.pc = 0xCC00#16) (h : Reading m.bus.work pre (c :: rest)) (hc : c ≠ 0x20#8)
    (hd : digits (c :: rest) ≠ []) (hclear : Clear m.bus.work.addr) :
    Reaches m 4 m.sp q [m.visit, .access 0xCC1C#16 m.bus.work.addr (byteValue (c :: rest))]
      (PokesOn m [byteValue (c :: rest)] ((c :: rest).drop (byteDigits (c :: rest)).length)
        [m.visit, .access 0xCC1C#16 m.bus.work.addr (byteValue (c :: rest))]) := by
  refine (poke_round hpc h hc hd hclear).mono le_rfl id fun m₁ hm => ?_
  have hwork : m₁.bus.work = _ := congrArg View.work hm.view
  refine ⟨hm.pc, hm.sp, ⟨pre ++ (c :: rest).take (byteDigits (c :: rest)).length, ?_⟩, ?_, ?_⟩
  · have hsplit := List.take_append_drop (byteDigits (c :: rest)).length (c :: rest)
    have hlen : ((c :: rest).take (byteDigits (c :: rest)).length).length =
        (byteDigits (c :: rest)).length :=
      List.length_take_of_le (length_byteDigits_le _)
    rw [← hsplit] at h
    rw [hwork]
    exact h.skip rfl rfl (by rw [hlen])
  · rw [hwork]
    exact word_hi_lo _
  · rw [hm.view]
    refine ⟨by simpa [visit, pokeEvent] using hpc, ?_, _, _, _, rfl⟩
    rw [List.length_cons, addresses_succ]
    rfl

/-- The end of the line. -/
lemma poke_done (hpc : m.pc = 0xCC00#16) (h : Reading m.bus.work pre []) :
    Reaches m 4 m.sp q [m.visit] (PokedTo m [] [m.visit]) := by
  refine (poke_end hpc h).mono (by omega) id fun m' hm => ⟨hm.pc, hm.sp, ?_⟩
  rw [tokens, hm.view]
  exact poked_nil hpc _ _ _

/-- The first character that is neither a space nor a digit. -/
lemma poke_stops (hpc : m.pc = 0xCC00#16) (h : Reading m.bus.work pre (c :: rest)) (hc : c ≠ 0x20#8)
    (hd : digits (c :: rest) = []) :
    Reaches m 4 m.sp q [m.visit] (PokedTo m (c :: rest) [m.visit]) := by
  refine .nextSeen (poke_token hpc h hc) (by omega) fun _ _ _ _ _ _ => ?_
  refine Reaches.mono (poke_stop rfl h hd) le_rfl id fun m' hm => ⟨hm.pc, hm.sp, ?_⟩
  rw [tokens, if_neg hc, if_pos hd, hm.view]
  exact poked_nil hpc _ _ _

lemma tokens_byte (hc : c ≠ 0x20#8) (hd : digits (c :: rest) ≠ []) : tokens (c :: rest) =
    [byteValue (c :: rest)] ++ tokens ((c :: rest).drop (byteDigits (c :: rest)).length) := by
  rw [tokens, if_neg hc, if_neg hd]
  rfl

/-- A byte is read and cannot be stored. -/
lemma poke_strays (hpc : m.pc = 0xCC00#16) (h : Reading m.bus.work pre (c :: rest)) (hc : c ≠ 0x20#8)
    (hd : digits (c :: rest) ≠ []) (hclear : ¬Clear m.bus.work.addr) :
    Reaches m 4 m.sp q [m.visit]
      (Strays 0xCC1C#16 m.bus.work.addr (tokens (c :: rest)).length [m.visit]) := by
  refine .nextSeen (poke_token hpc h hc) (by omega) fun _ _ _ _ _ _ => ?_
  refine Reaches.mono (poke_read rfl h hd) le_rfl id fun m' hm => ?_
  have haddr : m'.bus.work.addr = m.bus.work.addr := by
    have hwork : m'.bus.work = _ := congrArg View.work hm.view
    rw [hwork]
    rfl
  refine ⟨?_, hm.pc, congrArg View.y hm.view, ?_, by rwa [haddr]⟩
  · simpa using commandEvent_poke (x := m.visit) hpc
  · rw [haddr, tokens_byte hc hd, List.length_append, List.length_singleton, Nat.add_comm, addresses_succ]
    exact List.mem_cons_self

/-- A round and what follows it. -/
lemma PokesOn.loop {m₁ : Machine} {bytes text : List Byte} {e₀ : List Event}
    (h : PokesOn m bytes rest e₀ m₁) (htokens : tokens text = bytes ++ tokens rest)
    (h' : Does m₁ 4 m₁.sp q fun e m' => PokedTo m₁ rest e m' ∨
      Strays 0xCC1C#16 m₁.bus.work.addr (tokens rest).length e m') :
    Does m₁ 4 m.sp q fun e m' => PokedTo m text (e₀ ++ e) m' ∨
      Strays 0xCC1C#16 m.bus.work.addr (tokens text).length (e₀ ++ e) m' := by
  rw [h.sp, h.addr] at h'
  refine h'.mono le_rfl id ?_
  rintro e m' (⟨hpc', hsp', hpoked⟩ | hstray)
  · refine .inl ⟨hpc', hsp'.trans h.sp, ?_⟩
    rw [htokens]
    exact h.poked.trans h.addr hpoked
  · rw [htokens, List.length_append]
    exact .inr (hstray.behind fun x hx => commandEvent_poke (h.poked.seen x hx))

/-- From the loop head of `POKE` to its `RTS`. -/
lemma poke_loop (hpc : m.pc = 0xCC00#16) (h : Reading m.bus.work pre rest) :
    Does m 4 m.sp q fun e m' => PokedTo m rest e m' ∨
      Strays 0xCC1C#16 m.bus.work.addr (tokens rest).length e m' := by
  induction rest using tokens.induct generalizing m pre with
  | case1 => exact (poke_done hpc h).does fun m' hm => .refl (.inl hm)
  | case2 text ih =>
    have htokens : tokens (0x20#8 :: text) = [] ++ tokens text := by
      rw [tokens, if_pos rfl]
      rfl
    refine (poke_skips hpc h).does fun m₁ hm => ?_
    obtain ⟨pre₁, h₁⟩ := hm.reading
    exact hm.loop htokens (ih hm.pc h₁)
  | case3 c text hc hd => exact (poke_stops hpc h hc hd).does fun m' hm => .refl (.inl hm)
  | case4 c text hc hd ih =>
    by_cases hclear : Clear m.bus.work.addr
    · refine (poke_stores hpc h hc hd hclear).does fun m₁ hm => ?_
      obtain ⟨pre₁, h₁⟩ := hm.reading
      exact hm.loop (tokens_byte hc hd) (ih hm.pc h₁)
    · exact (poke_strays hpc h hc hd hclear).does fun m' hm => .refl (.inr hm)

/-- `POKE` comes back, unless it is about to store at an address that is not clear. -/
theorem poke_does (hpc : m.pc = 0xCC00#16) (h : Reading m.bus.work pre rest) :
    Finishes m 4 q (Poked m.view (tokens rest)) ∨
    Does m 4 m.sp q (Strays 0xCC1C#16 m.bus.work.addr (tokens rest).length) := by
  obtain hpoked | hstray := (poke_loop (q := q) hpc h).or
  · refine .inl (.of_rts (by omega) (hpoked.mono le_rfl id ?_))
    rintro e m' ⟨hpc', hsp', hpoked⟩
    exact ⟨by rw [hpc']; exact line_CC27, hsp', hpoked⟩
  · exact .inr hstray

end Machine

end Sys6
