import Sys6.Monitor.Print

/-!
# The keyboard

What the terminal hands over, whenever it does, and the two routines that take it: `GETCHAR`
waits for a byte, `READ_LINE` edits a line until its CR.
-/

namespace Sys6

namespace Input

variable {inp inp' : Input} {ks ls : List Byte}

/-- The byte in the holding register and what the first `n` answers bring. -/
def bytes (inp : Input) (n : Nat) : List Byte :=
  (if inp.ready then [inp.byte] else []) ++ (List.range n).filterMap inp.polls

/-- `ks` is taken between the two. -/
def Delivers (inp : Input) (ks : List Byte) (inp' : Input) : Prop :=
  ∃ c, ∀ n, inp.bytes (n + c) = ks ++ inp'.bytes n

/-- `ks` comes first. -/
def Yields (inp : Input) (ks : List Byte) : Prop := ∃ n, ks <+: inp.bytes n

/-- `ks` is all that comes. -/
def Types (inp : Input) (ks : List Byte) : Prop := ∃ c, ∀ n, inp.bytes (n + c) = ks

lemma Delivers.refl (inp : Input) : inp.Delivers [] inp := ⟨0, fun _ => rfl⟩

lemma Delivers.trans {inp'' : Input} (h : inp.Delivers ks inp') (h' : inp'.Delivers ls inp'') :
    inp.Delivers (ks ++ ls) inp'' := by
  obtain ⟨c, h⟩ := h
  obtain ⟨c', h'⟩ := h'
  refine ⟨c' + c, fun n => ?_⟩
  rw [← Nat.add_assoc, h, h', List.append_assoc]

lemma poll_of_ready (h : inp.ready = true) : inp.poll = inp := if_pos h

lemma bytes_poll (h : inp.ready = false) (n : Nat) : inp.poll.bytes n = inp.bytes (n + 1) := by
  unfold bytes poll
  rw [List.range_succ_eq_map, List.filterMap_cons, List.filterMap_map, h]
  cases hp : inp.polls 0 with
  | none => simp
  | some b => simp

lemma delivers_poll (inp : Input) : inp.Delivers [] inp.poll := by
  cases h : inp.ready with
  | true =>
    rw [poll_of_ready h]
    exact .refl inp
  | false => exact ⟨1, fun n => (bytes_poll h n).symm⟩

lemma after_succ (n : Nat) (inp : Input) : inp.after (n + 1) = inp.poll.after n := rfl

lemma delivers_after (n : Nat) (inp : Input) : inp.Delivers [] (inp.after n) := by
  induction n generalizing inp with
  | zero => exact .refl inp
  | succ n ih => exact (delivers_poll inp).trans (ih inp.poll)

lemma delivers_of_polled (h : Polled inp inp') : inp.Delivers [] inp' := by
  obtain ⟨n, rfl⟩ := h
  exact delivers_after n inp

lemma delivers_take (h : inp.ready = true) :
    inp.Delivers [inp.byte] { inp with ready := false } := by
  refine ⟨0, fun n => ?_⟩
  simp [bytes, h]

lemma bytes_mono {n n' : Nat} (h : n ≤ n') : inp.bytes n <+: inp.bytes n' := by
  have hrange : List.range n <+: List.range n' := by
    rw [List.prefix_iff_eq_take, List.length_range, List.take_range, Nat.min_eq_left h]
  exact (List.prefix_append_right_inj _).mpr (hrange.filterMap _)

lemma Yields.tail (ks : List Byte) (h : inp.Yields (ks ++ ls)) (hd : inp.Delivers ks inp') : inp'.Yields ls := by
  obtain ⟨n, h⟩ := h
  obtain ⟨c, hd⟩ := hd
  refine ⟨n, ?_⟩
  have h' := h.trans (bytes_mono (Nat.le_add_right n c))
  rw [hd] at h'
  exact (List.prefix_append_right_inj ks).mp h'

lemma Yields.left (h : inp.Yields (ks ++ ls)) : inp.Yields ks := by
  obtain ⟨n, h⟩ := h
  exact ⟨n, (List.prefix_append ks ls).trans h⟩

lemma Types.tail (h : inp.Types (ks ++ ls)) (hd : inp.Delivers ks inp') : inp'.Types ls := by
  obtain ⟨n, h⟩ := h
  obtain ⟨c, hd⟩ := hd
  refine ⟨n, fun i => ?_⟩
  have heq : ks ++ inp'.bytes (i + n) = ks ++ ls := by rw [← hd, Nat.add_right_comm, h]
  exact List.append_cancel_left heq

/-- What is delivered is what was to come. -/
lemma Yields.head {b b' : Byte} (h : inp.Yields (b :: ks)) (hd : inp.Delivers [b'] inp') : b' = b := by
  obtain ⟨n, h⟩ := h
  obtain ⟨c, hd⟩ := hd
  have h' := h.trans (bytes_mono (Nat.le_add_right n c))
  rw [hd, List.singleton_append, List.cons_prefix_cons] at h'
  exact h'.1.symm

lemma after_of_ready (h : inp.ready = true) (n : Nat) : inp.after n = inp := by
  induction n with
  | zero => rfl
  | succ n ih => rw [after_succ, poll_of_ready h, ih]

lemma bytes_of_never (h : ∀ n, (inp.after n).ready = false) (n : Nat) : inp.bytes n = [] := by
  induction n generalizing inp with
  | zero =>
    have h0 : inp.ready = false := h 0
    simp [bytes, h0]
  | succ n ih =>
    have h0 : inp.ready = false := h 0
    rw [← bytes_poll h0, ih fun i => h (i + 1)]

lemma Yields.ready {b : Byte} (h : inp.Yields (b :: ks)) : ∃ n, (inp.after n).ready = true := by
  by_contra hnot
  simp only [not_exists, Bool.not_eq_true] at hnot
  obtain ⟨n, h⟩ := h
  rw [bytes_of_never hnot] at h
  exact absurd h (by simp)

lemma ready_mono {a b : Nat} (h : (inp.after a).ready = true) (hab : a ≤ b) :
    inp.after b = inp.after a := by
  obtain ⟨c, rfl⟩ := Nat.exists_eq_add_of_le hab
  rw [← after_after, after_of_ready h]

lemma yields_of_ready {n : Nat} (h : (inp.after n).ready = true) : inp.Yields [(inp.after n).byte] := by
  obtain ⟨c, hd⟩ := delivers_after n inp
  refine ⟨0 + c, ?_⟩
  rw [hd]
  simp [bytes, h]

/-- No CR ever comes. -/
def NoCr (inp : Input) : Prop := ∀ n, 0x0D#8 ∉ inp.bytes n

lemma NoCr.tail (h : inp.NoCr) (hd : inp.Delivers ks inp') : inp'.NoCr := by
  obtain ⟨c, hd⟩ := hd
  intro n hmem
  apply h (n + c)
  rw [hd]
  exact List.mem_append_right ks hmem

/-- A line comes, or none ever does. -/
lemma line_or_noCr (inp : Input) :
    (∃ keys, 0x0D#8 ∉ keys ∧ inp.Yields (keys ++ [0x0D#8])) ∨ inp.NoCr := by
  by_cases h : inp.NoCr
  · exact .inr h
  · simp only [NoCr, not_forall, not_not] at h
    obtain ⟨n, hmem⟩ := h
    obtain ⟨keys, rest, hsplit, hkeys⟩ := List.eq_append_cons_of_mem hmem
    refine .inl ⟨keys, hkeys, n, rest, ?_⟩
    rw [hsplit, List.append_assoc, List.singleton_append]

end Input

namespace Machine

variable {m : Machine}

/-! ## GETCHAR -/

/-- The byte is there when `GETCHAR` looks. -/
lemma getChar_ready (hpc : m.pc = 0xC000#16) (h1 : (m.bus.input.after 1).ready = true) :
    Reaches m 0 m.sp False [] (Leaving m.sp (fun a _ input => m.bus.input.Delivers [a] input)
      m.view) := by
  obtain ⟨a, x, y, sp, p, pc, halted, w, low, stack, high, input, out, tape⟩ := m
  obtain rfl : pc = _ := hpc
  simp only at h1
  have h4 : input.after 4 = input.after 1 := Input.ready_mono h1 (by omega)
  have htake := (Input.delivers_after 1 input).trans (Input.delivers_take h1)
  exact .finish 4 (by simpa [h1, h4] using htake.trans (Input.delivers_after 1 _))

/-- The byte comes within `n` polls. -/
lemma getChar_loop (n : Nat) (hpc : m.pc = 0xC000#16)
    (hn : (m.bus.input.after n).ready = true) :
    Reaches m 0 m.sp False [] (Leaving m.sp (fun a _ input => m.bus.input.Delivers [a] input)
      m.view) := by
  induction n generalizing m with
  | zero => exact getChar_ready hpc (by rw [Input.ready_mono hn (by omega)]; exact hn)
  | succ n ih =>
    cases h1 : (m.bus.input.after 1).ready with
    | true => exact getChar_ready hpc h1
    | false =>
      obtain ⟨a, x, y, sp, p, pc, halted, w, low, stack, high, input, out, tape⟩ := m
      obtain rfl : pc = _ := hpc
      simp only at h1 hn
      refine .via 3 0xC000#16 (fun _ _ i => i = input.after 3) ⟨x, y, w, low, high, out, tape⟩ (by simp [h1]) ?_
      rintro a p halted stack _ rfl
      have hn' : ((input.after 3).after n).ready = true := by
        rw [Input.after_after, Input.ready_mono hn (by omega)]
        exact hn
      refine (ih rfl hn').mono le_rfl id fun m' hm => ⟨hm.line, hm.sp, ?_, hm.view⟩
      exact (Input.delivers_after 3 input).trans hm.result

theorem getChar_returns {b : Byte} {ks : List Byte} (hpc : m.pc = 0xC000#16)
    (h : m.bus.input.Yields (b :: ks)) :
    Returns m 0 False [] (fun a _ input => a = b ∧ m.bus.input.Delivers [b] input) m.view := by
  obtain ⟨n, hn⟩ := h.ready
  refine .of_rts (by omega) ((getChar_loop n hpc hn).mono le_rfl id fun m' hm => ?_)
  have hb : m'.a = b := h.head hm.result
  have hd := hm.result
  rw [hb] at hd
  exact ⟨hm.line, hm.sp, ⟨hb, hd⟩, hm.view⟩

lemma call_getChar {b : Byte} {ks : List Byte}
    (hl : line m.pc = some ⟨.JSR, .absolute 0xC000#16, .stack⟩) (h : m.bus.input.Yields (b :: ks)) :
    Reaches m 2 m.sp False [] (At (m.pc + 3#16) m.sp
      (fun a _ input => a = b ∧ m.bus.input.Delivers [b] input) m.view) := by
  have hpoll := Input.delivers_after 1 m.bus.input
  have hin : (m.bus.input.after 1).Yields (b :: ks) := .tail [] h hpoll
  have hcall : Reaches m 2 m.sp False [] (At (m.pc + 3#16) m.sp
      (fun a _ input => a = b ∧ (m.bus.input.after 1).Delivers [b] input) m.view) :=
    Returns.call hl (by omega) fun _ _ => getChar_returns rfl hin
  exact hcall.mono le_rfl id fun m' hm =>
    ⟨hm.pc, hm.sp, ⟨hm.result.1, hpoll.trans hm.result.2⟩, hm.view⟩

/-- `GETCHAR` polls on while no byte comes. -/
lemma getChar_waits (hpc : m.pc = 0xC000#16) (h : ∀ n, (m.bus.input.after n).ready = false) :
    Stays m 0 m.sp fun _ => False := by
  refine Run.always_of_recurrent (fun m' : Machine => m'.pc = 0xC000#16 ∧ m'.sp = m.sp ∧
    ∀ n, (m'.bus.input.after n).ready = false) ?_ ⟨hpc, rfl, h⟩
  rintro ⟨a, x, y, sp, p, pc, halted, w, low, stack, high, input, out, tape⟩ ⟨hpc, hsp, h⟩
  obtain rfl : pc = _ := hpc
  have h1 : (input.after 1).ready = false := h 1
  have hloop : ∃ m', follow 3 ⟨a, x, y, sp, p, 0xC000#16, halted, ⟨w, low, stack, high, input, out,
      tape⟩⟩ = some m' ∧ m'.pc = 0xC000#16 ∧ m'.sp = sp ∧ m'.bus.input = input.after 3 := by
    simp [h1]
  obtain ⟨m', hfollow, hpc', hsp', hinput⟩ := hloop
  refine .inr ⟨[], m', ⟨2, (leadsIn_of_follow 3 hfollow).mono fun m₁ hm => ?_⟩, by simp, hpc',
    hsp'.trans hsp, fun n => ?_⟩
  · simp [Deep, hm, ← hsp]
  · rw [hinput, Input.after_after]
    exact h (3 + n)

end Machine

/-! ## READ_LINE -/

def isRubout (key : Byte) : Bool := key = 0x7F#8 || key = 0x08#8

/-- What a key does to the line. -/
def edit (text : List Byte) (key : Byte) : List Byte :=
  if isRubout key then text.dropLast
  else if text.length < 64 then text ++ [key]
  else text

/-- What it prints. -/
def echo (text : List Byte) (key : Byte) : List Byte :=
  if isRubout key then (if text = [] then [] else [0x08#8, 0x20#8, 0x08#8])
  else if text.length < 64 then [key]
  else []

/-- What it does to `LINEBUF`. -/
def keyIn (buf : Byte → Byte) (text : List Byte) (key : Byte) : Byte → Byte :=
  if isRubout key then buf
  else if text.length < 64 then Function.update buf (BitVec.ofNat 8 text.length) key
  else buf

def echoed : List Byte → List Byte → List Byte
  | _, [] => []
  | text, key :: keys => echo text key ++ echoed (edit text key) keys

def keyedIn : (Byte → Byte) → List Byte → List Byte → Byte → Byte
  | buf, _, [] => buf
  | buf, text, key :: keys => keyedIn (keyIn buf text key) (edit text key) keys

lemma length_edit {text : List Byte} (h : text.length ≤ 64) (key : Byte) :
    (edit text key).length ≤ 64 := by
  unfold edit
  split_ifs with hr hlt
  · rw [List.length_dropLast]
    omega
  · rw [List.length_append, List.length_singleton]
    omega
  · exact h

/-- The line that stands when CR comes. -/
def typed (keys : List Byte) : List Byte := keys.foldl edit []

lemma length_foldl_edit {text : List Byte} (h : text.length ≤ 64) (keys : List Byte) :
    (keys.foldl edit text).length ≤ 64 := by
  induction keys generalizing text with
  | nil => exact h
  | cons key keys ih => exact ih (length_edit h key)

lemma foldl_edit_plain {keys : List Byte} (h : ∀ key ∈ keys, isRubout key = false) (text : List Byte)
    (hlen : text.length + keys.length ≤ 64) : keys.foldl edit text = text ++ keys ∧ echoed text keys = keys := by
  induction keys generalizing text with
  | nil => exact ⟨(List.append_nil text).symm, rfl⟩
  | cons key keys ih =>
    rw [List.length_cons] at hlen
    have hkey := h key List.mem_cons_self
    have hlt : text.length < 64 := by omega
    have hedit : edit text key = text ++ [key] := by simp [edit, hkey, hlt]
    have hecho : echo text key = [key] := by simp [echo, hkey, hlt]
    obtain ⟨htext, hechoed⟩ := ih (fun key hk => h key (List.mem_cons_of_mem _ hk)) (text ++ [key])
      (by rw [List.length_append, List.length_singleton]; omega)
    constructor
    · rw [List.foldl_cons, hedit, htext, List.append_assoc, List.singleton_append]
    · rw [echoed, hedit, hecho, hechoed, List.singleton_append]

/-- A line that is typed without a slip stands as it was typed. -/
lemma typed_plain {keys : List Byte} (h : ∀ key ∈ keys, isRubout key = false) (hlen : keys.length ≤ 64) :
    typed keys = keys ∧ echoed [] keys = keys :=
  foldl_edit_plain h [] (by simpa using hlen)

/-- `LINEBUF` starts with `text`. -/
def Holds (buf : Byte → Byte) (text : List Byte) : Prop :=
  ∀ i (h : i < text.length), buf (BitVec.ofNat 8 i) = text[i]

lemma holds_keyIn {buf : Byte → Byte} {text : List Byte} (h : Holds buf text)
    (hlen : text.length ≤ 64) (key : Byte) : Holds (keyIn buf text key) (edit text key) := by
  unfold keyIn edit
  split_ifs with hr hlt
  · intro i hi
    rw [List.length_dropLast] at hi
    rw [List.getElem_dropLast]
    exact h i (by omega)
  · intro i hi
    rw [List.length_append, List.length_singleton] at hi
    by_cases hi' : i < text.length
    · rw [List.getElem_append_left hi', Function.update_of_ne, h i hi']
      intro he
      have := congrArg BitVec.toNat he
      simp only [BitVec.toNat_ofNat] at this
      omega
    · obtain rfl : i = text.length := by omega
      rw [Function.update_self, List.getElem_concat_length rfl]
  · exact h

lemma holds_keyedIn {buf : Byte → Byte} {text : List Byte} (h : Holds buf text)
    (hlen : text.length ≤ 64) (keys : List Byte) :
    Holds (keyedIn buf text keys) (keys.foldl edit text) := by
  induction keys generalizing buf text with
  | nil => exact h
  | cons key keys ih => exact ih (holds_keyIn h hlen key) (length_edit hlen key)

namespace Machine

variable {m : Machine}

lemma readLine_key {q : Prop} {key : Byte} {text : List Byte} (hpc : m.pc = 0xC405#16) (ha : m.a = key)
    (hcr : key ≠ 0x0D#8) (hx : m.x = BitVec.ofNat 8 text.length) (hlen : text.length ≤ 64) :
    Reaches m 2 m.sp q [] (At 0xC402#16 m.sp Any
      { m.view with
        x := BitVec.ofNat 8 (edit text key).length
        work := { m.bus.work with lineBuf := keyIn m.bus.work.lineBuf text key }
        out := m.bus.out ++ echo text key }) := by
  obtain ⟨a, x, y, sp, p, pc, halted, w, low, stack, high, input, out, tape⟩ := m
  obtain rfl : pc = _ := hpc
  obtain rfl : a = _ := ha
  obtain rfl : x = _ := hx
  cases hr : isRubout a with
  | true =>
    have hkey : a = 0x7F#8 ∨ a ≠ 0x7F#8 ∧ a = 0x08#8 := by
      simp only [isRubout, Bool.or_eq_true, decide_eq_true_eq] at hr
      by_cases h : a = 0x7F#8
      · exact .inl h
      · exact .inr ⟨h, hr.resolve_left h⟩
    have hrub : Reaches ⟨a, BitVec.ofNat 8 text.length, y, sp, p, 0xC405#16, halted, ⟨w, low,
        stack, high, input, out, tape⟩⟩ 2 sp q [] (At 0xC41E#16 sp Any ⟨BitVec.ofNat 8 text.length, y, w, low,
          high, out, tape⟩) := by
      rcases hkey with h7F | ⟨h7F, h08⟩
      · exact .finish 4 (by simp [hcr, eq_true h7F])
      · exact .finish 6 (by simp [hcr, h7F, eq_true h08])
    refine .next hrub le_rfl fun _ _ _ _ _ _ => ?_
    by_cases hnil : text = []
    · have h0 : BitVec.ofNat 8 text.length = 0#8 := by rw [hnil]; rfl
      exact .finish 2 (by simp [keyIn, edit, echo, hr, hnil])
    · have hpos : 0 < text.length := List.length_pos_iff.mpr hnil
      have hne : BitVec.ofNat 8 text.length ≠ 0#8 := by
        intro h0
        have := congrArg BitVec.toNat h0
        simp only [BitVec.toNat_ofNat] at this
        omega
      have hpred : BitVec.ofNat 8 text.length - 1#8 = BitVec.ofNat 8 (text.length - 1) := by
        apply BitVec.eq_of_toNat_eq
        simp only [BitVec.toNat_sub, BitVec.toNat_ofNat]
        omega
      refine .via 3 0xC423#16 Any ⟨BitVec.ofNat 8 (text.length - 1), y, w, low, high, out, tape⟩
        (by simp [hne, hpred]) fun _ _ _ _ _ _ => ?_
      refine .emit (c := 0x08#8) ⟨line_C423, line_C425⟩ le_rfl fun _ _ _ _ _ => ?_
      refine .emit (c := 0x20#8) ⟨line_C428, line_C42A⟩ le_rfl fun _ _ _ _ _ => ?_
      refine .emit (c := 0x08#8) ⟨line_C42D, line_C42F⟩ le_rfl fun _ _ _ _ _ => ?_
      exact .finish 1 (by simp [keyIn, edit, echo, hr, hnil])
  | false =>
    have h7F : a ≠ 0x7F#8 := by
      rintro rfl
      cases hr
    have h08 : a ≠ 0x08#8 := by
      rintro rfl
      cases hr
    by_cases hfull : text.length = 64
    · exact .finish 8 (by simp [h7F, h08, hcr, keyIn, edit, echo, hr, hfull])
    · have hmod : ¬64 ≤ text.length % 256 := by omega
      have hbuf : BitVec.ofNat 8 text.length < 0x40#8 := by
        rw [BitVec.lt_def]
        simp only [BitVec.toNat_ofNat]
        omega
      have hlt : text.length < 64 := by omega
      refine .via 9 0xC417#16 (fun a' _ _ => a' = a) ⟨BitVec.ofNat 8 text.length, y,
          { w with lineBuf := Function.update w.lineBuf (BitVec.ofNat 8 text.length) a }, low, high, out, tape⟩
        (by simp [h7F, h08, hcr, hmod, Board.setZp_lineBuf _ _ hbuf]) ?_
      rintro a p halted stack input rfl
      refine .next (call_putChar line_C417) le_rfl fun _ _ _ _ _ _ => ?_
      exact .finish 2 (by simp [keyIn, edit, echo, hr, hlt, BitVec.ofNat_add])

/-- From the loop head to the CR. -/
lemma readLine_loop {keys : List Byte} (text : List Byte) (hpc : m.pc = 0xC402#16) (hcr : 0x0D#8 ∉ keys)
    (hin : m.bus.input.Yields (keys ++ [0x0D#8])) (hx : m.x = BitVec.ofNat 8 text.length)
    (hlen : text.length ≤ 64) :
    Reaches m 2 m.sp False [] (At 0xC435#16 m.sp
      (fun _ _ input => m.bus.input.Delivers (keys ++ [0x0D#8]) input)
      { m.view with
        x := BitVec.ofNat 8 (keys.foldl edit text).length
        work := { m.bus.work with lineBuf := keyedIn m.bus.work.lineBuf text keys }
        out := m.bus.out ++ echoed text keys }) := by
  induction keys generalizing m text with
  | nil =>
    obtain ⟨a, x, y, sp, p, pc, halted, w, low, stack, high, input, out, tape⟩ := m
    obtain rfl : pc = _ := hpc
    obtain rfl : x = _ := hx
    refine .next (call_getChar line_C402 hin) le_rfl fun a p halted stack input' hr => ?_
    obtain ⟨ha, hd⟩ := hr
    exact .finish 2 (by simpa [eq_true ha, keyedIn, echoed] using hd.trans (Input.delivers_after 2 input'))
  | cons key keys ih =>
    obtain ⟨a, x, y, sp, p, pc, halted, w, low, stack, high, input, out, tape⟩ := m
    obtain rfl : pc = _ := hpc
    obtain rfl : x = _ := hx
    rw [List.mem_cons, not_or] at hcr
    refine .next (call_getChar line_C402 hin) le_rfl fun a p halted stack input₁ hr => ?_
    obtain ⟨ha, hd⟩ := hr
    have hkey := readLine_key (q := True) (m := ⟨a, BitVec.ofNat 8 text.length, y, sp, p, 0xC405#16,
      halted, ⟨w, low, stack, high, input₁, out, tape⟩⟩) rfl ha (Ne.symm hcr.1) rfl hlen
    refine .next hkey.polled le_rfl fun a p halted stack input₂ hr => ?_
    have hd₂ := hd.trans (Input.delivers_of_polled hr.2)
    have hrest : input₂.Yields (keys ++ [0x0D#8]) := .tail ([key] ++ []) hin hd₂
    refine Reaches.mono (ih _ rfl hcr.2 hrest rfl (length_edit hlen key)) le_rfl id fun m' hm => ?_
    refine ⟨hm.pc, hm.sp, ?_, ?_⟩
    · exact hd₂.trans hm.result
    · rw [hm.view]
      simp [keyedIn, echoed]

lemma endLine {q : Prop} (hpc : m.pc = 0xC435#16) :
    Reaches m 2 m.sp q [] (At 0xC441#16 m.sp Any
      { m.view with work := { m.bus.work with lineLen := m.x }, out := m.bus.out ++ crlf }) := by
  obtain ⟨a, x, y, sp, p, pc, halted, w, low, stack, high, input, out, tape⟩ := m
  obtain rfl : pc = _ := hpc
  refine .crlf ⟨⟨line_C435, line_C437⟩, line_C43A, line_C43C⟩ le_rfl fun _ _ _ _ _ => ?_
  exact .finish 1 (by simp)

theorem readLine_returns {keys : List Byte} (hpc : m.pc = 0xC400#16) (hcr : 0x0D#8 ∉ keys)
    (hin : m.bus.input.Yields (keys ++ [0x0D#8])) :
    Returns m 2 False [] (fun _ _ input => m.bus.input.Delivers (keys ++ [0x0D#8]) input)
      { m.view with
        x := BitVec.ofNat 8 (typed keys).length
        work := { m.bus.work with
          lineBuf := keyedIn m.bus.work.lineBuf [] keys
          lineLen := BitVec.ofNat 8 (typed keys).length }
        out := m.bus.out ++ echoed [] keys ++ crlf } := by
  obtain ⟨a, x, y, sp, p, pc, halted, w, low, stack, high, input, out, tape⟩ := m
  obtain rfl : pc = _ := hpc
  have hpoll := Input.delivers_after 1 input
  have hin' : (input.after 1).Yields (keys ++ [0x0D#8]) := .tail [] hin hpoll
  refine .of_rts (by omega) ?_
  refine .via 1 0xC402#16 (fun _ _ i => i = input.after 1) ⟨0#8, y, w, low, high, out, tape⟩ (by simp) ?_
  rintro a p halted stack _ rfl
  refine .next (readLine_loop [] rfl hcr hin' rfl (by simp)) le_rfl fun a p halted stack
    input₁ hd => ?_
  refine .next (endLine (q := True) rfl).polled le_rfl fun _ _ _ _ input₂ hr => ?_
  refine .refl ⟨line_C441, rfl, ?_, by simp [typed]⟩
  have hd₂ := (hpoll.trans hd).trans (Input.delivers_of_polled hr.2)
  simpa using hd₂.trans (Input.delivers_after 1 input₂)

/-- While no CR comes the line editor takes one key after another. -/
lemma readLine_again {text : List Byte} (hpc : m.pc = 0xC402#16) (hin : m.bus.input.NoCr)
    (hx : m.x = BitVec.ofNat 8 text.length) (hlen : text.length ≤ 64) {n : Nat}
    (hn : (m.bus.input.after n).ready = true) :
    ∃ m' : Machine, Run.LeadsOn step sees (Deep 2 m.sp) m [] m' ∧ m'.pc = 0xC402#16 ∧
      m'.sp = m.sp ∧ m'.bus.input.NoCr ∧
      ∃ text : List Byte, m'.x = BitVec.ofNat 8 text.length ∧ text.length ≤ 64 := by
  have hyields := Input.yields_of_ready hn
  have hcr : (m.bus.input.after n).byte ≠ 0x0D#8 := by
    intro h
    obtain ⟨i, hi⟩ := hyields
    rw [h] at hi
    exact hin i (hi.subset (by simp))
  obtain ⟨m₁, hlead₁, -, -, h₁⟩ := call_getChar (by rw [hpc]; exact line_C402) hyields
  rw [hpc] at h₁
  have hx₁ : m₁.x = BitVec.ofNat 8 text.length := by
    rw [← hx]
    exact congrArg View.x h₁.view
  obtain ⟨m₂, hlead₂, -, hpoll, h₂⟩ := readLine_key (q := True) h₁.pc h₁.result.1 hcr hx₁ hlen
  have hne : m ≠ m₁ := by
    rintro rfl
    have := hpc.symm.trans h₁.pc
    revert this
    decide
  rw [h₁.sp] at hlead₂
  refine ⟨m₂, (hlead₁.on_of_ne hne).trans hlead₂, h₂.pc, h₂.sp.trans h₁.sp, ?_, _,
    congrArg View.x h₂.view, length_edit hlen _⟩
  exact (hin.tail h₁.result.2).tail (Input.delivers_of_polled (hpoll trivial))

lemma readLine_stays (text : List Byte) (hpc : m.pc = 0xC402#16) (hin : m.bus.input.NoCr)
    (hx : m.x = BitVec.ofNat 8 text.length) (hlen : text.length ≤ 64) :
    Stays m 2 m.sp fun _ => False := by
  refine Run.always_of_recurrent (fun m' : Machine => m'.pc = 0xC402#16 ∧ m'.sp = m.sp ∧
    m'.bus.input.NoCr ∧ ∃ text : List Byte, m'.x = BitVec.ofNat 8 text.length ∧ text.length ≤ 64) ?_
    ⟨hpc, rfl, hin, text, hx, hlen⟩
  rintro m' ⟨hpc, hsp, hin, text, hx, hlen⟩
  by_cases hready : ∃ n, (m'.bus.input.after n).ready = true
  · obtain ⟨n, hn⟩ := hready
    obtain ⟨m₁, hlead, hpc₁, hsp₁, h₁⟩ := readLine_again hpc hin hx hlen hn
    rw [hsp] at hlead
    exact .inr ⟨[], m₁, hlead, by simp, hpc₁, hsp₁.trans hsp, h₁⟩
  · simp only [not_exists, Bool.not_eq_true] at hready
    left
    rw [← hsp]
    refine stays_call (by rw [hpc]; exact line_C402) fun _ _ => getChar_waits rfl fun n => ?_
    simpa using hready (1 + n)

/-- Without a CR `READ_LINE` does not come back. -/
theorem readLine_waits (hpc : m.pc = 0xC400#16) (hin : m.bus.input.NoCr) :
    Stays m 2 m.sp fun _ => False := by
  obtain ⟨a, x, y, sp, p, pc, halted, w, low, stack, high, input, out, tape⟩ := m
  obtain rfl : pc = _ := hpc
  have hstart : Reaches ⟨a, x, y, sp, p, 0xC400#16, halted, ⟨w, low, stack, high, input, out, tape⟩⟩
      2 sp False [] (fun m' => m'.pc = 0xC402#16 ∧ m'.sp = sp ∧ m'.x = 0#8 ∧ m'.bus.input.NoCr) :=
    .finish 1 (by simpa using hin.tail (Input.delivers_after 1 input))
  refine hstart.stays (by simp) ?_
  rintro m' ⟨hpc, rfl, hx, hin⟩
  exact readLine_stays [] hpc hin hx (by simp)

end Machine

end Sys6
