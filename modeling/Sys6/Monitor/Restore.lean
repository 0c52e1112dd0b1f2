import Sys6.Monitor.Desk
import Sys6.Monitor.PokeLine

/-!
# A listing typed back

`LIST` prints its range in rows, and every row is a line that stores what it shows. So a listing
that is typed at another system, row by row, carries the range over.
-/

namespace Sys6

/-- The rows of a listing. -/
def rows (a : Word) : List Byte → List (List Byte)
  | [] => []
  | b :: bytes => rowText a ((b :: bytes).take 16) :: rows (a + 16#16) ((b :: bytes).drop 16)
termination_by bytes => bytes.length
decreasing_by simp only [List.length_drop, List.length_cons]; omega

lemma dump_eq_rows (a : Word) (bytes : List Byte) : dump a bytes = (rows a bytes).flatMap (· ++ crlf) := by
  induction a, bytes using rows.induct with
  | case1 a => rw [dump, rows, List.flatMap_nil]
  | case2 a b bytes ih => rw [dump, rows, List.flatMap_cons, ih]

namespace Desk

lemma stores_append (a : Word) (bytes more : List Byte) (d : Desk) : d.stores a (bytes ++ more) =
    (d.stores a bytes).stores (a + BitVec.ofNat 16 bytes.length) more := by
  induction bytes generalizing a d with
  | nil => simp [stores]
  | cons b bytes ih =>
    rw [List.cons_append, stores, stores, ih, succ_offset, List.length_cons]

/-- A row that is typed. -/
lemma answer_row {a : Word} {bytes : List Byte} (hlen : bytes.length ≤ 16) (d : Desk) :
    0x0D#8 ∉ rowText a bytes ∧ heading (rowText a bytes) = Machine.prompt ++ rowText a bytes ++ crlf ∧
      command (typed (rowText a bytes)) = .poke a bytes ∧
      (command (typed (rowText a bytes))).answer d = some ([], d.stores a bytes) := by
  have hshort : (rowText a bytes).length ≤ 64 := by
    rw [length_rowText]
    omega
  obtain ⟨htyped, hechoed⟩ := typed_plain (fun c hc => (plain_rowText hc).2) hshort
  have hcmd : command (typed (rowText a bytes)) = .poke a bytes := by rw [htyped, command_rowText]
  refine ⟨fun hmem => (plain_rowText hmem).1 rfl, ?_, hcmd, ?_⟩
  · rw [heading, hechoed]
  · rw [hcmd]
    rfl

/-- All the rows of a listing. -/
lemma session_rows (a : Word) (bytes : List Byte) (d : Desk)
    (hplain : ∀ addr ∈ addresses a bytes.length, Plain addr) : d.Orderly (rows a bytes) ∧
      d.session (rows a bytes) =
        some ((rows a bytes).flatMap fun row => Machine.prompt ++ row ++ crlf, d.stores a bytes) := by
  induction a, bytes using rows.induct generalizing d with
  | case1 a =>
    rw [rows]
    exact ⟨trivial, rfl⟩
  | case2 a b bytes ih =>
    have hlen : ((b :: bytes).take 16).length ≤ 16 := by
      rw [List.length_take]
      exact Nat.min_le_left _ _
    have hsplit : (b :: bytes).length = ((b :: bytes).take 16).length + ((b :: bytes).drop 16).length := by
      rw [← List.length_append, List.take_append_drop]
    -- where a full row ends, or nothing is left
    have hnext : ((b :: bytes).drop 16) = [] ∨ a + BitVec.ofNat 16 ((b :: bytes).take 16).length = a + 16#16 := by
      by_cases hlong : (b :: bytes).length ≤ 16
      · exact .inl (List.drop_eq_nil_of_le hlong)
      · rw [List.length_take, Nat.min_eq_left (by omega)]
        exact .inr rfl
    have hrest : ∀ d : Desk, d.stores (a + BitVec.ofNat 16 ((b :: bytes).take 16).length) ((b :: bytes).drop 16) =
        d.stores (a + 16#16) ((b :: bytes).drop 16) := by
      intro d
      obtain hnil | heq := hnext
      · rw [hnil]
        rfl
      · rw [heq]
    rw [hsplit, addresses_append] at hplain
    have hplain' : ∀ addr ∈ addresses (a + 16#16) ((b :: bytes).drop 16).length, Plain addr := by
      intro addr hmem
      obtain hnil | heq := hnext
      · rw [hnil] at hmem
        cases hmem
      · exact hplain addr (List.mem_append_right _ (by rwa [heq]))
    obtain ⟨hcr, hheading, hcmd, hanswer⟩ := answer_row hlen d (a := a)
    obtain ⟨horderly, hsession⟩ := ih (d.stores a ((b :: bytes).take 16)) hplain'
    have hstores : d.stores a (b :: bytes) =
        (d.stores a ((b :: bytes).take 16)).stores (a + 16#16) ((b :: bytes).drop 16) := by
      rw [← hrest, ← stores_append, List.take_append_drop]
    rw [rows]
    constructor
    · refine orderly_cons hcr ⟨by rw [hcmd]; rfl, ?_, ?_⟩ fun text d' h => ?_
      · rw [hcmd]
        exact fun _ h => absurd h List.not_mem_nil
      · rw [hcmd]
        exact fun addr hmem => hplain addr (List.mem_append_left _ hmem)
      · rw [hanswer] at h
        cases h
        exact horderly
    · rw [session_cons hanswer, hsession, hstores, hheading, List.flatMap_cons, List.append_nil]
      rfl

end Desk

/-- RAM from page 2 on. -/
lemma free_of_le {addr : Word} (h : 0x0200#16 ≤ addr) (hram : addr < 0x8000#16) : Free addr := by
  have hhi := addr.hi_toNat
  simp only [BitVec.le_def, BitVec.lt_def, BitVec.toNat_ofNat] at h hram
  refine ⟨by simpa [BitVec.lt_def] using hram, fun h1 => ?_, fun hlow => ?_, fun hhigh => ?_⟩
  · have h1 := congrArg BitVec.toNat h1
    simp only [BitVec.toNat_ofNat] at h1
    omega
  · simp only [BitVec.le_def, BitVec.toNat_ofNat] at hlow
    omega
  · have hhigh := hhigh.2
    simp only [BitVec.le_def, BitVec.toNat_ofNat] at hhigh
    omega

lemma Free.plain {addr : Word} (h : Free addr) : Plain addr := ⟨h.clear.quiet, h.stack, h.low, h.high⟩

namespace System

variable {sys sys₁ : System} {keys : List Byte} {a last : Word}

lemma ram_eq_byteAt (hready : sys.Ready) {addr : Word} (hf : Free addr) : sys.ram addr = sys.byteAt addr := by
  rw [hready.shows.ram_mem hf.clear hf.hi_lt, hready.shows.byteAt hf.clear]

/-- A session of rows. -/
lemma rows_restore {bytes : List Byte} (hready : sys.Ready) (hpc : sys.cpu.pc = 0xCF11#16)
    (hlen : bytes.length ≤ 65536) (hfree : ∀ addr ∈ addresses a bytes.length, Free addr)
    (hin : sys.input.Yields (strokes (rows a bytes))) :
    ∃ sys', sys.Rounds (rows a bytes).length sys' ∧
      sys'.tty.out = sys.tty.out ++ ((rows a bytes).flatMap fun row => Machine.prompt ++ row ++ crlf) ∧
      (∀ i (hi : i < bytes.length), sys'.ram (a + BitVec.ofNat 16 i) = bytes[i]) ∧
      (∀ addr, Free addr → addr ∉ addresses a bytes.length → sys'.ram addr = sys.ram addr) ∧
      sys'.board.tape.Alike sys.board.tape := by
  have hpictures : sys.Pictures ⟨sys.byteAt, sys.board.tape⟩ := ⟨fun _ _ => rfl, rfl⟩
  obtain ⟨horderly, hsession⟩ := Desk.session_rows a bytes ⟨sys.byteAt, sys.board.tape⟩
    fun addr hmem => (hfree addr hmem).plain
  obtain ⟨sys', hrounds, hready', -, hout, hp', -⟩ :=
    (answers_of_orderly hready hpc hpictures horderly hin).answered _ _ hsession
  have hview := ((pictures_iff hready.shows).mp hpictures).stores a bytes
  -- what is at a free address after the stores
  have hram : ∀ addr, Free addr → sys'.ram addr = (sys.machine.view.stores a bytes).mem addr := by
    intro addr hf
    rw [ram_eq_byteAt hready' hf, hp'.mem addr hf.plain, hview.mem addr hf.plain]
  refine ⟨sys', hrounds, hout, fun i hi => ?_, fun addr hf hnot => ?_, ?_⟩
  · have hf := hfree _ (mem_addresses.mpr ⟨i, hi, rfl⟩)
    rw [hram _ hf, mem_stores hlen i hi hf.hi_lt]
  · rw [hram _ hf, mem_stores_of_not_mem hnot, hready.shows.ram_mem hf.clear hf.hi_lt]
  · have htape : (sys.machine.view.stores a bytes).tape = sys.board.tape := rfl
    have halike := hview.tape
    rw [htape] at halike
    exact hp'.tape.trans halike.symm

/-- What `LIST` prints at one system and is typed at another makes the range of the other what it is at
the first, and leaves all the rest. -/
theorem listing_restores (hready : sys.Ready) (hpc : sys.cpu.pc = 0xCF11#16) (hkeys : sys.Hears keys)
    (hcmd : command (typed keys) = .list a last) (hfree : ∀ addr ∈ addresses a (span a last), Free addr) :
    ∃ n sys' listing, sys.RoundIn n sys' ∧
      sys'.tty.out = sys.tty.out ++ heading keys ++ listing.flatMap (· ++ crlf) ∧
      ∀ sys₁ : System, sys₁.Ready → sys₁.cpu.pc = 0xCF11#16 → sys₁.input.Yields (strokes listing) →
        ∃ sys₁', sys₁.Rounds listing.length sys₁' ∧
          sys₁'.tty.out = sys₁.tty.out ++ (listing.flatMap fun row => Machine.prompt ++ row ++ crlf) ∧
          (∀ addr ∈ addresses a (span a last), sys₁'.ram addr = sys.ram addr) ∧
          (∀ addr, Free addr → addr ∉ addresses a (span a last) → sys₁'.ram addr = sys₁.ram addr) ∧
          sys₁'.board.tape.Alike sys₁.board.tape := by
  have hpictures : sys.Pictures ⟨sys.byteAt, sys.board.tape⟩ := ⟨fun _ _ => rfl, rfl⟩
  have hlast : last ≠ 0xFFFF#16 := by
    rintro rfl
    have hmem : 0xFFFF#16 ∈ addresses a (span a 0xFFFF#16) := by
      refine mem_addresses.mpr ⟨0xFFFF - a.toNat, ?_, ?_⟩
      · unfold span
        have := a.isLt
        simp only [BitVec.toNat_ofNat]
        omega
      · apply BitVec.eq_of_toNat_eq
        have := a.isLt
        simp only [BitVec.toNat_add, BitVec.toNat_ofNat]
        omega
    exact absurd (hfree _ hmem).ram (by decide)
  have hproper : (command (typed keys)).Proper ⟨sys.byteAt, sys.board.tape⟩ := by
    rw [hcmd]
    exact ⟨rfl, fun addr hmem => (hfree addr hmem).plain, fun _ h => absurd h List.not_mem_nil⟩
  obtain ⟨n, sys', text, d', hround, -, hanswer, hout, -⟩ :=
    round_answered hready hpc hkeys hpictures hproper (by rw [hcmd]; exact hlast)
  rw [hcmd] at hanswer
  obtain ⟨rfl, rfl⟩ := Prod.mk.inj (Option.some.inj ((if_neg hlast).symm.trans hanswer))
  set bytes := (addresses a (span a last)).map sys.byteAt with hbytes
  have hlen : bytes.length = span a last := by simp [bytes, addresses]
  refine ⟨n, sys', rows a bytes, hround, ?_, fun sys₁ hready₁ hpc₁ hin => ?_⟩
  · rw [hout, ← dump_eq_rows]
    rfl
  · have hfree' := hfree
    rw [← hlen] at hfree'
    have hspan : bytes.length ≤ 65536 := by
      rw [hlen]
      unfold span
      have := last.isLt
      omega
    obtain ⟨sys₁', hrounds, hout₁, hdata, hother, htape⟩ := rows_restore hready₁ hpc₁ hspan hfree' hin
    refine ⟨sys₁', hrounds, hout₁, fun addr hmem => ?_, fun addr hf hnot => hother addr hf (by rwa [hlen]), htape⟩
    obtain ⟨i, hi, rfl⟩ := mem_addresses.mp hmem
    rw [hdata i (by omega), ram_eq_byteAt hready (hfree _ hmem)]
    simp [bytes, addresses]

/-- `200.211`, two rows of empty RAM. -/
theorem listing_restores_two : ∃ n sys' listing,
    (typing [0x32#8, 0x30#8, 0x30#8, 0x2E#8, 0x32#8, 0x31#8, 0x31#8] default).RoundIn n sys' ∧
    sys'.tty.out = heading [0x32#8, 0x30#8, 0x30#8, 0x2E#8, 0x32#8, 0x31#8, 0x31#8] ++ listing.flatMap (· ++ crlf) ∧
    ∀ sys₁ : System, sys₁.Ready → sys₁.cpu.pc = 0xCF11#16 → sys₁.input.Yields (strokes listing) →
      ∃ sys₁', sys₁.Rounds listing.length sys₁' ∧ sys₁'.ram 0x0211#16 = 0#8 ∧
        sys₁'.ram 0x0212#16 = sys₁.ram 0x0212#16 := by
  have hcmd : command (typed [0x32#8, 0x30#8, 0x30#8, 0x2E#8, 0x32#8, 0x31#8, 0x31#8]) =
      .list 0x0200#16 0x0211#16 := by
    decide
  have hfree : ∀ addr ∈ addresses 0x0200#16 (span 0x0200#16 0x0211#16), Free addr := by
    intro addr hmem
    obtain ⟨i, hi, rfl⟩ := mem_addresses.mp hmem
    have hspan : span 0x0200#16 0x0211#16 = 18 := by decide
    have hto : (0x0200#16 + BitVec.ofNat 16 i).toNat = 512 + i := by
      simp only [BitVec.toNat_add, BitVec.toNat_ofNat]
      omega
    exact free_of_le (by simp only [BitVec.le_def, hto, BitVec.toNat_ofNat]; omega)
      (by simp only [BitVec.lt_def, hto, BitVec.toNat_ofNat]; omega)
  obtain ⟨n, sys', listing, hround, hout, hall⟩ := listing_restores (ready_typing _ default) rfl
    (hears_typing [0x32#8, 0x30#8, 0x30#8, 0x2E#8, 0x32#8, 0x31#8, 0x31#8] default (by decide)) hcmd hfree
  refine ⟨n, sys', listing, hround, hout, fun sys₁ hready hpc hin => ?_⟩
  obtain ⟨sys₁', hrounds, -, hdata, hother, -⟩ := hall sys₁ hready hpc hin
  have hmem : ∀ i, 0x0200#16 + BitVec.ofNat 16 i ∈ addresses 0x0200#16 (span 0x0200#16 0x0211#16) ↔
      ∃ j < span 0x0200#16 0x0211#16, 0x0200#16 + BitVec.ofNat 16 i = 0x0200#16 + BitVec.ofNat 16 j :=
    fun i => mem_addresses
  refine ⟨sys₁', hrounds, hdata 0x0211#16 ((hmem 17).mpr ⟨17, by decide, rfl⟩), hother 0x0212#16 ?_ ?_⟩
  · exact free_of_le (by decide) (by decide)
  · rintro hmem'
    obtain ⟨j, hj, heq⟩ := (hmem 18).mp hmem'
    have hspan : span 0x0200#16 0x0211#16 = 18 := by decide
    have heq := congrArg BitVec.toNat heq
    simp only [BitVec.toNat_add, BitVec.toNat_ofNat] at heq
    omega

end System

end Sys6
