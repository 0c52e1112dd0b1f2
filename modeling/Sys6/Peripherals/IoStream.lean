import Sys6.Library.Word

/-!
# The stream behind the tape

`std::iostream` as far as the tape uses it, with the put area of a file stream. A failed
stream ignores seeks and output until it is cleared. `put` only fills the put area; `flush`
and every seek write it out, and what the device refuses stays in it for the next of them.
-/

namespace Sys6

structure IoStream where
  content : List Byte
  /-- False for a file stream that was never opened. -/
  opened : Bool := true
  /-- File streams seek past their end, in-memory streams do not. -/
  seeksPastEnd : Bool := false
  failed : Bool := false
  getPosition : Nat := 0
  putPosition : Nat := 0
  /-- The bytes put but not yet written out, each with its position. -/
  buffer : List (Nat × Byte) := []
  /-- The outcome of every coming `put` and write-out: taken, or refused after so many bytes.
  No more faults after the last. -/
  faults : List (Option Nat) := []
deriving DecidableEq, Repr

namespace IoStream

def canSeek (pos : Nat) (s : IoStream) : Bool :=
  s.opened && (s.seeksPastEnd || decide (pos ≤ s.content.length))

/-- How far the device gets before it refuses the coming operation, if it does. -/
def nextFault (s : IoStream) : Option Nat := s.faults.headD none

/-- The content with `v` at `pos`; a gap before `pos` is filled with zeros. -/
def writeAt (content : List Byte) (pos : Nat) (v : Byte) : List Byte :=
  content.take pos ++ List.replicate (pos - content.length) 0#8 ++ v :: content.drop (pos + 1)

def writeAll (content : List Byte) (bytes : List (Nat × Byte)) : List Byte :=
  bytes.foldl (fun c w => writeAt c w.1 w.2) content

/-- The put area goes to the device, as `overflow` has it. A refused write keeps the whole
area, and the next one starts where the device stopped. -/
def writeOut (s : IoStream) : Bool × IoStream :=
  if s.buffer.isEmpty || !s.opened then (true, s)
  else
    match s.nextFault with
    | none =>
      (true, { s with
        content := writeAll s.content s.buffer
        buffer := []
        faults := s.faults.tail })
    | some n =>
      let taken := s.buffer.dropLast.take n
      (false, { s with
        content := writeAll s.content taken
        buffer := s.buffer.map fun w => (w.1 + taken.length, w.2)
        faults := s.faults.tail })

def seekg (pos : Nat) (s : IoStream) : IoStream :=
  if s.failed then s
  else
    let r := s.writeOut
    if r.1 && r.2.canSeek pos then { r.2 with getPosition := pos }
    else { r.2 with failed := true }

/-- `none` is `eof()`; the end of the content also fails the stream. The tape seeks before
every `get`, so nothing is left to write out here. -/
def get (s : IoStream) : Option Byte × IoStream :=
  if s.failed || !s.opened then (none, { s with failed := true })
  else
    match s.content[s.getPosition]? with
    | some b => (some b, { s with getPosition := s.getPosition + 1 })
    | none => (none, { s with failed := true })

def clear (s : IoStream) : IoStream := { s with failed := false }

def seekp (pos : Nat) (s : IoStream) : IoStream :=
  if s.failed then s
  else
    let r := s.writeOut
    if r.1 && r.2.canSeek pos then { r.2 with putPosition := pos }
    else { r.2 with failed := true }

def put (v : Byte) (s : IoStream) : IoStream :=
  if s.failed then s
  else if !s.opened || s.nextFault.isSome then { s with failed := true, faults := s.faults.tail }
  else
    { s with
      buffer := s.buffer ++ [(s.putPosition, v)]
      putPosition := s.putPosition + 1
      faults := s.faults.tail }

def flush (s : IoStream) : IoStream :=
  if s.failed then s
  else
    let r := s.writeOut
    if r.1 then r.2 else { r.2 with failed := true }

lemma getElem?_writeAt (content : List Byte) (pos : Nat) (v : Byte) :
    (writeAt content pos v)[pos]? = some v := by
  unfold writeAt
  rw [List.getElem?_append_right]
  · simp only [List.length_append, List.length_take, List.length_replicate]
    rw [show pos - (min pos content.length + (pos - content.length)) = 0 by omega]
    rfl
  · simp only [List.length_append, List.length_take, List.length_replicate]
    omega

lemma opened_of_canSeek {s : IoStream} {pos : Nat} (h : s.canSeek pos = true) : s.opened = true := by
  rw [canSeek, Bool.and_eq_true] at h
  exact h.1

lemma writeOut_empty {s : IoStream} (h : s.buffer = []) : s.writeOut = (true, s) := by
  simp [writeOut, h]

lemma opened_writeOut (s : IoStream) : s.writeOut.2.opened = s.opened := by
  unfold writeOut
  split_ifs
  · rfl
  · split <;> rfl

lemma failed_writeOut (s : IoStream) : s.writeOut.2.failed = s.failed := by
  unfold writeOut
  split_ifs
  · rfl
  · split <;> rfl

/-- A write-out that succeeds leaves nothing in the put area of an open stream. -/
lemma buffer_writeOut {s : IoStream} (ho : s.opened = true) (h : s.writeOut.1 = true) :
    s.writeOut.2.buffer = [] := by
  unfold writeOut at h ⊢
  split_ifs at h ⊢ with hb
  · simpa [ho] using hb
  · split at h
    · rfl
    · cases h

lemma seekg_failed {s : IoStream} (h : s.failed = true) (pos : Nat) : s.seekg pos = s := if_pos h

lemma seekg_moved {s : IoStream} {pos : Nat} (hf : s.failed = false) (hw : s.writeOut.1 = true)
    (h : s.writeOut.2.canSeek pos = true) : s.seekg pos = { s.writeOut.2 with getPosition := pos } := by
  simp [seekg, hf, hw, h]

lemma seekg_refused {s : IoStream} {pos : Nat} (hf : s.failed = false)
    (h : (s.writeOut.1 && s.writeOut.2.canSeek pos) = false) :
    s.seekg pos = { s.writeOut.2 with failed := true } := by
  simp [seekg, hf, h]

lemma get_failed {s : IoStream} (h : s.failed = true) : s.get = (none, { s with failed := true }) :=
  if_pos (by rw [h]; rfl)

lemma get_some {s : IoStream} {b : Byte} (hf : s.failed = false) (ho : s.opened = true)
    (h : s.content[s.getPosition]? = some b) :
    s.get = (some b, { s with getPosition := s.getPosition + 1 }) := by
  unfold get
  rw [if_neg (by rw [hf, ho]; decide), h]

lemma get_none {s : IoStream} (hf : s.failed = false) (ho : s.opened = true)
    (h : s.content[s.getPosition]? = none) : s.get = (none, { s with failed := true }) := by
  unfold get
  rw [if_neg (by rw [hf, ho]; decide), h]

lemma seekp_failed {s : IoStream} (h : s.failed = true) (pos : Nat) : s.seekp pos = s := if_pos h

lemma seekp_moved {s : IoStream} {pos : Nat} (hf : s.failed = false) (hw : s.writeOut.1 = true)
    (h : s.writeOut.2.canSeek pos = true) : s.seekp pos = { s.writeOut.2 with putPosition := pos } := by
  simp [seekp, hf, hw, h]

lemma seekp_refused {s : IoStream} {pos : Nat} (hf : s.failed = false)
    (h : (s.writeOut.1 && s.writeOut.2.canSeek pos) = false) :
    s.seekp pos = { s.writeOut.2 with failed := true } := by
  simp [seekp, hf, h]

lemma put_failed {s : IoStream} (h : s.failed = true) (v : Byte) : s.put v = s := by
  unfold put
  exact if_pos h

lemma put_refused {s : IoStream} (hf : s.failed = false) (h : s.nextFault.isSome) (v : Byte) :
    s.put v = { s with failed := true, faults := s.faults.tail } := by
  simp [put, hf, h]

lemma put_taken {s : IoStream} (hf : s.failed = false) (ho : s.opened = true)
    (h : s.nextFault = none) (v : Byte) :
    s.put v = { s with
      buffer := s.buffer ++ [(s.putPosition, v)]
      putPosition := s.putPosition + 1
      faults := s.faults.tail } := by
  simp [put, hf, ho, h]

lemma flush_failed {s : IoStream} (h : s.failed = true) : s.flush = s := if_pos h

lemma content_flush {s : IoStream} (hf : s.failed = false) :
    s.flush.content = s.writeOut.2.content := by
  unfold flush
  rw [if_neg (by rw [hf]; decide)]
  dsimp only
  split_ifs <;> rfl

/-- The content once a seek has written out what was pending. -/
def settled (s : IoStream) : List Byte := if s.failed then s.content else s.writeOut.2.content

/-- A byte written at `pos` now reaches the content: what is pending can be written out, `pos`
can be sought, and neither the `put` nor the `flush` after it is refused. -/
def stores (pos : Nat) (s : IoStream) : Bool :=
  !s.failed && s.writeOut.1 && s.writeOut.2.canSeek pos && s.writeOut.2.nextFault.isNone &&
    (s.writeOut.2.faults.tail.headD none).isNone

/-- The one byte of the put area reaches the content, unless the device refuses it. -/
lemma content_flush_one {s : IoStream} {w : Nat × Byte} (hf : s.failed = false)
    (ho : s.opened = true) (hb : s.buffer = [w]) :
    s.flush.content = if s.nextFault.isNone then writeAt s.content w.1 w.2 else s.content := by
  rw [content_flush hf]
  unfold writeOut
  rw [if_neg (by simp [hb, ho]), hb]
  cases s.nextFault with
  | none => rfl
  | some n => simp [writeAll]

/-- A write that stores puts its byte at `pos`, any other leaves the settled content alone. -/
theorem content_write (pos : Nat) (v : Byte) (s : IoStream) :
    ((s.seekp pos).put v).flush.content =
      if s.stores pos then writeAt s.settled pos v else s.settled := by
  cases hf : s.failed with
  | true =>
    have hs : s.stores pos = false := by simp [stores, hf]
    rw [seekp_failed hf, put_failed hf, flush_failed hf, hs]
    simp [settled, hf]
  | false =>
    have hsettled : s.settled = s.writeOut.2.content := by simp [settled, hf]
    cases hc : s.writeOut.1 && s.writeOut.2.canSeek pos with
    | false =>
      have hs : s.stores pos = false := by simp [stores, hf, hc]
      rw [seekp_refused hf hc, put_failed rfl, flush_failed rfl, hs, hsettled]
      rfl
    | true =>
      obtain ⟨hw, hcan⟩ := Bool.and_eq_true_iff.mp hc
      have hf' : s.writeOut.2.failed = false := by rw [failed_writeOut, hf]
      have ho : s.writeOut.2.opened = true := opened_of_canSeek hcan
      have hempty : s.writeOut.2.buffer = [] := buffer_writeOut (by rw [← ho, opened_writeOut]) hw
      have hstores : s.stores pos = (s.writeOut.2.nextFault.isNone &&
          (s.writeOut.2.faults.tail.headD none).isNone) := by
        simp [stores, hf, hw, hcan]
      have hseek : s.seekp pos = { s.writeOut.2 with putPosition := pos } := seekp_moved hf hw hcan
      rw [hstores, hsettled, hseek]
      cases hn : s.writeOut.2.nextFault with
      | some n =>
        have hput := put_refused (s := { s.writeOut.2 with putPosition := pos }) hf'
          (Option.isSome_of_mem hn) v
        rw [hput, flush_failed rfl]
        rfl
      | none =>
        have hput := put_taken (s := { s.writeOut.2 with putPosition := pos }) hf' ho hn v
        have hbuffer : s.writeOut.2.buffer ++ [(pos, v)] = [(pos, v)] := by rw [hempty]; rfl
        rw [hput]
        exact content_flush_one (w := (pos, v)) hf' ho hbuffer

end IoStream

end Sys6
