import Sys6.Isa.Watched

/-!
# RAM on a bus

Addresses at which a bus keeps what is written to it. A read anywhere, of code or of a device,
leaves these bytes alone, and so does a write anywhere else.
-/

namespace Sys6

variable {β : Type} [BusLike β]

/-- The byte a read at `addr` gives. -/
def peek (b : β) (addr : Word) : Byte := (BusLike.read b addr).1

namespace Isa

/-- The addresses of `P` are RAM on the buses with `I`, and no access leaves these buses. -/
structure RamOn (I : β → Prop) (P : Word → Prop) : Prop extends Keeps I where
  peek_read : ∀ b addr w, I b → P w → peek (BusLike.read b addr).2 w = peek b w
  peek_write : ∀ b addr v w, I b → P w →
    peek (BusLike.write b addr v) w = if w = addr then v else peek b w

/-- A plain memory is RAM everywhere. -/
lemma ramOn_memory : RamOn (fun _ : Word → Byte => True) fun _ => True where
  read _ _ h := h
  write _ _ _ h := h
  peek_read _ _ _ _ _ := rfl
  peek_write b addr v w _ _ := by
    show Function.update b addr v w = _
    rw [Function.update_apply]
    rfl

lemma RamOn.mono {I : β → Prop} {P Q : Word → Prop} (h : RamOn I P) (hQ : ∀ w, Q w → P w) : RamOn I Q where
  toKeeps := h.toKeeps
  peek_read b addr w hI hw := h.peek_read b addr w hI (hQ w hw)
  peek_write b addr v w hI hw := h.peek_write b addr v w hI (hQ w hw)

/-- What simulates a bus with RAM has the same RAM. -/
lemma RamOn.map {γ : Type} [BusLike γ] {I : β → Prop} {P : Word → Prop} {f : β → γ} (hf : BusMap f)
    (h : RamOn I P) : RamOn (fun c => ∃ b, I b ∧ c = f b) P where
  read := by
    rintro _ addr ⟨b, hI, rfl⟩
    exact ⟨_, h.read b addr hI, by rw [hf.read]⟩
  write := by
    rintro _ addr v ⟨b, hI, rfl⟩
    exact ⟨_, h.write b addr v hI, hf.write b addr v⟩
  peek_read := by
    rintro _ addr w ⟨b, hI, rfl⟩ hw
    have hpeek := h.peek_read b addr w hI hw
    simp only [peek, hf.read] at hpeek ⊢
    exact hpeek
  peek_write := by
    rintro _ addr v w ⟨b, hI, rfl⟩ hw
    have hpeek := h.peek_write b addr v w hI hw
    simp only [peek, hf.read, hf.write] at hpeek ⊢
    exact hpeek

end Isa

end Sys6
