import Sys6.Library.DoWhile

/-!
# Loops that start again where they have stopped

Every base is so many rounds before the next one. Whoever runs the body one round at a time or up to some
condition is always between two bases, and finishes at the second.
-/

namespace Sys6

variable {σ : Type*}

/-- From a base the loop makes `len` rounds, and comes to a base again. -/
structure Strides (body : σ → σ) (settled : σ → Bool) (Base : σ → Prop) (len : σ → Nat) : Prop where
  rounds : ∀ {s}, Base s → Rounds body settled (len s) s
  again : ∀ {s}, Base s → Base (body^[len s] s)

/-- `t` is `r` rounds past the base `s`, and before the next one. -/
structure Past (body : σ → σ) (Base : σ → Prop) (len : σ → Nat) (s : σ) (r : Nat) (t : σ) : Prop where
  base : Base s
  before : r < len s
  at_round : t = body^[r] s

variable {body : σ → σ} {settled : σ → Bool} {Base : σ → Prop} {len : σ → Nat} {s t : σ} {r n : Nat}

namespace Strides

lemma start (h : Strides body settled Base len) (hs : Base s) : Past body Base len s 0 s :=
  ⟨hs, (h.rounds hs).pos, rfl⟩

/-- The base a position belongs to, and how far past it, after `n` more rounds that lead over one base
at most. -/
lemma advance (h : Strides body settled Base len) (hp : Past body Base len s r t)
    (hn : r + n - len s < len (body^[len s] s)) :
    if r + n < len s then Past body Base len s (r + n) (body^[n] t)
      else Past body Base len (body^[len s] s) (r + n - len s) (body^[n] t) := by
  obtain ⟨hs, hr, rfl⟩ := hp
  rw [← Function.iterate_add_apply, Nat.add_comm n r]
  split_ifs with hshort
  · exact ⟨hs, hshort, rfl⟩
  · refine ⟨h.again hs, hn, ?_⟩
    rw [← Function.iterate_add_apply, Nat.sub_add_cancel (by omega)]

/-- The loop runs to the next base from wherever it is. -/
lemma finish (h : Strides body settled Base len) (hp : Past body Base len s r t) {fuel : Nat}
    (hf : len s ≤ fuel) : doWhile body settled fuel t = some (body^[len s] s) := by
  obtain ⟨hs, hr, rfl⟩ := hp
  have hrounds := h.rounds hs
  obtain ⟨k, hk⟩ : ∃ k, len s = r + (k + 1) := ⟨len s - r - 1, by omega⟩
  refine (doWhile_eq_some_iff body settled fuel _ _).mpr ⟨k, by omega, ?_, hrounds.ends, fun i hi => ?_⟩
  · rw [← Function.iterate_add_apply, hk, Nat.add_comm r]
  · rw [← Function.iterate_add_apply]
    exact hrounds.before _ (by omega) (by omega)

/-- What no round changes but one that settles is the same all the way. -/
lemma kept {α : Type*} {f : σ → α} (h : Strides body settled Base len) (inv : σ → Prop) (hbase : Base s → inv s)
    (hinv : ∀ s, inv s → inv (body s)) (hkept : ∀ s, inv s → settled (body s) = false → f (body s) = f s)
    (hp : Past body Base len s r t) : f t = f s := by
  obtain ⟨hs, hr, rfl⟩ := hp
  have hall : ∀ i, i < len s → inv (body^[i] s) ∧ f (body^[i] s) = f s := by
    intro i
    induction i with
    | zero => exact fun _ => ⟨hbase hs, rfl⟩
    | succ i ih =>
      intro hi
      obtain ⟨hi', hf⟩ := ih (by omega)
      have hset := (h.rounds hs).before (i + 1) (by omega) hi
      rw [Function.iterate_succ_apply'] at hset ⊢
      exact ⟨hinv _ hi', (hkept _ hi' hset).trans hf⟩
  exact (hall r hr).2

end Strides

end Sys6
