import Mathlib.Tactic
import Mathlib.Logic.Function.Iterate

/-!
# Do-while loops

`doWhile body settled fuel s` runs `body` at least once and stops at the first state with
`settled`. It is `none` when `fuel` rounds do not suffice; a returned state does not
depend on the fuel.
-/

namespace Sys6

variable {σ : Type*} (body : σ → σ) (settled : σ → Bool)

def doWhile : Nat → σ → Option σ
  | 0, _ => none
  | fuel + 1, s => if settled (body s) then some (body s) else doWhile fuel (body s)

lemma doWhile_succ (fuel : Nat) (s : σ) :
    doWhile body settled (fuel + 1) s =
      if settled (body s) then some (body s) else doWhile body settled fuel (body s) := rfl

/-- Rounds that do not settle can be run before the loop. -/
lemma doWhile_skip (n fuel : Nat) (s : σ)
    (h : ∀ i, i < n → settled (body^[i + 1] s) = false) :
    doWhile body settled (n + fuel) s = doWhile body settled fuel (body^[n] s) := by
  induction n generalizing s with
  | zero => simp
  | succ n ih =>
    have h0 : settled (body s) = false := h 0 (by omega)
    rw [show n + 1 + fuel = (n + fuel) + 1 by omega, doWhile_succ, h0,
      Function.iterate_succ_apply]
    exact ih (body s) fun i hi => h (i + 1) (by omega)

/-- The loop returns the first settled state. -/
theorem doWhile_eq_some_iff (fuel : Nat) (s t : σ) :
    doWhile body settled fuel s = some t ↔
      ∃ n, n < fuel ∧ body^[n + 1] s = t ∧ settled t = true ∧
        ∀ i, i < n → settled (body^[i + 1] s) = false := by
  induction fuel generalizing s with
  | zero => simp [doWhile]
  | succ fuel ih =>
    rw [doWhile_succ]
    cases hs : settled (body s) with
    | true =>
      constructor
      · intro h
        cases h
        exact ⟨0, by omega, rfl, hs, by simp⟩
      · rintro ⟨n, -, rfl, -, hn⟩
        cases n with
        | zero => rfl
        | succ n => exact absurd (hn 0 (by omega)) (by simp [hs])
    | false =>
      rw [if_neg (by simp), ih]
      constructor
      · rintro ⟨n, hlt, ht, hst, hn⟩
        refine ⟨n + 1, by omega, ht, hst, fun i hi => ?_⟩
        cases i with
        | zero => exact hs
        | succ i => exact hn i (by omega)
      · rintro ⟨n, hlt, ht, hst, hn⟩
        cases n with
        | zero => exact absurd hst (by rw [← ht]; simp [hs])
        | succ n => exact ⟨n, by omega, ht, hst, fun i hi => hn (i + 1) (by omega)⟩

/-- More fuel changes nothing once the loop has returned. -/
lemma doWhile_mono {fuel fuel' : Nat} {s t : σ} (h : doWhile body settled fuel s = some t)
    (hle : fuel ≤ fuel') : doWhile body settled fuel' s = some t := by
  rw [doWhile_eq_some_iff] at h ⊢
  obtain ⟨n, hlt, ht⟩ := h
  exact ⟨n, by omega, ht⟩

/-- Two bodies that agree on an invariant run alike from it. -/
lemma doWhile_congr {body body' : σ → σ} {settled : σ → Bool} {inv : σ → Prop}
    (hbody : ∀ s, inv s → body s = body' s)
    (hinv : ∀ s, inv s → settled (body' s) = false → inv (body' s)) (fuel : Nat) {s : σ}
    (h : inv s) : doWhile body settled fuel s = doWhile body' settled fuel s := by
  induction fuel generalizing s with
  | zero => rfl
  | succ fuel ih =>
    rw [doWhile_succ, doWhile_succ, hbody s h]
    split_ifs with hs
    · rfl
    · exact ih (hinv s h (by simpa using hs))

/-- The first round after which the loop stops is the `n`-th. -/
structure Rounds (body : σ → σ) (settled : σ → Bool) (n : Nat) (s : σ) : Prop where
  pos : 0 < n
  ends : settled (body^[n] s) = true
  before : ∀ i, 0 < i → i < n → settled (body^[i] s) = false

namespace Rounds

variable {body : σ → σ} {settled : σ → Bool} {n : Nat} {s : σ}

lemma last (h : settled (body s) = true) : Rounds body settled 1 s :=
  ⟨Nat.one_pos, h, fun i h0 h1 => absurd h1 (by omega)⟩

lemma next (h : settled (body s) = false) (h' : Rounds body settled n (body s)) :
    Rounds body settled (n + 1) s := by
  refine ⟨Nat.succ_pos n, h'.ends, fun i h0 hi => ?_⟩
  obtain ⟨j, rfl⟩ : ∃ j, i = j + 1 := ⟨i - 1, by omega⟩
  rw [Function.iterate_succ_apply]
  rcases Nat.eq_zero_or_pos j with rfl | hj
  · exact h
  · exact h'.before j hj (by omega)

lemma doWhile_eq (h : Rounds body settled n s) : doWhile body settled n s = some (body^[n] s) := by
  obtain ⟨k, rfl⟩ : ∃ k, n = k + 1 := ⟨n - 1, by have := h.pos; omega⟩
  exact (doWhile_eq_some_iff body settled (k + 1) s _).mpr
    ⟨k, by omega, rfl, h.ends, fun i hi => h.before (i + 1) (by omega) (by omega)⟩

lemma doWhile_none (h : Rounds body settled n s) {fuel : Nat} (hf : fuel < n) :
    doWhile body settled fuel s = none := by
  rw [Option.eq_none_iff_forall_not_mem]
  intro t ht
  obtain ⟨k, hk, rfl, hst, -⟩ := (doWhile_eq_some_iff body settled fuel s t).mp ht
  have := h.before (k + 1) (by omega) (by omega)
  rw [hst] at this
  cases this

/-- Bodies that agree on an invariant make the same rounds. -/
lemma congr {body' : σ → σ} (inv : σ → Prop) (hbody : ∀ s, inv s → body s = body' s)
    (hinv : ∀ s, inv s → settled (body' s) = false → inv (body' s)) (h : inv s)
    (hr : Rounds body' settled n s) : Rounds body settled n s := by
  have hall : ∀ i, i < n → body^[i + 1] s = body'^[i + 1] s ∧ inv (body'^[i] s) := by
    intro i
    induction i with
    | zero => exact fun _ => ⟨hbody s h, h⟩
    | succ i ih =>
      intro hi
      obtain ⟨heq, hi'⟩ := ih (by omega)
      have hset := hr.before (i + 1) (by omega) hi
      rw [Function.iterate_succ_apply'] at hset
      have hnext := hinv _ hi' hset
      rw [← Function.iterate_succ_apply' body'] at hnext
      refine ⟨?_, hnext⟩
      rw [Function.iterate_succ_apply', heq, hbody _ hnext, ← Function.iterate_succ_apply' body']
  have heq : ∀ i, 0 < i → i ≤ n → body^[i] s = body'^[i] s := by
    intro i h0 hi
    obtain ⟨j, rfl⟩ : ∃ j, i = j + 1 := ⟨i - 1, by omega⟩
    exact (hall j (by omega)).1
  refine ⟨hr.pos, ?_, fun i h0 hi => ?_⟩
  · rw [heq n hr.pos le_rfl]
    exact hr.ends
  · rw [heq i h0 hi.le]
    exact hr.before i h0 hi

end Rounds

end Sys6
