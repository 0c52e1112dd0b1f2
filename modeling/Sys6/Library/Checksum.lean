import Mathlib.Data.List.Basic
import Mathlib.Tactic

/-!
# Running sums

A sum that is kept byte by byte, of which nothing is known but that neither of its arguments can be
changed without a change of the result.
-/

namespace Sys6

namespace Checksum

variable {α σ : Type*} {f : σ → α → σ}

/-- No two states are led to the same one. -/
lemma foldl_injective (hstate : ∀ b, Function.Injective fun c => f c b) (bytes : List α) :
    Function.Injective fun c => bytes.foldl f c := by
  induction bytes with
  | nil => exact fun _ _ h => h
  | cons b bytes ih =>
    intro c c' h
    simp only [List.foldl_cons] at h
    exact hstate b (ih h)

/-- One byte that is another changes the sum, wherever it stands. -/
theorem foldl_set_ne (hstate : ∀ b, Function.Injective fun c => f c b) (hbyte : ∀ c, Function.Injective (f c))
    {bytes : List α} {i : Nat} (hi : i < bytes.length) {v : α} (hv : v ≠ bytes[i]) (c : σ) :
    (bytes.set i v).foldl f c ≠ bytes.foldl f c := by
  induction bytes generalizing c i with
  | nil => exact absurd hi (by simp)
  | cons b bytes ih =>
    cases i with
    | zero =>
      rw [List.set_cons_zero, List.foldl_cons, List.foldl_cons]
      exact fun h => hv (hbyte c (foldl_injective hstate bytes h))
    | succ i =>
      rw [List.set_cons_succ, List.foldl_cons, List.foldl_cons]
      exact ih (by simpa using hi) (by simpa using hv) (f c b)

end Checksum

end Sys6
