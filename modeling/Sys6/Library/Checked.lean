import Mathlib.Data.List.Basic
import Mathlib.Tactic

/-!
# Checked runs

`step` handles a call in every state. `checked` does the same, but refuses some states. A run of the two
agrees exactly where no call of it is refused.
-/

namespace Sys6

namespace Checked

variable {σ κ : Type*} {step : σ → κ → σ} {checked : σ → κ → Option σ}

/-- `P` holds of each call and of those before it. -/
def Each (P : List κ → κ → Prop) (calls : List κ) : Prop :=
  ∀ earlier c later, calls = earlier ++ c :: later → P earlier c

lemma each_nil {P : List κ → κ → Prop} : Each P [] := by
  intro earlier c later h
  exact absurd h.symm (List.append_ne_nil_of_right_ne_nil earlier (List.cons_ne_nil c later))

lemma each_cons {P : List κ → κ → Prop} {c : κ} {calls : List κ} :
    Each P (c :: calls) ↔ P [] c ∧ Each (fun earlier => P (c :: earlier)) calls := by
  constructor
  · intro h
    refine ⟨h [] c calls rfl, fun earlier d later hd => h (c :: earlier) d later ?_⟩
    rw [hd, List.cons_append]
  · rintro ⟨hfirst, hrest⟩ earlier d later h
    cases earlier with
    | nil =>
      rw [List.nil_append] at h
      obtain ⟨rfl, rfl⟩ := List.cons.inj h
      exact hfirst
    | cons e earlier =>
      rw [List.cons_append] at h
      obtain ⟨rfl, hd⟩ := List.cons.inj h
      exact hrest earlier d later hd

/-- The checked run goes through if and only if each of its calls does. -/
theorem foldlM_eq_some_iff (herases : ∀ s c s', checked s c = some s' → step s c = s') (s : σ)
    (calls : List κ) :
    calls.foldlM checked s = some (calls.foldl step s) ↔
      Each (fun earlier c => (checked (earlier.foldl step s) c).isSome = true) calls := by
  induction calls generalizing s with
  | nil => exact iff_of_true rfl each_nil
  | cons c calls ih =>
    rw [each_cons, List.foldlM_cons, List.foldl_cons, List.foldl_nil]
    cases hc : checked s c with
    | none => simp
    | some s' =>
      have hs := herases s c s' hc
      subst hs
      rw [Option.bind_eq_bind, Option.bind_some, ih (step s c)]
      simp

end Checked

end Sys6
