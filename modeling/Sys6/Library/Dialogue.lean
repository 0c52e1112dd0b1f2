import Mathlib.Data.List.Basic
import Mathlib.Data.Option.Basic
import Mathlib.Tactic

/-!
# Dialogues

`reply` answers a line with a text and a new state, or not at all. A dialogue is line after line; one
that is not answered is the last.
-/

namespace Sys6

namespace Dialogue

variable {σ τ κ ε : Type*}

/-- All the texts, one behind the other, and the state in the end. -/
def run (reply : σ → κ → Option (List ε × σ)) (s : σ) : List κ → Option (List ε × σ)
  | [] => some ([], s)
  | line :: lines => (reply s line).bind fun r => (run reply r.2 lines).map fun r' => (r.1 ++ r'.1, r'.2)

/-- Each line is as `P` wants it when it comes to it. -/
def Along (reply : σ → κ → Option (List ε × σ)) (P : σ → κ → Prop) (s : σ) : List κ → Prop
  | [] => True
  | line :: lines => P s line ∧ ∀ text s', reply s line = some (text, s') → Along reply P s' lines

variable {reply : σ → κ → Option (List ε × σ)} {reply' : τ → κ → Option (List ε × τ)} {s s' : σ} {line : κ}
  {lines : List κ} {text : List ε}

lemma run_cons (h : reply s line = some (text, s')) :
    run reply s (line :: lines) = (run reply s' lines).map fun r => (text ++ r.1, r.2) := by
  rw [run, h]
  rfl

lemma run_cons_none (h : reply s line = none) : run reply s (line :: lines) = none := by
  rw [run, h]
  rfl

/-- The two reply alike to every line that is as `P` wants it. -/
structure Simulates (reply : σ → κ → Option (List ε × σ)) (reply' : τ → κ → Option (List ε × τ))
    (R : σ → τ → Prop) (P : τ → κ → Prop) : Prop where
  unanswered : ∀ {s t line}, R s t → P t line → reply' t line = none → reply s line = none
  answered : ∀ {s t line text t'}, R s t → P t line → reply' t line = some (text, t') →
    ∃ s', reply s line = some (text, s') ∧ R s' t'

variable {R : σ → τ → Prop} {P : τ → κ → Prop} {Q : σ → κ → Prop} {t : τ}

/-- Then all of a dialogue is alike. -/
theorem Simulates.run (hsim : Simulates reply reply' R P) (hR : R s t) (halong : Along reply' P t lines) :
    (run reply' t lines = none → run reply s lines = none) ∧
      ∀ text t', run reply' t lines = some (text, t') → ∃ s', run reply s lines = some (text, s') ∧ R s' t' := by
  induction lines generalizing s t with
  | nil =>
    constructor
    · intro h
      cases h
    · intro text t' h
      cases h
      exact ⟨s, rfl, hR⟩
  | cons line lines ih =>
    obtain ⟨hP, hrest⟩ := halong
    cases hreply : reply' t line with
    | none =>
      rw [run_cons_none hreply, run_cons_none (hsim.unanswered hR hP hreply)]
      exact ⟨fun _ => rfl, fun text t' h => absurd h (by simp)⟩
    | some r =>
      obtain ⟨s₁, hs₁, hR₁⟩ := hsim.answered hR hP hreply
      obtain ⟨ihnone, ihsome⟩ := ih hR₁ (hrest r.1 r.2 hreply)
      rw [run_cons hreply, run_cons hs₁]
      constructor
      · intro h
        rw [Option.map_eq_none_iff] at h ⊢
        exact ihnone h
      · intro more t' h
        obtain ⟨⟨rest, t''⟩, ht, heq⟩ := Option.map_eq_some_iff.mp h
        obtain ⟨rfl, rfl⟩ := Prod.mk.inj heq
        obtain ⟨s', hs', hR'⟩ := ihsome rest t'' ht
        exact ⟨s', by rw [hs']; rfl, hR'⟩

/-- And each line is as it should be for the other. -/
theorem Simulates.along (hsim : Simulates reply reply' R P) (hQ : ∀ {s t line}, R s t → P t line → Q s line)
    (hR : R s t) (halong : Along reply' P t lines) : Along reply Q s lines := by
  induction lines generalizing s t with
  | nil => trivial
  | cons line lines ih =>
    obtain ⟨hP, hrest⟩ := halong
    refine ⟨hQ hR hP, fun text s' hs' => ?_⟩
    cases hreply : reply' t line with
    | none =>
      rw [hsim.unanswered hR hP hreply] at hs'
      cases hs'
    | some r =>
      obtain ⟨s₁, hs₁, hR₁⟩ := hsim.answered hR hP hreply
      rw [hs₁] at hs'
      obtain ⟨-, rfl⟩ := Prod.mk.inj (Option.some.inj hs')
      exact ih hR₁ (hrest r.1 r.2 hreply)

section Carried

variable {χ : Type*} {T : χ → List ε → χ → Prop} {H : χ → σ → List κ → Prop} {P : σ → κ → Prop} {x : χ}

/-- What carries out every line that is answered carries out all of a dialogue. `T` is what a stretch of its run
prints, and `H` has it at the state, with the lines to come. -/
theorem carried (hnil : ∀ x, T x [] x)
    (htrans : ∀ {x y z : χ} {a b : List ε}, T x a y → T y b z → T x (a ++ b) z)
    (hline : ∀ {x : χ} {s : σ} {line : κ} {lines : List κ} {text : List ε} {s' : σ}, H x s (line :: lines) →
      P s line → reply s line = some (text, s') → ∃ x', T x text x' ∧ H x' s' lines)
    (h : H x s lines) (halong : Along reply P s lines) (hrun : run reply s lines = some (text, s')) :
    ∃ x', T x text x' ∧ H x' s' [] := by
  induction lines generalizing x s text with
  | nil =>
    cases hrun
    exact ⟨x, hnil x, h⟩
  | cons line lines ih =>
    obtain ⟨hP, hrest⟩ := halong
    cases hreply : reply s line with
    | none =>
      rw [run_cons_none hreply] at hrun
      cases hrun
    | some r =>
      rw [run_cons hreply] at hrun
      obtain ⟨⟨more, s₂⟩, hmore, heq⟩ := Option.map_eq_some_iff.mp hrun
      obtain ⟨rfl, rfl⟩ := Prod.mk.inj heq
      obtain ⟨x₁, hfirst, h₁⟩ := hline h hP hreply
      obtain ⟨x', hlast, h'⟩ := ih h₁ (hrest r.1 r.2 hreply) hmore
      exact ⟨x', htrans hfirst hlast, h'⟩

end Carried

end Dialogue

end Sys6
