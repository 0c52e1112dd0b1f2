import Mathlib.Tactic
import Mathlib.Logic.Function.Iterate

/-!
# Runs of a deterministic machine

`step` moves the machine, `obs` says what is seen of a state. `Leads` is a finite stretch of
a run together with what is seen on it, its first state included and its last one not, all
of whose states are in `I`.
-/

namespace Sys6

namespace Run

variable {σ ε : Type*} (step : σ → σ) (obs : σ → List ε) (I : σ → Prop)

/-- What is seen of the first `n` states. -/
def trace : Nat → σ → List ε
  | 0, _ => []
  | n + 1, s => obs s ++ trace n (step s)

/-- `n` steps lead from `s` to `s'`, and `evs` is seen on the way through `I`. -/
structure LeadsIn (n : Nat) (s : σ) (evs : List ε) (s' : σ) : Prop where
  run : step^[n] s = s'
  trace : trace step obs n s = evs
  within : ∀ i, i < n → I (step^[i] s)

def Leads (s : σ) (evs : List ε) (s' : σ) : Prop := ∃ n, LeadsIn step obs I n s evs s'

/-- At least one step leads from `s` to `s'`. -/
def LeadsOn (s : σ) (evs : List ε) (s' : σ) : Prop := ∃ n, LeadsIn step obs I (n + 1) s evs s'

/-- However long the machine runs from `s`, it stays in `I` and only `E` is seen. -/
def Always (E : ε → Prop) (s : σ) : Prop :=
  ∀ n, I (step^[n] s) ∧ ∀ e ∈ obs (step^[n] s), E e

variable {step obs I}

lemma trace_add (a b : Nat) (s : σ) :
    trace step obs (a + b) s = trace step obs a s ++ trace step obs b (step^[a] s) := by
  induction a generalizing s with
  | zero => simp [trace]
  | succ a ih =>
    rw [show a + 1 + b = (a + b) + 1 by omega, trace, trace, ih, List.append_assoc]
    rfl

lemma mem_trace {e : ε} {n : Nat} {s : σ} :
    e ∈ trace step obs n s ↔ ∃ i, i < n ∧ e ∈ obs (step^[i] s) := by
  induction n generalizing s with
  | zero => simp [trace]
  | succ n ih =>
    rw [trace, List.mem_append, ih]
    constructor
    · rintro (h | ⟨i, hi, h⟩)
      · exact ⟨0, by omega, h⟩
      · exact ⟨i + 1, by omega, h⟩
    · rintro ⟨i, hi, h⟩
      cases i with
      | zero => exact .inl h
      | succ i => exact .inr ⟨i, by omega, h⟩

lemma LeadsIn.trans {a b : Nat} {s s' s'' : σ} {e e' : List ε} (h : LeadsIn step obs I a s e s')
    (h' : LeadsIn step obs I b s' e' s'') : LeadsIn step obs I (a + b) s (e ++ e') s'' := by
  refine ⟨?_, ?_, fun i hi => ?_⟩
  · rw [Nat.add_comm, Function.iterate_add_apply, h.run, h'.run]
  · rw [trace_add, h.trace, h.run, h'.trace]
  · by_cases hia : i < a
    · exact h.within i hia
    · have hrest := h'.within (i - a) (by omega)
      rwa [← h.run, ← Function.iterate_add_apply, show i - a + a = i by omega] at hrest

lemma LeadsIn.mono {J : σ → Prop} {n : Nat} {s s' : σ} {e : List ε}
    (h : LeadsIn step obs I n s e s') (hI : ∀ s, I s → J s) : LeadsIn step obs J n s e s' :=
  ⟨h.run, h.trace, fun i hi => hI _ (h.within i hi)⟩

lemma Leads.refl (s : σ) : Leads step obs I s [] s := ⟨0, rfl, rfl, fun i hi => absurd hi (by omega)⟩

lemma Leads.trans {s s' s'' : σ} {e e' : List ε} (h : Leads step obs I s e s')
    (h' : Leads step obs I s' e' s'') : Leads step obs I s (e ++ e') s'' := by
  obtain ⟨a, h⟩ := h
  obtain ⟨b, h'⟩ := h'
  exact ⟨a + b, h.trans h'⟩

lemma Leads.mono {J : σ → Prop} {s s' : σ} {e : List ε} (h : Leads step obs I s e s')
    (hI : ∀ s, I s → J s) : Leads step obs J s e s' := by
  obtain ⟨n, h⟩ := h
  exact ⟨n, h.mono hI⟩

lemma leadsIn_one {s : σ} (h : I s) : LeadsIn step obs I 1 s (obs s) (step s) := by
  refine ⟨rfl, by simp [trace], fun i hi => ?_⟩
  obtain rfl : i = 0 := by omega
  exact h

lemma Leads.head {s s' : σ} {e : List ε} (hs : I s) (h : Leads step obs I (step s) e s') :
    Leads step obs I s (obs s ++ e) s' :=
  Leads.trans ⟨1, leadsIn_one hs⟩ h

lemma LeadsOn.trans {s s' s'' : σ} {e e' : List ε} (h : LeadsOn step obs I s e s')
    (h' : Leads step obs I s' e' s'') : LeadsOn step obs I s (e ++ e') s'' := by
  obtain ⟨a, h⟩ := h
  obtain ⟨b, h'⟩ := h'
  refine ⟨a + b, ?_⟩
  rw [Nat.add_right_comm]
  exact h.trans h'

lemma Leads.on_of_ne {s s' : σ} {e : List ε} (h : Leads step obs I s e s') (hne : s ≠ s') :
    LeadsOn step obs I s e s' := by
  obtain ⟨n, h⟩ := h
  cases n with
  | zero => exact absurd h.run hne
  | succ n => exact ⟨n, h⟩

lemma Leads.on_of_event {s s' : σ} {e : List ε} (h : Leads step obs I s e s') (hne : e ≠ []) :
    LeadsOn step obs I s e s' := by
  obtain ⟨n, h⟩ := h
  cases n with
  | zero => exact absurd h.trace.symm hne
  | succ n => exact ⟨n, h⟩

lemma LeadsIn.sees {E : ε → Prop} {n : Nat} {s s' : σ} {evs : List ε}
    (h : LeadsIn step obs I n s evs s') (hevs : ∀ e ∈ evs, E e) {i : Nat} (hi : i < n) :
    I (step^[i] s) ∧ ∀ e ∈ obs (step^[i] s), E e := by
  refine ⟨h.within i hi, fun e he => hevs e ?_⟩
  rw [← h.trace]
  exact mem_trace.mpr ⟨i, hi, he⟩

lemma Always.mono {J : σ → Prop} {E E' : ε → Prop} {s : σ} (h : Always step obs I E s)
    (hI : ∀ s, I s → J s) (hE : ∀ e, E e → E' e) : Always step obs J E' s :=
  fun n => ⟨hI _ (h n).1, fun e he => hE e ((h n).2 e he)⟩

lemma Leads.always {E : ε → Prop} {s s' : σ} {evs : List ε} (h : Leads step obs I s evs s')
    (hevs : ∀ e ∈ evs, E e) (h' : Always step obs I E s') : Always step obs I E s := by
  obtain ⟨a, h⟩ := h
  intro n
  by_cases hn : n < a
  · exact h.sees hevs hn
  · have hrest := h' (n - a)
    rwa [← h.run, ← Function.iterate_add_apply, show n - a + a = n by omega] at hrest

/-- A set of states that is visited again and again, with nothing but `E` seen between. -/
theorem always_of_recurrent {E : ε → Prop} (inv : σ → Prop)
    (hinv : ∀ s, inv s → Always step obs I E s ∨
      ∃ evs s', LeadsOn step obs I s evs s' ∧ (∀ e ∈ evs, E e) ∧ inv s')
    {s : σ} (h : inv s) : Always step obs I E s := by
  intro n
  induction n using Nat.strong_induction_on generalizing s with
  | _ n ih =>
    obtain hall | ⟨evs, s', ⟨k, hl⟩, hevs, h'⟩ := hinv s h
    · exact hall n
    by_cases hn : n < k + 1
    · exact hl.sees hevs hn
    · have hrest := ih (n - (k + 1)) (by omega) h'
      rwa [← hl.run, ← Function.iterate_add_apply, show n - (k + 1) + (k + 1) = n by omega] at hrest

/-- From `s` on, no head is reached while only `E` is seen. -/
def Leaves (step : σ → σ) (obs : σ → List ε) (head : σ → Prop) (E : ε → Prop) (s : σ) : Prop :=
  ∀ n, (∀ e ∈ trace step obs n s, E e) → ¬head (step^[n] s)

lemma Always.leaves {head : σ → Prop} {E E' : ε → Prop} {s : σ} (h : Always step obs I E s)
    (hhead : ∀ s, (∀ e ∈ obs s, E e) → ¬head s) : Leaves step obs head E' s :=
  fun n _ => hhead _ (h n).2

/-- A state where something else is seen. -/
lemma leaves_of_obs {head : σ → Prop} {E : ε → Prop} {s : σ} {e : ε} (hs : ¬head s) (he : e ∈ obs s)
    (hE : ¬E e) : Leaves step obs head E s := by
  intro n htrace
  cases n with
  | zero => exact hs
  | succ n => exact absurd (htrace e (mem_trace.mpr ⟨0, by omega, he⟩)) hE

/-- What every round keeps from head to head holds at every head that is reached while only `E` is
seen. -/
theorem invariant_at_heads {E : ε → Prop} (head inv : σ → Prop)
    (hround : ∀ s, head s → inv s → ∃ k evs s', LeadsIn step obs I (k + 1) s evs s' ∧
      (∀ i, 0 < i → i < k + 1 → ¬head (step^[i] s)) ∧
      (head s' ∧ inv s' ∨ Leaves step obs head E s'))
    {s : σ} (hs : head s) (hinv : inv s) {n : Nat} (htrace : ∀ e ∈ trace step obs n s, E e)
    (hn : head (step^[n] s)) : inv (step^[n] s) := by
  induction n using Nat.strong_induction_on generalizing s with
  | _ n ih =>
    obtain ⟨k, evs, s', hlead, hfirst, hnext⟩ := hround s hs hinv
    obtain rfl | hpos := Nat.eq_zero_or_pos n
    · exact hinv
    by_cases hlt : n < k + 1
    · exact absurd hn (hfirst n hpos hlt)
    · have hsplit : n = (k + 1) + (n - (k + 1)) := by omega
      have hrest : step^[n] s = step^[n - (k + 1)] s' := by
        rw [← hlead.run, ← Function.iterate_add_apply]
        congr 1
        omega
      have htrace' : ∀ e ∈ trace step obs (n - (k + 1)) s', E e := by
        intro e he
        rw [← hlead.run] at he
        refine htrace e ?_
        rw [hsplit, trace_add]
        exact List.mem_append_right _ he
      rw [hrest] at hn ⊢
      obtain ⟨hhead, hinv'⟩ | hleaves := hnext
      · exact ih (n - (k + 1)) (by omega) hhead hinv' htrace' hn
      · exact absurd hn (hleaves _ htrace')

end Run

end Sys6
