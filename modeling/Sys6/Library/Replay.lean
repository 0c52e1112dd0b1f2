import Mathlib.Data.List.Basic
import Mathlib.Logic.Function.Basic
import Mathlib.Tactic

/-!
# Logs that are played again

A log is right about a system if every entry fits the state that the entries before it lead to. What a
memory holds in the end is the last that was written.
-/

namespace Sys6

namespace Replay

variable {σ ε : Type*} {fits : σ → ε → Prop} {next : σ → ε → σ} {s s' s'' : σ} {log log' : List ε} {e : ε}

/-- The log is right from `s` on, and leads to `s'`. -/
structure Right (fits : σ → ε → Prop) (next : σ → ε → σ) (s : σ) (log : List ε) (s' : σ) : Prop where
  entries : ∀ pre e post, log = pre ++ e :: post → fits (pre.foldl next s) e
  final : s' = log.foldl next s

lemma Right.nil (s : σ) : Right fits next s [] s := by
  refine ⟨fun pre e post h => ?_, rfl⟩
  have hlen := congrArg List.length h
  simp at hlen

/-- One more entry. -/
lemma Right.snoc (h : Right fits next s log s') (he : fits s' e) : Right fits next s (log ++ [e]) (next s' e) := by
  obtain ⟨hentries, rfl⟩ := h
  refine ⟨fun pre e' post heq => ?_, by rw [List.foldl_append]; rfl⟩
  obtain rfl | ⟨post, last, rfl⟩ := post.eq_nil_or_concat'
  · obtain ⟨rfl, hlast⟩ := List.append_inj' heq rfl
    obtain rfl := List.singleton_inj.mp hlast
    exact he
  · rw [← List.cons_append, ← List.append_assoc] at heq
    obtain ⟨hlog, -⟩ := List.append_inj' heq rfl
    exact hentries pre e' post hlog

lemma Right.append (h : Right fits next s log s') (h' : Right fits next s' log' s'') :
    Right fits next s (log ++ log') s'' := by
  induction log' using List.reverseRecOn generalizing s'' with
  | nil =>
    obtain rfl := h'.final
    rw [List.append_nil]
    exact h
  | append_singleton log' e ih =>
    have hinit : Right fits next s' log' (log'.foldl next s') := by
      refine ⟨fun pre e' post heq => h'.entries pre e' (post ++ [e]) ?_, rfl⟩
      rw [heq, List.append_assoc, List.cons_append]
    have hlast : s'' = next (log'.foldl next s') e := by
      rw [h'.final, List.foldl_append]
      rfl
    rw [hlast, ← List.append_assoc]
    exact (ih hinit).snoc (h'.entries log' e [] rfl)

variable {α δ : Type*} [DecidableEq α]

/-- What has been written last. -/
def lastWrite (a : α) : List (α × δ) → Option δ
  | [] => none
  | w :: ws => (lastWrite a ws).or (if w.1 = a then some w.2 else none)

lemma lastWrite_append (a : α) (ws ws' : List (α × δ)) :
    lastWrite a (ws ++ ws') = (lastWrite a ws').or (lastWrite a ws) := by
  induction ws with
  | nil => simp [lastWrite]
  | cons w ws ih => rw [List.cons_append, lastWrite, lastWrite, ih, Option.or_assoc]

/-- A memory after one more write. -/
lemma lastWrite_update (f : α → δ) (ws : List (α × δ)) (a b : α) (v : δ) :
    (lastWrite b (ws ++ [(a, v)])).getD (f b) =
      Function.update (fun b => (lastWrite b ws).getD (f b)) a v b := by
  rw [lastWrite_append, Function.update_apply]
  by_cases hb : b = a
  · simp [lastWrite, hb]
  · simp [lastWrite, hb, Ne.symm hb]

end Replay

end Sys6
