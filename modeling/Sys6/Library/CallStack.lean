import Mathlib.Data.List.Basic
import Mathlib.Logic.Function.Iterate
import Mathlib.Tactic

/-!
# Calls and returns

Code that calls, returns, pushes and pulls, on a machine whose stack is apart from everything else: a
return always goes where its call has said. Shapes of the addresses of the code bound that stack. A machine
that keeps its stack in memory is compared with this one.
-/

namespace Sys6

namespace CallStack

variable {α β σ : Type*}

/-- What an instruction does to control and to the stack. -/
inductive Flow (α : Type*)
  | next (targets : List α)
  | call (target back : α)
  | back
  | push (target : α)
  | pull (target : α)
  /-- Out of the code. -/
  | leave
deriving DecidableEq

inductive Entry (α β : Type*)
  | ret (a : α)
  | datum (v : β)

/-- How much of the stack an entry takes. -/
def Entry.size : Entry α β → Nat
  | .ret _ => 2
  | .datum _ => 1

def size (s : List (Entry α β)) : Nat := (s.map Entry.size).sum

@[simp] lemma size_nil : size ([] : List (Entry α β)) = 0 := rfl

@[simp] lemma size_ret (a : α) (s : List (Entry α β)) : size (.ret a :: s) = 2 + size s := rfl

@[simp] lemma size_datum (v : β) (s : List (Entry α β)) : size (.datum v :: s) = 1 + size s := rfl

/-- One instruction. -/
inductive Move (flow : α → Flow α) : α × List (Entry α β) → α × List (Entry α β) → Prop
  | next {a b : α} {targets : List α} {s : List (Entry α β)} :
    flow a = .next targets → b ∈ targets → Move flow (a, s) (b, s)
  | call {a b target : α} {s : List (Entry α β)} :
    flow a = .call target b → Move flow (a, s) (target, .ret b :: s)
  | back {a b : α} {s : List (Entry α β)} : flow a = .back → Move flow (a, .ret b :: s) (b, s)
  | push {a b : α} {v : β} {s : List (Entry α β)} : flow a = .push b → Move flow (a, s) (b, .datum v :: s)
  | pull {a b : α} {v : β} {s : List (Entry α β)} : flow a = .pull b → Move flow (a, .datum v :: s) (b, s)

/-- `n` instructions. -/
inductive Moves (flow : α → Flow α) : Nat → α × List (Entry α β) → α × List (Entry α β) → Prop
  | refl (c : α × List (Entry α β)) : Moves flow 0 c c
  | step {n : Nat} {c c' c'' : α × List (Entry α β)} :
    Moves flow n c c' → Move flow c' c'' → Moves flow (n + 1) c c''

/-- Whether nothing calls the code, how many data of its own it has on the stack, and how much of the
stack it may use, with all that it calls. -/
structure Shape where
  top : Bool
  height : Nat
  room : Nat
deriving DecidableEq, Repr

/-- In the same place of the same routine, or of one that needs no more room. -/
def Shape.within (s s' : Shape) : Bool := s.top = s'.top && s.height = s'.height && s.room ≤ s'.room

/-- The address has such a shape. -/
def fits (shape : α → Option Shape) (a : α) (s : Shape) : Bool := (shape a).any (·.within s)

/-- What is asked of one address. -/
def checked (flow : α → Flow α) (shape : α → Option Shape) (a : α) (s : Shape) : Bool :=
  s.height ≤ s.room &&
    match flow a with
    | .next targets => targets.all fun t => fits shape t s
    | .call t b => shape b = some s && fits shape t ⟨false, 0, s.room - 2 - s.height⟩ && s.height + 2 ≤ s.room
    | .back => !s.top && s.height = 0
    | .push b => fits shape b { s with height := s.height + 1 }
    | .pull b => 0 < s.height && fits shape b { s with height := s.height - 1 }
    | .leave => true

/-- All the code is as its shapes say. -/
def Checked (flow : α → Flow α) (shape : α → Option Shape) : Prop :=
  ∀ a s, shape a = some s → checked flow shape a s = true

/-- Every return address leads back to where it has been left, in code with enough room. -/
inductive Framed (shape : α → Option Shape) : α → List (Entry α β) → Prop
  | top {a : α} {s : Shape} {data : List β} : shape a = some s → s.top = true → data.length = s.height →
    Framed shape a (data.map .datum)
  | called {a b : α} {s s' : Shape} {data : List β} {stack : List (Entry α β)} : shape a = some s →
    s.top = false → data.length = s.height → Framed shape b stack → shape b = some s' →
    s'.height + 2 + s.room ≤ s'.room → Framed shape a (data.map .datum ++ .ret b :: stack)

variable {flow : α → Flow α} {shape : α → Option Shape} {a b : α} {s : Shape} {stack stack' : List (Entry α β)}

lemma Framed.shaped (h : Framed shape a stack) : ∃ s, shape a = some s := by
  cases h with
  | top hs => exact ⟨_, hs⟩
  | called hs => exact ⟨_, hs⟩

lemma fits_iff : fits shape b s = true ↔
    ∃ s', shape b = some s' ∧ s'.top = s.top ∧ s'.height = s.height ∧ s'.room ≤ s.room := by
  unfold fits
  cases hs : shape b with
  | none => simp
  | some s' => simp [Shape.within, and_assoc]

lemma size_data (data : List β) : size (data.map (.datum : β → Entry α β)) = data.length := by
  induction data with
  | nil => rfl
  | cons v data ih =>
    rw [List.map_cons, size_datum, ih, List.length_cons]
    omega

lemma size_append (stack stack' : List (Entry α β)) : size (stack ++ stack') = size stack + size stack' := by
  simp [size]

/-- No more is on the stack than there is room for. -/
lemma Framed.size_le {room : Nat} (hroom : ∀ a s, shape a = some s → s.room ≤ room)
    (h : Framed shape a stack) (hs : shape a = some s) : size stack + s.room ≤ room + s.height := by
  induction h generalizing s with
  | top hs' htop hlen =>
    cases hs.symm.trans hs'
    have := hroom _ _ hs
    rw [size_data, hlen]
    omega
  | called hs' htop hlen hframed hb hfree ih =>
    cases hs.symm.trans hs'
    have := ih hb
    rw [size_append, size_data, size_ret, hlen]
    omega

section Checked

variable (hchecked : Checked flow shape) (hs : shape a = some s)
include hchecked hs

lemma Checked.height_le : s.height ≤ s.room := by
  have hcheck := hchecked a s hs
  unfold checked at hcheck
  simp only [Bool.and_eq_true, decide_eq_true_eq] at hcheck
  exact hcheck.1

lemma Checked.next {targets : List α} (hflow : flow a = .next targets) (hb : b ∈ targets) :
    fits shape b s = true := by
  have hcheck := hchecked a s hs
  unfold checked at hcheck
  simp only [hflow, Bool.and_eq_true, List.all_eq_true] at hcheck
  exact hcheck.2 b hb

lemma Checked.call {target : α} (hflow : flow a = .call target b) : shape b = some s ∧
    fits shape target ⟨false, 0, s.room - 2 - s.height⟩ = true ∧ s.height + 2 ≤ s.room := by
  have hcheck := hchecked a s hs
  unfold checked at hcheck
  simp only [hflow, Bool.and_eq_true, decide_eq_true_eq] at hcheck
  exact ⟨hcheck.2.1.1, hcheck.2.1.2, hcheck.2.2⟩

lemma Checked.back (hflow : flow a = .back) : s.top = false ∧ s.height = 0 := by
  have hcheck := hchecked a s hs
  unfold checked at hcheck
  simp only [hflow, Bool.and_eq_true, Bool.not_eq_true', decide_eq_true_eq] at hcheck
  exact hcheck.2

lemma Checked.push (hflow : flow a = .push b) : fits shape b { s with height := s.height + 1 } = true := by
  have hcheck := hchecked a s hs
  unfold checked at hcheck
  simp only [hflow, Bool.and_eq_true] at hcheck
  exact hcheck.2

lemma Checked.pull (hflow : flow a = .pull b) :
    0 < s.height ∧ fits shape b { s with height := s.height - 1 } = true := by
  have hcheck := hchecked a s hs
  unfold checked at hcheck
  simp only [hflow, Bool.and_eq_true, decide_eq_true_eq] at hcheck
  exact hcheck.2

end Checked

/-- What is on a framed stack, for an address of the shape `s`: the data of its own, and below them
nothing more, or a return address. -/
inductive Below (shape : α → Option Shape) (s : Shape) : List (Entry α β) → Prop
  | top : s.top = true → Below shape s []
  | called {b : α} {s' : Shape} {stack : List (Entry α β)} : s.top = false → Framed shape b stack →
    shape b = some s' → s'.height + 2 + s.room ≤ s'.room → Below shape s (.ret b :: stack)

lemma framed_iff (hs : shape a = some s) : Framed shape a stack ↔ ∃ (data : List β) (rest : List (Entry α β)),
    stack = data.map .datum ++ rest ∧ data.length = s.height ∧ Below shape s rest := by
  constructor
  · intro h
    cases h with
    | top hs' htop hlen =>
      cases hs.symm.trans hs'
      exact ⟨_, [], (List.append_nil _).symm, hlen, .top htop⟩
    | called hs' htop hlen hframed hb hroom =>
      cases hs.symm.trans hs'
      exact ⟨_, _, rfl, hlen, .called htop hframed hb hroom⟩
  · rintro ⟨data, rest, rfl, hlen, hbelow⟩
    cases hbelow with
    | top htop =>
      rw [List.append_nil]
      exact .top hs htop hlen
    | called htop hframed hb hroom => exact .called hs htop hlen hframed hb hroom

/-- Less room will do. -/
lemma Below.within {s' : Shape} (h : Below shape s stack) (htop : s'.top = s.top) (hroom : s'.room ≤ s.room) :
    Below shape s' stack := by
  cases h with
  | top h => exact .top (htop.trans h)
  | called h hframed hb hfree => exact .called (htop.trans h) hframed hb (by omega)

/-- The stack of one place will do for another that fits. -/
lemma framed_of_fits {data : List β} {rest : List (Entry α β)} {h : Nat} (hbelow : Below shape s rest)
    (hlen : data.length = h) (hfits : fits shape b { s with height := h } = true) :
    Framed shape b (data.map .datum ++ rest) := by
  obtain ⟨s', hb, htop, hheight, hroom⟩ := fits_iff.mp hfits
  exact (framed_iff hb).mpr ⟨data, rest, rfl, by rw [hlen, hheight], hbelow.within htop hroom⟩

lemma Framed.size_le_room {room : Nat} (hchecked : Checked flow shape)
    (hroom : ∀ a s, shape a = some s → s.room ≤ room) (h : Framed shape a stack) : size stack ≤ room := by
  obtain ⟨s, hs⟩ := h.shaped
  have hsize := h.size_le hroom hs
  have hheight := hchecked.height_le hs
  omega

/-- On a framed stack a return finds its address. -/
lemma Framed.back (hchecked : Checked flow shape) (h : Framed shape a stack) (hflow : flow a = .back) :
    ∃ b rest, stack = .ret b :: rest := by
  obtain ⟨s, hs⟩ := h.shaped
  obtain ⟨htop, hheight⟩ := hchecked.back hs hflow
  obtain ⟨data, rest, rfl, hlen, hbelow⟩ := (framed_iff hs).mp h
  obtain rfl : data = [] := List.length_eq_zero_iff.mp (hlen.trans hheight)
  cases hbelow with
  | top htop' => exact absurd (htop.symm.trans htop') Bool.false_ne_true
  | called => exact ⟨_, _, rfl⟩

/-- And a pull its datum. -/
lemma Framed.pull (hchecked : Checked flow shape) (h : Framed shape a stack) (hflow : flow a = .pull b) :
    ∃ v rest, stack = .datum v :: rest := by
  obtain ⟨s, hs⟩ := h.shaped
  have hheight := (hchecked.pull hs hflow).1
  obtain ⟨data, rest, rfl, hlen, hbelow⟩ := (framed_iff hs).mp h
  cases data with
  | nil => simp at hlen; omega
  | cons v data => exact ⟨v, _, rfl⟩

/-- Checked code keeps the stack framed. -/
lemma Framed.move (hchecked : Checked flow shape) (h : Framed shape a stack)
    (hmove : Move flow (a, stack) (b, stack')) : Framed shape b stack' := by
  obtain ⟨s, hs⟩ := h.shaped
  obtain ⟨data, rest, hstack, hlen, hbelow⟩ := (framed_iff hs).mp h
  cases hmove with
  | next hflow hb =>
    rw [hstack]
    exact framed_of_fits hbelow hlen (hchecked.next hs hflow hb)
  | call hflow =>
    obtain ⟨hb, htarget, hfree⟩ := hchecked.call hs hflow
    obtain ⟨t, ht, httop, htheight, htroom⟩ := fits_iff.mp htarget
    have hframed := (framed_iff hb).mpr ⟨data, rest, hstack, hlen, hbelow⟩
    refine (framed_iff ht).mpr ⟨[], _, rfl, htheight.symm, .called httop hframed hb ?_⟩
    simp only at htroom
    omega
  | back hflow =>
    obtain ⟨htop, hheight⟩ := hchecked.back hs hflow
    obtain rfl : data = [] := List.length_eq_zero_iff.mp (hlen.trans hheight)
    rw [List.map_nil, List.nil_append] at hstack
    rw [← hstack] at hbelow
    cases hbelow with
    | called _ hframed => exact hframed
  | push hflow =>
    rw [hstack, ← List.cons_append, ← List.map_cons]
    exact framed_of_fits hbelow (by rw [List.length_cons, hlen]) (hchecked.push hs hflow)
  | pull hflow =>
    obtain ⟨hheight, hfits⟩ := hchecked.pull hs hflow
    cases data with
    | nil => simp only [List.length_nil] at hlen; omega
    | cons v data =>
      obtain ⟨-, rfl⟩ := List.cons.inj hstack
      exact framed_of_fits hbelow (by simp only [List.length_cons] at hlen; omega) hfits

/-- `R` says that a state of the machine holds a stack; where the machine is `Good`, its step is an
instruction of the code. At most `room` is ever on the stack. -/
structure Follows (flow : α → Flow α) (room : Nat) (step : σ → σ) (pc : σ → α)
    (R : List (Entry α β) → σ → Prop) (Good : σ → Prop) : Prop where
  next : ∀ {m stack targets}, Good m → R stack m → flow (pc m) = .next targets →
    pc (step m) ∈ targets ∧ R stack (step m)
  call : ∀ {m stack target b}, Good m → R stack m → flow (pc m) = .call target b → 2 + size stack ≤ room →
    pc (step m) = target ∧ R (.ret b :: stack) (step m)
  back : ∀ {m stack b}, Good m → R (.ret b :: stack) m → flow (pc m) = .back →
    pc (step m) = b ∧ R stack (step m)
  push : ∀ {m stack b}, Good m → R stack m → flow (pc m) = .push b → 1 + size stack ≤ room →
    pc (step m) = b ∧ ∃ v, R (.datum v :: stack) (step m)
  pull : ∀ {m stack b v}, Good m → R (.datum v :: stack) m → flow (pc m) = .pull b →
    pc (step m) = b ∧ R stack (step m)

variable {room : Nat} {step : σ → σ} {pc : σ → α} {R : List (Entry α β) → σ → Prop} {Good : σ → Prop}

/-- One step of the machine. -/
lemma Follows.move (hfollows : Follows flow room step pc R Good) (hchecked : Checked flow shape)
    (hroom : ∀ a s, shape a = some s → s.room ≤ room) {m : σ} (hgood : Good m) (hR : R stack m)
    (hframed : Framed shape (pc m) stack) (hstays : flow (pc m) ≠ .leave) :
    ∃ stack', Move flow (pc m, stack) (pc (step m), stack') ∧ R stack' (step m) ∧
      Framed shape (pc (step m)) stack' := by
  obtain ⟨s, hs⟩ := hframed.shaped
  have hsize := hframed.size_le hroom hs
  have hmoves : ∃ stack', Move flow (pc m, stack) (pc (step m), stack') ∧ R stack' (step m) := by
    cases hflow : flow (pc m) with
    | next targets =>
      obtain ⟨hpc, hR'⟩ := hfollows.next hgood hR hflow
      exact ⟨stack, .next hflow hpc, hR'⟩
    | call target b =>
      have hfree := (hchecked.call hs hflow).2.2
      obtain ⟨hpc, hR'⟩ := hfollows.call hgood hR hflow (by omega)
      rw [hpc]
      exact ⟨_, .call hflow, hR'⟩
    | back =>
      obtain ⟨b, rest, rfl⟩ := hframed.back hchecked hflow
      obtain ⟨hpc, hR'⟩ := hfollows.back hgood hR hflow
      rw [hpc]
      exact ⟨rest, .back hflow, hR'⟩
    | push b =>
      obtain ⟨t, ht, -, hheight, hless⟩ := fits_iff.mp (hchecked.push hs hflow)
      have hfree := hchecked.height_le ht
      simp only at hheight hless
      obtain ⟨hpc, v, hR'⟩ := hfollows.push hgood hR hflow (by omega)
      rw [hpc]
      exact ⟨_, .push hflow, hR'⟩
    | pull b =>
      obtain ⟨v, rest, rfl⟩ := hframed.pull hchecked hflow
      obtain ⟨hpc, hR'⟩ := hfollows.pull hgood hR hflow
      rw [hpc]
      exact ⟨rest, .pull hflow, hR'⟩
    | leave => exact absurd hflow hstays
  obtain ⟨stack', hmove, hR'⟩ := hmoves
  exact ⟨stack', hmove, hR', hframed.move hchecked hmove⟩

/-- A run of the machine is a run of the code, as long as all its states are good, which do not
leave. -/
theorem Follows.moves (hfollows : Follows flow room step pc R Good) (hchecked : Checked flow shape)
    (hroom : ∀ a s, shape a = some s → s.room ≤ room)
    (hstays : ∀ m s, Good m → shape (pc m) = some s → flow (pc m) ≠ .leave) {m : σ} (hR : R stack m)
    (hframed : Framed shape (pc m) stack) (n : Nat) (hgood : ∀ i < n, Good (step^[i] m)) :
    ∃ stack', Moves flow n (pc m, stack) (pc (step^[n] m), stack') ∧ R stack' (step^[n] m) ∧
      Framed shape (pc (step^[n] m)) stack' ∧ size stack' ≤ room := by
  induction n with
  | zero => exact ⟨stack, .refl _, hR, hframed, hframed.size_le_room hchecked hroom⟩
  | succ n ih =>
    obtain ⟨stack₁, hmoves, hR₁, hframed₁, -⟩ := ih fun i hi => hgood i (Nat.lt_succ_of_lt hi)
    obtain ⟨s, hs⟩ := hframed₁.shaped
    have hgood₁ := hgood n (Nat.lt_succ_self n)
    obtain ⟨stack₂, hmove, hR₂, hframed₂⟩ :=
      hfollows.move hchecked hroom hgood₁ hR₁ hframed₁ (hstays _ _ hgood₁ hs)
    rw [Function.iterate_succ_apply']
    exact ⟨stack₂, .step hmoves hmove, hR₂, hframed₂, hframed₂.size_le_room hchecked hroom⟩

end CallStack

end Sys6
