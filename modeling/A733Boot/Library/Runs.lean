/-
Runs of a system that takes step after step.

* `Run`: a run with the states that it goes through, each with the event that comes next;
* `Run.all_iff` (**exact invariants**): a property that a step keeps exactly when the step is
  good holds all along the run exactly when all of its steps are good.
-/
import Mathlib.Data.List.Basic
import Mathlib.Tactic.Common

namespace A733Boot

variable {σ ε : Type} {step : σ → ε → σ → Prop}

/-- A run from one state to another; the list has the state before each event. -/
inductive Run (step : σ → ε → σ → Prop) : σ → List (σ × ε) → σ → Prop
  | nil (s : σ) : Run step s [] s
  | cons {s s' t : σ} {e : ε} {steps : List (σ × ε)} (h : step s e s')
      (hrest : Run step s' steps t) : Run step s ((s, e) :: steps) t

namespace Run

variable {s t : σ} {steps : List (σ × ε)}

/-- **Exact invariants**: `I` is kept by every step, and where it holds, a step keeps `P` if
and only if it is good. -/
theorem all_iff {I P : σ → Prop} {good : σ → ε → Prop}
    (hstep : ∀ s e s', I s → step s e s' → I s')
    (hexact : ∀ s e s', I s → P s → step s e s' → (P s' ↔ good s e))
    (hrun : Run step s steps t) (hI : I s) (hP : P s) :
    (∀ p ∈ steps, P p.1) ∧ P t ↔ ∀ p ∈ steps, good p.1 p.2 := by
  induction hrun with
  | nil s =>
    exact iff_of_true ⟨fun p hp => absurd hp List.not_mem_nil, hP⟩
      fun p hp => absurd hp List.not_mem_nil
  | @cons s s' t e steps h hrest ih =>
    have hkeeps := hexact s e s' hI hP h
    have hrest' : P s' → ((∀ p ∈ steps, P p.1) ∧ P t ↔ ∀ p ∈ steps, good p.1 p.2) :=
      ih (hstep s e s' hI h)
    rw [List.forall_mem_cons, List.forall_mem_cons]
    constructor
    · rintro ⟨⟨-, hsteps⟩, ht⟩
      -- the state after the first event is the first of the rest of the run
      have hs' : P s' := by
        cases hrest with
        | nil => exact ht
        | cons => exact hsteps _ List.mem_cons_self
      exact ⟨hkeeps.mp hs', (hrest' hs').mp ⟨hsteps, ht⟩⟩
    · rintro ⟨hgood, hsteps⟩
      obtain ⟨hall, ht⟩ := (hrest' (hkeeps.mpr hgood)).mpr hsteps
      exact ⟨⟨hP, hall⟩, ht⟩

end Run

end A733Boot
