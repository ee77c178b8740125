/-
Pre- and postconditions of programs over a state.

* `Triple`: run from a state with the first property, a program ends with the second, which
  may speak of what it returned;
* `Triple.pure`, `Triple.bind`, `Triple.ite`, `Triple.mono`, `Triple.of_and`: a rule for each
  way of putting programs together;
* `Triple.after`, `Triple.checked`: the last of several steps, and a step that must return
  zero for the rest to run;
* `Triple.of_run`, `Triple.start`, `Triple.ran`: what holds at the end of one run, and that
  there was one;
* `onPart`: a program over a part of the state.
-/
import A733Boot.Library.Registers

namespace A733Boot

variable {σ τ α β : Type}

/-- Run from a state with `P`, the program ends with `Q`. -/
def Triple (P : σ → Prop) (m : StateM σ α) (Q : α → σ → Prop) : Prop :=
  ∀ s, P s → Q (m s).1 (m s).2

namespace Triple

variable {P P' : σ → Prop} {Q Q' : α → σ → Prop} {m m' : StateM σ α}

lemma pure {x : α} (h : ∀ s, P s → Q x s) : Triple P (Pure.pure x : StateM σ α) Q := h

lemma bind {R : β → σ → Prop} {f : α → StateM σ β} (h : Triple P m Q)
    (hf : ∀ x, Triple (Q x) (f x) R) : Triple P (m >>= f) R :=
  fun s hs => hf _ _ (h s hs)

lemma ite {c : Prop} [Decidable c] (h : c → Triple P m Q) (h' : ¬ c → Triple P m' Q) :
    Triple P (if c then m else m') Q := by
  by_cases hc : c
  · rw [if_pos hc]
    exact h hc
  · rw [if_neg hc]
    exact h' hc

lemma mono (h : Triple P m Q) (hP : ∀ s, P' s → P s) (hQ : ∀ x s, Q x s → Q' x s) :
    Triple P' m Q' :=
  fun s hs => hQ _ _ (h s (hP s hs))

/-- What holds at the end of one run. -/
lemma of_run (h : Triple P m Q) {s s' : σ} {x : α} (hrun : m s = (x, s')) (hs : P s) : Q x s' := by
  have hpost := h s hs
  rw [hrun] at hpost
  exact hpost

/-- The end of the run from one state. -/
lemma start {s : σ} : Triple (fun t => t = s) m fun x s' => m s = (x, s') := by
  rintro t rfl
  exact Prod.mk.eta.symm

/-- The end of a run of the program from a state with the property. -/
lemma ran : Triple P m fun x s' => ∃ s, P s ∧ m s = (x, s') := fun s hs => ⟨s, hs, rfl⟩

/-- A fact that does not depend on the state is taken out of the precondition. -/
lemma of_and {p : Prop} (h : p → Triple P m Q) : Triple (fun s => p ∧ P s) m Q :=
  fun s hs => h hs.1 s hs.2

/-- What holds after the rest, whatever came before. -/
lemma after {m : StateM σ β} {f : β → StateM σ α} (hf : ∀ x, Triple (fun _ => True) (f x) Q) :
    Triple (fun _ => True) (m >>= f) Q :=
  fun s _ => hf (m s).1 (m s).2 trivial

/-- A step that must return zero for the rest to run. -/
lemma checked {m : StateM σ ℤ} {Q : ℤ → σ → Prop} {R : α → σ → Prop} {e : ℤ → StateM σ α}
    {k : StateM σ α} (h : Triple P m Q) (he : ∀ r, r ≠ 0 → Triple (Q r) (e r) R)
    (hk : Triple (Q 0) k R) : Triple P (m >>= fun r => if r ≠ 0 then e r else k) R := by
  refine h.bind fun r => .ite (he r) fun hr => ?_
  rw [not_not.mp hr]
  exact hk

end Triple

/-- A program over the part of the state that `get` shows and `set` replaces. -/
def onPart (get : τ → σ) (set : σ → τ → τ) (m : StateM σ α) : StateM τ α :=
  fun t => ((m (get t)).1, set (m (get t)).2 t)

/-- What does not depend on the part stays. -/
lemma Triple.onPart {get : τ → σ} {set : σ → τ → τ} {P : τ → Prop} (m : StateM σ α)
    (h : ∀ s t, P t → P (set s t)) : Triple P (onPart get set m) fun _ => P :=
  fun t ht => h _ t ht

end A733Boot
