/-
The writes of a program over registers, each against the words that it found.

* `EachWrite`: every write of a list was made in words that a relation allows it in;
* `Stepped`: from one state to a later one the log grew by such writes, and the words are
  those of the log;
* `Io.Steps`: pre- and postconditions of a program all of whose writes are allowed where they
  are made, with a rule for each way of putting programs together.
-/
import A733Boot.Library.WriteLog

namespace A733Boot

/-- Every write is allowed in the words that it finds. -/
def EachWrite (R : (ℕ → UInt32) → ℕ × UInt32 → Prop) : (ℕ → UInt32) → List (ℕ × UInt32) → Prop
  | _, [] => True
  | w, x :: ws => R w x ∧ EachWrite R (Function.update w x.1 x.2) ws

variable {R : (ℕ → UInt32) → ℕ × UInt32 → Prop}

lemma EachWrite.append {w : ℕ → UInt32} {ws ws' : List (ℕ × UInt32)} (h : EachWrite R w ws)
    (h' : EachWrite R (replay w ws) ws') : EachWrite R w (ws ++ ws') := by
  induction ws generalizing w with
  | nil => exact h'
  | cons x ws ih => exact ⟨h.1, ih h.2 h'⟩

/-- From `s` to `s'` every write was allowed where it was made. -/
def Stepped (R : (ℕ → UInt32) → ℕ × UInt32 → Prop) (s s' : Regs) : Prop :=
  ∃ ws, s'.writes = s.writes ++ ws ∧ s'.word = replay s.word ws ∧ EachWrite R s.word ws

namespace Stepped

variable {s s' s'' : Regs}

lemma trans (h : Stepped R s s') (h' : Stepped R s' s'') : Stepped R s s'' := by
  obtain ⟨ws, hlog, hword, hR⟩ := h
  obtain ⟨ws', hlog', hword', hR'⟩ := h'
  rw [hword] at hword' hR'
  refine ⟨ws ++ ws', ?_, ?_, hR.append hR'⟩
  · rw [hlog', hlog, List.append_assoc]
  · rw [hword', replay_append]

lemma of_logged (h : Logged (fun _ => False) s s') : Stepped R s s' :=
  ⟨[], h.silent.1.trans (List.append_nil _).symm, h.silent.2, trivial⟩

lemma writel {a : ℕ} {value : UInt32} (h : R s.word (a, value)) :
    Stepped R s (A733Boot.writel value a s).2 :=
  ⟨[(a, value)], rfl, rfl, h, trivial⟩

end Stepped

/-- Run from a state with `P`, the program ends with `Q`, and every write of it is allowed. -/
def Io.Steps {α : Type} (R : (ℕ → UInt32) → ℕ × UInt32 → Prop) (P : Regs → Prop) (m : Io α)
    (Q : α → Regs → Prop) : Prop :=
  ∀ s, P s → Stepped R s (m s).2 ∧ Q (m s).1 (m s).2

namespace Io.Steps

variable {α β : Type} {P P' : Regs → Prop} {Q Q' : α → Regs → Prop} {m m' : Io α}

lemma bind {S : β → Regs → Prop} {f : α → Io β} (h : Io.Steps R P m Q)
    (hf : ∀ x, Io.Steps R (Q x) (f x) S) : Io.Steps R P (m >>= f) S := by
  intro s hs
  obtain ⟨hstep, hQ⟩ := h s hs
  obtain ⟨hstep', hS⟩ := hf _ _ hQ
  exact ⟨hstep.trans hstep', hS⟩

lemma ite {c : Prop} [Decidable c] (h : c → Io.Steps R P m Q) (h' : ¬ c → Io.Steps R P m' Q) :
    Io.Steps R P (if c then m else m') Q := by
  by_cases hc : c
  · rw [if_pos hc]
    exact h hc
  · rw [if_neg hc]
    exact h' hc

lemma mono (h : Io.Steps R P m Q) (hP : ∀ s, P' s → P s) (hQ : ∀ x s, Q x s → Q' x s) :
    Io.Steps R P' m Q' :=
  fun s hs => ⟨(h s (hP s hs)).1, hQ _ _ (h s (hP s hs)).2⟩

/-- A program that writes nothing. -/
lemma reading (hm : Io.Writes (fun _ => False) m) (h : ∀ s, P s → Q (m s).1 (m s).2) :
    Io.Steps R P m Q :=
  fun s hs => ⟨.of_logged (hm s), h s hs⟩

lemma pure {x : α} (h : ∀ s, P s → Q x s) : Io.Steps R P (Pure.pure x : Io α) Q :=
  .reading (.pure x) h

lemma readl {d : Device} {a : ℕ} {Q : UInt32 → Regs → Prop}
    (h : ∀ s, P s → Q (d.view s a) { s with reads := s.reads + 1 }) :
    Io.Steps R P (A733Boot.readl d a) Q :=
  .reading (.readl d a) h

lemma writel {a : ℕ} {value : UInt32} {Q : Unit → Regs → Prop}
    (h : ∀ s, P s → R s.word (a, value) ∧ Q () (A733Boot.writel value a s).2) :
    Io.Steps R P (A733Boot.writel value a) Q :=
  fun s hs => ⟨.writel (h s hs).1, (h s hs).2⟩

end Io.Steps

end A733Boot
