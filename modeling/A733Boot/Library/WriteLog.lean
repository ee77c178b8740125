/-
The log of the writes of a program over registers.

* `replay`: the words after a list of writes, with `replay_of_written`;
* `Logged`: from one state to a later one the log grew by writes with a property, and the
  words are those of the log;
* `Io.Writes`: a program all of whose writes have the property, with a rule for each way of
  putting programs together;
* `Logged.cut`: a list of writes that ends before a later state of the log, or goes on after it.
-/
import A733Boot.Library.Triples

namespace A733Boot

/-! ### Replaying a log -/

/-- The words after the writes, oldest first. -/
def replay (w : ℕ → UInt32) (ws : List (ℕ × UInt32)) : ℕ → UInt32 :=
  ws.foldl (fun w x => Function.update w x.1 x.2) w

lemma replay_append (w : ℕ → UInt32) (ws ws' : List (ℕ × UInt32)) :
    replay w (ws ++ ws') = replay (replay w ws) ws' :=
  List.foldl_append

lemma replay_of_not_mem {w : ℕ → UInt32} {ws : List (ℕ × UInt32)} {a : ℕ}
    (ha : a ∉ ws.map Prod.fst) : replay w ws a = w a := by
  induction ws generalizing w with
  | nil => rfl
  | cons x ws ih =>
      rw [List.map_cons, List.mem_cons, not_or] at ha
      exact (ih ha.2).trans (Function.update_of_ne ha.1 _ _)

/-- A register that was written holds one of the values that were written to it. -/
lemma replay_of_written {Q : UInt32 → Prop} {w : ℕ → UInt32} {ws : List (ℕ × UInt32)} {a : ℕ}
    (h : ∀ x ∈ ws, x.1 = a → Q x.2) (ha : a ∈ ws.map Prod.fst) : Q (replay w ws a) := by
  induction ws generalizing w with
  | nil => exact absurd ha List.not_mem_nil
  | cons x ws ih =>
      by_cases hlater : a ∈ ws.map Prod.fst
      · exact ih (fun y hy => h y (List.mem_cons_of_mem _ hy)) hlater
      · have hx : a = x.1 := (List.mem_cons.mp ha).resolve_right hlater
        have hlast : replay w (x :: ws) a = x.2 := by
          rw [replay, List.foldl_cons]
          refine (replay_of_not_mem hlater).trans ?_
          rw [hx, Function.update_self]
        rw [hlast]
        exact h x List.mem_cons_self hx.symm

/-! ### States of a run -/

/-- From `s` to `s'` the log grew by writes with `P`, and the words are those of the log. -/
def Logged (P : ℕ × UInt32 → Prop) (s s' : Regs) : Prop :=
  s.reads ≤ s'.reads ∧
    ∃ ws, s'.writes = s.writes ++ ws ∧ s'.word = replay s.word ws ∧ ∀ x ∈ ws, P x

namespace Logged

variable {P Q : ℕ × UInt32 → Prop} {s s' s'' : Regs}

lemma refl (s : Regs) : Logged P s s :=
  ⟨le_rfl, [], (List.append_nil _).symm, rfl, fun _ hx => absurd hx List.not_mem_nil⟩

lemma trans (h : Logged P s s') (h' : Logged P s' s'') : Logged P s s'' := by
  obtain ⟨hreads, ws, hlog, hword, hP⟩ := h
  obtain ⟨hreads', ws', hlog', hword', hP'⟩ := h'
  refine ⟨hreads.trans hreads', ws ++ ws', ?_, ?_, ?_⟩
  · rw [hlog', hlog, List.append_assoc]
  · rw [hword', hword, replay_append]
  · intro x hx
    exact (List.mem_append.mp hx).elim (hP x) (hP' x)

lemma mono (h : Logged P s s') (hPQ : ∀ x, P x → Q x) : Logged Q s s' := by
  obtain ⟨hreads, ws, hlog, hword, hP⟩ := h
  exact ⟨hreads, ws, hlog, hword, fun x hx => hPQ x (hP x hx)⟩

lemma and (h : Logged P s s') (h' : Logged Q s s') : Logged (fun x => P x ∧ Q x) s s' := by
  obtain ⟨hreads, ws, hlog, hword, hP⟩ := h
  obtain ⟨-, ws', hlog', -, hQ⟩ := h'
  obtain rfl := List.append_cancel_left (hlog.symm.trans hlog')
  exact ⟨hreads, ws, hlog, hword, fun x hx => ⟨hP x hx, hQ x hx⟩⟩

lemma writes (h : Logged P s s') : s.writes <+: s'.writes := by
  obtain ⟨-, ws, hlog, -⟩ := h
  exact ⟨ws, hlog.symm⟩

/-- Registers that no write with `P` can reach are as they were. -/
lemma word (h : Logged P s s') {a : ℕ} (ha : ∀ v, ¬ P (a, v)) : s'.word a = s.word a := by
  obtain ⟨-, ws, -, hword, hP⟩ := h
  rw [hword, replay_of_not_mem]
  intro hmem
  obtain ⟨x, hx, rfl⟩ := List.mem_map.mp hmem
  exact ha x.2 (hP x hx)

/-- Nothing was written. -/
lemma silent (h : Logged (fun _ => False) s s') : s'.writes = s.writes ∧ s'.word = s.word := by
  obtain ⟨-, ws, hlog, hword, hnone⟩ := h
  cases ws with
  | nil => exact ⟨hlog.trans (List.append_nil _), hword⟩
  | cons x ws => exact False.elim (hnone x List.mem_cons_self)

/-- The writes up to some moment are all among those with `P`, or more was written later. -/
lemma cut (h : Logged P s s') {t : Regs} (ht : s'.writes <+: t.writes) {ws : List (ℕ × UInt32)}
    (hws : s.writes ++ ws <+: t.writes) :
    (∀ x ∈ ws, P x) ∨ ∃ x ws', s.writes ++ ws = s'.writes ++ x :: ws' := by
  obtain ⟨-, ws₁, hlog, -, hP⟩ := h
  cases List.prefix_or_prefix_of_prefix hws ht with
  | inl hbefore =>
      rw [hlog, List.prefix_append_right_inj] at hbefore
      exact Or.inl fun x hx => hP x (hbefore.subset hx)
  | inr hafter =>
      obtain ⟨ws₂, heq⟩ := hafter
      cases ws₂ with
      | nil =>
          rw [List.append_nil, hlog] at heq
          rw [← List.append_cancel_left heq]
          exact Or.inl hP
      | cons x ws' => exact Or.inr ⟨x, ws', heq.symm⟩

end Logged

/-! ### Programs -/

/-- Every write of the program has the property. -/
def Io.Writes {α : Type} (P : ℕ × UInt32 → Prop) (m : Io α) : Prop := ∀ s, Logged P s (m s).2

namespace Io.Writes

variable {α β : Type} {P Q : ℕ × UInt32 → Prop} {m m' : Io α}

lemma pure (x : α) : Io.Writes P (Pure.pure x : Io α) := fun s => .refl s

lemma readl (d : Device) (a : ℕ) : Io.Writes P (A733Boot.readl d a) := fun _ =>
  ⟨Nat.le_succ _, [], (List.append_nil _).symm, rfl, fun _ hx => absurd hx List.not_mem_nil⟩

lemma writel {value : UInt32} {a : ℕ} (h : P (a, value)) :
    Io.Writes P (A733Boot.writel value a) := by
  refine fun s => ⟨le_rfl, [(a, value)], rfl, rfl, fun x hx => ?_⟩
  rw [List.mem_singleton.mp hx]
  exact h

lemma bind {f : α → Io β} (h : Io.Writes P m) (hf : ∀ x, Io.Writes P (f x)) :
    Io.Writes P (m >>= f) :=
  fun s => (h s).trans (hf _ _)

lemma ite {c : Prop} [Decidable c] (h : Io.Writes P m) (h' : Io.Writes P m') :
    Io.Writes P (if c then m else m') := by
  split
  · exact h
  · exact h'

lemma mono (h : Io.Writes P m) (hPQ : ∀ x, P x → Q x) : Io.Writes Q m := fun s => (h s).mono hPQ

lemma ran (h : Io.Writes P m) {s t : Regs} {x : α} (hrun : m s = (x, t)) : Logged P s t := by
  have hlogged := h s
  rw [hrun] at hlogged
  exact hlogged

/-- A program all of whose writes go to registers of the set. -/
lemma within {A : Set ℕ} (h : Io.Writes (fun x => x.1 ∈ A) m) : Io.Within A m :=
  fun s _ ha => (h s).word fun _ hP => ha hP

/-- The count of the reads only grows. -/
lemma reads (h : Io.Writes P m) (n : ℕ) :
    Triple (fun s : Regs => n ≤ s.reads) m fun _ s => n ≤ s.reads :=
  fun s hs => le_trans hs (h s).1

end Io.Writes

end A733Boot
