/-
Queues with their history, and machines that take a list of items in order.

* `Fifo`: everything that was ever written to a queue, and how much of it was taken;
* `runSteps`, `Along`: the outputs of a list of actions, and what holds at each of them;
* `Consumer`: a machine each of whose steps is idle or takes the next item, and
  `Consumer.run_spec` (**in-order consumption**): over a whole run the items taken are a
  first part of the list, one output for each, and a long enough run takes them all;
* `Consumer.run_replicate`: the same for one action that is repeated.
-/
import Mathlib.Data.List.Forall2
import Mathlib.Order.MinMax
import Mathlib.Data.List.TakeDrop
import Mathlib.Tactic.Common

namespace A733Boot

/-! ### Queues -/

/-- A queue: the values written to it, oldest first, and how many of them were taken. -/
structure Fifo (α : Type) where
  written : List α
  taken : ℕ
  taken_le : taken ≤ written.length

namespace Fifo

variable {α : Type}

/-- A queue that holds `l` and has no other past. -/
def ofList (l : List α) : Fifo α := ⟨l, 0, Nat.zero_le _⟩

/-- The values in the queue. -/
def contents (f : Fifo α) : List α := f.written.drop f.taken

/-- The number of values in the queue. -/
def level (f : Fifo α) : ℕ := f.written.length - f.taken

/-- The writer adds the values of `l`. -/
def append (f : Fifo α) (l : List α) : Fifo α :=
  ⟨f.written ++ l, f.taken, by rw [List.length_append]; exact Nat.le_add_right_of_le f.taken_le⟩

/-- The reader takes `n` values, or all there are. -/
def take (f : Fifo α) (n : ℕ) : Fifo α :=
  ⟨f.written, min (f.taken + n) f.written.length, min_le_right _ _⟩

@[simp] lemma written_append (f : Fifo α) (l : List α) :
    (f.append l).written = f.written ++ l := rfl

lemma length_contents (f : Fifo α) : f.contents.length = f.level := List.length_drop

@[simp] lemma level_append (f : Fifo α) (l : List α) :
    (f.append l).level = f.level + l.length := by
  have := f.taken_le
  simp only [level, append, List.length_append]
  omega

@[simp] lemma level_take (f : Fifo α) (n : ℕ) : (f.take n).level = f.level - n := by
  simp only [level, take]
  omega

@[simp] lemma contents_append (f : Fifo α) (l : List α) :
    (f.append l).contents = f.contents ++ l := by
  simp only [contents, append, List.drop_append_of_le_length f.taken_le]

@[simp] lemma contents_take (f : Fifo α) (n : ℕ) : (f.take n).contents = f.contents.drop n := by
  simp only [contents, take, List.drop_drop]
  rcases Nat.le_total (f.taken + n) f.written.length with h | h
  · rw [min_eq_left h]
  · rw [min_eq_right h, List.drop_length, List.drop_eq_nil_of_le h]

/-- What is in a queue that is not empty: its front, and what is left when it is taken. -/
lemma contents_eq_cons [Inhabited α] (f : Fifo α) (h : f.level ≠ 0) :
    f.contents = f.contents.headD default :: (f.take 1).contents := by
  rw [contents_take]
  cases hc : f.contents with
  | nil =>
      rw [← length_contents, hc] at h
      exact absurd rfl h
  | cons x l => rfl

end Fifo

/-! ### Runs -/

section Runs

variable {σ α ε : Type} (step : σ → α → List ε × σ)

/-- The outputs of a list of actions, oldest first, and the state they lead to. -/
def runSteps : List α → σ → List ε × σ
  | [], s => ([], s)
  | a :: as, s =>
      ((step s a).1 ++ (runSteps as (step s a).2).1, (runSteps as (step s a).2).2)

/-- Every action is taken in a state where `P` holds of it. -/
def Along (P : σ → α → Prop) : List α → σ → Prop
  | [], _ => True
  | a :: as, s => P s a ∧ Along P as (step s a).2

instance Along.decidable (P : σ → α → Prop) [∀ s a, Decidable (P s a)] :
    ∀ (as : List α) (s : σ), Decidable (Along step P as s)
  | [], _ => isTrue trivial
  | a :: as, s => @instDecidableAnd _ _ _ (Along.decidable P as (step s a).2)

variable {step}

lemma Along.of_forall {P : σ → α → Prop} {as : List α} (h : ∀ s, ∀ a ∈ as, P s a) (s : σ) :
    Along step P as s := by
  induction as generalizing s with
  | nil => exact trivial
  | cons a as ih =>
      exact ⟨h s a List.mem_cons_self, ih (fun s b hb => h s b (List.mem_cons_of_mem a hb)) _⟩

lemma Along.and {P Q : σ → α → Prop} {as : List α} {s : σ} (hP : Along step P as s)
    (hQ : Along step Q as s) : Along step (fun s a => P s a ∧ Q s a) as s := by
  induction as generalizing s with
  | nil => exact trivial
  | cons a as ih => exact ⟨⟨hP.1, hQ.1⟩, ih hP.2 hQ.2⟩

/-- A counter that never goes down and is the same after a run is the same after each of
its steps. -/
lemma along_of_le {f : σ → ℕ} (hle : ∀ s a, f s ≤ f (step s a).2) {as : List α} {s : σ}
    (h : f (runSteps step as s).2 = f s) : Along step (fun s a => f (step s a).2 = f s) as s := by
  have hrun : ∀ as s, f s ≤ f (runSteps step as s).2 := by
    intro as
    induction as with
    | nil => exact fun _ => le_rfl
    | cons a as ih => exact fun s => (hle s a).trans (ih _)
  induction as generalizing s with
  | nil => exact trivial
  | cons a as ih =>
      have hfirst : f (step s a).2 = f s := le_antisymm ((hrun as _).trans h.le) (hle s a)
      exact ⟨hfirst, ih (h.trans hfirst.symm)⟩

end Runs

/-! ### Machines that take items in order -/

/-- A machine with states `σ` and actions `α` that works off items `ι`. A step that is
`Ok` is idle, or it takes the next item and gives one output for it. `fuel` measures how
much longer a step may stay idle although an item is pending: an action that `serves`
uses some of it up. -/
structure Consumer (σ α ι ε : Type) where
  step : σ → α → List ε × σ
  Pending : σ → List ι → Prop
  Ok : σ → α → Prop
  Handled : ι → ε → Prop
  serves : α → Bool
  fuel : σ → ℕ
  step_spec : ∀ s a l, Pending s l → Ok s a →
    fuel (step s a).2 ≤ fuel s ∧
    (((step s a).1 = [] ∧ Pending (step s a).2 l ∧
        (serves a = true → l ≠ [] → fuel (step s a).2 < fuel s)) ∨
      ∃ i rest e, l = i :: rest ∧ (step s a).1 = [e] ∧ Handled i e ∧ Pending (step s a).2 rest)

namespace Consumer

variable {σ α ι ε : Type} (m : Consumer σ α ι ε)

/-- **In-order consumption.** A run whose steps are all `Ok` takes the first `k` of the
pending items, gives one output for each, in order, and leaves the others pending; with
enough serving actions it takes them all. -/
theorem run_spec (as : List α) (s : σ) (l : List ι) (hs : m.Pending s l)
    (hok : Along m.step m.Ok as s) :
    ∃ k ≤ l.length, List.Forall₂ m.Handled (l.take k) (runSteps m.step as s).1 ∧
      m.Pending (runSteps m.step as s).2 (l.drop k) ∧
      (m.fuel s + l.length ≤ as.countP m.serves → k = l.length) := by
  induction as generalizing s l with
  | nil =>
      refine ⟨0, Nat.zero_le _, List.Forall₂.nil, hs, fun h => ?_⟩
      rw [List.countP_nil] at h
      omega
  | cons a as ih =>
      obtain ⟨hfuel, ⟨hout, hpend, hserve⟩ | ⟨i, rest, e, rfl, hout, hhandled, hpend⟩⟩ :=
        m.step_spec s a l hs hok.1
      · obtain ⟨k, hk, hall, hleft, hfull⟩ := ih _ l hpend hok.2
        refine ⟨k, hk, ?_, hleft, fun h => ?_⟩
        · rw [runSteps, hout]
          exact hall
        · cases l with
          | nil => exact Nat.le_zero.mp hk
          | cons i rest =>
              refine hfull ?_
              by_cases ha : m.serves a = true
              · have := hserve ha (List.cons_ne_nil _ _)
                rw [List.countP_cons_of_pos ha] at h
                omega
              · rw [List.countP_cons_of_neg ha] at h
                omega
      · obtain ⟨k, hk, hall, hleft, hfull⟩ := ih _ rest hpend hok.2
        refine ⟨k + 1, Nat.succ_le_succ hk, ?_, hleft, fun h => ?_⟩
        · rw [runSteps, hout]
          exact List.Forall₂.cons hhandled hall
        · have hcount : (a :: as).countP m.serves ≤ as.countP m.serves + 1 := by
            rw [List.countP_cons]
            split <;> omega
          rw [List.length_cons] at h ⊢
          rw [hfull (by omega)]

/-- In-order consumption by one action that is repeated: as many repetitions as there is
fuel and items take everything. -/
theorem run_replicate {a : α} (hserves : m.serves a = true) (n : ℕ) (s : σ) (l : List ι)
    (hs : m.Pending s l) (hok : Along m.step m.Ok (List.replicate n a) s) :
    ∃ k ≤ l.length, List.Forall₂ m.Handled (l.take k) (runSteps m.step (List.replicate n a) s).1 ∧
      m.Pending (runSteps m.step (List.replicate n a) s).2 (l.drop k) ∧
      (m.fuel s + l.length ≤ n → k = l.length) := by
  obtain ⟨k, hk, hall, hleft, hfull⟩ := m.run_spec _ s l hs hok
  rw [List.countP_replicate, if_pos hserves] at hfull
  exact ⟨k, hk, hall, hleft, hfull⟩

end Consumer

end A733Boot
