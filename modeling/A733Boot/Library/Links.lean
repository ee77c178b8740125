/-
Singly linked lists whose nodes are the elements of a table.

* `Linked`: following the links from a start visits the nodes of a list and then ends;
  `Linked.unique`, `Linked.nodup`: the start determines the nodes, and no node is visited
  twice;
* `Linked.congr`: only the links of the nodes matter;
* `Linked.unlink`: the link that goes past a node takes it out of the list;
* `walk`, `Linked.walk_eq`: the nodes, as a program finds them;
* `search`, `Linked.search_spec`: the first node behind a given one that passes a test,
  with the node before it.
-/
import Mathlib.Logic.Function.Basic
import Mathlib.Data.List.Nodup
import Mathlib.Tactic.Common

namespace A733Boot

variable {ι : Type} {next next' : ι → Option ι} {start : Option ι} {l l' l₁ l₂ : List ι}

/-- Following the links from `start` visits the nodes of the list, and ends. -/
inductive Linked (next : ι → Option ι) : Option ι → List ι → Prop
  | nil : Linked next none []
  | cons {i : ι} {l : List ι} (h : Linked next (next i) l) : Linked next (some i) (i :: l)

namespace Linked

/-- The start determines the nodes. -/
lemma unique (h : Linked next start l) (h' : Linked next start l') : l = l' := by
  induction h generalizing l' with
  | nil =>
      cases h' with
      | nil => rfl
  | cons _ ih =>
      cases h' with
      | cons h' => rw [ih h']

/-- The list from one of its nodes on. -/
lemma drop (h : Linked next start (l₁ ++ l₂)) : ∃ start', Linked next start' l₂ := by
  induction l₁ generalizing start with
  | nil => exact ⟨start, h⟩
  | cons i l₁ ih =>
      cases h with
      | cons h => exact ih h

lemma start_eq_none (h : Linked next start []) : start = none := by
  cases h with
  | nil => rfl

lemma start_eq {i : ι} (h : Linked next start (i :: l)) : start = some i := by
  cases h with
  | cons _ => rfl

lemma tail {i : ι} (h : Linked next start (i :: l)) : Linked next (next i) l := by
  cases h with
  | cons h => exact h

/-- No node is visited twice: from there on the list would be its own end. -/
lemma nodup (h : Linked next start l) : l.Nodup := by
  induction h with
  | nil => exact List.nodup_nil
  | @cons i l h ih =>
      refine List.nodup_cons.mpr ⟨fun hmem => ?_, ih⟩
      obtain ⟨l₁, l₂, rfl⟩ := List.append_of_mem hmem
      obtain ⟨start', hagain⟩ := h.drop
      have hsame : Linked next (some i) (i :: l₂) := hagain.start_eq ▸ hagain
      have hlen := congrArg List.length ((Linked.cons h).unique hsame)
      simp only [List.length_cons, List.length_append] at hlen
      omega

/-- Only the links of the nodes matter. -/
lemma congr (h : Linked next start l) (hsame : ∀ i ∈ l, next' i = next i) :
    Linked next' start l := by
  induction h with
  | nil => exact .nil
  | @cons i l h ih =>
      have hi := hsame i List.mem_cons_self
      refine .cons ?_
      rw [hi]
      exact ih fun j hj => hsame j (List.mem_cons_of_mem i hj)

/-- The node `p` is linked past the node behind it. -/
lemma unlink [DecidableEq ι] {p t : ι} (h : Linked next start (l₁ ++ p :: t :: l₂)) :
    Linked (Function.update next p (next t)) start (l₁ ++ p :: l₂) := by
  have hnodup := h.nodup
  induction l₁ generalizing start with
  | nil =>
      rw [List.nil_append] at h hnodup ⊢
      rw [h.start_eq]
      refine .cons ?_
      rw [Function.update_self]
      refine h.tail.tail.congr fun i hi => Function.update_of_ne ?_ _ _
      rintro rfl
      exact (List.nodup_cons.mp hnodup).1 (List.mem_cons_of_mem t hi)
  | cons i l₁ ih =>
      rw [List.cons_append] at h hnodup ⊢
      have hne : i ≠ p := by
        rintro rfl
        exact (List.nodup_cons.mp hnodup).1 (List.mem_append_right l₁ List.mem_cons_self)
      rw [h.start_eq]
      refine .cons ?_
      rw [Function.update_of_ne hne]
      exact ih h.tail (List.nodup_cons.mp hnodup).2

end Linked

/-! ### Walking along a list -/

/-- The nodes from `start` on, at most `n` of them. -/
def walk (next : ι → Option ι) : ℕ → Option ι → List ι
  | 0, _ => []
  | _ + 1, none => []
  | n + 1, some i => i :: walk next n (next i)

lemma Linked.walk_eq (h : Linked next start l) {n : ℕ} (hlen : l.length ≤ n) :
    walk next n start = l := by
  induction h generalizing n with
  | nil =>
      cases n with
      | zero => rfl
      | succ n => rfl
  | @cons i l h ih =>
      cases n with
      | zero => exact absurd hlen (Nat.not_succ_le_zero _)
      | succ n => rw [walk, ih (Nat.le_of_succ_le_succ hlen)]

/-- The search for the first node behind `prev` that passes the test, with the node
before it; `none` if it has not ended after `fuel` nodes. -/
def search (next : ι → Option ι) (test : ι → Bool) : ℕ → ι → Option ι → Option (Option (ι × ι))
  | _, _, none => some none
  | 0, _, some _ => none
  | fuel + 1, prev, some i =>
      if test i then some (some (prev, i)) else search next test fuel i (next i)

/-- A search along a list ends: at a node that passes, or after all of them have failed. -/
lemma Linked.search_spec (test : ι → Bool) (h : Linked next start l) {fuel : ℕ}
    (hfuel : l.length ≤ fuel) (prev : ι) :
    (search next test fuel prev start = some none ∧ ∀ i ∈ l, test i = false) ∨
    ∃ l₁ p t l₂, prev :: l = l₁ ++ p :: t :: l₂ ∧ test t = true ∧
      search next test fuel prev start = some (some (p, t)) := by
  induction h generalizing fuel prev with
  | nil =>
      refine Or.inl ⟨?_, fun i hi => absurd hi List.not_mem_nil⟩
      cases fuel with
      | zero => rfl
      | succ fuel => rfl
  | @cons i l h ih =>
      cases fuel with
      | zero => exact absurd hfuel (Nat.not_succ_le_zero _)
      | succ fuel =>
          rw [search]
          cases htest : test i with
          | true => exact Or.inr ⟨[], prev, i, l, rfl, htest, rfl⟩
          | false =>
              rw [if_neg Bool.false_ne_true]
              obtain ⟨hsearch, hnone⟩ | ⟨l₁, p, t, l₂, hl, ht, hsearch⟩ :=
                ih (Nat.le_of_succ_le_succ hfuel) i
              · exact Or.inl ⟨hsearch, List.forall_mem_cons.mpr ⟨htest, hnone⟩⟩
              · refine Or.inr ⟨prev :: l₁, p, t, l₂, ?_, ht, hsearch⟩
                rw [hl, List.cons_append]

end A733Boot
