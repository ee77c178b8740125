/-
The notifier lists, `ar100s/system/notifier/notifier.c`: a static table of nodes, threaded
into any number of lists of callbacks.

* `notifierInsert`, `notifierDelete`: the code; a list that does not end is a search that
  runs out of fuel;
* `Represents`: the table as the nodes of the lists, with `Represents.insert` and
  `Represents.remove` for what a call may do to it;
* `notifierInsert_spec`, `notifierDelete_spec`: the effect of a call;
* `runCalls_faithful_iff` (**when the lists are faithful**): after any calls the lists are
  well formed; every call does what it should exactly when no call asks for the first
  callback of a longer list that does not come again.
-/
import A733Boot.Library.Links
import A733Boot.Ar100s.Error
import Mathlib.Data.Fintype.Card
import Mathlib.Data.List.FinRange

namespace A733Boot.Ar100s.NotifierLists

/-! ### The code -/

def notifierMax : ℕ := 8

inductive Flag
  | free | used
deriving DecidableEq

/-- An element of the table of notifiers, as its address. -/
abbrev Slot := Fin notifierMax

/-- `struct notifier`, with callbacks `γ`; a null pointer is `none`. -/
structure Notifier (γ : Type) where
  flag : Flag
  pcb : Option γ
  next : Option Slot

/-- The table, and the heads of the lists. -/
structure Notifiers (κ γ : Type) where
  pool : Slot → Notifier γ
  heads : κ → Option Slot

section Code

variable {κ γ : Type} [DecidableEq κ] [DecidableEq γ]

/-- The links of the table. -/
def Notifiers.next (s : Notifiers κ γ) (i : Slot) : Option Slot := (s.pool i).next

/-- The link of an element is set. -/
def Notifiers.setNext (s : Notifiers κ γ) (i : Slot) (link : Option Slot) : Notifiers κ γ :=
  { s with pool := Function.update s.pool i { s.pool i with next := link } }

def notifierInit (s : Notifiers κ γ) : Notifiers κ γ :=
  { s with pool := fun i => { s.pool i with flag := .free } }

/-- The first element of the table that is free is marked. -/
def notifierAlloc (s : Notifiers κ γ) : Option Slot × Notifiers κ γ :=
  match (List.finRange notifierMax).find? fun i => (s.pool i).flag = .free with
  | none => (none, s)
  | some i => (some i, { s with pool := Function.update s.pool i { s.pool i with flag := .used } })

/-- The check for a null pointer is left out: the only caller has made it. -/
def notifierFree (i : Slot) (s : Notifiers κ γ) : Notifiers κ γ :=
  { s with pool := Function.update s.pool i { s.pool i with flag := .free, next := none } }

/-- The callback is not null, which the source asserts. -/
def notifierInsert (head : κ) (pcb : γ) (s : Notifiers κ γ) : ℤ × Notifiers κ γ :=
  match notifierAlloc s with
  | (none, s) => (-eNospc, s)
  | (some i, s) =>
      (0, { pool := Function.update s.pool i { s.pool i with pcb := some pcb, next := s.heads head }
            heads := Function.update s.heads head (some i) })

/-- The result is `none` where the search has not ended after `fuel` nodes. -/
def notifierDelete (fuel : ℕ) (head : κ) (pcb : γ) (s : Notifiers κ γ) :
    Option (ℤ × Notifiers κ γ) :=
  match s.heads head with
  | none => some (-eNodev, s)
  | some first =>
      match s.next first with
      | none =>
          -- only one notifier in the list
          if (s.pool first).pcb = some pcb then
            some (0, notifierFree first
              { s with heads := Function.update s.heads head none })
          else some (-eFail, s)
      | some second =>
          -- the search begins behind the first notifier
          match search s.next (fun i => (s.pool i).pcb = some pcb) fuel first (some second) with
          | none => none
          | some none => some (-eFail, s)
          | some (some (prev, target)) =>
              some (0, notifierFree target (s.setNext prev (s.next target)))

end Code

/-! ### The lists -/

section Lists

variable {κ γ : Type} {s s' : Notifiers κ γ} {f f' : κ → List Slot}

/-- The nodes of a list, in order. -/
def Notifiers.nodes (s : Notifiers κ γ) (k : κ) : List Slot := walk s.next notifierMax (s.heads k)

/-- The callbacks of some nodes, in order. -/
def Notifiers.callbacksOf (s : Notifiers κ γ) (l : List Slot) : List γ :=
  l.filterMap fun i => (s.pool i).pcb

/-- The callbacks of a list, in order. -/
def Notifiers.callbacks (s : Notifiers κ γ) (k : κ) : List γ := s.callbacksOf (s.nodes k)

/-- The lists have the nodes that `f` gives: each list ends after them, no two lists share
one, and they are the elements of the table that are marked; each has a callback. -/
structure Represents (s : Notifiers κ γ) (f : κ → List Slot) : Prop where
  linked : ∀ k, Linked s.next (s.heads k) (f k)
  acyclic : ∀ k, (f k).Nodup
  disjoint : ∀ k k', k ≠ k' → (f k).Disjoint (f k')
  used : ∀ i, (s.pool i).flag = .used ↔ ∃ k, i ∈ f k
  pcb : ∀ k, ∀ i ∈ f k, (s.pool i).pcb.isSome = true

/-- The lists are well formed. -/
def Notifiers.WellFormed (s : Notifiers κ γ) : Prop := Represents s s.nodes

lemma length_le_notifierMax {l : List Slot} (h : l.Nodup) : l.length ≤ notifierMax := by
  have hcard := h.length_le_card
  rwa [Fintype.card_fin] at hcard

/-- The walk along a list finds its nodes. -/
lemma Represents.nodes_eq (h : Represents s f) : s.nodes = f :=
  funext fun k => (h.linked k).walk_eq (length_le_notifierMax (h.acyclic k))

lemma Represents.wellFormed (h : Represents s f) : s.WellFormed := by
  rw [Notifiers.WellFormed, h.nodes_eq]
  exact h

/-- At the start all lists are empty, whatever is left in the table. -/
lemma notifierInit_represents (hheads : ∀ k, s.heads k = none) :
    Represents (notifierInit s) fun _ => [] where
  linked k := by
    rw [notifierInit, hheads]
    exact .nil
  acyclic _ := List.nodup_nil
  disjoint _ _ _ := List.disjoint_nil_left _
  used i := by
    refine ⟨fun h => Flag.noConfusion h, ?_⟩
    rintro ⟨k, hk⟩
    exact absurd hk List.not_mem_nil
  pcb _ i hi := absurd hi List.not_mem_nil

/-- A free element is in no list. -/
lemma Represents.not_mem_of_free (h : Represents s f) {i : Slot} (hfree : (s.pool i).flag = .free)
    (k : κ) : i ∉ f k := by
  intro hk
  have hused := (h.used i).mpr ⟨k, hk⟩
  rw [hfree] at hused
  exact Flag.noConfusion hused

/-- Nodes of two lists are different. -/
lemma Represents.ne_of_mem (h : Represents s f) {k k' : κ} (hk : k ≠ k') {i j : Slot}
    (hi : i ∈ f k) (hj : j ∈ f k') : i ≠ j := by
  rintro rfl
  exact h.disjoint k k' hk hi hj

lemma Represents.callbacks_eq (h : Represents s f) (k : κ) :
    s.callbacks k = s.callbacksOf (f k) := by
  rw [Notifiers.callbacks, h.nodes_eq]

lemma callbacksOf_cons {i : Slot} {pcb : γ} (h : (s.pool i).pcb = some pcb) (l : List Slot) :
    s.callbacksOf (i :: l) = pcb :: s.callbacksOf l := List.filterMap_cons_some h

lemma callbacksOf_append (s : Notifiers κ γ) (l₁ l₂ : List Slot) :
    s.callbacksOf (l₁ ++ l₂) = s.callbacksOf l₁ ++ s.callbacksOf l₂ := List.filterMap_append

lemma callbacksOf_congr {l : List Slot} (h : ∀ i ∈ l, (s'.pool i).pcb = (s.pool i).pcb) :
    s'.callbacksOf l = s.callbacksOf l := List.filterMap_congr h

lemma mem_callbacksOf {l : List Slot} {pcb : γ} :
    pcb ∈ s.callbacksOf l ↔ ∃ i ∈ l, (s.pool i).pcb = some pcb := List.mem_filterMap

variable [DecidableEq κ]

/-- The nodes after one was put in front of a list. -/
lemma mem_update_cons {head k : κ} {i j : Slot} :
    j ∈ Function.update f head (i :: f head) k ↔ (k = head ∧ j = i) ∨ j ∈ f k := by
  by_cases hk : k = head
  · rw [hk, Function.update_self, List.mem_cons]
    simp
  · rw [Function.update_of_ne hk]
    simp [hk]

omit [DecidableEq κ] in
/-- A free element may be changed without any list. -/
lemma Represents.linked_update (h : Represents s f) {i : Slot} (hfree : (s.pool i).flag = .free)
    (n : Notifier γ) (k : κ) :
    Linked (fun j => (Function.update s.pool i n j).next) (s.heads k) (f k) := by
  refine (h.linked k).congr fun j hj => ?_
  have hne : j ≠ i := by
    rintro rfl
    exact h.not_mem_of_free hfree k hj
  rw [Function.update_of_ne hne]
  rfl

/-- A free element becomes the first node of a list. -/
lemma Represents.insert (h : Represents s f) {i : Slot} (hfree : (s.pool i).flag = .free)
    (head : κ) (pcb : γ) :
    Represents
      { pool := Function.update s.pool i ⟨.used, some pcb, s.heads head⟩
        heads := Function.update s.heads head (some i) }
      (Function.update f head (i :: f head)) := by
  have hfresh : ∀ k, i ∉ f k := h.not_mem_of_free hfree
  have hlinked := h.linked_update hfree ⟨.used, some pcb, s.heads head⟩
  have hpool : ∀ j, j ≠ i → Function.update s.pool i ⟨.used, some pcb, s.heads head⟩ j = s.pool j :=
    fun j hj => Function.update_of_ne hj _ _
  refine ⟨fun k => ?_, fun k => ?_, fun k k' hne => ?_, fun j => ?_, fun k j hj => ?_⟩
  · by_cases hk : k = head
    · subst hk
      simp only [Function.update_self]
      refine .cons ?_
      simp only [Notifiers.next, Function.update_self]
      exact hlinked k
    · simp only [Function.update_of_ne hk]
      exact hlinked k
  · by_cases hk : k = head
    · subst hk
      rw [Function.update_self]
      exact List.nodup_cons.mpr ⟨hfresh k, h.acyclic k⟩
    · rw [Function.update_of_ne hk]
      exact h.acyclic k
  · intro j hj hj'
    rw [mem_update_cons] at hj hj'
    obtain ⟨rfl, rfl⟩ | hj := hj
    · obtain ⟨rfl, -⟩ | hj' := hj'
      · exact hne rfl
      · exact hfresh k' hj'
    · obtain ⟨-, rfl⟩ | hj' := hj'
      · exact hfresh k hj
      · exact h.disjoint k k' hne hj hj'
  · simp only [mem_update_cons]
    by_cases hji : j = i
    · subst hji
      simp only [Function.update_self, true_iff]
      exact ⟨head, Or.inl ⟨rfl, trivial⟩⟩
    · rw [hpool j hji, h.used j]
      simp [hji]
  · rw [mem_update_cons] at hj
    by_cases hji : j = i
    · subst hji
      simp only [Function.update_self, Option.isSome_some]
    · have hkept := congrArg Notifier.pcb (hpool j hji)
      rw [hkept]
      exact h.pcb k j (hj.resolve_left fun hboth => hji hboth.2)

/-- The element `t` is freed, and no other element is marked or given a callback. -/
structure Frees (t : Slot) (s s' : Notifiers κ γ) : Prop where
  flag : ∀ i, (s'.pool i).flag = if i = t then .free else (s.pool i).flag
  pcb : ∀ i, (s'.pool i).pcb = (s.pool i).pcb

/-- A node is taken out of a list. -/
lemma Represents.remove (h : Represents s f) {head : κ} {t : Slot} {l₁ l₂ : List Slot}
    (hl : f head = l₁ ++ t :: l₂) (hfrees : Frees t s s')
    (hlinked : Linked s'.next (s'.heads head) (l₁ ++ l₂))
    (hothers : ∀ k, k ≠ head → Linked s'.next (s'.heads k) (f k)) :
    Represents s' (Function.update f head (l₁ ++ l₂)) := by
  have hmem : ∀ j k, j ∈ Function.update f head (l₁ ++ l₂) k ↔ j ∈ f k ∧ j ≠ t := by
    intro j k
    have hnodup := h.acyclic head
    rw [hl] at hnodup
    by_cases hk : k = head
    · subst hk
      have ht : t ∉ l₁ ++ l₂ := (List.nodup_middle.mp hnodup).notMem
      rw [Function.update_self, hl, List.mem_append, List.mem_append, List.mem_cons]
      constructor
      · intro hj
        refine ⟨hj.imp_right Or.inr, ?_⟩
        rintro rfl
        exact ht (List.mem_append.mpr hj)
      · rintro ⟨hj | rfl | hj, hne⟩
        · exact Or.inl hj
        · exact absurd rfl hne
        · exact Or.inr hj
    · have ht : t ∈ f head := by
        rw [hl]
        exact List.mem_append_right l₁ List.mem_cons_self
      rw [Function.update_of_ne hk]
      exact ⟨fun hj => ⟨hj, h.ne_of_mem hk hj ht⟩, fun hj => hj.1⟩
  have hlinked' : ∀ k, Linked s'.next (s'.heads k) (Function.update f head (l₁ ++ l₂) k) := by
    intro k
    by_cases hk : k = head
    · rw [hk, Function.update_self]
      exact hlinked
    · rw [Function.update_of_ne hk]
      exact hothers k hk
  refine ⟨hlinked', fun k => (hlinked' k).nodup, fun k k' hne => ?_, fun j => ?_, fun k j hj => ?_⟩
  · intro j hj hj'
    exact h.disjoint k k' hne ((hmem j k).mp hj).1 ((hmem j k').mp hj').1
  · simp only [hfrees.flag, hmem]
    by_cases hj : j = t
    · simp [hj]
    · rw [if_neg hj, h.used j]
      simp only [ne_eq, hj, not_false_eq_true, and_true]
  · rw [hfrees.pcb]
    exact h.pcb k j ((hmem j k).mp hj).1

end Lists

/-! ### The effect of a call -/

section Calls

variable {κ γ : Type} [DecidableEq κ] {s s' : Notifiers κ γ} {f : κ → List Slot}

/-- A callback is put in front of a list, if an element of the table is free. -/
lemma notifierInsert_spec (h : Represents s f) (head : κ) (pcb : γ) :
    ((∀ i, (s.pool i).flag = .used) ∧ notifierInsert head pcb s = (-eNospc, s)) ∨
    ∃ i s', (s.pool i).flag = .free ∧ notifierInsert head pcb s = (0, s') ∧
      Represents s' (Function.update f head (i :: f head)) ∧
      (s'.pool i).pcb = some pcb ∧ ∀ j ≠ i, (s'.pool j).pcb = (s.pool j).pcb := by
  cases hfind : (List.finRange notifierMax).find? fun i => (s.pool i).flag = .free with
  | none =>
      refine Or.inl ⟨fun i => ?_, ?_⟩
      · have hi := List.find?_eq_none.mp hfind i (List.mem_finRange i)
        cases hflag : (s.pool i).flag with
        | free => exact absurd (decide_eq_true hflag) hi
        | used => rfl
      · simp only [notifierInsert, notifierAlloc, hfind]
  | some i =>
      have hpass := List.find?_some hfind
      have hfree : (s.pool i).flag = .free := of_decide_eq_true hpass
      refine Or.inr ⟨i, _, hfree, ?_, h.insert hfree head pcb, ?_, ?_⟩
      · simp only [notifierInsert, notifierAlloc, hfind, Function.update_self, Function.update_idem]
      · simp only [Function.update_self]
      · intro j hj
        simp only [Function.update_of_ne hj]

omit [DecidableEq κ] in
/-- An element is freed after its list has been changed around it. -/
lemma notifierFree_frees {s₀ : Notifiers κ γ} (hflag : ∀ i, (s₀.pool i).flag = (s.pool i).flag)
    (hpcb : ∀ i, (s₀.pool i).pcb = (s.pool i).pcb) (t : Slot) : Frees t s (notifierFree t s₀) := by
  refine ⟨fun i => ?_, fun i => ?_⟩
  · by_cases hi : i = t
    · simp only [notifierFree, hi, Function.update_self, if_true]
    · simp only [notifierFree, Function.update_of_ne hi, if_neg hi, hflag]
  · by_cases hi : i = t
    · simp only [notifierFree, hi, Function.update_self, hpcb]
    · simp only [notifierFree, Function.update_of_ne hi, hpcb]

/-- The only node of a list is taken out. -/
lemma notifierFree_only (h : Represents s f) {head : κ} {t : Slot} (hl : f head = [t]) :
    Frees t s (notifierFree t { s with heads := Function.update s.heads head none }) ∧
    Represents (notifierFree t { s with heads := Function.update s.heads head none })
      (Function.update f head []) := by
  have hfrees :
      Frees t s (notifierFree t { s with heads := Function.update s.heads head none }) := by
    apply notifierFree_frees
    · exact fun _ => rfl
    · exact fun _ => rfl
  have ht : t ∈ f head := by
    rw [hl]
    exact List.mem_cons_self
  have hsplit : f head = [] ++ t :: [] := hl
  refine ⟨hfrees, h.remove hsplit hfrees ?_ fun k hk => ?_⟩
  · simp only [notifierFree, Function.update_self, List.append_nil]
    exact .nil
  · simp only [notifierFree, Function.update_of_ne hk]
    refine (h.linked k).congr fun i hi => ?_
    simp only [Notifiers.next, Function.update_of_ne (h.ne_of_mem hk hi ht)]

/-- A node behind another is taken out. -/
lemma notifierFree_behind (h : Represents s f) {head : κ} {p t : Slot} {l₁ l₂ : List Slot}
    (hl : f head = l₁ ++ p :: t :: l₂) :
    Frees t s (notifierFree t (s.setNext p (s.next t))) ∧
    Represents (notifierFree t (s.setNext p (s.next t)))
      (Function.update f head (l₁ ++ p :: l₂)) := by
  have hp : p ∈ f head := by
    rw [hl]
    exact List.mem_append_right l₁ List.mem_cons_self
  have ht : t ∈ f head := by
    rw [hl]
    exact List.mem_append_right l₁ (List.mem_cons_of_mem p List.mem_cons_self)
  have hfields : ∀ i, ((s.setNext p (s.next t)).pool i).flag = (s.pool i).flag ∧
      ((s.setNext p (s.next t)).pool i).pcb = (s.pool i).pcb := by
    intro i
    by_cases hi : i = p
    · simp only [Notifiers.setNext, hi, Function.update_self, and_self]
    · simp only [Notifiers.setNext, Function.update_of_ne hi, and_self]
  have hfrees : Frees t s (notifierFree t (s.setNext p (s.next t))) :=
    notifierFree_frees (fun i => (hfields i).1) (fun i => (hfields i).2) t
  have hnext : ∀ i, i ≠ t → (notifierFree t (s.setNext p (s.next t))).next i
      = Function.update s.next p (s.next t) i := by
    intro i hi
    simp only [Notifiers.next, notifierFree, Notifiers.setNext, Function.update_of_ne hi]
    by_cases hip : i = p
    · simp only [hip, Function.update_self]
    · simp only [Function.update_of_ne hip, Notifiers.next]
  have hsplit : l₁ ++ p :: t :: l₂ = (l₁ ++ [p]) ++ t :: l₂ := by
    rw [List.append_assoc, List.singleton_append]
  have hjoin : l₁ ++ p :: l₂ = (l₁ ++ [p]) ++ l₂ := by
    rw [List.append_assoc, List.singleton_append]
  have hlinked := h.linked head
  have hnodup := h.acyclic head
  rw [hl] at hlinked hnodup
  rw [hsplit] at hnodup
  rw [hjoin]
  refine ⟨hfrees, h.remove (hl.trans hsplit) hfrees ?_ fun k hk => ?_⟩
  · rw [← hjoin]
    refine hlinked.unlink.congr fun i hi => hnext i ?_
    rintro rfl
    rw [hjoin] at hi
    exact (List.nodup_middle.mp hnodup).notMem hi
  · refine (h.linked k).congr fun i hi => ?_
    rw [hnext i (h.ne_of_mem hk hi ht), Function.update_of_ne (h.ne_of_mem hk hi hp)]

variable [DecidableEq γ]

/-- The outcome of `notifier_delete`, on the nodes of a list: the call ends; it changes
nothing and reports that, if no node has the callback or only the first of several has
it; or it takes a node with the callback out. -/
def Deletes (f : κ → List Slot) (head : κ) (pcb : γ) (s : Notifiers κ γ)
    (out : Option (ℤ × Notifiers κ γ)) : Prop :=
  (∃ ret ≠ 0, out = some (ret, s) ∧
    (pcb ∉ s.callbacksOf (f head) ∨
      ∃ i j l, f head = i :: j :: l ∧ pcb ∉ s.callbacksOf (j :: l))) ∨
  ∃ t l₁ l₂ s', out = some (0, s') ∧ f head = l₁ ++ t :: l₂ ∧
    (s.pool t).pcb = some pcb ∧ (l₁ = [] → l₂ = []) ∧ Frees t s s' ∧
    Represents s' (Function.update f head (l₁ ++ l₂))

/-- A list of one node. -/
lemma notifierDelete_only (h : Represents s f) (fuel : ℕ) {head : κ} (pcb : γ) {i : Slot}
    (hl : f head = [i]) : Deletes f head pcb s (notifierDelete fuel head pcb s) := by
  have hlinked := h.linked head
  rw [hl] at hlinked
  have hnext : s.next i = none := hlinked.tail.start_eq_none
  rw [notifierDelete, hlinked.start_eq]
  simp only [hnext]
  by_cases hpcb : (s.pool i).pcb = some pcb
  · obtain ⟨hfrees, hrep⟩ := notifierFree_only h hl
    exact Or.inr ⟨i, [], [], _, if_pos hpcb, hl, hpcb, fun _ => rfl, hfrees, hrep⟩
  · refine Or.inl ⟨-eFail, by decide, if_neg hpcb, Or.inl fun hmem => ?_⟩
    rw [hl] at hmem
    obtain ⟨j, hj, hjpcb⟩ := mem_callbacksOf.mp hmem
    rw [List.mem_singleton] at hj
    exact hpcb (hj ▸ hjpcb)

/-- A longer list: the search begins behind its first node. -/
lemma notifierDelete_longer (h : Represents s f) {fuel : ℕ} (hfuel : notifierMax ≤ fuel) {head : κ}
    (pcb : γ) {i j : Slot} {l : List Slot} (hl : f head = i :: j :: l) :
    Deletes f head pcb s (notifierDelete fuel head pcb s) := by
  have hlinked := h.linked head
  have hnodup := h.acyclic head
  rw [hl] at hlinked hnodup
  have hnext : s.next i = some j := hlinked.tail.start_eq
  have hlen : (j :: l).length ≤ fuel := by
    have hall := length_le_notifierMax hnodup
    rw [List.length_cons] at hall
    omega
  have hsearch := (hnext ▸ hlinked.tail).search_spec
    (fun i => decide ((s.pool i).pcb = some pcb)) hlen i
  rw [notifierDelete, hlinked.start_eq]
  simp only [hnext]
  obtain ⟨hnone, hfails⟩ | ⟨l₁, p, t, l₂, hsplit, ht, hfound⟩ := hsearch
  · refine Or.inl ⟨-eFail, by decide, ?_, Or.inr ⟨i, j, l, hl, fun hmem => ?_⟩⟩
    · rw [hnone]
    · obtain ⟨k, hk, hkpcb⟩ := mem_callbacksOf.mp hmem
      exact of_decide_eq_false (hfails k hk) hkpcb
  · have hlist : f head = l₁ ++ p :: t :: l₂ := hl.trans hsplit
    obtain ⟨hfrees, hrep⟩ := notifierFree_behind h hlist
    refine Or.inr ⟨t, l₁ ++ [p], l₂, _, ?_, ?_, of_decide_eq_true ht, ?_, hfrees, ?_⟩
    · rw [hfound]
    · rw [hlist, List.append_assoc, List.singleton_append]
    · exact fun hnil => absurd hnil (List.append_ne_nil_of_right_ne_nil l₁ (by simp))
    · rw [List.append_assoc, List.singleton_append]
      exact hrep

lemma notifierDelete_spec (h : Represents s f) {fuel : ℕ} (hfuel : notifierMax ≤ fuel) (head : κ)
    (pcb : γ) : Deletes f head pcb s (notifierDelete fuel head pcb s) := by
  cases hl : f head with
  | nil =>
      have hlinked := h.linked head
      rw [hl] at hlinked
      refine Or.inl ⟨-eNodev, by decide, ?_, Or.inl ?_⟩
      · rw [notifierDelete, hlinked.start_eq_none]
      · rw [hl]
        exact List.not_mem_nil
  | cons i l =>
      cases l with
      | nil => exact notifierDelete_only h fuel pcb hl
      | cons j l => exact notifierDelete_longer h hfuel pcb hl

end Calls

/-! ### Runs -/

/-- A call, for a list and a callback. -/
inductive Call (κ γ : Type)
  | insert (head : κ) (pcb : γ)
  | delete (head : κ) (pcb : γ)

/-- A call that was made, with the state before it, what it returned and the state after
it. -/
structure Step (κ γ : Type) where
  before : Notifiers κ γ
  call : Call κ γ
  ret : ℤ
  after : Notifiers κ γ

section Runs

variable {κ γ : Type} [DecidableEq κ] [DecidableEq γ]

def call (fuel : ℕ) : Call κ γ → Notifiers κ γ → Option (ℤ × Notifiers κ γ)
  | .insert head pcb, s => some (notifierInsert head pcb s)
  | .delete head pcb, s => notifierDelete fuel head pcb s

/-- The calls are made one after the other. -/
def runCalls (fuel : ℕ) : List (Call κ γ) → Notifiers κ γ → Option (List (Step κ γ))
  | [], _ => some []
  | c :: cs, s => do
      let r ← call fuel c s
      let steps ← runCalls fuel cs r.2
      pure (⟨s, c, r.1, r.2⟩ :: steps)

/-- A call did what it should. An insertion puts its callback in front of its list, or
reports that all elements are used and changes nothing. A deletion succeeds exactly if the
callback is in the list: then one occurrence of it is gone and one element free, and
otherwise nothing has changed. -/
def Step.Faithful (t : Step κ γ) : Prop :=
  match t.call with
  | .insert head pcb =>
      ((∀ i, (t.before.pool i).flag = .used) → t.ret = -eNospc ∧ t.after = t.before) ∧
      ((∃ i, (t.before.pool i).flag ≠ .used) → t.ret = 0 ∧
        t.after.callbacks head = pcb :: t.before.callbacks head ∧
        ∀ k ≠ head, t.after.callbacks k = t.before.callbacks k)
  | .delete head pcb =>
      (t.ret = 0 ↔ pcb ∈ t.before.callbacks head) ∧
      (pcb ∈ t.before.callbacks head →
        (∃ l₁ l₂, t.before.callbacks head = l₁ ++ pcb :: l₂ ∧ t.after.callbacks head = l₁ ++ l₂) ∧
        (∀ k ≠ head, t.after.callbacks k = t.before.callbacks k) ∧
        ∃ i, (t.before.pool i).flag = .used ∧
          ∀ j, (t.after.pool j).flag = if j = i then .free else (t.before.pool j).flag) ∧
      (pcb ∉ t.before.callbacks head → t.after = t.before)

/-- A deletion that the search can serve: the list has at most one callback, or the first
one is not asked for, or it comes again. -/
def Notifiers.Served (s : Notifiers κ γ) : Call κ γ → Prop
  | .insert _ _ => True
  | .delete head pcb =>
      (s.callbacks head).length ≤ 1 ∨ (s.callbacks head).head? ≠ some pcb ∨
        pcb ∈ (s.callbacks head).tail

variable {s : Notifiers κ γ} {f : κ → List Slot}

omit [DecidableEq γ] in
/-- An insertion leads to well-formed lists, and is faithful. -/
lemma insert_faithful (h : Represents s f) (head : κ) (pcb : γ) :
    ∃ f', Represents (notifierInsert head pcb s).2 f' ∧
      Step.Faithful ⟨s, .insert head pcb, (notifierInsert head pcb s).1,
        (notifierInsert head pcb s).2⟩ := by
  obtain ⟨hfull, hdef⟩ | ⟨i, s', hfree, hdef, hrep, hpcb, hothers⟩ := notifierInsert_spec h head pcb
  · rw [hdef]
    refine ⟨f, h, fun _ => ⟨rfl, rfl⟩, ?_⟩
    rintro ⟨i, hi⟩
    exact absurd (hfull i) hi
  · rw [hdef]
    have hfresh : ∀ k, ∀ j ∈ f k, j ≠ i := by
      rintro k j hj rfl
      exact h.not_mem_of_free hfree k hj
    have hkept : ∀ k, s'.callbacksOf (f k) = s.callbacksOf (f k) := fun k =>
      callbacksOf_congr fun j hj => hothers j (hfresh k j hj)
    refine ⟨_, hrep, fun hfull => ?_, fun _ => ⟨rfl, ?_, fun k hk => ?_⟩⟩
    · have hused := hfull i
      rw [hfree] at hused
      exact Flag.noConfusion hused
    · rw [hrep.callbacks_eq, h.callbacks_eq, Function.update_self, callbacksOf_cons hpcb, hkept]
    · rw [hrep.callbacks_eq, h.callbacks_eq, Function.update_of_ne hk, hkept]

omit [DecidableEq κ] [DecidableEq γ] in
/-- A deletion that changes nothing: it is faithful unless the first of several callbacks
was asked for. -/
lemma missed_faithful_iff (h : Represents s f) {head : κ} {pcb : γ} {ret : ℤ} (hret : ret ≠ 0)
    (hmissed : pcb ∉ s.callbacksOf (f head) ∨
      ∃ i j l, f head = i :: j :: l ∧ pcb ∉ s.callbacksOf (j :: l)) :
    Step.Faithful ⟨s, .delete head pcb, ret, s⟩ ↔ s.Served (.delete head pcb) := by
  simp only [Step.Faithful, Notifiers.Served, h.callbacks_eq]
  constructor
  · intro hfaithful
    have hmem : pcb ∉ s.callbacksOf (f head) := fun hmem => hret (hfaithful.1.mpr hmem)
    exact Or.inr (Or.inl fun hhead => hmem (List.mem_of_head? hhead))
  · intro hserved
    have hmem : pcb ∉ s.callbacksOf (f head) := by
      obtain hnone | ⟨i, j, l, hl, hbehind⟩ := hmissed
      · exact hnone
      · -- only the first of several nodes could have the callback
        obtain ⟨first, hi⟩ := Option.isSome_iff_exists.mp (h.pcb head i (by simp [hl]))
        obtain ⟨second, hj⟩ := Option.isSome_iff_exists.mp (h.pcb head j (by simp [hl]))
        rw [callbacksOf_cons hj] at hbehind
        rw [hl, callbacksOf_cons hi, callbacksOf_cons hj] at hserved ⊢
        rintro (_ | ⟨_, hmem⟩)
        · obtain hlen | hhead | htail := hserved
          · simp only [List.length_cons] at hlen
            omega
          · exact hhead rfl
          · exact hbehind htail
        · exact hbehind hmem
    exact ⟨⟨fun h0 => absurd h0 hret, fun h1 => absurd h1 hmem⟩, fun h1 => absurd h1 hmem,
      fun _ => trivial⟩

omit [DecidableEq γ] in
/-- A deletion that takes a node out is faithful, and one that the search can serve. -/
lemma taken_faithful (h : Represents s f) {s' : Notifiers κ γ} {head : κ} {pcb : γ} {t : Slot}
    {l₁ l₂ : List Slot} (hl : f head = l₁ ++ t :: l₂) (ht : (s.pool t).pcb = some pcb)
    (hfirst : l₁ = [] → l₂ = []) (hfrees : Frees t s s')
    (hrep : Represents s' (Function.update f head (l₁ ++ l₂))) :
    Step.Faithful ⟨s, .delete head pcb, 0, s'⟩ ∧ s.Served (.delete head pcb) := by
  have hkept : ∀ l, s'.callbacksOf l = s.callbacksOf l := fun l =>
    callbacksOf_congr fun i _ => hfrees.pcb i
  have hbefore : s.callbacks head = s.callbacksOf l₁ ++ pcb :: s.callbacksOf l₂ := by
    rw [h.callbacks_eq, hl, callbacksOf_append, callbacksOf_cons ht]
  have hmem : pcb ∈ s.callbacks head := by
    rw [hbefore]
    exact List.mem_append_right _ List.mem_cons_self
  refine ⟨⟨⟨fun _ => hmem, fun _ => rfl⟩, fun _ => ⟨⟨_, _, hbefore, ?_⟩, ?_, t, ?_,
    hfrees.flag⟩, fun hnone => absurd hmem hnone⟩, ?_⟩
  · rw [hrep.callbacks_eq, Function.update_self, hkept, callbacksOf_append]
  · intro k hk
    rw [hrep.callbacks_eq, h.callbacks_eq, Function.update_of_ne hk, hkept]
  · refine (h.used t).mpr ⟨head, ?_⟩
    rw [hl]
    exact List.mem_append_right l₁ List.mem_cons_self
  · simp only [Notifiers.Served, hbefore]
    cases l₁ with
    | nil =>
        rw [hfirst rfl]
        exact Or.inl le_rfl
    | cons i l₁ =>
        obtain ⟨first, hi⟩ := Option.isSome_iff_exists.mp (h.pcb head i (by simp [hl]))
        rw [callbacksOf_cons hi]
        exact Or.inr (Or.inr (List.mem_append_right _ List.mem_cons_self))

/-- A deletion ends and leads to well-formed lists, and is faithful exactly if the search
can serve it. -/
lemma delete_faithful_iff (h : Represents s f) {fuel : ℕ} (hfuel : notifierMax ≤ fuel) (head : κ)
    (pcb : γ) :
    ∃ r f', notifierDelete fuel head pcb s = some r ∧ Represents r.2 f' ∧
      (Step.Faithful ⟨s, .delete head pcb, r.1, r.2⟩ ↔ s.Served (.delete head pcb)) := by
  obtain ⟨ret, hret, hdef, hmissed⟩ | ⟨t, l₁, l₂, s', hdef, hl, ht, hfirst, hfrees, hrep⟩ :=
    notifierDelete_spec h hfuel head pcb
  · exact ⟨_, f, hdef, h, missed_faithful_iff h hret hmissed⟩
  · obtain ⟨hfaithful, hserved⟩ := taken_faithful h hl ht hfirst hfrees hrep
    exact ⟨_, _, hdef, hrep, iff_of_true hfaithful hserved⟩

/-- One call, of either kind. -/
lemma call_faithful_iff (h : Represents s f) {fuel : ℕ} (hfuel : notifierMax ≤ fuel)
    (c : Call κ γ) :
    ∃ r f', call fuel c s = some r ∧ Represents r.2 f' ∧
      (Step.Faithful ⟨s, c, r.1, r.2⟩ ↔ s.Served c) := by
  cases c with
  | insert head pcb =>
      obtain ⟨f', hrep, hfaithful⟩ := insert_faithful h head pcb
      exact ⟨_, f', rfl, hrep, iff_of_true hfaithful trivial⟩
  | delete head pcb => exact delete_faithful_iff h hfuel head pcb

/-- A run, from lists that are well formed. -/
lemma Represents.run (h : Represents s f) {fuel : ℕ} (hfuel : notifierMax ≤ fuel)
    (calls : List (Call κ γ)) :
    ∃ steps, runCalls fuel calls s = some steps ∧
      (∀ t ∈ steps, t.before.WellFormed ∧ t.after.WellFormed) ∧
      ((∀ t ∈ steps, t.Faithful) ↔ ∀ t ∈ steps, t.before.Served t.call) := by
  induction calls generalizing s f with
  | nil => exact ⟨[], rfl, by simp, by simp⟩
  | cons c cs ih =>
      obtain ⟨r, f', hcall, hrep, hiff⟩ := call_faithful_iff h hfuel c
      obtain ⟨steps, hrun, hwf, hsteps⟩ := ih hrep
      refine ⟨⟨s, c, r.1, r.2⟩ :: steps, ?_, ?_, ?_⟩
      · rw [runCalls, hcall]
        simp only [Option.bind_eq_bind, Option.bind_some, hrun]
        rfl
      · exact List.forall_mem_cons.mpr ⟨⟨h.wellFormed, hrep.wellFormed⟩, hwf⟩
      · rw [List.forall_mem_cons, List.forall_mem_cons]
        exact and_congr hiff hsteps

/-- **When the lists are faithful.** After `notifier_init`, with all heads null and
whatever else is left in the table, every sequence of calls on any number of lists ends,
and the lists are well formed before and after each of them. All the calls do what they
should exactly when each deletion is of a callback that the search can find: the list has
at most one, or the first is not asked for, or it comes again. -/
theorem runCalls_faithful_iff (s : Notifiers κ γ) (hheads : ∀ k, s.heads k = none) {fuel : ℕ}
    (hfuel : notifierMax ≤ fuel) (calls : List (Call κ γ)) :
    (notifierInit s).WellFormed ∧
    ∃ steps, runCalls fuel calls (notifierInit s) = some steps ∧
      (∀ t ∈ steps, t.before.WellFormed ∧ t.after.WellFormed) ∧
      ((∀ t ∈ steps, t.Faithful) ↔ ∀ t ∈ steps, t.before.Served t.call) := by
  have hinit := notifierInit_represents hheads
  exact ⟨hinit.wellFormed, hinit.run hfuel calls⟩

end Runs

/-- The table as it is at reset, and one list. -/
def resetNotifiers : Notifiers Unit ℕ := ⟨fun _ => ⟨.free, none, none⟩, fun _ => none⟩

/-- Two callbacks, of which the older is deleted. -/
theorem runCalls_faithful_two :
    ∃ steps, runCalls 8 [.insert () 1, .insert () 2, .delete () 1] (notifierInit resetNotifiers)
      = some steps ∧ ∀ t ∈ steps, t.Faithful := by
  obtain ⟨-, steps, hrun, -, hiff⟩ := runCalls_faithful_iff resetNotifiers (fun _ => rfl)
    (le_refl notifierMax) [.insert () 1, .insert () 2, .delete () 1]
  refine ⟨steps, hrun, hiff.mpr ?_⟩
  obtain rfl := Option.some.inj hrun
  refine List.forall_mem_cons.mpr ⟨trivial, List.forall_mem_cons.mpr ⟨trivial,
    List.forall_mem_cons.mpr ⟨?_, fun t ht => absurd ht List.not_mem_nil⟩⟩⟩
  exact Or.inr (Or.inr (by decide))

/-- Two callbacks, of which the newer is to be deleted: it is in the list, and the
deletion fails. -/
theorem runCalls_unfaithful :
    ¬ ∀ (s : Notifiers Unit ℕ), (∀ k, s.heads k = none) → ∀ (calls : List (Call Unit ℕ)),
      ∃ steps, runCalls notifierMax calls (notifierInit s) = some steps ∧
        ∀ t ∈ steps, t.Faithful := by
  intro hall
  obtain ⟨steps, hrun, hfaithful⟩ := hall resetNotifiers (fun _ => rfl)
    [.insert () 1, .insert () 2, .delete () 2]
  obtain rfl := Option.some.inj hrun
  have hlast := hfaithful _ (List.mem_cons_of_mem _ (List.mem_cons_of_mem _ List.mem_cons_self))
  exact absurd (hlast.1.mpr (by decide)) (by decide)

end A733Boot.Ar100s.NotifierLists
