/-
Registers of a hardware that has a state of its own, which every access may change, and the
accesses that a driver makes.

* `Hardware`, `Machine`: the hardware, and it beside the accesses so far and the memory of the
  driver;
* `Driver`: a program over the registers, which may fail to return; an `Attempt` may also jump
  to the way out behind it;
* `waitWhile`, `pollUntil`: the loop that reads a register for as long as it takes, and the
  one that reads it so many times at most;
* `Does`: what a driver that returns has accessed and left in its memory, with a rule for each
  way of putting drivers together, and `Stays`: which registers it touches;
* `Stuck`: that it gets to a loop that waits for ever, and `Settles`: that there is
  no other way not to return;
* `Leads`: what it does from one state of the hardware;
* `readsOf`, `writesOf`, `Only`: what was read from and written to a register.
-/
import Mathlib.Tactic.Common
import Mathlib.Data.List.Basic

namespace A733Boot

/-- The hardware behind the registers: what an access does to it, and what a read shows. -/
structure Hardware (σ : Type) where
  read : ℕ → σ → UInt32 × σ
  write : ℕ → UInt32 → σ → σ

inductive Access
  | read (a : ℕ) (value : UInt32)
  | write (a : ℕ) (value : UInt32)

namespace Access

def addr : Access → ℕ
  | read a _ => a
  | write a _ => a

end Access

/-- The state of the hardware, the accesses so far, oldest first, and what the driver keeps. -/
structure Machine (σ μ : Type) where
  hw : σ
  log : List Access
  mem : μ

/-- A program over the registers. It has no result if it does not return. -/
abbrev Driver (σ μ α : Type) := StateT (Machine σ μ) Option α

/-- A part of a program that may jump to the way out behind it. -/
abbrev Attempt (σ μ α : Type) := OptionT (StateT (Machine σ μ) Option) α

/-! ### Accesses -/

section Accesses

variable {σ μ α β : Type} (h : Hardware σ)

/-- A read, and the machine behind it. -/
def Hardware.look (a : ℕ) (s : Machine σ μ) : UInt32 × Machine σ μ :=
  ((h.read a s.hw).1, { s with
    hw := (h.read a s.hw).2, log := s.log ++ [.read a (h.read a s.hw).1] })

def Hardware.readl (a : ℕ) : Driver σ μ UInt32 := fun s => some (h.look a s)

def Hardware.writel (value : UInt32) (a : ℕ) : Driver σ μ Unit := fun s =>
  some ((), { s with hw := h.write a value s.hw, log := s.log ++ [.write a value] })

/-- Read the register for as long as it shows something of the kind. -/
def Hardware.waitWhile (h : Hardware σ) (a : ℕ) (busy : UInt32 → Bool) (s : Machine σ μ) :
    Option (Unit × Machine σ μ) :=
  if busy (h.look a s).1 then h |>.waitWhile a busy (h.look a s).2
  else some ((), (h.look a s).2)
partial_fixpoint

/-- Read the register until it is ready, at most `n` times. -/
def Hardware.pollUntil (a : ℕ) (ready : UInt32 → Bool) : ℕ → Driver σ μ Bool
  | 0 => pure false
  | n + 1 => do
      if ready (← h.readl a) then pure true else Hardware.pollUntil a ready n

/-- The bytes and flags that the driver keeps. -/
def modifyMem (f : μ → μ) : Driver σ μ Unit := fun s => some ((), { s with mem := f s.mem })

def getMem : Driver σ μ μ := fun s => some (s.mem, s)

end Accesses

/-! ### What was accessed -/

/-- The values that were read from a register. -/
def readsOf (a : ℕ) (l : List Access) : List UInt32 :=
  l.filterMap fun
    | .read b v => if b = a then some v else none
    | .write _ _ => none

/-- The values that were written to a register. -/
def writesOf (a : ℕ) (l : List Access) : List UInt32 :=
  l.filterMap fun
    | .read _ _ => none
    | .write b v => if b = a then some v else none

/-- The accesses are to the registers of the list. -/
def Only (as : List ℕ) (l : List Access) : Prop := ∀ x ∈ l, x.addr ∈ as

section Lists

variable {a : ℕ} {as bs : List ℕ} {l l' : List Access}

@[simp] lemma readsOf_nil : readsOf a [] = [] := rfl

@[simp] lemma writesOf_nil : writesOf a [] = [] := rfl

@[simp] lemma readsOf_append : readsOf a (l ++ l') = readsOf a l ++ readsOf a l' :=
  List.filterMap_append

@[simp] lemma writesOf_append : writesOf a (l ++ l') = writesOf a l ++ writesOf a l' :=
  List.filterMap_append

lemma only_nil : Only as [] := fun _ hx => absurd hx List.not_mem_nil

lemma Only.append (h : Only as l) (h' : Only as l') : Only as (l ++ l') := by
  intro x hx
  rcases List.mem_append.mp hx with hx | hx
  · exact h x hx
  · exact h' x hx

lemma Only.mono (h : Only as l) (hsub : as ⊆ bs) : Only bs l := fun x hx => hsub (h x hx)

lemma Only.readsOf (h : Only as l) (ha : a ∉ as) : readsOf a l = [] := by
  refine List.filterMap_eq_nil_iff.mpr fun x hx => ?_
  have hmem := h x hx
  cases x with
  | read b v =>
    refine if_neg ?_
    rintro rfl
    exact ha hmem
  | write b v => rfl

lemma Only.writesOf (h : Only as l) (ha : a ∉ as) : writesOf a l = [] := by
  refine List.filterMap_eq_nil_iff.mpr fun x hx => ?_
  have hmem := h x hx
  cases x with
  | read b v => rfl
  | write b v =>
    refine if_neg ?_
    rintro rfl
    exact ha hmem

end Lists

/-! ### Programs that return -/

section Does

variable {σ μ α β : Type} {h : Hardware σ}

/-- When it returns, the driver has made accesses and changed its memory as `P` says. -/
def Does (m : Driver σ μ α) (P : μ → α → List Access → μ → Prop) : Prop :=
  ∀ s r s', m s = some (r, s') → ∃ l, s'.log = s.log ++ l ∧ P s.mem r l s'.mem

/-- The driver returns, whatever state it starts in. -/
def Returns (m : Driver σ μ α) : Prop := ∀ s, ∃ r, m s = some r

namespace Does

variable {P Q : μ → α → List Access → μ → Prop} {m m' : Driver σ μ α}

lemma mono (hm : Does m P) (hPQ : ∀ x a l y, P x a l y → Q x a l y) : Does m Q := by
  intro s r s' hrun
  obtain ⟨l, hlog, hP⟩ := hm s r s' hrun
  exact ⟨l, hlog, hPQ _ _ _ _ hP⟩

lemma pure (a : α) : Does (pure a : Driver σ μ α) fun x b l y => b = a ∧ l = [] ∧ y = x := by
  intro s r s' hrun
  obtain ⟨rfl, rfl⟩ := Prod.mk.inj (Option.some.inj hrun)
  exact ⟨[], (List.append_nil _).symm, rfl, rfl, rfl⟩

/-- What the first part did and then the second. -/
lemma bind {f : α → Driver σ μ β} {R : α → μ → β → List Access → μ → Prop} (hm : Does m P)
    (hf : ∀ a, Does (f a) (R a)) :
    Does (m >>= f) fun x b l z => ∃ a l₁ l₂ y, l = l₁ ++ l₂ ∧ P x a l₁ y ∧ R a y b l₂ z := by
  intro s b s' hrun
  obtain ⟨⟨a, s₁⟩, hfirst, hrest⟩ := Option.bind_eq_some_iff.mp hrun
  obtain ⟨l₁, hlog₁, hP⟩ := hm s a s₁ hfirst
  obtain ⟨l₂, hlog₂, hR⟩ := hf a s₁ b s' hrest
  exact ⟨l₁ ++ l₂, by rw [hlog₂, hlog₁, List.append_assoc], a, l₁, l₂, s₁.mem, rfl, hP, hR⟩

lemma ite {c : Prop} [Decidable c] (hm : c → Does m P) (hm' : ¬ c → Does m' P) :
    Does (if c then m else m') P := by
  by_cases hc : c
  · rw [if_pos hc]
    exact hm hc
  · rw [if_neg hc]
    exact hm' hc

lemma readl (a : ℕ) :
    Does (h.readl a : Driver σ μ UInt32) fun x v l y => l = [.read a v] ∧ y = x := by
  intro s r s' hrun
  obtain ⟨rfl, rfl⟩ := Prod.mk.inj (Option.some.inj hrun)
  exact ⟨_, rfl, rfl, rfl⟩

lemma writel (v : UInt32) (a : ℕ) :
    Does (h.writel v a : Driver σ μ Unit) fun x _ l y => l = [.write a v] ∧ y = x := by
  intro s r s' hrun
  obtain ⟨rfl, rfl⟩ := Prod.mk.inj (Option.some.inj hrun)
  exact ⟨_, rfl, rfl, rfl⟩

lemma modifyMem (f : μ → μ) :
    Does (modifyMem f : Driver σ μ Unit) fun x _ l y => l = [] ∧ y = f x := by
  intro s r s' hrun
  obtain ⟨rfl, rfl⟩ := Prod.mk.inj (Option.some.inj hrun)
  exact ⟨[], (List.append_nil _).symm, rfl, rfl⟩

lemma getMem : Does (getMem : Driver σ μ μ) fun x v l y => v = x ∧ l = [] ∧ y = x := by
  intro s r s' hrun
  obtain ⟨rfl, rfl⟩ := Prod.mk.inj (Option.some.inj hrun)
  exact ⟨[], (List.append_nil _).symm, rfl, rfl, rfl⟩

lemma only_read (a : ℕ) (v : UInt32) : Only [a] [.read a v] ∧ writesOf a [.read a v] = [] :=
  ⟨fun x hx => by rw [List.mem_singleton.mp hx]; exact List.mem_singleton.mpr rfl, rfl⟩

/-- The loop reads one register. -/
lemma waitWhile (a : ℕ) (busy : UInt32 → Bool) :
    Does (h.waitWhile a busy : Driver σ μ Unit) fun x _ l y =>
      Only [a] l ∧ writesOf a l = [] ∧ y = x := by
  have hloop := Hardware.waitWhile.partial_correctness (μ := μ) h a busy (fun s r => ∃ l,
    r.2.log = s.log ++ l ∧ Only [a] l ∧ writesOf a l = [] ∧ r.2.mem = s.mem) ?_
  · exact fun s r s' hrun => hloop s (r, s') hrun
  intro f ih s r hr
  obtain ⟨honly, hnone⟩ := only_read a (h.look a s).1
  by_cases hbusy : busy (h.look a s).1
  · rw [if_pos hbusy] at hr
    obtain ⟨l, hlog, honly', hnone', hmem⟩ := ih _ r hr
    refine ⟨.read a (h.look a s).1 :: l, ?_, honly.append honly', ?_, hmem⟩
    · rw [hlog]
      exact List.append_assoc s.log _ l
    · rw [← List.singleton_append, writesOf_append, hnone, hnone', List.nil_append]
  · rw [if_neg hbusy] at hr
    obtain rfl := Option.some.inj hr
    exact ⟨_, rfl, honly, hnone, rfl⟩

/-- So does the one with a bound. -/
lemma pollUntil (a : ℕ) (ready : UInt32 → Bool) (n : ℕ) :
    Does (h.pollUntil a ready n : Driver σ μ Bool) fun x _ l y =>
      Only [a] l ∧ writesOf a l = [] ∧ y = x := by
  induction n with
  | zero =>
    refine (Does.pure false).mono ?_
    rintro x b l y ⟨-, rfl, rfl⟩
    exact ⟨only_nil, rfl, rfl⟩
  | succ n ih =>
    refine ((Does.readl a).bind fun v => .ite (fun _ => (Does.pure true).mono
      (Q := fun x _ l y => Only [a] l ∧ writesOf a l = [] ∧ y = x) ?_) fun _ => ih).mono ?_
    · rintro x b l y ⟨-, rfl, rfl⟩
      exact ⟨only_nil, rfl, rfl⟩
    · rintro x b l z ⟨v, l₁, l₂, y, rfl, ⟨rfl, rfl⟩, honly, hnone, rfl⟩
      obtain ⟨honly', hnone'⟩ := only_read a v
      exact ⟨honly'.append honly, by rw [writesOf_append, hnone, hnone', List.nil_append], rfl⟩

end Does

/-- The driver only touches the registers of the list, and keeps its memory. -/
def Stays (as : List ℕ) (m : Driver σ μ α) : Prop := Does m fun x _ l y => Only as l ∧ y = x

namespace Stays

variable {as : List ℕ} {a : ℕ} {m m' : Driver σ μ α}

lemma bind {f : α → Driver σ μ β} (hm : Stays as m) (hf : ∀ a, Stays as (f a)) :
    Stays as (m >>= f) := by
  refine (Does.bind hm hf).mono ?_
  rintro x b l z ⟨a, l₁, l₂, y, rfl, ⟨h₁, rfl⟩, h₂, rfl⟩
  exact ⟨h₁.append h₂, rfl⟩

lemma pure (b : α) : Stays as (Pure.pure b : Driver σ μ α) := by
  refine (Does.pure b).mono ?_
  rintro x c l y ⟨-, rfl, rfl⟩
  exact ⟨only_nil, rfl⟩

lemma ite {c : Prop} [Decidable c] (hm : Stays as m) (hm' : Stays as m') :
    Stays as (if c then m else m') := Does.ite (fun _ => hm) fun _ => hm'

lemma mono {bs : List ℕ} (hm : Stays as m) (hsub : as ⊆ bs) : Stays bs m :=
  Does.mono hm fun _ _ _ _ h => ⟨h.1.mono hsub, h.2⟩

lemma readl (ha : a ∈ as) : Stays as (h.readl a : Driver σ μ UInt32) := by
  refine (Does.readl a).mono ?_
  rintro x v l y ⟨rfl, rfl⟩
  exact ⟨(Does.only_read a v).1.mono (List.cons_subset.mpr ⟨ha, List.nil_subset _⟩), rfl⟩

lemma writel (v : UInt32) (ha : a ∈ as) : Stays as (h.writel v a : Driver σ μ Unit) := by
  refine (Does.writel v a).mono ?_
  rintro x b l y ⟨rfl, rfl⟩
  exact ⟨fun z hz => by rw [List.mem_singleton.mp hz]; exact ha, rfl⟩

lemma waitWhile (ha : a ∈ as) (busy : UInt32 → Bool) :
    Stays as (h.waitWhile a busy : Driver σ μ Unit) := by
  refine (Does.waitWhile a busy).mono ?_
  rintro x b l y ⟨honly, -, rfl⟩
  exact ⟨honly.mono (List.cons_subset.mpr ⟨ha, List.nil_subset _⟩), rfl⟩

lemma pollUntil (ha : a ∈ as) (ready : UInt32 → Bool) (n : ℕ) :
    Stays as (h.pollUntil a ready n : Driver σ μ Bool) := by
  refine (Does.pollUntil a ready n).mono ?_
  rintro x b l y ⟨honly, -, rfl⟩
  exact ⟨honly.mono (List.cons_subset.mpr ⟨ha, List.nil_subset _⟩), rfl⟩

end Stays

/-! ### Attempts -/

/-- When it returns, the attempt has done what `P` says, or has jumped to the way out after
what `F` says. -/
def Tries (m : Attempt σ μ α) (P : μ → α → List Access → μ → Prop)
    (F : μ → List Access → μ → Prop) : Prop :=
  Does (m.run : Driver σ μ (Option α)) fun x r l y =>
    match r with
    | some a => P x a l y
    | none => F x l y

namespace Tries

variable {P : μ → α → List Access → μ → Prop} {F : μ → List Access → μ → Prop}

/-- A part that does not jump. -/
lemma lift {m : Driver σ μ α} (hm : Does m P) :
    Tries (liftM m : Attempt σ μ α) P fun _ _ _ => False := by
  intro s r s' hrun
  obtain ⟨⟨a, s₁⟩, hfirst, hrest⟩ := Option.bind_eq_some_iff.mp hrun
  obtain ⟨rfl, rfl⟩ := Prod.mk.inj (Option.some.inj hrest)
  exact hm s a _ hfirst

/-- The second part is only reached if the first did not jump. -/
lemma bind {m : Attempt σ μ α} {f : α → Attempt σ μ β} {R : α → μ → β → List Access → μ → Prop}
    {G : α → μ → List Access → μ → Prop} (hm : Tries m P F) (hf : ∀ a, Tries (f a) (R a) (G a)) :
    Tries (m >>= f) (fun x b l z => ∃ a l₁ l₂ y, l = l₁ ++ l₂ ∧ P x a l₁ y ∧ R a y b l₂ z)
      fun x l z => F x l z ∨ ∃ a l₁ l₂ y, l = l₁ ++ l₂ ∧ P x a l₁ y ∧ G a y l₂ z := by
  intro s r s' hrun
  obtain ⟨⟨q, s₁⟩, hfirst, hrest⟩ := Option.bind_eq_some_iff.mp hrun
  obtain ⟨l₁, hlog₁, hP⟩ := hm s q s₁ hfirst
  cases q with
  | none =>
    obtain ⟨rfl, rfl⟩ := Prod.mk.inj (Option.some.inj hrest)
    exact ⟨l₁, hlog₁, .inl hP⟩
  | some a =>
    obtain ⟨l₂, hlog₂, hR⟩ := hf a s₁ r s' hrest
    refine ⟨l₁ ++ l₂, by rw [hlog₂, hlog₁, List.append_assoc], ?_⟩
    cases r with
    | none => exact .inr ⟨a, l₁, l₂, s₁.mem, rfl, hP, hR⟩
    | some b => exact ⟨a, l₁, l₂, s₁.mem, rfl, hP, hR⟩

lemma mono {m : Attempt σ μ α} {Q : μ → α → List Access → μ → Prop}
    {G : μ → List Access → μ → Prop} (hm : Tries m P F)
    (hPQ : ∀ x a l y, P x a l y → Q x a l y) (hFG : ∀ x l y, F x l y → G x l y) :
    Tries m Q G := by
  refine Does.mono hm fun x r l y h => ?_
  cases r with
  | none => exact hFG x l y h
  | some a => exact hPQ x a l y h

end Tries

/-! ### Programs that wait for ever -/

/-- The state behind `n` reads of the register. -/
def Hardware.after (h : Hardware σ) (a : ℕ) : ℕ → σ → σ
  | 0, s => s
  | n + 1, s => Hardware.after h a n (h.read a s).2

/-- However often the register is read from here on, it is busy. -/
def Hardware.BusyForEver (h : Hardware σ) (a : ℕ) (busy : UInt32 → Bool) (s : σ) : Prop :=
  ∀ n, busy (h.read a (h.after a n s)).1 = true

/-- From the machine on, the driver gets to a loop that waits for ever, with the register, the
test and the machine that it is entered with of the kind `K`. -/
inductive Stuck (h : Hardware σ) (K : ℕ → (UInt32 → Bool) → Machine σ μ → Prop) :
    {α : Type} → Driver σ μ α → Machine σ μ → Prop
  | loop {a : ℕ} {busy : UInt32 → Bool} {s : Machine σ μ} (hkind : K a busy s)
      (hbusy : h.BusyForEver a busy s.hw) : Stuck h K (h.waitWhile a busy) s
  | first {α β : Type} {m : Driver σ μ α} {f : α → Driver σ μ β} {s : Machine σ μ}
      (hm : Stuck h K m s) : Stuck h K (m >>= f) s
  | rest {α β : Type} {m : Driver σ μ α} {f : α → Driver σ μ β} {s s' : Machine σ μ} {r : α}
      (hrun : m s = some (r, s')) (hf : Stuck h K (f r) s') : Stuck h K (m >>= f) s

lemma bind_none {m : Driver σ μ α} {f : α → Driver σ μ β} {s : Machine σ μ} :
    (m >>= f) s = none ↔ m s = none ∨ ∃ r s', m s = some (r, s') ∧ f r s' = none := by
  rw [show (m >>= f) s = (m s).bind fun p => f p.1 p.2 from rfl]
  cases hm : m s with
  | none => simp
  | some p =>
    refine ⟨fun hrest => .inr ⟨p.1, p.2, rfl, hrest⟩, ?_⟩
    rintro (hnone | ⟨r, s', hp, hrest⟩)
    · exact absurd hnone (Option.some_ne_none p)
    · obtain rfl := Option.some.inj hp
      exact hrest

/-- The loop without a bound does not end exactly if the register is busy for ever. -/
lemma waitWhile_none {a : ℕ} {busy : UInt32 → Bool} {s : Machine σ μ} :
    h.waitWhile a busy s = none ↔ h.BusyForEver a busy s.hw := by
  constructor
  · intro hnone n
    -- the first read shows the register busy, or the loop would have ended
    induction n generalizing s with
    | zero =>
      cases hbusy : busy (h.look a s).1 with
      | true => exact hbusy
      | false =>
        rw [Hardware.waitWhile, hbusy] at hnone
        exact absurd hnone (Option.some_ne_none _)
    | succ n ih =>
      cases hbusy : busy (h.look a s).1 with
      | true =>
        rw [Hardware.waitWhile, hbusy, if_pos rfl] at hnone
        exact ih hnone
      | false =>
        rw [Hardware.waitWhile, hbusy] at hnone
        exact absurd hnone (Option.some_ne_none _)
  · intro hbusy
    have hloop := Hardware.waitWhile.partial_correctness (μ := μ) h a busy
      (fun s _ => ¬ h.BusyForEver a busy s.hw) ?_
    · exact Option.eq_none_iff_forall_ne_some.mpr fun r hr => hloop s r hr hbusy
    intro f ih s r hr hbusy
    rw [if_pos (show busy (h.look a s).1 = true from hbusy 0)] at hr
    exact ih _ r hr fun n => hbusy (n + 1)

variable {K : ℕ → (UInt32 → Bool) → Machine σ μ → Prop}

/-- A driver that is stuck does not return. -/
lemma Stuck.diverges {m : Driver σ μ α} {s : Machine σ μ} (hm : Stuck h K m s) : m s = none := by
  induction hm with
  | loop _ hbusy => exact waitWhile_none.mpr hbusy
  | first _ ih => exact bind_none.mpr (.inl ih)
  | rest hrun _ ih => exact bind_none.mpr (.inr ⟨_, _, hrun, ih⟩)

/-- Unless it is stuck, the driver returns. -/
def Settles (h : Hardware σ) (K : ℕ → (UInt32 → Bool) → Machine σ μ → Prop)
    (m : Driver σ μ α) : Prop :=
  ∀ s, m s = none → Stuck h K m s

namespace Settles

variable {m m' : Driver σ μ α}

lemma of_returns (hm : ∀ s, (m s).isSome) : Settles h K m := by
  intro s hnone
  have hsome := hm s
  rw [hnone] at hsome
  exact absurd hsome Bool.false_ne_true

lemma bind {f : α → Driver σ μ β} (hm : Settles h K m)
    (hf : ∀ a, Settles h K (f a)) : Settles h K (m >>= f) := by
  intro s hnone
  rcases bind_none.mp hnone with hfirst | ⟨r, s', hrun, hrest⟩
  · exact .first (hm s hfirst)
  · exact .rest hrun (hf r s' hrest)

lemma ite {c : Prop} [Decidable c] (hm : Settles h K m)
    (hm' : Settles h K m') : Settles h K (if c then m else m') := by
  split
  · exact hm
  · exact hm'

lemma pure (a : α) : Settles h K (Pure.pure a) := of_returns fun _ => rfl

lemma readl (a : ℕ) : Settles h K (h.readl a) := of_returns fun _ => rfl

lemma writel (v : UInt32) (a : ℕ) : Settles h K (h.writel v a) :=
  of_returns fun _ => rfl

lemma modifyMem (f : μ → μ) : Settles h K (modifyMem f) := of_returns fun _ => rfl

lemma getMem : Settles h K getMem := of_returns fun _ => rfl

lemma pollUntil (a : ℕ) (ready : UInt32 → Bool) (n : ℕ) :
    Settles h K (h.pollUntil a ready n) := by
  induction n with
  | zero => exact pure false
  | succ n ih => exact (readl a).bind fun _ => ite (pure true) ih

/-- A part of an attempt that does not jump. -/
lemma lift (hm : Settles h K m) :
    Settles h K (OptionT.lift m : Attempt σ μ α).run :=
  hm.bind fun _ => pure _

lemma attempt {m : Attempt σ μ α} {f : α → Attempt σ μ β} (hm : Settles h K m.run)
    (hf : ∀ a, Settles h K (f a).run) : Settles h K (m >>= f).run := by
  refine bind hm (f := fun
    | some a => (f a).run
    | none => Pure.pure none) fun q => ?_
  cases q with
  | none => exact pure none
  | some a => exact hf a

end Settles

/-! ### Programs from a state -/

/-- From the state `c` of the hardware and the memory `x`, the driver returns `r` and leaves
`c'` and `y` behind, whatever was accessed before. -/
def Leads (m : Driver σ μ α) (c : σ) (x : μ) (r : α) (c' : σ) (y : μ) : Prop :=
  ∀ l, ∃ l', m ⟨c, l, x⟩ = some (r, ⟨c', l', y⟩)

namespace Leads

variable {m : Driver σ μ α} {c c₁ c₂ : σ} {x y z : μ} {r : α}

lemma pure (a : α) : Leads (Pure.pure a : Driver σ μ α) c x a c x := fun l => ⟨l, rfl⟩

lemma bind {f : α → Driver σ μ β} {q : β} (hm : Leads m c x r c₁ y)
    (hf : Leads (f r) c₁ y q c₂ z) : Leads (m >>= f) c x q c₂ z := by
  intro l
  obtain ⟨l₁, hfirst⟩ := hm l
  obtain ⟨l₂, hrest⟩ := hf l₁
  exact ⟨l₂, Option.bind_eq_some_iff.mpr ⟨_, hfirst, hrest⟩⟩

lemma readl (a : ℕ) : Leads (h.readl a) c x (h.read a c).1 (h.read a c).2 x := fun _ => ⟨_, rfl⟩

lemma writel (v : UInt32) (a : ℕ) : Leads (h.writel v a) c x () (h.write a v c) x :=
  fun _ => ⟨_, rfl⟩

lemma modifyMem (f : μ → μ) : Leads (modifyMem f : Driver σ μ Unit) c x () c (f x) :=
  fun _ => ⟨_, rfl⟩

lemma getMem : Leads (getMem : Driver σ μ μ) c x x c x := fun _ => ⟨_, rfl⟩

/-- The loop ends with its first read. -/
lemma waitWhile {a : ℕ} {busy : UInt32 → Bool} (hfree : busy (h.read a c).1 = false) :
    Leads (h.waitWhile a busy) c x () (h.read a c).2 x := by
  refine fun l => ⟨l ++ [.read a (h.read a c).1], ?_⟩
  rw [Hardware.waitWhile, if_neg]
  · rfl
  · rw [show (h.look a ⟨c, l, x⟩).1 = (h.read a c).1 from rfl, hfree]
    exact Bool.false_ne_true

/-- The register is ready after `k` reads that show it busy. -/
lemma pollUntil {a k n : ℕ} {ready : UInt32 → Bool} (hk : k < n)
    (hbusy : ∀ i < k, ready (h.read a (h.after a i c)).1 = false)
    (hready : ready (h.read a (h.after a k c)).1 = true) :
    Leads (h.pollUntil a ready n) c x true (h.after a (k + 1) c) x := by
  induction n generalizing k c with
  | zero => exact absurd hk (Nat.not_lt_zero k)
  | succ n ih =>
    refine (readl a).bind ?_
    cases k with
    | zero =>
      rw [show ready (h.read a c).1 = true from hready, if_pos rfl]
      exact pure true
    | succ k =>
      rw [show ready (h.read a c).1 = false from hbusy 0 (Nat.succ_pos k),
        if_neg Bool.false_ne_true]
      exact ih (Nat.lt_of_succ_lt_succ hk) (fun i hi => hbusy (i + 1) (Nat.succ_lt_succ hi)) hready

/-- A part of an attempt that does not jump. -/
lemma lift (hm : Leads m c x r c₁ y) :
    Leads (OptionT.lift m : Attempt σ μ α).run c x (some r) c₁ y := hm.bind (pure _)

lemma attempt {m : Attempt σ μ α} {f : α → Attempt σ μ β} {q : Option β}
    (hm : Leads m.run c x (some r) c₁ y) (hf : Leads (f r).run c₁ y q c₂ z) :
    Leads (m >>= f).run c x q c₂ z := by
  intro l
  obtain ⟨l₁, hfirst⟩ := hm l
  obtain ⟨l₂, hrest⟩ := hf l₁
  exact ⟨l₂, Option.bind_eq_some_iff.mpr ⟨_, hfirst, hrest⟩⟩

/-- What follows on a jump is left out. -/
lemma jump {m : Attempt σ μ α} {f : α → Attempt σ μ β} (hm : Leads m.run c x none c₁ y) :
    Leads (m >>= f).run c x none c₁ y := by
  intro l
  obtain ⟨l₁, hfirst⟩ := hm l
  exact ⟨l₁, Option.bind_eq_some_iff.mpr ⟨_, hfirst, rfl⟩⟩

end Leads

end Does

end A733Boot
