/-
Memory-mapped registers. A register holds the word last written to it, except for the bits
that the hardware drives: these may read differently at every access.

* `Device`, `Regs`: which bits are driven and what they read as, and the words written;
* `readl`, `writel`: the two accesses, as steps of a program over registers;
* `poll`: the loop that reads a register until it is ready, at most so many times, with
  `poll_eq_true_iff`, `poll_first`, `poll_word`;
* `bind_guard_eq_zero`: a program that goes on only while its steps return zero;
* `Io.Within`, `Io.Keeps`: a program that writes only some of the registers, and one that
  keeps a property of them, with a rule for each way of putting programs together;
* `Io.Alone`: a part of a program that is the only one to write some of the registers;
* `Io.each`, `Io.eachOk`: a program for each entry of a list that owns a register, the second
  up to the first error, with `Io.each_spec` and `Io.eachOk_spec`.
-/
import A733Boot.Library.Words
import Mathlib.Logic.Function.Basic
import Mathlib.Data.Set.Basic

namespace A733Boot

/-! ### Accesses -/

/-- The hardware behind the registers: the bits of each address that it drives, and what
they read as at the `n`-th read. -/
structure Device where
  live : ℕ → UInt32
  sense : ℕ → ℕ → UInt32

/-- The words last written, the number of reads so far, and the writes, oldest first. -/
structure Regs where
  word : ℕ → UInt32
  reads : ℕ
  writes : List (ℕ × UInt32)

/-- A program over the registers. -/
abbrev Io (α : Type) := StateM Regs α

/-- What a read of the address shows. -/
def Device.view (d : Device) (s : Regs) (a : ℕ) : UInt32 :=
  s.word a &&& ~~~(d.live a) ||| d.sense s.reads a &&& d.live a

def readl (d : Device) (a : ℕ) : Io UInt32 := fun s => (d.view s a, { s with reads := s.reads + 1 })

def writel (value : UInt32) (a : ℕ) : Io Unit := fun s =>
  ((), { s with word := Function.update s.word a value, writes := s.writes ++ [(a, value)] })

/-- Read the register until it is `ready`, at most `n` times. -/
def poll (d : Device) (a : ℕ) (ready : UInt32 → Bool) : ℕ → Io Bool
  | 0 => pure false
  | n + 1 => do
      let value ← readl d a
      if ready value then pure true else poll d a ready n

/-! ### Programs -/

section Programs

variable {σ α β : Type}

lemma bind_apply (m : StateM σ α) (f : α → StateM σ β) (s : σ) :
    (m >>= f) s = f (m s).1 (m s).2 := rfl

lemma pure_apply (a : α) (s : σ) : (pure a : StateM σ α) s = (a, s) := rfl

lemma ite_apply' {c : Prop} [Decidable c] (m m' : StateM σ α) (s : σ) :
    (if c then m else m') s = if c then m s else m' s := by
  split <;> rfl

/-- A step that must return zero for the rest to run, and does. -/
lemma bind_checked {m : StateM σ ℤ} {e : ℤ → StateM σ α} {k : StateM σ α} {s : σ}
    (h : (m s).1 = 0) : (m >>= fun r => if r ≠ 0 then e r else k) s = k (m s).2 := by
  rw [bind_apply, ite_apply', if_neg (not_not.mpr h)]

/-- A step that must return zero for the rest to run, where the other way out never does:
if the whole returns zero, so did the step. -/
lemma bind_guard_eq_zero {m e k : StateM σ ℤ} {s : σ} (he : ∀ s, (e s).1 ≠ 0)
    (h : ((m >>= fun r => if r ≠ 0 then e else k) s).1 = 0) :
    ∃ s', m s = (0, s') ∧ (m >>= fun r => if r ≠ 0 then e else k) s = k s' := by
  rw [bind_apply, ite_apply'] at h ⊢
  by_cases hr : (m s).1 = 0
  · rw [if_neg (not_not.mpr hr)]
    exact ⟨(m s).2, Prod.ext hr rfl, rfl⟩
  · rw [if_pos hr] at h
    exact absurd h (he _)

end Programs

@[simp] lemma readl_fst (d : Device) (a : ℕ) (s : Regs) : (readl d a s).1 = d.view s a := rfl

@[simp] lemma readl_word (d : Device) (a : ℕ) (s : Regs) : (readl d a s).2.word = s.word := rfl

@[simp] lemma writel_word (value : UInt32) (a : ℕ) (s : Regs) :
    (writel value a s).2.word = Function.update s.word a value := rfl

/-- A read shows the word, up to the bits that the hardware drives. -/
lemma Device.view_agreeOff (d : Device) (s : Regs) (a : ℕ) :
    AgreeOff (d.live a) (d.view s a) (s.word a) := by
  refine AgreeOff.iff_bit.mpr fun i hi hlive => ?_
  rw [view, bit_or, bit_and, bit_and, bit_not _ hi, hlive, Bool.not_false, Bool.and_true,
    Bool.and_false, Bool.or_false]

/-- A field that the hardware does not drive reads as it was written. -/
lemma Device.view_field (d : Device) {s : Regs} {a : ℕ} {m v : UInt32} (h : Field m v (s.word a))
    (hm : m &&& d.live a = 0) : Field m v (d.view s a) :=
  (d.view_agreeOff s a).field hm h

/-- A register that the hardware leaves alone reads as it was written. -/
lemma Device.view_plain (d : Device) {s : Regs} {a : ℕ} (h : d.live a = 0) :
    d.view s a = s.word a := by
  refine eq_of_bit fun i hi => ?_
  rw [view, h, bit_or, bit_and, bit_and, bit_not _ hi, bit_zero, Bool.not_false, Bool.and_true,
    Bool.and_false, Bool.or_false]

/-- The bits that the hardware drives read as it drives them. -/
lemma Device.view_and_live (d : Device) (s : Regs) (a : ℕ) :
    d.view s a &&& d.live a = d.sense s.reads a &&& d.live a := by
  refine eq_of_bit fun i hi => ?_
  simp only [view, bit_and, bit_or, bit_not _ hi]
  cases bit (s.word a) i <;> cases bit (d.live a) i <;> cases bit (d.sense s.reads a) i <;> rfl

lemma poll_word (d : Device) (a : ℕ) (ready : UInt32 → Bool) (n : ℕ) (s : Regs) :
    (poll d a ready n s).2.word = s.word := by
  induction n generalizing s with
  | zero => rfl
  | succ n ih =>
      rw [poll, bind_apply, ite_apply']
      split
      · rfl
      · exact ih _

/-- A poll succeeds if one of its reads does. -/
lemma poll_eq_true_iff (d : Device) (a : ℕ) (ready : UInt32 → Bool) (n : ℕ) (s : Regs) :
    (poll d a ready n s).1 = true ↔
      ∃ k < n, ready (d.view { s with reads := s.reads + k } a) = true := by
  induction n generalizing s with
  | zero => exact ⟨fun h => Bool.noConfusion h, fun ⟨k, hk, _⟩ => absurd hk (Nat.not_lt_zero k)⟩
  | succ n ih =>
      rw [poll, bind_apply, ite_apply', readl_fst]
      by_cases h : ready (d.view s a) = true
      · rw [if_pos h]
        exact ⟨fun _ => ⟨0, Nat.succ_pos n, h⟩, fun _ => rfl⟩
      · rw [if_neg h, ih]
        constructor
        · rintro ⟨k, hk, hready⟩
          refine ⟨k + 1, Nat.succ_lt_succ hk, ?_⟩
          rw [show s.reads + (k + 1) = s.reads + 1 + k by omega]
          exact hready
        · rintro ⟨k, hk, hready⟩
          cases k with
          | zero => exact absurd hready h
          | succ k =>
              refine ⟨k, Nat.lt_of_succ_lt_succ hk, ?_⟩
              rw [show s.reads + (k + 1) = s.reads + 1 + k by omega] at hready
              exact hready

/-- A poll ends with the first of its reads that is ready. -/
lemma poll_first {d : Device} {a : ℕ} {ready : UInt32 → Bool} {k n : ℕ} {s : Regs} (hk : k < n)
    (hbefore : ∀ j < k, ready (d.view { s with reads := s.reads + j } a) = false)
    (h : ready (d.view { s with reads := s.reads + k } a) = true) :
    poll d a ready n s = (true, { s with reads := s.reads + k + 1 }) := by
  obtain ⟨w, r, l⟩ := s
  induction k generalizing n r with
  | zero =>
      obtain ⟨n, rfl⟩ := Nat.exists_eq_add_of_lt hk
      have hready : ready (d.view ⟨w, r, l⟩ a) = true := h
      rw [poll, bind_apply, ite_apply', readl_fst, if_pos hready]
      rfl
  | succ k ih =>
      cases n with
      | zero => exact absurd hk (Nat.not_lt_zero _)
      | succ n =>
          have hnot : ready (d.view ⟨w, r, l⟩ a) = false := hbefore 0 (Nat.succ_pos k)
          have hrest : poll d a ready n ⟨w, r + 1, l⟩ = (true, ⟨w, r + 1 + k + 1, l⟩) := by
            refine ih (Nat.lt_of_succ_lt_succ hk) (r + 1) (fun j hj => ?_) ?_
            · have hlater := hbefore (j + 1) (Nat.succ_lt_succ hj)
              rwa [Nat.add_comm j 1, ← Nat.add_assoc] at hlater
            · rwa [Nat.add_comm k 1, ← Nat.add_assoc] at h
          rw [poll, bind_apply, ite_apply', readl_fst, if_neg (Bool.eq_false_iff.mp hnot)]
          rw [Nat.add_right_comm r 1 k] at hrest
          exact hrest

/-! ### Which registers a program writes -/

/-- The program writes only registers of the set. -/
def Io.Within {α : Type} (A : Set ℕ) (m : Io α) : Prop := ∀ s, ∀ a ∉ A, (m s).2.word a = s.word a

namespace Io.Within

variable {α β : Type} {A B : Set ℕ} {m m' : Io α}

lemma pure (A : Set ℕ) (x : α) : Io.Within A (Pure.pure x : Io α) := fun _ _ _ => rfl

lemma readl (A : Set ℕ) (d : Device) (a : ℕ) : Io.Within A (A733Boot.readl d a) := fun _ _ _ => rfl

lemma writel (value : UInt32) {a : ℕ} (ha : a ∈ A) : Io.Within A (A733Boot.writel value a) := by
  intro s b hb
  have hne : b ≠ a := by
    rintro rfl
    exact hb ha
  exact Function.update_of_ne hne value s.word

lemma bind {f : α → Io β} (h : Io.Within A m) (hf : ∀ x, Io.Within A (f x)) :
    Io.Within A (m >>= f) := by
  intro s a ha
  exact (hf _ _ a ha).trans (h s a ha)

lemma ite {c : Prop} [Decidable c] (h : Io.Within A m) (h' : Io.Within A m') :
    Io.Within A (if c then m else m') := by
  split
  · exact h
  · exact h'

lemma word (h : Io.Within A m) {s s' : Regs} {x : α} (hs : m s = (x, s')) :
    ∀ a ∉ A, s'.word a = s.word a := by
  intro a ha
  rw [← h s a ha, hs]

/-- Registers that are not in the list are as they were. -/
lemma word_of_apart {l l' : List ℕ} (h : Io.Within {a | a ∈ l} m) {s s' : Regs} {x : α}
    (hs : m s = (x, s')) (hl : ∀ a ∈ l', a ∉ l) : ∀ a ∈ l', s'.word a = s.word a :=
  fun a ha => h.word hs a (hl a ha)

lemma mono (h : Io.Within A m) (hAB : A ⊆ B) : Io.Within B m :=
  fun s a ha => h s a fun hA => ha (hAB hA)

lemma poll (A : Set ℕ) (d : Device) (a : ℕ) (ready : UInt32 → Bool) (n : ℕ) :
    Io.Within A (A733Boot.poll d a ready n) := by
  intro s b _
  rw [poll_word]

end Io.Within

/-- The program keeps the property of the words. -/
def Io.Keeps {α : Type} (P : (ℕ → UInt32) → Prop) (m : Io α) : Prop :=
  ∀ s, P s.word → P (m s).2.word

namespace Io.Keeps

variable {α β : Type} {P : (ℕ → UInt32) → Prop} {m m' : Io α}

lemma pure (x : α) : Io.Keeps P (Pure.pure x : Io α) := fun _ h => h

lemma bind {f : α → Io β} (h : Io.Keeps P m) (hf : ∀ x, Io.Keeps P (f x)) :
    Io.Keeps P (m >>= f) :=
  fun s hs => hf _ _ (h s hs)

lemma ite {c : Prop} [Decidable c] (h : Io.Keeps P m) (h' : Io.Keeps P m') :
    Io.Keeps P (if c then m else m') := by
  split
  · exact h
  · exact h'

/-- A property of registers that the program does not write. -/
lemma of_within {A : Set ℕ} (h : Io.Within A m)
    (hP : ∀ w w' : ℕ → UInt32, (∀ a ∉ A, w' a = w a) → P w → P w') : Io.Keeps P m :=
  fun s hs => hP _ _ (h s) hs

end Io.Keeps

/-- Between `s` and `s'` the program ran once and returned `r`, and nothing else wrote the
registers of the list. -/
def Io.Alone {α : Type} (l : List ℕ) (m : Io α) (s : Regs) (r : α) (s' : Regs) : Prop :=
  ∃ t : Regs, (∀ a ∈ l, t.word a = s.word a) ∧ (m t).1 = r ∧ ∀ a ∈ l, s'.word a = (m t).2.word a

lemma Io.Alone.of_run {α : Type} {l : List ℕ} {m : Io α} {s t t' s' : Regs} {r : α}
    (hrun : m t = (r, t')) (hbefore : ∀ a ∈ l, t.word a = s.word a)
    (hafter : ∀ a ∈ l, s'.word a = t'.word a) : Io.Alone l m s r s' := by
  refine ⟨t, hbefore, ?_, fun a ha => ?_⟩
  · rw [hrun]
  · rw [hafter a ha, hrun]

/-! ### A program for each entry of a list -/

/-- Run the program for each entry in turn, and collect the results. -/
def Io.each {β γ : Type} (f : β → Io γ) : List β → Io (List γ)
  | [] => pure []
  | b :: l => do
      let c ← f b
      let cs ← each f l
      pure (c :: cs)

section Each

variable {β γ : Type} {f : β → Io γ} {addr : β → ℕ} {addr' : γ → ℕ}

lemma Io.each_within (hw : ∀ b, Io.Within {addr b} (f b)) (l : List β) :
    Io.Within {a | a ∈ l.map addr} (Io.each f l) := by
  induction l with
  | nil => exact .pure _ _
  | cons b l ih =>
      refine .bind ((hw b).mono ?_) fun _ => .bind (ih.mono ?_) fun _ => .pure _ _
      · rintro a rfl
        exact List.mem_cons_self
      · exact fun a ha => List.mem_cons_of_mem _ ha

/-- Each entry writes its own register only, and no two have the same one: what the program
makes of an entry and its word, the loop makes of all of them. -/
lemma Io.each_spec {P : β → UInt32 → Prop} {Q : γ → UInt32 → Prop}
    (hf : ∀ b s, P b (s.word (addr b)) →
      addr' (f b s).1 = addr b ∧ Q (f b s).1 ((f b s).2.word (addr b)))
    (hw : ∀ b, Io.Within {addr b} (f b)) {l : List β} (hl : (l.map addr).Nodup) (s : Regs)
    (hpre : ∀ b ∈ l, P b (s.word (addr b))) :
    (Io.each f l s).1.map addr' = l.map addr ∧
    ∀ c ∈ (Io.each f l s).1, Q c ((Io.each f l s).2.word (addr' c)) := by
  induction l generalizing s with
  | nil => exact ⟨rfl, fun c hc => absurd hc List.not_mem_nil⟩
  | cons b l ih =>
      rw [List.map_cons, List.nodup_cons] at hl
      obtain ⟨haddr, hpost⟩ := hf b s (hpre b List.mem_cons_self)
      have hother : ∀ c ∈ l, (f b s).2.word (addr c) = s.word (addr c) := by
        intro c hc
        refine hw b s (addr c) fun heq => hl.1 ?_
        rw [← Set.mem_singleton_iff.mp heq]
        exact List.mem_map_of_mem hc
      obtain ⟨hmap, hrest⟩ := ih hl.2 (f b s).2 fun c hc => by
        rw [hother c hc]
        exact hpre c (List.mem_cons_of_mem _ hc)
      have hown : (Io.each f l (f b s).2).2.word (addr b) = (f b s).2.word (addr b) :=
        Io.each_within hw l _ _ hl.1
      simp only [Io.each, bind_apply, pure_apply, List.map_cons, hmap, haddr, List.mem_cons]
      refine ⟨trivial, ?_⟩
      rintro c (rfl | hc)
      · rw [haddr, hown]
        exact hpost
      · exact hrest c hc

end Each

/-- Run the program for each entry in turn, up to the first that does not return zero. -/
def Io.eachOk {β : Type} (f : β → Io ℤ) : List β → Io ℤ
  | [] => pure 0
  | b :: l => do
      let ret ← f b
      if ret ≠ 0 then pure ret else eachOk f l

section EachOk

variable {β : Type} {f : β → Io ℤ} {addr : β → ℕ}

lemma Io.eachOk_within (hw : ∀ b, Io.Within {addr b} (f b)) (l : List β) :
    Io.Within {a | a ∈ l.map addr} (Io.eachOk f l) := by
  induction l with
  | nil => exact .pure _ _
  | cons b l ih =>
      refine .bind ((hw b).mono ?_) fun _ => .ite (.pure _ _) (ih.mono ?_)
      · rintro a rfl
        exact List.mem_cons_self
      · exact fun a ha => List.mem_cons_of_mem _ ha

/-- What every entry returns, the loop returns. -/
lemma Io.eachOk_fst {P : ℤ → Prop} (hf : ∀ b s, P (f b s).1) (h0 : P 0) (l : List β) (s : Regs) :
    P (Io.eachOk f l s).1 := by
  induction l generalizing s with
  | nil => exact h0
  | cons b l ih =>
      rw [Io.eachOk, bind_apply, ite_apply']
      split
      · exact hf b s
      · exact ih _

/-- Each entry writes its own register only: if the loop succeeds, every entry has. -/
lemma Io.eachOk_spec {P Q : β → UInt32 → Prop}
    (hf : ∀ b s, P b (s.word (addr b)) → (f b s).1 = 0 → Q b ((f b s).2.word (addr b)))
    (hw : ∀ b, Io.Within {addr b} (f b)) {l : List β} (hl : (l.map addr).Nodup) (s : Regs)
    (hpre : ∀ b ∈ l, P b (s.word (addr b))) (hok : (Io.eachOk f l s).1 = 0) :
    ∀ b ∈ l, Q b ((Io.eachOk f l s).2.word (addr b)) := by
  induction l generalizing s with
  | nil => exact fun b hb => absurd hb List.not_mem_nil
  | cons b l ih =>
      rw [List.map_cons, List.nodup_cons] at hl
      rw [Io.eachOk] at hok ⊢
      obtain ⟨s', hs', hrest⟩ : ∃ s', f b s = (0, s') ∧
          (Io.eachOk f (b :: l) s) = Io.eachOk f l s' := by
        by_cases hret : (f b s).1 = 0
        · exact ⟨(f b s).2, Prod.ext hret rfl, bind_checked hret⟩
        · rw [bind_apply, ite_apply', if_pos hret] at hok
          exact absurd hok hret
      rw [Io.eachOk] at hrest
      rw [hrest] at hok ⊢
      have hother : ∀ c ∈ l, s'.word (addr c) = s.word (addr c) := by
        intro c hc
        refine (hw b).word hs' (addr c) fun heq => hl.1 ?_
        rw [← Set.mem_singleton_iff.mp heq]
        exact List.mem_map_of_mem hc
      intro c hc
      obtain rfl | hc := List.mem_cons.mp hc
      · rw [Io.eachOk_within hw l s' _ hl.1]
        have hown := hf c s (hpre c List.mem_cons_self)
        rw [hs'] at hown
        exact hown rfl
      · refine ih hl.2 s' (fun c hc => ?_) hok c hc
        rw [hother c hc]
        exact hpre c (List.mem_cons_of_mem _ hc)

end EachOk

end A733Boot
