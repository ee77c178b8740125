/-
Values of selectors, given by linear ranges.

A range is a run of selectors whose values go up from its base by a fixed step; a table lists
ranges one above the other, with gaps of any width between the values.

* `LinearRange`: the range, with `value` and `top`;
* `RangeTable`: ranges, lowest first, that rise both in selectors and in values;
* `valueOf`: the value of a selector;
* `select`: the first range that reaches a value, and the division rounded up in it;
* `RangeTable.select_isLeast` (**least selector**): the selector of a value in reach is the least
  one of at least this value;
* `RangeTable.value_mono`: a larger selector has a larger value.
-/
import Mathlib.Algebra.Order.Floor.Div
import Mathlib.Order.Bounds.Basic

namespace A733Boot

/-- The selectors from `first` to `last`; that of `first` has the value `base`. -/
structure LinearRange where
  base : ℕ
  first : ℕ
  last : ℕ
  step : ℕ

namespace LinearRange

/-- The value of a selector of the range. -/
def value (r : LinearRange) (s : ℕ) : ℕ := r.base + (s - r.first) * r.step

/-- The value of the last selector. -/
def top (r : LinearRange) : ℕ := r.value r.last

def Has (r : LinearRange) (s : ℕ) : Prop := r.first ≤ s ∧ s ≤ r.last

instance (r : LinearRange) (s : ℕ) : Decidable (r.Has s) :=
  inferInstanceAs (Decidable (_ ∧ _))

/-- There are selectors in the range, of different values. -/
structure Regular (r : LinearRange) : Prop where
  step_pos : 0 < r.step
  first_le : r.first ≤ r.last

/-- The first range lies below the second. -/
def Below (r r' : LinearRange) : Prop := r.last < r'.first ∧ r.top < r'.base

variable {r r' : LinearRange} {s t x : ℕ}

lemma value_mono (r : LinearRange) (h : s ≤ t) : r.value s ≤ r.value t :=
  Nat.add_le_add_left (Nat.mul_le_mul_right _ (Nat.sub_le_sub_right h _)) _

lemma base_le_value (r : LinearRange) (s : ℕ) : r.base ≤ r.value s := Nat.le_add_right _ _

lemma Has.value_le_top (h : r.Has s) : r.value s ≤ r.top := r.value_mono h.2

/-- Of a value within reach, the division rounded up gives a selector of the range. -/
lemma Regular.has_ceilDiv (hr : r.Regular) (hx : x ≤ r.top) :
    r.Has (r.first + (x - r.base) ⌈/⌉ r.step) := by
  have hle : (x - r.base) ⌈/⌉ r.step ≤ r.last - r.first := by
    rw [ceilDiv_le_iff_le_mul hr.step_pos, Nat.mul_comm, Nat.sub_le_iff_le_add']
    exact hx
  have hfirst := hr.first_le
  exact ⟨Nat.le_add_right _ _, by omega⟩

lemma Regular.le_value_ceilDiv (hr : r.Regular) :
    x ≤ r.value (r.first + (x - r.base) ⌈/⌉ r.step) := by
  have hle : x - r.base ≤ r.step * ((x - r.base) ⌈/⌉ r.step) :=
    (ceilDiv_le_iff_le_mul hr.step_pos).mp le_rfl
  rw [value, Nat.add_sub_cancel_left, Nat.mul_comm]
  exact Nat.sub_le_iff_le_add'.mp hle

/-- No smaller selector of the range reaches the value. -/
lemma Regular.ceilDiv_le (hr : r.Regular) (hs : r.Has s) (hx : x ≤ r.value s) :
    r.first + (x - r.base) ⌈/⌉ r.step ≤ s := by
  have hle : (x - r.base) ⌈/⌉ r.step ≤ s - r.first := by
    rw [ceilDiv_le_iff_le_mul hr.step_pos, Nat.mul_comm, Nat.sub_le_iff_le_add']
    exact hx
  have hfirst := hs.1
  omega

end LinearRange

/-- Ranges one above the other. -/
structure RangeTable where
  ranges : List LinearRange
  regular : ∀ r ∈ ranges, r.Regular
  ascending : ranges.Pairwise LinearRange.Below

/-- The value of a selector by the first range that has it. -/
def valueOf (s : ℕ) : List LinearRange → Option ℕ
  | [] => none
  | r :: rs => if r.Has s then some (r.value s) else valueOf s rs

/-- The first range that reaches the value, and the first selector there that does. -/
def select (x : ℕ) : List LinearRange → Option ℕ
  | [] => none
  | r :: rs => if r.top < x then select x rs else some (r.first + (x - r.base) ⌈/⌉ r.step)

section Lists

variable {rs : List LinearRange} {s t u w x : ℕ}

lemma exists_of_valueOf (h : valueOf s rs = some u) : ∃ r ∈ rs, r.Has s ∧ r.value s = u := by
  induction rs with
  | nil => exact absurd h (Option.some_ne_none u).symm
  | cons r rs ih =>
      rw [valueOf] at h
      by_cases hs : r.Has s
      · rw [if_pos hs] at h
        exact ⟨r, List.mem_cons_self, hs, Option.some.inj h⟩
      · rw [if_neg hs] at h
        obtain ⟨r', hr', h'⟩ := ih h
        exact ⟨r', List.mem_cons_of_mem _ hr', h'⟩

/-- Only one range has the selector. -/
lemma valueOf_of_has (hasc : rs.Pairwise LinearRange.Below) {r : LinearRange} (hr : r ∈ rs)
    (hs : r.Has s) : valueOf s rs = some (r.value s) := by
  induction hasc with
  | nil => exact absurd hr List.not_mem_nil
  | @cons r' rs hbelow _ ih =>
      rw [valueOf]
      obtain rfl | hmem := List.mem_cons.mp hr
      · rw [if_pos hs]
      · have hnot : ¬ r'.Has s := fun h => by
          have hlt := (hbelow r hmem).1
          have hfirst := hs.1
          have hlast := h.2
          omega
        rw [if_neg hnot, ih hmem]

/-- In ascending ranges a larger selector has a larger value. -/
lemma valueOf_mono (hasc : rs.Pairwise LinearRange.Below) (hs : valueOf s rs = some u)
    (ht : valueOf t rs = some w) (hst : s ≤ t) : u ≤ w := by
  obtain ⟨r, hr, hsr, rfl⟩ := exists_of_valueOf hs
  obtain ⟨r', hr', htr, rfl⟩ := exists_of_valueOf ht
  -- the range of the one is that of the other, or lies above it, or below it
  have hrel : r = r' ∨ r.Below r' ∨ r'.Below r :=
    List.Pairwise.forall_of_forall_of_flip (R := fun a b => a = b ∨ a.Below b ∨ b.Below a)
      (fun _ _ => .inl rfl) (hasc.imp fun h => .inr (.inl h))
      (hasc.imp fun h => .inr (.inr h)) hr hr'
  obtain rfl | habove | hbelow := hrel
  · exact r.value_mono hst
  · calc r.value s ≤ r.top := hsr.value_le_top
      _ ≤ r'.base := habove.2.le
      _ ≤ r'.value t := r'.base_le_value t
  · have hlt := hbelow.1
    have hlast := htr.2
    have hfirst := hsr.1
    omega

/-- The least selector, along the list: a range that does not reach the value is passed over. -/
lemma select_isLeast (hreg : ∀ r ∈ rs, r.Regular) (hasc : rs.Pairwise LinearRange.Below)
    (hx : ∃ r ∈ rs, x ≤ r.top) :
    ∃ s, select x rs = some s ∧ IsLeast {t | ∃ r ∈ rs, r.Has t ∧ x ≤ r.value t} s := by
  induction hasc with
  | nil =>
      obtain ⟨r, hr, _⟩ := hx
      exact absurd hr List.not_mem_nil
  | @cons r rs hbelow _ ih =>
      rw [select]
      by_cases htop : r.top < x
      · -- no selector of this range has the value
        obtain ⟨r', hr', hx'⟩ := hx
        have hr'' : r' ∈ rs := by
          obtain rfl | hmem := List.mem_cons.mp hr'
          · exact absurd hx' (not_le.mpr htop)
          · exact hmem
        obtain ⟨s, hs, ⟨q, hq, hmem⟩, hleast⟩ :=
          ih (fun a ha => hreg a (List.mem_cons_of_mem _ ha)) ⟨r', hr'', hx'⟩
        rw [if_pos htop]
        refine ⟨s, hs, ⟨q, List.mem_cons_of_mem _ hq, hmem⟩, ?_⟩
        rintro t ⟨p, hp, htp, hval⟩
        obtain rfl | hp' := List.mem_cons.mp hp
        · exact absurd (hval.trans htp.value_le_top) (not_le.mpr htop)
        · exact hleast ⟨p, hp', htp, hval⟩
      · have hr := hreg r List.mem_cons_self
        have hhas := hr.has_ceilDiv (not_lt.mp htop)
        rw [if_neg htop]
        refine ⟨_, rfl, ⟨r, List.mem_cons_self, hhas, hr.le_value_ceilDiv⟩, ?_⟩
        rintro t ⟨p, hp, htp, hval⟩
        obtain rfl | hp' := List.mem_cons.mp hp
        · exact hr.ceilDiv_le htp hval
        · have hlt := (hbelow p hp').1
          have hfirst := htp.1
          have hlast := hhas.2
          omega

end Lists

namespace RangeTable

variable (T : RangeTable) {s t u w x y : ℕ}

/-- The value of a selector of the table. -/
def value (s : ℕ) : Option ℕ := valueOf s T.ranges

/-- All values. -/
def values : Set ℕ := {u | ∃ s, T.value s = some u}

/-- The selectors of at least a value. -/
def reaching (x : ℕ) : Set ℕ := {s | ∃ u, T.value s = some u ∧ x ≤ u}

lemma value_mono (hs : T.value s = some u) (ht : T.value t = some w) (hst : s ≤ t) : u ≤ w :=
  valueOf_mono T.ascending hs ht hst

lemma mem_reaching : s ∈ T.reaching x ↔ ∃ r ∈ T.ranges, r.Has s ∧ x ≤ r.value s := by
  constructor
  · rintro ⟨u, hu, hx⟩
    obtain ⟨r, hr, hs, rfl⟩ := exists_of_valueOf hu
    exact ⟨r, hr, hs, hx⟩
  · rintro ⟨r, hr, hs, hx⟩
    exact ⟨_, valueOf_of_has T.ascending hr hs, hx⟩

/-- **Least selector.** The selector of a value in reach is the least one of at least this
value. -/
theorem select_isLeast (hx : ∃ u ∈ T.values, x ≤ u) :
    ∃ s, select x T.ranges = some s ∧ IsLeast (T.reaching x) s := by
  obtain ⟨u, ⟨s, hs⟩, hxu⟩ := hx
  obtain ⟨r, hr, hhas, rfl⟩ := exists_of_valueOf hs
  obtain ⟨t, ht, hleast⟩ := A733Boot.select_isLeast (x := x) T.regular T.ascending
    ⟨r, hr, hxu.trans hhas.value_le_top⟩
  refine ⟨t, ht, ?_⟩
  rw [show T.reaching x = _ from Set.ext fun _ => T.mem_reaching]
  exact hleast

/-- A larger value has a selector of a larger value. -/
lemma value_mono_of_isLeast (hxy : x ≤ y) (hs : IsLeast (T.reaching x) s)
    (ht : IsLeast (T.reaching y) t) (hu : T.value s = some u) (hw : T.value t = some w) :
    u ≤ w := by
  refine T.value_mono hu hw (hs.2 ?_)
  obtain ⟨v, hv, hy⟩ := ht.1
  exact ⟨v, hv, hxy.trans hy⟩

/-- The first value of the first range is the least of all. -/
lemma isLeast_values {r : LinearRange} {rs : List LinearRange} (h : T.ranges = r :: rs) :
    IsLeast T.values r.base := by
  have hasc := T.ascending
  have hreg := T.regular
  rw [h] at hasc hreg
  have hmem : r ∈ T.ranges := h ▸ List.mem_cons_self
  have hfirst : r.Has r.first := ⟨le_rfl, (hreg r List.mem_cons_self).first_le⟩
  refine ⟨⟨r.first, ?_⟩, ?_⟩
  · rw [value, valueOf_of_has T.ascending hmem hfirst, LinearRange.value, Nat.sub_self,
      Nat.zero_mul, Nat.add_zero]
  · rintro u ⟨s, hs⟩
    obtain ⟨q, hq, hhas, rfl⟩ := exists_of_valueOf hs
    rw [h] at hq
    obtain rfl | hq' := List.mem_cons.mp hq
    · exact q.base_le_value s
    · calc r.base ≤ r.top := r.base_le_value _
        _ ≤ q.base := ((List.pairwise_cons.mp hasc).1 q hq').2.le
        _ ≤ q.value s := q.base_le_value s

/-- The last value of the last range is the greatest of all. -/
lemma isGreatest_values {r : LinearRange} {rs : List LinearRange} (h : T.ranges = rs ++ [r]) :
    IsGreatest T.values r.top := by
  have hasc := T.ascending
  rw [h] at hasc
  have hmem : r ∈ T.ranges := h ▸ List.mem_append_right _ List.mem_cons_self
  have hlast : r.Has r.last := ⟨(T.regular r hmem).first_le, le_rfl⟩
  refine ⟨⟨r.last, valueOf_of_has T.ascending hmem hlast⟩, ?_⟩
  rintro u ⟨s, hs⟩
  obtain ⟨q, hq, hhas, rfl⟩ := exists_of_valueOf hs
  rw [h] at hq
  obtain hq' | hq' := List.mem_append.mp hq
  · calc q.value s ≤ q.top := hhas.value_le_top
      _ ≤ r.base := ((List.pairwise_append.mp hasc).2.2 q hq' r List.mem_cons_self).2.le
      _ ≤ r.top := r.base_le_value _
  · obtain rfl := List.mem_singleton.mp hq'
    exact hhas.value_le_top

end RangeTable

end A733Boot
