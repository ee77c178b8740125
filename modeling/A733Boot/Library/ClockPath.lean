/-
The way of a clock from its oscillator, as rates over the naturals.

* `ClockPath`: a fixed rate, and stages that multiply and divide, each behind a gate;
* `ClockPath.rate`: every stage rounds down, and a closed gate stops the clock;
* `ClockPath.Exact`: no product on the way reaches a bound, and no divisor is zero;
* `ClockPath.Gated`, `rate_of_gated`: behind a closed gate nothing runs;
* `choose`: the parent that a selector picks out of a table;
* `Decodes`: a word is the rate of the path, with nothing lost on the way; `Decodes.stage`,
  `Decodes.choose_cons` and `Decodes.choose_nil` are its rules for machine arithmetic.
-/
import A733Boot.Library.Words

namespace A733Boot

/-- A clock: a fixed rate, or what a stage makes of its parent. -/
inductive ClockPath
  | fixed (rate : ℕ)
  | stage (parent : ClockPath) (on : Bool) (factor divisor : ℕ)

namespace ClockPath

def rate : ClockPath → ℕ
  | fixed r => r
  | stage parent on factor divisor => if on then parent.rate * factor / divisor else 0

/-- Every product is below the bound and every divisor positive. -/
def Exact (bound : ℕ) : ClockPath → Prop
  | fixed r => r < bound
  | stage parent _ factor divisor =>
      parent.Exact bound ∧ parent.rate * factor < bound ∧ 0 < divisor ∧ divisor < bound

/-- A gate on the way is closed. -/
def Gated : ClockPath → Prop
  | fixed _ => False
  | stage parent on _ _ => on = false ∨ parent.Gated

/-- A stage that divides only, and has no gate. -/
def divided (parent : ClockPath) (divisor : ℕ) : ClockPath := stage parent true 1 divisor

/-- The clock that a selector picks; an entry that is missing stands still. -/
def choose (table : List ClockPath) (i : ℕ) : ClockPath := table.getD i (fixed 0)

lemma rate_of_gated {c : ClockPath} (h : c.Gated) : c.rate = 0 := by
  induction c with
  | fixed r => exact False.elim h
  | stage parent on factor divisor ih =>
      obtain rfl | hparent := h
      · rfl
      · rw [rate, ih hparent, Nat.zero_mul, Nat.zero_div, ite_self]

lemma rate_stage_le (parent : ClockPath) (on : Bool) (factor divisor : ℕ) :
    (stage parent on factor divisor).rate ≤ parent.rate * factor := by
  rw [rate]
  cases on with
  | false => exact Nat.zero_le _
  | true => exact Nat.div_le_self _ _

lemma Exact.rate_lt {bound : ℕ} {c : ClockPath} (h : c.Exact bound) : c.rate < bound := by
  cases c with
  | fixed r => exact h
  | stage parent on factor divisor =>
      exact (rate_stage_le parent on factor divisor).trans_lt h.2.1

end ClockPath

open ClockPath

/-- The word is the rate of the path, and 32 bits suffice on the way. -/
structure Decodes (v : UInt32) (c : ClockPath) : Prop where
  rate : v.toNat = c.rate
  exact : c.Exact (2 ^ 32)

/-- A field of a word. -/
def bits (w : UInt32) (shift width : ℕ) : ℕ := w.toNat / 2 ^ shift % 2 ^ width

lemma bits_lt (w : UInt32) (shift width : ℕ) : bits w shift width < 2 ^ width :=
  Nat.mod_lt _ (Nat.two_pow_pos width)

lemma shiftRight_and_bits {m j : UInt32} {shift width : ℕ} (hj : j.toNat % 32 = shift)
    (hm : m.toNat = 2 ^ width - 1) (w : UInt32) :
    (w >>> j &&& m).toNat = bits w shift width := by
  rw [and_toNat hm, UInt32.toNat_shiftRight, hj, Nat.shiftRight_eq_div_pow, bits]

lemma and_bits {m : UInt32} {width : ℕ} (hm : m.toNat = 2 ^ width - 1) (w : UInt32) :
    (w &&& m).toNat = bits w 0 width := by
  rw [and_toNat hm, bits, Nat.pow_zero, Nat.div_one]

namespace Decodes

variable {v x n k : UInt32} {c parent : ClockPath} {cs : List ClockPath}

lemma fixed (v : UInt32) : Decodes v (.fixed v.toNat) := ⟨rfl, v.toNat_lt⟩

/-- A stage in machine arithmetic: the product fits, so the wrapped one is the true one. -/
lemma stage (h : Decodes v parent) (on : Bool) (hprod : parent.rate * n.toNat < 2 ^ 32)
    (hk : 0 < k.toNat) :
    Decodes (if on then v * n / k else 0) (.stage parent on n.toNat k.toNat) := by
  refine ⟨?_, h.exact, hprod, hk, k.toNat_lt⟩
  cases on with
  | false => rfl
  | true =>
      change (v * n / k).toNat = parent.rate * n.toNat / k.toNat
      rw [UInt32.toNat_div, UInt32.toNat_mul, h.rate, Nat.mod_eq_of_lt hprod]

/-- One entry of a table; the others are for larger selectors. -/
lemma choose_cons (j : ℕ) (hj : j < 2 ^ 32) {i : ℕ} (hi : n.toNat = j + i) (hv : Decodes v c)
    (hx : ∀ i, n.toNat = j + 1 + i → Decodes x (choose cs i)) :
    Decodes (if n = UInt32.ofNat j then v else x) (choose (c :: cs) i) := by
  have hofNat : (UInt32.ofNat j).toNat = j := UInt32.toNat_ofNat_of_lt' hj
  cases i with
  | zero =>
      have heq : n = UInt32.ofNat j := UInt32.toNat_inj.mp (by rw [hi, hofNat, Nat.add_zero])
      rw [if_pos heq]
      exact hv
  | succ i =>
      have hne : n ≠ UInt32.ofNat j := by
        intro heq
        rw [heq, hofNat] at hi
        omega
      rw [if_neg hne]
      exact hx i (by omega)

/-- Behind the table there is no clock. -/
lemma choose_nil (i : ℕ) : Decodes 0 (choose [] i) := ⟨rfl, Nat.two_pow_pos 32⟩

/-- The last entry of a table that covers all selectors. -/
lemma choose_last {j i : ℕ} (hn : n.toNat ≤ j) (hi : n.toNat = j + i) (hv : Decodes v c) :
    Decodes v (choose [c] i) := by
  obtain rfl : i = 0 := by omega
  exact hv

end Decodes

end A733Boot
