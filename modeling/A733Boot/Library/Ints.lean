/-
The 32-bit integers of C: conversions to `unsigned int` and to `int`, and the rounding up
that aligns an offset.

* `u32`, `i32`: an exact result reduced to the type it is stored in, with the values that
  already fit (`u32_eq`, `i32_eq`) and the reductions that cancel (`u32_add_i32`);
* `alignUp`: the least multiple of a word's size that is not smaller, as the masked sum
  computes it.
-/
import Mathlib.Tactic

namespace A733Boot

/-- The value as an `unsigned int`. -/
def u32 (x : ℤ) : ℕ := (x % 2 ^ 32).toNat

/-- The value as an `int`. -/
def i32 (x : ℤ) : ℤ := if x % 2 ^ 32 < 2 ^ 31 then x % 2 ^ 32 else x % 2 ^ 32 - 2 ^ 32

lemma u32_eq {x : ℤ} {n : ℕ} (h : x = n) (hn : n < 2 ^ 32) : u32 x = n := by
  subst h
  simp only [u32]
  omega

lemma i32_eq {x : ℤ} (hlow : -2 ^ 31 ≤ x) (hhigh : x < 2 ^ 31) : i32 x = x := by
  simp only [i32]
  split <;> omega

/-- Going through the signed type loses nothing that the unsigned one keeps. -/
lemma u32_add_i32 (x y : ℤ) : u32 (x + i32 y) = u32 (x + y) := by
  simp only [u32, i32]
  split <;> omega

/-- Rounded up to a multiple of four. -/
def alignUp (n : ℕ) : ℕ := (n + 3) / 4 * 4

lemma alignUp_mod (n : ℕ) : alignUp n % 4 = 0 := by
  simp only [alignUp]
  omega

lemma le_alignUp (n : ℕ) : n ≤ alignUp n ∧ alignUp n < n + 4 := by
  simp only [alignUp]
  omega

lemma alignUp_add {o : ℕ} (h : o % 4 = 0) (n : ℕ) : alignUp (o + n) = o + alignUp n := by
  simp only [alignUp]
  omega

end A733Boot
