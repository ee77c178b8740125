/-
Numerals in a base, most significant digit first.

* `horner`: the number that a list of digits denotes, as a reader accumulates it;
* `IsNumeral`: a list of digits that denotes a number and has no leading zero;
* `numeral`: the numeral of a number, with `numeral_isNumeral` and, for the digits that a
  loop of divisions finds from the last one on, `numeral_of_pos`; `numeral_length_le`.
-/
import Mathlib.Data.Nat.Digits.Defs
import Mathlib.Data.Nat.Digits.Lemmas
import Mathlib.Tactic.Common

namespace A733Boot

/-- The number that the digits denote in base `b`, after the number `n` before them. -/
def horner (b n : ℕ) (digits : List ℕ) : ℕ := digits.foldl (fun n d => n * b + d) n

/-- The digits are the canonical numeral of `n` in base `b`. -/
structure IsNumeral (b n : ℕ) (digits : List ℕ) : Prop where
  lt_base : ∀ d ∈ digits, d < b
  denotes : horner b 0 digits = n
  ne_nil : digits ≠ []
  no_leading_zero : digits.head? = some 0 → digits = [0]

/-- The numeral of `n` in base `b`. -/
def numeral (b n : ℕ) : List ℕ := if n = 0 then [0] else (Nat.digits b n).reverse

@[simp] lemma horner_nil (b n : ℕ) : horner b n [] = n := rfl

@[simp] lemma horner_cons (b n d : ℕ) (digits : List ℕ) :
    horner b n (d :: digits) = horner b (n * b + d) digits := rfl

lemma horner_reverse (b : ℕ) (digits : List ℕ) :
    horner b 0 digits.reverse = Nat.ofDigits b digits := by
  rw [horner, List.foldl_reverse, Nat.ofDigits_eq_foldr]
  refine congrArg (fun f => digits.foldr f 0) (funext₂ fun d n => ?_)
  rw [Nat.cast_id, Nat.mul_comm, Nat.add_comm]

lemma numeral_of_pos (b : ℕ) {n : ℕ} (h : 0 < n) : numeral b n = (Nat.digits b n).reverse :=
  if_neg h.ne'

/-- The numeral of a number below `b ^ k` has at most `k` digits. -/
lemma numeral_length_le {b n k : ℕ} (hb : 1 < b) (hk : 0 < k) (h : n < b ^ k) :
    (numeral b n).length ≤ k := by
  rcases Nat.eq_zero_or_pos n with rfl | hn
  · exact hk
  · rw [numeral_of_pos b hn, List.length_reverse]
    exact (Nat.digits_length_le_iff hb n).mpr h

/-- **Every number has its numeral.** -/
theorem numeral_isNumeral {b : ℕ} (hb : 1 < b) (n : ℕ) : IsNumeral b n (numeral b n) := by
  rcases Nat.eq_zero_or_pos n with rfl | hn
  · rw [numeral, if_pos rfl]
    exact ⟨fun d hd => by rw [List.mem_singleton.mp hd]; omega, by simp,
      List.cons_ne_nil _ _, fun _ => rfl⟩
  · have hne : Nat.digits b n ≠ [] := Nat.digits_ne_nil_iff_ne_zero.mpr hn.ne'
    rw [numeral_of_pos b hn]
    refine ⟨fun d hd => Nat.digits_lt_base hb (List.mem_reverse.mp hd), ?_, ?_, fun hhead => ?_⟩
    · rw [horner_reverse, Nat.ofDigits_digits]
    · exact fun h => hne (List.reverse_eq_nil_iff.mp h)
    · rw [List.head?_reverse, List.getLast?_eq_getLast_of_ne_nil hne] at hhead
      exact absurd (Option.some.inj hhead) (Nat.getLast_digit_ne_zero b hn.ne')

end A733Boot
