/-
Reflected cyclic redundancy checks of 32 bits.

* `step`: the register moves down by one place, and takes the polynomial in where a one
  falls out; `step_xor`: linear in exclusive or; `step_injective`: a polynomial with its
  top bit set loses nothing;
* `byte`, `update`, `crc32`: the checksum of a list of bytes, the standard way;
* `word`, `words`: four bytes at once; `words_eq_update`: that is the checksum of their
  bytes, the least significant first;
* `words_ne`: a change in one word of the data shows in the register.
-/
import A733Boot.Library.Words
import Mathlib.Logic.Function.Iterate

namespace A733Boot.Crc

variable {poly : UInt32}

/-! ### The register -/

/-- The register moves down by one place. -/
def step (poly c : UInt32) : UInt32 :=
  if c &&& 1 = 1 then c >>> 1 ^^^ poly else c >>> 1

lemma and_one (c : UInt32) : c &&& 1 = if bit c 0 then 1 else 0 := by
  refine eq_of_bit fun i _ => ?_
  rw [bit_and, bit_one]
  cases hc : bit c 0 with
  | false =>
      rw [if_neg Bool.false_ne_true, bit_zero]
      by_cases hi : i = 0
      · rw [hi, hc, Bool.false_and]
      · rw [decide_eq_false hi, Bool.and_false]
  | true =>
      rw [if_pos rfl, bit_one]
      by_cases hi : i = 0
      · rw [hi, hc, Bool.true_and]
      · rw [decide_eq_false hi, Bool.and_false]

lemma step_eq (poly c : UInt32) : step poly c = c >>> 1 ^^^ (if bit c 0 then poly else 0) := by
  rw [step, and_one]
  cases bit c 0 with
  | false => simp
  | true => simp

lemma bit_step (poly c : UInt32) (i : ℕ) :
    bit (step poly c) i = (bit c (1 + i) ^^ (bit c 0 && bit poly i)) := by
  have hshift : bit (c >>> 1) i = bit c (1 + i) := bit_shiftRight c (by decide : 1 < 32) i
  rw [step_eq, bit_xor, hshift]
  cases bit c 0 with
  | false => rw [if_neg Bool.false_ne_true, bit_zero, Bool.false_and]
  | true => rw [if_pos rfl, Bool.true_and]

/-- A step is linear in exclusive or. -/
lemma step_xor (poly c d : UInt32) : step poly (c ^^^ d) = step poly c ^^^ step poly d := by
  refine eq_of_bit fun i _ => ?_
  simp only [bit_step, bit_xor]
  cases bit c 0 <;> cases bit d 0 <;> cases bit poly i <;> cases bit c (1 + i) <;>
    cases bit d (1 + i) <;> rfl

/-- A polynomial with its top bit set loses nothing: the top bit tells what fell out. -/
lemma step_injective (hpoly : bit poly 31 = true) : Function.Injective (step poly) := by
  intro c d h
  have hbits : ∀ i, (bit c (1 + i) ^^ (bit c 0 && bit poly i))
      = (bit d (1 + i) ^^ (bit d 0 && bit poly i)) := by
    intro i
    rw [← bit_step, ← bit_step, h]
  have hlow : bit c 0 = bit d 0 := by
    have htop := hbits 31
    rwa [hpoly, bit_of_le c (by decide), bit_of_le d (by decide), Bool.and_true, Bool.and_true,
      Bool.false_xor, Bool.false_xor] at htop
  refine eq_of_bit fun i _ => ?_
  cases i with
  | zero => exact hlow
  | succ i =>
      have hi := hbits i
      rw [hlow, Nat.add_comm 1 i] at hi
      exact Bool.xor_left_inj.mp hi

/-- The register after `n` steps. -/
def steps (poly : UInt32) (n : ℕ) (c : UInt32) : UInt32 := (step poly)^[n] c

lemma steps_add (poly : UInt32) (m n : ℕ) (c : UInt32) :
    steps poly (m + n) c = steps poly m (steps poly n c) :=
  Function.iterate_add_apply _ m n c

lemma steps_xor (poly : UInt32) (n : ℕ) (c d : UInt32) :
    steps poly n (c ^^^ d) = steps poly n c ^^^ steps poly n d := by
  induction n generalizing c d with
  | zero => rfl
  | succ n ih =>
      simp only [steps, Function.iterate_succ_apply, step_xor] at ih ⊢
      exact ih _ _

lemma steps_injective (hpoly : bit poly 31 = true) (n : ℕ) :
    Function.Injective (steps poly n) :=
  (step_injective hpoly).iterate n

/-- Where only zeros fall out, the register moves down and nothing else. -/
lemma bit_steps_of_low {n : ℕ} {c : UInt32} (h : ∀ i < n, bit c i = false) (i : ℕ) :
    bit (steps poly n c) i = bit c (n + i) := by
  induction n generalizing c i with
  | zero => rw [Nat.zero_add]; rfl
  | succ n ih =>
      have hlow : bit c 0 = false := h 0 (Nat.succ_pos n)
      have hnext : ∀ j, bit (step poly c) j = bit c (1 + j) := by
        intro j
        rw [bit_step, hlow, Bool.false_and, Bool.xor_false]
      have hrest : ∀ j < n, bit (step poly c) j = false := by
        intro j hj
        rw [hnext]
        exact h (1 + j) (by omega)
      have hmoved := ih hrest i
      rw [steps, Function.iterate_succ_apply]
      rw [steps] at hmoved
      rw [hmoved, hnext, Nat.add_right_comm, Nat.add_comm 1, Nat.add_right_comm]

/-! ### Bytes -/

/-- The register takes a byte in. -/
def byte (poly c : UInt32) (b : UInt8) : UInt32 := steps poly 8 (c ^^^ b.toUInt32)

/-- The register takes the bytes of a list in. -/
def update (poly c : UInt32) (l : List UInt8) : UInt32 := l.foldl (byte poly) c

/-- The CRC-32 of a list of bytes: the polynomial `0xedb88320`, and all ones at the start
and in the exclusive or at the end. -/
def crc32 (l : List UInt8) : UInt32 := update 0xedb88320 0xffffffff l ^^^ 0xffffffff

/-- The check value: the nine digits. -/
example : crc32 [0x31, 0x32, 0x33, 0x34, 0x35, 0x36, 0x37, 0x38, 0x39] = 0xcbf43926 := by
  decide +kernel

/-! ### Words -/

/-- The bytes of a word, the least significant first. -/
def leBytes (w : UInt32) : List UInt8 :=
  [w.toUInt8, (w >>> 8).toUInt8, (w >>> 16).toUInt8, (w >>> 24).toUInt8]

/-- The register takes four bytes in at once. -/
def word (poly c w : UInt32) : UInt32 := steps poly 32 (c ^^^ w)

/-- The register takes the words of a list in. -/
def words (poly c : UInt32) (l : List UInt32) : UInt32 := l.foldl (word poly) c

/-- Eight steps take the low byte in, and leave the others to be taken in later. -/
lemma steps_eight (poly c w : UInt32) :
    steps poly 8 (c ^^^ w) = byte poly c w.toUInt8 ^^^ w >>> 8 := by
  have hlow : ∀ i, bit w.toUInt8.toUInt32 i = (decide (i < 8) && bit w i) := fun i =>
    bit_toUInt8 w i
  have hsplit : c ^^^ w = c ^^^ w.toUInt8.toUInt32 ^^^ (w.toUInt8.toUInt32 ^^^ w) := by
    refine eq_of_bit fun i _ => ?_
    simp only [bit_xor]
    cases bit c i <;> cases bit w i <;> cases bit w.toUInt8.toUInt32 i <;> rfl
  have hclear : ∀ i < 8, bit (w.toUInt8.toUInt32 ^^^ w) i = false := by
    intro i hi
    rw [bit_xor, hlow, decide_eq_true hi, Bool.true_and, Bool.xor_self]
  have hmoved : steps poly 8 (w.toUInt8.toUInt32 ^^^ w) = w >>> 8 := by
    refine eq_of_bit fun i _ => ?_
    have hshift : bit (w >>> 8) i = bit w (8 + i) := bit_shiftRight w (by decide : 8 < 32) i
    rw [bit_steps_of_low hclear, bit_xor, hlow, decide_eq_false (by omega), Bool.false_and,
      Bool.false_xor, hshift]
  rw [hsplit, steps_xor, hmoved]
  rfl

lemma shiftRight_eight {j k : ℕ} (w : UInt32) (hj : j < 32) (hk : k = 8 + j) (hlt : k < 32) :
    w >>> UInt32.ofNat j >>> 8 = w >>> UInt32.ofNat k := by
  refine eq_of_bit fun i _ => ?_
  have hshift := bit_shiftRight (w >>> UInt32.ofNat j) (by decide : 8 < 32) i
  rw [show (8 : UInt32) = UInt32.ofNat 8 from rfl, hshift, bit_shiftRight w hj,
    bit_shiftRight w hlt, hk, Nat.add_left_comm, Nat.add_assoc]

/-- Nothing is left of a word after its four bytes. -/
lemma shiftRight_last (w : UInt32) : w >>> 24 >>> 8 = 0 := by
  refine eq_of_bit fun i _ => ?_
  have hshift : bit (w >>> 24 >>> 8) i = bit (w >>> 24) (8 + i) :=
    bit_shiftRight (w >>> 24) (by decide : 8 < 32) i
  have hshift' : bit (w >>> 24) (8 + i) = bit w (24 + (8 + i)) :=
    bit_shiftRight w (by decide : 24 < 32) (8 + i)
  rw [hshift, hshift', bit_of_le w (by omega), bit_zero]

/-- A word is its four bytes, the least significant first. -/
lemma word_eq_update (poly c w : UInt32) : word poly c w = update poly c (leBytes w) := by
  have h₁ : w >>> 8 >>> 8 = w >>> 16 :=
    shiftRight_eight (j := 8) (k := 16) w (by decide) (by decide) (by decide)
  have h₂ : w >>> 16 >>> 8 = w >>> 24 :=
    shiftRight_eight (j := 16) (k := 24) w (by decide) (by decide) (by decide)
  have hsteps : word poly c w
      = steps poly 8 (steps poly 8 (steps poly 8 (steps poly 8 (c ^^^ w)))) := by
    rw [← steps_add, ← steps_add, ← steps_add]
    rfl
  calc word poly c w
      = steps poly 8 (steps poly 8 (steps poly 8 (steps poly 8 (c ^^^ w)))) := hsteps
    _ = update poly c (leBytes w) ^^^ w >>> 24 >>> 8 := by
        simp only [steps_eight, h₁, h₂, update, leBytes, List.foldl_cons, List.foldl_nil]
    _ = update poly c (leBytes w) := by rw [shiftRight_last, UInt32.xor_zero]

/-- Words are their bytes. -/
lemma words_eq_update (poly c : UInt32) (l : List UInt32) :
    words poly c l = update poly c (l.flatMap leBytes) := by
  induction l generalizing c with
  | nil => rfl
  | cons w l ih =>
      calc words poly c (w :: l)
          = words poly (word poly c w) l := rfl
        _ = update poly (update poly c (leBytes w)) (l.flatMap leBytes) := by
            rw [ih, word_eq_update]
        _ = update poly c ((w :: l).flatMap leBytes) := by
            rw [update, update, update, List.flatMap_cons, List.foldl_append]

/-! ### What shows in the register -/

lemma word_injective (hpoly : bit poly 31 = true) (c : UInt32) :
    Function.Injective (word poly c) :=
  fun _ _ h => UInt32.xor_right_inj c |>.mp (steps_injective hpoly 32 h)

/-- Two registers that differ still do after the same data. -/
lemma words_injective (hpoly : bit poly 31 = true) (l : List UInt32) :
    Function.Injective fun c => words poly c l := by
  induction l with
  | nil => exact fun _ _ h => h
  | cons w l ih =>
      intro c d h
      have hword : word poly c w = word poly d w := ih h
      exact UInt32.xor_left_inj w |>.mp (steps_injective hpoly 32 hword)

/-- A change in one word shows, whatever comes before and after it. -/
lemma words_ne (hpoly : bit poly 31 = true) (c : UInt32) (l l' : List UInt32) {w w' : UInt32}
    (h : w ≠ w') : words poly c (l ++ w :: l') ≠ words poly c (l ++ w' :: l') := by
  intro heq
  simp only [words, List.foldl_append, List.foldl_cons] at heq
  exact h (word_injective hpoly _ (words_injective hpoly l' heq))

end A733Boot.Crc
