/-
Words of 32 bits as sets of bits, and the fields that masks cut out of them.

* `bit`: a bit of a word, with the bit of every operation on words;
* `shiftRight_and_one`, `bit_or_shiftLeft_one`, `bit_and_not_shiftLeft_one`: testing,
  setting and clearing one bit, as a program does it;
* `set_and_mask`, `shiftRight_and_of_mask`: a field that was set reads back, and only the
  mask of a word decides what a field of it reads as;
* `toUInt8_shiftLeft`: a field that is saved in a byte;
* `Field`: the value of the bits under a mask, and what keeps it;
* `AgreeOff`: two words that differ inside a mask only, an equivalence that clearing and
  setting inside the mask respects.
-/
import Mathlib.Data.UInt
import Mathlib.Tactic.Common

namespace A733Boot

/-! ### Bits -/

/-- Bit `i` of a word. -/
def bit (w : UInt32) (i : ℕ) : Bool := w.toBitVec.getLsbD i

lemma eq_of_bit {v w : UInt32} (h : ∀ i < 32, bit v i = bit w i) : v = w :=
  UInt32.toBitVec_inj.mp (BitVec.eq_of_getLsbD_eq fun i hi => h i hi)

lemma bit_of_le (w : UInt32) {i : ℕ} (h : 32 ≤ i) : bit w i = false :=
  BitVec.getLsbD_of_ge _ i h

@[simp] lemma bit_zero (i : ℕ) : bit 0 i = false := BitVec.getLsbD_zero

@[simp] lemma bit_and (v w : UInt32) (i : ℕ) : bit (v &&& w) i = (bit v i && bit w i) := by
  rw [bit, UInt32.toBitVec_and, BitVec.getLsbD_and]
  rfl

@[simp] lemma bit_or (v w : UInt32) (i : ℕ) : bit (v ||| w) i = (bit v i || bit w i) := by
  rw [bit, UInt32.toBitVec_or, BitVec.getLsbD_or]
  rfl

@[simp] lemma bit_xor (v w : UInt32) (i : ℕ) : bit (v ^^^ w) i = (bit v i ^^ bit w i) := by
  rw [bit, UInt32.toBitVec_xor, BitVec.getLsbD_xor]
  rfl

lemma bit_not (w : UInt32) {i : ℕ} (h : i < 32) : bit (~~~w) i = !bit w i := by
  rw [bit, UInt32.toBitVec_not, BitVec.getLsbD_not, decide_eq_true h, Bool.true_and]
  rfl

lemma toNat_ofNat {k : ℕ} (h : k < 32) : (UInt32.ofNat k).toNat = k := by
  rw [UInt32.toNat_ofNat', Nat.mod_eq_of_lt (by omega)]

lemma bit_shiftRight (w : UInt32) {k : ℕ} (hk : k < 32) (i : ℕ) :
    bit (w >>> UInt32.ofNat k) i = bit w (k + i) := by
  rw [bit, bit, UInt32.toBitVec_shiftRight, BitVec.ushiftRight_eq', BitVec.getLsbD_ushiftRight,
    BitVec.toNat_umod]
  simp only [UInt32.toNat_toBitVec, toNat_ofNat hk]
  rw [show (32 : BitVec 32).toNat = 32 from rfl, Nat.mod_eq_of_lt hk]

lemma bit_shiftLeft (w : UInt32) {k : ℕ} (hk : k < 32) {i : ℕ} (hi : i < 32) :
    bit (w <<< UInt32.ofNat k) i = (decide (k ≤ i) && bit w (i - k)) := by
  rw [bit, bit, UInt32.toBitVec_shiftLeft, BitVec.shiftLeft_eq', BitVec.getLsbD_shiftLeft,
    BitVec.toNat_umod]
  simp only [UInt32.toNat_toBitVec, toNat_ofNat hk]
  rw [show (32 : BitVec 32).toNat = 32 from rfl, Nat.mod_eq_of_lt hk, decide_eq_true hi,
    Bool.true_and]
  by_cases h : k ≤ i
  · rw [decide_eq_true h, decide_eq_false (Nat.not_lt.mpr h)]
    rfl
  · rw [decide_eq_false h, decide_eq_true (Nat.lt_of_not_le h)]
    rfl

lemma bit_one (i : ℕ) : bit 1 i = decide (i = 0) := by
  rw [bit, show UInt32.toBitVec 1 = 1#32 from rfl, BitVec.getLsbD_one]
  simp

/-! ### One bit -/

/-- The word that has only bit `k`. -/
lemma bit_shiftLeft_one {k : ℕ} (hk : k < 32) {i : ℕ} (hi : i < 32) :
    bit (1 <<< UInt32.ofNat k) i = decide (i = k) := by
  rw [bit_shiftLeft 1 hk hi, bit_one, ← Bool.decide_and]
  exact decide_eq_decide.mpr (by omega)

/-- Testing a bit. -/
lemma shiftRight_and_one (w : UInt32) {k : ℕ} (hk : k < 32) :
    (w >>> UInt32.ofNat k &&& 1 ≠ 0) ↔ bit w k = true := by
  have hbits : ∀ i < 32, bit (w >>> UInt32.ofNat k &&& 1) i = (bit w k && decide (i = 0)) := by
    intro i _
    rw [bit_and, bit_shiftRight w hk, bit_one]
    by_cases hi : i = 0
    · rw [hi, Nat.add_zero]
    · rw [decide_eq_false hi, Bool.and_false, Bool.and_false]
  constructor
  · intro hne
    by_contra hbit
    refine hne (eq_of_bit fun i hi => ?_)
    rw [hbits i hi, Bool.eq_false_of_not_eq_true hbit, Bool.false_and, bit_zero]
  · intro hbit hzero
    have h := hbits 0 (by omega)
    rw [hzero, hbit, bit_zero] at h
    exact Bool.noConfusion h

lemma shiftRight_and_one_eq_zero (w : UInt32) {k : ℕ} (hk : k < 32) :
    w >>> UInt32.ofNat k &&& 1 = 0 ↔ bit w k = false := by
  rw [← Bool.not_eq_true, ← shiftRight_and_one w hk, not_not]

lemma and_shiftLeft_one_eq_zero (w : UInt32) {k : ℕ} (hk : k < 32) :
    w &&& 1 <<< UInt32.ofNat k = 0 ↔ bit w k = false := by
  constructor
  · intro h
    have hbit := congrArg (bit · k) h
    simpa only [bit_and, bit_shiftLeft_one hk hk, bit_zero, decide_true, Bool.and_true] using hbit
  · intro h
    refine eq_of_bit fun i hi => ?_
    rw [bit_and, bit_shiftLeft_one hk hi, bit_zero]
    by_cases heq : i = k
    · rw [heq, h, Bool.false_and]
    · rw [decide_eq_false heq, Bool.and_false]

/-- Setting a bit. -/
lemma bit_or_shiftLeft_one (w : UInt32) {k : ℕ} (hk : k < 32) {i : ℕ} (hi : i < 32) :
    bit (w ||| 1 <<< UInt32.ofNat k) i = (bit w i || decide (i = k)) := by
  rw [bit_or, bit_shiftLeft_one hk hi]

/-- Clearing a bit. -/
lemma bit_and_not_shiftLeft_one (w : UInt32) {k : ℕ} (hk : k < 32) {i : ℕ} (hi : i < 32) :
    bit (w &&& ~~~(1 <<< UInt32.ofNat k)) i = (bit w i && !decide (i = k)) := by
  rw [bit_and, bit_not _ hi, bit_shiftLeft_one hk hi]

/-! ### Masks -/

/-- The bits of a word under a mask, told bit by bit. -/
lemma bit_le_of_within {k m : UInt32} (h : k &&& m = k) {i : ℕ} (hi : bit k i = true) :
    bit m i = true := by
  rw [← h, bit_and, Bool.and_eq_true] at hi
  exact hi.2

lemma within_or_left {k a : UInt32} (h : k &&& a = k) (b : UInt32) : k &&& (a ||| b) = k := by
  refine eq_of_bit fun i _ => ?_
  have ha : bit k i = true → bit a i = true := bit_le_of_within h
  rw [bit_and, bit_or]
  revert ha
  cases bit k i <;> cases bit a i <;> cases bit b i <;> decide

lemma within_or_right (k a : UInt32) : k &&& (a ||| k) = k := by
  refine eq_of_bit fun i _ => ?_
  rw [bit_and, bit_or]
  cases bit k i <;> cases bit a i <;> decide

lemma or_within {k k' m : UInt32} (h : k &&& m = k) (h' : k' &&& m = k') :
    (k ||| k') &&& m = k ||| k' := by
  refine eq_of_bit fun i _ => ?_
  have hk : bit k i = true → bit m i = true := bit_le_of_within h
  have hk' : bit k' i = true → bit m i = true := bit_le_of_within h'
  rw [bit_and, bit_or]
  revert hk hk'
  cases bit k i <;> cases bit k' i <;> cases bit m i <;> decide

/-- A part of a mask is disjoint from whatever the mask is disjoint from. -/
lemma disjoint_of_within {k K m : UInt32} (h : k &&& K = k) (hd : m &&& K = 0) : k &&& m = 0 := by
  rw [← h, UInt32.and_assoc, UInt32.and_comm K m, hd, UInt32.and_zero]

/-- A field that is set inside its mask reads back. -/
lemma set_and_mask (w : UInt32) {v m : UInt32} (h : v &&& m = v) :
    (w &&& ~~~m ||| v) &&& m = v := by
  refine eq_of_bit fun i hi => ?_
  have hv : bit v i = true → bit m i = true := bit_le_of_within h
  rw [bit_and, bit_or, bit_and, bit_not m hi]
  revert hv
  cases bit w i <;> cases bit v i <;> cases bit m i <;> decide

/-- What a part of a mask shows of a word does not depend on the rest of the word. -/
lemma and_of_within {k m : UInt32} (h : k &&& m = k) (w : UInt32) : w &&& k = w &&& m &&& k := by
  rw [UInt32.and_assoc, UInt32.and_comm m k, h]

lemma and_shiftRight (w m k : UInt32) : (w &&& m) >>> k = w >>> k &&& m >>> k := by
  refine UInt32.toBitVec_inj.mp ?_
  simp only [UInt32.toBitVec_shiftRight, UInt32.toBitVec_and, BitVec.ushiftRight_eq',
    BitVec.ushiftRight_and_distrib]

/-- A field that lies inside a mask depends on the word under the mask only. -/
lemma shiftRight_and_of_mask {k f m : UInt32} (h : m >>> k &&& f = f) (w : UInt32) :
    w >>> k &&& f = (w &&& m) >>> k &&& f := by
  rw [and_shiftRight, UInt32.and_assoc, h]

/-- The low bits of a word, as a number. -/
lemma and_toNat {m : UInt32} {k : ℕ} (hm : m.toNat = 2 ^ k - 1) (w : UInt32) :
    (w &&& m).toNat = w.toNat % 2 ^ k := by
  rw [UInt32.toNat_and, hm, Nat.and_two_pow_sub_one_eq_mod]

/-- A field of a word, as a number. -/
lemma and_shiftRight_toNat {m j : UInt32} {i k : ℕ} (hj : j.toNat % 32 = i)
    (hm : (m >>> j).toNat = 2 ^ k - 1)
    (w : UInt32) : ((w &&& m) >>> j).toNat = w.toNat / 2 ^ i % 2 ^ k := by
  rw [and_shiftRight, and_toNat hm, UInt32.toNat_shiftRight, hj, Nat.shiftRight_eq_div_pow]

lemma bit_toUInt8 (w : UInt32) (i : ℕ) :
    bit w.toUInt8.toUInt32 i = (decide (i < 8) && bit w i) := by
  rw [bit, bit, UInt8.toBitVec_toUInt32, UInt32.toBitVec_toUInt8, BitVec.getLsbD_setWidth,
    BitVec.getLsbD_setWidth]
  by_cases h : i < 8
  · rw [decide_eq_true h, decide_eq_true (by omega : i < 32), Bool.true_and]
  · rw [decide_eq_false h, Bool.false_and, Bool.and_false]

lemma bit_toUInt32 (b : UInt8) {i : ℕ} (h : 8 ≤ i) : bit b.toUInt32 i = false := by
  rw [bit, UInt8.toBitVec_toUInt32, BitVec.getLsbD_setWidth, BitVec.getLsbD_of_ge _ i h,
    Bool.and_false]

/-- A field of at most eight bits goes through a byte and back. -/
lemma toUInt8_shiftLeft {m : UInt32} {k : ℕ} (hk : k < 32) (hlow : ∀ i < k, bit m i = false)
    (hhigh : ∀ i, k + 8 ≤ i → bit m i = false) (w : UInt32) :
    ((w &&& m) >>> UInt32.ofNat k).toUInt8.toUInt32 <<< UInt32.ofNat k = w &&& m := by
  refine eq_of_bit fun i hi => ?_
  rw [bit_shiftLeft _ hk hi, bit_toUInt8, bit_shiftRight _ hk, bit_and, bit_and]
  by_cases hi' : k ≤ i
  · rw [decide_eq_true hi', Bool.true_and, show k + (i - k) = i by omega]
    by_cases hhi : i - k < 8
    · rw [decide_eq_true hhi, Bool.true_and]
    · rw [decide_eq_false hhi, Bool.false_and, hhigh i (by omega), Bool.and_false]
  · rw [decide_eq_false hi', Bool.false_and, hlow i (by omega), Bool.and_false]

/-- The bits of the word under the mask are those of `v`. -/
def Field (m v w : UInt32) : Prop := w &&& m = v

instance (m v w : UInt32) : Decidable (Field m v w) := inferInstanceAs (Decidable (_ = _))

namespace Field

variable {m m' k v v' w : UInt32}

lemma set (w : UInt32) (h : v &&& m = v) : Field m v (w &&& ~~~m ||| v) := set_and_mask w h

lemma clear (w m : UInt32) : Field m 0 (w &&& ~~~m) := by
  rw [Field, UInt32.and_assoc, UInt32.and_comm _ m, UInt32.and_not_self, UInt32.and_zero]

lemma clear_and (h : Field m 0 w) (k : UInt32) : Field m 0 (w &&& k) := by
  rw [Field, UInt32.and_assoc, UInt32.and_comm k, ← UInt32.and_assoc, h, UInt32.zero_and]

/-- Setting bits outside the field. -/
lemma or (h : Field m v w) (hk : k &&& m = 0) : Field m v (w ||| k) := by
  refine eq_of_bit fun i _ => ?_
  rw [← h]
  have hbit := congrArg (bit · i) hk
  simp only [bit_and, bit_or, bit_zero] at hbit ⊢
  revert hbit
  cases bit w i <;> cases bit k i <;> cases bit m i <;> decide

/-- Clearing bits outside the field. -/
lemma and_not (h : Field m v w) (hk : k &&& m = 0) : Field m v (w &&& ~~~k) := by
  refine eq_of_bit fun i hi => ?_
  rw [← h]
  have hbit := congrArg (bit · i) hk
  simp only [bit_and, bit_not k hi, bit_zero] at hbit ⊢
  revert hbit
  cases bit w i <;> cases bit k i <;> cases bit m i <;> decide

/-- Bits that are set are set. -/
lemma or_self (w : UInt32) (h : m &&& k = m) : Field m m (w ||| k) := by
  refine eq_of_bit fun i _ => ?_
  have hbit := congrArg (bit · i) h
  simp only [bit_and, bit_or] at hbit ⊢
  revert hbit
  cases bit w i <;> cases bit k i <;> cases bit m i <;> decide

/-- Bits that are set stay set when others are. -/
lemma has_or (h : Field m m w) (k : UInt32) : Field m m (w ||| k) := by
  refine eq_of_bit fun i _ => ?_
  have hbit := congrArg (bit · i) h
  simp only [bit_and, bit_or] at hbit ⊢
  revert hbit
  cases bit w i <;> cases bit k i <;> cases bit m i <;> decide

/-- Two fields together. -/
lemma union (h : Field m v w) (h' : Field m' v' w) : Field (m ||| m') (v ||| v') w := by
  refine eq_of_bit fun i _ => ?_
  rw [← h, ← h']
  simp only [bit_and, bit_or]
  cases bit w i <;> cases bit m i <;> cases bit m' i <;> decide

/-- A part of a field. -/
lemma part (h : Field m v w) (hk : k &&& m = k) : Field k (v &&& k) w := by
  rw [Field, and_of_within hk, h]

end Field

/-- The words differ inside the mask only. -/
def AgreeOff (m v w : UInt32) : Prop := v &&& ~~~m = w &&& ~~~m

instance (m v w : UInt32) : Decidable (AgreeOff m v w) := inferInstanceAs (Decidable (_ = _))

namespace AgreeOff

variable {m k u v w : UInt32}

lemma iff_bit : AgreeOff m v w ↔ ∀ i < 32, bit m i = false → bit v i = bit w i := by
  constructor
  · intro h i hi hm
    have hbit := congrArg (bit · i) h
    simp only [bit_and, bit_not m hi, hm, Bool.not_false, Bool.and_true] at hbit
    exact hbit
  · intro h
    refine eq_of_bit fun i hi => ?_
    rw [bit_and, bit_and, bit_not m hi]
    cases hm : bit m i with
    | true => rw [Bool.not_true, Bool.and_false, Bool.and_false]
    | false => rw [h i hi hm]

lemma refl (m w : UInt32) : AgreeOff m w w := rfl

lemma symm (h : AgreeOff m v w) : AgreeOff m w v := Eq.symm h

lemma trans (h : AgreeOff m u v) (h' : AgreeOff m v w) : AgreeOff m u w := Eq.trans h h'

/-- A larger mask hides more. -/
lemma mono (h : AgreeOff k v w) (hk : k &&& m = k) : AgreeOff m v w := by
  rw [iff_bit] at h ⊢
  intro i hi hm
  refine h i hi (Bool.eq_false_of_not_eq_true fun hbit => ?_)
  exact Bool.false_ne_true (hm.symm.trans (bit_le_of_within hk hbit))

lemma and_not (hk : k &&& m = k) (w : UInt32) : AgreeOff m (w &&& ~~~k) w := by
  refine mono (iff_bit.mpr fun i hi hm => ?_) hk
  rw [bit_and, bit_not k hi, hm, Bool.not_false, Bool.and_true]

lemma or (hk : k &&& m = k) (w : UInt32) : AgreeOff m (w ||| k) w := by
  refine mono (iff_bit.mpr fun i hi hm => ?_) hk
  rw [bit_or, hm, Bool.or_false]

/-- A field outside the mask is the same. -/
lemma field (h : AgreeOff m v w) {f x : UInt32} (hf : f &&& m = 0) (hx : Field f x w) :
    Field f x v := by
  rw [iff_bit] at h
  rw [Field, ← hx]
  refine eq_of_bit fun i hi => ?_
  have hbit := congrArg (bit · i) hf
  simp only [bit_and, bit_zero] at hbit ⊢
  cases hfi : bit f i with
  | false => rw [Bool.and_false, Bool.and_false]
  | true =>
      rw [hfi, Bool.true_and] at hbit
      rw [h i hi hbit]

end AgreeOff

end A733Boot
