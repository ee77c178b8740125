/-
Byte buffers with checked access, and the numerals stored in them.

A buffer is a number of accessible bytes together with their values; a read
outside the accessible part has no value, so a program over buffers that
returns a value has made no such read.

* `Buf.read`, `Ptr.get`: the checked accesses, through an index into a buffer
  and through a pointer into one;
* `Buf.slice`, `Buf.le`, `Buf.be`: a run of bytes, and the numeral it spells
  least or most significant byte first, as `Nat.ofDigits` of Mathlib;
* `or_shiftLeft_eq_add`, `foldlM_orShift`: assembling a numeral byte by byte
  with shifts and bitwise or, the way a program does, gives that numeral;
* `and_highMask`: masking the high bits is rounding down to a power of two;
* `Below`, `Buf.Ext`: a program that returns a value over a buffer returns the
  same value over every buffer that extends it, `Below.bind` being the rule by
  which this passes through sequencing;
* `Arith`: unsigned operations of a fixed width, either wrapping or trapping
  when the exact result does not fit;
* `andM_eq_decide`: the short-circuit conjunction of two checks decides the
  conjunction of what they decide, the second only where the first holds;
* `anyFrom_eq_decide`: a search loop decides whether an index passes its test;
* `exists_first_succ`, `eq_of_first`: the place where a search ends, one step further.
-/
import Mathlib.Tactic
import Mathlib.Data.Nat.Bitwise
import Mathlib.Data.Nat.Digits.Defs

namespace A733Boot

/-- A buffer of `size` accessible bytes. The bytes at `size` and beyond belong to
nobody: no access yields them. -/
structure Buf where
  size : ℕ
  byte : ℕ → UInt8

namespace Buf

/-- The checked access: no value outside the buffer. -/
def read (b : Buf) (i : ℕ) : Option UInt8 :=
  if i < b.size then some (b.byte i) else none

/-- A constant array. -/
def ofList (l : List UInt8) : Buf := ⟨l.length, fun i => l.getD i 0⟩

/-- The `n` bytes from index `o` on. -/
def slice (b : Buf) : ℕ → ℕ → List UInt8
  | _, 0 => []
  | o, n + 1 => b.byte o :: slice b (o + 1) n

/-- The numeral spelled by the `n` bytes from `o` on, least significant first. -/
def le (b : Buf) (o n : ℕ) : ℕ := Nat.ofDigits 256 ((b.slice o n).map UInt8.toNat)

/-- The numeral spelled by the `n` bytes from `o` on, most significant first. -/
def be (b : Buf) (o n : ℕ) : ℕ := Nat.ofDigits 256 ((b.slice o n).map UInt8.toNat).reverse

lemma read_eq {b : Buf} {i : ℕ} (h : i < b.size) : b.read i = some (b.byte i) := if_pos h

@[simp] lemma slice_length (b : Buf) (o n : ℕ) : (b.slice o n).length = n := by
  induction n generalizing o with
  | zero => rfl
  | succ n ih => rw [slice, List.length_cons, ih]

/-- Two slices are equal exactly when they agree byte by byte. -/
lemma slice_eq_slice_iff {b c : Buf} {o p n : ℕ} :
    b.slice o n = c.slice p n ↔ ∀ i < n, b.byte (o + i) = c.byte (p + i) := by
  induction n generalizing o p with
  | zero => simp [slice]
  | succ n ih =>
      rw [slice, slice, List.cons.injEq, ih]
      constructor
      · rintro ⟨h0, h⟩ i hi
        cases i with
        | zero => exact h0
        | succ i =>
            have := h i (by omega)
            rwa [show o + 1 + i = o + (i + 1) by omega,
              show p + 1 + i = p + (i + 1) by omega] at this
      · intro h
        refine ⟨h 0 (by omega), fun i hi => ?_⟩
        rw [show o + 1 + i = o + (i + 1) by omega, show p + 1 + i = p + (i + 1) by omega]
        exact h (i + 1) (by omega)

lemma slice_congr {b c : Buf} {o n : ℕ} (h : ∀ i < n, b.byte (o + i) = c.byte (o + i)) :
    b.slice o n = c.slice o n := slice_eq_slice_iff.mpr h

lemma le_congr {b c : Buf} {o n : ℕ} (h : ∀ i < n, b.byte (o + i) = c.byte (o + i)) :
    b.le o n = c.le o n := by rw [le, le, slice_congr h]

lemma slice_succ (b : Buf) (o n : ℕ) : b.slice o (n + 1) = b.slice o n ++ [b.byte (o + n)] := by
  induction n generalizing o with
  | zero => rfl
  | succ n ih =>
      rw [slice, ih, slice, List.cons_append, show o + 1 + n = o + (n + 1) by omega]

/-- One more significant byte adds its weight. -/
lemma le_succ (b : Buf) (o n : ℕ) :
    b.le o (n + 1) = b.le o n + (b.byte (o + n)).toNat * 2 ^ (8 * n) := by
  rw [le, slice_succ, List.map_append, Nat.ofDigits_append, le, List.length_map, slice_length,
    pow_mul]
  simp [mul_comm]

@[simp] lemma le_zero (b : Buf) (o : ℕ) : b.le o 0 = 0 := rfl

/-- A numeral of `n` bytes is below `2 ^ (8 * n)`. -/
lemma le_lt (b : Buf) (o n : ℕ) : b.le o n < 2 ^ (8 * n) := by
  induction n with
  | zero => simp
  | succ n ih =>
      have hb := (b.byte (o + n)).toNat_lt
      have hw : (b.byte (o + n)).toNat * 2 ^ (8 * n) ≤ 255 * 2 ^ (8 * n) :=
        Nat.mul_le_mul_right _ (by omega)
      rw [le_succ, show 8 * (n + 1) = 8 + 8 * n by ring, pow_add]
      omega

end Buf

/-! ### Assembling a numeral with shifts -/

/-- A shifted part or-ed above a low part is their sum. -/
lemma or_shiftLeft_eq_add {a i : ℕ} (h : a < 2 ^ i) (b : ℕ) : a ||| b <<< i = a + b * 2 ^ i := by
  rw [Nat.or_comm, ← Nat.shiftLeft_add_eq_or_of_lt h, Nat.shiftLeft_eq, Nat.add_comm]

/-- Four bytes or-ed at their places. -/
lemma or_shiftLeft_bytes {a b c : ℕ} (ha : a < 256) (hb : b < 256) (hc : c < 256) (d : ℕ) :
    a ||| b <<< 8 ||| c <<< 16 ||| d <<< 24 = a + b * 2 ^ 8 + c * 2 ^ 16 + d * 2 ^ 24 := by
  rw [or_shiftLeft_eq_add (show a < 2 ^ 8 by omega),
    or_shiftLeft_eq_add (show a + b * 2 ^ 8 < 2 ^ 16 by omega),
    or_shiftLeft_eq_add (show a + b * 2 ^ 8 + c * 2 ^ 16 < 2 ^ 24 by omega)]

/-- A mask of the bits from `k` up to the width clears the bits below `k`. -/
lemma and_highMask {x w k : ℕ} (hk : k ≤ w) (hx : x < 2 ^ w) :
    x &&& (2 ^ w - 2 ^ k) = x / 2 ^ k * 2 ^ k := by
  have hmask : 2 ^ w - 2 ^ k = (2 ^ (w - k) - 1) <<< k := by
    rw [Nat.shiftLeft_eq, Nat.sub_mul, one_mul, ← pow_add, Nat.sub_add_cancel hk]
  refine Nat.eq_of_testBit_eq fun i => ?_
  rw [Nat.testBit_and, hmask, Nat.testBit_shiftLeft, Nat.testBit_two_pow_sub_one,
    ← Nat.shiftRight_eq_div_pow, ← Nat.shiftLeft_eq, Nat.testBit_shiftLeft, Nat.testBit_shiftRight]
  by_cases hik : k ≤ i
  · rw [Nat.add_sub_cancel' hik]
    by_cases hiw : i < w
    · simp [hik, show i - k < w - k by omega]
    · have hzero : x.testBit i = false :=
        Nat.testBit_eq_false_of_lt (hx.trans_le (Nat.pow_le_pow_right (by omega) (by omega)))
      simp [hzero]
  · simp [hik]

/-! ### Pointers into a buffer -/

/-- A pointer: a buffer and an index into it. -/
structure Ptr where
  buf : Buf
  off : ℕ

namespace Ptr

/-- Pointer arithmetic. -/
def add (p : Ptr) (k : ℕ) : Ptr := ⟨p.buf, p.off + k⟩

/-- The access `p[i]`. -/
def get (p : Ptr) (i : ℕ) : Option UInt8 := p.buf.read (p.off + i)

@[simp] lemma add_buf (p : Ptr) (k : ℕ) : (p.add k).buf = p.buf := rfl

@[simp] lemma add_off (p : Ptr) (k : ℕ) : (p.add k).off = p.off + k := rfl

lemma get_eq {p : Ptr} {i : ℕ} (h : p.off + i < p.buf.size) :
    p.get i = some (p.buf.byte (p.off + i)) := Buf.read_eq h

/-- Reading `n` bytes and or-ing each at its place yields the little-endian
numeral they spell. -/
lemma foldlM_orShift (p : Ptr) (n : ℕ) (h : p.off + n ≤ p.buf.size) :
    (List.range n).foldlM (fun value i => do
        let byte ← p.get i
        return value ||| byte.toNat <<< (i * 8)) 0 = some (p.buf.le p.off n) := by
  induction n with
  | zero => rfl
  | succ n ih =>
      rw [List.range_succ, List.foldlM_append, ih (by omega)]
      simp only [Option.bind_eq_bind, Option.bind_some, List.foldlM_cons, List.foldlM_nil,
        get_eq (show p.off + n < p.buf.size by omega), Option.pure_def]
      rw [Nat.mul_comm n 8, or_shiftLeft_eq_add (p.buf.le_lt p.off n), Buf.le_succ]

end Ptr

/-! ### Programs over a growing buffer -/

/-- `y` returns whatever `x` returns. -/
def Below {α : Type} (x y : Option α) : Prop := ∀ r, x = some r → y = some r

namespace Below

variable {α β : Type}

lemma refl (x : Option α) : Below x x := fun _ h => h

/-- Sequencing: the first step below, and every continuation below. -/
lemma bind {x y : Option α} {f g : α → Option β} (hx : Below x y)
    (hf : ∀ a, Below (f a) (g a)) : Below (x >>= f) (y >>= g) := by
  intro r h
  obtain ⟨a, ha, hr⟩ := Option.bind_eq_some_iff.mp h
  exact Option.bind_eq_some_iff.mpr ⟨a, hx a ha, hf a r hr⟩

lemma ite {c : Prop} [Decidable c] {x y x' y' : Option α} (ht : Below x y)
    (he : Below x' y') : Below (if c then x else x') (if c then y else y') := by
  split
  · exact ht
  · exact he

lemma foldlM {l : List β} {f g : α → β → Option α} (h : ∀ a b, Below (f a b) (g a b)) (a : α) :
    Below (l.foldlM f a) (l.foldlM g a) := by
  induction l generalizing a with
  | nil => exact refl _
  | cons b l ih =>
      rw [List.foldlM_cons, List.foldlM_cons]
      exact bind (h a b) ih

end Below

/-- `c` has every byte that `b` has, with the same value. -/
def Buf.Ext (b c : Buf) : Prop := ∀ i, Below (b.read i) (c.read i)

/-- The first `n` bytes of a buffer, as a buffer of their own. -/
def Buf.take (b : Buf) (n : ℕ) : Buf := ⟨n, b.byte⟩

/-- A buffer extends the prefix of another one when it agrees with it there. -/
lemma Buf.take_ext {b c : Buf} {n : ℕ} (hn : n ≤ c.size) (h : ∀ i < n, b.byte i = c.byte i) :
    (b.take n).Ext c := by
  intro i r hr
  by_cases hi : i < n
  · rw [Buf.read_eq (show i < c.size by omega), ← h i hi]
    rwa [Buf.read_eq (b := b.take n) hi] at hr
  · simp [Buf.read, Buf.take, hi] at hr

/-- The extension order on pointers. -/
structure Ptr.Ext (p q : Ptr) : Prop where
  buf : p.buf.Ext q.buf
  off : p.off = q.off

namespace Ptr.Ext

variable {p q : Ptr}

lemma refl (p : Ptr) : Ptr.Ext p p := ⟨fun _ => Below.refl _, rfl⟩

lemma add (h : Ptr.Ext p q) (k : ℕ) : Ptr.Ext (p.add k) (q.add k) :=
  ⟨h.buf, by rw [Ptr.add_off, Ptr.add_off, h.off]⟩

lemma get (h : Ptr.Ext p q) (i : ℕ) : Below (p.get i) (q.get i) := by
  rw [Ptr.get, Ptr.get, ← h.off]
  exact h.buf (p.off + i)

end Ptr.Ext

/-! ### Unsigned results that may not fit -/

/-- What becomes of an unsigned operation whose exact result does not fit its
type: it wraps, as in C, or it stops the program, as under a sanitizer. -/
inductive Arith where
  | wrap
  | trap
  deriving DecidableEq, Repr

namespace Arith

/-- The exact value `v` delivered in `bits` bits. -/
def fit (ar : Arith) (bits v : ℕ) : Option ℕ :=
  if v < 2 ^ bits then some v
  else match ar with
    | wrap => some (v % 2 ^ bits)
    | trap => none

/-- The difference `a - b` delivered in `bits` bits. -/
def sub (ar : Arith) (bits a b : ℕ) : Option ℕ :=
  if b ≤ a then some (a - b)
  else match ar with
    | wrap => some (a + 2 ^ bits - b)
    | trap => none

lemma fit_eq (ar : Arith) {bits v : ℕ} (h : v < 2 ^ bits) : ar.fit bits v = some v := if_pos h

lemma sub_eq (ar : Arith) {bits a b : ℕ} (h : b ≤ a) : ar.sub bits a b = some (a - b) := if_pos h

end Arith

/-! ### Short-circuit conjunction -/

/-- A conjunction of checks decides the conjunction; the second check is only
evaluated, hence only has to make sense, where the first succeeds. -/
lemma andM_eq_decide {x y : Option Bool} {P Q : Prop} [Decidable P] [Decidable Q]
    (hx : x = some (decide P)) (hy : P → y = some (decide Q)) :
    (x <&&> y) = some (decide (P ∧ Q)) := by
  rw [hx]
  by_cases hP : P
  · simp [andM, hP, hy hP, toBool]
  · simp [andM, hP, toBool]

/-! ### Search loops -/

/-- The loop that looks at the indices `i`, `i + 1`, ... in turn, `n` of them, and
returns true at the first one that passes the test. -/
def anyFrom (test : ℕ → Option Bool) (i : ℕ) : ℕ → Option Bool
  | 0 => some false
  | n + 1 => do if ← test i then return true else anyFrom test (i + 1) n

/-- A search loop decides whether one of its indices passes. -/
lemma anyFrom_eq_decide {test : ℕ → Option Bool} {P : ℕ → Prop} [DecidablePred P] (n i : ℕ)
    (h : ∀ j, i ≤ j → j < i + n → test j = some (decide (P j))) :
    anyFrom test i n = some (decide (∃ j, j < i + n ∧ i ≤ j ∧ P j)) := by
  induction n generalizing i with
  | zero =>
      have hno : ¬∃ j, j < i + 0 ∧ i ≤ j ∧ P j := by
        rintro ⟨j, h1, h2, -⟩
        omega
      rw [decide_eq_false hno]
      rfl
  | succ n ih =>
      have hrest := ih (i + 1) fun j h1 h2 => h j (by omega) (by omega)
      simp only [anyFrom, h i le_rfl (by omega), hrest, Option.bind_eq_bind, Option.bind_some,
        Option.pure_def]
      by_cases hi : P i
      · rw [if_pos (by simpa using hi), decide_eq_true ⟨i, by omega, le_rfl, hi⟩]
      · rw [if_neg (by simpa using hi)]
        refine congrArg some (decide_eq_decide.mpr ⟨?_, ?_⟩)
        · rintro ⟨j, h1, h2, hj⟩
          exact ⟨j, by omega, by omega, hj⟩
        · rintro ⟨j, h1, h2, hj⟩
          have hne : j ≠ i := fun he => hi (he ▸ hj)
          exact ⟨j, by omega, by omega, hj⟩

lemma Below.anyFrom {f g : ℕ → Option Bool} (h : ∀ i, Below (f i) (g i)) (n i : ℕ) :
    Below (anyFrom f i n) (anyFrom g i n) := by
  induction n generalizing i with
  | zero => exact Below.refl _
  | succ n ih => exact (h i).bind fun b => (Below.refl _).ite (ih (i + 1))

lemma Below.andM {x y x' y' : Option Bool} (hx : Below x y) (hy : Below x' y') :
    Below (x <&&> x') (y <&&> y') :=
  hx.bind fun b => by
    cases b
    · exact Below.refl _
    · exact hy

/-- The first place from `k` on where the search ends, when it does not end at `k`. -/
lemma exists_first_succ {P Q : ℕ → Prop} {k m : ℕ} (hP : P k) (hQ : ¬ Q k) :
    (∃ e, k + 1 ≤ e ∧ e < k + 1 + m ∧ (∀ i, k + 1 ≤ i → i < e → P i) ∧ Q e) ↔
      ∃ e, k ≤ e ∧ e < k + (m + 1) ∧ (∀ i, k ≤ i → i < e → P i) ∧ Q e := by
  constructor
  · rintro ⟨e, h1, h2, hpre, hend⟩
    refine ⟨e, by omega, by omega, fun i hi1 hi2 => ?_, hend⟩
    rcases Nat.eq_or_lt_of_le hi1 with rfl | hlt
    · exact hP
    · exact hpre i hlt hi2
  · rintro ⟨e, h1, h2, hpre, hend⟩
    have hne : e ≠ k := by
      rintro rfl
      exact hQ hend
    exact ⟨e, by omega, by omega, fun i hi1 hi2 => hpre i (by omega) hi2, hend⟩

/-- A search that cannot pass `k` ends there. -/
lemma eq_of_first {P : ℕ → Prop} {k e : ℕ} (hP : ¬ P k) (hle : k ≤ e)
    (hpre : ∀ i, k ≤ i → i < e → P i) : e = k := by
  by_contra hne
  exact hP (hpre k le_rfl (by omega))

end A733Boot
