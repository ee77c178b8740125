/-
The texts of numbers: `itoa` and `utoa` write a number through a scratch stack of 16 bytes,
`dstr2int` and `hstr2int` read one.

* `digitLoop`: the loop that fills the stack, with no value where a digit would be stored
  outside of it;
* `itoa`, `utoa`, `dstr2int`, `hstr2int`: the functions of the library;
* `utoa_eq`, `itoa_eq`: the text is the numeral, and fits the stack;
* `scanDigits_eq`: reading digits accumulates the number that they denote;
* **`number_text_round_trip`**: the decoders invert `utoa` on every word, and `itoa` writes
  the decimal numeral of exactly the numbers other than the least.
-/
import A733Boot.Library.Numerals
import Mathlib.Data.List.GetD
import Mathlib.Data.UInt
import Mathlib.Tactic

namespace A733Boot.Ar100s.Numbers

/-! ### The functions -/

/-- The bytes of `digit_string`. -/
def digitString : List UInt8 :=
  ['0', '1', '2', '3', '4', '5', '6', '7', '8', '9', 'A', 'B', 'C', 'D', 'E', 'F'].map
    Char.toUInt8

/-- The size of `stack`. -/
def stackSize : ℕ := 16

/-- The loop that puts the digits of `value` on the stack, `room` bytes of which are left. The
list has the top of the stack first, which is the order in which it is copied out. There is no
result when a digit would be stored outside the stack or taken from outside `digit_string`. -/
def digitLoop (radix : ℕ) : ℕ → ℕ → List UInt8 → Option (List UInt8)
  | 0, value, stack => if 0 < value then none else some stack
  | room + 1, value, stack =>
    if 0 < value then do
      let digit ← digitString[value % radix]?
      digitLoop radix room (value / radix) (digit :: stack)
    else some stack

/-- The text that `itoa` writes in front of the terminator. The negation is the one of two's
complement; a number that stays negative does not enter the loop. -/
def itoa (value : Int32) (radix : ℕ) : Option (List UInt8) :=
  if value = 0 then some ['0'.toUInt8]
  else
    let negative := value < 0
    let value := if negative then -value else value
    do
      let stack ← digitLoop radix stackSize value.toInt.toNat []
      pure (if negative then '-'.toUInt8 :: stack else stack)

/-- The text that `utoa` writes in front of the terminator. -/
def utoa (value : UInt32) (radix : ℕ) : Option (List UInt8) :=
  if value = 0 then some ['0'.toUInt8] else digitLoop radix stackSize value.toNat []

/-- The loop of the two decoders: `digit` is their classification of a character, `len` the
number of characters that are left and `tmp` the number so far. -/
def scanDigits (radix : UInt32) (digit : UInt8 → Option UInt32) (str : ℕ → UInt8) :
    ℕ → ℕ → UInt32 → UInt32
  | 0, _, tmp => tmp
  | len + 1, i, tmp =>
    match digit (str i) with
    | some d => scanDigits radix digit str len (i + 1) (tmp * radix + d)
    | none => tmp

def decDigit (c : UInt8) : Option UInt32 :=
  if '0'.toUInt8 ≤ c ∧ c ≤ '9'.toUInt8 then some (c - '0'.toUInt8).toUInt32 else none

def hexDigit (c : UInt8) : Option UInt32 :=
  if '0'.toUInt8 ≤ c ∧ c ≤ '9'.toUInt8 then some (c - '0'.toUInt8).toUInt32
  else if 'A'.toUInt8 ≤ c ∧ c ≤ 'F'.toUInt8 then some ((c - 'A'.toUInt8).toUInt32 + 10)
  else if 'a'.toUInt8 ≤ c ∧ c ≤ 'f'.toUInt8 then some ((c - 'a'.toUInt8).toUInt32 + 10)
  else none

def dstr2int (str : ℕ → UInt8) (len : UInt32) : UInt32 :=
  scanDigits 10 decDigit str len.toNat 0 0

/-- The prefix is taken off the length without a check, so that a length below 2 wraps. -/
def hstr2int (str : ℕ → UInt8) (len : UInt32) : UInt32 :=
  if str 0 = '0'.toUInt8 ∧ str 1 = 'x'.toUInt8 then
    scanDigits 16 hexDigit (fun i => str (i + 2)) (len - 2).toNat 0 0
  else scanDigits 16 hexDigit str len.toNat 0 0

/-! ### Specification -/

/-- The text stands at the pointer `str`, with its terminator; what is behind it is arbitrary. -/
def Stands (text : List UInt8) (str : ℕ → UInt8) : Prop :=
  ∀ i ≤ text.length, str i = text.getD i 0

/-- Reading the text with its length gives back the number that was written. -/
def ReadsBack (decode : (ℕ → UInt8) → UInt32 → UInt32) (v : UInt32) (text : List UInt8) : Prop :=
  ∀ str, Stands text str → decode str (UInt32.ofNat text.length) = v

/-- The text is the canonical decimal numeral of `v`: a sign when `v` is negative, then the
digits of its absolute value without leading zeros. -/
def IsDecimal (v : ℤ) (text : List UInt8) : Prop :=
  ∃ digits, IsNumeral 10 v.natAbs digits ∧
    text = (if v < 0 then ['-'.toUInt8] else []) ++
      digits.map fun d => '0'.toUInt8 + UInt8.ofNat d

/-! ### Writing -/

/-- The character of a digit. -/
def digitChar (d : ℕ) : UInt8 := digitString.getD d 0

lemma digitString_get {d : ℕ} (h : d < 16) : digitString[d]? = some (digitChar d) := by
  rw [digitChar, List.getD_eq_getElem?_getD, List.getElem?_eq_getElem (by exact h)]
  rfl

/-- The loop stacks up the digits of the number, where the stack has room for them. -/
lemma digitLoop_eq {radix : ℕ} (h1 : 1 < radix) (h16 : radix ≤ 16) (room value : ℕ)
    (stack : List UInt8) (h : value < radix ^ room) :
    digitLoop radix room value stack
      = some ((Nat.digits radix value).reverse.map digitChar ++ stack) := by
  induction room generalizing value stack with
  | zero =>
    have h0 : value = 0 := by simpa using h
    subst h0
    simp [digitLoop]
  | succ room ih =>
    rcases Nat.eq_zero_or_pos value with rfl | hpos
    · simp [digitLoop]
    · have hdiv : value / radix < radix ^ room :=
        Nat.div_lt_of_lt_mul (by rw [Nat.mul_comm]; exact h)
      have hmod : value % radix < 16 := (Nat.mod_lt _ (by omega)).trans_le h16
      rw [digitLoop, if_pos hpos, digitString_get hmod, Option.bind_eq_bind, Option.bind_some,
        ih _ _ hdiv, Nat.digits_def' h1 hpos]
      simp

/-- A nonzero number that fits the stack is written as its numeral. -/
lemma digitLoop_numeral {radix : ℕ} (h1 : 1 < radix) (h16 : radix ≤ 16) {value : ℕ}
    (hpos : 0 < value) (h : value < radix ^ stackSize) :
    digitLoop radix stackSize value [] = some ((numeral radix value).map digitChar) := by
  rw [digitLoop_eq h1 h16 _ _ _ h, List.append_nil, numeral_of_pos radix hpos]

lemma map_numeral_zero (radix : ℕ) : (numeral radix 0).map digitChar = ['0'.toUInt8] := by
  rw [numeral, if_pos rfl]
  rfl

/-- `utoa` writes the numeral of every word. -/
lemma utoa_eq {radix : ℕ} (h1 : 10 ≤ radix) (h16 : radix ≤ 16) (v : UInt32) :
    utoa v radix = some ((numeral radix v.toNat).map digitChar) := by
  have hroom : v.toNat < radix ^ stackSize :=
    calc v.toNat < 2 ^ 32 := v.toNat_lt
      _ < 10 ^ stackSize := by decide
      _ ≤ radix ^ stackSize := Nat.pow_le_pow_left h1 _
  by_cases h0 : v = 0
  · rw [utoa, if_pos h0, h0]
    exact congrArg some (map_numeral_zero radix).symm
  · have hpos : 0 < v.toNat :=
      Nat.pos_of_ne_zero fun h => h0 (UInt32.toNat_inj.mp h)
    rw [utoa, if_neg h0, digitLoop_numeral (by omega) h16 hpos hroom]

/-- The numeral of a word has at most 10 digits. -/
lemma numeral_word_length_le {radix : ℕ} (h1 : 10 ≤ radix) (v : UInt32) :
    (numeral radix v.toNat).length ≤ 10 := by
  have hlt : v.toNat < radix ^ 10 :=
    calc v.toNat < 2 ^ 32 := v.toNat_lt
      _ ≤ 10 ^ 10 := by decide
      _ ≤ radix ^ 10 := Nat.pow_le_pow_left h1 _
  exact numeral_length_le (by omega) (by decide) hlt

/-- The value that the digit loop of `itoa` starts from, where the negation does not overflow. -/
lemma toInt_magnitude {v : Int32} (hmin : v ≠ Int32.minValue) :
    (if v < 0 then -v else v).toInt.toNat = v.toInt.natAbs := by
  have hlow : -2 ^ 31 < v.toInt :=
    lt_of_le_of_ne v.le_toInt fun h => hmin (Int32.toInt_inj.mp h.symm)
  have hhigh := v.toInt_lt
  by_cases hneg : v < 0
  · have hlt : v.toInt < 0 := Int32.lt_iff_toInt_lt.mp hneg
    rw [if_pos hneg, Int32.toInt_neg, Int.bmod_eq_of_le (by omega) (by omega)]
    omega
  · have hle : ¬ v.toInt < 0 := fun h => hneg (Int32.lt_iff_toInt_lt.mpr h)
    rw [if_neg hneg]
    omega

/-- `itoa` writes the sign and the numeral of every number whose negation exists. -/
lemma itoa_eq {v : Int32} (hmin : v ≠ Int32.minValue) :
    itoa v 10 = some ((if v.toInt < 0 then ['-'.toUInt8] else []) ++
      (numeral 10 v.toInt.natAbs).map digitChar) := by
  by_cases h0 : v = 0
  · subst h0
    exact congrArg some (map_numeral_zero 10).symm
  · have hpos : 0 < v.toInt.natAbs :=
      Int.natAbs_pos.mpr fun h => h0 (Int32.toInt_inj.mp h)
    have hroom : v.toInt.natAbs < 10 ^ stackSize := by
      have := v.le_toInt
      have := v.toInt_lt
      rw [show 10 ^ stackSize = 10000000000000000 from rfl]
      omega
    have hloop : digitLoop 10 stackSize (if v < 0 then -v else v).toInt.toNat []
        = some ((numeral 10 v.toInt.natAbs).map digitChar) := by
      rw [toInt_magnitude hmin, digitLoop_numeral (by omega) (by omega) hpos hroom]
    have hsign : v < 0 ↔ v.toInt < 0 := Int32.lt_iff_toInt_lt
    simp only [itoa, if_neg h0, hloop, Option.bind_eq_bind, Option.pure_def, Option.bind_some]
    by_cases hneg : v < 0
    · rw [if_pos hneg, if_pos (hsign.mp hneg), List.singleton_append]
    · rw [if_neg hneg, if_neg fun h => hneg (hsign.mpr h), List.nil_append]

/-- At the least number the negation wraps back and only the sign is written. -/
lemma itoa_minValue : itoa Int32.minValue 10 = some ['-'.toUInt8] := by
  decide

lemma digitChar_of_lt_ten {d : ℕ} (h : d < 10) : digitChar d = '0'.toUInt8 + UInt8.ofNat d := by
  revert d
  decide

/-- The text of a number is its decimal numeral, unless it is the least number. -/
lemma itoa_isDecimal_iff (v : Int32) :
    (∃ text, itoa v 10 = some text ∧ IsDecimal v.toInt text) ↔ v ≠ Int32.minValue := by
  constructor
  · rintro ⟨text, htext, digits, hnum, hsplit⟩ rfl
    rw [itoa_minValue, Option.some.injEq] at htext
    subst htext
    have hlen := congrArg List.length hsplit
    rw [if_pos (by decide), List.length_append, List.length_map] at hlen
    exact hnum.ne_nil (List.length_eq_zero_iff.mp (by simpa using hlen))
  · intro hmin
    have hnum := numeral_isNumeral (show 1 < 10 by omega) v.toInt.natAbs
    refine ⟨_, itoa_eq hmin, _, hnum, ?_⟩
    rw [List.map_congr_left fun d hd => digitChar_of_lt_ten (hnum.lt_base d hd)]

/-! ### Reading -/

/-- Reading the characters of digits accumulates the number that they denote. -/
lemma scanDigits_eq {radix : ℕ} {digit : UInt8 → Option UInt32} {str : ℕ → UInt8}
    (hdigit : ∀ d < radix, digit (digitChar d) = some (UInt32.ofNat d)) (digits : List ℕ)
    (hlt : ∀ d ∈ digits, d < radix) (i n : ℕ)
    (hstr : ∀ j < digits.length, str (i + j) = digitChar (digits.getD j 0)) :
    scanDigits (UInt32.ofNat radix) digit str digits.length i (UInt32.ofNat n)
      = UInt32.ofNat (horner radix n digits) := by
  induction digits generalizing i n with
  | nil => rfl
  | cons d digits ih =>
    have hhead : str i = digitChar d := hstr 0 (Nat.succ_pos _)
    have htail : ∀ j < digits.length, str (i + 1 + j) = digitChar (digits.getD j 0) := by
      intro j hj
      rw [Nat.add_assoc, Nat.add_comm 1 j, hstr (j + 1) (by simpa using hj), List.getD_cons_succ]
    rw [List.length_cons, scanDigits, hhead, hdigit d (hlt d List.mem_cons_self), horner_cons,
      ← ih (fun e he => hlt e (List.mem_cons_of_mem _ he)) (i + 1) _ htail, UInt32.ofNat_add,
      UInt32.ofNat_mul]

lemma decDigit_digitChar : ∀ d < 10, decDigit (digitChar d) = some (UInt32.ofNat d) := by
  decide

lemma hexDigit_digitChar : ∀ d < 16, hexDigit (digitChar d) = some (UInt32.ofNat d) := by
  decide

section ReadsBack

variable {radix : ℕ} {digit : UInt8 → Option UInt32} {str : ℕ → UInt8}

/-- The loop of a decoder, from the start of the numeral of a word. -/
lemma scanDigits_numeral (h1 : 1 < radix)
    (hdigit : ∀ d < radix, digit (digitChar d) = some (UInt32.ofNat d)) (v : UInt32)
    (hstr : Stands ((numeral radix v.toNat).map digitChar) str) :
    scanDigits (UInt32.ofNat radix) digit str (numeral radix v.toNat).length 0 0 = v := by
  have hnum := numeral_isNumeral h1 v.toNat
  have hchars : ∀ j < (numeral radix v.toNat).length,
      str (0 + j) = digitChar ((numeral radix v.toNat).getD j 0) := by
    intro j hj
    rw [Nat.zero_add, hstr j (by simpa using hj.le), List.getD_eq_getElem _ _ (by simpa using hj),
      List.getElem_map, List.getD_eq_getElem _ _ hj]
  have hscan := scanDigits_eq hdigit _ hnum.lt_base 0 0 hchars
  rw [hnum.denotes, UInt32.ofNat_toNat] at hscan
  exact hscan

/-- The text of a word is short, so that its length is a word. -/
lemma length_toNat (h1 : 10 ≤ radix) (v : UInt32) :
    (UInt32.ofNat ((numeral radix v.toNat).map digitChar).length).toNat
      = (numeral radix v.toNat).length := by
  have hlen : (numeral radix v.toNat).length < 2 ^ 32 :=
    (numeral_word_length_le h1 v).trans_lt (by omega)
  rw [List.length_map, UInt32.toNat_ofNat', Nat.mod_eq_of_lt hlen]

/-- The second character of a numeral, or the terminator in its place, is no `x`. -/
lemma stands_ne_x (h1 : 1 < radix) (h16 : radix ≤ 16) {n : ℕ}
    (hstr : Stands ((numeral radix n).map digitChar) str) : str 1 ≠ 'x'.toUInt8 := by
  have hdigit : ∀ d < 16, digitChar d ≠ 'x'.toUInt8 := by decide
  have hnum := numeral_isNumeral h1 n
  have hlen : 1 ≤ ((numeral radix n).map digitChar).length := by
    rw [List.length_map]
    exact List.length_pos_iff.mpr hnum.ne_nil
  rw [hstr 1 hlen]
  by_cases hlast : 1 < ((numeral radix n).map digitChar).length
  · rw [List.getD_eq_getElem _ _ hlast, List.getElem_map]
    exact hdigit _ ((hnum.lt_base _ (List.getElem_mem _)).trans_le h16)
  · rw [List.getD_eq_default _ _ (by omega)]
    decide

end ReadsBack

lemma dstr2int_reads_back (v : UInt32) :
    ReadsBack dstr2int v ((numeral 10 v.toNat).map digitChar) := by
  intro str hstr
  rw [dstr2int, length_toNat le_rfl]
  exact scanDigits_numeral (by omega) decDigit_digitChar v hstr

lemma hstr2int_reads_back (v : UInt32) :
    ReadsBack hstr2int v ((numeral 16 v.toNat).map digitChar) := by
  intro str hstr
  rw [hstr2int, if_neg fun h => stands_ne_x (by omega) le_rfl hstr h.2,
    length_toNat (by omega)]
  exact scanDigits_numeral (by omega) hexDigit_digitChar v hstr

/-- **The texts of numbers.** The word `v` is read back from its decimal and from its hexadecimal
text and the signed number `w` is written as its decimal numeral, exactly when `w` is not the
least one. -/
theorem number_text_round_trip (v : UInt32) (w : Int32) :
    ((∃ text, utoa v 10 = some text ∧ ReadsBack dstr2int v text) ∧
      (∃ text, utoa v 16 = some text ∧ ReadsBack hstr2int v text) ∧
      ∃ text, itoa w 10 = some text ∧ IsDecimal w.toInt text) ↔ w ≠ Int32.minValue := by
  have hdecimal : ∃ text, utoa v 10 = some text ∧ ReadsBack dstr2int v text :=
    ⟨_, utoa_eq le_rfl (by omega) v, dstr2int_reads_back v⟩
  have hhex : ∃ text, utoa v 16 = some text ∧ ReadsBack hstr2int v text :=
    ⟨_, utoa_eq (by omega) le_rfl v, hstr2int_reads_back v⟩
  rw [← itoa_isDecimal_iff w]
  exact ⟨fun h => h.2.2, fun h => ⟨hdecimal, hhex, h⟩⟩

/-- The least number is written as a sign without digits. -/
theorem itoa_minValue_not_decimal :
    itoa Int32.minValue 10 = some ['-'.toUInt8] ∧
      ¬ ∃ text, itoa Int32.minValue 10 = some text ∧ IsDecimal Int32.minValue.toInt text :=
  ⟨itoa_minValue, fun h => (itoa_isDecimal_iff _).mp h rfl⟩

end A733Boot.Ar100s.Numbers
