/-
Fields of registers, and programs that set some of them.

* `FieldWrite`: a register, a field of it and the value it gets; `FieldWrite.shifted`: one
  that is given by its position;
* `shifted_disjoint`, `shifted_within`: fields that are given by their position;
* `FieldWrite.apply`, `applyAll`: the registers after one and after several of them;
* `apply_comm`, `applyAll_comm`: fields that are apart can be set in any order;
* `applyAll_agreeOff`, `applyAll_keeps`: what may change, and what does not;
* `updateField`: the read-modify-write that sets a field.
-/
import A733Boot.Library.Registers

namespace A733Boot

/-! ### Fields by position -/

/-- The word that has the lowest `k` bits. -/
lemma bit_lowMask {m : UInt32} {k : ℕ} (hm : m.toNat = 2 ^ k - 1) (i : ℕ) :
    bit m i = decide (i < k) := by
  have htest : bit m i = m.toNat.testBit i := by
    rw [bit, ← BitVec.testBit_toNat]
    rfl
  rw [htest, hm, Nat.testBit_two_pow_sub_one]

lemma bit_lowMask_of_le {m : UInt32} {k : ℕ} (hm : m.toNat = 2 ^ k - 1) {i : ℕ} (hi : k ≤ i) :
    bit m i = false := by
  rw [bit_lowMask hm, decide_eq_false (Nat.not_lt.mpr hi)]

/-- Two fields side by side share no bit. -/
lemma shifted_disjoint {m m' : UInt32} {k k' s s' : ℕ} (hm : m.toNat = 2 ^ k - 1)
    (hm' : m'.toNat = 2 ^ k' - 1) (hs : s < 32) (hs' : s' < 32)
    (hapart : s + k ≤ s' ∨ s' + k' ≤ s) :
    m <<< UInt32.ofNat s &&& m' <<< UInt32.ofNat s' = 0 := by
  refine eq_of_bit fun i hi => ?_
  rw [bit_and, bit_shiftLeft m hs hi, bit_shiftLeft m' hs' hi, bit_zero]
  by_cases h : s ≤ i ∧ s' ≤ i
  · obtain hlt | hlt := hapart
    · rw [bit_lowMask_of_le hm (by omega : k ≤ i - s), Bool.and_false, Bool.false_and]
    · rw [bit_lowMask_of_le hm' (by omega : k' ≤ i - s'), Bool.and_false, Bool.and_false]
  · rw [not_and_or] at h
    obtain h | h := h
    · rw [decide_eq_false h, Bool.false_and, Bool.false_and]
    · rw [decide_eq_false h, Bool.false_and, Bool.and_false]

/-- A value that fits a mask fits it at any position. -/
lemma shifted_within {v m : UInt32} (h : v &&& m = v) {s : ℕ} (hs : s < 32) :
    v <<< UInt32.ofNat s &&& m <<< UInt32.ofNat s = v <<< UInt32.ofNat s := by
  refine eq_of_bit fun i hi => ?_
  rw [bit_and, bit_shiftLeft v hs hi, bit_shiftLeft m hs hi]
  have hbit : (bit v (i - s) && bit m (i - s)) = bit v (i - s) := by rw [← bit_and, h]
  by_cases hle : s ≤ i
  · rw [decide_eq_true hle, Bool.true_and, Bool.true_and, hbit]
  · rw [decide_eq_false hle, Bool.false_and, Bool.false_and]

/-- A field that was set, at its lowest bit. -/
lemma bit_set_low (w x : UInt32) {m : UInt32} (hm : bit m 0 = true) {s : ℕ} (hs : s < 32) :
    bit (w &&& ~~~(m <<< UInt32.ofNat s) ||| (x &&& m) <<< UInt32.ofNat s) s = bit x 0 := by
  rw [bit_or, bit_and, bit_not _ hs, bit_shiftLeft m hs hs, bit_shiftLeft _ hs hs, Nat.sub_self,
    bit_and, hm, decide_eq_true (le_refl s), Bool.true_and, Bool.true_and, Bool.and_true,
    Bool.not_true, Bool.and_false, Bool.false_or]

/-- A field that was set, at a bit outside of it. -/
lemma bit_set_outside (w x : UInt32) {m : UInt32} {k s p : ℕ} (hm : m.toNat = 2 ^ k - 1)
    (hs : s < 32) (hp : p < 32) (h : p < s ∨ s + k ≤ p) :
    bit (w &&& ~~~(m <<< UInt32.ofNat s) ||| (x &&& m) <<< UInt32.ofNat s) p = bit w p := by
  have hmask : ∀ y : UInt32, bit ((y &&& m) <<< UInt32.ofNat s) p = false := by
    intro y
    rw [bit_shiftLeft _ hs hp, bit_and]
    obtain hlt | hle := h
    · rw [decide_eq_false (Nat.not_le.mpr hlt), Bool.false_and]
    · rw [bit_lowMask_of_le hm (by omega : k ≤ p - s), Bool.and_false, Bool.and_false]
  have hself := hmask m
  rw [UInt32.and_self] at hself
  rw [bit_or, bit_and, bit_not _ hp, hself, hmask, Bool.not_false, Bool.and_true, Bool.or_false]

/-! ### Setting fields -/

/-- A field of a register and the value it gets, which fits it. -/
structure FieldWrite where
  addr : ℕ
  mask : UInt32
  value : UInt32
  within : value &&& mask = value

namespace FieldWrite

/-- The field of mask `m` at a position, which gets the low bits of `x`. -/
def shifted (addr : ℕ) (m x : UInt32) (s : ℕ) (hs : s < 32) : FieldWrite :=
  ⟨addr, m <<< UInt32.ofNat s, (x &&& m) <<< UInt32.ofNat s,
    shifted_within (by rw [UInt32.and_assoc, UInt32.and_self]) hs⟩

variable {f g : FieldWrite} {l l' : List FieldWrite}

/-- The registers after the field was set. -/
def apply (f : FieldWrite) (w : ℕ → UInt32) : ℕ → UInt32 :=
  Function.update w f.addr (w f.addr &&& ~~~f.mask ||| f.value)

/-- The fields share no bit. -/
def Apart (f g : FieldWrite) : Prop := f.addr ≠ g.addr ∨ f.mask &&& g.mask = 0

/-- Fields in different registers, or side by side. -/
lemma shifted_apart {a a' : ℕ} {m m' x x' : UInt32} {s s' k k' : ℕ} {hs : s < 32} {hs' : s' < 32}
    (hm : m.toNat = 2 ^ k - 1) (hm' : m'.toNat = 2 ^ k' - 1)
    (h : a ≠ a' ∨ s + k ≤ s' ∨ s' + k' ≤ s) :
    Apart (shifted a m x s hs) (shifted a' m' x' s' hs') :=
  h.imp id fun h => shifted_disjoint hm hm' hs hs' h

/-- Outside the field nothing changes. -/
lemma apply_agreeOff (f : FieldWrite) (w : ℕ → UInt32) (a : ℕ) {m : UInt32}
    (h : f.addr = a → f.mask &&& m = f.mask) : AgreeOff m (f.apply w a) (w a) := by
  by_cases ha : a = f.addr
  · subst ha
    rw [apply, Function.update_self]
    have hvalue : AgreeOff f.mask (w f.addr &&& ~~~f.mask ||| f.value) (w f.addr) :=
      (AgreeOff.or f.within _).trans (AgreeOff.and_not (UInt32.and_self) _)
    exact hvalue.mono (h rfl)
  · rw [apply, Function.update_of_ne ha]
    exact AgreeOff.refl m _

/-- Fields that are apart can be set in any order. -/
lemma apply_comm (h : Apart f g) (w : ℕ → UInt32) : f.apply (g.apply w) = g.apply (f.apply w) := by
  by_cases hne : f.addr = g.addr
  · have hmask := h.resolve_left (not_not.mpr hne)
    simp only [apply, hne, Function.update_self, Function.update_idem]
    refine congrArg _ (eq_of_bit fun i hi => ?_)
    have hf : (bit f.value i && bit f.mask i) = bit f.value i := by rw [← bit_and, f.within]
    have hg : (bit g.value i && bit g.mask i) = bit g.value i := by rw [← bit_and, g.within]
    have hboth : (bit f.mask i && bit g.mask i) = false := by rw [← bit_and, hmask, bit_zero]
    simp only [bit_or, bit_and, bit_not _ hi]
    revert hf hg hboth
    cases bit f.value i <;> cases bit f.mask i <;> cases bit g.value i <;> cases bit g.mask i <;>
      cases bit (w g.addr) i <;> decide
  · simp only [apply, Function.update_of_ne hne, Function.update_of_ne (Ne.symm hne)]
    exact Function.update_comm (Ne.symm hne) _ _ w

/-- The registers after the fields were set, one after the other. -/
def applyAll (l : List FieldWrite) (w : ℕ → UInt32) : ℕ → UInt32 := l.foldl (fun w f => f.apply w) w

lemma apply_applyAll_comm (h : ∀ g ∈ l, Apart f g) (w : ℕ → UInt32) :
    f.apply (applyAll l w) = applyAll l (f.apply w) := by
  induction l generalizing w with
  | nil => rfl
  | cons g l ih =>
      rw [List.forall_mem_cons] at h
      calc f.apply (applyAll (g :: l) w)
          = f.apply (applyAll l (g.apply w)) := rfl
        _ = applyAll l (f.apply (g.apply w)) := ih h.2 _
        _ = applyAll l (g.apply (f.apply w)) := by rw [apply_comm h.1]

/-- Settings that are apart commute. -/
lemma applyAll_comm (h : ∀ f ∈ l, ∀ g ∈ l', Apart f g) (w : ℕ → UInt32) :
    applyAll l (applyAll l' w) = applyAll l' (applyAll l w) := by
  induction l generalizing w with
  | nil => rfl
  | cons f l ih =>
      rw [List.forall_mem_cons] at h
      calc applyAll (f :: l) (applyAll l' w)
          = applyAll l (f.apply (applyAll l' w)) := rfl
        _ = applyAll l (applyAll l' (f.apply w)) := by rw [apply_applyAll_comm h.1]
        _ = applyAll l' (applyAll (f :: l) w) := ih h.2 _

/-- Only the fields change. -/
lemma applyAll_agreeOff {a : ℕ} {m : UInt32}
    (h : ∀ f ∈ l, f.addr = a → f.mask &&& m = f.mask) (w : ℕ → UInt32) :
    AgreeOff m (applyAll l w a) (w a) := by
  induction l generalizing w with
  | nil => exact AgreeOff.refl m _
  | cons f l ih =>
      rw [List.forall_mem_cons] at h
      exact (ih h.2 (f.apply w)).trans (f.apply_agreeOff w a h.1)

/-- A field that is apart from all that are set. -/
lemma applyAll_keeps (h : ∀ f ∈ l, Apart f g) (w : ℕ → UInt32) :
    applyAll l w g.addr &&& g.mask = w g.addr &&& g.mask := by
  have hoff : AgreeOff (~~~g.mask) (applyAll l w g.addr) (w g.addr) := by
    refine applyAll_agreeOff (fun f hf haddr => ?_) w
    have hmask := (h f hf).resolve_left (not_not.mpr haddr)
    refine eq_of_bit fun i hi => ?_
    have hboth : (bit f.mask i && bit g.mask i) = false := by rw [← bit_and, hmask, bit_zero]
    rw [bit_and, bit_not _ hi]
    revert hboth
    cases bit f.mask i <;> cases bit g.mask i <;> decide
  rwa [AgreeOff, UInt32.not_not] at hoff

end FieldWrite

/-- The read-modify-write that sets a field. -/
def updateField (d : Device) (addr : ℕ) (mask value : UInt32) : Io Unit := do
  let val ← readl d addr
  writel (val &&& ~~~mask ||| value) addr

lemma updateField_word {d : Device} {f : FieldWrite} (h : d.live f.addr = 0) (r : Regs) :
    (updateField d f.addr f.mask f.value r).2.word = f.apply r.word := by
  have hview : d.view r f.addr = r.word f.addr := d.view_plain h
  simp only [updateField, bind_apply, readl_fst, writel_word, readl_word, hview, FieldWrite.apply]

/-- The same for a field that is given by its position, and a value that fits it. -/
lemma updateField_shifted {d : Device} {a : ℕ} (h : d.live a = 0) {m x : UInt32} (hx : x &&& m = x)
    {s : ℕ} (hs : s < 32) (r : Regs) :
    (updateField d a (m <<< UInt32.ofNat s) (x <<< UInt32.ofNat s) r).2.word
      = (FieldWrite.shifted a m x s hs).apply r.word := by
  have hset := updateField_word (f := .shifted a m x s hs) h r
  simp only [FieldWrite.shifted, hx] at hset
  rw [hset]
  simp only [FieldWrite.shifted, hx]

end A733Boot
