/-
Runs of bytes in memory and the strings that a zero byte ends.

* `Mem.Holds`: a list of bytes stands at an address, with the rules for its parts and the
  frame `Holds.congr`;
* `Mem.strlen`: the scan for the zero byte, which has a result only if there is one;
* `Mem.CString`: a string in memory, known from its length and its bytes (`CString.eq_iff`).
-/
import A733Boot.Library.Memory

namespace A733Boot.Mem

/-- The bytes from `a` on are those of the list. -/
def Holds (m : Mem) (a : ℕ) (l : List UInt8) : Prop := ∀ i (h : i < l.length), m (a + i) = l[i]

instance (m : Mem) (a : ℕ) (l : List UInt8) : Decidable (m.Holds a l) :=
  inferInstanceAs (Decidable (∀ i (h : i < l.length), m (a + i) = l[i]))

section Holds

variable {m m' : Mem} {a : ℕ} {l l' : List UInt8}

lemma holds_append : m.Holds a (l ++ l') ↔ m.Holds a l ∧ m.Holds (a + l.length) l' := by
  constructor
  · intro h
    refine ⟨fun i hi => ?_, fun i hi => ?_⟩
    · rw [h i (by rw [List.length_append]; omega), List.getElem_append_left hi]
    · have hget := h (l.length + i) (by rw [List.length_append]; omega)
      simpa [Nat.add_assoc] using hget
  · rintro ⟨hl, hl'⟩ i hi
    rw [List.length_append] at hi
    by_cases hlt : i < l.length
    · rw [List.getElem_append_left hlt, hl i hlt]
    · rw [List.getElem_append_right (by omega), ← hl' (i - l.length) (by omega)]
      congr 1
      omega

lemma holds_cons {x : UInt8} : m.Holds a (x :: l) ↔ m a = x ∧ m.Holds (a + 1) l := by
  rw [show x :: l = [x] ++ l from rfl, holds_append]
  refine and_congr ⟨fun h => h 0 (by simp), fun h i hi => ?_⟩ Iff.rfl
  obtain rfl : i = 0 := by simpa using hi
  exact h

/-- Only the bytes of the run matter. -/
lemma Holds.congr (h : m.Holds a l) (heq : ∀ i < l.length, m' (a + i) = m (a + i)) :
    m'.Holds a l :=
  fun i hi => (heq i hi).trans (h i hi)

lemma Holds.of_isPrefix (h : m.Holds a l) (hl : l' <+: l) : m.Holds a l' := by
  obtain ⟨r, rfl⟩ := hl
  exact (holds_append.mp h).1

lemma Holds.drop (h : m.Holds a l) {k : ℕ} (hk : k ≤ l.length) : m.Holds (a + k) (l.drop k) := by
  have hsplit := h
  rw [← List.take_append_drop k l, holds_append, List.length_take_of_le hk] at hsplit
  exact hsplit.2

lemma Holds.view {base : ℕ} (h : m.Holds (base + a) l) : (m.view base).Holds a l := by
  intro i hi
  rw [← h i hi, Nat.add_assoc]
  rfl

/-- A run determines the list of its length. -/
lemma Holds.eq (h : m.Holds a l) (h' : m.Holds a l') (hlen : l.length = l'.length) : l = l' :=
  List.ext_getElem hlen fun i hi hi' => (h i hi).symm.trans (h' i hi')

end Holds

/-- The bytes of a list from address zero on, and zeros behind them. -/
def ofList (l : List UInt8) : Mem := fun i => l.getD i 0

lemma holds_ofList (l : List UInt8) : (ofList l).Holds 0 l := by
  intro i hi
  rw [ofList, Nat.zero_add, List.getD_eq_getElem _ _ hi]

lemma exists_zero_ofList (l : List UInt8) (a : ℕ) : ∃ b ≥ a, ofList l b = 0 :=
  ⟨max a l.length, le_max_left _ _, List.getD_eq_default _ _ (le_max_right _ _)⟩

/-- The memory after the bytes of the list have been written from `a` on. -/
def storeBytes (m : Mem) (a : ℕ) (l : List UInt8) : Mem :=
  fun x => if a ≤ x ∧ x < a + l.length then l.getD (x - a) 0 else m x

section Store

variable {m : Mem} {a : ℕ} {l : List UInt8}

lemma storeBytes_outside {x : ℕ} (h : x < a ∨ a + l.length ≤ x) : m.storeBytes a l x = m x := by
  rw [storeBytes, if_neg (by omega)]

lemma holds_storeBytes : (m.storeBytes a l).Holds a l := by
  intro i hi
  rw [storeBytes, if_pos ⟨by omega, by omega⟩, Nat.add_sub_cancel_left,
    List.getD_eq_getElem _ _ hi]

/-- A store seen from a base address. -/
lemma view_storeBytes (base : ℕ) :
    (m.storeBytes (base + a) l).view base = (m.view base).storeBytes a l := by
  funext x
  simp only [view, storeBytes, show base + x - (base + a) = x - a by omega]
  by_cases h : a ≤ x ∧ x < a + l.length
  · rw [if_pos h, if_pos (by omega)]
  · rw [if_neg h, if_neg (by omega)]

end Store

/-- The bytes of a word, most significant first. -/
def be32 (v : UInt32) : List UInt8 :=
  [UInt8.ofNat (v.toNat / 256 ^ 3), UInt8.ofNat (v.toNat / 256 ^ 2),
    UInt8.ofNat (v.toNat / 256 ^ 1), UInt8.ofNat (v.toNat / 256 ^ 0)]

lemma storeBe32_eq_storeBytes (m : Mem) (a : ℕ) (v : UInt32) :
    m.storeBe32 a v = m.storeBytes a (be32 v) := by
  funext x
  rw [storeBe32, storeBytes, show (be32 v).length = 4 from rfl]
  by_cases h : a ≤ x ∧ x < a + 4
  · rw [if_pos h, if_pos h]
    obtain ⟨i, hi, hx⟩ : ∃ i < 4, x = a + i := ⟨x - a, by omega, by omega⟩
    subst hx
    rw [Nat.add_sub_cancel_left]
    interval_cases i <;> rfl
  · rw [if_neg h, if_neg h]

/-- The word whose bytes are in place. -/
lemma Holds.loadBe32 {m : Mem} {a : ℕ} {v : UInt32} (h : m.Holds a (be32 v)) :
    m.loadBe32 a = v.toNat := by
  rw [← loadBe32_storeBe32 m a v]
  refine loadBe32_congr fun i hi => ?_
  have hlt : i < (be32 v).length := hi
  rw [h i hlt, storeBe32_eq_storeBytes, holds_storeBytes i hlt]

/-- The number of bytes in front of the first zero byte. -/
def strlen (m : Mem) (p : ℕ) : Option ℕ := do
  if m p = 0 then return 0
  else
    let n ← m |>.strlen (p + 1)
    return n + 1
partial_fixpoint

section Strlen

variable {m m' : Mem} {p : ℕ} {l : List UInt8}

/-- The string `l` stands at `p`: its bytes, none of them zero, and a zero byte. -/
structure CString (m : Mem) (p : ℕ) (l : List UInt8) : Prop where
  bytes : m.Holds p l
  nonzero : 0 ∉ l
  stop : m (p + l.length) = 0

lemma CString.strlen (h : m.CString p l) : m.strlen p = some l.length := by
  obtain ⟨hbytes, hzero, hstop⟩ := h
  induction l generalizing p with
  | nil =>
    rw [Mem.strlen, if_pos (by simpa using hstop)]
    rfl
  | cons x l ih =>
    obtain ⟨hx, hl⟩ := holds_cons.mp hbytes
    have hne : m p ≠ 0 := by
      rw [hx]
      exact fun h0 => hzero (by simp [h0])
    have hrest := ih hl (fun h0 => hzero (List.mem_cons_of_mem x h0))
      (by rw [← hstop, List.length_cons]; congr 1; omega)
    rw [Mem.strlen, if_neg hne, hrest]
    rfl

/-- The scan returns if there is a zero byte. -/
lemma strlen_returns (h : ∃ b ≥ p, m b = 0) : ∃ n, m.strlen p = some n := by
  obtain ⟨b, hb, hzero⟩ := h
  induction hk : b - p generalizing p with
  | zero =>
    obtain rfl : b = p := by omega
    exact ⟨0, by rw [Mem.strlen, if_pos hzero]; rfl⟩
  | succ k ih =>
    obtain ⟨n, hn⟩ := ih (p := p + 1) (by omega) (by omega)
    rw [Mem.strlen, hn]
    split
    · exact ⟨0, rfl⟩
    · exact ⟨n + 1, rfl⟩

lemma CString.congr (h : m.CString p l) (heq : ∀ i ≤ l.length, m' (p + i) = m (p + i)) :
    m'.CString p l :=
  ⟨h.bytes.congr fun i hi => heq i hi.le, h.nonzero, (heq _ le_rfl).trans h.stop⟩

/-- A run of bytes with a zero among them begins with a string. -/
lemma Holds.cstring (h : m.Holds p l) (hzero : 0 ∈ l) : m.CString p (l.takeWhile (· != 0)) := by
  obtain ⟨l₁, l₂, rfl, hl₁⟩ := List.eq_append_cons_of_mem hzero
  obtain ⟨hbytes, hrest⟩ := holds_append.mp h
  have hne : ∀ x ∈ l₁, (x != 0) = true := by
    intro x hx
    rw [bne_iff_ne]
    rintro rfl
    exact hl₁ hx
  have htake : (l₁ ++ 0 :: l₂).takeWhile (· != 0) = l₁ := by
    rw [List.takeWhile_append_of_pos hne, List.takeWhile_cons_of_neg (by simp), List.append_nil]
  rw [htake]
  exact ⟨hbytes, hl₁, (holds_cons.mp hrest).1⟩

/-- The bytes of a string begin with those of a list without a zero exactly if the list is a
first part of it. -/
lemma CString.holds_iff (h : m.CString p l) {l' : List UInt8} (h' : 0 ∉ l') :
    m.Holds p l' ↔ l' <+: l := by
  constructor
  · intro hbytes
    have hle : l'.length ≤ l.length := by
      by_contra hlt
      have hzero := hbytes l.length (by omega)
      exact h' ((h.stop ▸ hzero) ▸ List.getElem_mem _)
    refine List.prefix_iff_eq_take.mpr (List.ext_getElem (by simp [hle]) fun i hi hi' => ?_)
    rw [List.getElem_take, ← hbytes i hi, h.bytes i (by omega)]
  · rintro ⟨r, rfl⟩
    exact (holds_append.mp h.bytes).1

/-- A string has one length and one list of bytes. -/
lemma CString.eq_iff (h : m.CString p l) (l' : List UInt8) :
    l.length = l'.length ∧ m.Holds p l' ↔ l = l' := by
  constructor
  · rintro ⟨hlen, hbytes⟩
    exact h.bytes.eq hbytes hlen
  · rintro rfl
    exact ⟨rfl, h.bytes⟩

end Strlen

end A733Boot.Mem
