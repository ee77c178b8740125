/-
A flat byte memory: block copies, big-endian and little-endian words.

* `memcpy`: a block copy, with `memcpy_inside` for the bytes it delivers and
  `memcpy_outside` for the frame;
* `storeBe32`, `loadBe32`: a 32-bit word stored most significant byte first, with
  `loadBe32_storeBe32` and the two frame lemmas;
* `loadLe32`: a 32-bit word that stands least significant byte first.
-/
import A733Boot.Library.Bytes

namespace A733Boot

/-- A memory: a byte at every address. -/
abbrev Mem := ℕ → UInt8

namespace Mem

/-- The memory after copying `n` bytes from `src` to `dst`, the ranges being
disjoint. -/
def memcpy (m : Mem) (dst src n : ℕ) : Mem :=
  fun a => if dst ≤ a ∧ a < dst + n then m (src + (a - dst)) else m a

lemma memcpy_inside (m : Mem) (dst src : ℕ) {n i : ℕ} (hi : i < n) :
    m.memcpy dst src n (dst + i) = m (src + i) := by
  rw [memcpy, if_pos ⟨by omega, by omega⟩, Nat.add_sub_cancel_left]

lemma memcpy_outside (m : Mem) {dst n a : ℕ} (src : ℕ) (h : a < dst ∨ dst + n ≤ a) :
    m.memcpy dst src n a = m a := by
  rw [memcpy, if_neg (by omega)]

lemma memcpy_zero (m : Mem) (dst src : ℕ) : m.memcpy dst src 0 = m :=
  funext fun _ => memcpy_outside m src (by omega)

/-- The bytes of the memory from an address on. -/
def view (m : Mem) (base : ℕ) : Mem := fun i => m (base + i)

/-- The word whose bytes stand at `a`, most significant first. -/
def loadBe32 (m : Mem) (a : ℕ) : ℕ := (Buf.mk 0 m).be a 4

/-- The word whose bytes stand at `a`, least significant first. -/
def loadLe32 (m : Mem) (a : ℕ) : UInt32 :=
  (m a).toUInt32 ||| (m (a + 1)).toUInt32 <<< 8 ||| (m (a + 2)).toUInt32 <<< 16 |||
    (m (a + 3)).toUInt32 <<< 24

/-- The memory after storing the word `v` at `a`, most significant byte first. -/
def storeBe32 (m : Mem) (a : ℕ) (v : UInt32) : Mem :=
  fun x => if a ≤ x ∧ x < a + 4 then UInt8.ofNat (v.toNat / 256 ^ (3 - (x - a))) else m x

lemma storeBe32_outside (m : Mem) {a x : ℕ} (v : UInt32) (h : x < a ∨ a + 4 ≤ x) :
    m.storeBe32 a v x = m x := by
  rw [storeBe32, if_neg (by omega)]

lemma loadBe32_lt (m : Mem) (a : ℕ) : m.loadBe32 a < 2 ^ 32 := by
  have hlt := Nat.ofDigits_lt_base_pow_length (b := 256)
    (l := (((Buf.mk 0 m).slice a 4).map UInt8.toNat).reverse) (by norm_num) (by
      intro x hx
      obtain ⟨y, -, rfl⟩ := List.mem_map.mp (List.mem_reverse.mp hx)
      exact y.toNat_lt)
  rw [List.length_reverse, List.length_map, Buf.slice_length] at hlt
  exact hlt

lemma loadBe32_congr {m m' : Mem} {a : ℕ} (h : ∀ i < 4, m (a + i) = m' (a + i)) :
    m.loadBe32 a = m'.loadBe32 a := by
  rw [loadBe32, loadBe32, Buf.be, Buf.be, Buf.slice_congr (b := ⟨0, m⟩) (c := ⟨0, m'⟩) h]

@[simp] lemma loadBe32_storeBe32 (m : Mem) (a : ℕ) (v : UInt32) :
    (m.storeBe32 a v).loadBe32 a = v.toNat := by
  have hv := v.toNat_lt
  have hbyte : ∀ i < 4, m.storeBe32 a v (a + i) = UInt8.ofNat (v.toNat / 256 ^ (3 - i)) := by
    intro i hi
    rw [storeBe32, if_pos ⟨by omega, by omega⟩, Nat.add_sub_cancel_left]
  have h0 := hbyte 0 (by omega)
  have h1 := hbyte 1 (by omega)
  have h2 := hbyte 2 (by omega)
  have h3 := hbyte 3 (by omega)
  simp only [Nat.add_zero] at h0
  simp only [loadBe32, Buf.be, Buf.slice, h0, h1, h2, h3, List.map_cons, List.map_nil,
    List.reverse_cons, List.reverse_nil, List.nil_append, List.cons_append, Nat.ofDigits_cons,
    Nat.ofDigits_nil, UInt8.toNat_ofNat']
  omega

/-- A word seen from a base address. -/
lemma loadBe32_view (m : Mem) (base a : ℕ) : (m.view base).loadBe32 a = m.loadBe32 (base + a) := by
  have hslice : (Buf.mk 0 (m.view base)).slice a 4 = (Buf.mk 0 m).slice (base + a) 4 :=
    Buf.slice_eq_slice_iff.mpr fun i _ => congrArg m (by omega)
  rw [loadBe32, loadBe32, Buf.be, Buf.be, hslice]

/-- A store seen from a base address. -/
lemma view_storeBe32 (m : Mem) (base o : ℕ) (v : UInt32) :
    (m.storeBe32 (base + o) v).view base = (m.view base).storeBe32 o v := by
  funext x
  simp only [view, storeBe32, show base + x - (base + o) = x - o by omega]
  by_cases h : o ≤ x ∧ x < o + 4
  · rw [if_pos h, if_pos (by omega)]
  · rw [if_neg h, if_neg (by omega)]

end Mem

end A733Boot
