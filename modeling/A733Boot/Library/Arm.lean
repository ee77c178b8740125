/-
A few instructions of a 32-bit ARM processor, and loops that end with a conditional branch.

Registers, addresses and words are bit vectors, so that sums wrap as they do in the
processor; of the flags there are `Z` and `C`. The state keeps a record of the bytes that
were read and written, of the cache lines that were cleaned, and whether every word was
accessed at a multiple of four.

* `Arm`, `block`: a state, and the instructions of a block one after the other;
* `store32_load32`, `store32_zero`: words and their bytes, the least significant first;
* `doWhile`, `doWhile_counted` (**counted loops**): a loop whose branch is taken until the
  last of `n` rounds ends after them, with what each round preserves.
-/
import Mathlib.Data.BitVec
import Mathlib.Logic.Function.Basic

namespace A733Boot

/-! ### Loops -/

section Loops

variable {σ : Type}

/-- The loop `1: body; b<again> 1b`, with a bound on its rounds. -/
def doWhile (body : σ → σ) (again : σ → Bool) : ℕ → σ → Option σ
  | 0, _ => none
  | fuel + 1, s => if again (body s) then doWhile body again fuel (body s) else some (body s)

/-- **Counted loops**: each of `n` rounds keeps the invariant, and the branch is taken after
all of them but the last. -/
lemma doWhile_counted {body : σ → σ} {again : σ → Bool} (Inv : ℕ → σ → Prop) {n fuel : ℕ}
    (hn : 0 < n) (hfuel : n ≤ fuel)
    (hround : ∀ i < n, ∀ s, Inv i s →
      Inv (i + 1) (body s) ∧ (again (body s) = true ↔ i + 1 < n))
    {s : σ} (hs : Inv 0 s) : ∃ s', doWhile body again fuel s = some s' ∧ Inv n s' := by
  -- what is left of the loop after `i` rounds
  have hrest : ∀ k i, i + k = n → 0 < k → ∀ fuel, k ≤ fuel → ∀ s, Inv i s →
      ∃ s', doWhile body again fuel s = some s' ∧ Inv n s' := by
    intro k
    induction k with
    | zero => exact fun i _ hk => absurd hk (Nat.lt_irrefl 0)
    | succ k ih =>
        intro i hi _ fuel hfuel s hs
        obtain ⟨fuel, rfl⟩ : ∃ m, fuel = m + 1 := ⟨fuel - 1, by omega⟩
        obtain ⟨hnext, hagain⟩ := hround i (by omega) s hs
        rw [doWhile]
        by_cases hlast : i + 1 < n
        · rw [if_pos (hagain.mpr hlast)]
          exact ih (i + 1) (by omega) (by omega) fuel (by omega) _ hnext
        · have heq : i + 1 = n := by omega
          rw [if_neg fun h => hlast (hagain.mp h)]
          exact ⟨body s, rfl, heq ▸ hnext⟩
  exact hrest n 0 (Nat.zero_add n) hn fuel hfuel s hs

end Loops

/-! ### Words in memory -/

/-- A memory of bytes. -/
abbrev Memory := BitVec 32 → UInt8

/-- The word at `a`, its least significant byte first. -/
def load32 (m : Memory) (a : BitVec 32) : BitVec 32 :=
  (m (a + 3)).toBitVec ++ (m (a + 2)).toBitVec ++ (m (a + 1)).toBitVec ++ (m a).toBitVec

/-- The word `v` is stored at `a`. -/
def store32 (m : Memory) (a v : BitVec 32) : Memory := fun x =>
  if (x - a).toNat < 4 then UInt8.ofBitVec (v.extractLsb' (8 * (x - a).toNat) 8) else m x

section Words

variable (m : Memory) (a : BitVec 32)

lemma load32_byte {k : ℕ} (hk : k < 4) :
    UInt8.ofBitVec ((load32 m a).extractLsb' (8 * k) 8) = m (a + BitVec.ofNat 32 k) := by
  refine UInt8.eq_of_toBitVec_eq (BitVec.eq_of_getLsbD_eq fun i hi => ?_)
  simp only [load32, BitVec.getLsbD_extractLsb', BitVec.getLsbD_append, hi, decide_true,
    Bool.true_and]
  obtain rfl | rfl | rfl | rfl : k = 0 ∨ k = 1 ∨ k = 2 ∨ k = 3 := by omega
  · rw [if_pos (by omega), Nat.mul_zero, Nat.zero_add, BitVec.add_zero]
  · rw [if_neg (by omega), if_pos (by omega), Nat.mul_one, Nat.add_sub_cancel_left]
    rfl
  · rw [if_neg (by omega), if_neg (by omega), if_pos (by omega), Nat.sub_sub,
      Nat.add_sub_cancel_left]
    rfl
  · rw [if_neg (by omega), if_neg (by omega), if_neg (by omega), Nat.sub_sub, Nat.sub_sub,
      Nat.add_sub_cancel_left]
    rfl

/-- A word is copied byte by byte. -/
lemma store32_load32 (m' : Memory) (b x : BitVec 32) :
    store32 m a (load32 m' b) x = if (x - a).toNat < 4 then m' (b + (x - a)) else m x := by
  rw [store32]
  by_cases h : (x - a).toNat < 4
  · rw [if_pos h, if_pos h, load32_byte m' b h, BitVec.ofNat_toNat, BitVec.setWidth_eq]
  · rw [if_neg h, if_neg h]

/-- A word of zeros. -/
lemma store32_zero (x : BitVec 32) :
    store32 m a 0 x = if (x - a).toNat < 4 then 0 else m x := by
  rw [store32]
  by_cases h : (x - a).toNat < 4
  · rw [if_pos h, if_pos h]
    simp
  · rw [if_neg h, if_neg h]

end Words

/-! ### Instructions -/

/-- The general registers. -/
inductive Reg
  | r0 | r1 | r2 | r3 | r4 | r5 | r6 | r7 | r8 | r9 | r10 | r11 | r12
deriving DecidableEq

/-- The registers, the flags `Z` and `C` and the memory, with the addresses of the bytes that
were read and written, and the addresses that were cleaned, oldest first; `aligned` as long
as no word was accessed off its boundary. -/
structure Arm where
  reg : Reg → BitVec 32
  z : Bool
  c : Bool
  mem : Memory
  reads : List (BitVec 32)
  writes : List (BitVec 32)
  cleaned : List (BitVec 32)
  aligned : Bool

/-- The addresses of the bytes of a word. -/
def wordAddresses (a : BitVec 32) : List (BitVec 32) := [a, a + 1, a + 2, a + 3]

namespace Arm

def set (rd : Reg) (v : BitVec 32) (s : Arm) : Arm :=
  { s with reg := Function.update s.reg rd v }

/-- The conditions of the branches: `ne`, `eq` and `lo`. -/
def ne (s : Arm) : Bool := !s.z
def eq (s : Arm) : Bool := s.z
def lo (s : Arm) : Bool := !s.c

/-- `ldr rd, =v`. -/
def ldrLiteral (rd : Reg) (v : BitVec 32) (s : Arm) : Arm := s.set rd v

/-- `mov rd, rm`. -/
def mov (rd rm : Reg) (s : Arm) : Arm := s.set rd (s.reg rm)

/-- `movs rd, #imm`. -/
def movs (rd : Reg) (imm : BitVec 32) (s : Arm) : Arm := { s.set rd imm with z := imm == 0 }

/-- `lsrs rd, rm, #imm`. -/
def lsrs (rd rm : Reg) (imm : ℕ) (s : Arm) : Arm :=
  { s.set rd (s.reg rm >>> imm) with
    z := s.reg rm >>> imm == 0
    c := (s.reg rm).getLsbD (imm - 1) }

/-- `ands rd, rn, #imm`. -/
def ands (rd rn : Reg) (imm : BitVec 32) (s : Arm) : Arm :=
  { s.set rd (s.reg rn &&& imm) with z := s.reg rn &&& imm == 0 }

/-- `bic rd, rn, #imm`. -/
def bic (rd rn : Reg) (imm : BitVec 32) (s : Arm) : Arm := s.set rd (s.reg rn &&& ~~~imm)

/-- `add rd, rn, rm`. -/
def add (rd rn rm : Reg) (s : Arm) : Arm := s.set rd (s.reg rn + s.reg rm)

/-- `add rd, rn, #imm`. -/
def addImm (rd rn : Reg) (imm : BitVec 32) (s : Arm) : Arm := s.set rd (s.reg rn + imm)

/-- `subs rd, rn, #imm`; the carry is set if nothing is borrowed. -/
def subs (rd rn : Reg) (imm : BitVec 32) (s : Arm) : Arm :=
  { s.set rd (s.reg rn - imm) with
    z := s.reg rn - imm == 0
    c := decide (imm ≤ s.reg rn) }

/-- `cmp rn, rm`. -/
def cmp (rn rm : Reg) (s : Arm) : Arm :=
  { s with z := s.reg rn - s.reg rm == 0, c := decide (s.reg rm ≤ s.reg rn) }

/-- `ldr rt, [rn], #imm`. -/
def ldrPost (rt rn : Reg) (imm : BitVec 32) (s : Arm) : Arm :=
  let a := s.reg rn
  { (s.set rn (a + imm)).set rt (load32 s.mem a) with
    reads := s.reads ++ wordAddresses a
    aligned := s.aligned && a.toNat % 4 == 0 }

/-- `str rt, [rn], #imm`. -/
def strPost (rt rn : Reg) (imm : BitVec 32) (s : Arm) : Arm :=
  let a := s.reg rn
  { s.set rn (a + imm) with
    mem := store32 s.mem a (s.reg rt)
    writes := s.writes ++ wordAddresses a
    aligned := s.aligned && a.toNat % 4 == 0 }

/-- `ldrb rt, [rn], #imm`. -/
def ldrbPost (rt rn : Reg) (imm : BitVec 32) (s : Arm) : Arm :=
  let a := s.reg rn
  { (s.set rn (a + imm)).set rt ((s.mem a).toBitVec.setWidth 32) with reads := s.reads ++ [a] }

/-- `strb rt, [rn], #imm`. -/
def strbPost (rt rn : Reg) (imm : BitVec 32) (s : Arm) : Arm :=
  let a := s.reg rn
  { s.set rn (a + imm) with
    mem := Function.update s.mem a (UInt8.ofBitVec ((s.reg rt).setWidth 8))
    writes := s.writes ++ [a] }

/-- `mcr p15, 0, rt, c7, c10, 1`: the cache line of the address is cleaned. -/
def dccmvac (rt : Reg) (s : Arm) : Arm := { s with cleaned := s.cleaned ++ [s.reg rt] }

end Arm

/-- Instructions one after the other. -/
def block : List (Arm → Arm) → Arm → Arm
  | [], s => s
  | i :: l, s => block l (i s)

/-- `beq` to the end of a loop that follows. -/
def beqOver (loop : Arm → Option Arm) (s : Arm) : Option Arm := if s.eq then some s else loop s

end A733Boot
