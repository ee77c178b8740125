/-
The tokens of the structure block: `fdt_offset_ptr` and `fdt_next_tag` of
`ar100s/library/libfdt/fdt.c`, on any bytes at all.

A tree is the memory seen from its first byte. An offset is an `int`, an address has 32
bits, and a scan or a loop that does not end has no result.

* `fdtOffsetPtr_eq`: from version 17 on, the check admits exactly the ranges inside the
  structure block;
* `fdtNextTag_eq`: what `fdt_next_tag` returns, the length of a property being reduced
  modulo `2 ^ 32`;
* `fdtNextTag_spec`: the next offset is an error or not in front of the one that was asked
  for, and equal to it exactly at a property of length `0xfffffff4` (`Stuck`).
-/
import A733Boot.Library.Ints
import A733Boot.Library.Strings
import A733Boot.Boot.HwConfig

namespace A733Boot.Fdt

def fdtErrNotfound : ℤ := 1
def fdtErrBadoffset : ℤ := 4
def fdtErrBadpath : ℤ := 5
def fdtErrTruncated : ℤ := 8
def fdtErrBadstructure : ℤ := 11
def fdtErrInternal : ℤ := 13

def fdtTagsize : ℕ := 4
def fdtBeginNode : ℕ := 1
def fdtEndNode : ℕ := 2
def fdtProp : ℕ := 3
def fdtNop : ℕ := 4
def fdtEnd : ℕ := 9

def fdtOffDtStruct (fdt : Mem) : ℕ := fdt.loadBe32 8
def fdtOffDtStrings (fdt : Mem) : ℕ := fdt.loadBe32 12

/-- `_fdt_offset_ptr`, as the distance from the start of the tree. -/
def fdtOffsetPtrRaw (fdt : Mem) (offset : ℤ) : ℕ := u32 (fdtOffDtStruct fdt + offset)

/-- The sum of the offset and the length is unsigned, and so are the comparisons with it. The last
check, for a pointer that runs over the end of the address space, is left out: addresses count
from the start of the tree. -/
def fdtOffsetPtr (fdt : Mem) (offset : ℤ) (len : ℕ) : Option ℕ :=
  if 0x11 ≤ fdtVersion fdt ∧
      (u32 (offset + len) < u32 offset ∨ fdtSizeDtStruct fdt < u32 (offset + len)) then none
  else some (fdtOffsetPtrRaw fdt offset)

end A733Boot.Fdt

namespace A733Boot.Mem

open Fdt

/-- The loop over a name: the offset behind its zero byte, or `some none` where the block
ends before it. -/
def skipName (fdt : Mem) (offset : ℤ) : Option (Option ℤ) :=
  match fdtOffsetPtr fdt offset 1 with
  | none => some none
  | some p =>
      if fdt p = 0 then some (some (i32 (offset + 1))) else fdt |>.skipName (i32 (offset + 1))
partial_fixpoint

end A733Boot.Mem

namespace A733Boot.Fdt

open Mem

/-- The switch of `fdt_next_tag`: the end of the token, `offset` being behind its tag, or
`some none` where the function gives up. -/
def tokenEnd (fdt : Mem) (tag : ℕ) (offset : ℤ) : Option (Option ℤ) :=
  if tag = fdtBeginNode then skipName fdt offset
  else if tag = fdtProp then
    match fdtOffsetPtr fdt offset 4 with
    | none => some none
    -- the sum with the length is unsigned, and wraps
    | some lenp => some (some (i32 (offset + 8 + fdt.loadBe32 lenp)))
  else if tag = fdtEnd ∨ tag = fdtEndNode ∨ tag = fdtNop then some (some offset)
  else some none

/-- `FDT_TAGALIGN`: the size of a tag is unsigned, and with it the sum. -/
def fdtTagalign (x : ℤ) : ℤ := i32 (u32 (x + 3) / 4 * 4)

/-- The last check, and what is returned: the tag and the next offset. -/
def tokenNext (fdt : Mem) (startoffset : ℤ) (tag : ℕ) : Option ℤ → ℕ × ℤ
  | none => (fdtEnd, -fdtErrBadstructure)
  | some offset =>
      if (fdtOffsetPtr fdt startoffset (u32 (offset - startoffset))).isNone then
        (fdtEnd, -fdtErrBadstructure)
      else (tag, fdtTagalign offset)

def fdtNextTag (fdt : Mem) (startoffset : ℤ) : Option (ℕ × ℤ) :=
  match fdtOffsetPtr fdt startoffset fdtTagsize with
  | none => some (fdtEnd, -fdtErrTruncated)
  | some tagp =>
      let tag := fdt.loadBe32 tagp
      (tokenEnd fdt tag (i32 (startoffset + fdtTagsize))).map (tokenNext fdt startoffset tag)

/-! ### The checks of a tree of version 17 -/

/-- The check on the ranges is in force, and no offset inside the block is negative. -/
structure Checked (fdt : Mem) : Prop where
  version : 0x11 ≤ fdtVersion fdt
  size : fdtSizeDtStruct fdt + 4 ≤ 2 ^ 31

section Any

variable {fdt : Mem} {o len : ℕ}

/-- The check admits the ranges inside the structure block: a sum that wraps is smaller than
the offset. -/
lemma fdtOffsetPtr_eq (h : Checked fdt) (ho : o < 2 ^ 31) (hlen : len < 2 ^ 32) :
    fdtOffsetPtr fdt o len =
      if o + len ≤ fdtSizeDtStruct fdt then some (fdtOffsetPtrRaw fdt o) else none := by
  have hsize := h.size
  have hstart : u32 (o : ℤ) = o := u32_eq rfl (by omega)
  have hiff : (u32 ((o : ℤ) + len) < o ∨ fdtSizeDtStruct fdt < u32 ((o : ℤ) + len)) ↔
      ¬ o + len ≤ fdtSizeDtStruct fdt := by
    by_cases hfit : o + len < 2 ^ 32
    · rw [u32_eq (by push_cast; rfl) hfit]
      omega
    · rw [show u32 ((o : ℤ) + len) = o + len - 2 ^ 32 by simp only [u32]; omega]
      omega
  rw [fdtOffsetPtr, hstart]
  by_cases hin : o + len ≤ fdtSizeDtStruct fdt
  · rw [if_pos hin, if_neg fun hc => hiff.mp hc.2 hin]
  · rw [if_neg hin, if_pos ⟨h.version, hiff.mpr hin⟩]

/-- The scan of a name ends, inside the block if it finds the zero byte. -/
lemma skipName_spec (h : Checked fdt) (ho : o ≤ fdtSizeDtStruct fdt) :
    skipName fdt o = some none ∨
      ∃ n : ℕ, skipName fdt o = some (some (n : ℤ)) ∧ o < n ∧ n ≤ fdtSizeDtStruct fdt := by
  have hsize := h.size
  induction hk : fdtSizeDtStruct fdt - o using Nat.strong_induction_on generalizing o with
  | _ k ih =>
    have hnext : i32 ((o : ℤ) + 1) = ((o + 1 : ℕ) : ℤ) := by
      rw [i32_eq (by omega) (by omega), Nat.cast_succ]
    rw [skipName, fdtOffsetPtr_eq h (by omega) (by norm_num)]
    by_cases hin : o + 1 ≤ fdtSizeDtStruct fdt
    · rw [if_pos hin]
      by_cases hzero : fdt (fdtOffsetPtrRaw fdt o) = 0
      · exact .inr ⟨o + 1, by simp only [hzero, if_true, hnext], by omega, hin⟩
      · simp only [hzero, if_false, hnext]
        rcases ih (fdtSizeDtStruct fdt - (o + 1)) (by omega) hin rfl with hnone | ⟨n, hn, hlt, hle⟩
        · exact .inl hnone
        · exact .inr ⟨n, hn, by omega, hle⟩
    · rw [if_neg hin]
      exact .inl rfl

/-- The alignment of an offset inside the block. -/
lemma fdtTagalign_eq (ho : o + 4 ≤ 2 ^ 31) : fdtTagalign o = alignUp o := by
  have hround := le_alignUp o
  rw [fdtTagalign, u32_eq (n := o + 3) (by push_cast; rfl) (by omega)]
  rw [alignUp] at hround ⊢
  rw [i32_eq (by omega) (by omega)]
  push_cast
  rfl

/-- The tag does not fit into the block. -/
lemma fdtNextTag_truncated (h : Checked fdt) (ho : o < 2 ^ 31)
    (hin : ¬ o + 4 ≤ fdtSizeDtStruct fdt) : fdtNextTag fdt o = some (fdtEnd, -fdtErrTruncated) := by
  rw [fdtNextTag, fdtOffsetPtr_eq h ho (by norm_num [fdtTagsize]), fdtTagsize, if_neg hin]

/-- The tag does. -/
lemma fdtNextTag_start (h : Checked fdt) (hin : o + 4 ≤ fdtSizeDtStruct fdt) :
    fdtNextTag fdt o =
      (tokenEnd fdt (fdt.loadBe32 (fdtOffsetPtrRaw fdt o)) (o + 4 : ℕ)).map
        (tokenNext fdt o (fdt.loadBe32 (fdtOffsetPtrRaw fdt o))) := by
  have hsize := h.size
  have hoff : i32 ((o : ℤ) + (4 : ℕ)) = ((o + 4 : ℕ) : ℤ) := by
    rw [i32_eq (by omega) (by omega)]
    push_cast
    rfl
  rw [fdtNextTag, fdtOffsetPtr_eq h (by omega) (by norm_num [fdtTagsize]), fdtTagsize, if_pos hin]
  simp only [hoff]

/-- A token that starts and ends inside the block, `k` bytes long without its padding. -/
lemma tokenNext_eq (h : Checked fdt) (ho : o ≤ fdtSizeDtStruct fdt) (tag : ℕ) {k : ℕ}
    (hk : k < 2 ^ 32) :
    tokenNext fdt o tag (some (i32 (o + k))) =
      if o + k ≤ fdtSizeDtStruct fdt then (tag, (alignUp (o + k) : ℤ))
      else (fdtEnd, -fdtErrBadstructure) := by
  have hsize := h.size
  have hlen : u32 (i32 ((o : ℤ) + k) - o) = k := by
    rw [sub_eq_neg_add, u32_add_i32]
    exact u32_eq (by ring) hk
  rw [tokenNext, hlen, fdtOffsetPtr_eq h (by omega) hk]
  by_cases hstop : o + k ≤ fdtSizeDtStruct fdt
  · rw [if_pos hstop, if_pos hstop, if_neg (by simp), i32_eq (by omega) (by omega),
      show ((o : ℤ) + k) = ((o + k : ℕ) : ℤ) by push_cast; rfl, fdtTagalign_eq (by omega)]
  · rw [if_neg hstop, if_neg hstop, if_pos (by simp)]

/-- A property whose length, together with the twelve bytes in front of the value, is zero
modulo `2 ^ 32`. -/
def Stuck (fdt : Mem) (o : ℕ) : Prop :=
  o + 8 ≤ fdtSizeDtStruct fdt ∧ fdt.loadBe32 (fdtOffsetPtrRaw fdt o) = fdtProp ∧
    fdt.loadBe32 (fdtOffsetPtrRaw fdt (o + 4 : ℕ)) = 0xfffffff4

instance : Decidable (Stuck fdt o) := inferInstanceAs (Decidable (_ ∧ _ ∧ _))

lemma tokenEnd_stuck (h : Checked fdt) (hs : Stuck fdt o) :
    tokenEnd fdt fdtProp (o + 4 : ℕ) = some (some (i32 (o + (0 : ℕ)))) := by
  have hsize := h.size
  have hin := hs.1
  rw [tokenEnd, if_neg (by decide), if_pos rfl, fdtOffsetPtr_eq h (by omega) (by norm_num),
    if_pos hin]
  simp only [hs.2.2, Option.some.injEq, i32]
  omega

/-- The next offset of a property that is stuck is its own. -/
lemma fdtNextTag_stuck (h : Checked fdt) (halign : o % 4 = 0) (hs : Stuck fdt o) :
    fdtNextTag fdt o = some (fdtProp, (o : ℤ)) := by
  have hin := hs.1
  rw [fdtNextTag_start h (by omega), hs.2.1, tokenEnd_stuck h hs, Option.map_some,
    tokenNext_eq h (by omega) _ (by norm_num), if_pos (by omega), alignUp]
  congr 2
  omega

/-- What the switch finds: nothing, or a token of `k` bytes, which are none only at a property
that is stuck. -/
lemma tokenEnd_spec (h : Checked fdt) (hin : o + 4 ≤ fdtSizeDtStruct fdt) :
    let tag := fdt.loadBe32 (fdtOffsetPtrRaw fdt o)
    tokenEnd fdt tag (o + 4 : ℕ) = some none ∨
      ∃ k : ℕ, k < 2 ^ 32 ∧ tokenEnd fdt tag (o + 4 : ℕ) = some (some (i32 (o + k))) ∧
        (k = 0 ↔ Stuck fdt o) ∧ tag ∈ [fdtBeginNode, fdtEndNode, fdtProp, fdtNop, fdtEnd] := by
  have hsize := h.size
  intro tag
  have hnot : tag ≠ fdtProp → ¬ Stuck fdt o := fun hne hs => hne hs.2.1
  rw [tokenEnd]
  by_cases hbegin : tag = fdtBeginNode
  · rw [if_pos hbegin]
    rcases skipName_spec h hin with hnone | ⟨n, hn, hlt, hle⟩
    · exact .inl hnone
    · refine .inr ⟨n - o, by omega, ?_, ?_, by simp [hbegin]⟩
      · rw [hn, i32_eq (by omega) (by omega)]
        push_cast [show o ≤ n by omega]
        simp
      · exact iff_of_false (by omega) (hnot (by rw [hbegin]; decide))
  rw [if_neg hbegin]
  by_cases hprop : tag = fdtProp
  · rw [if_pos hprop, fdtOffsetPtr_eq h (by omega) (by norm_num)]
    by_cases hlen : o + 4 + 4 ≤ fdtSizeDtStruct fdt
    · rw [if_pos hlen]
      have hword := Mem.loadBe32_lt fdt (fdtOffsetPtrRaw fdt (o + 4 : ℕ))
      refine .inr ⟨(12 + fdt.loadBe32 (fdtOffsetPtrRaw fdt (o + 4 : ℕ))) % 2 ^ 32,
        Nat.mod_lt _ (by norm_num), ?_, ?_, by simp [hprop]⟩
      · have hmod : i32 ((o + 4 : ℕ) + 8 + (fdt.loadBe32 (fdtOffsetPtrRaw fdt (o + 4 : ℕ)) : ℤ))
            = i32 (o + ((12 + fdt.loadBe32 (fdtOffsetPtrRaw fdt (o + 4 : ℕ))) % 2 ^ 32 : ℕ)) := by
          generalize fdt.loadBe32 (fdtOffsetPtrRaw fdt (o + 4 : ℕ)) = len
          simp only [i32]
          omega
        exact congrArg (fun x => some (some x)) hmod
      · refine ⟨fun hk => ⟨hlen, hprop, by omega⟩, fun hs => by rw [hs.2.2]; norm_num⟩
    · rw [if_neg hlen]
      exact .inl rfl
  rw [if_neg hprop]
  by_cases hplain : tag = fdtEnd ∨ tag = fdtEndNode ∨ tag = fdtNop
  · rw [if_pos hplain]
    refine .inr ⟨4, by norm_num, ?_, iff_of_false (by norm_num) (hnot hprop), ?_⟩
    · rw [i32_eq (by omega) (by omega)]
      push_cast
      rfl
    · rcases hplain with heq | heq | heq <;> simp [heq]
  · rw [if_neg hplain]
    exact .inl rfl

/-- **Progress on any bytes**: `fdt_next_tag` returns, and its next offset is an error, or it
is aligned, not far behind the block, and behind the offset it was asked for unless that is a
property that is stuck. -/
lemma fdtNextTag_spec (h : Checked fdt) (ho : o < 2 ^ 31) (halign : o % 4 = 0) :
    ∃ tag next, fdtNextTag fdt o = some (tag, next) ∧
      tag ∈ [fdtBeginNode, fdtEndNode, fdtProp, fdtNop, fdtEnd] ∧
      (next < 0 ∧ tag = fdtEnd ∧ ¬ Stuck fdt o ∨
        ∃ n : ℕ, next = n ∧ n % 4 = 0 ∧ o ≤ n ∧ n < fdtSizeDtStruct fdt + 4 ∧
          (n = o ↔ Stuck fdt o)) := by
  have hsize := h.size
  by_cases hin : o + 4 ≤ fdtSizeDtStruct fdt
  · rw [fdtNextTag_start h hin]
    rcases tokenEnd_spec h hin with hnone | ⟨k, hk, hend, hstuck, htag⟩
    · rw [hnone]
      refine ⟨_, _, rfl, by simp, .inl ⟨by decide, rfl, fun hs => ?_⟩⟩
      rw [hs.2.1, tokenEnd_stuck h hs] at hnone
      exact absurd (Option.some.inj hnone) (by simp)
    · rw [hend, Option.map_some, tokenNext_eq h (by omega) _ hk]
      have hround := le_alignUp (o + k)
      have hmod := alignUp_mod (o + k)
      by_cases hstop : o + k ≤ fdtSizeDtStruct fdt
      · rw [if_pos hstop]
        refine ⟨_, _, rfl, htag, .inr ⟨alignUp (o + k), rfl, hmod, by omega, by omega, ?_⟩⟩
        rw [← hstuck]
        constructor
        · intro heq
          omega
        · rintro rfl
          omega
      · rw [if_neg hstop]
        refine ⟨_, _, rfl, by simp, .inl ⟨by decide, rfl, fun hs => ?_⟩⟩
        have := hstuck.mpr hs
        omega
  · refine ⟨_, _, fdtNextTag_truncated h (by omega) hin, by simp,
      .inl ⟨by decide, rfl, fun hs => hin ?_⟩⟩
    have := hs.1
    omega

end Any

end A733Boot.Fdt
