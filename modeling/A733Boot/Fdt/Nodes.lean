/-
The walk from node to node: `fdt_next_node` and the functions around it
(`ar100s/library/libfdt/fdt.c`), on any bytes at all.

* `fdtNextNode`: the loop over the tags, with the depth that it may keep;
* `Passes`: one round of that loop that is not its last;
* `nextNodeFrom_eq_none_iff`, `fdtNextNode_diverges_iff` (**when the walk ends**): the walk
  does not return exactly when a property of length `0xfffffff4` is among the tokens that it
  passes.
-/
import A733Boot.Fdt.Tags
import Mathlib.Logic.Relation

namespace A733Boot.Fdt

/-- The check that a token with the given tag stands at the offset; the next offset. -/
def checkOffset (wanted : ℕ) (fdt : Mem) (offset : ℤ) : Option ℤ :=
  if offset < 0 ∨ offset % fdtTagsize ≠ 0 then some (-fdtErrBadoffset)
  else (fdtNextTag fdt offset).map fun r => if r.1 ≠ wanted then -fdtErrBadoffset else r.2

def fdtCheckNodeOffset : Mem → ℤ → Option ℤ := checkOffset fdtBeginNode
def fdtCheckPropOffset : Mem → ℤ → Option ℤ := checkOffset fdtProp

end A733Boot.Fdt

namespace A733Boot.Mem

open Fdt

/-- The loop of `fdt_next_node`; the depth is `none` for a null pointer. -/
def nextNodeFrom (fdt : Mem) (offset : ℤ) (depth : Option ℤ) : Option (ℤ × Option ℤ) := do
  let (tag, nextoffset) ← fdtNextTag fdt offset
  if tag = fdtBeginNode then return (offset, depth.map (· + 1))
  else if tag = fdtEndNode then
    let depth := depth.map (· - 1)
    if depth.any (· < 0) then return (nextoffset, depth)
    else fdt |>.nextNodeFrom nextoffset depth
  else if tag = fdtEnd then
    if 0 ≤ nextoffset ∨ (nextoffset = -fdtErrTruncated ∧ depth = none) then
      return (-fdtErrNotfound, depth)
    else return (nextoffset, depth)
  else fdt |>.nextNodeFrom nextoffset depth
partial_fixpoint

end A733Boot.Mem

namespace A733Boot.Fdt

open Mem

def fdtNextNode (fdt : Mem) (offset : ℤ) (depth : Option ℤ) : Option (ℤ × Option ℤ) :=
  if 0 ≤ offset then do
    let nextoffset ← fdtCheckNodeOffset fdt offset
    if nextoffset < 0 then return (nextoffset, depth) else fdt |>.nextNodeFrom nextoffset depth
  else nextNodeFrom fdt 0 depth

def fdtFirstSubnode (fdt : Mem) (offset : ℤ) : Option ℤ := do
  let (offset, depth) ← fdtNextNode fdt offset (some 0)
  if offset < 0 ∨ depth ≠ some 1 then return -fdtErrNotfound else return offset

end A733Boot.Fdt

namespace A733Boot.Mem

open Fdt

/-- The loop of `fdt_next_subnode`, from a given depth. -/
def nextSubnodeFrom (fdt : Mem) (offset depth : ℤ) : Option ℤ := do
  let (offset, depth) ← fdtNextNode fdt offset (some depth)
  let depth := depth.getD 0
  if offset < 0 ∨ depth < 1 then return -fdtErrNotfound
  else if 1 < depth then fdt |>.nextSubnodeFrom offset depth
  else return offset
partial_fixpoint

end A733Boot.Mem

namespace A733Boot.Fdt

open Mem

def fdtNextSubnode (fdt : Mem) (offset : ℤ) : Option ℤ := nextSubnodeFrom fdt offset 1

/-! ### When the walk ends -/

section Walk

variable {fdt : Mem} {o : ℕ} {d : Option ℤ}

/-- A round of the loop that leads on to a further one. -/
inductive Passes (fdt : Mem) : ℕ × Option ℤ → ℕ × Option ℤ → Prop
  | skip {o n tag : ℕ} {d : Option ℤ} (htag : fdtNextTag fdt o = some (tag, (n : ℤ)))
      (hskip : tag = fdtProp ∨ tag = fdtNop) : Passes fdt (o, d) (n, d)
  | up {o n : ℕ} {d : Option ℤ} (htag : fdtNextTag fdt o = some (fdtEndNode, (n : ℤ)))
      (hdepth : ∀ x, d = some x → 0 < x) : Passes fdt (o, d) (n, d.map (· - 1))

lemma any_neg_eq_false (hdepth : ∀ x, d = some x → 0 < x) :
    ((d.map (· - 1)).any (· < 0)) = false := by
  cases d with
  | none => rfl
  | some x =>
    have := hdepth x rfl
    simp only [Option.map_some, Option.any_some, decide_eq_false_iff_not]
    omega

/-- A round that leads on returns what the further rounds return. -/
lemma nextNodeFrom_passes {p q : ℕ × Option ℤ} (h : Passes fdt p q) :
    nextNodeFrom fdt p.1 p.2 = nextNodeFrom fdt q.1 q.2 := by
  cases h with
  | skip htag hskip =>
    rw [nextNodeFrom, htag]
    rcases hskip with rfl | rfl <;> simp [fdtProp, fdtNop, fdtBeginNode, fdtEndNode, fdtEnd]
  | up htag hdepth =>
    rw [nextNodeFrom, htag]
    simp [fdtBeginNode, fdtEndNode, any_neg_eq_false hdepth]

/-- At a property that is stuck every round is the same, so the loop has no result. -/
lemma nextNodeFrom_stuck (h : Checked fdt) (halign : o % 4 = 0) (hs : Stuck fdt o) :
    nextNodeFrom fdt o d = none := by
  have hround := fdtNextTag_stuck h halign hs
  have hnever : ∀ (x : ℤ) (e : Option ℤ) (r : ℤ × Option ℤ),
      nextNodeFrom fdt x e = some r → x ≠ o := by
    refine nextNodeFrom.partial_correctness fdt (fun x _ _ => x ≠ o) fun f ih x e r hr => ?_
    rintro rfl
    rw [hround] at hr
    simp only [fdtProp, fdtBeginNode, fdtEndNode, fdtEnd, Option.bind_eq_bind,
      Option.bind_some] at hr
    exact ih _ _ _ hr rfl
  cases hr : nextNodeFrom fdt o d with
  | none => rfl
  | some r => exact absurd rfl (hnever o d r hr)

lemma fdtTagalign_mod (x : ℤ) : fdtTagalign x % 4 = 0 := by
  simp only [fdtTagalign, i32]
  split <;> omega

/-- The offset a round leads to is aligned. -/
lemma Passes.aligned {p q : ℕ × Option ℤ} (h : Passes fdt p q) : q.1 % 4 = 0 := by
  have hany : ∀ o tag n : ℕ, fdtNextTag fdt o = some (tag, (n : ℤ)) → n % 4 = 0 := by
    intro o tag n htag
    rw [fdtNextTag] at htag
    split at htag
    · simp [fdtErrTruncated] at htag
    · obtain ⟨r, -, hr⟩ := Option.map_eq_some_iff.mp htag
      cases r with
      | none =>
        simp [tokenNext, fdtErrBadstructure] at hr
      | some offset =>
        rw [tokenNext] at hr
        split at hr
        · simp [fdtErrBadstructure] at hr
        · have hmod := fdtTagalign_mod offset
          rw [(Prod.mk.inj hr).2] at hmod
          omega
  cases h with
  | skip htag => exact hany _ _ _ htag
  | up htag => exact hany _ _ _ htag

/-- An error, or an offset that is not in front of the given one. -/
def ErrorOrFrom (fdt : Mem) (low r : ℤ) : Prop :=
  r < 0 ∨ ∃ n : ℕ, r = n ∧ low ≤ n ∧ n < fdtSizeDtStruct fdt + 4 ∧ n % 4 = 0

lemma ErrorOrFrom.mono {low low' r : ℤ} (h : ErrorOrFrom fdt low r) (hle : low' ≤ low) :
    ErrorOrFrom fdt low' r :=
  h.imp_right fun ⟨n, hr, hn, hlt, hmod⟩ => ⟨n, hr, by omega, hlt, hmod⟩

/-- A round returns, or leads to a token that is later unless this one is stuck. -/
lemma round_cases (h : Checked fdt) (ho : o < 2 ^ 31) (halign : o % 4 = 0) (d : Option ℤ) :
    (∃ r, nextNodeFrom fdt o d = some r ∧ ErrorOrFrom fdt o r.1) ∨
      ∃ n e, Passes fdt (o, d) (n, e) ∧ n % 4 = 0 ∧ o ≤ n ∧ n < fdtSizeDtStruct fdt + 4 ∧
        (n = o ↔ Stuck fdt o) := by
  obtain ⟨tag, next, htag, hmem, hnext⟩ := fdtNextTag_spec h ho halign
  have hend : tag = fdtEnd → ∃ r, nextNodeFrom fdt o d = some r ∧ ErrorOrFrom fdt o r.1 := by
    rintro rfl
    rw [nextNodeFrom, htag]
    simp only [fdtEnd, fdtBeginNode, fdtEndNode, Option.bind_eq_bind, Option.bind_some]
    by_cases hfound : 0 ≤ next ∨ next = -fdtErrTruncated ∧ d = none
    · exact ⟨(-fdtErrNotfound, d), by simp [hfound], .inl (show -fdtErrNotfound < 0 by decide)⟩
    · refine ⟨(next, d), by simp [hfound], .inl ?_⟩
      exact not_le.mp fun hle => hfound (.inl hle)
  obtain ⟨-, htagend, -⟩ | ⟨n, rfl, hmod, hle, hlt, heq⟩ := hnext
  · exact .inl (hend htagend)
  simp only [List.mem_cons, List.not_mem_nil, or_false] at hmem
  rcases hmem with rfl | rfl | rfl | rfl | htagend
  · rw [nextNodeFrom, htag]
    exact .inl ⟨_, rfl, .inr ⟨o, rfl, le_rfl, by omega, halign⟩⟩
  · -- at the end of a node the depth decides
    by_cases hany : ((d.map (· - 1)).any (· < 0)) = true
    · left
      rw [nextNodeFrom, htag]
      simp only [fdtEndNode, fdtBeginNode, Option.bind_eq_bind, Option.bind_some, hany]
      exact ⟨_, rfl, .inr ⟨n, rfl, by omega, hlt, hmod⟩⟩
    · refine .inr ⟨n, _, .up htag fun x hx => ?_, hmod, hle, hlt, heq⟩
      subst hx
      simp only [Option.map_some, Option.any_some, decide_eq_true_eq] at hany
      omega
  · exact .inr ⟨n, d, .skip htag (.inl rfl), hmod, hle, hlt, heq⟩
  · exact .inr ⟨n, d, .skip htag (.inr rfl), hmod, hle, hlt, heq⟩
  · exact .inl (hend htagend)

/-- A loop without a result leads to a property that is stuck: every other token is passed for
good, and the block has an end. -/
lemma exists_stuck (h : Checked fdt) (ho : o < fdtSizeDtStruct fdt + 4) (halign : o % 4 = 0)
    (hnone : nextNodeFrom fdt o d = none) :
    ∃ p, Relation.ReflTransGen (Passes fdt) (o, d) p ∧ Stuck fdt p.1 := by
  have hsize := h.size
  induction hk : fdtSizeDtStruct fdt + 4 - o using Nat.strong_induction_on generalizing o d with
  | _ k ih =>
    by_cases hs : Stuck fdt o
    · exact ⟨_, .refl, hs⟩
    rcases round_cases h (show o < 2 ^ 31 by omega) halign d with
      ⟨r, hr, -⟩ | ⟨n, e, hpass, hmod, hle, hlt, heq⟩
    · rw [hnone] at hr
      cases hr
    · have hne : n ≠ o := fun hn => hs (heq.mp hn)
      obtain ⟨p, hp, hstuck⟩ :=
        ih _ (by omega) hlt hmod ((nextNodeFrom_passes hpass).symm.trans hnone) rfl
      exact ⟨p, .head hpass hp, hstuck⟩

/-- The loop has no result exactly when its rounds lead to a property that is stuck. -/
lemma nextNodeFrom_eq_none_iff (h : Checked fdt) (ho : o < fdtSizeDtStruct fdt + 4)
    (halign : o % 4 = 0) :
    nextNodeFrom fdt o d = none ↔
      ∃ p, Relation.ReflTransGen (Passes fdt) (o, d) p ∧ Stuck fdt p.1 := by
  refine ⟨exists_stuck h ho halign, ?_⟩
  rintro ⟨p, hp, hs⟩
  have hrun : nextNodeFrom fdt o d = nextNodeFrom fdt p.1 p.2 ∧ p.1 % 4 = 0 := by
    clear hs
    induction hp with
    | refl => exact ⟨rfl, halign⟩
    | tail _ hpass ih => exact ⟨ih.1.trans (nextNodeFrom_passes hpass), hpass.aligned⟩
  rw [hrun.1, nextNodeFrom_stuck h hrun.2 hs]

/-- Where the loop begins. -/
def WalkStart (fdt : Mem) (offset : ℤ) (o : ℕ) : Prop :=
  if 0 ≤ offset then fdtCheckNodeOffset fdt offset = some (o : ℤ) else o = 0

/-- The check of an offset returns an error or an offset to go on from. -/
lemma checkOffset_spec (h : Checked fdt) {offset : ℤ} (hoffset : offset < 2 ^ 31) (wanted : ℕ) :
    ∃ r, checkOffset wanted fdt offset = some r ∧
      (r < 0 ∨ ∃ n : ℕ, r = n ∧ offset ≤ n ∧ n < fdtSizeDtStruct fdt + 4 ∧ n % 4 = 0 ∧
        ∃ o : ℕ, offset = o ∧ o % 4 = 0 ∧ (n = o ↔ Stuck fdt o)) := by
  rw [checkOffset]
  by_cases hbad : offset < 0 ∨ offset % fdtTagsize ≠ 0
  · rw [if_pos hbad]
    exact ⟨_, rfl, .inl (by decide)⟩
  rw [if_neg hbad, fdtTagsize] at *
  obtain ⟨o, rfl⟩ : ∃ o : ℕ, offset = o := ⟨offset.toNat, by omega⟩
  obtain ⟨tag, next, htag, -, hnext⟩ := fdtNextTag_spec h (show o < 2 ^ 31 by omega) (by omega)
  rw [htag]
  refine ⟨_, rfl, ?_⟩
  dsimp only
  by_cases hwanted : tag ≠ wanted
  · exact .inl (by rw [if_pos hwanted]; decide)
  · rw [if_neg hwanted]
    rcases hnext with hneg | ⟨n, rfl, hmod, hle, hlt, heq⟩
    · exact .inl hneg.1
    · exact .inr ⟨n, rfl, by omega, hlt, hmod, o, rfl, by omega, heq⟩

/-- **When the walk ends**: on any bytes whatever, the call does not return exactly when a
property of length `0xfffffff4` is among the tokens that it passes. -/
theorem fdtNextNode_diverges_iff (h : Checked fdt) {offset : ℤ} (hoffset : offset < 2 ^ 31)
    (depth : Option ℤ) :
    fdtNextNode fdt offset depth = none ↔
      ∃ o p, WalkStart fdt offset o ∧ Relation.ReflTransGen (Passes fdt) (o, depth) p ∧
        Stuck fdt p.1 := by
  have hstart : ∀ o : ℕ, o < fdtSizeDtStruct fdt + 4 → o % 4 = 0 →
      (∀ o' : ℕ, WalkStart fdt offset o' ↔ o' = o) →
      (nextNodeFrom fdt o depth = none ↔ ∃ o p, WalkStart fdt offset o ∧
        Relation.ReflTransGen (Passes fdt) (o, depth) p ∧ Stuck fdt p.1) := by
    intro o ho halign hunique
    rw [nextNodeFrom_eq_none_iff h ho halign]
    exact ⟨fun ⟨p, hp⟩ => ⟨o, p, (hunique o).mpr rfl, hp⟩,
      fun ⟨o', p, hw, hp⟩ => ⟨p, (hunique o').mp hw ▸ hp⟩⟩
  rw [fdtNextNode]
  by_cases hnonneg : 0 ≤ offset
  · obtain ⟨r, hr, hcases⟩ := checkOffset_spec h hoffset fdtBeginNode
    have hcheck : fdtCheckNodeOffset fdt offset = some r := hr
    have hw : ∀ o : ℕ, WalkStart fdt offset o ↔ (o : ℤ) = r := by
      intro o
      rw [WalkStart, if_pos hnonneg, hcheck, Option.some.injEq]
      exact eq_comm
    rw [if_pos hnonneg, hcheck]
    simp only [Option.bind_eq_bind, Option.bind_some]
    rcases hcases with hneg | ⟨n, rfl, -, hlt, hmod, -⟩
    · rw [if_pos hneg]
      refine iff_of_false (by simp) ?_
      rintro ⟨o, p, hstart, -⟩
      have := (hw o).mp hstart
      omega
    · rw [if_neg (by omega)]
      exact hstart n hlt hmod fun o => (hw o).trans Nat.cast_inj
  · rw [if_neg hnonneg]
    refine hstart 0 (by omega) rfl fun o => ?_
    rw [WalkStart, if_neg hnonneg]

end Walk

/-- A blob of a root node whose one property has the length `0xfffffff4`. -/
def stuckBlob : Mem := .ofList ([0xd00dfeed, 80, 56, 80, 40, 17, 16, 0, 0, 24, 0, 0, 0, 0,
  1, 0, 3, 0xfffffff4, 0, 2].flatMap Mem.be32)

/-- The walk over that blob from its root does not return. -/
theorem fdtNextNode_stuckBlob :
    Checked stuckBlob ∧ (0 : ℤ) < 2 ^ 31 ∧ fdtNextNode stuckBlob 0 (some 0) = none := by
  have hchecked : Checked stuckBlob := ⟨by decide, by decide⟩
  refine ⟨hchecked, by decide, (fdtNextNode_diverges_iff hchecked (by decide) (some 0)).mpr ?_⟩
  have hname : skipName stuckBlob (4 : ℕ) = some (some 5) := by
    rw [skipName]
    decide
  refine ⟨8, (8, some 0), ?_, .refl, by decide⟩
  rw [WalkStart, if_pos (by decide), fdtCheckNodeOffset, checkOffset, if_neg (by decide),
    show (0 : ℤ) = (0 : ℕ) from rfl, fdtNextTag_start hchecked (by decide),
    show stuckBlob.loadBe32 (fdtOffsetPtrRaw stuckBlob (0 : ℕ)) = fdtBeginNode by decide, tokenEnd,
    if_pos rfl, hname]
  decide

end A733Boot.Fdt
