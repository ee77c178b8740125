/-
Lookups in bytes that need not be a tree: they return, whatever the bytes, as long as no
property has the length `0xfffffff4`.

* `Free`: no aligned offset is stuck;
* `fdtNextNode_returns`, `fdtNextPropertyOffset_returns`: each step returns an error or goes
  forward;
* `lookups_return` (**no lookup hangs**): a path from the root and the name of a property are
  looked up in finitely many steps.
-/
import A733Boot.Fdt.ReadOnly

namespace A733Boot.Fdt

open Mem

/-- No property has the length at which the walk over the tags stops moving. -/
def Free (fdt : Mem) : Prop := ∀ o, o % 4 = 0 → ¬ Stuck fdt o

section Returns

variable {fdt : Mem} {o : ℕ} {offset : ℤ} {d : Option ℤ}

lemma nextNodeFrom_returns (h : Checked fdt) (hfree : Free fdt) (ho : o < fdtSizeDtStruct fdt + 4)
    (halign : o % 4 = 0) :
    ∃ r, nextNodeFrom fdt o d = some r ∧ ErrorOrFrom fdt o r.1 := by
  have hsize := h.size
  induction hk : fdtSizeDtStruct fdt + 4 - o using Nat.strong_induction_on generalizing o d with
  | _ k ih =>
    rcases round_cases h (show o < 2 ^ 31 by omega) halign d with
      hret | ⟨n, e, hpass, hmod, hle, hlt, heq⟩
    · exact hret
    · have hne : n ≠ o := fun hn => hfree o halign (heq.mp hn)
      obtain ⟨r, hr, hfrom⟩ := ih _ (by omega) hlt hmod rfl
      exact ⟨r, (nextNodeFrom_passes hpass).trans hr, hfrom.mono (by omega)⟩

/-- The next node is behind the given one, or there is an error. -/
lemma fdtNextNode_returns (h : Checked fdt) (hfree : Free fdt) (hoffset : offset < 2 ^ 31)
    (d : Option ℤ) : ∃ r, fdtNextNode fdt offset d = some r ∧ ErrorOrFrom fdt (offset + 1) r.1 := by
  rw [fdtNextNode]
  by_cases hnonneg : 0 ≤ offset
  · obtain ⟨next, hnext, hcases⟩ := checkOffset_spec h hoffset fdtBeginNode
    rw [if_pos hnonneg, fdtCheckNodeOffset, hnext]
    simp only [Option.bind_eq_bind, Option.bind_some]
    rcases hcases with hneg | ⟨n, rfl, hle, hlt, hmod, o, rfl, halign, heq⟩
    · rw [if_pos hneg]
      exact ⟨_, rfl, .inl hneg⟩
    · have hne : n ≠ o := fun hn => hfree o halign (heq.mp hn)
      rw [if_neg (by omega)]
      obtain ⟨r, hr, hfrom⟩ := nextNodeFrom_returns h hfree hlt hmod
      exact ⟨r, hr, hfrom.mono (by omega)⟩
  · rw [if_neg hnonneg]
    obtain ⟨r, hr, hfrom⟩ := nextNodeFrom_returns (o := 0) h hfree (by omega) rfl
    exact ⟨r, hr, hfrom.mono (by omega)⟩

/-- The search for a subnode moves forward with each node. -/
lemma subnodeFrom_returns (h : Checked fdt) (hfree : Free fdt) (hoffset : offset < 2 ^ 31)
    (name : List UInt8) (depth : ℤ) :
    ∃ r, subnodeFrom fdt name offset depth = some r ∧ r < 2 ^ 31 := by
  have hsize := h.size
  induction hk : (2 ^ 31 - offset).toNat using Nat.strong_induction_on generalizing offset depth with
  | _ k ih =>
    rw [subnodeFrom]
    by_cases hgo : 0 ≤ offset ∧ 0 ≤ depth
    · rw [if_pos hgo]
      split
      · exact ⟨offset, rfl, hoffset⟩
      · obtain ⟨⟨offset', depth'⟩, hnext, hfrom⟩ := fdtNextNode_returns h hfree hoffset (some depth)
        rw [hnext]
        simp only [Option.bind_eq_bind, Option.bind_some]
        rcases hfrom with hneg | ⟨n, hn, hle, hlt, -⟩
        · refine ⟨if depth'.getD 0 < 0 then -fdtErrNotfound else offset', ?_, ?_⟩
          · rw [subnodeFrom, if_neg (fun hc => absurd hc.1 (not_le.mpr hneg))]
            split <;> rfl
          · split
            · decide
            · dsimp only at hneg
              omega
        · dsimp only at hn
          subst hn
          exact ih _ (by omega) (by omega) _ rfl
    · rw [if_neg hgo]
      split
      · exact ⟨_, rfl, by decide⟩
      · exact ⟨_, rfl, hoffset⟩

lemma fdtCheckHeader_nonpos (fdt : Mem) : fdtCheckHeader fdt ≤ 0 := by
  rw [fdtCheckHeader]
  split_ifs <;> decide

lemma fdtSubnodeOffsetNamelen_returns (h : Checked fdt) (hfree : Free fdt)
    (hoffset : offset < 2 ^ 31) (name : List UInt8) :
    ∃ r, fdtSubnodeOffsetNamelen fdt offset name = some r ∧ r < 2 ^ 31 := by
  rw [fdtSubnodeOffsetNamelen]
  split
  · refine ⟨_, rfl, lt_of_le_of_lt (fdtCheckHeader_nonpos fdt) (by norm_num)⟩
  · exact subnodeFrom_returns h hfree hoffset name 0

lemma pathFrom_returns (h : Checked fdt) (hfree : Free fdt) (hoffset : offset < 2 ^ 31)
    (p : List UInt8) : ∃ r, pathFrom fdt offset p = some r := by
  induction hk : p.length using Nat.strong_induction_on generalizing offset p with
  | _ k ih =>
    cases hp : p.dropWhile (· == slash) with
    | nil => exact ⟨offset, pathFrom_nil fdt offset hp⟩
    | cons c q =>
      have hless := rest_length_lt hp
      obtain ⟨r, hr, hlt⟩ :=
        fdtSubnodeOffsetNamelen_returns h hfree hoffset (c :: q.takeWhile (· != slash))
      rw [pathFrom_cons fdt offset hp, hr, Option.bind_some]
      split
      · exact ⟨r, rfl⟩
      · exact ih _ (by omega) hlt _ rfl

/-! ### Properties -/

/-- The search for a property returns an error or the offset of one. -/
lemma nextprop_returns (h : Checked fdt) (hfree : Free fdt) (ho : o < fdtSizeDtStruct fdt + 4)
    (halign : o % 4 = 0) : ∃ r, nextprop fdt o = some r ∧ ErrorOrFrom fdt o r := by
  have hsize := h.size
  induction hk : fdtSizeDtStruct fdt + 4 - o using Nat.strong_induction_on generalizing o with
  | _ k ih =>
    obtain ⟨tag, next, htag, hmem, hnext⟩ := fdtNextTag_spec h (show o < 2 ^ 31 by omega) halign
    rw [nextprop, htag]
    simp only [Option.bind_eq_bind, Option.bind_some]
    by_cases hend : tag = fdtEnd
    · rw [if_pos hend]
      refine ⟨_, rfl, .inl ?_⟩
      split
      · decide
      · omega
    rw [if_neg hend]
    by_cases hprop : tag = fdtProp
    · rw [if_pos hprop]
      exact ⟨_, rfl, .inr ⟨o, rfl, le_rfl, ho, halign⟩⟩
    rw [if_neg hprop]
    by_cases hnop : tag = fdtNop
    · rw [if_pos hnop]
      rcases hnext with ⟨-, hend', -⟩ | ⟨n, rfl, hmod, hle, hlt, heq⟩
      · exact absurd hend' hend
      · have hne : n ≠ o := fun hn => hfree o halign (heq.mp hn)
        obtain ⟨r, hr, hfrom⟩ := ih _ (by omega) hlt hmod rfl
        exact ⟨r, hr, hfrom.mono (by omega)⟩
    · rw [if_neg hnop]
      exact ⟨_, rfl, .inl (by decide)⟩

/-- The next property is behind the token at the offset. -/
lemma propertyAfter_returns (h : Checked fdt) (hfree : Free fdt) (hoffset : offset < 2 ^ 31)
    (wanted : ℕ) :
    ∃ r, (do
        let offset ← checkOffset wanted fdt offset
        if offset < 0 then return offset else nextprop fdt offset : Option ℤ) = some r ∧
      ErrorOrFrom fdt (offset + 1) r := by
  obtain ⟨next, hnext, hcases⟩ := checkOffset_spec h hoffset wanted
  rw [hnext]
  simp only [Option.bind_eq_bind, Option.bind_some]
  rcases hcases with hneg | ⟨n, rfl, hle, hlt, hmod, o, rfl, halign, heq⟩
  · rw [if_pos hneg]
    exact ⟨_, rfl, .inl hneg⟩
  · have hne : n ≠ o := fun hn => hfree o halign (heq.mp hn)
    rw [if_neg (by omega)]
    obtain ⟨r, hr, hfrom⟩ := nextprop_returns h hfree hlt hmod
    exact ⟨r, hr, hfrom.mono (by omega)⟩

lemma getPropertyFrom_returns (h : Checked fdt) (hfree : Free fdt)
    (hzero : ∀ a, ∃ b ≥ a, fdt b = 0) (hoffset : offset < 2 ^ 31) (name : List UInt8) :
    ∃ r, getPropertyFrom fdt name offset = some r := by
  have hsize := h.size
  induction hk : (2 ^ 31 - offset).toNat using Nat.strong_induction_on generalizing offset with
  | _ k ih =>
    rw [getPropertyFrom]
    by_cases hneg : 0 ≤ offset
    · rw [if_pos hneg]
      obtain ⟨err, herr, -⟩ := checkOffset_spec h hoffset fdtProp
      have hby : ∃ r, fdtGetPropertyByOffset fdt offset = some r := by
        rw [fdtGetPropertyByOffset, fdtCheckPropOffset, herr]
        simp only [Option.bind_eq_bind, Option.bind_some]
        split <;> exact ⟨_, rfl⟩
      obtain ⟨res, hres⟩ := hby
      rw [hres]
      simp only [Option.bind_eq_bind, Option.bind_some]
      cases res with
      | error e => exact ⟨_, rfl⟩
      | ok v =>
        obtain ⟨n, hn⟩ := Mem.strlen_returns
          (hzero (fdtString fdt (i32 (fdt.loadBe32 (v.1 + 8)))))
        simp only [fdtStringEq, hn, Option.bind_eq_bind, Option.bind_some, Option.pure_def]
        split
        · exact ⟨_, rfl⟩
        · obtain ⟨r, hr, hfrom⟩ := propertyAfter_returns h hfree hoffset fdtProp
          rw [show fdtNextPropertyOffset fdt offset = some r from hr, Option.bind_some]
          rcases hfrom with hneg' | ⟨m, rfl, hle, hlt, -⟩
          · rw [getPropertyFrom, if_neg (by omega)]
            exact ⟨_, rfl⟩
          · exact ih _ (by omega) (by omega) rfl
    · rw [if_neg hneg]
      exact ⟨_, rfl⟩

/-- **No lookup hangs**: on any bytes without a property of length `0xfffffff4`, a path from the
root and the name of a property of any node are looked up in finitely many steps, if every
string comes to an end. -/
theorem lookups_return (h : Checked fdt) (hfree : Free fdt) (hzero : ∀ a, ∃ b ≥ a, fdt b = 0)
    {path : List UInt8} (hroot : path.head? = some slash) (hoffset : offset < 2 ^ 31)
    (name : List UInt8) :
    (fdtPathOffset fdt path).isSome ∧ (fdtGetprop fdt offset name).isSome := by
  constructor
  · obtain ⟨r, hr⟩ := pathFrom_returns h hfree (show (0 : ℤ) < 2 ^ 31 by norm_num) path
    rw [fdtPathOffset, if_pos hroot, hr]
    split <;> rfl
  · obtain ⟨first, hfirst, hfrom⟩ := propertyAfter_returns h hfree hoffset fdtBeginNode
    have hlt : first < 2 ^ 31 := by
      have hsize := h.size
      rcases hfrom with hneg | ⟨n, rfl, -, hlt, -⟩ <;> omega
    obtain ⟨r, hr⟩ := getPropertyFrom_returns h hfree hzero hlt name
    rw [fdtGetprop, fdtGetpropNamelen, fdtGetPropertyNamelen,
      show fdtFirstPropertyOffset fdt offset = some first from hfirst]
    simp only [Option.bind_eq_bind, Option.bind_some, hr]
    rfl

end Returns

/-- A blob whose root node is followed by a word that is no tag. -/
def brokenBlob : Mem := .ofList ([0xd00dfeed, 68, 56, 68, 40, 17, 16, 0, 0, 12, 0, 0, 0, 0,
  1, 0, 7].flatMap Mem.be32)

/-- Lookups in that blob return. -/
theorem lookups_return_brokenBlob :
    Checked brokenBlob ∧ Free brokenBlob ∧ (∀ a, ∃ b ≥ a, brokenBlob b = 0) ∧
      (fdtPathOffset brokenBlob aliasesPath).isSome ∧ (fdtGetprop brokenBlob 0 []).isSome := by
  have hchecked : Checked brokenBlob := ⟨by decide, by decide⟩
  have hfree : Free brokenBlob := by
    intro o _ hs
    have hle : o + 8 ≤ 12 := hs.1
    have hnone : ∀ o ≤ 4, ¬ Stuck brokenBlob o := by decide
    exact hnone o (by omega) hs
  have hzero := Mem.exists_zero_ofList
  exact ⟨hchecked, hfree, hzero _,
    lookups_return hchecked hfree (hzero _) rfl (by norm_num) []⟩

end A733Boot.Fdt
