/-
The regions of the secure memory controller in standby: `smc_standby_init` and
`smc_standby_exit` of `ar100s/service/standby/standby-sun60iw2p1/plat_standby.c`, for a
board with `CFG_SUNXI_SMC_GLITCH_WORKAROUND` and `SUNXI_SMC_HAS_ITLV`.

Both loops stop at the first region without attributes, and the save area is never cleared.
So a save reaches as far as the regions are enabled without a gap, and a restore as far as
any save ever did.

* `leading`, `lt_leading_iff`: where such a loop stops;
* `smcInitLoop_save`, `smcExitLoop_region`: what the two loops move;
* `smcRun_saved`: the save area after any number of cycles;
* `smcRun_restores` (**regions survive standby**): which cycles bring the regions back.
-/
import A733Boot.Library.Registers
import A733Boot.Ar100s.Error

namespace A733Boot.Ar100s.Standby

/-! ### The code -/

def sunxiSmcPbase : ℕ := 0x0a000000
def sunxiSmc1Pbase : ℕ := sunxiSmcPbase + 0x10000
def smcActionReg : ℕ := sunxiSmcPbase + 0x0004
def smcFunctionBypass : UInt32 := (1 : UInt32) <<< 6
def smcItlvCtrlReg : ℕ := sunxiSmcPbase + 0x0018
def smcMst0BypReg : ℕ := sunxiSmcPbase + 0x0070
def smcMst1BypReg : ℕ := sunxiSmcPbase + 0x0074
def smcMst0SecReg : ℕ := sunxiSmcPbase + 0x0080
def smcMst1SecReg : ℕ := sunxiSmcPbase + 0x0084
def smcRegionCount : ℕ := 8
def smcRegionSetupLowReg (x : ℕ) : ℕ := sunxiSmcPbase + 0x100 + 0x10 * x
def smcRegionSetupHighReg (x : ℕ) : ℕ := sunxiSmcPbase + 0x104 + 0x10 * x
def smcRegionAttributeReg (x : ℕ) : ℕ := sunxiSmcPbase + 0x108 + 0x10 * x

def sidSecModeSta : ℕ := 0x030060a0
def sidSecModeMask : UInt32 := 1

/-- An entry of `smc_region_save`. -/
structure Region where
  low : UInt32
  high : UInt32
  attr : UInt32
deriving DecidableEq

/-- The save area, `smc_region_save`. -/
abbrev RegionSave := ℕ → Region

section Code

variable (d : Device)

def isChipSecure : Io Bool := do
  let value ← readl d sidSecModeSta
  pure (value &&& sidSecModeMask ≠ 0)

/-- SMC1 is configured exactly as SMC0. -/
def smcWriteReg (value : UInt32) (paddr : ℕ) : Io Unit := do
  writel value paddr
  writel value (paddr + (sunxiSmc1Pbase - sunxiSmcPbase))

/-- The loop of `smc_standby_init`, with `n` regions to go. -/
def smcInitLoop : ℕ → ℕ → RegionSave → Io RegionSave
  | 0, _, save => pure save
  | n + 1, readIdx, save => do
      let attr ← readl d (smcRegionAttributeReg readIdx)
      if attr = 0 then pure save
      else
        let low ← readl d (smcRegionSetupLowReg readIdx)
        let high ← readl d (smcRegionSetupHighReg readIdx)
        let attr ← readl d (smcRegionAttributeReg readIdx)
        smcInitLoop n (readIdx + 1) (Function.update save readIdx ⟨low, high, attr⟩)

def smcStandbyInit (save : RegionSave) : Io RegionSave := smcInitLoop d smcRegionCount 0 save

/-- Write one region. -/
def smcRegionRestore (save : RegionSave) (idx : ℕ) : Io Unit := do
  smcWriteReg (save idx).low (smcRegionSetupLowReg idx)
  smcWriteReg (save idx).high (smcRegionSetupHighReg idx)
  smcWriteReg (save idx).attr (smcRegionAttributeReg idx)

/-- The loop of `smc_standby_exit`, with `n` regions to go. -/
def smcExitLoop (save : RegionSave) : ℕ → ℕ → ℕ → Io Unit
  | 0, _, _ => pure ()
  | n + 1, readIdx, resumeIdx =>
      if (save readIdx).attr = 0 then pure ()
      else do
        smcRegionRestore save resumeIdx
        smcExitLoop save n (readIdx + 1) (resumeIdx + 1)

def smcStandbyExit (save : RegionSave) : Io ℤ := do
  let secure ← isChipSecure d
  if secure = false then pure 0
  else
    let action ← readl d smcActionReg
    if action &&& smcFunctionBypass ≠ 0 then pure (-eFail)
    else
      smcWriteReg 0 smcMst0BypReg
      smcWriteReg 0 smcMst1BypReg
      smcWriteReg 0xffffffff smcMst0SecReg
      smcWriteReg 0xffffffff smcMst1SecReg
      smcWriteReg ((1 : UInt32) <<< 7 ||| (1 : UInt32) <<< 4) smcItlvCtrlReg
      smcExitLoop save smcRegionCount 0 0
      pure 0

end Code

/-! ### Where a loop stops -/

/-- The first index from `i` on, at most `n` further, at which the attribute is zero. -/
def leading (attr : ℕ → UInt32) : ℕ → ℕ → ℕ
  | 0, i => i
  | n + 1, i => if attr i = 0 then i else leading attr n (i + 1)

lemma le_leading (attr : ℕ → UInt32) (n i : ℕ) : i ≤ leading attr n i := by
  induction n generalizing i with
  | zero => exact le_refl i
  | succ n ih =>
      rw [leading]
      split
      · exact le_refl i
      · exact Nat.le_of_succ_le (ih (i + 1))

lemma lt_leading_iff (attr : ℕ → UInt32) (n i j : ℕ) (hij : i ≤ j) :
    j < leading attr n i ↔ j < i + n ∧ ∀ k, i ≤ k → k ≤ j → attr k ≠ 0 := by
  induction n generalizing i with
  | zero => exact ⟨fun h => absurd h (Nat.not_lt.mpr hij), fun h => absurd h.1 (Nat.not_lt.mpr hij)⟩
  | succ n ih =>
      rw [leading]
      by_cases hi : attr i = 0
      · rw [if_pos hi]
        exact ⟨fun h => absurd h (Nat.not_lt.mpr hij), fun h => absurd hi (h.2 i (le_refl i) hij)⟩
      · rw [if_neg hi]
        by_cases heq : i = j
        · subst heq
          refine ⟨fun _ => ⟨by omega, fun k hk hk' => ?_⟩, fun _ => le_leading _ _ _⟩
          rw [show k = i by omega]
          exact hi
        · rw [ih (i + 1) (by omega)]
          refine ⟨fun h => ⟨by omega, fun k hk hk' => ?_⟩, fun h => ⟨by omega, fun k hk hk' => ?_⟩⟩
          · by_cases hik : k = i
            · rw [hik]
              exact hi
            · exact h.2 k (by omega) hk'
          · exact h.2 k (by omega) hk'

/-! ### The loops -/

/-- Region `i` of the words, as SMC0 has it for `bank = 0` and SMC1 for `bank = 0x10000`. -/
def regionAt (bank : ℕ) (w : ℕ → UInt32) (i : ℕ) : Region :=
  ⟨w (smcRegionSetupLowReg i + bank), w (smcRegionSetupHighReg i + bank),
    w (smcRegionAttributeReg i + bank)⟩

section Loops

variable {d : Device}

/-- A save takes the regions up to where it stops, and leaves the others of the area. -/
lemma smcInitLoop_save (hd : ∀ a, d.live a = 0) {w : ℕ → UInt32} (n i : ℕ)
    (save : RegionSave) {s : Regs}
    (hw : s.word = w) (j : ℕ) :
    (smcInitLoop d n i save s).1 j =
      if i ≤ j ∧ j < leading (fun k => w (smcRegionAttributeReg k)) n i then regionAt 0 w j
      else save j := by
  induction n generalizing i save s with
  | zero => rw [smcInitLoop, pure_apply, leading, if_neg (by omega)]
  | succ n ih =>
      simp only [smcInitLoop, bind_apply, ite_apply', readl_fst,
        d.view_plain (hd _), readl_word, hw]
      by_cases hattr : w (smcRegionAttributeReg i) = 0
      · have hstop : leading (fun k => w (smcRegionAttributeReg k)) (n + 1) i = i := if_pos hattr
        rw [if_pos hattr, hstop, if_neg (by omega), pure_apply]
      · have hstop : leading (fun k => w (smcRegionAttributeReg k)) (n + 1) i =
            leading (fun k => w (smcRegionAttributeReg k)) n (i + 1) := if_neg hattr
        have hle := le_leading (fun k => w (smcRegionAttributeReg k)) n (i + 1)
        rw [if_neg hattr, hstop]
        refine Eq.trans (ih (i + 1) _ ?_) ?_
        · exact hw
        by_cases hji : j = i
        · rw [hji, if_neg (by omega), if_pos ⟨le_refl i, hle⟩, Function.update_self]
          rfl
        · rw [Function.update_of_ne hji]
          by_cases hj : i + 1 ≤ j ∧ j < leading (fun k => w (smcRegionAttributeReg k)) n (i + 1)
          · rw [if_pos hj, if_pos ⟨by omega, hj.2⟩]
          · rw [if_neg hj, if_neg fun h => hj ⟨by omega, h.2⟩]

lemma smcWriteReg_word (value : UInt32) (paddr : ℕ) (s : Regs) :
    (smcWriteReg value paddr s).2.word =
      Function.update (Function.update s.word paddr value) (paddr + 0x10000) value := rfl

lemma smcRegionRestore_region (save : RegionSave) {i j bank : ℕ} (hi : i < smcRegionCount)
    (hj : j < smcRegionCount) (hbank : bank = 0 ∨ bank = 0x10000) (s : Regs) :
    regionAt bank (smcRegionRestore save i s).2.word j =
      if j = i then save i else regionAt bank s.word j := by
  simp only [smcRegionCount] at hi hj
  simp only [regionAt, smcRegionRestore, bind_apply, smcWriteReg_word, Function.update_apply,
    smcRegionSetupLowReg, smcRegionSetupHighReg, smcRegionAttributeReg, sunxiSmcPbase]
  by_cases hji : j = i
  · rw [if_pos hji, hji]
    obtain rfl | rfl := hbank
    · simp (disch := omega) only [if_neg, if_pos]
    · simp (disch := omega) only [if_neg, if_true]
  · rw [if_neg hji]
    obtain rfl | rfl := hbank
    · simp (disch := omega) only [if_neg]
    · simp (disch := omega) only [if_neg]

/-- A restore writes the regions up to where it stops. -/
lemma smcExitLoop_region (save : RegionSave) {n i j bank : ℕ} (hi : i + n ≤ smcRegionCount)
    (hj : j < smcRegionCount) (hbank : bank = 0 ∨ bank = 0x10000) (s : Regs) :
    regionAt bank (smcExitLoop save n i i s).2.word j =
      if i ≤ j ∧ j < leading (fun k => (save k).attr) n i then save j else regionAt
        bank s.word j := by
  induction n generalizing i s with
  | zero => rw [smcExitLoop, pure_apply, leading, if_neg (by omega)]
  | succ n ih =>
      rw [smcExitLoop, ite_apply']
      by_cases hattr : (save i).attr = 0
      · have hstop : leading (fun k => (save k).attr) (n + 1) i = i := if_pos hattr
        rw [if_pos hattr, hstop, if_neg (by omega), pure_apply]
      · have hstop : leading (fun k => (save k).attr) (n + 1) i =
            leading (fun k => (save k).attr) n (i + 1) := if_neg hattr
        have hle := le_leading (fun k => (save k).attr) n (i + 1)
        rw [if_neg hattr, hstop, bind_apply, ih (by omega),
          smcRegionRestore_region save (by omega) hj hbank]
        by_cases hji : j = i
        · rw [hji, if_neg (by omega), if_pos rfl, if_pos ⟨le_refl i, hle⟩]
        · rw [if_neg hji]
          by_cases hj' : i + 1 ≤ j ∧ j < leading (fun k => (save k).attr) n (i + 1)
          · rw [if_pos hj', if_pos ⟨by omega, hj'.2⟩]
          · rw [if_neg hj', if_neg fun h => hj' ⟨by omega, h.2⟩]

/-- A register outside the regions. -/
lemma smcWriteReg_region {bank j paddr : ℕ} (hj : j < smcRegionCount)
    (hbank : bank = 0 ∨ bank = 0x10000)
    (hlow : paddr < sunxiSmcPbase + 0x100) (hsmc : sunxiSmcPbase ≤ paddr)
    (value : UInt32) (s : Regs) :
    regionAt bank (smcWriteReg value paddr s).2.word j = regionAt bank s.word j := by
  simp only [smcRegionCount, sunxiSmcPbase] at hj hlow hsmc
  simp only [regionAt, smcWriteReg_word, Function.update_apply, smcRegionSetupLowReg,
    smcRegionSetupHighReg, smcRegionAttributeReg, sunxiSmcPbase]
  obtain rfl | rfl := hbank
  · simp (disch := omega) only [if_neg]
  · simp (disch := omega) only [if_neg]

/-- A resume on a secure chip. -/
lemma smcStandbyExit_spec (hd : ∀ a, d.live a = 0) (save : RegionSave) {s : Regs}
    (hsecure : s.word sidSecModeSta &&& sidSecModeMask ≠ 0) :
    ((smcStandbyExit d save s).1 = 0 ↔ s.word smcActionReg &&& smcFunctionBypass = 0) ∧
    (s.word smcActionReg &&& smcFunctionBypass = 0 → ∀ j < smcRegionCount, ∀ bank,
      bank = 0 ∨ bank = 0x10000 → regionAt bank (smcStandbyExit d save s).2.word j =
        if j < leading (fun k => (save k).attr) smcRegionCount 0 then save j
        else regionAt bank s.word j) := by
  have hrun : (isChipSecure d s).1 = true := by
    rw [isChipSecure, bind_apply, readl_fst, d.view_plain (hd _), pure_apply]
    exact decide_eq_true hsecure
  have hword : (isChipSecure d s).2.word = s.word := rfl
  simp only [smcStandbyExit, bind_apply, ite_apply', hrun, Bool.true_eq_false, if_false, readl_fst,
    d.view_plain (hd _), hword]
  by_cases hbypass : s.word smcActionReg &&& smcFunctionBypass = 0
  · rw [if_neg (not_not.mpr hbypass), pure_apply]
    refine ⟨⟨fun _ => hbypass, fun _ => rfl⟩, fun _ j hj bank hbank => ?_⟩
    rw [smcExitLoop_region save (by decide) hj hbank,
      smcWriteReg_region hj hbank (by decide) (by decide),
      smcWriteReg_region hj hbank (by decide) (by decide),
      smcWriteReg_region hj hbank (by decide) (by decide),
      smcWriteReg_region hj hbank (by decide) (by decide),
      smcWriteReg_region hj hbank (by decide) (by decide), readl_word, hword]
    simp only [Nat.zero_le, true_and]
  · rw [if_pos hbypass, pure_apply]
    have hne : -eFail ≠ 0 := by decide
    exact ⟨⟨fun h => absurd h hne, fun h => absurd h hbypass⟩, fun h => absurd h hbypass⟩

end Loops

/-! ### Cycles -/

/-- A standby cycle as the SMC sees it: the words at `smc_standby_init`, and those of the
other registers at `smc_standby_exit`, where the regions have been reset. -/
structure SmcCycle where
  before : ℕ → UInt32
  others : ℕ → UInt32

/-- The address belongs to a region of one of the two SMCs. -/
def IsRegionReg (a : ℕ) : Prop :=
  ∃ i < smcRegionCount, ∃ bank ∈ [0, 0x10000],
    a = smcRegionSetupLowReg i + bank ∨ a = smcRegionSetupHighReg i + bank ∨
      a = smcRegionAttributeReg i + bank

instance (a : ℕ) : Decidable (IsRegionReg a) := inferInstanceAs (Decidable (∃ _ < _, _))

/-- The words after the system domain was off. -/
def SmcCycle.after (cycle : SmcCycle) (a : ℕ) : UInt32 :=
  if IsRegionReg a then 0 else cycle.others a

def smcCycle (d : Device) (cycle : SmcCycle) (save : RegionSave) (s : Regs) :
    ℤ × RegionSave × Regs :=
  let (save, s) := smcStandbyInit d save { s with word := cycle.before }
  let (ret, s) := smcStandbyExit d save { s with word := cycle.after }
  (ret, save, s)

/-- Cycles one after the other, with the regions programmed in any way between them. -/
def smcRun (d : Device) (cycles : List SmcCycle) (save : RegionSave) (s : Regs) :
    RegionSave × Regs :=
  cycles.foldl (fun st cycle => (smcCycle d cycle st.1 st.2).2) (save, s)

/-- The save area at reset. -/
def RegionSave.init : RegionSave := fun _ => ⟨0, 0, 0⟩

/-- How many regions are enabled without a gap. -/
def enabledRegions (w : ℕ → UInt32) : ℕ :=
  leading (fun k => w (smcRegionAttributeReg k)) smcRegionCount 0

/-- Where the enabled regions end, one is disabled. -/
lemma attr_enabledRegions {w : ℕ → UInt32} (h : enabledRegions w < smcRegionCount) :
    (regionAt 0 w (enabledRegions w)).attr = 0 := by
  by_contra hattr
  refine Nat.lt_irrefl (enabledRegions w)
    ((lt_leading_iff _ _ _ _ (Nat.zero_le _)).mpr ⟨by omega, ?_⟩)
  intro k _ hk
  by_cases heq : k = enabledRegions w
  · rw [heq]
    exact hattr
  · exact ((lt_leading_iff _ _ _ _ (Nat.zero_le k)).mp (show k < enabledRegions w by omega)).2 k
      (Nat.zero_le k) (le_refl k)

section Cycles

variable {d : Device}

lemma smcCycle_save (hd : ∀ a, d.live a = 0) (cycle : SmcCycle) (save : RegionSave)
    (s : Regs) (j : ℕ) :
    (smcCycle d cycle save s).2.1 j =
      if j < enabledRegions cycle.before then regionAt 0 cycle.before j else save j := by
  have h := smcInitLoop_save hd smcRegionCount 0 save
    (s := { s with word := cycle.before }) rfl j
  simp only [Nat.zero_le, true_and] at h
  exact h

/-- Which entries of the save area have been written: those that some cycle reached. -/
lemma smcRun_saved (hd : ∀ a, d.live a = 0) (cycles : List SmcCycle) (s : Regs) (j : ℕ) :
    ((smcRun d cycles RegionSave.init s).1 j).attr ≠ 0 ↔
      ∃ cycle ∈ cycles, j < enabledRegions cycle.before := by
  induction cycles using List.reverseRecOn with
  | nil => exact ⟨fun h => absurd rfl h, fun ⟨_, h, _⟩ => absurd h List.not_mem_nil⟩
  | append_singleton cycles cycle ih =>
      rw [smcRun, List.foldl_append, List.foldl_cons, List.foldl_nil, smcCycle_save hd]
      rw [smcRun] at ih
      by_cases hj : j < enabledRegions cycle.before
      · rw [if_pos hj]
        have hattr := ((lt_leading_iff _ _ _ _ (Nat.zero_le j)).mp hj).2 j
          (Nat.zero_le j) (le_refl j)
        exact ⟨fun _ => ⟨cycle, List.mem_append_right _ List.mem_cons_self, hj⟩, fun _ => hattr⟩
      · rw [if_neg hj, ih]
        constructor
        · rintro ⟨c, hc, hlt⟩
          exact ⟨c, List.mem_append_left _ hc, hlt⟩
        · rintro ⟨c, hc, hlt⟩
          obtain hc | hc := List.mem_append.mp hc
          · exact ⟨c, hc, hlt⟩
          · rw [List.mem_singleton.mp hc] at hlt
            exact absurd hlt hj

/-- How far the save area is filled after the save of the last cycle. -/
lemma lt_saved_iff (hd : ∀ a, d.live a = 0) (cycles : List SmcCycle) (cycle : SmcCycle)
    (s : Regs) (j : ℕ) :
    j < leading (fun k => ((smcCycle d cycle (smcRun d cycles RegionSave.init s).1
        (smcRun d cycles RegionSave.init s).2).2.1 k).attr) smcRegionCount 0 ↔
      ∃ c ∈ cycles ++ [cycle], j < enabledRegions c.before := by
  have hrun : smcRun d (cycles ++ [cycle]) RegionSave.init s =
      (smcCycle d cycle (smcRun d cycles RegionSave.init s).1
        (smcRun d cycles RegionSave.init s).2).2 := by
    rw [smcRun, smcRun, List.foldl_append, List.foldl_cons, List.foldl_nil]
  rw [lt_leading_iff _ _ _ _ (Nat.zero_le j), ← hrun]
  simp only [smcRun_saved hd]
  constructor
  · rintro ⟨_, h⟩
    exact h j (Nat.zero_le j) (le_refl j)
  · rintro ⟨c, hc, hlt⟩
    have hbound := ((lt_leading_iff _ _ _ _ (Nat.zero_le j)).mp hlt).1
    exact ⟨hbound, fun k _ hk => ⟨c, hc, by omega⟩⟩

lemma SmcCycle.after_region (cycle : SmcCycle) {i bank : ℕ} (hi : i < smcRegionCount)
    (hbank : bank = 0 ∨ bank = 0x10000) : regionAt bank cycle.after i = ⟨0, 0, 0⟩ := by
  have hmem : bank ∈ [0, 0x10000] := by
    obtain rfl | rfl := hbank <;> decide
  have hreg : ∀ a, (a = smcRegionSetupLowReg i + bank ∨ a = smcRegionSetupHighReg i + bank ∨
      a = smcRegionAttributeReg i + bank) → cycle.after a = 0 := fun a ha =>
    if_pos ⟨i, hi, bank, hmem, ha⟩
  rw [regionAt, hreg _ (Or.inl rfl), hreg _ (Or.inr (Or.inl rfl)), hreg _ (Or.inr (Or.inr rfl))]

/-- Every region of both SMCs is as it was. -/
def Survives (w₀ w : ℕ → UInt32) : Prop :=
  ∀ i < smcRegionCount, ∀ bank, bank = 0 ∨ bank = 0x10000 → regionAt bank w i = regionAt bank w₀ i

/-- The regions of the cycle are enabled without a gap, those after them are zero, and no
earlier cycle had more. -/
def Survivable (cycles : List SmcCycle) (cycle : SmcCycle) : Prop :=
  (∀ c ∈ cycles, enabledRegions c.before ≤ enabledRegions cycle.before) ∧
  ∀ i < smcRegionCount, enabledRegions cycle.before ≤ i → regionAt 0 cycle.before i = ⟨0, 0, 0⟩

/-- The regions after a resume that was not refused. -/
lemma smcCycle_region (hd : ∀ a, d.live a = 0) {cycle : SmcCycle} (save : RegionSave) (s : Regs)
    (hsecure : cycle.others sidSecModeSta &&& sidSecModeMask ≠ 0) :
    ((smcCycle d cycle save s).1 = 0 ↔ cycle.others smcActionReg &&& smcFunctionBypass = 0) ∧
    (cycle.others smcActionReg &&& smcFunctionBypass = 0 → ∀ j < smcRegionCount, ∀ bank,
      bank = 0 ∨ bank = 0x10000 → regionAt bank (smcCycle d cycle save s).2.2.word j =
        if j < leading (fun k => ((smcCycle d cycle save s).2.1 k).attr) smcRegionCount 0
        then (smcCycle d cycle save s).2.1 j else ⟨0, 0, 0⟩) := by
  have hsid : cycle.after sidSecModeSta = cycle.others sidSecModeSta := if_neg (by decide)
  have haction : cycle.after smcActionReg = cycle.others smcActionReg := if_neg (by decide)
  rw [← hsid] at hsecure
  have hspec := smcStandbyExit_spec hd (smcStandbyInit d save { s with word := cycle.before }).1
    (s := { (smcStandbyInit d save
      { s with word := cycle.before }).2 with word := cycle.after }) hsecure
  simp only [haction] at hspec
  refine ⟨hspec.1, fun hbypass j hj bank hbank => ?_⟩
  rw [← cycle.after_region hj hbank]
  exact hspec.2 hbypass j hj bank hbank

/-- When no earlier cycle had more regions, nothing is saved behind those of the last one. -/
lemma not_lt_saved (hd : ∀ a, d.live a = 0) {cycles : List SmcCycle} {cycle : SmcCycle} (s : Regs)
    (hfewer : ∀ c ∈ cycles, enabledRegions c.before ≤ enabledRegions cycle.before) {i : ℕ}
    (hle : enabledRegions cycle.before ≤ i) :
    ¬ i < leading (fun k => ((smcCycle d cycle (smcRun d cycles RegionSave.init s).1
        (smcRun d cycles RegionSave.init s).2).2.1 k).attr) smcRegionCount 0 := by
  intro hlt
  obtain ⟨c, hc, hci⟩ := (lt_saved_iff hd cycles cycle s i).mp hlt
  obtain hc | hc := List.mem_append.mp hc
  · exact absurd (hfewer c hc) (by omega)
  · rw [List.mem_singleton.mp hc] at hci
    omega

/-- An earlier cycle with more regions would leave one behind where this one stops. -/
lemma Survives.fewer (hd : ∀ a, d.live a = 0) {cycles : List SmcCycle} {cycle : SmcCycle}
    (s : Regs) (hsecure : cycle.others sidSecModeSta &&& sidSecModeMask ≠ 0)
    (hbypass : cycle.others smcActionReg &&& smcFunctionBypass = 0)
    (hall : Survives cycle.before (smcCycle d cycle (smcRun d cycles RegionSave.init s).1
      (smcRun d cycles RegionSave.init s).2).2.2.word) :
    ∀ c ∈ cycles, enabledRegions c.before ≤ enabledRegions cycle.before := by
  intro c hc
  by_contra hmore
  rw [Nat.not_le] at hmore
  have hk := ((lt_leading_iff _ _ _ _ (Nat.zero_le _)).mp hmore).1
  rw [Nat.zero_add] at hk
  have hstale : ((smcCycle d cycle (smcRun d cycles RegionSave.init s).1
      (smcRun d cycles RegionSave.init s).2).2.1 (enabledRegions cycle.before)).attr ≠ 0 := by
    rw [smcCycle_save hd, if_neg (Nat.lt_irrefl _)]
    exact (smcRun_saved hd cycles s _).mpr ⟨c, hc, hmore⟩
  have hback := (smcCycle_region hd (smcRun d cycles RegionSave.init s).1
    (smcRun d cycles RegionSave.init s).2 hsecure).2 hbypass _ hk 0 (Or.inl rfl)
  rw [if_pos ((lt_saved_iff hd cycles cycle s _).mpr ⟨c, List.mem_append_left _ hc, hmore⟩),
    hall _ hk 0 (Or.inl rfl)] at hback
  rw [← hback] at hstale
  exact hstale (attr_enabledRegions hk)

/-- **Regions survive standby.** On a secure chip, with the two SMCs set up alike and with
the regions programmed in any way between cycles, a resume that is not refused brings every
region back if and only if the regions in use had no gap and no leftover after them, and no
earlier cycle had more of them. -/
theorem smcRun_restores (hd : ∀ a, d.live a = 0) (cycles : List SmcCycle)
    {cycle : SmcCycle} (s : Regs)
    (hsecure : cycle.others sidSecModeSta &&& sidSecModeMask ≠ 0)
    (hequal : ∀ i < smcRegionCount, regionAt 0x10000 cycle.before i = regionAt 0 cycle.before i) :
    ((smcCycle d cycle (smcRun d cycles RegionSave.init s).1
        (smcRun d cycles RegionSave.init s).2).1 = 0 →
      Survives cycle.before (smcCycle d cycle (smcRun d cycles RegionSave.init s).1
        (smcRun d cycles RegionSave.init s).2).2.2.word) ↔
    cycle.others smcActionReg &&& smcFunctionBypass ≠ 0 ∨ Survivable cycles cycle := by
  obtain ⟨hret, hregion⟩ := smcCycle_region hd (smcRun d cycles RegionSave.init s).1
    (smcRun d cycles RegionSave.init s).2 hsecure
  have hbank : ∀ i < smcRegionCount, ∀ bank, bank = 0 ∨ bank = 0x10000 →
      regionAt bank cycle.before i = regionAt 0 cycle.before i := by
    rintro i hi bank (rfl | rfl)
    · rfl
    · exact hequal i hi
  by_cases hbypass : cycle.others smcActionReg &&& smcFunctionBypass = 0
  · rw [or_iff_right (not_not.mpr hbypass)]
    constructor
    · intro hsurvives
      have hall := hsurvives (hret.mpr hbypass)
      have hfewer := hall.fewer hd s hsecure hbypass
      refine ⟨hfewer, fun i hi hle => ?_⟩
      rw [← hall i hi 0 (Or.inl rfl), hregion hbypass i hi 0 (Or.inl rfl),
        if_neg (not_lt_saved hd s hfewer hle)]
    · rintro ⟨hfewer, hrest⟩ _ i hi bank hb
      rw [hregion hbypass i hi bank hb, hbank i hi bank hb]
      by_cases hlt : i < enabledRegions cycle.before
      · have hsaved := (lt_saved_iff hd cycles cycle s i).mpr
          ⟨cycle, List.mem_append_right _ List.mem_cons_self, hlt⟩
        rw [if_pos hsaved, smcCycle_save hd, if_pos hlt]
      · rw [if_neg (not_lt_saved hd s hfewer (Nat.not_lt.mp hlt)), hrest i hi (Nat.not_lt.mp hlt)]
  · exact ⟨fun _ => Or.inl hbypass, fun _ h => absurd (hret.mp h) hbypass⟩

end Cycles

/-- Words with the regions of a list in both SMCs. -/
def regionWords (regions : List Region) (a : ℕ) : UInt32 :=
  let offset := (a - sunxiSmcPbase) % 0x10000 - 0x100
  let region := regions.getD (offset / 0x10) ⟨0, 0, 0⟩
  if IsRegionReg a then
    if offset % 0x10 = 0 then region.low else if offset % 0x10 = 4 then region.high else region.attr
  else 0

/-- A cycle on a secure chip whose SMC is not bypassed. -/
def secureCycle (regions : List Region) : SmcCycle :=
  ⟨regionWords regions, fun a => if a = sidSecModeSta then 1 else 0⟩

/-- Registers that are plain words. -/
def plainDevice : Device := ⟨fun _ => 0, fun _ _ => 0⟩

theorem smcRun_restores_two :
    Survives (secureCycle [⟨1, 2, 3⟩, ⟨4, 5, 6⟩]).before
      (smcCycle plainDevice (secureCycle [⟨1, 2, 3⟩, ⟨4, 5, 6⟩])
        (smcRun plainDevice [secureCycle [⟨7, 8, 9⟩]] RegionSave.init ⟨fun _ => 0, 0, []⟩).1
        (smcRun plainDevice [secureCycle [⟨7, 8, 9⟩]] RegionSave.init
          ⟨fun _ => 0, 0, []⟩).2).2.2.word :=
  (smcRun_restores (fun _ => rfl) [secureCycle [⟨7, 8, 9⟩]] ⟨fun _ => 0, 0, []⟩ (by decide)
    (by decide +kernel)).mpr (Or.inr ⟨by decide +kernel, by decide +kernel⟩)
    (by decide +kernel)

/-- A region after a gap is lost; and one that was in use in an earlier cycle comes back. -/
theorem smcCycle_breaks :
    ¬((smcCycle plainDevice (secureCycle [⟨0, 0, 0⟩, ⟨4, 5, 6⟩]) RegionSave.init
      ⟨fun _ => 0, 0, []⟩).1 = 0 →
      Survives (secureCycle [⟨0, 0, 0⟩, ⟨4, 5, 6⟩]).before
        (smcCycle plainDevice (secureCycle [⟨0, 0, 0⟩, ⟨4, 5, 6⟩]) RegionSave.init
          ⟨fun _ => 0, 0, []⟩).2.2.word) ∧
    ¬((smcCycle plainDevice (secureCycle [])
        (smcRun plainDevice [secureCycle [⟨7, 8, 9⟩]] RegionSave.init ⟨fun _ => 0, 0, []⟩).1
        (smcRun plainDevice [secureCycle [⟨7, 8, 9⟩]] RegionSave.init
          ⟨fun _ => 0, 0, []⟩).2).1 = 0 →
      Survives (secureCycle []).before
        (smcCycle plainDevice (secureCycle [])
          (smcRun plainDevice [secureCycle [⟨7, 8, 9⟩]] RegionSave.init ⟨fun _ => 0, 0, []⟩).1
          (smcRun plainDevice [secureCycle [⟨7, 8, 9⟩]] RegionSave.init
            ⟨fun _ => 0, 0, []⟩).2).2.2.word) := by
  refine ⟨fun h => ?_, fun h => ?_⟩
  · have hlost := h (by decide +kernel) 1 (by decide) 0 (Or.inl rfl)
    exact absurd hlost (by decide +kernel)
  · have hstale := h (by decide +kernel) 0 (by decide) 0 (Or.inl rfl)
    exact absurd hstale (by decide +kernel)

end A733Boot.Ar100s.Standby
