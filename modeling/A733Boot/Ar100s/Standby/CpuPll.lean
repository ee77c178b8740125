/-
The PLLs and clocks of the processors in standby: `cpu_pll_off` and `cpu_pll_on` of
`ar100s/service/standby/standby-sun60iw2p1/plat_standby.c`.

The lock bit of a PLL is read-only and its update bit clears itself: both are driven by the
hardware and may read as anything. The delays are left out.

* `cpuPllOff`, `cpuPllOn`: the two functions, with what the first saves for the second;
* `modify_triple`: a read-modify-write, up to the bits that the hardware drives;
* `cpuPllOffStep_spec`, `cpuPllStart_spec`, `cpuPllRetune_spec`: a PLL is switched off,
  started, and set to its factors again;
* `cpuPll_restores` (**save and restore**): the seven registers come back, or the clocks stay
  on RC16M.
-/
import A733Boot.Ar100s.Standby.Clocks
import A733Boot.Library.Triples

namespace A733Boot.Ar100s.Standby

/-! ### Registers -/

def cpuPllRegBase : ℕ := 0x08870000
def cpusubsysRegBase : ℕ := 0x08000000
def sysCfgRegBase : ℕ := 0x03000000

def cpuPllReg (n : ℕ) : ℕ := cpuPllRegBase + n * 0x1000
def cpuaClkReg : ℕ := cpuPllRegBase + 0x101c
def cpubClkReg : ℕ := cpuPllRegBase + 0x201c
def dsuClkReg : ℕ := cpuPllRegBase + 0x301c

def cpuPllEn : UInt32 := (1 : UInt32) <<< 31
def cpuPllLdoEn : UInt32 := (1 : UInt32) <<< 30
def cpuPllLockEn : UInt32 := (1 : UInt32) <<< 29
def cpuPllLockStatus : UInt32 := (1 : UInt32) <<< 28
def cpuPllOutput : UInt32 := (1 : UInt32) <<< 27
def cpuPllUpdate : UInt32 := (1 : UInt32) <<< 26
def cpuPllFactorMask : UInt32 :=
  (0xf : UInt32) <<< 0 ||| (0xff : UInt32) <<< 8 ||| (0xf : UInt32) <<< 16 ||| (0x3 : UInt32) <<< 20

def cpuFactorPMask : UInt32 := (0x3 : UInt32) <<< 16
def cpuClkSrcSelMask : UInt32 := (0x7 : UInt32) <<< 24
def cpuClkSrcSel (n : UInt32) : UInt32 := n <<< 24
def dsuFactorMask : UInt32 := (0x3 : UInt32) <<< 16
def dsuClkSrcSelMask : UInt32 := (0x7 : UInt32) <<< 24
def dsuClkSrcSel (n : UInt32) : UInt32 := n <<< 24

def sunxiSocVerReg : ℕ := sysCfgRegBase + 0x24
def sunxiSocVerMask : UInt32 := 0x7
def sunxiSocVerA : UInt32 := 0
def sunxiSocVerB : UInt32 := 1
def pllCtrl1Reg : ℕ := cpusubsysRegBase + 0x144

def cpuPllRegs : List ℕ := (List.range 4).map cpuPllReg

/-! ### The code -/

/-- An entry of `cpu_pll_restore_bak`, with the register it is of. -/
structure CpuPll where
  addr : ℕ
  saved : UInt32

/-- `cpu_clk_restore_bak` and `cpu_pll_restore_bak`. -/
structure CpuSaves where
  cpua : UInt32
  cpub : UInt32
  dsu : UInt32
  plls : List CpuPll

section Code

variable (d : Device)

/-- A clock is switched to RC16M, and its divider is cleared. -/
def clkToRc16m (reg : ℕ) (srcMask src factorMask : UInt32) : Io Unit := do
  modify d reg (· &&& ~~~srcMask ||| src)
  modify d reg (· &&& ~~~factorMask)

/-- The divider of a clock and then its source are set as they were. -/
def clkRestore (reg : ℕ) (bak srcMask factorMask : UInt32) : Io Unit := do
  modify d reg (· &&& ~~~factorMask ||| bak &&& factorMask)
  modify d reg (· &&& ~~~srcMask ||| bak &&& srcMask)

def cpuPllOffStep (a : ℕ) : Io CpuPll := do
  let saved ← readl d a
  modify d a (· &&& ~~~cpuPllOutput)
  modify d a (· &&& ~~~cpuPllLockEn)
  modify d a (· &&& ~~~cpuPllEn)
  modify d a (· &&& ~~~cpuPllLdoEn)
  pure ⟨a, saved⟩

/-- The three clocks, before the PLLs stop. -/
def cpuClkOff : Io Unit := do
  clkToRc16m d cpuaClkReg cpuClkSrcSelMask (cpuClkSrcSel 2) cpuFactorPMask
  clkToRc16m d cpubClkReg cpuClkSrcSelMask (cpuClkSrcSel 2) cpuFactorPMask
  clkToRc16m d dsuClkReg dsuClkSrcSelMask (dsuClkSrcSel 2) dsuFactorMask

def cpuPllOff : Io CpuSaves := do
  let cpua ← readl d cpuaClkReg
  let cpub ← readl d cpubClkReg
  let dsu ← readl d dsuClkReg
  cpuClkOff d
  let plls ← Io.each (cpuPllOffStep d) cpuPllRegs
  pure ⟨cpua, cpub, dsu, plls⟩

def sunxiGetSocVer : Io UInt32 := do
  let value ← readl d sunxiSocVerReg
  pure (sunxiSocVerA + (value &&& sunxiSocVerMask))

/-- The LDO of the PLLs, by the version of the SoC. -/
def setPllLdo : Io Unit := do
  let ver ← sunxiGetSocVer d
  if ver = sunxiSocVerA then do
    writel 0xA7070025 pllCtrl1Reg
    writel 0xA7070025 pllCtrl1Reg
  else do
    let ver ← sunxiGetSocVer d
    if ver = sunxiSocVerB then do
      writel 0xA7060025 pllCtrl1Reg
      writel 0xA7060025 pllCtrl1Reg
    else pure ()

/-- Whether the PLL was enabled, with its lock. -/
def CpuPll.locks (p : CpuPll) : Bool := p.saved &&& cpuPllEn ≠ 0 ∧ p.saved &&& cpuPllLockEn ≠ 0

/-- A poll that ends with `-ETIMEOUT` when its reads run out. -/
def waitFor (a : ℕ) (ready : UInt32 → Bool) : Io ℤ := do
  let ok ← poll d a ready standbyHwPollLimit
  pure (if ok then 0 else -eTimeout)

/-- The first loop: a PLL that was enabled is started, any other gets its word. -/
def cpuPllStart (p : CpuPll) : Io ℤ :=
  if p.locks then do
    modify d p.addr (· ||| cpuPllLdoEn)
    modify d p.addr (· ||| cpuPllOutput)
    modify d p.addr (· ||| cpuPllEn)
    modify d p.addr (· ||| cpuPllLockEn)
    modify d p.addr (· ||| cpuPllUpdate)
    waitFor d p.addr fun value => value &&& cpuPllLockStatus ≠ 0
  else do
    writel (p.saved &&& ~~~cpuPllLockStatus) p.addr
    pure 0

/-- The second loop: the factors are set with the output closed. -/
def cpuPllRetune (p : CpuPll) : Io ℤ :=
  if p.locks then do
    modify d p.addr (· &&& ~~~cpuPllOutput)
    modify d p.addr (· &&& ~~~cpuPllFactorMask ||| p.saved &&& cpuPllFactorMask)
    modify d p.addr (· &&& ~~~cpuPllLockEn)
    modify d p.addr (· ||| cpuPllLockEn)
    modify d p.addr (· ||| cpuPllUpdate)
    let ret ← waitFor d p.addr fun value => value &&& cpuPllUpdate = 0
    if ret ≠ 0 then pure ret else
    let ret ← waitFor d p.addr fun value => value &&& cpuPllLockStatus ≠ 0
    if ret ≠ 0 then pure ret else
    modify d p.addr (· ||| cpuPllOutput)
    pure 0
  else pure 0

/-- The three clocks, once the PLLs run. -/
def cpuClkOn (c : CpuSaves) : Io Unit := do
  clkRestore d cpuaClkReg c.cpua cpuClkSrcSelMask cpuFactorPMask
  clkRestore d cpubClkReg c.cpub cpuClkSrcSelMask cpuFactorPMask
  clkRestore d dsuClkReg c.dsu dsuClkSrcSelMask dsuFactorMask

def cpuPllOn (c : CpuSaves) : Io ℤ := do
  setPllLdo d
  let ret ← Io.eachOk (cpuPllStart d) c.plls
  if ret ≠ 0 then pure ret else
  let ret ← Io.eachOk (cpuPllRetune d) c.plls
  if ret ≠ 0 then pure ret else
  cpuClkOn d c
  pure 0

end Code

/-! ### One PLL -/

/-- The bits that the hardware drives. -/
def cpuPllLive : UInt32 := cpuPllLockStatus ||| cpuPllUpdate

/-- The change gives the same bits outside the mask for words that have the same there. -/
def Respects (m : UInt32) (f : UInt32 → UInt32) : Prop :=
  ∀ v w, AgreeOff m v w → AgreeOff m (f v) (f w)

lemma respects_and (m k : UInt32) : Respects m (· &&& k) := by
  intro v w h
  rw [AgreeOff.iff_bit] at h ⊢
  intro i hi hm
  rw [bit_and, bit_and, h i hi hm]

lemma respects_or (m k : UInt32) : Respects m (· ||| k) := by
  intro v w h
  rw [AgreeOff.iff_bit] at h ⊢
  intro i hi hm
  rw [bit_or, bit_or, h i hi hm]

lemma respects_set (m k v : UInt32) : Respects m (· &&& ~~~k ||| v) :=
  fun _ _ h => respects_or m v _ _ (respects_and m (~~~k) _ _ h)

/-- A read-modify-write, up to the bits that the hardware drives. -/
lemma modify_triple (d : Device) {a : ℕ} {m : UInt32} (hlive : d.live a = m) {f : UInt32 → UInt32}
    (hf : Respects m f) {v : UInt32} :
    Triple (fun s => AgreeOff m (s.word a) v) (modify d a f)
      fun _ s => AgreeOff m (s.word a) (f v) := by
  intro s hs
  have hview : AgreeOff m (d.view s a) v := hlive ▸ (d.view_agreeOff s a).trans (hlive ▸ hs)
  change AgreeOff m (Function.update s.word a (f (d.view s a)) a) (f v)
  rw [Function.update_self]
  exact hf _ _ hview

/-- A poll leaves the register alone. -/
lemma waitFor_triple (d : Device) {a : ℕ} (ready : UInt32 → Bool) {m v : UInt32} :
    Triple (fun s => AgreeOff m (s.word a) v) (waitFor d a ready)
      fun _ s => AgreeOff m (s.word a) v := by
  intro s hs
  change AgreeOff m ((poll d a ready standbyHwPollLimit s).2.word a) v
  rw [poll_word]
  exact hs

/-- A PLL that is off. -/
def CpuPll.off (p : CpuPll) : UInt32 :=
  p.saved &&& ~~~cpuPllOutput &&& ~~~cpuPllLockEn &&& ~~~cpuPllEn &&& ~~~cpuPllLdoEn

/-- A PLL after the first loop. -/
def CpuPll.started (p : CpuPll) : UInt32 :=
  if p.locks then
    p.off ||| cpuPllLdoEn ||| cpuPllOutput ||| cpuPllEn ||| cpuPllLockEn ||| cpuPllUpdate
  else p.saved

/-- A PLL after the second loop. -/
def CpuPll.retuned (p : CpuPll) : UInt32 :=
  if p.locks then
    ((p.started &&& ~~~cpuPllOutput) &&& ~~~cpuPllFactorMask ||| p.saved &&& cpuPllFactorMask)
      &&& ~~~cpuPllLockEn ||| cpuPllLockEn ||| cpuPllUpdate ||| cpuPllOutput
  else p.saved

section Plls

variable {d : Device}

/-- A PLL is switched off, and its word is saved. -/
lemma cpuPllOffStep_spec {a : ℕ} (hlive : d.live a = cpuPllLive) (w : UInt32) :
    Triple (fun s => s.word a = w) (cpuPllOffStep d a) fun p s =>
      p.addr = a ∧ AgreeOff cpuPllLive p.saved w ∧ AgreeOff cpuPllLive (s.word a) p.off := by
  refine Triple.bind (Q := fun saved s => AgreeOff cpuPllLive saved w ∧
    AgreeOff cpuPllLive (s.word a) saved) ?_ fun saved => ?_
  · rintro s rfl
    have hview : AgreeOff cpuPllLive (d.view s a) (s.word a) := hlive ▸ d.view_agreeOff s a
    exact ⟨hview, hview.symm⟩
  · intro s hs
    refine ⟨rfl, hs.1, ?_⟩
    have hstep := fun k v => modify_triple d hlive (respects_and cpuPllLive k) (v := v)
    exact (((hstep _ _).bind fun _ => (hstep _ _).bind fun _ => (hstep _ _).bind fun _ =>
      (hstep _ _)) s hs.2)

/-- A PLL is started, whether it locks in time or not. -/
lemma cpuPllStart_spec {p : CpuPll} (hlive : d.live p.addr = cpuPllLive) :
    Triple (fun s => AgreeOff cpuPllLive (s.word p.addr) p.off) (cpuPllStart d p)
      fun _ s => AgreeOff cpuPllLive (s.word p.addr) p.started := by
  rw [CpuPll.started]
  refine .ite (fun hlocks => ?_) fun hlocks => ?_
  · rw [if_pos hlocks]
    have hstep := fun k v => modify_triple d hlive (respects_or cpuPllLive k) (v := v)
    exact (hstep _ _).bind fun _ => (hstep _ _).bind fun _ => (hstep _ _).bind fun _ =>
      (hstep _ _).bind fun _ => (hstep _ _).bind fun _ => waitFor_triple d _
  · rw [if_neg hlocks]
    intro s _
    change AgreeOff cpuPllLive (Function.update s.word p.addr _ p.addr) _
    rw [Function.update_self]
    exact AgreeOff.and_not (by decide) p.saved

/-- A PLL that gets its factors in time. -/
lemma cpuPllRetune_spec {p : CpuPll} (hlive : d.live p.addr = cpuPllLive) :
    Triple (fun s => AgreeOff cpuPllLive (s.word p.addr) p.started) (cpuPllRetune d p)
      fun ret s => ret = 0 → AgreeOff cpuPllLive (s.word p.addr) p.retuned := by
  rw [CpuPll.retuned]
  refine .ite (fun hlocks => ?_) fun hlocks => ?_
  · rw [if_pos hlocks]
    have hor := fun k v => modify_triple d hlive (respects_or cpuPllLive k) (v := v)
    have hand := fun k v => modify_triple d hlive (respects_and cpuPllLive k) (v := v)
    have hset := fun k x v => modify_triple d hlive (respects_set cpuPllLive k x) (v := v)
    refine (hand _ _).bind fun _ => (hset _ _ _).bind fun _ => (hand _ _).bind fun _ =>
      (hor _ _).bind fun _ => (hor _ _).bind fun _ => ?_
    refine .checked (waitFor_triple d _) (fun r hr => .pure fun _ _ h0 => absurd h0 hr) ?_
    refine .checked (waitFor_triple d _) (fun r hr => .pure fun _ _ h0 => absurd h0 hr) ?_
    exact (hor _ _).bind fun _ => .pure fun _ h _ => h
  · rw [if_neg hlocks]
    refine .pure fun s h _ => ?_
    rwa [CpuPll.started, if_neg hlocks] at h

end Plls

/-- A bit that is set. -/
lemma bit_of_and_ne_zero {w : UInt32} {k : ℕ} (hk : k < 32)
    (h : w &&& (1 <<< UInt32.ofNat k) ≠ 0) {i : ℕ} (hi : i < 32)
    (hbit : bit (1 <<< UInt32.ofNat k) i = true) : bit w i = true := by
  rw [bit_shiftLeft_one hk hi, decide_eq_true_iff] at hbit
  subst hbit
  by_contra hw
  refine h (eq_of_bit fun j hj => ?_)
  rw [bit_and, bit_shiftLeft_one hi hj, bit_zero]
  by_cases hji : j = i
  · rw [hji, Bool.eq_false_of_not_eq_true hw, Bool.false_and]
  · rw [decide_eq_false hji, Bool.and_false]

/-- A PLL that is enabled with its lock has its LDO on and its output open. -/
def CpuPllRuns (w : UInt32) : Prop :=
  w &&& cpuPllEn ≠ 0 → w &&& cpuPllLockEn ≠ 0 → w &&& cpuPllLdoEn ≠ 0 ∧ w &&& cpuPllOutput ≠ 0

/-- Bit by bit: a PLL that runs again has the word it had. -/
lemma CpuPll.retuned_agree {p : CpuPll} (h : CpuPllRuns p.saved) :
    AgreeOff cpuPllLive p.retuned p.saved := by
  rw [CpuPll.retuned, CpuPll.started, CpuPll.off]
  split_ifs with hlocks
  · simp only [CpuPll.locks, decide_eq_true_iff] at hlocks
    obtain ⟨hldo, hout⟩ := h hlocks.1 hlocks.2
    refine AgreeOff.iff_bit.mpr fun i hi hlive => ?_
    rw [cpuPllLive, bit_or, Bool.or_eq_false_iff] at hlive
    have hldo' : bit cpuPllLdoEn i = true → bit p.saved i = true :=
      bit_of_and_ne_zero (k := 30) (by decide) hldo hi
    have hout' : bit cpuPllOutput i = true → bit p.saved i = true :=
      bit_of_and_ne_zero (k := 27) (by decide) hout hi
    have hen' : bit cpuPllEn i = true → bit p.saved i = true :=
      bit_of_and_ne_zero (k := 31) (by decide) hlocks.1 hi
    have hlock' : bit cpuPllLockEn i = true → bit p.saved i = true :=
      bit_of_and_ne_zero (k := 29) (by decide) hlocks.2 hi
    simp only [bit_or, bit_and, bit_not _ hi, hlive.2]
    generalize bit p.saved i = w at hldo' hout' hen' hlock' ⊢
    generalize bit cpuPllLdoEn i = ldo at hldo' ⊢
    generalize bit cpuPllOutput i = out at hout' ⊢
    generalize bit cpuPllEn i = en at hen' ⊢
    generalize bit cpuPllLockEn i = lock at hlock' ⊢
    generalize bit cpuPllFactorMask i = factor
    revert w ldo out en lock factor
    decide
  · exact AgreeOff.refl _ _

/-! ### Which registers are written -/

section Within

variable (d : Device)

lemma modify_within_self (a : ℕ) (f : UInt32 → UInt32) : Io.Within {a} (modify d a f) :=
  .bind (.readl _ _ _) fun _ => .writel _ rfl

lemma cpuPllOffStep_within (a : ℕ) : Io.Within {a} (cpuPllOffStep d a) := by
  refine .bind (.readl _ _ _) fun _ => ?_
  exact .bind (modify_within_self d a _) fun _ => .bind (modify_within_self d a _) fun _ =>
    .bind (modify_within_self d a _) fun _ => .bind (modify_within_self d a _) fun _ => .pure _ _

lemma waitFor_within (A : Set ℕ) (a : ℕ) (ready : UInt32 → Bool) :
    Io.Within A (waitFor d a ready) :=
  .bind (.poll _ _ _ _ _) fun _ => .pure _ _

lemma cpuPllStart_within (p : CpuPll) : Io.Within {p.addr} (cpuPllStart d p) := by
  refine .ite ?_ (.bind (.writel _ rfl) fun _ => .pure _ _)
  exact .bind (modify_within_self d _ _) fun _ => .bind (modify_within_self d _ _) fun _ =>
    .bind (modify_within_self d _ _) fun _ => .bind (modify_within_self d _ _) fun _ =>
    .bind (modify_within_self d _ _) fun _ => waitFor_within d _ _ _

lemma cpuPllRetune_within (p : CpuPll) : Io.Within {p.addr} (cpuPllRetune d p) := by
  refine .ite ?_ (.pure _ _)
  refine .bind (modify_within_self d _ _) fun _ => .bind (modify_within_self d _ _) fun _ =>
    .bind (modify_within_self d _ _) fun _ => .bind (modify_within_self d _ _) fun _ =>
    .bind (modify_within_self d _ _) fun _ => ?_
  refine .bind (waitFor_within d _ _ _) fun _ => .ite (.pure _ _) ?_
  refine .bind (waitFor_within d _ _ _) fun _ => .ite (.pure _ _) ?_
  exact .bind (modify_within_self d _ _) fun _ => .pure _ _

lemma sunxiGetSocVer_within (A : Set ℕ) : Io.Within A (sunxiGetSocVer d) :=
  .bind (.readl _ _ _) fun _ => .pure _ _

lemma setPllLdo_within : Io.Within {pllCtrl1Reg} (setPllLdo d) := by
  have htwice : ∀ v : UInt32, Io.Within {pllCtrl1Reg} (do
      writel v pllCtrl1Reg
      writel v pllCtrl1Reg) := fun v => .bind (.writel _ rfl) fun _ => .writel _ rfl
  refine .bind (sunxiGetSocVer_within d _) fun _ => .ite (htwice _) ?_
  exact .bind (sunxiGetSocVer_within d _) fun _ => .ite (htwice _) (.pure _ _)

end Within

/-! ### Return values -/

section Returns

variable (d : Device)

lemma waitFor_fst (a : ℕ) (ready : UInt32 → Bool) :
    Triple (fun _ => True) (waitFor d a ready) fun ret _ => ret = 0 ∨ ret = -eTimeout := by
  refine .after fun ok => .pure fun _ _ => ?_
  split_ifs
  · exact .inl rfl
  · exact .inr rfl

lemma cpuPllStart_fst (p : CpuPll) :
    Triple (fun _ => True) (cpuPllStart d p) fun ret _ => ret = 0 ∨ ret = -eTimeout :=
  .ite (fun _ => .after fun _ => .after fun _ => .after fun _ => .after fun _ => .after fun _ =>
    waitFor_fst d p.addr _) fun _ => .after fun _ => .pure fun _ _ => .inl rfl

lemma cpuPllRetune_fst (p : CpuPll) :
    Triple (fun _ => True) (cpuPllRetune d p) fun ret _ => ret = 0 ∨ ret = -eTimeout := by
  refine .ite (fun _ => ?_) fun _ => .pure fun _ _ => .inl rfl
  refine .after fun _ => .after fun _ => .after fun _ => .after fun _ => .after fun _ => ?_
  refine .checked (waitFor_fst d p.addr _) (fun r _ => .pure fun _ h => h) ?_
  refine .mono (P := fun _ => True)
    (.checked (waitFor_fst d p.addr _) (fun r _ => .pure fun _ h => h) ?_)
    (fun _ _ => trivial) fun _ _ h => h
  refine .mono (P := fun _ => True) (.after fun _ => .pure fun _ _ => .inl rfl)
    (fun _ _ => trivial) fun _ _ h => h

end Returns

/-! ### The clocks -/

/-- The registers of the three clocks. -/
def cpuClkRegs : List ℕ := [cpuaClkReg, cpubClkReg, dsuClkReg]

/-- What hardware drives: the lock and the update bit of the PLLs, and nothing of the clocks. -/
structure CpuDevice (d : Device) : Prop where
  pll : ∀ a ∈ cpuPllRegs, d.live a = cpuPllLive
  clk : ∀ a ∈ cpuClkRegs, d.live a = 0

/-- A clock on RC16M; the masks of the three clocks are the same. -/
def clkAsleep (w : UInt32) : UInt32 :=
  (w &&& ~~~cpuClkSrcSelMask ||| cpuClkSrcSel 2) &&& ~~~cpuFactorPMask

/-- A clock that is set as it was saved. -/
def clkRestored (bak w : UInt32) : UInt32 :=
  (w &&& ~~~cpuFactorPMask ||| bak &&& cpuFactorPMask) &&& ~~~cpuClkSrcSelMask |||
    bak &&& cpuClkSrcSelMask

lemma clkAsleep_source (w : UInt32) : Field cpuClkSrcSelMask (cpuClkSrcSel 2) (clkAsleep w) :=
  (Field.set w (by decide)).and_not (by decide)

lemma clkRestored_clkAsleep (w : UInt32) : clkRestored w (clkAsleep w) = w := by
  refine eq_of_bit fun i hi => ?_
  have hsource : bit (cpuClkSrcSel 2) i = true → bit cpuClkSrcSelMask i = true :=
    bit_le_of_within (by decide)
  simp only [clkRestored, clkAsleep, bit_or, bit_and, bit_not _ hi]
  generalize bit (cpuClkSrcSel 2) i = source at hsource ⊢
  generalize bit cpuClkSrcSelMask i = mask at hsource ⊢
  generalize bit cpuFactorPMask i = factor
  generalize bit w i = b
  revert source mask factor b
  decide

section Clocks

variable {d : Device}

/-- A read-modify-write of a register that the hardware leaves alone. -/
lemma modify_plain {a : ℕ} (hlive : d.live a = 0) (f : UInt32 → UInt32) (w : ℕ → UInt32) :
    Triple (fun s => s.word = w) (modify d a f)
      fun _ s => s.word = Function.update w a (f (w a)) := by
  rintro s rfl
  change Function.update s.word a (f (d.view s a)) = _
  rw [d.view_plain hlive]

lemma modify_twice {a : ℕ} (hlive : d.live a = 0) (f g : UInt32 → UInt32) (w : ℕ → UInt32) :
    Triple (fun s => s.word = w)
      (do
        modify d a f
        modify d a g)
      fun _ s => s.word = Function.update w a (g (f (w a))) := by
  refine (modify_plain hlive f w).bind fun _ =>
    .mono (modify_plain hlive g _) (fun _ h => h) fun _ s h => ?_
  rw [h, Function.update_self, Function.update_idem]

/-- The words after `f` has been applied to the three clocks. -/
def onClks (f : ℕ → UInt32 → UInt32) (w : ℕ → UInt32) : ℕ → UInt32 := fun a =>
  if a ∈ cpuClkRegs then f a (w a) else w a

lemma onClks_eq (f : ℕ → UInt32 → UInt32) (w : ℕ → UInt32) :
    Function.update (Function.update (Function.update w cpuaClkReg (f cpuaClkReg (w cpuaClkReg)))
      cpubClkReg (f cpubClkReg (w cpubClkReg))) dsuClkReg (f dsuClkReg (w dsuClkReg)) =
    onClks f w := by
  funext a
  simp only [onClks, cpuClkRegs, List.mem_cons, List.not_mem_nil, or_false]
  by_cases hdsu : a = dsuClkReg
  · rw [hdsu, Function.update_self, if_pos (.inr (.inr rfl))]
  rw [Function.update_of_ne hdsu]
  by_cases hcpub : a = cpubClkReg
  · rw [hcpub, Function.update_self, if_pos (.inr (.inl rfl))]
  rw [Function.update_of_ne hcpub]
  by_cases hcpua : a = cpuaClkReg
  · rw [hcpua, Function.update_self, if_pos (.inl rfl)]
  · rw [Function.update_of_ne hcpua, if_neg]
    simp only [hcpua, hcpub, hdsu, or_self, not_false_eq_true]

/-- Three clocks are changed one after the other. -/
lemma clks_triple {A B C : Io Unit} {f : ℕ → UInt32 → UInt32}
    (hA : ∀ w, Triple (fun s => s.word = w) A
      fun _ s => s.word = Function.update w cpuaClkReg (f cpuaClkReg (w cpuaClkReg)))
    (hB : ∀ w, Triple (fun s => s.word = w) B
      fun _ s => s.word = Function.update w cpubClkReg (f cpubClkReg (w cpubClkReg)))
    (hC : ∀ w, Triple (fun s => s.word = w) C
      fun _ s => s.word = Function.update w dsuClkReg (f dsuClkReg (w dsuClkReg)))
    (w : ℕ → UInt32) :
    Triple (fun s => s.word = w) (do A; B; C) fun _ s => s.word = onClks f w := by
  refine (hA w).bind fun _ => (hB _).bind fun _ => .mono (hC _) (fun _ h => h) fun _ s h => ?_
  rw [h, ← onClks_eq]
  simp only [Function.update_of_ne (show cpubClkReg ≠ cpuaClkReg by decide),
    Function.update_of_ne (show dsuClkReg ≠ cpubClkReg by decide),
    Function.update_of_ne (show dsuClkReg ≠ cpuaClkReg by decide)]

end Clocks

/-! ### The processors are switched off -/

/-- The processors are off: their clocks are on RC16M, the PLLs are off, and what was there
before has been saved. -/
structure CpuAsleep (w : ℕ → UInt32) (c : CpuSaves) (x : ℕ → UInt32) : Prop where
  cpua : c.cpua = w cpuaClkReg
  cpub : c.cpub = w cpubClkReg
  dsu : c.dsu = w dsuClkReg
  clks : ∀ a ∈ cpuClkRegs, x a = clkAsleep (w a)
  addrs : c.plls.map CpuPll.addr = cpuPllRegs
  plls : ∀ p ∈ c.plls, AgreeOff cpuPllLive p.saved (w p.addr) ∧ AgreeOff cpuPllLive (x p.addr) p.off

lemma readl_plain {d : Device} {a : ℕ} (hlive : d.live a = 0) (w : ℕ → UInt32) :
    Triple (fun s => s.word = w) (readl d a) fun v s => v = w a ∧ s.word = w := by
  rintro s rfl
  exact ⟨d.view_plain hlive, rfl⟩

lemma cpuClkRegs_apart : ∀ a ∈ cpuClkRegs, a ∉ cpuPllRegs ∧ a ≠ pllCtrl1Reg := by decide

lemma cpuPllRegs_apart : ∀ a ∈ cpuPllRegs, a ≠ pllCtrl1Reg := by decide

lemma cpuPllRegs_nodup : cpuPllRegs.Nodup := by decide

lemma cpuClkOff_triple {d : Device} (hd : CpuDevice d) (w : ℕ → UInt32) :
    Triple (fun s => s.word = w) (cpuClkOff d)
      fun _ s => s.word = onClks (fun _ => clkAsleep) w :=
  clks_triple (fun w => modify_twice (hd.clk _ (by decide)) _ _ w)
    (fun w => modify_twice (hd.clk _ (by decide)) _ _ w)
    (fun w => modify_twice (hd.clk _ (by decide)) _ _ w) w

/-- The four PLLs are switched off. -/
lemma cpuPllOffEach_triple {d : Device} (hd : CpuDevice d) (w : ℕ → UInt32) :
    Triple (fun s => s.word = w) (Io.each (cpuPllOffStep d) cpuPllRegs) fun plls s =>
      plls.map CpuPll.addr = cpuPllRegs ∧
      (∀ p ∈ plls, AgreeOff cpuPllLive p.saved (w p.addr) ∧
        AgreeOff cpuPllLive (s.word p.addr) p.off) ∧
      ∀ a ∉ cpuPllRegs, s.word a = w a := by
  rintro s rfl
  have hself : cpuPllRegs.map (fun a => a) = cpuPllRegs := List.map_id' _
  obtain ⟨haddrs, hplls⟩ := Io.each_spec (f := cpuPllOffStep d)
    (P := fun a x => a ∈ cpuPllRegs ∧ x = s.word a)
    (Q := fun p x => AgreeOff cpuPllLive p.saved (s.word p.addr) ∧ AgreeOff cpuPllLive x p.off)
    (fun a t h => by
      obtain ⟨haddr, hsaved, hoff⟩ := cpuPllOffStep_spec (hd.pll a h.1) _ t h.2
      refine ⟨haddr, ?_, hoff⟩
      rw [haddr]
      exact hsaved)
    (fun a => cpuPllOffStep_within d a) (hself ▸ cpuPllRegs_nodup) s fun a ha => ⟨ha, rfl⟩
  have hwithin : Io.Within {a | a ∈ cpuPllRegs.map fun a => a}
      (Io.each (cpuPllOffStep d) cpuPllRegs) := Io.each_within (cpuPllOffStep_within d) cpuPllRegs
  rw [hself] at haddrs hwithin
  exact ⟨haddrs, hplls, hwithin s⟩

lemma cpuPllOff_asleep {d : Device} (hd : CpuDevice d) (w : ℕ → UInt32) :
    Triple (fun s => s.word = w) (cpuPllOff d) fun c s => CpuAsleep w c s.word := by
  refine (readl_plain (hd.clk _ (by decide)) w).bind fun cpua => .of_and fun hcpua => ?_
  refine (readl_plain (hd.clk _ (by decide)) w).bind fun cpub => .of_and fun hcpub => ?_
  refine (readl_plain (hd.clk _ (by decide)) w).bind fun dsu => .of_and fun hdsu => ?_
  refine (cpuClkOff_triple hd w).bind fun _ => (cpuPllOffEach_triple hd _).bind fun plls => ?_
  refine .pure fun s h => ⟨hcpua, hcpub, hdsu, fun a ha => ?_, h.1, fun p hp => ?_⟩
  · rw [h.2.2 a (cpuClkRegs_apart a ha).1, onClks, if_pos ha]
  · have hpll : p.addr ∉ cpuClkRegs := by
      intro hclk
      refine (cpuClkRegs_apart _ hclk).1 ?_
      rw [← h.1]
      exact List.mem_map_of_mem hp
    obtain ⟨hsaved, hoff⟩ := h.2.1 p hp
    rw [onClks, if_neg hpll] at hsaved
    exact ⟨hsaved, hoff⟩

/-! ### The processors are switched on -/

/-- The bits that a PLL is judged by are not driven by the hardware. -/
lemma CpuPllRuns.of_agree {v w : UInt32} (h : CpuPllRuns w) (hagree : AgreeOff cpuPllLive v w) :
    CpuPllRuns v := by
  have hsame : ∀ k : UInt32, k &&& cpuPllLive = 0 → v &&& k = w &&& k :=
    fun k hk => hagree.field hk rfl
  intro hen hlock
  rw [hsame _ (by decide)] at hen hlock
  rw [hsame _ (by decide), hsame _ (by decide)]
  exact h hen hlock

/-- While the processors are switched on: the clocks are still on RC16M, and each PLL has
come to `V`. -/
structure CpuWaking (w : ℕ → UInt32) (c : CpuSaves) (V : CpuPll → UInt32) (x : ℕ → UInt32) :
    Prop where
  clks : ∀ a ∈ cpuClkRegs, x a = clkAsleep (w a)
  plls : ∀ p ∈ c.plls, AgreeOff cpuPllLive (x p.addr) (V p)

section Waking

variable {d : Device} {w : ℕ → UInt32} {c : CpuSaves}

lemma cpuPllRegs_of_mem (haddrs : c.plls.map CpuPll.addr = cpuPllRegs) {p : CpuPll}
    (hp : p ∈ c.plls) : p.addr ∈ cpuPllRegs := by
  rw [← haddrs]
  exact List.mem_map_of_mem hp

/-- One of the two loops over the PLLs. -/
lemma CpuWaking.loop (haddrs : c.plls.map CpuPll.addr = cpuPllRegs) {f : CpuPll → Io ℤ}
    {V V' : CpuPll → UInt32}
    (hf : ∀ p ∈ c.plls, Triple (fun s => AgreeOff cpuPllLive (s.word p.addr) (V p)) (f p)
      fun ret s => ret = 0 → AgreeOff cpuPllLive (s.word p.addr) (V' p))
    (hw : ∀ p, Io.Within {p.addr} (f p))
    (hret : ∀ p, Triple (fun _ => True) (f p) fun ret _ => ret = 0 ∨ ret = -eTimeout) :
    Triple (fun s => CpuWaking w c V s.word) (Io.eachOk f c.plls) fun ret s =>
      (ret = 0 ∨ ret = -eTimeout) ∧ (∀ a ∈ cpuClkRegs, s.word a = clkAsleep (w a)) ∧
      (ret = 0 → CpuWaking w c V' s.word) := by
  intro s hs
  have hclks : ∀ a ∈ cpuClkRegs, (Io.eachOk f c.plls s).2.word a = clkAsleep (w a) := by
    intro a ha
    rw [Io.eachOk_within hw c.plls s a, hs.clks a ha]
    rw [haddrs]
    exact (cpuClkRegs_apart a ha).1
  refine ⟨Io.eachOk_fst (P := fun r => r = 0 ∨ r = -eTimeout) (fun p s => hret p s trivial)
    (.inl rfl) c.plls s, hclks, fun hok => ⟨hclks, ?_⟩⟩
  refine Io.eachOk_spec (P := fun p x => p ∈ c.plls ∧ AgreeOff cpuPllLive x (V p))
    (Q := fun p x => AgreeOff cpuPllLive x (V' p)) (fun p s h hok => hf p h.1 s h.2 hok) hw
    (haddrs ▸ cpuPllRegs_nodup) s (fun p hp => ⟨hp, hs.plls p hp⟩) hok

lemma cpuClkOn_triple (hd : CpuDevice d) (x : ℕ → UInt32) :
    Triple (fun s => s.word = x) (cpuClkOn d c) fun _ s => s.word = onClks (fun a => clkRestored
      (if a = cpuaClkReg then c.cpua else if a = cpubClkReg then c.cpub else c.dsu)) x :=
  clks_triple (fun w => modify_twice (hd.clk _ (by decide)) _ _ w)
    (fun w => modify_twice (hd.clk _ (by decide)) _ _ w)
    (fun w => modify_twice (hd.clk _ (by decide)) _ _ w) x

/-- The processors are on again, or the clocks are still on RC16M. -/
lemma cpuPllOn_triple (hd : CpuDevice d) (hruns : ∀ a ∈ cpuPllRegs, CpuPllRuns (w a)) :
    Triple (fun s => CpuAsleep w c s.word) (cpuPllOn d c) fun ret s =>
      (ret = 0 → (∀ a ∈ cpuPllRegs, AgreeOff cpuPllLive (s.word a) (w a)) ∧
        ∀ a ∈ cpuClkRegs, s.word a = w a) ∧
      (ret ≠ 0 → ret = -eTimeout ∧ ∀ a ∈ cpuClkRegs, s.word a = clkAsleep (w a)) := by
  -- what was saved does not change any more
  refine .mono (P := fun s => (c.cpua = w cpuaClkReg ∧ c.cpub = w cpubClkReg ∧ c.dsu = w dsuClkReg ∧
      c.plls.map CpuPll.addr = cpuPllRegs ∧
      ∀ p ∈ c.plls, AgreeOff cpuPllLive p.saved (w p.addr)) ∧ CpuWaking w c CpuPll.off s.word)
    (.of_and fun ⟨hcpua, hcpub, hdsu, haddrs, hsaved⟩ => ?_)
    (fun s h => ⟨⟨h.cpua, h.cpub, h.dsu, h.addrs, fun p hp => (h.plls p hp).1⟩, h.clks,
      fun p hp => (h.plls p hp).2⟩) fun _ _ h => h
  have hlive : ∀ p ∈ c.plls, d.live p.addr = cpuPllLive :=
    fun p hp => hd.pll _ (cpuPllRegs_of_mem haddrs hp)
  have hfailed : ∀ {V : CpuPll → UInt32} (r : ℤ), r ≠ 0 → Triple (fun s : Regs =>
      (r = 0 ∨ r = -eTimeout) ∧ (∀ a ∈ cpuClkRegs, s.word a = clkAsleep (w a)) ∧
        (r = 0 → CpuWaking w c V s.word)) (pure r) fun ret s =>
      (ret = 0 → (∀ a ∈ cpuPllRegs, AgreeOff cpuPllLive (s.word a) (w a)) ∧
        ∀ a ∈ cpuClkRegs, s.word a = w a) ∧
      (ret ≠ 0 → ret = -eTimeout ∧ ∀ a ∈ cpuClkRegs, s.word a = clkAsleep (w a)) :=
    fun r hr => .pure fun s h => ⟨fun h0 => absurd h0 hr, fun _ => ⟨h.1.resolve_left hr, h.2.1⟩⟩
  refine Triple.bind (Q := fun _ s => CpuWaking w c CpuPll.off s.word) ?_ fun _ => ?_
  · intro s hs
    have hkept : ∀ a ≠ pllCtrl1Reg, (setPllLdo d s).2.word a = s.word a :=
      fun a ha => setPllLdo_within d s a ha
    refine ⟨fun a ha => ?_, fun p hp => ?_⟩
    · rw [hkept a (cpuClkRegs_apart a ha).2]
      exact hs.clks a ha
    · rw [hkept p.addr (cpuPllRegs_apart _ (cpuPllRegs_of_mem haddrs hp))]
      exact hs.plls p hp
  refine .checked (CpuWaking.loop haddrs (fun p hp => .mono (cpuPllStart_spec (hlive p hp))
    (fun _ h => h) fun _ _ h _ => h) (cpuPllStart_within d) (cpuPllStart_fst d)) hfailed ?_
  refine .checked (.mono (CpuWaking.loop haddrs (fun p hp => cpuPllRetune_spec (hlive p hp))
    (cpuPllRetune_within d) (cpuPllRetune_fst d)) (fun _ h => h.2.2 rfl) fun _ _ h => h) hfailed ?_
  intro s h
  have hs := h.2.2 rfl
  have hword := cpuClkOn_triple (c := c) hd s.word s rfl
  refine ⟨fun _ => ⟨fun a ha => ?_, fun a ha => ?_⟩, fun hne => absurd rfl hne⟩
  · change AgreeOff cpuPllLive ((cpuClkOn d c s).2.word a) (w a)
    have hclk : a ∉ cpuClkRegs := fun hmem => (cpuClkRegs_apart a hmem).1 ha
    rw [hword, onClks, if_neg hclk]
    obtain ⟨p, hp, rfl⟩ : ∃ p ∈ c.plls, p.addr = a := by
      rw [← haddrs] at ha
      exact List.mem_map.mp ha
    have hsame := hsaved p hp
    exact (hs.plls p hp).trans
      ((CpuPll.retuned_agree ((hruns _ ha).of_agree hsame)).trans hsame)
  · change (cpuClkOn d c s).2.word a = w a
    have hbak : (if a = cpuaClkReg then c.cpua else if a = cpubClkReg then c.cpub else c.dsu) =
        w a := by
      simp only [cpuClkRegs, List.mem_cons, List.not_mem_nil, or_false] at ha
      obtain rfl | rfl | rfl := ha
      · exact hcpua
      · exact hcpub
      · exact hdsu
    rw [hword, onClks, if_pos ha, hbak, hs.clks a ha, clkRestored_clkAsleep]

end Waking

/-- **Save and restore.** Whatever the PLLs and the clocks of the processors were set to, a PLL
that is enabled with its lock having its LDO on and its output open, and whatever the lock and
update bits show: if `cpu_pll_on` succeeds after `cpu_pll_off`, all seven registers are as they
were, up to these bits; if it does not, it has timed out, and the clocks are on RC16M. -/
theorem cpuPll_restores (d : Device) (hd : CpuDevice d) (s t : Regs)
    (hruns : ∀ a ∈ cpuPllRegs, CpuPllRuns (s.word a))
    (ht : ∀ a ∈ cpuPllRegs ++ cpuClkRegs, t.word a = (cpuPllOff d s).2.word a) :
    ((cpuPllOn d (cpuPllOff d s).1 t).1 = 0 →
      (∀ a ∈ cpuPllRegs, AgreeOff (cpuPllLockStatus ||| cpuPllUpdate)
        ((cpuPllOn d (cpuPllOff d s).1 t).2.word a) (s.word a)) ∧
      ∀ a ∈ cpuClkRegs, (cpuPllOn d (cpuPllOff d s).1 t).2.word a = s.word a) ∧
    ((cpuPllOn d (cpuPllOff d s).1 t).1 ≠ 0 → (cpuPllOn d (cpuPllOff d s).1 t).1 = -eTimeout ∧
      ∀ a ∈ cpuClkRegs,
        (cpuPllOn d (cpuPllOff d s).1 t).2.word a &&& cpuClkSrcSelMask = cpuClkSrcSel 2) := by
  have hoff : CpuAsleep s.word (cpuPllOff d s).1 (cpuPllOff d s).2.word :=
    cpuPllOff_asleep hd s.word s rfl
  generalize cpuPllOff d s = r at hoff ht ⊢
  have hasleep : CpuAsleep s.word r.1 t.word := by
    refine ⟨hoff.cpua, hoff.cpub, hoff.dsu, fun a ha => ?_, hoff.addrs, fun p hp => ?_⟩
    · rw [ht a (List.mem_append_right _ ha)]
      exact hoff.clks a ha
    · rw [ht _ (List.mem_append_left _ (cpuPllRegs_of_mem hoff.addrs hp))]
      exact hoff.plls p hp
  obtain ⟨hok, hfail⟩ := cpuPllOn_triple hd hruns t hasleep
  refine ⟨hok, fun hne => ⟨(hfail hne).1, fun a ha => ?_⟩⟩
  rw [(hfail hne).2 a ha]
  exact clkAsleep_source _

/-- Hardware on which a PLL locks and takes an update at once. -/
def lockingDevice : Device where
  live a := if a ∈ cpuPllRegs then cpuPllLive else 0
  sense _ _ := cpuPllLockStatus

/-- The PLLs run, the fourth but for its lock, and the clocks are on them. -/
def runningCpus : Regs where
  word a :=
    if a = cpuPllReg 3 then 0x40002700
    else if a ∈ cpuPllRegs then 0xf8003d01
    else if a ∈ cpuClkRegs then 0x83010000
    else 0
  reads := 0
  writes := []

theorem cpuPll_restores_locking :
    (∀ a ∈ cpuPllRegs, AgreeOff (cpuPllLockStatus ||| cpuPllUpdate)
      ((cpuPllOn lockingDevice (cpuPllOff lockingDevice runningCpus).1
        (cpuPllOff lockingDevice runningCpus).2).2.word a) (runningCpus.word a)) ∧
    ∀ a ∈ cpuClkRegs, (cpuPllOn lockingDevice (cpuPllOff lockingDevice runningCpus).1
      (cpuPllOff lockingDevice runningCpus).2).2.word a = runningCpus.word a := by
  have hd : CpuDevice lockingDevice := by
    refine ⟨fun a ha => if_pos ha, fun a ha => if_neg (cpuClkRegs_apart a ha).1⟩
  have hruns : ∀ a ∈ cpuPllRegs, CpuPllRuns (runningCpus.word a) := by
    unfold CpuPllRuns
    decide
  exact (cpuPll_restores lockingDevice hd runningCpus _ hruns fun _ _ => rfl).1 (by decide +kernel)

end A733Boot.Ar100s.Standby
