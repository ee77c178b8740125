/-
The clock tree of boot0, `src/clock_a733.c`: the REF and the two PERI PLLs and the system
buses. Return values are zero for success.

* `a7sPllProgram`, `a7sClockInit`: one PLL, and the whole tree, as the driver programs them;
* `a7sDevice`: the registers are plain words, but for the lock bits of the PLLs;
* `a7sPllProgram_spec`: after a program that succeeds the PLL has its configuration, and
  nothing but the fields of the driver has changed.
-/
import A733Boot.Library.WriteLog

namespace A733Boot.Boot

/-! ### Registers and fields -/

def sunxiCcmuBase : ℕ := 0x02002000
def sunxiRtcBase : ℕ := 0x07090000

def pllRefCtrlReg : ℕ := 0x0
def pllPeri0CtrlReg : ℕ := 0xa0
def pllPeri1CtrlReg : ℕ := 0xc0
def ahbClkReg : ℕ := 0x500
def apb0ClkReg : ℕ := 0x510
def apb1ClkReg : ℕ := 0x518
def apbUartClkReg : ℕ := 0x538
def peri0pllGateEnReg : ℕ := 0x1908
def peri1pllGateEnReg : ℕ := 0x190c

def a7sBit (n : UInt32) : UInt32 := 1 <<< n

def a7sPllEnable : UInt32 := a7sBit 31
def a7sPllLdoEnable : UInt32 := a7sBit 30
def a7sPllLockEnable : UInt32 := a7sBit 29
def a7sPllLock : UInt32 := a7sBit 28
def a7sRefOutputGate : UInt32 := a7sBit 27
def a7sRefRegEnable : UInt32 := a7sBit 24
def a7sPeriOutputGates : UInt32 := a7sBit 27 ||| a7sBit 26 ||| a7sBit 25
def a7sPeriRefPll : UInt32 := a7sBit 24

def a7sRtcXoCtrl0 : ℕ := sunxiRtcBase + 0x160
def a7sRtcDcxoStatusMask : UInt32 := (3 : UInt32) <<< 14

def a7sPllLockTimeoutUs : ℕ := 1000
def a7sPllLockStableReads : ℕ := 3

def a7sAhbApbSourceMask : UInt32 := (3 : UInt32) <<< 24
def a7sUartSourceMask : UInt32 := (7 : UInt32) <<< 24
def a7sBusDivMask : UInt32 := 0x1f

def a7sAhbSourcePeri0600 : UInt32 := (3 : UInt32) <<< 24
def a7sApbSourcePeri0600 : UInt32 := (3 : UInt32) <<< 24
def a7sUartSourcePeri0480 : UInt32 := (4 : UInt32) <<< 24

def a7sAhbDiv3 : UInt32 := 3 - 1
def a7sApbDiv6 : UInt32 := 6 - 1
def a7sUartDiv20 : UInt32 := 20 - 1

def a7sPeriDistributionGates : UInt32 := 0x8fff0fff

def a7sClockOk : ℤ := 0
def a7sClockErrRefPll : ℤ := -1
def a7sClockErrPeri0Pll : ℤ := -2
def a7sClockErrPeri1Pll : ℤ := -3
def a7sClockErrBus : ℤ := -4

/-- `struct a7s_pll_config`; a pattern register of zero is none. -/
structure A7sPllConfig where
  reg : ℕ
  patternReg : ℕ
  configMask : UInt32
  configValue : UInt32
  outputMask : UInt32
  supplyMask : UInt32

def a7sCcuReg (offset : ℕ) : ℕ := sunxiCcmuBase + offset

/-! ### The driver -/

section Driver

variable (d : Device)

/-- The loop of `a7s_pll_wait_stable`, with `n` reads left and `stable` good ones in a row. -/
def waitStableLoop (reg : ℕ) : ℕ → ℕ → Io Bool
  | 0, _ => pure false
  | n + 1, stable => do
      let value ← readl d reg
      if value &&& a7sPllLock ≠ 0 then
        if stable + 1 = a7sPllLockStableReads then pure true
        else waitStableLoop reg n (stable + 1)
      else waitStableLoop reg n 0

/-- Whether the lock was stable in time. -/
def a7sPllWaitStable (reg : ℕ) : Io Bool := waitStableLoop d reg a7sPllLockTimeoutUs 0

/-- The bits that are set in a PLL that runs. -/
def A7sPllConfig.required (pll : A7sPllConfig) : UInt32 :=
  a7sPllEnable ||| a7sPllLdoEnable ||| a7sPllLockEnable ||| pll.outputMask ||| pll.supplyMask

def a7sPllIsRunning (pll : A7sPllConfig) (checkConfig : Bool) : Io Bool := do
  let value ← readl d pll.reg
  if value &&& pll.required ≠ pll.required then pure false
  else if checkConfig ∧ value &&& pll.configMask ≠ pll.configValue then pure false
  else if pll.patternReg ≠ 0 then
    let pattern ← readl d pll.patternReg
    if pattern &&& a7sBit 31 ≠ 0 then pure false else a7sPllWaitStable d pll.reg
  else a7sPllWaitStable d pll.reg

/-- The frequency-modulation sequence of a PLL that was enabled: consumers are isolated
first. -/
def pllIsolate (pll : A7sPllConfig) (value : UInt32) : Io Unit := do
  writel (value &&& ~~~pll.outputMask) pll.reg
  let value ← readl d pll.reg
  writel (value &&& ~~~a7sPllLockEnable) pll.reg

/-- The start-up of a PLL that was not enabled. -/
def pllStartup (pll : A7sPllConfig) (value : UInt32) : Io Unit := do
  let value := value ||| (a7sPllLdoEnable ||| pll.supplyMask)
  writel value pll.reg
  writel (value ||| pll.outputMask) pll.reg

/-- Switch the spread spectrum off, where there is a pattern register. -/
def pllClearPattern (pll : A7sPllConfig) : Io Unit :=
  if pll.patternReg ≠ 0 then do
    let value ← readl d pll.patternReg
    writel (value &&& ~~~(a7sBit 31)) pll.patternReg
  else pure ()

def pllPrepare (pll : A7sPllConfig) (wasEnabled : Bool) (value : UInt32) : Io Unit :=
  if wasEnabled then pllIsolate d pll value else pllStartup pll value

/-- The writes that bring the configuration into the register and enable the PLL. -/
def pllConfigure (pll : A7sPllConfig) : Io Unit := do
  let value ← readl d pll.reg
  writel (value &&& ~~~pll.configMask ||| (pll.configValue ||| a7sPllLdoEnable ||| pll.supplyMask))
    pll.reg
  let value ← readl d pll.reg
  let value := value ||| a7sPllEnable
  writel value pll.reg
  writel (value ||| a7sPllLockEnable) pll.reg

/-- The end of `a7s_pll_program`: the outputs are opened, or closed if there is no lock. -/
def pllFinish (pll : A7sPllConfig) (wasEnabled : Bool) : Io ℤ := do
  let stable ← a7sPllWaitStable d pll.reg
  if stable then
    if wasEnabled then
      let value ← readl d pll.reg
      writel (value ||| pll.outputMask) pll.reg
      pure 0
    else pure 0
  else
    let value ← readl d pll.reg
    writel (value &&& ~~~pll.outputMask) pll.reg
    pure (-1)

/-- The part of `a7s_pll_program` for a PLL that does not run as configured. -/
def pllReprogram (pll : A7sPllConfig) (wasEnabled : Bool) : Io ℤ := do
  pllClearPattern d pll
  let value ← readl d pll.reg
  pllPrepare d pll wasEnabled value
  pllConfigure d pll
  pllFinish d pll wasEnabled

def a7sPllProgram (pll : A7sPllConfig) : Io ℤ := do
  let value ← readl d pll.reg
  let running ← a7sPllIsRunning d pll true
  if running then pure 0 else pllReprogram d pll (value &&& a7sPllEnable != 0)

/-- The loop of `a7s_read_dcxo_rate` over the attempts that are left: three equal reads in
a row, or nothing. -/
def dcxoLoop : ℕ → Io (Option UInt32)
  | 0 => pure none
  | n + 1 => do
      let first ← readl d a7sRtcXoCtrl0
      let second ← readl d a7sRtcXoCtrl0
      let third ← readl d a7sRtcXoCtrl0
      if first &&& a7sRtcDcxoStatusMask = second &&& a7sRtcDcxoStatusMask ∧
          second &&& a7sRtcDcxoStatusMask = third &&& a7sRtcDcxoStatusMask then
        pure (some (first &&& a7sRtcDcxoStatusMask))
      else dcxoLoop n

def a7sReadDcxoRate : Io UInt32 := do
  let status ← dcxoLoop d 8
  match status with
  | none => pure 0
  | some first =>
      if first >>> 14 = 1 then pure 19200000
      else if first >>> 14 = 2 then pure 26000000
      else pure 24000000

/-- The REF PLL with the factor and the output divider of its configuration. -/
def refPll (n outputDiv : UInt32) : A7sPllConfig where
  reg := a7sCcuReg pllRefCtrlReg
  patternReg := 0
  configMask := (0x7f : UInt32) <<< 16 ||| (0xff : UInt32) <<< 8 ||| a7sBit 1
  configValue := (outputDiv - 1) <<< 16 ||| (n - 1) <<< 8
  outputMask := a7sRefOutputGate
  supplyMask := a7sRefRegEnable

/-- The check before the crystal is known reads no configuration, so it is made with the
first of the three. -/
def a7sRefPllInit : Io ℤ := do
  let running ← a7sPllIsRunning d (refPll 100 80) false
  if running then pure 0
  else
    let dcxoRate ← a7sReadDcxoRate d
    if dcxoRate = 19200000 then a7sPllProgram d (refPll 100 80)
    else if dcxoRate = 24000000 then a7sPllProgram d (refPll 100 100)
    else if dcxoRate = 26000000 then a7sPllProgram d (refPll 96 104)
    else pure (-1)

/-- A PERI PLL with the factor of its configuration. -/
def periPll (offset : ℕ) (n : UInt32) : A7sPllConfig where
  reg := a7sCcuReg offset
  patternReg := a7sCcuReg (offset + 8)
  configMask := a7sPeriRefPll ||| (7 : UInt32) <<< 20 ||| (7 : UInt32) <<< 16 |||
    (0xff : UInt32) <<< 8 ||| (7 : UInt32) <<< 2 ||| a7sBit 1
  configValue := a7sPeriRefPll ||| (1 : UInt32) <<< 20 ||| (2 : UInt32) <<< 16 |||
    (n - 1) <<< 8 ||| (4 : UInt32) <<< 2
  outputMask := a7sPeriOutputGates
  supplyMask := 0

def a7sPeriPllInit (offset : ℕ) (n : UInt32) : Io ℤ := a7sPllProgram d (periPll offset n)

def a7sBusSwitchToSys24 (offset : ℕ) (sourceMask : UInt32) : Io Unit := do
  let value ← readl d (a7sCcuReg offset)
  writel (value &&& ~~~sourceMask) (a7sCcuReg offset)
  let value ← readl d (a7sCcuReg offset)
  writel (value &&& ~~~a7sBusDivMask) (a7sCcuReg offset)

/-- The checks that end the two switches: the source and divider fields of each bus, up to
the first that is wrong. -/
def busCheck : List (ℕ × UInt32 × UInt32) → Io ℤ
  | [] => pure 0
  | (offset, sourceMask, value) :: rest => do
      let word ← readl d (a7sCcuReg offset)
      if word &&& (sourceMask ||| a7sBusDivMask) ≠ value then pure (-1) else busCheck rest

def a7sBusUseSys24 : Io ℤ := do
  a7sBusSwitchToSys24 d ahbClkReg a7sAhbApbSourceMask
  a7sBusSwitchToSys24 d apb0ClkReg a7sAhbApbSourceMask
  a7sBusSwitchToSys24 d apb1ClkReg a7sAhbApbSourceMask
  a7sBusSwitchToSys24 d apbUartClkReg a7sUartSourceMask
  busCheck d [(ahbClkReg, a7sAhbApbSourceMask, 0), (apb0ClkReg, a7sAhbApbSourceMask, 0),
    (apb1ClkReg, a7sAhbApbSourceMask, 0), (apbUartClkReg, a7sUartSourceMask, 0)]

def a7sBusSwitchUp (offset : ℕ) (sourceMask source divider : UInt32) : Io Unit := do
  let value ← readl d (a7sCcuReg offset)
  writel (value &&& ~~~a7sBusDivMask ||| divider) (a7sCcuReg offset)
  let value ← readl d (a7sCcuReg offset)
  writel (value &&& ~~~sourceMask ||| source) (a7sCcuReg offset)

def a7sBusUseNominalRates : Io ℤ := do
  a7sBusSwitchUp d ahbClkReg a7sAhbApbSourceMask a7sAhbSourcePeri0600 a7sAhbDiv3
  a7sBusSwitchUp d apb0ClkReg a7sAhbApbSourceMask a7sApbSourcePeri0600 a7sApbDiv6
  a7sBusSwitchUp d apb1ClkReg a7sAhbApbSourceMask a7sApbSourcePeri0600 a7sApbDiv6
  a7sBusSwitchUp d apbUartClkReg a7sUartSourceMask a7sUartSourcePeri0480 a7sUartDiv20
  busCheck d [(ahbClkReg, a7sAhbApbSourceMask, a7sAhbSourcePeri0600 ||| a7sAhbDiv3),
    (apb0ClkReg, a7sAhbApbSourceMask, a7sApbSourcePeri0600 ||| a7sApbDiv6),
    (apb1ClkReg, a7sAhbApbSourceMask, a7sApbSourcePeri0600 ||| a7sApbDiv6),
    (apbUartClkReg, a7sUartSourceMask, a7sUartSourcePeri0480 ||| a7sUartDiv20)]

def a7sPeriDistributionEnable (offset : ℕ) : Io ℤ := do
  let value ← readl d (a7sCcuReg offset)
  writel (value ||| a7sPeriDistributionGates) (a7sCcuReg offset)
  let value ← readl d (a7sCcuReg offset)
  pure (if value &&& a7sPeriDistributionGates = a7sPeriDistributionGates then 0 else -1)

/-- Back to the crystal, and report the error. -/
def clockFallBack (error : ℤ) : Io ℤ := do
  let _ ← a7sBusUseSys24 d
  pure error

def a7sClockInit : Io ℤ := do
  let ret ← a7sBusUseSys24 d
  if ret ≠ 0 then pure a7sClockErrBus
  else
    let ret ← a7sRefPllInit d
    if ret ≠ 0 then pure a7sClockErrRefPll
    else
      let ret ← a7sPeriPllInit d pllPeri0CtrlReg 100
      if ret ≠ 0 then pure a7sClockErrPeri0Pll
      else
        let ret ← a7sPeriPllInit d pllPeri1CtrlReg 100
        if ret ≠ 0 then clockFallBack d a7sClockErrPeri1Pll
        else
          let ret ← a7sPeriDistributionEnable d peri0pllGateEnReg
          if ret ≠ 0 then clockFallBack d a7sClockErrBus
          else
            let ret ← a7sPeriDistributionEnable d peri1pllGateEnReg
            if ret ≠ 0 then clockFallBack d a7sClockErrBus
            else
              let ret ← a7sBusUseNominalRates d
              if ret ≠ 0 then clockFallBack d a7sClockErrBus else pure a7sClockOk

end Driver

/-! ### Programming a PLL -/

/-- The registers as the driver finds them: plain words, but for the lock bits of the PLLs,
which read as they like. -/
def a7sDevice (lock : ℕ → ℕ → Bool) : Device where
  live a :=
    if a = a7sCcuReg pllRefCtrlReg ∨ a = a7sCcuReg pllPeri0CtrlReg ∨ a = a7sCcuReg pllPeri1CtrlReg
    then a7sPllLock else 0
  sense n a := if lock n a then a7sPllLock else 0

/-- The fields of a PLL that the driver names. -/
def A7sPllConfig.fields (pll : A7sPllConfig) : UInt32 :=
  pll.required ||| a7sPllLock ||| pll.configMask

/-- The registers of a PLL. -/
def A7sPllConfig.regs (pll : A7sPllConfig) : Set ℕ :=
  {a | a = pll.reg ∨ a = pll.patternReg ∧ pll.patternReg ≠ 0}

instance (pll : A7sPllConfig) (a : ℕ) : Decidable (a ∈ pll.regs) :=
  inferInstanceAs (Decidable (_ ∨ _))

/-- The masks of a configuration do not overlap. -/
structure A7sPllConfig.Sound (pll : A7sPllConfig) : Prop where
  value : pll.configValue &&& pll.configMask = pll.configValue
  mask : pll.configMask &&& (pll.required ||| a7sPllLock) = 0
  lock : pll.required &&& a7sPllLock = 0
  apart : pll.patternReg ≠ pll.reg

/-- The PLL is configured and on, its spread spectrum off, and only the fields of the
driver have changed. -/
structure PllDone (pll : A7sPllConfig) (s s' : Regs) : Prop where
  required : Field pll.required pll.required (s'.word pll.reg)
  config : Field pll.configMask pll.configValue (s'.word pll.reg)
  pattern : pll.patternReg ≠ 0 → Field (a7sBit 31) 0 (s'.word pll.patternReg)
  reg : AgreeOff pll.fields (s'.word pll.reg) (s.word pll.reg)
  patternReg : AgreeOff (a7sBit 31) (s'.word pll.patternReg) (s.word pll.patternReg)

section Pll

variable {d : Device} {pll : A7sPllConfig}

lemma waitStableLoop_word (reg n stable : ℕ) (s : Regs) :
    (waitStableLoop d reg n stable s).2.word = s.word := by
  induction n generalizing stable s with
  | zero => rfl
  | succ n ih =>
      rw [waitStableLoop, bind_apply, ite_apply', ite_apply']
      split
      · split
        · rfl
        · exact ih (stable + 1) _
      · exact ih 0 _

lemma a7sPllIsRunning_word (check : Bool) (s : Regs) :
    (a7sPllIsRunning d pll check s).2.word = s.word := by
  rw [a7sPllIsRunning, bind_apply, ite_apply', ite_apply', ite_apply']
  split
  · rfl
  · split
    · rfl
    · split
      · rw [bind_apply, ite_apply']
        split
        · rfl
        · exact waitStableLoop_word _ _ _ _
      · exact waitStableLoop_word _ _ _ _

/-- What a PLL that runs looks like. -/
lemma a7sPllIsRunning_true {check : Bool} {s : Regs}
    (h : (a7sPllIsRunning d pll check s).1 = true) :
    Field pll.required pll.required (d.view s pll.reg) ∧
    (check = true → Field pll.configMask pll.configValue (d.view s pll.reg)) ∧
    (pll.patternReg ≠ 0 →
      Field (a7sBit 31) 0 (d.view { s with reads := s.reads + 1 } pll.patternReg)) := by
  rw [a7sPllIsRunning, bind_apply, ite_apply', ite_apply', ite_apply', readl_fst] at h
  split_ifs at h with hreq hconf hpat
  · exact Bool.noConfusion h
  · exact Bool.noConfusion h
  · refine ⟨not_not.mp hreq, fun hcheck => not_not.mp fun hne => hconf ⟨hcheck, hne⟩, fun _ => ?_⟩
    rw [bind_apply, ite_apply'] at h
    split_ifs at h with hbit
    · exact Bool.noConfusion h
    · exact not_not.mp hbit
  · exact ⟨not_not.mp hreq, fun hcheck => not_not.mp fun hne => hconf ⟨hcheck, hne⟩,
      fun hne => absurd hne hpat⟩

/-! The register of a PLL goes through a chain of words: each is what was read of the one
before, with bits cleared and set. -/

lemma pllPrepare_word (wasEnabled : Bool) (value : UInt32) (s : Regs)
    (hlive : d.live pll.reg = a7sPllLock) :
    ∃ v, AgreeOff a7sPllLock v (value &&& ~~~pll.outputMask) ∧
      (pllPrepare d pll wasEnabled value s).2.word = Function.update s.word pll.reg
        (if wasEnabled then v &&& ~~~a7sPllLockEnable
          else value ||| (a7sPllLdoEnable ||| pll.supplyMask) ||| pll.outputMask) := by
  have hview := d.view_agreeOff (writel (value &&& ~~~pll.outputMask) pll.reg s).2 pll.reg
  rw [hlive, writel_word, Function.update_self] at hview
  refine ⟨_, hview, ?_⟩
  cases wasEnabled with
  | true =>
      simp only [pllPrepare, pllIsolate, bind_apply, if_true, writel_word, readl_word,
        Function.update_idem, readl_fst]
  | false =>
      simp only [pllPrepare, pllStartup, bind_apply, Bool.false_eq_true, if_false, writel_word,
        Function.update_idem]

lemma pllConfigure_word (s : Regs) (hlive : d.live pll.reg = a7sPllLock) :
    ∃ v₁ v₂, AgreeOff a7sPllLock v₁ (s.word pll.reg) ∧
      AgreeOff a7sPllLock v₂ (v₁ &&& ~~~pll.configMask |||
        (pll.configValue ||| a7sPllLdoEnable ||| pll.supplyMask)) ∧
      (pllConfigure d pll s).2.word = Function.update s.word pll.reg
        (v₂ ||| a7sPllEnable ||| a7sPllLockEnable) := by
  have hfirst := d.view_agreeOff s pll.reg
  have hsecond := d.view_agreeOff (writel (d.view s pll.reg &&& ~~~pll.configMask |||
    (pll.configValue ||| a7sPllLdoEnable ||| pll.supplyMask)) pll.reg
      (readl d pll.reg s).2).2 pll.reg
  rw [hlive] at hfirst
  rw [hlive, writel_word, Function.update_self] at hsecond
  refine ⟨_, _, hfirst, hsecond, ?_⟩
  simp only [pllConfigure, bind_apply, writel_word, readl_word, readl_fst, Function.update_idem]

lemma pllFinish_word (wasEnabled : Bool) (s : Regs) (hlive : d.live pll.reg = a7sPllLock)
    (hret : (pllFinish d pll wasEnabled s).1 = 0) :
    ∃ v, AgreeOff a7sPllLock v (s.word pll.reg) ∧
      (pllFinish d pll wasEnabled s).2.word = Function.update s.word pll.reg
        (if wasEnabled then v ||| pll.outputMask else s.word pll.reg) := by
  have hwait : (a7sPllWaitStable d pll.reg s).2.word = s.word := waitStableLoop_word _ _ _ _
  have hview := d.view_agreeOff (a7sPllWaitStable d pll.reg s).2 pll.reg
  rw [hlive, hwait] at hview
  refine ⟨_, hview, ?_⟩
  rw [pllFinish, bind_apply, ite_apply'] at hret ⊢
  by_cases hstable : (a7sPllWaitStable d pll.reg s).1 = true
  · rw [if_pos hstable]
    cases wasEnabled with
    | true =>
        simp only [if_true, bind_apply, pure_apply, writel_word, readl_word, readl_fst, hwait]
    | false =>
        simp only [Bool.false_eq_true, if_false, pure_apply, hwait, Function.update_eq_self]
  · rw [if_neg hstable] at hret
    exact Int.noConfusion hret

/-! Every mask that the driver uses lies among the fields of the PLL. -/

lemma within_fields {k : UInt32} (h : k &&& pll.required = k) : k &&& pll.fields = k :=
  within_or_left (within_or_left h _) _

lemma enable_within (pll : A7sPllConfig) : a7sPllEnable &&& pll.required = a7sPllEnable :=
  within_or_left (within_or_left (within_or_left (within_or_left UInt32.and_self _) _) _) _

lemma ldo_within (pll : A7sPllConfig) : a7sPllLdoEnable &&& pll.required = a7sPllLdoEnable :=
  within_or_left (within_or_left (within_or_left (within_or_right _ _) _) _) _

lemma lockEnable_within (pll : A7sPllConfig) :
    a7sPllLockEnable &&& pll.required = a7sPllLockEnable :=
  within_or_left (within_or_left (within_or_right _ _) _) _

lemma output_within (pll : A7sPllConfig) : pll.outputMask &&& pll.required = pll.outputMask :=
  within_or_left (within_or_right _ _) _

lemma supply_within (pll : A7sPllConfig) : pll.supplyMask &&& pll.required = pll.supplyMask :=
  within_or_right _ _

lemma lock_within (pll : A7sPllConfig) : a7sPllLock &&& pll.fields = a7sPllLock :=
  within_or_left (within_or_right _ _) _

lemma config_within (pll : A7sPllConfig) : pll.configMask &&& pll.fields = pll.configMask :=
  within_or_right _ _

namespace A7sPllConfig.Sound

lemma apart_mask (hs : pll.Sound) {k : UInt32} (h : k &&& pll.required = k) :
    k &&& pll.configMask = 0 :=
  disjoint_of_within (within_or_left h _) hs.mask

lemma apart_lock (hs : pll.Sound) {k : UInt32} (h : k &&& pll.required = k) :
    k &&& a7sPllLock = 0 := by
  refine disjoint_of_within h ?_
  rw [UInt32.and_comm, hs.lock]

lemma mask_lock (hs : pll.Sound) : pll.configMask &&& a7sPllLock = 0 := by
  rw [UInt32.and_comm]
  exact disjoint_of_within (within_or_right _ _) hs.mask

end A7sPllConfig.Sound

/-- The word of a PLL that carries its configuration: all that is required but the outputs,
which are as they were. -/
structure Configured (pll : A7sPllConfig) (w w' : UInt32) : Prop where
  config : Field pll.configMask pll.configValue w'
  enable : Field a7sPllEnable a7sPllEnable w'
  ldo : Field a7sPllLdoEnable a7sPllLdoEnable w'
  lockEnable : Field a7sPllLockEnable a7sPllLockEnable w'
  supply : Field pll.supplyMask pll.supplyMask w'
  output : Field pll.outputMask pll.outputMask w → Field pll.outputMask pll.outputMask w'
  agree : AgreeOff pll.fields w' w

/-- The word that `pllConfigure` leaves. -/
lemma configured_of_words (hs : pll.Sound) {v₁ v₂ w : UInt32} (h₁ : AgreeOff a7sPllLock v₁ w)
    (h₂ : AgreeOff a7sPllLock v₂ (v₁ &&& ~~~pll.configMask |||
      (pll.configValue ||| a7sPllLdoEnable ||| pll.supplyMask))) :
    Configured pll w (v₂ ||| a7sPllEnable ||| a7sPllLockEnable) := by
  obtain ⟨k, hk⟩ : ∃ k, k = pll.configValue ||| a7sPllLdoEnable ||| pll.supplyMask := ⟨_, rfl⟩
  have hldo : a7sPllLdoEnable &&& k = a7sPllLdoEnable := by
    rw [hk]
    exact within_or_left (within_or_right _ _) _
  have hsupply : pll.supplyMask &&& k = pll.supplyMask := by
    rw [hk]
    exact within_or_right _ _
  have hvalue : pll.configValue &&& pll.fields = pll.configValue := by
    rw [← hs.value, UInt32.and_assoc, config_within]
  have hkf : k &&& pll.fields = k := by
    rw [hk]
    exact or_within (or_within hvalue (within_fields (ldo_within pll)))
      (within_fields (supply_within pll))
  have hconfig : Field pll.configMask pll.configValue (v₁ &&& ~~~pll.configMask ||| k) := by
    rw [hk, ← UInt32.or_assoc, ← UInt32.or_assoc]
    exact ((Field.set v₁ hs.value).or (hs.apart_mask (ldo_within pll))).or
      (hs.apart_mask (supply_within pll))
  rw [← hk] at h₂
  constructor
  · exact ((h₂.field hs.mask_lock hconfig).or (hs.apart_mask (enable_within pll))).or
      (hs.apart_mask (lockEnable_within pll))
  · exact (Field.or_self v₂ UInt32.and_self).has_or _
  · exact ((h₂.field (hs.apart_lock (ldo_within pll)) (Field.or_self _ hldo)).has_or _).has_or _
  · exact Field.or_self _ UInt32.and_self
  · exact ((h₂.field (hs.apart_lock (supply_within pll))
      (Field.or_self _ hsupply)).has_or _).has_or _
  · intro hout
    have hfirst := h₁.field (hs.apart_lock (output_within pll)) hout
    have hcleared := (hfirst.and_not (by
      rw [UInt32.and_comm]
      exact hs.apart_mask (output_within pll))).has_or k
    exact ((h₂.field (hs.apart_lock (output_within pll)) hcleared).has_or _).has_or _
  · have hstep : AgreeOff pll.fields (v₁ &&& ~~~pll.configMask ||| k) w :=
      ((AgreeOff.or hkf _).trans (AgreeOff.and_not (config_within pll) v₁)).trans
        (h₁.mono (lock_within pll))
    have hread : AgreeOff pll.fields v₂ w := (h₂.mono (lock_within pll)).trans hstep
    exact ((AgreeOff.or (within_fields (lockEnable_within pll)) _).trans
      (AgreeOff.or (within_fields (enable_within pll)) v₂)).trans hread

/-- The outputs are opened, whatever the lock bit was read as. -/
lemma Configured.opened (hs : pll.Sound) {v w w' : UInt32} (h : Configured pll w w')
    (hv : AgreeOff a7sPllLock v w') :
    Configured pll w (v ||| pll.outputMask) := by
  refine ⟨?_, ?_, ?_, ?_, ?_, fun _ => ?_, ?_⟩
  · exact (hv.field hs.mask_lock h.config).or (hs.apart_mask (output_within pll))
  · exact (hv.field (hs.apart_lock (enable_within pll)) h.enable).has_or _
  · exact (hv.field (hs.apart_lock (ldo_within pll)) h.ldo).has_or _
  · exact (hv.field (hs.apart_lock (lockEnable_within pll)) h.lockEnable).has_or _
  · exact (hv.field (hs.apart_lock (supply_within pll)) h.supply).has_or _
  · exact Field.or_self _ UInt32.and_self
  · exact ((AgreeOff.or (within_fields (output_within pll)) _).trans
      (hv.mono (lock_within pll))).trans h.agree

lemma PllDone.of_word {s s' s'' : Regs} (hword : s'.word = s.word) (h : PllDone pll s' s'') :
    PllDone pll s s'' := by
  refine ⟨h.required, h.config, h.pattern, ?_, ?_⟩
  · rw [← hword]
    exact h.reg
  · rw [← hword]
    exact h.patternReg

/-- A PLL that was found running is as the driver wants it. -/
lemma PllDone.of_running (hs : pll.Sound) (hlive : d.live pll.reg = a7sPllLock)
    (hplain : d.live pll.patternReg = 0) {s s' : Regs} (hword : s'.word = s.word)
    (h : (a7sPllIsRunning d pll true s).1 = true) : PllDone pll s s' := by
  obtain ⟨hreq, hconf, hpat⟩ := a7sPllIsRunning_true h
  have hview := (d.view_agreeOff s pll.reg).symm
  rw [hlive] at hview
  refine ⟨?_, ?_, fun hne => ?_, ?_, ?_⟩
  · rw [hword]
    exact hview.field hs.lock hreq
  · rw [hword]
    exact hview.field hs.mask_lock (hconf rfl)
  · have hclear := hpat hne
    rw [d.view_plain hplain] at hclear
    rw [hword]
    exact hclear
  · rw [hword]
    exact AgreeOff.refl _ _
  · rw [hword]
    exact AgreeOff.refl _ _

lemma pllClearPattern_spec (hs : pll.Sound) (hplain : d.live pll.patternReg = 0) (s : Regs) :
    (pllClearPattern d pll s).2.word pll.reg = s.word pll.reg ∧
    (pll.patternReg ≠ 0 → Field (a7sBit 31) 0 ((pllClearPattern d pll s).2.word pll.patternReg)) ∧
    AgreeOff (a7sBit 31) ((pllClearPattern d pll s).2.word pll.patternReg)
      (s.word pll.patternReg) := by
  rw [pllClearPattern, ite_apply']
  by_cases hpat : pll.patternReg = 0
  · rw [if_neg (not_not.mpr hpat)]
    exact ⟨rfl, fun hne => absurd hpat hne, AgreeOff.refl _ _⟩
  · rw [if_pos hpat]
    simp only [bind_apply, readl_fst, writel_word, readl_word, Function.update_self,
      d.view_plain hplain, Function.update_of_ne hs.apart.symm]
    exact ⟨trivial, fun _ => Field.clear _ _, AgreeOff.and_not UInt32.and_self _⟩

/-- The register before it is configured: only fields of the driver have changed, and the
outputs are open after the start-up. -/
lemma pllPrepare_spec (enabled : Bool) {s : Regs} {w : UInt32} (hlive : d.live pll.reg = a7sPllLock)
    (hw : AgreeOff a7sPllLock (d.view s pll.reg) w) :
    ∃ v, (pllPrepare d pll enabled (d.view s pll.reg) (readl d pll.reg s).2).2.word =
        Function.update s.word pll.reg v ∧
      AgreeOff pll.fields v w ∧ (enabled = false → Field pll.outputMask pll.outputMask v) := by
  obtain ⟨v, hv, hword⟩ := pllPrepare_word enabled (d.view s pll.reg) (readl d pll.reg s).2 hlive
  rw [readl_word] at hword
  refine ⟨_, hword, ?_⟩
  have hfound := hw.mono (lock_within pll)
  cases enabled with
  | true =>
      refine ⟨?_, fun h => Bool.noConfusion h⟩
      exact (((AgreeOff.and_not (within_fields (lockEnable_within pll)) v).trans
        (hv.mono (lock_within pll))).trans
        (AgreeOff.and_not (within_fields (output_within pll)) _)).trans hfound
  | false =>
      refine ⟨?_, fun _ => Field.or_self _ UInt32.and_self⟩
      exact ((AgreeOff.or (within_fields (output_within pll)) _).trans
        (AgreeOff.or (or_within (within_fields (ldo_within pll))
          (within_fields (supply_within pll))) _)).trans hfound

lemma pllReprogram_spec (hs : pll.Sound) (hlive : d.live pll.reg = a7sPllLock)
    (hplain : d.live pll.patternReg = 0) (enabled : Bool) (s : Regs)
    (hret : (pllReprogram d pll enabled s).1 = 0) :
    PllDone pll s (pllReprogram d pll enabled s).2 := by
  simp only [pllReprogram, bind_apply, readl_fst] at hret ⊢
  obtain ⟨hreg₁, hpat₁, hagree₁⟩ := pllClearPattern_spec hs hplain s
  generalize (pllClearPattern d pll s).2 = s₁ at hreg₁ hpat₁ hagree₁ hret ⊢
  have hview := d.view_agreeOff s₁ pll.reg
  rw [hlive, hreg₁] at hview
  obtain ⟨v, hword₂, hagree₂, hout⟩ := pllPrepare_spec enabled hlive hview
  generalize (pllPrepare d pll enabled (d.view s₁ pll.reg) (readl d pll.reg s₁).2).2 = s₂
    at hword₂ hret ⊢
  obtain ⟨v₁, v₂, hv₁, hv₂, hword₃⟩ := pllConfigure_word s₂ hlive
  generalize (pllConfigure d pll s₂).2 = s₃ at hword₃ hret ⊢
  obtain ⟨v₃, hv₃, hword₄⟩ := pllFinish_word enabled s₃ hlive hret
  have hconf := configured_of_words hs hv₁ hv₂
  rw [hword₃, Function.update_self] at hv₃ hword₄
  have hpattern : (pllFinish d pll enabled s₃).2.word pll.patternReg = s₁.word pll.patternReg := by
    rw [hword₄, Function.update_of_ne hs.apart, Function.update_of_ne hs.apart, hword₂,
      Function.update_of_ne hs.apart]
  generalize v₂ ||| a7sPllEnable ||| a7sPllLockEnable = w at hconf hv₃ hword₄
  rw [hword₂, Function.update_self] at hconf
  -- the outputs are open since the start-up, or opened at the end
  have hfinal : Configured pll v (if enabled then v₃ ||| pll.outputMask else w) ∧
      Field pll.outputMask pll.outputMask (if enabled then v₃ ||| pll.outputMask else w) := by
    cases enabled with
    | true => exact ⟨hconf.opened hs hv₃, Field.or_self _ UInt32.and_self⟩
    | false => exact ⟨hconf, hconf.output (hout rfl)⟩
  refine ⟨?_, ?_, fun hne => ?_, ?_, ?_⟩
  · rw [hword₄, Function.update_self]
    exact (((hfinal.1.enable.union hfinal.1.ldo).union hfinal.1.lockEnable).union hfinal.2).union
      hfinal.1.supply
  · rw [hword₄, Function.update_self]
    exact hfinal.1.config
  · rw [hpattern]
    exact hpat₁ hne
  · rw [hword₄, Function.update_self]
    exact hfinal.1.agree.trans hagree₂
  · rw [hpattern]
    exact hagree₁

/-- **A PLL that was programmed.** If `a7s_pll_program` succeeds, whatever the register held
and however the lock bit behaved, the PLL is configured and on, and only the fields of the
driver have changed. -/
lemma a7sPllProgram_spec (hs : pll.Sound) (hlive : d.live pll.reg = a7sPllLock)
    (hplain : d.live pll.patternReg = 0) (s : Regs) (hret : (a7sPllProgram d pll s).1 = 0) :
    PllDone pll s (a7sPllProgram d pll s).2 := by
  simp only [a7sPllProgram, bind_apply, readl_fst, ite_apply'] at hret ⊢
  generalize (d.view s pll.reg &&& a7sPllEnable != 0) = enabled at hret ⊢
  have hword₁ : (readl d pll.reg s).2.word = s.word := rfl
  generalize (readl d pll.reg s).2 = s₁ at hword₁ hret ⊢
  have hword₂ : (a7sPllIsRunning d pll true s₁).2.word = s.word := by
    rw [a7sPllIsRunning_word, hword₁]
  by_cases hrun : (a7sPllIsRunning d pll true s₁).1 = true
  · simp only [if_pos hrun, pure_apply]
    exact PllDone.of_word hword₁
      (PllDone.of_running hs hlive hplain (hword₂.trans hword₁.symm) hrun)
  · simp only [if_neg hrun] at hret ⊢
    exact PllDone.of_word hword₂ (pllReprogram_spec hs hlive hplain enabled _ hret)

/-! Which registers are written. -/

lemma waitStableLoop_writes (P : ℕ × UInt32 → Prop) (d : Device) (reg n stable : ℕ) :
    Io.Writes P (waitStableLoop d reg n stable) := by
  induction n generalizing stable with
  | zero => exact .pure _
  | succ n ih => exact .bind (.readl _ _) fun _ => .ite (.ite (.pure _) (ih _)) (ih _)

lemma a7sPllIsRunning_writes (P : ℕ × UInt32 → Prop) (d : Device) (pll : A7sPllConfig)
    (check : Bool) : Io.Writes P (a7sPllIsRunning d pll check) :=
  .bind (.readl _ _) fun _ => .ite (.pure _) (.ite (.pure _) (.ite
    (.bind (.readl _ _) fun _ => .ite (.pure _) (waitStableLoop_writes _ _ _ _ _))
    (waitStableLoop_writes _ _ _ _ _)))

lemma pllClearPattern_writes (d : Device) (pll : A7sPllConfig) :
    Io.Writes (fun x => x.1 ∈ pll.regs) (pllClearPattern d pll) := by
  rw [pllClearPattern]
  split
  case isTrue hne => exact .bind (.readl _ _) fun _ => .writel (Or.inr ⟨rfl, hne⟩)
  case isFalse => exact .pure _

lemma writel_reg_writes (pll : A7sPllConfig) (value : UInt32) :
    Io.Writes (fun x => x.1 ∈ pll.regs) (writel value pll.reg) :=
  .writel (Or.inl rfl)

lemma pllPrepare_writes (d : Device) (pll : A7sPllConfig) (enabled : Bool) (value : UInt32) :
    Io.Writes (fun x => x.1 ∈ pll.regs) (pllPrepare d pll enabled value) :=
  .ite (.bind (writel_reg_writes _ _) fun _ => .bind (.readl _ _) fun _ => writel_reg_writes _ _)
    (.bind (writel_reg_writes _ _) fun _ => writel_reg_writes _ _)

lemma pllConfigure_writes (d : Device) (pll : A7sPllConfig) :
    Io.Writes (fun x => x.1 ∈ pll.regs) (pllConfigure d pll) :=
  .bind (.readl _ _) fun _ => .bind (writel_reg_writes _ _) fun _ => .bind (.readl _ _) fun _ =>
    .bind (writel_reg_writes _ _) fun _ => writel_reg_writes _ _

lemma pllFinish_writes (d : Device) (pll : A7sPllConfig) (enabled : Bool) :
    Io.Writes (fun x => x.1 ∈ pll.regs) (pllFinish d pll enabled) := by
  have hset : ∀ (f : UInt32 → UInt32) (r : ℤ), Io.Writes (fun x => x.1 ∈ pll.regs) (do
      let value ← readl d pll.reg
      writel (f value) pll.reg
      pure r) :=
    fun _ _ => .bind (.readl _ _) fun _ => .bind (writel_reg_writes _ _) fun _ => .pure _
  exact .bind (waitStableLoop_writes _ _ _ _ _) fun _ => .ite (.ite (hset _ _) (.pure _))
    (hset _ _)

lemma pllReprogram_writes (d : Device) (pll : A7sPllConfig) (enabled : Bool) :
    Io.Writes (fun x => x.1 ∈ pll.regs) (pllReprogram d pll enabled) :=
  .bind (pllClearPattern_writes _ _) fun _ => .bind (.readl _ _) fun _ =>
    .bind (pllPrepare_writes _ _ _ _) fun _ => .bind (pllConfigure_writes _ _) fun _ =>
      pllFinish_writes _ _ _

lemma a7sPllProgram_writes (d : Device) (pll : A7sPllConfig) :
    Io.Writes (fun x => x.1 ∈ pll.regs) (a7sPllProgram d pll) :=
  .bind (.readl _ _) fun _ => .bind (a7sPllIsRunning_writes _ _ _ _) fun _ =>
    .ite (.pure _) (pllReprogram_writes _ _ _)

lemma a7sPllProgram_within (d : Device) (pll : A7sPllConfig) :
    Io.Within pll.regs (a7sPllProgram d pll) :=
  (a7sPllProgram_writes d pll).within

end Pll

end A733Boot.Boot
