/-
The rates that `src/clock_diag_a733.c` reads out of the clock registers, in kHz, and that
they are the rates the tree was programmed for.

* `A7sClockRates`, `a7sClockReadRates`: the decoder, written independently of the driver;
* `a7sMainPllOutput_of_field`, `a7sRefPllRate_of_field`: a rate depends on the fields of its
  register only;
* **`a7sClockInit_rates`**: what is decoded after a run of `a7s_clock_init` that succeeds.
-/
import A733Boot.Boot.ClockTree

namespace A733Boot.Boot

/-! ### The decoder -/

def sunxiCpuPllCfgBase : ℕ := 0x08870000

def pllDdrCtrlReg : ℕ := 0x20
def pllNpuCtrlReg : ℕ := 0x2a0
def pllDeCtrlReg : ℕ := 0x2e0
def pllCciCtrlReg : ℕ := 0x320
def gicClkReg : ℕ := 0x560
def nsiClkReg : ℕ := 0x580
def mbusClkReg : ℕ := 0x588

def a7sCpuBackPllCtrl : ℕ := sunxiCpuPllCfgBase
def a7sCpuAPllCtrl : ℕ := sunxiCpuPllCfgBase + 0x1000
def a7sCpuAClk : ℕ := sunxiCpuPllCfgBase + 0x101c
def a7sCpuAGating : ℕ := sunxiCpuPllCfgBase + 0x1020
def a7sCpuBPllCtrl : ℕ := sunxiCpuPllCfgBase + 0x2000
def a7sCpuBClk : ℕ := sunxiCpuPllCfgBase + 0x201c
def a7sCpuBGating : ℕ := sunxiCpuPllCfgBase + 0x2020
def a7sDsuPllCtrl : ℕ := sunxiCpuPllCfgBase + 0x3000
def a7sDsuClk : ℕ := sunxiCpuPllCfgBase + 0x301c
def a7sDsuGating : ℕ := sunxiCpuPllCfgBase + 0x3020
def a7sCpuSlowClkSel : ℕ := sunxiCpuPllCfgBase + 0x3034

/-- `struct a7s_clock_rates`. -/
structure A7sClockRates where
  dcxo : UInt32
  ref : UInt32
  cpuBackPll : UInt32
  cpuAPll : UInt32
  cpuBPll : UInt32
  dsuPll : UInt32
  cpuA : UInt32
  cpuB : UInt32
  dsu : UInt32
  dsuAxi : UInt32
  dsuApb : UInt32
  dsuGic : UInt32
  ddr : UInt32
  peri02x : UInt32
  peri0800 : UInt32
  peri0480 : UInt32
  peri12x : UInt32
  peri1800 : UInt32
  peri1480 : UInt32
  npu : UInt32
  de3x : UInt32
  cci : UInt32
  ahb : UInt32
  apb0 : UInt32
  apb1 : UInt32
  uart : UInt32
  gic : UInt32
  nsi : UInt32
  mbus : UInt32

/-- The rate of the crystal for the word of its status register. -/
def a7sDcxoRate (w : UInt32) : UInt32 :=
  if w >>> 14 &&& 3 = 1 then 19200 else if w >>> 14 &&& 3 = 2 then 26000 else 24000

def a7sDivRate (parent divisor : UInt32) : UInt32 :=
  if parent ≠ 0 ∧ divisor ≠ 0 then parent / divisor else 0

def a7sMainPllInput (reg dcxo ref : UInt32) : UInt32 := if reg &&& a7sBit 24 ≠ 0 then ref else dcxo

def a7sMainPllOutput (reg parent pShift pMask gateBit : UInt32) : UInt32 :=
  if reg &&& (a7sPllEnable ||| a7sBit gateBit) ≠ a7sPllEnable ||| a7sBit gateBit then 0
  else
    let n : UInt32 := (reg >>> 8 &&& 0xff) + 1
    let m1 : UInt32 := (reg >>> 1 &&& 1) + 1
    let p : UInt32 := (reg >>> pShift &&& pMask) + 1
    a7sDivRate (parent * n) (m1 * p)

def a7sRefPllRate (reg dcxo : UInt32) : UInt32 :=
  if reg &&& (a7sPllEnable ||| a7sBit 27) ≠ a7sPllEnable ||| a7sBit 27 then 0
  else
    let n : UInt32 := (reg >>> 8 &&& 0xff) + 1
    let m1 : UInt32 := (reg >>> 1 &&& 1) + 1
    let p : UInt32 := (reg >>> 16 &&& 0x7f) + 1
    a7sDivRate (dcxo * n) (m1 * p)

def a7sCpuBackPllRate (reg dcxo : UInt32) : UInt32 := a7sMainPllOutput reg dcxo 20 7 27

/-- Unlike the main PLLs, the linear CPU PLL stores its factor directly. -/
def a7sCpuLinearPllRate (reg dcxo : UInt32) : UInt32 :=
  if reg &&& (a7sPllEnable ||| a7sBit 27) ≠ a7sPllEnable ||| a7sBit 27 then 0
  else
    let n : UInt32 := reg >>> 8 &&& 0xff
    let p : UInt32 := (reg >>> 16 &&& 0xf) + 1
    let m0 : UInt32 := (reg >>> 20 &&& 3) + 1
    let m1 : UInt32 := (reg &&& 0xf) + 1
    a7sDivRate (dcxo * n) (p * m0 * m1)

def a7sCpuSlowRate (selector dcxo : UInt32) : UInt32 :=
  if selector &&& 3 = 0 then dcxo
  else if selector &&& 3 = 1 then 32
  else if selector &&& 3 = 2 then 16000
  else 0

def a7sCpuClusterRate (clkReg slow clusterPll peri02x cpuBack : UInt32) : UInt32 :=
  let source := clkReg >>> 24 &&& 7
  if source = 0 ∨ source = 1 ∨ source = 2 then slow
  else if source = 3 then a7sDivRate clusterPll ((1 : UInt32) <<< (clkReg >>> 16 &&& 3))
  else if source = 4 then a7sDivRate peri02x 2
  else if source = 5 then cpuBack
  else 0

def a7sDsuRate (clkReg slow dsuPll cpuA peri02x : UInt32) : UInt32 :=
  let source := clkReg >>> 24 &&& 7
  if source = 0 ∨ source = 1 ∨ source = 2 then slow
  else if source = 3 then a7sDivRate dsuPll ((1 : UInt32) <<< (clkReg >>> 16 &&& 3))
  else if source = 4 then cpuA
  else if source = 5 then a7sDivRate peri02x 2
  else 0

/-- The rate of a bus from its parent, by the divider of its register. -/
def busDivide (reg parent : UInt32) : UInt32 := a7sDivRate parent ((reg &&& 0x1f) + 1)

def a7sStandardBusRate (reg dcxo peri02x : UInt32) : UInt32 :=
  let source := reg >>> 24 &&& 3
  busDivide reg
    (if source = 0 then dcxo else if source = 1 then 32 else if source = 2 then 16000
      else a7sDivRate peri02x 2)

def a7sUartRate (reg dcxo peri02x peri0480 : UInt32) : UInt32 :=
  let source := reg >>> 24 &&& 7
  busDivide reg
    (if source = 0 then dcxo else if source = 1 then 32 else if source = 2 then 16000
      else if source = 3 then a7sDivRate peri02x 2 else if source = 4 then peri0480 else 0)

def a7sGicRate (reg dcxo peri02x peri0480 : UInt32) : UInt32 :=
  let source := reg >>> 24 &&& 3
  if reg &&& a7sBit 31 = 0 then 0
  else busDivide reg
    (if source = 0 then dcxo else if source = 1 then 32
      else if source = 2 then a7sDivRate peri02x 2 else peri0480)

def a7sNsiRate (reg ddr peri0800 peri02x cci de3x npu : UInt32) : UInt32 :=
  let source := reg >>> 24 &&& 7
  if reg &&& a7sBit 31 = 0 then 0
  else busDivide reg
    (if source = 0 then ddr else if source = 1 then peri0800
      else if source = 2 then a7sDivRate peri02x 2 else if source = 3 then cci
      else if source = 4 then de3x else if source = 5 then npu else 0)

def a7sMbusRate (reg peri02x ddr peri0480 cci npu : UInt32) : UInt32 :=
  let source := reg >>> 24 &&& 7
  if reg &&& a7sBit 31 = 0 then 0
  else busDivide reg
    (if source = 0 then a7sDivRate peri02x 2 else if source = 1 then ddr
      else if source = 2 then peri0480 else if source = 3 then a7sDivRate peri02x 3
      else if source = 4 then cci else if source = 5 then npu else 0)

/-- `a7s_clock_read_rates`: all registers are read, and none is written. -/
def a7sClockReadRates (d : Device) : Io A7sClockRates := do
  let refReg ← readl d (a7sCcuReg pllRefCtrlReg)
  let ddrReg ← readl d (a7sCcuReg pllDdrCtrlReg)
  let peri0Reg ← readl d (a7sCcuReg pllPeri0CtrlReg)
  let peri1Reg ← readl d (a7sCcuReg pllPeri1CtrlReg)
  let npuReg ← readl d (a7sCcuReg pllNpuCtrlReg)
  let deReg ← readl d (a7sCcuReg pllDeCtrlReg)
  let cciReg ← readl d (a7sCcuReg pllCciCtrlReg)
  let cpuBackReg ← readl d a7sCpuBackPllCtrl
  let cpuAPllReg ← readl d a7sCpuAPllCtrl
  let cpuBPllReg ← readl d a7sCpuBPllCtrl
  let dsuPllReg ← readl d a7sDsuPllCtrl
  let cpuAClkReg ← readl d a7sCpuAClk
  let cpuBClkReg ← readl d a7sCpuBClk
  let dsuClkReg ← readl d a7sDsuClk
  let status ← readl d a7sRtcXoCtrl0
  let dcxo := a7sDcxoRate status
  let ref := a7sRefPllRate refReg dcxo
  let input := a7sMainPllInput peri0Reg dcxo ref
  let peri02x := a7sMainPllOutput peri0Reg input 20 7 27
  let peri0800 := a7sMainPllOutput peri0Reg input 16 7 26
  let peri0480 := a7sMainPllOutput peri0Reg input 2 7 25
  let input := a7sMainPllInput peri1Reg dcxo ref
  let peri12x := a7sMainPllOutput peri1Reg input 20 7 27
  let peri1800 := a7sMainPllOutput peri1Reg input 16 7 26
  let peri1480 := a7sMainPllOutput peri1Reg input 2 7 25
  let ddr := a7sMainPllOutput ddrReg (a7sMainPllInput ddrReg dcxo ref) 20 7 27
  let npu := a7sMainPllOutput npuReg (a7sMainPllInput npuReg dcxo ref) 20 7 27
  let de3x := a7sMainPllOutput deReg (a7sMainPllInput deReg dcxo ref) 16 7 26
  let cci := a7sMainPllOutput cciReg (a7sMainPllInput cciReg dcxo ref) 20 7 27
  let cpuBackPll := a7sCpuBackPllRate cpuBackReg dcxo
  let cpuAPll := a7sCpuLinearPllRate cpuAPllReg dcxo
  let cpuBPll := a7sCpuLinearPllRate cpuBPllReg dcxo
  let dsuPll := a7sCpuLinearPllRate dsuPllReg dcxo
  let selector ← readl d a7sCpuSlowClkSel
  let slow := a7sCpuSlowRate selector dcxo
  let gatingA ← readl d a7sCpuAGating
  let cpuA := if gatingA &&& 1 = 0 then 0 else a7sCpuClusterRate cpuAClkReg slow cpuAPll
    peri02x cpuBackPll
  let gatingB ← readl d a7sCpuBGating
  let cpuB := if gatingB &&& 1 = 0 then 0 else a7sCpuClusterRate cpuBClkReg slow cpuBPll
    peri02x cpuBackPll
  let gatingDsu ← readl d a7sDsuGating
  let dsu := if gatingDsu &&& 1 = 0 then 0 else a7sDsuRate dsuClkReg slow dsuPll cpuA peri02x
  let ahbReg ← readl d (a7sCcuReg ahbClkReg)
  let apb0Reg ← readl d (a7sCcuReg apb0ClkReg)
  let apb1Reg ← readl d (a7sCcuReg apb1ClkReg)
  let uartReg ← readl d (a7sCcuReg apbUartClkReg)
  let gicReg ← readl d (a7sCcuReg gicClkReg)
  let nsiReg ← readl d (a7sCcuReg nsiClkReg)
  let mbusReg ← readl d (a7sCcuReg mbusClkReg)
  pure {
    dcxo := dcxo, ref := ref, cpuBackPll := cpuBackPll, cpuAPll := cpuAPll, cpuBPll := cpuBPll
    dsuPll := dsuPll, cpuA := cpuA, cpuB := cpuB, dsu := dsu
    dsuAxi := a7sDivRate dsu ((dsuClkReg &&& 3) + 1)
    dsuApb := a7sDivRate dsu ((dsuClkReg >>> 8 &&& 3) + 1)
    dsuGic := a7sDivRate dsu ((dsuClkReg >>> 2 &&& 3) + 1)
    ddr := ddr, peri02x := peri02x, peri0800 := peri0800, peri0480 := peri0480
    peri12x := peri12x, peri1800 := peri1800, peri1480 := peri1480
    npu := npu, de3x := de3x, cci := cci
    ahb := a7sStandardBusRate ahbReg dcxo peri02x
    apb0 := a7sStandardBusRate apb0Reg dcxo peri02x
    apb1 := a7sStandardBusRate apb1Reg dcxo peri02x
    uart := a7sUartRate uartReg dcxo peri02x peri0480
    gic := a7sGicRate gicReg dcxo peri02x peri0480
    nsi := a7sNsiRate nsiReg ddr peri0800 peri02x cci de3x npu
    mbus := a7sMbusRate mbusReg peri02x ddr peri0480 cci npu }

/-! ### Rates by fields -/

section Fields

variable {m v w : UInt32}

/-- The output of a PLL depends on the fields of its register only. -/
lemma a7sMainPllOutput_of_field (h : Field m v w) (parent : UInt32) {shift mask gate : UInt32}
    (hgate : (a7sPllEnable ||| a7sBit gate) &&& m = a7sPllEnable ||| a7sBit gate)
    (hn : m >>> 8 &&& 0xff = 0xff) (hm : m >>> 1 &&& 1 = 1) (hp : m >>> shift &&& mask = mask) :
    a7sMainPllOutput w parent shift mask gate = a7sMainPllOutput v parent shift mask gate := by
  rw [← h, a7sMainPllOutput, a7sMainPllOutput, ← and_of_within hgate, ← shiftRight_and_of_mask hn,
    ← shiftRight_and_of_mask hm, ← shiftRight_and_of_mask hp]

lemma a7sRefPllRate_of_field (h : Field m v w) (dcxo : UInt32)
    (hgate : (a7sPllEnable ||| a7sBit 27) &&& m = a7sPllEnable ||| a7sBit 27)
    (hn : m >>> 8 &&& 0xff = 0xff) (hm : m >>> 1 &&& 1 = 1) (hp : m >>> 16 &&& 0x7f = 0x7f) :
    a7sRefPllRate w dcxo = a7sRefPllRate v dcxo := by
  rw [← h, a7sRefPllRate, a7sRefPllRate, ← and_of_within hgate, ← shiftRight_and_of_mask hn,
    ← shiftRight_and_of_mask hm, ← shiftRight_and_of_mask hp]

/-- The lock bit plays no part. -/
lemma a7sRefPllRate_congr (h : AgreeOff a7sPllLock v w) (dcxo : UInt32) :
    a7sRefPllRate v dcxo = a7sRefPllRate w dcxo := by
  have hw : Field (~~~a7sPllLock) (w &&& ~~~a7sPllLock) w := rfl
  have hv : Field (~~~a7sPllLock) (w &&& ~~~a7sPllLock) v := h
  rw [a7sRefPllRate_of_field hw dcxo (by decide) (by decide) (by decide) (by decide),
    a7sRefPllRate_of_field hv dcxo (by decide) (by decide) (by decide) (by decide)]

lemma a7sMainPllInput_of_field (h : Field m v w) (hm : a7sBit 24 &&& m = a7sBit 24)
    (dcxo ref : UInt32) :
    a7sMainPllInput w dcxo ref = a7sMainPllInput v dcxo ref := by
  rw [← h, a7sMainPllInput, a7sMainPllInput, ← and_of_within hm]

lemma busDivide_of_field (h : Field m v w) (hm : 0x1f &&& m = 0x1f) (parent : UInt32) :
    busDivide w parent = busDivide v parent := by
  rw [← h, busDivide, busDivide, ← and_of_within hm]

lemma a7sStandardBusRate_of_field (h : Field m v w) (hm : 0x1f &&& m = 0x1f)
    (hsource : m >>> 24 &&& 3 = 3) (dcxo peri02x : UInt32) :
    a7sStandardBusRate w dcxo peri02x = a7sStandardBusRate v dcxo peri02x := by
  rw [a7sStandardBusRate, a7sStandardBusRate, busDivide_of_field h hm, ← h,
    ← shiftRight_and_of_mask hsource]

lemma a7sUartRate_of_field (h : Field m v w) (hm : 0x1f &&& m = 0x1f)
    (hsource : m >>> 24 &&& 7 = 7) (dcxo peri02x peri0480 : UInt32) :
    a7sUartRate w dcxo peri02x peri0480 = a7sUartRate v dcxo peri02x peri0480 := by
  rw [a7sUartRate, a7sUartRate, busDivide_of_field h hm, ← h, ← shiftRight_and_of_mask hsource]

end Fields

/-! ### The rates of the tree -/

/-- The rates that the tree is made for. -/
structure Nominal (rates : A7sClockRates) : Prop where
  ref : rates.ref = 24000
  peri0 : rates.peri02x = 1200000 ∧ rates.peri0800 = 800000 ∧ rates.peri0480 = 480000
  peri1 : rates.peri12x = 1200000 ∧ rates.peri1800 = 800000 ∧ rates.peri1480 = 480000
  ahb : rates.ahb = 200000
  apb : rates.apb0 = 100000 ∧ rates.apb1 = 100000
  uart : rates.uart = 24000

/-- All that the driver says about the register of a PERI PLL, as a mask and its value. -/
def periMask : UInt32 := (periPll 0 100).required ||| (periPll 0 100).configMask
def periValue : UInt32 := (periPll 0 100).required ||| (periPll 0 100).configValue

/-- A PERI PLL that is up, as it is read. -/
lemma PllUp.view_peri (lock : ℕ → ℕ → Bool) {offset : ℕ} {s t : Regs}
    (h : PllUp (periPll offset 100) s)
    (hlive : (a7sDevice lock).live (a7sCcuReg offset) = a7sPllLock) (ht : t.word = s.word) :
    Field periMask periValue ((a7sDevice lock).view t (a7sCcuReg offset)) := by
  have hword : Field periMask periValue (t.word (a7sCcuReg offset)) := by
    rw [ht]
    exact h.required.union h.config
  refine (a7sDevice lock).view_field hword ?_
  rw [hlive]
  decide

lemma peri_rates {w : UInt32} (h : Field periMask periValue w) (dcxo : UInt32) :
    a7sMainPllOutput w (a7sMainPllInput w dcxo 24000) 20 7 27 = 1200000 ∧
    a7sMainPllOutput w (a7sMainPllInput w dcxo 24000) 16 7 26 = 800000 ∧
    a7sMainPllOutput w (a7sMainPllInput w dcxo 24000) 2 7 25 = 480000 := by
  have hinput : a7sMainPllInput w dcxo 24000 = 24000 := by
    rw [a7sMainPllInput_of_field h (by decide)]
    exact if_pos (by decide)
  rw [hinput, a7sMainPllOutput_of_field h 24000 (by decide) (by decide) (by decide) (by decide),
    a7sMainPllOutput_of_field h 24000 (by decide) (by decide) (by decide) (by decide),
    a7sMainPllOutput_of_field h 24000 (by decide) (by decide) (by decide) (by decide)]
  exact ⟨by decide, by decide, by decide⟩

/-- The REF PLL is at 24 MHz for each of the crystals. -/
lemma PllUp.ref_rate {s : Regs} {xo : UInt32}
    (h : PllUp (refPll (refFactors (dcxoStatus xo)).1 (refFactors (dcxoStatus xo)).2) s) :
    a7sRefPllRate (s.word (a7sCcuReg pllRefCtrlReg)) (a7sDcxoRate xo) = 24000 := by
  have hrate : ∀ {n div}, PllUp (refPll n div) s → ∀ dcxo,
      a7sRefPllRate (s.word (a7sCcuReg pllRefCtrlReg)) dcxo =
        a7sRefPllRate ((refPll 0 0).required ||| (refPll n div).configValue) dcxo := by
    intro n div hup dcxo
    have hfield := hup.required.union hup.config
    rw [refPll_required n div 0 0] at hfield
    have hmask : (refPll n div).configMask = (refPll 0 0).configMask := rfl
    rw [hmask] at hfield
    exact a7sRefPllRate_of_field hfield dcxo (by decide) (by decide) (by decide) (by decide)
  have hdcxo : a7sDcxoRate xo =
      if dcxoStatus xo = 1 then 19200 else if dcxoStatus xo = 2 then 26000 else 24000 := by
    rw [a7sDcxoRate, dcxoStatus]
  rw [hrate h, hdcxo, refFactors]
  split_ifs <;> decide

/-- A bus that has the PERI0 PLL as its parent does not depend on the crystal. -/
lemma standard_rate {v rate : UInt32} (dcxo : UInt32)
    (h : v >>> 24 &&& 3 = 3 ∧ busDivide v 600000 = rate) :
    a7sStandardBusRate v dcxo 1200000 = rate := by
  rw [a7sStandardBusRate, h.1]
  exact h.2

lemma uart_rate {v rate peri0480 : UInt32} (dcxo peri02x : UInt32)
    (h : v >>> 24 &&& 7 = 4 ∧ busDivide v peri0480 = rate) :
    a7sUartRate v dcxo peri02x peri0480 = rate := by
  rw [a7sUartRate, h.1]
  exact h.2

section Init

variable {lock : ℕ → ℕ → Bool}

/-- The rates that are read on a tree that is up. -/
lemma TreeUp.nominal {s s' : Regs} (h : TreeUp lock s s')
    (href : a7sRefPllRate (s'.word (a7sCcuReg pllRefCtrlReg))
      (a7sDcxoRate (s'.word a7sRtcXoCtrl0)) = 24000) :
    Nominal (a7sClockReadRates (a7sDevice lock) s').1 := by
  have hplain : ∀ {a : ℕ}, (a7sDevice lock).live a = 0 → ∀ t,
    (a7sDevice lock).view t a = t.word a :=
    fun hlive _ => Device.view_plain _ hlive
  have h₀ := h.peri0.view_peri lock (t := (readl (a7sDevice lock) (a7sCcuReg pllDdrCtrlReg)
    (readl (a7sDevice lock) (a7sCcuReg pllRefCtrlReg) s').2).2) rfl rfl
  have h₁ := h.peri1.view_peri lock (t := (readl (a7sDevice lock) (a7sCcuReg pllPeri0CtrlReg)
    (readl (a7sDevice lock) (a7sCcuReg pllDdrCtrlReg)
    (readl (a7sDevice lock) (a7sCcuReg pllRefCtrlReg) s').2).2).2) rfl rfl
  have hview := (a7sDevice lock).view_agreeOff s' (a7sCcuReg pllRefCtrlReg)
  rw [← a7sRefPllRate_congr hview] at href
  simp only [a7sClockReadRates, bind_apply, pure_apply, readl_fst]
  simp only [hplain (a := a7sRtcXoCtrl0) rfl, hplain (a := a7sCcuReg ahbClkReg) rfl,
    hplain (a := a7sCcuReg apb0ClkReg) rfl, hplain (a := a7sCcuReg apb1ClkReg) rfl,
    hplain (a := a7sCcuReg apbUartClkReg) rfl, readl_word, href]
  generalize (a7sDevice lock).view _ (a7sCcuReg pllPeri0CtrlReg) = w₀ at h₀ ⊢
  generalize (a7sDevice lock).view _ (a7sCcuReg pllPeri1CtrlReg) = w₁ at h₁ ⊢
  obtain ⟨h₂ₓ, h₈₀₀, h₄₈₀⟩ := peri_rates h₀ (a7sDcxoRate (s'.word a7sRtcXoCtrl0))
  refine ⟨rfl, ⟨h₂ₓ, h₈₀₀, h₄₈₀⟩, peri_rates h₁ _, ?_, ⟨?_, ?_⟩, ?_⟩
  · simp only [h₂ₓ]
    rw [a7sStandardBusRate_of_field h.ahb (by decide) (by decide)]
    exact standard_rate _ (by decide)
  · simp only [h₂ₓ]
    rw [a7sStandardBusRate_of_field h.apb0 (by decide) (by decide)]
    exact standard_rate _ (by decide)
  · simp only [h₂ₓ]
    rw [a7sStandardBusRate_of_field h.apb1 (by decide) (by decide)]
    exact standard_rate _ (by decide)
  · simp only [h₂ₓ, h₄₈₀]
    rw [a7sUartRate_of_field h.uart (by decide) (by decide)]
    exact uart_rate _ _ (by decide)

/-- **Programming and decoding agree.** For every contents of the registers, every crystal
and every behaviour of the lock bits, with a REF PLL that is not running yet or is at 24 MHz:
after a run that succeeds the rates are the nominal ones, the spread spectrum is off, and
every bit outside the fields of the driver is as it was; and a further run, with the lock
bits set, writes no register but those of the buses. -/
theorem a7sClockInit_rates {s : Regs} (hok : (a7sClockInit (a7sDevice lock) s).1 = a7sClockOk)
    (href : (a7sPllIsRunning (a7sDevice lock) (refPll 100 80) false
        (a7sBusUseSys24 (a7sDevice lock) s).2).1 = false ∨
      a7sRefPllRate (s.word (a7sCcuReg pllRefCtrlReg))
        (a7sDcxoRate (s.word a7sRtcXoCtrl0)) = 24000) :
    Nominal (a7sClockReadRates (a7sDevice lock) (a7sClockInit (a7sDevice lock) s).2).1 ∧
    Field (a7sBit 31) 0 ((a7sClockInit (a7sDevice lock) s).2.word
      (a7sCcuReg (pllPeri0CtrlReg + 8))) ∧
    Field (a7sBit 31) 0 ((a7sClockInit (a7sDevice lock) s).2.word
      (a7sCcuReg (pllPeri1CtrlReg + 8))) ∧
    Kept s (a7sClockInit (a7sDevice lock) s).2 ∧
    ∀ lock' : ℕ → ℕ → Bool, (∀ n a, lock' n a = true) → ∀ a ∉ busRegs,
      (a7sClockInit (a7sDevice lock') (a7sClockInit (a7sDevice lock) s).2).2.word a =
        (a7sClockInit (a7sDevice lock) s).2.word a := by
  have h := a7sClockInit_spec hok
  generalize (a7sClockInit (a7sDevice lock) s).2 = s' at h ⊢
  have hrtc : s'.word a7sRtcXoCtrl0 = s.word a7sRtcXoCtrl0 := by
    have hkept := h.kept a7sRtcXoCtrl0
    rw [AgreeOff, show clockFields a7sRtcXoCtrl0 = 0 from rfl] at hkept
    simpa using hkept
  have hrate : a7sRefPllRate (s'.word (a7sCcuReg pllRefCtrlReg))
      (a7sDcxoRate (s'.word a7sRtcXoCtrl0)) = 24000 := by
    rw [hrtc]
    obtain ⟨hrun, hsame⟩ | ⟨_, hup⟩ := h.ref
    · rw [hsame]
      refine href.resolve_left fun hnot => ?_
      rw [hrun] at hnot
      exact Bool.noConfusion hnot
    · exact hup.ref_rate
  exact ⟨h.nominal hrate, h.peri0.pattern (by decide), h.peri1.pattern (by decide), h.kept,
    fun lock' hlock => a7sClockInit_again hlock h.required h.peri0 h.peri1⟩

end Init

theorem a7sClockInit_rates_reset :
    (a7sClockInit (a7sDevice fun _ _ => true) ⟨fun _ => 0, 0, []⟩).1 = a7sClockOk ∧
    Nominal (a7sClockReadRates (a7sDevice fun _ _ => true)
      (a7sClockInit (a7sDevice fun _ _ => true) ⟨fun _ => 0, 0, []⟩).2).1 := by
  have hok : (a7sClockInit (a7sDevice fun _ _ => true) ⟨fun _ => 0, 0, []⟩).1 = a7sClockOk := by
    decide +kernel
  exact ⟨hok, (a7sClockInit_rates hok (Or.inl (by decide +kernel))).1⟩

end A733Boot.Boot
