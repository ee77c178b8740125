/-
The decoder of `src/clock_diag_a733.c` is exact: each rate that `a7s_clock_read_rates` reports
is the rate of a way through the clock tree, over the naturals.

* `ClockWords`, `a7sClockWords`: the words of the registers, in the order of the reads;
* `ClockWords.path`: the way of each clock by these words, with the tables of its selectors;
* `pll_decodes`, `a7sMainPllOutput_decodes`, …: the decoder follows the path, one lemma for
  each of its functions; the products of the two PLLs in a row are the largest;
* `a7sClockReadRates_exact` (**exactness**): every clock, for every contents of the registers.
-/
import A733Boot.Boot.ClockRates
import A733Boot.Library.ClockPath

namespace A733Boot.Boot

open ClockPath

/-! ### The registers -/

/-- The words that `a7s_clock_read_rates` reads. -/
structure ClockWords where
  ref : UInt32
  ddr : UInt32
  peri0 : UInt32
  peri1 : UInt32
  npu : UInt32
  de : UInt32
  cci : UInt32
  cpuBack : UInt32
  cpuAPll : UInt32
  cpuBPll : UInt32
  dsuPll : UInt32
  cpuAClk : UInt32
  cpuBClk : UInt32
  dsuClk : UInt32
  status : UInt32
  selector : UInt32
  gatingA : UInt32
  gatingB : UInt32
  gatingDsu : UInt32
  ahb : UInt32
  apb0 : UInt32
  apb1 : UInt32
  uart : UInt32
  gic : UInt32
  nsi : UInt32
  mbus : UInt32

/-- The reads of `a7s_clock_read_rates`, in its order. -/
def a7sClockWords (d : Device) : Io ClockWords := do
  let ref ← readl d (a7sCcuReg pllRefCtrlReg)
  let ddr ← readl d (a7sCcuReg pllDdrCtrlReg)
  let peri0 ← readl d (a7sCcuReg pllPeri0CtrlReg)
  let peri1 ← readl d (a7sCcuReg pllPeri1CtrlReg)
  let npu ← readl d (a7sCcuReg pllNpuCtrlReg)
  let de ← readl d (a7sCcuReg pllDeCtrlReg)
  let cci ← readl d (a7sCcuReg pllCciCtrlReg)
  let cpuBack ← readl d a7sCpuBackPllCtrl
  let cpuAPll ← readl d a7sCpuAPllCtrl
  let cpuBPll ← readl d a7sCpuBPllCtrl
  let dsuPll ← readl d a7sDsuPllCtrl
  let cpuAClk ← readl d a7sCpuAClk
  let cpuBClk ← readl d a7sCpuBClk
  let dsuClk ← readl d a7sDsuClk
  let status ← readl d a7sRtcXoCtrl0
  let selector ← readl d a7sCpuSlowClkSel
  let gatingA ← readl d a7sCpuAGating
  let gatingB ← readl d a7sCpuBGating
  let gatingDsu ← readl d a7sDsuGating
  let ahb ← readl d (a7sCcuReg ahbClkReg)
  let apb0 ← readl d (a7sCcuReg apb0ClkReg)
  let apb1 ← readl d (a7sCcuReg apb1ClkReg)
  let uart ← readl d (a7sCcuReg apbUartClkReg)
  let gic ← readl d (a7sCcuReg gicClkReg)
  let nsi ← readl d (a7sCcuReg nsiClkReg)
  let mbus ← readl d (a7sCcuReg mbusClkReg)
  pure ⟨ref, ddr, peri0, peri1, npu, de, cci, cpuBack, cpuAPll, cpuBPll, dsuPll, cpuAClk, cpuBClk,
    dsuClk, status, selector, gatingA, gatingB, gatingDsu, ahb, apb0, apb1, uart, gic, nsi, mbus⟩

/-- The clocks that are reported. -/
inductive A7sClock
  | dcxo | ref | cpuBackPll | cpuAPll | cpuBPll | dsuPll | cpuA | cpuB | dsu
  | dsuAxi | dsuApb | dsuGic | ddr | peri02x | peri0800 | peri0480
  | peri12x | peri1800 | peri1480 | npu | de3x | cci
  | ahb | apb0 | apb1 | uart | gic | nsi | mbus

def A7sClockRates.rate (rates : A7sClockRates) : A7sClock → UInt32
  | .dcxo => rates.dcxo
  | .ref => rates.ref
  | .cpuBackPll => rates.cpuBackPll
  | .cpuAPll => rates.cpuAPll
  | .cpuBPll => rates.cpuBPll
  | .dsuPll => rates.dsuPll
  | .cpuA => rates.cpuA
  | .cpuB => rates.cpuB
  | .dsu => rates.dsu
  | .dsuAxi => rates.dsuAxi
  | .dsuApb => rates.dsuApb
  | .dsuGic => rates.dsuGic
  | .ddr => rates.ddr
  | .peri02x => rates.peri02x
  | .peri0800 => rates.peri0800
  | .peri0480 => rates.peri0480
  | .peri12x => rates.peri12x
  | .peri1800 => rates.peri1800
  | .peri1480 => rates.peri1480
  | .npu => rates.npu
  | .de3x => rates.de3x
  | .cci => rates.cci
  | .ahb => rates.ahb
  | .apb0 => rates.apb0
  | .apb1 => rates.apb1
  | .uart => rates.uart
  | .gic => rates.gic
  | .nsi => rates.nsi
  | .mbus => rates.mbus

/-! ### The tree over the naturals -/

def dcxoPath (w : UInt32) : ClockPath :=
  choose [.fixed 24000, .fixed 19200, .fixed 26000, .fixed 24000] (bits w 14 2)

/-- A PLL runs when it is enabled and its output is not gated. -/
def pllPath (w : UInt32) (parent : ClockPath) (gate factor divisor : ℕ) : ClockPath :=
  .stage parent (bit w 31 && bit w gate) factor divisor

def refPath (w : UInt32) (dcxo : ClockPath) : ClockPath :=
  pllPath w dcxo 27 (bits w 8 8 + 1) ((bits w 1 1 + 1) * (bits w 16 7 + 1))

/-- An output of a main PLL, with the post divider at a shift. -/
def mainPath (w : UInt32) (parent : ClockPath) (shift gate : ℕ) : ClockPath :=
  pllPath w parent gate (bits w 8 8 + 1) ((bits w 1 1 + 1) * (bits w shift 3 + 1))

/-- The linear CPU PLL stores its factor directly. -/
def linearPath (w : UInt32) (dcxo : ClockPath) : ClockPath :=
  pllPath w dcxo 27 (bits w 8 8)
    ((bits w 16 4 + 1) * (bits w 20 2 + 1) * (bits w 0 4 + 1))

def inputPath (w : UInt32) (dcxo ref : ClockPath) : ClockPath := if bit w 24 then ref else dcxo

def slowPath (w : UInt32) (dcxo : ClockPath) : ClockPath :=
  choose [dcxo, .fixed 32, .fixed 16000] (bits w 0 2)

def clusterPath (w : UInt32) (slow pll peri02x back : ClockPath) : ClockPath :=
  choose [slow, slow, slow, pll.divided (2 ^ bits w 16 2), peri02x.divided 2, back] (bits w 24 3)

def dsuPath (w : UInt32) (slow pll cpuA peri02x : ClockPath) : ClockPath :=
  choose [slow, slow, slow, pll.divided (2 ^ bits w 16 2), cpuA, peri02x.divided 2] (bits w 24 3)

/-- Behind a gate of its own. -/
def gatedPath (on : Bool) (c : ClockPath) : ClockPath := .stage c on 1 1

/-- A bus divides its parent by the low bits of its register. -/
def busPath (w : UInt32) (parent : ClockPath) : ClockPath := parent.divided (bits w 0 5 + 1)

def standardBusPath (w : UInt32) (dcxo peri02x : ClockPath) : ClockPath :=
  busPath w (choose [dcxo, .fixed 32, .fixed 16000, peri02x.divided 2] (bits w 24 2))

def uartPath (w : UInt32) (dcxo peri02x peri0480 : ClockPath) : ClockPath :=
  busPath w (choose [dcxo, .fixed 32, .fixed 16000, peri02x.divided 2, peri0480] (bits w 24 3))

def gicPath (w : UInt32) (dcxo peri02x peri0480 : ClockPath) : ClockPath :=
  gatedPath (bit w 31)
    (busPath w (choose [dcxo, .fixed 32, peri02x.divided 2, peri0480] (bits w 24 2)))

def nsiPath (w : UInt32) (ddr peri0800 peri02x cci de3x npu : ClockPath) : ClockPath :=
  gatedPath (bit w 31)
    (busPath w (choose [ddr, peri0800, peri02x.divided 2, cci, de3x, npu] (bits w 24 3)))

def mbusPath (w : UInt32) (peri02x ddr peri0480 cci npu : ClockPath) : ClockPath :=
  gatedPath (bit w 31)
    (busPath w (choose [peri02x.divided 2, ddr, peri0480, peri02x.divided 3, cci, npu]
      (bits w 24 3)))

namespace ClockWords

variable (W : ClockWords)

def dcxo : ClockPath := dcxoPath W.status
def refOut : ClockPath := refPath W.ref W.dcxo
/-- A main PLL, on the crystal or on the REF PLL. -/
def main (w : UInt32) (shift gate : ℕ) : ClockPath :=
  mainPath w (inputPath w W.dcxo W.refOut) shift gate

def peri02x : ClockPath := W.main W.peri0 20 27
def peri0480 : ClockPath := W.main W.peri0 2 25
def cpuBackOut : ClockPath := mainPath W.cpuBack W.dcxo 20 27
def slow : ClockPath := slowPath W.selector W.dcxo
def cpuA : ClockPath :=
  gatedPath (bit W.gatingA 0)
    (clusterPath W.cpuAClk W.slow (linearPath W.cpuAPll W.dcxo) W.peri02x W.cpuBackOut)
def dsu : ClockPath :=
  gatedPath (bit W.gatingDsu 0)
    (dsuPath W.dsuClk W.slow (linearPath W.dsuPll W.dcxo) W.cpuA W.peri02x)

/-- The way of each clock. -/
def path : A7sClock → ClockPath
  | .dcxo => W.dcxo
  | .ref => W.refOut
  | .cpuBackPll => W.cpuBackOut
  | .cpuAPll => linearPath W.cpuAPll W.dcxo
  | .cpuBPll => linearPath W.cpuBPll W.dcxo
  | .dsuPll => linearPath W.dsuPll W.dcxo
  | .cpuA => W.cpuA
  | .cpuB => gatedPath (bit W.gatingB 0)
      (clusterPath W.cpuBClk W.slow (linearPath W.cpuBPll W.dcxo) W.peri02x W.cpuBackOut)
  | .dsu => W.dsu
  | .dsuAxi => W.dsu.divided (bits W.dsuClk 0 2 + 1)
  | .dsuApb => W.dsu.divided (bits W.dsuClk 8 2 + 1)
  | .dsuGic => W.dsu.divided (bits W.dsuClk 2 2 + 1)
  | .ddr => W.main W.ddr 20 27
  | .peri02x => W.peri02x
  | .peri0800 => W.main W.peri0 16 26
  | .peri0480 => W.peri0480
  | .peri12x => W.main W.peri1 20 27
  | .peri1800 => W.main W.peri1 16 26
  | .peri1480 => W.main W.peri1 2 25
  | .npu => W.main W.npu 20 27
  | .de3x => W.main W.de 16 26
  | .cci => W.main W.cci 20 27
  | .ahb => standardBusPath W.ahb W.dcxo W.peri02x
  | .apb0 => standardBusPath W.apb0 W.dcxo W.peri02x
  | .apb1 => standardBusPath W.apb1 W.dcxo W.peri02x
  | .uart => uartPath W.uart W.dcxo W.peri02x W.peri0480
  | .gic => gicPath W.gic W.dcxo W.peri02x W.peri0480
  | .nsi => nsiPath W.nsi (W.main W.ddr 20 27) (W.main W.peri0 16 26) W.peri02x
      (W.main W.cci 20 27) (W.main W.de 16 26) (W.main W.npu 20 27)
  | .mbus => mbusPath W.mbus W.peri02x (W.main W.ddr 20 27) W.peri0480 (W.main W.cci 20 27)
      (W.main W.npu 20 27)

end ClockWords

/-! ### The decoder follows the tree -/

lemma a7sDivRate_eq (parent divisor : UInt32) : a7sDivRate parent divisor = parent / divisor := by
  rw [a7sDivRate]
  by_cases hp : parent = 0
  · rw [if_neg fun h => h.1 hp, hp, UInt32.zero_div]
  · by_cases hd : divisor = 0
    · rw [if_neg fun h => h.2 hd, hd, UInt32.div_zero]
    · rw [if_pos ⟨hp, hd⟩]

section Decoder

variable {v dcxo ref peri02x peri0480 slow pll : UInt32}
  {parent cDcxo cRef cPeri02x cPeri0480 cSlow cPll : ClockPath}

lemma a7sDivRate_decodes (h : Decodes v parent) {k : UInt32} {divisor : ℕ} (hk : k.toNat = divisor)
    (hpos : 0 < divisor) : Decodes (a7sDivRate v k) (parent.divided divisor) := by
  subst hk
  have hprod : parent.rate * (1 : UInt32).toNat < 2 ^ 32 :=
    lt_of_eq_of_lt (Nat.mul_one _) h.exact.rate_lt
  have hstage := h.stage true hprod hpos
  rw [if_pos rfl, UInt32.mul_one] at hstage
  rw [a7sDivRate_eq]
  exact hstage

/-- A clock that its own gate may stop. -/
lemma gated_decodes (h : Decodes v parent) (on : Bool) :
    Decodes (if on = false then 0 else v) (gatedPath on parent) := by
  have hprod : parent.rate * (1 : UInt32).toNat < 2 ^ 32 :=
    lt_of_eq_of_lt (Nat.mul_one _) h.exact.rate_lt
  have hstage := h.stage (k := 1) on hprod Nat.one_pos
  cases on with
  | false => exact hstage
  | true =>
      rw [if_pos rfl, UInt32.mul_one, UInt32.div_one] at hstage
      exact hstage

/-- The bits that a PLL needs. -/
lemma pll_on_iff (w : UInt32) {gate : ℕ} (hgate : gate < 32) :
    w &&& (a7sPllEnable ||| a7sBit (UInt32.ofNat gate)) =
      a7sPllEnable ||| a7sBit (UInt32.ofNat gate) ↔ (bit w 31 && bit w gate) = true := by
  have hmask : ∀ i < 32, bit (a7sPllEnable ||| a7sBit (UInt32.ofNat gate)) i =
      (decide (i = 31) || decide (i = gate)) := by
    intro i hi
    rw [bit_or, a7sPllEnable, a7sBit, a7sBit, bit_shiftLeft_one hgate hi]
    exact congrArg (· || _) (bit_shiftLeft_one (by decide : 31 < 32) hi)
  constructor
  · intro h
    have hbit : ∀ i < 32, (i = 31 ∨ i = gate) → bit w i = true := by
      intro i hi hor
      have heq := congrArg (bit · i) h
      simp only [bit_and, hmask i hi] at heq
      rw [show (decide (i = 31) || decide (i = gate)) = true by simpa using hor,
        Bool.and_true] at heq
      exact heq
    rw [hbit 31 (by decide) (.inl rfl), hbit gate hgate (.inr rfl), Bool.and_true]
  · intro h
    obtain ⟨henable, hopen⟩ := (Bool.and_eq_true _ _).mp h
    refine eq_of_bit fun i hi => ?_
    rw [bit_and, hmask i hi]
    by_cases h31 : i = 31
    · rw [h31, henable, Bool.true_and]
    · by_cases heq : i = gate
      · rw [heq, hopen, Bool.true_and]
      · rw [decide_eq_false h31, decide_eq_false heq, Bool.or_false, Bool.and_false]

/-- A PLL, whatever its factors, as long as the product with its parent fits. -/
lemma pll_decodes (w : UInt32) {gate : ℕ} (hgate : gate < 32) (h : Decodes v parent)
    {n k : UInt32} {factor divisor : ℕ} (hn : n.toNat = factor) (hk : k.toNat = divisor)
    (hprod : parent.rate * factor < 2 ^ 32) (hpos : 0 < divisor) :
    Decodes (if w &&& (a7sPllEnable ||| a7sBit (UInt32.ofNat gate)) ≠
        a7sPllEnable ||| a7sBit (UInt32.ofNat gate) then 0 else a7sDivRate (v * n) k)
      (pllPath w parent gate factor divisor) := by
  subst hn hk
  have hstage := h.stage (bit w 31 && bit w gate) hprod hpos
  by_cases hon : (bit w 31 && bit w gate) = true
  · rw [if_neg (not_not.mpr ((pll_on_iff w hgate).mpr hon)), a7sDivRate_eq]
    rw [if_pos hon] at hstage
    exact hstage
  · rw [if_pos (mt (pll_on_iff w hgate).mp hon)]
    rw [if_neg hon] at hstage
    exact hstage

/-- A small number and one. -/
lemma toNat_add_one {x : UInt32} {n width : ℕ} (hx : x.toNat = n) (hlt : n < 2 ^ width)
    (hwidth : width ≤ 8) : (x + 1).toNat = n + 1 := by
  have hpow : 2 ^ width ≤ 2 ^ 8 := Nat.pow_le_pow_right (by decide) hwidth
  rw [UInt32.toNat_add, hx]
  exact Nat.mod_eq_of_lt (by change _ + 1 < _; omega)

/-- A field that is stored less one. -/
lemma field_succ {m j : UInt32} {shift width : ℕ} (hj : j.toNat % 32 = shift)
    (hm : m.toNat = 2 ^ width - 1) (hwidth : width ≤ 8) (w : UInt32) :
    ((w >>> j &&& m) + 1).toNat = bits w shift width + 1 :=
  toNat_add_one (shiftRight_and_bits hj hm w) (bits_lt w shift width) hwidth

lemma low_succ {m : UInt32} {width : ℕ} (hm : m.toNat = 2 ^ width - 1) (hwidth : width ≤ 8)
    (w : UInt32) : ((w &&& m) + 1).toNat = bits w 0 width + 1 :=
  toNat_add_one (and_bits hm w) (bits_lt w 0 width) hwidth

/-- The product of two small divisors. -/
lemma toNat_mul_of_le {a b : UInt32} {x y : ℕ} (ha : a.toNat = x) (hb : b.toNat = y)
    (hx : x ≤ 2 ^ 8) (hy : y ≤ 2 ^ 8) : (a * b).toNat = x * y := by
  have hle := Nat.mul_le_mul hx hy
  rw [UInt32.toNat_mul, ha, hb]
  exact Nat.mod_eq_of_lt (by omega)

lemma a7sDcxoRate_decodes (w : UInt32) : Decodes (a7sDcxoRate w) (dcxoPath w) := by
  have hn : (w >>> 14 &&& 3).toNat = bits w 14 2 := shiftRight_and_bits rfl rfl w
  have hlt := bits_lt w 14 2
  have heq : a7sDcxoRate w = if w >>> 14 &&& 3 = UInt32.ofNat 0 then 24000 else
      if w >>> 14 &&& 3 = UInt32.ofNat 1 then 19200 else
      if w >>> 14 &&& 3 = UInt32.ofNat 2 then 26000 else 24000 := by
    rw [a7sDcxoRate]
    by_cases h0 : w >>> 14 &&& 3 = UInt32.ofNat 0
    · rw [if_pos h0, h0]
      rfl
    · rw [if_neg h0]
      rfl
  rw [heq]
  refine .choose_cons 0 (by decide) (by rw [hn, Nat.zero_add]) (.fixed 24000) fun i hi => ?_
  refine .choose_cons 1 (by decide) hi (.fixed 19200) fun i hi => ?_
  refine .choose_cons 2 (by decide) hi (.fixed 26000) fun i hi => ?_
  exact .choose_last (by omega) hi (.fixed 24000)

lemma dcxoPath_rate_le (w : UInt32) : (dcxoPath w).rate ≤ 26000 := by
  rw [← (a7sDcxoRate_decodes w).rate, a7sDcxoRate]
  split_ifs <;> decide

lemma a7sRefPllRate_decodes (w : UInt32) (h : Decodes v parent) (hle : parent.rate ≤ 26000) :
    Decodes (a7sRefPllRate w v) (refPath w parent) := by
  have hn := bits_lt w 8 8
  have hm := bits_lt w 1 1
  have hp := bits_lt w 16 7
  have hprod : parent.rate * (bits w 8 8 + 1) ≤ 26000 * 2 ^ 8 := Nat.mul_le_mul hle hn
  exact pll_decodes w (by decide) h (field_succ rfl rfl (by decide) w)
    (toNat_mul_of_le (field_succ rfl rfl (by decide) w) (field_succ rfl rfl (by decide) w)
      (by omega) (by omega)) (by omega) (Nat.mul_pos (Nat.succ_pos _) (Nat.succ_pos _))

/-- The largest rate behind the REF PLL. -/
lemma refPath_rate_le (w : UInt32) (hle : parent.rate ≤ 26000) :
    (refPath w parent).rate ≤ 6656000 := by
  have hn := bits_lt w 8 8
  calc (refPath w parent).rate ≤ parent.rate * (bits w 8 8 + 1) := rate_stage_le _ _ _ _
    _ ≤ 26000 * 2 ^ 8 := Nat.mul_le_mul hle hn
    _ = 6656000 := by decide

/-- An output of a main PLL: its parent is at most the REF PLL at its largest, so the product
is below `2 ^ 32`. -/
lemma a7sMainPllOutput_decodes (w : UInt32) (shift gate : ℕ) (hshift : shift < 32)
    (hgate : gate < 32) (h : Decodes v parent) (hle : parent.rate ≤ 6656000) :
    Decodes (a7sMainPllOutput w v (UInt32.ofNat shift) 7 (UInt32.ofNat gate))
      (mainPath w parent shift gate) := by
  have hn := bits_lt w 8 8
  have hm := bits_lt w 1 1
  have hp := bits_lt w shift 3
  have hprod : parent.rate * (bits w 8 8 + 1) ≤ 6656000 * 2 ^ 8 := Nat.mul_le_mul hle hn
  have hj : (UInt32.ofNat shift).toNat % 32 = shift := by
    rw [toNat_ofNat hshift, Nat.mod_eq_of_lt hshift]
  exact pll_decodes w hgate h (field_succ rfl rfl (by decide) w)
    (toNat_mul_of_le (field_succ rfl rfl (by decide) w) (field_succ hj rfl (by decide) w)
      (by omega) (by omega)) (by omega) (Nat.mul_pos (Nat.succ_pos _) (Nat.succ_pos _))

lemma a7sCpuLinearPllRate_decodes (w : UInt32) (h : Decodes v parent)
    (hle : parent.rate ≤ 26000) : Decodes (a7sCpuLinearPllRate w v) (linearPath w parent) := by
  have hn := bits_lt w 8 8
  have hp := bits_lt w 16 4
  have hm0 := bits_lt w 20 2
  have hm1 := bits_lt w 0 4
  have hprod : parent.rate * bits w 8 8 ≤ 26000 * 2 ^ 8 := Nat.mul_le_mul hle hn.le
  have hpm0 : (bits w 16 4 + 1) * (bits w 20 2 + 1) ≤ 2 ^ 4 * 2 ^ 2 := Nat.mul_le_mul hp hm0
  exact pll_decodes w (by decide) h (shiftRight_and_bits rfl rfl w)
    (toNat_mul_of_le
      (toNat_mul_of_le (field_succ rfl rfl (by decide) w) (field_succ rfl rfl (by decide) w)
        (by omega) (by omega)) (low_succ rfl (by decide) w) (by omega) (by omega)) (by omega)
    (Nat.mul_pos (Nat.mul_pos (Nat.succ_pos _) (Nat.succ_pos _)) (Nat.succ_pos _))

lemma a7sMainPllInput_decodes (w : UInt32) (hdcxo : Decodes dcxo cDcxo) (href : Decodes ref cRef) :
    Decodes (a7sMainPllInput w dcxo ref) (inputPath w cDcxo cRef) := by
  have hbit : w &&& a7sBit 24 = 0 ↔ bit w 24 = false :=
    and_shiftLeft_one_eq_zero w (by decide : 24 < 32)
  rw [a7sMainPllInput, inputPath]
  by_cases h : bit w 24 = true
  · rw [if_pos h, if_pos fun h0 => by rw [hbit.mp h0] at h; exact Bool.noConfusion h]
    exact href
  · rw [if_neg h, if_neg (not_not.mpr (hbit.mpr (Bool.eq_false_of_not_eq_true h)))]
    exact hdcxo

lemma inputPath_rate_le (w : UInt32) (hdcxo : cDcxo.rate ≤ 26000) (href : cRef.rate ≤ 6656000) :
    (inputPath w cDcxo cRef).rate ≤ 6656000 := by
  rw [inputPath]
  split_ifs
  · exact href
  · omega

lemma a7sCpuSlowRate_decodes (w : UInt32) (h : Decodes dcxo cDcxo) :
    Decodes (a7sCpuSlowRate w dcxo) (slowPath w cDcxo) := by
  have hn : (w &&& 3).toNat = bits w 0 2 := and_bits rfl w
  refine .choose_cons 0 (by decide) (by rw [hn, Nat.zero_add]) h fun i hi => ?_
  refine .choose_cons 1 (by decide) hi (.fixed 32) fun i hi => ?_
  exact .choose_cons 2 (by decide) hi (.fixed 16000) fun i hi => .choose_nil i

/-- The divider of a cluster is a power of two. -/
lemma shifted_one_toNat (w : UInt32) :
    ((1 : UInt32) <<< (w >>> 16 &&& 3)).toNat = 2 ^ bits w 16 2 := by
  have hlt := bits_lt w 16 2
  have hn : (w >>> 16 &&& 3).toNat = bits w 16 2 := shiftRight_and_bits rfl rfl w
  have hmod : bits w 16 2 % 32 = bits w 16 2 := Nat.mod_eq_of_lt (by omega)
  rw [UInt32.toNat_shiftLeft, hn, hmod, Nat.shiftLeft_eq]
  have hpow : 2 ^ bits w 16 2 ≤ 2 ^ 3 := Nat.pow_le_pow_right (by decide) (by omega)
  change 1 * _ % _ = _
  rw [Nat.one_mul]
  exact Nat.mod_eq_of_lt (by omega)

lemma a7sCpuClusterRate_decodes (w : UInt32) {back : UInt32} {cBack : ClockPath}
    (hslow : Decodes slow cSlow) (hpll : Decodes pll cPll) (hperi : Decodes peri02x cPeri02x)
    (hback : Decodes back cBack) :
    Decodes (a7sCpuClusterRate w slow pll peri02x back)
      (clusterPath w cSlow cPll cPeri02x cBack) := by
  have hn : (w >>> 24 &&& 7).toNat = bits w 24 3 := shiftRight_and_bits rfl rfl w
  simp only [a7sCpuClusterRate, ite_or]
  refine .choose_cons 0 (by decide) (by rw [hn, Nat.zero_add]) hslow fun i hi => ?_
  refine .choose_cons 1 (by decide) hi hslow fun i hi => ?_
  refine .choose_cons 2 (by decide) hi hslow fun i hi => ?_
  refine .choose_cons 3 (by decide) hi
    (a7sDivRate_decodes hpll (shifted_one_toNat w) (Nat.two_pow_pos _)) fun i hi => ?_
  refine .choose_cons 4 (by decide) hi (a7sDivRate_decodes hperi rfl (by decide)) fun i hi => ?_
  exact .choose_cons 5 (by decide) hi hback fun i hi => .choose_nil i

lemma a7sDsuRate_decodes (w : UInt32) {cpuA : UInt32} {cCpuA : ClockPath}
    (hslow : Decodes slow cSlow) (hpll : Decodes pll cPll) (hcpuA : Decodes cpuA cCpuA)
    (hperi : Decodes peri02x cPeri02x) :
    Decodes (a7sDsuRate w slow pll cpuA peri02x) (dsuPath w cSlow cPll cCpuA cPeri02x) := by
  have hn : (w >>> 24 &&& 7).toNat = bits w 24 3 := shiftRight_and_bits rfl rfl w
  simp only [a7sDsuRate, ite_or]
  refine .choose_cons 0 (by decide) (by rw [hn, Nat.zero_add]) hslow fun i hi => ?_
  refine .choose_cons 1 (by decide) hi hslow fun i hi => ?_
  refine .choose_cons 2 (by decide) hi hslow fun i hi => ?_
  refine .choose_cons 3 (by decide) hi
    (a7sDivRate_decodes hpll (shifted_one_toNat w) (Nat.two_pow_pos _)) fun i hi => ?_
  refine .choose_cons 4 (by decide) hi hcpuA fun i hi => ?_
  exact .choose_cons 5 (by decide) hi (a7sDivRate_decodes hperi rfl (by decide))
    fun i hi => .choose_nil i

lemma busDivide_decodes (w : UInt32) (h : Decodes v parent) :
    Decodes (busDivide w v) (busPath w parent) :=
  a7sDivRate_decodes h (low_succ rfl (by decide) w) (Nat.succ_pos _)

lemma a7sStandardBusRate_decodes (w : UInt32) (hdcxo : Decodes dcxo cDcxo)
    (hperi : Decodes peri02x cPeri02x) :
    Decodes (a7sStandardBusRate w dcxo peri02x) (standardBusPath w cDcxo cPeri02x) := by
  have hn : (w >>> 24 &&& 3).toNat = bits w 24 2 := shiftRight_and_bits rfl rfl w
  have hlt := bits_lt w 24 2
  refine busDivide_decodes w ?_
  refine .choose_cons 0 (by decide) (by rw [hn, Nat.zero_add]) hdcxo fun i hi => ?_
  refine .choose_cons 1 (by decide) hi (.fixed 32) fun i hi => ?_
  refine .choose_cons 2 (by decide) hi (.fixed 16000) fun i hi => ?_
  exact .choose_last (by omega) hi (a7sDivRate_decodes hperi rfl (by decide))

lemma a7sUartRate_decodes (w : UInt32) (hdcxo : Decodes dcxo cDcxo)
    (hperi : Decodes peri02x cPeri02x) (h480 : Decodes peri0480 cPeri0480) :
    Decodes (a7sUartRate w dcxo peri02x peri0480) (uartPath w cDcxo cPeri02x cPeri0480) := by
  have hn : (w >>> 24 &&& 7).toNat = bits w 24 3 := shiftRight_and_bits rfl rfl w
  refine busDivide_decodes w ?_
  refine .choose_cons 0 (by decide) (by rw [hn, Nat.zero_add]) hdcxo fun i hi => ?_
  refine .choose_cons 1 (by decide) hi (.fixed 32) fun i hi => ?_
  refine .choose_cons 2 (by decide) hi (.fixed 16000) fun i hi => ?_
  refine .choose_cons 3 (by decide) hi (a7sDivRate_decodes hperi rfl (by decide)) fun i hi => ?_
  exact .choose_cons 4 (by decide) hi h480 fun i hi => .choose_nil i

/-- The gate in a bit of a register. -/
lemma gatedBit_decodes (w : UInt32) {m : UInt32} {i : ℕ} (hbit : w &&& m = 0 ↔ bit w i = false)
    (h : Decodes v parent) :
    Decodes (if w &&& m = 0 then 0 else v) (gatedPath (bit w i) parent) := by
  rw [if_congr hbit rfl rfl]
  exact gated_decodes h (bit w i)

/-- The gate in bit 31 of a bus. -/
lemma gatedBus_decodes (w : UInt32) (h : Decodes v parent) :
    Decodes (if w &&& a7sBit 31 = 0 then 0 else v) (gatedPath (bit w 31) parent) :=
  gatedBit_decodes w (and_shiftLeft_one_eq_zero w (by decide : 31 < 32)) h

/-- The gate in bit 0 of a cluster. -/
lemma gatedCluster_decodes (w : UInt32) (h : Decodes v parent) :
    Decodes (if w &&& 1 = 0 then 0 else v) (gatedPath (bit w 0) parent) :=
  gatedBit_decodes w (and_shiftLeft_one_eq_zero w (by decide : 0 < 32)) h

lemma a7sGicRate_decodes (w : UInt32) (hdcxo : Decodes dcxo cDcxo)
    (hperi : Decodes peri02x cPeri02x) (h480 : Decodes peri0480 cPeri0480) :
    Decodes (a7sGicRate w dcxo peri02x peri0480) (gicPath w cDcxo cPeri02x cPeri0480) := by
  have hn : (w >>> 24 &&& 3).toNat = bits w 24 2 := shiftRight_and_bits rfl rfl w
  have hlt := bits_lt w 24 2
  refine gatedBus_decodes w (busDivide_decodes w ?_)
  refine .choose_cons 0 (by decide) (by rw [hn, Nat.zero_add]) hdcxo fun i hi => ?_
  refine .choose_cons 1 (by decide) hi (.fixed 32) fun i hi => ?_
  refine .choose_cons 2 (by decide) hi (a7sDivRate_decodes hperi rfl (by decide)) fun i hi => ?_
  exact .choose_last (by omega) hi h480

section Fabric

variable {ddr peri0800 cci de3x npu : UInt32} {cDdr cPeri0800 cCci cDe3x cNpu : ClockPath}

lemma a7sNsiRate_decodes (w : UInt32) (hddr : Decodes ddr cDdr) (h800 : Decodes peri0800 cPeri0800)
    (hperi : Decodes peri02x cPeri02x) (hcci : Decodes cci cCci) (hde : Decodes de3x cDe3x)
    (hnpu : Decodes npu cNpu) :
    Decodes (a7sNsiRate w ddr peri0800 peri02x cci de3x npu)
      (nsiPath w cDdr cPeri0800 cPeri02x cCci cDe3x cNpu) := by
  have hn : (w >>> 24 &&& 7).toNat = bits w 24 3 := shiftRight_and_bits rfl rfl w
  refine gatedBus_decodes w (busDivide_decodes w ?_)
  refine .choose_cons 0 (by decide) (by rw [hn, Nat.zero_add]) hddr fun i hi => ?_
  refine .choose_cons 1 (by decide) hi h800 fun i hi => ?_
  refine .choose_cons 2 (by decide) hi (a7sDivRate_decodes hperi rfl (by decide)) fun i hi => ?_
  refine .choose_cons 3 (by decide) hi hcci fun i hi => ?_
  refine .choose_cons 4 (by decide) hi hde fun i hi => ?_
  exact .choose_cons 5 (by decide) hi hnpu fun i hi => .choose_nil i

lemma a7sMbusRate_decodes (w : UInt32) (hperi : Decodes peri02x cPeri02x) (hddr : Decodes ddr cDdr)
    (h480 : Decodes peri0480 cPeri0480) (hcci : Decodes cci cCci) (hnpu : Decodes npu cNpu) :
    Decodes (a7sMbusRate w peri02x ddr peri0480 cci npu)
      (mbusPath w cPeri02x cDdr cPeri0480 cCci cNpu) := by
  have hn : (w >>> 24 &&& 7).toNat = bits w 24 3 := shiftRight_and_bits rfl rfl w
  refine gatedBus_decodes w (busDivide_decodes w ?_)
  refine .choose_cons 0 (by decide) (by rw [hn, Nat.zero_add])
    (a7sDivRate_decodes hperi rfl (by decide)) fun i hi => ?_
  refine .choose_cons 1 (by decide) hi hddr fun i hi => ?_
  refine .choose_cons 2 (by decide) hi h480 fun i hi => ?_
  refine .choose_cons 3 (by decide) hi (a7sDivRate_decodes hperi rfl (by decide)) fun i hi => ?_
  refine .choose_cons 4 (by decide) hi hcci fun i hi => ?_
  exact .choose_cons 5 (by decide) hi hnpu fun i hi => .choose_nil i

end Fabric

end Decoder

/-! ### All clocks -/

section Words

variable (d : Device) (s : Regs)

lemma main_decodes (W : ClockWords) (w : UInt32) (shift gate : ℕ) (hshift : shift < 32)
    (hgate : gate < 32) :
    Decodes (a7sMainPllOutput w
        (a7sMainPllInput w (a7sDcxoRate W.status) (a7sRefPllRate W.ref (a7sDcxoRate W.status)))
        (UInt32.ofNat shift) 7 (UInt32.ofNat gate))
      (W.main w shift gate) := by
  have hdcxo := a7sDcxoRate_decodes W.status
  have hle := dcxoPath_rate_le W.status
  refine a7sMainPllOutput_decodes w shift gate hshift hgate
    (a7sMainPllInput_decodes w hdcxo (a7sRefPllRate_decodes W.ref hdcxo hle)) ?_
  exact inputPath_rate_le w hle (refPath_rate_le W.ref hle)

/-- Every clock that is reported is the one of its path. -/
lemma a7sClockReadRates_decodes (c : A7sClock) :
    Decodes ((a7sClockReadRates d s).1.rate c) ((a7sClockWords d s).1.path c) := by
  have hdcxo := a7sDcxoRate_decodes (a7sClockWords d s).1.status
  have hle := dcxoPath_rate_le (a7sClockWords d s).1.status
  have hmain := main_decodes (a7sClockWords d s).1
  have hperi := hmain (a7sClockWords d s).1.peri0 20 27 (by decide) (by decide)
  have h800 := hmain (a7sClockWords d s).1.peri0 16 26 (by decide) (by decide)
  have h480 := hmain (a7sClockWords d s).1.peri0 2 25 (by decide) (by decide)
  have hddr := hmain (a7sClockWords d s).1.ddr 20 27 (by decide) (by decide)
  have hnpu := hmain (a7sClockWords d s).1.npu 20 27 (by decide) (by decide)
  have hde := hmain (a7sClockWords d s).1.de 16 26 (by decide) (by decide)
  have hcci := hmain (a7sClockWords d s).1.cci 20 27 (by decide) (by decide)
  have hback := a7sMainPllOutput_decodes (a7sClockWords d s).1.cpuBack 20 27 (by decide)
    (by decide) hdcxo (by omega)
  have hslow := a7sCpuSlowRate_decodes (a7sClockWords d s).1.selector hdcxo
  have hlinear := fun w => a7sCpuLinearPllRate_decodes w hdcxo hle
  have hcpuA := gatedCluster_decodes (a7sClockWords d s).1.gatingA
    (a7sCpuClusterRate_decodes (a7sClockWords d s).1.cpuAClk hslow
      (hlinear (a7sClockWords d s).1.cpuAPll) hperi hback)
  have hdsu := gatedCluster_decodes (a7sClockWords d s).1.gatingDsu
    (a7sDsuRate_decodes (a7sClockWords d s).1.dsuClk hslow
      (hlinear (a7sClockWords d s).1.dsuPll) hcpuA hperi)
  cases c with
  | dcxo => exact hdcxo
  | ref => exact a7sRefPllRate_decodes _ hdcxo hle
  | cpuBackPll => exact hback
  | cpuAPll => exact hlinear _
  | cpuBPll => exact hlinear _
  | dsuPll => exact hlinear _
  | cpuA => exact hcpuA
  | cpuB =>
      exact gatedCluster_decodes _ (a7sCpuClusterRate_decodes _ hslow (hlinear _) hperi hback)
  | dsu => exact hdsu
  | dsuAxi => exact a7sDivRate_decodes hdsu (low_succ rfl (by decide) _) (Nat.succ_pos _)
  | dsuApb => exact a7sDivRate_decodes hdsu (field_succ rfl rfl (by decide) _) (Nat.succ_pos _)
  | dsuGic => exact a7sDivRate_decodes hdsu (field_succ rfl rfl (by decide) _) (Nat.succ_pos _)
  | ddr => exact hddr
  | peri02x => exact hperi
  | peri0800 => exact h800
  | peri0480 => exact h480
  | peri12x => exact hmain _ 20 27 (by decide) (by decide)
  | peri1800 => exact hmain _ 16 26 (by decide) (by decide)
  | peri1480 => exact hmain _ 2 25 (by decide) (by decide)
  | npu => exact hnpu
  | de3x => exact hde
  | cci => exact hcci
  | ahb => exact a7sStandardBusRate_decodes _ hdcxo hperi
  | apb0 => exact a7sStandardBusRate_decodes _ hdcxo hperi
  | apb1 => exact a7sStandardBusRate_decodes _ hdcxo hperi
  | uart => exact a7sUartRate_decodes _ hdcxo hperi h480
  | gic => exact a7sGicRate_decodes _ hdcxo hperi h480
  | nsi => exact a7sNsiRate_decodes _ hddr h800 hperi hcci hde hnpu
  | mbus => exact a7sMbusRate_decodes _ hperi hddr h480 hcci hnpu

/-- **Exactness of the decoder.** For every device, every contents of its registers and every
clock, the rate that is reported is that of the way of the clock over the naturals: every
product on it is below `2 ^ 32` and every divisor positive, and behind a PLL that is gated or
disabled the rate is zero. -/
theorem a7sClockReadRates_exact (c : A7sClock) :
    ((a7sClockReadRates d s).1.rate c).toNat = ((a7sClockWords d s).1.path c).rate ∧
    ((a7sClockWords d s).1.path c).Exact (2 ^ 32) ∧
    (((a7sClockWords d s).1.path c).Gated → (a7sClockReadRates d s).1.rate c = 0) := by
  have h := a7sClockReadRates_decodes d s c
  refine ⟨h.rate, h.exact, fun hgated => UInt32.toNat_inj.mp ?_⟩
  rw [h.rate, rate_of_gated hgated]
  rfl

end Words

/-- The AHB on the PERI0 PLL, and all else as after a reset. -/
def ahbOnPeri0 : Regs :=
  ⟨fun a => if a = a7sCcuReg ahbClkReg then a7sAhbSourcePeri0600 else 0, 0, []⟩

/-- The PERI0 PLL is off, so the bus stands still. -/
theorem a7sClockReadRates_exact_gated :
    ((a7sClockWords (a7sDevice fun _ _ => true) ahbOnPeri0).1.path .ahb).Gated ∧
    (a7sClockReadRates (a7sDevice fun _ _ => true) ahbOnPeri0).1.rate .ahb = 0 := by
  have hgated : ((a7sClockWords (a7sDevice fun _ _ => true) ahbOnPeri0).1.path .ahb).Gated :=
    .inr (.inr (.inl rfl))
  exact ⟨hgated, (a7sClockReadRates_exact _ _ .ahb).2.2 hgated⟩

end A733Boot.Boot
