/-
The clocks in standby: `all_pll_set`, `bus_clock_set`, `bus_clock_ctl`, `clk_suspend` and
`clk_resume` of `ar100s/service/standby/standby-sun60iw2p1/plat_standby.c`, with what they
call of the RTC and the crystal.

The words of the PLLs and of the four control registers are saved whole; of a bus only the
source and the low eight bits of the factor are. The UART and TWI callbacks around the
switch of the PRCM buses write no register of the clocks and are left out, with the delays.

* `allPllDisable`, `allPllEnable`, `busClockSet`, `busClockCtl`: the three groups, one entry
  at a time;
* `clkSuspend`, `clkResume`: a suspend and a resume of all of them;
* `bus_back`: what comes back of the word of a bus;
* `busSuspend_spec`, `busResume_spec`, `ctlSuspend_spec`, `ctlResume_spec`, `allPllDisable_spec`:
  each group by itself;
* `PllPama.FailsFrom`, `LocksFrom`: a PLL that does not lock within the limit of its poll, and the
  PLLs before it, which do; `LocksFrom.run` and `pllEnableLoop_fail` say what the first loop of
  `all_pll_set` makes of them.
-/
import A733Boot.Library.Registers
import A733Boot.Ar100s.Error

namespace A733Boot.Ar100s.Standby

/-! ### Registers -/

def ccuRegBase : ℕ := 0x02002000
def rPrcmRegBase : ℕ := 0x07010000
def rCpucfgRegBase : ℕ := 0x07050000
def rtcRegBase : ℕ := 0x07090000

def ccuPllRefReg : ℕ := ccuRegBase + 0x00
def ccuPllDdrReg : ℕ := ccuRegBase + 0x20
def ccuPllPeri0Reg : ℕ := ccuRegBase + 0xa0
def ccuPllPeri1Reg : ℕ := ccuRegBase + 0xc0
def ccuPllCpu0Reg : ℕ := ccuRegBase + 0xe0
def ccuPllVideo0Reg : ℕ := ccuRegBase + 0x120
def ccuPllVideo1Reg : ℕ := ccuRegBase + 0x140
def ccuPllVideo2Reg : ℕ := ccuRegBase + 0x160
def ccuPllVe0Reg : ℕ := ccuRegBase + 0x220
def ccuPllVe1Reg : ℕ := ccuRegBase + 0x240
def ccuPllAudio0Reg : ℕ := ccuRegBase + 0x260
def ccuPllAudio1Reg : ℕ := ccuRegBase + 0x280
def ccuPllNpuReg : ℕ := ccuRegBase + 0x2a0
def ccuPllDeReg : ℕ := ccuRegBase + 0x2e0

def ccuAhbCfgReg : ℕ := ccuRegBase + 0x500
def ccuApb0CfgReg : ℕ := ccuRegBase + 0x510
def ccuApb1CfgReg : ℕ := ccuRegBase + 0x518
def ccuApbUartCfgReg : ℕ := ccuRegBase + 0x538
def ahbsCfgReg : ℕ := rPrcmRegBase + 0x000
def apbs0CfgReg : ℕ := rPrcmRegBase + 0x00c
def apbs1CfgReg : ℕ := rPrcmRegBase + 0x010

def ccuTraceCfgReg : ℕ := ccuRegBase + 0x540
def ccuGicCfgReg : ℕ := ccuRegBase + 0x560
def ccuNsiCfgReg : ℕ := ccuRegBase + 0x580
def ccuMbusClkReg : ℕ := ccuRegBase + 0x588

def rv24MClkReg : ℕ := rPrcmRegBase + 0x210
def pllCtrlReg1 : ℕ := rPrcmRegBase + 0x244
def devBusCtlReg : ℕ := rPrcmRegBase + 0x338
def busAutoClkReg : ℕ := rPrcmRegBase + 0x33c
def msraCtlReg : ℕ := rPrcmRegBase + 0x360

def rtcLoscCtrl : ℕ := rtcRegBase + 0x000
def rtcAutoCaliCtrl : ℕ := rtcRegBase + 0x00c
def rtcXoWrtProtect : ℕ := rtcRegBase + 0x15c
def rtcXoCtrlReg : ℕ := rtcRegBase + 0x160
def rtcCfgReg : ℕ := rtcRegBase + 0x310

def rvClk16M : UInt32 := 0x82000000

def pllOutputEnableMask : UInt32 := (1 : UInt32) <<< 27
def pllLockStatusMask : UInt32 := (1 : UInt32) <<< 28
def pllLockEnableMask : UInt32 := (1 : UInt32) <<< 29
def pllLdoEnableMask : UInt32 := (1 : UInt32) <<< 30
def pllEnableMask : UInt32 := (1 : UInt32) <<< 31

def ccuClkSrcSelMask : UInt32 := (7 : UInt32) <<< 24
def ccuFactorMMask : UInt32 := 0x3ff

def standbyHwPollLimit : ℕ := 100000

/-! ### The code -/

/-- `rPLL_PAMA`. -/
structure PllPama where
  addr : ℕ
  value : UInt32
deriving DecidableEq

/-- `rBUS_PAMA`: source and factor are bytes. -/
structure BusPama where
  busAddr : ℕ
  busClkSrc : UInt8
  m : UInt8
  flag : UInt8
deriving DecidableEq

/-- An entry of `bus_ctl_addr` and `bus_ctl_value`. -/
structure BusCtl where
  addr : ℕ
  value : UInt32

/-- The modes that buses are switched to. -/
inductive BusClockMode where
  | rc16m
  | clockBak
deriving DecidableEq

def BusClockMode.code : BusClockMode → UInt32
  | rc16m => 2
  | clockBak => 4

/-- The static variables of the clocks: `pll_restore`, `bus_restore` from `bus_start_tick`
and from `prcm_start_tick` on, and the control registers from `nm_start_tick` and from
`tg_start_tick` on. -/
structure ClkSaves where
  pllRestore : List PllPama
  ccmuBuses : List BusPama
  prcmBuses : List BusPama
  nmCtl : List BusCtl
  tgCtl : List BusCtl

def pllAddrs : List ℕ :=
  [ccuPllRefReg, ccuPllDdrReg, ccuPllPeri0Reg, ccuPllPeri1Reg, ccuPllCpu0Reg, ccuPllVideo0Reg,
    ccuPllVideo1Reg, ccuPllVideo2Reg, ccuPllVe0Reg, ccuPllVe1Reg, ccuPllAudio0Reg, ccuPllAudio1Reg,
    ccuPllNpuReg, ccuPllDeReg]

def ccmuAddrs : List ℕ := [ccuAhbCfgReg, ccuApb0CfgReg, ccuApb1CfgReg, ccuApbUartCfgReg]
def prcmAddrs : List ℕ := [ahbsCfgReg, apbs0CfgReg, apbs1CfgReg]
def nmAddrs : List ℕ := [ccuNsiCfgReg, ccuMbusClkReg]
def tgAddrs : List ℕ := [ccuGicCfgReg, ccuTraceCfgReg]

def busAddrs : List ℕ := ccmuAddrs ++ prcmAddrs
def ctlAddrs : List ℕ := nmAddrs ++ tgAddrs

/-- The statics after `suspend_para_prepare`, which sets the addresses once. -/
def suspendParaPrepare : ClkSaves where
  pllRestore := pllAddrs.map (⟨·, 0⟩)
  ccmuBuses := ccmuAddrs.map (⟨·, 0, 0, 0⟩)
  prcmBuses := prcmAddrs.map (⟨·, 0, 0, 0⟩)
  nmCtl := nmAddrs.map (⟨·, 0⟩)
  tgCtl := tgAddrs.map (⟨·, 0⟩)

section Code

variable (d : Device)

/-- The body of `all_pll_set(pll_disable)`. -/
def pllDisable (p : PllPama) : Io PllPama := do
  let value ← readl d p.addr
  writel (value &&& ~~~(pllEnableMask ||| pllLdoEnableMask ||| pllLockEnableMask |||
    pllOutputEnableMask)) p.addr
  pure { p with value := value }

/-- The value that is restored. -/
def PllPama.saved (p : PllPama) : UInt32 := p.value &&& ~~~pllLockStatusMask

/-- The PLL was on, with its lock. -/
def PllPama.locks (p : PllPama) : Bool :=
  p.saved &&& pllEnableMask ≠ 0 ∧ p.saved &&& pllLockEnableMask ≠ 0

/-- The first loop of `all_pll_set(pll_enable)`; a PLL that does not lock ends it. -/
def pllEnableLoop : List PllPama → Io ℤ
  | [] => pure 0
  | p :: l =>
      if p.locks then do
        writel (p.saved &&& ~~~pllOutputEnableMask) p.addr
        let locked ← poll d p.addr (· &&& pllLockStatusMask ≠ 0) standbyHwPollLimit
        if locked then pllEnableLoop l else pure (-eTimeout)
      else do
        writel p.saved p.addr
        pllEnableLoop l

/-- The second loop of `all_pll_set(pll_enable)`. -/
def pllOutputLoop : List PllPama → Io Unit
  | [] => pure ()
  | p :: l => do
      writel p.saved p.addr
      pllOutputLoop l

def allPllDisable (l : List PllPama) : Io (List PllPama) := Io.each (pllDisable d) l

def allPllEnable (l : List PllPama) : Io ℤ := do
  let ret ← pllEnableLoop d l
  if ret ≠ 0 then pure ret
  else
    pllOutputLoop l
    pure 0

/-- The body of `bus_clock_set`. Restoring a bus that was not saved takes the other branch. -/
def busClockStep (mode : BusClockMode) (b : BusPama) : Io BusPama := do
  let value ← readl d b.busAddr
  if mode = .clockBak ∧ b.flag ≠ 0 then
    let value := value ||| b.m.toUInt32
    writel value b.busAddr
    let value := value &&& ~~~ccuClkSrcSelMask
    writel (value ||| b.busClkSrc.toUInt32 <<< 24) b.busAddr
    pure { b with flag := 0 }
  else
    let saved := if b.flag = 0 then
        { b with
          busClkSrc := ((value &&& ccuClkSrcSelMask) >>> 24).toUInt8
          m := (value &&& ccuFactorMMask).toUInt8
          flag := 1 }
      else b
    let value := value &&& ~~~ccuClkSrcSelMask ||| mode.code <<< 24
    writel value b.busAddr
    writel (value &&& ~~~ccuFactorMMask) b.busAddr
    pure saved

def busClockSet (mode : BusClockMode) (l : List BusPama) : Io (List BusPama) :=
  Io.each (busClockStep d mode) l

/-- The body of `bus_clock_ctl`. -/
def busCtlStep (mode : BusClockMode) (b : BusCtl) : Io BusCtl := do
  let value ← readl d b.addr
  if mode = .clockBak then
    writel b.value b.addr
    pure b
  else
    let saved := { b with value := value }
    let value := value &&& ~~~((7 : UInt32) <<< 24)
    writel value b.addr
    let value := value &&& ~~~(0x1f : UInt32)
    writel value b.addr
    writel (value &&& ~~~((1 : UInt32) <<< 31)) b.addr
    pure saved

def busClockCtl (mode : BusClockMode) (l : List BusCtl) : Io (List BusCtl) :=
  Io.each (busCtlStep d mode) l

/-- Read, change and write back. -/
def modify (a : ℕ) (f : UInt32 → UInt32) : Io Unit := do
  let value ← readl d a
  writel (f value) a

def rvLowPowerMode : Io Unit := do
  modify d busAutoClkReg (· &&& ~~~(1 : UInt32) &&& ~~~((1 : UInt32) <<< 24))
  modify d devBusCtlReg (· ||| (1 : UInt32) ||| (0xf : UInt32) <<< 8)
  modify d msraCtlReg (· ||| 1)
  modify d rCpucfgRegBase (· &&& ~~~(1 : UInt32))

/-- The registers that `ccu_24mhosc_disable` writes; the notification of the timers writes
none of the clocks. -/
def ccu24mhoscDisable : Io Unit := do
  modify d pllCtrlReg1 (· ||| (0xa7 : UInt32) <<< 24)
  modify d pllCtrlReg1 fun value => (value ||| (0xa7 : UInt32) <<< 24) &&& ~~~(1 : UInt32)
  modify d rtcCfgReg (· ||| (1 : UInt32) <<< 31)
  writel 0x16aa rtcXoWrtProtect
  modify d rtcXoCtrlReg (· &&& ~~~((1 : UInt32) <<< 1))
  modify d rtcAutoCaliCtrl (· &&& ~~~(1 : UInt32))
  modify d rtcLoscCtrl fun value => value &&& (0xffff : UInt32) ||| (0x16aa : UInt32) <<< 16
  modify d rtcLoscCtrl (· &&& ~~~(1 : UInt32) &&& ~~~((1 : UInt32) <<< 1) &&& ~~~((1 : UInt32) <<< 4))

/-- `osc24mOn` is the static `standby_osc24m_on`. -/
def dcxoDisable (osc24mOn : Bool) : Io Unit := do
  let value ← readl d rtcXoCtrlReg
  if osc24mOn = false ∧ value &&& (1 : UInt32) <<< 31 ≠ 0 then ccu24mhoscDisable d else pure ()

def clkSuspend (osc24mOn : Bool) (c : ClkSaves) : Io ClkSaves := do
  writel rvClk16M rv24MClkReg
  let ccmuBuses ← busClockSet d .rc16m c.ccmuBuses
  let nmCtl ← busClockCtl d .rc16m c.nmCtl
  let tgCtl ← busClockCtl d .rc16m c.tgCtl
  let prcmBuses ← busClockSet d .rc16m c.prcmBuses
  let pllRestore ← allPllDisable d c.pllRestore
  rvLowPowerMode d
  dcxoDisable d osc24mOn
  pure ⟨pllRestore, ccmuBuses, prcmBuses, nmCtl, tgCtl⟩

def clkResume (c : ClkSaves) : Io (ℤ × ClkSaves) := do
  let ret ← allPllEnable d c.pllRestore
  let prcmBuses ← busClockSet d .clockBak c.prcmBuses
  let tgCtl ← busClockCtl d .clockBak c.tgCtl
  let nmCtl ← busClockCtl d .clockBak c.nmCtl
  let ccmuBuses ← busClockSet d .clockBak c.ccmuBuses
  pure (ret, ⟨c.pllRestore, ccmuBuses, prcmBuses, nmCtl, tgCtl⟩)

end Code

/-! ### The buses -/

/-- The word of a bus that is switched to the RC oscillator. -/
def busAsleep (w : UInt32) : UInt32 :=
  (w &&& ~~~ccuClkSrcSelMask ||| BusClockMode.rc16m.code <<< 24) &&& ~~~ccuFactorMMask

/-- The bits of the factor that its byte does not hold. -/
def factorLost : UInt32 := 0x300

/-- The entry holds what it can of the word of its register. -/
structure BusPama.Holds (b : BusPama) (w : UInt32) : Prop where
  src : b.busClkSrc = ((w &&& ccuClkSrcSelMask) >>> 24).toUInt8
  m : b.m = (w &&& ccuFactorMMask).toUInt8
  flag : b.flag = 1

lemma busClkSrc_back (w : UInt32) :
    ((w &&& ccuClkSrcSelMask) >>> 24).toUInt8.toUInt32 <<< 24 = w &&& ccuClkSrcSelMask :=
  toUInt8_shiftLeft (by omega) (by decide) (fun i hi => bit_of_le _ hi) w

lemma busFactor_back (w : UInt32) :
    (w &&& ccuFactorMMask).toUInt8.toUInt32 = w &&& ccuFactorMMask &&& ~~~factorLost := by
  have hmask : ∀ i < 32, (decide (i < 8) && bit ccuFactorMMask i) =
      (bit ccuFactorMMask i && !bit factorLost i) := by decide
  refine eq_of_bit fun i hi => ?_
  rw [bit_toUInt8, bit_and, bit_and, bit_and, bit_not _ hi, Bool.and_assoc, ← hmask i hi]
  cases decide (i < 8) <;> cases bit w i <;> cases bit ccuFactorMMask i <;> rfl

/-- What comes back of the word of a bus: all but two bits of its factor. -/
lemma bus_back (w : UInt32) :
    (busAsleep w ||| (w &&& ccuFactorMMask).toUInt8.toUInt32) &&& ~~~ccuClkSrcSelMask |||
      ((w &&& ccuClkSrcSelMask) >>> 24).toUInt8.toUInt32 <<< 24 = w &&& ~~~factorLost := by
  rw [busClkSrc_back, busFactor_back, busAsleep]
  have hmode : ∀ i < 32, bit (BusClockMode.rc16m.code <<< 24) i = true →
      bit ccuClkSrcSelMask i = true := by decide
  have hlost : ∀ i < 32, bit factorLost i = true → bit ccuFactorMMask i = true := by decide
  have hapart : ∀ i < 32, bit ccuFactorMMask i = true → bit ccuClkSrcSelMask i = false := by decide
  refine eq_of_bit fun i hi => ?_
  have h₁ := hmode i hi
  have h₂ := hlost i hi
  have h₃ := hapart i hi
  simp only [bit_or, bit_and, bit_not _ hi]
  revert h₁ h₂ h₃
  cases bit w i <;> cases bit ccuClkSrcSelMask i <;> cases bit ccuFactorMMask i <;>
    cases bit factorLost i <;> cases bit (BusClockMode.rc16m.code <<< 24) i <;> decide

section Groups

variable {d : Device}

lemma busClockStep_within (mode : BusClockMode) (b : BusPama) :
    Io.Within {b.busAddr} (busClockStep d mode b) := by
  have hwrite : ∀ value, Io.Within {b.busAddr} (writel value b.busAddr) := fun value =>
    .writel value rfl
  exact .bind (.readl _ _ _) fun _ =>
    .ite (.bind (hwrite _) fun _ => .bind (hwrite _) fun _ => .pure _ _)
      (.bind (hwrite _) fun _ => .bind (hwrite _) fun _ => .pure _ _)

lemma busSuspend_spec {l : List BusPama} (hl : (l.map BusPama.busAddr).Nodup)
    (hpre : ∀ b ∈ l, d.live b.busAddr = 0 ∧ b.flag = 0) (s : Regs) :
    (busClockSet d .rc16m l s).1.map BusPama.busAddr = l.map BusPama.busAddr ∧
    ∀ b ∈ (busClockSet d .rc16m l s).1, b.Holds (s.word b.busAddr) ∧
      (busClockSet d .rc16m l s).2.word b.busAddr = busAsleep (s.word b.busAddr) := by
  refine Io.each_spec (P := fun b w => (d.live b.busAddr = 0 ∧ b.flag = 0) ∧ w = s.word b.busAddr)
    (Q := fun c w => c.Holds (s.word c.busAddr) ∧ w = busAsleep (s.word c.busAddr)) ?_
    (busClockStep_within _) hl s fun b hb => ⟨hpre b hb, rfl⟩
  rintro b t ⟨⟨hplain, hflag⟩, hword⟩
  simp only [busClockStep, bind_apply, readl_fst, d.view_plain hplain, hword,
    reduceCtorEq, false_and, if_false, hflag, if_true, pure_apply, writel_word,
    Function.update_self]
  exact ⟨trivial, ⟨rfl, rfl, rfl⟩, rfl⟩

/-- What comes back of the buses that were switched to the RC oscillator. -/
lemma busResume_spec {l : List BusPama} (hl : (l.map BusPama.busAddr).Nodup)
    {w₀ : ℕ → UInt32} {s : Regs}
    (hpre : ∀ b ∈ l, d.live b.busAddr = 0 ∧ b.Holds (w₀ b.busAddr) ∧
      s.word b.busAddr = busAsleep (w₀ b.busAddr)) :
    (busClockSet d .clockBak l s).1.map BusPama.busAddr = l.map BusPama.busAddr ∧
    ∀ b ∈ (busClockSet d .clockBak l s).1, b.flag = 0 ∧
      (busClockSet d .clockBak l s).2.word b.busAddr = w₀ b.busAddr &&& ~~~factorLost := by
  refine Io.each_spec (P := fun b w => d.live b.busAddr = 0 ∧ b.Holds (w₀ b.busAddr) ∧
      w = busAsleep (w₀ b.busAddr))
    (Q := fun c w => c.flag = 0 ∧ w = w₀ c.busAddr &&& ~~~factorLost) ?_
    (busClockStep_within _) hl s hpre
  rintro b t ⟨hplain, hholds, hword⟩
  have hflag : b.flag ≠ 0 := by
    rw [hholds.flag]
    decide
  simp only [busClockStep, bind_apply, readl_fst, d.view_plain hplain, hword, hflag,
    true_and, ne_eq, not_false_eq_true, if_true, pure_apply, writel_word, Function.update_self,
    hholds.src, hholds.m]
  exact bus_back _

lemma busCtlStep_within (mode : BusClockMode) (b : BusCtl) :
    Io.Within {b.addr} (busCtlStep d mode b) := by
  have hwrite : ∀ value, Io.Within {b.addr} (writel value b.addr) := fun value => .writel value rfl
  exact .bind (.readl _ _ _) fun _ => .ite (.bind (hwrite _) fun _ => .pure _ _)
    (.bind (hwrite _) fun _ => .bind (hwrite _) fun _ => .bind (hwrite _) fun _ => .pure _ _)

lemma ctlSuspend_spec {l : List BusCtl} (hl : (l.map BusCtl.addr).Nodup)
    (hplain : ∀ b ∈ l, d.live b.addr = 0) (s : Regs) :
    (busClockCtl d .rc16m l s).1.map BusCtl.addr = l.map BusCtl.addr ∧
    ∀ b ∈ (busClockCtl d .rc16m l s).1, b.value = s.word b.addr := by
  refine Io.each_spec (P := fun b w => d.live b.addr = 0 ∧ w = s.word b.addr)
    (Q := fun c _ => c.value = s.word c.addr) ?_
    (busCtlStep_within _) hl s fun b hb => ⟨hplain b hb, rfl⟩
  rintro b t ⟨hlive, hword⟩
  simp only [busCtlStep, bind_apply, readl_fst, d.view_plain hlive, hword, reduceCtorEq,
    if_false, pure_apply]
  exact ⟨trivial, trivial⟩

lemma ctlResume_spec {l : List BusCtl} (hl : (l.map BusCtl.addr).Nodup) {w₀ : ℕ → UInt32}
    (hpre : ∀ b ∈ l, b.value = w₀ b.addr) (s : Regs) :
    (busClockCtl d .clockBak l s).1.map BusCtl.addr = l.map BusCtl.addr ∧
    ∀ b ∈ (busClockCtl d .clockBak l s).1,
    (busClockCtl d .clockBak l s).2.word b.addr = w₀ b.addr := by
  refine Io.each_spec (P := fun b _ => b.value = w₀ b.addr) (Q := fun c w => w = w₀ c.addr) ?_
    (busCtlStep_within _) hl s hpre
  intro b t hvalue
  simp only [busCtlStep, bind_apply, if_true, pure_apply, writel_word, Function.update_self]
  exact ⟨trivial, hvalue⟩

/-! The PLLs. -/

lemma pllDisable_within (p : PllPama) : Io.Within {p.addr} (pllDisable d p) :=
  .bind (.readl _ _ _) fun _ => .bind (.writel _ rfl) fun _ => .pure _ _

lemma allPllDisable_spec {l : List PllPama} (hl : (l.map PllPama.addr).Nodup)
    (hlive : ∀ p ∈ l, d.live p.addr = pllLockStatusMask) (s : Regs) :
    (allPllDisable d l s).1.map PllPama.addr = l.map PllPama.addr ∧
    ∀ p ∈ (allPllDisable d l s).1, AgreeOff pllLockStatusMask p.value (s.word p.addr) := by
  refine Io.each_spec (P := fun p w => d.live p.addr = pllLockStatusMask ∧ w = s.word p.addr)
    (Q := fun p _ => AgreeOff pllLockStatusMask p.value (s.word p.addr)) ?_
    pllDisable_within hl s fun p hp => ⟨hlive p hp, rfl⟩
  rintro p t ⟨hp, hword⟩
  have hview := d.view_agreeOff t p.addr
  rw [hp, hword] at hview
  exact ⟨rfl, hview⟩

lemma pllOutputLoop_within (l : List PllPama) :
    Io.Within {a | a ∈ l.map PllPama.addr} (pllOutputLoop l) := by
  induction l with
  | nil => exact .pure _ _
  | cons p l ih =>
      exact .bind (.writel _ List.mem_cons_self) fun _ =>
        ih.mono fun a ha => List.mem_cons_of_mem _ ha

lemma pllOutputLoop_spec {l : List PllPama} (hl : (l.map PllPama.addr).Nodup) (s : Regs) :
    ∀ p ∈ l, (pllOutputLoop l s).2.word p.addr = p.saved := by
  induction l generalizing s with
  | nil => exact fun p hp => absurd hp List.not_mem_nil
  | cons q l ih =>
      rw [List.map_cons, List.nodup_cons] at hl
      intro p hp
      rw [pllOutputLoop, bind_apply]
      obtain rfl | hp := List.mem_cons.mp hp
      · rw [pllOutputLoop_within l _ _ hl.1, writel_word, Function.update_self]
      · exact ih hl.2 _ p hp

lemma pllEnableLoop_within (l : List PllPama) :
    Io.Within {a | a ∈ l.map PllPama.addr} (pllEnableLoop d l) := by
  induction l with
  | nil => exact .pure _ _
  | cons p l ih =>
      have hrest : Io.Within {a | a ∈ (p :: l).map PllPama.addr} (pllEnableLoop d l) :=
        ih.mono fun a ha => List.mem_cons_of_mem _ ha
      have hwrite : ∀ value, Io.Within {a | a ∈ (p :: l).map PllPama.addr} (writel value p.addr) :=
        fun value => .writel value List.mem_cons_self
      exact .ite (.bind (hwrite _) fun _ => .bind (.poll _ _ _ _ _) fun _ => .ite hrest (.pure _ _))
        (.bind (hwrite _) fun _ => hrest)

/-- The registers are plain words but for the lock bits. -/
structure PlainClocks (d : Device) : Prop where
  live : ∀ a ∈ pllAddrs, d.live a = pllLockStatusMask
  plain : ∀ a ∈ busAddrs ++ ctlAddrs, d.live a = 0

/-- The PLL shows its lock at the `n`-th read. -/
def Locked (d : Device) (n a : ℕ) : Prop := d.sense n a &&& pllLockStatusMask ≠ 0

/-- The PLL is to be locked again, and the reads from the `n`-th on do not show it within the
limit of the poll. -/
def PllPama.FailsFrom (d : Device) (n : ℕ) (p : PllPama) : Prop :=
  p.locks = true ∧ ∀ k < standbyHwPollLimit, ¬Locked d (n + k) p.addr

/-- From the `n`-th read on the PLLs of the list lock one after the other, each within the
limit of its own poll, up to the `m`-th read. -/
inductive LocksFrom (d : Device) : ℕ → List PllPama → ℕ → Prop
  | nil (n) : LocksFrom d n [] n
  | off {n m p l} (hp : p.locks = false) (h : LocksFrom d n l m) : LocksFrom d n (p :: l) m
  | on {n m p l k} (hp : p.locks = true) (hk : k < standbyHwPollLimit)
      (hbefore : ∀ j < k, ¬Locked d (n + j) p.addr) (hlocked : Locked d (n + k) p.addr)
      (h : LocksFrom d (n + k + 1) l m) : LocksFrom d n (p :: l) m

/-- Up to the first PLL that fails, if there is one, the PLLs lock. -/
lemma locksFrom_or_fails (d : Device) (l : List PllPama) (n : ℕ) :
    (∃ m, LocksFrom d n l m) ∨
    ∃ pre p post m, l = pre ++ p :: post ∧ LocksFrom d n pre m ∧ p.FailsFrom d m := by
  have hcons : ∀ {p l n n'}, (∀ {l m}, LocksFrom d n' l m → LocksFrom d n (p :: l) m) →
      ((∃ m, LocksFrom d n' l m) ∨
        ∃ pre p post m, l = pre ++ p :: post ∧ LocksFrom d n' pre m ∧ p.FailsFrom d m) →
      (∃ m, LocksFrom d n (p :: l) m) ∨
        ∃ pre q post m, p :: l = pre ++ q :: post ∧ LocksFrom d n pre m ∧ q.FailsFrom d m := by
    intro p l n n' hstep h
    obtain ⟨m, hm⟩ | ⟨pre, q, post, m, rfl, hpre, hq⟩ := h
    · exact Or.inl ⟨m, hstep hm⟩
    · exact Or.inr ⟨p :: pre, q, post, m, rfl, hstep hpre, hq⟩
  induction l generalizing n with
  | nil => exact Or.inl ⟨n, .nil n⟩
  | cons p l ih =>
      cases hp : p.locks with
      | false => exact hcons (.off hp) (ih n)
      | true =>
          by_cases hlock : ∃ k, k < standbyHwPollLimit ∧ Locked d (n + k) p.addr
          · classical
            obtain ⟨hk, hlocked⟩ := Nat.find_spec hlock
            refine hcons (.on hp hk (fun j hj hl => ?_) hlocked) (ih _)
            exact Nat.find_min hlock hj ⟨hj.trans hk, hl⟩
          · exact Or.inr ⟨[], p, l, n, rfl, .nil n, hp, fun k hk hl => hlock ⟨k, hk, hl⟩⟩

/-- The PLLs lock within the limit, whenever they are polled. -/
structure Steady (d : Device) : Prop extends PlainClocks d where
  locks : ∀ a ∈ pllAddrs, ∀ n, ∃ k < standbyHwPollLimit, Locked d (n + k) a

lemma Steady.locksFrom (h : Steady d) {l : List PllPama} (hl : ∀ p ∈ l, p.addr ∈ pllAddrs)
    (n : ℕ) : ∃ m, LocksFrom d n l m := by
  refine (locksFrom_or_fails d l n).resolve_right ?_
  rintro ⟨pre, p, post, m, rfl, -, -, hfails⟩
  obtain ⟨k, hk, hlocked⟩ :=
    h.locks p.addr (hl p (List.mem_append_right _ List.mem_cons_self)) m
  exact hfails k hk hlocked

/-- A read of a PLL shows its lock bit. -/
lemma PlainClocks.view_lock (h : PlainClocks d) {a : ℕ} (ha : a ∈ pllAddrs) (s : Regs) :
    decide (d.view s a &&& pllLockStatusMask ≠ 0) = true ↔ Locked d s.reads a := by
  have hview := d.view_and_live s a
  rw [h.live a ha] at hview
  rw [decide_eq_true_eq, hview, Locked]

/-- The word that the first loop leaves: the output of a PLL that has to lock stays closed. -/
def PllPama.enabled (p : PllPama) : UInt32 :=
  if p.locks then p.saved &&& ~~~pllOutputEnableMask else p.saved

/-- The first loop gets through PLLs that lock. -/
lemma LocksFrom.run (hd : PlainClocks d) {n m : ℕ} {l : List PllPama} (h : LocksFrom d n l m)
    (hl : ∀ p ∈ l, p.addr ∈ pllAddrs) (hnodup : (l.map PllPama.addr).Nodup) (post : List PllPama)
    {s : Regs} (hs : s.reads = n) :
    ∃ t : Regs, t.reads = m ∧ pllEnableLoop d (l ++ post) s = pllEnableLoop d post t ∧
      (∀ q ∈ l, t.word q.addr = q.enabled) ∧ ∀ a ∉ l.map PllPama.addr, t.word a = s.word a := by
  -- the word of the first entry is not touched by the rest
  have hcons : ∀ {p : PllPama} {l : List PllPama} {s u t₂ : Regs},
      ((p :: l).map PllPama.addr).Nodup → u.word = Function.update s.word p.addr p.enabled →
      (∀ q ∈ l, t₂.word q.addr = q.enabled) →
      (∀ a ∉ l.map PllPama.addr, t₂.word a = u.word a) →
      (∀ q ∈ p :: l, t₂.word q.addr = q.enabled) ∧
        ∀ a ∉ (p :: l).map PllPama.addr, t₂.word a = s.word a := by
    intro p l s u t₂ hnodup hfirst hrest hframe
    rw [List.map_cons, List.nodup_cons] at hnodup
    refine ⟨fun q hq => ?_, fun a ha => ?_⟩
    · obtain rfl | hq := List.mem_cons.mp hq
      · rw [hframe _ hnodup.1, hfirst, Function.update_self]
      · exact hrest q hq
    · rw [List.map_cons, List.mem_cons, not_or] at ha
      rw [hframe a ha.2, hfirst, Function.update_of_ne ha.1]
  induction h generalizing s with
  | nil => exact ⟨s, hs, rfl, fun q hq => absurd hq List.not_mem_nil, fun _ _ => rfl⟩
  | @off n m p l hp h ih =>
      have hword : (writel p.saved p.addr s).2.word =
          Function.update s.word p.addr p.enabled := by
        rw [PllPama.enabled, hp]
        rfl
      obtain ⟨t, ht, hrun, hrest, hframe⟩ := ih (fun q hq => hl q (List.mem_cons_of_mem _ hq))
        (List.nodup_cons.mp hnodup).2 (s := (writel p.saved p.addr s).2) hs
      refine ⟨t, ht, ?_, hcons hnodup hword hrest hframe⟩
      rw [List.cons_append, pllEnableLoop, hp, if_neg Bool.false_ne_true, bind_apply, hrun]
  | @on n m p l k hp hk hbefore hlocked h ih =>
      obtain ⟨t₁, ht₁⟩ : ∃ t₁, (writel (p.saved &&& ~~~pllOutputEnableMask) p.addr s).2 = t₁ :=
        ⟨_, rfl⟩
      have hword : t₁.word = Function.update s.word p.addr p.enabled := by
        rw [PllPama.enabled, hp, ← ht₁]
        rfl
      have hreads : t₁.reads = n := by rw [← ht₁, ← hs]; rfl
      have haddr := hl p List.mem_cons_self
      have hpoll : poll d p.addr (· &&& pllLockStatusMask ≠ 0) standbyHwPollLimit t₁ =
          (true, { t₁ with reads := t₁.reads + k + 1 }) := by
        refine poll_first hk (fun j hj => ?_) ?_
        · refine Bool.eq_false_of_not_eq_true fun hready => hbefore j hj ?_
          rw [← hreads]
          exact (hd.view_lock haddr _).mp hready
        · refine (hd.view_lock haddr _).mpr ?_
          rw [hreads]
          exact hlocked
      obtain ⟨t, ht, hrun, hrest, hframe⟩ := ih (fun q hq => hl q (List.mem_cons_of_mem _ hq))
        (List.nodup_cons.mp hnodup).2 (s := { t₁ with reads := t₁.reads + k + 1 })
        (congrArg (· + k + 1) hreads)
      refine ⟨t, ht, ?_, hcons (u := { t₁ with reads := t₁.reads + k + 1 }) hnodup hword hrest
        hframe⟩
      rw [List.cons_append, pllEnableLoop, hp, if_pos rfl, bind_apply, ht₁, bind_apply, hpoll,
        ← hrun]
      rfl

/-- A PLL that fails ends the first loop with its output closed. -/
lemma pllEnableLoop_fails (hd : PlainClocks d) {p : PllPama} (hp : p.addr ∈ pllAddrs) {s : Regs}
    (hfails : p.FailsFrom d s.reads) (l : List PllPama) :
    ∃ t : Regs, pllEnableLoop d (p :: l) s = (-eTimeout, t) ∧
      t.word = Function.update s.word p.addr p.enabled := by
  obtain ⟨hlocks, hnever⟩ := hfails
  obtain ⟨t₁, ht₁⟩ : ∃ t₁, (writel (p.saved &&& ~~~pllOutputEnableMask) p.addr s).2 = t₁ :=
    ⟨_, rfl⟩
  have hreads : t₁.reads = s.reads := by rw [← ht₁]; rfl
  have hpoll : (poll d p.addr (· &&& pllLockStatusMask ≠ 0) standbyHwPollLimit t₁).1 = false := by
    refine Bool.eq_false_of_not_eq_true fun hready => ?_
    obtain ⟨k, hk, hview⟩ := (poll_eq_true_iff _ _ _ _ _).mp hready
    refine hnever k hk ?_
    rw [← hreads]
    exact (hd.view_lock hp _).mp hview
  refine ⟨(poll d p.addr (· &&& pllLockStatusMask ≠ 0) standbyHwPollLimit t₁).2, ?_, ?_⟩
  · rw [pllEnableLoop, hlocks, if_pos rfl, bind_apply, ht₁, bind_apply, hpoll]
    rfl
  · rw [poll_word, PllPama.enabled, hlocks, ← ht₁]
    rfl

/-- The first PLL that fails ends the loop: up to it the outputs are closed, after it nothing
was written. -/
lemma pllEnableLoop_fail (hd : PlainClocks d) {pre post : List PllPama} {p : PllPama} {s : Regs}
    {m : ℕ} (hl : ∀ q ∈ pre ++ p :: post, q.addr ∈ pllAddrs)
    (hnodup : ((pre ++ p :: post).map PllPama.addr).Nodup) (hpre : LocksFrom d s.reads pre m)
    (hp : p.FailsFrom d m) :
    (pllEnableLoop d (pre ++ p :: post) s).1 = -eTimeout ∧
    (∀ q ∈ pre ++ [p], (pllEnableLoop d (pre ++ p :: post) s).2.word q.addr = q.enabled) ∧
    ∀ q ∈ post, (pllEnableLoop d (pre ++ p :: post) s).2.word q.addr = s.word q.addr := by
  rw [List.map_append, List.map_cons, List.nodup_append] at hnodup
  obtain ⟨hnodup₁, hnodup₂, hapart⟩ := hnodup
  obtain ⟨t, ht, hrun, hword, hframe⟩ := hpre.run hd
    (fun q hq => hl q (List.mem_append_left _ hq)) hnodup₁ (p :: post) rfl
  have haddr := hl p (List.mem_append_right _ List.mem_cons_self)
  rw [← ht] at hp
  obtain ⟨t', hend, hlast⟩ := pllEnableLoop_fails hd haddr hp post
  rw [hrun, hend]
  refine ⟨rfl, fun q hq => ?_, fun q hq => ?_⟩
  · obtain hq | hq := List.mem_append.mp hq
    · have hne := hapart _ (List.mem_map_of_mem hq) _ List.mem_cons_self
      rw [hlast, Function.update_of_ne hne, hword q hq]
    · rw [List.mem_singleton.mp hq, hlast, Function.update_self]
  · have hmem : q.addr ∈ post.map PllPama.addr := List.mem_map_of_mem hq
    have hne : q.addr ≠ p.addr := fun heq => (List.nodup_cons.mp hnodup₂).1 (heq ▸ hmem)
    have hout : q.addr ∉ pre.map PllPama.addr := fun hin =>
      hapart _ hin _ (List.mem_cons_of_mem _ hmem) rfl
    rw [hlast, Function.update_of_ne hne, hframe _ hout]

end Groups

end A733Boot.Ar100s.Standby
