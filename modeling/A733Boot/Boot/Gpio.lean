/-
The pins as boot0 sets them: `a7s_gpio_registers` and `a7s_boot_set_gpio_v3` of
`src/platform_shims.c`.

* `a7sGpioRegisters`: the registers of a pin, in the main and in the R domain;
* `a7sBootSetGpioV3`: the loop over the entries of a list;
* `a7sBootSetGpioV3_one`: what a single entry of the R domain with a function, a pull and a
  drive level sets.
-/
import A733Boot.Library.FieldWrites

namespace A733Boot.Boot.Gpio

/-! ### The code -/

def sunxiPioBase : ℕ := 0x02000000
def sunxiRPioBase : ℕ := 0x07025000

def a7sMainPioBankSize : ℕ := 0x80
def a7sMainPioCfgBase : ℕ := 0x80
def a7sMainPioData : ℕ := 0x90
def a7sMainPioDrvBase : ℕ := 0xa0
def a7sMainPioPullBase : ℕ := 0xb0

def a7sRPioFirstPort : ℕ := 12
def a7sRPioBankSize : ℕ := 0x30
def a7sRPioCfgBase : ℕ := 0x00
def a7sRPioData : ℕ := 0x10
def a7sRPioDrvBase : ℕ := 0x14
def a7sRPioPullBase : ℕ := 0x24

/-- `normal_gpio_cfg`. -/
structure NormalGpioCfg where
  port : UInt8
  portNum : UInt8
  mulSel : UInt8
  pull : UInt8
  drvLevel : UInt8
  data : UInt8

/-- The registers of a pin. -/
structure GpioRegisters where
  cfg : ℕ
  pull : ℕ
  drv : ℕ
  data : ℕ

def a7sGpioRegisters (port pin : ℕ) : GpioRegisters :=
  if port < a7sRPioFirstPort then
    let bank := sunxiPioBase + (port - 1) * a7sMainPioBankSize
    { cfg := bank + a7sMainPioCfgBase + (pin >>> 3) * 4
      pull := bank + a7sMainPioPullBase + (pin >>> 4) * 4
      drv := bank + a7sMainPioDrvBase + (pin >>> 3) * 4
      data := bank + a7sMainPioData }
  else
    let bank := sunxiRPioBase + (port - a7sRPioFirstPort) * a7sRPioBankSize
    { cfg := bank + a7sRPioCfgBase + (pin >>> 3) * 4
      pull := bank + a7sRPioPullBase + (pin >>> 4) * 4
      drv := bank + a7sRPioDrvBase + (pin >>> 3) * 4
      data := bank + a7sRPioData }

/-- A byte that is not negative as a signed one. -/
def nonneg (b : UInt8) : Prop := b < 128

instance (b : UInt8) : Decidable (nonneg b) := inferInstanceAs (Decidable (_ < _))

section Code

variable (d : Device)

/-- One turn of the loop of `a7s_boot_set_gpio_v3`. -/
def setGpioEntry (setGpio : ℤ) (gpio : NormalGpioCfg) : Io Unit := do
  let port := gpio.port.toNat
  let pin := gpio.portNum.toNat
  let cfgShift := UInt32.ofNat ((pin &&& 0x7) * 4)
  let pullShift := UInt32.ofNat ((pin &&& 0xf) * 2)
  let drvShift := UInt32.ofNat ((pin &&& 0x7) * 4)
  if port = 0 then pure ()
  else
    let regs := a7sGpioRegisters port pin
    let val ← readl d regs.cfg
    let val := val &&& ~~~((0xf : UInt32) <<< cfgShift)
    writel (if setGpio ≠ 0 then val ||| (gpio.mulSel.toUInt32 &&& 0xf) <<< cfgShift else val)
      regs.cfg
    if nonneg gpio.pull then
      updateField d regs.pull ((0x3 : UInt32) <<< pullShift)
        ((gpio.pull.toUInt32 &&& 0x3) <<< pullShift)
    if nonneg gpio.drvLevel then
      updateField d regs.drv ((0x3 : UInt32) <<< drvShift)
        ((gpio.drvLevel.toUInt32 &&& 0x3) <<< drvShift)
    if gpio.mulSel = 1 ∧ nonneg gpio.data then
      updateField d regs.data ((1 : UInt32) <<< UInt32.ofNat pin)
        ((gpio.data.toUInt32 &&& 1) <<< UInt32.ofNat pin)

/-- The loop of `a7s_boot_set_gpio_v3`, over the entries of an array from `index` on. -/
def setGpioEntries (setGpio : ℤ) (gpioList : ℕ → NormalGpioCfg) (index : ℕ) : ℕ → Io Unit
  | 0 => pure ()
  | n + 1 => do
      setGpioEntry d setGpio (gpioList index)
      setGpioEntries setGpio gpioList (index + 1) n

def a7sBootSetGpioV3 (userGpioList : Option (ℕ → NormalGpioCfg)) (groupCountMax : ℕ)
    (setGpio : ℤ) : Io ℤ :=
  match userGpioList with
  | none => pure (-1)
  | some gpioList =>
      if groupCountMax = 0 then pure (-1)
      else do
        setGpioEntries d setGpio gpioList 0 groupCountMax
        pure 0

end Code

/-! ### A single entry -/

lemma shift_four_lt (pin : ℕ) : (pin &&& 0x7) * 4 < 32 := by
  have hmod : pin &&& 0x7 = pin % 2 ^ 3 := Nat.and_two_pow_sub_one_eq_mod pin 3
  omega

lemma shift_two_lt (pin : ℕ) : (pin &&& 0xf) * 2 < 32 := by
  have hmod : pin &&& 0xf = pin % 2 ^ 4 := Nat.and_two_pow_sub_one_eq_mod pin 4
  omega

/-- The fields of a pin, in registers of a layout, with the values they get: the function,
the pull and the drive level. -/
def pinFields (regs : GpioRegisters) (pin : ℕ) (func pull drv : UInt32) : List FieldWrite :=
  [.shifted regs.cfg 0xf func ((pin &&& 0x7) * 4) (shift_four_lt pin),
    .shifted regs.pull 0x3 pull ((pin &&& 0xf) * 2) (shift_two_lt pin),
    .shifted regs.drv 0x3 drv ((pin &&& 0x7) * 4) (shift_four_lt pin)]

/-- What an entry sets. -/
def NormalGpioCfg.fields (gpio : NormalGpioCfg) : List FieldWrite :=
  pinFields (a7sGpioRegisters gpio.port.toNat gpio.portNum.toNat) gpio.portNum.toNat
    gpio.mulSel.toUInt32 gpio.pull.toUInt32 gpio.drvLevel.toUInt32

/-- An entry that gives the function, the pull and the drive level of its pin, and no data:
three fields are set. -/
lemma a7sBootSetGpioV3_one {d : Device} {gpio : NormalGpioCfg} {setGpio : ℤ}
    (hport : gpio.port ≠ 0) (hset : setGpio ≠ 0) (hpull : nonneg gpio.pull)
    (hdrv : nonneg gpio.drvLevel) (hdata : ¬ nonneg gpio.data)
    (hplain : ∀ f ∈ gpio.fields, d.live f.addr = 0) (r : Regs) :
    (a7sBootSetGpioV3 d (some fun _ => gpio) 1 setGpio r).2.word
      = FieldWrite.applyAll gpio.fields r.word := by
  simp only [NormalGpioCfg.fields, pinFields, List.forall_mem_cons] at hplain
  obtain ⟨hcfg, hpullReg, hdrvReg, -⟩ := hplain
  have hne : ¬ gpio.port.toNat = 0 := fun h => hport (UInt8.toNat_inj.mp h)
  have hread : d.view r (a7sGpioRegisters gpio.port.toNat gpio.portNum.toNat).cfg
      = r.word (a7sGpioRegisters gpio.port.toNat gpio.portNum.toNat).cfg := d.view_plain hcfg
  have hnodata : ¬ (gpio.mulSel = 1 ∧ nonneg gpio.data) := fun h => hdata h.2
  have hp := fun r => updateField_word (d := d) hpullReg r
  have hd := fun r => updateField_word (d := d) hdrvReg r
  simp only [FieldWrite.shifted] at hp hd
  simp only [a7sBootSetGpioV3, one_ne_zero, if_false, setGpioEntries, setGpioEntry, hne, hset,
    ne_eq, not_false_eq_true, if_true, hpull, hdrv, hnodata, bind_apply, pure_apply, readl_fst,
    hread, hp, hd, writel_word, readl_word]
  rfl

end A733Boot.Boot.Gpio
