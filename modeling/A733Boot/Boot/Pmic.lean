/-
The AXP8191 of boot0, from `src/platform_shims.c`: `sunxi_board_init` and
`set_ddr_voltage_ext`, with the probe sequence that goes through the extended page.

The bus, `pmic_bus_init`, `pmic_bus_read` and `pmic_bus_write`, is code outside the
repository: every transfer is answered by a schedule, which may fail it. A write that fails
may have taken effect, and what a read returns is left open.

* `Board`: the control registers of the PMIC, the flag of the driver, the transfers so far,
  each with the state it found, and the registers of the SoC;
* `PageSafe`: regulators are written on the normal page only, the extended register on the
  extended page only, and the flag is set only after the probe sequence, which is not made
  again;
* `a7sAxp8191Init_safe`, `a7sAxp8191SetRail_safe`: what the two operations keep;
* `runCalls_pageSafe` (**page safety**): every sequence of calls is safe, whatever fails.
-/
import A733Boot.Boot.Axp8191Voltage
import A733Boot.Library.Triples

namespace A733Boot.Boot

/-! ### The bus -/

/-- The registers of the AXP8191 that choose the page and lock it: `AXP8191_WRITE_LOCK`,
`AXP8191_EFUSE_CTRL` and `AXP8191_EXT_ADDR`. They are the same on every page. -/
structure Axp8191 where
  writeLock : UInt8
  efuseCtrl : UInt8
  extAddr : UInt8

/-- The normal page, with the lock closed. -/
def Axp8191.normal : Axp8191 := ⟨0, 0, 0⟩

def axp8191DeviceAddr : UInt32 := 400000
def axp8191RuntimeAddr : UInt8 := 0x36
def axp8191ChipId : UInt8 := 0x0e
def axp8191ChipIdA : UInt8 := 0x03
def axp8191DcdcCtrl1 : UInt8 := 0x10
def axp8191DcdcCtrl2 : UInt8 := 0x11
def axp8191Dc1sw2Enable : UInt8 := 0x10
def axp8191Dcdc2Vol : UInt8 := 0x13
def axp8191Dcdc2840mv : UInt8 := 0x22
def axp8191Dcdc6Vol : UInt8 := 0x17
def axp8191Dcdc7Vol : UInt8 := 0x18
def axp8191Dcdc8Vol : UInt8 := 0x19
def axp8191LdoCtrl2 : UInt8 := 0x21
def axp8191LdoCtrl3 : UInt8 := 0x22
def axp8191Cldo5Vol : UInt8 := 0x33
def axp8191Eldo1Vol : UInt8 := 0x3a
def axp8191Eldo2Vol : UInt8 := 0x3b
def axp8191ApResetCtrl : UInt8 := 0x55
def axp8191WriteLock : UInt8 := 0xf0
def axp8191EfuseCtrl : UInt8 := 0xf1
def axp8191ExtAddr : UInt8 := 0xff

/-- What a write that takes effect leaves in the control registers. -/
def Axp8191.write (p : Axp8191) (reg value : UInt8) : Axp8191 :=
  if reg = axp8191WriteLock then { p with writeLock := value }
  else if reg = axp8191EfuseCtrl then { p with efuseCtrl := value }
  else if reg = axp8191ExtAddr then { p with extAddr := value }
  else p

inductive Transfer
  | init (deviceAddr : UInt32) (runtimeAddr : UInt8)
  | read (runtimeAddr reg : UInt8)
  | write (runtimeAddr reg value : UInt8)
deriving DecidableEq

/-- How the bus answers a transfer: the status, the byte read, and whether a write that fails
takes effect. -/
structure Answer where
  status : ℤ
  value : UInt8
  effective : Bool

/-- A transfer, its answer, and the control registers and the flag that it found. -/
structure Issued where
  transfer : Transfer
  answer : Answer
  pmic : Axp8191
  ready : Bool

/-- The PMIC, `a7s_axp8191_ready`, the transfers, oldest first, and the SoC. -/
structure Board where
  pmic : Axp8191
  ready : Bool
  log : List Issued
  regs : Regs

/-- A program of the board. -/
abbrev BoardM (α : Type) := StateM Board α

section Driver

variable (d : Device) (bus : ℕ → Answer)

/-- The transfer is issued, and answered by the schedule. -/
def issue (t : Transfer) (effect : Axp8191 → Axp8191) : BoardM Answer := fun b =>
  let answer := bus b.log.length
  (answer,
    { b with
      pmic := if answer.status = 0 ∨ answer.effective then effect b.pmic else b.pmic
      log := b.log ++ [⟨t, answer, b.pmic, b.ready⟩] })

def pmicBusInit (deviceAddr : UInt32) (runtimeAddr : UInt8) : BoardM ℤ := do
  let answer ← issue bus (.init deviceAddr runtimeAddr) id
  pure answer.status

/-- The status and the byte. -/
def pmicBusRead (runtimeAddr reg : UInt8) : BoardM (ℤ × UInt8) := do
  let answer ← issue bus (.read runtimeAddr reg) id
  pure (answer.status, answer.value)

def pmicBusWrite (runtimeAddr reg value : UInt8) : BoardM ℤ := do
  let answer ← issue bus (.write runtimeAddr reg value) fun p => p.write reg value
  pure answer.status

/-! ### The driver -/

def a7sAxp8191UpdateBits (reg mask value : UInt8) : BoardM ℤ := do
  let (status, regValue) ← pmicBusRead bus axp8191RuntimeAddr reg
  if status ≠ 0 then pure (-1)
  else pmicBusWrite bus axp8191RuntimeAddr reg (regValue &&& ~~~mask ||| value &&& mask)

/-- The probe sequence of the vendor up to the label `restore_normal_page`. -/
def extendedConfiguration : BoardM ℤ := do
  let status ← pmicBusWrite bus axp8191RuntimeAddr axp8191WriteLock 0x06
  if status ≠ 0 then pure status else
  let status ← pmicBusWrite bus axp8191RuntimeAddr axp8191EfuseCtrl 0x04
  if status ≠ 0 then pure status else
  let status ← pmicBusWrite bus axp8191RuntimeAddr axp8191ExtAddr 0x01
  if status ≠ 0 then pure status else
  let (status, extCfg) ← pmicBusRead bus axp8191RuntimeAddr 0x00
  if status ≠ 0 then pure status else
  pmicBusWrite bus axp8191RuntimeAddr 0x00 (extCfg ||| 0x40)

/-- One write of the restoration: the first error is kept. -/
def restoreRegister (status : ℤ) (reg : UInt8) : BoardM ℤ := do
  let ret ← pmicBusWrite bus axp8191RuntimeAddr reg 0x00
  pure (if status = 0 ∧ ret ≠ 0 then ret else status)

/-- The label `restore_normal_page`. -/
def restoreNormalPage (status : ℤ) : BoardM ℤ := do
  let status ← restoreRegister bus status axp8191ExtAddr
  let status ← restoreRegister bus status axp8191EfuseCtrl
  restoreRegister bus status axp8191WriteLock

def setReady : BoardM Unit := fun b => ((), { b with ready := true })

/-- `a7s_axp8191_init` when the flag is not set. -/
def a7sAxp8191Probe : BoardM ℤ := do
  let status ← pmicBusInit bus axp8191DeviceAddr axp8191RuntimeAddr
  if status ≠ 0 then pure (-1) else
  let (status, chipId) ← pmicBusRead bus axp8191RuntimeAddr axp8191ChipId
  if status ≠ 0 then pure (-1) else
  if chipId ≠ axp8191ChipIdA then pure (-1) else
  let status ← extendedConfiguration bus
  let status ← restoreNormalPage bus status
  if status ≠ 0 then pure status else
  let status ← a7sAxp8191UpdateBits bus axp8191ApResetCtrl 0x08 0x08
  if status ≠ 0 then pure status else
  setReady
  pure 0

def a7sAxp8191Init : BoardM ℤ := do
  let b ← get
  if b.ready then pure 0 else a7sAxp8191Probe bus

def a7sAxp8191EnableSdPower : BoardM ℤ :=
  a7sAxp8191UpdateBits bus axp8191DcdcCtrl2 axp8191Dc1sw2Enable axp8191Dc1sw2Enable

/-- `struct a7s_axp8191_rail`. -/
structure A7sAxp8191Rail where
  name : String
  voltageReg : UInt8
  voltageMask : UInt8
  enableReg : UInt8
  enableBit : UInt8
  voltageRail : A7sAxp8191VoltageRail

def a7sDramRails : List A7sAxp8191Rail :=
  [⟨"dcdc6", axp8191Dcdc6Vol, 0x7f, axp8191DcdcCtrl1, 5, .dcdc6⟩,
    ⟨"dcdc7", axp8191Dcdc7Vol, 0x7f, axp8191DcdcCtrl1, 6, .dcdc7⟩,
    ⟨"dcdc8", axp8191Dcdc8Vol, 0x7f, axp8191DcdcCtrl1, 7, .dcdc8⟩,
    ⟨"eldo1", axp8191Eldo1Vol, 0x3f, axp8191LdoCtrl3, 6, .eldo⟩,
    ⟨"eldo2", axp8191Eldo2Vol, 0x3f, axp8191LdoCtrl3, 7, .eldo⟩,
    ⟨"cldo5", axp8191Cldo5Vol, 0x1f, axp8191LdoCtrl2, 7, .cldo⟩]

def a7sAxp8191FindRail (name : String) : Option A7sAxp8191Rail :=
  a7sDramRails.find? fun rail => name == rail.name

/-- The voltage of a rail, where one is asked for. -/
def setRailVoltage (rail : A7sAxp8191Rail) (setVol : ℤ) : BoardM ℤ :=
  if 0 < setVol then
    match a7sAxp8191VoltageSelector rail.voltageRail (UInt32.ofInt setVol) with
    | none => pure (-1)
    | some selector =>
        if selector &&& ~~~rail.voltageMask.toUInt32 ≠ 0 then pure (-1)
        else do
          let status ← a7sAxp8191UpdateBits bus rail.voltageReg rail.voltageMask selector.toUInt8
          if status ≠ 0 then pure (-1) else pure 0
  else pure 0

def a7sAxp8191SetRail (name : String) (setVol onoff : ℤ) : BoardM ℤ :=
  match a7sAxp8191FindRail name with
  | none => pure (-1)
  | some rail => do
      let status ← a7sAxp8191Init bus
      if status ≠ 0 then pure (-1) else
      let status ← setRailVoltage bus rail setVol
      if status ≠ 0 then pure (-1) else
      if onoff < 0 then pure 0 else
      let enable := (1 : UInt8) <<< rail.enableBit
      a7sAxp8191UpdateBits bus rail.enableReg enable (if onoff ≠ 0 then enable else 0)

def sunxiPioBase : ℕ := 0x02000000
def a7sPioBPowerModeSelect : ℕ := sunxiPioBase + 0x40
def a7sPioPcWithstandMask : UInt32 := (3 : UInt32) <<< 4
def a7sPioPcWithstandAuto : UInt32 := (1 : UInt32) <<< 4

/-- A program over the registers of the SoC. -/
def onSoc {α : Type} (m : Io α) : BoardM α := onPart Board.regs (fun r b => { b with regs := r }) m

def a7sPioEmmcWithstandAuto : Io Unit := do
  let before ← readl d a7sPioBPowerModeSelect
  writel (before &&& ~~~a7sPioPcWithstandMask ||| a7sPioPcWithstandAuto) a7sPioBPowerModeSelect
  let _after ← readl d a7sPioBPowerModeSelect

def a7sAxp8191ConfigureEmmcIo : BoardM ℤ := do
  let status ← a7sAxp8191SetRail bus "cldo5" 1800 1
  if status ≠ 0 then pure (-1) else
  let (status, selector) ← pmicBusRead bus axp8191RuntimeAddr axp8191Cldo5Vol
  if status ≠ 0 then pure (-1) else
  let (status, enable) ← pmicBusRead bus axp8191RuntimeAddr axp8191LdoCtrl2
  if status ≠ 0 then pure (-1) else
  if selector &&& 0x1f ≠ 0x0d ∨ enable &&& 0x80 = 0 then pure (-1) else
  onSoc (a7sPioEmmcWithstandAuto d)
  pure 0

def a7sAxp8191SetNpuRail : BoardM ℤ := do
  let status ← a7sAxp8191UpdateBits bus axp8191DcdcCtrl1 0x02 0x02
  if status ≠ 0 then pure (-1) else
  let status ← pmicBusWrite bus axp8191RuntimeAddr axp8191Dcdc2Vol axp8191Dcdc2840mv
  if status ≠ 0 then pure (-1) else
  let (status, value) ← pmicBusRead bus axp8191RuntimeAddr axp8191Dcdc2Vol
  if status ≠ 0 ∨ value &&& 0x7f ≠ axp8191Dcdc2840mv then pure (-1) else pure 0

/-- The SoC setup of the supplied FPGA board object. -/
def preserveSocSetup : Io Unit := do
  let value ← readl d 0x08020000
  writel (value ||| 1) 0x08020000

def sunxiBoardInit : BoardM ℤ := do
  onSoc (preserveSocSetup d)
  let status ← a7sAxp8191Init bus
  if status ≠ 0 then pure (-1) else
  let status ← a7sAxp8191ConfigureEmmcIo d bus
  if status ≠ 0 then pure (-1) else
  let status ← a7sAxp8191SetNpuRail bus
  if status ≠ 0 then pure (-1) else
  a7sAxp8191EnableSdPower bus

def setDdrVoltageExt (name : String) (setVol onoff : ℤ) : BoardM ℤ :=
  a7sAxp8191SetRail bus name setVol onoff

/-- A call of the DRAM library or of boot0. -/
inductive PmicCall
  | sunxiBoardInit
  | setDdrVoltageExt (name : String) (setVol onoff : ℤ)

def PmicCall.run : PmicCall → BoardM ℤ
  | .sunxiBoardInit => Boot.sunxiBoardInit d bus
  | .setDdrVoltageExt name setVol onoff => Boot.setDdrVoltageExt bus name setVol onoff

/-- The calls one after the other. -/
def runCalls : List PmicCall → Board → Board
  | [], b => b
  | c :: cs, b => runCalls cs (c.run d bus b).2

end Driver

/-! ### Page safety -/

/-- The registers of regulators and of the reset control. -/
def IsRegulator (reg : UInt8) : Prop := 0x10 ≤ reg ∧ reg ≤ 0x55

/-- The registers that choose the page and lock it. -/
def IsControl (reg : UInt8) : Prop :=
  reg = axp8191WriteLock ∨ reg = axp8191EfuseCtrl ∨ reg = axp8191ExtAddr

/-- The first transfers of the probe sequence, through the extended page. -/
def unlockTransfers (extCfg : UInt8) : List Transfer :=
  [.write axp8191RuntimeAddr axp8191WriteLock 0x06,
    .write axp8191RuntimeAddr axp8191EfuseCtrl 0x04,
    .write axp8191RuntimeAddr axp8191ExtAddr 0x01,
    .read axp8191RuntimeAddr 0x00,
    .write axp8191RuntimeAddr 0x00 (extCfg ||| 0x40)]

/-- Its last transfers, back to the normal page. -/
def restoreTransfers : List Transfer :=
  [.write axp8191RuntimeAddr axp8191ExtAddr 0x00,
    .write axp8191RuntimeAddr axp8191EfuseCtrl 0x00,
    .write axp8191RuntimeAddr axp8191WriteLock 0x00]

/-- After the transfers `log` those of `ts` were made, and all of these succeeded. -/
def Sent (log : List Issued) (ts : List Transfer) (b : Board) : Prop :=
  ∃ sent, b.log = log ++ sent ∧ sent.map Issued.transfer = ts ∧ ∀ r ∈ sent, r.answer.status = 0

/-- The whole probe sequence is among the transfers, one transfer right after the other and
every one of them successful. -/
def Probed (log : List Issued) : Prop :=
  ∃ extCfg before sent after, log = before ++ sent ++ after ∧
    sent.map Issued.transfer = unlockTransfers extCfg ++ restoreTransfers ∧
    ∀ r ∈ sent, r.answer.status = 0

/-- A transfer that may come after those of `log`. -/
structure Allowed (log : List Issued) (r : Issued) : Prop where
  regulator : ∀ a reg v, r.transfer = .write a reg v → IsRegulator reg → r.pmic = .normal
  extended : ∀ a v, r.transfer = .write a 0x00 v → r.pmic.extAddr = 1
  once : ∀ a reg v, r.transfer = .write a reg v → IsControl reg → r.ready = false
  probed : r.ready = true → Probed log

/-- Every transfer so far was allowed where it stands, and the flag is set only after the
probe sequence. -/
structure PageSafe (b : Board) : Prop where
  transfers : ∀ log r rest, b.log = log ++ r :: rest → Allowed log r
  ready : b.ready = true → Probed b.log

lemma Probed.append {log : List Issued} (h : Probed log) (more : List Issued) :
    Probed (log ++ more) := by
  obtain ⟨extCfg, before, sent, after, rfl, htransfers, hstatus⟩ := h
  exact ⟨extCfg, before, sent, after ++ more, by simp only [List.append_assoc], htransfers,
    hstatus⟩

/-! ### One transfer -/

section Transfers

variable {bus : ℕ → Answer} {t : Transfer} (effect : Axp8191 → Axp8191) {b : Board}

/-- A transfer that is allowed keeps the log safe. -/
lemma PageSafe.issue (h : PageSafe b)
    (hallowed : ∀ answer, Allowed b.log ⟨t, answer, b.pmic, b.ready⟩) :
    PageSafe (Boot.issue bus t effect b).2 where
  transfers log r rest heq := by
    change b.log ++ [_] = _ at heq
    obtain rfl | ⟨rest, last, rfl⟩ := rest.eq_nil_or_concat
    · obtain ⟨rfl, hr⟩ := List.append_inj' heq rfl
      obtain rfl := List.singleton_inj.mp hr
      exact hallowed _
    · rw [List.concat_eq_append, ← List.cons_append, ← List.append_assoc] at heq
      exact h.transfers log r rest (List.append_inj' heq rfl).1
  ready hready := (h.ready hready).append _

/-- A transfer that succeeds is the next one of the sequence. -/
lemma Sent.issue {log : List Issued} {ts : List Transfer} (h : Sent log ts b)
    (hok : (bus b.log.length).status = 0) :
    Sent log (ts ++ [t]) (Boot.issue bus t effect b).2 := by
  obtain ⟨sent, hlog, rfl, hstatus⟩ := h
  refine ⟨sent ++ [⟨t, bus b.log.length, b.pmic, b.ready⟩], ?_, ?_, ?_⟩
  · change b.log ++ _ = _
    rw [hlog, List.append_assoc]
  · rw [List.map_append, List.map_singleton]
  · intro r hr
    rw [List.mem_append, List.mem_singleton] at hr
    obtain hr | rfl := hr
    · exact hstatus r hr
    · exact hok

end Transfers

/-- The flag is not set yet, and the probe sequence has come to `ts`. -/
structure Probing (log : List Issued) (ts : List Transfer) (p : Axp8191) (b : Board) : Prop where
  safe : PageSafe b
  ready : b.ready = false
  sent : Sent log ts b
  pmic : b.pmic = p

/-- The flag is not set, and nothing is known of the page. -/
structure Failed (b : Board) : Prop where
  safe : PageSafe b
  ready : b.ready = false

/-- After a transfer of the probe sequence that returned `status`. -/
def Reached (log : List Issued) (ts : List Transfer) (p : Axp8191) (status : ℤ) (b : Board) :
    Prop :=
  Failed b ∧ (status = 0 → Probing log ts p b)

/-- The probe sequence is complete, and the PMIC is on its normal page. -/
structure Steady (ready : Bool) (b : Board) : Prop where
  safe : PageSafe b
  ready : b.ready = ready
  probed : Probed b.log
  pmic : b.pmic = .normal

/-- What every call finds and leaves. -/
structure Sound (b : Board) : Prop where
  safe : PageSafe b
  pmic : b.ready = true → b.pmic = .normal

lemma Failed.sound {b : Board} (h : Failed b) : Sound b :=
  ⟨h.safe, fun hready => absurd (h.ready.symm.trans hready) Bool.false_ne_true⟩

lemma Steady.sound {r : Bool} {b : Board} (h : Steady r b) : Sound b := ⟨h.safe, fun _ => h.pmic⟩

section Transfers

variable (bus : ℕ → Answer) {log : List Issued} {ts : List Transfer} {p : Axp8191} {r : Bool}

/-- A write of the probe sequence. -/
lemma pmicBusWrite_reached {a reg v : UInt8} (hreg : ¬ IsRegulator reg)
    (hext : reg = 0x00 → p.extAddr = 1) :
    Triple (Reached log ts p 0) (pmicBusWrite bus a reg v)
      (Reached log (ts ++ [.write a reg v]) (p.write reg v)) := by
  intro b hb
  have h := hb.2 rfl
  have hsafe : PageSafe (issue bus (.write a reg v) (fun p => p.write reg v) b).2 := by
    refine h.safe.issue _ fun answer => ⟨?_, ?_, fun _ _ _ _ _ => h.ready, fun hready => ?_⟩
    · rintro a' reg' v' heq hreg'
      obtain ⟨rfl, rfl, rfl⟩ := Transfer.write.inj heq
      exact absurd hreg' hreg
    · rintro a' v' heq
      obtain ⟨rfl, rfl, rfl⟩ := Transfer.write.inj heq
      rw [h.pmic]
      exact hext rfl
    · exact absurd (h.ready.symm.trans hready) Bool.false_ne_true
  refine ⟨⟨hsafe, h.ready⟩, fun hok => ⟨hsafe, h.ready,
    h.sent.issue (fun p => p.write reg v) hok, ?_⟩⟩
  change (if (bus b.log.length).status = 0 ∨ _ then b.pmic.write reg v else b.pmic) = _
  rw [if_pos (.inl hok), h.pmic]

/-- A read or an initialisation is always allowed. -/
lemma PageSafe.issue_other {b : Board} {t : Transfer} (h : PageSafe b)
    (ht : ∀ a reg v, t ≠ .write a reg v) : PageSafe (Boot.issue bus t id b).2 :=
  h.issue id fun _ => ⟨fun a reg v heq => absurd heq (ht a reg v),
    fun a v heq => absurd heq (ht a 0 v), fun a reg v heq => absurd heq (ht a reg v), h.ready⟩

/-- The read of the probe sequence. -/
lemma pmicBusRead_reached {a reg : UInt8} :
    Triple (Reached log ts p 0) (pmicBusRead bus a reg) fun x =>
      Reached log (ts ++ [.read a reg]) p x.1 := by
  intro b hb
  have h := hb.2 rfl
  have hsafe := h.safe.issue_other bus (t := .read a reg) fun _ _ _ => Transfer.noConfusion
  refine ⟨⟨hsafe, h.ready⟩, fun hok => ⟨hsafe, h.ready, h.sent.issue id hok, ?_⟩⟩
  exact (ite_self _).trans h.pmic

lemma pmicBusInit_failed {a : UInt32} {a' : UInt8} :
    Triple Failed (pmicBusInit bus a a') fun _ => Failed :=
  fun _ h => ⟨h.safe.issue_other bus fun _ _ _ => Transfer.noConfusion, h.ready⟩

lemma pmicBusRead_failed {a reg : UInt8} :
    Triple Failed (pmicBusRead bus a reg) fun _ => Failed :=
  fun _ h => ⟨h.safe.issue_other bus fun _ _ _ => Transfer.noConfusion, h.ready⟩

lemma pmicBusRead_steady {a reg : UInt8} :
    Triple (Steady r) (pmicBusRead bus a reg) fun _ => Steady r :=
  fun _ h => ⟨h.safe.issue_other bus fun _ _ _ => Transfer.noConfusion, h.ready, h.probed.append _,
    (ite_self _).trans h.pmic⟩

/-- A regulator is none of the control registers. -/
lemma Axp8191.write_regulator {reg : UInt8} (hreg : IsRegulator reg) (v : UInt8) :
    p.write reg v = p := by
  have hne : ∀ c : UInt8, 0x55 < c → reg ≠ c := by
    rintro c hc rfl
    exact absurd hreg.2 (UInt8.not_le.mpr hc)
  rw [Axp8191.write, if_neg (hne _ (by decide)), if_neg (hne _ (by decide)),
    if_neg (hne _ (by decide))]

lemma IsRegulator.not_control {reg : UInt8} (h : IsRegulator reg) : ¬ IsControl reg := by
  rintro (rfl | rfl | rfl)
  · exact absurd h.2 (by decide)
  · exact absurd h.2 (by decide)
  · exact absurd h.2 (by decide)

/-- A write to a regulator on the normal page. -/
lemma pmicBusWrite_steady {a reg v : UInt8} (hreg : IsRegulator reg) :
    Triple (Steady r) (pmicBusWrite bus a reg v) fun _ => Steady r := by
  intro b h
  have hsafe : PageSafe (issue bus (.write a reg v) (fun p => p.write reg v) b).2 := by
    refine h.safe.issue _ fun answer => ⟨fun _ _ _ _ _ => h.pmic, ?_, ?_, fun _ => h.probed⟩
    · rintro a' v' heq
      obtain ⟨rfl, rfl, rfl⟩ := Transfer.write.inj heq
      exact absurd hreg.1 (by decide)
    · rintro a' reg' v' heq hcontrol
      obtain ⟨rfl, rfl, rfl⟩ := Transfer.write.inj heq
      exact absurd hcontrol hreg.not_control
  refine ⟨hsafe, h.ready, h.probed.append _, ?_⟩
  change (if _ then b.pmic.write reg v else b.pmic) = _
  rw [Axp8191.write_regulator hreg, ite_self, h.pmic]

end Transfers

/-! ### The operations -/

section Operations

variable (d : Device) (bus : ℕ → Answer) {r : Bool}

lemma a7sAxp8191UpdateBits_steady {reg mask value : UInt8} (hreg : IsRegulator reg) :
    Triple (Steady r) (a7sAxp8191UpdateBits bus reg mask value) fun _ => Steady r :=
  (pmicBusRead_steady bus).bind fun _ => .ite (fun _ => .pure fun _ h => h)
    fun _ => pmicBusWrite_steady bus hreg

/-- A write to a control register is never one to a regulator. -/
lemma pmicBusWrite_control {log : List Issued} {ts : List Transfer} {p : Axp8191}
    {a reg v : UInt8} (hreg : IsControl reg) :
    Triple (Reached log ts p 0) (pmicBusWrite bus a reg v)
      (Reached log (ts ++ [.write a reg v]) (p.write reg v)) := by
  refine pmicBusWrite_reached bus (fun h => h.not_control hreg) fun h0 => ?_
  obtain h | h | h := hreg
  · exact absurd (h.symm.trans h0) (by decide)
  · exact absurd (h.symm.trans h0) (by decide)
  · exact absurd (h.symm.trans h0) (by decide)

/-- The probe sequence may start over at any time before the flag is set. -/
lemma Failed.reached {b : Board} (h : Failed b) : Reached b.log [] b.pmic 0 b :=
  ⟨h, fun _ => ⟨h.safe, h.ready, ⟨[], (List.append_nil _).symm, rfl,
    fun _ hr => absurd hr List.not_mem_nil⟩, rfl⟩⟩

/-- The probe sequence, started after some transfers, has come to `ts`, or it has failed. -/
def InProbe {ι : Type} (log : ι → List Issued) (ts : ι → List Transfer) (p : ι → Axp8191)
    (status : ℤ) (b : Board) : Prop :=
  Failed b ∧ (status = 0 → ∃ x, Probing (log x) (ts x) (p x) b)

/-- The way to the extended page. -/
lemma extendedConfiguration_reached {log : List Issued} {p : Axp8191} :
    Triple (Reached log [] p 0) (extendedConfiguration bus)
      (InProbe (fun x : List Issued × UInt8 × Axp8191 => x.1) (fun x => unlockTransfers x.2.1)
        fun x => x.2.2) := by
  -- a status that is not zero is returned as it is
  have hstop : ∀ {ts : List Transfer} {q : Axp8191} (status : ℤ), status ≠ 0 →
      Triple (Reached log ts q status) (pure status)
        (InProbe (fun x : List Issued × UInt8 × Axp8191 => x.1) (fun x => unlockTransfers x.2.1)
          fun x => x.2.2) :=
    fun status hstatus => .pure fun b h => ⟨h.1, fun h0 => absurd h0 hstatus⟩
  refine .checked (pmicBusWrite_control bus (.inl rfl)) hstop ?_
  refine .checked (pmicBusWrite_control bus (.inr (.inl rfl))) hstop ?_
  refine .checked (pmicBusWrite_control bus (.inr (.inr rfl))) hstop ?_
  refine (pmicBusRead_reached bus).bind fun x => .ite (hstop x.1) fun hx => ?_
  rw [not_not.mp hx]
  -- the extended page is chosen by now
  exact .mono (pmicBusWrite_reached bus (fun h => absurd h.1 (by decide)) fun _ => rfl)
    (fun _ h => h) fun status b h => ⟨h.1, fun h0 => ⟨(log, x.2, _), h.2 h0⟩⟩

/-- One write of the restoration: whatever came before, it is made; only if all has gone well
does it continue the sequence. -/
lemma restoreRegister_inProbe {ι : Type} {log : ι → List Issued} {ts : ι → List Transfer}
    {p : ι → Axp8191} {reg : UInt8} (hreg : IsControl reg) (status : ℤ) :
    Triple (InProbe log ts p status) (restoreRegister bus status reg)
      (InProbe log (fun x => ts x ++ [.write axp8191RuntimeAddr reg 0])
        fun x => (p x).write reg 0) := by
  rintro b ⟨hfailed, hprobing⟩
  refine ⟨(pmicBusWrite_control bus hreg b hfailed.reached).1, fun hok => ?_⟩
  obtain ⟨hstatus, hret⟩ : status = 0 ∧ (pmicBusWrite bus axp8191RuntimeAddr reg 0 b).1 = 0 := by
    change (if status = 0 ∧ (pmicBusWrite bus axp8191RuntimeAddr reg 0 b).1 ≠ 0 then
      (pmicBusWrite bus axp8191RuntimeAddr reg 0 b).1 else status) = 0 at hok
    by_cases hret : (pmicBusWrite bus axp8191RuntimeAddr reg 0 b).1 = 0
    · rw [if_neg fun h => h.2 hret] at hok
      exact ⟨hok, hret⟩
    · by_cases hstatus : status = 0
      · rw [if_pos ⟨hstatus, hret⟩] at hok
        exact absurd hok hret
      · rw [if_neg fun h => hstatus h.1] at hok
        exact absurd hok hstatus
  obtain ⟨x, hx⟩ := hprobing hstatus
  exact ⟨x, (pmicBusWrite_control bus hreg b ⟨hfailed, fun _ => hx⟩).2 hret⟩

/-- The way back from the extended page. -/
lemma restoreNormalPage_steady (status : ℤ) :
    Triple (InProbe (fun x : List Issued × UInt8 × Axp8191 => x.1)
        (fun x => unlockTransfers x.2.1) (fun x => x.2.2) status)
      (restoreNormalPage bus status)
      fun status b => Failed b ∧ (status = 0 → Steady false b) := by
  refine .mono ((restoreRegister_inProbe bus (.inr (.inr rfl)) status).bind fun status =>
      (restoreRegister_inProbe bus (.inr (.inl rfl)) status).bind fun status =>
        restoreRegister_inProbe bus (.inl rfl) status)
    (fun b h => h) fun status b h => ⟨h.1, fun h0 => ?_⟩
  obtain ⟨⟨log, extCfg, q⟩, hq⟩ := h.2 h0
  obtain ⟨sent, hlog, hsent, hstatus⟩ := hq.sent
  refine ⟨hq.safe, hq.ready, ⟨extCfg, log, sent, [], ?_, ?_, hstatus⟩, hq.pmic⟩
  · rw [hlog, List.append_nil]
  · rw [hsent]
    simp only [List.append_assoc, List.cons_append, List.nil_append, restoreTransfers]

lemma setReady_steady : Triple (Steady false) setReady fun _ => Steady true :=
  fun _ h => ⟨⟨h.safe.transfers, fun _ => h.probed⟩, rfl, h.probed, h.pmic⟩

/-- `a7s_axp8191_init` when the flag is not set. -/
lemma a7sAxp8191Probe_safe :
    Triple Failed (a7sAxp8191Probe bus) fun status b =>
      Sound b ∧ (status = 0 → Steady true b) := by
  have hstop : ∀ {status : ℤ}, status ≠ 0 → Triple Failed (pure status) fun status b =>
      Sound b ∧ (status = 0 → Steady true b) :=
    fun hstatus => .pure fun b h => ⟨h.sound, fun h0 => absurd h0 hstatus⟩
  refine .checked (pmicBusInit_failed bus) (fun _ _ => hstop (by decide)) ?_
  refine (pmicBusRead_failed bus).bind fun x => .ite (fun _ => hstop (by decide)) fun _ =>
    .ite (fun _ => hstop (by decide)) fun _ => ?_
  refine Triple.bind (fun b h => extendedConfiguration_reached bus b h.reached) fun status => ?_
  refine .checked (restoreNormalPage_steady bus status) ?_ ?_
  · exact fun r hr => .mono (hstop hr) (fun b h => h.1) fun _ _ h => h
  · refine .mono (.checked (a7sAxp8191UpdateBits_steady bus (by constructor <;> decide)) ?_ ?_)
      (fun b h => h.2 rfl) fun _ _ h => h
    · exact fun r hr => .pure fun b h => ⟨h.sound, fun h0 => absurd h0 hr⟩
    · exact fun b h => ⟨(setReady_steady b h).sound, fun _ => setReady_steady b h⟩

/-- The driver is up after an initialisation that succeeds. -/
lemma a7sAxp8191Init_safe :
    Triple Sound (a7sAxp8191Init bus) fun status b => Sound b ∧ (status = 0 → Steady true b) := by
  refine Triple.bind (Q := fun x b => Sound b ∧ x = b) (fun b h => ⟨h, rfl⟩) fun x =>
    .ite (fun hready => .pure ?_) fun hready => ?_
  · rintro b ⟨h, rfl⟩
    exact ⟨h, fun _ => ⟨h.safe, hready, h.safe.ready hready, h.pmic hready⟩⟩
  · refine .mono (a7sAxp8191Probe_safe bus) ?_ fun _ _ h => h
    rintro b ⟨h, rfl⟩
    exact ⟨h.safe, Bool.eq_false_of_not_eq_true hready⟩

/-- The rails of the table are regulators. -/
lemma a7sAxp8191FindRail_regulator {name : String} {rail : A7sAxp8191Rail}
    (h : a7sAxp8191FindRail name = some rail) :
    IsRegulator rail.voltageReg ∧ IsRegulator rail.enableReg := by
  have hmem := List.mem_of_find?_eq_some h
  simp only [a7sDramRails, List.mem_cons, List.not_mem_nil, or_false] at hmem
  obtain rfl | rfl | rfl | rfl | rfl | rfl := hmem
  all_goals exact ⟨⟨by decide, by decide⟩, by decide, by decide⟩

lemma setRailVoltage_steady {rail : A7sAxp8191Rail} (hrail : IsRegulator rail.voltageReg)
    (setVol : ℤ) : Triple (Steady r) (setRailVoltage bus rail setVol) fun _ => Steady r := by
  refine .ite (fun _ => ?_) fun _ => .pure fun _ h => h
  cases a7sAxp8191VoltageSelector rail.voltageRail (UInt32.ofInt setVol) with
  | none => exact .pure fun _ h => h
  | some selector =>
      refine .ite (fun _ => .pure fun _ h => h) fun _ => ?_
      exact .checked (a7sAxp8191UpdateBits_steady bus hrail) (fun _ _ => .pure fun _ h => h)
        (.pure fun _ h => h)

lemma a7sAxp8191SetRail_safe (name : String) (setVol onoff : ℤ) :
    Triple Sound (a7sAxp8191SetRail bus name setVol onoff) fun status b =>
      Sound b ∧ (status = 0 → Steady true b) := by
  rw [a7sAxp8191SetRail]
  cases hrail : a7sAxp8191FindRail name with
  | none => exact .pure fun b h => ⟨h, fun h0 => absurd h0 (by decide)⟩
  | some rail =>
      obtain ⟨hvoltage, henable⟩ := a7sAxp8191FindRail_regulator hrail
      refine .checked (a7sAxp8191Init_safe bus) ?_ ?_
      · exact fun _ _ => .pure fun b h => ⟨h.1, fun h0 => absurd h0 (by decide)⟩
      refine .mono (.checked (setRailVoltage_steady bus hvoltage setVol) (fun _ _ => ?_) ?_)
        (fun b h => h.2 rfl) fun _ b h => ⟨Steady.sound h, fun _ => h⟩
      · exact .pure fun _ h => h
      · exact .ite (fun _ => .pure fun _ h => h) fun _ => a7sAxp8191UpdateBits_steady bus henable

/-- A program over the registers of the SoC is not seen by the PMIC. -/
lemma onSoc_sound {α : Type} (m : Io α) : Triple Sound (onSoc m) fun _ => Sound :=
  .onPart m fun _ _ h => ⟨⟨h.safe.transfers, h.safe.ready⟩, h.pmic⟩

lemma onSoc_steady {α : Type} (m : Io α) : Triple (Steady r) (onSoc m) fun _ => Steady r :=
  .onPart m fun _ _ h => ⟨⟨h.safe.transfers, h.safe.ready⟩, h.ready, h.probed, h.pmic⟩

lemma a7sAxp8191ConfigureEmmcIo_safe :
    Triple Sound (a7sAxp8191ConfigureEmmcIo d bus) fun status b =>
      Sound b ∧ (status = 0 → Steady true b) := by
  refine .checked (a7sAxp8191SetRail_safe bus "cldo5" 1800 1) ?_ ?_
  · exact fun _ _ => .pure fun b h => ⟨h.1, fun h0 => absurd h0 (by decide)⟩
  refine .mono (Q := fun _ => Steady true) ?_ (fun b h => h.2 rfl)
    fun _ b h => ⟨h.sound, fun _ => h⟩
  refine (pmicBusRead_steady bus).bind fun x => .ite (fun _ => .pure fun _ h => h) fun _ => ?_
  refine (pmicBusRead_steady bus).bind fun y => .ite (fun _ => .pure fun _ h => h) fun _ => ?_
  refine .ite (fun _ => .pure fun _ h => h) fun _ => ?_
  exact (onSoc_steady _).bind fun _ => .pure fun _ h => h

lemma a7sAxp8191SetNpuRail_steady :
    Triple (Steady r) (a7sAxp8191SetNpuRail bus) fun _ => Steady r := by
  refine .checked (a7sAxp8191UpdateBits_steady bus ⟨by decide, by decide⟩)
    (fun _ _ => .pure fun _ h => h) ?_
  refine .checked (pmicBusWrite_steady bus ⟨by decide, by decide⟩)
    (fun _ _ => .pure fun _ h => h) ?_
  exact (pmicBusRead_steady bus).bind fun x =>
    .ite (fun _ => .pure fun _ h => h) fun _ => .pure fun _ h => h

lemma sunxiBoardInit_sound : Triple Sound (sunxiBoardInit d bus) fun _ => Sound := by
  refine (onSoc_sound _).bind fun _ => ?_
  refine .checked (a7sAxp8191Init_safe bus) (fun _ _ => .pure fun _ h => h.1) ?_
  refine .mono
    (.checked (a7sAxp8191ConfigureEmmcIo_safe d bus) (fun _ _ => .pure fun _ h => h.1) ?_)
    (fun b h => h.1) fun _ _ h => h
  refine .mono (Q := fun _ => Steady true) ?_ (fun b h => h.2 rfl) fun _ _ h => h.sound
  refine .checked (a7sAxp8191SetNpuRail_steady bus) (fun _ _ => .pure fun _ h => h) ?_
  exact a7sAxp8191UpdateBits_steady bus ⟨by decide, by decide⟩

/-- One call. -/
lemma PmicCall.run_sound (c : PmicCall) : Triple Sound (c.run d bus) fun _ => Sound := by
  cases c with
  | sunxiBoardInit => exact sunxiBoardInit_sound d bus
  | setDdrVoltageExt name setVol onoff =>
      exact .mono (a7sAxp8191SetRail_safe bus name setVol onoff) (fun _ h => h) fun _ _ h => h.1

lemma runCalls_sound (cs : List PmicCall) {b : Board} (h : Sound b) :
    Sound (runCalls d bus cs b) := by
  induction cs generalizing b with
  | nil => exact h
  | cons c cs ih => exact ih (c.run_sound d bus b h)

/-- **Page safety.** Whatever the calls, whatever the PMIC holds at first and however the bus
answers, regulators are only written on the normal page with the lock closed, the extended
register only on the extended page, the flag is set only after a probe sequence of which
every transfer succeeded, and no control register is written after that. -/
theorem runCalls_pageSafe (cs : List PmicCall) (pmic : Axp8191) (regs : Regs) :
    PageSafe (runCalls d bus cs ⟨pmic, false, [], regs⟩) := by
  have hstart : Sound ⟨pmic, false, [], regs⟩ := by
    refine ⟨⟨fun log r rest heq => ?_, fun h => absurd h Bool.false_ne_true⟩,
      fun h => absurd h Bool.false_ne_true⟩
    exact absurd heq.symm (List.append_ne_nil_of_right_ne_nil _ (List.cons_ne_nil r rest))
  exact (runCalls_sound d bus cs hstart).safe

end Operations

end A733Boot.Boot
