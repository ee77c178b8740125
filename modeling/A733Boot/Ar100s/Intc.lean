/-
The interrupts of the firmware: the interrupt controller (`ar100s/driver/intc/clic.c`), the
interrupt manager (`ar100s/driver/intc/intc_manager.c`), the mask of the interrupts that wake
the processor (`ar100s/arch/riscv/cpu/e907/e907_com.c`), and the tables that relate the
interrupts of the two processors (`ar100s/arch/riscv/plat-sun60iw2p1/inc/irq_table.h`).

* `Intc`: the registers, and the table of service routines;
* `cpuxIrqMaptoCpus`, `cpusIrqMaptoCpux`: the two searches in `irq_table`;
* `interruptEnable_enabled` and its like: what the operations do to the enable bits;
* `cpusIrqMaptoCpux_of_root` (**the search back**): it finds the root that the search forth
  began with, or the first of those of the USB.
-/
import Mathlib.Logic.Function.Basic
import Mathlib.Data.Bool.AllAny
import A733Boot.Library.Registers
import A733Boot.Ar100s.Error

namespace A733Boot.Ar100s

/-! ### The controller -/

/-- The service routines that the model tells apart; `other` are those of the drivers. -/
inductive Isr
  | isrDefault
  | defaultWakeupHandler
  | other (driver : ℕ)
deriving DecidableEq

/-- The registers `CLIC_INT_IE(n)`, `CLIC_INT_IP(n)`, `E902_WAKEUP_MASK0_REG`,
`E902_WAKEUP_MASK1_REG` and the group registers of `R_INTC`, and `isr_table`. -/
structure Intc where
  intIe : ℕ → UInt8
  intIp : ℕ → UInt8
  wakeupMask0 : UInt32
  wakeupMask1 : UInt32
  group : ℕ → UInt32
  isrTable : ℕ → Isr

namespace Intc

/-- Whether the controller delivers the interrupt. -/
def Enabled (c : Intc) (intno : ℕ) : Prop := c.intIe intno &&& 1 = 1

instance (c : Intc) (intno : ℕ) : Decidable (c.Enabled intno) :=
  inferInstanceAs (Decidable (c.intIe intno &&& 1 = 1))

/-- The interrupt is enabled, and its service routine is that of the wakeup sources. -/
def Armed (c : Intc) (intno : ℕ) : Prop :=
  c.Enabled intno ∧ c.isrTable intno = .defaultWakeupHandler

instance (c : Intc) (intno : ℕ) : Decidable (c.Armed intno) :=
  inferInstanceAs (Decidable (c.Enabled intno ∧ c.isrTable intno = .defaultWakeupHandler))

end Intc

section Code

open Intc

/-- `intc_enable_interrupt`. -/
def interruptEnable (intno : ℕ) : StateM Intc ℤ := fun c =>
  (0, { c with intIe := Function.update c.intIe intno (c.intIe intno ||| 1) })

/-- `intc_disable_interrupt`. -/
def interruptDisable (intno : ℕ) : StateM Intc ℤ := fun c =>
  (0, { c with intIe := Function.update c.intIe intno (c.intIe intno &&& ~~~1) })

/-- `intc_interrupt_clear_pending`. -/
def interruptClearPending (intno : ℕ) : StateM Intc ℤ := fun c =>
  (0, { c with intIp := Function.update c.intIp intno (c.intIp intno &&& ~~~1) })

/-- `intc_set_mask`; `mask` is a number. -/
def interruptSetMask (intno : ℕ) (mask : UInt8) : StateM Intc ℤ := fun c =>
  (0, { c with
    intIe := Function.update c.intIe intno (c.intIe intno &&& ~~~1 ||| ~~~mask &&& 1) })

/-- `intc_set_group_config`. -/
def interruptSetGroupConfig (grpIrqNum : ℕ) (mask : UInt32) : StateM Intc ℤ := fun c =>
  let bitOs := UInt32.ofNat (grpIrqNum % 32)
  let reg := grpIrqNum / 32
  (0, { c with
    group := Function.update c.group reg
      (c.group reg &&& ~~~(1 <<< bitOs) ||| (mask &&& 1) <<< bitOs) })

def mask0StartInterrupt : ℕ := 16
def mask1StartInterrupt : ℕ := 48

def interrputArchSetMask (intno : ℕ) (state : Bool) : StateM Intc Unit := fun c =>
  let bit1 := 1 <<< UInt32.ofNat (intno - mask1StartInterrupt)
  let bit0 := 1 <<< UInt32.ofNat (intno - mask0StartInterrupt)
  if intno / (mask1StartInterrupt - 1) ≠ 0 then
    ((), { c with
      wakeupMask1 := if state then c.wakeupMask1 ||| bit1 else c.wakeupMask1 &&& ~~~bit1 })
  else
    ((), { c with
      wakeupMask0 := if state then c.wakeupMask0 ||| bit0 else c.wakeupMask0 &&& ~~~bit0 })

def installIsr (intno : ℕ) (pisr : Isr) : StateM Intc ℤ := fun c =>
  (0, { c with isrTable := Function.update c.isrTable intno pisr })

def uninstallIsr (intno : ℕ) (pisr : Isr) : StateM Intc ℤ := fun c =>
  if c.isrTable intno = pisr then
    (0, { c with isrTable := Function.update c.isrTable intno .isrDefault })
  else (-eFail, c)

end Code

/-! ### What the operations do -/

section Spec

open Intc

variable {c : Intc} {intno k : ℕ}

/-- The bit of a byte that was set, and one that was cleared. -/
lemma byte_bit (b : UInt8) :
    (b ||| 1) &&& 1 = 1 ∧ (b &&& ~~~1) &&& 1 = 0 ∧ (b &&& ~~~1 ||| ~~~0 &&& 1) &&& 1 = 1 ∧
    (b &&& ~~~1 ||| ~~~1 &&& 1) &&& 1 = 0 := by
  obtain ⟨b⟩ := b
  revert b
  decide

/-- A byte that sets the bit enables the interrupt. -/
lemma enabled_update_one {byte : UInt8} (h : byte &&& 1 = 1) :
    Enabled { c with intIe := Function.update c.intIe intno byte } k ↔
      k = intno ∨ c.Enabled k := by
  by_cases hk : k = intno
  · simp only [Enabled, hk, Function.update_self, h, true_or]
  · simp only [Enabled, Function.update_of_ne hk, hk, false_or]

/-- A byte that clears the bit disables it. -/
lemma enabled_update_zero {byte : UInt8} (h : byte &&& 1 = 0) :
    Enabled { c with intIe := Function.update c.intIe intno byte } k ↔
      k ≠ intno ∧ c.Enabled k := by
  by_cases hk : k = intno
  · simp only [Enabled, hk, Function.update_self, h, ne_eq, not_true_eq_false, false_and,
      iff_false]
    decide
  · simp only [Enabled, Function.update_of_ne hk, ne_eq, hk, not_false_eq_true, true_and]

@[simp] lemma interruptEnable_fst : (interruptEnable intno c).1 = 0 := rfl

@[simp] lemma interruptDisable_fst : (interruptDisable intno c).1 = 0 := rfl

@[simp] lemma interruptClearPending_fst : (interruptClearPending intno c).1 = 0 := rfl

@[simp] lemma interruptSetMask_fst {mask : UInt8} : (interruptSetMask intno mask c).1 = 0 := rfl

@[simp] lemma installIsr_fst {pisr : Isr} : (installIsr intno pisr c).1 = 0 := rfl

@[simp] lemma interruptEnable_isrTable :
    (interruptEnable intno c).2.isrTable = c.isrTable := rfl

@[simp] lemma interruptDisable_isrTable :
    (interruptDisable intno c).2.isrTable = c.isrTable := rfl

@[simp] lemma interruptClearPending_isrTable :
    (interruptClearPending intno c).2.isrTable = c.isrTable := rfl

@[simp] lemma interruptSetMask_isrTable (mask : UInt8) :
    (interruptSetMask intno mask c).2.isrTable = c.isrTable := rfl

@[simp] lemma installIsr_isrTable (pisr : Isr) :
    (installIsr intno pisr c).2.isrTable = Function.update c.isrTable intno pisr := rfl

/-- The mask of the processor is neither an enable bit nor a service routine. -/
@[simp] lemma interrputArchSetMask_isrTable (state : Bool) :
    (interrputArchSetMask intno state c).2.isrTable = c.isrTable := by
  rw [interrputArchSetMask]
  split_ifs <;> rfl

@[simp] lemma interrputArchSetMask_enabled (state : Bool) :
    (interrputArchSetMask intno state c).2.Enabled k ↔ c.Enabled k := by
  rw [interrputArchSetMask]
  split_ifs <;> rfl

@[simp] lemma interruptClearPending_enabled :
    (interruptClearPending intno c).2.Enabled k ↔ c.Enabled k := Iff.rfl

@[simp] lemma installIsr_enabled (pisr : Isr) :
    (installIsr intno pisr c).2.Enabled k ↔ c.Enabled k := Iff.rfl

@[simp] lemma uninstallIsr_enabled (pisr : Isr) :
    (uninstallIsr intno pisr c).2.Enabled k ↔ c.Enabled k := by
  rw [uninstallIsr]
  split_ifs <;> rfl

@[simp] lemma interruptEnable_enabled :
    (interruptEnable intno c).2.Enabled k ↔ k = intno ∨ c.Enabled k :=
  enabled_update_one (byte_bit _).1

@[simp] lemma interruptDisable_enabled :
    (interruptDisable intno c).2.Enabled k ↔ k ≠ intno ∧ c.Enabled k :=
  enabled_update_zero (byte_bit _).2.1

@[simp] lemma interruptSetMask_zero_enabled :
    (interruptSetMask intno 0 c).2.Enabled k ↔ k = intno ∨ c.Enabled k :=
  enabled_update_one (byte_bit _).2.2.1

@[simp] lemma interruptSetMask_one_enabled :
    (interruptSetMask intno 1 c).2.Enabled k ↔ k ≠ intno ∧ c.Enabled k :=
  enabled_update_zero (byte_bit _).2.2.2

end Spec

/-! ### The tables -/

/-- `irq_table`: an interrupt of the firmware's processor, and one of the GIC behind it. -/
def irqTable : List (UInt32 × UInt32) :=
  [(16, 189), (16, 190), (16, 191), (16, 192), (24, 228), (25, 229), (26, 230), (27, 231),
    (28, 232), (34, 238)]

def gicSrcSpi : UInt32 := 32

/-- `grp_irq_table`. -/
def grpIrqTable : List (UInt32 × UInt32) := [(0, 0)]

def cpusIrqMaptoCpux (intno : UInt32) : ℤ :=
  match irqTable.find? fun e => e.1 = intno with
  | some e => (e.2 - gicSrcSpi).toNat
  | none => fail

def cpuxIrqMaptoCpus (intno : UInt32) : ℤ :=
  match irqTable.find? fun e => e.2 = intno + gicSrcSpi with
  | some e => e.1.toNat
  | none => fail

def cpuxIrqMaptoCpusGrp (intno : UInt32) : ℤ :=
  match grpIrqTable.find? fun e => e.1 = intno + gicSrcSpi with
  | some e => e.2.toNat
  | none => fail

/-- A root is unknown, or the root of one entry. -/
lemma cpuxIrqMaptoCpus_cases (r : UInt32) :
    cpuxIrqMaptoCpus r = fail ∨
      ∃ e ∈ irqTable, r = e.2 - gicSrcSpi ∧ cpuxIrqMaptoCpus r = e.1.toNat := by
  rw [cpuxIrqMaptoCpus]
  cases hfind : irqTable.find? fun e => e.2 = r + gicSrcSpi with
  | none => exact .inl rfl
  | some e =>
      have hroot : e.2 = r + gicSrcSpi := by simpa using List.find?_some hfind
      refine .inr ⟨e, List.mem_of_find?_eq_some hfind, ?_, rfl⟩
      rw [hroot, UInt32.add_sub_cancel]

/-- What is recorded for an interrupt is never `NO_WAKESOURCE`. -/
lemma cpusIrqMaptoCpux_ne_zero (intno : UInt32) :
    UInt32.ofInt (cpusIrqMaptoCpux intno) ≠ 0 := by
  have htable : ∀ e ∈ irqTable, UInt32.ofInt ((e.2 - gicSrcSpi).toNat : ℤ) ≠ 0 :=
    List.all_iff_forall_prop.mp (by decide)
  rw [cpusIrqMaptoCpux]
  cases hfind : irqTable.find? fun e => e.1 = intno with
  | none => decide
  | some e => exact htable e (List.mem_of_find?_eq_some hfind)

/-- `INTC_R_USB_IRQ`, the one interrupt with several roots. -/
def intcRUsbIrq : ℕ := 16

/-- The first root of the USB, of `GIC_USB0_EHCI_IRQ`. -/
def usb0EhciRoot : UInt32 := 157

/-- The roots of the USB that come after the first, of `GIC_USB0_OHCI_IRQ`,
`GIC_USB1_EHCI_IRQ` and `GIC_USB1_OHCI_IRQ`. -/
def usbLaterRoots : List UInt32 := [158, 159, 160]

lemma usbLaterRoots_line :
    ∀ r ∈ usbLaterRoots, cpuxIrqMaptoCpus r = intcRUsbIrq ∧ r ≠ usb0EhciRoot :=
  List.all_iff_forall_prop.mp (by decide)

/-- An entry is the only one of its interrupt, or one of the USB. -/
lemma irqTable_entry : ∀ e ∈ irqTable,
    (e.1.toNat ≠ intcRUsbIrq ∧ UInt32.ofInt (cpusIrqMaptoCpux e.1) = e.2 - gicSrcSpi) ∨
    (e.1.toNat = intcRUsbIrq ∧ UInt32.ofInt (cpusIrqMaptoCpux e.1) = usb0EhciRoot ∧
      (e.2 - gicSrcSpi = usb0EhciRoot ∨ e.2 - gicSrcSpi ∈ usbLaterRoots)) :=
  List.all_iff_forall_prop.mp (by decide)

/-- **The search back**: the root that is found for the interrupt of `r` is `r`, or `r` is a
root of the USB and the first of them is found. -/
lemma cpusIrqMaptoCpux_of_root {r : UInt32} {intno : ℕ} (h : cpuxIrqMaptoCpus r = intno) :
    (intno ≠ intcRUsbIrq ∧ UInt32.ofInt (cpusIrqMaptoCpux (UInt32.ofNat intno)) = r) ∨
    (intno = intcRUsbIrq ∧
      UInt32.ofInt (cpusIrqMaptoCpux (UInt32.ofNat intno)) = usb0EhciRoot ∧
      (r = usb0EhciRoot ∨ r ∈ usbLaterRoots)) := by
  rcases cpuxIrqMaptoCpus_cases r with hfail | ⟨e, he, hroot, hline⟩
  · rw [hfail] at h
    exact absurd h (by simp only [fail]; omega)
  · have hintno : intno = e.1.toNat := by
      rw [hline] at h
      exact_mod_cast h.symm
    rw [hintno, UInt32.ofNat_toNat, hroot]
    exact irqTable_entry e he

end A733Boot.Ar100s
