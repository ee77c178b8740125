/-
The pins of the ports PL and PM as the firmware sets them, `ar100s/driver/pin/pin.c`, next
to boot0's way of setting the same pins.

* `pinSetMultiSel`, `pinSetPull`, `pinSetDrive`: the code;
* `PinSetting`: a pin of the two ports with a function, a pull and a drive level, with
  `PinSetting.arisc` and `PinSetting.boot0`: the two drivers on it;
* `PinSetting.arisc_word`, `PinSetting.boot0_word`: the fields that each of them sets;
* `fields_apart`: the fields of different pins;
* `SameHardware`: the two drivers change the same bits, which are those of the pin, and no
  setting of another pin interferes;
* `sameHardware_iff` (**two drivers, one hardware**): that is so for the first pin of each
  sixteen, and for no other: the drive level goes to a field of another layout.
-/
import A733Boot.Boot.Gpio

namespace A733Boot.Ar100s.Pin

open Boot.Gpio

/-! ### The code -/

def rPioRegBase : ℕ := 0x07025000

def pinGrpPl : ℕ := 1
def pinGrpPm : ℕ := 2

def pinRegCfg (n i : ℕ) : ℕ := rPioRegBase + (n - 1) * 0x30 + (i >>> 3) * 0x4 + 0x00
def pinRegDlevel (n i : ℕ) : ℕ := rPioRegBase + (n - 1) * 0x30 + (i >>> 3) * 0x4 + 0x14
def pinRegPull (n i : ℕ) : ℕ := rPioRegBase + (n - 1) * 0x30 + (i >>> 4) * 0x4 + 0x24

section Code

variable (d : Device)

def pinSetMultiSel (pinGrp pinNum : ℕ) (multiSel : UInt32) : Io ℤ := do
  updateField d (pinRegCfg pinGrp pinNum)
    ((0xf : UInt32) <<< UInt32.ofNat ((pinNum &&& 0x7) * 4))
    (multiSel <<< UInt32.ofNat ((pinNum &&& 0x7) * 4))
  pure 0

def pinSetPull (pinGrp pinNum : ℕ) (pull : UInt32) : Io ℤ := do
  updateField d (pinRegPull pinGrp pinNum)
    ((0x3 : UInt32) <<< UInt32.ofNat ((pinNum &&& 0xf) * 2))
    (pull <<< UInt32.ofNat ((pinNum &&& 0xf) * 2))
  pure 0

/-- The register has eight pins, the shift is that of sixteen. -/
def pinSetDrive (pinGrp pinNum : ℕ) (drive : UInt32) : Io ℤ := do
  updateField d (pinRegDlevel pinGrp pinNum)
    ((0x3 : UInt32) <<< UInt32.ofNat ((pinNum &&& 0xf) * 2))
    (drive <<< UInt32.ofNat ((pinNum &&& 0xf) * 2))
  pure 0

end Code

/-! ### The two drivers on a pin -/

/-- A pin of the ports PL and PM, with a function, a pull and a drive level. -/
structure PinSetting where
  grp : ℕ
  pin : ℕ
  func : UInt8
  pull : UInt8
  drive : UInt8
  grp_mem : grp = pinGrpPl ∨ grp = pinGrpPm
  pin_lt : pin < 32
  func_lt : func < 16
  pull_lt : pull < 4
  drive_lt : drive < 4

namespace PinSetting

lemma grp_bounds (s : PinSetting) : 1 ≤ s.grp ∧ s.grp ≤ 2 := by
  obtain h | h := s.grp_mem
  · rw [h]
    decide
  · rw [h]
    decide

/-- The firmware sets the pin. -/
def arisc (d : Device) (s : PinSetting) : Io Unit := do
  let _ ← pinSetMultiSel d s.grp s.pin s.func.toUInt32
  let _ ← pinSetPull d s.grp s.pin s.pull.toUInt32
  let _ ← pinSetDrive d s.grp s.pin s.drive.toUInt32

/-- The entry of boot0 for the pin; its port counts from PA. -/
def entry (s : PinSetting) (data : UInt8) : NormalGpioCfg :=
  ⟨UInt8.ofNat (s.grp + 11), UInt8.ofNat s.pin, s.func, s.pull, s.drive, data⟩

/-- boot0 sets the pin. -/
def boot0 (d : Device) (setGpio : ℤ) (data : UInt8) (s : PinSetting) : Io ℤ :=
  a7sBootSetGpioV3 d (some fun _ => s.entry data) 1 setGpio

/-- The pins are different. -/
def Other (s t : PinSetting) : Prop := s.grp ≠ t.grp ∨ s.pin ≠ t.pin

/-- The registers of the pin. -/
def registers (s : PinSetting) : GpioRegisters :=
  ⟨pinRegCfg s.grp s.pin, pinRegPull s.grp s.pin, pinRegDlevel s.grp s.pin,
    rPioRegBase + (s.grp - 1) * 0x30 + 0x10⟩

/-- The field of the function, with the value of the setting. -/
def funcField (s : PinSetting) : FieldWrite :=
  .shifted (pinRegCfg s.grp s.pin) 0xf s.func.toUInt32 ((s.pin &&& 0x7) * 4) (shift_four_lt s.pin)

def pullField (s : PinSetting) : FieldWrite :=
  .shifted (pinRegPull s.grp s.pin) 0x3 s.pull.toUInt32 ((s.pin &&& 0xf) * 2) (shift_two_lt s.pin)

def driveField (s : PinSetting) : FieldWrite :=
  .shifted (pinRegDlevel s.grp s.pin) 0x3 s.drive.toUInt32 ((s.pin &&& 0x7) * 4)
    (shift_four_lt s.pin)

/-- The field that the firmware takes for the drive level. -/
def ariscDriveField (s : PinSetting) : FieldWrite :=
  .shifted (pinRegDlevel s.grp s.pin) 0x3 s.drive.toUInt32 ((s.pin &&& 0xf) * 2)
    (shift_two_lt s.pin)

/-- The fields of the pin, with the values of the setting. -/
def fields (s : PinSetting) : List FieldWrite := [s.funcField, s.pullField, s.driveField]

/-- The fields that the firmware sets: the last one has another position. -/
def ariscFields (s : PinSetting) : List FieldWrite := [s.funcField, s.pullField, s.ariscDriveField]

/-- The bits of the pin in a register. -/
def ownBits (s : PinSetting) (a : ℕ) : UInt32 :=
  (if a = pinRegCfg s.grp s.pin then (0xf : UInt32) <<< UInt32.ofNat ((s.pin &&& 0x7) * 4) else 0)
  ||| (if a = pinRegPull s.grp s.pin then (0x3 : UInt32) <<< UInt32.ofNat ((s.pin &&& 0xf) * 2)
    else 0)
  ||| (if a = pinRegDlevel s.grp s.pin then (0x3 : UInt32) <<< UInt32.ofNat ((s.pin &&& 0x7) * 4)
    else 0)

end PinSetting

/-- The configuration registers of the two ports hold what was written to them. -/
def HoldsPins (d : Device) : Prop :=
  ∀ s : PinSetting, d.live (pinRegCfg s.grp s.pin) = 0 ∧ d.live (pinRegPull s.grp s.pin) = 0 ∧
    d.live (pinRegDlevel s.grp s.pin) = 0

/-! ### What each driver sets -/

section Fields

variable {d : Device} {s t : PinSetting}

lemma toUInt32_and_of_lt {b : UInt8} {m : UInt32} {k : ℕ} (hm : m.toNat = 2 ^ k - 1)
    (hb : b.toNat < 2 ^ k) : b.toUInt32 &&& m = b.toUInt32 := by
  refine UInt32.toNat_inj.mp ?_
  rw [and_toNat hm, UInt8.toNat_toUInt32, Nat.mod_eq_of_lt hb]

/-- The entry addresses the registers of the pin. -/
lemma registers_entry (s : PinSetting) (data : UInt8) :
    a7sGpioRegisters (s.entry data).port.toNat (s.entry data).portNum.toNat = s.registers ∧
    (s.entry data).portNum.toNat = s.pin := by
  have hpin : (UInt8.ofNat s.pin).toNat = s.pin := by
    have := s.pin_lt
    rw [UInt8.toNat_ofNat', Nat.mod_eq_of_lt (by omega)]
  have hgrp := s.grp_bounds
  have hport : (UInt8.ofNat (s.grp + 11)).toNat = s.grp + 11 := by
    rw [UInt8.toNat_ofNat', Nat.mod_eq_of_lt (by omega)]
  have hfirst : a7sRPioFirstPort = 12 := rfl
  refine ⟨?_, hpin⟩
  simp only [PinSetting.entry, hpin, hport, a7sGpioRegisters]
  rw [if_neg (by omega)]
  simp only [PinSetting.registers, pinRegCfg, pinRegPull, pinRegDlevel, GpioRegisters.mk.injEq,
    sunxiRPioBase, rPioRegBase, a7sRPioBankSize, a7sRPioCfgBase, a7sRPioPullBase, a7sRPioDrvBase,
    a7sRPioData, hfirst]
  omega

/-- The firmware sets its fields. -/
lemma PinSetting.arisc_word (hd : HoldsPins d) (s : PinSetting) (r : Regs) :
    (s.arisc d r).2.word = FieldWrite.applyAll s.ariscFields r.word := by
  obtain ⟨hcfg, hpull, hdrv⟩ := hd s
  have hfunc : s.func.toUInt32 &&& 0xf = s.func.toUInt32 :=
    toUInt32_and_of_lt (k := 4) rfl (UInt8.lt_iff_toNat_lt.mp s.func_lt)
  have hpullFit : s.pull.toUInt32 &&& 0x3 = s.pull.toUInt32 :=
    toUInt32_and_of_lt (k := 2) rfl (UInt8.lt_iff_toNat_lt.mp s.pull_lt)
  have hdriveFit : s.drive.toUInt32 &&& 0x3 = s.drive.toUInt32 :=
    toUInt32_and_of_lt (k := 2) rfl (UInt8.lt_iff_toNat_lt.mp s.drive_lt)
  calc (s.arisc d r).2.word
      = (updateField d (pinRegDlevel s.grp s.pin) _ _ (updateField d (pinRegPull s.grp s.pin) _ _
          (updateField d (pinRegCfg s.grp s.pin) _ _ r).2).2).2.word := rfl
    _ = FieldWrite.applyAll s.ariscFields r.word := by
        rw [updateField_shifted hdrv hdriveFit (shift_two_lt s.pin),
          updateField_shifted hpull hpullFit (shift_two_lt s.pin),
          updateField_shifted hcfg hfunc (shift_four_lt s.pin)]
        rfl

/-- boot0 sets the fields of the pin. -/
lemma PinSetting.boot0_word (hd : HoldsPins d) (s : PinSetting) {setGpio : ℤ} (hset : setGpio ≠ 0)
    {data : UInt8} (hdata : ¬ nonneg data) (r : Regs) :
    (s.boot0 d setGpio data r).2.word = FieldWrite.applyAll s.fields r.word := by
  obtain ⟨hregs, hpin⟩ := registers_entry s data
  have hfields : (s.entry data).fields = s.fields := by
    rw [NormalGpioCfg.fields, hregs]
    simp only [hpin]
    rfl
  obtain ⟨hcfg, hpull, hdrv⟩ := hd s
  have hgrp := s.grp_bounds
  have hport : (s.entry data).port ≠ 0 := by
    intro hzero
    have hnat := congrArg UInt8.toNat hzero
    rw [PinSetting.entry, UInt8.toNat_ofNat', Nat.mod_eq_of_lt (by omega)] at hnat
    exact absurd hnat (by rw [UInt8.toNat_zero]; omega)
  have hpullFit : nonneg (s.entry data).pull :=
    UInt8.lt_iff_toNat_lt.mpr (lt_trans (UInt8.lt_iff_toNat_lt.mp s.pull_lt) (by decide))
  have hdriveFit : nonneg (s.entry data).drvLevel :=
    UInt8.lt_iff_toNat_lt.mpr (lt_trans (UInt8.lt_iff_toNat_lt.mp s.drive_lt) (by decide))
  rw [PinSetting.boot0, a7sBootSetGpioV3_one hport hset hpullFit hdriveFit hdata ?_ r, hfields]
  rw [hfields]
  exact List.forall_mem_cons.mpr ⟨hcfg, List.forall_mem_cons.mpr ⟨hpull,
    List.forall_mem_cons.mpr ⟨hdrv, fun f hf => absurd hf List.not_mem_nil⟩⟩⟩

/-! ### Different pins -/

lemma and_seven (pin : ℕ) : pin &&& 0x7 = pin % 8 := Nat.and_two_pow_sub_one_eq_mod pin 3

lemma and_fifteen (pin : ℕ) : pin &&& 0xf = pin % 16 := Nat.and_two_pow_sub_one_eq_mod pin 4

lemma toNat_three : (0x3 : UInt32).toNat = 2 ^ 2 - 1 := rfl

lemma toNat_fifteen : (0xf : UInt32).toNat = 2 ^ 4 - 1 := rfl

/-- The fields of different pins share no bit. -/
lemma fields_apart (h : s.Other t) : ∀ f ∈ s.fields, ∀ g ∈ t.fields, f.Apart g := by
  have hs := s.grp_bounds
  have ht := t.grp_bounds
  have hsp := s.pin_lt
  have htp := t.pin_lt
  rw [PinSetting.Other] at h
  simp only [PinSetting.fields, PinSetting.funcField, PinSetting.pullField, PinSetting.driveField,
    List.forall_mem_cons, List.not_mem_nil, false_implies, implies_true, and_true, pinRegCfg,
    pinRegPull, pinRegDlevel, and_seven, and_fifteen]
  refine ⟨⟨?_, ?_, ?_⟩, ⟨?_, ?_, ?_⟩, ?_, ?_, ?_⟩
  · exact FieldWrite.shifted_apart toNat_fifteen toNat_fifteen (by omega)
  · exact FieldWrite.shifted_apart toNat_fifteen toNat_three (by omega)
  · exact FieldWrite.shifted_apart toNat_fifteen toNat_three (by omega)
  · exact FieldWrite.shifted_apart toNat_three toNat_fifteen (by omega)
  · exact FieldWrite.shifted_apart toNat_three toNat_three (by omega)
  · exact FieldWrite.shifted_apart toNat_three toNat_three (by omega)
  · exact FieldWrite.shifted_apart toNat_three toNat_fifteen (by omega)
  · exact FieldWrite.shifted_apart toNat_three toNat_three (by omega)
  · exact FieldWrite.shifted_apart toNat_three toNat_three (by omega)

/-- For the first pin of each sixteen, the field that the firmware uses is the right one. -/
lemma ariscFields_eq (h : s.pin % 16 = 0) : s.ariscFields = s.fields := by
  have hfour : (s.pin &&& 0x7) * 4 = 0 := by rw [and_seven]; omega
  have htwo : (s.pin &&& 0xf) * 2 = 0 := by rw [and_fifteen, h]
  simp only [PinSetting.ariscFields, PinSetting.fields, PinSetting.driveField,
    PinSetting.ariscDriveField, hfour, htwo]

/-- What the firmware sets for another pin does not touch the first pin of each sixteen. -/
lemma fields_apart_arisc (h : s.Other t) (hpin : s.pin % 16 = 0) :
    ∀ f ∈ s.fields, ∀ g ∈ t.ariscFields, f.Apart g := by
  have hs := s.grp_bounds
  have ht := t.grp_bounds
  have hsp := s.pin_lt
  have htp := t.pin_lt
  intro f hf g hg
  obtain rfl | hg : g = t.ariscDriveField ∨ g ∈ t.fields := by
    simp only [PinSetting.ariscFields, List.mem_cons, List.not_mem_nil, or_false] at hg
    obtain rfl | rfl | rfl := hg
    · exact Or.inr List.mem_cons_self
    · exact Or.inr (List.mem_cons_of_mem _ List.mem_cons_self)
    · exact Or.inl rfl
  · rw [PinSetting.Other] at h
    revert f
    simp only [PinSetting.fields, PinSetting.funcField, PinSetting.pullField, PinSetting.driveField,
      PinSetting.ariscDriveField, List.forall_mem_cons, List.not_mem_nil, false_implies,
      implies_true, and_true, pinRegCfg, pinRegPull, pinRegDlevel, and_seven, and_fifteen]
    refine ⟨?_, ?_, ?_⟩
    · exact FieldWrite.shifted_apart toNat_fifteen toNat_three (by omega)
    · exact FieldWrite.shifted_apart toNat_three toNat_three (by omega)
    · exact FieldWrite.shifted_apart toNat_three toNat_three (by omega)
  · exact fields_apart h f hf g hg

/-- The fields of a pin consist of its bits. -/
lemma fields_ownBits (s : PinSetting) (a : ℕ) :
    ∀ f ∈ s.fields, f.addr = a → f.mask &&& s.ownBits a = f.mask := by
  simp only [PinSetting.fields, PinSetting.funcField, PinSetting.pullField, PinSetting.driveField,
    FieldWrite.shifted, List.forall_mem_cons, List.not_mem_nil, false_implies, implies_true,
    and_true]
  refine ⟨?_, ?_, ?_⟩
  · rintro rfl
    rw [PinSetting.ownBits, if_pos rfl]
    exact within_or_left (within_or_left (UInt32.and_self) _) _
  · rintro rfl
    rw [PinSetting.ownBits, if_pos (rfl : pinRegPull s.grp s.pin = pinRegPull s.grp s.pin)]
    exact within_or_left (within_or_right _ _) _
  · rintro rfl
    rw [PinSetting.ownBits, if_pos (rfl : pinRegDlevel s.grp s.pin = pinRegDlevel s.grp s.pin)]
    exact within_or_right _ _

/-! ### Two drivers, one hardware -/

/-- The register of the drive levels after three fields were set, the last of them there. -/
lemma applyAll_last {f g h : FieldWrite} (hf : f.addr ≠ h.addr) (hg : g.addr ≠ h.addr)
    (w : ℕ → UInt32) :
    FieldWrite.applyAll [f, g, h] w h.addr = w h.addr &&& ~~~h.mask ||| h.value := by
  have hkept : g.apply (f.apply w) h.addr = w h.addr := by
    rw [FieldWrite.apply, Function.update_of_ne hg.symm, FieldWrite.apply,
      Function.update_of_ne hf.symm]
  calc FieldWrite.applyAll [f, g, h] w h.addr
      = h.apply (g.apply (f.apply w)) h.addr := rfl
    _ = w h.addr &&& ~~~h.mask ||| h.value := by rw [FieldWrite.apply, Function.update_self, hkept]

/-- Off the first pin of each sixteen there are contents on which the drivers differ: the
lower bit of the field that the firmware uses is the wrong one before, and boot0 does not
touch it. -/
lemma applyAll_ne (h : s.pin % 16 ≠ 0) :
    ∃ w : ℕ → UInt32, FieldWrite.applyAll s.ariscFields w ≠ FieldWrite.applyAll s.fields w := by
  have hpin := s.pin_lt
  have hgrp := s.grp_bounds
  have hposition : (s.pin &&& 0xf) * 2 < (s.pin &&& 0x7) * 4 ∨
      (s.pin &&& 0x7) * 4 + 2 ≤ (s.pin &&& 0xf) * 2 := by
    rw [and_seven, and_fifteen]
    omega
  have hcfg : pinRegCfg s.grp s.pin ≠ pinRegDlevel s.grp s.pin := by
    simp only [pinRegCfg, pinRegDlevel]
    omega
  have hpull : pinRegPull s.grp s.pin ≠ pinRegDlevel s.grp s.pin := by
    simp only [pinRegPull, pinRegDlevel]
    omega
  have htwo := shift_two_lt s.pin
  refine ⟨fun _ => ~~~(s.drive.toUInt32 <<< UInt32.ofNat ((s.pin &&& 0xf) * 2)), fun heq => ?_⟩
  have hword := congrFun heq (pinRegDlevel s.grp s.pin)
  have harisc := applyAll_last (f := s.funcField) (g := s.pullField) (h := s.ariscDriveField)
    hcfg hpull fun _ => ~~~(s.drive.toUInt32 <<< UInt32.ofNat ((s.pin &&& 0xf) * 2))
  have hboot := applyAll_last (f := s.funcField) (g := s.pullField) (h := s.driveField)
    hcfg hpull fun _ => ~~~(s.drive.toUInt32 <<< UInt32.ofNat ((s.pin &&& 0xf) * 2))
  have hbits := congrArg (bit · ((s.pin &&& 0xf) * 2)) ((harisc.symm.trans hword).trans hboot)
  simp only [PinSetting.ariscDriveField, PinSetting.driveField, FieldWrite.shifted] at hbits
  rw [bit_set_low _ _ (by decide) htwo,
    bit_set_outside _ _ toNat_three (shift_four_lt s.pin) htwo hposition, bit_not _ htwo,
    bit_shiftLeft _ htwo htwo, decide_eq_true (le_refl _), Nat.sub_self, Bool.true_and] at hbits
  exact Bool.not_ne_self _ hbits.symm

variable (d) in
/-- The firmware and boot0 agree on a setting of a pin, on all contents of the registers:
they change the same bits to the same values, and only the bits of the pin; the fields of
other pins stay as they are, and with the settings of other pins, by either driver, the
order does not matter. -/
structure SameHardware (setGpio : ℤ) (data : UInt8) (s : PinSetting) : Prop where
  same : ∀ r, (s.arisc d r).2.word = (s.boot0 d setGpio data r).2.word
  own : ∀ r a, AgreeOff (s.ownBits a) ((s.arisc d r).2.word a) (r.word a)
  undisturbed : ∀ r (t : PinSetting), s.Other t → ∀ g ∈ t.fields,
    (s.arisc d r).2.word g.addr &&& g.mask = r.word g.addr &&& g.mask
  commutes : ∀ r (t : PinSetting), s.Other t →
    (s.arisc d (t.arisc d r).2).2.word = (t.arisc d (s.arisc d r).2).2.word ∧
    (s.arisc d (t.boot0 d setGpio data r).2).2.word
      = (t.boot0 d setGpio data (s.arisc d r).2).2.word ∧
    (s.boot0 d setGpio data (t.boot0 d setGpio data r).2).2.word
      = (t.boot0 d setGpio data (s.boot0 d setGpio data r).2).2.word

/-- **Two drivers, one hardware.** For every pin of the ports PL and PM and every function,
pull and drive level, and an entry of boot0 that sets them and no data: the firmware does
to the registers what boot0 does, on all their contents, exactly when the pin is the first
of sixteen. -/
theorem sameHardware_iff (hd : HoldsPins d) {setGpio : ℤ} (hset : setGpio ≠ 0) {data : UInt8}
    (hdata : ¬ nonneg data) (s : PinSetting) :
    SameHardware d setGpio data s ↔ s.pin % 16 = 0 := by
  constructor
  · intro hsame
    by_contra hpin
    obtain ⟨w, hw⟩ := applyAll_ne hpin
    have hboth := hsame.same ⟨w, 0, []⟩
    rw [s.arisc_word hd, s.boot0_word hd hset hdata] at hboth
    exact hw hboth
  · intro hpin
    have heq := ariscFields_eq hpin
    refine ⟨fun r => ?_, fun r a => ?_, fun r t ht g hg => ?_, fun r t ht => ⟨?_, ?_, ?_⟩⟩
    · rw [s.arisc_word hd, s.boot0_word hd hset hdata, heq]
    · rw [s.arisc_word hd, heq]
      exact FieldWrite.applyAll_agreeOff (fields_ownBits s a) r.word
    · rw [s.arisc_word hd, heq]
      exact FieldWrite.applyAll_keeps (fun f hf => fields_apart ht f hf g hg) r.word
    · simp only [s.arisc_word hd, t.arisc_word hd, heq]
      exact FieldWrite.applyAll_comm (fields_apart_arisc ht hpin) r.word
    · simp only [s.arisc_word hd, t.boot0_word hd hset hdata, heq]
      exact FieldWrite.applyAll_comm (fields_apart ht) r.word
    · simp only [s.boot0_word hd hset hdata, t.boot0_word hd hset hdata]
      exact FieldWrite.applyAll_comm (fields_apart ht) r.word

end Fields

/-- Hardware that leaves the registers alone. -/
def plainPins : Device := ⟨fun _ => 0, fun _ _ => 0⟩

/-- PL0, as an output with the second drive level. -/
def settingPl0 : PinSetting :=
  ⟨1, 0, 1, 0, 1, Or.inl rfl, by decide, by decide, by decide, by decide⟩

/-- PL1, as an output with the second drive level. -/
def settingPl1 : PinSetting :=
  ⟨1, 1, 1, 0, 1, Or.inl rfl, by decide, by decide, by decide, by decide⟩

theorem sameHardware_pl0 : SameHardware plainPins 1 0xff settingPl0 :=
  (sameHardware_iff (fun _ => ⟨rfl, rfl, rfl⟩) (by decide) (by decide) settingPl0).mpr rfl

/-- On PL1 the firmware sets bit 2 of the register of the drive levels, and boot0 bit 4. -/
theorem not_sameHardware_pl1 :
    ((settingPl1.arisc plainPins ⟨fun _ => 0, 0, []⟩).2.word 0x07025014 = 0x4 ∧
      (settingPl1.boot0 plainPins 1 0xff ⟨fun _ => 0, 0, []⟩).2.word 0x07025014 = 0x10) ∧
    ¬ ∀ (d : Device), HoldsPins d → ∀ (setGpio : ℤ), setGpio ≠ 0 → ∀ (data : UInt8),
      ¬ nonneg data → ∀ s : PinSetting, SameHardware d setGpio data s := by
  have harisc : (settingPl1.arisc plainPins ⟨fun _ => 0, 0, []⟩).2.word 0x07025014 = 0x4 := by
    decide
  have hboot :
      (settingPl1.boot0 plainPins 1 0xff ⟨fun _ => 0, 0, []⟩).2.word 0x07025014 = 0x10 := by
    decide
  refine ⟨⟨harisc, hboot⟩, fun hall => ?_⟩
  have hsame := (hall plainPins (fun _ => ⟨rfl, rfl, rfl⟩) 1 (by decide) 0xff (by decide)
    settingPl1).same ⟨fun _ => 0, 0, []⟩
  have hword := congrFun hsame 0x07025014
  rw [harisc, hboot] at hword
  exact absurd hword (by decide)

end A733Boot.Ar100s.Pin
