/-
The frequencies of the system clocks: `ccu_get_sclk_freq`, and `iosc_freq_init`, which measures
the internal oscillator against the crystal once.

* `Oscillators`: the two frequencies that the firmware keeps, with the flag of the calibration;
* `ccuGetSclkFreq`: the frequency behind the selector of a clock;
* `measure`, `calibrate`, `ioscFreqInit`: the two phases of the measurement, between which the
  source of the CPUS clock changes, and what the code makes of their lengths;
* `measure_restores`: the configuration of the CPUS clock comes back;
* `calibrate_exact_iff`: when the frequencies are those of the lengths of the phases;
* **`ioscFreqInit_sound_iff`**: a call does what is promised exactly when the clock is
  calibrated, the sample is rejected, or the product that has no guard fits a word and the
  bits that the code drops of the lengths do not change the quotient.
-/
import A733Boot.Ar100s.Counter
import A733Boot.Ar100s.Standby.Clocks

namespace A733Boot.Ar100s.Ccu

open Fueled Counter

/-! ### The code -/

def cpusCfgReg : ℕ := Standby.rPrcmRegBase + 0x000
def apbs1CfgReg : ℕ := Standby.apbs1CfgReg

def cpusClkSrcSelMask : UInt32 := (0x7 : UInt32) <<< 24
def cpusClkSrcSel (n : UInt32) : UInt32 := n <<< 24

def ccuDcxoFreq : UInt32 := 26000000
def ccuSysClk24MFreq : UInt32 := 24000000
def ccuCpusPll0Freq : UInt32 := 200000000
def ccuCpusPerio300MFreq : UInt32 := 300000000
def ccuApbs2Pll0Freq : UInt32 := 200000000

/-- The variables `iosc_freq`, `losc_freq` and `already_init_osc_freq`. -/
structure Oscillators where
  ioscFreq : UInt32
  loscFreq : UInt32
  alreadyInitOscFreq : UInt32
  deriving DecidableEq

def initialOscillators : Oscillators := ⟨16000000, 32768, 0⟩

/-- The system clocks that have a frequency. -/
inductive SysClk where
  | cpus
  | apbs2
  | other
  deriving DecidableEq

/-- The source that the upper byte of the configuration of the APBS1 clock selects. -/
def apbs2Freq (osc : Oscillators) (cfg : UInt32) : UInt32 :=
  match (cfg >>> 24).toNat with
  | 0 => ccuDcxoFreq
  | 1 => osc.loscFreq
  | 2 => osc.ioscFreq
  | 3 => ccuApbs2Pll0Freq
  | 4 => ccuSysClk24MFreq
  | _ => 0

/-- The source that the upper byte of the configuration of the CPUS clock selects. -/
def cpusFreq (osc : Oscillators) (cfg : UInt32) : UInt32 :=
  match (cfg >>> 24).toNat with
  | 0 => ccuDcxoFreq
  | 1 => osc.loscFreq
  | 2 => osc.ioscFreq
  | 3 => ccuCpusPll0Freq
  | 4 => ccuCpusPerio300MFreq
  | _ => 0

/-- The result is a signed word in the source, which its callers take as unsigned again. -/
def ccuGetSclkFreq (d : Device) (osc : Oscillators) : SysClk → Io UInt32
  | .cpus => do
    let cfg ← readl d cpusCfgReg
    pure (cpusFreq osc cfg)
  | .apbs2 => do
    let cfg ← readl d apbs1CfgReg
    pure (apbs2Freq osc cfg)
  | .other => pure 0

/-- The two samples of the counter in a phase of the measurement. -/
structure Phase where
  cnt1 : UInt64
  cnt2 : UInt64

/-- The length of a phase in milliseconds, as the code computes it. -/
def Phase.ms (p : Phase) : UInt32 := ((p.cnt2 - p.cnt1) &&& 0xffffffff).toUInt32 / 24000

/-- The length of a phase in milliseconds: the ticks between its samples, 24000 to each. -/
def Phase.length (p : Phase) : ℕ := (p.cnt2 - p.cnt1).toNat / 24000

section Code

variable (d : Device) (fuel : ℕ)

/-- Replace the selector of the CPUS clock. -/
def selectCpus (sel : UInt32) : Io Unit := do
  let cfg ← readl d cpusCfgReg
  writel (cfg &&& ~~~cpusClkSrcSelMask ||| sel) cpusCfgReg

/-- The two samples around `time_cdelay`, which is time that passes between reads. -/
def phase : Fueled Phase := do
  let cnt1 ← cpucfgCounterRead d fuel
  let cnt2 ← cpucfgCounterRead d fuel
  pure ⟨cnt1, cnt2⟩

/-- The phase on the crystal and the phase on the internal oscillator. -/
def measure : Fueled (Phase × Phase) := do
  let cfg ← readl d cpusCfgReg
  let cpusSrc := cfg &&& cpusClkSrcSelMask
  selectCpus d (cpusClkSrcSel 0)
  let hosc ← phase d fuel
  selectCpus d (cpusClkSrcSel 2)
  let iosc ← phase d fuel
  selectCpus d cpusSrc
  pure (hosc, iosc)

/-- The sample is rejected: a phase without length, or a first product that does not fit. -/
def rejected (ht xt : UInt32) : Bool :=
  ht = 0 || xt = 0 || ht > 0xffffffff / (ccuDcxoFreq / 1000)

/-- What the code makes of the lengths of the two phases. -/
def calibrate (osc : Oscillators) (ht xt : UInt32) : Oscillators :=
  if rejected ht xt then osc
  else
    let xf := ccuDcxoFreq / 1000 * ht / xt
    let ioscFreq := xf * 1000
    ⟨ioscFreq, ioscFreq / 512, 1⟩

def ioscFreqInit (osc : Oscillators) : Fueled Oscillators := do
  if osc.alreadyInitOscFreq = 0 then
    let (hosc, iosc) ← measure d fuel
    pure (calibrate osc hosc.ms iosc.ms)
  else pure osc

end Code

/-! ### The registers -/

section Registers

variable {d : Device} (hplain : d.live cpusCfgReg = 0) {fuel : ℕ}

include hplain in
lemma selectCpus_word (sel : UInt32) (s : Regs) : (selectCpus d sel s).2.word cpusCfgReg =
    s.word cpusCfgReg &&& ~~~cpusClkSrcSelMask ||| sel := by
  rw [selectCpus, bind_apply, writel_word, Function.update_self, readl_fst, d.view_plain hplain]

lemma phase_silent (d : Device) (fuel : ℕ) : Silent (phase d fuel) :=
  .bind (cpucfgCounterRead_silent d fuel) fun _ =>
    .bind (cpucfgCounterRead_silent d fuel) fun _ => .pure _

include hplain in
/-- The measurement puts the selector back that it found. -/
lemma measure_restores {s s' : Regs} {p : Phase × Phase} (h : measure d fuel s = some (p, s')) :
    s'.word cpusCfgReg = s.word cpusCfgReg := by
  rw [measure, lift_bind, lift_bind] at h
  obtain ⟨hosc, s₁, h₁, h⟩ := bind_eq_some.mp h
  rw [lift_bind] at h
  obtain ⟨iosc, s₂, h₂, h⟩ := bind_eq_some.mp h
  rw [lift_bind] at h
  obtain ⟨-, rfl⟩ := Prod.mk.inj (Option.some.inj h)
  -- clearing the selector forgets what each of the two phases had selected
  have hclear : ∀ w sel : UInt32, sel &&& cpusClkSrcSelMask = sel →
      AgreeOff cpusClkSrcSelMask (w &&& ~~~cpusClkSrcSelMask ||| sel) w := fun w sel hsel =>
    (AgreeOff.or hsel _).trans (AgreeOff.and_not (UInt32.and_self) w)
  rw [selectCpus_word hplain, phase_silent d fuel _ _ _ h₂, selectCpus_word hplain,
    phase_silent d fuel _ _ _ h₁, selectCpus_word hplain, readl_word, hclear _ _ (by decide),
    hclear _ _ (by decide), readl_fst, d.view_plain hplain]
  refine eq_of_bit fun i hi => ?_
  rw [bit_or, bit_and, bit_and, bit_not _ hi]
  cases bit (s.word cpusCfgReg) i <;> cases bit cpusClkSrcSelMask i <;> rfl

end Registers

/-! ### The arithmetic -/

/-- The frequency in kilohertz that the lengths of the phases give. -/
def khz (ht xt : ℕ) : ℕ := ccuDcxoFreq.toNat / 1000 * ht / xt

/-- Neither product of the code wraps, and the frequencies are those of the lengths of the
phases, as integers. -/
structure Calibrated (hosc iosc : Phase) (osc : Oscillators) : Prop where
  first : ccuDcxoFreq.toNat / 1000 * hosc.ms.toNat < 2 ^ 32
  second : khz hosc.ms.toNat iosc.ms.toNat * 1000 < 2 ^ 32
  iosc : osc.ioscFreq.toNat = 1000 * khz hosc.length iosc.length
  losc : osc.loscFreq.toNat = osc.ioscFreq.toNat / 512
  done : osc.alreadyInitOscFreq = 1

lemma rejected_eq_false {ht xt : UInt32} (h : ¬ rejected ht xt = true) :
    0 < ht.toNat ∧ 0 < xt.toNat ∧ ht.toNat ≤ 165191 := by
  simp only [rejected, Bool.or_eq_true, decide_eq_true_eq, not_or] at h
  obtain ⟨⟨hht, hxt⟩, hle⟩ := h
  refine ⟨?_, ?_, ?_⟩
  · exact Nat.pos_of_ne_zero fun h0 => hht (UInt32.toNat_inj.mp h0)
  · exact Nat.pos_of_ne_zero fun h0 => hxt (UInt32.toNat_inj.mp h0)
  · exact UInt32.le_iff_toNat_le.mp (UInt32.not_lt.mp hle)

/-- The guard is enough for the first product, and so for the quotient. -/
lemma xf_toNat {ht xt : UInt32} (h : ¬ rejected ht xt = true) :
    (ccuDcxoFreq / 1000 * ht / xt).toNat = khz ht.toNat xt.toNat := by
  obtain ⟨-, -, hle⟩ := rejected_eq_false h
  rw [UInt32.toNat_div, UInt32.toNat_mul, show (ccuDcxoFreq / 1000).toNat = 26000 from by decide,
    Nat.mod_eq_of_lt (by omega), khz, show ccuDcxoFreq.toNat / 1000 = 26000 from by decide]

/-- The frequencies of a sample that is not rejected are exact if and only if the second
product fits a word as well and the lengths that the code takes give the quotient of the
lengths themselves. -/
lemma calibrate_exact_iff (osc : Oscillators) {hosc iosc : Phase}
    (h : ¬ rejected hosc.ms iosc.ms = true) :
    Calibrated hosc iosc (calibrate osc hosc.ms iosc.ms) ↔
      khz hosc.ms.toNat iosc.ms.toNat ≤ 4294967 ∧
      khz hosc.ms.toNat iosc.ms.toNat = khz hosc.length iosc.length := by
  obtain ⟨-, -, hle⟩ := rejected_eq_false h
  have hiosc : (calibrate osc hosc.ms iosc.ms).ioscFreq.toNat =
      khz hosc.ms.toNat iosc.ms.toNat * 1000 % 2 ^ 32 := by
    rw [calibrate, if_neg h, UInt32.toNat_mul, xf_toNat h]
    rfl
  constructor
  · intro hcal
    have hfits := hcal.second
    have heq := hcal.iosc
    rw [hiosc, Nat.mod_eq_of_lt hfits] at heq
    exact ⟨by omega, by omega⟩
  · rintro ⟨hfits, hsame⟩
    refine ⟨?_, by omega, ?_, ?_, ?_⟩
    · rw [show ccuDcxoFreq.toNat / 1000 = 26000 from by decide]
      omega
    · rw [hiosc, Nat.mod_eq_of_lt (by omega), hsame, Nat.mul_comm]
    · rw [calibrate, if_neg h, UInt32.toNat_div]
      rfl
    · rw [calibrate, if_neg h]

/-- A phase of less than `2 ^ 32` ticks has the length that the code computes. -/
lemma Phase.ms_toNat {p : Phase} (h : (p.cnt2 - p.cnt1).toNat < 2 ^ 32) :
    p.ms.toNat = p.length := by
  rw [ms, length, UInt32.toNat_div, UInt64.toNat_toUInt32, UInt64.toNat_and,
    show UInt64.toNat 0xffffffff = 2 ^ 32 - 1 from rfl, Nat.and_two_pow_sub_one_eq_mod,
    Nat.mod_mod, Nat.mod_eq_of_lt h]
  rfl

/-! ### Calls -/

/-- What is promised of a call that found the samples of two phases. -/
structure Sound (d : Device) (hosc iosc : Phase) (osc osc' : Oscillators) (s s' : Regs) :
    Prop where
  exact : osc' = osc ∨ Calibrated hosc iosc osc'
  restored : s'.word cpusCfgReg = s.word cpusCfgReg
  once : osc'.alreadyInitOscFreq ≠ 0 → ∀ fuel s, ioscFreqInit d fuel osc' s = some (osc', s)

lemma ioscFreqInit_again (d : Device) {osc : Oscillators} (h : osc.alreadyInitOscFreq ≠ 0)
    (fuel : ℕ) (s : Regs) : ioscFreqInit d fuel osc s = some (osc, s) := by
  rw [ioscFreqInit, if_neg h]
  rfl

/-- **The calibration of the internal oscillator.** The samples of a call that does what is
promised are: any, if the clock is calibrated; those that are rejected; and those whose
frequency in hertz, of the lengths that the code computes, fits a word and is the one of the
lengths themselves. A phase below `2 ^ 32` ticks has the length that the code computes. -/
theorem ioscFreqInit_sound_iff {d : Device} (hplain : d.live cpusCfgReg = 0) {fuel : ℕ}
    {osc osc' : Oscillators} {s s' : Regs} (hrun : ioscFreqInit d fuel osc s = some (osc', s')) :
    ∃ hosc iosc : Phase,
      (osc.alreadyInitOscFreq = 0 → measure d fuel s = some ((hosc, iosc), s')) ∧
      (Sound d hosc iosc osc osc' s s' ↔ osc.alreadyInitOscFreq ≠ 0 ∨
        rejected hosc.ms iosc.ms = true ∨
        (khz hosc.ms.toNat iosc.ms.toNat ≤ 4294967 ∧
          khz hosc.ms.toNat iosc.ms.toNat = khz hosc.length iosc.length)) ∧
      ∀ p ∈ [hosc, iosc], (p.cnt2 - p.cnt1).toNat < 2 ^ 32 → p.ms.toNat = p.length := by
  have honce : ∀ osc : Oscillators, osc.alreadyInitOscFreq ≠ 0 → ∀ fuel s,
      ioscFreqInit d fuel osc s = some (osc, s) := fun osc h => ioscFreqInit_again d h
  by_cases hflag : osc.alreadyInitOscFreq = 0
  · rw [ioscFreqInit, if_pos hflag] at hrun
    obtain ⟨⟨hosc, iosc⟩, s₁, hmeasure, hpure⟩ := bind_eq_some.mp hrun
    obtain ⟨rfl, rfl⟩ := Prod.mk.inj (Option.some.inj hpure)
    refine ⟨hosc, iosc, fun _ => hmeasure, ?_, fun p _ => Phase.ms_toNat⟩
    have hrestored := measure_restores hplain hmeasure
    by_cases hrej : rejected hosc.ms iosc.ms = true
    · have hkept : calibrate osc hosc.ms iosc.ms = osc := if_pos hrej
      exact iff_of_true ⟨Or.inl hkept, hrestored, honce _⟩ (Or.inr (Or.inl hrej))
    · have hchanged : calibrate osc hosc.ms iosc.ms ≠ osc := by
        intro heq
        have hdone := congrArg Oscillators.alreadyInitOscFreq heq
        rw [calibrate, if_neg hrej, hflag] at hdone
        exact absurd hdone (show (1 : UInt32) ≠ 0 by decide)
      have hexact := calibrate_exact_iff osc hrej
      constructor
      · intro hsound
        exact Or.inr (Or.inr (hexact.mp (hsound.exact.resolve_left hchanged)))
      · rintro (h | h | h)
        · exact absurd hflag h
        · exact absurd h hrej
        · exact ⟨Or.inr (hexact.mpr h), hrestored, honce _⟩
  · rw [honce osc hflag] at hrun
    obtain ⟨rfl, rfl⟩ := Prod.mk.inj (Option.some.inj hrun)
    refine ⟨⟨0, 0⟩, ⟨0, 0⟩, fun h => absurd h hflag, ?_, fun p _ => Phase.ms_toNat⟩
    exact iff_of_true ⟨Or.inl rfl, rfl, honce _⟩ (Or.inl hflag)

/-! ### Samples -/

/-- The samples of a counter that stands still while it is read. -/
lemma phase_still {d : Device} {counter : ℕ → ℕ} (h : Counts d counter) {s : Regs}
    (h₁ : counter (s.reads + 3) = counter s.reads)
    (h₂ : counter (s.reads + 4 + 3) = counter (s.reads + 4)) (fuel : ℕ) :
    phase d (fuel + 1) s = some (⟨UInt64.ofNat (counter s.reads),
      UInt64.ofNat (counter (s.reads + 4))⟩, after s 8) := by
  rw [phase, bind_of_some _ (cpucfgCounterRead_still h h₁ fuel),
    bind_of_some _ (cpucfgCounterRead_still h (s := after s 4) h₂ fuel)]
  rfl

/-- The ticks of a counter that is read by a call from the first read on: `ht` milliseconds go
by between the samples of the first phase, and `xt` between those of the second. -/
def phases (ht xt n : ℕ) : ℕ :=
  if n < 6 then 0 else if n < 15 then 24000 * ht else 24000 * (ht + xt)

/-- The state before a call, with the source of the CPUS clock at the crystal. -/
def fresh : Regs := ⟨fun _ => 0, 0, []⟩

lemma measure_phases {ht xt : ℕ} (hlt : 24000 * (ht + xt) < 2 ^ 64) :
    ∃ s', measure (counterDevice (phases ht xt)) 1 fresh
      = some ((⟨0, UInt64.ofNat (24000 * ht)⟩,
          ⟨UInt64.ofNat (24000 * ht), UInt64.ofNat (24000 * (ht + xt))⟩), s') := by
  have hcounts : Counts (counterDevice (phases ht xt)) (phases ht xt) := by
    refine counterDevice_counts (monotone_nat_of_le_succ fun n => ?_) fun n => ?_
    · simp only [phases]
      split_ifs <;> omega
    · simp only [phases]
      split_ifs <;> omega
  rw [measure, lift_bind, lift_bind, bind_of_some _ (phase_still hcounts rfl rfl 0), lift_bind,
    bind_of_some _ (phase_still hcounts rfl rfl 0)]
  exact ⟨_, rfl⟩

/-- The call that takes these samples. -/
lemma ioscFreqInit_phases {ht xt : ℕ} (hlt : 24000 * (ht + xt) < 2 ^ 64) :
    ∃ hosc iosc s', hosc = ⟨0, UInt64.ofNat (24000 * ht)⟩ ∧
      iosc = ⟨UInt64.ofNat (24000 * ht), UInt64.ofNat (24000 * (ht + xt))⟩ ∧
      measure (counterDevice (phases ht xt)) 1 fresh = some ((hosc, iosc), s') ∧
      ioscFreqInit (counterDevice (phases ht xt)) 1 initialOscillators fresh
        = some (calibrate initialOscillators hosc.ms iosc.ms, s') := by
  obtain ⟨s', hmeasure⟩ := measure_phases hlt
  refine ⟨_, _, s', rfl, rfl, hmeasure, ?_⟩
  rw [ioscFreqInit, if_pos (show initialOscillators.alreadyInitOscFreq = 0 from rfl),
    bind_of_some _ hmeasure]
  rfl

/-- Phases of 38 and 62 milliseconds calibrate the oscillator to 15935 kHz. -/
theorem ioscFreqInit_sound_sample :
    ∃ hosc iosc s', measure (counterDevice (phases 38 62)) 1 fresh = some ((hosc, iosc), s') ∧
      ioscFreqInit (counterDevice (phases 38 62)) 1 initialOscillators fresh
        = some (⟨15935000, 31123, 1⟩, s') ∧
      Sound (counterDevice (phases 38 62)) hosc iosc initialOscillators ⟨15935000, 31123, 1⟩
        fresh s' := by
  obtain ⟨hosc, iosc, s', rfl, rfl, hmeasure, hrun⟩ :=
    ioscFreqInit_phases (show 24000 * (38 + 62) < 2 ^ 64 by decide)
  obtain ⟨hosc, iosc, hsamples, hiff, -⟩ := ioscFreqInit_sound_iff rfl hrun
  obtain ⟨rfl, rfl⟩ :=
    Prod.mk.inj (Prod.mk.inj (Option.some.inj (hmeasure.symm.trans (hsamples rfl)))).1
  exact ⟨_, _, s', hmeasure, hrun, hiff.mpr (Or.inr (Or.inr (by decide)))⟩

/-- A phase of 166 milliseconds on the crystal and one of a millisecond on the oscillator: the
frequency of 4316000 kHz wraps to 21032704 Hz. Phases of 178995 and 62 milliseconds: the first
has more than `2 ^ 32` ticks, the code takes it for one of 38, and the oscillator that runs at
75062419 kHz is calibrated to 15935. -/
theorem ioscFreqInit_wraps :
    (∃ hosc iosc s', measure (counterDevice (phases 166 1)) 1 fresh = some ((hosc, iosc), s') ∧
      ioscFreqInit (counterDevice (phases 166 1)) 1 initialOscillators fresh
        = some (⟨21032704, 41079, 1⟩, s') ∧
      khz hosc.length iosc.length = 4316000 ∧
      ¬ Sound (counterDevice (phases 166 1)) hosc iosc initialOscillators ⟨21032704, 41079, 1⟩
        fresh s') ∧
    ∃ hosc iosc s', measure (counterDevice (phases 178995 62)) 1 fresh
        = some ((hosc, iosc), s') ∧
      ioscFreqInit (counterDevice (phases 178995 62)) 1 initialOscillators fresh
        = some (⟨15935000, 31123, 1⟩, s') ∧
      khz hosc.length iosc.length = 75062419 ∧
      ¬ Sound (counterDevice (phases 178995 62)) hosc iosc initialOscillators
        ⟨15935000, 31123, 1⟩ fresh s' := by
  constructor
  · obtain ⟨hosc, iosc, s', rfl, rfl, hmeasure, hrun⟩ :=
      ioscFreqInit_phases (show 24000 * (166 + 1) < 2 ^ 64 by decide)
    refine ⟨_, _, s', hmeasure, hrun, by decide, fun hsound => ?_⟩
    cases hsound.exact with
    | inl heq => exact absurd (congrArg Oscillators.ioscFreq heq) (by decide)
    | inr hcal => exact absurd hcal.second (by decide)
  · obtain ⟨hosc, iosc, s', rfl, rfl, hmeasure, hrun⟩ :=
      ioscFreqInit_phases (show 24000 * (178995 + 62) < 2 ^ 64 by decide)
    refine ⟨_, _, s', hmeasure, hrun, by decide, fun hsound => ?_⟩
    cases hsound.exact with
    | inl heq => exact absurd (congrArg Oscillators.ioscFreq heq) (by decide)
    | inr hcal => exact absurd hcal.iosc (by decide)

end A733Boot.Ar100s.Ccu
