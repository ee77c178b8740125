/-
The system timestamp across standby: `rtc_get_timestamp_in_seconds_since`,
`sunxi_timestamp_suspend` and `sunxi_timestamp_resume` of
`ar100s/service/standby/standby-sun60iw2p1/plat_standby.c`.

The counter and the RTC go on between any two reads. Time is told by the number of reads so
far: at the `n`-th read the counter has counted `counter n` and the RTC is `rtc n` seconds
into its first day.

* `Ticks`: what the registers show of the two;
* `rtcGetTimestampInSecondsSince_toNat`, `sunxiTimestampSuspend_spec`,
  `sunxiTimestampResume_spec`: what the code reads, and what it writes back;
* `Untorn`: no carry falls between two reads that belong together, and the seconds of both
  sides lose the same to 32 bits;
* `timestamp_exact` (**the timestamp across standby**): then the count that is written back
  is one that the counter held, moved on by the seconds of the RTC, and with
  `timestamp_carry` one that it never held if a carry falls between the two words.
-/
import A733Boot.Library.Registers
import Mathlib.Order.Monotone.Defs

namespace A733Boot.Ar100s.Standby

/-! ### The code -/

def rtcYmd : ℕ := 0x07090000 + 0x10
def rtcHms : ℕ := 0x07090000 + 0x14
def rtcYmdMask : UInt32 := 0xffff
def rtcHmsSMask : UInt32 := 0x3f
def rtcHmsMMask : UInt32 := (0x3f : UInt32) <<< 8
def rtcHmsHMask : UInt32 := (0x1f : UInt32) <<< 16

def tsStatRegBase : ℕ := 0x08010000
def tsCtrlRegBase : ℕ := 0x08020000
def sunxiTimestampStaCntLowReg : ℕ := tsStatRegBase
def sunxiTimestampStaCntHiReg : ℕ := tsStatRegBase + 0x04
def sunxiTimestampCtrlCntLowReg : ℕ := tsCtrlRegBase + 0x08
def sunxiTimestampCtrlCntHiReg : ℕ := tsCtrlRegBase + 0x0c
def sunxiTimestampCtrlCntFreqidReg : ℕ := tsCtrlRegBase + 0x20

/-- The static variables of the timestamp. -/
structure TimestampSave where
  cntLowBak : UInt32
  cntHiBak : UInt32
  cntFreqidBak : UInt32
  rtcLastTime : UInt64

section Code

variable (d : Device)

/-- The days are multiplied in 32 bits. -/
def rtcGetTimestampInSecondsSince (last : UInt64) : Io UInt64 := do
  let ymd ← readl d rtcYmd
  let ymd := ymd &&& rtcYmdMask
  let hms ← readl d rtcHms
  let rtcS := (ymd * 24 * 3600).toUInt64
  let rtcS := rtcS + (hms &&& rtcHmsSMask).toUInt64
  let rtcS := rtcS + ((hms &&& rtcHmsMMask) >>> 8 * 60).toUInt64
  let rtcS := rtcS + ((hms &&& rtcHmsHMask) >>> 16 * 3600).toUInt64
  pure (if last ≠ 0 then rtcS - last else rtcS)

def sunxiTimestampSuspend : Io TimestampSave := do
  let low ← readl d sunxiTimestampStaCntLowReg
  let hi ← readl d sunxiTimestampStaCntHiReg
  let freqid ← readl d sunxiTimestampCtrlCntFreqidReg
  let last ← rtcGetTimestampInSecondsSince d 0
  pure ⟨low, hi, freqid, last⟩

def sunxiTimestampResume (save : TimestampSave) : Io Unit := do
  let lastCnt := save.cntHiBak.toUInt64 <<< 32 ||| save.cntLowBak.toUInt64
  let suspendTimeS ← rtcGetTimestampInSecondsSince d save.rtcLastTime
  let lastCnt := lastCnt + suspendTimeS * save.cntFreqidBak.toUInt64
  writel 0 tsCtrlRegBase
  writel save.cntFreqidBak sunxiTimestampCtrlCntFreqidReg
  writel lastCnt.toUInt32 sunxiTimestampCtrlCntLowReg
  writel (lastCnt >>> 32).toUInt32 sunxiTimestampCtrlCntHiReg
  writel 1 tsCtrlRegBase

end Code

/-! ### The clocks -/

/-- What the registers show of the counter and the RTC. -/
structure Ticks (d : Device) (counter rtc : ℕ → ℕ) : Prop where
  counterMono : Monotone counter
  rtcMono : Monotone rtc
  low : ∀ s, (d.view s sunxiTimestampStaCntLowReg).toNat = counter s.reads % 2 ^ 32
  hi : ∀ s, (d.view s sunxiTimestampStaCntHiReg).toNat = counter s.reads / 2 ^ 32 % 2 ^ 32
  day : ∀ s, (d.view s rtcYmd &&& rtcYmdMask).toNat = rtc s.reads / 86400
  hour : ∀ s, ((d.view s rtcHms &&& rtcHmsHMask) >>> 16).toNat = rtc s.reads % 86400 / 3600
  minute : ∀ s, ((d.view s rtcHms &&& rtcHmsMMask) >>> 8).toNat = rtc s.reads % 3600 / 60
  second : ∀ s, (d.view s rtcHms &&& rtcHmsSMask).toNat = rtc s.reads % 60
  freqid : d.live sunxiTimestampCtrlCntFreqidReg = 0

/-- The seconds that the code makes of a day of one read and a time of day of another. -/
def rtcSeconds (day hms : ℕ) : ℕ := 86400 * (day / 86400) % 2 ^ 32 + hms % 86400

section Reads

variable {d : Device} {counter rtc : ℕ → ℕ}

/-- The seconds of a day and a time of day, before the last time is subtracted. -/
lemma rtcSum_toNat {ymd sec min hour : UInt32} {day hms : ℕ} (hday : ymd.toNat = day / 86400)
    (hsec : sec.toNat = hms % 60) (hmin : min.toNat = hms % 3600 / 60)
    (hhour : hour.toNat = hms % 86400 / 3600) :
    ((ymd * 24 * 3600).toUInt64 + sec.toUInt64 + (min * 60).toUInt64 + (hour * 3600).toUInt64).toNat =
      rtcSeconds day hms := by
  have hdays : (ymd * 24 * 3600).toNat = 86400 * (day / 86400) % 2 ^ 32 := by
    rw [UInt32.toNat_mul, UInt32.toNat_mul, hday, show UInt32.toNat 24 = 24 from rfl,
      show UInt32.toNat 3600 = 3600 from rfl]
    omega
  have hmins : (min * 60).toNat = hms % 3600 / 60 * 60 := by
    rw [UInt32.toNat_mul, hmin, show UInt32.toNat 60 = 60 from rfl]
    omega
  have hhours : (hour * 3600).toNat = hms % 86400 / 3600 * 3600 := by
    rw [UInt32.toNat_mul, hhour, show UInt32.toNat 3600 = 3600 from rfl]
    omega
  rw [UInt64.toNat_add, UInt64.toNat_add, UInt64.toNat_add, UInt32.toNat_toUInt64,
    UInt32.toNat_toUInt64,
    UInt32.toNat_toUInt64, UInt32.toNat_toUInt64, hdays, hsec, hmins, hhours, rtcSeconds]
  omega

lemma rtcGetTimestampInSecondsSince_toNat (h : Ticks d counter rtc) (last : UInt64) (s : Regs) :
    (rtcGetTimestampInSecondsSince d last s).1.toNat =
      (2 ^ 64 - last.toNat + rtcSeconds (rtc s.reads) (rtc (s.reads + 1))) % 2 ^ 64 := by
  have hsum := rtcSum_toNat (h.day s) (h.second (readl d rtcYmd s).2)
    (h.minute (readl d rtcYmd s).2)
    (h.hour (readl d rtcYmd s).2)
  have hsmall : rtcSeconds (rtc s.reads) (rtc (s.reads + 1)) < 2 ^ 64 := by
    rw [rtcSeconds]
    omega
  rw [rtcGetTimestampInSecondsSince, bind_apply, bind_apply, pure_apply]
  by_cases hlast : last = 0
  · rw [if_neg (not_not.mpr hlast), hlast, show UInt64.toNat 0 = 0 from rfl, Nat.sub_zero,
      Nat.add_mod_left, Nat.mod_eq_of_lt hsmall]
    exact hsum
  · rw [if_pos hlast, UInt64.toNat_sub]
    rw [readl_fst, readl_fst, hsum]
    rfl

lemma sunxiTimestampSuspend_spec (h : Ticks d counter rtc) (s : Regs) :
    (sunxiTimestampSuspend d s).1.cntLowBak.toNat = counter s.reads % 2 ^ 32 ∧
    (sunxiTimestampSuspend d s).1.cntHiBak.toNat = counter (s.reads + 1) / 2 ^ 32 % 2 ^ 32 ∧
    (sunxiTimestampSuspend d s).1.cntFreqidBak = s.word sunxiTimestampCtrlCntFreqidReg ∧
    (sunxiTimestampSuspend d s).1.rtcLastTime.toNat =
      rtcSeconds (rtc (s.reads + 3)) (rtc (s.reads + 4)) := by
  refine ⟨h.low s, h.hi (readl d sunxiTimestampStaCntLowReg s).2, ?_, ?_⟩
  · exact d.view_plain h.freqid
  · have hsmall : rtcSeconds (rtc (s.reads + 3)) (rtc (s.reads + 4)) < 2 ^ 64 := by
      rw [rtcSeconds]
      omega
    have hlast := rtcGetTimestampInSecondsSince_toNat h 0 { s with reads := s.reads + 3 }
    rw [show UInt64.toNat 0 = 0 from rfl, Nat.sub_zero, Nat.add_mod_left,
      Nat.mod_eq_of_lt hsmall] at hlast
    exact hlast

/-- The two saved words, as the code puts them together. -/
lemma hiLow_toNat (hi low : UInt32) :
    (hi.toUInt64 <<< 32 ||| low.toUInt64).toNat = hi.toNat * 2 ^ 32 + low.toNat := by
  have hhi := hi.toNat_lt
  have hlow : low.toNat < 2 ^ 32 := low.toNat_lt
  have hshift : (hi.toUInt64 <<< 32).toNat = hi.toNat <<< 32 := by
    rw [UInt64.toNat_shiftLeft, UInt32.toNat_toUInt64, show UInt64.toNat 32 % 64 = 32 from rfl,
      Nat.shiftLeft_eq]
    omega
  rw [UInt64.toNat_or, hshift, UInt32.toNat_toUInt64, ← Nat.shiftLeft_add_eq_or_of_lt hlow,
    Nat.shiftLeft_eq]

/-- The two words that the code makes of a count. -/
lemma split_toNat (count : UInt64) :
    (count >>> 32).toUInt32.toNat * 2 ^ 32 + count.toUInt32.toNat = count.toNat := by
  have hcount := count.toNat_lt
  rw [UInt64.toNat_toUInt32, UInt64.toNat_toUInt32, UInt64.toNat_shiftRight,
    show UInt64.toNat 32 % 64 = 32 from rfl, Nat.shiftRight_eq_div_pow]
  omega

/-- The 64-bit value in the control registers of the counter. -/
def writtenCount (s : Regs) : ℕ :=
  (s.word sunxiTimestampCtrlCntHiReg).toNat * 2 ^ 32 + (s.word sunxiTimestampCtrlCntLowReg).toNat

lemma sunxiTimestampResume_spec (h : Ticks d counter rtc) (save : TimestampSave) (s : Regs) :
    writtenCount (sunxiTimestampResume d save s).2 =
      (save.cntHiBak.toNat * 2 ^ 32 + save.cntLowBak.toNat +
        (2 ^ 64 - save.rtcLastTime.toNat + rtcSeconds (rtc s.reads) (rtc (s.reads + 1))) *
          save.cntFreqidBak.toNat) % 2 ^ 64 := by
  have hsince := rtcGetTimestampInSecondsSince_toNat h save.rtcLastTime s
  generalize hr : rtcGetTimestampInSecondsSince d save.rtcLastTime s = r at hsince
  obtain ⟨since, s'⟩ := r
  have hword : writtenCount (sunxiTimestampResume d save s).2 =
      ((save.cntHiBak.toUInt64 <<< 32 ||| save.cntLowBak.toUInt64) +
        since * save.cntFreqidBak.toUInt64).toNat := by
    rw [← split_toNat, sunxiTimestampResume, bind_apply, hr]
    rfl
  rw [hword, UInt64.toNat_add, UInt64.toNat_mul, hiLow_toNat, UInt32.toNat_toUInt64, hsince,
    Nat.mod_mul_mod, Nat.add_mod_mod]

end Reads

/-! ### A suspend that begins at the `n`-th read, and a resume at the `m`-th -/

/-- No carry falls between two reads that belong together. -/
structure Untorn (counter rtc : ℕ → ℕ) (n m : ℕ) : Prop where
  -- the low word of the first read under the high word of the second is a count that is reached
  count : counter (n + 1) / 2 ^ 32 * 2 ^ 32 + counter n % 2 ^ 32 ≤ counter (n + 4)
  -- no midnight between the day and the time of day
  suspendDay : rtc (n + 3) % 86400 ≤ rtc (n + 4) % 86400
  resumeDay : rtc m % 86400 ≤ rtc (m + 1) % 86400
  -- the seconds of the two days lose the same to 32 bits
  days : 86400 * (rtc (n + 3) / 86400) / 2 ^ 32 = 86400 * (rtc m / 86400) / 2 ^ 32

/-- The value `written` is a count of the suspend, moved on by the seconds between an instant
of the suspend and one of the resume. -/
def ExactCount (counter rtc : ℕ → ℕ) (n m freq written : ℕ) : Prop :=
  ∃ c x y : ℕ, (counter n ≤ c ∧ c ≤ counter (n + 4)) ∧ (rtc (n + 3) ≤ x ∧ x ≤ rtc (n + 4)) ∧
    (rtc m ≤ y ∧ y ≤ rtc (m + 1)) ∧ x ≤ y ∧ written = (c + freq * (y - x)) % 2 ^ 64 ∧
    (c + freq * (y - x) < 2 ^ 64 → c ≤ written)

section Cycle

variable {counter rtc : ℕ → ℕ} {n m : ℕ}

/-- The instant that the code makes of a day and a time of day. -/
def rtcInstant (day hms : ℕ) : ℕ := 86400 * (day / 86400) + hms % 86400

lemma rtcInstant_shown {day hms : ℕ} (hle : day ≤ hms) (h : day % 86400 ≤ hms % 86400) :
    day ≤ rtcInstant day hms ∧ rtcInstant day hms ≤ hms := by
  rw [rtcInstant]
  omega

/-- The seconds between two instants are those of the code if both lose the same. -/
lemma rtcSeconds_sub {a b a' b' : ℕ}
    (hdays : 86400 * (a / 86400) / 2 ^ 32 = 86400 * (b / 86400) / 2 ^ 32)
    (hle : rtcInstant a a' ≤ rtcInstant b b') :
    2 ^ 64 - rtcSeconds a a' + rtcSeconds b b' = 2 ^ 64 + (rtcInstant b b' - rtcInstant a a') := by
  rw [rtcInstant, rtcInstant] at hle
  rw [rtcSeconds, rtcSeconds, rtcInstant, rtcInstant]
  omega

lemma Untorn.exact (h : Untorn counter rtc n m) (hcounter : Monotone counter) (hrtc : Monotone rtc)
    (hm : n + 5 ≤ m) (freq : ℕ) :
    ExactCount counter rtc n m freq
      ((counter (n + 1) / 2 ^ 32 % 2 ^ 32 * 2 ^ 32 + counter n % 2 ^ 32 +
        (2 ^ 64 - rtcSeconds (rtc (n + 3)) (rtc (n + 4)) + rtcSeconds (rtc m)
          (rtc (m + 1))) * freq) % 2 ^ 64) := by
  have hlow := hcounter (Nat.le_add_right n 1)
  obtain ⟨hx, hx'⟩ := rtcInstant_shown (hrtc (show n + 3 ≤ n + 4 by omega)) h.suspendDay
  obtain ⟨hy, hy'⟩ := rtcInstant_shown (hrtc (Nat.le_add_right m 1)) h.resumeDay
  have hxy : rtcInstant (rtc (n + 3)) (rtc (n + 4)) ≤ rtcInstant (rtc m) (rtc (m + 1)) :=
    hx'.trans ((hrtc (show n + 4 ≤ m by omega)).trans hy)
  rw [rtcSeconds_sub h.days hxy]
  generalize rtcInstant (rtc (n + 3)) (rtc (n + 4)) = x at hx hx' hxy ⊢
  generalize rtcInstant (rtc m) (rtc (m + 1)) = y at hy hy' hxy ⊢
  have hwritten : (counter (n + 1) / 2 ^ 32 % 2 ^ 32 * 2 ^ 32 + counter n % 2 ^ 32 +
      (2 ^ 64 + (y - x)) * freq) % 2 ^ 64 =
        (counter (n + 1) / 2 ^ 32 * 2 ^ 32 + counter n % 2 ^ 32 + freq * (y - x)) % 2 ^ 64 := by
    rw [Nat.add_mul, Nat.mul_comm (y - x)]
    omega
  rw [hwritten]
  refine ⟨_, x, y, ⟨?_, h.count⟩, ⟨hx, hx'⟩, ⟨hy, hy'⟩, hxy, rfl, fun hsmall => ?_⟩
  · omega
  · rw [Nat.mod_eq_of_lt hsmall]
    exact Nat.le_add_right _ _

end Cycle

section Result

variable {d : Device} {counter rtc : ℕ → ℕ}

/-- **The timestamp across standby.** -/
theorem timestamp_exact (h : Ticks d counter rtc) (s s' : Regs)
    (hlater : (sunxiTimestampSuspend d s).2.reads ≤ s'.reads)
    (huntorn : Untorn counter rtc s.reads s'.reads) :
    ExactCount counter rtc s.reads s'.reads (s.word sunxiTimestampCtrlCntFreqidReg).toNat
      (writtenCount (sunxiTimestampResume d (sunxiTimestampSuspend d s).1 s').2) := by
  obtain ⟨hlow, hhi, hfreq, hlast⟩ := sunxiTimestampSuspend_spec h s
  rw [sunxiTimestampResume_spec h, hlow, hhi, hfreq, hlast]
  exact huntorn.exact h.counterMono h.rtcMono hlater _

/-- Registers that show the two clocks and nothing else. -/
def clockDevice (counter rtc : ℕ → ℕ) : Device where
  live a := if a ∈ [sunxiTimestampStaCntLowReg, sunxiTimestampStaCntHiReg, rtcYmd,
    rtcHms] then 0xffffffff else 0
  sense n a :=
    if a = sunxiTimestampStaCntLowReg then UInt32.ofNat (counter n)
    else if a = sunxiTimestampStaCntHiReg then UInt32.ofNat (counter n / 2 ^ 32)
    else if a = rtcYmd then UInt32.ofNat (rtc n / 86400)
    else UInt32.ofNat (rtc n % 86400 / 3600 * 2 ^ 16 + rtc n % 3600 / 60 * 2 ^ 8 + rtc n % 60)

lemma clockDevice_view (counter rtc : ℕ → ℕ) (s : Regs) {a : ℕ}
    (ha : a ∈ [sunxiTimestampStaCntLowReg, sunxiTimestampStaCntHiReg, rtcYmd, rtcHms]) :
    (clockDevice counter rtc).view s a = (clockDevice counter rtc).sense s.reads a := by
  have hlive : (clockDevice counter rtc).live a = 0xffffffff := if_pos ha
  have hview := (clockDevice counter rtc).view_and_live s a
  rw [hlive] at hview
  have hall : ∀ v : UInt32, v &&& 0xffffffff = v := fun v => UInt32.and_neg_one
  rwa [hall, hall] at hview

lemma clockDevice_ticks (hcounter : Monotone counter) (hrtc : Monotone rtc)
    (hday : ∀ n, rtc n / 86400 ≤ rtcYmdMask.toNat) :
    Ticks (clockDevice counter rtc) counter rtc := by
  have hhms : ∀ s : Regs, ((clockDevice counter rtc).view s rtcHms).toNat =
      rtc s.reads % 86400 / 3600 * 2 ^ 16 + rtc s.reads % 3600 / 60 * 2 ^ 8 + rtc s.reads % 60 := by
    intro s
    rw [clockDevice_view counter rtc s (by decide)]
    refine (UInt32.toNat_ofNat').trans (Nat.mod_eq_of_lt ?_)
    omega
  refine ⟨hcounter, hrtc, ?_, ?_, ?_, ?_, ?_, ?_, rfl⟩
  · intro s
    rw [clockDevice_view counter rtc s (by decide)]
    exact UInt32.toNat_ofNat'
  · intro s
    rw [clockDevice_view counter rtc s (by decide)]
    exact UInt32.toNat_ofNat'
  · intro s
    have hview : ((clockDevice counter rtc).view s rtcYmd).toNat =
      rtc s.reads / 86400 % 2 ^ 32 := by
      rw [clockDevice_view counter rtc s (by decide)]
      exact UInt32.toNat_ofNat'
    have hmask : rtcYmdMask.toNat = 2 ^ 16 - 1 := rfl
    have hle := hday s.reads
    rw [and_toNat hmask, hview]
    omega
  · intro s
    have hshift : ((rtcHmsHMask) >>> 16).toNat = 2 ^ 5 - 1 := by decide
    have hh : rtc s.reads % 86400 / 3600 < 24 := by omega
    have hms : rtc s.reads % 3600 / 60 * 2 ^ 8 + rtc s.reads % 60 < 2 ^ 16 := by omega
    rw [and_shiftRight_toNat (show UInt32.toNat 16 % 32 = 16 from rfl) hshift, hhms, Nat.add_assoc,
      Nat.mul_comm _ (2 ^ 16), Nat.mul_add_div (Nat.two_pow_pos 16),
      Nat.div_eq_of_lt hms, Nat.add_zero,
      Nat.mod_eq_of_lt (by omega)]
  · intro s
    have hshift : ((rtcHmsMMask) >>> 8).toNat = 2 ^ 6 - 1 := by decide
    rw [and_shiftRight_toNat (show UInt32.toNat 8 % 32 = 8 from rfl) hshift, hhms]
    omega
  · intro s
    have hmask : rtcHmsSMask.toNat = 2 ^ 6 - 1 := by decide
    rw [and_toNat hmask, hhms]
    omega

/-- A minute of standby. -/
theorem timestamp_exact_minute :
    Untorn (fun n => 1000 + 7 * min n 20) (fun n => 12 * min n 20) 0 5 ∧
    ExactCount (fun n => 1000 + 7 * min n 20) (fun n => 12 * min n 20) 0 5 (24000000 : UInt32).toNat
      (writtenCount (sunxiTimestampResume
        (clockDevice (fun n => 1000 + 7 * min n 20) fun n => 12 * min n 20)
        (sunxiTimestampSuspend (clockDevice (fun n => 1000 + 7 * min n 20) fun n => 12 * min n 20)
          ⟨fun _ => 24000000, 0, []⟩).1 ⟨fun _ => 0, 5, []⟩).2) := by
  have huntorn : Untorn (fun n => 1000 + 7 * min n 20) (fun n => 12 * min n 20) 0 5 := by
    constructor <;> decide
  have hticks : Ticks (clockDevice (fun n => 1000 + 7 * min n 20) fun n => 12 * min n 20)
      (fun n => 1000 + 7 * min n 20) fun n => 12 * min n 20 := by
    refine clockDevice_ticks ?_ ?_ ?_
    · intro a b hab
      exact Nat.add_le_add_left (Nat.mul_le_mul_left 7 (min_le_min_right 20 hab)) 1000
    · intro a b hab
      exact Nat.mul_le_mul_left 12 (min_le_min_right 20 hab)
    · intro n
      rw [show rtcYmdMask.toNat = 65535 from rfl]
      omega
  exact ⟨huntorn, timestamp_exact hticks ⟨fun _ => 24000000, 0, []⟩ ⟨fun _ => 0, 5, []⟩
    (le_refl 5) huntorn⟩

/-- A carry between the low and the high word: with the counter one tick before the carry at
the first read, the count that is written back was never held. -/
theorem timestamp_carry :
    ¬ ∀ (d : Device) (counter rtc : ℕ → ℕ) (s s' : Regs), Ticks d counter rtc →
      (sunxiTimestampSuspend d s).2.reads ≤ s'.reads →
      ExactCount counter rtc s.reads s'.reads (s.word sunxiTimestampCtrlCntFreqidReg).toNat
        (writtenCount (sunxiTimestampResume d (sunxiTimestampSuspend d s).1 s').2) := by
  intro hall
  let counter : ℕ → ℕ := fun n => if n = 0 then 2 ^ 32 - 1 else 2 ^ 32
  let s : Regs := ⟨fun _ => 24000000, 0, []⟩
  let s' : Regs := ⟨fun _ => 0, 5, []⟩
  have hticks : Ticks (clockDevice counter fun _ => 0) counter fun _ => 0 := by
    refine clockDevice_ticks ?_ (fun _ _ _ => le_rfl) (fun _ => by decide)
    intro a b hab
    simp only [counter]
    split <;> split <;> omega
  obtain ⟨hlow, hhi, hfreq, hlast⟩ := sunxiTimestampSuspend_spec hticks s
  obtain ⟨c, x, y, ⟨-, hc⟩, ⟨-, hx⟩, ⟨-, hy⟩, -, hwritten, -⟩ := hall _ _ _ s s' hticks (le_refl 5)
  have hcount : c ≤ 2 ^ 32 := hc.trans_eq (if_neg (Nat.succ_ne_zero 3))
  have hcounter : counter s.reads = 2 ^ 32 - 1 := if_pos rfl
  have hcounter' : counter (s.reads + 1) = 2 ^ 32 := if_neg (Nat.succ_ne_zero 0)
  have hrtc : rtcSeconds 0 0 = 0 := rfl
  have hright : (c + (s.word sunxiTimestampCtrlCntFreqidReg).toNat * (y - x)) % 2 ^ 64 = c := by
    rw [Nat.le_zero.mp hx, Nat.le_zero.mp hy, Nat.sub_self, Nat.mul_zero, Nat.add_zero]
    exact Nat.mod_eq_of_lt (by omega)
  rw [sunxiTimestampResume_spec hticks, hlow, hhi, hlast, hfreq, hright, hcounter, hcounter',
    hrtc] at hwritten
  omega

end Result

end A733Boot.Ar100s.Standby
