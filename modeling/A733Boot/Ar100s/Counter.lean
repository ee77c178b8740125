/-
The 64-bit counter that runs on in standby, `cpucfg_counter_read`, and the two delays that
wait for it: `cnt64_udelay` and `delay_wait_pending`.

The counter goes on between any two reads, by any amount. Time is told by the number of reads
so far: at the `n`-th read the counter has counted `counter n`.

* `Counts`: what the two registers show of the counter;
* `counterRound_some`, `counterRound_none`: one round of the loop yields a value that the
  counter held between its first and its last read, or else the upper half has moved on;
* `cpucfgCounterRead_total`: the upper half cannot move on forever, so the loop ends;
* `cpucfgCounterRead_spec`, `cpucfgCounterRead_mono`: the value that is returned, and the
  values of two calls one after the other;
* **`counter_reads_untorn`**: no torn value, and no delay that ends before its deadline.
-/
import A733Boot.Library.Loops
import A733Boot.Ar100s.Error
import A733Boot.Ar100s.Standby.Timestamp

namespace A733Boot.Ar100s.Counter

open Fueled

/-! ### The code -/

def cntLowReg : ℕ := Standby.tsStatRegBase
def cntHighReg : ℕ := Standby.tsStatRegBase + 0x04

def timerRegBase : ℕ := 0x07091000
def extTimerStaReg : ℕ := timerRegBase + 0x04

section Code

variable (d : Device)

/-- One round of the loop: a value where it ends. The lower half is read again only if the
upper half has not moved. -/
def counterRound : Io (Option UInt64) := do
  let low ← readl d cntLowReg
  let high ← readl d cntHighReg
  let high' ← readl d cntHighReg
  if high ≠ high' then pure none
  else
    let low' ← readl d cntLowReg
    if low > low' then pure none
    else pure (some (high.toUInt64 <<< 32 + low.toUInt64))

def cpucfgCounterRead (fuel : ℕ) : Fueled UInt64 := again (liftM (counterRound d)) fuel

def cnt64Udelay (us : UInt32) (fuel : ℕ) : Fueled Unit := do
  if us = 0 then pure ()
  else
    let start ← cpucfgCounterRead d fuel
    let expire := us.toUInt64 * 24 + start
    again (do
      let now ← cpucfgCounterRead d fuel
      pure (if expire > now then none else some ())) fuel

def delayWaitPending (timerNo : ℕ) (deadline : UInt64) (fuel : ℕ) : Fueled ℤ :=
  let pending : UInt32 := 1 <<< UInt32.ofNat timerNo
  again (do
    let sta ← readl d extTimerStaReg
    if sta &&& pending ≠ 0 then pure (some 0)
    else
      let now ← cpucfgCounterRead d fuel
      pure (if now ≥ deadline then some (-eTimeout) else none)) fuel

end Code

/-! ### The counter -/

/-- The registers show a counter of 64 bits that never goes back. -/
structure Counts (d : Device) (counter : ℕ → ℕ) : Prop where
  mono : Monotone counter
  lt : ∀ n, counter n < 2 ^ 64
  low : ∀ s, (d.view s cntLowReg).toNat = counter s.reads % 2 ^ 32
  high : ∀ s, (d.view s cntHighReg).toNat = counter s.reads / 2 ^ 32

/-- The state `n` reads later, with nothing written. -/
def after (s : Regs) (n : ℕ) : Regs := { s with reads := s.reads + n }

@[simp] lemma after_reads (s : Regs) (n : ℕ) : (after s n).reads = s.reads + n := rfl

lemma after_after (s : Regs) (m n : ℕ) : after (after s m) n = after s (m + n) := by
  rw [after, after_reads, Nat.add_assoc]
  rfl

/-- The value that the code puts together from the two halves. -/
lemma join_toNat (high low : UInt32) :
    (high.toUInt64 <<< 32 + low.toUInt64).toNat = high.toNat * 2 ^ 32 + low.toNat := by
  have hhigh := high.toNat_lt
  have hlow := low.toNat_lt
  rw [UInt64.toNat_add, UInt64.toNat_shiftLeft, UInt32.toNat_toUInt64, UInt32.toNat_toUInt64,
    show UInt64.toNat 32 % 64 = 32 from rfl, Nat.shiftLeft_eq]
  omega

/-- The rounds by the reads that end them. -/
lemma counterRound_eq (d : Device) (s : Regs) :
    counterRound d s =
      if d.view (after s 1) cntHighReg ≠ d.view (after s 2) cntHighReg then (none, after s 3)
      else if d.view s cntLowReg > d.view (after s 3) cntLowReg then (none, after s 4)
      else (some ((d.view (after s 1) cntHighReg).toUInt64 <<< 32 + (d.view s cntLowReg).toUInt64),
        after s 4) := by
  rw [counterRound, bind_apply, bind_apply, bind_apply, ite_apply']
  refine if_congr Iff.rfl rfl ?_
  rw [bind_apply, ite_apply']
  rfl

/-- A round writes nothing, whatever the registers show. -/
lemma counterRound_after {d : Device} {s s' : Regs} {r : Option UInt64}
    (hr : counterRound d s = (r, s')) : ∃ n, s' = after s n := by
  rw [counterRound_eq] at hr
  split at hr
  · exact ⟨3, (Prod.mk.inj hr).2.symm⟩
  · split at hr
    · exact ⟨4, (Prod.mk.inj hr).2.symm⟩
    · exact ⟨4, (Prod.mk.inj hr).2.symm⟩

/-- The last round of a call, with nothing written before it. -/
lemma cpucfgCounterRead_last {d : Device} {fuel : ℕ} {s s' : Regs} {v : UInt64}
    (hv : cpucfgCounterRead d fuel s = some (v, s')) :
    ∃ n, counterRound d (after s n) = (some v, s') := by
  have hkeep : ∀ s₁ s₂, (∃ n, s₁ = after s n) →
      (liftM (counterRound d) : Fueled _) s₁ = some (none, s₂) → ∃ n, s₂ = after s n := by
    rintro _ s₂ ⟨m, rfl⟩ hround
    obtain ⟨n, rfl⟩ := counterRound_after (Option.some.inj hround)
    exact ⟨m + n, after_after s m n⟩
  obtain ⟨_, ⟨n, rfl⟩, hround⟩ := again_last _ hkeep ⟨0, rfl⟩ hv
  exact ⟨n, Option.some.inj hround⟩

/-- A call writes nothing, whatever the registers show. -/
lemma cpucfgCounterRead_after {d : Device} {fuel : ℕ} {s s' : Regs} {v : UInt64}
    (hv : cpucfgCounterRead d fuel s = some (v, s')) : ∃ n, s' = after s n := by
  obtain ⟨m, hround⟩ := cpucfgCounterRead_last hv
  obtain ⟨n, rfl⟩ := counterRound_after hround
  exact ⟨m + n, after_after s m n⟩

lemma cpucfgCounterRead_silent (d : Device) (fuel : ℕ) : Silent (cpucfgCounterRead d fuel) := by
  intro s v s' hv
  obtain ⟨n, rfl⟩ := cpucfgCounterRead_after hv
  rfl

lemma delayWaitPending_silent (d : Device) (timerNo : ℕ) (deadline : UInt64) (fuel : ℕ) :
    Silent (delayWaitPending d timerNo deadline fuel) := by
  refine .again (.bind (.readl d extTimerStaReg) fun sta => .ite (.pure _) ?_) fuel
  exact .bind (cpucfgCounterRead_silent d fuel) fun now => .pure _

section Reads

variable {d : Device} {counter : ℕ → ℕ} (h : Counts d counter)
include h

/-- The round that ends the loop returns a value between those of its first and of its last
read, wherever the carries fall. -/
lemma counterRound_some {s s' : Regs} {v : UInt64} (hv : counterRound d s = (some v, s')) :
    s' = after s 4 ∧ counter s.reads ≤ v.toNat ∧ v.toNat ≤ counter (s.reads + 3) := by
  rw [counterRound_eq] at hv
  split at hv
  · cases hv
  · rename_i hhigh
    split at hv
    · cases hv
    · rename_i hlow
      obtain ⟨hv, hs⟩ := Prod.mk.inj hv
      have h01 : counter s.reads ≤ counter (s.reads + 1) := h.mono (by omega)
      have h23 : counter (s.reads + 2) ≤ counter (s.reads + 3) := h.mono (by omega)
      have hlow' : counter s.reads % 2 ^ 32 ≤ counter (s.reads + 3) % 2 ^ 32 := by
        have := UInt32.le_iff_toNat_le.mp (UInt32.not_lt.mp hlow)
        rwa [h.low, h.low, after_reads] at this
      have hhigh' : counter (s.reads + 1) / 2 ^ 32 = counter (s.reads + 2) / 2 ^ 32 := by
        have := congrArg UInt32.toNat (not_not.mp hhigh)
        rwa [h.high, h.high, after_reads, after_reads] at this
      rw [← Option.some.inj hv, join_toNat, h.high, h.low, after_reads]
      refine ⟨hs.symm, ?_, ?_⟩ <;> omega

/-- A round that repeats the loop has seen a carry into the upper half. -/
lemma counterRound_none {s s' : Regs} (hv : counterRound d s = (none, s')) :
    ∃ n ≤ 3, s' = after s (n + 1) ∧
      counter s.reads / 2 ^ 32 < counter (s.reads + n) / 2 ^ 32 := by
  have h01 : counter s.reads ≤ counter (s.reads + 1) := h.mono (by omega)
  have h12 : counter (s.reads + 1) ≤ counter (s.reads + 2) := h.mono (by omega)
  have h23 : counter (s.reads + 2) ≤ counter (s.reads + 3) := h.mono (by omega)
  rw [counterRound_eq] at hv
  split at hv
  · rename_i hhigh
    have hne : counter (s.reads + 1) / 2 ^ 32 ≠ counter (s.reads + 2) / 2 ^ 32 := by
      intro heq
      refine hhigh (UInt32.toNat_inj.mp ?_)
      rw [h.high, h.high, after_reads, after_reads, heq]
    refine ⟨2, by omega, (Prod.mk.inj hv).2.symm, ?_⟩
    omega
  · split at hv
    · rename_i hlow
      have hlt : counter (s.reads + 3) % 2 ^ 32 < counter s.reads % 2 ^ 32 := by
        have := UInt32.lt_iff_toNat_lt.mp hlow
        rwa [h.low, h.low, after_reads] at this
      refine ⟨3, by omega, (Prod.mk.inj hv).2.symm, ?_⟩
      omega
    · cases hv

/-- The value that a call returns is one that the counter held between the first and the last
read of its last round; nothing is written. -/
lemma cpucfgCounterRead_spec {fuel : ℕ} {s s' : Regs} {v : UInt64}
    (hv : cpucfgCounterRead d fuel s = some (v, s')) :
    ∃ n, counterRound d (after s n) = (some v, s') ∧ s' = after s (n + 4) ∧
      counter (s.reads + n) ≤ v.toNat ∧ v.toNat ≤ counter (s.reads + n + 3) := by
  obtain ⟨n, hround⟩ := cpucfgCounterRead_last hv
  obtain ⟨rfl, hle, hge⟩ := counterRound_some h hround
  exact ⟨n, hround, after_after s n 4, hle, hge⟩

/-- **The loop ends**: the upper half can move on fewer than `2 ^ 32` times. -/
theorem cpucfgCounterRead_total (s : Regs) :
    ∃ v s', cpucfgCounterRead d (2 ^ 32) s = some (v, s') := by
  have hhigh : ∀ n, counter n / 2 ^ 32 < 2 ^ 32 := fun n => Nat.div_lt_of_lt_mul (h.lt n)
  refine again_total (fun s => 2 ^ 32 - 1 - counter s.reads / 2 ^ 32) ?_ (by omega)
  intro s
  obtain ⟨r, s', hround⟩ : ∃ r s', counterRound d s = (r, s') := ⟨_, _, rfl⟩
  refine ⟨r, s', congrArg some hround, ?_⟩
  rintro rfl
  obtain ⟨n, -, rfl, hlt⟩ := counterRound_none h hround
  have hbound := hhigh (s.reads + n)
  have hnext : counter (s.reads + n) / 2 ^ 32 ≤ counter (s.reads + (n + 1)) / 2 ^ 32 :=
    Nat.div_le_div_right (h.mono (by omega))
  rw [after_reads]
  omega

/-- A call ends in its first round if the counter stands still. -/
lemma cpucfgCounterRead_still {s : Regs} (hstill : counter (s.reads + 3) = counter s.reads)
    (fuel : ℕ) : cpucfgCounterRead d (fuel + 1) s
      = some (UInt64.ofNat (counter s.reads), after s 4) := by
  obtain ⟨r, s', hround⟩ : ∃ r s', counterRound d s = (r, s') := ⟨_, _, rfl⟩
  rw [cpucfgCounterRead, again, lift_bind, hround]
  cases r with
  | none =>
    obtain ⟨n, hn, -, hlt⟩ := counterRound_none h hround
    have hle : counter (s.reads + n) ≤ counter (s.reads + 3) := h.mono (by omega)
    rw [hstill] at hle
    exact absurd hlt (Nat.not_lt.mpr (Nat.div_le_div_right hle))
  | some v =>
    obtain ⟨rfl, hle, hge⟩ := counterRound_some h hround
    have hv : v = UInt64.ofNat (counter s.reads) := by
      rw [← UInt64.ofNat_toNat (x := v), le_antisymm (hge.trans hstill.le) hle]
    rw [hv]
    rfl

/-- Two calls, the second at any time after the first. -/
lemma cpucfgCounterRead_mono {fuel fuel' : ℕ} {s₁ s₁' s₂ s₂' : Regs} {v w : UInt64}
    (hv : cpucfgCounterRead d fuel s₁ = some (v, s₁')) (hle : s₁'.reads ≤ s₂.reads)
    (hw : cpucfgCounterRead d fuel' s₂ = some (w, s₂')) : v ≤ w := by
  obtain ⟨m, -, rfl, -, hlast⟩ := cpucfgCounterRead_spec h hv
  obtain ⟨n, -, -, hfirst, -⟩ := cpucfgCounterRead_spec h hw
  rw [after_reads] at hle
  have hmono : counter (s₁.reads + m + 3) ≤ counter (s₂.reads + n) := h.mono (by omega)
  exact UInt64.le_iff_toNat_le.mpr (hlast.trans (hmono.trans hfirst))

/-- A value that was returned had been reached by the counter when it was last read. -/
lemma cpucfgCounterRead_reached {fuel : ℕ} {s s' : Regs} {v : UInt64}
    (hv : cpucfgCounterRead d fuel s = some (v, s')) :
    ∃ last < s'.reads, v.toNat ≤ counter last := by
  obtain ⟨n, -, rfl, -, hlast⟩ := cpucfgCounterRead_spec h hv
  exact ⟨s.reads + n + 3, by rw [after_reads]; omega, hlast⟩

/-- The delay ends only after a read at which the counter had reached its deadline. -/
lemma cnt64Udelay_reached {us : UInt32} (hus : us ≠ 0) {fuel : ℕ} {s s' : Regs}
    (hend : cnt64Udelay d us fuel s = some ((), s')) :
    ∃ start s₁, cpucfgCounterRead d fuel s = some (start, s₁) ∧
      ∃ last < s'.reads, (us.toUInt64 * 24 + start).toNat ≤ counter last := by
  rw [cnt64Udelay, if_neg hus, bind_eq_some] at hend
  obtain ⟨start, s₁, hstart, hloop⟩ := hend
  obtain ⟨s₂, -, hround⟩ := again_last (fun _ => True) (fun _ _ _ _ => trivial) trivial hloop
  obtain ⟨now, s₃, hnow, hpure⟩ := bind_eq_some.mp hround
  obtain ⟨hif, rfl⟩ := Prod.mk.inj (Option.some.inj hpure)
  have hge : us.toUInt64 * 24 + start ≤ now := by
    by_contra hlt
    rw [if_pos (UInt64.not_le.mp hlt)] at hif
    cases hif
  obtain ⟨last, hlast, hreached⟩ := cpucfgCounterRead_reached h hnow
  exact ⟨start, s₁, hstart, last, hlast, (UInt64.le_iff_toNat_le.mp hge).trans hreached⟩

/-- A time-out is reported only after a read at which the counter had reached the deadline. -/
lemma delayWaitPending_reached {timerNo : ℕ} {deadline : UInt64} {fuel : ℕ} {s s' : Regs}
    (hend : delayWaitPending d timerNo deadline fuel s = some (-eTimeout, s')) :
    ∃ last < s'.reads, deadline.toNat ≤ counter last := by
  obtain ⟨s₁, -, hround⟩ := again_last (fun _ => True) (fun _ _ _ _ => trivial) trivial hend
  rw [lift_bind] at hround
  split at hround
  · exact absurd (Prod.mk.inj (Option.some.inj hround)).1 (by decide)
  · obtain ⟨now, s₂, hnow, hpure⟩ := bind_eq_some.mp hround
    obtain ⟨hif, rfl⟩ := Prod.mk.inj (Option.some.inj hpure)
    have hge : deadline ≤ now := by
      by_contra hlt
      rw [if_neg hlt] at hif
      cases hif
    obtain ⟨last, hlast, hreached⟩ := cpucfgCounterRead_reached h hnow
    exact ⟨last, hlast, (UInt64.le_iff_toNat_le.mp hge).trans hreached⟩

/-- **No torn value.** Whenever the loop ends, the value is one between those of the first and
of the last read of its last round; the values of calls never go back, and neither delay ends
for its deadline before the counter has reached it. -/
theorem counter_reads_untorn :
    (∀ fuel s v s', cpucfgCounterRead d fuel s = some (v, s') →
      ∃ n, counterRound d (after s n) = (some v, s') ∧ s' = after s (n + 4) ∧
        counter (s.reads + n) ≤ v.toNat ∧ v.toNat ≤ counter (s.reads + n + 3)) ∧
    (∀ fuel fuel' s₁ s₁' s₂ s₂' v w, cpucfgCounterRead d fuel s₁ = some (v, s₁') →
      s₁'.reads ≤ s₂.reads → cpucfgCounterRead d fuel' s₂ = some (w, s₂') → v ≤ w) ∧
    (∀ us fuel s s', us ≠ 0 → cnt64Udelay d us fuel s = some ((), s') →
      ∃ start s₁, cpucfgCounterRead d fuel s = some (start, s₁) ∧
        ∃ last < s'.reads, (us.toUInt64 * 24 + start).toNat ≤ counter last) ∧
    ∀ timerNo deadline fuel s s',
      delayWaitPending d timerNo deadline fuel s = some (-eTimeout, s') →
        ∃ last < s'.reads, deadline.toNat ≤ counter last := by
  refine ⟨?_, ?_, ?_, ?_⟩
  · intro fuel s v s' hv
    exact cpucfgCounterRead_spec h hv
  · intro fuel fuel' s₁ s₁' s₂ s₂' v w hv hle hw
    exact cpucfgCounterRead_mono h hv hle hw
  · intro us fuel s s' hus hend
    exact cnt64Udelay_reached h hus hend
  · intro timerNo deadline fuel s s' hend
    exact delayWaitPending_reached h hend

end Reads

/-! ### A device -/

/-- The registers of a counter, beside those of a pending flag that never comes. -/
def counterDevice (counter : ℕ → ℕ) : Device where
  live a := if a = cntLowReg ∨ a = cntHighReg ∨ a = extTimerStaReg then 0xffffffff else 0
  sense n a :=
    if a = cntLowReg then UInt32.ofNat (counter n)
    else if a = cntHighReg then UInt32.ofNat (counter n / 2 ^ 32)
    else 0

lemma counterDevice_view (counter : ℕ → ℕ) (s : Regs) {a : ℕ}
    (ha : a = cntLowReg ∨ a = cntHighReg ∨ a = extTimerStaReg) :
    (counterDevice counter).view s a = (counterDevice counter).sense s.reads a := by
  have hlive : (counterDevice counter).live a = 0xffffffff := if_pos ha
  have hview := (counterDevice counter).view_and_live s a
  rw [hlive] at hview
  have hall : ∀ v : UInt32, v &&& 0xffffffff = v := fun v => UInt32.and_neg_one
  rwa [hall, hall] at hview

lemma counterDevice_counts {counter : ℕ → ℕ} (hmono : Monotone counter)
    (hlt : ∀ n, counter n < 2 ^ 64) : Counts (counterDevice counter) counter := by
  refine ⟨hmono, hlt, fun s => ?_, fun s => ?_⟩
  · rw [counterDevice_view counter s (Or.inl rfl)]
    exact UInt32.toNat_ofNat'
  · rw [counterDevice_view counter s (Or.inr (Or.inl rfl))]
    exact UInt32.toNat_ofNat_of_lt' (Nat.div_lt_of_lt_mul (hlt _))

/-- A counter that carries into its upper half right after the first read, and stops later. -/
def carrying (n : ℕ) : ℕ := 2 ^ 32 - 1 + min n 9

/-- The first round of a call reads the old lower and the new upper half, and is repeated. -/
theorem counter_reads_untorn_carry :
    Counts (counterDevice carrying) carrying ∧
    (cpucfgCounterRead (counterDevice carrying) 2 ⟨fun _ => 0, 0, []⟩).map Prod.fst
      = some (2 ^ 32 + 3) ∧
    ∃ n, carrying (0 + n) ≤ (2 ^ 32 + 3 : UInt64).toNat ∧
      (2 ^ 32 + 3 : UInt64).toNat ≤ carrying (0 + n + 3) := by
  have hcounts : Counts (counterDevice carrying) carrying := by
    refine counterDevice_counts ?_ ?_
    · exact fun a b hab => Nat.add_le_add_left (min_le_min_right 9 hab) _
    · intro n
      rw [carrying]
      omega
  refine ⟨hcounts, by decide, ?_⟩
  obtain ⟨n, -, -, hle, hge⟩ := (counter_reads_untorn hcounts).1 2 ⟨fun _ => 0, 0, []⟩ (2 ^ 32 + 3)
    (after ⟨fun _ => 0, 0, []⟩ 8) rfl
  exact ⟨n, hle, hge⟩

end A733Boot.Ar100s.Counter
