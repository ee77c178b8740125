/-
The timed wakeup, `ar100s/service/standby/wakeup_source.c`: the request that sets the timer,
`wakeup_timer_start` and `wakeup_timer_stop`, and the ticks that call `wakeup_timer_handler`.

* `TimerReached`: the states of the firmware between standbys;
* `TimerIdle`, `TimerReached.idle`: there, the timer is registered and does not run;
* `msecToTicks_toInt`: the cycle, with the product cut off to 32 bits;
* `firesOnTime_iff` (**the timed wakeup**): it fires when asked, for the times that last a
  tick and whose product with the ticks of a second fits 32 bits, and for no others.
-/
import Mathlib.Tactic.Linarith
import A733Boot.Ar100s.Standby.WakeupSource

namespace A733Boot.Ar100s.Standby

open Mailbox

/-! ### The code -/

/-- `WAKESOURE_TIMER`. -/
def wakesoureTimer : UInt32 := 0xc0000000

def wakeupTimerHandler (s : System WakeupHw) : System WakeupHw :=
  { s with wakeupSource := wakesoureTimer }

def Callback.call : Callback → System WakeupHw → System WakeupHw
  | wakeupTimerHandler => Standby.wakeupTimerHandler

/-- The timer is changed. -/
def modifyWakeupTimer (f : Softtimer Callback → Softtimer Callback) (s : System WakeupHw) :
    System WakeupHw :=
  { s with plat := { s.plat with ticks := s.plat.ticks.modifyTimer wakeupTimer f } }

/-- The result of `add_softtimer` is not looked at. -/
def wakeupTimerInit (s : System WakeupHw) : System WakeupHw :=
  let s := modifyWakeupTimer (fun _ => ⟨0, 0, some .wakeupTimerHandler, .softtimerOff⟩) s
  { s with plat := { s.plat with ticks := (addSofttimer wakeupTimer s.plat.ticks).2 } }

def wakeupTimerStart : System WakeupHw → System WakeupHw :=
  modifyWakeupTimer fun t => if t.cycle ≠ 0 then startSofttimer t else t

def wakeupTimerStop : System WakeupHw → System WakeupHw := modifyWakeupTimer stopSofttimer

/-- A tick, with the callbacks. -/
def tick (s : System WakeupHw) : System WakeupHw :=
  let r := timerTickServer s.plat.ticks
  r.1.foldl (fun s cb => cb.call s) { s with plat := { s.plat with ticks := r.2 } }

/-- The timer. -/
def System.timer (s : System WakeupHw) : Softtimer Callback := s.plat.ticks.timer wakeupTimer

/-! ### Between standbys -/

section Reached

variable (D : Drivers WakeupHw)

/-- What comes in a wait: a tick, or an interrupt. -/
inductive WaitEvent
  | tick
  | interrupt (intno : ℕ)

def WaitEvent.come (s : System WakeupHw) : WaitEvent → System WakeupHw
  | tick => Standby.tick s
  | interrupt intno => interruptEntry intno s

/-- The states between standbys: after `wakeup_timer_init`, with the timers of the firmware
ready and none of them registered, requests are served, interrupts and ticks come, and
standbys wait for a wakeup, with ticks and interrupts in the meantime. -/
inductive TimerReached : System WakeupHw → Prop
  | init (s : System WakeupHw) (hlock : s.plat.ticks.timerLock = 0)
      (hempty : s.plat.ticks.softtimer = []) : TimerReached (wakeupTimerInit s)
  | set {s : System WakeupHw} (m : Message) (h : TimerReached s) :
      TimerReached (setWakeupSrc (wakeupDrivers D) m s).2
  | clear {s : System WakeupHw} (m : Message) (h : TimerReached s) :
      TimerReached (clearWakeupSrc (wakeupDrivers D) m s).2
  | tick {s : System WakeupHw} (h : TimerReached s) : TimerReached (tick s)
  | interrupt {s : System WakeupHw} (intno : ℕ) (h : TimerReached s) :
      TimerReached (interruptEntry intno s)
  | wait {s : System WakeupHw} (l : List WaitEvent) (h : TimerReached s) :
      TimerReached (wakeupTimerStop (l.foldl WaitEvent.come (wakeupTimerStart s)))

/-- The timer is the one that is registered, with its callback. -/
structure TimerReady (s : System WakeupHw) : Prop where
  registered : s.plat.ticks.softtimer = [wakeupTimer]
  cb : s.timer.cb = some .wakeupTimerHandler

/-- The timer does not run either. -/
structure TimerIdle (s : System WakeupHw) : Prop extends TimerReady s where
  off : s.timer.start = .softtimerOff

variable {D} {s : System WakeupHw}

@[simp] lemma modifyWakeupTimer_softtimer (f : Softtimer Callback → Softtimer Callback) :
    (modifyWakeupTimer f s).plat.ticks.softtimer = s.plat.ticks.softtimer := rfl

@[simp] lemma modifyWakeupTimer_timer (f : Softtimer Callback → Softtimer Callback) :
    (modifyWakeupTimer f s).timer = f s.timer :=
  TimeTicks.modifyTimer_timer _ _ _

/-- A change of the timer that keeps its callback. -/
lemma TimerReady.modify (h : TimerReady s) {f : Softtimer Callback → Softtimer Callback}
    (hf : (f s.timer).cb = s.timer.cb) : TimerReady (modifyWakeupTimer f s) :=
  ⟨h.registered, by rw [modifyWakeupTimer_timer, hf, h.cb]⟩

/-- A step that does not touch the timers. -/
lemma TimerIdle.of_ticks_eq {s' : System WakeupHw} (h : TimerIdle s)
    (hticks : s'.plat.ticks = s.plat.ticks) : TimerIdle s' := by
  have htimer : s'.timer = s.timer := congrArg (fun t => t.timer wakeupTimer) hticks
  exact ⟨⟨hticks ▸ h.registered, htimer ▸ h.cb⟩, htimer ▸ h.off⟩

/-- A step that changes the timer, but neither its callback nor that it does not run. -/
lemma TimerReady.idle_of_ticks_eq {s' : System WakeupHw} (h : TimerReady s)
    {f : Softtimer Callback → Softtimer Callback}
    (hticks : s'.plat.ticks = s.plat.ticks.modifyTimer wakeupTimer f)
    (hcb : (f s.timer).cb = s.timer.cb) (hoff : (f s.timer).start = .softtimerOff) :
    TimerIdle s' := by
  have htimer : s'.timer = f s.timer := by
    rw [System.timer, hticks, TimeTicks.modifyTimer_timer]
    rfl
  refine ⟨⟨?_, ?_⟩, ?_⟩
  · rw [hticks, TimeTicks.modifyTimer_softtimer, h.registered]
  · rw [htimer, hcb, h.cb]
  · rw [htimer, hoff]

/-- The callbacks do not touch the timers. -/
lemma calls_ticks (l : List Callback) (s : System WakeupHw) :
    (l.foldl (fun s cb => cb.call s) s).plat.ticks = s.plat.ticks := by
  induction l generalizing s with
  | nil => rfl
  | cons cb l ih => exact (ih _).trans (by cases cb; rfl)

lemma tick_ticks (s : System WakeupHw) :
    (tick s).plat.ticks = (timerTickServer s.plat.ticks).2 :=
  calls_ticks _ _

/-- A tick, when the timer is the one that is registered. -/
lemma TimerReady.tick_timer (h : TimerReady s) : (tick s).timer = (softtimerTick s.timer).2 := by
  rw [System.timer, tick_ticks]
  exact (timerTickServer_single h.registered).2.2

lemma TimerReady.tick (h : TimerReady s) : TimerReady (tick s) := by
  refine ⟨?_, ?_⟩
  · rw [tick_ticks]
    exact (timerTickServer_single h.registered).2.1
  · rw [h.tick_timer, (softtimerTick_kept s.timer).2.1, h.cb]

lemma TimerReady.ticks (h : TimerReady s) (n : ℕ) :
    TimerReady (Standby.tick^[n] s) ∧
    (Standby.tick^[n] s).timer = (fun t => (softtimerTick t).2)^[n] s.timer := by
  induction n with
  | zero => exact ⟨h, rfl⟩
  | succ n ih =>
      rw [Function.iterate_succ_apply', Function.iterate_succ_apply', ← ih.2]
      exact ⟨ih.1.tick, ih.1.tick_timer⟩

lemma interruptEntry_ticks (intno : ℕ) (s : System WakeupHw) :
    (interruptEntry intno s).plat.ticks = s.plat.ticks := by
  rw [interruptEntry]
  split_ifs <;> rfl

/-- What comes in a wait leaves the timer ready. -/
lemma TimerReady.come (h : TimerReady s) (l : List WaitEvent) :
    TimerReady (l.foldl WaitEvent.come s) := by
  induction l generalizing s with
  | nil => exact h
  | cons e l ih =>
      refine ih (s := WaitEvent.come s e) ?_
      cases e with
      | tick => exact h.tick
      | interrupt intno =>
          have hticks := interruptEntry_ticks intno s
          exact ⟨hticks ▸ h.registered,
            (congrArg (fun t => (t.timer wakeupTimer).cb) hticks).trans h.cb⟩

/-- What a request to set a source does to the timers. -/
lemma setWakeupSrc_ticks (m : Message) (s : System WakeupHw) :
    (setWakeupSrc (wakeupDrivers D) m s).2.plat.ticks =
      if m.para 0 >>> 30 &&& 3 = 3 then
        s.plat.ticks.modifyTimer wakeupTimer fun t =>
          { t with cycle := (msecToTicks (m.para 0 &&& 0x3fffffff)).toBitVec.toInt }
      else s.plat.ticks := by
  by_cases htype : m.para 0 >>> 30 &&& 3 = 3
  · rw [if_pos htype, setWakeupSrc, if_pos htype]
    rfl
  · rw [if_neg htype, setWakeupSrc, if_neg htype]
    simp only
    split_ifs <;> rfl

lemma clearWakeupSrc_ticks (m : Message) (s : System WakeupHw) :
    (clearWakeupSrc (wakeupDrivers D) m s).2.plat.ticks =
      if m.para 0 >>> 30 &&& 3 = 3 then
        s.plat.ticks.modifyTimer wakeupTimer fun t =>
          { stopSofttimer t with cycle := 0, expires := 0 }
      else s.plat.ticks := by
  by_cases htype : m.para 0 >>> 30 &&& 3 = 3
  · rw [if_pos htype, clearWakeupSrc, if_pos htype]
    rfl
  · rw [if_neg htype, clearWakeupSrc, if_neg htype]
    simp only
    split_ifs <;> rfl

lemma TimerReady.afterStart (h : TimerReady s) : TimerReady (wakeupTimerStart s) := by
  refine h.modify ?_
  split_ifs <;> rfl

lemma TimerIdle.set (h : TimerIdle s) (m : Message) :
    TimerIdle (setWakeupSrc (wakeupDrivers D) m s).2 := by
  have hticks := setWakeupSrc_ticks (D := D) m s
  split_ifs at hticks
  · exact h.toTimerReady.idle_of_ticks_eq hticks rfl h.off
  · exact h.of_ticks_eq hticks

lemma TimerIdle.clear (h : TimerIdle s) (m : Message) :
    TimerIdle (clearWakeupSrc (wakeupDrivers D) m s).2 := by
  have hticks := clearWakeupSrc_ticks (D := D) m s
  split_ifs at hticks
  · exact h.toTimerReady.idle_of_ticks_eq hticks rfl rfl
  · exact h.of_ticks_eq hticks

/-- Between standbys the timer is registered, and does not run. -/
lemma TimerReached.idle (h : TimerReached D s) : TimerIdle s := by
  induction h with
  | init s hlock hempty =>
      have htimer : (wakeupTimerInit s).timer =
          ⟨0, 0, some .wakeupTimerHandler, .softtimerOff⟩ := by
        rw [System.timer, wakeupTimerInit, addSofttimer_timer]
        exact modifyWakeupTimer_timer _
      refine ⟨⟨addSofttimer_softtimer hlock hempty, ?_⟩, ?_⟩
      · rw [htimer]
      · rw [htimer]
  | set m _ ih => exact ih.set m
  | clear m _ ih => exact ih.clear m
  | @tick s h ih =>
      refine ⟨ih.toTimerReady.tick, ?_⟩
      rw [ih.tick_timer, softtimerTick_off ih.off, ih.off]
  | @interrupt s intno h ih => exact ih.of_ticks_eq (interruptEntry_ticks intno s)
  | @wait s l h ih => exact (ih.toTimerReady.afterStart.come l).idle_of_ticks_eq rfl rfl rfl

/-! ### The timed wakeup -/

/-- `wakeup_timer_handler` is called at the tick after `n` others. -/
def CalledAt (s : System WakeupHw) (n : ℕ) : Prop :=
  .wakeupTimerHandler ∈ (timerTickServer (tick^[n] s).plat.ticks).1

/-- The wakeup after `ms` milliseconds: the timer runs, and for a number `k` of ticks that is
`ms` in ticks or one more, the handler is called at the ticks that `k` divides. -/
structure FiresOnTime (ms : ℕ) (s : System WakeupHw) : Prop where
  running : s.timer.start = .softtimerOn
  fires : ∃ k, ms * 100 / 1000 ≤ k ∧ k ≤ ms * 100 / 1000 + 1 ∧ ∀ n, CalledAt s n ↔ k ∣ n + 1

lemma TimerReady.calledAt_iff (h : TimerReady s) (n : ℕ) :
    CalledAt s n ↔
      (softtimerTick ((fun t => (softtimerTick t).2)^[n] s.timer)).1 =
        some .wakeupTimerHandler := by
  obtain ⟨hready, htimer⟩ := h.ticks n
  rw [CalledAt, (timerTickServer_single hready.registered).1, Option.mem_toList, ← htimer]
  rfl

/-- A timer with a cycle that is started fires at the ticks that the cycle and one divide. -/
lemma TimerReady.started (h : TimerReady s) {c : ℕ} (hc : c ≠ 0) (hcycle : s.timer.cycle = c) :
    (wakeupTimerStart s).timer.start = .softtimerOn ∧
    ∀ n, CalledAt (wakeupTimerStart s) n ↔ c + 1 ∣ n + 1 := by
  have hne : s.timer.cycle ≠ 0 := by
    rw [hcycle]
    exact_mod_cast hc
  have htimer : (wakeupTimerStart s).timer = startSofttimer s.timer := by
    rw [wakeupTimerStart, modifyWakeupTimer_timer, if_pos hne]
  refine ⟨by rw [htimer]; rfl, fun n => ?_⟩
  rw [h.afterStart.calledAt_iff, htimer]
  exact softtimerTick_called_iff (t := startSofttimer s.timer) rfl hcycle hcycle h.cb n

/-- Without a cycle, the timer stays off. -/
lemma TimerIdle.not_started (h : TimerIdle s) (hcycle : s.timer.cycle = 0) :
    (wakeupTimerStart s).timer.start = .softtimerOff := by
  rw [wakeupTimerStart, modifyWakeupTimer_timer, if_neg (not_not.mpr hcycle), h.off]

/-- The cycle for a number of milliseconds, with the product cut off to 32 bits. -/
lemma msecToTicks_toInt (ms : UInt32) :
    (msecToTicks ms).toBitVec.toInt = ((100 * ms.toNat) % 2 ^ 32 / 1000 : ℕ) := by
  have hval : (msecToTicks ms).toNat = (100 * ms.toNat) % 2 ^ 32 / 1000 := by
    rw [msecToTicks, UInt32.toNat_div, UInt32.toNat_mul]
    rfl
  have hlt : (100 * ms.toNat) % 2 ^ 32 < 2 ^ 32 := Nat.mod_lt _ (by decide)
  rw [BitVec.toInt_eq_toNat_of_lt (by rw [UInt32.toNat_toBitVec, hval]; omega),
    UInt32.toNat_toBitVec, hval]

/-- The words of a request for a timed wakeup. -/
lemma timerMessage {T : UInt32} (hT : T < 0x40000000) :
    (0xc0000000 ||| T) >>> 30 &&& 3 = 3 ∧ (0xc0000000 ||| T) &&& 0x3fffffff = T := by
  have hlt : T.toNat < 2 ^ 30 := hT
  have hword : (0xc0000000 ||| T).toNat = 2 ^ 30 * 3 + T.toNat := by
    rw [UInt32.toNat_or, Nat.two_pow_add_eq_or_of_lt hlt 3]
    rfl
  constructor
  · have htype : (2 ^ 30 * 3 + T.toNat) / 2 ^ 30 = 3 := by omega
    refine UInt32.toNat_inj.mp ?_
    rw [UInt32.toNat_and, UInt32.toNat_shiftRight, hword]
    simp only [UInt32.reduceToNat, Nat.reduceMod, Nat.shiftRight_eq_div_pow, htype]
    rfl
  · refine UInt32.toNat_inj.mp ?_
    rw [and_toNat (k := 30) rfl, hword]
    omega

/-- The cycle after a request for a timed wakeup. -/
lemma setWakeupSrc_cycle {m : Message} {T : UInt32} (hT : T < 0x40000000)
    (hm : m.para 0 = 0xc0000000 ||| T) :
    (setWakeupSrc (wakeupDrivers D) m s).2.timer.cycle =
      ((100 * T.toNat) % 2 ^ 32 / 1000 : ℕ) := by
  obtain ⟨htype, htime⟩ := timerMessage hT
  rw [System.timer, setWakeupSrc_ticks, hm, if_pos htype, htime, TimeTicks.modifyTimer_timer]
  exact msecToTicks_toInt T

/-- The multiples tell the number. -/
lemma eq_of_dvd_iff {c k : ℕ} (h : ∀ n, c + 1 ∣ n + 1 ↔ k ∣ n + 1) : k = c + 1 := by
  have hk : k ∣ c + 1 := (h c).mp dvd_rfl
  have hpos : 0 < k := Nat.pos_of_dvd_of_pos hk (Nat.succ_pos c)
  refine Nat.dvd_antisymm hk ?_
  have hself := (h (k - 1)).mpr (by rw [Nat.sub_add_cancel hpos])
  rwa [Nat.sub_add_cancel hpos] at hself

/-- **The timed wakeup**: a time of `T` milliseconds that is set between standbys makes the
timer run once it is started, and call its handler every time these milliseconds in ticks, or
one more, have passed, if and only if they last a tick and their product with the ticks of a
second fits 32 bits. -/
theorem firesOnTime_iff (D : Drivers WakeupHw) (hs : TimerReached D s) {m : Message} {T : UInt32}
    (hT : T < 0x40000000) (hm : m.para 0 = 0xc0000000 ||| T) :
    FiresOnTime T.toNat (wakeupTimerStart (setWakeupSrc (wakeupDrivers D) m s).2) ↔
      10 ≤ T.toNat ∧ 100 * T.toNat < 2 ^ 32 := by
  have hidle : TimerIdle (setWakeupSrc (wakeupDrivers D) m s).2 := (hs.set m).idle
  have hcycle := setWakeupSrc_cycle (D := D) (s := s) hT hm
  have hfits : 100 * T.toNat < 2 ^ 32 → (100 * T.toNat) % 2 ^ 32 = 100 * T.toNat :=
    Nat.mod_eq_of_lt
  have hcut : 2 ^ 32 ≤ 100 * T.toNat → (100 * T.toNat) % 2 ^ 32 + 2 ^ 32 ≤ 100 * T.toNat := by
    intro hge
    have hdiv : 1 ≤ 100 * T.toNat / 2 ^ 32 := Nat.div_pos hge (by decide)
    have hsum := Nat.mod_add_div (100 * T.toNat) (2 ^ 32)
    nlinarith
  generalize (100 * T.toNat) % 2 ^ 32 = r at hcycle hfits hcut
  by_cases hzero : r / 1000 = 0
  · -- the timer is not started
    have hoff := hidle.not_started (by rw [hcycle, hzero]; rfl)
    refine iff_of_false (fun h => ?_) (by omega)
    exact SofttimerOnoff.noConfusion (hoff.symm.trans h.running)
  · obtain ⟨hon, hcalls⟩ := hidle.started hzero hcycle
    constructor
    · rintro ⟨_, k, hlow, _, hk⟩
      have heq := eq_of_dvd_iff fun n => (hcalls n).symm.trans (hk n)
      by_cases hge : 2 ^ 32 ≤ 100 * T.toNat
      · have hr := hcut hge
        omega
      · have hr := hfits (by omega)
        omega
    · rintro ⟨hlow, hhigh⟩
      have hr := hfits hhigh
      exact ⟨hon, _, by omega, by omega, hcalls⟩

end Reached

/-- A request for a wakeup after `T` milliseconds. -/
def timerRequest (T : UInt32) : Message :=
  ⟨0, 2, setWakeupSrcReq, 0, 1, some fun _ => 0xc0000000 ||| T⟩

/-- Five milliseconds are less than a tick, and the timer is not started. -/
theorem firesOnTime_not_five :
    ¬ FiresOnTime 5 (wakeupTimerStart (setWakeupSrc (wakeupDrivers quietDrivers)
      (timerRequest 5) (wakeupTimerInit startSystem)).2) := by
  intro h
  have hon := h.running
  revert hon
  decide +kernel

/-- A second is fine. -/
theorem firesOnTime_second :
    FiresOnTime 1000 (wakeupTimerStart
      (setWakeupSrc (wakeupDrivers quietDrivers) (timerRequest 1000)
        (wakeupTimerInit startSystem)).2) :=
  (firesOnTime_iff quietDrivers (T := 1000) (.init startSystem rfl rfl) (by decide) rfl).mpr
    (by decide)

end A733Boot.Ar100s.Standby
