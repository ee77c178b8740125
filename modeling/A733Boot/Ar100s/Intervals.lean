/-
The intervals of the two timers, over the changes of their clock.

* `Clocked`, `Exact`, `Sound`: every interval is the exact number of ticks of the last period
  that was accepted, on the clock that there is;
* `State`, `Step`: the system with the periods that were accepted, and one event;
* `Clocked.next`, `exact_next_iff`: what an event does to both;
* **`timers_sound_iff`**: the intervals are exact all along a run exactly when, whenever the
  crystal comes back, the last accepted periods fit its ticks;
* `slow_start`: a run that starts a timer while the crystal is off.
-/
import A733Boot.Ar100s.Timer
import A733Boot.Library.Runs

namespace A733Boot.Ar100s.Timer

open Fueled Counter

/-! ### Runs -/

/-- The driver is open, and all timers run on the clock that there is: on 32 kHz while the
crystal is off, on 24 MHz while it is on. -/
structure Clocked (off : Bool) (v : View) : Prop where
  lock : v.timerLock = 0
  source : ∀ n, Field clkSrcMask ((if off then 1 else 4 : UInt32) <<< 4) (v.clk n)
  ticks : ∀ n, v.msTicks n = if off then 32 else 24000

/-- The interval of each timer that was started is the exact number of ticks of the last period
that was accepted for it. -/
def Exact (v : View) (accepted : TimerNo → Option UInt32) : Prop :=
  ∀ n p, accepted n = some p → (v.ivl n).toNat = (v.msTicks n).toNat * p.toNat

/-- The system, the last period that was accepted for each timer, and whether the crystal is
off. -/
structure State where
  sys : Sys
  accepted : TimerNo → Option UInt32
  hoscOff : Bool

/-- The notifications of the crystal alternate. -/
def Allowed (off : Bool) : Event → Prop
  | .willOff => off = false
  | .onReady => off = true
  | _ => True

def hoscAfter (off : Bool) : Event → Bool
  | .willOff => true
  | .onReady => false
  | _ => off

/-- The period that was accepted replaces the one before. -/
def note (accepted : TimerNo → Option UInt32) :
    Option (TimerNo × UInt32) → TimerNo → Option UInt32
  | some (n, period) => Function.update accepted n (some period)
  | none => accepted

/-- One event, from start to return. -/
structure Step (d : Device) (s : State) (e : Event) (s' : State) : Prop where
  allowed : Allowed s.hoscOff e
  runs : ∃ fuel, exec d fuel e s.sys = some ((), s'.sys)
  accepted : s'.accepted = note s.accepted (s.sys.view.accepts e)
  hoscOff : s'.hoscOff = hoscAfter s.hoscOff e

structure Sound (s : State) : Prop where
  clocked : Clocked s.hoscOff s.sys.view
  exact : Exact s.sys.view s.accepted

/-- When the crystal comes back, the ticks of the last accepted periods fit 32 bits. -/
def Fits (s : State) (e : Event) : Prop :=
  e = .onReady → ∀ n p, s.accepted n = some p → 24000 * p.toNat < 2 ^ 32

section Steps

variable {v : View} {off : Bool} {accepted : TimerNo → Option UInt32}

lemma withSource_field (value src : UInt32) (h : src <<< 4 &&& clkSrcMask = src <<< 4) :
    Field clkSrcMask (src <<< 4) (View.withSource value src) := Field.set value h

lemma Clocked.started (h : Clocked off v) (p : Option (TimerNo × UInt32)) :
    Clocked off (v.started p) := by
  cases p with
  | none => exact h
  | some p => exact ⟨h.lock, h.source, h.ticks⟩

lemma Clocked.requested (h : Clocked off v) : Clocked off v.requested := by
  rw [View.requested]
  split
  · exact ⟨h.lock, h.source, h.ticks⟩
  · exact h

/-- The clocks follow the crystal. -/
lemma Clocked.next (h : Clocked off v) {e : Event} (he : Allowed off e) :
    Clocked (hoscAfter off e) (v.next e) := by
  have hlock : ¬ v.timerLock ≠ 0 := fun hne => hne h.lock
  cases e with
  | request =>
    rw [View.next, if_neg hlock]
    exact h.requested
  | start n period mode => exact h.started _
  | mdelay ms => exact h.started _
  | willOff =>
    rw [View.next, if_neg hlock]
    exact ⟨h.lock, fun n => withSource_field (v.clk n) 1 (by decide), fun _ => rfl⟩
  | onReady =>
    rw [View.next, if_neg hlock]
    exact ⟨h.lock, fun n => withSource_field (v.clk n) 4 (by decide), fun _ => rfl⟩

/-- A period is accepted only if its ticks fit. -/
lemma accepts_lt {e : Event} {n : TimerNo} {p : UInt32} (h : v.accepts e = some (n, p)) :
    (v.msTicks n).toNat * p.toNat < 2 ^ 32 := by
  cases e with
  | start i period mode =>
    rw [View.accepts] at h
    split at h
    · rename_i hacc
      obtain ⟨rfl, rfl⟩ := Prod.mk.inj (Option.some.inj h)
      exact hacc.2.2.2.2
    · cases h
  | mdelay ms =>
    rw [View.accepts] at h
    split at h
    · rename_i hacc
      obtain ⟨rfl, rfl⟩ := Prod.mk.inj (Option.some.inj h)
      exact hacc.2.2
    · cases h
  | request => cases h
  | willOff => cases h
  | onReady => cases h

/-- Starting a timer sets its interval to the ticks of the period. -/
lemma Exact.started (h : Exact v accepted) {e : Event} :
    Exact (v.started (v.accepts e)) (note accepted (v.accepts e)) := by
  cases hacc : v.accepts e with
  | none => exact h
  | some a =>
    obtain ⟨i, period⟩ := a
    intro n p hp
    by_cases heq : n = i
    · subst heq
      obtain rfl : period = p := by
        rw [note, Function.update_self] at hp
        exact Option.some.inj hp
      rw [View.started, View.setIvl_self, View.setIvl_msTicks,
        UInt32.toNat_ofNat_of_lt' (accepts_lt hacc)]
    · rw [note, Function.update_of_ne heq] at hp
      rw [View.started, View.setIvl_of_ne v _ heq, View.setIvl_msTicks]
      exact h n p hp

/-- Scaling down divides the ticks of a whole period, and loses nothing. -/
lemma Exact.slowed (h : Exact v accepted) (hclk : Clocked false v) :
    Exact v.slowed accepted := by
  intro n p hp
  have hivl := h n p hp
  rw [hclk.ticks n, if_neg (by decide), show UInt32.toNat 24000 = 24000 from rfl] at hivl
  rw [View.slowed, UInt32.toNat_div, hivl, show UInt32.toNat 750 = 750 from rfl,
    show UInt32.toNat 32 = 32 from rfl]
  omega

/-- Scaling up is exact for the periods whose ticks fit, and for no other. -/
lemma Exact.restored_iff (h : Exact v accepted) (hclk : Clocked true v) :
    Exact v.restored accepted ↔ ∀ n p, accepted n = some p → 24000 * p.toNat < 2 ^ 32 := by
  have hivl : ∀ n p, accepted n = some p →
      (v.restored.ivl n).toNat = 24000 * p.toNat % 2 ^ 32 := by
    intro n p hp
    have hslow := h n p hp
    rw [hclk.ticks n, if_pos rfl, show UInt32.toNat 32 = 32 from rfl] at hslow
    rw [View.restored, UInt32.toNat_mul, hslow, show UInt32.toNat 750 = 750 from rfl]
    omega
  have hticks : ∀ n, (v.restored.msTicks n).toNat = 24000 := fun _ => rfl
  constructor
  · intro hexact n p hp
    have heq := hexact n p hp
    rw [hivl n p hp, hticks] at heq
    omega
  · intro hfits n p hp
    have hlt := hfits n p hp
    rw [hivl n p hp, hticks, Nat.mod_eq_of_lt hlt]

/-- A step keeps the intervals exact if and only if they fit. -/
lemma exact_next_iff (h : Exact v accepted) (hclk : Clocked off v) {e : Event}
    (he : Allowed off e) : Exact (v.next e) (note accepted (v.accepts e)) ↔
      (e = .onReady → ∀ n p, accepted n = some p → 24000 * p.toNat < 2 ^ 32) := by
  have hlock : ¬ v.timerLock ≠ 0 := fun hne => hne hclk.lock
  cases e with
  | request =>
    refine iff_of_true ?_ (by simp)
    rw [View.next, if_neg hlock, View.requested]
    split
    · exact h
    · exact h
  | start n period mode => exact iff_of_true h.started (by simp)
  | mdelay ms => exact iff_of_true h.started (by simp)
  | willOff =>
    refine iff_of_true ?_ (by simp)
    obtain rfl : off = false := he
    rw [View.next, if_neg hlock]
    exact h.slowed hclk
  | onReady =>
    obtain rfl : off = true := he
    rw [View.next, if_neg hlock]
    exact (h.restored_iff hclk).trans ⟨fun hall _ => hall, fun hall => hall rfl⟩

end Steps

/-! ### From the start -/

/-- What `timer_init` makes of the view. -/
def View.initial (v : View) : View where
  timerLock := 0
  status := Function.update v.status 0 .used
  msTicks := fun _ => 24000
  ivl := v.ivl
  clk n := View.withSource (v.clk n) 4 &&& ~~~clkPreMask ||| 0 ||| 1

section Runs

variable {d : Device} (hd : Plain d)
include hd

lemma timerInit_acts : Acts (timerInit d) View.initial := by
  have hone := fun n => ((Acts.io (.writel 0 (mem_controlRegs n))).bind fun _ =>
    (Acts.modifyl_clk hd (fun value => View.withSource value 4) n).bind fun _ =>
      (Acts.modifyl_clk hd (fun value => value &&& ~~~clkPreMask ||| 0 ||| 1) n).bind fun _ =>
        Acts.msTicks n 24000)
  have hused : Acts (modify fun s => { s with
      status := Function.update s.status 0 .used } : Prog Unit) (fun v => v.setStatus 0 .used) :=
    Acts.modify fun _ => rfl
  have hopen : Acts (modify fun s => { s with timerLock := 0 } : Prog Unit)
      (fun v => { v with timerLock := 0 }) := Acts.modify fun _ => rfl
  refine (((hone 0).bind fun _ => hone 1).bind fun _ => hused.bind fun _ =>
    (Acts.io (modifyl_within _ (mem_controlRegs 0))).bind fun _ => hopen.bind fun _ =>
      Acts.pure 0).congr (funext fun v => ?_)
  refine View.ext rfl rfl ?_ rfl ?_ <;> funext n <;> fin_cases n <;> rfl

lemma timerInit_clocked {s s' : Sys} {r : ℤ} (h : timerInit d s = some (r, s')) :
    Clocked false s'.view := by
  rw [timerInit_acts hd s r s' h]
  refine ⟨rfl, fun n => ?_, fun _ => rfl⟩
  have hset := withSource_field (s.view.clk n) 4 (by decide)
  exact ((hset.and_not (by decide)).or (by decide)).or (by decide)

/-- **The intervals of the timers.** In a run of requests, starts, delays and alternating
notifications of the crystal from `timer_init` on, every state has the intervals that it should
if and only if, each time the crystal comes back, the ticks of the last accepted periods fit a
word. -/
theorem timers_sound_iff {sys sys₀ : Sys} {r : ℤ} (hinit : timerInit d sys = some (r, sys₀))
    {steps : List (State × Event)} {t : State}
    (hrun : Run (Step d) ⟨sys₀, fun _ => none, false⟩ steps t) :
    (∀ p ∈ steps, Sound p.1) ∧ Sound t ↔ ∀ p ∈ steps, Fits p.1 p.2 := by
  have hclocked : ∀ s e s', Clocked s.hoscOff s.sys.view → Step d s e s' →
      Clocked s'.hoscOff s'.sys.view := by
    intro s e s' hclk hstep
    obtain ⟨fuel, hexec⟩ := hstep.runs
    rw [hstep.hoscOff, exec_view hd hexec]
    exact hclk.next hstep.allowed
  refine hrun.all_iff (I := fun s => Clocked s.hoscOff s.sys.view) hclocked ?_
    (timerInit_clocked hd hinit) ⟨timerInit_clocked hd hinit, fun n p hp => nomatch hp⟩
  intro s e s' hclk hsound hstep
  obtain ⟨fuel, hexec⟩ := hstep.runs
  have hiff := exact_next_iff hsound.exact hclk hstep.allowed
  rw [← exec_view hd hexec, ← hstep.accepted] at hiff
  exact ⟨fun h => hiff.mp h.exact, fun h => ⟨hclocked s e s' hclk hstep, hiff.mpr h⟩⟩

end Runs

/-! ### Two runs -/

/-- The program returns from every state. -/
def Returns {α : Type} (m : Prog α) : Prop := ∀ s, ∃ a s', m s = some (a, s')

namespace Returns

variable {α β : Type} {m : Prog α} {k : α → Prog β}

lemma pure (a : α) : Returns (Pure.pure a : Prog α) := fun s => ⟨a, s, rfl⟩

lemma bind (hm : Returns m) (hk : ∀ a, Returns (k a)) : Returns (m >>= k) := by
  intro s
  obtain ⟨a, s₁, h⟩ := hm s
  rw [bind_of_some _ h]
  exact hk a s₁

lemma ite {c : Prop} [Decidable c] {m' : Prog α} (h : Returns m) (h' : Returns m') :
    Returns (if c then m else m') := by
  split
  · exact h
  · exact h'

lemma io (m : Io α) : Returns (Timer.io m) := fun _ => ⟨_, _, rfl⟩

lemma onIntc (m : StateM Intc α) : Returns (Timer.onIntc m) := fun _ => ⟨_, _, rfl⟩

lemma get : Returns (MonadState.get : Prog Sys) := fun s => ⟨s, s, rfl⟩

lemma modify (t : Sys → Sys) : Returns (modifyGet fun s => ((), t s) : Prog Unit) :=
  fun s => ⟨(), t s, rfl⟩

end Returns

section Totality

variable (d : Device)

lemma timerRequest_returns : Returns timerRequest := by
  refine .bind .get fun s => .ite (.pure _) ?_
  split
  · exact .pure _
  · exact .bind (.modify _) fun _ => .bind (.onIntc _) fun _ =>
      .ite (.bind (.modify _) fun _ => .pure _) (.pure _)

lemma timerStart_returns (n : TimerNo) (period mode : UInt32) :
    Returns (timerStart d n period mode) := by
  refine .bind .get fun s => .ite (.pure _) (.ite (.pure _) (.ite (.pure _) ?_))
  refine .bind (.io _) fun _ => .bind (.io _) fun _ => .bind (.io _) fun _ => .ite (.pure _) ?_
  refine .bind (.io _) fun _ => .bind (.io _) fun _ => .ite (.pure _) ?_
  refine .bind (.io _) fun _ => .bind (.onIntc _) fun _ => .ite (.pure _) ?_
  exact .bind (.io _) fun _ => .pure _

lemma timerHoscOnoffCb_returns (message : HoscMessage) : Returns (timerHoscOnoffCb d message) := by
  refine .bind .get fun s => .ite (.pure _) ?_
  cases message with
  | willOff =>
    have hone : ∀ n, Returns (slowTimer d n) := fun n =>
      .bind (.io _) fun _ => .bind (.modify _) fun _ => .io _
    exact .bind (.bind (hone 0) fun _ => hone 1) fun _ => .pure _
  | onReady =>
    have hone : ∀ n, Returns (restoreTimer d n) := fun n =>
      .bind (.io _) fun _ => .bind (.io _) fun _ => .modify _
    exact .bind (.bind (hone 0) fun _ => hone 1) fun _ => .pure _
  | other => exact .pure _

/-- Every event but a delay, which waits for the hardware, returns. -/
lemma exec_returns {e : Event} (he : ∀ ms, e ≠ .mdelay ms) : Returns (exec d 0 e) := by
  cases e with
  | request => exact .bind timerRequest_returns fun _ => .pure _
  | start n period mode => exact .bind (timerStart_returns d n period mode) fun _ => .pure _
  | mdelay ms => exact absurd rfl (he ms)
  | willOff => exact .bind (timerHoscOnoffCb_returns d .willOff) fun _ => .pure _
  | onReady => exact .bind (timerHoscOnoffCb_returns d .onReady) fun _ => .pure _

end Totality

/-- The state that an event leads to, as far as the intervals depend on it. -/
lemma exists_step {d : Device} (hd : Plain d) (s : State) {e : Event} (he : ∀ ms, e ≠ .mdelay ms)
    (hallowed : Allowed s.hoscOff e) :
    ∃ sys, Step d s e ⟨sys, note s.accepted (s.sys.view.accepts e), hoscAfter s.hoscOff e⟩ ∧
      sys.view = s.sys.view.next e := by
  obtain ⟨_, sys, hexec⟩ := exec_returns d he s.sys
  exact ⟨sys, ⟨hallowed, ⟨0, hexec⟩, rfl, rfl⟩, exec_view hd hexec⟩

/-- Timers whose control registers read as zero: they reload and acknowledge at once. -/
def idleDevice : Device where
  live a := if a ∈ controlRegs then 0xffffffff else 0
  sense _ _ := 0

lemma idleDevice_plain : Plain idleDevice := ⟨by decide, by decide⟩

/-- Such a timer starts without an error once the interval is written. -/
lemma timerArm_idle (n : TimerNo) (mode : UInt32) (s : Sys) :
    ∃ s', timerArm idleDevice n mode s = some (0, s') := by
  have hview : ∀ a ∈ controlRegs, ∀ r : Regs, idleDevice.view r a = 0 := by
    intro a ha r
    have hand := idleDevice.view_and_live r a
    rwa [show idleDevice.live a = 0xffffffff from if_pos ha,
      show (0xffffffff : UInt32) = -1 from rfl, UInt32.and_neg_one, UInt32.and_neg_one] at hand
  have hclear : ∀ a ∈ controlRegs, ∀ mask r, (timerWaitClear idleDevice a mask r).1 = 0 := by
    intro a ha mask r
    have hpoll := (poll_eq_true_iff idleDevice a (fun value => value &&& mask = 0)
      extTimerPollLimit r).mpr ⟨0, by decide, by rw [hview a ha, UInt32.zero_and]; rfl⟩
    rw [timerWaitClear, bind_apply, hpoll]
    rfl
  have hack : ∀ r, (timerAckPending idleDevice n r).1 = 0 :=
    fun r => hclear extTimerStaReg (by decide) _ _
  have hirq : ∀ c, (interruptEnable (irqNo n) c).1 = 0 := fun _ => rfl
  have hzero : ∀ r : ℤ, r = 0 → ¬ r ≠ 0 := fun r h => not_not.mpr h
  rw [timerArm, io_bind, io_bind, if_neg (hzero _ (hclear _ (mem_controlRegs n) _ _)), io_bind,
    io_bind, if_neg (hzero _ (hack _)), io_bind, onIntc_bind, if_neg (hzero _ (hirq _)),
    io_bind]
  exact ⟨_, rfl⟩

/-- The system before `timer_init`, as it is at reset. -/
def bootSys : Sys where
  regs := ⟨fun _ => 0, 0, []⟩
  intc := ⟨fun _ => 0, fun _ => 0, 0, 0, fun _ => 0, fun _ => .isrDefault⟩
  timerLock := 1
  status _ := .free
  msTicks _ := 0

/-- Only the second timer has a period. -/
def second (period : UInt32) : TimerNo → Option UInt32 :=
  Function.update (fun _ => none) 1 (some period)

lemma second_eq_some {period p : UInt32} {n : TimerNo} (h : second period n = some p) :
    p = period := by
  by_cases hn : n = 1
  · rw [hn, second, Function.update_self] at h
    exact (Option.some.inj h).symm
  · rw [second, Function.update_of_ne hn] at h
    cases h

/-- A run that starts the second timer, without an error, while the crystal is off, and ends
when the crystal is back. -/
lemma slow_start (period : UInt32) (hperiod : period ≠ 0) (hlt : 32 * period.toNat < 2 ^ 32) :
    ∃ sys₀ sys₁ sys₂ sys₃ sys₄, timerInit idleDevice bootSys = some (0, sys₀) ∧
      (∃ sys, timerStart idleDevice 1 period 1 sys₂ = some (0, sys)) ∧
      Run (Step idleDevice) ⟨sys₀, fun _ => none, false⟩
        [(⟨sys₀, fun _ => none, false⟩, .request), (⟨sys₁, fun _ => none, false⟩, .willOff),
          (⟨sys₂, fun _ => none, true⟩, .start 1 period 1), (⟨sys₃, second period, true⟩, .onReady)]
        ⟨sys₄, second period, false⟩ ∧
      (sys₄.view.ivl 1) = UInt32.ofNat (32 * period.toNat) * 750 := by
  have hd := idleDevice_plain
  obtain ⟨sys₀, hinit⟩ : ∃ sys₀, timerInit idleDevice bootSys = some (0, sys₀) := ⟨_, rfl⟩
  have h₀ := timerInit_acts hd _ _ _ hinit
  obtain ⟨sys₁, hstep₁, h₁⟩ := exists_step hd ⟨sys₀, fun _ => none, false⟩ (e := .request)
    (fun _ h => nomatch h) trivial
  obtain ⟨sys₂, hstep₂, h₂⟩ := exists_step hd ⟨sys₁, fun _ => none, false⟩ (e := .willOff)
    (fun _ h => nomatch h) rfl
  rw [h₁, h₀] at h₂
  have hacc : sys₂.view.accepts (.start 1 period 1) = some (1, period) := by
    rw [h₂]
    exact if_pos ⟨rfl, rfl, hperiod, by decide, hlt⟩
  obtain ⟨sys₃, hstep₃, h₃⟩ := exists_step hd ⟨sys₂, fun _ => none, true⟩
    (e := .start 1 period 1) (fun _ h => nomatch h) trivial
  obtain ⟨sys₄, hstep₄, h₄⟩ := exists_step hd ⟨sys₃, second period, true⟩ (e := .onReady)
    (fun _ h => nomatch h) rfl
  refine ⟨sys₀, sys₁, sys₂, sys₃, sys₄, hinit, ?_, ?_, ?_⟩
  · obtain ⟨-, heq⟩ := timerStart_accepted (d := idleDevice) hacc
    rw [heq, io_bind]
    exact timerArm_idle 1 1 _
  · refine .cons hstep₁ (.cons hstep₂ (.cons ?_ (.cons hstep₄ (.nil _))))
    rw [hacc] at hstep₃
    exact hstep₃
  · rw [h₄, h₃]
    show (View.next (sys₂.view.started (sys₂.view.accepts (.start 1 period 1))) .onReady).ivl 1 = _
    rw [hacc, h₂]
    rfl

/-- A period of 100 ms keeps its interval when the crystal comes back. -/
theorem timers_sound_short :
    ∃ sys₀ steps t, timerInit idleDevice bootSys = some (0, sys₀) ∧
      Run (Step idleDevice) ⟨sys₀, fun _ => none, false⟩ steps t ∧
      t.accepted 1 = some 100 ∧ (∀ p ∈ steps, Sound p.1) ∧ Sound t := by
  obtain ⟨sys₀, sys₁, sys₂, sys₃, sys₄, hinit, -, hrun, -⟩ :=
    slow_start 100 (by decide) (by decide)
  refine ⟨sys₀, _, _, hinit, hrun, rfl, (timers_sound_iff idleDevice_plain hinit hrun).mpr ?_⟩
  intro p hp heq n q hq
  simp only [List.mem_cons, List.not_mem_nil, or_false] at hp
  rcases hp with rfl | rfl | rfl | rfl
  · cases heq
  · cases heq
  · cases heq
  · obtain rfl := second_eq_some hq
    decide

/-- A period of 200000 ms that is accepted while the crystal is off: when it comes back, the
interval is 505032704 ticks instead of 4800000000. -/
theorem timers_wrap :
    ∃ sys₀ steps s t, timerInit idleDevice bootSys = some (0, sys₀) ∧
      Run (Step idleDevice) ⟨sys₀, fun _ => none, false⟩ steps t ∧
      steps.map Prod.snd = [.request, .willOff, .start 1 200000 1, .onReady] ∧
      (s, .start 1 200000 1) ∈ steps ∧
      (∃ sys, timerStart idleDevice 1 200000 1 s.sys = some (0, sys)) ∧
      t.accepted 1 = some 200000 ∧ t.sys.view.ivl 1 = 505032704 ∧ ¬ Sound t := by
  obtain ⟨sys₀, sys₁, sys₂, sys₃, sys₄, hinit, hstart, hrun, hivl⟩ :=
    slow_start 200000 (by decide) (by decide)
  have hivl' : sys₄.view.ivl 1 = 505032704 := hivl.trans (by decide)
  refine ⟨sys₀, _, ⟨sys₂, fun _ => none, true⟩, _, hinit, hrun, rfl, by simp, hstart, rfl, hivl',
    ?_⟩
  intro hsound
  have hexact := hsound.exact 1 200000 rfl
  have hticks : sys₄.view.msTicks 1 = 24000 := hsound.clocked.ticks 1
  rw [hivl', hticks] at hexact
  exact absurd hexact (by decide)

end A733Boot.Ar100s.Timer
