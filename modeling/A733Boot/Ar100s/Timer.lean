/-
The two timers of `ar100s/driver/timer/timer-extended`, and the changes of their clock when
the crystal is switched off and on.

A period is checked against the ticks of the clock that runs when the timer is started. The
callback of the crystal then rescales the interval, in 32 bits and without a check.

* `Sys`, `Prog`: the registers, the interrupt controller and the variables of the driver, and
  the programs over them;
* `timerInit`, `timerRequest`, `timerStart`, `timeMdelay`, `timerHoscOnoffCb`: the code;
* `View`, `View.next`: what the intervals depend on, and what an event makes of it, with
  **`exec_view`**: the code does so.
-/
import A733Boot.Ar100s.Counter
import A733Boot.Ar100s.Intc
import A733Boot.Ar100s.Standby.Clocks
import Mathlib.Data.List.FinRange
import Mathlib.Tactic.FinCases

namespace A733Boot.Ar100s.Timer

open Fueled Counter

/-! ### Registers -/

abbrev timercTimersNumber : ℕ := 2

/-- A timer, as its place in the table. -/
abbrev TimerNo := Fin timercTimersNumber

instance : NeZero timercTimersNumber := ⟨Nat.succ_ne_zero 1⟩

def extTimerIrqReg : ℕ := timerRegBase + 0x00
def extTimerCtrlReg (n : TimerNo) : ℕ := timerRegBase + 0x20 * (n.val + 1)
def extTimerIvlReg (n : TimerNo) : ℕ := timerRegBase + 0x20 * (n.val + 1) + 0x04
def extTimerClkReg (n : TimerNo) : ℕ := Standby.rPrcmRegBase + 0x100 + n.val * 0x4

def extTimerEnable : UInt32 := (1 : UInt32) <<< 0
def extTimerReload : UInt32 := (1 : UInt32) <<< 1
def extTimerMode : UInt32 := (1 : UInt32) <<< 7
def extTimerPollLimit : ℕ := 100000

def timerModeOneShoot : UInt32 := 1

/-- The bit of the timer in the pending and the interrupt register. -/
def timerBit (n : TimerNo) : UInt32 := 1 <<< UInt32.ofNat n.val

/-- `INTC_R_TIMER0_IRQ` and `INTC_R_TIMER1_IRQ`. -/
def irqNo (n : TimerNo) : ℕ := 20 + n.val

/-- The source of the clock of a timer, at bits 6 to 4. -/
def clkSrcMask : UInt32 := (0x7 : UInt32) <<< 4

/-- The prescaler of the clock of a timer, at bits 3 to 1; bit 0 is its gate. -/
def clkPreMask : UInt32 := (0x7 : UInt32) <<< 1

/-! ### Programs -/

inductive TimerStatus
  | free | used
deriving DecidableEq

/-- The registers, the interrupt controller, `timer_lock`, and the fields `status` and
`ms_ticks` of the table. The handlers of the timers are left out: only their service routine
reads them. -/
structure Sys where
  regs : Regs
  intc : Intc
  timerLock : UInt32
  status : TimerNo → TimerStatus
  msTicks : TimerNo → UInt32

/-- A program of the driver, with a result if it returns. -/
abbrev Prog (α : Type) := StateT Sys Option α

section Lift

variable {α : Type}

def io (m : Io α) : Prog α := fun s =>
  some ((m s.regs).1, { s with regs := (m s.regs).2 })

def fueled (m : Fueled α) : Prog α := fun s =>
  (m s.regs).map fun r => (r.1, { s with regs := r.2 })

def onIntc (m : StateM Intc α) : Prog α := fun s =>
  some ((m s.intc).1, { s with intc := (m s.intc).2 })

end Lift

lemma io_bind {α β : Type} (m : Io α) (k : α → Prog β) (s : Sys) :
    (io m >>= k) s = k (m s.regs).1 { s with regs := (m s.regs).2 } := rfl

lemma onIntc_bind {α β : Type} (m : StateM Intc α) (k : α → Prog β) (s : Sys) :
    (onIntc m >>= k) s = k (m s.intc).1 { s with intc := (m s.intc).2 } := rfl

/-! ### The code -/

section Code

variable (d : Device)

/-- Read a register, change the word and write it back. -/
def modifyl (f : UInt32 → UInt32) (a : ℕ) : Io Unit := do
  let value ← readl d a
  writel (f value) a

/-- `timer_wait_clear`, and the same function under the name `delay_wait_clear`. -/
def timerWaitClear (a : ℕ) (mask : UInt32) : Io ℤ := do
  let clear ← poll d a (fun value => value &&& mask = 0) extTimerPollLimit
  pure (if clear then 0 else -eTimeout)

def timerAckPending (n : TimerNo) : Io ℤ := do
  writel (timerBit n) extTimerStaReg
  timerWaitClear d extTimerStaReg (timerBit n)

/-- Replace the source of the clock of the timer. -/
def setSource (n : TimerNo) (src : UInt32) : Io Unit :=
  modifyl d (fun value => value &&& ~~~clkSrcMask ||| src <<< 4) (extTimerClkReg n)

/-- The loop over the table. -/
def forTimers (f : TimerNo → Prog Unit) : Prog Unit := do
  f 0
  f 1

/-- The gate and the reset of the bus, in a register of their own, are left out. -/
def timerInit : Prog ℤ := do
  forTimers fun n => do
    io (writel 0 (extTimerCtrlReg n))
    io (setSource d n 4)
    io (modifyl d (fun value => value &&& ~~~clkPreMask ||| 0 ||| 1) (extTimerClkReg n))
    modify fun s => { s with msTicks := Function.update s.msTicks n 24000 }
  modify fun s => { s with status := Function.update s.status 0 .used }
  io (modifyl d (fun value => value ||| extTimerMode) (extTimerCtrlReg 0))
  modify fun s => { s with timerLock := 0 }
  pure 0

/-- The service routine of the timers. -/
def timerIsr : Isr := .other 0

def timerRequest : Prog (Option TimerNo) := do
  let s ← get
  if s.timerLock ≠ 0 then pure none
  else
    match (List.finRange timercTimersNumber).find? fun n => s.status n = .free with
    | none => pure none
    | some n =>
      modify fun s => { s with status := Function.update s.status n .used }
      let ret ← onIntc (installIsr (irqNo n) timerIsr)
      if ret ≠ 0 then
        modify fun s => { s with status := Function.update s.status n .free }
        pure none
      else pure (some n)

/-- The part of `timer_start` behind the write of the interval. -/
def timerArm (n : TimerNo) (mode : UInt32) : Prog ℤ := do
  io (modifyl d (fun value => value ||| extTimerReload) (extTimerCtrlReg n))
  let ret ← io (timerWaitClear d (extTimerCtrlReg n) extTimerReload)
  if ret ≠ 0 then pure ret
  else
    io (modifyl d (fun value => value &&& ~~~extTimerMode ||| mode <<< 7) (extTimerCtrlReg n))
    let ret ← io (timerAckPending d n)
    if ret ≠ 0 then pure ret
    else
      io (modifyl d (fun value => value ||| timerBit n) extTimerIrqReg)
      let ret ← onIntc (interruptEnable (irqNo n))
      if ret ≠ 0 then pure ret
      else
        io (modifyl d (fun value => value ||| extTimerEnable) (extTimerCtrlReg n))
        pure 0

def timerStart (n : TimerNo) (period mode : UInt32) : Prog ℤ := do
  let s ← get
  if s.timerLock ≠ 0 ∨ s.status n ≠ .used then pure (-eAcces)
  else if period = 0 ∨ mode > timerModeOneShoot then pure (-eInval)
  else
    let ticks := (s.msTicks n).toUInt64 * period.toUInt64
    if ticks > 0xffffffff then pure (-eInval)
    else
      io (writel ticks.toUInt32 (extTimerIvlReg n))
      timerArm d n mode

/-- The part of `time_mdelay` behind the write of the interval, on the first timer. -/
def delayRun (fuel : ℕ) (ms : UInt32) : Prog Unit := do
  io (modifyl d (fun value => value ||| extTimerReload) (extTimerCtrlReg 0))
  let ret ← io (timerWaitClear d (extTimerCtrlReg 0) extTimerReload)
  if ret ≠ 0 then pure ()
  else
    io (writel (timerBit 0) extTimerStaReg)
    io (modifyl d (fun value => value ||| extTimerEnable) (extTimerCtrlReg 0))
    let now ← fueled (cpucfgCounterRead d fuel)
    let deadline := now + (ms + 1).toUInt64 * 24000
    let _ ← fueled (delayWaitPending d 0 deadline fuel)
    io (modifyl d (fun value => value &&& ~~~extTimerEnable) (extTimerCtrlReg 0))
    io (writel (timerBit 0) extTimerStaReg)

def timeMdelay (fuel : ℕ) (ms : UInt32) : Prog Unit := do
  let s ← get
  if s.timerLock ≠ 0 then pure ()
  else
    let ticks := (s.msTicks 0).toUInt64 * ms.toUInt64
    if ms = 0 ∨ ticks > 0xffffffff then pure ()
    else
      io (writel ticks.toUInt32 (extTimerIvlReg 0))
      delayRun d fuel ms

/-- The messages of the crystal. -/
inductive HoscMessage
  | willOff | onReady | other
deriving DecidableEq

/-- The timer goes to the clock of 32 kHz. -/
def slowTimer (n : TimerNo) : Prog Unit := do
  io (setSource d n 1)
  modify fun s => { s with msTicks := Function.update s.msTicks n 32 }
  io (modifyl d (fun value => value / (24000 / 32)) (extTimerIvlReg n))

/-- The timer goes to the clock of 24 MHz. -/
def restoreTimer (n : TimerNo) : Prog Unit := do
  io (modifyl d (fun value => value * (24000 / 32)) (extTimerIvlReg n))
  io (setSource d n 4)
  modify fun s => { s with msTicks := Function.update s.msTicks n 24000 }

def timerHoscOnoffCb (message : HoscMessage) : Prog ℤ := do
  let s ← get
  if s.timerLock ≠ 0 then pure (-eAcces)
  else
    match message with
    | .willOff =>
      forTimers (slowTimer d)
      pure 0
    | .onReady =>
      forTimers (restoreTimer d)
      pure 0
    | .other => pure (-eSrch)

end Code

/-! ### What the intervals depend on -/

/-- The variables of the driver, and the interval and the clock register of each timer. -/
@[ext] structure View where
  timerLock : UInt32
  status : TimerNo → TimerStatus
  msTicks : TimerNo → UInt32
  ivl : TimerNo → UInt32
  clk : TimerNo → UInt32

def Sys.view (s : Sys) : View where
  timerLock := s.timerLock
  status := s.status
  msTicks := s.msTicks
  ivl n := s.regs.word (extTimerIvlReg n)
  clk n := s.regs.word (extTimerClkReg n)

/-- The interval and the clock registers hold what is written to them. -/
structure Plain (d : Device) : Prop where
  ivl : ∀ n, d.live (extTimerIvlReg n) = 0
  clk : ∀ n, d.live (extTimerClkReg n) = 0

namespace View

def setIvl (v : View) (n : TimerNo) (value : UInt32) : View :=
  { v with ivl := Function.update v.ivl n value }

@[simp] lemma setIvl_self (v : View) (n : TimerNo) (value : UInt32) :
    (v.setIvl n value).ivl n = value := by
  simp only [setIvl, Function.update_self]

lemma setIvl_of_ne (v : View) {i n : TimerNo} (value : UInt32) (h : i ≠ n) :
    (v.setIvl n value).ivl i = v.ivl i := by
  simp only [setIvl, Function.update_of_ne h]

@[simp] lemma setIvl_msTicks (v : View) (n : TimerNo) (value : UInt32) :
    (v.setIvl n value).msTicks = v.msTicks := rfl

def setClk (v : View) (n : TimerNo) (value : UInt32) : View :=
  { v with clk := Function.update v.clk n value }

def setMsTicks (v : View) (n : TimerNo) (value : UInt32) : View :=
  { v with msTicks := Function.update v.msTicks n value }

def setStatus (v : View) (n : TimerNo) (value : TimerStatus) : View :=
  { v with status := Function.update v.status n value }

end View

/-- Where the program returns, it has done this to the view. -/
def Acts {α : Type} (m : Prog α) (f : View → View) : Prop :=
  ∀ s a s', m s = some (a, s') → s'.view = f s.view

/-- The registers that start, stop and acknowledge the timers. -/
def controlRegs : List ℕ :=
  [extTimerIrqReg, extTimerStaReg, extTimerCtrlReg 0, extTimerCtrlReg 1]

lemma mem_controlRegs : ∀ n, extTimerCtrlReg n ∈ controlRegs := by decide

namespace Acts

variable {α β : Type} {m : Prog α} {k : α → Prog β} {f g : View → View}

lemma pure (a : α) : Acts (Pure.pure a : Prog α) id := by
  intro s b s' h
  rw [← (Prod.mk.inj (Option.some.inj h)).2]
  rfl

lemma bind (hm : Acts m f) (hk : ∀ a, Acts (k a) g) : Acts (m >>= k) (g ∘ f) := by
  intro s b s' h
  obtain ⟨a, s₁, h₁, h₂⟩ := bind_eq_some.mp h
  rw [hk a s₁ b s' h₂, hm s a s₁ h₁]
  rfl

/-- What leaves the view alone, before something that acts on it. -/
lemma quiet_bind (hm : Acts m id) (hk : ∀ a, Acts (k a) g) : Acts (m >>= k) g := hm.bind hk

/-- What leaves the view alone, behind something that acts on it. -/
lemma bind_quiet (hm : Acts m f) (hk : ∀ a, Acts (k a) id) : Acts (m >>= k) f := hm.bind hk

lemma ite {c : Prop} [Decidable c] {m' : Prog α} (h : Acts m f) (h' : Acts m' f) :
    Acts (if c then m else m') f := by
  split
  · exact h
  · exact h'

lemma modify {t : Sys → Sys} (h : ∀ s, (t s).view = f s.view) :
    Acts (modifyGet fun s => ((), t s) : Prog Unit) f := by
  intro s a s' hs
  rw [← (Prod.mk.inj (Option.some.inj hs)).2, h]

lemma msTicks (n : TimerNo) (value : UInt32) :
    Acts (MonadState.modifyGet fun s => ((), { s with
      msTicks := Function.update s.msTicks n value }) : Prog Unit) fun v => v.setMsTicks n value :=
  modify fun _ => rfl

lemma onIntc (m : StateM Intc α) : Acts (Timer.onIntc m) id := by
  intro s a s' h
  rw [← (Prod.mk.inj (Option.some.inj h)).2]
  rfl

lemma fueled {m : Fueled α} (hm : Silent m) : Acts (Timer.fueled m) id := by
  intro s a s' h
  obtain ⟨⟨a', r⟩, hr, heq⟩ := Option.map_eq_some_iff.mp h
  obtain ⟨-, rfl⟩ := Prod.mk.inj heq
  simp only [Sys.view, hm _ _ _ hr, id]

/-- A program that writes only control registers. -/
lemma io {m : Io α} (hm : Io.Within {a | a ∈ controlRegs} m) : Acts (Timer.io m) id := by
  have hivl : ∀ n, extTimerIvlReg n ∉ controlRegs := by decide
  have hclk : ∀ n, extTimerClkReg n ∉ controlRegs := by decide
  intro s a s' h
  obtain ⟨-, rfl⟩ := Prod.mk.inj (Option.some.inj h)
  refine View.ext rfl rfl rfl (funext fun n => ?_) (funext fun n => ?_)
  · exact hm s.regs _ (hivl n)
  · exact hm s.regs _ (hclk n)

lemma writel_ivl (value : UInt32) (n : TimerNo) :
    Acts (Timer.io (writel value (extTimerIvlReg n))) fun v => v.setIvl n value := by
  have hivl : ∀ i j, extTimerIvlReg i = extTimerIvlReg j → i = j := by decide
  have hclk : ∀ i j, extTimerClkReg i ≠ extTimerIvlReg j := by decide
  intro s a s' h
  obtain ⟨-, rfl⟩ := Prod.mk.inj (Option.some.inj h)
  refine View.ext rfl rfl rfl (funext fun i => ?_) (funext fun i => ?_)
  · by_cases heq : i = n
    · subst heq
      simp only [Sys.view, View.setIvl, writel_word, Function.update_self]
    · simp only [Sys.view, View.setIvl, writel_word, Function.update_of_ne heq,
        Function.update_of_ne fun h => heq (hivl i n h)]
  · simp only [Sys.view, View.setIvl, writel_word, Function.update_of_ne (hclk i n)]

lemma writel_clk (value : UInt32) (n : TimerNo) :
    Acts (Timer.io (writel value (extTimerClkReg n))) fun v => v.setClk n value := by
  have hclk : ∀ i j, extTimerClkReg i = extTimerClkReg j → i = j := by decide
  have hivl : ∀ i j, extTimerIvlReg i ≠ extTimerClkReg j := by decide
  intro s a s' h
  obtain ⟨-, rfl⟩ := Prod.mk.inj (Option.some.inj h)
  refine View.ext rfl rfl rfl (funext fun i => ?_) (funext fun i => ?_)
  · simp only [Sys.view, View.setClk, writel_word, Function.update_of_ne (hivl i n)]
  · by_cases heq : i = n
    · subst heq
      simp only [Sys.view, View.setClk, writel_word, Function.update_self]
    · simp only [Sys.view, View.setClk, writel_word, Function.update_of_ne heq,
        Function.update_of_ne fun h => heq (hclk i n h)]

/-- Changing a register that holds what is written to it is writing the changed word. -/
lemma modifyl_plain {d : Device} {a : ℕ} (hplain : d.live a = 0) (c : UInt32 → UInt32) {s s' : Sys}
    (h : Timer.io (modifyl d c a) s = some ((), s')) :
    ∃ s₁, s₁.view = s.view ∧ Timer.io (writel (c (s.regs.word a)) a) s₁ = some ((), s') := by
  refine ⟨{ s with regs := { s.regs with reads := s.regs.reads + 1 } }, rfl, ?_⟩
  rw [← h, Timer.io, Timer.io, modifyl, bind_apply, readl_fst, d.view_plain hplain]
  rfl

lemma modifyl_ivl {d : Device} (hd : Plain d) (c : UInt32 → UInt32) (n : TimerNo) :
    Acts (Timer.io (modifyl d c (extTimerIvlReg n))) fun v => v.setIvl n (c (v.ivl n)) := by
  intro s _ s' h
  obtain ⟨s₁, hview, hwrite⟩ := modifyl_plain (hd.ivl n) c h
  rw [writel_ivl _ n s₁ _ s' hwrite, hview]
  rfl

lemma modifyl_clk {d : Device} (hd : Plain d) (c : UInt32 → UInt32) (n : TimerNo) :
    Acts (Timer.io (modifyl d c (extTimerClkReg n))) fun v => v.setClk n (c (v.clk n)) := by
  intro s _ s' h
  obtain ⟨s₁, hview, hwrite⟩ := modifyl_plain (hd.clk n) c h
  rw [writel_clk _ n s₁ _ s' hwrite, hview]
  rfl

end Acts

/-! ### What the code does to the view -/

section Effects

variable {d : Device}

lemma modifyl_within (c : UInt32 → UInt32) {a : ℕ} (ha : a ∈ controlRegs) :
    Io.Within {a | a ∈ controlRegs} (modifyl d c a) :=
  .bind (.readl _ d a) fun _ => .writel _ ha

lemma timerWaitClear_within (a : ℕ) (mask : UInt32) :
    Io.Within {a | a ∈ controlRegs} (timerWaitClear d a mask) :=
  .bind (.poll _ d a _ _) fun _ => .pure _ _

lemma timerAckPending_within (n : TimerNo) :
    Io.Within {a | a ∈ controlRegs} (timerAckPending d n) :=
  .bind (.writel _ (show extTimerStaReg ∈ controlRegs by decide)) fun _ =>
    timerWaitClear_within _ _

/-- Behind the write of the interval, `timer_start` touches control registers only. -/
lemma timerArm_quiet (n : TimerNo) (mode : UInt32) : Acts (timerArm d n mode) id := by
  have hctrl := mem_controlRegs n
  refine .quiet_bind (.io (modifyl_within _ hctrl)) fun _ => ?_
  refine .quiet_bind (.io (timerWaitClear_within _ _)) fun _ => .ite (.pure _) ?_
  refine .quiet_bind (.io (modifyl_within _ hctrl)) fun _ => ?_
  refine .quiet_bind (.io (timerAckPending_within n)) fun _ => .ite (.pure _) ?_
  refine .quiet_bind (.io (modifyl_within _ (by decide))) fun _ => ?_
  refine .quiet_bind (.onIntc _) fun _ => .ite (.pure _) ?_
  exact .quiet_bind (.io (modifyl_within _ hctrl)) fun _ => .pure _

/-- Behind the write of the interval, `time_mdelay` touches control registers only. -/
lemma delayRun_quiet (fuel : ℕ) (ms : UInt32) : Acts (delayRun d fuel ms) id := by
  have hctrl := mem_controlRegs 0
  have hsta : extTimerStaReg ∈ controlRegs := by decide
  refine .quiet_bind (.io (modifyl_within _ hctrl)) fun _ => ?_
  refine .quiet_bind (.io (timerWaitClear_within _ _)) fun _ => .ite (.pure _) ?_
  refine .quiet_bind (.io (.writel _ hsta)) fun _ => ?_
  refine .quiet_bind (.io (modifyl_within _ hctrl)) fun _ => ?_
  refine .quiet_bind (.fueled (cpucfgCounterRead_silent d fuel)) fun _ => ?_
  refine .quiet_bind (.fueled (delayWaitPending_silent d _ _ fuel)) fun _ => ?_
  refine .quiet_bind (.io (modifyl_within _ hctrl)) fun _ => ?_
  exact .io (.writel _ hsta)

end Effects

/-! ### Events -/

/-- The calls, and the notifications of the crystal. -/
inductive Event
  | request
  | start (n : TimerNo) (period mode : UInt32)
  | mdelay (ms : UInt32)
  | willOff
  | onReady
deriving DecidableEq

/-- The code of an event, with a bound on the rounds of its loops. -/
def exec (d : Device) (fuel : ℕ) : Event → Prog Unit
  | .request => do
    let _ ← timerRequest
    pure ()
  | .start n period mode => do
    let _ ← timerStart d n period mode
    pure ()
  | .mdelay ms => timeMdelay d fuel ms
  | .willOff => do
    let _ ← timerHoscOnoffCb d .willOff
    pure ()
  | .onReady => do
    let _ ← timerHoscOnoffCb d .onReady
    pure ()

namespace View

/-- The word of a clock register with another source. -/
def withSource (value src : UInt32) : UInt32 := value &&& ~~~clkSrcMask ||| src <<< 4

/-- The timer and the period that the code accepts in an event. -/
def accepts (v : View) : Event → Option (TimerNo × UInt32)
  | .start n period mode =>
    if v.timerLock = 0 ∧ v.status n = .used ∧ period ≠ 0 ∧ mode ≤ timerModeOneShoot ∧
        (v.msTicks n).toNat * period.toNat < 2 ^ 32 then some (n, period)
    else none
  | .mdelay ms =>
    if v.timerLock = 0 ∧ ms ≠ 0 ∧ (v.msTicks 0).toNat * ms.toNat < 2 ^ 32 then some (0, ms)
    else none
  | _ => none

/-- The view after a period was accepted, or not. -/
def started (v : View) : Option (TimerNo × UInt32) → View
  | some (n, period) => v.setIvl n (UInt32.ofNat ((v.msTicks n).toNat * period.toNat))
  | none => v

/-- The first free timer is taken. -/
def requested (v : View) : View :=
  match (List.finRange timercTimersNumber).find? fun n => v.status n = .free with
  | some n => v.setStatus n .used
  | none => v

/-- The clocks are those of 32 kHz, and the intervals are scaled down. -/
def slowed (v : View) : View :=
  { v with
    clk := fun n => withSource (v.clk n) 1
    msTicks := fun _ => 32
    ivl := fun n => v.ivl n / 750 }

/-- The clocks are those of 24 MHz, and the intervals are scaled up in 32 bits. -/
def restored (v : View) : View :=
  { v with
    clk := fun n => withSource (v.clk n) 4
    msTicks := fun _ => 24000
    ivl := fun n => v.ivl n * 750 }

/-- What an event makes of the view. -/
def next (v : View) (e : Event) : View :=
  match e with
  | .request => if v.timerLock ≠ 0 then v else v.requested
  | .start .. | .mdelay _ => v.started (v.accepts e)
  | .willOff => if v.timerLock ≠ 0 then v else v.slowed
  | .onReady => if v.timerLock ≠ 0 then v else v.restored

end View

section Refines

variable {d : Device} {fuel : ℕ} {s s' : Sys}

/-- The check of the ticks, which is made in 64 bits. -/
lemma ticks_gt_iff (ms period : UInt32) :
    ms.toUInt64 * period.toUInt64 > 0xffffffff ↔ ¬ ms.toNat * period.toNat < 2 ^ 32 := by
  have hms := ms.toNat_lt
  have hperiod := period.toNat_lt
  have hlt : ms.toNat * period.toNat < 2 ^ 64 :=
    calc ms.toNat * period.toNat < 2 ^ 32 * 2 ^ 32 := Nat.mul_lt_mul'' hms hperiod
      _ = 2 ^ 64 := by decide
  rw [gt_iff_lt, UInt64.lt_iff_toNat_lt, UInt64.toNat_mul, UInt32.toNat_toUInt64,
    UInt32.toNat_toUInt64, Nat.mod_eq_of_lt hlt, show UInt64.toNat 0xffffffff = 2 ^ 32 - 1 from rfl]
  omega

/-- The word of the ticks that is written. -/
lemma ticks_toUInt32 (ms period : UInt32) :
    (ms.toUInt64 * period.toUInt64).toUInt32 = UInt32.ofNat (ms.toNat * period.toNat) := by
  refine UInt32.toNat_inj.mp ?_
  rw [UInt64.toNat_toUInt32, UInt64.toNat_mul, UInt32.toNat_toUInt64, UInt32.toNat_toUInt64,
    UInt32.toNat_ofNat']
  omega

/-- A call that is not accepted changes nothing. -/
lemma timerStart_rejected {n : TimerNo} {period mode : UInt32}
    (hacc : s.view.accepts (.start n period mode) = none) :
    ∃ r, timerStart d n period mode s = some (r, s) := by
  have hmode : mode > timerModeOneShoot ↔ ¬ mode ≤ timerModeOneShoot := UInt32.not_le.symm
  rw [timerStart, bind_of_some _ (show (get : Prog Sys) s = some (s, s) from rfl)]
  by_cases hlock : s.timerLock ≠ 0 ∨ s.status n ≠ .used
  · exact ⟨-eAcces, by rw [if_pos hlock]; rfl⟩
  · by_cases hargs : period = 0 ∨ mode > timerModeOneShoot
    · exact ⟨-eInval, by rw [if_neg hlock, if_pos hargs]; rfl⟩
    · have hticks : (s.msTicks n).toUInt64 * period.toUInt64 > 0xffffffff := by
        rw [ticks_gt_iff]
        intro hlt
        rw [not_or, not_not, not_not] at hlock
        rw [not_or, hmode, not_not] at hargs
        have hsome : s.view.accepts (.start n period mode) = some (n, period) :=
          if_pos ⟨hlock.1, hlock.2, hargs.1, hargs.2, hlt⟩
        rw [hsome] at hacc
        cases hacc
      exact ⟨-eInval, by simp only [if_neg hlock, if_neg hargs, if_pos hticks]; rfl⟩

/-- A call that is accepted writes the interval and arms the timer. -/
lemma timerStart_accepted {n i : TimerNo} {period p mode : UInt32}
    (hacc : s.view.accepts (.start n period mode) = some (i, p)) :
    (i = n ∧ p = period) ∧ timerStart d n period mode s = (do
      io (writel (UInt32.ofNat ((s.msTicks n).toNat * period.toNat)) (extTimerIvlReg n))
      timerArm d n mode) s := by
  rw [View.accepts] at hacc
  split at hacc
  · rename_i h
    obtain ⟨hlock, hused, hperiod, hmode, hlt⟩ := h
    obtain ⟨rfl, rfl⟩ := Prod.mk.inj (Option.some.inj hacc)
    have hopen : ¬ (s.timerLock ≠ 0 ∨ s.status n ≠ .used) :=
      fun h => h.elim (fun h => h hlock) fun h => h hused
    have hargs : ¬ (period = 0 ∨ mode > timerModeOneShoot) :=
      fun h => h.elim hperiod fun h => UInt32.not_le.mpr h hmode
    have hticks : ¬ (s.msTicks n).toUInt64 * period.toUInt64 > 0xffffffff :=
      fun h => (ticks_gt_iff _ _).mp h hlt
    refine ⟨⟨rfl, rfl⟩, ?_⟩
    rw [timerStart, bind_of_some _ (show (get : Prog Sys) s = some (s, s) from rfl)]
    simp only [if_neg hopen, if_neg hargs, if_neg hticks, ticks_toUInt32]
  · cases hacc

lemma timerStart_view {n : TimerNo} {period mode : UInt32} {r : ℤ}
    (h : timerStart d n period mode s = some (r, s')) :
    s'.view = s.view.next (.start n period mode) := by
  rw [View.next]
  cases hacc : s.view.accepts (.start n period mode) with
  | none =>
    obtain ⟨r', hr⟩ := timerStart_rejected (d := d) hacc
    obtain ⟨-, rfl⟩ := Prod.mk.inj (Option.some.inj (hr.symm.trans h))
    rfl
  | some p =>
    obtain ⟨⟨rfl, rfl⟩, heq⟩ := timerStart_accepted (d := d) hacc
    rw [heq] at h
    exact (Acts.writel_ivl _ p.1).bind_quiet (fun _ => timerArm_quiet p.1 mode) s r s' h

/-- The delay is a start of the first timer, without a check of its status. -/
lemma timeMdelay_view {ms : UInt32} (h : timeMdelay d fuel ms s = some ((), s')) :
    s'.view = s.view.next (.mdelay ms) := by
  rw [timeMdelay, bind_of_some _ (show (get : Prog Sys) s = some (s, s) from rfl)] at h
  rw [View.next, View.accepts]
  by_cases hacc : s.view.timerLock = 0 ∧ ms ≠ 0 ∧ (s.view.msTicks 0).toNat * ms.toNat < 2 ^ 32
  · obtain ⟨hlock, hms, hlt⟩ := hacc
    have hopen : ¬ s.timerLock ≠ 0 := fun h => h hlock
    have hargs : ¬ (ms = 0 ∨ (s.msTicks 0).toUInt64 * ms.toUInt64 > 0xffffffff) :=
      fun h => h.elim hms fun h => (ticks_gt_iff _ _).mp h hlt
    rw [if_pos ⟨hlock, hms, hlt⟩]
    simp only [if_neg hopen, if_neg hargs, ticks_toUInt32] at h
    exact (Acts.writel_ivl _ 0).bind_quiet (fun _ => delayRun_quiet fuel ms) s () s' h
  · rw [if_neg hacc]
    have hkept : (some ((), s) : Option (Unit × Sys)) = some ((), s') := by
      rw [← h]
      by_cases hlock : s.timerLock ≠ 0
      · rw [if_pos hlock]
        rfl
      · have hargs : ms = 0 ∨ (s.msTicks 0).toUInt64 * ms.toUInt64 > 0xffffffff := by
          rw [ticks_gt_iff]
          by_contra hnot
          rw [not_or, not_not] at hnot
          exact hacc ⟨not_not.mp hlock, hnot⟩
        simp only [if_neg hlock, if_pos hargs]
        rfl
    rw [← (Prod.mk.inj (Option.some.inj hkept)).2]
    rfl

lemma Acts.congr {α : Type} {m : Prog α} {f g : View → View} (h : Acts m f) (hfg : f = g) :
    Acts m g := hfg ▸ h

/-- Both timers are switched to the slow clock. -/
lemma willOff_acts (hd : Plain d) : Acts (forTimers (slowTimer d)) View.slowed := by
  have hone := fun n => ((Acts.modifyl_clk hd (fun value => View.withSource value 1) n).bind
    fun _ => (Acts.msTicks n 32).bind fun _ =>
      Acts.modifyl_ivl hd (fun value => value / (24000 / 32)) n)
  refine ((hone 0).bind fun _ => hone 1).congr (funext fun v => ?_)
  refine View.ext rfl rfl ?_ ?_ ?_ <;> funext n <;> fin_cases n <;> rfl

/-- Both timers are switched to the fast clock. -/
lemma onReady_acts (hd : Plain d) : Acts (forTimers (restoreTimer d)) View.restored := by
  have hone := fun n => ((Acts.modifyl_ivl hd (fun value => value * (24000 / 32)) n).bind
    fun _ => (Acts.modifyl_clk hd (fun value => View.withSource value 4) n).bind fun _ =>
      Acts.msTicks n 24000)
  refine ((hone 0).bind fun _ => hone 1).congr (funext fun v => ?_)
  refine View.ext rfl rfl ?_ ?_ ?_ <;> funext n <;> fin_cases n <;> rfl

/-- A program that does nothing while the driver is locked. -/
lemma view_of_unlocked {m : Prog ℤ} {f : View → View} (hm : Acts m f) {r : ℤ}
    (h : (do
      let s ← get
      if s.timerLock ≠ 0 then pure (-eAcces) else m : Prog ℤ) s = some (r, s')) :
    s'.view = if s.view.timerLock ≠ 0 then s.view else f s.view := by
  rw [bind_of_some _ (show (get : Prog Sys) s = some (s, s) from rfl)] at h
  split at h
  · rename_i hlock
    rw [if_pos (show s.view.timerLock ≠ 0 from hlock), ← (Prod.mk.inj (Option.some.inj h)).2]
  · rename_i hlock
    rw [if_neg (show ¬ s.view.timerLock ≠ 0 from hlock)]
    exact hm s r s' h

lemma timerHoscOnoffCb_view (hd : Plain d) {r : ℤ} :
    (timerHoscOnoffCb d .willOff s = some (r, s') → s'.view = s.view.next .willOff) ∧
    (timerHoscOnoffCb d .onReady s = some (r, s') → s'.view = s.view.next .onReady) := by
  constructor
  · intro h
    exact view_of_unlocked ((willOff_acts hd).bind_quiet fun _ => Acts.pure 0) h
  · intro h
    exact view_of_unlocked ((onReady_acts hd).bind_quiet fun _ => Acts.pure 0) h

lemma timerRequest_view {r : Option TimerNo} (h : timerRequest s = some (r, s')) :
    s'.view = s.view.next .request := by
  rw [timerRequest, bind_of_some _ (show (get : Prog Sys) s = some (s, s) from rfl)] at h
  rw [View.next]
  split at h
  · rename_i hlock
    rw [if_pos (show s.view.timerLock ≠ 0 from hlock), ← (Prod.mk.inj (Option.some.inj h)).2]
  · rename_i hlock
    rw [if_neg (show ¬ s.view.timerLock ≠ 0 from hlock), View.requested,
      show s.view.status = s.status from rfl]
    cases hfind : (List.finRange timercTimersNumber).find? fun n => s.status n = .free with
    | none =>
      simp only [hfind] at h
      rw [← (Prod.mk.inj (Option.some.inj h)).2]
    | some n =>
      simp only [hfind] at h
      rw [← (Prod.mk.inj (Option.some.inj h)).2]
      rfl

/-- **The code follows the view**: whatever an event does, it does this to the intervals. -/
theorem exec_view (hd : Plain d) {e : Event} (h : exec d fuel e s = some ((), s')) :
    s'.view = s.view.next e := by
  cases e with
  | request =>
    obtain ⟨r, s₁, hr, hpure⟩ := bind_eq_some.mp h
    rw [← (Prod.mk.inj (Option.some.inj hpure)).2]
    exact timerRequest_view hr
  | start n period mode =>
    obtain ⟨r, s₁, hr, hpure⟩ := bind_eq_some.mp h
    rw [← (Prod.mk.inj (Option.some.inj hpure)).2]
    exact timerStart_view hr
  | mdelay ms => exact timeMdelay_view h
  | willOff =>
    obtain ⟨r, s₁, hr, hpure⟩ := bind_eq_some.mp h
    rw [← (Prod.mk.inj (Option.some.inj hpure)).2]
    exact (timerHoscOnoffCb_view hd).1 hr
  | onReady =>
    obtain ⟨r, s₁, hr, hpure⟩ := bind_eq_some.mp h
    rw [← (Prod.mk.inj (Option.some.inj hpure)).2]
    exact (timerHoscOnoffCb_view hd).2 hr

end Refines

end A733Boot.Ar100s.Timer
