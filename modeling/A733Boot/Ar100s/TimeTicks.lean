/-
The soft timers of the firmware, `ar100s/arch/riscv/cpu/e907/time_ticks.c`.

* `Softtimer`, `softtimerTick`: a timer, and what a tick does to it;
* `timerTickServer`: the ticks of all timers, with the callbacks it calls;
* `timerTickServer_single`: a tick, when one timer is registered;
* `softtimerTick_iterate`, `softtimerTick_called_iff` (**the countdown**): a timer that was
  started with a cycle of `c` ticks calls back at every tick that `c + 1` divides.
-/
import Mathlib.Logic.Function.Basic
import Mathlib.Logic.Function.Iterate
import Mathlib.Tactic.Ring
import A733Boot.Ar100s.Error

namespace A733Boot.Ar100s

/-! ### The code -/

def tickPerSec : UInt32 := 100

/-- `SOFTTIMER_NUMBER`. -/
def softtimerNumber : ℕ := 2

inductive SofttimerOnoff
  | softtimerOff
  | softtimerOn
deriving DecidableEq

/-- `struct softtimer`, with callbacks `κ`. -/
structure Softtimer (κ : Type) where
  cycle : ℤ
  expires : ℤ
  cb : Option κ
  start : SofttimerOnoff
deriving DecidableEq

/-- The static variables, and the timers at their addresses. `softtimer` are the entries of
the array that are in use, so that its length is `softtimer_cnt`. -/
structure TimeTicks (κ : Type) where
  timerLock : UInt32
  timeTicks : UInt32
  softtimer : List ℕ
  timer : ℕ → Softtimer κ

section Code

variable {κ : Type}

def startSofttimer (t : Softtimer κ) : Softtimer κ :=
  { t with expires := t.cycle, start := .softtimerOn }

def stopSofttimer (t : Softtimer κ) : Softtimer κ :=
  { t with expires := 0, start := .softtimerOff }

def addSofttimer (p : ℕ) (t : TimeTicks κ) : ℤ × TimeTicks κ :=
  if t.timerLock ≠ 0 then (-eAcces, t)
  else if t.softtimer.length ≥ softtimerNumber then (-eInval, t)
  else (0, { t with softtimer := t.softtimer ++ [p] })

/-- The body of the loop of `timer_tick_server`, with the callback that it calls. -/
def softtimerTick (t : Softtimer κ) : Option κ × Softtimer κ :=
  if t.start = .softtimerOff then (none, t)
  else if t.expires > 0 then (none, { t with expires := t.expires - 1 })
  else if t.expires = 0 then (t.cb, { t with expires := t.cycle })
  else (none, t)

/-- One round of the loop, for the timer at `p`. -/
def tickStep (r : List κ × TimeTicks κ) (p : ℕ) : List κ × TimeTicks κ :=
  let q := softtimerTick (r.2.timer p)
  (r.1 ++ q.1.toList, { r.2 with timer := Function.update r.2.timer p q.2 })

/-- The callbacks that are called come with the timers; none of them touches a timer. -/
def timerTickServer (t : TimeTicks κ) : List κ × TimeTicks κ :=
  t.softtimer.foldl tickStep ([], { t with timeTicks := t.timeTicks + 1 })

def msecToTicks (ms : UInt32) : UInt32 := tickPerSec * ms / 1000

end Code

/-! ### The countdown -/

section Countdown

variable {κ : Type}

/-- The timer at `p` is changed. -/
def TimeTicks.modifyTimer (t : TimeTicks κ) (p : ℕ) (f : Softtimer κ → Softtimer κ) :
    TimeTicks κ :=
  { t with timer := Function.update t.timer p (f (t.timer p)) }

@[simp] lemma TimeTicks.modifyTimer_softtimer (t : TimeTicks κ) (p : ℕ)
    (f : Softtimer κ → Softtimer κ) : (t.modifyTimer p f).softtimer = t.softtimer := rfl

@[simp] lemma TimeTicks.modifyTimer_timer (t : TimeTicks κ) (p : ℕ)
    (f : Softtimer κ → Softtimer κ) : (t.modifyTimer p f).timer p = f (t.timer p) := by
  simp only [TimeTicks.modifyTimer, Function.update_self]

/-- A timer is registered, and no timer changes. -/
lemma addSofttimer_timer (p : ℕ) (t : TimeTicks κ) : (addSofttimer p t).2.timer = t.timer := by
  rw [addSofttimer]
  split_ifs <;> rfl

lemma addSofttimer_softtimer {p : ℕ} {t : TimeTicks κ} (hlock : t.timerLock = 0)
    (hempty : t.softtimer = []) : (addSofttimer p t).2.softtimer = [p] := by
  rw [addSofttimer, if_neg (not_not.mpr hlock), if_neg (by rw [hempty]; decide)]
  simp only [hempty, List.nil_append]

/-- A tick, when one timer is registered. -/
lemma timerTickServer_single {t : TimeTicks κ} {p : ℕ} (h : t.softtimer = [p]) :
    (timerTickServer t).1 = (softtimerTick (t.timer p)).1.toList ∧
    (timerTickServer t).2.softtimer = [p] ∧
    (timerTickServer t).2.timer p = (softtimerTick (t.timer p)).2 := by
  simp only [timerTickServer, h, List.foldl_cons, List.foldl_nil, tickStep, List.nil_append,
    Function.update_self, and_self]

/-- A tick changes nothing but `expires`. -/
lemma softtimerTick_kept (t : Softtimer κ) :
    (softtimerTick t).2.cycle = t.cycle ∧ (softtimerTick t).2.cb = t.cb ∧
    (softtimerTick t).2.start = t.start := by
  simp only [softtimerTick]
  split_ifs <;> exact ⟨rfl, rfl, rfl⟩

lemma softtimerTick_off {t : Softtimer κ} (h : t.start = .softtimerOff) :
    softtimerTick t = (none, t) := by
  rw [softtimerTick, if_pos h]

/-- A running timer counts from its cycle down to zero, and starts again. -/
lemma softtimerTick_countdown {t : Softtimer κ} {c k : ℕ} (hon : t.start = .softtimerOn)
    (hcycle : t.cycle = c) (hk : k ≤ c) :
    softtimerTick { t with expires := (c : ℤ) - k } =
      if k = c then (t.cb, { t with expires := (c : ℤ) })
      else (none, { t with expires := (c : ℤ) - (k + 1 : ℕ) }) := by
  have hoff : t.start ≠ .softtimerOff := by
    rw [hon]
    decide
  rw [softtimerTick, if_neg hoff]
  rcases Nat.lt_or_ge k c with hlt | hge
  · have hnext : (c : ℤ) - k - 1 = c - (k + 1 : ℕ) := by
      push_cast
      ring
    rw [if_pos (by simp only [gt_iff_lt]; omega), if_neg (by omega), hnext]
  · have hlast : k = c := by omega
    rw [if_neg (by simp only [gt_iff_lt]; omega), if_pos (by simp only; omega), if_pos hlast,
      hcycle]

/-- A timer that was started with a cycle of `c` ticks, after `n` ticks. -/
lemma softtimerTick_iterate {t : Softtimer κ} {c : ℕ} (hon : t.start = .softtimerOn)
    (hcycle : t.cycle = c) (hexpires : t.expires = c) (n : ℕ) :
    (fun t => (softtimerTick t).2)^[n] t = { t with expires := c - (n % (c + 1) : ℕ) } := by
  induction n with
  | zero => simp only [Function.iterate_zero, id, Nat.zero_mod, Nat.cast_zero, sub_zero, ← hexpires]
  | succ n ih =>
      have hlt : n % (c + 1) < c + 1 := Nat.mod_lt _ (Nat.succ_pos c)
      rw [Function.iterate_succ_apply', ih,
        softtimerTick_countdown hon hcycle (by omega : n % (c + 1) ≤ c)]
      by_cases hlast : n % (c + 1) = c
      · rw [if_pos hlast, Nat.succ_mod_succ_eq_zero_iff.mpr hlast]
        simp only [Nat.cast_zero, sub_zero]
      · have hnext : (n + 1) % (c + 1) = n % (c + 1) + 1 := by
          rw [Nat.add_mod, Nat.mod_eq_of_lt (by omega : 1 < c + 1), Nat.mod_eq_of_lt (by omega)]
        rw [if_neg hlast, hnext]

/-- **The countdown**: a timer that was started with a cycle of `c` ticks calls back at the
tick after `n` others if and only if `c + 1` divides its number. -/
lemma softtimerTick_called_iff {t : Softtimer κ} {c : ℕ} (hon : t.start = .softtimerOn)
    (hcycle : t.cycle = c) (hexpires : t.expires = c) {k : κ} (hcb : t.cb = some k) (n : ℕ) :
    (softtimerTick ((fun t => (softtimerTick t).2)^[n] t)).1 = some k ↔ c + 1 ∣ n + 1 := by
  have hlt : n % (c + 1) < c + 1 := Nat.mod_lt _ (Nat.succ_pos c)
  rw [softtimerTick_iterate hon hcycle hexpires,
    softtimerTick_countdown hon hcycle (by omega : n % (c + 1) ≤ c)]
  rw [Nat.dvd_iff_mod_eq_zero, Nat.succ_mod_succ_eq_zero_iff]
  by_cases hlast : n % (c + 1) = c
  · rw [if_pos hlast]
    exact iff_of_true hcb hlast
  · rw [if_neg hlast]
    exact iff_of_false (by simp only [reduceCtorEq, not_false_eq_true]) hlast

end Countdown

end A733Boot.Ar100s
