/-
The wakeup sources of a standby, `ar100s/service/standby/wakeup_source.c`: how a request
arms an interrupt of the firmware's processor and disarms it, and what the interrupt does.

* `WakeupHw`, `wakeupDrivers`: the interrupts and the timer below the requests;
* `irqWakesourceInit_spec`, `irqWakesourceExit_spec`: an interrupt is armed and disarmed;
* `Request.serve_set`, `Request.serve_clear`: the two requests, for the types that name an
  interrupt;
* `allTracked_iff` (**what is armed**): an interrupt is armed exactly while one of its roots
  is requested, in the runs that never clear a root while another one of its interrupt is set;
* `allReported_iff` (**what is reported**): the root that is reported is one that is set, in
  the runs that take the interrupt of the USB only while its first root is set.
-/
import Mathlib.Data.Finset.Basic
import A733Boot.Ar100s.Intc
import A733Boot.Ar100s.TimeTicks
import A733Boot.Ar100s.Standby.Requests

namespace A733Boot.Ar100s.Standby

open Mailbox

/-! ### The code -/

/-- The callbacks of soft timers. -/
inductive Callback
  | wakeupTimerHandler
deriving DecidableEq

/-- The address of `wakeup_timer`. -/
def wakeupTimer : ℕ := 0

/-- What the requests for wakeup sources drive. -/
structure WakeupHw where
  intc : Intc
  ticks : TimeTicks Callback

section Code

/-- `parg` points to the array `para` of the root, the secondary and the third interrupt. -/
def groupIrqInit (para : List UInt32) : StateM Intc ℤ :=
  let groupIrqNum := cpuxIrqMaptoCpusGrp (para.getD 0 0)
  if groupIrqNum ≠ fail then interruptSetGroupConfig groupIrqNum.toNat 1 else pure 0

def groupIrqExit (para : List UInt32) : StateM Intc ℤ :=
  let groupIrqNum := cpuxIrqMaptoCpusGrp (para.getD 0 0)
  if groupIrqNum ≠ fail then interruptSetGroupConfig groupIrqNum.toNat 0 else pure 0

/-- The callback is `group_irq_init` and the service routine `default_wakeup_handler`, as
the caller has them. -/
def irqWakesourceInit (irqNum : ℕ) (para : List UInt32) : StateM Intc ℤ := do
  let ret ← interruptSetMask irqNum 1
  if ret ≠ 0 then pure ret else do
  interrputArchSetMask irqNum false
  let ret ← interruptDisable irqNum
  if ret ≠ 0 then pure ret else do
  let ret ← interruptClearPending irqNum
  if ret ≠ 0 then pure ret else do
  let ret ← groupIrqInit para
  if ret ≠ 0 then pure ret else do
  let ret ← installIsr irqNum .defaultWakeupHandler
  if ret ≠ 0 then do
    let _ ← groupIrqExit para
    pure ret
  else do
  let ret ← interruptEnable irqNum
  if ret ≠ 0 then do
    let _ ← interruptDisable irqNum
    let _ ← uninstallIsr irqNum .defaultWakeupHandler
    let _ ← groupIrqExit para
    pure ret
  else do
  let ret ← interruptSetMask irqNum 0
  if ret ≠ 0 then do
    let _ ← interruptDisable irqNum
    let _ ← uninstallIsr irqNum .defaultWakeupHandler
    let _ ← groupIrqExit para
    pure ret
  else do
  interrputArchSetMask irqNum true
  pure 0

def irqWakesourceExit (irqNum : ℕ) (para : List UInt32) : StateM Intc ℤ := do
  let ret ← interruptSetMask irqNum 1
  let firstError := keepFirst 0 ret
  interrputArchSetMask irqNum false
  let ret ← interruptDisable irqNum
  let firstError := keepFirst firstError ret
  let ret ← interruptClearPending irqNum
  let firstError := keepFirst firstError ret
  let ret ← uninstallIsr irqNum .defaultWakeupHandler
  let firstError := keepFirst firstError ret
  let ret ← groupIrqExit para
  pure (keepFirst firstError ret)

/-- The drivers `D`, with the interrupts and the timer of the wakeup sources below them. -/
def wakeupDrivers (D : Drivers WakeupHw) : Drivers WakeupHw :=
  { D with
    setWakeupTimer := fun ms h =>
      { h with ticks := h.ticks.modifyTimer wakeupTimer fun t =>
          { t with cycle := (msecToTicks ms).toBitVec.toInt } }
    clearWakeupTimer := fun h =>
      { h with ticks := h.ticks.modifyTimer wakeupTimer fun t =>
          { stopSofttimer t with cycle := 0, expires := 0 } }
    cpuxIrqMaptoCpus := Ar100s.cpuxIrqMaptoCpus
    irqWakesourceInit := fun irqNo para h =>
      let r := Standby.irqWakesourceInit irqNo.toNat para h.intc
      (r.1, { h with intc := r.2 })
    irqWakesourceExit := fun irqNo para h =>
      let r := Standby.irqWakesourceExit irqNo.toNat para h.intc
      (r.1, { h with intc := r.2 }) }

/-- The interrupt `intno` was taken. -/
def defaultWakeupHandler (intno : ℕ) (s : System WakeupHw) : System WakeupHw :=
  { s with
    plat := { s.plat with intc := (interruptSetMask intno 1 s.plat.intc).2 }
    wakeupSource := UInt32.ofInt (cpusIrqMaptoCpux (UInt32.ofNat intno)) }

/-- The interrupt `intno` arrives; it is taken if it is enabled. Only the service routine of
the wakeup sources touches them. -/
def interruptEntry (intno : ℕ) (s : System WakeupHw) : System WakeupHw :=
  if s.plat.intc.Armed intno then defaultWakeupHandler intno s else s

end Code

/-! ### Arming and disarming an interrupt -/

section Arming

variable (c : Intc) (irqNum : ℕ) {para : List UInt32}

/-- No root that fits a request is in a group. -/
lemma cpuxIrqMaptoCpusGrp_eq_fail (source : UInt32) :
    cpuxIrqMaptoCpusGrp ((wakeupIrqs source).getD 0 0) = fail := by
  have hne : (0 : UInt32) ≠ (source &&& 0x3ff) + gicSrcSpi := by
    intro h
    have hlt : (source &&& 0x3ff).toNat < 1024 := by
      rw [UInt32.toNat_and]
      exact Nat.lt_of_le_of_lt Nat.and_le_right (by decide)
    have hval := congrArg UInt32.toNat h
    rw [UInt32.toNat_add, gicSrcSpi] at hval
    simp only [UInt32.reduceToNat] at hval
    omega
  simp only [cpuxIrqMaptoCpusGrp, wakeupIrqs, grpIrqTable, List.getD_cons_zero, List.find?_cons,
    hne, decide_false, List.find?_nil]

/-- Arming succeeds, and leaves the interrupt enabled with its service routine. -/
lemma irqWakesourceInit_spec (hgroup : cpuxIrqMaptoCpusGrp (para.getD 0 0) = fail) :
    (irqWakesourceInit irqNum para c).1 = 0 ∧
    (∀ k, (irqWakesourceInit irqNum para c).2.Enabled k ↔ k = irqNum ∨ c.Enabled k) ∧
    (irqWakesourceInit irqNum para c).2.isrTable =
      Function.update c.isrTable irqNum .defaultWakeupHandler := by
  have hgroupInit : groupIrqInit para = pure 0 := by
    rw [groupIrqInit, hgroup]
    rfl
  rw [irqWakesourceInit, hgroupInit, bind_checked interruptSetMask_fst, bind_apply,
    bind_checked interruptDisable_fst, bind_checked interruptClearPending_fst, bind_checked rfl,
    pure_apply, bind_checked installIsr_fst, bind_checked interruptEnable_fst,
    bind_checked interruptSetMask_fst, bind_apply, pure_apply]
  refine ⟨rfl, fun k => ?_, ?_⟩
  · simp only [interrputArchSetMask_enabled, interruptSetMask_zero_enabled,
      interruptEnable_enabled, installIsr_enabled, interruptClearPending_enabled,
      interruptDisable_enabled, interruptSetMask_one_enabled]
    tauto
  · simp only [interrputArchSetMask_isrTable, interruptSetMask_isrTable, interruptEnable_isrTable,
      installIsr_isrTable, interruptClearPending_isrTable, interruptDisable_isrTable]

/-- Disarming leaves the interrupt disabled; it fails if the service routine was not there. -/
lemma irqWakesourceExit_spec (hgroup : cpuxIrqMaptoCpusGrp (para.getD 0 0) = fail) :
    ((irqWakesourceExit irqNum para c).1 =
      if c.isrTable irqNum = .defaultWakeupHandler then 0 else -eFail) ∧
    (∀ k, (irqWakesourceExit irqNum para c).2.Enabled k ↔ k ≠ irqNum ∧ c.Enabled k) ∧
    (irqWakesourceExit irqNum para c).2.isrTable =
      if c.isrTable irqNum = .defaultWakeupHandler then
        Function.update c.isrTable irqNum .isrDefault
      else c.isrTable := by
  have hgroupExit : groupIrqExit para = pure 0 := by
    rw [groupIrqExit, hgroup]
    rfl
  rw [irqWakesourceExit, hgroupExit]
  simp only [bind_apply, pure_apply]
  refine ⟨?_, fun k => ?_, ?_⟩
  · simp only [uninstallIsr, interruptClearPending_isrTable, interruptDisable_isrTable,
      interrputArchSetMask_isrTable, interruptSetMask_isrTable]
    split_ifs <;> rfl
  · simp only [uninstallIsr_enabled, interruptClearPending_enabled, interruptDisable_enabled,
      interrputArchSetMask_enabled, interruptSetMask_one_enabled]
    tauto
  · simp only [uninstallIsr, interruptClearPending_isrTable, interruptDisable_isrTable,
      interrputArchSetMask_isrTable, interruptSetMask_isrTable]
    split_ifs
    · rfl
    · simp only [interruptClearPending_isrTable, interruptDisable_isrTable,
        interrputArchSetMask_isrTable, interruptSetMask_isrTable]

end Arming

/-! ### The requests for an interrupt -/

/-- A message whose wakeup source is an interrupt and not the timer. -/
structure SourceMessage where
  message : Message
  irqType : message.para 0 >>> 30 &&& 3 ≠ 3

/-- `wakeup_root_irq`. -/
def SourceMessage.root (q : SourceMessage) : UInt32 := q.message.para 0 &&& 0x3ff

/-- The requests to set and to clear a source. -/
inductive Request
  | set (q : SourceMessage)
  | clear (q : SourceMessage)

section Requests

variable (D : Drivers WakeupHw)

/-- A request is served. -/
def Request.serve : Request → System WakeupHw → ℤ × System WakeupHw
  | set q, s => setWakeupSrc (wakeupDrivers D) q.message s
  | clear q, s => clearWakeupSrc (wakeupDrivers D) q.message s

def Request.root : Request → UInt32
  | set q => q.root
  | clear q => q.root

variable {D}

/-- A root that is not in the table is refused, and nothing changes. -/
lemma Request.serve_unmapped {r : Request} (h : cpuxIrqMaptoCpus r.root = fail)
    (s : System WakeupHw) : r.serve D s = (-1, s) := by
  cases r with
  | set q => exact (if_neg q.irqType).trans (if_pos h)
  | clear q => exact (if_neg q.irqType).trans (if_pos h)

lemma mapped_of_eq {r : UInt32} {n : ℕ} (h : cpuxIrqMaptoCpus r = n) :
    cpuxIrqMaptoCpus r ≠ fail := by
  rw [h, fail]
  omega

lemma Request.serve_set_eq {q : SourceMessage} {n : ℕ} (h : cpuxIrqMaptoCpus q.root = n)
    (s : System WakeupHw) :
    (Request.set q).serve D s =
      ((irqWakesourceInit n (wakeupIrqs (q.message.para 0)) s.plat.intc).1,
        { s with
          wakeupSource := if s.wakeupSource = q.root then noWakesource else s.wakeupSource
          plat := { s.plat with
            intc := (irqWakesourceInit n (wakeupIrqs (q.message.para 0)) s.plat.intc).2 } }) := by
  have hserve : (Request.set q).serve D s =
      (if s.wakeupSource = q.root then { s with wakeupSource := noWakesource } else s).drive
        ((wakeupDrivers D).irqWakesourceInit (cpuxIrqMaptoCpus q.root)
          (wakeupIrqs (q.message.para 0))) :=
    (if_neg q.irqType).trans (if_neg (mapped_of_eq h))
  rw [hserve, h]
  by_cases hstale : s.wakeupSource = q.root
  · rw [if_pos hstale, if_pos hstale]
    rfl
  · rw [if_neg hstale, if_neg hstale]
    rfl

/-- A source is set: its interrupt is armed, and a stale event of it is forgotten. -/
lemma Request.serve_set {q : SourceMessage} {n : ℕ} (h : cpuxIrqMaptoCpus q.root = n)
    (s : System WakeupHw) :
    ((Request.set q).serve D s).1 = 0 ∧
    ((Request.set q).serve D s).2.wakeupSource =
      (if s.wakeupSource = q.root then noWakesource else s.wakeupSource) ∧
    (∀ k, ((Request.set q).serve D s).2.plat.intc.Enabled k ↔ k = n ∨ s.plat.intc.Enabled k) ∧
    ((Request.set q).serve D s).2.plat.intc.isrTable =
      Function.update s.plat.intc.isrTable n .defaultWakeupHandler := by
  obtain ⟨hok, henabled, hisr⟩ := irqWakesourceInit_spec s.plat.intc n
    (cpuxIrqMaptoCpusGrp_eq_fail (q.message.para 0))
  rw [serve_set_eq h]
  exact ⟨hok, rfl, henabled, hisr⟩

/-- A source is cleared: its interrupt is disarmed, whatever other root had armed it. -/
lemma Request.serve_clear {q : SourceMessage} {n : ℕ} (h : cpuxIrqMaptoCpus q.root = n)
    (s : System WakeupHw) :
    (((Request.clear q).serve D s).1 =
      if s.plat.intc.isrTable n = .defaultWakeupHandler then 0 else -eFail) ∧
    ((Request.clear q).serve D s).2.wakeupSource = s.wakeupSource ∧
    (∀ k, ((Request.clear q).serve D s).2.plat.intc.Enabled k ↔
      k ≠ n ∧ s.plat.intc.Enabled k) ∧
    ((Request.clear q).serve D s).2.plat.intc.isrTable =
      if s.plat.intc.isrTable n = .defaultWakeupHandler then
        Function.update s.plat.intc.isrTable n .isrDefault
      else s.plat.intc.isrTable := by
  obtain ⟨hret, henabled, hisr⟩ := irqWakesourceExit_spec s.plat.intc n
    (cpuxIrqMaptoCpusGrp_eq_fail (q.message.para 0))
  have hserve : (Request.clear q).serve D s =
      s.drive ((wakeupDrivers D).irqWakesourceExit (cpuxIrqMaptoCpus q.root)
        (wakeupIrqs (q.message.para 0))) := by
    refine (if_neg q.irqType).trans ((if_neg (mapped_of_eq h)).trans ?_)
    by_cases hok : (s.drive ((wakeupDrivers D).irqWakesourceExit (cpuxIrqMaptoCpus q.root)
        (wakeupIrqs (q.message.para 0)))).1 = 0
    · exact (if_neg (not_not.mpr hok)).trans (Prod.ext hok.symm rfl)
    · exact if_pos hok
  rw [hserve, h]
  exact ⟨hret, rfl, henabled, hisr⟩

end Requests

/-! ### What is armed -/

/-- The roots that are set after a request, if `sources` were before. -/
def Request.track (sources : Finset UInt32) : Request → Finset UInt32
  | set q => if cpuxIrqMaptoCpus q.root = fail then sources else insert q.root sources
  | clear q => sources.erase q.root

/-- Exactly the interrupts of the sources are armed. -/
def ArmsExactly (c : Intc) (sources : Finset UInt32) : Prop :=
  ∀ n : ℕ, c.Armed n ↔ ∃ r ∈ sources, cpuxIrqMaptoCpus r = n

section Tracking

variable (D : Drivers WakeupHw)

/-- A request is served as it should be, when `sources` are set. -/
structure Tracked (s : System WakeupHw) (sources : Finset UInt32) (r : Request) : Prop where
  armed : ArmsExactly (r.serve D s).2.plat.intc (r.track sources)
  cleared : ∀ q, r = .clear q → q.root ∈ sources → (r.serve D s).1 = 0
  unmapped : cpuxIrqMaptoCpus r.root = fail → (r.serve D s).1 ≠ 0 ∧ (r.serve D s).2 = s

/-- Every request of a run is served as it should be. -/
def AllTracked : System WakeupHw → Finset UInt32 → List Request → Prop
  | _, _, [] => True
  | s, sources, r :: l =>
      Tracked D s sources r ∧ AllTracked (r.serve D s).2 (r.track sources) l

/-- A request that clears a root comes when no other root of its interrupt is set. -/
def Request.Alone (sources : Finset UInt32) : Request → Prop
  | set _ => True
  | clear q => ∀ r ∈ sources, cpuxIrqMaptoCpus q.root ≠ fail →
      cpuxIrqMaptoCpus r = cpuxIrqMaptoCpus q.root → r = q.root

/-- Every request of a run does. -/
def AllAlone : Finset UInt32 → List Request → Prop
  | _, [] => True
  | sources, r :: l => r.Alone sources ∧ AllAlone (r.track sources) l

instance Request.decidableAlone : (r : Request) → (sources : Finset UInt32) →
    Decidable (r.Alone sources)
  | .set _, _ => isTrue trivial
  | .clear _, _ => Finset.decidableDforallFinset

instance AllAlone.decidable : (sources : Finset UInt32) → (l : List Request) →
    Decidable (AllAlone sources l)
  | _, [] => isTrue trivial
  | sources, r :: l =>
      have := AllAlone.decidable (r.track sources) l
      inferInstanceAs (Decidable (r.Alone sources ∧ AllAlone (r.track sources) l))

variable {D}

/-- The table has a root, or does not. -/
lemma mapped_or_fail (r : UInt32) :
    cpuxIrqMaptoCpus r = fail ∨ ∃ n : ℕ, cpuxIrqMaptoCpus r = n := by
  rcases cpuxIrqMaptoCpus_cases r with hfail | ⟨e, _, _, hline⟩
  · exact .inl hfail
  · exact .inr ⟨e.1.toNat, hline⟩

lemma armed_set {q : SourceMessage} {n : ℕ} (h : cpuxIrqMaptoCpus q.root = n)
    (s : System WakeupHw) (k : ℕ) :
    ((Request.set q).serve D s).2.plat.intc.Armed k ↔ k = n ∨ s.plat.intc.Armed k := by
  obtain ⟨_, _, henabled, hisr⟩ := Request.serve_set (D := D) h s
  rw [Intc.Armed, Intc.Armed, henabled, hisr]
  by_cases hk : k = n
  · simp only [hk, Function.update_self, true_or, and_self]
  · simp only [hk, Function.update_of_ne hk, false_or]

lemma armed_clear {q : SourceMessage} {n : ℕ} (h : cpuxIrqMaptoCpus q.root = n)
    (s : System WakeupHw) (k : ℕ) :
    ((Request.clear q).serve D s).2.plat.intc.Armed k ↔ k ≠ n ∧ s.plat.intc.Armed k := by
  obtain ⟨_, _, henabled, hisr⟩ := Request.serve_clear (D := D) h s
  rw [Intc.Armed, Intc.Armed, henabled, hisr]
  by_cases hk : k = n
  · simp only [hk, ne_eq, not_true_eq_false, false_and]
  · have hsame : (if s.plat.intc.isrTable n = .defaultWakeupHandler then
          Function.update s.plat.intc.isrTable n .isrDefault else s.plat.intc.isrTable) k =
        s.plat.intc.isrTable k := by
      split_ifs
      · exact Function.update_of_ne hk _ _
      · rfl
    rw [hsame, and_assoc]

/-- Serving a request keeps track, if it comes alone. -/
lemma ArmsExactly.serve {s : System WakeupHw} {sources : Finset UInt32}
    (h : ArmsExactly s.plat.intc sources) {r : Request} (halone : r.Alone sources) :
    ArmsExactly (r.serve D s).2.plat.intc (r.track sources) := by
  intro k
  cases r with
  | set q =>
      rcases mapped_or_fail q.root with hfail | ⟨n, hn⟩
      · rw [Request.serve_unmapped (r := .set q) hfail, Request.track, if_pos hfail]
        exact h k
      · rw [armed_set hn, h k, Request.track, if_neg (mapped_of_eq hn)]
        simp only [Finset.mem_insert, exists_eq_or_imp, hn, Nat.cast_inj, eq_comm]
  | clear q =>
      rcases mapped_or_fail q.root with hfail | ⟨n, hn⟩
      · rw [Request.serve_unmapped (r := .clear q) hfail, h k, Request.track]
        refine exists_congr fun r => and_congr_left fun hr => ?_
        have hne : r ≠ q.root := fun heq => mapped_of_eq hr (heq ▸ hfail)
        rw [Finset.mem_erase, and_iff_right hne]
      · rw [armed_clear hn, h k, Request.track]
        constructor
        · rintro ⟨hk, r, hr, hline⟩
          have hne : r ≠ q.root := by
            rintro rfl
            exact hk (by exact_mod_cast hline.symm.trans hn)
          exact ⟨r, Finset.mem_erase.mpr ⟨hne, hr⟩, hline⟩
        · rintro ⟨r, hr, hline⟩
          obtain ⟨hne, hmem⟩ := Finset.mem_erase.mp hr
          -- a root of the same interrupt would be the cleared one itself
          have hk : k ≠ n := by
            rintro rfl
            exact hne (halone r hmem (mapped_of_eq hn) (hline.trans hn.symm))
          exact ⟨hk, r, hmem, hline⟩

/-- A request that comes alone is served as it should be. -/
lemma tracked_of_alone {s : System WakeupHw} {sources : Finset UInt32}
    (h : ArmsExactly s.plat.intc sources) (hmapped : ∀ r ∈ sources, cpuxIrqMaptoCpus r ≠ fail)
    {r : Request} (halone : r.Alone sources) : Tracked D s sources r := by
  refine ⟨h.serve halone, ?_, fun hfail => ?_⟩
  · rintro q rfl hq
    obtain ⟨n, hn⟩ := (mapped_or_fail q.root).resolve_left (hmapped _ hq)
    obtain ⟨hret, _⟩ := Request.serve_clear (D := D) hn s
    have harmed : s.plat.intc.Armed n := (h n).mpr ⟨q.root, hq, hn⟩
    rw [hret, if_pos harmed.2]
  · rw [Request.serve_unmapped hfail]
    exact ⟨Int.neg_ne_zero.mpr one_ne_zero, rfl⟩

/-- A request that is served as it should be comes alone. -/
lemma alone_of_tracked {s : System WakeupHw} {sources : Finset UInt32} {r : Request}
    (h : Tracked D s sources r) : r.Alone sources := by
  cases r with
  | set q => exact trivial
  | clear q =>
      intro r hr hmapped hline
      by_contra hne
      obtain ⟨n, hn⟩ := (mapped_or_fail q.root).resolve_left hmapped
      have harmed : ((Request.clear q).serve D s).2.plat.intc.Armed n :=
        (h.armed n).mpr ⟨r, Finset.mem_erase.mpr ⟨hne, hr⟩, hline.trans hn⟩
      exact ((armed_clear hn s n).mp harmed).1 rfl

lemma Request.track_mapped {sources : Finset UInt32}
    (h : ∀ r ∈ sources, cpuxIrqMaptoCpus r ≠ fail) (r : Request) :
    ∀ x ∈ r.track sources, cpuxIrqMaptoCpus x ≠ fail := by
  intro x hx
  cases r with
  | set q =>
      rw [Request.track] at hx
      split_ifs at hx with hfail
      · exact h x hx
      · rcases Finset.mem_insert.mp hx with rfl | hx
        · exact hfail
        · exact h x hx
  | clear q => exact h x (Finset.mem_of_mem_erase hx)

lemma allTracked_iff_of_arms (l : List Request) {s : System WakeupHw} {sources : Finset UInt32}
    (h : ArmsExactly s.plat.intc sources) (hmapped : ∀ r ∈ sources, cpuxIrqMaptoCpus r ≠ fail) :
    AllTracked D s sources l ↔ AllAlone sources l := by
  induction l generalizing s sources with
  | nil => exact Iff.rfl
  | cons r l ih =>
      constructor
      · rintro ⟨htracked, hrest⟩
        exact ⟨alone_of_tracked htracked, (ih htracked.armed (r.track_mapped hmapped)).mp hrest⟩
      · rintro ⟨halone, hrest⟩
        exact ⟨tracked_of_alone h hmapped halone,
          (ih (h.serve halone) (r.track_mapped hmapped)).mpr hrest⟩

/-- **What is armed**: where no service routine of a wakeup source is installed yet, the
requests of a run keep exactly the interrupts of the roots that are set armed, clear every
root that is set and refuse the roots outside the table, if and only if each of them that
clears a root comes when no other root of its interrupt is set. -/
theorem allTracked_iff (D : Drivers WakeupHw) (l : List Request) {s : System WakeupHw}
    (h : ∀ n, s.plat.intc.isrTable n ≠ .defaultWakeupHandler) :
    AllTracked D s ∅ l ↔ AllAlone ∅ l := by
  refine allTracked_iff_of_arms l (fun n => ?_) (fun r hr => absurd hr (Finset.notMem_empty r))
  refine iff_of_false (fun harmed => h n harmed.2) ?_
  rintro ⟨r, hr, _⟩
  exact Finset.notMem_empty r hr

end Tracking

lemma six_ne_noWakesource : (6 : UInt32) ≠ noWakesource := by decide

/-- Drivers whose calls do nothing. -/
def quietDrivers : Drivers WakeupHw where
  fdt := ⟨fun _ _ => 0, fun _ _ _ => .ok (0, 4)⟩
  mem := fun _ => 0
  pmu := fun _ _ _ => 0
  dram := fun _ _ => 0
  dramPowerSaveProcess := fun _ h => h
  dramPowerUpProcess := fun _ h => h
  run := fun _ _ h => (0, h)
  irq := fun _ _ w => w
  wakeup := fun _ => ⟨6, six_ne_noWakesource⟩
  pmuChargingReset := fun h => (0, h)
  pmuShutdown := fun h => (0, h)
  pmuReset := fun h => (0, h)
  setWakeupTimer := fun _ h => h
  clearWakeupTimer := fun h => h
  cpuxIrqMaptoCpus := fun _ => -1
  irqWakesourceInit := fun _ _ h => (0, h)
  irqWakesourceExit := fun _ _ h => (0, h)
  setDebugLevel := fun _ h => (0, h)
  uartSetBaudrate := fun _ h => (0, h)
  mctlMdfsSoftware := fun _ _ h => (0, h)

/-- After `interrupt_init`: no interrupt is enabled, and no timer registered. -/
def startHw : WakeupHw :=
  ⟨⟨fun _ => 0, fun _ => 0, 0, 0, fun _ => 0, fun _ => .isrDefault⟩,
    ⟨0, 0, [], fun _ => ⟨0, 0, none, .softtimerOff⟩⟩⟩

def startSystem : System WakeupHw := ⟨0, 0, .init, 0, none, .init, .init, startHw, [], []⟩

/-- The sources `GIC_USB0_EHCI_IRQ` and `GIC_USB0_OHCI_IRQ`. -/
def usb0Ehci : SourceMessage := ⟨⟨0, 2, setWakeupSrcReq, 0, 1, some fun _ => 157⟩, by decide⟩
def usb0Ohci : SourceMessage := ⟨⟨0, 2, setWakeupSrcReq, 0, 1, some fun _ => 158⟩, by decide⟩

/-- Two roots of the USB are set and one of them is cleared: the interrupt is off although the
other root is still set, and clearing that one fails. -/
theorem allTracked_not_siblings :
    ¬ AllTracked quietDrivers startSystem ∅ [.set usb0Ehci, .set usb0Ohci, .clear usb0Ehci] := by
  rintro ⟨_, _, hclear, _⟩
  have harmed := (hclear.armed 16).mpr ⟨158, by decide, by decide⟩
  revert harmed
  decide +kernel

lemma startSystem_isrTable (n : ℕ) :
    startSystem.plat.intc.isrTable n ≠ .defaultWakeupHandler :=
  fun h => Isr.noConfusion h

/-- The two roots are set one after the other. -/
theorem allTracked_in_turn :
    AllTracked quietDrivers startSystem ∅
      [.set usb0Ehci, .clear usb0Ehci, .set usb0Ohci, .clear usb0Ohci] :=
  (allTracked_iff quietDrivers _ startSystem_isrTable).mpr (by decide +kernel)

/-! ### What is reported -/

/-- A message whose wakeup source is the timer. -/
structure TimerMessage where
  message : Message
  irqType : message.para 0 >>> 30 &&& 3 = 3

/-- A request for an interrupt or for the timer is served, or an interrupt arrives. -/
inductive WakeupEvent
  | request (r : Request)
  | setTimer (q : TimerMessage)
  | clearTimer (q : TimerMessage)
  | interrupt (intno : ℕ)

/-- The firmware with the roots that are set, and the interrupt whose service routine
recorded the present `wakeup_source`, if one did. -/
structure Watched where
  system : System WakeupHw
  sources : Finset UInt32
  recorder : Option ℕ

section Reporting

variable (D : Drivers WakeupHw)

def Watched.step (w : Watched) : WakeupEvent → Watched
  | .request r =>
      let s := (r.serve D w.system).2
      ⟨s, r.track w.sources, if s.wakeupSource = noWakesource then none else w.recorder⟩
  | .setTimer q => { w with system := (setWakeupSrc (wakeupDrivers D) q.message w.system).2 }
  | .clearTimer q => { w with system := (clearWakeupSrc (wakeupDrivers D) q.message w.system).2 }
  | .interrupt n =>
      ⟨interruptEntry n w.system, w.sources,
        if w.system.plat.intc.Armed n then some n else w.recorder⟩

/-- What is recorded is a root of the interrupt that is set, and setting a root of the
interrupt that recorded `wakeup_source` clears it. -/
def Reported (w : Watched) : WakeupEvent → Prop
  | .interrupt n => w.system.plat.intc.Armed n →
      (interruptEntry n w.system).wakeupSource ∈ w.sources ∧
      cpuxIrqMaptoCpus (interruptEntry n w.system).wakeupSource = n
  | .request (.set q) => ∀ n : ℕ, cpuxIrqMaptoCpus q.root = n → w.recorder = some n →
      ((Request.set q).serve D w.system).2.wakeupSource = noWakesource
  | .request (.clear _) | .setTimer _ | .clearTimer _ => True

/-- The interrupt of the USB is taken while its first root is set, and no later root of the
USB is set while an event of the USB is on record. -/
def FirstRoot (w : Watched) : WakeupEvent → Prop
  | .interrupt n => n = intcRUsbIrq → w.system.plat.intc.Armed n → usb0EhciRoot ∈ w.sources
  | .request (.set q) => q.root ∈ usbLaterRoots → w.recorder ≠ some intcRUsbIrq
  | .request (.clear _) | .setTimer _ | .clearTimer _ => True

/-- Every event of a run. -/
def AllReported : Watched → List WakeupEvent → Prop
  | _, [] => True
  | w, e :: l => Reported D w e ∧ AllReported (w.step D e) l

def AllFirstRoot : Watched → List WakeupEvent → Prop
  | _, [] => True
  | w, e :: l => FirstRoot w e ∧ AllFirstRoot (w.step D e) l

/-- Every service routine of a wakeup source is there for a root that is set. -/
def Routed (c : Intc) (sources : Finset UInt32) : Prop :=
  ∀ n : ℕ, c.isrTable n = .defaultWakeupHandler → ∃ r ∈ sources, cpuxIrqMaptoCpus r = n

/-- What holds in every run: a service routine is installed for a root that is set, and the
present `wakeup_source` is the one that its recorder found. -/
structure Watched.Coherent (w : Watched) : Prop where
  routed : Routed w.system.plat.intc w.sources
  recorded : ∀ n : ℕ, w.recorder = some n →
    w.system.wakeupSource = UInt32.ofInt (cpusIrqMaptoCpux (UInt32.ofNat n))

variable {D} {w : Watched}

lemma interruptEntry_armed {n : ℕ} (h : w.system.plat.intc.Armed n) :
    (interruptEntry n w.system).wakeupSource =
      UInt32.ofInt (cpusIrqMaptoCpux (UInt32.ofNat n)) := by
  rw [interruptEntry, if_pos h]
  rfl

lemma interruptEntry_isrTable (n : ℕ) (s : System WakeupHw) :
    (interruptEntry n s).plat.intc.isrTable = s.plat.intc.isrTable := by
  rw [interruptEntry]
  split_ifs <;> rfl

/-- A request leaves `wakeup_source` as it is, or clears it. -/
lemma Request.serve_wakeupSource (r : Request) (s : System WakeupHw) :
    (r.serve D s).2.wakeupSource = noWakesource ∨
    (r.serve D s).2.wakeupSource = s.wakeupSource := by
  rcases mapped_or_fail r.root with hfail | ⟨n, hn⟩
  · rw [Request.serve_unmapped hfail]
    exact .inr rfl
  · cases r with
    | set q =>
        rw [(Request.serve_set hn s).2.1]
        split_ifs
        · exact .inl rfl
        · exact .inr rfl
    | clear q => exact .inr (Request.serve_clear hn s).2.1

lemma Routed.serve {s : System WakeupHw} {sources : Finset UInt32}
    (h : Routed s.plat.intc sources) (r : Request) :
    Routed (r.serve D s).2.plat.intc (r.track sources) := by
  intro k hk
  cases r with
  | set q =>
      rcases mapped_or_fail q.root with hfail | ⟨n, hn⟩
      · rw [Request.serve_unmapped (r := .set q) hfail] at hk
        rw [Request.track, if_pos hfail]
        exact h k hk
      · rw [(Request.serve_set hn s).2.2.2] at hk
        rw [Request.track, if_neg (mapped_of_eq hn)]
        by_cases hkn : k = n
        · exact ⟨q.root, Finset.mem_insert_self _ _, hkn ▸ hn⟩
        · rw [Function.update_of_ne hkn] at hk
          obtain ⟨r, hr, hline⟩ := h k hk
          exact ⟨r, Finset.mem_insert_of_mem hr, hline⟩
  | clear q =>
      -- what is left belongs to another interrupt, so not to the cleared root
      have hleft : s.plat.intc.isrTable k = .defaultWakeupHandler ∧
          cpuxIrqMaptoCpus q.root ≠ k := by
        rcases mapped_or_fail q.root with hfail | ⟨n, hn⟩
        · rw [Request.serve_unmapped (r := .clear q) hfail] at hk
          exact ⟨hk, fun heq => mapped_of_eq heq hfail⟩
        · rw [(Request.serve_clear hn s).2.2.2] at hk
          have hkn : k ≠ n := by
            rintro rfl
            split_ifs at hk with hisr
            · rw [Function.update_self] at hk
              exact Isr.noConfusion hk
            · exact hisr hk
          refine ⟨?_, fun heq => hkn (by exact_mod_cast heq.symm.trans hn)⟩
          split_ifs at hk
          · rwa [Function.update_of_ne hkn] at hk
          · exact hk
      obtain ⟨r, hr, hline⟩ := h k hleft.1
      refine ⟨r, Finset.mem_erase.mpr ⟨?_, hr⟩, hline⟩
      rintro rfl
      exact hleft.2 hline

/-- A request for the timer leaves the interrupts and `wakeup_source` alone. -/
lemma Watched.Coherent.timer (h : w.Coherent) {s : System WakeupHw}
    (hintc : s.plat.intc = w.system.plat.intc) (hsource : s.wakeupSource = w.system.wakeupSource) :
    Watched.Coherent { w with system := s } where
  routed := by
    rw [hintc]
    exact h.routed
  recorded := fun n hn => hsource.trans (h.recorded n hn)

lemma Watched.Coherent.step (h : w.Coherent) (e : WakeupEvent) : (w.step D e).Coherent := by
  cases e with
  | setTimer q =>
      refine h.timer ?_ ?_
      · rw [setWakeupSrc, if_pos q.irqType]
        rfl
      · rw [setWakeupSrc, if_pos q.irqType]
  | clearTimer q =>
      refine h.timer ?_ ?_
      · rw [clearWakeupSrc, if_pos q.irqType]
        rfl
      · rw [clearWakeupSrc, if_pos q.irqType]
  | interrupt n =>
      refine ⟨fun k hk => ?_, fun k hk => ?_⟩
      · exact h.routed k (by rwa [Watched.step, interruptEntry_isrTable] at hk)
      · simp only [Watched.step] at hk ⊢
        by_cases harmed : w.system.plat.intc.Armed n
        · rw [if_pos harmed, Option.some_inj] at hk
          rw [interruptEntry_armed harmed, hk]
        · rw [if_neg harmed] at hk
          rw [interruptEntry, if_neg harmed]
          exact h.recorded k hk
  | request r =>
      refine ⟨h.routed.serve r, fun k hk => ?_⟩
      simp only [Watched.step] at hk ⊢
      by_cases hnone : (r.serve D w.system).2.wakeupSource = noWakesource
      · rw [if_pos hnone] at hk
        cases hk
      · rw [if_neg hnone] at hk
        rw [(r.serve_wakeupSource w.system).resolve_left hnone]
        exact h.recorded k hk

/-- One event. -/
lemma reported_iff (h : w.Coherent) (e : WakeupEvent) : Reported D w e ↔ FirstRoot w e := by
  cases e with
  | setTimer q => exact Iff.rfl
  | clearTimer q => exact Iff.rfl
  | interrupt n =>
      rw [Reported, FirstRoot]
      by_cases harmed : w.system.plat.intc.Armed n
      · obtain ⟨r, hr, hline⟩ := h.routed n harmed.2
        rw [interruptEntry_armed harmed]
        rcases cpusIrqMaptoCpux_of_root hline with ⟨hn, hfound⟩ | ⟨hn, hfound, _⟩
        · rw [hfound]
          exact iff_of_true (fun _ => ⟨hr, hline⟩) (fun heq => absurd heq hn)
        · have hfirst : cpuxIrqMaptoCpus usb0EhciRoot = n := by
            rw [hn]
            decide
          rw [hfound]
          exact ⟨fun hrep _ _ => (hrep harmed).1, fun hroot _ => ⟨hroot hn harmed, hfirst⟩⟩
      · exact iff_of_true (fun hn => absurd hn harmed) (fun _ hn => absurd hn harmed)
  | request r =>
      cases r with
      | clear q => exact Iff.rfl
      | set q =>
          constructor
          · intro hrep hlater hrec
            obtain ⟨hline, hne⟩ := usbLaterRoots_line _ hlater
            have hcleared := hrep _ hline hrec
            have hfound : UInt32.ofInt (cpusIrqMaptoCpux (UInt32.ofNat intcRUsbIrq)) =
                usb0EhciRoot := by decide
            rw [(Request.serve_set hline _).2.1, h.recorded _ hrec, hfound, if_neg hne.symm]
              at hcleared
            exact absurd hcleared (by decide)
          · intro hfirst n hn hrec
            rw [(Request.serve_set hn _).2.1, h.recorded n hrec]
            rcases cpusIrqMaptoCpux_of_root hn with ⟨_, hfound⟩ | ⟨husb, hfound, hroot⟩
            · rw [hfound, if_pos rfl]
            · rcases hroot with hroot | hlater
              · rw [hfound, hroot, if_pos rfl]
              · exact absurd (husb ▸ hrec) (hfirst hlater)

lemma allReported_iff_of_coherent (l : List WakeupEvent) (h : w.Coherent) :
    AllReported D w l ↔ AllFirstRoot D w l := by
  induction l generalizing w with
  | nil => exact Iff.rfl
  | cons e l ih => exact and_congr (reported_iff h e) (ih (h.step e))

/-- **What is reported**: where no service routine of a wakeup source is installed yet, every
root that is recorded in a run is one that is set and belongs to the interrupt that was taken,
and setting a root of the interrupt that recorded `wakeup_source` always clears it, if and only
if the interrupt of the USB is taken only while its first root is set, and the later roots of
the USB are set only while no event of the USB is on record. -/
theorem allReported_iff (D : Drivers WakeupHw) (l : List WakeupEvent) {s : System WakeupHw}
    (h : ∀ n, s.plat.intc.isrTable n ≠ .defaultWakeupHandler) :
    AllReported D ⟨s, ∅, none⟩ l ↔ AllFirstRoot D ⟨s, ∅, none⟩ l := by
  refine allReported_iff_of_coherent l ⟨fun n hn => absurd hn (h n), fun n hn => ?_⟩
  cases hn

end Reporting

/-- The second root of the USB is set, and its interrupt is taken: the first root is
recorded, which is not set. -/
theorem allReported_not_ohci :
    ¬ AllReported quietDrivers ⟨startSystem, ∅, none⟩
      [.request (.set usb0Ohci), .interrupt 16] := by
  rintro ⟨_, htaken, _⟩
  have hset := (htaken (by decide +kernel)).1
  revert hset
  decide +kernel

/-- The first root is set, its interrupt is taken, and it is set again. -/
theorem allReported_ehci :
    AllReported quietDrivers ⟨startSystem, ∅, none⟩
      [.request (.set usb0Ehci), .interrupt 16, .request (.set usb0Ehci)] :=
  have hroot : usb0Ehci.root ∉ usbLaterRoots := by decide
  (allReported_iff quietDrivers _ startSystem_isrTable).mpr
    ⟨fun h => absurd h hroot, fun _ _ => by decide, fun h => absurd h hroot, trivial⟩

end A733Boot.Ar100s.Standby
