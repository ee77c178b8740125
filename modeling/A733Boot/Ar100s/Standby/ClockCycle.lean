/-
Standby cycles of the clocks: what `clk_suspend` and `clk_resume` make of the registers
together.

* `clkSuspend_stages`, `clkResume_stages`: each group is written by its own stage only;
* `clkCycle`, `clkRun`: a standby cycle, and any number of them;
* `clkRun_restores` (**save and restore**): which cycles bring the registers back;
* `clkResume_stranded` (**a PLL that does not lock**): when a bus is left on the PERI0 PLL.
-/
import A733Boot.Ar100s.Standby.Clocks

namespace A733Boot.Ar100s.Standby

/-! ### Suspend and resume -/

section Stages

variable {d : Device}

/-- The other registers that `clk_suspend` writes. -/
def lateAddrs : List ℕ :=
  [busAutoClkReg, devBusCtlReg, msraCtlReg, rCpucfgRegBase, pllCtrlReg1, rtcCfgReg, rtcXoWrtProtect,
    rtcXoCtrlReg, rtcAutoCaliCtrl, rtcLoscCtrl]

lemma modify_within {l : List ℕ} {a : ℕ} (ha : a ∈ l) (f : UInt32 → UInt32) :
    Io.Within {a | a ∈ l} (modify d a f) :=
  .bind (.readl _ _ _) fun _ => .writel _ ha

lemma rvLowPowerMode_within (d : Device) : Io.Within {a | a ∈ lateAddrs} (rvLowPowerMode d) :=
  .bind (modify_within (by decide) _) fun _ => .bind (modify_within (by decide) _) fun _ =>
    .bind (modify_within (by decide) _) fun _ => modify_within (by decide) _

lemma ccu24mhoscDisable_within (d : Device) : Io.Within {a | a ∈ lateAddrs} (ccu24mhoscDisable d) :=
  .bind (modify_within (by decide) _) fun _ => .bind (modify_within (by decide) _) fun _ =>
    .bind (modify_within (by decide) _) fun _ => .bind (.writel _ (by decide)) fun _ =>
      .bind (modify_within (by decide) _) fun _ => .bind (modify_within (by decide) _) fun _ =>
        .bind (modify_within (by decide) _) fun _ => modify_within (by decide) _

lemma dcxoDisable_within (d : Device) (osc24mOn : Bool) :
    Io.Within {a | a ∈ lateAddrs} (dcxoDisable d osc24mOn) :=
  .bind (.readl _ _ _) fun _ => .ite (ccu24mhoscDisable_within d) (.pure _ _)

/-- The entries are for the registers that they are for. -/
structure ClkSaves.Addresses (c : ClkSaves) : Prop where
  pll : c.pllRestore.map PllPama.addr = pllAddrs
  ccmu : c.ccmuBuses.map BusPama.busAddr = ccmuAddrs
  prcm : c.prcmBuses.map BusPama.busAddr = prcmAddrs
  nm : c.nmCtl.map BusCtl.addr = nmAddrs
  tg : c.tgCtl.map BusCtl.addr = tgAddrs

/-- No bus is saved. -/
structure ClkSaves.Ready (c : ClkSaves) : Prop extends c.Addresses where
  ccmuFlag : ∀ b ∈ c.ccmuBuses, b.flag = 0
  prcmFlag : ∀ b ∈ c.prcmBuses, b.flag = 0

/-- The clocks are saved from the words `w₀`, and the buses run on the RC oscillator. -/
structure Asleep (w₀ : ℕ → UInt32) (c : ClkSaves) (w : ℕ → UInt32) : Prop extends c.Addresses where
  pllSaved : ∀ p ∈ c.pllRestore, AgreeOff pllLockStatusMask p.value (w₀ p.addr)
  ccmuSaved : ∀ b ∈ c.ccmuBuses, b.Holds (w₀ b.busAddr) ∧ w b.busAddr = busAsleep (w₀ b.busAddr)
  prcmSaved : ∀ b ∈ c.prcmBuses, b.Holds (w₀ b.busAddr) ∧ w b.busAddr = busAsleep (w₀ b.busAddr)
  nmSaved : ∀ b ∈ c.nmCtl, b.value = w₀ b.addr
  tgSaved : ∀ b ∈ c.tgCtl, b.value = w₀ b.addr
  rv : w rv24MClkReg = rvClk16M

lemma busClockSet_within {l : List BusPama} {A : List ℕ} (h : l.map BusPama.busAddr = A)
    (mode : BusClockMode) : Io.Within {a | a ∈ A} (busClockSet d mode l) := by
  rw [← h]
  exact Io.each_within (busClockStep_within mode) l

lemma busClockCtl_within {l : List BusCtl} {A : List ℕ} (h : l.map BusCtl.addr = A)
    (mode : BusClockMode) : Io.Within {a | a ∈ A} (busClockCtl d mode l) := by
  rw [← h]
  exact Io.each_within (busCtlStep_within mode) l

lemma allPllDisable_within {l : List PllPama} {A : List ℕ} (h : l.map PllPama.addr = A) :
    Io.Within {a | a ∈ A} (allPllDisable d l) := by
  rw [← h]
  exact Io.each_within pllDisable_within l

lemma allPllEnable_within {l : List PllPama} {A : List ℕ} (h : l.map PllPama.addr = A) :
    Io.Within {a | a ∈ A} (allPllEnable d l) := by
  rw [← h]
  exact .bind (pllEnableLoop_within l) fun _ =>
    .ite (.pure _ _) (.bind (pllOutputLoop_within l) fun _ => .pure _ _)

/-- An entry belongs to its group. -/
lemma mem_of_map {α : Type} {f : α → ℕ} {l : List α} {A : List ℕ} (h : l.map f = A) {x : α}
    (hx : x ∈ l) : f x ∈ A := h ▸ List.mem_map_of_mem hx

/-- The registers of a group that lies among the plain ones. -/
lemma PlainClocks.plain_of (hd : PlainClocks d) {α : Type} {f : α → ℕ} {l : List α} {A : List ℕ}
    (h : l.map f = A) (hA : ∀ a ∈ A, a ∈ busAddrs ++ ctlAddrs) : ∀ x ∈ l, d.live (f x) = 0 :=
  fun _ hx => hd.plain _ (hA _ (mem_of_map h hx))

/-- Each group is written by its own stage only. -/
structure SuspendStages (d : Device) (c : ClkSaves) (s : Regs) (c' : ClkSaves)
    (s' : Regs) : Prop where
  ccmu : Io.Alone ccmuAddrs (busClockSet d .rc16m c.ccmuBuses) s c'.ccmuBuses s'
  prcm : Io.Alone prcmAddrs (busClockSet d .rc16m c.prcmBuses) s c'.prcmBuses s'
  nm : Io.Alone nmAddrs (busClockCtl d .rc16m c.nmCtl) s c'.nmCtl s'
  tg : Io.Alone tgAddrs (busClockCtl d .rc16m c.tgCtl) s c'.tgCtl s'
  pll : Io.Alone pllAddrs (allPllDisable d c.pllRestore) s c'.pllRestore s'
  rv : s'.word rv24MClkReg = rvClk16M

lemma clkSuspend_stages (d : Device) (osc24mOn : Bool) {c : ClkSaves}
    (hc : c.Addresses) (s : Regs) :
    SuspendStages d c s (clkSuspend d osc24mOn c s).1 (clkSuspend d osc24mOn c s).2 := by
  obtain ⟨s₁, h₁⟩ : ∃ s₁, writel rvClk16M rv24MClkReg s = ((), s₁) := ⟨_, rfl⟩
  obtain ⟨ccmu, s₂, h₂⟩ : ∃ l t, busClockSet d .rc16m c.ccmuBuses s₁ = (l, t) := ⟨_, _, rfl⟩
  obtain ⟨nm, s₃, h₃⟩ : ∃ l t, busClockCtl d .rc16m c.nmCtl s₂ = (l, t) := ⟨_, _, rfl⟩
  obtain ⟨tg, s₄, h₄⟩ : ∃ l t, busClockCtl d .rc16m c.tgCtl s₃ = (l, t) := ⟨_, _, rfl⟩
  obtain ⟨prcm, s₅, h₅⟩ : ∃ l t, busClockSet d .rc16m c.prcmBuses s₄ = (l, t) := ⟨_, _, rfl⟩
  obtain ⟨pll, s₆, h₆⟩ : ∃ l t, allPllDisable d c.pllRestore s₅ = (l, t) := ⟨_, _, rfl⟩
  obtain ⟨s₇, h₇⟩ : ∃ t, rvLowPowerMode d s₆ = ((), t) := ⟨_, rfl⟩
  obtain ⟨s₈, h₈⟩ : ∃ t, dcxoDisable d osc24mOn s₇ = ((), t) := ⟨_, rfl⟩
  have hrun : clkSuspend d osc24mOn c s = (⟨pll, ccmu, prcm, nm, tg⟩, s₈) := by
    simp only [clkSuspend, bind_apply, pure_apply, h₁, h₂, h₃, h₄, h₅, h₆, h₇, h₈]
  rw [hrun]
  have hw₁ : ∀ {A}, (∀ a ∈ A, a ∉ [rv24MClkReg]) → ∀ a ∈ A, s₁.word a = s.word a :=
    Io.Within.word_of_apart (.writel _ List.mem_cons_self) h₁
  have hw₂ : ∀ {A}, (∀ a ∈ A, a ∉ ccmuAddrs) → ∀ a ∈ A, s₂.word a = s₁.word a :=
    (busClockSet_within hc.ccmu _).word_of_apart h₂
  have hw₃ : ∀ {A}, (∀ a ∈ A, a ∉ nmAddrs) → ∀ a ∈ A, s₃.word a = s₂.word a :=
    (busClockCtl_within hc.nm _).word_of_apart h₃
  have hw₄ : ∀ {A}, (∀ a ∈ A, a ∉ tgAddrs) → ∀ a ∈ A, s₄.word a = s₃.word a :=
    (busClockCtl_within hc.tg _).word_of_apart h₄
  have hw₅ : ∀ {A}, (∀ a ∈ A, a ∉ prcmAddrs) → ∀ a ∈ A, s₅.word a = s₄.word a :=
    (busClockSet_within hc.prcm _).word_of_apart h₅
  have hw₆ : ∀ {A}, (∀ a ∈ A, a ∉ pllAddrs) → ∀ a ∈ A, s₆.word a = s₅.word a :=
    (allPllDisable_within hc.pll).word_of_apart h₆
  have hw₈ : ∀ {A}, (∀ a ∈ A, a ∉ lateAddrs) → ∀ a ∈ A, s₈.word a = s₆.word a := fun hA a ha =>
    ((dcxoDisable_within d osc24mOn).word_of_apart h₈ hA a ha).trans
      ((rvLowPowerMode_within d).word_of_apart h₇ hA a ha)
  refine ⟨.of_run h₂ (hw₁ (by decide)) fun a ha => ?_, .of_run h₅ (fun a ha => ?_) fun a ha => ?_,
    .of_run h₃ (fun a ha => ?_) fun a ha => ?_, .of_run h₄ (fun a ha => ?_) fun a ha => ?_,
    .of_run h₆ (fun a ha => ?_) (hw₈ (by decide)), ?_⟩
  · rw [hw₈ (by decide) a ha, hw₆ (by decide) a ha, hw₅ (by decide) a ha, hw₄ (by decide) a ha,
      hw₃ (by decide) a ha]
  · rw [hw₄ (by decide) a ha, hw₃ (by decide) a ha, hw₂ (by decide) a ha, hw₁ (by decide) a ha]
  · rw [hw₈ (by decide) a ha, hw₆ (by decide) a ha]
  · rw [hw₂ (by decide) a ha, hw₁ (by decide) a ha]
  · rw [hw₈ (by decide) a ha, hw₆ (by decide) a ha, hw₅ (by decide) a ha, hw₄ (by decide) a ha]
  · rw [hw₃ (by decide) a ha, hw₂ (by decide) a ha, hw₁ (by decide) a ha]
  · rw [hw₈ (by decide) a ha, hw₆ (by decide) a ha, hw₅ (by decide) a ha]
  · rw [hw₅ (by decide) a ha, hw₄ (by decide) a ha, hw₃ (by decide) a ha, hw₂ (by decide) a ha,
      hw₁ (by decide) a ha]
  · have hrv : ∀ a ∈ [rv24MClkReg], s₈.word a = s₁.word a := fun a ha => by
      rw [hw₈ (by decide) a ha, hw₆ (by decide) a ha, hw₅ (by decide) a ha, hw₄ (by decide) a ha,
        hw₃ (by decide) a ha, hw₂ (by decide) a ha]
    have hs₁ : (writel rvClk16M rv24MClkReg s).2 = s₁ := by rw [h₁]
    rw [hrv _ List.mem_cons_self, ← hs₁, writel_word, Function.update_self]

structure ResumeStages (d : Device) (c : ClkSaves) (s : Regs) (ret : ℤ)
    (c' : ClkSaves) (s' : Regs) : Prop where
  pll : (allPllEnable d c.pllRestore s).1 = ret ∧
    ∀ a ∈ pllAddrs, s'.word a = (allPllEnable d c.pllRestore s).2.word a
  prcm : Io.Alone prcmAddrs (busClockSet d .clockBak c.prcmBuses) s c'.prcmBuses s'
  tg : Io.Alone tgAddrs (busClockCtl d .clockBak c.tgCtl) s c'.tgCtl s'
  nm : Io.Alone nmAddrs (busClockCtl d .clockBak c.nmCtl) s c'.nmCtl s'
  ccmu : Io.Alone ccmuAddrs (busClockSet d .clockBak c.ccmuBuses) s c'.ccmuBuses s'
  saved : c'.pllRestore = c.pllRestore
  rv : s'.word rv24MClkReg = s.word rv24MClkReg

lemma clkResume_stages (d : Device) {c : ClkSaves} (hc : c.Addresses) (s : Regs) :
    ResumeStages d c s (clkResume d c s).1.1 (clkResume d c s).1.2 (clkResume d c s).2 := by
  obtain ⟨ret, s₁, h₁⟩ : ∃ r t, allPllEnable d c.pllRestore s = (r, t) := ⟨_, _, rfl⟩
  obtain ⟨prcm, s₂, h₂⟩ : ∃ l t, busClockSet d .clockBak c.prcmBuses s₁ = (l, t) := ⟨_, _, rfl⟩
  obtain ⟨tg, s₃, h₃⟩ : ∃ l t, busClockCtl d .clockBak c.tgCtl s₂ = (l, t) := ⟨_, _, rfl⟩
  obtain ⟨nm, s₄, h₄⟩ : ∃ l t, busClockCtl d .clockBak c.nmCtl s₃ = (l, t) := ⟨_, _, rfl⟩
  obtain ⟨ccmu, s₅, h₅⟩ : ∃ l t, busClockSet d .clockBak c.ccmuBuses s₄ = (l, t) := ⟨_, _, rfl⟩
  have hrun : clkResume d c s = ((ret, ⟨c.pllRestore, ccmu, prcm, nm, tg⟩), s₅) := by
    simp only [clkResume, bind_apply, pure_apply, h₁, h₂, h₃, h₄, h₅]
  rw [hrun]
  have hw₁ : ∀ {A}, (∀ a ∈ A, a ∉ pllAddrs) → ∀ a ∈ A, s₁.word a = s.word a :=
    (allPllEnable_within hc.pll).word_of_apart h₁
  have hw₂ : ∀ {A}, (∀ a ∈ A, a ∉ prcmAddrs) → ∀ a ∈ A, s₂.word a = s₁.word a :=
    (busClockSet_within hc.prcm _).word_of_apart h₂
  have hw₃ : ∀ {A}, (∀ a ∈ A, a ∉ tgAddrs) → ∀ a ∈ A, s₃.word a = s₂.word a :=
    (busClockCtl_within hc.tg _).word_of_apart h₃
  have hw₄ : ∀ {A}, (∀ a ∈ A, a ∉ nmAddrs) → ∀ a ∈ A, s₄.word a = s₃.word a :=
    (busClockCtl_within hc.nm _).word_of_apart h₄
  have hw₅ : ∀ {A}, (∀ a ∈ A, a ∉ ccmuAddrs) → ∀ a ∈ A, s₅.word a = s₄.word a :=
    (busClockSet_within hc.ccmu _).word_of_apart h₅
  refine ⟨⟨congrArg Prod.fst h₁, fun a ha => ?_⟩, .of_run h₂ (hw₁ (by decide)) fun a ha => ?_,
    .of_run h₃ (fun a ha => ?_) fun a ha => ?_, .of_run h₄ (fun a ha => ?_) (hw₅ (by decide)),
    .of_run h₅ (fun a ha => ?_) fun _ _ => rfl, rfl, ?_⟩
  · rw [hw₅ (by decide) a ha, hw₄ (by decide) a ha, hw₃ (by decide) a ha, hw₂ (by decide) a ha, h₁]
  · rw [hw₅ (by decide) a ha, hw₄ (by decide) a ha, hw₃ (by decide) a ha]
  · rw [hw₂ (by decide) a ha, hw₁ (by decide) a ha]
  · rw [hw₅ (by decide) a ha, hw₄ (by decide) a ha]
  · rw [hw₃ (by decide) a ha, hw₂ (by decide) a ha, hw₁ (by decide) a ha]
  · rw [hw₄ (by decide) a ha, hw₃ (by decide) a ha, hw₂ (by decide) a ha, hw₁ (by decide) a ha]
  · have hrv : ∀ a ∈ [rv24MClkReg], s₅.word a = s.word a := fun a ha => by
      rw [hw₅ (by decide) a ha, hw₄ (by decide) a ha, hw₃ (by decide) a ha, hw₂ (by decide) a ha,
        hw₁ (by decide) a ha]
    exact hrv _ List.mem_cons_self

lemma clkSuspend_spec (hd : PlainClocks d) (osc24mOn : Bool) {c : ClkSaves} (hc : c.Ready)
    (s : Regs) :
    Asleep s.word (clkSuspend d osc24mOn c s).1 (clkSuspend d osc24mOn c s).2.word := by
  have h := clkSuspend_stages d osc24mOn hc.toAddresses s
  generalize clkSuspend d osc24mOn c s = r at h ⊢
  obtain ⟨t₁, hb₁, hr₁, ha₁⟩ := h.ccmu
  obtain ⟨t₂, hb₂, hr₂, ha₂⟩ := h.prcm
  obtain ⟨t₃, hb₃, hr₃, _⟩ := h.nm
  obtain ⟨t₄, hb₄, hr₄, _⟩ := h.tg
  obtain ⟨t₅, hb₅, hr₅, _⟩ := h.pll
  have hccmu := busSuspend_spec (d := d) (l := c.ccmuBuses) (by rw [hc.ccmu]; decide)
    (fun b hb => ⟨hd.plain_of hc.ccmu (by decide) b hb, hc.ccmuFlag b hb⟩) t₁
  have hprcm := busSuspend_spec (d := d) (l := c.prcmBuses) (by rw [hc.prcm]; decide)
    (fun b hb => ⟨hd.plain_of hc.prcm (by decide) b hb, hc.prcmFlag b hb⟩) t₂
  have hnm := ctlSuspend_spec (d := d) (l := c.nmCtl) (by rw [hc.nm]; decide)
    (hd.plain_of hc.nm (by decide)) t₃
  have htg := ctlSuspend_spec (d := d) (l := c.tgCtl) (by rw [hc.tg]; decide)
    (hd.plain_of hc.tg (by decide)) t₄
  have hpll := allPllDisable_spec (d := d) (l := c.pllRestore) (by rw [hc.pll]; decide)
    (fun p hp => hd.live _ (mem_of_map hc.pll hp)) t₅
  rw [hr₁, hc.ccmu] at hccmu
  rw [hr₂, hc.prcm] at hprcm
  rw [hr₃, hc.nm] at hnm
  rw [hr₄, hc.tg] at htg
  rw [hr₅, hc.pll] at hpll
  refine ⟨⟨hpll.1, hccmu.1, hprcm.1, hnm.1, htg.1⟩, fun p hp => ?_, fun b hb => ?_, fun b hb => ?_,
    fun b hb => ?_, fun b hb => ?_, h.rv⟩
  · rw [← hb₅ _ (mem_of_map hpll.1 hp)]
    exact hpll.2 p hp
  · have hmem := mem_of_map hccmu.1 hb
    rw [ha₁ _ hmem, ← hb₁ _ hmem]
    exact hccmu.2 b hb
  · have hmem := mem_of_map hprcm.1 hb
    rw [ha₂ _ hmem, ← hb₂ _ hmem]
    exact hprcm.2 b hb
  · rw [← hb₃ _ (mem_of_map hnm.1 hb)]
    exact hnm.2 b hb
  · rw [← hb₄ _ (mem_of_map htg.1 hb)]
    exact htg.2 b hb

/-- What the registers are after a cycle that started from the words `w₀`. -/
structure Awake (w₀ w : ℕ → UInt32) : Prop where
  pll : ∀ a ∈ pllAddrs, AgreeOff pllLockStatusMask (w a) (w₀ a)
  bus : ∀ a ∈ busAddrs, w a = w₀ a &&& ~~~factorLost
  ctl : ∀ a ∈ ctlAddrs, w a = w₀ a
  rv : w rv24MClkReg = rvClk16M

/-- A register of a group has its entry. -/
lemma exists_of_map {α : Type} {f : α → ℕ} {l : List α} {A : List ℕ} (h : l.map f = A) {a : ℕ}
    (ha : a ∈ A) : ∃ x ∈ l, f x = a := List.mem_map.mp (h ▸ ha)

/-- PLLs that lock all come back. -/
lemma allPllEnable_ok (hd : PlainClocks d) {l : List PllPama} (hl : l.map PllPama.addr = pllAddrs)
    {s : Regs} {m : ℕ} (h : LocksFrom d s.reads l m) :
    (allPllEnable d l s).1 = 0 ∧ ∀ p ∈ l, (allPllEnable d l s).2.word p.addr = p.saved := by
  obtain ⟨t, -, hrun, -, -⟩ :=
    h.run hd (fun p hp => mem_of_map hl hp) (by rw [hl]; decide) [] rfl
  rw [List.append_nil, pllEnableLoop] at hrun
  have hret : (pllEnableLoop d l s).1 = 0 := by rw [hrun, pure_apply]
  rw [allPllEnable, bind_apply, ite_apply', hret, if_neg (not_not.mpr rfl)]
  exact ⟨rfl, pllOutputLoop_spec (by rw [hl]; decide) _⟩

lemma clkResume_spec (hd : Steady d) {c : ClkSaves} {w₀ : ℕ → UInt32} {s : Regs}
    (hc : Asleep w₀ c s.word) :
    (clkResume d c s).1.1 = 0 ∧ (clkResume d c s).1.2.Ready ∧
    Awake w₀ (clkResume d c s).2.word := by
  have h := clkResume_stages d hc.toAddresses s
  generalize clkResume d c s = r at h ⊢
  obtain ⟨hr₁, ha₁⟩ := h.pll
  obtain ⟨t₂, hb₂, hr₂, ha₂⟩ := h.prcm
  obtain ⟨t₃, _, hr₃, ha₃⟩ := h.tg
  obtain ⟨t₄, _, hr₄, ha₄⟩ := h.nm
  obtain ⟨t₅, hb₅, hr₅, ha₅⟩ := h.ccmu
  obtain ⟨m, hlocks⟩ := hd.locksFrom (fun p hp => mem_of_map hc.pll hp) s.reads
  have hpll := allPllEnable_ok hd.toPlainClocks hc.pll hlocks
  have hprcm := busResume_spec (d := d) (l := c.prcmBuses) (s := t₂)
    (by rw [hc.prcm]; decide) fun b hb => ⟨hd.plain_of hc.prcm (by decide) b hb,
      (hc.prcmSaved b hb).1, (hb₂ _ (mem_of_map hc.prcm hb)).trans (hc.prcmSaved b hb).2⟩
  have hccmu := busResume_spec (d := d) (l := c.ccmuBuses) (s := t₅)
    (by rw [hc.ccmu]; decide) fun b hb => ⟨hd.plain_of hc.ccmu (by decide) b hb,
      (hc.ccmuSaved b hb).1, (hb₅ _ (mem_of_map hc.ccmu hb)).trans (hc.ccmuSaved b hb).2⟩
  have htg := ctlResume_spec (d := d) (l := c.tgCtl) (by rw [hc.tg]; decide) hc.tgSaved t₃
  have hnm := ctlResume_spec (d := d) (l := c.nmCtl) (by rw [hc.nm]; decide) hc.nmSaved t₄
  rw [hr₂, hc.prcm] at hprcm
  rw [hr₅, hc.ccmu] at hccmu
  rw [hr₃, hc.tg] at htg
  rw [hr₄, hc.nm] at hnm
  refine ⟨hr₁ ▸ hpll.1,
    ⟨⟨h.saved ▸ hc.pll, hccmu.1, hprcm.1, hnm.1, htg.1⟩, fun b hb => (hccmu.2 b hb).1,
    fun b hb => (hprcm.2 b hb).1⟩, fun a ha => ?_, fun a ha => ?_, fun a ha => ?_, h.rv.trans hc.rv⟩
  · obtain ⟨p, hp, rfl⟩ := exists_of_map hc.pll ha
    rw [ha₁ _ ha, hpll.2 p hp]
    exact (AgreeOff.and_not UInt32.and_self _).trans (hc.pllSaved p hp)
  · obtain ha | ha := List.mem_append.mp ha
    · obtain ⟨b, hb, rfl⟩ := exists_of_map hccmu.1 ha
      rw [ha₅ _ ha]
      exact (hccmu.2 b hb).2
    · obtain ⟨b, hb, rfl⟩ := exists_of_map hprcm.1 ha
      rw [ha₂ _ ha]
      exact (hprcm.2 b hb).2
  · obtain ha | ha := List.mem_append.mp ha
    · obtain ⟨b, hb, rfl⟩ := exists_of_map hnm.1 ha
      rw [ha₄ _ ha]
      exact hnm.2 b hb
    · obtain ⟨b, hb, rfl⟩ := exists_of_map htg.1 ha
      rw [ha₃ _ ha]
      exact htg.2 b hb

end Stages

/-! ### Cycles -/

/-- The registers that a cycle is to bring back. -/
def clkRegs : List ℕ := pllAddrs ++ busAddrs ++ ctlAddrs ++ [rv24MClkReg]

lemma Asleep.of_word {w₀ w w' : ℕ → UInt32} {c : ClkSaves} (h : Asleep w₀ c w)
    (hw : ∀ a ∈ clkRegs, w' a = w a) : Asleep w₀ c w' := by
  have hbus : ∀ a ∈ busAddrs, a ∈ clkRegs := by decide
  refine { h with ccmuSaved := fun b hb => ?_, prcmSaved := fun b hb => ?_, rv := ?_ }
  · rw [hw _ (hbus _ (List.mem_append_left _ (mem_of_map h.ccmu hb)))]
    exact h.ccmuSaved b hb
  · rw [hw _ (hbus _ (List.mem_append_right _ (mem_of_map h.prcm hb)))]
    exact h.prcmSaved b hb
  · rw [hw _ (by decide)]
    exact h.rv

/-- A standby cycle as the clocks see it: the words when it starts, and those of the other
registers when it resumes. -/
structure ClkCycle where
  before : ℕ → UInt32
  others : ℕ → UInt32

/-- `clk_suspend`, then whatever leaves the registers of the clocks alone, then
`clk_resume`. -/
def clkCycle (d : Device) (osc24mOn : Bool) (cycle : ClkCycle) (c : ClkSaves) (s : Regs) :
    ClkSaves × Regs :=
  let (c, s) := clkSuspend d osc24mOn c { s with word := cycle.before }
  let s := { s with word := fun a => if a ∈ clkRegs then s.word a else cycle.others a }
  let ((_, c), s) := clkResume d c s
  (c, s)

/-- Cycles one after the other; the registers may be written as one likes between them. -/
def clkRun (d : Device) (osc24mOn : Bool) (cycles : List ClkCycle) (c : ClkSaves) (s : Regs) :
    ClkSaves × Regs :=
  cycles.foldl (fun st cycle => clkCycle d osc24mOn cycle st.1 st.2) (c, s)

/-- Every register is as it was before the cycle, up to the lock bits. -/
def ClkRestored (w₀ w : ℕ → UInt32) : Prop :=
  (∀ a ∈ pllAddrs, AgreeOff pllLockStatusMask (w a) (w₀ a)) ∧
  ∀ a ∈ busAddrs ++ ctlAddrs ++ [rv24MClkReg], w a = w₀ a

/-- The RV clock is on the RC oscillator already, and no bus uses the upper bits of its
factor. -/
def ClkRestorable (w₀ : ℕ → UInt32) : Prop :=
  w₀ rv24MClkReg = rvClk16M ∧ ∀ a ∈ busAddrs, w₀ a &&& factorLost = 0

lemma and_not_eq_self_iff (w m : UInt32) : w &&& ~~~m = w ↔ w &&& m = 0 := by
  constructor
  · intro h
    rw [← h, UInt32.and_assoc, UInt32.and_comm (~~~m) m, UInt32.and_not_self, UInt32.and_zero]
  · intro h
    refine eq_of_bit fun i hi => ?_
    have hbit := congrArg (bit · i) h
    simp only [bit_and, bit_not _ hi, bit_zero] at hbit ⊢
    revert hbit
    cases bit w i <;> cases bit m i <;> decide

lemma Awake.restored_iff {w₀ w : ℕ → UInt32} (h : Awake w₀ w) :
    ClkRestored w₀ w ↔ ClkRestorable w₀ := by
  constructor
  · rintro ⟨_, hplain⟩
    refine ⟨?_, fun a ha => ?_⟩
    · rw [← hplain rv24MClkReg (by decide)]
      exact h.rv
    · refine (and_not_eq_self_iff _ _).mp ?_
      rw [← h.bus a ha]
      exact hplain a (List.mem_append_left _ (List.mem_append_left _ ha))
  · rintro ⟨hrv, hbus⟩
    refine ⟨h.pll, fun a ha => ?_⟩
    rw [List.append_assoc, List.mem_append, List.mem_append, List.mem_singleton] at ha
    obtain ha | ha | rfl := ha
    · rw [h.bus a ha]
      exact (and_not_eq_self_iff _ _).mpr (hbus a ha)
    · exact h.ctl a ha
    · rw [h.rv, hrv]

section Cycles

variable {d : Device}

lemma clkCycle_spec (hd : Steady d) (osc24mOn : Bool) (cycle : ClkCycle) {c : ClkSaves}
    (hc : c.Ready) (s : Regs) :
    (clkCycle d osc24mOn cycle c s).1.Ready ∧
    Awake cycle.before (clkCycle d osc24mOn cycle c s).2.word := by
  have hsuspend := clkSuspend_spec hd.toPlainClocks osc24mOn hc { s with word := cycle.before }
  simp only [clkCycle]
  generalize clkSuspend d osc24mOn c { s with word := cycle.before } = r at hsuspend ⊢
  have hkept : ∀ a ∈ clkRegs, (if a ∈ clkRegs then r.2.word a else cycle.others a) = r.2.word a :=
    fun a ha => if_pos ha
  have hasleep := hsuspend.of_word hkept
  have hresume := clkResume_spec hd
    (s := { r.2 with word := fun a => if a ∈ clkRegs then r.2.word a else cycle.others a }) hasleep
  exact ⟨hresume.2.1, hresume.2.2⟩

lemma suspendParaPrepare_ready : suspendParaPrepare.Ready := by
  refine ⟨⟨?_, ?_, ?_, ?_, ?_⟩, ?_, ?_⟩ <;> decide

lemma clkRun_ready (hd : Steady d) (osc24mOn : Bool) (cycles : List ClkCycle) {c : ClkSaves}
    (hc : c.Ready) (s : Regs) : (clkRun d osc24mOn cycles c s).1.Ready := by
  induction cycles generalizing c s with
  | nil => exact hc
  | cons cycle cycles ih => exact ih (clkCycle_spec hd osc24mOn cycle hc s).1 _

/-- **Save and restore.** With PLLs that lock, after any cycles and with the registers
written in any way between them, a cycle brings every register back if and only if the RV
clock was on the RC oscillator and no bus used the upper two bits of its factor. -/
theorem clkRun_restores (hd : Steady d) (osc24mOn : Bool) (cycles : List ClkCycle)
    (cycle : ClkCycle) (s : Regs) :
    ClkRestored cycle.before (clkCycle d osc24mOn cycle
      (clkRun d osc24mOn cycles suspendParaPrepare s).1
      (clkRun d osc24mOn cycles suspendParaPrepare s).2).2.word ↔ ClkRestorable cycle.before :=
  (clkCycle_spec hd osc24mOn cycle
    (clkRun_ready hd osc24mOn cycles suspendParaPrepare_ready s) _).2.restored_iff

end Cycles

/-- PLLs that lock at once, but for those of `F`. -/
def clkDevice (F : ℕ → Bool) : Device where
  live a := if a ∈ pllAddrs then pllLockStatusMask else 0
  sense _ a := if F a then 0 else pllLockStatusMask

lemma clkDevice_plain (F : ℕ → Bool) : PlainClocks (clkDevice F) where
  live _ ha := if_pos ha
  plain a ha := by
    have hno : ∀ b ∈ busAddrs ++ ctlAddrs, b ∉ pllAddrs := by decide
    exact if_neg (hno a ha)

lemma clkDevice_steady : Steady (clkDevice fun _ => false) where
  toPlainClocks := clkDevice_plain _
  locks _ _ _ := ⟨0, by decide, show pllLockStatusMask &&& pllLockStatusMask ≠ 0 by decide⟩

/-- A word for each register with which a cycle brings them back. -/
def restorableWords : ℕ → UInt32 := fun a => if a = rv24MClkReg then rvClk16M else 0

theorem clkRun_restores_twice :
    ClkRestored restorableWords
      (clkCycle (clkDevice fun _ => false) true ⟨restorableWords, fun _ => 0⟩
      (clkRun (clkDevice fun _ => false) true [⟨fun _ => 1, fun _ => 0⟩] suspendParaPrepare
        ⟨fun _ => 0, 0, []⟩).1
      (clkRun (clkDevice fun _ => false) true [⟨fun _ => 1, fun _ => 0⟩] suspendParaPrepare
        ⟨fun _ => 0, 0, []⟩).2).2.word :=
  (clkRun_restores clkDevice_steady true [⟨fun _ => 1, fun _ => 0⟩]
    ⟨restorableWords, fun _ => 0⟩ ⟨fun _ => 0, 0, []⟩).mpr ⟨rfl, by decide⟩

/-- From registers that are all zero the RV clock is not brought back, and from an AHB
factor of `0x100` the AHB is not, with all PLLs locking. -/
theorem clkCycle_loses :
    ¬ClkRestored (fun _ => 0) (clkCycle (clkDevice fun _ => false) true ⟨fun _ => 0, fun _ => 0⟩
      suspendParaPrepare ⟨fun _ => 0, 0, []⟩).2.word ∧
    ¬ClkRestored (Function.update restorableWords ccuAhbCfgReg 0x100)
      (clkCycle (clkDevice fun _ => false) true
        ⟨Function.update restorableWords ccuAhbCfgReg 0x100, fun _ => 0⟩
        suspendParaPrepare ⟨fun _ => 0, 0, []⟩).2.word := by
  have hspec := fun cycle => (clkCycle_spec clkDevice_steady true cycle suspendParaPrepare_ready
    ⟨fun _ => 0, 0, []⟩).2.restored_iff
  rw [hspec ⟨fun _ => 0, fun _ => 0⟩,
    hspec ⟨Function.update restorableWords ccuAhbCfgReg 0x100, fun _ => 0⟩]
  refine ⟨fun h => ?_, fun h => ?_⟩
  · exact absurd h.1 (by decide)
  · exact absurd (h.2 ccuAhbCfgReg (by decide)) (by decide)

/-! ### A PLL that does not lock -/

/-- The bus has the PERI0 PLL as its source. -/
def OnPeri0 (w : UInt32) : Prop := w >>> 24 &&& 7 = 3

/-- The bus was saved with the PERI0 PLL as its source. -/
def BusPama.BackOnPeri0 (b : BusPama) : Prop := b.flag ≠ 0 ∧ b.busClkSrc.toUInt32 &&& 7 = 3

/-- The source of a bus is what was written there last. -/
lemma source_eq (w src : UInt32) :
    (w &&& ~~~ccuClkSrcSelMask ||| src <<< 24) >>> 24 &&& 7 = src &&& 7 := by
  have hmask : ∀ i < 3, bit ccuClkSrcSelMask (24 + i) = true := by decide
  have hseven : ∀ i < 32, bit 7 i = true → i < 3 := by decide
  refine eq_of_bit fun i hi => ?_
  cases hbit : bit 7 i with
  | false => rw [bit_and, bit_and, hbit, Bool.and_false, Bool.and_false]
  | true =>
      have hi' := hseven i hi hbit
      have hshift := bit_shiftLeft src (k := 24) (by omega) (show 24 + i < 32 by omega)
      rw [decide_eq_true (by omega), Bool.true_and, Nat.add_sub_cancel_left] at hshift
      have hright := bit_shiftRight (w &&& ~~~ccuClkSrcSelMask ||| src <<< 24)
        (k := 24) (by omega) i
      rw [bit_or, bit_and, bit_not _ (by omega : 24 + i < 32), hmask i hi', Bool.not_true,
        Bool.and_false, Bool.false_or] at hright
      rw [bit_and, bit_and]
      exact congrArg (· && bit 7 i) (hright.trans hshift)

/-- What `bus_clock_set` writes last. -/
lemma busClockStep_source (d : Device) (b : BusPama) (s : Regs) :
    (busClockStep d .clockBak b s).1.busAddr = b.busAddr ∧
    (OnPeri0 ((busClockStep d .clockBak b s).2.word b.busAddr) ↔ b.BackOnPeri0) := by
  rw [BusPama.BackOnPeri0, OnPeri0]
  by_cases hflag : b.flag = 0
  · -- a bus that was not saved is switched to the code of the mode
    have hmode : BusClockMode.clockBak.code &&& 7 ≠ 3 := by decide
    have hfactor : (~~~ccuFactorMMask) >>> 24 &&& 7 = 7 := by decide
    simp only [busClockStep, bind_apply, hflag, ne_eq, not_true_eq_false, and_false,
      if_false, if_true,
      pure_apply, writel_word, Function.update_self, readl_fst, ← shiftRight_and_of_mask hfactor,
      source_eq, false_and, hmode]
    trivial
  · simp only [busClockStep, bind_apply, hflag, ne_eq, not_false_eq_true, and_self, if_true,
      pure_apply, writel_word, Function.update_self, source_eq, true_and]

lemma busResume_source {d : Device} {l : List BusPama}
    (hl : (l.map BusPama.busAddr).Nodup) (s : Regs) :
    ∀ b ∈ l, (OnPeri0 ((busClockSet d .clockBak l s).2.word b.busAddr) ↔ b.BackOnPeri0) := by
  have hspec : (busClockSet d .clockBak l s).1.map BusPama.busAddr = l.map BusPama.busAddr ∧
      ∀ c ∈ (busClockSet d .clockBak l s).1, ∃ b ∈ l, b.busAddr = c.busAddr ∧
        (OnPeri0 ((busClockSet d .clockBak l s).2.word c.busAddr) ↔ b.BackOnPeri0) := by
    refine Io.each_spec (P := fun b _ => b ∈ l)
      (Q := fun c w => ∃ b ∈ l, b.busAddr = c.busAddr ∧ (OnPeri0 w ↔ b.BackOnPeri0))
        (fun b t hb => ?_)
      (busClockStep_within _) hl s fun _ hb => hb
    obtain ⟨haddr, hsource⟩ := busClockStep_source d b t
    exact ⟨haddr, b, hb, haddr.symm, hsource⟩
  intro b hb
  obtain ⟨c, hc, hcb⟩ := exists_of_map hspec.1 (List.mem_map_of_mem hb)
  obtain ⟨b', hb', haddr, hiff⟩ := hspec.2 c hc
  have hsame : b' = b := List.inj_on_of_nodup_map hl hb' hb (haddr.trans hcb)
  rw [hsame, hcb] at hiff
  exact hiff

/-- A PLL that the first loop left as it was saved. -/
lemma enabled_agree_iff (p : PllPama) :
    AgreeOff pllLockStatusMask p.enabled p.value ↔
      ¬(p.locks = true ∧ p.value &&& pllOutputEnableMask ≠ 0) := by
  have hsaved : AgreeOff pllLockStatusMask p.saved p.value := AgreeOff.and_not UInt32.and_self _
  cases hlocks : p.locks with
  | false =>
      rw [PllPama.enabled, hlocks, if_neg Bool.false_ne_true]
      exact ⟨fun _ h => Bool.noConfusion h.1, fun _ => hsaved⟩
  | true =>
      rw [PllPama.enabled, hlocks, if_pos rfl]
      have hapart : pllOutputEnableMask &&& pllLockStatusMask = 0 := by decide
      constructor
      · rintro hagree ⟨_, hout⟩
        have hclear : Field pllOutputEnableMask 0 (p.saved &&& ~~~pllOutputEnableMask) := by
          rw [Field, UInt32.and_assoc, UInt32.and_comm (~~~pllOutputEnableMask),
            UInt32.and_not_self,
            UInt32.and_zero]
        exact hout (hagree.symm.field hapart hclear)
      · intro hnot
        have hout : p.value &&& pllOutputEnableMask = 0 := by
          by_contra hne
          exact hnot ⟨rfl, hne⟩
        have hsame : p.saved &&& ~~~pllOutputEnableMask = p.saved := by
          refine (and_not_eq_self_iff _ _).mpr ?_
          exact hsaved.field hapart hout
        rw [hsame]
        exact hsaved

/-- A failed lock strands no bus: for the first PLL that does not lock within the limit of its
poll, no bus goes back to the PERI0 PLL, or the PERI0 PLL is as it was saved all the same. It is
so if it comes up to the failing one and needs no lock or has its output closed, or after it and
had not been switched off. -/
def Unstranded (d : Device) (c : ClkSaves) (s : Regs) : Prop :=
  ∀ pre p post m, c.pllRestore = pre ++ p :: post → LocksFrom d s.reads pre m → p.FailsFrom d m →
    (∀ b ∈ c.ccmuBuses ++ c.prcmBuses, ¬b.BackOnPeri0) ∨
    (∀ q ∈ pre ++ [p], q.addr = ccuPllPeri0Reg →
      ¬(q.locks = true ∧ q.value &&& pllOutputEnableMask ≠ 0)) ∧
    ∀ q ∈ post, q.addr = ccuPllPeri0Reg → AgreeOff pllLockStatusMask (s.word q.addr) q.value

section Stranded

variable {d : Device}

/-- The PLLs after a resume that ran into one that does not lock. -/
lemma clkResume_fail (hd : PlainClocks d) {c : ClkSaves} (hc : c.Addresses) {s : Regs}
    {pre post : List PllPama} {p : PllPama} {m : ℕ} (hl : c.pllRestore = pre ++ p :: post)
    (hpre : LocksFrom d s.reads pre m) (hp : p.FailsFrom d m) :
    (clkResume d c s).1.1 = -eTimeout ∧
    (∀ q ∈ pre ++ [p], (clkResume d c s).2.word q.addr = q.enabled) ∧
    ∀ q ∈ post, (clkResume d c s).2.word q.addr = s.word q.addr := by
  obtain ⟨hret, hafter⟩ := (clkResume_stages d hc s).pll
  have haddr : ∀ q ∈ pre ++ p :: post, q.addr ∈ pllAddrs := fun q hq =>
    mem_of_map hc.pll (hl ▸ hq)
  obtain ⟨hloop, hfirst, hlast⟩ := pllEnableLoop_fail hd haddr
    (by rw [← hl, hc.pll]; decide) hpre hp
  have hne : (pllEnableLoop d (pre ++ p :: post) s).1 ≠ 0 := by
    rw [hloop]
    decide
  rw [allPllEnable, hl, bind_apply, ite_apply', if_pos hne, pure_apply] at hret hafter
  refine ⟨hret.symm.trans hloop, fun q hq => ?_, fun q hq => ?_⟩
  · have hmem : q ∈ pre ++ p :: post := by
      rw [List.append_cons]
      exact List.mem_append_left _ hq
    rw [hafter _ (haddr q hmem), hfirst q hq]
  · have hmem := haddr q (List.mem_append_right _ (List.mem_cons_of_mem _ hq))
    rw [hafter _ hmem, hlast q hq]

/-- The buses after a resume. -/
lemma clkResume_source {c : ClkSaves} (hc : c.Addresses) (s : Regs) :
    (∃ a ∈ busAddrs, OnPeri0 ((clkResume d c s).2.word a)) ↔
      ∃ b ∈ c.ccmuBuses ++ c.prcmBuses, b.BackOnPeri0 := by
  have h := clkResume_stages d hc s
  obtain ⟨t₁, _, _, hccmu⟩ := h.ccmu
  obtain ⟨t₂, _, _, hprcm⟩ := h.prcm
  have hsource₁ := busResume_source (d := d) (l := c.ccmuBuses) (by rw [hc.ccmu]; decide) t₁
  have hsource₂ := busResume_source (d := d) (l := c.prcmBuses) (by rw [hc.prcm]; decide) t₂
  constructor
  · rintro ⟨a, ha, hon⟩
    obtain ha | ha := List.mem_append.mp ha
    · obtain ⟨b, hb, rfl⟩ := exists_of_map hc.ccmu ha
      rw [hccmu _ ha, hsource₁ b hb] at hon
      exact ⟨b, List.mem_append_left _ hb, hon⟩
    · obtain ⟨b, hb, rfl⟩ := exists_of_map hc.prcm ha
      rw [hprcm _ ha, hsource₂ b hb] at hon
      exact ⟨b, List.mem_append_right _ hb, hon⟩
  · rintro ⟨b, hb, hback⟩
    obtain hb | hb := List.mem_append.mp hb
    · have ha := mem_of_map hc.ccmu hb
      refine ⟨b.busAddr, List.mem_append_left _ ha, ?_⟩
      rw [hccmu _ ha]
      exact (hsource₁ b hb).mpr hback
    · have ha := mem_of_map hc.prcm hb
      refine ⟨b.busAddr, List.mem_append_right _ ha, ?_⟩
      rw [hprcm _ ha]
      exact (hsource₂ b hb).mpr hback

/-- A resume that reports a timeout leaves a bus on the PERI0 PLL only if that PLL is as it
was saved, up to its lock bit. -/
def Safe (c : ClkSaves) (ret : ℤ) (w : ℕ → UInt32) : Prop :=
  ret = -eTimeout → (∃ a ∈ busAddrs, OnPeri0 (w a)) →
    ∀ p ∈ c.pllRestore, p.addr = ccuPllPeri0Reg →
      AgreeOff pllLockStatusMask (w ccuPllPeri0Reg) p.value

/-- **A PLL that does not lock.** For every saved contents and whichever PLLs do not lock within
the limit of their polls, a resume is safe if and only if the first of them strands no bus. -/
theorem clkResume_stranded (hd : PlainClocks d) {c : ClkSaves} (hc : c.Addresses) (s : Regs) :
    Safe c (clkResume d c s).1.1 (clkResume d c s).2.word ↔ Unstranded d c s := by
  constructor
  · intro hsafe pre p post m hl hpre hp
    obtain ⟨hret, hfirst, hlast⟩ := clkResume_fail hd hc hl hpre hp
    by_cases hback : ∃ b ∈ c.ccmuBuses ++ c.prcmBuses, b.BackOnPeri0
    · have hperi0 := hsafe hret ((clkResume_source hc s).mpr hback)
      refine Or.inr ⟨fun q hq haddr => ?_, fun q hq haddr => ?_⟩
      · refine (enabled_agree_iff q).mp ?_
        rw [← hfirst q hq, haddr]
        refine hperi0 q ?_ haddr
        rw [hl, List.append_cons]
        exact List.mem_append_left _ hq
      · rw [← hlast q hq, haddr]
        refine hperi0 q ?_ haddr
        rw [hl]
        exact List.mem_append_right _ (List.mem_cons_of_mem _ hq)
    · exact Or.inl fun b hb h => hback ⟨b, hb, h⟩
  · intro hcond hret hon q hq haddr
    have hnot : ¬∃ m, LocksFrom d s.reads c.pllRestore m := by
      rintro ⟨m, hlocks⟩
      have hok := (allPllEnable_ok hd hc.pll hlocks).1
      rw [(clkResume_stages d hc s).pll.1, hret] at hok
      exact absurd hok (by decide)
    obtain ⟨pre, p, post, m, hl, hpre, hp⟩ :=
      (locksFrom_or_fails d c.pllRestore s.reads).resolve_left hnot
    obtain ⟨_, hfirst, hlast⟩ := clkResume_fail hd hc hl hpre hp
    cases hcond pre p post m hl hpre hp with
    | inl hnone =>
        obtain ⟨b, hb, hback⟩ := (clkResume_source hc s).mp hon
        exact absurd hback (hnone b hb)
    | inr h =>
        rw [hl, List.append_cons, List.mem_append] at hq
        cases hq with
        | inl hq =>
            rw [← haddr, hfirst q hq]
            exact (enabled_agree_iff q).mpr (h.1 q hq haddr)
        | inr hq =>
            rw [← haddr, hlast q hq]
            exact h.2 q hq haddr

end Stranded

/-- PLLs that lock at the first read after the limit of a poll. -/
def lateDevice : Device where
  live a := if a ∈ pllAddrs then pllLockStatusMask else 0
  sense n _ := if n < standbyHwPollLimit then 0 else pllLockStatusMask

/-- The PERI0 PLL was saved on, with its lock and its output closed, and every CCU bus on it. -/
def closedPeri0Saves : ClkSaves :=
  { suspendParaPrepare with
    pllRestore := pllAddrs.map fun a => ⟨a, if a = ccuPllPeri0Reg then 0xa0000000 else 0⟩
    ccmuBuses := ccmuAddrs.map (⟨·, 3, 0, 1⟩) }

/-- The PERI0 PLL locks too late: the resume times out with the buses on it, and it is as it
was saved. -/
theorem clkResume_stranded_late :
    (clkResume lateDevice closedPeri0Saves ⟨fun _ => 0, 0, []⟩).1.1 = -eTimeout ∧
    (∃ a ∈ busAddrs, OnPeri0 ((clkResume lateDevice closedPeri0Saves
      ⟨fun _ => 0, 0, []⟩).2.word a)) ∧
    Safe closedPeri0Saves (clkResume lateDevice closedPeri0Saves ⟨fun _ => 0, 0, []⟩).1.1
      (clkResume lateDevice closedPeri0Saves ⟨fun _ => 0, 0, []⟩).2.word := by
  have haddr : closedPeri0Saves.Addresses := by
    refine ⟨?_, ?_, ?_, ?_, ?_⟩ <;> decide
  have hplain : PlainClocks lateDevice :=
    ⟨(clkDevice_plain fun _ => false).live, (clkDevice_plain fun _ => false).plain⟩
  have hl : closedPeri0Saves.pllRestore = [⟨ccuPllRefReg, 0⟩, ⟨ccuPllDdrReg, 0⟩] ++
      ⟨ccuPllPeri0Reg, 0xa0000000⟩ :: (pllAddrs.drop 3).map (⟨·, 0⟩) := by decide
  have hfails : PllPama.FailsFrom lateDevice 0 ⟨ccuPllPeri0Reg, 0xa0000000⟩ := by
    refine ⟨by decide, fun k hk hlocked => hlocked ?_⟩
    rw [lateDevice, Nat.zero_add]
    simp only [if_pos hk, UInt32.zero_and]
  obtain ⟨hret, -, -⟩ := clkResume_fail (s := ⟨fun _ => 0, 0, []⟩) hplain haddr hl
    (.off (by decide) (.off (by decide) (.nil 0))) hfails
  refine ⟨hret, (clkResume_source haddr _).mpr
    ⟨⟨ccuAhbCfgReg, 3, 0, 1⟩, by decide, by decide, by decide⟩, ?_⟩
  refine (clkResume_stranded hplain haddr _).mpr ?_
  intro pre p post m hsplit hpre hp
  -- no other PLL was saved on, so that it is the PERI0 PLL that fails
  have hon : ∀ q ∈ closedPeri0Saves.pllRestore, q.locks = true → q.addr = ccuPllPeri0Reg := by
    decide
  have hclosed : ∀ q ∈ closedPeri0Saves.pllRestore,
      ¬(q.locks = true ∧ q.value &&& pllOutputEnableMask ≠ 0) := by
    decide
  have hnodup : (closedPeri0Saves.pllRestore.map PllPama.addr).Nodup := by
    rw [haddr.pll]
    decide
  rw [hsplit] at hon hclosed hnodup
  have hperi0 := hon p (List.mem_append_right _ List.mem_cons_self) hp.1
  refine Or.inr ⟨fun q hq _ => hclosed q ?_, fun q hq haddr => ?_⟩
  · rw [List.append_cons]
    exact List.mem_append_left _ hq
  · rw [List.map_append, List.map_cons, List.nodup_append, List.nodup_cons] at hnodup
    exact absurd (haddr.trans hperi0.symm ▸ List.mem_map_of_mem hq) hnodup.2.1.1

/-- The PERI0 PLL was saved on, with its lock and its output, and every CCU bus on it. -/
def onPeri0Saves : ClkSaves :=
  { suspendParaPrepare with
    pllRestore := pllAddrs.map fun a => ⟨a, if a = ccuPllPeri0Reg then 0xa8000000 else 0⟩
    ccmuBuses := ccmuAddrs.map (⟨·, 3, 0, 1⟩) }

/-- If the PERI0 PLL does not lock then, the buses go back to it with its output closed. -/
theorem clkResume_strands :
    ¬Safe onPeri0Saves
      (clkResume (clkDevice (· == ccuPllPeri0Reg)) onPeri0Saves ⟨fun _ => 0, 0, []⟩).1.1
      (clkResume (clkDevice (· == ccuPllPeri0Reg)) onPeri0Saves ⟨fun _ => 0, 0, []⟩).2.word := by
  intro hsafe
  have haddr : onPeri0Saves.Addresses := by
    refine ⟨?_, ?_, ?_, ?_, ?_⟩ <;> decide
  have hl : onPeri0Saves.pllRestore = [⟨ccuPllRefReg, 0⟩, ⟨ccuPllDdrReg, 0⟩] ++
      ⟨ccuPllPeri0Reg, 0xa8000000⟩ :: (pllAddrs.drop 3).map (⟨·, 0⟩) := by decide
  have hfails : PllPama.FailsFrom (clkDevice (· == ccuPllPeri0Reg)) 0
      ⟨ccuPllPeri0Reg, 0xa8000000⟩ :=
    ⟨by decide, fun _ _ hlocked => hlocked (show 0 &&& pllLockStatusMask = 0 by decide)⟩
  obtain ⟨hret, hfirst, _⟩ := clkResume_fail (s := ⟨fun _ => 0, 0, []⟩)
    (clkDevice_plain (· == ccuPllPeri0Reg)) haddr hl
    (.off (by decide) (.off (by decide) (.nil 0))) hfails
  have hon := (clkResume_source (d := clkDevice (· == ccuPllPeri0Reg)) haddr
    ⟨fun _ => 0, 0, []⟩).mpr
    ⟨⟨ccuAhbCfgReg, 3, 0, 1⟩, by decide, by decide, by decide⟩
  generalize clkResume (clkDevice (· == ccuPllPeri0Reg)) onPeri0Saves ⟨fun _ => 0, 0, []⟩ = r
    at hsafe hret hfirst hon
  have hword := hfirst ⟨ccuPllPeri0Reg, 0xa8000000⟩ (by decide)
  have hagree := hsafe hret hon ⟨ccuPllPeri0Reg, 0xa8000000⟩ (by decide) rfl
  rw [hword] at hagree
  exact absurd hagree (by decide)

end A733Boot.Ar100s.Standby
