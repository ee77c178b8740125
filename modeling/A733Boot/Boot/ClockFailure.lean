/-
A run of `a7s_clock_init` that fails: the buses are back on the crystal, and no bus has been
on a PLL before the whole tree was up.

* `ClockDevice`: the bus registers are plain words and the lock bits of the PLLs are driven by
  the hardware; all else is arbitrary;
* `a7sPllWaitStable_seen`: a PLL is reported stable after three good reads in a row;
* `Safe`: the buses are on the crystal, and every write so far has left them there;
* `GatesUp`: how far a run got that may switch the buses to a PLL, with `GatesUp.ready`;
* `a7sClockInit_fallenBack`: **every error leaves the tree fallen back**, whatever the
  registers held and whatever was read of the lock bits, the crystal and the gates.
-/
import A733Boot.Boot.ClockTree

namespace A733Boot.Boot

/-! ### Fallen back -/

/-- The bus registers with the fields of their sources. SYS24 is source zero of each. -/
def busClocks : List (ℕ × UInt32) :=
  [(ahbClkReg, a7sAhbApbSourceMask), (apb0ClkReg, a7sAhbApbSourceMask),
    (apb1ClkReg, a7sAhbApbSourceMask), (apbUartClkReg, a7sUartSourceMask)]

/-- The buses of the list are on the crystal, undivided. -/
def OnSys24 (l : List (ℕ × UInt32)) (s : Regs) : Prop :=
  ∀ b ∈ l, Field (b.2 ||| a7sBusDivMask) 0 (s.word (a7sCcuReg b.1))

/-- The bus registers hold what was written to them, and the lock bits are the hardware's. -/
structure ClockDevice (d : Device) : Prop where
  buses : ∀ b ∈ busClocks, d.live (a7sCcuReg b.1) = 0
  locks : ∀ offset ∈ [pllRefCtrlReg, pllPeri0CtrlReg, pllPeri1CtrlReg],
    d.live (a7sCcuReg offset) &&& a7sPllLock = a7sPllLock

/-- The lock was seen at three reads in a row, from `s` on and before `t`. -/
def LockSeen (d : Device) (reg : ℕ) (s t : Regs) : Prop :=
  ∃ n, s.reads ≤ n ∧ n + a7sPllLockStableReads ≤ t.reads ∧
    ∀ k < a7sPllLockStableReads, d.view { t with reads := n + k } reg &&& a7sPllLock ≠ 0

/-- The register, as it is in `t`, was read back with all its gates from `s` on. -/
def GatesSeen (d : Device) (reg : ℕ) (s t : Regs) : Prop :=
  ∃ n, s.reads ≤ n ∧ n < t.reads ∧
    d.view { t with reads := n } reg &&& a7sPeriDistributionGates = a7sPeriDistributionGates

/-! How far a run from `s` has got in the state `t`. -/

def BusesUp (d : Device) (s t : Regs) : Prop := a7sBusUseSys24 d s = (0, t)

def RefUp (d : Device) (s t : Regs) : Prop := ∃ u, BusesUp d s u ∧ a7sRefPllInit d u = (0, t)

def Peri0Up (d : Device) (s t : Regs) : Prop :=
  ∃ u, RefUp d s u ∧ a7sPeriPllInit d pllPeri0CtrlReg 100 u = (0, t)

def Peri1Up (d : Device) (s t : Regs) : Prop :=
  ∃ u, Peri0Up d s u ∧ a7sPeriPllInit d pllPeri1CtrlReg 100 u = (0, t)

def Gates0Up (d : Device) (s t : Regs) : Prop :=
  ∃ u, Peri1Up d s u ∧ a7sPeriDistributionEnable d peri0pllGateEnReg u = (0, t)

def GatesUp (d : Device) (s t : Regs) : Prop :=
  ∃ u, Gates0Up d s u ∧ a7sPeriDistributionEnable d peri1pllGateEnReg u = (0, t)

/-- Every stage before the switch to the nominal rates has succeeded: the PLLs were reported
stable, and the distribution registers read back with their gates open. -/
structure ClocksReady (d : Device) (s t : Regs) : Prop where
  stages : GatesUp d s t
  locked : ∀ offset ∈ [pllRefCtrlReg, pllPeri0CtrlReg, pllPeri1CtrlReg],
    LockSeen d (a7sCcuReg offset) s t
  opened : ∀ offset ∈ [peri0pllGateEnReg, peri1pllGateEnReg], GatesSeen d (a7sCcuReg offset) s t

/-- The rate of the crystal could be read, where it was asked for. -/
def DcxoKnown (d : Device) (s : Regs) : Prop :=
  (a7sReadDcxoRate d
    (a7sPllIsRunning d (refPll 100 80) false (a7sBusUseSys24 d s).2).2).1 ≠ 0

/-- The outputs of the PLL are closed whose lock the error comes from. The error of the REF PLL
has a second cause, a crystal that could not be read. -/
structure OutputsClosed (d : Device) (s : Regs) (ret : ℤ) (s' : Regs) : Prop where
  ref : ret = a7sClockErrRefPll → DcxoKnown d s →
    Field a7sRefOutputGate 0 (s'.word (a7sCcuReg pllRefCtrlReg))
  peri0 : ret = a7sClockErrPeri0Pll →
    Field a7sPeriOutputGates 0 (s'.word (a7sCcuReg pllPeri0CtrlReg))
  peri1 : ret = a7sClockErrPeri1Pll →
    Field a7sPeriOutputGates 0 (s'.word (a7sCcuReg pllPeri1CtrlReg))

/-- What a run from `s` leaves behind that ends in `s'` with the error `ret`. -/
structure FallenBack (d : Device) (s : Regs) (ret : ℤ) (s' : Regs) : Prop where
  buses : OnSys24 busClocks s'
  outputs : OutputsClosed d s ret s'
  /-- After the writes `ws` a bus that was written is on SYS24, unless the tree was up before
  the last of them. -/
  sources : ∀ ws, s.writes ++ ws <+: s'.writes → ∀ b ∈ busClocks,
    a7sCcuReg b.1 ∈ ws.map Prod.fst → replay s.word ws (a7sCcuReg b.1) &&& b.2 ≠ 0 →
      ∃ t x ws', ClocksReady d s t ∧ s.writes ++ ws = t.writes ++ x :: ws'
  /-- The words at the end are those of the log. -/
  log : ∃ ws, s'.writes = s.writes ++ ws ∧ s'.word = replay s.word ws

/-! ### The lock of a PLL -/

section Lock

variable {d : Device} {reg : ℕ}

/-- The lock bit was set at `k` reads in a row, from the `n`-th on. -/
def LockRun (d : Device) (reg n k : ℕ) : Prop := ∀ i < k, d.sense (n + i) reg &&& a7sPllLock ≠ 0

/-- Three reads in a row, from the `n`-th read on at the earliest. -/
def StableSince (d : Device) (reg n : ℕ) (s : Regs) : Prop :=
  ∃ k, n ≤ k ∧ k + a7sPllLockStableReads ≤ s.reads ∧ LockRun d reg k a7sPllLockStableReads

lemma StableSince.mono {n n' : ℕ} {s s' : Regs} (h : StableSince d reg n s) (hn : n' ≤ n)
    (hs : s.reads ≤ s'.reads) : StableSince d reg n' s' := by
  obtain ⟨k, hk, hlast, hrun⟩ := h
  exact ⟨k, hn.trans hk, hlast.trans hs, hrun⟩

lemma view_and_lock (hlive : d.live reg &&& a7sPllLock = a7sPllLock) (s : Regs) :
    d.view s reg &&& a7sPllLock = d.sense s.reads reg &&& a7sPllLock := by
  have h := congrArg (· &&& a7sPllLock) (d.view_and_live s reg)
  simp only [UInt32.and_assoc, hlive] at h
  exact h

lemma StableSince.lockSeen (hlive : d.live reg &&& a7sPllLock = a7sPllLock) {s t : Regs}
    (h : StableSince d reg s.reads t) : LockSeen d reg s t := by
  obtain ⟨k, hk, hlast, hrun⟩ := h
  refine ⟨k, hk, hlast, fun i hi => ?_⟩
  rw [view_and_lock hlive]
  exact hrun i hi

/-- The loop has seen `stable` good reads in a row, from the `n`-th on. -/
lemma waitStableLoop_seen (hlive : d.live reg &&& a7sPllLock = a7sPllLock) {m n stable : ℕ}
    {s : Regs} (hreads : s.reads = n + stable) (hrun : LockRun d reg n stable)
    (h : (waitStableLoop d reg m stable s).1 = true) :
    StableSince d reg n (waitStableLoop d reg m stable s).2 := by
  induction m generalizing n stable s with
  | zero => exact Bool.noConfusion h
  | succ m ih =>
      rw [waitStableLoop, bind_apply, ite_apply', ite_apply', readl_fst,
        view_and_lock hlive] at h ⊢
      by_cases hgood : d.sense s.reads reg &&& a7sPllLock = 0
      · -- a bad read starts the count again
        rw [if_neg (not_not.mpr hgood)] at h ⊢
        refine (ih rfl (fun i hi => absurd hi (Nat.not_lt_zero i)) h).mono ?_ le_rfl
        omega
      · rw [if_pos hgood] at h ⊢
        have hrun' : LockRun d reg n (stable + 1) := by
          intro i hi
          obtain hi | rfl := Nat.lt_succ_iff_lt_or_eq.mp hi
          · exact hrun i hi
          · rw [← hreads]
            exact hgood
        have hreads' : (readl d reg s).2.reads = n + (stable + 1) := by
          rw [show (readl d reg s).2.reads = s.reads + 1 from rfl, hreads, Nat.add_assoc]
        by_cases hlast : stable + 1 = a7sPllLockStableReads
        · rw [if_pos hlast]
          rw [hlast] at hrun' hreads'
          exact ⟨n, le_rfl, hreads'.ge, hrun'⟩
        · rw [if_neg hlast] at h ⊢
          exact ih hreads' hrun' h

/-- **A PLL that is reported stable.** The lock was seen at three reads in a row. -/
lemma a7sPllWaitStable_seen (hlive : d.live reg &&& a7sPllLock = a7sPllLock) (n : ℕ) :
    Triple (fun s : Regs => n ≤ s.reads) (a7sPllWaitStable d reg) fun r s =>
      r = true → StableSince d reg n s :=
  fun s hs hr => (waitStableLoop_seen hlive (Nat.add_zero s.reads).symm
    (fun i hi => absurd hi (Nat.not_lt_zero i)) hr).mono hs le_rfl

end Lock

section Program

variable {d : Device} {pll : A7sPllConfig}

lemma a7sPllIsRunning_seen (hlive : d.live pll.reg &&& a7sPllLock = a7sPllLock) (check : Bool)
    (n : ℕ) :
    Triple (fun s : Regs => n ≤ s.reads) (a7sPllIsRunning d pll check) fun r s =>
      r = true → StableSince d pll.reg n s := by
  have hread : ∀ a, Triple (fun s : Regs => n ≤ s.reads) (readl d a) fun _ s => n ≤ s.reads :=
    fun a => (Io.Writes.readl (P := fun _ => True) d a).reads n
  have hfalse : Triple (fun s : Regs => n ≤ s.reads) (pure false : Io Bool) fun r s =>
      r = true → StableSince d pll.reg n s := .pure fun _ _ hr => Bool.noConfusion hr
  exact (hread _).bind fun _ => .ite (fun _ => hfalse) fun _ => .ite (fun _ => hfalse) fun _ =>
    .ite (fun _ => (hread _).bind fun _ => .ite (fun _ => hfalse) fun _ =>
      a7sPllWaitStable_seen hlive n) fun _ => a7sPllWaitStable_seen hlive n

lemma pllFinish_seen (hlive : d.live pll.reg &&& a7sPllLock = a7sPllLock) (enabled : Bool)
    (n : ℕ) :
    Triple (fun s : Regs => n ≤ s.reads) (pllFinish d pll enabled) fun r s =>
      r = 0 → StableSince d pll.reg n s := by
  refine (a7sPllWaitStable_seen hlive n).bind fun stable => .ite (fun hstable => ?_) fun _ => ?_
  · -- opening the outputs does not take back what was seen
    have hopen : Io.Writes (fun _ => True) (do
        let value ← readl d pll.reg
        writel (value ||| pll.outputMask) pll.reg
        pure (0 : ℤ)) :=
      .bind (.readl _ _) fun _ => .bind (.writel trivial) fun _ => .pure _
    exact .ite (fun _ s hs _ => (hs hstable).mono le_rfl (hopen s).1) fun _ =>
      .pure fun s hs _ => hs hstable
  · exact fun s _ (hr : (-1 : ℤ) = 0) => absurd hr (by decide)

/-- A PLL that was programmed has been seen to lock. -/
lemma a7sPllProgram_seen (hlive : d.live pll.reg &&& a7sPllLock = a7sPllLock) (n : ℕ) :
    Triple (fun s : Regs => n ≤ s.reads) (a7sPllProgram d pll) fun r s =>
      r = 0 → StableSince d pll.reg n s := by
  have hread : ∀ a, Triple (fun s : Regs => n ≤ s.reads) (readl d a) fun _ s => n ≤ s.reads :=
    fun a => (Io.Writes.readl (P := fun _ => True) d a).reads n
  have hrunning : Triple (fun s : Regs => n ≤ s.reads) (a7sPllIsRunning d pll true) fun r s =>
      (r = true → StableSince d pll.reg n s) ∧ n ≤ s.reads := fun s hs =>
    ⟨a7sPllIsRunning_seen hlive true n s hs,
      (a7sPllIsRunning_writes (fun _ => True) d pll true).reads n s hs⟩
  refine (hread _).bind fun _ => hrunning.bind fun running => .ite (fun hrun => ?_) fun _ => ?_
  · exact .pure fun s hs _ => hs.1 hrun
  · exact .mono (((pllClearPattern_writes d pll).reads n).bind fun _ => (hread _).bind fun _ =>
      ((pllPrepare_writes _ _ _ _).reads n).bind fun _ =>
      ((pllConfigure_writes _ _).reads n).bind fun _ => pllFinish_seen hlive _ n)
      (fun s hs => hs.2) fun _ _ hs => hs

/-- A PLL that could not be programmed has its outputs closed: the lock wait at the end is the
only way to fail. -/
lemma a7sPllProgram_closed (d : Device) (pll : A7sPllConfig) :
    Triple (fun _ => True) (a7sPllProgram d pll) fun r s =>
      r ≠ 0 → Field pll.outputMask 0 (s.word pll.reg) := by
  have hclose : ∀ value, Triple (fun _ => True) (do
      writel (value &&& ~~~pll.outputMask) pll.reg
      pure (-1 : ℤ)) fun r s => r ≠ 0 → Field pll.outputMask 0 (s.word pll.reg) := by
    intro value s _ _
    rw [bind_apply, pure_apply, writel_word, Function.update_self]
    exact Field.clear _ _
  have hok : ∀ s : Regs, True → (0 : ℤ) ≠ 0 → Field pll.outputMask 0 (s.word pll.reg) :=
    fun _ _ h => absurd rfl h
  have hfinish : ∀ enabled, Triple (fun _ => True) (pllFinish d pll enabled) fun r s =>
      r ≠ 0 → Field pll.outputMask 0 (s.word pll.reg) := fun enabled =>
    .after fun stable => .ite (fun _ => .ite (fun _ => .after fun _ => .after fun _ => .pure hok)
      fun _ => .pure hok) fun _ => .after fun value => hclose value
  exact .after fun _ => .after fun _ => .ite (fun _ => .pure hok) fun _ =>
    .after fun _ => .after fun _ => .after fun _ => .after fun _ => hfinish _

end Program

section Ref

variable {d : Device}

lemma a7sRefPllInit_seen
    (hlive : d.live (a7sCcuReg pllRefCtrlReg) &&& a7sPllLock = a7sPllLock) (n : ℕ) :
    Triple (fun s : Regs => n ≤ s.reads) (a7sRefPllInit d) fun r s =>
      r = 0 → StableSince d (a7sCcuReg pllRefCtrlReg) n s := by
  have hrunning : Triple (fun s : Regs => n ≤ s.reads) (a7sPllIsRunning d (refPll 100 80) false)
      fun r s => (r = true → StableSince d (a7sCcuReg pllRefCtrlReg) n s) ∧ n ≤ s.reads :=
    fun s hs => ⟨a7sPllIsRunning_seen hlive false n s hs,
      (a7sPllIsRunning_writes (fun _ => True) d (refPll 100 80) false).reads n s hs⟩
  have hprogram : ∀ m div, Triple (fun s : Regs => n ≤ s.reads) (a7sPllProgram d (refPll m div))
      fun r s => r = 0 → StableSince d (a7sCcuReg pllRefCtrlReg) n s := by
    intro m div
    have hreg : d.live (refPll m div).reg &&& a7sPllLock = a7sPllLock := hlive
    exact a7sPllProgram_seen hreg n
  refine hrunning.bind fun running => .ite (fun hrun => .pure fun s hs _ => hs.1 hrun) fun _ => ?_
  refine .mono (((a7sReadDcxoRate_writes (fun _ => True) d).reads n).bind fun rate => ?_)
    (fun s hs => hs.2) fun _ _ hs => hs
  exact .ite (fun _ => hprogram _ _) fun _ => .ite (fun _ => hprogram _ _) fun _ =>
    .ite (fun _ => hprogram _ _) fun _ => .pure fun s _ (hr : (-1 : ℤ) = 0) =>
      absurd hr (by decide)

/-- The rate of the crystal is one of three, or it could not be read. -/
lemma a7sReadDcxoRate_mem (d : Device) (s : Regs) :
    (a7sReadDcxoRate d s).1 = 0 ∨ (a7sReadDcxoRate d s).1 = 19200000 ∨
      (a7sReadDcxoRate d s).1 = 24000000 ∨ (a7sReadDcxoRate d s).1 = 26000000 := by
  rw [a7sReadDcxoRate, bind_apply]
  cases (dcxoLoop d 8 s).1 with
  | none => exact Or.inl rfl
  | some first =>
      simp only [ite_apply', pure_apply]
      split_ifs
      · exact Or.inr (Or.inl rfl)
      · exact Or.inr (Or.inr (Or.inr rfl))
      · exact Or.inr (Or.inr (Or.inl rfl))

/-- A REF PLL that failed has its output closed, if there was a rate to program it for. -/
lemma a7sRefPllInit_closed {s : Regs} (hret : (a7sRefPllInit d s).1 ≠ 0)
    (hrate : (a7sReadDcxoRate d (a7sPllIsRunning d (refPll 100 80) false s).2).1 ≠ 0) :
    Field a7sRefOutputGate 0 ((a7sRefPllInit d s).2.word (a7sCcuReg pllRefCtrlReg)) := by
  have hprogram : ∀ n div t, (a7sPllProgram d (refPll n div) t).1 ≠ 0 →
      Field a7sRefOutputGate 0
        ((a7sPllProgram d (refPll n div) t).2.word (a7sCcuReg pllRefCtrlReg)) := fun n div t =>
    a7sPllProgram_closed d (refPll n div) t trivial
  rw [a7sRefPllInit, bind_apply, ite_apply'] at hret ⊢
  split at hret
  case isTrue => exact absurd rfl hret
  case isFalse hrun =>
      rw [if_neg hrun]
      generalize (a7sPllIsRunning d (refPll 100 80) false s).2 = t at hret hrate ⊢
      simp only [bind_apply, ite_apply'] at hret ⊢
      obtain h | h | h | h := a7sReadDcxoRate_mem d t
      · exact absurd h hrate
      all_goals
        rw [h] at hret ⊢
        exact hprogram _ _ _ hret

end Ref

/-! ### The buses -/

/-- The write leaves a bus on SYS24, if it is to one. -/
def SourceClear (x : ℕ × UInt32) : Prop :=
  ∀ b ∈ busClocks, x.1 = a7sCcuReg b.1 → x.2 &&& b.2 = 0

/-- The buses are on the crystal in `t`, and every write since `s` has left them there. -/
structure Safe (s t : Regs) : Prop where
  logged : Logged SourceClear s t
  buses : OnSys24 busClocks t

lemma busClocks_inj {b c : ℕ × UInt32} (hb : b ∈ busClocks) (hc : c ∈ busClocks)
    (h : a7sCcuReg b.1 = a7sCcuReg c.1) : b = c := by
  have hall : ∀ b ∈ busClocks, ∀ c ∈ busClocks, a7sCcuReg b.1 = a7sCcuReg c.1 → b = c := by decide
  exact hall b hb c hc h

/-- A write to a register that is not that of a bus. -/
lemma sourceClear_of_ne {x : ℕ × UInt32} (h : x.1 ∉ busClocks.map fun b => a7sCcuReg b.1) :
    SourceClear x := by
  intro b hb hx
  rw [hx] at h
  exact absurd (List.mem_map_of_mem hb) h

section Buses

variable {d : Device}

variable {offset : ℕ} {mask : UInt32}

lemma a7sBusSwitchToSys24_sourceClear (hd : ClockDevice d) (hb : (offset, mask) ∈ busClocks) :
    Io.Writes SourceClear (a7sBusSwitchToSys24 d offset mask) := by
  intro s
  have hplain : d.live (a7sCcuReg offset) = 0 := hd.buses _ hb
  have hclear : ∀ w : UInt32, w &&& mask = 0 → SourceClear (a7sCcuReg offset, w) := by
    intro w hw c hc heq
    rw [← busClocks_inj hb hc heq]
    exact hw
  simp only [a7sBusSwitchToSys24, bind_apply, readl_fst, d.view_plain hplain, readl_word,
    writel_word, Function.update_self]
  exact ((Io.Writes.readl d _ s).trans (Io.Writes.writel (hclear _ (Field.clear _ _)) _)).trans
    ((Io.Writes.readl d _ _).trans
      (Io.Writes.writel (hclear _ ((Field.clear _ _).clear_and _)) _))

lemma a7sBusSwitchToSys24_onSys24 (hd : ClockDevice d) (hb : (offset, mask) ∈ busClocks)
    {l : List (ℕ × UInt32)} (hl : l ⊆ busClocks) :
    Triple (OnSys24 l) (a7sBusSwitchToSys24 d offset mask) fun _ =>
      OnSys24 ((offset, mask) :: l) := by
  intro s hs c hc
  rw [a7sBusSwitchToSys24_word (hd.buses _ hb)]
  by_cases heq : a7sCcuReg c.1 = a7sCcuReg offset
  · have hcb : c ∈ busClocks := (List.cons_subset.mpr ⟨hb, hl⟩) hc
    rw [busClocks_inj hcb hb heq, Function.update_self]
    exact ((Field.clear _ mask).clear_and _).union (Field.clear _ a7sBusDivMask)
  · rw [Function.update_of_ne heq]
    refine hs c ((List.mem_cons.mp hc).resolve_left fun hcb => heq ?_)
    rw [hcb]

/-- The switch to SYS24 is safe, whatever its checks say. -/
lemma a7sBusUseSys24_safe (hd : ClockDevice d) (s : Regs) : Safe s (a7sBusUseSys24 d s).2 := by
  have hahb : (ahbClkReg, a7sAhbApbSourceMask) ∈ busClocks := by simp [busClocks]
  have hapb0 : (apb0ClkReg, a7sAhbApbSourceMask) ∈ busClocks := by simp [busClocks]
  have hapb1 : (apb1ClkReg, a7sAhbApbSourceMask) ∈ busClocks := by simp [busClocks]
  have huart : (apbUartClkReg, a7sUartSourceMask) ∈ busClocks := by simp [busClocks]
  have hclear : Io.Writes SourceClear (a7sBusUseSys24 d) :=
    .bind (a7sBusSwitchToSys24_sourceClear hd hahb) fun _ =>
      .bind (a7sBusSwitchToSys24_sourceClear hd hapb0) fun _ =>
        .bind (a7sBusSwitchToSys24_sourceClear hd hapb1) fun _ =>
          .bind (a7sBusSwitchToSys24_sourceClear hd huart) fun _ => busCheck_writes _ _
  have hbuses : Triple (OnSys24 []) (a7sBusUseSys24 d) fun _ => OnSys24 busClocks := by
    have hnil : ([] : List (ℕ × UInt32)) ⊆ busClocks := List.nil_subset _
    have h₁ := List.cons_subset.mpr ⟨hahb, hnil⟩
    have h₂ := List.cons_subset.mpr ⟨hapb0, h₁⟩
    have h₃ := List.cons_subset.mpr ⟨hapb1, h₂⟩
    refine (a7sBusSwitchToSys24_onSys24 hd hahb hnil).bind fun _ =>
      (a7sBusSwitchToSys24_onSys24 hd hapb0 h₁).bind fun _ =>
      (a7sBusSwitchToSys24_onSys24 hd hapb1 h₂).bind fun _ =>
      (a7sBusSwitchToSys24_onSys24 hd huart h₃).bind fun _ t ht b hb => ?_
    rw [busCheck_word]
    refine ht b ?_
    simp only [busClocks, List.mem_cons, List.not_mem_nil, or_false] at hb ⊢
    tauto
  exact ⟨hclear s, hbuses s fun b hb => absurd hb List.not_mem_nil⟩

end Buses

/-! ### The stages -/

namespace Safe

variable {P : ℕ × UInt32 → Prop} {α : Type} {m : Io α} {s t u : Regs} {r : α}

/-- What a stage does that leaves the bus registers alone. -/
lemma ran (h : Safe s u) (hm : Io.Writes P m)
    (hP : ∀ x, P x → x.1 ∉ busClocks.map fun b => a7sCcuReg b.1) (hrun : m u = (r, t)) :
    Safe s t := by
  have hlogged := hm.ran hrun
  refine ⟨h.logged.trans (hlogged.mono fun x hx => sourceClear_of_ne (hP x hx)), fun b hb => ?_⟩
  have hword : t.word (a7sCcuReg b.1) = u.word (a7sCcuReg b.1) :=
    hlogged.word fun v hv => hP _ hv (List.mem_map_of_mem hb)
  rw [hword]
  exact h.buses b hb

lemma periPllInit {d : Device} {offset : ℕ} {r : ℤ} (h : Safe s u)
    (hoffset : ∀ x ∈ (periPll offset 100).regs, x ∉ busClocks.map fun b => a7sCcuReg b.1)
    (hrun : a7sPeriPllInit d offset 100 u = (r, t)) : Safe s t :=
  h.ran (a7sPllProgram_writes d (periPll offset 100)) (fun x => hoffset x.1) hrun

lemma periDistributionEnable {d : Device} {offset : ℕ} {r : ℤ} (h : Safe s u)
    (hoffset : a7sCcuReg offset ∉ busClocks.map fun b => a7sCcuReg b.1)
    (hrun : a7sPeriDistributionEnable d offset u = (r, t)) : Safe s t := by
  refine h.ran (a7sPeriDistributionEnable_writes d offset) (fun x hx => ?_) hrun
  rw [hx]
  exact hoffset

end Safe

section Stages

variable {d : Device} {s t u : Regs} {r : ℤ}

lemma BusesUp.safe (hd : ClockDevice d) (h : BusesUp d s t) : Safe s t := by
  have hsafe := a7sBusUseSys24_safe hd s
  rw [h] at hsafe
  exact hsafe

lemma BusesUp.ref_safe (hd : ClockDevice d) (h : BusesUp d s u)
    (hrun : a7sRefPllInit d u = (r, t)) : Safe s t := by
  refine (h.safe hd).ran (a7sRefPllInit_writes d) (fun x hx => ?_) hrun
  rw [hx]
  decide

lemma RefUp.peri0_safe (hd : ClockDevice d) (h : RefUp d s u)
    (hrun : a7sPeriPllInit d pllPeri0CtrlReg 100 u = (r, t)) : Safe s t := by
  obtain ⟨v, hv, hrun'⟩ := h
  refine (hv.ref_safe hd hrun').periPllInit ?_ hrun
  rintro x (rfl | ⟨rfl, -⟩) <;> decide

lemma Peri0Up.peri1_safe (hd : ClockDevice d) (h : Peri0Up d s u)
    (hrun : a7sPeriPllInit d pllPeri1CtrlReg 100 u = (r, t)) : Safe s t := by
  obtain ⟨v, hv, hrun'⟩ := h
  refine (hv.peri0_safe hd hrun').periPllInit ?_ hrun
  rintro x (rfl | ⟨rfl, -⟩) <;> decide

lemma Peri1Up.gates0_safe (hd : ClockDevice d) (h : Peri1Up d s u)
    (hrun : a7sPeriDistributionEnable d peri0pllGateEnReg u = (r, t)) : Safe s t := by
  obtain ⟨v, hv, hrun'⟩ := h
  exact (hv.peri1_safe hd hrun').periDistributionEnable (by decide) hrun

lemma Gates0Up.gates1_safe (hd : ClockDevice d) (h : Gates0Up d s u)
    (hrun : a7sPeriDistributionEnable d peri1pllGateEnReg u = (r, t)) : Safe s t := by
  obtain ⟨v, hv, hrun'⟩ := h
  exact (hv.gates0_safe hd hrun').periDistributionEnable (by decide) hrun

/-- The gates were read back where `a7s_peri_distribution_enable` succeeds. -/
lemma a7sPeriDistributionEnable_seen {offset : ℕ}
    (h : a7sPeriDistributionEnable d offset s = (0, t)) : GatesSeen d (a7sCcuReg offset) s t := by
  obtain ⟨v, hv⟩ : ∃ v, v = d.view s (a7sCcuReg offset) ||| a7sPeriDistributionGates := ⟨_, rfl⟩
  obtain ⟨u, hu⟩ : ∃ u, u = (writel v (a7sCcuReg offset) (readl d (a7sCcuReg offset) s).2).2 :=
    ⟨_, rfl⟩
  have hrun : a7sPeriDistributionEnable d offset s =
      (if d.view u (a7sCcuReg offset) &&& a7sPeriDistributionGates = a7sPeriDistributionGates
        then 0 else -1, (readl d (a7sCcuReg offset) u).2) := by
    rw [hu, hv]
    rfl
  rw [hrun, Prod.mk.injEq] at h
  obtain ⟨hret, rfl⟩ := h
  have hreads : u.reads = s.reads + 1 := by
    rw [hu]
    rfl
  refine ⟨u.reads, by omega, Nat.lt_succ_self _, ?_⟩
  by_contra hne
  rw [if_neg] at hret
  · exact absurd hret (by decide)
  · exact hne

lemma GatesSeen.later {reg : ℕ} {s' t' : Regs} (h : GatesSeen d reg s t) (hs : s'.reads ≤ s.reads)
    (ht : t.reads ≤ t'.reads) (hword : t'.word reg = t.word reg) : GatesSeen d reg s' t' := by
  obtain ⟨n, hn, hlast, hseen⟩ := h
  refine ⟨n, hs.trans hn, hlast.trans_le ht, ?_⟩
  rw [Device.view, hword]
  exact hseen

/-- A run that got to the nominal rates has seen the locks and the gates. -/
lemma GatesUp.ready (hd : ClockDevice d) (h : GatesUp d s t) : ClocksReady d s t := by
  have hstages := h
  obtain ⟨s₅, ⟨s₄, ⟨s₃, ⟨s₂, ⟨s₁, h₁, h₂⟩, h₃⟩, h₄⟩, h₅⟩, h₆⟩ := h
  have hr₁ := ((a7sBusUseSys24_writes d).ran h₁).1
  have hr₂ := hr₁.trans ((a7sRefPllInit_writes d).ran h₂).1
  have hr₃ := hr₂.trans ((a7sPllProgram_writes d _).ran h₃).1
  have hr₄ := hr₃.trans ((a7sPllProgram_writes d _).ran h₄).1
  have hr₅ := ((a7sPeriDistributionEnable_writes d _).ran h₅).1
  have hlast := (a7sPeriDistributionEnable_writes d _).ran h₆
  have hlocks := hd.locks
  simp only [List.forall_mem_cons] at hlocks
  obtain ⟨href, hperi0, hperi1, -⟩ := hlocks
  have hseen₂ := (a7sRefPllInit_seen href s.reads).of_run h₂ hr₁ rfl
  have hseen₃ := (a7sPllProgram_seen hperi0 s.reads).of_run h₃ hr₂ rfl
  have hseen₄ := (a7sPllProgram_seen hperi1 s.reads).of_run h₄ hr₃ rfl
  have hr₆ := hr₅.trans hlast.1
  have hr₇ := ((a7sPllProgram_writes d _).ran h₄).1.trans hr₆
  have hr₈ := ((a7sPllProgram_writes d _).ran h₃).1.trans hr₇
  refine ⟨hstages, ?_, ?_⟩
  · rw [List.forall_mem_cons, List.forall_mem_cons, List.forall_mem_singleton]
    exact ⟨(hseen₂.mono le_rfl hr₈).lockSeen href, (hseen₃.mono le_rfl hr₇).lockSeen hperi0,
      (hseen₄.mono le_rfl hr₆).lockSeen hperi1⟩
  · rw [List.forall_mem_cons, List.forall_mem_singleton]
    have hne : a7sCcuReg peri0pllGateEnReg ≠ a7sCcuReg peri1pllGateEnReg := by decide
    have hkept : t.word (a7sCcuReg peri0pllGateEnReg) = s₅.word (a7sCcuReg peri0pllGateEnReg) :=
      hlast.word fun _ => hne
    exact ⟨(a7sPeriDistributionEnable_seen h₅).later hr₄ hlast.1 hkept,
      (a7sPeriDistributionEnable_seen h₆).later (hr₄.trans hr₅) le_rfl rfl⟩

end Stages

/-! ### The ways out -/

section Exits

variable {d : Device} {s s' t u : Regs}

/-- Up to `u` the buses stayed on the crystal, and the run ends there or the tree was up. -/
lemma sources_of_logged (hu : Logged SourceClear s u) (hle : u.writes <+: s'.writes)
    (hready : s'.writes = u.writes ∨ ClocksReady d s u) {ws : List (ℕ × UInt32)}
    (hws : s.writes ++ ws <+: s'.writes) {b : ℕ × UInt32} (hb : b ∈ busClocks)
    (hmem : a7sCcuReg b.1 ∈ ws.map Prod.fst)
    (hsource : replay s.word ws (a7sCcuReg b.1) &&& b.2 ≠ 0) :
    ∃ t x ws', ClocksReady d s t ∧ s.writes ++ ws = t.writes ++ x :: ws' := by
  obtain hclear | ⟨x, ws', hlater⟩ := hu.cut hle hws
  · exact absurd (replay_of_written (Q := fun v => v &&& b.2 = 0)
      (fun x hx => hclear x hx b hb) hmem) hsource
  · cases hready with
    | inl hend =>
        -- nothing is written after the end
        have hlen := hws.length_le
        rw [hlater, hend, List.length_append, List.length_cons] at hlen
        omega
    | inr hready => exact ⟨u, x, ws', hready, hlater⟩

lemma FallenBack.of_safe {ret : ℤ} (h : Safe s s') (hout : OutputsClosed d s ret s') :
    FallenBack d s ret s' := by
  refine ⟨h.buses, hout, ?_, ?_⟩
  · intro ws hws b hb hmem hsource
    exact sources_of_logged h.logged List.prefix_rfl (Or.inl rfl) hws hb hmem hsource
  · obtain ⟨-, ws, hlog, hword, -⟩ := h.logged
    exact ⟨ws, hlog, hword⟩

lemma outputsClosed_bus : OutputsClosed d s a7sClockErrBus s' := by
  refine ⟨fun h => ?_, fun h => ?_, fun h => ?_⟩ <;> exact absurd h (by decide)

lemma Safe.fallBack (hd : ClockDevice d) (h : Safe s t) (error : ℤ) :
    Safe s (clockFallBack d error t).2 := by
  simp only [clockFallBack, bind_apply, pure_apply]
  exact ⟨h.logged.trans (a7sBusUseSys24_safe hd t).logged, (a7sBusUseSys24_safe hd t).buses⟩

lemma clockFallBack_fst (d : Device) (error : ℤ) (t : Regs) :
    (clockFallBack d error t).1 = error := by
  rw [clockFallBack, bind_apply, pure_apply]

lemma Safe.gatesExit (hd : ClockDevice d) (h : Safe s t) :
    FallenBack d s a7sClockErrBus (clockFallBack d a7sClockErrBus t).2 :=
  .of_safe (h.fallBack hd _) outputsClosed_bus

variable {r : ℤ}

lemma BusesUp.refExit (hd : ClockDevice d) (h : BusesUp d s u)
    (hrun : a7sRefPllInit d u = (r, t)) (hr : r ≠ 0) : FallenBack d s a7sClockErrRefPll t := by
  refine .of_safe (h.ref_safe hd hrun) ⟨fun _ hknown => ?_, fun herr => ?_, fun herr => ?_⟩
  · have hclosed := a7sRefPllInit_closed (d := d) (s := u)
    rw [DcxoKnown, h] at hknown
    rw [hrun] at hclosed
    exact hclosed hr hknown
  · exact absurd herr (by decide)
  · exact absurd herr (by decide)

lemma RefUp.peri0Exit (hd : ClockDevice d) (h : RefUp d s u)
    (hrun : a7sPeriPllInit d pllPeri0CtrlReg 100 u = (r, t)) (hr : r ≠ 0) :
    FallenBack d s a7sClockErrPeri0Pll t := by
  refine .of_safe (h.peri0_safe hd hrun) ⟨fun herr => ?_, fun _ => ?_, fun herr => ?_⟩
  · exact absurd herr (by decide)
  · exact (a7sPllProgram_closed d (periPll pllPeri0CtrlReg 100)).of_run hrun trivial hr
  · exact absurd herr (by decide)

lemma Peri0Up.peri1Exit (hd : ClockDevice d) (h : Peri0Up d s u)
    (hrun : a7sPeriPllInit d pllPeri1CtrlReg 100 u = (r, t)) (hr : r ≠ 0) :
    FallenBack d s a7sClockErrPeri1Pll (clockFallBack d a7sClockErrPeri1Pll t).2 := by
  refine .of_safe ((h.peri1_safe hd hrun).fallBack hd _)
    ⟨fun herr => ?_, fun herr => ?_, fun _ => ?_⟩
  · exact absurd herr (by decide)
  · exact absurd herr (by decide)
  · have hclosed := (a7sPllProgram_closed d (periPll pllPeri1CtrlReg 100)).of_run hrun trivial hr
    rw [(clockFallBack_writes d a7sClockErrPeri1Pll).within t _ (by decide)]
    exact hclosed

/-- The buses may have been on a PLL here: the tree was up. -/
lemma GatesUp.nominalExit (hd : ClockDevice d) (h : GatesUp d s u)
    (hrun : a7sBusUseNominalRates d u = (r, t)) :
    FallenBack d s a7sClockErrBus (clockFallBack d a7sClockErrBus t).2 := by
  have hready := h.ready hd
  obtain ⟨v, hv, hrun'⟩ := h
  have hsafe := hv.gates1_safe hd hrun'
  have hrest : Logged (fun _ => True) u (clockFallBack d a7sClockErrBus t).2 :=
    (((a7sBusUseNominalRates_writes d).ran hrun).mono fun _ _ => trivial).trans
      ((clockFallBack_writes d a7sClockErrBus t).mono fun _ _ => trivial)
  have hbuses : OnSys24 busClocks (clockFallBack d a7sClockErrBus t).2 := by
    simp only [clockFallBack, bind_apply, pure_apply]
    exact (a7sBusUseSys24_safe hd t).buses
  refine ⟨hbuses, outputsClosed_bus, ?_, ?_⟩
  · intro ws hws b hb hmem hsource
    exact sources_of_logged hsafe.logged hrest.writes (Or.inr hready) hws hb hmem hsource
  · obtain ⟨-, ws, hlog, hword, -⟩ := (hsafe.logged.mono fun _ _ => trivial).trans hrest
    exact ⟨ws, hlog, hword⟩

end Exits

/-- **Every error leaves the tree fallen back.** Whatever the registers held before and
whatever was read of the lock bits, the crystal and the gates. -/
theorem a7sClockInit_fallenBack {d : Device} (hd : ClockDevice d) {s : Regs}
    (hret : (a7sClockInit d s).1 ≠ a7sClockOk) :
    FallenBack d s (a7sClockInit d s).1 (a7sClockInit d s).2 := by
  have hexit : ∀ {P : Regs → Prop} {error : ℤ},
      (∀ t, P t → FallenBack d s error (clockFallBack d error t).2) →
      Triple P (clockFallBack d error) fun r s' => r ≠ a7sClockOk → FallenBack d s r s' := by
    intro P error h t ht _
    rw [clockFallBack_fst]
    exact h t ht
  have hall : Triple (fun t => t = s) (a7sClockInit d) fun r s' =>
      r ≠ a7sClockOk → FallenBack d s r s' := by
    -- after each stage, the states in which it ended with zero
    refine .checked .start (fun r hr => .pure ?_) <| .checked .ran (fun r hr => .pure ?_) <|
      .checked .ran (fun r hr => .pure ?_) <| .checked .ran (fun r hr => hexit ?_) <|
      .checked .ran (fun r hr => hexit ?_) <| .checked .ran (fun r hr => hexit ?_) <|
      .checked .ran (fun r hr => hexit ?_) <| .pure ?_
    · intro t hrun _
      have hsafe := a7sBusUseSys24_safe hd s
      rw [hrun] at hsafe
      exact .of_safe hsafe outputsClosed_bus
    · rintro t ⟨u, hu, hrun⟩ _
      exact BusesUp.refExit hd hu hrun hr
    · rintro t ⟨u, hu, hrun⟩ _
      exact RefUp.peri0Exit hd hu hrun hr
    · rintro t ⟨u, hu, hrun⟩
      exact Peri0Up.peri1Exit hd hu hrun hr
    · rintro t ⟨u, hu, hrun⟩
      exact (Peri1Up.gates0_safe hd hu hrun).gatesExit hd
    · rintro t ⟨u, hu, hrun⟩
      exact (Gates0Up.gates1_safe hd hu hrun).gatesExit hd
    · rintro t ⟨u, hu, hrun⟩
      exact GatesUp.nominalExit hd hu hrun
    · exact fun t _ hok => absurd rfl hok
  exact hall s rfl hret

/-- Bus clocks that are plain registers, and PLL registers of which only the lock is live. -/
lemma ClockDevice.of_live {d : Device} (hbuses : ∀ b ∈ busClocks, d.live (a7sCcuReg b.1) = 0)
    (hlocks : ∀ offset ∈ [pllRefCtrlReg, pllPeri0CtrlReg, pllPeri1CtrlReg],
      d.live (a7sCcuReg offset) = a7sPllLock) : ClockDevice d where
  buses := hbuses
  locks offset hoffset := by rw [hlocks offset hoffset, UInt32.and_self]

lemma a7sDevice_clockDevice (lock : ℕ → ℕ → Bool) : ClockDevice (a7sDevice lock) := by
  apply ClockDevice.of_live
  · simp only [busClocks, List.forall_mem_cons]
    exact ⟨rfl, rfl, rfl, rfl, fun b hb => absurd hb List.not_mem_nil⟩
  · simp only [List.forall_mem_cons]
    exact ⟨rfl, rfl, rfl, fun b hb => absurd hb List.not_mem_nil⟩

/-- A lock that never comes is an error. -/
lemma a7sClockInit_unlocked (s : Regs) :
    (a7sClockInit (a7sDevice fun _ _ => false) s).1 ≠ a7sClockOk := by
  intro hok
  obtain ⟨s₁, s₂, -, -, -, -, -, -, href, -⟩ := a7sClockInit_ok hok
  have hlive := (a7sDevice_clockDevice fun _ _ => false).locks _ List.mem_cons_self
  obtain ⟨n, -, -, hrun⟩ := (a7sRefPllInit_seen hlive 0).of_run href (Nat.zero_le _) rfl
  exact hrun 0 (by decide) UInt32.zero_and

theorem a7sClockInit_fallenBack_unlocked :
    ClockDevice (a7sDevice fun _ _ => false) ∧
    (a7sClockInit (a7sDevice fun _ _ => false) ⟨fun _ => 0, 0, []⟩).1 ≠ a7sClockOk ∧
    FallenBack (a7sDevice fun _ _ => false) ⟨fun _ => 0, 0, []⟩
      (a7sClockInit (a7sDevice fun _ _ => false) ⟨fun _ => 0, 0, []⟩).1
      (a7sClockInit (a7sDevice fun _ _ => false) ⟨fun _ => 0, 0, []⟩).2 :=
  ⟨a7sDevice_clockDevice _, a7sClockInit_unlocked _,
    a7sClockInit_fallenBack (a7sDevice_clockDevice _) (a7sClockInit_unlocked _)⟩

end A733Boot.Boot
