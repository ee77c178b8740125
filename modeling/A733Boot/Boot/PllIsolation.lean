/-
Whether `a7s_pll_program` of `src/clock_a733.c` isolates the consumers of a PLL before it
changes the frequency, in every state between two of its writes.

* `Driving`, `SameFrequency`, `Isolated`: consumers see the PLL, the bits that its frequency
  depends on, and a write that leaves them alone while consumers see it;
* `Isolates`: every write of a run is isolated, and the outputs end open or closed;
* `pllClearPattern_isolated`, …, `pllFinish_isolated`: the parts of the sequence. The spread
  spectrum is switched off before the outputs are closed, and is the one part that needs an
  assumption;
* `a7sPllProgram_isolates_iff` (**isolation**): when a run isolates the consumers.
-/
import A733Boot.Boot.ClockFailure
import A733Boot.Library.WriteSteps

namespace A733Boot.Boot

/-- Consumers see the PLL: it is enabled and an output is open. -/
def Driving (pll : A7sPllConfig) (w : ℕ → UInt32) : Prop :=
  w pll.reg &&& a7sPllEnable ≠ 0 ∧ w pll.reg &&& pll.outputMask ≠ 0

/-- No bit has changed that the frequency depends on: the configuration and, where there is a
pattern register, the switch of the spread spectrum. -/
def SameFrequency (pll : A7sPllConfig) (w w' : ℕ → UInt32) : Prop :=
  w' pll.reg &&& pll.configMask = w pll.reg &&& pll.configMask ∧
    (pll.patternReg ≠ 0 → w' pll.patternReg &&& a7sBit 31 = w pll.patternReg &&& a7sBit 31)

/-- While consumers see the PLL, the write leaves its frequency alone. -/
def Isolated (pll : A7sPllConfig) (w : ℕ → UInt32) (x : ℕ × UInt32) : Prop :=
  Driving pll w → SameFrequency pll w (Function.update w x.1 x.2)

/-- A run of `a7s_pll_program` from `s` isolates the consumers while it retunes the PLL, and
leaves the outputs open if it succeeds and closed if it fails. -/
structure Isolates (d : Device) (pll : A7sPllConfig) (s : Regs) : Prop where
  isolated : Stepped (Isolated pll) s (a7sPllProgram d pll s).2
  opened : (a7sPllProgram d pll s).1 = 0 →
    Field pll.outputMask pll.outputMask ((a7sPllProgram d pll s).2.word pll.reg)
  closed : (a7sPllProgram d pll s).1 ≠ 0 →
    Field pll.outputMask 0 ((a7sPllProgram d pll s).2.word pll.reg)

/-! ### The parts of the sequence -/

section Parts

variable {d : Device} {pll : A7sPllConfig} {w : ℕ → UInt32} {v : UInt32}

/-- A write to the control register that keeps the configuration. -/
lemma isolated_of_config (hs : pll.Sound) {c : UInt32} (hw : Field pll.configMask c (w pll.reg))
    (hv : Field pll.configMask c v) : Isolated pll w (pll.reg, v) := by
  intro _
  refine ⟨?_, fun _ => ?_⟩
  · rw [Function.update_self]
    exact hv.trans hw.symm
  · rw [Function.update_of_ne hs.apart]

lemma isolated_of_not_driving (h : ¬ Driving pll w) (x : ℕ × UInt32) : Isolated pll w x :=
  fun hd => absurd hd h

/-- What a read of the control register shows of the configuration. -/
lemma AgreeOff.config (hs : pll.Sound) (h : AgreeOff a7sPllLock v (w pll.reg)) :
    Field pll.configMask (w pll.reg &&& pll.configMask) v :=
  AgreeOff.field h hs.mask_lock rfl

lemma readl_reg_steps {R : (ℕ → UInt32) → ℕ × UInt32 → Prop} {P : (ℕ → UInt32) → Prop}
    (hlive : d.live pll.reg = a7sPllLock) :
    Io.Steps R (fun s => P s.word) (readl d pll.reg) fun value s =>
      AgreeOff a7sPllLock value (s.word pll.reg) ∧ P s.word := by
  refine .readl fun s hP => ⟨?_, hP⟩
  have hview := d.view_agreeOff s pll.reg
  rwa [hlive] at hview

/-- The spread spectrum is switched off, with the outputs as they were found. -/
lemma pllClearPattern_isolated (hs : pll.Sound) (hplain : d.live pll.patternReg = 0)
    {P : UInt32 → Prop} :
    Io.Steps (Isolated pll)
      (fun s => P (s.word pll.reg) ∧
        (pll.patternReg ≠ 0 → Driving pll s.word → Field (a7sBit 31) 0 (s.word pll.patternReg)))
      (pllClearPattern d pll) fun _ s => P (s.word pll.reg) := by
  refine .ite (fun hne => ?_) fun _ => .pure fun s h => h.1
  refine .bind (Q := fun value s => value = s.word pll.patternReg ∧ P (s.word pll.reg) ∧
    (pll.patternReg ≠ 0 → Driving pll s.word → Field (a7sBit 31) 0 (s.word pll.patternReg)))
    (.readl fun s h => ⟨d.view_plain hplain, h⟩) fun value => .writel ?_
  rintro s ⟨rfl, hP, hclear⟩
  constructor
  · intro hdriving
    have hoff := hclear hne hdriving
    refine ⟨?_, fun _ => ?_⟩
    · rw [Function.update_of_ne hs.apart.symm]
    · rw [Function.update_self, hoff]
      exact Field.clear _ _
  · rw [writel_word, Function.update_of_ne hs.apart.symm]
    exact hP

/-- A PLL that is enabled: the outputs are closed first, and stay so. -/
lemma pllPrepare_closes (hs : pll.Sound) (hlive : d.live pll.reg = a7sPllLock) (value : UInt32) :
    Io.Steps (Isolated pll) (fun s => AgreeOff a7sPllLock value (s.word pll.reg))
      (pllPrepare d pll true value) fun _ s => ¬ Driving pll s.word := by
  refine .bind (Q := fun _ s => Field pll.outputMask 0 (s.word pll.reg))
    (.writel fun s h => ⟨?_, ?_⟩) fun _ => ?_
  · exact isolated_of_config hs rfl
      ((AgreeOff.config hs h).and_not (hs.apart_mask (output_within pll)))
  · rw [writel_word, Function.update_self]
    exact Field.clear _ _
  · refine .bind (readl_reg_steps (P := fun w => Field pll.outputMask 0 (w pll.reg)) hlive)
      fun value' => .writel fun s h => ⟨?_, fun hdriving => hdriving.2 ?_⟩
    · exact isolated_of_config hs rfl
        ((AgreeOff.config hs h.1).and_not (hs.apart_mask (lockEnable_within pll)))
    · rw [writel_word, Function.update_self]
      exact (AgreeOff.field h.1 (hs.apart_lock (output_within pll)) h.2).clear_and _

/-- A PLL that is off: it is not enabled before the configuration is in place. -/
lemma pllPrepare_stays_off (hs : pll.Sound)
    (henable : (a7sPllLdoEnable ||| pll.supplyMask ||| pll.outputMask) &&& a7sPllEnable = 0)
    (value : UInt32) :
    Io.Steps (Isolated pll)
      (fun s => AgreeOff a7sPllLock value (s.word pll.reg) ∧ Field a7sPllEnable 0 (s.word pll.reg))
      (pllPrepare d pll false value) fun _ s => ¬ Driving pll s.word := by
  have hsupply : (a7sPllLdoEnable ||| pll.supplyMask) &&& a7sPllEnable = 0 :=
    disjoint_of_within (within_or_left UInt32.and_self _)
      (by rw [UInt32.and_comm]; exact henable)
  have houtput : pll.outputMask &&& a7sPllEnable = 0 :=
    disjoint_of_within (within_or_right _ _) (by rw [UInt32.and_comm]; exact henable)
  refine .bind (Q := fun _ s => Field a7sPllEnable 0 (s.word pll.reg) ∧
      s.word pll.reg = value ||| (a7sPllLdoEnable ||| pll.supplyMask))
    (.writel fun s h => ⟨?_, ?_, ?_⟩) fun _ => .writel ?_
  · exact isolated_of_not_driving (fun hdriving => hdriving.1 h.2) _
  · rw [writel_word, Function.update_self]
    exact (AgreeOff.field h.1 (hs.apart_lock (enable_within pll)) h.2).or hsupply
  · rw [writel_word, Function.update_self]
  · rintro s ⟨hoff, hword⟩
    refine ⟨isolated_of_not_driving (fun hdriving => hdriving.1 hoff) _, fun hdriving =>
      hdriving.1 ?_⟩
    rw [writel_word, Function.update_self, ← hword]
    exact hoff.or houtput

/-- After the first steps no consumer sees the PLL: the outputs are closed, or the PLL has not
been enabled yet. -/
lemma pllPrepare_isolated (hs : pll.Sound) (hlive : d.live pll.reg = a7sPllLock)
    (henable : (a7sPllLdoEnable ||| pll.supplyMask ||| pll.outputMask) &&& a7sPllEnable = 0)
    (enabled : Bool) (value : UInt32) :
    Io.Steps (Isolated pll)
      (fun s => AgreeOff a7sPllLock value (s.word pll.reg) ∧
        (enabled = false → Field a7sPllEnable 0 (s.word pll.reg)))
      (pllPrepare d pll enabled value) fun _ s => ¬ Driving pll s.word := by
  cases enabled with
  | true => exact (pllPrepare_closes hs hlive value).mono (fun s h => h.1) fun _ _ h => h
  | false =>
      exact (pllPrepare_stays_off hs henable value).mono (fun s h => ⟨h.1, h.2 rfl⟩)
        fun _ _ h => h

lemma pllConfigure_isolated (hs : pll.Sound) (hlive : d.live pll.reg = a7sPllLock) :
    Io.Steps (Isolated pll) (fun s => ¬ Driving pll s.word) (pllConfigure d pll)
      fun _ _ => True := by
  refine .bind (readl_reg_steps (P := fun w => ¬ Driving pll w) hlive) fun value => ?_
  refine .bind (Q := fun _ _ => True)
    (.writel fun s h => ⟨isolated_of_not_driving h.2 _, trivial⟩) fun _ => ?_
  -- the configuration stays from here on
  refine .bind (readl_reg_steps (P := fun _ => True) hlive) fun value' => ?_
  refine .bind (Q := fun _ s => s.word pll.reg = value' ||| a7sPllEnable)
    (.writel fun s h => ⟨?_, ?_⟩) fun _ => .writel fun s hword => ⟨?_, trivial⟩
  · exact isolated_of_config hs rfl
      ((AgreeOff.config hs h.1).or (hs.apart_mask (enable_within pll)))
  · rw [writel_word, Function.update_self]
  · refine isolated_of_config hs rfl ?_
    rw [hword]
    exact Field.or rfl (hs.apart_mask (lockEnable_within pll))

lemma pllFinish_isolated (hs : pll.Sound) (hlive : d.live pll.reg = a7sPllLock) (enabled : Bool) :
    Io.Steps (Isolated pll) (fun _ => True) (pllFinish d pll enabled) fun _ _ => True := by
  have hopen : ∀ {c v}, Field pll.configMask c v →
      Field pll.configMask c (v ||| pll.outputMask) :=
    fun h => h.or (hs.apart_mask (output_within pll))
  have hclose : ∀ {c v}, Field pll.configMask c v →
      Field pll.configMask c (v &&& ~~~pll.outputMask) :=
    fun h => h.and_not (hs.apart_mask (output_within pll))
  have hset : ∀ {f : UInt32 → UInt32} (r : ℤ),
      (∀ {c v}, Field pll.configMask c v → Field pll.configMask c (f v)) →
      Io.Steps (Isolated pll) (fun _ => True) (do
        let value ← readl d pll.reg
        writel (f value) pll.reg
        pure r) fun _ _ => True := by
    intro f r hf
    refine .bind (readl_reg_steps (P := fun _ => True) hlive) fun value => ?_
    refine .bind (Q := fun _ _ => True) (.writel fun s h => ⟨?_, trivial⟩) fun _ =>
      .pure fun _ h => h
    exact isolated_of_config hs rfl (hf (AgreeOff.config hs h.1))
  refine .bind (Q := fun _ _ => True)
    (.reading (waitStableLoop_writes _ _ _ _ _) fun _ h => h) fun stable => ?_
  exact .ite (fun _ => .ite (fun _ => hset 0 hopen) fun _ => .pure fun _ h => h)
    fun _ => hset (-1) hclose

end Parts

/-! ### The whole sequence -/

section Program

variable {d : Device} {pll : A7sPllConfig} {s : Regs}

/-- No write retunes a PLL that consumers see, unless its spread spectrum was on. -/
lemma a7sPllProgram_isolated (hs : pll.Sound) (hlive : d.live pll.reg = a7sPllLock)
    (hplain : d.live pll.patternReg = 0)
    (henable : (a7sPllLdoEnable ||| pll.supplyMask ||| pll.outputMask) &&& a7sPllEnable = 0)
    (hclear : pll.patternReg ≠ 0 → Driving pll s.word →
      Field (a7sBit 31) 0 (s.word pll.patternReg)) :
    Stepped (Isolated pll) s (a7sPllProgram d pll s).2 := by
  have hread : Io.Steps (Isolated pll) (fun t => t = s) (readl d pll.reg) fun value t =>
      t.word = s.word ∧ value = d.view s pll.reg := by
    refine .readl ?_
    rintro t rfl
    exact ⟨rfl, rfl⟩
  have hrunning : ∀ value, Io.Steps (Isolated pll)
      (fun t => t.word = s.word ∧ value = d.view s pll.reg) (a7sPllIsRunning d pll true)
      fun _ t => t.word = s.word ∧ value = d.view s pll.reg :=
    fun value => .reading (a7sPllIsRunning_writes _ _ _ _) fun t h =>
      ⟨(a7sPllIsRunning_word true t).trans h.1, h.2⟩
  have hsteps : Io.Steps (Isolated pll) (fun t => t = s) (a7sPllProgram d pll)
      fun _ _ => True := by
    refine hread.bind fun value => (hrunning value).bind fun running =>
      .ite (fun _ => .pure fun _ _ => trivial) fun _ => ?_
    refine .bind (Q := fun _ t => (value &&& a7sPllEnable != 0) = false →
      Field a7sPllEnable 0 (t.word pll.reg)) (.mono (pllClearPattern_isolated hs hplain
        (P := fun v => (value &&& a7sPllEnable != 0) = false → Field a7sPllEnable 0 v)) ?_
        fun _ _ h => h) fun _ => ?_
    · -- what the driver has seen of the enable bit is what the register holds
      rintro t ⟨hword, rfl⟩
      rw [hword]
      refine ⟨fun hoff => ?_, hclear⟩
      have hview := (d.view_agreeOff s pll.reg).symm
      rw [hlive] at hview
      have hzero : Field a7sPllEnable 0 (d.view s pll.reg) := bne_eq_false_iff_eq.mp hoff
      exact hview.field (hs.apart_lock (enable_within pll)) hzero
    · refine .bind (readl_reg_steps (P := fun w => (value &&& a7sPllEnable != 0) = false →
        Field a7sPllEnable 0 (w pll.reg)) hlive) fun value' => ?_
      exact (pllPrepare_isolated hs hlive henable _ value').bind fun _ =>
        (pllConfigure_isolated hs hlive).bind fun _ => pllFinish_isolated hs hlive _
  exact (hsteps s rfl).1

/-- The pattern register of a PLL with its spread spectrum on is written first. -/
lemma a7sPllProgram_first_write (hplain : d.live pll.patternReg = 0) (hne : pll.patternReg ≠ 0)
    (hon : ¬ Field (a7sBit 31) 0 (s.word pll.patternReg)) :
    ∃ ws, (a7sPllProgram d pll s).2.writes =
      s.writes ++ (pll.patternReg, s.word pll.patternReg &&& ~~~a7sBit 31) :: ws := by
  have hrun : (a7sPllIsRunning d pll true (readl d pll.reg s).2).1 ≠ true := by
    intro htrue
    have hpattern := (a7sPllIsRunning_true htrue).2.2 hne
    rw [d.view_plain hplain] at hpattern
    exact hon hpattern
  obtain ⟨hwrites, hword⟩ :=
    (a7sPllIsRunning_writes (fun _ => False) d pll true (readl d pll.reg s).2).silent
  simp only [a7sPllProgram, bind_apply, ite_apply', if_neg hrun, pllReprogram]
  generalize (a7sPllIsRunning d pll true (readl d pll.reg s).2).2 = t at hwrites hword ⊢
  have hfirst : (pllClearPattern d pll t).2.writes =
      s.writes ++ [(pll.patternReg, s.word pll.patternReg &&& ~~~a7sBit 31)] := by
    rw [pllClearPattern, if_pos hne]
    change t.writes ++ [(pll.patternReg, d.view t pll.patternReg &&& ~~~a7sBit 31)] = _
    rw [d.view_plain hplain, hwrites, hword]
    rfl
  have hrest : ∀ enabled, Io.Writes (fun x => x.1 ∈ pll.regs) (do
      let value ← readl d pll.reg
      pllPrepare d pll enabled value
      pllConfigure d pll
      pllFinish d pll enabled) :=
    fun enabled => .bind (.readl _ _) fun _ => .bind (pllPrepare_writes _ _ _ _) fun _ =>
      .bind (pllConfigure_writes _ _) fun _ => pllFinish_writes _ _ _
  obtain ⟨ws, hws⟩ := (hrest ((readl d pll.reg s).1 &&& a7sPllEnable != 0)
    (pllClearPattern d pll t).2).writes
  refine ⟨ws, ?_⟩
  rw [hfirst, List.append_assoc] at hws
  exact hws.symm

/-- A PLL that consumers see, with its spread spectrum on, is retuned by the first write. -/
lemma a7sPllProgram_not_isolated (hplain : d.live pll.patternReg = 0)
    (hne : pll.patternReg ≠ 0) (hdriving : Driving pll s.word)
    (hon : ¬ Field (a7sBit 31) 0 (s.word pll.patternReg)) :
    ¬ Stepped (Isolated pll) s (a7sPllProgram d pll s).2 := by
  obtain ⟨ws, hlog⟩ := a7sPllProgram_first_write hplain hne hon
  rintro ⟨ws', hlog', -, hall⟩
  obtain rfl := List.append_cancel_left (hlog'.symm.trans hlog)
  have hsame := (hall.1 hdriving).2 hne
  rw [Function.update_self, Field.clear] at hsame
  exact hon hsame.symm

end Program

/-! ### The PLLs of the driver -/

/-- The configurations that the driver programs: the REF PLL for each of the crystals, and the
two PERI PLLs. -/
def driverPlls : List A7sPllConfig :=
  [refPll 100 80, refPll 100 100, refPll 96 104, periPll pllPeri0CtrlReg 100,
    periPll pllPeri1CtrlReg 100]

lemma driverPlls_sound {pll : A7sPllConfig} (h : pll ∈ driverPlls) (lock : ℕ → ℕ → Bool) :
    pll.Sound ∧ (a7sDevice lock).live pll.reg = a7sPllLock ∧
      (a7sDevice lock).live pll.patternReg = 0 ∧
      (a7sPllLdoEnable ||| pll.supplyMask ||| pll.outputMask) &&& a7sPllEnable = 0 := by
  simp only [driverPlls, List.mem_cons, List.not_mem_nil, or_false] at h
  obtain rfl | rfl | rfl | rfl | rfl := h
  · exact ⟨⟨by decide, by decide, by decide, by decide⟩, rfl, rfl, by decide⟩
  · exact ⟨⟨by decide, by decide, by decide, by decide⟩, rfl, rfl, by decide⟩
  · exact ⟨⟨by decide, by decide, by decide, by decide⟩, rfl, rfl, by decide⟩
  · exact ⟨periPll_sound.1, rfl, rfl, by decide⟩
  · exact ⟨periPll_sound.2, rfl, rfl, by decide⟩

/-- **Isolation.** For every PLL of the driver, every contents of its registers and every
behaviour of its lock bit, a run isolates the consumers if and only if, before it, the PLL has
no pattern register, or its spread spectrum was off, or it was not enabled, or its outputs were
closed. -/
theorem a7sPllProgram_isolates_iff {pll : A7sPllConfig} (hpll : pll ∈ driverPlls)
    (lock : ℕ → ℕ → Bool) (s : Regs) :
    Isolates (a7sDevice lock) pll s ↔
      pll.patternReg = 0 ∨ Field (a7sBit 31) 0 (s.word pll.patternReg) ∨
        Field a7sPllEnable 0 (s.word pll.reg) ∨ Field pll.outputMask 0 (s.word pll.reg) := by
  obtain ⟨hs, hlive, hplain, henable⟩ := driverPlls_sound hpll lock
  constructor
  · intro h
    by_contra hnot
    rw [not_or, not_or, not_or] at hnot
    obtain ⟨hne, hon, henabled, hopen⟩ := hnot
    exact a7sPllProgram_not_isolated hplain hne ⟨henabled, hopen⟩ hon h.isolated
  · intro h
    refine ⟨a7sPllProgram_isolated hs hlive hplain henable fun hne hdriving => ?_, fun hret => ?_,
      a7sPllProgram_closed _ pll s trivial⟩
    · obtain h | h | h | h := h
      · exact absurd h hne
      · exact h
      · exact absurd h hdriving.1
      · exact absurd h hdriving.2
    · have hrequired := (a7sPllProgram_spec hs hlive hplain s hret).required
      have houtput := hrequired.part (output_within pll)
      rw [UInt32.and_comm, output_within] at houtput
      exact houtput

/-- The PERI0 PLL left enabled with its outputs open, and no spread spectrum. -/
def spreadOff : Regs :=
  ⟨fun a => if a = a7sCcuReg pllPeri0CtrlReg then a7sPllEnable ||| a7sPeriOutputGates else 0, 0, []⟩

theorem a7sPllProgram_isolates_spreadOff :
    Isolates (a7sDevice fun _ _ => true) (periPll pllPeri0CtrlReg 100) spreadOff :=
  (a7sPllProgram_isolates_iff (by simp [driverPlls]) (fun _ _ => true) spreadOff).mpr
    (.inr (.inl (by decide)))

/-- The PERI0 PLL left enabled, with an output open and its spread spectrum on. -/
def spreadOn : Regs :=
  ⟨fun a => if a = a7sCcuReg pllPeri0CtrlReg then a7sPllEnable ||| a7sBit 27
    else if a = a7sCcuReg (pllPeri0CtrlReg + 8) then a7sBit 31 else 0, 0, []⟩

theorem a7sPllProgram_retunes :
    ¬ Isolates (a7sDevice fun _ _ => true) (periPll pllPeri0CtrlReg 100) spreadOn :=
  fun h => a7sPllProgram_not_isolated rfl (by decide)
    ⟨by decide, by decide⟩ (by decide) h.isolated

end A733Boot.Boot
