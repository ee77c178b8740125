/-
What `a7s_clock_init` leaves behind: the PLLs and buses of the tree, register by register.

* `clockFields`: the fields that the driver names;
* `a7sClockInit_spec`: after a run that succeeds every PLL and every bus has its
  configuration, and only fields that the driver names have changed;
* `a7sClockInit_again`: a second run leaves PLLs that are locked alone.
-/
import A733Boot.Boot.Clock

namespace A733Boot.Boot

/-! ### The buses -/

section Buses

variable {d : Device}

lemma a7sBusSwitchToSys24_word {offset : ℕ} (hplain : d.live (a7sCcuReg offset) = 0)
    (sourceMask : UInt32) (s : Regs) :
    (a7sBusSwitchToSys24 d offset sourceMask s).2.word = Function.update s.word (a7sCcuReg offset)
      (s.word (a7sCcuReg offset) &&& ~~~sourceMask &&& ~~~a7sBusDivMask) := by
  simp only [a7sBusSwitchToSys24, bind_apply, readl_fst, writel_word, readl_word,
    d.view_plain hplain, Function.update_self, Function.update_idem]

lemma a7sBusSwitchUp_word {offset : ℕ} (hplain : d.live (a7sCcuReg offset) = 0)
    (sourceMask source divider : UInt32) (s : Regs) :
    (a7sBusSwitchUp d offset sourceMask source divider s).2.word
      = Function.update s.word (a7sCcuReg offset)
          ((s.word (a7sCcuReg offset) &&& ~~~a7sBusDivMask ||| divider) &&& ~~~sourceMask |||
            source) := by
  simp only [a7sBusSwitchUp, bind_apply, readl_fst, writel_word, readl_word,
    d.view_plain hplain, Function.update_self, Function.update_idem]

lemma busCheck_word (l : List (ℕ × UInt32 × UInt32)) (s : Regs) :
    (busCheck d l s).2.word = s.word := by
  induction l generalizing s with
  | nil => rfl
  | cons b l ih =>
      rw [busCheck, bind_apply, ite_apply']
      split
      · rfl
      · exact ih _

/-- Checks that pass have seen the fields. -/
lemma busCheck_ok {l : List (ℕ × UInt32 × UInt32)} (hplain : ∀ b ∈ l, d.live (a7sCcuReg b.1) = 0)
    {s : Regs} (h : (busCheck d l s).1 = 0) :
    ∀ b ∈ l, Field (b.2.1 ||| a7sBusDivMask) b.2.2 (s.word (a7sCcuReg b.1)) := by
  induction l generalizing s with
  | nil => exact fun b hb => absurd hb (List.not_mem_nil)
  | cons b l ih =>
      rw [busCheck, bind_apply, ite_apply', readl_fst,
        d.view_plain (hplain b (List.mem_cons_self))] at h
      by_cases hb : s.word (a7sCcuReg b.1) &&& (b.2.1 ||| a7sBusDivMask) = b.2.2
      · rw [if_neg (not_not.mpr hb)] at h
        intro c hc
        obtain rfl | hc := List.mem_cons.mp hc
        · exact hb
        · exact ih (fun c hc => hplain c (List.mem_cons_of_mem _ hc)) h c hc
      · rw [if_pos hb] at h
        exact Int.noConfusion h

end Buses

/-! ### The tree -/

/-- The fields that the driver names, register by register: those of the PLLs, the switch
of their spread spectrum, source and divider of the buses, the distribution gates. -/
def clockFields (a : ℕ) : UInt32 :=
  if a = a7sCcuReg pllRefCtrlReg then (refPll 100 80).fields
  else if a = a7sCcuReg pllPeri0CtrlReg then (periPll pllPeri0CtrlReg 100).fields
  else if a = a7sCcuReg pllPeri1CtrlReg then (periPll pllPeri1CtrlReg 100).fields
  else if a = a7sCcuReg (pllPeri0CtrlReg + 8) ∨ a = a7sCcuReg (pllPeri1CtrlReg + 8) then a7sBit 31
  else if a = a7sCcuReg ahbClkReg ∨ a = a7sCcuReg apb0ClkReg ∨ a = a7sCcuReg apb1ClkReg then
    a7sAhbApbSourceMask ||| a7sBusDivMask
  else if a = a7sCcuReg apbUartClkReg then a7sUartSourceMask ||| a7sBusDivMask
  else if a = a7sCcuReg peri0pllGateEnReg ∨ a = a7sCcuReg peri1pllGateEnReg then
    a7sPeriDistributionGates
  else 0

/-- Only fields that the driver names have changed. -/
def Kept (s s' : Regs) : Prop := ∀ a, AgreeOff (clockFields a) (s'.word a) (s.word a)

namespace Kept

variable {s s' s'' : Regs}

lemma trans (h : Kept s s') (h' : Kept s' s'') : Kept s s'' := fun a => (h' a).trans (h a)

lemma of_eq (h : s'.word = s.word) : Kept s s' := by
  intro a
  rw [h]
  exact AgreeOff.refl _ _

/-- One register is written. -/
lemma update {r : ℕ} {v : UInt32} (h : s'.word = Function.update s.word r v)
    (hv : AgreeOff (clockFields r) v (s.word r)) : Kept s s' := by
  intro a
  rw [h]
  by_cases ha : a = r
  · rw [ha, Function.update_self]
    exact hv
  · rw [Function.update_of_ne ha]
    exact AgreeOff.refl _ _

/-- A PLL that was programmed. -/
lemma of_done {pll : A7sPllConfig} (h : PllDone pll s s') (hreg : clockFields pll.reg = pll.fields)
    (hpattern : pll.patternReg ≠ 0 → clockFields pll.patternReg = a7sBit 31)
    (hrest : ∀ a ∉ pll.regs, s'.word a = s.word a) : Kept s s' := by
  intro a
  by_cases ha : a ∈ pll.regs
  · obtain rfl | ⟨rfl, hne⟩ := ha
    · rw [hreg]
      exact h.reg
    · rw [hpattern hne]
      exact h.patternReg
  · rw [hrest a ha]
    exact AgreeOff.refl _ _

end Kept

/-- The four bus registers and the two gate registers. -/
def busRegs : Set ℕ :=
  {a | a ∈ [ahbClkReg, apb0ClkReg, apb1ClkReg, apbUartClkReg, peri0pllGateEnReg,
    peri1pllGateEnReg].map a7sCcuReg}

instance (a : ℕ) : Decidable (a ∈ busRegs) := inferInstanceAs (Decidable (_ ∈ List.map _ _))

section Tree

variable {d : Device}

lemma a7sBusSwitchToSys24_kept {offset : ℕ} {sourceMask : UInt32}
    (hplain : d.live (a7sCcuReg offset) = 0)
    (hfields : clockFields (a7sCcuReg offset) = sourceMask ||| a7sBusDivMask) (s : Regs) :
    Kept s (a7sBusSwitchToSys24 d offset sourceMask s).2 := by
  refine Kept.update (a7sBusSwitchToSys24_word hplain sourceMask s) ?_
  rw [hfields]
  exact (AgreeOff.and_not (within_or_right _ _) _).trans
    (AgreeOff.and_not (within_or_left UInt32.and_self _) _)

lemma a7sBusSwitchUp_kept {offset : ℕ} {sourceMask source divider : UInt32}
    (hplain : d.live (a7sCcuReg offset) = 0)
    (hfields : clockFields (a7sCcuReg offset) = sourceMask ||| a7sBusDivMask)
    (hsource : source &&& sourceMask = source) (hdivider : divider &&& a7sBusDivMask = divider)
    (s : Regs) : Kept s (a7sBusSwitchUp d offset sourceMask source divider s).2 := by
  refine Kept.update (a7sBusSwitchUp_word hplain sourceMask source divider s) ?_
  have hdiv : divider &&& (sourceMask ||| a7sBusDivMask) = divider := by
    rw [← hdivider, UInt32.and_assoc, within_or_right]
  rw [hfields]
  exact (((AgreeOff.or (within_or_left hsource _) _).trans
    (AgreeOff.and_not (within_or_left UInt32.and_self _) _)).trans (AgreeOff.or hdiv _)).trans
    (AgreeOff.and_not (within_or_right _ _) _)

lemma a7sBusSwitchToSys24_writes {A : Set ℕ} {offset : ℕ} (h : a7sCcuReg offset ∈ A)
    (sourceMask : UInt32) :
    Io.Writes (fun x => x.1 ∈ A) (a7sBusSwitchToSys24 d offset sourceMask) :=
  .bind (.readl _ _) fun _ => .bind (.writel h) fun _ => .bind (.readl _ _) fun _ => .writel h

lemma a7sBusSwitchUp_writes {A : Set ℕ} {offset : ℕ} (h : a7sCcuReg offset ∈ A)
    (sourceMask source divider : UInt32) :
    Io.Writes (fun x => x.1 ∈ A) (a7sBusSwitchUp d offset sourceMask source divider) :=
  .bind (.readl _ _) fun _ => .bind (.writel h) fun _ => .bind (.readl _ _) fun _ => .writel h

lemma busCheck_writes (P : ℕ × UInt32 → Prop) (l : List (ℕ × UInt32 × UInt32)) :
    Io.Writes P (busCheck d l) := by
  induction l with
  | nil => exact .pure _
  | cons b l ih => exact .bind (.readl _ _) fun _ => .ite (.pure _) ih

lemma a7sBusUseSys24_writes (d : Device) :
    Io.Writes (fun x => x.1 ∈ busRegs) (a7sBusUseSys24 d) :=
  .bind (a7sBusSwitchToSys24_writes (by simp [busRegs]) _) fun _ =>
    .bind (a7sBusSwitchToSys24_writes (by simp [busRegs]) _) fun _ =>
      .bind (a7sBusSwitchToSys24_writes (by simp [busRegs]) _) fun _ =>
        .bind (a7sBusSwitchToSys24_writes (by simp [busRegs]) _) fun _ => busCheck_writes _ _

lemma a7sBusUseNominalRates_writes (d : Device) :
    Io.Writes (fun x => x.1 ∈ busRegs) (a7sBusUseNominalRates d) :=
  .bind (a7sBusSwitchUp_writes (by simp [busRegs]) _ _ _) fun _ =>
    .bind (a7sBusSwitchUp_writes (by simp [busRegs]) _ _ _) fun _ =>
      .bind (a7sBusSwitchUp_writes (by simp [busRegs]) _ _ _) fun _ =>
        .bind (a7sBusSwitchUp_writes (by simp [busRegs]) _ _ _) fun _ => busCheck_writes _ _

lemma a7sPeriDistributionEnable_writes (d : Device) (offset : ℕ) :
    Io.Writes (fun x => x.1 = a7sCcuReg offset) (a7sPeriDistributionEnable d offset) :=
  .bind (.readl _ _) fun _ => .bind (.writel rfl) fun _ => .bind (.readl _ _) fun _ => .pure _

lemma a7sPeriDistributionEnable_within {A : Set ℕ} {offset : ℕ} (h : a7sCcuReg offset ∈ A) :
    Io.Within A (a7sPeriDistributionEnable d offset) := by
  refine ((a7sPeriDistributionEnable_writes d offset).mono fun x hx => ?_).within
  rw [hx]
  exact h

lemma clockFallBack_writes (d : Device) (error : ℤ) :
    Io.Writes (fun x => x.1 ∈ busRegs) (clockFallBack d error) :=
  .bind (a7sBusUseSys24_writes d) fun _ => .pure _

lemma a7sPeriDistributionEnable_kept (offset : ℕ) (hplain : d.live (a7sCcuReg offset) = 0)
    (hfields : clockFields (a7sCcuReg offset) = a7sPeriDistributionGates) (s : Regs) :
    Kept s (a7sPeriDistributionEnable d offset s).2 := by
  have hword : (a7sPeriDistributionEnable d offset s).2.word =
    Function.update s.word (a7sCcuReg offset)
      (s.word (a7sCcuReg offset) ||| a7sPeriDistributionGates) := by
    simp only [a7sPeriDistributionEnable, bind_apply, pure_apply, readl_fst,
      writel_word, readl_word,
      d.view_plain hplain]
  refine Kept.update hword ?_
  rw [hfields]
  exact AgreeOff.or UInt32.and_self _

end Tree

section Init

variable {lock : ℕ → ℕ → Bool}

variable (lock) in
lemma a7sBusUseSys24_kept (s : Regs) : Kept s (a7sBusUseSys24 (a7sDevice lock) s).2 := by
  simp only [a7sBusUseSys24, bind_apply]
  exact ((((a7sBusSwitchToSys24_kept rfl rfl _).trans (a7sBusSwitchToSys24_kept rfl rfl _)).trans
    (a7sBusSwitchToSys24_kept rfl rfl _)).trans (a7sBusSwitchToSys24_kept rfl rfl _)).trans
    (Kept.of_eq (busCheck_word _ _))

/-- What the buses are after the switch to the nominal rates. -/
lemma a7sBusUseNominalRates_spec {s : Regs}
    (h : (a7sBusUseNominalRates (a7sDevice lock) s).1 = 0) :
    Kept s (a7sBusUseNominalRates (a7sDevice lock) s).2 ∧
    Field (a7sAhbApbSourceMask ||| a7sBusDivMask) (a7sAhbSourcePeri0600 ||| a7sAhbDiv3)
      ((a7sBusUseNominalRates (a7sDevice lock) s).2.word (a7sCcuReg ahbClkReg)) ∧
    Field (a7sAhbApbSourceMask ||| a7sBusDivMask) (a7sApbSourcePeri0600 ||| a7sApbDiv6)
      ((a7sBusUseNominalRates (a7sDevice lock) s).2.word (a7sCcuReg apb0ClkReg)) ∧
    Field (a7sAhbApbSourceMask ||| a7sBusDivMask) (a7sApbSourcePeri0600 ||| a7sApbDiv6)
      ((a7sBusUseNominalRates (a7sDevice lock) s).2.word (a7sCcuReg apb1ClkReg)) ∧
    Field (a7sUartSourceMask ||| a7sBusDivMask) (a7sUartSourcePeri0480 ||| a7sUartDiv20)
      ((a7sBusUseNominalRates (a7sDevice lock) s).2.word (a7sCcuReg apbUartClkReg)) := by
  simp only [a7sBusUseNominalRates, bind_apply] at h ⊢
  have hfields := busCheck_ok (fun b hb => by
    simp only [List.mem_cons, List.not_mem_nil, or_false] at hb
    obtain rfl | rfl | rfl | rfl := hb <;> rfl) h
  refine ⟨?_, ?_⟩
  · exact ((((a7sBusSwitchUp_kept rfl rfl rfl rfl _).trans
      (a7sBusSwitchUp_kept rfl rfl rfl rfl _)).trans (a7sBusSwitchUp_kept rfl rfl rfl rfl _)).trans
      (a7sBusSwitchUp_kept rfl rfl rfl rfl _)).trans (Kept.of_eq (busCheck_word _ _))
  · rw [busCheck_word]
    simp only [List.mem_cons, List.not_mem_nil, or_false, forall_eq_or_imp, forall_eq] at hfields
    exact hfields

/-! The crystal. -/

/-- What the status of the crystal is. -/
def dcxoStatus (w : UInt32) : UInt32 := w >>> 14 &&& 3

/-- Factor and output divider of the REF PLL for the status of the crystal. -/
def refFactors (status : UInt32) : UInt32 × UInt32 :=
  if status = 1 then (100, 80) else if status = 2 then (96, 104) else (100, 100)

lemma dcxoLoop_plain {d : Device} (hplain : d.live a7sRtcXoCtrl0 = 0) (n : ℕ) (s : Regs) :
    (dcxoLoop d (n + 1) s).1 = some (s.word a7sRtcXoCtrl0 &&& a7sRtcDcxoStatusMask) ∧
    (dcxoLoop d (n + 1) s).2.word = s.word := by
  rw [dcxoLoop]
  simp only [bind_apply, ite_apply', readl_fst, d.view_plain hplain, readl_word, and_self, if_true,
    pure_apply]

/-- A crystal that does not change is read as it is. -/
lemma a7sReadDcxoRate_plain {d : Device} (hplain : d.live a7sRtcXoCtrl0 = 0) (s : Regs) :
    (a7sReadDcxoRate d s).1 =
      (if dcxoStatus (s.word a7sRtcXoCtrl0) = 1 then 19200000
        else if dcxoStatus (s.word a7sRtcXoCtrl0) = 2 then 26000000 else 24000000) ∧
    (a7sReadDcxoRate d s).2.word = s.word := by
  obtain ⟨hfst, hsnd⟩ := dcxoLoop_plain hplain 7 s
  have hstatus : (s.word a7sRtcXoCtrl0 &&& a7sRtcDcxoStatusMask) >>> 14
      = dcxoStatus (s.word a7sRtcXoCtrl0) := and_shiftRight _ _ _
  simp only [a7sReadDcxoRate, bind_apply, hfst, ite_apply', hstatus, pure_apply]
  split_ifs <;> exact ⟨rfl, hsnd⟩

/-! The PLLs of the tree. -/

lemma refPll_sound (status : UInt32) :
    (refPll (refFactors status).1 (refFactors status).2).Sound := by
  rw [refFactors]
  split_ifs <;> exact ⟨by decide, by decide, by decide, by decide⟩

/-! Only the value of the REF PLL depends on the crystal. -/

lemma refPll_required (n div n' div' : UInt32) :
    (refPll n div).required = (refPll n' div').required := by
  simp only [A7sPllConfig.required, refPll]

lemma refPll_fields (n div n' div' : UInt32) : (refPll n div).fields = (refPll n' div').fields := by
  simp only [A7sPllConfig.fields, A7sPllConfig.required, refPll]

lemma periPll_sound : (periPll pllPeri0CtrlReg 100).Sound ∧ (periPll pllPeri1CtrlReg 100).Sound :=
  ⟨⟨by decide, by decide, by decide, by decide⟩, ⟨by decide, by decide, by decide, by decide⟩⟩

/-- What `a7s_ref_pll_init` did when it succeeds, with a crystal that does not change: the PLL
was found running, or it is programmed for the crystal. -/
lemma refPllInit_cases {d : Device} (hrtc : d.live a7sRtcXoCtrl0 = 0)
    (hlive : d.live (a7sCcuReg pllRefCtrlReg) = a7sPllLock) (hplain : d.live 0 = 0) {s : Regs}
    (hret : (a7sRefPllInit d s).1 = 0) :
    ((a7sPllIsRunning d (refPll 100 80) false s).1 = true ∧
      (a7sRefPllInit d s).2.word = s.word) ∨
    ((a7sPllIsRunning d (refPll 100 80) false s).1 = false ∧
      PllDone (refPll (refFactors (dcxoStatus (s.word a7sRtcXoCtrl0))).1
        (refFactors (dcxoStatus (s.word a7sRtcXoCtrl0))).2) s (a7sRefPllInit d s).2) := by
  rw [a7sRefPllInit, bind_apply, ite_apply'] at hret ⊢
  have hword : (a7sPllIsRunning d (refPll 100 80) false s).2.word = s.word :=
    a7sPllIsRunning_word _ _
  generalize a7sPllIsRunning d (refPll 100 80) false s = r at hret hword ⊢
  cases hrun : r.1 with
  | true =>
      rw [if_pos rfl]
      exact Or.inl ⟨rfl, hword⟩
  | false =>
      rw [hrun, if_neg Bool.false_ne_true] at hret
      rw [if_neg Bool.false_ne_true]
      obtain ⟨hrate, hsame⟩ := a7sReadDcxoRate_plain hrtc r.2
      simp only [bind_apply, hrate, hword, ite_apply'] at hret ⊢
      rw [hword] at hsame
      generalize (a7sReadDcxoRate d r.2).2 = t at hret hsame ⊢
      generalize dcxoStatus (s.word a7sRtcXoCtrl0) = status at hret ⊢
      have hsound := refPll_sound status
      refine Or.inr ⟨trivial, PllDone.of_word hsame ?_⟩
      -- each status has its rate, and each rate its factors
      by_cases h₁ : status = 1
      · simp only [h₁, refFactors, if_true] at hret hsound ⊢
        exact a7sPllProgram_spec hsound hlive hplain t hret
      · by_cases h₂ : status = 2
        · simp only [h₂, refFactors, if_true] at hret hsound ⊢
          exact a7sPllProgram_spec hsound hlive hplain t hret
        · simp only [h₁, h₂, refFactors, if_false] at hret hsound ⊢
          exact a7sPllProgram_spec hsound hlive hplain t hret

lemma a7sRefPllInit_cases {s : Regs} (hret : (a7sRefPllInit (a7sDevice lock) s).1 = 0) :
    ((a7sPllIsRunning (a7sDevice lock) (refPll 100 80) false s).1 = true ∧
      (a7sRefPllInit (a7sDevice lock) s).2.word = s.word) ∨
    ((a7sPllIsRunning (a7sDevice lock) (refPll 100 80) false s).1 = false ∧
      PllDone (refPll (refFactors (dcxoStatus (s.word a7sRtcXoCtrl0))).1
        (refFactors (dcxoStatus (s.word a7sRtcXoCtrl0))).2) s
          (a7sRefPllInit (a7sDevice lock) s).2) :=
  refPllInit_cases rfl rfl rfl hret

lemma a7sReadDcxoRate_writes (P : ℕ × UInt32 → Prop) (d : Device) :
    Io.Writes P (a7sReadDcxoRate d) := by
  have hloop : ∀ n, Io.Writes P (dcxoLoop d n) := by
    intro n
    induction n with
    | zero => exact .pure _
    | succ n ih =>
        exact .bind (.readl _ _) fun _ => .bind (.readl _ _) fun _ => .bind (.readl _ _) fun _ =>
          .ite (.pure _) ih
  refine .bind (hloop 8) fun status => ?_
  cases status with
  | none => exact .pure _
  | some first => exact .ite (.pure _) (.ite (.pure _) (.pure _))

lemma a7sRefPllInit_writes (d : Device) :
    Io.Writes (fun x => x.1 = a7sCcuReg pllRefCtrlReg) (a7sRefPllInit d) := by
  have hprogram : ∀ n div,
      Io.Writes (fun x => x.1 = a7sCcuReg pllRefCtrlReg) (a7sPllProgram d (refPll n div)) := by
    intro n div
    refine (a7sPllProgram_writes d (refPll n div)).mono ?_
    rintro x (hreg | ⟨-, hne⟩)
    · exact hreg
    · exact absurd rfl hne
  exact .bind (a7sPllIsRunning_writes _ _ _ _) fun _ => .ite (.pure _)
    (.bind (a7sReadDcxoRate_writes _ _) fun _ => .ite (hprogram _ _)
      (.ite (hprogram _ _) (.ite (hprogram _ _) (.pure _))))

lemma a7sRefPllInit_kept {s : Regs} (hret : (a7sRefPllInit (a7sDevice lock) s).1 = 0) :
    Kept s (a7sRefPllInit (a7sDevice lock) s).2 := by
  cases a7sRefPllInit_cases hret with
  | inl hrun => exact Kept.of_eq hrun.2
  | inr hdone =>
      have hfields : clockFields (a7sCcuReg pllRefCtrlReg) = (refPll 100 80).fields := if_pos rfl
      refine Kept.of_done hdone.2 (hfields.trans (refPll_fields 100 80 _ _))
        (fun hne => absurd rfl hne) ?_
      exact fun a ha => (a7sRefPllInit_writes _ s).word fun _ hreg => ha (Or.inl hreg)

/-- The REF PLL is on, however it came to be. -/
lemma a7sRefPllInit_required {s : Regs} (hret : (a7sRefPllInit (a7sDevice lock) s).1 = 0) :
    Field (refPll 100 80).required (refPll 100 80).required
      ((a7sRefPllInit (a7sDevice lock) s).2.word (a7sCcuReg pllRefCtrlReg)) := by
  cases a7sRefPllInit_cases hret with
  | inl hrun =>
      have hreq := (a7sPllIsRunning_true hrun.1).1
      have hlock : (refPll 100 80).required &&& a7sPllLock = 0 := by decide
      rw [hrun.2]
      exact ((a7sDevice lock).view_agreeOff s _).symm.field hlock hreq
  | inr hdone =>
      have hreq := hdone.2.required
      rw [refPll_required _ _ 100 80] at hreq
      exact hreq

/-- What a PLL looks like after a run that succeeds. -/
structure PllUp (pll : A7sPllConfig) (s : Regs) : Prop where
  required : Field pll.required pll.required (s.word pll.reg)
  config : Field pll.configMask pll.configValue (s.word pll.reg)
  pattern : pll.patternReg ≠ 0 → Field (a7sBit 31) 0 (s.word pll.patternReg)

lemma PllDone.up {pll : A7sPllConfig} {s s' : Regs} (h : PllDone pll s s') : PllUp pll s' :=
  ⟨h.required, h.config, h.pattern⟩

/-- The words of a PLL are all that matters. -/
lemma PllUp.of_word {pll : A7sPllConfig} {s s' : Regs} (h : PllUp pll s)
    (hword : ∀ a ∈ pll.regs, s'.word a = s.word a) : PllUp pll s' := by
  have hreg := hword pll.reg (Or.inl rfl)
  refine ⟨?_, ?_, fun hne => ?_⟩
  · rw [hreg]
    exact h.required
  · rw [hreg]
    exact h.config
  · rw [hword pll.patternReg (Or.inr ⟨rfl, hne⟩)]
    exact h.pattern hne

/-- What the registers are after a run that succeeds, against those before it. The REF PLL
is programmed for the crystal unless it was found running. -/
structure TreeUp (lock : ℕ → ℕ → Bool) (s s' : Regs) : Prop where
  kept : Kept s s'
  required : Field (refPll 100 80).required (refPll 100 80).required
    (s'.word (a7sCcuReg pllRefCtrlReg))
  ref : (a7sPllIsRunning (a7sDevice lock) (refPll 100 80) false
      (a7sBusUseSys24 (a7sDevice lock) s).2).1 = true ∧
      s'.word (a7sCcuReg pllRefCtrlReg) = s.word (a7sCcuReg pllRefCtrlReg) ∨
    (a7sPllIsRunning (a7sDevice lock) (refPll 100 80) false
      (a7sBusUseSys24 (a7sDevice lock) s).2).1 = false ∧
      PllUp (refPll (refFactors (dcxoStatus (s.word a7sRtcXoCtrl0))).1
        (refFactors (dcxoStatus (s.word a7sRtcXoCtrl0))).2) s'
  peri0 : PllUp (periPll pllPeri0CtrlReg 100) s'
  peri1 : PllUp (periPll pllPeri1CtrlReg 100) s'
  ahb : Field (a7sAhbApbSourceMask ||| a7sBusDivMask) (a7sAhbSourcePeri0600 ||| a7sAhbDiv3)
    (s'.word (a7sCcuReg ahbClkReg))
  apb0 : Field (a7sAhbApbSourceMask ||| a7sBusDivMask) (a7sApbSourcePeri0600 ||| a7sApbDiv6)
    (s'.word (a7sCcuReg apb0ClkReg))
  apb1 : Field (a7sAhbApbSourceMask ||| a7sBusDivMask) (a7sApbSourcePeri0600 ||| a7sApbDiv6)
    (s'.word (a7sCcuReg apb1ClkReg))
  uart : Field (a7sUartSourceMask ||| a7sBusDivMask) (a7sUartSourcePeri0480 ||| a7sUartDiv20)
    (s'.word (a7sCcuReg apbUartClkReg))

/-- The stages of a run that succeeds. -/
lemma a7sClockInit_ok {d : Device} {s : Regs} (h : (a7sClockInit d s).1 = a7sClockOk) :
    ∃ s₁ s₂ s₃ s₄ s₅ s₆ s₇, a7sBusUseSys24 d s = (0, s₁) ∧ a7sRefPllInit d s₁ = (0, s₂) ∧
      a7sPeriPllInit d pllPeri0CtrlReg 100 s₂ = (0, s₃) ∧
      a7sPeriPllInit d pllPeri1CtrlReg 100 s₃ = (0, s₄) ∧
      a7sPeriDistributionEnable d peri0pllGateEnReg s₄ = (0, s₅) ∧
      a7sPeriDistributionEnable d peri1pllGateEnReg s₅ = (0, s₆) ∧
      a7sBusUseNominalRates d s₆ = (0, s₇) ∧ (a7sClockInit d s).2 = s₇ := by
  have herr : ∀ e ≠ 0, ∀ s : Regs, ((pure e : Io ℤ) s).1 ≠ 0 := fun _ he _ => he
  have hfall : ∀ e ≠ 0, ∀ s, (clockFallBack d e s).1 ≠ 0 := by
    intro e he s
    rw [clockFallBack, bind_apply, pure_apply]
    exact he
  rw [a7sClockInit] at h ⊢
  obtain ⟨s₁, h₁, hk₁⟩ := bind_guard_eq_zero (herr _ (by decide)) h
  rw [hk₁] at h ⊢
  obtain ⟨s₂, h₂, hk₂⟩ := bind_guard_eq_zero (herr _ (by decide)) h
  rw [hk₂] at h ⊢
  obtain ⟨s₃, h₃, hk₃⟩ := bind_guard_eq_zero (herr _ (by decide)) h
  rw [hk₃] at h ⊢
  obtain ⟨s₄, h₄, hk₄⟩ := bind_guard_eq_zero (hfall _ (by decide)) h
  rw [hk₄] at h ⊢
  obtain ⟨s₅, h₅, hk₅⟩ := bind_guard_eq_zero (hfall _ (by decide)) h
  rw [hk₅] at h ⊢
  obtain ⟨s₆, h₆, hk₆⟩ := bind_guard_eq_zero (hfall _ (by decide)) h
  rw [hk₆] at h ⊢
  obtain ⟨s₇, h₇, hk₇⟩ := bind_guard_eq_zero (hfall _ (by decide)) h
  rw [hk₇]
  exact ⟨s₁, s₂, s₃, s₄, s₅, s₆, s₇, h₁, h₂, h₃, h₄, h₅, h₆, h₇, rfl⟩

/-- **The tree that was programmed.** Whatever the registers held and however the lock bits
behaved. -/
lemma a7sClockInit_spec {s : Regs} (h : (a7sClockInit (a7sDevice lock) s).1 = a7sClockOk) :
    TreeUp lock s (a7sClockInit (a7sDevice lock) s).2 := by
  obtain ⟨s₁, s₂, s₃, s₄, s₅, s₆, s₇, h₁, h₂, h₃, h₄, h₅, h₆, h₇, hs⟩ := a7sClockInit_ok h
  rw [hs]
  rw [a7sPeriPllInit] at h₃ h₄
  -- what each stage writes
  have hw₁ := (a7sBusUseSys24_writes _).within.word h₁
  have hw₃ := (a7sPllProgram_within _ _).word h₃
  have hw₄ := (a7sPllProgram_within _ _).word h₄
  have hw₅ := (a7sPeriDistributionEnable_within (A := busRegs) (by decide)).word h₅
  have hw₆ := (a7sPeriDistributionEnable_within (A := busRegs) (by decide)).word h₆
  have hw₇ := (a7sBusUseNominalRates_writes _).within.word h₇
  have hlast : ∀ a ∉ busRegs, s₇.word a = s₄.word a := fun a ha =>
    (hw₇ a ha).trans ((hw₆ a ha).trans (hw₅ a ha))
  have hlate : s₇.word (a7sCcuReg pllRefCtrlReg) = s₂.word (a7sCcuReg pllRefCtrlReg) := by
    rw [hlast _ (by decide), hw₄ _ (by decide), hw₃ _ (by decide)]
  have hrtc : s₁.word a7sRtcXoCtrl0 = s.word a7sRtcXoCtrl0 := hw₁ _ (by decide)
  have hfirst : s₁.word (a7sCcuReg pllRefCtrlReg) = s.word (a7sCcuReg pllRefCtrlReg) :=
    hw₁ _ (by decide)
  -- what each stage does
  have hk₁ := a7sBusUseSys24_kept lock s
  have hok₂ : (a7sRefPllInit (a7sDevice lock) s₁).1 = 0 := by rw [h₂]
  have href := a7sRefPllInit_cases hok₂
  have hk₂ := a7sRefPllInit_kept hok₂
  have hreq := a7sRefPllInit_required hok₂
  have hdone₀ := a7sPllProgram_spec (d := a7sDevice lock) periPll_sound.1 rfl rfl s₂ (by rw [h₃])
  have hdone₁ := a7sPllProgram_spec (d := a7sDevice lock) periPll_sound.2 rfl rfl s₃ (by rw [h₄])
  have hk₅ := a7sPeriDistributionEnable_kept (d := a7sDevice lock) peri0pllGateEnReg rfl rfl s₄
  have hk₆ := a7sPeriDistributionEnable_kept (d := a7sDevice lock) peri1pllGateEnReg rfl rfl s₅
  have hbus := a7sBusUseNominalRates_spec
    (show (a7sBusUseNominalRates (a7sDevice lock) s₆).1 = 0 by rw [h₇])
  rw [h₁] at hk₁
  rw [h₂, hrtc] at href
  rw [h₂] at hk₂ hreq
  rw [h₃] at hdone₀
  rw [h₄] at hdone₁
  rw [h₅] at hk₅
  rw [h₆] at hk₆
  rw [h₇] at hbus
  obtain ⟨hk₇, hahb, hapb0, hapb1, huart⟩ := hbus
  have hk₃ : Kept s₂ s₃ := Kept.of_done hdone₀ rfl (fun _ => rfl) hw₃
  have hk₄ : Kept s₃ s₄ := Kept.of_done hdone₁ rfl (fun _ => rfl) hw₄
  refine ⟨hk₁.trans (hk₂.trans (hk₃.trans (hk₄.trans (hk₅.trans (hk₆.trans hk₇))))), ?_, ?_, ?_, ?_,
    hahb, hapb0, hapb1, huart⟩
  · rw [hlate]
    exact hreq
  · rw [h₁]
    cases href with
    | inl hrun =>
        refine Or.inl ⟨hrun.1, ?_⟩
        rw [hlate, hrun.2, hfirst]
    | inr hdone =>
        refine Or.inr ⟨hdone.1, hdone.2.up.of_word ?_⟩
        rintro a (rfl | ⟨rfl, hne⟩)
        · exact hlate
        · exact absurd rfl hne
  · refine hdone₀.up.of_word ?_
    rintro a (rfl | ⟨rfl, -⟩) <;> rw [hlast _ (by decide), hw₄ _ (by decide)]
  · refine hdone₁.up.of_word ?_
    rintro a (rfl | ⟨rfl, -⟩) <;> exact hlast _ (by decide)

/-! ### A second run -/

/-- The lock is stable if it always reads as set. -/
lemma a7sPllWaitStable_locked {d : Device} {reg : ℕ}
    (hlocked : ∀ s, d.view s reg &&& a7sPllLock ≠ 0) (s : Regs) :
    (a7sPllWaitStable d reg s).1 = true := by
  have hstep : ∀ n stable s, stable + 1 ≠ a7sPllLockStableReads →
      waitStableLoop d reg (n + 1) stable s =
        waitStableLoop d reg n (stable + 1) (readl d reg s).2 := by
    intro n stable s hne
    rw [waitStableLoop, bind_apply, ite_apply', ite_apply', readl_fst,
      if_pos (hlocked s), if_neg hne]
  rw [a7sPllWaitStable, a7sPllLockTimeoutUs, hstep 999 0 s (by decide), hstep 998 1 _ (by decide),
    waitStableLoop, bind_apply, ite_apply', ite_apply', readl_fst, if_pos (hlocked _),
    if_pos (show 1 + 1 + 1 = a7sPllLockStableReads from rfl), pure_apply]

/-- A PLL that is up and locked is found running. -/
lemma a7sPllIsRunning_up {d : Device} {pll : A7sPllConfig} {check : Bool} {s : Regs}
    (hlocked : ∀ s, d.view s pll.reg &&& a7sPllLock ≠ 0)
    (hreq : Field pll.required pll.required (d.view s pll.reg))
    (hconf : check = true → Field pll.configMask pll.configValue (d.view s pll.reg))
    (hpat : pll.patternReg ≠ 0 →
      Field (a7sBit 31) 0 (d.view (readl d pll.reg s).2 pll.patternReg)) :
    (a7sPllIsRunning d pll check s).1 = true := by
  rw [Field] at hreq
  have hconf' : ¬(check = true ∧ d.view s pll.reg &&& pll.configMask ≠ pll.configValue) :=
    fun h => h.2 (hconf h.1)
  rw [a7sPllIsRunning, bind_apply, ite_apply', ite_apply', ite_apply', readl_fst,
    if_neg (not_not.mpr hreq), if_neg hconf']
  split
  case isTrue hne =>
      have hclear := hpat hne
      rw [Field] at hclear
      rw [bind_apply, ite_apply', readl_fst, if_neg (not_not.mpr hclear)]
      exact a7sPllWaitStable_locked hlocked _
  case isFalse => exact a7sPllWaitStable_locked hlocked _

/-- The lock bits always read as set. -/
lemma a7sDevice_locked (hlock : ∀ n a, lock n a = true) {reg : ℕ}
    (hlive : (a7sDevice lock).live reg = a7sPllLock) (s : Regs) :
    (a7sDevice lock).view s reg &&& a7sPllLock ≠ 0 := by
  have hsense : (a7sDevice lock).sense s.reads reg = a7sPllLock := if_pos (hlock _ _)
  have hset : Field a7sPllLock a7sPllLock ((a7sDevice lock).view s reg) := by
    rw [Device.view, hlive, hsense, UInt32.and_self]
    exact Field.or_self _ UInt32.and_self
  rw [Field] at hset
  rw [hset]
  decide

/-- Programming a PLL that is up and locked writes nothing. -/
lemma a7sPllProgram_up (hlock : ∀ n a, lock n a = true) {pll : A7sPllConfig} (hs : pll.Sound)
    (hlive : (a7sDevice lock).live pll.reg = a7sPllLock)
    (hplain : (a7sDevice lock).live pll.patternReg = 0) {s : Regs} (hup : PllUp pll s) :
    (a7sPllProgram (a7sDevice lock) pll s).2.word = s.word := by
  have hrun : (a7sPllIsRunning (a7sDevice lock) pll true
      (readl (a7sDevice lock) pll.reg s).2).1 = true := by
    refine a7sPllIsRunning_up (a7sDevice_locked hlock hlive) ?_ (fun _ => ?_) fun hne => ?_
    · refine (a7sDevice lock).view_field hup.required ?_
      rw [hlive, hs.lock]
    · refine (a7sDevice lock).view_field hup.config ?_
      rw [hlive, hs.mask_lock]
    · rw [Device.view_plain _ hplain]
      exact hup.pattern hne
  rw [a7sPllProgram, bind_apply, bind_apply, ite_apply', if_pos hrun, pure_apply,
    a7sPllIsRunning_word,
    readl_word]

lemma a7sRefPllInit_up (hlock : ∀ n a, lock n a = true) {s : Regs}
    (hreq : Field (refPll 100 80).required (refPll 100 80).required
      (s.word (a7sCcuReg pllRefCtrlReg))) :
    (a7sRefPllInit (a7sDevice lock) s).2.word = s.word := by
  have hmask : (refPll 100 80).required &&& a7sPllLock = 0 := by decide
  have hrun : (a7sPllIsRunning (a7sDevice lock) (refPll 100 80) false s).1 = true :=
    a7sPllIsRunning_up (a7sDevice_locked hlock rfl) ((a7sDevice lock).view_field hreq hmask)
      (fun h => Bool.noConfusion h) fun hne => absurd rfl hne
  rw [a7sRefPllInit, bind_apply, ite_apply', if_pos hrun, pure_apply, a7sPllIsRunning_word]

/-- **A second run.** On a tree that is up and locked it writes no register but those of the
buses and their gates. -/
lemma a7sClockInit_again (hlock : ∀ n a, lock n a = true) {s : Regs}
    (hreq : Field (refPll 100 80).required (refPll 100 80).required
      (s.word (a7sCcuReg pllRefCtrlReg)))
    (h₀ : PllUp (periPll pllPeri0CtrlReg 100) s) (h₁ : PllUp (periPll pllPeri1CtrlReg 100) s) :
    ∀ a ∉ busRegs, (a7sClockInit (a7sDevice lock) s).2.word a = s.word a := by
  have hbus : ∀ {α : Type} {m : Io α}, Io.Within busRegs m →
      Io.Keeps (fun w => ∀ a ∉ busRegs, w a = s.word a) m := fun hm =>
    Io.Keeps.of_within hm fun w w' hw hP a ha => (hw a ha).trans (hP a ha)
  have hperi : ∀ offset, (periPll offset 100).Sound →
      (a7sDevice lock).live (periPll offset 100).reg = a7sPllLock →
      (a7sDevice lock).live (periPll offset 100).patternReg = 0 →
      (∀ a ∈ (periPll offset 100).regs, a ∉ busRegs) → PllUp (periPll offset 100) s →
      Io.Keeps (fun w => ∀ a ∉ busRegs, w a = s.word a)
        (a7sPeriPllInit (a7sDevice lock) offset 100) := by
    intro offset hs hlive hplain hregs hup t ht
    have hup' : PllUp (periPll offset 100) t := hup.of_word fun a ha => ht a (hregs a ha)
    rw [a7sPeriPllInit, a7sPllProgram_up hlock hs hlive hplain hup']
    exact ht
  have href : Io.Keeps (fun w => ∀ a ∉ busRegs, w a = s.word a)
    (a7sRefPllInit (a7sDevice lock)) := by
    intro t ht
    have hreq' := hreq
    rw [← ht (a7sCcuReg pllRefCtrlReg) (by decide)] at hreq'
    rw [a7sRefPllInit_up hlock hreq']
    exact ht
  have hgate : ∀ offset, a7sCcuReg offset ∈ busRegs →
      Io.Keeps (fun w => ∀ a ∉ busRegs, w a = s.word a)
        (a7sPeriDistributionEnable (a7sDevice lock) offset) := fun offset h =>
    hbus (a7sPeriDistributionEnable_within h)
  have hperi₀ := hperi pllPeri0CtrlReg periPll_sound.1 rfl rfl
    (by rintro a (rfl | ⟨rfl, -⟩) <;> decide) h₀
  have hperi₁ := hperi pllPeri1CtrlReg periPll_sound.2 rfl rfl
    (by rintro a (rfl | ⟨rfl, -⟩) <;> decide) h₁
  have hall : Io.Keeps (fun w => ∀ a ∉ busRegs, w a = s.word a) (a7sClockInit (a7sDevice lock)) :=
    .bind (hbus (a7sBusUseSys24_writes _).within) fun _ => .ite (.pure _) <|
    .bind href fun _ => .ite (.pure _) <|
    .bind hperi₀ fun _ => .ite (.pure _) <|
    .bind hperi₁ fun _ => .ite (hbus (clockFallBack_writes _ _).within) <|
    .bind (hgate _ (by decide)) fun _ => .ite (hbus (clockFallBack_writes _ _).within) <|
    .bind (hgate _ (by decide)) fun _ => .ite (hbus (clockFallBack_writes _ _).within) <|
    .bind (hbus (a7sBusUseNominalRates_writes _).within) fun _ =>
      .ite (hbus (clockFallBack_writes _ _).within) (.pure _)
  exact hall s fun _ _ => rfl

end Init

end A733Boot.Boot
