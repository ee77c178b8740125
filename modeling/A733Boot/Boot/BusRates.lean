/-
The buses while `a7s_clock_init` switches them: from the first write to its register on, no bus
is faster than its limit, in any state between two writes.

* `a7sGateDevice`: the lock bits of the PLLs and the distribution registers read as they like;
* `WithinLimits`: the rates that `src/clock_diag_a733.c` decodes for the buses that were
  written, with the registers of the PLLs as they are at that moment;
* `BusOk`: a bus is on the crystal, or on a PERI0 PLL at its rate with its divider in place;
  `BusOk.withinLimits` turns this into rates;
* `a7sBusSwitchUp_settled`: the divider is written before the source;
* `GatesUp.peri0Nominal`: the PERI0 PLL has its rate when the buses are switched up;
* `a7sClockInit_limited` (**no bus is over-driven**): every run, errors included.
-/
import A733Boot.Boot.ClockFailure
import A733Boot.Boot.ExactRates

namespace A733Boot.Boot

/-! ### Rates and limits -/

/-- The registers as the driver finds them, with distribution registers that need not read as
they were written. -/
def a7sGateDevice (lock : ℕ → ℕ → Bool) (gates : ℕ → ℕ → UInt32) : Device where
  live a :=
    if a = a7sCcuReg peri0pllGateEnReg ∨ a = a7sCcuReg peri1pllGateEnReg then ~~~0
    else (a7sDevice lock).live a
  sense n a :=
    if a = a7sCcuReg peri0pllGateEnReg ∨ a = a7sCcuReg peri1pllGateEnReg then gates n a
    else (a7sDevice lock).sense n a

section Rates

variable (w : ℕ → UInt32)

/-- The rate of the crystal. -/
def dcxoOf : UInt32 := a7sDcxoRate (w a7sRtcXoCtrl0)

def peri0InputOf : UInt32 :=
  a7sMainPllInput (w (a7sCcuReg pllPeri0CtrlReg)) (dcxoOf w)
    (a7sRefPllRate (w (a7sCcuReg pllRefCtrlReg)) (dcxoOf w))

def peri02xOf : UInt32 := a7sMainPllOutput (w (a7sCcuReg pllPeri0CtrlReg)) (peri0InputOf w) 20 7 27

def peri0480Of : UInt32 := a7sMainPllOutput (w (a7sCcuReg pllPeri0CtrlReg)) (peri0InputOf w) 2 7 25

def standardRateOf (offset : ℕ) : UInt32 :=
  a7sStandardBusRate (w (a7sCcuReg offset)) (dcxoOf w) (peri02xOf w)

def uartRateOf : UInt32 :=
  a7sUartRate (w (a7sCcuReg apbUartClkReg)) (dcxoOf w) (peri02xOf w) (peri0480Of w)

end Rates

/-- After the writes `ws`, the buses among them are within their limits. -/
structure WithinLimits (ws : List (ℕ × UInt32)) (w : ℕ → UInt32) : Prop where
  ahb : a7sCcuReg ahbClkReg ∈ ws.map Prod.fst → standardRateOf w ahbClkReg ≤ 200000
  apb0 : a7sCcuReg apb0ClkReg ∈ ws.map Prod.fst → standardRateOf w apb0ClkReg ≤ 100000
  apb1 : a7sCcuReg apb1ClkReg ∈ ws.map Prod.fst → standardRateOf w apb1ClkReg ≤ 100000
  uart : a7sCcuReg apbUartClkReg ∈ ws.map Prod.fst → uartRateOf w ≤ 26000

/-- From `s` to `s'` no bus was over its limit once it was written. -/
structure Limited (s s' : Regs) : Prop where
  within : ∀ ws, s.writes ++ ws <+: s'.writes → WithinLimits ws (replay s.word ws)
  /-- The words at the end are those of the log. -/
  log : ∃ ws, s'.writes = s.writes ++ ws ∧ s'.word = replay s.word ws

/-- The buses with the fields of their sources, and what the driver switches them up to. -/
def nominalClocks : List (ℕ × UInt32 × UInt32) :=
  [(ahbClkReg, a7sAhbApbSourceMask, a7sAhbSourcePeri0600 ||| a7sAhbDiv3),
    (apb0ClkReg, a7sAhbApbSourceMask, a7sApbSourcePeri0600 ||| a7sApbDiv6),
    (apb1ClkReg, a7sAhbApbSourceMask, a7sApbSourcePeri0600 ||| a7sApbDiv6),
    (apbUartClkReg, a7sUartSourceMask, a7sUartSourcePeri0480 ||| a7sUartDiv20)]

def Peri0Nominal (w : ℕ → UInt32) : Prop := peri02xOf w = 1200000 ∧ peri0480Of w = 480000

/-- The bus is on the crystal, or on the PERI0 PLL with both fields in place. -/
def BusOk (c : ℕ × UInt32 × UInt32) (w : ℕ → UInt32) : Prop :=
  w (a7sCcuReg c.1) &&& c.2.1 = 0 ∨
    Peri0Nominal w ∧ Field (c.2.1 ||| a7sBusDivMask) c.2.2 (w (a7sCcuReg c.1))

section Limits

lemma a7sDivRate_le (parent divisor : UInt32) : a7sDivRate parent divisor ≤ parent := by
  rw [a7sDivRate_eq, UInt32.le_iff_toNat_le, UInt32.toNat_div]
  exact Nat.div_le_self _ _

lemma a7sDcxoRate_le (v : UInt32) : a7sDcxoRate v ≤ 26000 := by
  rw [a7sDcxoRate]
  split_ifs <;> decide

variable {v dcxo peri02x peri0480 : UInt32}

/-- On the crystal a bus is at most as fast as the crystal. -/
lemma standardRate_sys24 (h : v &&& a7sAhbApbSourceMask = 0) :
    a7sStandardBusRate v dcxo peri02x ≤ dcxo := by
  have hsource : v >>> 24 &&& 3 = 0 := by
    rw [shiftRight_and_of_mask (show a7sAhbApbSourceMask >>> 24 &&& 3 = 3 by decide), h]
    decide
  rw [a7sStandardBusRate, hsource]
  exact a7sDivRate_le _ _

lemma uartRate_sys24 (h : v &&& a7sUartSourceMask = 0) :
    a7sUartRate v dcxo peri02x peri0480 ≤ dcxo := by
  have hsource : v >>> 24 &&& 7 = 0 := by
    rw [shiftRight_and_of_mask (show a7sUartSourceMask >>> 24 &&& 7 = 7 by decide), h]
    decide
  rw [a7sUartRate, hsource]
  exact a7sDivRate_le _ _

/-- A bus on the crystal or at its nominal rate is within a limit that both are. -/
lemma standardRate_le {w : ℕ → UInt32} {offset : ℕ} {nominal limit : UInt32}
    (h : BusOk (offset, a7sAhbApbSourceMask, nominal) w)
    (hrate : nominal >>> 24 &&& 3 = 3 ∧ busDivide nominal 600000 = limit)
    (hlimit : 26000 ≤ limit) : standardRateOf w offset ≤ limit := by
  rw [standardRateOf]
  obtain hclear | ⟨hperi, hfield⟩ := h
  · exact UInt32.le_trans (standardRate_sys24 hclear)
      (UInt32.le_trans (a7sDcxoRate_le _) hlimit)
  · have hword : Field (a7sAhbApbSourceMask ||| a7sBusDivMask) nominal (w (a7sCcuReg offset)) :=
      hfield
    rw [hperi.1, a7sStandardBusRate_of_field hword (by decide) (by decide),
      standard_rate _ hrate]
    exact UInt32.le_refl _

lemma uartRate_le {w : ℕ → UInt32}
    (h : BusOk (apbUartClkReg, a7sUartSourceMask, a7sUartSourcePeri0480 ||| a7sUartDiv20) w) :
    uartRateOf w ≤ 26000 := by
  rw [uartRateOf]
  obtain hclear | ⟨hperi, hfield⟩ := h
  · exact UInt32.le_trans (uartRate_sys24 hclear) (a7sDcxoRate_le _)
  · have hrate : a7sUartRate (a7sUartSourcePeri0480 ||| a7sUartDiv20) (dcxoOf w) (peri02xOf w)
        480000 = 24000 := uart_rate _ _ (by decide)
    rw [hperi.2, a7sUartRate_of_field hfield (by decide) (by decide), hrate]
    decide

lemma BusOk.withinLimits {ws : List (ℕ × UInt32)} {w : ℕ → UInt32}
    (h : ∀ c ∈ nominalClocks, a7sCcuReg c.1 ∈ ws.map Prod.fst → BusOk c w) :
    WithinLimits ws w := by
  simp only [nominalClocks, List.forall_mem_cons] at h
  obtain ⟨hahb, hapb0, hapb1, huart, -⟩ := h
  exact ⟨fun hmem => standardRate_le (hahb hmem) (by decide) (by decide),
    fun hmem => standardRate_le (hapb0 hmem) (by decide) (by decide),
    fun hmem => standardRate_le (hapb1 hmem) (by decide) (by decide),
    fun hmem => uartRate_le (huart hmem)⟩

end Limits

/-! ### On the crystal -/

lemma nominalClocks_bus {c : ℕ × UInt32 × UInt32} (hc : c ∈ nominalClocks) :
    (c.1, c.2.1) ∈ busClocks := by
  simp only [nominalClocks, List.mem_cons, List.not_mem_nil, or_false] at hc
  obtain rfl | rfl | rfl | rfl := hc <;> simp [busClocks]

section Crystal

variable {s s' : Regs}

/-- Writes that leave the buses on the crystal leave them within their limits. -/
lemma withinLimits_of_sourceClear {ws : List (ℕ × UInt32)} (h : ∀ x ∈ ws, SourceClear x)
    (w : ℕ → UInt32) : WithinLimits ws (replay w ws) := by
  refine BusOk.withinLimits fun c hc hmem => Or.inl ?_
  exact replay_of_written (Q := fun v => v &&& c.2.1 = 0)
    (fun x hx => h x hx _ (nominalClocks_bus hc)) hmem

lemma Limited.of_sourceClear (h : Logged SourceClear s s') : Limited s s' := by
  constructor
  · intro ws hws
    refine withinLimits_of_sourceClear ?_ s.word
    obtain hclear | ⟨x, ws', hlater⟩ := h.cut List.prefix_rfl hws
    · exact hclear
    · -- nothing is written after the end
      have hlen := hws.length_le
      rw [hlater, List.length_append, List.length_cons] at hlen
      omega
  · obtain ⟨-, ws, hlog, hword, -⟩ := h
    exact ⟨ws, hlog, hword⟩

end Crystal

/-! ### The switch to the nominal rates -/

/-- The write leaves a bus on the crystal or with both nominal fields, and no other register
is written. -/
def Settled (x : ℕ × UInt32) : Prop :=
  x.1 ∈ busRegs ∧ ∀ c ∈ nominalClocks, x.1 = a7sCcuReg c.1 →
    x.2 &&& c.2.1 = 0 ∨ Field (c.2.1 ||| a7sBusDivMask) c.2.2 x.2

/-- The buses of the list have the crystal as their source. -/
def SourcesClear (l : List (ℕ × UInt32 × UInt32)) (s : Regs) : Prop :=
  ∀ c ∈ l, s.word (a7sCcuReg c.1) &&& c.2.1 = 0

lemma nominalClocks_inj {b c : ℕ × UInt32 × UInt32} (hb : b ∈ nominalClocks)
    (hc : c ∈ nominalClocks) (h : a7sCcuReg b.1 = a7sCcuReg c.1) : b = c := by
  have hall : ∀ b ∈ nominalClocks, ∀ c ∈ nominalClocks, a7sCcuReg b.1 = a7sCcuReg c.1 → b = c := by
    decide
  exact hall b hb c hc h

lemma settled_of {c : ℕ × UInt32 × UInt32} (hc : c ∈ nominalClocks) {v : UInt32}
    (hv : v &&& c.2.1 = 0 ∨ Field (c.2.1 ||| a7sBusDivMask) c.2.2 v) :
    Settled (a7sCcuReg c.1, v) := by
  constructor
  · have hall : ∀ c ∈ nominalClocks, a7sCcuReg c.1 ∈ busRegs := by decide
    exact hall c hc
  · intro b hb heq
    rw [← nominalClocks_inj hc hb heq]
    exact hv

section SwitchUp

variable {d : Device}

/-- The divider goes in while the bus is still on the crystal, the source after it. -/
lemma a7sBusSwitchUp_settled {offset : ℕ} {mask source divider : UInt32}
    (hplain : d.live (a7sCcuReg offset) = 0)
    (hc : (offset, mask, source ||| divider) ∈ nominalClocks) (hsource : source &&& mask = source)
    (hdivider : divider &&& a7sBusDivMask = divider) (hapart : mask &&& a7sBusDivMask = 0)
    {l : List (ℕ × UInt32 × UInt32)} (hl : ∀ c ∈ l, a7sCcuReg c.1 ≠ a7sCcuReg offset) (u : Regs) :
    Triple
      (fun t => Logged Settled u t ∧ SourcesClear ((offset, mask, source ||| divider) :: l) t)
      (a7sBusSwitchUp d offset mask source divider)
      fun _ t => Logged Settled u t ∧ SourcesClear l t := by
  rintro t ⟨hlog, hclear⟩
  have hword : Field mask 0 (t.word (a7sCcuReg offset)) := hclear _ List.mem_cons_self
  have hdivider' : divider &&& mask = 0 := by
    rw [← hdivider, UInt32.and_assoc, UInt32.and_comm a7sBusDivMask, hapart, UInt32.and_zero]
  have hsource' : source &&& a7sBusDivMask = 0 := by
    rw [← hsource, UInt32.and_assoc, hapart, UInt32.and_zero]
  have hfirst : Field mask 0 (t.word (a7sCcuReg offset) &&& ~~~a7sBusDivMask ||| divider) :=
    (hword.clear_and _).or hdivider'
  have hsecond : Field (mask ||| a7sBusDivMask) (source ||| divider)
      ((t.word (a7sCcuReg offset) &&& ~~~a7sBusDivMask ||| divider) &&& ~~~mask ||| source) :=
    (Field.set _ hsource).union (((Field.set _ hdivider).and_not hapart).or hsource')
  constructor
  · refine hlog.trans ?_
    simp only [a7sBusSwitchUp, bind_apply, readl_fst, d.view_plain hplain, readl_word,
      writel_word, Function.update_self]
    exact ((Io.Writes.readl d _ t).trans
      (Io.Writes.writel (settled_of hc (.inl hfirst)) _)).trans
      ((Io.Writes.readl d _ _).trans (Io.Writes.writel (settled_of hc (.inr hsecond)) _))
  · intro c hc'
    rw [a7sBusSwitchUp_word hplain, Function.update_of_ne (hl c hc')]
    exact hclear c (List.mem_cons_of_mem _ hc')

lemma a7sBusUseNominalRates_settled (hd : ClockDevice d) (u : Regs) :
    Triple (fun t => Logged Settled u t ∧ SourcesClear nominalClocks t)
      (a7sBusUseNominalRates d) fun _ t => Logged Settled u t := by
  have hplain := hd.buses
  simp only [busClocks, List.forall_mem_cons] at hplain
  obtain ⟨hahb, hapb0, hapb1, huart, -⟩ := hplain
  refine (a7sBusSwitchUp_settled hahb (by decide) (by decide) (by decide) (by decide)
    (by decide) u).bind fun _ => ?_
  refine (a7sBusSwitchUp_settled hapb0 (by decide) (by decide) (by decide) (by decide)
    (by decide) u).bind fun _ => ?_
  refine (a7sBusSwitchUp_settled hapb1 (by decide) (by decide) (by decide) (by decide)
    (by decide) u).bind fun _ => ?_
  refine (a7sBusSwitchUp_settled huart (by decide) (by decide) (by decide) (by decide)
    (by decide) u).bind fun _ => ?_
  exact fun t h => h.1.trans (busCheck_writes _ _ t)

/-- The way back to the crystal settles the buses too. -/
lemma clockFallBack_settled (hd : ClockDevice d) (error : ℤ) (t : Regs) :
    Logged Settled t (clockFallBack d error t).2 := by
  have hsettled : ∀ x : ℕ × UInt32, x.1 ∈ busRegs ∧ SourceClear x → Settled x := by
    rintro x ⟨hreg, hclear⟩
    exact ⟨hreg, fun c hc heq => Or.inl (hclear _ (nominalClocks_bus hc) heq)⟩
  have hboth := (a7sBusUseSys24_writes d t).and (a7sBusUseSys24_safe hd t).logged
  simp only [clockFallBack, bind_apply, pure_apply]
  exact hboth.mono hsettled

end SwitchUp

/-- Settled writes, from a state with the PERI0 PLL at its rate and the buses on the crystal. -/
lemma withinLimits_of_settled {u : Regs} (hperi : Peri0Nominal u.word)
    (hclear : SourcesClear nominalClocks u) {ws : List (ℕ × UInt32)} (h : ∀ x ∈ ws, Settled x)
    (ws' : List (ℕ × UInt32)) : WithinLimits ws' (replay u.word ws) := by
  -- the PLLs are not written
  have hkept : ∀ a ∉ busRegs, replay u.word ws a = u.word a := by
    intro a ha
    refine replay_of_not_mem fun hmem => ha ?_
    obtain ⟨x, hx, rfl⟩ := List.mem_map.mp hmem
    exact (h x hx).1
  have hperi' : Peri0Nominal (replay u.word ws) := by
    rw [Peri0Nominal, peri02xOf, peri0480Of, peri0InputOf, dcxoOf, hkept _ (by decide),
      hkept _ (by decide), hkept _ (by decide)]
    exact hperi
  refine BusOk.withinLimits fun c hc _ => ?_
  by_cases hmem : a7sCcuReg c.1 ∈ ws.map Prod.fst
  · have hsettled := replay_of_written (w := u.word)
      (Q := fun v => v &&& c.2.1 = 0 ∨ Field (c.2.1 ||| a7sBusDivMask) c.2.2 v)
      (fun x hx => (h x hx).2 c hc) hmem
    exact hsettled.imp id fun hfield => ⟨hperi', hfield⟩
  · refine Or.inl ?_
    rw [replay_of_not_mem hmem]
    exact hclear c hc

/-- A run that left the buses on the crystal up to `u`, and settled them from there on. -/
lemma Limited.of_settled {s u s' : Regs} (hbefore : Logged SourceClear s u)
    (hperi : Peri0Nominal u.word) (hclear : SourcesClear nominalClocks u)
    (hafter : Logged Settled u s') : Limited s s' := by
  constructor
  · intro ws hws
    obtain hsys24 | ⟨x, ws', hlater⟩ := hbefore.cut hafter.writes hws
    · exact withinLimits_of_sourceClear hsys24 s.word
    · obtain ⟨-, ws₁, hlog, hword, -⟩ := hbefore
      obtain ⟨-, ws₂, hlog', -, hsettled⟩ := hafter
      rw [hlater, hlog', List.prefix_append_right_inj] at hws
      rw [hlog, List.append_assoc] at hlater
      rw [List.append_cancel_left hlater, replay_append, ← hword]
      exact withinLimits_of_settled hperi hclear (fun y hy => hsettled y (hws.subset hy)) _
  · obtain ⟨-, ws, hlog, hword, -⟩ := (hbefore.mono fun _ _ => trivial).trans
      (hafter.mono (Q := fun _ => True) fun _ _ => trivial)
    exact ⟨ws, hlog, hword⟩

/-! ### Whole runs -/

/-- The REF PLL is not found running, or it is at 24 MHz. -/
def RefReady (d : Device) (s : Regs) : Prop :=
  (a7sPllIsRunning d (refPll 100 80) false (a7sBusUseSys24 d s).2).1 = false ∨
    a7sRefPllRate (s.word (a7sCcuReg pllRefCtrlReg)) (a7sDcxoRate (s.word a7sRtcXoCtrl0)) = 24000

section Runs

variable {lock : ℕ → ℕ → Bool} {gates : ℕ → ℕ → UInt32} {s t u : Regs}

lemma a7sGateDevice_clockDevice : ClockDevice (a7sGateDevice lock gates) := by
  apply ClockDevice.of_live
  · simp only [busClocks, List.forall_mem_cons]
    exact ⟨rfl, rfl, rfl, rfl, fun b hb => absurd hb List.not_mem_nil⟩
  · simp only [List.forall_mem_cons]
    exact ⟨rfl, rfl, rfl, fun b hb => absurd hb List.not_mem_nil⟩

/-- After its stage the REF PLL is at 24 MHz. -/
lemma RefUp.rate (href : RefReady (a7sGateDevice lock gates) s)
    (h : RefUp (a7sGateDevice lock gates) s t) :
    a7sRefPllRate (t.word (a7sCcuReg pllRefCtrlReg)) (a7sDcxoRate (t.word a7sRtcXoCtrl0)) =
      24000 := by
  obtain ⟨u, hbuses, hrun⟩ := h
  rw [BusesUp] at hbuses
  rw [RefReady, hbuses] at href
  have hbefore := (a7sBusUseSys24_writes _).within.word hbuses
  have hne : a7sRtcXoCtrl0 ≠ a7sCcuReg pllRefCtrlReg := by decide
  have hxo : t.word a7sRtcXoCtrl0 = u.word a7sRtcXoCtrl0 :=
    ((a7sRefPllInit_writes (a7sGateDevice lock gates)).ran hrun).word fun _ => hne
  have hok : (a7sRefPllInit (a7sGateDevice lock gates) u).1 = 0 := by rw [hrun]
  have hcases := refPllInit_cases rfl rfl rfl hok
  rw [hrun] at hcases
  rw [hxo]
  obtain ⟨hrunning, hsame⟩ | ⟨-, hdone⟩ := hcases
  · -- it was found running, as it was before the buses were switched
    rw [hsame, hbefore _ (by decide), hbefore _ (by decide)]
    refine href.resolve_left fun hnot => ?_
    rw [hrunning] at hnot
    exact Bool.noConfusion hnot
  · exact hdone.up.ref_rate

/-- The stages behind the PERI0 PLL write its registers no more. -/
lemma GatesUp.behind_peri0 {d : Device} (h : GatesUp d s u) :
    ∃ t, Peri0Up d s t ∧
      ∀ a ∉ busRegs, a ∉ (periPll pllPeri1CtrlReg 100).regs → u.word a = t.word a := by
  obtain ⟨v₂, ⟨v₁, ⟨t, hperi0, hperi1⟩, hgates0⟩, hgates1⟩ := h
  rw [a7sPeriPllInit] at hperi1
  have hw₁ := (a7sPllProgram_within _ _).word hperi1
  have hw₂ := (a7sPeriDistributionEnable_within (A := busRegs) (by decide)).word hgates0
  have hw₃ := (a7sPeriDistributionEnable_within (A := busRegs) (by decide)).word hgates1
  exact ⟨t, hperi0, fun a ha ha' => ((hw₃ a ha).trans (hw₂ a ha)).trans (hw₁ a ha')⟩

/-- When the buses are switched up, the PERI0 PLL is at its rate. -/
lemma GatesUp.peri0Nominal (href : RefReady (a7sGateDevice lock gates) s)
    (h : GatesUp (a7sGateDevice lock gates) s u) : Peri0Nominal u.word := by
  obtain ⟨t, ⟨v, hv, hrun⟩, hlast⟩ := h.behind_peri0
  rw [a7sPeriPllInit] at hrun
  have hkept := (a7sPllProgram_within _ _).word hrun
  -- the input is the REF PLL
  have hrate := RefUp.rate href hv
  rw [← hkept _ (by decide), ← hkept _ (by decide), ← hlast _ (by decide) (by decide),
    ← hlast _ (by decide) (by decide)] at hrate
  -- the PLL is programmed
  have hdone := a7sPllProgram_spec (d := a7sGateDevice lock gates) periPll_sound.1 rfl rfl v
    (by rw [hrun])
  rw [hrun] at hdone
  have hfield : Field periMask periValue (u.word (a7sCcuReg pllPeri0CtrlReg)) := by
    rw [hlast _ (by decide) (by decide)]
    exact hdone.required.union hdone.config
  obtain ⟨h₂ₓ, -, h₄₈₀⟩ := peri_rates hfield (dcxoOf u.word)
  rw [Peri0Nominal, peri02xOf, peri0480Of, peri0InputOf, dcxoOf, hrate]
  exact ⟨h₂ₓ, h₄₈₀⟩

/-- The run went on to the nominal rates. -/
lemma GatesUp.limited {r : ℤ} (href : RefReady (a7sGateDevice lock gates) s)
    (h : GatesUp (a7sGateDevice lock gates) s u)
    (hrun : a7sBusUseNominalRates (a7sGateDevice lock gates) u = (r, t)) :
    ∀ s', Logged Settled t s' → Limited s s' := by
  intro s' hafter
  have hperi := h.peri0Nominal href
  obtain ⟨v, hv, hrun'⟩ := h
  have hsafe := hv.gates1_safe a7sGateDevice_clockDevice hrun'
  have hclear : SourcesClear nominalClocks u := by
    intro c hc
    have hfield := hsafe.buses _ (nominalClocks_bus hc)
    exact (hfield.part (within_or_left UInt32.and_self _)).trans UInt32.zero_and
  have hsettled := (a7sBusUseNominalRates_settled a7sGateDevice_clockDevice u).of_run hrun
    ⟨.refl u, hclear⟩
  exact .of_settled hsafe.logged hperi hclear (hsettled.trans hafter)

end Runs

/-- **No bus is over-driven.** For every contents of the registers, every behaviour of the lock
bits and of the distribution registers, and a REF PLL that is not running yet or is at 24 MHz:
in every state of the run after a bus was first written, errors included, the rate decoded for
it is at most 200 MHz for AHB, 100 MHz for APB0 and APB1 and 26 MHz for the UART. -/
theorem a7sClockInit_limited (lock : ℕ → ℕ → Bool) (gates : ℕ → ℕ → UInt32) (s : Regs)
    (href : RefReady (a7sGateDevice lock gates) s) :
    Limited s (a7sClockInit (a7sGateDevice lock gates) s).2 := by
  have hd : ClockDevice (a7sGateDevice lock gates) := a7sGateDevice_clockDevice
  have hexit : ∀ {P : Regs → Prop} {error : ℤ}, (∀ t, P t → Safe s t) →
      Triple P (clockFallBack (a7sGateDevice lock gates) error) fun _ s' => Limited s s' := by
    intro P error h t ht
    exact .of_sourceClear ((h t ht).fallBack hd error).logged
  have hall : Triple (fun t => t = s) (a7sClockInit (a7sGateDevice lock gates))
      fun _ s' => Limited s s' := by
    -- after each stage, the states in which it ended with zero
    refine .checked .start (fun r hr => .pure ?_) <| .checked .ran (fun r hr => .pure ?_) <|
      .checked .ran (fun r hr => .pure ?_) <| .checked .ran (fun r hr => hexit ?_) <|
      .checked .ran (fun r hr => hexit ?_) <| .checked .ran (fun r hr => hexit ?_) <|
      .checked .ran (fun r hr => ?_) <| .pure ?_
    · intro t hrun
      have hsafe := a7sBusUseSys24_safe hd s
      rw [hrun] at hsafe
      exact .of_sourceClear hsafe.logged
    · rintro t ⟨u, hu, hrun⟩
      exact .of_sourceClear (BusesUp.ref_safe hd hu hrun).logged
    · rintro t ⟨u, hu, hrun⟩
      exact .of_sourceClear (RefUp.peri0_safe hd hu hrun).logged
    · rintro t ⟨u, hu, hrun⟩
      exact Peri0Up.peri1_safe hd hu hrun
    · rintro t ⟨u, hu, hrun⟩
      exact Peri1Up.gates0_safe hd hu hrun
    · rintro t ⟨u, hu, hrun⟩
      exact Gates0Up.gates1_safe hd hu hrun
    · rintro t ⟨u, hu, hrun⟩
      exact GatesUp.limited href hu hrun _ (clockFallBack_settled hd a7sClockErrBus t)
    · rintro t ⟨u, hu, hrun⟩
      exact GatesUp.limited href hu hrun t (.refl t)
  exact hall s rfl

/-- The PLLs lock and the distribution gates open. -/
def openGates : Device := a7sGateDevice (fun _ _ => true) fun _ _ => a7sPeriDistributionGates

/-- After a reset, with the buses switched up. -/
theorem a7sClockInit_limited_reset :
    (a7sClockInit openGates ⟨fun _ => 0, 0, []⟩).1 = 0 ∧
    RefReady openGates ⟨fun _ => 0, 0, []⟩ ∧
    Limited ⟨fun _ => 0, 0, []⟩ (a7sClockInit openGates ⟨fun _ => 0, 0, []⟩).2 := by
  have href : RefReady openGates ⟨fun _ => 0, 0, []⟩ := Or.inl (by decide +kernel)
  exact ⟨by decide +kernel, href, a7sClockInit_limited _ _ _ href⟩

end A733Boot.Boot
