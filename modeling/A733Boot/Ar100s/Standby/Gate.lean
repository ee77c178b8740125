/-
What the firmware does without a complete device tree, over all of its runs: a message is
processed, and between messages interrupts come and the hardware goes on.

* `bootSystem`, `Reaches`: the state after `startup_entry`, and the states of a run;
* `Kept`, `processMessage_kept`: what a message does to a system whose gate is shut;
* `standbyDtsParse_incomplete`: an incomplete tree is refused each time, also after some of
  its values have been stored;
* `dtb_gate` (**the gate**): without the parameters of the DRAM neither the DRAM nor a rail
  is ever touched, and without those of the standby only the DRAM frequency is.
-/
import A733Boot.Ar100s.Standby.Requests

namespace A733Boot.Ar100s.Standby

open Fip Fdt Boot Mailbox

/-! ### Runs -/

section Runs

variable {σ : Type} (D : Drivers σ)

/-- The state after `startup_entry`, where `rtc` is what boot0 has published. -/
def bootSystem (rtc : ℕ) (fw : Firmware) (plat : σ) : System σ where
  suspendLock := 0
  wakeupSource := noWakesource
  param := .init
  dtbBase := (startupEntry D.fdt D.mem rtc fw).firmware.dtbBase
  platformDramPara := (startupEntry D.fdt D.mem rtc fw).platformDramPara.join
  crc := .init
  rails := .init
  plat := plat
  trace := []
  dramCalls := []

/-- The states of the runs from `s₀`: any message is processed next, with any state of the
message box, of `wakeup_source` and of the hardware by then. -/
inductive Reaches (s₀ : System σ) : System σ → Prop
  | start : Reaches s₀ s₀
  | message {s : System σ} (m : Message) (b : Mbox) (wakeupSource : UInt32)
      (plat : σ) : Reaches s₀ s →
      Reaches s₀ (processMessage (services D) m
        { s with wakeupSource := wakeupSource, plat := plat } b).2.1

end Runs

/-! ### A message at a shut gate -/

section Messages

variable {σ : Type} (D : Drivers σ)

/-- The new state `s'` has the rails of `s`, and its tree; with the parameters of the DRAM
another attempt at the parse may have been made, and the DRAM frequency set. -/
structure Kept (s s' : System σ) : Prop where
  dtbBase : s'.dtbBase = s.dtbBase
  platformDramPara : s'.platformDramPara = s.platformDramPara
  rails : s'.rails = s.rails
  param : s'.param = s.param ∨ s'.param = (standbyDtsParse D.fdt D.mem s.dtbBase s.param).2
  dramCalls : s'.dramCalls = s.dramCalls ∨
    (s.platformDramPara.isSome ∧
      ∃ para freqId, s'.dramCalls = s.dramCalls ++ [.mdfsSoftware para freqId])

variable {D} {s s' : System σ}

/-- The fields that the gate is about are those of before. -/
lemma Kept.of_eq (hbase : s'.dtbBase = s.dtbBase) (hpara : s'.platformDramPara = s.platformDramPara)
    (hrails : s'.rails = s.rails) (hparam : s'.param = s.param)
    (hcalls : s'.dramCalls = s.dramCalls) :
    Kept D s s' :=
  ⟨hbase, hpara, hrails, Or.inl hparam, Or.inl hcalls⟩

lemma kept_refl (s : System σ) : Kept D s s := Kept.of_eq rfl rfl rfl rfl rfl

lemma kept_drive (s : System σ) (f : σ → ℤ × σ) : Kept D s (s.drive f).2 :=
  Kept.of_eq rfl rfl rfl rfl rfl

lemma sysOp_kept (m : Message) (s : System σ) : Kept D s (sysOp D m s).2 := by
  simp only [sysOp]
  split_ifs
  · exact kept_drive s _
  · exact Kept.of_eq rfl rfl rfl rfl rfl
  · exact kept_drive s _
  · exact kept_drive s _
  · exact kept_refl s

lemma setWakeupSrc_kept (m : Message) (s : System σ) : Kept D s (setWakeupSrc D m s).2 := by
  simp only [setWakeupSrc]
  split_ifs <;> exact Kept.of_eq rfl rfl rfl rfl rfl

lemma clearWakeupSrc_kept (m : Message) (s : System σ) : Kept D s (clearWakeupSrc D m s).2 := by
  simp only [clearWakeupSrc]
  split_ifs <;> exact Kept.of_eq rfl rfl rfl rfl rfl

lemma setDdrfreqCall_kept (freqId : UInt32) (hpara : s.platformDramPara.isSome) :
    Kept D s (setDdrfreqCall D freqId s).2 :=
  ⟨rfl, rfl, rfl, Or.inl rfl, Or.inr ⟨hpara, s.dtsDramPara, freqId, rfl⟩⟩

lemma gate_kept (s : System σ) (b : Mbox) : Kept D s (gate D.toPlatform (s, b)).2.1 := by
  cases h : s.platformDramPara with
  | none =>
      simp only [gate, h]
      exact kept_refl s
  | some para =>
      simp only [gate, h]
      exact ⟨rfl, rfl, rfl, Or.inr rfl, Or.inl rfl⟩

lemma cpuOp_kept (m : Message) (b : Mbox) (hgate : (gate D.toPlatform (s, b)).1 = false) :
    Kept D s (cpuOp (services D) m s b).2.1 := by
  rw [cpuOp]
  split_ifs
  · have hrefused : (services D).standbyEntry m s b = (-eAcces, (gate D.toPlatform (s, b)).2) :=
      standbyEntry_refused D.toPlatform m (s, b) hgate
    rw [hrefused]
    exact gate_kept s b
  · exact kept_refl s

lemma kept_ite {c : Prop} [Decidable c] {x y : ℤ × System σ × Mbox} (hx : Kept D s x.2.1)
    (hy : Kept D s y.2.1) : Kept D s (if c then x else y).2.1 := by
  split_ifs
  · exact hx
  · exact hy

lemma dispatch_kept (m : Message) (b : Mbox) (hgate : (gate D.toPlatform (s, b)).1 = false) :
    Kept D s (dispatch (services D) m s b).2.1 := by
  rw [dispatch]
  refine kept_ite (cpuOp_kept m b hgate)
    (kept_ite (sysOp_kept m s) (kept_ite (clearWakeupSrc_kept m s) ?_))
  refine kept_ite (setWakeupSrc_kept m s) (kept_ite (kept_refl s) (kept_ite (kept_drive s _) ?_))
  refine kept_ite (kept_drive s _) (kept_ite (Kept.of_eq rfl rfl rfl rfl rfl) (kept_ite ?_ ?_))
  · by_cases hpara : s.platformDramPara.isSome = true
    · rw [show (services D).platformDramPara s = true from hpara, if_pos rfl]
      exact setDdrfreqCall_kept (m.para 0) hpara
    · rw [if_neg (show ¬ (services D).platformDramPara s = true from hpara)]
      exact kept_refl s
  · exact kept_ite (kept_refl s) (kept_refl s)

/-- What a message does, if a standby is refused. -/
lemma processMessage_kept (m : Message) (b : Mbox) (hgate : (gate D.toPlatform (s, b)).1 = false) :
    Kept D s (processMessage (services D) m s b).2.1 := by
  have hserved : (processMessage (services D) m s b).2.1 = (served (services D) m s b).2.1 := by
    simp only [processMessage, served]
    split_ifs <;> rfl
  rw [hserved, served]
  exact kept_ite (kept_refl s) (dispatch_kept m b hgate)

end Messages

/-! ### Incomplete parameters -/

section Parameters

/-- The node, or a mandatory cell, is missing or malformed, or the optional cell is there
with a wrong length. -/
def StandbyParamIncomplete (f : Libfdt) (fdt : Mem) : Prop :=
  f.pathOffset fdt standbyParamPath < 0 ∨
  (∃ cell ∈ standbyCells, ∀ prop, f.getprop fdt (f.pathOffset fdt standbyParamPath)
    cell.name ≠ .ok (prop, 4)) ∨
  ∃ prop len, f.getprop fdt (f.pathOffset fdt standbyParamPath) vddUsbName =
    .ok (prop, len) ∧ len ≠ 4

variable {f : Libfdt} {fdt : Mem} {node : ℤ}

/-- The loop over the cells does not set the flag, if no cell does. -/
lemma parseCells_flag {cells : List Cell}
    (hcells : ∀ cell ∈ cells, ∀ v p, (cell.store v p).dtsHasParsed = p.dtsHasParsed)
    (p : StandbyParam) :
    (parseCells f fdt node cells p).2.dtsHasParsed = p.dtsHasParsed := by
  induction cells generalizing p with
  | nil => rfl
  | cons cell cells ih =>
      rw [parseCells]
      split
      · rfl
      · split_ifs
        · rfl
        · rw [ih fun c hc => hcells c (List.mem_cons_of_mem cell hc)]
          exact hcells cell List.mem_cons_self _ p

lemma parseCells_bad {cells : List Cell}
    (hbad : ∃ cell ∈ cells, ∀ prop, f.getprop fdt node cell.name ≠ .ok (prop, 4))
    (p : StandbyParam) :
    (parseCells f fdt node cells p).1 ≠ 0 := by
  have hne : -eInval ≠ 0 := by decide
  induction cells generalizing p with
  | nil =>
      obtain ⟨cell, hcell, -⟩ := hbad
      exact absurd hcell List.not_mem_nil
  | cons first cells ih =>
      obtain ⟨cell, hcell, hprop⟩ := hbad
      rw [parseCells]
      split
      · exact hne
      · next prop len hfound =>
          split_ifs with hlen
          · exact hne
          · refine ih ⟨cell, ?_, hprop⟩ _
            obtain rfl | hcell := List.mem_cons.mp hcell
            · rw [not_not.mp hlen] at hfound
              exact absurd hfound (hprop prop)
            · exact hcell

lemma standbyCells_flag :
    ∀ cell ∈ standbyCells, ∀ v p, (cell.store v p).dtsHasParsed = p.dtsHasParsed := by
  simp [standbyCells]

/-- An incomplete tree is refused, and stays unparsed, whatever an earlier attempt has
stored. -/
lemma standbyDtsParse_incomplete {m : Mem} {dtbBase : ℕ}
    (h : StandbyParamIncomplete f (m.view dtbBase))
    {p : StandbyParam} (hp : p.dtsHasParsed = false) :
    (standbyDtsParse f m dtbBase p).1 ≠ 0 ∧
    (standbyDtsParse f m dtbBase p).2.dtsHasParsed = false := by
  have hne : -eInval ≠ 0 := by decide
  simp only [standbyDtsParse, hp, Bool.false_eq_true, if_false]
  simp only [StandbyParamIncomplete] at h
  generalize m.view dtbBase = fdt at h ⊢
  generalize f.pathOffset fdt standbyParamPath = node at h ⊢
  have hflag : (parseCells f fdt node standbyCells p).2.dtsHasParsed = false :=
    (parseCells_flag standbyCells_flag p).trans hp
  by_cases hnode : node < 0
  · simp only [if_pos hnode]
    exact ⟨by decide, hp⟩
  simp only [if_neg hnode]
  by_cases hcells : (parseCells f fdt node standbyCells p).1 ≠ 0
  · simp only [if_pos hcells]
    exact ⟨hcells, hflag⟩
  · simp only [if_neg hcells]
    -- the seven cells are there, so it is the optional one
    obtain ⟨prop, len, hfound, hlen⟩ :=
      (h.resolve_left hnode).resolve_left fun hbad => hcells (parseCells_bad hbad p)
    simp only [hfound, if_pos hlen]
    exact ⟨hne, hflag⟩

end Parameters

/-! ### The gate over runs -/

section Gate

variable {σ : Type} (D : Drivers σ)

/-- What holds in every state when the tree had no parameters of the DRAM. -/
structure NoDram (s : System σ) : Prop where
  platformDramPara : s.platformDramPara = none
  dramCalls : s.dramCalls = []
  offCalls : s.rails.offCalls = 0

/-- What holds in every state when the parameters of the standby in the tree at `dtbBase`
are incomplete. -/
structure NoStandbyParam (dtbBase : ℕ) (s : System σ) : Prop where
  dtbBase : s.dtbBase = dtbBase
  unparsed : s.param.dtsHasParsed = false
  dramCalls : ∀ c ∈ s.dramCalls, ∃ para freqId, c = .mdfsSoftware para freqId
  offCalls : s.rails.offCalls = 0

variable {D} {s : System σ}

lemma NoDram.message (h : NoDram s) (m : Message) (b : Mbox) :
    NoDram (processMessage (services D) m s b).2.1 := by
  have hgate : (gate D.toPlatform (s, b)).1 = false := by simp only [gate, h.platformDramPara]
  have hkept := processMessage_kept m b hgate
  refine ⟨hkept.platformDramPara.trans h.platformDramPara, ?_, ?_⟩
  · obtain hcalls | ⟨hsome, -⟩ := hkept.dramCalls
    · exact hcalls.trans h.dramCalls
    · rw [h.platformDramPara] at hsome
      exact absurd hsome Bool.false_ne_true
  · rw [hkept.rails, h.offCalls]

lemma NoStandbyParam.message {dtbBase : ℕ}
    (hparam : StandbyParamIncomplete D.fdt (D.mem.view dtbBase))
    (h : NoStandbyParam dtbBase s) (m : Message) (b : Mbox) :
    NoStandbyParam dtbBase (processMessage (services D) m s b).2.1 := by
  rw [← h.dtbBase] at hparam
  obtain ⟨hrefused, hunparsed⟩ := standbyDtsParse_incomplete hparam h.unparsed
  have hgate : (gate D.toPlatform (s, b)).1 = false := by
    simp only [gate]
    split
    · rfl
    · exact decide_eq_false hrefused
  have hkept := processMessage_kept m b hgate
  refine ⟨hkept.dtbBase.trans h.dtbBase, ?_, ?_, ?_⟩
  · obtain hp | hp := hkept.param
    · rw [hp, h.unparsed]
    · rw [hp, hunparsed]
  · obtain hcalls | ⟨-, para, freqId, hcalls⟩ := hkept.dramCalls
    · rw [hcalls]
      exact h.dramCalls
    · rw [hcalls]
      intro c hc
      obtain hc | hc := List.mem_append.mp hc
      · exact h.dramCalls c hc
      · exact ⟨para, freqId, List.mem_singleton.mp hc⟩
  · rw [hkept.rails, h.offCalls]

/-- What no message, no interrupt and no change of the hardware ends holds in every state of
a run. -/
lemma Reaches.invariant {I : System σ → Prop} {s₀ : System σ} (hstart : I s₀)
    (hbetween : ∀ s wakeupSource plat, I s →
      I { s with wakeupSource := wakeupSource, plat := plat })
    (hmessage : ∀ s m b, I s → I (processMessage (services D) m s b).2.1)
    (h : Reaches D s₀ s) : I s := by
  induction h with
  | start => exact hstart
  | message m b wakeupSource plat _ ih => exact hmessage _ m b (hbetween _ wakeupSource plat ih)

/-- **The gate.** In every run after a boot where `dtb_base_init` failed or `dram_dts_parse`
returned no parameters, no function of the DRAM library is called, and none that switches a
rail off. In every run after a boot where the parameters of the standby are incomplete, no
rail is switched off either, and the DRAM library is called for its frequency only. -/
theorem dtb_gate (rtc : ℕ) (fw : Firmware) (plat : σ) (h : Reaches D (bootSystem D rtc fw plat) s) :
    ((startupEntry D.fdt D.mem rtc fw).dtbStatus ≠ 0 ∨
        (startupEntry D.fdt D.mem rtc fw).platformDramPara = some none →
      s.dramCalls = [] ∧ s.rails.offCalls = 0) ∧
    (StandbyParamIncomplete D.fdt (D.mem.view (startupEntry D.fdt D.mem rtc fw).firmware.dtbBase) →
      (∀ c ∈ s.dramCalls, ∃ para freqId, c = .mdfsSoftware para freqId) ∧
      s.rails.offCalls = 0) := by
  refine ⟨fun hboot => ?_, fun hparam => ?_⟩
  · have hnone : (bootSystem D rtc fw plat).platformDramPara = none := by
      obtain hstatus | hnull := hboot
      · have hparse : (startupEntry D.fdt D.mem rtc fw).platformDramPara = none := if_pos hstatus
        rw [bootSystem, hparse, Option.join_none]
      · rw [bootSystem, hnull, Option.join_some]
    have hinv : NoDram s := h.invariant ⟨hnone, rfl, rfl⟩ (fun s w plat h => ⟨h.1, h.2, h.3⟩)
      fun s m b h => h.message m b
    exact ⟨hinv.dramCalls, hinv.offCalls⟩
  · have hstart : NoStandbyParam (startupEntry D.fdt D.mem rtc fw).firmware.dtbBase
      (bootSystem D rtc fw plat) :=
      ⟨rfl, rfl, fun c hc => absurd hc List.not_mem_nil, rfl⟩
    have hinv := h.invariant hstart (fun s w plat h => ⟨h.1, h.2, h.3, h.4⟩)
      fun s m b h => h.message hparam m b
    exact ⟨hinv.dramCalls, hinv.offCalls⟩

end Gate

/-- A tree at `0x48100000` whose node `/standby_param` lacks `vcc-io`, the fifth of the
mandatory cells. -/
def partialDrivers : Drivers Unit where
  toPlatform :=
    { stuckPlatform with
      fdt := ⟨fun _ _ => 8, fun _ _ name =>
        if name = ['v', 'c', 'c', '-', 'i', 'o'] then .error (-1) else .ok (40, 4)⟩
      -- the magic word, the size, and the two versions of the header
      mem := fun a => [0xd0, 0x0d, 0xfe, 0xed, 0, 0, 0x10, 0, 0, 0, 0, 0, 0, 0, 0, 0, 0, 0, 0, 0,
        0, 0, 0, 17, 0, 0, 0, 16].getD (a - 0x48100000) 0 }
  pmuChargingReset := fun _ => (0, ())
  pmuShutdown := fun _ => (0, ())
  pmuReset := fun _ => (0, ())
  setWakeupTimer := fun _ _ => ()
  clearWakeupTimer := fun _ => ()
  cpuxIrqMaptoCpus := fun _ => -1
  irqWakesourceInit := fun _ _ _ => (0, ())
  irqWakesourceExit := fun _ _ _ => (0, ())
  setDebugLevel := fun _ _ => (0, ())
  uartSetBaudrate := fun _ _ => (0, ())
  mctlMdfsSoftware := fun _ _ _ => (0, ())

def resetFirmware : Firmware := ⟨0, ⟨0, 0, fun _ => 0, fun _ => 0⟩⟩

/-- A request for a standby is processed. -/
def requested (s : System Unit) : System Unit :=
  (processMessage (services partialDrivers) ⟨0, 2, cpuOpReq, 0, 5, some fun _ => ariscPowerOff⟩
    { s with wakeupSource := noWakesource, plat := () } (Mbox.holding 0 [])).2.1

/-- A standby is requested twice without a tree, and twice with the tree that lacks a cell. -/
theorem dtb_gate_requested :
    ((startupEntry partialDrivers.fdt partialDrivers.mem 0 resetFirmware).dtbStatus ≠ 0 ∧
      (requested (requested (bootSystem partialDrivers 0 resetFirmware ()))).dramCalls = []) ∧
    (startupEntry partialDrivers.fdt partialDrivers.mem 0x48100000
      resetFirmware).platformDramPara.join.isSome ∧
    StandbyParamIncomplete partialDrivers.fdt (partialDrivers.mem.view
      (startupEntry partialDrivers.fdt partialDrivers.mem 0x48100000
        resetFirmware).firmware.dtbBase) ∧
    (requested (requested
      (bootSystem partialDrivers 0x48100000 resetFirmware ()))).rails.offCalls = 0 := by
  have hreaches : ∀ s, Reaches partialDrivers s (requested (requested s)) := fun s =>
    .message _ _ _ _ (.message _ _ _ _ .start)
  have hrefused : (startupEntry partialDrivers.fdt partialDrivers.mem 0
    resetFirmware).dtbStatus ≠ 0 := by
    decide +kernel
  have hparam : StandbyParamIncomplete partialDrivers.fdt (partialDrivers.mem.view
      (startupEntry partialDrivers.fdt partialDrivers.mem 0x48100000
        resetFirmware).firmware.dtbBase) := by
    refine Or.inr (Or.inl
      ⟨⟨['v', 'c', 'c', '-', 'i', 'o'], fun v p => { p with vccIo := v }⟩, ?_, ?_⟩)
    · simp [standbyCells]
    · intro prop h
      cases h
  refine ⟨⟨hrefused, ?_⟩, by decide +kernel, hparam, ?_⟩
  · exact ((dtb_gate 0 _ () (hreaches _)).1 (Or.inl hrefused)).1
  · exact ((dtb_gate 0x48100000 _ () (hreaches _)).2 hparam).2

end A733Boot.Ar100s.Standby
