/-
A whole standby: `standby_dts_parse`, `standby_process_init`, `standby_process_exit`,
`wait_wakeup` and `standby_entry` of
`ar100s/service/standby/standby-sun60iw2p1/plat_standby.c`.

What the stages do to registers, and the code outside the firmware, is a `Platform`; the
rails, the check of the DRAM and the wait for the processor are those of the other modules.
Interrupts may change `wakeup_source` whenever a stage begins.

* `Stage`, `System`: the stages of a standby, and what they run over, with the stages that
  were executed and their results on record;
* `runStages`, `runStages_trace`: stages one after the other leave exactly themselves on
  the record;
* `standbyProcessInit_eq`, `standbyProcessExit_follows`: the two halves are runs of stages;
* `standbyEntry_balanced` (**a standby is balanced**): whatever fails, every stage of the
  suspend is followed by its counterpart, and the first error is returned;
* `standbyEntry_box` (**the message box in a standby**): only a standby that suspends uses it,
  in the wait for the processor.
-/
import A733Boot.Library.Registers
import A733Boot.Ar100s.Dtb
import A733Boot.Ar100s.Standby.DramCrc
import A733Boot.Ar100s.Standby.Rails
import A733Boot.Ar100s.Standby.Resume

namespace A733Boot.Ar100s.Standby

open Fip Fdt Boot Mailbox

/-! ### The parameters of the device tree -/

/-- The static variables that `standby_dts_parse` sets. -/
structure StandbyParam where
  dtsHasParsed : Bool
  vddCpu : UInt32
  vddCpub : UInt32
  vddSys : UInt32
  vddUsb : UInt32
  vccPll : UInt32
  vccIo : UInt32
  vccEfuse : UInt32
  osc24mOn : UInt32

def StandbyParam.init : StandbyParam := ⟨false, 0, 0, 0, 0, 0, 0, 0, 1⟩

def StandbyParam.masks (p : StandbyParam) : RailMasks :=
  ⟨p.vddCpu, p.vddCpub, p.vddSys, p.vccPll, p.vccIo, p.vccEfuse⟩

/-- `"/standby_param"`. -/
def standbyParamPath : List Char :=
  ['/', 's', 't', 'a', 'n', 'd', 'b', 'y', '_', 'p', 'a', 'r', 'a', 'm']

/-- A mandatory cell: its name, and the variable that takes its value. -/
structure Cell where
  name : List Char
  store : UInt32 → StandbyParam → StandbyParam

/-- The arrays `names` and `values`. -/
def standbyCells : List Cell :=
  [⟨['v', 'd', 'd', '-', 'c', 'p', 'u'], fun v p => { p with vddCpu := v }⟩,
    ⟨['v', 'd', 'd', '-', 'c', 'p', 'u', 'b'], fun v p => { p with vddCpub := v }⟩,
    ⟨['v', 'd', 'd', '-', 's', 'y', 's'], fun v p => { p with vddSys := v }⟩,
    ⟨['v', 'c', 'c', '-', 'p', 'l', 'l'], fun v p => { p with vccPll := v }⟩,
    ⟨['v', 'c', 'c', '-', 'i', 'o'], fun v p => { p with vccIo := v }⟩,
    ⟨['v', 'c', 'c', '-', 'e', 'f', 'u', 's', 'e'], fun v p => { p with vccEfuse := v }⟩,
    ⟨['o', 's', 'c', '2', '4', 'm', '-', 'o', 'n'], fun v p => { p with osc24mOn := v }⟩]

/-- `"vdd-usb"`. -/
def vddUsbName : List Char := ['v', 'd', 'd', '-', 'u', 's', 'b']

/-- The loop over the mandatory cells; those before a bad one stay stored. -/
def parseCells (f : Libfdt) (fdt : Mem) (node : ℤ) : List Cell → StandbyParam → ℤ × StandbyParam
  | [], p => (0, p)
  | cell :: cells, p =>
      match f.getprop fdt node cell.name with
      | .error _ => (-eInval, p)
      | .ok (prop, len) =>
          if len ≠ 4 then (-eInval, p)
          else parseCells f fdt node cells (cell.store (UInt32.ofNat (fdt.loadBe32 prop)) p)

/-- The tree is the one at `dtbBase`. -/
def standbyDtsParse (f : Libfdt) (m : Mem) (dtbBase : ℕ) (p : StandbyParam) : ℤ × StandbyParam :=
  if p.dtsHasParsed then (0, p)
  else
    let fdt := m.view dtbBase
    let node := f.pathOffset fdt standbyParamPath
    if node < 0 then (-1, p)
    else
      let r := parseCells f fdt node standbyCells p
      if r.1 ≠ 0 then r
      else
        let p := { r.2 with vddUsb := 0 }
        match f.getprop fdt node vddUsbName with
        | .error _ => (0, { p with dtsHasParsed := true })
        | .ok (prop, len) =>
            if len ≠ 4 then (-eInval, p)
            else (0, { p with vddUsb := UInt32.ofNat (fdt.loadBe32 prop), dtsHasParsed := true })

/-! ### The stages -/

/-- The functions that a standby calls in turn. -/
inductive Stage
  | ioscFreqInit
  | platformStandbyType
  | suspendParaPrepare
  | cpucfgCpuSuspend
  | deviceSuspend
  | cpuPllOff
  | dramSuspend
  | cpuDirectAccessSuspend
  | clkSuspend
  | systemSuspend
  | clkSuspendLate
  | rtcVccioDetSuspend
  | dmSuspend
  | dmResume
  | rtcVccioDetResume
  | clkResumeEarly
  | systemResume
  | ppuResume
  | clkResume
  | cpuDirectAccessResume
  | dramResume
  | nsiResume
  | cpuPllOn
  | deviceResume
  | cpucfgCpuResume (resumeEntry : UInt32)
  | waitCpu0Resume
deriving DecidableEq

/-- The stages whose result is looked at. -/
def Stage.fallible : Stage → Bool
  | dmSuspend | dmResume | ppuResume | clkResume | dramResume | cpuPllOn | deviceResume
  | waitCpu0Resume => true
  | _ => false

/-- The calls into the DRAM library. -/
inductive DramCall
  | powerSaveProcess (para : List ℕ)
  | powerUpProcess (para : List ℕ)
  | mdfsSoftware (para : List ℕ) (freqId : UInt32)
deriving DecidableEq

/-- What a standby runs over, with the stages executed so far and their results, and the
calls into the DRAM library, oldest first. -/
structure System (σ : Type) where
  suspendLock : UInt32
  wakeupSource : UInt32
  param : StandbyParam
  dtbBase : ℕ
  platformDramPara : Option (List ℕ)
  crc : DramCrc
  rails : Rails
  plat : σ
  trace : List (Stage × ℤ)
  dramCalls : List DramCall

/-- The array behind `platform_dram_para`; no call takes it when the pointer is null. -/
def System.dtsDramPara {σ : Type} (s : System σ) : List ℕ :=
  s.platformDramPara.getD (List.replicate dtsDramParaCount 0)

/-- The hardware and the code below a standby, with states `σ`. `run` is a stage that is
not modelled here, `irq` what interrupts make of `wakeup_source` by the time a stage begins,
and `wakeup` the event that ends the wait for one. -/
structure Platform (σ : Type) where
  fdt : Libfdt
  mem : Mem
  pmu : Pmu
  dram : σ → ℕ → UInt32
  dramPowerSaveProcess : List ℕ → σ → σ
  dramPowerUpProcess : List ℕ → σ → σ
  run : Stage → StandbyParam → σ → ℤ × σ
  irq : Stage → σ → UInt32 → UInt32
  wakeup : σ → { w : UInt32 // w ≠ noWakesource }

section Code

variable {σ : Type} (P : Platform σ)

def dramSuspend (s : System σ) : System σ :=
  { s with
    crc := dramCheckBefore (P.dram s.plat) s.crc
    plat := P.dramPowerSaveProcess s.dtsDramPara s.plat
    dramCalls := s.dramCalls ++ [.powerSaveProcess s.dtsDramPara] }

def dramResume (s : System σ) : ℤ × System σ :=
  let plat := P.dramPowerUpProcess s.dtsDramPara s.plat
  let r := dramCheckAfter (P.dram plat) s.crc
  (r.1, { s with
    crc := r.2
    plat := plat
    dramCalls := s.dramCalls ++ [.powerUpProcess s.dtsDramPara] })

/-- The body of a stage. -/
def exec (st : Stage) (s : System σ) (b : Mbox) : ℤ × System σ × Mbox :=
  match st with
  | .dramSuspend => (0, dramSuspend P s, b)
  | .dramResume => ((dramResume P s).1, (dramResume P s).2, b)
  | .dmSuspend =>
      let r := Standby.dmSuspend P.pmu s.param.masks s.rails
      (r.1, { s with rails := r.2 }, b)
  | .dmResume =>
      let r := Standby.dmResume P.pmu s.rails
      (r.1, { s with rails := r.2 }, b)
  | .waitCpu0Resume =>
      let r := Standby.waitCpu0Resume s.wakeupSource b
      (r.1, { s with wakeupSource := r.2.1 }, r.2.2)
  | st =>
      let r := P.run st s.param s.plat
      (r.1, { s with plat := r.2 }, b)

/-- Programs over the system and the message box. -/
abbrev StandbyM (σ : Type) (α : Type) := StateM (System σ × Mbox) α

/-- A stage is executed, and goes on record. -/
def stage (st : Stage) : StandbyM σ ℤ := fun (s, b) =>
  let r := exec P st { s with wakeupSource := P.irq st s.plat s.wakeupSource } b
  (r.1, { r.2.1 with trace := r.2.1.trace ++ [(st, r.1)] }, r.2.2)

def setSuspendLock (value : UInt32) : StandbyM σ Unit := fun (s, b) =>
  ((), { s with suspendLock := value }, b)

def setWakeupSource (value : UInt32) : StandbyM σ Unit := fun (s, b) =>
  ((), { s with wakeupSource := value }, b)

def standbyProcessInit : StandbyM σ ℤ := do
  setSuspendLock 1
  let _ ← stage P .suspendParaPrepare
  let _ ← stage P .cpucfgCpuSuspend
  let _ ← stage P .deviceSuspend
  let _ ← stage P .cpuPllOff
  let _ ← stage P .dramSuspend
  let _ ← stage P .cpuDirectAccessSuspend
  let _ ← stage P .clkSuspend
  let _ ← stage P .systemSuspend
  let _ ← stage P .clkSuspendLate
  let _ ← stage P .rtcVccioDetSuspend
  let ret ← stage P .dmSuspend
  if ret ≠ 0 then pure ret else pure 0

/-- `first_error` after a stage that returned `ret`. -/
def keepFirst (firstError ret : ℤ) : ℤ := if ret ≠ 0 ∧ firstError = 0 then ret else firstError

def standbyProcessExit (m : Message) (waitRestore : Bool) : StandbyM σ ℤ := do
  let resumeEntry := m.para 1
  let ret ← stage P .dmResume
  let firstError := keepFirst 0 ret
  let _ ← stage P .rtcVccioDetResume
  let _ ← stage P .clkResumeEarly
  let _ ← stage P .systemResume
  let ret ← stage P .ppuResume
  let firstError := keepFirst firstError ret
  let ret ← stage P .clkResume
  let firstError := keepFirst firstError ret
  let _ ← stage P .cpuDirectAccessResume
  let ret ← stage P .dramResume
  let firstError := keepFirst firstError ret
  let _ ← stage P .nsiResume
  let ret ← stage P .cpuPllOn
  let firstError := keepFirst firstError ret
  let ret ← stage P .deviceResume
  let firstError := keepFirst firstError ret
  let _ ← stage P (.cpucfgCpuResume resumeEntry)
  if waitRestore then
    let ret ← stage P .waitCpu0Resume
    let firstError := keepFirst firstError ret
    setSuspendLock 0
    pure firstError
  else
    setWakeupSource noWakesource
    setSuspendLock 0
    pure firstError

/-- The loop is left at once if an interrupt has come already. -/
def waitWakeup : StandbyM σ Unit := fun (s, b) =>
  ((), { s with
    wakeupSource := if s.wakeupSource ≠ noWakesource then s.wakeupSource else P.wakeup s.plat }, b)

/-- The parse of the parameters, as a step of a standby. -/
def parseStep : StandbyM σ ℤ := fun (s, b) =>
  let r := standbyDtsParse P.fdt P.mem s.dtbBase s.param
  (r.1, { s with param := r.2 }, b)

/-- The test that opens `standby_entry`; the parse is tried only if the parameters of the
DRAM are there. -/
def gate : StandbyM σ Bool := fun (s, b) =>
  match s.platformDramPara with
  | none => (false, s, b)
  | some _ => ((parseStep P (s, b)).1 = 0, (parseStep P (s, b)).2)

def standbyEntry (m : Message) : StandbyM σ ℤ := do
  let complete ← gate P
  if complete = false then pure (-eAcces)
  else
    let _ ← stage P .ioscFreqInit
    let _ ← stage P .platformStandbyType
    setWakeupSource noWakesource
    let result ← standbyProcessInit P
    if result ≠ 0 then
      let suspendResult := result
      let _ ← standbyProcessExit P m false
      pure suspendResult
    else
      waitWakeup P
      standbyProcessExit P m true

end Code

/-! ### Runs of stages -/

/-- The stages of the two halves, in order. -/
def suspendStages : List Stage :=
  [.suspendParaPrepare, .cpucfgCpuSuspend, .deviceSuspend, .cpuPllOff, .dramSuspend,
    .cpuDirectAccessSuspend, .clkSuspend, .systemSuspend, .clkSuspendLate,
    .rtcVccioDetSuspend, .dmSuspend]

def resumeStages (resumeEntry : UInt32) : List Stage :=
  [.dmResume, .rtcVccioDetResume, .clkResumeEarly, .systemResume, .ppuResume, .clkResume,
    .cpuDirectAccessResume, .dramResume, .nsiResume, .cpuPllOn, .deviceResume,
    .cpucfgCpuResume resumeEntry]

/-- The stages of the resume after a wakeup, or after a suspend that failed. -/
def exitStages (resumeEntry : UInt32) (waitRestore : Bool) : List Stage :=
  resumeStages resumeEntry ++ if waitRestore then [.waitCpu0Resume] else []

/-- The first error among the results that are looked at, if `firstError` came before. -/
def failureFrom (firstError : ℤ) (l : List (Stage × ℤ)) : ℤ :=
  ((l.filter fun e => e.1.fallible).map Prod.snd).foldl keepFirst firstError

section Runs

variable {σ : Type} (P : Platform σ)

/-- Stages one after the other, with their results. -/
def runStages : List Stage → StandbyM σ (List (Stage × ℤ))
  | [] => pure []
  | st :: l => do
      let ret ← stage P st
      let rest ← runStages l
      pure ((st, ret) :: rest)

lemma runStages_stages (l : List Stage) (s : System σ × Mbox) :
    (runStages P l s).1.map Prod.fst = l := by
  induction l generalizing s with
  | nil => rfl
  | cons st l ih => exact congrArg (st :: ·) (ih _)

/-- A stage leaves `suspend_lock` and the record alone. -/
lemma exec_keeps (st : Stage) (s : System σ) (b : Mbox) :
    (exec P st s b).2.1.trace = s.trace ∧ (exec P st s b).2.1.suspendLock = s.suspendLock := by
  cases st <;> exact ⟨rfl, rfl⟩

/-- Stages one after the other leave exactly themselves on record. -/
lemma runStages_trace (l : List Stage) (s : System σ × Mbox) :
    (runStages P l s).2.1.trace = s.1.trace ++ (runStages P l s).1 ∧
    (runStages P l s).2.1.suspendLock = s.1.suspendLock := by
  induction l generalizing s with
  | nil => exact ⟨(List.append_nil _).symm, rfl⟩
  | cons st l ih =>
      obtain ⟨htrace, hlock⟩ := ih (stage P st s).2
      obtain ⟨hkept, hkept'⟩ := exec_keeps P st
        { s.1 with wakeupSource := P.irq st s.1.plat s.1.wakeupSource } s.2
      have hone : (stage P st s).2.1.trace = s.1.trace ++ [(st, (stage P st s).1)] :=
        congrArg (· ++ [(st, (stage P st s).1)]) hkept
      refine ⟨?_, hlock.trans hkept'⟩
      calc (runStages P (st :: l) s).2.1.trace
          = (stage P st s).2.1.trace ++ (runStages P l (stage P st s).2).1 := htrace
        _ = s.1.trace ++ (runStages P (st :: l) s).1 := by
          rw [hone, List.append_assoc]
          rfl

/-- The program runs the stages `l` and then `fin`, and returns the first error, where
`firstError` came before. -/
def Follows (l : List Stage) (firstError : ℤ) (fin : StandbyM σ Unit) (p : StandbyM σ ℤ) : Prop :=
  ∀ s, p s = (failureFrom firstError (runStages P l s).1, (fin (runStages P l s).2).2)

variable {P}

lemma Follows.done (firstError : ℤ) (fin : StandbyM σ Unit) :
    Follows P [] firstError fin (do fin; pure firstError) := fun _ => rfl

lemma Follows.after {l : List Stage} {firstError : ℤ} {fin : StandbyM σ Unit} {k : StandbyM σ ℤ}
    (start : StandbyM σ Unit) (h : Follows P l firstError fin k) (s : System σ × Mbox) :
    (start >>= fun _ => k) s =
      (failureFrom firstError (runStages P l (start s).2).1,
        (fin (runStages P l (start s).2).2).2) :=
  h (start s).2

/-- A stage whose result is looked at. -/
lemma Follows.checked {st : Stage} {l : List Stage} {firstError : ℤ} {fin : StandbyM σ Unit}
    {k : ℤ → StandbyM σ ℤ} (hst : st.fallible = true)
    (h : ∀ ret, Follows P l (keepFirst firstError ret) fin (k ret)) :
    Follows P (st :: l) firstError fin (stage P st >>= k) := by
  intro s
  rw [bind_apply, h _ _, runStages, bind_apply, bind_apply, pure_apply]
  simp only [failureFrom, List.filter_cons, hst, if_true, List.map_cons, List.foldl_cons]

/-- A stage that cannot fail. -/
lemma Follows.unchecked {st : Stage} {l : List Stage} {firstError : ℤ} {fin : StandbyM σ Unit}
    {k : StandbyM σ ℤ} (hst : st.fallible = false) (h : Follows P l firstError fin k) :
    Follows P (st :: l) firstError fin (stage P st >>= fun _ => k) := by
  intro s
  rw [bind_apply, h _, runStages, bind_apply, bind_apply, pure_apply]
  simp only [failureFrom, List.filter_cons, hst, Bool.false_eq_true, if_false]

/-- What `standby_process_exit` does last. -/
def exitEnd (waitRestore : Bool) : StandbyM σ Unit := do
  if waitRestore then pure () else setWakeupSource noWakesource
  setSuspendLock 0

variable (P)

lemma standbyProcessInit_eq (s : System σ × Mbox) :
    standbyProcessInit P s =
      (failureFrom 0 (runStages P suspendStages (setSuspendLock 1 s).2).1,
        ((pure () : StandbyM σ Unit) (runStages P suspendStages (setSuspendLock 1 s).2).2).2) := by
  have hlast : ∀ ret : ℤ, Follows P [] (keepFirst 0 ret) (pure ())
      (if ret ≠ 0 then pure ret else pure 0 : StandbyM σ ℤ) := by
    intro ret s
    by_cases h : ret = 0
    · rw [keepFirst, if_neg (not_not.mpr h), if_neg fun h' => h'.1 h]
      rfl
    · rw [keepFirst, if_pos h, if_pos ⟨h, rfl⟩]
      rfl
  rw [standbyProcessInit]
  refine Follows.after (setSuspendLock 1) ?_ s
  iterate 10 refine Follows.unchecked rfl ?_
  exact Follows.checked rfl hlast

lemma standbyProcessExit_follows (m : Message) (waitRestore : Bool) :
    Follows P (exitStages (m.para 1) waitRestore) 0 (exitEnd waitRestore)
      (standbyProcessExit P m waitRestore) := by
  refine Follows.checked rfl fun ret => ?_
  refine Follows.unchecked rfl (Follows.unchecked rfl (Follows.unchecked rfl ?_))
  refine Follows.checked rfl fun ret => Follows.checked rfl fun ret => ?_
  refine Follows.unchecked rfl (Follows.checked rfl fun ret => Follows.unchecked rfl ?_)
  refine Follows.checked rfl fun ret => Follows.checked rfl fun ret => Follows.unchecked rfl ?_
  cases waitRestore with
  | true => exact Follows.checked rfl fun _ => Follows.done _ _
  | false => exact Follows.done _ _

lemma runStages_append (l l' : List Stage) (s : System σ × Mbox) :
    runStages P (l ++ l') s =
      ((runStages P l s).1 ++ (runStages P l' (runStages P l s).2).1,
        (runStages P l' (runStages P l s).2).2) := by
  induction l generalizing s with
  | nil => rfl
  | cons st l ih =>
      rw [List.cons_append, runStages, bind_apply, bind_apply, ih, runStages,
        bind_apply, bind_apply]
      rfl

lemma exitEnd_spec (waitRestore : Bool) (s : System σ × Mbox) :
    (exitEnd waitRestore s).2.1.suspendLock = 0 ∧ (exitEnd waitRestore s).2.1.trace = s.1.trace ∧
    (exitEnd waitRestore s).2.1.wakeupSource =
      if waitRestore then s.1.wakeupSource else noWakesource := by
  cases waitRestore <;> exact ⟨rfl, rfl, rfl⟩

lemma waitCpu0Resume_wakeupSource (s : System σ × Mbox) :
    (runStages P [.waitCpu0Resume] s).2.1.wakeupSource = noWakesource := rfl

/-- However a resume ends, no reason for a wakeup is left, and the lock is open. -/
lemma standbyProcessExit_end (m : Message) (waitRestore : Bool) (s : System σ × Mbox) :
    (standbyProcessExit P m waitRestore s).2.1.wakeupSource = noWakesource ∧
    (standbyProcessExit P m waitRestore s).2.1.suspendLock = 0 ∧
    (standbyProcessExit P m waitRestore s).2.1.trace =
      s.1.trace ++ (runStages P (exitStages (m.para 1) waitRestore) s).1 := by
  obtain ⟨htrace, -⟩ := runStages_trace P (exitStages (m.para 1) waitRestore) s
  obtain ⟨hlock, hkept, hsource⟩ := exitEnd_spec waitRestore
    (runStages P (exitStages (m.para 1) waitRestore) s).2
  rw [standbyProcessExit_follows P m waitRestore s]
  refine ⟨hsource.trans ?_, hlock, hkept.trans htrace⟩
  cases waitRestore with
  | true => rw [if_pos rfl, exitStages, if_pos rfl, runStages_append, waitCpu0Resume_wakeupSource]
  | false => rw [if_neg Bool.false_ne_true]

end Runs

/-! ### A standby is balanced -/

/-- The stage of the resume that undoes a stage of the suspend. -/
def Stage.counterpart (resumeEntry : UInt32) : Stage → Option Stage
  | cpucfgCpuSuspend => some (cpucfgCpuResume resumeEntry)
  | deviceSuspend => some deviceResume
  | cpuPllOff => some cpuPllOn
  | dramSuspend => some dramResume
  | cpuDirectAccessSuspend => some cpuDirectAccessResume
  | clkSuspend => some clkResume
  | systemSuspend => some systemResume
  | clkSuspendLate => some clkResumeEarly
  | rtcVccioDetSuspend => some rtcVccioDetResume
  | dmSuspend => some dmResume
  | _ => none

/-- The first result other than zero among those that are looked at. -/
def firstFailure (l : List (Stage × ℤ)) : ℤ :=
  (((l.filter fun e => e.1.fallible).map Prod.snd).find? (· ≠ 0)).getD 0

lemma foldl_keepFirst (l : List ℤ) (firstError : ℤ) :
    l.foldl keepFirst firstError =
      if firstError ≠ 0 then firstError else (l.find? (· ≠ 0)).getD 0 := by
  induction l generalizing firstError with
  | nil =>
      rw [List.foldl_nil, List.find?_nil, Option.getD_none]
      split_ifs with h
      · rfl
      · exact not_not.mp h
  | cons ret l ih =>
      rw [List.foldl_cons, ih, List.find?_cons]
      by_cases hfirst : firstError = 0
      · have hkeep : keepFirst firstError ret = ret := by
          rw [keepFirst]
          split_ifs with h
          · rfl
          · rw [hfirst]
            by_contra hne
            exact h ⟨Ne.symm hne, hfirst⟩
        rw [hkeep, if_neg (not_not.mpr hfirst)]
        by_cases hret : ret = 0
        · rw [if_neg (not_not.mpr hret), decide_eq_false (not_not.mpr hret)]
        · rw [if_pos hret, decide_eq_true hret]
          rfl
      · have hkeep : keepFirst firstError ret = firstError := if_neg fun h => hfirst h.2
        rw [hkeep, if_pos hfirst, if_pos hfirst]

lemma failureFrom_zero (l : List (Stage × ℤ)) : failureFrom 0 l = firstFailure l := by
  rw [failureFrom, foldl_keepFirst, if_neg (not_not.mpr rfl), firstFailure]

/-- The result of a suspend is that of its last stage. -/
lemma failureFrom_suspendStages {l : List (Stage × ℤ)} (h : l.map Prod.fst = suspendStages) :
    (Stage.dmSuspend, failureFrom 0 l) ∈ l := by
  have hsplit : suspendStages = suspendStages.dropLast ++ [.dmSuspend] := rfl
  rw [hsplit] at h
  obtain ⟨l₁, l₂, rfl, h₁, h₂⟩ := List.map_eq_append_iff.mp h
  obtain ⟨⟨st, ret⟩, rfl⟩ : ∃ e, l₂ = [e] := by
    have hlen := congrArg List.length h₂
    rw [List.length_map] at hlen
    exact List.length_eq_one_iff.mp hlen
  obtain rfl : st = .dmSuspend := (List.cons.inj h₂).1
  have hvoid : ∀ st ∈ suspendStages.dropLast, st.fallible = false := by decide
  have hnone : l₁.filter (fun e => e.1.fallible) = [] := by
    refine List.filter_eq_nil_iff.mpr fun e he => ?_
    rw [hvoid e.1 (h₁ ▸ List.mem_map_of_mem he)]
    exact Bool.false_ne_true
  have hret : failureFrom 0 (l₁ ++ [(.dmSuspend, ret)]) = ret := by
    have hkeep : failureFrom 0 (l₁ ++ [(.dmSuspend, ret)]) = keepFirst 0 ret := by
      rw [failureFrom, List.filter_append, hnone]
      rfl
    by_cases hzero : ret = 0
    · rw [hkeep, keepFirst, if_neg fun h => h.1 hzero, hzero]
    · rw [hkeep, keepFirst, if_pos ⟨hzero, rfl⟩]
  rw [hret]
  exact List.mem_append_right _ List.mem_cons_self

/-- A standby that ran from `s` to `s'` and returned `ret`: after the preparation, the
stages of the suspend with their results `init`, and then those of the resume with their
results `exit`. -/
structure Balanced {σ : Type} (resumeEntry : UInt32) (s s' : System σ) (ret : ℤ)
    (init exit : List (Stage × ℤ)) (dmRet : ℤ) : Prop where
  trace : ∃ prepare, prepare.map Prod.fst = [Stage.ioscFreqInit, Stage.platformStandbyType] ∧
    s'.trace = s.trace ++ prepare ++ init ++ exit
  suspended : init.map Prod.fst = suspendStages
  dmSuspended : (.dmSuspend, dmRet) ∈ init
  resumed : exit.map Prod.fst = exitStages resumeEntry (dmRet = 0)
  once : ∀ st ∈ init.map Prod.fst, ∀ st', st.counterpart resumeEntry = some st' →
    (exit.map Prod.fst).count st' = 1
  reversed : ((init.map Prod.fst).filterMap (Stage.counterpart resumeEntry)).reverse.Sublist
    (exit.map Prod.fst)
  lock : s'.suspendLock = 0
  source : s'.wakeupSource = noWakesource
  result : ret = if dmRet ≠ 0 then dmRet else firstFailure exit

lemma counterparts_sublist (resumeEntry : UInt32) (waitRestore : Bool) :
    (suspendStages.filterMap (Stage.counterpart resumeEntry)).reverse.Sublist
      (exitStages resumeEntry waitRestore) := by
  refine List.Sublist.trans ?_ (List.sublist_append_left _ _)
  -- all but `ppu_resume` and `nsi_resume`, in the order of the resume
  have hrest : [Stage.cpuPllOn, .deviceResume, .cpucfgCpuResume resumeEntry].Sublist
      [.nsiResume, .cpuPllOn, .deviceResume, .cpucfgCpuResume resumeEntry] := .cons _ (.refl _)
  have hlater : [Stage.clkResume, .cpuDirectAccessResume, .dramResume, .cpuPllOn, .deviceResume,
      .cpucfgCpuResume resumeEntry].Sublist
      [.ppuResume, .clkResume, .cpuDirectAccessResume, .dramResume, .nsiResume,
      .cpuPllOn, .deviceResume,
        .cpucfgCpuResume resumeEntry] := .cons _ (.cons_cons _ (.cons_cons _ (.cons_cons _ hrest)))
  exact .cons_cons _ (.cons_cons _ (.cons_cons _ (.cons_cons _ hlater)))

lemma exitStages_nodup (resumeEntry : UInt32) (waitRestore : Bool) :
    (exitStages resumeEntry waitRestore).Nodup := by
  cases waitRestore <;> simp [exitStages, resumeStages]

/-- Every stage of the suspend has its counterpart exactly once among those of the resume. -/
lemma counterpart_once {st st' : Stage} (hst : st ∈ suspendStages) (resumeEntry : UInt32)
    (waitRestore : Bool)
    (h : st.counterpart resumeEntry = some st') :
    (exitStages resumeEntry waitRestore).count st' = 1 := by
  have hmem : st' ∈ (suspendStages.filterMap (Stage.counterpart resumeEntry)).reverse :=
    List.mem_reverse.mpr (List.mem_filterMap.mpr ⟨st, hst, h⟩)
  exact List.count_eq_one_of_mem (exitStages_nodup resumeEntry waitRestore)
    ((counterparts_sublist resumeEntry waitRestore).subset hmem)

section Entry

variable {σ : Type} (P : Platform σ)

/-- What a standby does from the gate to the wait for a wakeup. -/
def suspendHalf : StandbyM σ ℤ := do
  let _ ← stage P .ioscFreqInit
  let _ ← stage P .platformStandbyType
  setWakeupSource noWakesource
  standbyProcessInit P

lemma standbyEntry_suspendHalf (m : Message) (s : System σ × Mbox) (hgate : (gate P s).1 = true) :
    standbyEntry P m s =
      if (suspendHalf P (gate P s).2).1 ≠ 0 then
        ((suspendHalf P (gate P s).2).1,
          (standbyProcessExit P m false (suspendHalf P (gate P s).2).2).2)
      else standbyProcessExit P m true (waitWakeup P (suspendHalf P (gate P s).2).2).2 := by
  rw [standbyEntry, bind_apply, ite_apply', hgate, if_neg Bool.false_ne_true.symm,
    bind_apply, bind_apply,
    bind_apply, bind_apply, ite_apply', bind_apply, bind_apply, pure_apply]
  rfl

lemma standbyEntry_passed (m : Message) (s : System σ × Mbox) (hgate : (gate P s).1 = true) :
    ∃ (s₁ : System σ × Mbox) (prepare : List (Stage × ℤ)),
      prepare.map Prod.fst = [Stage.ioscFreqInit, Stage.platformStandbyType] ∧
      s₁.1.trace = (gate P s).2.1.trace ++ prepare ∧
      ∃ r, r = standbyProcessInit P (setWakeupSource noWakesource s₁).2 ∧
      standbyEntry P m s =
        if r.1 ≠ 0 then (r.1, (standbyProcessExit P m false r.2).2)
        else standbyProcessExit P m true (waitWakeup P r.2).2 := by
  obtain ⟨htrace, -⟩ := runStages_trace P [.ioscFreqInit, .platformStandbyType] (gate P s).2
  have hstages := runStages_stages P [.ioscFreqInit, .platformStandbyType] (gate P s).2
  exact ⟨_, _, hstages, htrace, _, rfl, standbyEntry_suspendHalf P m s hgate⟩

lemma standbyEntry_refused (m : Message) (s : System σ × Mbox) (hgate : (gate P s).1 = false) :
    standbyEntry P m s = (-eAcces, (gate P s).2) := by
  rw [standbyEntry, bind_apply, ite_apply', hgate, if_pos rfl, pure_apply]

lemma gate_eq (s : System σ) (b : Mbox) :
    ∃ param, (gate P (s, b)).2 = ({ s with param := param }, b) := by
  cases h : s.platformDramPara with
  | none =>
      simp only [gate, h]
      exact ⟨s.param, by rw [← h]⟩
  | some para =>
      simp only [gate, h]
      exact ⟨_, by rw [← h]; rfl⟩

/-- A suspend returns the result of `dm_suspend`, and leaves its stages on record. -/
lemma standbyProcessInit_spec (s : System σ × Mbox) :
    ∃ init, init.map Prod.fst = suspendStages ∧ (.dmSuspend, (standbyProcessInit P s).1) ∈ init ∧
      (standbyProcessInit P s).2.1.trace = s.1.trace ++ init := by
  obtain ⟨htrace, -⟩ := runStages_trace P suspendStages (setSuspendLock 1 s).2
  have hstages := runStages_stages P suspendStages (setSuspendLock 1 s).2
  rw [standbyProcessInit_eq]
  generalize runStages P suspendStages (setSuspendLock 1 s).2 = r at htrace hstages ⊢
  exact ⟨r.1, hstages, failureFrom_suspendStages hstages, htrace⟩

/-- A resume returns the first error of its stages, and leaves them on record. -/
lemma standbyProcessExit_spec (m : Message) (waitRestore : Bool) (s : System σ × Mbox) :
    ∃ exit, exit.map Prod.fst = exitStages (m.para 1) waitRestore ∧
      (standbyProcessExit P m waitRestore s).1 = firstFailure exit ∧
      (standbyProcessExit P m waitRestore s).2.1.wakeupSource = noWakesource ∧
      (standbyProcessExit P m waitRestore s).2.1.suspendLock = 0 ∧
      (standbyProcessExit P m waitRestore s).2.1.trace = s.1.trace ++ exit := by
  obtain ⟨hsource, hlock, htrace⟩ := standbyProcessExit_end P m waitRestore s
  refine ⟨_, runStages_stages P (exitStages (m.para 1) waitRestore) s, ?_, hsource, hlock, htrace⟩
  rw [standbyProcessExit_follows P m waitRestore s, failureFrom_zero]

/-- After a suspend, a standby is a resume from the same record, which waits for the
processor if the suspend succeeded. -/
lemma standbyEntry_exit (m : Message) {s : System σ × Mbox} {r : ℤ × System σ × Mbox}
    (h : standbyEntry P m s =
      if r.1 ≠ 0 then (r.1, (standbyProcessExit P m false r.2).2)
      else standbyProcessExit P m true (waitWakeup P r.2).2) :
    ∃ x : System σ × Mbox, x.1.trace = r.2.1.trace ∧
      (standbyEntry P m s).2 = (standbyProcessExit P m (r.1 = 0) x).2 ∧
      (standbyEntry P m s).1 = if r.1 ≠ 0 then r.1 else (standbyProcessExit P m (r.1 = 0) x).1 := by
  by_cases hret : r.1 = 0
  · rw [if_neg (not_not.mpr hret)] at h
    refine ⟨(waitWakeup P r.2).2, rfl, ?_, ?_⟩
    · rw [h, decide_eq_true hret]
    · rw [h, decide_eq_true hret, if_neg (not_not.mpr hret)]
  · rw [if_pos hret] at h
    refine ⟨r.2, rfl, ?_, ?_⟩
    · rw [h, decide_eq_false hret]
    · rw [h, if_pos hret]

/-- **A standby is balanced.** Whatever the stages return, a request that passes the gate
runs all stages of the suspend and then their counterparts, each once and in the reverse
order, and returns the error of the first stage that failed, that of `dm_suspend` before all
others; a request that does not pass changes no more than the parameters of the tree. -/
theorem standbyEntry_balanced (m : Message) (s : System σ) (b : Mbox) :
    ((gate P (s, b)).1 = true → ∃ init exit dmRet,
      Balanced (m.para 1) s (standbyEntry P m (s, b)).2.1 (standbyEntry P m (s, b)).1
        init exit dmRet) ∧
    ((gate P (s, b)).1 = false → ∃ param,
      standbyEntry P m (s, b) = (-eAcces, { s with param := param }, b)) := by
  obtain ⟨param, hparam⟩ := gate_eq P s b
  refine ⟨fun hgate => ?_, fun hgate => ⟨param, ?_⟩⟩
  · obtain ⟨s₁, prepare, hprepare, hprepared, r, hr, hentry⟩ := standbyEntry_passed P m (s, b) hgate
    have hkept : (gate P (s, b)).2.1.trace = s.trace := by rw [hparam]
    obtain ⟨init, hinit, hdm, hsuspended⟩ :=
      standbyProcessInit_spec P (setWakeupSource noWakesource s₁).2
    rw [← hr] at hdm hsuspended
    have hbefore : r.2.1.trace = s.trace ++ prepare ++ init := by
      rw [hsuspended, ← hkept, ← hprepared]
      rfl
    obtain ⟨x, hx, hend, hret⟩ := standbyEntry_exit P m hentry
    obtain ⟨exit, hexit, hresult, hsource, hlock, htrace⟩ := standbyProcessExit_spec P m (r.1 = 0) x
    refine ⟨init, exit, r.1, ⟨prepare, hprepare, ?_⟩, hinit, hdm, hexit, ?_, ?_, ?_, ?_, ?_⟩
    · rw [hend, htrace, hx, hbefore]
    · intro st hst st' h
      rw [hinit] at hst
      rw [hexit]
      exact counterpart_once hst (m.para 1) (r.1 = 0) h
    · rw [hinit, hexit]
      exact counterparts_sublist (m.para 1) (r.1 = 0)
    · rw [hend, hlock]
    · rw [hend, hsource]
    · rw [hret, hresult]
  · rw [standbyEntry_refused P m (s, b) hgate, hparam]

end Entry

/-! ### The message box in a standby -/

section Box

variable {σ : Type} (P : Platform σ)

/-- A standby comes to the wait for the processor: the gate is open, and the suspend succeeds. -/
def SuspendSucceeds (s : System σ) (b : Mbox) : Prop :=
  (gate P (s, b)).1 = true ∧ (suspendHalf P (gate P (s, b)).2).1 = 0

/-- The program neither uses the message box nor changes it. -/
def Boxless {α : Type} (p : StandbyM σ α) : Prop :=
  ∃ f : System σ → α × System σ, ∀ s b, p (s, b) = ((f s).1, (f s).2, b)

variable {P} {α β : Type} {p : StandbyM σ α}

lemma Boxless.pure (a : α) : Boxless (pure a : StandbyM σ α) := ⟨fun s => (a, s), fun _ _ => rfl⟩

lemma Boxless.bind {k : α → StandbyM σ β} (hp : Boxless p) (hk : ∀ a, Boxless (k a)) :
    Boxless (p >>= k) := by
  obtain ⟨f, hf⟩ := hp
  choose g hg using hk
  refine ⟨fun s => g (f s).1 (f s).2, fun s b => ?_⟩
  rw [bind_apply, hf, hg]

lemma Boxless.box (hp : Boxless p) (s : System σ × Mbox) : (p s).2.2 = s.2 := by
  obtain ⟨f, hf⟩ := hp
  obtain ⟨s, b⟩ := s
  rw [hf]

lemma setWakeupSource_boxless (value : UInt32) : Boxless (σ := σ) (setWakeupSource value) :=
  ⟨fun s => ((), { s with wakeupSource := value }), fun _ _ => rfl⟩

lemma setSuspendLock_boxless (value : UInt32) : Boxless (σ := σ) (setSuspendLock value) :=
  ⟨fun s => ((), { s with suspendLock := value }), fun _ _ => rfl⟩

variable (P)

/-- Only the wait for the processor uses the message box. -/
lemma stage_boxless {st : Stage} (hst : st ≠ .waitCpu0Resume) : Boxless (stage P st) := by
  let f (s : System σ) : ℤ × System σ :=
    let r := exec P st { s with wakeupSource := P.irq st s.plat s.wakeupSource } (Mbox.holding 0 [])
    (r.1, { r.2.1 with trace := r.2.1.trace ++ [(st, r.1)] })
  refine ⟨f, fun s b => ?_⟩
  cases st with
  | waitCpu0Resume => exact absurd rfl hst
  | _ => rfl

lemma runStages_boxless {l : List Stage} (hl : .waitCpu0Resume ∉ l) : Boxless (runStages P l) := by
  induction l with
  | nil => exact Boxless.pure []
  | cons st l ih =>
      have hst : st ≠ .waitCpu0Resume := fun h => hl (h ▸ List.mem_cons_self)
      exact (stage_boxless P hst).bind fun _ =>
        (ih fun h => hl (List.mem_cons_of_mem st h)).bind fun _ => Boxless.pure _

lemma gate_boxless : Boxless (gate P) := by
  refine ⟨fun s => ((gate P (s, Mbox.holding 0 [])).1, (gate P (s, Mbox.holding 0 [])).2.1),
    fun s b => ?_⟩
  cases h : s.platformDramPara with
  | none => simp only [gate, h]
  | some para =>
      simp only [gate, h]
      rfl

lemma suspendHalf_boxless : Boxless (suspendHalf P) := by
  have hinit : Boxless (standbyProcessInit P) := by
    obtain ⟨f, hf⟩ := (setSuspendLock_boxless 1).bind fun _ =>
      runStages_boxless P (l := suspendStages) (by decide)
    refine ⟨fun s => (failureFrom 0 (f s).1, (f s).2), fun s b => ?_⟩
    have hrun := hf s b
    rw [bind_apply] at hrun
    rw [standbyProcessInit_eq, hrun]
    rfl
  exact (stage_boxless P (by decide)).bind fun _ => (stage_boxless P (by decide)).bind fun _ =>
    (setWakeupSource_boxless _).bind fun _ => hinit

/-- Whether a standby suspends is no matter of the message box. -/
lemma suspendSucceeds_box (s : System σ) (b b' : Mbox) :
    SuspendSucceeds P s b ↔ SuspendSucceeds P s b' := by
  obtain ⟨f, hf⟩ := gate_boxless P
  obtain ⟨g, hg⟩ := suspendHalf_boxless P
  rw [SuspendSucceeds, SuspendSucceeds, hf, hf, hg, hg]

lemma resumeStages_noWait (resumeEntry : UInt32) : .waitCpu0Resume ∉ resumeStages resumeEntry := by
  simp [resumeStages]

lemma waitCpu0Resume_box (s : System σ × Mbox) :
    (runStages P [.waitCpu0Resume] s).2.2 =
      (waitCpu0Resume (P.irq .waitCpu0Resume s.1.plat s.1.wakeupSource) s.2).2.2 := rfl

lemma exitEnd_box (waitRestore : Bool) (s : System σ × Mbox) :
    (exitEnd waitRestore s).2.2 = s.2 := by
  cases waitRestore <;> rfl

/-- A resume uses the message box only if it waits for the processor. -/
lemma standbyProcessExit_box (m : Message) (s : System σ × Mbox) :
    (standbyProcessExit P m false s).2.2 = s.2 ∧
    ∃ wakeupSource,
      (standbyProcessExit P m true s).2.2 = (waitCpu0Resume wakeupSource s.2).2.2 := by
  have hresume := (runStages_boxless P (resumeStages_noWait (m.para 1))).box s
  constructor
  · rw [standbyProcessExit_follows P m false s, exitEnd_box, exitStages, if_neg Bool.false_ne_true,
      List.append_nil, hresume]
  · rw [standbyProcessExit_follows P m true s, exitEnd_box, exitStages, if_pos rfl,
      runStages_append, waitCpu0Resume_box, hresume]
    exact ⟨_, rfl⟩

/-- **The message box in a standby.** It is used in the wait for the processor only, and a
standby comes to that wait exactly if it suspends. -/
theorem standbyEntry_box (m : Message) (s : System σ) (b : Mbox) :
    (¬SuspendSucceeds P s b ∧ (standbyEntry P m (s, b)).2.2 = b) ∨
    (SuspendSucceeds P s b ∧ ∃ wakeupSource,
      (standbyEntry P m (s, b)).2.2 = (waitCpu0Resume wakeupSource b).2.2) := by
  have hgated : (gate P (s, b)).2.2 = b := (gate_boxless P).box (s, b)
  have hhalf := (suspendHalf_boxless P).box (gate P (s, b)).2
  rw [hgated] at hhalf
  cases hgate : (gate P (s, b)).1 with
  | false =>
      refine Or.inl ⟨fun h => Bool.false_ne_true (hgate.symm.trans h.1), ?_⟩
      rw [standbyEntry_refused P m (s, b) hgate]
      exact hgated
  | true =>
      rw [standbyEntry_suspendHalf P m (s, b) hgate]
      by_cases hret : (suspendHalf P (gate P (s, b)).2).1 = 0
      · rw [if_neg (not_not.mpr hret)]
        obtain ⟨-, wakeupSource, hbox⟩ := standbyProcessExit_box P m
          (waitWakeup P (suspendHalf P (gate P (s, b)).2).2).2
        refine Or.inr ⟨⟨hgate, hret⟩, wakeupSource, hbox.trans ?_⟩
        have hwait : (waitWakeup P (suspendHalf P (gate P (s, b)).2).2).2.2 = b := hhalf
        rw [hwait]
      · rw [if_pos hret]
        refine Or.inl ⟨fun h => hret h.2, ?_⟩
        exact (standbyProcessExit_box P m _).1.trans hhalf

end Box

/-- A platform on which the CPU PLLs do not lock again, with a tree that has every cell. -/
def stuckPlatform : Platform Unit where
  fdt := ⟨fun _ _ => 0, fun _ _ _ => .ok (0, 4)⟩
  mem := fun _ => 0
  pmu := fun _ _ _ => 0
  dram := fun _ _ => 0
  dramPowerSaveProcess := fun _ _ => ()
  dramPowerUpProcess := fun _ _ => ()
  run := fun st _ _ => (if st = .cpuPllOn then -eTimeout else 0, ())
  irq := fun _ _ w => w
  wakeup := fun _ => ⟨6, by decide⟩

/-- A system at reset whose tree had the parameters of the DRAM. -/
def resetSystem (para : List ℕ) : System Unit :=
  ⟨0, 0, .init, 0x48100000, some para, .init, .init, (), [], []⟩

theorem standbyEntry_balanced_stuck :
    (gate stuckPlatform (resetSystem [], Mbox.holding 0 [])).1 = true ∧
    ∃ init exit dmRet, Balanced 0x48000000 (resetSystem [])
      (standbyEntry stuckPlatform ⟨0, 0, cpuOpReq, 0, 5, some fun _ => 0x48000000⟩
        (resetSystem [], Mbox.holding 0 [])).2.1
      (standbyEntry stuckPlatform ⟨0, 0, cpuOpReq, 0, 5, some fun _ => 0x48000000⟩
        (resetSystem [], Mbox.holding 0 [])).1 init exit dmRet := by
  have hgate : (gate stuckPlatform (resetSystem [], Mbox.holding 0 [])).1 = true := by decide
  exact ⟨hgate, (standbyEntry_balanced stuckPlatform
    ⟨0, 0, cpuOpReq, 0, 5, some fun _ => 0x48000000⟩
    (resetSystem []) (Mbox.holding 0 [])).1 hgate⟩

end A733Boot.Ar100s.Standby
