/-
The commands of the rails over the two-wire interface: `axp8191_pmu_set_voltage_state` of
`ar100s/driver/pmu/pmu_axp8191.c` with `pmu_reg_read` and `pmu_reg_write` of
`ar100s/driver/pmu/pmu-sun60iw2p1/pmu.c`, on the controller and the devices behind it.

* `axp8191PmuSetVoltageStateTwi`: the read-modify-write by two transfers of a byte, which lies in
  the buffers of the caller;
* `busAnswer`: how the transfers of a command go;
* `setVoltageState_leads`: one command;
* `rails_over_twi` (**refinement**): any sequence of commands is answered, and changes the
  registers of the PMIC, as the commands of the rails are; no other device is touched.
-/
import A733Boot.Ar100s.TwiBank
import A733Boot.Ar100s.Standby.RailBits

namespace A733Boot.Ar100s.Standby

open Twi

/-! ### The code -/

def rsbRtsaddrAxp8191 : UInt8 := 0x36

section Code

variable {σ : Type} (h : Hardware σ) (lock : Bool)

def pmuRegWrite (devaddr regaddr : UInt8) (data : ℕ) : Driver σ Buffer ℤ :=
  twiWrite h lock devaddr.toUInt32 [regaddr] data

def pmuRegRead (devaddr regaddr : UInt8) (data : ℕ) : Driver σ Buffer ℤ :=
  twiRead h lock devaddr.toUInt32 [regaddr] data

/-- The local variable `data` lies in the buffers. The delay behind a rail that was switched on is
left out. -/
def axp8191PmuSetVoltageStateTwi (data type : ℕ) (state : UInt32) : Driver σ Buffer ℤ :=
  if axp8191PowerMax ≤ type ∨ 1 < state then pure (-eInval)
  else if railReg type = 0 ∨ 8 ≤ railOffset type then pure (-eInval)
  else do
    modifyMem fun x => Function.update x data 0
    let ret ← pmuRegRead h lock rsbRtsaddrAxp8191 (railReg type) data
    if ret ≠ 0 then pure ret
    else do
      modifyMem fun x => Function.update x data
        ((x data).toUInt32 &&& ~~~(1 <<< UInt32.ofNat (railOffset type)) |||
          state <<< UInt32.ofNat (railOffset type)).toUInt8
      let ret ← pmuRegWrite h lock rsbRtsaddrAxp8191 (railReg type) data
      if ret ≠ 0 then pure ret else pure 0

def pmuSetVoltageStateTwi (pmuExist : Bool) (data type : ℕ) (state : UInt32) : Driver σ Buffer ℤ :=
  if pmuExist then axp8191PmuSetVoltageStateTwi h lock data type state else pure (-eNodev)

/-- The commands for a list of rails, behind those of a history. -/
def commandsTwi (pmuExist : Bool) (data : ℕ) :
    List Command → List (ℕ × Bool) → Driver σ Buffer (List Command)
  | history, [] => pure history
  | history, (type, on) :: l => do
      let ret ← pmuSetVoltageStateTwi h lock pmuExist data type on.toUInt32
      commandsTwi pmuExist data (history ++ [⟨type, on, ret⟩]) l

end Code

/-- The commands for a list of rails, as the PMU answers them. -/
def commandsOf (pmu : Pmu) : List Command → List (ℕ × Bool) → List Command
  | history, [] => history
  | history, (type, on) :: l => commandsOf pmu (history ++ [⟨type, on, pmu history type on⟩]) l

/-- How the transfers of a command go. -/
def busAnswer (pmuExist lock present : Bool) : RailAnswer :=
  ⟨pmuExist, if lock then -eAcces else if present then 0 else -1, 0, false⟩

/-! ### One command -/

section Commands

variable {b : Behaviour} {c : Controller}

lemma axp8191_address : busAddress rsbRtsaddrAxp8191.toUInt32.toUInt8 = rsbRtsaddrAxp8191 := by
  decide

lemma valid_state {type : ℕ} (hmax : ¬ axp8191PowerMax ≤ type) (on : Bool) :
    ¬ (axp8191PowerMax ≤ type ∨ 1 < on.toUInt32) := by
  rintro (h | h)
  · exact hmax h
  · cases on with
    | true => exact absurd h (by decide)
    | false => exact absurd h (by decide)

/-- The registers are as they were. -/
lemma update_same {regs : PmicRegs} {bank : Bank}
    (hregs : ∀ r, bank rsbRtsaddrAxp8191 = some r → r = regs) :
    Function.update bank rsbRtsaddrAxp8191 ((bank rsbRtsaddrAxp8191).map fun _ => regs) = bank := by
  cases hdev : bank rsbRtsaddrAxp8191 with
  | none => rw [Option.map_none, ← hdev, Function.update_eq_self]
  | some r => rw [Option.map_some, ← hregs r hdev, ← hdev, Function.update_eq_self]

/-- A transfer that is refused ends the command. -/
lemma setVoltageState_refused (hb : b.Prompt) (hc : c.Idle) (lock : Bool) (data : ℕ) {type : ℕ}
    (on : Bool) (x : Buffer) (hmax : ¬ axp8191PowerMax ≤ type)
    (hno : ¬ (railReg type = 0 ∨ 8 ≤ railOffset type))
    (hrefused : lock = true ∨ c.bank rsbRtsaddrAxp8191 = none) :
    ∃ (d : Controller) (y : Buffer), d.Idle ∧ d.bank = c.bank ∧
      Leads (axp8191PmuSetVoltageStateTwi (controller b) lock data type on.toUInt32) c x
        (if lock then -eAcces else -1) d y := by
  obtain ⟨d, hd, hbank, hread⟩ := each_access_refused hb .read hc
    (show lock = true ∨ _ by rw [axp8191_address]; exact hrefused) [railReg type] data (Function.update x data 0)
  rw [if_neg (List.cons_ne_nil _ _)] at hread
  have hne : (if lock then -eAcces else -1 : ℤ) ≠ 0 := by
    cases lock with
    | true => decide
    | false => decide
  refine ⟨d, Function.update x data 0, hd, hbank, ?_⟩
  rw [axp8191PmuSetVoltageStateTwi, if_neg (valid_state hmax on), if_neg hno]
  refine (Leads.modifyMem _).bind (Leads.bind hread ?_)
  rw [if_pos hne]
  exact Leads.pure _

/-- The read, the change of the bit and the write. -/
lemma setVoltageState_present (hb : b.Prompt) (hc : c.Idle) (data : ℕ) {type : ℕ} (on : Bool)
    (x : Buffer) (hmax : ¬ axp8191PowerMax ≤ type)
    (hno : ¬ (railReg type = 0 ∨ 8 ≤ railOffset type)) {regs : PmicRegs}
    (hdev : c.bank rsbRtsaddrAxp8191 = some regs) :
    ∃ (d : Controller) (y : Buffer), d.Idle ∧
      d.bank = Function.update c.bank rsbRtsaddrAxp8191 (some (Function.update regs (railReg type)
        (railData (regs (railReg type)) (railOffset type) on))) ∧
      Leads (axp8191PmuSetVoltageStateTwi (controller b) false data type on.toUInt32) c x 0 d y := by
  obtain ⟨d, hd, hbank, hread⟩ := each_read hb [railReg type] data (Function.update x data 0) hc
    (by rw [axp8191_address]; exact hdev)
  obtain ⟨y, hy⟩ : ∃ y, y = Function.update (fill (Function.update x data 0) data
      ([railReg type].map regs)) data (railData (regs (railReg type)) (railOffset type) on) := ⟨_, rfl⟩
  obtain ⟨e, he, hebank, hwrite⟩ := each_write hb [railReg type] data y hd
    (by rw [hbank, axp8191_address]; exact hdev)
  refine ⟨e, y, he, ?_, ?_⟩
  · rw [hebank, hbank, axp8191_address, hy]
    simp [storeAt, bufferBytes]
  · rw [axp8191PmuSetVoltageStateTwi, if_neg (valid_state hmax on), if_neg hno]
    refine (Leads.modifyMem _).bind (Leads.bind hread ?_)
    rw [if_neg (not_not.mpr rfl)]
    have hchange := Leads.modifyMem (c := d) (x := fill (Function.update x data 0) data
      ([railReg type].map regs)) fun x => Function.update x data
        ((x data).toUInt32 &&& ~~~(1 <<< UInt32.ofNat (railOffset type)) |||
          on.toUInt32 <<< UInt32.ofNat (railOffset type)).toUInt8
    have hbyte : fill (Function.update x data 0) data ([railReg type].map regs) data =
        regs (railReg type) := by simp [fill]
    simp only [hbyte] at hchange
    rw [← railData, ← hy] at hchange
    exact hchange.bind (hwrite.bind (Leads.pure 0))

/-- One command, answered as the model of the rails says. -/
lemma setVoltageState_leads (hb : b.Prompt) (hc : c.Idle) (pmuExist lock : Bool) (data type : ℕ)
    (on : Bool) (x : Buffer) {regs : PmicRegs}
    (hregs : ∀ r, c.bank rsbRtsaddrAxp8191 = some r → r = regs) :
    ∃ (d : Controller) (y : Buffer), d.Idle ∧
      d.bank = Function.update c.bank rsbRtsaddrAxp8191 ((c.bank rsbRtsaddrAxp8191).map fun _ =>
        (pmuSetVoltageStateAxp8191
          (busAnswer pmuExist lock (c.bank rsbRtsaddrAxp8191).isSome) type on regs).2) ∧
      Leads (pmuSetVoltageStateTwi (controller b) lock pmuExist data type on.toUInt32) c x
        (pmuSetVoltageStateAxp8191
          (busAnswer pmuExist lock (c.bank rsbRtsaddrAxp8191).isSome) type on regs).1 d y := by
  rw [pmuSetVoltageStateTwi, pmuSetVoltageStateAxp8191]
  cases pmuExist with
  | false => exact ⟨c, x, hc, (update_same hregs).symm, Leads.pure _⟩
  | true =>
    rw [if_pos rfl, if_pos (show (busAnswer true lock _).pmuExist = true from rfl),
      axp8191PmuSetVoltageState]
    by_cases hmax : axp8191PowerMax ≤ type
    · rw [if_pos hmax]
      refine ⟨c, x, hc, (update_same hregs).symm, ?_⟩
      rw [axp8191PmuSetVoltageStateTwi, if_pos (.inl hmax)]
      exact Leads.pure _
    by_cases hno : railReg type = 0 ∨ 8 ≤ railOffset type
    · rw [if_neg hmax, if_pos hno]
      refine ⟨c, x, hc, (update_same hregs).symm, ?_⟩
      rw [axp8191PmuSetVoltageStateTwi, if_neg (valid_state hmax on), if_pos hno]
      exact Leads.pure _
    rw [if_neg hmax, if_neg hno]
    by_cases hrefused : lock = true ∨ c.bank rsbRtsaddrAxp8191 = none
    · obtain ⟨d, y, hd, hbank, hrun⟩ :=
        setVoltageState_refused hb hc lock data on x hmax hno hrefused
      have hret : (busAnswer true lock (c.bank rsbRtsaddrAxp8191).isSome).readRet =
          if lock then -eAcces else -1 := by
        cases lock with
        | true => rfl
        | false => rw [hrefused.resolve_left Bool.false_ne_true]; rfl
      have hne : (busAnswer true lock (c.bank rsbRtsaddrAxp8191).isSome).readRet ≠ 0 := by
        rw [hret]
        cases lock with
        | true => decide
        | false => decide
      rw [if_pos hne, hret, update_same hregs]
      exact ⟨d, y, hd, hbank, hrun⟩
    · rw [not_or] at hrefused
      obtain ⟨hlock, hdev⟩ := hrefused
      obtain rfl := Bool.eq_false_of_not_eq_true hlock
      obtain ⟨r, hr⟩ := Option.ne_none_iff_exists'.mp hdev
      obtain rfl := hregs r hr
      rw [hr]
      exact setVoltageState_present hb hc data on x hmax hno hr

/-- The answers to a list of commands, and what they leave of the registers. -/
lemma commands_leads (hb : b.Prompt) (pmuExist lock : Bool) (data : ℕ) (regs : PmicRegs)
    (l : List (ℕ × Bool)) (history : List Command) (x : Buffer) (hc : c.Idle)
    (hregs : ∀ r, c.bank rsbRtsaddrAxp8191 = some r → r = regsAfter
      (fun _ _ => busAnswer pmuExist lock (c.bank rsbRtsaddrAxp8191).isSome) 0 history regs) :
    ∃ (d : Controller) (y : Buffer), d.Idle ∧
      d.bank = Function.update c.bank rsbRtsaddrAxp8191 ((c.bank rsbRtsaddrAxp8191).map fun _ =>
        regsAfter (fun _ _ => busAnswer pmuExist lock (c.bank rsbRtsaddrAxp8191).isSome) 0
          (commandsOf (axpPmu (fun _ _ => busAnswer pmuExist lock
            (c.bank rsbRtsaddrAxp8191).isSome) regs) history l) regs) ∧
      Leads (commandsTwi (controller b) lock pmuExist data history l) c x
        (commandsOf (axpPmu (fun _ _ => busAnswer pmuExist lock
          (c.bank rsbRtsaddrAxp8191).isSome) regs) history l) d y := by
  induction l generalizing c history x with
  | nil => exact ⟨c, x, hc, (update_same hregs).symm, Leads.pure _⟩
  | cons request l ih =>
    obtain ⟨type, on⟩ := request
    obtain ⟨d, y, hd, hbank, hfirst⟩ := setVoltageState_leads hb hc pmuExist lock data type on x hregs
    have hsome : (d.bank rsbRtsaddrAxp8191).isSome = (c.bank rsbRtsaddrAxp8191).isSome := by
      rw [hbank, Function.update_self, Option.isSome_map]
    have hnext : ∀ r, d.bank rsbRtsaddrAxp8191 = some r → r = regsAfter
        (fun _ _ => busAnswer pmuExist lock (d.bank rsbRtsaddrAxp8191).isSome) 0
        (history ++ [⟨type, on, axpPmu (fun _ _ => busAnswer pmuExist lock
          (c.bank rsbRtsaddrAxp8191).isSome) regs history type on⟩]) regs := by
      intro r hr
      rw [hbank, Function.update_self] at hr
      obtain ⟨r₀, -, hr₀⟩ := Option.map_eq_some_iff.mp hr
      rw [regsAfter_append, hsome, ← hr₀]
      rfl
    obtain ⟨e, z, he, hebank, hrest⟩ := ih _ y hd hnext
    rw [hsome] at hebank hrest
    refine ⟨e, z, he, ?_, hfirst.bind hrest⟩
    rw [hebank, hbank, Function.update_idem, Function.update_self, Option.map_map]
    rfl

/-- **The rails over the bus**: whatever the lock, and whether the PMIC is there or not, any
sequence of commands of the rails gets the answers of the PMIC of the standby code, with the
answers of its transfers those of the bus, and leaves its registers behind. No other device is
touched, and the controller is idle again. -/
theorem rails_over_twi (hb : b.Prompt) (pmuExist lock : Bool) (data : ℕ) (regs : PmicRegs)
    (requests : List (ℕ × Bool)) (x : Buffer) (log : List Access) (hc : c.Idle)
    (hregs : ∀ r, c.bank rsbRtsaddrAxp8191 = some r → r = regs) :
    ∃ (bus : RailBus) (d : Controller) (y : Buffer) (log' : List Access),
      (bus = fun _ _ => busAnswer pmuExist lock (c.bank rsbRtsaddrAxp8191).isSome) ∧ d.Idle ∧
      commandsTwi (controller b) lock pmuExist data [] requests ⟨c, log, x⟩ =
        some (commandsOf (axpPmu bus regs) [] requests, ⟨d, log', y⟩) ∧
      (d.bank rsbRtsaddrAxp8191 = (c.bank rsbRtsaddrAxp8191).map fun _ =>
        regsAfter bus 0 (commandsOf (axpPmu bus regs) [] requests) regs) ∧
      ∀ dev ≠ rsbRtsaddrAxp8191, d.bank dev = c.bank dev := by
  obtain ⟨d, y, hd, hbank, hrun⟩ :=
    commands_leads hb pmuExist lock data regs requests [] x hc hregs
  obtain ⟨log', hlog'⟩ := hrun log
  refine ⟨_, d, y, log', rfl, hd, hlog', ?_, fun dev hdev => ?_⟩
  · rw [hbank, Function.update_self]
  · rw [hbank, Function.update_of_ne hdev]

end Commands

/-- Two rails of one register on, and one of them off again. -/
theorem rails_over_twi_dcdc :
    ∃ (bus : RailBus) (d : Controller) (y : Buffer) (log' : List Access),
      (bus = fun _ _ => busAnswer true false
        ((oneDevice rsbRtsaddrAxp8191).bank rsbRtsaddrAxp8191).isSome) ∧ d.Idle ∧
      commandsTwi (controller threeReads) false true 0 [] [(0, true), (2, true), (0, false)]
          ⟨oneDevice rsbRtsaddrAxp8191, [], fun _ => 0⟩ =
        some (commandsOf (axpPmu bus fun _ => 0) [] [(0, true), (2, true), (0, false)],
          ⟨d, log', y⟩) ∧
      (d.bank rsbRtsaddrAxp8191 =
        ((oneDevice rsbRtsaddrAxp8191).bank rsbRtsaddrAxp8191).map fun _ =>
          regsAfter bus 0 (commandsOf (axpPmu bus fun _ => 0) []
            [(0, true), (2, true), (0, false)]) fun _ => 0) ∧
      ∀ dev ≠ rsbRtsaddrAxp8191, d.bank dev = (oneDevice rsbRtsaddrAxp8191).bank dev :=
  rails_over_twi (b := threeReads) (fun _ => ⟨show 2 ≤ 3 by decide, show 3 < 0x07ff by decide⟩)
    true false 0 (fun _ => 0) [(0, true), (2, true), (0, false)] (fun _ => 0) []
    ⟨rfl, rfl, rfl, rfl⟩ fun _ hr => (Option.some.inj hr).symm

end A733Boot.Ar100s.Standby
