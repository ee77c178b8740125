/-
The enable bits of the rails: `axp8191_pmu_set_voltage_state` of
`ar100s/driver/pmu/pmu_axp8191.c` behind `pmu_set_voltage_state` of
`ar100s/driver/pmu/pmu-sun60iw2p1/pmu.c`, and what a suspend followed by a resume makes of
the registers.

* `pmuSetVoltageStateAxp8191`: the read-modify-write of a rail's bit, with a write that fails
  taking effect or not;
* `axpPmu`: the PMIC behind the commands of the rails;
* `offCommands`, `powerOffMasks_commands`: which commands a suspend sends;
* `railsComeBack_iff` (**rails come back**): exactly when every enable bit is as it was.
-/
import A733Boot.Ar100s.Standby.Rails

namespace A733Boot.Ar100s.Standby

/-! ### The driver -/

def axp8191DcdcCtl1 : UInt8 := 0x10
def axp8191DcdcCtl2 : UInt8 := 0x11
def axp8191LdoPowerOnOffCtl1 : UInt8 := 0x20
def axp8191LdoPowerOnOffCtl2 : UInt8 := 0x21
def axp8191LdoPowerOnOffCtl3 : UInt8 := 0x22
def axp8191LdoPowerOnOffCtl4 : UInt8 := 0x23

/-- The register and the bit of each rail; the rail of the RTC has none. -/
def axp8191OnoffRegBitmap : List (UInt8 × ℕ) :=
  [(axp8191DcdcCtl1, 0), (axp8191DcdcCtl1, 1), (axp8191DcdcCtl1, 2), (axp8191DcdcCtl1, 3),
    (axp8191DcdcCtl1, 4), (axp8191DcdcCtl1, 5), (axp8191DcdcCtl1, 6), (axp8191DcdcCtl1, 7),
    (axp8191DcdcCtl2, 0), (axp8191DcdcCtl2, 3), (axp8191DcdcCtl2, 4),
    (axp8191LdoPowerOnOffCtl1, 0), (axp8191LdoPowerOnOffCtl1, 1),
    (axp8191LdoPowerOnOffCtl1, 2), (axp8191LdoPowerOnOffCtl1, 3),
    (axp8191LdoPowerOnOffCtl1, 4), (axp8191LdoPowerOnOffCtl1, 5),
    (axp8191LdoPowerOnOffCtl1, 6), (axp8191LdoPowerOnOffCtl1, 7),
    (axp8191LdoPowerOnOffCtl2, 0), (axp8191LdoPowerOnOffCtl2, 1),
    (axp8191LdoPowerOnOffCtl2, 2), (axp8191LdoPowerOnOffCtl2, 3),
    (axp8191LdoPowerOnOffCtl2, 4), (axp8191LdoPowerOnOffCtl2, 5),
    (axp8191LdoPowerOnOffCtl2, 6), (axp8191LdoPowerOnOffCtl2, 7),
    (axp8191LdoPowerOnOffCtl3, 0), (axp8191LdoPowerOnOffCtl3, 1),
    (axp8191LdoPowerOnOffCtl3, 2), (axp8191LdoPowerOnOffCtl3, 3),
    (axp8191LdoPowerOnOffCtl3, 4), (axp8191LdoPowerOnOffCtl3, 5),
    (axp8191LdoPowerOnOffCtl3, 6), (axp8191LdoPowerOnOffCtl3, 7),
    (axp8191LdoPowerOnOffCtl4, 0), (axp8191LdoPowerOnOffCtl4, 1),
    (axp8191LdoPowerOnOffCtl4, 2), (axp8191LdoPowerOnOffCtl4, 3),
    (0x00, 0), (0x00, 0)]

/-- `AXP8191_POWER_MAX`, and the number of the rail of the RTC, the first without a bit. -/
def axp8191PowerMax : ℕ := 40
def axp8191PowerRtcldo : ℕ := 39

/-- How the transfers of a command go: whether there is a PMU, what the read and the write
return, and whether a write that fails takes effect. -/
structure RailAnswer where
  pmuExist : Bool
  readRet : ℤ
  writeRet : ℤ
  takesEffect : Bool

/-- The registers of the PMIC. -/
abbrev PmicRegs := UInt8 → UInt8

def railReg (type : ℕ) : UInt8 := (axp8191OnoffRegBitmap.getD type (0, 0)).1
def railOffset (type : ℕ) : ℕ := (axp8191OnoffRegBitmap.getD type (0, 0)).2

/-- The bit of a rail in its register; the byte is an `int` while it is changed. -/
def railData (data : UInt8) (offset : ℕ) (on : Bool) : UInt8 :=
  (data.toUInt32 &&& ~~~(1 <<< UInt32.ofNat offset) |||
    on.toUInt32 <<< UInt32.ofNat offset).toUInt8

def axp8191PmuSetVoltageState (a : RailAnswer) (type : ℕ) (on : Bool) (regs : PmicRegs) :
    ℤ × PmicRegs :=
  if axp8191PowerMax ≤ type then (-eInval, regs)
  else if railReg type = 0 ∨ 8 ≤ railOffset type then (-eInval, regs)
  else if a.readRet ≠ 0 then (a.readRet, regs)
  else
    let data := railData (regs (railReg type)) (railOffset type) on
    (a.writeRet,
      if a.writeRet = 0 ∨ a.takesEffect then Function.update regs (railReg type) data else regs)

/-- `pmu_set_voltage_state` with the operations of the AXP8191. -/
def pmuSetVoltageStateAxp8191 (a : RailAnswer) (type : ℕ) (on : Bool) (regs : PmicRegs) :
    ℤ × PmicRegs :=
  if a.pmuExist then axp8191PmuSetVoltageState a type on regs else (-eNodev, regs)

/-- The answers to the `n`-th command, which may be different for the two directions. -/
abbrev RailBus := ℕ → Bool → RailAnswer

/-- The registers after some commands, the first of which is the `n`-th. -/
def regsAfter (bus : RailBus) : ℕ → List Command → PmicRegs → PmicRegs
  | _, [], regs => regs
  | n, c :: l, regs =>
      regsAfter bus (n + 1) l (pmuSetVoltageStateAxp8191 (bus n c.on) c.rail c.on regs).2

/-- The PMIC, with the registers it had before the first command. -/
def axpPmu (bus : RailBus) (regs : PmicRegs) : Pmu := fun history type on =>
  (pmuSetVoltageStateAxp8191 (bus history.length on) type on (regsAfter bus 0 history regs)).1

/-! ### Bits -/

/-- The enable bit of a rail. -/
def railBit (regs : PmicRegs) (type : ℕ) : Bool :=
  bit (regs (railReg type)).toUInt32 (railOffset type)

/-- What a command returns where the rail has a bit. -/
def RailAnswer.ret (a : RailAnswer) : ℤ :=
  if a.pmuExist then if a.readRet ≠ 0 then a.readRet else a.writeRet else -eNodev

/-- Whether the command takes effect. -/
def RailAnswer.took (a : RailAnswer) : Bool :=
  a.pmuExist && decide (a.readRet = 0) && (decide (a.writeRet = 0) || a.takesEffect)

lemma RailAnswer.took_of_ret {a : RailAnswer} (h : a.ret = 0) : a.took = true := by
  rw [RailAnswer.ret] at h
  rw [RailAnswer.took]
  cases hexist : a.pmuExist with
  | false =>
      rw [hexist, if_neg Bool.false_ne_true] at h
      exact absurd h (by decide)
  | true =>
      rw [hexist, if_pos rfl] at h
      by_cases hread : a.readRet = 0
      · rw [if_neg (not_not.mpr hread)] at h
        rw [decide_eq_true hread, decide_eq_true h]
        rfl
      · rw [if_pos hread] at h
        exact absurd h hread

/-- Every rail below that of the RTC has a bit of its own. -/
lemma rail_supported {t : ℕ} (ht : t < axp8191PowerRtcldo) :
    railReg t ≠ 0 ∧ railOffset t < 8 := by
  have h : ∀ t < axp8191PowerRtcldo, railReg t ≠ 0 ∧ railOffset t < 8 := by decide
  exact h t ht

lemma rail_injective {t u : ℕ} (ht : t < axp8191PowerRtcldo) (hu : u < axp8191PowerRtcldo)
    (hreg : railReg t = railReg u) (hoffset : railOffset t = railOffset u) : t = u := by
  have h : ∀ t < axp8191PowerRtcldo, ∀ u < axp8191PowerRtcldo, railReg t = railReg u →
      railOffset t = railOffset u → t = u := by decide +kernel
  exact h t ht u hu hreg hoffset

lemma bit_boolToUInt32 (on : Bool) (i : ℕ) : bit on.toUInt32 i = (on && decide (i = 0)) := by
  cases on with
  | false => exact bit_zero i
  | true => exact bit_one i

lemma bit_railData (data : UInt8) {offset : ℕ} (hoffset : offset < 8) (on : Bool) {i : ℕ}
    (hi : i < 8) :
    bit (railData data offset on).toUInt32 i = if i = offset then on else bit data.toUInt32 i := by
  rw [railData, bit_toUInt8, decide_eq_true hi, Bool.true_and, bit_or,
    bit_and_not_shiftLeft_one _ (by omega) (by omega), bit_shiftLeft _ (by omega) (by omega),
    bit_boolToUInt32]
  by_cases h : i = offset
  · subst h
    simp
  · have hout : (decide (offset ≤ i) && (on && decide (i - offset = 0))) = false := by
      by_cases hle : offset ≤ i
      · rw [decide_eq_false (by omega : ¬ i - offset = 0), Bool.and_false, Bool.and_false]
      · rw [decide_eq_false hle, Bool.false_and]
    rw [hout, if_neg h, decide_eq_false h, Bool.not_false, Bool.and_true, Bool.or_false]

/-- Rails that share a register keep their bits. -/
lemma railBit_update {t u : ℕ} (ht : t < axp8191PowerRtcldo) (hu : u < axp8191PowerRtcldo)
    (on : Bool) (regs : PmicRegs) :
    railBit (Function.update regs (railReg t) (railData (regs (railReg t)) (railOffset t) on)) u =
      if u = t then on else railBit regs u := by
  rw [railBit, railBit]
  by_cases hreg : railReg u = railReg t
  · rw [hreg, Function.update_self,
      bit_railData _ (rail_supported ht).2 on (rail_supported hu).2]
    by_cases hoffset : railOffset u = railOffset t
    · rw [if_pos hoffset, if_pos (rail_injective hu ht hreg hoffset)]
    · have hne : u ≠ t := by
        rintro rfl
        exact hoffset rfl
      rw [if_neg hoffset, if_neg hne]
  · have hne : u ≠ t := by
      rintro rfl
      exact hreg rfl
    rw [Function.update_of_ne hreg, if_neg hne]

/-- One command: what it returns, and the one bit it may change. -/
lemma pmuSetVoltageStateAxp8191_spec (a : RailAnswer) {t : ℕ} (ht : t < axp8191PowerRtcldo)
    (on : Bool) (regs : PmicRegs) :
    (pmuSetVoltageStateAxp8191 a t on regs).1 = a.ret ∧
    ∀ u < axp8191PowerRtcldo, railBit (pmuSetVoltageStateAxp8191 a t on regs).2 u =
      if a.took = true ∧ u = t then on else railBit regs u := by
  obtain ⟨hreg, hoffset⟩ := rail_supported ht
  have hmax : ¬ axp8191PowerMax ≤ t := by
    simp only [axp8191PowerMax, axp8191PowerRtcldo] at ht ⊢
    omega
  have hno : ¬ (railReg t = 0 ∨ 8 ≤ railOffset t) := by
    rintro (h | h)
    · exact hreg h
    · omega
  rw [pmuSetVoltageStateAxp8191, axp8191PmuSetVoltageState, if_neg hmax, if_neg hno, RailAnswer.ret,
    RailAnswer.took]
  cases a.pmuExist with
  | false => exact ⟨rfl, fun u _ => (if_neg fun h => Bool.false_ne_true h.1).symm⟩
  | true =>
      simp only [if_true, Bool.true_and]
      by_cases hread : a.readRet = 0
      · rw [if_neg (not_not.mpr hread), if_neg (not_not.mpr hread), decide_eq_true hread]
        refine ⟨rfl, fun u hu => ?_⟩
        by_cases htook : a.writeRet = 0 ∨ a.takesEffect = true
        · have htook' : (true && (decide (a.writeRet = 0) || a.takesEffect)) = true := by
            simpa using htook
          rw [if_pos htook, htook', railBit_update ht hu]
          simp only [true_and]
        · have htook' : (true && (decide (a.writeRet = 0) || a.takesEffect)) = false := by
            simpa using htook
          rw [if_neg htook, htook', if_neg fun h => Bool.false_ne_true h.1]
      · rw [if_pos hread, if_pos hread, decide_eq_false hread]
        exact ⟨rfl, fun u _ => (if_neg fun h => Bool.false_ne_true h.1).symm⟩

lemma axpPmu_eq (bus : RailBus) (regs : PmicRegs) (history : List Command) {t : ℕ}
    (ht : t < axp8191PowerRtcldo) (on : Bool) :
    axpPmu bus regs history t on = (bus history.length on).ret :=
  (pmuSetVoltageStateAxp8191_spec _ ht on _).1

lemma regsAfter_append (bus : RailBus) (n : ℕ) (l l' : List Command) (regs : PmicRegs) :
    regsAfter bus n (l ++ l') regs = regsAfter bus (n + l.length) l' (regsAfter bus n l regs) := by
  induction l generalizing n regs with
  | nil => rfl
  | cons c l ih =>
      rw [List.cons_append, regsAfter, ih, regsAfter, List.length_cons, Nat.add_assoc,
        Nat.add_comm 1]

/-! ### The commands of a suspend -/

/-- The `n` rails from `type` on that the mask asks for, without those that are `seen`. -/
def wantedRails (mask seen : UInt32) (type n : ℕ) : List ℕ :=
  (List.range' type n).filter fun t => bit mask t && !bit seen t

/-- The rails that the masks ask for, in the order in which they are switched off, without
those that are `seen`. -/
def askedRails : List UInt32 → UInt32 → List ℕ
  | [], _ => []
  | mask :: masks, seen =>
      wantedRails mask seen 0 axpPowerMax ++ askedRails masks (seen ||| mask)

/-- The commands that switch the rails off in turn, up to the first that fails; the first of
them is the `n`-th. -/
def offCommands (bus : RailBus) : ℕ → List ℕ → List Command
  | _, [] => []
  | n, t :: ts =>
      ⟨t, false, (bus n false).ret⟩ ::
        if (bus n false).ret ≠ 0 then [] else offCommands bus (n + 1) ts

lemma mem_wantedRails {mask seen : UInt32} {type n t : ℕ} :
    t ∈ wantedRails mask seen type n ↔
      (type ≤ t ∧ t < type + n) ∧ bit mask t = true ∧ bit seen t = false := by
  rw [wantedRails, List.mem_filter, List.mem_range'_1, Bool.and_eq_true, Bool.not_eq_true']

lemma wantedRails_succ_of_pos {mask seen : UInt32} {type : ℕ} (n : ℕ) (hmask : bit mask type = true)
    (hseen : bit seen type = false) :
    wantedRails mask seen type (n + 1) = type :: wantedRails mask seen (type + 1) n := by
  rw [wantedRails, List.range'_succ, List.filter_cons_of_pos (by rw [hmask, hseen]; rfl)]
  rfl

lemma wantedRails_succ_of_neg {mask seen : UInt32} {type : ℕ} (n : ℕ)
    (h : bit mask type = false ∨ bit seen type = true) :
    wantedRails mask seen type (n + 1) = wantedRails mask seen (type + 1) n := by
  have hout : (bit mask type && !bit seen type) = false := by
    obtain h | h := h
    · rw [h, Bool.false_and]
    · rw [h, Bool.not_true, Bool.and_false]
  rw [wantedRails, List.range'_succ, List.filter_cons_of_neg]
  · rfl
  · rw [hout]
    exact Bool.false_ne_true

/-- A rail that comes before does not matter. -/
lemma wantedRails_set {mask seen : UInt32} {type k n : ℕ} (hk : k < type)
    (hn : type + n ≤ axpPowerMax) :
    wantedRails mask (seen ||| 1 <<< UInt32.ofNat k) type n = wantedRails mask seen type n := by
  refine List.filter_congr fun t ht => ?_
  rw [List.mem_range'_1] at ht
  rw [axpPowerMax] at hn
  rw [bit_or_shiftLeft_one seen (by omega) (by omega), decide_eq_false (by omega), Bool.or_false]

lemma mem_askedRails {masks : List UInt32} {seen : UInt32} {t : ℕ} (h : t ∈ askedRails masks seen) :
    t < axpPowerMax ∧ bit seen t = false := by
  induction masks generalizing seen with
  | nil => exact absurd h List.not_mem_nil
  | cons mask masks ih =>
      rw [askedRails, List.mem_append, mem_wantedRails] at h
      obtain ⟨⟨-, ht⟩, -, hseen⟩ | h := h
      · exact ⟨by omega, hseen⟩
      · obtain ⟨ht, hseen⟩ := ih h
        rw [bit_or, Bool.or_eq_false_iff] at hseen
        exact ⟨ht, hseen.1⟩

/-- Each rail is asked for once. -/
lemma nodup_askedRails (masks : List UInt32) (seen : UInt32) : (askedRails masks seen).Nodup := by
  induction masks generalizing seen with
  | nil => exact List.nodup_nil
  | cons mask masks ih =>
      refine List.Nodup.append (List.Nodup.filter _ List.nodup_range') (ih _) fun t ht ht' => ?_
      obtain ⟨-, hseen⟩ := mem_askedRails ht'
      rw [bit_or, (mem_wantedRails.mp ht).2.1, Bool.or_true] at hseen
      exact Bool.noConfusion hseen

section Suspend

variable (bus : RailBus)

lemma offCommands_append (n : ℕ) (ts ts' : List ℕ) :
    offCommands bus n (ts ++ ts') = offCommands bus n ts ++
      if firstError (offCommands bus n ts) ≠ 0 then []
      else offCommands bus (n + ts.length) ts' := by
  induction ts generalizing n with
  | nil => rfl
  | cons t ts ih =>
      rw [List.cons_append, offCommands, offCommands, firstError]
      by_cases hret : (bus n false).ret = 0
      · simp only [if_neg (not_not.mpr hret)]
        rw [ih, List.cons_append, List.length_cons, Nat.add_assoc, Nat.add_comm 1]
      · simp only [if_pos hret]
        rfl

/-- As long as no command fails there is one for each rail. -/
lemma length_offCommands {n : ℕ} {ts : List ℕ} (h : firstError (offCommands bus n ts) = 0) :
    (offCommands bus n ts).length = ts.length := by
  induction ts generalizing n with
  | nil => rfl
  | cons t ts ih =>
      obtain ⟨hret, hrest⟩ := firstError_cons_eq_zero h
      rw [if_neg (not_not.mpr hret)] at hrest
      rw [offCommands, if_neg (not_not.mpr hret), List.length_cons, List.length_cons, ih hrest]

/-- What is asked for from `type` on is `type`, and what is asked for after it. -/
lemma asked_step {mask seen seen' : UInt32} {type n t : ℕ}
    (h : bit seen' t = (bit seen t || (bit mask t && decide (t = type)))) :
    (bit seen' t || (bit mask t && decide (type + 1 ≤ t ∧ t < type + 1 + n))) =
      (bit seen t || (bit mask t && decide (type ≤ t ∧ t < type + (n + 1)))) := by
  have hrange : (decide (t = type) || decide (type + 1 ≤ t ∧ t < type + 1 + n)) =
      decide (type ≤ t ∧ t < type + (n + 1)) := by
    rw [← Bool.decide_or, decide_eq_decide]
    omega
  rw [h, Bool.or_assoc, ← Bool.and_or_distrib_left, hrange]

variable {pmu : Pmu} (hpmu : ∀ history, ∀ t < axpPowerMax,
  pmu history t false = (bus history.length false).ret)

include hpmu

/-- The commands of one mask, and the rails that are off after it. -/
lemma powerOffLoop_commands (mask : UInt32) (n type : ℕ) (htype : type + n ≤ axpPowerMax)
    (s : Rails) :
    (powerOffLoop pmu mask n type s).2.commands = s.commands ++
      offCommands bus s.commands.length (wantedRails mask s.offMask type n) ∧
    (powerOffLoop pmu mask n type s).1 = firstError
      (offCommands bus s.commands.length (wantedRails mask s.offMask type n)) ∧
    ((powerOffLoop pmu mask n type s).1 = 0 → ∀ t < axpPowerMax,
      bit (powerOffLoop pmu mask n type s).2.offMask t =
        (bit s.offMask t || (bit mask t && decide (type ≤ t ∧ t < type + n)))) := by
  induction n generalizing type s with
  | zero =>
      refine ⟨(List.append_nil _).symm, rfl, fun _ t _ => ?_⟩
      rw [decide_eq_false (by omega), Bool.and_false, Bool.or_false]
      rfl
  | succ n ih =>
      have hlt : type < axpPowerMax := by omega
      rw [powerOffLoop]
      by_cases hskip : mask >>> UInt32.ofNat type &&& 1 = 0 ∨
          s.offMask >>> UInt32.ofNat type &&& 1 ≠ 0
      · -- the rail is not asked for, or it is off
        rw [if_pos hskip]
        rw [shiftRight_and_one_eq_zero mask hlt, shiftRight_and_one s.offMask hlt] at hskip
        rw [wantedRails_succ_of_neg n hskip]
        obtain ⟨hcommands, hret, hmask⟩ := ih (type + 1) (by omega) s
        refine ⟨hcommands, hret, fun hok t ht => ?_⟩
        rw [hmask hok t ht]
        refine asked_step ?_
        by_cases heq : t = type
        · obtain hskip | hskip := hskip
          · rw [heq, hskip, Bool.false_and, Bool.or_false]
          · rw [heq, hskip, Bool.true_or]
        · rw [decide_eq_false heq, Bool.and_false, Bool.or_false]
      · rw [if_neg hskip]
        rw [not_or, shiftRight_and_one_eq_zero mask hlt, shiftRight_and_one s.offMask hlt,
          Bool.not_eq_false, Bool.not_eq_true] at hskip
        rw [wantedRails_succ_of_pos n hskip.1 hskip.2, offCommands, firstError]
        simp only [pmuSetVoltageState, hpmu s.commands type hlt]
        by_cases hret : (bus s.commands.length false).ret = 0
        · simp only [if_neg (not_not.mpr hret)]
          obtain ⟨hcommands, hret', hmask⟩ := ih (type + 1) (by omega)
            { s with
              commands := s.commands ++ [⟨type, false, (bus s.commands.length false).ret⟩]
              offOrder := Function.update s.offOrder s.offCount type
              offCount := s.offCount + 1
              offMask := s.offMask ||| 1 <<< UInt32.ofNat type }
          have hsame : wantedRails mask (s.offMask ||| 1 <<< UInt32.ofNat type) (type + 1) n =
              wantedRails mask s.offMask (type + 1) n :=
            wantedRails_set (Nat.lt_succ_self type) (by omega)
          simp only [hsame, List.length_append, List.length_singleton] at hcommands hret'
          refine ⟨?_, hret', fun hok t ht => ?_⟩
          · rw [hcommands, List.append_assoc]
            rfl
          · rw [hmask hok t ht]
            refine asked_step ?_
            rw [bit_or_shiftLeft_one s.offMask hlt ht]
            by_cases heq : t = type
            · rw [heq, hskip.1, Bool.true_and]
            · rw [decide_eq_false heq, Bool.and_false]
        · simp only [if_pos hret]
          exact ⟨trivial, trivial, fun h0 => absurd h0 hret⟩

/-- The commands of all the masks. -/
lemma powerOffMasks_commands (masks : List UInt32) (s : Rails) :
    (powerOffMasks pmu masks s).2.commands = s.commands ++
      offCommands bus s.commands.length (askedRails masks s.offMask) ∧
    (powerOffMasks pmu masks s).1 = firstError
      (offCommands bus s.commands.length (askedRails masks s.offMask)) := by
  induction masks generalizing s with
  | nil => exact ⟨(List.append_nil _).symm, rfl⟩
  | cons mask masks ih =>
      obtain ⟨hcommands, hret, hmask⟩ := powerOffLoop_commands bus hpmu mask axpPowerMax 0 le_rfl
        { s with offCalls := s.offCalls + 1 }
      -- the state after the first mask
      obtain ⟨r, hr⟩ : ∃ r, powerOffLoop pmu mask axpPowerMax 0
          { s with offCalls := s.offCalls + 1 } = r := ⟨_, rfl⟩
      rw [hr] at hcommands hret hmask
      rw [powerOffMasks, askedRails, offCommands_append, ← hret]
      simp only [dmPowerOffMask, hr]
      by_cases hok : r.1 = 0
      · have hseen : r.2.offMask = s.offMask ||| mask := by
          refine eq_of_bit fun t ht => ?_
          have hrange : 0 ≤ t ∧ t < 0 + axpPowerMax := ⟨Nat.zero_le t, (Nat.zero_add _).symm ▸ ht⟩
          rw [hmask hok t ht, bit_or, decide_eq_true hrange, Bool.and_true]
        have hlength : r.2.commands.length =
            s.commands.length + (wantedRails mask s.offMask 0 axpPowerMax).length := by
          rw [hcommands, List.length_append, length_offCommands bus (hret.symm.trans hok)]
        obtain ⟨hrest, hrest'⟩ := ih r.2
        rw [hlength, hseen] at hrest hrest'
        simp only [if_neg (not_not.mpr hok)]
        refine ⟨?_, ?_⟩
        · rw [hrest, hcommands, List.append_assoc]
        · rw [hrest', SwitchedOff.firstError_append (hret.symm.trans hok)]
      · simp only [if_pos hok, List.append_nil]
        exact ⟨hcommands, hret⟩

end Suspend

/-! ### A resume that succeeds -/

/-- Where every rail can be switched on, the loop sends one command for each. -/
lemma restoreLoop_succeeds {pmu : Pmu} (n : ℕ) (s : Rails) (failedOrder : ℕ → ℕ)
    (h : ∀ history, ∀ t ∈ entries s.offOrder n, pmu history t true = 0) :
    (restoreLoop pmu n s failedOrder 0 0).1.commands =
      s.commands ++ (entries s.offOrder n).reverse.map (fun t => ⟨t, true, 0⟩) ∧
    (restoreLoop pmu n s failedOrder 0 0).2.2.1 = 0 := by
  induction n generalizing s with
  | zero => exact ⟨(List.append_nil _).symm, rfl⟩
  | succ n ih =>
      rw [entries_succ] at h ⊢
      have hlast : pmu s.commands (s.offOrder n) true = 0 :=
        h s.commands _ (List.mem_append_right _ (List.mem_singleton_self _))
      simp only [restoreLoop, pmuSetVoltageState, hlast, ne_eq, not_true_eq_false, if_false]
      obtain ⟨hcommands, hcount⟩ := ih
        { s with
          offCount := n
          commands := s.commands ++ [⟨s.offOrder n, true, 0⟩]
          offMask := s.offMask &&& ~~~(1 <<< UInt32.ofNat (s.offOrder n)) }
        fun history t ht => h history t (List.mem_append_left _ ht)
      refine ⟨?_, hcount⟩
      rw [hcommands, List.reverse_append, List.append_assoc]
      rfl

/-- All rails that are off are switched on, and none is left. -/
lemma dmRestoreOffRails_succeeds {pmu : Pmu} (s : Rails)
    (h : ∀ history, ∀ t ∈ s.order, pmu history t true = 0) :
    (dmRestoreOffRails pmu s).2.commands =
      s.commands ++ s.order.reverse.map (fun t => ⟨t, true, 0⟩) ∧
    (dmRestoreOffRails pmu s).2.offCount = 0 :=
  restoreLoop_succeeds s.offCount s (fun _ => 0) h

/-- The commands of a suspend and a resume from a state where no rail is off: those that
switch rails off, and one for each rail that is off by then. -/
lemma suspend_resume_commands (bus : RailBus) {pmu : Pmu}
    (hpmu : ∀ history, ∀ t < axpPowerMax, ∀ on, pmu history t on = (bus history.length on).ret)
    (hon : ∀ n, (bus n true).ret = 0) (masks : RailMasks) {s : Rails} (hs : s.Consistent)
    (hcount : s.offCount = 0) :
    (dmResume pmu (dmSuspend pmu masks s).2).2.commands = s.commands ++
      offCommands bus s.commands.length (askedRails masks.suspendOrder 0) ++
      (doneRails (offCommands bus s.commands.length
        (askedRails masks.suspendOrder 0))).reverse.map fun t => ⟨t, true, 0⟩ := by
  have horder : s.order = [] := by
    rw [Rails.order, hcount]
    rfl
  have hmask : s.offMask = 0 := by
    rw [← hs.eq_reset horder]
  obtain ⟨hcommands, hret⟩ := powerOffMasks_commands bus
    (fun history t ht => hpmu history t ht false) masks.suspendOrder s
  obtain ⟨cmds, hoff⟩ := powerOffMasks_spec pmu masks.suspendOrder s hs
  rw [hmask] at hcommands hret
  obtain ⟨r, hr⟩ : ∃ r, powerOffMasks pmu masks.suspendOrder s = r := ⟨_, rfl⟩
  rw [hr] at hcommands hret hoff
  have hcmds : cmds = offCommands bus s.commands.length (askedRails masks.suspendOrder 0) :=
    List.append_cancel_left (hoff.commands.symm.trans hcommands)
  have hrorder : r.2.order = doneRails cmds := by
    rw [hoff.order, horder, List.nil_append]
  have hrestore : ∀ history, ∀ t ∈ r.2.order, pmu history t true = 0 := by
    intro history t ht
    rw [hpmu history t (hoff.consistent.bound t ht)]
    exact hon _
  obtain ⟨hback, hnone⟩ := dmRestoreOffRails_succeeds r.2 hrestore
  rw [hrorder, hcommands, hcmds] at hback
  simp only [dmSuspend, hcount, ne_eq, not_true_eq_false, if_false, hs.eq_reset horder, hr]
  by_cases hok : r.1 = 0
  · rw [if_neg (not_not.mpr hok)]
    exact hback
  · -- a suspend that fails has restored the rails itself
    rw [if_pos hok]
    have hempty : (dmRestoreOffRails pmu r.2).2.order = [] := by
      rw [Rails.order, hnone]
      rfl
    have hleft : ∀ history, ∀ t ∈ (dmRestoreOffRails pmu r.2).2.order, pmu history t true = 0 := by
      intro history t ht
      rw [hempty] at ht
      exact absurd ht List.not_mem_nil
    obtain ⟨hagain, -⟩ := dmRestoreOffRails_succeeds _ hleft
    rw [hempty, hback] at hagain
    exact hagain.trans (List.append_nil _)

/-! ### Rails come back -/

/-- The rails that are switched off were on, and the one at which the transfers fail, if it is
switched off all the same, was off; the first command is the `n`-th. -/
def Spared (bus : RailBus) (regs : PmicRegs) : ℕ → List ℕ → Prop
  | _, [] => True
  | n, t :: ts =>
      if (bus n false).ret = 0 then railBit regs t = true ∧ Spared bus regs (n + 1) ts
      else (bus n false).took = true → railBit regs t = false

/-- Whether the rails are spared can be computed. -/
def Spared.decide (bus : RailBus) (regs : PmicRegs) :
    (n : ℕ) → (ts : List ℕ) → Decidable (Spared bus regs n ts)
  | _, [] => .isTrue trivial
  | n, t :: ts =>
      let _ := Spared.decide bus regs (n + 1) ts
      inferInstanceAs (Decidable (if (bus n false).ret = 0 then
        railBit regs t = true ∧ Spared bus regs (n + 1) ts
        else (bus n false).took = true → railBit regs t = false))

instance (bus : RailBus) (regs : PmicRegs) (n : ℕ) (ts : List ℕ) :
    Decidable (Spared bus regs n ts) := Spared.decide bus regs n ts

/-- Only the bits of the rails matter. -/
lemma spared_congr {bus : RailBus} {regs regs' : PmicRegs} {n : ℕ} {ts : List ℕ}
    (h : ∀ t ∈ ts, railBit regs t = railBit regs' t) :
    Spared bus regs n ts ↔ Spared bus regs' n ts := by
  induction ts generalizing n with
  | nil => exact Iff.rfl
  | cons t ts ih =>
      rw [Spared, Spared, h t List.mem_cons_self, ih fun u hu => h u (List.mem_cons_of_mem t hu)]

/-- Rails that are not asked for keep their bits. -/
lemma railBit_offCommands_other (bus : RailBus) {n : ℕ} {ts : List ℕ} (regs : PmicRegs)
    (hts : ∀ t ∈ ts, t < axp8191PowerRtcldo) {u : ℕ} (hu : u < axp8191PowerRtcldo) (hout : u ∉ ts) :
    railBit (regsAfter bus n (offCommands bus n ts) regs) u = railBit regs u := by
  induction ts generalizing n regs with
  | nil => rfl
  | cons t ts ih =>
      rw [List.mem_cons, not_or] at hout
      have hfirst := (pmuSetVoltageStateAxp8191_spec (bus n false) (hts t List.mem_cons_self) false
        regs).2 u hu
      rw [if_neg fun h => hout.1 h.2] at hfirst
      rw [offCommands, regsAfter]
      by_cases hret : (bus n false).ret = 0
      · rw [if_neg (not_not.mpr hret), ih _ (fun v hv => hts v (List.mem_cons_of_mem t hv)) hout.2,
          hfirst]
      · rw [if_pos hret]
        exact hfirst

lemma doneRails_offCommands_of_ok {bus : RailBus} {n : ℕ} (t : ℕ) (ts : List ℕ)
    (h : (bus n false).ret = 0) :
    doneRails (offCommands bus n (t :: ts)) = t :: doneRails (offCommands bus (n + 1) ts) := by
  rw [offCommands, if_neg (not_not.mpr h), doneRails, List.filter_cons_of_pos (by simpa using h)]
  rfl

lemma doneRails_offCommands_of_failed {bus : RailBus} {n : ℕ} (t : ℕ) (ts : List ℕ)
    (h : (bus n false).ret ≠ 0) : doneRails (offCommands bus n (t :: ts)) = [] := by
  rw [offCommands, if_pos h, doneRails, List.filter_cons_of_neg (by simpa using h)]
  rfl

lemma doneRails_subset (bus : RailBus) (n : ℕ) (ts : List ℕ) :
    doneRails (offCommands bus n ts) ⊆ ts := by
  induction ts generalizing n with
  | nil => exact fun u hu => hu
  | cons t ts ih =>
      by_cases hret : (bus n false).ret = 0
      · rw [doneRails_offCommands_of_ok t ts hret]
        exact List.cons_subset_cons t (ih (n + 1))
      · rw [doneRails_offCommands_of_failed t ts hret]
        exact List.nil_subset _

/-- A rail that could not be switched off is not switched on again: its bit must have stayed. -/
lemma offCommands_spared_of_failed (bus : RailBus) {n t : ℕ} (ts : List ℕ) (regs : PmicRegs)
    (ht : t < axp8191PowerRtcldo) (hret : (bus n false).ret ≠ 0) :
    (∀ u < axp8191PowerRtcldo, (if u ∈ doneRails (offCommands bus n (t :: ts)) then true
      else railBit (regsAfter bus n (offCommands bus n (t :: ts)) regs) u) = railBit regs u) ↔
    Spared bus regs n (t :: ts) := by
  have hbit := (pmuSetVoltageStateAxp8191_spec (bus n false) ht false regs).2
  rw [doneRails_offCommands_of_failed t ts hret, Spared, if_neg hret, offCommands, regsAfter,
    if_pos hret]
  simp only [List.not_mem_nil, if_false, regsAfter]
  constructor
  · intro h htook
    rw [← h t ht, hbit t ht, if_pos ⟨htook, rfl⟩]
  · intro h u hu
    rw [hbit u hu]
    split_ifs with hcase
    · rw [hcase.2, h hcase.1]
    · rfl

/-- After the rails that are off have been switched on again, every bit is as it was if and
only if the rails were spared. -/
lemma offCommands_spared_iff (bus : RailBus) {n : ℕ} {ts : List ℕ} (regs : PmicRegs)
    (hts : ∀ t ∈ ts, t < axp8191PowerRtcldo) (hnodup : ts.Nodup) :
    (∀ u < axp8191PowerRtcldo, (if u ∈ doneRails (offCommands bus n ts) then true
      else railBit (regsAfter bus n (offCommands bus n ts) regs) u) = railBit regs u) ↔
    Spared bus regs n ts := by
  induction ts generalizing n regs with
  | nil => exact ⟨fun _ => trivial, fun _ u _ => if_neg List.not_mem_nil⟩
  | cons t ts ih =>
      obtain ⟨hnot, hnodup⟩ := List.nodup_cons.mp hnodup
      have ht := hts t List.mem_cons_self
      have hts' : ∀ u ∈ ts, u < axp8191PowerRtcldo := fun u hu => hts u (List.mem_cons_of_mem t hu)
      by_cases hret : (bus n false).ret = 0
      · have hbit := (pmuSetVoltageStateAxp8191_spec (bus n false) ht false regs).2
        rw [doneRails_offCommands_of_ok t ts hret, Spared, if_pos hret, offCommands, regsAfter,
          if_neg (not_not.mpr hret)]
        simp only [RailAnswer.took_of_ret hret, true_and] at hbit
        generalize (pmuSetVoltageStateAxp8191 (bus n false) t false regs).2 = regs' at hbit ⊢
        -- the rail is off now, and nothing of the rest touches it
        have hsame : ∀ u < axp8191PowerRtcldo, u ≠ t → railBit regs' u = railBit regs u :=
          fun u hu hne => (hbit u hu).trans (if_neg hne)
        have hown : (if t ∈ doneRails (offCommands bus (n + 1) ts) then true
            else railBit (regsAfter bus (n + 1) (offCommands bus (n + 1) ts) regs') t) =
            railBit regs' t := by
          rw [if_neg fun h => hnot (doneRails_subset bus (n + 1) ts h),
            railBit_offCommands_other bus regs' hts' ht hnot]
        have hspared : Spared bus regs' (n + 1) ts ↔ Spared bus regs (n + 1) ts := by
          refine spared_congr fun u hu => hsame u (hts' u hu) ?_
          rintro rfl
          exact hnot hu
        rw [← hspared, ← ih regs' hts' hnodup]
        constructor
        · intro h
          refine ⟨?_, fun u hu => ?_⟩
          · have hat := h t ht
            rw [if_pos List.mem_cons_self] at hat
            exact hat.symm
          · by_cases hne : u = t
            · rw [hne, hown]
            · have hat := h u hu
              rw [hsame u hu hne, ← hat]
              simp only [List.mem_cons, hne, false_or]
        · rintro ⟨hon, h⟩ u hu
          by_cases hne : u = t
          · rw [hne, if_pos List.mem_cons_self, hon]
          · rw [← hsame u hu hne, ← h u hu]
            simp only [List.mem_cons, hne, false_or]
      · exact offCommands_spared_of_failed bus ts regs ht hret

/-- The rails are switched on one after the other. -/
lemma railBit_onCommands (bus : RailBus) (hon : ∀ n, (bus n true).ret = 0) (n : ℕ) (ts : List ℕ)
    (regs : PmicRegs) (hts : ∀ t ∈ ts, t < axp8191PowerRtcldo) {u : ℕ}
    (hu : u < axp8191PowerRtcldo) :
    railBit (regsAfter bus n (ts.map fun t => ⟨t, true, 0⟩) regs) u =
      if u ∈ ts then true else railBit regs u := by
  induction ts generalizing n regs with
  | nil => rw [if_neg List.not_mem_nil]; rfl
  | cons t ts ih =>
      rw [List.map_cons, regsAfter, ih _ _ fun v hv => hts v (List.mem_cons_of_mem t hv),
        (pmuSetVoltageStateAxp8191_spec _ (hts t List.mem_cons_self) true regs).2 u hu]
      simp only [RailAnswer.took_of_ret (hon n), true_and, List.mem_cons]
      by_cases hmem : u ∈ ts
      · rw [if_pos hmem, if_pos (.inr hmem)]
      · simp only [hmem, if_false, or_false]

/-- Every enable bit is after a suspend and a resume what it was before. -/
def RailsComeBack (bus : RailBus) (regs : PmicRegs) (masks : RailMasks) (s : Rails) : Prop :=
  ∀ t < axp8191PowerRtcldo,
    railBit (regsAfter bus 0
      (dmResume (axpPmu bus regs) (dmSuspend (axpPmu bus regs) masks s).2).2.commands regs) t =
    railBit (regsAfter bus 0 s.commands regs) t

/-- **Rails come back.** From a state where no rail is recorded as off, with any masks, any
registers and any answers to the commands that switch rails off, as long as rails can be
switched on: a suspend, whether it succeeds or is rolled back, and a resume restore the
enable bits exactly when every rail that is switched off was on, and the one at which the
transfers fail, if the command takes effect all the same, was off. -/
theorem railsComeBack_iff (bus : RailBus) (regs : PmicRegs) (masks : RailMasks) (s : Rails)
    (hon : ∀ n, (bus n true).ret = 0) (hs : s.Consistent) (hcount : s.offCount = 0) :
    RailsComeBack bus regs masks s ↔
      Spared bus (regsAfter bus 0 s.commands regs) s.commands.length
        (askedRails masks.suspendOrder 0) := by
  have hbound : ∀ t < axpPowerMax, t < axp8191PowerRtcldo :=
    fun t ht => Nat.lt_of_lt_of_le ht (by decide)
  have hasked : ∀ t ∈ askedRails masks.suspendOrder 0, t < axp8191PowerRtcldo :=
    fun t ht => hbound t (mem_askedRails ht).1
  have hdone : ∀ t ∈ (doneRails (offCommands bus s.commands.length
      (askedRails masks.suspendOrder 0))).reverse, t < axp8191PowerRtcldo :=
    fun t ht => hasked t (doneRails_subset bus _ _ (List.mem_reverse.mp ht))
  rw [RailsComeBack, suspend_resume_commands bus
    (fun history t ht on => axpPmu_eq bus regs history (hbound t ht) on) hon masks hs hcount,
    ← offCommands_spared_iff bus _ hasked (nodup_askedRails _ _)]
  refine forall₂_congr fun t ht => ?_
  rw [regsAfter_append, regsAfter_append, railBit_onCommands bus hon _ _ _ hdone ht, Nat.zero_add]
  simp only [List.mem_reverse]

/-- A bus on which every transfer succeeds. -/
def quietBus : RailBus := fun _ _ => ⟨true, 0, 0, false⟩

/-- A bus on which every command that switches a rail off fails and takes effect. -/
def deafBus : RailBus := fun _ on => if on then ⟨true, 0, 0, false⟩ else ⟨true, 0, -1, true⟩

/-- Two masks that overlap, of rails that are on. -/
theorem railsComeBack_overlap :
    RailsComeBack quietBus (fun _ => 0xff) ⟨3, 0, 0, 0, 1, 0⟩ Rails.init :=
  (railsComeBack_iff quietBus (fun _ => 0xff) ⟨3, 0, 0, 0, 1, 0⟩ Rails.init (fun _ => rfl)
    Rails.init_consistent rfl).mpr (by decide +kernel)

/-- A rail that is off is on afterwards, and one that is on stays off if the command that
switches it off fails and takes effect. -/
theorem railsComeBack_not_off :
    ¬ RailsComeBack quietBus (fun _ => 0x00) ⟨0, 0, 0, 0, 1, 0⟩ Rails.init ∧
    ¬ RailsComeBack deafBus (fun _ => 0xff) ⟨0, 0, 0, 0, 1, 0⟩ Rails.init := by
  refine ⟨fun h => ?_, fun h => ?_⟩
  · exact absurd (h 0 (by decide)) (by decide +kernel)
  · exact absurd (h 0 (by decide)) (by decide +kernel)

end A733Boot.Ar100s.Standby
