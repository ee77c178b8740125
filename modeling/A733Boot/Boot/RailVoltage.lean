/-
The voltages that `src/axp8191_voltage.c` selects, and what `a7s_axp8191_set_rail` of
`src/platform_shims.c` does with a selector.

* `railTable`: the ranges of a rail, over the naturals, as a table of the library;
* `voltageSelectorLoop_select`: the loop over the ranges is the search of the table, since
  none of its sums and products overflows;
* `UpdateTransfers`: what an update of bits puts on the bus;
* `a7sAxp8191SetRail_sent`: a positive voltage goes on the bus, and an error comes from
  the bus alone;
* `railVoltage_selected` (**voltage selection**): the least selector of the request clamped to
  the rail, for every rail and every request, and its way into the register.
-/
import A733Boot.Boot.Pmic
import A733Boot.Library.LinearRanges
import A733Boot.Library.Words

namespace A733Boot.Boot

/-! ### The ranges over the naturals -/

def A7sAxp8191LinearRange.range (r : A7sAxp8191LinearRange) : LinearRange :=
  ⟨r.minMv.toNat, r.minSelector.toNat, r.maxSelector.toNat, r.stepMv.toNat⟩

/-- The range passes the checks of the loop, and its sums fit into 32 bits. -/
def A7sAxp8191LinearRange.Sound (r : A7sAxp8191LinearRange) : Prop :=
  0 < r.range.step ∧ r.range.first ≤ r.range.last ∧ r.range.top + r.range.step < 2 ^ 32

instance (r : A7sAxp8191LinearRange) : Decidable r.Sound := inferInstanceAs (Decidable (_ ∧ _))

instance (r r' : LinearRange) : Decidable (r.Below r') := inferInstanceAs (Decidable (_ ∧ _))

lemma voltageDescs_sound (rail : A7sAxp8191VoltageRail) : ∀ r ∈ voltageDescs rail, r.Sound := by
  cases rail <;> decide

lemma voltageDescs_ascending (rail : A7sAxp8191VoltageRail) :
    ((voltageDescs rail).map (·.range)).Pairwise LinearRange.Below := by
  cases rail <;> decide

lemma voltageDescs_regular (rail : A7sAxp8191VoltageRail) :
    ∀ r ∈ (voltageDescs rail).map (·.range), r.Regular := by
  intro r hr
  obtain ⟨r, hmem, rfl⟩ := List.mem_map.mp hr
  have h := voltageDescs_sound rail r hmem
  exact ⟨h.1, h.2.1⟩

/-- The ranges of a rail. -/
def railTable (rail : A7sAxp8191VoltageRail) : RangeTable where
  ranges := (voltageDescs rail).map (·.range)
  regular := voltageDescs_regular rail
  ascending := voltageDescs_ascending rail

section Loop

variable {r : A7sAxp8191LinearRange} {v : UInt32}

lemma rangeMaxMv_toNat (h : r.Sound) : (rangeMaxMv r).toNat = r.range.top := by
  obtain ⟨hstep, hle, htop⟩ := h
  have hsub : (r.maxSelector - r.minSelector).toNat =
      r.maxSelector.toNat - r.minSelector.toNat :=
    UInt32.toNat_sub_of_le _ _ (UInt32.le_iff_toNat_le.mpr hle)
  have heq : r.range.top =
      r.minMv.toNat + (r.maxSelector.toNat - r.minSelector.toNat) * r.stepMv.toNat := rfl
  have hmul : ((r.maxSelector - r.minSelector) * r.stepMv).toNat =
      (r.maxSelector.toNat - r.minSelector.toNat) * r.stepMv.toNat := by
    rw [UInt32.toNat_mul, hsub, Nat.mod_eq_of_lt (by omega)]
  rw [rangeMaxMv, UInt32.toNat_add, hmul, Nat.mod_eq_of_lt (by omega), heq]

/-- The division rounded up, of a request above the base of the range and within reach. -/
lemma offset_toNat (h : r.Sound) (hmin : r.minMv < v) (hv : v.toNat ≤ r.range.top) :
    ((v - r.minMv + r.stepMv - 1) / r.stepMv).toNat =
      (v.toNat - r.range.base) ⌈/⌉ r.range.step := by
  obtain ⟨hstep, -, htop⟩ := h
  change 0 < r.stepMv.toNat at hstep
  change _ + r.stepMv.toNat < _ at htop
  have hlt : r.minMv.toNat < v.toNat := UInt32.lt_iff_toNat_lt.mp hmin
  have hsub : (v - r.minMv).toNat = v.toNat - r.minMv.toNat :=
    UInt32.toNat_sub_of_le _ _ (UInt32.le_of_lt hmin)
  have hadd : (v - r.minMv + r.stepMv).toNat = v.toNat - r.minMv.toNat + r.stepMv.toNat := by
    rw [UInt32.toNat_add, hsub, Nat.mod_eq_of_lt (by omega)]
  have hpred : (v - r.minMv + r.stepMv - 1).toNat =
      v.toNat - r.minMv.toNat + r.stepMv.toNat - 1 := by
    have hone : (1 : UInt32) ≤ v - r.minMv + r.stepMv := by
      rw [UInt32.le_iff_toNat_le, hadd]
      change 1 ≤ _
      omega
    rw [UInt32.toNat_sub_of_le _ _ hone, hadd]
    rfl
  rw [UInt32.toNat_div, hpred, Nat.ceilDiv_eq_add_pred_div]
  rfl

/-- The selector that the division gives is the one of the range. -/
lemma selector_toNat (h : r.Sound) (hmin : r.minMv < v) (hv : v.toNat ≤ r.range.top) :
    (r.minSelector + (v - r.minMv + r.stepMv - 1) / r.stepMv).toNat =
      r.range.first + (v.toNat - r.range.base) ⌈/⌉ r.range.step := by
  have hlast : r.range.first + (v.toNat - r.range.base) ⌈/⌉ r.range.step ≤
      r.maxSelector.toNat := (LinearRange.Regular.has_ceilDiv ⟨h.1, h.2.1⟩ hv).2
  have hfits := r.maxSelector.toNat_lt
  rw [UInt32.toNat_add, offset_toNat h hmin hv]
  exact Nat.mod_eq_of_lt (hlast.trans_lt hfits)

/-- The loop is the search of the table: none of its operations overflows, and the second
comparison with the last selector never holds. -/
lemma voltageSelectorLoop_select {ranges : List A7sAxp8191LinearRange}
    (h : ∀ r ∈ ranges, r.Sound) (v : UInt32) :
    (voltageSelectorLoop v ranges).map UInt32.toNat = select v.toNat (ranges.map (·.range)) := by
  induction ranges with
  | nil => rfl
  | cons r ranges ih =>
      have hr := h r List.mem_cons_self
      have hih := ih fun a ha => h a (List.mem_cons_of_mem _ ha)
      have hchecks : ¬ (r.stepMv = 0 ∨ r.maxSelector < r.minSelector) := by
        rintro (h0 | hlt)
        · have hpos : 0 < r.stepMv.toNat := hr.1
          rw [h0] at hpos
          exact absurd hpos (by decide)
        · exact absurd hr.2.1 (not_le.mpr (UInt32.lt_iff_toNat_lt.mp hlt))
      have hreach : rangeMaxMv r < v ↔ r.range.top < v.toNat := by
        rw [UInt32.lt_iff_toNat_lt, rangeMaxMv_toNat hr]
      rw [voltageSelectorLoop, if_neg hchecks, List.map_cons, select]
      by_cases htop : r.range.top < v.toNat
      · rw [if_pos (hreach.mpr htop), if_pos htop, hih]
      · rw [if_neg (mt hreach.mp htop), if_neg htop]
        by_cases hmin : v ≤ r.minMv
        · -- nothing is added to the first selector
          have hzero : v.toNat - r.range.base = 0 :=
            Nat.sub_eq_zero_of_le (UInt32.le_iff_toNat_le.mp hmin)
          rw [if_pos hmin, hzero, zero_ceilDiv]
          rfl
        · have hsum := selector_toNat hr (UInt32.not_le.mp hmin) (not_lt.mp htop)
          have hhas := LinearRange.Regular.has_ceilDiv ⟨hr.1, hr.2.1⟩ (not_lt.mp htop)
          have hwithin : ¬ r.maxSelector <
              r.minSelector + (v - r.minMv + r.stepMv - 1) / r.stepMv := by
            rw [UInt32.lt_iff_toNat_lt, hsum]
            exact not_lt.mpr hhas.2
          rw [if_neg hmin, if_neg hwithin, Option.map_some, hsum]

end Loop

/-! ### The selector of a rail -/

/-- The least and the greatest voltage of a rail. -/
lemma railTable_bounds (rail : A7sAxp8191VoltageRail) :
    ∃ first last, (voltageDescs rail).head? = some first ∧
      (voltageDescs rail).getLast? = some last ∧
      IsLeast (railTable rail).values first.range.base ∧
      IsGreatest (railTable rail).values last.range.top := by
  have hne : voltageDescs rail ≠ [] := by cases rail <;> exact List.cons_ne_nil _ _
  obtain ⟨first, rest, hfirst⟩ := List.exists_cons_of_ne_nil hne
  obtain ⟨init, last, hlast⟩ := (List.eq_nil_or_concat (voltageDescs rail)).resolve_left hne
  have hranges : (railTable rail).ranges = first.range :: rest.map (·.range) := by
    change (voltageDescs rail).map (·.range) = _
    rw [hfirst, List.map_cons]
  have hranges' : (railTable rail).ranges = init.map (·.range) ++ [last.range] := by
    change (voltageDescs rail).map (·.range) = _
    rw [hlast, List.concat_eq_append, List.map_append]
    rfl
  refine ⟨first, last, ?_, ?_, (railTable rail).isLeast_values hranges,
    (railTable rail).isGreatest_values hranges'⟩
  · rw [hfirst, List.head?_cons]
  · rw [hlast, List.concat_eq_append, List.getLast?_append, List.getLast?_singleton]
    rfl

/-- The two clamps of the code. -/
lemma clamped_toNat {first last : A7sAxp8191LinearRange} (hlast : last.Sound) (v : UInt32) :
    (if rangeMaxMv last < (if v < first.minMv then first.minMv else v) then
      rangeMaxMv last else if v < first.minMv then first.minMv else v).toNat =
        min (max v.toNat first.range.base) last.range.top := by
  have hlow : (if v < first.minMv then first.minMv else v).toNat =
      max v.toNat first.range.base := by
    change _ = max v.toNat first.minMv.toNat
    by_cases h : v < first.minMv
    · rw [if_pos h, max_eq_right (UInt32.lt_iff_toNat_lt.mp h).le]
    · rw [if_neg h, max_eq_left (not_lt.mp (mt UInt32.lt_iff_toNat_lt.mpr h))]
  by_cases h : rangeMaxMv last < if v < first.minMv then first.minMv else v
  · have hlt := UInt32.lt_iff_toNat_lt.mp h
    rw [hlow, rangeMaxMv_toNat hlast] at hlt
    rw [if_pos h, rangeMaxMv_toNat hlast, min_eq_right hlt.le]
  · have hle := not_lt.mp (mt UInt32.lt_iff_toNat_lt.mpr h)
    rw [hlow, rangeMaxMv_toNat hlast] at hle
    rw [if_neg h, hlow, min_eq_left hle]

/-- The selector is the least one of the request clamped to the rail. -/
lemma a7sAxp8191VoltageSelector_isLeast {rail : A7sAxp8191VoltageRail} {lo hi : ℕ}
    (hlo : IsLeast (railTable rail).values lo) (hhi : IsGreatest (railTable rail).values hi)
    (v : UInt32) :
    ∃ s, a7sAxp8191VoltageSelector rail v = some s ∧
      IsLeast ((railTable rail).reaching (min (max v.toNat lo) hi)) s.toNat := by
  obtain ⟨first, last, hfirst, hlast, hmin, hmax⟩ := railTable_bounds rail
  obtain rfl := hlo.unique hmin
  obtain rfl := hhi.unique hmax
  have hsound : last.Sound := voltageDescs_sound rail last (List.mem_of_getLast? hlast)
  have hloop := voltageSelectorLoop_select (voltageDescs_sound rail)
    (if rangeMaxMv last < (if v < first.minMv then first.minMv else v) then
      rangeMaxMv last else if v < first.minMv then first.minMv else v)
  rw [clamped_toNat hsound] at hloop
  obtain ⟨t, ht, hleast⟩ := (railTable rail).select_isLeast
    (x := min (max v.toNat first.range.base) last.range.top) ⟨_, hmax.1, min_le_right _ _⟩
  obtain ⟨s, hs, rfl⟩ := Option.map_eq_some_iff.mp (hloop.trans ht)
  refine ⟨s, ?_, hleast⟩
  rw [a7sAxp8191VoltageSelector, hfirst, hlast]
  exact hs

/-- The masks of the rails leave room for their selectors. -/
lemma a7sDramRails_room :
    ∀ entry ∈ a7sDramRails, ∃ k, entry.voltageMask.toNat = 2 ^ k - 1 ∧ k ≤ 8 ∧
      ∀ r ∈ voltageDescs entry.voltageRail, r.maxSelector.toNat < 2 ^ k := by
  intro entry hentry
  simp only [a7sDramRails, List.mem_cons, List.not_mem_nil, or_false] at hentry
  obtain rfl | rfl | rfl | rfl | rfl | rfl := hentry
  · exact ⟨7, by decide⟩
  · exact ⟨7, by decide⟩
  · exact ⟨7, by decide⟩
  · exact ⟨6, by decide⟩
  · exact ⟨6, by decide⟩
  · exact ⟨5, by decide⟩

/-- A selector of a rail fits the mask of its entry. -/
lemma selector_fits {entry : A7sAxp8191Rail} (hentry : entry ∈ a7sDramRails) {s : UInt32} {x : ℕ}
    (hs : s.toNat ∈ (railTable entry.voltageRail).reaching x) :
    s &&& ~~~entry.voltageMask.toUInt32 = 0 ∧
      (s.toUInt8 &&& entry.voltageMask).toNat = s.toNat := by
  obtain ⟨k, hmask, hk, hroom⟩ := a7sDramRails_room entry hentry
  obtain ⟨r, hr, hhas, -⟩ := (railTable entry.voltageRail).mem_reaching.mp hs
  obtain ⟨r, hmem, rfl⟩ := List.mem_map.mp hr
  have hlt : s.toNat < 2 ^ k := lt_of_le_of_lt hhas.2 (hroom r hmem)
  have hpow : 2 ^ k ≤ 2 ^ 8 := Nat.pow_le_pow_right (by decide) hk
  have hand : s &&& entry.voltageMask.toUInt32 = s := by
    rw [← UInt32.toNat_inj, UInt32.toNat_and, UInt8.toNat_toUInt32, hmask,
      Nat.and_two_pow_sub_one_of_lt_two_pow hlt]
  constructor
  · rw [← hand, UInt32.and_assoc, UInt32.and_not_self, UInt32.and_zero]
  · rw [UInt8.toNat_and, UInt32.toNat_toUInt8, hmask, Nat.mod_eq_of_lt (hlt.trans_le hpow),
      Nat.and_two_pow_sub_one_of_lt_two_pow hlt]

/-! ### The way into the register -/

/-- What an update of bits puts on the bus: a read that fails, or a read and the write of a
byte that has the bits of `value` under the mask and those read elsewhere. -/
inductive UpdateTransfers (reg mask value : UInt8) : List Issued → Prop
  | unread (r : Issued) (hr : r.transfer = .read axp8191RuntimeAddr reg)
      (hfail : r.answer.status ≠ 0) : UpdateTransfers reg mask value [r]
  | written (r w : Issued) (new : UInt8) (hr : r.transfer = .read axp8191RuntimeAddr reg)
      (hok : r.answer.status = 0) (hw : w.transfer = .write axp8191RuntimeAddr reg new)
      (hin : new &&& mask = value &&& mask)
      (hout : new &&& ~~~mask = r.answer.value &&& ~~~mask) : UpdateTransfers reg mask value [r, w]

/-- The status is zero when every transfer has succeeded, and only then. -/
def StatusOf (status : ℤ) (sent : List Issued) : Prop :=
  status = 0 ↔ ∀ r ∈ sent, r.answer.status = 0

lemma and_or_distrib_byte (a b c : UInt8) : (a ||| b) &&& c = a &&& c ||| b &&& c :=
  UInt8.toBitVec_inj.mp BitVec.and_or_distrib_right

lemma update_inside (old value mask : UInt8) :
    (old &&& ~~~mask ||| value &&& mask) &&& mask = value &&& mask :=
  calc (old &&& ~~~mask ||| value &&& mask) &&& mask
      = old &&& (~~~mask &&& mask) ||| value &&& (mask &&& mask) := by
        rw [and_or_distrib_byte, UInt8.and_assoc, UInt8.and_assoc]
    _ = value &&& mask := by
        rw [UInt8.not_and_self, UInt8.and_zero, UInt8.zero_or, UInt8.and_self]

lemma update_outside (old value mask : UInt8) :
    (old &&& ~~~mask ||| value &&& mask) &&& ~~~mask = old &&& ~~~mask :=
  calc (old &&& ~~~mask ||| value &&& mask) &&& ~~~mask
      = old &&& (~~~mask &&& ~~~mask) ||| value &&& (mask &&& ~~~mask) := by
        rw [and_or_distrib_byte, UInt8.and_assoc, UInt8.and_assoc]
    _ = old &&& ~~~mask := by
        rw [UInt8.and_not_self, UInt8.and_zero, UInt8.or_zero, UInt8.and_self]

lemma StatusOf.append {status : ℤ} {sent sent' : List Issued} (h : StatusOf 0 sent)
    (h' : StatusOf status sent') : StatusOf status (sent ++ sent') := by
  rw [StatusOf, List.forall_mem_append, and_iff_right (h.mp rfl)]
  exact h'

/-- A failure that is turned into `-1`. -/
lemma StatusOf.failed {status : ℤ} {sent : List Issued} (h : StatusOf status sent)
    (hne : status ≠ 0) : StatusOf (-1) sent :=
  ⟨fun h0 => absurd h0 (by decide), fun hall => absurd (h.mpr hall) hne⟩

section Operations

variable (bus : ℕ → Answer)

lemma a7sAxp8191UpdateBits_transfers {log : List Issued} (reg mask value : UInt8) :
    Triple (fun b => b.log = log) (a7sAxp8191UpdateBits bus reg mask value) fun status b =>
      ∃ sent, b.log = log ++ sent ∧ UpdateTransfers reg mask value sent ∧
        StatusOf status sent := by
  have hread : Triple (fun b => b.log = log) (pmicBusRead bus axp8191RuntimeAddr reg) fun x b =>
      ∃ r, b.log = log ++ [r] ∧ r.transfer = .read axp8191RuntimeAddr reg ∧
        r.answer.status = x.1 ∧ r.answer.value = x.2 := by
    rintro b rfl
    exact ⟨_, rfl, rfl, rfl, rfl⟩
  refine hread.bind fun x => .ite (fun hfail => .pure ?_) fun hok => ?_
  · rintro b ⟨r, hlog, hr, hstatus, -⟩
    have hne : r.answer.status ≠ 0 := hstatus ▸ hfail
    refine ⟨[r], hlog, .unread r hr hne, fun h0 => absurd h0 (by decide), fun hall => ?_⟩
    exact absurd (hall r List.mem_cons_self) hne
  · rintro b ⟨r, hlog, hr, hstatus, hvalue⟩
    have hzero : r.answer.status = 0 := hstatus.trans (not_not.mp hok)
    let w : Issued := ⟨.write axp8191RuntimeAddr reg (x.2 &&& ~~~mask ||| value &&& mask),
      bus b.log.length, b.pmic, b.ready⟩
    refine ⟨[r, w], ?_, .written r w _ hr hzero rfl (update_inside _ _ _) ?_, ?_⟩
    · change b.log ++ [w] = _
      rw [hlog, List.append_assoc]
      rfl
    · rw [update_outside, hvalue]
    · change w.answer.status = 0 ↔ _
      rw [List.forall_mem_cons, and_iff_right hzero, List.forall_mem_singleton]

/-- A positive voltage of a rail of the table is never turned down: its selector is sent, and
what is returned tells whether the bus took it. -/
lemma setRailVoltage_transfers {log : List Issued} {entry : A7sAxp8191Rail} {setVol : ℤ}
    {s : UInt32} (hpos : 0 < setVol)
    (hs : a7sAxp8191VoltageSelector entry.voltageRail (UInt32.ofInt setVol) = some s)
    (hfits : s &&& ~~~entry.voltageMask.toUInt32 = 0) :
    Triple (fun b => b.log = log) (setRailVoltage bus entry setVol) fun status b =>
      ∃ sent, b.log = log ++ sent ∧
        UpdateTransfers entry.voltageReg entry.voltageMask s.toUInt8 sent ∧
        StatusOf status sent := by
  rw [setRailVoltage, if_pos hpos, hs]
  dsimp only
  rw [if_neg (not_not.mpr hfits)]
  refine .checked (a7sAxp8191UpdateBits_transfers bus _ _ _) (fun status hne => .pure ?_) ?_
  · rintro b ⟨sent, hlog, htransfers, hstatus⟩
    exact ⟨sent, hlog, htransfers, hstatus.failed hne⟩
  · exact .pure fun b h => h

/-- After the transfers `log`, the selector went to the voltage of the rail, and the enable bit
may have followed; the status tells whether the bus took all of it. -/
def RailSent (entry : A7sAxp8191Rail) (s : UInt32) (onoff : ℤ) (log : List Issued) (status : ℤ)
    (b : Board) : Prop :=
  ∃ voltage enable, b.log = log ++ voltage ++ enable ∧
    UpdateTransfers entry.voltageReg entry.voltageMask s.toUInt8 voltage ∧
    (enable = [] ∨ UpdateTransfers entry.enableReg ((1 : UInt8) <<< entry.enableBit)
      (if onoff ≠ 0 then (1 : UInt8) <<< entry.enableBit else 0) enable) ∧
    StatusOf status (voltage ++ enable)

/-- The voltage alone has been sent. -/
lemma RailSent.of_voltage {entry : A7sAxp8191Rail} {s : UInt32} {onoff : ℤ}
    {log sent : List Issued} {status : ℤ} {b : Board} (hlog : b.log = log ++ sent)
    (hsent : UpdateTransfers entry.voltageReg entry.voltageMask s.toUInt8 sent)
    (hstatus : StatusOf status sent) : RailSent entry s onoff log status b := by
  refine ⟨sent, [], ?_, hsent, .inl rfl, ?_⟩
  · rw [hlog, List.append_nil]
  · rwa [List.append_nil]

/-- What `a7s_axp8191_set_rail` sends once the driver is up. -/
lemma a7sAxp8191SetRail_sent {name : String} {entry : A7sAxp8191Rail}
    (hentry : a7sAxp8191FindRail name = some entry) {setVol : ℤ} {s : UInt32} (hpos : 0 < setVol)
    (hs : a7sAxp8191VoltageSelector entry.voltageRail (UInt32.ofInt setVol) = some s)
    (hfits : s &&& ~~~entry.voltageMask.toUInt32 = 0) (onoff : ℤ) (b : Board)
    (hinit : (a7sAxp8191Init bus b).1 = 0) :
    RailSent entry s onoff (a7sAxp8191Init bus b).2.log
      (a7sAxp8191SetRail bus name setVol onoff b).1
      (a7sAxp8191SetRail bus name setVol onoff b).2 := by
  have hrest : Triple (fun b' : Board => b'.log = (a7sAxp8191Init bus b).2.log)
      (do
        let status ← setRailVoltage bus entry setVol
        if status ≠ 0 then pure (-1) else
        if onoff < 0 then pure 0 else
        a7sAxp8191UpdateBits bus entry.enableReg ((1 : UInt8) <<< entry.enableBit)
          (if onoff ≠ 0 then (1 : UInt8) <<< entry.enableBit else 0))
      (RailSent entry s onoff (a7sAxp8191Init bus b).2.log) := by
    refine .checked (setRailVoltage_transfers bus hpos hs hfits) (fun status hne => .pure ?_)
      (.ite (fun _ => .pure ?_) fun _ => ?_)
    · rintro b' ⟨sent, hlog, hsent, hstatus⟩
      exact .of_voltage hlog hsent (hstatus.failed hne)
    · rintro b' ⟨sent, hlog, hsent, hstatus⟩
      exact .of_voltage hlog hsent hstatus
    · rintro b' ⟨sent, hlog, hsent, hstatus⟩
      obtain ⟨enable, hlog', henable, hstatus'⟩ := a7sAxp8191UpdateBits_transfers bus
        entry.enableReg ((1 : UInt8) <<< entry.enableBit)
        (if onoff ≠ 0 then (1 : UInt8) <<< entry.enableBit else 0) b' rfl
      refine ⟨sent, enable, ?_, hsent, .inr henable, hstatus.append hstatus'⟩
      rw [hlog', hlog]
  have hrun := hrest (a7sAxp8191Init bus b).2 rfl
  rw [a7sAxp8191SetRail, hentry]
  change RailSent entry s onoff _
    ((if (a7sAxp8191Init bus b).1 ≠ 0 then _ else _ : BoardM ℤ) (a7sAxp8191Init bus b).2).1
    ((if (a7sAxp8191Init bus b).1 ≠ 0 then _ else _ : BoardM ℤ) (a7sAxp8191Init bus b).2).2
  rw [if_neg (not_not.mpr hinit)]
  exact hrun

/-- **Voltage selection.** For every rail and every request, the selector is the least one
whose voltage is at least the request clamped to the rail; its voltage grows with the request,
is not below a request that the rail reaches, and the selector fits the mask of every entry of
the rail. So a positive voltage is never turned down by `a7s_axp8191_set_rail`: once the driver
is up the selector goes on the bus, under the mask, the other bits as they were read, and an
error is one of the bus. -/
theorem railVoltage_selected :
    (∀ rail, ∃ lo hi, IsLeast (railTable rail).values lo ∧ IsGreatest (railTable rail).values hi ∧
      ∀ v : UInt32, ∃ s u, a7sAxp8191VoltageSelector rail v = some s ∧
        (railTable rail).value s.toNat = some u ∧
        IsLeast ((railTable rail).reaching (min (max v.toNat lo) hi)) s.toNat ∧
        (v.toNat ≤ hi → v.toNat ≤ u) ∧
        (∀ v' s' u', v ≤ v' → a7sAxp8191VoltageSelector rail v' = some s' →
          (railTable rail).value s'.toNat = some u' → u ≤ u') ∧
        ∀ entry ∈ a7sDramRails, entry.voltageRail = rail →
          s &&& ~~~entry.voltageMask.toUInt32 = 0) ∧
    ∀ name entry, a7sAxp8191FindRail name = some entry → ∀ setVol onoff : ℤ, 0 < setVol →
      ∀ b, (a7sAxp8191Init bus b).1 = 0 → ∃ s,
        a7sAxp8191VoltageSelector entry.voltageRail (UInt32.ofInt setVol) = some s ∧
        (s.toUInt8 &&& entry.voltageMask).toNat = s.toNat ∧
        RailSent entry s onoff (a7sAxp8191Init bus b).2.log
          (a7sAxp8191SetRail bus name setVol onoff b).1
          (a7sAxp8191SetRail bus name setVol onoff b).2 := by
  constructor
  · intro rail
    obtain ⟨first, last, -, -, hlo, hhi⟩ := railTable_bounds rail
    refine ⟨_, _, hlo, hhi, fun v => ?_⟩
    obtain ⟨s, hs, hleast⟩ := a7sAxp8191VoltageSelector_isLeast hlo hhi v
    obtain ⟨u, hu, hreach⟩ := hleast.1
    refine ⟨s, u, hs, hu, hleast, fun hv => ?_, ?_, ?_⟩
    · exact le_trans (le_min (le_max_left _ _) hv) hreach
    · intro v' s' u' hle hs' hu'
      obtain ⟨t, ht, hleast'⟩ := a7sAxp8191VoltageSelector_isLeast hlo hhi v'
      obtain rfl : s' = t := Option.some.inj (hs'.symm.trans ht)
      have hclamp : min (max v.toNat first.range.base) last.range.top ≤
          min (max v'.toNat first.range.base) last.range.top :=
        min_le_min_right _ (max_le_max_right _ (UInt32.le_iff_toNat_le.mp hle))
      exact (railTable rail).value_mono_of_isLeast hclamp hleast hleast' hu hu'
    · rintro entry hentry rfl
      exact (selector_fits hentry hleast.1).1
  · intro name entry hentry setVol onoff hpos b hinit
    obtain ⟨first, last, -, -, hlo, hhi⟩ := railTable_bounds entry.voltageRail
    obtain ⟨s, hs, hleast⟩ := a7sAxp8191VoltageSelector_isLeast hlo hhi (UInt32.ofInt setVol)
    obtain ⟨hfits, hfield⟩ := selector_fits (List.mem_of_find?_eq_some hentry) hleast.1
    exact ⟨s, hs, hfield, a7sAxp8191SetRail_sent bus hentry hpos hs hfits onoff b hinit⟩

/-- A request just above the second range of `dcdc6`, on a bus that answers every transfer. -/
theorem railVoltage_selected_dcdc6 :
    a7sAxp8191VoltageSelector .dcdc6 1541 = some 0x58 ∧
      (a7sAxp8191SetRail (fun _ => ⟨0, axp8191ChipIdA, true⟩) "dcdc6" 1541 1
        ⟨.normal, false, [], ⟨fun _ => 0, 0, []⟩⟩).1 = 0 ∧
      ∃ s, a7sAxp8191VoltageSelector .dcdc6 (UInt32.ofInt 1541) = some s ∧
        (s.toUInt8 &&& 0x7f).toNat = s.toNat := by
  refine ⟨by decide, by decide, ?_⟩
  obtain ⟨s, hs, hfield, -⟩ :=
    (railVoltage_selected fun _ => ⟨0, axp8191ChipIdA, true⟩).2 "dcdc6"
      ⟨"dcdc6", axp8191Dcdc6Vol, 0x7f, axp8191DcdcCtrl1, 5, .dcdc6⟩ (by rfl) 1541 1 (by decide)
      ⟨.normal, false, [], ⟨fun _ => 0, 0, []⟩⟩ (by decide)
  exact ⟨s, hs, hfield⟩

end Operations

end A733Boot.Boot
