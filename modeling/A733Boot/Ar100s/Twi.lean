/-
The divider of the two-wire interface, `twic_set_sclk`.

The code looks for a divider `M` of 1 to 16 for each power of two `N`, but starts `M` at zero
only once: after the first row of the search there is none left.

* `innerLoop`, `outerLoop`, `twicSetSclk`: the search and the write of its result. The search
  has no result where it divides by zero or its rounds run out;
* `sclk`: the bus clock behind a divider, the less the greater the divider (`sclk_anti`);
* `innerLoop_spec`: a row of the search finds the least `M` of it, or ends behind the last;
* `twicSetSclk_eq`: what is written, the least `M` of the first row or the fields `16` and `8`;
* **`twicSetSclk_bounded_iff`**: the bus is not clocked faster than requested exactly when the
  slowest clock of the first row is slow enough, or none at all is.
-/
import A733Boot.Ar100s.Ccu

namespace A733Boot.Ar100s.Twi

open Fueled Ccu

/-! ### The code -/

def twiCkr : ℕ := 0x07083000 + 0x14

/-- A division, which has no result for a divisor of zero. -/
def udiv (a b : UInt32) : Option UInt32 := if b = 0 then none else some (a / b)

/-- The inner loop from `clk_m` on, with a bound on its rounds: whether it left the search,
and the `clk_m` that it leaves behind. -/
def innerLoop (srcClk clk : UInt32) (powClkN : UInt8) : ℕ → UInt8 → Option (Bool × UInt8)
  | 0, _ => none
  | fuel + 1, clkM =>
    if clkM < 16 then do
      let q ← udiv srcClk (clkM.toUInt32 + 1)
      let q ← udiv q powClkN.toUInt32
      let sclkReal ← udiv q 10
      if sclkReal ≤ clk then pure (true, clkM)
      else innerLoop srcClk clk powClkN fuel (clkM + 1)
    else some (false, clkM)

/-- The outer loop from `clk_m`, `clk_n` and the power of two on; `inner` bounds the rounds of
each inner loop. The power is a byte, and wraps to zero in the eighth round. -/
def outerLoop (srcClk clk : UInt32) (inner : ℕ) :
    ℕ → UInt8 → UInt8 → UInt8 → Option (UInt8 × UInt8)
  | 0, _, _, _ => none
  | fuel + 1, clkM, clkN, powClkN =>
    if clkN < 8 then do
      let clkN := clkN + 1
      let powClkN := powClkN * 2
      let (out, clkM) ← innerLoop srcClk clk powClkN inner clkM
      if out then pure (clkM, clkN) else outerLoop srcClk clk inner fuel clkM clkN powClkN
    else some (clkM, clkN)

def twicSetSclk (d : Device) (osc : Oscillators) (clk : UInt32) (fuel : ℕ) : Fueled Unit := do
  let srcClk ← ccuGetSclkFreq d osc .apbs2
  let (clkM, clkN) ← (fun s => (outerLoop srcClk clk fuel fuel 0 0 1).map (·, s) :
    Fueled (UInt8 × UInt8))
  writel (clkM.toUInt32 <<< 3 ||| clkN.toUInt32) twiCkr

/-! ### Specification -/

/-- The clock of the bus for the divider `m` and the power `n`, rounded down at each step. -/
def sclk (src m n : ℕ) : ℕ := src / (m + 1) / 2 ^ n / 10

/-- The word has `m` in bits 6 to 3, `n` in bits 2 to 0, and nothing above. -/
def Fields (w : UInt32) (m n : ℕ) : Prop := w.toNat = m * 2 ^ 3 + n ∧ m ≤ 15 ∧ n ≤ 7

/-- Some divider that fits the register gives a clock of at most `clk`. -/
def Attainable (src clk : ℕ) : Prop := ∃ m n, m ≤ 15 ∧ 1 ≤ n ∧ n ≤ 7 ∧ sclk src m n ≤ clk

/-- The search ends without a division by zero, and the divider that it writes gives a clock of
at most `clk`, if there is one that does. -/
def Bounded (d : Device) (osc : Oscillators) (clk : UInt32) (s : Regs) : Prop :=
  ∃ bound, ∀ fuel ≥ bound, ∃ s' w, twicSetSclk d osc clk fuel s = some ((), s') ∧
    s'.writes = s.writes ++ [(twiCkr, w)] ∧
    (Attainable (apbs2Freq osc (d.view s apbs1CfgReg)).toNat clk.toNat →
      ∃ m n, Fields w m n ∧ 1 ≤ n ∧
        sclk (apbs2Freq osc (d.view s apbs1CfgReg)).toNat m n ≤ clk.toNat)

/-- A greater divider gives a slower clock. -/
lemma sclk_anti (src : ℕ) {m m' n n' : ℕ} (hm : m ≤ m') (hn : n ≤ n') :
    sclk src m' n' ≤ sclk src m n :=
  Nat.div_le_div_right <|
    calc src / (m' + 1) / 2 ^ n' ≤ src / (m + 1) / 2 ^ n' :=
          Nat.div_le_div_right (Nat.div_le_div_left (by omega) (by omega))
      _ ≤ src / (m + 1) / 2 ^ n :=
          Nat.div_le_div_left (Nat.pow_le_pow_right (by omega) hn) (Nat.two_pow_pos n)

lemma attainable_iff (src clk : ℕ) : Attainable src clk ↔ sclk src 15 7 ≤ clk := by
  constructor
  · rintro ⟨m, n, hm, -, hn, hle⟩
    exact (sclk_anti src hm hn).trans hle
  · exact fun h => ⟨15, 7, le_rfl, by omega, le_rfl, h⟩

/-! ### The search -/

section Search

variable {src clk : UInt32}

lemma udiv_of_pos {a b : UInt32} (h : 0 < b.toNat) : udiv a b = some (a / b) := by
  rw [udiv, if_neg]
  rintro rfl
  exact absurd h (by decide)

/-- One round of the inner loop. -/
lemma innerLoop_round {pow m : UInt8} {n : ℕ} (hpow : pow.toNat = 2 ^ n) (hm : m.toNat < 16)
    (fuel : ℕ) : innerLoop src clk pow (fuel + 1) m =
      if sclk src.toNat m.toNat n ≤ clk.toNat then some (true, m)
      else innerLoop src clk pow fuel (m + 1) := by
  have hm1 : (m.toUInt32 + 1).toNat = m.toNat + 1 := by
    rw [UInt32.toNat_add, UInt8.toNat_toUInt32, show UInt32.toNat 1 = 1 from rfl]
    omega
  have hsclk : (src / (m.toUInt32 + 1) / pow.toUInt32 / 10 ≤ clk) ↔
      sclk src.toNat m.toNat n ≤ clk.toNat := by
    rw [UInt32.le_iff_toNat_le, UInt32.toNat_div, UInt32.toNat_div, UInt32.toNat_div, hm1,
      UInt8.toNat_toUInt32, hpow]
    rfl
  have hpos : 0 < pow.toUInt32.toNat := by
    rw [UInt8.toNat_toUInt32, hpow]
    exact Nat.two_pow_pos n
  rw [innerLoop, if_pos (UInt8.lt_iff_toNat_lt.mpr hm), udiv_of_pos (by omega)]
  simp only [Option.bind_eq_bind, Option.bind_some, udiv_of_pos hpos,
    udiv_of_pos (show 0 < UInt32.toNat 10 by decide), Option.pure_def, hsclk]

/-- A row of the search: it ends at the least divider of the row that is slow enough, or behind
the last one if there is none. -/
lemma innerLoop_spec (src clk : UInt32) {pow m : UInt8} {n : ℕ} (hpow : pow.toNat = 2 ^ n)
    {fuel : ℕ} (hm : m.toNat ≤ 16) (hfuel : 17 - m.toNat ≤ fuel) :
    ∃ k : UInt8, innerLoop src clk pow fuel m = some (decide (k < 16), k) ∧ k.toNat ≤ 16 ∧
      (k.toNat < 16 → sclk src.toNat k.toNat n ≤ clk.toNat) ∧
      ∀ j, m.toNat ≤ j → j < k.toNat → clk.toNat < sclk src.toNat j n := by
  induction fuel generalizing m with
  | zero => omega
  | succ fuel ih =>
    by_cases hlast : m.toNat < 16
    · rw [innerLoop_round hpow hlast]
      split
      · rename_i hslow
        have hlt : m < 16 := UInt8.lt_iff_toNat_lt.mpr hlast
        exact ⟨m, by rw [decide_eq_true hlt], hm, fun _ => hslow, fun j hj hj' => by omega⟩
      · rename_i hfast
        have hnext : (m + 1).toNat = m.toNat + 1 := by
          rw [UInt8.toNat_add, show UInt8.toNat 1 = 1 from rfl]
          omega
        obtain ⟨k, hk, hle, hslow, hbefore⟩ := ih (m := m + 1) (by omega) (by omega)
        refine ⟨k, hk, hle, hslow, fun j hj hj' => ?_⟩
        rcases Nat.eq_or_lt_of_le hj with rfl | hj
        · exact Nat.lt_of_not_le hfast
        · exact hbefore j (by omega) hj'
    · have hge : ¬ m < 16 := fun h => hlast (UInt8.lt_iff_toNat_lt.mp h)
      refine ⟨m, ?_, hm, fun h => absurd h hlast, fun j hj hj' => by omega⟩
      rw [innerLoop, if_neg hge, decide_eq_false hge]

/-- With no divider left, the outer loop counts to its end. -/
lemma outerLoop_exhausted {inner fuel : ℕ} {n : UInt8} (pow : UInt8) (hn : n.toNat ≤ 8)
    (hfuel : 9 - n.toNat ≤ fuel) :
    outerLoop src clk (inner + 1) fuel 16 n pow = some (16, 8) := by
  induction fuel generalizing n pow with
  | zero => omega
  | succ fuel ih =>
    by_cases hlast : n.toNat < 8
    · have hnext : (n + 1).toNat = n.toNat + 1 := by
        rw [UInt8.toNat_add, show UInt8.toNat 1 = 1 from rfl]
        omega
      rw [outerLoop, if_pos (UInt8.lt_iff_toNat_lt.mpr hlast)]
      simp only [innerLoop, show ¬ (16 : UInt8) < 16 by decide, if_false, Option.bind_eq_bind,
        Option.bind_some, Bool.false_eq_true]
      exact ih (pow * 2) (by omega) (by omega)
    · have heq : n = 8 := UInt8.toNat_inj.mp (show n.toNat = 8 by omega)
      rw [heq, outerLoop, if_neg (by decide)]

/-- The divider that the search ends with: the least of the first row, if there is one. -/
lemma outerLoop_spec (src clk : UInt32) {fuel : ℕ} (hfuel : 17 ≤ fuel) :
    (∃ k : UInt8, k.toNat < 16 ∧ sclk src.toNat k.toNat 1 ≤ clk.toNat ∧
        outerLoop src clk fuel fuel 0 0 1 = some (k, 1)) ∨
      clk.toNat < sclk src.toNat 15 1 ∧ outerLoop src clk fuel fuel 0 0 1 = some (16, 8) := by
  obtain ⟨fuel, rfl⟩ : ∃ f, fuel = f + 1 := ⟨fuel - 1, by omega⟩
  obtain ⟨k, hk, hle, hslow, hbefore⟩ := innerLoop_spec src clk
    (show (2 : UInt8).toNat = 2 ^ 1 from rfl) (show (0 : UInt8).toNat ≤ 16 by decide)
    (show 17 - 0 ≤ fuel + 1 by omega)
  have hround : outerLoop src clk (fuel + 1) (fuel + 1) 0 0 1 =
      if k < 16 then some (k, 1) else outerLoop src clk (fuel + 1) fuel k 1 2 := by
    rw [outerLoop, if_pos (by decide)]
    simp only [show (1 : UInt8) * 2 = 2 from rfl, show (0 : UInt8) + 1 = 1 from rfl, hk,
      Option.bind_eq_bind, Option.bind_some, decide_eq_true_eq, Option.pure_def]
  by_cases hfound : k.toNat < 16
  · refine Or.inl ⟨k, hfound, hslow hfound, ?_⟩
    rw [hround, if_pos (UInt8.lt_iff_toNat_lt.mpr hfound)]
  · have heq : k = 16 := UInt8.toNat_inj.mp (show k.toNat = 16 by omega)
    refine Or.inr ⟨hbefore 15 (Nat.zero_le _) (by omega), ?_⟩
    rw [hround, heq, if_neg (by decide)]
    exact outerLoop_exhausted 2 (by decide) (show 9 - 1 ≤ fuel by omega)

end Search

/-! ### The register -/

/-- The divider of the search is written to the register, and nothing else. -/
lemma twicSetSclk_eq (d : Device) (osc : Oscillators) {clk : UInt32} {fuel : ℕ} {s : Regs}
    {m n : UInt8}
    (h : outerLoop (apbs2Freq osc (d.view s apbs1CfgReg)) clk fuel fuel 0 0 1 = some (m, n)) :
    ∃ s', twicSetSclk d osc clk fuel s = some ((), s') ∧
      s'.writes = s.writes ++ [(twiCkr, m.toUInt32 <<< 3 ||| n.toUInt32)] := by
  have hsearch : (fun t => (outerLoop (apbs2Freq osc (d.view s apbs1CfgReg)) clk fuel fuel
      0 0 1).map (·, t) : Fueled (UInt8 × UInt8)) (readl d apbs1CfgReg s).2
        = some ((m, n), (readl d apbs1CfgReg s).2) := by
    simp only [h, Option.map_some]
  refine ⟨(writel (m.toUInt32 <<< 3 ||| n.toUInt32) twiCkr (readl d apbs1CfgReg s).2).2, ?_, rfl⟩
  rw [twicSetSclk, lift_bind, show (ccuGetSclkFreq d osc .apbs2 s).1
    = apbs2Freq osc (d.view s apbs1CfgReg) from rfl,
    bind_of_some _ hsearch]
  rfl

lemma fields_found : ∀ k < 16,
    ((UInt8.ofNat k).toUInt32 <<< 3 ||| UInt8.toUInt32 1).toNat = k * 2 ^ 3 + 1 := by
  decide

section Bounded

variable {d : Device} {osc : Oscillators} {clk : UInt32} {s : Regs}

/-- The word of an exhausted search fits no field, so there must have been no divider. -/
lemma Bounded.row (h : Bounded d osc clk s) :
    sclk (apbs2Freq osc (d.view s apbs1CfgReg)).toNat 15 1 ≤ clk.toNat ∨
      clk.toNat < sclk (apbs2Freq osc (d.view s apbs1CfgReg)).toNat 15 7 := by
  obtain ⟨bound, hall⟩ := h
  obtain ⟨s', w, hrun, hwrites, hbounded⟩ := hall (max bound 17) (le_max_left _ _)
  rcases outerLoop_spec (apbs2Freq osc (d.view s apbs1CfgReg)) clk
    (le_max_right bound 17) with ⟨k, hk, hslow, -⟩ | ⟨hfast, hsearch⟩
  · exact Or.inl ((sclk_anti _ (by omega) le_rfl).trans hslow)
  · refine Or.inr (Nat.lt_of_not_le fun hle => ?_)
    obtain ⟨m, n, ⟨hw, hm, hn⟩, -, -⟩ := hbounded ((attainable_iff _ _).mpr hle)
    obtain ⟨s'', hrun', hwrites'⟩ := twicSetSclk_eq d osc hsearch
    obtain ⟨-, rfl⟩ := Prod.mk.inj (Option.some.inj (hrun.symm.trans hrun'))
    have hcell : w = (16 : UInt8).toUInt32 <<< 3 ||| (8 : UInt8).toUInt32 := by
      simpa using hwrites.symm.trans hwrites'
    have hval : w.toNat = 136 := by rw [hcell]; decide
    omega

/-- A search that ends in its first row writes what it found. -/
lemma bounded_of_row (h : sclk (apbs2Freq osc (d.view s apbs1CfgReg)).toNat 15 1 ≤ clk.toNat ∨
    clk.toNat < sclk (apbs2Freq osc (d.view s apbs1CfgReg)).toNat 15 7) :
    Bounded d osc clk s := by
  refine ⟨17, fun fuel hfuel => ?_⟩
  rcases outerLoop_spec (apbs2Freq osc (d.view s apbs1CfgReg)) clk hfuel with
    ⟨k, hk, hslow, hsearch⟩ | ⟨hfast, hsearch⟩
  · obtain ⟨s', hrun, hwrites⟩ := twicSetSclk_eq d osc hsearch
    refine ⟨s', _, hrun, hwrites, fun _ => ⟨k.toNat, 1, ⟨?_, by omega, by omega⟩, le_rfl, hslow⟩⟩
    rw [← fields_found k.toNat hk, UInt8.ofNat_toNat]
  · obtain ⟨s', hrun, hwrites⟩ := twicSetSclk_eq d osc hsearch
    refine ⟨s', _, hrun, hwrites, fun hex => ?_⟩
    have hle := (attainable_iff _ _).mp hex
    omega

end Bounded

/-- **The divider of the bus clock.** For every selector of the source clock and all frequencies
behind it, the search ends, and it writes a divider that is slow enough whenever there is one,
if and only if the first row has one or there is none. -/
theorem twicSetSclk_bounded_iff (d : Device) (osc : Oscillators) (clk : UInt32) (s : Regs) :
    Bounded d osc clk s ↔
      sclk (apbs2Freq osc (d.view s apbs1CfgReg)).toNat 15 1 ≤ clk.toNat ∨
      clk.toNat < sclk (apbs2Freq osc (d.view s apbs1CfgReg)).toNat 15 7 :=
  ⟨Bounded.row, bounded_of_row⟩

/-- A source of 26 MHz, as after a reset: `M = 6` and `N = 1` are slow enough for 200 kHz. -/
theorem twicSetSclk_bounded_dcxo :
    Bounded ⟨fun _ => 0, fun _ _ => 0⟩ initialOscillators 200000 ⟨fun _ => 0, 0, []⟩ ∧
    (twicSetSclk ⟨fun _ => 0, fun _ _ => 0⟩ initialOscillators 200000 17 ⟨fun _ => 0, 0, []⟩).map
      (fun r => r.2.writes) = some [(twiCkr, 0x31)] :=
  ⟨(twicSetSclk_bounded_iff _ _ _ _).mpr (.inl (by decide)), by decide⟩

/-- The registers with the APBS1 clock at its PLL of 200 MHz. -/
def apbs1AtPll : Regs := ⟨fun _ => 0x03000000, 0, []⟩

/-- A source of 200 MHz and the bus clock of 200 kHz that the firmware asks for: `M = 12` and
`N = 3` would do, but the search gives up after the first row. -/
theorem twicSetSclk_too_fast :
    sclk 200000000 12 3 ≤ 200000 ∧
    ¬ Bounded ⟨fun _ => 0, fun _ _ => 0⟩ initialOscillators 200000 apbs1AtPll ∧
    (twicSetSclk ⟨fun _ => 0, fun _ _ => 0⟩ initialOscillators 200000 17 apbs1AtPll).map
      (fun r => r.2.writes) = some [(twiCkr, 0x88)] := by
  refine ⟨by decide, fun hbounded => ?_, by decide⟩
  rcases hbounded.row with h | h
  · exact absurd h (by decide)
  · exact absurd h (by decide)

end A733Boot.Ar100s.Twi
