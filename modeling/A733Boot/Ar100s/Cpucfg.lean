/-
The little-endian windows of the firmware's processor,
`ar100s/driver/cpucfg/cpucfg-sun60iw2p1/cpucfg.c`: four pairs of address registers, an
enable bit for each, and the number of those in use.

* `cpucfgSetLittleEndianAddress`, `cpucfgRemoveLittleEndianAddress`: the code;
* `Cpucfg.windows`: the windows in the slots that are in use, as a multiset;
* `Cpucfg.Dense`: the slots in use are the first ones, and exactly these are enabled;
* `map_range_swap`: a table that is kept dense loses one entry;
* `set_sound`, `remove_sound`: the effect of a call on a dense table;
* `cpucfg_windows` (**the window table**): after any calls the table is dense, it holds the
  windows that were set and not removed, and slots that were freed are zero.
-/
import A733Boot.Library.Registers
import A733Boot.Ar100s.Error
import Mathlib.Data.Multiset.Range
import Mathlib.Algebra.Order.Group.Multiset

namespace A733Boot.Ar100s.LeWindows

/-! ### The code -/

def cpucfgLeSpaceNumber : ℕ := 4

def rCpucfgRegBase : ℕ := 0x07050000
def cpusSpaceLeCtrlReg : ℕ := rCpucfgRegBase + 0xc
def cpusSpaceStartReg (n : ℕ) : ℕ := rCpucfgRegBase + 0x10 + n * 8
def cpusSpaceEndReg (n : ℕ) : ℕ := rCpucfgRegBase + 0x14 + n * 8

def tsCtrlRegBase : ℕ := 0x08020000
def cntFreqidReg : ℕ := tsCtrlRegBase + 0x20
def ccuSysClk24mFreq : UInt32 := 24000000

/-- `little_endian_used`, and the registers. -/
structure Cpucfg where
  littleEndianUsed : ℤ
  regs : Regs

/-- The registers are written and read, the variable is kept. -/
def Cpucfg.io {α : Type} (s : Cpucfg) (m : Io α) : α × Cpucfg :=
  ((m s.regs).1, { s with regs := (m s.regs).2 })

def cpucfgCounterInit : Io Unit := writel ccuSysClk24mFreq cntFreqidReg

def cpucfgInit (s : Cpucfg) : ℤ × Cpucfg :=
  (0, { (s.io cpucfgCounterInit).2 with littleEndianUsed := 0 })

section Code

variable (d : Device)

/-- The accesses that set the window of slot `n`. -/
def setWindow (start stop : UInt32) (n : ℕ) : Io Unit := do
  let value ← readl d cpusSpaceLeCtrlReg
  writel (value ||| (1 : UInt32) <<< UInt32.ofNat n) cpusSpaceLeCtrlReg
  writel start (cpusSpaceStartReg n)
  writel stop (cpusSpaceEndReg n)

def cpucfgSetLittleEndianAddress (start stop : UInt32) (s : Cpucfg) : ℤ × Cpucfg :=
  if (cpucfgLeSpaceNumber : ℤ) ≤ s.littleEndianUsed then (-eNospc, s)
  else
    let s := (s.io (setWindow d start stop s.littleEndianUsed.toNat)).2
    (0, { s with littleEndianUsed := s.littleEndianUsed + 1 })

/-- The loop that looks for a window, over the slots below the given one and from the last
of them on. A null `stop` is not compared. -/
def findWindow (start stop : UInt32) : ℕ → Io (Option ℕ)
  | 0 => pure none
  | i + 1 => do
      let value ← readl d (cpusSpaceStartReg i)
      if value >>> 9 = start >>> 9 then
        if stop = 0 then pure (some i)
        else
          let value ← readl d (cpusSpaceEndReg i)
          if value >>> 9 = stop >>> 9 then pure (some i) else findWindow start stop i
      else findWindow start stop i

/-- The accesses that take the window of slot `i` out, where `last` is the last slot in
use. -/
def removeWindow (i last : ℕ) : Io Unit := do
  let value ← readl d cpusSpaceLeCtrlReg
  let value := value &&& ~~~((1 : UInt32) <<< UInt32.ofNat i ||| (1 : UInt32) <<< UInt32.ofNat last)
  let value ←
    if i ≠ last then do
      let start ← readl d (cpusSpaceStartReg last)
      writel start (cpusSpaceStartReg i)
      let stop ← readl d (cpusSpaceEndReg last)
      writel stop (cpusSpaceEndReg i)
      pure (value ||| (1 : UInt32) <<< UInt32.ofNat i)
    else pure value
  writel value cpusSpaceLeCtrlReg
  writel 0 (cpusSpaceStartReg last)
  writel 0 (cpusSpaceEndReg last)

def cpucfgRemoveLittleEndianAddress (start stop : UInt32) (s : Cpucfg) : ℤ × Cpucfg :=
  if s.littleEndianUsed ≤ 0 then (-eNodev, s)
  else
    match s.io (findWindow d start stop s.littleEndianUsed.toNat) with
    | (none, s) => (-eNodev, s)
    | (some i, s) =>
        let s := (s.io (removeWindow d i (s.littleEndianUsed - 1).toNat)).2
        (0, { s with littleEndianUsed := s.littleEndianUsed - 1 })

end Code

/-! ### Windows -/

/-- A window: its first address, and its end. -/
abbrev Window := UInt32 × UInt32

/-- The window matches the arguments of a removal. -/
def Matches (start stop : UInt32) (w : Window) : Prop :=
  w.1 >>> 9 = start >>> 9 ∧ (stop = 0 ∨ w.2 >>> 9 = stop >>> 9)

instance (start stop : UInt32) (w : Window) : Decidable (Matches start stop w) :=
  inferInstanceAs (Decidable (_ ∧ _))

/-- The window that the registers of a slot hold. -/
def slotOf (word : ℕ → UInt32) (i : ℕ) : Window :=
  (word (cpusSpaceStartReg i), word (cpusSpaceEndReg i))

namespace Cpucfg

/-- The window in a slot. -/
def slot (s : Cpucfg) : ℕ → Window := slotOf s.regs.word

/-- The windows in the slots that are in use. -/
def windows (s : Cpucfg) : Multiset Window :=
  (Multiset.range s.littleEndianUsed.toNat).map s.slot

/-- The slots in use are the first ones, and exactly these are enabled. -/
structure Dense (s : Cpucfg) : Prop where
  nonneg : 0 ≤ s.littleEndianUsed
  le : s.littleEndianUsed ≤ cpucfgLeSpaceNumber
  enabled : ∀ i < cpucfgLeSpaceNumber,
    bit (s.regs.word cpusSpaceLeCtrlReg) i = decide ((i : ℤ) < s.littleEndianUsed)

/-- The variable and the registers are as they were, and no register was written. -/
structure Same (s s' : Cpucfg) : Prop where
  used : s'.littleEndianUsed = s.littleEndianUsed
  word : s'.regs.word = s.regs.word
  writes : s'.regs.writes = s.regs.writes

lemma Same.refl (s : Cpucfg) : Same s s := ⟨rfl, rfl, rfl⟩

lemma Same.slot {s s' : Cpucfg} (h : Same s s') : s'.slot = s.slot := by
  rw [Cpucfg.slot, Cpucfg.slot, h.word]

lemma Same.windows {s s' : Cpucfg} (h : Same s s') : s'.windows = s.windows := by
  rw [Cpucfg.windows, Cpucfg.windows, h.slot, h.used]

lemma Same.dense {s s' : Cpucfg} (h : Same s s') (hs : s.Dense) : s'.Dense :=
  ⟨h.used ▸ hs.nonneg, h.used ▸ hs.le, fun i hi => by rw [h.word, h.used, hs.enabled i hi]⟩

end Cpucfg

/-- The address registers hold what was written to them, and the enable bits do. -/
structure Holds (d : Device) : Prop where
  start : ∀ n < cpucfgLeSpaceNumber, d.live (cpusSpaceStartReg n) = 0
  stop : ∀ n < cpucfgLeSpaceNumber, d.live (cpusSpaceEndReg n) = 0
  ctrl : ∀ i < cpucfgLeSpaceNumber, bit (d.live cpusSpaceLeCtrlReg) i = false

/-! ### Dense tables -/

/-- A table over the slots up to `n`, whose last entry takes the place of entry `i`: it
has lost entry `i`. -/
lemma map_range_swap {α : Type} {f g : ℕ → α} {n i : ℕ} (hi : i ≤ n)
    (hg : ∀ j < n, g j = if j = i then f n else f j) :
    (Multiset.range (n + 1)).map f = f i ::ₘ (Multiset.range n).map g := by
  rw [Multiset.range_succ, Multiset.map_cons]
  obtain rfl | hlt := Nat.eq_or_lt_of_le hi
  · refine congrArg (f i ::ₘ ·) (Multiset.map_congr rfl fun j hj => ?_)
    rw [Multiset.mem_range] at hj
    rw [hg j hj, if_neg (Nat.ne_of_lt hj)]
  · have hsplit : Multiset.range n = i ::ₘ (Multiset.range n).erase i :=
      (Multiset.cons_erase (Multiset.mem_range.mpr hlt)).symm
    have hrest : ((Multiset.range n).erase i).map g = ((Multiset.range n).erase i).map f := by
      refine Multiset.map_congr rfl fun j hj => ?_
      have hmem := (Multiset.nodup_range n).mem_erase_iff.mp hj
      rw [hg j (Multiset.mem_range.mp hmem.2), if_neg hmem.1]
    rw [hsplit, Multiset.map_cons, Multiset.map_cons, hrest, hg i hlt, if_pos rfl,
      Multiset.cons_swap]

/-! ### The accesses -/

section Accesses

variable {d : Device}

/-- A bit that the hardware does not drive reads as it was written. -/
lemma bit_view (r : Regs) {a i : ℕ} (hi : i < 32) (h : bit (d.live a) i = false) :
    bit (d.view r a) i = bit (r.word a) i :=
  AgreeOff.iff_bit.mp (d.view_agreeOff r a) i hi h

lemma start_ne_ctrl (n : ℕ) : cpusSpaceStartReg n ≠ cpusSpaceLeCtrlReg := by
  simp only [cpusSpaceStartReg, cpusSpaceLeCtrlReg]
  omega

lemma end_ne_ctrl (n : ℕ) : cpusSpaceEndReg n ≠ cpusSpaceLeCtrlReg := by
  simp only [cpusSpaceEndReg, cpusSpaceLeCtrlReg]
  omega

lemma start_ne_end (m n : ℕ) : cpusSpaceStartReg m ≠ cpusSpaceEndReg n := by
  simp only [cpusSpaceStartReg, cpusSpaceEndReg]
  omega

lemma start_inj {m n : ℕ} (h : m ≠ n) : cpusSpaceStartReg m ≠ cpusSpaceStartReg n := by
  simp only [cpusSpaceStartReg]
  omega

lemma end_inj {m n : ℕ} (h : m ≠ n) : cpusSpaceEndReg m ≠ cpusSpaceEndReg n := by
  simp only [cpusSpaceEndReg]
  omega

/-- The registers after a window was stored in slot `n`. -/
def storeWindow (word : ℕ → UInt32) (n : ℕ) (w : Window) : ℕ → UInt32 :=
  Function.update (Function.update word (cpusSpaceStartReg n) w.1) (cpusSpaceEndReg n) w.2

lemma slotOf_storeWindow (word : ℕ → UInt32) (n : ℕ) (w : Window) (j : ℕ) :
    slotOf (storeWindow word n w) j = if j = n then w else slotOf word j := by
  simp only [slotOf, storeWindow]
  split_ifs with hj
  · rw [hj, Function.update_of_ne (start_ne_end n n), Function.update_self, Function.update_self]
  · rw [Function.update_of_ne (start_ne_end j n), Function.update_of_ne (start_inj hj),
      Function.update_of_ne (end_inj hj), Function.update_of_ne (start_ne_end n j).symm]

lemma slotOf_ctrl (word : ℕ → UInt32) (value : UInt32) (j : ℕ) :
    slotOf (Function.update word cpusSpaceLeCtrlReg value) j = slotOf word j := by
  rw [slotOf, slotOf, Function.update_of_ne (start_ne_ctrl j),
    Function.update_of_ne (end_ne_ctrl j)]

lemma storeWindow_ctrl (word : ℕ → UInt32) (n : ℕ) (w : Window) :
    storeWindow word n w cpusSpaceLeCtrlReg = word cpusSpaceLeCtrlReg := by
  rw [storeWindow, Function.update_of_ne (end_ne_ctrl n).symm,
    Function.update_of_ne (start_ne_ctrl n).symm]

/-- Setting a window: the slot has it, the others are as they were, and one more bit is
set. -/
lemma setWindow_spec (hd : Holds d) (start stop : UInt32) {n : ℕ} (hn : n < cpucfgLeSpaceNumber)
    (r : Regs) :
    (∀ j, slotOf (setWindow d start stop n r).2.word j
      = if j = n then (start, stop) else slotOf r.word j) ∧
    ∀ i < cpucfgLeSpaceNumber, bit ((setWindow d start stop n r).2.word cpusSpaceLeCtrlReg) i
      = (bit (r.word cpusSpaceLeCtrlReg) i || decide (i = n)) := by
  have hword : (setWindow d start stop n r).2.word
      = storeWindow (Function.update r.word cpusSpaceLeCtrlReg
        (d.view r cpusSpaceLeCtrlReg ||| (1 : UInt32) <<< UInt32.ofNat n)) n (start, stop) := rfl
  have hnum : cpucfgLeSpaceNumber = 4 := rfl
  refine ⟨fun j => ?_, fun i hi => ?_⟩
  · rw [hword, slotOf_storeWindow, slotOf_ctrl]
  · rw [hword, storeWindow_ctrl, Function.update_self,
      bit_or_shiftLeft_one _ (by omega) (by omega), bit_view r (by omega) (hd.ctrl i hi)]

/-- The registers after a window was taken out: the last one is moved first, if it is
another. -/
lemma removeWindow_word (hd : Holds d) {i last : ℕ} (hlast : last < cpucfgLeSpaceNumber)
    (r : Regs) :
    ∃ value, (removeWindow d i last r).2.word = storeWindow (Function.update
        (if i ≠ last then storeWindow r.word i (slotOf r.word last) else r.word)
        cpusSpaceLeCtrlReg value) last (0, 0) ∧
      value = if i ≠ last
        then d.view r cpusSpaceLeCtrlReg &&& ~~~((1 : UInt32) <<< UInt32.ofNat i |||
          (1 : UInt32) <<< UInt32.ofNat last) ||| (1 : UInt32) <<< UInt32.ofNat i
        else d.view r cpusSpaceLeCtrlReg &&& ~~~((1 : UInt32) <<< UInt32.ofNat i |||
          (1 : UInt32) <<< UInt32.ofNat last) := by
  refine ⟨_, ?_, rfl⟩
  by_cases hil : i = last
  · subst hil
    simp only [removeWindow, bind_apply, ne_eq, not_true_eq_false, if_false, pure_apply,
      readl_fst, writel_word, readl_word, storeWindow]
  · simp only [removeWindow, bind_apply, ne_eq, hil, not_false_eq_true, if_true, pure_apply,
      readl_fst, writel_word, readl_word, storeWindow, slotOf, d.view_plain (hd.start last hlast),
      d.view_plain (hd.stop last hlast), Function.update_of_ne (start_ne_end i last).symm]

/-- Taking a window out: the last slot is zero, the window that was there has the place of
the one taken out, and only the bit of the last slot is cleared. -/
lemma removeWindow_spec (hd : Holds d) {i last : ℕ} (hi : i ≤ last)
    (hlast : last < cpucfgLeSpaceNumber) (r : Regs)
    (hon : bit (r.word cpusSpaceLeCtrlReg) i = true) :
    (∀ j, slotOf (removeWindow d i last r).2.word j
      = if j = last then (0, 0) else if j = i then slotOf r.word last else slotOf r.word j) ∧
    ∀ k < cpucfgLeSpaceNumber, bit ((removeWindow d i last r).2.word cpusSpaceLeCtrlReg) k
      = (bit (r.word cpusSpaceLeCtrlReg) k && !decide (k = last)) := by
  have hnum : cpucfgLeSpaceNumber = 4 := rfl
  obtain ⟨value, hword, hvalue⟩ := removeWindow_word hd (i := i) hlast r
  rw [hword]
  refine ⟨fun j => ?_, fun k hk => ?_⟩
  · rw [slotOf_storeWindow, slotOf_ctrl]
    by_cases hil : i = last
    · rw [if_neg (not_not.mpr hil)]
      by_cases hj : j = last
      · rw [if_pos hj, if_pos hj]
      · rw [if_neg hj, if_neg hj, if_neg (hil ▸ hj)]
    · rw [if_pos hil, slotOf_storeWindow]
  · have hclear : bit (d.view r cpusSpaceLeCtrlReg &&&
        ~~~((1 : UInt32) <<< UInt32.ofNat i ||| (1 : UInt32) <<< UInt32.ofNat last)) k
        = (bit (r.word cpusSpaceLeCtrlReg) k && !(decide (k = i) || decide (k = last))) := by
      rw [bit_and, bit_not _ (by omega), bit_or, bit_shiftLeft_one (by omega) (by omega),
        bit_shiftLeft_one (by omega) (by omega), bit_view r (by omega) (hd.ctrl k hk)]
    rw [storeWindow_ctrl, Function.update_self, hvalue]
    by_cases hil : i = last
    · rw [if_neg (not_not.mpr hil), hclear, hil, Bool.or_self]
    · rw [if_pos hil, bit_or, hclear, bit_shiftLeft_one (by omega) (by omega)]
      by_cases hki : k = i
      · have hkl : ¬ k = last := fun h => hil (hki.symm.trans h)
        rw [decide_eq_true hki, decide_eq_false hkl, hki, hon]
        rfl
      · rw [decide_eq_false hki, Bool.false_or, Bool.or_false]

/-- What a search of the slots below `n` found, and that it changed nothing. -/
def Finds (start stop : UInt32) (n : ℕ) (r : Regs) (out : Option ℕ × Regs) : Prop :=
  (out.2.word = r.word ∧ out.2.writes = r.writes) ∧
  ((out.1 = none ∧ ∀ j < n, ¬ Matches start stop (slotOf r.word j)) ∨
    ∃ i < n, out.1 = some i ∧ Matches start stop (slotOf r.word i))

/-- The search goes on after a slot that does not match. -/
lemma Finds.miss {start stop : UInt32} {n : ℕ} {r r' : Regs} {out : Option ℕ × Regs}
    (h : Finds start stop n r' out) (hword : r'.word = r.word) (hwrites : r'.writes = r.writes)
    (hmiss : ¬ Matches start stop (slotOf r.word n)) : Finds start stop (n + 1) r out := by
  obtain ⟨⟨hw, hws⟩, hres⟩ := h
  rw [hword] at hw hres
  refine ⟨⟨hw, hws.trans hwrites⟩, ?_⟩
  obtain ⟨hnone, hall⟩ | ⟨i, hi, hfound, hmatch⟩ := hres
  · refine Or.inl ⟨hnone, fun j hj => ?_⟩
    obtain hj | rfl := Nat.lt_succ_iff_lt_or_eq.mp hj
    · exact hall j hj
    · exact hmiss
  · exact Or.inr ⟨i, by omega, hfound, hmatch⟩

/-- The search looks at the slots from the last one on. -/
lemma findWindow_spec (hd : Holds d) (start stop : UInt32) {n : ℕ} (hn : n ≤ cpucfgLeSpaceNumber)
    (r : Regs) : Finds start stop n r (findWindow d start stop n r) := by
  induction n generalizing r with
  | zero => exact ⟨⟨rfl, rfl⟩, Or.inl ⟨rfl, fun j hj => absurd hj (Nat.not_lt_zero j)⟩⟩
  | succ n ih =>
      have hstart : ∀ r : Regs, d.view r (cpusSpaceStartReg n) = r.word (cpusSpaceStartReg n) :=
        fun r => d.view_plain (hd.start n hn)
      have hstop : ∀ r : Regs, d.view r (cpusSpaceEndReg n) = r.word (cpusSpaceEndReg n) :=
        fun r => d.view_plain (hd.stop n hn)
      simp only [findWindow, bind_apply, readl_fst, hstart]
      split_ifs with hs hnull
      · exact ⟨⟨rfl, rfl⟩, Or.inr ⟨n, by omega, rfl, hs, Or.inl hnull⟩⟩
      · simp only [bind_apply, readl_fst, hstop, readl_word]
        split_ifs with he
        · exact ⟨⟨rfl, rfl⟩, Or.inr ⟨n, by omega, rfl, hs, Or.inr he⟩⟩
        · exact (ih (by omega) _).miss rfl rfl fun hmatch => he (hmatch.2.resolve_left hnull)
      · exact (ih (by omega) _).miss rfl rfl fun hmatch => hs hmatch.1

end Accesses

/-! ### Runs -/

/-- A call, with its arguments; a null pointer is zero. -/
inductive Call
  | set (start stop : UInt32)
  | remove (start stop : UInt32)
deriving DecidableEq

/-- A call that was made, with the state before it, what it returned and the state after
it. -/
structure Step where
  before : Cpucfg
  call : Call
  ret : ℤ
  after : Cpucfg

section Runs

variable (d : Device)

def call : Call → Cpucfg → ℤ × Cpucfg
  | .set start stop => cpucfgSetLittleEndianAddress d start stop
  | .remove start stop => cpucfgRemoveLittleEndianAddress d start stop

/-- The calls are made one after the other: the calls with their outcomes, and the state
they lead to. -/
def runCalls : List Call → Cpucfg → List Step × Cpucfg
  | [], s => ([], s)
  | c :: cs, s =>
      let r := call d c s
      let rest := runCalls cs r.2
      (⟨s, c, r.1, r.2⟩ :: rest.1, rest.2)

/-- A call did what it should. Setting adds its window, or reports that no slot is left
and changes nothing; removing takes out one window that matches and leaves its slot zero,
or reports that none matches and changes nothing. -/
def Step.Sound (t : Step) : Prop :=
  match t.call with
  | .set start stop =>
      (t.before.littleEndianUsed = cpucfgLeSpaceNumber →
        t.ret = -eNospc ∧ t.before.Same t.after) ∧
      (t.before.littleEndianUsed < cpucfgLeSpaceNumber →
        t.ret = 0 ∧ t.after.windows = (start, stop) ::ₘ t.before.windows)
  | .remove start stop =>
      ((∀ w ∈ t.before.windows, ¬ Matches start stop w) →
        t.ret = -eNodev ∧ t.before.Same t.after) ∧
      ((∃ w ∈ t.before.windows, Matches start stop w) →
        t.ret = 0 ∧ (∃ w, Matches start stop w ∧ t.before.windows = w ::ₘ t.after.windows) ∧
        t.after.slot t.after.littleEndianUsed.toNat = (0, 0))

/-- The window that a call has set. -/
def Step.added (t : Step) : Option Window :=
  match t.call with
  | .set start stop => if t.ret = 0 then some (start, stop) else none
  | .remove _ _ => none

/-- The arguments of a removal that succeeded. -/
def Step.removal (t : Step) : Option (UInt32 × UInt32) :=
  match t.call with
  | .set _ _ => none
  | .remove start stop => if t.ret = 0 then some (start, stop) else none

/-- A slot that is not in use is zero. -/
def Cpucfg.Tidy (s : Cpucfg) (j : ℕ) : Prop := s.littleEndianUsed ≤ j → s.slot j = (0, 0)

/-- What a call does to a dense table. -/
structure Advances (t : Step) : Prop where
  dense : t.after.Dense
  sound : t.Sound
  tidy : ∀ j, t.before.Tidy j → t.after.Tidy j

variable {d} {s : Cpucfg}

/-- A call that changed nothing. -/
lemma Cpucfg.Same.tidy {s' : Cpucfg} (h : s.Same s') {j : ℕ} (hs : s.Tidy j) : s'.Tidy j := by
  intro hj
  rw [h.slot]
  exact hs (h.used ▸ hj)

lemma Cpucfg.mem_windows {w : Window} :
    w ∈ s.windows ↔ ∃ i < s.littleEndianUsed.toNat, s.slot i = w := by
  simp only [Cpucfg.windows, Multiset.mem_map, Multiset.mem_range]

/-- Setting a window in a dense table. -/
lemma set_advances (hd : Holds d) (hs : s.Dense) (start stop : UInt32) :
    Advances ⟨s, .set start stop, (cpucfgSetLittleEndianAddress d start stop s).1,
      (cpucfgSetLittleEndianAddress d start stop s).2⟩ := by
  have hnum : (cpucfgLeSpaceNumber : ℤ) = 4 := rfl
  rw [cpucfgSetLittleEndianAddress]
  by_cases hfull : (cpucfgLeSpaceNumber : ℤ) ≤ s.littleEndianUsed
  · rw [if_pos hfull]
    refine ⟨hs, ⟨fun _ => ⟨rfl, .refl s⟩, fun hlt => ?_⟩, fun j hj => hj⟩
    exact absurd hfull (not_le.mpr hlt)
  · rw [if_neg hfull]
    obtain ⟨n, hn⟩ := Int.eq_ofNat_of_zero_le hs.nonneg
    have hlt : n < cpucfgLeSpaceNumber := by omega
    have htoNat : s.littleEndianUsed.toNat = n := by omega
    obtain ⟨hslot, hbits⟩ := setWindow_spec hd start stop hlt s.regs
    simp only [htoNat, Cpucfg.io]
    refine ⟨⟨?_, ?_, fun i hi => ?_⟩, ⟨fun heq => ?_, fun _ => ⟨rfl, ?_⟩⟩, fun j hj hused => ?_⟩
    · have := hs.nonneg
      simp only
      omega
    · simp only
      omega
    · simp only [hbits i hi, hs.enabled i hi, ← Bool.decide_or]
      exact decide_eq_decide.mpr (by omega)
    · exact absurd heq.ge hfull
    · have hafter : (s.littleEndianUsed + 1).toNat = n + 1 := by omega
      simp only [Cpucfg.windows, Cpucfg.slot, hafter, htoNat]
      rw [Multiset.range_succ, Multiset.map_cons, hslot n, if_pos rfl]
      refine congrArg (_ ::ₘ ·) (Multiset.map_congr rfl fun j hj => ?_)
      rw [hslot j, if_neg (Nat.ne_of_lt (Multiset.mem_range.mp hj))]
    · simp only at hused
      have hunused : s.littleEndianUsed ≤ j := by omega
      have hold : s.slot j = (0, 0) := hj hunused
      simp only [Cpucfg.slot] at hold ⊢
      rw [hslot j, if_neg (by omega), hold]

/-- A removal that no window matches. -/
lemma missed_advances (hs : s.Dense) {start stop : UInt32} {s' : Cpucfg} (hsame : s.Same s')
    (hmiss : ∀ j < s.littleEndianUsed.toNat, ¬ Matches start stop (s.slot j)) :
    Advances ⟨s, .remove start stop, -eNodev, s'⟩ := by
  refine ⟨hsame.dense hs, ⟨fun _ => ⟨rfl, hsame⟩, ?_⟩, fun j hj => hsame.tidy hj⟩
  rintro ⟨w, hw, hmatch⟩
  obtain ⟨j, hj, rfl⟩ := Cpucfg.mem_windows.mp hw
  exact absurd hmatch (hmiss j hj)

/-- A removal that finds its window in slot `i`. -/
lemma found_advances (hd : Holds d) (hs : s.Dense) {start stop : UInt32} {n i : ℕ}
    (hn : s.littleEndianUsed = n + 1) (hi : i ≤ n) (hmatch : Matches start stop (s.slot i))
    {r : Regs} (hword : r.word = s.regs.word) :
    Advances ⟨s, .remove start stop, 0, ⟨s.littleEndianUsed - 1, (removeWindow d i n r).2⟩⟩ := by
  have hnum : (cpucfgLeSpaceNumber : ℤ) = 4 := rfl
  have hle := hs.le
  have htoNat : s.littleEndianUsed.toNat = n + 1 := by omega
  have hused : i < s.littleEndianUsed.toNat := by omega
  have hprev : (s.littleEndianUsed - 1).toNat = n := by omega
  have hon : bit (r.word cpusSpaceLeCtrlReg) i = true := by
    rw [hword, hs.enabled i (by omega)]
    exact decide_eq_true (by omega)
  obtain ⟨hslot, hbits⟩ := removeWindow_spec hd hi (by omega) r hon
  rw [hword] at hslot hbits
  refine ⟨⟨?_, ?_, fun k hk => ?_⟩,
    ⟨fun hmiss => ?_, fun _ => ⟨rfl, ⟨s.slot i, hmatch, ?_⟩, ?_⟩⟩, fun j hj hafter => ?_⟩
  · simp only
    omega
  · simp only
    omega
  · simp only [hbits k hk, hs.enabled k hk, ← decide_not, ← Bool.decide_and]
    exact decide_eq_decide.mpr (by omega)
  · exact absurd hmatch (hmiss _ (Cpucfg.mem_windows.mpr ⟨i, hused, rfl⟩))
  · simp only [Cpucfg.windows, hprev, htoNat]
    refine map_range_swap hi fun j hj => ?_
    simp only [Cpucfg.slot]
    rw [hslot j, if_neg (Nat.ne_of_lt hj)]
  · simp only [Cpucfg.slot, hprev]
    rw [hslot n, if_pos rfl]
  · simp only at hafter
    simp only [Cpucfg.slot]
    rw [hslot j]
    by_cases hjn : j = n
    · rw [if_pos hjn]
    · have hunused : s.littleEndianUsed ≤ j := by omega
      rw [if_neg hjn, if_neg (by omega)]
      exact hj hunused

/-- Removing a window from a dense table. -/
lemma remove_advances (hd : Holds d) (hs : s.Dense) (start stop : UInt32) :
    Advances ⟨s, .remove start stop, (cpucfgRemoveLittleEndianAddress d start stop s).1,
      (cpucfgRemoveLittleEndianAddress d start stop s).2⟩ := by
  have hnum : (cpucfgLeSpaceNumber : ℤ) = 4 := rfl
  rw [cpucfgRemoveLittleEndianAddress]
  by_cases hzero : s.littleEndianUsed ≤ 0
  · rw [if_pos hzero]
    refine missed_advances hs (.refl s) fun j hj => ?_
    omega
  · rw [if_neg hzero]
    obtain ⟨n, hn⟩ : ∃ n : ℕ, s.littleEndianUsed = n + 1 :=
      ⟨s.littleEndianUsed.toNat - 1, by omega⟩
    have hle := hs.le
    have htoNat : s.littleEndianUsed.toNat = n + 1 := by omega
    have hprev : (s.littleEndianUsed - 1).toNat = n := by omega
    obtain ⟨⟨hword, hwrites⟩, hfind⟩ := findWindow_spec hd start stop (n := n + 1) (by omega) s.regs
    rw [htoNat, Cpucfg.io]
    obtain ⟨hfind, hmiss⟩ | ⟨i, hi, hfind, hmatch⟩ := hfind
    · simp only [hfind]
      exact missed_advances hs ⟨rfl, hword, hwrites⟩ (htoNat ▸ hmiss)
    · simp only [hfind, Cpucfg.io, hprev]
      exact found_advances hd hs hn (Nat.le_of_lt_succ hi) hmatch hword

lemma call_advances (hd : Holds d) (hs : s.Dense) (c : Call) :
    Advances ⟨s, c, (call d c s).1, (call d c s).2⟩ := by
  cases c with
  | set start stop => exact set_advances hd hs start stop
  | remove start stop => exact remove_advances hd hs start stop

/-! ### The table -/

/-- Every call of a run advances a dense table. -/
lemma runCalls_advances (hd : Holds d) (hs : s.Dense) (calls : List Call) :
    (runCalls d calls s).2.Dense ∧ ∀ t ∈ (runCalls d calls s).1, t.after.Dense ∧ t.Sound := by
  induction calls generalizing s with
  | nil => exact ⟨hs, fun t ht => absurd ht List.not_mem_nil⟩
  | cons c cs ih =>
      have hstep := call_advances hd hs c
      obtain ⟨hdense, hall⟩ := ih hstep.dense
      exact ⟨hdense, List.forall_mem_cons.mpr ⟨⟨hstep.dense, hstep.sound⟩, hall⟩⟩

/-- A call adds a window to the table, or takes one out, or does neither. -/
lemma Step.Sound.cases {t : Step} (h : t.Sound)
    (hle : t.before.littleEndianUsed ≤ cpucfgLeSpaceNumber) :
    (∃ w, t.added = some w ∧ t.removal = none ∧ t.after.windows = w ::ₘ t.before.windows) ∨
    (∃ c w, t.added = none ∧ t.removal = some c ∧ Matches c.1 c.2 w ∧
      t.before.windows = w ::ₘ t.after.windows) ∨
    (t.added = none ∧ t.removal = none ∧ t.after.windows = t.before.windows) := by
  obtain ⟨s, c, ret, s'⟩ := t
  cases c with
  | set start stop =>
      obtain hfull | hroom := hle.eq_or_lt
      · obtain ⟨rfl, hsame⟩ := h.1 hfull
        exact Or.inr (Or.inr ⟨rfl, rfl, hsame.windows⟩)
      · obtain ⟨rfl, hwindows⟩ := h.2 hroom
        exact Or.inl ⟨(start, stop), rfl, rfl, hwindows⟩
  | remove start stop =>
      by_cases hmatch : ∃ w ∈ s.windows, Matches start stop w
      · obtain ⟨rfl, ⟨w, hw, hwindows⟩, -⟩ := h.2 hmatch
        exact Or.inr (Or.inl ⟨(start, stop), w, rfl, rfl, hw, hwindows⟩)
      · have hnone : ∀ w ∈ s.windows, ¬ Matches start stop w := fun w hw hm => hmatch ⟨w, hw, hm⟩
        obtain ⟨rfl, hsame⟩ := h.1 hnone
        exact Or.inr (Or.inr ⟨rfl, rfl, hsame.windows⟩)

/-- Every removal has taken out a window that matches, and what was set is there or was
taken out. -/
lemma runCalls_windows (hd : Holds d) (hs : s.Dense) (calls : List Call) :
    ∃ removed : List Window,
      List.Forall₂ (fun c w => Matches c.1 c.2 w)
        ((runCalls d calls s).1.filterMap Step.removal) removed ∧
      (runCalls d calls s).2.windows + (removed : Multiset Window)
        = s.windows + ((runCalls d calls s).1.filterMap Step.added : List Window) := by
  induction calls generalizing s with
  | nil => exact ⟨[], .nil, rfl⟩
  | cons c cs ih =>
      have hstep := call_advances hd hs c
      obtain ⟨removed, hremoved, hwindows⟩ := ih hstep.dense
      rw [runCalls]
      simp only [List.filterMap_cons]
      obtain ⟨w, hadd, hrem, hafter⟩ | ⟨args, w, hadd, hrem, hmatch, hbefore⟩ |
        ⟨hadd, hrem, hsame⟩ := hstep.sound.cases hs.le
      · simp only [hadd, hrem]
        refine ⟨removed, hremoved, hwindows.trans ?_⟩
        simp only at hafter
        rw [hafter, ← Multiset.cons_coe, Multiset.cons_add, Multiset.add_cons]
      · simp only [hadd, hrem]
        refine ⟨w :: removed, .cons hmatch hremoved, ?_⟩
        simp only at hbefore
        rw [hbefore, ← Multiset.cons_coe, Multiset.add_cons, hwindows, Multiset.cons_add]
      · simp only [hadd, hrem]
        refine ⟨removed, hremoved, hwindows.trans ?_⟩
        simp only at hsame
        rw [hsame]

/-- A slot that is tidy stays so. -/
lemma runCalls_tidy (hd : Holds d) (hs : s.Dense) (calls : List Call) {j : ℕ} (hj : s.Tidy j) :
    (runCalls d calls s).2.Tidy j := by
  induction calls generalizing s with
  | nil => exact hj
  | cons c cs ih =>
      have hstep := call_advances hd hs c
      exact ih hstep.dense (hstep.tidy j hj)

/-- A slot that was in use at some point is tidy from there on. -/
lemma runCalls_freed (hd : Holds d) (hs : s.Dense) (calls : List Call) {j : ℕ}
    (hj : ∃ t ∈ (runCalls d calls s).1, (j : ℤ) < t.after.littleEndianUsed) :
    (runCalls d calls s).2.Tidy j := by
  induction calls generalizing s with
  | nil =>
      obtain ⟨t, ht, -⟩ := hj
      exact absurd ht List.not_mem_nil
  | cons c cs ih =>
      have hstep := call_advances hd hs c
      obtain ⟨t, ht, hused⟩ := hj
      obtain rfl | ht := List.mem_cons.mp ht
      · exact runCalls_tidy hd hstep.dense cs fun hle => absurd hused (not_lt.mpr hle)
      · exact ih hstep.dense ⟨t, ht, hused⟩

/-- **The window table.** From `cpucfg_init` with the enable bits clear, after any calls
with any arguments: between zero and four slots are in use, these are the first ones and
exactly they are enabled. Every call has done what it should, removals that found nothing
and settings without room having changed nothing. The windows in the slots in use, with
one for each removal that matched its arguments, are the windows that were set, and a slot
that was in use before and is not now is zero. -/
theorem cpucfg_windows (hd : Holds d) (s : Cpucfg)
    (hclear : ∀ i < cpucfgLeSpaceNumber, bit (s.regs.word cpusSpaceLeCtrlReg) i = false)
    (calls : List Call) (steps : List Step) (s' : Cpucfg)
    (hrun : runCalls d calls (cpucfgInit s).2 = (steps, s')) :
    s'.Dense ∧ (∀ t ∈ steps, t.Sound) ∧
    (∃ removed : List Window,
      List.Forall₂ (fun c w => Matches c.1 c.2 w) (steps.filterMap Step.removal) removed ∧
      s'.windows + (removed : Multiset Window) = (steps.filterMap Step.added : List Window)) ∧
    ∀ j : ℕ, s'.littleEndianUsed ≤ j → (∃ t ∈ steps, (j : ℤ) < t.after.littleEndianUsed) →
      s'.slot j = (0, 0) := by
  have hctrl : (cpucfgInit s).2.regs.word cpusSpaceLeCtrlReg = s.regs.word cpusSpaceLeCtrlReg :=
    Function.update_of_ne (by decide : cpusSpaceLeCtrlReg ≠ cntFreqidReg)
      ccuSysClk24mFreq s.regs.word
  have hs : (cpucfgInit s).2.Dense := by
    refine ⟨le_rfl, Int.natCast_nonneg _, fun i hi => ?_⟩
    rw [hctrl, hclear i hi]
    exact (decide_eq_false (not_lt.mpr (Int.natCast_nonneg i))).symm
  obtain ⟨hdense, hall⟩ := runCalls_advances hd hs calls
  obtain ⟨removed, hremoved, hwindows⟩ := runCalls_windows hd hs calls
  have hfreed := fun j => runCalls_freed hd hs calls (j := j)
  rw [hrun] at hdense hall hremoved hwindows hfreed
  have hempty : (cpucfgInit s).2.windows = 0 := rfl
  rw [hempty, zero_add] at hwindows
  exact ⟨hdense, fun t ht => (hall t ht).2, ⟨removed, hremoved, hwindows⟩,
    fun j hj hused => hfreed j hused hj⟩

end Runs

/-- Registers that hold zero, and hardware that drives none of them. -/
def resetCpucfg : Cpucfg := ⟨7, ⟨fun _ => 0, 0, []⟩⟩

def quietDevice : Device := ⟨fun _ => 0, fun _ _ => 0⟩

/-- Two windows are set, and the older one is removed: the newer one takes its slot. -/
theorem cpucfg_windows_two :
    let r := runCalls quietDevice [.set 0x48000000 0x48100000, .set 0x50000000 0x50000400,
      .remove 0x48000010 0] (cpucfgInit resetCpucfg).2
    r.2.Dense ∧ r.2.littleEndianUsed = 1 ∧ r.2.slot 0 = (0x50000000, 0x50000400) ∧
    r.2.slot 1 = (0, 0) := by
  intro r
  have htable := cpucfg_windows (d := quietDevice)
    ⟨fun _ _ => rfl, fun _ _ => rfl, fun i _ => bit_zero i⟩ resetCpucfg (fun i _ => bit_zero i)
    [.set 0x48000000 0x48100000, .set 0x50000000 0x50000400, .remove 0x48000010 0] r.1 r.2 rfl
  refine ⟨htable.1, by decide, by decide, ?_⟩
  refine htable.2.2.2 1 (by decide) ⟨_, List.mem_cons_of_mem _ List.mem_cons_self, by decide⟩

end A733Boot.Ar100s.LeWindows
