/-
The device tree on the firmware's side: the little-endian windows of
`ar100s/driver/cpucfg`, `dtb_base_init` and the part of `startup_entry` that depends
on it (`ar100s/system/daemon/daemon.c`), and `dram_dts_parse`
(`ar100s/driver/dram/dram_dts_para_v2.c`).

* `cpucfgSetLittleEndianAddress_shows`, `cpucfgRemoveLittleEndianAddress_shows`: the windows
  as a record of numbers do what they do in the registers;
* `sprintfDramPara_eq`: the name the firmware prints is the name boot0 composes;
* `dramDtsParse_patched`: from a tree that boot0 has patched completely, the parse
  returns the words boot0 wrote;
* `dtbBaseInit_accepts`, `dtbBaseInit_zero`: which published address is taken;
* `hwConfig_handover` (**the hand-over**): what a run of `load_fip_images`
  publishes is what the firmware reads back, or nothing at all, with any library that does what
  is relied on, as the vendored one does.
-/
import A733Boot.Boot.LoadImages
import A733Boot.Ar100s.Cpucfg

namespace A733Boot.Ar100s

open Fip Fdt Boot

/-! ### The little-endian windows -/

def cpucfgLeSpaceNumber : ℕ := 4

/-- The number of windows in use, the enable bits and the bounds of each window. -/
structure Cpucfg where
  littleEndianUsed : ℕ
  spaceLeCtrl : UInt32
  spaceStart : ℕ → ℕ
  spaceEnd : ℕ → ℕ

def cpucfgInit (c : Cpucfg) : Cpucfg := { c with littleEndianUsed := 0 }

def cpucfgSetLittleEndianAddress (start stop : ℕ) (c : Cpucfg) : ℤ × Cpucfg :=
  if cpucfgLeSpaceNumber ≤ c.littleEndianUsed then (-eNospc, c)
  else
    let i := c.littleEndianUsed
    (0, { spaceLeCtrl := c.spaceLeCtrl ||| 1 <<< UInt32.ofNat i
          spaceStart := Function.update c.spaceStart i start
          spaceEnd := Function.update c.spaceEnd i stop
          littleEndianUsed := i + 1 })

/-- The search of `cpucfg_remove_little_endian_address`, downwards from `n - 1`. -/
def findSpace (c : Cpucfg) (start stop : ℕ) : ℕ → Option ℕ
  | 0 => none
  | i + 1 =>
      if c.spaceStart i >>> 9 = start >>> 9 ∧ (stop = 0 ∨ c.spaceEnd i >>> 9 = stop >>> 9) then
        some i
      else findSpace c start stop i

def cpucfgRemoveLittleEndianAddress (start stop : ℕ) (c : Cpucfg) : ℤ × Cpucfg :=
  match findSpace c start stop c.littleEndianUsed with
  | none => (-eNodev, c)
  | some i =>
      let last := c.littleEndianUsed - 1
      let value := c.spaceLeCtrl &&& ~~~(1 <<< UInt32.ofNat i ||| 1 <<< UInt32.ofNat last)
      -- the last window moves into the hole, so that the used ones stay dense
      let c :=
        if i ≠ last then
          { c with
            spaceStart := Function.update c.spaceStart i (c.spaceStart last)
            spaceEnd := Function.update c.spaceEnd i (c.spaceEnd last)
            spaceLeCtrl := value ||| 1 <<< UInt32.ofNat i }
        else { c with spaceLeCtrl := value }
      (0, { c with
        spaceStart := Function.update c.spaceStart last 0
        spaceEnd := Function.update c.spaceEnd last 0
        littleEndianUsed := last })

/-! ### The windows in the registers -/

section Registers

open LeWindows (Holds Matches)

variable {d : Device} {c : Cpucfg} {s : LeWindows.Cpucfg}

/-- The numbers of slot `i` are those in its registers. -/
def Cpucfg.ShowsSlot (c : Cpucfg) (word : ℕ → UInt32) (i : ℕ) : Prop :=
  (c.spaceStart i, c.spaceEnd i) = Prod.map UInt32.toNat UInt32.toNat (LeWindows.slotOf word i)

/-- The record shows a dense table in the registers. -/
structure Cpucfg.Shows (c : Cpucfg) (s : LeWindows.Cpucfg) : Prop where
  dense : s.Dense
  used : s.littleEndianUsed = c.littleEndianUsed
  ctrl : ∀ i < cpucfgLeSpaceNumber,
    bit c.spaceLeCtrl i = bit (s.regs.word LeWindows.cpusSpaceLeCtrlReg) i
  slot : ∀ i < cpucfgLeSpaceNumber, c.ShowsSlot s.regs.word i

lemma matches_iff {start stop : UInt32} {word : ℕ → UInt32} {i : ℕ} (h : c.ShowsSlot word i) :
    (c.spaceStart i >>> 9 = start.toNat >>> 9 ∧
      (stop.toNat = 0 ∨ c.spaceEnd i >>> 9 = stop.toNat >>> 9)) ↔
      Matches start stop (LeWindows.slotOf word i) := by
  have hshift (a b : UInt32) : a.toNat >>> 9 = b.toNat >>> 9 ↔ a >>> 9 = b >>> 9 := by
    rw [← UInt32.toNat_inj, UInt32.toNat_shiftRight, UInt32.toNat_shiftRight]
    rfl
  have hzero : stop.toNat = 0 ↔ stop = 0 := by
    rw [← UInt32.toNat_inj]
    rfl
  obtain ⟨hstart, hstop⟩ := Prod.ext_iff.mp h
  rw [show c.spaceStart i = _ from hstart, show c.spaceEnd i = _ from hstop]
  simp only [Prod.map, hshift, hzero, Matches]

/-- The two searches find the same slot. -/
lemma findWindow_eq (hd : Holds d) (start stop : UInt32) {r : Regs} {n : ℕ}
    (hslot : ∀ i < n, c.ShowsSlot r.word i) (hn : n ≤ cpucfgLeSpaceNumber) :
    (LeWindows.findWindow d start stop n r).1 = findSpace c start.toNat stop.toNat n := by
  induction n generalizing r with
  | zero => rfl
  | succ n ih =>
    have hstart (r : Regs) := d.view_plain (s := r) (hd.start n hn)
    have hstop (r : Regs) := d.view_plain (s := r) (hd.stop n hn)
    have hrest (k : ℕ) := ih (r := { r with reads := r.reads + k })
      (fun i hi => hslot i (Nat.lt_succ_of_lt hi)) (Nat.le_of_succ_le hn)
    simp only [findSpace, matches_iff (hslot n (Nat.lt_succ_self n)), LeWindows.findWindow,
      bind_apply, readl_fst, hstart]
    by_cases hs : r.word (LeWindows.cpusSpaceStartReg n) >>> 9 = start >>> 9
    · rw [if_pos hs]
      by_cases hnull : stop = 0
      · rw [if_pos hnull, if_pos ⟨hs, .inl hnull⟩]
        rfl
      · rw [if_neg hnull]
        simp only [bind_apply, readl_fst, hstop, readl_word]
        by_cases he : r.word (LeWindows.cpusSpaceEndReg n) >>> 9 = stop >>> 9
        · rw [if_pos he, if_pos ⟨hs, .inr he⟩]
          rfl
        · rw [if_neg he, if_neg fun hm => he (hm.2.resolve_left hnull)]
          exact hrest 2
    · rw [if_neg hs, if_neg fun hm => hs hm.1]
      exact hrest 1

/-- Setting a window does the same to the record as to the registers. -/
theorem cpucfgSetLittleEndianAddress_shows (hd : Holds d) (h : c.Shows s) (start stop : UInt32) :
    (cpucfgSetLittleEndianAddress start.toNat stop.toNat c).1 =
        (LeWindows.cpucfgSetLittleEndianAddress d start stop s).1 ∧
      (cpucfgSetLittleEndianAddress start.toNat stop.toNat c).2.Shows
        (LeWindows.cpucfgSetLittleEndianAddress d start stop s).2 := by
  have hnum : LeWindows.cpucfgLeSpaceNumber = cpucfgLeSpaceNumber := rfl
  have hfour : cpucfgLeSpaceNumber = 4 := rfl
  have hused := h.used
  have hdense := (LeWindows.set_advances hd h.dense start stop).dense
  simp only [cpucfgSetLittleEndianAddress, LeWindows.cpucfgSetLittleEndianAddress] at hdense ⊢
  by_cases hfull : cpucfgLeSpaceNumber ≤ c.littleEndianUsed
  · rw [if_pos hfull, if_pos (by omega)]
    exact ⟨rfl, h⟩
  · rw [if_neg (by omega)] at hdense
    rw [if_neg hfull, if_neg (by omega)]
    obtain ⟨n, hn⟩ : ∃ n, n = c.littleEndianUsed := ⟨_, rfl⟩
    have htoNat : s.littleEndianUsed.toNat = n := by omega
    obtain ⟨hslot, hbits⟩ := LeWindows.setWindow_spec hd start stop (n := n) (by omega) s.regs
    rw [htoNat] at hdense ⊢
    refine ⟨rfl, hdense, congrArg (· + 1) hused, fun i hi => ?_, fun i hi => ?_⟩
    · rw [← hn]
      refine Eq.trans ?_ (hbits i hi).symm
      rw [bit_or_shiftLeft_one _ (by omega) (by omega), h.ctrl i hi]
    · simp only [Cpucfg.ShowsSlot, LeWindows.Cpucfg.io, hslot, ← hn, Function.update_apply]
      split
      · rfl
      · exact h.slot i hi

/-- The record behind a removal that found its window in slot `i`. -/
lemma remove_found {start stop i last : ℕ} (hused : c.littleEndianUsed = last + 1) (hi : i ≤ last)
    (hlast : last < cpucfgLeSpaceNumber) (hon : bit c.spaceLeCtrl i = true)
    (hfound : findSpace c start stop c.littleEndianUsed = some i) :
    ∃ c', cpucfgRemoveLittleEndianAddress start stop c = (0, c') ∧ c'.littleEndianUsed = last ∧
      (∀ k < cpucfgLeSpaceNumber,
        bit c'.spaceLeCtrl k = (bit c.spaceLeCtrl k && !decide (k = last))) ∧
      ∀ j, (c'.spaceStart j, c'.spaceEnd j) = if j = last then (0, 0)
        else if j = i then (c.spaceStart last, c.spaceEnd last)
        else (c.spaceStart j, c.spaceEnd j) := by
  have hfour : cpucfgLeSpaceNumber = 4 := rfl
  have hclear (k : ℕ) (hk : k < cpucfgLeSpaceNumber) : bit (c.spaceLeCtrl &&&
      ~~~((1 : UInt32) <<< UInt32.ofNat i ||| (1 : UInt32) <<< UInt32.ofNat last)) k =
      (bit c.spaceLeCtrl k && !(decide (k = i) || decide (k = last))) := by
    rw [bit_and, bit_not _ (by omega), bit_or, bit_shiftLeft_one (by omega) (by omega),
      bit_shiftLeft_one (by omega) (by omega)]
  rw [cpucfgRemoveLittleEndianAddress, hfound]
  refine ⟨_, rfl, by rw [hused]; rfl, fun k hk => ?_, fun j => ?_⟩
  all_goals simp only [hused, Nat.add_sub_cancel]
  · by_cases hil : i = last
    · rw [if_neg (not_not.mpr hil)]
      simp only
      rw [hclear k hk, hil, Bool.or_self]
    · rw [if_pos hil]
      simp only
      rw [bit_or, hclear k hk, bit_shiftLeft_one (by omega) (by omega)]
      by_cases hki : k = i
      · have hkl : ¬ k = last := fun h => hil (hki.symm.trans h)
        rw [decide_eq_true hki, decide_eq_false hkl, hki, hon]
        rfl
      · rw [decide_eq_false hki, Bool.false_or, Bool.or_false]
  · by_cases hil : i = last
    · rw [if_neg (not_not.mpr hil)]
      simp only [Function.update_apply]
      split_ifs <;> first | rfl | omega
    · rw [if_pos hil]
      simp only [Function.update_apply]
      split_ifs <;> rfl

/-- So does taking one out. -/
theorem cpucfgRemoveLittleEndianAddress_shows (hd : Holds d) (h : c.Shows s)
    (start stop : UInt32) :
    (cpucfgRemoveLittleEndianAddress start.toNat stop.toNat c).1 =
        (LeWindows.cpucfgRemoveLittleEndianAddress d start stop s).1 ∧
      (cpucfgRemoveLittleEndianAddress start.toNat stop.toNat c).2.Shows
        (LeWindows.cpucfgRemoveLittleEndianAddress d start stop s).2 := by
  have hnum : LeWindows.cpucfgLeSpaceNumber = cpucfgLeSpaceNumber := rfl
  have hfour : cpucfgLeSpaceNumber = 4 := rfl
  have hused := h.used
  have hle := h.dense.le
  have hdense := (LeWindows.remove_advances hd h.dense start stop).dense
  rw [LeWindows.cpucfgRemoveLittleEndianAddress] at hdense ⊢
  obtain ⟨n, hn⟩ : ∃ n, n = c.littleEndianUsed := ⟨_, rfl⟩
  have htoNat : s.littleEndianUsed.toNat = n := by omega
  have hsearch := findWindow_eq hd start stop (r := s.regs) (n := n)
    (fun i hi => h.slot i (by omega)) (by omega)
  obtain ⟨⟨hword, -⟩, hfound⟩ := LeWindows.findWindow_spec hd start stop (n := n) (by omega) s.regs
  by_cases hzero : s.littleEndianUsed ≤ 0
  · rw [if_pos hzero, cpucfgRemoveLittleEndianAddress, show c.littleEndianUsed = 0 by omega]
    exact ⟨rfl, h⟩
  rw [if_neg hzero] at hdense ⊢
  simp only [htoNat, LeWindows.Cpucfg.io] at hdense ⊢
  rcases hfound with ⟨hnone, -⟩ | ⟨i, hi, hsome, -⟩
  · simp only [hnone] at hdense ⊢
    rw [cpucfgRemoveLittleEndianAddress, ← hn, ← hsearch, hnone]
    exact ⟨rfl, hdense, hused, fun i hi => by rw [h.ctrl i hi, hword],
      fun i hi => by rw [hword]; exact h.slot i hi⟩
  · have hprev : (s.littleEndianUsed - 1).toNat = n - 1 := by omega
    have hon : bit (s.regs.word LeWindows.cpusSpaceLeCtrlReg) i = true := by
      rw [h.dense.enabled i (by omega)]
      exact decide_eq_true (by omega)
    have hlast : n - 1 < cpucfgLeSpaceNumber := by omega
    have hile : i ≤ n - 1 := by omega
    obtain ⟨c', hremove, hused', hctrl, hslot⟩ := remove_found (c := c) (by omega) hile hlast
      ((h.ctrl i (by omega)).trans hon) (hn ▸ hsearch.symm.trans hsome)
    obtain ⟨hslot', hbits⟩ := LeWindows.removeWindow_spec hd hile hlast
      (LeWindows.findWindow d start stop n s.regs).2 (by rw [hword]; exact hon)
    rw [hword] at hslot' hbits
    simp only [hsome, hprev] at hdense ⊢
    rw [hremove]
    refine ⟨rfl, hdense, by simp only; omega, fun k hk => ?_, fun j hj => ?_⟩
    · rw [hctrl k hk, hbits k hk, h.ctrl k hk]
    · rw [Cpucfg.ShowsSlot, hslot' j]
      refine (hslot j).trans ?_
      split_ifs
      · rfl
      · exact h.slot (n - 1) (by omega)
      · exact h.slot j hj

end Registers
/-! ### The device tree -/

def ariscDtsSize : ℕ := 0x00100000
def ariscDramBase : ℕ := 0x40000000
def ariscDramEnd : ℕ := 0x80000000

/-- The part of the firmware's state that the device tree is about: `dtb_base` and the
windows. -/
structure Firmware where
  dtbBase : ℕ
  cpucfg : Cpucfg

/-- The address is read from the RTC register `rtc`. -/
def dtbBaseInit (m : Mem) (rtc : ℕ) (fw : Firmware) : ℤ × Firmware :=
  let base := rtc
  let fw := { fw with dtbBase := 0 }
  if base < ariscDramBase ∨ ariscDramEnd - ariscDtsSize < base then (-eInval, fw)
  else
    let r := cpucfgSetLittleEndianAddress base (base + ariscDtsSize) fw.cpucfg
    let fw := { fw with cpucfg := r.2 }
    if r.1 ≠ 0 then (-eFail, fw)
    else if fdtCheckHeader (m.view base) ≠ 0 ∨ ariscDtsSize < fdtTotalsize (m.view base) then
      let r := cpucfgRemoveLittleEndianAddress base (base + ariscDtsSize) fw.cpucfg
      (-eInval, { fw with cpucfg := r.2 })
    else (0, { fw with dtbBase := base })

/-- The name printed for a word: `%d` prints the decimal digits. -/
def sprintfDramPara (i : ℕ) : List Char :=
  if i < 10 then dramPara ++ ['0'] ++ Nat.toDigits 10 i else dramPara ++ Nat.toDigits 10 i

/-- The number of words of `dts_dram_para`. -/
def dtsDramParaCount : ℕ := 96

/-- The body of the loop of `dram_dts_parse`: the word of index `i`, if it is there. -/
def dtsDramPara (f : Libfdt) (fdt : Mem) (node : ℤ) (i : ℕ) : Option ℕ :=
  match f.getprop fdt node (sprintfDramPara i) with
  | .error _ => none
  | .ok (prop, len) => if len ≠ 4 then none else some (fdt.loadBe32 prop)

/-- The words of the tree at `dtbBase`, or `none` where the source returns a null
pointer. -/
def dramDtsParse (f : Libfdt) (m : Mem) (dtbBase : ℕ) : Option (List ℕ) :=
  let fdt := m.view dtbBase
  if fdtCheckHeader fdt ≠ 0 then none
  else
    let node := f.pathOffset fdt dramPath
    if node < 0 then none else (List.range dtsDramParaCount).mapM (dtsDramPara f fdt node)

/-- The result of starting up, as far as the device tree decides it: the status of
`dtb_base_init`, the state, and what `dram_dts_parse` returned, if it was called. -/
structure Startup where
  dtbStatus : ℤ
  firmware : Firmware
  platformDramPara : Option (Option (List ℕ))

/-- The steps of `startup_entry` from reset that involve the tree: `cpucfg_init`,
`dtb_base_init`, and `platform_dts_parse_late` when the tree was taken. -/
def startupEntry (f : Libfdt) (m : Mem) (rtc : ℕ) (fw : Firmware) : Startup :=
  let fw := { fw with cpucfg := cpucfgInit fw.cpucfg }
  let r := dtbBaseInit m rtc fw
  ⟨r.1, r.2, if r.1 ≠ 0 then none else some (dramDtsParse f m r.2.dtbBase)⟩

/-! ### The two sides agree -/

/-- The digits composed by boot0 and those printed by the firmware are the same. -/
lemma sprintfDramPara_eq : ∀ i < 96, sprintfDramPara i = dramParaProperty i := by decide

/-- Checks that all succeed deliver the list of their results. -/
lemma mapM_eq_some_map {α β : Type} {g : α → Option β} {r : α → β} {l : List α}
    (h : ∀ a ∈ l, g a = some (r a)) : l.mapM g = some (l.map r) := by
  induction l with
  | nil => rfl
  | cons a l ih =>
      rw [List.mapM_cons, h a List.mem_cons_self, ih fun b hb => h b (List.mem_cons_of_mem a hb)]
      rfl

section Handover

variable {f : Libfdt} {W : Mem → Prop} {para : ℕ → UInt32} {m₀ m m' : Mem} {fdt : ℕ}

/-- A complete patch is read back word for word, by whoever sees the same tree. -/
lemma dramDtsParse_patched (hdoc : f.Documented W)
    (hp : Patched f W fdt (f.pathOffset (m₀.view fdt) dramPath) para m₀ 96 m)
    (hheader : fdtCheckHeader (m.view fdt) = 0)
    (hnode : 0 ≤ f.pathOffset (m₀.view fdt) dramPath)
    (hsame : ∀ i < fdtTotalsize (m.view fdt), m.view fdt i = m'.view fdt i)
    (hsize : 40 ≤ fdtTotalsize (m.view fdt)) :
    dramDtsParse f m' fdt = some ((List.range 96).map fun i => (para i).toNat) := by
  have hreach := reaches_dram hnode
  have halike := hp.alike.trans (hdoc.within _ _ hp.tree hsame).2
  have hcheck : fdtCheckHeader (m'.view fdt) = 0 := by
    rw [← (fdtCheckHeader_congr fun i hi => hsame i (by omega)).1, hheader]
  have hpath' : f.pathOffset (m'.view fdt) dramPath = f.pathOffset (m₀.view fdt) dramPath :=
    halike.path dramPath dramPath_isFullPath
  have hword : ∀ i ∈ List.range dtsDramParaCount,
      dtsDramPara f (m'.view fdt) (f.pathOffset (m'.view fdt) dramPath) i
        = some (para i).toNat := by
    intro i hi
    have hi : i < 96 := List.mem_range.mp hi
    have htext := dramParaProperty_isText i hi
    obtain ⟨o, ho, hval⟩ := hp.done i hi
    have hget : f.getprop (m'.view fdt) (f.pathOffset (m'.view fdt) dramPath) (sprintfDramPara i)
        = .ok (o, 4) := by
      rw [hpath', sprintfDramPara_eq i hi, halike.prop _ _ hreach htext, ho]
    have hinside := (hdoc.inside _ _ _ _ _ hp.tree (hp.alike.reaches hreach) htext
      ((hp.getprop hreach hi).trans ho)).2
    rw [dtsDramPara, hget]
    simp only [ne_eq, not_true_eq_false, if_false, Option.some.injEq]
    rw [← hval]
    exact Mem.loadBe32_congr fun j hj => (hsame _ (by omega)).symm
  simp only [dramDtsParse, hcheck, ne_eq, not_true_eq_false, if_false]
  rw [if_neg (by rw [hpath']; omega)]
  exact mapM_eq_some_map hword

/-- The first window after reset takes slot zero. -/
lemma cpucfgSetLittleEndianAddress_fresh (c : Cpucfg) (hused : c.littleEndianUsed = 0)
    (start stop : ℕ) :
    cpucfgSetLittleEndianAddress start stop c
      = (0, { littleEndianUsed := 1, spaceLeCtrl := c.spaceLeCtrl ||| 1
              spaceStart := Function.update c.spaceStart 0 start
              spaceEnd := Function.update c.spaceEnd 0 stop }) := by
  rw [cpucfgSetLittleEndianAddress, hused]
  rfl

/-- An address at the start of an accepted tree inside the DRAM is taken, and the
window over it is opened. -/
lemma dtbBaseInit_accepts {rtc : ℕ} (hlo : ariscDramBase ≤ rtc)
    (hhi : rtc ≤ ariscDramEnd - ariscDtsSize) (hheader : fdtCheckHeader (m.view rtc) = 0)
    (hsize : fdtTotalsize (m.view rtc) ≤ ariscDtsSize) (fw : Firmware)
    (hused : fw.cpucfg.littleEndianUsed = 0) :
    (dtbBaseInit m rtc fw).1 = 0 ∧ (dtbBaseInit m rtc fw).2.dtbBase = rtc ∧
    (dtbBaseInit m rtc fw).2.cpucfg
      = (cpucfgSetLittleEndianAddress rtc (rtc + ariscDtsSize) fw.cpucfg).2 := by
  have hset : (cpucfgSetLittleEndianAddress rtc (rtc + ariscDtsSize) fw.cpucfg).1 = 0 := by
    rw [cpucfgSetLittleEndianAddress_fresh fw.cpucfg hused]
  simp only [dtbBaseInit]
  rw [if_neg (by omega), if_neg (not_not.mpr hset), if_neg (by omega)]
  exact ⟨rfl, rfl, rfl⟩

/-- A zero address is refused. -/
lemma dtbBaseInit_zero (m : Mem) (fw : Firmware) :
    dtbBaseInit m 0 fw = (-eInval, { fw with dtbBase := 0 }) := by
  simp [dtbBaseInit, ariscDramBase]

/-- What the firmware makes of a completely patched tree: it takes the address, opens
the window over it, and reads the words. -/
structure ReadsBack (f : Libfdt) (m : Mem) (rtc : ℕ) (para : ℕ → UInt32) (fw : Firmware) :
    Prop where
  status : (startupEntry f m rtc fw).dtbStatus = 0
  base : (startupEntry f m rtc fw).firmware.dtbBase = rtc
  window : (startupEntry f m rtc fw).firmware.cpucfg.littleEndianUsed = 1 ∧
    (startupEntry f m rtc fw).firmware.cpucfg.spaceLeCtrl &&& 1 = 1 ∧
    (startupEntry f m rtc fw).firmware.cpucfg.spaceStart 0 = rtc ∧
    (startupEntry f m rtc fw).firmware.cpucfg.spaceEnd 0 = rtc + ariscDtsSize
  words : (startupEntry f m rtc fw).platformDramPara
    = some (some ((List.range 96).map fun i => (para i).toNat))

/-- What the firmware makes of no tree: the address stays zero and the parse is never
run. -/
structure ReadsNothing (f : Libfdt) (m : Mem) (rtc : ℕ) (fw : Firmware) : Prop where
  status : (startupEntry f m rtc fw).dtbStatus ≠ 0
  base : (startupEntry f m rtc fw).firmware.dtbBase = 0
  words : (startupEntry f m rtc fw).platformDramPara = none

lemma readsNothing_zero (f : Libfdt) (m : Mem) (fw : Firmware) : ReadsNothing f m 0 fw := by
  have h := dtbBaseInit_zero m { fw with cpucfg := cpucfgInit fw.cpucfg }
  have hne : -eInval ≠ 0 := by decide
  refine ⟨?_, ?_, ?_⟩
  · simp only [startupEntry, h]
    exact hne
  · simp only [startupEntry, h]
  · simp only [startupEntry, h, if_pos hne]

lemma readsBack_patched (hdoc : f.Documented W)
    (hp : Patched f W fdt (f.pathOffset (m₀.view fdt) dramPath) para m₀ 96 m)
    (hheader : fdtCheckHeader (m.view fdt) = 0)
    (hnode : 0 ≤ f.pathOffset (m₀.view fdt) dramPath)
    (hsame : ∀ i < fdtTotalsize (m.view fdt), m.view fdt i = m'.view fdt i)
    (hsize : 40 ≤ fdtTotalsize (m.view fdt)) (hmax : fdtTotalsize (m.view fdt) ≤ ariscDtsSize)
    (hlo : ariscDramBase ≤ fdt) (hhi : fdt ≤ ariscDramEnd - ariscDtsSize) (fw : Firmware) :
    ReadsBack f m' fdt para fw := by
  have hhead : ∀ i < 40, m.view fdt i = m'.view fdt i := fun i hi => hsame i (by omega)
  obtain ⟨hcheck, htotal⟩ := fdtCheckHeader_congr hhead
  obtain ⟨hret, hbase, hcfg⟩ := dtbBaseInit_accepts (m := m') hlo hhi (by rw [← hcheck, hheader])
    (by rw [← htotal]; exact hmax) { fw with cpucfg := cpucfgInit fw.cpucfg } rfl
  have hparse := dramDtsParse_patched hdoc hp hheader hnode hsame hsize
  refine ⟨hret, hbase, ?_, ?_⟩
  · simp only [startupEntry, hcfg, cpucfgSetLittleEndianAddress_fresh (cpucfgInit fw.cpucfg) rfl]
    have hbit : (fw.cpucfg.spaceLeCtrl ||| 1) &&& 1 = 1 := by
      refine UInt32.toBitVec_inj.mp (BitVec.eq_of_getElem_eq fun i hi => ?_)
      simp only [UInt32.toBitVec_and, UInt32.toBitVec_or, BitVec.getElem_and, BitVec.getElem_or]
      cases (UInt32.toBitVec 1)[i] <;> simp
    exact ⟨trivial, hbit, Function.update_self .., Function.update_self ..⟩
  · simp only [startupEntry, hret, ne_eq, not_true_eq_false, if_false, hbase, hparse]

end Handover

/-- **The hand-over of the hardware configuration.** The library that both programs are built
with does what is relied on, on every tree. With any library that does, in a run of
`load_fip_images` that returns zero and whose package has a device tree, the outcome of the
update decides everything. If it succeeds, the published address is that of the window, the
tree differs from the package's in the 96 values only, and firmware that starts on a memory
with this tree takes the address, opens the little-endian window and reads back exactly the 96
words. If it fails, on whatever bytes, zero is published and firmware takes no tree. -/
theorem hwConfig_handover {ε : Type} :
    vendored.Documented IsTree ∧
    ∀ (f : Libfdt) (W : Mem → Prop), f.Documented W →
      ∀ (mmc : Mmc ε) (primary backup : ℕ) (para : ℕ → UInt32) (bases bases' : ℕ × ℕ)
        (w w' : Boot0 ε), w.images = FipBootImages.zero →
      loadFipImages mmc f primary backup para bases w = some (0, bases', w') → ∀ fw : Firmware,
    ∃ sector size l s₁ s₂,
      sunxiFipReadRedundant .bits32 (fipHost mmc) primary backup configFipStagingSize (some 0)
        (some 0) (started mmc w) = some (0, some size, some sector, s₁) ∧
      sunxiFipLoadRedundant .bits32 (fipHost mmc) primary backup configFipStagingSize (some 0)
        (some 0) (started mmc w) = some (0, some size, some sector, s₂) ∧
      sunxiFipParse .bits32 .wrap (some (package s₁.world size)) size (some Layout.zero)
        = some (0, some l) ∧
      (l.hwConfig.size ≠ 0 →
        (W (s₂.world.mem.view 0x48100000) →
          (a733HwConfigUpdateDram f s₂.world.mem 0x48100000 l.hwConfig.size (some para) 96).1 = 0 →
          w'.images.dtbBase = 0x48100000 ∧
          (∀ i < l.hwConfig.size,
            (∀ j < 96, ∀ o, f.getprop (s₂.world.mem.view 0x48100000)
                (f.pathOffset (s₂.world.mem.view 0x48100000) dramPath) (dramParaProperty j)
                = .ok (o, 4) → i < o ∨ o + 4 ≤ i) →
            w'.mem (0x48100000 + i) = s₂.world.mem (0x48100000 + i)) ∧
          ∀ m, (∀ i < l.hwConfig.size, m (0x48100000 + i) = w'.mem (0x48100000 + i)) →
            ReadsBack f m w'.images.dtbBase para fw) ∧
        ((a733HwConfigUpdateDram f s₂.world.mem 0x48100000 l.hwConfig.size (some para) 96).1 ≠ 0 →
          w'.images.dtbBase = 0 ∧ ∀ m, ReadsNothing f m w'.images.dtbBase fw)) := by
  refine ⟨vendored_documented, ?_⟩
  intro f W hdoc mmc primary backup para bases bases' w w' hzero hrun fw
  obtain ⟨sector, size, l, s₁, s₂, hcand, hread, hload, hsize, hparse, hworld, rfl⟩ :=
    loadFipImages_eq_zero hrun
  have hle : size ≤ (package s₁.world size).size := le_rfl
  refine ⟨sector, size, l, s₁, s₂, hread, hload, ?_, fun hhw => ?_⟩
  · rw [sunxiFipParse_eq .bits32 .wrap hle, hparse]
  have hloaded : Loaded s₁.world s₂.world l := by
    rw [hworld]
    exact copiedWorld_loaded hsize hparse
  have hok := (parseResult_loadable hparse).2 hhw
  obtain ⟨hheader, htotal⟩ := hloaded.hwConfig_header hok
  have hdtb : s₂.world.images.dtbBase = 0x48100000 := by
    rw [hworld, copiedWorld_dtb hzero hcand, if_pos hhw]
    rfl
  have hdtbSize : s₂.world.images.dtbSize = l.hwConfig.size := by
    rw [hworld]
    exact if_pos hhw
  have hne : s₂.world.images.dtbBase ≠ 0 := by
    rw [hdtb]
    decide
  refine ⟨fun hW hsuccess => ?_, fun hfail => ?_⟩
  · rw [publishHwConfig_taken hne (by rw [hdtb, hdtbSize]; exact hsuccess), hdtb, hdtbSize]
    obtain ⟨k, -, hnode, hpatched, hfull⟩ := a733HwConfigUpdateDram_patched hdoc hW
      l.hwConfig.size 96 para
    generalize a733HwConfigUpdateDram f s₂.world.mem 0x48100000 l.hwConfig.size (some para) 96 = r
      at hpatched hfull hsuccess
    obtain rfl := hfull hsuccess
    have hnode := hnode (by decide)
    refine ⟨rfl, fun i _ hi => hpatched.frame _ fun j hj o ho => ?_, fun m hm => ?_⟩
    · have := hi j hj o ho
      omega
    · have hsame : ∀ i < 40, r.2.view 0x48100000 i = s₂.world.mem.view 0x48100000 i :=
        fun i hi => hpatched.keeps hdoc hW (fun _ => reaches_dram hnode) le_rfl (.inl (by omega))
      obtain ⟨hcheck', htotal'⟩ := fdtCheckHeader_congr hsame
      have htree : fdtTotalsize (r.2.view 0x48100000) = l.hwConfig.size := htotal'.trans htotal
      have hlimit : l.hwConfig.size ≤ ariscDtsSize := hloaded.limits.2.2
      refine readsBack_patched hdoc hpatched (hcheck'.trans hheader) hnode (fun i hi => ?_)
        (by rw [htree]; exact hok.1) (by rw [htree]; exact hlimit) (by decide) (by decide) fw
      rw [htree] at hi
      exact (hm i hi).symm
  · rw [publishHwConfig_failed hne (by rw [hdtb, hdtbSize]; exact hfail)]
    exact ⟨rfl, fun m => readsNothing_zero f m fw⟩

/-- From the sample package the firmware reads back the words that boot0 was given. -/
theorem hwConfig_handover_samplePackage :
    ∃ w', loadFipImages (diskMmc samplePackage.byte) vendored 0 0 UInt32.ofNat (0, 0)
        ⟨fun _ => 0, FipBootImages.zero, ()⟩ = some (0, (configUbootBase, configMonitorBase), w') ∧
      w'.images.dtbBase = 0x48100000 ∧
      ReadsBack vendored w'.mem 0x48100000 UInt32.ofNat ⟨7, ⟨3, 0, fun _ => 0, fun _ => 0⟩⟩ := by
  obtain ⟨_, w', -, -, -, hrun⟩ := samplePackage_run vendored UInt32.ofNat
    ⟨fun _ => 0, FipBootImages.zero, ()⟩
  refine ⟨w', hrun, ?_⟩
  obtain ⟨hdoc, hhandover⟩ := hwConfig_handover (ε := Unit)
  obtain ⟨sector, size, l, s₁, s₂, hread, hload, haccept, hboth⟩ :=
    hhandover vendored IsTree hdoc (diskMmc samplePackage.byte) 0 0 UInt32.ofNat (0, 0)
      (configUbootBase, configMonitorBase) ⟨fun _ => 0, FipBootImages.zero, ()⟩ w' rfl hrun
      ⟨7, ⟨3, 0, fun _ => 0, fun _ => 0⟩⟩
  obtain ⟨rfl, htree, hsize⟩ := samplePackage_accepted hread hload haccept
  obtain ⟨hdtb, -, hback⟩ := (hboth (by decide)).1 ⟨dramTree, htree⟩
    (a733HwConfigUpdateDram_ok htree (by decide) hsize.le dramTree_words)
  refine ⟨hdtb, ?_⟩
  rw [← hdtb]
  exact hback w'.mem fun _ _ => rfl

end A733Boot.Ar100s
