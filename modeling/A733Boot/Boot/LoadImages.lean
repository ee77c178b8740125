/-
Loading the package into memory: `fip_mmc_read`, `fip_copy_image` and
`load_fip_images` of `src/boot0_main.c`, over a flat byte memory.

The vendor MMC driver is a parameter that writes nothing but the range it is asked to
fill (`Mmc`, with that as a field). The callbacks make a `Host` of the loader of
`Fip/Loader.lean` whose staging buffer is a range of the memory.

* `regions_pairwise_disjoint`: the address map keeps the handoff page, the staging
  area and the four load windows apart;
* `copiedWorld`, `runCopies_fipHost`: the memory after the copies of a package;
* `Loaded`, `copiedWorld_loaded`: what is then in the windows, what the recorded
  SCP range holds, and that nothing else was written;
* `loadFipImages_loads` (**memory-level correctness** of a successful load).
-/
import A733Boot.Fdt.Words
import A733Boot.Fip.Redundant

namespace A733Boot.Boot

open Fip Fdt

/-! ### The address map -/

def sdramOffset (x : ℕ) : ℕ := 0x40000000 + x
def configBootpkgBase : ℕ := sdramOffset 0x02e00000
def configFipStagingSize : ℕ := 0x00200000
def configFipHandoffBase : ℕ := configBootpkgBase - 0x1000
def configFipHandoffSize : ℕ := 0x1000
def configMonitorBase : ℕ := sdramOffset 0x08000000
def configUbootBase : ℕ := sdramOffset 0x0a000000
def scpSramSize : ℕ := 0x28000
def maxDramparaSize : ℕ := 96

/-- The range of `n` addresses from `base` on. -/
def window (base n : ℕ) : Set ℕ := Set.Ico base (base + n)

/-- The handoff page, the staging area, and the load windows of the four images. -/
def regions : List (Set ℕ) :=
  [window configFipHandoffBase configFipHandoffSize,
    window configBootpkgBase configFipStagingSize,
    window sunxiFipBl31Base sunxiFipBl31MaxSize,
    window sunxiFipHwConfigBase sunxiFipHwConfigMaxSize,
    window sunxiFipBl33Base sunxiFipBl33MaxSize,
    window sunxiFipScpBl2Base sunxiFipScpBl2MaxSize]

lemma regions_pairwise_disjoint : regions.Pairwise Disjoint := by
  simp only [regions, window, List.pairwise_cons, List.mem_cons, List.not_mem_nil, or_false,
    forall_eq_or_imp, forall_eq, Set.Ico_disjoint_Ico, List.Pairwise.nil, and_true,
    IsEmpty.forall_iff, implies_true]
  decide

/-! ### The callbacks -/

/-- `struct fip_boot_images`, a null source being zero. -/
structure FipBootImages where
  scpSource : ℕ
  scpSize : ℕ
  dtbBase : ℕ
  dtbSize : ℕ
  deriving DecidableEq, Repr

/-- The `{ 0 }` that `main` starts with. -/
def FipBootImages.zero : FipBootImages := ⟨0, 0, 0, 0⟩

/-- The vendor MMC driver with its own state `ε`: initialisation, and a sector
read into a range of memory that touches no other address. -/
structure Mmc (ε : Type) where
  initExt : ε → ℤ × ε
  breadExt : ℕ → ℕ → ℕ → ε → Mem → ℤ × ε × Mem
  frame : ∀ start count destination e m a,
    a < destination ∨ destination + 512 * count ≤ a →
      (breadExt start count destination e m).2.2 a = m a

/-- The state of boot0: the memory, the images recorded so far, and the driver's. -/
structure Boot0 (ε : Type) where
  mem : Mem
  images : FipBootImages
  mmc : ε

variable {ε : Type}

/-- The driver returns zero on success, the callback one. -/
def fipMmcRead (mmc : Mmc ε) (startSector sectorCount : ℕ) (w : Boot0 ε) : ℤ × Boot0 ε :=
  let r := mmc.breadExt startSector sectorCount configBootpkgBase w.mmc w.mem
  (if r.1 = 0 then 1 else 0, { w with mmc := r.2.1, mem := r.2.2 })

/-- SCP_BL2 is only recorded: its window overlaps boot0 itself. -/
def fipCopyImage (destination source size : ℕ) (w : Boot0 ε) : ℤ × Boot0 ε :=
  let address := configBootpkgBase + source
  if destination = sunxiFipScpBl2Base then
    (0, { w with images := { w.images with scpSource := address, scpSize := size } })
  else
    let w := { w with mem := w.mem.memcpy destination address size }
    if destination = sunxiFipHwConfigBase then
      (0, { w with images := { w.images with dtbBase := destination, dtbSize := size } })
    else (0, w)

/-- The staging buffer and the callbacks that `load_fip_images` passes. -/
def fipHost (mmc : Mmc ε) : Host (Boot0 ε) where
  staging := some fun w => w.mem.view configBootpkgBase
  read := some (fipMmcRead mmc)
  copy := some fipCopyImage

/-- The HW_CONFIG part of `load_fip_images`: the trained words are written into the
tree, and a tree that does not take them is not handed over. -/
def publishHwConfig (f : Libfdt) (para : ℕ → UInt32) (w : Boot0 ε) : Boot0 ε :=
  if w.images.dtbBase ≠ 0 then
    let r := a733HwConfigUpdateDram f w.mem w.images.dtbBase w.images.dtbSize (some para)
      maxDramparaSize
    if r.1 ≠ 0 then { w with mem := r.2, images := { w.images with dtbBase := 0, dtbSize := 0 } }
    else { w with mem := r.2 }
  else w

/-- The tree took the words. -/
lemma publishHwConfig_taken {f : Libfdt} {para : ℕ → UInt32} {w : Boot0 ε}
    (hdtb : w.images.dtbBase ≠ 0)
    (h : (a733HwConfigUpdateDram f w.mem w.images.dtbBase w.images.dtbSize (some para) 96).1 = 0) :
    publishHwConfig f para w = { w with mem := (a733HwConfigUpdateDram f w.mem w.images.dtbBase
      w.images.dtbSize (some para) 96).2 } := by
  rw [publishHwConfig, if_pos hdtb]
  exact if_neg (not_not.mpr h)

/-- The tree did not take them. -/
lemma publishHwConfig_failed {f : Libfdt} {para : ℕ → UInt32} {w : Boot0 ε}
    (hdtb : w.images.dtbBase ≠ 0)
    (h : (a733HwConfigUpdateDram f w.mem w.images.dtbBase w.images.dtbSize (some para) 96).1 ≠ 0) :
    (publishHwConfig f para w).images.dtbBase = 0 := by
  rw [publishHwConfig, if_pos hdtb]
  exact congrArg (fun v : Boot0 ε => v.images.dtbBase) (if_pos h)

/-- The result carries the value returned, and `*uboot_base` and `*monitor_base`. -/
def loadFipImages (mmc : Mmc ε) (f : Libfdt) (primarySector backupSector : ℕ)
    (para : ℕ → UInt32) (bases : ℕ × ℕ) (w : Boot0 ε) : Option (ℤ × (ℕ × ℕ) × Boot0 ε) :=
  let init := mmc.initExt w.mmc
  let w := { w with mmc := init.2 }
  if init.1 ≠ 0 then return (-1, bases, w)
  else do
    let (ret, _, _, s) ← sunxiFipLoadRedundant .bits32 (fipHost mmc) primarySector backupSector
      configFipStagingSize (some 0) (some 0) ⟨w, []⟩
    if ret ≠ 0 then return (-1, bases, s.world)
    else if s.world.images.scpSource = 0 ∨ s.world.images.scpSize = 0 then
      return (-1, bases, s.world)
    else return (0, (configUbootBase, configMonitorBase), publishHwConfig f para s.world)

/-! ### The memory after the copies -/

/-- The world after the copies of a package with layout `l`. -/
def copiedWorld (w : Boot0 ε) (l : Layout) : Boot0 ε :=
  let base := configBootpkgBase
  let m := w.mem.memcpy sunxiFipBl31Base (base + l.bl31.offset) l.bl31.size
  let m := m.memcpy sunxiFipBl33Base (base + l.bl33.offset) l.bl33.size
  { w with
    mem :=
      if l.hwConfig.size ≠ 0 then
        m.memcpy sunxiFipHwConfigBase (base + l.hwConfig.offset) l.hwConfig.size
      else m
    images :=
      { scpSource := base + l.scpBl2.offset
        scpSize := l.scpBl2.size
        dtbBase := if l.hwConfig.size ≠ 0 then sunxiFipHwConfigBase else w.images.dtbBase
        dtbSize := if l.hwConfig.size ≠ 0 then l.hwConfig.size else w.images.dtbSize } }

/-- The copies never fail, and leave `copiedWorld`. -/
lemma runCopies_fipHost (l : Layout) (s : Sys (Boot0 ε)) :
    (runCopies (fun w => w.mem.view configBootpkgBase) fipCopyImage (copyPlan l) s).1 = true ∧
    (runCopies (fun w => w.mem.view configBootpkgBase) fipCopyImage (copyPlan l) s).2.world
      = copiedWorld s.world l := by
  have h1 : sunxiFipBl31Base ≠ sunxiFipScpBl2Base := by decide
  have h2 : sunxiFipBl33Base ≠ sunxiFipScpBl2Base := by decide
  have h3 : sunxiFipHwConfigBase ≠ sunxiFipScpBl2Base := by decide
  have h4 : sunxiFipBl31Base ≠ sunxiFipHwConfigBase := by decide
  have h5 : sunxiFipBl33Base ≠ sunxiFipHwConfigBase := by decide
  by_cases hhw : l.hwConfig.size = 0
  · simp [copyPlan, runCopies, callCopy, fipCopyImage, copiedWorld, hhw, h1, h2, h4, h5]
  · simp [copyPlan, runCopies, callCopy, fipCopyImage, copiedWorld, hhw, h1, h2, h3, h4, h5]

/-- The package that lies in the staging area. -/
def package (w : Boot0 ε) (size : ℕ) : Buf := ⟨size, w.mem.view configBootpkgBase⟩

/-- The world `w₂` is `w₁` with a package of layout `l` loaded from the staging area:
each window starts with its payload, the recorded SCP range holds the SCP payload, is
aligned and lies in the staging area, and no other byte was written. -/
structure Loaded (w₁ w₂ : Boot0 ε) (l : Layout) : Prop where
  bl31 : ∀ i < l.bl31.size,
    w₂.mem (0x48000000 + i) = w₁.mem (configBootpkgBase + (l.bl31.offset + i))
  bl33 : ∀ i < l.bl33.size,
    w₂.mem (0x4a000000 + i) = w₁.mem (configBootpkgBase + (l.bl33.offset + i))
  hwConfig : ∀ i < l.hwConfig.size,
    w₂.mem (0x48100000 + i) = w₁.mem (configBootpkgBase + (l.hwConfig.offset + i))
  limits : l.bl31.size ≤ sunxiFipBl31MaxSize ∧ l.bl33.size ≤ sunxiFipBl33MaxSize ∧
    l.hwConfig.size ≤ sunxiFipHwConfigMaxSize
  scp_source : w₂.images.scpSource = configBootpkgBase + l.scpBl2.offset
  scp_size : w₂.images.scpSize = l.scpBl2.size ∧ 0 < l.scpBl2.size ∧ l.scpBl2.size ≤ scpSramSize
  scp_aligned : 4 ∣ w₂.images.scpSource
  scp_staged : w₂.images.scpSource + w₂.images.scpSize ≤ configBootpkgBase + configFipStagingSize
  scp_bytes : ∀ i < w₂.images.scpSize, w₂.mem (w₂.images.scpSource + i)
    = w₁.mem (configBootpkgBase + (l.scpBl2.offset + i))
  frame : ∀ a, a ∉ window sunxiFipBl31Base l.bl31.size → a ∉ window sunxiFipBl33Base l.bl33.size →
    a ∉ window sunxiFipHwConfigBase l.hwConfig.size → w₂.mem a = w₁.mem a

section Copied

variable {w : Boot0 ε} {l : Layout} {size : ℕ}

/-- A tree of size zero makes no difference to the copies. -/
lemma copiedWorld_mem (w : Boot0 ε) (l : Layout) : (copiedWorld w l).mem =
    ((w.mem.memcpy sunxiFipBl31Base (configBootpkgBase + l.bl31.offset) l.bl31.size).memcpy
      sunxiFipBl33Base (configBootpkgBase + l.bl33.offset) l.bl33.size).memcpy
      sunxiFipHwConfigBase (configBootpkgBase + l.hwConfig.offset) l.hwConfig.size := by
  simp only [copiedWorld]
  split_ifs with hne
  · rfl
  · rw [not_not.mp hne, Mem.memcpy_zero]

/-- The source of each copy is in the staging area, where no earlier copy has
written. -/
lemma copiedWorld_loaded (hsize : size ≤ configFipStagingSize) {l₀ : Layout}
    (hparse : parseResult (package w size) size l₀ = (0, l)) : Loaded w (copiedWorld w l) l := by
  obtain ⟨⟨h31, h33, hscp, hhw, hscpOk, -, -⟩, -⟩ := parseResult_loadable hparse
  have hin := parseResult_inside hparse
  have hin31 : l.bl31.offset + l.bl31.size ≤ size :=
    hin (sunxiFipBl31Base, l.bl31) (by simp [copyPlan])
  have hin33 : l.bl33.offset + l.bl33.size ≤ size :=
    hin (sunxiFipBl33Base, l.bl33) (by simp [copyPlan])
  have hinscp : l.scpBl2.offset + l.scpBl2.size ≤ size :=
    hin (sunxiFipScpBl2Base, l.scpBl2) (by simp [copyPlan])
  have hinhw : l.hwConfig.size ≠ 0 → l.hwConfig.offset + l.hwConfig.size ≤ size := fun hne =>
    hin (sunxiFipHwConfigBase, l.hwConfig) (by simp [copyPlan, hne])
  simp only [configFipStagingSize, sunxiFipBl31MaxSize, sunxiFipBl33MaxSize,
    sunxiFipScpBl2MaxSize, sunxiFipHwConfigMaxSize] at *
  -- a copy to one window leaves the other windows and the staging area alone
  have hbase : configBootpkgBase = 0x42e00000 := rfl
  have hkeep : ∀ a, a < 0x48000000 → (copiedWorld w l).mem a = w.mem a := by
    intro a ha
    rw [copiedWorld_mem, Mem.memcpy_outside _ _ (by simp only [sunxiFipHwConfigBase]; omega),
      Mem.memcpy_outside _ _ (by simp only [sunxiFipBl33Base]; omega),
      Mem.memcpy_outside _ _ (by simp only [sunxiFipBl31Base]; omega)]
  refine
    { bl31 := fun i hi => ?_
      bl33 := fun i hi => ?_
      hwConfig := fun i hi => ?_
      limits := ⟨h31, h33, hhw⟩
      scp_source := rfl
      scp_size := ⟨rfl, by have := hscpOk.1.2; omega, by simp only [scpSramSize]; omega⟩
      scp_aligned := ?_
      scp_staged := by simp only [copiedWorld, configFipStagingSize]; omega
      scp_bytes := fun i hi => ?_
      frame := fun a ha31 ha33 hahw => ?_ }
  · rw [copiedWorld_mem, show (0x48000000 : ℕ) = sunxiFipBl31Base from rfl,
      Mem.memcpy_outside _ _ (by simp only [sunxiFipHwConfigBase, sunxiFipBl31Base]; omega),
      Mem.memcpy_outside _ _ (by simp only [sunxiFipBl33Base, sunxiFipBl31Base]; omega),
      Mem.memcpy_inside _ _ _ hi, add_assoc]
  · rw [copiedWorld_mem, show (0x4a000000 : ℕ) = sunxiFipBl33Base from rfl,
      Mem.memcpy_outside _ _ (by simp only [sunxiFipHwConfigBase, sunxiFipBl33Base]; omega),
      Mem.memcpy_inside _ _ _ hi,
      Mem.memcpy_outside _ _ (by simp only [sunxiFipBl31Base]; omega), add_assoc]
  · have hsource := hinhw (by omega)
    rw [copiedWorld_mem, show (0x48100000 : ℕ) = sunxiFipHwConfigBase from rfl,
      Mem.memcpy_inside _ _ _ hi,
      Mem.memcpy_outside _ _ (by simp only [sunxiFipBl33Base]; omega),
      Mem.memcpy_outside _ _ (by simp only [sunxiFipBl31Base]; omega), add_assoc]
  · have halign := hscpOk.1.1
    simp only [copiedWorld]
    omega
  · simp only [copiedWorld] at hi
    rw [show (copiedWorld w l).images.scpSource = configBootpkgBase + l.scpBl2.offset from rfl,
      hkeep _ (by omega), add_assoc]
  · simp only [window, Set.mem_Ico, not_and_or, not_le, not_lt] at ha31 ha33 hahw
    rw [copiedWorld_mem, Mem.memcpy_outside _ _ hahw, Mem.memcpy_outside _ _ ha33,
      Mem.memcpy_outside _ _ ha31]

/-- The tree in the window is the one in the package: its header is valid and it is as
large as its entry. -/
lemma Loaded.hwConfig_header {w₁ w₂ : Boot0 ε} (hl : Loaded w₁ w₂ l)
    (hok : HwConfigOk (package w₁ size) l.hwConfig.offset l.hwConfig.size) :
    fdtCheckHeader (w₂.mem.view sunxiFipHwConfigBase) = 0 ∧
    fdtTotalsize (w₂.mem.view sunxiFipHwConfigBase) = l.hwConfig.size := by
  obtain ⟨hn, hmagic, htotal, ⟨hver, -, hlast⟩, -⟩ := hok
  have hword : ∀ o, o + 4 ≤ 40 → (w₂.mem.view sunxiFipHwConfigBase).loadBe32 o
      = (package w₁ size).be (l.hwConfig.offset + o) 4 := by
    intro o ho
    have hslice : (Buf.mk 0 (w₂.mem.view sunxiFipHwConfigBase)).slice o 4
        = (package w₁ size).slice (l.hwConfig.offset + o) 4 := by
      refine Buf.slice_eq_slice_iff.mpr fun i hi => ?_
      have hbyte := hl.hwConfig (o + i) (by omega)
      simp only [package, Mem.view, add_assoc]
      exact hbyte
    rw [Mem.loadBe32, Buf.be, Buf.be, hslice]
  have h0 := hword 0 (by omega)
  rw [Nat.add_zero, hmagic] at h0
  refine ⟨?_, (hword 4 (by omega)).trans htotal⟩
  have h20 := hword 20 (by omega)
  have h24 := hword 24 (by omega)
  simp only [fdtCheckHeader, Fdt.fdtMagic, fdtVersion, fdtLastCompVersion, h0, h20, h24,
    Fdt.fdtFirstSupportedVersion, Fdt.fdtLastSupportedVersion, fdtMagicWord, if_true]
  rw [if_neg (by omega), if_neg (by omega)]

/-- Patching the tree in its window changes nothing outside the tree. -/
lemma publishHwConfig_outside (size : ℕ) {f : Libfdt} {W : Mem → Prop} (hdoc : f.Documented W)
    {w₁ w₂ : Boot0 ε} (hl : Loaded w₁ w₂ l) (para : ℕ → UInt32)
    (hok : w₂.images.dtbBase ≠ 0 → w₂.images.dtbBase = sunxiFipHwConfigBase ∧
      HwConfigOk (package w₁ size) l.hwConfig.offset l.hwConfig.size)
    (hW : W (w₂.mem.view sunxiFipHwConfigBase)) {a : ℕ}
    (ha : a ∉ window sunxiFipHwConfigBase l.hwConfig.size) :
    (publishHwConfig f para w₂).mem a = w₂.mem a := by
  rw [publishHwConfig]
  by_cases hdtb : w₂.images.dtbBase = 0
  · rw [if_neg (not_not.mpr hdtb)]
  obtain ⟨hbase, hhw⟩ := hok hdtb
  obtain ⟨k, hk, hnode, hpatched, -⟩ := a733HwConfigUpdateDram_patched hdoc hW w₂.images.dtbSize
    maxDramparaSize para
  have hsame : (a733HwConfigUpdateDram f w₂.mem sunxiFipHwConfigBase w₂.images.dtbSize (some para)
      maxDramparaSize).2 a = w₂.mem a := by
    refine hpatched.keeps hdoc hW (fun hpos => reaches_dram (hnode hpos)) hk ?_
    rw [(hl.hwConfig_header hhw).2]
    simp only [window, Set.mem_Ico, not_and_or, not_le, not_lt] at ha
    omega
  rw [if_pos hdtb, hbase]
  dsimp only
  split
  · exact hsame
  · exact hsame

end Copied

/-! ### A run of `load_fip_images` -/

section Run

variable {mmc : Mmc ε} {f : Libfdt} {primary backup : ℕ} {para : ℕ → UInt32} {w : Boot0 ε}

/-- The driver initialised, and no call made. -/
def started (mmc : Mmc ε) (w : Boot0 ε) : Sys (Boot0 ε) :=
  ⟨{ w with mmc := (mmc.initExt w.mmc).2 }, []⟩

/-- The reads write to the staging area only. -/
lemma candidate_fipHost_frame (mmc : Mmc ε) (primary backup : ℕ) (w : Boot0 ε) {a : ℕ}
    (ha : a ∉ window configBootpkgBase configFipStagingSize) :
    ((fipHost mmc).candidate primary backup configFipStagingSize (started mmc w)).2.world.mem a
      = w.mem a := by
  refine candidate_preserves (P := fun v : Boot0 ε => v.mem a = w.mem a) ?_ primary backup rfl
  rintro read ⟨⟩ start count v hcount hv
  refine (mmc.frame start count configBootpkgBase v.mmc v.mem a ?_).trans hv
  simp only [window, Set.mem_Ico, not_and_or, not_le, not_lt] at ha
  omega

/-- The reads leave the recorded images alone. -/
lemma candidate_fipHost_images (mmc : Mmc ε) (primary backup : ℕ) (w : Boot0 ε) :
    ((fipHost mmc).candidate primary backup configFipStagingSize (started mmc w)).2.world.images
      = w.images := by
  refine candidate_preserves (P := fun v : Boot0 ε => v.images = w.images) ?_ primary backup rfl
  rintro read ⟨⟩ start count v _ hv
  exact hv

/-- A candidate has been validated in the staging area, and all its copies succeed. -/
lemma candidate_fipHost {sector size : ℕ} {s s₁ : Sys (Boot0 ε)}
    (hc : (fipHost mmc).candidate primary backup configFipStagingSize s
      = (some (sector, size), s₁)) :
    ∃ l, size ≤ configFipStagingSize ∧
      parseResult (package s₁.world size) size Layout.zero = (0, l) ∧
      ((fipHost mmc).copyImages configFipStagingSize size s₁).1 = true ∧
      ((fipHost mmc).copyImages configFipStagingSize size s₁).2.world = copiedWorld s₁.world l := by
  obtain ⟨s₀, hs₀⟩ := candidate_read hc
  obtain ⟨staging, hstaging, hround, hzero⟩ := readImage_eq_some hs₀
  obtain rfl := Option.some.inj hstaging
  have hle := le_roundup512 size
  have hsize : size ≤ configFipStagingSize := by omega
  have hzero' : (parseResult (package s₁.world size) size Layout.zero).1 = 0 := hzero
  have hcongr : parseResult (s₁.buf (fun w => w.mem.view configBootpkgBase) configFipStagingSize)
      size Layout.zero = parseResult (package s₁.world size) size Layout.zero :=
    parseResult_congr (b := Sys.buf _ configFipStagingSize s₁) (c := package s₁.world size) hsize
      le_rfl (fun _ _ => rfl) Layout.zero
  have hcopy : (fipHost mmc).copyImages configFipStagingSize size s₁
      = runCopies (fun w => w.mem.view configBootpkgBase) fipCopyImage
        (copyPlan (parseResult (package s₁.world size) size Layout.zero).2) s₁ := by
    simp only [Host.copyImages, fipHost, hcongr, hzero', if_true]
  rw [hcopy]
  exact ⟨_, hsize, Prod.ext hzero rfl, runCopies_fipHost _ s₁⟩

/-- Once the driver is up, a run succeeds exactly when there is a candidate. -/
lemma loadFipImages_eq (hinit : (mmc.initExt w.mmc).1 = 0) (bases : ℕ × ℕ) :
    loadFipImages mmc f primary backup para bases w
      = match (fipHost mmc).candidate primary backup configFipStagingSize (started mmc w) with
        | (none, s) => some (-1, bases, s.world)
        | (some (_, size), s) => some (0, (configUbootBase, configMonitorBase),
            publishHwConfig f para
              ((fipHost mmc).copyImages configFipStagingSize size s).2.world) := by
  have hload := sunxiFipLoadRedundant_eq .bits32 (fipHost mmc) primary backup configFipStagingSize
    0 0 (started mmc w)
  rcases hc : (fipHost mmc).candidate primary backup configFipStagingSize (started mmc w)
    with ⟨- | ⟨sector, size⟩, s₁⟩
  · rw [hc, started] at hload
    simp [loadFipImages, hinit, hload]
  · obtain ⟨l, hsize, hparse, hall, hworld⟩ := candidate_fipHost hc
    obtain ⟨-, hpos, -⟩ := (copiedWorld_loaded hsize hparse).scp_size
    have hsource : ¬(configBootpkgBase + l.scpBl2.offset = 0 ∨ l.scpBl2.size = 0) := by
      simp only [configBootpkgBase, sdramOffset]
      omega
    rw [hc, started] at hload
    simp only [hall, if_true] at hload
    simp only [loadFipImages, hinit, hload, Option.bind_eq_bind, Option.bind_some, ne_eq,
      not_true_eq_false, if_false]
    rw [if_neg]
    · rfl
    · rw [hworld]
      exact hsource

/-- A successful run, taken apart: the candidate, its layout, the copies and the
hand-over. -/
lemma loadFipImages_eq_zero {bases bases' : ℕ × ℕ} {w' : Boot0 ε}
    (hrun : loadFipImages mmc f primary backup para bases w = some (0, bases', w')) :
    ∃ sector size l s₁ s₂,
      (fipHost mmc).candidate primary backup configFipStagingSize (started mmc w)
        = (some (sector, size), s₁) ∧
      sunxiFipReadRedundant .bits32 (fipHost mmc) primary backup configFipStagingSize (some 0)
        (some 0) (started mmc w) = some (0, some size, some sector, s₁) ∧
      sunxiFipLoadRedundant .bits32 (fipHost mmc) primary backup configFipStagingSize (some 0)
        (some 0) (started mmc w) = some (0, some size, some sector, s₂) ∧
      size ≤ configFipStagingSize ∧
      parseResult (package s₁.world size) size Layout.zero = (0, l) ∧
      s₂.world = copiedWorld s₁.world l ∧ w' = publishHwConfig f para s₂.world := by
  have hinit : (mmc.initExt w.mmc).1 = 0 := by
    by_contra hne
    simp [loadFipImages, hne] at hrun
  have hread := sunxiFipReadRedundant_eq .bits32 (fipHost mmc) primary backup configFipStagingSize
    0 0 (started mmc w)
  have hload := sunxiFipLoadRedundant_eq .bits32 (fipHost mmc) primary backup configFipStagingSize
    0 0 (started mmc w)
  rw [loadFipImages_eq hinit] at hrun
  rcases hcand : (fipHost mmc).candidate primary backup configFipStagingSize (started mmc w)
    with ⟨- | ⟨sector, size⟩, s₁⟩
  · simp [hcand] at hrun
  obtain ⟨l, hsize, hparse, hall, hworld⟩ := candidate_fipHost hcand
  simp only [hcand, hall, if_true, Option.some.injEq, Prod.mk.injEq] at hread hload hrun
  exact ⟨sector, size, l, s₁, _, rfl, hread, hload, hsize, hparse, hworld, hrun.2.2.symm⟩

/-- After a load that started from no images, a device tree is recorded exactly when
the package has one. -/
lemma copiedWorld_dtb {sector size : ℕ} {l : Layout} {s₁ : Sys (Boot0 ε)}
    (hzero : w.images = FipBootImages.zero)
    (hcand : (fipHost mmc).candidate primary backup configFipStagingSize (started mmc w)
      = (some (sector, size), s₁)) :
    (copiedWorld s₁.world l).images.dtbBase
      = if l.hwConfig.size ≠ 0 then sunxiFipHwConfigBase else 0 := by
  have hold := candidate_fipHost_images mmc primary backup w
  rw [hcand, hzero] at hold
  have hnone : s₁.world.images.dtbBase = 0 := congrArg FipBootImages.dtbBase hold
  simp only [copiedWorld, hnone]

/-- **Memory-level loading correctness.** In a run that returns zero, the package
accepted in the staging area has been loaded to its windows as `Loaded` says, from a
staging area that the copies left as it was and that is disjoint, like the handoff page,
from every window; the reads wrote to the staging area only; and the words written
into the device tree afterwards change nothing outside the tree, nor the recorded SCP
range. -/
theorem loadFipImages_loads (mmc : Mmc ε) (f : Libfdt) (primary backup : ℕ) (para : ℕ → UInt32)
    (bases bases' : ℕ × ℕ) (w w' : Boot0 ε)
    (hrun : loadFipImages mmc f primary backup para bases w = some (0, bases', w')) :
    ∃ sector size l s₁ s₂,
      sunxiFipReadRedundant .bits32 (fipHost mmc) primary backup configFipStagingSize (some 0)
        (some 0) (started mmc w) = some (0, some size, some sector, s₁) ∧
      sunxiFipLoadRedundant .bits32 (fipHost mmc) primary backup configFipStagingSize (some 0)
        (some 0) (started mmc w) = some (0, some size, some sector, s₂) ∧
      sunxiFipParse .bits32 .wrap (some (package s₁.world size)) size (some Layout.zero)
        = some (0, some l) ∧
      Loaded s₁.world s₂.world l ∧
      (∀ a ∈ window configBootpkgBase configFipStagingSize ∪
        window configFipHandoffBase configFipHandoffSize, s₂.world.mem a = s₁.world.mem a) ∧
      regions.Pairwise Disjoint ∧
      (∀ a ∉ window configBootpkgBase configFipStagingSize, s₁.world.mem a = w.mem a) ∧
      w' = publishHwConfig f para s₂.world ∧
      w'.images.scpSource = s₂.world.images.scpSource ∧
      w'.images.scpSize = s₂.world.images.scpSize ∧
      ∀ W : Mem → Prop, f.Documented W → W (s₂.world.mem.view sunxiFipHwConfigBase) →
        w.images = FipBootImages.zero → ∀ a ∉ window sunxiFipHwConfigBase l.hwConfig.size,
          w'.mem a = s₂.world.mem a := by
  obtain ⟨sector, size, l, s₁, s₂, hcand, hread, hload, hsize, hparse, hworld, rfl⟩ :=
    loadFipImages_eq_zero hrun
  have hloaded : Loaded s₁.world s₂.world l := by
    rw [hworld]
    exact copiedWorld_loaded hsize hparse
  have himages : ∀ v : Boot0 ε, (publishHwConfig f para v).images.scpSource = v.images.scpSource ∧
      (publishHwConfig f para v).images.scpSize = v.images.scpSize := by
    intro v
    rw [publishHwConfig]
    split_ifs
    · dsimp only
      split_ifs <;> exact ⟨rfl, rfl⟩
    · exact ⟨rfl, rfl⟩
  refine ⟨sector, size, l, s₁, s₂, hread, hload, ?_, hloaded, fun a ha => ?_,
    regions_pairwise_disjoint, fun a ha => ?_, rfl, (himages _).1, (himages _).2,
    fun W hdoc hW hzero a ha => ?_⟩
  · have hle : size ≤ (package s₁.world size).size := le_rfl
    rw [sunxiFipParse_eq .bits32 .wrap hle, hparse]
  · have hstaging : configBootpkgBase + configFipStagingSize = 0x43000000 := by decide
    have hhandoff : configFipHandoffBase + configFipHandoffSize = 0x42e00000 := by decide
    have hbelow : a < 0x48000000 := by
      simp only [window, Set.mem_union, Set.mem_Ico, hstaging, hhandoff] at ha
      omega
    refine hloaded.frame a ?_ ?_ ?_
    · simp only [window, Set.mem_Ico, sunxiFipBl31Base]
      omega
    · simp only [window, Set.mem_Ico, sunxiFipBl33Base]
      omega
    · simp only [window, Set.mem_Ico, sunxiFipHwConfigBase]
      omega
  · have hframe := candidate_fipHost_frame mmc primary backup w ha
    rwa [hcand] at hframe
  · refine publishHwConfig_outside size hdoc hloaded para (fun hdtb => ?_) hW ha
    rw [hworld, copiedWorld_dtb hzero hcand] at hdtb ⊢
    by_cases hhw : l.hwConfig.size = 0
    · exact absurd (if_neg (not_not.mpr hhw)) hdtb
    · exact ⟨if_pos hhw, (parseResult_loadable hparse).2 hhw⟩

end Run

/-! ### The sample package on a disk -/

/-- A driver that always delivers the sectors of a disk. -/
def diskMmc (disk : ℕ → UInt8) : Mmc Unit where
  initExt _ := (0, ())
  breadExt start count destination _ m :=
    (0, (), fun a => if destination ≤ a ∧ a < destination + 512 * count then
      disk (512 * start + (a - destination)) else m a)
  frame := by
    intro start count destination e m a ha
    exact if_neg (by omega)

lemma diskMmc_readsDisk (disk : ℕ → UInt8) : (fipHost (diskMmc disk)).ReadsDisk disk := by
  refine ⟨_, _, rfl, rfl, fun start count w => ⟨rfl, fun i hi => ?_⟩⟩
  simp only [fipMmcRead, diskMmc, Mem.view]
  rw [if_pos (by omega), Nat.add_sub_cancel_left]

/-- The tree of the sample package is one with the words. -/
lemma sampleDtb_eq : sampleDtb = blob dramTree dramStrings := by decide +kernel

/-- The tree stands in its window when the sample package has been loaded. -/
lemma Loaded.encodes_dramTree {ε : Type} {w₁ w₂ : Boot0 ε} (hl : Loaded w₁ w₂ sampleLayout)
    (hbytes : ∀ i < 7456, (package w₁ 7456).byte i = samplePackage.byte i) :
    Encodes (w₂.mem.view sunxiFipHwConfigBase) dramTree := by
  have hsize : fdtTotalsize (.ofList (blob dramTree dramStrings)) = 2776 := by decide +kernel
  refine (blob_encodes dramTree_valid).congr fun i hi => ?_
  rw [hsize] at hi
  calc w₂.mem.view sunxiFipHwConfigBase i = w₁.mem (configBootpkgBase + (4680 + i)) :=
        hl.hwConfig i hi
    _ = samplePackage.byte (4680 + i) := hbytes (4680 + i) (by omega)
    _ = sampleDtb.getD i 0 := by
      simp only [samplePackage]
      rw [if_pos (by omega), Nat.add_sub_cancel_left]
    _ = Mem.ofList (blob dramTree dramStrings) i := by
      rw [sampleDtb_eq]
      rfl

/-- A run from the disk of the sample package: the candidate is the package, byte for
byte, and the run succeeds. -/
lemma samplePackage_run (f : Libfdt) (para : ℕ → UInt32) (w : Boot0 Unit) :
    ∃ s₁ w', (fipHost (diskMmc samplePackage.byte)).candidate 0 0 configFipStagingSize
        (started (diskMmc samplePackage.byte) w) = (some (0, 7456), s₁) ∧
      (∀ i < 7456, (package s₁.world 7456).byte i = samplePackage.byte i) ∧
      parseResult (package s₁.world 7456) 7456 Layout.zero = (0, sampleLayout) ∧
      loadFipImages (diskMmc samplePackage.byte) f 0 0 para (0, 0) w
        = some (0, (configUbootBase, configMonitorBase), w') := by
  have hread : ((fipHost (diskMmc samplePackage.byte)).readImage 0 configFipStagingSize
      (started (diskMmc samplePackage.byte) w)).1 = some 7456 := by
    rw [readImage_iff_parse (diskMmc_readsDisk _) (by decide), diskFrom_samplePackage,
      parseResult_samplePackage]
    exact ⟨⟨4, samplePackage_firstNull⟩, by decide, rfl⟩
  rcases hr : (fipHost (diskMmc samplePackage.byte)).readImage 0 configFipStagingSize
    (started (diskMmc samplePackage.byte) w) with ⟨- | size, s₁⟩
  · simp [hr] at hread
  simp only [hr, Option.some.injEq] at hread
  subst hread
  have hcand : (fipHost (diskMmc samplePackage.byte)).candidate 0 0 configFipStagingSize
      (started (diskMmc samplePackage.byte) w) = (some (0, 7456), s₁) := by
    rw [Host.candidate, hr]
  have hbytes : ∀ i < 7456, (package s₁.world 7456).byte i = samplePackage.byte i := by
    intro i hi
    have hbyte := readImage_bytes (diskMmc_readsDisk samplePackage.byte) rfl hr hi
    rwa [Nat.mul_zero, Nat.zero_add] at hbyte
  have hparse : parseResult (package s₁.world 7456) 7456 Layout.zero
      = parseResult samplePackage 7456 Layout.zero :=
    parseResult_congr (b := package s₁.world 7456) (c := samplePackage) le_rfl le_rfl
      hbytes Layout.zero
  have hinit : ((diskMmc samplePackage.byte).initExt w.mmc).1 = 0 := rfl
  have hrun : loadFipImages (diskMmc samplePackage.byte) f 0 0 para (0, 0) w = _ :=
    loadFipImages_eq hinit (0, 0)
  rw [hcand] at hrun
  exact ⟨s₁, _, hcand, hbytes, hparse.trans (parseResult_samplePackage _), hrun⟩

/-- Whoever reads the disk of the sample package accepts that package, and loads its tree. -/
lemma samplePackage_accepted {w : Boot0 Unit} {sector size : ℕ} {l : Layout}
    {s₁ s₂ : Sys (Boot0 Unit)}
    (hread : sunxiFipReadRedundant .bits32 (fipHost (diskMmc samplePackage.byte)) 0 0
      configFipStagingSize (some 0) (some 0) (started (diskMmc samplePackage.byte) w)
        = some (0, some size, some sector, s₁))
    (hload : sunxiFipLoadRedundant .bits32 (fipHost (diskMmc samplePackage.byte)) 0 0
      configFipStagingSize (some 0) (some 0) (started (diskMmc samplePackage.byte) w)
        = some (0, some size, some sector, s₂))
    (haccept : sunxiFipParse .bits32 .wrap (some (package s₁.world size)) size (some Layout.zero)
      = some (0, some l)) :
    l = sampleLayout ∧ Encodes (s₂.world.mem.view sunxiFipHwConfigBase) dramTree ∧
    fdtTotalsize (s₂.world.mem.view sunxiFipHwConfigBase) = 2776 := by
  obtain ⟨s, -, hcand, hbytes, hparse, -⟩ := samplePackage_run vendored (fun _ => 0) w
  obtain ⟨l', hsize, hparse', hall, hworld⟩ := candidate_fipHost hcand
  obtain rfl : sampleLayout = l' := (Prod.mk.inj (hparse.symm.trans hparse')).2
  rw [sunxiFipReadRedundant_eq, hcand] at hread
  rw [sunxiFipLoadRedundant_eq, hcand] at hload
  simp only [hall, if_true, Option.some.injEq, Prod.mk.injEq, true_and] at hread hload
  obtain ⟨rfl, rfl, rfl⟩ := hread
  have hle : 7456 ≤ (package s.world 7456).size := le_rfl
  rw [sunxiFipParse_eq .bits32 .wrap hle, hparse] at haccept
  simp only [Option.some.injEq, Prod.mk.injEq, true_and] at haccept
  have hloaded := copiedWorld_loaded hsize hparse
  rw [← hworld, hload.2.2] at hloaded
  exact ⟨haccept.symm, hloaded.encodes_dramTree hbytes,
    (hloaded.hwConfig_header ((parseResult_loadable hparse).2 (by decide))).2⟩

/-- The run from the disk of the sample package returns zero, with the package loaded to
its windows and its tree changed in no other place than its own window. -/
theorem loadFipImages_samplePackage :
    ∃ w', loadFipImages (diskMmc samplePackage.byte) vendored 0 0 (fun _ => 0) (0, 0)
        ⟨fun _ => 0, FipBootImages.zero, ()⟩ = some (0, (configUbootBase, configMonitorBase), w') ∧
      ∃ l, ∃ s₁ s₂ : Sys (Boot0 Unit), Loaded s₁.world s₂.world l ∧
        w' = publishHwConfig vendored (fun _ => 0) s₂.world ∧
        ∀ a ∉ window sunxiFipHwConfigBase 2776, w'.mem a = s₂.world.mem a := by
  obtain ⟨s, w', -, -, -, hrun⟩ := samplePackage_run vendored (fun _ => 0)
    ⟨fun _ => 0, FipBootImages.zero, ()⟩
  obtain ⟨_, _, l, s₁, s₂, hread, hload, haccept, hloaded, -, -, -, hw', -, -, houtside⟩ :=
    loadFipImages_loads _ _ _ _ _ _ _ _ _ hrun
  obtain ⟨rfl, htree, -⟩ := samplePackage_accepted hread hload haccept
  exact ⟨w', hrun, sampleLayout, s₁, s₂, hloaded, hw',
    houtside IsTree vendored_documented ⟨dramTree, htree⟩ rfl⟩

end A733Boot.Boot
