/-
Reading a package from disk and loading it: `get_fip_size_from_toc`,
`sunxi_fip_read_image`, `sunxi_fip_read_redundant`, `sunxi_fip_copy_images` and
`sunxi_fip_load_redundant` of `src/sunxi_fip.c`.

The read and copy callbacks are arbitrary functions on a world `σ` of which the
staging buffer is a part; every call is recorded together with its result, so
that what a load did can be read off the record.

* `declaredSize`, `getFipSizeFromToc_eq`: the size that the first null entry declares;
* `sunxiFipReadImage_eq`: a read never faults, and what it computes (`Host.readImage`);
* `readImage_cases`: the ways a read can go, from which `readImage_calls`,
  `readImage_preserves` and `readImage_last` follow;
* `sunxiFipReadImage_iff_parse` (**the loader and the parser agree**): on a disk, a
  package is read exactly when the parser accepts its declared bytes.
-/
import A733Boot.Fip.Grammar

namespace A733Boot.Fip

/-! ### The callbacks and the record of their calls -/

/-- A call of a callback, with the value it returned: a read of `count` sectors
from `start` into the staging buffer, or a copy of the bytes `source` to
`destination`. -/
inductive Call where
  | read (start count : ℕ) (ret : ℤ)
  | copy (destination : ℕ) (source : List UInt8) (ret : ℤ)
  deriving DecidableEq, Repr

/-- The pointers a caller passes: the staging buffer and the two callbacks, any of
them possibly null. The callbacks act on a world `σ`; `read` is given the first
sector and the number of sectors, `copy` the destination and the offset and size of
the source within the staging buffer. -/
structure Host (σ : Type) where
  staging : Option (σ → ℕ → UInt8)
  read : Option (ℕ → ℕ → σ → ℤ × σ)
  copy : Option (ℕ → ℕ → ℕ → σ → ℤ × σ)

/-- The world, and the calls made so far. -/
structure Sys (σ : Type) where
  world : σ
  calls : List Call

section Model

variable {σ : Type}

/-- The staging buffer as the library sees it: `capacity` accessible bytes. -/
def Sys.buf (staging : σ → ℕ → UInt8) (capacity : ℕ) (s : Sys σ) : Buf :=
  ⟨capacity, staging s.world⟩

def callRead (read : ℕ → ℕ → σ → ℤ × σ) (start count : ℕ) (s : Sys σ) : ℤ × Sys σ :=
  let r := read start count s.world
  (r.1, ⟨r.2, s.calls ++ [.read start count r.1]⟩)

def callCopy (staging : σ → ℕ → UInt8) (copy : ℕ → ℕ → ℕ → σ → ℤ × σ) (destination : ℕ)
    (image : Image) (s : Sys σ) : ℤ × Sys σ :=
  let r := copy destination image.offset image.size s.world
  let source := (Buf.mk 0 (staging s.world)).slice image.offset image.size
  (r.1, ⟨r.2, s.calls ++ [.copy destination source r.1]⟩)

/-! ### The functions -/

def sunxiFipCopyImages (sz : SizeT) (h : Host σ) (capacity imageSize : ℕ) (s : Sys σ) :
    Option (ℤ × Sys σ) :=
  match h.copy with
  | none => return (-1, s)
  | some copy => do
      let image := h.staging.map fun staging => s.buf staging capacity
      match h.staging, ← sunxiFipParse sz .wrap image imageSize (some Layout.zero) with
      | some staging, (0, some layout) =>
          let r := callCopy staging copy sunxiFipBl31Base layout.bl31 s
          if r.1 ≠ 0 then return (-1, r.2)
          else
            let r := callCopy staging copy sunxiFipBl33Base layout.bl33 r.2
            if r.1 ≠ 0 then return (-1, r.2)
            else
              let r :=
                if layout.hwConfig.size ≠ 0 then
                  callCopy staging copy sunxiFipHwConfigBase layout.hwConfig r.2
                else (0, r.2)
              if r.1 ≠ 0 then return (-1, r.2)
              else
                let r := callCopy staging copy sunxiFipScpBl2Base layout.scpBl2 r.2
                if r.1 ≠ 0 then return (-1, r.2) else return (0, r.2)
      | _, _ => return (-1, s)

/-- The loop of `get_fip_size_from_toc`, with `n` entries to go: the declared size
it stores, or `none` where the source returns `-1`. -/
def scanToc (sz : SizeT) (bytes : Ptr) (metadataSize capacity : ℕ) :
    ℕ → ℕ → Option (Option ℕ)
  | 0, _ => return none
  | n + 1, entryOffset =>
      if metadataSize < entryOffset ∨ metadataSize - entryOffset < fipEntrySize then return none
      else do
        let entry := bytes.add entryOffset
        if !(← uuidIsNull entry) then
          scanToc sz bytes metadataSize capacity n (entryOffset + fipEntrySize)
        else
          let declaredSize ← getLe64 (entry.add 16)
          -- the rounding is done in 64 bits and may wrap; the source tests for that below
          let roundedSize := (declaredSize + fipSectorSize - 1) % 2 ^ 64 &&& (2 ^ 64 - fipSectorSize)
          let size ← getLe64 (entry.add 24)
          let flags ← getLe64 (entry.add 32)
          if size ≠ 0 ∨ flags ≠ 0 ∨ declaredSize < entryOffset + fipEntrySize ∨
              sunxiFipMaxSize < declaredSize ∨ roundedSize < declaredSize ∨ capacity < roundedSize
          then return none
          else return some (declaredSize % 2 ^ sz.width)

def getFipSizeFromToc (sz : SizeT) (bytes : Ptr) (metadataSize capacity : ℕ) :
    Option (Option ℕ) := do
  let name ← getLe32 bytes
  let serial ← getLe32 (bytes.add 4)
  if name ≠ fipTocHeaderName ∨ serial ≠ fipTocSerialNumber then return none
  else scanToc sz bytes metadataSize capacity fipMaxTocEntries fipHeaderSize

/-- The result carries the value returned and the value stored through
`fip_size`. -/
def sunxiFipReadImage (sz : SizeT) (h : Host σ) (startSector capacity : ℕ) (fipSize : Option ℕ)
    (s : Sys σ) : Option (ℤ × Option ℕ × Sys σ) :=
  match fipSize with
  | none => return (-1, none, s)
  | some _ =>
      match h.staging, h.read with
      | some staging, some read =>
          if capacity < fipMetadataSize then return (-1, some 0, s)
          else
            let r := callRead read startSector fipTocSectors s
            if r.1 ≠ 1 then return (-1, some 0, r.2)
            else do
              match ← getFipSizeFromToc sz ⟨r.2.buf staging capacity, 0⟩ fipMetadataSize capacity with
              | none => return (-1, some 0, r.2)
              | some declaredSize =>
                  let sectorCount := (declaredSize + fipSectorSize - 1) / fipSectorSize % 2 ^ 32
                  let r := callRead read startSector sectorCount r.2
                  if r.1 ≠ 1 then return (-1, some 0, r.2)
                  else
                    let parsed ← sunxiFipParse sz .wrap (some (r.2.buf staging capacity))
                      declaredSize (some Layout.zero)
                    if parsed.1 ≠ 0 then return (-1, some 0, r.2)
                    else return (0, some declaredSize, r.2)
      | _, _ => return (-1, some 0, s)

/-- The result carries the value returned and the values stored through `fip_size`
and `used_sector`. -/
def sunxiFipReadRedundant (sz : SizeT) (h : Host σ) (primarySector backupSector capacity : ℕ)
    (fipSize usedSector : Option ℕ) (s : Sys σ) : Option (ℤ × Option ℕ × Option ℕ × Sys σ) :=
  match fipSize, usedSector with
  | some _, some _ => do
      let (ret, fipSize, s) ← sunxiFipReadImage sz h primarySector capacity (some 0) s
      if ret = 0 then return (0, fipSize, some primarySector, s)
      else if backupSector = 0 ∨ backupSector = primarySector then return (-1, fipSize, some 0, s)
      else
        let (ret, fipSize, s) ← sunxiFipReadImage sz h backupSector capacity fipSize s
        if ret ≠ 0 then return (-1, fipSize, some 0, s)
        else return (0, fipSize, some backupSector, s)
  | _, _ => return (-1, fipSize, usedSector, s)

def sunxiFipLoadRedundant (sz : SizeT) (h : Host σ) (primarySector backupSector capacity : ℕ)
    (fipSize usedSector : Option ℕ) (s : Sys σ) : Option (ℤ × Option ℕ × Option ℕ × Sys σ) := do
  let (ret, fipSize, usedSector, s) ←
    sunxiFipReadRedundant sz h primarySector backupSector capacity fipSize usedSector s
  if ret ≠ 0 then return (-1, fipSize, usedSector, s)
  else
    -- a zero return has passed the null test of both pointers
    let (ret, s) ← sunxiFipCopyImages sz h capacity (fipSize.getD 0) s
    if ret ≠ 0 then return (-1, some 0, some 0, s) else return (0, fipSize, usedSector, s)

end Model

/-! ### The scan for the declared size -/

/-- A size rounded up to whole sectors. -/
def roundup512 (n : ℕ) : ℕ := (n + 511) / 512 * 512

/-- What the scan demands of the terminator it finds at index `k`. -/
def DeclaredOk (b : Buf) (capacity k : ℕ) : Prop :=
  sizeAt b k = 0 ∧ flagsAt b k = 0 ∧ 16 + 40 * (k + 1) ≤ offsetAt b k ∧ offsetAt b k ≤ 0x200000 ∧
    roundup512 (offsetAt b k) ≤ capacity

instance (b : Buf) (capacity k : ℕ) : Decidable (DeclaredOk b capacity k) :=
  inferInstanceAs (Decidable (_ ∧ _))

/-- The scan as a function of the bytes. -/
def scanResult (b : Buf) (capacity : ℕ) : ℕ → ℕ → Option ℕ
  | 0, _ => none
  | m + 1, k =>
      if uuidAt b k ≠ nullUuid then scanResult b capacity m (k + 1)
      else if DeclaredOk b capacity k then some (offsetAt b k)
      else none

/-- The size the table of contents declares, when the scan is content with it. -/
def declaredSize (b : Buf) (capacity : ℕ) : Option ℕ :=
  if b.le 0 4 ≠ fipTocHeaderName ∨ b.le 4 4 ≠ fipTocSerialNumber then none
  else scanResult b capacity fipMaxTocEntries 0

section Scan

variable {b : Buf} {capacity k : ℕ}

/-- The masked sum is the rounded size as long as the size is at most the
limit; a size beyond it is refused anyway. -/
lemma roundedSize_eq {d : ℕ} (h : d ≤ sunxiFipMaxSize) :
    (d + fipSectorSize - 1) % 2 ^ 64 &&& (2 ^ 64 - fipSectorSize) = roundup512 d := by
  have hmax : sunxiFipMaxSize < 2 ^ 32 := by decide
  have hmod : (d + fipSectorSize - 1) % 2 ^ 64 = d + 511 := by
    simp only [fipSectorSize]
    omega
  rw [hmod, roundup512]
  exact and_highMask (k := 9) (w := 64) (by omega) (by omega)

lemma le_roundup512 (d : ℕ) : d ≤ roundup512 d := by
  rw [roundup512]
  omega

lemma scanToc_eq (sz : SizeT) (capacity : ℕ) (hb : 1536 ≤ b.size) (m k : ℕ) (hk : k + m ≤ 38) :
    scanToc sz ⟨b, 0⟩ fipMetadataSize capacity m (16 + 40 * k)
      = some (scanResult b capacity m k) := by
  induction m generalizing k with
  | zero => rfl
  | succ m ih =>
      have hptr : (⟨b, 0⟩ : Ptr).add (16 + 40 * k) = entryPtr b k := rfl
      have hroom : 16 + 40 * (k + 1) ≤ b.size := by omega
      rw [scanToc, scanResult, if_neg (by
        simp only [fipMetadataSize, fipTocSectors, fipSectorSize, fipEntrySize]; omega)]
      simp only [hptr, uuidIsNull, uuidEqual_entryPtr hroom (l := nullUuid) rfl rfl,
        Option.bind_eq_bind, Option.bind_some, entryPtr_offset hroom, entryPtr_size hroom,
        entryPtr_flags hroom]
      by_cases hnull : uuidAt b k = nullUuid
      swap
      · have hnext := ih (k + 1) (by omega)
        rw [decide_eq_false hnull, if_pos (by rfl), if_pos hnull, ← hnext]
        rfl
      rw [decide_eq_true hnull, if_neg (by decide), if_neg (not_not.mpr hnull)]
      by_cases hmax : offsetAt b k ≤ sunxiFipMaxSize
      · have hround := le_roundup512 (offsetAt b k)
        have hw : 2 ^ 32 ≤ 2 ^ sz.width := Nat.pow_le_pow_right (by omega) (by cases sz <;> decide)
        have hlt : sunxiFipMaxSize < 2 ^ 32 := by decide
        rw [roundedSize_eq hmax, Nat.mod_eq_of_lt (show offsetAt b k < 2 ^ sz.width by omega)]
        by_cases hok : DeclaredOk b capacity k
        · obtain ⟨h1, h2, h3, -, h5⟩ := id hok
          rw [if_pos hok, if_neg (by simp only [fipEntrySize]; omega)]
          rfl
        · rw [if_neg hok, if_pos]
          · rfl
          · by_contra hno
            simp only [fipEntrySize] at hno
            exact hok ⟨by omega, by omega, by omega, hmax, by omega⟩
      · rw [if_pos (by omega), if_neg fun hok => hmax hok.2.2.2.1]
        rfl

lemma getFipSizeFromToc_eq (sz : SizeT) (capacity : ℕ) (hb : 1536 ≤ b.size) :
    getFipSizeFromToc sz ⟨b, 0⟩ fipMetadataSize capacity = some (declaredSize b capacity) := by
  have hname : getLe32 (⟨b, 0⟩ : Ptr) = some (b.le 0 4) := getLe32_eq (by simp only; omega)
  have hserial : getLe32 ((⟨b, 0⟩ : Ptr).add 4) = some (b.le 4 4) := by
    rw [getLe32_eq (by simp only [Ptr.add_off, Ptr.add_buf]; omega)]
    simp
  have hscan := scanToc_eq sz capacity hb 38 0 (by omega)
  simp only [getFipSizeFromToc, declaredSize, hname, hserial, Option.bind_eq_bind, Option.bind_some]
  split
  · rfl
  · exact hscan

/-- The table of contents has its first null UUID at `k`. -/
def FirstNull (b : Buf) (k : ℕ) : Prop :=
  k < 38 ∧ (∀ i < k, uuidAt b i ≠ nullUuid) ∧ uuidAt b k = nullUuid

lemma scanResult_eq_some_iff {size : ℕ} (m : ℕ) :
    scanResult b capacity m k = some size ↔ ∃ e, k ≤ e ∧ e < k + m ∧
      (∀ i, k ≤ i → i < e → uuidAt b i ≠ nullUuid) ∧ uuidAt b e = nullUuid ∧
      DeclaredOk b capacity e ∧ offsetAt b e = size := by
  induction m generalizing k with
  | zero =>
      simp only [scanResult, reduceCtorEq, false_iff]
      rintro ⟨e, h1, h2, -⟩
      omega
  | succ m ih =>
      rw [scanResult]
      split
      next hnull =>
        rw [ih]
        exact exists_first_succ hnull fun h => hnull h.1
      next hnull =>
        rw [not_not] at hnull
        constructor
        · intro h
          by_cases hok : DeclaredOk b capacity k
          · rw [if_pos hok, Option.some.injEq] at h
            exact ⟨k, le_rfl, by omega, fun i h1 h2 => absurd h1 (by omega), hnull, hok, h⟩
          · rw [if_neg hok] at h
            exact absurd h (by simp)
        · rintro ⟨e, h1, -, hpre, -, hok, rfl⟩
          obtain rfl := eq_of_first (not_not.mpr hnull) h1 hpre
          rw [if_pos hok]

/-- The scan finds the declared size behind the first null UUID. -/
lemma declaredSize_eq_some_iff {size : ℕ} :
    declaredSize b capacity = some size ↔ b.le 0 4 = 0xaa640001 ∧ b.le 4 4 = 0x12345678 ∧
      ∃ k, FirstNull b k ∧ DeclaredOk b capacity k ∧ offsetAt b k = size := by
  rw [declaredSize]
  split
  next hbad =>
    simp only [reduceCtorEq, false_iff]
    rintro ⟨h0, h4, -⟩
    rcases hbad with h | h
    · exact h h0
    · exact h h4
  next hgood =>
    simp only [not_or, not_not] at hgood
    rw [scanResult_eq_some_iff, show 0 + fipMaxTocEntries = 38 from rfl]
    constructor
    · rintro ⟨k, -, hk, hpre, hnull, hok⟩
      exact ⟨hgood.1, hgood.2, k, ⟨hk, fun i hi => hpre i (Nat.zero_le i) hi, hnull⟩, hok⟩
    · rintro ⟨-, -, k, ⟨hk, hpre, hnull⟩, hok⟩
      exact ⟨k, Nat.zero_le k, hk, fun i _ hi => hpre i hi, hnull, hok⟩

lemma FirstNull.unique {j : ℕ} (hk : FirstNull b k) (hj : FirstNull b j) : k = j := by
  rcases Nat.lt_trichotomy k j with hlt | heq | hlt
  · exact absurd hk.2.2 (hj.2.1 k hlt)
  · exact heq
  · exact absurd hj.2.2 (hk.2.1 j hlt)

end Scan

/-! ### Buffers that agree on the table of contents -/

section Congr

variable {b c : Buf} {n k : ℕ}

lemma uuidAt_congr (h : ∀ i < n, b.byte i = c.byte i) (hk : 16 + 40 * (k + 1) ≤ n) :
    uuidAt b k = uuidAt c k := Buf.slice_congr fun i hi => h _ (by omega)

lemma offsetAt_congr (h : ∀ i < n, b.byte i = c.byte i) (hk : 16 + 40 * (k + 1) ≤ n) :
    offsetAt b k = offsetAt c k := Buf.le_congr fun i hi => h _ (by omega)

lemma sizeAt_congr (h : ∀ i < n, b.byte i = c.byte i) (hk : 16 + 40 * (k + 1) ≤ n) :
    sizeAt b k = sizeAt c k := Buf.le_congr fun i hi => h _ (by omega)

lemma flagsAt_congr (h : ∀ i < n, b.byte i = c.byte i) (hk : 16 + 40 * (k + 1) ≤ n) :
    flagsAt b k = flagsAt c k := Buf.le_congr fun i hi => h _ (by omega)

lemma FirstNull.congr (hk : FirstNull b k) (h : ∀ i < n, b.byte i = c.byte i)
    (hn : 16 + 40 * (k + 1) ≤ n) : FirstNull c k := by
  refine ⟨hk.1, fun i hi => ?_, ?_⟩
  · rw [← uuidAt_congr h (by omega)]
    exact hk.2.1 i hi
  · rw [← uuidAt_congr h hn]
    exact hk.2.2

/-- The scan looks at the three sectors of the table only. -/
lemma declaredSize_congr (h : ∀ i < 1536, b.byte i = c.byte i) (capacity : ℕ) :
    declaredSize b capacity = declaredSize c capacity := by
  have hscan : ∀ m k, k + m ≤ 38 → scanResult b capacity m k = scanResult c capacity m k := by
    intro m
    induction m with
    | zero => exact fun _ _ => rfl
    | succ m ih =>
        intro k hk
        have hroom : 16 + 40 * (k + 1) ≤ 1536 := by omega
        have hok : DeclaredOk b capacity k ↔ DeclaredOk c capacity k := by
          rw [DeclaredOk, DeclaredOk, offsetAt_congr h hroom, sizeAt_congr h hroom,
            flagsAt_congr h hroom]
        simp only [scanResult, ih (k + 1) (by omega), hok, uuidAt_congr h hroom,
          offsetAt_congr h hroom]
  rw [declaredSize, declaredSize, hscan fipMaxTocEntries 0 (by decide),
    Buf.le_congr (o := 0) (n := 4) fun i hi => h _ (by omega),
    Buf.le_congr (o := 4) (n := 4) fun i hi => h _ (by omega)]

end Congr

/-! ### Reading a package -/

section ReadImage

variable {σ : Type} {capacity : ℕ}

/-- A declared size is within the limit, and its sectors within the capacity. -/
lemma declaredSize_le {b : Buf} {size : ℕ} (h : declaredSize b capacity = some size) :
    size ≤ 0x200000 ∧ roundup512 size ≤ capacity := by
  obtain ⟨-, -, k, -, hok, rfl⟩ := declaredSize_eq_some_iff.mp h
  exact ⟨hok.2.2.2.1, hok.2.2.2.2⟩

/-- What reading a package computes: the size of the validated package, if there
is one, and the system after the reads. -/
def Host.readImage (h : Host σ) (start capacity : ℕ) (s : Sys σ) : Option ℕ × Sys σ :=
  match h.staging, h.read with
  | some staging, some read =>
      if capacity < 1536 then (none, s)
      else
        let first := callRead read start 3 s
        if first.1 ≠ 1 then (none, first.2)
        else
          match declaredSize (first.2.buf staging capacity) capacity with
          | none => (none, first.2)
          | some size =>
              let second := callRead read start ((size + 511) / 512) first.2
              if second.1 = 1 ∧ (parseResult (second.2.buf staging capacity) size Layout.zero).1 = 0
              then (some size, second.2)
              else (none, second.2)
  | _, _ => (none, s)

/-- The last step of a read: what comes of the second transfer. -/
lemma validate_eq (sz : SizeT) (staging : σ → ℕ → UInt8) {size : ℕ} (hsize : size ≤ capacity)
    (second : ℤ × Sys σ) :
    (if second.1 ≠ 1 then return (-1, some 0, second.2)
    else do
      let parsed ← sunxiFipParse sz .wrap (some (second.2.buf staging capacity)) size
        (some Layout.zero)
      if parsed.1 ≠ 0 then return (-1, some 0, second.2) else return (0, some size, second.2))
    = (let r := if second.1 = 1 ∧
          (parseResult (second.2.buf staging capacity) size Layout.zero).1 = 0
        then (some size, second.2) else (none, second.2)
      some ((if r.1.isSome then 0 else -1 : ℤ), some (r.1.getD 0), r.2)) := by
  have hparse := sunxiFipParse_eq sz .wrap (n := size) (b := second.2.buf staging capacity) hsize
    Layout.zero
  simp only [hparse, Option.bind_eq_bind, Option.bind_some]
  by_cases h1 : second.1 = 1
  · by_cases h2 : (parseResult (second.2.buf staging capacity) size Layout.zero).1 = 0
    · simp [h1, h2]
    · simp [h1, h2]
  · simp [h1]

/-- Reading never faults, for either width of `size_t`; it returns `0` with the
size of the package it validated, or `-1` with a size of zero. -/
lemma sunxiFipReadImage_eq (sz : SizeT) (h : Host σ) (start capacity x : ℕ) (s : Sys σ) :
    sunxiFipReadImage sz h start capacity (some x) s
      = some (if (h.readImage start capacity s).1.isSome then 0 else -1,
          some ((h.readImage start capacity s).1.getD 0), (h.readImage start capacity s).2) := by
  have hmeta : fipMetadataSize = 1536 := rfl
  rw [sunxiFipReadImage, Host.readImage]
  cases h.staging with
  | none => rfl
  | some staging =>
      cases h.read with
      | none => rfl
      | some read =>
          by_cases hcap : capacity < 1536
          · simp only [hmeta, if_pos hcap]
            rfl
          simp only [hmeta, if_neg hcap, fipTocSectors]
          split
          next => rfl
          next hret =>
            have hscan := getFipSizeFromToc_eq sz capacity
              (b := (callRead read start 3 s).2.buf staging capacity) (by simp only [Sys.buf]; omega)
            rw [hmeta] at hscan
            simp only [hscan, Option.bind_eq_bind, Option.bind_some]
            cases hd : declaredSize ((callRead read start 3 s).2.buf staging capacity) capacity with
            | none => rfl
            | some size =>
                obtain ⟨hmax, hround⟩ := declaredSize_le hd
                have hle := le_roundup512 size
                have hcount : (size + fipSectorSize - 1) / fipSectorSize % 2 ^ 32
                    = (size + 511) / 512 := by
                  simp only [fipSectorSize]
                  omega
                simp only [hcount]
                exact validate_eq sz staging (by omega) _

/-- The ways a read can go: nothing is transferred; the first sectors are, and that is
all; or they declare a size that fits, its sectors are transferred too, and the package
they hold is the result if it is valid. -/
lemma readImage_cases (h : Host σ) (start capacity : ℕ) (s : Sys σ) :
    h.readImage start capacity s = (none, s) ∨
    ∃ staging read, h.staging = some staging ∧ h.read = some read ∧ 1536 ≤ capacity ∧
      (h.readImage start capacity s = (none, (callRead read start 3 s).2) ∨
        ∃ size result second, roundup512 size ≤ capacity ∧
          second = callRead read start ((size + 511) / 512) (callRead read start 3 s).2 ∧
          h.readImage start capacity s = (result, second.2) ∧
          ∀ size', result = some size' → size' = size ∧ second.1 = 1 ∧
            (parseResult (second.2.buf staging capacity) size Layout.zero).1 = 0) := by
  rw [Host.readImage]
  cases h.staging with
  | none => exact Or.inl rfl
  | some staging =>
      cases h.read with
      | none => exact Or.inl rfl
      | some read =>
          by_cases hcap : capacity < 1536
          · exact Or.inl (if_pos hcap)
          · simp only [if_neg hcap]
            refine Or.inr ⟨staging, read, rfl, rfl, by omega, ?_⟩
            split
            · exact Or.inl rfl
            · cases hd : declaredSize ((callRead read start 3 s).2.buf staging capacity) capacity with
              | none => exact Or.inl rfl
              | some size =>
                  have hround := (declaredSize_le hd).2
                  dsimp only
                  split
                  next hok =>
                    exact Or.inr ⟨size, some size, _, hround, rfl, rfl,
                      fun size' hsize => ⟨(Option.some.inj hsize).symm, hok⟩⟩
                  next =>
                    exact Or.inr ⟨size, none, _, hround, rfl, rfl,
                      fun size' hsize => absurd hsize (by simp)⟩

/-- Reading only reads, only from its own sector, and no more than the staging
buffer holds. -/
lemma readImage_calls (h : Host σ) (start capacity : ℕ) (s : Sys σ) :
    ∃ reads, (h.readImage start capacity s).2.calls = s.calls ++ reads ∧
      ∀ c ∈ reads, ∃ count ret, c = Call.read start count ret ∧ 512 * count ≤ capacity := by
  obtain hr | ⟨staging, read, -, -, hcap, hr | ⟨size, result, second, hround, rfl, hr, -⟩⟩ :=
    readImage_cases h start capacity s
  · rw [hr]
    exact ⟨[], (List.append_nil _).symm, fun c hc => absurd hc List.not_mem_nil⟩
  · rw [hr]
    refine ⟨[.read start 3 (callRead read start 3 s).1], rfl, fun c hc => ?_⟩
    exact ⟨3, _, List.mem_singleton.mp hc, by omega⟩
  · rw [hr]
    refine ⟨_, List.append_assoc s.calls [_] [_], fun c hc => ?_⟩
    rw [roundup512] at hround
    simp only [List.mem_append, List.mem_cons, List.not_mem_nil, or_false] at hc
    obtain rfl | rfl := hc
    · exact ⟨3, _, rfl, by omega⟩
    · exact ⟨_, _, rfl, by omega⟩

/-- What every read within the capacity preserves, reading a package preserves. -/
lemma readImage_preserves {P : σ → Prop} {h : Host σ}
    (hP : ∀ read, h.read = some read → ∀ start count w, 512 * count ≤ capacity → P w →
      P (read start count w).2)
    (start : ℕ) {s : Sys σ} (hs : P s.world) : P (h.readImage start capacity s).2.world := by
  obtain hr | ⟨staging, read, -, hread, hcap, hr | ⟨size, result, second, hround, rfl, hr, -⟩⟩ :=
    readImage_cases h start capacity s
  · rw [hr]
    exact hs
  · rw [hr]
    exact hP read hread start 3 _ (by omega) hs
  · rw [hr]
    rw [roundup512] at hround
    exact hP read hread start _ _ (by omega) (hP read hread start 3 _ (by omega) hs)

/-- A package that was read came with a last successful transfer, and has been
validated where that left it. -/
lemma readImage_last {h : Host σ} {start size : ℕ} {s s' : Sys σ}
    (hread : h.readImage start capacity s = (some size, s')) :
    ∃ staging read s₀, h.staging = some staging ∧ h.read = some read ∧
      callRead read start ((size + 511) / 512) s₀ = (1, s') ∧ roundup512 size ≤ capacity ∧
      (parseResult ⟨size, staging s'.world⟩ size Layout.zero).1 = 0 := by
  obtain hr | ⟨staging, read, hstaging, hcallback, -, hr | ⟨size', result, second, hround, hdef, hr,
    hvalid⟩⟩ := readImage_cases h start capacity s
  · exact absurd (hread.symm.trans hr) (by simp)
  · exact absurd (hread.symm.trans hr) (by simp)
  · obtain ⟨rfl, rfl⟩ := Prod.mk.inj (hread.symm.trans hr)
    obtain ⟨rfl, hone, hparse⟩ := hvalid size rfl
    have hle := le_roundup512 size
    refine ⟨staging, read, (callRead read start 3 s).2, hstaging, hcallback,
      hdef.symm.trans (Prod.ext hone rfl), hround, (congrArg Prod.fst ?_).trans hparse⟩
    refine parseResult_congr (b := ⟨size, staging _⟩) (c := Sys.buf staging capacity _) le_rfl ?_
      (fun _ _ => rfl) Layout.zero
    simp only [Sys.buf]
    omega

lemma readImage_eq_some {h : Host σ} {start size : ℕ} {s s' : Sys σ}
    (hread : h.readImage start capacity s = (some size, s')) :
    ∃ staging, h.staging = some staging ∧ roundup512 size ≤ capacity ∧
      (parseResult ⟨size, staging s'.world⟩ size Layout.zero).1 = 0 := by
  obtain ⟨staging, _, _, hstaging, -, -, hround, hparse⟩ := readImage_last hread
  exact ⟨staging, hstaging, hround, hparse⟩

/-! ### Reading from a disk -/

/-- The bytes of a disk from a sector on, as a buffer of `n` bytes. -/
def diskFrom (disk : ℕ → UInt8) (start n : ℕ) : Buf := ⟨n, fun i => disk (512 * start + i)⟩

/-- The read callback of a disk: it always succeeds, and the sectors asked for
are then in the staging buffer. -/
def Host.ReadsDisk (h : Host σ) (disk : ℕ → UInt8) : Prop :=
  ∃ staging read, h.staging = some staging ∧ h.read = some read ∧ ∀ start count w,
    (read start count w).1 = 1 ∧
      ∀ i < 512 * count, staging (read start count w).2 i = disk (512 * start + i)

/-- A package read from a disk is there, byte for byte. -/
lemma readImage_bytes {h : Host σ} {disk : ℕ → UInt8} (hdisk : h.ReadsDisk disk)
    {staging : σ → ℕ → UInt8} (hstaging : h.staging = some staging) {start size : ℕ} {s s' : Sys σ}
    (hread : h.readImage start capacity s = (some size, s')) {i : ℕ} (hi : i < size) :
    staging s'.world i = disk (512 * start + i) := by
  obtain ⟨_, read, s₀, hs, hr, hlast, -, -⟩ := readImage_last hread
  obtain ⟨_, _, hs', hr', hfaithful⟩ := hdisk
  obtain rfl := Option.some.inj (hs.symm.trans hs')
  obtain rfl := Option.some.inj (hs.symm.trans hstaging)
  obtain rfl := Option.some.inj (hr.symm.trans hr')
  have hbytes := (hfaithful start ((size + 511) / 512) s₀.world).2 i (by omega)
  rw [callRead, Prod.mk.injEq] at hlast
  rwa [← hlast.2]

/-- On a disk the two transfers deliver the same bytes, so the outcome depends on
the disk alone. -/
lemma readImage_disk {h : Host σ} {disk : ℕ → UInt8} (hdisk : h.ReadsDisk disk)
    (hcap : 1536 ≤ capacity) (start size : ℕ) (s : Sys σ) :
    (h.readImage start capacity s).1 = some size ↔
      declaredSize (diskFrom disk start 1536) capacity = some size ∧
      (parseResult (diskFrom disk start size) size Layout.zero).1 = 0 := by
  obtain ⟨staging, read, hstaging, hread, hfaithful⟩ := hdisk
  have hscan : declaredSize ((callRead read start 3 s).2.buf staging capacity) capacity
      = declaredSize (diskFrom disk start 1536) capacity :=
    declaredSize_congr (fun i hi => (hfaithful start 3 s.world).2 i (by omega)) capacity
  have hfirst : (callRead read start 3 s).1 = 1 := (hfaithful start 3 s.world).1
  simp only [Host.readImage, hstaging, hread, hscan, if_neg (show ¬capacity < 1536 by omega),
    if_neg (not_not.mpr hfirst)]
  rcases hd : declaredSize (diskFrom disk start 1536) capacity with - | size'
  · simp
  · have hle := le_roundup512 size'
    have hround := (declaredSize_le hd).2
    have hsecond := hfaithful start ((size' + 511) / 512) (callRead read start 3 s).2.world
    have hparse : parseResult ((callRead read start ((size' + 511) / 512)
        (callRead read start 3 s).2).2.buf staging capacity) size' Layout.zero
        = parseResult (diskFrom disk start size') size' Layout.zero := by
      refine parseResult_congr ?_ ?_ (fun i hi => ?_) Layout.zero
      · simp only [Sys.buf]
        omega
      · exact le_rfl
      · exact hsecond.2 i (by omega)
    have hret : (callRead read start ((size' + 511) / 512) (callRead read start 3 s).2).1 = 1 :=
      hsecond.1
    simp only [hparse, hret, true_and, Option.some.injEq]
    by_cases hok : (parseResult (diskFrom disk start size') size' Layout.zero).1 = 0
    · rw [if_pos hok]
      constructor
      · intro h
        obtain rfl := Option.some.inj h
        exact ⟨rfl, hok⟩
      · rintro ⟨rfl, -⟩
        rfl
    · rw [if_neg hok]
      constructor
      · intro h
        exact absurd h (by simp)
      · rintro ⟨rfl, h⟩
        exact absurd h hok

/-- The package cut at its declared size is still a package, with the same
table. -/
lemma IsFipOf.cut {b : Buf} {n k : ℕ} (h : IsFipOf b n k) : IsFipOf b (offsetAt b k) k where
  size := by
    have h1 := h.fit.declared
    have h2 := h.size
    omega
  name := h.name
  serial := h.serial
  count := h.count
  toc := ⟨h.fit.declared.1, h.toc.nonnull, h.toc.distinct, h.toc.null, h.toc.size_zero,
    h.toc.flags_zero⟩
  fit := ⟨⟨h.fit.declared.1, le_rfl⟩, h.fit.nonempty, h.fit.start, h.fit.stop, h.fit.disjoint⟩
  required := h.required
  limits := h.limits
  payloads := h.payloads

lemma IsFipOf.firstNull {b : Buf} {n k : ℕ} (h : IsFipOf b n k) : FirstNull b k :=
  ⟨h.count, h.toc.nonnull, h.toc.null⟩

/-- A read succeeds with a given size exactly when the computed read does. -/
lemma sunxiFipReadImage_zero_iff (sz : SizeT) (h : Host σ) (start x size : ℕ) (s : Sys σ) :
    (∃ s', sunxiFipReadImage sz h start capacity (some x) s = some (0, some size, s')) ↔
      (h.readImage start capacity s).1 = some size := by
  rw [sunxiFipReadImage_eq]
  rcases (h.readImage start capacity s).1 with - | size'
  · simp
  · simp

/-- A parse of exactly the bytes it is told about accepts when `parseResult`
does. -/
lemma sunxiFipParse_zero_iff (sz : SizeT) (ar : Arith) {b : Buf} {n : ℕ} (hn : n ≤ b.size)
    (l₀ : Layout) :
    (∃ l, sunxiFipParse sz ar (some b) n (some l₀) = some (0, some l)) ↔
      (parseResult b n l₀).1 = 0 := by
  rw [sunxiFipParse_eq sz ar hn]
  simp

/-- On a disk, a package is read exactly when the size behind the first null UUID
fits the capacity and the parser accepts that many bytes. -/
lemma readImage_iff_parse {h : Host σ} {disk : ℕ → UInt8} (hdisk : h.ReadsDisk disk)
    (hcap : 1536 ≤ capacity) (start size : ℕ) (s : Sys σ) :
    (h.readImage start capacity s).1 = some size ↔
      (∃ k, FirstNull (diskFrom disk start 1536) k ∧ offsetAt (diskFrom disk start 1536) k = size) ∧
      roundup512 size ≤ capacity ∧
      (parseResult (diskFrom disk start size) size Layout.zero).1 = 0 := by
  rw [readImage_disk hdisk hcap]
  constructor
  · rintro ⟨hscan, hparse⟩
    obtain ⟨-, -, k, hfirst, -, hsize⟩ := declaredSize_eq_some_iff.mp hscan
    exact ⟨⟨k, hfirst, hsize⟩, (declaredSize_le hscan).2, hparse⟩
  · rintro ⟨⟨k, hfirst, hsize⟩, hround, hparse⟩
    refine ⟨?_, hparse⟩
    -- the parser stops at its own first null UUID: it is the one the scan stops at
    obtain ⟨e, hfip, -⟩ := (parseResult_eq_zero_iff (l := (parseResult (diskFrom disk start size) size
      Layout.zero).2) Layout.zero).mp (Prod.ext hparse rfl)
    have hbytes : ∀ i < 1536, (diskFrom disk start size).byte i = (diskFrom disk start 1536).byte i :=
      fun _ _ => rfl
    have hroom : 16 + 40 * (e + 1) ≤ 1536 := by
      have := hfip.count
      omega
    obtain rfl := hfirst.unique (hfip.firstNull.congr hbytes hroom)
    rw [declaredSize_eq_some_iff, ← Buf.le_congr (o := 0) (n := 4) fun i hi => hbytes _ (by omega),
      ← Buf.le_congr (o := 4) (n := 4) fun i hi => hbytes _ (by omega)]
    refine ⟨hfip.name, hfip.serial, k, hfirst, ?_, hsize⟩
    have hinside := hfip.toc.inside
    have hmax := hfip.size.2
    rw [DeclaredOk, hsize, ← sizeAt_congr hbytes hroom, ← flagsAt_congr hbytes hroom]
    exact ⟨hfip.toc.size_zero, hfip.toc.flags_zero, hinside, hmax, hround⟩

/-- **The on-disk loader and the in-memory parser agree.** On a disk, a package is
read exactly when the parser accepts the bytes its first null UUID declares; what
the parser accepts as a file it accepts, with the same layout, when cut at the
declared size, and such a package is read from any disk that starts with it; and
whatever the callback does, no read exceeds the capacity and a success is a
validated package. -/
theorem sunxiFipReadImage_iff_parse (sz : SizeT) (h : Host σ) (start capacity x : ℕ) (s : Sys σ)
    (hcap : 1536 ≤ capacity) :
    (∀ disk, h.ReadsDisk disk → ∀ size,
      (∃ s', sunxiFipReadImage sz h start capacity (some x) s = some (0, some size, s')) ↔
        (∃ k, FirstNull (diskFrom disk start 1536) k ∧
          offsetAt (diskFrom disk start 1536) k = size) ∧
        roundup512 size ≤ capacity ∧
        ∃ l, sunxiFipParse sz .wrap (some (diskFrom disk start size)) size (some Layout.zero)
          = some (0, some l)) ∧
    (∀ (sz' : SizeT) (ar : Arith) (b : Buf) (l₀ l : Layout) (k : ℕ),
      sunxiFipParse sz' ar (some b) b.size (some l₀) = some (0, some l) → FirstNull b k →
      sunxiFipParse sz ar (some (b.take (offsetAt b k))) (offsetAt b k) (some l₀)
        = some (0, some l) ∧
      ∀ disk, h.ReadsDisk disk → (∀ i < offsetAt b k, disk (512 * start + i) = b.byte i) →
        roundup512 (offsetAt b k) ≤ capacity →
        ∃ s', sunxiFipReadImage sz h start capacity (some x) s
          = some (0, some (offsetAt b k), s')) ∧
    ∃ ret size s', sunxiFipReadImage sz h start capacity (some x) s = some (ret, some size, s') ∧
      (∃ reads, s'.calls = s.calls ++ reads ∧
        ∀ c ∈ reads, ∃ count r, c = Call.read start count r ∧ 512 * count ≤ capacity) ∧
      (ret = 0 ∧ (∃ staging l, h.staging = some staging ∧ roundup512 size ≤ capacity ∧
          sunxiFipParse sz .wrap (some ⟨size, staging s'.world⟩) size (some Layout.zero)
            = some (0, some l)) ∨
        ret = -1 ∧ size = 0) := by
  refine ⟨fun disk hdisk size => ?_, fun sz' ar b l₀ l k hparse hfirst => ?_, ?_⟩
  · rw [sunxiFipReadImage_zero_iff, sunxiFipParse_zero_iff sz .wrap
      (show size ≤ (diskFrom disk start size).size from le_rfl)]
    exact readImage_iff_parse hdisk hcap start size s
  · rw [sunxiFipParse_eq sz' ar le_rfl] at hparse
    have hzero : parseResult b b.size l₀ = (0, l) := by
      simp only [Option.some.injEq, Prod.mk.injEq] at hparse
      exact Prod.ext hparse.1 hparse.2
    obtain ⟨e, hfip, hl⟩ := (parseResult_eq_zero_iff l₀).mp hzero
    obtain rfl := hfirst.unique hfip.firstNull
    have hcut : ∀ l₁, parseResult b (offsetAt b k) l₁ = (0, l) := fun l₁ =>
      (parseResult_eq_zero_iff l₁).mpr ⟨k, hfip.cut, hl⟩
    refine ⟨?_, fun disk hdisk hbytes hround => ?_⟩
    · have htake : parseResult (b.take (offsetAt b k)) (offsetAt b k) l₀
          = parseResult b (offsetAt b k) l₀ :=
        parseResult_congr (b := b.take (offsetAt b k)) (c := b) le_rfl hfip.fit.declared.2
          (fun _ _ => rfl) l₀
      rw [sunxiFipParse_eq sz ar (b := b.take (offsetAt b k)) (n := offsetAt b k) le_rfl, htake,
        hcut]
    · have hdiskParse : parseResult (diskFrom disk start (offsetAt b k)) (offsetAt b k) Layout.zero
          = parseResult b (offsetAt b k) Layout.zero :=
        parseResult_congr (b := diskFrom disk start (offsetAt b k)) (c := b) le_rfl
          hfip.fit.declared.2 hbytes Layout.zero
      have hagree : ∀ i < offsetAt b k, b.byte i = (diskFrom disk start 1536).byte i :=
        fun i hi => (hbytes i hi).symm
      rw [sunxiFipReadImage_zero_iff, readImage_iff_parse hdisk hcap, hdiskParse, hcut]
      exact ⟨⟨k, hfirst.congr hagree hfip.fit.declared.1,
        (offsetAt_congr hagree hfip.fit.declared.1).symm⟩, hround, rfl⟩
  · rw [sunxiFipReadImage_eq]
    refine ⟨_, _, _, rfl, readImage_calls h start capacity s, ?_⟩
    rcases hr : h.readImage start capacity s with ⟨- | size, s'⟩
    · exact Or.inr ⟨rfl, rfl⟩
    · obtain ⟨staging, hstaging, hround, hparse⟩ := readImage_eq_some hr
      refine Or.inl ⟨rfl, staging, ?_⟩
      simp only [Option.getD_some]
      obtain ⟨l, hl⟩ := (sunxiFipParse_zero_iff sz .wrap
        (show size ≤ (Buf.mk size (staging s'.world)).size from le_rfl) Layout.zero).mpr hparse
      exact ⟨l, hstaging, hround, hl⟩

end ReadImage

/-- A host whose world is its staging buffer, with a disk to read from and copies
that are accepted and go nowhere. -/
def diskHost (disk : ℕ → UInt8) : Host (ℕ → UInt8) where
  staging := some id
  read := some fun start count w =>
    (1, fun i => if i < 512 * count then disk (512 * start + i) else w i)
  copy := some fun _ _ _ w => (0, w)

lemma diskHost_readsDisk (disk : ℕ → UInt8) : (diskHost disk).ReadsDisk disk :=
  ⟨_, _, rfl, rfl, fun _ _ _ => ⟨rfl, fun _ hi => if_pos hi⟩⟩

/-- The table of the sample ends at its fifth entry, which declares 7456 bytes. -/
lemma samplePackage_firstNull :
    FirstNull (diskFrom samplePackage.byte 0 1536) 4 ∧
      offsetAt (diskFrom samplePackage.byte 0 1536) 4 = 7456 :=
  ⟨⟨by decide, by decide +kernel, by decide +kernel⟩, by decide +kernel⟩

lemma diskFrom_samplePackage : diskFrom samplePackage.byte 0 7456 = samplePackage := by
  simp [diskFrom, samplePackage]

/-- The sample package on a disk is read into 2 MiB of staging. -/
theorem sunxiFipReadImage_samplePackage :
    1536 ≤ 0x200000 ∧
    ∃ s', sunxiFipReadImage .bits32 (diskHost samplePackage.byte) 0 0x200000 (some 0) ⟨fun _ => 0, []⟩
      = some (0, some 7456, s') := by
  refine ⟨by decide, ?_⟩
  refine ((sunxiFipReadImage_iff_parse .bits32 (diskHost samplePackage.byte) 0 0x200000 0
    ⟨fun _ => 0, []⟩ (by decide)).1 samplePackage.byte (diskHost_readsDisk _) 7456).mpr ?_
  refine ⟨⟨4, samplePackage_firstNull⟩, by decide, sampleLayout, ?_⟩
  rw [diskFrom_samplePackage, sunxiFipParse_eq .bits32 .wrap
    (show 7456 ≤ samplePackage.size from le_rfl), parseResult_samplePackage]

end A733Boot.Fip
