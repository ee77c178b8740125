/-
The parser `sunxi_fip_parse` of `src/sunxi_fip.c`, and what it computes.

The table of contents is walked entry by entry with a handful of accumulators
(`TocWalk`). The embedding is the source's, over checked pointers and with
unsigned operations that either wrap or trap; the second half of the file shows
that it computes a plain function of the bytes.

* `walkState b k`: the accumulators after `k` accepted entries, as a function
  of the bytes alone;
* `acceptEntry_eq`: one step of the walk accepts exactly the entries that are
  `EntryOk`, and advances the accumulators by one;
* `checkTerminator_eq`: the final checks decide `TerminatorOk`;
* `walkToc_eq`: the whole walk is the pure walk `tocResult`;
* `sunxiFipParse_total` (**memory safety**): one and the same result for both
  widths of `size_t` and for both treatments of a wrap, so no access of the parse
  leaves the buffer and no operation of it wraps, truncates or underflows.
-/
import A733Boot.Fip.Format

namespace A733Boot.Fip

/-! ### The checks on one entry -/

def setImage (sz : SizeT) (ar : Arith) (entry : Ptr) : Option Image := do
  let offset ← getLe64 (entry.add 16)
  let offset ← ar.fit sz.width offset
  let size ← getLe64 (entry.add 24)
  let size ← ar.fit sz.width size
  return ⟨offset, size⟩

def entryInBuffer (entry : Ptr) (imageSize : ℕ) : Option Bool := do
  let offset ← getLe64 (entry.add 16)
  let size ← getLe64 (entry.add 24)
  return decide (size ≠ 0 ∧ offset ≤ imageSize ∧ size ≤ imageSize - offset)

def entryOverlapsPrevious (ar : Arith) (bytes entry : Ptr) (entryCount : ℕ) : Option Bool := do
  let offset ← getLe64 (entry.add 16)
  let size ← getLe64 (entry.add 24)
  let stop ← ar.fit 64 (offset + size)
  anyFrom (fun i => do
    let previous := bytes.add (fipHeaderSize + i * fipEntrySize)
    let previousOffset ← getLe64 (previous.add 16)
    let previousSize ← getLe64 (previous.add 24)
    let previousEnd ← ar.fit 64 (previousOffset + previousSize)
    return decide (offset < previousEnd ∧ previousOffset < stop)) 0 entryCount

def entryUuidSeen (bytes entry : Ptr) (entryCount : ℕ) : Option Bool :=
  anyFrom (fun i => uuidEqual (bytes.add (fipHeaderSize + i * fipEntrySize)) entry) 0 entryCount

/-! ### The walk over the table of contents -/

/-- The local variables of `sunxi_fip_parse` that live across the loop. -/
structure TocWalk where
  entryOffset : ℕ
  entryCount : ℕ
  found : ℕ
  payloadStart : ℕ
  payloadEnd : ℕ
  layout : Layout

/-- The `if`/`else if` chain that recognises the four known UUIDs: the `found`
flag and the image of `layout` that a match sets. An unknown UUID sets
neither. -/
def classify (sz : SizeT) (ar : Arith) (entry : Ptr) (st : TocWalk) : Option TocWalk := do
  if ← uuidEqual entry (constant scpBl2Uuid) then
    let image ← setImage sz ar entry
    return { st with
      layout := { st.layout with scpBl2 := image }, found := st.found ||| fipFoundScpBl2 }
  else if ← uuidEqual entry (constant bl31Uuid) then
    let image ← setImage sz ar entry
    return { st with
      layout := { st.layout with bl31 := image }, found := st.found ||| fipFoundBl31 }
  else if ← uuidEqual entry (constant bl33Uuid) then
    let image ← setImage sz ar entry
    return { st with
      layout := { st.layout with bl33 := image }, found := st.found ||| fipFoundBl33 }
  else if ← uuidEqual entry (constant hwConfigUuid) then
    let image ← setImage sz ar entry
    return { st with
      layout := { st.layout with hwConfig := image }, found := st.found ||| fipFoundHwConfig }
  else return st

/-- The two updates of the payload bounds. -/
def widen (ar : Arith) (entry : Ptr) (st : TocWalk) : Option TocWalk := do
  let offset ← getLe64 (entry.add 16)
  let size ← getLe64 (entry.add 24)
  let stop ← ar.fit 64 (offset + size)
  return { st with
    payloadStart := if offset < st.payloadStart then offset else st.payloadStart
    payloadEnd := if st.payloadEnd < stop then stop else st.payloadEnd }

/-- One iteration of the loop on an entry that is not the terminator; `none` where
the source returns `-1`. -/
def acceptEntry (sz : SizeT) (ar : Arith) (bytes : Ptr) (imageSize : ℕ) (st : TocWalk) :
    Option (Option TocWalk) := do
  let entry := bytes.add st.entryOffset
  if ← entryUuidSeen bytes entry st.entryCount then return none
  else if !(← entryInBuffer entry imageSize) then return none
  else if ← entryOverlapsPrevious ar bytes entry st.entryCount then return none
  else
    let st ← widen ar entry st
    let st ← classify sz ar entry st
    return some { st with
      entryOffset := st.entryOffset + fipEntrySize, entryCount := st.entryCount + 1 }

/-- The checks made on the terminator; `false` where the source returns `-1`. -/
def checkTerminator (ar : Arith) (bytes : Ptr) (imageSize : ℕ) (st : TocWalk) : Option Bool := do
  let entry := bytes.add st.entryOffset
  let fipSize ← getLe64 (entry.add 16)
  let metadataEnd := st.entryOffset + fipEntrySize
  let size ← getLe64 (entry.add 24)
  if size ≠ 0 then return false
  else
    let flags ← getLe64 (entry.add 32)
    if flags ≠ 0 ∨ imageSize < fipSize ∨ fipSize < metadataEnd ∨
        st.payloadStart < metadataEnd ∨ fipSize < st.payloadEnd then return false
    else if st.found &&& fipFoundRequired ≠ fipFoundRequired then return false
    else
      let hwConfig ←
        if st.found &&& fipFoundHwConfig ≠ 0 then
          hwConfigIsValid ar (some (bytes.add st.layout.hwConfig.offset)) st.layout.hwConfig.size
        else some true
      if !hwConfig then return false else layoutIsLoadable bytes st.layout

/-- The loop of `sunxi_fip_parse`, with `n` entries to go: the value returned and
the layout left behind. -/
def walkToc (sz : SizeT) (ar : Arith) (bytes : Ptr) (imageSize : ℕ) :
    ℕ → TocWalk → Option (ℤ × Layout)
  | 0, st => return (-1, st.layout)
  | n + 1, st =>
      if imageSize < st.entryOffset ∨ imageSize - st.entryOffset < fipEntrySize then
        return (-1, st.layout)
      else do
        if ← uuidIsNull (bytes.add st.entryOffset) then
          let ok ← checkTerminator ar bytes imageSize st
          return (if ok then 0 else -1, st.layout)
        else
          match ← acceptEntry sz ar bytes imageSize st with
          | none => return (-1, st.layout)
          | some st => walkToc sz ar bytes imageSize n st

/-- The locals before the loop, the layout already cleared. -/
def TocWalk.init : TocWalk := ⟨fipHeaderSize, 0, 0, 2 ^ 64 - 1, 0, Layout.zero⟩

def sunxiFipParse (sz : SizeT) (ar : Arith) (image : Option Buf) (imageSize : ℕ)
    (layout : Option Layout) : Option (ℤ × Option Layout) :=
  match image, layout with
  | some b, some l =>
      if imageSize < fipHeaderSize ∨ sunxiFipMaxSize < imageSize then return (-1, some l)
      else do
        let bytes : Ptr := ⟨b, 0⟩
        let name ← getLe32 bytes
        if name ≠ fipTocHeaderName then return (-1, some l)
        else
          let serial ← getLe32 (bytes.add 4)
          if serial ≠ fipTocSerialNumber then return (-1, some l)
          else
            let (ret, l) ← walkToc sz ar bytes imageSize fipMaxTocEntries TocWalk.init
            return (ret, some l)
  | _, _ => return (-1, layout)

/-! ### The entries as the bytes spell them -/

/-- The UUID of entry `i`. -/
def uuidAt (b : Buf) (i : ℕ) : List UInt8 := b.slice (16 + 40 * i) 16

/-- The offset field of entry `i`; of the terminator, the declared size of the
package. -/
def offsetAt (b : Buf) (i : ℕ) : ℕ := b.le (16 + 40 * i + 16) 8

/-- The size field of entry `i`. -/
def sizeAt (b : Buf) (i : ℕ) : ℕ := b.le (16 + 40 * i + 24) 8

/-- The flags field of entry `i`. -/
def flagsAt (b : Buf) (i : ℕ) : ℕ := b.le (16 + 40 * i + 32) 8

/-- The bytes of the payload of entry `i`, as a range of package offsets. -/
def payloadAt (b : Buf) (i : ℕ) : Set ℕ := Set.Ico (offsetAt b i) (offsetAt b i + sizeAt b i)

/-- Entry `i` is acceptable in a package of `n` bytes: a UUID not seen before, and
a non-empty payload inside the package that meets no payload before it. -/
def EntryOk (b : Buf) (n i : ℕ) : Prop :=
  (∀ j < i, uuidAt b j ≠ uuidAt b i) ∧ sizeAt b i ≠ 0 ∧ offsetAt b i + sizeAt b i ≤ n ∧
    ∀ j < i, ¬(offsetAt b i < offsetAt b j + sizeAt b j ∧ offsetAt b j < offsetAt b i + sizeAt b i)

instance (b : Buf) (n i : ℕ) : Decidable (EntryOk b n i) :=
  inferInstanceAs (Decidable (_ ∧ _ ∧ _ ∧ _))

/-- The layout with the image of a known UUID set. -/
def Layout.place (l : Layout) (uuid : List UInt8) (image : Image) : Layout :=
  if uuid = scpBl2Uuid then { l with scpBl2 := image }
  else if uuid = bl31Uuid then { l with bl31 := image }
  else if uuid = bl33Uuid then { l with bl33 := image }
  else if uuid = hwConfigUuid then { l with hwConfig := image }
  else l

/-- The flag of a known UUID. -/
def foundFlag (uuid : List UInt8) : ℕ :=
  if uuid = scpBl2Uuid then fipFoundScpBl2
  else if uuid = bl31Uuid then fipFoundBl31
  else if uuid = bl33Uuid then fipFoundBl33
  else if uuid = hwConfigUuid then fipFoundHwConfig
  else 0

/-- The accumulators after the first `k` entries. -/
def walkState (b : Buf) : ℕ → TocWalk
  | 0 => TocWalk.init
  | k + 1 =>
      let st := walkState b k
      { entryOffset := st.entryOffset + fipEntrySize
        entryCount := st.entryCount + 1
        found := st.found ||| foundFlag (uuidAt b k)
        payloadStart := if offsetAt b k < st.payloadStart then offsetAt b k else st.payloadStart
        payloadEnd :=
          if st.payloadEnd < offsetAt b k + sizeAt b k then offsetAt b k + sizeAt b k
          else st.payloadEnd
        layout := st.layout.place (uuidAt b k) ⟨offsetAt b k, sizeAt b k⟩ }

@[simp] lemma walkState_entryOffset (b : Buf) (k : ℕ) : (walkState b k).entryOffset = 16 + 40 * k := by
  induction k with
  | zero => rfl
  | succ k ih => rw [walkState, ih]; simp only [fipEntrySize]; omega

@[simp] lemma walkState_entryCount (b : Buf) (k : ℕ) : (walkState b k).entryCount = k := by
  induction k with
  | zero => rfl
  | succ k ih => rw [walkState, ih]

/-! ### One step of the walk -/

section Step

variable {b : Buf} {n k : ℕ}

/-- The pointer to entry `i`. -/
def entryPtr (b : Buf) (i : ℕ) : Ptr := (⟨b, 0⟩ : Ptr).add (16 + 40 * i)

@[simp] lemma entryPtr_off (b : Buf) (i : ℕ) : (entryPtr b i).off = 16 + 40 * i := by simp [entryPtr]

@[simp] lemma entryPtr_buf (b : Buf) (i : ℕ) : (entryPtr b i).buf = b := rfl

lemma entryPtr_offset (h : 16 + 40 * (k + 1) ≤ b.size) :
    getLe64 ((entryPtr b k).add 16) = some (offsetAt b k) := by
  rw [getLe64_eq (by simp only [Ptr.add_off, Ptr.add_buf, entryPtr_off, entryPtr_buf]; omega)]
  simp [offsetAt]

lemma entryPtr_size (h : 16 + 40 * (k + 1) ≤ b.size) :
    getLe64 ((entryPtr b k).add 24) = some (sizeAt b k) := by
  rw [getLe64_eq (by simp only [Ptr.add_off, Ptr.add_buf, entryPtr_off, entryPtr_buf]; omega)]
  simp [sizeAt]

lemma entryPtr_flags (h : 16 + 40 * (k + 1) ≤ b.size) :
    getLe64 ((entryPtr b k).add 32) = some (flagsAt b k) := by
  rw [getLe64_eq (by simp only [Ptr.add_off, Ptr.add_buf, entryPtr_off, entryPtr_buf]; omega)]
  simp [flagsAt]

lemma uuidEqual_entryPtr (h : 16 + 40 * (k + 1) ≤ b.size) {l : List UInt8} (hl : l.length = 16)
    (hs : (Buf.ofList l).slice 0 16 = l) :
    uuidEqual (entryPtr b k) (constant l) = some (decide (uuidAt b k = l)) := by
  rw [uuidEqual, bytesEqual_constant_eq (by simp only [entryPtr_off, entryPtr_buf]; omega) hl hs]
  exact congrArg some (decide_eq_decide.mpr (by simp [uuidAt]))

lemma entryInBuffer_eq (h : 16 + 40 * (k + 1) ≤ b.size) :
    entryInBuffer (entryPtr b k) n
      = some (decide (sizeAt b k ≠ 0 ∧ offsetAt b k + sizeAt b k ≤ n)) := by
  simp only [entryInBuffer, entryPtr_offset h, entryPtr_size h, Option.bind_eq_bind,
    Option.bind_some, Option.pure_def]
  exact congrArg some (decide_eq_decide.mpr (by omega))

lemma previous_eq (b : Buf) (i : ℕ) :
    (⟨b, 0⟩ : Ptr).add (fipHeaderSize + i * fipEntrySize) = entryPtr b i := by
  simp only [entryPtr, fipHeaderSize, fipEntrySize, Nat.mul_comm i 40]

lemma entryUuidSeen_eq (h : 16 + 40 * (k + 1) ≤ b.size) :
    entryUuidSeen ⟨b, 0⟩ (entryPtr b k) k = some (decide (∃ j < k, uuidAt b j = uuidAt b k)) := by
  have htest : ∀ j, 0 ≤ j → j < 0 + k →
      uuidEqual ((⟨b, 0⟩ : Ptr).add (fipHeaderSize + j * fipEntrySize)) (entryPtr b k)
        = some (decide (uuidAt b j = uuidAt b k)) := by
    intro j _ hj
    rw [previous_eq, uuidEqual_eq (by simp only [entryPtr_off, entryPtr_buf]; omega)
      (by simp only [entryPtr_off, entryPtr_buf]; omega)]
    exact congrArg some (decide_eq_decide.mpr (by simp [uuidAt]))
  rw [entryUuidSeen, anyFrom_eq_decide k 0 htest]
  exact congrArg some (decide_eq_decide.mpr (by simp))

/-- The sums of the overlap test fit in 64 bits because every range compared has
been found inside the package before. -/
lemma entryOverlapsPrevious_eq (ar : Arith) (h : 16 + 40 * (k + 1) ≤ b.size) (hn : n < 2 ^ 64)
    (hk : offsetAt b k + sizeAt b k ≤ n) (hprev : ∀ j < k, offsetAt b j + sizeAt b j ≤ n) :
    entryOverlapsPrevious ar ⟨b, 0⟩ (entryPtr b k) k
      = some (decide (∃ j < k, offsetAt b k < offsetAt b j + sizeAt b j ∧
          offsetAt b j < offsetAt b k + sizeAt b k)) := by
  have htest : ∀ j, 0 ≤ j → j < 0 + k →
      (do
        let previous := (⟨b, 0⟩ : Ptr).add (fipHeaderSize + j * fipEntrySize)
        let previousOffset ← getLe64 (previous.add 16)
        let previousSize ← getLe64 (previous.add 24)
        let previousEnd ← ar.fit 64 (previousOffset + previousSize)
        return decide (offsetAt b k < previousEnd ∧ previousOffset < offsetAt b k + sizeAt b k))
      = some (decide (offsetAt b k < offsetAt b j + sizeAt b j ∧
          offsetAt b j < offsetAt b k + sizeAt b k)) := by
    intro j _ hj
    have hfit := hprev j (by omega)
    simp only [previous_eq, entryPtr_offset (k := j) (b := b) (by omega),
      entryPtr_size (k := j) (b := b) (by omega), ar.fit_eq (show offsetAt b j + sizeAt b j < 2 ^ 64
      by omega), Option.bind_eq_bind, Option.bind_some, Option.pure_def]
  simp only [entryOverlapsPrevious, entryPtr_offset h, entryPtr_size h,
    ar.fit_eq (show offsetAt b k + sizeAt b k < 2 ^ 64 by omega), Option.bind_eq_bind,
    Option.bind_some]
  refine (anyFrom_eq_decide k 0 htest).trans ?_
  exact congrArg some (decide_eq_decide.mpr (by simp))

lemma widen_eq (ar : Arith) (h : 16 + 40 * (k + 1) ≤ b.size)
    (hk : offsetAt b k + sizeAt b k < 2 ^ 64) (st : TocWalk) :
    widen ar (entryPtr b k) st = some { st with
      payloadStart := if offsetAt b k < st.payloadStart then offsetAt b k else st.payloadStart
      payloadEnd :=
        if st.payloadEnd < offsetAt b k + sizeAt b k then offsetAt b k + sizeAt b k
        else st.payloadEnd } := by
  simp only [widen, entryPtr_offset h, entryPtr_size h, ar.fit_eq hk, Option.bind_eq_bind,
    Option.bind_some, Option.pure_def]

/-- The conversions of `set_image` are lossless for a payload found inside a
package of at most 2 MiB, with either width of `size_t`. -/
lemma setImage_eq (sz : SizeT) (ar : Arith) (h : 16 + 40 * (k + 1) ≤ b.size)
    (hk : offsetAt b k + sizeAt b k < 2 ^ 32) :
    setImage sz ar (entryPtr b k) = some ⟨offsetAt b k, sizeAt b k⟩ := by
  have hw : 2 ^ 32 ≤ 2 ^ sz.width := Nat.pow_le_pow_right (by omega) (by cases sz <;> decide)
  simp only [setImage, entryPtr_offset h, entryPtr_size h, ar.fit_eq (show offsetAt b k < 2 ^ sz.width
    by omega), ar.fit_eq (show sizeAt b k < 2 ^ sz.width by omega), Option.bind_eq_bind,
    Option.bind_some, Option.pure_def]

lemma classify_eq (sz : SizeT) (ar : Arith) (h : 16 + 40 * (k + 1) ≤ b.size)
    (hk : offsetAt b k + sizeAt b k < 2 ^ 32) (st : TocWalk) :
    classify sz ar (entryPtr b k) st = some { st with
      found := st.found ||| foundFlag (uuidAt b k)
      layout := st.layout.place (uuidAt b k) ⟨offsetAt b k, sizeAt b k⟩ } := by
  have hset := setImage_eq sz ar h hk
  simp only [classify, uuidEqual_entryPtr h (l := scpBl2Uuid) rfl rfl,
    uuidEqual_entryPtr h (l := bl31Uuid) rfl rfl, uuidEqual_entryPtr h (l := bl33Uuid) rfl rfl,
    uuidEqual_entryPtr h (l := hwConfigUuid) rfl rfl, hset, Option.bind_eq_bind, Option.bind_some,
    Option.pure_def, decide_eq_true_eq, Layout.place, foundFlag]
  -- the chain of the source and the two chains of the specification split alike
  split_ifs <;> simp

/-- **One step of the walk**: after `k` entries inside the package, the next one is
accepted exactly when it is `EntryOk`, and the accumulators advance. -/
lemma acceptEntry_eq (sz : SizeT) (ar : Arith) (h : 16 + 40 * (k + 1) ≤ b.size)
    (hn : n ≤ sunxiFipMaxSize) (hprev : ∀ j < k, EntryOk b n j) :
    acceptEntry sz ar ⟨b, 0⟩ n (walkState b k)
      = some (if EntryOk b n k then some (walkState b (k + 1)) else none) := by
  have hin : ∀ j < k, offsetAt b j + sizeAt b j ≤ n := fun j hj => (hprev j hj).2.2.1
  have hmax : sunxiFipMaxSize < 2 ^ 32 := by decide
  have hptr : (⟨b, 0⟩ : Ptr).add (walkState b k).entryOffset = entryPtr b k := by
    rw [walkState_entryOffset, entryPtr]
  simp only [acceptEntry, hptr, walkState_entryCount, entryUuidSeen_eq h, entryInBuffer_eq h,
    Option.bind_eq_bind, Option.bind_some, Option.pure_def]
  by_cases hseen : ∃ j < k, uuidAt b j = uuidAt b k
  · have hno : ¬EntryOk b n k := fun hok => by
      obtain ⟨j, hj, he⟩ := hseen
      exact hok.1 j hj he
    rw [if_pos (by simpa using hseen), if_neg hno]
  rw [if_neg (by simpa using hseen)]
  by_cases hbuf : sizeAt b k ≠ 0 ∧ offsetAt b k + sizeAt b k ≤ n
  swap
  · have hno : ¬EntryOk b n k := fun hok => hbuf ⟨hok.2.1, hok.2.2.1⟩
    rw [decide_eq_false hbuf, if_pos (by rfl), if_neg hno]
  rw [decide_eq_true hbuf, if_neg (by decide),
    entryOverlapsPrevious_eq ar h (n := n) (by omega) hbuf.2 hin, Option.bind_some]
  by_cases hover : ∃ j < k, offsetAt b k < offsetAt b j + sizeAt b j ∧
      offsetAt b j < offsetAt b k + sizeAt b k
  · have hno : ¬EntryOk b n k := fun hok => by
      obtain ⟨j, hj, ho⟩ := hover
      exact hok.2.2.2 j hj ho
    rw [if_pos (by simpa using hover), if_neg hno]
  · have hok : EntryOk b n k :=
      ⟨fun j hj he => hseen ⟨j, hj, he⟩, hbuf.1, hbuf.2, fun j hj ho => hover ⟨j, hj, ho⟩⟩
    rw [if_neg (by simpa using hover), if_pos hok, widen_eq ar h (by omega), Option.bind_some,
      classify_eq sz ar h (by omega), Option.bind_some, walkState]

end Step

/-! ### The end of the walk -/

section Terminator

variable {b : Buf} {n k : ℕ}

/-- Where the images of the layout lie: each is empty, or the payload of an
entry already accepted. -/
lemma walkState_image_le (hk : ∀ j < k, offsetAt b j + sizeAt b j ≤ n) :
    (walkState b k).layout.scpBl2.offset + (walkState b k).layout.scpBl2.size ≤ n ∧
    (walkState b k).layout.bl31.offset + (walkState b k).layout.bl31.size ≤ n ∧
    (walkState b k).layout.bl33.offset + (walkState b k).layout.bl33.size ≤ n ∧
    (walkState b k).layout.hwConfig.offset + (walkState b k).layout.hwConfig.size ≤ n := by
  induction k with
  | zero => simp [walkState, TocWalk.init, Layout.zero]
  | succ k ih =>
      have hlast := hk k (by omega)
      have hrest := ih fun j hj => hk j (by omega)
      simp only [walkState, Layout.place]
      split_ifs <;> simp only [hlast, hrest, and_self]

/-- What the parser demands of the terminator at index `k` of a package of `n`
bytes, given the accumulators: its own fields, the bounds of the payloads, the
required entries, and the four payloads. -/
def TerminatorOk (b : Buf) (n k : ℕ) : Prop :=
  let st := walkState b k
  sizeAt b k = 0 ∧ flagsAt b k = 0 ∧ offsetAt b k ≤ n ∧ 16 + 40 * (k + 1) ≤ offsetAt b k ∧
    16 + 40 * (k + 1) ≤ st.payloadStart ∧ st.payloadEnd ≤ offsetAt b k ∧
    st.found &&& fipFoundRequired = fipFoundRequired ∧
    (st.found &&& fipFoundHwConfig ≠ 0 →
      HwConfigOk b st.layout.hwConfig.offset st.layout.hwConfig.size) ∧
    Loadable b st.layout

instance (b : Buf) (n k : ℕ) : Decidable (TerminatorOk b n k) :=
  inferInstanceAs (Decidable (_ ∧ _))

lemma checkTerminator_eq (ar : Arith) (h : 16 + 40 * (k + 1) ≤ b.size) (hn : n ≤ b.size)
    (hk : ∀ j < k, offsetAt b j + sizeAt b j ≤ n) :
    checkTerminator ar ⟨b, 0⟩ n (walkState b k) = some (decide (TerminatorOk b n k)) := by
  obtain ⟨hscp, hbl31, hbl33, hhw⟩ := walkState_image_le hk
  have hptr : (⟨b, 0⟩ : Ptr).add (walkState b k).entryOffset = entryPtr b k := by
    rw [walkState_entryOffset, entryPtr]
  rw [checkTerminator, hptr, walkState_entryOffset]
  simp only [entryPtr_offset h, entryPtr_size h, entryPtr_flags h, fipEntrySize,
    Option.bind_eq_bind, Option.bind_some, Option.pure_def, hwConfigIsValid_eq ar (hhw.trans hn),
    layoutIsLoadable_eq (hscp.trans hn) (hbl31.trans hn) (hbl33.trans hn)]
  have hno {P : Prop} (hP : TerminatorOk b n k → P) (hf : ¬P) :
      some false = some (decide (TerminatorOk b n k)) := by
    rw [decide_eq_false fun hok => hf (hP hok)]
  split
  next hsize => exact hno (fun hok => hok.1) hsize
  next hsize =>
  split
  next hbounds =>
    refine hno (fun hok => ?_) (not_not.mpr hbounds)
    obtain ⟨-, h1, h2, h3, h4, h5, -⟩ := hok
    omega
  next hbounds =>
  split
  next hfound => exact hno (fun hok => hok.2.2.2.2.2.2.1) hfound
  next hfound =>
  have hrest : ∀ {P : Prop} [Decidable P],
      (P ↔ ((walkState b k).found &&& fipFoundHwConfig ≠ 0 →
        HwConfigOk b (walkState b k).layout.hwConfig.offset (walkState b k).layout.hwConfig.size) ∧
        Loadable b (walkState b k).layout) →
      some (decide P) = some (decide (TerminatorOk b n k)) := by
    intro P _ hP
    refine congrArg some (decide_eq_decide.mpr (hP.trans ⟨fun hl => ?_, fun ht => ?_⟩))
    · exact ⟨by omega, by omega, by omega, by omega, by omega, by omega, by omega, hl⟩
    · exact ht.2.2.2.2.2.2.2
  split
  next hset =>
    split
    next hhwc =>
      refine hno (fun hok => hok.2.2.2.2.2.2.2.1 hset) ?_
      simpa using hhwc
    next hhwc =>
      have hok : HwConfigOk b (walkState b k).layout.hwConfig.offset
          (walkState b k).layout.hwConfig.size := by simpa using hhwc
      exact hrest ⟨fun hl => ⟨fun _ => hok, hl⟩, fun hl => hl.2⟩
  next hset => exact hrest ⟨fun hl => ⟨fun h => absurd h hset, hl⟩, fun hl => hl.2⟩

end Terminator

/-! ### The whole walk -/

/-- The walk as a function of the bytes: entry `k` is reached with `m` iterations
to go. -/
def tocResult (b : Buf) (n : ℕ) : ℕ → ℕ → ℤ × Layout
  | 0, k => (-1, (walkState b k).layout)
  | m + 1, k =>
      if n < 16 + 40 * (k + 1) then (-1, (walkState b k).layout)
      else if uuidAt b k = nullUuid then
        (if TerminatorOk b n k then 0 else -1, (walkState b k).layout)
      else if EntryOk b n k then tocResult b n m (k + 1)
      else (-1, (walkState b k).layout)

/-- The loop of the source is the pure walk: by induction on the iterations left,
every entry before the current one being acceptable. -/
lemma walkToc_eq (sz : SizeT) (ar : Arith) {b : Buf} {n : ℕ} (hn : n ≤ b.size)
    (hmax : n ≤ sunxiFipMaxSize) (m k : ℕ) (hprev : ∀ j < k, EntryOk b n j) :
    walkToc sz ar ⟨b, 0⟩ n m (walkState b k) = some (tocResult b n m k) := by
  induction m generalizing k with
  | zero => rfl
  | succ m ih =>
      rw [walkToc, tocResult, walkState_entryOffset]
      by_cases hroom : n < 16 + 40 * (k + 1)
      · rw [if_pos (by simp only [fipEntrySize]; omega), if_pos hroom]
        rfl
      · have hptr : (⟨b, 0⟩ : Ptr).add (16 + 40 * k) = entryPtr b k := rfl
        rw [if_neg (by simp only [fipEntrySize]; omega), if_neg hroom, hptr, uuidIsNull,
          uuidEqual_entryPtr (by omega) rfl rfl]
        simp only [Option.bind_eq_bind, Option.bind_some, decide_eq_true_eq]
        split
        · rw [checkTerminator_eq ar (by omega) hn fun j hj => (hprev j hj).2.2.1]
          simp
        · rw [acceptEntry_eq sz ar (by omega) hmax hprev, Option.bind_some]
          by_cases hok : EntryOk b n k
          · rw [if_pos hok, if_pos hok]
            refine ih (k + 1) fun j hj => ?_
            rcases Nat.lt_succ_iff_lt_or_eq.mp hj with hlt | rfl
            · exact hprev j hlt
            · exact hok
          · rw [if_neg hok, if_neg hok]
            rfl

/-- The result of the parse as a function of the bytes. -/
def parseResult (b : Buf) (n : ℕ) (l : Layout) : ℤ × Layout :=
  if n < fipHeaderSize ∨ sunxiFipMaxSize < n ∨ b.le 0 4 ≠ fipTocHeaderName ∨
      b.le 4 4 ≠ fipTocSerialNumber then (-1, l)
  else tocResult b n fipMaxTocEntries 0

/-- The parse computes `parseResult`, whatever the width of `size_t` and whatever
becomes of a wrap, from a buffer that holds the bytes it is told about. -/
lemma sunxiFipParse_eq (sz : SizeT) (ar : Arith) {b : Buf} {n : ℕ} (hn : n ≤ b.size) (l : Layout) :
    sunxiFipParse sz ar (some b) n (some l)
      = some ((parseResult b n l).1, some (parseResult b n l).2) := by
  rw [sunxiFipParse]
  by_cases hsize : n < fipHeaderSize ∨ sunxiFipMaxSize < n
  · rw [if_pos hsize, parseResult, if_pos (by tauto)]
    rfl
  have hhead : 16 ≤ n := by
    simp only [fipHeaderSize] at hsize
    omega
  have hname : getLe32 (⟨b, 0⟩ : Ptr) = some (b.le 0 4) := getLe32_eq (by simp only; omega)
  have hserial : getLe32 ((⟨b, 0⟩ : Ptr).add 4) = some (b.le 4 4) := by
    rw [getLe32_eq (by simp only [Ptr.add_off, Ptr.add_buf]; omega)]
    simp
  rw [if_neg hsize]
  simp only [hname, hserial, Option.bind_eq_bind, Option.bind_some]
  by_cases h0 : b.le 0 4 ≠ fipTocHeaderName
  · rw [if_pos h0, parseResult, if_pos (by tauto)]
    rfl
  rw [if_neg h0]
  by_cases h4 : b.le 4 4 ≠ fipTocSerialNumber
  · rw [if_pos h4, parseResult, if_pos (by tauto)]
    rfl
  · have hinit : walkToc sz ar ⟨b, 0⟩ n fipMaxTocEntries TocWalk.init
        = some (tocResult b n fipMaxTocEntries 0) :=
      walkToc_eq sz ar hn (by omega) fipMaxTocEntries 0 (by simp)
    rw [if_neg h4, hinit, parseResult, if_neg (by tauto)]
    rfl

/-! ### The parse over a larger buffer -/

section Ext

variable {p q : Ptr} {p' q' : Ptr}

lemma setImage_ext (sz : SizeT) (ar : Arith) (h : p.Ext q) :
    Below (setImage sz ar p) (setImage sz ar q) :=
  (getLe64_ext (h.add 16)).bind fun _ => (Below.refl _).bind fun _ =>
    (getLe64_ext (h.add 24)).bind fun _ => Below.refl _

lemma entryInBuffer_ext (h : p.Ext q) (n : ℕ) : Below (entryInBuffer p n) (entryInBuffer q n) :=
  (getLe64_ext (h.add 16)).bind fun _ => (getLe64_ext (h.add 24)).bind fun _ => Below.refl _

lemma entryOverlapsPrevious_ext (ar : Arith) (h : p.Ext q) (h' : p'.Ext q') (k : ℕ) :
    Below (entryOverlapsPrevious ar p p' k) (entryOverlapsPrevious ar q q' k) := by
  refine (getLe64_ext (h'.add 16)).bind fun _ => (getLe64_ext (h'.add 24)).bind fun _ =>
    (Below.refl _).bind fun _ => Below.anyFrom (fun i => ?_) k 0
  have hi := h.add (fipHeaderSize + i * fipEntrySize)
  exact (getLe64_ext (hi.add 16)).bind fun _ => (getLe64_ext (hi.add 24)).bind fun _ => Below.refl _

lemma entryUuidSeen_ext (h : p.Ext q) (h' : p'.Ext q') (k : ℕ) :
    Below (entryUuidSeen p p' k) (entryUuidSeen q q' k) :=
  Below.anyFrom (fun _ => bytesEqual_ext (h.add _) h' 16) k 0

lemma classify_ext (sz : SizeT) (ar : Arith) (h : p.Ext q) (st : TocWalk) :
    Below (classify sz ar p st) (classify sz ar q st) := by
  have hset := setImage_ext sz ar h
  have huuid : ∀ l, Below (uuidEqual p (constant l)) (uuidEqual q (constant l)) :=
    fun l => bytesEqual_ext h (Ptr.Ext.refl _) 16
  exact (huuid _).bind fun _ => (hset.bind fun _ => Below.refl _).ite <|
    (huuid _).bind fun _ => (hset.bind fun _ => Below.refl _).ite <|
    (huuid _).bind fun _ => (hset.bind fun _ => Below.refl _).ite <|
    (huuid _).bind fun _ => (hset.bind fun _ => Below.refl _).ite <| Below.refl _

lemma acceptEntry_ext (sz : SizeT) (ar : Arith) (h : p.Ext q) (n : ℕ) (st : TocWalk) :
    Below (acceptEntry sz ar p n st) (acceptEntry sz ar q n st) := by
  have he := h.add st.entryOffset
  refine (entryUuidSeen_ext h he _).bind fun _ => (Below.refl _).ite ?_
  refine (entryInBuffer_ext he n).bind fun _ => (Below.refl _).ite ?_
  refine (entryOverlapsPrevious_ext ar h he _).bind fun _ => (Below.refl _).ite ?_
  refine Below.bind ?_ fun st => (classify_ext sz ar he st).bind fun _ => Below.refl _
  exact (getLe64_ext (he.add 16)).bind fun _ => (getLe64_ext (he.add 24)).bind fun _ => Below.refl _

lemma checkTerminator_ext (ar : Arith) (h : p.Ext q) (n : ℕ) (st : TocWalk) :
    Below (checkTerminator ar p n st) (checkTerminator ar q n st) := by
  have he := h.add st.entryOffset
  have hload := layoutIsLoadable_ext h st.layout
  refine (getLe64_ext (he.add 16)).bind fun _ => (getLe64_ext (he.add 24)).bind fun _ =>
    (Below.refl _).ite ?_
  refine (getLe64_ext (he.add 32)).bind fun _ => (Below.refl _).ite ((Below.refl _).ite ?_)
  refine Below.ite ?_ ((Below.refl _).bind fun _ => (Below.refl _).ite hload)
  exact (hwConfigIsValid_ext ar (h.add _) _).bind fun _ => (Below.refl _).ite hload

lemma walkToc_ext (sz : SizeT) (ar : Arith) (h : p.Ext q) (n m : ℕ) (st : TocWalk) :
    Below (walkToc sz ar p n m st) (walkToc sz ar q n m st) := by
  induction m generalizing st with
  | zero => exact Below.refl _
  | succ m ih =>
      refine (Below.refl _).ite ((uuidIsNull_ext (h.add _)).bind fun _ => Below.ite ?_ ?_)
      · exact (checkTerminator_ext ar h n st).bind fun _ => Below.refl _
      · refine (acceptEntry_ext sz ar h n st).bind fun r => ?_
        cases r with
        | none => exact Below.refl _
        | some st => exact ih st

end Ext

/-- Whatever the parse returns over a buffer it returns over every larger one. -/
lemma sunxiFipParse_ext (sz : SizeT) (ar : Arith) {b c : Buf} (h : b.Ext c) (n : ℕ) (l : Layout) :
    Below (sunxiFipParse sz ar (some b) n (some l)) (sunxiFipParse sz ar (some c) n (some l)) := by
  have hp : (⟨b, 0⟩ : Ptr).Ext ⟨c, 0⟩ := ⟨h, rfl⟩
  exact (Below.refl _).ite <| (getLe32_ext hp).bind fun _ => (Below.refl _).ite <|
    (getLe32_ext (hp.add 4)).bind fun _ => (Below.refl _).ite <|
    (walkToc_ext sz ar hp n _ _).bind fun _ => Below.refl _

/-- The parse of `n` bytes looks at no others: two buffers that agree on them give
the same result. -/
lemma parseResult_congr {b c : Buf} {n : ℕ} (hb : n ≤ b.size) (hc : n ≤ c.size)
    (h : ∀ i < n, b.byte i = c.byte i) (l : Layout) : parseResult b n l = parseResult c n l := by
  -- both extend the first `n` bytes of `b`
  have hcut := sunxiFipParse_eq .bits64 .wrap (b := b.take n) (n := n) le_rfl l
  have hb' := sunxiFipParse_ext .bits64 .wrap (Buf.take_ext hb fun _ _ => rfl) n l _ hcut
  have hc' := sunxiFipParse_ext .bits64 .wrap (Buf.take_ext hc h) n l _ hcut
  rw [sunxiFipParse_eq _ _ hb] at hb'
  rw [sunxiFipParse_eq _ _ hc] at hc'
  have heq := hb'.trans hc'.symm
  simp only [Option.some.injEq, Prod.mk.injEq] at heq
  exact Prod.ext heq.1 heq.2

/-- **Memory safety of the parse.** Over a buffer of exactly the bytes it is told
about, the parse has one and the same result for both widths of `size_t` and for
both treatments of a wrap: no access leaves the buffer, no sum exceeds 64 bits, no
conversion loses a bit and no difference underflows. -/
theorem sunxiFipParse_total (b : Buf) (layout : Layout) :
    ∃ r, ∀ sz ar, sunxiFipParse sz ar (some b) b.size (some layout) = some r :=
  ⟨_, fun sz ar => sunxiFipParse_eq sz ar le_rfl layout⟩

end A733Boot.Fip
