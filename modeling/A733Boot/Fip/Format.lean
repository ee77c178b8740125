/-
The FIP package format of `src/sunxi_fip.c`: the constants, the byte readers,
the UUIDs, and the checks made on the four payloads before they are loaded.

Every check is embedded as the source computes it, over checked pointers, and
comes with two lemmas: what it decides when the bytes it looks at are there
(`scpBl2IsValid_eq` and its siblings, against the declarative conditions
`ScpBl2Ok`, `Bl31Ok`, `Bl33Ok`, `HwConfigOk`), and that it gives the same answer
over every larger buffer (`scpBl2IsValid_ext` and its siblings).

* `getLe32_eq`, `getLe64_eq`, `getBe32_eq`: the readers return the numeral the
  bytes spell;
* `bytesEqualFrom_eq`: the comparison loop compares the two slices;
* `branchTarget_eq`: the sign extension of the ARM branch of BL33 is the signed
  reading of its low 24 bits.
-/
import A733Boot.Library.Bytes

namespace A733Boot.Fip

/-! ### Constants -/

/-- The width of `size_t`: boot0 is a 32-bit program, the host checker a 64-bit
one. -/
inductive SizeT where
  | bits32
  | bits64
  deriving DecidableEq, Repr

/-- The number of bits of a `size_t`. -/
def SizeT.width : SizeT → ℕ
  | bits32 => 32
  | bits64 => 64

def fipTocHeaderName : ℕ := 0xaa640001
def fipTocSerialNumber : ℕ := 0x12345678
def fipHeaderSize : ℕ := 16
def fipEntrySize : ℕ := 40
def fipSectorSize : ℕ := 512
def fipTocSectors : ℕ := 3
def fipMetadataSize : ℕ := fipTocSectors * fipSectorSize
def fipMaxTocEntries : ℕ := (fipMetadataSize - fipHeaderSize) / fipEntrySize

def fipFoundScpBl2 : ℕ := 0x1
def fipFoundBl31 : ℕ := 0x2
def fipFoundBl33 : ℕ := 0x4
def fipFoundHwConfig : ℕ := 0x8
def fipFoundRequired : ℕ := fipFoundScpBl2 ||| fipFoundBl31 ||| fipFoundBl33

def fdtMagic : ℕ := 0xd00dfeed
def fdtHeaderSize : ℕ := 40
def fdtFirstSupportedVersion : ℕ := 16
def fdtLastSupportedVersion : ℕ := 17

def scpBl2MinSize : ℕ := 64
def scpBl2EntryInstruction : ℕ := 0x30047073
def scpBl2TraceAddrHi : ℕ := 0x070902b7
def scpBl2TraceAddrLo : ℕ := 0x11c28293
def scpBl2TraceValueHi : ℕ := 0xe9020337
def scpBl2TraceStore : ℕ := 0xa0230305
def scpBl2EntryPrologue : ℕ := 0x40810062

def bl31MonitorHeaderSize : ℕ := 0x1000
def bl31MonitorBranch : ℕ := 0xea0003fe
def bl31MonitorLoadAddressOffset : ℕ := 0x2c
def bl31MinSize : ℕ := bl31MonitorHeaderSize + 4

def bl33MinSize : ℕ := 64
def armBranchOpcodeMask : ℕ := 0xff000000
def armBranchOpcode : ℕ := 0xea000000

def sunxiFipMaxSize : ℕ := 0x00200000
def sunxiFipBl31Base : ℕ := 0x48000000
def sunxiFipBl31MaxSize : ℕ := 0x00100000
def sunxiFipBl33Base : ℕ := 0x4a000000
def sunxiFipBl33MaxSize : ℕ := 0x00180000
def sunxiFipScpBl2Base : ℕ := 0x00044000
def sunxiFipScpBl2MaxSize : ℕ := 0x00028000
def sunxiFipHwConfigBase : ℕ := 0x48100000
def sunxiFipHwConfigMaxSize : ℕ := 0x00100000

def scpBl2Uuid : List UInt8 :=
  [0x97, 0x66, 0xfd, 0x3d, 0x89, 0xbe, 0xe8, 0x49,
   0xae, 0x5d, 0x78, 0xa1, 0x40, 0x60, 0x82, 0x13]

def bl31Uuid : List UInt8 :=
  [0x47, 0xd4, 0x08, 0x6d, 0x4c, 0xfe, 0x98, 0x46,
   0x9b, 0x95, 0x29, 0x50, 0xcb, 0xbd, 0x5a, 0x00]

def bl33Uuid : List UInt8 :=
  [0xd6, 0xd0, 0xee, 0xa7, 0xfc, 0xea, 0xd5, 0x4b,
   0x97, 0x82, 0x99, 0x34, 0xf2, 0x34, 0xb6, 0xe4]

def hwConfigUuid : List UInt8 :=
  [0x08, 0xb8, 0xf1, 0xd9, 0xc9, 0xcf, 0x93, 0x49,
   0xa9, 0x62, 0x6f, 0xbc, 0x6b, 0x72, 0x65, 0xcc]

def nullUuid : List UInt8 := List.replicate 16 0

/-- `'m', 'o', 'n', 'i', 't', 'o', 'r', 0`. -/
def monitorMagic : List UInt8 := [0x6d, 0x6f, 0x6e, 0x69, 0x74, 0x6f, 0x72, 0]

/-- `struct sunxi_fip_image`: where a payload lies in the package. -/
structure Image where
  offset : ℕ
  size : ℕ
  deriving DecidableEq, Repr

/-- `struct sunxi_fip_layout`. -/
structure Layout where
  scpBl2 : Image
  bl31 : Image
  bl33 : Image
  hwConfig : Image
  deriving DecidableEq, Repr

/-- The layout with every offset and size zero. -/
def Layout.zero : Layout := ⟨⟨0, 0⟩, ⟨0, 0⟩, ⟨0, 0⟩, ⟨0, 0⟩⟩

/-! ### The byte readers -/

def getLe32 (src : Ptr) : Option ℕ := do
  let b0 ← src.get 0
  let b1 ← src.get 1
  let b2 ← src.get 2
  let b3 ← src.get 3
  return b0.toNat ||| b1.toNat <<< 8 ||| b2.toNat <<< 16 ||| b3.toNat <<< 24

def getLe64 (src : Ptr) : Option ℕ :=
  (List.range 8).foldlM (fun value i => do
    let byte ← src.get i
    return value ||| byte.toNat <<< (i * 8)) 0

def getBe32 (src : Ptr) : Option ℕ := do
  let b0 ← src.get 0
  let b1 ← src.get 1
  let b2 ← src.get 2
  let b3 ← src.get 3
  return b0.toNat <<< 24 ||| b1.toNat <<< 16 ||| b2.toNat <<< 8 ||| b3.toNat

/-- The loop of `bytes_equal` from index `i` on, with `n` bytes to go. -/
def bytesEqualFrom (left right : Ptr) (i : ℕ) : ℕ → Option Bool
  | 0 => return true
  | n + 1 => do
      let l ← left.get i
      let r ← right.get i
      if l ≠ r then return false else bytesEqualFrom left right (i + 1) n

def bytesEqual (left right : Ptr) (size : ℕ) : Option Bool := bytesEqualFrom left right 0 size

/-- `uuid_equal` is the same loop over sixteen bytes. -/
def uuidEqual (left right : Ptr) : Option Bool := bytesEqual left right 16

/-- A pointer to the first byte of a constant array. -/
def constant (l : List UInt8) : Ptr := ⟨Buf.ofList l, 0⟩

def uuidIsNull (uuid : Ptr) : Option Bool := uuidEqual uuid (constant nullUuid)

/-! ### The payload checks -/

/-- The comparison of the word at `p` with `v`. -/
def wordIs (p : Ptr) (v : ℕ) : Option Bool := do
  let word ← getLe32 p
  return decide (word = v)

def scpBl2IsValid (bytes : Ptr) (image : Image) : Option Bool :=
  if image.offset &&& (4 - 1) ≠ 0 ∨ image.size < scpBl2MinSize then some false
  else
    let entry := bytes.add image.offset
    wordIs entry scpBl2EntryInstruction <&&>
    wordIs (entry.add 4) scpBl2TraceAddrHi <&&>
    wordIs (entry.add 8) scpBl2TraceAddrLo <&&>
    wordIs (entry.add 12) scpBl2TraceValueHi <&&>
    wordIs (entry.add 16) scpBl2TraceStore <&&>
    wordIs (entry.add 20) scpBl2EntryPrologue

def bl31IsValid (bytes : Ptr) (image : Image) : Option Bool :=
  if image.size < bl31MinSize then some false
  else do
    let monitor := bytes.add image.offset
    let codeEntry ← getLe32 (monitor.add bl31MonitorHeaderSize)
    wordIs monitor bl31MonitorBranch <&&>
      bytesEqual (monitor.add 4) (constant monitorMagic) 8 <&&>
      wordIs (monitor.add bl31MonitorLoadAddressOffset) sunxiFipBl31Base <&&>
      some (decide (codeEntry ≠ 0)) <&&>
      some (decide (codeEntry ≠ 0xffffffff))

/-- The target of the ARM branch `instruction`, relative to the instruction:
`8 + immediate * 4` with the 24-bit immediate sign-extended. -/
def branchTarget (instruction : ℕ) : ℤ :=
  let low : ℤ := (instruction &&& 0x00ffffff : ℕ)
  let immediate := if (instruction &&& 0x00ffffff) &&& 0x00800000 ≠ 0 then low - 0x01000000 else low
  8 + immediate * 4

def bl33IsValid (bytes : Ptr) (image : Image) : Option Bool :=
  if image.size < bl33MinSize then some false
  else do
    let instruction ← getLe32 (bytes.add image.offset)
    if instruction &&& armBranchOpcodeMask ≠ armBranchOpcode then return false
    else
      let target := branchTarget instruction
      return decide (0 ≤ target ∧ target.toNat + 4 ≤ image.size)

def layoutIsLoadable (bytes : Ptr) (layout : Layout) : Option Bool :=
  some (decide (layout.bl31.size ≤ sunxiFipBl31MaxSize)) <&&>
  some (decide (layout.bl33.size ≤ sunxiFipBl33MaxSize)) <&&>
  some (decide (layout.scpBl2.size ≤ sunxiFipScpBl2MaxSize)) <&&>
  some (decide (layout.hwConfig.size ≤ sunxiFipHwConfigMaxSize)) <&&>
  scpBl2IsValid bytes layout.scpBl2 <&&>
  bl31IsValid bytes layout.bl31 <&&>
  bl33IsValid bytes layout.bl33

/-- The comparison `bound ≤ minuend - subtrahend` of `hw_config_is_valid`, whose
difference is a `u32`. -/
def leDifference (ar : Arith) (bound minuend subtrahend : ℕ) : Option Bool := do
  let difference ← ar.sub 32 minuend subtrahend
  return decide (bound ≤ difference)

def hwConfigIsValid (ar : Arith) (fdt : Option Ptr) (imageSize : ℕ) : Option Bool :=
  match fdt with
  | none => some false
  | some fdt =>
    if imageSize < fdtHeaderSize then some false
    else do
      let magic ← getBe32 fdt
      if magic ≠ fdtMagic then return false
      else do
        let totalSize ← getBe32 (fdt.add 4)
        let structOffset ← getBe32 (fdt.add 8)
        let stringsOffset ← getBe32 (fdt.add 12)
        let reserveOffset ← getBe32 (fdt.add 16)
        let version ← getBe32 (fdt.add 20)
        let lastCompatibleVersion ← getBe32 (fdt.add 24)
        let stringsSize ← getBe32 (fdt.add 32)
        let structSize ← getBe32 (fdt.add 36)
        some (decide (totalSize = imageSize)) <&&>
          some (decide (fdtHeaderSize ≤ totalSize)) <&&>
          some (decide (fdtFirstSupportedVersion ≤ version)) <&&>
          some (decide (version ≤ fdtLastSupportedVersion)) <&&>
          some (decide (lastCompatibleVersion ≤ fdtLastSupportedVersion)) <&&>
          some (decide (fdtHeaderSize ≤ reserveOffset)) <&&>
          some (decide (reserveOffset &&& 7 = 0)) <&&>
          leDifference ar reserveOffset totalSize 16 <&&>
          some (decide (fdtHeaderSize ≤ structOffset)) <&&>
          some (decide (structOffset ≤ totalSize)) <&&>
          leDifference ar structSize totalSize structOffset <&&>
          some (decide (fdtHeaderSize ≤ stringsOffset)) <&&>
          some (decide (stringsOffset ≤ totalSize)) <&&>
          leDifference ar stringsSize totalSize stringsOffset

/-! ### What the readers return -/

lemma getLe32_eq {p : Ptr} (h : p.off + 4 ≤ p.buf.size) : getLe32 p = some (p.buf.le p.off 4) := by
  have h0 := (p.buf.byte p.off).toNat_lt
  have h1 := (p.buf.byte (p.off + 1)).toNat_lt
  have h2 := (p.buf.byte (p.off + 2)).toNat_lt
  rw [getLe32, Ptr.get_eq (by omega), Ptr.get_eq (by omega), Ptr.get_eq (by omega),
    Ptr.get_eq (by omega)]
  simp only [Option.bind_eq_bind, Option.bind_some, Option.pure_def, Nat.add_zero]
  rw [or_shiftLeft_bytes (by omega) (by omega) (by omega)]
  simp [Buf.le_succ]

lemma getLe64_eq {p : Ptr} (h : p.off + 8 ≤ p.buf.size) : getLe64 p = some (p.buf.le p.off 8) :=
  p.foldlM_orShift 8 h

lemma getBe32_eq {p : Ptr} (h : p.off + 4 ≤ p.buf.size) : getBe32 p = some (p.buf.be p.off 4) := by
  have h1 := (p.buf.byte (p.off + 1)).toNat_lt
  have h2 := (p.buf.byte (p.off + 2)).toNat_lt
  have h3 := (p.buf.byte (p.off + 3)).toNat_lt
  rw [getBe32, Ptr.get_eq (by omega), Ptr.get_eq (by omega), Ptr.get_eq (by omega),
    Ptr.get_eq (by omega)]
  simp only [Option.bind_eq_bind, Option.bind_some, Option.pure_def, Nat.add_zero]
  -- the source writes the most significant byte first: turn the sum around
  rw [Nat.or_comm, Nat.or_comm (_ <<< 24 ||| _ <<< 16), Nat.or_comm (_ <<< 24), ← Nat.or_assoc,
    ← Nat.or_assoc, or_shiftLeft_bytes (by omega) (by omega) (by omega)]
  simp only [Buf.be, Buf.slice, List.map_cons, List.map_nil, List.reverse_cons, List.reverse_nil,
    List.nil_append, List.cons_append, Nat.ofDigits_cons, Nat.ofDigits_nil]
  norm_num [add_assoc]
  ring

lemma bytesEqualFrom_eq (p q : Ptr) (n i : ℕ) (hp : p.off + i + n ≤ p.buf.size)
    (hq : q.off + i + n ≤ q.buf.size) :
    bytesEqualFrom p q i n
      = some (decide (p.buf.slice (p.off + i) n = q.buf.slice (q.off + i) n)) := by
  induction n generalizing i with
  | zero => rfl
  | succ n ih =>
      rw [bytesEqualFrom, Ptr.get_eq (by omega), Ptr.get_eq (by omega), ih (i + 1) (by omega)
        (by omega)]
      simp only [Option.bind_eq_bind, Option.bind_some, Option.pure_def, Buf.slice, ← add_assoc]
      by_cases hb : p.buf.byte (p.off + i) = q.buf.byte (q.off + i)
      · simp [hb]
      · simp [hb]

/-- The comparison with a constant array decides whether the slice is that
array. -/
lemma bytesEqual_constant_eq {p : Ptr} {l : List UInt8} {n : ℕ} (h : p.off + n ≤ p.buf.size)
    (hl : l.length = n) (hs : (Buf.ofList l).slice 0 n = l) :
    bytesEqual p (constant l) n = some (decide (p.buf.slice p.off n = l)) := by
  rw [bytesEqual, bytesEqualFrom_eq p (constant l) n 0 (by omega) (by simp [constant,
    Buf.ofList, hl])]
  simp only [constant, Nat.add_zero, hs]

lemma uuidEqual_eq {p q : Ptr} (hp : p.off + 16 ≤ p.buf.size) (hq : q.off + 16 ≤ q.buf.size) :
    uuidEqual p q = some (decide (p.buf.slice p.off 16 = q.buf.slice q.off 16)) :=
  bytesEqualFrom_eq p q 16 0 (by omega) (by omega)

lemma wordIs_eq {p : Ptr} (h : p.off + 4 ≤ p.buf.size) (v : ℕ) :
    wordIs p v = some (decide (p.buf.le p.off 4 = v)) := by
  rw [wordIs, getLe32_eq h]
  rfl

/-! ### What the payload checks decide -/

/-- An SCP_BL2 payload of `n` bytes at `o`: word-aligned, at least 64 bytes, and
starting with the six words of the E902 reset sequence. -/
def ScpBl2Ok (b : Buf) (o n : ℕ) : Prop :=
  (4 ∣ o ∧ 64 ≤ n) ∧ b.le o 4 = 0x30047073 ∧ b.le (o + 4) 4 = 0x070902b7 ∧
    b.le (o + 8) 4 = 0x11c28293 ∧ b.le (o + 12) 4 = 0xe9020337 ∧
    b.le (o + 16) 4 = 0xa0230305 ∧ b.le (o + 20) 4 = 0x40810062

/-- A BL31 payload of `n` bytes at `o`: the monitor header with its branch,
magic and load address, followed by code whose first word is neither erased nor
blank. -/
def Bl31Ok (b : Buf) (o n : ℕ) : Prop :=
  0x1004 ≤ n ∧ b.le o 4 = 0xea0003fe ∧ b.slice (o + 4) 8 = monitorMagic ∧
    b.le (o + 0x2c) 4 = 0x48000000 ∧ b.le (o + 0x1000) 4 ≠ 0 ∧ b.le (o + 0x1000) 4 ≠ 0xffffffff

/-- A BL33 payload of `n` bytes at `o`: it starts with an ARM `B` whose target,
the signed 24-bit immediate counted in words from the instruction plus 8, is a
word of the payload. -/
def Bl33Ok (b : Buf) (o n : ℕ) : Prop :=
  64 ≤ n ∧ b.le o 4 / 2 ^ 24 = 0xea ∧
    0 ≤ 8 + (BitVec.ofNat 24 (b.le o 4)).toInt * 4 ∧
    8 + (BitVec.ofNat 24 (b.le o 4)).toInt * 4 + 4 ≤ n

/-- A HW_CONFIG payload of `n` bytes at `o`: a version 16 or 17 device tree blob
of exactly that size whose reserve map, structure block and strings block lie
behind the header and inside the blob. -/
def HwConfigOk (b : Buf) (o n : ℕ) : Prop :=
  40 ≤ n ∧ b.be o 4 = 0xd00dfeed ∧ b.be (o + 4) 4 = n ∧
    (16 ≤ b.be (o + 20) 4 ∧ b.be (o + 20) 4 ≤ 17 ∧ b.be (o + 24) 4 ≤ 17) ∧
    (40 ≤ b.be (o + 16) 4 ∧ 8 ∣ b.be (o + 16) 4 ∧ b.be (o + 16) 4 + 16 ≤ n) ∧
    (40 ≤ b.be (o + 8) 4 ∧ b.be (o + 8) 4 + b.be (o + 36) 4 ≤ n) ∧
    (40 ≤ b.be (o + 12) 4 ∧ b.be (o + 12) 4 + b.be (o + 32) 4 ≤ n)

instance (b : Buf) (o n : ℕ) : Decidable (ScpBl2Ok b o n) :=
  inferInstanceAs (Decidable (_ ∧ _))

instance (b : Buf) (o n : ℕ) : Decidable (Bl31Ok b o n) :=
  inferInstanceAs (Decidable (_ ∧ _))

instance (b : Buf) (o n : ℕ) : Decidable (Bl33Ok b o n) :=
  inferInstanceAs (Decidable (_ ∧ _))

instance (b : Buf) (o n : ℕ) : Decidable (HwConfigOk b o n) :=
  inferInstanceAs (Decidable (_ ∧ _))

lemma scpBl2IsValid_eq {b : Buf} {o n : ℕ} (h : o + n ≤ b.size) :
    scpBl2IsValid ⟨b, 0⟩ ⟨o, n⟩ = some (decide (ScpBl2Ok b o n)) := by
  have halign : o &&& (4 - 1) = o % 4 := Nat.and_two_pow_sub_one_eq_mod o 2
  rw [scpBl2IsValid]
  split
  next hbad =>
    have hno : ¬ScpBl2Ok b o n := by
      rintro ⟨⟨h4, hn⟩, -⟩
      simp only [halign, scpBl2MinSize] at hbad
      omega
    rw [decide_eq_false hno]
  next hgood =>
    have hfit : 4 ∣ o ∧ 64 ≤ n := by
      simp only [halign, scpBl2MinSize] at hgood
      omega
    have hword : ∀ k v, k + 4 ≤ 64 → wordIs (((⟨b, 0⟩ : Ptr).add o).add k) v
        = some (decide (b.le (o + k) 4 = v)) := by
      intro k v hk
      rw [wordIs_eq (by simp only [Ptr.add_off, Ptr.add_buf]; omega)]
      simp
    have key := andM_eq_decide (hword 0 scpBl2EntryInstruction (by omega)) fun _ =>
      andM_eq_decide (hword 4 scpBl2TraceAddrHi (by omega)) fun _ =>
      andM_eq_decide (hword 8 scpBl2TraceAddrLo (by omega)) fun _ =>
      andM_eq_decide (hword 12 scpBl2TraceValueHi (by omega)) fun _ =>
      andM_eq_decide (hword 16 scpBl2TraceStore (by omega)) fun _ =>
      hword 20 scpBl2EntryPrologue (by omega)
    refine key.trans (congrArg some (decide_eq_decide.mpr ?_))
    exact ⟨fun hw => ⟨hfit, hw⟩, fun hw => hw.2⟩

lemma bl31IsValid_eq {b : Buf} {o n : ℕ} (h : o + n ≤ b.size) :
    bl31IsValid ⟨b, 0⟩ ⟨o, n⟩ = some (decide (Bl31Ok b o n)) := by
  rw [bl31IsValid]
  split
  next hbad =>
    have hno : ¬Bl31Ok b o n := by
      rintro ⟨hn, -⟩
      simp only [bl31MinSize, bl31MonitorHeaderSize] at hbad
      omega
    rw [decide_eq_false hno]
  next hgood =>
    have hn : 0x1004 ≤ n := by
      simp only [bl31MinSize, bl31MonitorHeaderSize] at hgood
      omega
    have hat : ∀ k, k + 4 ≤ 0x1004 →
        (((⟨b, 0⟩ : Ptr).add o).add k).off + 4 ≤ (((⟨b, 0⟩ : Ptr).add o).add k).buf.size := by
      intro k hk
      simp only [Ptr.add_off, Ptr.add_buf]
      omega
    have hword : ∀ k v, k + 4 ≤ 0x1004 → wordIs (((⟨b, 0⟩ : Ptr).add o).add k) v
        = some (decide (b.le (o + k) 4 = v)) := by
      intro k v hk
      rw [wordIs_eq (hat k hk)]
      simp
    have hmagic : bytesEqual (((⟨b, 0⟩ : Ptr).add o).add 4) (constant monitorMagic) 8
        = some (decide (b.slice (o + 4) 8 = monitorMagic)) := by
      rw [bytesEqual_constant_eq (l := monitorMagic) (n := 8)
        (by simp only [Ptr.add_off, Ptr.add_buf]; omega) rfl rfl]
      simp
    have hcode := getLe32_eq (hat bl31MonitorHeaderSize (by decide))
    simp only [Ptr.add_off, Ptr.add_buf, Nat.zero_add] at hcode
    simp only [hcode, Option.bind_eq_bind, Option.bind_some]
    have key := andM_eq_decide (hword 0 bl31MonitorBranch (by omega)) fun _ =>
      andM_eq_decide hmagic fun _ =>
      andM_eq_decide (hword bl31MonitorLoadAddressOffset sunxiFipBl31Base (by decide)) fun _ =>
      andM_eq_decide (P := b.le (o + bl31MonitorHeaderSize) 4 ≠ 0) rfl fun _ =>
      (rfl : some (decide (b.le (o + bl31MonitorHeaderSize) 4 ≠ 0xffffffff)) = _)
    refine key.trans (congrArg some (decide_eq_decide.mpr ?_))
    exact ⟨fun hw => ⟨hn, hw⟩, fun hw => hw.2⟩

/-- The code masks the top byte of the instruction; the condition reads it off
by division. -/
lemma opcode_iff {v : ℕ} (hv : v < 2 ^ 32) :
    v &&& armBranchOpcodeMask = armBranchOpcode ↔ v / 2 ^ 24 = 0xea := by
  have hmask : v &&& armBranchOpcodeMask = v / 2 ^ 24 * 2 ^ 24 :=
    and_highMask (k := 24) (w := 32) (by omega) hv
  rw [hmask, armBranchOpcode]
  omega

/-- The sign extension by subtraction is the signed reading of the low 24
bits. -/
lemma branchTarget_eq (v : ℕ) :
    branchTarget v = 8 + (BitVec.ofNat 24 v).toInt * 4 := by
  have hlow : v &&& 0x00ffffff = v % 2 ^ 24 := Nat.and_two_pow_sub_one_eq_mod v 24
  have hsign : (v % 2 ^ 24) &&& 0x00800000 = if v % 2 ^ 24 < 2 ^ 23 then 0 else 2 ^ 23 := by
    have hand : (v % 2 ^ 24) &&& 2 ^ 23 = ((v % 2 ^ 24).testBit 23).toNat * 2 ^ 23 :=
      Nat.and_two_pow _ 23
    rw [show (0x00800000 : ℕ) = 2 ^ 23 by norm_num, hand, Nat.testBit_eq_decide_div_mod_eq]
    split <;> rename_i h
    · rw [Nat.div_eq_of_lt h]; rfl
    · have hd : v % 2 ^ 24 / 2 ^ 23 = 1 := by omega
      rw [hd]; rfl
  simp only [branchTarget, hlow, hsign]
  rw [BitVec.toInt_eq_toNat_cond, BitVec.toNat_ofNat]
  by_cases h : v % 2 ^ 24 < 2 ^ 23
  · rw [if_neg (by rw [if_pos h]; decide), if_pos (by omega)]
  · rw [if_pos (by rw [if_neg h]; decide), if_neg (by omega)]
    norm_num

lemma bl33IsValid_eq {b : Buf} {o n : ℕ} (h : o + n ≤ b.size) :
    bl33IsValid ⟨b, 0⟩ ⟨o, n⟩ = some (decide (Bl33Ok b o n)) := by
  rw [bl33IsValid]
  split
  next hbad =>
    have hno : ¬Bl33Ok b o n := by
      rintro ⟨hn, -⟩
      simp only [bl33MinSize] at hbad
      omega
    rw [decide_eq_false hno]
  next hgood =>
    have hn : 64 ≤ n := by
      simp only [bl33MinSize] at hgood
      omega
    have hword : getLe32 ((⟨b, 0⟩ : Ptr).add o) = some (b.le o 4) := by
      rw [getLe32_eq (by simp only [Ptr.add_off, Ptr.add_buf]; omega)]
      simp
    have hop := opcode_iff (b.le_lt o 4)
    simp only [hword, Option.bind_eq_bind, Option.bind_some, Option.pure_def, branchTarget_eq]
    split
    next hb =>
      have hno : ¬Bl33Ok b o n := fun hok => hb (hop.mpr hok.2.1)
      rw [decide_eq_false hno]
    next hb =>
      refine congrArg some (decide_eq_decide.mpr ⟨fun ht => ?_, fun hok => ?_⟩)
      · exact ⟨hn, hop.mp (not_not.mp hb), ht.1, by omega⟩
      · obtain ⟨-, -, h0, h4⟩ := hok
        exact ⟨h0, by omega⟩

lemma leDifference_eq (ar : Arith) (bound : ℕ) {minuend subtrahend : ℕ}
    (h : subtrahend ≤ minuend) :
    leDifference ar bound minuend subtrahend
      = some (decide (bound + subtrahend ≤ minuend)) := by
  rw [leDifference, ar.sub_eq h]
  exact congrArg some (decide_eq_decide.mpr (by omega))

/-- Each difference of the header check is taken only where the preceding
comparison has shown it not to underflow, so the check decides the condition
whatever becomes of an underflow. -/
lemma hwConfigIsValid_eq (ar : Arith) {b : Buf} {o n : ℕ} (h : o + n ≤ b.size) :
    hwConfigIsValid ar (some ((⟨b, 0⟩ : Ptr).add o)) n = some (decide (HwConfigOk b o n)) := by
  rw [hwConfigIsValid]
  split
  next hbad =>
    have hno : ¬HwConfigOk b o n := fun hok => absurd hok.1 (by simpa [fdtHeaderSize] using hbad)
    rw [decide_eq_false hno]
  next hgood =>
    have hn : 40 ≤ n := by simpa [fdtHeaderSize] using hgood
    have hfield : ∀ k, k + 4 ≤ 40 →
        getBe32 (((⟨b, 0⟩ : Ptr).add o).add k) = some (b.be (o + k) 4) := by
      intro k hk
      rw [getBe32_eq (by simp only [Ptr.add_off, Ptr.add_buf]; omega)]
      simp
    have hmagic := hfield 0 (by omega)
    rw [show ((⟨b, 0⟩ : Ptr).add o).add 0 = (⟨b, 0⟩ : Ptr).add o from rfl, Nat.add_zero] at hmagic
    simp only [hmagic, hfield 4 (by omega), hfield 8 (by omega), hfield 12 (by omega),
      hfield 16 (by omega), hfield 20 (by omega), hfield 24 (by omega), hfield 32 (by omega),
      hfield 36 (by omega), Option.bind_eq_bind, Option.bind_some, Option.pure_def]
    split
    next hm =>
      have hno : ¬HwConfigOk b o n := fun hok => hm hok.2.1
      rw [decide_eq_false hno]
    next hm =>
      have key := andM_eq_decide (P := b.be (o + 4) 4 = n) rfl fun _ =>
        andM_eq_decide (P := fdtHeaderSize ≤ b.be (o + 4) 4) rfl fun htotal =>
        andM_eq_decide (P := fdtFirstSupportedVersion ≤ b.be (o + 20) 4) rfl fun _ =>
        andM_eq_decide (P := b.be (o + 20) 4 ≤ fdtLastSupportedVersion) rfl fun _ =>
        andM_eq_decide (P := b.be (o + 24) 4 ≤ fdtLastSupportedVersion) rfl fun _ =>
        andM_eq_decide (P := fdtHeaderSize ≤ b.be (o + 16) 4) rfl fun _ =>
        andM_eq_decide (P := b.be (o + 16) 4 &&& 7 = 0) rfl fun _ =>
        andM_eq_decide (leDifference_eq ar (b.be (o + 16) 4)
          (le_trans (show 16 ≤ fdtHeaderSize by decide) htotal)) fun _ =>
        andM_eq_decide (P := fdtHeaderSize ≤ b.be (o + 8) 4) rfl fun _ =>
        andM_eq_decide (P := b.be (o + 8) 4 ≤ b.be (o + 4) 4) rfl fun hstruct =>
        andM_eq_decide (leDifference_eq ar (b.be (o + 36) 4) hstruct) fun _ =>
        andM_eq_decide (P := fdtHeaderSize ≤ b.be (o + 12) 4) rfl fun _ =>
        andM_eq_decide (P := b.be (o + 12) 4 ≤ b.be (o + 4) 4) rfl fun hstrings =>
        leDifference_eq ar (b.be (o + 32) 4) hstrings
      refine key.trans (congrArg some (decide_eq_decide.mpr ?_))
      have halign : b.be (o + 16) 4 &&& 7 = b.be (o + 16) 4 % 8 :=
        Nat.and_two_pow_sub_one_eq_mod _ 3
      have hmag : b.be o 4 = 0xd00dfeed := not_not.mp hm
      simp only [halign, fdtHeaderSize, fdtFirstSupportedVersion, fdtLastSupportedVersion,
        HwConfigOk, hmag, true_and]
      omega

/-- A package is loadable when the four sizes fit their windows and the three
required payloads pass their checks. -/
def Loadable (b : Buf) (l : Layout) : Prop :=
  l.bl31.size ≤ sunxiFipBl31MaxSize ∧ l.bl33.size ≤ sunxiFipBl33MaxSize ∧
    l.scpBl2.size ≤ sunxiFipScpBl2MaxSize ∧ l.hwConfig.size ≤ sunxiFipHwConfigMaxSize ∧
    ScpBl2Ok b l.scpBl2.offset l.scpBl2.size ∧ Bl31Ok b l.bl31.offset l.bl31.size ∧
    Bl33Ok b l.bl33.offset l.bl33.size

instance (b : Buf) (l : Layout) : Decidable (Loadable b l) :=
  inferInstanceAs (Decidable (_ ∧ _))

lemma layoutIsLoadable_eq {b : Buf} {l : Layout} (hs : l.scpBl2.offset + l.scpBl2.size ≤ b.size)
    (h1 : l.bl31.offset + l.bl31.size ≤ b.size) (h3 : l.bl33.offset + l.bl33.size ≤ b.size) :
    layoutIsLoadable ⟨b, 0⟩ l = some (decide (Loadable b l)) :=
  andM_eq_decide rfl fun _ => andM_eq_decide rfl fun _ => andM_eq_decide rfl fun _ =>
    andM_eq_decide rfl fun _ => andM_eq_decide (scpBl2IsValid_eq hs) fun _ =>
    andM_eq_decide (bl31IsValid_eq h1) fun _ => bl33IsValid_eq h3

/-! ### The checks over a larger buffer -/

section Ext

variable {p q p' q' : Ptr}

lemma getLe32_ext (h : p.Ext q) : Below (getLe32 p) (getLe32 q) :=
  (h.get 0).bind fun _ => (h.get 1).bind fun _ => (h.get 2).bind fun _ =>
    (h.get 3).bind fun _ => Below.refl _

lemma getLe64_ext (h : p.Ext q) : Below (getLe64 p) (getLe64 q) :=
  Below.foldlM (fun _ i => (h.get i).bind fun _ => Below.refl _) 0

lemma getBe32_ext (h : p.Ext q) : Below (getBe32 p) (getBe32 q) :=
  (h.get 0).bind fun _ => (h.get 1).bind fun _ => (h.get 2).bind fun _ =>
    (h.get 3).bind fun _ => Below.refl _

lemma bytesEqual_ext (h : p.Ext q) (h' : p'.Ext q') (n : ℕ) :
    Below (bytesEqual p p' n) (bytesEqual q q' n) := by
  have key : ∀ n i, Below (bytesEqualFrom p p' i n) (bytesEqualFrom q q' i n) := by
    intro n
    induction n with
    | zero => exact fun _ => Below.refl _
    | succ n ih =>
        intro i
        exact (h.get i).bind fun _ => (h'.get i).bind fun _ => (Below.refl _).ite (ih (i + 1))
  exact key n 0

lemma uuidIsNull_ext (h : p.Ext q) : Below (uuidIsNull p) (uuidIsNull q) :=
  bytesEqual_ext h (Ptr.Ext.refl _) 16

lemma wordIs_ext (h : p.Ext q) (v : ℕ) : Below (wordIs p v) (wordIs q v) :=
  (getLe32_ext h).bind fun _ => Below.refl _

lemma scpBl2IsValid_ext (h : p.Ext q) (image : Image) :
    Below (scpBl2IsValid p image) (scpBl2IsValid q image) := by
  have he := h.add image.offset
  exact (Below.refl _).ite ((wordIs_ext he _).andM ((wordIs_ext (he.add 4) _).andM
    ((wordIs_ext (he.add 8) _).andM ((wordIs_ext (he.add 12) _).andM
    ((wordIs_ext (he.add 16) _).andM (wordIs_ext (he.add 20) _))))))

lemma bl31IsValid_ext (h : p.Ext q) (image : Image) :
    Below (bl31IsValid p image) (bl31IsValid q image) := by
  have hm := h.add image.offset
  refine (Below.refl _).ite ((getLe32_ext (hm.add _)).bind fun _ => ?_)
  exact (wordIs_ext hm _).andM ((bytesEqual_ext (hm.add 4) (Ptr.Ext.refl _) 8).andM
    ((wordIs_ext (hm.add _) _).andM (Below.refl _)))

lemma bl33IsValid_ext (h : p.Ext q) (image : Image) :
    Below (bl33IsValid p image) (bl33IsValid q image) :=
  (Below.refl _).ite ((getLe32_ext (h.add image.offset)).bind fun _ => Below.refl _)

lemma layoutIsLoadable_ext (h : p.Ext q) (l : Layout) :
    Below (layoutIsLoadable p l) (layoutIsLoadable q l) :=
  (Below.refl _).andM ((Below.refl _).andM ((Below.refl _).andM ((Below.refl _).andM
    ((scpBl2IsValid_ext h _).andM ((bl31IsValid_ext h _).andM (bl33IsValid_ext h _))))))

lemma hwConfigIsValid_ext (ar : Arith) (h : p.Ext q) (n : ℕ) :
    Below (hwConfigIsValid ar (some p) n) (hwConfigIsValid ar (some q) n) := by
  refine (Below.refl _).ite ((getBe32_ext h).bind fun _ => (Below.refl _).ite ?_)
  exact (getBe32_ext (h.add _)).bind fun _ => (getBe32_ext (h.add _)).bind fun _ =>
    (getBe32_ext (h.add _)).bind fun _ => (getBe32_ext (h.add _)).bind fun _ =>
    (getBe32_ext (h.add _)).bind fun _ => (getBe32_ext (h.add _)).bind fun _ =>
    (getBe32_ext (h.add _)).bind fun _ => (getBe32_ext (h.add _)).bind fun _ => Below.refl _

end Ext

end A733Boot.Fip
