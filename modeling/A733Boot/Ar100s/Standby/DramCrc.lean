/-
The check of the DRAM over a standby: `ar100s/service/standby/standby_dram_crc.c`, and
`dram_suspend` and `dram_resume` of
`ar100s/service/standby/standby-sun60iw2p1/plat_standby.c` as far as they compute it.

* `standbySetDramCrcParas_refused`: a request that is refused changes nothing;
* `dramCheck_same`: the check passes on the contents it was taken on.
-/
import A733Boot.Ar100s.Error
import A733Boot.Library.Words

namespace A733Boot.Ar100s.Standby

/-! ### The code -/

def dramCrcMaxLen : ℕ := 16 * 1024 * 1024

/-- The static variables of the check. -/
structure DramCrc where
  enable : UInt32
  src : UInt32
  len : UInt32
  before : UInt32
  after : UInt32

def DramCrc.init : DramCrc := ⟨0, 0x40000000, 1024 * 1024, 0, 0⟩

/-- `ARISC_DRAM_BASE` and `ARISC_DRAM_END` bound the range. -/
def standbySetDramCrcParas (enable src len : UInt32) (c : DramCrc) : ℤ × DramCrc :=
  if 1 < enable then (-eInval, c)
  else if enable = 0 then (0, { c with enable := 0 })
  else if src &&& 3 ≠ 0 ∨ len &&& 3 ≠ 0 ∨ len = 0 ∨ dramCrcMaxLen < len.toNat ∨ src < 0x40000000 ∨
      0x80000000 ≤ src ∨ 0x80000000 - src < len then (-eInval, c)
  else (0, { c with enable := enable, src := src, len := len })

/-- One bit of the data goes into the checksum. -/
def crcBit (crc value : UInt32) : UInt32 :=
  crc >>> 1 ^^^ (0xedb88320 &&& (0 - ((crc ^^^ value) &&& 1)))

/-- The loop over the bits of a word, with `n` to go. -/
def crcWord : ℕ → UInt32 → UInt32 → UInt32
  | 0, crc, _ => crc
  | n + 1, crc, value => crcWord n (crcBit crc value) (value >>> 1)

/-- The loop over the words from `pdata` on, with `n` to go. -/
def crcWords (dram : ℕ → UInt32) : ℕ → ℕ → UInt32 → UInt32
  | 0, _, crc => crc
  | n + 1, pdata, crc => crcWords dram n (pdata + 4) (crcWord 32 crc (dram pdata))

/-- The contents of the DRAM are given by the words that its addresses show. -/
def standbyDramCrc (dram : ℕ → UInt32) (c : DramCrc) : UInt32 :=
  ~~~(crcWords dram (((c.src + c.len).toNat - c.src.toNat + 3) / 4) c.src.toNat 0xffffffff)

/-- `dram_suspend`, before the DRAM is put to sleep. -/
def dramCheckBefore (dram : ℕ → UInt32) (c : DramCrc) : DramCrc :=
  if c.enable ≠ 0 then { c with before := standbyDramCrc dram c } else c

/-- `dram_resume`, after the DRAM is awake. -/
def dramCheckAfter (dram : ℕ → UInt32) (c : DramCrc) : ℤ × DramCrc :=
  if c.enable ≠ 0 then
    let c := { c with after := standbyDramCrc dram c }
    (if c.after ≠ c.before then -eFail else 0, c)
  else (0, c)

/-! ### The check -/

/-- A request that is refused changes nothing. -/
lemma standbySetDramCrcParas_refused {enable src len : UInt32} {c : DramCrc}
    (h : (standbySetDramCrcParas enable src len c).1 ≠ 0) :
    (standbySetDramCrcParas enable src len c).2 = c := by
  rw [standbySetDramCrcParas] at h ⊢
  split_ifs at h ⊢
  · rfl
  · exact absurd rfl h
  · rfl
  · exact absurd rfl h

/-- The check passes on the contents it was taken on. -/
lemma dramCheck_same (dram : ℕ → UInt32) (c : DramCrc) :
    (dramCheckAfter dram (dramCheckBefore dram c)).1 = 0 := by
  by_cases h : c.enable ≠ 0
  · simp only [dramCheckAfter, dramCheckBefore, if_pos h, standbyDramCrc, ne_eq,
      not_true_eq_false, if_false]
  · simp only [dramCheckAfter, dramCheckBefore, if_neg h]

end A733Boot.Ar100s.Standby
