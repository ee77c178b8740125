/-
Staging the AR100S image: the clear loop, the word copy, the byte tail and the cache clean of
`fip_handoff_start` in `arch/armv7/fip_handoff.S`.

* `fipHandoffStage`: the instructions from the clear of SCP SRAM to the end of the clean;
* `Staged`: the first `k` bytes of SCP SRAM have been replaced, and what was accessed on the
  way; `Staged.word`, `Staged.byte`: what a store at the end of them does;
* `clear_loop`, `word_loop`, `byte_loop`, `clean_loop`: what each loop does;
* `fipHandoffStage_scpStaged` (**staging**): the loops end, SCP SRAM holds the image followed
  by zeros, and every line of it has been cleaned.
-/
import A733Boot.Boot.LoadImages
import A733Boot.Library.Arm

namespace A733Boot.Boot

open Reg

/-! ### The program -/

/-- `SCP_SRAM_BASE`. -/
def scpSramBase : ℕ := 0x44000

/-- `fip_handoff_start` from `ldr r3, =SCP_SRAM_BASE` of the clear to `blo 6b`: `r6` is the
address of the image and `r7` its size. -/
def fipHandoffStage (fuel : ℕ) (s : Arm) : Option Arm := do
  -- word clear
  let s := block [.ldrLiteral r3 (.ofNat 32 scpSramBase), .movs r4 0,
    .ldrLiteral r5 (.ofNat 32 scpSramSize)] s
  let s ← doWhile (block [.strPost r4 r3 4, .subs r5 r5 4]) Arm.ne fuel s
  -- word copy
  let s := block [.ldrLiteral r3 (.ofNat 32 scpSramBase), .mov r5 r7, .lsrs r5 r5 2] s
  let s ← beqOver
    (doWhile (block [.ldrPost r4 r6 4, .strPost r4 r3 4, .subs r5 r5 1]) Arm.ne fuel) s
  -- the remaining bytes
  let s := block [.ands r7 r7 3] s
  let s ← beqOver
    (doWhile (block [.ldrbPost r4 r6 1, .strbPost r4 r3 1, .subs r7 r7 1]) Arm.ne fuel) s
  -- cache clean
  let s := block [.ldrLiteral r3 (.ofNat 32 scpSramBase),
    .ldrLiteral r5 (.ofNat 32 scpSramSize), .add r5 r3 r5, .bic r3 r3 31] s
  doWhile (block [.dccmvac r3, .addImm r3 r3 32, .cmp r3 r5]) Arm.lo fuel s

/-! ### Offsets in SCP SRAM -/

/-- The address lies in SCP SRAM. -/
def InScpSram (x : BitVec 32) : Prop :=
  scpSramBase ≤ x.toNat ∧ x.toNat < scpSramBase + scpSramSize

/-- The distance of an address from the start of SCP SRAM. -/
def sramOffset (x : BitVec 32) : ℕ := (x - .ofNat 32 scpSramBase).toNat

/-- The byte of SCP SRAM at a distance. -/
def sramByte (k : ℕ) : BitVec 32 := .ofNat 32 (scpSramBase + k)

lemma scpSram_eq : scpSramBase = 0x44000 ∧ scpSramSize = 0x28000 := ⟨rfl, rfl⟩

section Offsets

variable (x : BitVec 32) {k : ℕ}

lemma sramOffset_eq : sramOffset x = (2 ^ 32 - 0x44000 + x.toNat) % 2 ^ 32 := by
  rw [sramOffset, BitVec.toNat_sub]
  rfl

lemma inScpSram_iff : InScpSram x ↔ sramOffset x < scpSramSize := by
  have hx := x.isLt
  obtain ⟨hbase, hsize⟩ := scpSram_eq
  rw [sramOffset_eq, InScpSram]
  omega

lemma sramByte_toNat (hk : k < scpSramSize) : (sramByte k).toNat = 0x44000 + k := by
  obtain ⟨hbase, hsize⟩ := scpSram_eq
  rw [sramByte, BitVec.toNat_ofNat, hbase]
  omega

lemma sramOffset_sramByte (hk : k < scpSramSize) : sramOffset (sramByte k) = k := by
  obtain ⟨-, hsize⟩ := scpSram_eq
  rw [sramOffset_eq, sramByte_toNat hk]
  omega

lemma sramByte_add (i j : ℕ) : sramByte i + BitVec.ofNat 32 j = sramByte (i + j) := by
  rw [sramByte, sramByte, ← BitVec.ofNat_add, Nat.add_assoc]

lemma ofNat_add_ofNat (i j : ℕ) :
    x + BitVec.ofNat 32 i + BitVec.ofNat 32 j = x + BitVec.ofNat 32 (i + j) := by
  rw [BitVec.add_assoc, BitVec.ofNat_add]

/-- A byte and the byte of the image it is a copy of are at the same distance. -/
lemma source_of_sub (src : BitVec 32) :
    src + BitVec.ofNat 32 k + (x - sramByte k) = src + BitVec.ofNat 32 (sramOffset x) := by
  rw [sramOffset, BitVec.ofNat_toNat, BitVec.setWidth_eq, sramByte, BitVec.ofNat_add]
  ring

/-- The distance of an address from a byte of SCP SRAM. -/
lemma sub_sramByte_toNat (hk : k < scpSramSize) :
    (x - sramByte k).toNat = (2 ^ 32 - k + sramOffset x) % 2 ^ 32 := by
  have hx := x.isLt
  obtain ⟨-, hsize⟩ := scpSram_eq
  rw [BitVec.toNat_sub, sramByte_toNat hk, sramOffset_eq]
  omega

end Offsets

/-- What is left of a count. -/
lemma ofNat_sub_ofNat {a b : ℕ} (h : b ≤ a) :
    BitVec.ofNat 32 a - BitVec.ofNat 32 b = BitVec.ofNat 32 (a - b) := by
  obtain ⟨c, rfl⟩ := Nat.exists_eq_add_of_le h
  rw [Nat.add_sub_cancel_left, BitVec.ofNat_add, BitVec.add_comm, BitVec.add_sub_cancel]

/-- A count is down to zero. -/
lemma ofNat_beq_zero {a : ℕ} (h : a < 2 ^ 32) :
    (BitVec.ofNat 32 a == 0) = true ↔ a = 0 := by
  rw [beq_iff_eq, ← BitVec.toNat_inj, BitVec.toNat_ofNat, Nat.mod_eq_of_lt h]
  rfl

/-- A countdown goes on while there is something left. -/
lemma ofNat_goesOn_iff {a : ℕ} (h : a < 2 ^ 32) :
    (!(BitVec.ofNat 32 a == 0)) = true ↔ 0 < a := by
  rw [Bool.not_eq_true', ← Bool.not_eq_true, ofNat_beq_zero h]
  exact Nat.pos_iff_ne_zero.symm

/-- A count goes down by `b`, and whether that was the last round. -/
lemma countdown {x : BitVec 32} {a b c : ℕ} (hx : x = .ofNat 32 a) (hc : c + b = a)
    (ha : a < 2 ^ 32) :
    x - .ofNat 32 b = .ofNat 32 c ∧ ((!(x - .ofNat 32 b == 0)) = true ↔ 0 < c) := by
  have hleft : x - .ofNat 32 b = .ofNat 32 c := by
    rw [hx, ofNat_sub_ofNat (by omega), ← hc, Nat.add_sub_cancel]
  refine ⟨hleft, ?_⟩
  rw [hleft]
  exact ofNat_goesOn_iff (by omega)

/-! ### The first bytes of SCP SRAM -/

/-- The first `k` bytes of SCP SRAM are those of `image` and all others those of `m`; only
SCP SRAM was written, and only the `n` bytes at `src` were read. -/
structure Staged (m : Memory) (image : ℕ → UInt8) (src : BitVec 32) (n k : ℕ) (s : Arm) :
    Prop where
  mem : ∀ x, s.mem x = if sramOffset x < k then image (sramOffset x) else m x
  writes : ∀ a ∈ s.writes, InScpSram a
  reads : ∀ a ∈ s.reads, ∃ j < n, a = src + BitVec.ofNat 32 j
  aligned : s.aligned = true

namespace Staged

variable {m : Memory} {image : ℕ → UInt8} {src : BitVec 32} {n k : ℕ} {s s' : Arm}

/-- What the instructions that only compute leave alone. -/
lemma of_same (h : Staged m image src n k s) (hm : s'.mem = s.mem) (hw : s'.writes = s.writes)
    (hr : s'.reads = s.reads) (ha : s'.aligned = s.aligned) : Staged m image src n k s' :=
  ⟨hm ▸ h.mem, hw ▸ h.writes, hr ▸ h.reads, ha.trans h.aligned⟩

/-- Some bytes are stored right after the first `k`. -/
lemma grow (h : Staged m image src n k s) {w : ℕ} (hw0 : 0 < w) (hk : k + w ≤ scpSramSize)
    (hm : ∀ x, s'.mem x = if (x - sramByte k).toNat < w then image (sramOffset x) else s.mem x)
    (hw : ∀ a ∈ s'.writes, a ∈ s.writes ∨ ∃ j < w, a = sramByte (k + j))
    (hr : ∀ a ∈ s'.reads, a ∈ s.reads ∨ ∃ j < n, a = src + BitVec.ofNat 32 j)
    (ha : s'.aligned = true) : Staged m image src n (k + w) s' where
  mem x := by
    obtain ⟨-, hsize⟩ := scpSram_eq
    have hlt : sramOffset x < 2 ^ 32 := BitVec.isLt _
    rw [hm, sub_sramByte_toNat x (by omega), h.mem]
    by_cases hold : sramOffset x < k
    · rw [if_pos hold, if_pos (show sramOffset x < k + w by omega), ite_self]
    · rw [if_neg hold]
      by_cases hnew : sramOffset x < k + w
      · rw [if_pos (by omega), if_pos hnew]
      · rw [if_neg (by omega), if_neg hnew]
  writes a hmem := by
    obtain hold | ⟨j, hj, rfl⟩ := hw a hmem
    · exact h.writes a hold
    · rw [inScpSram_iff, sramOffset_sramByte (by omega)]
      omega
  reads a hmem := (hr a hmem).elim (h.reads a) id
  aligned := ha

end Staged

/-- The addresses of a word are the four from its first. -/
lemma mem_wordAddresses {a b : BitVec 32} (h : b ∈ wordAddresses a) :
    ∃ j < 4, b = a + BitVec.ofNat 32 j := by
  simp only [wordAddresses, List.mem_cons, List.not_mem_nil, or_false] at h
  obtain rfl | rfl | rfl | rfl := h
  · exact ⟨0, by decide, (BitVec.add_zero _).symm⟩
  · exact ⟨1, by decide, rfl⟩
  · exact ⟨2, by decide, rfl⟩
  · exact ⟨3, by decide, rfl⟩

/-! ### The loops -/

section Loops

variable {m : Memory} {image : ℕ → UInt8} {src : BitVec 32} {n fuel : ℕ} {s t : Arm}

/-- A word of SCP SRAM is stored at its next address. -/
lemma mem_wordAddresses_sramByte {k : ℕ} {a : BitVec 32} (h : a ∈ wordAddresses (sramByte k)) :
    ∃ j < 4, a = sramByte (k + j) := by
  obtain ⟨j, hj, rfl⟩ := mem_wordAddresses h
  exact ⟨j, hj, sramByte_add k j⟩

/-- A round of the clear loop. -/
lemma clear_round {i : ℕ} (hi : i < 0xa000) (h3 : t.reg r3 = sramByte (4 * i))
    (h4 : t.reg r4 = 0) (h5 : t.reg r5 = .ofNat 32 (4 * (0xa000 - i)))
    (h : Staged m (fun _ => 0) src n (4 * i) t) {t' : Arm}
    (ht' : block [.strPost r4 r3 4, .subs r5 r5 4] t = t') :
    t'.reg r3 = sramByte (4 * (i + 1)) ∧ t'.reg r4 = 0 ∧
      t'.reg r5 = .ofNat 32 (4 * (0xa000 - (i + 1))) ∧
      t'.reg r6 = t.reg r6 ∧ t'.reg r7 = t.reg r7 ∧
      Staged m (fun _ => 0) src n (4 * (i + 1)) t' ∧ (t'.ne = true ↔ i + 1 < 0xa000) := by
  obtain ⟨-, hsize⟩ := scpSram_eq
  obtain ⟨hleft, hne⟩ := countdown (b := 4) (c := 4 * (0xa000 - (i + 1))) h5 (by omega) (by omega)
  subst ht'
  refine ⟨?_, h4, hleft, rfl, rfl, ?_, hne.trans (by omega)⟩
  · change t.reg r3 + 4 = _
    rw [h3]
    exact sramByte_add (4 * i) 4
  · refine h.grow (by decide : 0 < 4) (by omega) (fun x => ?_) (fun a ha => ?_)
      (fun a ha => .inl ha) ?_
    · change store32 t.mem (t.reg r3) (t.reg r4) x = _
      rw [h3, h4, store32_zero]
    · change a ∈ t.writes ++ wordAddresses (t.reg r3) at ha
      rw [h3, List.mem_append] at ha
      exact ha.imp_right mem_wordAddresses_sramByte
    · change (t.aligned && (t.reg r3).toNat % 4 == 0) = true
      rw [h.aligned, h3, sramByte_toNat (by omega), Bool.true_and, beq_iff_eq]
      omega

/-- The image is where it was, and SCP SRAM is zero. -/
lemma clear_loop (hfuel : 0xa000 ≤ fuel) (h3 : s.reg r3 = sramByte 0) (h4 : s.reg r4 = 0)
    (h5 : s.reg r5 = .ofNat 32 scpSramSize) (hs : Staged m (fun _ => 0) src n 0 s) :
    ∃ s', doWhile (block [.strPost r4 r3 4, .subs r5 r5 4]) Arm.ne fuel s = some s' ∧
      s'.reg r6 = s.reg r6 ∧ s'.reg r7 = s.reg r7 ∧
      Staged m (fun _ => 0) src n scpSramSize s' := by
  obtain ⟨s', hrun, -, -, -, h6, h7, hs'⟩ := doWhile_counted
    (fun i t => t.reg r3 = sramByte (4 * i) ∧ t.reg r4 = 0 ∧
      t.reg r5 = .ofNat 32 (4 * (0xa000 - i)) ∧ t.reg r6 = s.reg r6 ∧ t.reg r7 = s.reg r7 ∧
      Staged m (fun _ => 0) src n (4 * i) t)
    (by decide) hfuel
    (fun i hi t ⟨ht3, ht4, ht5, ht6, ht7, ht⟩ => by
      obtain ⟨g3, g4, g5, g6, g7, hst, hne⟩ := clear_round hi ht3 ht4 ht5 ht rfl
      exact ⟨⟨g3, g4, g5, g6.trans ht6, g7.trans ht7, hst⟩, hne⟩)
    ⟨h3, h4, h5, rfl, rfl, hs⟩
  exact ⟨s', hrun, h6, h7, hs'⟩

/-- The bytes of the image are the same as before the staging. -/
lemma Staged.mem_source (hn : n ≤ scpSramSize)
    (hout : ∀ j < n, ¬ InScpSram (src + BitVec.ofNat 32 j)) {k : ℕ} (hk : k ≤ n)
    (h : Staged m image src n k t) {j : ℕ} (hj : j < n) :
    t.mem (src + BitVec.ofNat 32 j) = m (src + BitVec.ofNat 32 j) := by
  have hoff := hout j hj
  rw [inScpSram_iff] at hoff
  rw [h.mem, if_neg (by omega)]

/-- A word that is copied to the end of the first `k` bytes is the next one of the image. -/
lemma Staged.store32_next (hn : n ≤ scpSramSize)
    (hout : ∀ j < n, ¬ InScpSram (src + BitVec.ofNat 32 j)) {k : ℕ} (hk : k + 4 ≤ n)
    (h : Staged m image src n k t) (x : BitVec 32) :
    store32 t.mem (sramByte k) (load32 t.mem (src + BitVec.ofNat 32 k)) x =
      if (x - sramByte k).toNat < 4 then m (src + BitVec.ofNat 32 (sramOffset x))
      else t.mem x := by
  obtain ⟨-, hsize⟩ := scpSram_eq
  rw [store32_load32]
  by_cases hx : (x - sramByte k).toNat < 4
  · have hoff : sramOffset x < n := by
      have hlt : sramOffset x < 2 ^ 32 := BitVec.isLt _
      rw [sub_sramByte_toNat x (by omega)] at hx
      omega
    rw [if_pos hx, if_pos hx, source_of_sub, h.mem_source hn hout (by omega) hoff]
  · rw [if_neg hx, if_neg hx]

/-- A round of the word copy. -/
lemma word_round (hn : n ≤ scpSramSize) (hsrc : src.toNat % 4 = 0)
    (hout : ∀ j < n, ¬ InScpSram (src + BitVec.ofNat 32 j)) {i : ℕ} (hi : i < n / 4)
    (h3 : t.reg r3 = sramByte (4 * i)) (h5 : t.reg r5 = .ofNat 32 (n / 4 - i))
    (h6 : t.reg r6 = src + BitVec.ofNat 32 (4 * i))
    (h : Staged m (fun j => m (src + BitVec.ofNat 32 j)) src n (4 * i) t) {t' : Arm}
    (ht' : block [.ldrPost r4 r6 4, .strPost r4 r3 4, .subs r5 r5 1] t = t') :
    t'.reg r3 = sramByte (4 * (i + 1)) ∧ t'.reg r5 = .ofNat 32 (n / 4 - (i + 1)) ∧
      t'.reg r6 = src + BitVec.ofNat 32 (4 * (i + 1)) ∧ t'.reg r7 = t.reg r7 ∧
      Staged m (fun j => m (src + BitVec.ofNat 32 j)) src n (4 * (i + 1)) t' ∧
      (t'.ne = true ↔ i + 1 < n / 4) := by
  obtain ⟨-, hsize⟩ := scpSram_eq
  obtain ⟨hleft, hne⟩ := countdown (b := 1) (c := n / 4 - (i + 1)) h5 (by omega) (by omega)
  subst ht'
  refine ⟨?_, hleft, ?_, rfl, ?_, hne.trans (by omega)⟩
  · change t.reg r3 + 4 = _
    rw [h3]
    exact sramByte_add (4 * i) 4
  · change t.reg r6 + 4 = _
    rw [h6]
    exact ofNat_add_ofNat src (4 * i) 4
  · refine h.grow (by decide : 0 < 4) (by omega) (fun x => ?_) (fun a ha => ?_)
      (fun a ha => ?_) ?_
    · change store32 t.mem (t.reg r3) (load32 t.mem (t.reg r6)) x = _
      rw [h3, h6]
      exact h.store32_next hn hout (by omega) x
    · change a ∈ t.writes ++ wordAddresses (t.reg r3) at ha
      rw [h3, List.mem_append] at ha
      exact ha.imp_right mem_wordAddresses_sramByte
    · change a ∈ t.reads ++ wordAddresses (t.reg r6) at ha
      rw [h6, List.mem_append] at ha
      refine ha.imp_right fun ha => ?_
      obtain ⟨j, hj, rfl⟩ := mem_wordAddresses ha
      exact ⟨4 * i + j, by omega, ofNat_add_ofNat src (4 * i) j⟩
    · change (t.aligned && (t.reg r6).toNat % 4 == 0 && (t.reg r3).toNat % 4 == 0) = true
      have h6' : (t.reg r6).toNat % 4 = 0 := by
        rw [h6, BitVec.toNat_add, BitVec.toNat_ofNat]
        omega
      rw [h.aligned, h3, h6', sramByte_toNat (by omega), Bool.true_and]
      simp

/-- The word copy. -/
lemma word_loop (hn : n ≤ scpSramSize) (hsrc : src.toNat % 4 = 0)
    (hout : ∀ j < n, ¬ InScpSram (src + BitVec.ofNat 32 j)) (hfuel : n / 4 ≤ fuel)
    (hpos : 0 < n / 4) (h3 : s.reg r3 = sramByte 0) (h5 : s.reg r5 = .ofNat 32 (n / 4))
    (h6 : s.reg r6 = src) (hs : Staged m (fun j => m (src + BitVec.ofNat 32 j)) src n 0 s) :
    ∃ s', doWhile (block [.ldrPost r4 r6 4, .strPost r4 r3 4, .subs r5 r5 1]) Arm.ne fuel s =
        some s' ∧
      s'.reg r3 = sramByte (4 * (n / 4)) ∧ s'.reg r6 = src + BitVec.ofNat 32 (4 * (n / 4)) ∧
      s'.reg r7 = s.reg r7 ∧
      Staged m (fun j => m (src + BitVec.ofNat 32 j)) src n (4 * (n / 4)) s' := by
  obtain ⟨s', hrun, g3, -, g6, g7, hs'⟩ := doWhile_counted
    (fun i t => t.reg r3 = sramByte (4 * i) ∧ t.reg r5 = .ofNat 32 (n / 4 - i) ∧
      t.reg r6 = src + BitVec.ofNat 32 (4 * i) ∧ t.reg r7 = s.reg r7 ∧
      Staged m (fun j => m (src + BitVec.ofNat 32 j)) src n (4 * i) t)
    hpos hfuel
    (fun i hi t ⟨ht3, ht5, ht6, ht7, ht⟩ => by
      obtain ⟨g3, g5, g6, g7, hst, hne⟩ := word_round hn hsrc hout hi ht3 ht5 ht6 ht rfl
      exact ⟨⟨g3, g5, g6, g7.trans ht7, hst⟩, hne⟩)
    ⟨h3, h5, h6.trans (BitVec.add_zero src).symm, rfl, hs⟩
  exact ⟨s', hrun, g3, g6, g7, hs'⟩

/-- A round of the byte tail. -/
lemma byte_round (hn : n ≤ scpSramSize)
    (hout : ∀ j < n, ¬ InScpSram (src + BitVec.ofNat 32 j)) {k i : ℕ} (hk : k + n % 4 = n)
    (hi : i < n % 4) (h3 : t.reg r3 = sramByte (k + i))
    (h6 : t.reg r6 = src + BitVec.ofNat 32 (k + i)) (h7 : t.reg r7 = .ofNat 32 (n % 4 - i))
    (h : Staged m (fun j => m (src + BitVec.ofNat 32 j)) src n (k + i) t) {t' : Arm}
    (ht' : block [.ldrbPost r4 r6 1, .strbPost r4 r3 1, .subs r7 r7 1] t = t') :
    t'.reg r3 = sramByte (k + (i + 1)) ∧ t'.reg r6 = src + BitVec.ofNat 32 (k + (i + 1)) ∧
      t'.reg r7 = .ofNat 32 (n % 4 - (i + 1)) ∧
      Staged m (fun j => m (src + BitVec.ofNat 32 j)) src n (k + (i + 1)) t' ∧
      (t'.ne = true ↔ i + 1 < n % 4) := by
  obtain ⟨-, hsize⟩ := scpSram_eq
  obtain ⟨hleft, hne⟩ := countdown (b := 1) (c := n % 4 - (i + 1)) h7 (by omega) (by omega)
  subst ht'
  refine ⟨?_, ?_, hleft, ?_, hne.trans (by omega)⟩
  · change t.reg r3 + 1 = _
    rw [h3]
    exact sramByte_add (k + i) 1
  · change t.reg r6 + 1 = _
    rw [h6]
    exact ofNat_add_ofNat src (k + i) 1
  · refine h.grow (by decide : 0 < 1) (by omega) (fun x => ?_) (fun a ha => ?_)
      (fun a ha => ?_) h.aligned
    · change Function.update t.mem (t.reg r3)
        (UInt8.ofBitVec (((t.mem (t.reg r6)).toBitVec.setWidth 32).setWidth 8)) x = _
      rw [h3, h6, h.mem_source hn hout (by omega) (by omega),
        BitVec.setWidth_setWidth_of_le _ (by decide), BitVec.setWidth_eq]
      by_cases hx : x = sramByte (k + i)
      · subst hx
        rw [Function.update_self, BitVec.sub_self, if_pos (by decide),
          sramOffset_sramByte (by omega)]
      · rw [Function.update_of_ne hx, if_neg]
        rw [Nat.lt_one_iff, ← BitVec.toNat_zero (w := 32), BitVec.toNat_inj]
        exact fun h => hx (sub_eq_zero.mp h)
    · change a ∈ t.writes ++ [t.reg r3] at ha
      rw [h3, List.mem_append, List.mem_singleton] at ha
      exact ha.imp_right fun ha => ⟨0, by decide, ha⟩
    · change a ∈ t.reads ++ [t.reg r6] at ha
      rw [h6, List.mem_append, List.mem_singleton] at ha
      exact ha.imp_right fun ha => ⟨k + i, by omega, ha⟩

/-- The byte tail. -/
lemma byte_loop (hn : n ≤ scpSramSize) (hout : ∀ j < n, ¬ InScpSram (src + BitVec.ofNat 32 j))
    (hfuel : n % 4 ≤ fuel) (hpos : 0 < n % 4) {k : ℕ} (hk : k + n % 4 = n)
    (h3 : s.reg r3 = sramByte k) (h6 : s.reg r6 = src + BitVec.ofNat 32 k)
    (h7 : s.reg r7 = .ofNat 32 (n % 4))
    (hs : Staged m (fun j => m (src + BitVec.ofNat 32 j)) src n k s) :
    ∃ s', doWhile (block [.ldrbPost r4 r6 1, .strbPost r4 r3 1, .subs r7 r7 1]) Arm.ne fuel s =
        some s' ∧ Staged m (fun j => m (src + BitVec.ofNat 32 j)) src n n s' := by
  obtain ⟨s', hrun, -, -, -, hs'⟩ := doWhile_counted
    (fun i t => t.reg r3 = sramByte (k + i) ∧ t.reg r6 = src + BitVec.ofNat 32 (k + i) ∧
      t.reg r7 = .ofNat 32 (n % 4 - i) ∧
      Staged m (fun j => m (src + BitVec.ofNat 32 j)) src n (k + i) t)
    hpos hfuel
    (fun i hi t ⟨ht3, ht6, ht7, ht⟩ => by
      obtain ⟨g3, g6, g7, hst, hne⟩ := byte_round hn hout hk hi ht3 ht6 ht7 ht rfl
      exact ⟨⟨g3, g6, g7, hst⟩, hne⟩)
    ⟨h3, h6, h7, hs⟩
  rw [hk] at hs'
  exact ⟨s', hrun, hs'⟩

/-- A round of the clean. -/
lemma clean_round {i : ℕ} (hi : i < 0x1400) (h3 : t.reg r3 = sramByte (32 * i))
    (h5 : t.reg r5 = .ofNat 32 (scpSramBase + scpSramSize)) {t' : Arm}
    (ht' : block [.dccmvac r3, .addImm r3 r3 32, .cmp r3 r5] t = t') :
    t'.reg r3 = sramByte (32 * (i + 1)) ∧ t'.cleaned = t.cleaned ++ [sramByte (32 * i)] ∧
      (t'.lo = true ↔ i + 1 < 0x1400) := by
  obtain ⟨hbase, hsize⟩ := scpSram_eq
  subst ht'
  refine ⟨?_, congrArg (fun a => t.cleaned ++ [a]) h3, ?_⟩
  · change t.reg r3 + 32 = _
    rw [h3]
    exact sramByte_add (32 * i) 32
  · have hnext : (t.reg r3 + 32).toNat = 0x44000 + 32 * (i + 1) := by
      rw [h3, BitVec.toNat_add, sramByte_toNat (by omega)]
      change (0x44000 + 32 * i + 32) % 2 ^ 32 = _
      omega
    change (!decide (t.reg r5 ≤ t.reg r3 + 32)) = true ↔ _
    rw [h5, Bool.not_eq_true', decide_eq_false_iff_not, BitVec.le_def, hnext,
      BitVec.toNat_ofNat]
    omega

/-- The clean visits the lines of SCP SRAM in turn and leaves the memory alone. -/
lemma clean_loop (hfuel : 0x1400 ≤ fuel) (h3 : s.reg r3 = sramByte 0)
    (h5 : s.reg r5 = .ofNat 32 (scpSramBase + scpSramSize)) :
    ∃ s', doWhile (block [.dccmvac r3, .addImm r3 r3 32, .cmp r3 r5]) Arm.lo fuel s =
        some s' ∧ (∀ j < 0x1400, sramByte (32 * j) ∈ s'.cleaned) ∧
      s'.mem = s.mem ∧ s'.writes = s.writes ∧ s'.reads = s.reads ∧ s'.aligned = s.aligned := by
  let Inv (i : ℕ) (t : Arm) : Prop := t.reg r3 = sramByte (32 * i) ∧
    t.reg r5 = .ofNat 32 (scpSramBase + scpSramSize) ∧
    (∀ j < i, sramByte (32 * j) ∈ t.cleaned) ∧
    t.mem = s.mem ∧ t.writes = s.writes ∧ t.reads = s.reads ∧ t.aligned = s.aligned
  have hround : ∀ i < 0x1400, ∀ t, Inv i t →
      Inv (i + 1) (block [.dccmvac r3, .addImm r3 r3 32, .cmp r3 r5] t) ∧
        ((block [.dccmvac r3, .addImm r3 r3 32, .cmp r3 r5] t).lo = true ↔ i + 1 < 0x1400) := by
    rintro i hi t ⟨ht3, ht5, hlines, hrest⟩
    obtain ⟨g3, gcleaned, glo⟩ := clean_round hi ht3 ht5 rfl
    refine ⟨⟨g3, ht5, fun j hj => ?_, hrest⟩, glo⟩
    rw [gcleaned]
    obtain hj | rfl := Nat.lt_succ_iff_lt_or_eq.mp hj
    · exact List.mem_append_left _ (hlines j hj)
    · exact List.mem_append_right _ (List.mem_singleton_self _)
  obtain ⟨s', hrun, -, -, hs'⟩ := doWhile_counted Inv (by decide) hfuel hround
    ⟨h3, h5, fun j hj => absurd hj (Nat.not_lt_zero j), rfl, rfl, rfl, rfl⟩
  exact ⟨s', hrun, hs'⟩

end Loops

/-! ### The staging -/

section Copy

variable {m : Memory} {src : BitVec 32} {n fuel : ℕ} {s : Arm}

lemma ofNat_ushiftRight_two (hn : n < 2 ^ 32) :
    BitVec.ofNat 32 n >>> 2 = BitVec.ofNat 32 (n / 4) := by
  apply BitVec.eq_of_toNat_eq
  rw [BitVec.toNat_ushiftRight, BitVec.toNat_ofNat, BitVec.toNat_ofNat, Nat.shiftRight_eq_div_pow,
    Nat.mod_eq_of_lt hn, Nat.mod_eq_of_lt (by omega)]

lemma ofNat_and_three : BitVec.ofNat 32 n &&& 3 = BitVec.ofNat 32 (n % 4) := by
  apply BitVec.eq_of_toNat_eq
  rw [BitVec.toNat_and, BitVec.toNat_ofNat, BitVec.toNat_ofNat]
  change n % 2 ^ 32 &&& (2 ^ 2 - 1) = _
  rw [Nat.and_two_pow_sub_one_eq_mod]
  omega

/-- The word copy, or none of it if the image is shorter than a word. -/
lemma copy_words (hn : n ≤ scpSramSize) (hsrc : src.toNat % 4 = 0)
    (hout : ∀ j < n, ¬ InScpSram (src + BitVec.ofNat 32 j)) (hfuel : n / 4 ≤ fuel)
    (h3 : s.reg r3 = sramByte 0) (h5 : s.reg r5 = .ofNat 32 (n / 4))
    (heq : s.eq = (BitVec.ofNat 32 (n / 4) == 0)) (h6 : s.reg r6 = src)
    (hs : Staged m (fun j => m (src + BitVec.ofNat 32 j)) src n 0 s) :
    ∃ s', beqOver
        (doWhile (block [.ldrPost r4 r6 4, .strPost r4 r3 4, .subs r5 r5 1]) Arm.ne fuel) s =
        some s' ∧
      s'.reg r3 = sramByte (4 * (n / 4)) ∧ s'.reg r6 = src + BitVec.ofNat 32 (4 * (n / 4)) ∧
      s'.reg r7 = s.reg r7 ∧
      Staged m (fun j => m (src + BitVec.ofNat 32 j)) src n (4 * (n / 4)) s' := by
  obtain ⟨-, hsize⟩ := scpSram_eq
  have hzero := ofNat_beq_zero (a := n / 4) (by omega)
  rw [← heq] at hzero
  by_cases hpos : n / 4 = 0
  · rw [beqOver, if_pos (hzero.mpr hpos), hpos]
    exact ⟨s, rfl, h3, h6.trans (BitVec.add_zero src).symm, rfl, hs⟩
  · rw [beqOver, if_neg (mt hzero.mp hpos)]
    exact word_loop hn hsrc hout hfuel (Nat.pos_of_ne_zero hpos) h3 h5 h6 hs

/-- The byte tail, or none of it if the image is a number of words. -/
lemma copy_tail (hn : n ≤ scpSramSize) (hout : ∀ j < n, ¬ InScpSram (src + BitVec.ofNat 32 j))
    (hfuel : n % 4 ≤ fuel) (h3 : s.reg r3 = sramByte (4 * (n / 4)))
    (h6 : s.reg r6 = src + BitVec.ofNat 32 (4 * (n / 4))) (h7 : s.reg r7 = .ofNat 32 (n % 4))
    (heq : s.eq = (BitVec.ofNat 32 (n % 4) == 0))
    (hs : Staged m (fun j => m (src + BitVec.ofNat 32 j)) src n (4 * (n / 4)) s) :
    ∃ s', beqOver
        (doWhile (block [.ldrbPost r4 r6 1, .strbPost r4 r3 1, .subs r7 r7 1]) Arm.ne fuel) s =
        some s' ∧ Staged m (fun j => m (src + BitVec.ofNat 32 j)) src n n s' := by
  have hzero := ofNat_beq_zero (a := n % 4) (by omega)
  rw [← heq] at hzero
  by_cases hpos : n % 4 = 0
  · rw [beqOver, if_pos (hzero.mpr hpos)]
    rw [show 4 * (n / 4) = n by omega] at hs
    exact ⟨s, rfl, hs⟩
  · rw [beqOver, if_neg (mt hzero.mp hpos)]
    exact byte_loop hn hout hfuel (Nat.pos_of_ne_zero hpos) (by omega) h3 h6 h7 hs

end Copy

/-- SCP SRAM holds the `n` bytes at `src` followed by zeros, and nothing else has changed; the
staging wrote nothing outside SCP SRAM, read nothing but these bytes, accessed words at
multiples of four, and cleaned a line for every byte of SCP SRAM. -/
structure ScpStaged (m : Memory) (src : BitVec 32) (n : ℕ) (s : Arm) : Prop where
  image : ∀ j < n, s.mem (sramByte j) = m (src + BitVec.ofNat 32 j)
  zeros : ∀ j, n ≤ j → j < scpSramSize → s.mem (sramByte j) = 0
  frame : ∀ x, ¬ InScpSram x → s.mem x = m x
  writes : ∀ a ∈ s.writes, InScpSram a
  reads : ∀ a ∈ s.reads, ∃ j < n, a = src + BitVec.ofNat 32 j
  aligned : s.aligned = true
  cleaned : ∀ x, InScpSram x → ∃ a ∈ s.cleaned, a.toNat / 32 = x.toNat / 32

variable {m : Memory} {src : BitVec 32} {n : ℕ}

/-- The image over the zeros. -/
lemma ScpStaged.of_staged {s s' : Arm} (hn : n ≤ scpSramSize)
    (hout : ∀ j < n, ¬ InScpSram (src + BitVec.ofNat 32 j))
    (hclear : Staged m (fun _ => 0) src n scpSramSize s)
    (hcopy : Staged s.mem (fun j => s.mem (src + BitVec.ofNat 32 j)) src n n s')
    (hclean : ∀ j < 0x1400, sramByte (32 * j) ∈ s'.cleaned) : ScpStaged m src n s' where
  image j hj := by
    have hoff := hout j hj
    rw [inScpSram_iff] at hoff
    rw [hcopy.mem, sramOffset_sramByte (by omega), if_pos hj, hclear.mem, if_neg hoff]
  zeros j hj hj' := by
    rw [hcopy.mem, sramOffset_sramByte hj', if_neg (by omega), hclear.mem,
      sramOffset_sramByte hj', if_pos hj']
  frame x hx := by
    rw [inScpSram_iff] at hx
    rw [hcopy.mem, if_neg (by omega), hclear.mem, if_neg hx]
  writes := hcopy.writes
  reads := hcopy.reads
  aligned := hcopy.aligned
  cleaned x hx := by
    obtain ⟨hbase, hsize⟩ := scpSram_eq
    obtain ⟨hlo, hhi⟩ := hx
    have hline : (x.toNat - 0x44000) / 32 < 0x1400 := by omega
    refine ⟨_, hclean _ hline, ?_⟩
    rw [sramByte_toNat (by omega)]
    omega

/-- **Staging.** For every source at a multiple of four and every size up to that of SCP SRAM,
with the image outside SCP SRAM, the loops end and SCP SRAM holds the image. -/
theorem fipHandoffStage_scpStaged (reg : Reg → BitVec 32) (z c : Bool) (m : Memory)
    (src : BitVec 32) (n : ℕ) (hsrc : src.toNat % 4 = 0) (hn : n ≤ scpSramSize)
    (hout : ∀ j < n, ¬ InScpSram (src + BitVec.ofNat 32 j))
    (h6 : reg r6 = src) (h7 : reg r7 = BitVec.ofNat 32 n) (fuel : ℕ) (hfuel : 0xa000 ≤ fuel) :
    ∃ s', fipHandoffStage fuel ⟨reg, z, c, m, [], [], [], true⟩ = some s' ∧
      ScpStaged m src n s' := by
  obtain ⟨hbase, hsize⟩ := scpSram_eq
  have hfuelWords : n / 4 ≤ fuel := by omega
  have hfuelTail : n % 4 ≤ fuel := by omega
  have hfuelLines : 0x1400 ≤ fuel := by omega
  have hfirst : BitVec.ofNat 32 scpSramBase &&& ~~~31 = sramByte 0 := by decide
  have hend : BitVec.ofNat 32 scpSramBase + BitVec.ofNat 32 scpSramSize =
      BitVec.ofNat 32 (scpSramBase + scpSramSize) := by decide
  have hstart : Staged m (fun _ => 0) src n 0
      (block [.ldrLiteral r3 (.ofNat 32 scpSramBase), .movs r4 0,
        .ldrLiteral r5 (.ofNat 32 scpSramSize)] ⟨reg, z, c, m, [], [], [], true⟩) :=
    ⟨fun x => (if_neg (Nat.not_lt_zero _)).symm, fun a ha => absurd ha List.not_mem_nil,
      fun a ha => absurd ha List.not_mem_nil, rfl⟩
  obtain ⟨s₁, hrun₁, g6, g7, hclear⟩ := clear_loop hfuel rfl rfl rfl hstart
  -- the copy starts over the cleared SRAM
  have hcopy : Staged s₁.mem (fun j => s₁.mem (src + BitVec.ofNat 32 j)) src n 0
      (block [.ldrLiteral r3 (.ofNat 32 scpSramBase), .mov r5 r7, .lsrs r5 r5 2] s₁) :=
    ⟨fun x => (if_neg (Nat.not_lt_zero _)).symm, hclear.writes, hclear.reads, hclear.aligned⟩
  have hwords : s₁.reg r7 >>> 2 = BitVec.ofNat 32 (n / 4) := by
    rw [g7]
    change reg r7 >>> 2 = _
    rw [h7, ofNat_ushiftRight_two (by omega)]
  obtain ⟨s₂, hrun₂, k3, k6, k7, hcopy₂⟩ := copy_words
    (s := block [.ldrLiteral r3 (.ofNat 32 scpSramBase), .mov r5 r7, .lsrs r5 r5 2] s₁)
    hn hsrc hout hfuelWords rfl hwords (congrArg (· == 0) hwords) (g6.trans h6) hcopy
  have htail : s₂.reg r7 &&& 3 = BitVec.ofNat 32 (n % 4) := by
    rw [k7]
    change s₁.reg r7 &&& 3 = _
    rw [g7]
    change reg r7 &&& 3 = _
    rw [h7, ofNat_and_three]
  obtain ⟨s₃, hrun₃, hcopy₃⟩ := copy_tail (s := block [.ands r7 r7 3] s₂) hn hout hfuelTail
    k3 k6 htail (congrArg (· == 0) htail) (hcopy₂.of_same rfl rfl rfl rfl)
  obtain ⟨s₄, hrun₄, hlines, hm, hw, hr, ha⟩ := clean_loop
    (s := block [.ldrLiteral r3 (.ofNat 32 scpSramBase), .ldrLiteral r5 (.ofNat 32 scpSramSize),
      .add r5 r3 r5, .bic r3 r3 31] s₃) hfuelLines hfirst hend
  refine ⟨s₄, ?_, .of_staged hn hout hclear (hcopy₃.of_same hm hw hr ha) hlines⟩
  simp only [fipHandoffStage, Option.bind_eq_bind, hrun₁, hrun₂, hrun₃, hrun₄, Option.bind_some]

/-- An image of 67 bytes in the staging area. -/
theorem fipHandoffStage_tail :
    ∃ s', fipHandoffStage 0xa000
        ⟨Function.update (Function.update (fun _ => 0) r6 0x42e00000) r7 67, false, false,
          fun x => UInt8.ofBitVec (x.setWidth 8), [], [], [], true⟩ = some s' ∧
      ScpStaged (fun x => UInt8.ofBitVec (x.setWidth 8)) 0x42e00000 67 s' := by
  refine fipHandoffStage_scpStaged _ _ _ _ 0x42e00000 67 (by decide) (by decide) (fun j hj h => ?_)
    rfl rfl 0xa000 le_rfl
  obtain ⟨hbase, hsize⟩ := scpSram_eq
  have hhigh := h.2
  rw [BitVec.toNat_add, BitVec.toNat_ofNat] at hhigh
  change (0x42e00000 + j % 2 ^ 32) % 2 ^ 32 < _ at hhigh
  omega

end A733Boot.Boot
