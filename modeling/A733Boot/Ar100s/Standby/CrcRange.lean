/-
The range of the DRAM check and its checksum: what requests can make of the static
variables of `ar100s/service/standby/standby_dram_crc.c`, the loop of `standby_dram_crc`
over pointers, and the checksum as the standard CRC-32.

* `DramCrc.InRange`: the range a request was accepted with;
* `crcWord_eq`, `standbyDramCrc_words`: the branch-free loop over the bits takes a word
  into the register of `Crc`;
* `standbyDramCrcLoop`, `crcLoop_spec`: the loop over pointers, with the addresses it
  reads;
* `dramCrc_configured` (**what is checked**): every reachable range is a sound one, and
  its checksum is the CRC-32 of its bytes;
* `dramResume_detects` (**what is detected**): contents that differ in one word.
-/
import A733Boot.Ar100s.Standby.Requests
import A733Boot.Library.Crc

namespace A733Boot.Ar100s.Standby

open Mailbox

def ariscDramBase : ℕ := 0x40000000
def ariscDramEnd : ℕ := 0x80000000

/-- The range of the check is not empty, consists of words, is at most 16 MiB long and
lies in the DRAM; the sum that makes its end does not wrap. -/
structure DramCrc.InRange (c : DramCrc) : Prop where
  nonempty : 0 < c.len.toNat
  src_aligned : 4 ∣ c.src.toNat
  len_aligned : 4 ∣ c.len.toNat
  short : c.len.toNat ≤ dramCrcMaxLen
  base_le : ariscDramBase ≤ c.src.toNat
  le_end : c.src.toNat + c.len.toNat ≤ ariscDramEnd
  end_eq : (c.src + c.len).toNat = c.src.toNat + c.len.toNat

/-! ### The requests -/

lemma four_dvd_of_and {w : UInt32} (h : w &&& 3 = 0) : 4 ∣ w.toNat := by
  have hmod : (w &&& 3).toNat = w.toNat % 2 ^ 2 := and_toNat (by decide) w
  rw [h, UInt32.toNat_zero] at hmod
  exact Nat.dvd_of_mod_eq_zero hmod.symm

/-- A request keeps the range of an enabled check sound. -/
lemma standbySetDramCrcParas_inRange (enable src len : UInt32) {c : DramCrc}
    (h : c.enable ≠ 0 → c.InRange) :
    (standbySetDramCrcParas enable src len c).2.enable ≠ 0 →
      (standbySetDramCrcParas enable src len c).2.InRange := by
  rw [standbySetDramCrcParas]
  split_ifs with hbad hoff hrange
  · exact h
  · exact fun hne => absurd rfl hne
  · exact h
  · simp only [not_or, not_not] at hrange
    obtain ⟨hsrc, hlen, hzero, hshort, hbase, hend, hroom⟩ := hrange
    have hbase := Nat.le_of_not_lt hbase
    have hend : src.toNat < 2147483648 := Nat.lt_of_not_le hend
    have hroom := Nat.le_of_not_lt (fun h => hroom (UInt32.lt_iff_toNat_lt.mpr h))
    rw [UInt32.toNat_sub_of_le _ _ (UInt32.le_iff_toNat_le.mpr hend.le)] at hroom
    have hsum : src.toNat + len.toNat ≤ 2147483648 := by
      have : (2147483648 : UInt32).toNat = 2147483648 := rfl
      omega
    have hstop : (src + len).toNat = src.toNat + len.toNat := by
      rw [UInt32.toNat_add, Nat.mod_eq_of_lt (by omega)]
    intro _
    refine ⟨?_, four_dvd_of_and hsrc, four_dvd_of_and hlen, Nat.le_of_not_lt hshort, hbase, hsum,
      hstop⟩
    refine Nat.pos_of_ne_zero fun hnil => hzero (UInt32.toNat_inj.mp ?_)
    rw [hnil]
    rfl

section Requests

variable {σ : Type} (D : Drivers σ)

/-- The states that requests for the check lead to, from the static variables as they are
at the start. -/
inductive CrcReaches : System σ → Prop
  | start {s : System σ} : s.crc = .init → CrcReaches s
  | request {s : System σ} (m : Message) (b : Mbox) : m.type = setDramCrcParas →
      CrcReaches s → CrcReaches (processMessage (services D) m s b).2.1

variable {D} {m : Message}

/-- A request for the check, as `process_message` serves it. -/
lemma processMessage_crc (hm : m.type = setDramCrcParas) (s : System σ) (b : Mbox) :
    (m.count.toNat < 3 ∧ (served (services D) m s b).1 = -eInval ∧
      (processMessage (services D) m s b).2.1.crc = s.crc) ∨
    ((served (services D) m s b).1
        = (standbySetDramCrcParas (m.para 0) (m.para 1) (m.para 2) s.crc).1 ∧
      (processMessage (services D) m s b).2.1.crc
        = (standbySetDramCrcParas (m.para 0) (m.para 1) (m.para 2) s.crc).2) := by
  have hstate : (processMessage (services D) m s b).2.1 = (served (services D) m s b).2.1 := by
    simp only [processMessage, served]
    split_ifs <;> rfl
  have hmin : minCount m.type = 3 := by
    rw [hm]
    rfl
  have hdispatch : dispatch (services D) m s b
      = ((standbySetDramCrcParas (m.para 0) (m.para 1) (m.para 2) s.crc).1,
        { s with
          crc := (standbySetDramCrcParas (m.para 0) (m.para 1) (m.para 2) s.crc).2 }, b) := by
    rw [dispatch, hm]
    rfl
  rw [hstate, served, hmin]
  by_cases hcount : m.count.toNat < 3
  · rw [if_pos hcount]
    exact Or.inl ⟨hcount, rfl, rfl⟩
  · rw [if_neg hcount, hdispatch]
    exact Or.inr ⟨rfl, rfl⟩

lemma processMessage_crc_refused (hm : m.type = setDramCrcParas) (s : System σ) (b : Mbox)
    (h : (served (services D) m s b).1 ≠ 0) :
    (processMessage (services D) m s b).2.1.crc = s.crc := by
  obtain ⟨-, -, hcrc⟩ | ⟨hret, hcrc⟩ := processMessage_crc hm s b
  · exact hcrc
  · rw [hcrc]
    exact standbySetDramCrcParas_refused (hret ▸ h)

/-- Whatever was asked for, an enabled check has a sound range. -/
lemma CrcReaches.inRange {s : System σ} (h : CrcReaches D s) :
    s.crc.enable ≠ 0 → s.crc.InRange := by
  induction h with
  | start hinit =>
      rw [hinit]
      exact fun hne => absurd rfl hne
  | request m b hm _ ih =>
      obtain ⟨-, -, hcrc⟩ | ⟨-, hcrc⟩ := processMessage_crc hm _ b
      · rw [hcrc]
        exact ih
      · rw [hcrc]
        exact standbySetDramCrcParas_inRange _ _ _ ih

end Requests

/-! ### The checksum of a word -/

/-- The polynomial of the check. -/
def crcPoly : UInt32 := 0xedb88320

lemma zero_sub_and_one (w : UInt32) :
    (0 - (w &&& 1)) = if bit w 0 then 0xffffffff else 0 := by
  rw [Crc.and_one]
  cases bit w 0 with
  | false => rfl
  | true => rfl

/-- One bit of the data goes into the register of `Crc`. -/
lemma crcBit_eq (crc value : UInt32) :
    crcBit crc value ^^^ value >>> 1 = Crc.step crcPoly (crc ^^^ value) := by
  have hpoly : (0xedb88320 : UInt32) &&& (0 - ((crc ^^^ value) &&& 1))
      = if bit (crc ^^^ value) 0 then crcPoly else 0 := by
    rw [zero_sub_and_one]
    cases bit (crc ^^^ value) 0 with
    | false => rfl
    | true => rfl
  rw [crcBit, Crc.step_eq, hpoly]
  refine eq_of_bit fun i _ => ?_
  have hshift : ∀ w : UInt32, bit (w >>> 1) i = bit w (1 + i) := fun w =>
    bit_shiftRight w (by decide : 1 < 32) i
  simp only [bit_xor, hshift]
  cases bit crc (1 + i) <;> cases bit value (1 + i) <;>
    cases bit (if bit crc 0 ^^ bit value 0 then crcPoly else 0) i <;> rfl

/-- The loop over the bits: the checksum and what is left of the word together are the
register. -/
lemma crcWord_register (n : ℕ) (crc value : UInt32) :
    ∃ rest : UInt32, (∀ i, bit rest i = bit value (n + i)) ∧
      crcWord n crc value ^^^ rest = Crc.steps crcPoly n (crc ^^^ value) := by
  induction n generalizing crc value with
  | zero => exact ⟨value, fun i => by rw [Nat.zero_add], rfl⟩
  | succ n ih =>
      obtain ⟨rest, hrest, hsteps⟩ := ih (crcBit crc value) (value >>> 1)
      refine ⟨rest, fun i => ?_, ?_⟩
      · have hshift : bit (value >>> 1) (n + i) = bit value (1 + (n + i)) :=
          bit_shiftRight value (by decide : 1 < 32) (n + i)
        rw [hrest, hshift, Nat.add_comm n 1, Nat.add_assoc]
      · rw [crcWord, hsteps, crcBit_eq]
        rfl

/-- The loop over the bits takes a word in. -/
lemma crcWord_eq (crc value : UInt32) : crcWord 32 crc value = Crc.word crcPoly crc value := by
  obtain ⟨rest, hrest, hsteps⟩ := crcWord_register 32 crc value
  have hnone : rest = 0 := by
    refine eq_of_bit fun i _ => ?_
    rw [hrest, bit_of_le value (by omega), bit_zero]
  rw [hnone, UInt32.xor_zero] at hsteps
  exact hsteps

/-! ### The checksum of a range -/

/-- The addresses of the `n` words from `a` on. -/
def wordAddresses (a n : ℕ) : List ℕ := (List.range n).map fun i => a + 4 * i

lemma wordAddresses_succ (a n : ℕ) :
    wordAddresses a (n + 1) = a :: wordAddresses (a + 4) n := by
  rw [wordAddresses, List.range_succ_eq_map, List.map_cons, List.map_map]
  refine List.cons_eq_cons.mpr ⟨rfl, List.map_congr_left fun i _ => ?_⟩
  simp only [Function.comp]
  omega

lemma crcWords_eq (dram : ℕ → UInt32) (n a : ℕ) (crc : UInt32) :
    crcWords dram n a crc = Crc.words crcPoly crc ((wordAddresses a n).map dram) := by
  induction n generalizing a crc with
  | zero => rfl
  | succ n ih =>
      rw [crcWords, ih, crcWord_eq, wordAddresses_succ, List.map_cons]
      rfl

/-- The addresses that the check reads. -/
def DramCrc.addresses (c : DramCrc) : List ℕ := wordAddresses c.src.toNat (c.len.toNat / 4)

/-- The number of turns of the loop over the words. -/
lemma DramCrc.InRange.turns {c : DramCrc} (h : c.InRange) :
    ((c.src + c.len).toNat - c.src.toNat + 3) / 4 = c.len.toNat / 4 := by
  have hlen := h.len_aligned
  rw [h.end_eq]
  omega

lemma not_eq_xor (w : UInt32) : ~~~w = w ^^^ 0xffffffff := by
  refine eq_of_bit fun i hi => ?_
  have hones : bit 0xffffffff i = true := by
    rw [show (0xffffffff : UInt32) = ~~~0 from rfl, bit_not 0 hi, bit_zero, Bool.not_false]
  rw [bit_not w hi, bit_xor, hones, Bool.xor_true]

lemma DramCrc.InRange.standbyDramCrc_words {c : DramCrc} (h : c.InRange) (dram : ℕ → UInt32) :
    standbyDramCrc dram c
      = Crc.words crcPoly 0xffffffff (c.addresses.map dram) ^^^ 0xffffffff := by
  rw [standbyDramCrc, h.turns, crcWords_eq, not_eq_xor]
  rfl

/-! ### The bytes of the range -/

/-- The bits of a word are those of its bytes. -/
lemma bit_loadLe32 (m : Mem) (a : ℕ) {k i : ℕ} (hk : k < 4) (hi : i < 8) :
    bit (m.loadLe32 a) (8 * k + i) = bit (m (a + k)).toUInt32 i := by
  have hshift : ∀ (j : ℕ) (b : UInt8), j < 4 →
      bit (b.toUInt32 <<< UInt32.ofNat (8 * j)) (8 * k + i) =
        if j = k then bit b.toUInt32 i else false := by
    intro j b hj
    rw [bit_shiftLeft _ (by omega) (by omega)]
    split_ifs with hjk
    · rw [hjk, decide_eq_true (by omega), Nat.add_sub_cancel_left, Bool.true_and]
    · by_cases hle : 8 * j ≤ 8 * k + i
      · rw [bit_toUInt32 b (by omega), Bool.and_false]
      · rw [decide_eq_false hle, Bool.false_and]
  have hword : m.loadLe32 a = (m a).toUInt32 <<< UInt32.ofNat (8 * 0) |||
      (m (a + 1)).toUInt32 <<< UInt32.ofNat (8 * 1) |||
      (m (a + 2)).toUInt32 <<< UInt32.ofNat (8 * 2) |||
      (m (a + 3)).toUInt32 <<< UInt32.ofNat (8 * 3) := by
    rw [show UInt32.ofNat (8 * 0) = 0 from rfl, UInt32.shiftLeft_zero]
    rfl
  rw [hword]
  simp only [bit_or, hshift 0 _ (by omega), hshift 1 _ (by omega), hshift 2 _ (by omega),
    hshift 3 _ (by omega)]
  obtain rfl | rfl | rfl | rfl : k = 0 ∨ k = 1 ∨ k = 2 ∨ k = 3 := by omega
  · simp
  · simp
  · simp
  · simp

lemma toUInt8_loadLe32 (m : Mem) (a : ℕ) {k : ℕ} (hk : k < 4) :
    (m.loadLe32 a >>> UInt32.ofNat (8 * k)).toUInt8 = m (a + k) := by
  rw [← UInt8.toUInt32_inj]
  refine eq_of_bit fun i _ => ?_
  rw [bit_toUInt8, bit_shiftRight _ (by omega)]
  by_cases hi : i < 8
  · rw [decide_eq_true hi, Bool.true_and, bit_loadLe32 m a hk hi]
  · rw [decide_eq_false hi, Bool.false_and, bit_toUInt32 _ (by omega)]

/-- The bytes of a word in memory are those that stand there. -/
lemma leBytes_loadLe32 (m : Mem) (a : ℕ) :
    Crc.leBytes (m.loadLe32 a) = [m a, m (a + 1), m (a + 2), m (a + 3)] := by
  have h₀ := toUInt8_loadLe32 m a (k := 0) (by omega)
  rw [show UInt32.ofNat (8 * 0) = 0 from rfl, UInt32.shiftRight_zero] at h₀
  rw [Crc.leBytes, h₀]
  exact congrArg (m a :: ·) (congrArg₂ List.cons (toUInt8_loadLe32 m a (k := 1) (by omega))
    (congrArg₂ List.cons (toUInt8_loadLe32 m a (k := 2) (by omega))
      (congrArg (· :: []) (toUInt8_loadLe32 m a (k := 3) (by omega)))))

/-- The words of a range are its bytes. -/
lemma flatMap_leBytes (m : Mem) (a n : ℕ) :
    ((wordAddresses a n).map m.loadLe32).flatMap Crc.leBytes
      = (List.range (4 * n)).map fun i => m (a + i) := by
  induction n with
  | zero => rfl
  | succ n ih =>
      rw [wordAddresses] at ih
      rw [wordAddresses, List.range_succ, List.map_append, List.map_append, List.flatMap_append, ih,
        show 4 * (n + 1) = 4 * n + 1 + 1 + 1 + 1 by omega]
      simp only [List.range_succ, List.map_append, List.map_cons, List.map_nil, List.flatMap_cons,
        List.flatMap_nil, leBytes_loadLe32, List.append_assoc, List.append_nil, List.cons_append,
        List.nil_append, Nat.add_assoc]

/-- The checksum is the CRC-32 of the bytes of the range. -/
lemma DramCrc.InRange.standbyDramCrc_bytes {c : DramCrc} (h : c.InRange) (m : Mem) :
    standbyDramCrc m.loadLe32 c
      = Crc.crc32 ((List.range c.len.toNat).map fun i => m (c.src.toNat + i)) := by
  have hlen : 4 * (c.len.toNat / 4) = c.len.toNat := Nat.mul_div_cancel' h.len_aligned
  rw [h.standbyDramCrc_words, Crc.words_eq_update, DramCrc.addresses, flatMap_leBytes, hlen]
  rfl

/-! ### The loop over pointers -/

/-- The state of the loop of `standby_dram_crc`, with the addresses it has read. -/
structure CrcLoop where
  pdata : UInt32
  crc : UInt32
  reads : List ℕ

/-- The loop of `standby_dram_crc`, for at most `fuel` tests of its condition. -/
def crcLoop (dram : ℕ → UInt32) (stop : UInt32) : ℕ → CrcLoop → Option CrcLoop
  | 0, _ => none
  | fuel + 1, s =>
      if s.pdata < stop then
        crcLoop dram stop fuel
          ⟨s.pdata + 4, crcWord 32 s.crc (dram s.pdata.toNat), s.reads ++ [s.pdata.toNat]⟩
      else some s

/-- `standby_dram_crc` over pointers, with the addresses it reads. -/
def standbyDramCrcLoop (dram : ℕ → UInt32) (c : DramCrc) (fuel : ℕ) : Option (UInt32 × List ℕ) :=
  (crcLoop dram (c.src + c.len) fuel ⟨c.src, 0xffffffff, []⟩).map fun s => (~~~s.crc, s.reads)

/-- The loop ends, and reads each word once. -/
lemma crcLoop_spec (dram : ℕ → UInt32) {stop : UInt32} {n fuel : ℕ} (hfuel : n < fuel)
    (s : CrcLoop) (hstop : s.pdata.toNat + 4 * n = stop.toNat) :
    crcLoop dram stop fuel s
      = some ⟨stop, crcWords dram n s.pdata.toNat s.crc,
        s.reads ++ wordAddresses s.pdata.toNat n⟩ := by
  induction n generalizing s fuel with
  | zero =>
      obtain ⟨fuel, rfl⟩ : ∃ k, fuel = k + 1 := ⟨fuel - 1, by omega⟩
      have hend : s.pdata = stop := UInt32.toNat_inj.mp (by omega)
      rw [crcLoop, if_neg (by rw [hend]; exact UInt32.lt_irrefl stop), ← hend]
      simp only [crcWords, wordAddresses, List.range_zero, List.map_nil, List.append_nil]
  | succ n ih =>
      obtain ⟨fuel, rfl⟩ : ∃ k, fuel = k + 1 := ⟨fuel - 1, by omega⟩
      have hbound := stop.toNat_lt
      have hnext : (s.pdata + 4).toNat = s.pdata.toNat + 4 := by
        rw [UInt32.toNat_add, show (4 : UInt32).toNat = 4 from rfl, Nat.mod_eq_of_lt (by omega)]
      rw [crcLoop, if_pos (UInt32.lt_iff_toNat_lt.mpr (by omega)),
        ih (by omega) _ (by rw [hnext]; omega)]
      simp only [hnext, crcWords, wordAddresses_succ, List.append_assoc, List.singleton_append]

lemma DramCrc.InRange.standbyDramCrcLoop_eq {c : DramCrc} (h : c.InRange) (dram : ℕ → UInt32)
    {fuel : ℕ} (hfuel : c.len.toNat / 4 < fuel) :
    standbyDramCrcLoop dram c fuel = some (standbyDramCrc dram c, c.addresses) := by
  have hlen : 4 * (c.len.toNat / 4) = c.len.toNat := Nat.mul_div_cancel' h.len_aligned
  have hstop : c.src.toNat + 4 * (c.len.toNat / 4) = (c.src + c.len).toNat := by
    rw [hlen, h.end_eq]
  rw [standbyDramCrcLoop, crcLoop_spec dram hfuel _ hstop, standbyDramCrc, h.turns]
  rfl

/-! ### The check -/

section Check

variable {σ : Type}

/-- **What is checked.** In every state that requests for the check lead to, the range of
an enabled check is sound, and a request that is refused changes nothing. For every sound
range and all contents of the memory `standby_dram_crc` ends, reads the words of the
range, each once and in order, and returns the CRC-32 of its bytes. -/
theorem dramCrc_configured (D : Drivers σ) :
    (∀ s, CrcReaches D s → s.crc.enable ≠ 0 → s.crc.InRange) ∧
    (∀ s m b, m.type = setDramCrcParas → (served (services D) m s b).1 ≠ 0 →
      (processMessage (services D) m s b).2.1.crc = s.crc) ∧
    ∀ c : DramCrc, c.InRange → ∀ m : Mem, ∀ fuel, c.len.toNat / 4 < fuel →
      standbyDramCrcLoop m.loadLe32 c fuel = some (standbyDramCrc m.loadLe32 c, c.addresses) ∧
      standbyDramCrc m.loadLe32 c
        = Crc.crc32 ((List.range c.len.toNat).map fun i => m (c.src.toNat + i)) := by
  refine ⟨fun s hs => hs.inRange, ?_, ?_⟩
  · intro s m b hm hrefused
    exact processMessage_crc_refused hm s b hrefused
  · intro c hc m fuel hfuel
    exact ⟨hc.standbyDramCrcLoop_eq _ hfuel, hc.standbyDramCrc_bytes m⟩

/-- Drivers over the contents of a memory that comes back from a standby with its second
word inverted. -/
def faultyDram : Drivers (ℕ → UInt32) where
  fdt := ⟨fun _ _ => 0, fun _ _ _ => .ok (0, 4)⟩
  mem := fun _ => 0
  pmu := fun _ _ _ => 0
  dram := id
  dramPowerSaveProcess := fun _ contents => contents
  dramPowerUpProcess := fun _ contents a => if a = 0x40000004 then ~~~contents a else contents a
  run := fun _ _ contents => (0, contents)
  irq := fun _ _ w => w
  wakeup := fun _ => stuckPlatform.wakeup ()
  pmuChargingReset := fun contents => (0, contents)
  pmuShutdown := fun contents => (0, contents)
  pmuReset := fun contents => (0, contents)
  setWakeupTimer := fun _ contents => contents
  clearWakeupTimer := fun contents => contents
  cpuxIrqMaptoCpus := fun _ => -1
  irqWakesourceInit := fun _ _ contents => (0, contents)
  irqWakesourceExit := fun _ _ contents => (0, contents)
  setDebugLevel := fun _ contents => (0, contents)
  uartSetBaudrate := fun _ contents => (0, contents)
  mctlMdfsSoftware := fun _ _ contents => (0, contents)

/-- A system at the start, and one request for a check of sixteen bytes. -/
def checkedSystem : System (ℕ → UInt32) :=
  (processMessage (services faultyDram)
    ⟨0, 0, setDramCrcParas, 0, 3, some fun i => [1, 0x40000000, 16].getD i 0⟩
    ⟨0, 0, .init, 0, none, .init, .init, fun _ => 0, [], []⟩ (Mbox.holding 0 [])).2.1

theorem dramCrc_configured_sample :
    checkedSystem.crc.enable = 1 ∧ checkedSystem.crc.InRange ∧
    standbyDramCrcLoop (Mem.loadLe32 fun _ => 0) checkedSystem.crc 5
      = some (Crc.crc32 (List.replicate 16 0),
        [0x40000000, 0x40000004, 0x40000008, 0x4000000c]) := by
  have hreach : CrcReaches faultyDram checkedSystem := .request _ _ rfl (.start rfl)
  have hrange := (dramCrc_configured faultyDram).1 checkedSystem hreach (by decide)
  obtain ⟨hloop, hcrc⟩ := (dramCrc_configured faultyDram).2.2 checkedSystem.crc hrange
    (fun _ => 0) 5 (by decide)
  refine ⟨by decide, hrange, ?_⟩
  rw [hloop, hcrc]
  rfl

/-- Two contents of the memory differ in one word of the range, and in no other. -/
def DifferInOneWord (c : DramCrc) (dram dram' : ℕ → UInt32) : Prop :=
  ∃ i < c.len.toNat / 4, dram (c.src.toNat + 4 * i) ≠ dram' (c.src.toNat + 4 * i) ∧
    ∀ j < c.len.toNat / 4, j ≠ i → dram (c.src.toNat + 4 * j) = dram' (c.src.toNat + 4 * j)

/-- The words of the range before and after the one that differs. -/
lemma DifferInOneWord.split {c : DramCrc} {dram dram' : ℕ → UInt32}
    (h : DifferInOneWord c dram dram') :
    ∃ l l' w w', w ≠ w' ∧ c.addresses.map dram = l ++ w :: l' ∧
      c.addresses.map dram' = l ++ w' :: l' := by
  obtain ⟨i, hi, hne, hsame⟩ := h
  have hrange : List.range (c.len.toNat / 4)
      = List.range i ++ i :: (List.range (c.len.toNat / 4 - (i + 1))).map (i + 1 + ·) := by
    have hn : c.len.toNat / 4 = i + 1 + (c.len.toNat / 4 - (i + 1)) := by omega
    conv_lhs => rw [hn]
    rw [List.range_add, List.range_succ, List.append_assoc, List.singleton_append]
  have hmap : ∀ d : ℕ → UInt32, c.addresses.map d
      = (List.range i).map (fun j => d (c.src.toNat + 4 * j)) ++ d (c.src.toNat + 4 * i) ::
        (List.range (c.len.toNat / 4 - (i + 1))).map
          fun j => d (c.src.toNat + 4 * (i + 1 + j)) := by
    intro d
    rw [DramCrc.addresses, wordAddresses, hrange]
    simp only [List.map_append, List.map_cons, List.map_map, Function.comp_def]
  refine ⟨_, _, _, _, hne, hmap dram, ?_⟩
  rw [hmap dram']
  have hbefore : (List.range i).map (fun j => dram' (c.src.toNat + 4 * j))
      = (List.range i).map fun j => dram (c.src.toNat + 4 * j) := by
    refine List.map_congr_left fun j hj => ?_
    rw [List.mem_range] at hj
    rw [hsame j (by omega) (by omega)]
  have hafter : (List.range (c.len.toNat / 4 - (i + 1))).map
        (fun j => dram' (c.src.toNat + 4 * (i + 1 + j)))
      = (List.range (c.len.toNat / 4 - (i + 1))).map
        fun j => dram (c.src.toNat + 4 * (i + 1 + j)) := by
    refine List.map_congr_left fun j hj => ?_
    rw [List.mem_range] at hj
    rw [hsame (i + 1 + j) (by omega) (by omega)]
  rw [hbefore, hafter]

/-- A change in one word shows in the checksum. -/
lemma standbyDramCrc_ne {c : DramCrc} (h : c.InRange) {dram dram' : ℕ → UInt32}
    (hdiff : DifferInOneWord c dram dram') : standbyDramCrc dram c ≠ standbyDramCrc dram' c := by
  obtain ⟨l, l', w, w', hne, hl, hl'⟩ := hdiff.split
  rw [h.standbyDramCrc_words, h.standbyDramCrc_words, hl, hl']
  intro heq
  exact Crc.words_ne (by decide : bit crcPoly 31 = true) 0xffffffff l l' hne
    (UInt32.xor_left_inj _ |>.mp heq)

/-- **What is detected.** For every range that the check is configured with, two contents
of the memory that differ in one word of it, in whichever bits, have different checksums;
so a `dram_resume` that finds the one after a `dram_suspend` that found the other returns
`-EFAIL`. Of the state in between only the variables of the check must be kept. -/
theorem dramResume_detects (P : Platform σ) (s s' : System σ) (hon : s.crc.enable ≠ 0)
    (hrange : s.crc.InRange) (hkept : s'.crc = (dramSuspend P s).crc)
    (hdiff : DifferInOneWord s.crc (P.dram s.plat)
      (P.dram (P.dramPowerUpProcess s'.dtsDramPara s'.plat))) :
    standbyDramCrc (P.dram s.plat) s.crc
      ≠ standbyDramCrc (P.dram (P.dramPowerUpProcess s'.dtsDramPara s'.plat)) s.crc ∧
    (dramResume P s').1 = -eFail := by
  have hne := standbyDramCrc_ne hrange hdiff
  have hbefore : s'.crc = { s.crc with before := standbyDramCrc (P.dram s.plat) s.crc } := by
    rw [hkept, dramSuspend, dramCheckBefore, if_pos hon]
  refine ⟨hne, ?_⟩
  rw [dramResume, dramCheckAfter, hbefore, if_pos hon]
  exact if_pos fun heq => hne heq.symm

/-- The check finds the inverted word. -/
theorem dramResume_detects_inverted :
    (dramResume faultyDram.toPlatform (dramSuspend faultyDram.toPlatform checkedSystem)).1
      = -eFail := by
  have hrange : checkedSystem.crc.InRange :=
    ⟨by decide, by decide, by decide, by decide, by decide, by decide, by decide⟩
  have hdiff : DifferInOneWord checkedSystem.crc (fun _ => 0)
      (fun a => if a = 0x40000004 then ~~~0 else 0) := by
    refine ⟨1, by decide, by decide, fun j _ hj => ?_⟩
    have hne : checkedSystem.crc.src.toNat + 4 * j ≠ 0x40000004 := by
      have hsrc : checkedSystem.crc.src.toNat = 0x40000000 := by decide
      omega
    exact (if_neg hne).symm
  exact (dramResume_detects faultyDram.toPlatform checkedSystem
    (dramSuspend faultyDram.toPlatform checkedSystem) (by decide) hrange rfl hdiff).2

end Check

end A733Boot.Ar100s.Standby
