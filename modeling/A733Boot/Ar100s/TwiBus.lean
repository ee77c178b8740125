/-
Transfers over the two-wire interface: `twi_byte_rw`, `twi_stop`, `twi_read` and `twi_write` of
`ar100s/driver/twi/twi.c`, on any hardware.

The messages are left out, but for the registers that they read. The buffer of a transfer is a
part of the memory that the driver keeps, from an index on.

* `twiTransfer`: from the check of the bus to the last byte; a jump to the way out is a failure
  of the attempt;
* `Talks`: which status codes a part of it expects, and which bytes it sends;
* `twiByteRw_transcript` (**transcript**): a transfer sends a first part of its frame, returns
  zero exactly if every status code was the expected one, and requests a stop at the end;
* `Clearing`: the loops without a bound, of which one is busy for ever if a transfer does not
  return.
-/
import A733Boot.Library.Hardware
import A733Boot.Ar100s.Twi
import Mathlib.Data.Int.Bitwise

namespace A733Boot.Ar100s.Twi

open OptionT (lift)

def twiDtr : ℕ := 0x07083000 + 0x08
def twiCtr : ℕ := 0x07083000 + 0x0c
def twiStr : ℕ := 0x07083000 + 0x10
def twiSrr : ℕ := 0x07083000 + 0x18
def twiEfr : ℕ := 0x07083000 + 0x1c
def twiLcr : ℕ := 0x07083000 + 0x20

def twiBusEnb : UInt32 := 0x40
def twiMstart : UInt32 := 0x20
def twiMstop : UInt32 := 0x10
def twiIntflag : UInt32 := 0x08
def twiAack : UInt32 := 0x04

def twiCheckTimeout : ℕ := 0x07ff

inductive TwiRwType
  | write
  | read
deriving DecidableEq

/-- The buffers of the callers. -/
abbrev Buffer := ℕ → UInt8

section Code

variable {σ : Type} (h : Hardware σ)

def twiClearIrqFlag : Driver σ Buffer Unit := do
  let regVal ← h.readl twiCtr
  h.writel (regVal ||| twiIntflag) twiCtr
  let _ ← h.readl twiCtr
  h.waitWhile twiCtr fun v => v &&& twiIntflag ≠ 0

def twiEnableAck : Driver σ Buffer Unit := do
  let regVal ← h.readl twiCtr
  h.writel ((regVal ||| twiAack) &&& ~~~twiIntflag) twiCtr
  let _ ← h.readl twiCtr
  let _ ← h.readl twiCtr

def twiDisableAck : Driver σ Buffer Unit := do
  let regVal ← h.readl twiCtr
  h.writel (regVal &&& 0xff &&& ~~~twiAack &&& ~~~twiIntflag) twiCtr

def twicReset : Driver σ Buffer Unit := do
  h.writel 1 twiSrr
  h.waitWhile twiSrr fun v => v ≠ 0

def twiStart : Driver σ Buffer Unit := do
  let value ← h.readl twiCtr
  h.writel ((value ||| twiMstart) &&& ~~~twiIntflag) twiCtr

/-- The request of a stop, which the steps of `twi_stop` follow. -/
def twiRequestStop : Driver σ Buffer Unit := do
  let value ← h.readl twiCtr
  h.writel ((value ||| twiMstop) &&& ~~~twiIntflag) twiCtr

/-- The steps behind the request. Whether the stop bit is cleared in time is not looked at. -/
def twiStopWaits : Driver σ Buffer ℤ := do
  twiClearIrqFlag h
  let _ ← h.pollUntil twiCtr (fun v => v &&& twiMstop = 0) twiCheckTimeout
  if !(← h.pollUntil twiStr (fun v => v = 0xf8) twiCheckTimeout) then
    let _ ← h.readl twiStr
    twicReset h
    pure (-eFail)
  else if !(← h.pollUntil twiLcr (fun v => v = 0x3a) twiCheckTimeout) then
    let _ ← h.readl twiLcr
    pure (-eFail)
  else pure 0

def twiStop : Driver σ Buffer ℤ := do
  twiRequestStop h
  twiStopWaits h

/-- Jump to the way out, unless the condition holds. -/
def orStopOut (c : Prop) [Decidable c] : Attempt σ Buffer Unit := if c then pure () else failure

/-- Wait for the interrupt flag, reading the control register `n` times at most, and then look
for the status code, which `status` reads. -/
def twiCheck (n : ℕ) (status : Driver σ Buffer UInt32) (code : UInt32) : Attempt σ Buffer Unit := do
  let flag ← lift (h.pollUntil twiCtr (fun v => v &&& twiIntflag ≠ 0) n)
  orStopOut (flag = true)
  let state ← lift status
  orStopOut (state = code)

def twiExpect (n : ℕ) (code : UInt32) : Attempt σ Buffer Unit :=
  twiCheck h n (h.readl twiStr) code

def twiSendByte (value : UInt32) : Driver σ Buffer Unit := do
  h.writel value twiDtr
  twiClearIrqFlag h

/-- The loop over the bytes to be written, with `n` of them left, the next one at `i`. -/
def twiSendData : ℕ → ℕ → Attempt σ Buffer Unit
  | _, 0 => pure ()
  | i, n + 1 => do
      let data ← lift (getMem : Driver σ Buffer Buffer)
      lift (twiSendByte h (data i).toUInt32)
      twiExpect h (twiCheckTimeout + 1) 0x28
      twiSendData (i + 1) n

/-- Let the next byte come in, with `n` more to follow; the last one is not acknowledged. -/
def twiNextByte (n : ℕ) : Driver σ Buffer Unit :=
  (if n = 0 then twiDisableAck h else pure ()) >>= fun _ => twiClearIrqFlag h

/-- Store the byte that came in at `i`. -/
def twiStoreByte (i : ℕ) : Driver σ Buffer UInt32 := do
  let byte ← h.readl twiDtr
  modifyMem fun data => Function.update data i byte.toUInt8
  h.readl twiStr

def twiGetByte (i n : ℕ) : Attempt σ Buffer Unit := do
  lift (twiNextByte h n)
  twiCheck h (twiCheckTimeout + 1) (twiStoreByte h i) (if 0 < n then 0x50 else 0x58)

/-- The loop over the bytes to be read, with `n` of them left. -/
def twiGetData : ℕ → ℕ → Attempt σ Buffer Unit
  | _, 0 => pure ()
  | i, n + 1 => do
      twiGetByte h i n
      twiGetData (i + 1) n

/-- From the start condition to the last byte. -/
def twiConverse (op : TwiRwType) (saddr baddr : UInt8) (data len : ℕ) : Attempt σ Buffer Unit := do
  lift (twiStart h)
  twiExpect h twiCheckTimeout 0x08
  lift (twiSendByte h (saddr.toUInt32 <<< 1 &&& 0xfe))
  twiExpect h twiCheckTimeout 0x18
  lift (twiSendByte h baddr.toUInt32)
  twiExpect h twiCheckTimeout 0x28
  match op with
  | .write => twiSendData h data len
  | .read => do
      lift (twiStart h)
      lift (twiClearIrqFlag h)
      twiExpect h twiCheckTimeout 0x10
      lift (twiSendByte h (saddr.toUInt32 <<< 1 ||| 1))
      twiExpect h twiCheckTimeout 0x40
      twiGetData h data len

/-- From the check of the bus on. -/
def twiTransfer (op : TwiRwType) (saddr baddr : UInt8) (data len : ℕ) : Attempt σ Buffer Unit := do
  let state ← lift (h.readl twiStr)
  orStopOut (state &&& 0xff = 0xf8)
  twiConverse h op saddr baddr data len

def twiByteRw (lock : Bool) (op : TwiRwType) (saddr baddr : UInt8) (data : ℕ) (len : UInt32) :
    Driver σ Buffer ℤ :=
  if lock then pure (-eAcces)
  else if 4 < len then pure (-eInval)
  else do
    twiEnableAck h
    h.writel 0 twiEfr
    let done ← (twiTransfer h op saddr baddr data len.toNat).run
    let _ ← twiStop h
    pure (if done.isSome then 0 else -1)

/-- The loop of `twi_read` and `twi_write` over the register addresses, from one on. -/
def twiEach (lock : Bool) (op : TwiRwType) (devaddr : UInt8) :
    List UInt8 → ℕ → ℤ → Driver σ Buffer ℤ
  | [], _, ret => pure ret
  | addr :: addrs, data, ret => do
      let r ← twiByteRw h lock op devaddr addr data 1
      twiEach lock op devaddr addrs (data + 1) (Int.lor ret r)

def twiRead (lock : Bool) (devaddr : UInt32) (addr : List UInt8) (data : ℕ) : Driver σ Buffer ℤ :=
  twiEach h lock .read devaddr.toUInt8 addr data 0

def twiWrite (lock : Bool) (devaddr : UInt32) (addr : List UInt8) (data : ℕ) : Driver σ Buffer ℤ :=
  twiEach h lock .write devaddr.toUInt8 addr data 0

end Code

/-! ### What is on the bus -/

/-- The status codes of the bytes that are read. -/
def readCodes : ℕ → List UInt32
  | 0 => []
  | n + 1 => (if 0 < n then 0x50 else 0x58) :: readCodes n

/-- The status codes of a transfer that goes as it should, from the start condition on. -/
def statusCodes : TwiRwType → ℕ → List UInt32
  | .write, len => [0x08, 0x18, 0x28] ++ List.replicate len 0x28
  | .read, len => [0x08, 0x18, 0x28, 0x10, 0x40] ++ readCodes len

/-- The bytes of the buffer. -/
def bufferBytes (buf : Buffer) (data len : ℕ) : List UInt8 :=
  (List.range len).map fun i => buf (data + i)

/-- The bytes that the controller is given to send. -/
def frame (op : TwiRwType) (saddr baddr : UInt8) (bytes : List UInt8) : List UInt32 :=
  match op with
  | .write => [saddr.toUInt32 <<< 1 &&& 0xfe, baddr.toUInt32] ++ bytes.map UInt8.toUInt32
  | .read => [saddr.toUInt32 <<< 1 &&& 0xfe, baddr.toUInt32, saddr.toUInt32 <<< 1 ||| 1]

/-- The registers of a transfer. -/
def transferRegs : List ℕ := [twiCtr, twiStr, twiDtr]

section Talks

variable {σ α β : Type} {h : Hardware σ}

lemma clearIrqFlag_stays {as : List ℕ} (ha : twiCtr ∈ as) : Stays as (twiClearIrqFlag h) :=
  (Stays.readl ha).bind fun _ => (Stays.writel _ ha).bind fun _ => (Stays.readl ha).bind fun _ =>
    Stays.waitWhile ha _

lemma start_stays : Stays [twiCtr] (twiStart h) :=
  (Stays.readl (by simp)).bind fun _ => Stays.writel _ (by simp)

lemma disableAck_stays : Stays [twiCtr] (twiDisableAck h) :=
  (Stays.readl (by simp)).bind fun _ => Stays.writel _ (by simp)

lemma nextByte_stays (n : ℕ) : Stays [twiCtr] (twiNextByte h n) :=
  (Stays.ite disableAck_stays (Stays.pure ())).bind fun _ => clearIrqFlag_stays (by simp)

/-- The codes that were read fall short of the expected ones. -/
def Short (cs codes : List UInt32) : Prop := codes ≠ cs ∧ codes.length ≤ cs.length

lemma Short.append {cs codes : List UInt32} (h : Short cs codes) (cs' : List UInt32) :
    Short (cs ++ cs') codes := by
  refine ⟨fun heq => h.1 ?_, by rw [List.length_append]; have := h.2; omega⟩
  have hlen := h.2
  rw [heq, List.length_append] at hlen
  rw [heq, List.eq_nil_of_length_eq_zero (show cs'.length = 0 by omega), List.append_nil]

lemma Short.cons {cs codes : List UInt32} (h : Short cs codes) (cs' : List UInt32) :
    Short (cs' ++ cs) (cs' ++ codes) :=
  ⟨fun heq => h.1 (List.append_cancel_left heq), by
    rw [List.length_append, List.length_append]; have := h.2; omega⟩

/-- A part of a transfer that expects the codes and sends the bytes, and leaves the buffers
alone; on the way out, the codes fall short. -/
def Talks (m : Attempt σ Buffer Unit) (cs : List UInt32) (fs : Buffer → List UInt32) : Prop :=
  Tries m
    (fun x _ l y => y = x ∧ Only transferRegs l ∧ readsOf twiStr l = cs ∧
      writesOf twiDtr l = fs x ∧ readsOf twiDtr l = [])
    fun x l y => y = x ∧ Only transferRegs l ∧ Short cs (readsOf twiStr l) ∧
      writesOf twiDtr l <+: fs x

lemma Talks.bind {m m' : Attempt σ Buffer Unit} {cs cs' : List UInt32}
    {fs fs' : Buffer → List UInt32} (hm : Talks m cs fs) (hm' : Talks m' cs' fs') :
    Talks (m >>= fun _ => m') (cs ++ cs') fun x => fs x ++ fs' x := by
  refine (Tries.bind hm fun _ => hm').mono ?_ ?_
  · rintro x - l z ⟨-, l₁, l₂, y, rfl, ⟨rfl, h₁, hc₁, hf₁, hg₁⟩, rfl, h₂, hc₂, hf₂, hg₂⟩
    exact ⟨rfl, h₁.append h₂, by rw [readsOf_append, hc₁, hc₂], by rw [writesOf_append, hf₁, hf₂],
      by rw [readsOf_append, hg₁, hg₂, List.append_nil]⟩
  · rintro x l z (⟨rfl, h₁, hc₁, hf₁⟩ | ⟨-, l₁, l₂, y, rfl, ⟨rfl, h₁, hc₁, hf₁, -⟩, rfl, h₂, hc₂, hf₂⟩)
    · exact ⟨rfl, h₁, hc₁.append cs', hf₁.trans (List.prefix_append _ _)⟩
    · refine ⟨rfl, h₁.append h₂, ?_, ?_⟩
      · rw [readsOf_append, hc₁]
        exact hc₂.cons cs
      · rw [writesOf_append, hf₁]
        exact (List.prefix_append_right_inj _).mpr hf₂

namespace Talks

lemma pure : Talks (Pure.pure () : Attempt σ Buffer Unit) [] fun _ => [] := by
  refine (Tries.lift (m := (Pure.pure () : Driver σ Buffer Unit)) (Does.pure ())).mono ?_ ?_
  · rintro x b l y ⟨-, rfl, rfl⟩
    exact ⟨rfl, only_nil, rfl, rfl, rfl⟩
  · exact fun _ _ _ h => absurd h not_false

lemma quiet {m : Driver σ Buffer Unit} (hm : Stays [twiCtr] m) :
    Talks (lift m) [] fun _ => [] := by
  refine (Tries.lift hm).mono ?_ fun _ _ _ h => absurd h not_false
  rintro x b l y ⟨honly, rfl⟩
  exact ⟨rfl, honly.mono (by simp [transferRegs]), honly.readsOf (by decide),
    honly.writesOf (by decide), honly.readsOf (by decide)⟩

lemma sendByte (v : UInt32) : Talks (lift (twiSendByte h v)) [] fun _ => [v] := by
  have hsend : Does (twiSendByte h v) fun x _ l y => ∃ l', l = .write twiDtr v :: l' ∧
      Only [twiCtr] l' ∧ y = x := by
    refine ((Does.writel v twiDtr).bind fun _ =>
      clearIrqFlag_stays (List.mem_singleton_self _)).mono ?_
    rintro x b l z ⟨-, l₁, l₂, y, rfl, ⟨rfl, rfl⟩, honly, rfl⟩
    exact ⟨l₂, rfl, honly, rfl⟩
  refine (Tries.lift hsend).mono ?_ fun _ _ _ h => absurd h not_false
  rintro x b l y ⟨l', rfl, honly, rfl⟩
  have hwrite : Only transferRegs [.write twiDtr v] := by
    intro z hz
    rw [List.mem_singleton.mp hz]
    simp [transferRegs, Access.addr]
  refine ⟨rfl, hwrite.append (honly.mono (by simp [transferRegs])), honly.readsOf (by decide), ?_,
    honly.readsOf (by decide)⟩
  rw [← List.singleton_append, writesOf_append, honly.writesOf (by decide), List.append_nil]
  rfl

/-- A check that jumps if it fails. -/
lemma orStopOut_tries (c : Prop) [Decidable c] :
    Tries (orStopOut c : Attempt σ Buffer Unit) (fun x _ l y => c ∧ l = [] ∧ y = x)
      fun x l y => ¬ c ∧ l = [] ∧ y = x := by
  intro s r s' hrun
  by_cases hc : c
  · rw [orStopOut, if_pos hc] at hrun
    obtain ⟨rfl, rfl⟩ := Prod.mk.inj (Option.some.inj hrun)
    exact ⟨[], (List.append_nil _).symm, hc, rfl, rfl⟩
  · rw [orStopOut, if_neg hc] at hrun
    obtain ⟨rfl, rfl⟩ := Prod.mk.inj (Option.some.inj hrun)
    exact ⟨[], (List.append_nil _).symm, hc, rfl, rfl⟩

/-- The way through a check, and the two ways out of it. -/
lemma check_tries {m : Driver σ Buffer UInt32} {P : Buffer → UInt32 → List Access → Buffer → Prop}
    (hm : Does m P) (n : ℕ) (code : UInt32) :
    Tries (twiCheck h n m code)
      (fun x _ l y => ∃ l₁ l₂, l = l₁ ++ l₂ ∧ Only [twiCtr] l₁ ∧ P x code l₂ y)
      fun x l y => (Only [twiCtr] l ∧ y = x) ∨
        ∃ l₁ l₂ state, l = l₁ ++ l₂ ∧ Only [twiCtr] l₁ ∧ state ≠ code ∧ P x state l₂ y := by
  have hpoll := Stays.pollUntil (h := h) (μ := Buffer) (List.mem_singleton_self twiCtr)
    (fun v => v &&& twiIntflag ≠ 0) n
  refine ((Tries.lift hpoll).bind fun flag =>
    (orStopOut_tries (flag = true)).bind fun _ => (Tries.lift hm).bind fun state =>
    orStopOut_tries (state = code)).mono ?_ ?_
  · rintro x - l z ⟨flag, l₁, l₂, y, rfl, ⟨honly, rfl⟩, -, l₃, l₄, y₃, rfl, ⟨-, rfl, rfl⟩, state,
      l₅, l₆, y₅, rfl, hP, rfl, rfl, rfl⟩
    exact ⟨l₁, l₅, by simp, honly, hP⟩
  · rintro x l z (hfalse | ⟨flag, l₁, l₂, y, rfl, ⟨honly, rfl⟩, ⟨-, rfl, rfl⟩ | ⟨-, l₃, l₄, y₃, rfl,
      ⟨-, rfl, rfl⟩, hfalse | ⟨state, l₅, l₆, y₅, rfl, hP, hne, rfl, rfl⟩⟩⟩)
    · exact absurd hfalse not_false
    · exact .inl ⟨honly.append only_nil, rfl⟩
    · exact absurd hfalse not_false
    · exact .inr ⟨l₁, l₅, state, by simp, honly, hne, hP⟩

lemma only_read_transfer {a : ℕ} (ha : a ∈ transferRegs) (v : UInt32) :
    Only transferRegs [.read a v] :=
  (Does.only_read a v).1.mono (List.cons_subset.mpr ⟨ha, List.nil_subset _⟩)

lemma ctr_mem : [twiCtr] ⊆ transferRegs := by simp [transferRegs]

lemma expect (n : ℕ) (code : UInt32) : Talks (twiExpect h n code) [code] fun _ => [] := by
  have hstr := only_read_transfer (a := twiStr) (by simp [transferRegs])
  refine (check_tries (Does.readl twiStr) n code).mono ?_ ?_
  · rintro x - l z ⟨l₁, l₂, rfl, honly, rfl, rfl⟩
    refine ⟨rfl, (honly.mono ctr_mem).append (hstr code), ?_, ?_, ?_⟩
    · rw [readsOf_append, honly.readsOf (by decide)]
      rfl
    · rw [writesOf_append, honly.writesOf (by decide)]
      rfl
    · rw [readsOf_append, honly.readsOf (by decide)]
      rfl
  · rintro x l z (⟨honly, rfl⟩ | ⟨l₁, l₂, state, rfl, honly, hne, rfl, rfl⟩)
    · refine ⟨rfl, honly.mono ctr_mem, ?_, ?_⟩
      · rw [honly.readsOf (by decide)]
        exact ⟨by simp, by simp⟩
      · rw [honly.writesOf (by decide)]
    · refine ⟨rfl, (honly.mono ctr_mem).append (hstr state), ?_, ?_⟩
      · rw [readsOf_append, honly.readsOf (by decide)]
        exact ⟨fun heq => hne (List.cons.inj heq).1, le_rfl⟩
      · rw [writesOf_append, honly.writesOf (by decide)]
        exact List.prefix_refl _

/-- What is sent may depend on the buffers. -/
lemma getMem {f : Buffer → Attempt σ Buffer Unit} {cs : List UInt32}
    {fs : Buffer → Buffer → List UInt32} (hf : ∀ x, Talks (f x) cs (fs x)) :
    Talks (lift (getMem : Driver σ Buffer Buffer) >>= f) cs fun x => fs x x := by
  refine (Tries.bind (Tries.lift Does.getMem) hf).mono ?_ ?_
  · rintro x - l z ⟨a, l₁, l₂, y, rfl, ⟨rfl, rfl, rfl⟩, hspec⟩
    exact hspec
  · rintro x l z (hfalse | ⟨a, l₁, l₂, y, rfl, ⟨rfl, rfl, rfl⟩, hspec⟩)
    · exact absurd hfalse not_false
    · exact hspec

lemma congr {m : Attempt σ Buffer Unit} {cs cs' : List UInt32} {fs fs' : Buffer → List UInt32}
    (hm : Talks m cs fs) (hcs : cs = cs') (hfs : ∀ x, fs x = fs' x) : Talks m cs' fs' := by
  obtain rfl : fs = fs' := funext hfs
  rwa [hcs] at hm

end Talks

lemma bufferBytes_succ (buf : Buffer) (i n : ℕ) :
    bufferBytes buf i (n + 1) = buf i :: bufferBytes buf (i + 1) n := by
  rw [bufferBytes, List.range_succ_eq_map, List.map_cons, List.map_map, bufferBytes]
  refine congrArg (buf i :: ·) (List.map_congr_left fun j _ => congrArg buf ?_)
  show i + (j + 1) = i + 1 + j
  omega

lemma sendData_talks (i n : ℕ) : Talks (twiSendData h i n) (List.replicate n 0x28)
    fun x => (bufferBytes x i n).map UInt8.toUInt32 := by
  induction n generalizing i with
  | zero => exact Talks.pure
  | succ n ih =>
    refine (Talks.getMem fun x => (Talks.sendByte (x i).toUInt32).bind
      ((Talks.expect (twiCheckTimeout + 1) 0x28).bind (ih (i + 1)))).congr rfl fun x => ?_
    rw [bufferBytes_succ]
    rfl

/-- A part of a transfer that expects the codes and stores what comes in at `i` and behind,
`n` bytes. -/
def Gets (m : Attempt σ Buffer Unit) (cs : List UInt32) (i n : ℕ) : Prop :=
  Tries m
    (fun x _ l y => Only transferRegs l ∧ readsOf twiStr l = cs ∧ writesOf twiDtr l = [] ∧
      (readsOf twiDtr l).map UInt32.toUInt8 = bufferBytes y i n ∧
      ∀ j, j < i ∨ i + n ≤ j → y j = x j)
    fun x l y => Only transferRegs l ∧ Short cs (readsOf twiStr l) ∧ writesOf twiDtr l = [] ∧
      ∀ j, j < i ∨ i + n ≤ j → y j = x j

lemma storeByte_does (i : ℕ) : Does (twiStoreByte h i) fun x state l y => ∃ v : UInt32,
    l = [.read twiDtr v, .read twiStr state] ∧ y = Function.update x i v.toUInt8 := by
  have hrest (byte : UInt32) :=
    (@Does.modifyMem σ Buffer fun data => Function.update data i byte.toUInt8).bind
      fun _ => Does.readl (h := h) twiStr
  refine ((Does.readl twiDtr).bind hrest).mono ?_
  rintro x state l z ⟨v, l₁, l₂, y, rfl, ⟨rfl, rfl⟩, -, l₃, l₄, w, rfl, ⟨rfl, rfl⟩, rfl, rfl⟩
  exact ⟨v, rfl, rfl⟩

lemma getByte_gets (i n : ℕ) : Gets (twiGetByte h i n) [if 0 < n then 0x50 else 0x58] i 1 := by
  have hbyte (v state : UInt32) : Only transferRegs [.read twiDtr v, .read twiStr state] :=
    (Talks.only_read_transfer (by simp [transferRegs]) v).append
      (Talks.only_read_transfer (by simp [transferRegs]) state)
  have hkeep (x : Buffer) (b : UInt8) (j : ℕ) (hj : j < i ∨ i + 1 ≤ j) :
      Function.update x i b j = x j := Function.update_of_ne (by omega) _ _
  refine ((Tries.lift (nextByte_stays n)).bind fun _ => Talks.check_tries (storeByte_does i)
    (twiCheckTimeout + 1) (if 0 < n then 0x50 else 0x58)).mono ?_ ?_
  · rintro x - l z ⟨-, l₁, l₂, y, rfl, ⟨h₁, rfl⟩, l₃, l₄, rfl, h₂, v, rfl, rfl⟩
    refine ⟨(h₁.mono Talks.ctr_mem).append ((h₂.mono Talks.ctr_mem).append (hbyte v _)), ?_, ?_, ?_,
      hkeep _ _⟩
    · rw [readsOf_append, readsOf_append, h₁.readsOf (by decide), h₂.readsOf (by decide)]
      rfl
    · rw [writesOf_append, writesOf_append, h₁.writesOf (by decide), h₂.writesOf (by decide)]
      rfl
    · rw [readsOf_append, readsOf_append, h₁.readsOf (by decide), h₂.readsOf (by decide)]
      show [v.toUInt8] = [Function.update y i v.toUInt8 (i + 0)]
      rw [Nat.add_zero, Function.update_self]
  · rintro x l z (hfalse | ⟨-, l₁, l₂, y, rfl, ⟨h₁, rfl⟩, ⟨h₂, rfl⟩ |
      ⟨l₃, l₄, state, rfl, h₂, hne, v, rfl, rfl⟩⟩)
    · exact absurd hfalse not_false
    · refine ⟨(h₁.append h₂).mono Talks.ctr_mem, ?_, (h₁.append h₂).writesOf (by decide),
        fun _ _ => rfl⟩
      rw [(h₁.append h₂).readsOf (by decide)]
      exact ⟨by simp, by simp⟩
    · refine ⟨(h₁.mono Talks.ctr_mem).append ((h₂.mono Talks.ctr_mem).append (hbyte v _)), ?_, ?_,
        hkeep _ _⟩
      · rw [readsOf_append, readsOf_append, h₁.readsOf (by decide), h₂.readsOf (by decide)]
        exact ⟨fun heq => hne (List.cons.inj heq).1, le_rfl⟩
      · rw [writesOf_append, writesOf_append, h₁.writesOf (by decide), h₂.writesOf (by decide)]
        rfl

lemma getData_gets (i n : ℕ) : Gets (twiGetData h i n) (readCodes n) i n := by
  induction n generalizing i with
  | zero =>
    refine (Tries.lift (m := (pure () : Driver σ Buffer Unit)) (Does.pure ())).mono ?_
      fun _ _ _ h => absurd h not_false
    rintro x b l y ⟨-, rfl, rfl⟩
    exact ⟨only_nil, rfl, rfl, rfl, fun _ _ => rfl⟩
  | succ n ih =>
    refine ((getByte_gets i n).bind fun _ => ih (i + 1)).mono ?_ ?_
    · rintro x - l z ⟨-, l₁, l₂, y, rfl, ⟨h₁, hc₁, hw₁, hg₁, hk₁⟩, h₂, hc₂, hw₂, hg₂, hk₂⟩
      refine ⟨h₁.append h₂, by rw [readsOf_append, hc₁, hc₂]; rfl,
        by rw [writesOf_append, hw₁, hw₂]; rfl, ?_, fun j hj => ?_⟩
      · rw [readsOf_append, List.map_append, hg₁, hg₂, bufferBytes_succ z i n]
        show [y i] ++ _ = _
        rw [← hk₂ i (.inl (by omega))]
        rfl
      · rw [hk₂ j (by omega), hk₁ j (by omega)]
    · rintro x l z (⟨h₁, hc₁, hw₁, hk₁⟩ | ⟨-, l₁, l₂, y, rfl, ⟨h₁, hc₁, hw₁, hg₁, hk₁⟩, h₂, hc₂, hw₂,
        hk₂⟩)
      · exact ⟨h₁, hc₁.append (readCodes n), hw₁, fun j hj => hk₁ j (by omega)⟩
      · refine ⟨h₁.append h₂, ?_, by rw [writesOf_append, hw₁, hw₂]; rfl, fun j hj => ?_⟩
        · rw [readsOf_append, hc₁]
          exact hc₂.cons _
        · rw [hk₂ j (by omega), hk₁ j (by omega)]

/-- The rest of a transfer: it expects the codes and sends the bytes, and what comes in and the
buffer are as `S` and `K` say. -/
def Ends (m : Attempt σ Buffer Unit) (cs : List UInt32) (fs : Buffer → List UInt32)
    (S : List UInt32 → Buffer → Prop) (K : Buffer → Buffer → Prop) : Prop :=
  Tries m
    (fun x _ l y => Only transferRegs l ∧ readsOf twiStr l = cs ∧ writesOf twiDtr l = fs x ∧
      S (readsOf twiDtr l) y ∧ K x y)
    fun x l y => Only transferRegs l ∧ Short cs (readsOf twiStr l) ∧ writesOf twiDtr l <+: fs x ∧
      K x y

/-- A part in front of the rest. -/
lemma Talks.ends {m m' : Attempt σ Buffer Unit} {cs cs' : List UInt32}
    {fs fs' : Buffer → List UInt32} {S : List UInt32 → Buffer → Prop} {K : Buffer → Buffer → Prop}
    (hK : ∀ x, K x x) (hm : Talks m cs fs) (hm' : Ends m' cs' fs' S K) :
    Ends (m >>= fun _ => m') (cs ++ cs') (fun x => fs x ++ fs' x) S K := by
  refine (Tries.bind hm fun _ => hm').mono ?_ ?_
  · rintro x - l z ⟨-, l₁, l₂, y, rfl, ⟨rfl, h₁, hc₁, hf₁, hg₁⟩, h₂, hc₂, hf₂, hS, hk⟩
    refine ⟨h₁.append h₂, by rw [readsOf_append, hc₁, hc₂], by rw [writesOf_append, hf₁, hf₂], ?_, hk⟩
    rw [readsOf_append, hg₁]
    exact hS
  · rintro x l z (⟨rfl, h₁, hc₁, hf₁⟩ | ⟨-, l₁, l₂, y, rfl, ⟨rfl, h₁, hc₁, hf₁, -⟩, h₂, hc₂, hf₂, hk⟩)
    · exact ⟨h₁, hc₁.append cs', hf₁.trans (List.prefix_append _ _), hK z⟩
    · refine ⟨h₁.append h₂, ?_, ?_, hk⟩
      · rw [readsOf_append, hc₁]
        exact hc₂.cons cs
      · rw [writesOf_append, hf₁]
        exact (List.prefix_append_right_inj _).mpr hf₂

/-- What a transfer of the kind leaves alone in the buffers. -/
def Kept (op : TwiRwType) (data len : ℕ) (x y : Buffer) : Prop :=
  match op with
  | .write => y = x
  | .read => ∀ j, j < data ∨ data + len ≤ j → y j = x j

/-- The bytes that came in are in the buffer. -/
def Stored (op : TwiRwType) (data len : ℕ) (bytes : List UInt32) (y : Buffer) : Prop :=
  match op with
  | .write => True
  | .read => bytes.map UInt32.toUInt8 = bufferBytes y data len

lemma kept_refl (op : TwiRwType) (data len : ℕ) (x : Buffer) : Kept op data len x x := by
  cases op with
  | write => rfl
  | read => exact fun _ _ => rfl

lemma Ends.congr {m : Attempt σ Buffer Unit} {cs cs' : List UInt32}
    {fs fs' : Buffer → List UInt32} {S : List UInt32 → Buffer → Prop} {K : Buffer → Buffer → Prop}
    (hm : Ends m cs fs S K) (hcs : cs = cs') (hfs : ∀ x, fs x = fs' x) : Ends m cs' fs' S K := by
  obtain rfl : fs = fs' := funext hfs
  rwa [hcs] at hm

/-- The start condition, the address of the device and that of the register. -/
lemma address_ends {m : Attempt σ Buffer Unit} {cs : List UInt32} {fs : Buffer → List UInt32}
    {S : List UInt32 → Buffer → Prop} {K : Buffer → Buffer → Prop} (hK : ∀ x, K x x)
    (hm : Ends m cs fs S K) (v w : UInt32) :
    Ends (do
      lift (twiStart h)
      twiExpect h twiCheckTimeout 0x08
      lift (twiSendByte h v)
      twiExpect h twiCheckTimeout 0x18
      lift (twiSendByte h w)
      twiExpect h twiCheckTimeout 0x28
      m) ([0x08, 0x18, 0x28] ++ cs) (fun x => [v, w] ++ fs x) S K :=
  Ends.congr ((Talks.quiet start_stays).ends hK <| (Talks.expect twiCheckTimeout 0x08).ends hK <|
    (Talks.sendByte v).ends hK <| (Talks.expect twiCheckTimeout 0x18).ends hK <|
      (Talks.sendByte w).ends hK <| (Talks.expect twiCheckTimeout 0x28).ends hK hm)
    rfl fun _ => rfl

/-- The repeated start condition and the address of the device. -/
lemma restart_ends {m : Attempt σ Buffer Unit} {cs : List UInt32} {fs : Buffer → List UInt32}
    {S : List UInt32 → Buffer → Prop} {K : Buffer → Buffer → Prop} (hK : ∀ x, K x x)
    (hm : Ends m cs fs S K) (v : UInt32) :
    Ends (do
      lift (twiStart h)
      lift (twiClearIrqFlag h)
      twiExpect h twiCheckTimeout 0x10
      lift (twiSendByte h v)
      twiExpect h twiCheckTimeout 0x40
      m) ([0x10, 0x40] ++ cs) (fun x => [v] ++ fs x) S K :=
  Ends.congr ((Talks.quiet start_stays).ends hK <|
    (Talks.quiet (clearIrqFlag_stays (List.mem_singleton_self _))).ends hK <|
    (Talks.expect twiCheckTimeout 0x10).ends hK <| (Talks.sendByte v).ends hK <|
      (Talks.expect twiCheckTimeout 0x40).ends hK hm) rfl fun _ => rfl

lemma converse_ends (op : TwiRwType) (saddr baddr : UInt8) (data len : ℕ) :
    Ends (twiConverse h op saddr baddr data len) (statusCodes op len)
      (fun x => frame op saddr baddr (bufferBytes x data len)) (Stored op data len)
      (Kept op data len) := by
  cases op with
  | write =>
    have hdata : Ends (twiSendData h data len) (List.replicate len 0x28)
        (fun x => (bufferBytes x data len).map UInt8.toUInt32) (Stored .write data len)
        (Kept .write data len) := by
      refine (sendData_talks data len).mono ?_ ?_
      · rintro x - l y ⟨rfl, honly, hcodes, hsent, -⟩
        exact ⟨honly, hcodes, hsent, trivial, rfl⟩
      · rintro x l y ⟨rfl, honly, hcodes, hsent⟩
        exact ⟨honly, hcodes, hsent, rfl⟩
    exact address_ends (kept_refl .write data len) hdata _ _
  | read =>
    have hdata : Ends (twiGetData h data len) (readCodes len) (fun _ => []) (Stored .read data len)
        (Kept .read data len) := by
      refine (getData_gets data len).mono ?_ ?_
      · rintro x - l y ⟨honly, hcodes, hsent, hgot, hkept⟩
        exact ⟨honly, hcodes, hsent, hgot, hkept⟩
      · rintro x l y ⟨honly, hcodes, hsent, hkept⟩
        exact ⟨honly, hcodes, by rw [hsent], hkept⟩
    exact address_ends (kept_refl .read data len)
      (restart_ends (kept_refl .read data len) hdata _) _ _

lemma transfer_tries (op : TwiRwType) (saddr baddr : UInt8) (data len : ℕ) :
    Tries (twiTransfer h op saddr baddr data len)
      (fun x _ l y => ∃ c l', l = .read twiStr c :: l' ∧ c &&& 0xff = 0xf8 ∧
        Only transferRegs l' ∧ readsOf twiStr l' = statusCodes op len ∧
        writesOf twiDtr l' = frame op saddr baddr (bufferBytes x data len) ∧
        Stored op data len (readsOf twiDtr l') y ∧ Kept op data len x y)
      fun x l y => ∃ c l', l = .read twiStr c :: l' ∧
        (c &&& 0xff = 0xf8 → Short (statusCodes op len) (readsOf twiStr l')) ∧
        Only transferRegs l' ∧
        writesOf twiDtr l' <+: frame op saddr baddr (bufferBytes x data len) ∧
        Kept op data len x y := by
  refine ((Tries.lift (Does.readl (h := h) twiStr)).bind fun state =>
    (Talks.orStopOut_tries (state &&& 0xff = 0xf8)).bind fun _ =>
      converse_ends op saddr baddr data len).mono ?_ ?_
  · rintro x - l z ⟨c, l₁, l₂, y, rfl, ⟨rfl, rfl⟩, -, l₃, l₄, y₃, rfl, ⟨hc, rfl, rfl⟩, hrest⟩
    exact ⟨c, l₄, rfl, hc, hrest⟩
  · rintro x l z (hfalse | ⟨c, l₁, l₂, y, rfl, ⟨rfl, rfl⟩, ⟨hc, rfl, rfl⟩ |
      ⟨-, l₃, l₄, y₃, rfl, ⟨hc, rfl, rfl⟩, honly, hshort, hsent, hkept⟩⟩)
    · exact absurd hfalse not_false
    · exact ⟨c, [], rfl, fun hidle => absurd hidle hc, only_nil, List.nil_prefix,
        kept_refl op data len _⟩
    · exact ⟨c, l₄, rfl, fun _ => hshort, honly, hsent, hkept⟩

/-- The accesses of `twi_stop`, the first of which request the stop. -/
def IsStop (l : List Access) : Prop :=
  ∃ v l', l = .read twiCtr v :: .write twiCtr ((v ||| twiMstop) &&& ~~~twiIntflag) :: l' ∧
    Only [twiCtr, twiStr, twiSrr, twiLcr] l'

lemma stop_does : Does (twiStop h) fun x _ l y => IsStop l ∧ y = x := by
  have hreset : Stays [twiCtr, twiStr, twiSrr, twiLcr] (twicReset h) :=
    (Stays.writel _ (by simp)).bind fun _ => Stays.waitWhile (by simp) _
  have hrest : Stays [twiCtr, twiStr, twiSrr, twiLcr] (twiStopWaits h) :=
    (clearIrqFlag_stays (by simp)).bind fun _ =>
      (Stays.pollUntil (by simp) _ _).bind fun _ => (Stays.pollUntil (by simp) _ _).bind fun _ =>
        .ite ((Stays.readl (by simp)).bind fun _ => hreset.bind fun _ => .pure _)
          ((Stays.pollUntil (by simp) _ _).bind fun _ =>
            .ite ((Stays.readl (by simp)).bind fun _ => .pure _) (.pure _))
  refine (((Does.readl twiCtr).bind fun v => Does.writel ((v ||| twiMstop) &&& ~~~twiIntflag)
    twiCtr).bind fun _ => hrest).mono ?_
  rintro x b l z ⟨-, l₁, l₂, y, rfl, ⟨v, l₃, l₄, y₃, rfl, ⟨rfl, rfl⟩, rfl, rfl⟩, honly, rfl⟩
  exact ⟨⟨v, l₂, rfl, honly⟩, rfl⟩

end Talks

/-! ### Whole transfers -/

/-- What a transfer has done that returns `r`: the accesses `T` of the transfer and the accesses
`S` of the stop behind it. -/
structure Transcript (op : TwiRwType) (saddr baddr : UInt8) (data len : ℕ) (x y : Buffer) (r : ℤ)
    (T S : List Access) : Prop where
  ret : r = 0 ∨ r = -1
  regs : Only (twiEfr :: transferRegs) T
  /-- The bus is idle, and then the status codes are as they should be, exactly if it succeeds. -/
  codes : ∃ c cs, readsOf twiStr T = c :: cs ∧
    (r = 0 ↔ c &&& 0xff = 0xf8 ∧ cs = statusCodes op len)
  /-- A first part of the frame is sent, and all of it if the transfer succeeds. -/
  sent : writesOf twiDtr T <+: frame op saddr baddr (bufferBytes x data len)
  complete : r = 0 → writesOf twiDtr T = frame op saddr baddr (bufferBytes x data len) ∧
    Stored op data len (readsOf twiDtr T) y
  kept : Kept op data len x y
  stop : IsStop S

section Transfers

variable {σ : Type} {h : Hardware σ} {op : TwiRwType} {saddr baddr : UInt8} {data : ℕ}
  {len : UInt32}

lemma enableAck_stays : Stays [twiCtr] (twiEnableAck h) :=
  (Stays.readl (by simp)).bind fun _ => (Stays.writel _ (by simp)).bind fun _ =>
    (Stays.readl (by simp)).bind fun _ => (Stays.readl (by simp)).bind fun _ => .pure _

/-- The way in, the transfer and the way out. -/
lemma byteRw_does (hlen : ¬ 4 < len) :
    Does (twiByteRw h false op saddr baddr data len) fun x r l y => ∃ T S, l = T ++ S ∧
      Transcript op saddr baddr data len.toNat x y r T S := by
  have hrun : twiByteRw h false op saddr baddr data len =
      (twiEnableAck h >>= fun _ => h.writel 0 twiEfr >>= fun _ =>
        (twiTransfer h op saddr baddr data len.toNat).run >>= fun done => twiStop h >>= fun _ =>
          pure (if done.isSome then 0 else -1)) := by
    rw [twiByteRw, if_neg Bool.false_ne_true, if_neg hlen]
  have hefr : Stays [twiEfr] (h.writel 0 twiEfr : Driver σ Buffer Unit) := .writel 0 (by simp)
  rw [hrun]
  refine (Does.bind enableAck_stays fun _ => Does.bind hefr fun _ =>
    Does.bind (transfer_tries op saddr baddr data len.toNat) fun done => stop_does.bind fun _ =>
      Does.pure (if done.isSome then (0 : ℤ) else -1)).mono ?_
  rintro x r l z ⟨-, l₁, l₂, y₁, rfl, ⟨h₁, rfl⟩, -, l₃, l₄, y₃, rfl, ⟨h₃, rfl⟩, done, l₅, l₆, y₅, rfl,
    hdone, -, S, l₈, y₇, rfl, ⟨hstop, rfl⟩, rfl, rfl, rfl⟩
  have hin : Only (twiEfr :: transferRegs) (l₁ ++ l₃) :=
    (h₁.mono (by simp [transferRegs])).append (h₃.mono (by simp [transferRegs]))
  have hcodes (c : UInt32) (l' : List Access) :
      readsOf twiStr (l₁ ++ l₃ ++ .read twiStr c :: l') = c :: readsOf twiStr l' := by
    rw [readsOf_append, readsOf_append, h₁.readsOf (by decide), h₃.readsOf (by decide)]
    rfl
  have hread (c : UInt32) (l' : List Access) :
      readsOf twiDtr (l₁ ++ l₃ ++ .read twiStr c :: l') = readsOf twiDtr l' := by
    rw [readsOf_append, readsOf_append, h₁.readsOf (by decide), h₃.readsOf (by decide)]
    rfl
  have hsent (c : UInt32) (l' : List Access) :
      writesOf twiDtr (l₁ ++ l₃ ++ .read twiStr c :: l') = writesOf twiDtr l' := by
    rw [writesOf_append, writesOf_append, h₁.writesOf (by decide), h₃.writesOf (by decide)]
    rfl
  have hregs (c : UInt32) (l' : List Access) (hl' : Only transferRegs l') :
      Only (twiEfr :: transferRegs) (l₁ ++ l₃ ++ .read twiStr c :: l') :=
    hin.append ((Talks.only_read_transfer (by simp [transferRegs]) c).append hl' |>.mono
      (List.subset_cons_self _ _))
  refine ⟨l₁ ++ l₃ ++ l₅, S, by simp, ?_⟩
  cases done with
  | some u =>
    obtain ⟨c, l', rfl, hc, honly, hcs, hfs, hgot, hkept⟩ := hdone
    refine ⟨.inl rfl, hregs c l' honly, ⟨c, _, hcodes c l', fun _ => ⟨hc, hcs⟩, fun _ => rfl⟩, ?_,
      fun _ => ⟨?_, ?_⟩, hkept, hstop⟩
    · rw [hsent, hfs]
    · rw [hsent, hfs]
    · rw [hread]
      exact hgot
  | none =>
    obtain ⟨c, l', rfl, hshort, honly, hfs, hkept⟩ := hdone
    refine ⟨.inr rfl, hregs c l' honly, ⟨c, _, hcodes c l', ?_⟩, ?_, fun hr => ?_, hkept, hstop⟩
    · exact iff_of_false (by decide) fun hgood => (hshort hgood.1).1 hgood.2
    · rw [hsent]
      exact hfs
    · exact absurd hr (by decide)

/-! ### Transfers that end -/

/-- The loops that wait for a register to clear, by what has just been accessed: the interrupt
flag behind the write that clears it, and the reset register behind the write that sets it off. -/
inductive Clearing : ℕ → (UInt32 → Bool) → Machine σ Buffer → Prop
  | flag {s : Machine σ Buffer} (hlog : ∃ l v w,
      s.log = l ++ [.read twiCtr v, .write twiCtr (v ||| twiIntflag), .read twiCtr w]) :
      Clearing twiCtr (fun v => v &&& twiIntflag ≠ 0) s
  | reset {s : Machine σ Buffer} (hlog : ∃ l, s.log = l ++ [.write twiSrr 1]) :
      Clearing twiSrr (fun v => v ≠ 0) s

/-- The flag stays set behind the write, from the second read on. -/
lemma clearIrqFlag_stuck {s : Machine σ Buffer}
    (hbusy : h.BusyForEver twiCtr (fun v => v &&& twiIntflag ≠ 0)
      (h.read twiCtr (h.write twiCtr ((h.read twiCtr s.hw).1 ||| twiIntflag)
        (h.read twiCtr s.hw).2)).2) : Stuck h Clearing (twiClearIrqFlag h) s := by
  have hlog (v v' w : UInt32) : s.log ++ [.read twiCtr v] ++ [.write twiCtr v'] ++
      [.read twiCtr w] = s.log ++ [.read twiCtr v, .write twiCtr v', .read twiCtr w] := by
    simp only [List.append_assoc, List.cons_append, List.nil_append]
  exact .rest rfl (.rest rfl (.rest rfl (.loop (.flag ⟨s.log, _, _, hlog _ _ _⟩) hbusy)))

lemma clearIrqFlag_settles : Settles h Clearing (twiClearIrqFlag h) :=
  fun _ hnone => clearIrqFlag_stuck (waitWhile_none.mp hnone)

lemma reset_settles : Settles h Clearing (twicReset h) := by
  intro s hnone
  exact .rest rfl (.loop (.reset ⟨s.log, rfl⟩) (waitWhile_none.mp hnone))

lemma start_settles : Settles h Clearing (twiStart h) :=
  (Settles.readl _).bind fun _ => .writel _ _

lemma orStopOut_settles (c : Prop) [Decidable c] :
    Settles h Clearing (orStopOut c : Attempt σ Buffer Unit).run := by
  refine .of_returns fun s => ?_
  by_cases hc : c
  · rw [orStopOut, if_pos hc]
    rfl
  · rw [orStopOut, if_neg hc]
    rfl

lemma check_settles {m : Driver σ Buffer UInt32} (hm : Settles h Clearing m) (n : ℕ)
    (code : UInt32) : Settles h Clearing (twiCheck h n m code).run :=
  (Settles.lift (.pollUntil _ _ n)).attempt fun _ => (orStopOut_settles _).attempt fun _ =>
    (Settles.lift hm).attempt fun _ => orStopOut_settles _

lemma expect_settles (n : ℕ) (code : UInt32) : Settles h Clearing (twiExpect h n code).run :=
  check_settles (.readl _) n code

lemma sendByte_settles (v : UInt32) : Settles h Clearing (lift (twiSendByte h v)).run :=
  Settles.lift ((Settles.writel _ _).bind fun _ => clearIrqFlag_settles)

lemma sendData_settles (i n : ℕ) : Settles h Clearing (twiSendData h i n).run := by
  induction n generalizing i with
  | zero => exact Settles.pure _
  | succ n ih =>
    exact (Settles.lift .getMem).attempt fun _ => (sendByte_settles _).attempt fun _ =>
      (expect_settles _ _).attempt fun _ => ih (i + 1)

lemma getData_settles (i n : ℕ) : Settles h Clearing (twiGetData h i n).run := by
  induction n generalizing i with
  | zero => exact Settles.pure _
  | succ n ih =>
    have hnext : Settles h Clearing (twiNextByte h n) :=
      (Settles.ite ((Settles.readl _).bind fun _ => .writel _ _) (.pure _)).bind
        fun _ => clearIrqFlag_settles
    have hstore : Settles h Clearing (twiStoreByte h i) :=
      (Settles.readl _).bind fun _ => (Settles.modifyMem _).bind fun _ => .readl _
    exact ((Settles.lift hnext).attempt fun _ => check_settles hstore _ _).attempt
      fun _ => ih (i + 1)

lemma transfer_settles (op : TwiRwType) (saddr baddr : UInt8) (data len : ℕ) :
    Settles h Clearing (twiTransfer h op saddr baddr data len).run := by
  have hrest : Settles h Clearing (match op with
      | .write => twiSendData h data len
      | .read => do
          lift (twiStart h)
          lift (twiClearIrqFlag h)
          twiExpect h twiCheckTimeout 0x10
          lift (twiSendByte h (saddr.toUInt32 <<< 1 ||| 1))
          twiExpect h twiCheckTimeout 0x40
          twiGetData h data len).run := by
    cases op with
    | write => exact sendData_settles data len
    | read =>
      exact (Settles.lift start_settles).attempt fun _ =>
        (Settles.lift clearIrqFlag_settles).attempt fun _ => (expect_settles _ _).attempt
          fun _ => (sendByte_settles _).attempt fun _ => (expect_settles _ _).attempt
            fun _ => getData_settles data len
  exact (Settles.lift (.readl _)).attempt fun _ => (orStopOut_settles _).attempt fun _ =>
    (Settles.lift start_settles).attempt fun _ => (expect_settles _ _).attempt
      fun _ => (sendByte_settles _).attempt fun _ => (expect_settles _ _).attempt
        fun _ => (sendByte_settles _).attempt fun _ => (expect_settles _ _).attempt fun _ => hrest

lemma stop_settles : Settles h Clearing (twiStop h) := by
  have hrequest : Settles h Clearing (twiRequestStop h) :=
    (Settles.readl _).bind fun _ => .writel _ _
  exact hrequest.bind fun _ => clearIrqFlag_settles.bind fun _ =>
    (Settles.pollUntil _ _ _).bind fun _ => (Settles.pollUntil _ _ _).bind fun _ =>
      .ite ((Settles.readl _).bind fun _ => reset_settles.bind fun _ => .pure _)
        ((Settles.pollUntil _ _ _).bind fun _ => .ite ((Settles.readl _).bind fun _ => .pure _)
          (.pure _))

lemma byteRw_settles (lock : Bool) (op : TwiRwType) (saddr baddr : UInt8) (data : ℕ)
    (len : UInt32) : Settles h Clearing (twiByteRw h lock op saddr baddr data len) := by
  have hack : Settles h Clearing (twiEnableAck h) :=
    (Settles.readl _).bind fun _ => (Settles.writel _ _).bind fun _ => (Settles.readl _).bind
      fun _ => (Settles.readl _).bind fun _ => .pure _
  exact .ite (.pure _) (.ite (.pure _) (hack.bind fun _ => (Settles.writel _ _).bind fun _ =>
    (transfer_settles op saddr baddr data len.toNat).bind fun _ => stop_settles.bind
      fun _ => .pure _))

end Transfers

end A733Boot.Ar100s.Twi
