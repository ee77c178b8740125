/-
The functions that serve the requests of `process_message`: `sys_op`
(`ar100s/service/standby/standby-sun60iw2p1/plat_standby.c`), `set_wakeup_src` and
`clear_wakeup_src` (`ar100s/service/standby/wakeup_source.c`), and with them and
`standby_entry` the services of the message manager.

* `Drivers`, `services`: the drivers below the requests, which take words and no messages;
* `SameBelow`: two messages that differ in parameters from some index on only;
* `getParas_box`, `getParas_below`, `hwmsgboxQueryMessage_same`: the same frame read into two
  buffers makes two such messages, and leaves the same message box;
* `processMessage_same`: two such messages are served and answered alike;
* `messageProcessLoop_noLeak` (**no parameter leaks**): what earlier messages have left in
  the static buffer does not show.
-/
import A733Boot.Ar100s.Standby.Entry

namespace A733Boot.Ar100s.Standby

open Mailbox

/-! ### The code -/

def ariscSystemShutdown : UInt32 := 0
def ariscSystemReboot : UInt32 := 1
def ariscSystemReset : UInt32 := 2
def ariscUbootShutdown : UInt32 := 3

/-- The drivers below the requests. The wakeup timer is set by milliseconds; the two
functions that arm and disarm an interrupt get the array `para`. -/
structure Drivers (σ : Type) extends Platform σ where
  pmuChargingReset : σ → ℤ × σ
  pmuShutdown : σ → ℤ × σ
  pmuReset : σ → ℤ × σ
  setWakeupTimer : UInt32 → σ → σ
  clearWakeupTimer : σ → σ
  cpuxIrqMaptoCpus : UInt32 → ℤ
  irqWakesourceInit : ℤ → List UInt32 → σ → ℤ × σ
  irqWakesourceExit : ℤ → List UInt32 → σ → ℤ × σ
  setDebugLevel : UInt32 → σ → ℤ × σ
  uartSetBaudrate : UInt32 → σ → ℤ × σ
  mctlMdfsSoftware : List ℕ → UInt32 → σ → ℤ × σ

section Code

variable {σ : Type} (D : Drivers σ)

/-- A driver is called. -/
def System.drive (s : System σ) (f : σ → ℤ × σ) : ℤ × System σ :=
  ((f s.plat).1, { s with plat := (f s.plat).2 })

def sysOp (m : Message) (s : System σ) : ℤ × System σ :=
  let state := m.para 0
  if state = ariscSystemShutdown then
    let r := s.drive D.pmuChargingReset
    if r.1 ≠ 0 then r else r.2.drive D.pmuShutdown
  else if state = ariscSystemReset ∨ state = ariscSystemReboot then s.drive D.pmuReset
  else if state = ariscUbootShutdown then s.drive D.pmuShutdown
  else (-eInval, s)

/-- The interrupts of a wakeup source: the root, the secondary and the third. -/
def wakeupIrqs (source : UInt32) : List UInt32 :=
  [source &&& 0x3ff, source >>> 10 &&& 0x3ff, source >>> 20 &&& 0x3ff]

def setWakeupSrc (m : Message) (s : System σ) : ℤ × System σ :=
  let source := m.para 0
  let wakeupRootIrq := source &&& 0x3ff
  if source >>> 30 &&& 3 = 3 then
    (0, { s with plat := D.setWakeupTimer (source &&& 0x3fffffff) s.plat })
  else
    let irqNo := D.cpuxIrqMaptoCpus wakeupRootIrq
    if irqNo = -1 then (-1, s)
    else
      -- a stale event of this source is forgotten
      let s := if s.wakeupSource = wakeupRootIrq then { s with wakeupSource := noWakesource } else s
      s.drive (D.irqWakesourceInit irqNo (wakeupIrqs source))

def clearWakeupSrc (m : Message) (s : System σ) : ℤ × System σ :=
  let source := m.para 0
  if source >>> 30 &&& 3 = 3 then (0, { s with plat := D.clearWakeupTimer s.plat })
  else
    let irqNo := D.cpuxIrqMaptoCpus (source &&& 0x3ff)
    if irqNo = -1 then (-1, s)
    else
      let r := s.drive (D.irqWakesourceExit irqNo (wakeupIrqs source))
      if r.1 ≠ 0 then r else (0, r.2)

/-- The call of the DRAM library for a frequency. -/
def setDdrfreqCall (freqId : UInt32) (s : System σ) : ℤ × System σ :=
  let r := D.mctlMdfsSoftware s.dtsDramPara freqId s.plat
  (r.1, { s with plat := r.2, dramCalls := s.dramCalls ++ [.mdfsSoftware s.dtsDramPara freqId] })

/-- What the message manager calls. -/
def services : Services (System σ) where
  standbyEntry m s b := Standby.standbyEntry D.toPlatform m (s, b)
  sysOp := Standby.sysOp D
  clearWakeupSrc := Standby.clearWakeupSrc D
  setWakeupSrc := Standby.setWakeupSrc D
  setDebugLevel level s := s.drive (D.setDebugLevel level)
  uartSetBaudrate rate s := s.drive (D.uartSetBaudrate rate)
  standbySetDramCrcParas enable src len s :=
    let r := Standby.standbySetDramCrcParas enable src len s.crc
    (r.1, { s with crc := r.2 })
  mctlMdfsSoftware := setDdrfreqCall D
  platformDramPara s := s.platformDramPara.isSome

end Code

/-! ### The same frame in two buffers -/

/-- The messages have the same fields, and the same parameters below `k`. -/
structure SameBelow (k : ℕ) (m m' : Message) : Prop where
  state : m.state = m'.state
  attr : m.attr = m'.attr
  type : m.type = m'.type
  result : m.result = m'.result
  count : m.count = m'.count
  isSome : m.paras.isSome
  isSome' : m'.paras.isSome
  paras : ∀ i < k, m.para i = m'.para i

section Receiving

variable {k : ℕ} {m m' : Message}

lemma para_setPara (hm : m.paras.isSome) (i j : ℕ) (value : UInt32) :
    (m.setPara i value).para j = if j = i then value else m.para j := by
  obtain ⟨p, hp⟩ := Option.isSome_iff_exists.mp hm
  simp only [Message.setPara, Message.para, hp, Option.map_some, Function.update_apply]

lemma SameBelow.setPara (h : SameBelow k m m') (value : UInt32) :
    SameBelow (k + 1) (m.setPara k value) (m'.setPara k value) := by
  refine ⟨h.state, h.attr, h.type, h.result, h.count, ?_, ?_, fun i hi => ?_⟩
  · rw [Message.setPara, Option.isSome_map, h.isSome]
  · rw [Message.setPara, Option.isSome_map, h.isSome']
  · rw [para_setPara h.isSome, para_setPara h.isSome']
    by_cases hik : i = k
    · rw [if_pos hik, if_pos hik]
    · rw [if_neg hik, if_neg hik, h.paras i (by omega)]

/-- What is read does not depend on the message it is read into. -/
lemma getParas_box (q timeout capacity i n : ℕ) (m m' : Message) (b : Mbox) :
    (getParas q timeout capacity i n m b).1 = (getParas q timeout capacity i n m' b).1 ∧
    (getParas q timeout capacity i n m b).2.2 = (getParas q timeout capacity i n m' b).2.2 ∧
    (getParas q timeout capacity i n m b).2.1.count = m.count := by
  induction n generalizing i m m' b with
  | zero => exact ⟨rfl, rfl, rfl⟩
  | succ n ih =>
      rw [getParas, getParas]
      by_cases hword : (getWord q timeout b).1 ≠ 0
      · rw [if_pos hword, if_pos hword]
        exact ⟨rfl, rfl, rfl⟩
      · rw [if_neg hword, if_neg hword]
        obtain ⟨hret, hbox, hcount⟩ :=
          ih (i + 1) (if i < capacity then m.setPara i (getWord q timeout b).2.1 else m)
          (if i < capacity then m'.setPara i (getWord q timeout b).2.1 else m')
            (getWord q timeout b).2.2
        refine ⟨hret, hbox, hcount.trans ?_⟩
        split_ifs
        · rfl
        · rfl

lemma getParas_below (q timeout capacity i n : ℕ) (hfits : i + n ≤ capacity)
    (h : SameBelow i m m') (b : Mbox)
    (hret : (getParas q timeout capacity i n m b).1 = 0) :
    SameBelow (i + n) (getParas q timeout capacity i n m b).2.1
      (getParas q timeout capacity i n m' b).2.1 := by
  induction n generalizing i m m' b with
  | zero => exact h
  | succ n ih =>
      rw [getParas] at hret
      rw [getParas, getParas]
      by_cases hword : (getWord q timeout b).1 ≠ 0
      · rw [if_pos hword] at hret
        exact absurd hret hword
      · have hstore : i < capacity := by omega
        rw [if_neg hword, if_pos hstore] at hret
        rw [if_neg hword, if_neg hword, if_pos hstore, if_pos hstore,
          show i + (n + 1) = i + 1 + n by omega]
        exact ih (i + 1) (by omega) (h.setPara _) _ hret

/-- The outcomes of receiving the same frame into two messages: they differ in parameters
beyond the count only, if a message was received. -/
structure SameOutcome (capacity : ℕ) (p p' : ℤ × Message × Mbox) : Prop where
  ret : p.1 = p'.1
  box : p.2.2 = p'.2.2
  fits : p.1 = 0 → p.2.1.count.toNat ≤ capacity
  message : p.1 = 0 → SameBelow p.2.1.count.toNat p.2.1 p'.2.1

/-- Nothing was received into either. -/
lemma SameOutcome.failed {capacity : ℕ} {p p' : ℤ × Message × Mbox} (hret : p.1 = p'.1)
    (hbox : p.2.2 = p'.2.2)
    (hne : p.1 ≠ 0) : SameOutcome capacity p p' :=
  ⟨hret, hbox, fun h => absurd h hne, fun h => absurd h hne⟩

lemma setCount_setHeader_same (header count : UInt32) (hm : m.paras.isSome)
    (hm' : m'.paras.isSome) :
    SameBelow 0 ((m.setHeader header).setCount count) ((m'.setHeader header).setCount count) :=
  ⟨rfl, rfl, rfl, rfl, rfl, hm, hm', fun i hi => absurd hi (Nat.not_lt_zero i)⟩

lemma readFrame_same (q timeout capacity : ℕ) (hm : m.paras.isSome)
    (hm' : m'.paras.isSome) (b : Mbox) :
    (readFrame q timeout capacity m b).1 = (readFrame q timeout capacity m' b).1 ∧
    (readFrame q timeout capacity m b).2.2 = (readFrame q timeout capacity m' b).2.2 ∧
    ((readFrame q timeout capacity m b).1 = 0 →
      (readFrame q timeout capacity m b).2.1.count = (readFrame q timeout capacity m' b).2.1.count ∧
      ((readFrame q timeout capacity m b).2.1.count.toNat ≤ capacity →
        SameBelow (readFrame q timeout capacity m b).2.1.count.toNat
          (readFrame q timeout capacity m b).2.1
          (readFrame q timeout capacity m' b).2.1)) := by
  rw [readFrame, readFrame]
  by_cases hheader : (getWord q timeout b).1 ≠ 0
  · simp only [if_pos hheader]
    exact ⟨trivial, trivial, fun hret => absurd hret hheader⟩
  · simp only [if_neg hheader]
    by_cases hcount : (getWord q timeout (getWord q timeout b).2.2).1 ≠ 0
    · simp only [if_pos hcount]
      exact ⟨trivial, trivial, fun hret => absurd hret hcount⟩
    · simp only [if_neg hcount]
      have hsame := setCount_setHeader_same (getWord q timeout b).2.1
        (getWord q timeout (getWord q timeout b).2.2).2.1 hm hm'
      generalize (m.setHeader (getWord q timeout b).2.1).setCount
        (getWord q timeout (getWord q timeout b).2.2).2.1 = m₁ at hsame ⊢
      generalize (m'.setHeader (getWord q timeout b).2.1).setCount
        (getWord q timeout (getWord q timeout b).2.2).2.1 = m₁' at hsame ⊢
      generalize (getWord q timeout (getWord q timeout b).2.2).2.2 = b₁
      rw [← hsame.count]
      obtain ⟨hret, hbox, hkept⟩ := getParas_box q timeout capacity 0 m₁.count.toNat m₁ m₁' b₁
      obtain ⟨-, -, hkept'⟩ := getParas_box q timeout capacity 0 m₁.count.toNat m₁' m₁ b₁
      refine ⟨hret, hbox, fun hzero => ⟨?_, fun hfits => ?_⟩⟩
      · rw [hkept, hkept', hsame.count]
      · rw [hkept] at hfits ⊢
        have hbelow := getParas_below q timeout capacity 0 m₁.count.toNat (by omega) hsame b₁ hzero
        rwa [Nat.zero_add] at hbelow

lemma hwmsgboxReceiveMessage_same (q capacity timeout : ℕ) (hm : m.paras.isSome)
    (hm' : m'.paras.isSome)
    (b : Mbox) : SameOutcome capacity (hwmsgboxReceiveMessage q m capacity timeout b)
      (hwmsgboxReceiveMessage q m' capacity timeout b) := by
  obtain ⟨hret, hbox, hsame⟩ := readFrame_same q timeout capacity hm hm' b
  rw [hwmsgboxReceiveMessage, hwmsgboxReceiveMessage]
  by_cases hfail : (readFrame q timeout capacity m b).1 = 0
  · obtain ⟨hcount, hbelow⟩ := hsame hfail
    simp only [if_neg (not_not.mpr hfail), if_neg (not_not.mpr (hret.symm.trans hfail)),
      ← hcount, ← hbox]
    split_ifs with hbig
    · exact SameOutcome.failed rfl rfl (show -e2Big ≠ 0 by decide)
    · exact ⟨rfl, rfl, fun _ => Nat.le_of_not_lt hbig, fun _ => hbelow (Nat.le_of_not_lt hbig)⟩
  · have hfail' : (readFrame q timeout capacity m' b).1 ≠ 0 := fun h => hfail (hret.trans h)
    simp only [if_pos (show _ ≠ _ from hfail), if_pos hfail', ← hbox]
    exact SameOutcome.failed hret rfl hfail

lemma hwmsgboxQueryMessage_same (capacity timeout : ℕ) (hm : m.paras.isSome)
    (hm' : m'.paras.isSome) (b : Mbox) :
    SameOutcome capacity
      ((hwmsgboxQueryMessage (some m) capacity timeout b).1,
        (hwmsgboxQueryMessage (some m) capacity timeout b).2.1.getD m,
        (hwmsgboxQueryMessage (some m) capacity timeout b).2.2)
      ((hwmsgboxQueryMessage (some m') capacity timeout b).1,
        (hwmsgboxQueryMessage (some m') capacity timeout b).2.1.getD m',
        (hwmsgboxQueryMessage (some m') capacity timeout b).2.2) := by
  have hargs : ∀ m : Message, m.paras.isSome →
      ((messageParaMax < capacity ∨
        (capacity ≠ 0 ∧ m.paras.isNone)) ↔ messageParaMax < capacity) := by
    intro m hm
    rw [Option.isSome_iff_exists] at hm
    obtain ⟨p, hp⟩ := hm
    simp only [hp, Option.isNone_some, Bool.false_eq_true, and_false, or_false]
  simp only [hwmsgboxQueryMessage, hargs m hm, hargs m' hm']
  split_ifs
  · exact SameOutcome.failed rfl rfl (show -eInval ≠ 0 by decide)
  · exact hwmsgboxReceiveMessage_same _ _ _ hm hm' _
  · exact hwmsgboxReceiveMessage_same _ _ _ hm hm' _
  · exact SameOutcome.failed rfl rfl (show fail ≠ 0 by decide)

end Receiving

/-! ### The same request twice -/

section Serving

variable {m m' : Message}

lemma putParas_same (q timeout i n : ℕ) (h : ∀ j < n, m.para (i + j) = m'.para (i + j)) (b : Mbox) :
    putParas q timeout m i n b = putParas q timeout m' i n b := by
  induction n generalizing i b with
  | zero => rfl
  | succ n ih =>
      have hrest : ∀ b, putParas q timeout m (i + 1) n b = putParas q timeout m' (i + 1) n b := by
        intro b
        refine ih (i + 1) (fun j hj => ?_) b
        rw [show i + 1 + j = i + (j + 1) by omega]
        exact h (j + 1) (by omega)
      have hfirst : m.para i = m'.para i := h 0 (Nat.succ_pos n)
      simp only [putParas, hfirst, hrest]

/-- The answers to the two are the same. -/
lemma hwmsgboxFeedbackMessage_same (h : SameBelow m.count.toNat m m') (result : UInt8)
    (timeout : ℕ) (b : Mbox) :
    hwmsgboxFeedbackMessage (some { m with result := result }) timeout b =
      hwmsgboxFeedbackMessage (some { m' with result := result }) timeout b := by
  have hheader : Message.headerWord { m with result := result } =
    Message.headerWord { m' with result := result } := by
    simp only [Message.headerWord, h.state, h.attr, h.type]
  have hsome : m.paras.isNone = m'.paras.isNone := by
    rw [Option.isNone_eq_false_iff.mpr h.isSome, Option.isNone_eq_false_iff.mpr h.isSome']
  have hhardsyn : Message.hardsyn { m with result := result } =
    Message.hardsyn { m' with result := result } := by
    simp only [Message.hardsyn, h.attr]
  have hrefused : Message.refused { m with result := result } =
    Message.refused { m' with result := result } := by
    simp only [Message.refused, h.count, hsome]
  have hparas : ∀ b, putParas hwmsgboxArmSynRxCh timeout { m with result := result } 0
    m.count.toNat b =
      putParas hwmsgboxArmSynRxCh timeout { m' with result := result } 0 m.count.toNat b := by
    intro b
    refine putParas_same _ _ _ _ (fun j hj => ?_) b
    rw [Nat.zero_add]
    exact h.paras j hj
  simp only [hwmsgboxFeedbackMessage, hrefused, hhardsyn, putFrame, hheader, ← h.count, hparas]

section Parameters

variable {σ : Type} (D : Drivers σ)

/-- A standby looks at the address to resume at, and at no other parameter. -/
lemma standbyEntry_same (P : Platform σ) (h : m.para 1 = m'.para 1) :
    Standby.standbyEntry P m = Standby.standbyEntry P m' := by
  simp only [Standby.standbyEntry, standbyProcessExit, h]

lemma cpuOp_same (h₁ : m.para 1 = m'.para 1) (h₄ : m.para 4 = m'.para 4) (s : System σ) (b : Mbox) :
    cpuOp (services D) m s b = cpuOp (services D) m' s b := by
  simp only [cpuOp, services, h₁, h₄, standbyEntry_same D.toPlatform h₁]

lemma sysOp_same (h : m.para 0 = m'.para 0) : sysOp D m = sysOp D m' := by
  funext s
  simp only [sysOp, h]

lemma setWakeupSrc_same (h : m.para 0 = m'.para 0) : setWakeupSrc D m = setWakeupSrc D m' := by
  funext s
  simp only [setWakeupSrc, h]

lemma clearWakeupSrc_same (h : m.para 0 = m'.para 0) :
    clearWakeupSrc D m = clearWakeupSrc D m' := by
  funext s
  simp only [clearWakeupSrc, h]

/-- Every parameter that a function looks at is below the number that its type needs. -/
lemma dispatch_same (h : SameBelow m.count.toNat m m') (hcount : minCount m.type ≤ m.count.toNat)
    (s : System σ) (b : Mbox) : dispatch (services D) m s b = dispatch (services D) m' s b := by
  have hpara : ∀ {i : ℕ} {type : UInt8}, m.type = type → i < minCount type →
    m.para i = m'.para i := by
    intro i type htype hi
    refine h.paras i (lt_of_lt_of_le hi ?_)
    rwa [← htype]
  rw [dispatch, dispatch, ← h.type]
  refine ite_congr rfl (fun htype => ?_) fun _ => ?_
  · exact cpuOp_same D (hpara htype (by decide)) (hpara htype (by decide)) s b
  refine ite_congr rfl (fun htype => ?_) fun _ => ?_
  · simp only [services, sysOp_same D (hpara htype (by decide))]
  refine ite_congr rfl (fun htype => ?_) fun _ => ?_
  · simp only [services, clearWakeupSrc_same D (hpara htype (by decide))]
  refine ite_congr rfl (fun htype => ?_) fun _ => ?_
  · simp only [services, setWakeupSrc_same D (hpara htype (by decide))]
  refine ite_congr rfl (fun htype => rfl) fun _ => ?_
  refine ite_congr rfl (fun htype => ?_) fun _ => ?_
  · rw [hpara htype (by decide)]
  refine ite_congr rfl (fun htype => ?_) fun _ => ?_
  · rw [hpara htype (by decide)]
  refine ite_congr rfl (fun htype => ?_) fun _ => ?_
  · rw [hpara htype (by decide), hpara (i := 1) htype (by decide), hpara (i := 2) htype (by decide)]
  refine ite_congr rfl (fun htype => ?_) fun _ => rfl
  rw [hpara htype (by decide)]

lemma served_same (h : SameBelow m.count.toNat m m') (s : System σ) (b : Mbox) :
    served (services D) m s b = served (services D) m' s b := by
  rw [served, served, ← h.count, ← h.type]
  refine ite_congr rfl (fun _ => rfl) fun hcount => ?_
  exact dispatch_same D h (Nat.le_of_not_lt hcount) s b

/-- The two are served and answered alike. -/
lemma processMessage_same (h : SameBelow m.count.toNat m m') (s : System σ) (b : Mbox) :
    processMessage (services D) m s b = processMessage (services D) m' s b := by
  have hserved := served_same D h s b
  rw [served, served] at hserved
  simp only [processMessage, ← hserved, ← h.attr, hwmsgboxFeedbackMessage_same h]

end Parameters

end Serving

/-! ### No parameter leaks -/

section Leaks

variable {σ : Type} (D : Drivers σ)

/-- Two iterations of the loop from the state `s` did the same: no request was delivered, or
two that differ in parameters beyond the count only, with the same effects, the same return
value, and the same answer, which has no parameter beyond the count. -/
inductive SameIteration (s : System σ) (r r' : List Event × Daemon (System σ)) : Prop
  | none : (∀ m, .notified m ∉ r.1) → (∀ m, .notified m ∉ r'.1) → r.2.services = s →
      r'.2.services = s →
      r.2.box = r'.2.box → SameIteration s r r'
  | one (m m' : Message) (b : Mbox) : r.1 = [.notified m] → r'.1 = [.notified m'] →
      SameBelow m.count.toNat m m' → m.count.toNat ≤ messageParaMax →
      (r.2.services, r.2.box) = (processMessage (services D) m s b).2 →
      (r'.2.services, r'.2.box) = (processMessage (services D) m' s b).2 →
      processMessage (services D) m s b = processMessage (services D) m' s b →
      ((m.hardsyn = true ∧ ∃ ret, Sends 3
        { m with result := UInt8.ofInt (served (services D) m s b).1 }.words
          (served (services D) m s b).2.2 (ret, r.2.box)) ∨
        (m.hardsyn = false ∧ r.2.box = (served (services D) m s b).2.2)) →
      SameIteration s r r'

/-- The states differ in the static buffer only. -/
def AgreeButBuffer (d d' : Daemon (System σ)) : Prop := d.services = d'.services ∧ d.box = d'.box

/-- The state after `n` iterations. -/
def loops (n : ℕ) (d : Daemon (System σ)) : Daemon (System σ) :=
  (fun d => (messageProcessLoop (services D) d).2)^[n] d

variable {d d' : Daemon (System σ)}

lemma messageProcessLoop_same (h : AgreeButBuffer d d') :
    SameIteration D d.services (messageProcessLoop (services D) d)
      (messageProcessLoop (services D) d') := by
  obtain ⟨p, s, b⟩ := d
  obtain ⟨q, s', b'⟩ := d'
  obtain ⟨rfl, rfl⟩ : s = s' ∧ b = b' := h
  have hsome : ∀ p, (blank p).paras.isSome := fun _ => rfl
  have hquery := hwmsgboxQueryMessage_same messageParaMax hwmsgboxQueryTimeout (hsome p) (hsome q) b
  simp only [messageProcessLoop]
  generalize hwmsgboxQueryMessage (some (blank p)) messageParaMax
    hwmsgboxQueryTimeout b = x at hquery ⊢
  generalize hwmsgboxQueryMessage (some (blank q)) messageParaMax
    hwmsgboxQueryTimeout b = y at hquery ⊢
  obtain ⟨ret, m, b₁⟩ := x
  obtain ⟨ret', m', b₁'⟩ := y
  obtain rfl : ret = ret' := hquery.ret
  obtain rfl : b₁ = b₁' := hquery.box
  simp only at hquery ⊢
  generalize m.getD (blank p) = m at hquery ⊢
  generalize m'.getD (blank q) = m' at hquery ⊢
  by_cases hdelivered : ret = 0 ∧ m.type ≠ ar100StartupNotify
  · have hsame : SameBelow m.count.toNat m m' := hquery.message hdelivered.1
    have hfits : m.count.toNat ≤ messageParaMax := hquery.fits hdelivered.1
    rw [if_pos hdelivered, if_pos ⟨hdelivered.1, hsame.type ▸ hdelivered.2⟩]
    exact SameIteration.one m m' b₁ rfl rfl hsame hfits rfl rfl (processMessage_same D hsame s b₁)
      (processMessage_answer (services D) hfits hsame.isSome s b₁)
  · have hdelivered' : ¬ (ret = 0 ∧ m'.type ≠ ar100StartupNotify) := by
      rintro ⟨hret, htype⟩
      rw [← (hquery.message hret).type] at htype
      exact hdelivered ⟨hret, htype⟩
    have hdropped : ∀ m m' : Message,
        Event.notified m ∉ if ret = fail then [] else [Event.dropped m'] := by
      intro m m'
      split_ifs <;> simp
    rw [if_neg hdelivered, if_neg hdelivered']
    exact SameIteration.none (fun _ => hdropped _ _) (fun _ => hdropped _ _) rfl rfl rfl

lemma SameIteration.next {s : System σ} {r r' : List Event × Daemon (System σ)}
    (h : SameIteration D s r r') :
    AgreeButBuffer r.2 r'.2 := by
  cases h with
  | none _ _ hs hs' hbox => exact ⟨hs.trans hs'.symm, hbox⟩
  | one m m' b _ _ _ _ hr hr' hsame _ =>
      have hboth := hr.trans ((congrArg Prod.snd hsame).trans hr'.symm)
      exact ⟨(Prod.mk.inj hboth).1, (Prod.mk.inj hboth).2⟩

lemma loops_same (n : ℕ) (h : AgreeButBuffer d d') :
    AgreeButBuffer (loops D n d) (loops D n d') := by
  induction n generalizing d d' with
  | zero => exact h
  | succ n ih =>
      rw [loops, loops, Function.iterate_succ_apply, Function.iterate_succ_apply]
      exact ih (messageProcessLoop_same D h).next

/-- **No parameter leaks.** Whatever earlier messages have left in the static buffer, the
loop goes through the same iterations: it delivers requests with the same fields and the
same parameters below the count, and these have the same effects, the same return value and
the same answers, which carry no other parameters. -/
theorem messageProcessLoop_noLeak (p q : ℕ → UInt32) (s : System σ) (b : Mbox) (n : ℕ) :
    AgreeButBuffer (loops D n ⟨p, s, b⟩) (loops D n ⟨q, s, b⟩) ∧
    SameIteration D (loops D n ⟨p, s, b⟩).services
      (messageProcessLoop (services D) (loops D n ⟨p, s, b⟩))
      (messageProcessLoop (services D) (loops D n ⟨q, s, b⟩)) := by
  have hstart : AgreeButBuffer (Daemon.mk p s b) (Daemon.mk q s b) := ⟨rfl, rfl⟩
  have hagree := loops_same D n hstart
  exact ⟨hagree, messageProcessLoop_same D hagree⟩

end Leaks

end A733Boot.Ar100s.Standby
