/-
The message box driver, `ar100s/driver/hwmsgbox/hwmsgbox-extended`: the two FIFOs of a
channel, the waits, and the words a frame is sent and received by.

The other side runs while the firmware does: each access to the hardware first lets it
have one turn, in which it takes and writes as many words as it likes.

* `Effect`: what a piece of the driver did on a channel, with `Effect.trans`;
* `waitFor_spec`: the polling loop of the waits ends ready or out of time;
* `putFrame_spec`, `readFrame_spec`: a frame goes out word by word, and comes in so;
* `hwmsgboxSendMessage_spec`, `hwmsgboxFeedbackMessage_spec`, `hwmsgboxReceiveMessage_spec`,
  `hwmsgboxQueryMessage_spec`: the traffic of each entry point of the driver;
* `hwmsgboxSendMessage_atomic` (**sending is all-or-nothing**): a frame that fits the
  FIFO is written completely or not at all.
-/
import A733Boot.Library.Fifo
import A733Boot.Ar100s.Error
import Mathlib.Logic.Function.Basic

namespace A733Boot.Ar100s.Mailbox

/-! ### Constants -/

def messageAttrSoftsyn : UInt8 := 1
def messageAttrHardsyn : UInt8 := 2
def messageParaMax : ℕ := 32
def hwmsgboxFifoDepth : ℕ := 8
def messageFrameHeaderWords : ℕ := 2
def hwmsgboxRxDrainMax : ℕ := 128

def hwmsgboxRiscAsynTxCh : ℕ := 3
def hwmsgboxRiscAsynRxCh : ℕ := 3
def hwmsgboxRiscSynTxCh : ℕ := 3
def hwmsgboxRiscSynRxCh : ℕ := 3
def hwmsgboxArmSynTxCh : ℕ := 3
def hwmsgboxArmSynRxCh : ℕ := 3

/-! ### Messages -/

/-- `struct message`; `paras` is `none` where the pointer is null. -/
structure Message where
  state : UInt8
  attr : UInt8
  type : UInt8
  result : UInt8
  count : UInt8
  paras : Option (ℕ → UInt32)

namespace Message

/-- The parameter of index `i`. -/
def para (m : Message) (i : ℕ) : UInt32 :=
  match m.paras with
  | none => 0
  | some p => p i

/-- The message asks for a hardware-synchronous exchange. -/
def hardsyn (m : Message) : Bool := m.attr &&& messageAttrHardsyn != 0

/-- The check that opens `hwmsgbox_send_message` and `hwmsgbox_feedback_message`. -/
def refused (m : Message) : Bool :=
  decide (messageParaMax < m.count.toNat) || (m.count != 0 && m.paras.isNone)

/-- The first word of a frame: the four byte fields. -/
def headerWord (m : Message) : UInt32 :=
  m.state.toUInt32 ||| m.attr.toUInt32 <<< 8 ||| m.type.toUInt32 <<< 16 ||| m.result.toUInt32 <<< 24

/-- The frame of a message: header, count and parameters. -/
def words (m : Message) : List UInt32 :=
  m.headerWord :: m.count.toUInt32 :: (List.range m.count.toNat).map m.para

/-- Take the byte fields from the first word of a frame. -/
def setHeader (m : Message) (value : UInt32) : Message :=
  { m with
    state := (value &&& 0xff).toUInt8
    attr := (value >>> 8 &&& 0xff).toUInt8
    type := (value >>> 16 &&& 0xff).toUInt8
    result := (value >>> 24 &&& 0xff).toUInt8 }

/-- Take the count from the second word of a frame. -/
def setCount (m : Message) (value : UInt32) : Message := { m with count := (value &&& 0xff).toUInt8 }

/-- Store a parameter. -/
def setPara (m : Message) (i : ℕ) (value : UInt32) : Message :=
  { m with paras := m.paras.map fun p => Function.update p i value }

lemma length_words (m : Message) : m.words.length = 2 + m.count.toNat := by
  simp only [words, List.length_cons, List.length_map, List.length_range]
  omega

end Message

/-! ### The hardware -/

/-- One turn of the other side: on each channel, how many words it takes from the FIFO
it reads, and the words it writes to the one it writes. -/
structure Turn where
  pop : ℕ → ℕ
  push : ℕ → List UInt32

/-- The message box: for each channel the FIFO to the other side and the one from it,
the turns the other side has still to take, and the milliseconds spent in delays. Three
counters record what went wrong: transmit and receive waits that ran out, and words
written to a full FIFO. The FIFO from the other side has no depth of its own: the other
side waits for room, and each of its schedules that does so is a list of turns here. -/
structure Mbox where
  tx : ℕ → Fifo UInt32
  rx : ℕ → Fifo UInt32
  peer : List Turn
  elapsed : ℕ
  txTimeouts : ℕ
  rxTimeouts : ℕ
  overruns : ℕ

namespace Mbox

/-- The other side has a turn. -/
def tick (b : Mbox) : Mbox :=
  match b.peer with
  | [] => b
  | t :: peer =>
      { b with
        tx := fun q => (b.tx q).take (t.pop q)
        rx := fun q => (b.rx q).append (t.push q)
        peer := peer }

/-- `time_mdelay(1)`. -/
def mdelay (b : Mbox) : Mbox := { b.tick with elapsed := b.tick.elapsed + 1 }

/-- Write a word to the FIFO of channel `q`. -/
def writel (q : ℕ) (value : UInt32) (b : Mbox) : Mbox :=
  { b.tick with
    tx := Function.update b.tick.tx q ((b.tick.tx q).append [value])
    overruns :=
      if (b.tick.tx q).level < hwmsgboxFifoDepth then b.tick.overruns else b.tick.overruns + 1 }

/-- Read a word from the FIFO of channel `q`. -/
def readl (q : ℕ) (b : Mbox) : UInt32 × Mbox :=
  ((b.tick.rx q).contents.headD default,
    { b.tick with rx := Function.update b.tick.rx q ((b.tick.rx q).take 1) })

/-- The words on channel `q` that are still to be read: those in the FIFO, and those
that the other side has yet to write. -/
def incoming (q : ℕ) (b : Mbox) : List UInt32 :=
  (b.rx q).contents ++ b.peer.flatMap fun t => t.push q

end Mbox

open Mbox

/-! ### The waits -/

/-- The loop of the three waits: poll until `ready`, with a delay of a millisecond after
each miss, and give up after `timeout` delays. -/
def waitFor (ready : Mbox → Bool) : ℕ → Mbox → Bool × Mbox
  | 0, b => (ready b.tick, b.tick)
  | timeout + 1, b =>
      if ready b.tick then (true, b.tick) else waitFor ready timeout b.tick.mdelay

/-- A wait for the FIFO to the other side, with its return value. -/
def waitTx (ready : Mbox → Bool) (timeout : ℕ) (b : Mbox) : ℤ × Mbox :=
  let r := waitFor ready timeout b
  if r.1 then (0, r.2) else (-eTimeout, { r.2 with txTimeouts := r.2.txTimeouts + 1 })

def hwmsgboxWaitQueueNotFull (queue timeout : ℕ) : Mbox → ℤ × Mbox :=
  waitTx (fun b => (b.tx queue).level != hwmsgboxFifoDepth) timeout

def hwmsgboxWaitQueueSpace (queue words timeout : ℕ) (b : Mbox) : ℤ × Mbox :=
  if hwmsgboxFifoDepth < words then (-eInval, b)
  else waitTx (fun b => decide ((b.tx queue).level ≤ hwmsgboxFifoDepth - words)) timeout b

def hwmsgboxWaitQueueNotEmpty (queue timeout : ℕ) (b : Mbox) : ℤ × Mbox :=
  let r := waitFor (fun b => (b.rx queue).level != 0) timeout b
  if r.1 then (0, r.2) else (-eTimeout, { r.2 with rxTimeouts := r.2.rxTimeouts + 1 })

/-! ### Sending -/

/-- Wait for room and write a word. -/
def putWord (queue timeout : ℕ) (value : UInt32) (b : Mbox) : ℤ × Mbox :=
  let r := hwmsgboxWaitQueueNotFull queue timeout b
  if r.1 ≠ 0 then r else (0, r.2.writel queue value)

/-- The loop that writes the parameters, `n` of them from index `i` on. -/
def putParas (queue timeout : ℕ) (m : Message) (i : ℕ) : ℕ → Mbox → ℤ × Mbox
  | 0, b => (0, b)
  | n + 1, b =>
      let r := putWord queue timeout (m.para i) b
      if r.1 ≠ 0 then r else putParas queue timeout m (i + 1) n r.2

/-- The words of a frame, as every sender writes them: header, count, parameters. -/
def putFrame (queue timeout : ℕ) (m : Message) (b : Mbox) : ℤ × Mbox :=
  let r := putWord queue timeout m.headerWord b
  if r.1 ≠ 0 then r
  else
    let r := putWord queue timeout m.count.toUInt32 r.2
    if r.1 ≠ 0 then r else putParas queue timeout m 0 m.count.toNat r.2

/-! ### Receiving -/

/-- Wait for a word and read it. -/
def getWord (queue timeout : ℕ) (b : Mbox) : ℤ × UInt32 × Mbox :=
  let r := hwmsgboxWaitQueueNotEmpty queue timeout b
  if r.1 ≠ 0 then (r.1, 0, r.2) else (0, r.2.readl queue)

/-- The loop that reads the parameters, `n` of them from index `i` on; those from
`capacity` on are read and dropped. -/
def getParas (queue timeout capacity i : ℕ) : ℕ → Message → Mbox → ℤ × Message × Mbox
  | 0, m, b => (0, m, b)
  | n + 1, m, b =>
      let r := getWord queue timeout b
      if r.1 ≠ 0 then (r.1, m, r.2.2)
      else
        getParas queue timeout capacity (i + 1) n
          (if i < capacity then m.setPara i r.2.1 else m) r.2.2

/-- The words of a frame, as both receivers read them. -/
def readFrame (queue timeout capacity : ℕ) (m : Message) (b : Mbox) : ℤ × Message × Mbox :=
  let r := getWord queue timeout b
  if r.1 ≠ 0 then (r.1, m, r.2.2)
  else
    let m := m.setHeader r.2.1
    let r := getWord queue timeout r.2.2
    if r.1 ≠ 0 then (r.1, m, r.2.2)
    else
      let m := m.setCount r.2.1
      getParas queue timeout capacity 0 m.count.toNat m r.2.2

/-! ### The driver -/

/-- The reservation that opens `hwmsgbox_send_message`: a frame that fits the FIFO waits
until all of its words have room. -/
def reserveFrame (m : Message) (timeout : ℕ) (b : Mbox) : ℤ × Mbox :=
  let frameWords := messageFrameHeaderWords + m.count.toNat
  if frameWords ≤ hwmsgboxFifoDepth then
    hwmsgboxWaitQueueSpace (if m.hardsyn then hwmsgboxRiscSynTxCh else hwmsgboxRiscAsynTxCh)
      frameWords timeout b
  else (0, b)

/-- The end of a synchronous `hwmsgbox_send_message`: the feedback overwrites the
message, up to the number of parameters that were sent. -/
def receiveFeedback (m : Message) (timeout : ℕ) (b : Mbox) : ℤ × Message × Mbox :=
  let r := readFrame hwmsgboxRiscSynRxCh timeout m.count.toNat m b
  if r.1 ≠ 0 then r
  else if m.count.toNat < r.2.1.count.toNat then (-e2Big, r.2)
  else (0, r.2)

def hwmsgboxSendMessage (pmessage : Option Message) (timeout : ℕ) (b : Mbox) :
    ℤ × Option Message × Mbox :=
  match pmessage with
  | none => (-eInval, none, b)
  | some m =>
      if m.refused then (-eInval, some m, b)
      else
        let r := reserveFrame m timeout b
        if r.1 ≠ 0 then (r.1, some m, r.2)
        else if m.hardsyn then
          let r := putFrame hwmsgboxRiscSynTxCh timeout m r.2
          if r.1 ≠ 0 then (r.1, some m, r.2)
          else
            let r := receiveFeedback m timeout r.2
            (r.1, some r.2.1, r.2.2)
        else
          let r := putFrame hwmsgboxRiscAsynTxCh timeout m r.2
          (r.1, some m, r.2)

def hwmsgboxFeedbackMessage (pmessage : Option Message) (timeout : ℕ) (b : Mbox) : ℤ × Mbox :=
  match pmessage with
  | none => (-eInval, b)
  | some m =>
      if m.refused then (-eInval, b)
      else if m.hardsyn then putFrame hwmsgboxArmSynRxCh timeout m b
      else (-eSrch, b)

/-- The loop that empties the FIFO of a partial frame, at most `n` words. -/
def drain (queue : ℕ) : ℕ → Mbox → Mbox
  | 0, b => b
  | n + 1, b =>
      if (b.tick.rx queue).level = 0 then b.tick else drain queue n (b.tick.readl queue).2

/-- The last access of both ends is the one that clears the pending interrupt. -/
def hwmsgboxReceiveMessage (queue : ℕ) (m : Message) (paraCapacity timeout : ℕ) (b : Mbox) :
    ℤ × Message × Mbox :=
  let r := readFrame queue timeout paraCapacity m b
  if r.1 ≠ 0 then (r.1, r.2.1, (drain queue hwmsgboxRxDrainMax r.2.2).tick)
  else if paraCapacity < r.2.1.count.toNat then (-e2Big, r.2.1, r.2.2.tick)
  else (0, r.2.1, r.2.2.tick)

def hwmsgboxQueryMessage (pmessage : Option Message) (paraCapacity timeout : ℕ) (b : Mbox) :
    ℤ × Option Message × Mbox :=
  match pmessage with
  | none => (-eInval, none, b)
  | some m =>
      if messageParaMax < paraCapacity ∨ (paraCapacity ≠ 0 ∧ m.paras.isNone) then
        (-eInval, some m, b)
      else if messageFrameHeaderWords ≤ (b.tick.rx hwmsgboxRiscAsynRxCh).level then
        let r := hwmsgboxReceiveMessage hwmsgboxRiscAsynRxCh m paraCapacity timeout b.tick
        (r.1, some r.2.1, r.2.2)
      else if messageFrameHeaderWords ≤ (b.tick.tick.rx hwmsgboxArmSynTxCh).level then
        let r := hwmsgboxReceiveMessage hwmsgboxArmSynTxCh m paraCapacity timeout b.tick.tick
        (r.1, some r.2.1, r.2.2)
      else (fail, some m, b.tick.tick)

/-! ### What a piece of the driver does -/

/-- The effect of a piece of the driver on channel `q`: it wrote the words `sent`, it
read the words `got`, and `t` transmit waits and `r` receive waits ran out in it. A
FIFO that held no more than it can did not overflow. -/
structure Effect (q : ℕ) (sent got : List UInt32) (t r : ℕ) (b b' : Mbox) : Prop where
  written : (b'.tx q).written = (b.tx q).written ++ sent
  incoming : b.incoming q = got ++ b'.incoming q
  level : (b'.tx q).level ≤ (b.tx q).level + sent.length
  present : (b.rx q).level ≤ (b'.rx q).level + got.length
  peer : b'.peer.length ≤ b.peer.length
  txTimeouts : b'.txTimeouts = b.txTimeouts + t
  rxTimeouts : b'.rxTimeouts = b.rxTimeouts + r
  fits : (b.tx q).level ≤ hwmsgboxFifoDepth →
    (b'.tx q).level ≤ hwmsgboxFifoDepth ∧ b'.overruns = b.overruns

/-- Nothing was sent or read, and no wait ran out: only the other side acted. -/
abbrev Idle (q : ℕ) (b b' : Mbox) : Prop := Effect q [] [] 0 0 b b'

section Effects

variable {q : ℕ} {sent sent' got got' : List UInt32} {t t' r r' : ℕ} {b b' b'' : Mbox}

lemma Effect.refl (q : ℕ) (b : Mbox) : Idle q b b :=
  ⟨(List.append_nil _).symm, rfl, le_rfl, le_rfl, le_rfl, rfl, rfl, fun h => ⟨h, rfl⟩⟩

lemma Effect.trans (h : Effect q sent got t r b b') (h' : Effect q sent' got' t' r' b' b'') :
    Effect q (sent ++ sent') (got ++ got') (t + t') (r + r') b b'' where
  written := by rw [h'.written, h.written, List.append_assoc]
  incoming := by rw [h.incoming, h'.incoming, List.append_assoc]
  level := by
    calc (b''.tx q).level
        ≤ (b'.tx q).level + sent'.length := h'.level
      _ ≤ (b.tx q).level + sent.length + sent'.length := Nat.add_le_add_right h.level _
      _ = (b.tx q).level + (sent ++ sent').length := by rw [List.length_append, Nat.add_assoc]
  present := by
    have h₁ := h.present
    have h₂ := h'.present
    rw [List.length_append]
    omega
  peer := h'.peer.trans h.peer
  txTimeouts := by rw [h'.txTimeouts, h.txTimeouts, Nat.add_assoc]
  rxTimeouts := by rw [h'.rxTimeouts, h.rxTimeouts, Nat.add_assoc]
  fits hfill := by
    obtain ⟨h₁, h₂⟩ := h.fits hfill
    obtain ⟨h₃, h₄⟩ := h'.fits h₁
    exact ⟨h₃, h₄.trans h₂⟩

/-- Idle time before a piece of work does not show. -/
lemma Effect.after (hi : Idle q b b') (h : Effect q sent got t r b' b'') :
    Effect q sent got t r b b'' := by
  simpa using hi.trans h

/-- Idle time after a piece of work does not show. -/
lemma Effect.idle (h : Effect q sent got t r b b') (hi : Idle q b' b'') :
    Effect q sent got t r b b'' := by
  simpa using h.trans hi

/-- A turn of the other side. It uses up one turn, if there is one left. -/
lemma tick_idle (q : ℕ) (b : Mbox) : Idle q b b.tick ∧ b.tick.peer.length = b.peer.length - 1 := by
  rw [tick]
  cases hp : b.peer with
  | nil => exact ⟨Effect.refl q b, by rw [hp]; rfl⟩
  | cons turn peer =>
      refine ⟨⟨?_, ?_, ?_, ?_, ?_, rfl, rfl, fun h => ⟨?_, rfl⟩⟩, rfl⟩
      · exact (List.append_nil _).symm
      · simp only [Mbox.incoming, hp, List.flatMap_cons, Fifo.contents_append, List.append_assoc,
          List.nil_append]
      · simp only [Fifo.level_take]
        omega
      · simp only [Fifo.level_append]
        omega
      · rw [hp]
        exact Nat.le_succ _
      · simp only [Fifo.level_take]
        omega

lemma mdelay_idle (q : ℕ) (b : Mbox) : Idle q b b.mdelay := by
  obtain ⟨h, -⟩ := tick_idle q b
  exact ⟨h.written, h.incoming, h.level, h.present, h.peer, h.txTimeouts, h.rxTimeouts, h.fits⟩

/-! ### The waits -/

lemma ne_zero_of_timeout {ret : ℤ} (h : ret = -eTimeout) : ret ≠ 0 := by
  rw [h]
  exact fun h => Int.noConfusion h

/-- A wait lets only the other side act, and it ends ready or out of time. -/
lemma waitFor_spec (q : ℕ) (ready : Mbox → Bool) (timeout : ℕ) (b : Mbox) :
    Idle q b (waitFor ready timeout b).2 ∧
    ((waitFor ready timeout b).1 = true → ready (waitFor ready timeout b).2 = true) := by
  induction timeout generalizing b with
  | zero => exact ⟨(tick_idle q b).1, id⟩
  | succ timeout ih =>
      rw [waitFor]
      by_cases h : ready b.tick = true
      · rw [if_pos h]
        exact ⟨(tick_idle q b).1, fun _ => h⟩
      · rw [if_neg h]
        obtain ⟨hidle, hready⟩ := ih b.tick.mdelay
        exact ⟨(((tick_idle q b).1.after (mdelay_idle q _)).after hidle), hready⟩

/-- A wait for what is so already does not run out. -/
lemma waitFor_ready (ready : Mbox → Bool) (timeout : ℕ) (h : ready b.tick = true) :
    (waitFor ready timeout b).1 = true := by
  cases timeout with
  | zero => exact h
  | succ timeout => rw [waitFor, if_pos h]

lemma Effect.txExpire (h : Idle q b b') :
    Effect q [] [] 1 0 b { b' with txTimeouts := b'.txTimeouts + 1 } :=
  ⟨h.written, h.incoming, h.level, h.present, h.peer, by rw [h.txTimeouts], h.rxTimeouts, h.fits⟩

lemma Effect.rxExpire (h : Idle q b b') :
    Effect q [] [] 0 1 b { b' with rxTimeouts := b'.rxTimeouts + 1 } :=
  ⟨h.written, h.incoming, h.level, h.present, h.peer, h.txTimeouts, by rw [h.rxTimeouts], h.fits⟩

lemma waitTx_spec (q : ℕ) (ready : Mbox → Bool) (timeout : ℕ) (b : Mbox) :
    ((waitTx ready timeout b).1 = 0 ∧ Idle q b (waitTx ready timeout b).2 ∧
      ready (waitTx ready timeout b).2 = true) ∨
    ((waitTx ready timeout b).1 = -eTimeout ∧ ready b.tick = false ∧
      Effect q [] [] 1 0 b (waitTx ready timeout b).2) := by
  obtain ⟨hidle, hready⟩ := waitFor_spec q ready timeout b
  rw [waitTx]
  cases hr : (waitFor ready timeout b).1 with
  | true => exact Or.inl ⟨rfl, hidle, hready hr⟩
  | false =>
      refine Or.inr ⟨rfl, ?_, hidle.txExpire⟩
      by_contra hne
      rw [waitFor_ready ready timeout (Bool.eq_true_of_not_eq_false hne)] at hr
      exact Bool.noConfusion hr

/-! ### A frame goes out -/

/-- The outcome of writing the words `ws` to channel `q`: all of them are written, or a
wait for room runs out after some first part of them. The latter only happens to a FIFO
that has no room for all of them. -/
def Sends (q : ℕ) (ws : List UInt32) (b : Mbox) (r : ℤ × Mbox) : Prop :=
  (r.1 = 0 ∧ Effect q ws [] 0 0 b r.2) ∨
  (r.1 = -eTimeout ∧ hwmsgboxFifoDepth < (b.tx q).level + ws.length ∧
    ∃ ws', ws' <+: ws ∧ Effect q ws' [] 1 0 b r.2)

lemma Sends.nil (q : ℕ) (b : Mbox) : Sends q [] b (0, b) := Or.inl ⟨rfl, Effect.refl q b⟩

/-- Two pieces one after the other, the second only if the first succeeds. -/
lemma Sends.append {ws ws' : List UInt32} {p : ℤ × Mbox} {k : Mbox → ℤ × Mbox}
    (h : Sends q ws b p) (h' : Sends q ws' p.2 (k p.2)) :
    Sends q (ws ++ ws') b (if p.1 ≠ 0 then p else k p.2) := by
  obtain ⟨hret, heff⟩ | ⟨hret, hfull, part, hpart, heff⟩ := h
  · rw [if_neg (not_not.mpr hret)]
    obtain ⟨hret', heff'⟩ | ⟨hret', hfull', part, hpart, heff'⟩ := h'
    · exact Or.inl ⟨hret', heff.trans heff'⟩
    · have hlevel := heff.level
      refine Or.inr ⟨hret', by rw [List.length_append]; omega, ws ++ part, ?_, heff.trans heff'⟩
      exact (List.prefix_append_right_inj ws).mpr hpart
  · rw [if_pos (ne_zero_of_timeout hret)]
    refine Or.inr ⟨hret, by rw [List.length_append]; omega, part, ?_, heff⟩
    exact hpart.trans (List.prefix_append ws ws')

lemma writel_effect (value : UInt32) (h : (b.tx q).level ≠ hwmsgboxFifoDepth) :
    Effect q [value] [] 0 0 b (b.writel q value) := by
  obtain ⟨hi, -⟩ := tick_idle q b
  have hlevel : (b.tick.tx q).level ≤ (b.tx q).level := hi.level
  refine ⟨?_, hi.incoming, ?_, hi.present, hi.peer, hi.txTimeouts, hi.rxTimeouts, fun hfill => ?_⟩
  · simp only [writel, Function.update_self, Fifo.written_append, hi.written, List.append_nil]
  · simp only [writel, Function.update_self, Fifo.level_append, List.length_singleton]
    omega
  · have hroom : (b.tick.tx q).level < hwmsgboxFifoDepth := by omega
    simp only [writel, Function.update_self, Fifo.level_append, List.length_singleton, if_pos hroom]
    exact ⟨hroom, (hi.fits hfill).2⟩

lemma putWord_spec (q timeout : ℕ) (value : UInt32) (b : Mbox) :
    Sends q [value] b (putWord q timeout value b) := by
  rw [putWord, hwmsgboxWaitQueueNotFull]
  obtain ⟨hret, hidle, hready⟩ | ⟨hret, hready, heff⟩ :=
    waitTx_spec q (fun b => (b.tx q).level != hwmsgboxFifoDepth) timeout b
  · rw [if_neg (not_not.mpr hret)]
    exact Or.inl ⟨rfl, hidle.after (writel_effect value (bne_iff_ne.mp hready))⟩
  · rw [if_pos (ne_zero_of_timeout hret)]
    have hlevel : (b.tick.tx q).level ≤ (b.tx q).level := (tick_idle q b).1.level
    rw [bne_eq_false_iff_eq] at hready
    refine Or.inr ⟨hret, ?_, [], List.nil_prefix, heff⟩
    rw [List.length_singleton]
    omega

lemma putParas_spec (q timeout : ℕ) (m : Message) (i n : ℕ) (b : Mbox) :
    Sends q ((List.range' i n).map m.para) b (putParas q timeout m i n b) := by
  induction n generalizing i b with
  | zero => exact Sends.nil q b
  | succ n ih =>
      have h : Sends q ([m.para i] ++ (List.range' (i + 1) n).map m.para) b
          (putParas q timeout m i (n + 1) b) :=
        (putWord_spec q timeout (m.para i) b).append (ih (i + 1) _)
      exact h

/-- A frame goes out completely, or a wait for room runs out in it. -/
lemma putFrame_spec (q timeout : ℕ) (m : Message) (b : Mbox) :
    Sends q m.words b (putFrame q timeout m b) := by
  have hparas := putParas_spec q timeout m 0 m.count.toNat
    (putWord q timeout m.count.toUInt32 (putWord q timeout m.headerWord b).2).2
  rw [← List.range_eq_range'] at hparas
  exact (putWord_spec q timeout m.headerWord b).append
    (k := fun b =>
      let r := putWord q timeout m.count.toUInt32 b
      if r.1 ≠ 0 then r else putParas q timeout m 0 m.count.toNat r.2)
    ((putWord_spec q timeout m.count.toUInt32 _).append hparas)

/-! ### A frame comes in -/

lemma readl_effect (h : (b.rx q).level ≠ 0) :
    Effect q [] [(b.readl q).1] 0 0 b (b.readl q).2 := by
  obtain ⟨hi, -⟩ := tick_idle q b
  have hpresent := hi.present
  simp only [List.length_nil, Nat.add_zero] at hpresent
  have hne : (b.tick.rx q).level ≠ 0 := by omega
  refine ⟨hi.written, ?_, hi.level, ?_, hi.peer, hi.txTimeouts, hi.rxTimeouts, hi.fits⟩
  · rw [hi.incoming]
    simp only [Mbox.incoming, readl, Function.update_self, List.nil_append]
    conv_lhs => rw [Fifo.contents_eq_cons _ hne]
    rfl
  · simp only [readl, Function.update_self, Fifo.level_take, List.length_singleton]
    omega

lemma getWord_spec (q timeout : ℕ) (b : Mbox) :
    ((getWord q timeout b).1 = 0 ∧
      Effect q [] [(getWord q timeout b).2.1] 0 0 b (getWord q timeout b).2.2) ∨
    ((getWord q timeout b).1 = -eTimeout ∧ (b.rx q).level = 0 ∧
      Effect q [] [] 0 1 b (getWord q timeout b).2.2) := by
  obtain ⟨hidle, hready⟩ := waitFor_spec q (fun b => (b.rx q).level != 0) timeout b
  rw [getWord, hwmsgboxWaitQueueNotEmpty]
  cases hr : (waitFor (fun b => (b.rx q).level != 0) timeout b).1 with
  | true => exact Or.inl ⟨rfl, hidle.after (readl_effect (bne_iff_ne.mp (hready hr)))⟩
  | false =>
      refine Or.inr ⟨rfl, ?_, hidle.rxExpire⟩
      by_contra hne
      have hpresent := (tick_idle q b).1.present
      rw [List.length_nil, Nat.add_zero] at hpresent
      have hbusy : ((b.tick.rx q).level != 0) = true := bne_iff_ne.mpr (by omega)
      rw [waitFor_ready (fun b => (b.rx q).level != 0) timeout hbusy] at hr
      exact Bool.noConfusion hr

/-- The message after the parameters `ps` were stored from index `i` on, as far as they
fit. -/
def storeParas (capacity i : ℕ) : List UInt32 → Message → Message
  | [], m => m
  | w :: ps, m => storeParas capacity (i + 1) ps (if i < capacity then m.setPara i w else m)

lemma getParas_spec (q timeout capacity i n : ℕ) (m : Message) (b : Mbox) :
    ((getParas q timeout capacity i n m b).1 = 0 ∧ ∃ ps : List UInt32, ps.length = n ∧
      (getParas q timeout capacity i n m b).2.1 = storeParas capacity i ps m ∧
      Effect q [] ps 0 0 b (getParas q timeout capacity i n m b).2.2) ∨
    ((getParas q timeout capacity i n m b).1 = -eTimeout ∧ (b.rx q).level < n ∧
      ∃ got, Effect q [] got 0 1 b (getParas q timeout capacity i n m b).2.2) := by
  induction n generalizing i m b with
  | zero => exact Or.inl ⟨rfl, [], rfl, rfl, Effect.refl q b⟩
  | succ n ih =>
      rw [getParas]
      obtain ⟨hret, heff⟩ | ⟨hret, hlevel, heff⟩ := getWord_spec q timeout b
      · rw [if_neg (not_not.mpr hret)]
        obtain ⟨hret', ps, hlen, hm, heff'⟩ | ⟨hret', hlevel', got, heff'⟩ :=
          ih (i + 1) (if i < capacity then m.setPara i (getWord q timeout b).2.1 else m)
            (getWord q timeout b).2.2
        · exact Or.inl ⟨hret', _ :: ps, congrArg (· + 1) hlen, hm, heff.trans heff'⟩
        · have hpresent := heff.present
          rw [List.length_singleton] at hpresent
          exact Or.inr ⟨hret', by omega, _, heff.trans heff'⟩
      · rw [if_pos (ne_zero_of_timeout hret)]
        exact Or.inr ⟨hret, by omega, [], heff⟩

/-- The message that a frame of these words is received as. -/
def receive (capacity : ℕ) (m : Message) (header count : UInt32) (ps : List UInt32) : Message :=
  storeParas capacity 0 ps ((m.setHeader header).setCount count)

/-- The outcome of receiving a frame on channel `q` into the message `m`: a frame is
read, stored and reported, or a wait for one of its words runs out. The latter does not
happen to a frame whose words are all in the FIFO. -/
def Receives (q capacity : ℕ) (m : Message) (b : Mbox) (p : ℤ × Message × Mbox) : Prop :=
  (∃ (header count : UInt32) (ps : List UInt32), ps.length = (count &&& 0xff).toUInt8.toNat ∧
    p.1 = (if capacity < ps.length then -e2Big else 0) ∧ p.2.1 = receive capacity m header count ps ∧
    Effect q [] (header :: count :: ps) 0 0 b p.2.2) ∨
  (p.1 = -eTimeout ∧
    ((b.rx q).level < 2 ∨ ∃ header count rest, b.incoming q = header :: count :: rest ∧
      (b.rx q).level < 2 + (count &&& 0xff).toUInt8.toNat) ∧
    ∃ got, Effect q [] got 0 1 b p.2.2)

/-- Idle time before a frame is received does not show. -/
lemma Receives.after {capacity : ℕ} {m : Message} {p : ℤ × Message × Mbox} (hi : Idle q b b')
    (h : Receives q capacity m b' p) : Receives q capacity m b p := by
  have hpresent : (b.rx q).level ≤ (b'.rx q).level := hi.present
  obtain ⟨header, count, ps, hlen, hret, hm, heff⟩ | ⟨hret, hlevel, got, heff⟩ := h
  · exact Or.inl ⟨header, count, ps, hlen, hret, hm, hi.after heff⟩
  · refine Or.inr ⟨hret, ?_, got, hi.after heff⟩
    obtain hlevel | ⟨header, count, rest, hin, hlevel⟩ := hlevel
    · exact Or.inl (by omega)
    · exact Or.inr ⟨header, count, rest, hi.incoming.trans hin, by omega⟩

/-- A frame comes in completely, or a wait for its next word runs out. The latter does
not happen to a frame whose words are all in the FIFO. -/
lemma readFrame_spec (q timeout capacity : ℕ) (m : Message) (b : Mbox) :
    ((readFrame q timeout capacity m b).1 = 0 ∧ ∃ (header count : UInt32) (ps : List UInt32),
      ps.length = (count &&& 0xff).toUInt8.toNat ∧
      (readFrame q timeout capacity m b).2.1 = receive capacity m header count ps ∧
      Effect q [] (header :: count :: ps) 0 0 b (readFrame q timeout capacity m b).2.2) ∨
    ((readFrame q timeout capacity m b).1 = -eTimeout ∧
      ((b.rx q).level < 2 ∨ ∃ header count rest, b.incoming q = header :: count :: rest ∧
        (b.rx q).level < 2 + (count &&& 0xff).toUInt8.toNat) ∧
      ∃ got, Effect q [] got 0 1 b (readFrame q timeout capacity m b).2.2) := by
  rw [readFrame]
  obtain ⟨hret, heff⟩ | ⟨hret, hlevel, heff⟩ := getWord_spec q timeout b
  · rw [if_neg (not_not.mpr hret)]
    have hpresent := heff.present
    rw [List.length_singleton] at hpresent
    generalize getWord q timeout b = first at heff hpresent ⊢
    obtain ⟨hret', heff'⟩ | ⟨hret', hlevel', heff'⟩ := getWord_spec q timeout first.2.2
    · rw [if_neg (not_not.mpr hret')]
      have hpresent' := heff'.present
      rw [List.length_singleton] at hpresent'
      have hboth := heff.trans heff'
      generalize getWord q timeout first.2.2 = second at heff' hpresent' hboth ⊢
      obtain ⟨hret'', ps, hlen, hm, heff''⟩ | ⟨hret'', hlevel'', got, heff''⟩ :=
        getParas_spec q timeout capacity 0 (second.2.1 &&& 0xff).toUInt8.toNat
          ((m.setHeader first.2.1).setCount second.2.1) second.2.2
      · exact Or.inl ⟨hret'', first.2.1, second.2.1, ps, hlen, hm, hboth.trans heff''⟩
      · refine Or.inr ⟨hret'', Or.inr ⟨first.2.1, second.2.1, _, hboth.incoming, ?_⟩,
          _, hboth.trans heff''⟩
        omega
    · rw [if_pos (ne_zero_of_timeout hret')]
      exact Or.inr ⟨hret', Or.inl (by omega), _, heff.trans heff'⟩
  · rw [if_pos (ne_zero_of_timeout hret)]
    exact Or.inr ⟨hret, Or.inl (by omega), [], heff⟩

/-- Storing parameters changes nothing but the parameters: those of `ps` below the
capacity are taken, the others keep their values. -/
lemma storeParas_eq (capacity i : ℕ) (ps : List UInt32) (m : Message) :
    storeParas capacity i ps m = { m with
      paras := m.paras.map fun p j =>
        if i ≤ j ∧ j < capacity ∧ j < i + ps.length then ps.getD (j - i) 0 else p j } := by
  induction ps generalizing i m with
  | nil =>
      have hid : ∀ p : ℕ → UInt32, (fun j => if i ≤ j ∧ j < capacity ∧ j < i + ([] : List UInt32).length
          then ([] : List UInt32).getD (j - i) 0 else p j) = p := by
        intro p
        funext j
        rw [if_neg (by rw [List.length_nil]; omega)]
      rw [storeParas, funext hid, show (fun p : ℕ → UInt32 => p) = id from rfl, Option.map_id, id]
  | cons w ps ih =>
      rw [storeParas, ih]
      split_ifs with hi
      · simp only [Message.setPara, Option.map_map]
        congr 2
        funext p j
        simp only [Function.comp, List.length_cons]
        rcases Nat.lt_trichotomy j i with hj | rfl | hj
        · rw [if_neg (by omega), if_neg (by omega), Function.update_of_ne (by omega)]
        · rw [if_neg (by omega), if_pos (by omega), Function.update_self, Nat.sub_self]
          rfl
        · obtain ⟨d, rfl⟩ : ∃ d, j = i + 1 + d := ⟨j - (i + 1), by omega⟩
          rw [Function.update_of_ne (by omega), Nat.add_sub_cancel_left,
            show i + 1 + d - i = d + 1 by omega]
          by_cases hd : i + 1 + d < capacity ∧ d < ps.length
          · rw [if_pos (by omega), if_pos (by omega)]
            rfl
          · rw [if_neg (by omega), if_neg (by omega)]
      · congr 2
        funext p j
        rw [if_neg (by omega), if_neg (by omega)]

/-! ### The entry points -/

lemma drain_effect (q n : ℕ) (b : Mbox) : ∃ got, Effect q [] got 0 0 b (drain q n b) := by
  induction n generalizing b with
  | zero => exact ⟨[], Effect.refl q b⟩
  | succ n ih =>
      rw [drain]
      by_cases h : (b.tick.rx q).level = 0
      · rw [if_pos h]
        exact ⟨[], (tick_idle q b).1⟩
      · rw [if_neg h]
        obtain ⟨got, heff⟩ := ih (b.tick.readl q).2
        exact ⟨_, (tick_idle q b).1.after ((readl_effect h).trans heff)⟩

/-- The answer is written as a frame, or refused before anything is written. -/
lemma hwmsgboxFeedbackMessage_spec (m : Message) (timeout : ℕ) (b : Mbox) :
    (m.refused = false ∧ m.hardsyn = true ∧
      Sends 3 m.words b (hwmsgboxFeedbackMessage (some m) timeout b)) ∨
    (hwmsgboxFeedbackMessage (some m) timeout b = (-eInval, b) ∧ m.refused = true) ∨
    (hwmsgboxFeedbackMessage (some m) timeout b = (-eSrch, b) ∧ m.hardsyn = false) := by
  rw [hwmsgboxFeedbackMessage]
  cases hrefused : m.refused with
  | true => exact Or.inr (Or.inl ⟨rfl, rfl⟩)
  | false =>
      cases hsyn : m.hardsyn with
      | true => exact Or.inl ⟨rfl, rfl, putFrame_spec hwmsgboxArmSynRxCh timeout m b⟩
      | false => exact Or.inr (Or.inr ⟨rfl, rfl⟩)

/-- Reading a frame, and what both receivers do then: report a frame that was too large
for the message, and clean up in `finish` after one that did not arrive. -/
lemma readFrame_receives (q timeout capacity : ℕ) (m : Message) (b : Mbox)
    {p : ℤ × Message × Mbox}
    (hfail : (readFrame q timeout capacity m b).1 ≠ 0 →
      p.1 = (readFrame q timeout capacity m b).1 ∧
      ∃ got, Effect q [] got 0 0 (readFrame q timeout capacity m b).2.2 p.2.2)
    (hread : (readFrame q timeout capacity m b).1 = 0 →
      p.1 = (if capacity < (readFrame q timeout capacity m b).2.1.count.toNat then -e2Big else 0) ∧
      p.2.1 = (readFrame q timeout capacity m b).2.1 ∧
      Idle q (readFrame q timeout capacity m b).2.2 p.2.2) :
    Receives q capacity m b p := by
  obtain ⟨hret, header, count, ps, hlen, hm, heff⟩ | ⟨hret, hlevel, got, heff⟩ :=
    readFrame_spec q timeout capacity m b
  · obtain ⟨hp, hmsg, hidle⟩ := hread hret
    have hcount : (readFrame q timeout capacity m b).2.1.count.toNat = ps.length := by
      rw [hm, receive, storeParas_eq, hlen]
      rfl
    rw [hcount] at hp
    exact Or.inl ⟨header, count, ps, hlen, hp, hmsg.trans hm, heff.idle hidle⟩
  · obtain ⟨hp, got', heff'⟩ := hfail (ne_zero_of_timeout hret)
    exact Or.inr ⟨hp.trans hret, hlevel, _, heff.trans heff'⟩

lemma receiveFeedback_spec (m : Message) (timeout : ℕ) (b : Mbox) :
    Receives 3 m.count.toNat m b (receiveFeedback m timeout b) := by
  have hdef : receiveFeedback m timeout b
      = (let r := readFrame 3 timeout m.count.toNat m b
        if r.1 ≠ 0 then r
        else if m.count.toNat < r.2.1.count.toNat then (-e2Big, r.2) else (0, r.2)) := rfl
  refine readFrame_receives 3 timeout m.count.toNat m b (fun hret => ?_) (fun hret => ?_)
  · simp only [hdef, if_pos hret]
    exact ⟨trivial, [], Effect.refl 3 _⟩
  · simp only [hdef, if_neg (not_not.mpr hret)]
    split_ifs
    · exact ⟨rfl, rfl, Effect.refl 3 _⟩
    · exact ⟨rfl, rfl, Effect.refl 3 _⟩

lemma hwmsgboxReceiveMessage_spec (q : ℕ) (m : Message) (capacity timeout : ℕ) (b : Mbox) :
    Receives q capacity m b (hwmsgboxReceiveMessage q m capacity timeout b) := by
  rw [hwmsgboxReceiveMessage]
  refine readFrame_receives q timeout capacity m b (fun hret => ?_) (fun hret => ?_)
  · simp only [if_pos hret]
    obtain ⟨got, heff⟩ := drain_effect q hwmsgboxRxDrainMax (readFrame q timeout capacity m b).2.2
    exact ⟨trivial, got, heff.idle (tick_idle q _).1⟩
  · simp only [if_neg (not_not.mpr hret)]
    split_ifs
    · exact ⟨rfl, rfl, (tick_idle q _).1⟩
    · exact ⟨rfl, rfl, (tick_idle q _).1⟩

/-- A query finds nothing, or it receives a frame. It finds nothing only if fewer than
two words have arrived, and uses up a turn of the other side then. -/
lemma hwmsgboxQueryMessage_spec (m : Message) {capacity : ℕ} (timeout : ℕ) (b : Mbox)
    (hargs : ¬ (messageParaMax < capacity ∨ (capacity ≠ 0 ∧ m.paras.isNone))) :
    (∃ b', hwmsgboxQueryMessage (some m) capacity timeout b = (fail, some m, b') ∧
      (b.rx 3).level < 2 ∧ b'.peer.length ≤ b.peer.length - 1 ∧ Idle 3 b b') ∨
    (∃ ret m' b', hwmsgboxQueryMessage (some m) capacity timeout b = (ret, some m', b') ∧
      Receives 3 capacity m b (ret, m', b')) := by
  obtain ⟨hidle, hturn⟩ := tick_idle 3 b
  obtain ⟨hidle', hturn'⟩ := tick_idle 3 b.tick
  rw [hwmsgboxQueryMessage]
  simp only [if_neg hargs]
  split_ifs with h₁ h₂
  · exact Or.inr ⟨_, _, _, rfl, (hwmsgboxReceiveMessage_spec 3 m capacity timeout _).after hidle⟩
  · exact Or.inr ⟨_, _, _, rfl,
      (hwmsgboxReceiveMessage_spec 3 m capacity timeout _).after (hidle.after hidle')⟩
  · have hpresent : (b.rx 3).level ≤ (b.tick.rx 3).level := hidle.present
    refine Or.inl ⟨_, rfl, lt_of_le_of_lt hpresent (Nat.lt_of_not_le h₁), ?_, hidle.after hidle'⟩
    omega

/-- The reservation runs out, or a frame that fits the FIFO has its room. -/
lemma reserveFrame_spec (m : Message) (timeout : ℕ) (b : Mbox) :
    ((reserveFrame m timeout b).1 = 0 ∧ Idle 3 b (reserveFrame m timeout b).2 ∧
      (m.count.toNat ≤ 6 →
        ((reserveFrame m timeout b).2.tx 3).level + m.words.length ≤ hwmsgboxFifoDepth)) ∨
    ((reserveFrame m timeout b).1 = -eTimeout ∧
      Effect 3 [] [] 1 0 b (reserveFrame m timeout b).2) := by
  have hchannel : (if m.hardsyn then hwmsgboxRiscSynTxCh else hwmsgboxRiscAsynTxCh) = 3 := by
    split <;> rfl
  have hdepth : hwmsgboxFifoDepth = 8 := rfl
  simp only [reserveFrame, hchannel, hwmsgboxWaitQueueSpace, messageFrameHeaderWords,
    Message.length_words]
  by_cases hfits : 2 + m.count.toNat ≤ hwmsgboxFifoDepth
  · simp only [if_pos hfits, if_neg (Nat.not_lt.mpr hfits)]
    obtain ⟨hret, hidle, hroom⟩ | ⟨hret, -, heff⟩ := waitTx_spec 3
      (fun b => decide ((b.tx 3).level ≤ hwmsgboxFifoDepth - (2 + m.count.toNat))) timeout b
    · have hroom := of_decide_eq_true hroom
      exact Or.inl ⟨hret, hidle, fun _ => by omega⟩
    · exact Or.inr ⟨hret, heff⟩
  · simp only [if_neg hfits]
    exact Or.inl ⟨trivial, Effect.refl 3 b, fun h => absurd h (by omega)⟩

/-- The traffic of `hwmsgbox_send_message`: a transmit wait runs out, and then only a
frame too large for the FIFO can have been started; an asynchronous frame goes out; or a
synchronous frame goes out, and the next frame that comes in is taken as its feedback. -/
lemma hwmsgboxSendMessage_spec (m : Message) (timeout : ℕ) (b : Mbox) (hm : m.refused = false) :
    (∃ b', hwmsgboxSendMessage (some m) timeout b = (-eTimeout, some m, b') ∧
      ∃ ws, ws <+: m.words ∧ (m.count.toNat ≤ 6 → ws = []) ∧ Effect 3 ws [] 1 0 b b') ∨
    (m.hardsyn = false ∧ ∃ b', hwmsgboxSendMessage (some m) timeout b = (0, some m, b') ∧
      Effect 3 m.words [] 0 0 b b') ∨
    (m.hardsyn = true ∧ ∃ ret m' b₁ b',
      hwmsgboxSendMessage (some m) timeout b = (ret, some m', b') ∧
      Effect 3 m.words [] 0 0 b b₁ ∧ Receives 3 m.count.toNat m b₁ (ret, m', b')) := by
  have hsyn : hwmsgboxRiscSynTxCh = 3 := rfl
  have hasyn : hwmsgboxRiscAsynTxCh = 3 := rfl
  rw [hwmsgboxSendMessage]
  simp only [hm, hsyn, hasyn, Bool.false_eq_true, if_false]
  obtain ⟨hret, hidle, hroom⟩ | ⟨hret, heff⟩ := reserveFrame_spec m timeout b
  · simp only [if_neg (not_not.mpr hret)]
    generalize (reserveFrame m timeout b).2 = b₀ at hidle hroom ⊢
    obtain ⟨hret', heff⟩ | ⟨hret', hfull, ws, hws, heff⟩ := putFrame_spec 3 timeout m b₀
    · have hsent := hidle.after heff
      cases m.hardsyn with
      | false => exact Or.inr (Or.inl ⟨rfl, _, by rw [hret']; rfl, hsent⟩)
      | true =>
          simp only [if_true, if_neg (not_not.mpr hret')]
          exact Or.inr (Or.inr ⟨trivial, _, _, _, _, rfl, hsent, receiveFeedback_spec m timeout _⟩)
    · have hpart : m.count.toNat ≤ 6 → ws = [] := fun h =>
        absurd (hroom h) (Nat.not_le.mpr hfull)
      refine Or.inl ⟨_, ?_, ws, hws, hpart, hidle.after heff⟩
      cases m.hardsyn with
      | false => simp only [Bool.false_eq_true, if_false, hret']
      | true =>
          simp only [if_true, if_pos (ne_zero_of_timeout hret')]
          rw [hret']
  · rw [if_pos (ne_zero_of_timeout hret), hret]
    exact Or.inl ⟨_, rfl, [], List.nil_prefix, fun _ => rfl, heff⟩

end Effects

/-! ### Sending is all-or-nothing -/

/-- **Sending is all-or-nothing.** A call of `hwmsgbox_send_message` with a frame that
fits the FIFO, whatever the other side takes meanwhile, writes the complete frame or no
word at all. It never writes to a full FIFO, and if a transmit wait runs out no word was
written: that is so for every `-ETIMEOUT` that does not come from the wait for the
feedback. -/
theorem hwmsgboxSendMessage_atomic (m : Message) (hcount : m.count.toNat ≤ 6) (timeout : ℕ)
    (b : Mbox) (hfill : (b.tx 3).level ≤ hwmsgboxFifoDepth) (r : ℤ × Option Message × Mbox)
    (hr : r = hwmsgboxSendMessage (some m) timeout b) :
    ((r.2.2.tx 3).written = (b.tx 3).written ∨
      (r.2.2.tx 3).written = (b.tx 3).written ++ m.words) ∧
    ((r.2.2.tx 3).level ≤ hwmsgboxFifoDepth ∧ r.2.2.overruns = b.overruns) ∧
    (r.2.2.txTimeouts ≠ b.txTimeouts →
      r.1 = -eTimeout ∧ (r.2.2.tx 3).written = (b.tx 3).written) ∧
    (r.1 = -eTimeout → r.2.2.rxTimeouts = b.rxTimeouts →
      (r.2.2.tx 3).written = (b.tx 3).written) := by
  cases hrefused : m.refused with
  | true =>
      have hdef : r = (-eInval, some m, b) := by
        rw [hr, hwmsgboxSendMessage, hrefused]
        rfl
      rw [hdef]
      exact ⟨Or.inl rfl, ⟨hfill, rfl⟩, fun h => absurd rfl h, fun _ _ => rfl⟩
  | false =>
      obtain ⟨b', hdef, ws, -, hnone, heff⟩ | ⟨-, b', hdef, heff⟩ |
        ⟨-, ret, m', b₁, b', hdef, heff, hrecv⟩ := hwmsgboxSendMessage_spec m timeout b hrefused
      · -- a transmit wait ran out
        have hsame : (b'.tx 3).written = (b.tx 3).written := by
          rw [heff.written, hnone hcount, List.append_nil]
        rw [hr, hdef]
        exact ⟨Or.inl hsame, heff.fits hfill, fun _ => ⟨rfl, hsame⟩, fun _ _ => hsame⟩
      · rw [hr, hdef]
        refine ⟨Or.inr heff.written, heff.fits hfill, fun h => absurd heff.txTimeouts h, ?_⟩
        exact fun h _ => absurd h.symm (ne_zero_of_timeout rfl)
      · -- the frame is out: what follows does not write
        rw [hr, hdef]
        obtain ⟨header, count, ps, -, hret, -, heff'⟩ | ⟨-, -, got, heff'⟩ := hrecv
        · have hboth := heff.trans heff'
          rw [List.append_nil] at hboth
          refine ⟨Or.inr hboth.written, hboth.fits hfill, fun h => absurd hboth.txTimeouts h, ?_⟩
          intro (htimeout : ret = -eTimeout)
          simp only [htimeout] at hret
          split_ifs at hret
          · exact absurd hret (by decide)
          · exact absurd hret (by decide)
        · have hboth := heff.trans heff'
          rw [List.append_nil] at hboth
          refine ⟨Or.inr hboth.written, hboth.fits hfill, fun h => absurd hboth.txTimeouts h, ?_⟩
          intro _ (h : b'.rxTimeouts = b.rxTimeouts)
          have hlate : b'.rxTimeouts = b.rxTimeouts + (0 + 1) := hboth.rxTimeouts
          omega

/-- A message box whose FIFO to the other side holds `n` words, and what the other side
will do. -/
def Mbox.holding (n : ℕ) (peer : List Turn) : Mbox :=
  { tx := fun _ => Fifo.ofList (List.replicate n 0)
    rx := fun _ => Fifo.ofList []
    peer := peer
    elapsed := 0
    txTimeouts := 0
    rxTimeouts := 0
    overruns := 0 }

/-- A frame of four words, sent into a FIFO that holds seven: it goes out when the other
side has taken enough of them. -/
theorem hwmsgboxSendMessage_atomic_sample :
    let m : Message := ⟨1, 0, 0x61, 0, 2, some UInt32.ofNat⟩
    let b := Mbox.holding 7 [⟨fun _ => 1, fun _ => []⟩, ⟨fun _ => 1, fun _ => []⟩,
      ⟨fun _ => 1, fun _ => []⟩]
    let r := hwmsgboxSendMessage (some m) 5 b
    (r.1 = 0 ∧ (r.2.2.tx 3).written = (b.tx 3).written ++ [0x610001, 2, 0, 1]) ∧
    r.2.2.overruns = 0 := by
  intro m b r
  refine ⟨⟨by decide, by decide⟩, ?_⟩
  exact (hwmsgboxSendMessage_atomic m (by decide) 5 b (by decide) r rfl).2.1.2

end A733Boot.Ar100s.Mailbox
