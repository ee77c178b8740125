/-
Answers on the FIFO of the notifications: `hwmsgbox_feedback_message` writes the words of
its frame one by one, without the reservation that opens `hwmsgbox_send_message`.

* `AllOrNothing`: what a writer of frames owes the reader, as the comment in
  `hwmsgbox_send_message` has it;
* `Sends.allOrNothing`: a frame that has its room is written completely;
* `putFrame_torn`: a frame that does not have it is torn when the other side takes at
  most one word and then stops;
* `hwmsgboxFeedbackMessage_allOrNothing_iff` (**when an answer is all-or-nothing**):
  exactly when it is refused, or all of its words have room at the start.
-/
import A733Boot.Ar100s.Mailbox

namespace A733Boot.Ar100s.Mailbox

open Mbox

/-- A frame was written completely or not at all, and an error is only reported in the
latter case. -/
def AllOrNothing (q : ℕ) (m : Message) (b : Mbox) (r : ℤ × Mbox) : Prop :=
  ((r.2.tx q).written = (b.tx q).written ∨
    (r.2.tx q).written = (b.tx q).written ++ m.words) ∧
  (r.1 ≠ 0 → (r.2.tx q).written = (b.tx q).written)

instance AllOrNothing.decidable (q : ℕ) (m : Message) (b : Mbox) (r : ℤ × Mbox) :
    Decidable (AllOrNothing q m b r) :=
  inferInstanceAs (Decidable (_ ∧ _))

section Torn

variable {q : ℕ} {m : Message} {b b' : Mbox} {ws : List UInt32} {r : ℤ × Mbox}

/-- A frame that has its room at the start is written completely. -/
lemma Sends.allOrNothing (h : Sends q m.words b r)
    (hroom : (b.tx q).level + m.words.length ≤ hwmsgboxFifoDepth) : AllOrNothing q m b r := by
  obtain ⟨hret, heff⟩ | ⟨-, hfull, -⟩ := h
  · exact ⟨Or.inr heff.written, fun hne => absurd hret hne⟩
  · exact absurd hroom (Nat.not_le.mpr hfull)

/-! ### The other side has stopped -/

/-- The other side has no turn left, and has taken nothing between `b` and `b'`. -/
structure Stopped (q : ℕ) (b b' : Mbox) : Prop where
  peer : b'.peer = []
  taken : (b'.tx q).taken = (b.tx q).taken

lemma Stopped.trans {b'' : Mbox} (h : Stopped q b b') (h' : Stopped q b' b'') :
    Stopped q b b'' :=
  ⟨h'.peer, h'.taken.trans h.taken⟩

lemma tick_stopped (h : b.peer = []) : b.tick = b := by
  rw [tick, h]

lemma waitFor_stopped (ready : Mbox → Bool) (timeout : ℕ) (h : b.peer = []) :
    Stopped q b (waitFor ready timeout b).2 := by
  induction timeout generalizing b with
  | zero =>
      rw [waitFor, tick_stopped h]
      exact ⟨h, rfl⟩
  | succ timeout ih =>
      have hdelay : b.mdelay.peer = [] := by rw [mdelay, tick_stopped h]; exact h
      have htaken : (b.mdelay.tx q).taken = (b.tx q).taken := by rw [mdelay, tick_stopped h]
      rw [waitFor, tick_stopped h]
      split_ifs with hready
      · exact ⟨h, rfl⟩
      · exact Stopped.trans ⟨hdelay, htaken⟩ (ih hdelay)

lemma writel_stopped (value : UInt32) (h : b.peer = []) : Stopped q b (b.writel q value) := by
  rw [writel, tick_stopped h]
  refine ⟨h, ?_⟩
  simp only [Function.update_self]
  rfl

lemma putWord_stopped (timeout : ℕ) (value : UInt32) (h : b.peer = []) :
    Stopped q b (putWord q timeout value b).2 := by
  have hwait : Stopped q b (hwmsgboxWaitQueueNotFull q timeout b).2 := by
    rw [hwmsgboxWaitQueueNotFull, waitTx]
    have hpoll := waitFor_stopped (q := q) (fun b => (b.tx q).level != hwmsgboxFifoDepth) timeout h
    split_ifs
    · exact hpoll
    · exact ⟨hpoll.peer, hpoll.taken⟩
  rw [putWord]
  split_ifs
  · exact hwait
  · exact hwait.trans (writel_stopped value hwait.peer)

lemma putParas_stopped (timeout : ℕ) (m : Message) (i n : ℕ) (h : b.peer = []) :
    Stopped q b (putParas q timeout m i n b).2 := by
  induction n generalizing i b with
  | zero => exact ⟨h, rfl⟩
  | succ n ih =>
      have hword := putWord_stopped (q := q) timeout (m.para i) h
      rw [putParas]
      split_ifs
      · exact hword
      · exact hword.trans (ih (i + 1) hword.peer)

/-! ### A torn frame -/

/-- The words of a frame after its header. -/
def putBody (queue timeout : ℕ) (m : Message) (b : Mbox) : ℤ × Mbox :=
  let r := putWord queue timeout m.count.toUInt32 b
  if r.1 ≠ 0 then r else putParas queue timeout m 0 m.count.toNat r.2

lemma putBody_spec (q timeout : ℕ) (m : Message) (b : Mbox) :
    Sends q m.words.tail b (putBody q timeout m b) := by
  have hparas := putParas_spec q timeout m 0 m.count.toNat
    (putWord q timeout m.count.toUInt32 b).2
  rw [← List.range_eq_range'] at hparas
  exact (putWord_spec q timeout m.count.toUInt32 b).append hparas

lemma putBody_stopped (timeout : ℕ) (m : Message) (h : b.peer = []) :
    Stopped q b (putBody q timeout m b).2 := by
  have hword := putWord_stopped (q := q) timeout m.count.toUInt32 h
  rw [putBody]
  split_ifs
  · exact hword
  · exact hword.trans (putParas_stopped timeout m 0 _ hword.peer)

/-- A word for which there is room when the other side has had its turn. -/
lemma putWord_room (timeout : ℕ) (value : UInt32)
    (hroom : (b.tick.tx q).level ≠ hwmsgboxFifoDepth) :
    putWord q timeout value b = (0, b.tick.writel q value) := by
  have hready : ((b.tick.tx q).level != hwmsgboxFifoDepth) = true := bne_iff_ne.mpr hroom
  have hwait : hwmsgboxWaitQueueNotFull q timeout b = (0, b.tick) := by
    rw [hwmsgboxWaitQueueNotFull, waitTx]
    cases timeout with
    | zero => simp only [waitFor, hready, if_true]
    | succ timeout => simp only [waitFor, hready, if_true]
  rw [putWord, hwait]
  rfl

/-- Where the other side has stopped, a piece that does not fit is not written. -/
lemma Sends.times_out (h : Sends q ws b r) (hstop : Stopped q b r.2)
    (hfill : (b.tx q).level ≤ hwmsgboxFifoDepth)
    (hfull : hwmsgboxFifoDepth < (b.tx q).level + ws.length) :
    r.1 = -eTimeout ∧ ∃ sent, (r.2.tx q).written = (b.tx q).written ++ sent := by
  obtain ⟨-, heff⟩ | ⟨hret, -, sent, -, heff⟩ := h
  · exfalso
    have hlevel := (heff.fits hfill).1
    have htaken := (b.tx q).taken_le
    rw [Fifo.level, heff.written, hstop.taken, List.length_append] at hlevel
    rw [Fifo.level] at hfull
    omega
  · exact ⟨hret, sent, heff.written⟩

/-- The header of a frame goes out, and the other side stops before there is room for
the rest of it. -/
lemma putFrame_torn (timeout : ℕ) (m : Message) (hstop : b.tick.peer = [])
    (hroom : (b.tick.tx q).level < hwmsgboxFifoDepth)
    (hfull : hwmsgboxFifoDepth < (b.tick.tx q).level + m.words.length) :
    (putFrame q timeout m b).1 ≠ 0 ∧
    ((putFrame q timeout m b).2.tx q).written ≠ (b.tx q).written := by
  have hframe : putFrame q timeout m b = putBody q timeout m (b.tick.writel q m.headerWord) := by
    rw [putFrame, putWord_room timeout m.headerWord hroom.ne]
    rfl
  have hheader := writel_effect (b := b.tick) (q := q) m.headerWord hroom.ne
  have hpeer := (writel_stopped (q := q) m.headerWord hstop).peer
  have hlevel : ((b.tick.writel q m.headerWord).tx q).level = (b.tick.tx q).level + 1 := by
    rw [writel, tick_stopped hstop]
    simp only [Function.update_self, Fifo.level_append, List.length_singleton]
  have hwords : m.words.length = m.words.tail.length + 1 := rfl
  obtain ⟨hret, sent, hsent⟩ := (putBody_spec q timeout m _).times_out
    (putBody_stopped timeout m hpeer) (by omega) (by omega)
  have hidle := (tick_idle q b).1.written
  rw [hframe]
  refine ⟨ne_zero_of_timeout hret, ?_⟩
  rw [hsent, hheader.written, hidle]
  intro heq
  have hlen := congrArg List.length heq
  simp only [List.length_append, List.length_nil, List.length_singleton] at hlen
  omega

end Torn

/-! ### Answers -/

/-- The other side takes one word from a full FIFO, none from any other, and stops. -/
def stallingPeer (b : Mbox) : List Turn :=
  [⟨fun q => (b.tx q).level + 1 - hwmsgboxFifoDepth, fun _ => []⟩]

/-- **When an answer is all-or-nothing.** For a hardware-synchronous message, on any
fill level and with any timeout: `hwmsgbox_feedback_message` keeps the frame whole under
every schedule of the other side exactly when the message is refused at the start, or
the FIFO has room for all of the frame then. -/
theorem hwmsgboxFeedbackMessage_allOrNothing_iff (m : Message) (hsyn : m.hardsyn = true)
    (timeout : ℕ) (b : Mbox)
    (hfill : (b.tx hwmsgboxArmSynRxCh).level ≤ hwmsgboxFifoDepth) :
    (∀ peer, AllOrNothing hwmsgboxArmSynRxCh m b
      (hwmsgboxFeedbackMessage (some m) timeout { b with peer := peer })) ↔
    m.refused = true ∨
      (b.tx hwmsgboxArmSynRxCh).level + (messageFrameHeaderWords + m.count.toNat) ≤
        hwmsgboxFifoDepth := by
  have hwords : m.words.length = messageFrameHeaderWords + m.count.toNat := m.length_words
  rw [← hwords]
  constructor
  · intro hall
    by_contra hcond
    obtain ⟨haccepted, hfull⟩ := not_or.mp hcond
    have hdef : hwmsgboxFeedbackMessage (some m) timeout { b with peer := stallingPeer b }
        = putFrame hwmsgboxArmSynRxCh timeout m { b with peer := stallingPeer b } := by
      rw [hwmsgboxFeedbackMessage, if_neg haccepted, if_pos hsyn]
    have hlevel : (({ b with peer := stallingPeer b } : Mbox).tick.tx hwmsgboxArmSynRxCh).level
        = min (b.tx hwmsgboxArmSynRxCh).level (hwmsgboxFifoDepth - 1) := by
      simp only [tick, stallingPeer, Fifo.level_take]
      omega
    have hdepth : hwmsgboxFifoDepth = 8 := rfl
    have hheader : messageFrameHeaderWords = 2 := rfl
    obtain ⟨hret, hwritten⟩ := putFrame_torn (q := hwmsgboxArmSynRxCh) timeout m
      (b := { b with peer := stallingPeer b }) rfl (by omega) (by omega)
    have hwhole := hall (stallingPeer b)
    rw [hdef] at hwhole
    exact hwritten (hwhole.2 hret)
  · intro hcond peer
    obtain ⟨-, -, hsends⟩ | ⟨hdef, -⟩ | ⟨-, hasyn⟩ :=
      hwmsgboxFeedbackMessage_spec m timeout { b with peer := peer }
    · obtain hrefused | hroom := hcond
      · rw [hwmsgboxFeedbackMessage, if_pos hrefused]
        exact ⟨Or.inl rfl, fun _ => rfl⟩
      · exact hsends.allOrNothing hroom
    · rw [hdef]
      exact ⟨Or.inl rfl, fun _ => rfl⟩
    · rw [hsyn] at hasyn
      exact absurd hasyn Bool.noConfusion

/-- An answer without parameters, in a FIFO that holds six words: it goes out whole,
though the other side never takes a word. -/
theorem hwmsgboxFeedbackMessage_allOrNothing_six :
    let m : Message := ⟨4, 2, 0x61, 0, 0, none⟩
    let b := Mbox.holding 6 []
    m.hardsyn = true ∧
    ∀ peer, AllOrNothing hwmsgboxArmSynRxCh m b
      (hwmsgboxFeedbackMessage (some m) 0 { b with peer := peer }) := by
  intro m b
  refine ⟨by decide, ?_⟩
  exact (hwmsgboxFeedbackMessage_allOrNothing_iff m (by decide) 0 b (by decide)).mpr
    (Or.inr (by decide))

/-- The same answer in a FIFO that holds seven words, which the other side does not read:
its header goes out, and the wait for the room of its count runs out. -/
theorem hwmsgboxFeedbackMessage_torn :
    ¬ ∀ (m : Message), m.hardsyn = true → m.count.toNat ≤ 6 → ∀ (timeout : ℕ) (b : Mbox),
      (b.tx hwmsgboxArmSynRxCh).level ≤ hwmsgboxFifoDepth →
      AllOrNothing hwmsgboxArmSynRxCh m b (hwmsgboxFeedbackMessage (some m) timeout b) := by
  intro hall
  have hwhole := hall ⟨4, 2, 0x61, 0, 0, none⟩ (by decide) (by decide) 0 (Mbox.holding 7 [])
    (by decide)
  revert hwhole
  decide

end A733Boot.Ar100s.Mailbox
