/-
The wait for the resume notification: `wait_cpu0_resume` of
`ar100s/service/standby/standby-sun60iw2p1/plat_standby.c`, over the message box driver.

* `waitFor_elapsed`, `hwmsgboxQueryMessage_elapsed`, `hwmsgboxFeedbackMessage_elapsed`: the
  delays that pass in the driver;
* `ReachedBy`: the frames arrive in time for so many polls;
* `poll_cases`: a poll finds nothing, takes the next frame, or a wait runs out in it, as the
  arrivals have it;
* `waitCpu0Resume_notified` (**the resume notification**): it is answered exactly if it has
  no parameters, no other notification comes before it and it arrives in time for the polls.
  Since a poll of an empty FIFO takes no time, the last is no matter of milliseconds.
-/
import A733Boot.Ar100s.Arrivals
import A733Boot.Ar100s.Messages

namespace A733Boot.Ar100s.Standby

open Mailbox Mailbox.Mbox

/-! ### The code -/

def cpu0RestoreQueryRetries : ℕ := 50
def sstandbyRestoreNotify : UInt8 := 0x11
def noWakesource : UInt32 := 0

/-- The polling loop, with the message that is used again and again. -/
def waitCpu0ResumeLoop (wakeupSource : UInt32) : ℕ → Message → Mbox → ℤ × Mbox
  | 0, _, b => (-eTimeout, b)
  | retries + 1, m, b =>
      match hwmsgboxQueryMessage (some m) 0 hwmsgboxQueryTimeout b with
      | (ret, m', b') =>
          let m := m'.getD m
          if ret ≠ 0 then waitCpu0ResumeLoop wakeupSource retries m b'
          else if m.type = sstandbyRestoreNotify then
            let m := { m with count := 1, result := 0, paras := some fun _ => wakeupSource }
            hwmsgboxFeedbackMessage (some m) sendMsgTimeout b'
          else waitCpu0ResumeLoop wakeupSource retries m b'

/-- The message of `wait_cpu0_resume` before the first poll. -/
def blankMessage : Message := ⟨0, 0, 0, 0, 0, none⟩

/-- Returns the error, `wakeup_source` and the box. -/
def waitCpu0Resume (wakeupSource : UInt32) (b : Mbox) : ℤ × UInt32 × Mbox :=
  let r := waitCpu0ResumeLoop wakeupSource cpu0RestoreQueryRetries blankMessage b
  (r.1, noWakesource, r.2)

/-! ### The time that passes -/

section Elapsed

lemma tick_elapsed (b : Mbox) : b.tick.elapsed = b.elapsed := by
  rw [tick]
  split <;> rfl

/-- A wait that runs out took its whole time. -/
lemma waitFor_elapsed (ready : Mbox → Bool) (timeout : ℕ) (b : Mbox) :
    b.elapsed ≤ (waitFor ready timeout b).2.elapsed ∧
    ((waitFor ready timeout b).1 = false →
      b.elapsed + timeout ≤ (waitFor ready timeout b).2.elapsed) := by
  induction timeout generalizing b with
  | zero =>
      rw [waitFor, tick_elapsed]
      exact ⟨le_rfl, fun _ => le_rfl⟩
  | succ timeout ih =>
      rw [waitFor]
      by_cases h : ready b.tick = true
      · rw [if_pos h]
        exact ⟨(tick_elapsed b).ge, fun hno => Bool.noConfusion hno⟩
      · rw [if_neg h]
        have hdelay : b.tick.mdelay.elapsed = b.elapsed + 1 := by
          rw [mdelay, tick_elapsed, tick_elapsed]
        obtain ⟨hle, hmiss⟩ := ih b.tick.mdelay
        rw [hdelay] at hle hmiss
        refine ⟨by omega, fun hno => ?_⟩
        have := hmiss hno
        omega

/-- No time is taken back, and a piece that fails took at least `timeout`. -/
def Waits (timeout : ℕ) (b : Mbox) (p : ℤ × Mbox) : Prop :=
  b.elapsed ≤ p.2.elapsed ∧ (p.1 ≠ 0 → b.elapsed + timeout ≤ p.2.elapsed)

/-- Two pieces one after the other, the second only if the first succeeds. -/
lemma Waits.append {timeout : ℕ} {b : Mbox} {p : ℤ × Mbox} {k : Mbox → ℤ × Mbox}
    (h : Waits timeout b p)
    (h' : Waits timeout p.2 (k p.2)) : Waits timeout b (if p.1 ≠ 0 then p else k p.2) := by
  split_ifs with hp
  · exact h
  · exact ⟨h.1.trans h'.1, fun hno => (Nat.add_le_add_right h.1 timeout).trans (h'.2 hno)⟩

lemma waitTx_waits (ready : Mbox → Bool) (timeout : ℕ) (b : Mbox) :
    Waits timeout b (waitTx ready timeout b) := by
  obtain ⟨hle, hmiss⟩ := waitFor_elapsed ready timeout b
  rw [waitTx]
  cases hr : (waitFor ready timeout b).1 with
  | true => exact ⟨hle, fun hno => absurd rfl hno⟩
  | false => exact ⟨hle, fun _ => hmiss hr⟩

lemma putWord_waits (q timeout : ℕ) (value : UInt32) (b : Mbox) :
    Waits timeout b (putWord q timeout value b) := by
  have hwrite : ∀ b : Mbox, Waits timeout b (0, b.writel q value) := by
    intro b
    exact ⟨(tick_elapsed b).ge, fun hno => absurd rfl hno⟩
  exact (waitTx_waits (fun b => (b.tx q).level != hwmsgboxFifoDepth) timeout b).append
    (k := fun b => (0, b.writel q value)) (hwrite _)

lemma putParas_waits (q timeout : ℕ) (m : Message) (i n : ℕ) (b : Mbox) :
    Waits timeout b (putParas q timeout m i n b) := by
  induction n generalizing i b with
  | zero => exact ⟨le_rfl, fun hno => absurd rfl hno⟩
  | succ n ih => exact (putWord_waits q timeout (m.para i) b).append (ih (i + 1) _)

lemma putFrame_waits (q timeout : ℕ) (m : Message) (b : Mbox) :
    Waits timeout b (putFrame q timeout m b) :=
  (putWord_waits q timeout m.headerWord b).append
    (k := fun b =>
      let r := putWord q timeout m.count.toUInt32 b
      if r.1 ≠ 0 then r else putParas q timeout m 0 m.count.toNat r.2)
    ((putWord_waits q timeout m.count.toUInt32 _).append
      (putParas_waits q timeout m 0 m.count.toNat _))

/-- An answer that runs out of time took its whole time. -/
lemma hwmsgboxFeedbackMessage_elapsed (m : Message) (timeout : ℕ) (b : Mbox)
    (hret : (hwmsgboxFeedbackMessage (some m) timeout b).1 = -eTimeout) :
    b.elapsed + timeout ≤ (hwmsgboxFeedbackMessage (some m) timeout b).2.elapsed := by
  obtain ⟨hrefused, hsyn, -⟩ | ⟨hno, -⟩ | ⟨hno, -⟩ := hwmsgboxFeedbackMessage_spec m timeout b
  · have hdef : hwmsgboxFeedbackMessage (some m) timeout b =
      putFrame hwmsgboxArmSynRxCh timeout m b := by
      rw [hwmsgboxFeedbackMessage, hrefused, hsyn]
      rfl
    rw [hdef] at hret ⊢
    exact (putFrame_waits hwmsgboxArmSynRxCh timeout m b).2 (ne_zero_of_timeout hret)
  · rw [hno] at hret
    exact absurd hret (show -eInval ≠ -eTimeout by decide)
  · rw [hno] at hret
    exact absurd hret (show -eSrch ≠ -eTimeout by decide)

lemma getWord_elapsed (q timeout : ℕ) (b : Mbox) :
    b.elapsed ≤ (getWord q timeout b).2.2.elapsed := by
  obtain ⟨hle, -⟩ := waitFor_elapsed (fun b => (b.rx q).level != 0) timeout b
  rw [getWord, hwmsgboxWaitQueueNotEmpty]
  cases hr : (waitFor (fun b => (b.rx q).level != 0) timeout b).1 with
  | true => exact hle.trans (tick_elapsed _).ge
  | false => exact hle

lemma getParas_elapsed (q timeout capacity i n : ℕ) (m : Message) (b : Mbox) :
    b.elapsed ≤ (getParas q timeout capacity i n m b).2.2.elapsed := by
  induction n generalizing i m b with
  | zero => exact le_rfl
  | succ n ih =>
      have hword := getWord_elapsed q timeout b
      rw [getParas]
      split_ifs
      · exact hword
      · exact hword.trans (ih _ _ _)
      · exact hword.trans (ih _ _ _)

lemma readFrame_elapsed (q timeout capacity : ℕ) (m : Message) (b : Mbox) :
    b.elapsed ≤ (readFrame q timeout capacity m b).2.2.elapsed := by
  have hheader := getWord_elapsed q timeout b
  have hcount := getWord_elapsed q timeout (getWord q timeout b).2.2
  simp only [readFrame]
  split_ifs
  · exact hheader
  · exact hheader.trans hcount
  · exact (hheader.trans hcount).trans (getParas_elapsed _ _ _ _ _ _ _)

lemma drain_elapsed (q n : ℕ) (b : Mbox) : b.elapsed ≤ (drain q n b).elapsed := by
  induction n generalizing b with
  | zero => exact le_rfl
  | succ n ih =>
      rw [drain]
      split_ifs
      · exact (tick_elapsed b).ge
      · have hread : (b.tick.readl q).2.elapsed = b.elapsed :=
          (tick_elapsed _).trans (tick_elapsed b)
        exact hread.ge.trans (ih _)

lemma hwmsgboxReceiveMessage_elapsed (q : ℕ) (m : Message) (capacity timeout : ℕ) (b : Mbox) :
    b.elapsed ≤ (hwmsgboxReceiveMessage q m capacity timeout b).2.2.elapsed := by
  have hread := readFrame_elapsed q timeout capacity m b
  simp only [hwmsgboxReceiveMessage]
  split_ifs
  · exact hread.trans ((drain_elapsed _ _ _).trans (tick_elapsed _).ge)
  · exact hread.trans (tick_elapsed _).ge
  · exact hread.trans (tick_elapsed _).ge

lemma hwmsgboxQueryMessage_elapsed (m : Message) (capacity timeout : ℕ) (b : Mbox) :
    b.elapsed ≤ (hwmsgboxQueryMessage (some m) capacity timeout b).2.2.elapsed := by
  have hone := (tick_elapsed b).ge
  have htwo := hone.trans (tick_elapsed b.tick).ge
  simp only [hwmsgboxQueryMessage]
  split_ifs
  · exact le_rfl
  · exact hone.trans (hwmsgboxReceiveMessage_elapsed _ _ _ _ _)
  · exact htwo.trans (hwmsgboxReceiveMessage_elapsed _ _ _ _ _)
  · exact htwo

end Elapsed

/-! ### The polls -/

/-- The loop answers the frame: a notification without parameters. -/
def Accepted (f : Frame) : Prop := f.type = sstandbyRestoreNotify ∧ f.count = 0

instance (f : Frame) : Decidable (Accepted f) := inferInstanceAs (Decidable (_ ∧ _))

/-- The answer to a notification. -/
def restoreAnswer (wakeupSource : UInt32) (f : Frame) : Message :=
  ⟨f.state, f.attr, f.type, 0, 1, some fun _ => wakeupSource⟩

/-- The frames arrive in time to be taken by at most `n` polls, of which the first starts after
`t` turns with `r` words read; `A` is the number of words that have arrived after each turn. A
poll that sees no frame is spent, and two turns are over. -/
inductive ReachedBy (A : ℕ → ℕ) : ℕ → List Frame → ℕ → ℕ → Prop
  | done (n t r) : ReachedBy A n [] t r
  | spent {n f fs t r} (hnothing : A (t + 2) < r + messageFrameHeaderWords)
      (hrest : ReachedBy A n (f :: fs) (t + 2) r) : ReachedBy A (n + 1) (f :: fs) t r
  | taken {n f fs t r look u} (hseen : SeenAt A t r look)
      (hwords : WordsBy A hwmsgboxQueryTimeout f.words.length look r u)
      (hrest : ReachedBy A n fs (u + 1) (r + f.words.length)) : ReachedBy A (n + 1) (f :: fs) t r

section Polls

variable {wakeupSource : UInt32} {m : Message} {b₀ b : Mbox} {fs : List Frame} {t r : ℕ}

/-- A poll finds nothing, takes the next frame, or a wait runs out in it. -/
lemma poll_cases (m : Message) (hlater : Later 3 b₀ t r b) (hahead : Ahead b fs) :
    (∃ b', (∀ look, ¬SeenAt (b₀.arrived 3) t r look) ∧
      hwmsgboxQueryMessage (some m) 0 hwmsgboxQueryTimeout b = (fail, some m, b') ∧
      Idle 3 b b' ∧ Later 3 b₀ (t + 2) r b') ∨
    (∃ f rest look u b', fs = f :: rest ∧ SeenAt (b₀.arrived 3) t r look ∧
      WordsBy (b₀.arrived 3) hwmsgboxQueryTimeout f.words.length look r u ∧
      hwmsgboxQueryMessage (some m) 0 hwmsgboxQueryTimeout b =
        (if 0 < f.count.toNat then -e2Big else 0, some (f.receive 0 m), b') ∧
      Ahead b' rest ∧ Effect 3 [] f.words 0 0 b b' ∧
      Later 3 b₀ (u + 1) (r + f.words.length) b') ∨
    (∃ look ret m' b', SeenAt (b₀.arrived 3) t r look ∧
      (∀ f rest, fs = f :: rest → ∀ u,
        ¬WordsBy (b₀.arrived 3) hwmsgboxQueryTimeout f.words.length look r u) ∧
      hwmsgboxQueryMessage (some m) 0 hwmsgboxQueryTimeout b = (ret, some m', b') ∧
      b.rxTimeouts < b'.rxTimeouts ∧ b'.txTimeouts = b.txTimeouts ∧ ret ≠ 0) := by
  have hargs : ¬(messageParaMax < 0 ∨ (0 ≠ 0 ∧ m.paras.isNone)) := by
    rintro (h | ⟨h, -⟩)
    · exact absurd h (Nat.not_lt_zero _)
    · exact h rfl
  obtain ⟨hnothing, hq, hend⟩ | ⟨look, b₁, hseen, hidle, hlook, hq⟩ :=
    hwmsgboxQueryMessage_later hwmsgboxQueryTimeout m hargs hlater
  · exact Or.inl ⟨_, hnothing, hq, (tick_idle 3 b).1.after (tick_idle 3 b.tick).1, hend⟩
  · right
    have hrecv := hwmsgboxReceiveMessage_spec 3 m 0 hwmsgboxQueryTimeout b₁
    have hahead₁ := hahead.idle hidle
    have hrx : b₁.rxTimeouts = b.rxTimeouts := hidle.rxTimeouts
    -- a wait that runs out is the same matter whether or not a frame lies ahead
    have hlate : (hwmsgboxReceiveMessage 3 m 0 hwmsgboxQueryTimeout b₁).2.2.rxTimeouts ≠
          b₁.rxTimeouts →
        b.rxTimeouts < (hwmsgboxReceiveMessage 3 m 0 hwmsgboxQueryTimeout b₁).2.2.rxTimeouts ∧
        (hwmsgboxReceiveMessage 3 m 0 hwmsgboxQueryTimeout b₁).2.2.txTimeouts = b.txTimeouts ∧
        (hwmsgboxReceiveMessage 3 m 0 hwmsgboxQueryTimeout b₁).1 ≠ 0 := by
      intro hne
      obtain ⟨header, count, ps, -, -, -, heff⟩ | ⟨hret, -, got, heff⟩ := hrecv
      · exact absurd heff.rxTimeouts hne
      · have hmore := heff.rxTimeouts
        exact ⟨by omega, heff.txTimeouts.trans hidle.txTimeouts, ne_zero_of_timeout hret⟩
    cases fs with
    | nil =>
        exact Or.inr ⟨look, _, _, _, hseen, fun f rest h => absurd h.symm (List.cons_ne_nil _ _),
          hq, hlate (hrecv.nothing hahead₁)⟩
    | cons f rest =>
        obtain ⟨u, hwords, htime, hend⟩ | ⟨hnone, htime⟩ :=
          hwmsgboxReceiveMessage_later 0 hwmsgboxQueryTimeout m hlook hahead₁.cons
        · obtain ⟨hret, hm, hin, heff⟩ := hrecv.frame hahead₁.cons htime
          rw [hret, hm] at hq
          exact Or.inl ⟨f, rest, look, u, _, rfl, hseen, hwords, hq, hin, hidle.after heff, hend⟩
        · refine Or.inr ⟨look, _, _, _, hseen, fun g rest' h => ?_, hq, hlate (Nat.ne_of_gt htime)⟩
          obtain ⟨rfl, -⟩ := List.cons.inj h
          exact hnone

/-- A poll that reports an error, or another message, is followed by the next. -/
lemma waitCpu0ResumeLoop_next {ret : ℤ} {m' : Message} {b' : Mbox} (n : ℕ)
    (hq : hwmsgboxQueryMessage (some m) 0 hwmsgboxQueryTimeout b = (ret, some m', b'))
    (hnext : ret ≠ 0 ∨ m'.type ≠ sstandbyRestoreNotify) :
    waitCpu0ResumeLoop wakeupSource (n + 1) m b = waitCpu0ResumeLoop wakeupSource n m' b' := by
  simp only [waitCpu0ResumeLoop, hq, Option.getD_some]
  obtain hret | htype := hnext
  · rw [if_pos hret]
  · by_cases hret : ret ≠ 0
    · rw [if_pos hret]
    · rw [if_neg hret, if_neg htype]

/-- A poll that reports the notification is answered. -/
lemma waitCpu0ResumeLoop_notify {m' : Message} {b' : Mbox} (n : ℕ)
    (hq : hwmsgboxQueryMessage (some m) 0 hwmsgboxQueryTimeout b = (0, some m', b'))
    (htype : m'.type = sstandbyRestoreNotify) :
    waitCpu0ResumeLoop wakeupSource (n + 1) m b =
      hwmsgboxFeedbackMessage
        (some { m' with count := 1, result := 0, paras := some fun _ => wakeupSource })
        sendMsgTimeout b' := by
  simp only [waitCpu0ResumeLoop, hq, Option.getD_some, ne_eq, not_true_eq_false,
    if_false, if_pos htype]

/-- The loop at a frame that a poll takes. -/
lemma waitCpu0ResumeLoop_taken {f : Frame} {b' : Mbox} (n : ℕ)
    (hq : hwmsgboxQueryMessage (some m) 0 hwmsgboxQueryTimeout b =
      (if 0 < f.count.toNat then -e2Big else 0, some (f.receive 0 m), b')) :
    waitCpu0ResumeLoop wakeupSource (n + 1) m b =
      if Accepted f then hwmsgboxFeedbackMessage (some (restoreAnswer wakeupSource f))
        sendMsgTimeout b'
      else waitCpu0ResumeLoop wakeupSource n (f.receive 0 m) b' := by
  have htype : (f.receive 0 m).type = f.type := by
    rw [f.receive_eq]
  by_cases hcount : 0 < f.count.toNat
  · have hrefused : ¬ Accepted f := by
      rintro ⟨-, hzero⟩
      rw [hzero] at hcount
      exact absurd hcount (Nat.lt_irrefl 0)
    rw [if_neg hrefused]
    rw [if_pos hcount] at hq
    exact waitCpu0ResumeLoop_next n hq (Or.inl (by decide))
  · rw [if_neg hcount] at hq
    have hzero : f.count = 0 := UInt8.toNat_inj.mp (Nat.eq_zero_of_not_pos hcount)
    by_cases hnotify : f.type = sstandbyRestoreNotify
    · rw [if_pos ⟨hnotify, hzero⟩,
        waitCpu0ResumeLoop_notify n hq (htype.trans hnotify), f.receive_eq,
        restoreAnswer]
    · rw [if_neg fun h => hnotify h.1]
      exact waitCpu0ResumeLoop_next n hq (Or.inr fun h => hnotify (htype.symm.trans h))

/-- While no frame arrives the polls read nothing. -/
lemma waitCpu0ResumeLoop_quiet (n : ℕ) (hlater : Later 3 b₀ t r b)
    (hfew : b₀.arrived 3 (t + 2 * n) < r + messageFrameHeaderWords) :
    Idle 3 b (waitCpu0ResumeLoop wakeupSource n m b).2 := by
  induction n generalizing m t b with
  | zero => exact Effect.refl 3 b
  | succ n ih =>
      have hargs : ¬(messageParaMax < 0 ∨ (0 ≠ 0 ∧ m.paras.isNone)) := by
        rintro (h | ⟨h, -⟩)
        · exact absurd h (Nat.not_lt_zero _)
        · exact h rfl
      have hturns : t + 2 * (n + 1) = t + 2 + 2 * n := by omega
      obtain ⟨-, hq, hend⟩ | ⟨look, b₁, hseen, -⟩ :=
        hwmsgboxQueryMessage_later hwmsgboxQueryTimeout m hargs hlater
      · rw [waitCpu0ResumeLoop_next n hq (Or.inl (show fail ≠ 0 by decide))]
        have hidle := (tick_idle 3 b).1.after (tick_idle 3 b.tick).1
        exact hidle.after (ih hend (hturns ▸ hfew))
      · have hmono := arrived_mono 3 b₀
        have hle := (hseen.le hmono).trans (hmono (show t + 2 ≤ t + 2 * (n + 1) by omega))
        exact absurd hfew (Nat.not_lt.mpr hle)

lemma waitCpu0Resume_quiet (hlater : Later 3 b₀ t r b)
    (hfew : b₀.arrived 3 (t + 2 * cpu0RestoreQueryRetries) < r + messageFrameHeaderWords) :
    Idle 3 b (waitCpu0Resume wakeupSource b).2.2 :=
  waitCpu0ResumeLoop_quiet cpu0RestoreQueryRetries hlater hfew

/-- Writing leaves what comes in alone. -/
lemma sends_received {ws : List UInt32} {r : ℤ × Mbox} (h : Sends 3 ws b r) :
    r.2.rxTimeouts = b.rxTimeouts ∧ r.2.incoming 3 = b.incoming 3 := by
  obtain ⟨-, heff⟩ | ⟨-, -, ws', -, heff⟩ := h
  · exact ⟨heff.rxTimeouts, heff.incoming.symm⟩
  · exact ⟨heff.rxTimeouts, heff.incoming.symm⟩

lemma hwmsgboxFeedbackMessage_received (m : Message) (timeout : ℕ) (b : Mbox) :
    (hwmsgboxFeedbackMessage (some m) timeout b).2.rxTimeouts = b.rxTimeouts ∧
    (hwmsgboxFeedbackMessage (some m) timeout b).2.incoming 3 = b.incoming 3 := by
  obtain ⟨-, -, hsends⟩ | ⟨hno, -⟩ | ⟨hno, -⟩ := hwmsgboxFeedbackMessage_spec m timeout b
  · exact sends_received hsends
  · rw [hno]
    exact ⟨rfl, rfl⟩
  · rw [hno]
    exact ⟨rfl, rfl⟩

lemma waitCpu0ResumeLoop_rxTimeouts_le (wakeupSource : UInt32) (n : ℕ) (m : Message) (b : Mbox) :
    b.rxTimeouts ≤ (waitCpu0ResumeLoop wakeupSource n m b).2.rxTimeouts := by
  induction n generalizing m b with
  | zero => exact le_rfl
  | succ n ih =>
      have hquery : b.rxTimeouts ≤
          (hwmsgboxQueryMessage (some m) 0 hwmsgboxQueryTimeout b).2.2.rxTimeouts :=
        queryStep_rxTimeouts_le hwmsgboxQueryTimeout 0 (m, b)
      rw [waitCpu0ResumeLoop]
      generalize hwmsgboxQueryMessage (some m) 0 hwmsgboxQueryTimeout b = r at hquery ⊢
      obtain ⟨ret, m', b'⟩ := r
      simp only
      split_ifs
      · exact hquery.trans (ih _ _)
      · exact hquery.trans (hwmsgboxFeedbackMessage_received _ _ _).1.ge
      · exact hquery.trans (ih _ _)

/-! #### The polls one by one -/

section Reached

variable {A : ℕ → ℕ} {f : Frame} {n look u : ℕ}

lemma reachedBy_spent (hnothing : ∀ look, ¬SeenAt A t r look) :
    ReachedBy A (n + 1) (f :: fs) t r ↔ ReachedBy A n (f :: fs) (t + 2) r := by
  have hfirst : A (t + 1) < r + messageFrameHeaderWords :=
    Nat.lt_of_not_le fun hle => hnothing _ (.first hle)
  constructor
  · intro h
    cases h with
    | spent _ hrest => exact hrest
    | taken hseen => exact absurd hseen (hnothing _)
  · exact fun h => .spent (Nat.lt_of_not_le fun hle => hnothing _ (.second hfirst hle)) h

lemma reachedBy_taken (hmono : Monotone A) (hseen : SeenAt A t r look)
    (hwords : WordsBy A hwmsgboxQueryTimeout f.words.length look r u) :
    ReachedBy A (n + 1) (f :: fs) t r ↔ ReachedBy A n fs (u + 1) (r + f.words.length) := by
  constructor
  · intro h
    cases h with
    | spent hnothing => exact absurd (hseen.le hmono) (Nat.not_le.mpr hnothing)
    | taken hseen' hwords' hrest =>
        obtain rfl := hseen.unique hseen'
        obtain rfl := hwords.unique hwords'
        exact hrest
  · exact .taken hseen hwords

lemma not_reachedBy_late (hmono : Monotone A) (hseen : SeenAt A t r look)
    (hnone : ∀ u, ¬WordsBy A hwmsgboxQueryTimeout f.words.length look r u) :
    ¬ReachedBy A (n + 1) (f :: fs) t r := by
  intro h
  cases h with
  | spent hnothing => exact absurd (hseen.le hmono) (Nat.not_le.mpr hnothing)
  | taken hseen' hwords =>
      obtain rfl := hseen.unique hseen'
      exact hnone _ hwords

end Reached

/-! #### The loop -/

/-- The frames `pre` and `f` are taken, and then `f` is answered. -/
def AnswersAfter (wakeupSource : UInt32) (pre : List Frame) (f : Frame) (b : Mbox)
    (r : ℤ × Mbox) : Prop :=
  ∃ b₁, Effect 3 [] ((pre ++ [f]).flatMap Frame.words) 0 0 b b₁ ∧ b.elapsed ≤ b₁.elapsed ∧
    r = hwmsgboxFeedbackMessage (some (restoreAnswer wakeupSource f)) sendMsgTimeout b₁

lemma AnswersAfter.idle {pre : List Frame} {f : Frame} {b' : Mbox} {r : ℤ × Mbox}
    (hidle : Idle 3 b b')
    (hle : b.elapsed ≤ b'.elapsed) (h : AnswersAfter wakeupSource pre f b' r) :
    AnswersAfter wakeupSource pre f b r := by
  obtain ⟨b₁, heff, hle', hr⟩ := h
  exact ⟨b₁, hidle.after heff, hle.trans hle', hr⟩

lemma AnswersAfter.taken {pre : List Frame} {f g : Frame} {b' : Mbox} {r : ℤ × Mbox}
    (heff : Effect 3 [] g.words 0 0 b b') (hle : b.elapsed ≤ b'.elapsed)
    (h : AnswersAfter wakeupSource pre f b' r) : AnswersAfter wakeupSource (g :: pre) f b r := by
  obtain ⟨b₁, heff', hle', hr⟩ := h
  exact ⟨b₁, heff.trans heff', hle.trans hle', hr⟩

lemma query_elapsed {ret : ℤ} {m' : Option Message} {b' : Mbox}
    (hq : hwmsgboxQueryMessage (some m) 0 hwmsgboxQueryTimeout b = (ret, m', b')) :
    b.elapsed ≤ b'.elapsed := by
  have hle := hwmsgboxQueryMessage_elapsed m 0 hwmsgboxQueryTimeout b
  rwa [hq] at hle

/-- The next of the frames up to one of them. -/
lemma exists_next (pre : List Frame) (f : Frame) (post : List Frame) :
    ∃ g fs, pre ++ [f] = g :: fs ∧ pre ++ f :: post = g :: (fs ++ post) := by
  cases pre with
  | nil => exact ⟨f, [], rfl, rfl⟩
  | cons p pre => exact ⟨p, pre ++ [f], rfl, by rw [List.cons_append, List.append_cons]⟩

/-- The notification that arrives in time is answered. -/
lemma waitCpu0ResumeLoop_reached {pre post : List Frame} {f : Frame} {retries : ℕ}
    (hlater : Later 3 b₀ t r b) (hahead : Ahead b (pre ++ f :: post)) (haccepted : Accepted f)
    (hpre : ∀ g ∈ pre, ¬Accepted g)
    (hreached : ReachedBy (b₀.arrived 3) retries (pre ++ [f]) t r) :
    AnswersAfter wakeupSource pre f b (waitCpu0ResumeLoop wakeupSource retries m b) := by
  have hmono := arrived_mono 3 b₀
  induction retries generalizing pre m b t r with
  | zero =>
      obtain ⟨g, fs, hnext, -⟩ := exists_next pre f post
      rw [hnext] at hreached
      cases hreached
  | succ retries ih =>
      obtain ⟨g, fs, hnext, hall⟩ := exists_next pre f post
      rw [hnext] at hreached
      obtain ⟨b', hnothing, hq, hidle, hend⟩ |
        ⟨g', rest, look, u, b', hg, hseen, hwords, hq, hrest, heff, hend⟩ |
        ⟨look, ret, m', b', hseen, hnone, -⟩ := poll_cases m hlater hahead
      · have hlate := (reachedBy_spent hnothing).mp hreached
        rw [← hnext] at hlate
        rw [waitCpu0ResumeLoop_next retries hq (Or.inl (by decide))]
        exact (ih hend (hahead.idle hidle) hpre hlate).idle hidle (query_elapsed hq)
      · obtain ⟨rfl, rfl⟩ := List.cons.inj (hall.symm.trans hg)
        have hrested := (reachedBy_taken hmono hseen hwords).mp hreached
        rw [waitCpu0ResumeLoop_taken retries hq]
        cases pre with
        | nil =>
            obtain ⟨rfl, rfl⟩ := List.cons.inj hnext
            rw [if_pos haccepted]
            exact ⟨b', by simpa using heff, query_elapsed hq, rfl⟩
        | cons p pre =>
            obtain ⟨rfl, rfl⟩ := List.cons.inj hnext
            rw [if_neg (hpre p List.mem_cons_self)]
            have hahead' : Ahead b' (pre ++ f :: post) := by
              rw [List.append_cons]
              exact hrest
            exact (ih hend hahead' (fun g hg => hpre g (List.mem_cons_of_mem p hg)) hrested).taken
              heff (query_elapsed hq)
      · exact absurd hreached (not_reachedBy_late hmono hseen (hnone g _ hall))

/-- The loop answers the first notification that arrives in time, or a wait for a word runs
out in it, or it gives up. -/
lemma waitCpu0ResumeLoop_cases (wakeupSource : UInt32) (n : ℕ) (m : Message)
    (hlater : Later 3 b₀ t r b) (hahead : Ahead b fs) :
    (∃ pre f post, fs = pre ++ f :: post ∧ Accepted f ∧ (∀ g ∈ pre, ¬Accepted g) ∧
      ReachedBy (b₀.arrived 3) n (pre ++ [f]) t r ∧
      AnswersAfter wakeupSource pre f b (waitCpu0ResumeLoop wakeupSource n m b)) ∨
    b.rxTimeouts < (waitCpu0ResumeLoop wakeupSource n m b).2.rxTimeouts ∨
    ((waitCpu0ResumeLoop wakeupSource n m b).1 = -eTimeout ∧
      (waitCpu0ResumeLoop wakeupSource n m b).2.txTimeouts = b.txTimeouts) := by
  have hmono := arrived_mono 3 b₀
  induction n generalizing m b fs t r with
  | zero => exact Or.inr (Or.inr ⟨rfl, rfl⟩)
  | succ n ih =>
      obtain ⟨b', hnothing, hq, hidle, hend⟩ |
        ⟨g, rest, look, u, b', rfl, hseen, hwords, hq, hrest, heff, hend⟩ |
        ⟨look, ret, m', b', -, -, hq, hlate, -, hret⟩ := poll_cases m hlater hahead
      · have hrx : b'.rxTimeouts = b.rxTimeouts := hidle.rxTimeouts
        have htx : b'.txTimeouts = b.txTimeouts := hidle.txTimeouts
        rw [waitCpu0ResumeLoop_next n hq (Or.inl (by decide))]
        obtain ⟨pre, f, post, hfs, hf, hpre, hreached, hanswer⟩ | hlate | hgiven :=
          ih m hend (hahead.idle hidle)
        · refine Or.inl ⟨pre, f, post, hfs, hf, hpre, ?_, hanswer.idle hidle (query_elapsed hq)⟩
          cases pre with
          | nil => exact (reachedBy_spent hnothing).mpr hreached
          | cons p pre => exact (reachedBy_spent hnothing).mpr hreached
        · exact Or.inr (Or.inl (hrx ▸ hlate))
        · exact Or.inr (Or.inr (htx ▸ hgiven))
      · have hrx : b'.rxTimeouts = b.rxTimeouts := heff.rxTimeouts
        have htx : b'.txTimeouts = b.txTimeouts := heff.txTimeouts
        rw [waitCpu0ResumeLoop_taken n hq]
        by_cases hg : Accepted g
        · rw [if_pos hg]
          refine Or.inl ⟨[], g, rest, rfl, hg, fun _ h => absurd h List.not_mem_nil,
            .taken hseen hwords (.done _ _ _), b', by simpa using heff, query_elapsed hq, rfl⟩
        · rw [if_neg hg]
          obtain ⟨pre, f, post, rfl, hf, hpre, hreached, hanswer⟩ | hlate | hgiven :=
            ih (g.receive 0 m) hend hrest
          · refine Or.inl ⟨g :: pre, f, post, rfl, hf, ?_,
              (reachedBy_taken hmono hseen hwords).mpr hreached,
              hanswer.taken heff (query_elapsed hq)⟩
            intro p hp
            obtain rfl | hp := List.mem_cons.mp hp
            · exact hg
            · exact hpre p hp
          · exact Or.inr (Or.inl (hrx ▸ hlate))
          · exact Or.inr (Or.inr (htx ▸ hgiven))
      · rw [waitCpu0ResumeLoop_next n hq (Or.inl hret)]
        exact Or.inr (Or.inl (hlate.trans_le
          (waitCpu0ResumeLoop_rxTimeouts_le wakeupSource n m' b')))

end Polls

/-! ### The resume notification -/

/-- Frames are told apart by their words. -/
lemma flatMap_words_inj {l l' : List Frame}
    (h : l.flatMap Frame.words = l'.flatMap Frame.words) : l = l' := by
  induction l generalizing l' with
  | nil =>
      cases l' with
      | nil => rfl
      | cons f l' => exact absurd h (List.cons_ne_nil _ _).symm
  | cons f l ih =>
      cases l' with
      | nil => exact absurd h (List.cons_ne_nil _ _)
      | cons g l' =>
          have hlen : g.paras.length = (g.count.toUInt32 &&& 0xff).toUInt8.toNat := by
            rw [lowByte_toUInt32, g.length_paras]
          obtain ⟨hheader, hcount, hparas, hrest⟩ := Frame.words_append_inj (f := f) hlen h
          have hcount' : g.count = f.count := by
            rw [← lowByte_toUInt32 g.count, hcount, lowByte_toUInt32]
          have hfg : f = g := by
            cases f
            cases g
            simp only at hheader hcount' hparas
            subst hheader hcount' hparas
            rfl
          rw [hfg, ih hrest.symm]

/-- The notification `f` behind the frames `pre` is taken and answered with `wakeup_source`,
without failure if the FIFO has room for the answer; and no call gives up before the time of
a query has passed. -/
structure Notified (wakeupSource : UInt32) (pre : List Frame) (f : Frame) (b : Mbox)
    (r : ℤ × UInt32 × Mbox) : Prop where
  answered : ∃ b₁, Effect 3 [] ((pre ++ [f]).flatMap Frame.words) 0 0 b b₁ ∧
    Sends 3 (restoreAnswer wakeupSource f).words b₁ (r.1, r.2.2)
  room : (b.tx 3).level + 3 ≤ hwmsgboxFifoDepth → r.1 = 0
  waited : r.1 = -eTimeout → b.elapsed + hwmsgboxQueryTimeout ≤ r.2.2.elapsed

section Notification

variable {wakeupSource : UInt32} {pre : List Frame} {f : Frame} {b : Mbox}

lemma restoreAnswer_sends (hsyn : f.attr &&& messageAttrHardsyn ≠ 0)
    (wakeupSource : UInt32) (b : Mbox) :
    Sends 3 (restoreAnswer wakeupSource f).words b
      (hwmsgboxFeedbackMessage (some (restoreAnswer wakeupSource f)) sendMsgTimeout b) := by
  obtain ⟨-, -, hsends⟩ | ⟨-, hno⟩ | ⟨-, hno⟩ :=
    hwmsgboxFeedbackMessage_spec (restoreAnswer wakeupSource f) sendMsgTimeout b
  · exact hsends
  · exact Bool.noConfusion hno
  · have hyes : (restoreAnswer wakeupSource f).hardsyn = true := bne_iff_ne.mpr hsyn
    rw [hyes] at hno
    exact Bool.noConfusion hno

lemma AnswersAfter.notified (hsyn : f.attr &&& messageAttrHardsyn ≠ 0)
    (h : AnswersAfter wakeupSource pre f b
      (waitCpu0ResumeLoop wakeupSource cpu0RestoreQueryRetries blankMessage b)) :
    Notified wakeupSource pre f b (waitCpu0Resume wakeupSource b) := by
  obtain ⟨b₁, heff, hle, hr⟩ := h
  have hsends := restoreAnswer_sends hsyn wakeupSource b₁
  have helapsed := hwmsgboxFeedbackMessage_elapsed (restoreAnswer wakeupSource f) sendMsgTimeout b₁
  rw [← hr] at hsends helapsed
  refine ⟨⟨b₁, heff, hsends⟩, fun hroom => ?_, fun hret => ?_⟩
  · have hlevel := heff.level
    rw [List.length_nil] at hlevel
    obtain ⟨hret, -⟩ | ⟨-, hfull, -⟩ := hsends
    · exact hret
    · rw [Message.length_words,
        show (restoreAnswer wakeupSource f).count.toNat = 1 from rfl] at hfull
      omega
  · have hlate := helapsed hret
    have htimes : hwmsgboxQueryTimeout ≤ sendMsgTimeout := by decide
    exact (Nat.add_le_add hle htimes).trans hlate

/-- **The resume notification.** Over every stream of frames, arriving in whatever chunks,
with a synchronous notification `f` behind the frames `pre`. -/
theorem waitCpu0Resume_notified (wakeupSource : UInt32) (b : Mbox)
    (pre post : List Frame) (f : Frame)
    (hahead : Ahead b (pre ++ f :: post)) (htype : f.type = sstandbyRestoreNotify)
    (hsyn : f.attr &&& messageAttrHardsyn ≠ 0) :
    Notified wakeupSource pre f b (waitCpu0Resume wakeupSource b) ↔
      f.count = 0 ∧ (∀ g ∈ pre, g.type = sstandbyRestoreNotify → g.count ≠ 0) ∧
      ReachedBy (b.arrived 3) cpu0RestoreQueryRetries (pre ++ [f]) 0 0 := by
  constructor
  · rintro ⟨⟨b₁, heff, hsends⟩, -, -⟩
    obtain ⟨hrx, hin⟩ := sends_received hsends
    obtain ⟨pre', g, post', -, ⟨-, hcount⟩, hpre, hreached, b₂, heff', -, hr⟩ | hlate |
      ⟨hret, htx⟩ := waitCpu0ResumeLoop_cases wakeupSource cpu0RestoreQueryRetries blankMessage
        (Later.refl 3 b) hahead
    · -- the words that were taken tell which frame was answered
      have hin' : (waitCpu0Resume wakeupSource b).2.2.incoming 3 = b₂.incoming 3 :=
        (congrArg (fun r => r.2.incoming 3) hr).trans (hwmsgboxFeedbackMessage_received _ _ _).2
      have hboth : (pre' ++ [g]).flatMap Frame.words = (pre ++ [f]).flatMap Frame.words := by
        refine List.append_cancel_right (heff'.incoming.symm.trans ?_)
        rw [heff.incoming, ← hin, hin']
      obtain ⟨rfl, hfg⟩ := List.append_inj' (flatMap_words_inj hboth) rfl
      obtain rfl := List.singleton_inj.mp hfg
      exact ⟨hcount, fun p hp hnotify hzero => hpre p hp ⟨hnotify, hzero⟩, hreached⟩
    · exact absurd (hrx.trans heff.rxTimeouts) hlate.ne'
    · have hbefore := heff.txTimeouts
      obtain ⟨hok, -⟩ | ⟨-, -, ws, -, hsent⟩ := hsends
      · exact absurd hok (ne_zero_of_timeout hret)
      · have hafter : (waitCpu0ResumeLoop wakeupSource cpu0RestoreQueryRetries blankMessage
          b).2.txTimeouts =
            b₁.txTimeouts + 1 := hsent.txTimeouts
        omega
  · rintro ⟨hcount, hpre, hreached⟩
    refine AnswersAfter.notified hsyn ?_
    exact waitCpu0ResumeLoop_reached (Later.refl 3 b) hahead ⟨htype, hcount⟩
      (fun g hg h => hpre g hg h.1 h.2) hreached

/-- A notification in two chunks, behind another frame that arrives after a poll. -/
theorem waitCpu0Resume_notified_second :
    let g : Frame := ⟨0x620200, 1, [7], rfl⟩
    let f : Frame := ⟨0x110200, 0, [], rfl⟩
    let b := Mbox.holding 0
      (writing [[], [], [0x620200, 1, 7], [], [], [], [], [], [], [], [0x110200], [0]])
    Ahead b [g, f] ∧ Notified 6 [g] f b (waitCpu0Resume 6 b) := by
  intro g f b
  have hahead : Ahead b [g, f] := by decide
  have hat : ∀ {t r}, r < b.arrived 3 (t + 1) →
      FoundAt (b.arrived 3) hwmsgboxQueryTimeout t r 0 := fun h =>
    ⟨Nat.zero_le _, fun i hi => absurd hi (Nat.not_lt_zero i), h⟩
  -- the first poll finds nothing; the other frame is there at the next, and the notification
  -- comes at the second look of the third
  have hthird : ReachedBy (b.arrived 3) 48 [f] 10 3 :=
    .taken (.second (by decide) (by decide))
      (.word (hat (by decide)) (.word (hat (by decide)) (.done 16 5))) (.done _ _ _)
  have hsecond : ReachedBy (b.arrived 3) 49 [g, f] 2 0 :=
    .taken (.first (by decide))
      (.word (hat (by decide)) (.word (hat (by decide)) (.word (hat (by decide)) (.done 9 3))))
      hthird
  have hreached : ReachedBy (b.arrived 3) cpu0RestoreQueryRetries [g, f] 0 0 :=
    .spent (by decide) hsecond
  refine ⟨hahead, (waitCpu0Resume_notified 6 b [g] [] f hahead (by decide) (by decide)).mpr ?_⟩
  exact ⟨by decide, by decide, hreached⟩

/-- A notification with a parameter is dropped as too large, even if it is in the FIFO from
the start; and one that arrives at the 101st access is missed, with no delay before the call
gives up: the polls of an empty FIFO are over by then. -/
theorem waitCpu0Resume_misses :
    (¬ ∀ (wakeupSource : UInt32) (b : Mbox) (pre post : List Frame) (f : Frame),
      Ahead b (pre ++ f :: post) → f.type = sstandbyRestoreNotify →
      f.attr &&& messageAttrHardsyn ≠ 0 →
      f.count.toNat ≤ messageParaMax → pre.length < cpu0RestoreQueryRetries →
      (pre ++ [f]).flatMap Frame.words <+: (b.rx 3).contents →
      Notified wakeupSource pre f b (waitCpu0Resume wakeupSource b)) ∧
    (∃ (b : Mbox) (f : Frame), Ahead b [f] ∧ Accepted f ∧ f.attr &&& messageAttrHardsyn ≠ 0 ∧
      (waitCpu0Resume 6 b).1 = -eTimeout ∧ (waitCpu0Resume 6 b).2.2.elapsed = b.elapsed ∧
      (waitCpu0Resume 6 b).2.2.incoming 3 = f.words) := by
  constructor
  · intro hall
    let b : Mbox := { Mbox.holding 0 [] with rx := fun _ => Fifo.ofList [0x110200, 1, 7] }
    let f : Frame := ⟨0x110200, 1, [7], rfl⟩
    have hnotified := hall 6 b [] [] f (by decide) (by decide) (by decide) (by decide) (by decide)
      (List.prefix_refl _)
    have hret : (waitCpu0Resume 6 b).1 = -eTimeout := by decide
    have helapsed : (waitCpu0Resume 6 b).2.2.elapsed = b.elapsed := by decide
    have hwaited := hnotified.waited hret
    rw [helapsed] at hwaited
    exact absurd hwaited (by decide)
  · refine ⟨Mbox.holding 0 (writing (List.replicate 100 [] ++ [[0x110200, 0]])),
      ⟨0x110200, 0, [], rfl⟩, ?_⟩
    exact ⟨by decide, by decide, by decide, by decide, by decide, by decide +kernel⟩

end Notification

end A733Boot.Ar100s.Standby
