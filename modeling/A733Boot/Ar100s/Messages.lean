/-
The messages the firmware works off: `process_message` and `message_coming_notify`
(`ar100s/system/message_manager/message_manager.c`), `cpu_op`
(`ar100s/service/standby/standby-sun60iw2p1/plat_standby.c`), and
`startup_state_notify` and `message_process_loop` (`ar100s/system/daemon/daemon.c`).

* `processMessage_answer`, `processMessage_spec`: a request is answered once if it is
  hardware-synchronous, and not at all otherwise;
* `messageProcessLoop_spec`: an iteration of the loop is idle or takes the next frame.
-/
import A733Boot.Ar100s.Arrivals

namespace A733Boot.Ar100s.Mailbox

open Mbox

/-! ### Constants -/

def sendMsgTimeout : ℕ := 100000
def startupNotifyTimeout : ℕ := 3000
def hwmsgboxQueryTimeout : ℕ := 100

def fakePowerOffReq : UInt8 := 0x19
def cpuOpReq : UInt8 := 0x22
def sysOpReq : UInt8 := 0x24
def clearWakeupSrcReq : UInt8 := 0x25
def setWakeupSrcReq : UInt8 := 0x26
def setDebugLevelReq : UInt8 := 0x60
def messageLoopback : UInt8 := 0x61
def setUartBaudrate : UInt8 := 0x62
def setDramCrcParas : UInt8 := 0x64
def ar100StartupNotify : UInt8 := 0x90
def setDdrfreq : UInt8 := 0x96

def ariscPowerOff : UInt32 := 3

/-! ### The message manager -/

/-- What `process_message` calls, over the state `φ` of the rest of the firmware. Only
`standby_entry` also uses the message box; `platformDramPara` says whether the pointer
to the DRAM parameters is set. -/
structure Services (φ : Type) where
  standbyEntry : Message → φ → Mbox → ℤ × φ × Mbox
  sysOp : Message → φ → ℤ × φ
  clearWakeupSrc : Message → φ → ℤ × φ
  setWakeupSrc : Message → φ → ℤ × φ
  setDebugLevel : UInt32 → φ → ℤ × φ
  uartSetBaudrate : UInt32 → φ → ℤ × φ
  standbySetDramCrcParas : UInt32 → UInt32 → UInt32 → φ → ℤ × φ
  mctlMdfsSoftware : UInt32 → φ → ℤ × φ
  platformDramPara : φ → Bool

section Manager

variable {φ : Type} (svc : Services φ)

/-- The number of parameters that a request of a type needs. -/
def minCount (type : UInt8) : ℕ :=
  if type = cpuOpReq then 5
  else if type = sysOpReq ∨ type = clearWakeupSrcReq ∨ type = setWakeupSrcReq ∨
      type = setDebugLevelReq ∨ type = setUartBaudrate ∨ type = setDdrfreq then 1
  else if type = setDramCrcParas then 3
  else 0

def cpuOp (m : Message) (s : φ) (b : Mbox) : ℤ × φ × Mbox :=
  if m.para 1 ≠ 0 ∧ m.para 4 = ariscPowerOff then svc.standbyEntry m s b
  else (-eFail, s, b)

/-- The request is handed to the function for its type. -/
def dispatch (m : Message) (s : φ) (b : Mbox) : ℤ × φ × Mbox :=
  let served (r : ℤ × φ) : ℤ × φ × Mbox := (r.1, r.2, b)
  if m.type = cpuOpReq then cpuOp svc m s b
  else if m.type = sysOpReq then served (svc.sysOp m s)
  else if m.type = clearWakeupSrcReq then served (svc.clearWakeupSrc m s)
  else if m.type = setWakeupSrcReq then served (svc.setWakeupSrc m s)
  else if m.type = fakePowerOffReq then served (-eFail, s)
  else if m.type = setDebugLevelReq then served (svc.setDebugLevel (m.para 0) s)
  else if m.type = setUartBaudrate then served (svc.uartSetBaudrate (m.para 0) s)
  else if m.type = setDramCrcParas then
    served (svc.standbySetDramCrcParas (m.para 0) (m.para 1) (m.para 2) s)
  else if m.type = setDdrfreq then
    served (if svc.platformDramPara s then svc.mctlMdfsSoftware (m.para 0) s else (-eFail, s))
  else if m.type = messageLoopback then served (0, s)
  else served (-eSrch, s)

def processMessage (m : Message) (s : φ) (b : Mbox) : ℤ × φ × Mbox :=
  let r := if m.count.toNat < minCount m.type then (-eInval, s, b) else dispatch svc m s b
  let m := { m with result := UInt8.ofInt r.1 }
  if m.attr &&& (messageAttrSoftsyn ||| messageAttrHardsyn) ≠ 0 then
    let feedback := hwmsgboxFeedbackMessage (some m) sendMsgTimeout r.2.2
    (if feedback.1 ≠ 0 then feedback.1 else r.1, r.2.1, feedback.2)
  else r

def messageComingNotify (m : Message) (s : φ) (b : Mbox) : ℤ × φ × Mbox :=
  processMessage svc m s b

end Manager

/-! ### The daemon -/

/-- The state of the daemon: the static buffer of `message_process_loop`, the rest of
the firmware, and the message box. -/
structure Daemon (φ : Type) where
  msgParas : ℕ → UInt32
  services : φ
  box : Mbox

/-- What became of a frame: `hwmsgbox_send_message` took it as the feedback to a message
of type `sent`, or it went to `message_coming_notify`, or it was dropped. -/
inductive Event
  | feedback (sent : UInt8) (m : Message)
  | notified (m : Message)
  | dropped (m : Message)

/-- The message of `message_process_loop` before the query. The source leaves the fields
other than the pointer unset, and reads none of them before the query has set it. -/
def blank (msgParas : ℕ → UInt32) : Message := ⟨0, 0, 0, 0, 0, some msgParas⟩

def messageProcessLoop {φ : Type} (svc : Services φ) (d : Daemon φ) : List Event × Daemon φ :=
  match hwmsgboxQueryMessage (some (blank d.msgParas)) messageParaMax
    hwmsgboxQueryTimeout d.box with
  | (ret, m, b) =>
      let m := m.getD (blank d.msgParas)
      if ret = 0 ∧ m.type ≠ ar100StartupNotify then
        let r := messageComingNotify svc m d.services b
        ([.notified m], ⟨m.para, r.2.1, r.2.2⟩)
      else (if ret = fail then [] else [.dropped m], ⟨m.para, d.services, b⟩)

/-- The notification of `startup_state_notify`; its parameters are the words of the
version string. -/
def startupMessage (version : ℕ → UInt32) (result : ℤ) : Message :=
  ⟨0, messageAttrHardsyn, ar100StartupNotify, UInt8.ofInt result, 6, some version⟩

/-! ### What a request does -/

/-- The request would put the system into standby. -/
def Message.AsksStandby (m : Message) : Prop :=
  m.type = cpuOpReq ∧ 5 ≤ m.count.toNat ∧ m.para 1 ≠ 0 ∧ m.para 4 = ariscPowerOff

/-- No standby is in progress on account of the message: `standby_entry` is not called
for it, or it refuses and leaves the message box alone. -/
def Services.NoStandby {φ : Type} (svc : Services φ) (m : Message) : Prop :=
  m.AsksStandby → ∀ s b, (svc.standbyEntry m s b).2.2 = b

/-- What `process_message` has when it comes to the reply. -/
def served {φ : Type} (svc : Services φ) (m : Message) (s : φ) (b : Mbox) : ℤ × φ × Mbox :=
  if m.count.toNat < minCount m.type then (-eInval, s, b) else dispatch svc m s b

section Requests

variable {φ : Type} {svc : Services φ} {m : Message}

lemma ite_box {c : Prop} [Decidable c] {x y : ℤ × φ × Mbox} {b : Mbox} (hx : x.2.2 = b)
    (hy : y.2.2 = b) : (if c then x else y).2.2 = b := by
  split
  · exact hx
  · exact hy

/-- No function that serves a request uses the message box but `standby_entry`. -/
lemma served_box_cases (svc : Services φ) (m : Message) (s : φ) (b : Mbox) :
    (served svc m s b).2.2 = b ∨
    (m.AsksStandby ∧ (served svc m s b).2.2 = (svc.standbyEntry m s b).2.2) := by
  rw [served]
  by_cases hcount : m.count.toNat < minCount m.type
  · rw [if_pos hcount]
    exact Or.inl rfl
  · rw [if_neg hcount, dispatch]
    by_cases hcpu : m.type = cpuOpReq
    · have hmin : minCount m.type = 5 := by
        rw [hcpu]
        rfl
      rw [if_pos hcpu, cpuOp]
      split_ifs with hask
      · exact Or.inr ⟨⟨hcpu, by omega, hask⟩, rfl⟩
      · exact Or.inl rfl
    · rw [if_neg hcpu]
      refine Or.inl ?_
      repeat' apply ite_box
      all_goals rfl

/-- Outside standby no function that serves a request uses the message box. -/
lemma served_box (hno : svc.NoStandby m) (s : φ) (b : Mbox) :
    (served svc m s b).2.2 = b := by
  obtain hbox | ⟨hask, hbox⟩ := served_box_cases svc m s b
  · exact hbox
  · exact hbox.trans (hno hask s b)

/-- The attribute bits that call for feedback include the one that allows it. -/
lemma hardsyn_of_attr (h : m.attr &&& (messageAttrSoftsyn ||| messageAttrHardsyn) = 0) :
    m.hardsyn = false := by
  have hmask : m.attr &&& messageAttrHardsyn
      = m.attr &&& (messageAttrSoftsyn ||| messageAttrHardsyn) &&& messageAttrHardsyn := by
    rw [UInt8.and_assoc]
    rfl
  rw [Message.hardsyn, hmask, h]
  rfl

variable (svc) in
/-- A request is answered by one frame with its parameters below the count if it is
hardware-synchronous, as far as the FIFO has room, and not at all otherwise. -/
lemma processMessage_answer (hcount : m.count.toNat ≤ messageParaMax) (hparas : m.paras.isSome)
    (s : φ) (b : Mbox) :
    (m.hardsyn = true ∧ ∃ ret, Sends 3 { m with result := UInt8.ofInt (served svc m s b).1 }.words
      (served svc m s b).2.2 (ret, (processMessage svc m s b).2.2)) ∨
    (m.hardsyn = false ∧ (processMessage svc m s b).2.2 = (served svc m s b).2.2) := by
  have hdef : processMessage svc m s b =
      if m.attr &&& (messageAttrSoftsyn ||| messageAttrHardsyn) ≠ 0 then
        let feedback := hwmsgboxFeedbackMessage
          (some { m with result := UInt8.ofInt (served svc m s b).1 })
          sendMsgTimeout (served svc m s b).2.2
        (if feedback.1 ≠ 0 then feedback.1 else (served svc m s b).1,
          (served svc m s b).2.1, feedback.2)
      else served svc m s b := rfl
  rw [hdef]
  generalize served svc m s b = r
  by_cases hattr : m.attr &&& (messageAttrSoftsyn ||| messageAttrHardsyn) = 0
  · rw [if_neg (not_not.mpr hattr)]
    exact Or.inr ⟨hardsyn_of_attr hattr, rfl⟩
  · rw [if_pos hattr]
    have haccepted : m.refused = false := by
      rw [Message.refused, Bool.or_eq_false_iff, Bool.and_eq_false_iff, decide_eq_false_iff_not,
        Option.isNone_eq_false_iff]
      exact ⟨Nat.not_lt.mpr hcount, Or.inr hparas⟩
    have hfeedback := hwmsgboxFeedbackMessage_spec { m with result := UInt8.ofInt r.1 }
      sendMsgTimeout r.2.2
    generalize hwmsgboxFeedbackMessage (some { m with result := UInt8.ofInt r.1 }) sendMsgTimeout
      r.2.2 = feedback at hfeedback ⊢
    obtain ⟨-, hsyn, hsends⟩ | ⟨-, hrefused⟩ | ⟨rfl, hasyn⟩ := hfeedback
    · exact Or.inl ⟨hsyn, feedback.1, hsends⟩
    · exact absurd (haccepted.symm.trans hrefused) Bool.false_ne_true
    · exact Or.inr ⟨hasyn, rfl⟩

/-- Outside standby a request is answered by one frame of its type if it is
hardware-synchronous, as far as the FIFO has room, and not at all otherwise. -/
lemma processMessage_spec (hno : svc.NoStandby m) (hcount : m.count.toNat ≤ messageParaMax)
    (hparas : m.paras.isSome) (s : φ) (b : Mbox) :
    (m.hardsyn = true ∧ ∃ (m' : Message) (ret : ℤ), m'.type = m.type ∧
      Sends 3 m'.words b (ret, (processMessage svc m s b).2.2)) ∨
    (m.hardsyn = false ∧ (processMessage svc m s b).2.2 = b) := by
  have hbox : (served svc m s b).2.2 = b := served_box hno s b
  obtain ⟨hsyn, ret, hsends⟩ | ⟨hasyn, hkept⟩ := processMessage_answer svc hcount hparas s b
  · rw [hbox] at hsends
    exact Or.inl ⟨hsyn, { m with result := UInt8.ofInt (served svc m s b).1 }, ret, rfl, hsends⟩
  · exact Or.inr ⟨hasyn, hkept.trans hbox⟩

/-- What was sent, whether or not there was room for all of it. -/
lemma Sends.effect {q : ℕ} {ws : List UInt32} {b : Mbox} {r : ℤ × Mbox} (h : Sends q ws b r) :
    ∃ sent t, Effect q sent [] t 0 b r.2 := by
  obtain ⟨-, heff⟩ | ⟨-, -, part, -, heff⟩ := h
  · exact ⟨ws, 0, heff⟩
  · exact ⟨part, 1, heff⟩

variable (svc) in
/-- A request that is served without a frame being read leads to no more than an answer. -/
lemma processMessage_effect (hcount : m.count.toNat ≤ messageParaMax) (hparas : m.paras.isSome)
    {s : φ} {b : Mbox} (hserved : Idle 3 b (served svc m s b).2.2) :
    ∃ sent t, Effect 3 sent [] t 0 b (processMessage svc m s b).2.2 := by
  obtain ⟨-, ret, hsends⟩ | ⟨-, hkept⟩ := processMessage_answer svc hcount hparas s b
  · obtain ⟨sent, t, heff⟩ := hsends.effect
    exact ⟨sent, t, hserved.after heff⟩
  · rw [hkept]
    exact ⟨[], 0, hserved⟩

end Requests

/-! ### An iteration of the loop -/

/-- The frame goes to `message_coming_notify` when the loop takes it. -/
def Frame.Notified (f : Frame) : Prop :=
  f.count.toNat ≤ messageParaMax ∧ f.type ≠ ar100StartupNotify

/-- What an iteration does to a daemon that has the frames `fs` ahead of it: it finds
nothing, and a turn of the other side passes, or it takes the next frame and hands the
message to `message_coming_notify` or drops it. -/
inductive Iteration {φ : Type} (svc : Services φ) (d : Daemon φ) (r : List Event × Daemon φ) :
    List Frame → Prop
  | idle (fs : List Frame) : r.1 = [] → Idle 3 d.box r.2.box →
      (fs ≠ [] → r.2.box.peer.length < d.box.peer.length) → Iteration svc d r fs
  | notified (f : Frame) (fs : List Frame) (m : Message) (b : Mbox) : f.Notified →
      Holds messageParaMax f m → m.paras.isSome → Effect 3 [] f.words 0 0 d.box b →
      (∃ u, TakenBy (d.box.arrived 3) hwmsgboxQueryTimeout f.words.length 0 0 u ∧
        Later 3 d.box u f.words.length b) →
      r.1 = [.notified m] → r.2.box = (processMessage svc m d.services b).2.2 →
      Iteration svc d r (f :: fs)
  | dropped (f : Frame) (fs : List Frame) (m : Message) : ¬ f.Notified →
      Effect 3 [] f.words 0 0 d.box r.2.box → r.1 = [.dropped m] → Iteration svc d r (f :: fs)

lemma Receives.rxTimeouts_of_zero {q capacity : ℕ} {m : Message} {b : Mbox} {p : ℤ × Message × Mbox}
    (h : Receives q capacity m b p) (hret : p.1 = 0) : p.2.2.rxTimeouts = b.rxTimeouts := by
  obtain ⟨header, count, ps, -, -, -, heff⟩ | ⟨hlate, -⟩ := h
  · exact heff.rxTimeouts
  · exact absurd hret (ne_zero_of_timeout hlate)

lemma messageProcessLoop_spec {φ : Type} (svc : Services φ) (d : Daemon φ) {fs : List Frame}
    (hahead : Ahead d.box fs)
    (htime : (messageProcessLoop svc d).2.box.rxTimeouts = d.box.rxTimeouts) :
    Iteration svc d (messageProcessLoop svc d) fs := by
  have hargs : ¬ (messageParaMax < messageParaMax ∨
      (messageParaMax ≠ 0 ∧ (blank d.msgParas).paras.isNone)) := by
    rintro (h | ⟨-, h⟩)
    · exact Nat.lt_irrefl _ h
    · exact Bool.noConfusion h
  obtain ⟨b', hq, hlevel, hpeer, hidle⟩ | ⟨ret, m', b', hq, hrecv⟩ :=
    hwmsgboxQueryMessage_spec (blank d.msgParas) hwmsgboxQueryTimeout d.box hargs
  · have hloop : messageProcessLoop svc d = ([], ⟨d.msgParas, d.services, b'⟩) := by
      rw [messageProcessLoop, hq]
      rfl
    rw [hloop]
    refine Iteration.idle fs rfl hidle fun hne => ?_
    have := hahead.peer_pos hne hlevel
    exact lt_of_le_of_lt hpeer (by omega)
  · have hloop : messageProcessLoop svc d
        = if ret = 0 ∧ m'.type ≠ ar100StartupNotify then
            ([.notified m'], ⟨m'.para, (processMessage svc m' d.services b').2.1,
              (processMessage svc m' d.services b').2.2⟩)
          else (if ret = fail then [] else [.dropped m'], ⟨m'.para, d.services, b'⟩) := by
      rw [messageProcessLoop, hq]
      rfl
    have htime' : b'.rxTimeouts = d.box.rxTimeouts := by
      by_cases hret : ret = 0
      · exact hrecv.rxTimeouts_of_zero hret
      · rw [hloop, if_neg fun h => hret h.1] at htime
        exact htime
    cases fs with
    | nil => exact absurd htime' (hrecv.nothing hahead)
    | cons f fs =>
        obtain ⟨hret, hm, -, heff⟩ := hrecv.frame hahead.cons htime'
        simp only at hret hm heff
        have hholds : Holds messageParaMax f m' := by
          rw [hm]
          exact f.receive_holds fun _ => rfl
        have hsome : m'.paras.isSome := by
          rw [hm, f.receive_paras_isSome]
          rfl
        have hdeliver : (ret = 0 ∧ m'.type ≠ ar100StartupNotify) ↔ f.Notified := by
          rw [Frame.Notified, hholds.type, hret]
          split_ifs with hbig
          · exact ⟨fun h => absurd h.1 (by decide), fun h => absurd h.1 (by omega)⟩
          · exact ⟨fun h => ⟨by omega, h.2⟩, fun h => ⟨rfl, h.2⟩⟩
        by_cases hf : f.Notified
        · -- the turn by which the frame is taken
          have hne : ret ≠ fail := by
            rw [hret]
            exact report_ne_fail
          have htaken := hwmsgboxQueryMessage_taken hwmsgboxQueryTimeout (blank d.msgParas) hargs
            (Later.refl 3 d.box) hahead.cons (by rw [hq]; exact hne) (by rw [hq]; exact htime')
          rw [hq, Nat.zero_add] at htaken
          rw [hloop, if_pos (hdeliver.mpr hf)]
          exact Iteration.notified f fs m' b' hf hholds hsome heff htaken rfl rfl
        · rw [hloop, if_neg fun h => hf (hdeliver.mp h)]
          exact Iteration.dropped f fs m' hf heff
            (if_neg (by rw [hret]; exact report_ne_fail))

/-- Reading a frame that lies ahead leaves the others ahead. -/
lemma Ahead.next {b b' : Mbox} {f : Frame} {fs : List Frame} {sent : List UInt32} {t r : ℕ}
    (h : Ahead b (f :: fs)) (heff : Effect 3 sent f.words t r b b') : Ahead b' fs :=
  (List.append_cancel_left (h.symm.trans heff.incoming)).symm

lemma Ahead.sent {b b' : Mbox} {fs : List Frame} {sent : List UInt32} {t r : ℕ}
    (h : Ahead b fs) (heff : Effect 3 sent [] t r b b') : Ahead b' fs :=
  heff.incoming.symm.trans h

end A733Boot.Ar100s.Mailbox
