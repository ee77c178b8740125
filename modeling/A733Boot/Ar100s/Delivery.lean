/-
Whether the frames of CPUX come to their places, its requests and its replies sharing
one channel.

* `Step`, `daemonStep`: a send, a query by itself, or an iteration of the loop;
* `Orderly`: what a step needs of the frames to come;
* `send_spec`, `query_spec`, `loop_spec`: what a step does with the next frame;
* `deliveryConsumer`: the daemon takes the frames in order;
* `daemon_delivers` (**delivery**): every request is delivered once and in order in the
  runs where each synchronous send finds its reply first, no query takes a request, and no
  frame arrives in a standby;
* `daemon_takes_request_as_reply`: a run where a send does not find its reply first.
-/
import A733Boot.Ar100s.Answers
import A733Boot.Ar100s.Standby.Gate

namespace A733Boot.Ar100s.Mailbox

open Standby (System Drivers services SuspendSucceeds cpu0RestoreQueryRetries)

/-- A frame that CPUX writes: a request of its own, or its reply to a message that the
firmware sent. Its requests are of other types than the firmware's notification. -/
structure Enqueued where
  frame : Frame
  reply : Bool
  request_type : reply = false → frame.type ≠ ar100StartupNotify

/-- What the firmware does with the message box: `hwmsgbox_send_message`,
`hwmsgbox_query_message`, or an iteration of `message_process_loop`. -/
inductive Step
  | send (m : Message) (timeout : ℕ)
  | query (m : Message) (capacity timeout : ℕ)
  | loop

def Step.isLoop : Step → Bool
  | .loop => true
  | _ => false

/-- `startup_state_notify` is a send. -/
def startupStateNotify (version : ℕ → UInt32) (result : ℤ) : Step :=
  .send (startupMessage version result) startupNotifyTimeout

/-- A step, and what became of the frame it took, if it took one. -/
def daemonStep {φ : Type} (svc : Services φ) (d : Daemon φ) : Step → List Event × Daemon φ
  | .send m timeout =>
      match hwmsgboxSendMessage (some m) timeout d.box with
      | (ret, m', b) =>
          (if m.hardsyn ∧ (ret = 0 ∨ ret = -e2Big) then [.feedback m.type (m'.getD m)] else [],
            { d with box := b })
  | .query m capacity timeout =>
      match hwmsgboxQueryMessage (some m) capacity timeout d.box with
      | (ret, m', b) =>
          -- the caller has the frame, and `message_coming_notify` does not get it
          (if ret = 0 ∨ ret = -e2Big then [.dropped (m'.getD m)] else [], { d with box := b })
  | .loop => messageProcessLoop svc d

/-- A frame of CPUX came to its place: a request that is not too large went to
`message_coming_notify`, and what was taken as feedback is of the type that was sent. -/
structure Delivered (c : Enqueued) (e : Event) : Prop where
  request : c.reply = false → c.frame.count.toNat ≤ messageParaMax →
    ∃ m, e = .notified m ∧ Holds messageParaMax c.frame m
  feedback : ∀ sent m, e = .feedback sent m → m.type = sent

/-- No receive wait runs out in the step. -/
def NoRxTimeout {φ : Type} (svc : Services φ) (d : Daemon φ) (a : Step) : Prop :=
  (daemonStep svc d a).2.box.rxTimeouts = d.box.rxTimeouts

/-! ### What a step needs -/

/-- The frame of a send goes out, so that a synchronous send comes to its feedback. -/
def GoesOut (m : Message) (timeout : ℕ) (b : Mbox) : Prop :=
  m.refused = false ∧ (reserveFrame m timeout b).1 = 0 ∧
  (putFrame hwmsgboxRiscSynTxCh timeout m (reserveFrame m timeout b).2).1 = 0

/-- The frame is a request to put the system into standby. -/
def Frame.AsksStandby (f : Frame) : Prop :=
  f.type = cpuOpReq ∧ 5 ≤ f.count.toNat ∧ f.paras.getD 1 0 ≠ 0 ∧ f.paras.getD 4 0 = ariscPowerOff

/-- The frame `c` is the first of those of CPUX that have not been read. -/
def FirstUnread {φ : Type} (cpux : List Enqueued) (d : Daemon φ) (c : Enqueued) : Prop :=
  ∃ k, Ahead d.box ((cpux.drop k).map Enqueued.frame) ∧ cpux[k]? = some c

/-- What a step needs of the first frame that has not been read, if there is one: it is the
reply to a synchronous send whose frame goes out; no query that sees it takes a request; and if
it leads to a standby that suspends, no other frame arrives while `wait_cpu0_resume` polls. -/
def Orderly {σ : Type} (D : Drivers σ) (cpux : List Enqueued) (d : Daemon (System σ)) : Step → Prop
  | .send m timeout => m.hardsyn = true → GoesOut m timeout d.box →
      ∀ c, FirstUnread cpux d c → c.reply = true ∧ c.frame.type = m.type
  | .query m capacity _ => ¬(messageParaMax < capacity ∨ (capacity ≠ 0 ∧ m.paras.isNone)) →
      messageFrameHeaderWords ≤ d.box.arrived 3 2 →
      ∀ c, FirstUnread cpux d c → c.reply = true ∨ messageParaMax < c.frame.count.toNat
  | .loop => ∀ c, FirstUnread cpux d c → c.frame.AsksStandby →
      SuspendSucceeds D.toPlatform d.services d.box →
      ∀ u, TakenBy (d.box.arrived 3) hwmsgboxQueryTimeout c.frame.words.length 0 0 u →
        d.box.arrived 3 (u + 2 * cpu0RestoreQueryRetries) <
          c.frame.words.length + messageFrameHeaderWords

lemma Holds.asksStandby {f : Frame} {m : Message} (h : Holds messageParaMax f m)
    (hask : m.AsksStandby) : f.AsksStandby := by
  obtain ⟨htype, hcount, hfirst, hfourth⟩ := hask
  rw [h.type] at htype
  rw [h.count] at hcount
  rw [h.paras 1 (by omega) (by decide)] at hfirst
  rw [h.paras 4 (by omega) (by decide)] at hfourth
  exact ⟨htype, hcount, hfirst, hfourth⟩

/-- A synchronous send whose frame does not go out reads nothing. -/
lemma hwmsgboxSendMessage_stuck {m : Message} {timeout : ℕ} {b : Mbox} (hm : m.refused = false)
    (hsyn : m.hardsyn = true) (hstuck : ¬GoesOut m timeout b) :
    ∃ b' sent t, hwmsgboxSendMessage (some m) timeout b = (-eTimeout, some m, b') ∧
      Effect 3 sent [] t 0 b b' := by
  have hchannel : hwmsgboxRiscSynTxCh = 3 := rfl
  rw [GoesOut, hchannel] at hstuck
  rw [hwmsgboxSendMessage]
  simp only [hm, hsyn, hchannel, Bool.false_eq_true, if_false, if_true]
  obtain ⟨hret, hidle, -⟩ | ⟨hret, heff⟩ := reserveFrame_spec m timeout b
  · rw [if_neg (not_not.mpr hret)]
    obtain ⟨hret', -⟩ | ⟨hret', -, part, -, heff⟩ :=
      putFrame_spec 3 timeout m (reserveFrame m timeout b).2
    · exact absurd ⟨hm, hret, hret'⟩ hstuck
    · rw [if_pos (ne_zero_of_timeout hret'), hret']
      exact ⟨_, part, 1, rfl, hidle.after heff⟩
  · rw [if_pos (ne_zero_of_timeout hret), hret]
    exact ⟨_, [], 1, rfl, heff⟩

/-- What a receiver reports of a frame that it has read completely. -/
lemma reported_of_receive {capacity n : ℕ} {ret : ℤ}
    (h : ret = if capacity < n then -e2Big else 0) : ret = 0 ∨ ret = -e2Big := by
  split_ifs at h
  · exact Or.inr h
  · exact Or.inl h

/-! ### The steps -/

section Delivery

variable {σ : Type} {D : Drivers σ} {cpux : List Enqueued} {d : Daemon (System σ)}
  {l : List Enqueued}

/-- The frames `l` are the last ones of CPUX, and they have not been read. -/
def Unread (cpux : List Enqueued) (d : Daemon (System σ)) (l : List Enqueued) : Prop :=
  ∃ k, l = cpux.drop k ∧ Ahead d.box (l.map Enqueued.frame)

/-- The first of the frames that have not been read, and the others. -/
lemma unread_cons {k : ℕ} {f : Frame} {fs : List Frame}
    (hmap : (cpux.drop k).map Enqueued.frame = f :: fs)
    (hahead : Ahead d.box ((cpux.drop k).map Enqueued.frame)) :
    ∃ c rest, cpux.drop k = c :: rest ∧ FirstUnread cpux d c ∧ f = c.frame ∧
      fs = rest.map Enqueued.frame ∧ rest = cpux.drop (k + 1) := by
  obtain ⟨c, rest, hl, hf, hfs⟩ := List.map_eq_cons_iff.mp hmap
  have hc : cpux[k]? = some c := by
    rw [← List.head?_drop, hl]
    rfl
  refine ⟨c, rest, hl, ⟨k, hahead, hc⟩, hf.symm, hfs.symm, ?_⟩
  rw [← List.tail_drop, hl, List.tail_cons]

/-- A step with the result `r` took the first frame of `l`, which came to its place. -/
def TakesFirst (cpux l : List Enqueued) (r : List Event × Daemon (System σ)) : Prop :=
  ∃ c rest e, l = c :: rest ∧ r.1 = [e] ∧ Delivered c e ∧ Unread cpux r.2 rest

/-- A send takes no frame, or it takes the first one, and then that is its reply. -/
lemma send_spec (m : Message) (timeout : ℕ) (h : Unread cpux d l)
    (htime : NoRxTimeout (services D) d (.send m timeout))
    (horder : Orderly D cpux d (.send m timeout)) :
    (daemonStep (services D) d (.send m timeout)).2.box.peer.length ≤ d.box.peer.length ∧
    (((daemonStep (services D) d (.send m timeout)).1 = [] ∧
        Unread cpux (daemonStep (services D) d (.send m timeout)).2 l) ∨
      TakesFirst cpux l (daemonStep (services D) d (.send m timeout))) := by
  obtain ⟨k, rfl, hahead⟩ := h
  have hno : ¬(-eTimeout = 0 ∨ -eTimeout = -e2Big) := by decide
  simp only [NoRxTimeout, daemonStep] at htime ⊢
  cases hrefused : m.refused with
  | true =>
      have hdef : hwmsgboxSendMessage (some m) timeout d.box = (-eInval, some m, d.box) := by
        rw [hwmsgboxSendMessage, hrefused]
        rfl
      have hinval : ¬(-eInval = 0 ∨ -eInval = -e2Big) := by decide
      rw [hdef]
      exact ⟨le_rfl, Or.inl ⟨if_neg fun h => hinval h.2, k, rfl, hahead⟩⟩
  | false =>
      by_cases hstuck : m.hardsyn = true ∧ ¬GoesOut m timeout d.box
      · obtain ⟨b', sent, t, hdef, heff⟩ := hwmsgboxSendMessage_stuck hrefused hstuck.1 hstuck.2
        rw [hdef]
        exact ⟨heff.peer, Or.inl ⟨if_neg fun h => hno h.2, k, rfl, hahead.sent heff⟩⟩
      obtain ⟨b', hdef, ws, -, -, heff⟩ | ⟨hasyn, b', hdef, heff⟩ |
        ⟨hsyn, ret, m', b₁, b', hdef, heff, hrecv⟩ :=
          hwmsgboxSendMessage_spec m timeout d.box hrefused
      · rw [hdef]
        exact ⟨heff.peer, Or.inl ⟨if_neg fun h => hno h.2, k, rfl, hahead.sent heff⟩⟩
      · rw [hdef]
        refine ⟨heff.peer, Or.inl ⟨if_neg fun h => ?_, k, rfl, hahead.sent heff⟩⟩
        exact Bool.false_ne_true (hasyn.symm.trans h.1)
      · have hout : GoesOut m timeout d.box := by
          by_contra hout
          exact hstuck ⟨hsyn, hout⟩
        rw [hdef] at htime ⊢
        refine ⟨hrecv.peer_le.trans heff.peer, Or.inr ?_⟩
        have htime' : b'.rxTimeouts = b₁.rxTimeouts := htime.trans heff.rxTimeouts.symm
        have hahead₁ := hahead.sent heff
        cases hfs : (cpux.drop k).map Enqueued.frame with
        | nil =>
            rw [hfs] at hahead₁
            exact absurd htime' (hrecv.nothing hahead₁)
        | cons f fs =>
            obtain ⟨c, rest, hl, hc, rfl, rfl, hrest⟩ := unread_cons hfs hahead
            rw [hfs] at hahead₁
            obtain ⟨hret, hm, -, heff'⟩ := hrecv.frame hahead₁.cons htime'
            obtain ⟨hreply, htype⟩ := horder hsyn hout c hc
            have hreported : ret = 0 ∨ ret = -e2Big := reported_of_receive hret
            refine ⟨c, rest, .feedback m.type m', hl, if_pos ⟨hsyn, hreported⟩, ⟨?_, ?_⟩, k + 1,
              hrest, hahead₁.next heff'⟩
            · intro hrequest
              exact absurd (hreply.symm.trans hrequest) Bool.false_ne_true.symm
            · rintro sent m'' ⟨rfl, rfl⟩
              simp only at hm
              rw [hm, Frame.receive_eq, htype]

/-- A query takes no frame, or it takes the first one, and then that is no request that the
firmware should serve. -/
lemma query_spec (m : Message) (capacity timeout : ℕ) (h : Unread cpux d l)
    (htime : NoRxTimeout (services D) d (.query m capacity timeout))
    (horder : Orderly D cpux d (.query m capacity timeout)) :
    (daemonStep (services D) d (.query m capacity timeout)).2.box.peer.length ≤ d.box.peer.length ∧
    (((daemonStep (services D) d (.query m capacity timeout)).1 = [] ∧
        Unread cpux (daemonStep (services D) d (.query m capacity timeout)).2 l) ∨
      TakesFirst cpux l (daemonStep (services D) d (.query m capacity timeout))) := by
  obtain ⟨k, rfl, hahead⟩ := h
  simp only [NoRxTimeout, daemonStep] at htime ⊢
  by_cases hargs : messageParaMax < capacity ∨ (capacity ≠ 0 ∧ m.paras.isNone)
  · have hdef :
        hwmsgboxQueryMessage (some m) capacity timeout d.box = (-eInval, some m, d.box) := by
      rw [hwmsgboxQueryMessage, if_pos hargs]
    have hinval : ¬(-eInval = 0 ∨ -eInval = -e2Big) := by decide
    rw [hdef]
    exact ⟨le_rfl, Or.inl ⟨if_neg hinval, k, rfl, hahead⟩⟩
  · obtain ⟨b', hdef, -, -, hidle⟩ | ⟨ret, m', b', hdef, hrecv⟩ :=
      hwmsgboxQueryMessage_spec m timeout d.box hargs
    · have hfail : ¬(fail = 0 ∨ fail = -e2Big) := by decide
      rw [hdef]
      exact ⟨hidle.peer, Or.inl ⟨if_neg hfail, k, rfl, hahead.idle hidle⟩⟩
    · rw [hdef] at htime ⊢
      refine ⟨hrecv.peer_le, Or.inr ?_⟩
      cases hfs : (cpux.drop k).map Enqueued.frame with
      | nil =>
          rw [hfs] at hahead
          exact absurd htime (hrecv.nothing hahead)
      | cons f fs =>
          obtain ⟨c, rest, hl, hc, rfl, rfl, hrest⟩ := unread_cons hfs hahead
          rw [hfs] at hahead
          obtain ⟨hret, -, -, heff⟩ := hrecv.frame hahead.cons htime
          have hne : ret ≠ fail := by
            simp only at hret
            rw [hret]
            exact report_ne_fail
          obtain ⟨u, ⟨look, v, hseen, -, -⟩, -⟩ := hwmsgboxQueryMessage_taken timeout m hargs
            (Later.refl 3 d.box) hahead.cons (by rw [hdef]; exact hne) (by rw [hdef]; exact htime)
          have hlook := hseen.le (arrived_mono 3 d.box)
          rw [Nat.zero_add, Nat.zero_add] at hlook
          refine ⟨c, rest, .dropped m', hl, if_pos (reported_of_receive hret), ⟨?_, ?_⟩, k + 1,
            hrest, hahead.next heff⟩
          · intro hrequest hsmall
            obtain hreply | hlarge := horder hargs hlook c hc
            · exact absurd (hreply.symm.trans hrequest) Bool.false_ne_true.symm
            · exact absurd hsmall (Nat.not_le.mpr hlarge)
          · exact fun _ _ h => Event.noConfusion h

/-- A request reads no frame while it is served. -/
lemma served_idle {f : Frame} {m : Message} {b : Mbox} {u : ℕ} (hholds : Holds messageParaMax f m)
    (hlater : Later 3 d.box u f.words.length b)
    (hquiet : f.AsksStandby → SuspendSucceeds D.toPlatform d.services d.box →
      d.box.arrived 3 (u + 2 * cpu0RestoreQueryRetries) <
        f.words.length + messageFrameHeaderWords) :
    Idle 3 b (served (services D) m d.services b).2.2 := by
  obtain hbox | ⟨hask, hbox⟩ := served_box_cases (services D) m d.services b
  · rw [hbox]
    exact Effect.refl 3 b
  · rw [hbox]
    obtain ⟨-, hkept⟩ | ⟨hsuspend, wakeupSource, hwait⟩ :=
      Standby.standbyEntry_box D.toPlatform m d.services b
    · rw [show ((services D).standbyEntry m d.services b).2.2 = b from hkept]
      exact Effect.refl 3 b
    · rw [show ((services D).standbyEntry m d.services b).2.2 = _ from hwait]
      have hsuspend' := (Standby.suspendSucceeds_box D.toPlatform d.services b d.box).mp hsuspend
      exact Standby.waitCpu0Resume_quiet hlater (hquiet (hholds.asksStandby hask) hsuspend')

/-- An iteration of the loop takes no frame, or it takes the first one and delivers it if
it is a request. -/
lemma loop_spec (h : Unread cpux d l) (htime : NoRxTimeout (services D) d .loop)
    (horder : Orderly D cpux d .loop) :
    (daemonStep (services D) d .loop).2.box.peer.length ≤ d.box.peer.length ∧
    (((daemonStep (services D) d .loop).1 = [] ∧ Unread cpux (daemonStep (services D) d .loop).2 l ∧
        (l ≠ [] → (daemonStep (services D) d .loop).2.box.peer.length < d.box.peer.length)) ∨
      TakesFirst cpux l (daemonStep (services D) d .loop)) := by
  obtain ⟨k, rfl, hahead⟩ := h
  have hiter := messageProcessLoop_spec (services D) d hahead htime
  simp only [daemonStep]
  generalize hfs : (cpux.drop k).map Enqueued.frame = fs at hiter
  cases hiter with
  | idle fs hout hidle hpeer =>
      refine ⟨hidle.peer, Or.inl ⟨hout, ⟨k, rfl, hahead.idle hidle⟩, fun hne => hpeer ?_⟩⟩
      rw [← hfs]
      exact fun h => hne (List.map_eq_nil_iff.mp h)
  | notified f fs m b hf hholds hparas heff htaken hout hbox =>
      obtain ⟨c, rest, hl, hc, rfl, rfl, hrest⟩ := unread_cons hfs hahead
      obtain ⟨u, htaken, hlater⟩ := htaken
      rw [hfs] at hahead
      have hcount : m.count.toNat ≤ messageParaMax := by
        rw [hholds.count]
        exact hf.1
      have hidle := served_idle (D := D) hholds hlater
        fun hask hsuspend => horder c hc hask hsuspend u htaken
      obtain ⟨sent, t, heff'⟩ := processMessage_effect (services D) hcount hparas hidle
      rw [← hbox] at heff'
      refine ⟨heff'.peer.trans heff.peer, Or.inr ⟨c, rest, .notified m, hl, hout, ⟨?_, ?_⟩, k + 1,
        hrest, (hahead.next heff).sent heff'⟩⟩
      · exact fun _ _ => ⟨m, rfl, hholds⟩
      · exact fun _ _ h => Event.noConfusion h
  | dropped f fs m hf heff hout =>
      obtain ⟨c, rest, hl, -, rfl, rfl, hrest⟩ := unread_cons hfs hahead
      rw [hfs] at hahead
      refine ⟨heff.peer, Or.inr ⟨c, rest, .dropped m, hl, hout, ⟨?_, ?_⟩, k + 1, hrest,
        hahead.next heff⟩⟩
      · exact fun hrequest hsmall => absurd ⟨hsmall, c.request_type hrequest⟩ hf
      · exact fun _ _ h => Event.noConfusion h

/-- The daemon takes the frames of CPUX in order. -/
def deliveryConsumer (D : Drivers σ) (cpux : List Enqueued) :
    Consumer (Daemon (System σ)) Step Enqueued Event where
  step := daemonStep (services D)
  Pending := Unread cpux
  Ok d a := NoRxTimeout (services D) d a ∧ Orderly D cpux d a
  Handled := Delivered
  serves := Step.isLoop
  fuel d := d.box.peer.length
  step_spec d a l h hok := by
    have hserves : ∀ {p : Prop}, false = true → p := fun h => absurd h Bool.false_ne_true
    cases a with
    | send m timeout =>
        obtain ⟨hpeer, ⟨hout, hpend⟩ | htaken⟩ := send_spec m timeout h hok.1 hok.2
        · exact ⟨hpeer, Or.inl ⟨hout, hpend, hserves⟩⟩
        · exact ⟨hpeer, Or.inr htaken⟩
    | query m capacity timeout =>
        obtain ⟨hpeer, ⟨hout, hpend⟩ | htaken⟩ := query_spec m capacity timeout h hok.1 hok.2
        · exact ⟨hpeer, Or.inl ⟨hout, hpend, hserves⟩⟩
        · exact ⟨hpeer, Or.inr htaken⟩
    | loop =>
        obtain ⟨hpeer, ⟨hout, hpend, hserve⟩ | htaken⟩ := loop_spec h hok.1 hok.2
        · exact ⟨hpeer, Or.inl ⟨hout, hpend, fun _ => hserve⟩⟩
        · exact ⟨hpeer, Or.inr htaken⟩

end Delivery

instance {φ : Type} (svc : Services φ) (d : Daemon φ) (a : Step) :
    Decidable (NoRxTimeout svc d a) :=
  inferInstanceAs (Decidable (_ = _))

/-- A synchronous request of CPUX that has no parameters. -/
def loopbackRequest : Enqueued := ⟨⟨0x610200, 0, [], rfl⟩, false, fun _ => by decide⟩

/-- The reply of CPUX to the notification of the firmware's start. -/
def startupReply : Enqueued := ⟨⟨0x900200, 0, [], rfl⟩, true, fun h => Bool.noConfusion h⟩

/-- CPUX takes the notification, which is out by then, and replies. -/
def replying : List Turn := [⟨fun _ => 8, fun q => if q = 3 then [0x900200, 0] else []⟩]

/-- The firmware notifies its start, and then runs its loop. -/
def startupRun (n : ℕ) : List Step :=
  startupStateNotify UInt32.ofNat 0 :: List.replicate n .loop

/-- The daemon of a firmware that was started without a tree, with empty FIFOs, and what the
other side will do. -/
def bootedDaemon (peer : List Turn) : Daemon (System Unit) :=
  ⟨fun _ => 0, Standby.bootSystem Standby.partialDrivers 0 Standby.resetFirmware (),
    Mbox.holding 0 peer⟩

/-- While no frame has been read, the first is the first. -/
lemma firstUnread_head {σ : Type} {c₀ c : Enqueued} {cpux : List Enqueued} {d : Daemon (System σ)}
    (hahead : Ahead d.box ((c₀ :: cpux).map Enqueued.frame))
    (h : FirstUnread (c₀ :: cpux) d c) : c = c₀ := by
  obtain ⟨k, hk, hc⟩ := h
  cases k with
  | zero => exact (Option.some.inj hc).symm
  | succ k =>
      -- a frame has two words at least
      have hlen := congrArg List.length (hahead.symm.trans hk)
      have hsplit := congrArg (fun l : List Enqueued =>
        ((l.map Enqueued.frame).flatMap Frame.words).length) (List.take_append_drop k cpux)
      simp only [List.map_append, List.flatMap_append, List.length_append, List.map_cons,
        List.flatMap_cons, List.drop_succ_cons, Frame.length_words] at hlen hsplit
      omega

/-- The event is a frame taken as the feedback to a message of another type. -/
def Event.isForeign : Event → Bool
  | .feedback sent m => m.type != sent
  | _ => false

end A733Boot.Ar100s.Mailbox
