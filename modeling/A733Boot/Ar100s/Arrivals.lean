/-
When the words of frames arrive. The other side has a turn at each access to the message box, so
that the accesses are the clock; what the receiver finds depends on how many words of a channel
have arrived at each of them, and on nothing else.

* `Mbox.arrived`: the words that have arrived after so many turns;
* `Later`: a box some turns later, with some of the words read;
* `WordsBy`: the words of a frame are there in time for the waits of the receiver;
* `SeenAt`: the look of a query that finds a frame;
* `TakenBy`: the turn by which a query has taken a frame;
* `getWord_later`, `readFrame_later`: the receiver against the arrivals;
* **`hwmsgboxQueryMessage_later`**: a query finds nothing, takes the next frame, or a wait runs
  out in it, as the arrivals have it.
-/
import A733Boot.Ar100s.Framing

namespace A733Boot.Ar100s.Mailbox

open Mbox

/-! ### Arrivals -/

/-- The words of channel `q` that have arrived, read or not, after `t` turns. -/
def Mbox.arrived (q : ℕ) (b : Mbox) (t : ℕ) : ℕ :=
  (b.rx q).level + ((b.peer.take t).flatMap fun turn => turn.push q).length

lemma arrived_mono (q : ℕ) (b : Mbox) : Monotone (b.arrived q) := by
  intro t t' ht
  obtain ⟨d, rfl⟩ := Nat.exists_eq_add_of_le ht
  rw [arrived, arrived, List.take_add, List.flatMap_append, List.length_append]
  omega

/-- The box `b'` is `b` after `t` turns, with `r` words of the channel read. -/
structure Later (q : ℕ) (b : Mbox) (t r : ℕ) (b' : Mbox) : Prop where
  peer : b'.peer = b.peer.drop t
  words : (b'.rx q).level + r = b.arrived q t

/-- The look that finds more than `r` words, in a wait that starts after `t` turns: the looks
are two turns apart, one for the access and one for the delay after it. -/
def FoundAt (A : ℕ → ℕ) (timeout t r j : ℕ) : Prop :=
  j ≤ timeout ∧ (∀ i < j, A (t + 2 * i + 1) ≤ r) ∧ r < A (t + 2 * j + 1)

/-- Each of the next `n` words, of which `r` are read after `t` turns, is there in time for the
wait for it, and after `u` turns they are read. -/
inductive WordsBy (A : ℕ → ℕ) (timeout : ℕ) : ℕ → ℕ → ℕ → ℕ → Prop
  | done (t r) : WordsBy A timeout 0 t r t
  | word {n t r u j} (hfound : FoundAt A timeout t r j)
      (hrest : WordsBy A timeout n (t + 2 * j + 2) (r + 1) u) : WordsBy A timeout (n + 1) t r u

/-- One of the two looks of a query that starts after `t` turns finds the two words that a frame
has at least. -/
inductive SeenAt (A : ℕ → ℕ) (t r : ℕ) : ℕ → Prop
  | first (h : r + messageFrameHeaderWords ≤ A (t + 1)) : SeenAt A t r (t + 1)
  | second (hfirst : A (t + 1) < r + messageFrameHeaderWords)
      (h : r + messageFrameHeaderWords ≤ A (t + 2)) : SeenAt A t r (t + 2)

/-- A query that starts after `t` turns takes the next frame, of `n` words, and is over after
`u` turns; its last access clears the interrupt. -/
def TakenBy (A : ℕ → ℕ) (timeout n t r u : ℕ) : Prop :=
  ∃ look v, SeenAt A t r look ∧ WordsBy A timeout n look r v ∧ u = v + 1

section Looks

variable {A : ℕ → ℕ} {timeout t r u u' j j' look look' n : ℕ}

lemma FoundAt.unique (h : FoundAt A timeout t r j) (h' : FoundAt A timeout t r j') : j = j' := by
  obtain ⟨-, hbefore, hfound⟩ := h
  obtain ⟨-, hbefore', hfound'⟩ := h'
  rcases Nat.lt_trichotomy j j' with hj | hj | hj
  · exact absurd hfound (Nat.not_lt.mpr (hbefore' j hj))
  · exact hj
  · exact absurd hfound' (Nat.not_lt.mpr (hbefore j' hj))

lemma WordsBy.unique (h : WordsBy A timeout n t r u) (h' : WordsBy A timeout n t r u') :
    u = u' := by
  induction h with
  | done => cases h' with
    | done => rfl
  | word hfound _ ih => cases h' with
    | word hfound' hrest' =>
        obtain rfl := hfound.unique hfound'
        exact ih hrest'

lemma SeenAt.unique (h : SeenAt A t r look) (h' : SeenAt A t r look') : look = look' := by
  cases h with
  | first h => cases h' with
    | first => rfl
    | second hno => exact absurd h (Nat.not_le.mpr hno)
  | second hno => cases h' with
    | first h => exact absurd h (Nat.not_le.mpr hno)
    | second => rfl

lemma SeenAt.le (hmono : Monotone A) (h : SeenAt A t r look) :
    r + messageFrameHeaderWords ≤ A (t + 2) := by
  cases h with
  | first h => exact h.trans (hmono (Nat.le_succ (t + 1)))
  | second _ h => exact h

end Looks

/-! ### Turns and reads -/

section Steps

variable {q t r timeout : ℕ} {b b' : Mbox}

lemma Later.refl (q : ℕ) (b : Mbox) : Later q b 0 0 b := ⟨rfl, rfl⟩

/-- What has arrived and was not read is there. -/
lemma Later.level (h : Later q b t r b') : (b'.rx q).level = b.arrived q t - r := by
  have := h.words
  omega

lemma Later.tick (h : Later q b t r b') : Later q b (t + 1) r b'.tick := by
  have hdrop : b.peer.drop (t + 1) = (b.peer.drop t).drop 1 := by rw [List.drop_drop]
  have htake : b.arrived q (t + 1) =
      b.arrived q t + (((b.peer.drop t).take 1).flatMap fun turn => turn.push q).length := by
    rw [arrived, arrived, List.take_add, List.flatMap_append, List.length_append, Nat.add_assoc]
  have hpeer := h.peer
  have hwords := h.words
  rw [Mbox.tick]
  cases hp : b'.peer with
  | nil =>
      rw [hp] at hpeer
      refine ⟨?_, ?_⟩
      · rw [hdrop, ← hpeer, hp]
        rfl
      · rw [htake, ← hpeer, hwords]
        rfl
  | cons turn peer =>
      rw [hp] at hpeer
      refine ⟨?_, ?_⟩
      · rw [hdrop, ← hpeer]
        rfl
      · rw [htake, ← hpeer, ← hwords]
        simp only [Fifo.level_append, List.take_succ_cons, List.take_zero, List.flatMap_cons,
          List.flatMap_nil, List.append_nil]
        omega

lemma Later.mdelay (h : Later q b t r b') : Later q b (t + 1) r b'.mdelay :=
  ⟨h.tick.peer, h.tick.words⟩

lemma Later.readl (h : Later q b t r b') (hne : (b'.rx q).level ≠ 0) :
    Later q b (t + 1) (r + 1) (b'.readl q).2 := by
  have hpresent := (tick_idle q b').1.present
  rw [List.length_nil, Nat.add_zero] at hpresent
  refine ⟨h.tick.peer, ?_⟩
  have hwords := h.tick.words
  simp only [Mbox.readl, Function.update_self, Fifo.level_take]
  omega

/-- A wait for a word ends with the first look that finds one. -/
lemma waitFor_later (timeout : ℕ) (h : Later q b t r b') :
    (∃ j, FoundAt (b.arrived q) timeout t r j ∧
      (waitFor (fun b => (b.rx q).level != 0) timeout b').1 = true ∧
      Later q b (t + 2 * j + 1) r (waitFor (fun b => (b.rx q).level != 0) timeout b').2) ∨
    ((∀ j, ¬FoundAt (b.arrived q) timeout t r j) ∧
      (waitFor (fun b => (b.rx q).level != 0) timeout b').1 = false) := by
  have hlook : ((b'.tick.rx q).level != 0) = decide (r < b.arrived q (t + 1)) := by
    have hwords := h.tick.words
    rw [bne, beq_eq_decide, ← decide_not, decide_eq_decide]
    omega
  induction timeout generalizing t b' with
  | zero =>
      rw [waitFor, hlook]
      by_cases hfound : r < b.arrived q (t + 1)
      · exact Or.inl ⟨0, ⟨le_rfl, fun i hi => absurd hi (Nat.not_lt_zero i), hfound⟩,
          decide_eq_true hfound, h.tick⟩
      · refine Or.inr ⟨fun j hj => ?_, decide_eq_false hfound⟩
        obtain rfl := Nat.le_zero.mp hj.1
        exact hfound hj.2.2
  | succ timeout ih =>
      rw [waitFor, hlook]
      by_cases hfound : r < b.arrived q (t + 1)
      · rw [if_pos (decide_eq_true hfound)]
        exact Or.inl ⟨0, ⟨Nat.zero_le _, fun i hi => absurd hi (Nat.not_lt_zero i), hfound⟩, rfl,
          h.tick⟩
      · rw [if_neg (Bool.eq_false_iff.mp (decide_eq_false hfound))]
        have hnext := h.tick.mdelay
        have hturn : ∀ j, t + 1 + 1 + 2 * j + 1 = t + 2 * (j + 1) + 1 := fun j => by omega
        have hlater : ((b'.tick.mdelay.tick.rx q).level != 0) =
            decide (r < b.arrived q (t + 1 + 1 + 1)) := by
          have hwords := hnext.tick.words
          rw [bne, beq_eq_decide, ← decide_not, decide_eq_decide]
          omega
        obtain ⟨j, ⟨hj, hbefore, hat⟩, hret, hend⟩ | ⟨hnever, hret⟩ := ih hnext hlater
        · rw [hturn] at hat hend
          refine Or.inl ⟨j + 1, ⟨Nat.succ_le_succ hj, fun i hi => ?_, hat⟩, hret, hend⟩
          cases i with
          | zero => exact Nat.not_lt.mp hfound
          | succ i =>
              rw [← hturn]
              exact hbefore i (Nat.lt_of_succ_lt_succ hi)
        · refine Or.inr ⟨fun j hfirst => ?_, hret⟩
          obtain ⟨hj, hbefore, hat⟩ := hfirst
          cases j with
          | zero => exact hfound hat
          | succ j =>
              refine hnever j ⟨Nat.le_of_succ_le_succ hj, fun i hi => ?_, ?_⟩
              · rw [hturn]
                exact hbefore (i + 1) (Nat.succ_lt_succ hi)
              · rw [hturn]
                exact hat

lemma getWord_later (timeout : ℕ) (h : Later q b t r b') :
    (∃ j, FoundAt (b.arrived q) timeout t r j ∧ (getWord q timeout b').1 = 0 ∧
      Later q b (t + 2 * j + 2) (r + 1) (getWord q timeout b').2.2) ∨
    ((∀ j, ¬FoundAt (b.arrived q) timeout t r j) ∧ (getWord q timeout b').1 ≠ 0) := by
  rw [getWord, hwmsgboxWaitQueueNotEmpty]
  obtain ⟨j, hfound, hret, hend⟩ | ⟨hnever, hret⟩ := waitFor_later timeout h
  · obtain ⟨-, hready⟩ := waitFor_spec q (fun b => (b.rx q).level != 0) timeout b'
    rw [hret]
    exact Or.inl ⟨j, hfound, rfl, hend.readl (bne_iff_ne.mp (hready hret))⟩
  · rw [hret]
    exact Or.inr ⟨hnever, show -eTimeout ≠ 0 by decide⟩

lemma getParas_later (timeout capacity i n : ℕ) (m : Message) (h : Later q b t r b') :
    (∃ u, WordsBy (b.arrived q) timeout n t r u ∧ (getParas q timeout capacity i n m b').1 = 0 ∧
      Later q b u (r + n) (getParas q timeout capacity i n m b').2.2) ∨
    ((∀ u, ¬WordsBy (b.arrived q) timeout n t r u) ∧
      (getParas q timeout capacity i n m b').1 ≠ 0) := by
  induction n generalizing i m t r b' with
  | zero => exact Or.inl ⟨t, .done t r, rfl, h⟩
  | succ n ih =>
      rw [getParas]
      obtain ⟨j, hfound, hret, hend⟩ | ⟨hnever, hret⟩ := getWord_later timeout h
      · rw [if_neg (not_not.mpr hret)]
        obtain ⟨u, hwords, hret', hend'⟩ | ⟨hnone, hret'⟩ := ih (i + 1)
          (if i < capacity then m.setPara i (getWord q timeout b').2.1 else m) hend
        · refine Or.inl ⟨u, .word hfound hwords, hret', ?_⟩
          rwa [Nat.add_right_comm, Nat.add_assoc] at hend'
        · refine Or.inr ⟨fun u hu => ?_, hret'⟩
          cases hu with
          | word hfound' hrest =>
              obtain rfl := hfound.unique hfound'
              exact hnone u hrest
      · rw [if_pos hret]
        refine Or.inr ⟨fun u hu => ?_, hret⟩
        cases hu with
        | word hfound _ => exact hnever _ hfound

end Steps

/-! ### Frames and queries -/

section Frames

variable {t r : ℕ} {b b' : Mbox} {f : Frame} {rest : List UInt32}

/-- The frame that lies ahead is read if its words arrive in time. -/
lemma readFrame_later (timeout capacity : ℕ) (m : Message) (h : Later 3 b t r b')
    (hin : b'.incoming 3 = f.words ++ rest) :
    (∃ u, WordsBy (b.arrived 3) timeout f.words.length t r u ∧
      (readFrame 3 timeout capacity m b').1 = 0 ∧
      Later 3 b u (r + f.words.length) (readFrame 3 timeout capacity m b').2.2) ∨
    ((∀ u, ¬WordsBy (b.arrived 3) timeout f.words.length t r u) ∧
      (readFrame 3 timeout capacity m b').1 ≠ 0) := by
  have hlen : f.words.length = f.count.toNat + 1 + 1 := by
    rw [f.length_words]
    omega
  rw [readFrame, hlen]
  obtain ⟨j, hfound, hret, hend⟩ | ⟨hnever, hret⟩ := getWord_later timeout h
  · rw [if_neg (not_not.mpr hret)]
    have heff := (getWord_spec 3 timeout b').resolve_right fun h => ne_zero_of_timeout h.1 hret
    generalize getWord 3 timeout b' = first at heff hend ⊢
    obtain ⟨j', hfound', hret', hend'⟩ | ⟨hnever', hret'⟩ := getWord_later timeout hend
    · rw [if_neg (not_not.mpr hret')]
      have heff' := (getWord_spec 3 timeout first.2.2).resolve_right
        fun h => ne_zero_of_timeout h.1 hret'
      generalize getWord 3 timeout first.2.2 = second at heff' hend' ⊢
      -- the second word is the count of the frame
      have hcount : (second.2.1 &&& 0xff).toUInt8 = f.count := by
        have hboth := hin.symm.trans (heff.2.trans heff'.2).incoming
        simp only [Frame.words, List.cons_append, List.nil_append, List.cons.injEq] at hboth
        rw [← hboth.2.1, lowByte_toUInt32]
      simp only [Message.setCount, hcount]
      obtain ⟨u, hwords, hret'', hend''⟩ | ⟨hnone, hret''⟩ := getParas_later timeout capacity 0
        f.count.toNat { m.setHeader first.2.1 with count := f.count } hend'
      · refine Or.inl ⟨u, .word hfound (.word hfound' hwords), hret'', ?_⟩
        rwa [show r + (f.count.toNat + 1 + 1) = r + 1 + 1 + f.count.toNat by omega]
      · refine Or.inr ⟨fun u hu => ?_, hret''⟩
        cases hu with
        | word hfirst hu =>
            obtain rfl := hfound.unique hfirst
            cases hu with
            | word hsecond hu =>
                obtain rfl := hfound'.unique hsecond
                exact hnone u hu
    · rw [if_pos hret']
      refine Or.inr ⟨fun u hu => ?_, hret'⟩
      cases hu with
      | word hfirst hu =>
          obtain rfl := hfound.unique hfirst
          cases hu with
          | word hsecond _ => exact hnever' _ hsecond
  · rw [if_pos hret]
    refine Or.inr ⟨fun u hu => ?_, hret⟩
    cases hu with
    | word hfirst _ => exact hnever _ hfirst

/-- The last access of a receive clears the interrupt. -/
lemma hwmsgboxReceiveMessage_later (capacity timeout : ℕ) (m : Message) (h : Later 3 b t r b')
    (hin : b'.incoming 3 = f.words ++ rest) :
    (∃ u, WordsBy (b.arrived 3) timeout f.words.length t r u ∧
      (hwmsgboxReceiveMessage 3 m capacity timeout b').2.2.rxTimeouts = b'.rxTimeouts ∧
      Later 3 b (u + 1) (r + f.words.length)
        (hwmsgboxReceiveMessage 3 m capacity timeout b').2.2) ∨
    ((∀ u, ¬WordsBy (b.arrived 3) timeout f.words.length t r u) ∧
      b'.rxTimeouts < (hwmsgboxReceiveMessage 3 m capacity timeout b').2.2.rxTimeouts) := by
  obtain ⟨hret, header, count, ps, -, -, heff⟩ | ⟨hret, -, got, heff⟩ :=
    readFrame_spec 3 timeout capacity m b'
  · obtain ⟨u, hwords, -, hend⟩ | ⟨-, hno⟩ := readFrame_later timeout capacity m h hin
    · refine Or.inl ⟨u, hwords, ?_, ?_⟩
      · rw [hwmsgboxReceiveMessage]
        simp only [if_neg (not_not.mpr hret)]
        split_ifs
        all_goals exact ((tick_idle 3 _).1.rxTimeouts).trans heff.rxTimeouts
      · rw [hwmsgboxReceiveMessage]
        simp only [if_neg (not_not.mpr hret)]
        split_ifs
        all_goals exact hend.tick
    · exact absurd hret hno
  · have hne := ne_zero_of_timeout hret
    obtain ⟨u, -, hzero, -⟩ | ⟨hnone, -⟩ := readFrame_later timeout capacity m h hin
    · exact absurd hzero hne
    · refine Or.inr ⟨hnone, ?_⟩
      obtain ⟨got', hdrain⟩ :=
        drain_effect 3 hwmsgboxRxDrainMax (readFrame 3 timeout capacity m b').2.2
      have hlate := (heff.trans (hdrain.idle (tick_idle 3 _).1)).rxTimeouts
      rw [hwmsgboxReceiveMessage]
      simp only [if_pos hne]
      omega

/-- **A query against the arrivals.** It finds nothing in either of its looks; or the frame that
lies ahead is seen, and read if its words arrive in time. -/
lemma hwmsgboxQueryMessage_later {capacity : ℕ} (timeout : ℕ) (m : Message)
    (hargs : ¬(messageParaMax < capacity ∨ (capacity ≠ 0 ∧ m.paras.isNone)))
    (h : Later 3 b t r b') :
    ((∀ look, ¬SeenAt (b.arrived 3) t r look) ∧
      hwmsgboxQueryMessage (some m) capacity timeout b' = (fail, some m, b'.tick.tick) ∧
      Later 3 b (t + 2) r b'.tick.tick) ∨
    ∃ look b₁, SeenAt (b.arrived 3) t r look ∧ Idle 3 b' b₁ ∧ Later 3 b look r b₁ ∧
      hwmsgboxQueryMessage (some m) capacity timeout b' =
        ((hwmsgboxReceiveMessage 3 m capacity timeout b₁).1,
          some (hwmsgboxReceiveMessage 3 m capacity timeout b₁).2.1,
          (hwmsgboxReceiveMessage 3 m capacity timeout b₁).2.2) := by
  have hheader : messageFrameHeaderWords = 2 := rfl
  have hwords := h.tick.words
  have hwords' : (b'.tick.tick.rx 3).level + r = b.arrived 3 (t + 2) := h.tick.tick.words
  rw [hwmsgboxQueryMessage]
  simp only [if_neg hargs]
  by_cases hfirst : messageFrameHeaderWords ≤ (b'.tick.rx hwmsgboxRiscAsynRxCh).level
  · rw [if_pos hfirst]
    rw [show hwmsgboxRiscAsynRxCh = 3 from rfl] at hfirst
    exact Or.inr ⟨t + 1, b'.tick, .first (by omega), (tick_idle 3 b').1, h.tick, rfl⟩
  · rw [if_neg hfirst]
    rw [show hwmsgboxRiscAsynRxCh = 3 from rfl] at hfirst
    by_cases hsecond : messageFrameHeaderWords ≤ (b'.tick.tick.rx hwmsgboxArmSynTxCh).level
    · rw [if_pos hsecond]
      rw [show hwmsgboxArmSynTxCh = 3 from rfl] at hsecond
      exact Or.inr ⟨t + 2, b'.tick.tick, .second (by omega) (by omega),
        (tick_idle 3 b').1.after (tick_idle 3 b'.tick).1, h.tick.tick, rfl⟩
    · rw [if_neg hsecond]
      rw [show hwmsgboxArmSynTxCh = 3 from rfl] at hsecond
      refine Or.inl ⟨fun look hseen => ?_, rfl, h.tick.tick⟩
      cases hseen with
      | first hle => omega
      | second _ hle => omega

/-- A query that reports something has taken the frame that lies ahead, unless a wait ran out
in it. -/
lemma hwmsgboxQueryMessage_taken {capacity : ℕ} (timeout : ℕ) (m : Message)
    (hargs : ¬(messageParaMax < capacity ∨ (capacity ≠ 0 ∧ m.paras.isNone)))
    (h : Later 3 b t r b') (hin : b'.incoming 3 = f.words ++ rest)
    (hret : (hwmsgboxQueryMessage (some m) capacity timeout b').1 ≠ fail)
    (htime : (hwmsgboxQueryMessage (some m) capacity timeout b').2.2.rxTimeouts = b'.rxTimeouts) :
    ∃ u, TakenBy (b.arrived 3) timeout f.words.length t r u ∧
      Later 3 b u (r + f.words.length)
        (hwmsgboxQueryMessage (some m) capacity timeout b').2.2 := by
  obtain ⟨-, hq, -⟩ | ⟨look, b₁, hseen, hidle, hlook, hq⟩ :=
    hwmsgboxQueryMessage_later timeout m hargs h
  · rw [hq] at hret
    exact absurd rfl hret
  · rw [hq] at htime ⊢
    have hin₁ : b₁.incoming 3 = f.words ++ rest := hidle.incoming.symm.trans hin
    obtain ⟨u, hwords, -, hend⟩ | ⟨-, hlate⟩ :=
      hwmsgboxReceiveMessage_later capacity timeout m hlook hin₁
    · exact ⟨u + 1, ⟨look, u, hseen, hwords, rfl⟩, hend⟩
    · have hrx : b₁.rxTimeouts = b'.rxTimeouts := hidle.rxTimeouts
      simp only at htime
      omega

end Frames

end A733Boot.Ar100s.Mailbox
