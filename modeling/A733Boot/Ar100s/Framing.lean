/-
Frames on the message box: what is sent is what is received, and a reader stays at the
frame boundaries.

* `setHeader_headerWord`: the byte fields survive the packing into a word;
* `Frame`: a header word, a count, and that many words;
* `Receives.frame`: a frame that lies ahead is read exactly, whatever its count;
* `queryConsumer`: successive queries take the frames in order;
* `hwmsgbox_framing` (**framing**): the round trip of a message, and the results of
  successive queries over any stream of frames.
-/
import A733Boot.Library.Bytes
import A733Boot.Ar100s.Mailbox

namespace A733Boot.Ar100s.Mailbox

open Mbox

/-! ### Packing -/

lemma toNat_headerWord (m : Message) : m.headerWord.toNat
    = m.state.toNat + m.attr.toNat * 2 ^ 8 + m.type.toNat * 2 ^ 16 + m.result.toNat * 2 ^ 24 := by
  have hs := m.state.toNat_lt
  have ha := m.attr.toNat_lt
  have ht := m.type.toNat_lt
  have hr := m.result.toNat_lt
  rw [← or_shiftLeft_bytes hs ha ht]
  have hshift : ∀ (x : UInt8) (k : UInt32), k.toNat ≤ 24 →
      (x.toUInt32 <<< k).toNat = x.toNat <<< k.toNat := by
    intro x k hk
    have hlt : x.toNat * 2 ^ k.toNat < 2 ^ 32 := by
      calc x.toNat * 2 ^ k.toNat
          < 2 ^ 8 * 2 ^ k.toNat := Nat.mul_lt_mul_of_pos_right x.toNat_lt (Nat.two_pow_pos _)
        _ ≤ 2 ^ 8 * 2 ^ 24 := Nat.mul_le_mul_left _ (Nat.pow_le_pow_right (by omega) hk)
        _ = 2 ^ 32 := rfl
    rw [UInt32.toNat_shiftLeft, UInt8.toNat_toUInt32, Nat.mod_eq_of_lt (show k.toNat < 32 by omega),
      Nat.shiftLeft_eq, Nat.mod_eq_of_lt hlt]
  simp only [Message.headerWord, UInt32.toNat_or, UInt8.toNat_toUInt32]
  rw [hshift _ 8 (by decide), hshift _ 16 (by decide), hshift _ 24 (by decide)]
  rfl

/-- The byte that a mask takes from the low end of a word. -/
lemma toNat_lowByte (v : UInt32) : (v &&& 0xff).toUInt8.toNat = v.toNat % 256 := by
  calc (v &&& 0xff).toUInt8.toNat
      = (v.toNat &&& (2 ^ 8 - 1)) % 256 := by
        rw [UInt32.toNat_toUInt8, UInt32.toNat_and]
        rfl
    _ = v.toNat % 256 % 256 := by rw [Nat.and_two_pow_sub_one_eq_mod]
    _ = v.toNat % 256 := Nat.mod_mod _ _

lemma lowByte_toUInt32 (x : UInt8) : (x.toUInt32 &&& 0xff).toUInt8 = x := by
  have hx := x.toNat_lt
  rw [← UInt8.toNat_inj, toNat_lowByte, UInt8.toNat_toUInt32]
  omega

/-- The byte fields survive the packing into a word. -/
lemma setHeader_headerWord (m m₀ : Message) : m₀.setHeader m.headerWord
    = { m₀ with state := m.state, attr := m.attr, type := m.type, result := m.result } := by
  have hs := m.state.toNat_lt
  have ha := m.attr.toNat_lt
  have ht := m.type.toNat_lt
  have hr := m.result.toNat_lt
  have hw := toNat_headerWord m
  have hfield : ∀ (x : UInt8) (k : UInt32), k.toNat < 32 →
      m.headerWord.toNat / 2 ^ k.toNat % 256 = x.toNat →
      (m.headerWord >>> k &&& 0xff).toUInt8 = x := by
    intro x k hk h
    rw [← UInt8.toNat_inj, toNat_lowByte, UInt32.toNat_shiftRight, Nat.mod_eq_of_lt hk,
      Nat.shiftRight_eq_div_pow, h]
  have hstate : (m.headerWord &&& 0xff).toUInt8 = m.state := by
    rw [← UInt8.toNat_inj, toNat_lowByte, hw]
    omega
  rw [Message.setHeader, hstate,
    hfield m.attr 8 (by decide) (by rw [hw, show (8 : UInt32).toNat = 8 from rfl]; omega),
    hfield m.type 16 (by decide) (by rw [hw, show (16 : UInt32).toNat = 16 from rfl]; omega),
    hfield m.result 24 (by decide) (by rw [hw, show (24 : UInt32).toNat = 24 from rfl]; omega)]

/-! ### Frames -/

/-- A frame: a header word, a count, and that many parameters. -/
structure Frame where
  header : UInt32
  count : UInt8
  paras : List UInt32
  length_paras : paras.length = count.toNat

namespace Frame

/-- The words of a frame. -/
def words (f : Frame) : List UInt32 := f.header :: f.count.toUInt32 :: f.paras

def state (f : Frame) : UInt8 := (f.header &&& 0xff).toUInt8
def attr (f : Frame) : UInt8 := (f.header >>> 8 &&& 0xff).toUInt8
def type (f : Frame) : UInt8 := (f.header >>> 16 &&& 0xff).toUInt8
def result (f : Frame) : UInt8 := (f.header >>> 24 &&& 0xff).toUInt8

lemma length_words (f : Frame) : f.words.length = 2 + f.count.toNat := by
  simp only [words, List.length_cons, f.length_paras]
  omega

/-- The frame that a message is sent as. -/
def ofMessage (m : Message) : Frame :=
  ⟨m.headerWord, m.count, (List.range m.count.toNat).map m.para,
    by rw [List.length_map, List.length_range]⟩

/-- Words that are read as a frame, where a frame lies ahead, are that frame. -/
lemma words_append_inj {f : Frame} {header count : UInt32} {ps rest rest' : List UInt32}
    (hlen : ps.length = (count &&& 0xff).toUInt8.toNat)
    (h : f.words ++ rest = (header :: count :: ps) ++ rest') :
    header = f.header ∧ count = f.count.toUInt32 ∧ ps = f.paras ∧ rest' = rest := by
  simp only [words, List.cons_append, List.cons.injEq] at h
  obtain ⟨rfl, rfl, h⟩ := h
  rw [lowByte_toUInt32] at hlen
  obtain ⟨rfl, rfl⟩ := List.append_inj h (f.length_paras.trans hlen.symm)
  exact ⟨rfl, rfl, rfl, rfl⟩

end Frame

/-- The message `m` holds the frame `f`, its parameters as far as there is room for
them. -/
structure Holds (capacity : ℕ) (f : Frame) (m : Message) : Prop where
  state : m.state = f.state
  attr : m.attr = f.attr
  type : m.type = f.type
  result : m.result = f.result
  count : m.count = f.count
  paras : ∀ i < f.count.toNat, i < capacity → m.para i = f.paras.getD i 0

/-- The message that the frame `f` is received as. -/
def Frame.receive (f : Frame) (capacity : ℕ) (m : Message) : Message :=
  Mailbox.receive capacity m f.header f.count.toUInt32 f.paras

lemma Frame.receive_eq (f : Frame) (capacity : ℕ) (m : Message) :
    f.receive capacity m = ⟨f.state, f.attr, f.type, f.result, f.count,
      m.paras.map fun p j => if j < capacity ∧ j < f.count.toNat then f.paras.getD j 0 else p j⟩ := by
  rw [receive, Mailbox.receive, storeParas_eq]
  simp only [Message.setCount, Message.setHeader, lowByte_toUInt32, f.length_paras, Nat.zero_le,
    true_and, Nat.zero_add, Nat.sub_zero]
  rfl

lemma Frame.receive_holds (f : Frame) {capacity : ℕ} {m : Message}
    (hparas : capacity ≠ 0 → m.paras.isSome) : Holds capacity f (f.receive capacity m) := by
  rw [f.receive_eq]
  refine ⟨rfl, rfl, rfl, rfl, rfl, fun i hi hc => ?_⟩
  obtain ⟨p, hp⟩ := Option.isSome_iff_exists.mp (hparas (by omega))
  simp only [Message.para, hp, Option.map_some, if_pos (And.intro hc hi)]

/-- No parameter is stored beyond the capacity. -/
lemma Frame.receive_para (f : Frame) {capacity i : ℕ} (m : Message) (hi : capacity ≤ i) :
    (f.receive capacity m).para i = m.para i := by
  rw [f.receive_eq]
  cases hp : m.paras with
  | none => simp only [Message.para, hp, Option.map_none]
  | some p =>
      simp only [Message.para, hp, Option.map_some]
      rw [if_neg (by omega)]

lemma Frame.receive_paras_isSome (f : Frame) (capacity : ℕ) (m : Message) :
    (f.receive capacity m).paras.isSome = m.paras.isSome := by
  rw [f.receive_eq, Option.isSome_map]

section Receiving

variable {q capacity : ℕ} {m : Message} {b : Mbox} {p : ℤ × Message × Mbox} {f : Frame}
  {rest : List UInt32}

/-- A frame that lies ahead is read exactly, and reported as too large if it is, unless
a wait runs out. -/
lemma Receives.frame (h : Receives q capacity m b p) (hin : b.incoming q = f.words ++ rest)
    (htime : p.2.2.rxTimeouts = b.rxTimeouts) :
    p.1 = (if capacity < f.count.toNat then -e2Big else 0) ∧ p.2.1 = f.receive capacity m ∧
    p.2.2.incoming q = rest ∧ Effect q [] f.words 0 0 b p.2.2 := by
  obtain ⟨header, count, ps, hlen, hret, hm, heff⟩ | ⟨-, -, got, heff⟩ := h
  · obtain ⟨rfl, rfl, rfl, hrest⟩ := Frame.words_append_inj hlen (hin.symm.trans heff.incoming)
    rw [f.length_paras] at hret
    exact ⟨hret, hm, hrest, heff⟩
  · have := heff.rxTimeouts
    omega

/-- No wait runs out for a frame whose words are all in the FIFO. -/
lemma Receives.present (h : Receives q capacity m b p) (hin : b.incoming q = f.words ++ rest)
    (hlevel : f.words.length ≤ (b.rx q).level) : p.2.2.rxTimeouts = b.rxTimeouts := by
  rw [f.length_words] at hlevel
  obtain ⟨header, count, ps, -, -, -, heff⟩ | ⟨-, hfew | ⟨header, count, tail, hin', hfew⟩, -⟩ := h
  · exact heff.rxTimeouts
  · omega
  · rw [hin] at hin'
    simp only [Frame.words, List.cons_append, List.cons.injEq] at hin'
    rw [← hin'.2.1, lowByte_toUInt32] at hfew
    omega

/-- If nothing lies ahead, a wait runs out. -/
lemma Receives.nothing (h : Receives q capacity m b p) (hin : b.incoming q = []) :
    p.2.2.rxTimeouts ≠ b.rxTimeouts := by
  obtain ⟨header, count, ps, -, -, -, heff⟩ | ⟨-, -, got, heff⟩ := h
  · exact absurd (hin.symm.trans heff.incoming) (List.cons_ne_nil _ _).symm
  · have := heff.rxTimeouts
    omega

lemma Receives.rxTimeouts_le (h : Receives q capacity m b p) : b.rxTimeouts ≤ p.2.2.rxTimeouts := by
  obtain ⟨header, count, ps, -, -, -, heff⟩ | ⟨-, -, got, heff⟩ := h
  · exact heff.rxTimeouts.ge
  · exact (Nat.le_succ _).trans heff.rxTimeouts.ge

lemma Receives.peer_le (h : Receives q capacity m b p) : p.2.2.peer.length ≤ b.peer.length := by
  obtain ⟨header, count, ps, -, -, -, heff⟩ | ⟨-, -, got, heff⟩ := h
  · exact heff.peer
  · exact heff.peer

end Receiving

/-! ### Successive queries -/

/-- One query, on a message that is used again and again: what it returns and the
message, unless it finds nothing. -/
def queryStep (capacity timeout : ℕ) (s : Message × Mbox) (_ : Unit) :
    List (ℤ × Message) × (Message × Mbox) :=
  match hwmsgboxQueryMessage (some s.1) capacity timeout s.2 with
  | (ret, m, b) =>
      (if ret = fail then [] else [(ret, m.getD s.1)], (m.getD s.1, b))

/-- The results of `n` successive queries other than `FAIL`, oldest first. -/
def queries (capacity timeout n : ℕ) (s : Message × Mbox) : List (ℤ × Message) × (Message × Mbox) :=
  runSteps (queryStep capacity timeout) (List.replicate n ()) s

/-- The frames `fs` lie ahead on the channel. -/
def Ahead (b : Mbox) (fs : List Frame) : Prop := b.incoming 3 = fs.flatMap Frame.words

instance (b : Mbox) (fs : List Frame) : Decidable (Ahead b fs) := inferInstanceAs (Decidable (_ = _))

lemma Ahead.cons {b : Mbox} {f : Frame} {fs : List Frame} (h : Ahead b (f :: fs)) :
    b.incoming 3 = f.words ++ fs.flatMap Frame.words := h

lemma Ahead.idle {b b' : Mbox} {fs : List Frame} (h : Ahead b fs) (hi : Idle 3 b b') : Ahead b' fs :=
  hi.incoming.symm.trans h

/-- While a frame lies ahead and fewer than two words have arrived, the other side has
turns left. -/
lemma Ahead.peer_pos {b : Mbox} {fs : List Frame} (h : Ahead b fs) (hfs : fs ≠ [])
    (hlevel : (b.rx 3).level < 2) : 0 < b.peer.length := by
  obtain ⟨f, rest, rfl⟩ := List.exists_cons_of_ne_nil hfs
  rcases Nat.eq_zero_or_pos b.peer.length with hp | hp
  · have hlen := congrArg List.length h.cons
    rw [Mbox.incoming, List.eq_nil_of_length_eq_zero hp, List.flatMap_nil, List.append_nil,
      Fifo.length_contents, List.length_append, f.length_words] at hlen
    omega
  · exact hp

/-- What a query reports of a frame. -/
def Reports (capacity : ℕ) (f : Frame) (r : ℤ × Message) : Prop :=
  r.1 = (if capacity < f.count.toNat then -e2Big else 0) ∧ Holds capacity f r.2

lemma report_ne_fail {capacity n : ℕ} : (if capacity < n then -e2Big else 0) ≠ fail := by
  split <;> decide

section Queries

variable {capacity : ℕ} (timeout : ℕ) (para₀ : ℕ → UInt32)

/-- Between two queries: the frames that lie ahead, and a message whose parameters beyond
the capacity are what they always were. -/
structure Querying (capacity : ℕ) (para₀ : ℕ → UInt32) (s : Message × Mbox) (fs : List Frame) :
    Prop where
  ahead : Ahead s.2 fs
  paras : capacity ≠ 0 → s.1.paras.isSome
  beyond : ∀ i, capacity ≤ i → s.1.para i = para₀ i

lemma queryStep_rxTimeouts_le (capacity : ℕ) (s : Message × Mbox) :
    s.2.rxTimeouts ≤ (queryStep capacity timeout s ()).2.2.rxTimeouts := by
  by_cases hargs : messageParaMax < capacity ∨ (capacity ≠ 0 ∧ s.1.paras.isNone)
  · simp only [queryStep, hwmsgboxQueryMessage, if_pos hargs, le_refl]
  · obtain ⟨b', hq, -, -, hidle⟩ | ⟨ret, m', b', hq, hrecv⟩ :=
      hwmsgboxQueryMessage_spec s.1 timeout s.2 hargs
    · simp only [queryStep, hq]
      exact hidle.rxTimeouts.ge
    · simp only [queryStep, hq]
      exact hrecv.rxTimeouts_le

lemma queryStep_spec (hcap : capacity ≤ messageParaMax) {s : Message × Mbox} {fs : List Frame}
    (hs : Querying capacity para₀ s fs)
    (htime : (queryStep capacity timeout s ()).2.2.rxTimeouts = s.2.rxTimeouts) :
    (queryStep capacity timeout s ()).2.2.peer.length ≤ s.2.peer.length ∧
    (((queryStep capacity timeout s ()).1 = [] ∧
        Querying capacity para₀ (queryStep capacity timeout s ()).2 fs ∧
        (fs ≠ [] → (queryStep capacity timeout s ()).2.2.peer.length < s.2.peer.length)) ∨
      ∃ f rest e, fs = f :: rest ∧ (queryStep capacity timeout s ()).1 = [e] ∧
        Reports capacity f e ∧ Querying capacity para₀ (queryStep capacity timeout s ()).2 rest) := by
  have hargs : ¬ (messageParaMax < capacity ∨ (capacity ≠ 0 ∧ s.1.paras.isNone)) := by
    rintro (h | ⟨h, hnone⟩)
    · omega
    · have hsome := hs.paras h
      rw [Option.isNone_iff_eq_none.mp hnone] at hsome
      exact Bool.noConfusion hsome
  obtain ⟨b', hq, hlevel, hpeer, hidle⟩ | ⟨ret, m', b', hq, hrecv⟩ :=
    hwmsgboxQueryMessage_spec s.1 timeout s.2 hargs
  · -- nothing was found
    simp only [queryStep, hq, if_true, Option.getD_some] at htime ⊢
    refine ⟨hidle.peer, Or.inl ⟨trivial, ⟨hs.ahead.idle hidle, hs.paras, hs.beyond⟩, fun hne => ?_⟩⟩
    have := hs.ahead.peer_pos hne hlevel
    omega
  · simp only [queryStep, hq, Option.getD_some] at htime ⊢
    refine ⟨hrecv.peer_le, Or.inr ?_⟩
    cases fs with
    | nil => exact absurd htime (hrecv.nothing hs.ahead)
    | cons f rest =>
        obtain ⟨hret, hm, hin, heff⟩ := hrecv.frame hs.ahead.cons htime
        simp only at hret hm hin
        subst hret hm
        refine ⟨f, rest, _, rfl, if_neg report_ne_fail, ⟨rfl, f.receive_holds hs.paras⟩, hin, ?_, ?_⟩
        · rw [f.receive_paras_isSome]
          exact hs.paras
        · intro i hi
          rw [f.receive_para s.1 hi, hs.beyond i hi]

/-- Successive queries take the frames that lie ahead, in order. -/
def queryConsumer (hcap : capacity ≤ messageParaMax) :
    Consumer (Message × Mbox) Unit Frame (ℤ × Message) where
  step := queryStep capacity timeout
  Pending := Querying capacity para₀
  Ok s _ := (queryStep capacity timeout s ()).2.2.rxTimeouts = s.2.rxTimeouts
  Handled := Reports capacity
  serves _ := true
  fuel s := s.2.peer.length
  step_spec s _ fs hs htime := by
    obtain ⟨hpeer, ⟨hout, hpend, hserve⟩ | htaken⟩ := queryStep_spec timeout para₀ hcap hs htime
    · exact ⟨hpeer, Or.inl ⟨hout, hpend, fun _ => hserve⟩⟩
    · exact ⟨hpeer, Or.inr htaken⟩

end Queries

/-! ### Framing -/

/-- The words of a message that was sent without a transmit timeout. -/
lemma hwmsgboxSendMessage_written {m : Message} (timeout : ℕ) (b : Mbox) (hm : m.refused = false)
    (htime : (hwmsgboxSendMessage (some m) timeout b).2.2.txTimeouts = b.txTimeouts) :
    ((hwmsgboxSendMessage (some m) timeout b).2.2.tx 3).written = (b.tx 3).written ++ m.words := by
  obtain ⟨b', hdef, ws, -, -, heff⟩ | ⟨-, b', hdef, heff⟩ | ⟨-, ret, m', b₁, b', hdef, heff, hrecv⟩ :=
    hwmsgboxSendMessage_spec m timeout b hm
  · rw [hdef] at htime
    have hlate : b'.txTimeouts = b.txTimeouts := htime
    have := heff.txTimeouts
    omega
  · rw [hdef]
    exact heff.written
  · rw [hdef]
    have hkept : (b'.tx 3).written = (b₁.tx 3).written := by
      obtain ⟨header, count, ps, -, -, -, heff'⟩ | ⟨-, -, got, heff'⟩ := hrecv
      · exact heff'.written.trans (List.append_nil _)
      · exact heff'.written.trans (List.append_nil _)
    calc (b'.tx 3).written
        = (b₁.tx 3).written := hkept
      _ = (b.tx 3).written ++ m.words := heff.written

/-- The words of an answer that was given without a transmit timeout. -/
lemma hwmsgboxFeedbackMessage_written {m : Message} (timeout : ℕ) (b : Mbox)
    (hm : m.refused = false) (hsyn : m.hardsyn = true)
    (htime : (hwmsgboxFeedbackMessage (some m) timeout b).2.txTimeouts = b.txTimeouts) :
    Effect 3 m.words [] 0 0 b (hwmsgboxFeedbackMessage (some m) timeout b).2 := by
  obtain ⟨-, -, ⟨-, heff⟩ | ⟨-, -, ws, -, heff⟩⟩ | ⟨-, hno⟩ | ⟨-, hno⟩ :=
    hwmsgboxFeedbackMessage_spec m timeout b
  · exact heff
  · have := heff.txTimeouts
    omega
  · rw [hm] at hno
    exact Bool.noConfusion hno
  · rw [hsyn] at hno
    exact Bool.noConfusion hno

/-- A message holds its own frame. -/
lemma Holds.ofMessage {capacity : ℕ} {m m' : Message} (h : Holds capacity (Frame.ofMessage m) m')
    (hcap : m.count.toNat ≤ capacity) :
    m'.state = m.state ∧ m'.attr = m.attr ∧ m'.type = m.type ∧ m'.result = m.result ∧
    m'.count = m.count ∧ ∀ i < m.count.toNat, m'.para i = m.para i := by
  have hheader := setHeader_headerWord m m
  simp only [Message.setHeader, Message.mk.injEq] at hheader
  obtain ⟨hstate, hattr, htype, hresult, -⟩ := hheader
  refine ⟨h.state.trans hstate, h.attr.trans hattr, h.type.trans htype, h.result.trans hresult,
    h.count, fun i hi => ?_⟩
  rw [h.paras i hi (by omega)]
  simp only [Frame.ofMessage, List.getD_eq_getElem?_getD, List.getElem?_map,
    List.getElem?_range hi, Option.map_some, Option.getD_some]

/-- **Framing.** The first part is the round trip: a message with at most 32 parameters
is sent, or fed back, as the words of its frame when no transmit wait runs out, and
whoever receives these words with room for its parameters takes exactly them and holds
the same message; no wait runs out for that if they have all arrived. The second part
is the stream: over frames of any headers and counts that arrive in any chunks while no
wait runs out, the results of successive queries are the frames in order, each held
with the parameters there is room for and reported as too large if it is; what has not
been reported lies ahead, at a frame boundary, no parameter is stored beyond the
capacity, and after enough queries every frame has been reported. -/
theorem hwmsgbox_framing :
    (∀ (m : Message), m.refused = false →
      (∀ timeout b, (hwmsgboxSendMessage (some m) timeout b).2.2.txTimeouts = b.txTimeouts →
        ((hwmsgboxSendMessage (some m) timeout b).2.2.tx 3).written
          = (b.tx 3).written ++ m.words) ∧
      (∀ timeout b, m.hardsyn = true →
        (hwmsgboxFeedbackMessage (some m) timeout b).2.txTimeouts = b.txTimeouts →
        ((hwmsgboxFeedbackMessage (some m) timeout b).2.tx 3).written
          = (b.tx 3).written ++ m.words) ∧
      ∀ q m₀ capacity timeout b rest, m.count.toNat ≤ capacity →
        (capacity ≠ 0 → m₀.paras.isSome) → b.incoming q = m.words ++ rest →
        ∀ r, r = hwmsgboxReceiveMessage q m₀ capacity timeout b →
          (m.words.length ≤ (b.rx q).level → r.2.2.rxTimeouts = b.rxTimeouts) ∧
          (r.2.2.rxTimeouts = b.rxTimeouts → r.1 = 0 ∧ r.2.2.incoming q = rest ∧
            r.2.1.state = m.state ∧ r.2.1.attr = m.attr ∧ r.2.1.type = m.type ∧
            r.2.1.result = m.result ∧ r.2.1.count = m.count ∧
            ∀ i < m.count.toNat, r.2.1.para i = m.para i)) ∧
    (∀ (fs : List Frame) (capacity timeout n : ℕ) (m : Message) (b : Mbox),
      capacity ≤ messageParaMax → (capacity ≠ 0 → m.paras.isSome) → Ahead b fs →
      ∀ r, r = queries capacity timeout n (m, b) → r.2.2.rxTimeouts = b.rxTimeouts →
      ∃ k ≤ fs.length, List.Forall₂ (Reports capacity) (fs.take k) r.1 ∧ Ahead r.2.2 (fs.drop k) ∧
        (∀ i, capacity ≤ i → r.2.1.para i = m.para i) ∧
        (b.peer.length + fs.length ≤ n → k = fs.length)) := by
  refine ⟨fun m hm => ⟨?_, ?_, ?_⟩, ?_⟩
  · intro timeout b htime
    exact hwmsgboxSendMessage_written timeout b hm htime
  · intro timeout b hsyn htime
    exact (hwmsgboxFeedbackMessage_written timeout b hm hsyn htime).written
  · intro q m₀ capacity timeout b rest hcap hparas hin r hr
    have hrecv := hwmsgboxReceiveMessage_spec q m₀ capacity timeout b
    rw [← hr] at hrecv
    have hframe : b.incoming q = (Frame.ofMessage m).words ++ rest := hin
    refine ⟨fun hlevel => hrecv.present hframe hlevel, fun htime => ?_⟩
    obtain ⟨hret, hmsg, hrest, -⟩ := hrecv.frame hframe htime
    have hholds := ((Frame.ofMessage m).receive_holds hparas).ofMessage hcap
    rw [← hmsg] at hholds
    refine ⟨hret.trans (if_neg (Nat.not_lt.mpr hcap)), hrest, hholds⟩
  · intro fs capacity timeout n m b hcap hparas hahead r hr htime
    have hstart : Querying capacity m.para (m, b) fs := ⟨hahead, hparas, fun _ _ => rfl⟩
    rw [hr] at htime ⊢
    obtain ⟨k, hk, hall, hleft, hfull⟩ := (queryConsumer timeout m.para hcap).run_replicate
      rfl n (m, b) fs hstart
      (along_of_le (f := fun s => s.2.rxTimeouts)
        (fun s _ => queryStep_rxTimeouts_le timeout capacity s) htime)
    exact ⟨k, hk, hall, hleft.ahead, hleft.beyond, hfull⟩

/-- What the other side does in turns that only write to channel 3. -/
def writing (chunks : List (List UInt32)) : List Turn :=
  chunks.map fun ws => ⟨fun _ => 0, fun q => if q = 3 then ws else []⟩

/-- Two frames in four chunks, the first of them too large: queries with room for one
parameter report both. -/
theorem hwmsgbox_framing_sample :
    let fs : List Frame := [⟨0x610001, 2, [5, 6], rfl⟩, ⟨0x620002, 1, [7], rfl⟩]
    let m : Message := ⟨0, 0, 0, 0, 0, some UInt32.ofNat⟩
    let b := Mbox.holding 0 (writing [[0x610001], [2, 5], [6, 0x620002, 1], [7]])
    let r := queries 1 100 6 (m, b)
    (Ahead b fs ∧ r.2.2.rxTimeouts = b.rxTimeouts) ∧
    List.Forall₂ (Reports 1) fs r.1 ∧ Ahead r.2.2 [] ∧ r.1.map Prod.fst = [-e2Big, 0] := by
  intro fs m b r
  have htime : r.2.2.rxTimeouts = b.rxTimeouts := by decide
  obtain ⟨k, -, hall, hleft, -, hfull⟩ := hwmsgbox_framing.2 fs 1 100 6 m b (by decide)
    (fun _ => rfl) rfl r rfl htime
  obtain rfl : k = 2 := hfull (by decide)
  exact ⟨⟨rfl, htime⟩, hall, hleft, by decide⟩

end A733Boot.Ar100s.Mailbox
