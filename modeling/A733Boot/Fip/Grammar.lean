/-
The FIP grammar, stated on the bytes of a package, and the theorem that the
single-pass parser accepts exactly that grammar.

The parser keeps minima, maxima and a bit mask while it walks; the grammar speaks
of all entries at once. The three accumulator lemmas connect the two.

* `Slot`: the four kinds of entry the boot loader knows, with their UUID, bit,
  size limit and payload condition;
* `IsToc`, `PayloadsFit`, `IsFip`: the shape of the table of contents, the place
  of the payloads, and the whole grammar;
* `le_payloadStart_iff`, `payloadEnd_le_iff`, `walkState_testBit`: what the
  accumulators of the walk say about all entries before it;
* `sunxiFipParse_accepts_iff` (**the parser accepts exactly the grammar**), and
  the layout of an accepted package is the one its entries spell.
-/
import A733Boot.Fip.Parse
import Mathlib.Order.CompletePartialOrder

namespace A733Boot.Fip

/-! ### The entries the boot loader knows -/

/-- The four known kinds of entry. -/
inductive Slot where
  | scpBl2
  | bl31
  | bl33
  | hwConfig
  deriving DecidableEq, Repr

namespace Slot

/-- The UUID of a kind. -/
def uuid : Slot → List UInt8
  | scpBl2 => scpBl2Uuid
  | bl31 => bl31Uuid
  | bl33 => bl33Uuid
  | hwConfig => hwConfigUuid

/-- The place of its bit in the `found` mask. -/
def bit : Slot → ℕ
  | scpBl2 => 0
  | bl31 => 1
  | bl33 => 2
  | hwConfig => 3

/-- The largest payload its load window takes. -/
def maxSize : Slot → ℕ
  | scpBl2 => 0x00028000
  | bl31 => 0x00100000
  | bl33 => 0x00180000
  | hwConfig => 0x00100000

/-- What its payload has to look like. -/
def Ok : Slot → Buf → ℕ → ℕ → Prop
  | scpBl2 => ScpBl2Ok
  | bl31 => Bl31Ok
  | bl33 => Bl33Ok
  | hwConfig => HwConfigOk

end Slot

/-- The image of a kind in a layout. -/
def Layout.get (l : Layout) : Slot → Image
  | .scpBl2 => l.scpBl2
  | .bl31 => l.bl31
  | .bl33 => l.bl33
  | .hwConfig => l.hwConfig

/-! ### The grammar -/

/-- The table of contents in the first `n` bytes has `k` entries: distinct
non-null UUIDs, then a null UUID whose size and flags are zero. -/
structure IsToc (b : Buf) (n k : ℕ) : Prop where
  inside : 16 + 40 * (k + 1) ≤ n
  nonnull : ∀ i < k, uuidAt b i ≠ nullUuid
  distinct : ∀ i < k, ∀ j < k, i ≠ j → uuidAt b i ≠ uuidAt b j
  null : uuidAt b k = nullUuid
  size_zero : sizeAt b k = 0
  flags_zero : flagsAt b k = 0

/-- The payloads of the `k` entries are non-empty and disjoint, and lie between
the end of the table and the size the terminator declares. -/
structure PayloadsFit (b : Buf) (n k : ℕ) : Prop where
  declared : 16 + 40 * (k + 1) ≤ offsetAt b k ∧ offsetAt b k ≤ n
  nonempty : ∀ i < k, sizeAt b i ≠ 0
  start : ∀ i < k, 16 + 40 * (k + 1) ≤ offsetAt b i
  stop : ∀ i < k, offsetAt b i + sizeAt b i ≤ offsetAt b k
  disjoint : ∀ i < k, ∀ j < k, i ≠ j → Disjoint (payloadAt b i) (payloadAt b j)

/-- The first `n` bytes of `b` are a package whose table has `k` entries. -/
structure IsFipOf (b : Buf) (n k : ℕ) : Prop where
  size : 16 ≤ n ∧ n ≤ 0x200000
  name : b.le 0 4 = 0xaa640001
  serial : b.le 4 4 = 0x12345678
  count : k < 38
  toc : IsToc b n k
  fit : PayloadsFit b n k
  required : ∀ s, s ≠ Slot.hwConfig → ∃ i < k, uuidAt b i = s.uuid
  limits : ∀ s : Slot, ∀ i < k, uuidAt b i = s.uuid → sizeAt b i ≤ s.maxSize
  payloads : ∀ s : Slot, ∀ i < k, uuidAt b i = s.uuid → s.Ok b (offsetAt b i) (sizeAt b i)

/-- The grammar of the A733 package. -/
def IsFip (b : Buf) (n : ℕ) : Prop := ∃ k, IsFipOf b n k

/-- The layout spelled by the first `k` entries: the range of each known kind
that is there, and an empty range of each that is not. -/
structure IsLayout (b : Buf) (k : ℕ) (l : Layout) : Prop where
  present : ∀ s : Slot, ∀ i < k, uuidAt b i = s.uuid → l.get s = ⟨offsetAt b i, sizeAt b i⟩
  absent : ∀ s : Slot, (∀ i < k, uuidAt b i ≠ s.uuid) → l.get s = ⟨0, 0⟩

/-! ### What the accumulators say -/

section Accumulators

variable {b : Buf} {k : ℕ}

lemma le_payloadStart_iff {x : ℕ} :
    x ≤ (walkState b k).payloadStart ↔ x ≤ 2 ^ 64 - 1 ∧ ∀ i < k, x ≤ offsetAt b i := by
  induction k with
  | zero => simp [walkState, TocWalk.init]
  | succ k ih =>
      have hmin : x ≤ (walkState b (k + 1)).payloadStart ↔
          x ≤ (walkState b k).payloadStart ∧ x ≤ offsetAt b k := by
        simp only [walkState]
        split <;> omega
      rw [hmin, ih, Nat.forall_lt_succ_right, and_assoc]

lemma payloadEnd_le_iff {x : ℕ} :
    (walkState b k).payloadEnd ≤ x ↔ ∀ i < k, offsetAt b i + sizeAt b i ≤ x := by
  induction k with
  | zero => simp [walkState, TocWalk.init]
  | succ k ih =>
      have hmax : (walkState b (k + 1)).payloadEnd ≤ x ↔
          (walkState b k).payloadEnd ≤ x ∧ offsetAt b k + sizeAt b k ≤ x := by
        simp only [walkState]
        split <;> omega
      rw [hmax, ih, Nat.forall_lt_succ_right]

/-- A known UUID sets the bit of its kind and no other. -/
lemma foundFlag_testBit (uuid : List UInt8) (s : Slot) :
    (foundFlag uuid).testBit s.bit = decide (uuid = s.uuid) := by
  rw [foundFlag]
  split_ifs with h1 h2 h3 h4
  · subst h1; cases s <;> decide
  · subst h2; cases s <;> decide
  · subst h3; cases s <;> decide
  · subst h4; cases s <;> decide
  · cases s <;> simp [Slot.uuid, h1, h2, h3, h4]

/-- The mask remembers which kinds have occurred. -/
lemma walkState_testBit (b : Buf) (k : ℕ) (s : Slot) :
    (walkState b k).found.testBit s.bit = true ↔ ∃ i < k, uuidAt b i = s.uuid := by
  induction k with
  | zero => simp [walkState, TocWalk.init]
  | succ k ih =>
      rw [walkState, Nat.testBit_or, Bool.or_eq_true, ih, foundFlag_testBit, decide_eq_true_eq,
        Nat.exists_lt_succ_right]

lemma found_required_iff :
    (walkState b k).found &&& fipFoundRequired = fipFoundRequired ↔
      ∀ s, s ≠ Slot.hwConfig → ∃ i < k, uuidAt b i = s.uuid := by
  have hmod : (walkState b k).found &&& fipFoundRequired = (walkState b k).found % 8 :=
    Nat.and_two_pow_sub_one_eq_mod _ 3
  have hbit := walkState_testBit b k
  simp only [Nat.testBit_eq_decide_div_mod_eq, decide_eq_true_eq] at hbit
  have hall : (walkState b k).found &&& fipFoundRequired = fipFoundRequired ↔
      (walkState b k).found / 2 ^ Slot.scpBl2.bit % 2 = 1 ∧
      (walkState b k).found / 2 ^ Slot.bl31.bit % 2 = 1 ∧
      (walkState b k).found / 2 ^ Slot.bl33.bit % 2 = 1 := by
    rw [hmod, show fipFoundRequired = 7 from rfl]
    simp only [Slot.bit]
    omega
  rw [hall, hbit, hbit, hbit]
  constructor
  · rintro ⟨h0, h1, h2⟩ s hs
    cases s with
    | scpBl2 => exact h0
    | bl31 => exact h1
    | bl33 => exact h2
    | hwConfig => exact absurd rfl hs
  · intro h
    exact ⟨h _ (by decide), h _ (by decide), h _ (by decide)⟩

lemma found_hwConfig_iff :
    (walkState b k).found &&& fipFoundHwConfig ≠ 0 ↔ ∃ i < k, uuidAt b i = Slot.hwConfig.uuid := by
  have hand : (walkState b k).found &&& 2 ^ 3
      = ((walkState b k).found.testBit 3).toNat * 2 ^ 3 := Nat.and_two_pow _ 3
  rw [← walkState_testBit, show fipFoundHwConfig = 2 ^ 3 from rfl, hand, Slot.bit]
  cases (walkState b k).found.testBit 3 <;> decide

lemma place_get (l : Layout) (uuid : List UInt8) (image : Image) (s : Slot) :
    (l.place uuid image).get s = if uuid = s.uuid then image else l.get s := by
  by_cases h : ∃ t : Slot, uuid = t.uuid
  · obtain ⟨t, rfl⟩ := h
    cases t <;> cases s <;> rfl
  · have hne : ∀ t : Slot, uuid ≠ t.uuid := fun t ht => h ⟨t, ht⟩
    have h1 : uuid ≠ scpBl2Uuid := hne .scpBl2
    have h2 : uuid ≠ bl31Uuid := hne .bl31
    have h3 : uuid ≠ bl33Uuid := hne .bl33
    have h4 : uuid ≠ hwConfigUuid := hne .hwConfig
    rw [if_neg (hne s), Layout.place, if_neg h1, if_neg h2, if_neg h3, if_neg h4]

/-- With distinct UUIDs no image of the layout is set twice. -/
lemma walkState_isLayout (hd : ∀ i < k, ∀ j < k, i ≠ j → uuidAt b i ≠ uuidAt b j) :
    IsLayout b k (walkState b k).layout := by
  induction k with
  | zero => exact ⟨fun s i hi => absurd hi (by omega), fun s _ => by cases s <;> rfl⟩
  | succ k ih =>
      obtain ⟨hpresent, habsent⟩ := ih fun i hi j hj => hd i (by omega) j (by omega)
      refine ⟨fun s i hi hu => ?_, fun s hno => ?_⟩
      · rw [walkState, place_get]
        rcases Nat.lt_succ_iff_lt_or_eq.mp hi with hlt | rfl
        · have hne : uuidAt b k ≠ s.uuid := fun he =>
            hd i hi k (by omega) (by omega) (hu.trans he.symm)
          rw [if_neg hne, hpresent s i hlt hu]
        · rw [if_pos hu]
      · rw [walkState, place_get, if_neg (hno k (by omega)), habsent s fun i hi => hno i (by omega)]

end Accumulators

/-! ### From the walk to the grammar -/

section Grammar

variable {b : Buf} {n k : ℕ} {l : Layout}

/-- The walk succeeds at the first null UUID when every entry before it is
acceptable and the terminator is. -/
lemma tocResult_eq_zero_iff (m : ℕ) :
    tocResult b n m k = (0, l) ↔ ∃ e, k ≤ e ∧ e < k + m ∧
      (∀ i, k ≤ i → i < e → uuidAt b i ≠ nullUuid ∧ EntryOk b n i) ∧
      16 + 40 * (e + 1) ≤ n ∧ uuidAt b e = nullUuid ∧ TerminatorOk b n e ∧
      l = (walkState b e).layout := by
  induction m generalizing k with
  | zero =>
      simp only [tocResult, Prod.mk.injEq, show (-1 : ℤ) ≠ 0 by decide, false_and, false_iff]
      rintro ⟨e, h1, h2, -⟩
      omega
  | succ m ih =>
      rw [tocResult]
      split
      next hroom =>
        simp only [Prod.mk.injEq, show (-1 : ℤ) ≠ 0 by decide, false_and, false_iff]
        rintro ⟨e, h1, -, -, h4, -⟩
        omega
      next hroom =>
      split
      next hnull =>
        constructor
        · intro h
          simp only [Prod.mk.injEq] at h
          have hok : TerminatorOk b n k := by
            by_contra hno
            rw [if_neg hno] at h
            exact absurd h.1 (by decide)
          exact ⟨k, le_rfl, by omega, fun i h1 h2 => absurd h1 (by omega), by omega, hnull, hok,
            h.2.symm⟩
        · rintro ⟨e, h1, h2, hpre, -, -, hok, rfl⟩
          obtain rfl := eq_of_first (fun h => h.1 hnull) h1 hpre
          rw [if_pos hok]
      next hnull =>
      split
      next hentry =>
        rw [ih]
        exact exists_first_succ ⟨hnull, hentry⟩ fun h => hnull h.2.1
      next hentry =>
        simp only [Prod.mk.injEq, show (-1 : ℤ) ≠ 0 by decide, false_and, false_iff]
        rintro ⟨e, h1, -, hpre, -, hnull', -⟩
        have hne : e ≠ k := by
          rintro rfl
          exact hnull hnull'
        exact hentry (hpre k le_rfl (by omega)).2

/-- Ranges that share no offset, in the form in which the parser compares
them. -/
lemma disjoint_payload_iff {i j : ℕ} (hi : sizeAt b i ≠ 0) (hj : sizeAt b j ≠ 0) :
    Disjoint (payloadAt b i) (payloadAt b j) ↔
      ¬(offsetAt b i < offsetAt b j + sizeAt b j ∧ offsetAt b j < offsetAt b i + sizeAt b i) := by
  rw [payloadAt, payloadAt, Set.Ico_disjoint_Ico]
  omega

/-- The entries acceptable one after the other are the ones with distinct UUIDs
and non-empty disjoint payloads inside the package. -/
lemma forall_entryOk_iff :
    (∀ i < k, EntryOk b n i) ↔
      (∀ i < k, ∀ j < k, i ≠ j → uuidAt b i ≠ uuidAt b j) ∧ (∀ i < k, sizeAt b i ≠ 0) ∧
      (∀ i < k, offsetAt b i + sizeAt b i ≤ n) ∧
      ∀ i < k, ∀ j < k, i ≠ j → Disjoint (payloadAt b i) (payloadAt b j) := by
  constructor
  · intro h
    have hsize : ∀ i < k, sizeAt b i ≠ 0 := fun i hi => (h i hi).2.1
    refine ⟨fun i hi j hj hne he => ?_, hsize, fun i hi => (h i hi).2.2.1, fun i hi j hj hne => ?_⟩
    · rcases Nat.lt_or_gt_of_ne hne with hlt | hlt
      · exact (h j hj).1 i hlt he
      · exact (h i hi).1 j hlt he.symm
    · rcases Nat.lt_or_gt_of_ne hne with hlt | hlt
      · exact ((disjoint_payload_iff (hsize j hj) (hsize i hi)).mpr ((h j hj).2.2.2 i hlt)).symm
      · exact (disjoint_payload_iff (hsize i hi) (hsize j hj)).mpr ((h i hi).2.2.2 j hlt)
  · rintro ⟨huuid, hsize, hin, hdisj⟩ i hi
    refine ⟨fun j hj => huuid j (by omega) i hi (by omega), hsize i hi, hin i hi, fun j hj => ?_⟩
    exact (disjoint_payload_iff (hsize i hi) (hsize j (by omega))).mp
      (hdisj i hi j (by omega) (by omega))

/-- The condition on the hardware configuration and the three required ones, over
the layout, are the conditions on the payloads of all known entries. -/
lemma loadable_iff (hl : IsLayout b k l)
    (hreq : ∀ s, s ≠ Slot.hwConfig → ∃ i < k, uuidAt b i = s.uuid) :
    ((∃ i < k, uuidAt b i = Slot.hwConfig.uuid) → HwConfigOk b l.hwConfig.offset l.hwConfig.size) ∧
      Loadable b l ↔
    (∀ s : Slot, ∀ i < k, uuidAt b i = s.uuid → sizeAt b i ≤ s.maxSize) ∧
      ∀ s : Slot, ∀ i < k, uuidAt b i = s.uuid → s.Ok b (offsetAt b i) (sizeAt b i) := by
  constructor
  · rintro ⟨hhw, h31, h33, hscp, hhwmax, hscpOk, h31Ok, h33Ok⟩
    refine ⟨fun s i hi hu => ?_, fun s i hi hu => ?_⟩
    · have hget := hl.present s i hi hu
      cases s <;> simp only [Layout.get] at hget <;> simp_all [Slot.maxSize, sunxiFipBl31MaxSize,
        sunxiFipBl33MaxSize, sunxiFipScpBl2MaxSize, sunxiFipHwConfigMaxSize]
    · have hget := hl.present s i hi hu
      cases s with
      | scpBl2 => simp only [Layout.get] at hget; rwa [hget] at hscpOk
      | bl31 => simp only [Layout.get] at hget; rwa [hget] at h31Ok
      | bl33 => simp only [Layout.get] at hget; rwa [hget] at h33Ok
      | hwConfig =>
          have hok := hhw ⟨i, hi, hu⟩
          simp only [Layout.get] at hget
          rwa [hget] at hok
  · rintro ⟨hmax, hok⟩
    have himage : ∀ s, s ≠ Slot.hwConfig →
        (l.get s).size ≤ s.maxSize ∧ s.Ok b (l.get s).offset (l.get s).size := by
      intro s hs
      obtain ⟨i, hi, hu⟩ := hreq s hs
      rw [hl.present s i hi hu]
      exact ⟨hmax s i hi hu, hok s i hi hu⟩
    have hhw : (l.get .hwConfig).size ≤ Slot.hwConfig.maxSize := by
      by_cases hno : ∃ i < k, uuidAt b i = Slot.hwConfig.uuid
      · obtain ⟨i, hi, hu⟩ := hno
        rw [hl.present .hwConfig i hi hu]
        exact hmax .hwConfig i hi hu
      · rw [hl.absent .hwConfig fun i hi hu => hno ⟨i, hi, hu⟩]
        exact Nat.zero_le _
    refine ⟨fun ⟨i, hi, hu⟩ => ?_, (himage .bl31 (by decide)).1, (himage .bl33 (by decide)).1,
      (himage .scpBl2 (by decide)).1, hhw, (himage .scpBl2 (by decide)).2,
      (himage .bl31 (by decide)).2, (himage .bl33 (by decide)).2⟩
    have hget := hl.present .hwConfig i hi hu
    simp only [Layout.get] at hget
    rw [hget]
    exact hok .hwConfig i hi hu

/-- The terminator check, after entries that were acceptable, is the rest of the
grammar. -/
lemma terminatorOk_iff (hk : k < 38) (hd : ∀ i < k, ∀ j < k, i ≠ j → uuidAt b i ≠ uuidAt b j) :
    TerminatorOk b n k ↔ sizeAt b k = 0 ∧ flagsAt b k = 0 ∧
      (16 + 40 * (k + 1) ≤ offsetAt b k ∧ offsetAt b k ≤ n) ∧
      (∀ i < k, 16 + 40 * (k + 1) ≤ offsetAt b i) ∧
      (∀ i < k, offsetAt b i + sizeAt b i ≤ offsetAt b k) ∧
      (∀ s, s ≠ Slot.hwConfig → ∃ i < k, uuidAt b i = s.uuid) ∧
      (∀ s : Slot, ∀ i < k, uuidAt b i = s.uuid → sizeAt b i ≤ s.maxSize) ∧
      ∀ s : Slot, ∀ i < k, uuidAt b i = s.uuid → s.Ok b (offsetAt b i) (sizeAt b i) := by
  have hlayout := walkState_isLayout hd
  have hbound : 16 + 40 * (k + 1) ≤ 2 ^ 64 - 1 := by omega
  simp only [TerminatorOk, le_payloadStart_iff, payloadEnd_le_iff, found_required_iff,
    found_hwConfig_iff, hbound, true_and]
  constructor
  · rintro ⟨h1, h2, h3, h4, h5, h6, hreq, hrest⟩
    exact ⟨h1, h2, ⟨h4, h3⟩, h5, h6, hreq, (loadable_iff hlayout hreq).mp hrest⟩
  · rintro ⟨h1, h2, ⟨h4, h3⟩, h5, h6, hreq, hrest⟩
    exact ⟨h1, h2, h3, h4, h5, h6, hreq, (loadable_iff hlayout hreq).mpr hrest⟩

/-- An accepted parse finds a package, and leaves the layout of its entries. -/
lemma parseResult_eq_zero_iff (l₀ : Layout) :
    parseResult b n l₀ = (0, l) ↔ ∃ k, IsFipOf b n k ∧ l = (walkState b k).layout := by
  rw [parseResult]
  split
  next hbad =>
    simp only [Prod.mk.injEq, show (-1 : ℤ) ≠ 0 by decide, false_and, false_iff]
    rintro ⟨k, hfip, -⟩
    rcases hbad with h | h | h | h
    · exact absurd hfip.size.1 (Nat.not_le_of_lt h)
    · exact absurd hfip.size.2 (Nat.not_le_of_lt h)
    · exact h hfip.name
    · exact h hfip.serial
  next hgood =>
    simp only [not_or, not_lt, not_not] at hgood
    obtain ⟨hlo, hhi, hname, hserial⟩ := hgood
    rw [tocResult_eq_zero_iff, show 0 + fipMaxTocEntries = 38 from rfl]
    constructor
    · rintro ⟨k, -, hk, hpre, hroom, hnull, hterm, rfl⟩
      obtain ⟨hdist, hne, -, hdisj⟩ :=
        forall_entryOk_iff.mp fun i hi => (hpre i (Nat.zero_le i) hi).2
      obtain ⟨hs, hf, hdecl, hstart, hstop, hreq, hmax, hok⟩ := (terminatorOk_iff hk hdist).mp hterm
      refine ⟨k, ⟨⟨hlo, hhi⟩, hname, hserial, hk, ?_, ?_, hreq, hmax, hok⟩, rfl⟩
      · exact ⟨hroom, fun i hi => (hpre i (Nat.zero_le i) hi).1, hdist, hnull, hs, hf⟩
      · exact ⟨hdecl, hne, hstart, hstop, hdisj⟩
    · rintro ⟨k, hfip, rfl⟩
      obtain ⟨-, -, -, hk, htoc, hfit, hreq, hmax, hok⟩ := hfip
      have hentry : ∀ i < k, EntryOk b n i := forall_entryOk_iff.mpr
        ⟨htoc.distinct, hfit.nonempty, fun i hi => (hfit.stop i hi).trans hfit.declared.2,
          hfit.disjoint⟩
      refine ⟨k, Nat.zero_le k, hk, fun i _ hi => ⟨htoc.nonnull i hi, hentry i hi⟩, htoc.inside,
        htoc.null, ?_, rfl⟩
      exact (terminatorOk_iff hk htoc.distinct).mpr ⟨htoc.size_zero, htoc.flags_zero, hfit.declared,
        hfit.start, hfit.stop, hreq, hmax, hok⟩

/-- The layout of an accepted package is loadable, and its hardware configuration,
when there is one, has a valid header. -/
lemma parseResult_loadable {l₀ : Layout} (h : parseResult b n l₀ = (0, l)) :
    Loadable b l ∧
      (l.hwConfig.size ≠ 0 → HwConfigOk b l.hwConfig.offset l.hwConfig.size) := by
  obtain ⟨k, hfip, rfl⟩ := (parseResult_eq_zero_iff l₀).mp h
  have hlayout := walkState_isLayout hfip.toc.distinct
  obtain ⟨hhw, hload⟩ := (loadable_iff hlayout hfip.required).mpr ⟨hfip.limits, hfip.payloads⟩
  refine ⟨hload, fun hne => hhw ?_⟩
  by_contra hno
  have habsent := hlayout.absent .hwConfig fun i hi hu => hno ⟨i, hi, hu⟩
  simp only [Layout.get] at habsent
  exact hne (by rw [habsent])

end Grammar

/-- **The parser accepts exactly the grammar**, and the layout of an accepted
package is the one its entries spell. -/
theorem sunxiFipParse_accepts_iff (sz : SizeT) (ar : Arith) (b : Buf) (layout : Layout) :
    ((∃ l, sunxiFipParse sz ar (some b) b.size (some layout) = some (0, some l)) ↔
      IsFip b b.size) ∧
    ∀ l, sunxiFipParse sz ar (some b) b.size (some layout) = some (0, some l) →
      ∃ k, IsFipOf b b.size k ∧ IsLayout b k l := by
  have hzero : ∀ l, sunxiFipParse sz ar (some b) b.size (some layout) = some (0, some l) ↔
      ∃ k, IsFipOf b b.size k ∧ l = (walkState b k).layout := by
    intro l
    rw [sunxiFipParse_eq sz ar le_rfl, ← parseResult_eq_zero_iff layout]
    simp [Prod.ext_iff]
  refine ⟨⟨?_, ?_⟩, fun l h => ?_⟩
  · rintro ⟨l, h⟩
    obtain ⟨k, hfip, -⟩ := (hzero l).mp h
    exact ⟨k, hfip⟩
  · rintro ⟨k, hfip⟩
    exact ⟨_, (hzero _).mpr ⟨k, hfip, rfl⟩⟩
  · obtain ⟨k, hfip, rfl⟩ := (hzero l).mp h
    exact ⟨k, hfip, walkState_isLayout hfip.toc.distinct⟩

/-! ### A smallest package -/

/-- The bytes of a numeral, least significant first. -/
def leBytes (n v : ℕ) : List UInt8 := (List.range n).map fun i => UInt8.ofNat (v / 256 ^ i)

/-- The bytes of a numeral, most significant first. -/
def beBytes (n v : ℕ) : List UInt8 := (leBytes n v).reverse

/-- Bytes given piecewise, zero between the pieces. -/
def pieces : List (ℕ × List UInt8) → ℕ → UInt8
  | [], _ => 0
  | (o, l) :: rest, i => if o ≤ i ∧ i < o + l.length then l.getD (i - o) 0 else pieces rest i

/-- An entry of the table of contents. -/
def tocEntry (uuid : List UInt8) (offset size : ℕ) : List UInt8 :=
  uuid ++ leBytes 8 offset ++ leBytes 8 size ++ leBytes 8 0

/-- A device tree with one node `dram` and its 96 properties `dram_para00` to
`dram_para95`, every value zero: the header, an empty reserve map, the structure
block and the strings block. -/
def sampleDtb : List UInt8 :=
  ([0xd00dfeed, 2776, 56, 1624, 40, 17, 16, 0, 1152, 1568] : List ℕ).flatMap (beBytes 4) ++
    List.replicate 16 0 ++
    ([1, 0, 1, 0x6472616d, 0] : List ℕ).flatMap (beBytes 4) ++
    (List.range 96).flatMap (fun i => ([3, 4, 12 * i, 0] : List ℕ).flatMap (beBytes 4)) ++
    ([2, 2, 9] : List ℕ).flatMap (beBytes 4) ++
    (List.range 96).flatMap fun i =>
      [0x64, 0x72, 0x61, 0x6d, 0x5f, 0x70, 0x61, 0x72, 0x61, UInt8.ofNat (0x30 + i / 10),
        UInt8.ofNat (0x30 + i % 10), 0]

/-- A package of fifteen sectors with all four entries, the three images as short as
their checks allow. -/
def samplePackage : Buf := ⟨7456, fun i =>
  if 4680 ≤ i ∧ i < 7456 then sampleDtb.getD (i - 4680) 0
  else pieces [
    (0, leBytes 4 fipTocHeaderName ++ leBytes 4 fipTocSerialNumber ++ leBytes 8 0),
    (16, tocEntry scpBl2Uuid 256 64), (56, tocEntry bl31Uuid 512 0x1004),
    (96, tocEntry bl33Uuid 4616 64), (136, tocEntry hwConfigUuid 4680 2776),
    (176, tocEntry nullUuid 7456 0),
    (256, leBytes 4 scpBl2EntryInstruction ++ leBytes 4 scpBl2TraceAddrHi ++
      leBytes 4 scpBl2TraceAddrLo ++ leBytes 4 scpBl2TraceValueHi ++ leBytes 4 scpBl2TraceStore ++
      leBytes 4 scpBl2EntryPrologue),
    (512, leBytes 4 bl31MonitorBranch ++ monitorMagic),
    (512 + 0x2c, leBytes 4 sunxiFipBl31Base), (512 + 0x1000, leBytes 4 1),
    (4616, leBytes 4 armBranchOpcode)] i⟩

/-- Where the payloads of the sample lie. -/
def sampleLayout : Layout := ⟨⟨256, 64⟩, ⟨512, 0x1004⟩, ⟨4616, 64⟩, ⟨4680, 2776⟩⟩

lemma parseResult_samplePackage (l : Layout) : parseResult samplePackage 7456 l = (0, sampleLayout) := by
  have hwalk : tocResult samplePackage 7456 fipMaxTocEntries 0 = (0, sampleLayout) := by
    decide +kernel
  rw [parseResult, if_neg (by decide +kernel), hwalk]

end A733Boot.Fip
