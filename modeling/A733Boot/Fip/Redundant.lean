/-
Loading from one of two sectors: `sunxi_fip_copy_images`,
`sunxi_fip_read_redundant` and `sunxi_fip_load_redundant` of `src/sunxi_fip.c`.

* `copyPlan`, `runCopies`, `sunxiFipCopyImages_eq`: the copies of a validated
  package, in their order, up to the first that fails;
* `LoadsFrom`: the outcome of a load once a candidate is chosen;
* `Host.Oblivious`: callbacks that do not look at the old contents of the staging
  buffer, up to a relation on worlds; `readImage_oblivious` and
  `copyImages_oblivious` carry the relation through an attempt;
* `sunxiFipLoadRedundant_selects` (**redundant selection**): which sector is the
  candidate, what is called, what is returned, and that the bytes left behind by a
  failed attempt have no influence on the next one.
-/
import A733Boot.Fip.Loader

namespace A733Boot.Fip

variable {σ : Type} {capacity : ℕ}

/-! ### The copies of a package -/

/-- The copies made of a package: BL31, BL33, the hardware configuration when there
is one, and SCP_BL2, each to its window. -/
def copyPlan (l : Layout) : List (ℕ × Image) :=
  [(sunxiFipBl31Base, l.bl31), (sunxiFipBl33Base, l.bl33)] ++
    (if l.hwConfig.size ≠ 0 then [(sunxiFipHwConfigBase, l.hwConfig)] else []) ++
    [(sunxiFipScpBl2Base, l.scpBl2)]

/-- The copies of a plan, up to the first that fails. -/
def runCopies (staging : σ → ℕ → UInt8) (copy : ℕ → ℕ → ℕ → σ → ℤ × σ) :
    List (ℕ × Image) → Sys σ → Bool × Sys σ
  | [], s => (true, s)
  | p :: plan, s =>
      let r := callCopy staging copy p.1 p.2 s
      if r.1 ≠ 0 then (false, r.2) else runCopies staging copy plan r.2

/-- What copying a package computes. -/
def Host.copyImages (h : Host σ) (capacity size : ℕ) (s : Sys σ) : Bool × Sys σ :=
  match h.copy, h.staging with
  | some copy, some staging =>
      let parsed := parseResult (s.buf staging capacity) size Layout.zero
      if parsed.1 = 0 then runCopies staging copy (copyPlan parsed.2) s else (false, s)
  | _, _ => (false, s)

/-- A parse returns `0` or `-1`. -/
lemma parseResult_fst (b : Buf) (n : ℕ) (l : Layout) :
    (parseResult b n l).1 = 0 ∨ (parseResult b n l).1 = -1 := by
  have htoc : ∀ m k, (tocResult b n m k).1 = 0 ∨ (tocResult b n m k).1 = -1 := by
    intro m
    induction m with
    | zero => exact fun _ => Or.inr rfl
    | succ m ih =>
        intro k
        rw [tocResult]
        split_ifs
        · exact Or.inr rfl
        · exact Or.inl rfl
        · exact Or.inr rfl
        · exact ih (k + 1)
        · exact Or.inr rfl
  rw [parseResult]
  split
  · exact Or.inr rfl
  · exact htoc _ _

/-- The four copies written out in the source are the copies of the plan. -/
lemma sunxiFipCopyImages_eq (sz : SizeT) (h : Host σ) {size : ℕ} (hsize : size ≤ capacity)
    (s : Sys σ) :
    sunxiFipCopyImages sz h capacity size s
      = some (if (h.copyImages capacity size s).1 then 0 else -1,
          (h.copyImages capacity size s).2) := by
  rw [sunxiFipCopyImages, Host.copyImages]
  rcases h.copy with - | copy
  · rfl
  rcases h.staging with - | staging
  · rfl
  have hparse := sunxiFipParse_eq sz .wrap (n := size) (b := s.buf staging capacity) hsize
    Layout.zero
  simp only [Option.map_some, hparse, Option.bind_eq_bind, Option.bind_some]
  rcases parseResult_fst (s.buf staging capacity) size Layout.zero with h0 | h1
  · simp only [h0, if_true]
    generalize (parseResult (s.buf staging capacity) size Layout.zero).2 = l
    simp only [copyPlan]
    by_cases hhw : l.hwConfig.size ≠ 0
    · simp only [if_pos hhw, List.cons_append, List.nil_append, runCopies]
      split_ifs <;> first | contradiction | rfl
    · simp only [if_neg hhw, List.cons_append, List.nil_append, List.append_nil, runCopies]
      split_ifs <;> first | contradiction | rfl
  · simp only [h1]
    rfl

/-- The value a call returned. -/
def Call.ret : Call → ℤ
  | .read _ _ ret => ret
  | .copy _ _ ret => ret

/-- The call is the copy `p` of a plan. -/
def Call.IsCopyOf (c : Call) (p : ℕ × Image) : Prop :=
  ∃ source ret, c = .copy p.1 source ret ∧ source.length = p.2.size

/-- Only copies are recorded, in the order of the plan; they all returned zero
exactly when the whole plan was carried out. -/
lemma runCopies_calls (staging : σ → ℕ → UInt8) (copy : ℕ → ℕ → ℕ → σ → ℤ × σ)
    (plan : List (ℕ × Image)) (s : Sys σ) :
    ∃ copies done rest, (runCopies staging copy plan s).2.calls = s.calls ++ copies ∧
      plan = done ++ rest ∧ List.Forall₂ Call.IsCopyOf copies done ∧
      ((runCopies staging copy plan s).1 = true ↔ ∀ c ∈ copies, c.ret = 0) ∧
      ((runCopies staging copy plan s).1 = true → rest = []) := by
  induction plan generalizing s with
  | nil => exact ⟨[], [], [], by simp [runCopies], rfl, .nil, by simp [runCopies], fun _ => rfl⟩
  | cons p plan ih =>
      have hcopy : (Call.copy p.1 ((Buf.mk 0 (staging s.world)).slice p.2.offset p.2.size)
          (callCopy staging copy p.1 p.2 s).1).IsCopyOf p := ⟨_, _, rfl, Buf.slice_length _ _ _⟩
      rw [runCopies]
      by_cases hret : (callCopy staging copy p.1 p.2 s).1 = 0
      · obtain ⟨copies, done, rest, hcalls, hplan, hall, hiff, hrest⟩ :=
          ih (callCopy staging copy p.1 p.2 s).2
        simp only [if_neg (not_not.mpr hret)]
        refine ⟨_ :: copies, p :: done, rest, ?_, by rw [hplan]; rfl, .cons hcopy hall, ?_, hrest⟩
        · rw [hcalls, callCopy, List.append_assoc]
          rfl
        · rw [hiff]
          simp [Call.ret, hret]
      · simp only [if_pos hret]
        refine ⟨[_], [p], plan, rfl, rfl, .cons hcopy .nil, ?_, fun h => absurd h (by simp)⟩
        simp only [Bool.false_eq_true, List.mem_singleton, forall_eq, false_iff]
        exact hret

/-! ### Where the images of an accepted layout lie -/

lemma parseResult_inside {b : Buf} {n : ℕ} {l₀ l : Layout} (h : parseResult b n l₀ = (0, l)) :
    ∀ p ∈ copyPlan l, p.2.offset + p.2.size ≤ n := by
  obtain ⟨k, hfip, rfl⟩ := (parseResult_eq_zero_iff l₀).mp h
  obtain ⟨hscp, hbl31, hbl33, hhw⟩ := walkState_image_le (b := b) (n := n) (k := k) fun j hj =>
    (hfip.fit.stop j hj).trans hfip.fit.declared.2
  intro p hp
  simp only [copyPlan, List.mem_append, List.mem_cons, List.not_mem_nil, or_false] at hp
  rcases hp with ((rfl | rfl) | hp) | rfl
  · exact hbl31
  · exact hbl33
  · split at hp
    · rw [List.mem_singleton.mp hp]
      exact hhw
    · exact absurd hp (by simp)
  · exact hscp

/-! ### Callbacks that do not look at the old staging buffer -/

/-- Callbacks that treat related worlds alike, where related worlds may differ in
the staging buffer: a read returns the same value and, when it succeeds, has filled
the sectors asked for with the same bytes; a copy that is given the same bytes
returns the same value and leaves them alone. -/
structure Host.Oblivious (h : Host σ) (R : σ → σ → Prop) : Prop where
  read : ∀ staging read, h.staging = some staging → h.read = some read →
    ∀ start count w w', R w w' →
      (read start count w).1 = (read start count w').1 ∧
      R (read start count w).2 (read start count w').2 ∧
      ((read start count w).1 = 1 → ∀ i < 512 * count,
        staging (read start count w).2 i = staging (read start count w').2 i)
  copy : ∀ staging copy, h.staging = some staging → h.copy = some copy →
    ∀ n destination source size w w', R w w' → (∀ i < n, staging w i = staging w' i) →
      source + size ≤ n →
      (copy destination source size w).1 = (copy destination source size w').1 ∧
      R (copy destination source size w).2 (copy destination source size w').2 ∧
      ∀ i < n, staging (copy destination source size w).2 i
        = staging (copy destination source size w').2 i

/-- Two systems in related worlds that have made the same calls. -/
structure Alike (R : σ → σ → Prop) (s t : Sys σ) : Prop where
  world : R s.world t.world
  calls : s.calls = t.calls

section Oblivious

variable {R : σ → σ → Prop} {s t : Sys σ} {h : Host σ}

lemma callRead_oblivious (ho : h.Oblivious R) {staging : σ → ℕ → UInt8}
    {read : ℕ → ℕ → σ → ℤ × σ} (hs : h.staging = some staging) (hr : h.read = some read)
    (start count : ℕ) (hst : Alike R s t) :
    (callRead read start count s).1 = (callRead read start count t).1 ∧
    Alike R (callRead read start count s).2 (callRead read start count t).2 ∧
    ((callRead read start count s).1 = 1 → ∀ i < 512 * count,
      staging (callRead read start count s).2.world i
        = staging (callRead read start count t).2.world i) := by
  obtain ⟨hret, hworld, hfill⟩ := ho.read staging read hs hr start count _ _ hst.world
  refine ⟨hret, ⟨hworld, ?_⟩, hfill⟩
  simp only [callRead, hst.calls, hret]

/-- Related worlds are read alike, and a package that was read is there in both. -/
lemma readImage_oblivious (ho : h.Oblivious R) (start capacity : ℕ) (hst : Alike R s t) :
    (h.readImage start capacity s).1 = (h.readImage start capacity t).1 ∧
    Alike R (h.readImage start capacity s).2 (h.readImage start capacity t).2 ∧
    ∀ staging size, h.staging = some staging → (h.readImage start capacity s).1 = some size →
      ∀ i < size, staging (h.readImage start capacity s).2.world i
        = staging (h.readImage start capacity t).2.world i := by
  rcases hs : h.staging with - | staging
  · simp [Host.readImage, hs, hst]
  rcases hr : h.read with - | read
  · simp [Host.readImage, hs, hr, hst]
  by_cases hcap : capacity < 1536
  · simp [Host.readImage, hs, hr, hcap, hst]
  obtain ⟨hret, hfirst, hfill⟩ := callRead_oblivious ho hs hr start 3 hst
  simp only [Host.readImage, hs, hr, if_neg hcap, ← hret]
  by_cases hone : (callRead read start 3 s).1 = 1
  swap
  · simp [hone, hfirst]
  have hscan : declaredSize ((callRead read start 3 s).2.buf staging capacity) capacity
      = declaredSize ((callRead read start 3 t).2.buf staging capacity) capacity :=
    declaredSize_congr (fun i hi => hfill hone i (by omega)) capacity
  simp only [if_neg (not_not.mpr hone), ← hscan]
  rcases hd : declaredSize ((callRead read start 3 s).2.buf staging capacity) capacity
    with - | size
  · simp [hfirst]
  have hround := (declaredSize_le hd).2
  have hle := le_roundup512 size
  obtain ⟨hret2, hsecond, hfill2⟩ :=
    callRead_oblivious ho hs hr start ((size + 511) / 512) hfirst
  simp only [← hret2]
  by_cases hone2 : (callRead read start ((size + 511) / 512) (callRead read start 3 s).2).1 = 1
  swap
  · simp [hone2, hsecond]
  have hbytes := hfill2 hone2
  have hparse : parseResult ((callRead read start ((size + 511) / 512)
        (callRead read start 3 s).2).2.buf staging capacity) size Layout.zero
      = parseResult ((callRead read start ((size + 511) / 512)
        (callRead read start 3 t).2).2.buf staging capacity) size Layout.zero := by
    refine parseResult_congr ?_ ?_ (fun i hi => hbytes i (by omega)) Layout.zero
    · simp only [Sys.buf]
      omega
    · simp only [Sys.buf]
      omega
  simp only [hone2, true_and, ← hparse]
  split
  · refine ⟨rfl, hsecond, fun staging' size' hs' hsize' i hi => ?_⟩
    obtain rfl := Option.some.inj hs'
    obtain rfl := Option.some.inj hsize'
    exact hbytes i (by omega)
  · exact ⟨rfl, hsecond, fun _ _ _ hsize' => absurd hsize' (by simp)⟩

/-- Related worlds that agree on the package are copied alike. -/
lemma runCopies_oblivious (ho : h.Oblivious R) {staging : σ → ℕ → UInt8}
    {copy : ℕ → ℕ → ℕ → σ → ℤ × σ} (hs : h.staging = some staging) (hc : h.copy = some copy)
    {n : ℕ} (plan : List (ℕ × Image)) (hplan : ∀ p ∈ plan, p.2.offset + p.2.size ≤ n)
    (hst : Alike R s t) (hbytes : ∀ i < n, staging s.world i = staging t.world i) :
    (runCopies staging copy plan s).1 = (runCopies staging copy plan t).1 ∧
    Alike R (runCopies staging copy plan s).2 (runCopies staging copy plan t).2 := by
  induction plan generalizing s t with
  | nil => exact ⟨rfl, hst⟩
  | cons p plan ih =>
      have hp := hplan p List.mem_cons_self
      obtain ⟨hret, hworld, hkeep⟩ := ho.copy staging copy hs hc n p.1 p.2.offset p.2.size _ _
        hst.world hbytes hp
      have hsource : (Buf.mk 0 (staging s.world)).slice p.2.offset p.2.size
          = (Buf.mk 0 (staging t.world)).slice p.2.offset p.2.size :=
        Buf.slice_congr fun i hi => hbytes _ (by omega)
      have halike : Alike R (callCopy staging copy p.1 p.2 s).2
          (callCopy staging copy p.1 p.2 t).2 := by
        refine ⟨hworld, ?_⟩
        simp only [callCopy, hst.calls, hret, hsource]
      have hfst : (callCopy staging copy p.1 p.2 s).1 = (callCopy staging copy p.1 p.2 t).1 := hret
      simp only [runCopies, hfst]
      split
      · exact ⟨rfl, halike⟩
      · exact ih (fun q hq => hplan q (List.mem_cons_of_mem p hq)) halike hkeep

lemma copyImages_oblivious (ho : h.Oblivious R) {size : ℕ} (hsize : size ≤ capacity)
    (hst : Alike R s t)
    (hbytes : ∀ staging, h.staging = some staging → ∀ i < size,
      staging s.world i = staging t.world i) :
    (h.copyImages capacity size s).1 = (h.copyImages capacity size t).1 ∧
    Alike R (h.copyImages capacity size s).2 (h.copyImages capacity size t).2 := by
  cases hc : h.copy with
  | none => simp [Host.copyImages, hc, hst]
  | some copy =>
      cases hs : h.staging with
      | none => simp [Host.copyImages, hs, hc, hst]
      | some staging =>
          have hparse : parseResult (s.buf staging capacity) size Layout.zero
              = parseResult (t.buf staging capacity) size Layout.zero :=
            parseResult_congr hsize hsize (hbytes staging hs) Layout.zero
          simp only [Host.copyImages, hc, hs, ← hparse]
          split
          next hzero =>
            have haccepted : parseResult (s.buf staging capacity) size Layout.zero
                = (0, (parseResult (s.buf staging capacity) size Layout.zero).2) :=
              Prod.ext hzero rfl
            exact runCopies_oblivious ho hs hc _ (parseResult_inside haccepted) hst
              (hbytes staging hs)
          next => exact ⟨rfl, hst⟩

end Oblivious

/-! ### Selecting the candidate -/

/-- The candidate of a load, as sector and size, and the system after the reads: the
package at the primary sector, or else the one at a backup sector that is neither
zero nor the primary one. -/
def Host.candidate (h : Host σ) (primary backup capacity : ℕ) (s : Sys σ) :
    Option (ℕ × ℕ) × Sys σ :=
  match h.readImage primary capacity s with
  | (some size, s) => (some (primary, size), s)
  | (none, s) =>
      if backup = 0 ∨ backup = primary then (none, s)
      else
        match h.readImage backup capacity s with
        | (some size, s) => (some (backup, size), s)
        | (none, s) => (none, s)

/-- A candidate has been read. -/
lemma candidate_read {h : Host σ} {primary backup sector size : ℕ} {s s' : Sys σ}
    (hc : h.candidate primary backup capacity s = (some (sector, size), s')) :
    ∃ s₀, h.readImage sector capacity s₀ = (some size, s') := by
  rw [Host.candidate] at hc
  rcases hp : h.readImage primary capacity s with ⟨- | n, s₁⟩
  · simp only [hp] at hc
    split at hc
    · exact absurd hc (by simp)
    · rcases hb : h.readImage backup capacity s₁ with ⟨- | n, s₂⟩
      · simp [hb] at hc
      · simp only [hb, Prod.mk.injEq, Option.some.injEq] at hc
        obtain ⟨⟨rfl, rfl⟩, rfl⟩ := hc
        exact ⟨s₁, hb⟩
  · simp only [hp, Prod.mk.injEq, Option.some.injEq] at hc
    obtain ⟨⟨rfl, rfl⟩, rfl⟩ := hc
    exact ⟨s, hp⟩

lemma candidate_preserves {P : σ → Prop} {h : Host σ}
    (hP : ∀ read, h.read = some read → ∀ start count w, 512 * count ≤ capacity → P w →
      P (read start count w).2)
    (primary backup : ℕ) {s : Sys σ} (hs : P s.world) :
    P (h.candidate primary backup capacity s).2.world := by
  have hfirst := readImage_preserves hP primary hs
  rw [Host.candidate]
  rcases hp : h.readImage primary capacity s with ⟨- | n, s₁⟩
  · rw [hp] at hfirst
    dsimp only
    split
    · exact hfirst
    · have hsecond := readImage_preserves hP backup hfirst
      rcases hb : h.readImage backup capacity s₁ with ⟨- | n, s₂⟩
      · rwa [hb] at hsecond
      · rwa [hb] at hsecond
  · rwa [hp] at hfirst

lemma sunxiFipReadRedundant_eq (sz : SizeT) (h : Host σ) (primary backup capacity x y : ℕ)
    (s : Sys σ) :
    sunxiFipReadRedundant sz h primary backup capacity (some x) (some y) s
      = match h.candidate primary backup capacity s with
        | (none, s) => some (-1, some 0, some 0, s)
        | (some (sector, size), s) => some (0, some size, some sector, s) := by
  simp only [sunxiFipReadRedundant, sunxiFipReadImage_eq, Host.candidate, Option.bind_eq_bind,
    Option.bind_some]
  rcases hp : h.readImage primary capacity s with ⟨- | n, s₁⟩
  · by_cases hb : backup = 0 ∨ backup = primary
    · simp [hb]
    · rcases hr : h.readImage backup capacity s₁ with ⟨- | n, s₂⟩
      · simp [hb, hr]
      · simp [hb, hr]
  · simp

/-- The load in closed form: the candidate, then its copies. -/
lemma sunxiFipLoadRedundant_eq (sz : SizeT) (h : Host σ) (primary backup capacity x y : ℕ)
    (s : Sys σ) :
    sunxiFipLoadRedundant sz h primary backup capacity (some x) (some y) s
      = match h.candidate primary backup capacity s with
        | (none, s) => some (-1, some 0, some 0, s)
        | (some (sector, size), s) =>
            if (h.copyImages capacity size s).1 then
              some (0, some size, some sector, (h.copyImages capacity size s).2)
            else some (-1, some 0, some 0, (h.copyImages capacity size s).2) := by
  rw [sunxiFipLoadRedundant, sunxiFipReadRedundant_eq]
  rcases hc : h.candidate primary backup capacity s with ⟨- | ⟨sector, size⟩, s₁⟩
  · rfl
  · obtain ⟨s₀, hread⟩ := candidate_read hc
    obtain ⟨-, -, hround, -⟩ := readImage_eq_some hread
    have hle := le_roundup512 size
    have hcopy := sunxiFipCopyImages_eq sz h (show size ≤ capacity by omega) s₁
    simp only [Option.bind_eq_bind, Option.bind_some, Option.getD_some, hcopy]
    rcases (h.copyImages capacity size s₁).1 with - | -
    · rfl
    · rfl

/-- What becomes of a load whose candidate is the validated package of `size` bytes
from `sector`, in the state `s` after it was read: only copies are made, in the order
of the plan and up to the first failure, and the load succeeds, with the candidate's
size and sector, exactly when there is a callback and every copy succeeds. -/
def LoadsFrom (sz : SizeT) (h : Host σ) (sector size : ℕ) (s : Sys σ)
    (out : Option (ℤ × Option ℕ × Option ℕ × Sys σ)) : Prop :=
  ∃ staging l copies done rest s', h.staging = some staging ∧
    sunxiFipParse sz .wrap (some ⟨size, staging s.world⟩) size (some Layout.zero)
      = some (0, some l) ∧
    s'.calls = s.calls ++ copies ∧ copyPlan l = done ++ rest ∧
    List.Forall₂ Call.IsCopyOf copies done ∧
    (h.copy.isSome → (∀ c ∈ copies, c.ret = 0) → rest = []) ∧
    (h.copy.isSome ∧ (∀ c ∈ copies, c.ret = 0) → out = some (0, some size, some sector, s')) ∧
    (¬(h.copy.isSome ∧ ∀ c ∈ copies, c.ret = 0) → out = some (-1, some 0, some 0, s'))

/-- Copying after a successful read behaves as `LoadsFrom` says. -/
lemma loadsFrom_of_readImage (sz : SizeT) {h : Host σ} {sector size : ℕ} {s₀ s : Sys σ}
    (hread : h.readImage sector capacity s₀ = (some size, s)) :
    LoadsFrom sz h sector size s (do
      let (ret, s) ← sunxiFipCopyImages sz h capacity size s
      if ret ≠ 0 then return (-1, some 0, some 0, s) else return (0, some size, some sector, s)) := by
  obtain ⟨staging, hstaging, hround, hparse⟩ := readImage_eq_some hread
  have hle := le_roundup512 size
  obtain ⟨l, hl⟩ := (sunxiFipParse_zero_iff sz .wrap
    (show size ≤ (Buf.mk size (staging s.world)).size from le_rfl) Layout.zero).mpr hparse
  have hresult : parseResult (s.buf staging capacity) size Layout.zero = (0, l) := by
    have hcongr : parseResult (s.buf staging capacity) size Layout.zero
        = parseResult ⟨size, staging s.world⟩ size Layout.zero :=
      parseResult_congr (b := s.buf staging capacity) (c := ⟨size, staging s.world⟩)
        (by simp only [Sys.buf]; omega) le_rfl (fun _ _ => rfl) Layout.zero
    rw [sunxiFipParse_eq sz .wrap (b := ⟨size, staging s.world⟩) le_rfl, Option.some.injEq,
      Prod.mk.injEq, Option.some.injEq] at hl
    rw [hcongr]
    exact Prod.ext hl.1 hl.2
  rw [sunxiFipCopyImages_eq sz h (show size ≤ capacity by omega)]
  cases hcopy : h.copy with
  | none =>
      have hnone : h.copyImages capacity size s = (false, s) := by simp [Host.copyImages, hcopy]
      refine ⟨staging, l, [], [], copyPlan l, s, hstaging, hl, by simp, rfl, .nil, ?_, ?_, ?_⟩
      · simp [hcopy]
      · simp [hcopy]
      · intro _
        rw [hnone]
        rfl
  | some copy =>
      have hrun : h.copyImages capacity size s = runCopies staging copy (copyPlan l) s := by
        simp [Host.copyImages, hcopy, hstaging, hresult]
      obtain ⟨copies, done, rest, hcalls, hplan, hall, hiff, hrest⟩ :=
        runCopies_calls staging copy (copyPlan l) s
      rw [hrun]
      refine ⟨staging, l, copies, done, rest, _, hstaging, hl, hcalls, hplan, hall,
        fun _ hok => hrest (hiff.mpr hok), fun hok => ?_, fun hno => ?_⟩
      · rw [hiff.mpr hok.2]
        rfl
      · have hfalse : (runCopies staging copy (copyPlan l) s).1 = false := by
          rw [← Bool.not_eq_true, hiff]
          exact fun hok => hno ⟨by simp [hcopy], hok⟩
        rw [hfalse]
        rfl

/-- A read that returned zero computed a size, any other none. -/
lemma readImage_of_return {sz : SizeT} {h : Host σ} {sector x size : ℕ} {ret : ℤ} {s s' : Sys σ}
    (hread : sunxiFipReadImage sz h sector capacity (some x) s = some (ret, some size, s')) :
    (ret = 0 → h.readImage sector capacity s = (some size, s')) ∧
    (ret ≠ 0 → h.readImage sector capacity s = (none, s')) := by
  rw [sunxiFipReadImage_eq] at hread
  rcases hr : h.readImage sector capacity s with ⟨- | size', s''⟩
  · simp only [hr, Option.some.injEq, Prod.mk.injEq] at hread
    obtain ⟨rfl, -, rfl⟩ := hread
    exact ⟨fun h0 => absurd h0 (by decide), fun _ => rfl⟩
  · simp only [hr, Option.some.injEq, Prod.mk.injEq] at hread
    obtain ⟨rfl, rfl, rfl⟩ := hread
    exact ⟨fun _ => rfl, fun h0 => absurd rfl h0⟩

/-- One attempt at a sector: the read, and the copies when it succeeds. -/
def loadAttempt (sz : SizeT) (h : Host σ) (sector capacity : ℕ) (s : Sys σ) :
    Option (ℤ × Option ℕ × Sys σ) := do
  let (ret, size, s) ← sunxiFipReadImage sz h sector capacity (some 0) s
  if ret ≠ 0 then return (-1, size, s)
  else
    let (ret, s) ← sunxiFipCopyImages sz h capacity (size.getD 0) s
    return (ret, size, s)

/-- Attempts in related worlds return the same and make the same calls, with the
same source bytes. -/
lemma loadAttempt_oblivious (sz : SizeT) {h : Host σ} {R : σ → σ → Prop} (ho : h.Oblivious R)
    (sector capacity : ℕ) {s t : Sys σ} (hst : Alike R s t) :
    ∃ ret size s' t', loadAttempt sz h sector capacity s = some (ret, size, s') ∧
      loadAttempt sz h sector capacity t = some (ret, size, t') ∧ s'.calls = t'.calls := by
  obtain ⟨hret, halike, hbytes⟩ := readImage_oblivious ho sector capacity hst
  simp only [loadAttempt, sunxiFipReadImage_eq, Option.bind_eq_bind, Option.bind_some, ← hret]
  cases hr : (h.readImage sector capacity s).1 with
  | none => exact ⟨-1, some 0, _, _, rfl, rfl, halike.calls⟩
  | some size =>
      have hread : h.readImage sector capacity s = (some size, (h.readImage sector capacity s).2) :=
        Prod.ext hr rfl
      obtain ⟨-, -, hround, -⟩ := readImage_eq_some hread
      have hle := le_roundup512 size
      have hsize : size ≤ capacity := by omega
      obtain ⟨hcopied, hcopies⟩ := copyImages_oblivious ho hsize halike
        fun staging hs => hbytes staging size hs hr
      simp only [Option.isSome_some, if_true, Option.getD_some, ne_eq, not_true_eq_false, if_false,
        sunxiFipCopyImages_eq sz h hsize, Option.bind_some, ← hcopied]
      exact ⟨_, _, _, _, rfl, rfl, hcopies.calls⟩

/-- **Redundant boot selection.** Every attempt returns and reads its own sector
only. A package validated at the primary sector is the candidate; otherwise, with a
backup sector that is neither zero nor the primary one, a package validated there;
otherwise the load fails. A candidate is loaded as `LoadsFrom` says, a failed load
leaves zeros, and the outcome of an attempt does not depend on what was in the
staging buffer before it. -/
theorem sunxiFipLoadRedundant_selects (sz : SizeT) (h : Host σ) (primary backup capacity x y : ℕ)
    (s : Sys σ) :
    (∀ sector s₁, ∃ ret size s₂ reads,
      sunxiFipReadImage sz h sector capacity (some 0) s₁ = some (ret, some size, s₂) ∧
      s₂.calls = s₁.calls ++ reads ∧ ∀ c ∈ reads, ∃ count r, c = Call.read sector count r) ∧
    (∀ size s₁, sunxiFipReadImage sz h primary capacity (some 0) s = some (0, some size, s₁) →
      LoadsFrom sz h primary size s₁
        (sunxiFipLoadRedundant sz h primary backup capacity (some x) (some y) s)) ∧
    (∀ ret size s₁, sunxiFipReadImage sz h primary capacity (some 0) s = some (ret, some size, s₁) →
      ret ≠ 0 →
      (backup = 0 ∨ backup = primary →
        sunxiFipLoadRedundant sz h primary backup capacity (some x) (some y) s
          = some (-1, some 0, some 0, s₁)) ∧
      (backup ≠ 0 → backup ≠ primary →
        (∀ size s₂, sunxiFipReadImage sz h backup capacity (some 0) s₁ = some (0, some size, s₂) →
          LoadsFrom sz h backup size s₂
            (sunxiFipLoadRedundant sz h primary backup capacity (some x) (some y) s)) ∧
        (∀ ret size s₂, sunxiFipReadImage sz h backup capacity (some 0) s₁
            = some (ret, some size, s₂) → ret ≠ 0 →
          sunxiFipLoadRedundant sz h primary backup capacity (some x) (some y) s
            = some (-1, some 0, some 0, s₂)) ∧
        sunxiFipLoadRedundant sz h primary backup capacity (some x) (some y) s
          = (loadAttempt sz h backup capacity s₁).map fun r =>
              if r.1 = 0 then (0, r.2.1, some backup, r.2.2) else (-1, some 0, some 0, r.2.2))) ∧
    (∀ R : σ → σ → Prop, h.Oblivious R → ∀ s₁ s₂, Alike R s₁ s₂ →
      ∃ ret size t₁ t₂, loadAttempt sz h backup capacity s₁ = some (ret, size, t₁) ∧
        loadAttempt sz h backup capacity s₂ = some (ret, size, t₂) ∧ t₁.calls = t₂.calls) := by
  refine ⟨fun sector s₁ => ?_, fun size s₁ hp => ?_, fun ret size s₁ hp hne => ⟨fun hb => ?_,
    fun hb0 hbp => ⟨fun size₂ s₂ hb => ?_, fun ret₂ size₂ s₂ hb hne₂ => ?_, ?_⟩⟩,
    fun R ho s₁ s₂ hst => loadAttempt_oblivious sz ho backup capacity hst⟩
  · obtain ⟨reads, hcalls, hreads⟩ := readImage_calls h sector capacity s₁
    refine ⟨_, _, _, reads, sunxiFipReadImage_eq sz h sector capacity 0 s₁, hcalls, fun c hc => ?_⟩
    obtain ⟨count, r, rfl, -⟩ := hreads c hc
    exact ⟨count, r, rfl⟩
  · have hload := loadsFrom_of_readImage sz ((readImage_of_return hp).1 rfl)
    simpa [sunxiFipLoadRedundant, sunxiFipReadRedundant, hp] using hload
  · have hzero := (readImage_of_return hp).2 hne
    simp [sunxiFipLoadRedundant, sunxiFipReadRedundant, sunxiFipReadImage_eq, hzero, hb]
  · have hzero := (readImage_of_return hp).2 hne
    have hload := loadsFrom_of_readImage sz ((readImage_of_return hb).1 rfl)
    simpa [sunxiFipLoadRedundant, sunxiFipReadRedundant, sunxiFipReadImage_eq, hzero, hb0, hbp,
      (readImage_of_return hb).1 rfl] using hload
  · have hzero := (readImage_of_return hp).2 hne
    have hzero₂ := (readImage_of_return hb).2 hne₂
    simp [sunxiFipLoadRedundant, sunxiFipReadRedundant, sunxiFipReadImage_eq, hzero, hb0, hbp,
      hzero₂]
  · have hzero := (readImage_of_return hp).2 hne
    simp only [sunxiFipLoadRedundant, sunxiFipReadRedundant, loadAttempt, sunxiFipReadImage_eq,
      hzero, Option.bind_eq_bind, Option.bind_some, hb0, hbp]
    rcases hr : h.readImage backup capacity s₁ with ⟨- | size₂, s₂⟩
    · rfl
    · obtain ⟨-, -, hround, -⟩ := readImage_eq_some hr
      have hle := le_roundup512 size₂
      have hcopy := sunxiFipCopyImages_eq sz h (show size₂ ≤ capacity by omega) s₂
      rcases hc : (h.copyImages capacity size₂ s₂).1 with - | -
      · simp [hcopy, hc]
      · simp [hcopy, hc]

lemma diskHost_oblivious (disk : ℕ → UInt8) : (diskHost disk).Oblivious fun _ _ => True where
  read := by
    rintro staging read ⟨⟩ ⟨⟩ start count w w' -
    refine ⟨rfl, trivial, fun _ i hi => ?_⟩
    simp only [id, if_pos hi]
  copy := by
    rintro staging copy ⟨⟩ ⟨⟩ n destination source size w w' - hbytes -
    exact ⟨rfl, trivial, hbytes⟩

/-- With the sample package at the primary sector of a disk, the load takes it from
there; and what it does does not depend on the staging buffer it starts with. -/
theorem sunxiFipLoadRedundant_samplePackage :
    (∃ s₁, sunxiFipReadImage .bits32 (diskHost samplePackage.byte) 0 0x200000 (some 0)
        ⟨fun _ => 0, []⟩ = some (0, some 7456, s₁) ∧
      LoadsFrom .bits32 (diskHost samplePackage.byte) 0 7456 s₁
        (sunxiFipLoadRedundant .bits32 (diskHost samplePackage.byte) 0 0 0x200000 (some 7) (some 7)
          ⟨fun _ => 0, []⟩)) ∧
    ∃ ret size t₁ t₂,
      loadAttempt .bits32 (diskHost samplePackage.byte) 0 0x200000 ⟨fun _ => 0, []⟩
        = some (ret, size, t₁) ∧
      loadAttempt .bits32 (diskHost samplePackage.byte) 0 0x200000 ⟨fun _ => 0xff, []⟩
        = some (ret, size, t₂) ∧ t₁.calls = t₂.calls := by
  have hread : ((diskHost samplePackage.byte).readImage 0 0x200000 ⟨fun _ => 0, []⟩).1 = some 7456 := by
    rw [readImage_iff_parse (diskHost_readsDisk _) (by decide), diskFrom_samplePackage,
      parseResult_samplePackage]
    exact ⟨⟨4, samplePackage_firstNull⟩, by decide, rfl⟩
  obtain ⟨s₁, hs₁⟩ := (sunxiFipReadImage_zero_iff .bits32 (diskHost samplePackage.byte) 0 0 7456
    ⟨fun _ => 0, []⟩).mpr hread
  obtain ⟨-, hprimary, -, hindep⟩ := sunxiFipLoadRedundant_selects .bits32
    (diskHost samplePackage.byte) 0 0 0x200000 7 7 ⟨fun _ => 0, []⟩
  exact ⟨⟨s₁, hs₁, hprimary 7456 s₁ hs₁⟩,
    hindep _ (diskHost_oblivious _) ⟨fun _ => 0, []⟩ ⟨fun _ => 0xff, []⟩ ⟨trivial, rfl⟩⟩

end A733Boot.Fip
