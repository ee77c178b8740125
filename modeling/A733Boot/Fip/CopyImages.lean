/-
The copies that `sunxi_fip_copy_images` of `src/sunxi_fip.c` hands to its callback, one by
one, whatever the callback does.

* `CopyCall`, `logged`: a call of the callback, and a callback that keeps a log;
* `StopsAtFirst`: the calls of a plan up to the first that fails;
* `runCopies_logged`: the copies of a plan make exactly these calls;
* `parseResult_hwConfig`: a layout has a hardware configuration if the package does;
* `sunxiFipCopyImages_policy` (**the copies of a package**): which calls are made, with
  which ranges of the package, and what is returned.
-/
import A733Boot.Fip.Redundant

namespace A733Boot.Fip

/-! ### Calls and their log -/

/-- A call of the callback: the destination, the range of the package, and what was returned. -/
structure CopyCall where
  destination : ℕ
  offset : ℕ
  size : ℕ
  ret : ℤ
deriving DecidableEq

/-- The call hands over the image of `p` to its destination. -/
def CopyCall.IsOf (c : CopyCall) (p : ℕ × Image) : Prop :=
  c.destination = p.1 ∧ c.offset = p.2.offset ∧ c.size = p.2.size

/-- The calls of a plan, up to and including the first that fails. -/
inductive StopsAtFirst : List (ℕ × Image) → List CopyCall → Prop
  | done : StopsAtFirst [] []
  | failed {p : ℕ × Image} {c : CopyCall} (plan : List (ℕ × Image)) (hc : c.IsOf p)
      (hret : c.ret ≠ 0) : StopsAtFirst (p :: plan) [c]
  | copied {p : ℕ × Image} {c : CopyCall} {plan : List (ℕ × Image)} {calls : List CopyCall}
      (hc : c.IsOf p) (hret : c.ret = 0) (h : StopsAtFirst plan calls) :
      StopsAtFirst (p :: plan) (c :: calls)

section Calls

variable {σ : Type}

/-- The callback `copy`, with a log of its calls. -/
def logged (copy : ℕ → ℕ → ℕ → σ → ℤ × σ) (destination offset size : ℕ)
    (w : σ × List CopyCall) : ℤ × σ × List CopyCall :=
  let r := copy destination offset size w.1
  (r.1, r.2, w.2 ++ [⟨destination, offset, size, r.1⟩])

/-- The window of a destination. -/
def windowSize (destination : ℕ) : ℕ :=
  if destination = sunxiFipBl31Base then sunxiFipBl31MaxSize
  else if destination = sunxiFipBl33Base then sunxiFipBl33MaxSize
  else if destination = sunxiFipHwConfigBase then sunxiFipHwConfigMaxSize
  else sunxiFipScpBl2MaxSize

/-- The copies of a plan make its calls up to the first that fails, and succeed if none does. -/
lemma runCopies_logged (staging : σ × List CopyCall → ℕ → UInt8)
    (copy : ℕ → ℕ → ℕ → σ → ℤ × σ) (plan : List (ℕ × Image)) (s : Sys (σ × List CopyCall)) :
    ∃ calls, (runCopies staging (logged copy) plan s).2.world.2 = s.world.2 ++ calls ∧
      StopsAtFirst plan calls ∧
      ((runCopies staging (logged copy) plan s).1 = true ↔ ∀ c ∈ calls, c.ret = 0) := by
  induction plan generalizing s with
  | nil => exact ⟨[], (List.append_nil _).symm, .done, by simp [runCopies]⟩
  | cons p plan ih =>
      have hlog : (callCopy staging (logged copy) p.1 p.2 s).2.world.2 = s.world.2 ++
          [⟨p.1, p.2.offset, p.2.size, (callCopy staging (logged copy) p.1 p.2 s).1⟩] := rfl
      rw [runCopies]
      by_cases hret : (callCopy staging (logged copy) p.1 p.2 s).1 = 0
      · obtain ⟨calls, hcalls, hstops, hall⟩ := ih (callCopy staging (logged copy) p.1 p.2 s).2
        simp only [if_neg (not_not.mpr hret)]
        refine ⟨⟨p.1, p.2.offset, p.2.size, (callCopy staging (logged copy) p.1 p.2 s).1⟩ :: calls,
          ?_, .copied ⟨rfl, rfl, rfl⟩ hret hstops, ?_⟩
        · rw [hcalls, hlog, List.append_assoc]
          rfl
        · rw [hall]
          simp [hret]
      · simp only [if_pos hret]
        refine ⟨_, hlog, .failed plan ⟨rfl, rfl, rfl⟩ hret, ?_⟩
        simp only [Bool.false_eq_true, List.mem_singleton, forall_eq, false_iff]
        exact hret

variable {plan : List (ℕ × Image)} {calls : List CopyCall}

/-- Every call is one of the plan. -/
lemma StopsAtFirst.mem (h : StopsAtFirst plan calls) {c : CopyCall} (hc : c ∈ calls) :
    ∃ p ∈ plan, c.IsOf p := by
  induction h with
  | done => exact absurd hc List.not_mem_nil
  | failed plan hp _ => exact ⟨_, List.mem_cons_self, List.mem_singleton.mp hc ▸ hp⟩
  | copied hp _ _ ih =>
      rcases List.mem_cons.mp hc with rfl | hc
      · exact ⟨_, List.mem_cons_self, hp⟩
      · obtain ⟨p, hp, hcp⟩ := ih hc
        exact ⟨p, List.mem_cons_of_mem _ hp, hcp⟩

/-- A call of the last copy of a plan comes after all others have succeeded. -/
lemma StopsAtFirst.last {p₀ : ℕ × Image} (h : StopsAtFirst (plan ++ [p₀]) calls)
    (hfresh : ∀ p ∈ plan, p.1 ≠ p₀.1) {c : CopyCall} (hc : c ∈ calls)
    (hdestination : c.destination = p₀.1) :
    ∀ p ∈ plan, ∃ c' ∈ calls, c'.IsOf p ∧ c'.ret = 0 := by
  induction plan generalizing calls with
  | nil => exact fun p hp => absurd hp List.not_mem_nil
  | cons p plan ih =>
      intro p' hp'
      cases h with
      | failed _ hp _ =>
          rw [List.mem_singleton.mp hc] at hdestination
          exact absurd (hp.1.symm.trans hdestination) (hfresh p List.mem_cons_self)
      | @copied _ d _ calls hp hret h =>
          have hc' : c ∈ calls := by
            rcases List.mem_cons.mp hc with rfl | hc
            · exact absurd (hp.1.symm.trans hdestination) (hfresh p List.mem_cons_self)
            · exact hc
          rcases List.mem_cons.mp hp' with rfl | hp'
          · exact ⟨d, List.mem_cons_self, hp, hret⟩
          · obtain ⟨c', hmem, hof⟩ :=
              ih h (fun p hp => hfresh p (List.mem_cons_of_mem _ hp)) hc' p' hp'
            exact ⟨c', List.mem_cons_of_mem _ hmem, hof⟩

end Calls

/-! ### The images of an accepted package -/

section Accepted

variable {b : Buf} {n : ℕ} {l : Layout}

/-- A layout has a hardware configuration if the package does. -/
lemma parseResult_hwConfig {l₀ : Layout} (h : parseResult b n l₀ = (0, l)) :
    ∃ k, IsFipOf b n k ∧ IsLayout b k l ∧
      (l.hwConfig.size ≠ 0 ↔ ∃ i < k, uuidAt b i = hwConfigUuid) := by
  obtain ⟨k, hfip, rfl⟩ := (parseResult_eq_zero_iff l₀).mp h
  have hlayout := walkState_isLayout hfip.toc.distinct
  refine ⟨k, hfip, hlayout, fun hne => ?_, ?_⟩
  · by_contra hno
    have habsent := hlayout.absent .hwConfig fun i hi hu => hno ⟨i, hi, hu⟩
    exact hne (congrArg Image.size habsent)
  · rintro ⟨i, hi, hu⟩
    have hpresent := congrArg Image.size (hlayout.present .hwConfig i hi hu)
    exact fun hzero => hfip.fit.nonempty i hi (hpresent.symm.trans hzero)

/-- Every image of an accepted package is there, and fits its window. -/
lemma copyPlan_size {l₀ : Layout} (h : parseResult b n l₀ = (0, l)) {p : ℕ × Image}
    (hp : p ∈ copyPlan l) : p.2.size ≠ 0 ∧ p.2.size ≤ windowSize p.1 := by
  obtain ⟨hbl31, hbl33, hscp, hhw, hscpOk, hbl31Ok, hbl33Ok⟩ := (parseResult_loadable h).1
  have h31 : l.bl31.size ≠ 0 := Nat.ne_of_gt (Nat.lt_of_lt_of_le (by decide) hbl31Ok.1)
  have h33 : l.bl33.size ≠ 0 := Nat.ne_of_gt (Nat.lt_of_lt_of_le (by decide) hbl33Ok.1)
  have hs : l.scpBl2.size ≠ 0 := Nat.ne_of_gt (Nat.lt_of_lt_of_le (by decide) hscpOk.1.2)
  simp only [copyPlan, List.mem_append, List.mem_cons, List.not_mem_nil, or_false] at hp
  rcases hp with ((rfl | rfl) | hp) | rfl
  · exact ⟨h31, hbl31⟩
  · exact ⟨h33, hbl33⟩
  · split at hp
    next hne =>
      rw [List.mem_singleton.mp hp]
      exact ⟨hne, hhw⟩
    next => exact absurd hp List.not_mem_nil
  · exact ⟨hs, hscp⟩

/-- The plan without its last copy. -/
lemma copyPlan_eq (l : Layout) :
    ∃ plan, copyPlan l = plan ++ [(sunxiFipScpBl2Base, l.scpBl2)] ∧
      ∀ p ∈ plan, p.1 ≠ sunxiFipScpBl2Base := by
  have h31 : sunxiFipBl31Base ≠ sunxiFipScpBl2Base := by decide
  have h33 : sunxiFipBl33Base ≠ sunxiFipScpBl2Base := by decide
  have hhw : sunxiFipHwConfigBase ≠ sunxiFipScpBl2Base := by decide
  refine ⟨_, rfl, fun p hp => ?_⟩
  simp only [List.mem_append, List.mem_cons, List.not_mem_nil, or_false] at hp
  rcases hp with (rfl | rfl) | hp
  · exact h31
  · exact h33
  · split at hp
    next => exact List.mem_singleton.mp hp ▸ hhw
    next => exact absurd hp List.not_mem_nil

end Accepted

/-! ### The copies of a package -/

/-- What `sunxi_fip_copy_images` does with the accepted layout `l` of the first `n` bytes of `b`,
with the calls it makes and what it returns. -/
structure CopyPolicy (b : Buf) (n : ℕ) (l : Layout) (calls : List CopyCall) (ret : ℤ) : Prop where
  layout : ∃ k, IsFipOf b n k ∧ IsLayout b k l ∧
    (l.hwConfig.size ≠ 0 ↔ ∃ i < k, uuidAt b i = hwConfigUuid)
  stops : StopsAtFirst (copyPlan l) calls
  ret : ret = if ∀ c ∈ calls, c.ret = 0 then 0 else -1
  sizes : ∀ c ∈ calls, c.size ≠ 0 ∧ c.size ≤ windowSize c.destination
  scpLast : ∀ c ∈ calls, c.destination = sunxiFipScpBl2Base →
    ∀ p ∈ copyPlan l, p.1 ≠ sunxiFipScpBl2Base → ∃ c' ∈ calls, c'.IsOf p ∧ c'.ret = 0

/-- **The copies of a package**: whatever the callback does, a package that the parse rejects is
not copied and `-1` is returned; of an accepted one, the copies of BL31, BL33, the hardware
configuration if it has one, and SCP_BL2 are made up to and including the first that fails, the
last of them after all others have succeeded, and `0` is returned if none has failed. -/
theorem sunxiFipCopyImages_policy {σ : Type} (sz : SizeT) (staging : Option (σ → ℕ → UInt8))
    (copy : ℕ → ℕ → ℕ → σ → ℤ × σ) (size spare : ℕ) (w : σ) :
    ∃ ret w' calls past,
      sunxiFipCopyImages sz ⟨staging.map fun st w => st w.1, none, some (logged copy)⟩
        (size + spare) size ⟨(w, []), []⟩ = some (ret, ⟨(w', calls), past⟩) ∧
      ((∀ l, sunxiFipParse sz .wrap (staging.map fun st => ⟨size + spare, st w⟩) size
          (some Layout.zero) ≠ some (0, some l)) → ret = -1 ∧ calls = []) ∧
      ∀ b l, staging.map (fun st => (⟨size + spare, st w⟩ : Buf)) = some b →
        sunxiFipParse sz .wrap (some b) size (some Layout.zero) = some (0, some l) →
        CopyPolicy b size l calls ret := by
  cases staging with
  | none =>
      refine ⟨-1, w, [], [], rfl, fun _ => ⟨rfl, rfl⟩, fun b l hb => ?_⟩
      cases hb
  | some st =>
      have hsize : size ≤ size + spare := Nat.le_add_right size spare
      have hparse := sunxiFipParse_eq sz .wrap (b := ⟨size + spare, st w⟩) hsize Layout.zero
      have hcopy := sunxiFipCopyImages_eq sz
        ⟨some fun w : σ × List CopyCall => st w.1, none, some (logged copy)⟩ hsize ⟨(w, []), []⟩
      have himages : Host.copyImages
          ⟨some fun w : σ × List CopyCall => st w.1, none, some (logged copy)⟩ (size + spare) size
            ⟨(w, []), []⟩ =
          if (parseResult ⟨size + spare, st w⟩ size Layout.zero).1 = 0 then
            runCopies (fun w => st w.1) (logged copy)
              (copyPlan (parseResult ⟨size + spare, st w⟩ size Layout.zero).2) ⟨(w, []), []⟩
          else (false, ⟨(w, []), []⟩) := rfl
      by_cases haccepted : (parseResult ⟨size + spare, st w⟩ size Layout.zero).1 = 0
      · obtain ⟨calls, hcalls, hstops, hall⟩ := runCopies_logged (fun w => st w.1) copy
          (copyPlan (parseResult ⟨size + spare, st w⟩ size Layout.zero).2) ⟨(w, []), []⟩
        rw [himages, if_pos haccepted] at hcopy
        generalize runCopies (fun w => st w.1) (logged copy)
          (copyPlan (parseResult ⟨size + spare, st w⟩ size Layout.zero).2) ⟨(w, []), []⟩ = r
          at hcalls hall hcopy
        obtain ⟨ok, ⟨w', log⟩, past⟩ := r
        obtain rfl : log = calls := hcalls
        refine ⟨_, w', log, past, hcopy, fun hrejected => ?_, fun b l hb hl => ?_⟩
        · exact absurd (haccepted ▸ hparse) (hrejected _)
        · obtain rfl := Option.some_inj.mp hb
          have hresult : parseResult ⟨size + spare, st w⟩ size Layout.zero = (0, l) := by
            rw [hparse] at hl
            exact Prod.ext haccepted (Option.some_inj.mp (Prod.mk.inj (Option.some_inj.mp hl)).2)
          rw [hresult] at hstops
          refine ⟨parseResult_hwConfig hresult, hstops, if_congr hall rfl rfl, fun c hc => ?_,
            fun c hc hdestination p hp hne => ?_⟩
          · obtain ⟨p, hp, hdst, _, hlen⟩ := hstops.mem hc
            rw [hdst, hlen]
            exact copyPlan_size hresult hp
          · obtain ⟨plan, hplan, hfresh⟩ := copyPlan_eq l
            rw [hplan] at hstops hp
            refine hstops.last hfresh hc hdestination p ?_
            rcases List.mem_append.mp hp with hp | hp
            · exact hp
            · exact absurd (congrArg Prod.fst (List.mem_singleton.mp hp)) hne
      · rw [himages, if_neg haccepted] at hcopy
        refine ⟨-1, w, [], [], hcopy, fun _ => ⟨rfl, rfl⟩, fun b l hb hl => ?_⟩
        obtain rfl := Option.some_inj.mp hb
        rw [hparse] at hl
        exact absurd (Prod.mk.inj (Option.some_inj.mp hl)).1 haccepted

end A733Boot.Fip
