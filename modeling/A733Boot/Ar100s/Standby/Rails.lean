/-
The power rails in standby: `dm_restore_off_rails`, `dm_power_off_mask`, `dm_suspend` and
`dm_resume` of `ar100s/service/standby/standby-sun60iw2p1/plat_standby.c`.

The order array, the count and the mask say the same thing three times. `Tracks` is what
they have to agree on, the list of the rails that are off in the order they were switched
off, and each command to the PMU changes that list in one way.

* `Tracks.failed`, `Tracks.switchedOn`, `Tracks.switchedOff`: the three things a command can do;
* `restoreLoop_spec`, `powerOffLoop_spec`: what the two loops do to the list;
* `dmRestoreOffRails_spec`, `dmSuspend_spec`: the commands of a restore and of a suspend;
* `rails_stack` (**the stack of rails**): over every run of suspends and resumes.
-/
import A733Boot.Library.Words
import A733Boot.Ar100s.Error
import Mathlib.Data.List.Nodup
import Mathlib.Data.Finset.Card

namespace A733Boot.Ar100s.Standby

/-! ### The code -/

def axpPowerMax : ℕ := 32

/-- A command to the PMU: the rail, whether it is to be on, and what
`pmu_set_voltage_state` returned. -/
structure Command where
  rail : ℕ
  on : Bool
  ret : ℤ
deriving DecidableEq

/-- The static variables of the rails, `dm_off_order`, `dm_off_count` and `dm_off_mask`,
with every command sent to the PMU so far, and how often `dm_power_off_mask` was called. -/
structure Rails where
  offOrder : ℕ → ℕ
  offCount : ℕ
  offMask : UInt32
  commands : List Command
  offCalls : ℕ

/-- The rails at reset. -/
def Rails.init : Rails := ⟨fun _ => 0, 0, 0, [], 0⟩

/-- The first `n` entries of an array. -/
def entries (a : ℕ → ℕ) (n : ℕ) : List ℕ := (List.range n).map a

/-- The rails that are recorded as off, in the order they were switched off. -/
def Rails.order (s : Rails) : List ℕ := entries s.offOrder s.offCount

/-- The answers of the PMU: what it returns for the next command after a history. -/
abbrev Pmu := List Command → ℕ → Bool → ℤ

section Code

variable (pmu : Pmu)

def pmuSetVoltageState (type : ℕ) (on : Bool) (s : Rails) : ℤ × Rails :=
  let ret := pmu s.commands type on
  (ret, { s with commands := s.commands ++ [⟨type, on, ret⟩] })

/-- The loop of `dm_restore_off_rails` over the `n` rails that are left: the last of them
is switched on, and goes to `failed_order` if that fails. -/
def restoreLoop : ℕ → Rails → (ℕ → ℕ) → ℕ → ℤ → Rails × (ℕ → ℕ) × ℕ × ℤ
  | 0, s, failedOrder, failedCount, firstError => (s, failedOrder, failedCount, firstError)
  | n + 1, s, failedOrder, failedCount, firstError =>
      let type := s.offOrder n
      let r := pmuSetVoltageState pmu type true { s with offCount := n }
      if r.1 ≠ 0 then
        restoreLoop n r.2 (Function.update failedOrder failedCount type) (failedCount + 1)
          (if firstError = 0 then r.1 else firstError)
      else
        restoreLoop n { r.2 with offMask := r.2.offMask &&& ~~~(1 <<< UInt32.ofNat type) }
          failedOrder failedCount firstError

def dmRestoreOffRails (s : Rails) : ℤ × Rails :=
  match restoreLoop pmu s.offCount s (fun _ => 0) 0 0 with
  | (s, failedOrder, failedCount, firstError) =>
      (firstError,
        { s with
          offOrder := fun i =>
            if i < failedCount then failedOrder (failedCount - i - 1) else s.offOrder i
          offCount := failedCount })

/-- The loop of `dm_power_off_mask` over the `n` rails from `type` on. -/
def powerOffLoop (mask : UInt32) : ℕ → ℕ → Rails → ℤ × Rails
  | 0, _, s => (0, s)
  | n + 1, type, s =>
      if mask >>> UInt32.ofNat type &&& 1 = 0 ∨ s.offMask >>> UInt32.ofNat type &&& 1 ≠ 0 then
        powerOffLoop mask n (type + 1) s
      else
        let r := pmuSetVoltageState pmu type false s
        if r.1 ≠ 0 then r
        else
          powerOffLoop mask n (type + 1)
            { r.2 with
              offOrder := Function.update r.2.offOrder r.2.offCount type
              offCount := r.2.offCount + 1
              offMask := r.2.offMask ||| 1 <<< UInt32.ofNat type }

def dmPowerOffMask (mask : UInt32) (s : Rails) : ℤ × Rails :=
  powerOffLoop pmu mask axpPowerMax 0 { s with offCalls := s.offCalls + 1 }

/-- Masks are switched off one after the other, up to the first that fails. -/
def powerOffMasks : List UInt32 → Rails → ℤ × Rails
  | [], s => (0, s)
  | mask :: masks, s =>
      let r := dmPowerOffMask pmu mask s
      if r.1 ≠ 0 then r else powerOffMasks masks r.2

/-- The masks of `standby_param`, as far as `dm_suspend` uses them. -/
structure RailMasks where
  vddCpu : UInt32
  vddCpub : UInt32
  vddSys : UInt32
  vccPll : UInt32
  vccIo : UInt32
  vccEfuse : UInt32

/-- The order in which `dm_suspend` takes the masks. -/
def RailMasks.suspendOrder (m : RailMasks) : List UInt32 :=
  [m.vccIo, m.vccEfuse, m.vddCpub, m.vddCpu, m.vddSys, m.vccPll]

def dmSuspend (masks : RailMasks) (s : Rails) : ℤ × Rails :=
  let r := if s.offCount ≠ 0 then dmRestoreOffRails pmu s else (0, s)
  if r.1 ≠ 0 then r
  else
    let r := powerOffMasks pmu masks.suspendOrder { r.2 with offCount := 0, offMask := 0 }
    if r.1 ≠ 0 then (r.1, (dmRestoreOffRails pmu r.2).2) else r

def dmResume (s : Rails) : ℤ × Rails := dmRestoreOffRails pmu s

end Code

/-! ### What the three records agree on -/

/-- The last successful command to the rail switched it off. -/
def lastOff (l : List Command) (t : ℕ) : Bool :=
  l.foldl (fun off c => if c.rail = t ∧ c.ret = 0 then !c.on else off) false

lemma lastOff_concat (l : List Command) (c : Command) (t : ℕ) :
    lastOff (l ++ [c]) t = if c.rail = t ∧ c.ret = 0 then !c.on else lastOff l t := by
  rw [lastOff, List.foldl_append]
  rfl

/-- The rails of `l` are those of the mask, and those whose last successful command
switched them off. -/
structure Tracks (l : List ℕ) (mask : UInt32) (commands : List Command) : Prop where
  nodup : l.Nodup
  bound : ∀ t ∈ l, t < axpPowerMax
  mask : ∀ t < axpPowerMax, t ∈ l ↔ bit mask t = true
  off : ∀ t, t ∈ l ↔ lastOff commands t = true

namespace Tracks

variable {l l' : List ℕ} {mask : UInt32} {commands : List Command} {c : Command}

lemma length_le (h : Tracks l mask commands) : l.length ≤ axpPowerMax := by
  have hsub : l.toFinset ⊆ Finset.range axpPowerMax := by
    intro t ht
    exact Finset.mem_range.mpr (h.bound t (List.mem_toFinset.mp ht))
  have hcard := Finset.card_le_card hsub
  rwa [List.toFinset_card_of_nodup h.nodup, Finset.card_range] at hcard

/-- A command that failed changes nothing. -/
lemma failed (h : Tracks l mask commands) (hret : c.ret ≠ 0) :
    Tracks l mask (commands ++ [c]) := by
  refine ⟨h.nodup, h.bound, h.mask, fun t => ?_⟩
  rw [lastOff_concat, if_neg fun hc => hret hc.2]
  exact h.off t

/-- A rail that is switched on leaves the list. -/
lemma switchedOn (h : Tracks (l ++ c.rail :: l') mask commands) (hon : c.on = true)
    (hret : c.ret = 0) :
    Tracks (l ++ l') (mask &&& ~~~(1 <<< UInt32.ofNat c.rail)) (commands ++ [c]) := by
  have hsub : (l ++ l').Sublist (l ++ c.rail :: l') :=
    List.Sublist.append (List.Sublist.refl l) (List.sublist_cons_self c.rail l')
  have hrail : c.rail < axpPowerMax := h.bound c.rail (by simp)
  have hgone : c.rail ∉ l ++ l' := by
    have hnodup := h.nodup
    rw [List.nodup_middle, List.nodup_cons] at hnodup
    exact hnodup.1
  have hmem : ∀ t, t ∈ l ++ l' ↔ t ∈ l ++ c.rail :: l' ∧ t ≠ c.rail := by
    intro t
    constructor
    · exact fun ht => ⟨hsub.subset ht, fun heq => hgone (heq ▸ ht)⟩
    · rintro ⟨ht, hne⟩
      simp only [List.mem_append, List.mem_cons] at ht ⊢
      tauto
  refine ⟨h.nodup.sublist hsub, fun t ht => h.bound t (hsub.subset ht), fun t ht => ?_, fun t => ?_⟩
  · rw [hmem, h.mask t ht, bit_and_not_shiftLeft_one mask hrail ht, Bool.and_eq_true,
      Bool.not_eq_true', decide_eq_false_iff_not]
  · rw [hmem, h.off t, lastOff_concat, hon]
    by_cases ht : c.rail = t
    · rw [if_pos ⟨ht, hret⟩]
      exact ⟨fun hc => absurd ht.symm hc.2, fun hc => Bool.noConfusion hc⟩
    · rw [if_neg fun hc => ht hc.1]
      exact and_iff_left fun hc => ht hc.symm

/-- A rail that is switched off joins the end of the list. -/
lemma switchedOff (h : Tracks l mask commands) (hrail : c.rail < axpPowerMax)
    (hclear : bit mask c.rail = false) (hoff : c.on = false) (hret : c.ret = 0) :
    Tracks (l ++ [c.rail]) (mask ||| 1 <<< UInt32.ofNat c.rail) (commands ++ [c]) := by
  have hnew : c.rail ∉ l := by
    rw [h.mask c.rail hrail, hclear]
    exact Bool.false_ne_true
  refine ⟨?_, fun t ht => ?_, fun t ht => ?_, fun t => ?_⟩
  · rw [← List.concat_eq_append]
    exact h.nodup.concat hnew
  · obtain ht | ht := List.mem_append.mp ht
    · exact h.bound t ht
    · rw [List.mem_singleton.mp ht]
      exact hrail
  · rw [List.mem_append, List.mem_singleton, h.mask t ht, bit_or_shiftLeft_one mask hrail ht,
      Bool.or_eq_true, decide_eq_true_iff]
  · rw [List.mem_append, List.mem_singleton, h.off t, lastOff_concat, hoff]
    by_cases ht : c.rail = t
    · rw [if_pos ⟨ht, hret⟩]
      exact ⟨fun _ => rfl, fun _ => Or.inr ht.symm⟩
    · rw [if_neg fun hc => ht hc.1]
      exact or_iff_left fun hc => ht hc.symm

end Tracks

/-- The records of the rails agree. -/
def Rails.Consistent (s : Rails) : Prop := Tracks s.order s.offMask s.commands

/-! ### Arrays -/

lemma entries_succ (a : ℕ → ℕ) (n : ℕ) : entries a (n + 1) = entries a n ++ [a n] := by
  rw [entries, List.range_succ, List.map_append]
  rfl

lemma length_entries (a : ℕ → ℕ) (n : ℕ) : (entries a n).length = n := by
  rw [entries, List.length_map, List.length_range]

lemma entries_congr {a a' : ℕ → ℕ} {n : ℕ} (h : ∀ i < n, a i = a' i) : entries a n = entries a' n :=
  List.map_congr_left fun i hi => h i (List.mem_range.mp hi)

/-- Storing behind the last entry. -/
lemma entries_update (a : ℕ → ℕ) (n x : ℕ) :
    entries (Function.update a n x) (n + 1) = entries a n ++ [x] := by
  rw [entries_succ, Function.update_self]
  congr 1
  exact entries_congr fun i hi => Function.update_of_ne (by omega) x a

/-- The loop that copies an array back to front. -/
lemma entries_reverse (a b : ℕ → ℕ) (n : ℕ) :
    entries (fun i => if i < n then a (n - i - 1) else b i) n = (entries a n).reverse := by
  refine List.ext_getElem (by rw [List.length_reverse, length_entries, length_entries]) ?_
  intro i hi _
  rw [length_entries] at hi
  simp only [entries, List.getElem_map, List.getElem_range, List.getElem_reverse, List.length_map,
    List.length_range, if_pos hi]
  rw [show n - i - 1 = n - 1 - i by omega]

/-! ### A restore -/

/-- The first error among the answers to a list of commands. -/
def firstError : List Command → ℤ
  | [] => 0
  | c :: l => if c.ret ≠ 0 then c.ret else firstError l

lemma firstError_cons_eq_zero {c : Command} {l : List Command} (h : firstError (c :: l) = 0) :
    c.ret = 0 ∧ firstError l = 0 := by
  rw [firstError] at h
  split_ifs at h with hc
  · exact absurd h hc
  · exact ⟨not_not.mp hc, h⟩

/-- The rails whose command failed. -/
def failedRails (l : List Command) : List ℕ := (l.filter (·.ret ≠ 0)).map Command.rail

/-- A restore from `s` to `s'` by the commands `cmds`: the rails that are off are switched
on, last one first, the failing ones stay, in the old order, and the first error is
returned. -/
structure Restored (s s' : Rails) (ret : ℤ) (cmds : List Command) : Prop where
  commands : s'.commands = s.commands ++ cmds
  rails : cmds.map Command.rail = s.order.reverse
  on : ∀ c ∈ cmds, c.on = true
  kept : s'.order = (failedRails cmds).reverse
  error : ret = firstError cmds
  consistent : s'.Consistent

/-- A part of a restore, from `s` on: the rails of `order` are still to be switched on, those
of `failed` have failed, and `first` is the first error so far. -/
structure RestoresFrom (s : Rails) (order failed : List ℕ) (first : ℤ) (r : Rails × (ℕ → ℕ) × ℕ × ℤ)
    (cmds : List Command) : Prop where
  commands : r.1.commands = s.commands ++ cmds
  rails : cmds.map Command.rail = order.reverse
  on : ∀ c ∈ cmds, c.on = true
  failed : entries r.2.1 r.2.2.1 = failed ++ failedRails cmds
  error : r.2.2.2 = if first = 0 then firstError cmds else first
  tracks : Tracks (entries r.2.1 r.2.2.1).reverse r.1.offMask r.1.commands

/-- One command before the rest. -/
lemma RestoresFrom.cons {s s₁ : Rails} {c : Command} {order failed failed₁ : List ℕ}
    {first first₁ : ℤ}
    {r : Rails × (ℕ → ℕ) × ℕ × ℤ} {cmds : List Command}
    (h : RestoresFrom s₁ order failed₁ first₁ r cmds)
    (hcommand : s₁.commands = s.commands ++ [c]) (hon : c.on = true)
    (hfailed : failed₁ = failed ++ failedRails [c])
    (hfirst : first₁ = if first = 0 then c.ret else first) :
    RestoresFrom s (order ++ [c.rail]) failed first r (c :: cmds) := by
  refine ⟨?_, ?_, List.forall_mem_cons.mpr ⟨hon, h.on⟩, ?_, ?_, h.tracks⟩
  · rw [h.commands, hcommand, List.append_assoc]
    rfl
  · rw [List.map_cons, h.rails, List.reverse_append]
    rfl
  · rw [h.failed, hfailed, List.append_assoc, failedRails, failedRails, ← List.map_append,
      ← List.filter_append]
    rfl
  · rw [h.error, hfirst, firstError]
    by_cases hzero : first = 0
    · rw [if_pos hzero, if_pos hzero]
      by_cases hret : c.ret = 0
      · rw [if_pos hret, if_neg (not_not.mpr hret)]
      · rw [if_neg hret, if_pos hret]
    · rw [if_neg hzero, if_neg hzero, if_neg hzero]

lemma restoreLoop_spec (pmu : Pmu) (n : ℕ) (s : Rails) (failedOrder : ℕ → ℕ) (failedCount : ℕ)
    (first : ℤ)
    (h : Tracks (entries s.offOrder n ++ (entries failedOrder failedCount).reverse) s.offMask
      s.commands) :
    ∃ cmds, RestoresFrom s (entries s.offOrder n) (entries failedOrder failedCount) first
      (restoreLoop pmu n s failedOrder failedCount first) cmds := by
  induction n generalizing s failedOrder failedCount first with
  | zero =>
      refine ⟨[], (List.append_nil _).symm, rfl, fun c hc => absurd hc List.not_mem_nil,
        (List.append_nil _).symm, ?_, h⟩
      simp only [restoreLoop, firstError]
      split_ifs with hfirst
      · exact hfirst
      · rfl
  | succ n ih =>
      rw [entries_succ, List.append_assoc, List.singleton_append] at h
      rw [entries_succ]
      obtain ⟨ret, hret⟩ : ∃ ret, pmu s.commands (s.offOrder n) true = ret := ⟨_, rfl⟩
      simp only [restoreLoop, pmuSetVoltageState, hret]
      by_cases hok : ret = 0
      · -- the rail is on again
        rw [if_neg (not_not.mpr hok)]
        obtain ⟨cmds, hrest⟩ := ih
          { s with
            offCount := n
            commands := s.commands ++ [⟨s.offOrder n, true, ret⟩]
            offMask := s.offMask &&& ~~~(1 <<< UInt32.ofNat (s.offOrder n)) }
          failedOrder failedCount first (h.switchedOn (c := ⟨s.offOrder n, true, ret⟩) rfl hok)
        refine ⟨⟨s.offOrder n, true, ret⟩ :: cmds, hrest.cons rfl rfl ?_ ?_⟩
        · rw [failedRails, List.filter_cons_of_neg (by simpa using hok)]
          exact (List.append_nil _).symm
        · split_ifs with hfirst
          · exact hfirst.trans hok.symm
          · rfl
      · -- the rail stays off
        rw [if_pos hok]
        have hkeep : s.offOrder n :: (entries failedOrder failedCount).reverse
            = (entries (Function.update failedOrder failedCount (s.offOrder n))
              (failedCount + 1)).reverse := by
          rw [entries_update, List.reverse_append]
          rfl
        rw [hkeep] at h
        obtain ⟨cmds, hrest⟩ := ih
          { s with offCount := n, commands := s.commands ++ [⟨s.offOrder n, true, ret⟩] }
          (Function.update failedOrder failedCount (s.offOrder n)) (failedCount + 1)
          (if first = 0 then ret else first) (h.failed (c := ⟨s.offOrder n, true, ret⟩) hok)
        refine ⟨⟨s.offOrder n, true, ret⟩ :: cmds, hrest.cons rfl rfl ?_ rfl⟩
        rw [entries_update, failedRails, List.filter_cons_of_pos (by simpa using hok)]
        rfl

lemma dmRestoreOffRails_spec (pmu : Pmu) {s : Rails} (hs : s.Consistent) :
    ∃ cmds, Restored s (dmRestoreOffRails pmu s).2 (dmRestoreOffRails pmu s).1 cmds := by
  have h : Tracks (entries s.offOrder s.offCount ++ (entries (fun _ => 0) 0).reverse) s.offMask
      s.commands := by
    rw [show (entries (fun _ => 0) 0).reverse = [] from rfl, List.append_nil]
    exact hs
  obtain ⟨cmds, hloop⟩ := restoreLoop_spec pmu s.offCount s (fun _ => 0) 0 0 h
  have horder : (dmRestoreOffRails pmu s).2.order = (failedRails cmds).reverse := by
    rw [Rails.order, dmRestoreOffRails, entries_reverse, hloop.failed]
    rfl
  refine ⟨cmds, hloop.commands, hloop.rails, hloop.on, horder, hloop.error, ?_⟩
  rw [Rails.Consistent, Rails.order, dmRestoreOffRails, entries_reverse]
  exact hloop.tracks

/-! ### A suspend -/

/-- The rails whose command succeeded. -/
def doneRails (l : List Command) : List ℕ := (l.filter (·.ret = 0)).map Command.rail

/-- Rails are switched off from `s` to `s'` by the commands `cmds`, each at most once: each
that succeeds joins the rails that are off, and the first error is returned. -/
structure SwitchedOff (s s' : Rails) (ret : ℤ) (cmds : List Command) : Prop where
  commands : s'.commands = s.commands ++ cmds
  off : ∀ c ∈ cmds, c.on = false
  order : s'.order = s.order ++ doneRails cmds
  once : (doneRails cmds).Nodup
  error : ret = firstError cmds
  consistent : s'.Consistent

namespace SwitchedOff

variable {s s' s'' : Rails} {ret ret' : ℤ} {cmds cmds' : List Command}

lemma refl (hs : s.Consistent) : SwitchedOff s s 0 [] :=
  ⟨(List.append_nil _).symm, fun _ hc => absurd hc List.not_mem_nil, (List.append_nil _).symm,
    List.nodup_nil, rfl, hs⟩

/-- A rail that joins the rails that are off was not among them. -/
lemma nodup_of_append {l : List ℕ} (horder : s'.order = s.order ++ l) (hs : s'.Consistent) :
    l.Nodup := by
  have hnodup := hs.nodup
  rw [horder] at hnodup
  exact hnodup.of_append_right

lemma firstError_append (h : firstError cmds = 0) :
    firstError (cmds ++ cmds') = firstError cmds' := by
  induction cmds with
  | nil => rfl
  | cons c cmds ih =>
      obtain ⟨hc, h⟩ := firstError_cons_eq_zero h
      rw [List.cons_append, firstError, if_neg (not_not.mpr hc), ih h]

lemma trans (h : SwitchedOff s s' 0 cmds) (h' : SwitchedOff s' s'' ret cmds') :
    SwitchedOff s s'' ret (cmds ++ cmds') := by
  have horder : s''.order = s.order ++ doneRails (cmds ++ cmds') := by
    rw [h'.order, h.order, doneRails, doneRails, doneRails, List.filter_append, List.map_append,
      List.append_assoc]
  refine ⟨?_, fun c hc => ?_, horder, nodup_of_append horder h'.consistent, ?_, h'.consistent⟩
  · rw [h'.commands, h.commands, List.append_assoc]
  · obtain hc | hc := List.mem_append.mp hc
    · exact h.off c hc
    · exact h'.off c hc
  · rw [h'.error, firstError_append h.error.symm]

/-- One rail is switched off. -/
lemma single {s : Rails} (hs : s.Consistent) {type : ℕ} (hlt : type < axpPowerMax)
    (hclear : bit s.offMask type = false) {ret : ℤ} (hok : ret = 0) :
    SwitchedOff s
      { s with
        commands := s.commands ++ [⟨type, false, ret⟩]
        offOrder := Function.update s.offOrder s.offCount type
        offCount := s.offCount + 1
        offMask := s.offMask ||| 1 <<< UInt32.ofNat type } 0 [⟨type, false, ret⟩] := by
  obtain ⟨s', hs'⟩ : ∃ s' : Rails, s' =
    { s with
      commands := s.commands ++ [⟨type, false, ret⟩]
      offOrder := Function.update s.offOrder s.offCount type
      offCount := s.offCount + 1
      offMask := s.offMask ||| 1 <<< UInt32.ofNat type } := ⟨_, rfl⟩
  rw [← hs']
  have horder : s'.order = s.order ++ [type] := by
    rw [hs', Rails.order, entries_update]
    rfl
  have hcons : s'.Consistent := by
    rw [Rails.Consistent, horder, hs']
    exact hs.switchedOff (c := ⟨type, false, ret⟩) hlt hclear rfl hok
  have hdone : doneRails [⟨type, false, ret⟩] = [type] := by
    rw [doneRails, List.filter_cons_of_pos (by simpa using hok)]
    rfl
  rw [← hdone] at horder
  refine ⟨by rw [hs'], fun c hc => ?_, horder, nodup_of_append horder hcons, ?_, hcons⟩
  · rw [List.mem_singleton.mp hc]
  · rw [firstError, if_neg (not_not.mpr hok)]
    rfl

/-- One rail could not be switched off. -/
lemma refused {s : Rails} (hs : s.Consistent) (type : ℕ) {ret : ℤ} (hfail : ret ≠ 0) :
    SwitchedOff s { s with commands := s.commands ++ [⟨type, false, ret⟩] } ret
      [⟨type, false, ret⟩] := by
  have hdone : doneRails [⟨type, false, ret⟩] = [] := by
    rw [doneRails, List.filter_cons_of_neg (by simpa using hfail)]
    rfl
  refine ⟨rfl, fun c hc => ?_, ?_, ?_, ?_, hs.failed hfail⟩
  · rw [List.mem_singleton.mp hc]
  · rw [hdone]
    exact (List.append_nil _).symm
  · rw [hdone]
    exact List.nodup_nil
  · rw [firstError, if_pos hfail]

end SwitchedOff

lemma powerOffLoop_spec (pmu : Pmu) (mask : UInt32) (n type : ℕ) (htype : type + n = axpPowerMax)
    (s : Rails) (hs : s.Consistent) :
    ∃ cmds, SwitchedOff s (powerOffLoop pmu mask n type s).2
      (powerOffLoop pmu mask n type s).1 cmds := by
  induction n generalizing type s with
  | zero => exact ⟨[], SwitchedOff.refl hs⟩
  | succ n ih =>
      have hlt : type < axpPowerMax := by omega
      obtain ⟨ret, hret⟩ : ∃ ret, pmu s.commands type false = ret := ⟨_, rfl⟩
      rw [powerOffLoop]
      split_ifs with hskip
      · exact ih (type + 1) (by omega) s hs
      · simp only [pmuSetVoltageState, hret]
        have hclear : bit s.offMask type = false := by
          have hbit := (not_or.mp hskip).2
          rw [shiftRight_and_one s.offMask hlt] at hbit
          exact Bool.eq_false_of_not_eq_true hbit
        by_cases hok : ret = 0
        · rw [if_neg (not_not.mpr hok)]
          have hfirst := SwitchedOff.single hs hlt hclear hok
          obtain ⟨cmds, hrest⟩ := ih (type + 1) (by omega) _ hfirst.consistent
          exact ⟨_, hfirst.trans hrest⟩
        · rw [if_pos hok]
          exact ⟨_, SwitchedOff.refused hs type hok⟩

lemma powerOffMasks_spec (pmu : Pmu) (masks : List UInt32) (s : Rails) (hs : s.Consistent) :
    ∃ cmds, SwitchedOff s (powerOffMasks pmu masks s).2 (powerOffMasks pmu masks s).1 cmds := by
  induction masks generalizing s with
  | nil => exact ⟨[], SwitchedOff.refl hs⟩
  | cons mask masks ih =>
      obtain ⟨cmds, hfirst⟩ := powerOffLoop_spec pmu mask axpPowerMax 0 rfl
        { s with offCalls := s.offCalls + 1 } hs
      have hmask : SwitchedOff s (dmPowerOffMask pmu mask s).2 (dmPowerOffMask pmu mask s).1 cmds :=
        ⟨hfirst.commands, hfirst.off, hfirst.order, hfirst.once, hfirst.error, hfirst.consistent⟩
      rw [powerOffMasks]
      by_cases hret : (dmPowerOffMask pmu mask s).1 = 0
      · simp only [if_neg (not_not.mpr hret)]
        obtain ⟨cmds', hrest⟩ := ih (dmPowerOffMask pmu mask s).2 hmask.consistent
        rw [hret] at hmask
        exact ⟨_, hmask.trans hrest⟩
      · simp only [if_pos hret]
        exact ⟨cmds, hmask⟩

/-- What a suspend does. Rails that are still off are restored first, and if one of them
stays off nothing is switched off. Otherwise rails are switched off from none, and after
an error those that are off by then are restored. -/
inductive Suspends (s : Rails) : ℤ → Rails → Prop
  | blocked {ret : ℤ} {s' : Rails} {cmds : List Command} : Restored s s' ret cmds → ret ≠ 0 →
      Suspends s ret s'
  | done {s₁ s' : Rails} {on off : List Command} : Restored s s₁ 0 on → s₁.order = [] →
      SwitchedOff s₁ s' 0 off → Suspends s 0 s'
  | rolledBack {ret ret' : ℤ} {s₁ s₂ s' : Rails} {on off back : List Command} :
      Restored s s₁ 0 on → s₁.order = [] → SwitchedOff s₁ s₂ ret off → ret ≠ 0 →
      Restored s₂ s' ret' back → Suspends s ret s'

lemma Suspends.consistent {s s' : Rails} {ret : ℤ} (h : Suspends s ret s') : s'.Consistent := by
  cases h with
  | blocked h _ => exact h.consistent
  | done _ _ h => exact h.consistent
  | rolledBack _ _ _ _ h => exact h.consistent

/-- If no command failed, no rail is left. -/
lemma failedRails_of_firstError {cmds : List Command} (h : firstError cmds = 0) :
    failedRails cmds = [] := by
  induction cmds with
  | nil => rfl
  | cons c cmds ih =>
      obtain ⟨hc, h⟩ := firstError_cons_eq_zero h
      rw [failedRails, List.filter_cons_of_neg (by simpa using hc)]
      exact ih h

/-- Where no rail is off, the count and the mask are zero. -/
lemma Rails.Consistent.eq_reset {s : Rails} (hs : s.Consistent) (horder : s.order = []) :
    { s with offCount := 0, offMask := 0 } = s := by
  have hcount : s.offCount = 0 := by
    rw [← length_entries s.offOrder s.offCount, ← Rails.order, horder]
    rfl
  have hmask : s.offMask = 0 := by
    refine eq_of_bit fun t ht => ?_
    rw [bit_zero]
    refine Bool.eq_false_of_not_eq_true fun hbit => ?_
    have hmem := (hs.mask t ht).mpr hbit
    rw [horder] at hmem
    exact List.not_mem_nil hmem
  rw [← hcount, ← hmask]

lemma dmSuspend_spec (pmu : Pmu) (masks : RailMasks) {s : Rails} (hs : s.Consistent) :
    Suspends s (dmSuspend pmu masks s).1 (dmSuspend pmu masks s).2 := by
  obtain ⟨r, hr⟩ : ∃ r : ℤ × Rails,
      r = (if s.offCount ≠ 0 then dmRestoreOffRails pmu s else (0, s)) := ⟨_, rfl⟩
  obtain ⟨on, hon⟩ : ∃ on, Restored s r.2 r.1 on := by
    rw [hr]
    split_ifs with hcount
    · exact dmRestoreOffRails_spec pmu hs
    · have horder : s.order = [] := by
        rw [Rails.order, not_not.mp hcount]
        rfl
      refine ⟨[], (List.append_nil _).symm, ?_, fun c hc => absurd hc List.not_mem_nil, ?_, rfl, hs⟩
      · rw [horder]
        rfl
      · rw [horder]
        rfl
  simp only [dmSuspend, ← hr]
  by_cases hret : r.1 = 0
  · simp only [if_neg (not_not.mpr hret)]
    rw [hret] at hon
    have hnone : r.2.order = [] := by
      rw [hon.kept, failedRails_of_firstError hon.error.symm]
      rfl
    rw [hon.consistent.eq_reset hnone]
    obtain ⟨off, hoff⟩ := powerOffMasks_spec pmu masks.suspendOrder r.2 hon.consistent
    by_cases hfail : (powerOffMasks pmu masks.suspendOrder r.2).1 = 0
    · simp only [if_neg (not_not.mpr hfail)]
      rw [hfail] at hoff ⊢
      exact .done hon hnone hoff
    · simp only [if_pos hfail]
      obtain ⟨back, hback⟩ := dmRestoreOffRails_spec pmu hoff.consistent
      exact .rolledBack hon hnone hoff hfail hback
  · simp only [if_pos hret]
    exact .blocked hon hret

/-! ### Runs -/

/-- A call of `dm_suspend`, with the masks it finds, or of `dm_resume`. -/
inductive RailCall
  | suspend (masks : RailMasks)
  | resume

def railStep (pmu : Pmu) (s : Rails) : RailCall → Rails
  | .suspend masks => (dmSuspend pmu masks s).2
  | .resume => (dmResume pmu s).2

/-- A run of calls from reset. -/
def railRun (pmu : Pmu) (calls : List RailCall) : Rails := calls.foldl (railStep pmu) Rails.init

lemma Rails.init_consistent : Rails.init.Consistent := by
  refine ⟨List.nodup_nil, fun t ht => absurd ht List.not_mem_nil, fun t _ => ?_, fun t => ?_⟩
  · exact ⟨fun ht => absurd ht List.not_mem_nil, fun hbit => Bool.noConfusion (bit_zero t ▸ hbit)⟩
  · exact ⟨fun ht => absurd ht List.not_mem_nil, fun hoff => Bool.noConfusion hoff⟩

lemma railStep_consistent (pmu : Pmu) {s : Rails} (hs : s.Consistent) (call : RailCall) :
    (railStep pmu s call).Consistent := by
  cases call with
  | suspend masks => exact (dmSuspend_spec pmu masks hs).consistent
  | resume =>
      obtain ⟨cmds, h⟩ := dmRestoreOffRails_spec pmu hs
      exact h.consistent

lemma railRun_consistent (pmu : Pmu) (calls : List RailCall) : (railRun pmu calls).Consistent := by
  refine List.foldlRecOn calls (railStep pmu) Rails.init_consistent ?_
  exact fun s hs call _ => railStep_consistent pmu hs call

/-- **The stack of rails.** In every state that calls of `dm_suspend` and `dm_resume` lead
to, with any masks and whatever the PMU answers, the rails recorded as off are distinct
and at most 32, they are the bits of the mask, and they are the rails whose last
successful command switched them off. A resume switches all of them on in the reverse
order, keeps those that fail in the old order and returns the first error; and a suspend
switches rails off, each at most once, only when none is left to be restored. -/
theorem rails_stack (pmu : Pmu) (calls : List RailCall) :
    (railRun pmu calls).order.Nodup ∧ (railRun pmu calls).offCount ≤ axpPowerMax ∧
    (∀ t < axpPowerMax, t ∈ (railRun pmu calls).order ↔ bit (railRun pmu calls).offMask t = true) ∧
    (∀ t, t ∈ (railRun pmu calls).order ↔ lastOff (railRun pmu calls).commands t = true) ∧
    (∃ cmds, Restored (railRun pmu calls) (dmResume pmu (railRun pmu calls)).2
      (dmResume pmu (railRun pmu calls)).1 cmds) ∧
    ∀ masks, Suspends (railRun pmu calls) (dmSuspend pmu masks (railRun pmu calls)).1
      (dmSuspend pmu masks (railRun pmu calls)).2 := by
  have hs := railRun_consistent pmu calls
  generalize railRun pmu calls = s at hs ⊢
  refine ⟨hs.nodup, ?_, hs.mask, hs.off, dmRestoreOffRails_spec pmu hs,
    fun masks => dmSuspend_spec pmu masks hs⟩
  rw [← length_entries s.offOrder s.offCount]
  exact hs.length_le

end A733Boot.Ar100s.Standby
