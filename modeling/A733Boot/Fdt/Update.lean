/-
The trained DRAM words from boot0 to the firmware through the vendored libfdt:
`a733_hw_config_update_dram` (`src/hw_config_a733.c`) and `dram_dts_parse`
(`ar100s/driver/dram/dram_dts_para_v2.c`) on a tree that stands in memory.

* `dramDtsParse_words`: from the tree with the words the firmware reads the words;
* `update_refines_setWords` (**the update of a tree**): the update changes the bytes into those
  of the tree with a first part of the words, and no others.
-/
import A733Boot.Ar100s.Dtb

namespace A733Boot.Fdt

open Mem

section Handover

variable {m : Mem} {fdt loadedSize : ℕ} {root : Node} {r : ℕ × Node} {para : ℕ → UInt32}

/-- The firmware reads the words of a tree that has them. -/
lemma dramDtsParse_words (h : Encodes (m.view fdt) root) (hr : root.resolve 0 [dramName] = some r)
    (hwords : ∀ i < 96, ∃ q, word? r i = some q ∧ q.2.value = Mem.be32 (para i)) :
    Ar100s.dramDtsParse vendored m fdt
      = some ((List.range 96).map fun i => (para i).toNat) := by
  have hnode : vendored.pathOffset (m.view fdt) dramPath = r.1 := by
    rw [vendored_pathOffset h, hr]
    rfl
  rw [Ar100s.dramDtsParse]
  simp only [h.header, ne_eq, not_true_eq_false, if_false, hnode]
  rw [if_neg (by omega)]
  refine Ar100s.mapM_eq_some_map fun i hi => ?_
  have hi' : i < 96 := List.mem_range.mp hi
  obtain ⟨q, hq, hvalue⟩ := hwords i hi'
  obtain ⟨⟨us, hus⟩, -⟩ := h.resolve_spec hr
  obtain ⟨vs, hvs⟩ := stands_prop (stands_parts hus).2.1 hq
  have hholds := holds_value hvs
  rw [hvalue] at hholds
  rw [Ar100s.dtsDramPara, Ar100s.sprintfDramPara_eq i hi', vendored_getprop h hr, hq]
  simp only [Option.elim_some, hvalue]
  rw [if_neg (not_not.mpr (by rfl)), hholds.loadBe32]

/-- **The update of a tree**: it succeeds exactly on a tree whose node `/dram` has the 96
properties with values of four bytes each; the bytes are then those of the tree with the words
set, and the firmware reads the words from them. In any case a first part of the words is set,
and no byte outside of their values is written. -/
theorem update_refines_setWords (h : Encodes (m.view fdt) root) (hfdt : fdt ≠ 0)
    (hsize : fdtTotalsize (m.view fdt) ≤ loadedSize) :
    let res := a733HwConfigUpdateDram vendored m fdt loadedSize (some para) 96
    (res.1 = 0 ↔ ∃ r, root.resolve 0 [dramName] = some r ∧ ∀ i < 96, HasWord r i) ∧
      (res.1 = 0 → Encodes (res.2.view fdt) (setWords para 96 0 root) ∧
        Ar100s.dramDtsParse vendored res.2 fdt
          = some ((List.range 96).map fun i => (para i).toNat)) ∧
      ∃ k ≤ 96, Encodes (res.2.view fdt) (setWords para k 0 root) ∧ (res.1 = 0 ↔ k = 96) ∧
        ∀ a, (∀ r, root.resolve 0 [dramName] = some r → ∀ i < k, ∀ q, word? r i = some q →
          a < fdt + (fdtOffDtStruct (m.view fdt) + q.1 + 12) ∨
          fdt + (fdtOffDtStruct (m.view fdt) + q.1 + 12) + 4 ≤ a) → res.2 a = m a := by
  intro res
  have hres : res = _ := a733HwConfigUpdateDram_vendored h hfdt hsize
  cases hr : root.resolve 0 [dramName] with
  | none =>
    rw [hr, Option.elim_none] at hres
    have hneg : res.1 ≠ 0 := by
      rw [hres]
      simp
    refine ⟨iff_of_false hneg ?_, fun h0 => absurd h0 hneg, 0, Nat.zero_le _, ?_,
      iff_of_false hneg (by decide), fun a _ => by rw [hres]⟩
    · rintro ⟨r, hr', -⟩
      cases hr'
    · rw [hres]
      exact h
  | some r =>
    rw [hr, Option.elim_some] at hres
    obtain ⟨j, hj⟩ := updateDramFrom_spec para h hr 96 0
    rw [← hres] at hj
    have hpresent : ∀ i < j, HasWord r i := fun i hi => by simpa using hj.present i hi
    have hframe : ∀ a, (∀ r', some r = some r' → ∀ i < j, ∀ q, word? r' i = some q →
        a < fdt + (fdtOffDtStruct (m.view fdt) + q.1 + 12) ∨
        fdt + (fdtOffDtStruct (m.view fdt) + q.1 + 12) + 4 ≤ a) → res.2 a = m a := by
      intro a ha
      refine hj.frame a fun i hi q hq => ha r rfl i hi q ?_
      rwa [Nat.zero_add] at hq
    rcases hj.stop with ⟨rfl, hzero⟩ | ⟨hlt, hmiss, hneg⟩
    · obtain ⟨r', hr', hset, -⟩ := setWords_spec para hr (show 0 + 96 ≤ 96 by omega)
        fun i hi => by simpa using hpresent i hi
      refine ⟨iff_of_true hzero ⟨r, rfl, hpresent⟩, fun _ => ⟨hj.tree, ?_⟩,
        96, le_rfl, hj.tree, iff_of_true hzero rfl, hframe⟩
      exact dramDtsParse_words hj.tree hr' fun i hi => by simpa using hset i hi
    · have hne : res.1 ≠ 0 := by
        rw [hneg]
        decide
      refine ⟨iff_of_false hne ?_, fun h0 => absurd h0 hne, j, hlt.le, hj.tree,
        iff_of_false hne (by omega), hframe⟩
      rintro ⟨r', hr', hwords⟩
      obtain rfl := Option.some.inj hr'
      exact hmiss (by simpa using hwords j hlt)

end Handover

/-- The tree at the address 4. -/
def dramMemory : Mem := fun a => Mem.ofList (blob dramTree dramStrings) (a - 4)

lemma dramMemory_encodes : Encodes (dramMemory.view 4) dramTree := by
  have hview : dramMemory.view 4 = .ofList (blob dramTree dramStrings) := by
    funext i
    rw [Mem.view, dramMemory, Nat.add_sub_cancel_left]
  rw [hview]
  exact blob_encodes dramTree_valid

/-- The firmware reads the numbers of the words from that tree, if boot0 wrote them. -/
theorem update_refines_setWords_dramTree :
    Ar100s.dramDtsParse vendored (a733HwConfigUpdateDram vendored dramMemory 4
      (fdtTotalsize (dramMemory.view 4)) (some fun i => UInt32.ofNat i) 96).2 4
        = some ((List.range 96).map fun i => (UInt32.ofNat i).toNat) := by
  obtain ⟨hiff, hread, -⟩ := @update_refines_setWords dramMemory 4
    (fdtTotalsize (dramMemory.view 4)) dramTree (fun i => UInt32.ofNat i) dramMemory_encodes
    (by decide) le_rfl
  exact (hread (hiff.mpr dramTree_words)).2

end A733Boot.Fdt
