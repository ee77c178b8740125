/-
The trained DRAM words in a tree: the loop of `a733_hw_config_update_dram`
(`src/hw_config_a733.c`) with the vendored libfdt, on a tree that stands in memory.

* `resolve_alter`, `prop?_set`: lookups in a tree in which a value was set;
* `setWords`: the tree with the words, as operations on the tree;
* `updateDramFrom_spec`: the loop of the update turns the bytes of the tree into those of the
  tree with a first part of the words, all of them exactly when every property is there;
* `dramTree`: a tree that has the words.
-/
import A733Boot.Fdt.Vendored

namespace A733Boot.Fdt

open Mem

/-! ### Lookups after a change -/

section Alter

variable {s s' v : List UInt8} {o : ℕ}

lemma child?_alter {f : Forest} {g : Node → Node} (hg : ∀ n, (g n).name = n.name) :
    (f.alter s g).child? s o = (f.child? s o).map fun r => (r.1, g r.2) := by
  induction f generalizing o with
  | nil => rfl
  | nop rest ih => exact ih
  | node name props children rest ihc ihr =>
    rw [Forest.alter, Forest.splice, Forest.child?]
    by_cases hfit : Fits s name
    · have hfit' : Fits s (g ⟨name, props, children⟩).name := by
        rw [hg]
        exact hfit
      rw [if_pos hfit, if_pos hfit, Node.cons, Forest.child?, if_pos hfit']
      rfl
    · rw [if_neg hfit, if_neg hfit, Forest.child?, if_neg hfit]
      exact ihr

/-- The path leads to the changed node. -/
lemma resolve_alter {g : Node → Node} (hg : ∀ n, (g n).name = n.name) {n : Node}
    (parts : List (List UInt8)) :
    (n.alter g parts).resolve o parts = (n.resolve o parts).map fun r => (r.1, g r.2) := by
  induction parts generalizing o n with
  | nil => rfl
  | cons part parts ih =>
    have hname : ∀ (parts : List (List UInt8)) (m : Node), (m.alter g parts).name = m.name := by
      intro parts m
      cases parts with
      | nil => exact hg m
      | cons part parts => rfl
    rw [Node.alter, Node.resolve, Node.resolve, child?_alter (hname parts)]
    cases n.children.child? part (childrenAt o n.name n.props) with
    | none => rfl
    | some r => exact ih

/-- Setting a value of the same length leaves every property where it was. -/
lemma prop?_set {props : List (Option Property)} {q : ℕ × Property}
    (hq : prop? s o props = some q) (hlen : v.length = q.2.value.length) :
    prop? s' o (alterProp s (fun p => [some { p with value := v }]) props) =
      if s' = s then some (q.1, { q.2 with value := v }) else prop? s' o props := by
  induction props generalizing o with
  | nil => cases hq
  | cons p props ih =>
    cases p with
    | none =>
      rw [alterProp, prop?, prop?]
      exact ih hq
    | some p =>
      rw [prop?] at hq
      rw [alterProp, prop?]
      by_cases hname : p.name = s
      · rw [if_pos hname] at hq
        obtain rfl := Option.some.inj hq
        have hsize :
            fdtTokens.size (.prop p.nameoff v) = fdtTokens.size (.prop p.nameoff p.value) := by
          show alignUp (12 + v.length) = alignUp (12 + p.value.length)
          rw [hlen]
        rw [if_pos hname, List.singleton_append, prop?, hsize]
        by_cases hs : s' = s
        · rw [if_pos (hname.trans hs.symm), if_pos hs]
        · rw [if_neg (fun h => hs (h.symm.trans hname)), if_neg hs,
            if_neg (fun h => hs (h.symm.trans hname))]
      · rw [if_neg hname] at hq
        rw [if_neg hname, prop?, ih hq]
        by_cases hs : s' = s
        · rw [if_neg (fun h => hname (h.trans hs)), if_pos hs, if_pos hs]
        · rw [if_neg hs, if_neg hs]

end Alter

/-! ### The words -/

/-- The name of the node. -/
def dramName : List UInt8 := [100, 114, 97, 109]

/-- The name of the word's property. -/
def wordName (i : ℕ) : List UInt8 := charBytes (dramParaProperty i)

/-- The property of a word in the node at an offset. -/
def word? (r : ℕ × Node) (i : ℕ) : Option (ℕ × Property) :=
  prop? (wordName i) (r.1 + fdtTokens.size (.beginNode r.2.name)) r.2.props

/-- The property of the word is there, with a value of four bytes. -/
def HasWord (r : ℕ × Node) (i : ℕ) : Prop := ∃ q, word? r i = some q ∧ q.2.value.length = 4

/-- The node with one word set. -/
def setWord (para : ℕ → UInt32) (i : ℕ) : Node → Node :=
  Node.setProp (wordName i) (Mem.be32 (para i))

/-- The tree with `n` words set, from the one of index `i` on. -/
def setWords (para : ℕ → UInt32) : ℕ → ℕ → Node → Node
  | 0, _, root => root
  | n + 1, i, root => setWords para n (i + 1) (root.alter (setWord para i) [dramName])

section Words

variable {fdt : Mem} {root : Node} {r : ℕ × Node} {para : ℕ → UInt32} {i j : ℕ}

/-- The index that the name of a word's property ends with. -/
def wordIndex (name : List UInt8) : ℕ :=
  ((name.getD 9 48).toNat - 48) * 10 + ((name.getD 10 48).toNat - 48)

lemma wordIndex_wordName : ∀ i < 96, wordIndex (wordName i) = i := by decide

lemma wordName_injective (hi : i < 96) (hj : j < 96) (h : wordName i = wordName j) : i = j := by
  rw [← wordIndex_wordName i hi, h, wordIndex_wordName j hj]

lemma components_dramPath : components (charBytes dramPath) = [dramName] := by
  rw [components_cons (show (charBytes dramPath).dropWhile (· == slash) = 100 :: [114, 97, 109] by
    decide), components_nil (by decide)]
  decide

lemma vendored_pathOffset (h : Encodes fdt root) :
    vendored.pathOffset fdt dramPath
      = (root.resolve 0 [dramName]).elim (-fdtErrNotfound) fun r => (r.1 : ℤ) := by
  rw [vendored_path h dramPath_isFullPath, components_dramPath]

lemma vendored_getprop (h : Encodes fdt root) (hr : root.resolve 0 [dramName] = some r) (i : ℕ) :
    vendored.getprop fdt r.1 (dramParaProperty i) =
      (word? r i).elim (.error (-fdtErrNotfound))
        fun q => .ok (fdtOffDtStruct fdt + q.1 + 12, (q.2.value.length : ℤ)) := by
  obtain ⟨⟨us, hus⟩, hnames⟩ := h.resolve_spec hr
  simp only [vendored, fdtGetprop_eq h.toFramed hus hnames, Option.getD_some]
  rfl

/-- The word's property keeps its place when another one or itself is set. -/
lemma word?_setWord (hword : HasWord r i) {q : ℕ × Property} (hq : word? r i = some q) :
    word? (r.1, setWord para i r.2) j =
      if wordName j = wordName i then some (q.1, { q.2 with value := Mem.be32 (para i) })
      else word? r j := by
  obtain ⟨q', hq', hlen⟩ := hword
  obtain rfl := Option.some.inj (hq.symm.trans hq')
  exact prop?_set hq hlen.symm

lemma word?_place (hword : HasWord r i) {q' : ℕ × Property}
    (hq' : word? (r.1, setWord para i r.2) j = some q') :
    ∃ q, word? r j = some q ∧ q.1 = q'.1 := by
  obtain ⟨q, hq, hlen⟩ := hword
  rw [word?_setWord ⟨q, hq, hlen⟩ hq] at hq'
  by_cases hname : wordName j = wordName i
  · rw [if_pos hname] at hq'
    refine ⟨q, ?_, by rw [← Option.some.inj hq']⟩
    rw [← hq, word?, word?, hname]
  · rw [if_neg hname] at hq'
    exact ⟨q', hq', rfl⟩

lemma hasWord_setWord (hword : HasWord r i) :
    HasWord (r.1, setWord para i r.2) j ↔ HasWord r j := by
  obtain ⟨q, hq, hlen⟩ := hword
  rw [HasWord, word?_setWord ⟨q, hq, hlen⟩ hq]
  by_cases hname : wordName j = wordName i
  · have hj : word? r j = some q := by
      rw [← hq, word?, word?, hname]
    rw [if_pos hname]
    exact iff_of_true ⟨_, rfl, rfl⟩ ⟨q, hj, hlen⟩
  · rw [if_neg hname]
    rfl

lemma resolve_setWord (hr : root.resolve 0 [dramName] = some r) :
    (root.alter (setWord para i) [dramName]).resolve 0 [dramName]
      = some (r.1, setWord para i r.2) := by
  rw [resolve_alter (g := setWord para i) (fun _ => rfl) [dramName], hr]
  rfl

end Words

/-! ### The loop of the update -/

section Update

variable {m : Mem} {fdt : ℕ} {root : Node} {r : ℕ × Node} {para : ℕ → UInt32}

/-- What the loop leaves: `j` of the `n` words from the one of index `k` on are set, none is
missing among them, and the next one is missing unless all are done. -/
structure Updated (m : Mem) (fdt : ℕ) (root : Node) (r : ℕ × Node) (para : ℕ → UInt32) (n k j : ℕ)
    (res : ℤ × Mem) : Prop where
  count : j ≤ n
  present : ∀ i < j, HasWord r (k + i)
  stop : j = n ∧ res.1 = 0 ∨ j < n ∧ ¬ HasWord r (k + j) ∧ res.1 = -1
  tree : Encodes (res.2.view fdt) (setWords para j k root)
  frame : ∀ a, (∀ i < j, ∀ q, word? r (k + i) = some q →
      a < fdt + (fdtOffDtStruct (m.view fdt) + q.1 + 12) ∨
      fdt + (fdtOffDtStruct (m.view fdt) + q.1 + 12) + 4 ≤ a) → res.2 a = m a

/-- One word more, in memory and in the tree. -/
lemma encodes_setWord (h : Encodes (m.view fdt) root) (hr : root.resolve 0 [dramName] = some r)
    {k : ℕ} {q : ℕ × Property} (hq : word? r k = some q) (hlen : q.2.value.length = 4) :
    Encodes ((m.storeBe32 (fdt + (fdtOffDtStruct (m.view fdt) + q.1 + 12)) (para k)).view fdt)
      (root.alter (setWord para k) [dramName]) := by
  rw [Mem.view_storeBe32, Mem.storeBe32_eq_storeBytes]
  exact h.set hr hq hlen.symm

lemma updateDramFrom_spec (para : ℕ → UInt32) (h : Encodes (m.view fdt) root)
    (hr : root.resolve 0 [dramName] = some r) (n k : ℕ) :
    ∃ j, Updated m fdt root r para n k j (updateDramFrom vendored fdt r.1 para n k m) := by
  induction n generalizing k m root r with
  | zero =>
    exact ⟨0, le_rfl, fun i hi => absurd hi (Nat.not_lt_zero i), .inl ⟨rfl, rfl⟩, h, fun _ _ => rfl⟩
  | succ n ih =>
    have hget := vendored_getprop h hr k
    rw [updateDramFrom, hget]
    by_cases hword : HasWord r k
    · obtain ⟨q, hq, hlen⟩ := hword
      have hset : fdtSetpropInplaceU32 vendored m fdt r.1 (dramParaProperty k) (para k) =
          (0, m.storeBe32 (fdt + (fdtOffDtStruct (m.view fdt) + q.1 + 12)) (para k)) := by
        rw [fdtSetpropInplaceU32, hget, hq]
        simp [hlen]
      obtain ⟨j, hj⟩ := ih (encodes_setWord h hr hq hlen) (resolve_setWord hr) (k + 1)
      have hcases (i : ℕ) :
          HasWord (r.1, setWord para k r.2) (k + 1 + i) ↔ HasWord r (k + (i + 1)) := by
        rw [hasWord_setWord ⟨q, hq, hlen⟩, show k + 1 + i = k + (i + 1) by omega]
      have hoff : fdtOffDtStruct ((m.storeBe32 (fdt + (fdtOffDtStruct (m.view fdt) + q.1 + 12))
          (para k)).view fdt) = fdtOffDtStruct (m.view fdt) := by
        have hbehind := h.behind
        rw [Mem.view_storeBe32]
        exact Mem.loadBe32_congr fun i hi => Mem.storeBe32_outside _ _ (by omega)
      simp only [hq, Option.elim_some, hlen, Nat.cast_ofNat, ne_eq, not_true_eq_false, if_false,
        hset]
      refine ⟨j + 1, by have := hj.count; omega, fun i hi => ?_, ?_, hj.tree, fun a ha => ?_⟩
      · cases i with
        | zero => exact ⟨q, hq, hlen⟩
        | succ i => exact (hcases i).mp (hj.present i (by omega))
      · rw [← hcases]
        exact hj.stop.imp (fun hdone => ⟨by rw [hdone.1], hdone.2⟩)
          fun hmiss => ⟨by omega, hmiss.2⟩
      · have hout := ha 0 (by omega) q hq
        rw [← Mem.storeBe32_outside m (para k) hout]
        refine hj.frame a fun i hi q' hq' => ?_
        obtain ⟨q'', hq'', hplace⟩ := word?_place ⟨q, hq, hlen⟩ hq'
        rw [hoff, ← hplace]
        exact ha (i + 1) (by omega) q'' (by rw [← hq'']; congr 1; omega)
    · have hstop : Updated m fdt root r para (n + 1) k 0 (-1, m) :=
        ⟨Nat.zero_le _, fun i hi => absurd hi (Nat.not_lt_zero i), .inr ⟨by omega, hword, rfl⟩, h,
          fun _ _ => rfl⟩
      cases hq : word? r k with
      | none => exact ⟨0, hstop⟩
      | some q =>
        have hlen : ¬ (q.2.value.length : ℤ) = 4 := fun hlen =>
          hword ⟨q, hq, by exact_mod_cast hlen⟩
        simp only [Option.elim_some, ne_eq, hlen, not_false_eq_true, if_true]
        exact ⟨0, hstop⟩

/-- The words of the tree after they have been set; the others are as before. -/
lemma setWords_spec (para : ℕ → UInt32) (hr : root.resolve 0 [dramName] = some r) {n k : ℕ}
    (hn : k + n ≤ 96) (hwords : ∀ i < n, HasWord r (k + i)) :
    ∃ r', (setWords para n k root).resolve 0 [dramName] = some r' ∧
      (∀ i < n, ∃ q, word? r' (k + i) = some q ∧ q.2.value = Mem.be32 (para (k + i))) ∧
      ∀ j < 96, (j < k ∨ k + n ≤ j) → word? r' j = word? r j := by
  induction n generalizing k root r with
  | zero => exact ⟨r, hr, fun i hi => absurd hi (Nat.not_lt_zero i), fun _ _ _ => rfl⟩
  | succ n ih =>
    have hfirst : HasWord r k := hwords 0 (by omega)
    obtain ⟨q, hq, hlen⟩ := hfirst
    have hrest : ∀ i < n, HasWord (r.1, setWord para k r.2) (k + 1 + i) := by
      intro i hi
      rw [hasWord_setWord ⟨q, hq, hlen⟩, show k + 1 + i = k + (i + 1) by omega]
      exact hwords (i + 1) (by omega)
    obtain ⟨r', hr', hset, hother⟩ := ih (resolve_setWord hr) (by omega) hrest
    refine ⟨r', hr', fun i hi => ?_, fun j hj hout => ?_⟩
    · cases i with
      | zero =>
        rw [Nat.add_zero, hother k (by omega) (.inl (by omega)), word?_setWord ⟨q, hq, hlen⟩ hq,
          if_pos rfl]
        exact ⟨_, rfl, rfl⟩
      | succ i =>
        rw [show k + (i + 1) = k + 1 + i by omega]
        exact hset i (by omega)
    · rw [hother j hj (by omega), word?_setWord ⟨q, hq, hlen⟩ hq, if_neg]
      exact fun hname => absurd (wordName_injective hj (by omega) hname) (by omega)

end Update

/-! ### The update -/

section Whole

variable {m : Mem} {fdt loadedSize : ℕ} {root : Node} {para : ℕ → UInt32}

/-- The update of a tree that stands in memory. -/
lemma a733HwConfigUpdateDram_vendored (h : Encodes (m.view fdt) root) (hfdt : fdt ≠ 0)
    (hsize : fdtTotalsize (m.view fdt) ≤ loadedSize) :
    a733HwConfigUpdateDram vendored m fdt loadedSize (some para) 96 =
      (root.resolve 0 [dramName]).elim (-1, m)
        fun r => updateDramFrom vendored fdt r.1 para 96 0 m := by
  rw [a733HwConfigUpdateDram]
  simp only [hfdt, a733DramParaCount, h.header, ne_eq, not_true_eq_false,
    not_lt.mpr hsize, or_self, if_false, vendored_pathOffset h]
  cases root.resolve 0 [dramName] with
  | none => rfl
  | some r =>
    rw [Option.elim_some, if_neg (by omega)]
    rfl

/-- The update of a tree with all the words succeeds. -/
lemma a733HwConfigUpdateDram_ok (h : Encodes (m.view fdt) root) (hfdt : fdt ≠ 0)
    (hsize : fdtTotalsize (m.view fdt) ≤ loadedSize)
    (hwords : ∃ r, root.resolve 0 [dramName] = some r ∧ ∀ i < 96, HasWord r i) :
    (a733HwConfigUpdateDram vendored m fdt loadedSize (some para) 96).1 = 0 := by
  obtain ⟨r, hr, hwords⟩ := hwords
  rw [a733HwConfigUpdateDram_vendored h hfdt hsize, hr, Option.elim_some]
  obtain ⟨j, hj⟩ := updateDramFrom_spec para h hr 96 0
  rcases hj.stop with ⟨-, hzero⟩ | ⟨hlt, hmiss, -⟩
  · exact hzero
  · rw [Nat.zero_add] at hmiss
    exact absurd (hwords j hlt) hmiss

end Whole

/-! ### A tree with the words -/

/-- A tree with the node `dram` and its words, all zero. -/
def dramTree : Node where
  name := []
  props := []
  children := .node dramName
    ((List.range 96).map fun i => some ⟨wordName i, 12 * i, [0, 0, 0, 0]⟩) .nil .nil

def dramStrings : List UInt8 := (List.range 96).flatMap fun i => wordName i ++ [0]

lemma dramTree_valid : dramTree.Valid dramStrings where
  tokens := by decide +kernel
  names := by decide +kernel
  size := by decide +kernel

/-- The tree has the words. -/
lemma dramTree_words : ∃ r, dramTree.resolve 0 [dramName] = some r ∧ ∀ i < 96, HasWord r i := by
  have hall : ∀ i < 96, ((dramTree.resolve 0 [dramName]).bind fun r => word? r i).any
      fun q => q.2.value.length = 4 := by decide +kernel
  refine ⟨_, rfl, fun i hi => ?_⟩
  obtain ⟨q, hq, hlen⟩ := (Option.any_eq_true _ _).mp (hall i hi)
  exact ⟨q, hq, of_decide_eq_true hlen⟩

end A733Boot.Fdt
