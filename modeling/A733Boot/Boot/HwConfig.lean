/-
Writing the trained DRAM words into the device tree: `fdt_check_header` and
`fdt_setprop_inplace_u32` of libfdt and `a733_hw_config_update_dram` of
`src/hw_config_a733.c`.

The two walks over the tree, `fdt_path_offset` and `fdt_getprop`, are parameters
(`Libfdt`); what is relied on is what `libfdt.h` documents of them (`Documented`): of full
paths, of the nodes that they lead to and of names that are strings, on a class of trees `W`
that the documented writes do not leave.

* `dramParaProperty_injective`: the 96 property names are different;
* `Patched`: what a tree looks like after the first `k` words have been written:
  the same structure, the words in place, and no other byte changed;
* `updateDramFrom_patched`, `a733HwConfigUpdateDram_patched`: the loop writes a
  first part of the words, and all of them when it succeeds.
-/
import A733Boot.Library.Memory

namespace A733Boot.Fdt

/-! ### The header -/

def fdtFirstSupportedVersion : ℕ := 0x10
def fdtLastSupportedVersion : ℕ := 0x11
def fdtMagicWord : ℕ := 0xd00dfeed
def fdtSwMagicWord : ℕ := 0xffffffff - fdtMagicWord
def fdtErrNospace : ℤ := 3
def fdtErrBadstate : ℤ := 7
def fdtErrBadmagic : ℤ := 9
def fdtErrBadversion : ℤ := 10

def fdtMagic (fdt : Mem) : ℕ := fdt.loadBe32 0
def fdtTotalsize (fdt : Mem) : ℕ := fdt.loadBe32 4
def fdtVersion (fdt : Mem) : ℕ := fdt.loadBe32 20
def fdtLastCompVersion (fdt : Mem) : ℕ := fdt.loadBe32 24
def fdtSizeDtStruct (fdt : Mem) : ℕ := fdt.loadBe32 36

def fdtCheckHeader (fdt : Mem) : ℤ :=
  if fdtMagic fdt = fdtMagicWord then
    if fdtVersion fdt < fdtFirstSupportedVersion then -fdtErrBadversion
    else if fdtLastSupportedVersion < fdtLastCompVersion fdt then -fdtErrBadversion
    else 0
  else if fdtMagic fdt = fdtSwMagicWord then
    if fdtSizeDtStruct fdt = 0 then -fdtErrBadstate else 0
  else -fdtErrBadmagic

/-! ### The walks over the tree -/

/-- The two read-only walks of libfdt, over the bytes of a tree: the offset of the
node at a path (negative for an error), and the place and length of the value of a
property of a node. -/
structure Libfdt where
  pathOffset : Mem → List Char → ℤ
  getprop : Mem → ℤ → List Char → Except ℤ (ℕ × ℤ)

/-- The value is converted to big-endian and written over the old one, provided that
has the same length. -/
def fdtSetpropInplaceU32 (f : Libfdt) (m : Mem) (fdt : ℕ) (node : ℤ) (name : List Char)
    (val : UInt32) : ℤ × Mem :=
  match f.getprop (m.view fdt) node name with
  | .error proplen => (proplen, m)
  | .ok (propval, proplen) =>
      if proplen ≠ 4 then (-fdtErrNospace, m) else (0, m.storeBe32 (fdt + propval) val)

/-- The text of a C string: no character is zero, and each is a byte. -/
def IsText (l : List Char) : Prop := ∀ c ∈ l, 0 < c.toNat ∧ c.toNat < 256

instance (l : List Char) : Decidable (IsText l) := List.decidableBAll _ l

/-- A full path: it begins at the root, and its length is an `int`. -/
def IsFullPath (path : List Char) : Prop :=
  path.head? = some '/' ∧ IsText path ∧ path.length < 2 ^ 31

instance (path : List Char) : Decidable (IsFullPath path) :=
  inferInstanceAs (Decidable (_ ∧ _ ∧ _))

/-- A full path leads to the node. -/
def Libfdt.Reaches (f : Libfdt) (b : Mem) (node : ℤ) : Prop :=
  0 ≤ node ∧ ∃ path, IsFullPath path ∧ f.pathOffset b path = node

/-- Full paths lead to the same nodes in `b'` as in `b`, and the properties of these are found at
the same places. -/
structure Libfdt.Alike (f : Libfdt) (b b' : Mem) : Prop where
  path : ∀ path, IsFullPath path → f.pathOffset b' path = f.pathOffset b path
  prop : ∀ node name, f.Reaches b node → IsText name →
    f.getprop b' node name = f.getprop b node name

/-- What `libfdt.h` documents, for the trees of a class `W`. -/
structure Libfdt.Documented (f : Libfdt) (W : Mem → Prop) : Prop where
  /-- The value of a property lies behind the header and inside the tree. -/
  inside : ∀ b node name o len, W b → f.Reaches b node → IsText name →
    f.getprop b node name = .ok (o, len) → 40 ≤ o ∧ (o : ℤ) + len ≤ fdtTotalsize b
  /-- The values of two properties of a node do not overlap. -/
  disjoint : ∀ b node p q o o', W b → f.Reaches b node → IsText p → IsText q → p ≠ q →
    f.getprop b node p = .ok (o, 4) → f.getprop b node q = .ok (o', 4) → o + 4 ≤ o' ∨ o' + 4 ≤ o
  /-- Replacing a value in place neither alters nor moves any other part. -/
  inplace : ∀ b node name o v, W b → f.Reaches b node → IsText name →
    f.getprop b node name = .ok (o, 4) → W (b.storeBe32 o v) ∧ f.Alike b (b.storeBe32 o v)
  /-- The walks stay within the tree. -/
  within : ∀ b b', W b → (∀ i < fdtTotalsize b, b i = b' i) → W b' ∧ f.Alike b b'

section Alike

variable {f : Libfdt} {b b' b'' : Mem} {node : ℤ}

lemma Libfdt.Alike.refl (f : Libfdt) (b : Mem) : f.Alike b b := ⟨fun _ _ => rfl, fun _ _ _ _ => rfl⟩

lemma Libfdt.Alike.reaches (h : f.Alike b b') (hnode : f.Reaches b node) : f.Reaches b' node := by
  obtain ⟨hpos, path, hpath, rfl⟩ := hnode
  exact ⟨hpos, path, hpath, h.path path hpath⟩

lemma Libfdt.Alike.trans (h : f.Alike b b') (h' : f.Alike b' b'') : f.Alike b b'' where
  path path hpath := (h'.path path hpath).trans (h.path path hpath)
  prop node name hnode hname :=
    (h'.prop node name (h.reaches hnode) hname).trans (h.prop node name hnode hname)

end Alike

/-! ### `a733_hw_config_update_dram` -/

def a733DramParaCount : ℕ := 96

/-- `"/dram"`. -/
def dramPath : List Char := ['/', 'd', 'r', 'a', 'm']

/-- `"dram_para"`. -/
def dramPara : List Char := ['d', 'r', 'a', 'm', '_', 'p', 'a', 'r', 'a']

/-- The property name of a word: the last two characters of `"dram_para00"` are
replaced by the two digits of the index. -/
def dramParaProperty (index : ℕ) : List Char :=
  dramPara ++ [Char.ofNat ('0'.toNat + index / 10), Char.ofNat ('0'.toNat + index % 10)]

/-- The loop of the update from `index` on, with `n` words to go. -/
def updateDramFrom (f : Libfdt) (fdt : ℕ) (node : ℤ) (para : ℕ → UInt32) :
    ℕ → ℕ → Mem → ℤ × Mem
  | 0, _, m => (0, m)
  | n + 1, index, m =>
      match f.getprop (m.view fdt) node (dramParaProperty index) with
      | .error _ => (-1, m)
      | .ok (_, length) =>
          if length ≠ 4 then (-1, m)
          else
            let r := fdtSetpropInplaceU32 f m fdt node (dramParaProperty index) (para index)
            if r.1 ≠ 0 then (-1, r.2) else updateDramFrom f fdt node para n (index + 1) r.2

/-- The address `fdt` is zero for a null pointer. -/
def a733HwConfigUpdateDram (f : Libfdt) (m : Mem) (fdt loadedSize : ℕ)
    (para : Option (ℕ → UInt32)) (count : ℕ) : ℤ × Mem :=
  match para with
  | none => (-1, m)
  | some para =>
      if fdt = 0 ∨ count ≠ a733DramParaCount ∨ fdtCheckHeader (m.view fdt) ≠ 0 ∨
          loadedSize < fdtTotalsize (m.view fdt) then (-1, m)
      else
        let node := f.pathOffset (m.view fdt) dramPath
        if node < 0 then (-1, m) else updateDramFrom f fdt node para a733DramParaCount 0 m

/-! ### What the update leaves -/

/-- The index a property name was made from. -/
def propertyIndex (name : List Char) : ℕ :=
  ((name.getD 9 '0').toNat - '0'.toNat) * 10 + ((name.getD 10 '0').toNat - '0'.toNat)

lemma propertyIndex_dramParaProperty : ∀ i < 96, propertyIndex (dramParaProperty i) = i := by
  decide

lemma dramParaProperty_injective {i j : ℕ} (hi : i < 96) (hj : j < 96)
    (h : dramParaProperty i = dramParaProperty j) : i = j := by
  rw [← propertyIndex_dramParaProperty i hi, h, propertyIndex_dramParaProperty j hj]

lemma dramParaProperty_isText : ∀ i < 96, IsText (dramParaProperty i) := by decide

lemma dramPath_isFullPath : IsFullPath dramPath := by decide

section Patched

variable {f : Libfdt} {W : Mem → Prop} {fdt : ℕ} {node : ℤ} {para : ℕ → UInt32} {m₀ m : Mem} {k : ℕ}

/-- The memory `m` is `m₀` with the first `k` words written into the tree at `fdt`:
the tree has its structure, the words stand in their properties, and every byte
outside those is as before. -/
structure Patched (f : Libfdt) (W : Mem → Prop) (fdt : ℕ) (node : ℤ) (para : ℕ → UInt32)
    (m₀ : Mem) (k : ℕ) (m : Mem) : Prop where
  tree : W (m.view fdt)
  alike : f.Alike (m₀.view fdt) (m.view fdt)
  done : ∀ i < k, ∃ o, f.getprop (m₀.view fdt) node (dramParaProperty i) = .ok (o, 4) ∧
    (m.view fdt).loadBe32 o = (para i).toNat
  frame : ∀ a, (∀ i < k, ∀ o, f.getprop (m₀.view fdt) node (dramParaProperty i) = .ok (o, 4) →
    a < fdt + o ∨ fdt + o + 4 ≤ a) → m a = m₀ a

lemma Patched.zero (h : W (m.view fdt)) : Patched f W fdt node para m 0 m :=
  ⟨h, .refl _ _, fun i hi => absurd hi (by omega), fun _ _ => rfl⟩

/-- The properties of the words are found where they were. -/
lemma Patched.getprop (hp : Patched f W fdt node para m₀ k m)
    (hnode : f.Reaches (m₀.view fdt) node) {i : ℕ} (hi : i < 96) :
    f.getprop (m.view fdt) node (dramParaProperty i)
      = f.getprop (m₀.view fdt) node (dramParaProperty i) :=
  hp.alike.prop node _ hnode (dramParaProperty_isText i hi)

/-- One word more: the earlier ones stay because their values do not overlap. -/
lemma Patched.succ (hdoc : f.Documented W) (hp : Patched f W fdt node para m₀ k m)
    (hnode : f.Reaches (m₀.view fdt) node) (hk : k < 96)
    {o : ℕ} (ho : f.getprop (m₀.view fdt) node (dramParaProperty k) = .ok (o, 4)) :
    Patched f W fdt node para m₀ (k + 1) (m.storeBe32 (fdt + o) (para k)) := by
  have hnode' := hp.alike.reaches hnode
  have htext := dramParaProperty_isText k hk
  have hnow : f.getprop (m.view fdt) node (dramParaProperty k) = .ok (o, 4) :=
    (hp.getprop hnode hk).trans ho
  obtain ⟨htree, halike⟩ := hdoc.inplace _ _ _ _ (para k) hp.tree hnode' htext hnow
  refine ⟨?_, ?_, fun i hi => ?_, fun a ha => ?_⟩
  · rwa [Mem.view_storeBe32]
  · rw [Mem.view_storeBe32]
    exact hp.alike.trans halike
  · rw [Mem.view_storeBe32]
    rcases Nat.lt_succ_iff_lt_or_eq.mp hi with hlt | rfl
    · obtain ⟨o', ho', hval⟩ := hp.done i hlt
      have hi' : i < 96 := by omega
      have hne : dramParaProperty i ≠ dramParaProperty k := fun h =>
        absurd (dramParaProperty_injective hi' hk h) (by omega)
      have hapart := hdoc.disjoint _ _ _ _ _ _ hp.tree hnode' (dramParaProperty_isText i hi') htext
        hne ((hp.getprop hnode hi').trans ho') hnow
      refine ⟨o', ho', (Mem.loadBe32_congr fun j hj => ?_).trans hval⟩
      exact Mem.storeBe32_outside _ _ (by omega)
    · exact ⟨o, ho, Mem.loadBe32_storeBe32 _ _ _⟩
  · have hout := ha k (by omega) o ho
    rw [Mem.storeBe32_outside _ _ (by omega)]
    exact hp.frame a fun i hi => ha i (by omega)

/-- The loop carries the patch forward; it has written all words when it returns
zero. -/
lemma updateDramFrom_patched (hdoc : f.Documented W) (hnode : f.Reaches (m₀.view fdt) node)
    (n : ℕ) (hn : k + n ≤ 96) (hp : Patched f W fdt node para m₀ k m) :
    ∃ k', k' ≤ k + n ∧ Patched f W fdt node para m₀ k' (updateDramFrom f fdt node para n k m).2 ∧
      ((updateDramFrom f fdt node para n k m).1 = 0 → k' = k + n) := by
  induction n generalizing k m with
  | zero => exact ⟨k, le_rfl, hp, fun _ => rfl⟩
  | succ n ih =>
      have hstop : ∃ k', k' ≤ k + (n + 1) ∧ Patched f W fdt node para m₀ k' m ∧
          ((-1 : ℤ) = 0 → k' = k + (n + 1)) :=
        ⟨k, by omega, hp, fun h => absurd h (by decide)⟩
      rw [updateDramFrom]
      rcases hget : f.getprop (m.view fdt) node (dramParaProperty k) with e | ⟨o, len⟩
      · exact hstop
      by_cases hlen : len = 4
      · subst hlen
        have hset : fdtSetpropInplaceU32 f m fdt node (dramParaProperty k) (para k)
            = (0, m.storeBe32 (fdt + o) (para k)) := by
          simp [fdtSetpropInplaceU32, hget]
        have hk : k < 96 := by omega
        have hnext := hp.succ hdoc hnode hk ((hp.getprop hnode hk).symm.trans hget)
        obtain ⟨k', hle, hpatched, hzero⟩ := ih (by omega) hnext
        simp only [ne_eq, not_true_eq_false, if_false, hset]
        exact ⟨k', by omega, hpatched, fun h => by rw [hzero h]; omega⟩
      · simp only [ne_eq, hlen, not_false_eq_true, if_true]
        exact hstop

/-- The path `/dram` leads to its node. -/
lemma reaches_dram {b : Mem} (h : 0 ≤ f.pathOffset b dramPath) :
    f.Reaches b (f.pathOffset b dramPath) := ⟨h, dramPath, dramPath_isFullPath, rfl⟩

/-- The update writes a first part of the words, and all 96 when it succeeds; it
then has seen a valid header and a tree no larger than it was told. -/
lemma a733HwConfigUpdateDram_patched (hdoc : f.Documented W) (hW : W (m.view fdt))
    (loadedSize count : ℕ) (para : ℕ → UInt32) :
    ∃ k ≤ 96, (0 < k → 0 ≤ f.pathOffset (m.view fdt) dramPath) ∧
      Patched f W fdt (f.pathOffset (m.view fdt) dramPath) para m k
        (a733HwConfigUpdateDram f m fdt loadedSize (some para) count).2 ∧
      ((a733HwConfigUpdateDram f m fdt loadedSize (some para) count).1 = 0 → k = 96) := by
  have hstop : ∃ k ≤ 96, (0 < k → 0 ≤ f.pathOffset (m.view fdt) dramPath) ∧
      Patched f W fdt (f.pathOffset (m.view fdt) dramPath) para m k m ∧
      ((-1 : ℤ) = 0 → k = 96) :=
    ⟨0, by omega, fun h => absurd h (by decide), Patched.zero hW, fun h => absurd h (by decide)⟩
  simp only [a733HwConfigUpdateDram]
  split
  · exact hstop
  · split
    · exact hstop
    next hnode =>
      obtain ⟨k, hk, hpatched, hzero⟩ := updateDramFrom_patched hdoc
        (reaches_dram (Int.not_lt.mp hnode)) 96 (by omega)
        (Patched.zero hW : Patched f W fdt (f.pathOffset (m.view fdt) dramPath) para m 0 m)
      exact ⟨k, by omega, fun _ => Int.not_lt.mp hnode, hpatched, fun h => by simpa using hzero h⟩

/-- The values of the words lie inside the tree, behind its header. -/
lemma Patched.keeps (hdoc : f.Documented W) (hW : W (m₀.view fdt))
    (hnode : 0 < k → f.Reaches (m₀.view fdt) node) (hp : Patched f W fdt node para m₀ k m)
    (hk : k ≤ 96) {a : ℕ} (ha : a < fdt + 40 ∨ fdt + fdtTotalsize (m₀.view fdt) ≤ a) :
    m a = m₀ a := by
  refine hp.frame a fun i hi o ho => ?_
  have hinside := hdoc.inside _ _ _ _ _ hW (hnode (by omega))
    (dramParaProperty_isText i (by omega)) ho
  omega

/-- Two trees with the same header pass the same check. -/
lemma fdtCheckHeader_congr {b b' : Mem} (h : ∀ i < 40, b i = b' i) :
    fdtCheckHeader b = fdtCheckHeader b' ∧ fdtTotalsize b = fdtTotalsize b' := by
  have hword : ∀ o, o + 4 ≤ 40 → b.loadBe32 o = b'.loadBe32 o := fun o ho =>
    Mem.loadBe32_congr fun i hi => h _ (by omega)
  have hmagic : fdtMagic b = fdtMagic b' := hword 0 (by omega)
  have hversion : fdtVersion b = fdtVersion b' := hword 20 (by omega)
  have hlast : fdtLastCompVersion b = fdtLastCompVersion b' := hword 24 (by omega)
  have hstruct : fdtSizeDtStruct b = fdtSizeDtStruct b' := hword 36 (by omega)
  refine ⟨?_, hword 4 (by omega)⟩
  rw [fdtCheckHeader, fdtCheckHeader, hmagic, hversion, hlast, hstruct]

end Patched

end A733Boot.Fdt
