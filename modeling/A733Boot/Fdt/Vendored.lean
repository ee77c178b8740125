/-
The walks of `ar100s/library/libfdt`, which both programs are built with, as the two walks that
the models of the programs take.

* `vendored`: the walks, over strings of characters;
* `IsTree`: the bytes that are a tree;
* `vendored_path`, `vendored_found`: what the walks find in a tree;
* `vendored_documented` (**what is relied on holds**): on the bytes that are a tree the walks do
  what `libfdt.h` documents of them.
-/
import A733Boot.Fdt.Edits

namespace A733Boot.Fdt

open Mem

def charBytes (l : List Char) : List UInt8 := l.map fun c => UInt8.ofNat c.toNat

/-- The walks of the library. Where one does not return, which on a tree none does, nothing is
said of it. -/
def vendored : Libfdt where
  pathOffset fdt path := (fdtPathOffset fdt (charBytes path)).getD (-fdtErrInternal)
  getprop fdt node name :=
    (fdtGetprop fdt node (charBytes name)).getD (.error (-fdtErrInternal))

/-- The bytes are a tree. -/
def IsTree (b : Mem) : Prop := ∃ root, Encodes b root

section Text

variable {l l' : List Char}

lemma zero_notMem_charBytes (h : IsText l) : 0 ∉ charBytes l := by
  intro hmem
  obtain ⟨c, hc, hzero⟩ := List.mem_map.mp hmem
  obtain ⟨hpos, hlt⟩ := h c hc
  have hnat := congrArg UInt8.toNat hzero
  rw [UInt8.toNat_ofNat_of_lt' hlt] at hnat
  exact absurd hnat hpos.ne'

lemma charBytes_injective (h : IsText l) (h' : IsText l') (heq : charBytes l = charBytes l') :
    l = l' := by
  induction l generalizing l' with
  | nil =>
    cases l' with
    | nil => rfl
    | cons c' l' => exact absurd heq (List.cons_ne_nil _ _).symm
  | cons c l ih =>
    cases l' with
    | nil => exact absurd heq (List.cons_ne_nil _ _)
    | cons c' l' =>
      obtain ⟨hfirst, hrest⟩ := List.cons.inj heq
      have hlt := (h c List.mem_cons_self).2
      have hlt' := (h' c' List.mem_cons_self).2
      have hnat := congrArg UInt8.toNat hfirst
      rw [UInt8.toNat_ofNat_of_lt' hlt, UInt8.toNat_ofNat_of_lt' hlt'] at hnat
      rw [Char.toNat_inj.mp hnat,
        ih (fun c hc => h c (List.mem_cons_of_mem _ hc))
          (fun c hc => h' c (List.mem_cons_of_mem _ hc)) hrest]

lemma charBytes_path (h : IsFullPath l) :
    (charBytes l).head? = some slash ∧ 0 ∉ charBytes l ∧ (charBytes l).length < 2 ^ 31 := by
  obtain ⟨hhead, htext, hlen⟩ := h
  refine ⟨?_, zero_notMem_charBytes htext, by rwa [charBytes, List.length_map]⟩
  rw [charBytes, List.head?_map, hhead]
  rfl

end Text

/-! ### What the walks find -/

section Walks

variable {b b' : Mem} {root : Node} {node : ℤ} {name path : List Char}
  {parts : List (List UInt8)} {r : ℕ × Node}

lemma vendored_path (h : Encodes b root) (hpath : IsFullPath path) :
    vendored.pathOffset b path =
      (root.resolve 0 (components (charBytes path))).elim (-fdtErrNotfound) fun r => (r.1 : ℤ) := by
  obtain ⟨hroot, hzero, hlen⟩ := charBytes_path hpath
  simp only [vendored, fdtPathOffset_root h hroot hzero hlen, Option.getD_some]

lemma vendored_reaches (h : Encodes b root) (hnode : vendored.Reaches b node) :
    ∃ path r, IsFullPath path ∧ root.resolve 0 (components (charBytes path)) = some r ∧
      node = r.1 := by
  obtain ⟨hpos, path, hpath, rfl⟩ := hnode
  rw [vendored_path h hpath] at hpos ⊢
  cases hr : root.resolve 0 (components (charBytes path)) with
  | none =>
    rw [hr] at hpos
    exact absurd hpos (by decide)
  | some r => exact ⟨path, r, hpath, hr, rfl⟩

/-- A property that is found is one of the tree. -/
lemma vendored_found (h : Encodes b root) (hr : root.resolve 0 parts = some r) {o : ℕ} {len : ℤ}
    (hget : vendored.getprop b r.1 name = .ok (o, len)) :
    ∃ q, Found root parts (charBytes name) r q ∧ o = fdtOffDtStruct b + q.1 + 12 ∧
      len = q.2.value.length := by
  obtain ⟨⟨us, hus⟩, hnames⟩ := h.resolve_spec hr
  simp only [vendored, fdtGetprop_eq h.toFramed hus hnames, Option.getD_some] at hget
  cases hq : prop? (charBytes name) (r.1 + fdtTokens.size (.beginNode r.2.name)) r.2.props with
  | none =>
    rw [hq] at hget
    cases hget
  | some q =>
    rw [hq, Option.elim_some, Except.ok.injEq, Prod.mk.injEq] at hget
    exact ⟨q, ⟨hr, hq⟩, hget.1.symm, hget.2.symm⟩

/-- The value that is found is inside of the structure block. -/
lemma Found.inside {s : List UInt8} {q : ℕ × Property} (h : Encodes b root)
    (hq : Found root parts s r q) :
    40 ≤ fdtOffDtStruct b + q.1 + 12 ∧
      fdtOffDtStruct b + q.1 + 12 + q.2.value.length ≤ fdtTotalsize b := by
  have hin := prop_inside h hq.1 hq.2
  have hround := le_alignUp (12 + q.2.value.length)
  have hbehind := h.behind
  have hinside := h.inside
  rw [show fdtTokens.size (.prop q.2.nameoff q.2.value) = alignUp (12 + q.2.value.length) from rfl]
    at hin
  omega

/-- The walks in bytes that agree with those of a tree inside of it. -/
lemma vendored_within (h : Encodes b root) (hsame : ∀ i < fdtTotalsize b, b i = b' i) :
    vendored.Alike b b' := by
  have h' := h.congr fun i hi => (hsame i hi).symm
  have hbehind := h.behind
  have hinside := h.inside
  have hoff : fdtOffDtStruct b' = fdtOffDtStruct b :=
    Mem.loadBe32_congr fun i hi => (hsame _ (by omega)).symm
  refine ⟨fun path hpath => ?_, fun node name hnode _ => ?_⟩
  · rw [vendored_path h' hpath, vendored_path h hpath]
  · obtain ⟨path, r, -, hr, rfl⟩ := vendored_reaches h hnode
    obtain ⟨-, -, hget⟩ := getprop_of_blank h h' hoff rfl hr
    simp only [vendored, hget]

/-- The walks after a value was set. -/
lemma vendored_inplace (h : Encodes b root) {s v : List UInt8} {q : ℕ × Property}
    (hq : Found root parts s r q) (hlen : v.length = q.2.value.length) :
    vendored.Alike b (b.storeBytes (fdtOffDtStruct b + q.1 + 12) v) := by
  have h' := h.set hq.1 hq.2 hlen
  have hlook : ∀ path, IsFullPath path → _ := fun path hpath =>
    have ⟨hroot, hzero, hlong⟩ := charBytes_path hpath
    set_lookup h hq hlen (fdtPathOffset_root h hroot hzero hlong)
      (fdtPathOffset_root h' hroot hzero hlong)
  refine ⟨fun path hpath => ?_, fun node name hnode _ => ?_⟩
  · simp only [vendored, (hlook path hpath).1]
  · obtain ⟨path, r', hpath, hr', rfl⟩ := vendored_reaches h hnode
    obtain ⟨hroot, hzero, hlong⟩ := charBytes_path hpath
    have hleads := fdtPathOffset_root h hroot hzero hlong
    rw [hr', Option.elim_some] at hleads
    simp only [vendored, ((hlook path hpath).2 r'.1 hleads (charBytes name)).1]

/-- **What is relied on holds**: on the bytes that are a tree the library does what its header
documents. -/
theorem vendored_documented : vendored.Documented IsTree where
  inside := by
    rintro b node name o len ⟨root, h⟩ hnode - hget
    obtain ⟨path, r, -, hr, rfl⟩ := vendored_reaches h hnode
    obtain ⟨q, hq, rfl, rfl⟩ := vendored_found h hr hget
    exact_mod_cast hq.inside h
  disjoint := by
    rintro b node p p' o o' ⟨root, h⟩ hnode hp hp' hne hget hget'
    obtain ⟨path, r, -, hr, rfl⟩ := vendored_reaches h hnode
    obtain ⟨q, hq, rfl, hlen⟩ := vendored_found h hr hget
    obtain ⟨q', hq', rfl, hlen'⟩ := vendored_found h hr hget'
    rcases hq.cases h hq' with ⟨-, hsame, -⟩ | hbefore | hbehind
    · exact absurd (charBytes_injective hp hp' hsame.symm) hne
    · exact .inr (by omega)
    · exact .inl (by omega)
  inplace := by
    rintro b node name o v ⟨root, h⟩ hnode - hget
    obtain ⟨path, r, -, hr, rfl⟩ := vendored_reaches h hnode
    obtain ⟨q, hq, rfl, hlen⟩ := vendored_found h hr hget
    have hlen' : (Mem.be32 v).length = q.2.value.length := by
      have hfour : (Mem.be32 v).length = 4 := rfl
      omega
    rw [Mem.storeBe32_eq_storeBytes]
    exact ⟨⟨_, h.set hq.1 hq.2 hlen'⟩, vendored_inplace h hq hlen'⟩
  within := by
    rintro b b' ⟨root, h⟩ hsame
    exact ⟨⟨root, h.congr fun i hi => (hsame i hi).symm⟩, vendored_within h hsame⟩

end Walks

end A733Boot.Fdt
