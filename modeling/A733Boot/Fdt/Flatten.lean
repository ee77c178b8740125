/-
The flattened form of a tree: the bytes of a version 17 blob, and that they are the tree.

* `Token.bytes`: the bytes of a token, with its padding;
* `blob`: header, an empty memory reservation block, the structure block and the strings;
* `blob_encodes` (**every tree has a blob**): the blob of a tree stands for the tree, whatever
  the tree, as long as its parts fit into 31 bits and the strings have the names where the
  properties say.
-/
import A733Boot.Fdt.Tree

namespace A733Boot.Fdt

/-- The bytes behind the tag, without the padding. -/
def Token.body : Token → List UInt8
  | beginNode name => name ++ [0]
  | prop nameoff value =>
      Mem.be32 (UInt32.ofNat value.length) ++ Mem.be32 (UInt32.ofNat nameoff) ++ value
  | _ => []

def Token.bytes (t : Token) : List UInt8 :=
  Mem.be32 (UInt32.ofNat t.tag) ++ t.body ++ List.replicate (fdtTokens.size t - t.length) 0

/-- The token can be written: a name has no zero byte, and the words of a property fit. -/
def Token.Valid : Token → Prop
  | beginNode name => 0 ∉ name
  | prop nameoff value => value.length < 2 ^ 32 ∧ nameoff < 2 ^ 32
  | _ => True

instance : DecidablePred Token.Valid
  | .beginNode name => inferInstanceAs (Decidable (0 ∉ name))
  | .prop nameoff value => inferInstanceAs (Decidable (value.length < 2 ^ 32 ∧ nameoff < 2 ^ 32))
  | .endNode => .isTrue trivial
  | .nop => .isTrue trivial
  | .finish => .isTrue trivial

section Tokens

variable {m : Mem} {o : ℕ} {t : Token} {ts : List Token}

lemma bytes_length (t : Token) : t.bytes.length = fdtTokens.size t := by
  have hle : t.length ≤ fdtTokens.size t := (le_alignUp t.length).1
  have hbody : t.body.length + 4 = t.length := by
    cases t with
    | beginNode name =>
      rw [Token.body, Token.length, List.length_append, List.length_singleton]
      omega
    | prop nameoff value =>
      rw [Token.body, Token.length, List.length_append, List.length_append]
      simp only [Mem.be32, List.length_cons, List.length_nil]
      omega
    | endNode => rfl
    | nop => rfl
    | finish => rfl
  rw [Token.bytes, List.length_append, List.length_append, List.length_replicate]
  simp only [Mem.be32, List.length_cons, List.length_nil]
  omega

lemma toNat_ofNat_of_lt {n : ℕ} (h : n < 2 ^ 32) : (UInt32.ofNat n).toNat = n :=
  UInt32.toNat_ofNat_of_lt' h

/-- A token whose bytes are in place stands there. -/
lemma at_of_holds (hvalid : t.Valid) (h : m.Holds o t.bytes) : fdtTokens.At m o t := by
  rw [Token.bytes, Mem.holds_append, Mem.holds_append] at h
  obtain ⟨⟨htag, hbody⟩, -⟩ := h
  have hbody' : m.Holds (o + 4) t.body := hbody
  refine ⟨?_, ?_⟩
  · rw [htag.loadBe32, toNat_ofNat_of_lt]
    cases t <;> norm_num [Token.tag, fdtBeginNode, fdtEndNode, fdtProp, fdtNop, fdtEnd]
  · cases t with
    | beginNode name =>
      obtain ⟨hname, hzero⟩ := Mem.holds_append.mp hbody'
      exact ⟨hname, hvalid, (Mem.holds_cons.mp hzero).1⟩
    | prop nameoff value =>
      rw [Token.body, Mem.holds_append, Mem.holds_append] at hbody'
      obtain ⟨⟨hlen, hname⟩, hvalue⟩ := hbody'
      refine ⟨?_, ?_, hvalue⟩
      · rw [hlen.loadBe32, toNat_ofNat_of_lt hvalid.1]
      · rw [← toNat_ofNat_of_lt hvalid.2, ← hname.loadBe32]
        rfl
    | endNode => trivial
    | nop => trivial
    | finish => trivial

lemma flatMap_bytes_length (ts : List Token) :
    (ts.flatMap Token.bytes).length = fdtTokens.sizes ts := by
  induction ts with
  | nil => rfl
  | cons t ts ih => rw [List.flatMap_cons, List.length_append, ih, bytes_length, TokenKind.sizes_cons]

lemma laid_of_holds (hvalid : ∀ t ∈ ts, t.Valid) (h : m.Holds o (ts.flatMap Token.bytes)) :
    fdtTokens.Laid m o ts := by
  induction ts generalizing o with
  | nil => trivial
  | cons t ts ih =>
    rw [List.flatMap_cons, Mem.holds_append, bytes_length] at h
    exact ⟨at_of_holds (hvalid t List.mem_cons_self) h.1,
      ih (fun u hu => hvalid u (List.mem_cons_of_mem t hu)) h.2⟩

/-- Words in place, one behind the other. -/
lemma loadBe32_words {a : ℕ} {ws : List ℕ}
    (h : m.Holds a (ws.flatMap fun w => Mem.be32 (UInt32.ofNat w))) (hws : ∀ w ∈ ws, w < 2 ^ 32)
    {k : ℕ} (hk : k < ws.length) : m.loadBe32 (a + 4 * k) = ws[k] := by
  induction ws generalizing a k with
  | nil => exact absurd hk (Nat.not_lt_zero k)
  | cons w ws ih =>
    rw [List.flatMap_cons, Mem.holds_append] at h
    cases k with
    | zero => exact h.1.loadBe32.trans (toNat_ofNat_of_lt (hws w List.mem_cons_self))
    | succ k =>
      rw [show a + 4 * (k + 1) = a + 4 + 4 * k by omega]
      exact ih h.2 (fun x hx => hws x (List.mem_cons_of_mem w hx)) _

end Tokens

/-! ### The blob -/

/-- The tokens of the structure block. -/
def Node.stream (root : Node) : List Token := root.tokens ++ [.finish]

/-- The words of the header. -/
def headerWords (structSize stringsSize : ℕ) : List ℕ :=
  [fdtMagicWord, 56 + structSize + stringsSize, 56, 56 + structSize, 40, 17, 16, 0, stringsSize,
    structSize]

/-- The memory reservation block is one entry of zeros. -/
def blob (root : Node) (strings : List UInt8) : List UInt8 :=
  let block := root.stream.flatMap Token.bytes
  (headerWords block.length strings.length).flatMap (fun w => Mem.be32 (UInt32.ofNat w)) ++
    (List.replicate 16 0 ++ (block ++ strings))

/-- The tree can be written with these strings. -/
structure Node.Valid (root : Node) (strings : List UInt8) : Prop where
  tokens : ∀ t ∈ root.stream, t.Valid
  names : ∀ p ∈ root.properties, 0 ∉ p.name ∧ p.name ++ [0] <+: strings.drop p.nameoff
  size : 56 + fdtTokens.sizes root.stream + strings.length + 4 ≤ 2 ^ 31

section Blob

variable {root : Node} {strings : List UInt8}

/-- Where the parts of the blob are. -/
lemma blob_parts (root : Node) (strings : List UInt8) :
    (Mem.ofList (blob root strings)).Holds 0
      ((headerWords (fdtTokens.sizes root.stream) strings.length).flatMap
        fun w => Mem.be32 (UInt32.ofNat w)) ∧
    (Mem.ofList (blob root strings)).Holds (56 + 0) (root.stream.flatMap Token.bytes) ∧
    (Mem.ofList (blob root strings)).Holds (56 + fdtTokens.sizes root.stream) strings := by
  have hlen := flatMap_bytes_length root.stream
  obtain ⟨hheader, hrest⟩ := Mem.holds_append.mp (Mem.holds_ofList (blob root strings))
  obtain ⟨-, hblock⟩ := Mem.holds_append.mp hrest
  obtain ⟨hblock, hstrings⟩ := Mem.holds_append.mp hblock
  rw [hlen] at hheader hstrings
  exact ⟨hheader, hblock, hstrings⟩

/-- The fields of the header. -/
lemma blob_header (h : root.Valid strings) {fdt : Mem} (hfdt : fdt = Mem.ofList (blob root strings)) :
    fdtMagic fdt = fdtMagicWord ∧
      fdtTotalsize fdt = 56 + fdtTokens.sizes root.stream + strings.length ∧
      fdtOffDtStruct fdt = 56 ∧ fdtOffDtStrings fdt = 56 + fdtTokens.sizes root.stream ∧
      fdtVersion fdt = 17 ∧ fdtLastCompVersion fdt = 16 ∧
      fdtSizeDtStruct fdt = fdtTokens.sizes root.stream := by
  have hsize := h.size
  have hfit : ∀ w ∈ headerWords (fdtTokens.sizes root.stream) strings.length, w < 2 ^ 32 := by
    simp only [headerWords, fdtMagicWord, List.mem_cons, List.not_mem_nil, or_false]
    rintro w (rfl | rfl | rfl | rfl | rfl | rfl | rfl | rfl | rfl | rfl) <;> omega
  have hword : ∀ k (hk : k < 10), fdt.loadBe32 (0 + 4 * k)
      = (headerWords (fdtTokens.sizes root.stream) strings.length)[k] := fun k hk =>
    loadBe32_words (hfdt ▸ (blob_parts root strings).1) hfit hk
  exact ⟨hword 0 (by decide), hword 1 (by decide), hword 2 (by decide), hword 3 (by decide),
    hword 5 (by decide), hword 6 (by decide), hword 9 (by decide)⟩

/-- The total size in the header is the length of the blob. -/
lemma blob_length (root : Node) (strings : List UInt8) :
    (blob root strings).length = 56 + fdtTokens.sizes root.stream + strings.length := by
  have hlen := flatMap_bytes_length root.stream
  have hheader : ∀ ws : List ℕ, (ws.flatMap fun w => Mem.be32 (UInt32.ofNat w)).length
      = 4 * ws.length := by
    intro ws
    rw [List.length_flatMap]
    simp [Mem.be32, Nat.mul_comm]
  simp only [blob, List.length_append, hheader, headerWords, List.length_cons, List.length_nil,
    List.length_replicate, hlen]
  omega

/-- **Every tree has a blob**: the flattened tree stands for the tree. -/
lemma blob_encodes (h : root.Valid strings) : Encodes (Mem.ofList (blob root strings)) root := by
  have hsize := h.size
  obtain ⟨-, hblock, hstrings⟩ := blob_parts root strings
  obtain ⟨hmagic, htotal, hoff, hstr, hversion, hlast, hstruct⟩ := blob_header h rfl
  refine ⟨?_, ⟨by rw [hversion], by rw [hstruct]; omega⟩, by rw [hoff]; decide,
    by rw [hoff, hstruct, htotal]; omega, ?_, by rw [hstruct]; exact le_rfl, fun p hp => ?_⟩
  · rw [fdtCheckHeader, hmagic, hversion, hlast, if_pos rfl, if_neg (by decide), if_neg (by decide)]
  · rw [structBlock, hoff]
    exact laid_of_holds h.tokens hblock.view
  · obtain ⟨hzero, hpre⟩ := h.names p hp
    have hle := hpre.length_le
    rw [List.length_append, List.length_singleton, List.length_drop] at hle
    have hname := (hstrings.drop (show p.nameoff ≤ strings.length by omega)).of_isPrefix hpre
    obtain ⟨hbytes, hstop⟩ := Mem.holds_append.mp hname
    refine ⟨⟨by rwa [hstr], hzero, by rw [hstr]; exact (Mem.holds_cons.mp hstop).1⟩, ?_, ?_, ?_⟩
    · rw [hstr, htotal]
      omega
    · rw [hoff, hstruct, hstr]
      omega
    · rw [hstr]
      omega

end Blob

/-- A small tree: an alias for a node with a unit address, which stands behind a NOP. -/
def sampleTree : Node where
  name := []
  props := []
  children :=
    -- aliases
    .node [97, 108, 105, 97, 115, 101, 115]
      -- pmu0 = "/soc/pmu@36"
      [some ⟨[112, 109, 117, 48], 0, [47, 115, 111, 99, 47, 112, 109, 117, 64, 51, 54, 0]⟩] .nil
    -- soc
    (.node [115, 111, 99] []
      -- pmu@36 with the property reg
      (.nop (.node [112, 109, 117, 64, 51, 54] [none, some ⟨[114, 101, 103], 5, [0, 0, 0, 54]⟩]
        .nil .nil))
      .nil)

/-- The strings `pmu0` and `reg`. -/
def sampleStrings : List UInt8 := [112, 109, 117, 48, 0, 114, 101, 103, 0]

lemma sampleTree_valid : sampleTree.Valid sampleStrings where
  tokens := by decide
  names := by decide
  size := by decide

end A733Boot.Fdt
