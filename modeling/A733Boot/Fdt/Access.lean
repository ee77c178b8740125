/-
What a client of the library sees of a tree that stands in memory.

* `Node.find`, `Node.value?`, `Node.read`: nodes, values and paths in the tree itself, with no
  offsets;
* `readValue`: the calls of a client, `fdt_path_offset` and then `fdt_getprop`;
* `readValue_eq_read` (**lookups**): what a client reads is what the tree has, and no byte
  outside of the tree matters;
* `blob_reads_back` (**round trip**): a tree that was flattened reads back, wherever it stands;
* `walk_enumerates` (**walks**): the calls of `fdt_next_node` go through all nodes in preorder,
  and those of `fdt_first_subnode` and `fdt_next_subnode` through the children of each node.
-/
import A733Boot.Fdt.Lookup

namespace A733Boot.Fdt

open Mem

/-- The nodes of a level. -/
def Forest.nodes : Forest → List Node
  | nil => []
  | nop rest => rest.nodes
  | node name props children rest => ⟨name, props, children⟩ :: rest.nodes

/-- The node that the parts of a path lead to. -/
def Node.find (n : Node) : List (List UInt8) → Option Node
  | [] => some n
  | s :: parts =>
      match n.children.nodes.find? fun c => Fits s c.name with
      | none => none
      | some c => c.find parts

/-- The value of the node's first property with the name. -/
def Node.value? (n : Node) (name : List UInt8) : Option (List UInt8) :=
  (n.props.reduceOption.find? fun p => p.name = name).map fun p => p.value

/-- The value of the property of that name of the node at the path. -/
def Node.read (root : Node) (path name : List UInt8) : Except ℤ (List UInt8) :=
  match root.pathParts path with
  | none => .error (-fdtErrBadpath)
  | some parts => (((root.find parts).bind fun n => n.value? name).map Except.ok).getD
      (.error (-fdtErrNotfound))

/-- The bytes of a value. -/
def valueBytes (fdt : Mem) (p : ℕ) (len : ℤ) : List UInt8 :=
  (List.range len.toNat).map fun i => fdt (p + i)

/-- The node at the path, the property of that name, and the bytes of the value. -/
def readValue (fdt : Mem) (path name : List UInt8) : Option (Except ℤ (List UInt8)) := do
  let node ← fdtPathOffset fdt path
  if node < 0 then return .error node
  else
    match ← fdtGetprop fdt node name with
    | .error err => return .error err
    | .ok (p, len) => return .ok (valueBytes fdt p len)

section Find

variable {o : ℕ} {s : List UInt8}

lemma child?_map (f : Forest) :
    (f.child? s o).map Prod.snd = f.nodes.find? fun c => Fits s c.name := by
  induction f generalizing o with
  | nil => rfl
  | nop rest ih => exact ih
  | node name props children rest ihc ihr =>
    rw [Forest.child?, Forest.nodes]
    by_cases hfit : Fits s name
    · rw [if_pos hfit, List.find?_cons_of_pos (by simpa using hfit)]
      rfl
    · rw [if_neg hfit, List.find?_cons_of_neg (by simpa using hfit)]
      exact ihr

/-- The offsets have no part in where a path leads. -/
lemma resolve_map (n : Node) (parts : List (List UInt8)) :
    (n.resolve o parts).map Prod.snd = n.find parts := by
  induction parts generalizing o n with
  | nil => rfl
  | cons part parts ih =>
    rw [Node.resolve, Node.find, ← child?_map (o := childrenAt o n.name n.props)]
    cases n.children.child? part (childrenAt o n.name n.props) with
    | none => rfl
    | some r => exact ih r.2

lemma prop?_map (props : List (Option Property)) :
    (prop? s o props).map Prod.snd = props.reduceOption.find? fun p => p.name = s := by
  induction props generalizing o with
  | nil => rfl
  | cons p props ih =>
    cases p with
    | none => exact ih
    | some p =>
      rw [prop?, List.reduceOption_cons_of_some]
      by_cases hname : p.name = s
      · rw [if_pos hname, List.find?_cons_of_pos (by simpa using hname)]
        rfl
      · rw [if_neg hname, List.find?_cons_of_neg (by simpa using hname)]
        exact ih

end Find

section Read

variable {fdt fdt' : Mem} {root : Node} {path name : List UInt8} {r : ℕ × Node}

/-- Only the bytes inside of the tree matter. -/
lemma Encodes.congr (h : Encodes fdt root) (heq : ∀ i < fdtTotalsize fdt, fdt' i = fdt i) :
    Encodes fdt' root := by
  have hbehind := h.behind
  have hinside := h.inside
  have hword : ∀ k, k + 4 ≤ 40 → fdt'.loadBe32 k = fdt.loadBe32 k := fun k hk =>
    Mem.loadBe32_congr fun i hi => heq _ (by omega)
  have hcheck : fdtCheckHeader fdt' = fdtCheckHeader fdt ∧ fdtTotalsize fdt' = fdtTotalsize fdt :=
    fdtCheckHeader_congr fun i hi => heq _ (by omega)
  have hoff : fdtOffDtStruct fdt' = fdtOffDtStruct fdt := hword 8 (by omega)
  have hstrings : fdtOffDtStrings fdt' = fdtOffDtStrings fdt := hword 12 (by omega)
  have hversion : fdtVersion fdt' = fdtVersion fdt := hword 20 (by omega)
  have hsize : fdtSizeDtStruct fdt' = fdtSizeDtStruct fdt := hword 36 (by omega)
  refine ⟨hcheck.1.trans h.header, ⟨hversion ▸ h.checked.version, hsize ▸ h.checked.size⟩,
    hoff ▸ hbehind, by rw [hoff, hsize, hcheck.2]; exact hinside, ?_, hsize ▸ h.fits, ?_⟩
  · have hfits := h.fits
    refine h.laid.congr fun i hi => ?_
    rw [structBlock, structBlock, hoff]
    exact heq _ (by omega)
  · intro p hp
    obtain ⟨hstring, hin, hapart, hbeh⟩ := h.names p hp
    refine ⟨?_, by rw [hstrings, hcheck.2]; exact hin, by rw [hstrings, hoff, hsize]; exact hapart,
      by rw [hstrings]; exact hbeh⟩
    rw [hstrings]
    exact hstring.congr fun i hi => heq _ (by omega)

/-- The bytes of the value of a property that was found. -/
lemma valueBytes_eq {p : ℕ} {l : List UInt8} (h : fdt.Holds p l) :
    valueBytes fdt p (l.length : ℤ) = l := by
  rw [valueBytes, Int.toNat_natCast]
  refine List.ext_getElem (by simp) fun i hi hi' => ?_
  rw [List.getElem_map, List.getElem_range, h i hi']

/-- The value of the property of a node that a path leads to. -/
lemma getprop_value (h : Encodes fdt root) {parts : List (List UInt8)}
    (hr : root.resolve 0 parts = some r) :
    (do match ← fdtGetprop fdt r.1 name with
        | .error err => return .error err
        | .ok (p, len) => return .ok (valueBytes fdt p len) : Option (Except ℤ (List UInt8))) =
      some (((r.2.value? name).map Except.ok).getD (.error (-fdtErrNotfound))) := by
  obtain ⟨⟨us, hus⟩, hnames⟩ := h.resolve_spec hr
  rw [fdtGetprop_eq h.toFramed hus hnames, Node.value?,
    ← prop?_map (o := r.1 + fdtTokens.size (.beginNode r.2.name))]
  cases hq : prop? name (r.1 + fdtTokens.size (.beginNode r.2.name)) r.2.props with
  | none => rfl
  | some q =>
    obtain ⟨vs, hvs⟩ := stands_prop (stands_parts hus).2.1 hq
    simp only [Option.elim_some, Option.bind_eq_bind, Option.bind_some, Option.map_some,
      Option.getD_some, valueBytes_eq (holds_value hvs)]
    rfl

lemma readValue_encodes (h : Encodes fdt root) (hal : root.AliasesOk) (hs : 0 ∉ path)
    (hlen : path.length < 2 ^ 31) : readValue fdt path name = some (root.read path name) := by
  rw [readValue, fdtPathOffset_eq h hal hs hlen, Node.read]
  cases root.pathParts path with
  | none => rfl
  | some parts =>
    simp only [Option.elim_some, Option.bind_eq_bind, Option.bind_some,
      ← resolve_map (o := 0) root parts]
    cases hr : root.resolve 0 parts with
    | none => rfl
    | some r =>
      rw [Option.elim_some, if_neg (by omega)]
      exact getprop_value h hr

/-- **Lookups**: what is read from the bytes of a tree is what the tree has, be the path one from
the root or one from an alias, and the bytes outside of the tree do not matter. -/
theorem readValue_eq_read (h : Encodes fdt root) (hal : root.AliasesOk) (hs : 0 ∉ path)
    (hlen : path.length < 2 ^ 31) (name : List UInt8)
    (heq : ∀ i < fdtTotalsize fdt, fdt' i = fdt i) :
    readValue fdt' path name = some (root.read path name) :=
  readValue_encodes (h.congr heq) hal hs hlen

/-- **Round trip**: a tree that was flattened reads back from the memory that it was put into,
wherever it stands and whatever stands around it. -/
theorem blob_reads_back {strings : List UInt8} {m : Mem} {base : ℕ} (h : root.Valid strings)
    (hal : root.AliasesOk) (hm : m.Holds base (blob root strings)) (hs : 0 ∉ path)
    (hlen : path.length < 2 ^ 31) (name : List UInt8) :
    readValue (m.view base) path name = some (root.read path name) := by
  have htotal := (blob_header h rfl).2.1
  rw [← blob_length] at htotal
  refine readValue_encodes ((blob_encodes h).congr fun i hi => ?_) hal hs hlen
  rw [htotal] at hi
  have hblob := Mem.holds_ofList (blob root strings) i hi
  rw [Nat.zero_add] at hblob
  rw [Mem.view, hm i hi, hblob]

end Read

/-! ### Walks -/

/-- The names of the nodes in preorder. -/
def Forest.names : Forest → List (List UInt8)
  | nil => []
  | nop rest => rest.names
  | node name _ children rest => name :: (children.names ++ rest.names)

/-- The nodes from a root on, with their offsets and depths. -/
def Node.visits (root : Node) : List (ℕ × ℤ) :=
  (0, 0) :: root.children.visits (childrenAt 0 root.name root.props) 1

def Node.names (root : Node) : List (List UInt8) := root.name :: root.children.names

/-- The nodes in preorder, each with its offset, when the first token stands at `o`. -/
def Forest.places : ℕ → Forest → List (ℕ × Node)
  | _, nil => []
  | o, nop rest => rest.places (o + 4)
  | o, node name props children rest =>
      let oc := childrenAt o name props
      (o, ⟨name, props, children⟩) ::
        (children.places oc ++ rest.places (oc + fdtTokens.sizes children.tokens + 4))

/-- A node at `o` and the nodes below it. -/
def Node.places (o : ℕ) (n : Node) : List (ℕ × Node) :=
  (o, n) :: n.children.places (childrenAt o n.name n.props)

/-- The bytes of the name that `fdt_get_name` returns. -/
def nameBytes (fdt : Mem) (offset : ℤ) : Option (Except ℤ (List UInt8)) := do
  match ← fdtGetName fdt offset with
  | .error err => return .error err
  | .ok (p, len) => return .ok (valueBytes fdt p len)

section Walks

variable {fdt : Mem} {root : Node} {o : ℕ} {d : ℤ} {ts : List Token}

lemma nameBytes_node (hf : Framed fdt) (hheader : fdtCheckHeader fdt = 0) {name : List UInt8}
    (h : Stands fdt o (.beginNode name :: ts)) : nameBytes fdt o = some (.ok name) := by
  have halign := h.align
  have hfits := h.fits
  rw [TokenKind.sizes_cons] at hfits
  have hplace : fdtOffsetPtrRaw fdt o + 4 = fdtOffDtStruct fdt + (o + 4) := by
    rw [fdtOffsetPtrRaw_eq hf (by omega), Nat.add_assoc]
  have hname : fdt.CString (fdtOffDtStruct fdt + (o + 4)) name := by
    obtain ⟨hbytes, hzero, hstop⟩ := h.laid.1.2
    refine ⟨fun i hi => ?_, hzero, ?_⟩
    · rw [← hbytes i hi, Nat.add_assoc]
      rfl
    · rw [← hstop, Nat.add_assoc]
      rfl
  have hcheck : fdtCheckNodeOffset fdt o
      = some ((o + fdtTokens.size (.beginNode name) : ℕ) : ℤ) := by
    rw [fdtCheckNodeOffset, checkOffset, if_neg (by simp only [fdtTagsize]; omega), h.nextTag hf]
    rfl
  rw [nameBytes, fdtGetName, if_neg (not_not.mpr hheader), hcheck]
  simp only [Option.bind_eq_bind, Option.bind_some]
  rw [if_neg (by omega), hplace, hname.strlen]
  simp only [Option.bind_some, Option.pure_def, valueBytes_eq hname.bytes]

/-- The nodes that are passed have the names of the tree. -/
lemma nameBytes_visits (hf : Framed fdt) (hheader : fdtCheckHeader fdt = 0) {f : Forest}
    (h : Stands fdt o (f.tokens ++ ts)) :
    (f.visits o d).map (fun v => nameBytes fdt v.1) = f.names.map fun s => some (.ok s) := by
  induction f generalizing o d ts with
  | nil => rfl
  | nop rest ih => exact ih (Stands.tail h)
  | node name props children rest ihc ihr =>
    obtain ⟨hnode, -, hchildren, -, hrest⟩ := stands_node h
    rw [Forest.visits, Forest.names, List.map_cons, List.map_append, List.map_cons,
      List.map_append, nameBytes_node hf hheader hnode, ihc hchildren, ihr hrest]

/-- The results of `fdt_first_subnode` and then `fdt_next_subnode` for a node at `o`: the
offsets of its children and the error that ends the loop. -/
def Node.subnodes (o : ℕ) (n : Node) : List ℤ :=
  (n.children.tops (childrenAt o n.name n.props)).map Nat.cast ++ [-fdtErrNotfound]

lemma fdtFirstSubnode_eq (hf : Framed fdt) {n : Node} (h : Stands fdt o (n.tokens ++ ts)) :
    fdtFirstSubnode fdt o = (n.subnodes o).head? ∧
      List.IsChain (fun a b : ℤ => fdtNextSubnode fdt a = some b) (n.subnodes o) := by
  have hchain := fdtNextNode_preorder hf h
  refine ⟨?_, nextSubnode_tops hchain.tail (by simp)⟩
  have hfirst := head?_visits n.children (childrenAt o n.name n.props) 1
  rw [Node.subnodes, List.head?_append, List.head?_map, fdtFirstSubnode]
  cases htops : (n.children.tops (childrenAt o n.name n.props)).head? with
  | none =>
    rw [htops, Option.map_none, List.head?_eq_none_iff] at hfirst
    rw [hfirst] at hchain
    have hstep : Step fdt (o, 0) _ := List.isChain_pair.mp hchain
    rw [hstep]
    simp
  | some a =>
    rw [htops, Option.map_some, List.head?_eq_some_iff] at hfirst
    obtain ⟨l, hl⟩ := hfirst
    rw [hl, List.cons_append, List.isChain_cons_cons] at hchain
    have hstep : Step fdt (o, 0) (a, 1) := hchain.1
    rw [hstep]
    simp

lemma places_visits (f : Forest) :
    (f.places o).map Prod.fst = (f.visits o d).map Prod.fst := by
  induction f generalizing o d with
  | nil => rfl
  | nop rest ih => exact ih
  | node name props children rest ihc ihr =>
    simp only [Forest.places, Forest.visits, List.map_cons, List.map_append]
    rw [ihc (d := d + 1), ihr (d := d)]

/-- What stands at the offset of a node are its tokens. -/
lemma stands_places {f : Forest} (h : Stands fdt o (f.tokens ++ ts)) {r : ℕ × Node}
    (hr : r ∈ f.places o) : ∃ us, Stands fdt r.1 (r.2.tokens ++ us) := by
  induction f generalizing o ts with
  | nil => exact absurd hr List.not_mem_nil
  | nop rest ih => exact ih (Stands.tail h) hr
  | node name props children rest ihc ihr =>
    obtain ⟨-, -, hchildren, -, hrest⟩ := stands_node h
    rcases List.mem_cons.mp hr with rfl | hr
    · refine ⟨rest.tokens ++ ts, ?_⟩
      simpa [Forest.tokens, Node.tokens] using h
    · rcases List.mem_append.mp hr with hr | hr
      · exact ihc hchildren hr
      · exact ihr hrest hr

lemma child?_places {s : List UInt8} {f : Forest} {r : ℕ × Node} (hr : f.child? s o = some r) :
    r.2.places r.1 ⊆ f.places o := by
  induction f generalizing o with
  | nil => cases hr
  | nop rest ih => exact ih hr
  | node name props children rest ihc ihr =>
    rw [Forest.child?] at hr
    by_cases hfit : Fits s name
    · rw [if_pos hfit] at hr
      obtain rfl := Option.some.inj hr
      exact List.cons_subset_cons _ (List.subset_append_left _ _)
    · rw [if_neg hfit] at hr
      exact fun q hq => List.mem_cons_of_mem _ (List.mem_append_right _ (ihr hr hq))

/-- A path leads to one of the nodes. -/
lemma resolve_mem_places {n : Node} {parts : List (List UInt8)} {r : ℕ × Node}
    (hr : n.resolve o parts = some r) : r ∈ n.places o := by
  induction parts generalizing o n with
  | nil =>
    obtain rfl := Option.some.inj hr
    exact List.mem_cons_self
  | cons part parts ih =>
    rw [Node.resolve] at hr
    split at hr
    · cases hr
    next o' n' hchild =>
      exact List.mem_cons_of_mem _ (child?_places hchild (ih hr))

/-- **Walks**: on a tree the calls of `fdt_next_node` go through all its nodes in preorder, each
with its depth and its name, and then leave the tree; from each of these nodes, those that a path
leads to among them, `fdt_first_subnode` and then `fdt_next_subnode` go through its children and
then end. -/
theorem walk_enumerates (h : Encodes fdt root) :
    List.IsChain (Step fdt) (root.visits ++ [(fdtTokens.sizes root.tokens, -1)]) ∧
      root.visits.map (fun v => nameBytes fdt v.1) = root.names.map (fun s => some (.ok s)) ∧
      (root.places 0).map Prod.fst = root.visits.map Prod.fst ∧
      (∀ parts r, root.resolve 0 parts = some r → r ∈ root.places 0) ∧
      ∀ r ∈ root.places 0,
        fdtFirstSubnode fdt r.1 = (r.2.subnodes r.1).head? ∧
        List.IsChain (fun a b : ℤ => fdtNextSubnode fdt a = some b) (r.2.subnodes r.1) := by
  have hchain := fdtNextNode_preorder h.toFramed h.stands
  rw [Nat.zero_add] at hchain
  obtain ⟨hbegin, -, hchildren, -⟩ := stands_parts h.stands
  refine ⟨hchain, ?_, congrArg (List.cons 0) (places_visits _), fun _ _ => resolve_mem_places,
    fun r hr => ?_⟩
  · rw [Node.visits, Node.names, List.map_cons, List.map_cons,
      nameBytes_node h.toFramed h.header hbegin, nameBytes_visits h.toFramed h.header hchildren]
  · obtain ⟨us, hus⟩ : ∃ us, Stands fdt r.1 (r.2.tokens ++ us) := by
      rcases List.mem_cons.mp hr with rfl | hr
      · exact ⟨_, h.stands⟩
      · exact stands_places hchildren hr
    exact fdtFirstSubnode_eq h.toFramed hus

end Walks

lemma sampleTree_aliasesOk : sampleTree.AliasesOk := by
  have hpath : components aliasesPath = [[97, 108, 105, 97, 115, 101, 115]] := by
    rw [components_cons (show aliasesPath.dropWhile (· == slash)
      = 97 :: [108, 105, 97, 115, 101, 115] from rfl), components_nil (by decide)]
    rfl
  intro r hr p hp
  rw [hpath] at hr
  obtain rfl := Option.some.inj hr
  obtain rfl : p = _ := Option.some.inj (List.mem_singleton.mp hp)
  decide

/-- The property `reg` of `pmu0/`, which is `/soc/pmu@36`. -/
theorem readValue_eq_read_sampleTree :
    readValue (Mem.ofList (blob sampleTree sampleStrings)) [112, 109, 117, 48, 47] [114, 101, 103]
      = some (.ok [0, 0, 0, 54]) :=
  (readValue_eq_read (blob_encodes sampleTree_valid) sampleTree_aliasesOk (by decide) (by decide)
    [114, 101, 103] fun _ _ => rfl).trans (by decide +kernel)

/-- The walk over the small tree: four nodes. -/
theorem walk_enumerates_sampleTree :
    sampleTree.visits.length = 4 ∧
      List.IsChain (Step (Mem.ofList (blob sampleTree sampleStrings)))
        (sampleTree.visits ++ [(fdtTokens.sizes sampleTree.tokens, -1)]) :=
  ⟨by decide, (walk_enumerates (blob_encodes sampleTree_valid)).1⟩

/-- The small tree behind 100 bytes of anything. -/
theorem blob_reads_back_sampleTree :
    readValue (Mem.view (.ofList (List.replicate 100 7 ++ blob sampleTree sampleStrings)) 100)
      [47, 115, 111, 99, 47, 112, 109, 117] [114, 101, 103] = some (.ok [0, 0, 0, 54]) := by
  have hplace : (Mem.ofList (List.replicate 100 7 ++ blob sampleTree sampleStrings)).Holds 100
      (blob sampleTree sampleStrings) := by
    have hsplit := Mem.holds_append.mp
      (Mem.holds_ofList (List.replicate 100 7 ++ blob sampleTree sampleStrings))
    rw [List.length_replicate, Nat.zero_add] at hsplit
    exact hsplit.2
  exact (blob_reads_back sampleTree_valid sampleTree_aliasesOk hplace (by decide) (by decide)
    [114, 101, 103]).trans (by decide +kernel)

end A733Boot.Fdt
