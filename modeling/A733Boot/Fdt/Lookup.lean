/-
Lookups in a tree that stands in memory: what the walks of `fdt_ro.c` find is what the tree has.

* `Fits`: the name that was asked for is the node's, or the node's without its unit address;
* `Forest.child?`, `Node.resolve`, `prop?`: the lookups in the tree itself, each with the
  offset of what it finds, and `Forest.alter`, `Node.alter`, `alterProp`: that part changed;
* `resolve_split`, `prop?_split`: what a lookup finds is a part of the tokens, and changing it
  changes that part;
* `fdtSubnodeOffsetNamelen_eq`, `pathFrom_eq`, `fdtPathOffset_eq`: the walks over the nodes;
* `fdtGetprop_eq`: the walk over the properties.
-/
import A733Boot.Fdt.Preorder
import A733Boot.Fdt.ReadOnly

namespace A733Boot.Fdt

open Mem

/-- The name `s` that was asked for fits the name of the node. -/
def Fits (s name : List UInt8) : Prop := name = s ∨ (atSign ∉ s ∧ s ++ [atSign] <+: name)

instance (s name : List UInt8) : Decidable (Fits s name) := inferInstanceAs (Decidable (_ ∨ _))

/-- The first node of the level whose name fits, and its offset. -/
def Forest.child? (s : List UInt8) : ℕ → Forest → Option (ℕ × Node)
  | _, nil => none
  | o, nop rest => rest.child? s (o + 4)
  | o, node name props children rest =>
      if Fits s name then some (o, ⟨name, props, children⟩)
      else rest.child? s (childrenAt o name props + fdtTokens.sizes children.tokens + 4)

/-- The node that the parts of a path lead to. -/
def Node.resolve (o : ℕ) (n : Node) : List (List UInt8) → Option (ℕ × Node)
  | [] => some (o, n)
  | s :: parts =>
      match n.children.child? s (childrenAt o n.name n.props) with
      | none => none
      | some (o', n') => n'.resolve o' parts

/-- The first property with the name, and its offset. -/
def prop? (s : List UInt8) : ℕ → List (Option Property) → Option (ℕ × Property)
  | _, [] => none
  | o, none :: props => prop? s (o + 4) props
  | o, some p :: props =>
      if p.name = s then some (o, p)
      else prop? s (o + fdtTokens.size (.prop p.nameoff p.value)) props

/-- The first node of the level whose name fits, replaced in front of the later ones. -/
def Forest.splice (s : List UInt8) (g : Node → Forest → Forest) : Forest → Forest
  | nil => nil
  | nop rest => nop (rest.splice s g)
  | node name props children rest =>
      if Fits s name then g ⟨name, props, children⟩ rest
      else node name props children (rest.splice s g)

def Node.cons (n : Node) (rest : Forest) : Forest := .node n.name n.props n.children rest

/-- The first node of the level whose name fits, changed. -/
def Forest.alter (s : List UInt8) (g : Node → Node) : Forest → Forest :=
  splice s fun n rest => (g n).cons rest

/-- The node that the parts of a path lead to, changed. -/
def Node.alter (g : Node → Node) : List (List UInt8) → Node → Node
  | [], n => g n
  | s :: parts, n => { n with children := n.children.alter s (alter g parts) }

/-- The first property with the name, replaced. -/
def alterProp (s : List UInt8) (g : Property → List (Option Property)) :
    List (Option Property) → List (Option Property)
  | [] => []
  | none :: props => none :: alterProp s g props
  | some p :: props => if p.name = s then g p ++ props else some p :: alterProp s g props

/-- The parts of a path, which the slashes separate. -/
def components (p : List UInt8) : List (List UInt8) :=
  match hp : p.dropWhile (· == slash) with
  | [] => []
  | c :: q =>
      have := rest_length_lt hp
      (c :: q.takeWhile (· != slash)) :: components (q.dropWhile (· != slash))
termination_by p.length

lemma components_nil {p : List UInt8} (hp : p.dropWhile (· == slash) = []) : components p = [] := by
  rw [components]
  split
  · rfl
  next c q hcons => rw [hp] at hcons; cases hcons

lemma components_cons {p q : List UInt8} {c : UInt8} (hp : p.dropWhile (· == slash) = c :: q) :
    components p =
      (c :: q.takeWhile (· != slash)) :: components (q.dropWhile (· != slash)) := by
  rw [components]
  split
  next hnil => rw [hp] at hnil; cases hnil
  next c' q' hcons =>
    obtain ⟨rfl, rfl⟩ := List.cons.inj (hp.symm.trans hcons)
    rfl

section Nodes

variable {fdt : Mem} {o : ℕ} {ts : List Token} {s : List UInt8}

/-- The comparison of names. -/
lemma fdtNodenameEq_node (hf : Framed fdt) {name : List UInt8}
    (h : Stands fdt o (.beginNode name :: ts)) (hs : 0 ∉ s) (hlen : s.length < 2 ^ 31) :
    fdtNodenameEq fdt o s = decide (Fits s name) := by
  have hsize := hf.size
  have hfits := h.fits
  have hround := le_alignUp (4 + (name.length + 1))
  rw [TokenKind.sizes_cons, show fdtTokens.size (.beginNode name)
    = alignUp (4 + (name.length + 1)) from rfl] at hfits
  have hname : (structBlock fdt).CString (o + 4) name := h.laid.1.2
  have hoff : i32 ((o : ℤ) + fdtTagsize) = ((o + 4 : ℕ) : ℤ) := by
    rw [fdtTagsize, i32_eq (by omega) (by omega)]
    push_cast
    rfl
  rw [fdtNodenameEq, hoff, fdtOffsetPtr_eq hf.toChecked (by omega) (by omega)]
  by_cases hin : o + 4 + (s.length + 1) ≤ fdtSizeDtStruct fdt
  · have hplace : fdtOffsetPtrRaw fdt (o + 4 : ℕ) = fdtOffDtStruct fdt + (o + 4) :=
      fdtOffsetPtrRaw_eq hf (by omega)
    have hholds : fdt.Holds (fdtOffDtStruct fdt + (o + 4)) s ↔ s <+: name := by
      rw [← hname.holds_iff hs]
      refine forall₂_congr fun i hi => ?_
      rw [show structBlock fdt (o + 4 + i) = fdt (fdtOffDtStruct fdt + (o + 4) + i) from
        congrArg fdt (by omega)]
    rw [if_pos hin]
    simp only [hplace]
    by_cases hpre : s <+: name
    · rw [if_neg (not_not.mpr (hholds.mpr hpre))]
      obtain ⟨r, rfl⟩ := hpre
      have hbyte : fdt (fdtOffDtStruct fdt + (o + 4) + s.length)
          = structBlock fdt (o + 4 + s.length) := congrArg fdt (by omega)
      cases r with
      | nil =>
        rw [List.append_nil] at hname ⊢
        rw [hbyte, if_pos hname.stop]
        exact (decide_eq_true (.inl rfl)).symm
      | cons c r =>
        have hc : structBlock fdt (o + 4 + s.length) = c := by
          have := hname.bytes s.length (by simp)
          simpa using this
        have hne : c ≠ 0 := fun h0 => hname.nonzero (by simp [h0])
        rw [hbyte, hc, if_neg hne]
        simp [Fits, beq_eq_decide, List.prefix_append_right_inj, eq_comm]
    · rw [if_pos (fun hc => hpre (hholds.mp hc))]
      refine (decide_eq_false ?_).symm
      rintro (rfl | ⟨-, hat⟩)
      · exact hpre (List.prefix_refl _)
      · exact hpre ((List.prefix_append _ _).trans hat)
  · rw [if_neg hin]
    refine (decide_eq_false ?_).symm
    rintro (rfl | ⟨-, hat⟩)
    · omega
    · have := hat.length_le
      rw [List.length_append, List.length_singleton] at this
      omega

/-- The loop over a chain of nodes that ends with a negative depth: the first node of depth one
whose name fits, or none. -/
lemma subnodeFrom_chain {a e : ℕ × ℤ} {l : List (ℕ × ℤ)}
    (hchain : List.IsChain (Step fdt) (a :: (l ++ [e]))) (he : e.2 < 0)
    (hdepth : ∀ v ∈ a :: l, 0 ≤ v.2) :
    subnodeFrom fdt s a.1 a.2 =
      some (((a :: l).find? fun v => v.2 = 1 ∧ fdtNodenameEq fdt v.1 s).elim (-fdtErrNotfound)
        fun v => v.1) := by
  induction l generalizing a with
  | nil =>
    have hstep : Step fdt a e := List.isChain_pair.mp hchain
    have ha := hdepth a (by simp)
    rw [subnodeFrom, if_pos ⟨by omega, ha⟩]
    by_cases hfit : a.2 = 1 ∧ fdtNodenameEq fdt a.1 s
    · simp [hfit]
    · rw [if_neg hfit, hstep]
      simp only [Option.bind_eq_bind, Option.bind_some, Option.getD_some]
      rw [subnodeFrom, if_neg (by omega), if_pos he]
      simp [hfit]
  | cons b l ih =>
    rw [List.cons_append, List.isChain_cons_cons] at hchain
    have ha := hdepth a (by simp)
    have hrest := ih hchain.2 fun v hv => hdepth v (List.mem_cons_of_mem a hv)
    rw [subnodeFrom, if_pos ⟨by omega, ha⟩]
    by_cases hfit : a.2 = 1 ∧ fdtNodenameEq fdt a.1 s
    · simp [hfit]
    · rw [if_neg hfit, hchain.1, List.find?_cons_of_neg (by simpa using hfit)]
      exact hrest

/-- Among the nodes in preorder, the first one on the top level whose name fits. -/
lemma find_visits (hf : Framed fdt) {f : Forest} (h : Stands fdt o (f.tokens ++ ts)) (hs : 0 ∉ s)
    (hlen : s.length < 2 ^ 31) :
    ((f.visits o 1).find? fun v => v.2 = 1 ∧ fdtNodenameEq fdt v.1 s)
      = (f.child? s o).map fun r => (r.1, 1) := by
  induction f generalizing o ts with
  | nil => rfl
  | nop rest ih => exact ih (Stands.tail h)
  | node name props children rest ihc ihr =>
    obtain ⟨hnode, -, -, -, hrest⟩ := stands_node h
    have heq := fdtNodenameEq_node hf hnode hs hlen
    rw [Forest.visits, Forest.child?]
    by_cases hfit : Fits s name
    · rw [if_pos hfit, List.find?_cons_of_pos (by simp [heq, hfit])]
      rfl
    · have hdeep : ((children.visits (childrenAt o name props) (1 + 1)).find? fun v =>
          v.2 = 1 ∧ fdtNodenameEq fdt v.1 s) = none := by
        refine List.find?_eq_none.mpr fun v hv => ?_
        have := depth_le_of_mem_visits hv
        simp only [decide_eq_true_eq, not_and]
        omega
      rw [if_neg hfit, List.find?_cons_of_neg (by simp [heq, hfit]), List.find?_append, hdeep,
        Option.none_or]
      exact ihr hrest

/-- **Subnodes**: the offset of the first child whose name fits. -/
lemma fdtSubnodeOffsetNamelen_eq (hf : Framed fdt) (hheader : fdtCheckHeader fdt = 0) {n : Node}
    (h : Stands fdt o (n.tokens ++ ts)) (hs : 0 ∉ s) (hlen : s.length < 2 ^ 31) :
    fdtSubnodeOffsetNamelen fdt o s =
      some ((n.children.child? s (childrenAt o n.name n.props)).elim (-fdtErrNotfound)
        fun r => r.1) := by
  have hchain := fdtNextNode_preorder hf h
  have hdepth : ∀ v ∈ (o, 0) :: n.children.visits (childrenAt o n.name n.props) 1, 0 ≤ v.2 := by
    intro v hv
    rcases List.mem_cons.mp hv with rfl | hv
    · exact le_rfl
    · have := depth_le_of_mem_visits hv
      omega
  have hchildren := (stands_parts h).2.2.1
  rw [fdtSubnodeOffsetNamelen, if_neg (not_not.mpr hheader)]
  rw [show subnodeFrom fdt s o 0 = _ from subnodeFrom_chain hchain (by simp) hdepth,
    List.find?_cons_of_neg (by simp), find_visits hf hchildren hs hlen, Option.elim_map]
  rfl

/-- A child that is found is a part of its level. -/
lemma child?_split {f : Forest} {r : ℕ × Node} (hr : f.child? s o = some r) :
    ∃ us vs, f.tokens = us ++ (r.2.tokens ++ vs) ∧ r.1 = o + fdtTokens.sizes us ∧
      ∀ g xs, (∀ rest, (g r.2 rest).tokens = xs ++ rest.tokens) →
        (f.splice s g).tokens = us ++ (xs ++ vs) := by
  induction f generalizing o with
  | nil => cases hr
  | nop rest ih =>
    obtain ⟨us, vs, htokens, ho, halter⟩ := ih hr
    refine ⟨.nop :: us, vs, by rw [Forest.tokens, htokens, List.cons_append], ?_, fun g xs hg => ?_⟩
    · rw [ho, TokenKind.sizes_cons, ← Nat.add_assoc]
      rfl
    · rw [Forest.splice, Forest.tokens, halter g xs hg, List.cons_append]
  | node name props children rest ihc ihr =>
    rw [Forest.child?] at hr
    by_cases hfit : Fits s name
    · rw [if_pos hfit] at hr
      obtain rfl := Option.some.inj hr
      refine ⟨[], rest.tokens, by simp [Forest.tokens, Node.tokens], rfl, fun g xs hg => ?_⟩
      simp [Forest.splice, hfit, hg]
    · rw [if_neg hfit] at hr
      obtain ⟨us, vs, htokens, ho, halter⟩ := ihr hr
      refine ⟨(Node.mk name props children).tokens ++ us, vs, ?_, ?_, fun g xs hg => ?_⟩
      · simp [Forest.tokens, Node.tokens, htokens]
      · have hsizes : o + fdtTokens.sizes (Node.mk name props children).tokens =
            childrenAt o name props + fdtTokens.sizes children.tokens + 4 :=
          node_sizes o name props children .nil
        rw [ho, TokenKind.sizes_append, ← Nat.add_assoc, hsizes]
      · simp [Forest.splice, hfit, Forest.tokens, Node.tokens, halter g xs hg]

lemma cons_tokens (n : Node) (rest : Forest) : (n.cons rest).tokens = n.tokens ++ rest.tokens := by
  simp [Node.cons, Forest.tokens, Node.tokens]

/-- A node that a path leads to is a part of the node that the path begins at. -/
lemma resolve_split {n : Node} {parts : List (List UInt8)} {r : ℕ × Node}
    (hr : n.resolve o parts = some r) :
    ∃ us vs, n.tokens = us ++ (r.2.tokens ++ vs) ∧ r.1 = o + fdtTokens.sizes us ∧
      ∀ g, (n.alter g parts).tokens = us ++ ((g r.2).tokens ++ vs) := by
  induction parts generalizing o n with
  | nil =>
    obtain rfl := Option.some.inj hr
    exact ⟨[], [], by simp, rfl, fun g => by simp [Node.alter]⟩
  | cons part parts ih =>
    rw [Node.resolve] at hr
    split at hr
    · cases hr
    next o' n' hchild =>
      obtain ⟨us, vs, htokens, ho', halter⟩ := child?_split hchild
      obtain ⟨us', vs', htokens', ho, halter'⟩ := ih hr
      refine ⟨.beginNode n.name :: (propTokens n.props ++ (us ++ us')), vs' ++ (vs ++ [.endNode]),
        ?_, ?_, fun g => ?_⟩
      · rw [Node.tokens, htokens, htokens']
        simp
      · have hchild' : o' = childrenAt o n.name n.props + fdtTokens.sizes us := ho'
        rw [childrenAt] at hchild'
        simp only [TokenKind.sizes_cons, TokenKind.sizes_append, ho]
        omega
      · rw [Node.alter, Node.tokens, Forest.alter,
          halter _ (Node.alter g parts n').tokens fun rest => cons_tokens _ rest, halter']
        simp

/-- A node that a path leads to stands where the path leads. -/
lemma stands_resolve {n : Node} {parts : List (List UInt8)} (h : Stands fdt o (n.tokens ++ ts))
    {r : ℕ × Node} (hr : n.resolve o parts = some r) : ∃ us, Stands fdt r.1 (r.2.tokens ++ us) := by
  obtain ⟨us, vs, htokens, ho, -⟩ := resolve_split hr
  rw [htokens, List.append_assoc, List.append_assoc] at h
  exact ⟨vs ++ ts, ho ▸ (stands_append.mp h).2⟩

lemma stands_child {f : Forest} (h : Stands fdt o (f.tokens ++ ts)) {r : ℕ × Node}
    (hr : f.child? s o = some r) : ∃ us, Stands fdt r.1 (r.2.tokens ++ us) := by
  obtain ⟨us, vs, htokens, ho, -⟩ := child?_split hr
  rw [htokens, List.append_assoc, List.append_assoc] at h
  exact ⟨vs ++ ts, ho ▸ (stands_append.mp h).2⟩

/-- **Paths below a node**. -/
lemma pathFrom_eq (hf : Framed fdt) (hheader : fdtCheckHeader fdt = 0) {n : Node} {p : List UInt8}
    (h : Stands fdt o (n.tokens ++ ts)) (hs : 0 ∉ p) (hlen : p.length < 2 ^ 31) :
    pathFrom fdt o p = some ((n.resolve o (components p)).elim (-fdtErrNotfound) fun r => r.1) := by
  induction hk : p.length using Nat.strong_induction_on generalizing o n p ts with
  | _ k ih =>
    cases hp : p.dropWhile (· == slash) with
    | nil =>
      rw [pathFrom_nil fdt o hp, components_nil hp]
      rfl
    | cons c q =>
      have hless := rest_length_lt hp
      have hsub : ∀ x, x ∈ c :: q → x ∈ p := fun x hx =>
        (List.dropWhile_suffix (· == slash)).subset (hp ▸ hx)
      have hpart : ∀ x, x ∈ c :: q.takeWhile (· != slash) → x ∈ p := by
        intro x hx
        rcases List.mem_cons.mp hx with rfl | hx
        · exact hsub _ (by simp)
        · exact hsub _ (List.mem_cons_of_mem _ ((List.takeWhile_prefix _).subset hx))
      have hshort : (c :: q.takeWhile (· != slash)).length < 2 ^ 31 := by
        have htake := (List.takeWhile_prefix (l := q) (· != slash)).length_le
        have hle := (List.dropWhile_suffix (l := p) (· == slash)).length_le
        rw [hp, List.length_cons] at hle
        rw [List.length_cons]
        omega
      rw [pathFrom_cons fdt o hp, components_cons hp,
        fdtSubnodeOffsetNamelen_eq hf hheader h (fun h0 => hs (hpart 0 h0)) hshort, Node.resolve]
      cases hchild : n.children.child? (c :: q.takeWhile (· != slash))
          (childrenAt o n.name n.props) with
      | none => simp [fdtErrNotfound]
      | some r =>
        obtain ⟨us, hus⟩ := stands_child (stands_parts h).2.2.1 hchild
        rw [Option.elim_some, Option.bind_some, if_neg (by omega)]
        refine ih _ (by omega) hus (fun h0 => hs ?_) (by omega) rfl
        exact hsub 0 (List.mem_cons_of_mem _ ((List.dropWhile_suffix _).subset h0))

end Nodes

/-! ### Properties -/

section Properties

variable {fdt : Mem} {o : ℕ} {t : Token} {ts : List Token} {s : List UInt8}

lemma nextprop_nop (hf : Framed fdt) (h : Stands fdt o (.nop :: ts)) :
    nextprop fdt o = nextprop fdt (o + 4 : ℕ) := by
  rw [nextprop, h.nextTag hf]
  rfl

/-- Behind the properties of a node there are no more, whether children follow or not. -/
lemma nextprop_children (hf : Framed fdt) {f : Forest}
    (h : Stands fdt o (f.tokens ++ .endNode :: ts)) :
    nextprop fdt o = some (-fdtErrNotfound) := by
  induction f generalizing o with
  | nil =>
    rw [nextprop, Stands.nextTag hf h]
    rfl
  | nop rest ih =>
    rw [nextprop_nop hf h]
    exact ih (Stands.tail h)
  | node name props children rest =>
    rw [nextprop, (stands_node h).1.nextTag hf]
    rfl

lemma nextprop_prop (hf : Framed fdt) {nameoff : ℕ} {value : List UInt8}
    (h : Stands fdt o (.prop nameoff value :: ts)) : nextprop fdt o = some (o : ℤ) := by
  rw [nextprop, h.nextTag hf]
  rfl

lemma fdtCheckPropOffset_prop (hf : Framed fdt) {nameoff : ℕ} {value : List UInt8}
    (h : Stands fdt o (.prop nameoff value :: ts)) :
    fdtCheckPropOffset fdt o = some ((o + fdtTokens.size (.prop nameoff value) : ℕ) : ℤ) := by
  have halign := h.align
  rw [fdtCheckPropOffset, checkOffset, if_neg (by simp only [fdtTagsize]; omega), h.nextTag hf]
  rfl

/-- The words of a property. -/
lemma prop_words (hf : Framed fdt) {nameoff : ℕ} {value : List UInt8}
    (h : Stands fdt o (.prop nameoff value :: ts)) :
    fdtOffsetPtrRaw fdt o = fdtOffDtStruct fdt + o ∧ value.length < 2 ^ 31 ∧
      fdt.loadBe32 (fdtOffDtStruct fdt + o + 4) = value.length ∧
      fdt.loadBe32 (fdtOffDtStruct fdt + o + 8) = nameoff := by
  have hsize := hf.size
  have hfits := h.fits
  have hround := le_alignUp (12 + value.length)
  rw [TokenKind.sizes_cons, show fdtTokens.size (.prop nameoff value)
    = alignUp (12 + value.length) from rfl] at hfits
  obtain ⟨hlen, hname, -⟩ := h.laid.1.2
  rw [structBlock, Mem.loadBe32_view] at hlen hname
  exact ⟨fdtOffsetPtrRaw_eq hf (by omega), by omega, by rw [Nat.add_assoc, hlen],
    by rw [Nat.add_assoc, hname]⟩

lemma fdtGetPropertyByOffset_prop (hf : Framed fdt) {nameoff : ℕ} {value : List UInt8}
    (h : Stands fdt o (.prop nameoff value :: ts)) :
    fdtGetPropertyByOffset fdt o = some (.ok (fdtOffDtStruct fdt + o, value.length)) := by
  obtain ⟨hraw, hlt, hlen, -⟩ := prop_words hf h
  rw [fdtGetPropertyByOffset, fdtCheckPropOffset_prop hf h]
  simp only [Option.bind_eq_bind, Option.bind_some]
  rw [if_neg (by omega), hraw, hlen, i32_eq (by omega) (by omega)]
  rfl

/-- The comparison of a property's name. -/
lemma fdtStringEq_name {p : Property} (h : NameAt fdt p) :
    fdtStringEq fdt (i32 p.nameoff) s = some (decide (p.name = s)) := by
  have htotal := Mem.loadBe32_lt fdt 4
  have hinside := h.inside
  have hplace : fdtString fdt (i32 p.nameoff) = fdtOffDtStrings fdt + p.nameoff := by
    rw [fdtString, u32_add_i32]
    rw [fdtTotalsize] at hinside
    exact u32_eq (by push_cast; rfl) (by omega)
  rw [fdtStringEq, hplace, h.string.strlen]
  simp only [Option.bind_eq_bind, Option.bind_some, Option.pure_def, Option.some.injEq]
  rw [show decide (p.name = s) = decide (p.name.length = s.length ∧
    fdt.Holds (fdtOffDtStrings fdt + p.nameoff) s) from decide_eq_decide.mpr (h.string.eq_iff s).symm]
  simp [beq_eq_decide]

/-- The loop over the properties, from the search for the next one on. -/
lemma getPropertyFrom_eq (hf : Framed fdt) {props : List (Option Property)}
    (h : Stands fdt o (propTokens props ++ ts)) (hnames : ∀ p, some p ∈ props → NameAt fdt p)
    (hend : nextprop fdt (o + fdtTokens.sizes (propTokens props) : ℕ) = some (-fdtErrNotfound)) :
    (nextprop fdt o).bind (getPropertyFrom fdt s) =
      some ((prop? s o props).elim (.error (-fdtErrNotfound))
        fun r => .ok (fdtOffDtStruct fdt + r.1, (r.2.value.length : ℤ))) := by
  induction props generalizing o with
  | nil =>
    rw [show nextprop fdt o = _ from hend, Option.bind_some, getPropertyFrom, if_neg (by decide)]
    rfl
  | cons p props ih =>
    have hrest : ∀ q, some q ∈ props → NameAt fdt q := fun q hq =>
      hnames q (List.mem_cons_of_mem p hq)
    cases p with
    | none =>
      rw [nextprop_nop hf h]
      refine ih (Stands.tail h) hrest (hend ▸ congrArg (fun x : ℕ => nextprop fdt x) ?_)
      exact Nat.add_assoc _ _ _
    | some p =>
      have hprop : Stands fdt o (.prop p.nameoff p.value :: (propTokens props ++ ts)) := h
      obtain ⟨-, hlt, -, hnameoff⟩ := prop_words hf hprop
      rw [nextprop_prop hf hprop, Option.bind_some, getPropertyFrom, if_pos (by omega),
        fdtGetPropertyByOffset_prop hf hprop]
      simp only [Option.bind_eq_bind, Option.bind_some]
      rw [hnameoff, fdtStringEq_name (hnames p List.mem_cons_self), Option.bind_some, prop?]
      by_cases hname : p.name = s
      · simp [hname]
      · rw [if_neg (by simp [hname]), if_neg hname, fdtNextPropertyOffset,
          fdtCheckPropOffset_prop hf hprop]
        simp only [Option.bind_eq_bind, Option.bind_some]
        rw [if_neg (by omega)]
        refine ih hprop.tail hrest (hend ▸ congrArg (fun x : ℕ => nextprop fdt x) ?_)
        exact Nat.add_assoc _ _ _

/-- The place of the node's first property with the name, and the length of its value. -/
lemma fdtGetPropertyNamelen_eq (hf : Framed fdt) {n : Node} (h : Stands fdt o (n.tokens ++ ts))
    (hnames : ∀ p, some p ∈ n.props → NameAt fdt p) :
    fdtGetPropertyNamelen fdt o s =
      some ((prop? s (o + fdtTokens.size (.beginNode n.name)) n.props).elim
        (.error (-fdtErrNotfound))
        fun r => .ok (fdtOffDtStruct fdt + r.1, (r.2.value.length : ℤ))) := by
  obtain ⟨hbegin, hprops, hchildren, -⟩ := stands_parts h
  have halign := h.align
  have hfirst : fdtFirstPropertyOffset fdt o
      = nextprop fdt (o + fdtTokens.size (.beginNode n.name) : ℕ) := by
    rw [fdtFirstPropertyOffset, fdtCheckNodeOffset, checkOffset,
      if_neg (by simp only [fdtTagsize]; omega), hbegin.nextTag hf]
    simp only [Option.map_some, Token.tag, ne_eq, not_true_eq_false, if_false,
      Option.bind_eq_bind, Option.bind_some]
    rw [if_neg (by omega)]
  rw [fdtGetPropertyNamelen, hfirst]
  exact getPropertyFrom_eq hf hprops hnames (nextprop_children hf hchildren)

/-- **Properties**: the place and the length of the value of the node's first property with
the name. -/
lemma fdtGetprop_eq (hf : Framed fdt) {n : Node} (h : Stands fdt o (n.tokens ++ ts))
    (hnames : ∀ p, some p ∈ n.props → NameAt fdt p) :
    fdtGetprop fdt o s =
      some ((prop? s (o + fdtTokens.size (.beginNode n.name)) n.props).elim
        (.error (-fdtErrNotfound))
        fun r => .ok (fdtOffDtStruct fdt + r.1 + 12, (r.2.value.length : ℤ))) := by
  rw [fdtGetprop, fdtGetpropNamelen, fdtGetPropertyNamelen_eq hf h hnames]
  cases prop? s (o + fdtTokens.size (.beginNode n.name)) n.props <;> rfl

end Properties

/-! ### In a tree -/

section Trees

variable {fdt : Mem} {root : Node} {s path : List UInt8}

lemma Encodes.stands (h : Encodes fdt root) : Stands fdt 0 (root.tokens ++ [.finish]) :=
  ⟨rfl, h.laid, by simpa using h.fits⟩

lemma mem_properties {n : Node} {p : Property} (hp : some p ∈ n.props) : p ∈ n.properties :=
  List.mem_append_left _ (List.reduceOption_mem_iff.mpr hp)

/-- What a child has, its level has. -/
lemma properties_child {f : Forest} {o : ℕ} {r : ℕ × Node} (hr : f.child? s o = some r) :
    r.2.properties ⊆ f.properties := by
  induction f generalizing o with
  | nil => exact absurd hr (by simp [Forest.child?])
  | nop rest ih => exact ih hr
  | node name props children rest ihc ihr =>
    rw [Forest.child?] at hr
    split at hr
    · obtain rfl := Option.some.inj hr
      intro p hp
      simp only [Node.properties, Forest.properties, List.mem_append] at hp ⊢
      exact hp.imp_right .inl
    · intro p hp
      simp only [Forest.properties, List.mem_append]
      exact .inr (.inr (ihr hr hp))

lemma properties_resolve {n : Node} {parts : List (List UInt8)} {o : ℕ} {r : ℕ × Node}
    (hr : n.resolve o parts = some r) : r.2.properties ⊆ n.properties := by
  induction parts generalizing o n with
  | nil => rw [← Option.some.inj hr]; exact List.Subset.refl _
  | cons part parts ih =>
    rw [Node.resolve] at hr
    split at hr
    · cases hr
    next o' n' hchild =>
      exact fun p hp => List.mem_append_right _ (properties_child hchild (ih hr hp))

lemma resolve_append {n : Node} {o : ℕ} (parts parts' : List (List UInt8)) :
    n.resolve o (parts ++ parts') = (n.resolve o parts).bind fun r => r.2.resolve r.1 parts' := by
  induction parts generalizing o n with
  | nil => rfl
  | cons part parts ih =>
    rw [List.cons_append, Node.resolve, Node.resolve]
    split
    · rfl
    · exact ih

/-- A node of the tree that a path leads to. -/
lemma Encodes.resolve_spec (h : Encodes fdt root) {parts : List (List UInt8)} {r : ℕ × Node}
    (hr : root.resolve 0 parts = some r) :
    (∃ us, Stands fdt r.1 (r.2.tokens ++ us)) ∧ ∀ p, some p ∈ r.2.props → NameAt fdt p :=
  ⟨stands_resolve h.stands hr, fun _ hp => h.names _ (properties_resolve hr (mem_properties hp))⟩

/-- A property that is found is among the properties. -/
lemma prop?_split {props : List (Option Property)} {o : ℕ} {r : ℕ × Property}
    (hr : prop? s o props = some r) :
    r.2.name = s ∧ ∃ ps qs, props = ps ++ some r.2 :: qs ∧
      r.1 = o + fdtTokens.sizes (propTokens ps) ∧
      ∀ g, alterProp s g props = ps ++ (g r.2 ++ qs) := by
  induction props generalizing o with
  | nil => cases hr
  | cons p props ih =>
    cases p with
    | none =>
      obtain ⟨hname, ps, qs, hprops, ho, halter⟩ := ih hr
      refine ⟨hname, none :: ps, qs, by rw [hprops, List.cons_append], ?_, fun g => ?_⟩
      · rw [ho]
        exact Nat.add_assoc _ _ _
      · rw [alterProp, halter, List.cons_append]
    | some p =>
      rw [prop?] at hr
      by_cases hname : p.name = s
      · rw [if_pos hname] at hr
        obtain rfl := Option.some.inj hr
        exact ⟨hname, [], props, rfl, rfl, fun g => by rw [alterProp, if_pos hname]; rfl⟩
      · rw [if_neg hname] at hr
        obtain ⟨hname', ps, qs, hprops, ho, halter⟩ := ih hr
        refine ⟨hname', some p :: ps, qs, by rw [hprops, List.cons_append], ?_, fun g => ?_⟩
        · rw [ho]
          exact Nat.add_assoc _ _ _
        · rw [alterProp, if_neg hname, halter, List.cons_append]

lemma propTokens_append (ps qs : List (Option Property)) :
    propTokens (ps ++ qs) = propTokens ps ++ propTokens qs := List.map_append

/-- A property that is found stands where it was found. -/
lemma stands_prop {props : List (Option Property)} {o : ℕ} {ts : List Token} {r : ℕ × Property}
    (h : Stands fdt o (propTokens props ++ ts)) (hr : prop? s o props = some r) :
    ∃ us, Stands fdt r.1 (.prop r.2.nameoff r.2.value :: us) := by
  obtain ⟨-, ps, qs, hprops, ho, -⟩ := prop?_split hr
  rw [hprops, propTokens_append, List.append_assoc] at h
  exact ⟨propTokens qs ++ ts, ho ▸ (stands_append.mp h).2⟩

/-- The value of a property stands behind its three words. -/
lemma holds_value {o nameoff : ℕ} {value : List UInt8} {ts : List Token}
    (h : Stands fdt o (.prop nameoff value :: ts)) :
    fdt.Holds (fdtOffDtStruct fdt + o + 12) value := by
  intro i hi
  rw [← h.laid.1.2.2.2 i hi]
  exact congrArg fdt (by omega)

/-- The path that an alias of the tree stands for: the value, up to its zero byte, of the
property of that name of the node `/aliases`. -/
def Node.aliasPath (root : Node) (s : List UInt8) : Option (List UInt8) := do
  let r ← root.resolve 0 (components aliasesPath)
  let q ← prop? s (r.1 + fdtTokens.size (.beginNode r.2.name)) r.2.props
  return q.2.value.takeWhile (· != 0)

/-- The parts of a path that may begin with an alias. -/
def Node.pathParts (root : Node) (path : List UInt8) : Option (List (List UInt8)) :=
  if path.head? = some slash then some (components path)
  else (root.aliasPath (path.takeWhile (· != slash))).map fun l =>
    components l ++ components (path.dropWhile (· != slash))

/-- The aliases of the tree are strings, and each is a path from the root. -/
def Node.AliasesOk (root : Node) : Prop :=
  ∀ r, root.resolve 0 (components aliasesPath) = some r → ∀ p, some p ∈ r.2.props →
    0 ∈ p.value ∧ p.value.head? = some slash

/-- A path from the root. -/
lemma fdtPathOffset_root (h : Encodes fdt root) (hroot : path.head? = some slash) (hs : 0 ∉ path)
    (hlen : path.length < 2 ^ 31) :
    fdtPathOffset fdt path =
      some ((root.resolve 0 (components path)).elim (-fdtErrNotfound) fun r => r.1) := by
  rw [fdtPathOffset, if_neg (not_not.mpr h.header), if_pos hroot]
  exact pathFrom_eq h.toFramed h.header h.stands hs hlen

lemma cstring_eq {p : ℕ} {l : List UInt8} (h : fdt.CString p l) : cstring fdt p = some l := by
  rw [cstring, h.strlen]
  simp only [Option.bind_eq_bind, Option.bind_some, Option.pure_def, Option.some.injEq]
  refine List.ext_getElem (by simp) fun i hi hi' => ?_
  rw [List.getElem_map, List.getElem_range, h.bytes i hi']

/-- A path below a node that was not found. -/
lemma pathFrom_neg (hheader : fdtCheckHeader fdt = 0) {offset : ℤ} (hneg : offset < 0)
    (p : List UInt8) : pathFrom fdt offset p = some offset := by
  cases hp : p.dropWhile (· == slash) with
  | nil => exact pathFrom_nil fdt offset hp
  | cons c q =>
    rw [pathFrom_cons fdt offset hp, fdtSubnodeOffsetNamelen, if_neg (not_not.mpr hheader),
      subnodeFrom, if_neg (by omega), if_neg (by omega)]
    simp [hneg]

/-- The place that an alias is read from. -/
lemma fdtGetAliasNamelen_eq (h : Encodes fdt root) :
    fdtGetAliasNamelen fdt s =
      some ((root.resolve 0 (components aliasesPath)).bind fun r =>
        (prop? s (r.1 + fdtTokens.size (.beginNode r.2.name)) r.2.props).map fun q =>
          fdtOffDtStruct fdt + q.1 + 12) := by
  rw [fdtGetAliasNamelen, fdtPathOffset_root h (by rfl) (by decide) (by decide)]
  cases hr : root.resolve 0 (components aliasesPath) with
  | none => rfl
  | some r =>
    obtain ⟨⟨us, hus⟩, hnames⟩ := h.resolve_spec hr
    have hget := fdtGetprop_eq (s := s) h.toFramed hus hnames
    rw [fdtGetprop] at hget
    simp only [Option.bind_eq_bind, Option.elim_some, Option.bind_some]
    rw [if_neg (by omega), hget]
    cases prop? s (r.1 + fdtTokens.size (.beginNode r.2.name)) r.2.props <;> rfl

/-- **Paths**: `fdt_path_offset` returns the offset of the node that the path leads to in the
tree, be it from the root or from an alias. -/
lemma fdtPathOffset_eq (h : Encodes fdt root) (hal : root.AliasesOk) (hs : 0 ∉ path)
    (hlen : path.length < 2 ^ 31) :
    fdtPathOffset fdt path =
      some ((root.pathParts path).elim (-fdtErrBadpath) fun parts =>
        (root.resolve 0 parts).elim (-fdtErrNotfound) fun r => r.1) := by
  by_cases hroot : path.head? = some slash
  · rw [fdtPathOffset_root h hroot hs hlen, Node.pathParts, if_pos hroot]
    rfl
  rw [fdtPathOffset, if_neg (not_not.mpr h.header), if_neg hroot, fdtGetAliasNamelen_eq h,
    Node.pathParts, if_neg hroot, Node.aliasPath]
  cases hr : root.resolve 0 (components aliasesPath) with
  | none => rfl
  | some r =>
    obtain ⟨⟨us, hus⟩, hnames⟩ := h.resolve_spec hr
    simp only [Option.bind_eq_bind, Option.bind_some]
    cases hq : prop? (path.takeWhile (· != slash)) (r.1 + fdtTokens.size (.beginNode r.2.name))
        r.2.props with
    | none => rfl
    | some q =>
      obtain ⟨vs, hvs⟩ := stands_prop (stands_parts hus).2.1 hq
      obtain ⟨-, ps, qs, hprops, -⟩ := prop?_split hq
      obtain ⟨hzero, hhead⟩ := hal r hr q.2 (by rw [hprops]; simp)
      have hstring := (holds_value hvs).cstring hzero
      have hshort := (prop_words h.toFramed hvs).2.1
      have htake := (List.takeWhile_prefix (l := q.2.value) (· != 0)).length_le
      have hslash : (q.2.value.takeWhile (· != 0)).head? = some slash := by
        cases hv : q.2.value with
        | nil => rw [hv] at hhead; cases hhead
        | cons c v =>
          rw [hv] at hhead
          obtain rfl := Option.some.inj hhead
          rw [List.takeWhile_cons_of_pos (by decide)]
          rfl
      simp only [Option.map_some, Option.bind_some, Option.pure_def, Option.elim_some,
        cstring_eq hstring, fdtPathOffset_root h hslash hstring.nonzero (by omega), resolve_append]
      have hdrop := (List.dropWhile_suffix (l := path) (· != slash)).length_le
      cases hr' : root.resolve 0 (components (q.2.value.takeWhile (· != 0))) with
      | none => exact pathFrom_neg h.header (by decide) _
      | some r' =>
        obtain ⟨⟨us', hus'⟩, -⟩ := h.resolve_spec hr'
        exact pathFrom_eq h.toFramed h.header hus'
          (fun h0 => hs ((List.dropWhile_suffix _).subset h0)) (by omega)

end Trees

end A733Boot.Fdt
