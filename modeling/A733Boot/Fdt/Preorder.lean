/-
The walk over a tree: what `fdt_next_node` does at the tokens of a tree that stands in memory.

* `Stands`: tokens of the structure block, from an offset on;
* `nextNodeFrom_begin`, `nextNodeFrom_props`, `nextNodeFrom_end`, `fdtNextNode_node`: one
  round of the loop at each kind of token;
* `Forest.visits`: the nodes in preorder, each with its offset and its depth;
* `isChain_visits`, `fdtNextNode_preorder` (**preorder**): from node to node, the calls of
  `fdt_next_node` go through these one after the other, and behind the last of them the depth
  is negative.
-/
import A733Boot.Fdt.Flatten
import Mathlib.Data.List.Chain

namespace A733Boot.Fdt

open Mem

/-- The tokens stand in the structure block from `o` on. -/
structure Stands (fdt : Mem) (o : ℕ) (ts : List Token) : Prop where
  align : o % 4 = 0
  laid : fdtTokens.Laid (structBlock fdt) o ts
  fits : o + fdtTokens.sizes ts ≤ fdtSizeDtStruct fdt

section Rounds

variable {fdt : Mem} {o : ℕ} {t : Token} {ts us : List Token} {d : Option ℤ}

lemma Stands.tail (h : Stands fdt o (t :: ts)) : Stands fdt (o + fdtTokens.size t) ts := by
  have hmod := size_mod t
  have halign := h.align
  have hfits := h.fits
  rw [TokenKind.sizes_cons] at hfits
  exact ⟨by omega, h.laid.2, by omega⟩

lemma stands_append : Stands fdt o (ts ++ us) ↔
    Stands fdt o ts ∧ Stands fdt (o + fdtTokens.sizes ts) us := by
  have hmod := sizes_mod ts
  constructor
  · rintro ⟨halign, hlaid, hfits⟩
    rw [TokenKind.sizes_append] at hfits
    obtain ⟨hts, hus⟩ := TokenKind.laid_append.mp hlaid
    exact ⟨⟨halign, hts, by omega⟩, ⟨by omega, hus, by omega⟩⟩
  · rintro ⟨⟨halign, hts, -⟩, ⟨-, hus, hfits⟩⟩
    refine ⟨halign, TokenKind.laid_append.mpr ⟨hts, hus⟩, ?_⟩
    rw [TokenKind.sizes_append]
    omega

lemma Stands.nextTag (hf : Framed fdt) (h : Stands fdt o (t :: ts)) :
    fdtNextTag fdt o = some (t.tag, ((o + fdtTokens.size t : ℕ) : ℤ)) := by
  have hfits := h.fits
  rw [TokenKind.sizes_cons] at hfits
  exact fdtNextTag_token hf h.align h.laid.1 (by omega)

lemma nextNodeFrom_begin (hf : Framed fdt) {name : List UInt8}
    (h : Stands fdt o (.beginNode name :: ts)) :
    nextNodeFrom fdt o d = some ((o : ℤ), d.map (· + 1)) := by
  rw [nextNodeFrom, h.nextTag hf]
  rfl

/-- Properties and NOPs are passed. -/
lemma nextNodeFrom_props (hf : Framed fdt) {props : List (Option Property)}
    (h : Stands fdt o (propTokens props ++ ts)) :
    nextNodeFrom fdt o d = nextNodeFrom fdt (o + fdtTokens.sizes (propTokens props) : ℕ) d := by
  induction props generalizing o with
  | nil => rfl
  | cons p props ih =>
    obtain ⟨t, hcons, hskip⟩ : ∃ t, propTokens (p :: props) = t :: propTokens props ∧
        (t.tag = fdtProp ∨ t.tag = fdtNop) := by
      cases p with
      | none => exact ⟨.nop, rfl, .inr rfl⟩
      | some p => exact ⟨.prop p.nameoff p.value, rfl, .inl rfl⟩
    rw [hcons, List.cons_append] at h
    have hpass : Passes fdt (o, d) (o + fdtTokens.size t, d) := .skip (h.nextTag hf) hskip
    rw [nextNodeFrom_passes hpass, ih h.tail, hcons, TokenKind.sizes_cons, Nat.add_assoc]

lemma nextNodeFrom_nop (hf : Framed fdt) (h : Stands fdt o (.nop :: ts)) :
    nextNodeFrom fdt o d = nextNodeFrom fdt (o + 4 : ℕ) d :=
  nextNodeFrom_props hf (show Stands fdt o (propTokens [none] ++ ts) from h)

/-- The end of a node that is not the one the walk started from. -/
lemma nextNodeFrom_up (hf : Framed fdt) {k : ℤ} (hk : 0 ≤ k) (h : Stands fdt o (.endNode :: ts)) :
    nextNodeFrom fdt o (some (k + 1)) = nextNodeFrom fdt (o + 4 : ℕ) (some k) := by
  have hpass : Passes fdt (o, some (k + 1)) (o + 4, (some (k + 1)).map (· - 1)) :=
    .up (h.nextTag hf) fun x hx => by
      rw [← Option.some.inj hx]
      omega
  rw [nextNodeFrom_passes hpass]
  simp

/-- The end of the node the walk started from. -/
lemma nextNodeFrom_end_zero (hf : Framed fdt) (h : Stands fdt o (.endNode :: ts)) :
    nextNodeFrom fdt o (some 0) = some (((o + 4 : ℕ) : ℤ), some (-1)) := by
  rw [nextNodeFrom, h.nextTag hf]
  rfl

/-- From a node the walk goes on behind its name. -/
lemma fdtNextNode_node (hf : Framed fdt) {name : List UInt8}
    (h : Stands fdt o (.beginNode name :: ts)) :
    fdtNextNode fdt o d = nextNodeFrom fdt (o + fdtTokens.size (.beginNode name) : ℕ) d := by
  have halign := h.align
  rw [fdtNextNode, if_pos (by omega), fdtCheckNodeOffset, checkOffset,
    if_neg (by simp only [fdtTagsize]; omega), h.nextTag hf]
  simp only [Option.map_some, Token.tag, ne_eq, not_true_eq_false, if_false, Option.bind_eq_bind,
    Option.bind_some]
  rw [if_neg (by omega)]

end Rounds

/-! ### Preorder -/

/-- Where the children of a node at `o` begin. -/
def childrenAt (o : ℕ) (name : List UInt8) (props : List (Option Property)) : ℕ :=
  o + fdtTokens.size (.beginNode name) + fdtTokens.sizes (propTokens props)

/-- The nodes in preorder, with their offsets and depths, when the first token stands at `o`
and the first node has the depth `d`. -/
def Forest.visits : ℕ → ℤ → Forest → List (ℕ × ℤ)
  | _, _, nil => []
  | o, d, nop rest => rest.visits (o + 4) d
  | o, d, node name props children rest =>
      let oc := childrenAt o name props
      (o, d) :: (children.visits oc (d + 1) ++
        rest.visits (oc + fdtTokens.sizes children.tokens + 4) d)

section Preorder

variable {fdt : Mem} {o : ℕ} {d : ℤ} {f : Forest} {ts : List Token}

/-- One call of `fdt_next_node` with a depth leads from the first pair to the second. -/
def Step (fdt : Mem) (a b : ℕ × ℤ) : Prop :=
  fdtNextNode fdt a.1 (some a.2) = some ((b.1 : ℤ), some b.2)

/-- The call at `a` continues with the token at `o`, at the depth `d`. -/
def Leads (fdt : Mem) (a : ℕ × ℤ) (o : ℕ) (d : ℤ) : Prop :=
  fdtNextNode fdt a.1 (some a.2) = nextNodeFrom fdt o (some d)

/-- The parts of the first node. -/
lemma stands_node {name : List UInt8} {props : List (Option Property)} {children rest : Forest}
    (h : Stands fdt o ((Forest.node name props children rest).tokens ++ ts)) :
    Stands fdt o (.beginNode name :: (propTokens props ++ (children.tokens ++
      .endNode :: (rest.tokens ++ ts)))) ∧
    Stands fdt (o + fdtTokens.size (.beginNode name)) (propTokens props ++ (children.tokens ++
      .endNode :: (rest.tokens ++ ts))) ∧
    Stands fdt (childrenAt o name props) (children.tokens ++ .endNode :: (rest.tokens ++ ts)) ∧
    Stands fdt (childrenAt o name props + fdtTokens.sizes children.tokens)
      (.endNode :: (rest.tokens ++ ts)) ∧
    Stands fdt (childrenAt o name props + fdtTokens.sizes children.tokens + 4)
      (rest.tokens ++ ts) := by
  simp only [Forest.tokens, List.cons_append, List.append_assoc] at h
  have hchildren := (stands_append.mp h.tail).2
  have hend := (stands_append.mp hchildren).2
  exact ⟨h, h.tail, hchildren, hend, hend.tail⟩

/-- The parts of a node with nothing behind it on its level. -/
lemma stands_parts {n : Node} (h : Stands fdt o (n.tokens ++ ts)) :
    Stands fdt o (.beginNode n.name :: (propTokens n.props ++ (n.children.tokens ++
      .endNode :: ts))) ∧
    Stands fdt (o + fdtTokens.size (.beginNode n.name)) (propTokens n.props ++
      (n.children.tokens ++ .endNode :: ts)) ∧
    Stands fdt (childrenAt o n.name n.props) (n.children.tokens ++ .endNode :: ts) ∧
    Stands fdt (childrenAt o n.name n.props + fdtTokens.sizes n.children.tokens)
      (.endNode :: ts) := by
  obtain ⟨hbegin, hprops, hchildren, hend, -⟩ :=
    stands_node (show Stands fdt o ((Forest.node n.name n.props n.children .nil).tokens ++ ts) from h)
  exact ⟨hbegin, hprops, hchildren, hend⟩

lemma node_sizes (o : ℕ) (name : List UInt8) (props : List (Option Property))
    (children rest : Forest) :
    o + fdtTokens.sizes (Forest.node name props children rest).tokens =
      childrenAt o name props + fdtTokens.sizes children.tokens + 4
        + fdtTokens.sizes rest.tokens := by
  have hfour : fdtTokens.size .endNode = 4 := rfl
  simp only [Forest.tokens, TokenKind.sizes_cons, TokenKind.sizes_append, childrenAt, hfour]
  omega

lemma getLastD_append {α : Type} (a : α) (l l' : List α) :
    (l ++ l').getLastD a = l'.getLastD (l.getLastD a) := by
  induction l generalizing a with
  | nil => rfl
  | cons b l ih => rw [List.cons_append, List.getLastD_cons, List.getLastD_cons, ih]

/-- A chain goes on from its last element. -/
lemma isChain_append_of_getLastD {α : Type} {R : α → α → Prop} {a : α} {l l' : List α}
    (h : List.IsChain R (a :: l)) (h' : List.IsChain R (l.getLastD a :: l')) :
    List.IsChain R (a :: (l ++ l')) := by
  induction l generalizing a with
  | nil => exact h'
  | cons b l ih =>
    rw [List.isChain_cons_cons] at h
    rw [List.getLastD_cons] at h'
    rw [List.cons_append, List.isChain_cons_cons]
    exact ⟨h.1, ih h.2 h'⟩

/-- Behind a node that leads to the forest, the walk goes through its nodes in preorder, and
the last of them leads behind it. -/
lemma isChain_visits (hf : Framed fdt) (hd : 0 ≤ d) (h : Stands fdt o (f.tokens ++ ts))
    (a : ℕ × ℤ) (ha : Leads fdt a o d) :
    List.IsChain (Step fdt) (a :: f.visits o (d + 1)) ∧
      Leads fdt ((f.visits o (d + 1)).getLastD a) (o + fdtTokens.sizes f.tokens) d := by
  induction f generalizing o d a ts with
  | nil => exact ⟨List.isChain_singleton a, ha⟩
  | nop rest ih =>
    have htail : Stands fdt (o + 4) (rest.tokens ++ ts) := Stands.tail h
    have hsizes : o + fdtTokens.sizes (Forest.nop rest).tokens
        = o + 4 + fdtTokens.sizes rest.tokens := by
      simp only [Forest.tokens, TokenKind.sizes_cons, Nat.add_assoc]
      rfl
    rw [hsizes, Forest.visits]
    exact ih hd htail a (ha.trans (nextNodeFrom_nop hf h))
  | node name props children rest ihc ihr =>
    obtain ⟨hnode, hprops, hchildren, hend, hrest⟩ := stands_node h
    have hstep : Step fdt a (o, d + 1) := ha.trans (nextNodeFrom_begin hf hnode)
    have hlead : Leads fdt (o, d + 1) (childrenAt o name props) (d + 1) :=
      (fdtNextNode_node hf hnode).trans (nextNodeFrom_props hf hprops)
    obtain ⟨hchain, hlast⟩ := ihc (by omega) hchildren _ hlead
    obtain ⟨hchain', hlast'⟩ := ihr hd hrest _ (hlast.trans (nextNodeFrom_up hf hd hend))
    rw [node_sizes, Forest.visits]
    refine ⟨List.isChain_cons_cons.mpr ⟨hstep, isChain_append_of_getLastD hchain hchain'⟩, ?_⟩
    rwa [List.getLastD_cons, getLastD_append]

/-- **Preorder**: from a node on, the calls of `fdt_next_node` go through the nodes below it in
preorder, each with its depth, and then behind the node, where the depth is negative. -/
lemma fdtNextNode_preorder (hf : Framed fdt) {n : Node} (h : Stands fdt o (n.tokens ++ ts)) :
    List.IsChain (Step fdt) ((o, 0) ::
      (n.children.visits (childrenAt o n.name n.props) 1 ++ [(o + fdtTokens.sizes n.tokens, -1)])) := by
  obtain ⟨hbegin, hprops, hchildren, hend⟩ := stands_parts h
  have hlead : Leads fdt (o, 0) (childrenAt o n.name n.props) 0 :=
    (fdtNextNode_node hf hbegin).trans (nextNodeFrom_props hf hprops)
  obtain ⟨hchain, hlast⟩ := isChain_visits hf le_rfl hchildren _ hlead
  have hsizes : o + fdtTokens.sizes n.tokens =
      childrenAt o n.name n.props + fdtTokens.sizes n.children.tokens + 4 :=
    node_sizes o n.name n.props n.children .nil
  rw [hsizes]
  refine isChain_append_of_getLastD hchain (List.isChain_pair.mpr ?_)
  exact hlast.trans (nextNodeFrom_end_zero hf hend)

lemma depth_le_of_mem_visits {v : ℕ × ℤ} (hv : v ∈ f.visits o d) : d ≤ v.2 := by
  induction f generalizing o d with
  | nil => exact absurd hv List.not_mem_nil
  | nop rest ih => exact ih hv
  | node name props children rest ihc ihr =>
    simp only [Forest.visits, List.mem_cons, List.mem_append] at hv
    rcases hv with rfl | hv | hv
    · exact le_rfl
    · have := ihc hv
      omega
    · exact ihr hv

end Preorder

/-! ### One level -/

/-- The offsets of the nodes of a level. -/
def Forest.tops : ℕ → Forest → List ℕ
  | _, nil => []
  | o, nop rest => rest.tops (o + 4)
  | o, node name props children rest =>
      o :: rest.tops (childrenAt o name props + fdtTokens.sizes children.tokens + 4)

section Level

variable {fdt : Mem} {o : ℕ} {f : Forest}

/-- On the way to the next node of the level, the deeper ones are passed. -/
lemma nextSubnodeFrom_chain {a e : ℕ × ℤ} {l : List (ℕ × ℤ)}
    (hchain : List.IsChain (Step fdt) (a :: (l ++ [e]))) (he : e.2 < 1) (hl : ∀ v ∈ l, 1 ≤ v.2) :
    nextSubnodeFrom fdt a.1 a.2 =
      some ((l.find? fun v => v.2 = 1).elim (-fdtErrNotfound) fun v => (v.1 : ℤ)) := by
  induction l generalizing a with
  | nil =>
    have hstep : Step fdt a e := List.isChain_pair.mp hchain
    rw [nextSubnodeFrom, hstep]
    simp only [Option.bind_eq_bind, Option.bind_some, Option.getD_some]
    rw [if_pos (.inr he)]
    rfl
  | cons b l ih =>
    rw [List.cons_append, List.isChain_cons_cons] at hchain
    have hb := hl b List.mem_cons_self
    rw [nextSubnodeFrom, hchain.1]
    simp only [Option.bind_eq_bind, Option.bind_some, Option.getD_some]
    rw [if_neg (by omega)]
    by_cases hdeep : 1 < b.2
    · rw [if_pos hdeep, List.find?_cons_of_neg (by simp; omega)]
      exact ih hchain.2 fun v hv => hl v (List.mem_cons_of_mem b hv)
    · rw [if_neg hdeep, List.find?_cons_of_pos (by simp; omega)]
      rfl

/-- The first node in preorder is the first of the level. -/
lemma head?_visits (f : Forest) (o : ℕ) (d : ℤ) :
    (f.visits o d).head? = (f.tops o).head?.map fun a => (a, d) := by
  induction f generalizing o with
  | nil => rfl
  | nop rest ih => exact ih (o + 4)
  | node name props children rest => rfl

/-- The first node in preorder that is not deeper than the level is the first of the level. -/
lemma find_tops (f : Forest) (o : ℕ) :
    ((f.visits o 1).find? fun v => v.2 = 1) = (f.tops o).head?.map fun a => (a, 1) := by
  induction f generalizing o with
  | nil => rfl
  | nop rest ih => exact ih (o + 4)
  | node name props children rest =>
    rw [Forest.visits, List.find?_cons_of_pos (by simp)]
    rfl

/-- From node to node of a level, and from the last one to the end. -/
lemma nextSubnode_tops {e : ℕ × ℤ} (hchain : List.IsChain (Step fdt) (f.visits o 1 ++ [e]))
    (he : e.2 < 1) :
    List.IsChain (fun a b : ℤ => fdtNextSubnode fdt a = some b)
      ((f.tops o).map Nat.cast ++ [-fdtErrNotfound]) := by
  induction f generalizing o with
  | nil => exact List.isChain_singleton _
  | nop rest ih => exact ih hchain
  | node name props children rest ihc ihr =>
    rw [Forest.visits, List.cons_append] at hchain
    have hdepth : ∀ v ∈ children.visits (childrenAt o name props) (1 + 1) ++
        rest.visits (childrenAt o name props + fdtTokens.sizes children.tokens + 4) 1, 1 ≤ v.2 := by
      intro v hv
      rcases List.mem_append.mp hv with hv | hv
      · have := depth_le_of_mem_visits hv
        omega
      · exact depth_le_of_mem_visits hv
    have hdeep : ((children.visits (childrenAt o name props) (1 + 1)).find? fun v => v.2 = 1)
        = none := by
      refine List.find?_eq_none.mpr fun v hv => ?_
      have := depth_le_of_mem_visits hv
      simp only [decide_eq_true_eq]
      omega
    have hnext := nextSubnodeFrom_chain hchain he hdepth
    rw [List.find?_append, hdeep, Option.none_or, find_tops, Option.elim_map] at hnext
    have hrest := ihr ((List.append_assoc _ _ [e] ▸ hchain.tail).right_of_append)
    rw [Forest.tops, List.map_cons, List.cons_append, List.isChain_cons]
    refine ⟨fun b hb => ?_, hrest⟩
    rw [List.head?_append, List.head?_map] at hb
    cases hhead : (rest.tops
        (childrenAt o name props + fdtTokens.sizes children.tokens + 4)).head? with
    | none =>
      rw [hhead] at hb hnext
      cases hb
      exact hnext
    | some a =>
      rw [hhead] at hb hnext
      cases hb
      exact hnext

end Level

end A733Boot.Fdt
