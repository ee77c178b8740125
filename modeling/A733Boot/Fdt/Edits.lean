/-
Whole runs of changes to a tree: a client finds a node by its path and calls one of the
functions of `fdt_wip.c` on it, again and again.

* `Edit.run`, `runEdits`: the calls, on the bytes;
* `Edit.onTree`, `editTree`: the changes, on the tree;
* `Edit.run_spec`: one change of the bytes is that of the tree;
* `edits_refine` (**refinement**): so is a run of changes, each call returns what it does on the
  tree, and no byte outside of the structure block is written;
* `setprop_keeps_lookups` (**set and get**): after a value was set every lookup by a path from
  the root finds what it found before, at the same place, but for the value that was set.
-/
import A733Boot.Fdt.Access
import A733Boot.Fdt.Inplace

namespace A733Boot.Fdt

open Mem

/-- A change of the node at a path. -/
inductive Edit
  | set (path name value : List UInt8)
  | nopProp (path name : List UInt8)
  | nopNode (path : List UInt8)

namespace Edit

def path : Edit → List UInt8
  | set path _ _ => path
  | nopProp path _ => path
  | nopNode path => path

/-- The function that is called for the node. -/
def call (fdt : Mem) (node : ℤ) : Edit → Option (ℤ × Mem)
  | set _ name value => fdtSetpropInplace fdt node name value
  | nopProp _ name => fdtNopProperty fdt node name
  | nopNode _ => fdtNopNode fdt node

def run (fdt : Mem) (e : Edit) : Option (ℤ × Mem) := do
  let node ← fdtPathOffset fdt e.path
  if node < 0 then return (node, fdt) else e.call fdt node

/-- The path begins at the root, and the root itself is not covered. -/
def Valid (e : Edit) : Prop :=
  e.path.head? = some slash ∧ 0 ∉ e.path ∧ e.path.length < 2 ^ 31 ∧
    match e with
    | nopNode path => components path ≠ []
    | _ => True

end Edit

/-- The changes, one after the other, and what the calls returned. -/
def runEdits : List Edit → Mem → Option (List ℤ × Mem)
  | [], fdt => some ([], fdt)
  | e :: es, fdt => do
      let (err, fdt) ← e.run fdt
      let (errs, fdt) ← runEdits es fdt
      return (err :: errs, fdt)

/-! ### On the tree -/

/-- The node at the path covered with NOPs. -/
def Node.cover (root : Node) (parts : List (List UInt8)) : Node :=
  match parts.getLast? with
  | none => root
  | some s => root.alter (Node.coverChild s) parts.dropLast

/-- What the call returns, and the tree behind it. -/
def Edit.onTree (root : Node) : Edit → ℤ × Node
  | set path name value =>
      match (root.find (components path)).bind fun n => n.value? name with
      | none => (-fdtErrNotfound, root)
      | some old =>
          if old.length ≠ value.length then (-fdtErrNospace, root)
          else (0, root.alter (Node.setProp name value) (components path))
  | nopProp path name =>
      match (root.find (components path)).bind fun n => n.value? name with
      | none => (-fdtErrNotfound, root)
      | some _ => (0, root.alter (Node.nopProp name) (components path))
  | nopNode path =>
      match root.find (components path) with
      | none => (-fdtErrNotfound, root)
      | some _ => (0, root.cover (components path))

def editTree : List Edit → Node → List ℤ × Node
  | [], root => ([], root)
  | e :: es, root =>
      let (err, root) := e.onTree root
      let (errs, root) := editTree es root
      (err :: errs, root)

section Edits

variable {fdt fdt' : Mem} {root : Node} {e : Edit} {r : ℕ × Node}

/-- The bytes of the header and those behind the structure block. -/
def Apart (fdt fdt' : Mem) : Prop :=
  ∀ a, a < fdtOffDtStruct fdt ∨ fdtOffDtStruct fdt + fdtSizeDtStruct fdt ≤ a → fdt' a = fdt a

/-- What one change leaves: the bytes of the changed tree, and no other byte is written. -/
structure Done (fdt : Mem) (root : Node) (e : Edit) (res : ℤ × Mem) : Prop where
  err : res.1 = (e.onTree root).1
  tree : Encodes res.2 (e.onTree root).2
  frame : Apart fdt res.2

lemma Done.same (h : Encodes fdt root) {err : ℤ} (he : e.onTree root = (err, root)) :
    Done fdt root e (err, fdt) :=
  ⟨by rw [he], by rw [he]; exact h, fun _ _ => rfl⟩

lemma value?_eq (s : List UInt8) (o : ℕ) (n : Node) :
    n.value? s = (prop? s o n.props).map fun q => q.2.value := by
  rw [Node.value?, ← prop?_map (o := o), Option.map_map]
  rfl

/-- The tokens of a property that is found are inside of the structure block. -/
lemma prop_inside (h : Encodes fdt root) {parts : List (List UInt8)} {s : List UInt8}
    {q : ℕ × Property} (hr : root.resolve 0 parts = some r)
    (hq : prop? s (r.1 + fdtTokens.size (.beginNode r.2.name)) r.2.props = some q) :
    q.1 + fdtTokens.size (.prop q.2.nameoff q.2.value) ≤ fdtSizeDtStruct fdt := by
  obtain ⟨⟨us, hus⟩, -⟩ := h.resolve_spec hr
  obtain ⟨vs, hvs⟩ := stands_prop (stands_parts hus).2.1 hq
  have hfits := hvs.fits
  rw [TokenKind.sizes_cons] at hfits
  omega

lemma set_done (h : Encodes fdt root) {path s v : List UInt8}
    (hr : root.resolve 0 (components path) = some r) :
    ∃ res, fdtSetpropInplace fdt r.1 s v = some res ∧ Done fdt root (.set path s v) res := by
  have hfind : root.find (components path) = some r.2 := by
    rw [← resolve_map (o := 0), hr]
    rfl
  refine ⟨_, fdtSetpropInplace_eq h hr, ?_⟩
  have hvalue := value?_eq s (r.1 + fdtTokens.size (.beginNode r.2.name)) r.2
  cases hq : prop? s (r.1 + fdtTokens.size (.beginNode r.2.name)) r.2.props with
  | none =>
    rw [hq, Option.map_none] at hvalue
    exact Done.same h (by rw [Edit.onTree, hfind, Option.bind_some, hvalue])
  | some q =>
    rw [hq, Option.map_some] at hvalue
    by_cases hlen : q.2.value.length = v.length
    · have htree : (Edit.set path s v).onTree root
          = (0, root.alter (Node.setProp s v) (components path)) := by
        rw [Edit.onTree, hfind, Option.bind_some, hvalue]
        simp [hlen]
      have hin := prop_inside h hr hq
      have hround := le_alignUp (12 + q.2.value.length)
      rw [show fdtTokens.size (.prop q.2.nameoff q.2.value)
        = alignUp (12 + q.2.value.length) from rfl] at hin
      dsimp only
      rw [if_neg (not_not.mpr hlen)]
      exact ⟨by rw [htree], by rw [htree]; exact h.set hr hq hlen.symm,
        fun a ha => Mem.storeBytes_outside (by omega)⟩
    · dsimp only
      rw [if_pos hlen]
      refine Done.same h ?_
      rw [Edit.onTree, hfind, Option.bind_some, hvalue]
      simp [hlen]

lemma nopProp_done (h : Encodes fdt root) {path s : List UInt8}
    (hr : root.resolve 0 (components path) = some r) :
    ∃ res, fdtNopProperty fdt r.1 s = some res ∧ Done fdt root (.nopProp path s) res := by
  have hfind : root.find (components path) = some r.2 := by
    rw [← resolve_map (o := 0), hr]
    rfl
  refine ⟨_, fdtNopProperty_eq h hr, ?_⟩
  have hvalue := value?_eq s (r.1 + fdtTokens.size (.beginNode r.2.name)) r.2
  cases hq : prop? s (r.1 + fdtTokens.size (.beginNode r.2.name)) r.2.props with
  | none =>
    rw [hq, Option.map_none] at hvalue
    exact Done.same h (by rw [Edit.onTree, hfind, Option.bind_some, hvalue])
  | some q =>
    rw [hq, Option.map_some] at hvalue
    have htree : (Edit.nopProp path s).onTree root
        = (0, root.alter (Node.nopProp s) (components path)) := by
      rw [Edit.onTree, hfind, Option.bind_some, hvalue]
    have hin := prop_inside h hr hq
    have hmod := size_mod (.prop q.2.nameoff q.2.value)
    exact ⟨by rw [htree], by rw [htree]; exact h.nopProp hr hq,
      fun a ha => nopWords_outside (by omega)⟩

lemma nopNode_done (h : Encodes fdt root) {path : List UInt8} (hne : components path ≠ [])
    (hr : root.resolve 0 (components path) = some r) :
    ∃ res, fdtNopNode fdt r.1 = some res ∧ Done fdt root (.nopNode path) res := by
  have hfind : root.find (components path) = some r.2 := by
    rw [← resolve_map (o := 0), hr]
    rfl
  obtain ⟨⟨us, hus⟩, -⟩ := h.resolve_spec hr
  have htree : (Edit.nopNode path).onTree root = (0, root.cover (components path)) := by
    rw [Edit.onTree, hfind]
  have hfits := hus.fits
  have hmod := sizes_mod r.2.tokens
  rw [TokenKind.sizes_append] at hfits
  refine ⟨_, fdtNopNode_eq h.toFramed hus, by rw [htree], ?_,
    fun a ha => nopWords_outside (by omega)⟩
  rw [htree]
  obtain ⟨parts, s, hparts⟩ := (List.eq_nil_or_concat (components path)).resolve_left hne
  rw [List.concat_eq_append] at hparts
  rw [hparts, Node.cover, List.getLast?_concat, List.dropLast_concat]
  rw [hparts, resolve_append] at hr
  cases hup : root.resolve 0 parts with
  | none =>
    rw [hup] at hr
    cases hr
  | some up =>
    rw [hup, Option.bind_some, Node.resolve] at hr
    cases hchild : up.2.children.child? s (childrenAt up.1 up.2.name up.2.props) with
    | none =>
      rw [hchild] at hr
      cases hr
    | some c =>
      rw [hchild] at hr
      obtain rfl := Option.some.inj hr
      exact h.coverChild hup hchild

/-- One change. -/
lemma Edit.run_spec (h : Encodes fdt root) (hv : e.Valid) :
    ∃ res, e.run fdt = some res ∧ Done fdt root e res := by
  obtain ⟨hroot, hzero, hlen, hcover⟩ := hv
  have hpath := fdtPathOffset_root h hroot hzero hlen
  rw [Edit.run, hpath]
  cases hr : root.resolve 0 (components e.path) with
  | none =>
    have hfind : root.find (components e.path) = none := by
      rw [← resolve_map (o := 0), hr]
      rfl
    refine ⟨(-fdtErrNotfound, fdt), rfl, Done.same h ?_⟩
    cases e <;> (rw [Edit.path] at hfind; rw [Edit.onTree, hfind]) <;> rfl
  | some r =>
    simp only [Option.elim_some, Option.bind_eq_bind, Option.bind_some]
    rw [if_neg (by omega)]
    cases e with
    | set path s v => exact set_done h hr
    | nopProp path s => exact nopProp_done h hr
    | nopNode path => exact nopNode_done h hcover hr

/-- The words of the header stay. -/
lemma Apart.trans {fdt'' : Mem} (hb : 40 ≤ fdtOffDtStruct fdt) (h : Apart fdt fdt')
    (h' : Apart fdt' fdt'') : Apart fdt fdt'' := by
  have hword : ∀ k, k + 4 ≤ 40 → fdt'.loadBe32 k = fdt.loadBe32 k := fun k hk =>
    Mem.loadBe32_congr fun i hi => h _ (.inl (by omega))
  have hoff : fdtOffDtStruct fdt' = fdtOffDtStruct fdt := hword 8 (by omega)
  have hsize : fdtSizeDtStruct fdt' = fdtSizeDtStruct fdt := hword 36 (by omega)
  intro a ha
  rw [h' a (by rwa [hoff, hsize]), h a ha]

/-- **Refinement**: any run of changes of the bytes is the run of changes of the tree. -/
theorem edits_refine (h : Encodes fdt root) {es : List Edit} (hv : ∀ e ∈ es, e.Valid) :
    ∃ fdt', runEdits es fdt = some ((editTree es root).1, fdt') ∧
      Encodes fdt' (editTree es root).2 ∧ Apart fdt fdt' := by
  induction es generalizing fdt root with
  | nil => exact ⟨fdt, rfl, h, fun _ _ => rfl⟩
  | cons e es ih =>
    obtain ⟨⟨err, fdt₁⟩, hrun, herr, htree, hframe⟩ := Edit.run_spec h (hv e List.mem_cons_self)
    obtain ⟨fdt₂, hrest, htree', hframe'⟩ := ih htree fun e' he' => hv e' (List.mem_cons_of_mem e he')
    refine ⟨fdt₂, ?_, htree', hframe.trans h.behind hframe'⟩
    rw [runEdits, hrun]
    simp only [Option.bind_eq_bind, Option.bind_some, hrest, editTree]
    rw [← herr]
    rfl

end Edits

/-- `/soc/pmu`, which fits the node `pmu@36`. -/
def pmuPath : List UInt8 := [47, 115, 111, 99, 47, 112, 109, 117]

/-- Setting a value, setting one of another length, covering the node, and looking for it. -/
def sampleEdits : List Edit :=
  [.set pmuPath [114, 101, 103] [0, 0, 0, 1], .set pmuPath [114, 101, 103] [1], .nopNode pmuPath,
    .nopProp pmuPath [114, 101, 103]]

lemma sampleEdits_valid : ∀ e ∈ sampleEdits, e.Valid := by
  have hpath : pmuPath.head? = some slash ∧ 0 ∉ pmuPath ∧ pmuPath.length < 2 ^ 31 := by decide
  have hparts : components pmuPath ≠ [] := by
    rw [components_cons (show pmuPath.dropWhile (· == slash)
      = 115 :: [111, 99, 47, 112, 109, 117] from rfl)]
    simp
  simp only [sampleEdits, List.mem_cons, List.not_mem_nil, or_false]
  rintro e (rfl | rfl | rfl | rfl)
  · exact ⟨hpath.1, hpath.2.1, hpath.2.2, trivial⟩
  · exact ⟨hpath.1, hpath.2.1, hpath.2.2, trivial⟩
  · exact ⟨hpath.1, hpath.2.1, hpath.2.2, hparts⟩
  · exact ⟨hpath.1, hpath.2.1, hpath.2.2, trivial⟩

/-- What the calls return on the small tree. -/
theorem edits_refine_sampleTree :
    (editTree sampleEdits sampleTree).1 = [0, -fdtErrNospace, 0, -fdtErrNotfound] ∧
      ∃ fdt', runEdits sampleEdits (.ofList (blob sampleTree sampleStrings))
          = some ((editTree sampleEdits sampleTree).1, fdt') ∧
        Encodes fdt' (editTree sampleEdits sampleTree).2 ∧
        Apart (.ofList (blob sampleTree sampleStrings)) fdt' :=
  ⟨by decide +kernel, edits_refine (blob_encodes sampleTree_valid) sampleEdits_valid⟩

/-! ### Set and get -/

/-- The properties with their values wiped out. -/
def blankProps (props : List (Option Property)) : List (Option Property) :=
  props.map fun p => p.map fun p => { p with value := List.replicate p.value.length 0 }

/-- The level with all values wiped out: what the lookups depend on. -/
def Forest.blank : Forest → Forest
  | nil => nil
  | nop rest => nop rest.blank
  | node name props children rest => node name (blankProps props) children.blank rest.blank

def Node.blank (n : Node) : Node := ⟨n.name, blankProps n.props, n.children.blank⟩

section Blank

variable {o : ℕ} {s v : List UInt8}

lemma size_blank (nameoff : ℕ) (value : List UInt8) :
    fdtTokens.size (.prop nameoff (List.replicate value.length 0))
      = fdtTokens.size (.prop nameoff value) := by
  show alignUp (12 + (List.replicate value.length (0 : UInt8)).length) = _
  rw [List.length_replicate]
  rfl

lemma propTokens_blank (props : List (Option Property)) :
    fdtTokens.sizes (propTokens (blankProps props)) = fdtTokens.sizes (propTokens props) := by
  induction props with
  | nil => rfl
  | cons p props ih =>
    cases p with
    | none => exact congrArg (fdtTokens.size .nop + ·) ih
    | some p => exact congrArg₂ (· + ·) (size_blank p.nameoff p.value) ih

lemma childrenAt_blank (name : List UInt8) (props : List (Option Property)) :
    childrenAt o name (blankProps props) = childrenAt o name props := by
  rw [childrenAt, childrenAt, propTokens_blank]

lemma tokens_blank (f : Forest) : fdtTokens.sizes f.blank.tokens = fdtTokens.sizes f.tokens := by
  induction f with
  | nil => rfl
  | nop rest ih => exact congrArg (fdtTokens.size .nop + ·) ih
  | node name props children rest ihc ihr =>
    simp only [Forest.blank, Forest.tokens, TokenKind.sizes_cons, TokenKind.sizes_append,
      propTokens_blank, ihc, ihr]

lemma child?_blank (f : Forest) :
    f.blank.child? s o = (f.child? s o).map fun r => (r.1, r.2.blank) := by
  induction f generalizing o with
  | nil => rfl
  | nop rest ih => exact ih
  | node name props children rest ihc ihr =>
    rw [Forest.blank, Forest.child?, Forest.child?]
    by_cases hfit : Fits s name
    · rw [if_pos hfit, if_pos hfit]
      rfl
    · rw [if_neg hfit, if_neg hfit, childrenAt_blank, tokens_blank]
      exact ihr

/-- Where a path leads does not depend on the values. -/
lemma resolve_blank (n : Node) (parts : List (List UInt8)) :
    n.blank.resolve o parts = (n.resolve o parts).map fun r => (r.1, r.2.blank) := by
  induction parts generalizing o n with
  | nil => rfl
  | cons part parts ih =>
    rw [Node.resolve, Node.resolve, Node.blank, childrenAt_blank, child?_blank]
    cases n.children.child? part (childrenAt o n.name n.props) with
    | none => rfl
    | some r => exact ih r.2

/-- Nor does where a property is found. -/
lemma prop?_blank (props : List (Option Property)) :
    (prop? s o (blankProps props)).map (fun q => (q.1, q.2.value.length)) =
      (prop? s o props).map fun q => (q.1, q.2.value.length) := by
  induction props generalizing o with
  | nil => rfl
  | cons p props ih =>
    cases p with
    | none => exact ih
    | some p =>
      show Option.map _ (prop? s o (some _ :: blankProps props)) = _
      rw [prop?, prop?]
      by_cases hname : p.name = s
      · rw [if_pos hname, if_pos hname]
        simp
      · rw [if_neg hname, if_neg hname, size_blank]
        exact ih

/-- A value of the same length in its place is wiped out like the old one. -/
lemma blank_setProp {n : Node} {q : ℕ × Property} (hq : prop? s o n.props = some q)
    (hlen : v.length = q.2.value.length) : (Node.setProp s v n).blank = n.blank := by
  obtain ⟨-, ps, qs, hprops, -, halter⟩ := prop?_split hq
  have hset := halter fun p => [some { p with value := v }]
  show Node.mk n.name (blankProps (Fdt.alterProp s _ n.props)) n.children.blank = n.blank
  rw [hset, Node.blank, hprops]
  simp [blankProps, hlen]

lemma blank_alter {f : Forest} {g : Node → Node}
    (hg : ∀ r, f.child? s o = some r → (g r.2).blank = r.2.blank) :
    (f.alter s g).blank = f.blank := by
  induction f generalizing o with
  | nil => rfl
  | nop rest ih => exact congrArg Forest.nop (ih hg)
  | node name props children rest ihc ihr =>
    rw [Forest.alter, Forest.splice]
    rw [Forest.child?] at hg
    by_cases hfit : Fits s name
    · rw [if_pos hfit] at hg ⊢
      have hnode := hg _ rfl
      rw [Node.blank, Node.blank, Node.mk.injEq] at hnode
      rw [Node.cons, Forest.blank, Forest.blank, hnode.1, hnode.2.1, hnode.2.2]
    · rw [if_neg hfit] at hg ⊢
      exact congrArg (Forest.node _ _ _) (ihr hg)

/-- A change that keeps the node it is made at, but for its values, keeps the tree. -/
lemma blank_alter_node {n : Node} {g : Node → Node} {parts : List (List UInt8)}
    (hg : ∀ r, n.resolve o parts = some r → (g r.2).blank = r.2.blank) :
    (n.alter g parts).blank = n.blank := by
  induction parts generalizing o n with
  | nil => exact hg (o, n) rfl
  | cons part parts ih =>
    have hchildren : (n.children.alter part (Node.alter g parts)).blank = n.children.blank := by
      refine blank_alter (o := childrenAt o n.name n.props) fun r hr =>
        ih (o := r.1) fun r' hr' => hg r' ?_
      rw [Node.resolve, hr]
      exact hr'
    rw [Node.alter, Node.blank, hchildren]
    rfl

/-- Trees that differ in their values only have the same lookups. -/
lemma resolve_of_blank {n n' : Node} (h : n'.blank = n.blank) (parts : List (List UInt8)) :
    (n'.resolve o parts).map (fun r => (r.1, r.2.blank)) =
      (n.resolve o parts).map fun r => (r.1, r.2.blank) := by
  rw [← resolve_blank, ← resolve_blank, h]

lemma prop?_of_blank {n n' : Node} (h : n'.blank = n.blank) :
    (prop? s o n'.props).map (fun q => (q.1, q.2.value.length)) =
      (prop? s o n.props).map fun q => (q.1, q.2.value.length) := by
  rw [← prop?_blank n'.props, ← prop?_blank n.props, (Node.mk.inj h).2.1]

end Blank

section Place

variable {fdt fdt' : Mem} {root : Node} {parts parts' : List (List UInt8)} {r r' : ℕ × Node}
  {s s' v path path' : List UInt8} {q q' : ℕ × Property}

/-- The property that is found, from the node on. -/
def Found (root : Node) (parts : List (List UInt8)) (s : List UInt8) (r : ℕ × Node)
    (q : ℕ × Property) : Prop :=
  root.resolve 0 parts = some r ∧
    prop? s (r.1 + fdtTokens.size (.beginNode r.2.name)) r.2.props = some q

lemma Found.tokens (h : Found root parts s r q) :
    ∃ us ps vs, root.tokens =
        (us ++ .beginNode r.2.name :: propTokens ps) ++ .prop q.2.nameoff q.2.value :: vs ∧
      r.1 = fdtTokens.sizes us ∧
      q.1 = fdtTokens.sizes (us ++ .beginNode r.2.name :: propTokens ps) := by
  obtain ⟨us, vs, htokens, ho, -⟩ := resolve_split h.1
  obtain ⟨-, ps, qs, hprops, hx, -⟩ := prop?_split h.2
  refine ⟨us, ps, propTokens qs ++ (r.2.children.tokens ++ .endNode :: vs), ?_, by simpa using ho, ?_⟩
  · rw [htokens, Node.tokens, hprops, propTokens_append]
    simp [propTokens]
  · rw [hx, ho, TokenKind.sizes_append, TokenKind.sizes_cons]
    omega

lemma beginNode_notMem (name : List UInt8) (ps : List (Option Property)) :
    .beginNode name ∉ propTokens ps := by
  intro hmem
  obtain ⟨p, -, hp⟩ := List.mem_map.mp hmem
  cases p <;> cases hp

/-- The last node that begins in front of a property is the one that has it. -/
lemma begin_unique {us us' : List Token} {a a' : List UInt8} {ps ps' : List (Option Property)}
    (h : us ++ .beginNode a :: propTokens ps = us' ++ .beginNode a' :: propTokens ps') :
    us = us' := by
  rcases List.append_eq_append_iff.mp h with ⟨as, hus, hcons⟩ | ⟨as, hus, hcons⟩
  · cases as with
    | nil => rw [hus, List.append_nil]
    | cons b as =>
      rw [List.cons_append, List.cons.injEq] at hcons
      exact absurd (hcons.2 ▸ (by simp)) (beginNode_notMem a' ps)
  · cases as with
    | nil => rw [hus, List.append_nil]
    | cons b as =>
      rw [List.cons_append, List.cons.injEq] at hcons
      exact absurd (hcons.2 ▸ (by simp)) (beginNode_notMem a ps')

/-- Two properties that are found are the same one, or their values do not overlap. -/
lemma Found.cases (h : Encodes fdt root) (hq : Found root parts s r q)
    (hq' : Found root parts' s' r' q') :
    (r'.1 = r.1 ∧ s' = s ∧ q'.1 = q.1) ∨ q'.1 + 12 + q'.2.value.length ≤ q.1 ∨
      q.1 + 12 + q.2.value.length ≤ q'.1 := by
  obtain ⟨us, ps, vs, htokens, ho, hx⟩ := hq.tokens
  obtain ⟨us', ps', vs', htokens', ho', hx'⟩ := hq'.tokens
  have hround := le_alignUp (12 + q.2.value.length)
  have hround' := le_alignUp (12 + q'.2.value.length)
  have hsize : fdtTokens.size (.prop q.2.nameoff q.2.value) = alignUp (12 + q.2.value.length) := rfl
  have hsize' : fdtTokens.size (.prop q'.2.nameoff q'.2.value)
    = alignUp (12 + q'.2.value.length) := rfl
  rcases fdtTokens.split_cases (htokens.symm.trans htokens') with ⟨hus, htoken⟩ | hlt | hlt
  · rw [Token.prop.injEq] at htoken
    obtain ⟨hname, ps₁, qs₁, hprops₁, -⟩ := prop?_split hq.2
    obtain ⟨hname', ps₂, qs₂, hprops₂, -⟩ := prop?_split hq'.2
    have hstring := ((h.resolve_spec hq.1).2 q.2 (by rw [hprops₁]; simp)).string
    have hstring' := ((h.resolve_spec hq'.1).2 q'.2 (by rw [hprops₂]; simp)).string
    rw [htoken.1] at hstring
    have hsame : q'.2.name = q.2.name := by
      have hlen := hstring.strlen.symm.trans hstring'.strlen
      exact (hstring'.bytes.eq hstring.bytes (Option.some.inj hlen).symm)
    exact .inl ⟨by rw [ho, ho', begin_unique hus], by rw [← hname, ← hname', hsame],
      by rw [hx, hx', hus]⟩
  · exact .inr (.inr (by omega))
  · exact .inr (.inl (by omega))

/-- Setting a value keeps the tree but for its values. -/
lemma Found.blank (hq : Found root parts s r q) (hlen : v.length = q.2.value.length) :
    (root.alter (Node.setProp s v) parts).blank = root.blank := by
  refine blank_alter_node (o := 0) fun r' hr' => ?_
  obtain rfl := Option.some.inj (hr'.symm.trans hq.1)
  exact blank_setProp hq.2 hlen

/-- Where the library finds a property, in its own terms. -/
lemma Found.getprop (h : Encodes fdt root) (hq : Found root parts s r q) :
    fdtGetprop fdt r.1 s = some (.ok (fdtOffDtStruct fdt + q.1 + 12, (q.2.value.length : ℤ))) := by
  obtain ⟨⟨us, hus⟩, hnames⟩ := h.resolve_spec hq.1
  rw [fdtGetprop_eq h.toFramed hus hnames, hq.2]
  rfl

lemma readValue_of_getprop {node : ℕ} (hnode : fdtPathOffset fdt path = some (node : ℤ)) :
    readValue fdt path s = (fdtGetprop fdt node s).map fun res =>
      res.map fun pl => valueBytes fdt pl.1 pl.2 := by
  rw [readValue, hnode]
  simp only [Option.bind_eq_bind, Option.bind_some]
  rw [if_neg (by omega)]
  cases fdtGetprop fdt node s with
  | none => rfl
  | some res => cases res <;> rfl

lemma valueBytes_congr {p : ℕ} {len : ℤ} (heq : ∀ i < len.toNat, fdt' (p + i) = fdt (p + i)) :
    valueBytes fdt' p len = valueBytes fdt p len :=
  List.map_congr_left fun i hi => heq i (List.mem_range.mp hi)

/-- The lookups of a node in the bytes of a tree with other values. -/
lemma getprop_of_blank {root' : Node} (h : Encodes fdt root) (h' : Encodes fdt' root')
    (hoff : fdtOffDtStruct fdt' = fdtOffDtStruct fdt) (hblank : root'.blank = root.blank)
    (hr : root.resolve 0 parts = some r) :
    root'.resolve 0 parts ≠ none ∧ (root'.resolve 0 parts).elim 0 (fun r => r.1) = r.1 ∧
      ∀ s, fdtGetprop fdt' r.1 s = fdtGetprop fdt r.1 s := by
  have hres := resolve_of_blank (o := 0) hblank parts
  rw [hr, Option.map_some, Option.map_eq_some_iff] at hres
  obtain ⟨r', hr', hpair⟩ := hres
  obtain ⟨hplace, hnode⟩ := Prod.mk.inj hpair
  refine ⟨by rw [hr']; simp, by rw [hr']; exact hplace, fun s => ?_⟩
  obtain ⟨⟨us, hus⟩, hnames⟩ := h.resolve_spec hr
  obtain ⟨⟨us', hus'⟩, hnames'⟩ := h'.resolve_spec hr'
  rw [hplace] at hus'
  have hfind := prop?_of_blank (s := s) (o := r.1 + fdtTokens.size (.beginNode r.2.name)) hnode
  rw [fdtGetprop_eq h.toFramed hus hnames, fdtGetprop_eq h'.toFramed hus' hnames', hoff,
    (Node.mk.inj hnode).1]
  cases hq : prop? s (r.1 + fdtTokens.size (.beginNode r.2.name)) r.2.props with
  | none =>
    rw [hq, Option.map_none, Option.map_eq_none_iff] at hfind
    rw [hfind]
  | some q =>
    rw [hq, Option.map_some, Option.map_eq_some_iff] at hfind
    obtain ⟨q', hq', hpair'⟩ := hfind
    rw [hq', Option.elim_some, Option.elim_some, (Prod.mk.inj hpair').1, (Prod.mk.inj hpair').2]

/-- The lookups after a value was set, for one path. -/
lemma set_lookup (h : Encodes fdt root) (hq : Found root parts s r q)
    (hlen : v.length = q.2.value.length)
    (hpath : fdtPathOffset fdt path' = some ((root.resolve 0 parts').elim (-fdtErrNotfound)
      fun r => (r.1 : ℤ)))
    (hpath' : fdtPathOffset (fdt.storeBytes (fdtOffDtStruct fdt + q.1 + 12) v) path' =
      some (((root.alter (Node.setProp s v) parts).resolve 0 parts').elim (-fdtErrNotfound)
        fun r => (r.1 : ℤ))) :
    fdtPathOffset (fdt.storeBytes (fdtOffDtStruct fdt + q.1 + 12) v) path'
        = fdtPathOffset fdt path' ∧
      ∀ node' : ℕ, fdtPathOffset fdt path' = some (node' : ℤ) → ∀ s',
        fdtGetprop (fdt.storeBytes (fdtOffDtStruct fdt + q.1 + 12) v) node' s'
            = fdtGetprop fdt node' s' ∧
          readValue (fdt.storeBytes (fdtOffDtStruct fdt + q.1 + 12) v) path' s' =
            if node' = r.1 ∧ s' = s then some (.ok v) else readValue fdt path' s' := by
  have hbehind := h.behind
  have h' := h.set hq.1 hq.2 hlen
  have hblank := hq.blank hlen
  have hoff : fdtOffDtStruct (fdt.storeBytes (fdtOffDtStruct fdt + q.1 + 12) v)
      = fdtOffDtStruct fdt :=
    Mem.loadBe32_congr fun i hi => Mem.storeBytes_outside (by omega)
  cases hr' : root.resolve 0 parts' with
  | none =>
    have hnone := resolve_of_blank (o := 0) hblank parts'
    rw [hr', Option.map_none, Option.map_eq_none_iff] at hnone
    rw [hpath, hpath', hr', hnone]
    refine ⟨rfl, fun node' hnode' => ?_⟩
    simp [fdtErrNotfound] at hnode'
  | some r' =>
    obtain ⟨hsome, hplace, hget⟩ := getprop_of_blank h h' hoff hblank hr'
    obtain ⟨r'', hr''⟩ := Option.ne_none_iff_exists'.mp hsome
    rw [hr'', Option.elim_some] at hplace
    rw [hr', Option.elim_some] at hpath
    rw [hr'', Option.elim_some, hplace] at hpath'
    refine ⟨hpath'.trans hpath.symm, fun node' hnode' s' => ?_⟩
    obtain rfl : r'.1 = node' := by
      rw [hpath] at hnode'
      simpa using hnode'
    refine ⟨hget s', ?_⟩
    rw [readValue_of_getprop hpath', readValue_of_getprop hpath, hget s']
    cases hq' : prop? s' (r'.1 + fdtTokens.size (.beginNode r'.2.name)) r'.2.props with
    | none =>
      obtain ⟨⟨us, hus⟩, hnames⟩ := h.resolve_spec hr'
      have herr := fdtGetprop_eq (s := s') h.toFramed hus hnames
      rw [hq'] at herr
      rw [herr, if_neg]
      · rfl
      · rintro ⟨hsame, rfl⟩
        rw [hsame, hq.getprop h] at herr
        simp at herr
    | some q' =>
      have hfound : Found root parts' s' r' q' := ⟨hr', hq'⟩
      rw [hfound.getprop h, Option.map_some, Except.map, Option.map_some, Except.map]
      by_cases hsame : r'.1 = r.1 ∧ s' = s
      · have hplaces := hfound.getprop h
        rw [hsame.1, hsame.2, hq.getprop h] at hplaces
        simp only [Option.some.injEq, Except.ok.injEq, Prod.mk.injEq, Nat.cast_inj] at hplaces
        obtain ⟨hp, hl⟩ := hplaces
        rw [if_pos hsame, ← hp, ← hl, ← hlen, valueBytes_eq Mem.holds_storeBytes]
      · rw [if_neg hsame]
        congr 2
        refine valueBytes_congr fun i hi => Mem.storeBytes_outside ?_
        rw [Int.toNat_natCast] at hi
        rcases hq.cases h hfound with hcase | hcase | hcase
        · exact absurd ⟨hcase.1, hcase.2.1⟩ hsame
        · omega
        · omega

/-- **Set and get**: after a value of a tree was set, every path from the root leads where it led,
every property of a node at such a path is found where it was found, and only the value that was
set reads differently. A path from an alias may lead elsewhere, if it is the alias that was set. -/
theorem setprop_keeps_lookups (h : Encodes fdt root) {node : ℕ}
    (hpath : path.head? = some slash ∧ 0 ∉ path ∧ path.length < 2 ^ 31)
    (hnode : fdtPathOffset fdt path = some (node : ℤ))
    (hset : fdtSetpropInplace fdt node s v = some (0, fdt')) :
    ∀ path', path'.head? = some slash → 0 ∉ path' → path'.length < 2 ^ 31 →
      fdtPathOffset fdt' path' = fdtPathOffset fdt path' ∧
      ∀ node' : ℕ, fdtPathOffset fdt path' = some (node' : ℤ) → ∀ s',
        fdtGetprop fdt' node' s' = fdtGetprop fdt node' s' ∧
        readValue fdt' path' s' =
          if node' = node ∧ s' = s then some (.ok v) else readValue fdt path' s' := by
  obtain ⟨hroot, hzero, hlong⟩ := hpath
  have hlook := hnode
  rw [fdtPathOffset_root h hroot hzero hlong] at hlook
  cases hr : root.resolve 0 (components path) with
  | none => rw [hr] at hlook; simp [fdtErrNotfound] at hlook
  | some r =>
    obtain rfl : r.1 = node := by
      rw [hr] at hlook
      simpa using hlook
    rw [fdtSetpropInplace_eq h hr] at hset
    cases hq : prop? s (r.1 + fdtTokens.size (.beginNode r.2.name)) r.2.props with
    | none => rw [hq] at hset; simp [fdtErrNotfound] at hset
    | some q =>
      have hfound : Found root (components path) s r q := ⟨hr, hq⟩
      rw [hq] at hset
      by_cases hlen : q.2.value.length = v.length
      · obtain rfl : fdt.storeBytes (fdtOffDtStruct fdt + q.1 + 12) v = fdt' := by
          simpa [hlen] using hset
        exact fun path' hroot' hzero' hlong' =>
          set_lookup h hfound hlen.symm (fdtPathOffset_root h hroot' hzero' hlong')
            (fdtPathOffset_root (h.set hr hq hlen.symm) hroot' hzero' hlong')
      · simp [hlen, fdtErrNospace] at hset

end Place

/-- The alias of the small tree is read after the register of the other node was set. -/
theorem setprop_keeps_lookups_sampleTree :
    ∃ node fdt', fdtPathOffset (.ofList (blob sampleTree sampleStrings)) pmuPath
        = some ((node : ℕ) : ℤ) ∧
      fdtSetpropInplace (.ofList (blob sampleTree sampleStrings)) node [114, 101, 103] [9, 9, 9, 9]
        = some (0, fdt') ∧
      fdtPathOffset fdt' aliasesPath
        = fdtPathOffset (.ofList (blob sampleTree sampleStrings)) aliasesPath := by
  have h := blob_encodes sampleTree_valid
  have hpath : pmuPath.head? = some slash ∧ 0 ∉ pmuPath ∧ pmuPath.length < 2 ^ 31 := by decide
  obtain ⟨hroot, hzero, hlen⟩ := hpath
  obtain ⟨r, hr⟩ : ∃ r, sampleTree.resolve 0 (components pmuPath) = some r :=
    Option.isSome_iff_exists.mp (by decide +kernel)
  have hnode := fdtPathOffset_root h hroot hzero hlen
  rw [hr] at hnode
  obtain ⟨res, hres, hdone⟩ := set_done (s := [114, 101, 103]) (v := [9, 9, 9, 9]) h hr
  have herr : res.1 = 0 := hdone.err.trans (by decide +kernel)
  have hset : fdtSetpropInplace (.ofList (blob sampleTree sampleStrings)) r.1 [114, 101, 103]
      [9, 9, 9, 9] = some (0, res.2) := by
    rw [hres, ← herr]
  exact ⟨r.1, res.2, hnode, hset,
    (setprop_keeps_lookups h ⟨hroot, hzero, hlen⟩ hnode hset aliasesPath rfl (by decide) (by decide)).1⟩

end A733Boot.Fdt
