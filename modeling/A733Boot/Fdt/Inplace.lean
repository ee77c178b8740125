/-
Changing a tree in place: `ar100s/library/libfdt/fdt_wip.c`.

* `fdtSetpropInplace`, `fdtNopProperty`, `fdtNopNode`: the functions, on the bytes;
* `Encodes.replace`: bytes that are exchanged for other tokens of the same size give the tree
  with that part exchanged;
* `fdtSetpropInplace_eq`, `fdtNopProperty_eq`, `fdtNopNode_eq`: each function changes the bytes
  of a tree into those of the changed tree, or returns an error and changes nothing.
-/
import A733Boot.Fdt.Lookup

namespace A733Boot.Fdt

def fdtSetpropInplace (fdt : Mem) (nodeoffset : ℤ) (name val : List UInt8) :
    Option (ℤ × Mem) := do
  match ← fdtGetprop fdt nodeoffset name with
  | .error proplen => return (proplen, fdt)
  | .ok (propval, proplen) =>
      if proplen ≠ val.length then return (-fdtErrNospace, fdt)
      else return (0, fdt.storeBytes propval val)

/-- The loop of `_fdt_nop_region`, over a number of words. -/
def nopWords (m : Mem) (p : ℕ) : ℕ → Mem
  | 0 => m
  | n + 1 => nopWords (m.storeBe32 p (UInt32.ofNat fdtNop)) (p + 4) n

/-- As many words as begin inside the region. -/
def fdtNopRegion (m : Mem) (start : ℕ) (len : ℤ) : Mem := nopWords m start ((len.toNat + 3) / 4)

def fdtNopProperty (fdt : Mem) (nodeoffset : ℤ) (name : List UInt8) : Option (ℤ × Mem) := do
  match ← fdtGetPropertyNamelen fdt nodeoffset name with
  | .error len => return (len, fdt)
  | .ok (prop, len) => return (0, fdtNopRegion fdt prop (len + 12))

end A733Boot.Fdt

namespace A733Boot.Mem

open Fdt

/-- The loop of `_fdt_node_end_offset`. -/
def nodeEndFrom (fdt : Mem) (offset depth : ℤ) : Option ℤ := do
  if 0 ≤ offset ∧ 0 ≤ depth then
    let (offset, depth) ← fdtNextNode fdt offset (some depth)
    fdt |>.nodeEndFrom offset (depth.getD 0)
  else return offset
partial_fixpoint

end A733Boot.Mem

namespace A733Boot.Fdt

open Mem

def fdtNodeEndOffset (fdt : Mem) (offset : ℤ) : Option ℤ := nodeEndFrom fdt offset 0

/-- The check of the pointer to the region is for no bytes, and its result is not looked at. -/
def fdtNopNode (fdt : Mem) (nodeoffset : ℤ) : Option (ℤ × Mem) := do
  let endoffset ← fdtNodeEndOffset fdt nodeoffset
  if endoffset < 0 then return (endoffset, fdt)
  else return (0, fdtNopRegion fdt ((fdtOffsetPtr fdt nodeoffset 0).getD 0) (endoffset - nodeoffset))

/-! ### The changed tree -/

/-- The first property with the name replaced. -/
def Node.alterProp (s : List UInt8) (g : Property → List (Option Property)) (n : Node) : Node :=
  { n with props := Fdt.alterProp s g n.props }

/-- The first property with the name gets the value. -/
def Node.setProp (s v : List UInt8) : Node → Node :=
  Node.alterProp s fun p => [some { p with value := v }]

/-- The first property with the name is covered with NOPs, as many as it has words. -/
def Node.nopProp (s : List UInt8) : Node → Node :=
  Node.alterProp s fun p => List.replicate (fdtTokens.size (.prop p.nameoff p.value) / 4) none

/-- NOPs in front of a level. -/
def Forest.nops : ℕ → Forest → Forest
  | 0, f => f
  | k + 1, f => nop (nops k f)

/-- The first node of the level whose name fits is covered with NOPs. -/
def Forest.cover (s : List UInt8) : Forest → Forest :=
  splice s fun n rest => nops (fdtTokens.sizes n.tokens / 4) rest

def Node.coverChild (s : List UInt8) (n : Node) : Node := { n with children := n.children.cover s }

section Replace

variable {fdt fdt' : Mem} {root root' : Node} {us xs xs' vs : List Token}

/-- What a change of the node that a path leads to can bring in. -/
lemma properties_alter {n : Node} {g : Node → Node} {parts : List (List UInt8)} {o : ℕ}
    {p : Property} (hp : p ∈ (n.alter g parts).properties) :
    p ∈ n.properties ∨ ∃ r, n.resolve o parts = some r ∧ p ∈ (g r.2).properties := by
  induction parts generalizing o n with
  | nil => exact .inr ⟨(o, n), rfl, hp⟩
  | cons part parts ih =>
    have hforest : ∀ (f : Forest) (o : ℕ), p ∈ (f.alter part (Node.alter g parts)).properties →
        p ∈ f.properties ∨ ∃ r, f.child? part o = some r ∧
          p ∈ (r.2.alter g parts).properties := by
      intro f
      induction f with
      | nil => exact fun o hp => .inl hp
      | nop rest ihr => exact fun o hp => ihr (o + 4) hp
      | node name props children rest ihc ihr =>
        intro o hp
        rw [Forest.alter, Forest.splice] at hp
        by_cases hfit : Fits part name
        · simp only [hfit, if_true, Node.cons, Forest.properties, List.mem_append] at hp
          refine (or_assoc.mpr hp).symm.imp (fun hrest => ?_) fun hnode => ?_
          · simp only [Forest.properties, List.mem_append]
            exact .inr (.inr hrest)
          · exact ⟨_, by rw [Forest.child?, if_pos hfit], List.mem_append.mpr hnode⟩
        · simp only [hfit, if_false, Forest.properties, List.mem_append] at hp ⊢
          rcases hp with hp | hp | hp
          · exact .inl (.inl hp)
          · exact .inl (.inr (.inl hp))
          · rw [Forest.child?, if_neg hfit]
            exact (ihr _ hp).imp_left fun h => .inr (.inr h)
    rcases List.mem_append.mp hp with hp | hp
    · exact .inl (List.mem_append_left _ hp)
    rcases hforest _ (childrenAt o n.name n.props) hp with hold | ⟨r, hr, hnew⟩
    · exact .inl (List.mem_append_right _ hold)
    rcases ih (o := r.1) hnew with hold | ⟨r', hr', hg⟩
    · exact .inl (List.mem_append_right _ (properties_child hr hold))
    · refine .inr ⟨r', ?_, hg⟩
      rw [Node.resolve, hr]
      exact hr'

/-- **Exchanging a part**: other tokens of the same size in a part of the structure block, and
every other byte as it was. -/
lemma Encodes.replace (h : Encodes fdt root) (hroot : root.tokens = us ++ (xs ++ vs))
    (hroot' : root'.tokens = us ++ (xs' ++ vs)) (hsizes : fdtTokens.sizes xs' = fdtTokens.sizes xs)
    (hframe : ∀ a, a < fdtOffDtStruct fdt + fdtTokens.sizes us ∨
      fdtOffDtStruct fdt + fdtTokens.sizes us + fdtTokens.sizes xs ≤ a → fdt' a = fdt a)
    (hnew : fdtTokens.Laid (fdt'.view (fdtOffDtStruct fdt)) (fdtTokens.sizes us) xs')
    (hnames : ∀ p ∈ root'.properties, ∃ q ∈ root.properties, p.name = q.name ∧
      p.nameoff = q.nameoff) : Encodes fdt' root' := by
  have hbehind := h.behind
  have hfits := h.fits
  simp only [hroot, TokenKind.sizes_append] at hfits
  have hword : ∀ k, k + 4 ≤ 40 → fdt'.loadBe32 k = fdt.loadBe32 k := fun k hk =>
    Mem.loadBe32_congr fun i hi => hframe _ (.inl (by omega))
  have hcheck : fdtCheckHeader fdt' = fdtCheckHeader fdt ∧ fdtTotalsize fdt' = fdtTotalsize fdt :=
    fdtCheckHeader_congr fun i hi => hframe _ (.inl (by omega))
  have hoff : fdtOffDtStruct fdt' = fdtOffDtStruct fdt := hword 8 (by omega)
  have hstrings : fdtOffDtStrings fdt' = fdtOffDtStrings fdt := hword 12 (by omega)
  have hversion : fdtVersion fdt' = fdtVersion fdt := hword 20 (by omega)
  have hsize : fdtSizeDtStruct fdt' = fdtSizeDtStruct fdt := hword 36 (by omega)
  refine ⟨hcheck.1.trans h.header, ⟨hversion ▸ h.checked.version, hsize ▸ h.checked.size⟩,
    hoff ▸ hbehind, by rw [hoff, hsize, hcheck.2]; exact h.inside, ?_, ?_, ?_⟩
  · have hlaid := h.laid
    rw [hroot, List.append_assoc, List.append_assoc, ← List.append_assoc] at hlaid
    rw [structBlock, hoff, hroot', List.append_assoc, List.append_assoc, ← List.append_assoc]
    refine hlaid.replace hsizes (by rwa [Nat.zero_add]) fun a ha => ?_
    rw [Nat.zero_add] at ha
    exact hframe _ (by omega)
  · rw [hroot', hsize]
    simp only [TokenKind.sizes_append]
    omega
  · intro p hp
    obtain ⟨q, hq, hname, hnameoff⟩ := hnames p hp
    obtain ⟨hstring, hin, hapart, hbeh⟩ := h.names q hq
    have hsame : ∀ i ≤ p.name.length, fdt' (fdtOffDtStrings fdt' + p.nameoff + i)
        = fdt (fdtOffDtStrings fdt + p.nameoff + i) := by
      intro i hi
      rw [hstrings]
      rw [hname] at hi
      rw [hnameoff]
      exact hframe _ (by omega)
    refine ⟨?_, by rw [hstrings, hname, hnameoff, hcheck.2]; exact hin,
      by rw [hstrings, hname, hnameoff, hoff, hsize]; exact hapart,
      by rw [hstrings, hnameoff]; exact hbeh⟩
    rw [← hname, ← hnameoff, ← hstrings] at hstring
    exact hstring.congr fun i hi => by rw [hsame i hi, hstrings]

/-- A property of a node of the tree is one of the tokens, and replacing it replaces that one. -/
lemma locate_prop {parts : List (List UInt8)} {s : List UInt8} {r : ℕ × Node} {q : ℕ × Property}
    (hr : root.resolve 0 parts = some r)
    (hq : prop? s (r.1 + fdtTokens.size (.beginNode r.2.name)) r.2.props = some q) :
    ∃ us vs, root.tokens = us ++ ([.prop q.2.nameoff q.2.value] ++ vs) ∧
      q.1 = fdtTokens.sizes us ∧
      ∀ g, (root.alter (Node.alterProp s g) parts).tokens = us ++ (propTokens (g q.2) ++ vs) := by
  obtain ⟨us, vs, htokens, ho, halter⟩ := resolve_split hr
  obtain ⟨-, ps, qs, hprops, hx, hprop⟩ := prop?_split hq
  refine ⟨us ++ (.beginNode r.2.name :: propTokens ps),
    propTokens qs ++ (r.2.children.tokens ++ .endNode :: vs), ?_, ?_, fun g => ?_⟩
  · rw [htokens, Node.tokens, hprops, propTokens_append]
    simp [propTokens]
  · rw [hx, ho, TokenKind.sizes_append, TokenKind.sizes_cons]
    omega
  · rw [halter, Node.tokens]
    simp [Node.alterProp, hprop, propTokens_append]

lemma mem_alterProp {s : List UInt8} {g : Property → List (Option Property)} {p : Property}
    {props : List (Option Property)} (hp : some p ∈ alterProp s g props) :
    some p ∈ props ∨ ∃ q, some q ∈ props ∧ some p ∈ g q := by
  induction props with
  | nil => exact .inl hp
  | cons x props ih =>
    cases x with
    | none =>
      rw [alterProp, List.mem_cons] at hp
      rcases hp with hp | hp
      · cases hp
      · rcases ih hp with hold | ⟨q, hq, hg⟩
        · exact .inl (List.mem_cons_of_mem _ hold)
        · exact .inr ⟨q, List.mem_cons_of_mem _ hq, hg⟩
    | some x =>
      rw [alterProp] at hp
      split at hp
      · rcases List.mem_append.mp hp with hp | hp
        · exact .inr ⟨x, List.mem_cons_self, hp⟩
        · exact .inl (List.mem_cons_of_mem _ hp)
      · rcases List.mem_cons.mp hp with hp | hp
        · exact .inl (hp ▸ List.mem_cons_self)
        · rcases ih hp with hold | ⟨q, hq, hg⟩
          · exact .inl (List.mem_cons_of_mem _ hold)
          · exact .inr ⟨q, List.mem_cons_of_mem _ hq, hg⟩

/-- A change of properties that keeps their names keeps the names of the tree. -/
lemma names_alterProp {parts : List (List UInt8)} {s : List UInt8}
    {g : Property → List (Option Property)}
    (hg : ∀ q p, some p ∈ g q → p.name = q.name ∧ p.nameoff = q.nameoff) :
    ∀ p ∈ (root.alter (Node.alterProp s g) parts).properties, ∃ q ∈ root.properties,
      p.name = q.name ∧ p.nameoff = q.nameoff := by
  intro p hp
  rcases properties_alter (o := 0) hp with hold | ⟨r, hr, hp⟩
  · exact ⟨p, hold, rfl, rfl⟩
  have hsub := properties_resolve hr
  rcases List.mem_append.mp hp with hp | hp
  · rcases mem_alterProp (List.reduceOption_mem_iff.mp hp) with hold | ⟨q, hq, hnew⟩
    · exact ⟨p, hsub (mem_properties hold), rfl, rfl⟩
    · exact ⟨q, hsub (mem_properties hq), hg q p hnew⟩
  · exact ⟨p, hsub (List.mem_append_right _ hp), rfl, rfl⟩

end Replace

/-! ### Setting a value -/

section Set

variable {fdt : Mem} {root : Node} {parts : List (List UInt8)} {s v : List UInt8} {r : ℕ × Node}
  {q : ℕ × Property}

/-- Writing over the value of a property gives the tree in which it has the new value. -/
lemma Encodes.set (h : Encodes fdt root) (hr : root.resolve 0 parts = some r)
    (hq : prop? s (r.1 + fdtTokens.size (.beginNode r.2.name)) r.2.props = some q)
    (hlen : v.length = q.2.value.length) :
    Encodes (fdt.storeBytes (fdtOffDtStruct fdt + q.1 + 12) v)
      (root.alter (Node.setProp s v) parts) := by
  obtain ⟨us, vs, htokens, hx, halter⟩ := locate_prop hr hq
  have hround := le_alignUp (12 + q.2.value.length)
  have hsize : fdtTokens.sizes [.prop q.2.nameoff q.2.value] = alignUp (12 + q.2.value.length) := rfl
  have hlaid := h.laid
  rw [htokens, List.append_assoc, TokenKind.laid_append, Nat.zero_add] at hlaid
  obtain ⟨htag, hvlen, hvname, -⟩ := hlaid.2.1
  have hview : (fdt.storeBytes (fdtOffDtStruct fdt + q.1 + 12) v).view (fdtOffDtStruct fdt)
      = (structBlock fdt).storeBytes (fdtTokens.sizes us + 12) v := by
    rw [Nat.add_assoc, Mem.view_storeBytes, hx]
    rfl
  have hword : ∀ k, k + 4 ≤ 12 →
      ((structBlock fdt).storeBytes (fdtTokens.sizes us + 12) v).loadBe32 (fdtTokens.sizes us + k)
        = (structBlock fdt).loadBe32 (fdtTokens.sizes us + k) := fun k hk =>
    Mem.loadBe32_congr fun i hi => Mem.storeBytes_outside (by omega)
  refine h.replace htokens (halter _) ?_ (fun a ha => ?_) ?_ (names_alterProp fun q p hp => ?_)
  · rw [hsize, ← hlen]
    rfl
  · rw [hsize] at ha
    exact Mem.storeBytes_outside (by omega)
  · rw [hview]
    refine ⟨⟨(hword 0 (by omega)).trans htag, ?_, (hword 8 (by omega)).trans hvname,
      Mem.holds_storeBytes⟩, trivial⟩
    rw [hword 4 (by omega), hvlen, hlen]
  · obtain rfl : p = { q with value := v } := by simpa using hp
    exact ⟨rfl, rfl⟩

/-- **Setting a value in place**: an error, and nothing is changed, if the property is missing or
its value has another length; else the bytes become those of the tree with the new value. -/
lemma fdtSetpropInplace_eq (h : Encodes fdt root) (hr : root.resolve 0 parts = some r) :
    fdtSetpropInplace fdt r.1 s v = some (
      match prop? s (r.1 + fdtTokens.size (.beginNode r.2.name)) r.2.props with
      | none => (-fdtErrNotfound, fdt)
      | some q =>
          if q.2.value.length ≠ v.length then (-fdtErrNospace, fdt)
          else (0, fdt.storeBytes (fdtOffDtStruct fdt + q.1 + 12) v)) := by
  obtain ⟨⟨us, hus⟩, hnames⟩ := h.resolve_spec hr
  rw [fdtSetpropInplace, fdtGetprop_eq h.toFramed hus hnames]
  cases prop? s (r.1 + fdtTokens.size (.beginNode r.2.name)) r.2.props with
  | none => rfl
  | some q =>
    simp only [Option.elim_some, Option.bind_eq_bind, Option.bind_some]
    by_cases hlen : q.2.value.length = v.length
    · rw [if_neg (by simp [hlen]), if_neg (by simp [hlen])]
      rfl
    · rw [if_pos (by exact_mod_cast hlen), if_pos hlen]
      rfl

end Set

/-! ### Covering with NOPs -/

section Nop

variable {fdt m : Mem} {root : Node} {parts : List (List UInt8)} {s : List UInt8} {r : ℕ × Node}
  {q : ℕ × Property} {p n : ℕ}

lemma nopWords_outside {a : ℕ} (ha : a < p ∨ p + 4 * n ≤ a) : nopWords m p n a = m a := by
  induction n generalizing m p with
  | zero => rfl
  | succ n ih => rw [nopWords, ih (by omega), Mem.storeBe32_outside _ _ (by omega)]

/-- The words that the loop has gone over are NOPs. -/
lemma laid_nopWords (base o : ℕ) :
    fdtTokens.Laid ((nopWords m (base + o) n).view base) o (List.replicate n .nop) := by
  induction n generalizing m o with
  | zero => trivial
  | succ n ih =>
    refine ⟨⟨?_, trivial⟩, ?_⟩
    · have hfirst : (nopWords m (base + o) (n + 1)).loadBe32 (base + o)
          = (m.storeBe32 (base + o) (UInt32.ofNat fdtNop)).loadBe32 (base + o) :=
        Mem.loadBe32_congr fun i hi => by rw [nopWords, nopWords_outside (by omega)]
      rw [Mem.loadBe32_view, hfirst, Mem.loadBe32_storeBe32]
      rfl
    · rw [nopWords, Nat.add_assoc]
      exact ih (o + 4)

lemma sizes_replicate_nop (n : ℕ) : fdtTokens.sizes (List.replicate n .nop) = 4 * n := by
  induction n with
  | zero => rfl
  | succ n ih =>
    rw [List.replicate_succ, TokenKind.sizes_cons, ih, show fdtTokens.size .nop = 4 from rfl]
    omega

/-- A part of the structure block covered with NOPs. -/
lemma Encodes.nop (h : Encodes fdt root) {root' : Node} {us xs vs : List Token}
    (hroot : root.tokens = us ++ (xs ++ vs))
    (hroot' : root'.tokens = us ++ (List.replicate (fdtTokens.sizes xs / 4) .nop ++ vs))
    (hnames : ∀ p ∈ root'.properties, ∃ q ∈ root.properties, p.name = q.name ∧
      p.nameoff = q.nameoff) :
    Encodes (nopWords fdt (fdtOffDtStruct fdt + fdtTokens.sizes us) (fdtTokens.sizes xs / 4))
      root' := by
  have hmod := sizes_mod xs
  refine h.replace hroot hroot' ?_ (fun a ha => nopWords_outside (by omega)) (laid_nopWords _ _)
    hnames
  rw [sizes_replicate_nop]
  omega

lemma propTokens_replicate (n : ℕ) :
    propTokens (List.replicate n none) = List.replicate n .nop := List.map_replicate

/-- **Covering a property**: an error if there is none of the name, else the bytes become those
of the tree with NOPs in its place. -/
lemma fdtNopProperty_eq (h : Encodes fdt root) (hr : root.resolve 0 parts = some r) :
    fdtNopProperty fdt r.1 s = some (
      match prop? s (r.1 + fdtTokens.size (.beginNode r.2.name)) r.2.props with
      | none => (-fdtErrNotfound, fdt)
      | some q => (0, nopWords fdt (fdtOffDtStruct fdt + q.1)
          (fdtTokens.size (.prop q.2.nameoff q.2.value) / 4))) := by
  obtain ⟨⟨us, hus⟩, hnames⟩ := h.resolve_spec hr
  rw [fdtNopProperty, fdtGetPropertyNamelen_eq h.toFramed hus hnames]
  cases prop? s (r.1 + fdtTokens.size (.beginNode r.2.name)) r.2.props with
  | none => rfl
  | some q =>
    have hcount : ((q.2.value.length + 12 : ℤ).toNat + 3) / 4
        = fdtTokens.size (.prop q.2.nameoff q.2.value) / 4 := by
      rw [show fdtTokens.size (.prop q.2.nameoff q.2.value) = alignUp (12 + q.2.value.length) from rfl,
        alignUp]
      omega
    simp only [Option.elim_some, Option.bind_eq_bind, Option.bind_some, fdtNopRegion, hcount]
    rfl

lemma Encodes.nopProp (h : Encodes fdt root) (hr : root.resolve 0 parts = some r)
    (hq : prop? s (r.1 + fdtTokens.size (.beginNode r.2.name)) r.2.props = some q) :
    Encodes (nopWords fdt (fdtOffDtStruct fdt + q.1)
      (fdtTokens.size (.prop q.2.nameoff q.2.value) / 4)) (root.alter (Node.nopProp s) parts) := by
  obtain ⟨us, vs, htokens, hx, halter⟩ := locate_prop hr hq
  rw [hx]
  refine h.nop htokens ((halter _).trans ?_) (names_alterProp fun q p hp => ?_)
  · rw [propTokens_replicate]
    rfl
  · exact absurd (List.eq_of_mem_replicate hp) (by simp)

/-- The loop over a chain of nodes that ends with a negative depth. -/
lemma nodeEndFrom_chain {a e : ℕ × ℤ} {l : List (ℕ × ℤ)}
    (hchain : List.IsChain (Step fdt) (a :: (l ++ [e]))) (he : e.2 < 0)
    (hdepth : ∀ v ∈ a :: l, 0 ≤ v.2) : nodeEndFrom fdt a.1 a.2 = some (e.1 : ℤ) := by
  have ha := hdepth a List.mem_cons_self
  induction l generalizing a with
  | nil =>
    have hstep : Step fdt a e := List.isChain_pair.mp hchain
    rw [nodeEndFrom, if_pos ⟨by omega, ha⟩, hstep]
    simp only [Option.bind_eq_bind, Option.bind_some, Option.getD_some]
    rw [nodeEndFrom, if_neg (by omega)]
    rfl
  | cons b l ih =>
    rw [List.cons_append, List.isChain_cons_cons] at hchain
    have hrest : ∀ v ∈ b :: l, 0 ≤ v.2 := fun v hv => hdepth v (List.mem_cons_of_mem a hv)
    rw [nodeEndFrom, if_pos ⟨by omega, ha⟩, hchain.1]
    exact ih hchain.2 hrest (hrest b List.mem_cons_self)

/-- The end of a node is behind its last token. -/
lemma fdtNodeEndOffset_eq (hf : Framed fdt) {o : ℕ} {n : Node} {ts : List Token}
    (h : Stands fdt o (n.tokens ++ ts)) :
    fdtNodeEndOffset fdt o = some ((o + fdtTokens.sizes n.tokens : ℕ) : ℤ) := by
  refine nodeEndFrom_chain (fdtNextNode_preorder hf h) (by simp) fun v hv => ?_
  rcases List.mem_cons.mp hv with rfl | hv
  · exact le_rfl
  · have := depth_le_of_mem_visits hv
    omega

/-- **Covering a node**: the bytes from the node to its end become NOPs. -/
lemma fdtNopNode_eq (hf : Framed fdt) {o : ℕ} {n : Node} {ts : List Token}
    (h : Stands fdt o (n.tokens ++ ts)) :
    fdtNopNode fdt o =
      some (0, nopWords fdt (fdtOffDtStruct fdt + o) (fdtTokens.sizes n.tokens / 4)) := by
  have hsize := hf.size
  have hmod := sizes_mod n.tokens
  have hfits := h.fits
  rw [TokenKind.sizes_append] at hfits
  have hcount : ((((o + fdtTokens.sizes n.tokens : ℕ) : ℤ) - o).toNat + 3) / 4
      = fdtTokens.sizes n.tokens / 4 := by omega
  have hplace : (fdtOffsetPtr fdt o 0).getD 0 = fdtOffDtStruct fdt + o := by
    rw [fdtOffsetPtr_eq hf.toChecked (by omega) (by norm_num), if_pos (by omega),
      fdtOffsetPtrRaw_eq hf (by omega), Option.getD_some]
  rw [fdtNopNode, fdtNodeEndOffset_eq hf h]
  simp only [Option.bind_eq_bind, Option.bind_some]
  rw [if_neg (by omega), hplace, fdtNopRegion, hcount]
  rfl

lemma nops_tokens (k : ℕ) (f : Forest) :
    (Forest.nops k f).tokens = List.replicate k .nop ++ f.tokens := by
  induction k with
  | zero => rfl
  | succ k ih => rw [Forest.nops, Forest.tokens, ih, List.replicate_succ, List.cons_append]

lemma nops_properties (k : ℕ) (f : Forest) : (Forest.nops k f).properties = f.properties := by
  induction k with
  | zero => rfl
  | succ k ih => exact ih

/-- What is covered with NOPs is not in the tree. -/
lemma properties_cover (f : Forest) : (f.cover s).properties ⊆ f.properties := by
  intro p hp
  induction f with
  | nil => exact hp
  | nop rest ih => exact ih hp
  | node name props children rest ihc ihr =>
    rw [Forest.cover, Forest.splice] at hp
    simp only [Forest.properties, List.mem_append]
    split at hp
    · rw [nops_properties] at hp
      exact .inr (.inr hp)
    · simp only [Forest.properties, List.mem_append] at hp
      exact hp.imp_right (.imp_right ihr)

/-- The tree with a child of the node at the path covered. -/
lemma Encodes.coverChild (h : Encodes fdt root) (hr : root.resolve 0 parts = some r) {c : ℕ × Node}
    (hc : r.2.children.child? s (childrenAt r.1 r.2.name r.2.props) = some c) :
    Encodes (nopWords fdt (fdtOffDtStruct fdt + c.1) (fdtTokens.sizes c.2.tokens / 4))
      (root.alter (Node.coverChild s) parts) := by
  obtain ⟨us, vs, htokens, ho, halter⟩ := resolve_split hr
  obtain ⟨us', vs', htokens', ho', hsplice⟩ := child?_split hc
  have hat : c.1 = fdtTokens.sizes
      (us ++ (.beginNode r.2.name :: (propTokens r.2.props ++ us'))) := by
    rw [ho', childrenAt, ho]
    simp only [TokenKind.sizes_append, TokenKind.sizes_cons]
    omega
  rw [hat]
  have hroot : root.tokens = us ++ (.beginNode r.2.name :: (propTokens r.2.props ++ us'))
      ++ (c.2.tokens ++ (vs' ++ .endNode :: vs)) := by
    rw [htokens, Node.tokens, htokens']
    simp
  refine h.nop hroot ?_ fun p hp => ?_
  · rw [halter, Node.tokens, Node.coverChild, Forest.cover,
      hsplice _ _ fun rest => nops_tokens _ rest]
    simp
  · rcases properties_alter (o := 0) hp with hold | ⟨r', hr', hp⟩
    · exact ⟨p, hold, rfl, rfl⟩
    refine ⟨p, properties_resolve hr' ?_, rfl, rfl⟩
    rcases List.mem_append.mp hp with hp | hp
    · exact List.mem_append_left _ hp
    · exact List.mem_append_right _ (properties_cover _ hp)

end Nop

end A733Boot.Fdt
