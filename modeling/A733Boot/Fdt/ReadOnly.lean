/-
Looking things up in a device tree: `ar100s/library/libfdt/fdt_ro.c`.

A string that a caller passes is the list of its bytes; where the source passes a length
beside a pointer, it is the list of that many bytes. A place is a distance from the start of
the tree. A lookup that does not return has no result.
-/
import A733Boot.Fdt.Nodes

namespace A733Boot.Fdt

/-- The character `/`. -/
def slash : UInt8 := 47

/-- The character `@`. -/
def atSign : UInt8 := 64

/-- The node's name is the given one, or that with a unit address behind it that was not asked
for. -/
def fdtNodenameEq (fdt : Mem) (offset : ℤ) (s : List UInt8) : Bool :=
  match fdtOffsetPtr fdt (i32 (offset + fdtTagsize)) (s.length + 1) with
  | none => false
  | some p =>
      if ¬ fdt.Holds p s then false
      else if fdt (p + s.length) = 0 then true
      else decide (atSign ∉ s) && fdt (p + s.length) == atSign

def fdtString (fdt : Mem) (stroffset : ℤ) : ℕ := u32 (fdtOffDtStrings fdt + stroffset)

def fdtStringEq (fdt : Mem) (stroffset : ℤ) (s : List UInt8) : Option Bool := do
  let n ← fdt.strlen (fdtString fdt stroffset)
  return n == s.length && decide (fdt.Holds (fdtString fdt stroffset) s)

/-! ### Nodes -/

end A733Boot.Fdt

namespace A733Boot.Mem

open Fdt

/-- The loop of `fdt_subnode_offset_namelen`. -/
def subnodeFrom (fdt : Mem) (name : List UInt8) (offset depth : ℤ) : Option ℤ := do
  if 0 ≤ offset ∧ 0 ≤ depth then
    if depth = 1 ∧ fdtNodenameEq fdt offset name then return offset
    else
      let (offset, depth) ← fdtNextNode fdt offset (some depth)
      fdt |>.subnodeFrom name offset (depth.getD 0)
  else if depth < 0 then return -fdtErrNotfound
  else return offset
partial_fixpoint

end A733Boot.Mem

namespace A733Boot.Fdt

open Mem

def fdtSubnodeOffsetNamelen (fdt : Mem) (offset : ℤ) (name : List UInt8) : Option ℤ :=
  if fdtCheckHeader fdt ≠ 0 then some (fdtCheckHeader fdt) else subnodeFrom fdt name offset 0

/-- What is behind the first part of the path is shorter than the path. -/
lemma rest_length_lt {p q : List UInt8} {c : UInt8} (hp : p.dropWhile (· == slash) = c :: q) :
    (q.dropWhile (· != slash)).length < p.length := by
  have hle := (List.dropWhile_suffix (l := p) (· == slash)).length_le
  have hdrop := (List.dropWhile_suffix (l := q) (· != slash)).length_le
  rw [hp, List.length_cons] at hle
  omega

/-- The loop of `fdt_path_offset` over the parts of the path; `c` is the first character that
is not a slash. -/
def pathFrom (fdt : Mem) (offset : ℤ) (p : List UInt8) : Option ℤ :=
  match hp : p.dropWhile (· == slash) with
  | [] => some offset
  | c :: q => do
      have := rest_length_lt hp
      let offset ← fdtSubnodeOffsetNamelen fdt offset (c :: q.takeWhile (· != slash))
      if offset < 0 then return offset else pathFrom fdt offset (q.dropWhile (· != slash))
termination_by p.length

lemma pathFrom_nil (fdt : Mem) (offset : ℤ) {p : List UInt8}
    (hp : p.dropWhile (· == slash) = []) : pathFrom fdt offset p = some offset := by
  rw [pathFrom]
  split
  · rfl
  next c q hcons => rw [hp] at hcons; cases hcons

lemma pathFrom_cons (fdt : Mem) (offset : ℤ) {p q : List UInt8} {c : UInt8}
    (hp : p.dropWhile (· == slash) = c :: q) :
    pathFrom fdt offset p =
      (fdtSubnodeOffsetNamelen fdt offset (c :: q.takeWhile (· != slash))).bind fun offset =>
        if offset < 0 then some offset else pathFrom fdt offset (q.dropWhile (· != slash)) := by
  rw [pathFrom]
  split
  next hnil => rw [hp] at hnil; cases hnil
  next c' q' hcons =>
    obtain ⟨rfl, rfl⟩ := List.cons.inj (hp.symm.trans hcons)
    rfl

/-- The place and the length of the node's name, or the error. -/
def fdtGetName (fdt : Mem) (nodeoffset : ℤ) : Option (Except ℤ (ℕ × ℕ)) := do
  if fdtCheckHeader fdt ≠ 0 then return .error (fdtCheckHeader fdt)
  else
    let err ← fdtCheckNodeOffset fdt nodeoffset
    if err < 0 then return .error err
    else
      let name := fdtOffsetPtrRaw fdt nodeoffset + 4
      return .ok (name, ← fdt.strlen name)

/-! ### Properties -/

end A733Boot.Fdt

namespace A733Boot.Mem

open Fdt

/-- `_nextprop`. -/
def nextprop (fdt : Mem) (offset : ℤ) : Option ℤ := do
  let (tag, nextoffset) ← fdtNextTag fdt offset
  if tag = fdtEnd then return if 0 ≤ nextoffset then -fdtErrBadstructure else nextoffset
  else if tag = fdtProp then return offset
  else if tag = fdtNop then fdt |>.nextprop nextoffset
  else return -fdtErrNotfound
partial_fixpoint

end A733Boot.Mem

namespace A733Boot.Fdt

open Mem

def fdtFirstPropertyOffset (fdt : Mem) (nodeoffset : ℤ) : Option ℤ := do
  let offset ← fdtCheckNodeOffset fdt nodeoffset
  if offset < 0 then return offset else nextprop fdt offset

def fdtNextPropertyOffset (fdt : Mem) (offset : ℤ) : Option ℤ := do
  let offset ← fdtCheckPropOffset fdt offset
  if offset < 0 then return offset else nextprop fdt offset

/-- The place of the property and the length of its value, or the error. -/
def fdtGetPropertyByOffset (fdt : Mem) (offset : ℤ) : Option (Except ℤ (ℕ × ℤ)) := do
  let err ← fdtCheckPropOffset fdt offset
  if err < 0 then return .error err
  else
    let prop := fdtOffsetPtrRaw fdt offset
    return .ok (prop, i32 (fdt.loadBe32 (prop + 4)))

end A733Boot.Fdt

namespace A733Boot.Mem

open Fdt

/-- The loop of `fdt_get_property_namelen`. -/
def getPropertyFrom (fdt : Mem) (name : List UInt8) (offset : ℤ) :
    Option (Except ℤ (ℕ × ℤ)) := do
  if 0 ≤ offset then
    match ← fdtGetPropertyByOffset fdt offset with
    | .error _ => return .error (-fdtErrInternal)
    | .ok (prop, len) =>
        if ← fdtStringEq fdt (i32 (fdt.loadBe32 (prop + 8))) name then return .ok (prop, len)
        else fdt |>.getPropertyFrom name (← fdtNextPropertyOffset fdt offset)
  else return .error offset
partial_fixpoint

end A733Boot.Mem

namespace A733Boot.Fdt

open Mem

def fdtGetPropertyNamelen (fdt : Mem) (offset : ℤ) (name : List UInt8) :
    Option (Except ℤ (ℕ × ℤ)) := do
  getPropertyFrom fdt name (← fdtFirstPropertyOffset fdt offset)

/-- The place and the length of the value. -/
def fdtGetpropNamelen (fdt : Mem) (nodeoffset : ℤ) (name : List UInt8) :
    Option (Except ℤ (ℕ × ℤ)) := do
  return (← fdtGetPropertyNamelen fdt nodeoffset name).map fun r => (r.1 + 12, r.2)

/-- The name has its own length. -/
def fdtGetprop (fdt : Mem) (nodeoffset : ℤ) (name : List UInt8) :
    Option (Except ℤ (ℕ × ℤ)) :=
  fdtGetpropNamelen fdt nodeoffset name

/-! ### Paths and aliases -/

/-- `"/aliases"`. -/
def aliasesPath : List UInt8 := [47, 97, 108, 105, 97, 115, 101, 115]

/-- The bytes of the string at a place. -/
def cstring (fdt : Mem) (p : ℕ) : Option (List UInt8) := do
  return (List.range (← fdt.strlen p)).map fun i => fdt (p + i)

end A733Boot.Fdt

namespace A733Boot.Mem

open Fdt

mutual

/-- A path that does not begin with a slash begins with an alias. -/
def fdtPathOffset (fdt : Mem) (path : List UInt8) : Option ℤ := do
  if fdtCheckHeader fdt ≠ 0 then return fdtCheckHeader fdt
  else if path.head? = some slash then pathFrom fdt 0 path
  else
    match ← fdt |>.fdtGetAliasNamelen (path.takeWhile (· != slash)) with
    | none => return -fdtErrBadpath
    | some p =>
        let offset ← fdt |>.fdtPathOffset (← cstring fdt p)
        pathFrom fdt offset (path.dropWhile (· != slash))
partial_fixpoint

/-- The place of the path that the alias stands for. -/
def fdtGetAliasNamelen (fdt : Mem) (name : List UInt8) : Option (Option ℕ) := do
  let aliasoffset ← fdt |>.fdtPathOffset aliasesPath
  if aliasoffset < 0 then return none
  else
    match ← fdtGetpropNamelen fdt aliasoffset name with
    | .error _ => return none
    | .ok (p, _) => return some p
partial_fixpoint

end

end A733Boot.Mem
