/-
Device trees, and how one stands in memory: the abstract side of libfdt.

A node has a name, properties and children; NOP tokens may stand between the parts. The
nodes on one level are a `Forest`, written with the first of them and its later siblings, so
that a walk over the tokens is an induction over the forest.

* `Token`, `fdtTokens`: the tokens of the structure block and their bytes;
* `Forest`, `Node`: the trees and their tokens;
* `Encodes`: the bytes are a tree: a header that is accepted, the tokens of the tree in the
  structure block, and the names of its properties in the strings;
* `fdtNextTag_token`: at a token of the tree, `fdt_next_tag` returns its tag and goes to the
  next token.
-/
import A733Boot.Library.Tokens
import A733Boot.Fdt.Nodes
import Mathlib.Data.List.ReduceOption

namespace A733Boot.Fdt

open Mem

inductive Token
  | beginNode (name : List UInt8)
  | endNode
  | prop (nameoff : ℕ) (value : List UInt8)
  | nop
  | finish

namespace Token

def tag : Token → ℕ
  | beginNode _ => fdtBeginNode
  | endNode => fdtEndNode
  | prop _ _ => fdtProp
  | nop => fdtNop
  | finish => fdtEnd

/-- The number of bytes in front of the padding. -/
def length : Token → ℕ
  | beginNode name => 4 + (name.length + 1)
  | prop _ value => 12 + value.length
  | _ => 4

/-- The bytes behind the tag. -/
def Body (s : Mem) (o : ℕ) : Token → Prop
  | beginNode name => s.CString (o + 4) name
  | prop nameoff value =>
      s.loadBe32 (o + 4) = value.length ∧ s.loadBe32 (o + 8) = nameoff ∧ s.Holds (o + 12) value
  | _ => True

end Token

/-- The tokens of the structure block. -/
def fdtTokens : TokenKind Token where
  size t := alignUp t.length
  At s o t := s.loadBe32 o = t.tag ∧ t.Body s o
  congr := by
    intro m m' o t h heq
    have hword : ∀ k, k + 4 ≤ t.length → m'.loadBe32 (o + k) = m.loadBe32 (o + k) := by
      intro k hk
      have hle := le_alignUp t.length
      exact Mem.loadBe32_congr fun i hi => by
        rw [Nat.add_assoc]
        exact heq _ (by omega)
    have hle := le_alignUp t.length
    refine ⟨?_, ?_⟩
    · have htag := hword 0 (by cases t <;> simp only [Token.length] <;> omega)
      rw [Nat.add_zero] at htag
      rw [htag, h.1]
    · cases t with
      | beginNode name =>
        refine h.2.congr fun i hi => ?_
        rw [Nat.add_assoc]
        exact heq _ (by simp only [Token.length] at hle ⊢; omega)
      | prop nameoff value =>
        have hlen : (Token.prop nameoff value).length = 12 + value.length := rfl
        obtain ⟨hlength, hname, hvalue⟩ := h.2
        refine ⟨?_, ?_, hvalue.congr fun i hi => ?_⟩
        · rw [hword 4 (by omega), hlength]
        · rw [hword 8 (by omega), hname]
        · rw [Nat.add_assoc]
          exact heq _ (by omega)
      | endNode => trivial
      | nop => trivial
      | finish => trivial

/-! ### Trees -/

/-- The name of a property, the place of that name among the strings, and the value. -/
structure Property where
  name : List UInt8
  nameoff : ℕ
  value : List UInt8

/-- Nodes on one level, in order; the properties of a node may have NOPs between them. -/
inductive Forest
  | nil
  | nop (rest : Forest)
  | node (name : List UInt8) (props : List (Option Property)) (children rest : Forest)

structure Node where
  name : List UInt8
  props : List (Option Property)
  children : Forest

def propTokens (props : List (Option Property)) : List Token :=
  props.map fun
    | none => .nop
    | some p => .prop p.nameoff p.value

def Forest.tokens : Forest → List Token
  | nil => []
  | nop rest => .nop :: rest.tokens
  | node name props children rest =>
      .beginNode name :: (propTokens props ++ (children.tokens ++ .endNode :: rest.tokens))

def Node.tokens (n : Node) : List Token :=
  .beginNode n.name :: (propTokens n.props ++ (n.children.tokens ++ [.endNode]))

/-- The properties of all nodes. -/
def Forest.properties : Forest → List Property
  | nil => []
  | nop rest => rest.properties
  | node _ props children rest =>
      props.reduceOption ++ (children.properties ++ rest.properties)

def Node.properties (n : Node) : List Property :=
  n.props.reduceOption ++ n.children.properties

/-- The bytes of the structure block. -/
def structBlock (fdt : Mem) : Mem := fdt.view (fdtOffDtStruct fdt)

/-- The name of the property stands among the strings, and those neither in the structure
block nor outside of the tree. -/
structure NameAt (fdt : Mem) (p : Property) : Prop where
  string : fdt.CString (fdtOffDtStrings fdt + p.nameoff) p.name
  inside : fdtOffDtStrings fdt + p.nameoff + p.name.length < fdtTotalsize fdt
  apart : fdtOffDtStrings fdt + p.nameoff + p.name.length < fdtOffDtStruct fdt ∨
    fdtOffDtStruct fdt + fdtSizeDtStruct fdt ≤ fdtOffDtStrings fdt + p.nameoff
  behind : 40 ≤ fdtOffDtStrings fdt + p.nameoff

/-- The bytes are the tree with the root `root`. -/
structure Encodes (fdt : Mem) (root : Node) : Prop where
  header : fdtCheckHeader fdt = 0
  checked : Checked fdt
  behind : 40 ≤ fdtOffDtStruct fdt
  inside : fdtOffDtStruct fdt + fdtSizeDtStruct fdt ≤ fdtTotalsize fdt
  laid : fdtTokens.Laid (structBlock fdt) 0 (root.tokens ++ [.finish])
  fits : fdtTokens.sizes (root.tokens ++ [.finish]) ≤ fdtSizeDtStruct fdt
  names : ∀ p ∈ root.properties, NameAt fdt p

section Tokens

variable {fdt : Mem} {o : ℕ} {t : Token}

lemma size_mod (t : Token) : fdtTokens.size t % 4 = 0 := alignUp_mod _

lemma sizes_mod (ts : List Token) : fdtTokens.sizes ts % 4 = 0 := by
  induction ts with
  | nil => rfl
  | cons t ts ih =>
    have hsize := size_mod t
    rw [TokenKind.sizes_cons]
    omega

/-- A tree whose structure block lies inside the addresses. -/
structure Framed (fdt : Mem) : Prop extends Checked fdt where
  framed : fdtOffDtStruct fdt + fdtSizeDtStruct fdt < 2 ^ 32

lemma Encodes.toFramed {root : Node} (h : Encodes fdt root) : Framed fdt :=
  ⟨h.checked, lt_of_le_of_lt h.inside (Mem.loadBe32_lt _ _)⟩

/-- An offset inside the block, as a place in the tree. -/
lemma fdtOffsetPtrRaw_eq (h : Framed fdt) (ho : o ≤ fdtSizeDtStruct fdt) :
    fdtOffsetPtrRaw fdt o = fdtOffDtStruct fdt + o := by
  have hframed := h.framed
  exact u32_eq (by push_cast; rfl) (by omega)

/-- The scan of a name that stands in the block. -/
lemma skipName_cstring (h : Framed fdt) {name : List UInt8}
    (hname : (structBlock fdt).CString o name) (hin : o + name.length < fdtSizeDtStruct fdt) :
    skipName fdt o = some (some ((o + (name.length + 1) : ℕ) : ℤ)) := by
  have hsize := h.size
  have hnext : ∀ k : ℕ, k < fdtSizeDtStruct fdt → i32 ((k : ℤ) + 1) = ((k + 1 : ℕ) : ℤ) := by
    intro k hk
    rw [i32_eq (by omega) (by omega), Nat.cast_succ]
  obtain ⟨hbytes, hzero, hstop⟩ := hname
  induction name generalizing o with
  | nil =>
    rw [List.length_nil, Nat.add_zero] at hin
    have hend : fdt (fdtOffsetPtrRaw fdt o) = 0 := by
      rw [fdtOffsetPtrRaw_eq h (by omega)]
      exact hstop
    rw [skipName, fdtOffsetPtr_eq h.toChecked (by omega) (by norm_num), if_pos (by omega)]
    simp only [hend, if_true, hnext o hin, List.length_nil]
  | cons c name ih =>
    obtain ⟨hc, hrest⟩ := Mem.holds_cons.mp hbytes
    rw [List.length_cons] at hin hstop
    have hne : fdt (fdtOffsetPtrRaw fdt o) ≠ 0 := by
      rw [fdtOffsetPtrRaw_eq h (by omega)]
      intro h0
      exact hzero (by rw [← hc.symm.trans h0]; exact List.mem_cons_self)
    rw [skipName, fdtOffsetPtr_eq h.toChecked (by omega) (by norm_num), if_pos (by omega)]
    simp only [hne, if_false, hnext o (by omega)]
    rw [ih (by omega) hrest (fun h0 => hzero (List.mem_cons_of_mem c h0))
      (by rw [← hstop]; congr 1; omega), List.length_cons]
    congr 3
    omega

/-- The end of a token of the block, in front of its padding. -/
lemma tokenEnd_token (h : Framed fdt) (hat : fdtTokens.At (structBlock fdt) o t)
    (hin : o + t.length ≤ fdtSizeDtStruct fdt) :
    tokenEnd fdt t.tag (o + 4 : ℕ) = some (some (i32 (o + t.length))) := by
  have hsize := h.size
  rw [i32_eq (by omega) (by omega)]
  cases t with
  | beginNode name =>
    rw [Token.length] at hin ⊢
    rw [tokenEnd, Token.tag, if_pos rfl, skipName_cstring h hat.2 (by omega)]
    push_cast
    ring_nf
  | prop nameoff value =>
    have hlen : fdt.loadBe32 (fdtOffsetPtrRaw fdt (o + 4 : ℕ)) = value.length := by
      rw [Token.length] at hin
      rw [fdtOffsetPtrRaw_eq h (by omega), ← Mem.loadBe32_view]
      exact hat.2.1
    rw [Token.length] at hin ⊢
    rw [tokenEnd, Token.tag, if_neg (by decide), if_pos rfl,
      fdtOffsetPtr_eq h.toChecked (by omega) (by norm_num), if_pos (by omega)]
    simp only [hlen]
    rw [i32_eq (by omega) (by omega)]
    push_cast
    ring_nf
  | endNode => rfl
  | nop => rfl
  | finish => rfl

/-- At a token of the block, `fdt_next_tag` returns its tag and goes to the next token. -/
lemma fdtNextTag_token (h : Framed fdt) (halign : o % 4 = 0)
    (hat : fdtTokens.At (structBlock fdt) o t)
    (hin : o + fdtTokens.size t ≤ fdtSizeDtStruct fdt) :
    fdtNextTag fdt o = some (t.tag, ((o + fdtTokens.size t : ℕ) : ℤ)) := by
  have hsize := h.size
  have hround := le_alignUp t.length
  have hfour : 4 ≤ t.length := by cases t <;> simp only [Token.length] <;> omega
  have htag : fdt.loadBe32 (fdtOffsetPtrRaw fdt o) = t.tag := by
    rw [fdtOffsetPtrRaw_eq h (by omega), ← Mem.loadBe32_view]
    exact hat.1
  rw [show fdtTokens.size t = alignUp t.length from rfl] at hin ⊢
  rw [fdtNextTag_start h.toChecked (by omega), htag, tokenEnd_token h hat (by omega),
    Option.map_some, tokenNext_eq h.toChecked (by omega) _ (by omega), if_pos (by omega),
    alignUp_add halign]

end Tokens

end A733Boot.Fdt
