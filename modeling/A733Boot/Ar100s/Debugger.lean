/-
The formatted output of the debugger, `debugger_printf` and `print_align` of
`ar100s/system/debugger/debugger.c`, over the string functions of the library.

The text is put together in `debugger_buffer`. The memory around it is part of the model, so that
an access outside of the buffer can be told; all of them are recorded.

* `Out`, `convert`, `loop`, `debuggerPrintf`: the code, with no result where a conversion would
  run over its scratch stack or take an argument that is not there;
* `Token`, `tokens`: what a format stands for with its arguments, and `expansion`: its text;
* `fitted`: the part of a text that fits the buffer, where the least number has a sign only;
* `loop_eq`: the loop goes over the tokens;
* `Holds`, `Token.write_holds`, `run_holds`: the text that fits stands in the buffer, over one
  token and over all of them;
* `fitted_prefix_iff`: it is a prefix of the expansion as long as no missing digits show;
* **`debuggerPrintf_contained_iff`**: the output stays inside its buffers and is a prefix of the
  expansion exactly when it is masked, or some token has a text and no missing digits show.
-/
import A733Boot.Ar100s.Numbers

namespace A733Boot.Ar100s.Debugger

open Numbers

/-! ### The code -/

/-- The size of `debugger_buffer`. -/
def debugBufferSize : ℕ := 256

/-- The size of `string`. -/
def stringSize : ℕ := 32

/-- A string of C: its characters in front of the terminator. -/
structure CString where
  text : List UInt8
  no_nul : 0 ∉ text

/-- An argument: a word, or a pointer to a string. -/
inductive Arg
  | word (v : UInt32)
  | string (s : CString)

/-- The destination: the memory at `debugger_buffer`, the offset of `pdest` in it, and the
places of the buffer and of `string` that were read or written. -/
structure Out where
  buffer : ℤ → UInt8
  pdest : ℕ
  accesses : List ℤ
  stringAccesses : List ℕ

/-- The loop of `strnlen`. -/
def strnlen : List UInt8 → ℕ → ℕ
  | _, 0 => 0
  | [], _ + 1 => 0
  | _ :: s, n + 1 => strnlen s n + 1

/-- The bytes that `strncpy` writes: the source stays at its terminator. -/
def strncpy : List UInt8 → ℕ → List UInt8
  | _, 0 => []
  | [], count + 1 => 0 :: strncpy [] count
  | c :: src, count + 1 => c :: strncpy src count

/-- The string at `dest` behind `strncat`. -/
def strncat (dest src : List UInt8) (count : ℕ) : List UInt8 := dest ++ src.take count

/-- The spaces of `fill_ch`. -/
def fillCh : List UInt8 := List.replicate 16 ' '.toUInt8

/-- The string with its padding, and the number of characters that were added. -/
def printAlign (string : List UInt8) (len align : ℕ) : List UInt8 × ℕ :=
  if len < align then (strncat string fillCh (align - len), align - len) else (string, 0)

namespace Out

/-- A byte is written to a place of the memory. -/
def store (o : Out) (i : ℕ) (c : UInt8) : Out :=
  { o with buffer := Function.update o.buffer i c, accesses := o.accesses ++ [(i : ℤ)] }

/-- `*pdest++ = c`. -/
def put (o : Out) (c : UInt8) : Out := { o.store o.pdest c with pdest := o.pdest + 1 }

/-- Bytes are copied to `pdest`, which goes behind them. -/
def puts (o : Out) : List UInt8 → Out
  | [] => o
  | c :: text => (o.put c).puts text

/-- `strcpy(pdest, string)`, with the terminator. -/
def strcpy (o : Out) (string : List UInt8) : Out :=
  let behind := o.puts string
  { behind.store behind.pdest 0 with pdest := o.pdest }

/-- A number that was converted into `string` is padded there and copied out. -/
def number (o : Out) (string : List UInt8) (align : ℕ) : Out :=
  let len := string.length
  let (string, fill) := printAlign string len align
  let o := { o with stringAccesses := o.stringAccesses ++ List.range (string.length + 1) }
  { o.strcpy string with pdest := o.pdest + (len + fill) }

/-- A string is copied out, as much of it as there is room for in front of the terminator. -/
def string (o : Out) (psrc : CString) : Out :=
  o.puts (strncpy psrc.text (strnlen psrc.text (debugBufferSize - 1 - o.pdest)))

end Out

/-- The conversion at the character `c`, with the arguments that are left behind it. -/
def convert (c : UInt8) (align : ℕ) (args : List Arg) (o : Out) : Option (List Arg × Out) :=
  if c = 'd'.toUInt8 then
    match args with
    | .word v :: args => (itoa v.toInt32 10).map fun string => (args, o.number string align)
    | _ => none
  else if c = 'x'.toUInt8 ∨ c = 'p'.toUInt8 then
    match args with
    | .word v :: args => (utoa v 16).map fun string => (args, o.number string align)
    | _ => none
  else if c = 'u'.toUInt8 then
    match args with
    | .word v :: args => (utoa v 10).map fun string => (args, o.number string align)
    | _ => none
  else if c = 'c'.toUInt8 then
    match args with
    | .word v :: args => some (args, o.put v.toUInt8)
    | _ => none
  else if c = 's'.toUInt8 then
    match args with
    | .string s :: args => some (args, o.string s)
    | _ => none
  else some (args, (o.put '%'.toUInt8).put c)

/-- A width is a digit from 1 to 9. -/
def isWidth (c : UInt8) : Prop := '0'.toUInt8 < c ∧ c ≤ '9'.toUInt8

instance (c : UInt8) : Decidable (isWidth c) := inferInstanceAs (Decidable (_ ∧ _))

/-- The loop over the format. A format that ends inside of a conversion is left behind its
terminator, which has no result here. -/
def loop : List UInt8 → List Arg → Out → Option Out
  | [], _, o => some o
  | c :: format, args, o =>
    if debugBufferSize - 16 ≤ o.pdest then some o
    else if c = '%'.toUInt8 then
      match format with
      | [] => none
      | d :: format =>
        if isWidth d then
          match format with
          | [] => none
          | e :: format => do
            let (args, o) ← convert e (d - '0'.toUInt8).toNat args o
            loop format args o
        else do
          let (args, o) ← convert d 0 args o
          loop format args o
    else loop format args (o.put c)

/-- The output that is handed to `debugger_puts`, the flag for the next time stamp and the
number that is returned. -/
structure Printed where
  out : Out
  printTimeflg : Bool
  ret : ℕ

/-- Behind the loop: the newline test looks at the character before `pdest`. -/
def terminate (o : Out) : Printed :=
  let o := { o with accesses := o.accesses ++ [(o.pdest : ℤ) - 1] }
  let flag := o.buffer ((o.pdest : ℤ) - 1) = '\n'.toUInt8
  let o := { o.store o.pdest 0 with pdest := o.pdest + 1 }
  ⟨o, flag, o.pdest⟩

/-- The level is not masked. A shift by more than the width of a word, which C does not define,
leaves no bit here. -/
def enabled (level debugLevel : UInt32) : Bool :=
  level.toNat &&& (0xf0 >>> (debugLevel + 1).toNat) ≠ 0

/-- The call, over the memory that is in the buffer and around it: it is masked, or it prints. -/
def debuggerPrintf (level debugLevel : UInt32) (format : CString) (args : List Arg)
    (buffer : ℤ → UInt8) : Option (Option Printed) :=
  if enabled level debugLevel then
    (loop format.text args ⟨buffer, 0, [], []⟩).map fun o => some (terminate o)
  else some none

/-! ### The expansion of a format -/

/-- A character, or a conversion with its argument; a width is at most 9. -/
inductive Token
  | literal (c : UInt8)
  | signed (width : Fin 10) (v : Int32)
  | hex (width : Fin 10) (v : UInt32)
  | unsigned (width : Fin 10) (v : UInt32)
  | char (c : UInt8)
  | string (s : CString)
  | escape (c : UInt8)

/-- The conversion that a character stands for, with the arguments that are left. -/
def conversion (c : UInt8) (width : Fin 10) (args : List Arg) : Option (Token × List Arg) :=
  if c = 'd'.toUInt8 then
    match args with
    | .word v :: args => some (.signed width v.toInt32, args)
    | _ => none
  else if c = 'x'.toUInt8 ∨ c = 'p'.toUInt8 then
    match args with
    | .word v :: args => some (.hex width v, args)
    | _ => none
  else if c = 'u'.toUInt8 then
    match args with
    | .word v :: args => some (.unsigned width v, args)
    | _ => none
  else if c = 'c'.toUInt8 then
    match args with
    | .word v :: args => some (.char v.toUInt8, args)
    | _ => none
  else if c = 's'.toUInt8 then
    match args with
    | .string s :: args => some (.string s, args)
    | _ => none
  else some (.escape c, args)

/-- The width that a digit stands for. -/
def widthOf (c : UInt8) : Fin 10 := Fin.ofNat 10 (c - '0'.toUInt8).toNat

/-- A format with arguments that match it: each `%` has its character behind it, and each
conversion an argument of its kind. -/
def tokens : List UInt8 → List Arg → Option (List Token)
  | [], _ => some []
  | c :: format, args =>
    if c = '%'.toUInt8 then
      match format with
      | [] => none
      | d :: format =>
        if isWidth d then
          match format with
          | [] => none
          | e :: format => do
            let (t, args) ← conversion e (widthOf d) args
            let ts ← tokens format args
            pure (t :: ts)
        else do
          let (t, args) ← conversion d 0 args
          let ts ← tokens format args
          pure (t :: ts)
    else do
      let ts ← tokens format args
      pure (.literal c :: ts)

/-- A text with spaces at its right. -/
def pad (width : ℕ) (text : List UInt8) : List UInt8 :=
  text ++ List.replicate (width - text.length) ' '.toUInt8

/-- The decimal numeral of a signed number. -/
def decimal (v : Int32) : List UInt8 :=
  (if v.toInt < 0 then ['-'.toUInt8] else []) ++ (numeral 10 v.toInt.natAbs).map digitChar

/-- The least number of `%d`, whose negation does not exist. -/
def Token.least (width : Fin 10) : Token := .signed width Int32.minValue

/-- The digits that the least number should have. -/
def leastDigits : List UInt8 := (numeral 10 Int32.minValue.toInt.natAbs).map digitChar

/-- A signed number as it comes out: the least one has its sign and no digits. -/
def shown (v : Int32) : List UInt8 := if v = Int32.minValue then ['-'.toUInt8] else decimal v

namespace Token

/-- The text of a token, for a way to write signed numbers. -/
def text (numerals : Int32 → List UInt8) : Token → List UInt8
  | literal c => [c]
  | signed width v => pad width (numerals v)
  | hex width v => pad width ((numeral 16 v.toNat).map digitChar)
  | unsigned width v => pad width ((numeral 10 v.toNat).map digitChar)
  | char c => [c]
  | string s => s.text
  | escape c => ['%'.toUInt8, c]

/-- The text of a token that begins at the place `pos` of the buffer: a string is cut in front
of the last byte. -/
def fitted (pos : ℕ) : Token → List UInt8
  | string s => s.text.take (debugBufferSize - 1 - pos)
  | t => t.text shown

/-- The conversion of an empty string. -/
def silent : Token → Bool
  | string s => s.text.isEmpty
  | _ => false

end Token

/-- The text of the tokens, with signed numbers as decimal numerals. -/
def expansion (ts : List Token) : List UInt8 := ts.flatMap (Token.text decimal)

/-- The text of the tokens from the place `pos` of the buffer on, as far as it fits: no token
begins in the last sixteen bytes. -/
def fitted (pos : ℕ) : List Token → List UInt8
  | [] => []
  | t :: ts =>
    if debugBufferSize - 16 ≤ pos then []
    else t.fitted pos ++ fitted (pos + (t.fitted pos).length) ts

/-- The digits that the first least number should have are not missed: it begins where nothing
is written any more, or it is not padded and the text behind it that fits happens to go on as
the digits do. -/
def DigitsUnmissed (pos : ℕ) (ts : List Token) : Prop :=
  ∀ pre width post, ts = pre ++ Token.least width :: post → (∀ w, Token.least w ∉ pre) →
    debugBufferSize - 16 ≤ pos + (expansion pre).length ∨
    (width ≤ 1 ∧ fitted (pos + (expansion pre).length + 1) post <+: leastDigits ++ expansion post)

/-- The output stays inside of `debugger_buffer` and `string`, and the characters in the buffer
that are returned as printed are a prefix of the text, with its terminator. -/
structure Contained (text : List UInt8) (p : Printed) : Prop where
  accesses : ∀ i ∈ p.out.accesses, 0 ≤ i ∧ i < debugBufferSize
  stringAccesses : ∀ i ∈ p.out.stringAccesses, i < stringSize
  emitted : ∃ sent, sent <+: text ∧ sent.length < debugBufferSize ∧ p.ret = sent.length + 1 ∧
    Stands sent fun i => p.out.buffer i

/-- The call comes to its end, and what it prints is contained in the text. -/
def Meets (level debugLevel : UInt32) (format : CString) (args : List Arg) (buffer : ℤ → UInt8)
    (text : List UInt8) : Prop :=
  ∃ r, debuggerPrintf level debugLevel format args buffer = some r ∧ ∀ p ∈ r, Contained text p

/-! ### The loop over the tokens -/

/-- What the loop does at a token. -/
def Token.write (o : Out) : Token → Out
  | literal c => o.put c
  | signed width v => o.number ((itoa v 10).getD []) width
  | hex width v => o.number ((numeral 16 v.toNat).map digitChar) width
  | unsigned width v => o.number ((numeral 10 v.toNat).map digitChar) width
  | char c => o.put c
  | string s => o.string s
  | escape c => (o.put '%'.toUInt8).put c

/-- The loop over the tokens, up to the one that there might be no room for. -/
def run : List Token → Out → Out
  | [], o => o
  | t :: ts, o => if debugBufferSize - 16 ≤ o.pdest then o else run ts (t.write o)

section Loop

variable {c : UInt8} {width : Fin 10} {args rest : List Arg} {t : Token} {o : Out}

/-- `itoa` has a text for every number, which is short. -/
lemma itoa_some (v : Int32) :
    itoa v 10 = some ((itoa v 10).getD []) ∧ ((itoa v 10).getD []).length ≤ 11 := by
  by_cases hmin : v = Int32.minValue
  · subst hmin
    rw [itoa_minValue]
    exact ⟨rfl, by decide⟩
  · rw [itoa_eq hmin]
    refine ⟨rfl, ?_⟩
    have hdigits : (numeral 10 v.toInt.natAbs).length ≤ 10 := by
      have := v.le_toInt
      have := v.toInt_lt
      exact numeral_length_le (by omega) (by omega) (by omega)
    rw [Option.getD_some, List.length_append, List.length_map]
    split
    · rw [List.length_singleton]
      omega
    · rw [List.length_nil]
      omega

/-- `itoa` writes the decimal numeral where the negation exists, and the sign alone elsewhere. -/
lemma itoa_shown (v : Int32) : (itoa v 10).getD [] = shown v := by
  rw [shown]
  split
  · rename_i hmin
    rw [hmin, itoa_minValue]
    rfl
  · rename_i hmin
    rw [itoa_eq hmin]
    rfl

lemma convert_eq (h : conversion c width args = some (t, rest)) :
    convert c width args o = some (rest, t.write o) := by
  unfold conversion at h
  unfold convert
  split_ifs at h ⊢ with hd hx hu hc hs
  · -- the signed number
    obtain _ | ⟨_ | _, args⟩ := args <;> cases h
    rename_i v
    simp only [Token.write]
    rw [(itoa_some v.toInt32).1]
    rfl
  · obtain _ | ⟨_ | _, args⟩ := args <;> cases h
    rename_i v
    simp only [Token.write, utoa_eq (show 10 ≤ 16 by decide) le_rfl, Option.map_some]
  · obtain _ | ⟨_ | _, args⟩ := args <;> cases h
    rename_i v
    simp only [Token.write, utoa_eq le_rfl (show 10 ≤ 16 by decide), Option.map_some]
  · obtain _ | ⟨_ | _, args⟩ := args <;> cases h
    rfl
  · obtain _ | ⟨_ | _, args⟩ := args <;> cases h
    rfl
  · cases h
    rfl

lemma widthOf_val (h : isWidth c) : (widthOf c : ℕ) = (c - '0'.toUInt8).toNat := by
  have hlow : 48 < c.toNat := UInt8.lt_iff_toNat_lt.mp h.1
  have hhigh : c.toNat ≤ 57 := UInt8.le_iff_toNat_le.mp h.2
  have hsub : (c - '0'.toUInt8).toNat = c.toNat - 48 :=
    UInt8.toNat_sub_of_le _ _ (UInt8.le_iff_toNat_le.mpr hlow.le)
  show (c - '0'.toUInt8).toNat % 10 = _
  rw [hsub]
  exact Nat.mod_eq_of_lt (by omega)

/-- Nothing more is written when there might be no room for it. -/
lemma run_full (ts : List Token) (h : debugBufferSize - 16 ≤ o.pdest) : run ts o = o := by
  cases ts with
  | nil => rfl
  | cons t ts => rw [run, if_pos h]

/-- A round of the loop at a conversion. -/
lemma round_eq {format : List UInt8} {ts : List Token} (c : UInt8) (width : Fin 10)
    (htokens : (do
      let (t, args) ← conversion c width args
      let ts ← tokens format args
      pure (t :: ts)) = some ts)
    (ih : ∀ {args o ts}, tokens format args = some ts → loop format args o = some (run ts o)) :
    (if debugBufferSize - 16 ≤ o.pdest then some o
      else do
        let (args, o) ← convert c width args o
        loop format args o) = some (run ts o) := by
  split
  · rename_i hfull
    rw [run_full ts hfull]
  · rename_i hroom
    obtain ⟨⟨t, rest⟩, hconv, htokens⟩ := Option.bind_eq_some_iff.mp htokens
    obtain ⟨ts, hrest, hcons⟩ := Option.bind_eq_some_iff.mp htokens
    obtain rfl := Option.some.inj hcons
    rw [convert_eq hconv, run, if_neg hroom]
    exact ih hrest

/-- The loop goes over the tokens of its format. -/
lemma loop_eq {format : List UInt8} {ts : List Token} (h : tokens format args = some ts) :
    loop format args o = some (run ts o) := by
  induction format, args using tokens.induct generalizing ts o with
  | case1 args =>
    cases h
    rfl
  | case2 args => cases h
  | case3 args d hd =>
    rw [tokens, if_pos rfl, if_pos hd] at h
    cases h
  | case4 args d hd e format ih =>
    rw [tokens, if_pos rfl, if_pos hd] at h
    rw [loop, if_pos rfl, if_pos hd, ← widthOf_val hd]
    exact round_eq e (widthOf d) h (ih _)
  | case5 args d format hd ih =>
    rw [tokens.eq_def] at h
    simp only [if_true, if_neg hd] at h
    rw [loop.eq_def]
    simp only [if_true, if_neg hd]
    exact round_eq d 0 h (ih _)
  | case6 c format args hc ih =>
    rw [tokens.eq_def] at h
    simp only [if_neg hc] at h
    obtain ⟨ts, hrest, hcons⟩ := Option.bind_eq_some_iff.mp h
    obtain rfl := Option.some.inj hcons
    rw [loop.eq_def, run]
    simp only [if_neg hc]
    split
    · rfl
    · exact ih hrest

end Loop

/-! ### The text in the buffer -/

/-- The text stands in the buffer in front of `pdest`, and nothing outside was accessed. -/
structure Holds (sent : List UInt8) (o : Out) : Prop where
  pdest : o.pdest = sent.length
  room : sent.length < debugBufferSize
  bytes : ∀ (j : ℕ) c, sent[j]? = some c → o.buffer j = c
  accesses : ∀ i ∈ o.accesses, 0 ≤ i ∧ i < debugBufferSize
  stringAccesses : ∀ i ∈ o.stringAccesses, i < stringSize

section Text

variable {sent : List UInt8} {o : Out}

lemma holds_start (buffer : ℤ → UInt8) : Holds [] ⟨buffer, 0, [], []⟩ where
  pdest := rfl
  room := by decide
  bytes _ _ hb := nomatch hb
  accesses _ hi := nomatch hi
  stringAccesses _ hi := nomatch hi

/-- A byte at `pdest` is behind the text. -/
lemma Holds.store (h : Holds sent o) (c : UInt8) : Holds sent (o.store o.pdest c) := by
  refine ⟨h.pdest, h.room, fun j b hb => ?_, ?_, h.stringAccesses⟩
  · have hj : j < sent.length := (List.getElem?_eq_some_iff.mp hb).1
    have hne : (j : ℤ) ≠ o.pdest := by
      rw [h.pdest]
      omega
    exact (Function.update_of_ne hne c o.buffer).trans (h.bytes j b hb)
  · show ∀ i ∈ o.accesses ++ [(o.pdest : ℤ)], _
    rw [List.forall_mem_append, List.forall_mem_singleton, h.pdest]
    exact ⟨h.accesses, Int.natCast_nonneg _, Int.ofNat_lt.mpr h.room⟩

lemma Holds.put (h : Holds sent o) (c : UInt8) (hroom : sent.length + 1 < debugBufferSize) :
    Holds (sent ++ [c]) (o.put c) := by
  have hstore := h.store c
  refine ⟨?_, ?_, fun j b hb => ?_, hstore.accesses, hstore.stringAccesses⟩
  · show o.pdest + 1 = _
    rw [h.pdest, List.length_append, List.length_singleton]
  · rw [List.length_append, List.length_singleton]
    exact hroom
  · show (o.store o.pdest c).buffer j = b
    rcases Nat.lt_or_ge j sent.length with hj | hj
    · rw [List.getElem?_append_left hj] at hb
      exact hstore.bytes j b hb
    · rw [List.getElem?_append_right hj, List.getElem?_singleton] at hb
      split at hb
      · rename_i h0
        obtain rfl := Option.some.inj hb
        obtain rfl : j = o.pdest := by
          rw [h.pdest]
          omega
        exact Function.update_self _ _ _
      · cases hb

lemma Holds.puts (text : List UInt8) (h : Holds sent o)
    (hroom : sent.length + text.length < debugBufferSize) :
    Holds (sent ++ text) (o.puts text) := by
  induction text generalizing sent o with
  | nil =>
    rw [List.append_nil]
    exact h
  | cons c text ih =>
    rw [List.length_cons] at hroom
    have hput := h.put c (by omega)
    rw [List.append_cons]
    exact ih hput (by rw [List.length_append, List.length_singleton]; omega)

lemma printAlign_eq (string : List UInt8) (width : Fin 10) :
    printAlign string string.length width = (pad width string, width - string.length) := by
  unfold printAlign
  split
  · rw [strncat, fillCh, List.take_replicate, Nat.min_eq_left (by omega), pad]
  · have h0 : (width : ℕ) - string.length = 0 := by omega
    rw [pad, h0, List.replicate_zero, List.append_nil]

lemma pad_length (width : ℕ) (text : List UInt8) :
    (pad width text).length = max text.length width := by
  rw [pad, List.length_append, List.length_replicate]
  omega

/-- A number with its padding fits `string` and the room that is kept for it. -/
lemma Holds.number (h : Holds sent o) {string : List UInt8} (hlen : string.length ≤ 11)
    (width : Fin 10) (hroom : sent.length < debugBufferSize - 16) :
    Holds (sent ++ pad width string) (o.number string width) := by
  rw [debugBufferSize] at hroom
  have hpad : (pad width string).length ≤ 11 := by
    rw [pad_length]
    omega
  have hstring : Holds sent { o with
      stringAccesses := o.stringAccesses ++ List.range ((pad width string).length + 1) } := by
    refine ⟨h.pdest, h.room, h.bytes, h.accesses, ?_⟩
    rw [List.forall_mem_append]
    refine ⟨h.stringAccesses, fun i hi => ?_⟩
    rw [List.mem_range] at hi
    rw [stringSize]
    omega
  have hcopy := (hstring.puts (pad width string) (by rw [debugBufferSize]; omega)).store 0
  unfold Out.number
  simp only [printAlign_eq]
  refine ⟨?_, hcopy.room, hcopy.bytes, hcopy.accesses, hcopy.stringAccesses⟩
  show o.pdest + (string.length + (width - string.length)) = _
  rw [h.pdest, List.length_append, pad_length]
  omega

/-- Of a string, as much is copied as the bound lets through. -/
lemma strncpy_strnlen (s : List UInt8) (n : ℕ) : strncpy s (strnlen s n) = s.take n := by
  induction n generalizing s with
  | zero => cases s <;> rfl
  | succ n ih =>
    cases s with
    | nil => rfl
    | cons c s => exact congrArg (c :: ·) (ih s)

/-- **One token.** The text of it that fits is added. -/
lemma Token.write_holds (h : Holds sent o) (hroom : sent.length < debugBufferSize - 16)
    (t : Token) : Holds (sent ++ t.fitted sent.length) (t.write o) := by
  have hsize : debugBufferSize = 256 := rfl
  have hdigits : ∀ {radix : ℕ}, 10 ≤ radix → ∀ v : UInt32,
      ((numeral radix v.toNat).map digitChar).length ≤ 11 := by
    intro radix hradix v
    rw [List.length_map]
    exact (numeral_word_length_le hradix v).trans (by omega)
  cases t with
  | literal c => exact h.put c (by omega)
  | signed width v =>
    have hnumber := h.number (itoa_some v).2 width hroom
    rw [itoa_shown] at hnumber
    rw [Token.write, itoa_shown]
    exact hnumber
  | hex width v => exact h.number (hdigits (by omega) v) width hroom
  | unsigned width v => exact h.number (hdigits le_rfl v) width hroom
  | char c => exact h.put c (by omega)
  | escape c =>
    have hput := (h.put '%'.toUInt8 (by omega)).put c
      (by rw [List.length_append, List.length_singleton]; omega)
    rw [List.append_assoc] at hput
    exact hput
  | string s =>
    have hputs := h.puts (s.text.take (debugBufferSize - 1 - o.pdest))
      (by rw [List.length_take, h.pdest]; omega)
    rw [Token.write, Out.string, strncpy_strnlen, Token.fitted, ← h.pdest]
    exact hputs

/-- **All of the tokens.** The text of them that fits is added. -/
lemma run_holds (ts : List Token) (h : Holds sent o) :
    Holds (sent ++ fitted sent.length ts) (run ts o) := by
  induction ts generalizing sent o with
  | nil =>
    rw [fitted, List.append_nil]
    exact h
  | cons t ts ih =>
    rw [run, fitted, h.pdest]
    split
    · rw [List.append_nil]
      exact h
    · rename_i hroom
      have hrest := ih (t.write_holds h (not_le.mp hroom))
      rw [List.length_append, List.append_assoc] at hrest
      exact hrest

/-- Behind the loop: the access in front of `pdest` is inside the buffer when there is a
character there. -/
lemma terminate_contained_iff {text : List UInt8} (h : Holds sent o) :
    Contained text (terminate o) ↔ sent ≠ [] ∧ sent <+: text := by
  have haccesses : (terminate o).out.accesses
      = (o.accesses ++ [(o.pdest : ℤ) - 1]) ++ [(o.pdest : ℤ)] := rfl
  have hret : (terminate o).ret = sent.length + 1 := congrArg (· + 1) h.pdest
  have hroom := h.room
  have hstands : Stands sent fun i => (terminate o).out.buffer i := by
    intro i hi
    show Function.update o.buffer (o.pdest : ℤ) 0 i = sent.getD i 0
    rcases Nat.lt_or_eq_of_le hi with hlt | rfl
    · rw [Function.update_of_ne (by rw [h.pdest]; omega), List.getD_eq_getElem _ _ hlt]
      exact h.bytes i _ (List.getElem?_eq_getElem hlt)
    · rw [h.pdest, Function.update_self, List.getD_eq_default _ _ le_rfl]
  constructor
  · intro hcontained
    constructor
    · rintro rfl
      have hbefore : ((0 : ℕ) : ℤ) - 1 ∈ (terminate o).out.accesses := by
        rw [haccesses, h.pdest]
        simp
      have hle := (hcontained.accesses _ hbefore).1
      omega
    · obtain ⟨sent', hpre, -, hret', hstands'⟩ := hcontained.emitted
      -- the length and the bytes in the buffer leave one text only
      have hlen : sent.length = sent'.length := by omega
      have hsame : sent = sent' := by
        refine List.ext_getElem hlen fun i hi hi' => ?_
        have hbyte := (hstands i hi.le).symm.trans (hstands' i hi'.le)
        rwa [List.getD_eq_getElem _ _ hi, List.getD_eq_getElem _ _ hi'] at hbyte
      exact hsame ▸ hpre
  · rintro ⟨hne, hpre⟩
    have hpos : 0 < sent.length := List.length_pos_iff.mpr hne
    refine ⟨?_, h.stringAccesses, sent, hpre, hroom, hret, hstands⟩
    rw [haccesses, h.pdest]
    simp only [List.forall_mem_append, List.forall_mem_singleton]
    exact ⟨⟨h.accesses, by omega, by omega⟩, by omega, by omega⟩

end Text

/-! ### The text that fits -/

section Fitted

variable {pos : ℕ} {t : Token} {ts : List Token}

lemma pad_ne_nil {text : List UInt8} (width : ℕ) (h : text ≠ []) : pad width text ≠ [] :=
  List.append_ne_nil_of_left_ne_nil h _

lemma numeral_text_ne_nil {radix : ℕ} (h1 : 1 < radix) (n : ℕ) :
    (numeral radix n).map digitChar ≠ [] :=
  fun h => (numeral_isNumeral h1 n).ne_nil (List.map_eq_nil_iff.mp h)

lemma shown_ne_nil (v : Int32) : shown v ≠ [] := by
  rw [shown]
  split
  · exact List.cons_ne_nil _ _
  · exact List.append_ne_nil_of_right_ne_nil _ (numeral_text_ne_nil (by decide) _)

/-- Only the conversion of an empty string has no text. -/
lemma Token.fitted_ne_nil_iff (hroom : pos < debugBufferSize - 16) (t : Token) :
    t.fitted pos ≠ [] ↔ t.silent = false := by
  cases t with
  | literal c => exact iff_of_true (List.cons_ne_nil _ _) rfl
  | signed width v => exact iff_of_true (pad_ne_nil _ (shown_ne_nil v)) rfl
  | hex width v => exact iff_of_true (pad_ne_nil _ (numeral_text_ne_nil (by decide) _)) rfl
  | unsigned width v => exact iff_of_true (pad_ne_nil _ (numeral_text_ne_nil (by decide) _)) rfl
  | char c => exact iff_of_true (List.cons_ne_nil _ _) rfl
  | escape c => exact iff_of_true (List.cons_ne_nil _ _) rfl
  | string s =>
    have hsize : debugBufferSize = 256 := rfl
    rw [Token.fitted, Token.silent, List.isEmpty_eq_false_iff, Ne, List.take_eq_nil_iff]
    refine not_congr (or_iff_right ?_)
    omega

lemma fitted_ne_nil_iff (hroom : pos < debugBufferSize - 16) :
    fitted pos ts ≠ [] ↔ ∃ t ∈ ts, t.silent = false := by
  induction ts with
  | nil => simp [fitted]
  | cons t ts ih =>
    rw [fitted, if_neg (not_le.mpr hroom), List.exists_mem_cons_iff,
      ← t.fitted_ne_nil_iff hroom]
    by_cases ht : t.fitted pos = []
    · rw [ht, List.nil_append, List.length_nil, Nat.add_zero, ih]
      simp
    · exact iff_of_true (List.append_ne_nil_of_left_ne_nil ht _) (Or.inl ht)

/-- Where nothing is written any more, no digits are missed. -/
lemma digitsUnmissed_full (hfull : debugBufferSize - 16 ≤ pos) : DigitsUnmissed pos ts :=
  fun _ _ _ _ _ => Or.inl (hfull.trans (Nat.le_add_right _ _))

/-- The first least number of the tokens behind one that is none. -/
lemma digitsUnmissed_cons_iff (ht : ∀ width, t ≠ Token.least width) :
    DigitsUnmissed pos (t :: ts) ↔ DigitsUnmissed (pos + (t.text decimal).length) ts := by
  have hlen : ∀ pre, pos + (expansion (t :: pre)).length =
      pos + (t.text decimal).length + (expansion pre).length := by
    intro pre
    rw [expansion, List.flatMap_cons, List.length_append, ← Nat.add_assoc]
    rfl
  constructor
  · intro h pre width post hsplit hnone
    have hfirst := h (t :: pre) width post (congrArg (t :: ·) hsplit) fun w hw => by
      obtain hw | hw := List.mem_cons.mp hw
      · exact ht w hw.symm
      · exact hnone w hw
    rwa [hlen] at hfirst
  · intro h pre width post hsplit hnone
    cases pre with
    | nil => exact absurd (List.cons.inj hsplit).1 (ht width)
    | cons t' pre =>
      obtain ⟨rfl, hrest⟩ := List.cons.inj hsplit
      rw [hlen]
      exact h pre width post hrest fun w hw => hnone w (List.mem_cons_of_mem _ hw)

/-- The tokens begin with the least number. -/
lemma digitsUnmissed_least_iff (hroom : pos < debugBufferSize - 16) (width : Fin 10) :
    DigitsUnmissed pos (Token.least width :: ts) ↔
      width ≤ 1 ∧ fitted (pos + 1) ts <+: leastDigits ++ expansion ts := by
  constructor
  · intro h
    exact (h [] width ts rfl fun _ => List.not_mem_nil).resolve_left (not_le.mpr hroom)
  · intro h pre width' post hsplit hnone
    cases pre with
    | nil =>
      obtain ⟨hwidth, rfl⟩ := List.cons.inj hsplit
      obtain rfl := (Token.signed.inj hwidth).1
      exact Or.inr h
    | cons t pre =>
      obtain ⟨rfl, -⟩ := List.cons.inj hsplit
      exact absurd List.mem_cons_self (hnone width)

lemma leastDigits_eq : leastDigits = ['2', '1', '4', '7', '4', '8', '3', '6', '4', '8'].map
    Char.toUInt8 := by
  have hdigits : numeral 10 Int32.minValue.toInt.natAbs = [2, 1, 4, 7, 4, 8, 3, 6, 4, 8] := by
    rw [show Int32.minValue.toInt.natAbs = 2147483648 from rfl, numeral]
    norm_num
  rw [leastDigits, hdigits]
  rfl

/-- The sign of the least number without its digits. -/
lemma least_prefix_iff (width : Fin 10) (rest text : List UInt8) :
    pad width (shown Int32.minValue) ++ rest <+: pad width (decimal Int32.minValue) ++ text ↔
      width ≤ 1 ∧ rest <+: leastDigits ++ text := by
  have hshown : shown Int32.minValue = ['-'.toUInt8] := if_pos rfl
  have hdecimal : decimal Int32.minValue = '-'.toUInt8 :: leastDigits := by
    rw [decimal, if_pos (by decide)]
    rfl
  have hwhole : pad width (decimal Int32.minValue) = '-'.toUInt8 :: leastDigits := by
    have hle : (width : ℕ) - (decimal Int32.minValue).length = 0 := by
      rw [hdecimal, leastDigits_eq, List.length_cons, List.length_map]
      have hwidth := width.isLt
      simp only [List.length_cons, List.length_nil]
      omega
    rw [pad, hle, List.replicate_zero, List.append_nil, hdecimal]
  rw [hwhole, hshown, pad, List.length_singleton, List.cons_append]
  by_cases hwidth : width ≤ 1
  · have hnone : (width : ℕ) - 1 = 0 := Nat.sub_eq_zero_of_le hwidth
    rw [hnone, List.replicate_zero, List.append_nil, List.singleton_append, List.cons_append,
      List.prefix_cons_inj, and_iff_right hwidth]
  · -- a space stands where the first digit should
    obtain ⟨n, hn⟩ : ∃ n, (width : ℕ) - 1 = n + 1 :=
      Nat.exists_eq_succ_of_ne_zero (Nat.sub_ne_zero_of_lt (not_le.mp hwidth))
    have hdigit : ' '.toUInt8 ≠ '2'.toUInt8 := by decide
    rw [hn, List.replicate_succ, leastDigits_eq]
    simp [List.cons_prefix_cons, hdigit, hwidth]

/-- Another token than the least number: its text is that of the expansion, but for a string that
is cut where no other token begins. -/
lemma Token.fitted_cases (hroom : pos < debugBufferSize - 16)
    (ht : ∀ width, t ≠ Token.least width) :
    t.fitted pos = t.text decimal ∨ (t.fitted pos <+: t.text decimal ∧
      debugBufferSize - 16 ≤ pos + (t.fitted pos).length ∧
      debugBufferSize - 16 ≤ pos + (t.text decimal).length) := by
  have hsize : debugBufferSize = 256 := rfl
  cases t with
  | signed width v =>
    have hmin : v ≠ Int32.minValue := by
      rintro rfl
      exact ht width rfl
    exact Or.inl (congrArg (pad width) (if_neg hmin))
  | string s =>
    rw [Token.fitted, Token.text]
    rcases Nat.le_total s.text.length (debugBufferSize - 1 - pos) with hle | hle
    · exact Or.inl (List.take_of_length_le hle)
    · rw [List.length_take, Nat.min_eq_left hle]
      exact Or.inr ⟨List.take_prefix _ _, by omega, by omega⟩
  | _ => exact Or.inl rfl

/-- **The text that fits** is a prefix of the expansion exactly when no digits are missed. -/
lemma fitted_prefix_iff : fitted pos ts <+: expansion ts ↔ DigitsUnmissed pos ts := by
  induction ts generalizing pos with
  | nil =>
    refine iff_of_true List.nil_prefix fun pre width post hsplit _ => ?_
    exact absurd hsplit.symm (List.append_ne_nil_of_right_ne_nil _ (List.cons_ne_nil _ _))
  | cons t ts ih =>
    have hcons : expansion (t :: ts) = t.text decimal ++ expansion ts := List.flatMap_cons
    rw [fitted, hcons]
    by_cases hfull : debugBufferSize - 16 ≤ pos
    · rw [if_pos hfull]
      exact iff_of_true List.nil_prefix (digitsUnmissed_full hfull)
    · have hroom := not_le.mp hfull
      rw [if_neg hfull]
      by_cases ht : ∃ width, t = Token.least width
      · obtain ⟨width, rfl⟩ := ht
        rw [digitsUnmissed_least_iff hroom]
        have hsign : (Token.least width).fitted pos = pad width (shown Int32.minValue) := rfl
        have htext : (Token.least width).text decimal = pad width (decimal Int32.minValue) := rfl
        rw [hsign, htext, least_prefix_iff]
        refine and_congr_right fun hwidth => ?_
        have hlen : (pad width (shown Int32.minValue)).length = 1 := by
          rw [pad_length, show (shown Int32.minValue).length = 1 from rfl]
          exact Nat.max_eq_left hwidth
        rw [hlen]
      · have ht' : ∀ width, t ≠ Token.least width := fun width h => ht ⟨width, h⟩
        rw [digitsUnmissed_cons_iff ht']
        obtain hwhole | ⟨hpre, hlast, hlong⟩ := Token.fitted_cases hroom ht'
        · rw [hwhole, List.prefix_append_right_inj]
          exact ih
        · -- the string was cut, and nothing comes behind it
          have hnone : fitted (pos + (t.fitted pos).length) ts = [] := by
            cases ts with
            | nil => rfl
            | cons t' ts => rw [fitted, if_pos hlast]
          rw [hnone, List.append_nil]
          exact iff_of_true (hpre.trans (List.prefix_append _ _)) (digitsUnmissed_full hlong)

end Fitted

/-! ### The call -/

section Call

variable {level debugLevel : UInt32} {format : CString} {args : List Arg} {buffer : ℤ → UInt8}
  {ts : List Token}

/-- A call with its tokens. -/
lemma meets_iff (h : tokens format.text args = some ts) :
    Meets level debugLevel format args buffer (expansion ts) ↔
      enabled level debugLevel = false ∨
        ((∃ t ∈ ts, t.silent = false) ∧ DigitsUnmissed 0 ts) := by
  have hsent := run_holds ts (holds_start buffer)
  rw [List.nil_append, List.length_nil] at hsent
  rw [← fitted_prefix_iff, ← fitted_ne_nil_iff (show 0 < debugBufferSize - 16 by decide),
    ← terminate_contained_iff hsent]
  unfold Meets debuggerPrintf
  rw [loop_eq h]
  cases enabled level debugLevel with
  | false => simp
  | true => simp

/-- **The output of the debugger** stays inside of its buffers and is a prefix of the expansion of
its format, for every format with arguments that match it, exactly when the level is masked; or
some token has a text, since on the empty text the newline test reads in front of the buffer, and
the digits of the least number, which comes out as its sign, are not missed. -/
theorem debuggerPrintf_contained_iff (level debugLevel : UInt32) (format : CString)
    (args : List Arg) (buffer : ℤ → UInt8) (ts : List Token)
    (h : tokens format.text args = some ts) :
    Meets level debugLevel format args buffer (expansion ts) ↔
      enabled level debugLevel = false ∨
        ((∃ t ∈ ts, t.silent = false) ∧ DigitsUnmissed 0 ts) :=
  meets_iff h

end Call

/-- `DEBUG_LEVEL_INF`, which the default debug level lets through. -/
def debugLevelInf : UInt32 := 1

/-- The format `n=%3d`. -/
def numberFormat : CString := ⟨['n', '=', '%', '3', 'd'].map Char.toUInt8, by decide⟩

/-- The tokens of this format with the number 7. -/
def numberTokens : List Token :=
  [.literal 'n'.toUInt8, .literal '='.toUInt8, .signed 3 7]

/-- Tokens without the least number miss no digits. -/
lemma digitsUnmissed_of_none {pos : ℕ} {ts : List Token} (h : ∀ width, Token.least width ∉ ts) :
    DigitsUnmissed pos ts := by
  rintro pre width post rfl -
  exact absurd (List.mem_append_right _ List.mem_cons_self) (h width)

/-- A number with its width is printed. -/
theorem debuggerPrintf_contained_number :
    tokens numberFormat.text [.word 7] = some numberTokens ∧
      Meets debugLevelInf 3 numberFormat [.word 7] (fun _ => 0) (expansion numberTokens) := by
  have hmin : ∀ width, Token.least width ∉ numberTokens := by
    intro width h
    simp only [Token.least, numberTokens, List.mem_cons, Token.signed.injEq, List.not_mem_nil,
      reduceCtorEq, false_or, or_false] at h
    exact absurd h.2 (by decide)
  refine ⟨rfl, (debuggerPrintf_contained_iff debugLevelInf 3 numberFormat [.word 7] (fun _ => 0)
    numberTokens rfl).mpr (Or.inr ⟨⟨_, List.mem_cons_self, rfl⟩, digitsUnmissed_of_none hmin⟩)⟩

/-- The format `%d!`. -/
def leastFormat : CString := ⟨['%', 'd', '!'].map Char.toUInt8, by decide⟩

/-- The empty format, and the conversion of an empty string: the byte in front of the buffer
is read. The least number in front of another character: the digits are missing. -/
theorem debuggerPrintf_reads_before :
    ((debuggerPrintf debugLevelInf 3 ⟨[], by decide⟩ [] fun _ => 0).map
        (Option.map fun p => p.out.accesses) = some (some [-1, 0]) ∧
      (¬ Meets debugLevelInf 3 ⟨[], by decide⟩ [] (fun _ => 0) (expansion [])) ∧
      ¬ Meets debugLevelInf 3 ⟨['%', 's'].map Char.toUInt8, by decide⟩ [.string ⟨[], by decide⟩]
        (fun _ => 0) (expansion [.string ⟨[], by decide⟩])) ∧
    (debuggerPrintf debugLevelInf 3 leastFormat [.word 0x80000000] fun _ => 0).map
        (Option.map fun p => (List.range p.ret).map fun i : ℕ => p.out.buffer i) =
      some (some (['-', '!'].map Char.toUInt8 ++ [0])) ∧
    ¬ Meets debugLevelInf 3 leastFormat [.word 0x80000000] (fun _ => 0)
      (expansion [.least 0, .literal '!'.toUInt8]) := by
  have henabled : enabled debugLevelInf 3 = true := by decide
  refine ⟨⟨by decide, ?_, ?_⟩, by decide, ?_⟩
  · rw [meets_iff rfl, henabled]
    simp
  · rw [meets_iff rfl, henabled]
    simp [Token.silent]
  · rw [meets_iff rfl, henabled, digitsUnmissed_least_iff (by decide), leastDigits_eq]
    have hfitted : fitted (0 + 1) [.literal '!'.toUInt8] = ['!'.toUInt8] := rfl
    have hdigit : '!'.toUInt8 ≠ '2'.toUInt8 := by decide
    simp [hfitted, List.cons_prefix_cons, hdigit]

end A733Boot.Ar100s.Debugger
