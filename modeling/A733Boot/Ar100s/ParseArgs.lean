/-
The tokenizer of the shell, `parseargs` of `ar100s/system/debugger/shell_cmd.c`.

The line stands in a memory that goes on behind its terminator. What is read of it and which
entries of `argv` are written is recorded.

* `Scan`, `branch`, `loop`, `parseargs`: the code; the loop has a bound on its rounds;
* `turn`: what a character does to the scanner in each of its states, with `branch_eq`;
* `starts`, `dangling`: the same scanner over a list, the places of the entries and whether a
  quote is opened by the last character;
* `Goes`: how far the scanner goes on, with `scan_induction` along the characters it looks at;
* **`loop_spec`**, `loop_conv`: the loop over a line, and what a loop that ended says of the line.
-/
import A733Boot.Ar100s.Numbers

namespace A733Boot.Ar100s.ParseArgs

open Numbers

/-! ### The code -/

def maxCmdArgs : ℕ := 5

inductive ParseState
  | whitespace | token | string | escape
deriving DecidableEq

/-- The variables of `parseargs`: pointers are places relative to the start of the line, and an
entry of `argv` is null or such a place. The record has the places of the line that were read,
and the entries of `argv` that were written. -/
structure Scan where
  mem : ℕ → UInt8
  argstr : ℕ
  argc : ℕ
  argv : ℕ → Option ℕ
  lastState : ParseState
  reads : List ℕ
  argvWrites : List ℕ

namespace Scan

/-- `*argstr = 0`. -/
def clear (s : Scan) : Scan := { s with mem := Function.update s.mem s.argstr 0 }

/-- `argv[argc++] = p`. -/
def push (s : Scan) (p : ℕ) : Scan :=
  { s with
    argv := Function.update s.argv s.argc (some p)
    argc := s.argc + 1
    argvWrites := s.argvWrites ++ [s.argc] }

/-- `c = *(++argstr)`. -/
def advance (s : Scan) : Scan :=
  { s with argstr := s.argstr + 1, reads := s.reads ++ [s.argstr + 1] }

end Scan

def isSpace (c : UInt8) : Bool :=
  c = ' '.toUInt8 || c = '\r'.toUInt8 || c = '\n'.toUInt8 || c = '\t'.toUInt8

/-- The body of the loop, up to the next character. The state `escape` is never entered; it
would go back to `stackedState`, which stays as it is at the start. -/
def branch (c : UInt8) (s : Scan) : Scan :=
  if s.lastState = .escape then { s with lastState := .whitespace }
  else if s.lastState = .string then
    if c = '"'.toUInt8 then { s.clear with lastState := .whitespace }
    else { s with lastState := .string }
  else if isSpace c then { s.clear with lastState := .whitespace }
  else if c = '"'.toUInt8 then
    { s.clear with lastState := .string, argstr := s.argstr + 1 }.push (s.argstr + 1)
  else
    { if s.lastState = .whitespace then s.push s.argstr else s with lastState := .token }

/-- The loop at the character `c`. -/
def loop : ℕ → UInt8 → Scan → Option Scan
  | 0, _, _ => none
  | fuel + 1, c, s =>
    if c ≠ 0 ∧ s.argc ≤ maxCmdArgs then
      if c = ';'.toUInt8 ∧ s.lastState ≠ .string ∧ s.lastState ≠ .escape then some s
      else
        let s := (branch c s).advance
        loop fuel (s.mem s.argstr) s
    else some s

/-- The state before the loop, with the first character read. -/
def start (mem : ℕ → UInt8) (argv : ℕ → Option ℕ) : Scan where
  mem := mem
  argstr := 0
  argc := 0
  argv := argv
  lastState := .whitespace
  reads := [0]
  argvWrites := []

/-- Behind the loop: the null pointer behind the entries, and the semicolon. -/
def finish (s : Scan) : Scan :=
  let s := { s with
    argv := Function.update s.argv s.argc none
    argvWrites := s.argvWrites ++ [s.argc]
    reads := s.reads ++ [s.argstr] }
  if s.mem s.argstr = ';'.toUInt8 then { s.clear with argstr := s.argstr + 1 } else s

def parseargs (fuel : ℕ) (mem : ℕ → UInt8) (argv : ℕ → Option ℕ) : Option Scan :=
  (loop fuel (mem 0) (start mem argv)).map finish

/-! ### One character -/

/-- What a character does: the place of a new entry from here on, whether the character behind
is skipped, whether this one is cleared, and the state that follows. -/
structure Turn where
  entry : Option ℕ
  skip : Bool
  clear : Bool
  next : ParseState

def turn (m : ParseState) (c : UInt8) : Turn :=
  if m = .escape then ⟨none, false, false, .whitespace⟩
  else if m = .string then
    if c = '"'.toUInt8 then ⟨none, false, true, .whitespace⟩ else ⟨none, false, false, .string⟩
  else if isSpace c then ⟨none, false, true, .whitespace⟩
  else if c = '"'.toUInt8 then ⟨some 1, true, true, .string⟩
  else ⟨if m = .whitespace then some 0 else none, false, false, .token⟩

/-- The state behind such a character. -/
def Turn.apply (t : Turn) (s : Scan) : Scan where
  mem := if t.clear then Function.update s.mem s.argstr 0 else s.mem
  argstr := if t.skip then s.argstr + 1 else s.argstr
  argc := s.argc + t.entry.toList.length
  argv := t.entry.elim s.argv fun o => Function.update s.argv s.argc (some (s.argstr + o))
  lastState := t.next
  reads := s.reads
  argvWrites := s.argvWrites ++ t.entry.toList.map fun _ => s.argc

lemma branch_eq (c : UInt8) (s : Scan) : branch c s = (turn s.lastState c).apply s := by
  obtain ⟨mem, argstr, argc, argv, lastState, reads, argvWrites⟩ := s
  by_cases hescape : lastState = .escape
  · simp [branch, turn, Turn.apply, hescape]
  by_cases hstring : lastState = .string
  · by_cases h : c = '"'.toUInt8
    · simp [branch, turn, Turn.apply, Scan.clear, hstring, h]
    · simp [branch, turn, Turn.apply, hstring, h]
  -- outside of a string only the start of a token tells the two other states apart
  by_cases hspace : isSpace c = true
  · simp [branch, turn, Turn.apply, Scan.clear, hescape, hstring, hspace]
  by_cases h : c = '"'.toUInt8
  · subst h
    simp [branch, turn, Turn.apply, Scan.clear, Scan.push, hescape, hstring, hspace]
  by_cases hws : lastState = .whitespace
  · simp [branch, turn, Turn.apply, Scan.push, hspace, h, hws]
  · simp [branch, turn, Turn.apply, hescape, hstring, hspace, h, hws]

/-! ### The scanner over a list -/

/-- The semicolon that ends the command. -/
def stops (m : ParseState) (c : UInt8) : Prop :=
  c = ';'.toUInt8 ∧ m ≠ .string ∧ m ≠ .escape

instance (m : ParseState) (c : UInt8) : Decidable (stops m c) :=
  inferInstanceAs (Decidable (_ ∧ _))

/-- The places of the entries. -/
def starts : ParseState → List UInt8 → List ℕ
  | _, [] => []
  | m, c :: l =>
    if stops m c then []
    else
      (turn m c).entry.toList ++
        if (turn m c).skip then
          match l with
          | [] => []
          | _ :: l => (starts (turn m c).next l).map (· + 2)
        else (starts (turn m c).next l).map (· + 1)

/-- The last character opens a quote. -/
def dangling : ParseState → List UInt8 → Bool
  | _, [] => false
  | m, c :: l =>
    if stops m c then false
    else
      if (turn m c).skip then
        match l with
        | [] => true
        | _ :: l => dangling (turn m c).next l
      else dangling (turn m c).next l

section Lists

variable {m : ParseState} {c : UInt8} {l : List UInt8}

lemma starts_stop (h : stops m c) : starts m (c :: l) = [] := by
  rw [starts.eq_def]
  simp only [if_pos h]

lemma starts_step (h : ¬ stops m c) (hskip : (turn m c).skip = false) : starts m (c :: l) =
    (turn m c).entry.toList ++ (starts (turn m c).next l).map (· + 1) := by
  rw [starts.eq_def]
  simp only [if_neg h, hskip, Bool.false_eq_true, if_false]

lemma starts_skip (h : ¬ stops m c) (hskip : (turn m c).skip = true) (b : UInt8) :
    starts m (c :: b :: l) =
      (turn m c).entry.toList ++ (starts (turn m c).next l).map (· + 2) := by
  rw [starts.eq_def]
  simp only [if_neg h, hskip, if_true]

lemma dangling_stop (h : stops m c) : dangling m (c :: l) = false := by
  rw [dangling.eq_def]
  simp only [if_pos h]

lemma dangling_last (h : ¬ stops m c) (hskip : (turn m c).skip = true) :
    dangling m [c] = true := by
  rw [dangling.eq_def]
  simp only [if_neg h, hskip, if_true]

/-- From the character `c` in front of `l` the scanner goes on to `l'`, which begins `d`
characters further. -/
inductive Goes (m : ParseState) (c : UInt8) : List UInt8 → List UInt8 → ℕ → Prop
  | step (l : List UInt8) (hstop : ¬ stops m c) (hskip : (turn m c).skip = false) : Goes m c l l 1
  | skip (b : UInt8) (l : List UInt8) (hstop : ¬ stops m c) (hskip : (turn m c).skip = true) :
      Goes m c (b :: l) l 2

namespace Goes

variable {l' : List UInt8} {d : ℕ}

lemma not_stops (h : Goes m c l l' d) : ¬ stops m c := by
  cases h with
  | step _ hstop _ => exact hstop
  | skip _ _ hstop _ => exact hstop

lemma pos (h : Goes m c l l' d) : 0 < d := by
  cases h with
  | step => exact Nat.one_pos
  | skip => exact Nat.two_pos

lemma length (h : Goes m c l l' d) : (c :: l).length = d + l'.length := by
  cases h with
  | step => exact Nat.add_comm _ 1
  | skip => exact Nat.add_comm _ 2

lemma starts (h : Goes m c l l' d) : starts m (c :: l) =
    (turn m c).entry.toList ++ (ParseArgs.starts (turn m c).next l').map (· + d) := by
  cases h with
  | step _ hstop hskip => exact starts_step hstop hskip
  | skip b _ hstop hskip => exact starts_skip hstop hskip b

lemma dangling (h : Goes m c l l' d) :
    dangling m (c :: l) = ParseArgs.dangling (turn m c).next l' := by
  rw [ParseArgs.dangling.eq_def]
  cases h with
  | step _ hstop hskip => simp only [if_neg hstop, hskip, Bool.false_eq_true, if_false]
  | skip b _ hstop hskip => simp only [if_neg hstop, hskip, if_true]

/-- The place of an entry: this character, or the one behind a quote. -/
lemma entry_lt (h : Goes m c l l' d) {o : ℕ} (ho : o ∈ (turn m c).entry.toList) : o < d := by
  cases h with
  | step _ hstop hskip =>
    revert ho hskip
    rw [turn]
    split_ifs <;> simp
  | skip b _ hstop hskip =>
    revert ho hskip
    rw [turn]
    split_ifs <;> simp +contextual

end Goes

/-- Induction along the characters that the scanner looks at. -/
@[elab_as_elim] lemma scan_induction {P : ParseState → List UInt8 → Prop}
    (nil : ∀ m, P m []) (stop : ∀ m c l, stops m c → P m (c :: l))
    (last : ∀ m c, ¬ stops m c → (turn m c).skip = true → P m [c])
    (go : ∀ m c l l' d, Goes m c l l' d → P (turn m c).next l' → P m (c :: l))
    (m : ParseState) (l : List UInt8) : P m l := by
  induction hn : l.length using Nat.strong_induction_on generalizing m l with
  | _ n ih =>
    subst hn
    cases l with
    | nil => exact nil m
    | cons c l =>
      by_cases hstop : stops m c
      · exact stop m c l hstop
      · cases hskip : (turn m c).skip with
        | false => exact go m c l l 1 (.step l hstop hskip) (ih l.length (by simp) _ l rfl)
        | true =>
          cases l with
          | nil => exact last m c hstop hskip
          | cons b l =>
            exact go m c (b :: l) l 2 (.skip b l hstop hskip) (ih l.length (by simp) _ l rfl)

/-- The entries are inside the line, unless a quote dangles. -/
lemma starts_lt (m : ParseState) (l : List UInt8) (hd : dangling m l = false) :
    ∀ p ∈ starts m l, p < l.length := by
  induction m, l using scan_induction with
  | nil m => exact fun p hp => absurd hp List.not_mem_nil
  | stop m c l hstop =>
    rw [starts_stop hstop]
    exact fun p hp => absurd hp List.not_mem_nil
  | last m c hstop hskip =>
    rw [dangling_last hstop hskip] at hd
    cases hd
  | go m c l l' d hgo ih =>
    rw [hgo.dangling] at hd
    rw [hgo.starts, List.forall_mem_append, List.forall_mem_map, hgo.length]
    refine ⟨fun o ho => Nat.lt_add_right _ (hgo.entry_lt ho), fun p hp => ?_⟩
    rw [Nat.add_comm d]
    exact Nat.add_lt_add_right (ih hd p hp) d

end Lists

/-! ### The loop -/

/-- The rest of the line stands at the pointer. -/
def Rest (l : List UInt8) (s : Scan) : Prop :=
  0 ∉ l ∧ Stands l fun j => s.mem (s.argstr + j)

/-- The state of the scanner at the next character. -/
def next (c : UInt8) (s : Scan) : Scan := ((turn s.lastState c).apply s).advance

section Rounds

variable {s s' : Scan} {c : UInt8} {l : List UInt8} {fuel : ℕ}

lemma Rest.char_nil (h : Rest [] s) : s.mem s.argstr = 0 := h.2 0 le_rfl

lemma Rest.char_cons (h : Rest (c :: l) s) : s.mem s.argstr = c ∧ c ≠ 0 :=
  ⟨h.2 0 (Nat.zero_le _), (List.ne_of_not_mem_cons h.1).symm⟩

/-- What is cleared is behind the pointer. -/
lemma next_mem (c : UInt8) (s : Scan) {j : ℕ} (h : j ≠ s.argstr) : (next c s).mem j = s.mem j := by
  show (if (turn s.lastState c).clear then Function.update s.mem s.argstr 0 else s.mem) j = s.mem j
  split
  · exact Function.update_of_ne h 0 s.mem
  · rfl

lemma next_argstr (c : UInt8) (s : Scan) :
    (next c s).argstr = s.argstr + if (turn s.lastState c).skip then 2 else 1 := by
  show (if (turn s.lastState c).skip then s.argstr + 1 else s.argstr) + 1 = _
  split <;> rfl

lemma next_argc (c : UInt8) (s : Scan) :
    (next c s).argc = s.argc + (turn s.lastState c).entry.toList.length := rfl

lemma next_reads (c : UInt8) (s : Scan) :
    (next c s).reads = s.reads ++ [(next c s).argstr] := rfl

lemma Goes.argstr {l' : List UInt8} {d : ℕ} (h : Goes s.lastState c l l' d) :
    (next c s).argstr = s.argstr + d := by
  rw [next_argstr]
  cases h with
  | step _ hstop hskip => rw [hskip, if_neg (by decide)]
  | skip b _ hstop hskip => rw [hskip, if_pos rfl]

lemma Rest.drop {l' : List UInt8} {d : ℕ} (h : Rest (c :: l) s) (hgo : Goes s.lastState c l l' d) :
    Rest l' (next c s) := by
  have hsplit : l' = (c :: l).drop d := by
    cases hgo <;> rfl
  have hpos := hgo.pos
  refine ⟨fun h0 => h.1 (List.mem_of_mem_drop (hsplit ▸ h0)), fun j hj => ?_⟩
  show (next c s).mem ((next c s).argstr + j) = _
  rw [hgo.argstr, next_mem c s (by omega), Nat.add_assoc]
  have hbyte := h.2 (d + j) (by rw [hgo.length]; omega)
  rw [hsplit, List.getD_eq_getElem?_getD, List.getElem?_drop, ← List.getD_eq_getElem?_getD]
  exact hbyte

lemma loop_round (hc : c ≠ 0) (hargc : s.argc ≤ maxCmdArgs) (hstop : ¬ stops s.lastState c) :
    loop (fuel + 1) c s = loop fuel ((next c s).mem (next c s).argstr) (next c s) := by
  rw [loop, if_pos ⟨hc, hargc⟩, if_neg (show ¬ (c = ';'.toUInt8 ∧ _) from hstop), branch_eq]
  rfl

lemma loop_end (hstop : c = 0 ∨ stops s.lastState c) : loop (fuel + 1) c s = some s := by
  rw [loop]
  split
  · rename_i h
    rw [if_pos (show c = ';'.toUInt8 ∧ _ from hstop.resolve_left h.1)]
  · rfl

/-- The loop only adds to its entries and its reads. -/
lemma loop_mono (h : loop fuel c s = some s') : s.argc ≤ s'.argc ∧ ∀ i ∈ s.reads, i ∈ s'.reads := by
  induction fuel generalizing c s with
  | zero => cases h
  | succ fuel ih =>
    by_cases hend : c = 0 ∨ stops s.lastState c
    · rw [loop_end hend] at h
      obtain rfl := Option.some.inj h
      exact ⟨le_rfl, fun _ hi => hi⟩
    · rw [not_or] at hend
      by_cases hargc : s.argc ≤ maxCmdArgs
      · rw [loop_round hend.1 hargc hend.2] at h
        obtain ⟨hle, hreads⟩ := ih h
        rw [next_argc] at hle
        refine ⟨by omega, fun i hi => hreads i ?_⟩
        rw [next_reads]
        exact List.mem_append.mpr (Or.inl hi)
      · rw [loop, if_neg fun hgo => hargc hgo.2] at h
        obtain rfl := Option.some.inj h
        exact ⟨le_rfl, fun _ hi => hi⟩

lemma loop_fuel (h : loop fuel c s = some s') : ∃ f, fuel = f + 1 := by
  cases fuel with
  | zero => cases h
  | succ fuel => exact ⟨fuel, rfl⟩

/-- A loop that ended with less entries than `argv` holds was not stopped by their number. -/
lemma loop_next (hrest : Rest (c :: l) s) (hstop : ¬ stops s.lastState c)
    (hloop : loop fuel (s.mem s.argstr) s = some s') (hargc : s'.argc < maxCmdArgs) :
    ∃ f, loop f ((next c s).mem (next c s).argstr) (next c s) = some s' := by
  obtain ⟨f, rfl⟩ := loop_fuel hloop
  have hle := (loop_mono hloop).1
  rw [hrest.char_cons.1, loop_round hrest.char_cons.2 (by omega) hstop] at hloop
  exact ⟨f, hloop⟩

/-- A loop that ended with less entries than `argv` holds went over the whole line: it found
all of its entries, or ran over the end behind a dangling quote. -/
lemma loop_conv (m : ParseState) (l : List UInt8) (hm : s.lastState = m) (hrest : Rest l s)
    (hloop : loop fuel (s.mem s.argstr) s = some s') (hargc : s'.argc < maxCmdArgs) :
    (dangling m l = true ∧ s.argstr + l.length + 1 ∈ s'.reads) ∨
      (dangling m l = false ∧ s'.argc = s.argc + (starts m l).length) := by
  induction m, l using scan_induction generalizing s fuel with
  | nil m =>
    obtain ⟨f, rfl⟩ := loop_fuel hloop
    rw [loop_end (Or.inl hrest.char_nil)] at hloop
    obtain rfl := Option.some.inj hloop
    exact Or.inr ⟨rfl, rfl⟩
  | stop m c l hstop =>
    subst hm
    obtain ⟨f, rfl⟩ := loop_fuel hloop
    rw [hrest.char_cons.1, loop_end (Or.inr hstop)] at hloop
    obtain rfl := Option.some.inj hloop
    rw [starts_stop hstop]
    exact Or.inr ⟨dangling_stop hstop, rfl⟩
  | last m c hstop hskip =>
    subst hm
    obtain ⟨f, hnext⟩ := loop_next hrest hstop hloop hargc
    refine Or.inl ⟨dangling_last hstop hskip, (loop_mono hnext).2 _ ?_⟩
    rw [next_reads, next_argstr, hskip]
    exact List.mem_append.mpr (Or.inr (List.mem_singleton.mpr rfl))
  | go m c l l' d hgo ih =>
    subst hm
    obtain ⟨f, hnext⟩ := loop_next hrest hgo.not_stops hloop hargc
    rw [hgo.dangling, hgo.starts, List.length_append, List.length_map, ← Nat.add_assoc,
      ← next_argc, hgo.length, ← Nat.add_assoc, ← hgo.argstr]
    exact ih rfl (hrest.drop hgo) hnext

/-- What the loop has done between `s` and `s'`: the entries at these places are in `argv`, one
behind the other, and nothing is read behind `last`. -/
structure Scanned (s : Scan) (places : List ℕ) (last : ℕ) (s' : Scan) : Prop where
  argc : s'.argc = s.argc + places.length
  writes : s'.argvWrites = s.argvWrites ++ List.range' s.argc places.length
  kept : ∀ k < s.argc, s'.argv k = s.argv k
  entries : ∀ k p, places[k]? = some p → s'.argv (s.argc + k) = some (s.argstr + p)
  reads : ∀ i ∈ s'.reads, i ∈ s.reads ∨ i ≤ last
  argstr : s'.argstr ≤ last
  cleared : ∀ j, s'.mem j = s.mem j ∨ s'.mem j = 0

/-- Nothing was done. -/
lemma Scanned.refl {last : ℕ} (h : s.argstr ≤ last) : Scanned s [] last s where
  argc := rfl
  writes := (List.append_nil _).symm
  kept _ _ := rfl
  entries _ _ hp := nomatch hp
  reads _ hi := Or.inl hi
  argstr := h
  cleared _ := Or.inl rfl

lemma next_cleared (c : UInt8) (s : Scan) (j : ℕ) :
    (next c s).mem j = s.mem j ∨ (next c s).mem j = 0 := by
  by_cases hj : j = s.argstr
  · show (if (turn s.lastState c).clear then Function.update s.mem s.argstr 0 else s.mem) j = _ ∨
      (if (turn s.lastState c).clear then Function.update s.mem s.argstr 0 else s.mem) j = 0
    split
    · rw [hj, Function.update_self]
      exact Or.inr rfl
    · exact Or.inl rfl
  · exact Or.inl (next_mem c s hj)

/-- A new entry is behind those that there are. -/
lemma next_argv (c : UInt8) (s : Scan) {k : ℕ} (hk : k < s.argc) :
    (next c s).argv k = s.argv k := by
  show ((turn s.lastState c).entry.elim s.argv fun o =>
    Function.update s.argv s.argc (some (s.argstr + o))) k = _
  cases (turn s.lastState c).entry with
  | none => rfl
  | some o => exact Function.update_of_ne (Nat.ne_of_lt hk) _ _

/-- The entries of a character and of what is done behind it. -/
lemma Scanned.cons_entries {places : List ℕ} {last d : ℕ}
    (hd : (next c s).argstr = s.argstr + d) (h : Scanned (next c s) places last s') {k p : ℕ}
    (hp : ((turn s.lastState c).entry.toList ++ places.map (· + d))[k]? = some p) :
    s'.argv (s.argc + k) = some (s.argstr + p) := by
  have hargc := next_argc c s
  -- an entry of the places behind is shifted by the characters up to there
  have hshift : ∀ {k p}, (places.map (· + d))[k]? = some p →
      s'.argv ((next c s).argc + k) = some (s.argstr + p) := by
    intro k p hp
    rw [List.getElem?_map, Option.map_eq_some_iff] at hp
    obtain ⟨q, hq, rfl⟩ := hp
    rw [h.entries k q hq, hd, Nat.add_assoc, Nat.add_comm d]
  cases hentry : (turn s.lastState c).entry with
  | none =>
    rw [hentry, Option.toList_none] at hp hargc
    rw [← Nat.add_zero s.argc, ← List.length_nil, ← hargc]
    exact hshift hp
  | some o =>
    rw [hentry, Option.toList_some] at hp hargc
    cases k with
    | zero =>
      obtain rfl : o = p := Option.some.inj hp
      have hargv : (next c s).argv = (turn s.lastState c).entry.elim s.argv fun o =>
        Function.update s.argv s.argc (some (s.argstr + o)) := rfl
      rw [Nat.add_zero, h.kept s.argc (hargc ▸ Nat.lt_succ_self _), hargv, hentry]
      exact Function.update_self _ _ _
    | succ k =>
      rw [Nat.add_comm k, ← Nat.add_assoc, ← List.length_singleton, ← hargc]
      exact hshift hp

/-- A character, and what is done behind it. -/
lemma Scanned.cons {places : List ℕ} {last d : ℕ} (hd : (next c s).argstr = s.argstr + d)
    (hlast : s.argstr + d ≤ last) (h : Scanned (next c s) places last s') :
    Scanned s ((turn s.lastState c).entry.toList ++ places.map (· + d)) last s' := by
  have hargc := next_argc c s
  refine ⟨?_, ?_, fun k hk => ?_, fun k p hp => h.cons_entries hd hp, fun i hi => ?_, h.argstr,
    fun j => ?_⟩
  · rw [h.argc, hargc, List.length_append, List.length_map, Nat.add_assoc]
  · have hwrites : (next c s).argvWrites = s.argvWrites ++
      (turn s.lastState c).entry.toList.map fun _ => s.argc := rfl
    rw [h.writes, hwrites, hargc, List.append_assoc, List.length_append, List.length_map]
    cases (turn s.lastState c).entry with
    | none => simp
    | some o => simp [List.range'_succ, Nat.add_comm 1]
  · rw [h.kept k (by omega), next_argv c s hk]
  · rcases h.reads i hi with hold | hle
    · rw [next_reads, List.mem_append, List.mem_singleton] at hold
      rcases hold with hold | rfl
      · exact Or.inl hold
      · exact Or.inr (hd ▸ hlast)
    · exact Or.inr hle
  · rcases h.cleared j with heq | h0
    · rw [heq]
      exact next_cleared c s j
    · exact Or.inr h0

/-- A round of the loop, and the rounds behind it. -/
lemma loop_cons {places : List ℕ} {last d : ℕ} (hrest : Rest (c :: l) s)
    (hstop : ¬ stops s.lastState c) (hd : (next c s).argstr = s.argstr + d)
    (hlast : (next c s).argstr ≤ last) (hargc : (next c s).argc + places.length ≤ maxCmdArgs)
    (h : ∃ s', loop fuel ((next c s).mem (next c s).argstr) (next c s) = some s' ∧
      Scanned (next c s) places last s') :
    ∃ s', loop (fuel + 1) (s.mem s.argstr) s = some s' ∧
      Scanned s ((turn s.lastState c).entry.toList ++ places.map (· + d)) last s' := by
  obtain ⟨s', hloop, hscan⟩ := h
  have hopen : s.argc ≤ maxCmdArgs := by
    have := next_argc c s
    omega
  rw [hrest.char_cons.1, loop_round hrest.char_cons.2 hopen hstop]
  exact ⟨s', hloop, hscan.cons hd (hd ▸ hlast)⟩

/-- **The loop over a line** without a dangling quote, with entries enough for it. -/
lemma loop_spec (m : ParseState) (l : List UInt8) (hm : s.lastState = m) (hrest : Rest l s)
    (hd : dangling m l = false) (hargc : s.argc + (starts m l).length ≤ maxCmdArgs)
    (hfuel : l.length < fuel) :
    ∃ s', loop fuel (s.mem s.argstr) s = some s' ∧
      Scanned s (starts m l) (s.argstr + l.length) s' := by
  obtain ⟨fuel, rfl⟩ : ∃ f, fuel = f + 1 := ⟨fuel - 1, by omega⟩
  induction m, l using scan_induction generalizing s fuel with
  | nil m =>
    rw [loop_end (Or.inl hrest.char_nil)]
    exact ⟨s, rfl, .refl le_rfl⟩
  | stop m c l hstop =>
    subst hm
    rw [hrest.char_cons.1, loop_end (Or.inr hstop), starts_stop hstop]
    exact ⟨s, rfl, .refl (Nat.le_add_right _ _)⟩
  | last m c hstop hskip =>
    rw [dangling_last hstop hskip] at hd
    cases hd
  | go m c l l' d hgo ih =>
    subst hm
    rw [hgo.dangling] at hd
    rw [hgo.starts, List.length_append, List.length_map, ← Nat.add_assoc, ← next_argc] at hargc
    have hpos := hgo.pos
    have hlen := hgo.length
    rw [List.length_cons] at hlen hfuel
    obtain ⟨f, rfl⟩ : ∃ f, fuel = f + 1 := ⟨fuel - 1, by omega⟩
    rw [hgo.starts, hgo.length, ← Nat.add_assoc, ← hgo.argstr]
    exact loop_cons hrest hgo.not_stops hgo.argstr (Nat.le_add_right _ _) hargc
      (ih rfl (hrest.drop hgo) hd hargc f (by omega))

end Rounds

end A733Boot.Ar100s.ParseArgs
