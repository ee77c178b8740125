/-
The bounds of the tokenizer of the shell.

* `words`: the maximal runs of characters that are no white space, before the first semicolon,
  with `starts_words`: they are the entries of a line without quotes;
* `loop_unquoted`, `stands_starts`: behind the loop over such a line its white space is cleared,
  so that each entry points at its word;
* `Tokenizes`, `Meets`: a line that is taken apart inside its bounds;
* **`parseargs_tokenizes_iff`**: a line is so exactly when it has at most four entries and no
  dangling quote.
-/
import A733Boot.Ar100s.ParseArgs
import Mathlib.Data.List.Forall2

namespace A733Boot.Ar100s.ParseArgs

open Numbers

/-! ### Lines without quotes -/

/-- The maximal runs of characters that are no white space, before the first semicolon. -/
def words (line : List UInt8) : List (List UInt8) :=
  ((line.takeWhile (· ≠ ';'.toUInt8)).splitOnP isSpace).filter (· ≠ [])

/-- The rest of a word: up to white space, a semicolon or the end. -/
def plain (c : UInt8) : Bool := !isSpace c && c ≠ ';'.toUInt8

/-- The command, with its white space cleared. -/
def blanked (line : List UInt8) : List UInt8 :=
  (line.takeWhile (· ≠ ';'.toUInt8)).map fun c => if isSpace c then 0 else c

section Unquoted

variable {m : ParseState} {s s' : Scan} {c : UInt8} {l : List UInt8} {f : ℕ → UInt8} {fuel : ℕ}

/-- What a character that is no quote does outside of a string. -/
lemma turn_unquoted (hm : m = .whitespace ∨ m = .token) (hc : c ≠ '"'.toUInt8) :
    turn m c = if isSpace c then ⟨none, false, true, .whitespace⟩
      else ⟨if m = .whitespace then some 0 else none, false, false, .token⟩ := by
  rcases hm with rfl | rfl
  · rw [turn, if_neg (by decide), if_neg (by decide), if_neg hc]
  · rw [turn, if_neg (by decide), if_neg (by decide), if_neg hc]

/-- The entries of a line without quotes are its words: the runs that begin at the places of
the entries, and where the scanner is inside of a word, those behind it. -/
lemma starts_words (l : List UInt8) (hq : '"'.toUInt8 ∉ l) :
    ((starts .whitespace l).map fun p => (l.drop p).takeWhile plain) = words l ∧
    ((starts .token l).map fun p => (l.drop p).takeWhile plain)
      = (((l.takeWhile (· ≠ ';'.toUInt8)).splitOnP isSpace).tail).filter (· ≠ []) ∧
    ((l.takeWhile (· ≠ ';'.toUInt8)).splitOnP isSpace).head? = some (l.takeWhile plain) := by
  induction l with
  | nil => exact ⟨rfl, rfl, rfl⟩
  | cons c l ih =>
    obtain ⟨hword, htail, hhead⟩ := ih fun h => hq (List.mem_cons_of_mem _ h)
    have hc : c ≠ '"'.toUInt8 := fun h => hq (h ▸ List.mem_cons_self)
    have hshift : ∀ ps : List ℕ, (ps.map (· + 1)).map (fun p => ((c :: l).drop p).takeWhile plain)
        = ps.map fun p => (l.drop p).takeWhile plain := by
      intro ps
      rw [List.map_map]
      rfl
    by_cases hsemi : c = ';'.toUInt8
    · -- the command ends here, as at the end of the line
      have hstop : ∀ m, m ≠ .string ∧ m ≠ .escape → stops m c := fun m hm => ⟨hsemi, hm⟩
      rw [starts_stop (hstop _ (by decide)), starts_stop (hstop _ (by decide)), words,
        List.takeWhile_cons_of_neg (by simpa using hsemi),
        List.takeWhile_cons_of_neg (by simp [plain, hsemi])]
      exact ⟨rfl, rfl, rfl⟩
    · have hgo : ∀ m, ¬ stops m c := fun m h => hsemi h.1
      have hcut : (c :: l).takeWhile (· ≠ ';'.toUInt8) = c :: l.takeWhile (· ≠ ';'.toUInt8) :=
        List.takeWhile_cons_of_pos (by simpa using hsemi)
      have hws := turn_unquoted (Or.inl rfl) hc
      have htok := turn_unquoted (Or.inr rfl) hc
      by_cases hspace : isSpace c = true
      · rw [if_pos hspace] at hws htok
        rw [starts_step (hgo _) (by rw [hws]), starts_step (hgo _) (by rw [htok]), hws, htok, words,
          hcut, List.splitOnP_cons_eq_if_modifyHead, if_pos hspace,
          List.takeWhile_cons_of_neg (by simp [plain, hspace])]
        simp only [Option.toList_none, List.nil_append, hshift, hword]
        exact ⟨rfl, rfl, rfl⟩
      · rw [if_neg hspace] at hws htok
        obtain ⟨h, t, hsplit⟩ := List.exists_cons_of_ne_nil
          (List.splitOnP_ne_nil isSpace (l.takeWhile (· ≠ ';'.toUInt8)))
        rw [hsplit] at htail hhead
        obtain rfl : h = l.takeWhile plain := Option.some.inj hhead
        rw [starts_step (hgo _) (by rw [hws]), starts_step (hgo _) (by rw [htok]), hws, htok, words,
          hcut, List.splitOnP_cons_eq_if_modifyHead, if_neg hspace, hsplit]
        have hplain : (c :: l).takeWhile plain = c :: l.takeWhile plain :=
          List.takeWhile_cons_of_pos (by simp [plain, hspace, hsemi])
        refine ⟨?_, ?_, congrArg some hplain.symm⟩
        · rw [if_pos rfl, Option.toList_some, List.map_append, hshift, htail, List.map_singleton,
            List.drop_zero, hplain, List.modifyHead_cons, List.filter_cons_of_pos (by simp)]
          rfl
        · rw [if_neg (by decide), Option.toList_none, List.nil_append, hshift, htail]
          rfl

lemma stands_cons {a : UInt8} :
    Stands (a :: l) f ↔ f 0 = a ∧ Stands l fun j => f (j + 1) := by
  constructor
  · intro h
    exact ⟨h 0 (Nat.zero_le _), fun j hj => h (j + 1) (Nat.succ_le_succ hj)⟩
  · rintro ⟨h0, h⟩ (_ | j) hj
    · exact h0
    · exact h j (Nat.le_of_succ_le_succ hj)

lemma blanked_stop : blanked (';'.toUInt8 :: l) = [] := by
  rw [blanked, List.takeWhile_cons_of_neg (by simp), List.map_nil]

lemma blanked_cons (h : c ≠ ';'.toUInt8) :
    blanked (c :: l) = (if isSpace c then 0 else c) :: blanked l := by
  rw [blanked, List.takeWhile_cons_of_pos (by simpa using h), List.map_cons, blanked]

/-- The word at the start of a cleared command ends at a NUL. -/
lemma stands_word (l : List UInt8) {f : ℕ → UInt8} (h : Stands (blanked l) f) :
    Stands (l.takeWhile plain) f := by
  induction l generalizing f with
  | nil => exact h
  | cons c l ih =>
    by_cases hsemi : c = ';'.toUInt8
    · subst hsemi
      rw [blanked_stop] at h
      rw [List.takeWhile_cons_of_neg (by simp [plain])]
      exact h
    · rw [blanked_cons hsemi, stands_cons] at h
      by_cases hspace : isSpace c = true
      · rw [List.takeWhile_cons_of_neg (by simp [plain, hspace])]
        rw [if_pos hspace] at h
        intro j hj
        obtain rfl : j = 0 := Nat.le_zero.mp hj
        exact h.1
      · rw [List.takeWhile_cons_of_pos (by simp [plain, hspace, hsemi]), stands_cons]
        rw [if_neg hspace] at h
        exact ⟨h.1, ih h.2⟩

/-- The command ends inside of the line: at its end or at a semicolon. -/
lemma blanked_end (l : List UInt8) : (blanked l).length ≤ l.length ∧
    (l.getD (blanked l).length 0 = 0 ∨ l.getD (blanked l).length 0 = ';'.toUInt8) := by
  induction l with
  | nil => exact ⟨le_rfl, Or.inl rfl⟩
  | cons c l ih =>
    by_cases hsemi : c = ';'.toUInt8
    · subst hsemi
      rw [blanked_stop]
      exact ⟨Nat.zero_le _, Or.inr rfl⟩
    · rw [blanked_cons hsemi]
      exact ⟨Nat.succ_le_succ ih.1, ih.2⟩

/-- A character of the command outside of a string: what it clears is white space. -/
lemma unquoted_go (hm : m = .whitespace ∨ m = .token) (hc : c ≠ '"'.toUInt8)
    (hstop : ¬ stops m c) :
    c ≠ ';'.toUInt8 ∧ (turn m c).skip = false ∧ (turn m c).clear = isSpace c ∧
      ((turn m c).next = .whitespace ∨ (turn m c).next = .token) := by
  refine ⟨?_, ?_⟩
  · rintro rfl
    rcases hm with rfl | rfl
    · exact hstop (by decide)
    · exact hstop (by decide)
  · rw [turn_unquoted hm hc]
    cases isSpace c with
    | true => exact ⟨rfl, rfl, Or.inl rfl⟩
    | false => exact ⟨rfl, rfl, Or.inr rfl⟩

/-- In a cleared command each entry points at its word. -/
lemma stands_starts (l : List UInt8) (hq : '"'.toUInt8 ∉ l) {m : ParseState} {f : ℕ → UInt8}
    (hm : m = .whitespace ∨ m = .token) (h : Stands (blanked l) f) :
    ∀ p ∈ starts m l, Stands ((l.drop p).takeWhile plain) fun j => f (p + j) := by
  induction l generalizing m f with
  | nil => exact fun p hp => absurd hp List.not_mem_nil
  | cons c l ih =>
    obtain ⟨hc, hl⟩ := not_or.mp (mt List.mem_cons.mpr hq)
    by_cases hstop : stops m c
    · rw [starts_stop hstop]
      exact fun p hp => absurd hp List.not_mem_nil
    · obtain ⟨hsemi, hskip, -, hnext⟩ := unquoted_go hm (Ne.symm hc) hstop
      have hbehind := (stands_cons.mp (blanked_cons hsemi ▸ h)).2
      rw [starts_step hstop hskip, List.forall_mem_append, List.forall_mem_map]
      constructor
      · intro o ho
        obtain rfl := Nat.lt_one_iff.mp ((Goes.step l hstop hskip).entry_lt ho)
        simp only [Nat.zero_add, List.drop_zero]
        exact stands_word _ h
      · intro p hp
        have hword := ih hl hnext hbehind p hp
        simp only [List.drop_succ_cons, Nat.add_right_comm p 1]
        exact hword

/-- The loop over a line without quotes: it ends behind the command, which is cleared. -/
lemma loop_unquoted (l : List UInt8) (hq : '"'.toUInt8 ∉ l)
    (hm : s.lastState = .whitespace ∨ s.lastState = .token) (hrest : Rest l s)
    (hloop : loop fuel (s.mem s.argstr) s = some s') (hargc : s'.argc < maxCmdArgs) :
    s'.argstr = s.argstr + (blanked l).length ∧
      (∀ j, j < s.argstr ∨ s'.argstr ≤ j → s'.mem j = s.mem j) ∧
      ∀ j b, (blanked l)[j]? = some b → s'.mem (s.argstr + j) = b := by
  induction l generalizing s fuel with
  | nil =>
    obtain ⟨f, rfl⟩ := loop_fuel hloop
    rw [loop_end (Or.inl hrest.char_nil)] at hloop
    obtain rfl := Option.some.inj hloop
    exact ⟨rfl, fun _ _ => rfl, fun j b hb => nomatch hb⟩
  | cons c l ih =>
    obtain ⟨hc, hl⟩ := not_or.mp (mt List.mem_cons.mpr hq)
    by_cases hstop : stops s.lastState c
    · obtain ⟨f, rfl⟩ := loop_fuel hloop
      rw [hrest.char_cons.1, loop_end (Or.inr hstop)] at hloop
      obtain rfl := Option.some.inj hloop
      rw [hstop.1, blanked_stop]
      exact ⟨rfl, fun _ _ => rfl, fun j b hb => nomatch hb⟩
    · obtain ⟨hsemi, hskip, hclear, hnext⟩ := unquoted_go hm (Ne.symm hc) hstop
      obtain ⟨f, hloop⟩ := loop_next hrest hstop hloop hargc
      obtain ⟨hargstr, hkept, hcleared⟩ := ih hl hnext (hrest.drop (.step l hstop hskip)) hloop
      have hstep : (next c s).argstr = s.argstr + 1 := by rw [next_argstr, hskip]; rfl
      have hhere : (next c s).mem s.argstr = if isSpace c then 0 else c := by
        show (if (turn s.lastState c).clear then Function.update s.mem s.argstr 0 else s.mem)
          s.argstr = _
        rw [hclear]
        split
        · exact Function.update_self _ _ _
        · exact hrest.char_cons.1
      rw [hstep] at hargstr hkept hcleared
      rw [blanked_cons hsemi, List.length_cons]
      refine ⟨by omega, fun j hj => ?_, fun j b hb => ?_⟩
      · rw [hkept j (by omega), next_mem c s (by omega)]
      · cases j with
        | zero =>
          rw [Nat.add_zero, hkept s.argstr (by omega), hhere]
          exact Option.some.inj hb
        | succ j =>
          rw [← Nat.add_assoc, Nat.add_right_comm]
          exact hcleared j b hb

end Unquoted

/-! ### The command line -/

/-- The line is taken apart inside its bounds: nothing is read behind the terminator, only
entries of `argv` are written, those before `argc` point at texts inside of the line that end
there, and the one at `argc` is null. Without quotes the texts are the words, as many as `argv`
holds with the null pointer. -/
structure Tokenizes (line : List UInt8) (out : Scan) : Prop where
  reads : ∀ i ∈ out.reads, i ≤ line.length
  writes : ∀ k ∈ out.argvWrites, k < maxCmdArgs
  stored : out.argvWrites = List.range (out.argc + 1)
  null : out.argv out.argc = none
  entries : ∃ entries : List ℕ, entries.length = out.argc ∧
    (∀ k p, entries[k]? = some p → out.argv k = some p) ∧
    (∀ p ∈ entries, p < line.length ∧ ∃ e, p ≤ e ∧ e ≤ line.length ∧ out.mem e = 0) ∧
    ('"'.toUInt8 ∉ line → List.Forall₂ (fun p word => Stands word fun j => out.mem (p + j))
      entries ((words line).take (maxCmdArgs - 1)))

/-- The call comes to an end, and takes the line apart. -/
def Meets (line : List UInt8) (mem : ℕ → UInt8) (argv : ℕ → Option ℕ) : Prop :=
  ∃ bound, ∀ fuel ≥ bound, ∃ out, parseargs fuel mem argv = some out ∧ Tokenizes line out

section Line

variable {line : List UInt8} {mem : ℕ → UInt8} {argv : ℕ → Option ℕ} {fuel : ℕ} {s out : Scan}

lemma finish_argc (s : Scan) : (finish s).argc = s.argc := by
  unfold finish
  dsimp only
  split <;> rfl

lemma finish_argv (s : Scan) : (finish s).argv = Function.update s.argv s.argc none := by
  unfold finish
  dsimp only
  split <;> rfl

lemma finish_argvWrites (s : Scan) : (finish s).argvWrites = s.argvWrites ++ [s.argc] := by
  unfold finish
  dsimp only
  split <;> rfl

lemma finish_reads (s : Scan) : (finish s).reads = s.reads ++ [s.argstr] := by
  unfold finish
  dsimp only
  split <;> rfl

lemma finish_mem (s : Scan) : (finish s).mem =
    if s.mem s.argstr = ';'.toUInt8 then Function.update s.mem s.argstr 0 else s.mem := by
  unfold finish
  dsimp only
  split <;> rfl

lemma start_rest (hline : 0 ∉ line) (hmem : Stands line mem) :
    Rest line (start mem argv) := by
  refine ⟨hline, fun j hj => ?_⟩
  show mem (0 + j) = _
  rw [Nat.zero_add]
  exact hmem j hj

/-- Behind the call the command of a line without quotes is cleared. -/
lemma finish_blanked (hline : 0 ∉ line) (hmem : Stands line mem)
    (hq : '"'.toUInt8 ∉ line) (hloop : loop fuel (mem 0) (start mem argv) = some s)
    (hargc : s.argc < maxCmdArgs) : Stands (blanked line) (finish s).mem := by
  obtain ⟨hargstr, hkept, hcleared⟩ :=
    loop_unquoted line hq (Or.inl rfl) (start_rest hline hmem) hloop hargc
  have h0 : (start mem argv).argstr = 0 := rfl
  simp only [h0, Nat.zero_add] at hargstr hcleared
  obtain ⟨hlen, hend⟩ := blanked_end line
  intro j hj
  rw [finish_mem]
  rcases Nat.lt_or_eq_of_le hj with hlt | rfl
  · have hbyte := hcleared j _ (List.getElem?_eq_getElem hlt)
    rw [List.getD_eq_getElem _ _ hlt]
    split
    · rw [Function.update_of_ne (by omega), hbyte]
    · exact hbyte
  · have hchar : s.mem (blanked line).length = line.getD (blanked line).length 0 := by
      rw [hkept _ (Or.inr hargstr.le)]
      exact hmem _ hlen
    rw [List.getD_eq_default _ _ le_rfl, hargstr, hchar]
    split
    · exact Function.update_self _ _ _
    · rename_i hsemi
      rw [hchar]
      exact hend.resolve_right hsemi

/-- A call inside of the bounds found all the entries of the line, and no quote dangles. -/
lemma Tokenizes.bounds (hline : 0 ∉ line) (hmem : Stands line mem)
    (hout : parseargs fuel mem argv = some out) (h : Tokenizes line out) :
    (starts .whitespace line).length ≤ 4 ∧ dangling .whitespace line = false := by
  obtain ⟨s, hloop, rfl⟩ := Option.map_eq_some_iff.mp hout
  have hargc : s.argc < maxCmdArgs := by
    apply h.writes
    rw [finish_argvWrites]
    exact List.mem_append.mpr (Or.inr (List.mem_singleton.mpr rfl))
  rcases loop_conv .whitespace line rfl (start_rest hline hmem) hloop hargc with
    ⟨-, hpast⟩ | ⟨hd, hcount⟩
  · have hread : 0 + line.length + 1 ∈ (finish s).reads := by
      rw [finish_reads]
      exact List.mem_append.mpr (Or.inl hpast)
    have hle := h.reads _ hread
    omega
  · have h0 : (start mem argv).argc = 0 := rfl
    rw [h0, Nat.zero_add] at hcount
    rw [maxCmdArgs] at hargc
    exact ⟨by omega, hd⟩

section Finish

variable {places : List ℕ} {last : ℕ}

/-- From the start on, as many entries as places. -/
lemma Scanned.argc_start (h : Scanned (start mem argv) places last s) : s.argc = places.length :=
  h.argc.trans (Nat.zero_add _)

/-- The entries are written one after the other, the null pointer last. -/
lemma Scanned.finish_writes (h : Scanned (start mem argv) places last s) :
    (finish s).argvWrites = List.range (s.argc + 1) := by
  have h0 : (start mem argv).argvWrites ++ List.range' 0 places.length = List.range s.argc := by
    rw [h.argc_start, List.range_eq_range']
    rfl
  rw [finish_argvWrites, h.writes, List.range_succ]
  exact congrArg (· ++ [s.argc]) h0

lemma Scanned.finish_entries (h : Scanned (start mem argv) places last s) {k p : ℕ}
    (hp : places[k]? = some p) : (finish s).argv k = some p := by
  have hk : k < places.length := (List.getElem?_eq_some_iff.mp hp).1
  have hentry := h.entries k p hp
  have h0 : (start mem argv).argc = 0 ∧ (start mem argv).argstr = 0 := ⟨rfl, rfl⟩
  have hargc := h.argc_start
  rw [h0.1, h0.2, Nat.zero_add, Nat.zero_add] at hentry
  rw [finish_argv, Function.update_of_ne (by omega), hentry]

/-- The terminator of the line stays. -/
lemma Scanned.finish_nul (hmem : Stands line mem) (h : Scanned (start mem argv) places last s) :
    (finish s).mem line.length = 0 := by
  have hend : mem line.length = 0 :=
    (hmem line.length le_rfl).trans (List.getD_eq_default _ _ le_rfl)
  have hs : s.mem line.length = 0 := by
    rcases h.cleared line.length with heq | h0
    · exact heq.trans hend
    · exact h0
  rw [finish_mem]
  split
  · rw [Function.update_apply]
    split
    · rfl
    · exact hs
  · exact hs

lemma Scanned.finish_reads (h : Scanned (start mem argv) places last s) :
    ∀ i ∈ (finish s).reads, i ≤ last := by
  rw [ParseArgs.finish_reads, List.forall_mem_append, List.forall_mem_singleton]
  refine ⟨fun i hi => ?_, h.argstr⟩
  rcases h.reads i hi with hfirst | hle
  · obtain rfl : i = 0 := List.mem_singleton.mp hfirst
    exact Nat.zero_le _
  · exact hle

end Finish

/-- Without quotes the entries are the words, when there is room for them. -/
lemma finish_words (hline : 0 ∉ line) (hmem : Stands line mem) (hq : '"'.toUInt8 ∉ line)
    (hcount : (starts .whitespace line).length ≤ 4)
    (hloop : loop fuel (mem 0) (start mem argv) = some s) (hargc : s.argc < maxCmdArgs) :
    List.Forall₂ (fun p word => Stands word fun j => (finish s).mem (p + j))
      (starts .whitespace line) ((words line).take (maxCmdArgs - 1)) := by
  have hwords := (starts_words line hq).1
  have hfew : (words line).length ≤ maxCmdArgs - 1 := by
    rw [← hwords, List.length_map]
    exact hcount
  rw [List.take_of_length_le hfew, ← hwords, List.forall₂_map_right_iff, List.forall₂_same]
  exact stands_starts line hq (Or.inl rfl) (finish_blanked hline hmem hq hloop hargc)

/-- With four entries at most and no dangling quote, the line is taken apart. -/
lemma tokenizes_of_bounds (hline : 0 ∉ line) (hmem : Stands line mem)
    (hcount : (starts .whitespace line).length ≤ 4) (hd : dangling .whitespace line = false)
    (hloop : loop fuel (mem 0) (start mem argv) = some s)
    (h : Scanned (start mem argv) (starts .whitespace line) line.length s) :
    Tokenizes line (finish s) := by
  have hargc := h.argc_start
  have hlt : s.argc < maxCmdArgs := by
    rw [maxCmdArgs]
    omega
  refine ⟨h.finish_reads, fun k hk => ?_, ?_, ?_, starts .whitespace line, ?_,
    fun k p hp => h.finish_entries hp, fun p hp => ?_,
    fun hq => finish_words hline hmem hq hcount hloop hlt⟩
  · rw [h.finish_writes, List.mem_range] at hk
    omega
  · rw [h.finish_writes, finish_argc]
  · rw [finish_argc, finish_argv]
    exact Function.update_self _ _ _
  · rw [finish_argc, hargc]
  · have hp := starts_lt .whitespace line hd p hp
    exact ⟨hp, line.length, hp.le, le_rfl, h.finish_nul hmem⟩

/-- **The tokenizer of the shell** meets its bounds on a line exactly when the line has at most
four entries, so that the null pointer behind them is inside of `argv`, and no quote is opened by
its last character, which is skipped together with the one behind it. -/
theorem parseargs_tokenizes_iff (line : List UInt8) (mem : ℕ → UInt8) (argv : ℕ → Option ℕ)
    (hline : 0 ∉ line) (hmem : Stands line mem) :
    Meets line mem argv ↔
      (starts .whitespace line).length ≤ 4 ∧ dangling .whitespace line = false := by
  constructor
  · rintro ⟨bound, h⟩
    obtain ⟨out, hout, htok⟩ := h bound le_rfl
    exact htok.bounds hline hmem hout
  · rintro ⟨hcount, hd⟩
    refine ⟨line.length + 1, fun fuel hfuel => ?_⟩
    have hroom : (start mem argv).argc + (starts .whitespace line).length ≤ maxCmdArgs :=
      (Nat.zero_add _).trans_le (hcount.trans (by decide))
    obtain ⟨s, hloop, hscan⟩ :=
      loop_spec .whitespace line rfl (start_rest hline hmem) hd hroom hfuel
    have hlast : (start mem argv).argstr + line.length = line.length := Nat.zero_add _
    rw [hlast] at hscan
    exact ⟨finish s, congrArg (Option.map finish) hloop,
      tokenizes_of_bounds hline hmem hcount hd hloop hscan⟩

end Line

/-- A line in a memory that is zero behind it. -/
def memoryOf (line : List UInt8) (i : ℕ) : UInt8 := line.getD i 0

/-- The line `echo hi;x`. -/
def echoLine : List UInt8 := ['e', 'c', 'h', 'o', ' ', 'h', 'i', ';', 'x'].map Char.toUInt8

/-- The line `a b c d e`. -/
def fiveWords : List UInt8 := ['a', ' ', 'b', ' ', 'c', ' ', 'd', ' ', 'e'].map Char.toUInt8

/-- `echo hi;x` is taken apart. -/
theorem parseargs_tokenizes_echo :
    (starts .whitespace echoLine = [0, 5] ∧ dangling .whitespace echoLine = false) ∧
      Meets echoLine (memoryOf echoLine) fun _ => none :=
  ⟨by decide,
    (parseargs_tokenizes_iff echoLine _ _ (by decide) fun _ _ => rfl).mpr (by decide)⟩

/-- With five words the null pointer is written behind `argv`, and on a lone quote the character
behind the terminator is read. -/
theorem parseargs_leaves_bounds :
    (¬ Meets fiveWords (memoryOf fiveWords) fun _ => none) ∧
      (parseargs 10 (memoryOf fiveWords) fun _ => none).map Scan.argvWrites
        = some [0, 1, 2, 3, 4, 5] ∧
      ¬ Meets ['"'.toUInt8] (memoryOf ['"'.toUInt8]) fun _ => none := by
  refine ⟨?_, by decide, ?_⟩
  · rintro ⟨bound, h⟩
    obtain ⟨out, hout, htok⟩ := h bound le_rfl
    exact absurd (htok.bounds (by decide) (fun _ _ => rfl) hout) (by decide)
  · rintro ⟨bound, h⟩
    obtain ⟨out, hout, htok⟩ := h bound le_rfl
    exact absurd (htok.bounds (by decide) (fun _ _ => rfl) hout) (by decide)

end A733Boot.Ar100s.ParseArgs
