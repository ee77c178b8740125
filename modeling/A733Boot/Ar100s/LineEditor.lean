/-
The line editor of the shell, `getcmd` of `ar100s/system/debugger/shell_cmd.c`, with the bytes
that `uart_get` stores for it.

An index into the buffer is a word, as the addresses are: an index below zero is one near
`2 ^ 32`. Every access of the buffer is recorded. What the execution of a command does to the
buffer is a parameter, and what is echoed is left out.

* `Editor`, `uartGet`, `getcmd`: the buffer with its position, and the code;
* `Bounded`: the position is inside the buffer, and so was every access;
* `receive_bounded_iff`, `edit_bounded_iff`: the two parts of a call, the bytes that arrive and
  what is made of the last one;
* `Safe`: what must hold before a call;
* **`getcmd_runs_bounded_iff`**: all calls of a run stay inside the buffer exactly when each of
  them is safe.
-/
import A733Boot.Library.Runs
import A733Boot.Library.Registers
import A733Boot.Ar100s.Error

namespace A733Boot.Ar100s.LineEditor

/-! ### The code -/

def maxCmdLen : ℕ := 64

/-- `cmd_buf` and what lies around it, `curpos`, and the indices that were accessed. -/
structure Editor where
  cmdBuf : UInt32 → UInt8
  curpos : UInt32
  accesses : List UInt32

/-- What the UART has at a call: it is locked or not in use, or it delivers a burst. -/
inductive Received
  | locked
  | burst (bytes : List UInt8)

def store (i : UInt32) (b : UInt8) : StateM Editor Unit := fun s =>
  ((), { s with cmdBuf := Function.update s.cmdBuf i b, accesses := s.accesses ++ [i] })

def load (i : UInt32) : StateM Editor UInt8 := fun s =>
  (s.cmdBuf i, { s with accesses := s.accesses ++ [i] })

def setCurpos (i : UInt32) : StateM Editor Unit := fun s => ((), { s with curpos := i })

/-- The loop of `uart_get`, for the bytes that are in the FIFO until it is empty. -/
def storeBytes : UInt32 → List UInt8 → StateM Editor Unit
  | _, [] => pure ()
  | i, b :: bytes => do
    store i b
    storeBytes (i + 1) bytes

/-- The error code is returned as a count. -/
def uartGet (i : UInt32) : Received → StateM Editor UInt32
  | .locked => pure (UInt32.ofInt (-eAcces))
  | .burst bytes => do
    storeBytes i bytes
    pure (UInt32.ofNat bytes.length)

/-- The echo of so many characters from the position on. -/
def echo : ℕ → StateM Editor Unit
  | 0 => pure ()
  | count + 1 => do
    let s ← get
    let _ ← load s.curpos
    setCurpos (s.curpos + 1)
    echo count

section Code

variable (executeOneCommand : (UInt32 → UInt8) → UInt32 → UInt8)

/-- The characters that end a command. -/
def endsCommand (c : UInt8) : Prop := c = '\r'.toUInt8 ∨ c = '\n'.toUInt8 ∨ c = 0

instance (c : UInt8) : Decidable (endsCommand c) :=
  inferInstanceAs (Decidable (_ ∨ _))

/-- The part of `getcmd` behind the first character that it reads. The position goes back even
where it is zero: the decrement is part of the condition. -/
def edit (count : UInt32) (c : UInt8) : StateM Editor Unit := do
  let s ← get
  if c = 0x08 then
    if count ≠ 0 then
      setCurpos (s.curpos - 1)
      store (s.curpos - 1) 0
    else store s.curpos 0
  else if c = 0x7e then setCurpos 0
  else if endsCommand c then
    store s.curpos 0
    if s.curpos > 1 then modify fun s => { s with cmdBuf := executeOneCommand s.cmdBuf }
    setCurpos 0
  else if s.curpos + count < UInt32.ofNat maxCmdLen - 1 then echo count.toNat
  else pure ()

/-- The bytes that arrive, and the character that decides what is done. -/
def receive (r : Received) : StateM Editor (UInt32 × UInt8) := do
  let s ← get
  let count ← uartGet s.curpos r
  let c ← load (s.curpos + count - 1)
  pure (count, c)

def getcmd (r : Received) : StateM Editor Unit := do
  let (count, c) ← receive r
  edit executeOneCommand count c

end Code

/-! ### Specification -/

/-- The index is inside the buffer. -/
def Inside (i : UInt32) : Prop := i.toNat < maxCmdLen

instance (i : UInt32) : Decidable (Inside i) := inferInstanceAs (Decidable (_ < _))

/-- The position is inside the buffer, and so was every access. -/
structure Bounded (s : Editor) : Prop where
  curpos : Inside s.curpos
  accesses : ∀ i ∈ s.accesses, Inside i

/-- The call stays inside the buffer: the burst fits behind the position, something can be
looked at, and there is something that a backspace takes back. While the UART is locked, the
character that the error code points at must be there, and must not be one to echo. -/
def Safe (s : Editor) : Received → Prop
  | .burst bytes => s.curpos.toNat + bytes.length ≤ maxCmdLen ∧
      (s.curpos = 0 → bytes ≠ [] ∧ bytes.getLast? ≠ some 0x08)
  | .locked => 14 ≤ s.curpos.toNat ∧
      (s.cmdBuf (s.curpos - 14) = 0x08 ∨ s.cmdBuf (s.curpos - 14) = 0x7e ∨
        endsCommand (s.cmdBuf (s.curpos - 14)))

/-! ### Indices -/

lemma index_toNat {i : UInt32} {k : ℕ} (hk : i.toNat + k < 2 ^ 32) :
    (i + UInt32.ofNat k).toNat = i.toNat + k := by
  rw [UInt32.toNat_add, UInt32.toNat_ofNat', Nat.add_mod_mod, Nat.mod_eq_of_lt hk]

lemma index_succ (i : UInt32) (k : ℕ) : i + 1 + UInt32.ofNat k = i + UInt32.ofNat (k + 1) := by
  rw [UInt32.ofNat_add, UInt32.add_assoc, UInt32.add_comm 1]
  rfl

lemma index_pred (i : UInt32) (k : ℕ) : i + UInt32.ofNat (k + 1) - 1 = i + UInt32.ofNat k := by
  rw [UInt32.ofNat_add, ← UInt32.add_assoc]
  exact UInt32.add_sub_cancel _ 1

/-- The first of the places from `i` on, and the others. -/
lemma exists_index_succ (i j : UInt32) (n : ℕ) : (∃ k < n + 1, j = i + UInt32.ofNat k) ↔
    j = i ∨ ∃ k < n, j = i + 1 + UInt32.ofNat k := by
  constructor
  · rintro ⟨k, hk, rfl⟩
    cases k with
    | zero => exact Or.inl (UInt32.add_zero _)
    | succ k => exact Or.inr ⟨k, Nat.lt_of_succ_lt_succ hk, (index_succ i k).symm⟩
  · rintro (rfl | ⟨k, hk, rfl⟩)
    · exact ⟨0, Nat.succ_pos _, (UInt32.add_zero _).symm⟩
    · exact ⟨k + 1, Nat.succ_lt_succ hk, index_succ i k⟩

/-- So many places from one inside the buffer on are inside it if and only if they end in it. -/
lemma inside_range_iff {i : UInt32} (hi : Inside i) (n : ℕ) :
    (∀ k < n, Inside (i + UInt32.ofNat k)) ↔ i.toNat + n ≤ maxCmdLen := by
  have hlt : i.toNat < 64 := hi
  rw [maxCmdLen]
  constructor
  · intro h
    by_contra hlong
    have hout := h (64 - i.toNat) (by omega)
    rw [Inside, index_toNat (by omega), maxCmdLen] at hout
    omega
  · intro h k hk
    rw [Inside, index_toNat (by omega), maxCmdLen]
    omega

lemma inside_pred_iff {i : UInt32} (hi : Inside i) : Inside (i - 1) ↔ i ≠ 0 := by
  have hlt : i.toNat < 64 := hi
  rw [Inside, UInt32.toNat_sub, show UInt32.toNat 1 = 1 from rfl, maxCmdLen]
  constructor
  · rintro h rfl
    exact absurd h (by decide)
  · intro hne
    have hpos : i.toNat ≠ 0 := fun h => hne (UInt32.toNat_inj.mp h)
    omega

/-! ### The loops -/

section Loops

variable (s : Editor)

lemma storeBytes_curpos (i : UInt32) (bytes : List UInt8) :
    (storeBytes i bytes s).2.curpos = s.curpos := by
  induction bytes generalizing i s with
  | nil => rfl
  | cons b bytes ih =>
    rw [storeBytes, bind_apply, ih]
    rfl

lemma mem_storeBytes (i : UInt32) (bytes : List UInt8) (j : UInt32) :
    j ∈ (storeBytes i bytes s).2.accesses ↔
      j ∈ s.accesses ∨ ∃ k < bytes.length, j = i + UInt32.ofNat k := by
  induction bytes generalizing i s with
  | nil => exact ⟨Or.inl, fun h => h.elim id fun ⟨k, hk, _⟩ => absurd hk (Nat.not_lt_zero k)⟩
  | cons b bytes ih =>
    rw [storeBytes, bind_apply, ih, store, List.mem_append, List.mem_singleton, or_assoc,
      List.length_cons, exists_index_succ]

/-- The last byte of a burst is where the count points. -/
lemma storeBytes_last (i : UInt32) {bytes : List UInt8} {b : UInt8}
    (h : bytes.getLast? = some b) :
    (storeBytes i bytes s).2.cmdBuf (i + UInt32.ofNat bytes.length - 1) = b := by
  induction bytes generalizing i s with
  | nil => cases h
  | cons a bytes ih =>
    rw [storeBytes, bind_apply]
    cases bytes with
    | nil =>
      obtain rfl : a = b := Option.some.inj h
      rw [show i + UInt32.ofNat [a].length - 1 = i from UInt32.add_sub_cancel i 1]
      exact Function.update_self i a s.cmdBuf
    | cons a' bytes =>
      rw [← ih (store i a s).2 (i + 1) (by simpa using h), List.length_cons, ← index_succ]

lemma echo_curpos (n : ℕ) : (echo n s).2.curpos = s.curpos + UInt32.ofNat n := by
  induction n generalizing s with
  | zero => exact (UInt32.add_zero _).symm
  | succ n ih =>
    rw [echo, bind_apply, bind_apply, bind_apply, ih]
    exact index_succ s.curpos n

lemma mem_echo (n : ℕ) (j : UInt32) :
    j ∈ (echo n s).2.accesses ↔
      j ∈ s.accesses ∨ ∃ k < n, j = s.curpos + UInt32.ofNat k := by
  induction n generalizing s with
  | zero => exact ⟨Or.inl, fun h => h.elim id fun ⟨k, hk, _⟩ => absurd hk (Nat.not_lt_zero k)⟩
  | succ n ih =>
    rw [echo, bind_apply, bind_apply, bind_apply, ih, exists_index_succ, ← or_assoc]
    refine or_congr ?_ Iff.rfl
    exact List.mem_append.trans (or_congr Iff.rfl List.mem_singleton)

end Loops

/-! ### The two parts of a call -/

section Parts

variable {s : Editor}

/-- What is behind the position, and what the count points at. -/
lemma receive_burst (bytes : List UInt8) (s : Editor) : receive (.burst bytes) s =
    ((UInt32.ofNat bytes.length, (storeBytes s.curpos bytes s).2.cmdBuf
        (s.curpos + UInt32.ofNat bytes.length - 1)),
      { (storeBytes s.curpos bytes s).2 with accesses :=
        (storeBytes s.curpos bytes s).2.accesses ++
          [s.curpos + UInt32.ofNat bytes.length - 1] }) := rfl

lemma receive_locked (s : Editor) : receive .locked s =
    ((UInt32.ofInt (-eAcces), s.cmdBuf (s.curpos + UInt32.ofInt (-eAcces) - 1)),
      { s with accesses := s.accesses ++ [s.curpos + UInt32.ofInt (-eAcces) - 1] }) := rfl

lemma receive_curpos (r : Received) (s : Editor) : (receive r s).2.curpos = s.curpos := by
  cases r with
  | locked => rfl
  | burst bytes => exact storeBytes_curpos s s.curpos bytes

lemma locked_index (i : UInt32) : i + UInt32.ofInt (-eAcces) - 1 = i - 14 := by
  rw [UInt32.sub_eq_add_neg, UInt32.sub_eq_add_neg, UInt32.add_assoc]
  rfl

lemma inside_sub_iff {i : UInt32} (hi : Inside i) : Inside (i - 14) ↔ 14 ≤ i.toNat := by
  have hlt : i.toNat < 64 := hi
  rw [Inside, UInt32.toNat_sub, show UInt32.toNat 14 = 14 from rfl, maxCmdLen]
  omega

/-- What arrives stays inside the buffer. -/
def Fits (s : Editor) : Received → Prop
  | .burst bytes => s.curpos.toNat + bytes.length ≤ maxCmdLen ∧ (s.curpos = 0 → bytes ≠ [])
  | .locked => 14 ≤ s.curpos.toNat

lemma receive_bounded_iff (hs : Bounded s) (r : Received) :
    Bounded (receive r s).2 ↔ Fits s r := by
  have hlt : s.curpos.toNat < 64 := hs.curpos
  have hcurpos : Inside (receive r s).2.curpos := by
    rw [receive_curpos]
    exact hs.curpos
  have hiff : Bounded (receive r s).2 ↔ ∀ i ∈ (receive r s).2.accesses, Inside i :=
    ⟨fun h => h.accesses, fun h => ⟨hcurpos, h⟩⟩
  rw [hiff]
  cases r with
  | locked =>
    rw [receive_locked, List.forall_mem_append, List.forall_mem_singleton, locked_index,
      inside_sub_iff hs.curpos]
    exact and_iff_right hs.accesses
  | burst bytes =>
    have hstores : (∀ i ∈ (storeBytes s.curpos bytes s).2.accesses, Inside i) ↔
        s.curpos.toNat + bytes.length ≤ maxCmdLen := by
      rw [← inside_range_iff hs.curpos]
      constructor
      · intro h k hk
        exact h _ ((mem_storeBytes s _ bytes _).mpr (Or.inr ⟨k, hk, rfl⟩))
      · intro h i hi
        rcases (mem_storeBytes s _ bytes i).mp hi with hold | ⟨k, hk, rfl⟩
        · exact hs.accesses i hold
        · exact h k hk
    rw [receive_burst, List.forall_mem_append, List.forall_mem_singleton, hstores, Fits]
    refine and_congr_right fun hfits => ?_
    rw [maxCmdLen] at hfits
    cases bytes with
    | nil =>
      rw [List.length_nil, show s.curpos + UInt32.ofNat 0 = s.curpos from UInt32.add_zero _,
        inside_pred_iff hs.curpos]
      exact ⟨fun h h0 => absurd h0 h, fun h h0 => h h0 rfl⟩
    | cons b bytes =>
      rw [List.length_cons] at hfits
      refine iff_of_true ?_ fun _ => List.cons_ne_nil _ _
      rw [List.length_cons, index_pred, Inside, index_toNat (by omega), maxCmdLen]
      omega

variable (exec : (UInt32 → UInt8) → UInt32 → UInt8)

/-- What is done with the character stays inside the buffer: a backspace has something to take
back, and what is echoed does not wrap around. -/
def EditSafe (s : Editor) (count : UInt32) (c : UInt8) : Prop :=
  if c = 0x08 then count = 0 ∨ s.curpos ≠ 0
  else c = 0x7e ∨ endsCommand c ∨
    ((s.curpos + count).toNat < maxCmdLen - 1 → s.curpos.toNat + count.toNat < 2 ^ 32)

lemma bounded_iff_echo (hs : Bounded s) (count : UInt32) : Bounded (echo count.toNat s).2 ↔
    s.curpos.toNat + count.toNat ≤ maxCmdLen ∧ Inside (s.curpos + count) := by
  have hcurpos : (echo count.toNat s).2.curpos = s.curpos + count := by
    rw [echo_curpos, UInt32.ofNat_toNat]
  rw [← inside_range_iff hs.curpos]
  constructor
  · intro h
    refine ⟨fun k hk => ?_, hcurpos ▸ h.curpos⟩
    exact h.accesses _ ((mem_echo s _ _).mpr (Or.inr ⟨k, hk, rfl⟩))
  · rintro ⟨hreads, hend⟩
    refine ⟨hcurpos ▸ hend, fun i hi => ?_⟩
    rcases (mem_echo s _ i).mp hi with hold | ⟨k, hk, rfl⟩
    · exact hs.accesses i hold
    · exact hreads k hk

/-- One more access, with the position at another place. -/
lemma bounded_append_iff (hs : Bounded s) (buf : UInt32 → UInt8) (pos i : UInt32) :
    Bounded ⟨buf, pos, s.accesses ++ [i]⟩ ↔ Inside pos ∧ Inside i := by
  constructor
  · intro h
    exact ⟨h.curpos, h.accesses i (List.mem_append.mpr (Or.inr (List.mem_singleton.mpr rfl)))⟩
  · rintro ⟨hpos, hi⟩
    exact ⟨hpos, List.forall_mem_append.mpr ⟨hs.accesses, List.forall_mem_singleton.mpr hi⟩⟩

/-- The state behind the character, case by case. -/
lemma edit_eq (count : UInt32) (c : UInt8) (s : Editor) : (edit exec count c s).2 =
    if c = 0x08 then
      if count ≠ 0 then ⟨Function.update s.cmdBuf (s.curpos - 1) 0, s.curpos - 1,
        s.accesses ++ [s.curpos - 1]⟩
      else ⟨Function.update s.cmdBuf s.curpos 0, s.curpos, s.accesses ++ [s.curpos]⟩
    else if c = 0x7e then { s with curpos := 0 }
    else if endsCommand c then
      ⟨if s.curpos > 1 then exec (Function.update s.cmdBuf s.curpos 0)
        else Function.update s.cmdBuf s.curpos 0, 0, s.accesses ++ [s.curpos]⟩
    else if s.curpos + count < UInt32.ofNat maxCmdLen - 1 then (echo count.toNat s).2
    else s := by
  rw [edit, bind_apply]
  simp only [ite_apply', apply_ite Prod.snd]
  refine if_congr Iff.rfl rfl (if_congr Iff.rfl rfl (if_congr Iff.rfl ?_ rfl))
  rw [bind_apply, ite_apply', apply_ite Prod.snd]
  by_cases hpos : s.curpos > 1
  · exact (if_pos hpos).trans (by rw [if_pos hpos]; rfl)
  · exact (if_neg hpos).trans (by rw [if_neg hpos]; rfl)

lemma edit_bounded_iff (hs : Bounded s) (count : UInt32) (c : UInt8) :
    Bounded (edit exec count c s).2 ↔ EditSafe s count c := by
  have hlt : s.curpos.toNat < 64 := hs.curpos
  have hzero : Inside 0 := by decide
  rw [edit_eq, EditSafe]
  by_cases hback : c = 0x08
  · rw [if_pos hback, if_pos hback]
    by_cases hcount : count = 0
    · rw [if_neg (not_not.mpr hcount), bounded_append_iff hs]
      exact iff_of_true ⟨hs.curpos, hs.curpos⟩ (Or.inl hcount)
    · rw [if_pos hcount, bounded_append_iff hs, and_self, inside_pred_iff hs.curpos]
      exact (or_iff_right hcount).symm
  · rw [if_neg hback, if_neg hback]
    by_cases hdel : c = 0x7e
    · rw [if_pos hdel]
      exact iff_of_true ⟨hzero, hs.accesses⟩ (Or.inl hdel)
    · rw [if_neg hdel, or_iff_right hdel]
      by_cases hends : endsCommand c
      · rw [if_pos hends, bounded_append_iff hs]
        exact iff_of_true ⟨hzero, hs.curpos⟩ (Or.inl hends)
      · rw [if_neg hends, or_iff_right hends]
        have hroom : s.curpos + count < UInt32.ofNat maxCmdLen - 1 ↔
            (s.curpos + count).toNat < maxCmdLen - 1 := UInt32.lt_iff_toNat_lt
        have hsum := UInt32.toNat_add s.curpos count
        have hcount := count.toNat_lt
        by_cases hshort : (s.curpos + count).toNat < maxCmdLen - 1
        · rw [if_pos (hroom.mpr hshort), bounded_iff_echo hs, Inside]
          rw [maxCmdLen] at hshort ⊢
          constructor
          · rintro ⟨hle, -⟩ -
            omega
          · intro h
            have := h hshort
            constructor <;> omega
        · rw [if_neg fun h => hshort (hroom.mp h)]
          exact iff_of_true hs fun h => absurd h hshort

/-- The record of the accesses only grows. -/
lemma mem_edit (count : UInt32) (c : UInt8) (s : Editor) {i : UInt32} (hi : i ∈ s.accesses) :
    i ∈ (edit exec count c s).2.accesses := by
  have happend : ∀ j, i ∈ s.accesses ++ [j] := fun j => List.mem_append.mpr (Or.inl hi)
  rw [edit_eq]
  split_ifs
  · exact happend _
  · exact happend _
  · exact hi
  · exact happend _
  · exact happend _
  · exact (mem_echo s _ i).mpr (Or.inl hi)
  · exact hi

end Parts

/-! ### Calls and runs -/

section Calls

variable {s : Editor} (exec : (UInt32 → UInt8) → UInt32 → UInt8)

lemma safe_fits {r : Received} (h : Safe s r) : Fits s r := by
  cases r with
  | locked => exact h.1
  | burst bytes => exact ⟨h.1, fun h0 => (h.2 h0).1⟩

/-- The last character of a burst that fits decides what is done. -/
lemma editSafe_burst {bytes : List UInt8} (hfits : Fits s (.burst bytes)) :
    EditSafe (receive (.burst bytes) s).2 (receive (.burst bytes) s).1.1
      (receive (.burst bytes) s).1.2 ↔ Safe s (.burst bytes) := by
  have hlen : s.curpos.toNat + bytes.length ≤ 64 := hfits.1
  have hcount : (UInt32.ofNat bytes.length).toNat = bytes.length :=
    UInt32.toNat_ofNat_of_lt' (by rw [UInt32.size]; omega)
  have hchar : ∀ b, bytes.getLast? = some b → (receive (.burst bytes) s).1.2 = b :=
    fun b hb => storeBytes_last s s.curpos hb
  rw [EditSafe, receive_curpos, show (receive (.burst bytes) s).1.1 = UInt32.ofNat bytes.length
    from rfl, hcount]
  cases hlast : bytes.getLast? with
  | none =>
    obtain rfl := List.getLast?_eq_none_iff.mp hlast
    have hpos : s.curpos ≠ 0 := fun h0 => hfits.2 h0 rfl
    refine iff_of_true ?_ ⟨hfits.1, fun h0 => absurd h0 hpos⟩
    split
    · exact Or.inl rfl
    · exact Or.inr (Or.inr fun _ => by omega)
  | some b =>
    have hne : bytes ≠ [] := by
      rintro rfl
      cases hlast
    have hnonzero : UInt32.ofNat bytes.length ≠ 0 := by
      intro h0
      have := congrArg UInt32.toNat h0
      rw [hcount] at this
      exact hne (List.length_eq_zero_iff.mp this)
    rw [hchar b hlast]
    by_cases hback : b = 0x08
    · rw [if_pos hback, or_iff_right hnonzero]
      refine ⟨fun hpos => ⟨hfits.1, fun h0 => absurd h0 hpos⟩, fun hsafe h0 => ?_⟩
      exact (hsafe.2 h0).2 (hback ▸ hlast)
    · rw [if_neg hback]
      refine iff_of_true (Or.inr (Or.inr fun _ => by omega)) ⟨hfits.1, fun _ => ⟨hne, ?_⟩⟩
      intro h8
      exact hback (Option.some.inj (hlast.symm.trans h8))

/-- The error code as a count: there is no character that could be echoed. -/
lemma editSafe_locked (hs : Bounded s) (hfits : Fits s .locked) :
    EditSafe (receive .locked s).2 (receive .locked s).1.1 (receive .locked s).1.2 ↔
      Safe s .locked := by
  have hlow : 14 ≤ s.curpos.toNat := hfits
  have hhigh : s.curpos.toNat < 64 := hs.curpos
  have hcount : (UInt32.ofInt (-eAcces)).toNat = 2 ^ 32 - 13 := by decide
  have hsum : (s.curpos + UInt32.ofInt (-eAcces)).toNat = s.curpos.toNat - 13 := by
    rw [UInt32.toNat_add, hcount]
    omega
  have hecho : ¬ ((s.curpos + UInt32.ofInt (-eAcces)).toNat < maxCmdLen - 1 →
      s.curpos.toNat + (UInt32.ofInt (-eAcces)).toNat < 2 ^ 32) := by
    rw [hsum, hcount, maxCmdLen]
    omega
  have hpos : s.curpos ≠ 0 := by
    intro h0
    rw [h0] at hlow
    exact absurd hlow (by decide)
  rw [EditSafe, receive_curpos, receive_locked, locked_index, Safe, and_iff_right hlow]
  by_cases hback : s.cmdBuf (s.curpos - 14) = 0x08
  · rw [if_pos hback]
    exact iff_of_true (Or.inr hpos) (Or.inl hback)
  · rw [if_neg hback, or_iff_right hback, or_iff_left hecho]

/-- A call stays inside the buffer if and only if it is safe. -/
lemma getcmd_bounded_iff (hs : Bounded s) (r : Received) :
    Bounded (getcmd exec r s).2 ↔ Safe s r := by
  rw [show (getcmd exec r s).2 = (edit exec (receive r s).1.1 (receive r s).1.2
    (receive r s).2).2 from rfl]
  by_cases hfits : Fits s r
  · have hreceived := (receive_bounded_iff hs r).mpr hfits
    rw [edit_bounded_iff exec hreceived]
    cases r with
    | locked => exact editSafe_locked hs hfits
    | burst bytes => exact editSafe_burst hfits
  · refine iff_of_false (fun h => hfits ?_) fun h => hfits (safe_fits h)
    -- an access outside the buffer stays in the record
    refine (receive_bounded_iff hs r).mp ⟨?_, fun i hi => h.accesses i (mem_edit exec _ _ _ hi)⟩
    rw [receive_curpos]
    exact hs.curpos

/-- **The bounds of the line editor.** For every run of calls, from the empty line on, the
position and all accesses of the buffer are inside it if and only if each call is safe in the
state before it. -/
theorem getcmd_runs_bounded_iff (buf : UInt32 → UInt8) {steps : List (Editor × Received)}
    {t : Editor} (hrun : Run (fun s r s' => s' = (getcmd exec r s).2) ⟨buf, 0, []⟩ steps t) :
    (∀ p ∈ steps, Bounded p.1) ∧ Bounded t ↔ ∀ p ∈ steps, Safe p.1 p.2 := by
  refine hrun.all_iff (I := fun _ => True) (fun _ _ _ _ _ => trivial) ?_ trivial
    ⟨show Inside 0 by decide, fun i hi => absurd hi List.not_mem_nil⟩
  rintro s r _ - hs rfl
  exact getcmd_bounded_iff exec hs r

end Calls

/-- The buffer and the position at reset. -/
def emptyLine : Editor := ⟨fun _ => 0, 0, []⟩

/-- A letter, and a burst that ends the line. -/
theorem getcmd_runs_bounded_word :
    ∃ steps t, Run (fun s r s' => s' = (getcmd id r s).2) emptyLine steps t ∧
      steps.map Prod.snd = [.burst ['h'.toUInt8], .burst ['i'.toUInt8, '\r'.toUInt8]] ∧
      (∀ p ∈ steps, Bounded p.1) ∧ Bounded t := by
  have hrun : Run (fun s r s' => s' = (getcmd id r s).2) emptyLine
      [(emptyLine, .burst ['h'.toUInt8]),
        ((getcmd id (.burst ['h'.toUInt8]) emptyLine).2, .burst ['i'.toUInt8, '\r'.toUInt8])] _ :=
    .cons rfl (.cons rfl (.nil _))
  refine ⟨_, _, hrun, rfl, (getcmd_runs_bounded_iff id (fun _ => 0) hrun).mpr ?_⟩
  refine List.forall_mem_cons.mpr ⟨⟨by decide, fun _ => by decide⟩,
    List.forall_mem_singleton.mpr ⟨by decide, fun _ => by decide⟩⟩

/-- A backspace on the empty line: the position wraps around, and the byte before the buffer is
overwritten. -/
theorem getcmd_backspace :
    (getcmd id (.burst [0x08]) emptyLine).2.curpos = 0xffffffff ∧
    0xffffffff ∈ (getcmd id (.burst [0x08]) emptyLine).2.accesses ∧
    ¬ ∀ steps t, Run (fun s r s' => s' = (getcmd id r s).2) emptyLine steps t →
      (∀ p ∈ steps, Bounded p.1) ∧ Bounded t := by
  refine ⟨by decide, by decide, fun hall => ?_⟩
  obtain ⟨-, hbounded⟩ := hall [(emptyLine, .burst [0x08])] _ (.cons rfl (.nil _))
  exact absurd hbounded.curpos (by decide)

end A733Boot.Ar100s.LineEditor
