/-
Trees laid out as a run of tokens in memory: each token says how many bytes it takes and when
it stands at an address, a block is a list of tokens one behind the other, and a nesting of
nodes opens and closes with a token each.

* `Laid`: the tokens stand one behind the other, with `laid_append` for the parts;
* `Laid.replace` (**the frame**): a part of the block is replaced by tokens of the same size,
  and the rest stands as before;
* `split_cases`: two tokens of a block do not overlap.
-/
import A733Boot.Library.Strings

namespace A733Boot

/-- A kind of token: how many bytes one takes, and when it stands at an address. What stands
at an address depends on the bytes there only. -/
structure TokenKind (τ : Type) where
  size : τ → ℕ
  At : Mem → ℕ → τ → Prop
  congr : ∀ {m m' : Mem} {o : ℕ} {t : τ}, At m o t → (∀ i < size t, m' (o + i) = m (o + i)) →
    At m' o t

namespace TokenKind

variable {τ : Type} (K : TokenKind τ)

/-- The number of bytes that the tokens take. -/
def sizes (ts : List τ) : ℕ := (ts.map K.size).sum

@[simp] lemma sizes_nil : K.sizes [] = 0 := rfl

@[simp] lemma sizes_cons (t : τ) (ts : List τ) : K.sizes (t :: ts) = K.size t + K.sizes ts := rfl

@[simp] lemma sizes_append (ts us : List τ) : K.sizes (ts ++ us) = K.sizes ts + K.sizes us := by
  simp [sizes]

/-- The tokens stand one behind the other from `o` on. -/
def Laid (m : Mem) : ℕ → List τ → Prop
  | _, [] => True
  | o, t :: ts => K.At m o t ∧ Laid m (o + K.size t) ts

variable {K} {m m' : Mem} {o : ℕ} {ts us vs : List τ}

lemma laid_append : K.Laid m o (ts ++ us) ↔ K.Laid m o ts ∧ K.Laid m (o + K.sizes ts) us := by
  induction ts generalizing o with
  | nil => simp [Laid]
  | cons t ts ih => simp only [List.cons_append, Laid, ih, sizes_cons, and_assoc, Nat.add_assoc]

lemma Laid.congr (h : K.Laid m o ts) (heq : ∀ i < K.sizes ts, m' (o + i) = m (o + i)) :
    K.Laid m' o ts := by
  induction ts generalizing o with
  | nil => trivial
  | cons t ts ih =>
    rw [sizes_cons] at heq
    refine ⟨K.congr h.1 fun i hi => heq i (by omega), ih h.2 fun i hi => ?_⟩
    rw [Nat.add_assoc]
    exact heq _ (by omega)

/-- **The frame**: outside of the part that is replaced nothing changes. -/
lemma Laid.replace {us' : List τ} (h : K.Laid m o (ts ++ us ++ vs))
    (hsize : K.sizes us' = K.sizes us) (hnew : K.Laid m' (o + K.sizes ts) us')
    (hframe : ∀ a, a < o + K.sizes ts ∨ o + K.sizes ts + K.sizes us ≤ a → m' a = m a) :
    K.Laid m' o (ts ++ us' ++ vs) := by
  rw [laid_append, laid_append] at h ⊢
  refine ⟨⟨h.1.1.congr fun i hi => hframe _ (.inl (by omega)), hnew⟩, ?_⟩
  rw [sizes_append] at h ⊢
  rw [hsize]
  exact h.2.congr fun i hi => hframe _ (.inr (by omega))

/-- Two tokens of one list are the same one, or one stands in front of the other. -/
lemma split_cases {t t' : τ} {us' vs' : List τ} (h : us ++ t :: vs = us' ++ t' :: vs') :
    (us = us' ∧ t = t') ∨ K.sizes us + K.size t ≤ K.sizes us' ∨
      K.sizes us' + K.size t' ≤ K.sizes us := by
  rcases List.append_eq_append_iff.mp h with ⟨as, hus, hcons⟩ | ⟨as, hus, hcons⟩
  · cases as with
    | nil =>
      rw [List.append_nil] at hus
      rw [List.nil_append, List.cons.injEq] at hcons
      exact .inl ⟨hus.symm, hcons.1⟩
    | cons a as =>
      rw [List.cons_append, List.cons.injEq] at hcons
      rw [hus, sizes_append, sizes_cons, hcons.1]
      exact .inr (.inl (by omega))
  · cases as with
    | nil =>
      rw [List.append_nil] at hus
      rw [List.nil_append, List.cons.injEq] at hcons
      exact .inl ⟨hus, hcons.1.symm⟩
    | cons a as =>
      rw [List.cons_append, List.cons.injEq] at hcons
      rw [hus, sizes_append, sizes_cons, hcons.1]
      exact .inr (.inr (by omega))

end TokenKind

end A733Boot
