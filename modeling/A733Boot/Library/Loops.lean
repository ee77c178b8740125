/-
Programs over registers with loops that the hardware ends. Such a loop has a bound on its
rounds, its fuel, and a program that runs out of fuel has no result.

* `Fueled`: the programs, with `bind_eq_some` to take a result apart;
* `again`: a round that is repeated until it yields a value;
* `again_last`: the last round of a loop that ended starts from a state that every round
  before it has kept;
* `again_total`: a loop ends when each round that repeats it makes something smaller;
* `Silent`: a program that writes nothing, with a rule for each way of putting programs together.
-/
import A733Boot.Library.Registers

namespace A733Boot

/-- A program over the registers that has a result only if its loops end within their fuel. -/
abbrev Fueled (α : Type) := StateT Regs Option α

instance : MonadLift (StateT Regs Id) (StateT Regs Option) := ⟨fun m s => some (m s)⟩

namespace Fueled

variable {σ α β : Type}

/-- Repeat the round until it yields a value. -/
def again (round : Fueled (Option α)) : ℕ → Fueled α
  | 0 => fun _ => none
  | fuel + 1 => do
    match ← round with
    | some a => pure a
    | none => again round fuel

lemma bind_eq_some {m : StateT σ Option α} {f : α → StateT σ Option β} {s : σ} {r : β × σ} :
    (m >>= f) s = some r ↔ ∃ a s', m s = some (a, s') ∧ f a s' = some r := by
  rw [show (m >>= f) s = (m s).bind (fun p => f p.1 p.2) from rfl, Option.bind_eq_some_iff,
    Prod.exists]

lemma bind_of_some {m : StateT σ Option α} (f : α → StateT σ Option β) {s s' : σ} {a : α}
    (h : m s = some (a, s')) : (m >>= f) s = f a s' := by
  rw [show (m >>= f) s = (m s).bind (fun p => f p.1 p.2) from rfl, h, Option.bind_some]

@[simp] lemma pure_apply (a : α) (s : σ) : (pure a : StateT σ Option α) s = some (a, s) := rfl

@[simp] lemma lift_bind (m : Io α) (f : α → Fueled β) (s : Regs) :
    ((liftM m : Fueled α) >>= f) s = f (m s).1 (m s).2 := rfl

section Rules

variable {round : Fueled (Option α)} {fuel : ℕ} {s s' : Regs} {a : α}

/-- The last round of a loop that ended, from a state with the property that the rounds before
it have kept. -/
lemma again_last (Inv : Regs → Prop) (hkeep : ∀ s s', Inv s → round s = some (none, s') → Inv s')
    (hs : Inv s) (h : again round fuel s = some (a, s')) :
    ∃ s₁, Inv s₁ ∧ round s₁ = some (some a, s') := by
  induction fuel generalizing s with
  | zero => cases h
  | succ fuel ih =>
    rw [again, bind_eq_some] at h
    obtain ⟨r, s₁, hround, hrest⟩ := h
    cases r with
    | none => exact ih (hkeep s s₁ hs hround) hrest
    | some b =>
      obtain ⟨rfl, rfl⟩ : b = a ∧ s₁ = s' := by simpa using hrest
      exact ⟨s, hs, hround⟩

/-- A loop ends if every round has a result, and one that repeats the loop makes the measure
smaller. -/
lemma again_total (measure : Regs → ℕ) (hround : ∀ s, ∃ r s', round s = some (r, s') ∧
      (r = none → measure s' < measure s)) (h : measure s < fuel) :
    ∃ a s', again round fuel s = some (a, s') := by
  induction fuel generalizing s with
  | zero => exact absurd h (Nat.not_lt_zero _)
  | succ fuel ih =>
    obtain ⟨r, s₁, heq, hless⟩ := hround s
    rw [again, bind_of_some _ heq]
    cases r with
    | none => exact ih (lt_of_lt_of_le (hless rfl) (Nat.le_of_lt_succ h))
    | some b => exact ⟨b, s₁, rfl⟩

end Rules

/-- The program writes nothing. -/
def Silent (m : Fueled α) : Prop := ∀ s a s', m s = some (a, s') → s'.word = s.word

namespace Silent

variable {m : Fueled α} {f : α → Fueled β}

lemma pure (a : α) : Silent (Pure.pure a : Fueled α) := by
  intro s b s' h
  rw [← (Prod.mk.inj (Option.some.inj h)).2]

lemma readl (d : Device) (a : ℕ) : Silent (liftM (A733Boot.readl d a)) := by
  intro s b s' h
  rw [← (Prod.mk.inj (Option.some.inj h)).2]

lemma bind (hm : Silent m) (hf : ∀ a, Silent (f a)) : Silent (m >>= f) := by
  intro s b s' h
  obtain ⟨a, s₁, h₁, h₂⟩ := bind_eq_some.mp h
  rw [hf a s₁ b s' h₂, hm s a s₁ h₁]

lemma ite {c : Prop} [Decidable c] {m' : Fueled α} (h : Silent m) (h' : Silent m') :
    Silent (if c then m else m') := by
  split
  · exact h
  · exact h'

lemma again {round : Fueled (Option α)} (h : Silent round) (fuel : ℕ) :
    Silent (Fueled.again round fuel) := by
  intro s a s' hrun
  obtain ⟨s₁, hword, hlast⟩ := again_last (fun t => t.word = s.word)
    (fun t t' ht hround => (h t none t' hround).trans ht) rfl hrun
  rw [h s₁ (some a) s' hlast, hword]

end Silent

end Fueled

end A733Boot
