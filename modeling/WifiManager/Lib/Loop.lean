/-
While loops over an explicit state.

A loop is given by its body, a function from the loop state to either the next
state (`Sum.inl`, go round again) or the value the loop leaves with (`Sum.inr`).
`Exits` is the loop's meaning with no bound on the number of rounds: a finite
derivation of `Exits body s r` is a terminating execution from `s` that leaves
with `r`. `run` executes at most a given number of rounds, and `exitValue` is the
total reading of a loop whose number of rounds is known in advance. The link
between the two is `exits_exitValue`: if a measure bounds the rounds on an
invariant, the value `exitValue` computes is the one the unbounded loop leaves
with.
-/
import Mathlib.Data.Nat.Basic

set_option autoImplicit false

namespace WifiManager.Lib.Loop

variable {σ ρ : Type*}

/-- The loop with body `body`, started in `s`, terminates and leaves with `r`. -/
inductive Exits (body : σ → σ ⊕ ρ) : σ → ρ → Prop
  | leave {s : σ} {r : ρ} : body s = .inr r → Exits body s r
  | again {s s' : σ} {r : ρ} : body s = .inl s' → Exits body s' r → Exits body s r

/-- At most `n` rounds of the loop; `none` when it has not left by then. -/
def run (body : σ → σ ⊕ ρ) : ℕ → σ → Option ρ
  | 0, _ => none
  | n + 1, s =>
      match body s with
      | .inr r => some r
      | .inl s' => run body n s'

/-- The value a loop leaves with inside `n` rounds, and `default` if it has not
left by then. -/
def exitValue (body : σ → σ ⊕ ρ) (n : ℕ) (default : ρ) (s : σ) : ρ :=
  (run body n s).getD default

variable {body : σ → σ ⊕ ρ}

/-- A bounded execution that leaves is an execution of the unbounded loop. -/
theorem exits_of_run {n : ℕ} {s : σ} {r : ρ} (h : run body n s = some r) :
    Exits body s r := by
  induction n generalizing s with
  | zero => simp [run] at h
  | succ n ih =>
      rw [run] at h
      cases hb : body s with
      | inr r' =>
          rw [hb] at h
          exact .leave (by simpa [hb] using h)
      | inl s' =>
          rw [hb] at h
          exact .again hb (ih h)

/-- A loop leaves with one value only. -/
theorem Exits.unique {s : σ} {r₁ r₂ : ρ} (h₁ : Exits body s r₁) (h₂ : Exits body s r₂) :
    r₁ = r₂ := by
  induction h₁ with
  | leave hb =>
      cases h₂ with
      | leave hb' => simpa [hb] using hb'
      | again hb' _ => simp [hb] at hb'
  | again hb _ ih =>
      cases h₂ with
      | leave hb' => simp [hb] at hb'
      | again hb' h' =>
          have : _ = _ := Sum.inl.inj (hb.symm.trans hb')
          subst this
          exact ih h'

/-- **Termination.** On an invariant that the body keeps and under which it
lowers a measure, a loop leaves inside any number of rounds above the measure. -/
theorem run_of_measure (I : σ → Prop) (μ : σ → ℕ)
    (hstep : ∀ s s', I s → body s = .inl s' → I s' ∧ μ s' < μ s)
    {n : ℕ} {s : σ} (hI : I s) (hn : μ s < n) : ∃ r, run body n s = some r := by
  induction n generalizing s with
  | zero => omega
  | succ n ih =>
      rw [run]
      cases hb : body s with
      | inr r => exact ⟨r, rfl⟩
      | inl s' =>
          obtain ⟨hI', hlt⟩ := hstep s s' hI hb
          exact ih hI' (by omega)

/-- The total reading of a measured loop is what the loop leaves with. -/
theorem exits_exitValue (I : σ → Prop) (μ : σ → ℕ)
    (hstep : ∀ s s', I s → body s = .inl s' → I s' ∧ μ s' < μ s)
    {n : ℕ} {s : σ} (default : ρ) (hI : I s) (hn : μ s < n) :
    Exits body s (exitValue body n default s) := by
  obtain ⟨r, hr⟩ := run_of_measure I μ hstep hI hn
  rw [exitValue, hr]
  exact exits_of_run hr

/-- **The invariant rule.** What holds at the start and is kept by every round
holds where the loop leaves. -/
theorem Exits.invariant (I : σ → Prop) (Q : ρ → Prop)
    (hkeep : ∀ s s', I s → body s = .inl s' → I s')
    (hleave : ∀ s r, I s → body s = .inr r → Q r)
    {s : σ} {r : ρ} (h : Exits body s r) (hI : I s) : Q r := by
  induction h with
  | leave hb => exact hleave _ _ hI hb
  | again hb _ ih => exact ih (hkeep _ _ hI hb)

end WifiManager.Lib.Loop
