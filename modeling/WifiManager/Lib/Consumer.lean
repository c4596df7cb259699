/-
Incremental consumers.

A consumer reads a stream one symbol at a time and either goes on in a new state
(`Sum.inl`) or stops with a verdict (`Sum.inr`); what follows the verdict is not
read. `consume` runs it over a list. `feedAll` is the interface such a consumer
has in a program: a `feed` function that takes the stream in chunks of any size
and is not called again after its first verdict. `feedAll_eq_consume` is the
whole point of the module: a `feed` that implements the consumer on one chunk
implements it on every way of cutting the stream.
-/
import Mathlib.Data.List.Basic

set_option autoImplicit false

namespace WifiManager.Lib.Consumer

variable {σ α ρ : Type*}

/-- Read a list of symbols, stopping at the first verdict. -/
def consume (step : σ → α → σ ⊕ ρ) : σ → List α → σ ⊕ ρ
  | s, [] => .inl s
  | s, a :: as =>
      match step s a with
      | .inl s' => consume step s' as
      | .inr r => .inr r

/-- Go on from a state, or keep the verdict already reached. -/
def andThen (x : σ ⊕ ρ) (k : σ → σ ⊕ ρ) : σ ⊕ ρ :=
  match x with
  | .inl s => k s
  | .inr r => .inr r

@[simp] theorem andThen_inl (s : σ) (k : σ → σ ⊕ ρ) : andThen (.inl s) k = k s := rfl

@[simp] theorem andThen_inr (r : ρ) (k : σ → σ ⊕ ρ) : andThen (.inr r) k = .inr r := rfl

variable {step : σ → α → σ ⊕ ρ}

@[simp] theorem consume_nil (s : σ) : consume step s [] = .inl s := rfl

theorem consume_cons (s : σ) (a : α) (as : List α) :
    consume step s (a :: as) = andThen (step s a) (fun s' => consume step s' as) := by
  rw [consume]
  cases step s a <;> rfl

/-- Reading a concatenation is reading one part after the other. -/
theorem consume_append (s : σ) (xs ys : List α) :
    consume step s (xs ++ ys) = andThen (consume step s xs) (fun s' => consume step s' ys) := by
  induction xs generalizing s with
  | nil => rfl
  | cons a as ih =>
      rw [List.cons_append, consume_cons, consume_cons]
      cases step s a with
      | inl s' => exact ih s'
      | inr r => rfl

/-- A verdict is reached on a finite prefix and stands whatever follows. -/
theorem consume_append_of_verdict {s : σ} {xs : List α} {r : ρ}
    (h : consume step s xs = .inr r) (ys : List α) : consume step s (xs ++ ys) = .inr r := by
  rw [consume_append, h]
  rfl

/-- What every step keeps, every run keeps. -/
theorem consume_invariant (I : σ → Prop) (hstep : ∀ s a s', I s → step s a = .inl s' → I s')
    {s s' : σ} {xs : List α} (hI : I s) (h : consume step s xs = .inl s') : I s' := by
  induction xs generalizing s with
  | nil => simp only [consume_nil, Sum.inl.injEq] at h; exact h ▸ hI
  | cons a as ih =>
      rw [consume_cons] at h
      cases hs : step s a with
      | inl t => exact ih (hstep s a t hI hs) (by simpa [hs] using h)
      | inr r => simp [hs] at h

/-! ## Chunked feeding -/

/-- Hand the chunks over one call after the other, stopping at the first verdict. -/
def feedAll (feed : σ → List α → σ ⊕ ρ) : σ → List (List α) → σ ⊕ ρ
  | s, [] => .inl s
  | s, c :: cs => andThen (feed s c) (fun s' => feedAll feed s' cs)

/-- **Chunking does not matter.** A `feed` that implements the consumer on one
chunk, from every state of an invariant, implements it on any cut of the stream. -/
theorem feedAll_eq_consume (I : σ → Prop) (feed : σ → List α → σ ⊕ ρ)
    (hstep : ∀ s a s', I s → step s a = .inl s' → I s')
    (hfeed : ∀ s c, I s → feed s c = consume step s c)
    {s : σ} (hI : I s) (cs : List (List α)) :
    feedAll feed s cs = consume step s cs.flatten := by
  induction cs generalizing s with
  | nil => rfl
  | cons c cs ih =>
      rw [feedAll, List.flatten_cons, consume_append, hfeed s c hI]
      cases hc : consume step s c with
      | inl s' => exact ih (consume_invariant I hstep hI hc)
      | inr r => rfl

end WifiManager.Lib.Consumer
