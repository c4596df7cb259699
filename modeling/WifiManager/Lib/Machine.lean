/-
Deterministic machines with outputs.

A machine is a step function from a state and an input to the next state and an
output. `run` is the state after a list of inputs and `outputs` what the steps gave
out on the way, for machines that do not answer every input. An invariant may speak
about the inputs that are still to come (`run_induction`), which is how an assumption
about the environment, such as a bound on the time between two inputs, is carried
along a run. Where it is known which steps keep an invariant, the runs that satisfy it
throughout are known too (`invariant_iff`), and what steps only ever add is there
exactly if one of them has added it (`gained_iff`); what steps may also take is there exactly
if one of them has given it and none has taken it since (`since_iff`). A machine whose steps are
runs of another one has no other runs than that one has (`run_refines`). Two machines that stay
related give the same outputs (`run_related`, `outputs_eq`), and inputs that a machine does
not react to can be left out (`run_filter`, `outputs_filter`).
-/
import Mathlib.Data.List.Basic
import Mathlib.Data.List.Induction

set_option autoImplicit false

namespace WifiManager.Lib.Machine

variable {σ τ ε δ ο π : Type*}

/-- The state after a list of inputs. -/
def run (step : σ → ε → σ × ο) (s : σ) (inputs : List ε) : σ :=
  inputs.foldl (fun s e => (step s e).1) s

section Run

variable (step : σ → ε → σ × ο)

@[simp] theorem run_nil (s : σ) : run step s [] = s := rfl

@[simp] theorem run_cons (s : σ) (e : ε) (inputs : List ε) :
    run step s (e :: inputs) = run step (step s e).1 inputs := rfl

theorem run_append (s : σ) (before after : List ε) :
    run step s (before ++ after) = run step (run step s before) after :=
  List.foldl_append

/-- **The invariant rule.** What every step hands on, together with the inputs still to
come, holds in front of every input. -/
theorem run_induction {I : σ → List ε → Prop}
    (hstep : ∀ s e inputs, I s (e :: inputs) → I (step s e).1 inputs)
    {s : σ} {before after : List ε} (h : I s (before ++ after)) :
    I (run step s before) after := by
  induction before generalizing s with
  | nil => exact h
  | cons e before ih => exact ih (hstep s e _ h)

/-- The rule for invariants of the state alone. -/
theorem run_invariant {I : σ → Prop} (hstep : ∀ s e, I s → I (step s e).1) {s : σ} (h : I s)
    (inputs : List ε) : I (run step s inputs) := by
  induction inputs generalizing s with
  | nil => exact h
  | cons e inputs ih => exact ih (hstep s e h)

/-! ## Every step of a run -/

/-- What holds of every step of a run, of the state in front of it and its input. -/
def AtEveryStep (s : σ) (inputs : List ε) (P : σ → ε → Prop) : Prop :=
  ∀ before e after, inputs = before ++ e :: after → P (run step s before) e

variable {step}

theorem atEveryStep_cons {s : σ} {e : ε} {inputs : List ε} {P : σ → ε → Prop} :
    AtEveryStep step s (e :: inputs) P ↔
      P s e ∧ AtEveryStep step (step s e).1 inputs P := by
  constructor
  · intro h
    refine ⟨h [] e inputs rfl, fun before e' after hinputs => ?_⟩
    exact h (e :: before) e' after (by rw [hinputs, List.cons_append])
  · rintro ⟨hfirst, hrest⟩ before e' after hinputs
    rcases before with - | ⟨d, before⟩
    · obtain ⟨rfl, -⟩ := List.cons.inj hinputs
      exact hfirst
    · obtain ⟨rfl, htail⟩ := List.cons.inj hinputs
      exact hrest before e' after htail

theorem atEveryStep_nil (s : σ) (P : σ → ε → Prop) : AtEveryStep step s [] P := by
  intro before e after hinputs
  simp at hinputs

theorem atEveryStep_append {s : σ} {before after : List ε} {P : σ → ε → Prop} :
    AtEveryStep step s (before ++ after) P ↔
      AtEveryStep step s before P ∧ AtEveryStep step (run step s before) after P := by
  induction before generalizing s with
  | nil => exact ⟨fun h => ⟨atEveryStep_nil s P, h⟩, And.right⟩
  | cons e before ih =>
      rw [List.cons_append, atEveryStep_cons, atEveryStep_cons, ih, run_cons, and_assoc]

/-- A condition that can be decided at a step can be decided along a run. -/
instance decidableAtEveryStep (P : σ → ε → Prop) [∀ s e, Decidable (P s e)] :
    ∀ (inputs : List ε) (s : σ), Decidable (AtEveryStep step s inputs P)
  | [], s => isTrue (atEveryStep_nil s P)
  | e :: inputs, s =>
      have := decidableAtEveryStep P inputs (step s e).1
      decidable_of_iff' (P s e ∧ AtEveryStep step (step s e).1 inputs P) atEveryStep_cons

/-- **The invariant rule for runs whose steps satisfy a condition.** -/
theorem run_conditional {I : σ → Prop} {C : σ → ε → Prop}
    (hstep : ∀ s e, I s → C s e → I (step s e).1) {s : σ} (hs : I s) {inputs : List ε}
    (hC : AtEveryStep step s inputs C) : I (run step s inputs) := by
  induction inputs generalizing s with
  | nil => exact hs
  | cons e inputs ih =>
      obtain ⟨hfirst, hrest⟩ := atEveryStep_cons.mp hC
      exact ih (hstep s e hs hfirst) hrest

/-- Under an invariant, a step may be described in another way. -/
theorem atEveryStep_congr {I : σ → Prop} (hI : ∀ s e, I s → I (step s e).1) {s : σ} (hs : I s)
    {P Q : σ → ε → Prop} (hiff : ∀ s e, I s → (P s e ↔ Q s e)) (inputs : List ε) :
    AtEveryStep step s inputs P ↔ AtEveryStep step s inputs Q := by
  have hreached : ∀ before, I (run step s before) := run_invariant step hI hs
  constructor
  · intro h before e after hinputs
    exact (hiff _ e (hreached before)).mp (h before e after hinputs)
  · intro h before e after hinputs
    exact (hiff _ e (hreached before)).mpr (h before e after hinputs)

/-- **The exact condition of an invariant.** Where `C` says which steps keep `J`, the
states of a run satisfy `J` throughout if and only if its steps satisfy `C` throughout. -/
theorem invariant_iff {I J : σ → Prop} {C : σ → ε → Prop} (hI : ∀ s e, I s → I (step s e).1)
    (hiff : ∀ s e, I s → J s → (J (step s e).1 ↔ C s e)) {s : σ} (hs : I s) (hJ : J s)
    (inputs : List ε) :
    (∀ before after, inputs = before ++ after → J (run step s before)) ↔
      AtEveryStep step s inputs C := by
  have hreached : ∀ before, I (run step s before) := run_invariant step hI hs
  constructor
  · intro h before e after hinputs
    have hnext := h (before ++ [e]) after
      (by rw [hinputs, List.append_assoc, List.singleton_append])
    rw [run_append, run_cons, run_nil] at hnext
    exact (hiff _ e (hreached before) (h before _ hinputs)).mp hnext
  · intro h before
    -- the states are reached one step after the other, from the left
    induction before using List.reverseRecOn with
    | nil => exact fun _ _ => hJ
    | append_singleton before e ih =>
        intro after hinputs
        rw [List.append_assoc, List.singleton_append] at hinputs
        rw [run_append, run_cons, run_nil]
        exact (hiff _ e (hreached before) (ih _ hinputs)).mpr (h before e after hinputs)

/-- **What is only gained**: it holds behind a run if it held in front of it, or if one of
the steps gave it. -/
theorem gained_iff (P : σ → Prop) (G : σ → ε → Prop)
    (hstep : ∀ s e, P (step s e).1 ↔ P s ∨ G s e) (s : σ) (inputs : List ε) :
    P (run step s inputs) ↔
      P s ∨ ∃ before e after, inputs = before ++ e :: after ∧ G (run step s before) e := by
  induction inputs generalizing s with
  | nil =>
      refine ⟨.inl, fun h => h.elim id ?_⟩
      rintro ⟨before, e, after, hinputs, -⟩
      simp at hinputs
  | cons e inputs ih =>
      rw [run_cons, ih, hstep, or_assoc]
      refine or_congr_right ⟨?_, ?_⟩
      · rintro (hfirst | ⟨before, d, after, rfl, hlater⟩)
        · exact ⟨[], e, inputs, rfl, hfirst⟩
        · exact ⟨e :: before, d, after, rfl, hlater⟩
      · rintro ⟨before, d, after, hinputs, hgives⟩
        rcases before with - | ⟨c, before⟩
        · obtain ⟨rfl, -⟩ := List.cons.inj hinputs
          exact .inl hgives
        · obtain ⟨rfl, htail⟩ := List.cons.inj hinputs
          exact .inr ⟨before, d, after, htail, hgives⟩

/-- **What has been given and not taken**: it holds behind a run if and only if a step has given it
and every step since then is one that leaves it. -/
theorem since_iff {I J : σ → Prop} {G K : σ → ε → Prop} (hI : ∀ s e, I s → I (step s e).1)
    (hstep : ∀ s e, I s → (J (step s e).1 ↔ G s e ∨ J s ∧ K s e)) {s : σ} (hs : I s) (hJ : ¬ J s)
    (inputs : List ε) :
    J (run step s inputs) ↔ ∃ before e after, inputs = before ++ e :: after ∧
      G (run step s before) e ∧ AtEveryStep step (run step s (before ++ [e])) after K := by
  have hreached : ∀ before, I (run step s before) := run_invariant step hI hs
  constructor
  · intro h
    induction inputs using List.reverseRecOn with
    | nil => exact absurd h hJ
    | append_singleton inputs e ih =>
        rw [run_append, run_cons, run_nil, hstep _ e (hreached inputs)] at h
        rcases h with hgiven | ⟨hbefore, hleft⟩
        · exact ⟨inputs, e, [], rfl, hgiven, atEveryStep_nil _ K⟩
        · obtain ⟨before, d, after, rfl, hgiven, hkept⟩ := ih hbefore
          refine ⟨before, d, after ++ [e], ?_, hgiven, ?_⟩
          · rw [List.append_assoc, List.cons_append]
          · refine atEveryStep_append.mpr ⟨hkept, atEveryStep_cons.mpr ⟨?_, atEveryStep_nil _ K⟩⟩
            rwa [← run_append, List.append_assoc, List.singleton_append]
  · rintro ⟨before, e, after, rfl, hgiven, hkept⟩
    rw [← List.singleton_append, ← List.append_assoc, run_append]
    have hgained : J (run step s (before ++ [e])) := by
      rw [run_append, run_cons, run_nil, hstep _ e (hreached before)]
      exact .inl hgiven
    -- from there on every step leaves it
    exact (run_conditional (I := fun t => I t ∧ J t)
      (fun t d h hK => ⟨hI t d h.1, (hstep t d h.1).mpr (.inr ⟨h.2, hK⟩)⟩)
      ⟨hreached (before ++ [e]), hgained⟩ hkept).2

/-- **The refinement rule.** If every step of a machine is a run of another one, as far as
`view` sees the state, then so is every run. -/
theorem run_refines {step' : τ → δ → τ × π} {view : σ → τ}
    (hstep : ∀ s e, ∃ inputs', view (step s e).1 = run step' (view s) inputs') (s : σ)
    (inputs : List ε) : ∃ inputs', view (run step s inputs) = run step' (view s) inputs' := by
  induction inputs generalizing s with
  | nil => exact ⟨[], rfl⟩
  | cons e inputs ih =>
      obtain ⟨first, hfirst⟩ := hstep s e
      obtain ⟨rest, hrest⟩ := ih (step s e).1
      refine ⟨first ++ rest, ?_⟩
      rw [run_cons, hrest, run_append, hfirst]

end Run

/-! ## Outputs -/

/-- What a machine gives out along a list of inputs. -/
def outputs (step : σ → ε → σ × Option ο) : σ → List ε → List ο
  | _, [] => []
  | s, e :: inputs => (step s e).2.toList ++ outputs step (step s e).1 inputs

theorem outputs_append (step : σ → ε → σ × Option ο) (s : σ) (before after : List ε) :
    outputs step s (before ++ after)
      = outputs step s before ++ outputs step (run step s before) after := by
  induction before generalizing s with
  | nil => rfl
  | cons e before ih => rw [List.cons_append, outputs, outputs, ih, run_cons, List.append_assoc]

/-- What is given out, some step gives out. -/
theorem mem_outputs {step : σ → ε → σ × Option ο} {s : σ} {inputs : List ε} {output : ο} :
    output ∈ outputs step s inputs ↔ ∃ before e after, inputs = before ++ e :: after ∧
      (step (run step s before) e).2 = some output := by
  induction inputs generalizing s with
  | nil =>
      refine iff_of_false List.not_mem_nil ?_
      rintro ⟨before, e, after, hinputs, -⟩
      simp at hinputs
  | cons e inputs ih =>
      rw [outputs, List.mem_append, Option.mem_toList, ih]
      constructor
      · rintro (hfirst | ⟨before, d, after, rfl, hlater⟩)
        · exact ⟨[], e, inputs, rfl, hfirst⟩
        · exact ⟨e :: before, d, after, rfl, hlater⟩
      · rintro ⟨before, d, after, hinputs, hgiven⟩
        rcases before with - | ⟨c, before⟩
        · obtain ⟨rfl, -⟩ := List.cons.inj hinputs
          exact .inl hgiven
        · obtain ⟨rfl, htail⟩ := List.cons.inj hinputs
          exact .inr ⟨before, d, after, htail, hgiven⟩

/-- What is made of each output. -/
theorem outputs_filterMap (step : σ → ε → σ × Option ο) (f : ο → Option π) (s : σ)
    (inputs : List ε) :
    outputs (fun s e => ((step s e).1, (step s e).2.bind f)) s inputs
      = (outputs step s inputs).filterMap f := by
  induction inputs generalizing s with
  | nil => rfl
  | cons e inputs ih =>
      rw [outputs, outputs, List.filterMap_append, ih]
      congr 1
      cases (step s e).2 with
      | none => rfl
      | some output => cases hf : f output <;> simp [hf]

/-- **The invariant rule for a state and what has been given out so far**, for runs whose
steps satisfy a condition. -/
theorem run_recorded {step : σ → ε → σ × Option ο} {I : σ → List ο → Prop} {C : σ → ε → Prop}
    (hstep : ∀ s given e, I s given → C s e → I (step s e).1 (given ++ (step s e).2.toList))
    {s : σ} {given : List ο} (hs : I s given) {inputs : List ε}
    (hC : AtEveryStep step s inputs C) :
    I (run step s inputs) (given ++ outputs step s inputs) := by
  induction inputs generalizing s given with
  | nil =>
      rw [outputs, List.append_nil]
      exact hs
  | cons e inputs ih =>
      obtain ⟨hfirst, hrest⟩ := atEveryStep_cons.mp hC
      rw [outputs, run_cons, ← List.append_assoc]
      exact ih (hstep s given e hs hfirst) hrest

/-- **What is given out follows from what was given out before.** -/
theorem outputs_follow {step : σ → ε → σ × Option ο} {I : σ → List ο → Prop} {C : σ → ε → Prop}
    {P : List ο → ο → Prop}
    (hstep : ∀ s given e, I s given → C s e →
      I (step s e).1 (given ++ (step s e).2.toList) ∧
        ∀ output, (step s e).2 = some output → P given output)
    {s : σ} {given : List ο} (hs : I s given) {inputs : List ε}
    (hC : AtEveryStep step s inputs C) {before : List ο} {output : ο} {after : List ο}
    (houtputs : outputs step s inputs = before ++ output :: after) :
    P (given ++ before) output := by
  induction inputs generalizing s given before with
  | nil => simp [outputs] at houtputs
  | cons e inputs ih =>
      obtain ⟨hfirst, hrest⟩ := atEveryStep_cons.mp hC
      obtain ⟨hnext, hgiven⟩ := hstep s given e hs hfirst
      rw [outputs] at houtputs
      cases hout : (step s e).2 with
      | none =>
          rw [hout, Option.toList_none] at houtputs hnext
          rw [List.append_nil] at hnext
          exact ih hnext hrest houtputs
      | some first =>
          rw [hout, Option.toList_some] at houtputs hnext
          cases before with
          | nil =>
              obtain rfl : first = output := (List.cons.inj houtputs).1
              rw [List.append_nil]
              exact hgiven first hout
          | cons head before =>
              obtain ⟨rfl, htail⟩ := List.cons.inj houtputs
              have hlater := ih hnext hrest htail
              rwa [List.append_assoc] at hlater

/-- **The simulation rule.** Machines that stay related give the same outputs. -/
theorem outputs_eq {step : σ → ε → σ × Option ο} {step' : τ → ε → τ × Option ο}
    {R : σ → τ → List ε → Prop}
    (hstep : ∀ s t e inputs, R s t (e :: inputs) →
      (step s e).2 = (step' t e).2 ∧ R (step s e).1 (step' t e).1 inputs)
    {s : σ} {t : τ} {inputs : List ε} (h : R s t inputs) :
    outputs step s inputs = outputs step' t inputs := by
  induction inputs generalizing s t with
  | nil => rfl
  | cons e inputs ih =>
      obtain ⟨hout, hnext⟩ := hstep s t e inputs h
      rw [outputs, outputs, hout, ih hnext]

/-- The states stay related, too. -/
theorem run_related {step : σ → ε → σ × ο} {step' : τ → ε → τ × π} {R : σ → τ → List ε → Prop}
    (hstep : ∀ s t e inputs, R s t (e :: inputs) → R (step s e).1 (step' t e).1 inputs)
    {s : σ} {t : τ} {inputs : List ε} (h : R s t inputs) :
    R (run step s inputs) (run step' t inputs) [] := by
  induction inputs generalizing s t with
  | nil => exact h
  | cons e inputs ih => exact ih (hstep s t e inputs h)

/-- Inputs that change nothing. -/
theorem run_filter {step : σ → ε → σ × ο} {keep : ε → Bool}
    (hskip : ∀ s e, keep e = false → (step s e).1 = s) (s : σ) (inputs : List ε) :
    run step s (inputs.filter keep) = run step s inputs := by
  induction inputs generalizing s with
  | nil => rfl
  | cons e inputs ih =>
      by_cases hkeep : keep e = true
      · rw [List.filter_cons_of_pos hkeep, run_cons, run_cons, ih]
      · rw [List.filter_cons_of_neg hkeep, run_cons, hskip s e (by simpa using hkeep), ih]

/-- Inputs that change nothing and get no answer. -/
theorem outputs_filter {step : σ → ε → σ × Option ο} {keep : ε → Bool}
    (hskip : ∀ s e, keep e = false → step s e = (s, none)) (s : σ) (inputs : List ε) :
    outputs step s (inputs.filter keep) = outputs step s inputs := by
  induction inputs generalizing s with
  | nil => rfl
  | cons e inputs ih =>
      by_cases hkeep : keep e = true
      · rw [List.filter_cons_of_pos hkeep, outputs, outputs, ih]
      · rw [List.filter_cons_of_neg hkeep, outputs, hskip s e (by simpa using hkeep), ih]
        rfl

end WifiManager.Lib.Machine
