/-
Jobs that are attempted a limited number of times.

A worker takes a job and attempts it until an attempt succeeds or the limit is reached; then
the job is settled, and the worker takes another one. `History` is what the attempts so far
look like: one block for each settled job, in order, and the failures of the job in hand. It is
kept by taking a job (`History.take`) and by an attempt (`History.attempt`).
-/
import Mathlib.Data.List.Basic
import Mathlib.Data.List.Forall2

set_option autoImplicit false

namespace WifiManager.Lib.Retry

variable {α ρ : Type*}

/-- An attempt at a job: its number, counted from 1, and its result. -/
structure attempt (α ρ : Type*) where
  job : α
  number : ℕ
  result : ρ
  deriving DecidableEq, Repr

inductive worker (α : Type*)
  | idle
  | at_work (job : α) (number : ℕ)
  deriving DecidableEq, Repr

/-- The results of attempts at one job. -/
def numbered (job : α) (results : List ρ) : List (attempt α ρ) :=
  results.mapIdx fun i result => ⟨job, i + 1, result⟩

theorem numbered_append_singleton (job : α) (results : List ρ) (result : ρ) :
    numbered job (results ++ [result])
      = numbered job results ++ [⟨job, results.length + 1, result⟩] := by
  rw [numbered, List.mapIdx_append]
  simp only [List.mapIdx_cons, List.mapIdx_nil, Nat.zero_add]
  rfl

section Rules

variable (ok : ρ → Prop) [DecidablePred ok] (limit : ℕ)

/-- What the worker is at behind an attempt. -/
def behind (a : attempt α ρ) : worker α :=
  if ok a.result then .idle
  else if a.number < limit then .at_work a.job (a.number + 1)
  else .idle

/-- The job that an attempt settles. -/
def settled (a : attempt α ρ) : Option α :=
  if ok a.result ∨ ¬ a.number < limit then some a.job else none

def succeeds (a : attempt α ρ) : Bool := ok a.result

/-- **A settled job**: failures, fewer than the limit, and a success behind them, or as many
failures as the limit allows. -/
inductive Settles (job : α) : List (attempt α ρ) → Prop
  | success {failures : List ρ} {result : ρ} (hfailures : ∀ failure ∈ failures, ¬ ok failure)
      (hlimit : failures.length < limit) (hok : ok result) :
      Settles job (numbered job (failures ++ [result]))
  | abandoned {failures : List ρ} (hfailures : ∀ failure ∈ failures, ¬ ok failure)
      (hlimit : failures.length = limit) : Settles job (numbered job failures)

/-- The attempts at the job in hand. -/
inductive Pending : worker α → List (attempt α ρ) → Prop
  | idle : Pending .idle []
  | at_work (job : α) {failures : List ρ} (hfailures : ∀ failure ∈ failures, ¬ ok failure)
      (hlimit : failures.length < limit) :
      Pending (.at_work job (failures.length + 1)) (numbered job failures)

/-- The attempts so far. -/
def History (attempts : List (attempt α ρ)) (w : worker α) : Prop :=
  ∃ blocks pending, attempts = blocks.flatten ++ pending ∧
    List.Forall₂ (Settles ok limit) (attempts.filterMap (settled ok limit)) blocks ∧
    Pending ok limit w pending

variable {ok limit}

theorem history_nil : History ok limit ([] : List (attempt α ρ)) .idle :=
  ⟨[], [], rfl, .nil, .idle⟩

/-- **A job is taken.** -/
theorem History.take {attempts : List (attempt α ρ)} (h : History ok limit attempts .idle)
    (hlimit : 0 < limit) (job : α) : History ok limit attempts (.at_work job 1) := by
  obtain ⟨blocks, pending, hattempts, hblocks, hpending⟩ := h
  cases hpending with
  | idle =>
      have hnone : ∀ failure ∈ ([] : List ρ), ¬ ok failure := nofun
      exact ⟨blocks, [], hattempts, hblocks, .at_work job hnone hlimit⟩

/-- **An attempt is made.** -/
theorem History.attempt {attempts : List (attempt α ρ)} {job : α} {number : ℕ}
    (h : History ok limit attempts (.at_work job number)) (result : ρ) :
    History ok limit (attempts ++ [⟨job, number, result⟩])
      (behind ok limit ⟨job, number, result⟩) := by
  obtain ⟨blocks, pending, hattempts, hblocks, hpending⟩ := h
  cases hpending with
  | @at_work _ failures hfailures hlimit =>
      have hnumbered := numbered_append_singleton job failures result
      have hjob : attempts ++ [⟨job, failures.length + 1, result⟩]
          = blocks.flatten ++ numbered job (failures ++ [result]) := by
        rw [hattempts, hnumbered, List.append_assoc]
      -- the job is settled: the failures in hand become a block
      have hdone : settled ok limit ⟨job, failures.length + 1, result⟩ = some job →
          Settles ok limit job (numbered job (failures ++ [result])) →
          History ok limit (attempts ++ [⟨job, failures.length + 1, result⟩]) .idle := by
        intro hsettled hblock
        refine ⟨blocks ++ [numbered job (failures ++ [result])], [], ?_, ?_, .idle⟩
        · rw [hjob, List.flatten_append, List.flatten_singleton, List.append_nil]
        · rw [List.filterMap_append, List.filterMap_cons_some hsettled, List.filterMap_nil]
          exact List.rel_append hblocks (.cons hblock .nil)
      by_cases hok : ok result
      · rw [behind, if_pos hok]
        exact hdone (if_pos (.inl hok)) (.success hfailures hlimit hok)
      have hall : ∀ failure ∈ failures ++ [result], ¬ ok failure := by
        intro failure hmem
        rcases List.mem_append.mp hmem with hmem | hmem
        · exact hfailures failure hmem
        · rw [List.mem_singleton.mp hmem]
          exact hok
      rw [behind, if_neg hok]
      by_cases hmore : failures.length + 1 < limit
      · rw [if_pos hmore]
        refine ⟨blocks, numbered job (failures ++ [result]), hjob, ?_, ?_⟩
        · have hopen : settled ok limit (⟨job, failures.length + 1, result⟩ : Retry.attempt α ρ)
              = none :=
            if_neg fun h => h.elim hok fun hnot => hnot hmore
          rw [List.filterMap_append, List.filterMap_cons_none hopen, List.filterMap_nil,
            List.append_nil]
          exact hblocks
        · have hlength : failures.length + 1 + 1 = (failures ++ [result]).length + 1 := by
            rw [List.length_append, List.length_singleton]
          dsimp only
          rw [hlength]
          refine .at_work job hall ?_
          rw [List.length_append, List.length_singleton]
          exact hmore
      · rw [if_neg hmore]
        refine hdone (if_pos (.inr hmore)) (.abandoned hall ?_)
        rw [List.length_append, List.length_singleton]
        omega

/-- **At most once**: the jobs that succeed are settled ones, in the same order. -/
theorem successes_sublist (attempts : List (attempt α ρ)) :
    ((attempts.filter (succeeds ok)).map (·.job)).Sublist
      (attempts.filterMap (settled ok limit)) := by
  induction attempts with
  | nil => exact .slnil
  | cons a attempts ih =>
      by_cases hok : ok a.result
      · have hsettled : settled ok limit a = some a.job := if_pos (.inl hok)
        have hsucceeds : succeeds ok a = true := decide_eq_true hok
        rw [List.filter_cons_of_pos hsucceeds, List.map_cons, List.filterMap_cons_some hsettled]
        exact ih.cons_cons a.job
      · have hfails : ¬ succeeds ok a = true := fun h => hok (of_decide_eq_true h)
        rw [List.filter_cons_of_neg hfails]
        cases hsettled : settled ok limit a with
        | none =>
            rw [List.filterMap_cons_none hsettled]
            exact ih
        | some job =>
            rw [List.filterMap_cons_some hsettled]
            exact ih.cons job

end Rules

end WifiManager.Lib.Retry
