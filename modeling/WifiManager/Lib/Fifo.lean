/-
Bounded queues.

A machine that contains a queue puts items behind its contents and takes items from
the front. `Conserves` says so for every step; then along every run what was taken out,
followed by what is still in the queue, is what was in it followed by what was put in
(`taken_append_contents`): nothing is lost, doubled or overtaken.
-/
import WifiManager.Lib.Machine

set_option autoImplicit false

namespace WifiManager.Lib.Fifo

variable {α σ ε : Type*}

/-- Put an item into a queue of a given capacity; a full queue drops it. -/
def send (capacity : ℕ) (queue : List α) (item : α) : List α :=
  if queue.length < capacity then queue ++ [item] else queue

/-- Take the oldest item out. -/
def receive : List α → List α × Option α
  | [] => ([], none)
  | item :: queue => (queue, some item)

/-- What is in a queue that was not in it before. -/
def added (before after : List α) : List α := after.drop before.length

theorem added_send (capacity : ℕ) (queue : List α) (item : α) :
    queue ++ added queue (send capacity queue item) = send capacity queue item := by
  unfold send added
  split_ifs
  · rw [List.drop_left]
  · rw [List.drop_length, List.append_nil]

theorem added_self (queue : List α) : added queue queue = [] := List.drop_length

theorem receive_append (queue : List α) :
    (receive queue).2.toList ++ (receive queue).1 = queue := by
  cases queue with
  | nil => rfl
  | cons item queue => rfl

/-! ## Machines with a queue -/

/-- A step takes from the front what it gives out and puts `put` behind the rest. -/
def Conserves (step : σ → ε → σ × Option α) (contents : σ → List α) (put : σ → ε → List α)
    (s : σ) (e : ε) : Prop :=
  contents s ++ put s e = (step s e).2.toList ++ contents (step s e).1

/-- What is put into the queue along a run. -/
def puts (step : σ → ε → σ × Option α) (put : σ → ε → List α) : σ → List ε → List α
  | _, [] => []
  | s, e :: inputs => put s e ++ puts step put (step s e).1 inputs

/-- **First in, first out, each once.** -/
theorem taken_append_contents {step : σ → ε → σ × Option α} {contents : σ → List α}
    {put : σ → ε → List α} {I : σ → Prop} (hI : ∀ s e, I s → I (step s e).1)
    (hstep : ∀ s e, I s → Conserves step contents put s e) {s : σ} (hs : I s)
    (inputs : List ε) :
    Machine.outputs step s inputs ++ contents (Machine.run step s inputs)
      = contents s ++ puts step put s inputs := by
  induction inputs generalizing s with
  | nil =>
      rw [Machine.outputs, puts, Machine.run_nil, List.nil_append, List.append_nil]
  | cons e inputs ih =>
      have hrest := ih (hI s e hs)
      have hfirst : contents s ++ put s e = _ := hstep s e hs
      rw [Machine.outputs, puts, Machine.run_cons, List.append_assoc, hrest,
        ← List.append_assoc, ← hfirst, List.append_assoc]

end WifiManager.Lib.Fifo
