/-
`main.c`: the task that publishes the ends of the clients' stays.

`client_disconnect_publish_task` waits for an event of the queue and attempts its publication at
most three times, while the other tasks go on calling the table of clients. A run is any
interleaving of the two. Of every event that was put into the queue the task makes a block of
attempts, in the order of the queue: failures with a success behind them, or three failures
(`disconnect_events_settled`). Nothing holds the queue up: after four steps of the task for each
event, whatever MQTT answers, all of them are settled (`disconnect_events_drained`).
-/
import WifiManager.ClientAccess.Disconnects
import WifiManager.Lib.Retry
import WifiManager.Main.ClientReports

set_option autoImplicit false

namespace WifiManager.Main

open WifiManager.Lib WifiManager.ClientAccess

/-! ## The task -/

def CLIENT_DISCONNECT_PUBLISH_MAX_ATTEMPTS : ℕ := 3

/-- Where `client_disconnect_publish_task` stands: in its wait, or in front of an attempt. -/
inductive publish_task_t
  | waiting
  | publishing (event : client_access_disconnect_event_t) (attempt : ℕ)
  deriving DecidableEq, Repr

/-- The clients and the task. -/
structure publisher_t where
  clients : client_access_t
  task : publish_task_t

/-- A call that some task makes, or the publishing task runs to its next wait, delay or attempt;
`answer` is what `app_mqtt_publish` returns to it. -/
inductive publisher_input
  | call (now : UInt32) (call : client_call)
  | task (answer : esp_err_t)

/-- What a function returns that ends so. -/
def publish_end.value (answer : esp_err_t) : publish_end → esp_err_t
  | .returns err => err
  | .app_mqtt_publish _ _ => answer

abbrev publish_attempt := Retry.attempt client_access_disconnect_event_t esp_err_t

section Task

variable (configTICK_RATE_HZ : UInt32) (DEVICE_CODE : c_string)

/-- The body of the loop over the attempts. -/
def publish_attempt_step (answer : esp_err_t) (event : client_access_disconnect_event_t)
    (attempt : ℕ) : publish_task_t × publish_attempt :=
  let publish_err := (publish_client_disconnect DEVICE_CODE (some event)).value answer
  (if publish_err = .ESP_OK then .waiting
    -- the event is given up behind the last attempt
    else if attempt + 1 ≤ CLIENT_DISCONNECT_PUBLISH_MAX_ATTEMPTS then
      .publishing event (attempt + 1)
    else .waiting,
    ⟨event, attempt, publish_err⟩)

/-- `client_disconnect_publish_task` and the calls of the other tasks. -/
def publisher_input.step (state : publisher_t) :
    publisher_input → publisher_t × Option publish_attempt
  | .call now called =>
      ({ state with clients := (called.step configTICK_RATE_HZ now state.clients).1 }, none)
  | .task answer =>
      match state.task with
      | .waiting =>
          -- `UINT32_MAX`: the wait ends with an event only
          match client_access_wait_disconnect_event state.clients with
          | (clients, .ok event) => (⟨clients, .publishing event 1⟩, none)
          | (clients, .error _) => (⟨clients, .waiting⟩, none)
      | .publishing event attempt =>
          let made := publish_attempt_step DEVICE_CODE answer event attempt
          ({ state with task := made.1 }, some made.2)

end Task

/-- Behind `client_access_start`, with the task in its first wait. -/
def publisher_init (ESP_WIFI_MAX_CONN_NUM : ℕ) : publisher_t :=
  ⟨client_access_init ESP_WIFI_MAX_CONN_NUM, .waiting⟩

/-! ## The task as a worker -/

/-- A publication succeeds. -/
def Published (err : esp_err_t) : Prop := err = .ESP_OK

instance : DecidablePred Published := fun err => inferInstanceAs (Decidable (err = .ESP_OK))

def publish_task_t.worker : publish_task_t → Retry.worker client_access_disconnect_event_t
  | .waiting => .idle
  | .publishing event attempt => .at_work event attempt

/-- The event in hand. -/
def publish_task_t.in_hand : publish_task_t → List client_access_disconnect_event_t
  | .waiting => []
  | .publishing event _ => [event]

/-- The event that an attempt settles. -/
abbrev settled_event (made : publish_attempt) : Option client_access_disconnect_event_t :=
  Retry.settled Published CLIENT_DISCONNECT_PUBLISH_MAX_ATTEMPTS made

/-- The same steps, with the event that is settled. -/
def settling_step (configTICK_RATE_HZ : UInt32) (DEVICE_CODE : c_string) (state : publisher_t)
    (e : publisher_input) : publisher_t × Option client_access_disconnect_event_t :=
  ((e.step configTICK_RATE_HZ DEVICE_CODE state).1,
    (e.step configTICK_RATE_HZ DEVICE_CODE state).2.bind settled_event)

/-- Events that wait to be settled. -/
def publisher_t.unsettled (state : publisher_t) : List client_access_disconnect_event_t :=
  state.task.in_hand ++ queued state.clients

/-- What a step puts into the queue. -/
def publisher_put (configTICK_RATE_HZ : UInt32) (state : publisher_t) :
    publisher_input → List client_access_disconnect_event_t
  | .call now called => put configTICK_RATE_HZ state.clients (.call now called)
  | .task _ => []

section Steps

variable (configTICK_RATE_HZ : UInt32) (DEVICE_CODE : c_string) {ESP_WIFI_MAX_CONN_NUM : ℕ}
  {state : publisher_t}

/-- An attempt, as one of the worker. -/
theorem publish_attempt_step_worker (answer : esp_err_t) (event : client_access_disconnect_event_t)
    (attempt : ℕ) :
    ∃ err, (publish_attempt_step DEVICE_CODE answer event attempt).2 = ⟨event, attempt, err⟩ ∧
      (publish_attempt_step DEVICE_CODE answer event attempt).1.worker
        = Retry.behind Published CLIENT_DISCONNECT_PUBLISH_MAX_ATTEMPTS ⟨event, attempt, err⟩ := by
  rw [publish_attempt_step]
  generalize (publish_client_disconnect DEVICE_CODE (some event)).value answer = err
  refine ⟨err, rfl, ?_⟩
  rw [Retry.behind]
  dsimp only
  by_cases hok : err = .ESP_OK
  · rw [if_pos hok, if_pos (show Published err from hok)]
    rfl
  · rw [if_neg hok, if_neg (show ¬ Published err from hok)]
    by_cases hmore : attempt < CLIENT_DISCONNECT_PUBLISH_MAX_ATTEMPTS
    · rw [if_pos hmore, if_pos (Nat.succ_le_of_lt hmore)]
      rfl
    · rw [if_neg hmore, if_neg (fun h => hmore (Nat.lt_of_succ_le h))]
      rfl

/-- A step of the task that waits. -/
theorem waiting_step (h : Started ESP_WIFI_MAX_CONN_NUM state.clients)
    (htask : state.task = .waiting) (answer : esp_err_t) :
    (queued state.clients = [] ∧
        (publisher_input.task answer).step configTICK_RATE_HZ DEVICE_CODE state = (state, none)) ∨
      ∃ event events, queued state.clients = event :: events ∧
        (publisher_input.task answer).step configTICK_RATE_HZ DEVICE_CODE state
          = (⟨{ state.clients with s_disconnect_queue := some events }, .publishing event 1⟩,
            none) := by
  rw [publisher_input.step, htask]
  dsimp only
  rw [client_access_wait_disconnect_event, h.queue]
  rcases hqueued : queued state.clients with - | ⟨event, events⟩
  · refine .inl ⟨rfl, ?_⟩
    dsimp only
    rw [← htask]
  · exact .inr ⟨event, events, rfl, rfl⟩

/-- A step of the task that has an event in hand. -/
theorem publishing_step {event : client_access_disconnect_event_t} {attempt : ℕ}
    (htask : state.task = .publishing event attempt) (answer : esp_err_t) :
    (publisher_input.task answer).step configTICK_RATE_HZ DEVICE_CODE state
      = ({ state with task := (publish_attempt_step DEVICE_CODE answer event attempt).1 },
        some (publish_attempt_step DEVICE_CODE answer event attempt).2) := by
  rw [publisher_input.step, htask]

theorem started_step (h : Started ESP_WIFI_MAX_CONN_NUM state.clients) (e : publisher_input) :
    Started ESP_WIFI_MAX_CONN_NUM (e.step configTICK_RATE_HZ DEVICE_CODE state).1.clients := by
  cases e with
  | call now call => exact h.step (.call now call)
  | task answer =>
      cases htask : state.task with
      | waiting =>
          obtain ⟨-, hstep⟩ | ⟨event, events, -, hstep⟩ :=
            waiting_step configTICK_RATE_HZ DEVICE_CODE h htask answer
          · rw [hstep]
            exact h
          · rw [hstep]
            exact ⟨h.unique, h.length, rfl⟩
      | publishing event attempt =>
          rw [publishing_step configTICK_RATE_HZ DEVICE_CODE htask]
          exact h

/-- **Nothing is lost**: the event that a step settles was the oldest one. -/
theorem publisher_conserves (h : Started ESP_WIFI_MAX_CONN_NUM state.clients)
    (e : publisher_input) :
    Fifo.Conserves (settling_step configTICK_RATE_HZ DEVICE_CODE) publisher_t.unsettled
      (publisher_put configTICK_RATE_HZ) state e := by
  unfold Fifo.Conserves settling_step
  cases e with
  | call now call =>
      have hcall : queued state.clients ++ put configTICK_RATE_HZ state.clients (.call now call)
          = _ := step_conserves h (.call now call)
      rw [publisher_t.unsettled, List.append_assoc, publisher_put, hcall]
      rfl
  | task answer =>
      rw [publisher_put, List.append_nil]
      cases htask : state.task with
      | waiting =>
          obtain ⟨-, hstep⟩ | ⟨event, events, hqueued, hstep⟩ :=
            waiting_step configTICK_RATE_HZ DEVICE_CODE h htask answer
          · dsimp only
            rw [hstep]
            rfl
          · dsimp only
            rw [hstep, publisher_t.unsettled, htask, hqueued]
            rfl
      | publishing event attempt =>
          obtain ⟨err, hmade, hworker⟩ :=
            publish_attempt_step_worker DEVICE_CODE answer event attempt
          dsimp only
          rw [publishing_step configTICK_RATE_HZ DEVICE_CODE htask, publisher_t.unsettled,
            publisher_t.unsettled, htask]
          dsimp only [Option.bind_some]
          rw [hmade, settled_event, Retry.settled]
          rw [Retry.behind] at hworker
          -- the event leaves the hand exactly when it is settled
          generalize (publish_attempt_step DEVICE_CODE answer event attempt).1 = task at hworker
          dsimp only at hworker ⊢
          by_cases hok : Published err
          · rw [if_pos (.inl hok)]
            rw [if_pos hok] at hworker
            cases task with
            | waiting => rfl
            | publishing event' attempt' => cases hworker
          · rw [if_neg hok] at hworker
            by_cases hmore : attempt < CLIENT_DISCONNECT_PUBLISH_MAX_ATTEMPTS
            · rw [if_neg (fun h => h.elim hok fun hnot => hnot hmore)]
              rw [if_pos hmore] at hworker
              cases task with
              | waiting => cases hworker
              | publishing event' attempt' =>
                  obtain ⟨rfl, -⟩ := Retry.worker.at_work.inj hworker
                  rfl
            · rw [if_pos (.inr hmore)]
              rw [if_neg hmore] at hworker
              cases task with
              | waiting => rfl
              | publishing event' attempt' => cases hworker

/-- The task makes its attempts as a worker does. -/
theorem history_step (h : Started ESP_WIFI_MAX_CONN_NUM state.clients)
    {attempts : List publish_attempt}
    (hhistory : Retry.History Published CLIENT_DISCONNECT_PUBLISH_MAX_ATTEMPTS attempts
      state.task.worker) (e : publisher_input) :
    Retry.History Published CLIENT_DISCONNECT_PUBLISH_MAX_ATTEMPTS
      (attempts ++ (e.step configTICK_RATE_HZ DEVICE_CODE state).2.toList)
      (e.step configTICK_RATE_HZ DEVICE_CODE state).1.task.worker := by
  cases e with
  | call now call =>
      rw [publisher_input.step, Option.toList_none, List.append_nil]
      exact hhistory
  | task answer =>
      cases htask : state.task with
      | waiting =>
          obtain ⟨-, hstep⟩ | ⟨event, events, -, hstep⟩ :=
            waiting_step configTICK_RATE_HZ DEVICE_CODE h htask answer
          · rw [hstep, Option.toList_none, List.append_nil]
            exact hhistory
          · rw [hstep, Option.toList_none, List.append_nil]
            rw [htask] at hhistory
            exact hhistory.take (by decide) event
      | publishing event attempt =>
          obtain ⟨err, hmade, hworker⟩ :=
            publish_attempt_step_worker DEVICE_CODE answer event attempt
          rw [publishing_step configTICK_RATE_HZ DEVICE_CODE htask, hmade, Option.toList_some]
          dsimp only
          rw [hworker]
          rw [htask] at hhistory
          exact hhistory.attempt err

end Steps

/-- What is kept along a run: the state and the attempts so far. -/
structure WorksAt (ESP_WIFI_MAX_CONN_NUM : ℕ) (state : publisher_t)
    (attempts : List publish_attempt) : Prop where
  started : Started ESP_WIFI_MAX_CONN_NUM state.clients
  history : Retry.History Published CLIENT_DISCONNECT_PUBLISH_MAX_ATTEMPTS attempts
    state.task.worker

/-! ## Runs -/

section Runs

variable (configTICK_RATE_HZ : UInt32) (DEVICE_CODE : c_string) (ESP_WIFI_MAX_CONN_NUM : ℕ)

/-- **Each event is settled once, in order.** Along every interleaving of the task with the
calls of the others the attempts are one block for each settled event, failures with a success
behind them or three failures, followed by the failures of the event in hand; and the settled
events, followed by the one in hand and those still queued, are the events that were put into
the queue. So none is published twice or out of order. -/
theorem disconnect_events_settled (inputs : List publisher_input) :
    let step := publisher_input.step configTICK_RATE_HZ DEVICE_CODE
    let start := publisher_init ESP_WIFI_MAX_CONN_NUM
    let attempts := Machine.outputs step start inputs
    let state := Machine.run step start inputs
    Retry.History Published CLIENT_DISCONNECT_PUBLISH_MAX_ATTEMPTS attempts state.task.worker ∧
      attempts.filterMap settled_event ++ state.unsettled
        = Fifo.puts (settling_step configTICK_RATE_HZ DEVICE_CODE)
          (publisher_put configTICK_RATE_HZ) start inputs ∧
      ((attempts.filter (Retry.succeeds Published)).map (·.job)).Sublist
        (Fifo.puts (settling_step configTICK_RATE_HZ DEVICE_CODE)
          (publisher_put configTICK_RATE_HZ) start inputs) := by
  intro step start attempts state
  have hstarted : Started ESP_WIFI_MAX_CONN_NUM start.clients := started_init _
  have hworks : WorksAt ESP_WIFI_MAX_CONN_NUM state attempts :=
    Machine.run_recorded (I := WorksAt ESP_WIFI_MAX_CONN_NUM) (C := fun _ _ => True)
      (fun s given e h _ => ⟨started_step configTICK_RATE_HZ DEVICE_CODE h.started e,
        history_step configTICK_RATE_HZ DEVICE_CODE h.started h.history e⟩)
      ⟨hstarted, Retry.history_nil⟩ (fun _ _ _ _ => trivial)
  have hkept : ∀ (s : publisher_t) (e : publisher_input),
      Started ESP_WIFI_MAX_CONN_NUM s.clients →
        Started ESP_WIFI_MAX_CONN_NUM
          (settling_step configTICK_RATE_HZ DEVICE_CODE s e).1.clients :=
    fun _ e h => started_step configTICK_RATE_HZ DEVICE_CODE h e
  have hfifo : Machine.outputs (settling_step configTICK_RATE_HZ DEVICE_CODE) start inputs
        ++ (Machine.run (settling_step configTICK_RATE_HZ DEVICE_CODE) start inputs).unsettled
      = start.unsettled ++ Fifo.puts (settling_step configTICK_RATE_HZ DEVICE_CODE)
        (publisher_put configTICK_RATE_HZ) start inputs :=
    Fifo.taken_append_contents
      (I := fun s : publisher_t => Started ESP_WIFI_MAX_CONN_NUM s.clients) hkept
      (fun _ e h => publisher_conserves configTICK_RATE_HZ DEVICE_CODE h e) hstarted inputs
  have hsettled : attempts.filterMap settled_event ++ state.unsettled
      = Fifo.puts (settling_step configTICK_RATE_HZ DEVICE_CODE)
        (publisher_put configTICK_RATE_HZ) start inputs := by
    rw [← Machine.outputs_filterMap step settled_event start inputs]
    exact hfifo
  refine ⟨hworks.history, hsettled, ?_⟩
  rw [← hsettled]
  exact (Retry.successes_sublist attempts).trans (List.sublist_append_left _ _)

/-- What is left to do: four steps of the task for a queued event, and the attempts at the event
in hand. -/
def publisher_t.steps_left (state : publisher_t) : ℕ :=
  4 * (queued state.clients).length +
    match state.task with
    | .waiting => 0
    | .publishing _ attempt => CLIENT_DISCONNECT_PUBLISH_MAX_ATTEMPTS - attempt + 1

variable {ESP_WIFI_MAX_CONN_NUM} {configTICK_RATE_HZ DEVICE_CODE}

/-- **Progress**: a step of the task leaves less to do, whatever the answer. -/
theorem steps_left_step {state : publisher_t} (h : Started ESP_WIFI_MAX_CONN_NUM state.clients)
    (answer : esp_err_t) :
    ((publisher_input.task answer).step configTICK_RATE_HZ DEVICE_CODE state).1.steps_left
      ≤ state.steps_left - 1 := by
  cases htask : state.task with
  | waiting =>
      obtain ⟨hempty, hstep⟩ | ⟨event, events, hqueued, hstep⟩ :=
        waiting_step configTICK_RATE_HZ DEVICE_CODE h htask answer
      · rw [hstep, publisher_t.steps_left, htask, hempty]
        exact Nat.zero_le _
      · have hrest : queued { state.clients with s_disconnect_queue := some events } = events := rfl
        rw [hstep, publisher_t.steps_left, publisher_t.steps_left, htask, hqueued, hrest,
          List.length_cons, CLIENT_DISCONNECT_PUBLISH_MAX_ATTEMPTS]
        dsimp only
        omega
  | publishing event attempt =>
      obtain ⟨err, -, hworker⟩ := publish_attempt_step_worker DEVICE_CODE answer event attempt
      rw [publishing_step configTICK_RATE_HZ DEVICE_CODE htask, publisher_t.steps_left,
        publisher_t.steps_left, htask]
      generalize (publish_attempt_step DEVICE_CODE answer event attempt).1 = task at hworker
      cases task with
      | waiting =>
          dsimp only
          omega
      | publishing event' attempt' =>
          rw [Retry.behind] at hworker
          split_ifs at hworker with hok hmore
          · cases hworker
          · obtain ⟨-, rfl⟩ := Retry.worker.at_work.inj hworker
            dsimp only at hmore ⊢
            omega
          · cases hworker

/-- **No event holds the queue up.** From every state that a run reaches the task needs no more
than its steps that are left, whatever MQTT answers, and every event is settled. -/
theorem disconnect_events_drained (inputs : List publisher_input) (answers : List esp_err_t) :
    let step := publisher_input.step configTICK_RATE_HZ DEVICE_CODE
    let reached := Machine.run step (publisher_init ESP_WIFI_MAX_CONN_NUM) inputs
    reached.steps_left ≤ answers.length →
      (Machine.run step reached (answers.map .task)).unsettled = [] := by
  intro step reached hlength
  have hreached : Started ESP_WIFI_MAX_CONN_NUM reached.clients :=
    Machine.run_invariant step (I := fun s => Started ESP_WIFI_MAX_CONN_NUM s.clients)
      (fun _ e h => started_step configTICK_RATE_HZ DEVICE_CODE h e) (started_init _) inputs
  clear_value reached
  induction answers generalizing reached with
  | nil =>
      have hzero : reached.steps_left = 0 := Nat.le_zero.mp hlength
      rw [List.map_nil, Machine.run_nil]
      rw [publisher_t.steps_left] at hzero
      rw [publisher_t.unsettled]
      have hqueue : queued reached.clients = [] := List.length_eq_zero_iff.mp (by omega)
      cases htask : reached.task with
      | waiting => rw [hqueue, publish_task_t.in_hand, List.nil_append]
      | publishing event attempt =>
          rw [htask] at hzero
          dsimp only at hzero
          omega
  | cons answer answers ih =>
      rw [List.map_cons, Machine.run_cons]
      refine ih _ ?_ (started_step configTICK_RATE_HZ DEVICE_CODE hreached _)
      have hless : (step reached (.task answer)).1.steps_left ≤ reached.steps_left - 1 :=
        steps_left_step hreached answer
      rw [List.length_cons] at hlength
      omega

/-- A client comes and goes. -/
def sample_stay : List publisher_input :=
  [.call 0 (client_access_event_handler (.AP_STACONNECTED sample_mac)),
    .call 1 (client_access_event_handler (.AP_STADISCONNECTED sample_mac))]

/-- Its event is given up when MQTT refuses it. -/
theorem disconnect_events_drained_refused :
    (Machine.run (publisher_input.step 100 (c_str "gateway")) (publisher_init 4)
        sample_stay).unsettled = [⟨sample_mac, .UNAUTHORIZED, 0⟩] ∧
      (Machine.run (publisher_input.step 100 (c_str "gateway"))
        (Machine.run (publisher_input.step 100 (c_str "gateway")) (publisher_init 4) sample_stay)
        ((List.replicate 4 .ESP_FAIL).map .task)).unsettled = [] :=
  ⟨by decide,
    disconnect_events_drained sample_stay (List.replicate 4 .ESP_FAIL) (by decide)⟩

end Runs

end WifiManager.Main
