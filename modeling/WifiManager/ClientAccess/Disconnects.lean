/-
Sessions that end with a link event.

`client_access_event_handler` turns the two link events of the SoftAP into calls of
the table, and `client_access_wait_disconnect_event` hands the queued events to the
task that reports them. A disconnection copies the entry before it clears it and
queues the copy. A connection of a MAC that still has an entry clears that entry as
well, and queues nothing: `sessions_reported_iff` says that this is the only way in
which a session ends unreported. What is queued is delivered in order, each once
(`received_append_queued`).
-/
import WifiManager.Lib.Fifo
import WifiManager.ClientAccess.Seats

set_option autoImplicit false

namespace WifiManager.ClientAccess

open WifiManager.Lib

open client_access_state_t

/-! ## The handler and the queue's reader -/

/-- The link events of the SoftAP. -/
inductive wifi_ap_event
  | AP_STACONNECTED (mac : mac_t)
  | AP_STADISCONNECTED (mac : mac_t)
  deriving DecidableEq, Repr

/-- `client_access_event_handler`: the call that an event leads to. What the call
returns is only logged. -/
def client_access_event_handler : wifi_ap_event → client_call
  | .AP_STACONNECTED mac => .track_connected_client mac
  | .AP_STADISCONNECTED mac => .remove_disconnect_client mac

/-- `client_access_wait_disconnect_event`, for a queue that is read at the end of the
wait. -/
def client_access_wait_disconnect_event (state : client_access_t) :
    client_access_t × Except esp_err_t client_access_disconnect_event_t :=
  match state.s_disconnect_queue with
  | none => (state, .error .ESP_ERR_INVALID_STATE)
  | some [] => (state, .error .ESP_ERR_TIMEOUT)
  | some (event :: events) => ({ state with s_disconnect_queue := some events }, .ok event)

/-- A step of some task: a call at the tick count `now`, or a wait for a queued event. -/
inductive session_step
  | call (now : UInt32) (call : client_call)
  | wait

variable (configTICK_RATE_HZ : UInt32)

/-- One step, and the event that it hands out. -/
def session_step.step (state : client_access_t) :
    session_step → client_access_t × Option client_access_disconnect_event_t
  | .call now called => ((called.step configTICK_RATE_HZ now state).1, none)
  | .wait =>
      let (state, result) := client_access_wait_disconnect_event state
      (state, result.toOption)

/-- What is in the disconnect queue. -/
def queued (state : client_access_t) : List client_access_disconnect_event_t :=
  state.s_disconnect_queue.getD []

/-- What a step puts into the disconnect queue: a wait puts nothing. -/
def put (state : client_access_t) :
    session_step → List client_access_disconnect_event_t
  | .call now call =>
      Fifo.added (queued state) (queued (call.step configTICK_RATE_HZ now state).1)
  | .wait => []

/-- The module after a run that starts without clients. -/
def session_run (ESP_WIFI_MAX_CONN_NUM : ℕ) (inputs : List session_step) : client_access_t :=
  Machine.run (session_step.step configTICK_RATE_HZ)
    (client_access_init ESP_WIFI_MAX_CONN_NUM) inputs

/-! ## What a step may not keep to itself -/

/-- **No session ends silently.** If the step is a link event that makes the entry of a
MAC cease to be authorized, then exactly one event is put behind the queue, with this
MAC, the state and the session, unless the queue is full. -/
def Reported (ESP_WIFI_MAX_CONN_NUM : ℕ) (state : client_access_t) (e : session_step) : Prop :=
  ∀ now event, e = .call now (client_access_event_handler event) →
    let after := (e.step configTICK_RATE_HZ state).1
    ∀ mac entry, client_layout.lookup state.s_clients mac = some entry →
      entry.state = AUTHORIZED →
      (∀ entry', client_layout.lookup after.s_clients mac = some entry' →
        entry'.state ≠ AUTHORIZED) →
      (queued state).length < ESP_WIFI_MAX_CONN_NUM →
        queued after = queued state ++ [⟨mac, AUTHORIZED, entry.session_id⟩]

/-- A connection of a MAC whose entry is authorized, while there is room in the queue. -/
def SilentReconnect (ESP_WIFI_MAX_CONN_NUM : ℕ) (state : client_access_t)
    (e : session_step) : Prop :=
  ∃ now mac entry, e = .call now (client_access_event_handler (.AP_STACONNECTED mac)) ∧
    client_layout.lookup state.s_clients mac = some entry ∧ entry.state = AUTHORIZED ∧
    (queued state).length < ESP_WIFI_MAX_CONN_NUM

/-! ## The queue along a run -/

/-- What a started module has: unique MACs, its slots and its queue. -/
structure Started (ESP_WIFI_MAX_CONN_NUM : ℕ) (state : client_access_t) : Prop where
  unique : client_layout.Unique state.s_clients
  length : state.s_clients.length = ESP_WIFI_MAX_CONN_NUM
  queue : state.s_disconnect_queue = some (queued state)

section Queue

variable {configTICK_RATE_HZ} {ESP_WIFI_MAX_CONN_NUM : ℕ} {state : client_access_t}

/-- The queue of the module is a bounded queue. -/
theorem xQueueSend_queue (hqueue : state.s_disconnect_queue = some (queued state))
    (event : client_access_disconnect_event_t) :
    (xQueueSend state event).s_disconnect_queue
      = some (Fifo.send state.s_clients.length (queued state) event) := by
  unfold xQueueSend Fifo.send
  rw [hqueue]
  dsimp only
  split_ifs
  · rfl
  · exact hqueue

/-- A disconnection puts the copy of the entry into the queue. -/
theorem remove_disconnect_client_found
    (hqueue : state.s_disconnect_queue = some (queued state)) {mac : mac_t}
    {entry : client_access_entry_t}
    (hl : client_layout.lookup state.s_clients mac = some entry) :
    (remove_disconnect_client state mac).s_disconnect_queue
      = some (Fifo.send state.s_clients.length (queued state)
          ⟨mac, entry.state, entry.session_id⟩) := by
  unfold remove_disconnect_client
  cases hfind : find_client_index_locked state.s_clients mac with
  | none =>
      rw [Slots.Layout.find_eq_none_iff.mp hfind] at hl
      cases hl
  | some i =>
      obtain ⟨found, hi, hholds, hfound⟩ := Slots.Layout.find_spec hfind
      obtain rfl : entry = found := Option.some.inj (hl.symm.trans hfound)
      have hmac : entry.mac = mac := (Slots.Layout.holds_iff.mp hholds).2
      have hentry : state.s_clients.getD i {} = entry := by
        rw [List.getD_eq_getElem?_getD, hi, Option.getD_some]
      let freed := { state with s_clients := state.s_clients.set i {} }
      have hqueued : freed.s_disconnect_queue = some (queued freed) := hqueue
      have hsend := xQueueSend_queue hqueued ⟨mac, entry.state, entry.session_id⟩
      rw [List.length_set] at hsend
      dsimp only
      rw [hentry, hmac]
      exact hsend

/-- Nothing is removed for a MAC without entry. -/
theorem remove_disconnect_client_absent {mac : mac_t}
    (hl : client_layout.lookup state.s_clients mac = none) :
    remove_disconnect_client state mac = state := by
  unfold remove_disconnect_client
  rw [show find_client_index_locked state.s_clients mac = none from
    Slots.Layout.find_eq_none_iff.mpr hl]

/-- Every other call leaves the queue alone. -/
theorem step_queue {call : client_call} (hcall : ∀ mac, call ≠ .remove_disconnect_client mac)
    (now : UInt32) :
    (call.step configTICK_RATE_HZ now state).1.s_disconnect_queue
      = state.s_disconnect_queue := by
  cases call with
  | remove_disconnect_client mac => exact absurd rfl (hcall mac)
  | _ => rfl

/-- A call drops nothing from the queue: it is as before, or one event longer. -/
theorem step_queued (h : Started ESP_WIFI_MAX_CONN_NUM state) (now : UInt32)
    (call : client_call) :
    ∃ events, (call.step configTICK_RATE_HZ now state).1.s_disconnect_queue = some events ∧
      (events = queued state ∨
        ∃ event, events = Fifo.send ESP_WIFI_MAX_CONN_NUM (queued state) event) := by
  by_cases hcall : ∃ mac, call = .remove_disconnect_client mac
  · obtain ⟨mac, rfl⟩ := hcall
    rw [client_call.step]
    cases hl : client_layout.lookup state.s_clients mac with
    | none =>
        rw [remove_disconnect_client_absent hl]
        exact ⟨_, h.queue, .inl rfl⟩
    | some entry =>
        rw [remove_disconnect_client_found h.queue hl, h.length]
        exact ⟨_, rfl, .inr ⟨_, rfl⟩⟩
  · have hother : ∀ mac, call ≠ .remove_disconnect_client mac :=
      fun mac hmac => hcall ⟨mac, hmac⟩
    rw [step_queue hother]
    exact ⟨_, h.queue, .inl rfl⟩

theorem Started.step (h : Started ESP_WIFI_MAX_CONN_NUM state) (e : session_step) :
    Started ESP_WIFI_MAX_CONN_NUM (e.step configTICK_RATE_HZ state).1 := by
  cases e with
  | call now call =>
      obtain ⟨events, hevents, -⟩ := step_queued h now call
      refine ⟨unique_step configTICK_RATE_HZ h.unique now call, ?_, ?_⟩
      · exact (length_step configTICK_RATE_HZ now state call).trans h.length
      · rw [session_step.step, queued, hevents, Option.getD_some]
  | wait =>
      rw [session_step.step, client_access_wait_disconnect_event, h.queue]
      obtain hempty | ⟨event, events, hevents⟩ : queued state = [] ∨
          ∃ event events, queued state = event :: events := by
        rcases queued state with - | ⟨event, events⟩
        · exact .inl rfl
        · exact .inr ⟨event, events, rfl⟩
      · rw [hempty]
        exact h
      · rw [hevents]
        exact ⟨h.unique, h.length, rfl⟩

theorem started_init (ESP_WIFI_MAX_CONN_NUM : ℕ) :
    Started ESP_WIFI_MAX_CONN_NUM (client_access_init ESP_WIFI_MAX_CONN_NUM) :=
  ⟨unique_init _, List.length_replicate, rfl⟩

/-- The module is a machine with a queue. -/
theorem step_conserves (h : Started ESP_WIFI_MAX_CONN_NUM state) (e : session_step) :
    Fifo.Conserves (session_step.step configTICK_RATE_HZ) queued (put configTICK_RATE_HZ)
      state e := by
  unfold Fifo.Conserves
  cases e with
  | call now call =>
      obtain ⟨events, hevents, hgrown⟩ := step_queued h now call
      have hafter : queued (call.step configTICK_RATE_HZ now state).1 = events := by
        rw [queued, hevents, Option.getD_some]
      rw [put, session_step.step, hafter, Option.toList_none, List.nil_append]
      obtain rfl | ⟨event, rfl⟩ := hgrown
      · rw [Fifo.added_self, List.append_nil]
      · exact Fifo.added_send _ _ _
  | wait =>
      have hreceive : (session_step.step configTICK_RATE_HZ state .wait).2
            = (Fifo.receive (queued state)).2 ∧
          queued (session_step.step configTICK_RATE_HZ state .wait).1
            = (Fifo.receive (queued state)).1 := by
        rw [session_step.step, client_access_wait_disconnect_event, h.queue]
        rcases hqueued : queued state with - | ⟨event, events⟩
        · exact ⟨rfl, hqueued⟩
        · exact ⟨rfl, rfl⟩
      rw [put, hreceive.1, hreceive.2, Fifo.receive_append, List.append_nil]

end Queue

/-- **Delivery.** What the waits of a run have handed out, followed by what is still
queued, is what was put into the queue: in order, each once. -/
theorem received_append_queued (ESP_WIFI_MAX_CONN_NUM : ℕ) (inputs : List session_step) :
    Machine.outputs (session_step.step configTICK_RATE_HZ)
        (client_access_init ESP_WIFI_MAX_CONN_NUM) inputs
        ++ queued (session_run configTICK_RATE_HZ ESP_WIFI_MAX_CONN_NUM inputs)
      = Fifo.puts (session_step.step configTICK_RATE_HZ) (put configTICK_RATE_HZ)
        (client_access_init ESP_WIFI_MAX_CONN_NUM) inputs :=
  Fifo.taken_append_contents (I := Started ESP_WIFI_MAX_CONN_NUM)
    (fun _ e h => h.step e) (fun _ e h => step_conserves h e) (started_init _) inputs

/-! ## Which sessions end silently -/

/-- A link event reports what it ends, unless it is a connection. -/
theorem reported_iff {ESP_WIFI_MAX_CONN_NUM : ℕ} {state : client_access_t}
    (h : Started ESP_WIFI_MAX_CONN_NUM state) (e : session_step) :
    Reported configTICK_RATE_HZ ESP_WIFI_MAX_CONN_NUM state e ↔
      ¬ SilentReconnect ESP_WIFI_MAX_CONN_NUM state e := by
  constructor
  · rintro hreported ⟨now, mac, entry, rfl, hl, hstate, hroom⟩
    -- a connection puts nothing on the queue
    have hquiet : queued ((session_step.call now (client_access_event_handler
        (.AP_STACONNECTED mac))).step configTICK_RATE_HZ state).1 = queued state := rfl
    have hcleared : ∀ entry', client_layout.lookup
        (track_connected_client state.s_clients mac).1 mac = some entry' →
          entry'.state ≠ AUTHORIZED := by
      intro entry' hl'
      obtain ⟨-, hlookup⟩ | ⟨-, -, hnone⟩ := (track_connected_client_spec h.unique mac).2
      · rw [hlookup, if_pos rfl] at hl'
        obtain rfl := Option.some.inj hl'
        simp [client_access_entry_t.connected]
      · rw [hnone] at hl
        cases hl
    have hput := hreported now _ rfl mac entry hl hstate hcleared hroom
    rw [hquiet] at hput
    simp at hput
  · rintro hsilent now event rfl after k entry hl hstate hceased hroom
    cases event with
    | AP_STACONNECTED mac =>
        -- an authorized entry that is cleared here would make the connection a silent one
        by_cases hk : k = mac
        · subst hk
          exact absurd ⟨now, k, entry, rfl, hl, hstate, hroom⟩ hsilent
        · refine absurd hstate (hceased entry ?_)
          change client_layout.lookup (track_connected_client state.s_clients mac).1 k = _
          obtain ⟨-, hlookup⟩ | ⟨-, hsame, -⟩ := (track_connected_client_spec h.unique mac).2
          · rw [hlookup, if_neg hk, hl]
          · rw [hsame, hl]
    -- the event is a copy of the entry as it was
    | AP_STADISCONNECTED mac =>
        by_cases hk : k = mac
        · subst hk
          change queued (remove_disconnect_client state k) = _
          rw [queued, remove_disconnect_client_found h.queue hl, Option.getD_some, h.length,
            hstate, Fifo.send, if_pos hroom]
        · refine absurd hstate (hceased entry ?_)
          change client_layout.lookup (remove_disconnect_client state mac).s_clients k = _
          rw [(remove_disconnect_client_spec h.unique mac).2, if_neg hk, hl]

/-- **Reported ends.** In every run the queued events are delivered in order, each once,
and the link events report every session that they end, if and only if no MAC connects
while its entry is authorized and the queue has room. -/
theorem sessions_reported_iff (ESP_WIFI_MAX_CONN_NUM : ℕ) (inputs : List session_step) :
    let step := session_step.step configTICK_RATE_HZ
    let start := client_access_init ESP_WIFI_MAX_CONN_NUM
    (Machine.AtEveryStep step start inputs
        (Reported configTICK_RATE_HZ ESP_WIFI_MAX_CONN_NUM) ∧
      Machine.outputs step start inputs ++ queued (Machine.run step start inputs)
        = Fifo.puts step (put configTICK_RATE_HZ) start inputs) ↔
      Machine.AtEveryStep step start inputs
        fun state e => ¬ SilentReconnect ESP_WIFI_MAX_CONN_NUM state e := by
  intro step start
  have hiff : Machine.AtEveryStep step start inputs
        (Reported configTICK_RATE_HZ ESP_WIFI_MAX_CONN_NUM) ↔
      Machine.AtEveryStep step start inputs
        fun state e => ¬ SilentReconnect ESP_WIFI_MAX_CONN_NUM state e :=
    Machine.atEveryStep_congr (I := Started ESP_WIFI_MAX_CONN_NUM) (fun _ e h => h.step e)
      (started_init _) (fun _ e h => reported_iff configTICK_RATE_HZ h e) inputs
  constructor
  · intro h
    exact hiff.mp h.1
  · intro h
    exact ⟨hiff.mpr h, received_append_queued configTICK_RATE_HZ _ _⟩

/-- A client is authorized and connects again. -/
def sample_reconnect : List session_step :=
  [.call 0 (client_access_event_handler (.AP_STACONNECTED sample_mac)),
    .call 1 (.client_access_authorize (some sample_mac_text) 7 60)]

/-- The session of a client that connects again is gone, and the queue stays empty. -/
theorem reconnect_ends_session_silently :
    let state := session_run 100 4 sample_reconnect
    let e := session_step.call 2 (client_access_event_handler (.AP_STACONNECTED sample_mac))
    ¬ Machine.AtEveryStep (session_step.step 100) (client_access_init 4)
        (sample_reconnect ++ [e]) (Reported 100 4) ∧
      (client_layout.lookup state.s_clients sample_mac).map (fun entry =>
        (entry.state, entry.session_id)) = some (AUTHORIZED, 7) ∧
      (client_layout.lookup (e.step 100 state).1.s_clients sample_mac).map (fun entry =>
        (entry.state, entry.session_id)) = some (UNAUTHORIZED, 0) ∧
      queued (e.step 100 state).1 = [] := by
  refine ⟨?_, by decide, by decide, by decide⟩
  intro hreported
  have hput := hreported sample_reconnect _ [] rfl 2 (.AP_STACONNECTED sample_mac) rfl sample_mac
    ⟨true, sample_mac, AUTHORIZED, 7, 0, 1, 6000, 0⟩ (by decide) rfl
    (by decide) (by decide)
  revert hput
  decide

end WifiManager.ClientAccess
