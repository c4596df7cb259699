/-
Session data beside the access state.

`client_access.h` says that a client without authorization has session 0. The calls
that authorize, revoke and expire write the state together with the session and its
duration; `client_access_set_state` writes the state alone. `sessions_consistent_iff`
says which runs keep the three fields in agreement: those in which
`client_access_set_state` moves no connected client into the authorized state or out
of it.
-/
import WifiManager.ClientAccess.Disconnects
import WifiManager.ClientAccess.Ledger

set_option autoImplicit false

namespace WifiManager.ClientAccess

open WifiManager.Lib

open client_access_state_t

/-! ## What an entry should say -/

/-- A session while authorized, neither session nor duration otherwise. -/
structure client_access_entry_t.Consistent (entry : client_access_entry_t) : Prop where
  session : 0 < entry.session_id ↔ entry.state = AUTHORIZED
  ttl : entry.state ≠ AUTHORIZED → entry.ttl_ticks = 0

/-- **Consistent sessions**: every entry in use is. -/
def Consistent (state : client_access_t) : Prop :=
  ∀ entry ∈ state.s_clients, entry.in_use = true → entry.Consistent

/-- The step does not call `client_access_set_state`, or it fails, or it leaves the
client as authorized or as unauthorized as it was. -/
def KeepsAuthorization (state : client_access_t) (e : session_step) : Prop :=
  ∀ now mac access entry, e = .call now (.client_access_set_state mac access) →
    access ≠ UNKNOWN → client_layout.lookup state.s_clients mac = some entry →
      (access = AUTHORIZED ↔ entry.state = AUTHORIZED)

/-! ## One entry -/

section Entry

variable {entry : client_access_entry_t}

theorem consistent_connected (mac : mac_t) :
    (client_access_entry_t.connected mac).Consistent := by
  constructor
  · simp [client_access_entry_t.connected]
  · intro _
    rfl

theorem consistent_unauthorized (entry : client_access_entry_t) :
    entry.unauthorized.Consistent := by
  constructor
  · simp [client_access_entry_t.unauthorized]
  · intro _
    rfl

/-- `client_access_authorize` rejects sessions that are not positive. -/
theorem consistent_authorized (configTICK_RATE_HZ now : UInt32) {session_id : ℤ}
    (hsession : 0 < session_id) (ttl_seconds : UInt32) (entry : client_access_entry_t) :
    (entry.authorized configTICK_RATE_HZ now session_id ttl_seconds).Consistent := by
  constructor
  · simpa [client_access_entry_t.authorized] using hsession
  · intro hstate
    exact absurd rfl hstate

theorem client_access_entry_t.Consistent.expire (h : entry.Consistent) (now : UInt32) :
    (entry.expire now).Consistent := by
  obtain hsame | hover := entry.expire_cases now
  · rwa [hsame]
  · rw [hover]
    exact consistent_unauthorized entry

theorem client_access_entry_t.Consistent.can_forward (h : entry.Consistent) (now : UInt32) :
    (entry.can_forward now).1.Consistent := by
  obtain hsame | hover := entry.can_forward_cases now
  · rwa [hsame]
  · rw [hover]
    exact consistent_unauthorized entry

/-- A state that is written alone. -/
theorem client_access_entry_t.Consistent.set_state_iff (h : entry.Consistent)
    (access : client_access_state_t) :
    ({ entry with state := access } : client_access_entry_t).Consistent ↔
      (access = AUTHORIZED ↔ entry.state = AUTHORIZED) := by
  constructor
  · intro hwritten
    rw [← h.session]
    exact hwritten.session.symm
  · intro hkept
    constructor
    · exact h.session.trans hkept.symm
    · intro hstate
      exact h.ttl (fun hauthorized => hstate (hkept.mpr hauthorized))

end Entry

/-! ## One call -/

section Step

variable {configTICK_RATE_HZ : UInt32} {state : client_access_t}

/-- The entries of the table in the form in which the specifications of the calls speak
about them. -/
theorem consistent_iff_agree (hu : client_layout.Unique state.s_clients) (ledger : ledger_t) :
    Consistent state ↔ Agree (fun entry _ => entry.Consistent) state.s_clients ledger := by
  constructor
  · intro h mac entry hl
    exact h entry (List.mem_of_find?_eq_some hl) (Slots.Layout.lookup_holds hl).1
  · intro h entry hmem hused
    obtain ⟨i, hi⟩ := List.getElem?_of_mem hmem
    exact h entry.mac entry (Slots.Layout.lookup_of_live hu hi hused)

/-- Every call but `client_access_set_state`, written as the ledger's rules want it. -/
theorem consistent_step (hu : client_layout.Unique state.s_clients) {ledger : ledger_t}
    (h : Agree (fun entry _ => entry.Consistent) state.s_clients ledger) {call : client_call}
    (hcall : ∀ mac access, call ≠ .client_access_set_state mac access) (now : UInt32) :
    Agree (fun entry _ => entry.Consistent)
      (call.step configTICK_RATE_HZ now state).1.s_clients ledger := by
  cases call with
  | track_connected_client mac =>
      intro k entry hl
      rw [client_call.step] at hl
      dsimp only at hl
      obtain ⟨-, hlookup⟩ | ⟨-, hsame, -⟩ := (track_connected_client_spec hu mac).2
      · rw [hlookup k] at hl
        split_ifs at hl
        · obtain rfl := Option.some.inj hl
          exact consistent_connected mac
        · exact h k entry hl
      · rw [hsame] at hl
        exact h k entry hl
  | remove_disconnect_client mac => exact h.remove_disconnect_client hu mac
  | track_client_ip mac ip =>
      exact h.track_client_ip hu mac fun _ _ hentry => ⟨hentry.session, hentry.ttl⟩
  -- the call that the hypothesis leaves out
  | client_access_set_state mac access => exact absurd rfl (hcall mac access)
  | client_access_get_snapshot_by_ipv4 arp source_ip =>
      exact h.get_snapshot_by_ipv4 hu arp fun _ _ hentry => ⟨hentry.session, hentry.ttl⟩
  | client_access_can_forward_ipv4 source_ip =>
      exact h.can_forward_ipv4 hu source_ip fun _ _ hentry => hentry.can_forward now
  | client_access_authorize mac_text session_id ttl_seconds =>
      obtain ⟨-, -, hlookup⟩ := client_access_authorize_spec configTICK_RATE_HZ hu now
        mac_text session_id ttl_seconds
      intro k entry hl
      rw [client_call.step] at hl
      dsimp only at hl
      rw [hlookup k] at hl
      split_ifs at hl with hk
      · obtain ⟨old, -, rfl⟩ := Option.map_eq_some_iff.mp hl
        -- sessions that are not positive are refused
        have hsession : 0 < session_id := by
          unfold named_client at hk
          split_ifs at hk with hpositive
          omega
        exact consistent_authorized _ now hsession ttl_seconds old
      · exact h k entry hl
  | client_access_revoke_authorization mac_text session_id =>
      obtain ⟨-, -, hlookup⟩ := client_access_revoke_authorization_spec hu mac_text session_id
      intro k entry hl
      rw [client_call.step] at hl
      dsimp only at hl
      rw [hlookup k] at hl
      split_ifs at hl
      · obtain ⟨old, -, rfl⟩ := Option.map_eq_some_iff.mp hl
        exact consistent_unauthorized old
      · exact h k entry hl
  | client_access_expire_check sampled =>
      exact h.expire_check hu sampled fun _ _ _ hentry => hentry.expire sampled

/-- A state written by `client_access_set_state` fits the rest of the entry if and only
if the client is as authorized as before. -/
theorem consistent_set_state_iff (hu : client_layout.Unique state.s_clients)
    {ledger : ledger_t} (h : Agree (fun entry _ => entry.Consistent) state.s_clients ledger)
    (mac : mac_t) (access : client_access_state_t) :
    Agree (fun entry _ => entry.Consistent)
        (client_access_set_state state.s_clients mac access).1 ledger ↔
      (access ≠ UNKNOWN → ∀ entry, client_layout.lookup state.s_clients mac = some entry →
        (access = AUTHORIZED ↔ entry.state = AUTHORIZED)) := by
  have hlookup := (client_access_set_state_spec hu mac access).2
  constructor
  · intro hafter hknown entry hl
    have hwritten := hafter mac { entry with state := access }
      (by rw [hlookup, if_pos ⟨rfl, hknown⟩, hl, Option.map_some])
    exact ((h mac entry hl).set_state_iff access).mp hwritten
  · intro hkept k entry hl
    rw [hlookup k] at hl
    split_ifs at hl with hwrite
    · obtain ⟨old, hold, rfl⟩ := Option.map_eq_some_iff.mp hl
      rw [hwrite.1] at hold
      exact ((h mac old hold).set_state_iff access).mpr (hkept hwrite.2 old hold)
    · exact h k entry hl

/-- **Which steps keep the sessions consistent.** -/
theorem session_step.consistent_iff {ESP_WIFI_MAX_CONN_NUM : ℕ}
    (hstarted : Started ESP_WIFI_MAX_CONN_NUM state) (h : Consistent state)
    (e : session_step) :
    Consistent (e.step configTICK_RATE_HZ state).1 ↔ KeepsAuthorization state e := by
  have hafter : client_layout.Unique (e.step configTICK_RATE_HZ state).1.s_clients :=
    (hstarted.step e).unique
  rw [consistent_iff_agree hafter fun _ => none]
  rw [consistent_iff_agree hstarted.unique fun _ => none] at h
  cases e with
  | wait =>
      -- a wait reads the queue and leaves the table alone
      have hsame : (session_step.step configTICK_RATE_HZ state .wait).1.s_clients
          = state.s_clients := by
        rw [session_step.step, client_access_wait_disconnect_event, hstarted.queue]
        rcases queued state with - | ⟨event, events⟩ <;> rfl
      rw [hsame]
      apply iff_of_true h
      rintro now mac access entry ⟨⟩
  | call now call =>
      by_cases hcall : ∃ mac access, call = .client_access_set_state mac access
      · obtain ⟨mac, access, rfl⟩ := hcall
        rw [session_step.step, client_call.step]
        refine (consistent_set_state_iff hstarted.unique h mac access).trans ?_
        constructor
        · rintro hkept _ _ _ entry ⟨⟩ hknown hl
          exact hkept hknown entry hl
        · intro hkept hknown entry hl
          exact hkept now mac access entry rfl hknown hl
      · apply iff_of_true
        · exact consistent_step hstarted.unique h
            (fun mac access heq => hcall ⟨mac, access, heq⟩) now
        · rintro _ mac access _ ⟨⟩
          exact absurd ⟨mac, access, rfl⟩ hcall

end Step

/-! ## Runs -/

/-- Nobody is connected at the start. -/
theorem consistent_init (ESP_WIFI_MAX_CONN_NUM : ℕ) :
    Consistent (client_access_init ESP_WIFI_MAX_CONN_NUM) := by
  intro entry hmem hused
  obtain ⟨i, hi⟩ := List.getElem?_of_mem hmem
  rw [init_absent _ hi] at hused
  cases hused

/-- **Consistent runs.** Every state that a run reaches has a session exactly in the
authorized entries, and no duration in the others, if and only if no step of the run is a
`client_access_set_state` that moves a connected client into the authorized state or out
of it. -/
theorem sessions_consistent_iff (configTICK_RATE_HZ : UInt32) (ESP_WIFI_MAX_CONN_NUM : ℕ)
    (inputs : List session_step) :
    (∀ before after, inputs = before ++ after →
        Consistent (session_run configTICK_RATE_HZ ESP_WIFI_MAX_CONN_NUM before)) ↔
      Machine.AtEveryStep (session_step.step configTICK_RATE_HZ)
        (client_access_init ESP_WIFI_MAX_CONN_NUM) inputs KeepsAuthorization :=
  Machine.invariant_iff (I := Started ESP_WIFI_MAX_CONN_NUM) (J := Consistent)
    (fun _ e h => h.step e) (fun _ e hstarted h => e.consistent_iff hstarted h)
    (started_init _) (consistent_init _) inputs

/-- A client is authorized for a minute in session 7 and then blocked. -/
def sample_block : List session_step :=
  sample_reconnect ++ [.call 2 (.client_access_set_state sample_mac BLOCKED)]

/-- The blocked client keeps session and duration, and reports the session when it
leaves. -/
theorem blocked_keeps_session :
    ¬ Consistent (session_run 100 4 sample_block) ∧
      (session_run 100 4 sample_block).s_clients.head?
        = some ⟨true, sample_mac, BLOCKED, 7, 0, 1, 6000, 0⟩ ∧
      queued (session_run 100 4
        (sample_block ++ [.call 3 (client_access_event_handler (.AP_STADISCONNECTED sample_mac))]))
        = [⟨sample_mac, BLOCKED, 7⟩] := by
  refine ⟨?_, by decide, by decide⟩
  intro hconsistent
  have hblocked := (hconsistent ⟨true, sample_mac, BLOCKED, 7, 0, 1, 6000, 0⟩
    (by decide) rfl).session.mp (by decide)
  cases hblocked

end WifiManager.ClientAccess
