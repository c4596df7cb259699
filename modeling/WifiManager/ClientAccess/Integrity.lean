/-
What a call may do to the table.

`table_call` adds to the calls of `Runs` the two that go over all clients, the refresh of the
signal strengths and the copy of the table, and a call with a NULL pointer. Three things hold
of every call: the MACs stay unique, an error code means that nothing was written, and a call
about one client leaves the others alone.
-/
import WifiManager.Lib.Machine
import WifiManager.ClientAccess.Seats

set_option autoImplicit false

namespace WifiManager.ClientAccess

open WifiManager.Lib

open client_access_state_t

/-! ## The calls over all clients -/

/-- What `esp_wifi_ap_get_sta_list` says about one client. -/
structure wifi_sta_info_t where
  mac : mac_t
  rssi : ℤ
  deriving DecidableEq, Repr

/-- The body of the loop that makes the last round of measurements invalid. -/
def client_access_entry_t.unheard (entry : client_access_entry_t) : client_access_entry_t :=
  if entry.in_use = true then { entry with rssi := 0 } else entry

/-- The body of the loop over the clients that the driver reports. -/
def store_rssi (clients : client_table) (station : wifi_sta_info_t) : client_table :=
  match find_client_index_locked clients station.mac with
  | some i => update clients i fun entry => { entry with rssi := station.rssi }
  | none => clients

/-- `client_access_update_rssi_all`, with the answer of `esp_wifi_ap_get_sta_list`. -/
def client_access_update_rssi_all (clients : client_table)
    (station_list : Except esp_err_t (List wifi_sta_info_t)) : client_table × esp_err_t :=
  match station_list with
  | .error err => (clients, err)
  | .ok stations =>
      (stations.foldl store_rssi (clients.map client_access_entry_t.unheard), .ESP_OK)

/-- `client_access_copy_snapshots` into an array of `capacity` places. -/
def client_access_copy_snapshots (clients : client_table) (capacity : ℕ) :
    Except esp_err_t (List client_access_snapshot_t) :=
  if capacity = 0 then .error .ESP_ERR_INVALID_ARG
  else
    .ok (((clients.filter client_access_entry_t.in_use).take capacity).map
      client_access_entry_t.snapshot)

/-! ## Calls -/

/-- The calls that read or write the table. A call of any of them with a NULL pointer where
there is none in `client_call` returns in front of its critical section. -/
inductive table_call
  | call (call : client_call)
  | client_access_update_rssi_all (station_list : Except esp_err_t (List wifi_sta_info_t))
  | client_access_copy_snapshots (capacity : ℕ)
  | null_argument

/-- What they return. -/
structure table_reply extends client_reply where
  snapshots : List client_access_snapshot_t := []
  deriving DecidableEq

/-- A call, at a tick count. -/
structure table_event where
  now : UInt32
  call : table_call

variable (configTICK_RATE_HZ : UInt32)

/-- One call. -/
def table_event.step (state : client_access_t) (e : table_event) :
    client_access_t × table_reply :=
  match e.call with
  | .call call =>
      let (state, reply) := call.step configTICK_RATE_HZ e.now state
      (state, { toclient_reply := reply })
  | .client_access_update_rssi_all station_list =>
      let (clients, err) :=
        ClientAccess.client_access_update_rssi_all state.s_clients station_list
      ({ state with s_clients := clients }, { err := err })
  | .client_access_copy_snapshots capacity =>
      match ClientAccess.client_access_copy_snapshots state.s_clients capacity with
      | .ok snapshots => (state, { snapshots := snapshots })
      | .error err => (state, { err := err })
  | .null_argument => (state, { err := .ESP_ERR_INVALID_ARG })

/-- The client that a call is about. -/
def client_call.client : client_call → Option mac_t
  | .track_connected_client mac => some mac
  | .remove_disconnect_client mac => some mac
  | .track_client_ip mac _ => some mac
  | .client_access_set_state mac _ => some mac
  | .client_access_authorize mac_text session_id _ => named_client mac_text session_id
  | .client_access_revoke_authorization mac_text session_id => named_client mac_text session_id
  | _ => none

/-- The calls that change what the table says about one client. -/
def client_call.writes : client_call → Bool
  | .track_connected_client _ => true
  | .track_client_ip _ _ => true
  | .client_access_set_state _ _ => true
  | .client_access_authorize _ _ _ => true
  | .client_access_revoke_authorization _ _ => true
  | _ => false

/-- The tables differ in one slot at most, which is the client's and was so or free. -/
def OnlyEntryOf (mac : mac_t) (before after : client_table) : Prop :=
  ∃ i old entry, before[i]? = some old ∧ (old.in_use = true → old.mac = mac) ∧
    entry.in_use = true ∧ entry.mac = mac ∧ after = before.set i entry

/-! ## The signal strengths -/

section Rssi

variable {clients : client_table}

/-- What the driver reported last about a client. -/
def heard (stations : List wifi_sta_info_t) (mac : mac_t) (rssi : ℤ) : ℤ :=
  stations.foldl (fun rssi station => if station.mac = mac then station.rssi else rssi) rssi

theorem store_rssi_spec (hu : client_layout.Unique clients) (station : wifi_sta_info_t) :
    client_layout.Unique (store_rssi clients station) ∧
      ∀ k, client_layout.lookup (store_rssi clients station) k
        = if k = station.mac then
            (client_layout.lookup clients k).map fun entry => { entry with rssi := station.rssi }
          else client_layout.lookup clients k := by
  unfold store_rssi
  cases hfind : find_client_index_locked clients station.mac with
  | some i =>
      exact update_found (fun entry => { entry with rssi := station.rssi }) hu hfind
        (fun _ => ⟨rfl, rfl⟩)
  | none => exact ⟨hu, lookup_absent hfind⟩

/-- The loop over the clients that the driver reports. -/
theorem foldl_store_rssi_spec (stations : List wifi_sta_info_t) :
    ∀ clients : client_table, client_layout.Unique clients →
      client_layout.Unique (stations.foldl store_rssi clients) ∧
        ∀ k, client_layout.lookup (stations.foldl store_rssi clients) k
          = (client_layout.lookup clients k).map fun entry =>
              { entry with rssi := heard stations k entry.rssi } := by
  induction stations with
  | nil =>
      intro clients hu
      refine ⟨hu, fun k => ?_⟩
      rw [List.foldl_nil]
      cases client_layout.lookup clients k <;> rfl
  | cons station stations ih =>
      intro clients hu
      obtain ⟨hstored, hlookup⟩ := store_rssi_spec hu station
      obtain ⟨hunique, hrest⟩ := ih _ hstored
      refine ⟨hunique, fun k => ?_⟩
      rw [List.foldl_cons, hrest k, hlookup k]
      by_cases hk : k = station.mac
      · rw [if_pos hk, Option.map_map]
        congr 1
        funext entry
        simp only [Function.comp_apply, heard, List.foldl_cons, if_pos hk.symm]
      · rw [if_neg hk]
        congr 1
        funext entry
        simp only [heard, List.foldl_cons, if_neg (Ne.symm hk)]

theorem length_foldl_store_rssi (stations : List wifi_sta_info_t) :
    ∀ clients : client_table, (stations.foldl store_rssi clients).length = clients.length := by
  induction stations with
  | nil => exact fun _ => rfl
  | cons station stations ih =>
      intro clients
      rw [List.foldl_cons, ih, store_rssi]
      cases find_client_index_locked clients station.mac with
      | none => rfl
      | some i => exact List.length_set

/-- **A refresh treats every client by itself**: who was not reported has no signal strength. -/
theorem client_access_update_rssi_all_spec (hu : client_layout.Unique clients)
    (stations : List wifi_sta_info_t) :
    client_layout.Unique (client_access_update_rssi_all clients (.ok stations)).1 ∧
      ∀ k, client_layout.lookup (client_access_update_rssi_all clients (.ok stations)).1 k
        = (client_layout.lookup clients k).map fun entry =>
            { entry with rssi := heard stations k 0 } := by
  have hseat : ∀ entry : client_access_entry_t, entry.unheard.seat = entry.seat := by
    intro entry
    unfold client_access_entry_t.unheard
    split_ifs <;> rfl
  have hdead : ∀ entry, client_layout.live entry = false →
      client_layout.live entry.unheard = false :=
    fun entry h => (live_of_seat (hseat entry)).trans h
  have hkey : ∀ entry : client_access_entry_t, client_layout.live entry.unheard = true →
      client_layout.key entry.unheard = client_layout.key entry :=
    fun entry _ => key_of_seat (hseat entry)
  obtain ⟨hunique, hlookup⟩ := foldl_store_rssi_spec stations _
    (Slots.Layout.unique_map hu hdead hkey)
  refine ⟨hunique, fun k => ?_⟩
  rw [client_access_update_rssi_all, hlookup k, Slots.Layout.lookup_map hu hdead hkey]
  cases hl : client_layout.lookup clients k with
  | none => rfl
  | some entry =>
      have hlive := (Slots.Layout.lookup_holds hl).1
      have hused : entry.in_use = true := hlive
      have hstays : client_layout.live entry.unheard = true :=
        (live_of_seat (hseat entry)).trans hlive
      rw [Option.map_some, Option.filter_some_pos hstays, Option.map_some, Option.map_some,
        client_access_entry_t.unheard, if_pos hused]

end Rssi

/-! ## What a call writes -/

/-- What a call that changes one client returns: an error and the table as it was, or ESP_OK and
a table that differs in the entry of the client. -/
inductive WriteOutcome (client : Option mac_t) (clients : client_table) :
    client_table × esp_err_t → Prop
  | refused {err : esp_err_t} (herr : err ≠ .ESP_OK) : WriteOutcome client clients (clients, err)
  | written {mac : mac_t} {clients' : client_table} (hclient : client = some mac)
      (honly : OnlyEntryOf mac clients clients') : WriteOutcome client clients (clients', .ESP_OK)

section Outcomes

variable {clients : client_table} {client : Option mac_t} {mac : mac_t}

theorem only_entry_of_update {i : ℕ}
    (hfind : find_client_index_locked clients mac = some i)
    (f : client_access_entry_t → client_access_entry_t)
    (hf : ∀ entry, (f entry).in_use = entry.in_use ∧ (f entry).mac = entry.mac) :
    OnlyEntryOf mac clients (update clients i f) := by
  obtain ⟨old, hi, hholds, -⟩ := Slots.Layout.find_spec hfind
  obtain ⟨hlive, hkey⟩ := Slots.Layout.holds_iff.mp hholds
  exact ⟨i, old, f old, hi, fun _ => hkey, (hf old).1.trans hlive, (hf old).2.trans hkey,
    update_eq hi f⟩

/-- A connection takes the client's slot, or a free one. -/
theorem only_entry_of_slot {i : ℕ}
    (hslot : (find_client_index_locked clients mac).or (client_layout.free clients) = some i) :
    OnlyEntryOf mac clients (clients.set i (.connected mac)) := by
  cases hfind : find_client_index_locked clients mac with
  | some j =>
      rw [hfind, Option.some_or] at hslot
      obtain rfl := Option.some.inj hslot
      obtain ⟨old, hi, hholds, -⟩ := Slots.Layout.find_spec hfind
      have hkey : old.mac = mac := (Slots.Layout.holds_iff.mp hholds).2
      exact ⟨j, old, .connected mac, hi, fun _ => hkey, rfl, rfl, rfl⟩
  | none =>
      rw [hfind, Option.none_or] at hslot
      obtain ⟨old, hi, hdead⟩ := Slots.Layout.free_spec hslot
      have hfree : old.in_use = false := hdead
      exact ⟨i, old, .connected mac, hi, fun hused => absurd (hfree.symm.trans hused) (by simp),
        rfl, rfl, rfl⟩

/-- An assignment in the entry of a MAC, if it is there. -/
theorem update_outcome (hclient : client = some mac)
    (f : client_access_entry_t → client_access_entry_t)
    (hf : ∀ entry, (f entry).in_use = entry.in_use ∧ (f entry).mac = entry.mac) :
    WriteOutcome client clients
      (match find_client_index_locked clients mac with
        | some i => (update clients i f, .ESP_OK)
        | none => (clients, .ESP_ERR_NOT_FOUND)) := by
  cases hfind : find_client_index_locked clients mac with
  | some i => exact .written hclient (only_entry_of_update hfind f hf)
  | none => exact .refused (by decide)

theorem track_connected_client_outcome (mac : mac_t) :
    WriteOutcome (some mac) clients (track_connected_client clients mac) := by
  unfold track_connected_client
  cases hslot : (find_client_index_locked clients mac).or (client_layout.free clients) with
  | some i => exact .written rfl (only_entry_of_slot hslot)
  | none => exact .refused (by decide)

theorem track_client_ip_outcome (mac : mac_t) (ip : UInt32) :
    WriteOutcome (some mac) clients (track_client_ip clients mac ip) :=
  update_outcome rfl (fun entry => { entry with ip := ip }) fun _ => ⟨rfl, rfl⟩

theorem client_access_set_state_outcome (mac : mac_t) (access : client_access_state_t) :
    WriteOutcome (some mac) clients (client_access_set_state clients mac access) := by
  unfold client_access_set_state
  split_ifs
  · exact .refused (by decide)
  · exact update_outcome rfl (fun entry => { entry with state := access }) fun _ => ⟨rfl, rfl⟩

/-- A MAC that is not one is an error. -/
theorem refused_of_parse {mac_text : Option c_string} {err : esp_err_t}
    (h : parse_mac_address mac_text = .error err) : WriteOutcome client clients (clients, err) := by
  rw [parse_mac_address_error h]
  exact .refused (by decide)

theorem client_access_authorize_outcome (configTICK_RATE_HZ now : UInt32)
    (mac_text : Option c_string) (session_id : ℤ) (ttl_seconds : UInt32) :
    WriteOutcome (named_client mac_text session_id) clients
      (client_access_authorize configTICK_RATE_HZ now clients mac_text session_id ttl_seconds) := by
  rw [client_access_authorize, named_client]
  split_ifs
  · exact .refused (by decide)
  · cases hparse : parse_mac_address mac_text with
    | error err => exact refused_of_parse hparse
    | ok mac =>
        exact update_outcome rfl (.authorized configTICK_RATE_HZ now session_id ttl_seconds)
          fun _ => ⟨rfl, rfl⟩

theorem client_access_revoke_authorization_outcome (mac_text : Option c_string)
    (session_id : ℤ) :
    WriteOutcome (named_client mac_text session_id) clients
      (client_access_revoke_authorization clients mac_text session_id) := by
  rw [client_access_revoke_authorization, named_client]
  split_ifs
  · exact .refused (by decide)
  · cases hparse : parse_mac_address mac_text with
    | error err => exact refused_of_parse hparse
    | ok mac =>
        dsimp only
        cases hfind : find_client_index_locked clients mac with
        | none => exact .refused (by decide)
        | some i =>
            dsimp only
            split_ifs
            · exact .written rfl (only_entry_of_update hfind .unauthorized fun _ => ⟨rfl, rfl⟩)
            · exact .refused (by decide)

end Outcomes

/-! ## Uniqueness, errors, and the other clients -/

section Calls

variable {configTICK_RATE_HZ}

/-- A copy of the table changes nothing. -/
theorem copy_snapshots_state (now : UInt32) (capacity : ℕ) (state : client_access_t) :
    (table_event.step configTICK_RATE_HZ state ⟨now, .client_access_copy_snapshots capacity⟩).1
      = state := by
  rw [table_event.step]
  dsimp only
  cases client_access_copy_snapshots state.s_clients capacity <;> rfl

theorem unique_table_step {state : client_access_t} (hu : client_layout.Unique state.s_clients)
    (e : table_event) :
    client_layout.Unique (e.step configTICK_RATE_HZ state).1.s_clients := by
  obtain ⟨now, call⟩ := e
  cases call with
  | call call => exact unique_step configTICK_RATE_HZ hu now call
  | client_access_update_rssi_all station_list =>
      cases station_list with
      | error err => exact hu
      | ok stations => exact (client_access_update_rssi_all_spec hu stations).1
  | client_access_copy_snapshots capacity =>
      rw [copy_snapshots_state]
      exact hu
  | null_argument => exact hu

/-- A call that changes one client does so through the table it returns. -/
theorem client_call_outcome (now : UInt32) (state : client_access_t) {call : client_call}
    (hwrites : call.writes = true) :
    ∃ result, call.step configTICK_RATE_HZ now state
        = ({ state with s_clients := result.1 }, { err := result.2 }) ∧
      WriteOutcome call.client state.s_clients result := by
  cases call with
  | track_connected_client mac => exact ⟨_, rfl, track_connected_client_outcome mac⟩
  | track_client_ip mac ip => exact ⟨_, rfl, track_client_ip_outcome mac ip⟩
  | client_access_set_state mac access =>
      exact ⟨_, rfl, client_access_set_state_outcome mac access⟩
  | client_access_authorize mac_text session_id ttl_seconds =>
      exact ⟨_, rfl, client_access_authorize_outcome configTICK_RATE_HZ now mac_text session_id
        ttl_seconds⟩
  | client_access_revoke_authorization mac_text session_id =>
      exact ⟨_, rfl, client_access_revoke_authorization_outcome mac_text session_id⟩
  | _ => cases hwrites

/-- A call of another kind returns no error. -/
theorem client_call_no_error (now : UInt32) (state : client_access_t) {call : client_call}
    (hwrites : call.writes = false) : (call.step configTICK_RATE_HZ now state).2.err = .ESP_OK := by
  cases call with
  | remove_disconnect_client mac => rfl
  | client_access_get_snapshot_by_ipv4 arp source_ip => rfl
  | client_access_can_forward_ipv4 source_ip => rfl
  | client_access_expire_check sampled => rfl
  | _ => cases hwrites

/-- **An error code means that nothing was written.** -/
theorem client_call_failed {now : UInt32} {state : client_access_t} {call : client_call}
    (h : (call.step configTICK_RATE_HZ now state).2.err ≠ .ESP_OK) :
    (call.step configTICK_RATE_HZ now state).1 = state := by
  by_cases hwrites : call.writes = true
  · obtain ⟨result, hstep, houtcome⟩ := client_call_outcome now state hwrites
    rw [hstep] at h ⊢
    cases houtcome with
    | refused herr => rfl
    | written hclient honly => exact absurd rfl h
  · exact absurd (client_call_no_error now state (Bool.not_eq_true _ ▸ hwrites)) h

/-- **A call that succeeds changes the entry of its client**, and nothing but the table. -/
theorem client_call_succeeded {now : UInt32} {state : client_access_t} {call : client_call}
    (hwrites : call.writes = true) (h : (call.step configTICK_RATE_HZ now state).2.err = .ESP_OK) :
    ∃ mac clients, call.client = some mac ∧
      (call.step configTICK_RATE_HZ now state).1 = { state with s_clients := clients } ∧
      OnlyEntryOf mac state.s_clients clients := by
  obtain ⟨result, hstep, houtcome⟩ := client_call_outcome now state hwrites
  rw [hstep] at h ⊢
  cases houtcome with
  | refused herr => exact absurd h herr
  | written hclient honly => exact ⟨_, _, hclient, rfl, honly⟩

/-- No call makes a slot or takes one away. -/
theorem length_table_step (state : client_access_t) (e : table_event) :
    (e.step configTICK_RATE_HZ state).1.s_clients.length = state.s_clients.length := by
  obtain ⟨now, call⟩ := e
  cases call with
  | call call => exact length_step configTICK_RATE_HZ now state call
  | client_access_update_rssi_all station_list =>
      cases station_list with
      | error err => rfl
      | ok stations =>
          exact (length_foldl_store_rssi stations _).trans (List.length_map _)
  | client_access_copy_snapshots capacity => rw [copy_snapshots_state]
  | null_argument => rfl

theorem table_event_failed {state : client_access_t} {e : table_event}
    (h : (e.step configTICK_RATE_HZ state).2.err ≠ .ESP_OK) :
    (e.step configTICK_RATE_HZ state).1 = state := by
  obtain ⟨now, call⟩ := e
  cases call with
  | call call => exact client_call_failed h
  | client_access_update_rssi_all station_list =>
      cases station_list with
      | error err => rfl
      | ok stations => exact absurd rfl h
  | client_access_copy_snapshots capacity => rw [copy_snapshots_state]
  | null_argument => rfl

/-- **A call about one client leaves the others alone.** -/
theorem client_call_others {now : UInt32} {state : client_access_t}
    (hu : client_layout.Unique state.s_clients) {call : client_call} {mac k : mac_t}
    (hclient : call.client = some mac) (hk : k ≠ mac) :
    client_layout.lookup (call.step configTICK_RATE_HZ now state).1.s_clients k
      = client_layout.lookup state.s_clients k := by
  have hother : ∀ {named : Option mac_t}, named = some mac → some k ≠ named := by
    rintro _ rfl hsame
    exact hk (Option.some.inj hsame)
  cases call with
  | track_connected_client mac' =>
      obtain rfl := Option.some.inj hclient
      obtain ⟨-, ⟨-, hlookup⟩ | ⟨-, hsame, -⟩⟩ := track_connected_client_spec hu mac'
      · exact (hlookup k).trans (if_neg hk)
      · exact congrArg (client_layout.lookup · k) hsame
  | remove_disconnect_client mac' =>
      obtain rfl := Option.some.inj hclient
      exact ((remove_disconnect_client_spec hu mac').2 k).trans (if_neg hk)
  | track_client_ip mac' ip =>
      obtain rfl := Option.some.inj hclient
      exact ((track_client_ip_spec hu mac' ip).2 k).trans (if_neg hk)
  | client_access_set_state mac' access =>
      obtain rfl := Option.some.inj hclient
      exact ((client_access_set_state_spec hu mac' access).2 k).trans (if_neg fun h => hk h.1)
  | client_access_authorize mac_text session_id ttl_seconds =>
      obtain ⟨-, -, hlookup⟩ := client_access_authorize_spec configTICK_RATE_HZ hu now mac_text
        session_id ttl_seconds
      exact (hlookup k).trans (if_neg (hother hclient))
  | client_access_revoke_authorization mac_text session_id =>
      obtain ⟨-, -, hlookup⟩ :=
        client_access_revoke_authorization_spec hu mac_text session_id
      exact (hlookup k).trans (if_neg fun h => hother hclient h.2)
  | client_access_get_snapshot_by_ipv4 arp source_ip => cases hclient
  | client_access_can_forward_ipv4 source_ip => cases hclient
  | client_access_expire_check sampled => cases hclient

end Calls

end WifiManager.ClientAccess
