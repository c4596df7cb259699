/-
Calls of the module and what they do to each client.

`client_call.step` is one call. For each call one theorem says what it does to the
entry of every MAC: the effect on one client at a time, with no table in it. Every later
result about runs is read off these and the uniqueness of MACs, which every call keeps
(`unique_step`).
-/
import WifiManager.ClientAccess.Table

set_option autoImplicit false

namespace WifiManager.ClientAccess

open WifiManager.Lib

open client_access_state_t

/-! ## Calls -/

/-- The calls that read or write the table. -/
inductive client_call
  | track_connected_client (mac : mac_t)
  | remove_disconnect_client (mac : mac_t)
  | track_client_ip (mac : mac_t) (ip : UInt32)
  | client_access_set_state (mac : mac_t) (state : client_access_state_t)
  | client_access_get_snapshot_by_ipv4 (arp : softap_arp_t) (source_ip : UInt32)
  | client_access_can_forward_ipv4 (source_ip : UInt32)
  | client_access_authorize (mac_text : Option c_string) (session_id : ℤ)
      (ttl_seconds : UInt32)
  | client_access_revoke_authorization (mac_text : Option c_string) (session_id : ℤ)
  | client_access_expire_check (now : UInt32)

/-- What a call returns, as far as it returns an error code or an answer. -/
structure client_reply where
  err : esp_err_t := .ESP_OK
  can_forward : Bool := false
  deriving DecidableEq, Repr

variable (configTICK_RATE_HZ : UInt32)

/-- One call, at the tick count `now`. -/
def client_call.step (now : UInt32) (state : client_access_t) :
    client_call → client_access_t × client_reply
  | .track_connected_client mac =>
      let (clients, err) := ClientAccess.track_connected_client state.s_clients mac
      ({ state with s_clients := clients }, { err := err })
  | .remove_disconnect_client mac => (ClientAccess.remove_disconnect_client state mac, {})
  | .track_client_ip mac ip =>
      let (clients, err) := ClientAccess.track_client_ip state.s_clients mac ip
      ({ state with s_clients := clients }, { err := err })
  | .client_access_set_state mac access =>
      let (clients, err) := ClientAccess.client_access_set_state state.s_clients mac access
      ({ state with s_clients := clients }, { err := err })
  | .client_access_get_snapshot_by_ipv4 arp source_ip =>
      ({ state with
          s_clients :=
            (ClientAccess.client_access_get_snapshot_by_ipv4 arp state.s_clients source_ip).1 },
        {})
  | .client_access_can_forward_ipv4 source_ip =>
      let (clients, can_forward) :=
        ClientAccess.client_access_can_forward_ipv4 state.s_clients now source_ip
      ({ state with s_clients := clients }, { can_forward := can_forward })
  | .client_access_authorize mac_text session_id ttl_seconds =>
      let (clients, err) := ClientAccess.client_access_authorize configTICK_RATE_HZ now
        state.s_clients mac_text session_id ttl_seconds
      ({ state with s_clients := clients }, { err := err })
  | .client_access_revoke_authorization mac_text session_id =>
      let (clients, err) := ClientAccess.client_access_revoke_authorization state.s_clients
        mac_text session_id
      ({ state with s_clients := clients }, { err := err })
  | .client_access_expire_check sampled =>
      ({ state with
          s_clients := ClientAccess.client_access_expire_check state.s_clients sampled }, {})

/-! ## Seats -/

/-- What an entry says apart from the authorization: whose it is, and where. -/
structure seat_t where
  in_use : Bool
  mac : mac_t
  ip : UInt32
  deriving DecidableEq, Repr

def client_access_entry_t.seat (entry : client_access_entry_t) : seat_t :=
  ⟨entry.in_use, entry.mac, entry.ip⟩

/-- An expiry either leaves an entry alone or takes the authorization away. -/
theorem client_access_entry_t.expire_cases (now : UInt32) (entry : client_access_entry_t) :
    entry.expire now = entry ∨ entry.expire now = entry.unauthorized := by
  unfold expire
  dsimp only
  split_ifs
  all_goals first | exact .inl rfl | exact .inr rfl

theorem client_access_entry_t.can_forward_cases (now : UInt32) (entry : client_access_entry_t) :
    (entry.can_forward now).1 = entry ∨ (entry.can_forward now).1 = entry.unauthorized := by
  unfold can_forward
  dsimp only
  split_ifs
  all_goals first | exact .inl rfl | exact .inr rfl

@[simp] theorem client_access_entry_t.expire_seat (now : UInt32)
    (entry : client_access_entry_t) : (entry.expire now).seat = entry.seat := by
  obtain h | h := entry.expire_cases now <;> rw [h]
  rfl

@[simp] theorem client_access_entry_t.can_forward_seat (now : UInt32)
    (entry : client_access_entry_t) : (entry.can_forward now).1.seat = entry.seat := by
  obtain h | h := entry.can_forward_cases now <;> rw [h]
  rfl

theorem live_of_seat {entry entry' : client_access_entry_t} (h : entry'.seat = entry.seat) :
    client_layout.live entry' = client_layout.live entry :=
  congrArg seat_t.in_use h

theorem key_of_seat {entry entry' : client_access_entry_t} (h : entry'.seat = entry.seat) :
    client_layout.key entry' = client_layout.key entry :=
  congrArg seat_t.mac h

/-! ## One table operation, seen at every MAC -/

section Operations

variable {clients : client_table} {mac : mac_t}

theorem update_eq {i : ℕ} {entry : client_access_entry_t} (hi : clients[i]? = some entry)
    (f : client_access_entry_t → client_access_entry_t) :
    update clients i f = clients.set i (f entry) := by
  rw [update, List.getD_eq_getElem?_getD, hi, Option.getD_some]

/-- An assignment to other fields than `in_use` and `mac`, in the entry of a MAC. -/
theorem update_found (f : client_access_entry_t → client_access_entry_t)
    (hu : client_layout.Unique clients) {i : ℕ}
    (hfind : find_client_index_locked clients mac = some i)
    (hf : ∀ entry, (f entry).in_use = entry.in_use ∧ (f entry).mac = entry.mac) :
    client_layout.Unique (update clients i f) ∧
      ∀ k, client_layout.lookup (update clients i f) k
        = if k = mac then (client_layout.lookup clients k).map f
          else client_layout.lookup clients k := by
  obtain ⟨entry, hi, hholds, hl⟩ := Slots.Layout.find_spec hfind
  obtain ⟨hlive, hmac⟩ := Slots.Layout.holds_iff.mp hholds
  have hserves := Slots.Layout.serves_of_find hu hfind
  have hkey : client_layout.live (f entry) = true → client_layout.key (f entry) = mac :=
    fun _ => (hf entry).2.trans hmac
  rw [update_eq hi]
  refine ⟨hserves.unique hu hkey, fun k => ?_⟩
  rw [hserves.lookup_set hkey k]
  by_cases hk : k = mac
  · have hstays : client_layout.live (f entry) = true := (hf entry).1.trans hlive
    rw [if_pos hk, if_pos hk, hk, hl, if_pos hstays]
    rfl
  · rw [if_neg hk, if_neg hk]

/-- A connection: the MAC has a fresh entry, or there was no room for it. -/
theorem track_connected_client_spec (hu : client_layout.Unique clients) (mac : mac_t) :
    client_layout.Unique (track_connected_client clients mac).1 ∧
      (((track_connected_client clients mac).2 = .ESP_OK ∧
          ∀ k, client_layout.lookup (track_connected_client clients mac).1 k
            = if k = mac then some (.connected mac) else client_layout.lookup clients k) ∨
        ((track_connected_client clients mac).2 = .ESP_ERR_NO_MEM ∧
          (track_connected_client clients mac).1 = clients ∧
          client_layout.lookup clients mac = none)) := by
  have hplaced : ∀ i, client_layout.Serves clients i mac →
      client_layout.Unique (clients.set i (.connected mac)) ∧
        ∀ k, client_layout.lookup (clients.set i (.connected mac)) k
          = if k = mac then some (.connected mac) else client_layout.lookup clients k := by
    intro i hserves
    refine ⟨hserves.unique hu (fun _ => rfl), fun k => ?_⟩
    rw [hserves.lookup_set (fun _ => rfl) k]
    rfl
  unfold track_connected_client
  cases hfind : find_client_index_locked clients mac with
  | some i =>
      obtain ⟨hunique, hlookup⟩ := hplaced i (Slots.Layout.serves_of_find hu hfind)
      exact ⟨hunique, .inl ⟨rfl, hlookup⟩⟩
  | none =>
      have hnone := Slots.Layout.find_eq_none_iff.mp hfind
      rw [Option.none_or]
      cases hfree : client_layout.free clients with
      | some i =>
          obtain ⟨hunique, hlookup⟩ := hplaced i (Slots.Layout.serves_of_free hfree hnone)
          exact ⟨hunique, .inl ⟨rfl, hlookup⟩⟩
      | none => exact ⟨hu, .inr ⟨rfl, rfl, hnone⟩⟩

/-- The queue is not part of the table. -/
theorem xQueueSend_clients (state : client_access_t) (event : client_access_disconnect_event_t) :
    (xQueueSend state event).s_clients = state.s_clients := by
  unfold xQueueSend
  cases state.s_disconnect_queue with
  | none => rfl
  | some events =>
      dsimp only
      split_ifs <;> rfl

/-- A disconnection: the entry of the MAC is gone. -/
theorem remove_disconnect_client_spec {state : client_access_t}
    (hu : client_layout.Unique state.s_clients) (mac : mac_t) :
    client_layout.Unique (remove_disconnect_client state mac).s_clients ∧
      ∀ k, client_layout.lookup (remove_disconnect_client state mac).s_clients k
        = if k = mac then none else client_layout.lookup state.s_clients k := by
  unfold remove_disconnect_client
  cases hfind : find_client_index_locked state.s_clients mac with
  | none =>
      have hnone := Slots.Layout.find_eq_none_iff.mp hfind
      refine ⟨hu, fun k => ?_⟩
      by_cases hk : k = mac
      · rw [if_pos hk, hk, hnone]
      · rw [if_neg hk]
  | some i =>
      have hserves := Slots.Layout.serves_of_find hu hfind
      have hdead : client_layout.live {} = true → client_layout.key {} = mac := by
        intro h
        cases h
      rw [xQueueSend_clients]
      refine ⟨hserves.unique hu hdead, fun k => ?_⟩
      rw [hserves.lookup_set hdead k]
      rfl

/-- Nothing found, nothing assigned. -/
theorem lookup_absent {f : client_access_entry_t → client_access_entry_t}
    (hfind : find_client_index_locked clients mac = none) (k : mac_t) :
    client_layout.lookup clients k
      = if k = mac then (client_layout.lookup clients k).map f
        else client_layout.lookup clients k := by
  by_cases hk : k = mac
  · rw [if_pos hk, hk, Slots.Layout.find_eq_none_iff.mp hfind]
    rfl
  · rw [if_neg hk]

theorem track_client_ip_spec (hu : client_layout.Unique clients) (mac : mac_t) (ip : UInt32) :
    client_layout.Unique (track_client_ip clients mac ip).1 ∧
      ∀ k, client_layout.lookup (track_client_ip clients mac ip).1 k
        = if k = mac then (client_layout.lookup clients k).map fun entry => { entry with ip := ip }
          else client_layout.lookup clients k := by
  unfold track_client_ip
  cases hfind : find_client_index_locked clients mac with
  | some i =>
      dsimp only
      exact update_found (fun entry => { entry with ip := ip }) hu hfind (fun _ => ⟨rfl, rfl⟩)
  | none => exact ⟨hu, lookup_absent hfind⟩

theorem client_access_set_state_spec (hu : client_layout.Unique clients) (mac : mac_t)
    (state : client_access_state_t) :
    client_layout.Unique (client_access_set_state clients mac state).1 ∧
      ∀ k, client_layout.lookup (client_access_set_state clients mac state).1 k
        = if k = mac ∧ state ≠ UNKNOWN then
            (client_layout.lookup clients k).map fun entry => { entry with state := state }
          else client_layout.lookup clients k := by
  unfold client_access_set_state
  by_cases hadmitted : state ≠ UNAUTHORIZED ∧ state ≠ AUTHORIZED ∧ state ≠ BLOCKED
  · have hunknown : state = UNKNOWN := by
      cases state <;> simp at hadmitted ⊢
    rw [if_pos hadmitted]
    exact ⟨hu, fun k => by rw [if_neg (fun hc => hc.2 hunknown)]⟩
  · have hknown : state ≠ UNKNOWN := by
      rintro rfl
      exact hadmitted ⟨by simp, by simp, by simp⟩
    rw [if_neg hadmitted]
    simp only [hknown, ne_eq, not_false_eq_true, and_true]
    cases hfind : find_client_index_locked clients mac with
    | some i =>
        dsimp only
        exact update_found (fun entry => { entry with state := state }) hu hfind
          (fun _ => ⟨rfl, rfl⟩)
    | none => exact ⟨hu, lookup_absent hfind⟩

/-- The MAC that a call with a textual MAC and a session number is about. -/
def named_client (mac_text : Option c_string) (session_id : ℤ) : Option mac_t :=
  if session_id ≤ 0 then none else (parse_mac_address mac_text).toOption

/-- An authorization: it succeeds for a connected client, and writes its entry. -/
theorem client_access_authorize_spec (hu : client_layout.Unique clients)
    (now : UInt32) (mac_text : Option c_string) (session_id : ℤ) (ttl_seconds : UInt32) :
    let result := client_access_authorize configTICK_RATE_HZ now clients mac_text session_id
      ttl_seconds
    client_layout.Unique result.1 ∧
      (result.2 = .ESP_OK ↔ ∃ mac, named_client mac_text session_id = some mac ∧
        (client_layout.lookup clients mac).isSome = true) ∧
      ∀ k, client_layout.lookup result.1 k
        = if some k = named_client mac_text session_id then
            (client_layout.lookup clients k).map
              (.authorized configTICK_RATE_HZ now session_id ttl_seconds)
          else client_layout.lookup clients k := by
  simp only [client_access_authorize, named_client]
  -- sessions have positive numbers
  by_cases hsession : session_id ≤ 0
  · simp only [if_pos hsession]
    exact ⟨hu, by simp, fun k => by simp⟩
  simp only [if_neg hsession]
  cases hparse : parse_mac_address mac_text with
  | error err =>
      have herr := parse_mac_address_error hparse
      refine ⟨hu, ?_, fun k => ?_⟩
      · simp [Except.toOption, herr]
      · rw [if_neg (by simp [Except.toOption])]
  | ok mac =>
      simp only [Except.toOption, Option.some.injEq, exists_eq_left']
      cases hfind : find_client_index_locked clients mac with
      -- the client is not connected
      | none =>
          refine ⟨hu, ?_, lookup_absent hfind⟩
          rw [Slots.Layout.find_eq_none_iff.mp hfind]
          simp
      | some i =>
          obtain ⟨entry, -, -, hl⟩ := Slots.Layout.find_spec hfind
          obtain ⟨hunique, hlookup⟩ := update_found
            (.authorized configTICK_RATE_HZ now session_id ttl_seconds) hu hfind
            (fun _ => ⟨rfl, rfl⟩)
          refine ⟨hunique, ?_, hlookup⟩
          rw [hl]
          simp

/-- A revocation: it succeeds for the session the client is authorized in. -/
theorem client_access_revoke_authorization_spec (hu : client_layout.Unique clients)
    (mac_text : Option c_string) (session_id : ℤ) :
    let result := client_access_revoke_authorization clients mac_text session_id
    client_layout.Unique result.1 ∧
      (result.2 = .ESP_OK ↔ ∃ mac entry, named_client mac_text session_id = some mac ∧
        client_layout.lookup clients mac = some entry ∧ entry.state = AUTHORIZED ∧
          entry.session_id = session_id) ∧
      ∀ k, client_layout.lookup result.1 k
        = if result.2 = .ESP_OK ∧ some k = named_client mac_text session_id then
            (client_layout.lookup clients k).map .unauthorized
          else client_layout.lookup clients k := by
  simp only [client_access_revoke_authorization, named_client]
  by_cases hsession : session_id ≤ 0
  · simp only [if_pos hsession]
    exact ⟨hu, by simp, fun k => by simp⟩
  simp only [if_neg hsession]
  cases hparse : parse_mac_address mac_text with
  | error err =>
      have herr := parse_mac_address_error hparse
      refine ⟨hu, ?_, fun k => ?_⟩
      · simp [Except.toOption, herr]
      · rw [if_neg (by simp [Except.toOption])]
  | ok mac =>
      simp only [Except.toOption, Option.some.injEq, exists_and_left, exists_eq_left']
      cases hfind : find_client_index_locked clients mac with
      | none =>
          refine ⟨hu, ?_, fun k => ?_⟩
          · rw [Slots.Layout.find_eq_none_iff.mp hfind]
            simp
          · rw [if_neg (by simp)]
      | some i =>
          obtain ⟨entry, hi, -, hl⟩ := Slots.Layout.find_spec hfind
          have hentry : clients.getD i {} = entry := by
            rw [List.getD_eq_getElem?_getD, hi, Option.getD_some]
          simp only [hl, hentry]
          -- only the session that is named is ended
          by_cases hmatch : entry.state = AUTHORIZED ∧ entry.session_id = session_id
          · simp only [if_pos hmatch]
            obtain ⟨hunique, hlookup⟩ := update_found .unauthorized hu hfind
              (fun _ => ⟨rfl, rfl⟩)
            refine ⟨hunique, by simpa using hmatch, fun k => ?_⟩
            rw [hlookup k]
            simp
          · simp only [if_neg hmatch]
            exact ⟨hu, by simpa using hmatch, fun k => by simp⟩

/-- The scan treats every client by itself. -/
theorem client_access_expire_check_spec (hu : client_layout.Unique clients) (now : UInt32) :
    client_layout.Unique (client_access_expire_check clients now) ∧
      ∀ k, client_layout.lookup (client_access_expire_check clients now) k
        = (client_layout.lookup clients k).map (.expire now) := by
  have hdead : ∀ entry, client_layout.live entry = false →
      client_layout.live (entry.expire now) = false :=
    fun entry h => (live_of_seat (entry.expire_seat now)).trans h
  have hkey : ∀ entry, client_layout.live (entry.expire now) = true →
      client_layout.key (entry.expire now) = client_layout.key entry :=
    fun entry _ => key_of_seat (entry.expire_seat now)
  refine ⟨Slots.Layout.unique_map hu hdead hkey, fun k => ?_⟩
  rw [client_access_expire_check, Slots.Layout.lookup_map hu hdead hkey]
  cases hl : client_layout.lookup clients k with
  | none => rfl
  | some entry =>
      have hlive := (Slots.Layout.lookup_holds hl).1
      rw [Option.map_some, Option.filter_some_pos]
      exact (live_of_seat (entry.expire_seat now)).trans hlive

/-- The entry that answers for an address: the first in use with it. -/
def holder (clients : client_table) (source_ip : UInt32) : Option client_access_entry_t :=
  if source_ip = 0 then none else address_layout.lookup clients source_ip

/-- A packet: the client that answers for its address decides, and may lose an
authorization that has run out. -/
theorem client_access_can_forward_ipv4_spec (hu : client_layout.Unique clients)
    (now source_ip : UInt32) :
    let result := client_access_can_forward_ipv4 clients now source_ip
    client_layout.Unique result.1 ∧
      match holder clients source_ip with
      | none => result = (clients, false)
      | some entry => client_layout.lookup clients entry.mac = some entry ∧
          result.2 = (entry.can_forward now).2 ∧
          ∀ k, client_layout.lookup result.1 k
            = if k = entry.mac then some (entry.can_forward now).1
              else client_layout.lookup clients k := by
  simp only [client_access_can_forward_ipv4, holder]
  by_cases hip : source_ip = 0
  · rw [if_pos hip, if_pos hip]
    exact ⟨hu, rfl⟩
  rw [if_neg hip, if_neg hip]
  cases hfind : address_layout.find clients source_ip with
  | none =>
      rw [Slots.Layout.find_eq_none_iff.mp hfind]
      exact ⟨hu, rfl⟩
  | some i =>
      obtain ⟨entry, hi, hholds, hl⟩ := Slots.Layout.find_spec hfind
      have hentry : clients.getD i {} = entry := by
        rw [List.getD_eq_getElem?_getD, hi, Option.getD_some]
      have hlive : client_layout.live entry = true := (Slots.Layout.holds_iff.mp hholds).1
      have hserves := Slots.Layout.serves_of_live hu hi hlive
      -- the entry is written back to where it was found, in use and under the same MAC
      have hkey : client_layout.live (entry.can_forward now).1 = true →
          client_layout.key (entry.can_forward now).1 = client_layout.key entry :=
        fun _ => key_of_seat (entry.can_forward_seat now)
      have hstays : client_layout.live (entry.can_forward now).1 = true :=
        (live_of_seat (entry.can_forward_seat now)).trans hlive
      simp only [hl, hentry, true_and]
      refine ⟨hserves.unique hu hkey, Slots.Layout.lookup_of_live hu hi hlive, ?_⟩
      intro k
      rw [hserves.lookup_set hkey k, if_pos hstays]
      rfl

/-- A snapshot: all it can do to the table is give an address nobody has. -/
theorem client_access_get_snapshot_by_ipv4_clients (arp : softap_arp_t)
    (clients : client_table) (source_ip : UInt32) :
    (client_access_get_snapshot_by_ipv4 arp clients source_ip).1 = clients ∨
      (source_ip ≠ 0 ∧ address_layout.lookup clients source_ip = none ∧
        ∃ mac, resolve_client_mac_by_ipv4 arp source_ip = .ok mac ∧
          (client_access_get_snapshot_by_ipv4 arp clients source_ip).1
            = (track_client_ip clients mac source_ip).1) := by
  unfold client_access_get_snapshot_by_ipv4
  by_cases hip : source_ip = 0
  · rw [if_pos hip]
    exact .inl rfl
  rw [if_neg hip]
  cases hcopy : copy_client_snapshot_by_ipv4 clients source_ip with
  | ok snapshot => exact .inl rfl
  | error err =>
      have hnone : address_layout.lookup clients source_ip = none := by
        unfold copy_client_snapshot_by_ipv4 at hcopy
        cases hfind : address_layout.find clients source_ip with
        | none => exact Slots.Layout.find_eq_none_iff.mp hfind
        | some i =>
            rw [hfind] at hcopy
            cases hcopy
      cases hresolve : resolve_client_mac_by_ipv4 arp source_ip with
      | error err => exact .inl rfl
      | ok mac =>
          refine .inr ⟨hip, hnone, mac, rfl, ?_⟩
          dsimp only
          split
          · rename_i heq
            rw [heq]
          · rename_i heq
            rw [heq]

end Operations

/-! ## Uniqueness of MACs -/

/-- No call makes two entries of one MAC. -/
theorem unique_step {state : client_access_t} (hu : client_layout.Unique state.s_clients)
    (now : UInt32) (call : client_call) :
    client_layout.Unique (call.step configTICK_RATE_HZ now state).1.s_clients := by
  cases call with
  | track_connected_client mac => exact (track_connected_client_spec hu mac).1
  | remove_disconnect_client mac => exact (remove_disconnect_client_spec hu mac).1
  | track_client_ip mac ip => exact (track_client_ip_spec hu mac ip).1
  | client_access_set_state mac access => exact (client_access_set_state_spec hu mac access).1
  | client_access_get_snapshot_by_ipv4 arp source_ip =>
      obtain h | ⟨-, -, mac, -, h⟩ :=
        client_access_get_snapshot_by_ipv4_clients arp state.s_clients source_ip
      · simpa only [client_call.step, h] using hu
      · simpa only [client_call.step, h] using (track_client_ip_spec hu mac source_ip).1
  | client_access_can_forward_ipv4 source_ip =>
      exact (client_access_can_forward_ipv4_spec hu now source_ip).1
  | client_access_authorize mac_text session_id ttl_seconds =>
      exact (client_access_authorize_spec _ hu now mac_text session_id ttl_seconds).1
  | client_access_revoke_authorization mac_text session_id =>
      exact (client_access_revoke_authorization_spec hu mac_text session_id).1
  | client_access_expire_check sampled => exact (client_access_expire_check_spec hu sampled).1

/-- Nobody is connected at the start. -/
theorem init_absent (ESP_WIFI_MAX_CONN_NUM : ℕ) {i : ℕ} {entry : client_access_entry_t}
    (hi : (client_access_init ESP_WIFI_MAX_CONN_NUM).s_clients[i]? = some entry) :
    entry.in_use = false := by
  obtain rfl := List.eq_of_mem_replicate (List.mem_of_getElem? hi)
  rfl

theorem unique_init (ESP_WIFI_MAX_CONN_NUM : ℕ) :
    client_layout.Unique (client_access_init ESP_WIFI_MAX_CONN_NUM).s_clients := by
  intro i entry hi hlive
  have habsent : client_layout.live entry = false := init_absent _ hi
  rw [habsent] at hlive
  cases hlive

end WifiManager.ClientAccess
