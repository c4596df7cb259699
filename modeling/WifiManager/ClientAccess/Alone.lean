/-
One client by itself.

`client_machine` is what the calls do to one client, with no table in it: the calls about the
client and those over all clients change its entry and answer, all others pass it by. The table
runs this machine for each of its clients (`step_client`), as long as the client finds a slot
when it connects and shares its addresses with nobody. Slots do not occur in this: the entry is
the one that a search for the MAC finds.
-/
import WifiManager.ClientAccess.Integrity

set_option autoImplicit false

namespace WifiManager.ClientAccess

open WifiManager.Lib

open client_access_state_t

/-! ## Addresses -/

/-- The client that a call gives an address, and the address. -/
def table_call.gives : table_call → Option (mac_t × UInt32)
  | .call (.track_client_ip mac ip) => some (mac, ip)
  | .call (.client_access_get_snapshot_by_ipv4 arp source_ip) =>
      (resolve_client_mac_by_ipv4 arp source_ip).toOption.map (·, source_ip)
  | _ => none

/-- The addresses that are given to clients in a run. -/
def given (events : List table_event) : List (mac_t × UInt32) :=
  events.filterMap fun e => e.call.gives

/-- No other client is ever given an address of the client. -/
def Apart (given : List (mac_t × UInt32)) (mac : mac_t) : Prop :=
  ∀ k ip, k ≠ mac → (k, ip) ∈ given → (mac, ip) ∈ given → ip = 0

/-! ## The machine -/

/-- An operation on the client. A packet is one on the client that is given its address. -/
def table_call.concerns (given : List (mac_t × UInt32)) (mac : mac_t) : table_call → Bool
  | .call (.client_access_can_forward_ipv4 source_ip) =>
      decide (source_ip ≠ 0 ∧ (mac, source_ip) ∈ given)
  | .call (.client_access_get_snapshot_by_ipv4 arp source_ip) =>
      decide ((resolve_client_mac_by_ipv4 arp source_ip).toOption = some mac)
  | .call c => decide (c.client = some mac)
  | _ => false

/-- An operation on all clients. -/
def table_call.common : table_call → Bool
  | .call (.client_access_expire_check _) => true
  | .client_access_update_rssi_all _ => true
  | .client_access_copy_snapshots _ => true
  | _ => false

variable (configTICK_RATE_HZ : UInt32)

/-- The error code of a call that needs the client to be there. -/
def found (entry : Option client_access_entry_t) : esp_err_t :=
  if entry.isSome = true then .ESP_OK else .ESP_ERR_NOT_FOUND

/-- What a call about the client does to its entry, and returns. -/
def client_effect (now : UInt32) (mac : mac_t) (entry : Option client_access_entry_t) :
    table_call → Option client_access_entry_t × client_reply
  | .call (.track_connected_client _) => (some (.connected mac), {})
  | .call (.remove_disconnect_client _) => (none, {})
  | .call (.track_client_ip _ ip) =>
      (entry.map fun entry => { entry with ip := ip }, { err := found entry })
  | .call (.client_access_set_state _ access) =>
      if access = UNKNOWN then (entry, { err := .ESP_ERR_INVALID_ARG })
      else (entry.map fun entry => { entry with state := access }, { err := found entry })
  | .call (.client_access_get_snapshot_by_ipv4 _ source_ip) =>
      (entry.map fun entry => { entry with ip := source_ip }, {})
  | .call (.client_access_can_forward_ipv4 source_ip) =>
      match entry with
      | some entry =>
          if entry.ip = source_ip then
            (some (entry.can_forward now).1, { can_forward := (entry.can_forward now).2 })
          else (some entry, {})
      | none => (none, {})
  | .call (.client_access_authorize _ session_id ttl_seconds) =>
      (entry.map (.authorized configTICK_RATE_HZ now session_id ttl_seconds),
        { err := found entry })
  | .call (.client_access_revoke_authorization _ session_id) =>
      match entry with
      | some entry =>
          if entry.state = AUTHORIZED ∧ entry.session_id = session_id then
            (some entry.unauthorized, {})
          else (some entry, { err := .ESP_ERR_INVALID_STATE })
      | none => (none, { err := .ESP_ERR_NOT_FOUND })
  | .call (.client_access_expire_check sampled) => (entry.map (.expire sampled), {})
  | .client_access_update_rssi_all (.ok stations) =>
      (entry.map fun entry => { entry with rssi := heard stations mac 0 }, {})
  | _ => (entry, {})

/-- **One client.** -/
def client_machine (given : List (mac_t × UInt32)) (mac : mac_t)
    (entry : Option client_access_entry_t) (e : table_event) :
    Option client_access_entry_t × Option client_reply :=
  if e.call.concerns given mac = true then
    let (entry, reply) := client_effect configTICK_RATE_HZ e.now mac entry e.call
    (entry, some reply)
  else if e.call.common = true then
    ((client_effect configTICK_RATE_HZ e.now mac entry e.call).1, none)
  else (entry, none)

/-- The table, and what it answers to the operations on the client. -/
def observed_step (given : List (mac_t × UInt32)) (mac : mac_t) (state : client_access_t)
    (e : table_event) : client_access_t × Option client_reply :=
  ((e.step configTICK_RATE_HZ state).1,
    if e.call.concerns given mac = true then
      some (e.step configTICK_RATE_HZ state).2.toclient_reply
    else none)

/-! ## What a call can do to a seat -/

section Seats

variable {configTICK_RATE_HZ} {clients : client_table}

theorem address_lookup_of_seat {mac : mac_t} {entry : client_access_entry_t}
    (h : client_layout.lookup clients mac = some entry) :
    address_layout.lookup clients entry.ip ≠ none := by
  intro hnone
  rw [Slots.Layout.lookup, List.find?_eq_none] at hnone
  have hlive := (Slots.Layout.lookup_holds h).1
  exact hnone entry (List.mem_of_find?_eq_some h) (Slots.Layout.holds_iff.mpr ⟨hlive, rfl⟩)

/-- The table behind a snapshot: an address that nobody has goes to the client that the ARP
table names. -/
theorem get_snapshot_clients (arp : softap_arp_t) (clients : client_table) (source_ip : UInt32) :
    (client_access_get_snapshot_by_ipv4 arp clients source_ip).1
      = match (resolve_client_mac_by_ipv4 arp source_ip).toOption with
        | some mac =>
            if address_layout.lookup clients source_ip = none then
              (track_client_ip clients mac source_ip).1
            else clients
        | none => clients := by
  unfold client_access_get_snapshot_by_ipv4 copy_client_snapshot_by_ipv4
  by_cases hip : source_ip = 0
  · rw [if_pos hip, resolve_client_mac_by_ipv4, if_pos hip]
    rfl
  rw [if_neg hip]
  cases hfind : address_layout.find clients source_ip with
  | some i =>
      have hused : address_layout.lookup clients source_ip ≠ none := by
        rw [ne_eq, ← Slots.Layout.find_eq_none_iff, hfind]
        exact Option.some_ne_none i
      cases (resolve_client_mac_by_ipv4 arp source_ip).toOption with
      | none => rfl
      | some mac => exact (if_neg hused).symm
  | none =>
      cases resolve_client_mac_by_ipv4 arp source_ip with
      | error err => rfl
      | ok mac =>
          simp only [Except.toOption]
          rw [if_pos (Slots.Layout.find_eq_none_iff.mp hfind)]
          -- the error of the recovery only decides what is returned
          split
          all_goals
            rename_i heq
            rw [heq]

/-- Where an entry in use comes from: a connection, or an entry of the same client that has the
address already or is given it. -/
def Origin (clients : client_table) (call : table_call) (k : mac_t)
    (entry : client_access_entry_t) : Prop :=
  (call = .call (.track_connected_client k) ∧ entry.ip = 0) ∨
    ∃ before, client_layout.lookup clients k = some before ∧
      (entry.ip = before.ip ∨ call.gives = some (k, entry.ip))

/-- A call that changes neither seats nor addresses of the client. -/
theorem origin_of_map {call : table_call} {k : mac_t} {entry : client_access_entry_t}
    (f : client_access_entry_t → client_access_entry_t) (hf : ∀ entry, (f entry).ip = entry.ip)
    (h : (client_layout.lookup clients k).map f = some entry) : Origin clients call k entry := by
  obtain ⟨before, hbefore, rfl⟩ := Option.map_eq_some_iff.mp h
  exact .inr ⟨before, hbefore, .inl (hf before)⟩

theorem origin_of_same {call : table_call} {k : mac_t} {entry : client_access_entry_t}
    (h : client_layout.lookup clients k = some entry) : Origin clients call k entry :=
  .inr ⟨entry, h, .inl rfl⟩

theorem origin_track_client_ip (hu : client_layout.Unique clients) {call : table_call}
    {mac k : mac_t} {ip : UInt32} (hgives : call.gives = some (mac, ip))
    {entry : client_access_entry_t}
    (h : client_layout.lookup (track_client_ip clients mac ip).1 k = some entry) :
    Origin clients call k entry := by
  rw [(track_client_ip_spec hu mac ip).2 k] at h
  by_cases hk : k = mac
  · rw [if_pos hk] at h
    obtain ⟨before, hbefore, rfl⟩ := Option.map_eq_some_iff.mp h
    exact .inr ⟨before, hbefore, .inr (hk ▸ hgives)⟩
  · rw [if_neg hk] at h
    exact origin_of_same h

/-- The calls of `Runs`. -/
theorem client_call_origin {state : client_access_t} (hu : client_layout.Unique state.s_clients)
    (now : UInt32) (call : client_call) {k : mac_t} {entry : client_access_entry_t}
    (h : client_layout.lookup (call.step configTICK_RATE_HZ now state).1.s_clients k = some entry) :
    Origin state.s_clients (.call call) k entry := by
  cases call with
  | track_connected_client mac =>
      obtain ⟨-, ⟨-, hlookup⟩ | ⟨-, hsame, -⟩⟩ := track_connected_client_spec hu mac
      · have h' := (hlookup k).symm.trans h
        by_cases hk : k = mac
        · -- a fresh entry has no address
          rw [if_pos hk] at h'
          exact .inl ⟨by rw [hk], by rw [← Option.some.inj h']; rfl⟩
        · rw [if_neg hk] at h'
          exact origin_of_same h'
      · exact origin_of_same ((congrArg (client_layout.lookup · k) hsame).symm.trans h)
  | remove_disconnect_client mac =>
      have h' := ((remove_disconnect_client_spec hu mac).2 k).symm.trans h
      split_ifs at h'
      exact origin_of_same h'
  | track_client_ip mac ip => exact origin_track_client_ip hu rfl h
  | client_access_set_state mac access =>
      have h' := ((client_access_set_state_spec hu mac access).2 k).symm.trans h
      split_ifs at h'
      · exact origin_of_map (fun before => { before with state := access }) (fun _ => rfl) h'
      · exact origin_of_same h'
  -- the one call besides `track_client_ip` that gives an address
  | client_access_get_snapshot_by_ipv4 arp source_ip =>
      have h' : client_layout.lookup
          (client_access_get_snapshot_by_ipv4 arp state.s_clients source_ip).1 k
            = some entry := h
      rw [get_snapshot_clients] at h'
      cases hresolve : (resolve_client_mac_by_ipv4 arp source_ip).toOption with
      | none =>
          rw [hresolve] at h'
          exact origin_of_same h'
      | some mac =>
          rw [hresolve] at h'
          dsimp only at h'
          split_ifs at h'
          · refine origin_track_client_ip hu ?_ h'
            rw [table_call.gives, hresolve]
            rfl
          · exact origin_of_same h'
  | client_access_can_forward_ipv4 source_ip =>
      obtain ⟨-, hspec⟩ := client_access_can_forward_ipv4_spec hu now source_ip
      cases hholder : holder state.s_clients source_ip with
      | none =>
          rw [hholder] at hspec
          exact origin_of_same ((congrArg (client_layout.lookup ·.1 k) hspec).symm.trans h)
      | some held =>
          rw [hholder] at hspec
          obtain ⟨hheld, -, hlookup⟩ := hspec
          have h' := (hlookup k).symm.trans h
          by_cases hk : k = held.mac
          · rw [if_pos hk] at h'
            refine .inr ⟨held, hk ▸ hheld, .inl ?_⟩
            rw [← Option.some.inj h']
            exact congrArg seat_t.ip (held.can_forward_seat now)
          · rw [if_neg hk] at h'
            exact origin_of_same h'
  | client_access_authorize mac_text session_id ttl_seconds =>
      obtain ⟨-, -, hlookup⟩ := client_access_authorize_spec configTICK_RATE_HZ hu now
        mac_text session_id ttl_seconds
      have h' := (hlookup k).symm.trans h
      split_ifs at h'
      · exact origin_of_map (.authorized configTICK_RATE_HZ now session_id ttl_seconds)
          (fun _ => rfl) h'
      · exact origin_of_same h'
  | client_access_revoke_authorization mac_text session_id =>
      obtain ⟨-, -, hlookup⟩ :=
        client_access_revoke_authorization_spec hu mac_text session_id
      have h' := (hlookup k).symm.trans h
      split_ifs at h'
      · exact origin_of_map .unauthorized (fun _ => rfl) h'
      · exact origin_of_same h'
  | client_access_expire_check sampled =>
      refine origin_of_map (.expire sampled) ?_
        (((client_access_expire_check_spec hu sampled).2 k).symm.trans h)
      exact fun entry => congrArg seat_t.ip (entry.expire_seat sampled)

/-- **Where entries come from.** -/
theorem table_step_origin {state : client_access_t} (hu : client_layout.Unique state.s_clients)
    (e : table_event) {k : mac_t} {entry : client_access_entry_t}
    (h : client_layout.lookup (e.step configTICK_RATE_HZ state).1.s_clients k = some entry) :
    Origin state.s_clients e.call k entry := by
  obtain ⟨now, call⟩ := e
  cases call with
  | null_argument => exact origin_of_same h
  | client_access_copy_snapshots capacity =>
      rw [copy_snapshots_state] at h
      exact origin_of_same h
  | client_access_update_rssi_all station_list =>
      cases station_list with
      | error err => exact origin_of_same h
      | ok stations =>
          exact origin_of_map (fun before => { before with rssi := heard stations k 0 })
            (fun _ => rfl) (((client_access_update_rssi_all_spec hu stations).2 k).symm.trans h)
  | call call => exact client_call_origin hu now call h

end Seats

/-! ## What calls return -/

section Replies

variable {configTICK_RATE_HZ} {clients : client_table}

theorem found_of_find {mac : mac_t} {i : ℕ}
    (hfind : find_client_index_locked clients mac = some i) :
    found (client_layout.lookup clients mac) = .ESP_OK := by
  obtain ⟨entry, -, -, hlookup⟩ := Slots.Layout.find_spec hfind
  rw [hlookup]
  rfl

theorem found_of_absent {mac : mac_t} (hfind : find_client_index_locked clients mac = none) :
    found (client_layout.lookup clients mac) = .ESP_ERR_NOT_FOUND := by
  rw [Slots.Layout.find_eq_none_iff.mp hfind]
  rfl

theorem track_client_ip_found (mac : mac_t) (ip : UInt32) :
    (track_client_ip clients mac ip).2 = found (client_layout.lookup clients mac) := by
  unfold track_client_ip
  cases hfind : find_client_index_locked clients mac with
  | none => exact (found_of_absent hfind).symm
  | some i => exact (found_of_find hfind).symm

theorem client_access_set_state_found (mac : mac_t) (access : client_access_state_t) :
    (client_access_set_state clients mac access).2
      = if access = UNKNOWN then .ESP_ERR_INVALID_ARG
        else found (client_layout.lookup clients mac) := by
  unfold client_access_set_state
  by_cases hunknown : access = UNKNOWN
  · rw [if_pos hunknown, hunknown]
    rfl
  have hadmitted : ¬(access ≠ UNAUTHORIZED ∧ access ≠ AUTHORIZED ∧ access ≠ BLOCKED) := by
    cases access <;> simp at hunknown ⊢
  rw [if_neg hunknown, if_neg hadmitted]
  cases hfind : find_client_index_locked clients mac with
  | none => exact (found_of_absent hfind).symm
  | some i => exact (found_of_find hfind).symm

theorem named_client_some {mac_text : Option c_string} {session_id : ℤ} {mac : mac_t}
    (h : named_client mac_text session_id = some mac) :
    ¬session_id ≤ 0 ∧ parse_mac_address mac_text = .ok mac := by
  unfold named_client at h
  split_ifs at h with hsession
  refine ⟨hsession, ?_⟩
  cases hparse : parse_mac_address mac_text with
  | error err =>
      rw [hparse] at h
      cases h
  | ok mac' =>
      rw [hparse] at h
      rw [Option.some.inj h]

theorem client_access_authorize_found {now : UInt32} {mac_text : Option c_string} {session_id : ℤ}
    {ttl_seconds : UInt32} {mac : mac_t} (h : named_client mac_text session_id = some mac) :
    (client_access_authorize configTICK_RATE_HZ now clients mac_text session_id ttl_seconds).2
      = found (client_layout.lookup clients mac) := by
  obtain ⟨hsession, hparse⟩ := named_client_some h
  rw [client_access_authorize, if_neg hsession, hparse]
  dsimp only
  cases hfind : find_client_index_locked clients mac with
  | none => exact (found_of_absent hfind).symm
  | some i => exact (found_of_find hfind).symm

theorem client_access_revoke_authorization_found {mac_text : Option c_string} {session_id : ℤ}
    {mac : mac_t} (h : named_client mac_text session_id = some mac) :
    (client_access_revoke_authorization clients mac_text session_id).2
      = match client_layout.lookup clients mac with
        | some entry =>
            if entry.state = AUTHORIZED ∧ entry.session_id = session_id then .ESP_OK
            else .ESP_ERR_INVALID_STATE
        | none => .ESP_ERR_NOT_FOUND := by
  obtain ⟨hsession, hparse⟩ := named_client_some h
  rw [client_access_revoke_authorization, if_neg hsession, hparse]
  dsimp only
  cases hfind : find_client_index_locked clients mac with
  | none =>
      rw [Slots.Layout.find_eq_none_iff.mp hfind]
  | some i =>
      obtain ⟨entry, hi, -, hlookup⟩ := Slots.Layout.find_spec hfind
      have hentry : clients.getD i {} = entry := by
        rw [List.getD_eq_getElem?_getD, hi, Option.getD_some]
      simp only [hlookup, hentry]
      split_ifs <;> rfl

end Replies

/-! ## One call -/

/-- A table in which everyone has only addresses that were given to them. -/
structure Owned (given : List (mac_t × UInt32)) (clients : client_table) : Prop where
  unique : client_layout.Unique clients
  address : ∀ k entry, client_layout.lookup clients k = some entry → entry.ip ≠ 0 →
    (k, entry.ip) ∈ given

/-- A connection of the client finds a slot. -/
def Room (mac : mac_t) (state : client_access_t) (e : table_event) : Prop :=
  e.call = .call (.track_connected_client mac) →
    ((find_client_index_locked state.s_clients mac).or
      (client_layout.free state.s_clients)).isSome = true

section OneCall

variable {configTICK_RATE_HZ} {given : List (mac_t × UInt32)} {mac : mac_t}

theorem Owned.step {state : client_access_t} (h : Owned given state.s_clients) (e : table_event)
    (hgives : ∀ pair, e.call.gives = some pair → pair ∈ given) :
    Owned given (e.step configTICK_RATE_HZ state).1.s_clients where
  unique := unique_table_step h.unique e
  address := by
    intro k entry hlookup hip
    obtain ⟨-, hzero⟩ | ⟨before, hbefore, hsame | hgiven⟩ := table_step_origin h.unique e hlookup
    · exact absurd hzero hip
    · rw [hsame] at hip ⊢
      exact h.address k before hbefore hip
    · exact hgives _ hgiven

/-- Who has an address is the client that has been given it. -/
theorem Owned.holder {clients : client_table} (h : Owned given clients) {ip : UInt32}
    (hip : ip ≠ 0) {held : client_access_entry_t}
    (hheld : address_layout.lookup clients ip = some held) :
    held.ip = ip ∧ client_layout.lookup clients held.mac = some held ∧ (held.mac, ip) ∈ given := by
  obtain ⟨hlive, hkey⟩ := Slots.Layout.lookup_holds hheld
  have hsame : held.ip = ip := hkey
  obtain ⟨i, hi⟩ := List.mem_iff_getElem?.mp (List.mem_of_find?_eq_some hheld)
  have hlookup := Slots.Layout.lookup_of_live h.unique hi hlive
  refine ⟨hsame, hlookup, ?_⟩
  rw [← hsame] at hip ⊢
  exact h.address held.mac held hlookup hip

theorem Owned.holder_mac {clients : client_table} (h : Owned given clients)
    (hapart : Apart given mac) {ip : UInt32} (hip : ip ≠ 0) (hgiven : (mac, ip) ∈ given)
    {held : client_access_entry_t} (hheld : address_layout.lookup clients ip = some held) :
    held.ip = ip ∧ client_layout.lookup clients mac = some held := by
  obtain ⟨hsame, hlookup, hother⟩ := h.holder hip hheld
  have hmac : held.mac = mac := by
    by_contra hne
    exact hip (hapart held.mac ip hne hother hgiven)
  exact ⟨hsame, hmac ▸ hlookup⟩

/-- A snapshot that the ARP table gives to the client: nobody else has the address. -/
theorem concerned_snapshot {clients : client_table} (h : Owned given clients)
    (hapart : Apart given mac) {arp : softap_arp_t} {source_ip : UInt32}
    (hresolve : (resolve_client_mac_by_ipv4 arp source_ip).toOption = some mac)
    (hgiven : (mac, source_ip) ∈ given) :
    client_layout.lookup (client_access_get_snapshot_by_ipv4 arp clients source_ip).1 mac
      = (client_layout.lookup clients mac).map fun entry => { entry with ip := source_ip } := by
  have hip : source_ip ≠ 0 := by
    rintro rfl
    rw [resolve_client_mac_by_ipv4, if_pos rfl] at hresolve
    cases hresolve
  rw [get_snapshot_clients, hresolve]
  dsimp only
  cases hheld : address_layout.lookup clients source_ip with
  | none =>
      rw [if_pos rfl, (track_client_ip_spec h.unique mac source_ip).2 mac, if_pos rfl]
  | some held =>
      obtain ⟨hsame, hlookup⟩ := h.holder_mac hapart hip hgiven hheld
      rw [if_neg (Option.some_ne_none held), hlookup, Option.map_some, ← hsame]

/-- A packet from an address of the client. -/
theorem concerned_packet {clients : client_table} (h : Owned given clients)
    (hapart : Apart given mac) (now : UInt32) {source_ip : UInt32} (hip : source_ip ≠ 0)
    (hgiven : (mac, source_ip) ∈ given) :
    let result := client_access_can_forward_ipv4 clients now source_ip
    (client_layout.lookup result.1 mac, { can_forward := result.2 })
      = client_effect configTICK_RATE_HZ now mac (client_layout.lookup clients mac)
          (.call (.client_access_can_forward_ipv4 source_ip)) := by
  obtain ⟨-, hspec⟩ := client_access_can_forward_ipv4_spec h.unique now source_ip
  dsimp only at hspec ⊢
  rw [holder, if_neg hip] at hspec
  cases hheld : address_layout.lookup clients source_ip with
  | none =>
      rw [hheld] at hspec
      dsimp only at hspec
      rw [hspec]
      cases hlookup : client_layout.lookup clients mac with
      | none => rfl
      | some entry =>
          have hother : entry.ip ≠ source_ip := by
            rintro rfl
            exact address_lookup_of_seat hlookup hheld
          exact (if_neg hother).symm
  | some held =>
      obtain ⟨hsame, hlookup⟩ := h.holder_mac hapart hip hgiven hheld
      rw [hheld] at hspec
      obtain ⟨hown, hanswer, hafter⟩ := hspec
      have hmac : mac = held.mac := (Slots.Layout.lookup_holds hlookup).2.symm
      rw [hafter mac, if_pos hmac, hanswer, hlookup]
      exact (if_pos hsame).symm

/-- A revocation of the client's session, or of another one. -/
theorem concerned_revocation {clients : client_table} (hu : client_layout.Unique clients)
    (now : UInt32) {mac_text : Option c_string} {session_id : ℤ}
    (hnamed : named_client mac_text session_id = some mac) :
    let result := client_access_revoke_authorization clients mac_text session_id
    (client_layout.lookup result.1 mac, { err := result.2 })
      = client_effect configTICK_RATE_HZ now mac (client_layout.lookup clients mac)
          (.call (.client_access_revoke_authorization mac_text session_id)) := by
  obtain ⟨-, -, hlookup⟩ := client_access_revoke_authorization_spec hu mac_text session_id
  have herr : (client_access_revoke_authorization clients mac_text session_id).2 = _ :=
    client_access_revoke_authorization_found hnamed
  dsimp only at hlookup ⊢
  rw [hlookup mac, herr]
  cases client_layout.lookup clients mac with
  | none => rfl
  | some entry =>
      by_cases hcurrent : entry.state = AUTHORIZED ∧ entry.session_id = session_id
      · simp only [if_pos hcurrent, hnamed, client_effect]
        rfl
      · simp only [if_neg hcurrent, client_effect]
        rfl

/-- **A call about the client** does what it does in a table of its own. -/
theorem concerned_step {state : client_access_t} (h : Owned given state.s_clients)
    (hapart : Apart given mac) {e : table_event}
    (hgives : ∀ pair, e.call.gives = some pair → pair ∈ given) (hroom : Room mac state e)
    (hconcerns : e.call.concerns given mac = true) :
    (client_layout.lookup (e.step configTICK_RATE_HZ state).1.s_clients mac,
        (e.step configTICK_RATE_HZ state).2.toclient_reply)
      = client_effect configTICK_RATE_HZ e.now mac (client_layout.lookup state.s_clients mac)
          e.call := by
  obtain ⟨now, call⟩ := e
  have hu := h.unique
  cases call with
  | null_argument => cases hconcerns
  | client_access_copy_snapshots capacity => cases hconcerns
  | client_access_update_rssi_all station_list => cases hconcerns
  | call call =>
      cases call with
      | track_connected_client mac' =>
          obtain rfl := Option.some.inj (of_decide_eq_true hconcerns)
          obtain ⟨i, hslot⟩ := Option.isSome_iff_exists.mp (hroom rfl)
          have herr : (track_connected_client state.s_clients mac').2 = .ESP_OK := by
            rw [track_connected_client, hslot]
          obtain ⟨-, ⟨-, hlookup⟩ | ⟨hfull, -⟩⟩ := track_connected_client_spec hu mac'
          · exact Prod.ext ((hlookup mac').trans (if_pos rfl)) (congrArg (client_reply.mk · _) herr)
          · rw [herr] at hfull
            cases hfull
      | remove_disconnect_client mac' =>
          obtain rfl := Option.some.inj (of_decide_eq_true hconcerns)
          exact Prod.ext (((remove_disconnect_client_spec hu mac').2 mac').trans (if_pos rfl)) rfl
      | track_client_ip mac' ip =>
          obtain rfl := Option.some.inj (of_decide_eq_true hconcerns)
          exact Prod.ext (((track_client_ip_spec hu mac' ip).2 mac').trans (if_pos rfl))
            (congrArg (client_reply.mk · _) (track_client_ip_found mac' ip))
      | client_access_set_state mac' access =>
          obtain rfl := Option.some.inj (of_decide_eq_true hconcerns)
          have hlookup := (client_access_set_state_spec hu mac' access).2 mac'
          have herr : (client_access_set_state state.s_clients mac' access).2 = _ :=
            client_access_set_state_found mac' access
          by_cases hunknown : access = UNKNOWN
          · rw [if_neg fun hc => hc.2 hunknown] at hlookup
            rw [if_pos hunknown] at herr
            rw [client_effect, if_pos hunknown]
            exact Prod.ext hlookup (congrArg (client_reply.mk · _) herr)
          · rw [if_pos ⟨rfl, hunknown⟩] at hlookup
            rw [if_neg hunknown] at herr
            rw [client_effect, if_neg hunknown]
            exact Prod.ext hlookup (congrArg (client_reply.mk · _) herr)
      | client_access_get_snapshot_by_ipv4 arp source_ip =>
          have hresolve := of_decide_eq_true hconcerns
          have hgiven : (mac, source_ip) ∈ given := by
            refine hgives _ ?_
            rw [table_call.gives, hresolve]
            rfl
          exact Prod.ext (concerned_snapshot h hapart hresolve hgiven) rfl
      | client_access_can_forward_ipv4 source_ip =>
          obtain ⟨hip, hgiven⟩ := of_decide_eq_true hconcerns
          exact concerned_packet h hapart now hip hgiven
      | client_access_authorize mac_text session_id ttl_seconds =>
          have hnamed := of_decide_eq_true hconcerns
          obtain ⟨-, -, hlookup⟩ := client_access_authorize_spec configTICK_RATE_HZ hu now
            mac_text session_id ttl_seconds
          exact Prod.ext ((hlookup mac).trans (if_pos hnamed.symm))
            (congrArg (client_reply.mk · _) (client_access_authorize_found hnamed))
      | client_access_revoke_authorization mac_text session_id =>
          exact concerned_revocation hu now (of_decide_eq_true hconcerns)
      | client_access_expire_check sampled =>
          have hnone : none = some mac := of_decide_eq_true hconcerns
          cases hnone

/-- **A call over all clients** treats the client by itself. -/
theorem common_step {state : client_access_t} (hu : client_layout.Unique state.s_clients)
    {e : table_event} (hcommon : e.call.common = true) :
    client_layout.lookup (e.step configTICK_RATE_HZ state).1.s_clients mac
      = (client_effect configTICK_RATE_HZ e.now mac (client_layout.lookup state.s_clients mac)
          e.call).1 := by
  obtain ⟨now, call⟩ := e
  cases call with
  | null_argument => cases hcommon
  | client_access_copy_snapshots capacity =>
      rw [copy_snapshots_state]
      rfl
  | client_access_update_rssi_all station_list =>
      cases station_list with
      | error err => rfl
      | ok stations => exact (client_access_update_rssi_all_spec hu stations).2 mac
  | call call =>
      cases call with
      | client_access_expire_check sampled =>
          exact (client_access_expire_check_spec hu sampled).2 mac
      | _ => cases hcommon

/-- **Every other call** passes the client by. -/
theorem passing_step {state : client_access_t} (h : Owned given state.s_clients)
    {e : table_event} (hconcerns : e.call.concerns given mac = false)
    (hcommon : e.call.common = false) :
    client_layout.lookup (e.step configTICK_RATE_HZ state).1.s_clients mac
      = client_layout.lookup state.s_clients mac := by
  obtain ⟨now, call⟩ := e
  have hu := h.unique
  cases call with
  | null_argument => rfl
  | client_access_copy_snapshots capacity => cases hcommon
  | client_access_update_rssi_all station_list => cases hcommon
  | call call =>
      have hother : ∀ k, call.client = some k → call.client ≠ some mac →
          client_layout.lookup (call.step configTICK_RATE_HZ now state).1.s_clients mac
            = client_layout.lookup state.s_clients mac := by
        intro k hclient hne
        refine client_call_others hu hclient ?_
        rintro rfl
        exact hne hclient
      cases call with
      | track_connected_client mac' =>
          exact hother mac' rfl (of_decide_eq_false hconcerns)
      | remove_disconnect_client mac' =>
          exact hother mac' rfl (of_decide_eq_false hconcerns)
      | track_client_ip mac' ip =>
          exact hother mac' rfl (of_decide_eq_false hconcerns)
      | client_access_set_state mac' access =>
          exact hother mac' rfl (of_decide_eq_false hconcerns)
      | client_access_get_snapshot_by_ipv4 arp source_ip =>
          have hresolve := of_decide_eq_false hconcerns
          have hclients := get_snapshot_clients arp state.s_clients source_ip
          refine (congrArg (client_layout.lookup · mac) hclients).trans ?_
          cases hmac : (resolve_client_mac_by_ipv4 arp source_ip).toOption with
          | none => rfl
          | some mac' =>
              have hne : mac ≠ mac' := fun hsame => hresolve (hsame ▸ hmac)
              dsimp only
              split_ifs
              · rw [(track_client_ip_spec hu mac' source_ip).2 mac, if_neg hne]
              · rfl
      | client_access_can_forward_ipv4 source_ip =>
          have hforeign := of_decide_eq_false hconcerns
          obtain ⟨-, hspec⟩ := client_access_can_forward_ipv4_spec hu now source_ip
          cases hholder : holder state.s_clients source_ip with
          | none =>
              rw [hholder] at hspec
              exact congrArg (client_layout.lookup ·.1 mac) hspec
          | some held =>
              -- the packet of another client, or of nobody
              rw [hholder] at hspec
              obtain ⟨-, -, hafter⟩ := hspec
              rw [holder] at hholder
              split_ifs at hholder with hip
              obtain ⟨-, -, hgiven⟩ := h.holder hip hholder
              have hne : mac ≠ held.mac := fun hsame => hforeign ⟨hip, hsame ▸ hgiven⟩
              exact (hafter mac).trans (if_neg hne)
      | client_access_authorize mac_text session_id ttl_seconds =>
          have hnamed := of_decide_eq_false hconcerns
          obtain ⟨-, -, hlookup⟩ := client_access_authorize_spec configTICK_RATE_HZ hu now
            mac_text session_id ttl_seconds
          exact (hlookup mac).trans (if_neg fun hc => hnamed hc.symm)
      | client_access_revoke_authorization mac_text session_id =>
          have hnamed := of_decide_eq_false hconcerns
          obtain ⟨-, -, hlookup⟩ :=
            client_access_revoke_authorization_spec hu mac_text session_id
          exact (hlookup mac).trans (if_neg fun hc => hnamed hc.2.symm)
      | client_access_expire_check sampled => cases hcommon

/-- The table runs the machine of the client. -/
theorem step_client {state : client_access_t} (h : Owned given state.s_clients)
    (hapart : Apart given mac) {e : table_event}
    (hgives : ∀ pair, e.call.gives = some pair → pair ∈ given) (hroom : Room mac state e) :
    (observed_step configTICK_RATE_HZ given mac state e).2
        = (client_machine configTICK_RATE_HZ given mac
            (client_layout.lookup state.s_clients mac) e).2 ∧
      client_layout.lookup (observed_step configTICK_RATE_HZ given mac state e).1.s_clients mac
        = (client_machine configTICK_RATE_HZ given mac
            (client_layout.lookup state.s_clients mac) e).1 := by
  unfold observed_step client_machine
  by_cases hconcerns : e.call.concerns given mac = true
  · rw [if_pos hconcerns, if_pos hconcerns, ← concerned_step h hapart hgives hroom hconcerns]
    exact ⟨rfl, rfl⟩
  rw [if_neg hconcerns, if_neg hconcerns]
  by_cases hcommon : e.call.common = true
  · rw [if_pos hcommon]
    exact ⟨rfl, common_step h.unique hcommon⟩
  · rw [if_neg hcommon]
    exact ⟨rfl, passing_step h (Bool.not_eq_true _ ▸ hconcerns) (Bool.not_eq_true _ ▸ hcommon)⟩

end OneCall

end WifiManager.ClientAccess
