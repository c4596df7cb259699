/-
`components/client_access`: the table of SoftAP clients.

Every function works on the table inside one critical section; what the functions
log is left out. The two 64-bit tick fields of an entry are integers, and the two
subtractions the source makes with them are written with the conversions it makes:
`client_access_can_forward_ipv4` subtracts 32-bit values, `client_access_expire_check`
subtracts a 64-bit value and truncates the difference. Tick counts come in as the
value of `xTaskGetTickCount()`, and `configTICK_RATE_HZ` is a parameter.
-/
import Mathlib.Tactic.Linarith
import WifiManager.ClientAccess.Mac
import WifiManager.Lib.Slots

set_option autoImplicit false

namespace WifiManager.ClientAccess

open WifiManager.Lib

/-! ## Data -/

/-- `client_access_state_t`. -/
inductive client_access_state_t
  | UNKNOWN
  | UNAUTHORIZED
  | AUTHORIZED
  | BLOCKED
  deriving DecidableEq, Repr

open client_access_state_t

/-- `client_access_entry_t`; the default value is the entry all of whose bytes are
zero. -/
structure client_access_entry_t where
  in_use : Bool := false
  mac : mac_t := #v[0, 0, 0, 0, 0, 0]
  state : client_access_state_t := UNKNOWN
  session_id : ℤ := 0
  ip : UInt32 := 0
  authorized_at_ticks : ℤ := 0
  ttl_ticks : ℤ := 0
  rssi : ℤ := 0
  deriving DecidableEq, Repr

/-- `client_access_snapshot_t`. -/
structure client_access_snapshot_t where
  mac : mac_t
  ipv4 : UInt32
  state : client_access_state_t
  session_id : ℤ
  rssi : ℤ
  deriving DecidableEq, Repr

/-- `client_access_disconnect_event_t`. -/
structure client_access_disconnect_event_t where
  mac : mac_t
  state : client_access_state_t
  session_id : ℤ
  deriving DecidableEq, Repr

/-- `s_clients`. -/
abbrev client_table := List client_access_entry_t

/-- The module's state. The queue has as many places as the table has slots; `none` is
a queue that has not been created. -/
structure client_access_t where
  s_clients : client_table
  s_disconnect_queue : Option (List client_access_disconnect_event_t)
  deriving DecidableEq, Repr

/-- The state behind `client_access_start` on an access point without clients. -/
def client_access_init (ESP_WIFI_MAX_CONN_NUM : ℕ) : client_access_t where
  s_clients := List.replicate ESP_WIFI_MAX_CONN_NUM {}
  s_disconnect_queue := some []

/-- A client is found by its MAC. -/
def client_layout : Slots.Layout client_access_entry_t mac_t where
  live entry := entry.in_use
  key entry := entry.mac

/-- The filter and the portal find a client by its address. -/
def address_layout : Slots.Layout client_access_entry_t UInt32 where
  live entry := entry.in_use
  key entry := entry.ip

/-- `find_client_index_locked`. -/
def find_client_index_locked (clients : client_table) (mac : mac_t) : Option ℕ :=
  client_layout.find clients mac

/-- Assignments to the fields of one entry. -/
def update (clients : client_table) (i : ℕ)
    (f : client_access_entry_t → client_access_entry_t) : client_table :=
  clients.set i (f (clients.getD i {}))

/-! ## Connection and address -/

/-- The entry of a client that has just connected. -/
def client_access_entry_t.connected (mac : mac_t) : client_access_entry_t :=
  { in_use := true, mac := mac, state := UNAUTHORIZED }

/-- `track_connected_client`. -/
def track_connected_client (clients : client_table) (mac : mac_t) : client_table × esp_err_t :=
  -- a MAC that is still there keeps its slot, and nothing else of its entry
  match (find_client_index_locked clients mac).or (client_layout.free clients) with
  | some i => (clients.set i (.connected mac), .ESP_OK)
  | none => (clients, .ESP_ERR_NO_MEM)

/-- `track_client_ip`. -/
def track_client_ip (clients : client_table) (mac : mac_t) (ip : UInt32) :
    client_table × esp_err_t :=
  match find_client_index_locked clients mac with
  | some i => (update clients i fun entry => { entry with ip := ip }, .ESP_OK)
  | none => (clients, .ESP_ERR_NOT_FOUND)

/-- `xQueueSend` without waiting: the event is dropped if there is no queue or no
place. -/
def xQueueSend (state : client_access_t) (event : client_access_disconnect_event_t) :
    client_access_t :=
  match state.s_disconnect_queue with
  | some events =>
      if events.length < state.s_clients.length then
        { state with s_disconnect_queue := some (events ++ [event]) }
      else state
  | none => state

/-- `remove_disconnect_client`: the entry is copied, cleared and reported. -/
def remove_disconnect_client (state : client_access_t) (mac : mac_t) : client_access_t :=
  match find_client_index_locked state.s_clients mac with
  | some i =>
      let entry := state.s_clients.getD i {}
      xQueueSend { state with s_clients := state.s_clients.set i {} }
        -- what is reported is the copy, made in front of the `memset`
        ⟨entry.mac, entry.state, entry.session_id⟩
  | none => state

/-! ## Access state -/

/-- `client_access_set_state`. -/
def client_access_set_state (clients : client_table) (mac : mac_t)
    (state : client_access_state_t) : client_table × esp_err_t :=
  -- `UNKNOWN` is no state to be set
  if state ≠ UNAUTHORIZED ∧ state ≠ AUTHORIZED ∧ state ≠ BLOCKED then
    (clients, .ESP_ERR_INVALID_ARG)
  else
    match find_client_index_locked clients mac with
    | some i => (update clients i fun entry => { entry with state := state }, .ESP_OK)
    | none => (clients, .ESP_ERR_NOT_FOUND)

/-- `pdMS_TO_TICKS`, in 32-bit unsigned arithmetic. -/
def pdMS_TO_TICKS (configTICK_RATE_HZ ms : UInt32) : UInt32 := ms * configTICK_RATE_HZ / 1000

/-- The fields `client_access_authorize` writes. -/
def client_access_entry_t.authorized (configTICK_RATE_HZ now : UInt32) (session_id : ℤ)
    (ttl_seconds : UInt32) (entry : client_access_entry_t) : client_access_entry_t :=
  { entry with
    state := AUTHORIZED
    session_id := session_id
    authorized_at_ticks := now.toNat
    ttl_ticks := (pdMS_TO_TICKS configTICK_RATE_HZ (ttl_seconds * 1000)).toNat }

/-- `client_access_authorize` at the tick count `now`. -/
def client_access_authorize (configTICK_RATE_HZ now : UInt32) (clients : client_table)
    (mac_text : Option c_string) (session_id : ℤ) (ttl_seconds : UInt32) :
    client_table × esp_err_t :=
  if session_id ≤ 0 then (clients, .ESP_ERR_INVALID_ARG)
  else
    match parse_mac_address mac_text with
    | .error err => (clients, err)
    | .ok mac =>
        match find_client_index_locked clients mac with
        | some i =>
            (update clients i
              (.authorized configTICK_RATE_HZ now session_id ttl_seconds), .ESP_OK)
        | none => (clients, .ESP_ERR_NOT_FOUND)

/-- What the end of an authorization writes: `authorized_at_ticks` stays. -/
def client_access_entry_t.unauthorized (entry : client_access_entry_t) :
    client_access_entry_t :=
  { entry with state := UNAUTHORIZED, session_id := 0, ttl_ticks := 0 }

/-- `client_access_revoke_authorization`. -/
def client_access_revoke_authorization (clients : client_table) (mac_text : Option c_string)
    (session_id : ℤ) : client_table × esp_err_t :=
  if session_id ≤ 0 then (clients, .ESP_ERR_INVALID_ARG)
  else
    match parse_mac_address mac_text with
    | .error err => (clients, err)
    | .ok mac =>
        match find_client_index_locked clients mac with
        | none => (clients, .ESP_ERR_NOT_FOUND)
        | some i =>
            -- a late revocation must not end the authorization of another session
            if (clients.getD i {}).state = AUTHORIZED ∧
                (clients.getD i {}).session_id = session_id then
              (update clients i .unauthorized, .ESP_OK)
            else (clients, .ESP_ERR_INVALID_STATE)

/-- The body of the loop of `client_access_expire_check`: `elapsed` is the 64-bit
difference truncated to 32 bits. -/
def client_access_entry_t.expire (now : UInt32) (entry : client_access_entry_t) :
    client_access_entry_t :=
  if entry.in_use = false then entry
  else if entry.state ≠ AUTHORIZED then entry
  -- no time to live: authorized for good
  else if entry.ttl_ticks ≤ 0 then entry
  else
    -- negative, and then huge, where the sample is older than the authorization
    let elapsed := UInt32.ofInt ((now.toNat : ℤ) - entry.authorized_at_ticks)
    if (elapsed.toNat : ℤ) ≥ entry.ttl_ticks then entry.unauthorized else entry

/-- `client_access_expire_check`: the scan, with the tick count read in front of the
critical section. -/
def client_access_expire_check (clients : client_table) (now : UInt32) : client_table :=
  clients.map (.expire now)

/-- The branch of `client_access_can_forward_ipv4` for the entry found: the entry left
behind and the answer. -/
def client_access_entry_t.can_forward (now : UInt32) (entry : client_access_entry_t) :
    client_access_entry_t × Bool :=
  if entry.state = AUTHORIZED then
    if entry.ttl_ticks > 0 then
      -- unsigned 32-bit subtraction, so that it is right across the wrap of the tick count
      let elapsed := now - UInt32.ofInt entry.authorized_at_ticks
      if (elapsed.toNat : ℤ) ≥ entry.ttl_ticks then (entry.unauthorized, false)
      else (entry, true)
    else (entry, true)
  else (entry, false)

/-- `client_access_can_forward_ipv4` at the tick count `now`: the first entry in use
with the address decides. -/
def client_access_can_forward_ipv4 (clients : client_table) (now : UInt32) (source_ip : UInt32) :
    client_table × Bool :=
  if source_ip = 0 then (clients, false)
  else
    match address_layout.find clients source_ip with
    | some i =>
        let (entry, can_forward) := (clients.getD i {}).can_forward now
        (clients.set i entry, can_forward)
    | none => (clients, false)

/-! ## Snapshots -/

/-- What a snapshot copies from an entry. -/
def client_access_entry_t.snapshot (entry : client_access_entry_t) : client_access_snapshot_t :=
  ⟨entry.mac, entry.ip, entry.state, entry.session_id, entry.rssi⟩

/-- `copy_client_snapshot_by_ipv4`. -/
def copy_client_snapshot_by_ipv4 (clients : client_table) (source_ip : UInt32) :
    Except esp_err_t client_access_snapshot_t :=
  match address_layout.find clients source_ip with
  | some i => .ok (clients.getD i {}).snapshot
  | none => .error .ESP_ERR_NOT_FOUND

/-- What ESP-NETIF and lwIP answer about the SoftAP: whether the interface exists on
both levels, and what `esp_netif_tcpip_exec` returns for a search of its ARP table. -/
structure softap_arp_t where
  ap_netif : Bool
  netif_impl : Bool
  find_client_mac_in_arp_table : UInt32 → Except esp_err_t mac_t

/-- `resolve_client_mac_by_ipv4`. -/
def resolve_client_mac_by_ipv4 (arp : softap_arp_t) (source_ip : UInt32) :
    Except esp_err_t mac_t :=
  if source_ip = 0 then .error .ESP_ERR_INVALID_ARG
  else if arp.ap_netif = false then .error .ESP_ERR_INVALID_STATE
  else if arp.netif_impl = false then .error .ESP_ERR_INVALID_STATE
  else arp.find_client_mac_in_arp_table source_ip

/-- `client_access_get_snapshot_by_ipv4`: an address nobody holds is looked up in the
ARP table and given to the connected client that uses it. -/
def client_access_get_snapshot_by_ipv4 (arp : softap_arp_t) (clients : client_table)
    (source_ip : UInt32) : client_table × Except esp_err_t client_access_snapshot_t :=
  if source_ip = 0 then (clients, .error .ESP_ERR_INVALID_ARG)
  else
    match copy_client_snapshot_by_ipv4 clients source_ip with
    | .ok snapshot => (clients, .ok snapshot)
    | .error _ =>
        match resolve_client_mac_by_ipv4 arp source_ip with
        | .error err => (clients, .error err)
        | .ok recovered_mac =>
            -- the ARP table may name a MAC that has no entry
            match track_client_ip clients recovered_mac source_ip with
            | (clients, .ESP_OK) => (clients, copy_client_snapshot_by_ipv4 clients source_ip)
            | (clients, err) => (clients, .error err)

end WifiManager.ClientAccess
