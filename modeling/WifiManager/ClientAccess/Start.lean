/-
`client_access_start`, beside the stations and the event loop.

The SoftAP driver and the DHCP server act on their own and post what they do to the
event loop, which hands one event after the other to the registered handlers.
`client_access_start` registers the handlers, reads the stations and their leases, and
then writes the table, one call at a time; everything else may fall between two of its
steps. What a driver call of a step returns is an input of the step. The registration
itself succeeds; a failed start takes the handlers back.
-/
import WifiManager.ClientAccess.Disconnects

set_option autoImplicit false

namespace WifiManager.ClientAccess

open WifiManager.Lib

/-! ## The outside -/

/-- An event of the SoftAP for one of the handlers of this module. -/
inductive softap_event
  | link (event : wifi_ap_event)
  | IP_EVENT_ASSIGNED_IP_TO_CLIENT (mac : mac_t) (ip : UInt32)
  deriving DecidableEq, Repr

/-- The stations that are connected, the address that each has been assigned since it
connected (0 for none), and the leases of the DHCP server. -/
structure softap_t where
  stations : List mac_t
  assigned : mac_t → UInt32
  leases : mac_t → UInt32

/-- What can happen on the air: a lease outlives the connection and ends at some time. -/
inductive softap_action
  | connect (mac : mac_t)
  | disconnect (mac : mac_t)
  | assign (mac : mac_t) (ip : UInt32)
  | lease_end (mac : mac_t)

/-- An action and the event that it posts. Only connected stations leave or ask for an
address. -/
def softap_t.act (air : softap_t) : softap_action → softap_t × Option softap_event
  | .connect mac =>
      ({ air with
          stations := if mac ∈ air.stations then air.stations else air.stations ++ [mac]
          assigned := Function.update air.assigned mac 0 },
        -- a station may come back without having been seen to leave
        some (.link (.AP_STACONNECTED mac)))
  | .disconnect mac =>
      if mac ∈ air.stations then
        ({ air with
            stations := air.stations.filter (· ≠ mac)
            assigned := Function.update air.assigned mac 0 },
          some (.link (.AP_STADISCONNECTED mac)))
      else (air, none)
  | .assign mac ip =>
      if mac ∈ air.stations ∧ ip ≠ 0 then
        ({ air with
            assigned := Function.update air.assigned mac ip
            leases := Function.update air.leases mac ip },
          some (.IP_EVENT_ASSIGNED_IP_TO_CLIENT mac ip))
      else (air, none)
  | .lease_end mac => ({ air with leases := Function.update air.leases mac 0 }, none)

/-- The address that a station has. -/
def softap_t.view (air : softap_t) (k : mac_t) : Option UInt32 :=
  if k ∈ air.stations then some (air.assigned k) else none

/-! ## The steps of the start -/

/-- `esp_netif_pair_mac_ip_t`. -/
structure esp_netif_pair_mac_ip_t where
  mac : mac_t
  ip : UInt32
  deriving DecidableEq, Repr

/-- How far `client_access_start` is: the call that comes next, with the local variables
it reads. -/
inductive start_phase
  | register
  | get_sta_list
  | get_clients_by_mac (station_list : List mac_t)
  | connected (client_pairs : List esp_netif_pair_mac_ip_t)
  | address (pair : esp_netif_pair_mac_ip_t) (client_pairs : List esp_netif_pair_mac_ip_t)
  | returned (err : esp_err_t)
  deriving DecidableEq, Repr

/-- The handlers are registered from the first step on, unless the start has failed. -/
def start_phase.Registered : start_phase → Prop
  | .register => False
  | .returned err => err = .ESP_OK
  | _ => True

instance (phase : start_phase) : Decidable phase.Registered := by
  unfold start_phase.Registered
  split <;> infer_instance

/-- The module that starts, the event loop and the air. -/
structure start_world where
  air : softap_t
  posted : List softap_event
  state : client_access_t
  phase : start_phase

/-- Before the start: any stations, nothing in the table. -/
def start_world.init (ESP_WIFI_MAX_CONN_NUM : ℕ) (air : softap_t) : start_world :=
  ⟨air, [], client_access_init ESP_WIFI_MAX_CONN_NUM, .register⟩

/-- The next step of `client_access_start` and of `track_existing_softap_clients`, where
`err` is what the driver call of the step returns: `esp_wifi_ap_get_sta_list`, or the
search for the interface and `esp_netif_dhcps_get_clients_by_mac`. -/
def start_world.start (w : start_world) (err : esp_err_t) : start_world :=
  match w.phase with
  | .register =>
      -- the queue is there before a handler can put something into it
      { w with state := { w.state with s_disconnect_queue := some [] }, phase := .get_sta_list }
  | .get_sta_list =>
      if err ≠ .ESP_OK then { w with phase := .returned err }
      else if w.air.stations = [] then { w with phase := .returned .ESP_OK }
      else { w with phase := .get_clients_by_mac w.air.stations }
  | .get_clients_by_mac station_list =>
      if err ≠ .ESP_OK then { w with phase := .returned err }
      else
        { w with
          -- the list may be older than the leases: both are read once
          phase := .connected (station_list.map fun mac => ⟨mac, w.air.leases mac⟩) }
  | .connected [] => { w with phase := .returned .ESP_OK }
  | .connected (pair :: client_pairs) =>
      let (clients, tracked) := track_connected_client w.state.s_clients pair.mac
      { w with
        state := { w.state with s_clients := clients }
        phase :=
          if tracked ≠ .ESP_OK then .returned tracked
          -- no lease yet: an event will bring the address
          else if pair.ip ≠ 0 then .address pair client_pairs
          else .connected client_pairs }
  | .address pair client_pairs =>
      let (clients, tracked) := track_client_ip w.state.s_clients pair.mac pair.ip
      { w with
        state := { w.state with s_clients := clients }
        phase := if tracked ≠ .ESP_OK then .returned tracked else .connected client_pairs }
  | .returned _ => w

/-! ## The event loop -/

/-- The two handlers. `client_access_ip_event_handler` only logs an unknown MAC. -/
def softap_event.handle (state : client_access_t) : softap_event → client_access_t
  | .link (.AP_STACONNECTED mac) =>
      { state with s_clients := (track_connected_client state.s_clients mac).1 }
  | .link (.AP_STADISCONNECTED mac) => remove_disconnect_client state mac
  | .IP_EVENT_ASSIGNED_IP_TO_CLIENT mac ip =>
      { state with s_clients := (track_client_ip state.s_clients mac ip).1 }

/-- The step of somebody: something happens on the air, the event loop handles the oldest
event, or the start goes on. -/
inductive start_step
  | act (action : softap_action)
  | deliver
  | start (err : esp_err_t)

def start_world.step (w : start_world) : start_step → start_world × Unit
  | .act action =>
      let (air, event) := w.air.act action
      ({ w with air := air, posted := w.posted ++ event.toList }, ())
  | .deliver =>
      match w.posted with
      | [] => (w, ())
      | event :: posted =>
          ({ w with
              -- an event that finds no handler is lost
              posted := posted
              state := if w.phase.Registered then event.handle w.state else w.state }, ())
  | .start err => (w.start err, ())

/-- The world after a run. -/
def start_world.run (w : start_world) (inputs : List start_step) : start_world :=
  Machine.run start_world.step w inputs

end WifiManager.ClientAccess
