/-
Who is connected, and under which address.

The seats of the table are a state machine of their own: connections,
disconnections and addresses change them, and nothing about authorizations does.
`seat_step` is that machine and `seats_step` says that the module runs it: it is what
lets two runs that differ in authorizations be compared, and what addresses are
reasoned about with.
-/
import WifiManager.ClientAccess.Runs

set_option autoImplicit false

namespace WifiManager.ClientAccess

open WifiManager.Lib

/-! ## The machine -/

/-- What the table says about seats. -/
def seats (clients : client_table) : List seat_t := clients.map client_access_entry_t.seat

/-- Seats, found by MAC. -/
def seat_layout : Slots.Layout seat_t mac_t where
  live seat := seat.in_use
  key seat := seat.mac

/-- Seats, found by address. -/
def seat_address_layout : Slots.Layout seat_t UInt32 where
  live seat := seat.in_use
  key seat := seat.ip

/-- The seat nobody sits in. -/
def seat_t.empty : seat_t := ⟨false, Vector.replicate 6 0, 0⟩

/-- An address for a client, if it is there. -/
def seat_assign (table : List seat_t) (mac : mac_t) (ip : UInt32) : List seat_t :=
  match seat_layout.find table mac with
  | some i => table.set i { table.getD i .empty with ip := ip }
  | none => table

/-- The client that the ARP table names for an address nobody has. -/
def recovered (table : List seat_t) (arp : softap_arp_t) (source_ip : UInt32) : Option mac_t :=
  if source_ip ≠ 0 ∧ seat_address_layout.find table source_ip = none then
    (resolve_client_mac_by_ipv4 arp source_ip).toOption
  else none

/-- One call, seen at the seats. -/
def seat_step (table : List seat_t) : client_call → List seat_t
  | .track_connected_client mac =>
      match (seat_layout.find table mac).or (seat_layout.free table) with
      | some i => table.set i ⟨true, mac, 0⟩
      | none => table
  | .remove_disconnect_client mac =>
      match seat_layout.find table mac with
      | some i => table.set i .empty
      | none => table
  | .track_client_ip mac ip => seat_assign table mac ip
  | .client_access_get_snapshot_by_ipv4 arp source_ip =>
      match recovered table arp source_ip with
      | some mac => seat_assign table mac source_ip
      | none => table
  | _ => table

/-! ## The module runs it -/

section Refinement

variable {clients : client_table}

theorem find_seats (mac : mac_t) :
    seat_layout.find (seats clients) mac = find_client_index_locked clients mac :=
  Slots.Layout.find_view client_access_entry_t.seat (fun _ => rfl) (fun _ => rfl) mac

theorem free_seats : seat_layout.free (seats clients) = client_layout.free clients :=
  Slots.Layout.free_view client_access_entry_t.seat (fun _ => rfl)

theorem find_seats_address (ip : UInt32) :
    seat_address_layout.find (seats clients) ip = address_layout.find clients ip :=
  Slots.Layout.find_view client_access_entry_t.seat (fun _ => rfl) (fun _ => rfl) ip

theorem lookup_seats_address (ip : UInt32) :
    seat_address_layout.lookup (seats clients) ip
      = (address_layout.lookup clients ip).map client_access_entry_t.seat :=
  Slots.Layout.lookup_view client_access_entry_t.seat (fun _ => rfl) (fun _ => rfl) ip

theorem seats_set (i : ℕ) (entry : client_access_entry_t) :
    seats (clients.set i entry) = (seats clients).set i entry.seat :=
  List.map_set

theorem seats_getD (i : ℕ) :
    (seats clients).getD i .empty = (clients.getD i {}).seat := by
  rw [List.getD_eq_getElem?_getD, List.getD_eq_getElem?_getD, seats, List.getElem?_map]
  cases clients[i]? with
  | none => rfl
  | some entry => rfl

/-- Fields that no seat shows. -/
theorem seats_update (f : client_access_entry_t → client_access_entry_t)
    (hf : ∀ entry, (f entry).seat = entry.seat) (i : ℕ) :
    seats (update clients i f) = seats clients := by
  rw [update, seats_set, hf, ← seats_getD]
  by_cases hi : i < (seats clients).length
  · rw [List.getD_eq_getElem?_getD, List.getElem?_eq_getElem hi, Option.getD_some,
      List.set_getElem_self]
  · rw [List.set_eq_of_length_le (Nat.le_of_not_lt hi)]

theorem seats_track_client_ip (mac : mac_t) (ip : UInt32) :
    seats (track_client_ip clients mac ip).1 = seat_assign (seats clients) mac ip := by
  rw [track_client_ip, seat_assign, find_seats]
  cases find_client_index_locked clients mac with
  | none => rfl
  | some i =>
      dsimp only
      rw [update, seats_set, seats_getD]
      rfl

theorem seats_remove_disconnect_client (state : client_access_t) (mac : mac_t) :
    seats (remove_disconnect_client state mac).s_clients
      = seat_step (seats state.s_clients) (.remove_disconnect_client mac) := by
  rw [remove_disconnect_client, seat_step, find_seats]
  cases find_client_index_locked state.s_clients mac with
  | none => rfl
  | some i =>
      dsimp only
      rw [xQueueSend_clients, seats_set]
      rfl

/-- A packet may end an authorization, but leaves the seat. -/
theorem seats_can_forward_ipv4 (now source_ip : UInt32) :
    seats (client_access_can_forward_ipv4 clients now source_ip).1 = seats clients := by
  unfold client_access_can_forward_ipv4
  by_cases hip : source_ip = 0
  · rw [if_pos hip]
  rw [if_neg hip]
  cases address_layout.find clients source_ip with
  | none => rfl
  | some i =>
      exact seats_update (fun entry => (entry.can_forward now).1)
        (client_access_entry_t.can_forward_seat now) i

theorem seats_expire_check (now : UInt32) :
    seats (client_access_expire_check clients now) = seats clients := by
  rw [seats, client_access_expire_check, List.map_map]
  exact List.map_congr_left fun entry _ => entry.expire_seat now

theorem seats_get_snapshot_by_ipv4 (arp : softap_arp_t) (source_ip : UInt32) :
    seats (client_access_get_snapshot_by_ipv4 arp clients source_ip).1
      = seat_step (seats clients) (.client_access_get_snapshot_by_ipv4 arp source_ip) := by
  simp only [seat_step, recovered, find_seats_address]
  unfold client_access_get_snapshot_by_ipv4 copy_client_snapshot_by_ipv4
  by_cases hip : source_ip = 0
  · rw [if_pos hip, if_neg (fun hc => hc.1 hip)]
  rw [if_neg hip]
  cases hfind : address_layout.find clients source_ip with
  | some i => rw [if_neg (by simp)]
  | none =>
      rw [if_pos ⟨hip, rfl⟩]
      cases resolve_client_mac_by_ipv4 arp source_ip with
      | error err => rfl
      | ok mac =>
          simp only [Except.toOption]
          rw [← seats_track_client_ip]
          -- the error of the recovery only decides what is returned
          split
          all_goals
            rename_i heq
            rw [heq]

variable (configTICK_RATE_HZ : UInt32)

/-- **The seats of the module are a run of the seats machine.** -/
theorem seats_step (now : UInt32) (state : client_access_t) (call : client_call) :
    seats (call.step configTICK_RATE_HZ now state).1.s_clients
      = seat_step (seats state.s_clients) call := by
  cases call with
  -- the one call that takes a seat; `remove_disconnect_client` is the one that frees it
  | track_connected_client mac =>
      simp only [client_call.step, seat_step, track_connected_client, find_seats, free_seats]
      cases (find_client_index_locked state.s_clients mac).or
          (client_layout.free state.s_clients) with
      | none => rfl
      | some i =>
          dsimp only
          rw [seats_set]
          rfl
  | remove_disconnect_client mac => exact seats_remove_disconnect_client state mac
  | track_client_ip mac ip => exact seats_track_client_ip mac ip
  | client_access_set_state mac access =>
      simp only [client_call.step, seat_step, client_access_set_state]
      split_ifs
      · rfl
      · cases find_client_index_locked state.s_clients mac with
        | none => rfl
        | some i =>
            exact seats_update (fun entry => { entry with state := access }) (fun _ => rfl) i
  | client_access_get_snapshot_by_ipv4 arp source_ip =>
      exact seats_get_snapshot_by_ipv4 arp source_ip
  | client_access_can_forward_ipv4 source_ip => exact seats_can_forward_ipv4 now source_ip
  -- the calls that change an entry in place keep its seat
  | client_access_authorize mac_text session_id ttl_seconds =>
      simp only [client_call.step, seat_step, client_access_authorize]
      split_ifs
      · rfl
      · cases parse_mac_address mac_text with
        | error err => rfl
        | ok mac =>
            cases hfind : find_client_index_locked state.s_clients mac with
            | none => simp only [hfind]
            | some i =>
                simp only [hfind]
                exact seats_update (.authorized configTICK_RATE_HZ now session_id ttl_seconds)
                  (fun _ => rfl) i
  | client_access_revoke_authorization mac_text session_id =>
      simp only [client_call.step, seat_step, client_access_revoke_authorization]
      split_ifs
      · rfl
      · cases parse_mac_address mac_text with
        | error err => rfl
        | ok mac =>
            cases hfind : find_client_index_locked state.s_clients mac with
            | none => simp only [hfind]
            | some i =>
                simp only [hfind]
                split_ifs
                · exact seats_update .unauthorized (fun _ => rfl) i
                · rfl
  | client_access_expire_check sampled => exact seats_expire_check sampled

/-- No call makes a seat or takes one away. -/
theorem length_seat_step (table : List seat_t) (call : client_call) :
    (seat_step table call).length = table.length := by
  have hassign : ∀ mac ip, (seat_assign table mac ip).length = table.length := by
    intro mac ip
    unfold seat_assign
    split
    · exact List.length_set
    · rfl
  cases call with
  | track_connected_client mac =>
      rw [seat_step]
      split
      · exact List.length_set
      · rfl
  | remove_disconnect_client mac =>
      rw [seat_step]
      split
      · exact List.length_set
      · rfl
  | track_client_ip mac ip => exact hassign mac ip
  | client_access_get_snapshot_by_ipv4 arp source_ip =>
      rw [seat_step]
      split
      · exact hassign _ source_ip
      · rfl
  | _ => rfl

/-- The table keeps its slots. -/
theorem length_step (now : UInt32) (state : client_access_t) (call : client_call) :
    (call.step configTICK_RATE_HZ now state).1.s_clients.length = state.s_clients.length := by
  have hseats := congrArg List.length (seats_step configTICK_RATE_HZ now state call)
  rw [length_seat_step, seats, seats, List.length_map, List.length_map] at hseats
  exact hseats

end Refinement

end WifiManager.ClientAccess
