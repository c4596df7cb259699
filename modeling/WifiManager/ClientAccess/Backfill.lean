/-
Whether the startup backfill converges.

Seen from one MAC, the table is an entry with an address or no entry, the air is a
station with an address or no station, and the events still posted are what separates
the two: `replay` lets them happen to an entry. For every MAC the replay of what is posted
ends with the station (`Backfilling`), except for stations that the start has still to
write. A write of the start uses what was read earlier; `Current` says that it is still
true of the station, or that an event of the station is still to be handled, and
`backfill_converges` that nothing more is needed.
-/
import WifiManager.ClientAccess.Start

set_option autoImplicit false

namespace WifiManager.ClientAccess

open WifiManager.Lib

/-! ## What the table should say -/

/-- **Convergence.** After a successful start, and with all events handled, the MACs in use
are the connected stations, and an address that was assigned is recorded. -/
def Converged (w : start_world) : Prop :=
  w.phase = .returned .ESP_OK → w.posted = [] →
    (∀ mac, (∃ entry ∈ w.state.s_clients, entry.in_use = true ∧ entry.mac = mac) ↔
      mac ∈ w.air.stations) ∧
    ∀ mac ∈ w.air.stations, w.air.assigned mac ≠ 0 →
      ∃ entry ∈ w.state.s_clients, entry.in_use = true ∧ entry.mac = mac ∧
        entry.ip = w.air.assigned mac

/-- The table is not full where a connection is handled. -/
def NotFull (w : start_world) (e : start_step) : Prop :=
  ∀ mac posted, e = .deliver → w.posted = .link (.AP_STACONNECTED mac) :: posted →
    (track_connected_client w.state.s_clients mac).2 ≠ .ESP_ERR_NO_MEM

/-- The MAC that an event is about. -/
def softap_event.mac : softap_event → mac_t
  | .link (.AP_STACONNECTED mac) => mac
  | .link (.AP_STADISCONNECTED mac) => mac
  | .IP_EVENT_ASSIGNED_IP_TO_CLIENT mac _ => mac

/-- An event of a MAC is still to be handled. -/
def Pending (posted : List softap_event) (k : mac_t) : Prop := ∃ e ∈ posted, e.mac = k

/-- **Current reads.** Where the start writes a station it has read: an event of the station
is still to be handled, or the station is still connected, without address or with the one
that was read. Where it writes the address: the same, or the station has no entry any
more. -/
def Current (w : start_world) (e : start_step) : Prop :=
  ∀ err, e = .start err →
    match w.phase with
    | .connected (pair :: _) => Pending w.posted pair.mac ∨ pair.mac ∈ w.air.stations ∧
        (w.air.assigned pair.mac = 0 ∨ w.air.assigned pair.mac = pair.ip)
    | .address pair _ => Pending w.posted pair.mac ∨ w.air.assigned pair.mac = 0 ∨
        w.air.assigned pair.mac = pair.ip ∨
        client_layout.lookup w.state.s_clients pair.mac = none
    | _ => True

/-! ## One MAC -/

/-- The address that the table has for a MAC. -/
def view (clients : client_table) (k : mac_t) : Option UInt32 :=
  (client_layout.lookup clients k).map client_access_entry_t.ip

/-- What an event does to the entry of a MAC. -/
def softap_event.view (k : mac_t) (e : softap_event) (seen : Option UInt32) : Option UInt32 :=
  if e.mac = k then
    match e with
    | .link (.AP_STACONNECTED _) => some 0
    | .link (.AP_STADISCONNECTED _) => none
    | .IP_EVENT_ASSIGNED_IP_TO_CLIENT _ ip => seen.map fun _ => ip
  else seen

/-- What the posted events will do to it. -/
def replay (k : mac_t) (posted : List softap_event) (seen : Option UInt32) : Option UInt32 :=
  posted.foldl (fun seen e => e.view k seen) seen

/-- An entry is right about a station: it is there, with the address if there is one. -/
def Agrees (seen : Option UInt32) : Option UInt32 → Prop
  | none => seen = none
  | some assigned => ∃ ip, seen = some ip ∧ (assigned ≠ 0 → ip = assigned)

theorem agrees_self (seen : Option UInt32) : Agrees seen seen := by
  rcases seen with - | ip
  · rfl
  · exact ⟨ip, rfl, fun _ => rfl⟩

/-- A link event of a MAC is still to be handled. -/
def LinkPending (posted : List softap_event) (k : mac_t) : Prop :=
  ∃ event, .link event ∈ posted ∧ softap_event.mac (.link event) = k

section Replay

variable {k : mac_t} {posted : List softap_event}

theorem replay_cons (e : softap_event) (seen : Option UInt32) :
    replay k (e :: posted) seen = replay k posted (e.view k seen) := rfl

theorem replay_append (e : softap_event) (seen : Option UInt32) :
    replay k (posted ++ [e]) seen = e.view k (replay k posted seen) := by
  rw [replay, List.foldl_append]
  rfl

theorem LinkPending.pending (h : LinkPending posted k) : Pending posted k := by
  obtain ⟨event, hmem, hmac⟩ := h
  exact ⟨_, hmem, hmac⟩

theorem Pending.later {e : softap_event} (h : Pending posted k) : Pending (e :: posted) k := by
  obtain ⟨e', hmem, hmac⟩ := h
  exact ⟨e', List.mem_cons_of_mem e hmem, hmac⟩

theorem LinkPending.later {e : softap_event} (h : LinkPending posted k) :
    LinkPending (e :: posted) k := by
  obtain ⟨event, hmem, hmac⟩ := h
  exact ⟨event, List.mem_cons_of_mem e hmem, hmac⟩

/-- What is pending with a new event behind the others. -/
theorem pending_append_iff {e : softap_event} :
    Pending (posted ++ [e]) k ↔ Pending posted k ∨ e.mac = k := by
  unfold Pending
  simp only [List.mem_append, List.mem_singleton, or_and_right, exists_or, exists_eq_left]

theorem link_pending_append_iff {e : softap_event} :
    LinkPending (posted ++ [e]) k ↔
      LinkPending posted k ∨ (∃ event, e = .link event) ∧ e.mac = k := by
  constructor
  · rintro ⟨event, hmem, hmac⟩
    rcases List.mem_append.mp hmem with hold | hnew
    · exact .inl ⟨event, hold, hmac⟩
    · obtain rfl := List.mem_singleton.mp hnew
      exact .inr ⟨⟨event, rfl⟩, hmac⟩
  · rintro (⟨event, hmem, hmac⟩ | ⟨⟨event, rfl⟩, hmac⟩)
    · exact ⟨event, List.mem_append_left _ hmem, hmac⟩
    · exact ⟨event, List.mem_append_right _ (List.mem_singleton_self _), hmac⟩

/-- Events of other MACs. -/
theorem softap_event.view_other {e : softap_event} (h : e.mac ≠ k) (seen : Option UInt32) :
    e.view k seen = seen :=
  if_neg h

theorem replay_other (h : ¬ Pending posted k) (seen : Option UInt32) :
    replay k posted seen = seen := by
  induction posted generalizing seen with
  | nil => rfl
  | cons e posted ih =>
      rw [replay_cons, softap_event.view_other (fun he => h ⟨e, List.mem_cons_self, he⟩)]
      exact ih (fun hrest => h hrest.later) seen

/-- A link event does not ask what was there before. -/
theorem replay_link (h : LinkPending posted k) (seen seen' : Option UInt32) :
    replay k posted seen = replay k posted seen' := by
  induction posted generalizing seen seen' with
  | nil =>
      obtain ⟨event, hmem, -⟩ := h
      cases hmem
  | cons e posted ih =>
      rw [replay_cons, replay_cons]
      by_cases hrest : LinkPending posted k
      · exact ih hrest _ _
      · -- the link event is the first one
        obtain ⟨event, hmem, hmac⟩ := h
        obtain rfl | hmem := List.mem_cons.mp hmem
        · congr 1
          unfold softap_event.view
          rw [if_pos hmac, if_pos hmac]
          rcases event with mac | mac <;> rfl
        · exact absurd ⟨event, hmem, hmac⟩ hrest

/-- Addresses alone make no entry. -/
theorem replay_none (h : ¬ LinkPending posted k) : replay k posted none = none := by
  induction posted with
  | nil => rfl
  | cons e posted ih =>
      have hfirst : e.view k none = none := by
        unfold softap_event.view
        split_ifs with hmac
        · rcases e with event | ⟨mac, ip⟩
          · exact absurd ⟨event, List.mem_cons_self, hmac⟩ h
          · rfl
        · rfl
      rw [replay_cons, hfirst]
      exact ih fun hrest => h hrest.later

end Replay

/-! ## The air and what it posts -/

/-- What an action on the air and the event that it posts have to do with each other. -/
structure Announced (air air' : softap_t) (e : softap_event) : Prop where
  others : ∀ k, e.mac ≠ k →
    (k ∈ air'.stations ↔ k ∈ air.stations) ∧ air'.assigned k = air.assigned k
  link : ∀ event, e = .link event → ∀ seen, e.view e.mac seen = air'.view e.mac
  address : (∀ event, e ≠ .link event) → e.mac ∈ air.stations ∧ e.mac ∈ air'.stations ∧
    ∀ ip, e.view e.mac (some ip) = air'.view e.mac

/-- An action is announced, or it changes neither stations nor addresses. -/
theorem softap_t.act_cases (air : softap_t) (action : softap_action) :
    ((air.act action).2 = none ∧ (air.act action).1.stations = air.stations ∧
        (air.act action).1.assigned = air.assigned) ∨
      ∃ e, (air.act action).2 = some e ∧ Announced air (air.act action).1 e := by
  have hother : ∀ (k mac : mac_t) (ip : UInt32), mac ≠ k →
      Function.update air.assigned mac ip k = air.assigned k :=
    fun k mac ip hk => Function.update_of_ne (Ne.symm hk) ip air.assigned
  cases action with
  -- the two link events set what is known of their station, whatever it was before
  | connect mac =>
      refine .inr ⟨_, rfl, ?_, ?_, fun h => absurd rfl (h _)⟩
      · intro k hk
        refine ⟨?_, hother k mac 0 hk⟩
        change k ∈ (if mac ∈ air.stations then air.stations else air.stations ++ [mac]) ↔ _
        split_ifs
        · exact Iff.rfl
        · have hne : k ≠ mac := Ne.symm hk
          simp [hne]
      · intro event hevent seen
        have hjoined :
            mac ∈ (if mac ∈ air.stations then air.stations else air.stations ++ [mac]) := by
          split_ifs with hmem
          · exact hmem
          · simp
        have hview : (air.act (.connect mac)).1.view mac = some 0 :=
          (if_pos hjoined).trans (congrArg some (Function.update_self mac 0 air.assigned))
        exact (if_pos rfl).trans hview.symm
  | disconnect mac =>
      rw [softap_t.act]
      split_ifs with hmem
      · refine .inr ⟨_, rfl, ?_, ?_, fun h => absurd rfl (h _)⟩
        · intro k hk
          refine ⟨?_, hother k mac 0 hk⟩
          have hne : k ≠ mac := Ne.symm hk
          simp [hne]
        · intro event hevent seen
          unfold softap_event.view softap_t.view
          rw [if_pos rfl, if_neg (by simp [softap_event.mac])]
      · exact .inl ⟨rfl, rfl, rfl⟩
  -- an address is only given to a station that is there
  | assign mac ip =>
      rw [softap_t.act]
      split_ifs with hmem
      · refine .inr ⟨_, rfl, ?_, (by rintro event ⟨⟩), ?_⟩
        · intro k hk
          exact ⟨Iff.rfl, hother k mac ip hk⟩
        · intro _
          refine ⟨hmem.1, hmem.1, fun seen => (if_pos rfl).trans (Eq.symm ?_)⟩
          exact (if_pos hmem.1).trans (congrArg some (Function.update_self mac ip air.assigned))
      · exact .inl ⟨rfl, rfl, rfl⟩
  -- a lease ends without an event
  | lease_end mac => exact .inl ⟨rfl, rfl, rfl⟩

theorem softap_t.view_congr {air air' : softap_t} {k : mac_t}
    (hstations : k ∈ air'.stations ↔ k ∈ air.stations)
    (hassigned : air'.assigned k = air.assigned k) : air'.view k = air.view k := by
  unfold softap_t.view
  rw [hassigned]
  by_cases hk : k ∈ air.stations
  · rw [if_pos hk, if_pos (hstations.mpr hk)]
  · rw [if_neg hk, if_neg (fun h => hk (hstations.mp h))]

/-- The posted events of a MAC end with what its station is now, also those that are left
when some of them have been handled. -/
def Truthful (air : softap_t) (posted : List softap_event) : Prop :=
  ∀ k later, later <:+ posted → Pending later k →
    ∀ ip, replay k later (some ip) = air.view k

section Truthful

variable {air air' : softap_t} {posted : List softap_event} {e : softap_event}

theorem Truthful.handled (h : Truthful air (e :: posted)) : Truthful air posted :=
  fun k later hlater => h k later (hlater.trans (List.suffix_cons e posted))

/-- The new event brings every entry that the old ones left behind to what the station is
now. -/
theorem Announced.view (h : Announced air air' e) {seen : Option UInt32}
    (hseen : seen = air.view e.mac ∨ seen.isSome = true) :
    e.view e.mac seen = air'.view e.mac := by
  by_cases hlink : ∃ event, e = .link event
  · obtain ⟨event, hevent⟩ := hlink
    exact h.link event hevent seen
  · obtain ⟨hbefore, -, haddress⟩ := h.address fun event hevent => hlink ⟨event, hevent⟩
    have hsome : ∃ ip, seen = some ip := by
      obtain rfl | hsome := hseen
      · exact ⟨_, if_pos hbefore⟩
      · exact Option.isSome_iff_exists.mp hsome
    obtain ⟨ip, rfl⟩ := hsome
    exact haddress ip

theorem Truthful.act (h : Truthful air posted) (hannounced : Announced air air' e) :
    Truthful air' (posted ++ [e]) := by
  intro k later hlater hpending ip
  obtain rfl | ⟨earlier, rfl, hearlier⟩ := List.suffix_concat_iff.mp hlater
  · obtain ⟨e', hmem, -⟩ := hpending
    cases hmem
  rw [replay_append]
  by_cases hk : e.mac = k
  · subst hk
    apply hannounced.view
    by_cases hbefore : Pending earlier e.mac
    · exact .inl (h e.mac earlier hearlier hbefore ip)
    · rw [replay_other hbefore]
      exact .inr rfl
  · have hbefore : Pending earlier k := (pending_append_iff.mp hpending).resolve_right hk
    obtain ⟨hstations, hassigned⟩ := hannounced.others k hk
    rw [softap_event.view_other hk, h k earlier hearlier hbefore ip,
      softap_t.view_congr hstations hassigned]

theorem Truthful.quiet (h : Truthful air posted) (hstations : air'.stations = air.stations)
    (hassigned : air'.assigned = air.assigned) : Truthful air' posted := by
  intro k later hlater hpending ip
  rw [h k later hlater hpending ip]
  exact (softap_t.view_congr (by rw [hstations]) (by rw [hassigned])).symm

end Truthful

/-! ## The table -/

section Table

variable {clients : client_table}

theorem view_track_connected_client (hu : client_layout.Unique clients) {mac : mac_t}
    (hroom : (track_connected_client clients mac).2 ≠ .ESP_ERR_NO_MEM) (k : mac_t) :
    view (track_connected_client clients mac).1 k
      = if k = mac then some 0 else view clients k := by
  unfold view
  obtain ⟨-, hlookup⟩ | ⟨hfull, -⟩ := (track_connected_client_spec hu mac).2
  · rw [hlookup]
    split_ifs <;> rfl
  · exact absurd hfull hroom

theorem view_track_client_ip (hu : client_layout.Unique clients) (mac : mac_t) (ip : UInt32)
    (k : mac_t) :
    view (track_client_ip clients mac ip).1 k
      = if k = mac then (view clients k).map fun _ => ip else view clients k := by
  unfold view
  rw [(track_client_ip_spec hu mac ip).2]
  split_ifs
  · rw [Option.map_map, Option.map_map]
    rfl
  · rfl

/-- An address for a MAC without an entry is an error. -/
theorem track_client_ip_err (clients : client_table) (mac : mac_t) (ip : UInt32) :
    (track_client_ip clients mac ip).2
      = if client_layout.lookup clients mac = none then .ESP_ERR_NOT_FOUND else .ESP_OK := by
  unfold track_client_ip
  rcases hfind : find_client_index_locked clients mac with - | i
  · rw [if_pos (Slots.Layout.find_eq_none_iff.mp hfind)]
  · rw [if_neg]
    intro hnone
    have hfind' : find_client_index_locked clients mac = none :=
      Slots.Layout.find_eq_none_iff.mpr hnone
    rw [hfind'] at hfind
    cases hfind

/-- A handler does to the table what its event says. -/
theorem view_handle {state : client_access_t}
    (hu : client_layout.Unique state.s_clients) {e : softap_event}
    (hroom : ∀ mac, e = .link (.AP_STACONNECTED mac) →
      (track_connected_client state.s_clients mac).2 ≠ .ESP_ERR_NO_MEM) (k : mac_t) :
    view (e.handle state).s_clients k = e.view k (view state.s_clients k) := by
  unfold softap_event.view
  rcases e with (mac | mac) | ⟨mac, ip⟩
  · refine (view_track_connected_client hu (hroom mac rfl) k).trans ?_
    simp only [softap_event.mac, eq_comm]
  · have hremoved : view (remove_disconnect_client state mac).s_clients k
        = if k = mac then none else view state.s_clients k := by
      unfold view
      rw [(remove_disconnect_client_spec hu mac).2]
      split_ifs <;> rfl
    refine hremoved.trans ?_
    simp only [softap_event.mac, eq_comm]
  · refine (view_track_client_ip hu mac ip k).trans ?_
    simp only [softap_event.mac, eq_comm]

theorem unique_handle {state : client_access_t}
    (hu : client_layout.Unique state.s_clients) (e : softap_event) :
    client_layout.Unique (e.handle state).s_clients := by
  rcases e with (mac | mac) | ⟨mac, ip⟩
  · exact (track_connected_client_spec hu mac).1
  · exact (remove_disconnect_client_spec hu mac).1
  · exact (track_client_ip_spec hu mac ip).1

end Table

/-! ## The invariant -/

/-- What the posted events make of the table is right about a MAC. -/
def Settled (w : start_world) (k : mac_t) : Prop :=
  Agrees (replay k w.posted (view w.state.s_clients k)) (w.air.view k)

/-- The stations that the start has still to write, or will still read. -/
def start_phase.Covers : start_phase → mac_t → Prop
  | .get_sta_list, _ => True
  | .get_clients_by_mac station_list, k => k ∈ station_list
  | .connected client_pairs, k => k ∈ client_pairs.map esp_netif_pair_mac_ip_t.mac
  | .address _ client_pairs, k => k ∈ client_pairs.map esp_netif_pair_mac_ip_t.mac
  | _, _ => False

/-- A station that the start is about to write: it has been connected all the time, with no
entry yet, or with an entry whose address comes next. -/
inductive Awaited (w : start_world) (k : mac_t) : Prop
  | station (covers : w.phase.Covers k) (connected : k ∈ w.air.stations)
      (link : ¬ LinkPending w.posted k) (absent : view w.state.s_clients k = none)
  | address (client_pairs : List esp_netif_pair_mac_ip_t)
      (phase : w.phase = .address ⟨k, w.air.assigned k⟩ client_pairs)
      (connected : k ∈ w.air.stations) (pending : ¬ Pending w.posted k)
      (present : (view w.state.s_clients k).isSome = true)

/-- What every step of the start and everything beside it keeps. -/
structure Backfilling (w : start_world) : Prop where
  unique : client_layout.Unique w.state.s_clients
  truthful : Truthful w.air w.posted
  empty : w.phase = .register → ∀ k, view w.state.s_clients k = none
  table : w.phase.Registered → ∀ k, Settled w k ∨ Awaited w k

section Steps

variable {w : start_world}

/-- Something happens on the air. -/
theorem Settled.act {k : mac_t} (h : Settled w k) {air' : softap_t} {e : softap_event}
    (hannounced : Announced w.air air' e) :
    Settled { w with air := air', posted := w.posted ++ [e] } k := by
  unfold Settled
  dsimp only
  rw [replay_append]
  by_cases hk : e.mac = k
  · subst hk
    by_cases hlink : ∃ event, e = .link event
    · obtain ⟨event, hevent⟩ := hlink
      rw [hannounced.link event hevent]
      exact agrees_self _
    · -- an address for a station, whose entry is there behind the replay
      obtain ⟨hbefore, -, haddress⟩ :=
        hannounced.address fun event hevent => hlink ⟨event, hevent⟩
      unfold Settled softap_t.view at h
      rw [if_pos hbefore] at h
      obtain ⟨ip, hip, -⟩ := h
      rw [hip, haddress]
      exact agrees_self _
  · obtain ⟨hstations, hassigned⟩ := hannounced.others k hk
    rw [softap_event.view_other hk, softap_t.view_congr hstations hassigned]
    exact h

theorem Awaited.act {k : mac_t} (h : Awaited w k) {air' : softap_t} {e : softap_event}
    (hannounced : Announced w.air air' e) :
    let w' : start_world := { w with air := air', posted := w.posted ++ [e] }
    Settled w' k ∨ Awaited w' k := by
  intro w'
  -- an event of another station leaves this one as it was
  by_cases hk : e.mac = k
  · subst hk
    by_cases hlink : ∃ event, e = .link event
    -- a link event of the station says all about it
    · obtain ⟨event, hevent⟩ := hlink
      left
      change Agrees (replay e.mac (w.posted ++ [e]) _) (air'.view e.mac)
      rw [replay_append, hannounced.link event hevent]
      exact agrees_self _
    · obtain ⟨-, hafter, haddress⟩ :=
        hannounced.address fun event hevent => hlink ⟨event, hevent⟩
      rcases h with ⟨hcovers, hconnected, hquiet, habsent⟩ |
        ⟨client_pairs, hphase, hconnected, hquiet, hpresent⟩
      -- the address is in the leases, or comes with the event once the entry is there
      · refine .inr (.station hcovers hafter ?_ habsent)
        exact fun hpending => (link_pending_append_iff.mp hpending).elim hquiet
          fun hnew => hlink hnew.1
      · -- the entry is there, so the event will write the new address
        left
        change Agrees (replay e.mac (w.posted ++ [e]) (view w.state.s_clients e.mac))
          (air'.view e.mac)
        obtain ⟨ip, hip⟩ := Option.isSome_iff_exists.mp hpresent
        rw [replay_append, replay_other hquiet, hip, haddress]
        exact agrees_self _
  · obtain ⟨hstations, hassigned⟩ := hannounced.others k hk
    right
    rcases h with ⟨hcovers, hconnected, hquiet, habsent⟩ |
      ⟨client_pairs, hphase, hconnected, hquiet, hpresent⟩
    · refine .station hcovers (hstations.mpr hconnected) ?_ habsent
      exact fun hpending => (link_pending_append_iff.mp hpending).elim hquiet
        fun hnew => hk hnew.2
    · refine .address client_pairs ?_ (hstations.mpr hconnected) ?_ hpresent
      · change w.phase = .address ⟨k, air'.assigned k⟩ client_pairs
        rw [hassigned, hphase]
      · exact fun hpending => (pending_append_iff.mp hpending).elim hquiet hk

theorem Backfilling.act (h : Backfilling w) (action : softap_action) :
    Backfilling (w.step (.act action)).1 := by
  rw [start_world.step]
  obtain ⟨hquiet, hstations, hassigned⟩ | ⟨e, he, hannounced⟩ := w.air.act_cases action
  · -- neither stations nor addresses change
    have hview : ∀ k, (w.air.act action).1.view k = w.air.view k :=
      fun k => softap_t.view_congr (by rw [hstations]) (by rw [hassigned])
    dsimp only
    rw [hquiet, Option.toList_none, List.append_nil]
    refine ⟨h.unique, h.truthful.quiet hstations hassigned, h.empty, ?_⟩
    intro hregistered k
    obtain hsettled | hawaited := h.table hregistered k
    · left
      unfold Settled
      dsimp only
      rw [hview]
      exact hsettled
    · right
      rcases hawaited with ⟨hcovers, hconnected, hlink, habsent⟩ |
        ⟨client_pairs, hphase, hconnected, hpending, hpresent⟩
      · refine .station hcovers ?_ hlink habsent
        dsimp only
        rwa [hstations]
      · refine .address client_pairs ?_ ?_ hpending hpresent
        · dsimp only
          rw [hassigned, hphase]
        · dsimp only
          rwa [hstations]
  · dsimp only
    rw [he, Option.toList_some]
    refine ⟨h.unique, h.truthful.act hannounced, h.empty, ?_⟩
    intro hregistered k
    obtain hsettled | hawaited := h.table hregistered k
    · exact .inl (hsettled.act hannounced)
    · exact hawaited.act hannounced

/-- The oldest event is handled, by nobody before the registration. -/
theorem Backfilling.deliver (h : Backfilling w) (hroom : NotFull w .deliver) :
    Backfilling (w.step .deliver).1 := by
  rw [start_world.step]
  rcases hposted : w.posted with - | ⟨e, posted⟩
  · exact h
  dsimp only
  have htruthful : Truthful w.air (e :: posted) := hposted ▸ h.truthful
  -- before the registration an event is dropped, and the list read later covers it
  by_cases hregistered : w.phase.Registered
  · rw [if_pos hregistered]
    refine ⟨unique_handle h.unique e, htruthful.handled, ?_, ?_⟩
    · intro hphase
      change w.phase = _ at hphase
      rw [hphase] at hregistered
      exact hregistered.elim
    · intro _ k
      have hhandled := view_handle (e := e) h.unique
        (fun mac hmac => hroom mac posted rfl (by rw [hposted, hmac])) k
      obtain hsettled | hawaited := h.table hregistered k
      · left
        unfold Settled at hsettled ⊢
        dsimp only
        rw [hposted, replay_cons] at hsettled
        rw [hhandled]
        exact hsettled
      · right
        rcases hawaited with ⟨hcovers, hconnected, hlink, habsent⟩ |
          ⟨client_pairs, hphase, hconnected, hpending, hpresent⟩
        · rw [hposted] at hlink
          refine .station hcovers hconnected (fun hrest => hlink hrest.later) ?_
          -- only a link event would have made an entry
          dsimp only
          rw [hhandled, habsent]
          change replay k [e] none = none
          apply replay_none
          rintro ⟨event, hmem, hmac⟩
          exact hlink ⟨event, List.mem_cons.mpr (.inl (List.mem_singleton.mp hmem)), hmac⟩
        · rw [hposted] at hpending
          refine .address client_pairs hphase hconnected (fun hrest => hpending hrest.later) ?_
          dsimp only
          rw [hhandled, softap_event.view_other
            (fun hmac => hpending ⟨e, List.mem_cons_self, hmac⟩)]
          exact hpresent
  · rw [if_neg hregistered]
    exact ⟨h.unique, htruthful.handled, h.empty, fun hc => absurd hc hregistered⟩

/-- A station that is not awaited by the next phase is settled. -/
theorem Backfilling.goes_on (h : Backfilling w) (hregistered : w.phase.Registered)
    (phase : start_phase) (hphase : phase ≠ .register)
    (hnext : ∀ k, Awaited w k → Settled w k ∨ Awaited { w with phase := phase } k) :
    Backfilling { w with phase := phase } := by
  refine ⟨h.unique, h.truthful, fun hc => absurd hc hphase, ?_⟩
  intro _ k
  obtain hsettled | hawaited := h.table hregistered k
  · exact .inl hsettled
  · exact hnext k hawaited

/-- A start that has failed leaves nothing to be kept. -/
theorem backfilling_failed {err : esp_err_t} (hu : client_layout.Unique w.state.s_clients)
    (htruthful : Truthful w.air w.posted) (hphase : w.phase = .returned err)
    (herr : err ≠ .ESP_OK) : Backfilling w := by
  refine ⟨hu, htruthful, ?_, ?_⟩
  · rw [hphase]
    rintro ⟨⟩
  · rw [hphase]
    exact fun hc => absurd hc herr

/-- The handlers are registered: what is still posted is handled from now on, and the
stations about which nothing is posted are found by the reads. -/
theorem Backfilling.register (h : Backfilling w) (hphase : w.phase = .register) :
    Backfilling { w with
      state := { w.state with s_disconnect_queue := some [] }, phase := .get_sta_list } := by
  refine ⟨h.unique, h.truthful, ?_, ?_⟩
  · rintro ⟨⟩
  intro _ k
  have hempty := h.empty hphase k
  by_cases hlink : LinkPending w.posted k
  · left
    change Agrees (replay k w.posted (view w.state.s_clients k)) (w.air.view k)
    rw [hempty, replay_link hlink none (some 0),
      h.truthful k w.posted List.suffix_rfl hlink.pending]
    exact agrees_self _
  · by_cases hconnected : k ∈ w.air.stations
    · exact .inr (.station trivial hconnected hlink hempty)
    · left
      change Agrees (replay k w.posted (view w.state.s_clients k)) (w.air.view k)
      rw [hempty, replay_none hlink, softap_t.view, if_neg hconnected]
      rfl

/-- An entry that the start has written, with the address `ip`, where the station is still
the one that was read. -/
theorem settled_written (htruthful : Truthful w.air w.posted) {k : mac_t} {ip : UInt32}
    (hview : view w.state.s_clients k = some ip)
    (hcurrent : Pending w.posted k ∨ k ∈ w.air.stations ∧
      (w.air.assigned k = 0 ∨ w.air.assigned k = ip)) : Settled w k := by
  unfold Settled
  rw [hview]
  by_cases hpending : Pending w.posted k
  · rw [htruthful k w.posted List.suffix_rfl hpending]
    exact agrees_self _
  · obtain ⟨hconnected, haddress⟩ := hcurrent.resolve_left hpending
    rw [replay_other hpending, softap_t.view, if_pos hconnected]
    refine ⟨ip, rfl, fun hne => ?_⟩
    exact (haddress.resolve_left hne).symm

/-- The next phase awaits at least the other stations of the list. -/
theorem Awaited.other {k : mac_t} (h : Awaited w k) {w' : start_world}
    (hair : w'.air = w.air) (hposted : w'.posted = w.posted)
    (hview : view w'.state.s_clients k = view w.state.s_clients k)
    (hcovers : w.phase.Covers k → w'.phase.Covers k)
    (haddress : ∀ client_pairs, w.phase ≠ .address ⟨k, w.air.assigned k⟩ client_pairs) :
    Awaited w' k := by
  rcases h with ⟨hcovered, hconnected, hlink, habsent⟩ | ⟨client_pairs, hphase, -⟩
  · refine .station (hcovers hcovered) ?_ ?_ ?_
    · rwa [hair]
    · rwa [hposted]
    · rwa [hview]
  · exact absurd hphase (haddress client_pairs)

/-- A write of the start leaves the other MACs as they are. -/
theorem Backfilling.others (h : Backfilling w) (hregistered : w.phase.Registered) {k : mac_t}
    {w' : start_world} (hair : w'.air = w.air) (hposted : w'.posted = w.posted)
    (hview : view w'.state.s_clients k = view w.state.s_clients k)
    (hcovers : w.phase.Covers k → w'.phase.Covers k)
    (haddress : ∀ client_pairs, w.phase ≠ .address ⟨k, w.air.assigned k⟩ client_pairs) :
    Settled w' k ∨ Awaited w' k := by
  obtain hsettled | hawaited := h.table hregistered k
  · left
    unfold Settled at hsettled ⊢
    rw [hair, hposted, hview]
    exact hsettled
  · exact .inr (hawaited.other hair hposted hview hcovers haddress)

/-- The station of an entry about which nothing is posted is there. -/
theorem Backfilling.station_there (h : Backfilling w) (hregistered : w.phase.Registered)
    {k : mac_t} (hpresent : (view w.state.s_clients k).isSome = true)
    (hquiet : ¬ Pending w.posted k) : k ∈ w.air.stations := by
  obtain ⟨ip, hip⟩ := Option.isSome_iff_exists.mp hpresent
  obtain hsettled | hawaited := h.table hregistered k
  · unfold Settled at hsettled
    rw [hip, replay_other hquiet] at hsettled
    by_contra hgone
    rw [softap_t.view, if_neg hgone] at hsettled
    cases hsettled
  · rcases hawaited with ⟨-, hconnected, -⟩ | ⟨-, -, hconnected, -⟩
    · exact hconnected
    · exact hconnected

/-- **A write of the start**: `track_connected_client`. -/
theorem Backfilling.connected (h : Backfilling w) {pair : esp_netif_pair_mac_ip_t}
    {client_pairs : List esp_netif_pair_mac_ip_t}
    (hphase : w.phase = .connected (pair :: client_pairs)) (err : esp_err_t)
    (hcurrent : Current w (.start err)) : Backfilling (w.start err) := by
  have hregistered : w.phase.Registered := by
    rw [hphase]
    trivial
  have hread := hcurrent err rfl
  rw [hphase] at hread
  rw [start_world.start, hphase]
  dsimp only
  -- the station is written, or the table is full and the start fails
  obtain ⟨hunique, ⟨hok, -⟩ | ⟨hfull, hsame, -⟩⟩ :=
    track_connected_client_spec h.unique pair.mac
  · have hroom : (track_connected_client w.state.s_clients pair.mac).2 ≠ .ESP_ERR_NO_MEM := by
      rw [hok]
      decide
    have hview := view_track_connected_client h.unique hroom
    rw [hok, if_neg (by decide)]
    refine ⟨hunique, h.truthful, ?_, ?_⟩
    · intro hc
      dsimp only at hc
      split_ifs at hc
    intro _ k
    -- the station that is written has address zero now; all others are as before
    by_cases hk : k = pair.mac
    · subst hk
      have hwritten : view (track_connected_client w.state.s_clients pair.mac).1 pair.mac
          = some 0 := by
        rw [hview, if_pos rfl]
      by_cases hlater : Pending w.posted pair.mac ∨ w.air.assigned pair.mac = 0
      · left
        apply settled_written
        · exact h.truthful
        · exact hwritten
        · obtain hpending | ⟨hconnected, -⟩ := hread
          · exact .inl hpending
          · exact hlater.imp_right fun hzero => ⟨hconnected, .inl hzero⟩
      · -- the address that was read is written next
        push Not at hlater
        obtain ⟨hconnected, haddress⟩ := hread.resolve_left hlater.1
        have hip := haddress.resolve_left hlater.2
        right
        refine .address client_pairs ?_ hconnected hlater.1 ?_
        · dsimp only
          rw [if_pos (hip ▸ hlater.2), hip]
        · dsimp only
          rw [hwritten]
          rfl
    · refine h.others hregistered rfl rfl ((hview k).trans (if_neg hk)) ?_ ?_
      · intro hcovers
        rw [hphase] at hcovers
        have hrest : k ∈ client_pairs.map esp_netif_pair_mac_ip_t.mac :=
          (List.mem_cons.mp hcovers).resolve_left hk
        dsimp only
        split_ifs <;> exact hrest
      · rw [hphase]
        rintro client_pairs ⟨⟩
  · rw [hfull, hsame]
    exact backfilling_failed h.unique h.truthful rfl (by decide)

/-- **A write of the start**: `track_client_ip`. -/
theorem Backfilling.address (h : Backfilling w) {pair : esp_netif_pair_mac_ip_t}
    {client_pairs : List esp_netif_pair_mac_ip_t}
    (hphase : w.phase = .address pair client_pairs) (err : esp_err_t)
    (hcurrent : Current w (.start err)) : Backfilling (w.start err) := by
  have hregistered : w.phase.Registered := by
    rw [hphase]
    trivial
  have hread := hcurrent err rfl
  rw [hphase] at hread
  rw [start_world.start, hphase]
  dsimp only
  have hunique := (track_client_ip_spec h.unique pair.mac pair.ip).1
  have hview := view_track_client_ip h.unique pair.mac pair.ip
  have herr := track_client_ip_err w.state.s_clients pair.mac pair.ip
  by_cases hfound : client_layout.lookup w.state.s_clients pair.mac = none
  · -- the station has left: the start fails
    rw [herr, if_pos hfound]
    exact backfilling_failed hunique h.truthful rfl (by decide)
  · rw [herr, if_neg hfound, if_neg (by decide)]
    refine ⟨hunique, h.truthful, ?_, ?_⟩
    · rintro ⟨⟩
    intro _ k
    -- the station that is written, and all others
    by_cases hk : k = pair.mac
    · subst hk
      left
      obtain ⟨entry, hentry⟩ := Option.ne_none_iff_exists'.mp hfound
      have hpresent : view w.state.s_clients pair.mac = some entry.ip := by
        rw [view, hentry]
        rfl
      have hwritten : view (track_client_ip w.state.s_clients pair.mac pair.ip).1 pair.mac
          = some pair.ip := by
        rw [hview, if_pos rfl, hpresent]
        rfl
      apply settled_written
      · exact h.truthful
      · exact hwritten
      -- a posted event of the station corrects what is written; without one the address read
      -- has to be the one the station has
      · by_cases hpending : Pending w.posted pair.mac
        · exact .inl hpending
        refine .inr ⟨h.station_there hregistered (by rw [hpresent]; rfl) hpending, ?_⟩
        · obtain hc | hzero | hip | hnone := hread
          · exact absurd hc hpending
          · exact .inl hzero
          · exact .inr hip
          · exact absurd hnone hfound
    · refine h.others hregistered rfl rfl ((hview k).trans (if_neg hk)) ?_ ?_
      · intro hcovers
        rw [hphase] at hcovers
        exact hcovers
      · intro rest hc
        rw [hphase] at hc
        injection hc with hpair
        exact hk (congrArg esp_netif_pair_mac_ip_t.mac hpair).symm

/-- **One step of the start.** -/
theorem Backfilling.start (h : Backfilling w) (err : esp_err_t)
    (hcurrent : Current w (.start err)) : Backfilling (w.start err) := by
  obtain ⟨air, posted, state, phase⟩ := w
  cases phase with
  | register => exact h.register rfl
  -- the stations that are not in the table are awaited from the list
  | get_sta_list =>
      rw [start_world.start]
      dsimp only
      split_ifs with herr hnobody
      · exact backfilling_failed h.unique h.truthful rfl herr
      · apply h.goes_on trivial _ (by simp)
        rintro k (⟨-, hconnected, -⟩ | ⟨client_pairs, hphase, -⟩)
        · rw [show air.stations = [] from hnobody] at hconnected
          cases hconnected
        · cases hphase
      · apply h.goes_on trivial _ (by simp)
        rintro k (⟨-, hconnected, hlink, habsent⟩ | ⟨client_pairs, hphase, -⟩)
        · exact .inr (.station hconnected hconnected hlink habsent)
        · cases hphase
  | get_clients_by_mac station_list =>
      rw [start_world.start]
      dsimp only
      split_ifs with herr
      · exact backfilling_failed h.unique h.truthful rfl herr
      · apply h.goes_on trivial _ (by simp)
        rintro k (⟨hcovers, hconnected, hlink, habsent⟩ | ⟨client_pairs, hphase, -⟩)
        · refine .inr (.station ?_ hconnected hlink habsent)
          change k ∈ (station_list.map _).map _
          rw [List.map_map]
          exact List.mem_map.mpr ⟨k, hcovers, rfl⟩
        · cases hphase
  -- a list that is used up awaits nobody any more
  | connected client_pairs =>
      rcases client_pairs with - | ⟨pair, client_pairs⟩
      · rw [start_world.start]
        apply h.goes_on trivial _ (by simp)
        rintro k (⟨hcovers, -⟩ | ⟨client_pairs, hphase, -⟩)
        · cases hcovers
        · cases hphase
      · exact h.connected rfl err hcurrent
  | address pair client_pairs => exact h.address rfl err hcurrent
  | returned returned_err => exact h

theorem Backfilling.step (h : Backfilling w) (e : start_step)
    (hstep : NotFull w e ∧ Current w e) : Backfilling (w.step e).1 := by
  rcases e with action | - | err
  · exact h.act action
  · exact h.deliver hstep.1
  · exact h.start err hstep.2

theorem backfilling_init (ESP_WIFI_MAX_CONN_NUM : ℕ) (air : softap_t) :
    Backfilling (.init ESP_WIFI_MAX_CONN_NUM air) := by
  have hdead : ∀ k, client_layout.lookup
      (client_access_init ESP_WIFI_MAX_CONN_NUM).s_clients k = none := by
    intro k
    apply List.find?_eq_none.mpr
    intro entry hmem
    obtain rfl := List.eq_of_mem_replicate hmem
    rw [Slots.Layout.holds_of_dead rfl]
    decide
  refine ⟨unique_init _, ?_, ?_, fun h => h.elim⟩
  · intro k later hlater hpending
    obtain rfl := List.suffix_nil.mp hlater
    obtain ⟨e, hmem, -⟩ := hpending
    cases hmem
  · intro _ k
    rw [view]
    exact congrArg (Option.map _) (hdead k)

end Steps

/-! ## Convergence -/

/-- A view of the table, read in the table. -/
theorem view_eq_some_iff {clients : client_table} (hu : client_layout.Unique clients)
    {k : mac_t} {ip : UInt32} :
    view clients k = some ip ↔
      ∃ entry ∈ clients, entry.in_use = true ∧ entry.mac = k ∧ entry.ip = ip := by
  constructor
  · intro h
    obtain ⟨entry, hl, hip⟩ := Option.map_eq_some_iff.mp h
    obtain ⟨hused, hmac⟩ := Slots.Layout.lookup_holds hl
    exact ⟨entry, List.mem_of_find?_eq_some hl, hused, hmac, hip⟩
  · rintro ⟨entry, hmem, hused, rfl, rfl⟩
    obtain ⟨i, hi⟩ := List.getElem?_of_mem hmem
    have hl : client_layout.lookup clients entry.mac = some entry :=
      Slots.Layout.lookup_of_live hu hi hused
    rw [view, hl]
    rfl

theorem Backfilling.converged {w : start_world} (h : Backfilling w) : Converged w := by
  intro hphase hposted
  -- with nothing posted, the replay of the events is the table itself
  have hsettled : ∀ k, Agrees (view w.state.s_clients k) (w.air.view k) := by
    intro k
    have hregistered : w.phase.Registered := by
      rw [hphase]
      rfl
    obtain hsettled | hawaited := h.table hregistered k
    · unfold Settled at hsettled
      rw [hposted] at hsettled
      exact hsettled
    · -- behind its return the start has nothing left to write
      rcases hawaited with ⟨hcovers, -⟩ | ⟨client_pairs, hc, -⟩
      · rw [hphase] at hcovers
        exact hcovers.elim
      · rw [hphase] at hc
        cases hc
  constructor
  · intro k
    have hk := hsettled k
    constructor
    · rintro ⟨entry, hmem, hused, hmac⟩
      by_contra hgone
      rw [softap_t.view, if_neg hgone] at hk
      rw [(view_eq_some_iff h.unique).mpr ⟨entry, hmem, hused, hmac, rfl⟩] at hk
      cases hk
    · intro hconnected
      rw [softap_t.view, if_pos hconnected] at hk
      obtain ⟨ip, hip, -⟩ := hk
      obtain ⟨entry, hmem, hused, hmac, -⟩ := (view_eq_some_iff h.unique).mp hip
      exact ⟨entry, hmem, hused, hmac⟩
  · intro k hconnected hassigned
    have hk := hsettled k
    rw [softap_t.view, if_pos hconnected] at hk
    obtain ⟨ip, hip, hsame⟩ := hk
    rw [hsame hassigned] at hip
    exact (view_eq_some_iff h.unique).mp hip

/-- **The backfill converges** in every run in which each write of the start uses reads that
are still current: in every state of the run, once the start has succeeded and what is
posted is handled, the table holds the connected stations and their addresses. -/
theorem backfill_converges (ESP_WIFI_MAX_CONN_NUM : ℕ) (air : softap_t)
    (inputs : List start_step)
    (hroom : Machine.AtEveryStep start_world.step (.init ESP_WIFI_MAX_CONN_NUM air) inputs
      NotFull)
    (hcurrent : Machine.AtEveryStep start_world.step (.init ESP_WIFI_MAX_CONN_NUM air) inputs
      Current) :
    ∀ before after, inputs = before ++ after →
      Converged (start_world.run (.init ESP_WIFI_MAX_CONN_NUM air) before) := by
  rintro before after rfl
  apply Backfilling.converged
  apply Machine.run_conditional (C := fun w e => NotFull w e ∧ Current w e)
  · exact fun w e h hstep => h.step e hstep
  · exact backfilling_init _ air
  · intro earlier e later hbefore
    have hinputs : before ++ after = earlier ++ e :: (later ++ after) := by
      rw [hbefore, List.append_assoc, List.cons_append]
    exact ⟨hroom earlier e _ hinputs, hcurrent earlier e _ hinputs⟩

/-- One station, with an address or without. -/
def sample_air (ip : UInt32) : softap_t := ⟨[sample_mac], fun _ => ip, fun _ => ip⟩

instance (posted : List softap_event) (k : mac_t) : Decidable (Pending posted k) :=
  inferInstanceAs (Decidable (∃ e ∈ posted, e.mac = k))

/-- `Current`, for a step of the start. -/
def current_start (w : start_world) : Bool :=
  match w.phase with
  | .connected (pair :: _) => Pending w.posted pair.mac ∨
      w.air.stations.any (fun station => station = pair.mac) ∧
        (w.air.assigned pair.mac = 0 ∨ w.air.assigned pair.mac = pair.ip)
  | .address pair _ => Pending w.posted pair.mac ∨ w.air.assigned pair.mac = 0 ∨
      w.air.assigned pair.mac = pair.ip ∨
      client_layout.lookup w.state.s_clients pair.mac = none
  | _ => true

theorem current_start_iff (w : start_world) (err : esp_err_t) :
    Current w (.start err) ↔ current_start w = true := by
  have hbody : Current w (.start err) ↔ _ := ⟨fun h => h err rfl, fun h _ _ => h⟩
  rw [hbody, current_start]
  cases w.phase with
  | connected client_pairs => cases client_pairs <;> simp
  | address pair client_pairs => simp
  | _ => simp

instance (w : start_world) : ∀ e, Decidable (Current w e)
  | .start err => decidable_of_iff' _ (current_start_iff w err)
  | .act action => isTrue fun err h => by cases h
  | .deliver => isTrue fun err h => by cases h

/-- `NotFull`, for a delivery. -/
def not_full (w : start_world) : Bool :=
  match w.posted with
  | .link (.AP_STACONNECTED mac) :: _ =>
      (track_connected_client w.state.s_clients mac).2 ≠ .ESP_ERR_NO_MEM
  | _ => true

theorem not_full_iff (w : start_world) : NotFull w .deliver ↔ not_full w = true := by
  have hbody : NotFull w .deliver ↔ _ := ⟨fun h mac posted => h mac posted rfl,
    fun h mac posted _ => h mac posted⟩
  rw [hbody, not_full]
  split
  · rename_i mac posted hposted
    simp [hposted]
  · rename_i hposted
    exact ⟨fun _ => rfl, fun _ mac posted h => absurd h (hposted mac posted)⟩

instance (w : start_world) : ∀ e, Decidable (NotFull w e)
  | .deliver => decidable_of_iff' _ (not_full_iff w)
  | .start err => isTrue fun mac posted h => by cases h
  | .act action => isTrue fun mac posted h => by cases h

/-- The start, disturbed behind its reads: another station connects and gets an address, its events
are handled between the writes, and the first station leaves when the start has written it, which
is handled at the end. -/
def sample_beside : List start_step :=
  List.replicate 3 (.start .ESP_OK) ++ [.act (.connect other_mac), .deliver, .start .ESP_OK,
    .act (.assign other_mac 0xC0A80403), .act (.disconnect sample_mac), .start .ESP_OK, .deliver,
    .start .ESP_OK, .deliver]

/-- The other station is in the table with its address, and the first is not any more. -/
theorem backfill_converges_sample :
    (start_world.run (.init 4 (sample_air 0xC0A80402)) sample_beside).phase = .returned .ESP_OK ∧
      (start_world.run (.init 4 (sample_air 0xC0A80402)) sample_beside).posted = [] ∧
      Converged (start_world.run (.init 4 (sample_air 0xC0A80402)) sample_beside) :=
  ⟨by decide, by decide, backfill_converges 4 (sample_air 0xC0A80402) sample_beside
    (by decide +kernel) (by decide +kernel) sample_beside [] (List.append_nil _).symm⟩

/-- The station leaves, or gets its address, between the reads and the writes, and the
handlers have seen it. -/
def sample_disturbed (action : softap_action) : List start_step :=
  List.replicate 3 (.start .ESP_OK) ++ [.act action, .deliver] ++
    List.replicate 3 (.start .ESP_OK)

/-- The start succeeds with a station in the table that has left, and with a connected
station whose address is lost. -/
theorem backfill_diverges :
    ¬ Converged (start_world.run (.init 4 (sample_air 0xC0A80402))
        (sample_disturbed (.disconnect sample_mac))) ∧
      ¬ Converged (start_world.run (.init 4 (sample_air 0))
        (sample_disturbed (.assign sample_mac 0xC0A80402))) := by
  constructor
  · intro hconverged
    have hmacs := (hconverged (by decide) (by decide)).1 sample_mac
    have hstations : (start_world.run (.init 4 (sample_air 0xC0A80402))
        (sample_disturbed (.disconnect sample_mac))).air.stations = [] := by decide
    have hused : ∃ entry ∈ (start_world.run (.init 4 (sample_air 0xC0A80402))
        (sample_disturbed (.disconnect sample_mac))).state.s_clients,
          entry.in_use = true ∧ entry.mac = sample_mac := by
      decide
    rw [hstations] at hmacs
    exact absurd (hmacs.mp hused) (by simp)
  · intro hconverged
    obtain ⟨entry, hmem, hused, -, hip⟩ :=
      (hconverged (by decide) (by decide)).2 sample_mac (by decide)
        (by decide)
    revert entry
    decide

end WifiManager.ClientAccess
