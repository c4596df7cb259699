/-
Who gets to the Internet.

A client is let through while a session of it is in force, and sessions come from messages alone:
`authority` says of every run of the firmware that a session is in force behind it if and only if
a complete ALLOW has given it to the connected client and nothing has ended it since. What ends it
is a link event of the client, another ALLOW for it, a REVOKE_ACCESS that names it, a restart, or a
look at a clock by which it is over. `internet_access` is what follows for the next packet.
-/
import WifiManager.ClientAccess.Authority
import WifiManager.ClientAccess.Isolation
import WifiManager.Main.Blocking

set_option autoImplicit false

namespace WifiManager.Main

open WifiManager.Lib WifiManager.AppCommand WifiManager.AppStorage WifiManager.AppMqtt
  WifiManager.ClientAccess WifiManager.AccessFilter

/-! ## Steps that matter -/

section Steps

variable (env : command_env) (firmware : firmware_t) (mac : mac_t)

/-- An ALLOW for the client, and the session that it makes. -/
def firmware_t.Allows (session : session_t) (input : firmware_input) : Prop :=
  ∃ calls request, firmware.Requests env input calls request ∧ request.type = .ALLOW ∧
    named_client (some request.mac) request.session_id = some mac ∧
    session = .made env.configTICK_RATE_HZ calls.now request.session_id
      (UInt32.ofInt request.ttl_seconds)

/-- A REVOKE_ACCESS for the client and the session. -/
def firmware_t.Revokes (session : session_t) (input : firmware_input) : Prop :=
  ∃ calls request, firmware.Requests env input calls request ∧ request.type = .REVOKE_ACCESS ∧
    named_client (some request.mac) request.session_id = some mac ∧
    request.session_id = session.session_id

/-- What ends a session of the client, whatever the time is. -/
inductive firmware_t.Ends (session : session_t) : firmware_input → Prop
  | restarts {input : firmware_input} (h : firmware.Restarts env input) : Ends session input
  | connects : Ends session (.wifi_ap_event (.AP_STACONNECTED mac))
  | disconnects : Ends session (.wifi_ap_event (.AP_STADISCONNECTED mac))
  | allows {session' : session_t} {input : firmware_input}
      (h : firmware.Allows env mac session' input) : Ends session input
  | revokes {input : firmware_input} (h : firmware.Revokes env mac session input) :
      Ends session input

/-- What sees that a session of the client is over: the scan, a DNS request of the client, or a
packet of the client that is filtered and whose destination is not blocked. -/
inductive firmware_t.Expires (session : session_t) : firmware_input → Prop
  | scan {sampled : UInt32} (hover : session.Over sampled) : Expires session (.expire_check sampled)
  | asks {now source_ip : UInt32} {entry : client_access_entry_t}
      (hholder : holder firmware.device.gateway.access.s_clients source_ip = some entry)
      (hmac : entry.mac = mac) (hover : session.Over now) :
      Expires session (.dns_request now source_ip)
  | sends {now now_ms : UInt32} {packet : pbuf} {softap : netif} {entry : client_access_entry_t}
      (hfiltered : Filtered env.lwip firmware.device.gateway.filter packet softap)
      (hblocked : is_destination_ipv4_blocked firmware.device.gateway.filter
        packet.ip_header.dest = false)
      (hholder : holder firmware.device.gateway.access.s_clients packet.ip_header.src = some entry)
      (hmac : entry.mac = mac) (hover : session.Over now) :
      Expires session (.packet now now_ms (some packet) (some softap))

end Steps

/-! ## One step -/

section OneStep

variable {env : command_env} {firmware : firmware_t} {mac : mac_t} {session : session_t}

theorem not_allows {input : firmware_input} (h : firmware.command input = none) :
    ¬ firmware.Allows env mac session input := by
  rintro ⟨calls, request, hrequest, -⟩
  exact requests_command hrequest h

theorem not_revokes {input : firmware_input} (h : firmware.command input = none) :
    ¬ firmware.Revokes env mac session input := by
  rintro ⟨calls, request, hrequest, -⟩
  exact requests_command hrequest h

/-- An ALLOW is followed by no start. -/
theorem allows_not_restarts {input : firmware_input} (h : firmware.Allows env mac session input) :
    ¬ firmware.Restarts env input := by
  obtain ⟨calls, request, hrequest, htype, -⟩ := h
  refine requests_not_restarts hrequest ?_ ?_
  · rw [htype]
    decide
  · rw [htype]
    decide

variable {ESP_WIFI_MAX_CONN_NUM : ℕ}

/-- A step behind which nothing of the clients is left. -/
theorem not_in_force_start {input : firmware_input} (h : firmware.Restarts env input) :
    ¬ InForce (firmware.step env ESP_WIFI_MAX_CONN_NUM input).1.device.gateway.access.s_clients mac
      session := by
  rw [step_restarts h]
  exact not_in_force_absent (lookup_init ESP_WIFI_MAX_CONN_NUM mac)

section Messages

variable {input : firmware_input} {calls : command_calls} {request : app_command_request_t}
  (hrequest : firmware.Requests env input calls request)
include hrequest

theorem allows_iff :
    firmware.Allows env mac session input ↔ request.type = .ALLOW ∧
      named_client (some request.mac) request.session_id = some mac ∧
      session = .made env.configTICK_RATE_HZ calls.now request.session_id
        (UInt32.ofInt request.ttl_seconds) := by
  constructor
  · rintro ⟨calls', request', hrequest', hallow⟩
    obtain ⟨rfl, rfl⟩ := requests_unique hrequest hrequest'
    exact hallow
  · exact fun hallow => ⟨calls, request, hrequest, hallow⟩

theorem revokes_iff :
    firmware.Revokes env mac session input ↔ request.type = .REVOKE_ACCESS ∧
      named_client (some request.mac) request.session_id = some mac ∧
      request.session_id = session.session_id := by
  constructor
  · rintro ⟨calls', request', hrequest', hrevoke⟩
    obtain ⟨rfl, rfl⟩ := requests_unique hrequest hrequest'
    exact hrevoke
  · exact fun hrevoke => ⟨calls, request, hrequest, hrevoke⟩

/-- What a message that is followed by no start may end. -/
theorem ends_iff (hgoes : ¬ firmware.Restarts env input) :
    firmware.Ends env mac session input ↔
      (request.type = .ALLOW ∧ named_client (some request.mac) request.session_id = some mac) ∨
        firmware.Revokes env mac session input := by
  constructor
  · rintro (hrestarts | - | - | hallow | hrevoke)
    · exact absurd hrestarts hgoes
    · exact absurd rfl (requests_command hrequest)
    · exact absurd rfl (requests_command hrequest)
    · exact .inl ⟨((allows_iff hrequest).mp hallow).1, ((allows_iff hrequest).mp hallow).2.1⟩
    · exact .inr hrevoke
  · rintro (⟨htype, hnamed⟩ | hrevoke)
    · exact .allows ((allows_iff hrequest).mpr ⟨htype, hnamed, rfl⟩)
    · exact .revokes hrevoke

/-- **A message** that is accepted. -/
theorem in_force_accepted (hu : client_layout.Unique firmware.device.gateway.access.s_clients)
    (hgoes : ¬ firmware.Restarts env input) :
    InForce (Machine.run (gateway_t.step env.lwip env.configTICK_RATE_HZ) firmware.device.gateway
        (command_input calls.now request).toList).access.s_clients mac session ↔
      firmware.Allows env mac session input ∧
          (client_layout.lookup firmware.device.gateway.access.s_clients mac).isSome = true ∨
        InForce firmware.device.gateway.access.s_clients mac session ∧
          ¬ firmware.Ends env mac session input := by
  rw [ends_iff hrequest hgoes, revokes_iff hrequest, allows_iff hrequest, command_input]
  cases htype : request.type with
  | ALLOW =>
      simp only [reduceCtorEq, true_and, false_and, or_false]
      exact in_force_authorize hu calls.now (some request.mac) request.session_id
        (UInt32.ofInt request.ttl_seconds)
  | REVOKE_ACCESS =>
      simp only [reduceCtorEq, true_and, false_and, false_or]
      exact in_force_revoke hu (some request.mac) request.session_id
  | _ =>
      simp only [reduceCtorEq, false_and, or_self, not_false_eq_true, and_true, false_or]
      exact Iff.rfl

end Messages

/-- A message expires nothing. -/
theorem not_expires {input : firmware_input} (h : firmware.command input ≠ none) :
    ¬ firmware.Expires env mac session input := by
  rintro (- | - | -)
  all_goals exact h rfl

/-- What ends a session where there is no message. -/
theorem quiet_ends_iff {input : firmware_input} (hquiet : firmware.command input = none)
    (hgoes : ¬ firmware.Restarts env input) :
    firmware.Ends env mac session input ↔
      input = .wifi_ap_event (.AP_STACONNECTED mac) ∨
        input = .wifi_ap_event (.AP_STADISCONNECTED mac) := by
  constructor
  · rintro (hrestarts | - | - | hallow | hrevoke)
    · exact absurd hrestarts hgoes
    · exact .inl rfl
    · exact .inr rfl
    · exact absurd hallow (not_allows hquiet)
    · exact absurd hrevoke (not_revokes hquiet)
  · rintro (rfl | rfl)
    · exact .connects
    · exact .disconnects

/-- The hook asks for the source of a packet that is filtered and whose destination is not
blocked. -/
theorem ip4_input_clients {lwip : lwip_t} {filter : access_filter_t} {packet : pbuf}
    {softap : netif} (h : Filtered lwip filter packet softap) (now now_ms : UInt32)
    (s_clients : client_table) :
    (access_filter_lwip_ip4_input lwip now now_ms filter s_clients (some packet)
        (some softap)).s_clients
      = if is_destination_ipv4_blocked filter packet.ip_header.dest = true then s_clients
        else (client_access_can_forward_ipv4 s_clients now packet.ip_header.src).1 := by
  rw [ip4_input_filtered h]
  by_cases hblocked : is_destination_ipv4_blocked filter packet.ip_header.dest = true
  · rw [if_pos hblocked, if_pos hblocked]
  · rw [if_neg hblocked, if_neg hblocked]
    rcases client_access_can_forward_ipv4 s_clients now packet.ip_header.src with
      ⟨clients, can_forward⟩
    dsimp only
    split_ifs <;> rfl

/-- **A packet** ends only what it sees to be over. -/
theorem in_force_packet (hu : client_layout.Unique firmware.device.gateway.access.s_clients)
    (now now_ms : UInt32) (packet : Option pbuf) (input_netif : Option netif) :
    InForce (access_filter_lwip_ip4_input env.lwip now now_ms firmware.device.gateway.filter
        firmware.device.gateway.access.s_clients packet input_netif).s_clients mac session ↔
      InForce firmware.device.gateway.access.s_clients mac session ∧
        ¬ firmware.Expires env mac session (.packet now now_ms packet input_netif) := by
  by_cases hfiltered : ∃ p softap, packet = some p ∧ input_netif = some softap ∧
      Filtered env.lwip firmware.device.gateway.filter p softap
  swap
  · have hseen : ¬ firmware.Expires env mac session (.packet now now_ms packet input_netif) := by
      rintro (- | - | h)
      exact hfiltered ⟨_, _, rfl, rfl, h⟩
    push Not at hfiltered
    rw [ip4_input_not_filtered env.lwip hfiltered]
    exact (and_iff_left hseen).symm
  obtain ⟨p, softap, rfl, rfl, h⟩ := hfiltered
  rw [ip4_input_clients h]
  by_cases hblocked : is_destination_ipv4_blocked firmware.device.gateway.filter p.ip_header.dest
      = true
  · rw [if_pos hblocked]
    refine (and_iff_left ?_).symm
    rintro (- | - | ⟨-, hclear⟩)
    rw [hblocked] at hclear
    cases hclear
  · rw [if_neg hblocked, in_force_can_forward hu now p.ip_header.src]
    refine and_congr_right fun _ => not_congr ⟨?_, ?_⟩
    · rintro ⟨⟨entry, hholder, hmac⟩, hover⟩
      exact .sends h (Bool.not_eq_true _ ▸ hblocked) hholder hmac hover
    · rintro (- | - | ⟨-, -, hholder, hmac, hover⟩)
      exact ⟨⟨_, hholder, hmac⟩, hover⟩

/-- **An event** that is no message. -/
theorem in_force_quiet (hu : client_layout.Unique firmware.device.gateway.access.s_clients)
    {input : firmware_input} (hquiet : firmware.command input = none)
    (hgoes : ¬ firmware.Restarts env input) :
    InForce (firmware.step env ESP_WIFI_MAX_CONN_NUM input).1.device.gateway.access.s_clients mac
        session ↔
      InForce firmware.device.gateway.access.s_clients mac session ∧
        ¬ firmware.Ends env mac session input ∧ ¬ firmware.Expires env mac session input := by
  rw [quiet_ends_iff hquiet hgoes]
  cases input with
  | mqtt_data event calls =>
      rw [step_no_command hquiet, and_iff_left ⟨by simp, by rintro ⟨⟩⟩]
  | power_loss => exact absurd (.inl rfl) hgoes
  | wifi_ap_event event =>
      have hseen : ¬ firmware.Expires env mac session (.wifi_ap_event event) := by
        rintro ⟨⟩
      cases event with
      | AP_STACONNECTED connected =>
          simp only [hseen, not_false_eq_true, and_true, firmware_input.wifi_ap_event.injEq,
            wifi_ap_event.AP_STACONNECTED.injEq, reduceCtorEq, or_false]
          exact in_force_connected hu connected
      | AP_STADISCONNECTED disconnected =>
          simp only [hseen, not_false_eq_true, and_true, firmware_input.wifi_ap_event.injEq,
            wifi_ap_event.AP_STADISCONNECTED.injEq, reduceCtorEq, false_or]
          exact in_force_disconnected hu disconnected
  | ip_assigned target ip =>
      rw [and_iff_left ⟨by simp, by rintro ⟨⟩⟩]
      exact in_force_track_client_ip hu target ip
  | portal_request arp source_ip =>
      rw [and_iff_left ⟨by simp, by rintro ⟨⟩⟩]
      have hset : ∀ target access, client_call.client_access_get_snapshot_by_ipv4 arp source_ip
          ≠ .client_access_set_state target access := by rintro _ _ ⟨⟩
      have hstep := in_force_step hu 0 env.configTICK_RATE_HZ mac session hset
      simp only [client_call.Grants, client_call.Ends, client_call.Expires, false_and, false_or,
        not_false_eq_true, and_true] at hstep
      exact hstep
  | dns_request now source_ip =>
      have hseen : firmware.Expires env mac session (.dns_request now source_ip) ↔
          (∃ entry, holder firmware.device.gateway.access.s_clients source_ip = some entry ∧
            entry.mac = mac) ∧ session.Over now := by
        constructor
        · rintro (- | ⟨hholder, hmac, hover⟩ | -)
          exact ⟨⟨_, hholder, hmac⟩, hover⟩
        · rintro ⟨⟨_, hholder, hmac⟩, hover⟩
          exact .asks hholder hmac hover
      simp only [hseen, reduceCtorEq, or_self, not_false_eq_true, true_and]
      exact in_force_can_forward hu now source_ip
  | expire_check sampled =>
      have hseen : firmware.Expires env mac session (.expire_check sampled) ↔
          session.Over sampled := by
        constructor
        · rintro (hover | - | -)
          exact hover
        · exact .scan
      simp only [hseen, reduceCtorEq, or_self, not_false_eq_true, true_and]
      have hset : ∀ target access, client_call.client_access_expire_check sampled
          ≠ .client_access_set_state target access := by rintro _ _ ⟨⟩
      have hstep := in_force_step hu sampled env.configTICK_RATE_HZ mac session hset
      simp only [client_call.Grants, client_call.Ends, client_call.Expires, false_and, false_or,
        not_false_eq_true, true_and] at hstep
      exact hstep
  | update_rssi station_list =>
      rw [and_iff_left ⟨by simp, by rintro ⟨⟩⟩]
      cases station_list with
      | error err => exact Iff.rfl
      | ok stations =>
          refine in_force_moved ((client_access_update_rssi_all_spec hu stations).2 mac) ?_
          exact fun entry => ⟨fun h => ⟨h.state, h.session⟩, fun h => ⟨h.state, h.session⟩⟩
  | access_filter_start wifi_ap_def portal_server_ipv4 =>
      rw [and_iff_left ⟨by simp, by rintro ⟨⟩⟩]
      exact Iff.rfl
  | packet now now_ms received input_netif =>
      simp only [reduceCtorEq, or_self, not_false_eq_true, true_and]
      exact in_force_packet hu now now_ms received input_netif

/-- **One step** of the firmware: a session is in force behind it if and only if it gives it to the
connected client, or it was in force and the step neither ends it nor sees that it is over. -/
theorem in_force_firmware_step
    (hu : client_layout.Unique firmware.device.gateway.access.s_clients)
    (input : firmware_input) :
    InForce (firmware.step env ESP_WIFI_MAX_CONN_NUM input).1.device.gateway.access.s_clients mac
        session ↔
      firmware.Allows env mac session input ∧
          (client_layout.lookup firmware.device.gateway.access.s_clients mac).isSome = true ∨
        InForce firmware.device.gateway.access.s_clients mac session ∧
          ¬ firmware.Ends env mac session input ∧ ¬ firmware.Expires env mac session input := by
  by_cases hgoes : firmware.Restarts env input
  · refine iff_of_false (not_in_force_start hgoes) ?_
    rintro (⟨hallow, -⟩ | ⟨-, hends, -⟩)
    · exact allows_not_restarts hallow hgoes
    · exact hends (.restarts hgoes)
  by_cases hquiet : firmware.command input = none
  · rw [in_force_quiet hu hquiet hgoes, or_iff_right fun h => not_allows hquiet h.1]
  rw [and_iff_left (b := ¬ firmware.Expires env mac session input) (not_expires hquiet)]
  rcases step_gateway ESP_WIFI_MAX_CONN_NUM hgoes with
    hcall | ⟨station_list, rfl, -⟩
  swap
  · exact absurd rfl hquiet
  rw [hcall]
  by_cases hrequest : ∃ calls request, firmware.Requests env input calls request
  · obtain ⟨calls, request, hrequest⟩ := hrequest
    rw [gateway_call_accepted hrequest]
    exact in_force_accepted hrequest hu hgoes
  · -- a message that is refused does nothing, and gives and ends nothing
    push Not at hrequest
    have hnothing : ¬ firmware.Ends env mac session input := by
      rintro (hrestarts | - | - | ⟨calls, request, h, -⟩ | ⟨calls, request, h, -⟩)
      · exact hgoes hrestarts
      · exact hquiet rfl
      · exact hquiet rfl
      · exact hrequest calls request h
      · exact hrequest calls request h
    have hgives : ¬ firmware.Allows env mac session input := by
      rintro ⟨calls, request, h, -⟩
      exact hrequest calls request h
    rw [gateway_call_refused hquiet hrequest, or_iff_right fun h => hgives h.1,
      and_iff_left hnothing]
    exact Iff.rfl

end OneStep

/-! ## Every run -/

section Runs

variable (env : command_env) (ESP_WIFI_MAX_CONN_NUM : ℕ) (content : nvs_content)
  (inputs : List firmware_input)

/-- The run has allowed the client the session, and has neither ended it since nor seen that it is
over. -/
def AllowedSince (mac : mac_t) (session : session_t) : Prop :=
  ∃ before input after, inputs = before ++ input :: after ∧
    ((firmware_t.after env ESP_WIFI_MAX_CONN_NUM content before).Allows env mac session input ∧
      (client_layout.lookup (firmware_t.after env ESP_WIFI_MAX_CONN_NUM content
        before).device.gateway.access.s_clients mac).isSome = true) ∧
    Machine.AtEveryStep (firmware_t.step env ESP_WIFI_MAX_CONN_NUM)
      (firmware_t.after env ESP_WIFI_MAX_CONN_NUM content (before ++ [input])) after
      fun firmware input => ¬ firmware.Ends env mac session input ∧
        ¬ firmware.Expires env mac session input

/-- A session is in force exactly since it was allowed. -/
theorem in_force_since (mac : mac_t) (session : session_t) :
    InForce (firmware_t.after env ESP_WIFI_MAX_CONN_NUM content
        inputs).device.gateway.access.s_clients mac session ↔
      AllowedSince env ESP_WIFI_MAX_CONN_NUM content inputs mac session :=
  Machine.since_iff
    (I := fun firmware : firmware_t =>
      client_layout.Unique firmware.device.gateway.access.s_clients)
    (J := fun firmware : firmware_t =>
      InForce firmware.device.gateway.access.s_clients mac session)
    (unique_firmware_step env ESP_WIFI_MAX_CONN_NUM)
    (fun _ input hu => in_force_firmware_step hu input) (unique_init ESP_WIFI_MAX_CONN_NUM)
    (not_in_force_absent (lookup_init ESP_WIFI_MAX_CONN_NUM mac)) inputs

/-- **Authority.** Behind every run of the firmware the authorized entries of the table are those of
the clients that an ALLOW has given a session which nothing has ended, each with that session. -/
theorem authority :
    (∀ entry ∈ (firmware_t.after env ESP_WIFI_MAX_CONN_NUM content
          inputs).device.gateway.access.s_clients,
        entry.in_use = true → entry.state = .AUTHORIZED →
          AllowedSince env ESP_WIFI_MAX_CONN_NUM content inputs entry.mac entry.session) ∧
      ∀ mac session, AllowedSince env ESP_WIFI_MAX_CONN_NUM content inputs mac session →
        ∃ entry ∈ (firmware_t.after env ESP_WIFI_MAX_CONN_NUM content
            inputs).device.gateway.access.s_clients,
          entry.in_use = true ∧ entry.mac = mac ∧ entry.state = .AUTHORIZED ∧
            entry.session = session := by
  have hu := unique_firmware env ESP_WIFI_MAX_CONN_NUM content inputs
  constructor
  · intro entry hentry hlive hstate
    obtain ⟨i, hi⟩ := List.mem_iff_getElem?.mp hentry
    rw [← in_force_since]
    exact ⟨entry, Slots.Layout.lookup_of_live hu hi hlive, hstate, rfl⟩
  · intro mac session hallowed
    obtain ⟨entry, hentry, hsession⟩ :=
      (in_force_since env ESP_WIFI_MAX_CONN_NUM content inputs mac session).mpr hallowed
    obtain ⟨hlive, hmac⟩ := Slots.Layout.lookup_holds hentry
    exact ⟨entry, List.mem_of_find?_eq_some hentry, hlive, hmac, hsession.state, hsession.session⟩

/-- **Access to the Internet.** Behind every run, a packet that is filtered gets through if and
only if no message has blocked its destination since the last start, it passes the inspection where
a message has blocked a host since then, and the client that answers for its source has been
allowed a session, by a message, that nothing has ended and that is not over. -/
theorem internet_access (now now_ms : UInt32) (packet : pbuf) (softap : netif)
    (h : Filtered env.lwip (firmware_t.after env ESP_WIFI_MAX_CONN_NUM content
      inputs).device.gateway.filter packet softap) :
    let gateway := (firmware_t.after env ESP_WIFI_MAX_CONN_NUM content inputs).device.gateway
    (access_filter_lwip_ip4_input env.lwip now now_ms gateway.filter gateway.access.s_clients
        (some packet) (some softap)).value = 0 ↔
      ¬ BlockedSince env ESP_WIFI_MAX_CONN_NUM content inputs packet.ip_header.dest ∧
        ((∃ hostname, HostBlockedSince env ESP_WIFI_MAX_CONN_NUM content inputs hostname) →
          packet.Inspected env.lwip gateway.filter now_ms) ∧
        ∃ entry session, holder gateway.access.s_clients packet.ip_header.src = some entry ∧
          AllowedSince env ESP_WIFI_MAX_CONN_NUM content inputs entry.mac session ∧
          ¬ session.Over now := by
  intro gateway
  have hu := unique_firmware env ESP_WIFI_MAX_CONN_NUM content inputs
  have hdestinations := destination_since env ESP_WIFI_MAX_CONN_NUM content inputs
  have hhosts := hostname_since env ESP_WIFI_MAX_CONN_NUM content inputs
  have hrules : has_hostname_rules gateway.filter = true ↔
      ∃ hostname, HostBlockedSince env ESP_WIFI_MAX_CONN_NUM content inputs hostname := by
    rw [has_hostname_rules, decide_eq_true_eq, gt_iff_lt, List.length_pos_iff_exists_mem]
    exact exists_congr hhosts
  rw [ip4_input_eq_zero_iff h, can_forward_iff_in_force hu, ← hrules, ← hdestinations,
    Bool.not_eq_true]
  simp only [in_force_since]
  exact and_congr_right fun _ => and_comm

end Runs

/-! A client that connects, gets an address, and is allowed an hour by one message at tick 5. -/

def sample_env : command_env where
  lwip := lwip_documented
  cJSON_ParseWithOpts := fun _ => none
  esp_err_to_name := fun _ => c_str "ESP_FAIL"
  configTICK_RATE_HZ := 100
  DEVICE_CODE := c_str "node-1"

def sample_driver : WifiGateway.sta_driver_t where
  esp_wifi_ap_get_sta_aid := fun _ => .error .ESP_FAIL
  esp_wifi_deauth_sta := fun _ => .ESP_OK
  aid_error := by
    rintro mac err ⟨⟩
    decide

def sample_calls (now : UInt32) : command_calls where
  now := now
  driver := sample_driver
  publish_device_status := .ESP_OK
  faults := []

/-- The message in one fragment. -/
def sample_allow_event : esp_mqtt_event_t where
  topic := some sample_topic
  topic_len := 27
  data := some (sample_payload "3600")
  data_len := 59
  total_data_len := 59
  current_data_offset := 0
  topic_readable := by decide
  topic_text := by decide
  data_readable := by decide
  data_len_lt := by decide

def sample_inputs : List firmware_input :=
  [.access_filter_start (some ⟨0⟩) none, .wifi_ap_event (.AP_STACONNECTED sample_mac),
    .ip_assigned sample_mac 0xC0A80402, .mqtt_data (some sample_allow_event) (sample_calls 5)]

theorem internet_access_allowed :
    ∃ entry session, holder (firmware_t.after sample_env 4 empty_content
        sample_inputs).device.gateway.access.s_clients syn_packet.ip_header.src = some entry ∧
      AllowedSince sample_env 4 empty_content sample_inputs entry.mac session ∧
      ¬ session.Over 30 := by
  have hfiltered : Filtered sample_env.lwip (firmware_t.after sample_env 4 empty_content
      sample_inputs).device.gateway.filter syn_packet ⟨0⟩ :=
    ⟨by decide +kernel, syn_header_checked, by decide +kernel⟩
  exact ((internet_access sample_env 4 empty_content sample_inputs 30 30 syn_packet ⟨0⟩
    hfiltered).mp (by decide +kernel)).2.2

end WifiManager.Main
