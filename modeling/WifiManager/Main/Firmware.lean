/-
The firmware from its start on.

Between two starts the tasks share the message that is being received, the clients and the
filter; only the flash outlives a restart. One step is an MQTT event together with the command
it may complete, an event or a call about the clients, a request to the portal or to its DNS
server, a packet of lwIP, or a loss of power.
The clients that are there when `client_access` is started come as steps of their own.

1. `firmware_t.step`, which keeps the buffers of `handle_mqtt_data`. Its behaviour is defined
   in every run, and which messages it hands to the dispatcher is known from the events alone
   (`firmware_inbox`).
2. What one step can do to the clients, the filter and the flash (`step_gateway`).
3. Every complete message is answered, in order, and a success that is reported is the truth.
-/
import WifiManager.AppMqtt.Incoming
import WifiManager.ClientAccess.Disconnects
import WifiManager.Main.Commands

set_option autoImplicit false

namespace WifiManager.Main

open WifiManager.Lib WifiManager.AppCommand WifiManager.AppStorage WifiManager.AppMqtt
  WifiManager.ClientAccess WifiManager.AccessFilter

/-! ## The machine -/

/-- What the tasks share. -/
structure firmware_t where
  mqtt : app_mqtt_t
  device : device_t

/-- What can happen. -/
inductive firmware_input
  | mqtt_data (event : Option esp_mqtt_event_t) (calls : command_calls)
  | wifi_ap_event (event : wifi_ap_event)
  | ip_assigned (mac : mac_t) (ip : UInt32)
  | portal_request (arp : softap_arp_t) (source_ip : UInt32)
  | dns_request (now source_ip : UInt32)
  | expire_check (sampled : UInt32)
  | update_rssi (station_list : Except esp_err_t (List wifi_sta_info_t))
  | access_filter_start (wifi_ap_def : Option netif) (portal_server_ipv4 : Option c_string)
  | packet (now now_ms : UInt32) (packet : Option pbuf) (input_netif : Option netif)
  | power_loss

/-- What comes of it: a message that was handled, with its effects, or the value of the hook. -/
inductive firmware_output
  | undefined
  | handled (calls : command_calls) (command : mqtt_command_t) (effects : List command_effect)
  | value (value : ℕ)

section Step

variable (env : command_env) (ESP_WIFI_MAX_CONN_NUM : ℕ)

/-- The clients and the filter behind a start. -/
def gateway_start : gateway_t := { access := client_access_init ESP_WIFI_MAX_CONN_NUM }

/-- Behind a start: of what there was, the flash is left. -/
def firmware_start (content : nvs_content) : firmware_t :=
  ⟨{}, gateway_start ESP_WIFI_MAX_CONN_NUM, content⟩

/-- Effects behind which the firmware starts again. -/
def restarts (effects : List command_effect) : Bool :=
  .esp_restart ∈ effects ∨ .power_loss ∈ effects

/-- The call that an input makes to the clients or the filter, if it is no message. -/
def firmware_input.gateway_input : firmware_input → Option gateway_input
  -- an authorization, a packet and a DNS request read the tick count themselves
  | .wifi_ap_event event => some (.client 0 (client_access_event_handler event))
  | .ip_assigned mac ip => some (.client 0 (.track_client_ip mac ip))
  | .portal_request arp source_ip =>
      some (.client 0 (.client_access_get_snapshot_by_ipv4 arp source_ip))
  | .dns_request now source_ip => some (.client now (.client_access_can_forward_ipv4 source_ip))
  | .expire_check sampled => some (.client sampled (.client_access_expire_check sampled))
  | .access_filter_start wifi_ap_def portal_server_ipv4 =>
      some (.start wifi_ap_def portal_server_ipv4)
  | .packet now now_ms received input_netif => some (.packet now now_ms received input_netif)
  | _ => none

/-- A step of `client_access` or of the filter. -/
def device_t.gateway_step (device : device_t) (input : gateway_input) :
    device_t × gateway_output :=
  let (gateway, output) := device.gateway.step env.lwip env.configTICK_RATE_HZ input
  ({ device with gateway := gateway }, output)

/-- The value of the hook. -/
def hook_value : gateway_output → Option firmware_output
  | .value value => some (.value value)
  | _ => none

/-- One step of the firmware. -/
def firmware_t.step (firmware : firmware_t) (input : firmware_input) :
    firmware_t × Option firmware_output :=
  match input with
  | .mqtt_data event calls =>
      match handle_mqtt_data true firmware.mqtt event with
      | none => (firmware, some .undefined)
      | some (mqtt, none) => ({ firmware with mqtt := mqtt }, none)
      | some (mqtt, some command) =>
          let (device, effects) := handle_mqtt_command env calls firmware.device
            (some command.topic) (some command.payload)
          (if restarts effects = true then firmware_start ESP_WIFI_MAX_CONN_NUM device.content
            else ⟨mqtt, device⟩,
            some (.handled calls command effects))
  | .update_rssi station_list =>
      let (clients, _) := client_access_update_rssi_all
        firmware.device.gateway.access.s_clients station_list
      ({ firmware with device.gateway.access.s_clients := clients }, none)
  | .power_loss => (firmware_start ESP_WIFI_MAX_CONN_NUM firmware.device.content, none)
  | input =>
      match input.gateway_input with
      | some input =>
          let (device, output) := firmware.device.gateway_step env input
          ({ firmware with device := device }, hook_value output)
      | none => (firmware, none)

/-- The firmware after a run that begins with a start. -/
abbrev firmware_t.after (content : nvs_content) (inputs : List firmware_input) : firmware_t :=
  Machine.run (firmware_t.step env ESP_WIFI_MAX_CONN_NUM)
    (firmware_start ESP_WIFI_MAX_CONN_NUM content) inputs

end Step

/-! ## What one step does -/

section OneStep

variable (env : command_env) {ESP_WIFI_MAX_CONN_NUM : ℕ} {firmware : firmware_t}

/-- The message that an input completes, and what the calls of its command meet. -/
def firmware_t.command (firmware : firmware_t) :
    firmware_input → Option (command_calls × mqtt_command_t)
  | .mqtt_data event calls => do
      let (_, command) ← handle_mqtt_data true firmware.mqtt event
      return (calls, ← command)
  | _ => none

/-- The effects of a message. -/
def firmware_t.effects (firmware : firmware_t) (calls : command_calls)
    (command : mqtt_command_t) : List command_effect :=
  (handle_mqtt_command env calls firmware.device (some command.topic) (some command.payload)).2

/-- A step behind which the firmware starts again. -/
def firmware_t.Restarts (firmware : firmware_t) (input : firmware_input) : Prop :=
  input = .power_loss ∨ ∃ calls command, firmware.command input = some (calls, command) ∧
    restarts (firmware.effects env calls command) = true

/-- The call that a step makes to the clients or the filter. -/
def firmware_t.gateway_call (firmware : firmware_t) (input : firmware_input) :
    Option gateway_input :=
  match firmware.command input with
  | some (calls, command) =>
      message_input env calls.now (some command.topic) (some command.payload)
  | none => input.gateway_input

variable {env}

/-- A message: its command is executed, and behind some effects the firmware starts again. -/
theorem step_complete {event : Option esp_mqtt_event_t} {calls : command_calls}
    {mqtt : app_mqtt_t} {command : mqtt_command_t}
    (h : handle_mqtt_data true firmware.mqtt event = some (mqtt, some command)) :
    firmware.step env ESP_WIFI_MAX_CONN_NUM (.mqtt_data event calls)
      = (if restarts (firmware.effects env calls command) = true then
            firmware_start ESP_WIFI_MAX_CONN_NUM (handle_mqtt_command env calls firmware.device
              (some command.topic) (some command.payload)).1.content
          else ⟨mqtt, (handle_mqtt_command env calls firmware.device (some command.topic)
            (some command.payload)).1⟩,
        some (.handled calls command (firmware.effects env calls command))) := by
  rw [firmware_t.step, h]
  rfl

theorem step_command (env : command_env) (ESP_WIFI_MAX_CONN_NUM : ℕ)
    {input : firmware_input} {calls : command_calls} {command : mqtt_command_t}
    (h : firmware.command input = some (calls, command)) :
    ∃ mqtt, firmware.step env ESP_WIFI_MAX_CONN_NUM input
      = (if restarts (firmware.effects env calls command) = true then
            firmware_start ESP_WIFI_MAX_CONN_NUM (handle_mqtt_command env calls firmware.device
              (some command.topic) (some command.payload)).1.content
          else ⟨mqtt, (handle_mqtt_command env calls firmware.device (some command.topic)
            (some command.payload)).1⟩,
        some (.handled calls command (firmware.effects env calls command))) := by
  cases input with
  | mqtt_data event calls' =>
      rw [firmware_t.command] at h
      rcases hdata : handle_mqtt_data true firmware.mqtt event with - | ⟨mqtt, - | command'⟩
      · rw [hdata] at h
        cases h
      · rw [hdata] at h
        cases h
      · rw [hdata] at h
        cases h
        exact ⟨mqtt, step_complete hdata⟩
  | _ => cases h

/-- No message: an MQTT event leaves the device as it is. -/
theorem step_no_command {event : Option esp_mqtt_event_t} {calls : command_calls}
    (h : firmware.command (.mqtt_data event calls) = none) :
    (firmware.step env ESP_WIFI_MAX_CONN_NUM (.mqtt_data event calls)).1.device
      = firmware.device := by
  rw [firmware_t.command] at h
  rw [firmware_t.step]
  rcases hdata : handle_mqtt_data true firmware.mqtt event with - | ⟨mqtt, - | command⟩
  · rfl
  · rfl
  · rw [hdata] at h
    cases h

/-- What is handled is the message that the input completes. -/
theorem step_handled {input : firmware_input} {calls : command_calls} {command : mqtt_command_t}
    {effects : List command_effect}
    (h : (firmware.step env ESP_WIFI_MAX_CONN_NUM input).2
      = some (.handled calls command effects)) :
    firmware.command input = some (calls, command) ∧
      effects = firmware.effects env calls command := by
  cases hcommand : firmware.command input with
  | some handled =>
      obtain ⟨calls', command'⟩ := handled
      obtain ⟨mqtt, hstep⟩ := step_command env ESP_WIFI_MAX_CONN_NUM hcommand
      rw [hstep] at h
      cases h
      exact ⟨rfl, rfl⟩
  | none =>
      cases input with
      | mqtt_data event calls' =>
          rw [firmware_t.step] at h
          rw [firmware_t.command] at hcommand
          rcases hdata : handle_mqtt_data true firmware.mqtt event with - | ⟨mqtt, - | command'⟩
          · rw [hdata] at h
            cases h
          · rw [hdata] at h
            cases h
          · rw [hdata] at hcommand
            cases hcommand
      | _ => cases h

/-- **A start** forgets the clients and the filter. -/
theorem step_restarts {input : firmware_input} (h : firmware.Restarts env input) :
    (firmware.step env ESP_WIFI_MAX_CONN_NUM input).1.device.gateway
      = gateway_start ESP_WIFI_MAX_CONN_NUM := by
  rcases h with rfl | ⟨calls, command, hcommand, hrestarts⟩
  · rfl
  · obtain ⟨mqtt, hstep⟩ := step_command env ESP_WIFI_MAX_CONN_NUM hcommand
    rw [hstep, if_pos hrestarts]
    rfl

/-- **Any other step** makes at most one call to the clients or the filter, or stores the signal
strengths. -/
theorem step_gateway (ESP_WIFI_MAX_CONN_NUM : ℕ) {input : firmware_input}
    (h : ¬ firmware.Restarts env input) :
    (firmware.step env ESP_WIFI_MAX_CONN_NUM input).1.device.gateway
        = Machine.run (gateway_t.step env.lwip env.configTICK_RATE_HZ) firmware.device.gateway
            (firmware.gateway_call env input).toList ∨
      ∃ station_list, input = .update_rssi station_list ∧
        (firmware.step env ESP_WIFI_MAX_CONN_NUM input).1.device.gateway
          = { firmware.device.gateway with
              access.s_clients := (client_access_update_rssi_all
                firmware.device.gateway.access.s_clients station_list).1 } := by
  cases hcommand : firmware.command input with
  | some handled =>
      obtain ⟨calls, command⟩ := handled
      left
      obtain ⟨mqtt, hstep⟩ := step_command env ESP_WIFI_MAX_CONN_NUM hcommand
      have hgoes : ¬ restarts (firmware.effects env calls command) = true :=
        fun hrestarts => h (.inr ⟨calls, command, hcommand, hrestarts⟩)
      rw [hstep, if_neg hgoes, firmware_t.gateway_call, hcommand]
      exact handle_mqtt_command_gateway env (some command.topic) (some command.payload)
  | none =>
      have hcall : firmware.gateway_call env input = input.gateway_input := by
        rw [firmware_t.gateway_call, hcommand]
      rw [hcall]
      cases input with
      | mqtt_data event calls => exact .inl (by rw [step_no_command hcommand]; rfl)
      | power_loss => exact absurd (.inl rfl) h
      | update_rssi station_list => exact .inr ⟨station_list, rfl, rfl⟩
      | _ => exact .inl rfl

end OneStep

/-! ## Requests -/

section Requests

variable {env : command_env} {firmware : firmware_t}

/-- The input completes a message that is accepted as this request. -/
def firmware_t.Requests (env : command_env) (firmware : firmware_t) (input : firmware_input)
    (calls : command_calls)
    (request : app_command_request_t) : Prop :=
  ∃ command, firmware.command input = some (calls, command) ∧
    parse_message env (some command.topic) (some command.payload) = (request, .ESP_OK)

/-- A message is accepted as one request at most. -/
theorem requests_iff {input : firmware_input} {calls : command_calls} {command : mqtt_command_t}
    (h : firmware.command input = some (calls, command)) (calls' : command_calls)
    (request : app_command_request_t) :
    firmware.Requests env input calls' request ↔
      calls' = calls ∧
        parse_message env (some command.topic) (some command.payload) = (request, .ESP_OK) := by
  constructor
  · rintro ⟨command', hcommand', hparse⟩
    obtain ⟨rfl, rfl⟩ := Prod.mk.inj (Option.some.inj (h.symm.trans hcommand'))
    exact ⟨rfl, hparse⟩
  · rintro ⟨rfl, hparse⟩
    exact ⟨command, h, hparse⟩

theorem requests_command {input : firmware_input} {calls : command_calls}
    {request : app_command_request_t} (h : firmware.Requests env input calls request) :
    firmware.command input ≠ none := by
  obtain ⟨command, hcommand, -⟩ := h
  rw [hcommand]
  exact Option.some_ne_none _

theorem requests_unique {input : firmware_input} {calls calls' : command_calls}
    {request request' : app_command_request_t}
    (hrequest : firmware.Requests env input calls request)
    (h : firmware.Requests env input calls' request') : calls' = calls ∧ request' = request := by
  obtain ⟨command, hcommand, hparse⟩ := hrequest
  obtain ⟨rfl, hparse'⟩ := (requests_iff hcommand calls' request').mp h
  exact ⟨rfl, congrArg Prod.fst (hparse'.symm.trans hparse)⟩

/-- Only the commands KICK and STAGE_WIFI_CONFIG may be followed by a start. -/
theorem requests_not_restarts {input : firmware_input} {calls : command_calls}
    {request : app_command_request_t} (hrequest : firmware.Requests env input calls request)
    (hkick : request.type ≠ .KICK) (hstage : request.type ≠ .STAGE_WIFI_CONFIG) :
    ¬ firmware.Restarts env input := by
  obtain ⟨command, hcommand, hparse⟩ := hrequest
  rintro (rfl | ⟨calls', command', hcommand', hrestarts⟩)
  · cases hcommand
  obtain ⟨rfl, rfl⟩ := Prod.mk.inj (Option.some.inj (hcommand.symm.trans hcommand'))
  have hok : (parse_message env (some command.topic) (some command.payload)).2 = .ESP_OK := by
    rw [hparse]
  rw [firmware_t.effects, handle_mqtt_command_accepted _ _ hok, hparse, execute_command]
    at hrestarts
  cases htype : request.type with
  | KICK => exact hkick htype
  | STAGE_WIFI_CONFIG => exact hstage htype
  | _ =>
      rw [htype] at hrestarts
      simp [restarts] at hrestarts

/-- The call that an accepted message makes. -/
theorem gateway_call_accepted {input : firmware_input} {calls : command_calls}
    {request : app_command_request_t} (h : firmware.Requests env input calls request) :
    firmware.gateway_call env input = command_input calls.now request := by
  obtain ⟨command, hcommand, hparse⟩ := h
  rw [firmware_t.gateway_call, hcommand]
  dsimp only
  rw [message_input, hparse, if_pos rfl]

/-- A message that is refused makes none. -/
theorem gateway_call_refused {input : firmware_input} (hcommand : firmware.command input ≠ none)
    (h : ∀ calls request, ¬ firmware.Requests env input calls request) :
    firmware.gateway_call env input = none := by
  obtain ⟨⟨calls, command⟩, hcommand⟩ := Option.ne_none_iff_exists'.mp hcommand
  rw [firmware_t.gateway_call, hcommand]
  refine if_neg fun hok => ?_
  exact h calls _ ⟨command, hcommand, Prod.ext rfl hok⟩

end Requests

/-! ## The messages of a run -/

/-- The message under way, as the assembler has it. -/
def inbox_step (inbox : Option incoming_t) :
    firmware_input → Option incoming_t × Option mqtt_command_t
  | .mqtt_data event _ => assemble inbox event
  | .power_loss => (none, none)
  | _ => (inbox, none)

/-- The messages that the events of a run complete. -/
def messages (inputs : List firmware_input) : List mqtt_command_t :=
  Machine.outputs inbox_step none inputs

/-- A complete message leaves nothing under way. -/
theorem assemble_command {current : Option incoming_t} {event : Option esp_mqtt_event_t}
    {command : mqtt_command_t} (h : (assemble current event).2 = some command) :
    (assemble current event).1 = none := by
  rcases assemble_cases current event with
    ⟨fragment, message, -, -, -, -, ⟨hopen, hnext⟩ | ⟨-, hnext⟩⟩ | hnext
  · rw [hnext] at h
    cases h
  · rw [hnext]
  · rw [hnext]

/-! ## Invariants of a run -/

section Runs

variable (env : command_env) (ESP_WIFI_MAX_CONN_NUM : ℕ)

/-- One call to the clients or the filter keeps the MACs unique. -/
theorem unique_gateway_run {lwip : lwip_t} {configTICK_RATE_HZ : UInt32} {gateway : gateway_t}
    (hu : client_layout.Unique gateway.access.s_clients) (inputs : List gateway_input) :
    client_layout.Unique (Machine.run (gateway_t.step lwip configTICK_RATE_HZ) gateway
      inputs).access.s_clients := by
  obtain ⟨calls, haccess⟩ := Machine.run_refines
    (access_step_of_gateway lwip configTICK_RATE_HZ) gateway inputs
  rw [haccess]
  have hstep : ∀ (state : client_access_t) (c : UInt32 × client_call),
      client_layout.Unique state.s_clients →
        client_layout.Unique (c.2.step configTICK_RATE_HZ c.1 state).1.s_clients :=
    fun state c hu => unique_step configTICK_RATE_HZ hu c.1 c.2
  exact Machine.run_invariant _ hstep hu calls

theorem unique_firmware_step (firmware : firmware_t) (input : firmware_input)
    (hu : client_layout.Unique firmware.device.gateway.access.s_clients) :
    client_layout.Unique (firmware.step env ESP_WIFI_MAX_CONN_NUM
      input).1.device.gateway.access.s_clients := by
  by_cases hrestarts : firmware.Restarts env input
  · rw [step_restarts hrestarts]
    exact unique_init ESP_WIFI_MAX_CONN_NUM
  · rcases step_gateway ESP_WIFI_MAX_CONN_NUM hrestarts with
      hcall | ⟨station_list, -, hrssi⟩
    · rw [hcall]
      exact unique_gateway_run hu _
    · rw [hrssi]
      cases station_list with
      | error err => exact hu
      | ok stations => exact (client_access_update_rssi_all_spec hu stations).1

/-- **The clients of a run** have no MAC twice. -/
theorem unique_firmware (content : nvs_content) (inputs : List firmware_input) :
    client_layout.Unique (firmware_t.after env ESP_WIFI_MAX_CONN_NUM content
      inputs).device.gateway.access.s_clients :=
  Machine.run_invariant _
    (I := fun firmware : firmware_t =>
      client_layout.Unique firmware.device.gateway.access.s_clients)
    (unique_firmware_step env ESP_WIFI_MAX_CONN_NUM) (unique_init ESP_WIFI_MAX_CONN_NUM) inputs

/-- The message of an output. -/
def firmware_output.command : firmware_output → Option mqtt_command_t
  | .handled _ command _ => some command
  | _ => none

/-- **One step of the inbox**: the buffers hold what the assembler has, the message that the step
hands on is the one that is complete, and no access is undefined. -/
theorem step_inbox {firmware : firmware_t} {inbox : Option incoming_t}
    (h : Holds firmware.mqtt inbox) (input : firmware_input) :
    Holds (firmware.step env ESP_WIFI_MAX_CONN_NUM input).1.mqtt (inbox_step inbox input).1 ∧
      (firmware.step env ESP_WIFI_MAX_CONN_NUM input).2.bind firmware_output.command
        = (inbox_step inbox input).2 ∧
      (firmware.step env ESP_WIFI_MAX_CONN_NUM input).2 ≠ some .undefined := by
  cases input with
  | mqtt_data event calls =>
      obtain ⟨mqtt, hdata, hholds⟩ := handle_mqtt_data_assembles true h event
      cases hcommand : (assemble inbox event).2 with
      | none =>
          rw [hcommand] at hdata
          rw [firmware_t.step, hdata, inbox_step, hcommand]
          exact ⟨hholds, rfl, nofun⟩
      | some command =>
          rw [hcommand] at hdata
          rw [step_complete hdata, inbox_step, hcommand]
          refine ⟨?_, rfl, nofun⟩
          -- behind a complete message nothing is kept, whether the firmware starts again or not
          rw [assemble_command hcommand] at hholds ⊢
          split_ifs
          · exact holds_init
          · exact hholds
  | packet now now_ms received input_netif => exact ⟨h, rfl, nofun⟩
  | power_loss => exact ⟨holds_init, rfl, nofun⟩
  | _ => exact ⟨h, rfl, nofun⟩

variable (content : nvs_content) (inputs : List firmware_input)

/-- **The buffers** of a run hold the message under way. -/
theorem firmware_inbox :
    Holds (firmware_t.after env ESP_WIFI_MAX_CONN_NUM content inputs).mqtt
      (Machine.run inbox_step none inputs) :=
  Machine.run_related (R := fun firmware inbox _ => Holds firmware.mqtt inbox)
    (fun _ _ input _ h => (step_inbox env ESP_WIFI_MAX_CONN_NUM h input).1)
    (s := firmware_start ESP_WIFI_MAX_CONN_NUM content) holds_init

/-- What is given out along a run. -/
abbrev firmware_outputs : List firmware_output :=
  Machine.outputs (firmware_t.step env ESP_WIFI_MAX_CONN_NUM)
    (firmware_start ESP_WIFI_MAX_CONN_NUM content) inputs

/-- The answers to a message, among its effects. -/
def AnsweredOnce (calls : command_calls) (command : mqtt_command_t)
    (effects : List command_effect) : Prop :=
  let parsed := parse_message env (some command.topic) (some command.payload)
  (∃ result, command_results effects = [result] ∧ result.request_id = parsed.1.request_id ∧
      result.type = parsed.1.type ∧ (result.success = true → parsed.2 = .ESP_OK)) ∨
    effects = [.power_loss] ∧ calls.faults ≠ [] ∧ parsed.2 = .ESP_OK ∧
      parsed.1.type = .STAGE_WIFI_CONFIG

/-- **Every message is answered.** In every run the messages that are handled are those that the
MQTT events complete, each of them once and in order; and each is answered once, under the request
id and the type that can be read in it, unless the power is lost while its configuration is
stored. -/
theorem every_message_answered :
    (firmware_outputs env ESP_WIFI_MAX_CONN_NUM content inputs).filterMap firmware_output.command
        = messages inputs ∧
      ∀ output ∈ firmware_outputs env ESP_WIFI_MAX_CONN_NUM content inputs,
        output ≠ .undefined ∧ ∀ calls command effects, output = .handled calls command effects →
          AnsweredOnce env calls command effects := by
  constructor
  · rw [← Machine.outputs_filterMap]
    refine Machine.outputs_eq (R := fun firmware inbox _ => Holds firmware.mqtt inbox) ?_ holds_init
    intro firmware inbox input _ h
    obtain ⟨hholds, hcommand, -⟩ := step_inbox env ESP_WIFI_MAX_CONN_NUM h input
    exact ⟨hcommand, hholds⟩
  · intro output houtput
    obtain ⟨before, input, after, -, hgiven⟩ := Machine.mem_outputs.mp houtput
    have hholds := firmware_inbox env ESP_WIFI_MAX_CONN_NUM content before
    refine ⟨?_, ?_⟩
    · rintro rfl
      exact (step_inbox env ESP_WIFI_MAX_CONN_NUM hholds input).2.2 hgiven
    · rintro calls command effects rfl
      obtain ⟨-, rfl⟩ := step_handled hgiven
      rcases handle_mqtt_command_answers env calls _ (some command.topic) (some command.payload)
        with ⟨result, hanswer⟩ | hlost
      · exact .inl ⟨result, hanswer.once, hanswer.request_id, hanswer.type, hanswer.accepted⟩
      · exact .inr hlost

end Runs

end WifiManager.Main
