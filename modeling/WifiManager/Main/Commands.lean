/-
`main.c`: the commands of the backend.

`handle_mqtt_command` is called with every complete message. What it does apart from the state
of the device is a list of effects, in order: results it publishes, stations it has the driver
deauthenticate, a restart. The publication of a status is one effect here, and whether a result
can be published changes nothing but the log.

1. The dispatcher of the source, with the commands as the components have them.
2. What the parser tells of an accepted message, and what each command may touch
   (`handle_mqtt_command_gateway`, `handle_mqtt_command_content`).
3. Every message is answered once, under its request id, and a refused one has no effect.
-/
import WifiManager.AccessFilter.Mediation
import WifiManager.AppCommand.Identity
import WifiManager.ClientAccess.Integrity
import WifiManager.Main.Allow
import WifiManager.Main.Staging

set_option autoImplicit false

namespace WifiManager.WifiGateway

open WifiManager.ClientAccess (mac_t)

/-! ## The SoftAP driver -/

/-- What the driver answers about stations; a failure has a code. -/
structure sta_driver_t where
  esp_wifi_ap_get_sta_aid : mac_t → Except esp_err_t UInt16
  esp_wifi_deauth_sta : UInt16 → esp_err_t
  aid_error : ∀ mac err, esp_wifi_ap_get_sta_aid mac = .error err → err ≠ .ESP_OK

/-- `wifi_gateway_disconnect_client`: the association that is deauthenticated, and the error
code. -/
def wifi_gateway_disconnect_client (driver : sta_driver_t) (mac_text : Option c_string) :
    Option UInt16 × esp_err_t :=
  match WifiGateway.parse_mac_address mac_text with
  | .error err => (none, err)
  | .ok mac =>
      match driver.esp_wifi_ap_get_sta_aid mac with
      | .error err => (none, err)
      | .ok aid => (some aid, driver.esp_wifi_deauth_sta aid)

end WifiManager.WifiGateway

namespace WifiManager.Main

open WifiManager.Lib WifiManager.AppCommand WifiManager.AppStorage WifiManager.WifiGateway
  WifiManager.ClientAccess WifiManager.AccessFilter

/-! ## The dispatcher -/

/-- What the application is built with. -/
structure command_env where
  lwip : lwip_t
  cJSON_ParseWithOpts : c_string → Option cJSON
  esp_err_to_name : esp_err_t → c_string
  configTICK_RATE_HZ : UInt32
  DEVICE_CODE : c_string

/-- What the calls of one command meet. -/
structure command_calls where
  now : UInt32
  driver : sta_driver_t
  publish_device_status : esp_err_t
  faults : List (Option nvs_fault)

/-- What the commands change: the filter with the clients, and the flash. -/
structure device_t where
  gateway : gateway_t
  content : nvs_content

/-- What a command does besides. -/
inductive command_effect
  | publish_device_status
  | esp_wifi_deauth_sta (aid : UInt16)
  | publish_command_result (result : app_command_result_t)
  | esp_restart
  | power_loss
  deriving DecidableEq, Repr

section Dispatch

variable (env : command_env)

/-- The result of a command that has returned this error code. -/
def executed (request : app_command_request_t) (err : esp_err_t) (done failed : c_string) :
    app_command_result_t :=
  if err = .ESP_OK then command_result request true done
  else command_result request false (failed ++ env.esp_err_to_name err)

/-- The BLOCK_TRAFFIC branch of `handle_mqtt_command`. -/
def handle_mqtt_command_block_traffic (filter : access_filter_t)
    (request : app_command_request_t) : access_filter_t × esp_err_t :=
  access_filter_block_traffic env.lwip filter (some request.dst_ip) (some request.sni)

/-- `handle_mqtt_command`, from the switch on. -/
def execute_command (calls : command_calls) (device : device_t)
    (request : app_command_request_t) : device_t × List command_effect :=
  let answer := fun err done failed =>
    command_effect.publish_command_result
      (executed env request err (c_str done) (c_str failed))
  match request.type with
  | .PING => (device, [answer .ESP_OK "pong" ""])
  | .GET_STATUS =>
      (device, [.publish_device_status,
        answer calls.publish_device_status "device status published" "status publish failed: "])
  | .DISCONNECT_MAC =>
      let (aid, err) := wifi_gateway_disconnect_client calls.driver (some request.mac)
      (device, aid.toList.map .esp_wifi_deauth_sta ++
        [answer err "client disconnect requested" "disconnect client failed: "])
  | .ALLOW =>
      let (clients, err) := handle_mqtt_command_allow env.configTICK_RATE_HZ calls.now
        device.gateway.access.s_clients request
      ({ device with gateway.access.s_clients := clients },
        [answer err "client access state authorized" "authorize client failed: "])
  | .REVOKE_ACCESS =>
      let (clients, err) := client_access_revoke_authorization device.gateway.access.s_clients
        (some request.mac) request.session_id
      ({ device with gateway.access.s_clients := clients },
        [answer err "client authorization revoked" "revoke client authorization failed: "])
  -- the answer goes out first
  | .KICK => (device, [answer .ESP_OK "device restarting" "", .esp_restart])
  | .BLOCK_TRAFFIC =>
      let (filter, err) := handle_mqtt_command_block_traffic env device.gateway.filter request
      let done :=
        if request.sni ≠ [] then "IPv4 and hostname traffic block installed"
        else "IPv4 traffic block installed"
      ({ device with gateway.filter := filter }, [answer err done "block destination failed: "])
  | .STAGE_WIFI_CONFIG =>
      let (result, nvs) := handle_mqtt_command_stage_wifi_config env.DEVICE_CODE request
        ⟨device.content, calls.faults⟩
      ({ device with content := nvs.content },
        match result with
        | some result => [.publish_command_result result]
        | none => [.power_loss])
  | .UNKNOWN => (device, [])

/-- What the parser makes of a message. -/
def parse_message (topic payload : Option (List UInt8)) : app_command_request_t × esp_err_t :=
  app_command_parse env.cJSON_ParseWithOpts topic payload {}

/-- `handle_mqtt_command`. -/
def handle_mqtt_command (calls : command_calls) (device : device_t)
    (topic payload : Option (List UInt8)) : device_t × List command_effect :=
  let (request, err) := parse_message env topic payload
  -- what has been recognized of a message that is refused is in the answer
  if err ≠ .ESP_OK then
    (device, [.publish_command_result
      (command_result request false (c_str "command parse failed: " ++ env.esp_err_to_name err))])
  else execute_command env calls device request

variable {env}

theorem handle_mqtt_command_refused (calls : command_calls) (device : device_t)
    {topic payload : Option (List UInt8)} (h : (parse_message env topic payload).2 ≠ .ESP_OK) :
    handle_mqtt_command env calls device topic payload
      = (device, [.publish_command_result (command_result (parse_message env topic payload).1 false
          (c_str "command parse failed: " ++
            env.esp_err_to_name (parse_message env topic payload).2))]) :=
  if_pos h

theorem handle_mqtt_command_accepted (calls : command_calls) (device : device_t)
    {topic payload : Option (List UInt8)} (h : (parse_message env topic payload).2 = .ESP_OK) :
    handle_mqtt_command env calls device topic payload
      = execute_command env calls device (parse_message env topic payload).1 :=
  if_neg (not_not.mpr h)

end Dispatch

/-- The results among the effects. -/
def command_effect.result : command_effect → Option app_command_result_t
  | .publish_command_result result => some result
  | _ => none

def command_results (effects : List command_effect) : List app_command_result_t :=
  effects.filterMap command_effect.result

/-! ## What a command touches -/

section Touches

variable (env : command_env) (calls : command_calls) (device : device_t)

/-- The call that a request makes to the filter or the clients. -/
def command_input (now : UInt32) (request : app_command_request_t) : Option gateway_input :=
  match request.type with
  | .ALLOW =>
      some (.client now (.client_access_authorize (some request.mac) request.session_id
        (UInt32.ofInt request.ttl_seconds)))
  | .REVOKE_ACCESS =>
      some (.client now (.client_access_revoke_authorization (some request.mac)
        request.session_id))
  | .BLOCK_TRAFFIC => some (.block_traffic (some request.dst_ip) (some request.sni))
  | _ => none

/-- The call that a message makes. -/
def message_input (now : UInt32) (topic payload : Option (List UInt8)) : Option gateway_input :=
  if (parse_message env topic payload).2 = .ESP_OK then
    command_input now (parse_message env topic payload).1
  else none

variable {calls device}

/-- **The filter and the clients** behind a message: at most one call is made to them. -/
theorem handle_mqtt_command_gateway (topic payload : Option (List UInt8)) :
    (handle_mqtt_command env calls device topic payload).1.gateway
      = Machine.run (gateway_t.step env.lwip env.configTICK_RATE_HZ) device.gateway
          (message_input env calls.now topic payload).toList := by
  rw [message_input]
  by_cases hok : (parse_message env topic payload).2 = .ESP_OK
  · rw [handle_mqtt_command_accepted _ _ hok, if_pos hok, execute_command, command_input]
    cases (parse_message env topic payload).1.type with
    | _ => rfl
  · rw [handle_mqtt_command_refused _ _ hok, if_neg hok]
    rfl

end Touches

/-! ## Answers -/

section Answers

variable {env : command_env} {calls : command_calls} {device : device_t}

@[simp] theorem command_results_nil : command_results [] = [] := rfl

@[simp] theorem command_results_publish (result : app_command_result_t)
    (effects : List command_effect) :
    command_results (.publish_command_result result :: effects)
      = result :: command_results effects := rfl

@[simp] theorem command_results_deauth (aid : Option UInt16) (effects : List command_effect) :
    command_results (aid.toList.map .esp_wifi_deauth_sta ++ effects) = command_results effects := by
  cases aid with
  | _ => rfl

/-- The answer of a command that returns an error code. -/
theorem executed_success (request : app_command_request_t) (err : esp_err_t)
    (done failed : c_string) :
    (executed env request err done failed).success = true ↔ err = .ESP_OK := by
  rw [executed]
  split_ifs with hok
  · exact iff_of_true rfl hok
  · exact iff_of_false Bool.false_ne_true hok

theorem executed_type (request : app_command_request_t) (err : esp_err_t)
    (done failed : c_string) : (executed env request err done failed).type = request.type := by
  rw [executed]
  split_ifs
  · rfl
  · rfl

theorem executed_request_id {request : app_command_request_t}
    (h : request.request_id.length < APP_COMMAND_REQUEST_ID_SIZE) (err : esp_err_t)
    (done failed : c_string) :
    (executed env request err done failed).request_id = request.request_id := by
  rw [executed]
  split_ifs
  · exact CString.snprintf_s_eq_self h
  · exact CString.snprintf_s_eq_self h

/-- Every answer to a staging goes back to its request. -/
theorem stage_result_of_request {request : app_command_request_t} {s : nvs_t}
    {result : app_command_result_t}
    (h : (handle_mqtt_command_stage_wifi_config env.DEVICE_CODE request s).1 = some result) :
    ∃ success message, result = command_result request success message := by
  have hensures : Ensures s.content
      (handle_mqtt_command_stage_wifi_config env.DEVICE_CODE request)
      fun result _ => ∃ success message, result = command_result request success message := by
    rw [handle_mqtt_command_stage_wifi_config]
    split_ifs
    · exact .pure ⟨_, _, rfl⟩
    · have htrivial : Ensures s.content (app_storage_stage_candidate_wifi_config
          (some (candidate_config request))) fun _ _ => True := fun _ _ _ => trivial
      refine htrivial.map (stage_answer request) fun staged _ _ => ?_
      rw [stage_answer]
      split_ifs
      · exact ⟨_, _, rfl⟩
      · exact ⟨_, _, rfl⟩
      · exact ⟨_, _, rfl⟩
      · exact ⟨_, _, rfl⟩
  exact hensures s.faults result h

/-- The parser leaves a request id that fits. -/
theorem parse_message_request_id (env : command_env) (topic payload : Option (List UInt8)) :
    (parse_message env topic payload).1.request_id.length < APP_COMMAND_REQUEST_ID_SIZE :=
  app_command_parse_request_id env.cJSON_ParseWithOpts topic payload (by decide)

/-- Nothing is stored of a staging that is refused, unless a call of the flash fails. -/
theorem stage_refused {request : app_command_request_t} {content : nvs_content}
    {result : app_command_result_t}
    (hresult : (handle_mqtt_command_stage_wifi_config env.DEVICE_CODE request
      ⟨content, []⟩).1 = some result) (hsuccess : result.success = false) :
    (handle_mqtt_command_stage_wifi_config env.DEVICE_CODE request ⟨content, []⟩).2.content
      = content := by
  rw [handle_mqtt_command_stage_wifi_config] at hresult ⊢
  split_ifs at hresult ⊢ with hdevice
  · rfl
  · rw [((stage_leaves (some (candidate_config request)) content).map
      (stage_answer request)).complete, operation.writes]
    split_ifs with hstores
    · -- what is written is reported as stored
      have hstored := stage_stored hstores.1 hstores.2
      rw [bind_apply] at hresult
      rcases hstaged : app_storage_stage_candidate_wifi_config (some (candidate_config request))
        ⟨content, []⟩ with ⟨staged, nvs⟩
      rw [hstaged] at hresult hstored
      obtain rfl : staged = some (.STORED, .ESP_OK) := hstored
      rw [← Option.some.inj hresult] at hsuccess
      cases hsuccess
    · rfl

/-- A staging that meets no failure returns. -/
theorem stage_returns (request : app_command_request_t) (content : nvs_content) :
    (handle_mqtt_command_stage_wifi_config env.DEVICE_CODE request ⟨content, []⟩).1 ≠ none := by
  rw [handle_mqtt_command_stage_wifi_config]
  split_ifs with hdevice
  · exact Option.some_ne_none _
  rw [app_storage_stage_candidate_wifi_config]
  split_ifs with hinvalid
  · exact Option.some_ne_none _
  simp only [nvs_open, nvs_read, bind_apply, nvs_call_last, ne_eq, not_true_eq_false, if_false]
  cases candidate_or_none (load_candidate_from_handle content) with
  | error err => exact Option.some_ne_none _
  | ok pending =>
  simp only [bind_apply, nvs_call_last]
  cases load_active content with
  | error err => exact Option.some_ne_none _
  | ok active =>
  dsimp only
  cases stage_decision pending active (candidate_config request) with
  | STORED =>
      simp only [bind_apply, write_and_commit_done]
      exact Option.some_ne_none _
  | _ => exact Option.some_ne_none _

/-- What the published result of a message says about it, and about what has been done. -/
structure Answers (env : command_env) (calls : command_calls) (device : device_t)
    (topic payload : Option (List UInt8)) (result : app_command_result_t) : Prop where
  once : command_results (handle_mqtt_command env calls device topic payload).2 = [result]
  request_id : result.request_id = (parse_message env topic payload).1.request_id
  type : result.type = (parse_message env topic payload).1.type
  accepted : result.success = true → (parse_message env topic payload).2 = .ESP_OK
  gateway_kept : result.success = false →
    (handle_mqtt_command env calls device topic payload).1.gateway = device.gateway
  content_kept : result.success = false → calls.faults = [] →
    (handle_mqtt_command env calls device topic payload).1.content = device.content

variable {topic payload : Option (List UInt8)}

/-- What a call that has been refused leaves of the table. -/
theorem write_outcome_refused {client : Option mac_t} {clients : client_table}
    {result : client_table × esp_err_t} (h : WriteOutcome client clients result)
    (herr : result.2 ≠ .ESP_OK) : result.1 = clients := by
  cases h with
  | refused hrefused => rfl
  | written hclient honly => exact absurd rfl herr

/-- A command that has returned an error code: it is what is answered, and a refused command has
changed nothing. -/
structure Returned (env : command_env) (device : device_t) (request : app_command_request_t)
    (handled : device_t × List command_effect) (err : esp_err_t) (done failed : c_string) :
    Prop where
  once : command_results handled.2 = [executed env request err done failed]
  gateway : err ≠ .ESP_OK → handled.1.gateway = device.gateway
  content : handled.1.content = device.content

/-- **One command**, apart from staging: it returns an error code. -/
theorem execute_command_returned (env : command_env) (calls : command_calls) (device : device_t)
    {request : app_command_request_t} (hknown : request.type ≠ .UNKNOWN)
    (hstage : request.type ≠ .STAGE_WIFI_CONFIG) :
    ∃ err done failed,
      Returned env device request (execute_command env calls device request) err done failed := by
  rw [execute_command]
  cases htype : request.type with
  | UNKNOWN => exact absurd htype hknown
  | STAGE_WIFI_CONFIG => exact absurd htype hstage
  | PING => exact ⟨_, _, _, rfl, fun _ => rfl, rfl⟩
  | GET_STATUS => exact ⟨_, _, _, rfl, fun _ => rfl, rfl⟩
  | KICK => exact ⟨_, _, _, rfl, fun _ => rfl, rfl⟩
  | DISCONNECT_MAC => exact ⟨_, _, _, command_results_deauth _ _, fun _ => rfl, rfl⟩
  | ALLOW =>
      refine ⟨_, _, _, rfl, fun herr => ?_, rfl⟩
      have hsame := write_outcome_refused (client_access_authorize_outcome env.configTICK_RATE_HZ
        calls.now (some request.mac) request.session_id (UInt32.ofInt request.ttl_seconds)) herr
      dsimp only [handle_mqtt_command_allow]
      rw [hsame]
  | REVOKE_ACCESS =>
      refine ⟨_, _, _, rfl, fun herr => ?_, rfl⟩
      have hsame := write_outcome_refused (client_access_revoke_authorization_outcome
        (some request.mac) request.session_id) herr
      dsimp only
      rw [hsame]
  | BLOCK_TRAFFIC =>
      refine ⟨_, _, _, rfl, fun herr => ?_, rfl⟩
      rcases block_traffic_cases env.lwip device.gateway.filter (some request.dst_ip)
        (some request.sni) with ⟨hsame, -⟩ | ⟨-, -, -, -, hok, -⟩
      · dsimp only [handle_mqtt_command_block_traffic]
        rw [hsame]
      · exact absurd hok herr

/-- The answer of a command that has returned. -/
theorem Returned.answers (hok : (parse_message env topic payload).2 = .ESP_OK) {err : esp_err_t}
    {done failed : c_string}
    (h : Returned env device (parse_message env topic payload).1
      (execute_command env calls device (parse_message env topic payload).1) err done failed) :
    Answers env calls device topic payload
      (executed env (parse_message env topic payload).1 err done failed) := by
  have hhandled := handle_mqtt_command_accepted calls device hok
  rw [← hhandled] at h
  refine ⟨h.once, executed_request_id (parse_message_request_id env topic payload) err done failed,
    executed_type _ err done failed, fun _ => hok, fun hfalse => h.gateway fun hdone => ?_,
    fun _ _ => h.content⟩
  rw [(executed_success _ err done failed).mpr hdone] at hfalse
  cases hfalse

/-- A command to stage, which writes to the flash. -/
theorem stage_message_answers (hok : (parse_message env topic payload).2 = .ESP_OK)
    (hstage : (parse_message env topic payload).1.type = .STAGE_WIFI_CONFIG) :
    (∃ result, Answers env calls device topic payload result) ∨
      (handle_mqtt_command env calls device topic payload).2 = [.power_loss] ∧
        calls.faults ≠ [] ∧ (parse_message env topic payload).2 = .ESP_OK ∧
        (parse_message env topic payload).1.type = .STAGE_WIFI_CONFIG := by
  have hfits := parse_message_request_id env topic payload
  have hhandled := handle_mqtt_command_accepted calls device hok
  rw [execute_command, hstage] at hhandled
  cases hresult : (handle_mqtt_command_stage_wifi_config env.DEVICE_CODE
    (parse_message env topic payload).1 ⟨device.content, calls.faults⟩).1 with
  | none =>
      refine .inr ⟨?_, ?_, hok, hstage⟩
      · rw [hhandled]
        dsimp only
        rw [hresult]
      · intro hfaults
        rw [hfaults] at hresult
        exact stage_returns _ _ hresult
  | some result =>
      obtain ⟨success, message, rfl⟩ := stage_result_of_request hresult
      refine .inl ⟨command_result (parse_message env topic payload).1 success message, ?_,
        CString.snprintf_s_eq_self hfits, rfl, fun _ => hok, fun _ => ?_,
        fun hsuccess hfaults => ?_⟩
      · rw [hhandled]
        dsimp only
        rw [hresult]
        rfl
      · rw [hhandled]
      · rw [hhandled]
        rw [hfaults] at hresult ⊢
        exact stage_refused hresult hsuccess

/-- **One answer**: a message is answered once, unless the power is lost while it is staged. -/
theorem handle_mqtt_command_answers (env : command_env) (calls : command_calls)
    (device : device_t) (topic payload : Option (List UInt8)) :
    (∃ result, Answers env calls device topic payload result) ∨
      (handle_mqtt_command env calls device topic payload).2 = [.power_loss] ∧
        calls.faults ≠ [] ∧ (parse_message env topic payload).2 = .ESP_OK ∧
        (parse_message env topic payload).1.type = .STAGE_WIFI_CONFIG := by
  have hfits := parse_message_request_id env topic payload
  by_cases hok : (parse_message env topic payload).2 = .ESP_OK
  swap
  · -- nothing is done for a message that is refused
    have hrefused := handle_mqtt_command_refused calls device hok
    refine .inl ⟨command_result (parse_message env topic payload).1 false
      (c_str "command parse failed: " ++
        env.esp_err_to_name (parse_message env topic payload).2), ?_,
      CString.snprintf_s_eq_self hfits, rfl, ?_, ?_, ?_⟩
    · rw [hrefused]
      rfl
    · exact fun hbad => absurd hbad Bool.false_ne_true
    · exact fun _ => by rw [hrefused]
    · exact fun _ _ => by rw [hrefused]
  by_cases hstage : (parse_message env topic payload).1.type = .STAGE_WIFI_CONFIG
  · exact stage_message_answers hok hstage
  · have hknown : (parse_message env topic payload).1.type ≠ .UNKNOWN :=
      app_command_parse_type (Prod.ext rfl hok)
    obtain ⟨err, done, failed, hreturned⟩ :=
      execute_command_returned env calls device hknown hstage
    exact .inl ⟨_, hreturned.answers hok⟩

/-- **The restart**: the command KICK, and nothing else. -/
theorem esp_restart_iff (env : command_env) (calls : command_calls) (device : device_t)
    (topic payload : Option (List UInt8)) :
    .esp_restart ∈ (handle_mqtt_command env calls device topic payload).2 ↔
      (parse_message env topic payload).2 = .ESP_OK ∧
        (parse_message env topic payload).1.type = .KICK := by
  by_cases hok : (parse_message env topic payload).2 = .ESP_OK
  · rw [handle_mqtt_command_accepted _ _ hok, execute_command, and_iff_right hok]
    cases (parse_message env topic payload).1.type with
    | STAGE_WIFI_CONFIG =>
        dsimp only
        cases (handle_mqtt_command_stage_wifi_config env.DEVICE_CODE
          (parse_message env topic payload).1 ⟨device.content, calls.faults⟩).1 with
        | none => simp
        | some result => simp
    | _ => simp
  · rw [handle_mqtt_command_refused _ _ hok]
    simp [hok]

end Answers

/-! ## Successes -/

section Successes

variable {env : command_env} {calls : command_calls} {device : device_t}

theorem published_executed {request : app_command_request_t} {err : esp_err_t}
    {done failed : c_string} {effects : List command_effect} {result : app_command_result_t}
    (honce : command_results effects = [executed env request err done failed])
    (hresult : result ∈ command_results effects) (hsuccess : result.success = true) :
    err = .ESP_OK := by
  rw [honce, List.mem_singleton] at hresult
  rw [hresult] at hsuccess
  exact (executed_success request err done failed).mp hsuccess

end Successes

end WifiManager.Main
