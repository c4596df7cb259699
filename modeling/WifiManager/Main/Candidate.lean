/-
`main.c`: the attempt with a candidate, and its promotion.

The main task is a program with one step for each thing that another task could see or
change: a read of the WiFi status or of the MQTT connection, a call of the storage or of
the gateway, and the assignments behind it. Between two steps the MQTT task may stage
another candidate and the event task may handle WiFi and MQTT events. NVS calls do not
fail here and every call of the storage is one step. What the main loop does besides,
publishing and supervising the clients, has no part in it.
-/
import WifiManager.AppStorage.Operations
import WifiManager.Lib.Machine
import WifiManager.WifiGateway.Gateway

set_option autoImplicit false

namespace WifiManager.Main

open WifiManager.Lib WifiManager.AppStorage WifiManager.WifiGateway

/-! ## The MQTT connection -/

/-- `app_mqtt_connection_state_t`, and the static variables it is copied from. -/
structure app_mqtt_connection_state_t where
  connected : Bool
  generation : UInt32
  deriving DecidableEq, Repr

/-- `set_connection_state`. -/
def set_connection_state (connected : Bool) (s : app_mqtt_connection_state_t) :
    app_mqtt_connection_state_t :=
  ⟨connected, if connected then s.generation + 1 else s.generation⟩

/-! ## The main task -/

/-- `upstream_wifi_slot_t`. -/
inductive upstream_wifi_slot_t
  | CURRENT
  | CANDIDATE
  deriving DecidableEq, Repr

/-- The static variables of `main.c`. -/
structure main_t where
  s_wifi_credentials : app_storage_wifi_credentials_t
  s_candidate_config : app_storage_wifi_config_t
  s_upstream_wifi_slot : upstream_wifi_slot_t
  s_candidate_mqtt_generation : UInt32
  deriving DecidableEq, Repr

/-- Who has called `start_candidate_wifi_attempt`: `handle_upstream_wifi_recovery`,
`handle_upstream_wifi_unreachable` or `promote_verified_candidate_if_ready`. -/
inductive attempt_caller
  | recovery
  | unreachable
  | promotion
  deriving DecidableEq, Repr

/-- Where the main task is, with its local variables. -/
inductive main_pc
  | loop
  | promote_status
  | promote_generation
  | promote_call
  | promote_assign
  | candidate_load (caller : attempt_caller)
  | candidate_generation (caller : attempt_caller) (candidate : app_storage_wifi_config_t)
  | candidate_connect (caller : attempt_caller) (candidate : app_storage_wifi_config_t)
      (generation : UInt32)
  | candidate_assign (caller : attempt_caller) (candidate : app_storage_wifi_config_t)
      (generation : UInt32)
  | candidate_failed (caller : attempt_caller) (err : esp_err_t)
  | retained
  | clear
  | restart
  deriving DecidableEq, Repr

/-- The main task and what it shares with the others. -/
structure main_world where
  main : main_t
  pc : main_pc
  gateway : wifi_gateway_t
  mqtt : app_mqtt_connection_state_t
  content : nvs_content

/-- What an observer of the tasks writes down. -/
inductive main_event
  | wifi_gateway_connect_sta (credentials : app_storage_wifi_credentials_t) (err : esp_err_t)
  | promote_candidate (request_id : c_string) (version : UInt32) (err : Option esp_err_t)
  | MQTT_CONNECTED
  deriving DecidableEq, Repr

/-- What the driver calls of `wifi_gateway_connect_sta` return. -/
structure sta_results where
  esp_wifi_set_config : esp_err_t
  esp_wifi_disconnect : esp_err_t
  esp_wifi_connect : esp_err_t

/-- A call of the storage, with its result and the content it leaves. -/
def call_storage {α : Type} (program : nvs_m α) (content : nvs_content) :
    Option α × nvs_content :=
  ((program ⟨content, []⟩).1, (program ⟨content, []⟩).2.content)

/-- The zeroed `s_candidate_config`. -/
def no_candidate : app_storage_wifi_config_t := ⟨⟨[], []⟩, [], 0⟩

/-- The next step of the main task. -/
def main_world.main_step (w : main_world) (results : sta_results) :
    main_world × Option main_event :=
  match w.pc with
  -- the main loop
  | .loop =>
      match w.gateway.s_status with
      | .STA_RECOVERY_REQUIRED =>
          -- the candidate was rejected as well
          if w.main.s_upstream_wifi_slot = .CANDIDATE then ({ w with pc := .retained }, none)
          else ({ w with pc := .candidate_load .recovery }, none)
      | .STA_UNREACHABLE =>
          if w.main.s_upstream_wifi_slot = .CURRENT then
            ({ w with pc := .candidate_load .unreachable }, none)
          else ({ w with pc := .retained }, none)
      -- in the other statuses the loop goes on to the promotion
      | _ => ({ w with pc := .promote_status }, none)
  -- promote_verified_candidate_if_ready
  | .promote_status =>
      if w.main.s_upstream_wifi_slot ≠ .CANDIDATE ∨ w.gateway.s_status ≠ .STA_GOT_IP then
        ({ w with pc := .loop }, none)
      else ({ w with pc := .promote_generation }, none)
  | .promote_generation =>
      if w.mqtt.connected = false ∨
          w.mqtt.generation ≤ w.main.s_candidate_mqtt_generation then
        ({ w with pc := .loop }, none)
      else ({ w with pc := .promote_call }, none)
  | .promote_call =>
      let request_id := w.main.s_candidate_config.request_id
      let version := w.main.s_candidate_config.config_version
      let (err, content) := call_storage
        (app_storage_promote_candidate_wifi_config (some request_id) version) w.content
      let pc :=
        if err = some .ESP_OK then .promote_assign
        -- another candidate is staged by now: it is tried instead
        else if err = some .ESP_ERR_INVALID_STATE then .candidate_load .promotion
        -- a flash error: the loop comes here again
        else .loop
      ({ w with content := content, pc := pc }, some (.promote_candidate request_id version err))
  | .promote_assign =>
      ({ w with
          main := { w.main with
            s_wifi_credentials := w.main.s_candidate_config.credentials
            s_candidate_config := no_candidate
            s_upstream_wifi_slot := .CURRENT }
          pc := .loop }, none)
  -- start_candidate_wifi_attempt
  | .candidate_load caller =>
      match app_storage_load_candidate_wifi_config w.content with
      | .error err => ({ w with pc := .candidate_failed caller err }, none)
      | .ok candidate => ({ w with pc := .candidate_generation caller candidate }, none)
  | .candidate_generation caller candidate =>
      -- the generation is sampled before the switch, in a step of its own
      ({ w with pc := .candidate_connect caller candidate w.mqtt.generation }, none)
  | .candidate_connect caller candidate generation =>
      let (gateway, err, _) := wifi_gateway_connect_sta
        (some candidate.credentials.ssid) (some candidate.credentials.password)
        results.esp_wifi_set_config results.esp_wifi_disconnect results.esp_wifi_connect w.gateway
      let pc :=
        if err = .ESP_OK then .candidate_assign caller candidate generation
        else .candidate_failed caller err
      ({ w with gateway := gateway, pc := pc },
        some (.wifi_gateway_connect_sta candidate.credentials err))
  | .candidate_assign _ candidate generation =>
      ({ w with
          main := { w.main with
            s_candidate_config := candidate
            s_candidate_mqtt_generation := generation
            s_upstream_wifi_slot := .CANDIDATE }
          pc := .loop }, none)
  | .candidate_failed caller err =>
      -- without a candidate the rejected credentials are given up
      if caller = .recovery ∧ err = .ESP_ERR_NOT_FOUND then ({ w with pc := .clear }, none)
      else ({ w with pc := .retained }, none)
  -- enter_retained_wifi_recovery: the flags are nobody else's, so its calls are one step
  | .retained =>
      let (_, content) := call_storage app_storage_set_recovery_triggered w.content
      let (_, content) := call_storage app_storage_increment_recovery_retry content
      ({ w with
          content := content
          gateway := wifi_gateway_set_status .PROVISIONING w.gateway
          pc := .loop }, none)
  -- handle_upstream_wifi_recovery without a candidate
  | .clear =>
      let (err, content) := call_storage app_storage_clear_wifi_credentials w.content
      let pc := if err = some .ESP_OK then .restart else .loop
      ({ w with content := content, pc := pc }, none)
  -- `esp_restart` does not return
  | .restart => (w, none)

/-! ## The other tasks -/

/-- A step: the main task goes on, the MQTT task stages a candidate, or the event task
handles an event; `connected` is the new state of the MQTT connection. -/
inductive main_input
  | main (results : sta_results)
  | stage (config : Option app_storage_wifi_config_t)
  | wifi (esp_wifi_connect : esp_err_t) (event : wifi_event_t)
  | mqtt (connected : Bool)

def main_world.step (w : main_world) : main_input → main_world × Option main_event
  | .main results => w.main_step results
  | .stage config =>
      ({ w with
          content :=
            (call_storage (app_storage_stage_candidate_wifi_config config) w.content).2 }, none)
  | .wifi esp_wifi_connect event =>
      ({ w with gateway := (wifi_event_handler esp_wifi_connect event w.gateway).1 }, none)
  | .mqtt connected =>
      ({ w with mqtt := set_connection_state connected w.mqtt },
        if connected then some .MQTT_CONNECTED else none)

/-- The world after a run. -/
def main_world.run (w : main_world) (inputs : List main_input) : main_world :=
  Machine.run main_world.step w inputs

/-- What the observer has written down. -/
def main_world.history (w : main_world) (inputs : List main_input) : List main_event :=
  Machine.outputs main_world.step w inputs

/-- Behind the start of a boot: the gateway is in the current slot and the main loop
begins; whatever is stored, and whatever has been loaded from it. -/
structure Booted (w : main_world) : Prop where
  slot : w.main.s_upstream_wifi_slot = .CURRENT
  pc : w.pc = .loop

end WifiManager.Main
