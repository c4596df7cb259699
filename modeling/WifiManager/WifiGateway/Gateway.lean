/-
`components/wifi_gateway`: the upstream link and its status.

The module's static variables are one state. A call of the WiFi driver is a call made
and a result: the functions get the result each driver call returns if it is made, and
return the calls they make, in order. The handler runs in the event task and
`wifi_gateway_connect_sta` in the main task; each is one step.
-/
import WifiManager.Esp

set_option autoImplicit false

namespace WifiManager.WifiGateway

/-! ## Data -/

/-- `wifi_gateway_status_t`. -/
inductive wifi_gateway_status_t
  | IDLE
  | STARTING
  | PROVISIONING
  | STA_CONNECTING
  | STA_CONNECTED
  | STA_GOT_IP
  | STA_DISCONNECTED
  | STA_RECOVERY_REQUIRED
  | STA_UNREACHABLE
  deriving DecidableEq, Repr

open wifi_gateway_status_t

/-- `wifi_gateway_config_t`, but for the number of clients that is handed to the driver. -/
structure wifi_gateway_config_t where
  sta_enabled : Bool
  sta_ssid : Option c_string
  sta_password : Option c_string
  ap_ssid : Option c_string
  ap_password : Option c_string

/-- The static variables of `wifi_gateway.c`. -/
structure wifi_gateway_t where
  s_status : wifi_gateway_status_t
  s_sta_ip : c_string
  s_current_clients : Int
  s_sta_credential_failure_count : UInt8
  s_sta_unreachable_count : UInt8
  s_sta_reconfigure_pending : Bool
  deriving DecidableEq, Repr

def no_ip : c_string := c_str "0.0.0.0"

/-- Before the start. -/
def wifi_gateway_t.init : wifi_gateway_t :=
  ⟨IDLE, no_ip, 0, 0, 0, false⟩

/-- The events the handler is registered for; a lost link may come without data. -/
inductive wifi_event_t
  | STA_CONNECTED
  | STA_GOT_IP (a b c d : UInt8)
  | STA_DISCONNECTED (reason : Option UInt8)
  | AP_STACONNECTED
  | AP_STADISCONNECTED
  | OTHER
  deriving DecidableEq, Repr

/-- The driver calls of these functions. -/
inductive driver_call
  | esp_wifi_set_config
  | esp_wifi_disconnect
  | esp_wifi_connect
  deriving DecidableEq, Repr

/-! ## Failures -/

def STA_CREDENTIAL_FAILURE_LIMIT : UInt8 := 3

def WIFI_REASON_4WAY_HANDSHAKE_TIMEOUT : UInt8 := 15
def WIFI_REASON_802_1X_AUTH_FAILED : UInt8 := 23
def WIFI_REASON_AUTH_FAIL : UInt8 := 202
def WIFI_REASON_HANDSHAKE_TIMEOUT : UInt8 := 204
def WIFI_REASON_NO_AP_FOUND_W_COMPATIBLE_SECURITY : UInt8 := 210
def WIFI_REASON_NO_AP_FOUND_IN_AUTHMODE_THRESHOLD : UInt8 := 211

/-- `is_sta_credential_failure`. -/
def is_sta_credential_failure (reason : UInt8) : Bool :=
  reason ∈ [WIFI_REASON_AUTH_FAIL, WIFI_REASON_4WAY_HANDSHAKE_TIMEOUT,
    WIFI_REASON_HANDSHAKE_TIMEOUT, WIFI_REASON_802_1X_AUTH_FAILED,
    WIFI_REASON_NO_AP_FOUND_W_COMPATIBLE_SECURITY,
    WIFI_REASON_NO_AP_FOUND_IN_AUTHMODE_THRESHOLD]

/-- A failure counter, which stays at the limit. -/
def count_failure (count : UInt8) : UInt8 :=
  if count < STA_CREDENTIAL_FAILURE_LIMIT then count + 1 else count

/-! ## Configuration -/

/-- The STA part of `validate_config`. -/
def sta_credentials_ok (sta_ssid sta_password : Option c_string) : Bool :=
  match sta_ssid, sta_password with
  | some sta_ssid, some sta_password =>
      -- `strnlen`, one past the limit: a text that is too long is seen to be
      let ssid_length := min sta_ssid.length 33
      let password_length := min sta_password.length 64
      !(ssid_length = 0 || ssid_length > 32 || password_length > 63 ||
        (password_length > 0 && password_length < 8))
  | _, _ => false

/-- `validate_config`. -/
def validate_config (config : Option wifi_gateway_config_t) : esp_err_t :=
  match config with
  | none => .ESP_ERR_INVALID_ARG
  | some config =>
      -- without the STA its credentials are not looked at
      if config.sta_enabled && !sta_credentials_ok config.sta_ssid config.sta_password then
        .ESP_ERR_INVALID_ARG
      else if (config.ap_ssid.getD []).length = 0 then .ESP_ERR_INVALID_ARG
      -- an open access point has the empty password
      else if (config.ap_password.getD []).length > 0 ∧ (config.ap_password.getD []).length < 8 then
        .ESP_ERR_INVALID_ARG
      else .ESP_OK

/-- `configure_sta_credentials`. -/
def configure_sta_credentials (ssid password : Option c_string)
    (esp_wifi_set_config : esp_err_t) : esp_err_t × List driver_call :=
  -- the access point's part is filled so that only the STA's part can fail
  let validation_config : wifi_gateway_config_t :=
    ⟨true, ssid, password, some (c_str "validation"), some []⟩
  match validate_config (some validation_config) with
  | .ESP_OK => (esp_wifi_set_config, [.esp_wifi_set_config])
  | err => (err, [])

/-! ## Connecting -/

/-- `connect_sta`. -/
def connect_sta (esp_wifi_connect : esp_err_t) (s : wifi_gateway_t) :
    wifi_gateway_t × esp_err_t × List driver_call :=
  if esp_wifi_connect ≠ .ESP_OK then (s, esp_wifi_connect, [.esp_wifi_connect])
  else ({ s with s_status := STA_CONNECTING }, .ESP_OK, [.esp_wifi_connect])

/-- `wifi_gateway_connect_sta`. -/
def wifi_gateway_connect_sta (ssid password : Option c_string)
    (esp_wifi_set_config esp_wifi_disconnect esp_wifi_connect : esp_err_t)
    (s : wifi_gateway_t) : wifi_gateway_t × esp_err_t × List driver_call :=
  match configure_sta_credentials ssid password esp_wifi_set_config with
  | (.ESP_OK, calls) =>
      let s := { s with
        s_sta_credential_failure_count := 0
        s_sta_unreachable_count := 0
        s_sta_ip := no_ip
        s_sta_reconfigure_pending := true }
      -- the old link goes down first; the handler connects when that has happened
      let calls := calls ++ [.esp_wifi_disconnect]
      if esp_wifi_disconnect = .ESP_OK then
        ({ s with s_status := STA_CONNECTING }, .ESP_OK, calls)
      else
        -- there was no link: no STA_DISCONNECTED will come, so the connect request is made here
        let s := { s with s_sta_reconfigure_pending := false }
        if esp_wifi_disconnect ≠ .ESP_ERR_WIFI_NOT_CONNECT then (s, esp_wifi_disconnect, calls)
        else
          let (s, err, connect_calls) := connect_sta esp_wifi_connect s
          (s, err, calls ++ connect_calls)
  | (err, calls) => (s, err, calls)

/-- `wifi_gateway_start`; `setup` is the results of its calls in front of
`esp_wifi_connect`, in order, which do not connect. -/
def wifi_gateway_start (config : wifi_gateway_config_t) (setup : List esp_err_t)
    (esp_wifi_connect : esp_err_t) (s : wifi_gateway_t) :
    wifi_gateway_t × esp_err_t × List driver_call :=
  if validate_config (some config) ≠ .ESP_OK then (s, validate_config (some config), [])
  else
    let s := { s with s_status := STARTING }
    match setup.find? (· ≠ .ESP_OK) with
    | some err => (s, err, [])
    | none =>
        if config.sta_enabled then connect_sta esp_wifi_connect s
        else ({ s with s_status := PROVISIONING }, .ESP_OK, [])

/-- `wifi_gateway_set_status`. -/
def wifi_gateway_set_status (status : wifi_gateway_status_t) (s : wifi_gateway_t) :
    wifi_gateway_t :=
  { s with s_status := status }

/-! ## Events -/

/-- An address as `IPSTR` prints it. -/
def ip_text (a b c d : UInt8) : c_string :=
  c_str (toString a ++ "." ++ toString b ++ "." ++ toString c ++ "." ++ toString d)

/-- The status behind a connect request of the handler. -/
def reconnect_status (esp_wifi_connect : esp_err_t) : wifi_gateway_status_t :=
  if esp_wifi_connect = .ESP_OK then STA_CONNECTING else STA_DISCONNECTED

/-- The counting of a lost link: the state with the counters, and whether one of them is
at the limit. Without data nothing is counted. -/
def count_disconnect (reason : Option UInt8) (s : wifi_gateway_t) :
    wifi_gateway_t × Bool × Bool :=
  match reason with
  -- `disconnect_event == NULL`
  | none => (s, false, false)
  | some reason =>
      let s :=
        if is_sta_credential_failure reason then
          { s with
            s_sta_credential_failure_count := count_failure s.s_sta_credential_failure_count }
        else { s with s_sta_unreachable_count := count_failure s.s_sta_unreachable_count }
      -- both counters are looked at, whichever was counted
      (s, s.s_sta_credential_failure_count ≥ STA_CREDENTIAL_FAILURE_LIMIT,
        s.s_sta_unreachable_count ≥ STA_CREDENTIAL_FAILURE_LIMIT)

/-- `wifi_event_handler` for a lost link. -/
def handle_disconnect (esp_wifi_connect : esp_err_t) (reason : Option UInt8)
    (s : wifi_gateway_t) : wifi_gateway_t × List driver_call :=
  -- the link went down for a slot switch: not a failure, whatever the reason
  if s.s_sta_reconfigure_pending then
    ({ s with
        s_sta_reconfigure_pending := false
        s_sta_credential_failure_count := 0
        s_sta_unreachable_count := 0
        s_sta_ip := no_ip
        s_status := reconnect_status esp_wifi_connect }, [.esp_wifi_connect])
  else
    let (s, credential_recovery, unreachable_recovery) := count_disconnect reason s
    let s := { s with s_sta_ip := no_ip }
    -- no connect request in these two: the main loop has to react to the status
    if credential_recovery then ({ s with s_status := STA_RECOVERY_REQUIRED }, [])
    else if unreachable_recovery then ({ s with s_status := STA_UNREACHABLE }, [])
    else ({ s with s_status := reconnect_status esp_wifi_connect }, [.esp_wifi_connect])

/-- `wifi_event_handler`. -/
def wifi_event_handler (esp_wifi_connect : esp_err_t) (event : wifi_event_t)
    (s : wifi_gateway_t) : wifi_gateway_t × List driver_call :=
  match event with
  | .STA_CONNECTED =>
      ({ s with
          s_sta_credential_failure_count := 0
          s_sta_unreachable_count := 0
          s_status := STA_CONNECTED }, [])
  | .STA_GOT_IP a b c d => ({ s with s_status := STA_GOT_IP, s_sta_ip := ip_text a b c d }, [])
  | .STA_DISCONNECTED reason => handle_disconnect esp_wifi_connect reason s
  | .AP_STACONNECTED => ({ s with s_current_clients := s.s_current_clients + 1 }, [])
  | .AP_STADISCONNECTED =>
      (if s.s_current_clients > 0 then { s with s_current_clients := s.s_current_clients - 1 }
       else s, [])
  | .OTHER => (s, [])

/-! ## What a slot switch does -/

/-- Only `esp_wifi_set_config` may be called before the new credentials are in place. -/
theorem configure_sta_credentials_calls (ssid password : Option c_string)
    (esp_wifi_set_config : esp_err_t) :
    (configure_sta_credentials ssid password esp_wifi_set_config).2 = [] ∨
      (configure_sta_credentials ssid password esp_wifi_set_config).2 = [.esp_wifi_set_config] := by
  rw [configure_sta_credentials]
  split
  · exact .inr rfl
  · exact .inl rfl

/-- The counters and the address of a new slot. -/
def new_slot (s : wifi_gateway_t) : wifi_gateway_t :=
  { s with
    s_sta_credential_failure_count := 0
    s_sta_unreachable_count := 0
    s_sta_ip := no_ip
    s_sta_reconfigure_pending := false }

/-- How `wifi_gateway_connect_sta` ends, with the state, its error and its calls behind
`esp_wifi_set_config`. -/
inductive ConnectSta (configured esp_wifi_disconnect esp_wifi_connect : esp_err_t)
    (s : wifi_gateway_t) : wifi_gateway_t → esp_err_t → List driver_call → Prop
  | rejected (h : configured ≠ .ESP_OK) : ConnectSta configured esp_wifi_disconnect
      esp_wifi_connect s s configured []
  | switching (h : configured = .ESP_OK) (hdisconnect : esp_wifi_disconnect = .ESP_OK) :
      ConnectSta configured esp_wifi_disconnect esp_wifi_connect s
        { new_slot s with s_sta_reconfigure_pending := true, s_status := STA_CONNECTING } .ESP_OK
        [.esp_wifi_disconnect]
  | refused (h : configured = .ESP_OK) (hdisconnect : esp_wifi_disconnect ≠ .ESP_OK) :
      ConnectSta configured esp_wifi_disconnect esp_wifi_connect s (new_slot s)
        esp_wifi_disconnect [.esp_wifi_disconnect]
  | failed (h : configured = .ESP_OK) (hdisconnect : esp_wifi_disconnect ≠ .ESP_OK)
      (hconnect : esp_wifi_connect ≠ .ESP_OK) :
      ConnectSta configured esp_wifi_disconnect esp_wifi_connect s (new_slot s) esp_wifi_connect
        [.esp_wifi_disconnect, .esp_wifi_connect]
  | connecting (h : configured = .ESP_OK) (hdisconnect : esp_wifi_disconnect ≠ .ESP_OK)
      (hconnect : esp_wifi_connect = .ESP_OK) :
      ConnectSta configured esp_wifi_disconnect esp_wifi_connect s
        { new_slot s with s_status := STA_CONNECTING } .ESP_OK
        [.esp_wifi_disconnect, .esp_wifi_connect]

theorem wifi_gateway_connect_sta_ends (ssid password : Option c_string)
    (esp_wifi_set_config esp_wifi_disconnect esp_wifi_connect : esp_err_t)
    (s : wifi_gateway_t) :
    ∃ s' err calls,
      wifi_gateway_connect_sta ssid password esp_wifi_set_config esp_wifi_disconnect
          esp_wifi_connect s
        = (s', err, (configure_sta_credentials ssid password esp_wifi_set_config).2 ++ calls) ∧
      ConnectSta (configure_sta_credentials ssid password esp_wifi_set_config).1
        esp_wifi_disconnect esp_wifi_connect s s' err calls := by
  rw [wifi_gateway_connect_sta]
  obtain ⟨configured, before⟩ := configure_sta_credentials ssid password esp_wifi_set_config
  by_cases hconfigured : configured = .ESP_OK
  · subst hconfigured
    dsimp only
    by_cases hdisconnect : esp_wifi_disconnect = .ESP_OK
    · rw [if_pos hdisconnect]
      exact ⟨_, _, _, rfl, .switching rfl hdisconnect⟩
    · rw [if_neg hdisconnect]
      by_cases hidle : esp_wifi_disconnect = .ESP_ERR_WIFI_NOT_CONNECT
      · rw [if_neg fun hne => hne hidle, connect_sta]
        by_cases hconnect : esp_wifi_connect = .ESP_OK
        · rw [if_neg fun hne => hne hconnect]
          exact ⟨_, _, _, by rw [List.append_assoc]; rfl, .connecting rfl hdisconnect hconnect⟩
        · rw [if_pos hconnect]
          exact ⟨_, _, _, by rw [List.append_assoc]; rfl, .failed rfl hdisconnect hconnect⟩
      · rw [if_pos hidle]
        exact ⟨_, _, _, rfl, .refused rfl hdisconnect⟩
  · refine ⟨s, configured, [], ?_, .rejected hconfigured⟩
    rw [List.append_nil]
    split
    · next calls hpair => exact absurd (congrArg Prod.fst hpair) hconfigured
    · next err calls hne hpair =>
        obtain ⟨rfl, rfl⟩ := Prod.mk.inj hpair
        rfl

end WifiManager.WifiGateway
