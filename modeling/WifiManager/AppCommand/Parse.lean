/-
`components/app_command`: from an MQTT message to a command.

The command is named by the last level of the topic. Its fields are found by scanning
the payload for `"key":`, except for STAGE_WIFI_CONFIG, whose payload goes through
cJSON; the JSON parser is a parameter. A function that fills the request returns the
request it leaves behind next to its error code, as far as it had been filled when the
error was found. A topic and a payload are given by their bytes, so that a length of
zero or less is the empty list; `none` is a NULL pointer.
-/
import Mathlib.Data.Rat.Floor
import WifiManager.Esp
import WifiManager.Lib.CString

set_option autoImplicit false

namespace WifiManager.AppCommand

open WifiManager.Lib

/-! ## Data -/

def APP_COMMAND_REQUEST_ID_SIZE : ℕ := 64
def APP_COMMAND_TYPE_SIZE : ℕ := 32
def APP_COMMAND_MAC_SIZE : ℕ := 18
def APP_COMMAND_TTL_SECONDS_MIN : ℤ := 1
def APP_COMMAND_TTL_SECONDS_MAX : ℤ := 86400
def APP_COMMAND_DESTINATION_IP_SIZE : ℕ := 46
def APP_COMMAND_SNI_SIZE : ℕ := 256
def APP_COMMAND_DEVICE_CODE_SIZE : ℕ := 64
def APP_COMMAND_WIFI_SSID_SIZE : ℕ := 33
def APP_COMMAND_WIFI_PASSWORD_SIZE : ℕ := 64
def COMMAND_PAYLOAD_BUFFER_SIZE : ℕ := 2048
def COMMAND_TOPIC_BUFFER_SIZE : ℕ := 128

/-- `app_command_type_t`. -/
inductive app_command_type_t
  | UNKNOWN
  | ALLOW
  | REVOKE_ACCESS
  | KICK
  | DISCONNECT_MAC
  | BLOCK_TRAFFIC
  | STAGE_WIFI_CONFIG
  | PING
  | GET_STATUS
  deriving DecidableEq, Repr

open app_command_type_t

/-- `app_command_request_t`; the default value is the cleared structure. -/
structure app_command_request_t where
  request_id : c_string := []
  type : app_command_type_t := UNKNOWN
  mac : c_string := []
  dst_ip : c_string := []
  sni : c_string := []
  device_code : c_string := []
  wifi_ssid : c_string := []
  wifi_password : c_string := []
  wifi_config_version : UInt32 := 0
  alert_id : ℤ := 0
  session_id : ℤ := 0
  ttl_seconds : ℤ := 0
  deriving DecidableEq, Repr

/-- What cJSON makes of a document: the kinds of item that are told apart here. -/
inductive cJSON
  | object (members : List (c_string × cJSON))
  | string (valuestring : c_string)
  | number (valuedouble : ℚ)
  | other

/-! ## The topic -/

/-- `read_command_type_from_topic`. -/
def read_command_type_from_topic (topic : List UInt8) : Except esp_err_t app_command_type_t :=
  -- one byte is kept for the terminator, which the topic of a message does not have
  if topic.length ≥ COMMAND_TOPIC_BUFFER_SIZE then .error .ESP_ERR_NO_MEM
  else
    match CString.after_last_chr (CString.of_buffer topic) 0x2F with
    | none => .error .ESP_ERR_NOT_FOUND
    | some command_name =>
        if command_name = [] then .error .ESP_ERR_NOT_FOUND
        else if command_name = c_str "allow" then .ok ALLOW
        else if command_name = c_str "revoke-access" then .ok REVOKE_ACCESS
        else if command_name = c_str "kick" then .ok KICK
        else if command_name = c_str "disconnect-mac" then .ok DISCONNECT_MAC
        else if command_name = c_str "block-traffic" then .ok BLOCK_TRAFFIC
        else if command_name = c_str "stage-wifi-config" then .ok STAGE_WIFI_CONFIG
        -- well formed, but none of the formal commands
        else .error .ESP_ERR_NOT_FOUND

/-! ## Fields -/

/-- `read_json_string_field`: the text left in the output buffer, and the error code. -/
def read_json_string_field (json key : c_string) (out_size : ℕ) : c_string × esp_err_t :=
  -- no white space between the key and the value
  let pattern := c_str "\"" ++ key ++ c_str "\":\""
  if pattern.length ≥ 64 then ([], .ESP_ERR_NO_MEM)
  else
    match CString.strstr json pattern with
    | none => ([], .ESP_ERR_NOT_FOUND)
    | some start =>
        -- the value ends at the next quotation mark, escaped or not
        match CString.before_chr (start.drop pattern.length) 0x22 with
        | none => ([], .ESP_ERR_INVALID_ARG)
        | some value =>
            if value.length ≥ out_size then ([], .ESP_ERR_NO_MEM) else (value, .ESP_OK)

/-- `read_json_int64_field`. -/
def read_json_int64_field (json key : c_string) : ℤ × esp_err_t :=
  let pattern := c_str "\"" ++ key ++ c_str "\":"
  if pattern.length ≥ 64 then (0, .ESP_ERR_NO_MEM)
  else
    match CString.strstr json pattern with
    | none => (0, .ESP_ERR_NOT_FOUND)
    | some start =>
        -- what stands behind the digits is not looked at
        match CString.strtoll (start.drop pattern.length) with
        | none => (0, .ESP_ERR_INVALID_ARG)
        | some value => (value, .ESP_OK)

/-! ## The payload of each command -/

/-- ALLOW: MAC, session and duration, all required. -/
def parse_allow (payload : c_string) (request : app_command_request_t) :
    app_command_request_t × esp_err_t :=
  let (mac, err) := read_json_string_field payload (c_str "mac") APP_COMMAND_MAC_SIZE
  let request := { request with mac := mac }
  if err ≠ .ESP_OK then (request, err)
  else
    let (session_id, err) := read_json_int64_field payload (c_str "sessionId")
    let request := { request with session_id := session_id }
    if err ≠ .ESP_OK then (request, err)
    else if request.session_id ≤ 0 then (request, .ESP_ERR_INVALID_ARG)
    else
      let (ttl_seconds, err) := read_json_int64_field payload (c_str "ttlSeconds")
      let request := { request with ttl_seconds := ttl_seconds }
      if err ≠ .ESP_OK then (request, err)
      else if request.ttl_seconds < APP_COMMAND_TTL_SECONDS_MIN ∨
          request.ttl_seconds > APP_COMMAND_TTL_SECONDS_MAX then
        (request, .ESP_ERR_INVALID_ARG)
      else (request, .ESP_OK)

/-- REVOKE_ACCESS: MAC and session. -/
def parse_revoke_access (payload : c_string) (request : app_command_request_t) :
    app_command_request_t × esp_err_t :=
  let (mac, err) := read_json_string_field payload (c_str "mac") APP_COMMAND_MAC_SIZE
  let request := { request with mac := mac }
  if err ≠ .ESP_OK then (request, err)
  else
    let (session_id, err) := read_json_int64_field payload (c_str "sessionId")
    let request := { request with session_id := session_id }
    if err ≠ .ESP_OK then (request, err)
    else if request.session_id ≤ 0 then (request, .ESP_ERR_INVALID_ARG)
    else (request, .ESP_OK)

/-- DISCONNECT_MAC: MAC and alert; alert 0 is a manual command. -/
def parse_disconnect_mac (payload : c_string) (request : app_command_request_t) :
    app_command_request_t × esp_err_t :=
  let (mac, err) := read_json_string_field payload (c_str "mac") APP_COMMAND_MAC_SIZE
  let request := { request with mac := mac }
  if err ≠ .ESP_OK then (request, err)
  else
    let (alert_id, err) := read_json_int64_field payload (c_str "alertId")
    let request := { request with alert_id := alert_id }
    if err ≠ .ESP_OK then (request, err)
    else if request.alert_id < 0 then (request, .ESP_ERR_INVALID_ARG)
    else (request, .ESP_OK)

/-- KICK: the reason is optional and kept in the field of the MAC. -/
def parse_kick (payload : c_string) (request : app_command_request_t) :
    app_command_request_t × esp_err_t :=
  let (mac, err) := read_json_string_field payload (c_str "reason") APP_COMMAND_MAC_SIZE
  let request := { request with mac := mac }
  -- a reason that does not fit into the MAC's field is an error
  if err ≠ .ESP_OK ∧ err ≠ .ESP_ERR_NOT_FOUND then (request, err) else (request, .ESP_OK)

/-- BLOCK_TRAFFIC: alert and destination, and an optional host name. -/
def parse_block_traffic (payload : c_string) (request : app_command_request_t) :
    app_command_request_t × esp_err_t :=
  let (alert_id, err) := read_json_int64_field payload (c_str "alertId")
  let request := { request with alert_id := alert_id }
  if err ≠ .ESP_OK ∨ request.alert_id < 0 then
    (request, if err = .ESP_OK then .ESP_ERR_INVALID_ARG else err)
  else
    let (dst_ip, err) :=
      read_json_string_field payload (c_str "dstIp") APP_COMMAND_DESTINATION_IP_SIZE
    let request := { request with dst_ip := dst_ip }
    if err ≠ .ESP_OK then (request, err)
    else
      let (sni, err) := read_json_string_field payload (c_str "sni") APP_COMMAND_SNI_SIZE
      let request := { request with sni := sni }
      if err ≠ .ESP_OK ∧ err ≠ .ESP_ERR_NOT_FOUND then (request, err) else (request, .ESP_OK)

/-! ## STAGE_WIFI_CONFIG -/

/-- `cJSON_GetObjectItemCaseSensitive`: the first member with the key. -/
def cJSON_GetObjectItemCaseSensitive (members : List (c_string × cJSON)) (key : c_string) :
    Option cJSON :=
  (members.find? fun member => member.1 = key).map Prod.snd

/-- `copy_required_json_string`. -/
def copy_required_json_string (members : List (c_string × cJSON)) (key : c_string)
    (output_size : ℕ) (allow_empty : Bool) : Except esp_err_t c_string :=
  match cJSON_GetObjectItemCaseSensitive members key with
  | some (.string valuestring) =>
      if (allow_empty = false ∧ valuestring.length = 0) ∨ valuestring.length ≥ output_size then
        .error .ESP_ERR_INVALID_ARG
      else .ok valuestring
  | _ => .error .ESP_ERR_INVALID_ARG

/-- The version: a number that is a 32-bit integer from 1 on. -/
def read_config_version (members : List (c_string × cJSON)) : Except esp_err_t UInt32 :=
  match cJSON_GetObjectItemCaseSensitive members (c_str "configVersion") with
  | some (.number valuedouble) =>
      if valuedouble < 1 ∨ valuedouble > 0xFFFFFFFF then .error .ESP_ERR_INVALID_ARG
      else
        let parsed_version := UInt32.ofNat valuedouble.floor.toNat
        -- the cast to `uint32_t` loses a fraction
        if (parsed_version.toNat : ℚ) ≠ valuedouble then .error .ESP_ERR_INVALID_ARG
        else .ok parsed_version
  | _ => .error .ESP_ERR_INVALID_ARG

/-- `parse_stage_wifi_config_payload`. -/
def parse_stage_wifi_config_payload (cJSON_ParseWithOpts : c_string → Option cJSON)
    (payload : c_string) (request : app_command_request_t) : app_command_request_t × esp_err_t :=
  match cJSON_ParseWithOpts payload with
  | some (.object root) =>
      match copy_required_json_string root (c_str "requestId") APP_COMMAND_REQUEST_ID_SIZE
          false with
      | .error err => (request, err)
      | .ok request_id =>
      let request := { request with request_id := request_id }
      match copy_required_json_string root (c_str "deviceCode") APP_COMMAND_DEVICE_CODE_SIZE
          false with
      | .error err => (request, err)
      | .ok device_code =>
      let request := { request with device_code := device_code }
      match copy_required_json_string root (c_str "ssid") APP_COMMAND_WIFI_SSID_SIZE false with
      | .error err => (request, err)
      | .ok ssid =>
      let request := { request with wifi_ssid := ssid }
      match copy_required_json_string root (c_str "password") APP_COMMAND_WIFI_PASSWORD_SIZE
          true with
      | .error err => (request, err)
      | .ok password =>
      let request := { request with wifi_password := password }
      match read_config_version root with
      | .error err => (request, err)
      | .ok version =>
      let request := { request with wifi_config_version := version }
      let ssid_length := request.wifi_ssid.length
      let password_length := request.wifi_password.length
      if ssid_length < 1 ∨ ssid_length > 32 ∨ (password_length > 0 ∧ password_length < 8) ∨
          password_length > 63 then
        (request, .ESP_ERR_INVALID_ARG)
      else (request, .ESP_OK)
  | _ => (request, .ESP_ERR_INVALID_ARG)

/-! ## The message -/

/-- The payload of a command named by the topic. -/
def parse_formal_command (payload : c_string) (request : app_command_request_t) :
    app_command_request_t × esp_err_t :=
  match request.type with
  | ALLOW => parse_allow payload request
  | REVOKE_ACCESS => parse_revoke_access payload request
  | DISCONNECT_MAC => parse_disconnect_mac payload request
  | KICK => parse_kick payload request
  | BLOCK_TRAFFIC => parse_block_traffic payload request
  | _ => (request, .ESP_OK)

/-- The test commands, which the payload names itself. -/
def parse_test_command (payload : c_string) (request : app_command_request_t) :
    app_command_request_t × esp_err_t :=
  let (command_type, err) := read_json_string_field payload (c_str "type") APP_COMMAND_TYPE_SIZE
  if err ≠ .ESP_OK then (request, err)
  else if command_type = c_str "PING" then ({ request with type := PING }, .ESP_OK)
  else if command_type = c_str "GET_STATUS" then ({ request with type := GET_STATUS }, .ESP_OK)
  else (request, .ESP_ERR_NOT_FOUND)

/-- `app_command_parse`; `request` is what the caller's structure holds before. -/
def app_command_parse (cJSON_ParseWithOpts : c_string → Option cJSON)
    (topic payload : Option (List UInt8)) (request : app_command_request_t) :
    app_command_request_t × esp_err_t :=
  match topic, payload with
  | some topic, some payload =>
      if topic = [] ∨ payload = [] then (request, .ESP_ERR_INVALID_ARG)
      -- the request is cleared before anything else is checked
      else if payload.length ≥ COMMAND_PAYLOAD_BUFFER_SIZE then ({}, .ESP_ERR_NO_MEM)
      else
        let payload_buffer := CString.of_buffer payload
        let topic_result := read_command_type_from_topic topic
        if topic_result = .ok STAGE_WIFI_CONFIG then
          parse_stage_wifi_config_payload cJSON_ParseWithOpts payload_buffer
            { type := STAGE_WIFI_CONFIG }
        else
          -- the request id is optional in every other command
          let (request_id, err) :=
            read_json_string_field payload_buffer (c_str "requestId") APP_COMMAND_REQUEST_ID_SIZE
          let request : app_command_request_t := { request_id := request_id }
          if err ≠ .ESP_OK ∧ err ≠ .ESP_ERR_NOT_FOUND then (request, err)
          else
            match topic_result with
            | .ok topic_command_type =>
                -- the type is set first, so a failed payload still says which command it was of
                parse_formal_command payload_buffer { request with type := topic_command_type }
            | .error err =>
                if err ≠ .ESP_ERR_NOT_FOUND then (request, err)
                else parse_test_command payload_buffer request
  | _, _ => (request, .ESP_ERR_INVALID_ARG)

/-! ## What an accepted ALLOW says -/

section Types

variable (payload : c_string) (request : app_command_request_t)

/-- The payload of a command does not change its type. -/
theorem parse_formal_command_type :
    (parse_formal_command payload request).1.type = request.type := by
  unfold parse_formal_command
  split
  · dsimp only [parse_allow]
    split_ifs <;> rfl
  · dsimp only [parse_revoke_access]
    split_ifs <;> rfl
  · dsimp only [parse_disconnect_mac]
    split_ifs <;> rfl
  · dsimp only [parse_kick]
    split_ifs <;> rfl
  · dsimp only [parse_block_traffic]
    split_ifs <;> rfl
  · rfl

theorem parse_stage_wifi_config_payload_type (cJSON_ParseWithOpts : c_string → Option cJSON) :
    (parse_stage_wifi_config_payload cJSON_ParseWithOpts payload request).1.type
      = request.type := by
  dsimp only [parse_stage_wifi_config_payload]
  split
  · -- whichever field is refused, the type has been left alone
    repeat' (first | rfl | split)
  · rfl

/-- A test command is not an ALLOW. -/
theorem parse_test_command_type (h : request.type = UNKNOWN) :
    (parse_test_command payload request).1.type ≠ ALLOW := by
  dsimp only [parse_test_command]
  split_ifs <;> simp [h]

end Types

/-- A topic that names no command is an error of its own. -/
theorem read_command_type_error {topic : List UInt8} {err : esp_err_t}
    (h : read_command_type_from_topic topic = .error err) : err ≠ .ESP_OK := by
  rintro rfl
  unfold read_command_type_from_topic at h
  split_ifs at h
  · cases h
  · split at h
    · cases h
    · split_ifs at h
      all_goals cases h

/-- The fields of an accepted ALLOW are in range. -/
structure AllowRanges (request : app_command_request_t) : Prop where
  session_id : 0 < request.session_id
  ttl_min : 1 ≤ request.ttl_seconds
  ttl_max : request.ttl_seconds ≤ 86400

theorem parse_allow_ranges {payload : c_string} {request request' : app_command_request_t}
    (h : parse_allow payload request = (request', .ESP_OK)) : AllowRanges request' := by
  dsimp only [parse_allow] at h
  split_ifs at h with hmac hid hsession httl hrange
  · exact absurd (congrArg Prod.snd h) hmac
  · exact absurd (congrArg Prod.snd h) hid
  · cases h
  · exact absurd (congrArg Prod.snd h) httl
  · cases h
  · obtain ⟨rfl, -⟩ := Prod.mk.inj h
    rw [APP_COMMAND_TTL_SECONDS_MIN, APP_COMMAND_TTL_SECONDS_MAX] at hrange
    constructor
    · exact Int.not_le.mp hsession
    · dsimp only
      omega
    · dsimp only
      omega

/-- **Every accepted ALLOW has a session and a duration from one second to one day.** -/
theorem app_command_parse_allow {cJSON_ParseWithOpts : c_string → Option cJSON}
    {topic payload : Option (List UInt8)} {request request' : app_command_request_t}
    (h : app_command_parse cJSON_ParseWithOpts topic payload request = (request', .ESP_OK))
    (htype : request'.type = ALLOW) : AllowRanges request' := by
  cases topic with
  | none => simp [app_command_parse] at h
  | some topic =>
  cases payload with
  | none => simp [app_command_parse] at h
  | some payload =>
  dsimp only [app_command_parse] at h
  split_ifs at h with hempty hlong hstage hid
  · cases h
  · cases h
  · -- the payload of STAGE_WIFI_CONFIG keeps that type
    have hkept := parse_stage_wifi_config_payload_type (CString.of_buffer payload)
      { type := STAGE_WIFI_CONFIG } cJSON_ParseWithOpts
    rw [h, htype] at hkept
    cases hkept
  · -- a request id that is not readable is an error
    have herr := congrArg Prod.snd h
    exact absurd herr hid.1
  · cases hcommand : read_command_type_from_topic topic with
    | ok topic_command_type =>
        rw [hcommand] at h
        dsimp only at h
        have hkept := parse_formal_command_type (CString.of_buffer payload)
          { request_id := (read_json_string_field (CString.of_buffer payload) (c_str "requestId")
              APP_COMMAND_REQUEST_ID_SIZE).1, type := topic_command_type }
        rw [h, htype] at hkept
        dsimp only at hkept
        subst hkept
        exact parse_allow_ranges h
    -- without a type in the topic only the type of the payload is left, and it is none of the
    -- formal ones
    | error err =>
        rw [hcommand] at h
        dsimp only at h
        split_ifs at h with herr
        · exact absurd (congrArg Prod.snd h) (read_command_type_error hcommand)
        · have hkept := parse_test_command_type (CString.of_buffer payload)
            { request_id := (read_json_string_field (CString.of_buffer payload) (c_str "requestId")
                APP_COMMAND_REQUEST_ID_SIZE).1 } rfl
          rw [h] at hkept
          exact absurd htype hkept

end WifiManager.AppCommand
