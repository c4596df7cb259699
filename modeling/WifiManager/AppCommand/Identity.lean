/-
What a request says about itself, accepted or not.

A result goes back under the request id and the type that the parser leaves behind, also where
it refuses the message. The id fits its field whichever of the two parsers has read it, and an
accepted request always has one of the eight types that can be executed.
-/
import WifiManager.AppCommand.Stage
import WifiManager.AppCommand.WhiteSpace

set_option autoImplicit false

namespace WifiManager.AppCommand

open WifiManager.Lib

open app_command_type_t

/-! ## The request id -/

/-- What has been read fits. -/
theorem read_json_string_field_length (json key : c_string) {out_size : ℕ} (h : 0 < out_size) :
    (read_json_string_field json key out_size).1.length < out_size := by
  unfold read_json_string_field
  dsimp only
  split_ifs
  · exact h
  · split
    · exact h
    · split
      · exact h
      · split_ifs with hlong
        · exact h
        · exact Nat.lt_of_not_ge hlong

/-- The payload of a command does not change its request id. -/
theorem parse_formal_command_request_id (payload : c_string) (request : app_command_request_t) :
    (parse_formal_command payload request).1.request_id = request.request_id := by
  unfold parse_formal_command
  split
  · dsimp only [parse_allow]
    split_ifs <;> rfl
  · dsimp only [parse_revoke_access]
    split_ifs <;> rfl
  · dsimp only [parse_disconnect_mac]
    split_ifs <;> rfl
  · dsimp only [parse_kick]
    split_ifs <;> rfl
  · dsimp only [parse_block_traffic]
    split_ifs <;> rfl
  · rfl

theorem parse_test_command_request_id (payload : c_string) (request : app_command_request_t) :
    (parse_test_command payload request).1.request_id = request.request_id := by
  dsimp only [parse_test_command]
  split_ifs <;> rfl

theorem parse_stage_wifi_config_payload_request_id
    (cJSON_ParseWithOpts : c_string → Option cJSON) (payload : c_string)
    {request : app_command_request_t}
    (h : request.request_id.length < APP_COMMAND_REQUEST_ID_SIZE) :
    (parse_stage_wifi_config_payload cJSON_ParseWithOpts payload request).1.request_id.length
      < APP_COMMAND_REQUEST_ID_SIZE := by
  dsimp only [parse_stage_wifi_config_payload]
  split
  · split
    · exact h
    · rename_i request_id hrequest_id
      have hfits := (copy_required_json_string_ok hrequest_id).2
      -- no later field is stored in its place
      repeat' (first | exact hfits | split)
  · exact h

/-- **Every request id fits**, also that of a message that is refused. -/
theorem app_command_parse_request_id (cJSON_ParseWithOpts : c_string → Option cJSON)
    (topic payload : Option (List UInt8)) {request : app_command_request_t}
    (h : request.request_id.length < APP_COMMAND_REQUEST_ID_SIZE) :
    (app_command_parse cJSON_ParseWithOpts topic payload request).1.request_id.length
      < APP_COMMAND_REQUEST_ID_SIZE := by
  have hcleared : (0 : ℕ) < APP_COMMAND_REQUEST_ID_SIZE := by decide
  rcases topic with - | topic
  · exact h
  rcases payload with - | payload
  · exact h
  dsimp only [app_command_parse]
  have hread := read_json_string_field_length (CString.of_buffer payload) (c_str "requestId")
    hcleared
  split_ifs
  · exact h
  · exact hcleared
  · exact parse_stage_wifi_config_payload_request_id cJSON_ParseWithOpts _ hcleared
  · exact hread
  · cases read_command_type_from_topic topic with
    | ok topic_command_type =>
        dsimp only
        rw [parse_formal_command_request_id]
        exact hread
    | error err =>
        dsimp only
        split_ifs
        · exact hread
        · rw [parse_test_command_request_id]
          exact hread

/-! ## The type -/

theorem parse_test_command_ok {payload : c_string} {request request' : app_command_request_t}
    (h : parse_test_command payload request = (request', .ESP_OK)) :
    request'.type = PING ∨ request'.type = GET_STATUS := by
  dsimp only [parse_test_command] at h
  split_ifs at h with hread hping hstatus
  · exact absurd (congrArg Prod.snd h) hread
  · obtain ⟨rfl, -⟩ := Prod.mk.inj h
    exact .inl rfl
  · obtain ⟨rfl, -⟩ := Prod.mk.inj h
    exact .inr rfl
  · cases h

/-- **Every accepted request has a type that is executed.** -/
theorem app_command_parse_type {cJSON_ParseWithOpts : c_string → Option cJSON}
    {topic payload : Option (List UInt8)} {request request' : app_command_request_t}
    (h : app_command_parse cJSON_ParseWithOpts topic payload request = (request', .ESP_OK)) :
    request'.type ≠ UNKNOWN := by
  rcases topic with - | topic
  · cases h
  rcases payload with - | payload
  · cases h
  dsimp only [app_command_parse] at h
  split_ifs at h with hempty hlong hstage hid
  · cases h
  · cases h
  · have hkept := parse_stage_wifi_config_payload_type (CString.of_buffer payload)
      { type := STAGE_WIFI_CONFIG } cJSON_ParseWithOpts
    rw [h] at hkept
    rw [hkept]
    decide
  · exact absurd (congrArg Prod.snd h) hid.1
  · cases hcommand : read_command_type_from_topic topic with
    | ok topic_command_type =>
        rw [hcommand] at h
        dsimp only at h
        have hkept := parse_formal_command_type (CString.of_buffer payload)
          { request_id := (read_json_string_field (CString.of_buffer payload) (c_str "requestId")
              APP_COMMAND_REQUEST_ID_SIZE).1, type := topic_command_type }
        rw [h] at hkept
        rw [hkept]
        rintro rfl
        exact read_command_type_ne_unknown hcommand
    | error err =>
        rw [hcommand] at h
        dsimp only at h
        split_ifs at h with hfound
        · exact absurd (congrArg Prod.snd h) (read_command_type_error hcommand)
        · rcases parse_test_command_ok h with hping | hstatus
          · rw [hping]
            decide
          · rw [hstatus]
            decide

end WifiManager.AppCommand
