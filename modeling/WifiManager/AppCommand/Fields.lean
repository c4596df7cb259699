/-
The fields of the commands, as a JSON object shows them.

Every command but STAGE_WIFI_CONFIG reads its fields one after the other and stops at the first
one that is missing, too long or out of range. Where the payload is a JSON object, the search in
its text is one among its tokens, so that what a field reads depends on the first visible place
of its key only (`command_field.read`). A command is then a table of fields, and
`app_command_parse_eq` takes the whole parser to a walk through the table.
-/
import WifiManager.AppCommand.Parse
import WifiManager.Lib.JsonText

set_option autoImplicit false

namespace WifiManager.AppCommand

open WifiManager.Lib JsonText app_command_type_t

/-! ## One field -/

/-- A field of a command. -/
inductive command_field
  | text (key : c_string) (size : ℕ) (required : Bool)
  | number (key : c_string) (out_of_range : ℤ → Bool)

/-- What is kept of a field. -/
@[reducible] def command_field.value : command_field → Type
  | text _ _ _ => c_string
  | number _ _ => ℤ

/-- A field that has been cleared. -/
def command_field.cleared : (field : command_field) → field.value
  | text _ _ _ => []
  | number _ _ => 0

/-- A text: what is kept of it, and the error that ends the command. -/
def read_text (key : c_string) (size : ℕ) (required : Bool)
    (items : List (json_token × List UInt8)) : c_string × Option esp_err_t :=
  match visible (string_at key) items with
  | none => ([], if required then some .ESP_ERR_NOT_FOUND else none)
  | some raw =>
      -- an escaped quotation mark ends the value too
      let value := raw.takeWhile (· ≠ quote)
      if value.length ≥ size then ([], some .ESP_ERR_NO_MEM) else (value, none)

/-- A number: the same. -/
def read_number (key : c_string) (out_of_range : ℤ → Bool)
    (items : List (json_token × List UInt8)) : ℤ × Option esp_err_t :=
  match visible (number_at key) items with
  | none => (0, some .ESP_ERR_NOT_FOUND)
  | some token =>
      match CString.strtoll token.text with
      | none => (0, some .ESP_ERR_INVALID_ARG)
      | some value => (value, if out_of_range value then some .ESP_ERR_INVALID_ARG else none)

/-- What a field reads. -/
def command_field.read :
    (field : command_field) → List (json_token × List UInt8) → field.value × Option esp_err_t
  | text key size required => read_text key size required
  | number key out_of_range => read_number key out_of_range

/-! ## The search -/

/-- The text between the quotation marks behind the pattern. -/
theorem read_json_string_field_behind {key : c_string} (hlength : key.length < 60)
    (json : c_string) (size : ℕ) :
    read_json_string_field json key size
      = match (CString.behind json (string_pattern key)).map (CString.before_chr · quote) with
        | none => ([], .ESP_ERR_NOT_FOUND)
        | some none => ([], .ESP_ERR_INVALID_ARG)
        | some (some value) =>
            if value.length ≥ size then ([], .ESP_ERR_NO_MEM) else (value, .ESP_OK) := by
  have hpattern : c_str "\"" ++ key ++ c_str "\":\"" = string_pattern key := by
    rw [string_pattern, ← List.cons_append, List.append_assoc]
    rfl
  have hfits : ¬ (string_pattern key).length ≥ 64 := by
    rw [string_pattern, List.length_cons, List.length_append]
    simp only [List.length_cons, List.length_nil]
    omega
  dsimp only [read_json_string_field, CString.behind]
  rw [hpattern, if_neg hfits]
  cases CString.strstr json (string_pattern key) with
  | none => rfl
  | some start =>
      dsimp only [Option.map_some]
      cases CString.before_chr (start.drop (string_pattern key).length) quote <;> rfl

/-- The number behind the pattern. -/
theorem read_json_int64_field_behind {key : c_string} (hlength : key.length < 60)
    (json : c_string) :
    read_json_int64_field json key
      = match (CString.behind json (number_pattern key)).map CString.strtoll with
        | none => (0, .ESP_ERR_NOT_FOUND)
        | some none => (0, .ESP_ERR_INVALID_ARG)
        | some (some value) => (value, .ESP_OK) := by
  have hpattern : c_str "\"" ++ key ++ c_str "\":" = number_pattern key := by
    rw [number_pattern, ← List.cons_append, List.append_assoc]
    rfl
  have hfits : ¬ (number_pattern key).length ≥ 64 := by
    rw [number_pattern, List.length_cons, List.length_append]
    simp only [List.length_cons, List.length_nil]
    omega
  dsimp only [read_json_int64_field, CString.behind]
  rw [hpattern, if_neg hfits]
  cases CString.strstr json (number_pattern key) with
  | none => rfl
  | some start =>
      dsimp only [Option.map_some]
      cases CString.strtoll (start.drop (number_pattern key).length) <;> rfl

section Field

variable {tokens : List json_token} (s : serialisation tokens) (h : IsObject tokens)

include h

/-- **A required text** ends the command with the error of its search. -/
theorem read_text_required {key : c_string} (hkey : IsName key) (hlength : key.length < 60)
    (size : ℕ) :
    read_text key size true s.items
      = ((read_json_string_field s.text key size).1,
          if (read_json_string_field s.text key size).2 = .ESP_OK then none
          else some (read_json_string_field s.text key size).2) := by
  rw [read_json_string_field_behind hlength, s.behind_string h hkey]
  dsimp only [read_text]
  cases visible (string_at key) s.items with
  | none => rfl
  | some raw =>
      dsimp only [Option.map_some]
      split_ifs <;> first | rfl | contradiction

/-- **An optional text** may be missing. -/
theorem read_text_optional {key : c_string} (hkey : IsName key) (hlength : key.length < 60)
    (size : ℕ) :
    read_text key size false s.items
      = ((read_json_string_field s.text key size).1,
          if (read_json_string_field s.text key size).2 ≠ .ESP_OK ∧
              (read_json_string_field s.text key size).2 ≠ .ESP_ERR_NOT_FOUND then
            some (read_json_string_field s.text key size).2
          else none) := by
  rw [read_json_string_field_behind hlength, s.behind_string h hkey]
  dsimp only [read_text]
  cases visible (string_at key) s.items with
  | none => rfl
  | some raw =>
      dsimp only [Option.map_some]
      split_ifs <;> first | rfl | simp_all

/-- **A number** is required and has to be in range. -/
theorem read_number_eq {key : c_string} (hkey : IsName key) (hlength : key.length < 60)
    (out_of_range : ℤ → Bool) :
    read_number key out_of_range s.items
      = ((read_json_int64_field s.text key).1,
          if (read_json_int64_field s.text key).2 = .ESP_OK then
            if out_of_range (read_json_int64_field s.text key).1 then some .ESP_ERR_INVALID_ARG
            else none
          else some (read_json_int64_field s.text key).2) := by
  have hsearch := read_json_int64_field_behind hlength s.text
  rw [s.behind_number h hkey] at hsearch
  cases hfound : visible (number_at key) s.items with
  | none =>
      rw [hfound] at hsearch
      rw [hsearch, read_number, hfound]
      rfl
  | some token =>
      rw [hfound, Option.map_some] at hsearch
      cases hvalue : CString.strtoll token.text with
      | none =>
          rw [hvalue] at hsearch
          rw [hsearch, read_number, hfound]
          dsimp only
          rw [hvalue]
          rfl
      | some value =>
          rw [hvalue] at hsearch
          rw [hsearch, read_number, hfound]
          dsimp only
          rw [hvalue]
          rfl

end Field

/-! ## The fields of a command -/

/-- What is kept of the fields. -/
@[reducible] def values : List command_field → Type
  | [] => Unit
  | field :: fields => field.value × values fields

/-- Fields that have all been cleared. -/
def all_cleared : (fields : List command_field) → values fields
  | [] => ()
  | field :: fields => (field.cleared, all_cleared fields)

/-- The fields in turn, up to the one that ends the command. -/
def read_fields :
    (fields : List command_field) → List (json_token × List UInt8) → values fields × esp_err_t
  | [], _ => ((), .ESP_OK)
  | field :: fields, items =>
      match (field.read items).2 with
      | some err => (((field.read items).1, all_cleared fields), err)
      | none => (((field.read items).1, (read_fields fields items).1), (read_fields fields items).2)

/-- The fields of each command, in the order in which they are read. -/
def fields : app_command_type_t → List command_field
  | ALLOW =>
      [.text (c_str "mac") APP_COMMAND_MAC_SIZE true,
        .number (c_str "sessionId") fun session_id => session_id ≤ 0,
        .number (c_str "ttlSeconds") fun ttl_seconds =>
          ttl_seconds < APP_COMMAND_TTL_SECONDS_MIN ∨ ttl_seconds > APP_COMMAND_TTL_SECONDS_MAX]
  | REVOKE_ACCESS =>
      [.text (c_str "mac") APP_COMMAND_MAC_SIZE true,
        .number (c_str "sessionId") fun session_id => session_id ≤ 0]
  | DISCONNECT_MAC =>
      [.text (c_str "mac") APP_COMMAND_MAC_SIZE true,
        .number (c_str "alertId") fun alert_id => alert_id < 0]
  | KICK => [.text (c_str "reason") APP_COMMAND_MAC_SIZE false]
  | BLOCK_TRAFFIC =>
      [.number (c_str "alertId") fun alert_id => alert_id < 0,
        .text (c_str "dstIp") APP_COMMAND_DESTINATION_IP_SIZE true,
        .text (c_str "sni") APP_COMMAND_SNI_SIZE false]
  | _ => []

/-- A request with the fields filled in. -/
def fill (request_id : c_string) :
    (type : app_command_type_t) → values (fields type) → app_command_request_t
  | ALLOW, (mac, session_id, ttl_seconds, ()) =>
      { request_id := request_id, type := ALLOW, mac := mac, session_id := session_id,
        ttl_seconds := ttl_seconds }
  | REVOKE_ACCESS, (mac, session_id, ()) =>
      { request_id := request_id, type := REVOKE_ACCESS, mac := mac, session_id := session_id }
  | DISCONNECT_MAC, (mac, alert_id, ()) =>
      { request_id := request_id, type := DISCONNECT_MAC, mac := mac, alert_id := alert_id }
  | KICK, (reason, ()) => { request_id := request_id, type := KICK, mac := reason }
  | BLOCK_TRAFFIC, (alert_id, dst_ip, sni, ()) =>
      { request_id := request_id, type := BLOCK_TRAFFIC, alert_id := alert_id, dst_ip := dst_ip,
        sni := sni }
  | type, _ => { request_id := request_id, type := type }

/-- A topic that is read is not empty. -/
theorem read_command_type_ne_nil {topic : List UInt8} {type : app_command_type_t}
    (htopic : read_command_type_from_topic topic = .ok type) : topic ≠ [] := by
  rintro rfl
  cases htopic

section Run

variable {tokens : List json_token} (s : serialisation tokens) (h : IsObject tokens)
  {rest : List command_field} {result : Type}

include h

/-- The step of a required text, as the parser writes it. -/
theorem read_fields_required {key : c_string} (hkey : IsName key) (hlength : key.length < 60)
    (size : ℕ) (keep : values (.text key size true :: rest) → result) :
    (keep (read_fields (.text key size true :: rest) s.items).1,
        (read_fields (.text key size true :: rest) s.items).2)
      = if (read_json_string_field s.text key size).2 ≠ .ESP_OK then
          (keep ((read_json_string_field s.text key size).1, all_cleared rest),
            (read_json_string_field s.text key size).2)
        else
          (keep ((read_json_string_field s.text key size).1, (read_fields rest s.items).1),
            (read_fields rest s.items).2) := by
  rw [read_fields, command_field.read, read_text_required s h hkey hlength]
  by_cases herr : (read_json_string_field s.text key size).2 = .ESP_OK
  · rw [if_pos herr, if_neg (not_not.mpr herr)]
  · rw [if_neg herr, if_pos herr]

/-- The step of an optional text. -/
theorem read_fields_optional {key : c_string} (hkey : IsName key) (hlength : key.length < 60)
    (size : ℕ) (keep : values (.text key size false :: rest) → result) :
    (keep (read_fields (.text key size false :: rest) s.items).1,
        (read_fields (.text key size false :: rest) s.items).2)
      = if (read_json_string_field s.text key size).2 ≠ .ESP_OK ∧
            (read_json_string_field s.text key size).2 ≠ .ESP_ERR_NOT_FOUND then
          (keep ((read_json_string_field s.text key size).1, all_cleared rest),
            (read_json_string_field s.text key size).2)
        else
          (keep ((read_json_string_field s.text key size).1, (read_fields rest s.items).1),
            (read_fields rest s.items).2) := by
  rw [read_fields, command_field.read, read_text_optional s h hkey hlength]
  by_cases herr : (read_json_string_field s.text key size).2 ≠ .ESP_OK ∧
      (read_json_string_field s.text key size).2 ≠ .ESP_ERR_NOT_FOUND
  · rw [if_pos herr, if_pos herr]
  · rw [if_neg herr, if_neg herr]

/-- The step of a number. -/
theorem read_fields_number {key : c_string} (hkey : IsName key) (hlength : key.length < 60)
    (out_of_range : ℤ → Bool) (keep : values (.number key out_of_range :: rest) → result) :
    (keep (read_fields (.number key out_of_range :: rest) s.items).1,
        (read_fields (.number key out_of_range :: rest) s.items).2)
      = if (read_json_int64_field s.text key).2 ≠ .ESP_OK then
          (keep ((read_json_int64_field s.text key).1, all_cleared rest),
            (read_json_int64_field s.text key).2)
        else if out_of_range (read_json_int64_field s.text key).1 then
          (keep ((read_json_int64_field s.text key).1, all_cleared rest), .ESP_ERR_INVALID_ARG)
        else
          (keep ((read_json_int64_field s.text key).1, (read_fields rest s.items).1),
            (read_fields rest s.items).2) := by
  rw [read_fields, command_field.read, read_number_eq s h hkey hlength]
  by_cases herr : (read_json_int64_field s.text key).2 = .ESP_OK
  · rw [if_pos herr, if_neg (not_not.mpr herr)]
    by_cases hrange : out_of_range (read_json_int64_field s.text key).1 = true
    · rw [if_pos hrange, if_pos hrange]
    · rw [if_neg hrange, if_neg hrange]
  · rw [if_neg herr, if_pos herr]

/-- **The fields of a command** are read from the payload as the table says. -/
theorem parse_formal_command_eq (request_id : c_string) (type : app_command_type_t) :
    parse_formal_command s.text { request_id := request_id, type := type }
      = (fill request_id type (read_fields (fields type) s.items).1,
          (read_fields (fields type) s.items).2) := by
  cases type with
  | ALLOW =>
      dsimp only [fields]
      rw [read_fields_required s h (by decide) (by decide) APP_COMMAND_MAC_SIZE
        (fill request_id ALLOW)]
      rw [read_fields_number s h (by decide) (by decide) _
        fun rest => fill request_id ALLOW (_, rest)]
      rw [read_fields_number s h (by decide) (by decide) _
        fun rest => fill request_id ALLOW (_, _, rest)]
      simp only [decide_eq_true_eq]
      rfl
  | REVOKE_ACCESS =>
      dsimp only [fields]
      rw [read_fields_required s h (by decide) (by decide) APP_COMMAND_MAC_SIZE
        (fill request_id REVOKE_ACCESS)]
      rw [read_fields_number s h (by decide) (by decide) _
        fun rest => fill request_id REVOKE_ACCESS (_, rest)]
      simp only [decide_eq_true_eq]
      rfl
  | DISCONNECT_MAC =>
      dsimp only [fields]
      rw [read_fields_required s h (by decide) (by decide) APP_COMMAND_MAC_SIZE
        (fill request_id DISCONNECT_MAC)]
      rw [read_fields_number s h (by decide) (by decide) _
        fun rest => fill request_id DISCONNECT_MAC (_, rest)]
      simp only [decide_eq_true_eq]
      rfl
  | KICK =>
      dsimp only [fields]
      rw [read_fields_optional s h (by decide) (by decide) APP_COMMAND_MAC_SIZE
        (fill request_id KICK)]
      rfl
  | BLOCK_TRAFFIC =>
      dsimp only [fields]
      rw [read_fields_number s h (by decide) (by decide) _ (fill request_id BLOCK_TRAFFIC)]
      rw [read_fields_required s h (by decide) (by decide) APP_COMMAND_DESTINATION_IP_SIZE
        fun rest => fill request_id BLOCK_TRAFFIC (_, rest)]
      rw [read_fields_optional s h (by decide) (by decide) APP_COMMAND_SNI_SIZE
        fun rest => fill request_id BLOCK_TRAFFIC (_, _, rest)]
      simp only [decide_eq_true_eq]
      dsimp only [parse_formal_command, parse_block_traffic]
      -- the parser checks the search and the range in one condition
      by_cases herr : (read_json_int64_field s.text (c_str "alertId")).2 = .ESP_OK
      · by_cases hrange : (read_json_int64_field s.text (c_str "alertId")).1 < 0
        · rw [if_pos (Or.inr hrange), if_pos herr, if_neg (not_not.mpr herr), if_pos hrange]
          rfl
        · rw [if_neg (not_or.mpr ⟨not_not.mpr herr, hrange⟩), if_neg (not_not.mpr herr),
            if_neg hrange]
          rfl
      · rw [if_pos (Or.inl herr), if_neg herr, if_pos herr]
        rfl
  | _ => rfl

/-- **The message**: the request id first, then the fields of the command. -/
theorem app_command_parse_eq {type : app_command_type_t} {topic : List UInt8}
    (htopic : read_command_type_from_topic topic = .ok type) (htype : type ≠ STAGE_WIFI_CONFIG)
    (hlength : s.text.length < COMMAND_PAYLOAD_BUFFER_SIZE)
    (cJSON_ParseWithOpts : c_string → Option cJSON) (request : app_command_request_t) :
    app_command_parse cJSON_ParseWithOpts (some topic) (some s.text) request
      = match (read_text (c_str "requestId") APP_COMMAND_REQUEST_ID_SIZE false s.items).2 with
        | some err =>
            ({ request_id :=
                (read_text (c_str "requestId") APP_COMMAND_REQUEST_ID_SIZE false s.items).1 }, err)
        | none =>
            (fill (read_text (c_str "requestId") APP_COMMAND_REQUEST_ID_SIZE false s.items).1 type
                (read_fields (fields type) s.items).1,
              (read_fields (fields type) s.items).2) := by
  have hempty : ¬ (topic = [] ∨ s.text = []) :=
    not_or.mpr ⟨read_command_type_ne_nil htopic, s.ne_nil h⟩
  have hstage : ¬ read_command_type_from_topic topic = .ok STAGE_WIFI_CONFIG := by
    rw [htopic]
    exact fun heq => htype (Except.ok.inj heq)
  dsimp only [app_command_parse]
  rw [if_neg hempty, if_neg (Nat.not_le.mpr hlength), if_neg hstage,
    CString.of_buffer_eq_self (s.nul_notMem h), htopic,
    read_text_optional s h (by decide) (by decide)]
  dsimp only
  rw [parse_formal_command_eq s h]
  by_cases herr :
      (read_json_string_field s.text (c_str "requestId") APP_COMMAND_REQUEST_ID_SIZE).2 ≠ .ESP_OK ∧
        (read_json_string_field s.text (c_str "requestId") APP_COMMAND_REQUEST_ID_SIZE).2
          ≠ .ESP_ERR_NOT_FOUND
  · rw [if_pos herr, if_pos herr]
  · rw [if_neg herr, if_neg herr]

end Run

end WifiManager.AppCommand
