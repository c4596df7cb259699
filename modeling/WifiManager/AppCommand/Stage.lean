/-
What an accepted STAGE_WIFI_CONFIG says.

The fields are copied one after the other and each copy checks its own; the version comes last,
and a check of the credentials behind it. A payload that is refused anywhere before the version
leaves it zero (`parse_stage_wifi_config_payload_cases`), which no version that is accepted is.
-/
import Mathlib.Tactic.Linarith
import Mathlib.Tactic.NormNum
import WifiManager.AppCommand.Parse
import WifiManager.Upstream

set_option autoImplicit false

namespace WifiManager.AppCommand

open WifiManager.Lib

variable {root : List (c_string × cJSON)}

/-! ## One field -/

theorem copy_required_json_string_eq {key text : c_string} {allow_empty : Bool}
    (h : cJSON_GetObjectItemCaseSensitive root key = some (.string text)) (output_size : ℕ) :
    copy_required_json_string root key output_size allow_empty
      = if (allow_empty = true ∨ 1 ≤ text.length) ∧ text.length < output_size then .ok text
        else .error .ESP_ERR_INVALID_ARG := by
  rw [copy_required_json_string, h]
  dsimp only
  have hguard : ((allow_empty = false ∧ text.length = 0) ∨ text.length ≥ output_size) ↔
      ¬((allow_empty = true ∨ 1 ≤ text.length) ∧ text.length < output_size) := by
    cases allow_empty with
    | true =>
        simp only [Bool.true_eq_false, false_and, false_or, true_or, true_and]
        omega
    | false =>
        simp only [true_and, Bool.false_eq_true, false_or]
        omega
  by_cases hfits : (allow_empty = true ∨ 1 ≤ text.length) ∧ text.length < output_size
  · rw [if_neg fun hbad => hguard.mp hbad hfits, if_pos hfits]
  · rw [if_pos (hguard.mpr hfits), if_neg hfits]

theorem copy_required_json_string_error {key : c_string} {output_size : ℕ} {allow_empty : Bool}
    {err : esp_err_t}
    (h : copy_required_json_string root key output_size allow_empty = .error err) :
    err = .ESP_ERR_INVALID_ARG := by
  unfold copy_required_json_string at h
  split at h
  · split_ifs at h
    exact (Except.error.inj h).symm
  · exact (Except.error.inj h).symm

/-- What has been copied fits. -/
theorem copy_required_json_string_ok {key text : c_string} {output_size : ℕ} {allow_empty : Bool}
    (h : copy_required_json_string root key output_size allow_empty = .ok text) :
    (allow_empty = true ∨ 1 ≤ text.length) ∧ text.length < output_size := by
  unfold copy_required_json_string at h
  split at h
  · split_ifs at h with hbad
    obtain rfl := Except.ok.inj h
    obtain ⟨hempty, hlong⟩ := not_or.mp hbad
    refine ⟨?_, Nat.lt_of_not_ge hlong⟩
    cases allow_empty with
    | true => exact .inl rfl
    | false => exact .inr (Nat.one_le_iff_ne_zero.mpr fun hzero => hempty ⟨rfl, hzero⟩)
  · cases h

theorem read_config_version_error {err : esp_err_t} (h : read_config_version root = .error err) :
    err = .ESP_ERR_INVALID_ARG := by
  unfold read_config_version at h
  split at h
  · dsimp only at h
    split_ifs at h
    all_goals exact (Except.error.inj h).symm
  · exact (Except.error.inj h).symm

/-- **The versions that are accepted**: the 32-bit integers from 1 on. -/
theorem read_config_version_ok_iff {version : ℚ} {parsed_version : UInt32}
    (h : cJSON_GetObjectItemCaseSensitive root (c_str "configVersion") = some (.number version)) :
    read_config_version root = .ok parsed_version ↔
      parsed_version ≠ 0 ∧ version = parsed_version.toNat := by
  rw [read_config_version, h]
  dsimp only
  constructor
  · intro hok
    split_ifs at hok with hrange hfraction
    obtain rfl := Except.ok.inj hok
    rw [not_not] at hfraction
    refine ⟨?_, hfraction.symm⟩
    rintro hzero
    rw [hzero] at hfraction
    have hnone : version = 0 := by rw [← hfraction]; rfl
    apply hrange
    left
    rw [hnone]
    norm_num
  · rintro ⟨hzero, rfl⟩
    have hpos : 1 ≤ parsed_version.toNat := by
      have hne : parsed_version.toNat ≠ 0 := fun hn => hzero (UInt32.toNat_inj.mp hn)
      omega
    have hmax : parsed_version.toNat ≤ 0xFFFFFFFF := by
      have := parsed_version.toNat_lt
      omega
    have hlow : ¬((parsed_version.toNat : ℚ) < 1) := not_lt.mpr (by exact_mod_cast hpos)
    have hhigh : ¬((parsed_version.toNat : ℚ) > 0xFFFFFFFF) := not_lt.mpr (by exact_mod_cast hmax)
    have hparsed : UInt32.ofNat (parsed_version.toNat : ℚ).floor.toNat = parsed_version := by
      have hfloor : (parsed_version.toNat : ℚ).floor = parsed_version.toNat :=
        Rat.floor_intCast parsed_version.toNat
      rw [hfloor, Int.toNat_natCast, UInt32.ofNat_toNat]
    rw [if_neg (not_or.mpr ⟨hlow, hhigh⟩), hparsed, if_neg (not_not.mpr rfl)]

/-- No version that is accepted is zero. -/
theorem read_config_version_ne_zero {parsed_version : UInt32}
    (h : read_config_version root = .ok parsed_version) : parsed_version ≠ 0 := by
  cases hitem : cJSON_GetObjectItemCaseSensitive root (c_str "configVersion") with
  | none =>
      rw [read_config_version, hitem] at h
      cases h
  | some item =>
      cases item with
      | number version => exact ((read_config_version_ok_iff hitem).mp h).1
      | object members =>
          rw [read_config_version, hitem] at h
          cases h
      | string valuestring =>
          rw [read_config_version, hitem] at h
          cases h
      | other =>
          rw [read_config_version, hitem] at h
          cases h

/-! ## The payload -/

/-- A request whose fields are all copied from the members. -/
structure Copied (root : List (c_string × cJSON)) (request : app_command_request_t) : Prop where
  request_id : copy_required_json_string root (c_str "requestId") APP_COMMAND_REQUEST_ID_SIZE
    false = .ok request.request_id
  device_code : copy_required_json_string root (c_str "deviceCode") APP_COMMAND_DEVICE_CODE_SIZE
    false = .ok request.device_code
  wifi_ssid : copy_required_json_string root (c_str "ssid") APP_COMMAND_WIFI_SSID_SIZE false
    = .ok request.wifi_ssid
  wifi_password : copy_required_json_string root (c_str "password") APP_COMMAND_WIFI_PASSWORD_SIZE
    true = .ok request.wifi_password
  wifi_config_version : read_config_version root = .ok request.wifi_config_version

/-- How the parser ends: it refuses the payload in front of its version, which stays what it was,
or all fields are copied and the credentials decide. -/
inductive StageOutcome (document : Option cJSON) (request : app_command_request_t) :
    app_command_request_t × esp_err_t → Prop
  | refused {request' : app_command_request_t}
      (hversion : request'.wifi_config_version = request.wifi_config_version)
      (hnone : ∀ root copied, document = some (.object root) → ¬ Copied root copied) :
      StageOutcome document request (request', .ESP_ERR_INVALID_ARG)
  | copied {root : List (c_string × cJSON)} {request' : app_command_request_t}
      (hdocument : document = some (.object root)) (hcopied : Copied root request') :
      StageOutcome document request (request',
        if UsableNetwork request'.wifi_ssid request'.wifi_password then .ESP_OK
        else .ESP_ERR_INVALID_ARG)

theorem ne_ok_of_error {α : Type} {result : Except esp_err_t α} {err : esp_err_t} {a : α}
    (h : result = .error err) : result ≠ .ok a := by
  rintro rfl
  cases h

/-- A field that cannot be copied. -/
theorem StageOutcome.missing {request request' : app_command_request_t} {err : esp_err_t}
    (herr : err = .ESP_ERR_INVALID_ARG)
    (hversion : request'.wifi_config_version = request.wifi_config_version)
    (hnone : ∀ copied, ¬ Copied root copied) :
    StageOutcome (some (.object root)) request (request', err) := by
  rw [herr]
  refine .refused hversion fun root' copied hroot => ?_
  obtain rfl := cJSON.object.inj (Option.some.inj hroot)
  exact hnone copied

/-- **The parser, field by field.** -/
theorem parse_stage_wifi_config_payload_outcome (cJSON_ParseWithOpts : c_string → Option cJSON)
    (payload : c_string) (request : app_command_request_t) :
    StageOutcome (cJSON_ParseWithOpts payload) request
      (parse_stage_wifi_config_payload cJSON_ParseWithOpts payload request) := by
  unfold parse_stage_wifi_config_payload
  split
  · rename_i root hroot
    rw [hroot]
    -- the fields in the order of the code, and the version behind them
    cases hrequest : copy_required_json_string root (c_str "requestId")
        APP_COMMAND_REQUEST_ID_SIZE false with
    | error err =>
        exact .missing (copy_required_json_string_error hrequest) rfl
          fun _ h => ne_ok_of_error hrequest h.request_id
    | ok request_id =>
    cases hdevice : copy_required_json_string root (c_str "deviceCode")
        APP_COMMAND_DEVICE_CODE_SIZE false with
    | error err =>
        exact .missing (copy_required_json_string_error hdevice) rfl
          fun _ h => ne_ok_of_error hdevice h.device_code
    | ok device_code =>
    cases hssid : copy_required_json_string root (c_str "ssid") APP_COMMAND_WIFI_SSID_SIZE
        false with
    | error err =>
        exact .missing (copy_required_json_string_error hssid) rfl
          fun _ h => ne_ok_of_error hssid h.wifi_ssid
    | ok ssid =>
    cases hpassword : copy_required_json_string root (c_str "password")
        APP_COMMAND_WIFI_PASSWORD_SIZE true with
    | error err =>
        exact .missing (copy_required_json_string_error hpassword) rfl
          fun _ h => ne_ok_of_error hpassword h.wifi_password
    | ok password =>
    cases hversion : read_config_version root with
    | error err =>
        exact .missing (read_config_version_error hversion) rfl
          fun _ h => ne_ok_of_error hversion h.wifi_config_version
    | ok version =>
        have hguard : (ssid.length < 1 ∨ ssid.length > 32 ∨
            (password.length > 0 ∧ password.length < 8) ∨ password.length > 63) ↔
            ¬ UsableNetwork ssid password := by
          rw [usableNetwork_iff]
          omega
        let request' : app_command_request_t :=
          { request with
            request_id := request_id
            device_code := device_code
            wifi_ssid := ssid
            wifi_password := password
            wifi_config_version := version }
        have hcopied : Copied root request' := ⟨hrequest, hdevice, hssid, hpassword, hversion⟩
        have hend : StageOutcome (some (.object root)) request (request', _) :=
          .copied rfl hcopied
        by_cases husable : UsableNetwork ssid password
        · rw [if_pos husable] at hend
          simp only [hguard, husable, not_true_eq_false, if_false]
          exact hend
        · rw [if_neg husable] at hend
          simp only [hguard, husable, not_false_eq_true, if_true]
          exact hend
  · rename_i hother
    exact .refused rfl fun root _ hroot => absurd hroot (hother root)

/-! ## The fields that a payload carries -/

/-- The members that are read, with their values. -/
structure Carries (root : List (c_string × cJSON)) (request_id device_code ssid password : c_string)
    (version : ℚ) : Prop where
  request_id : cJSON_GetObjectItemCaseSensitive root (c_str "requestId")
    = some (.string request_id)
  device_code : cJSON_GetObjectItemCaseSensitive root (c_str "deviceCode")
    = some (.string device_code)
  ssid : cJSON_GetObjectItemCaseSensitive root (c_str "ssid") = some (.string ssid)
  password : cJSON_GetObjectItemCaseSensitive root (c_str "password") = some (.string password)
  version : cJSON_GetObjectItemCaseSensitive root (c_str "configVersion") = some (.number version)

section Carries

variable {request_id device_code ssid password : c_string} {version : ℚ}

theorem copy_required_json_string_ok_iff {key text output : c_string} {allow_empty : Bool}
    (h : cJSON_GetObjectItemCaseSensitive root key = some (.string text)) (output_size : ℕ) :
    copy_required_json_string root key output_size allow_empty = .ok output ↔
      ((allow_empty = true ∨ 1 ≤ text.length) ∧ text.length < output_size) ∧ output = text := by
  rw [copy_required_json_string_eq h]
  split_ifs with hfits
  · rw [Except.ok.injEq, and_iff_right hfits, eq_comm]
  · refine iff_of_false (fun hok => ?_) fun hboth => hfits hboth.1
    cases hok

/-- A field that may not be empty. -/
theorem copy_nonempty_iff {key text output : c_string}
    (h : cJSON_GetObjectItemCaseSensitive root key = some (.string text)) (size : ℕ) :
    copy_required_json_string root key (size + 1) false = .ok output ↔
      (1 ≤ text.length ∧ text.length ≤ size) ∧ output = text := by
  rw [copy_required_json_string_ok_iff h, Nat.lt_succ_iff, or_iff_right Bool.false_ne_true]

/-- **What can be copied from a payload.** -/
theorem Carries.copied_iff (h : Carries root request_id device_code ssid password version)
    (request : app_command_request_t) :
    Copied root request ↔
      (UsableRequest request_id ∧ request.request_id = request_id) ∧
      (UsableRequest device_code ∧ request.device_code = device_code) ∧
      ((1 ≤ ssid.length ∧ ssid.length ≤ 32) ∧ request.wifi_ssid = ssid) ∧
      (password.length ≤ 63 ∧ request.wifi_password = password) ∧
      (request.wifi_config_version ≠ 0 ∧ version = request.wifi_config_version.toNat) := by
  constructor
  · intro hcopied
    refine ⟨(copy_nonempty_iff h.request_id 63).mp hcopied.request_id,
      (copy_nonempty_iff h.device_code 63).mp hcopied.device_code,
      (copy_nonempty_iff h.ssid 32).mp hcopied.wifi_ssid, ?_,
      (read_config_version_ok_iff h.version).mp hcopied.wifi_config_version⟩
    obtain ⟨⟨-, hlength⟩, hsame⟩ :=
      (copy_required_json_string_ok_iff h.password _).mp hcopied.wifi_password
    exact ⟨Nat.le_of_lt_succ hlength, hsame⟩
  · rintro ⟨hrequest, hdevice, hssid, ⟨hlength, hsame⟩, hversion⟩
    exact ⟨(copy_nonempty_iff h.request_id 63).mpr hrequest,
      (copy_nonempty_iff h.device_code 63).mpr hdevice,
      (copy_nonempty_iff h.ssid 32).mpr hssid,
      (copy_required_json_string_ok_iff h.password _).mpr
        ⟨⟨.inl rfl, Nat.lt_succ_of_le hlength⟩, hsame⟩,
      (read_config_version_ok_iff h.version).mpr hversion⟩

/-- **The payloads that are accepted.** -/
theorem parse_stage_wifi_config_payload_ok_iff {cJSON_ParseWithOpts : c_string → Option cJSON}
    {payload : c_string} (hdocument : cJSON_ParseWithOpts payload = some (.object root))
    (h : Carries root request_id device_code ssid password version)
    (request : app_command_request_t) :
    (parse_stage_wifi_config_payload cJSON_ParseWithOpts payload request).2 = .ESP_OK ↔
      UsableRequest request_id ∧ UsableRequest device_code ∧ UsableNetwork ssid password ∧
        ∃ config_version : UInt32, config_version ≠ 0 ∧ version = config_version.toNat := by
  have houtcome := parse_stage_wifi_config_payload_outcome cJSON_ParseWithOpts payload request
  rw [hdocument] at houtcome
  generalize parse_stage_wifi_config_payload cJSON_ParseWithOpts payload request = result
    at houtcome
  cases houtcome with
  | refused hversion hnone =>
      refine iff_of_false (fun hok => ?_) ?_
      · cases hok
      · rintro ⟨hrequest, hdevice, husable, config_version, hconfig⟩
        obtain ⟨hmin, hmax, -, hlength⟩ := usableNetwork_iff.mp husable
        let copied : app_command_request_t :=
          { request_id := request_id, device_code := device_code, wifi_ssid := ssid,
            wifi_password := password, wifi_config_version := config_version }
        refine hnone root copied rfl ((h.copied_iff copied).mpr ?_)
        exact ⟨⟨hrequest, rfl⟩, ⟨hdevice, rfl⟩, ⟨⟨hmin, hmax⟩, rfl⟩, ⟨hlength, rfl⟩, hconfig⟩
  | @copied root' request' hdocument' hcopied =>
      obtain rfl := cJSON.object.inj (Option.some.inj hdocument')
      obtain ⟨⟨hrequest, -⟩, ⟨hdevice, -⟩, ⟨-, hssid⟩, ⟨-, hpassword⟩, hversion⟩ :=
        (h.copied_iff request').mp hcopied
      rw [hssid, hpassword]
      by_cases husable : UsableNetwork ssid password
      · rw [if_pos husable]
        exact iff_of_true rfl ⟨hrequest, hdevice, husable, _, hversion⟩
      · rw [if_neg husable]
        refine iff_of_false (fun hok => ?_) fun hall => husable hall.2.2.1
        cases hok

end Carries

end WifiManager.AppCommand
