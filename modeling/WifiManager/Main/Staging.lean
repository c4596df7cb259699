/-
`main.c`: the network that an MQTT command gives the device.

On its way to the driver a network passes five checks, written in five places against six
buffers: that of the payload, that of the storage, that of the portal's handler, that behind a
read of the flash, and that of the gateway. They accept the same networks
(`upstream_validators_agree`), so what one of them has let in is not stopped by another.
-/
import WifiManager.AppCommand.Stage
import WifiManager.AppStorage.Accepted
import WifiManager.Main.Provisioning
import WifiManager.WifiGateway.Credentials

set_option autoImplicit false

namespace WifiManager.Main

open WifiManager.Lib WifiManager.AppCommand WifiManager.AppStorage WifiManager.WifiGateway

/-! ## The command -/

def APP_COMMAND_MESSAGE_SIZE : ℕ := 96

/-- `app_command_result_t`. -/
structure app_command_result_t where
  request_id : c_string
  type : app_command_type_t
  success : Bool
  message : c_string
  deriving DecidableEq, Repr

/-- The result of a request, as far as `handle_mqtt_command` fills it in every branch. -/
def command_result (request : app_command_request_t) (success : Bool) (message : c_string) :
    app_command_result_t where
  request_id := CString.snprintf_s APP_COMMAND_REQUEST_ID_SIZE request.request_id
  type := request.type
  success := success
  message := CString.snprintf_s APP_COMMAND_MESSAGE_SIZE message

/-- The configuration that `handle_mqtt_command` builds from a request. -/
def candidate_config (request : app_command_request_t) : app_storage_wifi_config_t where
  credentials :=
    { ssid := CString.snprintf_s APP_STORAGE_WIFI_SSID_SIZE request.wifi_ssid
      password := CString.snprintf_s APP_STORAGE_WIFI_PASSWORD_SIZE request.wifi_password }
  request_id := CString.snprintf_s APP_STORAGE_WIFI_REQUEST_ID_SIZE request.request_id
  config_version := request.wifi_config_version

/-- What the command answers. -/
def stage_answer (request : app_command_request_t)
    (staged : app_storage_wifi_stage_result_t × esp_err_t) : app_command_result_t :=
  let (stage_result, stage_err) := staged
  if stage_err ≠ .ESP_OK then
    command_result request false (c_str "WiFi configuration storage failed")
  else if stage_result = .STALE_VERSION then
    command_result request false (c_str "stale WiFi configuration version")
  else if stage_result = .VERSION_CONFLICT then
    command_result request false (c_str "WiFi configuration version conflict")
  -- a repetition is answered like the first time
  else command_result request true (c_str "candidate WiFi credentials stored")

/-- The STAGE_WIFI_CONFIG branch of `handle_mqtt_command`. -/
def handle_mqtt_command_stage_wifi_config (DEVICE_CODE : c_string)
    (request : app_command_request_t) : nvs_m app_command_result_t :=
  if request.device_code ≠ DEVICE_CODE then
    return command_result request false (c_str "device code mismatch")
  else do
    let staged ← app_storage_stage_candidate_wifi_config (some (candidate_config request))
    return stage_answer request staged

/-! ## The parser and the storage -/

section Command

variable {root : List (c_string × cJSON)} {request : app_command_request_t}

/-- What has been copied from a payload fits the buffers of the storage. -/
theorem candidate_config_copied (h : Copied root request) :
    candidate_config request
      = ⟨⟨request.wifi_ssid, request.wifi_password⟩, request.request_id,
          request.wifi_config_version⟩ := by
  have hssid := (copy_required_json_string_ok h.wifi_ssid).2
  have hpassword := (copy_required_json_string_ok h.wifi_password).2
  have hrequest := (copy_required_json_string_ok h.request_id).2
  have hssid' : CString.snprintf_s APP_STORAGE_WIFI_SSID_SIZE request.wifi_ssid
      = request.wifi_ssid := CString.snprintf_s_eq_self hssid
  have hpassword' : CString.snprintf_s APP_STORAGE_WIFI_PASSWORD_SIZE request.wifi_password
      = request.wifi_password := CString.snprintf_s_eq_self hpassword
  have hrequest' : CString.snprintf_s APP_STORAGE_WIFI_REQUEST_ID_SIZE request.request_id
      = request.request_id := CString.snprintf_s_eq_self hrequest
  rw [candidate_config, hssid', hpassword', hrequest']

/-- **The parser accepts what the storage accepts**: of every payload it leaves a request behind
from which a valid configuration would be built if and only if it accepts the payload. -/
theorem parse_ok_iff_validate (cJSON_ParseWithOpts : c_string → Option cJSON)
    (payload : c_string) :
    let parsed := parse_stage_wifi_config_payload cJSON_ParseWithOpts payload
      { type := .STAGE_WIFI_CONFIG }
    parsed.2 = .ESP_OK ↔ validate_wifi_config (some (candidate_config parsed.1)) = .ESP_OK := by
  have houtcome := parse_stage_wifi_config_payload_outcome cJSON_ParseWithOpts payload
    { type := .STAGE_WIFI_CONFIG }
  dsimp only
  generalize parse_stage_wifi_config_payload cJSON_ParseWithOpts payload
    { type := .STAGE_WIFI_CONFIG } = parsed at houtcome
  rw [validate_wifi_config_usable]
  cases houtcome with
  | refused hversion hnone =>
      refine iff_of_false (fun hok => ?_) fun hvalid => hvalid.1 hversion
      cases hok
  | @copied root request' hdocument hcopied =>
      have hrequest := copy_required_json_string_ok hcopied.request_id
      have husable : UsableRequest request'.request_id :=
        ⟨hrequest.1.resolve_left Bool.false_ne_true, Nat.le_of_lt_succ hrequest.2⟩
      have hversion := read_config_version_ne_zero hcopied.wifi_config_version
      rw [candidate_config_copied hcopied, and_iff_right hversion, and_iff_right husable]
      by_cases hnetwork : UsableNetwork request'.wifi_ssid request'.wifi_password
      · rw [if_pos hnetwork]
        exact iff_of_true rfl hnetwork
      · rw [if_neg hnetwork]
        refine iff_of_false (fun hok => ?_) hnetwork
        cases hok

/-- What an accepted payload stages. -/
theorem candidate_config_parsed {cJSON_ParseWithOpts : c_string → Option cJSON}
    {payload : c_string} {initial : app_command_request_t}
    (h : parse_stage_wifi_config_payload cJSON_ParseWithOpts payload initial
      = (request, .ESP_OK)) :
    ∃ root, cJSON_ParseWithOpts payload = some (.object root) ∧ Copied root request := by
  have houtcome := parse_stage_wifi_config_payload_outcome cJSON_ParseWithOpts payload initial
  rw [h] at houtcome
  generalize hend : (request, esp_err_t.ESP_OK) = parsed at houtcome
  cases houtcome with
  | refused hversion hnone => cases congrArg Prod.snd hend
  | @copied root request' hdocument hcopied =>
      obtain rfl : request = request' := congrArg Prod.fst hend
      exact ⟨root, hdocument, hcopied⟩

end Command

/-! ## The form of the portal -/

section Provisioning

variable {ssid password : c_string}

/-- A usable network reaches the storage as it is. -/
theorem handle_wifi_provisioning_usable (h : UsableNetwork ssid password) :
    handle_wifi_provisioning ssid password
      = app_storage_save_wifi_credentials (some ⟨ssid, password⟩) := by
  obtain ⟨-, hmax, -, hmax'⟩ := usableNetwork_iff.mp h
  have hssid_size : APP_STORAGE_WIFI_SSID_SIZE = 33 := rfl
  have hpassword_size : APP_STORAGE_WIFI_PASSWORD_SIZE = 64 := rfl
  rw [handle_wifi_provisioning, if_neg (by omega), if_neg (by omega)]

/-- Any other is refused, by one of the two lengths or by the storage. -/
theorem handle_wifi_provisioning_refused (h : ¬ UsableNetwork ssid password) :
    handle_wifi_provisioning ssid password = pure .ESP_ERR_INVALID_ARG := by
  have hinvalid : validate_wifi_credentials (some ⟨ssid, password⟩) ≠ .ESP_OK :=
    fun hok => h ((validate_wifi_credentials_usable _).mp hok)
  rw [handle_wifi_provisioning]
  split_ifs
  · rfl
  · rfl
  · rw [app_storage_save_wifi_credentials, if_pos hinvalid,
      validate_wifi_credentials_refused hinvalid]

/-- The networks that the portal stores, if no call of the flash fails. -/
theorem handle_wifi_provisioning_ok_iff (content : nvs_content) :
    (handle_wifi_provisioning ssid password ⟨content, []⟩).1 = some .ESP_OK ↔
      UsableNetwork ssid password := by
  by_cases h : UsableNetwork ssid password
  · have hvalid : validate_wifi_credentials (some ⟨ssid, password⟩) = .ESP_OK :=
      (validate_wifi_credentials_usable _).mpr h
    rw [handle_wifi_provisioning_usable h, app_storage_save_wifi_credentials,
      if_neg (not_not.mpr hvalid)]
    simp only [nvs_open, bind_apply, nvs_call_last, ne_eq, not_true_eq_false, if_false,
      write_and_commit_done, h]
  · rw [handle_wifi_provisioning_refused h, pure_apply]
    refine iff_of_false (fun hok => ?_) h
    cases Option.some.inj hok

end Provisioning

/-! ## What has been reported as stored -/

/-- Whatever happens to the calls of the command, what is stored stays valid. -/
theorem sound_staged {content : nvs_content} (h : Sound content) (DEVICE_CODE : c_string)
    (request : app_command_request_t) (faults : List (Option nvs_fault)) :
    Sound (handle_mqtt_command_stage_wifi_config DEVICE_CODE request
      ⟨content, faults⟩).2.content := by
  rw [handle_mqtt_command_stage_wifi_config]
  split_ifs with hdevice
  · exact h
  · have hleaves := (stage_leaves (some (candidate_config request)) content).map
      (stage_answer request)
    obtain ⟨j, -, hj⟩ := hleaves.interrupted faults
    rw [hj]
    exact h.cut (.stage (some (candidate_config request))) j

/-- What may be stored under the request and the version already. -/
def Repeated (content : nvs_content) (config : app_storage_wifi_config_t) : Prop :=
  (∃ pending, load_candidate_from_handle content = .ok pending ∧
    pending.request_id = config.request_id ∧ pending.config_version = config.config_version) ∨
  load_active content = .ok (some (config.request_id, config.config_version))

theorem repeated_of_idempotent {content : nvs_content} {config : app_storage_wifi_config_t}
    (h : stage_result content config = .ok .IDEMPOTENT) : Repeated content config := by
  rw [stage_result] at h
  cases hpending : candidate_or_none (load_candidate_from_handle content) with
  | error err =>
      rw [hpending] at h
      cases h
  | ok pending =>
  cases hactive : load_active content with
  | error err =>
      rw [hpending, hactive] at h
      cases h
  | ok active =>
      rw [hpending, hactive] at h
      have hdecision : stage_decision pending active config = .IDEMPOTENT := Except.ok.inj h
      rw [stage_decision] at hdecision
      split_ifs at hdecision with hsame hsame'
      · obtain ⟨found, hfound, hpair⟩ := Option.map_eq_some_iff.mp hsame
        obtain ⟨hrequest, hversion⟩ := Prod.mk.inj hpair
        exact .inl ⟨found, (mem_candidate_or_none hpending found).mp hfound, hrequest, hversion⟩
      · rw [hsame'] at hactive
        exact .inr hactive

/-- **A success that is reported.** The configuration is in the slot, or nothing was written
because the request had been staged before. -/
theorem stage_reported {DEVICE_CODE : c_string} {request : app_command_request_t}
    {content : nvs_content} {faults : List (Option nvs_fault)} {result : app_command_result_t}
    (hresult : (handle_mqtt_command_stage_wifi_config DEVICE_CODE request
      ⟨content, faults⟩).1 = some result) (hsuccess : result.success = true) :
    let content' :=
      (handle_mqtt_command_stage_wifi_config DEVICE_CODE request ⟨content, faults⟩).2.content
    validate_wifi_config (some (candidate_config request)) = .ESP_OK ∧
      (load_candidate_from_handle content' = .ok (candidate_config request) ∨
        content' = content ∧ Repeated content (candidate_config request)) := by
  have hensures : Ensures content (handle_mqtt_command_stage_wifi_config DEVICE_CODE request)
      fun result content' => result.success = true →
        validate_wifi_config (some (candidate_config request)) = .ESP_OK ∧
          (load_candidate_from_handle content' = .ok (candidate_config request) ∨
            content' = content ∧ Repeated content (candidate_config request)) := by
    rw [handle_mqtt_command_stage_wifi_config]
    split_ifs with hdevice
    · refine .pure fun hsuccess => ?_
      cases hsuccess
    · refine (stage_ensures (candidate_config request) content).map (stage_answer request) ?_
      rintro ⟨stage_result, stage_err⟩ content' hstaged hsuccess
      rw [stage_answer] at hsuccess
      dsimp only at hsuccess hstaged
      split_ifs at hsuccess with hfailed hstale hconflict
      · cases hsuccess
      · cases hsuccess
      · cases hsuccess
      · obtain ⟨hvalid, hdecided, hcontent⟩ := hstaged (not_not.mp hfailed)
        refine ⟨hvalid, ?_⟩
        cases stage_result with
        | STORED =>
            left
            rw [hcontent, if_pos rfl]
            exact load_candidate_staged hvalid
        | IDEMPOTENT => exact .inr ⟨hcontent, repeated_of_idempotent hdecided⟩
        | STALE_VERSION => exact absurd rfl hstale
        | VERSION_CONFLICT => exact absurd rfl hconflict
  exact hensures faults result hresult hsuccess

/-- No load, connection or promotion is refused for what is stored: a load only because there is
nothing, or not all of it. -/
structure NothingRefused (content : nvs_content) : Prop where
  load_candidate : ∀ err, load_candidate_from_handle content = .error err →
    err = .ESP_ERR_NOT_FOUND ∨ err = .ESP_ERR_INVALID_STATE
  load_current : ∀ err, app_storage_load_wifi_credentials content = .error err →
    err = .ESP_ERR_NOT_FOUND
  connect_candidate : ∀ pending, load_candidate_from_handle content = .ok pending →
    ∀ esp_wifi_set_config, configure_sta_credentials (some pending.credentials.ssid)
      (some pending.credentials.password) esp_wifi_set_config
        = (esp_wifi_set_config, [.esp_wifi_set_config])
  connect_current : ∀ credentials, app_storage_load_wifi_credentials content = .ok credentials →
    ∀ esp_wifi_set_config, configure_sta_credentials (some credentials.ssid)
      (some credentials.password) esp_wifi_set_config
        = (esp_wifi_set_config, [.esp_wifi_set_config])
  promote : ∀ pending, load_candidate_from_handle content = .ok pending →
    let promotion := app_storage_promote_candidate_wifi_config (some pending.request_id)
      pending.config_version ⟨content, []⟩
    promotion.1 = some .ESP_OK ∧
      app_storage_load_wifi_credentials promotion.2.content = .ok pending.credentials

theorem nothing_refused {content : nvs_content} (h : Sound content) : NothingRefused content where
  load_candidate := fun _ => load_candidate_refused h
  load_current := fun _ => load_wifi_credentials_refused h
  connect_candidate := by
    intro pending hload
    have hvalid := load_candidate_valid hload
    exact configure_sta_credentials_usable ((validate_wifi_config_usable _).mp hvalid).2.2
  connect_current := by
    intro credentials hload
    exact configure_sta_credentials_usable (load_wifi_credentials_usable hload)
  promote := fun _ => promote_loaded

/-! ## The validators -/

/-- **All checks of upstream credentials agree.** A payload is accepted by the parser if and only
if the storage accepts the configuration that is built from the request, and if and only if the
request and the version are ones that can be stored and the network is usable; what is built then
has the strings of the payload. The networks that the gateway, the storage, the portal's handler
and a load accept are the usable ones, each copies them as a whole, and a load accepts the
candidates that can be staged. A configuration that has been reported as stored is in the slot or
repeats what is there, and in no content that a run of operations and interruptions leads to
later is anything refused for what it says. -/
theorem upstream_validators_agree (cJSON_ParseWithOpts : c_string → Option cJSON)
    (DEVICE_CODE : c_string) :
    (∀ payload root request_id device_code ssid password version,
      cJSON_ParseWithOpts payload = some (.object root) →
      Carries root request_id device_code ssid password version → UsableRequest device_code →
      let parsed := parse_stage_wifi_config_payload cJSON_ParseWithOpts payload
        { type := .STAGE_WIFI_CONFIG }
      (parsed.2 = .ESP_OK ↔
        validate_wifi_config (some (candidate_config parsed.1)) = .ESP_OK) ∧
      (parsed.2 = .ESP_OK ↔ UsableRequest request_id ∧
        (∃ config_version : UInt32, config_version ≠ 0 ∧ version = config_version.toNat) ∧
        UsableNetwork ssid password) ∧
      (parsed.2 = .ESP_OK → ∃ config_version : UInt32, version = config_version.toNat ∧
        candidate_config parsed.1 = ⟨⟨ssid, password⟩, request_id, config_version⟩)) ∧
    (∀ ssid password : c_string, 0 ∉ ssid → 0 ∉ password →
      ((configure_sta_credentials (some ssid) (some password) .ESP_OK).1 = .ESP_OK ↔
        UsableNetwork ssid password) ∧
      (validate_wifi_credentials (some ⟨ssid, password⟩) = .ESP_OK ↔
        UsableNetwork ssid password) ∧
      (∀ content, (handle_wifi_provisioning ssid password ⟨content, []⟩).1 = some .ESP_OK ↔
        UsableNetwork ssid password) ∧
      (∀ content : nvs_content, content .sta_ssid = some ssid →
        content .sta_password = some password → ∀ credentials,
        (app_storage_load_wifi_credentials content = .ok credentials ↔
          UsableNetwork ssid password ∧ credentials = ⟨ssid, password⟩)) ∧
      (UsableNetwork ssid password →
        handle_wifi_provisioning ssid password
            = app_storage_save_wifi_credentials (some ⟨ssid, password⟩) ∧
          ∃ config, sta_config ssid password = some config ∧
            CString.of_buffer config.ssid = ssid ∧
            CString.of_buffer config.password = password)) ∧
    (∀ (content : nvs_content) (config : app_storage_wifi_config_t),
      HoldsCandidate content config → ∀ loaded,
      (app_storage_load_candidate_wifi_config content = .ok loaded ↔
        validate_wifi_config (some config) = .ESP_OK ∧ loaded = config)) ∧
    (∀ (earlier : List nvs_change) (payload : c_string) (request : app_command_request_t)
        (faults : List (Option nvs_fault)) (result : app_command_result_t),
      let content := content_behind empty_content earlier
      let config := candidate_config request
      let staged := handle_mqtt_command_stage_wifi_config DEVICE_CODE request ⟨content, faults⟩
      parse_stage_wifi_config_payload cJSON_ParseWithOpts payload
        { type := .STAGE_WIFI_CONFIG } = (request, .ESP_OK) →
      staged.1 = some result → result.success = true →
      config = ⟨⟨request.wifi_ssid, request.wifi_password⟩, request.request_id,
          request.wifi_config_version⟩ ∧
        validate_wifi_config (some config) = .ESP_OK ∧
        (app_storage_load_candidate_wifi_config staged.2.content = .ok config ∨
          staged.2.content = content ∧ Repeated content config) ∧
        ∀ later, NothingRefused (content_behind staged.2.content later) ∧
          (HoldsCandidate (content_behind staged.2.content later) config →
            app_storage_load_candidate_wifi_config (content_behind staged.2.content later)
              = .ok config)) := by
  refine ⟨?_, ?_, fun content config h loaded => load_candidate_ok_iff h loaded, ?_⟩
  · intro payload root request_id device_code ssid password version hdocument hcarries hdevice
    have haccepted := parse_stage_wifi_config_payload_ok_iff hdocument hcarries
      { type := .STAGE_WIFI_CONFIG }
    refine ⟨parse_ok_iff_validate cJSON_ParseWithOpts payload, ?_, fun hok => ?_⟩
    · rw [haccepted]
      tauto
    · obtain ⟨root', hdocument', hcopied⟩ := candidate_config_parsed (Prod.ext rfl hok)
      obtain rfl := cJSON.object.inj (Option.some.inj (hdocument.symm.trans hdocument'))
      obtain ⟨⟨-, hrequest⟩, -, ⟨-, hssid⟩, ⟨-, hpassword⟩, -, hversion⟩ :=
        (hcarries.copied_iff _).mp hcopied
      refine ⟨_, hversion, ?_⟩
      rw [candidate_config_copied hcopied, hrequest, hssid, hpassword]
  · intro ssid password hssid hpassword
    refine ⟨?_, validate_wifi_credentials_usable ⟨ssid, password⟩,
      handle_wifi_provisioning_ok_iff, fun content => load_wifi_credentials_ok_iff,
      fun h => ⟨handle_wifi_provisioning_usable h, ?_⟩⟩
    · by_cases h : UsableNetwork ssid password
      · rw [configure_sta_credentials_usable h]
        exact iff_of_true rfl h
      · rw [configure_sta_credentials_refused h]
        refine iff_of_false (fun hok => ?_) h
        cases hok
    · obtain ⟨config, hconfig, -, -, hssid', hpassword'⟩ := sta_config_usable h hssid hpassword
      exact ⟨config, hconfig, hssid', hpassword'⟩
  · intro earlier payload request faults result content config staged hparse hresult hsuccess
    obtain ⟨hvalid, hstored⟩ := stage_reported hresult hsuccess
    obtain ⟨root, -, hcopied⟩ := candidate_config_parsed hparse
    refine ⟨candidate_config_copied hcopied, hvalid, hstored, fun later => ⟨?_, fun hholds => ?_⟩⟩
    · have hsound : Sound content := sound_empty.content_behind earlier
      exact nothing_refused ((sound_staged hsound DEVICE_CODE request faults).content_behind later)
    · exact (load_candidate_ok_iff hholds config).mpr ⟨hvalid, rfl⟩

end WifiManager.Main
