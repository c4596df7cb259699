/-
`components/app_storage`: the WiFi configuration in NVS.

Three slots: the current credentials, a candidate configuration, and the request and
version of the configuration that is active. The load functions are given for the
content they read; the four functions that write are programs of NVS calls. All of them
run under one mutex, which is there after `app_storage_init_nvs`. `none` is a NULL
pointer; an array without a terminator is a string as long as the array.
-/
import WifiManager.AppStorage.Nvs

set_option autoImplicit false

namespace WifiManager.AppStorage

open WifiManager.Lib

/-! ## Data -/

def APP_STORAGE_WIFI_SSID_SIZE : ℕ := 33
def APP_STORAGE_WIFI_PASSWORD_SIZE : ℕ := 64
def APP_STORAGE_WIFI_REQUEST_ID_SIZE : ℕ := 64

/-- `app_storage_wifi_credentials_t`. -/
structure app_storage_wifi_credentials_t where
  ssid : c_string
  password : c_string
  deriving DecidableEq, Repr

/-- `app_storage_wifi_config_t`. -/
structure app_storage_wifi_config_t where
  credentials : app_storage_wifi_credentials_t
  request_id : c_string
  config_version : UInt32
  deriving DecidableEq, Repr

/-- `app_storage_wifi_config_status_t`. -/
structure app_storage_wifi_config_status_t where
  active_request_id : c_string
  active_version : UInt32
  pending_request_id : c_string
  pending_version : UInt32
  deriving DecidableEq, Repr

/-- `app_storage_wifi_stage_result_t`. -/
inductive app_storage_wifi_stage_result_t
  | STORED
  | IDEMPOTENT
  | STALE_VERSION
  | VERSION_CONFLICT
  deriving DecidableEq, Repr

open app_storage_wifi_stage_result_t

/-! ## Validation -/

/-- `validate_wifi_credentials`. -/
def validate_wifi_credentials (credentials : Option app_storage_wifi_credentials_t) : esp_err_t :=
  match credentials with
  | none => .ESP_ERR_INVALID_ARG
  | some credentials =>
      let ssid_length := credentials.ssid.length
      let password_length := credentials.password.length
      if ssid_length = 0 ∨ ssid_length ≥ APP_STORAGE_WIFI_SSID_SIZE then .ESP_ERR_INVALID_ARG
      else if password_length ≥ APP_STORAGE_WIFI_PASSWORD_SIZE then .ESP_ERR_INVALID_ARG
      -- an open network has the empty password
      else if password_length > 0 ∧ password_length < 8 then .ESP_ERR_INVALID_ARG
      else .ESP_OK

/-- `validate_wifi_config`. -/
def validate_wifi_config (config : Option app_storage_wifi_config_t) : esp_err_t :=
  match config with
  | none => .ESP_ERR_INVALID_ARG
  | some config =>
      if config.config_version = 0 then .ESP_ERR_INVALID_ARG
      else
        let request_id_length := config.request_id.length
        if request_id_length = 0 ∨ request_id_length ≥ APP_STORAGE_WIFI_REQUEST_ID_SIZE then
          .ESP_ERR_INVALID_ARG
        else validate_wifi_credentials (some config.credentials)

/-! ## Loading -/

/-- The reads of `load_candidate_from_handle` behind that of the SSID. -/
def read_candidate_rest (content : nvs_content) (ssid : c_string) :
    Except esp_err_t app_storage_wifi_config_t := do
  let password ← nvs_get_str (content .cand_pass) APP_STORAGE_WIFI_PASSWORD_SIZE
  let request_id ← nvs_get_str (content .cand_req) APP_STORAGE_WIFI_REQUEST_ID_SIZE
  let config_version ← nvs_get_u32 (content .cand_ver)
  return ⟨⟨ssid, password⟩, request_id, config_version⟩

/-- `load_candidate_from_handle`: without an SSID there is no candidate, and without one
of the other keys the slot is broken. -/
def load_candidate_from_handle (content : nvs_content) :
    Except esp_err_t app_storage_wifi_config_t :=
  match nvs_get_str (content .cand_ssid) APP_STORAGE_WIFI_SSID_SIZE with
  | .error err =>
      if err = .ESP_ERR_NVS_NOT_FOUND then .error .ESP_ERR_NOT_FOUND else .error err
  | .ok ssid =>
      match read_candidate_rest content ssid with
      | .error err =>
          if err = .ESP_ERR_NVS_NOT_FOUND then .error .ESP_ERR_INVALID_STATE else .error err
      | .ok config =>
          match validate_wifi_config (some config) with
          | .ESP_OK => .ok config
          | err => .error err

/-- `load_metadata_pair`: both keys or none. -/
def load_metadata_pair (request_id : Option c_string) (version : Option UInt32)
    (request_id_size : ℕ) : Except esp_err_t (Option (c_string × UInt32)) :=
  match nvs_get_str request_id request_id_size, nvs_get_u32 version with
  | .error request_err, .error version_err =>
      -- a read error counts for more than an absent key
      if request_err = .ESP_ERR_NVS_NOT_FOUND ∧ version_err = .ESP_ERR_NVS_NOT_FOUND then .ok none
      else if request_err ≠ .ESP_ERR_NVS_NOT_FOUND then .error request_err
      else .error version_err
  | .error request_err, .ok _ =>
      if request_err ≠ .ESP_ERR_NVS_NOT_FOUND then .error request_err
      else .error .ESP_ERR_INVALID_STATE
  | .ok _, .error version_err =>
      if version_err ≠ .ESP_ERR_NVS_NOT_FOUND then .error version_err
      else .error .ESP_ERR_INVALID_STATE
  | .ok request_id, .ok version =>
      if request_id = [] ∨ version = 0 then .error .ESP_ERR_INVALID_STATE
      else .ok (some (request_id, version))

/-- The active pair. -/
def load_active (content : nvs_content) : Except esp_err_t (Option (c_string × UInt32)) :=
  load_metadata_pair (content .active_req) (content .active_ver) APP_STORAGE_WIFI_REQUEST_ID_SIZE

/-- `app_storage_load_wifi_credentials`. -/
def app_storage_load_wifi_credentials (content : nvs_content) :
    Except esp_err_t app_storage_wifi_credentials_t :=
  match (do
      let ssid ← nvs_get_str (content .sta_ssid) APP_STORAGE_WIFI_SSID_SIZE
      let password ← nvs_get_str (content .sta_password) APP_STORAGE_WIFI_PASSWORD_SIZE
      return (⟨ssid, password⟩ : app_storage_wifi_credentials_t)) with
  | .error err =>
      if err = .ESP_ERR_NVS_NOT_FOUND then .error .ESP_ERR_NOT_FOUND else .error err
  | .ok credentials =>
      match validate_wifi_credentials (some credentials) with
      | .ESP_OK => .ok credentials
      | err => .error err

/-- `app_storage_load_candidate_wifi_config`. -/
def app_storage_load_candidate_wifi_config (content : nvs_content) :
    Except esp_err_t app_storage_wifi_config_t :=
  load_candidate_from_handle content

/-- `app_storage_load_wifi_config_status`. -/
def app_storage_load_wifi_config_status (content : nvs_content) :
    Except esp_err_t app_storage_wifi_config_status_t :=
  match load_active content with
  | .error err => .error err
  | .ok active =>
      -- what is not there is reported empty and zero
      let (active_request_id, active_version) := active.getD ([], 0)
      match load_candidate_from_handle content with
      | .ok pending =>
          .ok ⟨active_request_id, active_version, pending.request_id, pending.config_version⟩
      | .error err =>
          if err = .ESP_ERR_NOT_FOUND then .ok ⟨active_request_id, active_version, [], 0⟩
          else .error err

/-! ## Saving -/

/-- The writes of a candidate's erasure, in the order of `erase_candidate_from_handle`. -/
def erase_candidate_writes : List nvs_write :=
  [⟨.cand_ssid, none⟩, ⟨.cand_pass, none⟩, ⟨.cand_req, none⟩, ⟨.cand_ver, none⟩]

def save_writes (credentials : app_storage_wifi_credentials_t) : List nvs_write :=
  [⟨.sta_ssid, some credentials.ssid⟩, ⟨.sta_password, some credentials.password⟩] ++
    -- credentials of the portal have no version: the candidate and the active pair go
    erase_candidate_writes ++
    [⟨.active_req, none⟩, ⟨.active_ver, none⟩, ⟨.recv_trig, none⟩, ⟨.recv_retry, none⟩]

/-- `app_storage_save_wifi_credentials`. -/
def app_storage_save_wifi_credentials (credentials : Option app_storage_wifi_credentials_t) :
    nvs_m esp_err_t :=
  match credentials with
  | none => return .ESP_ERR_INVALID_ARG
  | some credentials =>
      if validate_wifi_credentials (some credentials) ≠ .ESP_OK then
        return validate_wifi_credentials (some credentials)
      else do
        let err ← nvs_open
        if err ≠ .ESP_OK then return err
        else write_and_commit (save_writes credentials) fun _ => true

/-! ## Staging a candidate -/

/-- What staging makes of the versions that are there: a repetition, too old, taken, or
to be stored. -/
def stage_decision (pending : Option app_storage_wifi_config_t)
    (active : Option (c_string × UInt32)) (config : app_storage_wifi_config_t) :
    app_storage_wifi_stage_result_t :=
  let pending_version := (pending.map (·.config_version)).getD 0
  let active_version := (active.map Prod.snd).getD 0
  let highest_version := max pending_version active_version
  -- the same request again, delivered twice or active already
  if pending.map (fun p => (p.request_id, p.config_version))
      = some (config.request_id, config.config_version) then IDEMPOTENT
  else if active = some (config.request_id, config.config_version) then IDEMPOTENT
  else if config.config_version < highest_version then STALE_VERSION
  -- zero stands for no version here
  else if config.config_version = highest_version ∧ highest_version ≠ 0 then VERSION_CONFLICT
  else STORED

def stage_writes (config : app_storage_wifi_config_t) : List nvs_write :=
  [⟨.cand_ssid, some config.credentials.ssid⟩, ⟨.cand_pass, some config.credentials.password⟩,
    ⟨.cand_req, some config.request_id⟩, ⟨.cand_ver, some config.config_version⟩]

/-- The candidate for `stage_decision`: an absent one is no error. -/
def candidate_or_none (loaded : Except esp_err_t app_storage_wifi_config_t) :
    Except esp_err_t (Option app_storage_wifi_config_t) :=
  match loaded with
  | .ok pending => .ok (some pending)
  | .error err => if err = .ESP_ERR_NOT_FOUND then .ok none else .error err

/-- `app_storage_stage_candidate_wifi_config`: the stage result and the error code. -/
def app_storage_stage_candidate_wifi_config (config : Option app_storage_wifi_config_t) :
    nvs_m (app_storage_wifi_stage_result_t × esp_err_t) :=
  match config with
  | none => return (STORED, .ESP_ERR_INVALID_ARG)
  | some config =>
      if validate_wifi_config (some config) ≠ .ESP_OK then
        return (STORED, validate_wifi_config (some config))
      else do
        let err ← nvs_open
        if err ≠ .ESP_OK then return (STORED, err)
        else
          match candidate_or_none (← nvs_read load_candidate_from_handle) with
          | .error err => return (STORED, err)
          | .ok pending =>
              match ← nvs_read load_active with
              | .error err => return (STORED, err)
              | .ok active =>
                  match stage_decision pending active config with
                  | STORED => do
                      let err ← write_and_commit (stage_writes config) fun _ => true
                      return (STORED, err)
                  | result => return (result, .ESP_OK)

/-! ## Promoting the candidate -/

def promote_writes (pending : app_storage_wifi_config_t) : List nvs_write :=
  [⟨.sta_ssid, some pending.credentials.ssid⟩,
    ⟨.sta_password, some pending.credentials.password⟩,
    ⟨.active_req, some pending.request_id⟩, ⟨.active_ver, some pending.config_version⟩] ++
    erase_candidate_writes ++ [⟨.recv_trig, none⟩, ⟨.recv_retry, none⟩]

/-- `app_storage_promote_candidate_wifi_config`. -/
def app_storage_promote_candidate_wifi_config (expected_request_id : Option c_string)
    (expected_version : UInt32) : nvs_m esp_err_t :=
  match expected_request_id with
  | none => return .ESP_ERR_INVALID_ARG
  | some expected_request_id =>
      if expected_request_id = [] ∨ expected_version = 0 then return .ESP_ERR_INVALID_ARG
      else do
        let err ← nvs_open
        if err ≠ .ESP_OK then return err
        else
          match ← nvs_read load_candidate_from_handle with
          | .error err => return err
          | .ok pending =>
              -- a newer candidate was staged since the attempt began
              if pending.config_version ≠ expected_version ∨
                  pending.request_id ≠ expected_request_id then
                return .ESP_ERR_INVALID_STATE
              else write_and_commit (promote_writes pending) fun _ => true

/-! ## Clearing -/

def clear_writes : List nvs_write :=
  [⟨.sta_ssid, none⟩, ⟨.sta_password, none⟩, ⟨.active_req, none⟩, ⟨.active_ver, none⟩]

/-- `app_storage_clear_wifi_credentials`: committed if something was erased. -/
def app_storage_clear_wifi_credentials : nvs_m esp_err_t := do
  let err ← nvs_open
  if err ≠ .ESP_OK then return err
  else write_and_commit clear_writes fun changed => changed

/-! ## Recovery flags -/

/-- `app_storage_set_recovery_triggered`. -/
def app_storage_set_recovery_triggered : nvs_m esp_err_t := do
  let err ← nvs_open
  if err ≠ .ESP_OK then return err
  else write_and_commit [⟨.recv_trig, some (1 : UInt8)⟩] fun _ => true

/-- `app_storage_is_recovery_triggered`. -/
def app_storage_is_recovery_triggered (content : nvs_content) : Bool :=
  match nvs_get_u8 (content .recv_trig) with
  | .ok value => value == 1
  | .error _ => false

/-- `app_storage_get_recovery_retry_count`: a key that is not there counts for zero. -/
def app_storage_get_recovery_retry_count (content : nvs_content) : UInt8 :=
  match nvs_get_u8 (content .recv_retry) with
  | .ok count => count
  | .error _ => 0

/-- `app_storage_increment_recovery_retry`: the counter stays at 255. -/
def app_storage_increment_recovery_retry : nvs_m esp_err_t := do
  let err ← nvs_open
  if err ≠ .ESP_OK then return err
  else
    let read ← nvs_read fun content => nvs_get_u8 (content .recv_retry)
    let increment := fun count : UInt8 =>
      write_and_commit [⟨.recv_retry, some (if count < 255 then count + 1 else count)⟩]
        fun _ => true
    match read with
    | .ok count => increment count
    | .error err => if err = .ESP_ERR_NVS_NOT_FOUND then increment 0 else return err

/-- `app_storage_clear_recovery_triggered`: without the namespace there is no flag. -/
def app_storage_clear_recovery_triggered : nvs_m esp_err_t := do
  let err ← nvs_open
  if err ≠ .ESP_OK then
    if err = .ESP_ERR_NVS_NOT_FOUND then return .ESP_OK else return err
  else write_and_commit [⟨.recv_trig, none⟩] fun _ => true

/-! ## The partition -/

/-- What `nvs_flash_init` and `nvs_flash_erase` return. -/
inductive nvs_flash_err_t
  | err (err : esp_err_t)
  | ESP_ERR_NVS_NO_FREE_PAGES
  | ESP_ERR_NVS_NEW_VERSION_FOUND
  deriving DecidableEq, Repr

/-- The results of the calls of `app_storage_init_nvs`. -/
structure nvs_flash_results where
  nvs_flash_init : nvs_flash_err_t
  nvs_flash_erase : nvs_flash_err_t
  nvs_flash_init_again : nvs_flash_err_t
  xSemaphoreCreateMutex : Bool

/-- `app_storage_init_nvs`, at the start of a boot: there is no mutex yet. -/
def app_storage_init_nvs (results : nvs_flash_results) (content : nvs_content) :
    nvs_flash_err_t × nvs_content :=
  let (err, content) :=
    if results.nvs_flash_init = .ESP_ERR_NVS_NO_FREE_PAGES ∨
        results.nvs_flash_init = .ESP_ERR_NVS_NEW_VERSION_FOUND then
      -- a partition that cannot be used is erased
      if results.nvs_flash_erase ≠ .err .ESP_OK then (results.nvs_flash_erase, content)
      else (results.nvs_flash_init_again, fun _ => none)
    else (results.nvs_flash_init, content)
  if err = .err .ESP_OK ∧ results.xSemaphoreCreateMutex = false then
    (.err .ESP_ERR_NO_MEM, content)
  else (err, content)

end WifiManager.AppStorage
