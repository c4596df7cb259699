/-
What is stored is never refused.

The checks are made in front of a write and again behind every read. They accept the same
values (`validate_wifi_credentials_usable`), and a value comes back from the flash as it went in,
so a read of what was written passes them. Over any run, with any interruptions, the load
functions refuse nothing but what is absent or incomplete (`load_candidate_refused`), and a
candidate that they return can be promoted (`promote_loaded`).
-/
import WifiManager.AppStorage.Repair
import WifiManager.Upstream

set_option autoImplicit false

namespace WifiManager.AppStorage

open WifiManager.Lib

/-! ## The checks -/

theorem valid_iff_usable {ssid password : c_string} :
    ValidSsid ssid ∧ ValidPassword password ↔ UsableNetwork ssid password := by
  have hssid : ssid = [] ↔ ssid.length = 0 := List.length_eq_zero_iff.symm
  have hpassword : password = [] ↔ password.length = 0 := List.length_eq_zero_iff.symm
  have hssid_size : APP_STORAGE_WIFI_SSID_SIZE = 33 := rfl
  have hpassword_size : APP_STORAGE_WIFI_PASSWORD_SIZE = 64 := rfl
  rw [usableNetwork_iff, ValidSsid, ValidPassword, ne_eq, hssid, hpassword, hssid_size,
    hpassword_size]
  omega

theorem validRequestId_iff_usable {request_id : c_string} :
    ValidRequestId request_id ↔ UsableRequest request_id := by
  have hempty : request_id = [] ↔ request_id.length = 0 := List.length_eq_zero_iff.symm
  have hsize : APP_STORAGE_WIFI_REQUEST_ID_SIZE = 64 := rfl
  rw [ValidRequestId, UsableRequest, ne_eq, hempty, hsize]
  omega

theorem validate_wifi_credentials_usable (credentials : app_storage_wifi_credentials_t) :
    validate_wifi_credentials (some credentials) = .ESP_OK ↔
      UsableNetwork credentials.ssid credentials.password :=
  (validate_wifi_credentials_ok credentials).trans valid_iff_usable

theorem validate_wifi_config_usable (config : app_storage_wifi_config_t) :
    validate_wifi_config (some config) = .ESP_OK ↔
      config.config_version ≠ 0 ∧ UsableRequest config.request_id ∧
        UsableNetwork config.credentials.ssid config.credentials.password := by
  rw [validate_wifi_config_ok, validRequestId_iff_usable, valid_iff_usable]

/-- There is one error for everything that is refused. -/
theorem validate_wifi_credentials_refused {credentials : app_storage_wifi_credentials_t}
    (h : validate_wifi_credentials (some credentials) ≠ .ESP_OK) :
    validate_wifi_credentials (some credentials) = .ESP_ERR_INVALID_ARG := by
  rw [validate_wifi_credentials] at h ⊢
  split_ifs at h ⊢
  · rfl
  · rfl
  · rfl
  · exact absurd rfl h

/-! ## Loading what is there -/

section Loads

variable {content : nvs_content}

theorem nvs_get_str_ok_iff {text read : c_string} {size : ℕ} :
    nvs_get_str (some text) size = .ok read ↔ text.length < size ∧ read = text := by
  rw [nvs_get_str]
  split_ifs with hlong
  · refine iff_of_false (fun hok => ?_) (by omega)
    cases hok
  · rw [Except.ok.injEq, and_iff_right (by omega), eq_comm]

theorem value_of_nvs_get_str {value : Option c_string} {read : c_string} {size : ℕ}
    (h : nvs_get_str value size = .ok read) : value = some read := by
  cases value with
  | none => cases h
  | some text => rw [(nvs_get_str_ok_iff.mp h).2]

theorem value_of_nvs_get_u32 {value : Option UInt32} {read : UInt32}
    (h : nvs_get_u32 value = .ok read) : value = some read := by
  cases value with
  | none => cases h
  | some number => rw [Except.ok.inj h]

/-- What is loaded has been checked. -/
theorem load_wifi_credentials_usable {credentials : app_storage_wifi_credentials_t}
    (h : app_storage_load_wifi_credentials content = .ok credentials) :
    UsableNetwork credentials.ssid credentials.password := by
  rw [app_storage_load_wifi_credentials] at h
  split at h
  · split_ifs at h
  · split at h
    · next hvalid =>
        rw [← Except.ok.inj h]
        exact (validate_wifi_credentials_usable _).mp hvalid
    · cases h

/-- What is loaded is what is stored. -/
theorem values_of_load_wifi_credentials {credentials : app_storage_wifi_credentials_t}
    (h : app_storage_load_wifi_credentials content = .ok credentials) :
    content .sta_ssid = some credentials.ssid ∧
      content .sta_password = some credentials.password := by
  unfold app_storage_load_wifi_credentials at h
  cases hssid : nvs_get_str (content .sta_ssid) APP_STORAGE_WIFI_SSID_SIZE with
  | error err =>
      rw [hssid] at h
      simp only [bind, Except.bind] at h
      split_ifs at h
  | ok ssid =>
  cases hpassword : nvs_get_str (content .sta_password) APP_STORAGE_WIFI_PASSWORD_SIZE with
  | error err =>
      rw [hssid, hpassword] at h
      simp only [bind, Except.bind] at h
      split_ifs at h
  | ok password =>
      rw [hssid, hpassword] at h
      simp only [bind, Except.bind, pure, Except.pure] at h
      split at h
      · rw [← Except.ok.inj h]
        exact ⟨value_of_nvs_get_str hssid, value_of_nvs_get_str hpassword⟩
      · cases h

/-- **The credentials that can be loaded** are those that may be stored. -/
theorem load_wifi_credentials_ok_iff {ssid password : c_string}
    (hssid : content .sta_ssid = some ssid) (hpassword : content .sta_password = some password)
    (credentials : app_storage_wifi_credentials_t) :
    app_storage_load_wifi_credentials content = .ok credentials ↔
      UsableNetwork ssid password ∧ credentials = ⟨ssid, password⟩ := by
  constructor
  · intro hload
    obtain ⟨hssid', hpassword'⟩ := values_of_load_wifi_credentials hload
    rw [hssid] at hssid'
    rw [hpassword] at hpassword'
    obtain rfl := Option.some.inj hssid'
    obtain rfl := Option.some.inj hpassword'
    exact ⟨load_wifi_credentials_usable hload, rfl⟩
  · rintro ⟨husable, rfl⟩
    have hvalid := (validate_wifi_credentials_usable ⟨ssid, password⟩).mpr husable
    -- the buffers of the reads have room for what passes the check
    obtain ⟨⟨-, hroom⟩, hroom', -⟩ := valid_iff_usable.mpr husable
    rw [app_storage_load_wifi_credentials, hssid, hpassword, nvs_get_str_ok_iff.mpr ⟨hroom, rfl⟩,
      nvs_get_str_ok_iff.mpr ⟨hroom', rfl⟩]
    simp only [bind, Except.bind, pure, Except.pure, hvalid]

/-- The candidate that is in the slot. -/
def HoldsCandidate (content : nvs_content) (config : app_storage_wifi_config_t) : Prop :=
  content .cand_ssid = some config.credentials.ssid ∧
    content .cand_pass = some config.credentials.password ∧
    content .cand_req = some config.request_id ∧
    content .cand_ver = some config.config_version

theorem read_candidate_rest_ok {ssid : c_string} {config : app_storage_wifi_config_t}
    (h : read_candidate_rest content ssid = .ok config) :
    config.credentials.ssid = ssid ∧ content .cand_pass = some config.credentials.password ∧
      content .cand_req = some config.request_id ∧
      content .cand_ver = some config.config_version := by
  unfold read_candidate_rest at h
  cases hpassword : nvs_get_str (content .cand_pass) APP_STORAGE_WIFI_PASSWORD_SIZE with
  | error err =>
      rw [hpassword] at h
      cases h
  | ok password =>
  cases hrequest : nvs_get_str (content .cand_req) APP_STORAGE_WIFI_REQUEST_ID_SIZE with
  | error err =>
      rw [hpassword, hrequest] at h
      cases h
  | ok request_id =>
  cases hversion : nvs_get_u32 (content .cand_ver) with
  | error err =>
      rw [hpassword, hrequest, hversion] at h
      cases h
  | ok version =>
      rw [hpassword, hrequest, hversion] at h
      obtain rfl := Except.ok.inj h
      exact ⟨rfl, value_of_nvs_get_str hpassword, value_of_nvs_get_str hrequest,
        value_of_nvs_get_u32 hversion⟩

/-- What is loaded is in the slot. -/
theorem holds_of_load {loaded : app_storage_wifi_config_t}
    (h : load_candidate_from_handle content = .ok loaded) : HoldsCandidate content loaded := by
  unfold load_candidate_from_handle at h
  cases hssid : nvs_get_str (content .cand_ssid) APP_STORAGE_WIFI_SSID_SIZE with
  | error err =>
      rw [hssid] at h
      dsimp only at h
      split_ifs at h
  | ok ssid =>
      rw [hssid] at h
      cases hrest : read_candidate_rest content ssid with
      | error err =>
          simp only [hrest] at h
          split_ifs at h
      | ok config =>
          simp only [hrest] at h
          have hsame : config = loaded := by
            split at h
            · exact Except.ok.inj h
            · cases h
          obtain ⟨hread, hrest⟩ := read_candidate_rest_ok hrest
          rw [hsame] at hread hrest
          exact ⟨hread ▸ value_of_nvs_get_str hssid, hrest⟩

/-- **The candidates that can be loaded** are those that may be staged. -/
theorem load_candidate_ok_iff {config : app_storage_wifi_config_t}
    (h : HoldsCandidate content config) (loaded : app_storage_wifi_config_t) :
    load_candidate_from_handle content = .ok loaded ↔
      validate_wifi_config (some config) = .ESP_OK ∧ loaded = config := by
  constructor
  · intro hload
    have hloaded := holds_of_load hload
    obtain ⟨⟨ssid, password⟩, request_id, config_version⟩ := config
    obtain ⟨⟨ssid', password'⟩, request_id', config_version'⟩ := loaded
    obtain ⟨hssid, hpassword, hrequest, hversion⟩ := h
    obtain ⟨hssid', hpassword', hrequest', hversion'⟩ := hloaded
    rw [hssid] at hssid'
    rw [hpassword] at hpassword'
    rw [hrequest] at hrequest'
    rw [hversion] at hversion'
    obtain rfl := Option.some.inj hssid'
    obtain rfl := Option.some.inj hpassword'
    obtain rfl := Option.some.inj hrequest'
    obtain rfl := Option.some.inj hversion'
    exact ⟨load_candidate_valid hload, rfl⟩
  · rintro ⟨hvalid, rfl⟩
    obtain ⟨hssid, hpassword, hrequest, hversion⟩ := h
    have hstaged : load_candidate_from_handle
        (KeyStore.applyAll (stage_writes loaded) empty_content) = .ok loaded :=
      load_candidate_staged hvalid
    rw [← hstaged]
    exact load_candidate_congr hssid hpassword hrequest hversion

end Loads

/-! ## Staging -/

theorem candidate_or_none_error {loaded : Except esp_err_t app_storage_wifi_config_t}
    {err : esp_err_t} (hloaded : ∀ err, loaded = .error err → err ≠ .ESP_OK)
    (h : candidate_or_none loaded = .error err) : err ≠ .ESP_OK := by
  cases loaded with
  | ok pending => cases h
  | error failed =>
      rw [candidate_or_none] at h
      split_ifs at h
      obtain rfl := Except.error.inj h
      exact hloaded failed rfl

theorem nvs_get_u32_error {value : Option UInt32} {err : esp_err_t}
    (h : nvs_get_u32 value = .error err) : err ≠ .ESP_OK := by
  cases value with
  | none =>
      rw [← Except.error.inj h]
      decide
  | some number => cases h

theorem load_active_error {content : nvs_content} {err : esp_err_t}
    (h : load_active content = .error err) : err ≠ .ESP_OK := by
  unfold load_active load_metadata_pair at h
  -- the error of one of the two reads, or the one for a pair that is not whole
  split at h
  · next request_err version_err hrequest hversion =>
      split_ifs at h
      · exact Except.error.inj h ▸ nvs_get_str_error hrequest
      · exact Except.error.inj h ▸ nvs_get_u32_error hversion
  · next request_err version hrequest hversion =>
      split_ifs at h
      · exact Except.error.inj h ▸ nvs_get_str_error hrequest
      · rw [← Except.error.inj h]
        decide
  · next request_id version_err hrequest hversion =>
      split_ifs at h
      · exact Except.error.inj h ▸ nvs_get_u32_error hversion
      · rw [← Except.error.inj h]
        decide
  · split_ifs at h
    rw [← Except.error.inj h]
    decide

/-- What a staging does behind its decision. -/
theorem stage_decided (config : app_storage_wifi_config_t) (content : nvs_content)
    (decision : app_storage_wifi_stage_result_t) :
    Ensures content
      (match decision with
        | .STORED => do
            let err ← write_and_commit (stage_writes config) fun _ => true
            return (.STORED, err)
        | result => return (result, .ESP_OK))
      fun result content' => result.2 = esp_err_t.ESP_OK → decision = result.1 ∧
        content' = if result.1 = .STORED then KeyStore.applyAll (stage_writes config) content
          else content := by
  cases decision with
  | STORED =>
      refine (Ensures.write_and_commit _).map (Prod.mk app_storage_wifi_stage_result_t.STORED) ?_
      exact fun err content' hwritten hok => ⟨rfl, hwritten hok⟩
  | IDEMPOTENT => exact .pure fun _ => ⟨rfl, rfl⟩
  | STALE_VERSION => exact .pure fun _ => ⟨rfl, rfl⟩
  | VERSION_CONFLICT => exact .pure fun _ => ⟨rfl, rfl⟩

/-- **A staging that returns ESP_OK** has checked the configuration and decided on what is
stored, and has made all its writes if it says so. -/
theorem stage_ensures (config : app_storage_wifi_config_t) (content : nvs_content) :
    Ensures content (app_storage_stage_candidate_wifi_config (some config))
      fun result content' => result.2 = .ESP_OK →
        validate_wifi_config (some config) = .ESP_OK ∧
          stage_result content config = .ok result.1 ∧
          content' = if result.1 = .STORED then KeyStore.applyAll (stage_writes config) content
            else content := by
  rw [app_storage_stage_candidate_wifi_config]
  by_cases hvalid : validate_wifi_config (some config) = .ESP_OK
  · rw [if_neg (not_not.mpr hvalid)]
    refine .opened ?_ fun failure hok => absurd hok failure.not_ok
    -- the two reads, which are those of `stage_result`
    refine .call rfl ?_ fun failure => ?_
    · dsimp only
      cases hpending : candidate_or_none (load_candidate_from_handle content) with
      | error err =>
          exact .pure fun hok =>
            absurd hok (candidate_or_none_error (fun _ => load_candidate_error) hpending)
      | ok pending =>
      refine .call rfl ?_ fun failure => .pure fun hok => absurd hok failure.not_ok
      dsimp only
      cases hactive : load_active content with
      | error err => exact .pure fun hok => absurd hok (load_active_error hactive)
      | ok active =>
      have hresult : stage_result content config
          = .ok (stage_decision pending active config) := by
        rw [stage_result, hpending, hactive]
        rfl
      exact (stage_decided config content _).mono fun result content' hdecided hok =>
        ⟨hvalid, (hdecided hok).1 ▸ hresult, (hdecided hok).2⟩
    · have hfailed : candidate_or_none (.error failure.err) = .error failure.err :=
        if_neg failure.not_absent.2
      rw [hfailed]
      exact .pure fun hok => absurd hok failure.not_ok
  · rw [if_pos hvalid]
    exact .pure fun hok => absurd hok hvalid

/-! ## Runs -/

/-- What can happen to the namespace: an operation, with any faults, or a write of the recovery
functions to the keys that are theirs. -/
inductive nvs_change
  | exec (op : operation) (faults : List (Option nvs_fault))
  | recovery (triggered retry : Option UInt8)

def nvs_change.step (content : nvs_content) : nvs_change → nvs_content × Unit
  | .exec op faults => ((op.exec ⟨content, faults⟩).2.content, ())
  | .recovery triggered retry =>
      (KeyStore.applyAll [⟨.recv_trig, triggered⟩, ⟨.recv_retry, retry⟩] content, ())

/-- The content behind a run. -/
def content_behind (content : nvs_content) (changes : List nvs_change) : nvs_content :=
  Machine.run nvs_change.step content changes

section Runs

variable {content : nvs_content}

theorem Sound.change (h : Sound content) (change : nvs_change) :
    Sound (nvs_change.step content change).1 := by
  cases change with
  | exec op faults =>
      obtain ⟨j, -, hj⟩ := (exec_leaves op content).interrupted faults
      rw [nvs_change.step, hj]
      exact h.cut op j
  | recovery triggered retry =>
      refine h.applyAll fun w hw value _ => ?_
      simp only [List.mem_cons, List.not_mem_nil, or_false] at hw
      obtain rfl | rfl := hw
      · exact trivial
      · exact trivial

theorem Sound.content_behind (h : Sound content) (changes : List nvs_change) :
    Sound (content_behind content changes) :=
  Machine.run_invariant nvs_change.step (fun _ change h => h.change change) h changes

theorem sound_empty : Sound empty_content := by
  intro key value hvalue
  cases hvalue

/-- A candidate that cannot be loaded is absent or incomplete. -/
theorem load_candidate_refused (h : Sound content) {err : esp_err_t}
    (herr : load_candidate_from_handle content = .error err) :
    err = .ESP_ERR_NOT_FOUND ∨ err = .ESP_ERR_INVALID_STATE := by
  rw [load_candidate_sound h] at herr
  generalize content .cand_ssid = ssid at herr
  generalize content .cand_pass = password at herr
  generalize content .cand_req = request_id at herr
  generalize content .cand_ver = version at herr
  match ssid, password, request_id, version with
  | none, _, _, _ => exact .inl (Except.error.inj herr).symm
  | some _, none, _, _ => exact .inr (Except.error.inj herr).symm
  | some _, some _, none, _ => exact .inr (Except.error.inj herr).symm
  | some _, some _, some _, none => exact .inr (Except.error.inj herr).symm
  | some _, some _, some _, some _ => cases herr

theorem load_wifi_credentials_refused (h : Sound content) {err : esp_err_t}
    (herr : app_storage_load_wifi_credentials content = .error err) : err = .ESP_ERR_NOT_FOUND := by
  rw [load_wifi_credentials_sound h] at herr
  generalize content .sta_ssid = ssid at herr
  generalize content .sta_password = password at herr
  match ssid, password with
  | none, _ => exact (Except.error.inj herr).symm
  | some _, none => exact (Except.error.inj herr).symm
  | some _, some _ => cases herr

/-- **A candidate that can be loaded can be promoted**, and connected with at the next start. -/
theorem promote_loaded {pending : app_storage_wifi_config_t}
    (hload : load_candidate_from_handle content = .ok pending) :
    let promotion := app_storage_promote_candidate_wifi_config (some pending.request_id)
      pending.config_version ⟨content, []⟩
    promotion.1 = some .ESP_OK ∧
      app_storage_load_wifi_credentials promotion.2.content = .ok pending.credentials := by
  have hvalid := load_candidate_valid hload
  obtain ⟨hversion, hrequest, husable⟩ := (validate_wifi_config_usable pending).mp hvalid
  have hgiven : ¬(pending.request_id = [] ∨ pending.config_version = 0) := by
    rintro (hempty | hzero)
    · rw [hempty] at hrequest
      exact absurd hrequest.1 (by decide)
    · exact hversion hzero
  have hok : (app_storage_promote_candidate_wifi_config (some pending.request_id)
      pending.config_version ⟨content, []⟩).1 = some .ESP_OK := by
    rw [app_storage_promote_candidate_wifi_config, if_neg hgiven]
    simp only [nvs_open, nvs_read, bind_apply, nvs_call_last, ne_eq, not_true_eq_false,
      if_false, hload, or_self, write_and_commit_done]
  refine ⟨hok, ?_⟩
  obtain ⟨found, hfound, -, -, hssid, hpassword⟩ := promote_candidate hok
  obtain rfl := Except.ok.inj (hload.symm.trans hfound)
  exact (load_wifi_credentials_ok_iff hssid hpassword _).mpr ⟨husable, rfl⟩

end Runs

end WifiManager.AppStorage
