/-
The candidate slot under calls that do not fail, whatever is stored.

Nothing is assumed about the content: it may have been left behind by an interruption,
or by another firmware. While a candidate can be loaded, staging leaves it or replaces it
by one with a higher version (`stage_candidate`), and a promotion that succeeds has moved
the candidate that could be loaded into the current slot (`promote_candidate`).
-/
import WifiManager.AppStorage.Prefixes

set_option autoImplicit false

namespace WifiManager.AppStorage

open WifiManager.Lib

variable {content : nvs_content}

/-- A candidate is read from its four keys. -/
theorem load_candidate_congr {content' : nvs_content}
    (hssid : content' .cand_ssid = content .cand_ssid)
    (hpassword : content' .cand_pass = content .cand_pass)
    (hrequest : content' .cand_req = content .cand_req)
    (hversion : content' .cand_ver = content .cand_ver) :
    load_candidate_from_handle content' = load_candidate_from_handle content := by
  unfold load_candidate_from_handle read_candidate_rest
  rw [hssid, hpassword, hrequest, hversion]

/-- What has been staged can be loaded. -/
theorem load_candidate_staged {config : app_storage_wifi_config_t}
    (hvalid : validate_wifi_config (some config) = .ESP_OK) :
    load_candidate_from_handle (KeyStore.applyAll (stage_writes config) content)
      = .ok config := by
  obtain ⟨hversion, hrequest, hssid, hpassword⟩ := (validate_wifi_config_ok config).mp hvalid
  -- only the four keys count, so the other ones may as well be absent
  have hsame : load_candidate_from_handle (KeyStore.applyAll (stage_writes config) content)
      = load_candidate_from_handle
          (KeyStore.applyAll (stage_writes config) (fun _ => none : nvs_content)) :=
    load_candidate_congr rfl rfl rfl rfl
  have hempty : Sound (fun _ => none : nvs_content) := by
    rintro key value ⟨⟩
  have hsound : Sound (KeyStore.applyAll (stage_writes config) (fun _ => none : nvs_content)) := by
    apply hempty.applyAll
    intro w hw
    simp only [stage_writes, List.mem_cons, List.not_mem_nil, or_false] at hw
    obtain rfl | rfl | rfl | rfl := hw
    · exact validWrite_set hssid
    · exact validWrite_set hpassword
    · exact validWrite_set hrequest
    · exact validWrite_set hversion
  rw [hsame, load_candidate_sound hsound]
  rfl

/-- Staging writes only what is newer than the candidate. -/
theorem stage_result_newer {config old : app_storage_wifi_config_t}
    (hvalid : validate_wifi_config (some config) = .ESP_OK)
    (hold : load_candidate_from_handle content = .ok old)
    (hstored : stage_result content config = .ok .STORED) :
    old.config_version < config.config_version := by
  rw [stage_result, hold] at hstored
  rcases hactive : load_active content with err | active
  · rw [hactive] at hstored
    cases hstored
  · rw [hactive] at hstored
    have hdecision : stage_decision (some old) active config = .STORED :=
      Except.ok.inj hstored
    have hversion := ((validate_wifi_config_ok config).mp hvalid).1
    exact ((stage_decision_stored hversion).mp hdecision).1 old rfl

/-- **Staging over a candidate** leaves it, or replaces it by a newer one. -/
theorem stage_candidate (config : Option app_storage_wifi_config_t)
    {old : app_storage_wifi_config_t} (hold : load_candidate_from_handle content = .ok old) :
    ∃ new, load_candidate_from_handle
        (app_storage_stage_candidate_wifi_config config ⟨content, []⟩).2.content = .ok new ∧
      (new = old ∨ old.config_version < new.config_version) := by
  rw [(stage_leaves config content).complete]
  rcases config with - | config
  · exact ⟨old, hold, .inl rfl⟩
  · rw [operation.writes]
    split_ifs with hwritten
    · exact ⟨config, load_candidate_staged hwritten.1,
        .inr (stage_result_newer hwritten.1 hold hwritten.2)⟩
    · exact ⟨old, hold, .inl rfl⟩

/-- A read reports its failure as one. -/
theorem nvs_get_str_error {value : Option c_string} {size : ℕ} {err : esp_err_t}
    (h : nvs_get_str value size = .error err) : err ≠ .ESP_OK := by
  unfold nvs_get_str at h
  split at h
  · cases h
    decide
  · split_ifs at h
    cases h
    decide

theorem read_candidate_rest_error {ssid : c_string} {err : esp_err_t}
    (h : read_candidate_rest content ssid = .error err) : err ≠ .ESP_OK := by
  unfold read_candidate_rest at h
  rcases hpassword : nvs_get_str (content .cand_pass) APP_STORAGE_WIFI_PASSWORD_SIZE
    with failed | password
  · rw [hpassword] at h
    cases h
    exact nvs_get_str_error hpassword
  rw [hpassword] at h
  rcases hrequest : nvs_get_str (content .cand_req) APP_STORAGE_WIFI_REQUEST_ID_SIZE
    with failed | request_id
  · rw [hrequest] at h
    cases h
    exact nvs_get_str_error hrequest
  rw [hrequest] at h
  rcases hversion : content .cand_ver with - | version
  · rw [hversion] at h
    cases h
    decide
  · rw [hversion] at h
    cases h

/-- So does the loading of a candidate. -/
theorem load_candidate_error {err : esp_err_t}
    (h : load_candidate_from_handle content = .error err) : err ≠ .ESP_OK := by
  unfold load_candidate_from_handle at h
  split at h
  · next failed hssid =>
      split_ifs at h
      · cases h
        decide
      · cases h
        exact nvs_get_str_error hssid
  · split at h
    · next failed hrest =>
        split_ifs at h
        · cases h
          decide
        · cases h
          exact read_candidate_rest_error hrest
    · split at h
      · cases h
      · next hinvalid =>
          cases h
          exact hinvalid

/-- A promotion that succeeds has found the expected candidate. -/
theorem promote_found {request_id : c_string} {version : UInt32}
    (hok : (app_storage_promote_candidate_wifi_config (some request_id) version
      ⟨content, []⟩).1 = some .ESP_OK) :
    (request_id ≠ [] ∧ version ≠ 0) ∧
      ∃ pending, promoted content request_id version = some pending := by
  rw [app_storage_promote_candidate_wifi_config] at hok
  split_ifs at hok with harg
  · simp [pure_apply] at hok
  · refine ⟨not_or.mp harg, ?_⟩
    simp only [nvs_open, nvs_read, bind_apply, nvs_call_last, ne_eq, not_true_eq_false,
      if_false] at hok
    rcases hload : load_candidate_from_handle content with err | pending
    · -- the error of a load is none of the successes
      rw [hload] at hok
      have herr : err = .ESP_OK := by simpa [pure_apply] using hok
      exact absurd herr (load_candidate_error hload)
    · rw [hload] at hok
      by_cases hmatch : pending.request_id = request_id ∧ pending.config_version = version
      · exact ⟨pending, promoted_eq_some.mpr ⟨hload, hmatch⟩⟩
      · have hother : ¬ pending.config_version = version ∨ ¬ pending.request_id = request_id := by
          tauto
        simp [hother, pure_apply] at hok

/-- **A promotion that succeeds** has moved the candidate with the expected request and
version into the current slot. -/
theorem promote_candidate {request_id : c_string} {version : UInt32}
    (hok : (app_storage_promote_candidate_wifi_config (some request_id) version
      ⟨content, []⟩).1 = some .ESP_OK) :
    ∃ pending, load_candidate_from_handle content = .ok pending ∧
      pending.request_id = request_id ∧ pending.config_version = version ∧
      let content' := (app_storage_promote_candidate_wifi_config (some request_id) version
        ⟨content, []⟩).2.content
      content' .sta_ssid = some pending.credentials.ssid ∧
        content' .sta_password = some pending.credentials.password := by
  obtain ⟨hgiven, pending, hpending⟩ := promote_found hok
  obtain ⟨hload, hrequest, hversion⟩ := promoted_eq_some.mp hpending
  refine ⟨pending, hload, hrequest, hversion, ?_⟩
  rw [(promote_leaves (some request_id) version content).complete, operation.writes,
    if_neg (not_or.mpr hgiven), hpending]
  exact ⟨rfl, rfl⟩

/-- A promotion that fails has changed nothing. -/
theorem promote_failed {request_id : c_string} {version : UInt32}
    (hfailed : (app_storage_promote_candidate_wifi_config (some request_id) version
      ⟨content, []⟩).1 ≠ some .ESP_OK) :
    (app_storage_promote_candidate_wifi_config (some request_id) version ⟨content, []⟩).2.content
      = content := by
  rw [(promote_leaves (some request_id) version content).complete, operation.writes]
  split_ifs with harg
  · rfl
  · rcases hpending : promoted content request_id version with - | pending
    · rfl
    · refine absurd ?_ hfailed
      obtain ⟨hload, hrequest, hversion⟩ := promoted_eq_some.mp hpending
      rw [app_storage_promote_candidate_wifi_config, if_neg harg]
      simp only [nvs_open, nvs_read, bind_apply, nvs_call_last, ne_eq, not_true_eq_false,
        if_false, hload, hrequest, hversion, or_self, write_and_commit_done]

/-- To clear the credentials leaves the candidate. -/
theorem clear_candidate :
    load_candidate_from_handle (app_storage_clear_wifi_credentials ⟨content, []⟩).2.content
      = load_candidate_from_handle content := by
  rw [(clear_leaves content).complete]
  exact load_candidate_congr rfl rfl rfl rfl

/-! ## The recovery flags -/

/-- The flags are beside the candidate. -/
theorem set_recovery_triggered_candidate :
    load_candidate_from_handle (app_storage_set_recovery_triggered ⟨content, []⟩).2.content
      = load_candidate_from_handle content := by
  have hcontent : (app_storage_set_recovery_triggered ⟨content, []⟩).2.content
      = KeyStore.applyAll [⟨.recv_trig, some (1 : UInt8)⟩] content := by
    simp only [app_storage_set_recovery_triggered, nvs_open, bind_apply, nvs_call_last,
      ne_eq, not_true_eq_false, if_false, write_and_commit_done]
  rw [hcontent]
  exact load_candidate_congr rfl rfl rfl rfl

theorem increment_recovery_retry_candidate :
    load_candidate_from_handle (app_storage_increment_recovery_retry ⟨content, []⟩).2.content
      = load_candidate_from_handle content := by
  have hcontent : ∃ value, (app_storage_increment_recovery_retry ⟨content, []⟩).2.content
      = KeyStore.applyAll [⟨.recv_retry, some value⟩] content := by
    simp only [app_storage_increment_recovery_retry, nvs_open, nvs_read, bind_apply,
      nvs_call_last, ne_eq, not_true_eq_false, if_false]
    rcases content .recv_retry with - | count
    · simp only [nvs_get_u8, if_true, write_and_commit_done]
      exact ⟨_, rfl⟩
    · simp only [nvs_get_u8, write_and_commit_done]
      exact ⟨_, rfl⟩
  obtain ⟨value, hvalue⟩ := hcontent
  rw [hvalue]
  exact load_candidate_congr rfl rfl rfl rfl

end WifiManager.AppStorage
