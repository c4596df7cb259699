/-
A save that succeeds repairs any store.

Nothing is assumed about what is stored: the keys may be a part of the ten, with values
of any kind. Saving writes or erases every key of the namespace, so what it leaves behind
does not depend on what it found (`save_forgets`); from an empty store it leaves a
configuration with nothing but the new credentials.
-/
import WifiManager.AppStorage.Versions
import WifiManager.AppStorage.Candidates

set_option autoImplicit false

namespace WifiManager.AppStorage

open WifiManager.Lib

/-- The configuration of a device that the portal has just set up. -/
def provisioned (credentials : valid_credentials) : configuration :=
  ⟨some credentials, none, none⟩

/-- A save that returns ESP_OK was valid and has made all its writes. -/
theorem save_ensures (credentials : app_storage_wifi_credentials_t) (content : nvs_content) :
    Ensures content (app_storage_save_wifi_credentials (some credentials))
      fun err content' => err = .ESP_OK →
        validate_wifi_credentials (some credentials) = .ESP_OK ∧
          content' = KeyStore.applyAll (save_writes credentials) content := by
  rw [app_storage_save_wifi_credentials]
  split_ifs with hinvalid
  · exact .pure fun hok => absurd hok hinvalid
  · refine .opened ?_ fun failure hok => absurd hok failure.not_ok
    intro faults err herr hok
    exact ⟨not_not.mp hinvalid, Ensures.write_and_commit _ faults err herr hok⟩

/-- **A save forgets what was stored**: it writes or erases every key there is. -/
theorem save_forgets (credentials : app_storage_wifi_credentials_t)
    (content content' : nvs_content) :
    KeyStore.applyAll (save_writes credentials) content
      = KeyStore.applyAll (save_writes credentials) content' := by
  apply KeyStore.applyAll_forgets
  intro key
  have hnames : (save_writes credentials).map KeyStore.Write.key
      = [nvs_key.sta_ssid, .sta_password, .cand_ssid, .cand_pass, .cand_req, .cand_ver,
        .active_req, .active_ver, .recv_trig, .recv_retry] := rfl
  rw [hnames]
  cases key <;> decide

/-- What a save that succeeds leaves behind. -/
theorem save_represents {credentials : app_storage_wifi_credentials_t} {s : nvs_t}
    (h : (app_storage_save_wifi_credentials (some credentials) s).1 = some .ESP_OK) :
    ∃ hvalid, Represents (app_storage_save_wifi_credentials (some credentials) s).2.content
      (provisioned ⟨credentials, hvalid⟩) := by
  obtain ⟨hvalid, hcontent⟩ := save_ensures credentials s.content s.faults _ h rfl
  refine ⟨hvalid, ?_⟩
  rw [hcontent, save_forgets credentials s.content empty_content]
  exact save_slots empty_content 10 credentials

/-- Behind a save no version is in the way of a configuration. -/
theorem stage_provisioned {content : nvs_content} {credentials : valid_credentials}
    (h : Represents content (provisioned credentials)) {config : app_storage_wifi_config_t}
    (hvalid : validate_wifi_config (some config) = .ESP_OK) :
    (app_storage_stage_candidate_wifi_config (some config) ⟨content, []⟩).1
        = some (.STORED, .ESP_OK) ∧
      app_storage_load_candidate_wifi_config
          (app_storage_stage_candidate_wifi_config (some config) ⟨content, []⟩).2.content
        = .ok config := by
  have hbelow : (provisioned credentials).Below config.config_version := by
    constructor
    · exact fun config hconfig => absurd hconfig (Option.not_mem_none _)
    · exact fun pair hpair => absurd hpair (Option.not_mem_none _)
  refine ⟨(h.stage_stored_iff config).mpr ⟨hvalid, hbelow⟩, ?_⟩
  rw [(stage_leaves (some config) content).complete, h.writes_stage config,
    if_pos ⟨hvalid, hbelow⟩]
  exact load_candidate_staged hvalid

/-- **A save that succeeds repairs any store.** Whatever the content and whatever the faults
of the calls, as long as ESP_OK is returned: the new credentials can be loaded, nothing is
left of a candidate, of an active pair or of a recovery, and every valid configuration
staged next is stored and can be loaded. -/
theorem save_repairs {credentials : app_storage_wifi_credentials_t} {s s' : nvs_t}
    (h : app_storage_save_wifi_credentials (some credentials) s = (some .ESP_OK, s')) :
    app_storage_load_wifi_credentials s'.content = .ok credentials ∧
      app_storage_load_candidate_wifi_config s'.content = .error .ESP_ERR_NOT_FOUND ∧
      app_storage_load_wifi_config_status s'.content = .ok ⟨[], 0, [], 0⟩ ∧
      app_storage_is_recovery_triggered s'.content = false ∧
      app_storage_get_recovery_retry_count s'.content = 0 ∧
      ∀ config, validate_wifi_config (some config) = .ESP_OK →
        (app_storage_stage_candidate_wifi_config (some config) ⟨s'.content, []⟩).1
            = some (.STORED, .ESP_OK) ∧
          app_storage_load_candidate_wifi_config
              (app_storage_stage_candidate_wifi_config (some config) ⟨s'.content, []⟩).2.content
            = .ok config := by
  have hok : (app_storage_save_wifi_credentials (some credentials) s).1 = some .ESP_OK := by
    rw [h]
  obtain ⟨hvalid, hrep⟩ := save_represents hok
  obtain ⟨-, hcontent⟩ := save_ensures credentials s.content s.faults _ hok rfl
  rw [h] at hrep hcontent
  have hreports := reports_sound hrep.sound
  rw [show slots s'.content = _ from hrep] at hreports
  -- the recovery keys are not part of the configuration
  have hrecovery : s'.content .recv_trig = none ∧ s'.content .recv_retry = none := by
    rw [show s'.content = _ from hcontent, save_forgets credentials s.content empty_content]
    exact ⟨rfl, rfl⟩
  refine ⟨congrArg reports_t.credentials hreports, congrArg reports_t.candidate hreports,
    congrArg reports_t.status hreports, ?_, ?_, fun config => stage_provisioned hrep⟩
  · rw [app_storage_is_recovery_triggered, hrecovery.1]
    rfl
  · rw [app_storage_get_recovery_retry_count, hrecovery.2]
    rfl

/-- On a store with parts of a candidate and of an active pair, in the middle of a recovery. -/
theorem save_repairs_torn :
    app_storage_load_wifi_credentials
        (app_storage_save_wifi_credentials (some ⟨c_str "office", c_str "newpassword"⟩)
          ⟨fun
            | .cand_ssid => some (c_str "half")
            | .active_ver => some (7 : UInt32)
            | .recv_trig => some (1 : UInt8)
            | .recv_retry => some (255 : UInt8)
            | _ => none, []⟩).2.content = .ok ⟨c_str "office", c_str "newpassword"⟩ :=
  (save_repairs (Prod.ext rfl rfl)).1

end WifiManager.AppStorage
