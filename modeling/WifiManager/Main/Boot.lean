/-
`main.c`: from the flash to the mode a boot runs in.

`prepare_wifi_gateway_config` loads what is stored and chooses between the normal gateway and the
protected access point for the administrator; `app_main` starts the components with the choice, and
gives up, which restarts the device, if one of them does not start.

1. Whatever happens to its NVS calls, a boot changes nothing but the recovery flag while the
   credentials can be loaded, and otherwise it clears the current slot at most (`prepare_loadable`,
   `prepare_ends`); and it joins the stored network or none (`app_main_start_started`).
2. A boot that nothing disturbs ends in the normal mode with credentials, and in provisioning mode
   without (`app_main_start_normal`, `app_main_start_provisioning`).
-/
import WifiManager.AppStorage.Accepted
import WifiManager.Main.Candidate
import WifiManager.WifiGateway.Credentials

set_option autoImplicit false

namespace WifiManager.Main

open WifiManager.Lib WifiManager.AppStorage WifiManager.WifiGateway

/-! ## The choice -/

/-- The two access points of `env/secrets.h`. -/
structure secrets_t where
  AP_SSID : c_string
  AP_PASSWORD : c_string
  PROVISION_AP_SSID : c_string
  PROVISION_AP_PASSWORD : c_string

/-- The static variables that `prepare_wifi_gateway_config` assigns. -/
structure boot_config_t where
  s_wifi_credentials : app_storage_wifi_credentials_t
  s_candidate_config : app_storage_wifi_config_t
  wifi_config : wifi_gateway_config_t
  provisioning_mode : Bool

section Boot

variable (secrets : secrets_t)

/-- The static initialisers. -/
def boot_config_init : boot_config_t :=
  ⟨⟨[], []⟩, no_candidate, ⟨false, none, none, some secrets.AP_SSID, some secrets.AP_PASSWORD⟩,
    false⟩

/-- `select_normal_gateway_mode`. -/
def select_normal_gateway_mode (config : boot_config_t) : boot_config_t :=
  { config with
    wifi_config := { config.wifi_config with
      ap_ssid := some secrets.AP_SSID
      ap_password := some secrets.AP_PASSWORD }
    provisioning_mode := false }

/-- `select_provisioning_mode`. -/
def select_provisioning_mode (config : boot_config_t) : boot_config_t :=
  { config with
    wifi_config :=
      ⟨false, none, none, some secrets.PROVISION_AP_SSID, some secrets.PROVISION_AP_PASSWORD⟩
    provisioning_mode := true }

/-- The normal mode with the credentials that were loaded. -/
def use_stored_credentials (credentials : app_storage_wifi_credentials_t)
    (config : boot_config_t) : boot_config_t :=
  let config := select_normal_gateway_mode secrets { config with s_wifi_credentials := credentials }
  { config with
    wifi_config := { config.wifi_config with
      sta_enabled := true
      sta_ssid := some config.s_wifi_credentials.ssid
      sta_password := some config.s_wifi_credentials.password } }

/-- `prepare_wifi_gateway_config` with credentials: the flag of a recovery is cleared. -/
def retry_stored (credentials : app_storage_wifi_credentials_t) (config : boot_config_t) :
    nvs_m (esp_err_t × boot_config_t) := do
  let triggered ← nvs_call (fun _ => false) fun content =>
    (app_storage_is_recovery_triggered content, content)
  if triggered then
    -- an error here is logged: the flag must not keep the device from connecting
    let _ ← app_storage_clear_recovery_triggered
    return (.ESP_OK, use_stored_credentials secrets credentials config)
  else return (.ESP_OK, use_stored_credentials secrets credentials config)

/-- `prepare_wifi_gateway_config` without credentials: none are stored, or they cannot be used and
are cleared. -/
def no_credentials (config : boot_config_t) (err : esp_err_t) :
    nvs_m (esp_err_t × boot_config_t) :=
  if err = .ESP_ERR_NOT_FOUND then return (.ESP_OK, select_provisioning_mode secrets config)
  else if err = .ESP_ERR_INVALID_ARG then do
    let err ← app_storage_clear_wifi_credentials
    return if err ≠ .ESP_OK then (err, config)
      else (.ESP_OK, select_provisioning_mode secrets config)
  -- a storage that cannot be read is not a device without a network
  else return (err, config)

/-- `prepare_wifi_gateway_config` behind the candidate. -/
def choose_mode (config : boot_config_t) : nvs_m (esp_err_t × boot_config_t) := do
  match ← nvs_read app_storage_load_wifi_credentials with
  | .ok credentials => retry_stored secrets credentials config
  | .error err => no_credentials secrets config err

/-- The candidate that was loaded, or none, whatever the error. -/
def keep_candidate (candidate : Except esp_err_t app_storage_wifi_config_t) : boot_config_t :=
  { boot_config_init secrets with s_candidate_config := candidate.toOption.getD no_candidate }

/-- `prepare_wifi_gateway_config`. -/
def prepare_wifi_gateway_config : nvs_m (esp_err_t × boot_config_t) := do
  let candidate ← nvs_read app_storage_load_candidate_wifi_config
  choose_mode secrets (keep_candidate secrets candidate)

/-! ## Starting the components -/

/-- The results of what `app_main` calls in front of its loop. `faults` is what happens to the NVS
calls, `setup` the results of the calls of `wifi_gateway_start` in front of `esp_wifi_connect`,
and `services` those of `client_access_start`, `access_filter_start` and `captive_portal_start`. -/
structure start_results where
  nvs : nvs_flash_results
  faults : List (Option nvs_fault)
  setup : List esp_err_t
  esp_wifi_connect : esp_err_t
  services : List esp_err_t

/-- The device: behind a restart that has not got to the main loop it is halted, with the content
of the flash; otherwise its tasks run, and the portal has a mode. -/
inductive board_t
  | halted (content : nvs_content)
  | running (world : main_world) (provisioning_mode : Bool)

/-- The flash. -/
def board_t.content : board_t → nvs_content
  | .halted content => content
  | .running world _ => world.content

/-- What an observer writes down: a network that is handed to the device, and one that the station
is told to join. -/
inductive board_event
  | submitted (network : app_storage_wifi_credentials_t)
  | joins (network : app_storage_wifi_credentials_t)
  deriving DecidableEq, Repr

/-- `app_main` from `wifi_gateway_start` to its loop, with the choice. -/
def start_components (results : start_results) (config : boot_config_t) (content : nvs_content) :
    board_t × Option board_event :=
  let (gateway, err, calls) :=
    wifi_gateway_start config.wifi_config results.setup results.esp_wifi_connect .init
  let event :=
    if .esp_wifi_connect ∈ calls then some (.joins config.s_wifi_credentials) else none
  if err ≠ .ESP_OK ∨ ∃ err ∈ results.services, err ≠ .ESP_OK then (.halted content, event)
  else
    (.running
      { main := ⟨config.s_wifi_credentials, config.s_candidate_config, .CURRENT, 0⟩
        pc := .loop
        gateway := gateway
        mqtt := ⟨false, 0⟩
        content := content } config.provisioning_mode, event)

/-- `app_main` up to its loop. -/
def app_main_start (results : start_results) (content : nvs_content) :
    board_t × Option board_event :=
  let (err, content) := app_storage_init_nvs results.nvs content
  if err ≠ .err .ESP_OK then (.halted content, none)
  else
    match prepare_wifi_gateway_config secrets ⟨content, results.faults⟩ with
    | (none, s) => (.halted s.content, none)
    | (some (err, config), s) =>
        if err ≠ .ESP_OK then (.halted s.content, none)
        else start_components results config s.content

end Boot

/-! ## What is chosen -/

section Choice

variable (secrets : secrets_t)

/-- The normal gateway, with these credentials. -/
structure NormalMode (credentials : app_storage_wifi_credentials_t) (config : boot_config_t) :
    Prop where
  s_wifi_credentials : config.s_wifi_credentials = credentials
  provisioning_mode : config.provisioning_mode = false
  wifi_config : config.wifi_config = ⟨true, some credentials.ssid, some credentials.password,
    some secrets.AP_SSID, some secrets.AP_PASSWORD⟩

/-- The access point for the administrator, without the station. -/
structure ProvisioningMode (config : boot_config_t) : Prop where
  provisioning_mode : config.provisioning_mode = true
  wifi_config : config.wifi_config
    = ⟨false, none, none, some secrets.PROVISION_AP_SSID, some secrets.PROVISION_AP_PASSWORD⟩

theorem use_stored_credentials_normal (credentials : app_storage_wifi_credentials_t)
    (config : boot_config_t) :
    NormalMode secrets credentials (use_stored_credentials secrets credentials config) :=
  ⟨rfl, rfl, rfl⟩

theorem select_provisioning_mode_provisioning (config : boot_config_t) :
    ProvisioningMode secrets (select_provisioning_mode secrets config) :=
  ⟨rfl, rfl⟩

variable {secrets} {content : nvs_content}

/-- The recovery flag at most is gone. -/
def FlagAtMost (content content' : nvs_content) : Prop :=
  ∀ key, content' key = content key ∨ key = .recv_trig ∧ content' key = none

theorem FlagAtMost.refl (content : nvs_content) : FlagAtMost content content := fun _ => .inl rfl

theorem FlagAtMost.other {content content' : nvs_content} (h : FlagAtMost content content')
    {key : nvs_key} (hkey : key ≠ .recv_trig) : content' key = content key :=
  (h key).resolve_right fun hgone => hkey hgone.1

/-- Behind the erasure of the flag, if it has got so far. -/
theorem flagAtMost_erase (content : nvs_content) (j : ℕ) :
    FlagAtMost content
      (KeyStore.applyAll (([⟨.recv_trig, none⟩] : List nvs_write).take j) content) := by
  intro key
  by_cases hkey : key = .recv_trig
  · subst hkey
    cases j with
    | zero => exact .inl rfl
    | succ j =>
        rw [List.take_succ_cons, List.take_nil, KeyStore.applyAll_cons, KeyStore.applyAll_nil,
          KeyStore.Write.apply]
        exact .inr ⟨rfl, Function.update_self ..⟩
  · exact .inl (KeyStore.applyAll_take_other (by simpa using hkey) j content)

theorem clear_recovery_triggered_ends (C : nvs_failure → Prop) (content : nvs_content) :
    Ends C content app_storage_clear_recovery_triggered fun _ content' =>
      FlagAtMost content content' := by
  refine .opened (.write_and_commit _ (fun _ j _ _ => flagAtMost_erase content j)
    (flagAtMost_erase content 1)) ?_ (.refl content)
  intro failure
  rw [if_neg failure.not_absent.1]
  exact .pure (.refl content)

theorem retry_stored_ends (C : nvs_failure → Prop) (content : nvs_content)
    (credentials : app_storage_wifi_credentials_t) (config : boot_config_t) :
    Ends C content (retry_stored secrets credentials config) fun result content' =>
      FlagAtMost content content' ∧ ∀ chosen ∈ result,
        chosen = (.ESP_OK, use_stored_credentials secrets credentials config) := by
  have hend : ∀ triggered : Bool, Ends C content
      (if triggered then do
          let _ ← app_storage_clear_recovery_triggered
          return (.ESP_OK, use_stored_credentials secrets credentials config)
        else return (.ESP_OK, use_stored_credentials secrets credentials config))
      fun result content' => FlagAtMost content content' ∧ ∀ chosen ∈ result,
        chosen = (esp_err_t.ESP_OK, use_stored_credentials secrets credentials config) := by
    intro triggered
    cases triggered with
    | true =>
        refine .map ((clear_recovery_triggered_ends C content).mono ?_)
        intro result content' hflag
        refine ⟨hflag, fun chosen hchosen => ?_⟩
        obtain ⟨err, -, rfl⟩ := Option.map_eq_some_iff.mp hchosen
        rfl
    | false =>
        refine .pure ⟨.refl content, ?_⟩
        rintro chosen ⟨⟩
        rfl
  exact .call rfl (hend _) (fun _ _ => hend false) ⟨.refl content, fun _ h => nomatch h⟩

/-- **While the credentials can be loaded**, a boot that gets its way selects the normal mode with
them, and whatever happens to its calls, it removes the recovery flag at most. -/
theorem prepare_loadable (secrets : secrets_t) {credentials : app_storage_wifi_credentials_t}
    (hload : app_storage_load_wifi_credentials content = .ok credentials) :
    Ends (fun failure => failure.err ≠ .ESP_ERR_INVALID_ARG) content
      (prepare_wifi_gateway_config secrets) fun result content' =>
        FlagAtMost content content' ∧
          ∀ config, result = some (.ESP_OK, config) → NormalMode secrets credentials config := by
  have hchoose : ∀ base, Ends (fun failure => failure.err ≠ .ESP_ERR_INVALID_ARG) content
      (choose_mode secrets base) fun result content' => FlagAtMost content content' ∧
        ∀ config, result = some (.ESP_OK, config) → NormalMode secrets credentials config := by
    intro base
    refine .call rfl ?_ ?_ ⟨.refl content, fun _ h => nomatch h⟩
    · rw [hload]
      refine (retry_stored_ends _ content credentials base).mono ?_
      rintro result content' ⟨hflag, hchosen⟩
      refine ⟨hflag, fun config hconfig => ?_⟩
      obtain rfl := (Prod.mk.inj (hchosen _ hconfig)).2
      exact use_stored_credentials_normal secrets credentials base
    · intro failure hfailure
      dsimp only
      rw [no_credentials, if_neg failure.not_absent.2, if_neg hfailure]
      refine .pure ⟨.refl content, fun config hconfig => absurd ?_ failure.not_ok⟩
      exact (Prod.mk.inj (Option.some.inj hconfig)).1
  exact .call rfl (hchoose _) (fun _ _ => hchoose _) ⟨.refl content, fun _ h => nomatch h⟩

theorem nvs_get_str_error {value : Option c_string} {size : ℕ} {err : esp_err_t}
    (h : nvs_get_str value size = .error err) : err ≠ .ESP_OK := by
  cases value with
  | none =>
      cases h
      decide
  | some text =>
      rw [nvs_get_str] at h
      split_ifs at h
      cases h
      decide

theorem load_wifi_credentials_error {err : esp_err_t}
    (h : app_storage_load_wifi_credentials content = .error err) : err ≠ .ESP_OK := by
  rw [app_storage_load_wifi_credentials] at h
  split at h
  · rename_i read_err hread
    split_ifs at h
    · cases h
      decide
    · cases h
      cases hssid : nvs_get_str (content .sta_ssid) APP_STORAGE_WIFI_SSID_SIZE with
      | error ssid_err =>
          rw [hssid] at hread
          cases hread
          exact nvs_get_str_error hssid
      | ok ssid =>
          rw [hssid] at hread
          cases hpassword : nvs_get_str (content .sta_password) APP_STORAGE_WIFI_PASSWORD_SIZE with
          | error password_err =>
              rw [hpassword] at hread
              cases hread
              exact nvs_get_str_error hpassword
          | ok password =>
              rw [hpassword] at hread
              cases hread
  · split at h
    · cases h
    · rename_i hvalid
      cases h
      exact hvalid

/-- Without credentials the mode without the station is chosen, or the boot fails. -/
theorem no_credentials_ends (C : nvs_failure → Prop) (content : nvs_content)
    (config : boot_config_t) {err : esp_err_t} (herr : err ≠ .ESP_OK) :
    Ends C content (no_credentials secrets config err) fun result content' =>
      (∃ j, content' = KeyStore.applyAll (clear_writes.take j) content) ∧
        ∀ chosen, result = some (.ESP_OK, chosen) → ProvisioningMode secrets chosen := by
  have hselected : ∀ {chosen}, chosen = select_provisioning_mode secrets config →
      ProvisioningMode secrets chosen := by
    rintro chosen rfl
    exact select_provisioning_mode_provisioning secrets config
  have hkept : ∃ j, content = KeyStore.applyAll (clear_writes.take j) content := ⟨0, rfl⟩
  rw [no_credentials]
  split_ifs
  · exact .pure ⟨hkept, fun chosen hchosen =>
      hselected (Prod.mk.inj (Option.some.inj hchosen)).2.symm⟩
  · refine .map fun faults _ => ⟨?_, ?_⟩
    · obtain ⟨j, -, hcontent⟩ := (clear_leaves content).interrupted faults
      exact ⟨j, hcontent⟩
    · intro chosen hchosen
      obtain ⟨err', -, hresult⟩ := Option.map_eq_some_iff.mp hchosen
      split_ifs at hresult with hok
      · exact absurd (Prod.mk.inj hresult).1 hok
      · exact hselected (Prod.mk.inj hresult).2.symm
  · exact .pure ⟨hkept, fun chosen hchosen =>
      absurd (Prod.mk.inj (Option.some.inj hchosen)).1 herr⟩

/-- **Whatever is stored and whatever happens to the calls**: the recovery flag at most is gone, or
a part of the current slot; and what is chosen is the normal mode with the credentials that are
stored, or the mode without the station. -/
theorem prepare_ends (secrets : secrets_t) (C : nvs_failure → Prop) (content : nvs_content) :
    Ends C content (prepare_wifi_gateway_config secrets) fun result content' =>
      (FlagAtMost content content' ∨
          ∃ j, content' = KeyStore.applyAll (clear_writes.take j) content) ∧
        ∀ config, result = some (.ESP_OK, config) →
          (∃ credentials, app_storage_load_wifi_credentials content = .ok credentials ∧
            NormalMode secrets credentials config) ∨ ProvisioningMode secrets config := by
  have hflag := FlagAtMost.refl content
  have hchoose : ∀ base, Ends C content (choose_mode secrets base) fun result content' =>
      (FlagAtMost content content' ∨
          ∃ j, content' = KeyStore.applyAll (clear_writes.take j) content) ∧
        ∀ config, result = some (.ESP_OK, config) →
          (∃ credentials, app_storage_load_wifi_credentials content = .ok credentials ∧
            NormalMode secrets credentials config) ∨ ProvisioningMode secrets config := by
    intro base
    refine .call rfl ?_ (fun failure _ => ?_) ⟨.inl hflag, fun _ h => nomatch h⟩
    · cases hload : app_storage_load_wifi_credentials content with
      | ok credentials =>
          refine (retry_stored_ends C content credentials base).mono ?_
          rintro result content' ⟨hflag, hchosen⟩
          refine ⟨.inl hflag, fun config hconfig => .inl ⟨credentials, rfl, ?_⟩⟩
          obtain rfl := (Prod.mk.inj (hchosen _ hconfig)).2
          exact use_stored_credentials_normal secrets credentials base
      | error err =>
          refine (no_credentials_ends C content base (load_wifi_credentials_error hload)).mono ?_
          rintro result content' ⟨hclear, hchosen⟩
          exact ⟨.inr hclear, fun config hconfig => .inr (hchosen config hconfig)⟩
    · refine (no_credentials_ends C content base failure.not_ok).mono ?_
      rintro result content' ⟨hclear, hchosen⟩
      exact ⟨.inr hclear, fun config hconfig => .inr (hchosen config hconfig)⟩
  exact .call rfl (hchoose _) (fun _ _ => hchoose _) ⟨.inl hflag, fun _ h => nomatch h⟩

end Choice

/-! ## What is started -/

section Start

variable {secrets : secrets_t} {content : nvs_content} {results : start_results}

/-- Only a configuration with the station connects. -/
theorem wifi_gateway_start_connects {config : wifi_gateway_config_t} {setup : List esp_err_t}
    {esp_wifi_connect : esp_err_t} {s : wifi_gateway_t}
    (h : .esp_wifi_connect ∈ (wifi_gateway_start config setup esp_wifi_connect s).2.2) :
    config.sta_enabled = true := by
  by_contra hsta
  rw [wifi_gateway_start] at h
  split_ifs at h
  · cases h
  · dsimp only at h
    split at h
    · cases h
    · cases h

/-- The main loop begins as the configuration says, unless something does not start; the station
is told to join the network of the configuration, or none. -/
theorem start_components_spec (results : start_results) (config : boot_config_t)
    (content : nvs_content) :
    (start_components results config content).1.content = content ∧
      (∀ event, (start_components results config content).2 = some event →
        event = .joins config.s_wifi_credentials ∧ config.wifi_config.sta_enabled = true) ∧
      ∀ world mode, (start_components results config content).1 = .running world mode →
        Booted world ∧ world.content = content ∧ mode = config.provisioning_mode ∧
          world.main.s_wifi_credentials = config.s_wifi_credentials := by
  have hsta := @wifi_gateway_start_connects config.wifi_config results.setup
    results.esp_wifi_connect .init
  rw [start_components]
  generalize wifi_gateway_start config.wifi_config results.setup results.esp_wifi_connect .init
    = start at hsta
  obtain ⟨gateway, err, calls⟩ := start
  dsimp only at hsta ⊢
  have hevent : ∀ event,
      (if .esp_wifi_connect ∈ calls then some (board_event.joins config.s_wifi_credentials)
        else none) = some event →
      event = .joins config.s_wifi_credentials ∧ config.wifi_config.sta_enabled = true := by
    intro event hevent
    split_ifs at hevent with hconnects
    exact ⟨(Option.some.inj hevent).symm, hsta hconnects⟩
  by_cases hfails : err ≠ .ESP_OK ∨ ∃ err ∈ results.services, err ≠ .ESP_OK
  all_goals simp only [hfails, if_true, if_false]
  · exact ⟨rfl, hevent, fun _ _ h => (nomatch h)⟩
  · refine ⟨rfl, hevent, ?_⟩
    rintro world mode ⟨⟩
    exact ⟨⟨rfl, rfl⟩, rfl, rfl, rfl⟩

/-- The partition is kept or erased as a whole. -/
theorem app_storage_init_nvs_content (nvs : nvs_flash_results) (content : nvs_content) :
    (app_storage_init_nvs nvs content).2 = content ∨
      (app_storage_init_nvs nvs content).2 = fun _ => none := by
  rw [app_storage_init_nvs]
  split_ifs
  all_goals dsimp only
  all_goals split_ifs
  all_goals first | exact .inl rfl | exact .inr rfl

/-- What a boot makes of the content that `app_storage_init_nvs` leaves. -/
structure Started (secrets : secrets_t) (content : nvs_content)
    (result : board_t × Option board_event) : Prop where
  kept : FlagAtMost content result.1.content ∨
    ∃ j, result.1.content = KeyStore.applyAll (clear_writes.take j) content
  event : ∀ event, result.2 = some event → ∃ network, event = .joins network ∧
    app_storage_load_wifi_credentials content = .ok network
  running : ∀ world mode, result.1 = .running world mode → Booted world ∧
    (mode = false → app_storage_load_wifi_credentials content = .ok world.main.s_wifi_credentials)

theorem Started.halted {content' : nvs_content}
    (h : FlagAtMost content content' ∨
      ∃ j, content' = KeyStore.applyAll (clear_writes.take j) content) :
    Started secrets content (.halted content', none) :=
  ⟨h, fun _ hevent => absurd hevent.symm (Option.some_ne_none _),
    fun _ _ hworld => (nomatch hworld)⟩

theorem app_main_start_started (secrets : secrets_t) (results : start_results)
    (content : nvs_content) :
    ∃ content', (content' = content ∨ content' = fun _ => none) ∧
      Started secrets content' (app_main_start secrets results content) := by
  refine ⟨_, app_storage_init_nvs_content results.nvs content, ?_⟩
  rw [app_main_start]
  generalize (app_storage_init_nvs results.nvs content) = init
  obtain ⟨err, content'⟩ := init
  dsimp only
  have hends := prepare_ends secrets (fun _ => True) content' results.faults
    fun _ _ => trivial
  split_ifs
  · exact .halted (.inl (.refl _))
  · generalize prepare_wifi_gateway_config secrets ⟨content', results.faults⟩ = run at hends
    obtain ⟨- | ⟨err, config⟩, s⟩ := run
    · exact .halted hends.1
    · dsimp only at hends ⊢
      split_ifs with herr
      · exact .halted hends.1
      · obtain rfl : err = .ESP_OK := not_not.mp herr
        obtain ⟨hcontent, hevent, hrunning⟩ := start_components_spec results config s.content
        refine ⟨hcontent.symm ▸ hends.1, ?_, ?_⟩
        · intro event hsome
          obtain ⟨rfl, hsta⟩ := hevent event hsome
          rcases hends.2 config rfl with ⟨credentials, hload, hmode⟩ | hmode
          · exact ⟨credentials, by rw [hmode.s_wifi_credentials], hload⟩
          · rw [hmode.wifi_config] at hsta
            cases hsta
        · intro world mode hworld
          obtain ⟨hbooted, -, hmode, hcredentials⟩ := hrunning world mode hworld
          refine ⟨hbooted, fun hnormal => ?_⟩
          rcases hends.2 config rfl with ⟨credentials, hload, hchosen⟩ | hchosen
          · rw [hcredentials, hchosen.s_wifi_credentials, hload]
          · rw [hmode, hchosen.provisioning_mode] at hnormal
            cases hnormal

/-- A partition that is not erased, and storage errors that do not say that the stored values are
invalid. -/
structure Readable (results : start_results) : Prop where
  init : results.nvs.nvs_flash_init ≠ .ESP_ERR_NVS_NO_FREE_PAGES ∧
    results.nvs.nvs_flash_init ≠ .ESP_ERR_NVS_NEW_VERSION_FOUND
  faults : OnlyErrors (fun failure => failure.err ≠ .ESP_ERR_INVALID_ARG) results.faults

/-- A start that keeps the credentials and joins their network, or halts. -/
structure StartedWith (credentials : app_storage_wifi_credentials_t) (content : nvs_content)
    (result : board_t × Option board_event) : Prop where
  kept : FlagAtMost content result.1.content
  event : ∀ event, result.2 = some event → event = .joins credentials
  running : ∀ world mode, result.1 = .running world mode →
    Booted world ∧ mode = false ∧ world.main.s_wifi_credentials = credentials

theorem StartedWith.halted {credentials : app_storage_wifi_credentials_t}
    {content' : nvs_content} (h : FlagAtMost content content') :
    StartedWith credentials content (.halted content', none) :=
  ⟨h, fun _ hevent => absurd hevent.symm (Option.some_ne_none _),
    fun _ _ hworld => (nomatch hworld)⟩

/-- **A boot with credentials.** -/
theorem app_main_start_loadable (secrets : secrets_t) (h : Readable results)
    {credentials : app_storage_wifi_credentials_t}
    (hload : app_storage_load_wifi_credentials content = .ok credentials) :
    StartedWith credentials content (app_main_start secrets results content) := by
  have hinit : (app_storage_init_nvs results.nvs content).2 = content := by
    rw [app_storage_init_nvs, if_neg (not_or.mpr h.init)]
    dsimp only
    split_ifs
    all_goals rfl
  rw [app_main_start]
  generalize (app_storage_init_nvs results.nvs content) = init at hinit
  obtain ⟨err, content'⟩ := init
  obtain rfl : content' = content := hinit
  dsimp only
  have hends := prepare_loadable secrets hload results.faults h.faults
  split_ifs
  · exact .halted (.refl _)
  · generalize prepare_wifi_gateway_config secrets ⟨content', results.faults⟩ = run at hends
    obtain ⟨- | ⟨err, config⟩, s⟩ := run
    · exact .halted hends.1
    · dsimp only at hends ⊢
      split_ifs with herr
      · exact .halted hends.1
      · obtain rfl : err = .ESP_OK := not_not.mp herr
        have hmode := hends.2 config rfl
        obtain ⟨hcontent, hevent, hrunning⟩ := start_components_spec results config s.content
        refine ⟨hcontent.symm ▸ hends.1, ?_, ?_⟩
        · intro event hsome
          rw [(hevent event hsome).1, hmode.s_wifi_credentials]
        · intro world mode hworld
          obtain ⟨hbooted, -, hchosen, hcredentials⟩ := hrunning world mode hworld
          exact ⟨hbooted, hchosen.trans hmode.provisioning_mode,
            hcredentials.trans hmode.s_wifi_credentials⟩

/-! ## A start that nothing disturbs -/

/-- An access point that may be configured: it is open, or it has a password of WPA2. -/
def UsableAccessPoint (ap_ssid ap_password : c_string) : Prop :=
  ap_ssid ≠ [] ∧ (ap_password = [] ∨ 8 ≤ ap_password.length)

/-- The constants of `env/secrets.h` name two access points. -/
structure secrets_t.Usable (secrets : secrets_t) : Prop where
  normal : UsableAccessPoint secrets.AP_SSID secrets.AP_PASSWORD
  provisioning : UsableAccessPoint secrets.PROVISION_AP_SSID secrets.PROVISION_AP_PASSWORD

/-- Every call succeeds. -/
structure Undisturbed (results : start_results) : Prop where
  nvs : results.nvs.nvs_flash_init = .err .ESP_OK ∧ results.nvs.xSemaphoreCreateMutex = true
  faults : results.faults = []
  setup : ∀ err ∈ results.setup, err = .ESP_OK
  connect : results.esp_wifi_connect = .ESP_OK
  services : ∀ err ∈ results.services, err = .ESP_OK

theorem validate_config_access_point {config : wifi_gateway_config_t}
    {ap_ssid ap_password : c_string}
    (hssid : config.ap_ssid = some ap_ssid) (hpassword : config.ap_password = some ap_password)
    (hap : UsableAccessPoint ap_ssid ap_password)
    (hsta : config.sta_enabled = true →
      sta_credentials_ok config.sta_ssid config.sta_password = true) :
    validate_config (some config) = .ESP_OK := by
  have hlength : ¬ ap_ssid.length = 0 := fun h => hap.1 (List.length_eq_zero_iff.mp h)
  have hshort : ¬ (ap_password.length > 0 ∧ ap_password.length < 8) := by
    rintro ⟨hpos, hlt⟩
    rcases hap.2 with rfl | hlong
    · exact Nat.lt_irrefl 0 hpos
    · omega
  have hcredentials : ¬ (config.sta_enabled &&
      !sta_credentials_ok config.sta_ssid config.sta_password) = true := by
    rw [Bool.and_eq_true, Bool.not_eq_true']
    rintro ⟨henabled, hbad⟩
    rw [hsta henabled] at hbad
    cases hbad
  rw [validate_config]
  simp only [if_neg hcredentials, hssid, hpassword, Option.getD_some, if_neg hlength, if_neg hshort]

theorem start_components_done (h : Undisturbed results) {config : boot_config_t}
    (hvalid : validate_config (some config.wifi_config) = .ESP_OK) (content : nvs_content) :
    ∃ world, start_components results config content
        = (.running world config.provisioning_mode,
            if config.wifi_config.sta_enabled = true then some (.joins config.s_wifi_credentials)
            else none) ∧
      Booted world ∧ world.content = content ∧ world.gateway.s_status
        = if config.wifi_config.sta_enabled = true then .STA_CONNECTING else .PROVISIONING := by
  have hsetup : results.setup.find? (· ≠ .ESP_OK) = none := by
    rw [List.find?_eq_none]
    intro err hmem
    simpa using h.setup err hmem
  have hservices : ¬ ∃ err ∈ results.services, err ≠ .ESP_OK := by
    rintro ⟨err, hmem, herr⟩
    exact herr (h.services err hmem)
  rw [start_components, wifi_gateway_start, if_neg (not_not.mpr hvalid)]
  simp only [hsetup, h.connect]
  cases hsta : config.wifi_config.sta_enabled with
  | true =>
      simp only [connect_sta, ne_eq, not_true_eq_false, if_false, if_true, List.mem_singleton,
        false_or, if_neg hservices]
      exact ⟨_, rfl, ⟨rfl, rfl⟩, rfl, rfl⟩
  | false =>
      simp only [Bool.false_eq_true, if_false, List.not_mem_nil, ne_eq, not_true_eq_false,
        false_or, if_neg hservices]
      exact ⟨_, rfl, ⟨rfl, rfl⟩, rfl, rfl⟩

theorem app_storage_init_nvs_done (h : Undisturbed results) (content : nvs_content) :
    app_storage_init_nvs results.nvs content = (.err .ESP_OK, content) := by
  rw [app_storage_init_nvs, h.nvs.1, h.nvs.2]
  rfl

theorem retry_stored_done (secrets : secrets_t) (content : nvs_content)
    (credentials : app_storage_wifi_credentials_t) (config : boot_config_t) :
    ∃ content', retry_stored secrets credentials config ⟨content, []⟩
        = (some (.ESP_OK, use_stored_credentials secrets credentials config), ⟨content', []⟩) ∧
      FlagAtMost content content' := by
  have hclear : app_storage_clear_recovery_triggered ⟨content, []⟩
      = (some .ESP_OK, ⟨KeyStore.applyAll [⟨.recv_trig, none⟩] content, []⟩) := by
    rw [app_storage_clear_recovery_triggered, bind_apply, nvs_open, nvs_call_last]
    dsimp only [id]
    rw [if_neg (not_not.mpr rfl)]
    exact write_and_commit_done _ _ content
  rw [retry_stored, bind_apply, nvs_call_last]
  cases app_storage_is_recovery_triggered content with
  | true =>
      refine ⟨KeyStore.applyAll [⟨.recv_trig, none⟩] content, ?_, ?_⟩
      · dsimp only
        rw [if_pos rfl, bind_apply, hclear]
        rfl
      · exact flagAtMost_erase content 1
  | false => exact ⟨content, rfl, .refl content⟩

/-- **With credentials** the device is the normal gateway and joins their network. -/
theorem app_main_start_normal (h : Undisturbed results) (hsecrets : secrets.Usable)
    {credentials : app_storage_wifi_credentials_t}
    (hload : app_storage_load_wifi_credentials content = .ok credentials) :
    ∃ world, app_main_start secrets results content
        = (.running world false, some (.joins credentials)) ∧
      Booted world ∧ FlagAtMost content world.content ∧
        world.gateway.s_status = .STA_CONNECTING := by
  have hprepare : ∃ config content', prepare_wifi_gateway_config secrets ⟨content, []⟩
        = (some (.ESP_OK, config), ⟨content', []⟩) ∧
      FlagAtMost content content' ∧ NormalMode secrets credentials config := by
    let base := keep_candidate secrets (app_storage_load_candidate_wifi_config content)
    obtain ⟨content', hretry, hflag⟩ := retry_stored_done secrets content credentials base
    refine ⟨_, content', ?_, hflag, use_stored_credentials_normal secrets credentials base⟩
    rw [prepare_wifi_gateway_config, bind_apply, nvs_read, nvs_call_last]
    dsimp only
    rw [choose_mode, bind_apply, nvs_read, nvs_call_last]
    dsimp only
    rw [hload]
    exact hretry
  obtain ⟨config, content', hprepare, hflag, hmode⟩ := hprepare
  have hvalid : validate_config (some config.wifi_config) = .ESP_OK := by
    rw [hmode.wifi_config]
    refine validate_config_access_point rfl rfl hsecrets.normal fun _ => ?_
    exact sta_credentials_ok_iff.mpr (load_wifi_credentials_usable hload)
  obtain ⟨world, hstart, hbooted, hcontent, hstatus⟩ := start_components_done h hvalid content'
  rw [hmode.provisioning_mode, hmode.wifi_config, if_pos rfl, hmode.s_wifi_credentials] at hstart
  rw [hmode.wifi_config, if_pos rfl] at hstatus
  refine ⟨world, ?_, hbooted, hcontent.symm ▸ hflag, hstatus⟩
  rw [app_main_start, app_storage_init_nvs_done h]
  dsimp only
  rw [if_neg (not_not.mpr rfl), h.faults, hprepare]
  dsimp only
  rw [if_neg (not_not.mpr rfl), hstart]

/-- **Without credentials** it is there for the administrator. -/
theorem app_main_start_provisioning (h : Undisturbed results) (hsecrets : secrets.Usable)
    (hload : app_storage_load_wifi_credentials content = .error .ESP_ERR_NOT_FOUND) :
    ∃ world, app_main_start secrets results content = (.running world true, none) ∧
      Booted world ∧ world.content = content ∧ world.gateway.s_status = .PROVISIONING := by
  have hprepare : ∃ config, prepare_wifi_gateway_config secrets ⟨content, []⟩
      = (some (.ESP_OK, config), ⟨content, []⟩) ∧ ProvisioningMode secrets config := by
    let base := keep_candidate secrets (app_storage_load_candidate_wifi_config content)
    refine ⟨_, ?_, select_provisioning_mode_provisioning secrets base⟩
    rw [prepare_wifi_gateway_config, bind_apply, nvs_read, nvs_call_last]
    dsimp only
    rw [choose_mode, bind_apply, nvs_read, nvs_call_last]
    dsimp only
    rw [hload]
    rfl
  obtain ⟨config, hprepare, hmode⟩ := hprepare
  have hvalid : validate_config (some config.wifi_config) = .ESP_OK := by
    rw [hmode.wifi_config]
    exact validate_config_access_point rfl rfl hsecrets.provisioning (by rintro ⟨⟩)
  obtain ⟨world, hstart, hbooted, hcontent, hstatus⟩ := start_components_done h hvalid content
  rw [hmode.provisioning_mode, hmode.wifi_config, if_neg Bool.false_ne_true] at hstart
  rw [hmode.wifi_config, if_neg Bool.false_ne_true] at hstatus
  refine ⟨world, ?_, hbooted, hcontent, hstatus⟩
  rw [app_main_start, app_storage_init_nvs_done h]
  dsimp only
  rw [if_neg (not_not.mpr rfl), h.faults, hprepare]
  dsimp only
  rw [if_neg (not_not.mpr rfl), hstart]

end Start

end WifiManager.Main
