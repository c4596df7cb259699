/-
The slots after a part of an operation's writes.

The writes of an operation are for different keys, so each key changes once, at a fixed
place in the order. The four equations here give all contents an interruption can leave
behind; their ends are the contents of the completed operations (`exec_refines`).
-/
import WifiManager.AppStorage.Configuration

set_option autoImplicit false

namespace WifiManager.AppStorage

open WifiManager.Lib

open KeyStore (applyAll applyAll_take_key applyAll_take_other)

/-! ## The writes keep the values valid -/

section Valid

variable {content : nvs_content}

/-- What is loaded has been validated. -/
theorem load_candidate_valid {config : app_storage_wifi_config_t}
    (h : load_candidate_from_handle content = .ok config) :
    validate_wifi_config (some config) = .ESP_OK := by
  rw [load_candidate_from_handle] at h
  split at h
  · split_ifs at h
  · split at h
    · split_ifs at h
    · split at h
      · next hvalid =>
          rw [Except.ok.injEq] at h
          rw [← h]
          exact hvalid
      · exact absurd h (by simp)

theorem promoted_eq_some {request_id : c_string} {version : UInt32}
    {pending : app_storage_wifi_config_t} :
    promoted content request_id version = some pending ↔
      load_candidate_from_handle content = .ok pending ∧ pending.request_id = request_id ∧
        pending.config_version = version := by
  rw [promoted, Option.filter_eq_some_iff]
  cases load_candidate_from_handle content with
  | error err => simp [Except.toOption]
  | ok config =>
      simp only [Except.toOption, Option.some.injEq, Except.ok.injEq, decide_eq_true_eq]

@[simp] theorem validWrite_erase (key : nvs_key) : ValidWrite ⟨key, none⟩ := by
  intro value hvalue
  cases hvalue

theorem validWrite_set {key : nvs_key} {value : key.value} (h : key.Valid value) :
    ValidWrite ⟨key, some value⟩ := by
  intro value' hvalue
  cases hvalue
  exact h

theorem operation.writes_valid (op : operation) (content : nvs_content) :
    ∀ w ∈ op.writes content, ValidWrite w := by
  match op with
  | .save none => simp [operation.writes]
  | .stage none => simp [operation.writes]
  | .promote none _ => simp [operation.writes]
  | .save (some credentials) =>
      rw [operation.writes]
      split_ifs with hvalid
      -- what the validation admits fits the buffers of the load functions
      · obtain ⟨hssid, hpassword⟩ := (validate_wifi_credentials_ok _).mp hvalid
        have hwrites : ValidWrite ⟨.sta_ssid, some credentials.ssid⟩ ∧
            ValidWrite ⟨.sta_password, some credentials.password⟩ :=
          ⟨validWrite_set hssid, validWrite_set hpassword⟩
        simpa [save_writes, erase_candidate_writes] using hwrites
      · simp
  | .stage (some config) =>
      rw [operation.writes]
      split_ifs with hstored
      · obtain ⟨hversion, hrequest, hssid, hpassword⟩ := (validate_wifi_config_ok _).mp hstored.1
        have hwrites : ValidWrite ⟨.cand_ssid, some config.credentials.ssid⟩ ∧
            ValidWrite ⟨.cand_pass, some config.credentials.password⟩ ∧
            ValidWrite ⟨.cand_req, some config.request_id⟩ ∧
            ValidWrite ⟨.cand_ver, some config.config_version⟩ :=
          ⟨validWrite_set hssid, validWrite_set hpassword, validWrite_set hrequest,
            validWrite_set hversion⟩
        simpa [stage_writes] using hwrites
      · simp
  | .promote (some request_id) version =>
      rw [operation.writes]
      split_ifs with harg
      · simp
      · cases hpending : promoted content request_id version with
        | none => simp
        | some pending =>
            -- a candidate that is loaded has been validated
            obtain ⟨hversion, hrequest, hssid, hpassword⟩ :=
              (validate_wifi_config_ok _).mp (load_candidate_valid (promoted_eq_some.mp hpending).1)
            have hwrites : ValidWrite ⟨.sta_ssid, some pending.credentials.ssid⟩ ∧
                ValidWrite ⟨.sta_password, some pending.credentials.password⟩ ∧
                ValidWrite ⟨.active_req, some pending.request_id⟩ ∧
                ValidWrite ⟨.active_ver, some pending.config_version⟩ :=
              ⟨validWrite_set hssid, validWrite_set hpassword, validWrite_set hrequest,
                validWrite_set hversion⟩
            simpa [promote_writes, erase_candidate_writes] using hwrites
  | .clear => simp [operation.writes, clear_writes]

theorem Sound.cut (h : Sound content) (op : operation) (j : ℕ) :
    Sound (KeyStore.applyAll ((op.writes content).take j) content) :=
  h.applyAll fun w hw => op.writes_valid content w (List.mem_of_mem_take hw)

end Valid

/-! ## The slots behind a prefix -/

/-- The slots behind the first writes of a save. -/
def save_cut (credentials : app_storage_wifi_credentials_t) (s : slots_t) (j : ℕ) : slots_t where
  sta_ssid := if 0 < j then some credentials.ssid else s.sta_ssid
  sta_password := if 1 < j then some credentials.password else s.sta_password
  cand_ssid := if 2 < j then none else s.cand_ssid
  cand_pass := if 3 < j then none else s.cand_pass
  cand_req := if 4 < j then none else s.cand_req
  cand_ver := if 5 < j then none else s.cand_ver
  active_req := if 6 < j then none else s.active_req
  active_ver := if 7 < j then none else s.active_ver

/-- The slots behind the first writes of a stage. -/
def stage_cut (config : app_storage_wifi_config_t) (s : slots_t) (j : ℕ) : slots_t :=
  { s with
    cand_ssid := if 0 < j then some config.credentials.ssid else s.cand_ssid
    cand_pass := if 1 < j then some config.credentials.password else s.cand_pass
    cand_req := if 2 < j then some config.request_id else s.cand_req
    cand_ver := if 3 < j then some config.config_version else s.cand_ver }

/-- The slots behind the first writes of a promotion. -/
def promote_cut (pending : app_storage_wifi_config_t) (s : slots_t) (j : ℕ) : slots_t where
  sta_ssid := if 0 < j then some pending.credentials.ssid else s.sta_ssid
  sta_password := if 1 < j then some pending.credentials.password else s.sta_password
  active_req := if 2 < j then some pending.request_id else s.active_req
  active_ver := if 3 < j then some pending.config_version else s.active_ver
  cand_ssid := if 4 < j then none else s.cand_ssid
  cand_pass := if 5 < j then none else s.cand_pass
  cand_req := if 6 < j then none else s.cand_req
  cand_ver := if 7 < j then none else s.cand_ver

/-- The slots behind the first writes of a clear. -/
def clear_cut (s : slots_t) (j : ℕ) : slots_t :=
  { s with
    sta_ssid := if 0 < j then none else s.sta_ssid
    sta_password := if 1 < j then none else s.sta_password
    active_req := if 2 < j then none else s.active_req
    active_ver := if 3 < j then none else s.active_ver }

section Slots

variable (content : nvs_content) (j : ℕ)

theorem save_slots (credentials : app_storage_wifi_credentials_t) :
    slots (applyAll ((save_writes credentials).take j) content)
      = save_cut credentials (slots content) j := by
  have hnames : (save_writes credentials).map KeyStore.Write.key
      = [nvs_key.sta_ssid, .sta_password, .cand_ssid, .cand_pass, .cand_req, .cand_ver,
        .active_req, .active_ver, .recv_trig, .recv_retry] := rfl
  have key : ∀ {i w}, (save_writes credentials)[i]? = some w →
      applyAll ((save_writes credentials).take j) content w.key
        = if i < j then w.value else content w.key :=
    fun hi => applyAll_take_key (hnames ▸ by decide) hi j content
  ext1
  · exact key (i := 0) rfl
  · exact key (i := 1) rfl
  · exact key (i := 2) rfl
  · exact key (i := 3) rfl
  · exact key (i := 4) rfl
  · exact key (i := 5) rfl
  · exact key (i := 6) rfl
  · exact key (i := 7) rfl

theorem stage_slots (config : app_storage_wifi_config_t) :
    slots (applyAll ((stage_writes config).take j) content)
      = stage_cut config (slots content) j := by
  have hnames : (stage_writes config).map KeyStore.Write.key
      = [nvs_key.cand_ssid, .cand_pass, .cand_req, .cand_ver] := rfl
  have key : ∀ {i w}, (stage_writes config)[i]? = some w →
      applyAll ((stage_writes config).take j) content w.key
        = if i < j then w.value else content w.key :=
    fun hi => applyAll_take_key (hnames ▸ by decide) hi j content
  have other : ∀ k, k ∉ [nvs_key.cand_ssid, .cand_pass, .cand_req, .cand_ver] →
      applyAll ((stage_writes config).take j) content k = content k :=
    fun k hk => applyAll_take_other (hnames ▸ hk) j content
  ext1
  · exact other .sta_ssid (by decide)
  · exact other .sta_password (by decide)
  · exact key (i := 0) rfl
  · exact key (i := 1) rfl
  · exact key (i := 2) rfl
  · exact key (i := 3) rfl
  · exact other .active_req (by decide)
  · exact other .active_ver (by decide)

theorem promote_slots (pending : app_storage_wifi_config_t) :
    slots (applyAll ((promote_writes pending).take j) content)
      = promote_cut pending (slots content) j := by
  have hnames : (promote_writes pending).map KeyStore.Write.key
      = [nvs_key.sta_ssid, .sta_password, .active_req, .active_ver, .cand_ssid, .cand_pass,
        .cand_req, .cand_ver, .recv_trig, .recv_retry] := rfl
  have key : ∀ {i w}, (promote_writes pending)[i]? = some w →
      applyAll ((promote_writes pending).take j) content w.key
        = if i < j then w.value else content w.key :=
    fun hi => applyAll_take_key (hnames ▸ by decide) hi j content
  ext1
  · exact key (i := 0) rfl
  · exact key (i := 1) rfl
  · exact key (i := 4) rfl
  · exact key (i := 5) rfl
  · exact key (i := 6) rfl
  · exact key (i := 7) rfl
  · exact key (i := 2) rfl
  · exact key (i := 3) rfl

theorem clear_slots :
    slots (applyAll (clear_writes.take j) content) = clear_cut (slots content) j := by
  have hnames : clear_writes.map KeyStore.Write.key
      = [nvs_key.sta_ssid, .sta_password, .active_req, .active_ver] := rfl
  have key : ∀ {i w}, clear_writes[i]? = some w →
      applyAll (clear_writes.take j) content w.key = if i < j then w.value else content w.key :=
    fun hi => applyAll_take_key (hnames ▸ by decide) hi j content
  have other : ∀ k, k ∉ [nvs_key.sta_ssid, .sta_password, .active_req, .active_ver] →
      applyAll (clear_writes.take j) content k = content k :=
    fun k hk => applyAll_take_other (hnames ▸ hk) j content
  ext1
  · exact key (i := 0) rfl
  · exact key (i := 1) rfl
  · exact other .cand_ssid (by decide)
  · exact other .cand_pass (by decide)
  · exact other .cand_req (by decide)
  · exact other .cand_ver (by decide)
  · exact key (i := 2) rfl
  · exact key (i := 3) rfl

end Slots

/-! ## Completed operations -/

/-- **An operation that is not interrupted takes its step.** -/
theorem exec_refines {content : nvs_content} {cfg : configuration} (h : Represents content cfg)
    (op : operation) : Represents (op.exec ⟨content, []⟩).2.content (op.apply cfg) := by
  rw [(exec_leaves op content).complete]
  -- each list of writes, carried out to its end
  match op with
  | .save none => exact h
  | .stage none => exact h
  | .promote none _ => exact h
  | .save (some credentials) =>
      rw [operation.writes, operation.apply]
      split_ifs with hvalid
      · exact save_slots content 10 credentials
      · exact h
  | .stage (some config) =>
      rw [h.writes_stage, operation.apply]
      by_cases hvalid : validate_wifi_config (some config) = .ESP_OK
      · simp only [hvalid, true_and, dite_true]
        split_ifs with hbelow
        · refine (stage_slots content 4 config).trans ?_
          rw [h]
          rfl
        · exact h
      · rw [dif_neg hvalid, if_neg fun hboth => hvalid hboth.1]
        exact h
  | .promote (some request_id) version =>
      rw [h.writes_promote, operation.apply]
      cases cfg.expected request_id version with
      | none => exact h
      | some config => exact promote_slots content 10 config.1
  | .clear =>
      refine (clear_slots content 4).trans ?_
      rw [h]
      rfl

end WifiManager.AppStorage
