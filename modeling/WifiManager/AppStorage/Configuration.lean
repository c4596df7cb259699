/-
What the content of the namespace means.

Every value the writers store has been validated (`Sound`), and then the load functions
depend on nothing but which keys are present (`reports_sound`). A content with whole
slots only is the image of a `configuration`: current credentials, a candidate and an
active pair, each there or not. On configurations an operation is one step
(`operation.apply`), and without interruption the program takes that step
(`exec_refines`).
-/
import WifiManager.AppStorage.Operations

set_option autoImplicit false

namespace WifiManager.AppStorage

open WifiManager.Lib

/-! ## Stored values -/

def ValidSsid (ssid : c_string) : Prop :=
  ssid ≠ [] ∧ ssid.length < APP_STORAGE_WIFI_SSID_SIZE

def ValidPassword (password : c_string) : Prop :=
  password.length < APP_STORAGE_WIFI_PASSWORD_SIZE ∧ (password = [] ∨ 8 ≤ password.length)

def ValidRequestId (request_id : c_string) : Prop :=
  request_id ≠ [] ∧ request_id.length < APP_STORAGE_WIFI_REQUEST_ID_SIZE

/-- The values a key may hold. -/
def nvs_key.Valid : (key : nvs_key) → key.value → Prop
  | .sta_ssid, ssid => ValidSsid ssid
  | .sta_password, password => ValidPassword password
  | .cand_ssid, ssid => ValidSsid ssid
  | .cand_pass, password => ValidPassword password
  | .cand_req, request_id => ValidRequestId request_id
  | .cand_ver, version => version ≠ (0 : UInt32)
  | .active_req, request_id => ValidRequestId request_id
  | .active_ver, version => version ≠ (0 : UInt32)
  | .recv_trig, _ => True
  | .recv_retry, _ => True

/-- Every stored value is valid by itself. -/
def Sound (content : nvs_content) : Prop :=
  ∀ key value, content key = some value → key.Valid value

/-- A write of a valid value, or an erasure. -/
def ValidWrite (w : nvs_write) : Prop := ∀ value, w.value = some value → w.key.Valid value

theorem Sound.apply {content : nvs_content} (h : Sound content) {w : nvs_write}
    (hw : ValidWrite w) : Sound (w.apply content) := by
  intro key value hvalue
  by_cases hkey : key = w.key
  · subst hkey
    rw [KeyStore.Write.apply, Function.update_self] at hvalue
    exact hw value hvalue
  · rw [KeyStore.Write.apply, Function.update_of_ne hkey] at hvalue
    exact h key value hvalue

theorem Sound.applyAll {content : nvs_content} (h : Sound content) {ws : List nvs_write}
    (hws : ∀ w ∈ ws, ValidWrite w) : Sound (KeyStore.applyAll ws content) := by
  induction ws generalizing content with
  | nil => exact h
  | cons w ws ih =>
      obtain ⟨hw, hws⟩ := List.forall_mem_cons.mp hws
      exact ih (h.apply hw) hws

/-! ## Validation accepts what is valid -/

theorem validate_wifi_credentials_ok (credentials : app_storage_wifi_credentials_t) :
    validate_wifi_credentials (some credentials) = .ESP_OK ↔
      ValidSsid credentials.ssid ∧ ValidPassword credentials.password := by
  obtain ⟨ssid, password⟩ := credentials
  have hssid : ssid = [] ↔ ssid.length = 0 := List.length_eq_zero_iff.symm
  have hpassword : password = [] ↔ password.length = 0 := List.length_eq_zero_iff.symm
  simp only [validate_wifi_credentials, ValidSsid, ValidPassword, ne_eq, hssid, hpassword]
  split_ifs with hbad hlong hshort
  · simp only [false_iff]
    omega
  · simp only [false_iff]
    omega
  · simp only [false_iff]
    omega
  · simp only [true_iff]
    omega

theorem validate_wifi_config_ok (config : app_storage_wifi_config_t) :
    validate_wifi_config (some config) = .ESP_OK ↔
      config.config_version ≠ 0 ∧ ValidRequestId config.request_id ∧
        ValidSsid config.credentials.ssid ∧ ValidPassword config.credentials.password := by
  have hrequest : config.request_id = [] ↔ config.request_id.length = 0 :=
    List.length_eq_zero_iff.symm
  rw [← validate_wifi_credentials_ok]
  simp only [validate_wifi_config, ValidRequestId, ne_eq, hrequest]
  split_ifs with hzero hbad
  · simp [hzero]
  · simp only [false_iff, not_and]
    intro _ hgood
    omega
  · simp only [hzero, not_false_eq_true, true_and]
    rw [and_iff_right]
    omega

/-! ## What the load functions make of valid values -/

/-- A stored value, or the error for an absent key. -/
def stored {α : Type} (value : Option α) : Except esp_err_t α :=
  match value with
  | none => .error .ESP_ERR_NVS_NOT_FOUND
  | some value => .ok value

/-- The credentials if both keys are there. -/
def read_credentials (ssid password : Option c_string) :
    Except esp_err_t app_storage_wifi_credentials_t :=
  match ssid, password with
  | some ssid, some password => .ok ⟨ssid, password⟩
  | _, _ => .error .ESP_ERR_NOT_FOUND

/-- The candidate; without its SSID there is none, with a part of the keys it is broken. -/
def read_candidate (ssid password request_id : Option c_string) (version : Option UInt32) :
    Except esp_err_t app_storage_wifi_config_t :=
  match ssid, password, request_id, version with
  | none, _, _, _ => .error .ESP_ERR_NOT_FOUND
  | some ssid, some password, some request_id, some version =>
      .ok ⟨⟨ssid, password⟩, request_id, version⟩
  | _, _, _, _ => .error .ESP_ERR_INVALID_STATE

/-- The active pair, which has both keys or none. -/
def read_active (request_id : Option c_string) (version : Option UInt32) :
    Except esp_err_t (Option (c_string × UInt32)) :=
  match request_id, version with
  | none, none => .ok none
  | some request_id, some version => .ok (some (request_id, version))
  | _, _ => .error .ESP_ERR_INVALID_STATE

/-- The status out of the two slots it covers. -/
def read_status (active : Except esp_err_t (Option (c_string × UInt32)))
    (candidate : Except esp_err_t app_storage_wifi_config_t) :
    Except esp_err_t app_storage_wifi_config_status_t :=
  match active, candidate with
  | .error err, _ => .error err
  | .ok active, .ok pending =>
      .ok ⟨(active.getD ([], 0)).1, (active.getD ([], 0)).2, pending.request_id,
        pending.config_version⟩
  | .ok active, .error err =>
      if err = .ESP_ERR_NOT_FOUND then
        .ok ⟨(active.getD ([], 0)).1, (active.getD ([], 0)).2, [], 0⟩
      else .error err

section Loads

variable {content : nvs_content}

theorem nvs_get_str_stored {value : Option c_string} {size : ℕ}
    (h : ∀ text, value = some text → text.length < size) :
    nvs_get_str value size = stored value := by
  cases value with
  | none => rfl
  | some text =>
      have hfits : ¬ text.length + 1 > size := by
        have htext := h text rfl
        omega
      rw [nvs_get_str, if_neg hfits]
      rfl

theorem load_wifi_credentials_sound (h : Sound content) :
    app_storage_load_wifi_credentials content
      = read_credentials (content .sta_ssid) (content .sta_password) := by
  have hssid := h .sta_ssid
  have hpassword := h .sta_password
  rw [app_storage_load_wifi_credentials, nvs_get_str_stored fun text htext => (hssid text htext).2,
    nvs_get_str_stored fun text htext => (hpassword text htext).1]
  generalize content .sta_ssid = ssid at hssid
  generalize content .sta_password = password at hpassword
  match ssid, password with
  | none, _ => rfl
  | some _, none => rfl
  | some ssid, some password =>
      have hvalid := (validate_wifi_credentials_ok ⟨ssid, password⟩).mpr
        ⟨hssid ssid rfl, hpassword password rfl⟩
      simp only [stored, bind, Except.bind, pure, Except.pure, hvalid, read_credentials]

theorem load_candidate_sound (h : Sound content) :
    load_candidate_from_handle content
      = read_candidate (content .cand_ssid) (content .cand_pass) (content .cand_req)
          (content .cand_ver) := by
  have hssid := h .cand_ssid
  have hpassword := h .cand_pass
  have hrequest := h .cand_req
  have hversion := h .cand_ver
  rw [load_candidate_from_handle, nvs_get_str_stored fun text htext => (hssid text htext).2]
  simp only [read_candidate_rest]
  rw [nvs_get_str_stored fun text htext => (hpassword text htext).1,
    nvs_get_str_stored fun text htext => (hrequest text htext).2]
  generalize content .cand_ssid = ssid at hssid
  generalize content .cand_pass = password at hpassword
  generalize content .cand_req = request_id at hrequest
  generalize content .cand_ver = version at hversion
  -- the first key that is missing decides; a whole slot is valid because its values are
  match ssid, password, request_id, version with
  | none, _, _, _ => rfl
  | some _, none, _, _ => rfl
  | some _, some _, none, _ => rfl
  | some _, some _, some _, none => rfl
  | some ssid, some password, some request_id, some version =>
      have hvalid := (validate_wifi_config_ok ⟨⟨ssid, password⟩, request_id, version⟩).mpr
        ⟨hversion version rfl, hrequest request_id rfl, hssid ssid rfl, hpassword password rfl⟩
      simp only [stored, nvs_get_u32, bind, Except.bind, pure, Except.pure, hvalid,
        read_candidate]

theorem load_active_sound (h : Sound content) :
    load_active content = read_active (content .active_req) (content .active_ver) := by
  have hrequest := h .active_req
  have hversion := h .active_ver
  unfold load_active load_metadata_pair
  rw [nvs_get_str_stored fun text htext => (hrequest text htext).2]
  generalize content .active_req = request_id at hrequest
  generalize content .active_ver = version at hversion
  match request_id, version with
  | none, none => rfl
  | none, some _ => rfl
  | some _, none => rfl
  | some request_id, some version =>
      have hgood : ¬ (request_id = [] ∨ version = (0 : UInt32)) := by
        rintro (hempty | hzero)
        · exact (hrequest request_id rfl).1 hempty
        · exact hversion version rfl hzero
      exact if_neg hgood

theorem load_status_sound (h : Sound content) :
    app_storage_load_wifi_config_status content
      = read_status (read_active (content .active_req) (content .active_ver))
          (read_candidate (content .cand_ssid) (content .cand_pass) (content .cand_req)
            (content .cand_ver)) := by
  rw [app_storage_load_wifi_config_status, load_active_sound h, load_candidate_sound h]
  cases read_active (content .active_req) (content .active_ver) with
  | error err => rfl
  | ok active =>
      cases read_candidate (content .cand_ssid) (content .cand_pass) (content .cand_req)
          (content .cand_ver) with
      | error err => rfl
      | ok pending => rfl

end Loads

/-! ## Reports -/

/-- What the load functions say about a content. -/
structure reports_t where
  credentials : Except esp_err_t app_storage_wifi_credentials_t
  candidate : Except esp_err_t app_storage_wifi_config_t
  status : Except esp_err_t app_storage_wifi_config_status_t

def reports (content : nvs_content) : reports_t where
  credentials := app_storage_load_wifi_credentials content
  candidate := app_storage_load_candidate_wifi_config content
  status := app_storage_load_wifi_config_status content

/-- The values under the eight keys of the three slots. -/
@[ext] structure slots_t where
  sta_ssid : Option c_string
  sta_password : Option c_string
  cand_ssid : Option c_string
  cand_pass : Option c_string
  cand_req : Option c_string
  cand_ver : Option UInt32
  active_req : Option c_string
  active_ver : Option UInt32

def slots (content : nvs_content) : slots_t where
  sta_ssid := content .sta_ssid
  sta_password := content .sta_password
  cand_ssid := content .cand_ssid
  cand_pass := content .cand_pass
  cand_req := content .cand_req
  cand_ver := content .cand_ver
  active_req := content .active_req
  active_ver := content .active_ver

def slots_t.candidate (s : slots_t) : Except esp_err_t app_storage_wifi_config_t :=
  read_candidate s.cand_ssid s.cand_pass s.cand_req s.cand_ver

def slots_t.active (s : slots_t) : Except esp_err_t (Option (c_string × UInt32)) :=
  read_active s.active_req s.active_ver

/-- What the slots say. -/
def slots_t.reports (s : slots_t) : reports_t where
  credentials := read_credentials s.sta_ssid s.sta_password
  candidate := s.candidate
  status := read_status s.active s.candidate

/-- **What the load functions say about valid values depends on their presence only.** -/
theorem reports_sound {content : nvs_content} (h : Sound content) :
    reports content = (slots content).reports := by
  rw [reports, load_wifi_credentials_sound h, app_storage_load_candidate_wifi_config,
    load_candidate_sound h, load_status_sound h]
  rfl

/-! ## Configurations -/

abbrev valid_credentials :=
  { credentials : app_storage_wifi_credentials_t //
    validate_wifi_credentials (some credentials) = .ESP_OK }

abbrev valid_config :=
  { config : app_storage_wifi_config_t // validate_wifi_config (some config) = .ESP_OK }

/-- A request and its version. -/
abbrev valid_pair := { pair : c_string × UInt32 // ValidRequestId pair.1 ∧ pair.2 ≠ 0 }

theorem valid_config.credentials_valid (config : valid_config) :
    validate_wifi_credentials (some config.1.credentials) = .ESP_OK :=
  (validate_wifi_credentials_ok _).mpr ((validate_wifi_config_ok _).mp config.2).2.2

theorem valid_config.pair_valid (config : valid_config) :
    ValidRequestId config.1.request_id ∧ config.1.config_version ≠ 0 := by
  obtain ⟨hversion, hrequest, -⟩ := (validate_wifi_config_ok _).mp config.2
  exact ⟨hrequest, hversion⟩

/-- What a promotion makes of a candidate. -/
def valid_config.credentials (config : valid_config) : valid_credentials :=
  ⟨config.1.credentials, config.credentials_valid⟩

def valid_config.pair (config : valid_config) : valid_pair :=
  ⟨(config.1.request_id, config.1.config_version), config.pair_valid⟩

/-- What the component is for: credentials to connect with, a configuration waiting to be
tried, and the request that the credentials came from. -/
structure configuration where
  current : Option valid_credentials
  candidate : Option valid_config
  active : Option valid_pair

/-- The slots of a configuration: each as a whole or not at all. -/
def configuration.slots (cfg : configuration) : slots_t where
  sta_ssid := cfg.current.map (·.1.ssid)
  sta_password := cfg.current.map (·.1.password)
  cand_ssid := cfg.candidate.map (·.1.credentials.ssid)
  cand_pass := cfg.candidate.map (·.1.credentials.password)
  cand_req := cfg.candidate.map (·.1.request_id)
  cand_ver := cfg.candidate.map (·.1.config_version)
  active_req := cfg.active.map (·.1.1)
  active_ver := cfg.active.map (·.1.2)

/-- The content that holds a configuration. -/
def Represents (content : nvs_content) (cfg : configuration) : Prop :=
  slots content = cfg.slots

section Represented

variable {content : nvs_content} {cfg : configuration}

/-- A value that comes out of a valid slot. -/
theorem valid_of_map {α β : Type} {slot : Option α} {f : α → β} {P : β → Prop}
    (hslot : ∀ a, P (f a)) {stored : Option β} (hstored : stored = slot.map f) {value : β}
    (hvalue : stored = some value) : P value := by
  rw [hstored] at hvalue
  obtain ⟨a, -, rfl⟩ := Option.map_eq_some_iff.mp hvalue
  exact hslot a

theorem Represents.sound (h : Represents content cfg) : Sound content := by
  have hcurrent := fun credentials : valid_credentials =>
    (validate_wifi_credentials_ok credentials.1).mp credentials.2
  have hcandidate := fun config : valid_config => (validate_wifi_config_ok config.1).mp config.2
  intro key value hvalue
  cases key with
  | sta_ssid =>
      exact valid_of_map (fun c => (hcurrent c).1) (congrArg slots_t.sta_ssid h) hvalue
  | sta_password =>
      exact valid_of_map (fun c => (hcurrent c).2) (congrArg slots_t.sta_password h) hvalue
  | cand_ssid =>
      exact valid_of_map (fun c => (hcandidate c).2.2.1) (congrArg slots_t.cand_ssid h) hvalue
  | cand_pass =>
      exact valid_of_map (fun c => (hcandidate c).2.2.2) (congrArg slots_t.cand_pass h) hvalue
  | cand_req =>
      exact valid_of_map (fun c => (hcandidate c).2.1) (congrArg slots_t.cand_req h) hvalue
  | cand_ver =>
      exact valid_of_map (P := (· ≠ (0 : UInt32))) (fun c => (hcandidate c).1)
        (congrArg slots_t.cand_ver h) hvalue
  | active_req =>
      exact valid_of_map (fun p : valid_pair => p.2.1) (congrArg slots_t.active_req h) hvalue
  | active_ver =>
      exact valid_of_map (P := (· ≠ (0 : UInt32))) (fun p : valid_pair => p.2.2)
        (congrArg slots_t.active_ver h) hvalue
  | recv_trig => trivial
  | recv_retry => trivial

/-- The candidate of a configuration is found. -/
theorem Represents.load_candidate (h : Represents content cfg) :
    load_candidate_from_handle content
      = match cfg.candidate with
        | some config => .ok config.1
        | none => .error .ESP_ERR_NOT_FOUND := by
  refine (load_candidate_sound h.sound).trans ((congrArg slots_t.candidate h).trans ?_)
  rw [configuration.slots]
  cases cfg.candidate with
  | none => rfl
  | some config => rfl

/-- And its active pair. -/
theorem Represents.load_active (h : Represents content cfg) :
    load_active content = .ok (cfg.active.map (·.1)) := by
  refine (load_active_sound h.sound).trans ((congrArg slots_t.active h).trans ?_)
  rw [configuration.slots]
  cases cfg.active with
  | none => rfl
  | some pair => rfl

end Represented

/-! ## Operations on configurations -/

/-- No stored version reaches this one. -/
def configuration.Below (cfg : configuration) (version : UInt32) : Prop :=
  (∀ config ∈ cfg.candidate, config.1.config_version < version) ∧
    ∀ pair ∈ cfg.active, pair.1.2 < version

instance (cfg : configuration) (version : UInt32) : Decidable (cfg.Below version) :=
  inferInstanceAs (Decidable (_ ∧ _))

/-- The candidate with this request and version. -/
def configuration.expected (cfg : configuration) (request_id : c_string) (version : UInt32) :
    Option valid_config :=
  cfg.candidate.filter fun config =>
    config.1.request_id = request_id ∧ config.1.config_version = version

theorem configuration.expected_eq (cfg : configuration) {request_id : c_string}
    {version : UInt32} {config : valid_config}
    (h : cfg.expected request_id version = some config) :
    config.1.request_id = request_id ∧ config.1.config_version = version := by
  simpa using (Option.filter_eq_some_iff.mp h).2

/-- What an operation does to a configuration, in one step. -/
def operation.apply (cfg : configuration) : operation → configuration
  | .save (some credentials) =>
      if h : validate_wifi_credentials (some credentials) = .ESP_OK then
        ⟨some ⟨credentials, h⟩, none, none⟩
      else cfg
  | .stage (some config) =>
      if h : validate_wifi_config (some config) = .ESP_OK then
        if cfg.Below config.config_version then { cfg with candidate := some ⟨config, h⟩ }
        else cfg
      else cfg
  | .promote (some request_id) version =>
      match cfg.expected request_id version with
      | some config => ⟨some config.credentials, none, some config.pair⟩
      | none => cfg
  | .clear => ⟨none, cfg.candidate, none⟩
  | _ => cfg

/-! ## The writes of an operation on a configuration -/

theorem max_version_lt {a b c : UInt32} : max a b < c ↔ a < c ∧ b < c := by
  have hmax : max a b = if a ≤ b then b else a := rfl
  rw [hmax]
  split_ifs with h
  · simp only [UInt32.lt_iff_toNat_lt, UInt32.le_iff_toNat_le] at h ⊢
    omega
  · simp only [UInt32.lt_iff_toNat_lt, UInt32.le_iff_toNat_le] at h ⊢
    omega

/-- The version 0 of an empty slot is below every version that is asked for. -/
theorem getD_version_lt {α : Type} (slot : Option α) (f : α → UInt32) {c : UInt32} (hc : c ≠ 0) :
    (slot.map f).getD 0 < c ↔ ∀ a ∈ slot, f a < c := by
  cases slot with
  | none => simpa using UInt32.pos_iff_ne_zero.mpr hc
  | some a => simp

/-- Staging stores what is above all versions. -/
theorem stage_decision_stored {pending : Option app_storage_wifi_config_t}
    {active : Option (c_string × UInt32)} {config : app_storage_wifi_config_t}
    (hversion : config.config_version ≠ 0) :
    stage_decision pending active config = .STORED ↔
      (∀ p ∈ pending, p.config_version < config.config_version) ∧
        ∀ a ∈ active, a.2 < config.config_version := by
  -- neither below the highest version nor equal to it
  have hhighest : ∀ m : UInt32, ¬ config.config_version < m →
      ¬ (config.config_version = m ∧ m ≠ 0) → m < config.config_version := by
    grind
  rw [← getD_version_lt pending (·.config_version) hversion,
    ← getD_version_lt active Prod.snd hversion, ← max_version_lt]
  rw [stage_decision]
  constructor
  · intro hstored
    split_ifs at hstored with hpending hactive hold htaken
    exact hhighest _ hold htaken
  · intro hbelow
    have hpast := UInt32.lt_asymm hbelow
    have hother := (UInt32.ne_of_lt hbelow).symm
    obtain ⟨hpending, hactive⟩ := max_version_lt.mp hbelow
    rw [if_neg, if_neg, if_neg hpast, if_neg fun h => hother h.1]
    -- the same pair would have the same version, which is not below itself
    · intro hsame
      rw [hsame] at hactive
      exact absurd hactive (UInt32.lt_irrefl _)
    · intro hsame
      obtain ⟨p, rfl, hp⟩ := Option.map_eq_some_iff.mp hsame
      rw [Prod.mk.injEq] at hp
      simp [hp] at hpending


section Writes

variable {content : nvs_content} {cfg : configuration} (h : Represents content cfg)
include h

theorem Represents.stage_result_eq (config : app_storage_wifi_config_t) :
    stage_result content config
      = .ok (stage_decision (cfg.candidate.map (·.1)) (cfg.active.map (·.1)) config) := by
  rw [stage_result, h.load_candidate, h.load_active]
  cases cfg.candidate with
  | none => rfl
  | some pending => rfl

theorem Represents.stage_result_stored {config : app_storage_wifi_config_t}
    (hvalid : validate_wifi_config (some config) = .ESP_OK) :
    stage_result content config = .ok .STORED ↔ cfg.Below config.config_version := by
  have hversion := ((validate_wifi_config_ok config).mp hvalid).1
  rw [h.stage_result_eq, Except.ok.injEq, stage_decision_stored hversion, configuration.Below]
  simp only [Option.mem_def, Option.map_eq_some_iff, forall_exists_index, and_imp,
    forall_apply_eq_imp_iff₂]

theorem Represents.promoted {request_id : c_string} {version : UInt32} :
    promoted content request_id version = (cfg.expected request_id version).map (·.1) := by
  rw [AppStorage.promoted, h.load_candidate, configuration.expected]
  cases cfg.candidate with
  | none => rfl
  | some config =>
      simp only [Except.toOption, Option.filter]
      split_ifs
      · rfl
      · rfl

/-- What staging writes. -/
theorem Represents.writes_stage (config : app_storage_wifi_config_t) :
    (operation.stage (some config)).writes content
      = if validate_wifi_config (some config) = .ESP_OK ∧ cfg.Below config.config_version then
          stage_writes config
        else [] := by
  rw [operation.writes]
  by_cases hvalid : validate_wifi_config (some config) = .ESP_OK
  · simp only [hvalid, true_and, h.stage_result_stored hvalid]
  · rw [if_neg fun hboth => hvalid hboth.1, if_neg fun hboth => hvalid hboth.1]

/-- What a promotion writes. -/
theorem Represents.writes_promote (request_id : c_string) (version : UInt32) :
    (operation.promote (some request_id) version).writes content
      = match cfg.expected request_id version with
        | some config => promote_writes config.1
        | none => [] := by
  rw [operation.writes, h.promoted]
  cases hexpected : cfg.expected request_id version with
  | none => simp
  | some config =>
      obtain ⟨rfl, rfl⟩ := cfg.expected_eq hexpected
      obtain ⟨⟨hrequest, -⟩, hversion⟩ := config.pair_valid
      rw [if_neg]
      · rfl
      · rintro (hempty | hzero)
        · exact hrequest hempty
        · exact hversion hzero

end Writes

end WifiManager.AppStorage
