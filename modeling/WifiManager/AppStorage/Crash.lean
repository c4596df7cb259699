/-
Which operations an interruption cannot tear.

An interruption leaves a prefix of an operation's writes behind, and every key is one
write. So an operation is atomic exactly when the load functions say the same before and
after all but one of its prefixes, which `operation.Atomic` spells out: what is written
in front of the deciding key has to be there already. In particular the slots of the
candidate and of the active pair cannot be filled from empty, nor the active pair be
removed, without a broken slot in between, and no new SSID comes with its password.
-/
import WifiManager.AppStorage.Prefixes

set_option autoImplicit false

namespace WifiManager.AppStorage

open WifiManager.Lib

open KeyStore (applyAll)

/-! ## The condition -/

/-- What has to be there for an operation to be atomic. -/
def operation.Atomic (cfg : configuration) : operation → Prop
  | .save (some credentials) =>
      validate_wifi_credentials (some credentials) = .ESP_OK →
        cfg.active = none ∧
          (cfg.candidate = none ∨ cfg.current.map (·.1) = some credentials) ∧
          ∀ old ∈ cfg.current, old.1.ssid = credentials.ssid ∨
            cfg.candidate = none ∧ old.1.password = credentials.password
  | .stage (some config) =>
      validate_wifi_config (some config) = .ESP_OK → cfg.Below config.config_version →
        ∃ pending ∈ cfg.candidate,
          pending.1.credentials = config.credentials ∧ pending.1.request_id = config.request_id
  | .promote (some request_id) version =>
      ∀ pending ∈ cfg.expected request_id version,
        cfg.current = some pending.credentials ∧ cfg.active = some pending.pair
  | .clear => cfg.active = none
  | _ => True

/-! ## From interruptions to prefixes -/

/-- The slots behind a prefix of the writes say what they said before the first write or
what they say behind the last one. -/
def WholeAt (content : nvs_content) (ws : List nvs_write) (j : ℕ) : Prop :=
  (slots (applyAll (ws.take j) content)).reports = (slots content).reports ∨
    (slots (applyAll (ws.take j) content)).reports = (slots (applyAll ws content)).reports

/-- Writing nothing is atomic. -/
theorem no_writes_whole (content : nvs_content) : ∀ j, WholeAt content [] j := by
  intro j
  left
  rw [List.take_nil]
  rfl

theorem atomic_iff_prefixes {content : nvs_content} (h : Sound content) (op : operation) :
    (∀ faults, reports (op.exec ⟨content, faults⟩).2.content = reports content ∨
        reports (op.exec ⟨content, faults⟩).2.content
          = reports (op.exec ⟨content, []⟩).2.content) ↔
      ∀ j, WholeAt content (op.writes content) j := by
  have hleaves := exec_leaves op content
  have hall : Sound (applyAll (op.writes content) content) :=
    h.applyAll (op.writes_valid content)
  rw [hleaves.complete, reports_sound h, reports_sound hall]
  constructor
  · intro hfaults j
    have hlost := hfaults (lost_after (op.calls_before + j))
    rwa [hleaves.power_lost, Nat.add_sub_cancel_left, reports_sound (h.cut op j)] at hlost
  · intro hprefixes faults
    obtain ⟨j, -, hj⟩ := hleaves.interrupted faults
    rw [hj, reports_sound (h.cut op j)]
    exact hprefixes j

/-- The same of slots alone: `cut` says what is left of them behind `j` of `n` writes. -/
def configuration.WholeAt (cfg : configuration) (cut : slots_t → ℕ → slots_t) (n j : ℕ) : Prop :=
  (cut cfg.slots j).reports = cfg.slots.reports ∨
    (cut cfg.slots j).reports = (cut cfg.slots n).reports

/-- It is enough to know the slots behind every prefix. -/
theorem whole_iff {content : nvs_content} {cfg : configuration} (h : Represents content cfg)
    {ws : List nvs_write} (cut : slots_t → ℕ → slots_t)
    (hcut : ∀ j, slots (applyAll (ws.take j) content) = cut (slots content) j) {n : ℕ}
    (hn : ws.length ≤ n) :
    (∀ j, WholeAt content ws j) ↔ ∀ j, cfg.WholeAt cut n j := by
  have hbefore : slots content = cfg.slots := h
  have hall : slots (applyAll ws content) = cut cfg.slots n := by
    rw [← hbefore, ← hcut, List.take_of_length_le hn]
  simp only [WholeAt, configuration.WholeAt, hcut, hall, hbefore]

/-! ## The four operations -/

section Operations

attribute [local simp] slots_t.reports slots_t.candidate slots_t.active read_credentials
  read_candidate read_active read_status configuration.slots configuration.WholeAt

section Save

attribute [local simp] save_cut

variable {cfg : configuration} {credentials : app_storage_wifi_credentials_t}

/-- The active pair has to be gone: its request is erased in front of its version. -/
theorem save_needs_active (hwhole : ∀ j, cfg.WholeAt (save_cut credentials) 10 j) :
    cfg.active = none := by
  have hrequest := hwhole 7
  obtain ⟨current, candidate, active⟩ := cfg
  cases active with
  | none => rfl
  | some pair => cases candidate <;> cases current <;> simp at hrequest

/-- The new credentials stand next to the old candidate for a while. -/
theorem save_needs_candidate (hwhole : ∀ j, cfg.WholeAt (save_cut credentials) 10 j) :
    cfg.candidate = none ∨ cfg.current.map (·.1) = some credentials := by
  have hactive := save_needs_active hwhole
  have hboth := hwhole 2
  obtain ⟨current, candidate, active⟩ := cfg
  obtain rfl : active = none := hactive
  obtain ⟨ssid, password⟩ := credentials
  cases candidate with
  | none => exact .inl rfl
  | some pending =>
      rcases current with - | ⟨⟨old_ssid, old_password⟩, hold⟩
      · simp at hboth
      · have hsame : ssid = old_ssid ∧ password = old_password := by simpa using hboth
        simp [hsame]

/-- The new SSID stands next to the old password for a while. -/
theorem save_needs_current (hwhole : ∀ j, cfg.WholeAt (save_cut credentials) 10 j) :
    ∀ old ∈ cfg.current, old.1.ssid = credentials.ssid ∨
      cfg.candidate = none ∧ old.1.password = credentials.password := by
  have hactive := save_needs_active hwhole
  have hssid := hwhole 1
  obtain ⟨current, candidate, active⟩ := cfg
  obtain rfl : active = none := hactive
  obtain ⟨ssid, password⟩ := credentials
  rintro ⟨⟨old_ssid, old_password⟩, hold⟩ hcurrent
  obtain rfl : current = some _ := hcurrent
  cases candidate with
  | none =>
      have hkept : ssid = old_ssid ∨ old_password = password := by simpa using hssid
      simpa [eq_comm] using hkept
  | some pending =>
      have hkept : ssid = old_ssid := by simpa using hssid
      exact .inl hkept.symm

/-- Behind both new keys the candidate is all that can differ. -/
theorem save_whole_late {j : ℕ} (hj : 1 < j) (hactive : cfg.active = none)
    (hcandidate : cfg.candidate = none ∨ cfg.current.map (·.1) = some credentials) :
    cfg.WholeAt (save_cut credentials) 10 j := by
  obtain ⟨current, candidate, active⟩ := cfg
  obtain rfl : active = none := hactive
  by_cases hpast : 2 < j
  · right
    simp [hpast, hj, show 0 < j by omega]
  rcases hcandidate with hnone | hcurrent
  · right
    obtain rfl : candidate = none := hnone
    simp [hj, show 0 < j by omega]
  · left
    obtain ⟨old, rfl, hsame⟩ := Option.map_eq_some_iff.mp hcurrent
    simp [hpast, hj, hsame, show 0 < j by omega, show ¬ 3 < j by omega,
      show ¬ 4 < j by omega, show ¬ 5 < j by omega]

/-- Behind the first key there is the new SSID with the old password. -/
theorem save_whole_first (hactive : cfg.active = none)
    (hcurrent : ∀ old ∈ cfg.current, old.1.ssid = credentials.ssid ∨
      cfg.candidate = none ∧ old.1.password = credentials.password) :
    cfg.WholeAt (save_cut credentials) 10 1 := by
  obtain ⟨current, candidate, active⟩ := cfg
  obtain rfl : active = none := hactive
  rcases current with - | old
  · left
    simp
  · rcases hcurrent old rfl with hsame | ⟨hnone, hsame⟩
    · left
      simp [← hsame]
    · right
      obtain rfl : candidate = none := hnone
      simp [hsame]

end Save

variable {content : nvs_content} {cfg : configuration} (h : Represents content cfg)
include h

theorem save_whole_iff {credentials : app_storage_wifi_credentials_t}
    (hvalid : validate_wifi_credentials (some credentials) = .ESP_OK) :
    (∀ j, WholeAt content (save_writes credentials) j) ↔
      (operation.save (some credentials)).Atomic cfg := by
  rw [whole_iff h (save_cut credentials) (fun j => save_slots content j credentials)
    (Nat.le_refl 10)]
  simp only [operation.Atomic, hvalid, true_imp_iff]
  constructor
  · intro hwhole
    exact ⟨save_needs_active hwhole, save_needs_candidate hwhole, save_needs_current hwhole⟩
  · rintro ⟨hactive, hcandidate, hcurrent⟩ j
    match j with
    | 0 => exact .inl (by simp [save_cut])
    | 1 => exact save_whole_first hactive hcurrent
    | j + 2 => exact save_whole_late (by omega) hactive hcandidate

theorem stage_whole_iff {config : app_storage_wifi_config_t}
    (hvalid : validate_wifi_config (some config) = .ESP_OK)
    (hbelow : cfg.Below config.config_version) :
    (∀ j, WholeAt content (stage_writes config) j) ↔
      (operation.stage (some config)).Atomic cfg := by
  rw [whole_iff h (stage_cut config) (fun j => stage_slots content j config) (Nat.le_refl 4)]
  simp only [configuration.WholeAt, stage_cut, operation.Atomic, hvalid, hbelow, true_imp_iff]
  clear h
  obtain ⟨current, candidate, active⟩ := cfg
  obtain ⟨⟨ssid, password⟩, request_id, version⟩ := config
  constructor
  · intro hwhole
    have hcandidate := fun j => (hwhole j).imp (congrArg reports_t.candidate)
      (congrArg reports_t.candidate)
    cases candidate with
    | none =>
        -- an SSID alone is no candidate
        have hssid := hcandidate 1
        simp at hssid
    | some pending =>
        -- everything but the version: not the new candidate, so the old one
        obtain ⟨⟨⟨old_ssid, old_password⟩, old_request_id, old_version⟩, hold⟩ := pending
        have hver : old_version < version := hbelow.1 _ rfl
        have hne : old_version ≠ version := UInt32.ne_of_lt hver
        have hrequest := hcandidate 3
        have hsame : (ssid = old_ssid ∧ password = old_password) ∧
            request_id = old_request_id := by
          simpa [hne] using hrequest
        exact ⟨_, rfl, by simp [hsame], hsame.2.symm⟩
  · rintro ⟨⟨⟨⟨old_ssid, old_password⟩, old_request_id, old_version⟩, hold⟩, hcandidate,
      hcredentials, hrequest⟩
    obtain rfl : candidate = some _ := hcandidate
    obtain ⟨rfl, rfl⟩ : old_ssid = ssid ∧ old_password = password := by simpa using hcredentials
    obtain rfl : old_request_id = request_id := hrequest
    intro j
    by_cases hj : 3 < j
    · right
      simp [hj, show 0 < j by omega, show 1 < j by omega, show 2 < j by omega]
    · left
      simp [hj]

theorem promote_whole_iff {pending : valid_config} (hpending : cfg.candidate = some pending) :
    (∀ j, WholeAt content (promote_writes pending.1) j) ↔
      cfg.current = some pending.credentials ∧ cfg.active = some pending.pair := by
  rw [whole_iff h (promote_cut pending.1) (fun j => promote_slots content j pending.1)
    (Nat.le_refl 10)]
  simp only [configuration.WholeAt, promote_cut]
  clear h
  obtain ⟨current, candidate, active⟩ := cfg
  obtain rfl : candidate = some pending := hpending
  obtain ⟨⟨⟨ssid, password⟩, request_id, version⟩, hvalid⟩ := pending
  constructor
  · intro hwhole
    -- the candidate is still there behind the first four writes
    have hpassword := hwhole 2
    have hrequest := hwhole 3
    have hversion := hwhole 4
    constructor
    · rcases current with - | ⟨⟨old_ssid, old_password⟩, hold⟩
      · simp at hpassword
      · have hsame : ssid = old_ssid ∧ password = old_password := by simpa using hpassword
        simp [valid_config.credentials, hsame]
    · rcases active with - | ⟨⟨old_request_id, old_version⟩, hold⟩
      · simp at hrequest
      · have hsame : request_id = old_request_id ∧ version = old_version := by
          rcases current with - | old
          · simp at hversion
          · have hboth : (ssid = old.1.ssid ∧ password = old.1.password) ∧
                request_id = old_request_id ∧ version = old_version := by simpa using hversion
            exact hboth.2
        simp [valid_config.pair, hsame]
  · rintro ⟨rfl, rfl⟩
    intro j
    by_cases hj : 4 < j
    · right
      simp [hj, valid_config.credentials, valid_config.pair]
    · left
      simp [hj, valid_config.credentials, valid_config.pair, show ¬ 5 < j by omega,
        show ¬ 6 < j by omega, show ¬ 7 < j by omega]

theorem clear_whole_iff :
    (∀ j, WholeAt content clear_writes j) ↔ cfg.active = none := by
  rw [whole_iff h clear_cut (clear_slots content) (Nat.le_refl 4)]
  simp only [configuration.WholeAt, clear_cut]
  clear h
  obtain ⟨current, candidate, active⟩ := cfg
  constructor
  · intro hwhole
    -- the request is erased in front of the version
    have hrequest := hwhole 3
    cases active with
    | none => rfl
    | some pair => cases candidate <;> simp at hrequest
  · intro hnone
    obtain rfl : active = none := hnone
    intro j
    by_cases hj : 0 < j
    · right
      simp [hj]
    · left
      simp [show j = 0 by omega]

end Operations

/-! ## The main result -/

/-- **When an operation is atomic.** On a content with whole slots: whatever happens to
the NVS calls of the operation, the load functions say what they said before it or what
they say behind it when it is completed, if and only if `operation.Atomic` holds. -/
theorem crash_atomic_iff {content : nvs_content} {cfg : configuration}
    (h : Represents content cfg) (op : operation) :
    (∀ faults, reports (op.exec ⟨content, faults⟩).2.content = reports content ∨
        reports (op.exec ⟨content, faults⟩).2.content
          = reports (op.exec ⟨content, []⟩).2.content) ↔
      op.Atomic cfg := by
  rw [atomic_iff_prefixes h.sound]
  -- a call that is refused writes nothing
  match op with
  | .save none => exact iff_of_true (no_writes_whole content) trivial
  | .stage none => exact iff_of_true (no_writes_whole content) trivial
  | .promote none _ => exact iff_of_true (no_writes_whole content) trivial
  | .save (some credentials) =>
      rw [operation.writes]
      split_ifs with hvalid
      · exact save_whole_iff h hvalid
      · exact iff_of_true (no_writes_whole content) fun hvalid' => absurd hvalid' hvalid
  | .stage (some config) =>
      rw [h.writes_stage]
      split_ifs with hstored
      · exact stage_whole_iff h hstored.1 hstored.2
      · refine iff_of_true (no_writes_whole content) ?_
        intro hvalid hbelow
        exact absurd ⟨hvalid, hbelow⟩ hstored
  | .promote (some request_id) version =>
      rw [h.writes_promote, operation.Atomic]
      cases hexpected : cfg.expected request_id version with
      | none =>
          refine iff_of_true (no_writes_whole content) ?_
          intro pending hpending
          cases hpending
      | some pending =>
          refine (promote_whole_iff h (Option.filter_eq_some_iff.mp hexpected).1).trans ?_
          simp
  | .clear => exact clear_whole_iff h

/-! ## A torn save -/

/-- Credentials, and nothing else. -/
def sample_credentials : app_storage_wifi_credentials_t := ⟨c_str "home", c_str "oldpassword"⟩

def new_credentials : app_storage_wifi_credentials_t := ⟨c_str "office", c_str "newpassword"⟩

def sample_content : nvs_content
  | .sta_ssid => some sample_credentials.ssid
  | .sta_password => some sample_credentials.password
  | _ => none

theorem sample_valid : validate_wifi_credentials (some sample_credentials) = .ESP_OK := by decide

theorem sample_represents :
    Represents sample_content ⟨some ⟨sample_credentials, sample_valid⟩, none, none⟩ := rfl

/-- The condition is met by no save of other credentials over these. -/
theorem crash_atomic_iff_sample :
    (∀ faults,
        reports ((operation.save (some new_credentials)).exec ⟨sample_content, faults⟩).2.content
            = reports sample_content ∨
          reports ((operation.save (some new_credentials)).exec ⟨sample_content, faults⟩).2.content
            = reports
                ((operation.save (some new_credentials)).exec ⟨sample_content, []⟩).2.content) ↔
      (operation.save (some new_credentials)).Atomic
        ⟨some ⟨sample_credentials, sample_valid⟩, none, none⟩ :=
  crash_atomic_iff sample_represents (.save (some new_credentials))

/-- The power is lost behind the first write: the new SSID with the old password. -/
theorem save_torn :
    Represents sample_content ⟨some ⟨sample_credentials, sample_valid⟩, none, none⟩ ∧
      app_storage_load_wifi_credentials
          ((operation.save (some new_credentials)).exec ⟨sample_content, lost_after 2⟩).2.content
        = .ok ⟨new_credentials.ssid, sample_credentials.password⟩ ∧
      reports
          ((operation.save (some new_credentials)).exec ⟨sample_content, lost_after 2⟩).2.content
        ≠ reports sample_content ∧
      reports
          ((operation.save (some new_credentials)).exec ⟨sample_content, lost_after 2⟩).2.content
        ≠ reports
            ((operation.save (some new_credentials)).exec ⟨sample_content, []⟩).2.content := by
  refine ⟨sample_represents, by decide, ?_, ?_⟩
  · intro hbefore
    exact absurd (congrArg reports_t.credentials hbefore) (by decide)
  · intro hafter
    exact absurd (congrArg reports_t.credentials hafter) (by decide)

end WifiManager.AppStorage
