/-
Which losses of power leave the store manageable.

The status report and staging refuse a candidate slot or an active pair that has only a
part of its keys, and nothing repairs such a slot but a save. A write order that passes
through such a content is therefore dangerous exactly at the writes in between
(`operation.Survives`), and over runs the store stays manageable as long as the power
is not lost there (`manageable_iff_survives`).
-/
import WifiManager.AppStorage.Prefixes
import WifiManager.Lib.Machine
import Mathlib.Data.List.Induction

set_option autoImplicit false

namespace WifiManager.AppStorage

open WifiManager.Lib

open KeyStore (applyAll)

/-! ## Manageable contents -/

/-- The status can be reported, and a version above all stored ones can be staged. -/
def Manageable (content : nvs_content) : Prop :=
  (∃ status, app_storage_load_wifi_config_status content = .ok status) ∧
    ∀ config, validate_wifi_config (some config) = .ESP_OK →
      (∀ version : UInt32, content .cand_ver = some version → version < config.config_version) →
      (∀ version : UInt32, content .active_ver = some version → version < config.config_version) →
      (app_storage_stage_candidate_wifi_config (some config) ⟨content, []⟩).1
        = some (.STORED, .ESP_OK)

/-- No slot is broken: a candidate with an SSID has all keys, and the active pair both or
none. -/
def Whole (s : slots_t) : Prop :=
  (s.cand_ssid ≠ none → s.cand_pass ≠ none ∧ s.cand_req ≠ none ∧ s.cand_ver ≠ none) ∧
    (s.active_req = none ↔ s.active_ver = none)

/-! ## Broken slots -/

theorem active_ok_iff (s : slots_t) :
    (∃ active, s.active = .ok active) ↔ (s.active_req = none ↔ s.active_ver = none) := by
  obtain ⟨-, -, -, -, -, -, request_id, version⟩ := s
  cases request_id <;> cases version <;> simp [slots_t.active, read_active]

theorem candidate_ok_iff (s : slots_t) :
    (∃ pending, candidate_or_none s.candidate = .ok pending) ↔
      (s.cand_ssid ≠ none → s.cand_pass ≠ none ∧ s.cand_req ≠ none ∧ s.cand_ver ≠ none) := by
  obtain ⟨-, -, ssid, password, request_id, version, -, -⟩ := s
  match ssid, password, request_id, version with
  | none, _, _, _ => simp [slots_t.candidate, read_candidate, candidate_or_none]
  | some _, none, _, _ => simp [slots_t.candidate, read_candidate, candidate_or_none]
  | some _, some _, none, _ => simp [slots_t.candidate, read_candidate, candidate_or_none]
  | some _, some _, some _, none => simp [slots_t.candidate, read_candidate, candidate_or_none]
  | some _, some _, some _, some _ => simp [slots_t.candidate, read_candidate, candidate_or_none]

theorem mem_candidate_or_none {loaded : Except esp_err_t app_storage_wifi_config_t}
    {pending : Option app_storage_wifi_config_t} (h : candidate_or_none loaded = .ok pending)
    (config : app_storage_wifi_config_t) : config ∈ pending ↔ loaded = .ok config := by
  cases loaded with
  | ok found =>
      obtain rfl : some found = pending := by simpa [candidate_or_none] using h
      simp
  | error err =>
      rw [candidate_or_none] at h
      split_ifs at h
      obtain rfl : none = pending := by simpa using h
      simp

theorem read_status_ok_iff (active : Except esp_err_t (Option (c_string × UInt32)))
    (candidate : Except esp_err_t app_storage_wifi_config_t) :
    (∃ status, read_status active candidate = .ok status) ↔
      (∃ pending, candidate_or_none candidate = .ok pending) ∧ ∃ pair, active = .ok pair := by
  cases active with
  | error err => simp [read_status]
  | ok active =>
      cases candidate with
      | ok pending => simp [read_status, candidate_or_none]
      | error err =>
          by_cases habsent : err = .ESP_ERR_NOT_FOUND
          · simp [read_status, candidate_or_none, habsent]
          · simp [read_status, candidate_or_none, habsent]

/-- What `stage_result` decides, `app_storage_stage_candidate_wifi_config` does. -/
theorem stage_stored {content : nvs_content} {config : app_storage_wifi_config_t}
    (hvalid : validate_wifi_config (some config) = .ESP_OK)
    (hstored : stage_result content config = .ok .STORED) :
    (app_storage_stage_candidate_wifi_config (some config) ⟨content, []⟩).1
      = some (.STORED, .ESP_OK) := by
  rw [stage_result] at hstored
  cases hpending : candidate_or_none (load_candidate_from_handle content) with
  | error err => simp [hpending, bind, Except.bind] at hstored
  | ok pending =>
      cases hactive : load_active content with
      | error err => simp [hpending, hactive, bind, Except.bind] at hstored
      | ok active =>
          have hdecision : stage_decision pending active config = .STORED := by
            simpa [hpending, hactive, bind, Except.bind, pure, Except.pure] using hstored
          simp [app_storage_stage_candidate_wifi_config, hvalid, nvs_open, nvs_read, bind_apply,
            nvs_call_last, hpending, hactive, hdecision, write_and_commit_done, pure_apply]

section Sound

variable {content : nvs_content} (h : Sound content)
include h

theorem status_iff_whole :
    (∃ status, app_storage_load_wifi_config_status content = .ok status) ↔
      Whole (slots content) := by
  have hstatus : app_storage_load_wifi_config_status content
      = read_status (slots content).active (slots content).candidate := load_status_sound h
  rw [hstatus, read_status_ok_iff, active_ok_iff, candidate_ok_iff, Whole]

/-- A candidate that is read has the version under its key. -/
theorem load_candidate_version {config : app_storage_wifi_config_t}
    (hload : load_candidate_from_handle content = .ok config) :
    content .cand_ver = some config.config_version := by
  rw [load_candidate_sound h] at hload
  revert hload
  generalize content .cand_ssid = ssid
  generalize content .cand_pass = password
  generalize content .cand_req = request_id
  generalize content .cand_ver = version
  match ssid, password, request_id, version with
  | none, _, _, _ => simp [read_candidate]
  | some _, none, _, _ => simp [read_candidate]
  | some _, some _, none, _ => simp [read_candidate]
  | some _, some _, some _, none => simp [read_candidate]
  | some _, some _, some _, some _ =>
      intro hload
      cases hload
      rfl

/-- An active pair that is read has the version under its key. -/
theorem load_active_version {pair : c_string × UInt32}
    (hload : load_active content = .ok (some pair)) : content .active_ver = some pair.2 := by
  rw [load_active_sound h] at hload
  revert hload
  generalize content .active_req = request_id
  generalize content .active_ver = version
  match request_id, version with
  | none, none => simp [read_active]
  | none, some _ => simp [read_active]
  | some _, none => simp [read_active]
  | some _, some _ =>
      intro hload
      cases hload
      rfl

/-- With whole slots staging stores what is above the versions that are read. -/
theorem stage_result_whole (hwhole : Whole (slots content)) {config : app_storage_wifi_config_t}
    (hvalid : validate_wifi_config (some config) = .ESP_OK) :
    stage_result content config = .ok .STORED ↔
      (∀ pending, load_candidate_from_handle content = .ok pending →
        pending.config_version < config.config_version) ∧
      ∀ pair, load_active content = .ok (some pair) → pair.2 < config.config_version := by
  obtain ⟨pending, hpending⟩ := (candidate_ok_iff (slots content)).mpr hwhole.1
  obtain ⟨active, hactive⟩ := (active_ok_iff (slots content)).mpr hwhole.2
  have hload : candidate_or_none (load_candidate_from_handle content) = .ok pending := by
    rw [load_candidate_sound h]
    exact hpending
  have hpair : load_active content = .ok active := (load_active_sound h).trans hactive
  have hresult : stage_result content config = .ok (stage_decision pending active config) := by
    rw [stage_result, hload, hpair]
    rfl
  rw [hresult, Except.ok.injEq,
    stage_decision_stored ((validate_wifi_config_ok config).mp hvalid).1, hpair]
  simp only [mem_candidate_or_none hload, Except.ok.injEq, Option.mem_def]

/-- **Manageable is to have no broken slot.** -/
theorem manageable_iff_whole : Manageable content ↔ Whole (slots content) := by
  constructor
  · intro hmanageable
    exact (status_iff_whole h).mp hmanageable.1
  · intro hwhole
    refine ⟨(status_iff_whole h).mpr hwhole, ?_⟩
    intro config hvalid hcandidate hactive
    apply stage_stored hvalid
    refine (stage_result_whole h hwhole hvalid).mpr ⟨?_, ?_⟩
    · intro pending hload
      exact hcandidate _ (load_candidate_version h hload)
    · intro pair hload
      exact hactive _ (load_active_version h hload)

end Sound

/-! ## One operation -/

/-- After `k` writes of the operation the power may be lost, as far as whole slots go. -/
def operation.Survives (content : nvs_content) (k : ℕ) : operation → Prop
  | .save (some credentials) =>
      validate_wifi_credentials (some credentials) = .ESP_OK → k = 7 →
        content .active_ver = none
  | .stage (some config) =>
      validate_wifi_config (some config) = .ESP_OK →
        (∀ pending, load_candidate_from_handle content = .ok pending →
          pending.config_version < config.config_version) →
        (∀ pair, load_active content = .ok (some pair) → pair.2 < config.config_version) →
          (k = 1 → content .cand_pass ≠ none) ∧ (k = 1 ∨ k = 2 → content .cand_req ≠ none) ∧
            (k = 1 ∨ k = 2 ∨ k = 3 → content .cand_ver ≠ none)
  | .promote (some request_id) version =>
      (∃ pending, load_candidate_from_handle content = .ok pending ∧
        pending.request_id = request_id ∧ pending.config_version = version) →
          k = 3 → content .active_ver ≠ none
  | .clear => k = 3 → content .active_ver = none
  | _ => True

section Step

variable {content : nvs_content} (hwhole : Whole (slots content))
include hwhole

theorem save_whole_at (credentials : app_storage_wifi_credentials_t) (k : ℕ) :
    Whole (slots (applyAll ((save_writes credentials).take k) content)) ↔
      (k = 7 → (slots content).active_ver = none) := by
  obtain ⟨hcandidate, hactive⟩ := hwhole
  rw [save_slots]
  simp only [save_cut, Whole]
  constructor
  · rintro ⟨-, hpair⟩ rfl
    simpa using hpair
  · intro hver
    refine ⟨?_, ?_⟩
    · by_cases hssid : 2 < k
      · simp [hssid]
      · simpa [hssid, show ¬ 3 < k by omega, show ¬ 4 < k by omega, show ¬ 5 < k by omega]
          using hcandidate
    · by_cases hreq : 6 < k
      · by_cases hpast : 7 < k
        · simp [hreq, hpast]
        · simpa [hreq, hpast] using hver (by omega)
      · simpa [hreq, show ¬ 7 < k by omega] using hactive

theorem stage_whole_at (config : app_storage_wifi_config_t) (k : ℕ) :
    Whole (slots (applyAll ((stage_writes config).take k) content)) ↔
      (k = 1 → (slots content).cand_pass ≠ none) ∧
        (k = 1 ∨ k = 2 → (slots content).cand_req ≠ none) ∧
          (k = 1 ∨ k = 2 ∨ k = 3 → (slots content).cand_ver ≠ none) := by
  obtain ⟨hcandidate, hactive⟩ := hwhole
  rw [stage_slots]
  simp only [stage_cut, Whole, hactive, and_true]
  by_cases hfirst : 0 < k
  · have hone : k = 1 ↔ ¬ 1 < k := by omega
    have htwo : k = 1 ∨ k = 2 ↔ ¬ 2 < k := by omega
    have hthree : k = 1 ∨ k = 2 ∨ k = 3 ↔ ¬ 3 < k := by omega
    rw [if_pos hfirst, hthree, htwo, hone]
    split_ifs <;> simp [*]
  · obtain rfl : k = 0 := by omega
    simpa using hcandidate

theorem promote_whole_at (pending : app_storage_wifi_config_t) (k : ℕ) :
    Whole (slots (applyAll ((promote_writes pending).take k) content)) ↔
      (k = 3 → (slots content).active_ver ≠ none) := by
  obtain ⟨hcandidate, hactive⟩ := hwhole
  rw [promote_slots]
  simp only [promote_cut, Whole]
  constructor
  · rintro ⟨-, hpair⟩ rfl
    simpa using hpair
  · intro hver
    refine ⟨?_, ?_⟩
    · by_cases hssid : 4 < k
      · simp [hssid]
      · simpa [hssid, show ¬ 5 < k by omega, show ¬ 6 < k by omega, show ¬ 7 < k by omega]
          using hcandidate
    · by_cases hreq : 2 < k
      · by_cases hpast : 3 < k
        · simp [hreq, hpast]
        · simpa [hreq, hpast] using hver (by omega)
      · simpa [hreq, show ¬ 3 < k by omega] using hactive

theorem clear_whole_at (k : ℕ) :
    Whole (slots (applyAll (clear_writes.take k) content)) ↔
      (k = 3 → (slots content).active_ver = none) := by
  obtain ⟨hcandidate, hactive⟩ := hwhole
  rw [clear_slots]
  simp only [clear_cut, Whole]
  constructor
  · rintro ⟨-, hpair⟩ rfl
    simpa using hpair
  · intro hver
    refine ⟨hcandidate, ?_⟩
    by_cases hreq : 2 < k
    · by_cases hpast : 3 < k
      · simp [hreq, hpast]
      · simpa [hreq, hpast] using hver (by omega)
    · simpa [hreq, show ¬ 3 < k by omega] using hactive

end Step

/-- **One operation.** It leaves a whole store whole, after any number of its writes, if
and only if it survives there. -/
theorem writes_whole_iff {content : nvs_content} (h : Sound content)
    (hwhole : Whole (slots content)) (op : operation) (k : ℕ) :
    Whole (slots (applyAll ((op.writes content).take k) content)) ↔ op.Survives content k := by
  -- an operation that is refused writes nothing and survives
  have hnone : Whole (slots (applyAll (([] : List nvs_write).take k) content)) := by
    rw [List.take_nil]
    exact hwhole
  match op with
  | .save none => exact iff_of_true hnone trivial
  | .stage none => exact iff_of_true hnone trivial
  | .promote none _ => exact iff_of_true hnone trivial
  | .save (some credentials) =>
      rw [operation.writes, operation.Survives]
      split_ifs with hvalid
      · rw [save_whole_at hwhole]
        simp only [hvalid, true_imp_iff]
        rfl
      · exact iff_of_true hnone fun hvalid' => absurd hvalid' hvalid
  | .stage (some config) =>
      rw [operation.writes, operation.Survives]
      by_cases hvalid : validate_wifi_config (some config) = .ESP_OK
      -- staging writes only above the versions it reads
      · have hresult := stage_result_whole h hwhole hvalid
        simp only [hvalid, true_and, true_imp_iff]
        split_ifs with hstored
        · obtain ⟨hcandidate, hactive⟩ := hresult.mp hstored
          rw [stage_whole_at hwhole]
          exact ⟨fun hkeys _ _ => hkeys, fun hkeys => hkeys hcandidate hactive⟩
        · refine iff_of_true hnone ?_
          intro hcandidate hactive
          exact absurd (hresult.mpr ⟨hcandidate, hactive⟩) hstored
      · rw [if_neg fun hboth => hvalid hboth.1]
        exact iff_of_true hnone fun hvalid' => absurd hvalid' hvalid
  | .promote (some request_id) version =>
      rw [operation.writes, operation.Survives]
      simp only [← promoted_eq_some]
      by_cases harg : request_id = [] ∨ version = 0
      · rw [if_pos harg]
        refine iff_of_true hnone ?_
        -- what is stored is valid, so it has a request and a version to be promoted by
        rintro ⟨pending, hpending⟩
        obtain ⟨hload, rfl, rfl⟩ := promoted_eq_some.mp hpending
        obtain ⟨hversion, hrequest, -⟩ :=
          (validate_wifi_config_ok pending).mp (load_candidate_valid hload)
        rcases harg with hempty | hzero
        · exact absurd hempty hrequest.1
        · exact absurd hzero hversion
      · rw [if_neg harg]
        cases promoted content request_id version with
        | none =>
            refine iff_of_true hnone ?_
            rintro ⟨pending, hpending⟩
            cases hpending
        | some pending =>
            refine (promote_whole_at hwhole pending k).trans ?_
            exact ⟨fun hver _ => hver, fun hver => hver ⟨pending, rfl⟩⟩
  | .clear => exact clear_whole_at hwhole k

/-! ## Runs -/

/-- An operation and the number of NVS calls after which the power is lost. -/
def store_step (content : nvs_content) (call : operation × ℕ) :
    nvs_content × Option esp_err_t :=
  let (result, s) := call.1.exec ⟨content, lost_after call.2⟩
  (s.content, result)

/-- An empty namespace. -/
def empty_content : nvs_content := fun _ => none

/-- What a list of operations leaves behind in an empty namespace. -/
def store_after (calls : List (operation × ℕ)) : nvs_content :=
  Machine.run store_step empty_content calls

/-- An operation survives its loss of power: the writes that are carried out are those
behind the calls in front of them. -/
def Survived (content : nvs_content) (call : operation × ℕ) : Prop :=
  call.1.Survives content (call.2 - call.1.calls_before)

theorem store_step_content (content : nvs_content) (call : operation × ℕ) :
    (store_step content call).1
      = applyAll ((call.1.writes content).take (call.2 - call.1.calls_before)) content :=
  (exec_leaves call.1 content).power_lost call.2

theorem store_after_sound (calls : List (operation × ℕ)) : Sound (store_after calls) := by
  apply Machine.run_invariant
  · intro content call h
    rw [store_step_content]
    exact h.cut call.1 _
  · intro key value hvalue
    cases hvalue

theorem store_after_append (calls : List (operation × ℕ)) (call : operation × ℕ) :
    store_after (calls ++ [call]) = (store_step (store_after calls) call).1 := by
  rw [store_after, Machine.run_append]
  rfl

def sample_config : app_storage_wifi_config_t :=
  ⟨⟨c_str "office", c_str "newpassword"⟩, c_str "request-1", 1⟩

def newer_config : app_storage_wifi_config_t :=
  ⟨⟨c_str "office", c_str "newpassword"⟩, c_str "request-2", 2⟩

/-- **Where the power may be lost.** The store is manageable behind every call of a run if
and only if every call survives. -/
theorem manageable_iff_survives (calls : List (operation × ℕ)) :
    (∀ before after, calls = before ++ after → Manageable (store_after before)) ↔
      ∀ before call after, calls = before ++ call :: after →
        Survived (store_after before) call := by
  have hwhole : ∀ before, Manageable (store_after before) ↔ Whole (slots (store_after before)) :=
    fun before => manageable_iff_whole (store_after_sound before)
  -- the last write that is durable decides whether the slots are whole
  have hstep : ∀ before call, Whole (slots (store_after before)) →
      (Whole (slots (store_after (before ++ [call]))) ↔ Survived (store_after before) call) := by
    intro before call hbefore
    rw [store_after_append, store_step_content]
    exact writes_whole_iff (store_after_sound before) hbefore call.1 _
  simp only [hwhole]
  constructor
  · intro hall before call after hcalls
    refine (hstep before call (hall before (call :: after) hcalls)).mp ?_
    exact hall (before ++ [call]) after (by rw [hcalls, List.append_cons])
  · intro hsurvives before
    -- from the empty namespace on, call by call
    induction before using List.reverseRecOn with
    | nil =>
        intro after _
        exact ⟨fun hssid => absurd rfl hssid, iff_of_true rfl rfl⟩
    | append_singleton before call ih =>
        intro after hcalls
        have hcalls' : calls = before ++ call :: after := by
          rw [hcalls, List.append_assoc, List.singleton_append]
        exact (hstep before call (ih (call :: after) hcalls')).mpr
          (hsurvives before call after hcalls')

/-- The power is lost behind the first write of the first staging: from then on there is no
status report, and nothing can be staged. -/
theorem stage_bricks :
    app_storage_load_wifi_config_status (store_after [(.stage (some sample_config), 4)])
        = .error .ESP_ERR_INVALID_STATE ∧
      (app_storage_stage_candidate_wifi_config (some newer_config)
        ⟨store_after [(.stage (some sample_config), 4)], []⟩).1
          = some (.STORED, .ESP_ERR_INVALID_STATE) ∧
      ¬ Manageable (store_after [(.stage (some sample_config), 4)]) := by
  refine ⟨by decide, by decide, ?_⟩
  rintro ⟨⟨status, hstatus⟩, -⟩
  have herror : app_storage_load_wifi_config_status (store_after [(.stage (some sample_config), 4)])
      = .error .ESP_ERR_INVALID_STATE := by decide
  rw [herror] at hstatus
  cases hstatus

end WifiManager.AppStorage
