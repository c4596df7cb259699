/-
Versions and credentials over runs without faults.

The events of a run are its calls with what they returned. Along any run the candidate is
the configuration of the last STORED event, the active pair and the current credentials
are those of the last promotion, and versions only grow between two saves or clears. The
induction is on the run, and each step is read off `operation.apply`.
-/
import WifiManager.AppStorage.Manage

set_option autoImplicit false

namespace WifiManager.AppStorage

open WifiManager.Lib

open KeyStore (applyAll)

/-! ## Runs -/

/-- A call of the component; the load functions change nothing. -/
inductive store_call
  | write (op : operation)
  | load

/-- A call with what it returned. -/
inductive store_event
  | save (returned : Option esp_err_t)
  | stage (config : Option app_storage_wifi_config_t)
      (returned : Option (app_storage_wifi_stage_result_t × esp_err_t))
  | promote (expected_request_id : Option c_string) (expected_version : UInt32)
      (returned : Option esp_err_t)
  | clear (returned : Option esp_err_t)
  | load

/-- The event of an operation on a content, without faults. -/
def operation.event (content : nvs_content) : operation → store_event
  | .save credentials => .save (app_storage_save_wifi_credentials credentials ⟨content, []⟩).1
  | .stage config =>
      .stage config (app_storage_stage_candidate_wifi_config config ⟨content, []⟩).1
  | .promote expected_request_id expected_version =>
      .promote expected_request_id expected_version
        (app_storage_promote_candidate_wifi_config expected_request_id expected_version
          ⟨content, []⟩).1
  | .clear => .clear (app_storage_clear_wifi_credentials ⟨content, []⟩).1

/-- A call without faults. -/
def store_call.step (content : nvs_content) : store_call → nvs_content × Option store_event
  | .write op => ((op.exec ⟨content, []⟩).2.content, some (op.event content))
  | .load => (content, some .load)

/-- The content behind a list of calls, in an empty namespace. -/
def content_after (calls : List store_call) : nvs_content :=
  Machine.run store_call.step empty_content calls

/-- The events of a list of calls. -/
def store_events (calls : List store_call) : List store_event :=
  Machine.outputs store_call.step empty_content calls

/-! ## The events of a configuration -/

section Events

variable {content : nvs_content} {cfg : configuration} (h : Represents content cfg)
include h

/-- Without faults a valid configuration gets the result of `stage_decision`. -/
theorem Represents.stage_returns {config : app_storage_wifi_config_t}
    (hvalid : validate_wifi_config (some config) = .ESP_OK) :
    (app_storage_stage_candidate_wifi_config (some config) ⟨content, []⟩).1
      = some (stage_decision (cfg.candidate.map (·.1)) (cfg.active.map (·.1)) config,
          .ESP_OK) := by
  have hpending : candidate_or_none (load_candidate_from_handle content)
      = .ok (cfg.candidate.map (·.1)) := by
    rw [h.load_candidate]
    cases cfg.candidate with
    | none => rfl
    | some pending => rfl
  simp only [app_storage_stage_candidate_wifi_config, hvalid, nvs_open, nvs_read, bind_apply,
    nvs_call_last, hpending, h.load_active, ne_eq, not_true_eq_false, if_false]
  cases stage_decision (cfg.candidate.map (·.1)) (cfg.active.map (·.1)) config with
  | STORED => simp only [bind_apply, write_and_commit_done, pure_apply]
  | IDEMPOTENT => rfl
  | STALE_VERSION => rfl
  | VERSION_CONFLICT => rfl

theorem Represents.stage_stored_iff (config : app_storage_wifi_config_t) :
    (app_storage_stage_candidate_wifi_config (some config) ⟨content, []⟩).1
        = some (.STORED, .ESP_OK) ↔
      validate_wifi_config (some config) = .ESP_OK ∧ cfg.Below config.config_version := by
  by_cases hvalid : validate_wifi_config (some config) = .ESP_OK
  · rw [h.stage_returns hvalid, Option.some.injEq, Prod.mk.injEq,
      ← h.stage_result_stored hvalid, h.stage_result_eq, Except.ok.injEq]
    tauto
  · rw [app_storage_stage_candidate_wifi_config, if_pos hvalid]
    simp [pure_apply, hvalid]

theorem Represents.promote_returns (request_id : c_string) (version : UInt32) :
    (app_storage_promote_candidate_wifi_config (some request_id) version ⟨content, []⟩).1
      = some .ESP_OK ↔ ∃ config, cfg.expected request_id version = some config := by
  rw [app_storage_promote_candidate_wifi_config]
  split_ifs with harg
  · refine iff_of_false (by simp [pure_apply]) ?_
    rintro ⟨config, hconfig⟩
    obtain ⟨rfl, rfl⟩ := cfg.expected_eq hconfig
    exact harg.elim config.pair_valid.1.1 config.pair_valid.2
  · simp only [nvs_open, nvs_read, bind_apply, nvs_call_last, h.load_candidate,
      configuration.expected, ne_eq, not_true_eq_false, if_false]
    cases cfg.candidate with
    | none => simp [pure_apply]
    | some config =>
        by_cases hmatch : config.1.request_id = request_id ∧ config.1.config_version = version
        · simp [hmatch, write_and_commit_done]
        · have hother : ¬ config.1.config_version = version ∨
              ¬ config.1.request_id = request_id := by
            tauto
          simp [hmatch, hother, pure_apply, Option.filter]

end Events

/-! ## Order of versions -/

/-- The candidate is newer than what is active. -/
def configuration.Ordered (cfg : configuration) : Prop :=
  ∀ config ∈ cfg.candidate, ∀ pair ∈ cfg.active, pair.1.2 < config.1.config_version

/-- A version is there, or a higher one. -/
def configuration.Reached (cfg : configuration) (version : UInt32) : Prop :=
  (∃ config ∈ cfg.candidate, version ≤ config.1.config_version) ∨
    ∃ pair ∈ cfg.active, version ≤ pair.1.2

theorem configuration.Reached.lt {cfg : configuration} {old new : UInt32}
    (hold : cfg.Reached old) (hnew : cfg.Below new) : old < new := by
  rcases hold with ⟨config, hconfig, hle⟩ | ⟨pair, hpair, hle⟩
  · exact UInt32.lt_of_le_of_lt hle (hnew.1 config hconfig)
  · exact UInt32.lt_of_le_of_lt hle (hnew.2 pair hpair)

section Steps

variable (cfg : configuration)

theorem apply_save (credentials : Option app_storage_wifi_credentials_t) :
    (operation.save credentials).apply cfg = cfg ∨
      ∃ current, (operation.save credentials).apply cfg = ⟨some current, none, none⟩ := by
  cases credentials with
  | none => exact .inl rfl
  | some credentials =>
      rw [operation.apply]
      split_ifs with hvalid
      · exact .inr ⟨_, rfl⟩
      · exact .inl rfl

theorem apply_stage (config : Option app_storage_wifi_config_t) :
    (operation.stage config).apply cfg = cfg ∨
      ∃ candidate : valid_config, config = some candidate.1 ∧
        cfg.Below candidate.1.config_version ∧
        (operation.stage config).apply cfg = { cfg with candidate := some candidate } := by
  cases config with
  | none => exact .inl rfl
  | some config =>
      rw [operation.apply]
      split_ifs with hvalid hbelow
      · exact .inr ⟨⟨config, hvalid⟩, rfl, hbelow, rfl⟩
      · exact .inl rfl
      · exact .inl rfl

theorem apply_promote (request_id : Option c_string) (version : UInt32) :
    (operation.promote request_id version).apply cfg = cfg ∨
      ∃ config : valid_config, cfg.candidate = some config ∧
        request_id = some config.1.request_id ∧ version = config.1.config_version ∧
        (operation.promote request_id version).apply cfg
          = ⟨some config.credentials, none, some config.pair⟩ := by
  cases request_id with
  | none => exact .inl rfl
  | some request_id =>
      rw [operation.apply]
      cases hexpected : cfg.expected request_id version with
      | none => exact .inl rfl
      | some config =>
          obtain ⟨hrequest, hversion⟩ := cfg.expected_eq hexpected
          exact .inr ⟨config, (Option.filter_eq_some_iff.mp hexpected).1, by rw [hrequest],
            hversion.symm, rfl⟩

end Steps

theorem configuration.Ordered.apply {cfg : configuration} (h : cfg.Ordered) (op : operation) :
    (op.apply cfg).Ordered := by
  match op with
  | .save credentials =>
      rcases apply_save cfg credentials with hsame | ⟨current, hnew⟩
      · rwa [hsame]
      · rw [hnew]
        intro config hconfig
        cases hconfig
  | .stage config =>
      rcases apply_stage cfg config with hsame | ⟨candidate, -, hbelow, hnew⟩
      · rwa [hsame]
      · rw [hnew]
        rintro _ ⟨⟩ pair hpair
        exact hbelow.2 pair hpair
  | .promote request_id version =>
      rcases apply_promote cfg request_id version with hsame | ⟨config, -, -, -, hnew⟩
      · rwa [hsame]
      · rw [hnew]
        intro config hconfig
        cases hconfig
  | .clear =>
      intro config _ pair hpair
      cases hpair

/-- What is reached stays reached, but for saves and clears. -/
theorem configuration.Reached.apply {cfg : configuration} {version : UInt32}
    (h : cfg.Reached version) :
    (∀ config, ((operation.stage config).apply cfg).Reached version) ∧
      ∀ request_id expected_version, cfg.Ordered →
        ((operation.promote request_id expected_version).apply cfg).Reached version := by
  constructor
  · intro config
    rcases apply_stage cfg config with hsame | ⟨candidate, -, hbelow, hnew⟩
    · rwa [hsame]
    · rw [hnew]
      exact .inl ⟨candidate, rfl, UInt32.le_of_lt (h.lt hbelow)⟩
  · intro request_id expected_version hordered
    rcases apply_promote cfg request_id expected_version with hsame | ⟨config, hconfig, -, -, hnew⟩
    · rwa [hsame]
    · rw [hnew]
      refine .inr ⟨config.pair, rfl, ?_⟩
      rcases h with ⟨config', hconfig', hle⟩ | ⟨pair, hpair, hle⟩
      · rw [hconfig] at hconfig'
        cases hconfig'
        exact hle
      · exact UInt32.le_of_lt (UInt32.lt_of_le_of_lt hle (hordered config hconfig pair hpair))

/-! ## Where versions and credentials come from -/

/-- A configuration is stored. -/
abbrev store_event.stored (config : app_storage_wifi_config_t) : store_event :=
  .stage (some config) (some (.STORED, .ESP_OK))

/-- A candidate is promoted. -/
abbrev store_event.promoted (request_id : c_string) (version : UInt32) : store_event :=
  .promote (some request_id) version (some .ESP_OK)

/-- The versions stored since the last save or clear. -/
def stored_versions (events : List store_event) : List UInt32 :=
  events.foldl (fun versions event =>
    match event with
    | .save _ | .clear _ => []
    | .stage (some config) (some (.STORED, .ESP_OK)) => versions ++ [config.config_version]
    | _ => versions) []

/-- The configuration stored last, and the one that was stored last when a candidate was
promoted for the last time. -/
def origins (events : List store_event) :
    Option app_storage_wifi_config_t × Option app_storage_wifi_config_t :=
  events.foldl (fun origin event =>
    match event with
    | .stage (some config) (some (.STORED, .ESP_OK)) => (some config, origin.2)
    | .promote _ _ (some .ESP_OK) => (origin.1, origin.1)
    | _ => origin) (none, none)

section Folds

variable (events : List store_event)

theorem stored_versions_reset (event : store_event)
    (h : (∃ returned, event = .save returned) ∨ ∃ returned, event = .clear returned) :
    stored_versions (events ++ [event]) = [] := by
  rcases h with ⟨returned, rfl⟩ | ⟨returned, rfl⟩
  · simp [stored_versions]
  · simp [stored_versions]

theorem stored_versions_stored (config : app_storage_wifi_config_t) :
    stored_versions (events ++ [.stored config])
      = stored_versions events ++ [config.config_version] := by
  simp [stored_versions]

theorem origins_stored (config : app_storage_wifi_config_t) :
    origins (events ++ [.stored config]) = (some config, (origins events).2) := by
  simp [origins]

theorem origins_promoted (request_id : c_string) (version : UInt32) :
    origins (events ++ [.promoted request_id version])
      = ((origins events).1, (origins events).1) := by
  simp [origins]

/-- The other events leave both alone. -/
theorem origins_other {event : store_event} (hstored : ∀ config, event ≠ .stored config)
    (hpromoted : ∀ request_id version, event ≠ .promote request_id version (some .ESP_OK)) :
    origins (events ++ [event]) = origins events := by
  rw [origins, List.foldl_append, ← origins, List.foldl_cons, List.foldl_nil]
  split
  · next config => exact absurd rfl (hstored config)
  · next request_id version => exact absurd rfl (hpromoted request_id version)
  · rfl

theorem stored_versions_other {event : store_event} (hstored : ∀ config, event ≠ .stored config)
    (hsave : ∀ returned, event ≠ .save returned) (hclear : ∀ returned, event ≠ .clear returned) :
    stored_versions (events ++ [event]) = stored_versions events := by
  rw [stored_versions, List.foldl_append, ← stored_versions, List.foldl_cons, List.foldl_nil]
  split
  · next returned => exact absurd rfl (hsave returned)
  · next returned => exact absurd rfl (hclear returned)
  · next config => exact absurd rfl (hstored config)
  · rfl

end Folds

/-- What the events of a run say about its configuration. -/
structure Versioned (events : List store_event) (cfg : configuration) : Prop where
  ordered : cfg.Ordered
  staged : ∀ config ∈ cfg.candidate, (origins events).1 = some config.1
  origin : ∀ pair ∈ cfg.active, ∃ config, (origins events).2 = some config ∧
    (config.request_id, config.config_version) = pair.1 ∧
    cfg.current.map (·.1) = some config.credentials
  reached : ∀ version ∈ stored_versions events, cfg.Reached version
  increasing : (stored_versions events).Pairwise (· < ·)

section Versioned

variable {events : List store_event} {content : nvs_content} {cfg : configuration}

/-- An event that tells nothing. -/
theorem Versioned.other (h : Versioned events cfg) {event : store_event}
    (hstored : ∀ config, event ≠ .stored config)
    (hpromoted : ∀ request_id version, event ≠ .promote request_id version (some .ESP_OK))
    (hsave : ∀ returned, event ≠ .save returned) (hclear : ∀ returned, event ≠ .clear returned) :
    Versioned (events ++ [event]) cfg := by
  have horigins := origins_other events hstored hpromoted
  have hversions := stored_versions_other events hstored hsave hclear
  constructor
  · exact h.ordered
  · rw [horigins]
    exact h.staged
  · rw [horigins]
    exact h.origin
  · rw [hversions]
    exact h.reached
  · rw [hversions]
    exact h.increasing

/-- An event behind which the versions start again. -/
theorem Versioned.reset (h : Versioned events cfg) {event : store_event}
    (hevent : (∃ returned, event = .save returned) ∨ ∃ returned, event = .clear returned)
    {cfg' : configuration} (hordered : cfg'.Ordered)
    (hcandidate : cfg'.candidate = none ∨ cfg'.candidate = cfg.candidate)
    (hactive : cfg'.active = none ∨ cfg' = cfg) : Versioned (events ++ [event]) cfg' := by
  -- the versions stored are counted from here on, the origins are kept
  have hversions := stored_versions_reset events event hevent
  have horigins : origins (events ++ [event]) = origins events := by
    rcases hevent with ⟨returned, rfl⟩ | ⟨returned, rfl⟩
    · exact origins_other events (by simp) (by simp)
    · exact origins_other events (by simp) (by simp)
  constructor
  · exact hordered
  · intro config hconfig
    rw [horigins]
    rcases hcandidate with hnone | hsame
    · rw [hnone] at hconfig
      cases hconfig
    · exact h.staged config (hsame ▸ hconfig)
  · intro pair hpair
    rw [horigins]
    rcases hactive with hnone | rfl
    · rw [hnone] at hpair
      cases hpair
    · exact h.origin pair hpair
  · rw [hversions]
    intro version hversion
    cases hversion
  · rw [hversions]
    exact List.Pairwise.nil

theorem Versioned.save (h : Versioned events cfg)
    (credentials : Option app_storage_wifi_credentials_t) :
    Versioned (events ++ [(operation.save credentials).event content])
      ((operation.save credentials).apply cfg) := by
  have hordered := h.ordered.apply (.save credentials)
  rcases apply_save cfg credentials with hsame | ⟨current, hnew⟩
  · rw [hsame] at hordered ⊢
    exact h.reset (.inl ⟨_, rfl⟩) hordered (.inr rfl) (.inr rfl)
  · rw [hnew] at hordered ⊢
    exact h.reset (.inl ⟨_, rfl⟩) hordered (.inl rfl) (.inl rfl)

theorem Versioned.clear (h : Versioned events cfg) :
    Versioned (events ++ [operation.clear.event content]) (operation.clear.apply cfg) :=
  h.reset (.inr ⟨_, rfl⟩) (h.ordered.apply .clear) (.inr rfl) (.inl rfl)

theorem Versioned.stage (h : Versioned events cfg) (hrep : Represents content cfg)
    (config : Option app_storage_wifi_config_t) :
    Versioned (events ++ [(operation.stage config).event content])
      ((operation.stage config).apply cfg) := by
  cases config with
  | none =>
      refine h.other ?_ ?_ ?_ ?_
      · simp [operation.event]
      · simp [operation.event]
      · simp [operation.event]
      · simp [operation.event]
  | some config =>
      have hevent : (operation.stage (some config)).event content
          = .stage (some config)
              (app_storage_stage_candidate_wifi_config (some config) ⟨content, []⟩).1 := rfl
      rw [hevent]
      -- it is stored if and only if its version is above those present
      by_cases hstored : validate_wifi_config (some config) = .ESP_OK ∧
          cfg.Below config.config_version
      · have hordered := h.ordered.apply (.stage (some config))
        have hreached := fun version (hversion : cfg.Reached version) =>
          hversion.apply.1 (some config)
        rw [(hrep.stage_stored_iff config).mpr hstored]
        rw [operation.apply, dif_pos hstored.1, if_pos hstored.2] at hordered hreached ⊢
        constructor
        · exact hordered
        · rintro _ ⟨⟩
          rw [origins_stored]
        · intro pair hpair
          rw [origins_stored]
          exact h.origin pair hpair
        · intro version hversion
          rw [stored_versions_stored, List.mem_append, List.mem_singleton] at hversion
          rcases hversion with hold | rfl
          · exact hreached version (h.reached version hold)
          · exact .inl ⟨⟨config, hstored.1⟩, rfl, UInt32.le_refl _⟩
        -- the new version is above every version stored since the last reset
        · rw [stored_versions_stored, List.pairwise_append]
          refine ⟨h.increasing, List.pairwise_singleton _ _, ?_⟩
          intro version hversion new hnew
          rw [List.mem_singleton.mp hnew]
          exact (h.reached version hversion).lt hstored.2
      -- any other result writes nothing and is no STORED event
      · have hother : ∀ config', store_event.stage (some config)
            (app_storage_stage_candidate_wifi_config (some config) ⟨content, []⟩).1
              ≠ .stored config' := by
          intro config' hsame
          injection hsame with _ hreturned
          exact hstored ((hrep.stage_stored_iff config).mp hreturned)
        have hsame : (operation.stage (some config)).apply cfg = cfg := by
          rw [operation.apply]
          split_ifs with hvalid hbelow
          · exact absurd ⟨hvalid, hbelow⟩ hstored
          · rfl
          · rfl
        rw [hsame]
        exact h.other hother (by simp) (by simp) (by simp)

theorem Versioned.promote (h : Versioned events cfg) (hrep : Represents content cfg)
    (request_id : Option c_string) (version : UInt32) :
    Versioned (events ++ [(operation.promote request_id version).event content])
      ((operation.promote request_id version).apply cfg) := by
  cases request_id with
  | none =>
      refine h.other ?_ ?_ ?_ ?_
      · simp [operation.event]
      · simp [operation.event, app_storage_promote_candidate_wifi_config, pure_apply]
      · simp [operation.event]
      · simp [operation.event]
  | some request_id =>
      have hevent : (operation.promote (some request_id) version).event content
          = .promote (some request_id) version
              (app_storage_promote_candidate_wifi_config (some request_id) version
                ⟨content, []⟩).1 := rfl
      have hreturns := hrep.promote_returns request_id version
      have hordered := h.ordered.apply (.promote (some request_id) version)
      have hreached := fun v (hv : cfg.Reached v) =>
        hv.apply.2 (some request_id) version h.ordered
      rw [hevent]
      rw [operation.apply] at hordered hreached ⊢
      cases hexpected : cfg.expected request_id version with
      -- the candidate is not the one expected: nothing happens
      | none =>
          refine h.other (by simp) ?_ (by simp) (by simp)
          intro request_id' version' hsame
          injection hsame with _ _ hreturned
          obtain ⟨config, hconfig⟩ := hreturns.mp hreturned
          rw [hexpected] at hconfig
          cases hconfig
      -- the origin of the candidate becomes that of the active pair
      | some config =>
          rw [hexpected] at hordered hreached
          have hcandidate : cfg.candidate = some config :=
            (Option.filter_eq_some_iff.mp hexpected).1
          rw [hreturns.mpr ⟨config, hexpected⟩]
          have hversions : stored_versions (events ++ [.promoted request_id version])
              = stored_versions events :=
            stored_versions_other events (by simp) (by simp) (by simp)
          constructor
          · exact hordered
          · intro config' hconfig'
            cases hconfig'
          · rintro _ ⟨⟩
            rw [origins_promoted]
            exact ⟨config.1, h.staged config hcandidate, rfl, rfl⟩
          · rw [hversions]
            intro v hv
            exact hreached v (h.reached v hv)
          · rw [hversions]
            exact h.increasing

/-- **What one call preserves.** -/
theorem Versioned.step (h : Versioned events cfg) (hrep : Represents content cfg)
    (op : operation) : Versioned (events ++ [op.event content]) (op.apply cfg) := by
  cases op with
  | save credentials => exact h.save credentials
  | stage config => exact h.stage hrep config
  | promote request_id version => exact h.promote hrep request_id version
  | clear => exact h.clear

end Versioned

/-! ## Runs -/

/-- **What every run preserves.** -/
theorem run_versioned (calls : List store_call) :
    ∃ cfg, Represents (content_after calls) cfg ∧ Versioned (store_events calls) cfg := by
  induction calls using List.reverseRecOn with
  | nil =>
      refine ⟨⟨none, none, none⟩, rfl, ?_⟩
      constructor
      · intro config hconfig
        cases hconfig
      · intro config hconfig
        cases hconfig
      · intro pair hpair
        cases hpair
      · intro version hversion
        cases hversion
      · exact List.Pairwise.nil
  | append_singleton calls call ih =>
      obtain ⟨cfg, hrep, hversioned⟩ := ih
      have hcontent : content_after (calls ++ [call])
          = (call.step (content_after calls)).1 := Machine.run_append _ _ _ _
      have hevents : store_events (calls ++ [call])
          = store_events calls ++ ((call.step (content_after calls)).2.toList ++ []) :=
        Machine.outputs_append _ _ _ _
      rw [hcontent, hevents, List.append_nil]
      -- a load writes nothing and says nothing about versions
      cases call with
      | write op => exact ⟨op.apply cfg, exec_refines hrep op, hversioned.step hrep op⟩
      | load =>
          exact ⟨cfg, hrep, hversioned.other (by simp) (by simp) (by simp) (by simp)⟩

/-! ## What staging answers -/

/-- The requests that are there, with their versions: the candidate's and the active one. -/
def present_pairs (content : nvs_content) : List (c_string × UInt32) :=
  ((load_candidate_from_handle content).toOption.map
      fun config => (config.request_id, config.config_version)).toList ++
    ((load_active content).toOption.join).toList

/-- What staging should answer, given the requests that are there. -/
def stage_verdict (pairs : List (c_string × UInt32)) (config : app_storage_wifi_config_t) :
    app_storage_wifi_stage_result_t :=
  if (config.request_id, config.config_version) ∈ pairs then .IDEMPOTENT
  else
    match (pairs.map Prod.snd).max? with
    | none => .STORED
    | some highest =>
        if config.config_version < highest then .STALE_VERSION
        else if config.config_version = highest then .VERSION_CONFLICT
        else .STORED

theorem stage_decision_eq_verdict (pending : Option app_storage_wifi_config_t)
    (active : Option (c_string × UInt32)) {config : app_storage_wifi_config_t}
    (hversion : config.config_version ≠ 0) :
    stage_decision pending active config
      = stage_verdict ((pending.map fun p => (p.request_id, p.config_version)).toList ++
          active.toList) config := by
  -- an absent slot counts as version zero, which no configuration has
  have hmax : ∀ v : UInt32, max v 0 = v ∧ max 0 v = v := by
    intro v
    have hright : max v 0 = if v ≤ 0 then 0 else v := rfl
    have hleft : max 0 v = if 0 ≤ v then v else 0 := rfl
    rw [hright, hleft, if_pos UInt32.zero_le]
    refine ⟨?_, rfl⟩
    split_ifs with hzero
    · exact (UInt32.le_zero_iff.mp hzero).symm
    · rfl
  have htaken : ∀ highest : UInt32, (config.config_version = highest ∧ highest ≠ 0) ↔
      config.config_version = highest := by
    intro highest
    constructor
    · exact And.left
    · rintro rfl
      exact ⟨rfl, hversion⟩
  rw [stage_decision, stage_verdict]
  simp only [htaken]
  cases pending with
  | none =>
      cases active with
      | none => simp [hmax, hversion]
      | some pair => simp [hmax, eq_comm]
  | some p =>
      cases active with
      | none => simp [hmax, eq_comm]
      | some pair =>
          simp only [Option.map_some, Option.getD_some, Option.some.injEq, Option.toList_some,
            List.cons_append, List.nil_append, List.mem_cons, List.not_mem_nil, or_false,
            List.map_cons, List.map_nil, List.max?_cons', List.foldl_cons, List.foldl_nil]
          simp only [@eq_comm _ (config.request_id, config.config_version)]
          by_cases hpending : (p.request_id, p.config_version)
              = (config.request_id, config.config_version)
          · simp [hpending]
          · simp [hpending]

/-- The stored credentials of a configuration are loaded. -/
theorem Represents.load_wifi_credentials {content : nvs_content} {cfg : configuration}
    (h : Represents content cfg) {credentials : app_storage_wifi_credentials_t}
    (hcurrent : cfg.current.map (·.1) = some credentials) :
    app_storage_load_wifi_credentials content = .ok credentials := by
  obtain ⟨current, hsome, rfl⟩ := Option.map_eq_some_iff.mp hcurrent
  have hload : app_storage_load_wifi_credentials content
      = read_credentials (slots content).sta_ssid (slots content).sta_password :=
    load_wifi_credentials_sound h.sound
  have hslots : slots content = cfg.slots := h
  rw [hload, hslots, configuration.slots, hsome]
  rfl

theorem Represents.present_pairs {content : nvs_content} {cfg : configuration}
    (h : Represents content cfg) :
    present_pairs content
      = ((cfg.candidate.map (·.1)).map fun p => (p.request_id, p.config_version)).toList ++
          (cfg.active.map (·.1)).toList := by
  rw [AppStorage.present_pairs, h.load_candidate, h.load_active]
  cases cfg.candidate with
  | none => rfl
  | some config => rfl

/-! ## The main result -/

/-- **Versions over runs.** Behind any calls from an empty store on: a candidate is newer than
the active pair; a valid configuration is answered by `stage_verdict`, is stored in the
candidate's keys alone, and only on STORED; the versions stored since the last save or
clear grow; and the credentials behind an active pair are those that were stored with it. -/
theorem versions_over_runs (calls : List store_call) :
    (∀ config pair, load_candidate_from_handle (content_after calls) = .ok config →
      load_active (content_after calls) = .ok (some pair) → pair.2 < config.config_version) ∧
    (∀ config, validate_wifi_config (some config) = .ESP_OK →
      (app_storage_stage_candidate_wifi_config (some config) ⟨content_after calls, []⟩).1
          = some (stage_verdict (present_pairs (content_after calls)) config, .ESP_OK) ∧
      (stage_verdict (present_pairs (content_after calls)) config ≠ .STORED →
        (app_storage_stage_candidate_wifi_config (some config) ⟨content_after calls, []⟩).2.content
          = content_after calls) ∧
      ∀ key, key ∉ [nvs_key.cand_ssid, .cand_pass, .cand_req, .cand_ver] →
        (app_storage_stage_candidate_wifi_config (some config) ⟨content_after calls, []⟩).2.content
          key = content_after calls key) ∧
    (stored_versions (store_events calls)).Pairwise (· < ·) ∧
    (∀ request_id version, load_active (content_after calls) = .ok (some (request_id, version)) →
      ∃ config, (origins (store_events calls)).2 = some config ∧
        config.request_id = request_id ∧ config.config_version = version ∧
        app_storage_load_wifi_credentials (content_after calls) = .ok config.credentials) := by
  obtain ⟨cfg, hrep, hversioned⟩ := run_versioned calls
  -- from here on only what represents the content matters
  generalize content_after calls = content at hrep
  refine ⟨?_, ?_, hversioned.increasing, ?_⟩
  · intro config pair hcandidate hactive
    rw [hrep.load_active, Except.ok.injEq] at hactive
    obtain ⟨valid, hvalid, rfl⟩ := Option.map_eq_some_iff.mp hactive
    rw [hrep.load_candidate] at hcandidate
    cases hconfig : cfg.candidate with
    | none => simp [hconfig] at hcandidate
    | some candidate =>
        obtain rfl : candidate.1 = config := by simpa [hconfig] using hcandidate
        exact hversioned.ordered candidate hconfig valid hvalid
  · intro config hvalid
    have hversion := ((validate_wifi_config_ok config).mp hvalid).1
    have hreturns := hrep.stage_returns hvalid
    -- the decision on slots is the verdict on the pairs that are present
    rw [stage_decision_eq_verdict _ _ hversion, ← hrep.present_pairs] at hreturns
    have hcontent := (stage_leaves (some config) content).complete
    refine ⟨hreturns, ?_, ?_⟩
    · intro hother
      rw [hcontent, operation.writes, if_neg]
      · rfl
      · rintro ⟨-, hstored⟩
        rw [hrep.stage_result_eq, Except.ok.injEq, stage_decision_eq_verdict _ _ hversion,
          ← hrep.present_pairs] at hstored
        exact hother hstored
    -- a STORED result writes the four candidate keys and no other
    · intro key hkey
      rw [hcontent, operation.writes]
      split_ifs with hstored
      · apply KeyStore.applyAll_other
        intro w hw hsame
        exact hkey (hsame ▸ List.mem_map_of_mem hw)
      · rfl
  · intro request_id version hactive
    rw [hrep.load_active, Except.ok.injEq] at hactive
    obtain ⟨pair, hpair, hsame⟩ := Option.map_eq_some_iff.mp hactive
    obtain ⟨config, horigin, hconfig, hcurrent⟩ := hversioned.origin pair hpair
    rw [hsame, Prod.mk.injEq] at hconfig
    exact ⟨config, horigin, hconfig.1, hconfig.2, hrep.load_wifi_credentials hcurrent⟩

end WifiManager.AppStorage
