/-
The four operations on the configuration, and what an interrupted one leaves behind.

`operation.writes` is what an operation writes if nothing fails. Whatever happens to its
NVS calls, a prefix of these writes is left behind, and every prefix is left behind by
some loss of power (`Leaves`): the contents an interruption can produce are known exactly.
-/
import WifiManager.AppStorage.Storage

set_option autoImplicit false

namespace WifiManager.AppStorage

open WifiManager.Lib

open app_storage_wifi_stage_result_t

/-! ## Operations -/

/-- The operations on the configuration, with their arguments. -/
inductive operation
  | save (credentials : Option app_storage_wifi_credentials_t)
  | stage (config : Option app_storage_wifi_config_t)
  | promote (expected_request_id : Option c_string) (expected_version : UInt32)
  | clear

/-- The call, with its error code. -/
def operation.exec : operation → nvs_m esp_err_t
  | .save credentials => app_storage_save_wifi_credentials credentials
  | .stage config => do
      let (_, err) ← app_storage_stage_candidate_wifi_config config
      return err
  | .promote expected_request_id expected_version =>
      app_storage_promote_candidate_wifi_config expected_request_id expected_version
  | .clear => app_storage_clear_wifi_credentials

/-- The result of staging a valid configuration, if it gets as far as deciding. -/
def stage_result (content : nvs_content) (config : app_storage_wifi_config_t) :
    Except esp_err_t app_storage_wifi_stage_result_t := do
  let pending ← candidate_or_none (load_candidate_from_handle content)
  let active ← load_active content
  return stage_decision pending active config

/-- The candidate that a promotion finds, if it is the expected one. -/
def promoted (content : nvs_content) (expected_request_id : c_string)
    (expected_version : UInt32) : Option app_storage_wifi_config_t :=
  (load_candidate_from_handle content).toOption.filter fun pending =>
    pending.request_id = expected_request_id ∧ pending.config_version = expected_version

/-- What an operation writes on a content, in order. -/
def operation.writes (content : nvs_content) : operation → List nvs_write
  | .save (some credentials) =>
      if validate_wifi_credentials (some credentials) = .ESP_OK then save_writes credentials
      else []
  | .stage (some config) =>
      if validate_wifi_config (some config) = .ESP_OK ∧
          stage_result content config = .ok STORED then stage_writes config
      else []
  | .promote (some expected_request_id) expected_version =>
      if expected_request_id = [] ∨ expected_version = 0 then []
      else
        match promoted content expected_request_id expected_version with
        | some pending => promote_writes pending
        | none => []
  | .clear => clear_writes
  | _ => []

/-- How many NVS calls an operation makes in front of its first write. -/
def operation.calls_before : operation → ℕ
  | .save _ => 1
  | .stage _ => 3
  | .promote _ _ => 2
  | .clear => 1

/-! ## Interruptions

What a program leaves behind follows its calls: a call that only reads lets the program
go on with one of two results, or ends it. -/

/-- What the program leaves behind on a content: a prefix of the writes whatever happens
to its calls, the prefix of the calls behind the first `calls` that are carried out if
the power is lost, and all of them if nothing fails. -/
structure Leaves {α : Type} (ws : List nvs_write) (calls : ℕ) (content : nvs_content)
    (program : nvs_m α) : Prop where
  interrupted : ∀ faults, ∃ j ≤ ws.length,
    (program ⟨content, faults⟩).2.content = KeyStore.applyAll (ws.take j) content
  power_lost : ∀ n, (program ⟨content, lost_after n⟩).2.content
    = KeyStore.applyAll (ws.take (n - calls)) content
  complete : (program ⟨content, []⟩).2.content = KeyStore.applyAll ws content

section Interruptions

variable {α γ : Type} {content : nvs_content} {ws : List nvs_write} {calls : ℕ}

/-- A program that ends without a call. -/
theorem Leaves.done (a : α) : Leaves [] calls content (pure a : nvs_m α) where
  interrupted := fun _ => ⟨0, Nat.le_refl 0, rfl⟩
  power_lost := by
    intro n
    rw [List.take_nil]
    rfl
  complete := rfl

theorem Leaves.write_and_commit (commit : Bool → Bool) :
    Leaves ws 0 content (write_and_commit ws commit) where
  interrupted := by
    intro faults
    rw [write_and_commit_content]
    exact write_all_content ws false ⟨content, faults⟩
  power_lost := by
    intro n
    rw [write_and_commit_content, Nat.sub_zero]
    exact write_all_power_loss ws false content n
  complete := by rw [write_and_commit_done]

/-- A call that changes nothing and whose failure ends the program. -/
theorem Leaves.call {fail : esp_err_t → α} {act : nvs_content → α × nvs_content}
    {rest : α → nvs_m γ} (hact : (act content).2 = content)
    (hdone : Leaves ws calls content (rest (act content).1))
    (hfail : ∀ failure : nvs_failure, ∃ c, rest (fail failure.err) = pure c) :
    Leaves ws (calls + 1) content (nvs_call fail act >>= rest) where
  interrupted := by
    intro faults
    match faults with
    | [] =>
        rw [bind_apply, nvs_call_last, hact]
        exact hdone.interrupted []
    | none :: faults =>
        rw [bind_apply, nvs_call_done, hact]
        exact hdone.interrupted faults
    | some (.error failure) :: faults =>
        -- behind a failed call there is no other one
        obtain ⟨c, hc⟩ := hfail failure
        refine ⟨0, Nat.zero_le _, ?_⟩
        rw [bind_apply, nvs_call_error]
        dsimp only
        rw [hc]
        rfl
    | some .power_loss :: faults => exact ⟨0, Nat.zero_le _, rfl⟩
  power_lost := by
    intro n
    cases n with
    -- the power goes at this very call
    | zero =>
        rw [Nat.zero_sub]
        rfl
    | succ n =>
        have hlost : lost_after (n + 1) = none :: lost_after n := rfl
        rw [hlost, bind_apply, nvs_call_done, hact, Nat.add_sub_add_right]
        exact hdone.power_lost n
  complete := by
    rw [bind_apply, nvs_call_last, hact]
    exact hdone.complete

/-- What is made of the result does not matter. -/
theorem Leaves.map {program : nvs_m α} (h : Leaves ws calls content program) (f : α → γ) :
    Leaves ws calls content (program >>= fun a => pure (f a)) := by
  have hsame : ∀ s, ((program >>= fun a => pure (f a)) s).2 = (program s).2 := by
    intro s
    rw [bind_apply]
    cases program s with
    | mk result s' => cases result <;> rfl
  constructor
  · intro faults
    rw [hsame]
    exact h.interrupted faults
  · intro n
    rw [hsame]
    exact h.power_lost n
  · rw [hsame]
    exact h.complete

/-- The open of an operation; without a handle it ends. -/
theorem Leaves.opened {program : nvs_m α} {f : esp_err_t → α}
    (h : Leaves ws calls content program) :
    Leaves ws (calls + 1) content (do
      let err ← nvs_open
      if err ≠ .ESP_OK then return f err
      else program) := by
  refine .call rfl ?_ ?_
  · exact h
  · intro failure
    exact ⟨f failure.err, if_pos failure.not_ok⟩

end Interruptions

/-! ## What a program ensures -/

/-- Whatever happens to its calls: what the program returns and leaves behind, if it returns. -/
def Ensures {α : Type} (content : nvs_content) (program : nvs_m α)
    (Q : α → nvs_content → Prop) : Prop :=
  ∀ faults a, (program ⟨content, faults⟩).1 = some a → Q a (program ⟨content, faults⟩).2.content

section Ensures

variable {α γ : Type} {content : nvs_content} {Q : α → nvs_content → Prop}

theorem Ensures.pure {a : α} (h : Q a content) : Ensures content (pure a) Q := by
  intro faults a' ha
  rw [← Option.some.inj ha]
  exact h

/-- A call that changes nothing, carried out or failed. -/
theorem Ensures.call {Q : γ → nvs_content → Prop} {fail : esp_err_t → α}
    {act : nvs_content → α × nvs_content} {rest : α → nvs_m γ} (hact : (act content).2 = content)
    (hdone : Ensures content (rest (act content).1) Q)
    (hfail : ∀ failure : nvs_failure, Ensures content (rest (fail failure.err)) Q) :
    Ensures content (nvs_call fail act >>= rest) Q := by
  intro faults a ha
  rcases faults with - | ⟨- | failure | -, faults⟩
  · rw [bind_apply, nvs_call_last, hact] at ha ⊢
    exact hdone [] a ha
  · rw [bind_apply, nvs_call_done, hact] at ha ⊢
    exact hdone faults a ha
  · rw [bind_apply, nvs_call_error] at ha ⊢
    exact hfail failure faults a ha
  · exact absurd ha (Option.some_ne_none a).symm

/-- The writes are all made if the commit has been reached. -/
theorem Ensures.write_and_commit {ws : List nvs_write} (commit : Bool → Bool) :
    Ensures content (write_and_commit ws commit) fun err content' =>
      err = .ESP_OK → content' = KeyStore.applyAll ws content := by
  intro faults err herr hok
  rw [hok] at herr
  exact write_and_commit_ok ws commit herr

theorem Ensures.map {program : nvs_m α} (h : Ensures content program Q) (f : α → γ)
    {Q' : γ → nvs_content → Prop} (hQ : ∀ a content', Q a content' → Q' (f a) content') :
    Ensures content (program >>= fun a => Pure.pure (f a)) Q' := by
  intro faults c hc
  rw [bind_apply] at hc ⊢
  rcases hrun : program ⟨content, faults⟩ with ⟨- | a, s⟩
  · rw [hrun] at hc
    exact absurd hc (Option.some_ne_none c).symm
  · rw [hrun] at hc
    have ha := h faults a (by rw [hrun])
    rw [hrun] at ha
    rw [← Option.some.inj hc]
    exact hQ a s.content ha

theorem Ensures.mono {program : nvs_m α} (h : Ensures content program Q)
    {Q' : α → nvs_content → Prop} (hQ : ∀ a content', Q a content' → Q' a content') :
    Ensures content program Q' :=
  fun faults a ha => hQ a _ (h faults a ha)

/-- Behind the open; without a handle the program ends with its error. -/
theorem Ensures.opened {program : nvs_m α} {f : esp_err_t → α} (h : Ensures content program Q)
    (hfail : ∀ failure : nvs_failure, Q (f failure.err) content) :
    Ensures content (do
      let err ← nvs_open
      if err ≠ .ESP_OK then return f err
      else program) Q := by
  refine .call rfl h fun failure => ?_
  dsimp only [id]
  rw [if_pos failure.not_ok]
  exact .pure (hfail failure)

end Ensures

/-! ## How a program ends -/

/-- The errors among what happens to the calls. -/
def OnlyErrors (C : nvs_failure → Prop) (faults : List (Option nvs_fault)) : Prop :=
  ∀ failure, some (.error failure) ∈ faults → C failure

/-- Whatever happens to its calls, with errors of one kind: what the program returns, if it
returns, and what it leaves behind. -/
def Ends {α : Type} (C : nvs_failure → Prop) (content : nvs_content) (program : nvs_m α)
    (Q : Option α → nvs_content → Prop) : Prop :=
  ∀ faults, OnlyErrors C faults →
    Q (program ⟨content, faults⟩).1 (program ⟨content, faults⟩).2.content

section Ends

variable {α γ : Type} {C : nvs_failure → Prop} {content : nvs_content}
  {Q : Option α → nvs_content → Prop}

theorem Ends.pure {a : α} (h : Q (some a) content) : Ends C content (pure a) Q :=
  fun _ _ => h

/-- A call that changes nothing, carried out, failed or stopped. -/
theorem Ends.call {Q : Option γ → nvs_content → Prop} {fail : esp_err_t → α}
    {act : nvs_content → α × nvs_content} {rest : α → nvs_m γ} (hact : (act content).2 = content)
    (hdone : Ends C content (rest (act content).1) Q)
    (hfail : ∀ failure : nvs_failure, C failure → Ends C content (rest (fail failure.err)) Q)
    (hlost : Q none content) : Ends C content (nvs_call fail act >>= rest) Q := by
  intro faults herrors
  have htail : ∀ {fault rest}, faults = fault :: rest → OnlyErrors C rest := by
    rintro fault rest rfl failure hmem
    exact herrors failure (List.mem_cons_of_mem _ hmem)
  rcases faults with - | ⟨- | failure | -, faults⟩
  · rw [bind_apply, nvs_call_last, hact]
    exact hdone [] herrors
  · rw [bind_apply, nvs_call_done, hact]
    exact hdone faults (htail rfl)
  · rw [bind_apply, nvs_call_error]
    exact hfail failure (herrors failure List.mem_cons_self) faults (htail rfl)
  · exact hlost

/-- Behind writes a prefix is left, and all of them behind a commit. -/
theorem Ends.write_and_commit {Q : Option esp_err_t → nvs_content → Prop} {ws : List nvs_write}
    (commit : Bool → Bool)
    (hcut : ∀ result, ∀ j ≤ ws.length, result ≠ some .ESP_OK →
      Q result (KeyStore.applyAll (ws.take j) content))
    (hdone : Q (some .ESP_OK) (KeyStore.applyAll ws content)) :
    Ends C content (write_and_commit ws commit) Q := by
  intro faults _
  by_cases hok : (AppStorage.write_and_commit ws commit ⟨content, faults⟩).1 = some .ESP_OK
  · rw [hok, write_and_commit_ok ws commit hok]
    exact hdone
  · obtain ⟨j, hj, hcontent⟩ := write_all_content ws false ⟨content, faults⟩
    rw [write_and_commit_content, hcontent]
    exact hcut _ j hj hok

/-- Behind the open; without a handle the program ends another way. -/
theorem Ends.opened {program : nvs_m α} {failed : esp_err_t → nvs_m α}
    (h : Ends C content program Q)
    (hfail : ∀ failure : nvs_failure, Ends C content (failed failure.err) Q)
    (hlost : Q none content) :
    Ends C content (do
      let err ← nvs_open
      if err ≠ .ESP_OK then failed err
      else program) Q := by
  refine .call rfl h (fun failure _ => ?_) hlost
  dsimp only [id]
  rw [if_pos failure.not_ok]
  exact hfail failure

theorem Ends.map {Q : Option γ → nvs_content → Prop} {program : nvs_m α} {f : α → γ}
    (h : Ends C content program fun result content' => Q (result.map f) content') :
    Ends C content (program >>= fun a => Pure.pure (f a)) Q := by
  intro faults herrors
  have hends := h faults herrors
  rw [bind_apply]
  rcases hrun : program ⟨content, faults⟩ with ⟨- | a, s⟩
  · rw [hrun] at hends
    exact hends
  · rw [hrun] at hends
    exact hends

/-- One program behind another, with any errors. -/
theorem Ends.bind {P : Option α → nvs_content → Prop} {Q : Option γ → nvs_content → Prop}
    {program : nvs_m α} {rest : α → nvs_m γ} (h : Ends (fun _ => True) content program P)
    (hrest : ∀ a content', P (some a) content' → Ends (fun _ => True) content' (rest a) Q)
    (hlost : ∀ content', P none content' → Q none content') :
    Ends (fun _ => True) content (program >>= rest) Q := by
  intro faults herrors
  have hends := h faults herrors
  rw [bind_apply]
  rcases hrun : program ⟨content, faults⟩ with ⟨- | a, s⟩
  · rw [hrun] at hends
    exact hlost s.content hends
  · rw [hrun] at hends
    exact hrest a s.content hends s.faults fun _ _ => trivial

theorem Ends.mono {program : nvs_m α} (h : Ends C content program Q)
    {Q' : Option α → nvs_content → Prop}
    (hQ : ∀ result content', Q result content' → Q' result content') :
    Ends C content program Q' :=
  fun faults herrors => hQ _ _ (h faults herrors)

end Ends

/-! ## The operations -/

/-- `app_storage_save_wifi_credentials`. -/
theorem save_leaves (credentials : Option app_storage_wifi_credentials_t)
    (content : nvs_content) :
    Leaves ((operation.save credentials).writes content) 1 content
      (app_storage_save_wifi_credentials credentials) := by
  cases credentials with
  | none => exact .done _
  | some credentials =>
      rw [operation.writes, app_storage_save_wifi_credentials]
      by_cases hvalid : validate_wifi_credentials (some credentials) = .ESP_OK
      · rw [if_pos hvalid, if_neg (not_not.mpr hvalid)]
        exact Leaves.opened (.write_and_commit _)
      · rw [if_neg hvalid, if_pos hvalid]
        exact .done _

/-- `app_storage_clear_wifi_credentials`. -/
theorem clear_leaves (content : nvs_content) :
    Leaves (operation.clear.writes content) 1 content app_storage_clear_wifi_credentials :=
  Leaves.opened (.write_and_commit _)

/-- `app_storage_promote_candidate_wifi_config`. -/
theorem promote_leaves (expected_request_id : Option c_string) (expected_version : UInt32)
    (content : nvs_content) :
    Leaves ((operation.promote expected_request_id expected_version).writes content) 2 content
      (app_storage_promote_candidate_wifi_config expected_request_id expected_version) := by
  cases expected_request_id with
  | none => exact .done _
  | some expected_request_id =>
      rw [operation.writes, app_storage_promote_candidate_wifi_config]
      by_cases harg : expected_request_id = [] ∨ expected_version = 0
      · rw [if_pos harg, if_pos harg]
        exact .done _
      · rw [if_neg harg, if_neg harg]
        refine .opened (.call rfl ?_ ?_)
        · rw [promoted]
          cases hload : load_candidate_from_handle content with
          | error err => exact .done _
          | ok pending =>
              dsimp only
              -- the guard of the code is the negation of the one that `promoted` filters by
              by_cases hmatch : pending.request_id = expected_request_id ∧
                  pending.config_version = expected_version
              · rw [if_neg (by tauto)]
                simpa [Except.toOption, Option.filter, hmatch] using
                  Leaves.write_and_commit (fun _ => true)
              · rw [if_pos (by tauto)]
                simpa [Except.toOption, Option.filter, hmatch] using Leaves.done _
        · intro failure
          exact ⟨failure.err, rfl⟩

/-- `app_storage_stage_candidate_wifi_config`. -/
theorem stage_leaves (config : Option app_storage_wifi_config_t) (content : nvs_content) :
    Leaves ((operation.stage config).writes content) 3 content
      (app_storage_stage_candidate_wifi_config config) := by
  cases config with
  | none => exact .done _
  | some config =>
      rw [operation.writes, app_storage_stage_candidate_wifi_config]
      by_cases hvalid : validate_wifi_config (some config) = .ESP_OK
      · simp only [hvalid, true_and, ne_eq, not_true_eq_false, if_false]
        -- behind `nvs_open` come the two reads, and the writes behind both
        refine .opened (.call rfl ?_ ?_)
        · rw [stage_result]
          cases hpending : candidate_or_none (load_candidate_from_handle content) with
          | error err => exact .done _
          | ok pending =>
              refine .call rfl ?_ ?_
              · cases hactive : load_active content with
                | error err => exact .done _
                | ok active =>
                    cases hresult : stage_decision pending active config with
                    | STORED =>
                        simp only [bind, Except.bind, pure, Except.pure, hresult, if_true]
                        exact (Leaves.write_and_commit _).map (Prod.mk STORED)
                    | IDEMPOTENT =>
                        simp only [bind, Except.bind, pure, Except.pure, hresult]
                        exact .done _
                    | STALE_VERSION =>
                        simp only [bind, Except.bind, pure, Except.pure, hresult]
                        exact .done _
                    | VERSION_CONFLICT =>
                        simp only [bind, Except.bind, pure, Except.pure, hresult]
                        exact .done _
              · intro failure
                exact ⟨(STORED, failure.err), rfl⟩
        · intro failure
          refine ⟨(STORED, failure.err), ?_⟩
          -- the failure of a read is never taken for an absent candidate
          simp only [candidate_or_none, failure.not_absent.2, if_false]
      · rw [if_neg (fun h => hvalid h.1), if_pos hvalid]
        exact .done _

/-- **What an operation leaves behind.** -/
theorem exec_leaves (op : operation) (content : nvs_content) :
    Leaves (op.writes content) op.calls_before content op.exec := by
  cases op with
  | save credentials => exact save_leaves credentials content
  | stage config => exact (stage_leaves config content).map Prod.snd
  | promote expected_request_id expected_version =>
      exact promote_leaves expected_request_id expected_version content
  | clear => exact clear_leaves content

end WifiManager.AppStorage
