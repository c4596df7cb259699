/-
The device across its restarts.

The flash outlives a restart, and nothing else does. The power may be lost between two steps of the
tasks, in the middle of a call of the storage, or in the middle of a boot; and the device restarts
by itself behind a form that was saved and behind credentials that were given up.

1. `board_t.step`: a boot, a step of a task, a step that the power is lost in, or a form.
2. What one step can do to the flash, whatever happens to its calls.
   A step that has an operation leaves a prefix of its writes behind (`step_operation`), and any
   other one at most removes values (`step_loses`).
-/
import WifiManager.Main.Boot
import WifiManager.Main.Promotion
import WifiManager.Main.Provisioning

set_option autoImplicit false

namespace WifiManager.Main

open WifiManager.Lib WifiManager.AppStorage WifiManager.WifiGateway WifiManager.CaptivePortal

/-! ## The machine -/

/-- The calls of the storage in the next step of a task. -/
def main_world.storage_call (w : main_world) : main_input → nvs_m esp_err_t
  | .main _ =>
      match w.pc with
      | .promote_call =>
          app_storage_promote_candidate_wifi_config (some w.main.s_candidate_config.request_id)
            w.main.s_candidate_config.config_version
      | .retained => do
          let _ ← app_storage_set_recovery_triggered
          app_storage_increment_recovery_retry
      | .clear => app_storage_clear_wifi_credentials
      | _ => pure .ESP_OK
  | .stage config => (operation.stage config).exec
  | _ => pure .ESP_OK

/-- The main task enters the recovery, whose last call but one is
`captive_portal_set_provisioning_mode`. -/
def main_world.opens_portal (w : main_world) : main_input → Bool
  | .main _ => decide (w.pc = .retained)
  | _ => false

/-- The next step is `esp_restart`. -/
def main_world.restarts (w : main_world) : main_input → Bool
  | .main _ => decide (w.pc = .restart)
  | _ => false

/-- The network that a command brings. -/
def main_input.network : main_input → Option app_storage_wifi_credentials_t
  | .stage (some config) => some config.credentials
  | _ => none

/-- What an observer of the device sees of a step of a task. -/
def board_event.of_task (input : main_input) (event : Option main_event) : Option board_event :=
  match input.network, event with
  | some network, _ => some (.submitted network)
  | none, some (.wifi_gateway_connect_sta credentials _) => some (.joins credentials)
  | none, _ => none

/-- What can happen: the device is switched on, whatever it was doing; a task takes a step, or the
power is lost in the middle of it, with `faults` for the calls of the storage in it; or the HTTP
server receives a form. -/
inductive board_input
  | boot (results : start_results)
  | task (input : main_input)
  | cut (input : main_input) (faults : List (Option nvs_fault))
  | provision (request : httpd_req_t) (faults : List (Option nvs_fault))
      (httpd_resp_send : esp_err_t)

section Step

variable (secrets : secrets_t) (find_field : c_string → c_string → Option c_string)

/-- The network of a form that the portal hands on. -/
def form_network (provisioning_mode : Bool) (request : httpd_req_t) :
    Option app_storage_wifi_credentials_t :=
  if provisioning_mode = true then
    (provision_fields find_field request).toOption.map fun fields => ⟨fields.1, fields.2⟩
  else none

/-- `provision_post_handler` of the running device, which restarts behind the page that says that
the configuration is saved. -/
def board_t.provision (world : main_world) (provisioning_mode : Bool) (request : httpd_req_t)
    (faults : List (Option nvs_fault)) (httpd_resp_send : esp_err_t) : board_t :=
  match provision_post_handler ⟨provisioning_mode, some handle_wifi_provisioning⟩ find_field
      request ⟨world.content, faults⟩ with
  | (none, s) => .halted s.content
  | (some answer, s) =>
      if answer = .saved ∧ httpd_resp_send = .ESP_OK then .halted s.content
      else .running { world with content := s.content } provisioning_mode

def board_t.step : board_t → board_input → board_t × Option board_event
  | board, .boot results => app_main_start secrets results board.content
  | .halted content, _ => (.halted content, none)
  | .running world provisioning_mode, .task input =>
      if world.restarts input = true then (.halted world.content, none)
      else
        (.running (world.step input).1 (provisioning_mode || world.opens_portal input),
          board_event.of_task input (world.step input).2)
  | .running world _, .cut input faults =>
      (.halted (world.storage_call input ⟨world.content, faults⟩).2.content,
        input.network.map .submitted)
  | .running world provisioning_mode, .provision request faults httpd_resp_send =>
      (.provision find_field world provisioning_mode request faults httpd_resp_send,
        (form_network find_field provisioning_mode request).map .submitted)

/-- A device that has never been switched on. -/
def board_new : board_t := .halted empty_content

/-- The device behind a run. -/
def board_after (inputs : List board_input) : board_t :=
  Machine.run (board_t.step secrets find_field) board_new inputs

/-- What the observer has written down. -/
def board_history (inputs : List board_input) : List board_event :=
  Machine.outputs (board_t.step secrets find_field) board_new inputs

end Step

/-! ## What a step does to the flash -/

/-- The operation on the configuration in the next step of a task. -/
def main_world.operation (w : main_world) : main_input → Option operation
  | .main _ =>
      match w.pc with
      | .promote_call =>
          some (.promote (some w.main.s_candidate_config.request_id)
            w.main.s_candidate_config.config_version)
      | .clear => some .clear
      | _ => none
  | .stage config => some (.stage config)
  | _ => none

/-- The recovery flags at most are changed. -/
def OnlyFlags (content content' : nvs_content) : Prop :=
  ∀ key, key ≠ nvs_key.recv_trig → key ≠ .recv_retry → content' key = content key

theorem OnlyFlags.refl (content : nvs_content) : OnlyFlags content content := fun _ _ _ => rfl

theorem OnlyFlags.trans {content content' content'' : nvs_content} (h : OnlyFlags content content')
    (h' : OnlyFlags content' content'') : OnlyFlags content content'' :=
  fun key htrig hretry => (h' key htrig hretry).trans (h key htrig hretry)

/-- Some values are removed, and the recovery flags may be changed. -/
def Loses (content content' : nvs_content) : Prop :=
  ∀ key, key ≠ nvs_key.recv_trig → key ≠ .recv_retry →
    ∀ value, content' key = some value → content key = some value

theorem OnlyFlags.loses {content content' : nvs_content} (h : OnlyFlags content content') :
    Loses content content' :=
  fun key htrig hretry _ hvalue => (h key htrig hretry).symm.trans hvalue

section Storage

variable {w : main_world} {input : main_input}

theorem flag_write_ends (content : nvs_content) (key : nvs_key) (value : key.value)
    (hkey : key = .recv_trig ∨ key = .recv_retry) :
    Ends (fun _ => True) content (write_and_commit [⟨key, some value⟩] fun _ => true)
      fun _ content' => OnlyFlags content content' := by
  have hflags : ∀ j, OnlyFlags content
      (KeyStore.applyAll (([⟨key, some value⟩] : List nvs_write).take j) content) := by
    intro j key' htrig hretry
    refine KeyStore.applyAll_take_other ?_ j content
    rintro hmem
    obtain rfl : key' = key := List.mem_singleton.mp hmem
    exact hkey.elim htrig hretry
  exact .write_and_commit _ (fun _ j _ _ => hflags j) (hflags 1)

/-- The calls of `enter_retained_wifi_recovery`. -/
theorem retained_ends (content : nvs_content) :
    Ends (fun _ => True) content (do
      let _ ← app_storage_set_recovery_triggered
      app_storage_increment_recovery_retry) fun _ content' => OnlyFlags content content' := by
  have hset : Ends (fun _ => True) content app_storage_set_recovery_triggered
      fun _ content' => OnlyFlags content content' :=
    .opened (flag_write_ends content .recv_trig (1 : UInt8) (.inl rfl))
      (fun _ => .pure (.refl content)) (.refl content)
  have hincrement : ∀ content, Ends (fun _ => True) content app_storage_increment_recovery_retry
      fun _ content' => OnlyFlags content content' := by
    intro content
    have hcount : ∀ count : UInt8, Ends (fun _ => True) content
        (write_and_commit [⟨.recv_retry, some (if count < 255 then count + 1 else count)⟩]
          fun _ => true) fun _ content' => OnlyFlags content content' :=
      fun count => flag_write_ends content .recv_retry _ (.inr rfl)
    refine .opened (.call rfl ?_ (fun failure _ => ?_) (.refl content))
      (fun _ => .pure (.refl content)) (.refl content)
    · dsimp only
      cases nvs_get_u8 (content .recv_retry) with
      | ok count => exact hcount count
      | error err =>
          by_cases habsent : err = .ESP_ERR_NVS_NOT_FOUND
          · simp only [if_pos habsent]
            exact hcount 0
          · simp only [if_neg habsent]
            exact .pure (.refl content)
    · dsimp only
      rw [if_neg failure.not_absent.1]
      exact .pure (.refl content)
  refine hset.bind (fun _ content' hflags => ?_) fun _ hflags => hflags
  exact (hincrement content').mono fun _ _ => hflags.trans

/-- **The calls of a step** leave a prefix of the writes of its operation behind. -/
theorem storage_call_operation {op : operation} (h : w.operation input = some op)
    (content : nvs_content) (faults : List (Option nvs_fault)) :
    ∃ j, (w.storage_call input ⟨content, faults⟩).2.content
      = KeyStore.applyAll ((op.writes content).take j) content := by
  have hleaves : w.storage_call input = op.exec := by
    cases input with
    | main results =>
        rw [main_world.operation] at h
        rw [main_world.storage_call]
        split at h
        · rename_i hpc
          rw [hpc]
          cases h
          rfl
        · rename_i hpc
          rw [hpc]
          cases h
          rfl
        · cases h
    | stage config =>
        cases h
        rfl
    | wifi esp_wifi_connect event => cases h
    | mqtt connected => cases h
  rw [hleaves]
  obtain ⟨j, -, hcontent⟩ := (exec_leaves op content).interrupted faults
  exact ⟨j, hcontent⟩

theorem storage_call_flags (h : w.operation input = none) (content : nvs_content)
    (faults : List (Option nvs_fault)) :
    OnlyFlags content (w.storage_call input ⟨content, faults⟩).2.content := by
  cases input with
  | main results =>
      rw [main_world.operation] at h
      rw [main_world.storage_call]
      cases hpc : w.pc with
      | retained => exact retained_ends content faults fun _ _ => trivial
      | promote_call => simp [hpc] at h
      | clear => simp [hpc] at h
      | _ => exact .refl content
  | stage config => cases h
  | wifi esp_wifi_connect event => exact .refl content
  | mqtt connected => exact .refl content

theorem set_recovery_triggered_done (content : nvs_content) :
    app_storage_set_recovery_triggered ⟨content, []⟩
      = (some .ESP_OK, ⟨KeyStore.applyAll [⟨.recv_trig, some (1 : UInt8)⟩] content, []⟩) := by
  rw [app_storage_set_recovery_triggered, bind_apply, nvs_open, nvs_call_last]
  dsimp only [id]
  rw [if_neg (not_not.mpr rfl), write_and_commit_done]

theorem operation_of_restarts (h : w.restarts input = true) : w.operation input = none := by
  cases input with
  | main results =>
      have hpc : w.pc = .restart := of_decide_eq_true h
      simp only [main_world.operation, hpc]
  | stage config => cases h
  | wifi esp_wifi_connect event => cases h
  | mqtt connected => cases h

/-- A step of a task makes its calls, and they succeed. -/
theorem step_storage_call (w : main_world) (input : main_input) :
    (w.step input).1.content = (w.storage_call input ⟨w.content, []⟩).2.content := by
  cases input with
  | main results =>
      obtain ⟨main, pc, gateway, mqtt, content⟩ := w
      simp only [main_world.step, main_world.main_step]
      cases pc with
      | loop =>
          dsimp only
          split
          · split_ifs
            all_goals rfl
          · split_ifs
            all_goals rfl
          · rfl
      | promote_status =>
          dsimp only
          split_ifs
          all_goals rfl
      | promote_generation =>
          dsimp only
          split_ifs
          all_goals rfl
      | candidate_load caller =>
          dsimp only
          split
          all_goals rfl
      | candidate_failed caller err =>
          dsimp only
          split_ifs
          all_goals rfl
      | retained =>
          simp only [main_world.storage_call, bind_apply, set_recovery_triggered_done]
          rfl
      | _ => rfl
  | stage config =>
      simp only [main_world.step, main_world.storage_call, operation.exec, bind_apply,
        call_storage]
      generalize app_storage_stage_candidate_wifi_config config ⟨w.content, []⟩ = run
      obtain ⟨- | ⟨result, err⟩, s⟩ := run
      · rfl
      · rfl
  | wifi esp_wifi_connect event => rfl
  | mqtt connected => rfl

end Storage

theorem map_content {α γ : Type} (program : nvs_m α) (f : α → γ) (s : nvs_t) :
    ((program >>= fun a => pure (f a)) s).2 = (program s).2 := by
  rw [bind_apply]
  generalize program s = run
  obtain ⟨- | a, s'⟩ := run
  · rfl
  · rfl

section Form

variable {find_field : c_string → c_string → Option c_string} {provisioning_mode : Bool}
  {request : httpd_req_t}

/-- The handler saves the network of the form. -/
theorem provision_network {network : app_storage_wifi_credentials_t}
    (h : form_network find_field provisioning_mode request = some network) :
    provision_post_handler ⟨provisioning_mode, some handle_wifi_provisioning⟩ find_field request
      = (do
          let err ← handle_wifi_provisioning network.ssid network.password
          return handler_answer err) := by
  rw [form_network] at h
  split_ifs at h with hmode
  subst hmode
  rw [provision_post_handler]
  cases hfields : provision_fields find_field request with
  | error answer =>
      rw [hfields] at h
      cases h
  | ok fields =>
      rw [hfields] at h
      cases h
      rfl

theorem or_answer_bind_error {α β : Type} {result : Option α} {answer answer' : provision_answer}
    {rest : α → Except provision_answer β}
    (h : (or_answer result answer >>= rest) = .error answer') :
    answer' = answer ∨ ∃ value, rest value = .error answer' := by
  cases result with
  | none => exact .inl (Except.error.inj h).symm
  | some value => exact .inr ⟨value, h⟩

/-- A request that does not get to the handler is not answered as saved. -/
theorem provision_fields_error {answer : provision_answer}
    (h : provision_fields find_field request = .error answer) : answer ≠ .saved := by
  rw [provision_fields] at h
  split_ifs at h
  · cases h
    decide
  rcases or_answer_bind_error h with rfl | ⟨received, h⟩
  · decide
  rcases or_answer_bind_error h with rfl | ⟨encoded_ssid, h⟩
  · decide
  rcases or_answer_bind_error h with rfl | ⟨encoded_password, h⟩
  · decide
  rcases or_answer_bind_error h with rfl | ⟨ssid, h⟩
  · decide
  rcases or_answer_bind_error h with rfl | ⟨password, h⟩
  · decide
  · cases h

/-- Without a network to save there is an answer only, and it does not say that one is. -/
theorem provision_refused (h : form_network find_field provisioning_mode request = none) :
    ∃ answer, answer ≠ .saved ∧
      provision_post_handler ⟨provisioning_mode, some handle_wifi_provisioning⟩ find_field request
        = pure answer := by
  rw [form_network] at h
  rw [provision_post_handler]
  cases provisioning_mode with
  | false => exact ⟨_, by decide, rfl⟩
  | true =>
      rw [if_pos rfl] at h
      dsimp only
      cases hfields : provision_fields find_field request with
      | error answer => exact ⟨answer, provision_fields_error hfields, rfl⟩
      | ok fields =>
          rw [hfields] at h
          cases h

/-- **The writes of the handler.** -/
theorem handle_wifi_provisioning_content (network : app_storage_wifi_credentials_t)
    (content : nvs_content) (faults : List (Option nvs_fault)) :
    ∃ j, (handle_wifi_provisioning network.ssid network.password ⟨content, faults⟩).2.content
      = KeyStore.applyAll (((operation.save (some network)).writes content).take j) content := by
  rw [handle_wifi_provisioning]
  split_ifs
  · exact ⟨0, rfl⟩
  · exact ⟨0, rfl⟩
  · obtain ⟨j, -, hcontent⟩ := (save_leaves (some network) content).interrupted faults
    exact ⟨j, hcontent⟩

end Form

section Board

variable {secrets : secrets_t} {find_field : c_string → c_string → Option c_string}

theorem board_provision_content (find_field : c_string → c_string → Option c_string)
    (world : main_world) (provisioning_mode : Bool) (request : httpd_req_t)
    (faults : List (Option nvs_fault)) (httpd_resp_send : esp_err_t) :
    (board_t.provision find_field world provisioning_mode request faults httpd_resp_send).content
      = (provision_post_handler ⟨provisioning_mode, some handle_wifi_provisioning⟩ find_field
          request ⟨world.content, faults⟩).2.content := by
  rw [board_t.provision]
  generalize provision_post_handler ⟨provisioning_mode, some handle_wifi_provisioning⟩ find_field
    request ⟨world.content, faults⟩ = run
  obtain ⟨- | answer, s⟩ := run
  · rfl
  · dsimp only
    split_ifs
    all_goals rfl

/-- The operation on the configuration in a step of the device. -/
def board_t.operation (find_field : c_string → c_string → Option c_string) :
    board_t → board_input → Option operation
  | .running world _, .task input => world.operation input
  | .running world _, .cut input _ => world.operation input
  | .running _ provisioning_mode, .provision request _ _ =>
      (form_network find_field provisioning_mode request).map fun network => .save (some network)
  | _, _ => none

/-- A boot at most removes something. -/
theorem app_main_start_loses (results : start_results) (content : nvs_content) :
    Loses content (app_main_start secrets results content).1.content := by
  obtain ⟨content', hinit, hstarted⟩ := app_main_start_started secrets results content
  have hlost : Loses content content' := by
    rcases hinit with rfl | rfl
    · exact (OnlyFlags.refl content').loses
    · exact fun _ _ _ _ hvalue => (nomatch hvalue)
  intro key htrig hretry value hvalue
  refine hlost key htrig hretry value ?_
  rcases hstarted.kept with hflag | ⟨j, hcontent⟩
  · rw [← hflag.other htrig]
    exact hvalue
  · rw [hcontent] at hvalue
    refine KeyStore.applyAll_forall (fun w hw value hset => ?_) (fun _ _ hvalue => hvalue) key value
      hvalue
    have herased : ∀ w ∈ clear_writes, w.value = none := by decide
    rw [herased w (List.mem_of_mem_take hw)] at hset
    cases hset

/-- **The flash in one step**: a prefix of the writes of its operation. -/
theorem step_operation (secrets : secrets_t) {board : board_t} {input : board_input}
    {op : operation}
    (h : board.operation find_field input = some op) :
    ∃ j, (board.step secrets find_field input).1.content
      = KeyStore.applyAll ((op.writes board.content).take j) board.content := by
  cases board with
  | halted content => cases input <;> cases h
  | running world provisioning_mode =>
      cases input with
      | boot results => cases h
      | task input =>
          have hgoes : ¬ world.restarts input = true := fun hrestarts => by
            rw [board_t.operation, operation_of_restarts hrestarts] at h
            cases h
          rw [board_t.step, if_neg hgoes]
          dsimp only [board_t.content]
          rw [step_storage_call]
          exact storage_call_operation h world.content []
      | cut input faults => exact storage_call_operation h world.content faults
      | provision request faults httpd_resp_send =>
          obtain ⟨network, hnetwork, rfl⟩ := Option.map_eq_some_iff.mp h
          rw [board_t.step]
          dsimp only
          rw [board_provision_content, provision_network hnetwork, map_content]
          exact handle_wifi_provisioning_content network world.content faults

/-- **Any other step**, if it is not a boot, writes the recovery flags at most. -/
theorem step_only_flags {board : board_t} {input : board_input}
    (h : board.operation find_field input = none) (hboot : ∀ results, input ≠ .boot results) :
    OnlyFlags board.content (board.step secrets find_field input).1.content := by
  cases board with
  | halted content =>
      cases input with
      | boot results => exact absurd rfl (hboot results)
      | _ => exact .refl content
  | running world provisioning_mode =>
      cases input with
      | boot results => exact absurd rfl (hboot results)
      | task input =>
          rw [board_t.step]
          split_ifs
          · exact .refl world.content
          · dsimp only [board_t.content]
            rw [step_storage_call]
            exact storage_call_flags h world.content []
      | cut input faults => exact storage_call_flags h world.content faults
      | provision request faults httpd_resp_send =>
          obtain ⟨answer, -, hanswer⟩ := provision_refused (Option.map_eq_none_iff.mp h)
          rw [board_t.step]
          dsimp only
          rw [board_provision_content, hanswer]
          exact .refl world.content

theorem boot_content (board : board_t) (results : start_results) :
    (board.step secrets find_field (.boot results)).1.content
      = (app_main_start secrets results board.content).1.content := by
  cases board <;> rfl

/-- At most something is removed. -/
theorem step_loses {board : board_t} {input : board_input}
    (h : board.operation find_field input = none) :
    Loses board.content (board.step secrets find_field input).1.content := by
  cases input with
  | boot results =>
      rw [boot_content]
      exact app_main_start_loses results board.content
  | task input => exact (step_only_flags h fun _ => by rintro ⟨⟩).loses
  | cut input faults => exact (step_only_flags h fun _ => by rintro ⟨⟩).loses
  | provision request faults httpd_resp_send =>
      exact (step_only_flags h fun _ => by rintro ⟨⟩).loses

end Board

end WifiManager.Main
