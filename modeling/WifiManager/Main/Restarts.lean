/-
What a restart finds.

1. The credentials in the flash decide the mode of every boot that nothing disturbs, and behind any
   run they can be loaded or they are not there (`every_boot`).
2. A form that is answered with the page that says so is saved, and the next boot joins its network
   (`form_joined`).
3. A device whose gateway does not give its link up keeps its network, whatever else happens to it
   (`network_kept`).
-/
import WifiManager.Main.Lifecycle

set_option autoImplicit false

namespace WifiManager.Main

open WifiManager.Lib WifiManager.AppStorage WifiManager.WifiGateway WifiManager.CaptivePortal

/-! ## Every boot -/

section Sound

variable {secrets : secrets_t} {find_field : c_string → c_string → Option c_string}
  {content content' : nvs_content}

theorem sound_loses (h : Sound content) (hloses : Loses content content') : Sound content' := by
  intro key value hvalue
  by_cases htrig : key = .recv_trig
  · subst htrig
    trivial
  by_cases hretry : key = .recv_retry
  · subst hretry
    trivial
  exact h key value (hloses key htrig hretry value hvalue)

theorem sound_step (board : board_t) (input : board_input) (h : Sound board.content) :
    Sound (board.step secrets find_field input).1.content := by
  cases hop : board.operation find_field input with
  | none => exact sound_loses h (step_loses hop)
  | some op =>
      obtain ⟨j, hcontent⟩ := step_operation secrets hop
      rw [hcontent]
      exact h.cut op j

theorem board_after_sound (inputs : List board_input) :
    Sound (board_after secrets find_field inputs).content := by
  have hnew : Sound board_new.content := sound_empty
  exact Machine.run_invariant (board_t.step secrets find_field) sound_step hnew inputs

theorem load_wifi_credentials_congr (hssid : content' .sta_ssid = content .sta_ssid)
    (hpassword : content' .sta_password = content .sta_password) :
    app_storage_load_wifi_credentials content' = app_storage_load_wifi_credentials content := by
  rw [app_storage_load_wifi_credentials, app_storage_load_wifi_credentials, hssid, hpassword]

theorem FlagAtMost.load (h : FlagAtMost content content') :
    app_storage_load_wifi_credentials content' = app_storage_load_wifi_credentials content :=
  load_wifi_credentials_congr (h.other (by decide)) (h.other (by decide))

end Sound

section EveryBoot

variable (secrets : secrets_t) (find_field : c_string → c_string → Option c_string)

/-- **Every boot that nothing disturbs**, behind any run: with credentials in the flash the device
is the normal gateway, joins their network and still has them; without, it waits for the
administrator. -/
theorem every_boot (hsecrets : secrets.Usable) {results : start_results}
    (hboot : Undisturbed results) (inputs : List board_input) :
    (∃ network world, app_storage_load_wifi_credentials
          (board_after secrets find_field inputs).content = .ok network ∧
        (board_after secrets find_field inputs).step secrets find_field (.boot results)
          = (.running world false, some (.joins network)) ∧
        app_storage_load_wifi_credentials world.content = .ok network ∧
        world.gateway.s_status = .STA_CONNECTING) ∨
      ∃ world, app_storage_load_wifi_credentials
          (board_after secrets find_field inputs).content = .error .ESP_ERR_NOT_FOUND ∧
        (board_after secrets find_field inputs).step secrets find_field (.boot results)
          = (.running world true, none) ∧
        world.gateway.s_status = .PROVISIONING := by
  have hsound : Sound (board_after secrets find_field inputs).content := board_after_sound inputs
  generalize board_after secrets find_field inputs = board at hsound
  have hstep : board.step secrets find_field (.boot results)
      = app_main_start secrets results board.content := by
    cases board <;> rfl
  rw [hstep]
  cases hload : app_storage_load_wifi_credentials board.content with
  | ok network =>
      obtain ⟨world, hstart, -, hflag, hstatus⟩ := app_main_start_normal hboot hsecrets hload
      exact .inl ⟨network, world, rfl, hstart, hflag.load.trans hload, hstatus⟩
  | error err =>
      obtain rfl := load_wifi_credentials_refused hsound hload
      obtain ⟨world, hstart, -, -, hstatus⟩ := app_main_start_provisioning hboot hsecrets hload
      exact .inr ⟨world, rfl, hstart, hstatus⟩

end EveryBoot

/-- The access points of `env/secrets.example.h`. -/
def sample_secrets : secrets_t :=
  ⟨c_str "WifiManager-ESP32", [], c_str "WifiManager-Setup", c_str "change-this-password"⟩

theorem sample_secrets_usable : sample_secrets.Usable :=
  ⟨⟨by decide, by decide⟩, ⟨by decide, by decide⟩⟩

/-- A start in which every call succeeds. -/
def sample_start : start_results :=
  ⟨⟨.err .ESP_OK, .err .ESP_OK, .err .ESP_OK, true⟩, [], [.ESP_OK], .ESP_OK, [.ESP_OK, .ESP_OK]⟩

theorem sample_start_undisturbed : Undisturbed sample_start :=
  ⟨⟨rfl, rfl⟩, rfl, by decide, rfl, by decide⟩

/-- A device that is set up with a form and joins the network, and loses its power behind the first
text of a candidate that it stages. -/
def sample_life : List board_input :=
  [.boot sample_start, .provision ⟨31, sample_results⟩ [] .ESP_OK, .boot sample_start,
    .cut (.stage (some ⟨⟨c_str "office", c_str "newpassword"⟩, c_str "r1", 1⟩))
      [none, none, some .power_loss]]


/-- It joins the network of the form again. -/
theorem every_boot_sample :
    ∃ world, (board_after sample_secrets sample_find_field sample_life).step sample_secrets
        sample_find_field (.boot sample_start)
      = (.running world false, some (.joins ⟨c_str "my net", c_str "p@ssword"⟩)) ∧
      world.gateway.s_status = .STA_CONNECTING := by
  have hload : (app_storage_load_wifi_credentials (board_after sample_secrets sample_find_field
      sample_life).content).toOption = some ⟨c_str "my net", c_str "p@ssword"⟩ := by
    decide +kernel
  rcases every_boot sample_secrets sample_find_field sample_secrets_usable
    sample_start_undisturbed sample_life with ⟨network, world, hnetwork, hstep, -, hstatus⟩ |
      ⟨world, hmissing, -⟩
  · rw [hnetwork] at hload
    obtain rfl := Option.some.inj hload
    exact ⟨world, hstep, hstatus⟩
  · rw [hmissing] at hload
    cases hload

/-! ## Forms -/

section Forms

variable {secrets : secrets_t} {find_field : c_string → c_string → Option c_string}

/-- What a save that is reported as done leaves behind. -/
theorem save_stored {network : app_storage_wifi_credentials_t} {s s' : nvs_t}
    (h : app_storage_save_wifi_credentials (some network) s = (some .ESP_OK, s')) :
    app_storage_load_wifi_credentials s'.content = .ok network ∧
      load_candidate_from_handle s'.content = .error .ESP_ERR_NOT_FOUND ∧
      s'.content .recv_trig = none := by
  have hok : (app_storage_save_wifi_credentials (some network) s).1 = some .ESP_OK := by rw [h]
  obtain ⟨hvalid, hrep⟩ := save_represents hok
  obtain ⟨-, hcontent⟩ := save_ensures network s.content s.faults _ hok rfl
  rw [h] at hrep hcontent
  have hreports := reports_sound hrep.sound
  rw [show slots s'.content = _ from hrep] at hreports
  refine ⟨congrArg reports_t.credentials hreports, congrArg reports_t.candidate hreports, ?_⟩
  rw [show s'.content = _ from hcontent, save_forgets network s.content empty_content]
  rfl

theorem handler_answer_saved {err : esp_err_t} (h : handler_answer err = .saved) :
    err = .ESP_OK := by
  rw [handler_answer] at h
  split_ifs at h with hinvalid hfailed
  exact not_not.mp hfailed

/-- **A form that is answered as saved** has a network, and the storage holds it. -/
theorem saved_stored {request : httpd_req_t} {s s' : nvs_t}
    (h : provision_post_handler ⟨true, some handle_wifi_provisioning⟩ find_field request s
      = (some .saved, s')) :
    ∃ network, form_network find_field true request = some network ∧
      app_storage_save_wifi_credentials (some network) s = (some .ESP_OK, s') := by
  cases hform : form_network find_field true request with
  | none =>
      obtain ⟨answer, hsaved, hanswer⟩ := provision_refused hform
      rw [hanswer] at h
      exact absurd (Option.some.inj (Prod.mk.inj h).1) hsaved
  | some network =>
      rw [provision_network hform, bind_apply] at h
      refine ⟨network, rfl, ?_⟩
      generalize hrun : handle_wifi_provisioning network.ssid network.password s = run at h
      obtain ⟨- | err, s''⟩ := run
      · cases h
      · obtain ⟨hanswer, rfl⟩ := Prod.mk.inj h
        obtain rfl := handler_answer_saved (Option.some.inj hanswer)
        rw [handle_wifi_provisioning] at hrun
        split_ifs at hrun
        · cases (Prod.mk.inj hrun).1
        · cases (Prod.mk.inj hrun).1
        · exact hrun

/-- Without faults the network of a form is saved if it may be used. -/
theorem provision_saved {request : httpd_req_t} {network : app_storage_wifi_credentials_t}
    (hform : form_network find_field true request = some network)
    (husable : UsableNetwork network.ssid network.password) (content : nvs_content) :
    ∃ s, provision_post_handler ⟨true, some handle_wifi_provisioning⟩ find_field request
      ⟨content, []⟩ = (some .saved, s) := by
  obtain ⟨⟨-, hssid⟩, hpassword, -⟩ := valid_iff_usable.mpr husable
  have hvalid := (validate_wifi_credentials_usable network).mpr husable
  have hsave : app_storage_save_wifi_credentials (some network) ⟨content, []⟩
      = (some .ESP_OK, ⟨KeyStore.applyAll (save_writes network) content, []⟩) := by
    rw [app_storage_save_wifi_credentials, if_neg (not_not.mpr hvalid), bind_apply, nvs_open,
      nvs_call_last]
    dsimp only [id]
    rw [if_neg (not_not.mpr rfl), write_and_commit_done]
  rw [provision_network hform, bind_apply, handle_wifi_provisioning, if_neg (Nat.not_le.mpr hssid),
    if_neg (Nat.not_le.mpr hpassword), hsave]
  exact ⟨_, rfl⟩

variable (secrets find_field)

/-- **What a form leads to.** Whatever happens to the calls of the storage, behind the page that
says that the configuration is saved the device restarts, and the next boot that nothing disturbs
joins the network of the form, with no candidate and no recovery left. In provisioning mode, and
without faults, every form of a network that may be used is answered with this page; in the normal
mode no form changes anything. -/
theorem form_joined (hsecrets : secrets.Usable) {results : start_results}
    (hboot : Undisturbed results) (world : main_world) :
    (∀ request faults s,
      provision_post_handler ⟨true, some handle_wifi_provisioning⟩ find_field request
          ⟨world.content, faults⟩ = (some .saved, s) →
        ∃ network next, form_network find_field true request = some network ∧
          board_t.step secrets find_field (.running world true) (.provision request faults .ESP_OK)
            = (.halted s.content, some (.submitted network)) ∧
          board_t.step secrets find_field (.halted s.content) (.boot results)
            = (.running next false, some (.joins network)) ∧
          app_storage_load_candidate_wifi_config next.content = .error .ESP_ERR_NOT_FOUND ∧
          app_storage_is_recovery_triggered next.content = false) ∧
      (∀ (body : List UInt8) (recv : List recv_result) (network : app_storage_wifi_credentials_t),
        1 ≤ body.length → body.length ≤ 383 → 0 ∉ body → Delivers 0 recv body →
          (IsForm find_field body network.ssid network.password ∧
              UsableNetwork network.ssid network.password ↔
            form_network find_field true ⟨body.length, recv⟩ = some network ∧
              ∃ s, provision_post_handler ⟨true, some handle_wifi_provisioning⟩ find_field
                ⟨body.length, recv⟩ ⟨world.content, []⟩ = (some .saved, s))) ∧
      ∀ request faults httpd_resp_send,
        board_t.step secrets find_field (.running world false)
          (.provision request faults httpd_resp_send) = (.running world false, none) := by
  refine ⟨?_, ?_, fun request faults httpd_resp_send => ?_⟩
  · intro request faults s hsaved
    obtain ⟨network, hform, hsave⟩ := saved_stored hsaved
    obtain ⟨hload, hcandidate, hflag⟩ := save_stored hsave
    obtain ⟨next, hstart, -, hkept, -⟩ := app_main_start_normal hboot hsecrets hload
    refine ⟨network, next, hform, ?_, hstart, ?_, ?_⟩
    · rw [board_t.step, board_t.provision, hsaved, hform]
      rfl
    · rw [← hcandidate]
      exact load_candidate_congr (hkept.other (by decide)) (hkept.other (by decide))
        (hkept.other (by decide)) (hkept.other (by decide))
    · have hgone : next.content .recv_trig = none := by
        rcases hkept .recv_trig with hsame | ⟨-, hgone⟩
        · exact hsame.trans hflag
        · exact hgone
      rw [app_storage_is_recovery_triggered, hgone]
      rfl
  · intro body recv network hmin hmax hnul hrecv
    have hfields : provision_fields find_field ⟨body.length, recv⟩
        = .ok (network.ssid, network.password) ↔
          IsForm find_field body network.ssid network.password :=
      provision_fields_ok_iff hmin hmax hnul hrecv network.ssid network.password
    have hform : form_network find_field true ⟨body.length, recv⟩ = some network ↔
        IsForm find_field body network.ssid network.password := by
      rw [← hfields, form_network, if_pos rfl]
      cases provision_fields find_field ⟨body.length, recv⟩ with
      | error answer => simp [Except.toOption]
      | ok fields =>
          obtain ⟨ssid, password⟩ := fields
          obtain ⟨ssid', password'⟩ := network
          simp [Except.toOption]
    rw [hform]
    refine and_congr_right fun hisform => ⟨fun husable => ?_, ?_⟩
    · exact provision_saved (hform.mpr hisform) husable world.content
    · rintro ⟨s, hsaved⟩
      obtain ⟨other, hother, hsave⟩ := saved_stored hsaved
      obtain rfl := Option.some.inj (hother.symm.trans (hform.mpr hisform))
      exact load_wifi_credentials_usable (save_stored hsave).1
  · rfl

end Forms

/-- A device in provisioning mode, with an empty flash. -/
def sample_world : main_world where
  main := ⟨⟨[], []⟩, no_candidate, .CURRENT, 0⟩
  pc := .loop
  gateway := { wifi_gateway_t.init with s_status := .PROVISIONING }
  mqtt := ⟨false, 0⟩
  content := empty_content

/-- The network of the form is the one of the next boot. -/
theorem form_joined_sample :
    ∃ s next, provision_post_handler ⟨true, some handle_wifi_provisioning⟩ sample_find_field
        ⟨31, sample_results⟩ ⟨empty_content, []⟩ = (some .saved, s) ∧
      board_t.step sample_secrets sample_find_field (.halted s.content) (.boot sample_start)
        = (.running next false, some (.joins ⟨c_str "my net", c_str "p@ssword"⟩)) := by
  have hjoined := form_joined sample_secrets sample_find_field sample_secrets_usable
    sample_start_undisturbed sample_world
  have hform : form_network sample_find_field true ⟨31, sample_results⟩
      = some ⟨c_str "my net", c_str "p@ssword"⟩ := by
    decide +kernel
  obtain ⟨s, hsaved⟩ := provision_saved hform (by decide) empty_content
  obtain ⟨network, next, hnetwork, -, hstart, -⟩ := hjoined.1 ⟨31, sample_results⟩ [] s hsaved
  obtain rfl := Option.some.inj (hform.symm.trans hnetwork)
  exact ⟨s, next, hsaved, hstart⟩

/-! ## A network that is kept -/

/-- The device has this network, and it is the normal gateway whenever it runs: the main task is
not engaged with a candidate. -/
structure Serves (network : app_storage_wifi_credentials_t) (board : board_t) : Prop where
  stored : app_storage_load_wifi_credentials board.content = .ok network
  running : ∀ world mode, board = .running world mode → mode = false ∧
    world.main.s_upstream_wifi_slot = .CURRENT ∧ (world.pc = .loop ∨ world.pc = .promote_status)

/-- The main loop does not find the link given up, and a boot can read the flash. -/
def LinkKept : board_t → board_input → Prop
  | _, .boot results => Readable results
  | .running world _, .task (.main _) => world.pc = .loop →
      world.gateway.s_status ≠ .STA_RECOVERY_REQUIRED ∧ world.gateway.s_status ≠ .STA_UNREACHABLE
  | _, _ => True

section Kept

variable {secrets : secrets_t} {find_field : c_string → c_string → Option c_string}
  {network : app_storage_wifi_credentials_t}

/-- A boot with the network. -/
theorem serves_boot {results : start_results} (h : Readable results) {content : nvs_content}
    (hstored : app_storage_load_wifi_credentials content = .ok network) :
    Serves network (app_main_start secrets results content).1 := by
  have hstart := app_main_start_loadable secrets h hstored
  refine ⟨hstart.kept.load.trans hstored, fun world mode hworld => ?_⟩
  obtain ⟨hbooted, hmode, -⟩ := hstart.running world mode hworld
  exact ⟨hmode, hbooted.slot, .inl hbooted.pc⟩

/-- A candidate is staged next to the current slot. -/
theorem stage_load (config : Option app_storage_wifi_config_t) (content : nvs_content) (j : ℕ) :
    app_storage_load_wifi_credentials
        (KeyStore.applyAll (((operation.stage config).writes content).take j) content)
      = app_storage_load_wifi_credentials content := by
  have hkeys : ∀ key, key = nvs_key.sta_ssid ∨ key = .sta_password →
      key ∉ ((operation.stage config).writes content).map KeyStore.Write.key := by
    intro key hkey hmem
    cases config with
    | none => cases hmem
    | some config =>
        rw [operation.writes] at hmem
        split_ifs at hmem
        · rcases hkey with rfl | rfl
          all_goals simp [stage_writes] at hmem
        · cases hmem
  exact load_wifi_credentials_congr
    (KeyStore.applyAll_take_other (hkeys _ (.inl rfl)) j content)
    (KeyStore.applyAll_take_other (hkeys _ (.inr rfl)) j content)

/-- The calls of a step leave the current slot alone. -/
theorem storage_call_load {world : main_world} (hpc : world.pc = .loop ∨ world.pc = .promote_status)
    (input : main_input) (faults : List (Option nvs_fault)) :
    app_storage_load_wifi_credentials
        (world.storage_call input ⟨world.content, faults⟩).2.content
      = app_storage_load_wifi_credentials world.content := by
  cases hop : world.operation input with
  | none =>
      have hflags := storage_call_flags hop world.content faults
      exact load_wifi_credentials_congr (hflags .sta_ssid (by decide) (by decide))
        (hflags .sta_password (by decide) (by decide))
  | some op =>
      cases input with
      | stage config =>
          obtain ⟨j, hcontent⟩ := storage_call_operation hop world.content faults
          obtain rfl := Option.some.inj hop
          rw [hcontent]
          exact stage_load config world.content j
      | main results =>
          rw [main_world.operation] at hop
          rcases hpc with hpc | hpc
          · rw [hpc] at hop
            cases hop
          · rw [hpc] at hop
            cases hop
      | wifi esp_wifi_connect event => cases hop
      | mqtt connected => cases hop

/-- A step of a task. -/
theorem serves_task {world : main_world} (hslot : world.main.s_upstream_wifi_slot = .CURRENT)
    (hpc : world.pc = .loop ∨ world.pc = .promote_status) {input : main_input}
    (hlink : LinkKept (.running world false) (.task input)) :
    (world.step input).1.main.s_upstream_wifi_slot = .CURRENT ∧
      ((world.step input).1.pc = .loop ∨ (world.step input).1.pc = .promote_status) ∧
        ∀ credentials, board_event.of_task input (world.step input).2
          ≠ some (.joins credentials) := by
  cases input with
  | main results =>
      rcases hpc with hpc | hpc
      · obtain ⟨hrejected, hunreachable⟩ := hlink hpc
        rw [main_world.step, main_world.main_step, hpc]
        dsimp only
        split
        · rename_i hstatus
          exact absurd hstatus hrejected
        · rename_i hstatus
          exact absurd hstatus hunreachable
        · exact ⟨hslot, .inr rfl, by rintro _ ⟨⟩⟩
      · rw [main_world.step, main_world.main_step, hpc]
        dsimp only
        rw [if_pos (.inl (by rw [hslot]; decide))]
        exact ⟨hslot, .inl rfl, by rintro _ ⟨⟩⟩
  | stage config =>
      cases config with
      | none => exact ⟨hslot, hpc, by rintro _ ⟨⟩⟩
      | some config => exact ⟨hslot, hpc, by rintro _ ⟨⟩⟩
  | wifi esp_wifi_connect event => exact ⟨hslot, hpc, by rintro _ ⟨⟩⟩
  | mqtt connected =>
      cases connected with
      | false => exact ⟨hslot, hpc, by rintro _ ⟨⟩⟩
      | true => exact ⟨hslot, hpc, by rintro _ ⟨⟩⟩

/-- Neither of these two steps opens the portal or restarts the device. -/
theorem stays_running {world : main_world} (hpc : world.pc = .loop ∨ world.pc = .promote_status)
    (input : main_input) :
    ¬ world.restarts input = true ∧ world.opens_portal input = false := by
  cases input with
  | main results =>
      rcases hpc with hpc | hpc
      all_goals simp [main_world.restarts, main_world.opens_portal, hpc]
  | _ => exact ⟨Bool.false_ne_true, rfl⟩

theorem serves_step (board : board_t) (input : board_input) (h : Serves network board)
    (hlink : LinkKept board input) :
    Serves network (board.step secrets find_field input).1 := by
  cases board with
  | halted content =>
      cases input with
      | boot results => exact serves_boot hlink h.stored
      | _ => exact h
  | running world mode =>
      obtain ⟨rfl, hslot, hpc⟩ := h.running world mode rfl
      cases input with
      | boot results => exact serves_boot hlink h.stored
      | task input =>
          obtain ⟨hslot', hpc', -⟩ := serves_task hslot hpc hlink
          obtain ⟨hgoes, hcloses⟩ := stays_running hpc input
          rw [board_t.step, if_neg hgoes, hcloses]
          refine ⟨?_, ?_⟩
          · dsimp only [board_t.content]
            rw [step_storage_call, storage_call_load hpc]
            exact h.stored
          · rintro _ _ ⟨⟩
            exact ⟨rfl, hslot', hpc'⟩
      | cut input faults =>
          refine ⟨?_, by rintro _ _ ⟨⟩⟩
          exact (storage_call_load hpc input faults).trans h.stored
      | provision request faults httpd_resp_send => exact h

theorem serves_joins {board : board_t} {input : board_input} (h : Serves network board)
    (hlink : LinkKept board input) {other : app_storage_wifi_credentials_t}
    (hjoins : (board.step secrets find_field input).2 = some (.joins other)) : other = network := by
  have hboots : ∀ {results}, Readable results → ∀ {content},
      app_storage_load_wifi_credentials content = .ok network →
      (app_main_start secrets results content).2 = some (.joins other) → other = network := by
    intro results hread content hstored hboots
    exact board_event.joins.inj ((app_main_start_loadable secrets hread hstored).event _ hboots)
  cases board with
  | halted content =>
      cases input with
      | boot results => exact hboots hlink h.stored hjoins
      | _ => cases hjoins
  | running world mode =>
      obtain ⟨rfl, hslot, hpc⟩ := h.running world mode rfl
      cases input with
      | boot results => exact hboots hlink h.stored hjoins
      | task input =>
          rw [board_t.step, if_neg (stays_running hpc input).1] at hjoins
          exact absurd hjoins ((serves_task hslot hpc hlink).2.2 other)
      | cut input faults =>
          rw [board_t.step] at hjoins
          obtain ⟨_, -, hevent⟩ := Option.map_eq_some_iff.mp hjoins
          cases hevent
      | provision request faults httpd_resp_send => cases hjoins

end Kept

/-- **A network that is kept.** As long as the main loop does not find the link given up and the
flash can be read, the stored network stays what it is, the device is the normal gateway whenever it
runs, and it is told to join no other network: whatever candidates are staged, whatever forms come,
and whenever the power is lost. -/
theorem network_kept (secrets : secrets_t) (find_field : c_string → c_string → Option c_string)
    {network : app_storage_wifi_credentials_t} {board : board_t} (h : Serves network board)
    {inputs : List board_input}
    (hlink : Machine.AtEveryStep (board_t.step secrets find_field) board inputs LinkKept) :
    Serves network (Machine.run (board_t.step secrets find_field) board inputs) ∧
      ∀ other, .joins other ∈ Machine.outputs (board_t.step secrets find_field) board inputs →
        other = network := by
  have hstep : ∀ board input, Serves network board → LinkKept board input →
      Serves network (board_t.step secrets find_field board input).1 := serves_step
  refine ⟨Machine.run_conditional hstep h hlink, fun other hother => ?_⟩
  obtain ⟨before, input, after, rfl, hjoins⟩ := Machine.mem_outputs.mp hother
  obtain ⟨hbefore, hrest⟩ := Machine.atEveryStep_append.mp hlink
  exact serves_joins (Machine.run_conditional hstep h hbefore)
    (Machine.atEveryStep_cons.mp hrest).1 hjoins

/-- A device with a network in its flash, off. -/
def sample_content : nvs_content :=
  KeyStore.applyAll (save_writes ⟨c_str "my net", c_str "p@ssword"⟩) empty_content

/-- It is switched on, and the power is lost while a candidate is staged. -/
theorem network_kept_sample :
    Serves ⟨c_str "my net", c_str "p@ssword"⟩
      (Machine.run (board_t.step sample_secrets sample_find_field) (.halted sample_content)
        [.boot sample_start, .cut (.stage (some (sample_candidate 1))) [],
          .boot sample_start]) := by
  refine (network_kept sample_secrets sample_find_field ⟨by decide, ?_⟩ ?_).1
  · exact fun _ _ h => (nomatch h)
  · have hboot : ∀ board, LinkKept board (.boot sample_start) :=
      fun _ => ⟨by decide, fun _ h => (nomatch h)⟩
    have hcut : ∀ board, LinkKept board (.cut (.stage (some (sample_candidate 1))) []) := by
      rintro (content | ⟨world, mode⟩)
      all_goals trivial
    exact Machine.atEveryStep_cons.mpr ⟨hboot _, Machine.atEveryStep_cons.mpr
      ⟨hcut _, Machine.atEveryStep_cons.mpr ⟨hboot _, Machine.atEveryStep_nil _ _⟩⟩⟩

end WifiManager.Main
