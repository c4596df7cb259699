/-
Where the networks come from that the station is told to join.

What is stored under a key was once handed to the device, in a form or in a command, whatever
happens to the power and to the calls of the storage. That an SSID and a password were handed in
together is another matter: the calls write one behind the other, and a call that stops between
the two leaves a network that nobody has named. It is the only way to such a network
(`networks_given`).
-/
import WifiManager.Main.Lifecycle

set_option autoImplicit false

namespace WifiManager.Main

open WifiManager.Lib WifiManager.AppStorage WifiManager.WifiGateway WifiManager.CaptivePortal

/-! ## What an operation writes -/

/-- The network that an operation writes. -/
def written_network (content : nvs_content) : operation → Option app_storage_wifi_credentials_t
  | .save credentials => credentials
  | .stage config => config.map (·.credentials)
  | .promote (some request_id) version =>
      (promoted content request_id version).map (·.credentials)
  | .promote none _ => none
  | .clear => none

/-- A value under a key of an SSID or of a password. -/
def nvs_key.Part (P Q : c_string → Prop) : (key : nvs_key) → key.value → Prop
  | .sta_ssid, ssid => P ssid
  | .cand_ssid, ssid => P ssid
  | .sta_password, password => Q password
  | .cand_pass, password => Q password
  | _, _ => True

/-- Every SSID that is stored is of one kind, and every password of another. -/
def Parts (P Q : c_string → Prop) (content : nvs_content) : Prop :=
  ∀ key value, content key = some value → nvs_key.Part P Q key value

/-- The two pairs that are stored are networks of a kind. -/
structure Pairs (R : app_storage_wifi_credentials_t → Prop) (content : nvs_content) : Prop where
  current : ∀ ssid password, content .sta_ssid = some ssid →
    content .sta_password = some password → R ⟨ssid, password⟩
  candidate : ∀ ssid password, content .cand_ssid = some ssid →
    content .cand_pass = some password → R ⟨ssid, password⟩

/-- A slot has got the SSID of a network without its password. -/
def Half (network : app_storage_wifi_credentials_t) (content content' : nvs_content) : Prop :=
  (content' .sta_ssid = some network.ssid ∧ content .sta_ssid ≠ some network.ssid ∧
      content' .sta_password ≠ some network.password) ∨
    content' .cand_ssid = some network.ssid ∧ content .cand_ssid ≠ some network.ssid ∧
      content' .cand_pass ≠ some network.password

section Writes

variable {content content' : nvs_content}

/-- What an operation that is not refused writes. -/
inductive WritesOf (content : nvs_content) (op : operation) : List nvs_write → Prop
  | nothing : WritesOf content op []
  | save {network : app_storage_wifi_credentials_t}
      (h : written_network content op = some network) :
      WritesOf content op (save_writes network)
  | stage {config : app_storage_wifi_config_t}
      (h : written_network content op = some config.credentials) :
      WritesOf content op (stage_writes config)
  | promote {pending : app_storage_wifi_config_t}
      (h : written_network content op = some pending.credentials) :
      WritesOf content op (promote_writes pending)
  | clear : WritesOf content op clear_writes

theorem writes_of (content : nvs_content) (op : operation) :
    WritesOf content op (op.writes content) := by
  match op with
  | .save none => exact .nothing
  | .stage none => exact .nothing
  | .promote none _ => exact .nothing
  | .save (some credentials) =>
      rw [operation.writes]
      split_ifs
      · exact .save rfl
      · exact .nothing
  | .stage (some config) =>
      rw [operation.writes]
      split_ifs
      · exact .stage rfl
      · exact .nothing
  | .promote (some request_id) version =>
      rw [operation.writes]
      split_ifs
      · exact .nothing
      · cases hpending : promoted content request_id version with
        | none => exact .nothing
        | some pending => exact .promote (by rw [written_network, hpending]; rfl)
  | .clear => exact .clear

theorem Parts.writes {P Q : c_string → Prop} (h : Parts P Q content) (op : operation) (j : ℕ)
    (hnetwork : ∀ network, written_network content op = some network →
      P network.ssid ∧ Q network.password) :
    Parts P Q (KeyStore.applyAll ((op.writes content).take j) content) := by
  have hset : ∀ {T : c_string → Prop} {text : c_string}, T text →
      ∀ value, some text = some value → T value := by
    rintro T text htext value ⟨⟩
    exact htext
  have hwrites : ∀ w ∈ op.writes content, ∀ value, w.value = some value →
      nvs_key.Part P Q w.key value := by
    have hof := writes_of content op
    generalize op.writes content = ws at hof
    cases hof with
    | nothing => simp
    | @save network hwritten =>
        obtain ⟨hssid, hpassword⟩ := hnetwork network hwritten
        simp only [save_writes, erase_candidate_writes, List.cons_append, List.nil_append,
          List.mem_cons, List.not_mem_nil, or_false, nvs_key.Part, forall_eq_or_imp, reduceCtorEq,
          IsEmpty.forall_iff, implies_true, forall_eq, and_self, and_true]
        exact ⟨hset hssid, hset hpassword⟩
    | @stage config hwritten =>
        obtain ⟨hssid, hpassword⟩ := hnetwork config.credentials hwritten
        simp only [stage_writes, List.mem_cons, List.not_mem_nil, or_false, nvs_key.Part,
          forall_eq_or_imp, implies_true, forall_eq, and_self, and_true]
        exact ⟨hset hssid, hset hpassword⟩
    | @promote pending hwritten =>
        obtain ⟨hssid, hpassword⟩ := hnetwork pending.credentials hwritten
        simp only [promote_writes, erase_candidate_writes, List.cons_append, List.nil_append,
          List.mem_cons, List.not_mem_nil, or_false, nvs_key.Part, forall_eq_or_imp, implies_true,
          reduceCtorEq, IsEmpty.forall_iff, forall_eq, and_self, and_true]
        exact ⟨hset hssid, hset hpassword⟩
    | clear => simp [clear_writes]
  exact KeyStore.applyAll_forall (fun w hw => hwrites w (List.mem_of_mem_take hw)) h

theorem Parts.imp {P Q P' Q' : c_string → Prop} (h : Parts P Q content)
    (hssid : ∀ ssid, P ssid → P' ssid) (hpassword : ∀ password, Q password → Q' password) :
    Parts P' Q' content := by
  intro key value hvalue
  have hpart := h key value hvalue
  cases key with
  | sta_ssid => exact hssid value hpart
  | cand_ssid => exact hssid value hpart
  | sta_password => exact hpassword value hpart
  | cand_pass => exact hpassword value hpart
  | _ => trivial

theorem Parts.loses {P Q : c_string → Prop} (h : Parts P Q content)
    (hloses : Loses content content') :
    Parts P Q content' := by
  intro key value hvalue
  by_cases htrig : key = .recv_trig
  · subst htrig
    trivial
  by_cases hretry : key = .recv_retry
  · subst hretry
    trivial
  exact h key value (hloses key htrig hretry value hvalue)

/-- A pair of values behind the first writes of a network. -/
theorem pair_cut {R : app_storage_wifi_credentials_t → Prop}
    {network : app_storage_wifi_credentials_t} (hnetwork : R network)
    {ssid password ssid' password' : Option c_string} (j : ℕ)
    (hssid : ssid' = if 0 < j then some network.ssid else ssid)
    (hpassword : password' = if 1 < j then some network.password else password)
    (hpair : ∀ s p, ssid = some s → password = some p → R ⟨s, p⟩)
    (hhalf : ¬ (ssid' = some network.ssid ∧ ssid ≠ some network.ssid ∧
      password' ≠ some network.password)) :
    ∀ s p, ssid' = some s → password' = some p → R ⟨s, p⟩ := by
  intro s p hs hp
  match j with
  | 0 =>
      rw [if_neg (Nat.lt_irrefl 0)] at hssid
      rw [if_neg (by decide)] at hpassword
      exact hpair s p (hssid ▸ hs) (hpassword ▸ hp)
  | 1 =>
      rw [if_pos Nat.one_pos] at hssid
      rw [if_neg (Nat.lt_irrefl 1)] at hpassword
      obtain rfl : network.ssid = s := Option.some.inj (hssid.symm.trans hs)
      by_cases hwhole : password' = some network.password
      · obtain rfl : network.password = p := Option.some.inj (hwhole.symm.trans hp)
        exact hnetwork
      · have hsame : ssid = some network.ssid := by
          by_contra hother
          exact hhalf ⟨hssid, hother, hwhole⟩
        exact hpair _ p hsame (hpassword ▸ hp)
  | j + 2 =>
      rw [if_pos (Nat.succ_pos _)] at hssid
      rw [if_pos (by omega)] at hpassword
      obtain rfl : network.ssid = s := Option.some.inj (hssid.symm.trans hs)
      obtain rfl : network.password = p := Option.some.inj (hpassword.symm.trans hp)
      exact hnetwork

theorem Pairs.writes {R : app_storage_wifi_credentials_t → Prop} (h : Pairs R content)
    (op : operation) (j : ℕ)
    (hnetwork : ∀ network, written_network content op = some network → R network)
    (hhalf : ∀ network, written_network content op = some network →
      ¬ Half network content (KeyStore.applyAll ((op.writes content).take j) content)) :
    Pairs R (KeyStore.applyAll ((op.writes content).take j) content) := by
  have hof := writes_of content op
  generalize op.writes content = ws at hof hhalf
  cases hof with
  | nothing =>
      rw [List.take_nil]
      exact h
  | @save network hwritten =>
      have hslots := save_slots content j network
      have hwhole := hhalf network hwritten
      refine ⟨pair_cut (hnetwork network hwritten) j (congrArg slots_t.sta_ssid hslots)
        (congrArg slots_t.sta_password hslots) h.current fun hstored => hwhole (.inl hstored), ?_⟩
      intro ssid password hssid hpassword
      have hssid' := (congrArg slots_t.cand_ssid hslots).symm.trans hssid
      have hpassword' := (congrArg slots_t.cand_pass hslots).symm.trans hpassword
      dsimp only [save_cut] at hssid' hpassword'
      split_ifs at hssid' hpassword'
      exact h.candidate ssid password hssid' hpassword'
  | @stage config hwritten =>
      have hslots := stage_slots content j config
      have hwhole := hhalf config.credentials hwritten
      refine ⟨fun ssid password hssid hpassword => ?_,
        pair_cut (hnetwork _ hwritten) j (congrArg slots_t.cand_ssid hslots)
        (congrArg slots_t.cand_pass hslots) h.candidate fun hstored => hwhole (.inr hstored)⟩
      exact h.current ssid password ((congrArg slots_t.sta_ssid hslots).symm.trans hssid)
        ((congrArg slots_t.sta_password hslots).symm.trans hpassword)
  | @promote pending hwritten =>
      have hslots := promote_slots content j pending
      have hwhole := hhalf pending.credentials hwritten
      refine ⟨pair_cut (hnetwork _ hwritten) j (congrArg slots_t.sta_ssid hslots)
        (congrArg slots_t.sta_password hslots) h.current fun hstored => hwhole (.inl hstored), ?_⟩
      intro ssid password hssid hpassword
      have hssid' := (congrArg slots_t.cand_ssid hslots).symm.trans hssid
      have hpassword' := (congrArg slots_t.cand_pass hslots).symm.trans hpassword
      dsimp only [promote_cut] at hssid' hpassword'
      split_ifs at hssid' hpassword'
      exact h.candidate ssid password hssid' hpassword'
  | clear =>
      have hslots := clear_slots content j
      refine ⟨fun ssid password hssid hpassword => ?_, fun ssid password hssid hpassword => ?_⟩
      · have hssid' := (congrArg slots_t.sta_ssid hslots).symm.trans hssid
        have hpassword' := (congrArg slots_t.sta_password hslots).symm.trans hpassword
        dsimp only [clear_cut] at hssid' hpassword'
        split_ifs at hssid' hpassword'
        exact h.current ssid password hssid' hpassword'
      · exact h.candidate ssid password ((congrArg slots_t.cand_ssid hslots).symm.trans hssid)
          ((congrArg slots_t.cand_pass hslots).symm.trans hpassword)

/-- The SSID of a network alone, behind the first writes of it. -/
theorem set_half {network : app_storage_wifi_credentials_t}
    {ssid password ssid' password' : Option c_string} {j : ℕ}
    (hssid : ssid' = if 0 < j then some network.ssid else ssid)
    (hpassword : password' = if 1 < j then some network.password else password)
    (h : ssid' = some network.ssid ∧ ssid ≠ some network.ssid ∧
      password' ≠ some network.password) : j = 1 := by
  obtain ⟨hset, hother, hwithout⟩ := h
  match j with
  | 0 =>
      rw [if_neg (Nat.lt_irrefl 0)] at hssid
      exact absurd (hssid ▸ hset) hother
  | 1 => rfl
  | j + 2 =>
      rw [if_pos (by omega)] at hpassword
      exact absurd hpassword hwithout

/-- A value that is not set is kept or removed. -/
theorem not_half_of_erase {α : Type} {value value' : Option α} {text : α} {p : Prop} [Decidable p]
    (hvalue : value' = if p then none else value) :
    ¬ (value' = some text ∧ value ≠ some text) := by
  rintro ⟨hset, hother⟩
  split_ifs at hvalue
  · rw [hvalue] at hset
    cases hset
  · exact hother (hvalue ▸ hset)

/-- **Half a network** is left behind by the first write alone. -/
theorem half_first {op : operation} {network : app_storage_wifi_credentials_t} {j : ℕ}
    (hnetwork : written_network content op = some network)
    (h : Half network content (KeyStore.applyAll ((op.writes content).take j) content)) :
    j = 1 := by
  have hof := writes_of content op
  generalize op.writes content = ws at hof h
  cases hof with
  | nothing =>
      rw [List.take_nil] at h
      rcases h with ⟨hssid, hother, -⟩ | ⟨hssid, hother, -⟩
      · exact absurd hssid hother
      · exact absurd hssid hother
  | @save written hwritten =>
      obtain rfl : written = network := Option.some.inj (hwritten.symm.trans hnetwork)
      have hslots := save_slots content j written
      rcases h with hhalf | ⟨hssid, hother, -⟩
      · exact set_half (congrArg slots_t.sta_ssid hslots) (congrArg slots_t.sta_password hslots)
          hhalf
      · exact absurd ⟨hssid, hother⟩ (not_half_of_erase (congrArg slots_t.cand_ssid hslots))
  | @stage config hwritten =>
      obtain rfl : config.credentials = network := Option.some.inj (hwritten.symm.trans hnetwork)
      have hslots := stage_slots content j config
      rcases h with ⟨hssid, hother, -⟩ | hhalf
      · exact absurd ((congrArg slots_t.sta_ssid hslots).symm.trans hssid) hother
      · exact set_half (congrArg slots_t.cand_ssid hslots) (congrArg slots_t.cand_pass hslots) hhalf
  | @promote pending hwritten =>
      obtain rfl : pending.credentials = network := Option.some.inj (hwritten.symm.trans hnetwork)
      have hslots := promote_slots content j pending
      rcases h with hhalf | ⟨hssid, hother, -⟩
      · exact set_half (congrArg slots_t.sta_ssid hslots) (congrArg slots_t.sta_password hslots)
          hhalf
      · exact absurd ⟨hssid, hother⟩ (not_half_of_erase (congrArg slots_t.cand_ssid hslots))
  | clear =>
      have hslots := clear_slots content j
      rcases h with ⟨hssid, hother, -⟩ | ⟨hssid, hother, -⟩
      · exact absurd ⟨hssid, hother⟩ (not_half_of_erase (congrArg slots_t.sta_ssid hslots))
      · exact absurd ((congrArg slots_t.cand_ssid hslots).symm.trans hssid) hother

theorem Pairs.loses {R : app_storage_wifi_credentials_t → Prop} (h : Pairs R content)
    (hloses : Loses content content') : Pairs R content' where
  current := fun ssid password hssid hpassword =>
    h.current ssid password (hloses .sta_ssid (by decide) (by decide) ssid hssid)
      (hloses .sta_password (by decide) (by decide) password hpassword)
  candidate := fun ssid password hssid hpassword =>
    h.candidate ssid password (hloses .cand_ssid (by decide) (by decide) ssid hssid)
      (hloses .cand_pass (by decide) (by decide) password hpassword)

end Writes

/-! ## What the tasks hold -/

/-- The candidate that the main task holds in a local variable. -/
def board_t.candidate : board_t → Option app_storage_wifi_config_t
  | .running world _ => world.pc.candidate
  | .halted _ => none

section Memory

variable {w : main_world} {input : main_input}

/-- A candidate that is held was held, or it has been loaded in this step. -/
theorem step_pc_candidate {candidate : app_storage_wifi_config_t}
    (h : (w.step input).1.pc.candidate = some candidate) :
    w.pc.candidate = some candidate ∨ load_candidate_from_handle w.content = .ok candidate := by
  cases input with
  | main results =>
      obtain ⟨main, pc, gateway, mqtt, content⟩ := w
      rw [main_world.step, main_world.main_step] at h
      cases pc with
      | candidate_load caller =>
          dsimp only at h
          cases hload : app_storage_load_candidate_wifi_config content with
          | error err =>
              rw [hload] at h
              cases h
          | ok loaded =>
              rw [hload] at h
              obtain rfl : loaded = candidate := Option.some.inj h
              exact .inr hload
      | candidate_generation caller held => exact .inl h
      | candidate_connect caller held generation =>
          dsimp only at h
          split_ifs at h
          · exact .inl h
          · cases h
      | loop =>
          dsimp only at h
          split at h
          · split_ifs at h
            all_goals cases h
          · split_ifs at h
            all_goals cases h
          · cases h
      | promote_status =>
          dsimp only at h
          split_ifs at h
          all_goals cases h
      | promote_generation =>
          dsimp only at h
          split_ifs at h
          all_goals cases h
      | promote_call =>
          dsimp only at h
          split_ifs at h
          all_goals cases h
      | candidate_failed caller err =>
          dsimp only at h
          split_ifs at h
          all_goals cases h
      | clear =>
          dsimp only at h
          split_ifs at h
          all_goals cases h
      | _ => cases h
  | stage config => exact .inl h
  | wifi esp_wifi_connect event => exact .inl h
  | mqtt connected => exact .inl h

/-- The station is told to join the network of the candidate that is held. -/
theorem step_connects {credentials : app_storage_wifi_credentials_t} {err : esp_err_t}
    (h : (w.step input).2 = some (.wifi_gateway_connect_sta credentials err)) :
    ∃ candidate, w.pc.candidate = some candidate ∧ candidate.credentials = credentials := by
  cases input with
  | main results =>
      obtain ⟨main, pc, gateway, mqtt, content⟩ := w
      rw [main_world.step, main_world.main_step] at h
      cases pc with
      | candidate_connect caller held generation =>
          obtain ⟨rfl, -⟩ := main_event.wifi_gateway_connect_sta.inj (Option.some.inj h)
          exact ⟨held, rfl, rfl⟩
      | loop =>
          dsimp only at h
          split at h
          · split_ifs at h
          · split_ifs at h
          · cases h
      | candidate_load caller =>
          dsimp only at h
          split at h
          all_goals cases h
      | promote_status =>
          dsimp only at h
          split_ifs at h
      | promote_generation =>
          dsimp only at h
          split_ifs at h
      | candidate_failed caller err =>
          dsimp only at h
          split_ifs at h
      | _ => cases h
  | stage config => cases h
  | wifi esp_wifi_connect event => cases h
  | mqtt connected =>
      rw [main_world.step] at h
      dsimp only at h
      split_ifs at h
      cases h

variable {secrets : secrets_t} {find_field : c_string → c_string → Option c_string}
  {board : board_t} {input : board_input}

theorem of_task_joins {input : main_input} {event : Option main_event}
    {network : app_storage_wifi_credentials_t}
    (h : board_event.of_task input event = some (.joins network)) :
    ∃ err, event = some (.wifi_gateway_connect_sta network err) := by
  unfold board_event.of_task at h
  split at h
  · cases h
  · cases h
    exact ⟨_, rfl⟩
  · cases h

theorem board_step_candidate {candidate : app_storage_wifi_config_t}
    (h : (board.step secrets find_field input).1.candidate = some candidate) :
    board.candidate = some candidate ∨
      load_candidate_from_handle board.content = .ok candidate := by
  have hboot : ∀ {results content},
      (app_main_start secrets results content).1.candidate ≠ some candidate := by
    intro results content hcandidate
    obtain ⟨content', -, hstarted⟩ := app_main_start_started secrets results content
    cases hresult : (app_main_start secrets results content).1 with
    | halted content =>
        rw [hresult] at hcandidate
        cases hcandidate
    | running world mode =>
        rw [hresult] at hcandidate
        have hpc := (hstarted.running world mode hresult).1.pc
        rw [board_t.candidate, hpc] at hcandidate
        cases hcandidate
  cases board with
  | halted content =>
      cases input with
      | boot results => exact absurd h hboot
      | _ => cases h
  | running world provisioning_mode =>
      cases input with
      | boot results => exact absurd h hboot
      | task input =>
          rw [board_t.step] at h
          split_ifs at h
          · cases h
          · exact step_pc_candidate h
      | cut input faults => cases h
      | provision request faults httpd_resp_send =>
          rw [board_t.step, board_t.provision] at h
          dsimp only at h
          split at h
          · cases h
          · split_ifs at h
            · cases h
            · exact .inl h

/-- **A network that is joined** was loaded, now or for the attempt that is under way. -/
theorem board_step_joins {network : app_storage_wifi_credentials_t}
    (h : (board.step secrets find_field input).2 = some (.joins network)) :
    app_storage_load_wifi_credentials board.content = .ok network ∨
      ∃ candidate, board.candidate = some candidate ∧ candidate.credentials = network := by
  have hboot : ∀ {results content}, (app_main_start secrets results content).2
      = some (.joins network) → app_storage_load_wifi_credentials content = .ok network := by
    intro results content hevent
    obtain ⟨content', hinit, hstarted⟩ :=
      app_main_start_started secrets results content
    obtain ⟨loaded, hsame, hload⟩ := hstarted.event _ hevent
    obtain rfl := board_event.joins.inj hsame
    rcases hinit with rfl | rfl
    · exact hload
    · cases hload
  cases board with
  | halted content =>
      cases input with
      | boot results => exact .inl (hboot h)
      | _ => cases h
  | running world provisioning_mode =>
      cases input with
      | boot results => exact .inl (hboot h)
      | task input =>
          rw [board_t.step] at h
          split_ifs at h
          obtain ⟨err, hevent⟩ := of_task_joins h
          exact .inr (step_connects hevent)
      | cut input faults =>
          obtain ⟨other, -, hother⟩ := Option.map_eq_some_iff.mp h
          cases hother
      | provision request faults httpd_resp_send =>
          obtain ⟨other, -, hother⟩ := Option.map_eq_some_iff.mp h
          cases hother

/-- **A network that is written** was handed in with this step, or it is the candidate's. -/
theorem board_step_writes (secrets : secrets_t) {op : operation}
    {network : app_storage_wifi_credentials_t}
    (h : board.operation find_field input = some op)
    (hnetwork : written_network board.content op = some network) :
    (board.step secrets find_field input).2 = some (.submitted network) ∨
      ∃ candidate, load_candidate_from_handle board.content = .ok candidate ∧
        candidate.credentials = network := by
  have hpromote : ∀ {request_id version},
      written_network board.content (.promote request_id version) = some network →
      ∃ candidate, load_candidate_from_handle board.content = .ok candidate ∧
        candidate.credentials = network := by
    intro request_id version hwritten
    cases request_id with
    | none => cases hwritten
    | some request_id =>
        obtain ⟨candidate, hpromoted, hsame⟩ := Option.map_eq_some_iff.mp hwritten
        exact ⟨candidate, (promoted_eq_some.mp hpromoted).1, hsame⟩
  have htask : ∀ {world : main_world} {input : main_input},
      world.operation input = some op → board.content = world.content →
      input.network = some network ∨ ∃ candidate,
        load_candidate_from_handle board.content = .ok candidate ∧
          candidate.credentials = network := by
    intro world input hop hcontent
    cases input with
    | main results =>
        rw [main_world.operation] at hop
        split at hop
        · cases hop
          exact .inr (hpromote hnetwork)
        · cases hop
          cases hnetwork
        · cases hop
    | stage config =>
        cases hop
        obtain ⟨config, rfl, rfl⟩ := Option.map_eq_some_iff.mp hnetwork
        exact .inl rfl
    | wifi esp_wifi_connect event => cases hop
    | mqtt connected => cases hop
  cases board with
  | halted content => cases input <;> cases h
  | running world provisioning_mode =>
      cases input with
      | boot results => cases h
      | task input =>
          refine (htask h rfl).imp_left fun hsubmitted => ?_
          have hgoes : ¬ world.restarts input = true := fun hrestarts => by
            rw [board_t.operation, operation_of_restarts hrestarts] at h
            cases h
          rw [board_t.step, if_neg hgoes]
          simp only [board_event.of_task, hsubmitted]
      | cut input faults =>
          refine (htask h rfl).imp_left fun hsubmitted => ?_
          rw [board_t.step, hsubmitted]
          rfl
      | provision request faults httpd_resp_send =>
          obtain ⟨handed, hform, rfl⟩ := Option.map_eq_some_iff.mp h
          obtain rfl : handed = network := Option.some.inj hnetwork
          left
          rw [board_t.step, hform]
          rfl

end Memory

/-! ## Where the networks come from -/

section History

variable (secrets : secrets_t) (find_field : c_string → c_string → Option c_string)

/-- **The rule for networks**: what is known of the networks in the flash, and of those that are
loaded from it, is known of the networks that are joined. -/
theorem joined_known {K : List board_event → nvs_content → Prop}
    {M : List board_event → app_storage_wifi_credentials_t → Prop}
    {C : board_t → board_input → Prop}
    (hmono : ∀ {given network} events, M given network → M (given ++ events) network)
    (hcurrent : ∀ {given content network}, K given content →
      app_storage_load_wifi_credentials content = .ok network → M given network)
    (hcandidate : ∀ {given content candidate}, K given content →
      load_candidate_from_handle content = .ok candidate → M given candidate.credentials)
    (hnew : K [] empty_content)
    (hstep : ∀ board given input, K given board.content → C board input →
      K (given ++ (board.step secrets find_field input).2.toList)
        (board.step secrets find_field input).1.content)
    {inputs : List board_input}
    (hC : Machine.AtEveryStep (board_t.step secrets find_field) board_new inputs C)
    {before after : List board_event} {network : app_storage_wifi_credentials_t}
    (hhistory : board_history secrets find_field inputs = before ++ .joins network :: after) :
    M before network := by
  let I : board_t → List board_event → Prop := fun board given => K given board.content ∧
    ∀ candidate, board.candidate = some candidate → M given candidate.credentials
  have hinvariant : ∀ board given input, I board given → C board input →
      I (board.step secrets find_field input).1
          (given ++ (board.step secrets find_field input).2.toList) ∧
        ∀ event, (board.step secrets find_field input).2 = some event →
          ∀ network, event = .joins network → M given network := by
    rintro board given input ⟨hstored, hheld⟩ hcondition
    refine ⟨⟨hstep board given input hstored hcondition, fun candidate hc => ?_⟩, ?_⟩
    · rcases board_step_candidate hc with hbefore | hload
      · exact hmono _ (hheld candidate hbefore)
      · exact hmono _ (hcandidate hstored hload)
    · rintro event hevent network rfl
      rcases board_step_joins hevent with hload | ⟨candidate, hc, rfl⟩
      · exact hcurrent hstored hload
      · exact hheld candidate hc
  have hstart : I board_new [] := ⟨hnew, fun _ hc => (nomatch hc)⟩
  exact Machine.outputs_follow hinvariant hstart hC hhistory network rfl

/-- The step stores an SSID without its password. -/
def board_t.Splits (board : board_t) (input : board_input) : Prop :=
  ∃ op network, board.operation find_field input = some op ∧
    written_network board.content op = some network ∧
      Half network board.content (board.step secrets find_field input).1.content

/-- **A step splits a network** only by stopping behind the first of its writes. -/
theorem splits_first {board : board_t} {input : board_input}
    (h : board.Splits secrets find_field input) :
    ∃ op, board.operation find_field input = some op ∧
      (board.step secrets find_field input).1.content
        = KeyStore.applyAll ((op.writes board.content).take 1) board.content := by
  obtain ⟨op, network, hop, hnetwork, hhalf⟩ := h
  obtain ⟨j, hcontent⟩ := step_operation secrets hop
  rw [hcontent] at hhalf
  obtain rfl := half_first hnetwork hhalf
  exact ⟨op, hop, hcontent⟩

/-- The SSID and the password of a network were handed in, each with some network. -/
def PartsGiven (given : List board_event) (network : app_storage_wifi_credentials_t) : Prop :=
  (∃ other, .submitted other ∈ given ∧ other.ssid = network.ssid) ∧
    ∃ other, .submitted other ∈ given ∧ other.password = network.password

theorem PartsGiven.of_submitted {given : List board_event}
    {network : app_storage_wifi_credentials_t} (h : .submitted network ∈ given) :
    PartsGiven given network :=
  ⟨⟨network, h, rfl⟩, network, h, rfl⟩

/-- What is stored was handed in, value by value. -/
def StoredParts (given : List board_event) (content : nvs_content) : Prop :=
  Parts (fun ssid => ∃ other, .submitted other ∈ given ∧ other.ssid = ssid)
    (fun password => ∃ other, .submitted other ∈ given ∧ other.password = password) content

section Stored

variable {given : List board_event} {content : nvs_content}

theorem StoredParts.append (h : StoredParts given content) (events : List board_event) :
    StoredParts (given ++ events) content := by
  refine h.imp ?_ ?_
  · rintro ssid ⟨other, hmem, rfl⟩
    exact ⟨other, List.mem_append_left _ hmem, rfl⟩
  · rintro password ⟨other, hmem, rfl⟩
    exact ⟨other, List.mem_append_left _ hmem, rfl⟩

theorem StoredParts.current (h : StoredParts given content)
    {network : app_storage_wifi_credentials_t}
    (hload : app_storage_load_wifi_credentials content = .ok network) :
    PartsGiven given network := by
  obtain ⟨hssid, hpassword⟩ := values_of_load_wifi_credentials hload
  exact ⟨h .sta_ssid network.ssid hssid, h .sta_password network.password hpassword⟩

theorem StoredParts.candidate (h : StoredParts given content)
    {candidate : app_storage_wifi_config_t}
    (hload : load_candidate_from_handle content = .ok candidate) :
    PartsGiven given candidate.credentials := by
  obtain ⟨hssid, hpassword, -, -⟩ := holds_of_load hload
  exact ⟨h .cand_ssid candidate.credentials.ssid hssid,
    h .cand_pass candidate.credentials.password hpassword⟩

theorem StoredParts.step {board : board_t} (h : StoredParts given board.content)
    (input : board_input) :
    StoredParts (given ++ (board.step secrets find_field input).2.toList)
      (board.step secrets find_field input).1.content := by
  cases hop : board.operation find_field input with
  | none => exact (h.append _).loses (step_loses hop)
  | some op =>
      obtain ⟨j, hcontent⟩ := step_operation secrets hop
      rw [hcontent]
      refine (h.append _).writes op j fun network hnetwork => ?_
      rcases board_step_writes secrets hop hnetwork with
        hsubmitted | ⟨candidate, hload, rfl⟩
      · rw [hsubmitted]
        exact PartsGiven.of_submitted (List.mem_append_right _ List.mem_cons_self)
      · exact (h.append _).candidate hload

end Stored

/-- **The networks that the station is told to join.** Each SSID and each password was handed in
before, in a form of the portal or with a command, whatever happens to the power and to the
storage. A step splits an SSID from its password only if it stops right behind its first write;
and if no step does, the two were handed in together. -/
theorem networks_given (inputs : List board_input) :
    (∀ before network after,
      board_history secrets find_field inputs = before ++ .joins network :: after →
        PartsGiven before network) ∧
      (∀ (board : board_t) (input : board_input), board.Splits secrets find_field input →
        ∃ op, board.operation find_field input = some op ∧
          (board.step secrets find_field input).1.content
            = KeyStore.applyAll ((op.writes board.content).take 1) board.content) ∧
      (Machine.AtEveryStep (board_t.step secrets find_field) board_new inputs
          (fun board input => ¬ board.Splits secrets find_field input) →
        ∀ before network after,
          board_history secrets find_field inputs = before ++ .joins network :: after →
            .submitted network ∈ before) := by
  refine ⟨?_, fun board input => splits_first secrets find_field, ?_⟩
  · intro before network after hhistory
    have hall : Machine.AtEveryStep (board_t.step secrets find_field) board_new inputs
        fun _ _ => True := fun _ _ _ _ => trivial
    refine joined_known secrets find_field (K := StoredParts) (M := PartsGiven) ?_
      (fun h => h.current) (fun h => h.candidate) (fun _ _ hvalue => (nomatch hvalue))
      (fun board given input h _ => h.step secrets find_field input) hall hhistory
    rintro given network events ⟨⟨ssid, hssid⟩, password, hpassword⟩
    exact ⟨⟨ssid, List.mem_append_left _ hssid.1, hssid.2⟩,
      password, List.mem_append_left _ hpassword.1, hpassword.2⟩
  · intro hwhole before network after hhistory
    refine joined_known secrets find_field
      (K := fun given content => Pairs (fun network => .submitted network ∈ given) content)
      (M := fun given network => .submitted network ∈ given) (fun _ hmem =>
        List.mem_append_left _ hmem) ?_ ?_ ⟨nofun, nofun⟩ ?_ hwhole hhistory
    · intro given content network hpairs hload
      obtain ⟨hssid, hpassword⟩ := values_of_load_wifi_credentials hload
      exact hpairs.current _ _ hssid hpassword
    · intro given content candidate hpairs hload
      obtain ⟨hssid, hpassword, -, -⟩ := holds_of_load hload
      exact hpairs.candidate _ _ hssid hpassword
    · intro board given input hpairs hsplits
      have hlater : Pairs (fun network => .submitted network ∈ given ++
          (board.step secrets find_field input).2.toList) board.content :=
        ⟨fun ssid password hssid hpassword =>
            List.mem_append_left _ (hpairs.current ssid password hssid hpassword),
          fun ssid password hssid hpassword =>
            List.mem_append_left _ (hpairs.candidate ssid password hssid hpassword)⟩
      cases hop : board.operation find_field input with
      | none => exact hlater.loses (step_loses hop)
      | some op =>
          obtain ⟨j, hcontent⟩ := step_operation secrets hop
          have hnothalf : ∀ network, written_network board.content op = some network →
              ¬ Half network board.content
                (KeyStore.applyAll ((op.writes board.content).take j) board.content) := by
            intro network hnetwork hhalf
            rw [← hcontent] at hhalf
            exact hsplits ⟨op, network, hop, hnetwork, hhalf⟩
          rw [hcontent]
          refine hlater.writes op j (fun network hnetwork => ?_) hnothalf
          rcases board_step_writes secrets hop hnetwork with
            hsubmitted | ⟨candidate, hload, rfl⟩
          · rw [hsubmitted]
            exact List.mem_append_right _ List.mem_cons_self
          · obtain ⟨hssid, hpassword, -, -⟩ := holds_of_load hload
            exact hlater.candidate _ _ hssid hpassword

end History

end WifiManager.Main
