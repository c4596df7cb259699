/-
What a promotion rests on.

A promotion names a request and a version, and trusts that the candidate with this pair
is the one that was tried. `Attempted` is the reason: while the candidate slot is in use,
what can be loaded is the candidate that was tried or one with a higher version, and the
last switch of the gateway was to the one that was tried. It holds for every order of the
tasks, on any content, and `promoted_was_tried` follows.

That the link behind the switch has been proved by MQTT is another matter: the
generation it is compared with is sampled in front of the switch. `promoted_on_evidence`
says that this is harmless where no connection is counted between the sample and the
switch, and `promoted_without_evidence` what happens otherwise.
-/
import WifiManager.AppStorage.Candidates
import WifiManager.Main.Candidate

set_option autoImplicit false

namespace WifiManager.Main

open WifiManager.Lib WifiManager.AppStorage WifiManager.WifiGateway

open upstream_wifi_slot_t

/-! ## The last switch -/

/-- The gateway was switched to these credentials and has not been switched since. -/
def SwitchedTo (history : List main_event) (credentials : app_storage_wifi_credentials_t)
    (later : List main_event) : Prop :=
  (∃ earlier, history = earlier ++ .wifi_gateway_connect_sta credentials .ESP_OK :: later) ∧
    ∀ other, main_event.wifi_gateway_connect_sta other .ESP_OK ∉ later

theorem switchedTo_now (history : List main_event)
    (credentials : app_storage_wifi_credentials_t) :
    SwitchedTo (history ++ [.wifi_gateway_connect_sta credentials .ESP_OK]) credentials [] :=
  ⟨⟨history, rfl⟩, fun _ => List.not_mem_nil⟩

/-- Everything but another switch. -/
theorem SwitchedTo.append {history later events : List main_event}
    {credentials : app_storage_wifi_credentials_t} (h : SwitchedTo history credentials later)
    (hevents : ∀ other, main_event.wifi_gateway_connect_sta other .ESP_OK ∉ events) :
    SwitchedTo (history ++ events) credentials (later ++ events) := by
  obtain ⟨⟨earlier, hearlier⟩, hlater⟩ := h
  constructor
  · exact ⟨earlier, by rw [hearlier, List.append_assoc, List.cons_append]⟩
  · intro other hmem
    exact (List.mem_append.mp hmem).elim (hlater other) (hevents other)

/-- The last switch, and, where the evidence is `counted`, what the sample says about it: a
connection behind the switch, or none since. -/
def LastSwitch (counted : Prop) (history : List main_event) (mqtt : app_mqtt_connection_state_t)
    (credentials : app_storage_wifi_credentials_t) (sample : UInt32) : Prop :=
  ∃ later, SwitchedTo history credentials later ∧
    (counted → .MQTT_CONNECTED ∈ later ∨ mqtt.generation = sample)

section LastSwitch

variable {counted : Prop} {history events : List main_event}
  {mqtt : app_mqtt_connection_state_t} {credentials : app_storage_wifi_credentials_t}
  {sample : UInt32}

theorem LastSwitch.append (h : LastSwitch counted history mqtt credentials sample)
    (hevents : ∀ other, main_event.wifi_gateway_connect_sta other .ESP_OK ∉ events) :
    LastSwitch counted (history ++ events) mqtt credentials sample := by
  obtain ⟨later, hswitched, hevidence⟩ := h
  refine ⟨later ++ events, hswitched.append hevents, fun hcounted => ?_⟩
  exact (hevidence hcounted).imp_left fun hmem => List.mem_append_left _ hmem

/-- A connection is counted; a lost one changes no generation. -/
theorem LastSwitch.set_connection_state (h : LastSwitch counted history mqtt credentials sample)
    (connected : Bool) :
    LastSwitch counted (history ++ (if connected then some main_event.MQTT_CONNECTED
      else none).toList) (Main.set_connection_state connected mqtt) credentials sample := by
  obtain ⟨later, hswitched, hevidence⟩ := h
  rcases connected with - | -
  · refine ⟨later ++ [], hswitched.append fun _ => List.not_mem_nil, fun hcounted => ?_⟩
    exact (hevidence hcounted).imp_left fun hmem => List.mem_append_left _ hmem
  · refine ⟨later ++ [.MQTT_CONNECTED], hswitched.append (by simp), fun _ => .inl ?_⟩
    exact List.mem_append_right _ (List.mem_singleton_self _)

end LastSwitch

/-! ## The invariant -/

/-- A candidate is still there, or a newer one has taken its place. -/
def Present (content : nvs_content) (candidate : app_storage_wifi_config_t) : Prop :=
  ∃ pending, load_candidate_from_handle content = .ok pending ∧
    (pending = candidate ∨ candidate.config_version < pending.config_version)

theorem Present.stage {content : nvs_content} {candidate : app_storage_wifi_config_t}
    (h : Present content candidate) (config : Option app_storage_wifi_config_t) :
    Present (call_storage (app_storage_stage_candidate_wifi_config config) content).2
      candidate := by
  obtain ⟨pending, hload, hpending⟩ := h
  obtain ⟨newer, hnewer, hstaged⟩ := stage_candidate config hload
  refine ⟨newer, hnewer, ?_⟩
  obtain rfl | hhigher := hstaged
  · exact hpending
  · right
    obtain rfl | hlower := hpending
    · exact hhigher
    · exact UInt32.lt_trans hlower hhigher

theorem Present.congr {content content' : nvs_content} {candidate : app_storage_wifi_config_t}
    (h : Present content candidate)
    (hload : load_candidate_from_handle content' = load_candidate_from_handle content) :
    Present content' candidate := by
  unfold Present
  rw [hload]
  exact h

/-- The candidate in a local variable of `start_candidate_wifi_attempt`. -/
def main_pc.candidate : main_pc → Option app_storage_wifi_config_t
  | .candidate_generation _ candidate => some candidate
  | .candidate_connect _ candidate _ => some candidate
  | .candidate_assign _ candidate _ => some candidate
  | _ => none

/-- The static variables say what has been switched to and promoted: no assignment is
pending. -/
def main_pc.Assigned : main_pc → Prop
  | .candidate_assign _ _ _ => False
  | .promote_assign => False
  | _ => True

/-- Behind the first check of `promote_verified_candidate_if_ready`. -/
def main_pc.Promoting : main_pc → Prop
  | .promote_generation => True
  | .promote_call => True
  | .promote_assign => True
  | _ => False

/-- **What an attempt keeps**, with the evidence as far as it is `counted`. -/
structure Attempted (counted : Prop) (w : main_world) (history : List main_event) : Prop where
  slot : w.pc.Promoting → w.main.s_upstream_wifi_slot = CANDIDATE
  held : ∀ candidate, w.pc.candidate = some candidate → Present w.content candidate
  present : w.main.s_upstream_wifi_slot = CANDIDATE → w.pc ≠ .promote_assign →
    Present w.content w.main.s_candidate_config
  switched : w.main.s_upstream_wifi_slot = CANDIDATE →
    (∀ caller candidate generation, w.pc ≠ .candidate_assign caller candidate generation) →
      LastSwitch counted history w.mqtt w.main.s_candidate_config.credentials
        w.main.s_candidate_mqtt_generation
  assigning : ∀ caller candidate generation,
    w.pc = .candidate_assign caller candidate generation →
      LastSwitch counted history w.mqtt candidate.credentials generation
  evidence : counted → w.pc = .promote_call → ∃ later,
    SwitchedTo history w.main.s_candidate_config.credentials later ∧ .MQTT_CONNECTED ∈ later

/-- The sample was taken in front of the switch and is still the generation at the switch. -/
def SampleKept (w : main_world) (e : main_input) : Prop :=
  ∀ caller candidate generation credentials,
    w.pc = .candidate_connect caller candidate generation →
    (w.step e).2 = some (.wifi_gateway_connect_sta credentials .ESP_OK) →
      w.mqtt.generation = generation

theorem attempted_booted (counted : Prop) {w : main_world} (h : Booted w) :
    Attempted counted w [] := by
  have hslot : w.main.s_upstream_wifi_slot ≠ CANDIDATE := by
    rw [h.slot]
    decide
  refine ⟨?_, ?_, fun hc => absurd hc hslot, fun hc => absurd hc hslot, ?_, ?_⟩
  · rw [h.pc]
    exact False.elim
  · rw [h.pc]
    rintro candidate ⟨⟩
  · rw [h.pc]
    rintro caller candidate generation ⟨⟩
  · rw [h.pc]
    rintro - ⟨⟩

/-! ## Steps -/

section Steps

variable {counted : Prop} {w : main_world} {history : List main_event}

/-- Another task: the program of the main task stays where it is. -/
theorem Attempted.other (h : Attempted counted w history) {w' : main_world}
    {events : List main_event} (hmain : w'.main = w.main) (hpc : w'.pc = w.pc)
    (hpresent : ∀ candidate, Present w.content candidate → Present w'.content candidate)
    (hswitch : ∀ credentials sample,
      LastSwitch counted history w.mqtt credentials sample →
        LastSwitch counted (history ++ events) w'.mqtt credentials sample)
    (hevents : ∀ other, main_event.wifi_gateway_connect_sta other .ESP_OK ∉ events) :
    Attempted counted w' (history ++ events) := by
  constructor
  · rw [hpc, hmain]
    exact h.slot
  · rw [hpc]
    exact fun candidate hc => hpresent candidate (h.held candidate hc)
  · rw [hpc, hmain]
    exact fun hslot hne => hpresent _ (h.present hslot hne)
  · rw [hpc, hmain]
    exact fun hslot hne => hswitch _ _ (h.switched hslot hne)
  · rw [hpc]
    exact fun caller candidate generation hc =>
      hswitch _ _ (h.assigning caller candidate generation hc)
  · rw [hpc, hmain]
    intro hcounted hc
    obtain ⟨later, hswitched, hmem⟩ := h.evidence hcounted hc
    exact ⟨later ++ events, hswitched.append hevents, List.mem_append_left _ hmem⟩

/-- A step of the main task that assigns nothing and switches nothing, to a place outside
of the promotion. -/
theorem Attempted.moves (h : Attempted counted w history) {w' : main_world}
    {events : List main_event} (hmain : w'.main = w.main) (hmqtt : w'.mqtt = w.mqtt)
    (hpresent : ∀ candidate, Present w.content candidate → Present w'.content candidate)
    (hevents : ∀ other, main_event.wifi_gateway_connect_sta other .ESP_OK ∉ events)
    (hfrom : w.pc.Assigned) (hto : w'.pc.Assigned ∧ ¬ w'.pc.Promoting)
    (hheld : ∀ candidate, w'.pc.candidate = some candidate → Present w'.content candidate) :
    Attempted counted w' (history ++ events) := by
  constructor
  · exact fun hc => absurd hc hto.2
  · exact hheld
  · rw [hmain]
    -- both ends of the step are behind the assignment, where the invariant is in force
    intro hslot _
    refine hpresent _ (h.present hslot ?_)
    rintro hpc
    rw [hpc] at hfrom
    exact hfrom
  · rw [hmain, hmqtt]
    intro hslot _
    refine (h.switched hslot ?_).append hevents
    intro caller candidate generation hpc
    rw [hpc] at hfrom
    exact hfrom
  · intro caller candidate generation hpc
    rw [hpc] at hto
    exact hto.1.elim
  · intro _ hpc
    rw [hpc] at hto
    exact absurd trivial hto.2

/-- Such a step that gives nothing out and leaves the storage alone. -/
theorem Attempted.goes (h : Attempted counted w history) (pc : main_pc)
    (hfrom : w.pc.Assigned) (hto : pc.Assigned ∧ ¬ pc.Promoting)
    (hheld : ∀ candidate, pc.candidate = some candidate → Present w.content candidate) :
    Attempted counted { w with pc := pc } (history ++ []) :=
  h.moves rfl rfl (fun _ hc => hc) (fun _ => List.not_mem_nil) hfrom hto hheld

/-- The check of the slot, and the places at which nothing can go wrong. -/
theorem Attempted.promote_status (h : Attempted counted w history)
    (hpc : w.pc = .promote_status) (results : sta_results) :
    Attempted counted (w.main_step results).1
      (history ++ (w.main_step results).2.toList) := by
  have hfrom : w.pc.Assigned := by
    rw [hpc]
    trivial
  rw [main_world.main_step, hpc]
  dsimp only
  split_ifs with hother
  · exact h.goes .loop hfrom ⟨trivial, id⟩ (by rintro _ ⟨⟩)
  · obtain ⟨hslot, -⟩ := not_or.mp hother
    have hcandidate := not_not.mp hslot
    have hpresent := h.present hcandidate (by rw [hpc]; simp)
    have hswitched := h.switched hcandidate (by rw [hpc]; simp)
    refine ⟨fun _ => hcandidate, ?_, fun _ _ => hpresent, fun _ _ => ?_, ?_, ?_⟩
    · rintro _ ⟨⟩
    · exact hswitched.append fun _ => List.not_mem_nil
    · rintro _ _ _ ⟨⟩
    · rintro - ⟨⟩

/-- The check of the evidence. -/
theorem Attempted.promote_generation (h : Attempted counted w history)
    (hpc : w.pc = .promote_generation) (results : sta_results) :
    Attempted counted (w.main_step results).1
      (history ++ (w.main_step results).2.toList) := by
  have hslot := h.slot (by rw [hpc]; trivial)
  have hpresent := h.present hslot (by rw [hpc]; simp)
  have hswitched := h.switched hslot (by rw [hpc]; simp)
  rw [main_world.main_step, hpc]
  dsimp only
  split_ifs with hmissing
  · exact h.goes .loop (by rw [hpc]; trivial) ⟨trivial, id⟩ (by rintro _ ⟨⟩)
  · refine ⟨fun _ => hslot, ?_, fun _ _ => hpresent, fun _ _ => ?_, ?_, ?_⟩
    · rintro _ ⟨⟩
    · exact hswitched.append fun _ => List.not_mem_nil
    · rintro _ _ _ ⟨⟩
    · -- a generation above the sample has been counted behind the switch
      intro hcounted _
      obtain ⟨later, hlater, hevidence⟩ := hswitched
      obtain hmem | hsame := hevidence hcounted
      · exact ⟨later ++ [], hlater.append fun _ => List.not_mem_nil,
          List.mem_append_left _ hmem⟩
      · refine absurd (.inr ?_) hmissing
        rw [hsame]
        exact UInt32.le_refl _

/-- The call of the promotion. -/
theorem Attempted.promote_call (h : Attempted counted w history) (hpc : w.pc = .promote_call)
    (results : sta_results) :
    Attempted counted (w.main_step results).1
      (history ++ (w.main_step results).2.toList) := by
  have hslot := h.slot (by rw [hpc]; trivial)
  have hswitched := h.switched hslot (by rw [hpc]; simp)
  rw [main_world.main_step, hpc]
  dsimp only
  -- behind a success only the assignment is left, and the slot is not looked at any more
  by_cases hok : (call_storage (app_storage_promote_candidate_wifi_config
      (some w.main.s_candidate_config.request_id) w.main.s_candidate_config.config_version)
      w.content).1 = some .ESP_OK
  · rw [if_pos hok]
    refine ⟨fun _ => hslot, ?_, fun _ hne => absurd rfl hne, fun _ _ => ?_, ?_, ?_⟩
    · rintro _ ⟨⟩
    · exact hswitched.append (by simp)
    · rintro _ _ _ ⟨⟩
    · rintro - ⟨⟩
  · -- nothing has been written, and the main task goes back or tries again
    have hsame := promote_failed hok
    rw [if_neg hok]
    refine h.moves rfl rfl ?_ (by simp) (by rw [hpc]; trivial) ?_ ?_
    · intro candidate hc
      exact hc.congr (congrArg load_candidate_from_handle hsame)
    · dsimp only
      split_ifs
      · exact ⟨trivial, id⟩
      · exact ⟨trivial, id⟩
    · dsimp only
      split_ifs
      · rintro _ ⟨⟩
      · rintro _ ⟨⟩

/-- **The switch**: the call of `wifi_gateway_connect_sta`. -/
theorem Attempted.connect (h : Attempted counted w history) {caller : attempt_caller}
    {candidate : app_storage_wifi_config_t} {generation : UInt32}
    (hpc : w.pc = .candidate_connect caller candidate generation) (results : sta_results)
    (hsample : counted → SampleKept w (.main results)) :
    Attempted counted (w.main_step results).1
      (history ++ (w.main_step results).2.toList) := by
  have hheld := h.held candidate (by rw [hpc]; rfl)
  -- whatever the driver says, the state and the event have this shape
  have hstep : ∃ gateway err, w.main_step results
      = ({ w with
            gateway := gateway
            pc := if err = .ESP_OK then .candidate_assign caller candidate generation
              else .candidate_failed caller err },
          some (.wifi_gateway_connect_sta candidate.credentials err)) := by
    rw [main_world.main_step, hpc]
    exact ⟨_, _, rfl⟩
  obtain ⟨gateway, err, hstep⟩ := hstep
  rw [hstep]
  by_cases hok : err = .ESP_OK
  · subst hok
    rw [if_pos rfl]
    refine ⟨False.elim, ?_, ?_, fun _ hne => absurd rfl (hne _ _ _), ?_, ?_⟩
    · rintro _ ⟨⟩
      exact hheld
    · intro hslot _
      exact h.present hslot (by rw [hpc]; simp)
    · -- the sample is the generation of now, so a higher one is later evidence
      rintro _ _ _ ⟨⟩
      refine ⟨[], switchedTo_now history candidate.credentials, fun hcounted => .inr ?_⟩
      exact hsample hcounted caller candidate generation candidate.credentials hpc
        (congrArg Prod.snd hstep)
    · rintro - ⟨⟩
  · rw [if_neg hok]
    refine h.moves rfl rfl (fun _ hc => hc) ?_ (by rw [hpc]; trivial) ⟨trivial, id⟩ ?_
    · intro other
      simp [eq_comm, hok]
    · rintro _ ⟨⟩

/-- The assignments behind the switch. -/
theorem Attempted.assign (h : Attempted counted w history) {caller : attempt_caller}
    {candidate : app_storage_wifi_config_t} {generation : UInt32}
    (hpc : w.pc = .candidate_assign caller candidate generation) (results : sta_results) :
    Attempted counted (w.main_step results).1
      (history ++ (w.main_step results).2.toList) := by
  have hheld := h.held candidate (by rw [hpc]; rfl)
  have hswitched := h.assigning caller candidate generation hpc
  rw [main_world.main_step, hpc]
  refine ⟨fun _ => rfl, ?_, fun _ _ => hheld, fun _ _ => hswitched.append (by simp), ?_, ?_⟩
  · rintro _ ⟨⟩
  · rintro _ _ _ ⟨⟩
  · rintro - ⟨⟩

/-- The assignments behind the promotion: the candidate slot is left. -/
theorem Attempted.promote_assign (hpc : w.pc = .promote_assign) (results : sta_results) :
    Attempted counted (w.main_step results).1
      (history ++ (w.main_step results).2.toList) := by
  rw [main_world.main_step, hpc]
  refine ⟨False.elim, ?_, ?_, ?_, ?_, ?_⟩
  · rintro _ ⟨⟩
  · rintro ⟨⟩
  · rintro ⟨⟩
  · rintro _ _ _ ⟨⟩
  · rintro - ⟨⟩

/-- Calls of the storage that leave the candidate alone. -/
theorem Attempted.storage (h : Attempted counted w history) {w' : main_world}
    (hmain : w'.main = w.main) (hmqtt : w'.mqtt = w.mqtt)
    (hload : load_candidate_from_handle w'.content = load_candidate_from_handle w.content)
    (hfrom : w.pc.Assigned) (hto : w'.pc = .loop ∨ w'.pc = .restart) :
    Attempted counted w' (history ++ []) := by
  refine h.moves hmain hmqtt (fun _ hc => hc.congr hload) (fun _ => List.not_mem_nil) hfrom ?_ ?_
  · obtain hpc | hpc := hto
    · rw [hpc]
      exact ⟨trivial, id⟩
    · rw [hpc]
      exact ⟨trivial, id⟩
  · obtain hpc | hpc := hto
    · rw [hpc]
      rintro _ ⟨⟩
    · rw [hpc]
      rintro _ ⟨⟩

/-- **One step of the main task.** -/
theorem Attempted.main_step (h : Attempted counted w history) (results : sta_results)
    (hsample : counted → SampleKept w (.main results)) :
    Attempted counted (w.main_step results).1
      (history ++ (w.main_step results).2.toList) := by
  obtain ⟨pc, hpc⟩ : ∃ pc, w.pc = pc := ⟨_, rfl⟩
  cases pc with
  | loop =>
      -- the loop looks at the status and goes to one of four places, in each of which
      -- the invariant asks for nothing new
      have hgoes : ∀ pc, pc.Assigned ∧ ¬ pc.Promoting → pc.candidate = none →
          Attempted counted { w with pc := pc } (history ++ []) := by
        intro pc hto hnone
        refine h.goes pc (by rw [hpc]; trivial) hto ?_
        rw [hnone]
        rintro _ ⟨⟩
      rw [main_world.main_step, hpc]
      dsimp only
      split
      · split_ifs
        · exact hgoes .retained ⟨trivial, id⟩ rfl
        · exact hgoes (.candidate_load .recovery) ⟨trivial, id⟩ rfl
      · split_ifs
        · exact hgoes (.candidate_load .unreachable) ⟨trivial, id⟩ rfl
        · exact hgoes .retained ⟨trivial, id⟩ rfl
      · exact hgoes .promote_status ⟨trivial, id⟩ rfl
  | promote_status => exact h.promote_status hpc results
  | promote_generation => exact h.promote_generation hpc results
  | promote_call => exact h.promote_call hpc results
  | promote_assign => exact .promote_assign hpc results
  | candidate_load caller =>
      rw [main_world.main_step, hpc]
      dsimp only
      rcases hload : app_storage_load_candidate_wifi_config w.content with err | candidate
      · exact h.goes (.candidate_failed caller err) (by rw [hpc]; trivial) ⟨trivial, id⟩
          (by rintro _ ⟨⟩)
      · refine h.goes (.candidate_generation caller candidate) (by rw [hpc]; trivial)
          ⟨trivial, id⟩ ?_
        rintro _ ⟨⟩
        -- the candidate that is held was in the slot when it was loaded
        exact ⟨candidate, hload, .inl rfl⟩
  | candidate_generation caller candidate =>
      rw [main_world.main_step, hpc]
      refine h.goes (.candidate_connect caller candidate w.mqtt.generation)
        (by rw [hpc]; trivial) ⟨trivial, id⟩ ?_
      rintro _ ⟨⟩
      exact h.held candidate (by rw [hpc]; rfl)
  | candidate_connect caller candidate generation => exact h.connect hpc results hsample
  | candidate_assign caller candidate generation => exact h.assign hpc results
  | candidate_failed caller err =>
      rw [main_world.main_step, hpc]
      dsimp only
      split_ifs
      · exact h.goes .clear (by rw [hpc]; trivial) ⟨trivial, id⟩ (by rintro _ ⟨⟩)
      · exact h.goes .retained (by rw [hpc]; trivial) ⟨trivial, id⟩ (by rintro _ ⟨⟩)
  | retained =>
      rw [main_world.main_step, hpc]
      refine h.storage rfl rfl ?_ (by rw [hpc]; trivial) (.inl rfl)
      -- the recovery flags are other keys than the candidate's
      exact increment_recovery_retry_candidate.trans set_recovery_triggered_candidate
  | clear =>
      rw [main_world.main_step, hpc]
      refine h.storage rfl rfl ?_ (by rw [hpc]; trivial) ?_
      · exact clear_candidate
      · dsimp only
        split_ifs
        · exact .inr rfl
        · exact .inl rfl
  -- nothing is run behind the restart
  | restart =>
      rw [main_world.main_step, hpc]
      exact h.storage rfl rfl rfl (by rw [hpc]; trivial) (.inr hpc)

/-- **One step of any task.** -/
theorem Attempted.step (h : Attempted counted w history) (e : main_input)
    (hsample : counted → SampleKept w e) :
    Attempted counted (w.step e).1 (history ++ (w.step e).2.toList) := by
  rcases e with results | config | ⟨esp_wifi_connect, event⟩ | connected
  · exact h.main_step results hsample
  · exact h.other rfl rfl (fun _ hc => hc.stage config)
      (fun _ _ hc => hc.append fun _ => List.not_mem_nil) (fun _ => List.not_mem_nil)
  · exact h.other rfl rfl (fun _ hc => hc)
      (fun _ _ hc => hc.append fun _ => List.not_mem_nil) (fun _ => List.not_mem_nil)
  · refine h.other rfl rfl (fun _ hc => hc) (fun _ _ hc => hc.set_connection_state connected) ?_
    intro other
    rcases connected with - | -
    · exact List.not_mem_nil
    · simp [main_world.step]

end Steps

/-! ## What is promoted -/

/-- A promotion is called at one place. -/
theorem promote_event {w : main_world} {e : main_input} {request_id : c_string}
    {version : UInt32} {err : Option esp_err_t}
    (h : (w.step e).2 = some (.promote_candidate request_id version err)) :
    ∃ results, e = .main results ∧ w.pc = .promote_call := by
  rcases e with results | config | ⟨esp_wifi_connect, event⟩ | connected
  · refine ⟨results, rfl, ?_⟩
    obtain ⟨pc, hpc⟩ : ∃ pc, w.pc = pc := ⟨_, rfl⟩
    rw [main_world.step, main_world.main_step, hpc] at h
    -- no other step of the main task makes this event
    cases pc with
    | promote_call => exact hpc
    | loop =>
        dsimp only at h
        split at h
        · split_ifs at h
        · split_ifs at h
        · cases h
    | promote_status =>
        dsimp only at h
        split_ifs at h
    | promote_generation =>
        dsimp only at h
        split_ifs at h
    | candidate_load caller =>
        dsimp only at h
        split at h <;> cases h
    | candidate_failed caller err =>
        dsimp only at h
        split_ifs at h
    | _ => cases h
  · cases h
  · cases h
  · rcases connected with - | - <;> cases h

/-- The other tasks leave the main task where it is. -/
theorem run_others {others : List main_input}
    (hothers : ∀ e ∈ others, ∀ results, e ≠ .main results) (w : main_world) :
    (w.run others).main = w.main ∧ (w.run others).pc = w.pc := by
  induction others generalizing w with
  | nil => exact ⟨rfl, rfl⟩
  | cons e others ih =>
      obtain ⟨hfirst, hrest⟩ := List.forall_mem_cons.mp hothers
      have hstep : (w.step e).1.main = w.main ∧ (w.step e).1.pc = w.pc := by
        rcases e with results | config | ⟨esp_wifi_connect, event⟩ | connected
        · exact absurd rfl (hfirst results)
        · exact ⟨rfl, rfl⟩
        · exact ⟨rfl, rfl⟩
        · exact ⟨rfl, rfl⟩
      obtain ⟨hmain, hpc⟩ := ih hrest (w.step e).1
      exact ⟨hmain.trans hstep.1, hpc.trans hstep.2⟩

/-- Every run from a start keeps what an attempt keeps. -/
theorem attempted_run {counted : Prop} {w : main_world} (hboot : Booted w)
    {inputs : List main_input}
    (hsample : Machine.AtEveryStep main_world.step w inputs fun w e => counted → SampleKept w e) :
    Attempted counted (w.run inputs) (w.history inputs) :=
  Machine.run_recorded (I := Attempted counted) (fun _ _ e h hkept => h.step e hkept)
    (attempted_booted counted hboot) hsample

/-- **Only what was tried is promoted.** In every run of the tasks, whenever a promotion
succeeds, the current slot then holds the credentials of the last successful switch of the
gateway, and these are the ones that the main task assigns next. -/
theorem promoted_was_tried (w : main_world) (hboot : Booted w) (before : List main_input)
    (e : main_input) (request_id : c_string) (version : UInt32)
    (hok : ((w.run before).step e).2
      = some (.promote_candidate request_id version (some .ESP_OK))) :
    let w' := ((w.run before).step e).1
    ∃ credentials, w'.content .sta_ssid = some credentials.ssid ∧
      w'.content .sta_password = some credentials.password ∧
      (∃ later, SwitchedTo (w.history before) credentials later) ∧
      ∀ others results, (∀ e ∈ others, ∀ results, e ≠ .main results) →
        (w'.run (others ++ [.main results])).main.s_wifi_credentials = credentials := by
  intro w'
  -- no assumption on the samples is needed here: the evidence is not the question
  have h : Attempted False (w.run before) (w.history before) :=
    attempted_run hboot fun _ _ _ _ hc => hc.elim
  obtain ⟨results, rfl, hpc⟩ := promote_event hok
  have hslot := h.slot (by rw [hpc]; trivial)
  obtain ⟨pending, hload, hpending⟩ := h.present hslot (by rw [hpc]; simp)
  obtain ⟨later, hswitched, -⟩ := h.switched hslot (by rw [hpc]; simp)
  have hstep : w' = ((w.run before).main_step results).1 := rfl
  rw [main_world.step, main_world.main_step, hpc] at hok
  rw [main_world.main_step, hpc] at hstep
  dsimp only at hok hstep
  obtain ⟨rfl, rfl, hpromoted⟩ := main_event.promote_candidate.inj (Option.some.inj hok)
  obtain ⟨moved, hmoved, -, hversion, hssid, hpassword⟩ := promote_candidate hpromoted
  -- the promoted candidate has the version that was tried, so it is the one that was tried
  obtain rfl : pending = moved := Except.ok.inj (hload.symm.trans hmoved)
  have hsame : pending = (w.run before).main.s_candidate_config := by
    obtain hsame | hnewer := hpending
    · exact hsame
    · rw [hversion] at hnewer
      exact absurd hnewer (UInt32.lt_irrefl _)
  rw [if_pos hpromoted] at hstep
  rw [← hsame] at hswitched
  refine ⟨pending.credentials, ?_, ?_, ⟨later, hswitched⟩, ?_⟩
  · rw [hstep]
    exact hssid
  · rw [hstep]
    exact hpassword
  · intro others results' hothers
    -- the other tasks leave the main task's variables alone
    obtain ⟨hmain, hpc'⟩ := run_others hothers w'
    have hassign : (w'.run (others ++ [.main results']))
        = ((w'.run others).main_step results').1 :=
      Machine.run_append main_world.step w' others [.main results']
    have hnext : (w'.run others).pc = .promote_assign := by
      rw [hpc', hstep]
    rw [hassign, main_world.main_step, hnext, hsame]
    change (w'.run others).main.s_candidate_config.credentials = _
    rw [hmain, hstep]

/-! ## The evidence -/

/-- A sample is only compared at a switch that succeeds. -/
def sample_kept (w : main_world) (e : main_input) : Bool :=
  match w.pc, (w.step e).2 with
  | .candidate_connect _ _ generation, some (.wifi_gateway_connect_sta _ .ESP_OK) =>
      w.mqtt.generation = generation
  | _, _ => true

theorem sampleKept_iff (w : main_world) (e : main_input) :
    SampleKept w e ↔ sample_kept w e = true := by
  unfold sample_kept
  constructor
  · intro h
    split
    · next caller candidate generation credentials hpc hevent =>
        exact decide_eq_true (h caller candidate generation credentials hpc hevent)
    · rfl
  · intro h caller candidate generation credentials hpc hevent
    rw [hpc, hevent] at h
    exact of_decide_eq_true h

instance (w : main_world) (e : main_input) : Decidable (SampleKept w e) :=
  decidable_of_iff' _ (sampleKept_iff w e)

/-- **A promotion rests on evidence.** In every run in which no MQTT connection is counted
between the sample of the generation and the switch it belongs to, a promotion is called
only when MQTT has connected behind the last switch, which was to the candidate that is to
be promoted. -/
theorem promoted_on_evidence (w : main_world) (hboot : Booted w) (inputs : List main_input)
    (hsample : Machine.AtEveryStep main_world.step w inputs SampleKept) :
    ∀ before e after request_id version err, inputs = before ++ e :: after →
      ((w.run before).step e).2 = some (.promote_candidate request_id version err) →
        ∃ later, SwitchedTo (w.history before)
            (w.run before).main.s_candidate_config.credentials later ∧
          main_event.MQTT_CONNECTED ∈ later := by
  rintro before e after request_id version err rfl hcalled
  have h : Attempted True (w.run before) (w.history before) := by
    apply attempted_run hboot
    intro earlier e' later hbefore _
    exact hsample earlier e' (later ++ e :: after)
      (by rw [hbefore, List.append_assoc, List.cons_append])
  obtain ⟨-, -, hpc⟩ := promote_event hcalled
  exact h.evidence trivial hpc

/-! ## Two boots -/

/-- A gateway that has lost its upstream link, with an empty storage. -/
def sample_boot : main_world where
  main := ⟨⟨[], []⟩, no_candidate, CURRENT, 0⟩
  pc := .loop
  gateway := { wifi_gateway_t.init with s_status := .STA_UNREACHABLE }
  mqtt := ⟨false, 0⟩
  content := fun _ => none

/-- Two candidates. -/
def sample_candidate (version : UInt32) : app_storage_wifi_config_t :=
  ⟨⟨[0x68, UInt8.ofNat version.toNat], List.replicate 8 0x31⟩,
    [0x72, UInt8.ofNat version.toNat], version⟩

/-- Steps of the main task whose driver calls succeed. -/
def sample_main (steps : ℕ) : List main_input :=
  List.replicate steps (.main ⟨.ESP_OK, .ESP_OK, .ESP_OK⟩)

/-- The old link goes, and the new one gets an address. -/
def sample_link : List main_input :=
  [.wifi .ESP_OK (.STA_DISCONNECTED (some 8)), .wifi .ESP_OK (.STA_GOT_IP 192 168 1 7)]

/-- A candidate is staged, tried and proved, up to the call of the promotion. -/
def sample_attempt : List main_input :=
  [.stage (some (sample_candidate 1))] ++ sample_main 5 ++ sample_link ++ [.mqtt true] ++
    sample_main 3

theorem promoted_was_tried_sample :
    let w' := ((sample_boot.run sample_attempt).step (.main ⟨.ESP_OK, .ESP_OK, .ESP_OK⟩)).1
    ∃ credentials, w'.content .sta_ssid = some credentials.ssid ∧
      w'.content .sta_password = some credentials.password ∧
      (∃ later, SwitchedTo (sample_boot.history sample_attempt) credentials later) ∧
      ∀ others results, (∀ e ∈ others, ∀ results, e ≠ .main results) →
        (w'.run (others ++ [.main results])).main.s_wifi_credentials = credentials :=
  promoted_was_tried sample_boot ⟨rfl, rfl⟩ sample_attempt _ [0x72, 1] 1 (by decide +kernel)

theorem promoted_on_evidence_sample :
    ∃ later, SwitchedTo (sample_boot.history sample_attempt)
        (sample_boot.run sample_attempt).main.s_candidate_config.credentials later ∧
      main_event.MQTT_CONNECTED ∈ later :=
  promoted_on_evidence sample_boot ⟨rfl, rfl⟩ (sample_attempt ++ sample_main 1)
    (by decide +kernel) sample_attempt _ [] [0x72, 1] 1 (some .ESP_OK) rfl (by decide +kernel)

/-- A newer candidate is staged before the promotion. The main task samples the generation
and switches to it, and in between MQTT loses its connection and connects once more over the old
link. -/
def sample_resampled : List main_input :=
  sample_attempt ++ [.stage (some (sample_candidate 2))] ++ sample_main 3 ++
    [.mqtt false, .mqtt true] ++ sample_main 2 ++ sample_link ++ sample_main 3

/-- The newer candidate is promoted although MQTT has not connected since the switch. -/
theorem promoted_without_evidence :
    ((sample_boot.run sample_resampled).step (.main ⟨.ESP_OK, .ESP_OK, .ESP_OK⟩)).2
        = some (.promote_candidate [0x72, 2] 2 (some .ESP_OK)) ∧
      ¬ ∃ credentials later, SwitchedTo (sample_boot.history sample_resampled) credentials later ∧
        main_event.MQTT_CONNECTED ∈ later := by
  refine ⟨by decide +kernel, ?_⟩
  rintro ⟨credentials, later, ⟨⟨earlier, hearlier⟩, hlater⟩, hmem⟩
  -- the switch is the last event, so nothing is behind it
  have hlast : (sample_boot.history sample_resampled).getLast?
      = some (.wifi_gateway_connect_sta (sample_candidate 2).credentials .ESP_OK) := by
    decide +kernel
  obtain rfl | ⟨events, event, rfl⟩ := List.eq_nil_or_concat later
  · cases hmem
  · rw [List.concat_eq_append] at hearlier hlater
    rw [hearlier, ← List.cons_append, ← List.append_assoc, List.getLast?_concat] at hlast
    obtain rfl := Option.some.inj hlast
    exact hlater _ (List.mem_append_right _ (List.mem_singleton_self _))

end WifiManager.Main
