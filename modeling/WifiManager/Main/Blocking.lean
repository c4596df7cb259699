/-
What BLOCK_TRAFFIC blocks, and for how long.

The tables of the filter are written by one call, which one command makes. `blocks_since` reads
them off a run of the firmware: a destination is blocked, or a host name has a rule, if and only if
a BLOCK_TRAFFIC that names it has been reported as a success and the firmware has not started again
since. Nothing else adds a rule, and nothing but a start takes one away.
-/
import WifiManager.Main.Firmware

set_option autoImplicit false

namespace WifiManager.Main

open WifiManager.Lib WifiManager.AppCommand WifiManager.AppStorage WifiManager.AppMqtt
  WifiManager.ClientAccess WifiManager.AccessFilter

/-! ## The rules behind a call -/

/-- The name that `check_sni` makes of a second argument. -/
theorem check_sni_names {sni normalized_hostname : Option c_string}
    (h : check_sni sni = .ok normalized_hostname) (hostname : c_string) :
    hostname ∈ normalized_hostname ↔
      ∃ text, sni = some text ∧ text ≠ [] ∧ normalize_hostname text = .ok hostname := by
  rcases sni with - | text
  · obtain rfl := Except.ok.inj h
    refine ⟨nofun, ?_⟩
    rintro ⟨text, htext, -⟩
    cases htext
  rw [check_sni] at h
  by_cases hempty : text = []
  · rw [if_pos hempty] at h
    obtain rfl := Except.ok.inj h
    refine ⟨nofun, ?_⟩
    rintro ⟨text', htext, hne, -⟩
    rw [← Option.some.inj htext] at hne
    exact absurd hempty hne
  · rw [if_neg hempty] at h
    cases hnormal : normalize_hostname text with
    | error err =>
        rw [hnormal] at h
        cases h
    | ok name =>
        rw [hnormal] at h
        rw [← Except.ok.inj h]
        constructor
        · intro hname
          exact ⟨text, rfl, hempty, by rw [hnormal, Option.some.inj hname]⟩
        · rintro ⟨text', htext, -, hnormal'⟩
          obtain rfl := Option.some.inj htext
          exact congrArg some (Except.ok.inj (hnormal.symm.trans hnormal'))

/-- The host names behind a call: one more, if it succeeds and names one. -/
theorem block_traffic_hostnames {lwip : lwip_t} (filter : access_filter_t)
    (destination_ipv4 sni : Option c_string) (hostname : c_string) :
    hostname ∈ (access_filter_block_traffic lwip filter destination_ipv4
        sni).1.s_blocked_hostnames ↔
      hostname ∈ filter.s_blocked_hostnames ∨
        ∃ text, sni = some text ∧ text ≠ [] ∧ normalize_hostname text = .ok hostname ∧
          (access_filter_block_traffic lwip filter destination_ipv4 sni).2 = .ESP_OK := by
  rcases block_traffic_cases lwip filter destination_ipv4 sni with
    ⟨hsame, herr⟩ | ⟨candidate, normalized_hostname, -, hsni, hok, hinstalled⟩
  · rw [hsame]
    refine ⟨.inl, fun h => h.elim id ?_⟩
    rintro ⟨-, -, -, -, hok⟩
    exact absurd hok herr
  · have hnamed : hostname ∈ normalized_hostname ↔
        ∃ text, sni = some text ∧ text ≠ [] ∧ normalize_hostname text = .ok hostname :=
      check_sni_names hsni hostname
    constructor
    · intro hmem
      refine (hinstalled.hostnames_new hostname hmem).imp_right fun hnew => ?_
      obtain ⟨text, htext, hne, hnormal⟩ := hnamed.mp hnew
      exact ⟨text, htext, hne, hnormal, hok⟩
    · rintro (hmem | ⟨text, htext, hne, hnormal, -⟩)
      · exact hinstalled.hostnames.subset hmem
      · exact hinstalled.hostname hostname (hnamed.mpr ⟨text, htext, hne, hnormal⟩)

/-- The call of `access_filter_block_traffic` that succeeds and names this host. -/
def NamesHostname (lwip : lwip_t) (hostname : c_string) (gateway : gateway_t)
    (input : gateway_input) : Prop :=
  ∃ destination_ipv4 text, input = .block_traffic destination_ipv4 (some text) ∧ text ≠ [] ∧
    normalize_hostname text = .ok hostname ∧
    (access_filter_block_traffic lwip gateway.filter destination_ipv4 (some text)).2 = .ESP_OK

/-- **One call** brings a rule for a host name if it names it. -/
theorem step_hostnames (lwip : lwip_t) (configTICK_RATE_HZ : UInt32) (hostname : c_string)
    (gateway : gateway_t) (input : gateway_input) :
    hostname ∈ (gateway.step lwip configTICK_RATE_HZ input).1.filter.s_blocked_hostnames ↔
      hostname ∈ gateway.filter.s_blocked_hostnames ∨
        NamesHostname lwip hostname gateway input := by
  by_cases hinput : ∃ destination_ipv4 sni, input = .block_traffic destination_ipv4 sni
  · obtain ⟨destination_ipv4, sni, rfl⟩ := hinput
    refine (block_traffic_hostnames gateway.filter destination_ipv4 sni hostname).trans
      (or_congr_right ⟨?_, ?_⟩)
    · rintro ⟨text, rfl, hne, hnormal, hok⟩
      exact ⟨destination_ipv4, text, rfl, hne, hnormal, hok⟩
    · rintro ⟨destination_ipv4', text, heq, hne, hnormal, hok⟩
      cases heq
      exact ⟨text, rfl, hne, hnormal, hok⟩
  · push Not at hinput
    rw [(step_installs_nothing lwip configTICK_RATE_HZ gateway hinput).2]
    refine ⟨.inl, fun h => h.elim id ?_⟩
    rintro ⟨destination_ipv4, text, rfl, -⟩
    exact absurd rfl (hinput destination_ipv4 (some text))

/-! ## Messages that block -/

section Messages

variable (env : command_env) (firmware : firmware_t)

/-- The message that an input completes is reported as a success. -/
def firmware_t.Succeeds (input : firmware_input) : Prop :=
  ∃ calls command, firmware.command input = some (calls, command) ∧
    ∃ result ∈ command_results (firmware.effects env calls command), result.success = true

/-- A BLOCK_TRAFFIC, reported as a success, that names a destination. -/
def firmware_t.Blocks (address : UInt32) (input : firmware_input) : Prop :=
  firmware.Succeeds env input ∧ ∃ calls request, firmware.Requests env input calls request ∧
    request.type = .BLOCK_TRAFFIC ∧ env.lwip.ip4addr_aton request.dst_ip = some address

/-- A BLOCK_TRAFFIC, reported as a success, that names a host. -/
def firmware_t.BlocksHost (hostname : c_string) (input : firmware_input) : Prop :=
  firmware.Succeeds env input ∧ ∃ calls request, firmware.Requests env input calls request ∧
    request.type = .BLOCK_TRAFFIC ∧ request.sni ≠ [] ∧ normalize_hostname request.sni = .ok hostname

variable {env firmware}

/-- The success of a BLOCK_TRAFFIC is that of its call. -/
theorem block_succeeds_iff {input : firmware_input} {calls : command_calls}
    {request : app_command_request_t} (h : firmware.Requests env input calls request)
    (htype : request.type = .BLOCK_TRAFFIC) :
    firmware.Succeeds env input ↔
      (access_filter_block_traffic env.lwip firmware.device.gateway.filter (some request.dst_ip)
        (some request.sni)).2 = .ESP_OK := by
  obtain ⟨command, hcommand, hparse⟩ := h
  have hok : (parse_message env (some command.topic) (some command.payload)).2 = .ESP_OK := by
    rw [hparse]
  obtain ⟨done, failed, honce⟩ : ∃ done failed, command_results (firmware.effects env calls command)
      = [executed env request (access_filter_block_traffic env.lwip
          firmware.device.gateway.filter (some request.dst_ip) (some request.sni)).2 done
          failed] := by
    rw [firmware_t.effects, handle_mqtt_command_accepted _ _ hok, hparse, execute_command, htype]
    exact ⟨_, _, rfl⟩
  constructor
  · rintro ⟨calls', command', hcommand', result, hresult, hsuccess⟩
    obtain ⟨rfl, rfl⟩ := Prod.mk.inj (Option.some.inj (hcommand.symm.trans hcommand'))
    exact published_executed honce hresult hsuccess
  · intro hdone
    refine ⟨calls, command, hcommand, _, by rw [honce]; exact List.mem_singleton_self _, ?_⟩
    exact (executed_success request _ done failed).mpr hdone

/-- A step calls `access_filter_block_traffic` for a BLOCK_TRAFFIC, with what it says. -/
theorem gateway_call_block_iff {input : firmware_input} (destination_ipv4 sni : Option c_string) :
    firmware.gateway_call env input = some (.block_traffic destination_ipv4 sni) ↔
      ∃ calls request, firmware.Requests env input calls request ∧
        request.type = .BLOCK_TRAFFIC ∧ destination_ipv4 = some request.dst_ip ∧
        sni = some request.sni := by
  constructor
  · intro h
    by_cases hquiet : firmware.command input = none
    · rw [firmware_t.gateway_call, hquiet] at h
      cases input with
      | _ => cases h
    · by_cases hrequest : ∃ calls request, firmware.Requests env input calls request
      · obtain ⟨calls, request, hrequest⟩ := hrequest
        refine ⟨calls, request, hrequest, ?_⟩
        rw [gateway_call_accepted hrequest, command_input] at h
        cases htype : request.type with
        | BLOCK_TRAFFIC =>
            rw [htype] at h
            cases h
            exact ⟨rfl, rfl, rfl⟩
        | _ =>
            rw [htype] at h
            cases h
      · push Not at hrequest
        rw [gateway_call_refused hquiet hrequest] at h
        cases h
  · rintro ⟨calls, request, hrequest, htype, rfl, rfl⟩
    rw [gateway_call_accepted hrequest, command_input, htype]

/-- The calls that name a destination are the messages that block it. -/
theorem names_destination_iff (address : UInt32) (input : firmware_input) :
    (∃ called, firmware.gateway_call env input = some called ∧
        NamesDestination env.lwip address firmware.device.gateway called) ↔
      firmware.Blocks env address input := by
  constructor
  · rintro ⟨called, hcall, text, sni, rfl, haddress, hok⟩
    obtain ⟨calls, request, hrequest, htype, htext, rfl⟩ :=
      (gateway_call_block_iff (some text) sni).mp hcall
    obtain rfl := Option.some.inj htext
    exact ⟨(block_succeeds_iff hrequest htype).mpr hok, calls, request, hrequest, htype, haddress⟩
  · rintro ⟨hsucceeds, calls, request, hrequest, htype, haddress⟩
    exact ⟨_, (gateway_call_block_iff _ _).mpr ⟨calls, request, hrequest, htype, rfl, rfl⟩,
      request.dst_ip, some request.sni, rfl, haddress,
      (block_succeeds_iff hrequest htype).mp hsucceeds⟩

theorem names_hostname_iff (hostname : c_string) (input : firmware_input) :
    (∃ called, firmware.gateway_call env input = some called ∧
        NamesHostname env.lwip hostname firmware.device.gateway called) ↔
      firmware.BlocksHost env hostname input := by
  constructor
  · rintro ⟨called, hcall, destination_ipv4, text, rfl, hne, hnormal, hok⟩
    obtain ⟨calls, request, hrequest, htype, rfl, htext⟩ :=
      (gateway_call_block_iff destination_ipv4 (some text)).mp hcall
    obtain rfl := Option.some.inj htext
    exact ⟨(block_succeeds_iff hrequest htype).mpr hok, calls, request, hrequest, htype, hne,
      hnormal⟩
  · rintro ⟨hsucceeds, calls, request, hrequest, htype, hne, hnormal⟩
    exact ⟨_, (gateway_call_block_iff _ _).mpr ⟨calls, request, hrequest, htype, rfl, rfl⟩,
      some request.dst_ip, request.sni, rfl, hne, hnormal,
      (block_succeeds_iff hrequest htype).mp hsucceeds⟩

/-- A message that blocks is followed by no start. -/
theorem block_not_restarts {input : firmware_input} {calls : command_calls}
    {request : app_command_request_t} (hrequest : firmware.Requests env input calls request)
    (htype : request.type = .BLOCK_TRAFFIC) : ¬ firmware.Restarts env input := by
  refine requests_not_restarts hrequest ?_ ?_
  · rw [htype]
    decide
  · rw [htype]
    decide

end Messages

/-! ## Runs -/

section Runs

variable (env : command_env) (ESP_WIFI_MAX_CONN_NUM : ℕ)

/-- **One step**: what calls only add to the filter is there if it was there and the firmware has
not started again, or if the call of the step adds it. -/
theorem filter_gained_step {P : access_filter_t → Prop} {N : gateway_t → gateway_input → Prop}
    (hstart : ¬ P {})
    (hstep : ∀ gateway called,
      P (gateway_t.step env.lwip env.configTICK_RATE_HZ gateway called).1.filter ↔
        P gateway.filter ∨ N gateway called)
    {firmware : firmware_t} {input : firmware_input}
    (hgoes : ∀ called, firmware.gateway_call env input = some called →
      N firmware.device.gateway called → ¬ firmware.Restarts env input) :
    P (firmware.step env ESP_WIFI_MAX_CONN_NUM input).1.device.gateway.filter ↔
      (∃ called, firmware.gateway_call env input = some called ∧
        N firmware.device.gateway called) ∨
      P firmware.device.gateway.filter ∧ ¬ firmware.Restarts env input := by
  by_cases hrestarts : firmware.Restarts env input
  · rw [step_restarts hrestarts]
    refine iff_of_false hstart ?_
    rintro (⟨called, hcall, hnames⟩ | ⟨-, hkept⟩)
    · exact hgoes called hcall hnames hrestarts
    · exact hkept hrestarts
  rw [and_iff_left hrestarts]
  rcases step_gateway ESP_WIFI_MAX_CONN_NUM hrestarts with
    hcall | ⟨station_list, rfl, hrssi⟩
  · rw [hcall]
    cases firmware.gateway_call env input with
    | none => exact (or_iff_right fun h => h.elim fun _ hnone => nomatch hnone.1).symm
    | some called =>
        refine (hstep firmware.device.gateway called).trans (or_comm.trans (or_congr_left ?_))
        simp only [Option.some.injEq, exists_eq_left']
  · -- the strengths of the signals are none of the filter's business
    rw [hrssi]
    exact (or_iff_right fun h => h.elim fun _ hnone => nomatch hnone.1).symm

/-- A destination, behind one step. -/
theorem destination_step (address : UInt32) (firmware : firmware_t) (input : firmware_input) :
    address ∈ (firmware.step env ESP_WIFI_MAX_CONN_NUM
        input).1.device.gateway.filter.s_blocked_destination_ipv4 ↔
      firmware.Blocks env address input ∨
        address ∈ firmware.device.gateway.filter.s_blocked_destination_ipv4 ∧
          ¬ firmware.Restarts env input := by
  rw [← names_destination_iff]
  refine filter_gained_step env ESP_WIFI_MAX_CONN_NUM
    (P := fun filter => address ∈ filter.s_blocked_destination_ipv4)
    (N := NamesDestination env.lwip address) List.not_mem_nil
    (step_destinations env.lwip env.configTICK_RATE_HZ address) ?_
  intro called hcall hnames
  obtain ⟨-, calls, request, hrequest, htype, -⟩ :=
    (names_destination_iff address input).mp ⟨called, hcall, hnames⟩
  exact block_not_restarts hrequest htype

/-- A host, behind one step. -/
theorem hostname_step (hostname : c_string) (firmware : firmware_t) (input : firmware_input) :
    hostname ∈ (firmware.step env ESP_WIFI_MAX_CONN_NUM
        input).1.device.gateway.filter.s_blocked_hostnames ↔
      firmware.BlocksHost env hostname input ∨
        hostname ∈ firmware.device.gateway.filter.s_blocked_hostnames ∧
          ¬ firmware.Restarts env input := by
  rw [← names_hostname_iff]
  refine filter_gained_step env ESP_WIFI_MAX_CONN_NUM
    (P := fun filter => hostname ∈ filter.s_blocked_hostnames)
    (N := NamesHostname env.lwip hostname) List.not_mem_nil
    (step_hostnames env.lwip env.configTICK_RATE_HZ hostname) ?_
  intro called hcall hnames
  obtain ⟨-, calls, request, hrequest, htype, -⟩ :=
    (names_hostname_iff hostname input).mp ⟨called, hcall, hnames⟩
  exact block_not_restarts hrequest htype

variable (content : nvs_content) (inputs : List firmware_input)

/-- A message of the run has blocked the destination, and there has been no start since. -/
def BlockedSince (address : UInt32) : Prop :=
  ∃ before input after, inputs = before ++ input :: after ∧
    (firmware_t.after env ESP_WIFI_MAX_CONN_NUM content before).Blocks env address input ∧
    Machine.AtEveryStep (firmware_t.step env ESP_WIFI_MAX_CONN_NUM)
      (firmware_t.after env ESP_WIFI_MAX_CONN_NUM content (before ++ [input])) after
      fun firmware input => ¬ firmware.Restarts env input

/-- A message of the run has blocked the host, and there has been no start since. -/
def HostBlockedSince (hostname : c_string) : Prop :=
  ∃ before input after, inputs = before ++ input :: after ∧
    (firmware_t.after env ESP_WIFI_MAX_CONN_NUM content before).BlocksHost env hostname input ∧
    Machine.AtEveryStep (firmware_t.step env ESP_WIFI_MAX_CONN_NUM)
      (firmware_t.after env ESP_WIFI_MAX_CONN_NUM content (before ++ [input])) after
      fun firmware input => ¬ firmware.Restarts env input

theorem destination_since (address : UInt32) :
    is_destination_ipv4_blocked (firmware_t.after env ESP_WIFI_MAX_CONN_NUM content
        inputs).device.gateway.filter address = true ↔
      BlockedSince env ESP_WIFI_MAX_CONN_NUM content inputs address := by
  have hstart : address ∉ (firmware_start ESP_WIFI_MAX_CONN_NUM
      content).device.gateway.filter.s_blocked_destination_ipv4 := List.not_mem_nil
  rw [is_destination_ipv4_blocked, List.any_beq', List.elem_iff]
  exact Machine.since_iff (I := fun _ => True)
    (J := fun firmware : firmware_t =>
      address ∈ firmware.device.gateway.filter.s_blocked_destination_ipv4)
    (G := fun firmware input => firmware.Blocks env address input)
    (K := fun firmware input => ¬ firmware.Restarts env input)
    (fun _ _ _ => trivial)
    (fun firmware input _ => destination_step env ESP_WIFI_MAX_CONN_NUM address firmware input)
    trivial hstart inputs

theorem hostname_since (hostname : c_string) :
    hostname ∈ (firmware_t.after env ESP_WIFI_MAX_CONN_NUM content
        inputs).device.gateway.filter.s_blocked_hostnames ↔
      HostBlockedSince env ESP_WIFI_MAX_CONN_NUM content inputs hostname := by
  have hstart : hostname ∉ (firmware_start ESP_WIFI_MAX_CONN_NUM
      content).device.gateway.filter.s_blocked_hostnames := List.not_mem_nil
  exact Machine.since_iff (I := fun _ => True)
    (J := fun firmware : firmware_t =>
      hostname ∈ firmware.device.gateway.filter.s_blocked_hostnames)
    (G := fun firmware input => firmware.BlocksHost env hostname input)
    (K := fun firmware input => ¬ firmware.Restarts env input)
    (fun _ _ _ => trivial)
    (fun firmware input _ => hostname_step env ESP_WIFI_MAX_CONN_NUM hostname firmware input)
    trivial hstart inputs

/-- **Blocking.** Behind every run the filter blocks exactly the destinations, and has rules for
exactly the hosts, that a BLOCK_TRAFFIC reported as a success has named since the last start. -/
theorem blocks_since :
    (∀ address, is_destination_ipv4_blocked (firmware_t.after env ESP_WIFI_MAX_CONN_NUM content
        inputs).device.gateway.filter address = true ↔
      BlockedSince env ESP_WIFI_MAX_CONN_NUM content inputs address) ∧
    ∀ hostname, hostname ∈ (firmware_t.after env ESP_WIFI_MAX_CONN_NUM content
        inputs).device.gateway.filter.s_blocked_hostnames ↔
      HostBlockedSince env ESP_WIFI_MAX_CONN_NUM content inputs hostname :=
  ⟨destination_since env ESP_WIFI_MAX_CONN_NUM content inputs,
    hostname_since env ESP_WIFI_MAX_CONN_NUM content inputs⟩

end Runs

end WifiManager.Main
