/-
Every packet of a client is checked.

A run of the gateway mixes the calls of `client_access`, `access_filter_start`, installs and
packets in any order, each of them with clocks of its own. `complete_mediation` is about the
packet that arrives behind such a run: the hook lets it through if and only if its
destination has not been named by a successful install before, its source is authorized at
that tick, and, once an install has named a host, the packet passes the inspection. What has
been installed is read off the run, not off the tables.

The hook is connected with the models that the other results are about: as far as the filter
is concerned, a run of the gateway is a run of `access_filter_t.step`, in which a packet that
reaches the inspection is a segment, and as far as the clients are concerned it is a run of
the calls of `client_access`.
-/
import WifiManager.Lib.Machine
import WifiManager.AccessFilter.Input
import WifiManager.AccessFilter.Installs
import WifiManager.ClientAccess.Runs

set_option autoImplicit false

namespace WifiManager.AccessFilter

open WifiManager.Lib WifiManager.ClientAccess

/-! ## The gateway -/

/-- The filter and the client table next to it. -/
structure gateway_t where
  filter : access_filter_t := {}
  access : client_access_t

/-- What can happen. -/
inductive gateway_input
  | client (now : UInt32) (call : client_call)
  | start (wifi_ap_def : Option netif) (portal_server_ipv4 : Option c_string)
  | block_traffic (destination_ipv4 sni : Option c_string)
  | packet (now now_ms : UInt32) (packet : Option pbuf) (input_netif : Option netif)

/-- What comes of it. -/
inductive gateway_output
  | replied (reply : client_reply)
  | returned (err : esp_err_t)
  | value (value : ℕ)

section Run

variable (lwip : lwip_t) (configTICK_RATE_HZ : UInt32)

/-- One step of the gateway. -/
def gateway_t.step (gateway : gateway_t) : gateway_input → gateway_t × gateway_output
  | .client now call =>
      let result := call.step configTICK_RATE_HZ now gateway.access
      ({ gateway with access := result.1 }, .replied result.2)
  | .start wifi_ap_def portal_server_ipv4 =>
      let result := access_filter_start lwip wifi_ap_def gateway.filter portal_server_ipv4
      ({ gateway with filter := result.1 }, .returned result.2)
  | .block_traffic destination_ipv4 sni =>
      let result := access_filter_block_traffic lwip gateway.filter destination_ipv4 sni
      ({ gateway with filter := result.1 }, .returned result.2)
  | .packet now now_ms packet input_netif =>
      let result := access_filter_lwip_ip4_input lwip now now_ms gateway.filter
        gateway.access.s_clients packet input_netif
      ({ filter := result.filter
         access := { gateway.access with s_clients := result.s_clients } },
        .value result.value)

/-- The gateway after a run. -/
abbrev gateway_t.after (ESP_WIFI_MAX_CONN_NUM : ℕ) (inputs : List gateway_input) : gateway_t :=
  Machine.run (gateway_t.step lwip configTICK_RATE_HZ)
    { access := client_access_init ESP_WIFI_MAX_CONN_NUM } inputs

end Run

/-! ## What the filter and the clients see of a run -/

section Views

variable (lwip : lwip_t) (configTICK_RATE_HZ : UInt32)

/-- A packet that reaches the inspection is a segment for the filter. -/
theorem filter_step_of_gateway (gateway : gateway_t) (input : gateway_input) :
    ∃ inputs, (gateway.step lwip configTICK_RATE_HZ input).1.filter
      = Machine.run (access_filter_t.step lwip) gateway.filter inputs := by
  cases input with
  | client now call => exact ⟨[], rfl⟩
  | start wifi_ap_def portal_server_ipv4 => exact ⟨[.start wifi_ap_def portal_server_ipv4], rfl⟩
  | block_traffic destination_ipv4 sni => exact ⟨[.block_traffic destination_ipv4 sni], rfl⟩
  | packet now now_ms packet input_netif =>
      rcases (ip4_input_cases lwip now now_ms gateway.filter gateway.access.s_clients packet
        input_netif).2 with hsame | ⟨p, h, htcp, -, hunblocked, hrules, hfilter, -⟩
      · exact ⟨[], hsame⟩
      · refine ⟨[.segment now_ms (p.segment h htcp)], hfilter.trans ?_⟩
        rw [Machine.run_cons, Machine.run_nil, access_filter_t.step,
          if_pos (show gateway.filter.Inspects (p.segment h htcp) from ⟨hunblocked, hrules⟩)]
        rfl

/-- **The filter in a run of the gateway** is the filter in a run of its own. -/
theorem gateway_filter_run (ESP_WIFI_MAX_CONN_NUM : ℕ) (inputs : List gateway_input) :
    ∃ filter_inputs, (gateway_t.after lwip configTICK_RATE_HZ ESP_WIFI_MAX_CONN_NUM inputs).filter
      = access_filter_t.after lwip filter_inputs :=
  Machine.run_refines (filter_step_of_gateway lwip configTICK_RATE_HZ) _ inputs

/-- **The flow table** is sound in every run. -/
theorem gateway_sound (ESP_WIFI_MAX_CONN_NUM : ℕ) (inputs : List gateway_input) :
    Sound (gateway_t.after lwip configTICK_RATE_HZ ESP_WIFI_MAX_CONN_NUM
      inputs).filter.s_tls_flows := by
  obtain ⟨filter_inputs, hfilter⟩ :=
    gateway_filter_run lwip configTICK_RATE_HZ ESP_WIFI_MAX_CONN_NUM inputs
  rw [hfilter]
  exact filter_sound lwip filter_inputs

/-- A packet is a call of `client_access_can_forward_ipv4` for the clients. -/
theorem access_step_of_gateway (gateway : gateway_t) (input : gateway_input) :
    ∃ calls : List (UInt32 × client_call),
      (gateway.step lwip configTICK_RATE_HZ input).1.access
        = Machine.run (fun state c => c.2.step configTICK_RATE_HZ c.1 state) gateway.access
          calls := by
  cases input with
  | client now call => exact ⟨[(now, call)], rfl⟩
  | start wifi_ap_def portal_server_ipv4 => exact ⟨[], rfl⟩
  | block_traffic destination_ipv4 sni => exact ⟨[], rfl⟩
  | packet now now_ms packet input_netif =>
      have haccess : (gateway.step lwip configTICK_RATE_HZ
          (.packet now now_ms packet input_netif)).1.access
        = { gateway.access with
            s_clients := (access_filter_lwip_ip4_input lwip now now_ms gateway.filter
              gateway.access.s_clients packet input_netif).s_clients } := rfl
      rw [haccess]
      rcases (ip4_input_cases lwip now now_ms gateway.filter gateway.access.s_clients packet
        input_netif).1 with hsame | ⟨source_ip, hclients⟩
      · exact ⟨[], by rw [hsame]; rfl⟩
      · exact ⟨[(now, .client_access_can_forward_ipv4 source_ip)], by rw [hclients]; rfl⟩

/-- **The clients in a run of the gateway** have no MAC twice. -/
theorem gateway_unique (ESP_WIFI_MAX_CONN_NUM : ℕ) (inputs : List gateway_input) :
    client_layout.Unique (gateway_t.after lwip configTICK_RATE_HZ ESP_WIFI_MAX_CONN_NUM
      inputs).access.s_clients := by
  obtain ⟨calls, haccess⟩ := Machine.run_refines
    (access_step_of_gateway lwip configTICK_RATE_HZ)
    { access := client_access_init ESP_WIFI_MAX_CONN_NUM } inputs
  rw [haccess]
  have hstep : ∀ (state : client_access_t) (c : UInt32 × client_call),
      client_layout.Unique state.s_clients →
        client_layout.Unique (c.2.step configTICK_RATE_HZ c.1 state).1.s_clients :=
    fun state c hu => unique_step configTICK_RATE_HZ hu c.1 c.2
  exact Machine.run_invariant _ hstep (unique_init ESP_WIFI_MAX_CONN_NUM) calls

end Views

/-! ## What has been installed -/

section Installs

variable (lwip : lwip_t)

/-- The call of `access_filter_block_traffic` that succeeds and names this destination. -/
def NamesDestination (address : UInt32) (gateway : gateway_t) (input : gateway_input) : Prop :=
  ∃ text sni, input = .block_traffic (some text) sni ∧
    lwip.ip4addr_aton text = some address ∧
    (access_filter_block_traffic lwip gateway.filter (some text) sni).2 = .ESP_OK

/-- The call of `access_filter_block_traffic` that succeeds and names a host. -/
def NamesHost (gateway : gateway_t) (input : gateway_input) : Prop :=
  ∃ destination_ipv4 sni, input = .block_traffic destination_ipv4 (some sni) ∧ sni ≠ [] ∧
    (access_filter_block_traffic lwip gateway.filter destination_ipv4 (some sni)).2 = .ESP_OK

variable {lwip}

theorem check_destination_ok {filter : access_filter_t} {destination_ipv4 : Option c_string}
    {candidate : UInt32} (h : check_destination lwip filter destination_ipv4 = .ok candidate) :
    ∃ text, destination_ipv4 = some text ∧ lwip.ip4addr_aton text = some candidate := by
  obtain ⟨text, -, htext, -, -, haddress, -⟩ := check_destination_ok_iff.mp h
  exact ⟨text, htext, haddress⟩

/-- What `check_sni` makes of a second argument: a host name or none. -/
theorem check_sni_ok {sni normalized_hostname : Option c_string}
    (h : check_sni sni = .ok normalized_hostname) :
    normalized_hostname.isSome = true ↔ ∃ text, sni = some text ∧ text ≠ [] := by
  rcases sni with - | text
  · obtain rfl := Except.ok.inj h
    refine ⟨nofun, ?_⟩
    rintro ⟨text, htext, -⟩
    cases htext
  rw [check_sni] at h
  by_cases hempty : text = []
  · rw [if_pos hempty] at h
    obtain rfl := Except.ok.inj h
    refine ⟨nofun, ?_⟩
    rintro ⟨text', htext, hne⟩
    rw [← Option.some.inj htext] at hne
    exact absurd hempty hne
  · rw [if_neg hempty] at h
    refine ⟨fun _ => ⟨text, rfl, hempty⟩, fun _ => ?_⟩
    cases hnormal : normalize_hostname text with
    | error err =>
        rw [hnormal] at h
        cases h
    | ok name =>
        rw [hnormal] at h
        rw [← Except.ok.inj h]
        rfl

/-- The destinations behind a call: one more, if it succeeds. -/
theorem block_traffic_destinations (filter : access_filter_t)
    (destination_ipv4 sni : Option c_string) (address : UInt32) :
    address ∈ (access_filter_block_traffic lwip filter destination_ipv4
        sni).1.s_blocked_destination_ipv4 ↔
      address ∈ filter.s_blocked_destination_ipv4 ∨
        ∃ text, destination_ipv4 = some text ∧ lwip.ip4addr_aton text = some address ∧
          (access_filter_block_traffic lwip filter destination_ipv4 sni).2 = .ESP_OK := by
  rcases block_traffic_cases lwip filter destination_ipv4 sni with
    ⟨hsame, herr⟩ | ⟨candidate, normalized_hostname, hdestination, -, hok, hinstalled⟩
  · rw [hsame]
    refine ⟨.inl, fun h => h.elim id ?_⟩
    rintro ⟨-, -, -, hok⟩
    exact absurd hok herr
  · obtain ⟨text, rfl, haddress⟩ := check_destination_ok hdestination
    constructor
    · intro hmem
      refine (hinstalled.destinations_new address hmem).imp_right ?_
      rintro rfl
      exact ⟨text, rfl, haddress, hok⟩
    · rintro (hmem | ⟨text', htext, haddress', -⟩)
      · exact hinstalled.destinations.subset hmem
      · obtain rfl := Option.some.inj htext
        obtain rfl := Option.some.inj (haddress.symm.trans haddress')
        exact hinstalled.destination

/-- The rules for host names behind a call: there is one if there was, or if the call
succeeds and names a host. -/
theorem block_traffic_has_rules (filter : access_filter_t)
    (destination_ipv4 sni : Option c_string) :
    has_hostname_rules (access_filter_block_traffic lwip filter destination_ipv4 sni).1 = true ↔
      has_hostname_rules filter = true ∨
        ∃ text, sni = some text ∧ text ≠ [] ∧
          (access_filter_block_traffic lwip filter destination_ipv4 sni).2 = .ESP_OK := by
  simp only [has_hostname_rules, decide_eq_true_eq, gt_iff_lt, List.length_pos_iff_exists_mem]
  rcases block_traffic_cases lwip filter destination_ipv4 sni with
    ⟨hsame, herr⟩ | ⟨candidate, normalized_hostname, -, hsni, hok, hinstalled⟩
  · rw [hsame]
    refine ⟨.inl, fun h => h.elim id ?_⟩
    rintro ⟨-, -, -, hok⟩
    exact absurd hok herr
  · have hnamed := check_sni_ok hsni
    constructor
    · rintro ⟨rule, hmem⟩
      rcases hinstalled.hostnames_new rule hmem with hold | hnew
      · exact .inl ⟨rule, hold⟩
      · obtain ⟨text, htext, hne⟩ := hnamed.mp (Option.isSome_of_mem hnew)
        exact .inr ⟨text, htext, hne, hok⟩
    · rintro (⟨rule, hmem⟩ | ⟨text, htext, hne, -⟩)
      · exact ⟨rule, hinstalled.hostnames.subset hmem⟩
      · obtain ⟨name, hname⟩ := Option.isSome_iff_exists.mp (hnamed.mpr ⟨text, htext, hne⟩)
        exact ⟨name, hinstalled.hostname name hname⟩

/-- A packet installs nothing. -/
theorem ip4_input_installs_nothing (lwip : lwip_t) (now now_ms : UInt32)
    (filter : access_filter_t) (s_clients : client_table) (packet : Option pbuf)
    (input_netif : Option netif) :
    let result := access_filter_lwip_ip4_input lwip now now_ms filter s_clients packet input_netif
    result.filter.s_blocked_destination_ipv4 = filter.s_blocked_destination_ipv4 ∧
      result.filter.s_blocked_hostnames = filter.s_blocked_hostnames := by
  rcases (ip4_input_cases lwip now now_ms filter s_clients packet input_netif).2 with
    hsame | ⟨p, h, htcp, -, -, -, hfilter, -⟩
  · dsimp only
    rw [hsame]
    exact ⟨rfl, rfl⟩
  · dsimp only
    rw [hfilter]
    exact ⟨rfl, rfl⟩

variable (lwip) (configTICK_RATE_HZ : UInt32)

/-- Only `access_filter_block_traffic` writes the tables of rules. -/
theorem step_installs_nothing (gateway : gateway_t) {input : gateway_input}
    (h : ∀ destination_ipv4 sni, input ≠ .block_traffic destination_ipv4 sni) :
    (gateway.step lwip configTICK_RATE_HZ input).1.filter.s_blocked_destination_ipv4
        = gateway.filter.s_blocked_destination_ipv4 ∧
      (gateway.step lwip configTICK_RATE_HZ input).1.filter.s_blocked_hostnames
        = gateway.filter.s_blocked_hostnames := by
  cases input with
  | client now call => exact ⟨rfl, rfl⟩
  | start wifi_ap_def portal_server_ipv4 =>
      exact ⟨start_installs_nothing lwip wifi_ap_def gateway.filter portal_server_ipv4,
        (start_keeps lwip wifi_ap_def gateway.filter portal_server_ipv4).2⟩
  | block_traffic destination_ipv4 sni => exact absurd rfl (h destination_ipv4 sni)
  | packet now now_ms packet input_netif =>
      exact ip4_input_installs_nothing lwip now now_ms gateway.filter gateway.access.s_clients
        packet input_netif

/-- **One step** blocks a destination if it names it. -/
theorem step_destinations (address : UInt32) (gateway : gateway_t) (input : gateway_input) :
    address ∈ (gateway.step lwip configTICK_RATE_HZ
        input).1.filter.s_blocked_destination_ipv4 ↔
      address ∈ gateway.filter.s_blocked_destination_ipv4 ∨
        NamesDestination lwip address gateway input := by
  by_cases hinput : ∃ destination_ipv4 sni, input = .block_traffic destination_ipv4 sni
  · obtain ⟨destination_ipv4, sni, rfl⟩ := hinput
    refine (block_traffic_destinations gateway.filter destination_ipv4 sni address).trans
      (or_congr_right ⟨?_, ?_⟩)
    · rintro ⟨text, rfl, haddress, hok⟩
      exact ⟨text, sni, rfl, haddress, hok⟩
    · rintro ⟨text, sni', heq, haddress, hok⟩
      cases heq
      exact ⟨text, rfl, haddress, hok⟩
  · push Not at hinput
    rw [(step_installs_nothing lwip configTICK_RATE_HZ gateway hinput).1]
    refine ⟨.inl, fun h => h.elim id ?_⟩
    rintro ⟨text, sni, rfl, -⟩
    exact absurd rfl (hinput (some text) sni)

/-- **One step** brings a rule for a host name if it names a host. -/
theorem step_has_rules (gateway : gateway_t) (input : gateway_input) :
    has_hostname_rules (gateway.step lwip configTICK_RATE_HZ input).1.filter = true ↔
      has_hostname_rules gateway.filter = true ∨ NamesHost lwip gateway input := by
  by_cases hinput : ∃ destination_ipv4 sni, input = .block_traffic destination_ipv4 sni
  · obtain ⟨destination_ipv4, sni, rfl⟩ := hinput
    refine (block_traffic_has_rules gateway.filter destination_ipv4 sni).trans
      (or_congr_right ⟨?_, ?_⟩)
    · rintro ⟨text, rfl, hne, hok⟩
      exact ⟨destination_ipv4, text, rfl, hne, hok⟩
    · rintro ⟨destination_ipv4', text, heq, hne, hok⟩
      cases heq
      exact ⟨text, rfl, hne, hok⟩
  · push Not at hinput
    have hsame := (step_installs_nothing lwip configTICK_RATE_HZ gateway hinput).2
    rw [has_hostname_rules, hsame]
    refine ⟨.inl, fun h => h.elim id ?_⟩
    rintro ⟨destination_ipv4, sni, rfl, -⟩
    exact absurd rfl (hinput destination_ipv4 (some sni))

end Installs

/-! ## Mediation -/

section Mediation

variable (lwip : lwip_t) (configTICK_RATE_HZ : UInt32) (ESP_WIFI_MAX_CONN_NUM : ℕ)

/-- A call that succeeded in the run has named this destination. -/
def Named (inputs : List gateway_input) (address : UInt32) : Prop :=
  ∃ before input after, inputs = before ++ input :: after ∧
    NamesDestination lwip address
      (gateway_t.after lwip configTICK_RATE_HZ ESP_WIFI_MAX_CONN_NUM before) input

/-- A call that succeeded in the run has named a host. -/
def HostNamed (inputs : List gateway_input) : Prop :=
  ∃ before input after, inputs = before ++ input :: after ∧
    NamesHost lwip (gateway_t.after lwip configTICK_RATE_HZ ESP_WIFI_MAX_CONN_NUM before) input

theorem destination_blocked_iff (inputs : List gateway_input) (address : UInt32) :
    is_destination_ipv4_blocked
        (gateway_t.after lwip configTICK_RATE_HZ ESP_WIFI_MAX_CONN_NUM inputs).filter address
        = true ↔
      Named lwip configTICK_RATE_HZ ESP_WIFI_MAX_CONN_NUM inputs address := by
  have hgained := Machine.gained_iff
    (fun gateway : gateway_t => address ∈ gateway.filter.s_blocked_destination_ipv4)
    (NamesDestination lwip address) (step_destinations lwip configTICK_RATE_HZ address)
    { access := client_access_init ESP_WIFI_MAX_CONN_NUM } inputs
  rw [is_destination_ipv4_blocked, List.any_beq', List.elem_iff]
  exact hgained.trans (or_iff_right List.not_mem_nil)

theorem has_rules_iff (inputs : List gateway_input) :
    has_hostname_rules
        (gateway_t.after lwip configTICK_RATE_HZ ESP_WIFI_MAX_CONN_NUM inputs).filter = true ↔
      HostNamed lwip configTICK_RATE_HZ ESP_WIFI_MAX_CONN_NUM inputs := by
  have hgained := Machine.gained_iff
    (fun gateway : gateway_t => has_hostname_rules gateway.filter = true)
    (NamesHost lwip) (step_has_rules lwip configTICK_RATE_HZ)
    { access := client_access_init ESP_WIFI_MAX_CONN_NUM } inputs
  exact hgained.trans (or_iff_right Bool.false_ne_true)

/-- **Default deny**: a client gets nothing through unless an entry with its address is
authorized. -/
theorem default_deny (inputs : List gateway_input) (now now_ms : UInt32) {packet : pbuf}
    {softap : netif}
    (h : Filtered lwip
      (gateway_t.after lwip configTICK_RATE_HZ ESP_WIFI_MAX_CONN_NUM inputs).filter packet softap)
    (hpasses : (access_filter_lwip_ip4_input lwip now now_ms
        (gateway_t.after lwip configTICK_RATE_HZ ESP_WIFI_MAX_CONN_NUM inputs).filter
        (gateway_t.after lwip configTICK_RATE_HZ ESP_WIFI_MAX_CONN_NUM inputs).access.s_clients
        (some packet) (some softap)).value = 0) :
    ∃ entry, holder
        (gateway_t.after lwip configTICK_RATE_HZ ESP_WIFI_MAX_CONN_NUM inputs).access.s_clients
        packet.ip_header.src = some entry ∧
      (entry.can_forward now).2 = true := by
  have hforward := ((ip4_input_eq_zero_iff h now now_ms _).mp hpasses).2.1
  have hspec := (client_access_can_forward_ipv4_spec
    (gateway_unique lwip configTICK_RATE_HZ ESP_WIFI_MAX_CONN_NUM inputs) now
    packet.ip_header.src).2
  cases hholder : holder (gateway_t.after lwip configTICK_RATE_HZ ESP_WIFI_MAX_CONN_NUM
      inputs).access.s_clients packet.ip_header.src with
  | none =>
      rw [hholder] at hspec
      rw [hspec] at hforward
      cases hforward
  | some entry =>
      rw [hholder] at hspec
      exact ⟨entry, rfl, hspec.2.1.symm.trans hforward⟩

/-- **Complete mediation.** In every run, a packet on the SoftAP interface whose header is
checked and whose destination is filtered gets through if and only if no install has named
its destination, its source may forward at that tick, and once an install has named a host
the packet passes the inspection. -/
theorem complete_mediation (inputs : List gateway_input) (now now_ms : UInt32) (packet : pbuf)
    (softap : netif)
    (hnetif : (gateway_t.after lwip configTICK_RATE_HZ ESP_WIFI_MAX_CONN_NUM
      inputs).filter.s_softap_netif = some softap)
    (hheader : packet.HeaderChecked)
    (hexempt : is_exempt lwip
      (gateway_t.after lwip configTICK_RATE_HZ ESP_WIFI_MAX_CONN_NUM inputs).filter softap
      packet.ip_header.dest = false) :
    (access_filter_lwip_ip4_input lwip now now_ms
        (gateway_t.after lwip configTICK_RATE_HZ ESP_WIFI_MAX_CONN_NUM inputs).filter
        (gateway_t.after lwip configTICK_RATE_HZ ESP_WIFI_MAX_CONN_NUM inputs).access.s_clients
        (some packet) (some softap)).value = 0 ↔
      ¬ Named lwip configTICK_RATE_HZ ESP_WIFI_MAX_CONN_NUM inputs packet.ip_header.dest ∧
      (client_access_can_forward_ipv4
        (gateway_t.after lwip configTICK_RATE_HZ ESP_WIFI_MAX_CONN_NUM inputs).access.s_clients
        now packet.ip_header.src).2 = true ∧
      (HostNamed lwip configTICK_RATE_HZ ESP_WIFI_MAX_CONN_NUM inputs →
        packet.Inspected lwip
          (gateway_t.after lwip configTICK_RATE_HZ ESP_WIFI_MAX_CONN_NUM inputs).filter
          now_ms) := by
  -- the rule tables say what the installs of the run have named
  rw [ip4_input_eq_zero_iff ⟨hnetif, hheader, hexempt⟩, ← has_rules_iff,
    ← destination_blocked_iff, Bool.not_eq_true]

end Mediation

/-! The SYN of a client that is authorized for a minute, after `8.8.8.8` and the host `b` have
been blocked: IPv4 options, in three buffers. -/

def syn_run : List gateway_input :=
  [.start (some ⟨0⟩) none,
    .client 0 (.track_connected_client sample_mac),
    .client 10 (.track_client_ip sample_mac 0xC0A80402),
    .client 20 (.client_access_authorize (some sample_mac_text) 7 60),
    .block_traffic (some (c_str "8.8.8.8")) (some (c_str "b"))]

def syn_packet : pbuf where
  chain := [
    [0x46, 0x00, 0x00, 0x2C, 0x00, 0x00, 0x00, 0x00, 0x40, 0x06, 0xB1, 0x1F, 0xC0, 0xA8, 0x04,
      0x02, 0x01, 0x01, 0x01, 0x01, 0x01, 0x01, 0x01, 0x00],
    [0xC3, 0x50, 0x01, 0xBB, 0x00, 0x00, 0x03, 0xE8],
    [0x00, 0x00, 0x00, 0x00, 0x50, 0x02, 0x20, 0x00, 0x00, 0x43, 0x00, 0x00]]
  tot_len_lt := by decide

theorem syn_header_checked : syn_packet.HeaderChecked := by
  refine ⟨?_, ?_, ⟨?_, ?_⟩, ?_, ?_⟩ <;> decide +kernel

theorem complete_mediation_sample :
    HostNamed lwip_documented 100 4 syn_run ∧
      ¬ Named lwip_documented 100 4 syn_run syn_packet.ip_header.dest ∧
      syn_packet.Inspected lwip_documented
        (gateway_t.after lwip_documented 100 4 syn_run).filter 30 := by
  have hnamed : HostNamed lwip_documented 100 4 syn_run :=
    (has_rules_iff lwip_documented 100 4 syn_run).mp (by decide +kernel)
  have hclear := (complete_mediation lwip_documented 100 4 syn_run 30 30 syn_packet ⟨0⟩
    (by decide +kernel) syn_header_checked (by decide +kernel)).mp (by decide +kernel)
  exact ⟨hnamed, hclear.1, hclear.2.2 hnamed⟩

end WifiManager.AccessFilter
