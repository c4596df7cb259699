/-
The rules of `components/access_filter` and how they are installed.

`access_filter_t` holds the static variables of `access_filter.c`. A call of
`access_filter_block_traffic` checks both of its arguments before it looks at the tables,
and both tables before it writes to either; `block_traffic_cases` says what this leaves: a
call that fails changes nothing, a call that succeeds installs both rules. The rules are
only ever appended, so what a successful call installed stays (`block_traffic_grows`).
-/
import Mathlib.Data.List.Basic
import WifiManager.AccessFilter.Flow

set_option autoImplicit false

namespace WifiManager.AccessFilter

abbrev ACCESS_FILTER_BLOCKED_IPV4_CAPACITY : ℕ := 16
abbrev ACCESS_FILTER_BLOCKED_HOSTNAME_CAPACITY : ℕ := 16

/-- The static variables of `access_filter.c`. -/
structure access_filter_t where
  s_softap_netif : Option netif := none
  s_portal_server_ipv4 : UInt32 := 0
  s_portal_server_enabled : Bool := false
  s_blocked_destination_ipv4 : List UInt32 := []
  s_blocked_hostnames : List c_string := []
  s_tls_flows : flow_table := s_tls_flows_init

/-- `has_hostname_rules`. -/
def has_hostname_rules (filter : access_filter_t) : Bool :=
  decide (filter.s_blocked_hostnames.length > 0)

/-- `is_destination_ipv4_blocked`. -/
def is_destination_ipv4_blocked (filter : access_filter_t) (destination_ipv4 : UInt32) : Bool :=
  filter.s_blocked_destination_ipv4.any (· == destination_ipv4)

section Calls

variable (lwip : lwip_t)

/-! ## Starting -/

/-- The last part of `access_filter_start`: the network interface behind `WIFI_AP_DEF`. -/
def find_softap_netif (wifi_ap_def : Option netif) (filter : access_filter_t) :
    access_filter_t × esp_err_t :=
  match wifi_ap_def with
  | none => (filter, .ESP_ERR_INVALID_STATE)
  | some softap => ({ filter with s_softap_netif := some softap }, .ESP_OK)

/-- `access_filter_start`, for a configuration that is not NULL. -/
def access_filter_start (wifi_ap_def : Option netif) (filter : access_filter_t)
    (portal_server_ipv4 : Option c_string) : access_filter_t × esp_err_t :=
  if filter.s_softap_netif.isSome then (filter, .ESP_OK)
  else
    match portal_server_ipv4 with
    | none =>
        find_softap_netif wifi_ap_def
          { filter with s_portal_server_enabled := false, s_portal_server_ipv4 := 0 }
    | some text =>
        if text = [] then (filter, .ESP_ERR_INVALID_ARG)
        else
          match lwip.ip4addr_aton text with
          | none => (filter, .ESP_ERR_INVALID_ARG)
          | some address =>
              find_softap_netif wifi_ap_def
                { filter with
                  s_portal_server_enabled := true
                  s_portal_server_ipv4 := address }

/-! ## Installing rules -/

/-- The checks of `access_filter_block_traffic` on its first argument: the address that
the text stands for. -/
def check_destination (filter : access_filter_t) (destination_ipv4 : Option c_string) :
    Except esp_err_t UInt32 :=
  match destination_ipv4 with
  | none => .error .ESP_ERR_INVALID_ARG
  | some text =>
      if text = [] then .error .ESP_ERR_INVALID_ARG
      else
        match filter.s_softap_netif with
        | none => .error .ESP_ERR_INVALID_STATE
        | some softap =>
            match lwip.ip4addr_aton text with
            | none => .error .ESP_ERR_INVALID_ARG
            | some candidate =>
                if candidate = 0 ∨ lwip.ip4_addr_ismulticast candidate = true ∨
                    lwip.ip4_addr_isbroadcast candidate softap = true then
                  .error .ESP_ERR_INVALID_ARG
                else if candidate = lwip.netif_ip4_addr softap ∨
                    filter.s_portal_server_enabled = true ∧
                      candidate = filter.s_portal_server_ipv4 then
                  .error .ESP_ERR_INVALID_ARG
                else .ok candidate

/-- The check on its second argument: no host name, or one as `normalize_hostname` writes
it. -/
def check_sni : Option c_string → Except esp_err_t (Option c_string)
  | none => .ok none
  | some sni => if sni = [] then .ok none else (normalize_hostname sni).map some

/-- The critical section of `access_filter_block_traffic`. -/
def install_rules (filter : access_filter_t) (candidate : UInt32)
    (normalized_hostname : Option c_string) : access_filter_t × esp_err_t :=
  let ipv4_exists := candidate ∈ filter.s_blocked_destination_ipv4
  let hostname_exists := ∀ hostname ∈ normalized_hostname, hostname ∈ filter.s_blocked_hostnames
  let ipv4_full := ¬ ipv4_exists ∧
    filter.s_blocked_destination_ipv4.length ≥ ACCESS_FILTER_BLOCKED_IPV4_CAPACITY
  let hostname_full := ¬ hostname_exists ∧
    filter.s_blocked_hostnames.length ≥ ACCESS_FILTER_BLOCKED_HOSTNAME_CAPACITY
  -- both tables are checked before either is written
  if ipv4_full ∨ hostname_full then (filter, .ESP_ERR_NO_MEM)
  else
    ({ filter with
        s_blocked_destination_ipv4 :=
          if ipv4_exists then filter.s_blocked_destination_ipv4
          else filter.s_blocked_destination_ipv4 ++ [candidate]
        s_blocked_hostnames :=
          if hostname_exists then filter.s_blocked_hostnames
          else filter.s_blocked_hostnames ++ normalized_hostname.toList }, .ESP_OK)

/-- `access_filter_block_traffic`. -/
def access_filter_block_traffic (filter : access_filter_t)
    (destination_ipv4 sni : Option c_string) : access_filter_t × esp_err_t :=
  match check_destination lwip filter destination_ipv4 with
  | .error err => (filter, err)
  | .ok candidate =>
      match check_sni sni with
      | .error err => (filter, err)
      | .ok normalized_hostname => install_rules filter candidate normalized_hostname

end Calls

/-! ## What a call leaves behind -/

section Spec

variable {lwip : lwip_t} {filter : access_filter_t}

theorem check_sni_error {sni : Option c_string} {err : esp_err_t}
    (h : check_sni sni = .error err) : err ≠ .ESP_OK := by
  rcases sni with - | text
  · cases h
  rw [check_sni] at h
  split_ifs at h
  cases hnormal : normalize_hostname text with
  | error err' =>
      rw [hnormal] at h
      rw [← Except.error.inj h, normalize_hostname_error hnormal]
      decide
  | ok normalized_hostname =>
      rw [hnormal] at h
      cases h

theorem check_destination_error {destination_ipv4 : Option c_string} {err : esp_err_t}
    (h : check_destination lwip filter destination_ipv4 = .error err) : err ≠ .ESP_OK := by
  rintro rfl
  rcases destination_ipv4 with - | text
  · cases h
  rw [check_destination] at h
  by_cases hempty : text = []
  · rw [if_pos hempty] at h
    cases h
  rw [if_neg hempty] at h
  cases hsoftap : filter.s_softap_netif with
  | none =>
      rw [hsoftap] at h
      cases h
  | some softap =>
      rw [hsoftap] at h
      dsimp only at h
      cases haddress : lwip.ip4addr_aton text with
      | none =>
          rw [haddress] at h
          cases h
      | some candidate =>
          rw [haddress] at h
          dsimp only at h
          split_ifs at h
          · cases h
          · cases h

/-- An address that a rule may be about: not one of a group, not the access point and not
the portal. -/
structure AllowedDestination (lwip : lwip_t) (filter : access_filter_t) (softap : netif)
    (address : UInt32) : Prop where
  nonzero : address ≠ 0
  not_multicast : lwip.ip4_addr_ismulticast address = false
  not_broadcast : lwip.ip4_addr_isbroadcast address softap = false
  not_softap : address ≠ lwip.netif_ip4_addr softap
  not_portal : ¬ (filter.s_portal_server_enabled = true ∧ address = filter.s_portal_server_ipv4)

theorem allowedDestination_iff {softap : netif} {address : UInt32} :
    AllowedDestination lwip filter softap address ↔
      ¬ (address = 0 ∨ lwip.ip4_addr_ismulticast address = true ∨
          lwip.ip4_addr_isbroadcast address softap = true) ∧
        ¬ (address = lwip.netif_ip4_addr softap ∨
          filter.s_portal_server_enabled = true ∧ address = filter.s_portal_server_ipv4) := by
  constructor
  · rintro ⟨hnonzero, hmulticast, hbroadcast, hsoftap, hportal⟩
    rw [hmulticast, hbroadcast]
    simp [hnonzero, hsoftap, hportal]
  · rintro ⟨hgroup, hown⟩
    simp only [not_or, Bool.not_eq_true] at hgroup hown
    exact ⟨hgroup.1, hgroup.2.1, hgroup.2.2, hown.1, hown.2⟩

/-- **The checks on a first argument.** -/
theorem check_destination_ok_iff {destination_ipv4 : Option c_string} {candidate : UInt32} :
    check_destination lwip filter destination_ipv4 = .ok candidate ↔
      ∃ text softap, destination_ipv4 = some text ∧ text ≠ [] ∧
        filter.s_softap_netif = some softap ∧ lwip.ip4addr_aton text = some candidate ∧
        AllowedDestination lwip filter softap candidate := by
  constructor
  · intro h
    rcases destination_ipv4 with - | text
    · cases h
    rw [check_destination] at h
    split_ifs at h with hempty
    rcases hsoftap : filter.s_softap_netif with - | softap
    · rw [hsoftap] at h
      cases h
    rw [hsoftap] at h
    dsimp only at h
    rcases haddress : lwip.ip4addr_aton text with - | address
    · rw [haddress] at h
      cases h
    rw [haddress] at h
    dsimp only at h
    split_ifs at h with hgroup hown
    obtain rfl := Except.ok.inj h
    exact ⟨text, softap, rfl, hempty, rfl, haddress, allowedDestination_iff.mpr ⟨hgroup, hown⟩⟩
  · rintro ⟨text, softap, rfl, hempty, hsoftap, haddress, hallowed⟩
    obtain ⟨hgroup, hown⟩ := allowedDestination_iff.mp hallowed
    simp only [check_destination, if_neg hempty, hsoftap, haddress, if_neg hgroup, if_neg hown]

/-- What the critical section leaves: nothing has changed, or both rules are in their
tables and nothing else is new. -/
structure Installed (filter filter' : access_filter_t) (candidate : UInt32)
    (normalized_hostname : Option c_string) : Prop where
  destination : candidate ∈ filter'.s_blocked_destination_ipv4
  hostname : ∀ hostname ∈ normalized_hostname, hostname ∈ filter'.s_blocked_hostnames
  destinations : filter.s_blocked_destination_ipv4 <+: filter'.s_blocked_destination_ipv4
  hostnames : filter.s_blocked_hostnames <+: filter'.s_blocked_hostnames
  destinations_new : ∀ address ∈ filter'.s_blocked_destination_ipv4,
    address ∈ filter.s_blocked_destination_ipv4 ∨ address = candidate
  hostnames_new : ∀ rule ∈ filter'.s_blocked_hostnames,
    rule ∈ filter.s_blocked_hostnames ∨ rule ∈ normalized_hostname
  frame : filter' = { filter with
    s_blocked_destination_ipv4 := filter'.s_blocked_destination_ipv4
    s_blocked_hostnames := filter'.s_blocked_hostnames }

theorem install_rules_cases (filter : access_filter_t) (candidate : UInt32)
    (normalized_hostname : Option c_string) :
    install_rules filter candidate normalized_hostname = (filter, .ESP_ERR_NO_MEM) ∨
      (install_rules filter candidate normalized_hostname).2 = .ESP_OK ∧
        Installed filter (install_rules filter candidate normalized_hostname).1 candidate
          normalized_hostname := by
  unfold install_rules
  dsimp only
  -- both tables are checked for room before either is written
  by_cases hfull : (¬ candidate ∈ filter.s_blocked_destination_ipv4 ∧
      filter.s_blocked_destination_ipv4.length ≥ ACCESS_FILTER_BLOCKED_IPV4_CAPACITY) ∨
    (¬ (∀ hostname ∈ normalized_hostname, hostname ∈ filter.s_blocked_hostnames) ∧
      filter.s_blocked_hostnames.length ≥ ACCESS_FILTER_BLOCKED_HOSTNAME_CAPACITY)
  · exact .inl (by rw [if_pos hfull])
  rw [if_neg hfull]
  refine .inr ⟨rfl, ?_⟩
  -- a rule that is there already is not appended once more
  refine ⟨?_, ?_, ?_, ?_, ?_, ?_, rfl⟩
  · dsimp only
    split_ifs with hexists
    · exact hexists
    · exact List.mem_append_right _ (List.mem_singleton_self _)
  · dsimp only
    split_ifs with hexists
    · exact hexists
    · intro hostname hmem
      exact List.mem_append_right _ (Option.mem_toList.mpr hmem)
  · dsimp only
    split_ifs
    · exact List.prefix_rfl
    · exact List.prefix_append _ _
  · dsimp only
    split_ifs
    · exact List.prefix_rfl
    · exact List.prefix_append _ _
  · intro address hmem
    dsimp only at hmem
    split_ifs at hmem
    · exact .inl hmem
    · exact (List.mem_append.mp hmem).imp_right List.mem_singleton.mp
  · intro rule hmem
    dsimp only at hmem
    split_ifs at hmem
    · exact .inl hmem
    · exact (List.mem_append.mp hmem).imp_right Option.mem_toList.mp

/-- **What a call does**: it fails and changes nothing, or the address and the host name
it was given are rules from now on. -/
theorem block_traffic_cases (lwip : lwip_t) (filter : access_filter_t)
    (destination_ipv4 sni : Option c_string) :
    ((access_filter_block_traffic lwip filter destination_ipv4 sni).1 = filter ∧
        (access_filter_block_traffic lwip filter destination_ipv4 sni).2 ≠ .ESP_OK) ∨
      ∃ candidate normalized_hostname,
        check_destination lwip filter destination_ipv4 = .ok candidate ∧
        check_sni sni = .ok normalized_hostname ∧
        (access_filter_block_traffic lwip filter destination_ipv4 sni).2 = .ESP_OK ∧
        Installed filter (access_filter_block_traffic lwip filter destination_ipv4 sni).1
          candidate normalized_hostname := by
  unfold access_filter_block_traffic
  cases hdestination : check_destination lwip filter destination_ipv4 with
  | error err => exact .inl ⟨rfl, check_destination_error hdestination⟩
  | ok candidate =>
      cases hsni : check_sni sni with
      | error err => exact .inl ⟨rfl, check_sni_error hsni⟩
      | ok normalized_hostname =>
          dsimp only
          rcases install_rules_cases filter candidate normalized_hostname with
            hfull | ⟨hok, hinstalled⟩
          · rw [hfull]
            refine .inl ⟨rfl, ?_⟩
            rintro ⟨⟩
          · exact .inr ⟨candidate, normalized_hostname, rfl, rfl, hok, hinstalled⟩

/-- Rules stay. -/
theorem block_traffic_grows (lwip : lwip_t) (filter : access_filter_t)
    (destination_ipv4 sni : Option c_string) :
    filter.s_blocked_destination_ipv4
        <+: (access_filter_block_traffic lwip filter destination_ipv4
          sni).1.s_blocked_destination_ipv4 ∧
      filter.s_blocked_hostnames
        <+: (access_filter_block_traffic lwip filter destination_ipv4
          sni).1.s_blocked_hostnames := by
  rcases block_traffic_cases lwip filter destination_ipv4 sni with
    ⟨hsame, -⟩ | ⟨candidate, normalized_hostname, -, -, -, hinstalled⟩
  · rw [hsame]
    exact ⟨List.prefix_rfl, List.prefix_rfl⟩
  · exact ⟨hinstalled.destinations, hinstalled.hostnames⟩

/-- The flow table is none of its business. -/
theorem block_traffic_flows (lwip : lwip_t) (filter : access_filter_t)
    (destination_ipv4 sni : Option c_string) :
    (access_filter_block_traffic lwip filter destination_ipv4 sni).1.s_tls_flows
      = filter.s_tls_flows := by
  rcases block_traffic_cases lwip filter destination_ipv4 sni with
    ⟨hsame, -⟩ | ⟨candidate, normalized_hostname, -, -, -, hinstalled⟩
  · rw [hsame]
  · rw [hinstalled.frame]

/-- A successful call with a host name leaves the rule for it. -/
theorem block_traffic_hostname {destination_ipv4 : Option c_string} {sni : c_string}
    (hsni : sni ≠ [])
    (hok : (access_filter_block_traffic lwip filter destination_ipv4 (some sni)).2 = .ESP_OK) :
    canonical sni ∈ (access_filter_block_traffic lwip filter destination_ipv4
      (some sni)).1.s_blocked_hostnames := by
  rcases block_traffic_cases lwip filter destination_ipv4 (some sni) with
    ⟨-, herr⟩ | ⟨candidate, normalized_hostname, -, hnormal, -, hinstalled⟩
  · exact absurd hok herr
  rw [check_sni, if_neg hsni] at hnormal
  cases htext : normalize_hostname sni with
  | error err =>
      rw [htext] at hnormal
      cases hnormal
  | ok text =>
      rw [htext] at hnormal
      rw [← normalize_hostname_canonical htext]
      exact hinstalled.hostname text (Except.ok.inj hnormal).symm

end Spec

end WifiManager.AccessFilter
