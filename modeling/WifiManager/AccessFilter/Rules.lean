/-
The tables of rules over runs.

A run mixes starts, calls of `access_filter_block_traffic` with any arguments, and
segments. `RulesSound` is the invariant of both tables; that their addresses are allowed
refers to the access point and the portal, which no step changes once there is a rule
(`SettledFrom`). A call that succeeds can be repeated at any later time: its rules are
still there, so it succeeds again and changes nothing.
-/
import Mathlib.Data.List.Nodup
import WifiManager.AccessFilter.Installs
import WifiManager.AccessFilter.Labels

set_option autoImplicit false

namespace WifiManager.AccessFilter

open WifiManager.Lib
open WifiManager.TlsSniParser (tolower)

/-! ## Appending to a table -/

/-- A table with an entry in it: where it was, or at the end. -/
def append_new {α : Type} [DecidableEq α] (table : List α) (entry : α) : List α :=
  if entry ∈ table then table else table ++ [entry]

section Table

variable {α : Type} [DecidableEq α] {table : List α} {entry : α}

theorem append_new_present (h : entry ∈ table) : append_new table entry = table := if_pos h

theorem append_new_absent (h : entry ∉ table) : append_new table entry = table ++ [entry] :=
  if_neg h

theorem mem_append_new {other : α} :
    other ∈ append_new table entry ↔ other ∈ table ∨ other = entry := by
  by_cases h : entry ∈ table
  · rw [append_new_present h, or_iff_left_of_imp]
    rintro rfl
    exact h
  · rw [append_new_absent h, List.mem_append, List.mem_singleton]

theorem append_new_nodup (h : table.Nodup) : (append_new table entry).Nodup := by
  by_cases hmem : entry ∈ table
  · rwa [append_new_present hmem]
  · rw [append_new_absent hmem]
    exact h.append (List.nodup_singleton entry) (List.disjoint_singleton.mpr hmem)

theorem append_new_length : (append_new table entry).length ≤ table.length + 1 := by
  by_cases h : entry ∈ table
  · rw [append_new_present h]
    omega
  · rw [append_new_absent h, List.length_append, List.length_singleton]

/-- A table that is not full for an entry stays within its capacity. -/
theorem append_new_length_le {capacity : ℕ} (h : table.length ≤ capacity)
    (hroom : ¬ (¬ entry ∈ table ∧ table.length ≥ capacity)) :
    (append_new table entry).length ≤ capacity := by
  by_cases hmem : entry ∈ table
  · rwa [append_new_present hmem]
  · have hlt : table.length < capacity := Nat.lt_of_not_le fun hfull => hroom ⟨hmem, hfull⟩
    rw [append_new_absent hmem, List.length_append, List.length_singleton]
    exact hlt

end Table

/-- The table of host names behind a call. -/
def with_hostname (hostnames : List c_string) : Option c_string → List c_string
  | none => hostnames
  | some hostname => append_new hostnames hostname

/-! ## The critical section -/

section Install

variable {lwip : lwip_t} {filter : access_filter_t}

/-- Neither table is full for the entry it would get. -/
def HasRoom (filter : access_filter_t) (candidate : UInt32)
    (normalized_hostname : Option c_string) : Prop :=
  ¬ (¬ candidate ∈ filter.s_blocked_destination_ipv4 ∧
      filter.s_blocked_destination_ipv4.length ≥ ACCESS_FILTER_BLOCKED_IPV4_CAPACITY) ∧
    ∀ hostname ∈ normalized_hostname, ¬ (¬ hostname ∈ filter.s_blocked_hostnames ∧
      filter.s_blocked_hostnames.length ≥ ACCESS_FILTER_BLOCKED_HOSTNAME_CAPACITY)

/-- **Both rules or none.** -/
theorem install_rules_room (filter : access_filter_t) (candidate : UInt32)
    (normalized_hostname : Option c_string) :
    (HasRoom filter candidate normalized_hostname ∧
        install_rules filter candidate normalized_hostname
          = ({ filter with
              s_blocked_destination_ipv4 :=
                append_new filter.s_blocked_destination_ipv4 candidate
              s_blocked_hostnames :=
                with_hostname filter.s_blocked_hostnames normalized_hostname }, .ESP_OK)) ∨
      (¬ HasRoom filter candidate normalized_hostname ∧
        install_rules filter candidate normalized_hostname = (filter, .ESP_ERR_NO_MEM)) := by
  rw [install_rules, append_new]
  rcases normalized_hostname with - | hostname
  · simp only [HasRoom, Option.not_mem_none, false_imp_iff, implies_true, and_true,
      not_true_eq_false, false_and, or_false, if_true, with_hostname]
    by_cases hfull : ¬ candidate ∈ filter.s_blocked_destination_ipv4 ∧
        filter.s_blocked_destination_ipv4.length ≥ ACCESS_FILTER_BLOCKED_IPV4_CAPACITY
    · exact .inr ⟨not_not.mpr hfull, if_pos hfull⟩
    · exact .inl ⟨hfull, if_neg hfull⟩
  · simp only [HasRoom, Option.mem_some_iff, forall_eq', with_hostname, append_new,
      Option.toList_some, ← not_or]
    by_cases hfull : (¬ candidate ∈ filter.s_blocked_destination_ipv4 ∧
        filter.s_blocked_destination_ipv4.length ≥ ACCESS_FILTER_BLOCKED_IPV4_CAPACITY) ∨
      (¬ hostname ∈ filter.s_blocked_hostnames ∧
        filter.s_blocked_hostnames.length ≥ ACCESS_FILTER_BLOCKED_HOSTNAME_CAPACITY)
    · exact .inr ⟨not_not.mpr hfull, if_pos hfull⟩
    · exact .inl ⟨hfull, (if_neg hfull).trans (by congr)⟩

/-- Whatever is present has room. -/
theorem hasRoom_present {candidate : UInt32} {normalized_hostname : Option c_string}
    (hcandidate : candidate ∈ filter.s_blocked_destination_ipv4)
    (hhostname : ∀ hostname ∈ normalized_hostname, hostname ∈ filter.s_blocked_hostnames) :
    HasRoom filter candidate normalized_hostname :=
  ⟨fun hfull => hfull.1 hcandidate, fun hostname hmem hfull => hfull.1 (hhostname hostname hmem)⟩

/-- **What is installed can be installed again**, and nothing changes. -/
theorem install_rules_present {candidate : UInt32} {normalized_hostname : Option c_string}
    (hcandidate : candidate ∈ filter.s_blocked_destination_ipv4)
    (hhostname : ∀ hostname ∈ normalized_hostname, hostname ∈ filter.s_blocked_hostnames) :
    install_rules filter candidate normalized_hostname = (filter, .ESP_OK) := by
  rcases install_rules_room filter candidate normalized_hostname with ⟨-, hok⟩ | ⟨hfull, -⟩
  · rw [hok, append_new_present hcandidate]
    rcases normalized_hostname with - | hostname
    · rfl
    · rw [with_hostname, append_new_present (hhostname hostname rfl)]
  · exact absurd (hasRoom_present hcandidate hhostname) hfull

/-- What `check_sni` returns is normalised. -/
theorem check_sni_normal {sni : Option c_string} {hostname : c_string}
    (h : check_sni sni = .ok (some hostname)) : normalize_hostname hostname = .ok hostname := by
  rcases sni with - | text
  · cases h
  rw [check_sni] at h
  split_ifs at h
  · exact absurd (Except.ok.inj h) (Option.some_ne_none _).symm
  cases hnormal : normalize_hostname text with
  | error err =>
      rw [hnormal] at h
      cases h
  | ok normalized =>
      rw [hnormal] at h
      obtain rfl := Option.some.inj (Except.ok.inj h)
      exact normalize_hostname_idempotent hnormal

/-! ## The invariant of the tables -/

/-- The tables hold no entry twice, are within their capacities, and hold only what the
checks let through. -/
structure RulesSound (lwip : lwip_t) (filter : access_filter_t) : Prop where
  destinations_nodup : filter.s_blocked_destination_ipv4.Nodup
  hostnames_nodup : filter.s_blocked_hostnames.Nodup
  destinations_length : filter.s_blocked_destination_ipv4.length
    ≤ ACCESS_FILTER_BLOCKED_IPV4_CAPACITY
  hostnames_length : filter.s_blocked_hostnames.length ≤ ACCESS_FILTER_BLOCKED_HOSTNAME_CAPACITY
  hostnames_normal : ∀ rule ∈ filter.s_blocked_hostnames, normalize_hostname rule = .ok rule
  destinations_allowed : ∀ address ∈ filter.s_blocked_destination_ipv4,
    ∃ softap, filter.s_softap_netif = some softap ∧ AllowedDestination lwip filter softap address

theorem rulesSound_init : RulesSound lwip {} where
  destinations_nodup := List.nodup_nil
  hostnames_nodup := List.nodup_nil
  destinations_length := Nat.zero_le _
  hostnames_length := Nat.zero_le _
  hostnames_normal := fun _ hrule => absurd hrule List.not_mem_nil
  destinations_allowed := fun _ haddress => absurd haddress List.not_mem_nil

/-- A call that gets to the critical section. -/
theorem block_traffic_checked {destination_ipv4 sni : Option c_string} {candidate : UInt32}
    {normalized_hostname : Option c_string}
    (hdestination : check_destination lwip filter destination_ipv4 = .ok candidate)
    (hsni : check_sni sni = .ok normalized_hostname) :
    access_filter_block_traffic lwip filter destination_ipv4 sni
      = install_rules filter candidate normalized_hostname := by
  rw [access_filter_block_traffic, hdestination]
  dsimp only
  rw [hsni]

/-- **A successful call**, with both tables behind it. -/
theorem block_traffic_ok {destination_ipv4 sni : Option c_string}
    (h : (access_filter_block_traffic lwip filter destination_ipv4 sni).2 = .ESP_OK) :
    ∃ candidate normalized_hostname,
      check_destination lwip filter destination_ipv4 = .ok candidate ∧
      check_sni sni = .ok normalized_hostname ∧
      HasRoom filter candidate normalized_hostname ∧
      (access_filter_block_traffic lwip filter destination_ipv4 sni).1
        = { filter with
            s_blocked_destination_ipv4 :=
              append_new filter.s_blocked_destination_ipv4 candidate
            s_blocked_hostnames :=
              with_hostname filter.s_blocked_hostnames normalized_hostname } := by
  rcases block_traffic_cases lwip filter destination_ipv4 sni with
    ⟨-, herr⟩ | ⟨candidate, normalized_hostname, hdestination, hsni, -, -⟩
  · exact absurd h herr
  have hcall := block_traffic_checked hdestination hsni
  rw [hcall] at h ⊢
  rcases install_rules_room filter candidate normalized_hostname with ⟨hroom, hok⟩ | ⟨-, hfull⟩
  · exact ⟨candidate, normalized_hostname, hdestination, hsni, hroom, by rw [hok]⟩
  · rw [hfull] at h
    cases h

/-- A call keeps the tables sound. -/
theorem RulesSound.block_traffic (h : RulesSound lwip filter)
    (destination_ipv4 sni : Option c_string) :
    RulesSound lwip (access_filter_block_traffic lwip filter destination_ipv4 sni).1 := by
  rcases block_traffic_cases lwip filter destination_ipv4 sni with
    ⟨hsame, -⟩ | ⟨-, -, -, -, hok, -⟩
  · rwa [hsame]
  obtain ⟨candidate, normalized_hostname, hdestination, hsni, hroom, hafter⟩ :=
    block_traffic_ok hok
  obtain ⟨text, softap, -, -, hsoftap, -, hallowed⟩ := check_destination_ok_iff.mp hdestination
  rw [hafter]
  refine ⟨append_new_nodup h.destinations_nodup, ?_,
    append_new_length_le h.destinations_length hroom.1, ?_, ?_, ?_⟩
  · rcases normalized_hostname with - | hostname
    · exact h.hostnames_nodup
    · exact append_new_nodup h.hostnames_nodup
  · rcases normalized_hostname with - | hostname
    · exact h.hostnames_length
    · exact append_new_length_le h.hostnames_length (hroom.2 hostname rfl)
  · intro rule hrule
    rcases normalized_hostname with - | hostname
    · exact h.hostnames_normal rule hrule
    · rcases mem_append_new.mp hrule with hold | rfl
      · exact h.hostnames_normal rule hold
      · exact check_sni_normal hsni
  · intro address haddress
    rcases mem_append_new.mp haddress with hold | rfl
    · obtain ⟨softap', hsoftap', hallowed'⟩ := h.destinations_allowed address hold
      exact ⟨softap', hsoftap', hallowed'.1, hallowed'.2, hallowed'.3, hallowed'.4, hallowed'.5⟩
    · exact ⟨softap, hsoftap, hallowed.1, hallowed.2, hallowed.3, hallowed.4, hallowed.5⟩

theorem start_started (lwip : lwip_t) (wifi_ap_def : Option netif)
    (hstarted : filter.s_softap_netif.isSome = true) (portal_server_ipv4 : Option c_string) :
    access_filter_start lwip wifi_ap_def filter portal_server_ipv4 = (filter, .ESP_OK) := by
  unfold access_filter_start
  rw [if_pos hstarted]

/-- A start keeps them sound: before it there is no rule, and behind it nothing changes. -/
theorem RulesSound.start (h : RulesSound lwip filter) (wifi_ap_def : Option netif)
    (portal_server_ipv4 : Option c_string) :
    RulesSound lwip (access_filter_start lwip wifi_ap_def filter portal_server_ipv4).1 := by
  have hdestinations := start_installs_nothing lwip wifi_ap_def filter portal_server_ipv4
  have hhostnames := (start_keeps lwip wifi_ap_def filter portal_server_ipv4).2
  by_cases hstarted : filter.s_softap_netif.isSome
  · rwa [start_started lwip wifi_ap_def hstarted]
  · constructor
    · rw [hdestinations]
      exact h.destinations_nodup
    · rw [hhostnames]
      exact h.hostnames_nodup
    · rw [hdestinations]
      exact h.destinations_length
    · rw [hhostnames]
      exact h.hostnames_length
    · rw [hhostnames]
      exact h.hostnames_normal
    · rw [hdestinations]
      intro address haddress
      obtain ⟨softap, hsoftap, -⟩ := h.destinations_allowed address haddress
      exact absurd (Option.isSome_of_eq_some hsoftap) hstarted

/-- **The step lemma.** -/
theorem RulesSound.step (h : RulesSound lwip filter) (input : filter_input) :
    RulesSound lwip (filter.step lwip input).1 := by
  cases input with
  | start wifi_ap_def portal_server_ipv4 => exact h.start wifi_ap_def portal_server_ipv4
  | block_traffic destination_ipv4 sni => exact h.block_traffic destination_ipv4 sni
  | segment now_ms segment =>
      rw [access_filter_t.step]
      split_ifs
      · exact ⟨h.1, h.2, h.3, h.4, h.5, fun address haddress => by
          obtain ⟨softap, hsoftap, hallowed⟩ := h.6 address haddress
          exact ⟨softap, hsoftap, hallowed.1, hallowed.2, hallowed.3, hallowed.4, hallowed.5⟩⟩
      · exact h

/-- **The run lemma.** -/
theorem rules_sound (lwip : lwip_t) (inputs : List filter_input) :
    RulesSound lwip (access_filter_t.after lwip inputs) :=
  Machine.run_invariant (I := RulesSound lwip) _ (fun _ input h => h.step input) rulesSound_init
    inputs

/-! ## What stays -/

/-- What a run keeps of a filter that has been started. -/
structure SettledFrom (filter filter' : access_filter_t) : Prop where
  softap : filter'.s_softap_netif = filter.s_softap_netif
  portal_ipv4 : filter'.s_portal_server_ipv4 = filter.s_portal_server_ipv4
  portal_enabled : filter'.s_portal_server_enabled = filter.s_portal_server_enabled
  destinations : filter.s_blocked_destination_ipv4 <+: filter'.s_blocked_destination_ipv4
  hostnames : filter.s_blocked_hostnames <+: filter'.s_blocked_hostnames

theorem SettledFrom.refl (filter : access_filter_t) : SettledFrom filter filter :=
  ⟨rfl, rfl, rfl, List.prefix_rfl, List.prefix_rfl⟩

theorem SettledFrom.trans {first second third : access_filter_t} (h : SettledFrom first second)
    (h' : SettledFrom second third) : SettledFrom first third where
  softap := h'.softap.trans h.softap
  portal_ipv4 := h'.portal_ipv4.trans h.portal_ipv4
  portal_enabled := h'.portal_enabled.trans h.portal_enabled
  destinations := h.destinations.trans h'.destinations
  hostnames := h.hostnames.trans h'.hostnames

theorem block_traffic_settled (lwip : lwip_t) (filter : access_filter_t)
    (destination_ipv4 sni : Option c_string) :
    SettledFrom filter (access_filter_block_traffic lwip filter destination_ipv4 sni).1 := by
  rcases block_traffic_cases lwip filter destination_ipv4 sni with
    ⟨hsame, -⟩ | ⟨candidate, normalized_hostname, -, -, -, hinstalled⟩
  · rw [hsame]
    exact SettledFrom.refl filter
  · have hframe := hinstalled.frame
    exact ⟨by rw [hframe], by rw [hframe], by rw [hframe], hinstalled.destinations,
      hinstalled.hostnames⟩

theorem step_settled (lwip : lwip_t) (hstarted : filter.s_softap_netif.isSome = true)
    (input : filter_input) : SettledFrom filter (filter.step lwip input).1 := by
  cases input with
  | start wifi_ap_def portal_server_ipv4 =>
      rw [access_filter_t.step, start_started lwip wifi_ap_def hstarted]
      exact SettledFrom.refl filter
  | block_traffic destination_ipv4 sni =>
      exact block_traffic_settled lwip filter destination_ipv4 sni
  | segment now_ms segment =>
      rw [access_filter_t.step]
      split_ifs
      · exact ⟨rfl, rfl, rfl, List.prefix_rfl, List.prefix_rfl⟩
      · exact SettledFrom.refl filter

theorem run_settled (lwip : lwip_t) (hstarted : filter.s_softap_netif.isSome = true)
    (inputs : List filter_input) :
    SettledFrom filter (Machine.run (access_filter_t.step lwip) filter inputs) := by
  apply Machine.run_invariant (access_filter_t.step lwip) _ (SettledFrom.refl filter) inputs
  intro later input h
  have hlater : later.s_softap_netif.isSome = true := by rw [h.softap, hstarted]
  exact h.trans (step_settled lwip hlater input)

/-! ## Repeating a call -/

/-- The host name that a second argument gives, if it gives one. -/
def given_hostname (sni : Option c_string) : Option c_string := sni.filter (· ≠ [])

/-- The same host name in the eyes of the filter: neither argument gives one, or both do and
they differ in letter case and a trailing dot at most. -/
def SameHostname (sni sni' : Option c_string) : Prop :=
  (given_hostname sni).map canonical = (given_hostname sni').map canonical

example : SameHostname (some (c_str "Example.COM.")) (some (c_str "example.com")) := by
  unfold SameHostname
  decide

theorem check_sni_given (sni : Option c_string) :
    check_sni sni
      = match given_hostname sni with
        | none => .ok none
        | some text => (normalize_hostname text).map some := by
  rcases sni with - | text
  · rfl
  · rw [check_sni, given_hostname]
    by_cases hempty : text = []
    · rw [if_pos hempty, hempty]
      rfl
    · rw [if_neg hempty, Option.filter, if_pos (by simpa using hempty)]

theorem SameHostname.check_sni {sni sni' : Option c_string} (h : SameHostname sni sni') :
    AccessFilter.check_sni sni' = AccessFilter.check_sni sni := by
  rw [check_sni_given, check_sni_given]
  unfold SameHostname at h
  generalize given_hostname sni = given at h ⊢
  generalize given_hostname sni' = given' at h ⊢
  match given, given' with
  | none, none => rfl
  | some text, some text' =>
      dsimp only
      rw [normalize_hostname_congr (Option.some.inj h)]

/-- The check of an address depends on the access point and the portal only. -/
theorem SettledFrom.check_destination {filter' : access_filter_t} (h : SettledFrom filter filter')
    (lwip : lwip_t) (destination_ipv4 : Option c_string) :
    AccessFilter.check_destination lwip filter' destination_ipv4
      = AccessFilter.check_destination lwip filter destination_ipv4 := by
  unfold AccessFilter.check_destination
  rw [h.softap, h.portal_ipv4, h.portal_enabled]

/-- **A call that succeeded succeeds at any later time**, in any spelling of its host name,
and changes nothing: not even full tables are in its way. -/
theorem block_traffic_again {destination_ipv4 sni : Option c_string}
    (h : (access_filter_block_traffic lwip filter destination_ipv4 sni).2 = .ESP_OK)
    {sni' : Option c_string} (hsame : SameHostname sni sni') (later : List filter_input) :
    access_filter_block_traffic lwip
        (Machine.run (access_filter_t.step lwip)
          (access_filter_block_traffic lwip filter destination_ipv4 sni).1 later)
        destination_ipv4 sni'
      = (Machine.run (access_filter_t.step lwip)
          (access_filter_block_traffic lwip filter destination_ipv4 sni).1 later, .ESP_OK) := by
  obtain ⟨candidate, normalized_hostname, hdestination, hsni, -, hafter⟩ := block_traffic_ok h
  obtain ⟨text, softap, -, -, hsoftap, -, -⟩ := check_destination_ok_iff.mp hdestination
  have hnext := block_traffic_settled lwip filter destination_ipv4 sni
  have hstarted : (access_filter_block_traffic lwip filter destination_ipv4
      sni).1.s_softap_netif.isSome = true := by
    rw [hnext.softap, hsoftap]
    rfl
  have hlater := run_settled lwip hstarted later
  -- both rules are in the tables behind the call, and what is there stays
  have hcandidate : candidate ∈ (access_filter_block_traffic lwip filter destination_ipv4
      sni).1.s_blocked_destination_ipv4 := by
    rw [hafter]
    exact mem_append_new.mpr (.inr rfl)
  have hhostname : ∀ hostname ∈ normalized_hostname,
      hostname ∈ (access_filter_block_traffic lwip filter destination_ipv4
        sni).1.s_blocked_hostnames := by
    intro hostname hmem
    rw [hafter, Option.mem_def.mp hmem]
    exact mem_append_new.mpr (.inr rfl)
  rw [block_traffic_checked (((hnext.trans hlater).check_destination lwip _).trans hdestination)
    (hsame.check_sni.trans hsni)]
  exact install_rules_present (hlater.destinations.subset hcandidate)
    fun hostname hmem => hlater.hostnames.subset (hhostname hostname hmem)

end Install

/-! ## Results -/

/-- **Installing rules.** Behind any run the tables are sound; a call that fails changes
nothing; a call that succeeds leaves all entries where they are, adds one entry to each
table at most, has both of its rules in them, and can be repeated at any later time, in
any spelling of its host name, without changing anything. -/
theorem rule_installation (lwip : lwip_t) (inputs : List filter_input) :
    let filter := access_filter_t.after lwip inputs
    RulesSound lwip filter ∧
      ∀ destination_ipv4 sni,
        let result := access_filter_block_traffic lwip filter destination_ipv4 sni
        (result.2 ≠ .ESP_OK → result.1 = filter) ∧
        (result.2 = .ESP_OK →
          (∃ text address, destination_ipv4 = some text ∧
            lwip.ip4addr_aton text = some address ∧
            address ∈ result.1.s_blocked_destination_ipv4) ∧
          (∀ name ∈ given_hostname sni, ∃ hostname, normalize_hostname name = .ok hostname ∧
            hostname ∈ result.1.s_blocked_hostnames) ∧
          filter.s_blocked_destination_ipv4 <+: result.1.s_blocked_destination_ipv4 ∧
          filter.s_blocked_hostnames <+: result.1.s_blocked_hostnames ∧
          result.1.s_blocked_destination_ipv4.length
            ≤ filter.s_blocked_destination_ipv4.length + 1 ∧
          result.1.s_blocked_hostnames.length ≤ filter.s_blocked_hostnames.length + 1 ∧
          ∀ sni', SameHostname sni sni' → ∀ later,
            access_filter_block_traffic lwip
                (Machine.run (access_filter_t.step lwip) result.1 later) destination_ipv4 sni'
              = (Machine.run (access_filter_t.step lwip) result.1 later, .ESP_OK)) := by
  intro filter
  refine ⟨rules_sound lwip inputs, fun destination_ipv4 sni => ?_⟩
  dsimp only
  constructor
  · intro herr
    rcases block_traffic_cases lwip filter destination_ipv4 sni with
      ⟨hsame, -⟩ | ⟨-, -, -, -, hok, -⟩
    · exact hsame
    · exact absurd hok herr
  · intro hok
    obtain ⟨candidate, normalized_hostname, hdestination, hsni, -, hafter⟩ := block_traffic_ok hok
    obtain ⟨text, softap, htext, -, -, haddress, -⟩ := check_destination_ok_iff.mp hdestination
    obtain ⟨hdestinations, hhostnames⟩ := block_traffic_grows lwip filter destination_ipv4 sni
    refine ⟨⟨text, candidate, htext, haddress, ?_⟩, ?_, hdestinations, hhostnames, ?_, ?_,
      fun sni' hsame later => block_traffic_again hok hsame later⟩
    · rw [hafter]
      exact mem_append_new.mpr (.inr rfl)
    · intro name hname
      rw [check_sni_given, Option.mem_def.mp hname] at hsni
      dsimp only at hsni
      cases hnormal : normalize_hostname name with
      | error err =>
          rw [hnormal] at hsni
          cases hsni
      | ok hostname =>
          rw [hnormal] at hsni
          obtain rfl := Except.ok.inj hsni
          refine ⟨hostname, rfl, ?_⟩
          rw [hafter]
          exact mem_append_new.mpr (.inr rfl)
    · rw [hafter]
      exact append_new_length
    · rw [hafter]
      rcases normalized_hostname with - | hostname
      · exact Nat.le_succ _
      · exact append_new_length

/-- What is blocked under any rules, read on labels. -/
theorem is_hostname_blocked_iff (rules : List c_string) (hostname : c_string) :
    access_filter_is_hostname_blocked rules hostname = true ↔
      rules ≠ [] ∧ (¬ ValidHostname (without_trailing_dot hostname) ∨
        ∃ rule ∈ rules, rule.splitOn dot <:+ (canonical hostname).splitOn dot) := by
  by_cases hrules : rules = []
  · subst hrules
    simp [access_filter_is_hostname_blocked]
  · rw [and_iff_right hrules]
    by_cases hvalid : ValidHostname (without_trailing_dot hostname)
    · rw [is_hostname_blocked_valid hvalid, or_iff_right (not_not.mpr hvalid)]
    · exact iff_of_true (is_hostname_blocked_invalid hrules hvalid) (.inl hvalid)

theorem is_hostname_blocked_congr (rules : List c_string) {hostname other : c_string}
    (h : canonical hostname = canonical other) :
    access_filter_is_hostname_blocked rules hostname
      = access_filter_is_hostname_blocked rules other := by
  unfold access_filter_is_hostname_blocked
  rw [normalize_hostname_congr h]

theorem canonical_of_tolower {hostname other : c_string}
    (h : hostname.map tolower = other.map tolower) : canonical hostname = canonical other := by
  rw [← canonical_tolower hostname, h, canonical_tolower]

theorem canonical_trailing_dot {hostname : c_string} (h : hostname.getLast? ≠ some dot) :
    canonical (hostname ++ [dot]) = canonical hostname := by
  have hlast : (hostname ++ [dot]).getLast? = some dot := by simp
  unfold canonical
  rw [if_pos hlast, if_neg h, List.dropLast_concat]

/-- A name that only ends in the bytes of a rule is not below it. -/
theorem not_suffix_of_bytes {front rule : c_string} {value : UInt8} (h : value ≠ dot) :
    ¬ rule.splitOn dot <:+ (front ++ value :: rule).splitOn dot := by
  rw [Split.splitOn_suffix_iff]
  rintro (hsame | hbelow)
  · have hlength := congrArg List.length hsame
    rw [List.length_append, List.length_cons] at hlength
    omega
  · have hsuffix : value :: rule <:+ front ++ value :: rule := List.suffix_append _ _
    have heq := (List.suffix_of_suffix_length_le hbelow hsuffix (Nat.le_refl _)).eq_of_length rfl
    exact h (List.cons.inj heq).1.symm

/-- **Host name rules are suffixes of whole labels.** Under the rules that any run leaves: a
name is blocked if and only if there is a rule and the name is not valid or has the labels
of a rule as its last labels. Neither letter case nor a trailing dot matters, what is
normalised stays as it is, and a rule covers itself and every name below it but no name
that only ends in the same bytes. -/
theorem hostname_rules (lwip : lwip_t) (inputs : List filter_input) :
    let rules := (access_filter_t.after lwip inputs).s_blocked_hostnames
    (∀ hostname, access_filter_is_hostname_blocked rules hostname = true ↔
      rules ≠ [] ∧ (¬ ValidHostname (without_trailing_dot hostname) ∨
        ∃ rule ∈ rules, rule.splitOn dot <:+ (canonical hostname).splitOn dot)) ∧
    (∀ hostname other, hostname.map tolower = other.map tolower →
      access_filter_is_hostname_blocked rules hostname
        = access_filter_is_hostname_blocked rules other) ∧
    (∀ hostname, hostname.getLast? ≠ some dot →
      access_filter_is_hostname_blocked rules (hostname ++ [dot])
        = access_filter_is_hostname_blocked rules hostname) ∧
    (∀ input text, normalize_hostname input = .ok text → normalize_hostname text = .ok text) ∧
    (∀ rule ∈ rules, access_filter_is_hostname_blocked rules rule = true ∧
      ∀ below, access_filter_is_hostname_blocked rules (below ++ dot :: rule) = true) ∧
    ∀ rule ∈ rules, ∀ hostname front value, value ≠ dot →
      canonical hostname = front ++ value :: rule →
      ValidHostname (without_trailing_dot hostname) →
      access_filter_is_hostname_blocked [rule] hostname = false := by
  intro rules
  refine ⟨is_hostname_blocked_iff rules,
    fun hostname other h => is_hostname_blocked_congr rules (canonical_of_tolower h),
    fun hostname h => is_hostname_blocked_congr rules (canonical_trailing_dot h),
    fun input text => normalize_hostname_idempotent, fun rule hrule => ?_,
    fun rule hrule hostname front value hvalue heq hvalid => ?_⟩
  · -- a stored rule is its own canonical form
    have hnormal := (rules_sound lwip inputs).hostnames_normal rule hrule
    obtain ⟨hvalid, hcanonical⟩ := (normalize_hostname_ok_iff rule rule).mp hnormal
    have hstored : canonical rule ∈ rules := by
      rw [← hcanonical]
      exact hrule
    refine ⟨is_hostname_blocked_of_names hstored (.inl rfl), fun below => ?_⟩
    apply is_hostname_blocked_of_names hstored
    refine .inr ⟨below.map tolower, ?_⟩
    have hrule_last : rule.getLast? ≠ some dot := by
      rw [hcanonical, canonical_eq, List.getLast?_map]
      intro hlast
      obtain ⟨last, hmem, hdot⟩ := Option.map_eq_some_iff.mp hlast
      rw [(tolower_byte last).1] at hdot
      exact hvalid.getLast?_ne (by rw [hmem, hdot])
    have hrule_ne : rule ≠ [] := by
      intro hempty
      rw [hempty] at hvalid
      exact absurd hvalid.length_pos (by decide)
    have hname_last : (below ++ dot :: rule).getLast? ≠ some dot := by
      rw [List.getLast?_append_of_ne_nil _ (by simp), List.getLast?_cons_of_ne_nil hrule_ne]
      exact hrule_last
    unfold canonical
    rw [if_neg hrule_last, if_neg hname_last, List.map_append, List.map_cons]
    rfl
  · rw [Bool.eq_false_iff, Ne, is_hostname_blocked_valid hvalid, heq]
    rintro ⟨other, hother, hsuffix⟩
    obtain rfl := List.mem_singleton.mp hother
    exact not_suffix_of_bytes hvalue hsuffix

end WifiManager.AccessFilter
