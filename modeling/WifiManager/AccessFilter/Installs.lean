/-
Rules that are installed while flows are tracked.

A decision is made once, when the ClientHello of a flow is complete, and under the rules
installed by then (`Judged`). An entry that was decided `TLS_FLOW_ALLOW` is never looked at
again, so a rule that is installed later reaches every tracked flow but those. A run of
`access_filter_t.step` interleaves installs and segments; `takes_effect_iff` is the exact
condition under which the segments behind an install are blocked, and `allowed_keeps_going`
the run in which they are not.
-/
import Mathlib.Data.List.Basic
import WifiManager.Lib.Machine
import WifiManager.AccessFilter.Filter
import WifiManager.AccessFilter.Streams

set_option autoImplicit false

namespace WifiManager.AccessFilter

open WifiManager.Lib WifiManager.TlsSniParser

open tls_flow_state_t

/-! ## The name in an entry -/

/-- The host name in the ClientHello of a flow, once the message is complete: the parser of
an entry keeps the bytes that it was decided by. -/
def tls_flow_t.parsed_hostname (flow : tls_flow_t) : Option c_string :=
  (hello_verdict TLS_SNI_HOSTNAME_SIZE flow.parser.client_hello).bind fun outcome =>
    if outcome.result = .FOUND then some outcome.hostname else none

theorem parsed_hostname_eq_some {flow : tls_flow_t} {hostname : c_string} :
    flow.parsed_hostname = some hostname ↔
      ∃ outcome, hello_verdict TLS_SNI_HOSTNAME_SIZE flow.parser.client_hello = some outcome ∧
        outcome.result = .FOUND ∧ outcome.hostname = hostname := by
  unfold tls_flow_t.parsed_hostname
  rw [Option.bind_eq_some_iff]
  constructor
  · rintro ⟨outcome, hverdict, hname⟩
    split_ifs at hname with hfound
    exact ⟨outcome, hverdict, hfound, Option.some.inj hname⟩
  · rintro ⟨outcome, hverdict, hfound, hname⟩
    exact ⟨outcome, hverdict, by rw [if_pos hfound, hname]⟩

/-- A parser that has not decided holds no name. -/
theorem parsed_hostname_reading {flow : tls_flow_t}
    (h : Reading TLS_SNI_HOSTNAME_SIZE flow.parser) : flow.parsed_hostname = none := by
  rw [tls_flow_t.parsed_hostname, h.undecided, Option.bind_none]

/-! ## A flow is decided under the rules of the moment -/

/-- What feeding under `rules` makes of an entry under inspection: it goes on, or it is
decided, and `TLS_FLOW_ALLOW` only for a name that no rule covers. -/
structure Judged (rules : List c_string) (flow : tls_flow_t) : Prop where
  used : flow.state ≠ TLS_FLOW_FREE
  going : flow.state = TLS_FLOW_INSPECTING → Reading TLS_SNI_HOSTNAME_SIZE flow.parser
  allowed : flow.state = TLS_FLOW_ALLOW → ∀ hostname, flow.parsed_hostname = some hostname →
    access_filter_is_hostname_blocked rules hostname = false

section Feeding

variable {rules : List c_string} {flow : tls_flow_t}

theorem judged_going (hstate : flow.state = TLS_FLOW_INSPECTING)
    (h : Reading TLS_SNI_HOSTNAME_SIZE flow.parser) : Judged rules flow := by
  refine ⟨by rw [hstate]; decide, fun _ => h, fun hallowed => ?_⟩
  rw [hstate] at hallowed
  cases hallowed

theorem judged_blocked (rules : List c_string) (hstate : flow.state = TLS_FLOW_BLOCK) :
    Judged rules flow := by
  constructor <;> intro hother <;> rw [hstate] at hother <;> cases hother

/-- **One chunk**: the name that decides is the one in the buffer. -/
theorem feed_chunk_judged (hstate : flow.state = TLS_FLOW_INSPECTING)
    (h : Reading TLS_SNI_HOSTNAME_SIZE flow.parser) (chunk : List UInt8) :
    Judged rules (feed_chunk rules flow chunk) := by
  unfold feed_chunk
  dsimp only
  by_cases hmore : (tls_sni_parser_feed flow.parser chunk TLS_SNI_HOSTNAME_SIZE).result
      = .NEED_MORE
  · rw [apply_tls_parse_result, if_pos hmore]
    exact judged_going hstate (feed_reading h hostname_size_ne hmore)
  · have hdecided := apply_result_state rules
      { flow with
        parser := (tls_sni_parser_feed flow.parser chunk TLS_SNI_HOSTNAME_SIZE).parser
        inspected_bytes := flow.inspected_bytes + chunk.length } hmore
      (tls_sni_parser_feed flow.parser chunk TLS_SNI_HOSTNAME_SIZE).hostname
    -- the decision is taken behind the parser and leaves it alone
    have hkeeps : ∀ (flow : tls_flow_t) result hostname,
        (apply_tls_parse_result rules flow result hostname).parser = flow.parser := by
      intro flow result hostname
      unfold apply_tls_parse_result
      split_ifs <;> rfl
    have hended : ∀ outcome, outcome_state rules outcome ≠ TLS_FLOW_FREE ∧
        outcome_state rules outcome ≠ TLS_FLOW_INSPECTING := by
      intro outcome
      rcases outcome_state_decided rules outcome with ha | hb
      · rw [ha]
        decide
      · rw [hb]
        decide
    refine ⟨by rw [hdecided]; exact (hended _).1, ?_, ?_⟩
    · intro hstill
      rw [hdecided] at hstill
      exact absurd hstill (hended _).2
    · intro hallowed hostname hname
      rw [hdecided, outcome_state] at hallowed
      split_ifs at hallowed with hfound
      obtain ⟨outcome, hverdict, -, rfl⟩ := parsed_hostname_eq_some.mp hname
      rw [hkeeps] at hverdict
      rw [← feed_verdict h hostname_size_ne chunk hmore hverdict]
      -- the name that was allowed is the name that was looked up
      exact hfound.2.2

/-- **Feeding**, by induction over the chunks. -/
theorem feed_tls_stream_judged (lwip : lwip_t) (h : Judged rules flow) (packet : pbuf)
    (payload_offset payload_length : ℕ) :
    Judged rules (feed_tls_stream lwip rules flow packet payload_offset payload_length) := by
  fun_induction feed_tls_stream lwip rules flow packet payload_offset payload_length with
  | case1 => exact judged_blocked rules rfl
  | case2 => exact judged_blocked rules rfl
  | case3 => exact judged_blocked rules rfl
  | case4 flow payload_offset payload_length hgoing _ _ _ chunk _ ih =>
      exact ih (feed_chunk_judged hgoing.2 (h.going hgoing.2) chunk)
  | case5 => exact judged_blocked rules rfl
  | case6 => exact h

/-- **The payload of a segment.** -/
theorem segment_fed_judged (lwip : lwip_t) (h : Judged rules flow) (now_ms : UInt32)
    (segment : tls_segment) :
    Judged rules (segment_fed lwip rules now_ms flow segment) := by
  have hseen : Judged rules { flow with last_seen_ms := now_ms } := ⟨h.used, h.going, h.allowed⟩
  unfold segment_fed inspect_payload
  dsimp only
  split_ifs
  · exact judged_blocked rules rfl
  · have hfed := feed_tls_stream_judged lwip hseen segment.packet
      (segment.payload_offset + (flow.next_sequence - segment.payload_sequence).toNat)
      (segment.payload_length - (flow.next_sequence - segment.payload_sequence).toNat)
    exact ⟨hfed.used, hfed.going, hfed.allowed⟩
  · exact hseen
  · exact hseen

end Feeding

/-! ## One segment -/

/-- An entry behind the payload of a segment: only one under inspection is fed, and not by
a RST. -/
def tls_flow_t.read (lwip : lwip_t) (rules : List c_string) (now_ms : UInt32)
    (segment : tls_segment) (flow : tls_flow_t) : tls_flow_t :=
  if flow.state = TLS_FLOW_INSPECTING ∧ segment.flags &&& TCP_RST = 0 then
    segment_fed lwip rules now_ms flow segment
  else flow

section Segment

variable {lwip : lwip_t} {rules : List c_string} {now_ms : UInt32} {segment : tls_segment}
  {flow flow' : tls_flow_t}

theorem read_going (hstate : flow.state = TLS_FLOW_INSPECTING)
    (hrst : segment.flags &&& TCP_RST = 0) :
    flow.read lwip rules now_ms segment = segment_fed lwip rules now_ms flow segment := by
  rw [tls_flow_t.read, if_pos ⟨hstate, hrst⟩]

theorem read_decided (hstate : flow.state ≠ TLS_FLOW_INSPECTING) :
    flow.read lwip rules now_ms segment = flow := by
  rw [tls_flow_t.read, if_neg (fun h => hstate h.1)]

theorem decided_of_used (hused : flow.state ≠ TLS_FLOW_FREE)
    (hins : flow.state ≠ TLS_FLOW_INSPECTING) :
    flow.state = TLS_FLOW_ALLOW ∨ flow.state = TLS_FLOW_BLOCK := by
  cases hstate : flow.state with
  | TLS_FLOW_FREE => exact absurd hstate hused
  | TLS_FLOW_INSPECTING => exact absurd hstate hins
  | TLS_FLOW_ALLOW => exact .inl rfl
  | TLS_FLOW_BLOCK => exact .inr rfl

/-- A segment whose payload blocks its flow, or that finds it blocked, is discarded. -/
theorem inspected_blocked (hrst : segment.flags &&& TCP_RST = 0)
    (hblock : (flow.read lwip rules now_ms segment).state = TLS_FLOW_BLOCK) :
    (inspected lwip rules now_ms flow segment).2 = true := by
  by_cases hins : flow.state = TLS_FLOW_INSPECTING
  · rw [read_going hins hrst] at hblock
    by_cases hfin : segment.flags &&& TCP_FIN = 0
    · rw [inspected_going lwip rules now_ms flow segment hins hfin]
      dsimp only
      rw [hblock]
      decide
    · exact (inspected_fin lwip rules now_ms flow segment hins hfin).2 (.inr hblock)
  · rw [read_decided hins] at hblock
    rw [inspected_decided lwip rules now_ms flow segment (.inr hblock)]
    dsimp only
    rw [hblock]
    decide

/-- The entry that a segment leaves is the one behind its payload. -/
theorem inspected_leaves (hused : flow.state ≠ TLS_FLOW_FREE)
    (hrst : segment.flags &&& TCP_RST = 0)
    (hs : (inspected lwip rules now_ms flow segment).1.settled = some flow') :
    flow'.state = (flow.read lwip rules now_ms segment).state ∧
      flow'.parser = (flow.read lwip rules now_ms segment).parser := by
  by_cases hins : flow.state = TLS_FLOW_INSPECTING
  · rw [read_going hins hrst]
    by_cases hfin : segment.flags &&& TCP_FIN = 0
    · rw [inspected_going lwip rules now_ms flow segment hins hfin] at hs
      rw [← (settled_eq_some.mp hs).2]
      exact ⟨rfl, rfl⟩
    · rw [(inspected_fin lwip rules now_ms flow segment hins hfin).1] at hs
      cases hs
  · rw [inspected_decided lwip rules now_ms flow segment (decided_of_used hused hins)] at hs
    rw [read_decided hins, ← settled_clear_on_fin hs]
    exact ⟨rfl, rfl⟩

/-- An allowed flow is let through. -/
theorem inspected_allowed (hstate : flow.state = TLS_FLOW_ALLOW) :
    (inspected lwip rules now_ms flow segment).2 = false := by
  rw [inspected_decided lwip rules now_ms flow segment (.inl hstate)]
  dsimp only
  rw [hstate]
  decide

/-- **A flow read under the rules** is not allowed for a name that they cover. -/
theorem read_covered (h : EntrySound flow) (hrst : segment.flags &&& TCP_RST = 0)
    {hostname : c_string}
    (hname : (flow.read lwip rules now_ms segment).parsed_hostname = some hostname)
    (hcovered : access_filter_is_hostname_blocked rules hostname = true) :
    flow.state = TLS_FLOW_ALLOW ∨
      (flow.read lwip rules now_ms segment).state = TLS_FLOW_BLOCK := by
  by_cases hins : flow.state = TLS_FLOW_INSPECTING
  swap
  · rw [read_decided hins]
    exact decided_of_used h.used hins
  obtain ⟨received, hreceived, -⟩ := h.going hins
  have hbefore : Judged rules flow := judged_going hins hreceived.reading
  have hjudged := segment_fed_judged lwip hbefore now_ms segment
  rw [read_going hins hrst] at hname ⊢
  right
  cases hfed : (segment_fed lwip rules now_ms flow segment).state with
  | TLS_FLOW_FREE => exact absurd hfed hjudged.used
  | TLS_FLOW_INSPECTING =>
      rw [parsed_hostname_reading (hjudged.going hfed)] at hname
      cases hname
  | TLS_FLOW_ALLOW =>
      rw [hjudged.allowed hfed hostname hname] at hcovered
      cases hcovered
  | TLS_FLOW_BLOCK => rfl

end Segment

/-! ## One call -/

/-- The entry that a segment belongs to: the one it is inspected with, or, if it carries a
RST, the one it ends. -/
def segment_entry (flows : flow_table) (now_ms : UInt32) (segment : tls_segment) :
    Option tls_flow_t :=
  if segment.flags &&& TCP_RST ≠ 0 then entry_at flows now_ms segment.tuple
  else
    open_entry (flow_layout.free (expire_tls_flows flows now_ms)).isSome
      (entry_at flows now_ms segment.tuple) now_ms segment

section Call

variable {flows : flow_table} {a : arrival} {flow : tls_flow_t}

theorem segment_entry_sound (hs : Sound flows)
    (h : segment_entry flows a.now_ms a.segment = some flow) : EntrySound flow := by
  unfold segment_entry at h
  split_ifs at h
  · exact hs.entries _ flow (entry_at_lookup h)
  · exact open_entry_sound (fun f hf => hs.entries _ f (entry_at_lookup hf)) h

/-- A call on a segment of a flow, without RST. -/
theorem step_segment_entry (hs : Sound flows) (hrst : a.segment.flags &&& TCP_RST = 0)
    (h : segment_entry flows a.now_ms a.segment = some flow) :
    flow_layout.lookup (a.step flows).1 a.segment.tuple
        = (inspected a.lwip a.rules a.now_ms flow a.segment).1.settled ∧
      (a.step flows).2 = (inspected a.lwip a.rules a.now_ms flow a.segment).2 := by
  obtain ⟨-, hown, -⟩ := inspect_flow_step hs.unique a.lwip a.rules a.now_ms a.segment
  rw [segment_entry, if_neg (not_not.mpr hrst)] at h
  rw [flow_step, if_neg (not_not.mpr hrst), h] at hown
  exact ⟨congrArg Prod.fst hown, congrArg Prod.snd hown⟩

/-- A RST is let through. -/
theorem step_rst (hs : Sound flows) (hrst : a.segment.flags &&& TCP_RST ≠ 0) :
    flow_layout.lookup (a.step flows).1 a.segment.tuple = none ∧ (a.step flows).2 = false := by
  obtain ⟨-, hown, -⟩ := inspect_flow_step hs.unique a.lwip a.rules a.now_ms a.segment
  rw [flow_step, if_pos hrst] at hown
  exact ⟨congrArg Prod.fst hown, congrArg Prod.snd hown⟩

/-- **Under a rule no flow becomes allowed for a name of it**: an entry that is allowed
after a call was allowed before. -/
theorem allowed_step (hs : Sound flows) {rule hostname : c_string} {tuple : four_tuple}
    (hrule : canonical rule ∈ a.rules) (hnames : Names rule hostname)
    (hl : flow_layout.lookup (a.step flows).1 tuple = some flow)
    (hstate : flow.state = TLS_FLOW_ALLOW) (hname : flow.parsed_hostname = some hostname) :
    ∃ decided, flow_layout.lookup flows tuple = some decided ∧
      decided.state = TLS_FLOW_ALLOW ∧ decided.parsed_hostname = some hostname := by
  have hcovered := is_hostname_blocked_of_names hrule hnames
  -- the flows of other segments keep their entry
  by_cases htuple : tuple = a.segment.tuple
  swap
  · obtain ⟨-, -, hother⟩ := inspect_flow_step hs.unique a.lwip a.rules a.now_ms a.segment
    rw [arrival.step, hother tuple htuple] at hl
    exact ⟨flow, entry_at_lookup hl, hstate, hname⟩
  subst htuple
  -- a reset drops the entry of its flow
  by_cases hrst : a.segment.flags &&& TCP_RST = 0
  swap
  · rw [(step_rst hs hrst).1] at hl
    cases hl
  cases hentry : segment_entry flows a.now_ms a.segment with
  | none =>
      obtain ⟨-, hown, -⟩ := inspect_flow_step hs.unique a.lwip a.rules a.now_ms a.segment
      rw [segment_entry, if_neg (not_not.mpr hrst)] at hentry
      rw [flow_step, if_neg (not_not.mpr hrst), hentry] at hown
      rw [show flow_layout.lookup (a.step flows).1 a.segment.tuple = none from
        congrArg Prod.fst hown] at hl
      cases hl
  | some opened =>
      have hsound := segment_entry_sound hs hentry
      rw [(step_segment_entry hs hrst hentry).1] at hl
      obtain ⟨hread, hparser⟩ := inspected_leaves hsound.used hrst hl
      have hparsed : (opened.read a.lwip a.rules a.now_ms a.segment).parsed_hostname
          = some hostname := by
        rw [← hname, tls_flow_t.parsed_hostname, tls_flow_t.parsed_hostname, hparser]
      -- the name is covered now: either the flow was decided before, or it is blocked
      rcases read_covered hsound hrst hparsed hcovered with hallowed | hblock
      · -- decided before: the entry is an old one
        rw [read_decided (by rw [hallowed]; decide)] at hparsed
        rw [segment_entry, if_neg (not_not.mpr hrst)] at hentry
        rcases open_entry_cases hentry with ⟨hold, -⟩ | ⟨-, rfl⟩ | ⟨-, -, -, rfl⟩
        · exact ⟨opened, entry_at_lookup hold, hallowed, hparsed⟩
        · cases hallowed
        · cases hallowed
      · rw [hread, hblock] at hstate
        cases hstate

/-- **A segment of a flow whose name is covered** is discarded if and only if it carries no
RST and its flow is not allowed already. -/
theorem covered_discarded_iff (hs : Sound flows) {hostname : c_string}
    (hentry : segment_entry flows a.now_ms a.segment = some flow)
    (hname : (flow.read a.lwip a.rules a.now_ms a.segment).parsed_hostname = some hostname)
    (hcovered : access_filter_is_hostname_blocked a.rules hostname = true) :
    (a.step flows).2 = true ↔
      a.segment.flags &&& TCP_RST = 0 ∧ flow.state ≠ TLS_FLOW_ALLOW := by
  have hsound := segment_entry_sound hs hentry
  constructor
  · intro hblocked
    have hrst : a.segment.flags &&& TCP_RST = 0 := by
      by_contra hrst
      rw [(step_rst hs hrst).2] at hblocked
      cases hblocked
    refine ⟨hrst, fun hallowed => ?_⟩
    rw [(step_segment_entry hs hrst hentry).2, inspected_allowed hallowed] at hblocked
    cases hblocked
  · rintro ⟨hrst, hallowed⟩
    rw [(step_segment_entry hs hrst hentry).2]
    exact inspected_blocked hrst
      ((read_covered hsound hrst hname hcovered).resolve_left hallowed)

end Call

/-! ## Installs and segments in any order -/

/-- What happens to the filter: a start, a call of `access_filter_block_traffic`, or a
segment that has come as far as the rules. -/
inductive filter_input
  | start (wifi_ap_def : Option netif) (portal_server_ipv4 : Option c_string)
  | block_traffic (destination_ipv4 sni : Option c_string)
  | segment (now_ms : UInt32) (segment : tls_segment)

/-- What comes of it: the value a call returns, the verdict of `inspect_tls_tcp_segment`, or
that a segment is not handed to it. -/
inductive filter_output
  | returned (err : esp_err_t)
  | inspected (blocked : Bool)
  | not_inspected
  deriving DecidableEq, Repr

/-- A segment is inspected unless a rule for its destination or the absence of host name
rules settles the matter before. -/
def access_filter_t.Inspects (filter : access_filter_t) (segment : tls_segment) : Prop :=
  is_destination_ipv4_blocked filter segment.ip_header.dest = false ∧
    has_hostname_rules filter = true

instance (filter : access_filter_t) (segment : tls_segment) :
    Decidable (filter.Inspects segment) :=
  inferInstanceAs (Decidable (_ ∧ _))

/-- The call of `inspect_tls_tcp_segment` on a segment under the rules installed. -/
def access_filter_t.arrival (lwip : lwip_t) (filter : access_filter_t) (now_ms : UInt32)
    (segment : tls_segment) : arrival :=
  ⟨lwip, filter.s_blocked_hostnames, now_ms, segment⟩

/-- One step of the filter. -/
def access_filter_t.step (lwip : lwip_t) (filter : access_filter_t) :
    filter_input → access_filter_t × filter_output
  | .start wifi_ap_def portal_server_ipv4 =>
      let result := access_filter_start lwip wifi_ap_def filter portal_server_ipv4
      (result.1, .returned result.2)
  | .block_traffic destination_ipv4 sni =>
      let result := access_filter_block_traffic lwip filter destination_ipv4 sni
      (result.1, .returned result.2)
  | .segment now_ms segment =>
      if filter.Inspects segment then
        let result := (filter.arrival lwip now_ms segment).step filter.s_tls_flows
        ({ filter with s_tls_flows := result.1 }, .inspected result.2)
      else (filter, .not_inspected)

/-- The filter after a run. -/
abbrev access_filter_t.after (lwip : lwip_t) (inputs : List filter_input) : access_filter_t :=
  Machine.run (access_filter_t.step lwip) {} inputs

section Run

variable {lwip : lwip_t} {filter : access_filter_t}

theorem start_keeps (lwip : lwip_t) (wifi_ap_def : Option netif) (filter : access_filter_t)
    (portal_server_ipv4 : Option c_string) :
    (access_filter_start lwip wifi_ap_def filter portal_server_ipv4).1.s_tls_flows
        = filter.s_tls_flows ∧
      (access_filter_start lwip wifi_ap_def filter portal_server_ipv4).1.s_blocked_hostnames
        = filter.s_blocked_hostnames := by
  have hfind : ∀ filter : access_filter_t,
      (find_softap_netif wifi_ap_def filter).1.s_tls_flows = filter.s_tls_flows ∧
        (find_softap_netif wifi_ap_def filter).1.s_blocked_hostnames
          = filter.s_blocked_hostnames := by
    intro filter
    unfold find_softap_netif
    split <;> exact ⟨rfl, rfl⟩
  unfold access_filter_start
  split_ifs
  · exact ⟨rfl, rfl⟩
  split
  · exact hfind _
  split_ifs
  · exact ⟨rfl, rfl⟩
  split
  · exact ⟨rfl, rfl⟩
  · exact hfind _

/-- Starting the filter installs nothing. -/
theorem start_installs_nothing (lwip : lwip_t) (wifi_ap_def : Option netif)
    (filter : access_filter_t) (portal_server_ipv4 : Option c_string) :
    (access_filter_start lwip wifi_ap_def filter
        portal_server_ipv4).1.s_blocked_destination_ipv4
      = filter.s_blocked_destination_ipv4 := by
  have hfind : ∀ filter : access_filter_t,
      (find_softap_netif wifi_ap_def filter).1.s_blocked_destination_ipv4
        = filter.s_blocked_destination_ipv4 := by
    intro filter
    unfold find_softap_netif
    split <;> rfl
  unfold access_filter_start
  split_ifs
  · rfl
  split
  · exact hfind _
  split_ifs
  · rfl
  split
  · rfl
  · exact hfind _

/-- **One step** keeps the flow table sound and the rules installed. -/
theorem filter_step_keeps (lwip : lwip_t) (filter : access_filter_t) (input : filter_input)
    (hs : Sound filter.s_tls_flows) :
    Sound (filter.step lwip input).1.s_tls_flows ∧
      filter.s_blocked_hostnames <+: (filter.step lwip input).1.s_blocked_hostnames := by
  cases input with
  | start wifi_ap_def portal_server_ipv4 =>
      obtain ⟨hflows, hrules⟩ := start_keeps lwip wifi_ap_def filter portal_server_ipv4
      rw [access_filter_t.step]
      dsimp only
      rw [hflows, hrules]
      exact ⟨hs, List.prefix_rfl⟩
  | block_traffic destination_ipv4 sni =>
      rw [access_filter_t.step]
      dsimp only
      rw [block_traffic_flows]
      exact ⟨hs, (block_traffic_grows lwip filter destination_ipv4 sni).2⟩
  | segment now_ms segment =>
      rw [access_filter_t.step]
      split_ifs
      · exact ⟨hs.step _, List.prefix_rfl⟩
      · exact ⟨hs, List.prefix_rfl⟩

theorem filter_sound (lwip : lwip_t) (inputs : List filter_input) :
    Sound (access_filter_t.after lwip inputs).s_tls_flows :=
  Machine.run_invariant _ (fun filter input hs => (filter_step_keeps lwip filter input hs).1)
    sound_init inputs

/-- In the run of `inputs`, a call that installs a rule for `sni` succeeds on the filter
`installed`, and later a segment arrives at the filter `later`. -/
def InstalledBefore (lwip : lwip_t) (inputs : List filter_input) (sni : c_string)
    (installed later : access_filter_t) (now_ms : UInt32) (segment : tls_segment) : Prop :=
  ∃ before destination_ipv4 between after,
    inputs = before ++ .block_traffic destination_ipv4 (some sni) ::
      (between ++ .segment now_ms segment :: after) ∧
    sni ≠ [] ∧
    installed = access_filter_t.after lwip before ∧
    (installed.step lwip (.block_traffic destination_ipv4 (some sni))).2 = .returned .ESP_OK ∧
    later = Machine.run (access_filter_t.step lwip)
      (installed.step lwip (.block_traffic destination_ipv4 (some sni))).1 between

/-- An entry of the flow was decided `TLS_FLOW_ALLOW`, for the name it has. -/
def DecidedAllow (filter : access_filter_t) (tuple : four_tuple) (hostname : c_string) : Prop :=
  ∃ flow, flow_layout.lookup filter.s_tls_flows tuple = some flow ∧
    flow.state = TLS_FLOW_ALLOW ∧ flow.parsed_hostname = some hostname

/-- **Behind an install the rule is there, and what is allowed for a name of it was decided
before the install.** -/
theorem behind_install (lwip : lwip_t) {sni : c_string} (h : Sound filter.s_tls_flows)
    (hrule : canonical sni ∈ filter.s_blocked_hostnames) (between : List filter_input) :
    let later := Machine.run (access_filter_t.step lwip) filter between
    Sound later.s_tls_flows ∧ canonical sni ∈ later.s_blocked_hostnames ∧
      ∀ hostname, Names sni hostname → ∀ tuple,
        DecidedAllow later tuple hostname → DecidedAllow filter tuple hostname := by
  -- the rules only grow, so what is allowed at the end was allowed all along
  induction between generalizing filter with
  | nil => exact ⟨h, hrule, fun _ _ _ hd => hd⟩
  | cons input between ih =>
      obtain ⟨hsound, hgrows⟩ := filter_step_keeps lwip filter input h
      obtain ⟨hs, hr, hallowed⟩ := ih hsound (hgrows.subset hrule)
      rw [Machine.run_cons]
      refine ⟨hs, hr, fun hostname hnames tuple hd => ?_⟩
      obtain ⟨flow, hl, hstate, hname⟩ := hallowed hostname hnames tuple hd
      cases input with
      | start wifi_ap_def portal_server_ipv4 =>
          rw [access_filter_t.step] at hl
          dsimp only at hl
          rw [(start_keeps lwip wifi_ap_def filter portal_server_ipv4).1] at hl
          exact ⟨flow, hl, hstate, hname⟩
      | block_traffic destination_ipv4 sni =>
          rw [access_filter_t.step] at hl
          dsimp only at hl
          rw [block_traffic_flows] at hl
          exact ⟨flow, hl, hstate, hname⟩
      | segment now_ms segment =>
          rw [access_filter_t.step] at hl
          split_ifs at hl
          · exact allowed_step h hrule hnames hl hstate hname
          · exact ⟨flow, hl, hstate, hname⟩

theorem InstalledBefore.spec {inputs : List filter_input} {sni : c_string}
    {installed later : access_filter_t} {now_ms : UInt32} {segment : tls_segment}
    (h : InstalledBefore lwip inputs sni installed later now_ms segment) :
    Sound later.s_tls_flows ∧ canonical sni ∈ later.s_blocked_hostnames ∧
      ∀ hostname, Names sni hostname → ∀ tuple,
        DecidedAllow later tuple hostname → DecidedAllow installed tuple hostname := by
  obtain ⟨before, destination_ipv4, between, after, -, hsni, rfl, hok, rfl⟩ := h
  have hsound := filter_sound lwip before
  have hrule := block_traffic_hostname hsni (filter_output.returned.inj hok)
  obtain ⟨hs, hr, hallowed⟩ := behind_install lwip
    (filter_step_keeps lwip _ (.block_traffic destination_ipv4 (some sni)) hsound).1 hrule between
  refine ⟨hs, hr, fun hostname hnames tuple hd => ?_⟩
  -- the install itself leaves the flow table alone
  obtain ⟨flow, hl, hstate, hname⟩ := hallowed hostname hnames tuple hd
  rw [access_filter_t.step] at hl
  dsimp only at hl
  rw [block_traffic_flows] at hl
  exact ⟨flow, hl, hstate, hname⟩

end Run

/-! ## Whether a new rule takes effect -/

/-- **A rule takes effect on every flow.** Behind the install of a rule for `sni`, each
segment with payload that is inspected, of a flow whose ClientHello names `sni` or a
subdomain of it once the segment is read, is discarded. -/
def TakesEffect (lwip : lwip_t) (inputs : List filter_input) : Prop :=
  ∀ sni installed later now_ms segment,
    InstalledBefore lwip inputs sni installed later now_ms segment →
    segment.payload_length > 0 → later.Inspects segment →
    ∀ flow hostname, segment_entry later.s_tls_flows now_ms segment = some flow →
      (flow.read lwip later.s_blocked_hostnames now_ms segment).parsed_hostname
        = some hostname →
      Names sni hostname →
      (later.step lwip (.segment now_ms segment)).2 = .inspected true

/-- Behind the install, no segment with payload carries a RST of a flow with such a name or
finds one that was decided `TLS_FLOW_ALLOW` before the install and still is. -/
def NoneAllowedBefore (lwip : lwip_t) (inputs : List filter_input) : Prop :=
  ∀ sni installed later now_ms segment,
    InstalledBefore lwip inputs sni installed later now_ms segment →
    segment.payload_length > 0 → later.Inspects segment →
    ∀ flow hostname, segment_entry later.s_tls_flows now_ms segment = some flow →
      flow.parsed_hostname = some hostname → Names sni hostname →
      segment.flags &&& TCP_RST = 0 ∧
        ¬ (flow.state = TLS_FLOW_ALLOW ∧ DecidedAllow installed segment.tuple hostname)

theorem step_segment_output {lwip : lwip_t} {filter : access_filter_t} {now_ms : UInt32}
    {segment : tls_segment} (h : filter.Inspects segment) :
    (filter.step lwip (.segment now_ms segment)).2 = .inspected true ↔
      ((filter.arrival lwip now_ms segment).step filter.s_tls_flows).2 = true := by
  rw [access_filter_t.step, if_pos h]
  dsimp only
  constructor
  · exact fun heq => filter_output.inspected.inj heq
  · exact fun heq => congrArg filter_output.inspected heq

/-- What an allowed flow that a segment without RST belongs to was before the segment. -/
theorem decided_allow_of_entry {filter : access_filter_t} {now_ms : UInt32}
    {segment : tls_segment} {flow : tls_flow_t} {hostname : c_string}
    (hentry : segment_entry filter.s_tls_flows now_ms segment = some flow)
    (hstate : flow.state = TLS_FLOW_ALLOW) (hname : flow.parsed_hostname = some hostname) :
    DecidedAllow filter segment.tuple hostname := by
  unfold segment_entry at hentry
  split_ifs at hentry with hrst
  · exact ⟨flow, entry_at_lookup hentry, hstate, hname⟩
  · rcases open_entry_cases hentry with ⟨hold, -⟩ | ⟨-, rfl⟩ | ⟨-, -, -, rfl⟩
    · exact ⟨flow, entry_at_lookup hold, hstate, hname⟩
    · cases hstate
    · cases hstate

/-- **When a new rule takes effect**: exactly in the runs in which no flow that it covers
had been allowed before it was installed and goes on behind the install, and none is reset
by a segment with payload. -/
theorem takes_effect_iff (lwip : lwip_t) (inputs : List filter_input) :
    TakesEffect lwip inputs ↔ NoneAllowedBefore lwip inputs := by
  constructor
  · intro h sni installed later now_ms segment hinstalled hpayload hinspects flow hostname hentry
      hname hnames
    obtain ⟨hs, hrule, -⟩ := hinstalled.spec
    have hcovered := is_hostname_blocked_of_names hrule hnames
    -- a flow with a name is not under inspection, so the segment leaves it as it is
    have hins : flow.state ≠ TLS_FLOW_INSPECTING := by
      intro hins
      obtain ⟨received, hreceived, -⟩ := (segment_entry_sound
        (a := later.arrival lwip now_ms segment) hs hentry).going hins
      rw [parsed_hostname_reading hreceived.reading] at hname
      cases hname
    have hread : (flow.read lwip later.s_blocked_hostnames now_ms segment).parsed_hostname
        = some hostname := by
      rw [read_decided hins, hname]
    have hblocked := h sni installed later now_ms segment hinstalled hpayload hinspects flow
      hostname hentry hread hnames
    obtain ⟨hrst, hstate⟩ := (covered_discarded_iff (a := later.arrival lwip now_ms segment) hs
      hentry hread hcovered).mp ((step_segment_output hinspects).mp hblocked)
    exact ⟨hrst, fun hallowed => hstate hallowed.1⟩
  · intro h sni installed later now_ms segment hinstalled hpayload hinspects flow hostname hentry
      hread hnames
    obtain ⟨hs, hrule, hdecided⟩ := hinstalled.spec
    have hcovered := is_hostname_blocked_of_names hrule hnames
    refine (step_segment_output hinspects).mpr ((covered_discarded_iff
      (a := later.arrival lwip now_ms segment) hs hentry hread hcovered).mpr ?_)
    by_cases hgoing : flow.state = TLS_FLOW_INSPECTING ∧ segment.flags &&& TCP_RST = 0
    · refine ⟨hgoing.2, ?_⟩
      rw [hgoing.1]
      decide
    · rw [tls_flow_t.read, if_neg hgoing] at hread
      obtain ⟨hrst, hallowed⟩ := h sni installed later now_ms segment hinstalled hpayload
        hinspects flow hostname hentry hread hnames
      refine ⟨hrst, fun hstate => hallowed ⟨hstate, ?_⟩⟩
      exact hdecided hostname hnames _ (decided_allow_of_entry hentry hstate hread)

/-! ## A rule that comes too late -/

/-- The flow of the sample run: another server than the one that is blocked. -/
def late_tuple : four_tuple := ⟨0xC0A80402, 0x01010101, 50000, 443⟩

/-- A segment of it. -/
def late_segment (now_ms : UInt32) (flags : UInt8) (sequence : UInt32) (payload : List UInt8)
    (h : payload.length < 65000) : filter_input :=
  .segment now_ms (.of_payload late_tuple flags sequence payload h)

theorem late_syn_length : ([] : List UInt8).length < 65000 := by decide

/-- A rule for another host name, and a flow that is allowed under it. -/
def late_before : List filter_input :=
  [.start (some ⟨0⟩) none,
    .block_traffic (some (c_str "8.8.8.8")) (some (c_str "c")),
    late_segment 0 TCP_SYN 1000 [] late_syn_length,
    late_segment 10 0 1001 sample_record.encode (by decide)]

/-- The install of the rule for `b`, which the ClientHello of the flow is below, and the next
segment of the flow. -/
def late_run : List filter_input :=
  late_before ++ [.block_traffic (some (c_str "8.8.8.8")) (some (c_str "b")),
    late_segment 20 0 (1001 + UInt32.ofNat sample_record.encode.length) [0x17] (by decide)]

/-- The filter when that segment arrives. -/
def late_filter : access_filter_t :=
  ((access_filter_t.after lwip_documented late_before).step lwip_documented
    (.block_traffic (some (c_str "8.8.8.8")) (some (c_str "b")))).1

/-- **An allowed flow goes on** behind the install of a rule for its host name. -/
theorem allowed_keeps_going : ¬ TakesEffect lwip_documented late_run := by
  intro h
  have hentry : ((segment_entry late_filter.s_tls_flows 20
      (.of_payload late_tuple 0 (1001 + UInt32.ofNat sample_record.encode.length) [0x17]
        (by decide))).map fun flow => (flow.state, flow.parsed_hostname))
      = some (TLS_FLOW_ALLOW, some (c_str "a.b")) := by
    decide +kernel
  obtain ⟨flow, hflow, hdecided⟩ := Option.map_eq_some_iff.mp hentry
  obtain ⟨hstate, hname⟩ := Prod.mk.inj hdecided
  have hblocked := h (c_str "b") (access_filter_t.after lwip_documented late_before) late_filter 20
    (.of_payload late_tuple 0 (1001 + UInt32.ofNat sample_record.encode.length) [0x17]
      (by decide))
    ⟨late_before, some (c_str "8.8.8.8"), [], [], rfl, by decide, rfl, by decide +kernel, rfl⟩
    (by decide) (by decide +kernel) flow (c_str "a.b") hflow
    (by rw [read_decided (by rw [hstate]; decide), hname]) (by decide +kernel)
  revert hblocked
  decide +kernel

end WifiManager.AccessFilter
