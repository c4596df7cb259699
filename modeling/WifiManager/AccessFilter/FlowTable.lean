/-
The flow table over whole runs.

`Sound` says what every run keeps for each four-tuple by itself. Here it is read as a statement
about the table: which entries there can be, what a segment does to the entries of other flows,
and what it does when there is no room for its own.

Which parsers a segment hands to `tls_sni_parser_feed` is written down beside the functions that
do so, `segment_calls`. None of them is finished, since a round that finishes the parser of an
entry takes the entry out of inspection, and the loop stops there.
-/
import WifiManager.AccessFilter.Runs

set_option autoImplicit false

namespace WifiManager.AccessFilter

open WifiManager.Lib WifiManager.TlsSniParser

open tls_flow_state_t

/-! ## The calls of the parser -/

section Calls

variable (lwip : lwip_t) (rules : List c_string)

/-- The parsers that `feed_tls_stream` calls `tls_sni_parser_feed` on, in this order. -/
def feed_calls (flow : tls_flow_t) (packet : pbuf) (payload_offset payload_length : ℕ) :
    List tls_sni_parser_t :=
  if payload_length > 0 ∧ flow.state = TLS_FLOW_INSPECTING then
    if flow.inspected_bytes ≥ ACCESS_FILTER_TLS_STREAM_LIMIT then []
    else
      let chunk_length := next_chunk_length flow payload_length
      if chunk_length = 0 then []
      else
        match copy_packet_bytes lwip packet payload_offset chunk_length with
        | none => []
        | some chunk =>
            flow.parser :: feed_calls (feed_chunk rules flow chunk) packet
              (payload_offset + chunk_length) (payload_length - chunk_length)
  else []
  termination_by payload_length

/-- The calls of `inspect_payload`. -/
def payload_calls (flow : tls_flow_t) (packet : pbuf) (payload_sequence : UInt32)
    (payload_offset payload_length : ℕ) : List tls_sni_parser_t :=
  if Serial.after payload_sequence flow.next_sequence then []
  else
    let overlap := flow.next_sequence - payload_sequence
    if overlap.toNat < payload_length then
      feed_calls lwip rules flow packet (payload_offset + overlap.toNat)
        (payload_length - overlap.toNat)
    else []

/-- The calls of `inspect_flow`. -/
def flow_calls (flow : tls_flow_t) (now_ms : UInt32) (packet : pbuf) (payload_sequence : UInt32)
    (payload_offset payload_length : ℕ) : List tls_sni_parser_t :=
  let flow := { flow with last_seen_ms := now_ms }
  if flow.state = TLS_FLOW_ALLOW ∨ flow.state = TLS_FLOW_BLOCK then []
  else if payload_length > 0 then
    payload_calls lwip rules flow packet payload_sequence payload_offset payload_length
  else []

end Calls

/-- The calls of `inspect_tls_tcp_segment` on a segment. -/
def arrival.segment_calls (a : arrival) (flows : flow_table) : List tls_sni_parser_t :=
  if a.segment.flags &&& TCP_RST ≠ 0 then []
  else
    match open_flow (expire_tls_flows flows a.now_ms) a.now_ms a.segment with
    | (flows, some i) =>
        flow_calls a.lwip a.rules (flows.getD i {}) a.now_ms a.segment.packet
          a.segment.payload_sequence a.segment.payload_offset a.segment.payload_length
    | (_, none) => []

section Unfinished

variable {lwip : lwip_t} {rules : List c_string}

/-- A chunk that finishes the parser takes the entry out of inspection. -/
theorem feed_chunk_reading {flow : tls_flow_t}
    (h : Reading TLS_SNI_HOSTNAME_SIZE flow.parser) (chunk : List UInt8)
    (hstate : (feed_chunk rules flow chunk).state = TLS_FLOW_INSPECTING) :
    Reading TLS_SNI_HOSTNAME_SIZE (feed_chunk rules flow chunk).parser := by
  by_cases hmore : (tls_sni_parser_feed flow.parser chunk TLS_SNI_HOSTNAME_SIZE).result
      = .NEED_MORE
  · have hreading := feed_reading h hostname_size_ne hmore
    rw [feed_chunk, apply_tls_parse_result, if_pos hmore]
    exact hreading
  · exfalso
    rw [feed_chunk, apply_result_state rules _ hmore] at hstate
    rcases outcome_state_decided rules _ with hallow | hblock
    · rw [hallow] at hstate
      cases hstate
    · rw [hblock] at hstate
      cases hstate

/-- **No finished parser is fed.** The induction is on the chunks. -/
theorem feed_calls_unfinished {flow : tls_flow_t} {packet : pbuf}
    {payload_offset payload_length : ℕ}
    (h : flow.state = TLS_FLOW_INSPECTING → Reading TLS_SNI_HOSTNAME_SIZE flow.parser) :
    ∀ parser ∈ feed_calls lwip rules flow packet payload_offset payload_length,
      parser.finished = false := by
  fun_induction feed_calls lwip rules flow packet payload_offset payload_length with
  | case4 flow payload_offset payload_length hgoing _ chunk_length _ chunk _ ih =>
      have hreading := h hgoing.2
      intro parser hparser
      rcases List.mem_cons.mp hparser with rfl | hlater
      · exact hreading.finished
      · exact ih (feed_chunk_reading hreading chunk) parser hlater
  | _ => nofun

theorem flow_calls_unfinished {flow : tls_flow_t} {now_ms : UInt32} {packet : pbuf}
    {payload_sequence : UInt32} {payload_offset payload_length : ℕ} (h : EntrySound flow) :
    ∀ parser ∈ flow_calls lwip rules flow now_ms packet payload_sequence payload_offset
        payload_length, parser.finished = false := by
  have hreading : flow.state = TLS_FLOW_INSPECTING →
      Reading TLS_SNI_HOSTNAME_SIZE flow.parser := by
    intro hstate
    obtain ⟨received, hreceived, -⟩ := h.going hstate
    exact hreceived.reading
  unfold flow_calls payload_calls
  dsimp only
  split_ifs
  · nofun
  · nofun
  · exact feed_calls_unfinished hreading
  · nofun
  · nofun

end Unfinished

/-! ## Timeouts -/

/-- An entry that is due to be freed: the milliseconds since its last segment, modulo 2^32, are
at least its timeout. -/
def tls_flow_t.Stale (flow : tls_flow_t) (now_ms : UInt32) : Prop :=
  (if flow.state = TLS_FLOW_INSPECTING then 15000 else 120000)
    ≤ (now_ms.toNat + 4294967296 - flow.last_seen_ms.toNat) % 4294967296

theorem expired_iff (flow : tls_flow_t) (now_ms : UInt32) :
    flow.expired now_ms = true ↔ flow.Stale now_ms := by
  rw [tls_flow_t.expired, tls_flow_t.Stale, decide_eq_true_eq, ge_iff_le, UInt32.le_iff_toNat_le,
    UInt32.toNat_sub]
  have hnow := now_ms.toNat_lt
  have hlast := flow.last_seen_ms.toNat_lt
  rw [show 2 ^ 32 - flow.last_seen_ms.toNat + now_ms.toNat
    = now_ms.toNat + 4294967296 - flow.last_seen_ms.toNat by omega]
  split_ifs <;> rfl

/-! ## Tables without room -/

/-- Every entry is in use, and none for the four-tuple. -/
def FullWithout (flows : flow_table) (tuple : four_tuple) : Prop :=
  ∀ flow ∈ flows, flow.state ≠ TLS_FLOW_FREE ∧ flow.tuple ≠ tuple

theorem FullWithout.find {flows : flow_table} {tuple : four_tuple} (h : FullWithout flows tuple) :
    find_tls_flow flows tuple = none := by
  rw [find_tls_flow, Slots.Layout.find, List.findIdx?_eq_none_iff]
  intro flow hflow
  rw [Bool.eq_false_iff, ne_eq, Slots.Layout.holds_iff]
  exact fun hholds => (h flow hflow).2 hholds.2

theorem FullWithout.create {flows : flow_table} {tuple : four_tuple}
    (h : FullWithout flows tuple) (now_ms : UInt32) :
    create_tls_flow flows tuple now_ms = (flows, none) := by
  have hfree : flow_layout.free flows = none := by
    rw [Slots.Layout.free, List.findIdx?_eq_none_iff]
    intro flow hflow
    rw [flow_layout, Bool.not_eq_false', decide_eq_true_eq]
    exact (h flow hflow).1
  rw [create_tls_flow, hfree]

/-- **A full table evicts nothing**: a segment that would need an entry is blocked. -/
theorem FullWithout.step {flows : flow_table} (a : arrival)
    (h : FullWithout (expire_tls_flows flows a.now_ms) a.segment.tuple)
    (hrst : a.segment.flags &&& TCP_RST = 0)
    (hneeds : a.segment.flags &&& TCP_SYN ≠ 0 ∨ a.segment.payload_length > 0) :
    a.step flows = (expire_tls_flows flows a.now_ms, true) := by
  have hopen : open_flow (expire_tls_flows flows a.now_ms) a.now_ms a.segment
      = (expire_tls_flows flows a.now_ms, none) := by
    rw [open_flow, h.find]
    by_cases hsyn : a.segment.flags &&& TCP_SYN ≠ 0
    · rw [if_pos hsyn, handle_syn, Option.filter_none, clear_tls_flow, h.create]
    · rw [if_neg hsyn, if_pos ⟨rfl, hneeds.resolve_left hsyn⟩, adopt_flow, h.create]
  rw [arrival.step, inspect_eq, if_neg (not_not.mpr hrst), hopen]
  exact Prod.ext rfl (decide_eq_true hneeds)

/-! ## The number of entries -/

theorem length_clear_tls_flow (flows : flow_table) (flow : Option ℕ) :
    (clear_tls_flow flows flow).length = flows.length := by
  cases flow with
  | none => rfl
  | some i => exact List.length_set

theorem length_create_tls_flow (flows : flow_table) (tuple : four_tuple) (now_ms : UInt32) :
    (create_tls_flow flows tuple now_ms).1.length = flows.length := by
  unfold create_tls_flow
  cases flow_layout.free flows with
  | none => rfl
  | some i => exact List.length_set

theorem length_open_flow (flows : flow_table) (now_ms : UInt32) (segment : tls_segment) :
    (open_flow flows now_ms segment).1.length = flows.length := by
  unfold open_flow handle_syn adopt_flow
  split_ifs
  · generalize Option.filter _ (find_tls_flow flows segment.tuple) = found
    cases found with
    | some i => rfl
    | none =>
        have hcreate := length_create_tls_flow
          (clear_tls_flow flows (find_tls_flow flows segment.tuple)) segment.tuple now_ms
        rw [length_clear_tls_flow] at hcreate
        generalize create_tls_flow _ segment.tuple now_ms = created at hcreate ⊢
        rcases created with ⟨flows', - | i⟩
        · exact hcreate
        · exact List.length_set.trans hcreate
  · have hcreate := length_create_tls_flow flows segment.tuple now_ms
    generalize create_tls_flow flows segment.tuple now_ms = created at hcreate ⊢
    rcases created with ⟨flows', - | i⟩
    · exact hcreate
    · exact List.length_set.trans hcreate
  · rfl

theorem length_step (a : arrival) (flows : flow_table) :
    (a.step flows).1.length = flows.length := by
  have hexpire : (expire_tls_flows flows a.now_ms).length = flows.length := List.length_map _
  rw [arrival.step, inspect_eq]
  split_ifs
  · exact (length_clear_tls_flow _ _).trans hexpire
  · have hopen := length_open_flow (expire_tls_flows flows a.now_ms) a.now_ms a.segment
    generalize open_flow (expire_tls_flows flows a.now_ms) a.now_ms a.segment = opened
      at hopen ⊢
    rcases opened with ⟨flows', - | i⟩
    · exact hopen.trans hexpire
    · exact List.length_set.trans (hopen.trans hexpire)

theorem length_run (flows : flow_table) (arrivals : List arrival) :
    (run flows arrivals).length = flows.length := by
  induction arrivals generalizing flows with
  | nil => rfl
  | cons a arrivals ih => rw [run_cons, ih, length_step]

/-! ## The invariant -/

/-- An entry in use is the one that a search for its four-tuple finds. -/
theorem Sound.lookup {flows : flow_table} (h : Sound flows) {flow : tls_flow_t}
    (hflow : flow ∈ flows) (hused : flow.state ≠ TLS_FLOW_FREE) :
    flow_layout.lookup flows flow.tuple = some flow := by
  obtain ⟨i, hi⟩ := List.getElem?_of_mem hflow
  exact Slots.Layout.lookup_of_live h.unique hi (decide_eq_true hused)

/-- **One entry for each four-tuple.** -/
theorem Sound.index_eq {flows : flow_table} (h : Sound flows) {i j : ℕ} {flow flow' : tls_flow_t}
    (hi : flows[i]? = some flow) (hj : flows[j]? = some flow')
    (hflow : flow.state ≠ TLS_FLOW_FREE) (hflow' : flow'.state ≠ TLS_FLOW_FREE)
    (htuple : flow.tuple = flow'.tuple) : i = j := by
  have howner := h.unique j flow' hj (decide_eq_true hflow')
  exact howner i flow hi (Slots.Layout.holds_iff.mpr ⟨decide_eq_true hflow, htuple⟩)

/-- An entry under inspection has budget left, and a parser that has not decided. -/
theorem Sound.inspecting {flows : flow_table} (h : Sound flows) {flow : tls_flow_t}
    (hflow : flow ∈ flows) (hstate : flow.state = TLS_FLOW_INSPECTING) :
    flow.inspected_bytes < 4096 ∧ flow.parser.finished = false := by
  have hlookup := h.lookup hflow (by rw [hstate]; nofun)
  obtain ⟨received, hreceived, -⟩ := (h.entries _ _ hlookup).going hstate
  refine ⟨?_, hreceived.reading.finished⟩
  rw [hreceived.inspected]
  exact hreceived.short

/-- The calls of a segment on a sound table. -/
theorem Sound.segment_calls {flows : flow_table} (h : Sound flows) (a : arrival) :
    ∀ parser ∈ a.segment_calls flows, parser.finished = false := by
  have hue := unique_expire h.unique a.now_ms
  have hopen := open_flow_opened hue a.now_ms a.segment
  rw [lookup_expire h.unique] at hopen
  have hsound : ∀ flow, open_entry (flow_layout.free (expire_tls_flows flows a.now_ms)).isSome
      (entry_at flows a.now_ms a.segment.tuple) a.now_ms a.segment = some flow →
      EntrySound flow := by
    intro flow hflow
    exact open_entry_sound (fun f hf => h.entries _ f (entry_at_lookup hf)) hflow
  unfold arrival.segment_calls
  split_ifs
  · nofun
  generalize open_flow (expire_tls_flows flows a.now_ms) a.now_ms a.segment = opened
    at hopen ⊢
  generalize open_entry _ _ a.now_ms a.segment = entry at hopen hsound
  cases hopen with
  | absent => nofun
  | @placed flows' i flow hplaced =>
      dsimp only
      rw [hplaced.getD]
      exact flow_calls_unfinished (hsound flow rfl)

/-- **The flow table, after any run and at any next segment.** There is one entry for each
four-tuple at most; an entry under inspection has budget left and an unfinished parser, and no
finished parser is fed; the entries of other four-tuples stay as they are unless they are
stale; and a table that is full of other flows blocks the segment and stays as it is. -/
theorem flow_table_invariant (arrivals : List arrival) (a : arrival) :
    (run s_tls_flows_init arrivals).length = 12 ∧
    (∀ (i j : ℕ) (flow flow' : tls_flow_t), (run s_tls_flows_init arrivals)[i]? = some flow →
      (run s_tls_flows_init arrivals)[j]? = some flow' → flow.state ≠ TLS_FLOW_FREE →
      flow'.state ≠ TLS_FLOW_FREE → flow.tuple = flow'.tuple → i = j) ∧
    (∀ flow ∈ run s_tls_flows_init arrivals, flow.state = TLS_FLOW_INSPECTING →
      flow.inspected_bytes < 4096 ∧ flow.parser.finished = false) ∧
    (∀ parser ∈ a.segment_calls (run s_tls_flows_init arrivals), parser.finished = false) ∧
    (∀ tuple flow, tuple ≠ a.segment.tuple →
      (flow_layout.lookup (a.step (run s_tls_flows_init arrivals)).1 tuple = some flow ↔
        flow_layout.lookup (run s_tls_flows_init arrivals) tuple = some flow ∧
          ¬ flow.Stale a.now_ms)) ∧
    (FullWithout (expire_tls_flows (run s_tls_flows_init arrivals) a.now_ms) a.segment.tuple →
      a.segment.flags &&& TCP_RST = 0 →
      (a.segment.flags &&& TCP_SYN ≠ 0 ∨ a.segment.payload_length > 0) →
      a.step (run s_tls_flows_init arrivals)
        = (expire_tls_flows (run s_tls_flows_init arrivals) a.now_ms, true)) := by
  have hsound := sound_run arrivals
  refine ⟨?_, ?_, ?_, hsound.segment_calls a, ?_, fun hfull => hfull.step a⟩
  · rw [length_run, s_tls_flows_init, List.length_replicate]
  · intro i j flow flow' hi hj hflow hflow' htuple
    exact hsound.index_eq hi hj hflow hflow' htuple
  · intro flow hflow hstate
    exact hsound.inspecting hflow hstate
  · intro tuple flow hne
    obtain ⟨-, -, hother⟩ := inspect_flow_step hsound.unique a.lwip a.rules a.now_ms a.segment
    rw [arrival.step, hother tuple hne, entry_at, Option.filter_eq_some_iff, Bool.not_eq_true',
      Bool.eq_false_iff, ne_eq, expired_iff]

end WifiManager.AccessFilter
