/-
Reassembly of a client stream for inspection.

`judge` says what a contiguous prefix of a client stream decides: one call of the
parser on its first 4096 bytes, and the rules. `Inspecting received flow` is the
invariant of an entry that has been fed exactly the bytes `received`, in whatever
pieces. One segment takes it from a prefix to a longer one (`segment_fed_spec`),
which is where sequence arithmetic, the cutting of overlaps, the 256-byte chunks
and the 4096-byte budget are dealt with; a run is then an induction over segments
that mentions none of them.
-/
import WifiManager.AccessFilter.FlowStep
import WifiManager.TlsSniParser.Stream

set_option autoImplicit false

namespace WifiManager.AccessFilter

open WifiManager.Lib WifiManager.Lib.Consumer WifiManager.TlsSniParser

open tls_flow_state_t

/-! ## What a prefix decides -/

/-- The state a decided ClientHello puts its flow in. -/
def outcome_state (rules : List c_string) (outcome : hello_outcome) : tls_flow_state_t :=
  if outcome.result = .FOUND ∧ outcome.ech_present = false ∧
      access_filter_is_hostname_blocked rules outcome.hostname = false then TLS_FLOW_ALLOW
  else TLS_FLOW_BLOCK

/-- The state of a flow of which `received` has arrived: one call of the parser on
what fits into the budget, and the rules at the time of the decision. -/
def judge (rules : List c_string) (received : List UInt8) : tls_flow_state_t :=
  let outcome := tls_sni_parser_feed tls_sni_parser_init
    (received.take ACCESS_FILTER_TLS_STREAM_LIMIT) TLS_SNI_HOSTNAME_SIZE
  if outcome.result = .NEED_MORE then
    if received.length < ACCESS_FILTER_TLS_STREAM_LIMIT then TLS_FLOW_INSPECTING
    else TLS_FLOW_BLOCK
  else outcome_state rules outcome.verdict

/-- The parser after a prefix that decides nothing, or the verdict. -/
def parsed (received : List UInt8) : tls_sni_parser_t ⊕ hello_outcome :=
  consume (read_byte TLS_SNI_HOSTNAME_SIZE) tls_sni_parser_init received

theorem hostname_size_ne : TLS_SNI_HOSTNAME_SIZE ≠ 0 := by decide

theorem feed_step_init (received : List UInt8) :
    feed_step TLS_SNI_HOSTNAME_SIZE tls_sni_parser_init received = parsed received :=
  feed_eq_consume (reading_init _) hostname_size_ne received

theorem parsed_append {received : List UInt8} {parser : tls_sni_parser_t}
    (h : parsed received = .inl parser) (more : List UInt8) :
    parsed (received ++ more) = consume (read_byte TLS_SNI_HOSTNAME_SIZE) parser more := by
  unfold parsed at h ⊢
  rw [consume_append, h, andThen_inl]

theorem parsed_reading {received : List UInt8} {parser : tls_sni_parser_t}
    (h : parsed received = .inl parser) : Reading TLS_SNI_HOSTNAME_SIZE parser :=
  consume_invariant _ read_byte_reading (reading_init _) h

theorem parsed_verdict_ne {received : List UInt8} {outcome : hello_outcome}
    (h : parsed received = .inr outcome) : outcome.result ≠ .NEED_MORE := by
  have hfeed := feed_step_init received
  rw [h, feed_step, feed_outcome.step] at hfeed
  split_ifs at hfeed with hmore
  exact Sum.inr.inj hfeed ▸ hmore

theorem judge_of_verdict {received : List UInt8} {outcome : hello_outcome}
    (h : parsed (received.take ACCESS_FILTER_TLS_STREAM_LIMIT) = .inr outcome)
    (rules : List c_string) : judge rules received = outcome_state rules outcome := by
  have hfeed := feed_step_init (received.take ACCESS_FILTER_TLS_STREAM_LIMIT)
  rw [h, feed_step, feed_outcome.step] at hfeed
  split_ifs at hfeed with hmore
  simp only [judge, if_neg hmore, Sum.inr.inj hfeed]

theorem judge_of_going {received : List UInt8} {parser : tls_sni_parser_t}
    (h : parsed (received.take ACCESS_FILTER_TLS_STREAM_LIMIT) = .inl parser)
    (rules : List c_string) :
    judge rules received
      = if received.length < ACCESS_FILTER_TLS_STREAM_LIMIT then TLS_FLOW_INSPECTING
        else TLS_FLOW_BLOCK := by
  have hfeed := feed_step_init (received.take ACCESS_FILTER_TLS_STREAM_LIMIT)
  rw [h, feed_step, feed_outcome.step] at hfeed
  split_ifs at hfeed with hmore
  simp only [judge, if_pos hmore]

theorem outcome_state_decided (rules : List c_string) (outcome : hello_outcome) :
    outcome_state rules outcome = TLS_FLOW_ALLOW ∨
      outcome_state rules outcome = TLS_FLOW_BLOCK := by
  unfold outcome_state
  split_ifs
  · exact .inl rfl
  · exact .inr rfl

/-- A prefix leaves a flow under inspection exactly if it is inside the budget and
decides nothing. -/
theorem judge_inspecting_iff {rules : List c_string} {received : List UInt8} :
    judge rules received = TLS_FLOW_INSPECTING ↔
      received.length < ACCESS_FILTER_TLS_STREAM_LIMIT ∧
        ∃ parser, parsed received = .inl parser := by
  cases h : parsed (received.take ACCESS_FILTER_TLS_STREAM_LIMIT) with
  | inl parser =>
      rw [judge_of_going h]
      by_cases hshort : received.length < ACCESS_FILTER_TLS_STREAM_LIMIT
      · rw [List.take_of_length_le (Nat.le_of_lt hshort)] at h
        simp only [if_pos hshort, true_iff]
        exact ⟨hshort, parser, h⟩
      · simp [hshort]
  | inr outcome =>
      rw [judge_of_verdict h]
      constructor
      · intro hstate
        rcases outcome_state_decided rules outcome with ha | hb
        · rw [ha] at hstate; cases hstate
        · rw [hb] at hstate; cases hstate
      · rintro ⟨hshort, parser, hp⟩
        rw [List.take_of_length_le (Nat.le_of_lt hshort), hp] at h
        cases h

theorem judge_ne_free (rules : List c_string) (received : List UInt8) :
    judge rules received ≠ TLS_FLOW_FREE := by
  cases h : parsed (received.take ACCESS_FILTER_TLS_STREAM_LIMIT) with
  | inl parser =>
      rw [judge_of_going h]
      split_ifs <;> simp
  | inr outcome =>
      rw [judge_of_verdict h]
      rcases outcome_state_decided rules outcome with ha | hb
      · simp [ha]
      · simp [hb]

/-- **A decision stands** under every continuation of the stream. -/
theorem judge_append {rules : List c_string} {received : List UInt8}
    (h : judge rules received ≠ TLS_FLOW_INSPECTING) (more : List UInt8) :
    judge rules (received ++ more) = judge rules received := by
  cases hp : parsed (received.take ACCESS_FILTER_TLS_STREAM_LIMIT) with
  | inr outcome =>
      rw [judge_of_verdict hp]
      refine judge_of_verdict ?_ rules
      rw [List.take_append]
      exact consume_append_of_verdict hp _
  | inl parser =>
      rw [judge_of_going hp] at h ⊢
      split_ifs at h ⊢ with hshort
      · exact absurd rfl h
      · have hfull : ¬ (received ++ more).length < ACCESS_FILTER_TLS_STREAM_LIMIT := by
          rw [List.length_append]
          omega
        have htake : (received ++ more).take ACCESS_FILTER_TLS_STREAM_LIMIT
            = received.take ACCESS_FILTER_TLS_STREAM_LIMIT :=
          List.take_append_of_le_length (Nat.le_of_not_lt hshort)
        rw [← htake] at hp
        rw [judge_of_going hp, if_neg hfull]

/-! ## Feeding -/

/-- An entry still marked as under inspection that has been fed exactly `received`. -/
structure Fed (received : List UInt8) (flow : tls_flow_t) : Prop where
  state : flow.state = TLS_FLOW_INSPECTING
  inspected : flow.inspected_bytes = received.length
  length_le : received.length ≤ ACCESS_FILTER_TLS_STREAM_LIMIT
  parser : parsed received = .inl flow.parser

/-- An entry under inspection between two segments. -/
structure Inspecting (received : List UInt8) (flow : tls_flow_t) : Prop
    extends Fed received flow where
  short : received.length < ACCESS_FILTER_TLS_STREAM_LIMIT

section Feeding

variable {lwip : lwip_t} {rules : List c_string} {received : List UInt8} {flow : tls_flow_t}

theorem Fed.reading (h : Fed received flow) : Reading TLS_SNI_HOSTNAME_SIZE flow.parser :=
  parsed_reading h.parser

theorem Inspecting.judge_eq (h : Inspecting received flow) (rules : List c_string) :
    judge rules received = TLS_FLOW_INSPECTING :=
  judge_inspecting_iff.mpr ⟨h.short, _, h.parser⟩

theorem feed_chunk_going (h : Fed received flow) {chunk : List UInt8}
    {parser : tls_sni_parser_t}
    (hc : consume (read_byte TLS_SNI_HOSTNAME_SIZE) flow.parser chunk = .inl parser)
    (hle : (received ++ chunk).length ≤ ACCESS_FILTER_TLS_STREAM_LIMIT) :
    Fed (received ++ chunk) (feed_chunk rules flow chunk) := by
  have hfeed := feed_eq_consume h.reading hostname_size_ne chunk
  rw [hc, feed_step, feed_outcome.step] at hfeed
  split_ifs at hfeed with hmore
  simp only [feed_chunk, apply_tls_parse_result, if_pos hmore]
  refine ⟨h.state, by rw [h.inspected, List.length_append], hle, ?_⟩
  rw [parsed_append h.parser, hc, Sum.inl.inj hfeed]

/-- A result other than `NEED_MORE` settles the state. -/
theorem apply_result_state (rules : List c_string) (flow : tls_flow_t)
    {result : tls_sni_parse_result_t} (hmore : result ≠ .NEED_MORE) (hostname : c_string) :
    (apply_tls_parse_result rules flow result hostname).state
      = outcome_state rules ⟨result, hostname, flow.parser.ech_present⟩ := by
  rw [apply_tls_parse_result, if_neg hmore, outcome_state]
  cases result with
  | NEED_MORE => exact absurd rfl hmore
  | FOUND =>
      cases hech : flow.parser.ech_present <;>
        cases hname : access_filter_is_hostname_blocked rules hostname <;> simp
  | NO_SNI => simp
  | INVALID => simp

theorem feed_chunk_verdict (rules : List c_string) (h : Fed received flow) {chunk : List UInt8}
    {outcome : hello_outcome}
    (hc : consume (read_byte TLS_SNI_HOSTNAME_SIZE) flow.parser chunk = .inr outcome) :
    (feed_chunk rules flow chunk).state = outcome_state rules outcome := by
  have hfeed := feed_eq_consume h.reading hostname_size_ne chunk
  rw [hc, feed_step, feed_outcome.step] at hfeed
  split_ifs at hfeed with hmore
  rw [← Sum.inr.inj hfeed]
  exact apply_result_state rules _ hmore _

/-- Once decided, feeding stops. -/
theorem feed_tls_stream_decided (h : flow.state ≠ TLS_FLOW_INSPECTING) (packet : pbuf)
    (payload_offset payload_length : ℕ) :
    feed_tls_stream lwip rules flow packet payload_offset payload_length = flow := by
  rw [feed_tls_stream, if_neg (fun hc => h hc.2), if_neg (fun hc => h hc.1)]

/-- An entry that has used its budget up is blocked. -/
theorem feed_tls_stream_full (h : Fed received flow)
    (hfull : ACCESS_FILTER_TLS_STREAM_LIMIT ≤ received.length) (packet : pbuf)
    (payload_offset payload_length : ℕ) :
    (feed_tls_stream lwip rules flow packet payload_offset payload_length).state
      = TLS_FLOW_BLOCK := by
  have hlimit : flow.inspected_bytes ≥ ACCESS_FILTER_TLS_STREAM_LIMIT := h.inspected ▸ hfull
  rw [feed_tls_stream]
  by_cases hpos : payload_length > 0 ∧ flow.state = TLS_FLOW_INSPECTING
  · rw [if_pos hpos, if_pos hlimit]
  · rw [if_neg hpos, if_pos ⟨h.state, hlimit⟩]

/-- What the budget cuts off decides nothing any more. -/
theorem judge_full (h : Fed received flow)
    (hfull : ACCESS_FILTER_TLS_STREAM_LIMIT ≤ received.length) (more : List UInt8) :
    judge rules (received ++ more) = TLS_FLOW_BLOCK := by
  have hlen : received.length = ACCESS_FILTER_TLS_STREAM_LIMIT :=
    Nat.le_antisymm h.length_le hfull
  have hjudge : judge rules received = TLS_FLOW_BLOCK := by
    rw [judge_of_going (by rw [List.take_of_length_le h.length_le]; exact h.parser),
      if_neg (by omega)]
  rw [judge_append (by rw [hjudge]; simp), hjudge]

/-- The next chunk is not empty, and neither the payload nor the budget is too short for
it. -/
theorem next_chunk_length_spec (h : Fed received flow)
    (hshort : received.length < ACCESS_FILTER_TLS_STREAM_LIMIT) {payload_length : ℕ}
    (hpos : 0 < payload_length) :
    0 < next_chunk_length flow payload_length ∧
      next_chunk_length flow payload_length ≤ payload_length ∧
      received.length + next_chunk_length flow payload_length
        ≤ ACCESS_FILTER_TLS_STREAM_LIMIT := by
  rw [next_chunk_length, h.inspected]
  simp only [ACCESS_FILTER_TLS_FEED_CHUNK_SIZE]
  omega

/-- One round: the chunk that is copied is the next piece of the packet. -/
theorem feed_tls_stream_round (h : Fed received flow)
    (hshort : received.length < ACCESS_FILTER_TLS_STREAM_LIMIT) {packet : pbuf}
    {payload_offset payload_length : ℕ} (hpos : 0 < payload_length)
    (hin : payload_offset + payload_length ≤ packet.tot_len) :
    feed_tls_stream lwip rules flow packet payload_offset payload_length
      = feed_tls_stream lwip rules
          (feed_chunk rules flow ((packet.bytes.drop payload_offset).take
            (next_chunk_length flow payload_length))) packet
          (payload_offset + next_chunk_length flow payload_length)
          (payload_length - next_chunk_length flow payload_length) := by
  obtain ⟨hn, hnle, -⟩ := next_chunk_length_spec h hshort hpos
  have hcopy : copy_packet_bytes lwip packet payload_offset
      (next_chunk_length flow payload_length)
        = some ((packet.bytes.drop payload_offset).take
          (next_chunk_length flow payload_length)) := by
    rw [copy_packet_bytes_eq, if_pos (by omega)]
  rw [feed_tls_stream, if_pos ⟨hpos, h.state⟩, if_neg (by rw [h.inspected]; omega)]
  simp only [if_neg (Nat.pos_iff_ne_zero.mp hn), hcopy]

/-- A chunk that decides: nothing behind it is looked at. -/
theorem feed_chunk_decided (h : Fed received flow) {chunk : List UInt8}
    {outcome : hello_outcome}
    (hc : consume (read_byte TLS_SNI_HOSTNAME_SIZE) flow.parser chunk = .inr outcome)
    (hle : (received ++ chunk).length ≤ ACCESS_FILTER_TLS_STREAM_LIMIT) (more : List UInt8) :
    (feed_chunk rules flow chunk).state = judge rules (received ++ chunk ++ more) ∧
      (feed_chunk rules flow chunk).state ≠ TLS_FLOW_INSPECTING := by
  have hdecided : outcome_state rules outcome ≠ TLS_FLOW_INSPECTING := by
    rcases outcome_state_decided rules outcome with ha | hb
    · rw [ha]; simp
    · rw [hb]; simp
  have hverdict : judge rules (received ++ chunk) = outcome_state rules outcome := by
    refine judge_of_verdict ?_ rules
    rw [List.take_of_length_le hle, parsed_append h.parser, hc]
  rw [feed_chunk_verdict rules h hc, judge_append (by rw [hverdict]; exact hdecided), hverdict]
  exact ⟨rfl, hdecided⟩

/-- **Feeding is reading on**: after a region of a packet the entry is judged by what
it had been fed followed by that region. The induction is on the chunks. -/
theorem feed_tls_stream_spec (lwip : lwip_t) (rules : List c_string) (h : Fed received flow)
    (packet : pbuf)
    (payload_offset payload_length : ℕ)
    (hin : payload_offset + payload_length ≤ packet.tot_len) :
    let fed := feed_tls_stream lwip rules flow packet payload_offset payload_length
    let whole := received ++ (packet.bytes.drop payload_offset).take payload_length
    fed.state = judge rules whole ∧ (fed.state = TLS_FLOW_INSPECTING → Inspecting whole fed) := by
  simp only
  induction payload_length using Nat.strong_induction_on generalizing
    received flow payload_offset with
  | _ payload_length ih =>
  by_cases hfull : ACCESS_FILTER_TLS_STREAM_LIMIT ≤ received.length
  · -- the budget was used up before
    rw [judge_full h hfull, feed_tls_stream_full h hfull]
    exact ⟨rfl, fun hc => by cases hc⟩
  have hshort := Nat.lt_of_not_le hfull
  by_cases hzero : payload_length = 0
  · subst hzero
    have hins : Inspecting received flow := ⟨h, hshort⟩
    rw [feed_tls_stream, if_neg (by omega), if_neg (by rw [h.inspected]; omega),
      List.take_zero, List.append_nil, hins.judge_eq]
    exact ⟨h.state, fun _ => hins⟩
  -- one chunk, then the rest
  have hpos := Nat.pos_of_ne_zero hzero
  obtain ⟨hn, hnle, hnfit⟩ := next_chunk_length_spec h hshort hpos
  rw [feed_tls_stream_round h hshort hpos hin]
  generalize hchunk : (packet.bytes.drop payload_offset).take
    (next_chunk_length flow payload_length) = chunk
  have hsplit : (packet.bytes.drop payload_offset).take payload_length
      = chunk ++ (packet.bytes.drop (payload_offset + next_chunk_length flow payload_length)).take
          (payload_length - next_chunk_length flow payload_length) := by
    rw [← hchunk, ← List.drop_drop, ← List.take_add, Nat.add_sub_cancel' hnle]
  have hle : (received ++ chunk).length ≤ ACCESS_FILTER_TLS_STREAM_LIMIT := by
    simp only [pbuf.tot_len] at hin
    rw [List.length_append, ← hchunk, List.length_take, List.length_drop]
    omega
  rw [hsplit, ← List.append_assoc]
  cases hc : consume (read_byte TLS_SNI_HOSTNAME_SIZE) flow.parser chunk with
  | inl parser => exact ih _ (by omega) (feed_chunk_going h hc hle) _ (by omega)
  | inr outcome =>
      obtain ⟨hstate, hdecided⟩ := feed_chunk_decided h hc hle _
      rw [feed_tls_stream_decided hdecided]
      exact ⟨hstate, fun hgoing => absurd hgoing hdecided⟩

end Feeding

/-! ## One segment -/

section Segment

variable (lwip : lwip_t) (rules : List c_string) (now_ms : UInt32) (flow : tls_flow_t)
  (segment : tls_segment)

/-- The entry of a flow under inspection behind the payload of a segment. -/
def segment_fed : tls_flow_t :=
  let flow := { flow with last_seen_ms := now_ms }
  if segment.payload_length > 0 then
    inspect_payload lwip rules flow segment.packet segment.payload_sequence
      segment.payload_offset segment.payload_length
  else flow

/-- The payload starts beyond what the entry expects next. -/
def gap : Prop :=
  segment.payload_length > 0 ∧ Serial.after segment.payload_sequence flow.next_sequence = true

/-- How much of the payload has been fed before. -/
def overlap : ℕ := (flow.next_sequence - segment.payload_sequence).toNat

/-- The call of `inspect_flow` on a segment. -/
abbrev inspected : tls_flow_t × Bool :=
  inspect_flow lwip rules flow now_ms segment.packet segment.flags segment.payload_sequence
    segment.payload_offset segment.payload_length

/-- On a decided flow a segment refreshes the entry, or ends it. -/
theorem inspected_decided
    (h : flow.state = TLS_FLOW_ALLOW ∨ flow.state = TLS_FLOW_BLOCK) :
    inspected lwip rules now_ms flow segment
      = (clear_on_fin segment.flags { flow with last_seen_ms := now_ms },
          decide (flow.state = TLS_FLOW_BLOCK)) := by
  simp only [inspected, inspect_flow]
  rw [if_pos h]

/-- On a flow under inspection a segment without FIN leaves the entry behind its
payload. -/
theorem inspected_going (h : flow.state = TLS_FLOW_INSPECTING)
    (hfin : segment.flags &&& TCP_FIN = 0) :
    inspected lwip rules now_ms flow segment
      = (segment_fed lwip rules now_ms flow segment,
          decide ((segment_fed lwip rules now_ms flow segment).state = TLS_FLOW_BLOCK)) := by
  have hstate : ¬ (flow.state = TLS_FLOW_ALLOW ∨ flow.state = TLS_FLOW_BLOCK) := by simp [h]
  simp only [inspected, inspect_flow, clear_on_fin, hfin]
  rw [if_neg hstate]
  simp [segment_fed]

/-- With FIN the entry goes, and nothing but an allowed flow is let through. -/
theorem inspected_fin (h : flow.state = TLS_FLOW_INSPECTING)
    (hfin : segment.flags &&& TCP_FIN ≠ 0) :
    (inspected lwip rules now_ms flow segment).1 = {} ∧
      ((segment_fed lwip rules now_ms flow segment).state = TLS_FLOW_INSPECTING ∨
        (segment_fed lwip rules now_ms flow segment).state = TLS_FLOW_BLOCK →
        (inspected lwip rules now_ms flow segment).2 = true) := by
  have hstate : ¬ (flow.state = TLS_FLOW_ALLOW ∨ flow.state = TLS_FLOW_BLOCK) := by simp [h]
  simp only [inspected, inspect_flow, clear_on_fin]
  rw [if_neg hstate]
  refine ⟨by simp [hfin], fun hfed => ?_⟩
  simp only [segment_fed] at hfed
  rcases hfed with hins | hblock
  · simp [hfin, hins]
  · simp [hfin, hblock]

/-- What a segment never changes in an entry under inspection. -/
theorem segment_fed_frame :
    (segment_fed lwip rules now_ms flow segment).tuple = flow.tuple ∧
      (segment_fed lwip rules now_ms flow segment).saw_syn = flow.saw_syn ∧
      (segment_fed lwip rules now_ms flow segment).syn_sequence = flow.syn_sequence ∧
      (segment_fed lwip rules now_ms flow segment).last_seen_ms = now_ms := by
  simp only [segment_fed, inspect_payload]
  split_ifs
  · exact ⟨rfl, rfl, rfl, rfl⟩
  · obtain ⟨s, n, p, heq⟩ := feed_tls_stream_frame lwip rules
      { flow with last_seen_ms := now_ms } segment.packet
      (segment.payload_offset + (flow.next_sequence - segment.payload_sequence).toNat)
      (segment.payload_length - (flow.next_sequence - segment.payload_sequence).toNat)
    rw [heq]
    exact ⟨rfl, rfl, rfl, rfl⟩
  · exact ⟨rfl, rfl, rfl, rfl⟩
  · exact ⟨rfl, rfl, rfl, rfl⟩

variable {flow segment}

/-- A gap is not guessed at. -/
theorem segment_fed_gap (h : gap flow segment) :
    (segment_fed lwip rules now_ms flow segment).state = TLS_FLOW_BLOCK := by
  simp only [segment_fed, inspect_payload]
  rw [if_pos h.1, if_pos h.2]

/-- An empty payload or a complete retransmission is skipped. -/
theorem segment_fed_old (hgap : ¬ gap flow segment)
    (hold : segment.payload_length ≤ overlap flow segment) :
    segment_fed lwip rules now_ms flow segment = { flow with last_seen_ms := now_ms } := by
  simp only [segment_fed, inspect_payload]
  split_ifs with hpos hafter hnew
  · exact absurd ⟨hpos, hafter⟩ hgap
  · exact absurd hnew (by simp only [overlap] at hold; omega)
  · rfl
  · rfl

/-- Otherwise what lies behind the overlap is fed, and counted. -/
theorem segment_fed_new (hgap : ¬ gap flow segment)
    (hnew : overlap flow segment < segment.payload_length) :
    let fed := feed_tls_stream lwip rules { flow with last_seen_ms := now_ms } segment.packet
      (segment.payload_offset + overlap flow segment)
      (segment.payload_length - overlap flow segment)
    segment_fed lwip rules now_ms flow segment
      = { fed with
          next_sequence := flow.next_sequence
            + UInt32.ofNat (segment.payload_length - overlap flow segment) } := by
  have hpos : segment.payload_length > 0 := by omega
  have hafter : ¬ Serial.after segment.payload_sequence flow.next_sequence = true :=
    fun hc => hgap ⟨hpos, hc⟩
  obtain ⟨s, n, p, hframe⟩ := feed_tls_stream_frame lwip rules
    { flow with last_seen_ms := now_ms } segment.packet
    (segment.payload_offset + overlap flow segment)
    (segment.payload_length - overlap flow segment)
  simp only [segment_fed, inspect_payload, overlap] at hnew hframe ⊢
  rw [if_pos hpos, if_neg hafter, if_pos hnew, hframe]

/-- **One segment takes a prefix to a longer one**: unless there is a gap, the entry is
judged by what it had been fed followed by the part of the payload behind the
overlap. -/
theorem segment_fed_spec {received : List UInt8} (h : Inspecting received flow)
    (hgap : ¬ gap flow segment) :
    let fed := segment_fed lwip rules now_ms flow segment
    let whole := received ++ segment.payload.drop (overlap flow segment)
    fed.state = judge rules whole ∧ (fed.state = TLS_FLOW_INSPECTING → Inspecting whole fed) ∧
      fed.next_sequence
        = flow.next_sequence + UInt32.ofNat (segment.payload_length - overlap flow segment) := by
  have hstill : Inspecting received { flow with last_seen_ms := now_ms } :=
    ⟨⟨h.state, h.inspected, h.length_le, h.parser⟩, h.short⟩
  simp only
  by_cases hold : segment.payload_length ≤ overlap flow segment
  · rw [segment_fed_old lwip rules now_ms hgap hold,
      List.drop_of_length_le (by simpa using hold), List.append_nil, hstill.judge_eq,
      Nat.sub_eq_zero_of_le hold]
    exact ⟨h.state, fun _ => hstill, by simp⟩
  have hend := segment.payload_end_le
  have hregion : segment.payload.drop (overlap flow segment)
      = (segment.packet.bytes.drop (segment.payload_offset + overlap flow segment)).take
          (segment.payload_length - overlap flow segment) := by
    rw [tls_segment.payload, List.drop_take, List.drop_drop]
  have hspec := feed_tls_stream_spec lwip rules hstill.toFed segment.packet
    (segment.payload_offset + overlap flow segment)
    (segment.payload_length - overlap flow segment) (by omega)
  rw [segment_fed_new lwip rules now_ms hgap (Nat.lt_of_not_le hold), hregion]
  refine ⟨hspec.1, fun hins => ?_, rfl⟩
  -- the sequence number is no part of what an entry has been fed
  have hfin := hspec.2 hins
  exact ⟨⟨hfin.state, hfin.inspected, hfin.length_le, hfin.parser⟩, hfin.short⟩

end Segment

end WifiManager.AccessFilter
