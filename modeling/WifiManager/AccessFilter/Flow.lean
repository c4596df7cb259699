/-
The TLS flow table of `components/access_filter` and the inspection of one segment.

`inspect_tls_tcp_segment` is cut at the places where the source assigns `flow`:
the SYN branch (`handle_syn`), the first segment of an unknown flow
(`adopt_flow`), and everything behind `if (flow == NULL)`, which works on one
entry only (`inspect_flow`). A `tls_flow_t *` is an index into the table. The
table is searched and written as `Lib.Slots` describes.
-/
import WifiManager.Lib.Serial
import WifiManager.Lib.Slots
import WifiManager.AccessFilter.Hostname
import WifiManager.AccessFilter.Packet

set_option autoImplicit false

namespace WifiManager.AccessFilter

open WifiManager.Lib WifiManager.TlsSniParser

/-! ## The flow table -/

abbrev ACCESS_FILTER_TLS_FLOW_CAPACITY : ℕ := 12
abbrev ACCESS_FILTER_TLS_INSPECTION_TIMEOUT_MS : UInt32 := 15000
abbrev ACCESS_FILTER_TLS_DECISION_TIMEOUT_MS : UInt32 := 120000
abbrev ACCESS_FILTER_TLS_STREAM_LIMIT : ℕ := 4096
abbrev ACCESS_FILTER_TLS_FEED_CHUNK_SIZE : ℕ := 256

/-- `tls_flow_state_t`. -/
inductive tls_flow_state_t
  | TLS_FLOW_FREE
  | TLS_FLOW_INSPECTING
  | TLS_FLOW_ALLOW
  | TLS_FLOW_BLOCK
  deriving DecidableEq, Repr

open tls_flow_state_t

/-- The four values that name a client's TCP flow. -/
structure four_tuple where
  source_ipv4 : UInt32
  destination_ipv4 : UInt32
  source_port : UInt16
  destination_port : UInt16
  deriving DecidableEq, Repr

/-- `tls_flow_t`; the default value is the entry all of whose bytes are zero. -/
structure tls_flow_t where
  state : tls_flow_state_t := TLS_FLOW_FREE
  tuple : four_tuple := ⟨0, 0, 0, 0⟩
  next_sequence : UInt32 := 0
  syn_sequence : UInt32 := 0
  saw_syn : Bool := false
  inspected_bytes : ℕ := 0
  last_seen_ms : UInt32 := 0
  parser : tls_sni_parser_t := {}
  deriving DecidableEq, Repr

/-- `s_tls_flows`. -/
abbrev flow_table := List tls_flow_t

/-- `s_tls_flows` at start. -/
def s_tls_flows_init : flow_table := List.replicate ACCESS_FILTER_TLS_FLOW_CAPACITY {}

/-- An entry is in use unless its state is `TLS_FLOW_FREE`, and is found by its
four-tuple. -/
def flow_layout : Slots.Layout tls_flow_t four_tuple where
  live flow := decide (flow.state ≠ TLS_FLOW_FREE)
  key flow := flow.tuple

/-- `find_tls_flow`. -/
def find_tls_flow (flows : flow_table) (tuple : four_tuple) : Option ℕ :=
  flow_layout.find flows tuple

/-- `clear_tls_flow`, which ignores a NULL pointer. -/
def clear_tls_flow (flows : flow_table) : Option ℕ → flow_table
  | none => flows
  | some i => flows.set i {}

/-- The entry `create_tls_flow` writes. -/
def tls_flow_t.created (tuple : four_tuple) (now_ms : UInt32) : tls_flow_t :=
  { state := TLS_FLOW_INSPECTING
    tuple := tuple
    last_seen_ms := now_ms
    parser := tls_sni_parser_init }

/-- `create_tls_flow`: the first free entry, if there is one. -/
def create_tls_flow (flows : flow_table) (tuple : four_tuple) (now_ms : UInt32) :
    flow_table × Option ℕ :=
  match flow_layout.free flows with
  | none => (flows, none)
  | some i => (flows.set i (.created tuple now_ms), some i)

/-- The timeout test of `expire_tls_flows`. -/
def tls_flow_t.expired (flow : tls_flow_t) (now_ms : UInt32) : Bool :=
  let timeout_ms :=
    if flow.state = TLS_FLOW_INSPECTING then ACCESS_FILTER_TLS_INSPECTION_TIMEOUT_MS
    else ACCESS_FILTER_TLS_DECISION_TIMEOUT_MS
  decide (now_ms - flow.last_seen_ms ≥ timeout_ms)

/-- The body of the loop of `expire_tls_flows`. -/
def tls_flow_t.expire (now_ms : UInt32) (flow : tls_flow_t) : tls_flow_t :=
  if flow.state = TLS_FLOW_FREE then flow
  else if flow.expired now_ms = true then {}
  else flow

/-- `expire_tls_flows`. -/
def expire_tls_flows (flows : flow_table) (now_ms : UInt32) : flow_table :=
  flows.map (tls_flow_t.expire now_ms)

/-! ## Feeding one flow -/

section Feed

variable (lwip : lwip_t) (rules : List c_string)

/-- `apply_tls_parse_result`. -/
def apply_tls_parse_result (flow : tls_flow_t) (result : tls_sni_parse_result_t)
    (parsed_hostname : c_string) : tls_flow_t :=
  if result = .NEED_MORE then flow
  -- a name that cannot be read might be a blocked one
  else if flow.parser.ech_present = true ∨ result = .NO_SNI ∨ result = .INVALID then
    { flow with state := TLS_FLOW_BLOCK }
  else if result ≠ .FOUND then { flow with state := TLS_FLOW_BLOCK }
  else
    { flow with
      state :=
        if access_filter_is_hostname_blocked rules parsed_hostname then TLS_FLOW_BLOCK
        else TLS_FLOW_ALLOW }

/-- How many bytes the next round of `feed_tls_stream` takes. -/
def next_chunk_length (flow : tls_flow_t) (payload_length : ℕ) : ℕ :=
  min (min payload_length ACCESS_FILTER_TLS_FEED_CHUNK_SIZE)
    (ACCESS_FILTER_TLS_STREAM_LIMIT - flow.inspected_bytes)

/-- What a round of `feed_tls_stream` does with the chunk it copied. -/
def feed_chunk (flow : tls_flow_t) (chunk : List UInt8) : tls_flow_t :=
  let outcome := tls_sni_parser_feed flow.parser chunk TLS_SNI_HOSTNAME_SIZE
  apply_tls_parse_result rules
    { flow with
      parser := outcome.parser
      inspected_bytes := flow.inspected_bytes + chunk.length }
    outcome.result outcome.hostname

/-- `feed_tls_stream`. -/
def feed_tls_stream (flow : tls_flow_t) (packet : pbuf) (payload_offset payload_length : ℕ) :
    tls_flow_t :=
  if payload_length > 0 ∧ flow.state = TLS_FLOW_INSPECTING then
    if flow.inspected_bytes ≥ ACCESS_FILTER_TLS_STREAM_LIMIT then
      { flow with state := TLS_FLOW_BLOCK }
    else
      let chunk_length := next_chunk_length flow payload_length
      if chunk_length = 0 then { flow with state := TLS_FLOW_BLOCK }
      else
        match copy_packet_bytes lwip packet payload_offset chunk_length with
        | none => { flow with state := TLS_FLOW_BLOCK }
        | some chunk =>
            feed_tls_stream (feed_chunk rules flow chunk) packet
              (payload_offset + chunk_length) (payload_length - chunk_length)
  -- the stream budget is used up without a complete ClientHello
  else if flow.state = TLS_FLOW_INSPECTING ∧
      flow.inspected_bytes ≥ ACCESS_FILTER_TLS_STREAM_LIMIT then
    { flow with state := TLS_FLOW_BLOCK }
  else flow
  termination_by payload_length

/-! ## One segment -/

/-- The payload of a segment on a flow under inspection: a gap blocks, what is new is
fed, a complete retransmission is skipped. -/
def inspect_payload (flow : tls_flow_t) (packet : pbuf) (payload_sequence : UInt32)
    (payload_offset payload_length : ℕ) : tls_flow_t :=
  if Serial.after payload_sequence flow.next_sequence then
    -- the bytes in between have not been seen
    { flow with state := TLS_FLOW_BLOCK }
  else
    let overlap := flow.next_sequence - payload_sequence
    -- the new part lies behind what has been fed
    if overlap.toNat < payload_length then
      let new_length := payload_length - overlap.toNat
      let new_offset := payload_offset + overlap.toNat
      let flow := feed_tls_stream lwip rules flow packet new_offset new_length
      { flow with next_sequence := flow.next_sequence + UInt32.ofNat new_length }
    else flow

/-- `clear_tls_flow` on a segment with FIN, nothing on another. -/
def clear_on_fin (flags : UInt8) (flow : tls_flow_t) : tls_flow_t :=
  if flags &&& TCP_FIN ≠ 0 then {} else flow

/-- `inspect_tls_tcp_segment` behind `if (flow == NULL)`: the entry left behind and
the value returned. -/
def inspect_flow (flow : tls_flow_t) (now_ms : UInt32) (packet : pbuf) (flags : UInt8)
    (payload_sequence : UInt32) (payload_offset payload_length : ℕ) : tls_flow_t × Bool :=
  -- also a blocked flow that goes on sending stays in the table
  let flow := { flow with last_seen_ms := now_ms }
  -- decided: the payload is not looked at
  if flow.state = TLS_FLOW_ALLOW ∨ flow.state = TLS_FLOW_BLOCK then
    (clear_on_fin flags flow, decide (flow.state = TLS_FLOW_BLOCK))
  else
    let flow :=
      if payload_length > 0 then
        inspect_payload lwip rules flow packet payload_sequence payload_offset payload_length
      else flow
    -- a connection closed before its ClientHello is complete
    let flow :=
      if flags &&& TCP_FIN ≠ 0 ∧ flow.state = TLS_FLOW_INSPECTING then
        { flow with state := TLS_FLOW_BLOCK }
      else flow
    (clear_on_fin flags flow, decide (flow.state = TLS_FLOW_BLOCK))

end Feed

/-- A SYN that repeats the one that created the entry, before any payload. -/
def simple_syn_retransmission (flow : tls_flow_t) (sequence : UInt32) (payload_length : ℕ) :
    Bool :=
  decide (flow.state = TLS_FLOW_INSPECTING ∧ flow.saw_syn = true ∧
    flow.syn_sequence = sequence ∧ flow.next_sequence = sequence + 1 ∧ payload_length = 0)

/-- The SYN branch: the entry found stays on a simple retransmission, otherwise it is
replaced by a new one. No entry means that the table is full. -/
def handle_syn (flows : flow_table) (flow : Option ℕ) (tuple : four_tuple) (sequence : UInt32)
    (payload_length : ℕ) (now_ms : UInt32) : flow_table × Option ℕ :=
  match flow.filter (fun i =>
      simple_syn_retransmission (flows.getD i {}) sequence payload_length) with
  | some i => (flows, some i)
  | none =>
      -- a new connection on an old four-tuple
      match create_tls_flow (clear_tls_flow flows flow) tuple now_ms with
      | (flows, none) => (flows, none)
      | (flows, some i) =>
          (flows.set i
            { flows.getD i {} with
              saw_syn := true
              syn_sequence := sequence
              next_sequence := sequence + 1 }, some i)

/-- The first segment with payload of a flow that was never seen to start. -/
def adopt_flow (flows : flow_table) (tuple : four_tuple) (payload_sequence : UInt32)
    (now_ms : UInt32) : flow_table × Option ℕ :=
  match create_tls_flow flows tuple now_ms with
  | (flows, none) => (flows, none)
  | (flows, some i) =>
      (flows.set i { flows.getD i {} with next_sequence := payload_sequence }, some i)

/-- `inspect_tls_tcp_segment` at the time `sys_now() = now_ms`: the flow table it
leaves behind and whether the packet is to be discarded. -/
def inspect_tls_tcp_segment (lwip : lwip_t) (rules : List c_string) (flows : flow_table)
    (now_ms : UInt32) (packet : pbuf) (ip_header : ip_hdr) (tcp_header : tcp_hdr)
    (ip_header_length tcp_header_length ip_total_length : ℕ) : flow_table × Bool :=
  let flows := expire_tls_flows flows now_ms
  let tuple : four_tuple := ⟨ip_header.src, ip_header.dest, tcp_header.src, tcp_header.dest⟩
  let sequence := tcp_header.seqno
  let flags := TCPH_FLAGS tcp_header
  let payload_offset := ip_header_length + tcp_header_length
  let payload_length := ip_total_length - payload_offset
  let payload_sequence := sequence + (if flags &&& TCP_SYN ≠ 0 then 1 else 0)
  let flow := find_tls_flow flows tuple
  -- a RST only ends the connection
  if flags &&& TCP_RST ≠ 0 then (clear_tls_flow flows flow, false)
  else
    let (flows, flow) :=
      if flags &&& TCP_SYN ≠ 0 then
        handle_syn flows flow tuple sequence payload_length now_ms
      else if flow = none ∧ payload_length > 0 then
        adopt_flow flows tuple payload_sequence now_ms
      else (flows, flow)
    match flow with
    | some i =>
        -- the entry is written back also where the segment is discarded
        let (entry, blocked) := inspect_flow lwip rules (flows.getD i {}) now_ms packet flags
          payload_sequence payload_offset payload_length
        (flows.set i entry, blocked)
    -- no room in the table, or a segment without payload of an unknown flow
    | none => (flows, decide (flags &&& TCP_SYN ≠ 0 ∨ payload_length > 0))

end WifiManager.AccessFilter
