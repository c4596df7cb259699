/-
The flow table seen one flow at a time.

A `tls_segment` is what `access_filter_lwip_ip4_input` hands to the inspection: a
packet together with the lengths it has checked. `flow_step` says what one segment
does to the entry of its own flow, with no table in it: the entry is absent or
there, `room` says whether the table has a free slot, and the result is the entry
left behind and the verdict. `inspect_flow_step` is the refinement: the table does
what `flow_step` says at the segment's own four-tuple, and at every other one it
only drops what has timed out.
-/
import Mathlib.Data.List.Basic
import WifiManager.AccessFilter.Flow

set_option autoImplicit false

namespace WifiManager.AccessFilter

open WifiManager.Lib WifiManager.TlsSniParser

open tls_flow_state_t

/-! ## Segments -/

/-- A segment whose lengths `access_filter_lwip_ip4_input` has checked. -/
structure tls_segment where
  packet : pbuf
  ip_header : ip_hdr
  tcp_header : tcp_hdr
  ip_header_length : ℕ
  tcp_header_length : ℕ
  ip_total_length : ℕ
  header_le : ip_header_length + tcp_header_length ≤ ip_total_length
  total_le : ip_total_length ≤ packet.tot_len

namespace tls_segment

variable (segment : tls_segment)

def tuple : four_tuple :=
  ⟨segment.ip_header.src, segment.ip_header.dest, segment.tcp_header.src,
    segment.tcp_header.dest⟩

def flags : UInt8 := TCPH_FLAGS segment.tcp_header

def sequence : UInt32 := segment.tcp_header.seqno

def payload_offset : ℕ := segment.ip_header_length + segment.tcp_header_length

def payload_length : ℕ := segment.ip_total_length - segment.payload_offset

/-- The sequence number of the first payload byte. -/
def payload_sequence : UInt32 :=
  segment.sequence + (if segment.flags &&& TCP_SYN ≠ 0 then 1 else 0)

/-- The payload bytes. -/
def payload : List UInt8 :=
  (segment.packet.bytes.drop segment.payload_offset).take segment.payload_length

/-- The call of `inspect_tls_tcp_segment` on the segment. -/
def inspect (lwip : lwip_t) (rules : List c_string) (flows : flow_table) (now_ms : UInt32) :
    flow_table × Bool :=
  inspect_tls_tcp_segment lwip rules flows now_ms segment.packet segment.ip_header
    segment.tcp_header segment.ip_header_length segment.tcp_header_length
    segment.ip_total_length

theorem payload_end_le : segment.payload_offset + segment.payload_length
    ≤ segment.packet.tot_len := by
  have h₁ := segment.header_le
  have h₂ := segment.total_le
  simp only [payload_length, payload_offset]
  omega

@[simp] theorem length_payload : segment.payload.length = segment.payload_length := by
  have h := segment.payload_end_le
  simp only [pbuf.tot_len] at h
  rw [payload, List.length_take, List.length_drop]
  omega

/-- The payload is shorter than a sequence number is wide. -/
theorem payload_length_lt : segment.payload_length < 65536 := by
  have h := segment.payload_end_le
  have hlt := segment.packet.tot_len_lt
  simp only [pbuf.tot_len, pbuf.bytes] at h
  omega

end tls_segment

theorem of_payload_tot_len {payload : List UInt8} (h : payload.length < 65000) :
    [List.replicate 40 (0 : UInt8), payload].flatten.length < 65536 := by
  rw [List.length_flatten]
  simp only [List.map_cons, List.length_replicate, List.map_nil, List.sum_cons, List.sum_nil]
  omega

theorem of_payload_total_le (payload : List UInt8) :
    40 + payload.length ≤ [List.replicate 40 (0 : UInt8), payload].flatten.length := by
  rw [List.length_flatten]
  simp only [List.map_cons, List.length_replicate, List.map_nil, List.sum_cons, List.sum_nil]
  omega

/-- A segment with headers of twenty bytes each, the payload in a buffer of its own. -/
def tls_segment.of_payload (tuple : four_tuple) (flags : UInt8) (sequence : UInt32)
    (payload : List UInt8) (h : payload.length < 65000) : tls_segment where
  packet :=
    { chain := [List.replicate 40 0, payload]
      tot_len_lt := of_payload_tot_len h }
  ip_header := ⟨0x45, UInt16.ofNat (40 + payload.length), 0, IP_PROTO_TCP,
    tuple.source_ipv4, tuple.destination_ipv4⟩
  tcp_header := ⟨tuple.source_port, tuple.destination_port, sequence,
    0x5000 ||| flags.toUInt16⟩
  ip_header_length := 20
  tcp_header_length := 20
  ip_total_length := 40 + payload.length
  header_le := Nat.le_add_right 40 _
  total_le := of_payload_total_le payload

/-! ## One flow -/

/-- An entry as the table shows it: a free one is no entry. -/
def tls_flow_t.settled (flow : tls_flow_t) : Option tls_flow_t :=
  if flow_layout.live flow = true then some flow else none

/-- The entry a SYN creates. -/
def tls_flow_t.opened (tuple : four_tuple) (sequence now_ms : UInt32) : tls_flow_t :=
  { tls_flow_t.created tuple now_ms with
    saw_syn := true
    syn_sequence := sequence
    next_sequence := sequence + 1 }

/-- The entry the first segment with payload of an unknown flow creates. -/
def tls_flow_t.adopted (tuple : four_tuple) (payload_sequence now_ms : UInt32) : tls_flow_t :=
  { tls_flow_t.created tuple now_ms with next_sequence := payload_sequence }

/-- The entry a segment is inspected with, if there is one. -/
def open_entry (room : Bool) (entry : Option tls_flow_t) (now_ms : UInt32)
    (segment : tls_segment) : Option tls_flow_t :=
  if segment.flags &&& TCP_SYN ≠ 0 then
    match entry.filter (fun flow =>
        simple_syn_retransmission flow segment.sequence segment.payload_length) with
    | some flow => some flow
    | none =>
        if entry.isSome || room then some (.opened segment.tuple segment.sequence now_ms)
        else none
  else if entry = none ∧ segment.payload_length > 0 then
    if room then some (.adopted segment.tuple segment.payload_sequence now_ms) else none
  else entry

/-- What a segment does to the entry of its flow, and whether it is discarded. -/
def flow_step (lwip : lwip_t) (rules : List c_string) (room : Bool) (entry : Option tls_flow_t)
    (now_ms : UInt32) (segment : tls_segment) : Option tls_flow_t × Bool :=
  if segment.flags &&& TCP_RST ≠ 0 then (none, false)
  else
    match open_entry room entry now_ms segment with
    | some flow =>
        let result := inspect_flow lwip rules flow now_ms segment.packet segment.flags
          segment.payload_sequence segment.payload_offset segment.payload_length
        (result.1.settled, result.2)
    | none => (none, decide (segment.flags &&& TCP_SYN ≠ 0 ∨ segment.payload_length > 0))

/-- The entry of a flow that is still there when a segment arrives. -/
def entry_at (flows : flow_table) (now_ms : UInt32) (tuple : four_tuple) : Option tls_flow_t :=
  (flow_layout.lookup flows tuple).filter (fun flow => !flow.expired now_ms)

/-! ## The table between two segments -/

@[simp] theorem live_created (tuple : four_tuple) (now_ms : UInt32) :
    flow_layout.live (.created tuple now_ms) = true := rfl

theorem not_live_default : flow_layout.live {} = false := rfl

theorem live_expire {now_ms : UInt32} {flow : tls_flow_t}
    (h : flow_layout.live (flow.expire now_ms) = true) : flow.expire now_ms = flow := by
  unfold tls_flow_t.expire at h ⊢
  split_ifs at h ⊢
  · rfl
  · simp [not_live_default] at h
  · rfl

theorem dead_expire {now_ms : UInt32} {flow : tls_flow_t} (h : flow_layout.live flow = false) :
    flow_layout.live (flow.expire now_ms) = false := by
  by_contra hlive
  rw [live_expire (by simpa using hlive), h] at hlive
  exact hlive rfl

theorem unique_expire {flows : flow_table} (hu : flow_layout.Unique flows) (now_ms : UInt32) :
    flow_layout.Unique (expire_tls_flows flows now_ms) :=
  Slots.Layout.unique_map hu (fun _ => dead_expire) (fun _ h => by rw [live_expire h])

/-- `expire_tls_flows` drops the entries that have timed out and no others. -/
theorem lookup_expire {flows : flow_table} (hu : flow_layout.Unique flows) (now_ms : UInt32)
    (tuple : four_tuple) :
    flow_layout.lookup (expire_tls_flows flows now_ms) tuple = entry_at flows now_ms tuple := by
  rw [expire_tls_flows, Slots.Layout.lookup_map hu (fun _ => dead_expire)
    (fun _ h => by rw [live_expire h]), entry_at]
  cases hl : flow_layout.lookup flows tuple with
  | none => rfl
  | some flow =>
      have hlive := (Slots.Layout.lookup_holds hl).1
      have hused : flow.state ≠ TLS_FLOW_FREE := by simpa [flow_layout] using hlive
      cases he : flow.expired now_ms <;>
        simp [tls_flow_t.expire, hused, he, Option.filter_some, hlive, not_live_default]

/-! ## Opening an entry -/

/-- `flows'` is `flows` but for the four-tuple, whose entry is `flow` at index `i`. -/
structure Placed (flows flows' : flow_table) (tuple : four_tuple) (i : ℕ) (flow : tls_flow_t) :
    Prop where
  unique : flow_layout.Unique flows'
  serves : flow_layout.Serves flows' i tuple
  entry : flows'[i]? = some flow
  key : flow.tuple = tuple
  other : ∀ t, t ≠ tuple → flow_layout.lookup flows' t = flow_layout.lookup flows t

/-- The result of a search or a creation, as a table and an index, against the entry
it should have reached. -/
inductive Opened (flows : flow_table) (tuple : four_tuple) :
    flow_table × Option ℕ → Option tls_flow_t → Prop
  | placed {flows' : flow_table} {i : ℕ} {flow : tls_flow_t} :
      Placed flows flows' tuple i flow → Opened flows tuple (flows', some i) (some flow)
  | absent {flows' : flow_table} : flow_layout.Unique flows' →
      flow_layout.lookup flows' tuple = none →
      (∀ t, t ≠ tuple → flow_layout.lookup flows' t = flow_layout.lookup flows t) →
      Opened flows tuple (flows', none) none

section Opening

variable {flows flows' : flow_table} {tuple : four_tuple} {i : ℕ} {flow : tls_flow_t}

theorem Placed.getD (h : Placed flows flows' tuple i flow) : flows'.getD i {} = flow := by
  rw [List.getD_eq_getElem?_getD, h.entry, Option.getD_some]

/-- A write to the entry that keeps its four-tuple. -/
theorem Placed.write (h : Placed flows flows' tuple i flow) {flow' : tls_flow_t}
    (hkey : flow'.tuple = tuple) : Placed flows (flows'.set i flow') tuple i flow' where
  unique := h.serves.unique h.unique (fun _ => hkey)
  serves := h.serves.set (fun _ => hkey)
  entry := List.getElem?_set_self h.serves.lt
  key := hkey
  other t ht := (h.serves.lookup_other (fun _ => hkey) ht).trans (h.other t ht)

theorem Opened.of_base {flows₁ : flow_table} {r : flow_table × Option ℕ}
    {entry : Option tls_flow_t} (h : Opened flows₁ tuple r entry)
    (hbase : ∀ t, t ≠ tuple → flow_layout.lookup flows₁ t = flow_layout.lookup flows t) :
    Opened flows tuple r entry := by
  cases h with
  | placed h =>
      exact .placed ⟨h.unique, h.serves, h.entry, h.key,
        fun t ht => (h.other t ht).trans (hbase t ht)⟩
  | absent hu hnone hother =>
      exact .absent hu hnone (fun t ht => (hother t ht).trans (hbase t ht))

/-- A test of the entry reached is a test of the entry at its index. -/
theorem Opened.filter {r : flow_table × Option ℕ} {entry : Option tls_flow_t}
    (h : Opened flows tuple r entry) (p : tls_flow_t → Bool) :
    (r.2.filter (fun i => p (r.1.getD i {}))).isSome = (entry.filter p).isSome := by
  cases h with
  | placed h =>
      simp only [Option.filter_some, h.getD]
      split_ifs <;> rfl
  | absent => rfl

/-- The entry a scan finds. -/
theorem opened_find (hu : flow_layout.Unique flows) (tuple : four_tuple) :
    Opened flows tuple (flows, find_tls_flow flows tuple) (flow_layout.lookup flows tuple) := by
  cases hf : find_tls_flow flows tuple with
  | none =>
      have hnone := Slots.Layout.find_eq_none_iff.mp hf
      exact hnone ▸ .absent hu hnone (fun _ _ => rfl)
  | some i =>
      obtain ⟨flow, hi, hholds, hl⟩ := Slots.Layout.find_spec hf
      rw [hl]
      exact .placed ⟨hu, Slots.Layout.serves_of_find hu hf, hi,
        (Slots.Layout.holds_iff.mp hholds).2, fun _ _ => rfl⟩

theorem create_opened (hu : flow_layout.Unique flows)
    (hnone : flow_layout.lookup flows tuple = none) (now_ms : UInt32) :
    Opened flows tuple (create_tls_flow flows tuple now_ms)
      (if (flow_layout.free flows).isSome = true then some (.created tuple now_ms)
        else none) := by
  unfold create_tls_flow
  cases hfree : flow_layout.free flows with
  | none => exact .absent hu hnone (fun _ _ => rfl)
  | some i =>
      have hserves := Slots.Layout.serves_of_free hfree hnone
      exact .placed
        { unique := hserves.unique hu (fun _ => rfl)
          serves := hserves.set (fun _ => rfl)
          entry := List.getElem?_set_self hserves.lt
          key := rfl
          other := fun t ht => hserves.lookup_other (fun _ => rfl) ht }

/-- `clear_tls_flow` on what a scan found removes the entry. -/
theorem clear_found (hu : flow_layout.Unique flows) (tuple : four_tuple) :
    flow_layout.Unique (clear_tls_flow flows (find_tls_flow flows tuple)) ∧
      flow_layout.lookup (clear_tls_flow flows (find_tls_flow flows tuple)) tuple = none ∧
      ∀ t, t ≠ tuple →
        flow_layout.lookup (clear_tls_flow flows (find_tls_flow flows tuple)) t
          = flow_layout.lookup flows t := by
  cases hf : find_tls_flow flows tuple with
  | none => exact ⟨hu, Slots.Layout.find_eq_none_iff.mp hf, fun _ _ => rfl⟩
  | some i =>
      have hserves := Slots.Layout.serves_of_find hu hf
      have hdead : flow_layout.live {} = true → flow_layout.key {} = tuple := by
        intro h
        simp [not_live_default] at h
      exact ⟨hserves.unique hu hdead, hserves.lookup_self hdead,
        fun t ht => hserves.lookup_other hdead ht⟩

/-- A cleared entry leaves room, and clearing nothing leaves the table as it is. -/
theorem free_clear (flows : flow_table) (tuple : four_tuple) :
    (flow_layout.free (clear_tls_flow flows (find_tls_flow flows tuple))).isSome
      = ((flow_layout.lookup flows tuple).isSome || (flow_layout.free flows).isSome) := by
  cases hf : find_tls_flow flows tuple with
  | none => rw [Slots.Layout.find_eq_none_iff.mp hf]; rfl
  | some i =>
      obtain ⟨flow, hi, -, hl⟩ := Slots.Layout.find_spec hf
      have hlt := (List.getElem?_eq_some_iff.mp hi).1
      rw [hl]
      exact Slots.Layout.free_isSome (List.getElem?_set_self hlt) not_live_default

theorem handle_syn_opened (hu : flow_layout.Unique flows) (sequence : UInt32)
    (payload_length : ℕ) (now_ms : UInt32) :
    Opened flows tuple
      (handle_syn flows (find_tls_flow flows tuple) tuple sequence payload_length now_ms)
      (match (flow_layout.lookup flows tuple).filter (fun flow =>
          simple_syn_retransmission flow sequence payload_length) with
        | some flow => some flow
        | none =>
            if (flow_layout.lookup flows tuple).isSome || (flow_layout.free flows).isSome then
              some (.opened tuple sequence now_ms)
            else none) := by
  have hfind := opened_find hu tuple
  have hsame := hfind.filter (fun flow => simple_syn_retransmission flow sequence payload_length)
  dsimp only at hsame
  unfold handle_syn
  cases hretry : (flow_layout.lookup flows tuple).filter (fun flow =>
      simple_syn_retransmission flow sequence payload_length) with
  -- a retransmitted SYN keeps the entry it finds
  | some flow =>
      rw [hretry] at hsame
      obtain ⟨i, hi⟩ := Option.isSome_iff_exists.mp hsame
      rw [hi]
      rw [(Option.filter_eq_some_iff.mp hi).1, (Option.filter_eq_some_iff.mp hretry).1] at hfind
      exact hfind
  -- any other SYN frees the old entry, so there is room if there was an entry or a free slot
  | none =>
      rw [hretry, Option.isSome_none, Option.isSome_eq_false_iff, Option.isNone_iff_eq_none]
        at hsame
      obtain ⟨hu₁, hnone, hother⟩ := clear_found hu tuple
      have hcreate := (create_opened hu₁ hnone now_ms).of_base hother
      rw [free_clear] at hcreate
      rw [hsame]
      cases hroom : ((flow_layout.lookup flows tuple).isSome || (flow_layout.free flows).isSome)
        with
      -- the table is full of other flows
      | false =>
          rw [hroom] at hcreate
          cases hc : create_tls_flow (clear_tls_flow flows (find_tls_flow flows tuple)) tuple
              now_ms with
          | mk flows' o =>
              rw [hc] at hcreate
              cases hcreate with
              | absent hu' hnone' hother' => exact .absent hu' hnone' hother'
      -- the new entry is written where it was created, under the same tuple
      | true =>
          rw [hroom] at hcreate
          cases hc : create_tls_flow (clear_tls_flow flows (find_tls_flow flows tuple)) tuple
              now_ms with
          | mk flows' o =>
              rw [hc] at hcreate
              cases hcreate with
              | placed h =>
                  have hw := h.write
                    (show (tls_flow_t.opened tuple sequence now_ms).tuple = tuple from rfl)
                  simp only [h.getD]
                  exact .placed hw

theorem adopt_flow_opened (hu : flow_layout.Unique flows)
    (hnone : flow_layout.lookup flows tuple = none) (payload_sequence now_ms : UInt32) :
    Opened flows tuple (adopt_flow flows tuple payload_sequence now_ms)
      (if (flow_layout.free flows).isSome = true then
        some (.adopted tuple payload_sequence now_ms) else none) := by
  have hcreate := create_opened hu hnone now_ms
  unfold adopt_flow
  cases hc : create_tls_flow flows tuple now_ms with
  | mk flows' o =>
      rw [hc] at hcreate
      split_ifs at hcreate ⊢
      · cases hcreate with
        | placed h =>
            have hw := h.write
              (show (tls_flow_t.adopted tuple payload_sequence now_ms).tuple = tuple from rfl)
            simp only [h.getD]
            exact .placed hw
      · cases hcreate with
        | absent hu' hnone' hother' => exact .absent hu' hnone' hother'

end Opening

/-! ## What a segment leaves alone in its entry -/

section Frame

variable (lwip : lwip_t) (rules : List c_string)

/-- Feeding changes the state, the parser and the count of inspected bytes only. -/
theorem feed_tls_stream_frame (flow : tls_flow_t) (packet : pbuf)
    (payload_offset payload_length : ℕ) :
    ∃ state inspected_bytes parser,
      feed_tls_stream lwip rules flow packet payload_offset payload_length
        = { flow with state := state, inspected_bytes := inspected_bytes, parser := parser } := by
  have hchunk : ∀ (flow : tls_flow_t) (chunk : List UInt8),
      ∃ state inspected_bytes parser, feed_chunk rules flow chunk
        = { flow with
            state := state, inspected_bytes := inspected_bytes, parser := parser } := by
    intro flow chunk
    simp only [feed_chunk, apply_tls_parse_result]
    split_ifs <;> exact ⟨_, _, _, rfl⟩
  fun_induction feed_tls_stream lwip rules flow packet payload_offset payload_length with
  | case4 flow payload_offset payload_length _ _ chunk_length _ chunk _ ih =>
      obtain ⟨s, n, p, heq⟩ := hchunk flow chunk
      obtain ⟨s', n', p', heq'⟩ := ih
      exact ⟨s', n', p', by rw [heq', heq]⟩
  | _ => exact ⟨_, _, _, rfl⟩

theorem inspect_flow_tuple (flow : tls_flow_t) (now_ms : UInt32) (packet : pbuf) (flags : UInt8)
    (payload_sequence : UInt32) (payload_offset payload_length : ℕ)
    (h : flow_layout.live (inspect_flow lwip rules flow now_ms packet flags payload_sequence
      payload_offset payload_length).1 = true) :
    (inspect_flow lwip rules flow now_ms packet flags payload_sequence payload_offset
      payload_length).1.tuple = flow.tuple := by
  -- neither the payload nor a FIN that leaves the entry touches the tuple
  have hpayload : ∀ flow : tls_flow_t, (inspect_payload lwip rules flow packet payload_sequence
      payload_offset payload_length).tuple = flow.tuple := by
    intro flow
    unfold inspect_payload
    simp only
    split_ifs
    · rfl
    · obtain ⟨s, n, p, heq⟩ := feed_tls_stream_frame lwip rules flow packet
        (payload_offset + (flow.next_sequence - payload_sequence).toNat)
        (payload_length - (flow.next_sequence - payload_sequence).toNat)
      rw [heq]
    · rfl
  have hfin : ∀ flow : tls_flow_t, flow_layout.live (clear_on_fin flags flow) = true →
      (clear_on_fin flags flow).tuple = flow.tuple := by
    intro flow hlive
    unfold clear_on_fin at hlive ⊢
    split_ifs at hlive ⊢
    · simp [not_live_default] at hlive
    · rfl
  unfold inspect_flow at h ⊢
  simp only at h ⊢
  split_ifs at h ⊢ <;> rw [hfin _ h] <;> simp [hpayload]

end Frame

/-! ## The refinement -/

/-- The part of `inspect_tls_tcp_segment` that settles which entry is inspected. -/
def open_flow (flows : flow_table) (now_ms : UInt32) (segment : tls_segment) :
    flow_table × Option ℕ :=
  if segment.flags &&& TCP_SYN ≠ 0 then
    handle_syn flows (find_tls_flow flows segment.tuple) segment.tuple segment.sequence
      segment.payload_length now_ms
  else if find_tls_flow flows segment.tuple = none ∧ segment.payload_length > 0 then
    adopt_flow flows segment.tuple segment.payload_sequence now_ms
  else (flows, find_tls_flow flows segment.tuple)

/-- The part of `inspect_tls_tcp_segment` behind it. -/
def inspect_opened (lwip : lwip_t) (rules : List c_string) (now_ms : UInt32)
    (segment : tls_segment) (opened : flow_table × Option ℕ) : flow_table × Bool :=
  let (flows, flow) := opened
  match flow with
  | some i =>
      let (entry, blocked) := inspect_flow lwip rules (flows.getD i {}) now_ms segment.packet
        segment.flags segment.payload_sequence segment.payload_offset segment.payload_length
      (flows.set i entry, blocked)
  | none => (flows, decide (segment.flags &&& TCP_SYN ≠ 0 ∨ segment.payload_length > 0))

theorem inspect_eq (lwip : lwip_t) (rules : List c_string) (flows : flow_table)
    (now_ms : UInt32) (segment : tls_segment) :
    segment.inspect lwip rules flows now_ms
      = if segment.flags &&& TCP_RST ≠ 0 then
          (clear_tls_flow (expire_tls_flows flows now_ms)
            (find_tls_flow (expire_tls_flows flows now_ms) segment.tuple), false)
        else
          inspect_opened lwip rules now_ms segment
            (open_flow (expire_tls_flows flows now_ms) now_ms segment) := rfl

theorem open_flow_opened {flows : flow_table} (hu : flow_layout.Unique flows)
    (now_ms : UInt32) (segment : tls_segment) :
    Opened flows segment.tuple (open_flow flows now_ms segment)
      (open_entry (flow_layout.free flows).isSome (flow_layout.lookup flows segment.tuple) now_ms
        segment) := by
  have hfind : find_tls_flow flows segment.tuple = none
      ↔ flow_layout.lookup flows segment.tuple = none := Slots.Layout.find_eq_none_iff
  simp only [open_flow, open_entry, hfind]
  by_cases hsyn : segment.flags &&& TCP_SYN ≠ 0
  · rw [if_pos hsyn, if_pos hsyn]
    exact handle_syn_opened hu _ _ _
  rw [if_neg hsyn, if_neg hsyn]
  by_cases hnew : flow_layout.lookup flows segment.tuple = none ∧ segment.payload_length > 0
  · rw [if_pos hnew, if_pos hnew]
    exact adopt_flow_opened hu hnew.1 _ _
  · rw [if_neg hnew, if_neg hnew]
    exact opened_find hu _

/-- **One segment, seen flow by flow**: at its own four-tuple the table does what
`flow_step` says, at every other one it drops what has timed out. -/
theorem inspect_flow_step {flows : flow_table} (hu : flow_layout.Unique flows) (lwip : lwip_t)
    (rules : List c_string) (now_ms : UInt32) (segment : tls_segment) :
    flow_layout.Unique (segment.inspect lwip rules flows now_ms).1 ∧
      (flow_layout.lookup (segment.inspect lwip rules flows now_ms).1 segment.tuple,
          (segment.inspect lwip rules flows now_ms).2)
        = flow_step lwip rules
            (flow_layout.free (expire_tls_flows flows now_ms)).isSome
            (entry_at flows now_ms segment.tuple) now_ms segment ∧
      ∀ t, t ≠ segment.tuple →
        flow_layout.lookup (segment.inspect lwip rules flows now_ms).1 t
          = entry_at flows now_ms t := by
  have hue := unique_expire hu now_ms
  simp only [← lookup_expire hu now_ms, inspect_eq]
  generalize expire_tls_flows flows now_ms = expired at hue ⊢
  rw [flow_step]
  -- a RST frees the slot of the flow
  by_cases hrst : segment.flags &&& TCP_RST ≠ 0
  · obtain ⟨hu', hnone, hother⟩ := clear_found hue segment.tuple
    simp only [if_pos hrst]
    exact ⟨hu', by rw [hnone], hother⟩
  simp only [if_neg hrst]
  -- first the slot that is opened, then the inspection in it
  have hopen := open_flow_opened hue now_ms segment
  generalize open_flow expired now_ms segment = opened at hopen ⊢
  generalize open_entry (flow_layout.free expired).isSome
    (flow_layout.lookup expired segment.tuple) now_ms segment = entry at hopen ⊢
  cases hopen with
  | absent hu' hnone hother => exact ⟨hu', by simp only [inspect_opened, hnone], hother⟩
  | placed h =>
      rename_i flows' i flow
      simp only [inspect_opened, h.getD]
      have hkey := fun hlive => (inspect_flow_tuple lwip rules flow now_ms segment.packet
        segment.flags segment.payload_sequence segment.payload_offset segment.payload_length
        hlive).trans h.key
      refine ⟨h.serves.unique h.unique hkey, ?_, fun t ht => ?_⟩
      · rw [h.serves.lookup_self hkey, tls_flow_t.settled]
      · exact (h.serves.lookup_other hkey ht).trans (h.other t ht)

end WifiManager.AccessFilter
