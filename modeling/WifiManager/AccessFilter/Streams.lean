/-
A client stream delivered in order.

The client sends a stream over one connection: a SYN with sequence number
`sequence`, then segments that carry pieces of the stream, cut anywhere, repeated
and overlapping, none beyond what has arrived without a hole. `contiguous_end` is
how much that is, and `reassembled` the state the stream and the rules give the
flow; neither looks at a segment's number, its length modulo 2^16 or the chunks
it is fed in. `inspect_in_order` is the equality, by induction over the
deliveries; between two of them any segments of other flows may arrive.
-/
import WifiManager.AccessFilter.Runs
import WifiManager.TlsSniParser.Reference

set_option autoImplicit false

namespace WifiManager.AccessFilter

open WifiManager.Lib WifiManager.TlsSniParser

open tls_flow_state_t

/-! ## Deliveries -/

/-- The segment carries the piece of the stream that starts at `start`; the byte at
offset `0` has the sequence number behind the SYN. -/
structure Carries (stream : List UInt8) (sequence : UInt32) (segment : tls_segment)
    (start : ℕ) : Prop where
  sequence_eq : segment.payload_sequence = sequence + 1 + UInt32.ofNat start
  stop_le : start + segment.payload_length ≤ stream.length
  payload_eq : segment.payload = (stream.drop start).take segment.payload_length

/-- None of SYN, RST and FIN. -/
structure tls_segment.Plain (segment : tls_segment) : Prop where
  syn : segment.flags &&& TCP_SYN = 0
  rst : segment.flags &&& TCP_RST = 0
  fin : segment.flags &&& TCP_FIN = 0

/-- A SYN, without RST and FIN; it may carry the beginning of the stream. -/
structure OpensStream (stream : List UInt8) (sequence : UInt32) (tuple : four_tuple)
    (segment : tls_segment) : Prop where
  tuple_eq : segment.tuple = tuple
  syn : segment.flags &&& TCP_SYN ≠ 0
  rst : segment.flags &&& TCP_RST = 0
  fin : segment.flags &&& TCP_FIN = 0
  sequence_eq : segment.sequence = sequence
  carries : Carries stream sequence segment 0

/-- An arrival of the flow that carries a piece of the stream. -/
structure own_arrival (stream : List UInt8) (sequence : UInt32) (tuple : four_tuple) extends
    arrival where
  start : ℕ
  tuple_eq : segment.tuple = tuple
  plain : segment.Plain
  carries : Carries stream sequence segment start

/-- An arrival of another flow. -/
structure foreign_arrival (tuple : four_tuple) extends arrival where
  tuple_ne : tuple ≠ segment.tuple

/-- What arrives while the stream is delivered. -/
inductive delivery (stream : List UInt8) (sequence : UInt32) (tuple : four_tuple)
  | own (a : own_arrival stream sequence tuple)
  | foreign (a : foreign_arrival tuple)

section Deliveries

variable {stream : List UInt8} {sequence : UInt32} {tuple : four_tuple}

/-- The call a delivery makes. -/
def delivery.arrival : delivery stream sequence tuple → arrival
  | .own a => a.toarrival
  | .foreign a => a.toarrival

/-- How much of the stream has arrived without a hole. -/
def contiguous_end : ℕ → List (delivery stream sequence tuple) → ℕ
  | received, [] => received
  | received, .own a :: rest =>
      contiguous_end (max received (a.start + a.segment.payload_length)) rest
  | received, .foreign _ :: rest => contiguous_end received rest

/-- When the flow's last segment arrived. -/
def last_arrival : UInt32 → List (delivery stream sequence tuple) → UInt32
  | last, [] => last
  | _, .own a :: rest => last_arrival a.now_ms rest
  | last, .foreign _ :: rest => last_arrival last rest

/-- No segment starts beyond what has arrived without a hole, and none comes 15000 ms
or more after the flow's last one. -/
def in_order : ℕ → UInt32 → List (delivery stream sequence tuple) → Prop
  | _, _, [] => True
  | received, last, .own a :: rest =>
      a.start ≤ received ∧ a.now_ms - last < ACCESS_FILTER_TLS_INSPECTION_TIMEOUT_MS ∧
        in_order (max received (a.start + a.segment.payload_length)) a.now_ms rest
  | received, last, .foreign a :: rest =>
      a.now_ms - last < ACCESS_FILTER_TLS_INSPECTION_TIMEOUT_MS ∧ in_order received last rest

/-- The state that what has arrived gives the flow, under the rules in force when it
decides: a decision stays. -/
def reassembled : tls_flow_state_t → ℕ → List (delivery stream sequence tuple) →
    tls_flow_state_t
  | state, _, [] => state
  | state, received, .own a :: rest =>
      let received := max received (a.start + a.segment.payload_length)
      reassembled
        (if state = TLS_FLOW_INSPECTING then judge a.rules (stream.take received) else state)
        received rest
  | state, received, .foreign _ :: rest => reassembled state received rest

/-- With the same rules throughout, the state is what the contiguous prefix decides. -/
theorem reassembled_eq_judge {rules : List c_string}
    (deliveries : List (delivery stream sequence tuple))
    (hrules : ∀ a, .own a ∈ deliveries → a.rules = rules) {received : ℕ} :
    reassembled (judge rules (stream.take received)) received deliveries
      = judge rules (stream.take (contiguous_end received deliveries)) := by
  induction deliveries generalizing received with
  | nil => rfl
  | cons d deliveries ih =>
      have hrest : ∀ a, .own a ∈ deliveries → a.rules = rules :=
        fun a ha => hrules a (List.mem_cons_of_mem _ ha)
      cases d with
      | foreign a => exact ih hrest
      | own a =>
          have hle : received ≤ max received (a.start + a.segment.payload_length) :=
            Nat.le_max_left _ _
          rw [contiguous_end, reassembled, ← ih hrest, hrules a List.mem_cons_self]
          congr 1
          by_cases hins : judge rules (stream.take received) = TLS_FLOW_INSPECTING
          · rw [if_pos hins]
          · obtain ⟨more, hmore⟩ := List.take_prefix_take_left (l := stream) hle
            rw [if_neg hins, ← hmore, judge_append hins]

end Deliveries

/-! ## One delivery -/

/-- The entry of a flow whose stream has arrived up to `received`. -/
structure Tracks (stream : List UInt8) (sequence : UInt32)
    (state : tls_flow_state_t) (received : ℕ) (last : UInt32) (flow : tls_flow_t) : Prop where
  state_eq : flow.state = state
  used : state ≠ TLS_FLOW_FREE
  seen : flow.last_seen_ms = last
  received_le : received ≤ stream.length
  going : state = TLS_FLOW_INSPECTING → Inspecting (stream.take received) flow ∧
    flow.next_sequence = sequence + 1 + UInt32.ofNat received

section Step

variable {stream : List UInt8} {sequence : UInt32} {state : tls_flow_state_t}
  {received start : ℕ} {last : UInt32} {flow : tls_flow_t} {segment : tls_segment}

/-- A piece that starts inside what has arrived, cut behind it, goes on with the
stream. -/
theorem take_append_piece (hstart : start ≤ received) (n : ℕ) :
    stream.take received ++ ((stream.drop start).take n).drop (received - start)
      = stream.take (max received (start + n)) := by
  have hpiece : ((stream.drop start).take n).drop (received - start)
      = (stream.drop received).take (n - (received - start)) := by
    rw [List.drop_take, List.drop_drop, Nat.add_sub_cancel' hstart]
  rw [hpiece, ← List.take_add]
  congr 1
  omega

/-- Where a piece starts against what has arrived, in sequence numbers. -/
theorem Carries.overlap_eq (hc : Carries stream sequence segment start)
    (hnext : flow.next_sequence = sequence + 1 + UInt32.ofNat received)
    (hstart : start ≤ received) (hsmall : received < ACCESS_FILTER_TLS_STREAM_LIMIT) :
    ¬ gap flow segment ∧ overlap flow segment = received - start := by
  simp only [ACCESS_FILTER_TLS_STREAM_LIMIT] at hsmall
  rw [gap, overlap, hnext, hc.sequence_eq,
    Serial.not_after_of_le _ hstart (by omega), Serial.toNat_add_sub_add _ hstart]
  refine ⟨by simp, ?_⟩
  omega

/-- **One delivery**: the entry tracks the longer prefix. -/
theorem Tracks.step (h : Tracks stream sequence state received last flow)
    (hc : Carries stream sequence segment start) (hstart : start ≤ received)
    (hfin : segment.flags &&& TCP_FIN = 0) (lwip : lwip_t) (rules : List c_string)
    (now_ms : UInt32) :
    Tracks stream sequence
      (if state = TLS_FLOW_INSPECTING then
        judge rules (stream.take (max received (start + segment.payload_length))) else state)
      (max received (start + segment.payload_length)) now_ms
      (inspected lwip rules now_ms flow segment).1 := by
  have hle : max received (start + segment.payload_length) ≤ stream.length :=
    Nat.max_le.mpr ⟨h.received_le, hc.stop_le⟩
  by_cases hins : state = TLS_FLOW_INSPECTING
  · obtain ⟨hflow, hnext⟩ := h.going hins
    have hsmall := hflow.short
    rw [List.length_take, Nat.min_eq_left h.received_le] at hsmall
    -- the segment starts inside what has been received, so there is no gap, and the overlap
    -- is what it repeats
    obtain ⟨hgap, hoverlap⟩ := hc.overlap_eq hnext hstart hsmall
    have hspec := segment_fed_spec lwip rules now_ms hflow hgap
    have hframe := segment_fed_frame lwip rules now_ms flow segment
    simp only [hoverlap, hc.payload_eq, take_append_piece hstart] at hspec
    rw [inspected_going lwip rules now_ms flow segment (h.state_eq.trans hins) hfin, if_pos hins]
    refine ⟨hspec.1, judge_ne_free _ _, hframe.2.2.2, hle, fun hstill => ?_⟩
    refine ⟨hspec.2.1 (hspec.1.trans hstill), ?_⟩
    rw [hspec.2.2, hnext, UInt32.add_assoc, ← UInt32.ofNat_add]
    congr 2
    omega
  -- a decided flow reads nothing more
  · have hdecided : flow.state = TLS_FLOW_ALLOW ∨ flow.state = TLS_FLOW_BLOCK := by
      rw [h.state_eq]
      have hused := h.used
      cases state <;> simp at hins hused ⊢
    rw [inspected_decided lwip rules now_ms flow segment hdecided, if_neg hins, clear_on_fin,
      if_neg (not_not.mpr hfin)]
    exact ⟨h.state_eq, h.used, rfl, hle, fun hc => absurd hc hins⟩

/-- The SYN that opens the stream, on the entry it is inspected with. -/
theorem OpensStream.tracks {tuple : four_tuple} {room : Bool} {entry : Option tls_flow_t}
    {now_ms : UInt32} (h : OpensStream stream sequence tuple segment)
    (hsound : ∀ flow, entry = some flow → EntrySound flow)
    (ho : open_entry room entry now_ms segment = some flow) :
    Tracks stream sequence TLS_FLOW_INSPECTING 0 flow.last_seen_ms flow := by
  obtain ⟨hempty, hnext⟩ := open_entry_syn h.syn hsound ho
  exact ⟨hempty.state, by simp, rfl, Nat.zero_le _,
    fun _ => ⟨hempty, by simp [hnext, h.sequence_eq]⟩⟩

end Step

/-! ## One call -/

section Call

variable {stream : List UInt8} {sequence : UInt32} {tuple : four_tuple}
  {state : tls_flow_state_t} {received start : ℕ} {last : UInt32} {flow : tls_flow_t}
  {flows : flow_table} {a : arrival}

/-- An entry seen less than 15000 ms ago is still there. -/
theorem entry_at_recent {now_ms : UInt32} (hl : flow_layout.lookup flows tuple = some flow)
    (hrecent : now_ms - flow.last_seen_ms < ACCESS_FILTER_TLS_INSPECTION_TIMEOUT_MS) :
    entry_at flows now_ms tuple = some flow := by
  have hexpired : flow.expired now_ms = false := by
    simp only [tls_flow_t.expired, UInt32.lt_iff_toNat_lt, decide_eq_false_iff_not, ge_iff_le,
      UInt32.not_le] at hrecent ⊢
    refine Nat.lt_of_lt_of_le hrecent ?_
    split_ifs <;> decide
  rw [entry_at, hl, Option.filter_some_pos (by simp [hexpired])]

/-- A call for another flow leaves the entry alone. -/
theorem foreign_step (hs : Sound flows) (hl : flow_layout.lookup flows tuple = some flow)
    (hrecent : a.now_ms - flow.last_seen_ms < ACCESS_FILTER_TLS_INSPECTION_TIMEOUT_MS)
    (hne : tuple ≠ a.segment.tuple) :
    flow_layout.lookup (a.step flows).1 tuple = some flow := by
  obtain ⟨-, -, hother⟩ := inspect_flow_step hs.unique a.lwip a.rules a.now_ms a.segment
  rw [arrival.step, hother tuple hne, entry_at_recent hl hrecent]

/-- A call for the flow, without SYN and RST, is an inspection of the entry. -/
theorem own_step (hs : Sound flows) (hl : flow_layout.lookup flows tuple = some flow)
    (hrecent : a.now_ms - flow.last_seen_ms < ACCESS_FILTER_TLS_INSPECTION_TIMEOUT_MS)
    (htuple : a.segment.tuple = tuple) (hplain : a.segment.Plain) :
    (flow_layout.lookup (a.step flows).1 tuple, (a.step flows).2)
      = ((inspected a.lwip a.rules a.now_ms flow a.segment).1.settled,
          (inspected a.lwip a.rules a.now_ms flow a.segment).2) := by
  obtain ⟨-, hown, -⟩ := inspect_flow_step hs.unique a.lwip a.rules a.now_ms a.segment
  rw [htuple, entry_at_recent hl hrecent] at hown
  rw [arrival.step, hown, flow_step, if_neg (not_not.mpr hplain.rst), open_entry,
    if_neg (not_not.mpr hplain.syn), if_neg (by simp)]

theorem Tracks.settled (h : Tracks stream sequence state received last flow) :
    flow.settled = some flow :=
  settled_eq_some.mpr ⟨h.state_eq ▸ h.used, rfl⟩

/-- **The SYN**: if the table has room for the flow, its entry tracks what the SYN
carries. -/
theorem syn_step (hs : Sound flows) (h : OpensStream stream sequence tuple a.segment)
    (hcreated : (flow_layout.lookup (a.step flows).1 tuple).isSome = true) :
    ∃ flow, flow_layout.lookup (a.step flows).1 tuple = some flow ∧
      Tracks stream sequence (judge a.rules (stream.take a.segment.payload_length))
        a.segment.payload_length a.now_ms flow := by
  obtain ⟨-, hown, -⟩ := inspect_flow_step hs.unique a.lwip a.rules a.now_ms a.segment
  rw [h.tuple_eq, flow_step, if_neg (not_not.mpr h.rst)] at hown
  have hfst := congrArg Prod.fst hown
  rw [arrival.step] at hcreated ⊢
  cases ho : open_entry (flow_layout.free (expire_tls_flows flows a.now_ms)).isSome
      (entry_at flows a.now_ms tuple) a.now_ms a.segment with
  | none =>
      simp only [ho] at hfst
      simp [hfst] at hcreated
  | some flow =>
      simp only [ho] at hfst
      have hstart := h.tracks (fun f hf => hs.entries _ f (entry_at_lookup hf)) ho
      have hnext := hstart.step h.carries (Nat.le_refl 0) h.fin a.lwip a.rules a.now_ms
      rw [if_pos rfl, Nat.zero_add, Nat.max_eq_right (Nat.zero_le _)] at hnext
      exact ⟨_, hfst.trans hnext.settled, hnext⟩

/-- **A segment beyond a hole** is discarded and blocks the flow. -/
theorem late_step (hs : Sound flows) (hl : flow_layout.lookup flows tuple = some flow)
    (h : Tracks stream sequence TLS_FLOW_INSPECTING received last flow)
    (hrecent : a.now_ms - last < ACCESS_FILTER_TLS_INSPECTION_TIMEOUT_MS)
    (htuple : a.segment.tuple = tuple) (hplain : a.segment.Plain)
    (hpayload : a.segment.payload_length > 0)
    (hlate : Serial.after a.segment.payload_sequence (sequence + 1 + UInt32.ofNat received)
      = true) :
    (a.step flows).2 = true ∧ ∃ flow', flow_layout.lookup (a.step flows).1 tuple = some flow' ∧
      flow'.state = TLS_FLOW_BLOCK := by
  have hown := own_step hs hl (h.seen.symm ▸ hrecent) htuple hplain
  rw [inspected_going a.lwip a.rules a.now_ms flow a.segment h.state_eq hplain.fin] at hown
  have hgap : gap flow a.segment := ⟨hpayload, (h.going rfl).2.symm ▸ hlate⟩
  have hblock := segment_fed_gap a.lwip a.rules a.now_ms hgap
  obtain ⟨hfst, hsnd⟩ := Prod.mk.injEq .. ▸ hown
  refine ⟨by simp [hsnd, hblock], _, hfst.trans (settled_eq_some.mpr ⟨?_, rfl⟩), hblock⟩
  simp [hblock]

end Call

/-! ## The stream -/

section Run

variable {stream : List UInt8} {sequence : UInt32} {tuple : four_tuple}

/-- The table after a list of deliveries. -/
def deliver (flows : flow_table) (deliveries : List (delivery stream sequence tuple)) :
    flow_table :=
  run flows (deliveries.map delivery.arrival)

theorem Sound.deliver {flows : flow_table} (h : Sound flows)
    (deliveries : List (delivery stream sequence tuple)) :
    Sound (deliver flows deliveries) := h.run _

/-- **In order means reassembled**, from any point of the stream on. -/
theorem tracks_deliver (deliveries : List (delivery stream sequence tuple)) {flows : flow_table}
    {state : tls_flow_state_t} {received : ℕ} {last : UInt32} {flow : tls_flow_t}
    (hs : Sound flows) (hl : flow_layout.lookup flows tuple = some flow)
    (h : Tracks stream sequence state received last flow)
    (horder : in_order received last deliveries) :
    ∃ flow', flow_layout.lookup (deliver flows deliveries) tuple = some flow' ∧
      Tracks stream sequence (reassembled state received deliveries)
        (contiguous_end received deliveries) (last_arrival last deliveries) flow' := by
  induction deliveries generalizing flows state received last flow with
  | nil => exact ⟨flow, hl, h⟩
  | cons d deliveries ih =>
      cases d with
      | foreign a =>
          obtain ⟨hrecent, hrest⟩ := horder
          have hstep := foreign_step (a := a.toarrival) hs hl (h.seen.symm ▸ hrecent) a.tuple_ne
          exact ih (hs.step a.toarrival) hstep h hrest
      | own a =>
          obtain ⟨hstart, hrecent, hrest⟩ := horder
          have hown := own_step (a := a.toarrival) hs hl (h.seen.symm ▸ hrecent) a.tuple_eq
            a.plain
          have hnext := h.step a.carries hstart a.plain.fin a.lwip a.rules a.now_ms
          have hfst := (congrArg Prod.fst hown).trans hnext.settled
          exact ih (hs.step a.toarrival) hfst hnext hrest

end Run

/-- **TCP reassembly for inspection is correct under every legitimate segmentation.**
Whatever arrived before, once a SYN has created the flow of a stream, its state
after any in-order delivery is the one the contiguous prefix and the rules give;
with unchanged rules it is what one call of the parser on that prefix decides; and
while the flow is under inspection a segment that starts beyond the prefix is
discarded and blocks it. -/
theorem inspect_in_order (stream : List UInt8) (sequence : UInt32) (tuple : four_tuple)
    (before : List arrival) (syn : arrival)
    (hopens : OpensStream stream sequence tuple syn.segment)
    (hcreated : (flow_layout.lookup (syn.step (run s_tls_flows_init before)).1 tuple).isSome
      = true)
    (deliveries : List (delivery stream sequence tuple))
    (horder : in_order syn.segment.payload_length syn.now_ms deliveries) :
    let flows := deliver (syn.step (run s_tls_flows_init before)).1 deliveries
    let received := contiguous_end syn.segment.payload_length deliveries
    let state := reassembled
      (judge syn.rules (stream.take syn.segment.payload_length)) syn.segment.payload_length
      deliveries
    (∃ flow, flow_layout.lookup flows tuple = some flow ∧ flow.state = state) ∧
    (∀ rules, syn.rules = rules → (∀ a, .own a ∈ deliveries → a.rules = rules) →
      state = judge rules (stream.take received)) ∧
    (state = TLS_FLOW_INSPECTING → ∀ late : arrival,
      late.now_ms - last_arrival syn.now_ms deliveries
        < ACCESS_FILTER_TLS_INSPECTION_TIMEOUT_MS →
      late.segment.tuple = tuple → late.segment.Plain → late.segment.payload_length > 0 →
      Serial.after late.segment.payload_sequence (sequence + 1 + UInt32.ofNat received) = true →
      (late.step flows).2 = true ∧
        ∃ flow, flow_layout.lookup (late.step flows).1 tuple = some flow ∧
          flow.state = TLS_FLOW_BLOCK) := by
  have hs := sound_run before
  -- the SYN opens a flow that tracks the stream, and every delivery keeps it so
  obtain ⟨flow₀, hl₀, htracks₀⟩ := syn_step hs hopens hcreated
  obtain ⟨flow, hl, htracks⟩ := tracks_deliver deliveries (hs.step syn) hl₀ htracks₀ horder
  refine ⟨⟨flow, hl, htracks.state_eq⟩, ?_, ?_⟩
  · intro rules hsyn hrules
    rw [← reassembled_eq_judge deliveries hrules, hsyn]
  · intro hins late hrecent htuple hplain hpayload hlate
    rw [hins] at htracks
    exact late_step ((hs.step syn).deliver deliveries) hl htracks hrecent htuple hplain hpayload
      hlate

/-! A run of `inspect_in_order`: a ClientHello for `a.b` in two overlapping segments,
under a rule for `b`. -/

/-- The flow of the sample runs: a client of the access point and an HTTPS server. -/
def sample_tuple : four_tuple := ⟨0xC0A80402, 0x08080808, 50000, 443⟩

/-- A call on a sample segment, under a rule for the host name `b`. -/
def sample_arrival (now_ms : UInt32) (flags : UInt8) (sequence : UInt32)
    (payload : List UInt8) (h : payload.length < 65000) : arrival where
  lwip := lwip_documented
  rules := [[0x62]]
  now_ms := now_ms
  segment := .of_payload sample_tuple flags sequence payload h

/-- The first forty bytes of the sample stream. -/
def sample_first : own_arrival sample_record.encode 0xFFFFFFF0 sample_tuple where
  toarrival := sample_arrival 10 0 0xFFFFFFF1 (sample_record.encode.take 40) (by decide)
  start := 0
  tuple_eq := rfl
  plain := ⟨by decide, by decide, by decide⟩
  carries := ⟨by decide, by decide, by decide⟩

/-- The rest of it, and ten bytes again. -/
def sample_second : own_arrival sample_record.encode 0xFFFFFFF0 sample_tuple where
  toarrival := sample_arrival 20 0 0x0000000F (sample_record.encode.drop 30) (by decide)
  start := 30
  tuple_eq := rfl
  plain := ⟨by decide, by decide, by decide⟩
  carries := ⟨by decide, by decide, by decide⟩

theorem inspect_in_order_sample :
    ∃ flow, flow_layout.lookup
        (deliver ((sample_arrival 0 TCP_SYN 0xFFFFFFF0 [] (by decide)).step s_tls_flows_init).1
          [.own sample_first, .own sample_second]) sample_tuple = some flow ∧
      flow.state = TLS_FLOW_BLOCK := by
  have h := (inspect_in_order sample_record.encode 0xFFFFFFF0 sample_tuple []
    (sample_arrival 0 TCP_SYN 0xFFFFFFF0 [] (by decide))
    ⟨rfl, by decide, by decide, by decide, rfl, ⟨by decide, by decide, by decide⟩⟩
    (by decide +kernel) [.own sample_first, .own sample_second]
    ⟨by decide, by decide, by decide, by decide, trivial⟩).1
  have hstate : reassembled (judge [[0x62]] (sample_record.encode.take 0)) 0
      [.own sample_first, .own sample_second] = TLS_FLOW_BLOCK := by
    decide +kernel
  rw [← hstate]
  exact h

end WifiManager.AccessFilter
