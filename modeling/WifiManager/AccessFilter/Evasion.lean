/-
Can a ClientHello for a blocked host name get through in pieces?

The client sends one stream over one four-tuple, in segments of its choice: any
order, any flags, any pauses, between any segments of other flows. The stream
begins with a ClientHello of any length, given by its syntax tree, that asks for a
blocked name. `NeverWhole` says that some byte of that message is in no segment
that is let through.

It does not always hold. Behind the RST, the FIN or the timeout that drops its
entry, a flow is taken up again in the middle (`tls_flow_t.adopted`), and the inspection
starts over inside a message part of which has been let through. `never_whole` is
what the code does guarantee: as long as no RST carries the last byte of the message and
the flow is taken up again nowhere but at the beginning of the stream (or not at all,
because the table is full), the last byte of the message does not get through. The invariant is `Guarded`: the entry of
the flow is absent, blocked, or has been fed exactly a prefix of the stream that
ends before that byte.
-/
import WifiManager.AccessFilter.Streams
import WifiManager.TlsSniParser.Accepted

set_option autoImplicit false

namespace WifiManager.AccessFilter

open WifiManager.Lib WifiManager.TlsSniParser

open tls_flow_state_t

/-! ## The stream and its segments -/

/-- A client stream that begins with records carrying a complete ClientHello, of any length,
with a host name among the entries of its tree. -/
structure hello_stream where
  records : List tls_record
  tail : List UInt8
  tree : hello_tree
  host_name : List UInt8
  whole : IsWholeHello tree.encode
  named : host_name ∈ host_names tree.entries
  carried : tree.encode <+: records.flatMap tls_record.payload

namespace hello_stream

variable (c : hello_stream)

/-- The bytes of the stream. -/
def stream : List UInt8 := c.records.flatMap tls_record.encode ++ c.tail

/-- The ClientHello. -/
def hello : List UInt8 := c.tree.encode

/-- Where the `k`-th byte of the ClientHello is in the stream. -/
def position (k : ℕ) : ℕ := payload_position c.records k

/-- Where its last byte is. -/
def last : ℕ := c.position (c.hello.length - 1)

end hello_stream

/-- The offset in the stream of the `k`-th payload byte of a segment, read off its
sequence number; `sequence` is that of the SYN. -/
def stream_offset (sequence : UInt32) (segment : tls_segment) (k : ℕ) : ℕ :=
  (segment.payload_sequence + UInt32.ofNat k - (sequence + 1)).toNat

/-- Every payload byte is the byte of the stream at its sequence offset. -/
def Truthful (stream : List UInt8) (sequence : UInt32) (segment : tls_segment) : Prop :=
  ∀ k, k < segment.payload_length →
    stream[stream_offset sequence segment k]? = segment.payload[k]?

/-- The segment carries the byte at a position of the stream. -/
def CarriesByte (sequence : UInt32) (segment : tls_segment) (position : ℕ) : Prop :=
  ∃ k < segment.payload_length, stream_offset sequence segment k = position

instance (stream : List UInt8) (sequence : UInt32) (segment : tls_segment) :
    Decidable (Truthful stream sequence segment) :=
  inferInstanceAs (Decidable (∀ k, k < segment.payload_length → _))

instance (sequence : UInt32) (segment : tls_segment) (position : ℕ) :
    Decidable (CarriesByte sequence segment position) :=
  inferInstanceAs (Decidable (∃ k < segment.payload_length, _))

/-- The arrivals of a run that are let through. -/
def passed : flow_table → List arrival → List arrival
  | _, [] => []
  | flows, a :: rest =>
      if (a.step flows).2 = true then passed (a.step flows).1 rest
      else a :: passed (a.step flows).1 rest

/-- Some byte of the ClientHello is in no segment of the flow that is let through. -/
def NeverWhole (c : hello_stream) (sequence : UInt32) (tuple : four_tuple)
    (flows : flow_table) (arrivals : List arrival) : Prop :=
  ∃ k < c.hello.length, ∀ a ∈ passed flows arrivals, a.segment.tuple = tuple →
    ¬ CarriesByte sequence a.segment (c.position k)

/-- A call under rules that block the host name, for a segment that is of another flow
or carries bytes of the stream. -/
structure ClientCall (c : hello_stream) (sequence : UInt32) (tuple : four_tuple)
    (a : arrival) : Prop where
  blocked : access_filter_is_hostname_blocked a.rules c.host_name = true
  truthful : a.segment.tuple = tuple → Truthful c.stream sequence a.segment

/-! ## What the prefixes of the stream decide -/

namespace hello_stream

variable (c : hello_stream)

theorem hello_whole : IsWholeHello c.hello := c.whole

theorem hello_carried : c.hello <+: c.records.flatMap tls_record.payload := c.carried

theorem length_pos : 0 < c.hello.length :=
  Nat.lt_of_lt_of_le (by decide) c.hello_whole.length_ge

theorem last_lt_payload :
    c.hello.length - 1 < (c.records.flatMap tls_record.payload).length := by
  have h₁ := c.hello_carried.length_le
  have h₂ := c.length_pos
  omega

theorem last_lt_length : c.last < c.stream.length := by
  have h := getElem?_payload_position c.records c.tail c.last_lt_payload
  rw [List.getElem?_eq_getElem c.last_lt_payload] at h
  exact (List.getElem?_eq_some_iff.mp h).1

/-- The ClientHello ends long before sequence numbers wrap. -/
theorem last_small : c.last < 2 ^ 31 - 2 ^ 16 := by
  have h₁ := payload_position_le c.records (c.hello.length - 1)
  have h₂ : c.hello.length < 262144 := c.tree.length_encode_lt
  simp only [last, position]
  omega

/-- The parser on a stream, by its one-shot reference. -/
theorem outcome_parsed (bytes : List UInt8) :
    outcome_of (parsed bytes) = reference TLS_SNI_HOSTNAME_SIZE bytes := by
  have h := consume_eq_reference (reading_init TLS_SNI_HOSTNAME_SIZE) rfl bytes
  simpa [parsed, reference, tls_sni_parser_init] using h

/-- A prefix that ends before the last byte of the ClientHello decides nothing, or is refused
because the message is too long. -/
theorem parsed_short {n : ℕ} (hn : n ≤ c.last) :
    (∃ parser, parsed (c.stream.take n) = .inl parser) ∨
      ∃ outcome, parsed (c.stream.take n) = .inr outcome ∧ outcome.result = .INVALID := by
  have hcut := reference_cut TLS_SNI_HOSTNAME_SIZE c.records c.tail c.last_lt_payload hn
  change (reference TLS_SNI_HOSTNAME_SIZE (c.stream.take n)).result = _ ∨
    reference TLS_SNI_HOSTNAME_SIZE (c.stream.take n) = _ at hcut
  rw [← outcome_parsed] at hcut
  cases hp : parsed (c.stream.take n) with
  | inl parser => exact .inl ⟨parser, rfl⟩
  | inr outcome =>
      rw [hp] at hcut
      have hdecided := parsed_verdict_ne hp
      refine .inr ⟨outcome, rfl, ?_⟩
      rcases hcut with hmore | hcut
      · exact absurd hmore hdecided
      -- what the bytes in front of the last one decide
      have hpos := c.length_pos
      change outcome = _ at hcut
      rw [hcut, take_carried c.hello_carried (Nat.sub_le _ 1), decide_hello] at hdecided ⊢
      rcases c.hello_whole.front_verdict TLS_SNI_HOSTNAME_SIZE
        (List.take_prefix (c.hello.length - 1) _)
        (by rw [List.length_take]; omega) with hnone | ⟨-, hinvalid⟩
      · rw [hnone] at hdecided
        exact absurd rfl hdecided
      · rw [hinvalid]

theorem whole_decided : (whole_outcome TLS_SNI_HOSTNAME_SIZE c.hello).result ≠ .NEED_MORE := by
  rw [whole_outcome]
  split_ifs
  · exact parse_client_hello_decides _ _
  · rintro ⟨⟩

/-- A prefix that reaches behind it is decided by the ClientHello. -/
theorem parsed_long {n : ℕ} (hn : c.last < n) :
    parsed (c.stream.take n) = .inr (whole_outcome TLS_SNI_HOSTNAME_SIZE c.hello) := by
  have hwhole := reference_whole TLS_SNI_HOSTNAME_SIZE c.hello_whole c.records
    c.tail c.hello_carried
  change reference TLS_SNI_HOSTNAME_SIZE (c.stream.take (c.last + 1)) = _ at hwhole
  rw [← outcome_parsed] at hwhole
  obtain ⟨more, hmore⟩ := List.take_prefix_take_left (l := c.stream) (Nat.succ_le_of_lt hn)
  rw [← hmore]
  cases hp : parsed (c.stream.take (c.last + 1)) with
  | inl parser =>
      rw [hp] at hwhole
      exact absurd (congrArg hello_outcome.result hwhole).symm (c.whole_decided)
  | inr outcome =>
      rw [hp] at hwhole
      have hparsed := Consumer.consume_append_of_verdict hp more
      exact hparsed.trans (congrArg Sum.inr hwhole)

/-- What the ClientHello decides is to block, under rules that block its host name. -/
theorem whole_blocked {rules : List c_string}
    (hblocked : access_filter_is_hostname_blocked rules c.host_name = true) :
    outcome_state rules (whole_outcome TLS_SNI_HOSTNAME_SIZE c.hello) = TLS_FLOW_BLOCK := by
  rw [outcome_state, if_neg]
  rintro ⟨hfound, -, hpass⟩
  rw [whole_outcome] at hfound hpass
  split_ifs at hfound hpass
  -- a message that is accepted has one host name, and it comes back in lower case
  by_cases hone : ∃ name, host_names c.tree.entries = [name] ∧ IsHostName name
  · obtain ⟨name, hnames, hname⟩ := hone
    have hsame : c.host_name = name := by
      have hmem := c.named
      rw [hnames] at hmem
      exact List.mem_singleton.mp hmem
    rw [hello, c.tree.parse_one_name hnames hname, ← hsame, is_hostname_blocked_tolower,
      hblocked] at hpass
    cases hpass
  · have hinvalid := c.tree.parse_refused (List.ne_nil_of_mem c.named)
      fun name hnames hname => hone ⟨name, hnames, hname⟩
    rw [hello, hinvalid] at hfound
    cases hfound

/-- Under rules that block the host name, a prefix of the stream leaves its flow under
inspection only if it ends before the last byte of the ClientHello, and never lets
it through. -/
theorem judge_take {rules : List c_string} {n : ℕ} (hn : n ≤ c.stream.length)
    (hblocked : access_filter_is_hostname_blocked rules c.host_name = true) :
    (judge rules (c.stream.take n) = TLS_FLOW_INSPECTING ∧ n ≤ c.last) ∨
      judge rules (c.stream.take n) = TLS_FLOW_BLOCK := by
  have hlen : (c.stream.take n).length = n := by rw [List.length_take, Nat.min_eq_left hn]
  by_cases hshort : min ACCESS_FILTER_TLS_STREAM_LIMIT n ≤ c.last
  · -- what fits into the budget ends before the last byte
    rcases c.parsed_short hshort with ⟨parser, hp⟩ | ⟨outcome, hp, hinvalid⟩
    · rw [judge_of_going (by rw [List.take_take]; exact hp), hlen]
      by_cases hfits : n < ACCESS_FILTER_TLS_STREAM_LIMIT
      · rw [if_pos hfits]
        exact .inl ⟨rfl, by omega⟩
      · rw [if_neg hfits]
        exact .inr rfl
    · rw [judge_of_verdict (by rw [List.take_take]; exact hp), outcome_state, hinvalid, if_neg]
      · exact .inr rfl
      · rintro ⟨hfound, -⟩
        cases hfound
  · rw [judge_of_verdict (by rw [List.take_take]; exact c.parsed_long (Nat.lt_of_not_le hshort))]
    exact .inr (c.whole_blocked hblocked)

end hello_stream

/-! ## The invariant -/

/-- The entry of the client's flow, if there is one, is blocked or has been fed exactly
a prefix of the stream that ends before the last byte of the ClientHello. -/
def Guarded (c : hello_stream) (sequence : UInt32) (entry : Option tls_flow_t) : Prop :=
  ∀ flow, entry = some flow →
    flow.state = TLS_FLOW_BLOCK ∨
      ∃ received, received ≤ c.last ∧ Inspecting (c.stream.take received) flow ∧
        flow.next_sequence = sequence + 1 + UInt32.ofNat received

section Step

variable {c : hello_stream} {sequence : UInt32} {received : ℕ} {flow : tls_flow_t}
  {segment : tls_segment}

/-- The offset of a payload byte, against what the entry has been fed: bytes in front of
the overlap lie behind the prefix, those before the SYN count from 2^32 down. -/
theorem stream_offset_eq (hnext : flow.next_sequence = sequence + 1 + UInt32.ofNat received)
    (hsmall : received < 2 ^ 31 - 2 ^ 16) (hgap : ¬ gap flow segment) {k : ℕ}
    (hk : k < segment.payload_length) :
    (overlap flow segment ≤ received + k ∧
        stream_offset sequence segment k = received + k - overlap flow segment) ∨
      (k < overlap flow segment ∧ 2 ^ 31 ≤ stream_offset sequence segment k) := by
  have hafter : Serial.after segment.payload_sequence flow.next_sequence = false := by
    by_contra hc
    exact hgap ⟨by omega, by simpa using hc⟩
  have hclose := Serial.toNat_sub_le_of_not_after hafter
  have hlen := segment.payload_length_lt
  simp only [overlap, stream_offset]
  rw [hnext] at hclose ⊢
  generalize sequence + 1 = origin at hclose ⊢
  have hps := segment.payload_sequence.toNat_lt
  have horigin := origin.toNat_lt
  simp only [UInt32.toNat_sub, UInt32.toNat_add, UInt32.toNat_ofNat'] at hclose ⊢
  omega

/-- What a truthful segment adds to a prefix of the stream is the stream. -/
theorem take_append_truthful (htrue : Truthful c.stream sequence segment)
    (hnext : flow.next_sequence = sequence + 1 + UInt32.ofNat received)
    (hreceived : received ≤ c.last) (hgap : ¬ gap flow segment) :
    received + (segment.payload_length - overlap flow segment) ≤ c.stream.length ∧
      c.stream.take received ++ segment.payload.drop (overlap flow segment)
        = c.stream.take (received + (segment.payload_length - overlap flow segment)) := by
  have hlast := c.last_lt_length
  have hsmall := c.last_small
  -- the byte at offset `received + i` of the stream is the new byte `i` of the payload
  have hbyte : ∀ i, i < segment.payload_length - overlap flow segment →
      c.stream[received + i]? = segment.payload[overlap flow segment + i]? := by
    intro i hi
    have hk : overlap flow segment + i < segment.payload_length := by omega
    rcases stream_offset_eq hnext (by omega) hgap hk with ⟨-, hoff⟩ | ⟨hlt, -⟩
    · rw [← htrue _ hk, hoff]
      congr 1
      omega
    · omega
  have hnew : segment.payload.drop (overlap flow segment)
      = (c.stream.drop received).take (segment.payload_length - overlap flow segment) := by
    apply List.ext_getElem?
    intro i
    rw [List.getElem?_drop, List.getElem?_take, List.getElem?_drop]
    by_cases hi : i < segment.payload_length - overlap flow segment
    · rw [if_pos hi, hbyte i hi]
    · rw [if_neg hi, List.getElem?_eq_none]
      rw [tls_segment.length_payload]
      omega
  refine ⟨?_, by rw [hnew, ← List.take_add]⟩
  by_cases hzero : segment.payload_length - overlap flow segment = 0
  · omega
  · have h := hbyte (segment.payload_length - overlap flow segment - 1) (by omega)
    rw [List.getElem?_eq_getElem (l := segment.payload)
      (by rw [tls_segment.length_payload]; omega)] at h
    have hlt := (List.getElem?_eq_some_iff.mp h).1
    omega

/-- **One segment on a guarded entry**: it leaves a guarded entry, and if it is let
through it does not carry the last byte of the ClientHello. -/
theorem guarded_inspected {lwip : lwip_t} {rules : List c_string} {now_ms : UInt32}
    (h : Guarded c sequence (some flow))
    (hblocked : access_filter_is_hostname_blocked rules c.host_name = true)
    (htrue : Truthful c.stream sequence segment) :
    Guarded c sequence (inspected lwip rules now_ms flow segment).1.settled ∧
      ((inspected lwip rules now_ms flow segment).2 = false →
        ¬ CarriesByte sequence segment c.last) := by
  rcases h flow rfl with hblock | ⟨received, hreceived, hflow, hnext⟩
  · rw [inspected_decided lwip rules now_ms flow segment (.inr hblock)]
    refine ⟨fun flow' hs => .inl ?_, fun hpass => by simp [hblock] at hpass⟩
    exact settled_clear_on_fin hs ▸ hblock
  by_cases hgap : gap flow segment
  · -- a hole: blocked, whatever the flags
    have hstate := segment_fed_gap lwip rules now_ms hgap
    by_cases hfin : segment.flags &&& TCP_FIN = 0
    · rw [inspected_going lwip rules now_ms flow segment hflow.state hfin]
      refine ⟨fun flow' hs => .inl ?_, fun hpass => by simp [hstate] at hpass⟩
      exact (settled_eq_some.mp hs).2 ▸ hstate
    · obtain ⟨hgone, hverdict⟩ := inspected_fin lwip rules now_ms flow segment hflow.state hfin
      rw [hgone]
      refine ⟨fun flow' hs => by simp at hs, fun hpass => ?_⟩
      rw [hverdict (.inr hstate)] at hpass
      cases hpass
  -- the prefix goes on
  have hspec := segment_fed_spec lwip rules now_ms hflow hgap
  obtain ⟨hle, hwhole⟩ := take_append_truthful htrue hnext hreceived hgap
  simp only [hwhole] at hspec
  have hsmall := c.last_small
  have hjudge := c.judge_take hle hblocked
  rw [← hspec.1] at hjudge
  -- a longer prefix that still ends before the last byte does not reach it
  have hmisses : received + (segment.payload_length - overlap flow segment) ≤ c.last →
      ¬ CarriesByte sequence segment c.last := by
    rintro hshort ⟨k, hk, hoff⟩
    rcases stream_offset_eq hnext (by omega) hgap hk with ⟨hin, hoff'⟩ | ⟨-, hfar⟩
    · omega
    · omega
  by_cases hfin : segment.flags &&& TCP_FIN = 0
  · rw [inspected_going lwip rules now_ms flow segment hflow.state hfin]
    rcases hjudge with ⟨hins, hshort⟩ | hblock
    · refine ⟨fun flow' hs => .inr ?_, fun _ => hmisses hshort⟩
      rw [← (settled_eq_some.mp hs).2]
      refine ⟨_, hshort, hspec.2.1 hins, ?_⟩
      rw [hspec.2.2, hnext, UInt32.add_assoc, ← UInt32.ofNat_add]
    · refine ⟨fun flow' hs => .inl ?_, fun hpass => by simp [hblock] at hpass⟩
      exact (settled_eq_some.mp hs).2 ▸ hblock
  · obtain ⟨hgone, hverdict⟩ := inspected_fin lwip rules now_ms flow segment hflow.state hfin
    rw [hgone]
    refine ⟨fun flow' hs => by simp at hs, fun hpass => ?_⟩
    rw [hverdict (hjudge.imp And.left id)] at hpass
    cases hpass

end Step

/-! ## Runs -/

/-- The condition under which the inspection is not evaded, on the table in front of a
call: a RST of the flow does not carry the last byte of the ClientHello, and any other segment
with payload finds the flow's entry, starts at the beginning of the stream, or finds no
slot for a new entry. -/
structure TakenUp (c : hello_stream) (sequence : UInt32) (flows : flow_table) (a : arrival) :
    Prop where
  rst : a.segment.flags &&& TCP_RST ≠ 0 → ¬ CarriesByte sequence a.segment c.last
  known : a.segment.flags &&& TCP_RST = 0 → a.segment.flags &&& TCP_SYN = 0 →
    a.segment.payload_length > 0 →
    (entry_at flows a.now_ms a.segment.tuple).isSome = true ∨
      a.segment.payload_sequence = sequence + 1 ∨
      flow_layout.free (expire_tls_flows flows a.now_ms) = none

/-- `TakenUp` at every call for the flow in a run. -/
def RunTakenUp (c : hello_stream) (sequence : UInt32) (tuple : four_tuple) :
    flow_table → List arrival → Prop
  | _, [] => True
  | flows, a :: rest =>
      (a.segment.tuple = tuple → TakenUp c sequence flows a) ∧
        RunTakenUp c sequence tuple (a.step flows).1 rest

section Run

variable {c : hello_stream} {sequence : UInt32} {tuple : four_tuple} {flows : flow_table}
  {a : arrival}

/-- **One call of the flow**: if the entry it is inspected with is guarded, so is the one
it leaves, and if it is let through it does not carry the last byte. -/
theorem guarded_own (hs : Sound flows) (hcall : ClientCall c sequence tuple a)
    (htuple : a.segment.tuple = tuple) (htaken : TakenUp c sequence flows a)
    (hopen : a.segment.flags &&& TCP_RST = 0 →
      ∀ flow, open_entry (flow_layout.free (expire_tls_flows flows a.now_ms)).isSome
          (entry_at flows a.now_ms tuple) a.now_ms a.segment = some flow →
        Guarded c sequence (some flow)) :
    Guarded c sequence (flow_layout.lookup (a.step flows).1 tuple) ∧
      ((a.step flows).2 = false → ¬ CarriesByte sequence a.segment c.last) := by
  obtain ⟨-, hown, -⟩ := inspect_flow_step hs.unique a.lwip a.rules a.now_ms a.segment
  rw [htuple] at hown
  have hfst := congrArg Prod.fst hown
  have hsnd := congrArg Prod.snd hown
  simp only at hfst hsnd
  rw [arrival.step, hfst, hsnd, flow_step]
  by_cases hrst : a.segment.flags &&& TCP_RST ≠ 0
  · rw [if_pos hrst]
    refine ⟨fun flow hf => (by cases hf), fun _ => ?_⟩
    exact htaken.rst hrst
  rw [if_neg hrst]
  cases ho : open_entry (flow_layout.free (expire_tls_flows flows a.now_ms)).isSome
      (entry_at flows a.now_ms tuple) a.now_ms a.segment with
  | none =>
      refine ⟨fun flow hf => (by cases hf), fun hpass => ?_⟩
      -- only a segment without payload is let through here
      rintro ⟨k, hk, -⟩
      simp only [decide_eq_false_iff_not, not_or] at hpass
      omega
  | some flow =>
      exact guarded_inspected (hopen (not_not.mp hrst) flow ho) hcall.blocked
        (hcall.truthful htuple)

/-- A call behind the SYN. -/
theorem guarded_step (hs : Sound flows) (hcall : ClientCall c sequence tuple a)
    (hnosyn : a.segment.tuple = tuple → a.segment.flags &&& TCP_SYN = 0)
    (htaken : a.segment.tuple = tuple → TakenUp c sequence flows a)
    (h : Guarded c sequence (flow_layout.lookup flows tuple)) :
    Guarded c sequence (flow_layout.lookup (a.step flows).1 tuple) ∧
      ((a.step flows).2 = false → a.segment.tuple = tuple →
        ¬ CarriesByte sequence a.segment c.last) := by
  have hentry : Guarded c sequence (entry_at flows a.now_ms tuple) :=
    fun flow hf => h flow (entry_at_lookup hf)
  by_cases htuple : a.segment.tuple = tuple
  · have hown := guarded_own hs hcall htuple (htaken htuple) (fun hrst flow ho => ?_)
    · exact ⟨hown.1, fun hpass _ => hown.2 hpass⟩
    · rcases open_entry_cases ho with ⟨hold, -⟩ | ⟨hsyn, -⟩ | ⟨hno, hnone, hpayload, rfl⟩
      · exact hold ▸ hentry
      · exact absurd (hnosyn htuple) hsyn
      · -- taken up without an entry: by the condition, at the beginning
        intro flow' hf
        obtain rfl := Option.some.inj hf
        rcases (htaken htuple).known hrst hno hpayload with hsome | hstart | hfull
        · rw [htuple, hnone] at hsome
          cases hsome
        · exact .inr ⟨0, Nat.zero_le _, inspecting_adopted _ _ _,
            by simp [tls_flow_t.adopted, hstart]⟩
        · -- with a full table there is no new entry
          rw [hfull, hnone, open_entry, if_neg (not_not.mpr hno), if_pos ⟨rfl, hpayload⟩] at ho
          cases ho
  · obtain ⟨-, -, hother⟩ := inspect_flow_step hs.unique a.lwip a.rules a.now_ms a.segment
    rw [arrival.step, hother tuple (Ne.symm htuple)]
    exact ⟨hentry, fun _ hc => absurd hc htuple⟩

/-- No later segment of the flow is a SYN. -/
def NoSyn (tuple : four_tuple) (arrivals : List arrival) : Prop :=
  ∀ a ∈ arrivals, a.segment.tuple = tuple → a.segment.flags &&& TCP_SYN = 0

/-- Behind the SYN, by induction over the run. -/
theorem guarded_run (arrivals : List arrival) {flows : flow_table} (hs : Sound flows)
    (hcalls : ∀ a ∈ arrivals, ClientCall c sequence tuple a) (hnosyn : NoSyn tuple arrivals)
    (htaken : RunTakenUp c sequence tuple flows arrivals)
    (h : Guarded c sequence (flow_layout.lookup flows tuple)) :
    ∀ a ∈ passed flows arrivals, a.segment.tuple = tuple →
      ¬ CarriesByte sequence a.segment c.last := by
  induction arrivals generalizing flows with
  | nil => simp [passed]
  | cons a arrivals ih =>
      obtain ⟨hnow, hrest⟩ := htaken
      have hstep := guarded_step hs (hcalls a List.mem_cons_self)
        (hnosyn a List.mem_cons_self) hnow h
      have hbehind := ih (hs.step a) (fun b hb => hcalls b (List.mem_cons_of_mem _ hb))
        (fun b hb => hnosyn b (List.mem_cons_of_mem _ hb)) hrest hstep.1
      intro b hb htuple
      rw [passed] at hb
      split_ifs at hb with hverdict
      · exact hbehind b hb htuple
      · rcases List.mem_cons.mp hb with rfl | hb
        · exact hstep.2 (by simpa using hverdict) htuple
        · exact hbehind b hb htuple

end Run

/-- **When a ClientHello for a blocked host name cannot get through whole.** After any
history, in every run that starts with the SYN of the client's stream and has no
later one, with any segments of the flow that carry bytes of the stream and any
segments of other flows: if every call for the flow meets `TakenUp`, the last byte
of the ClientHello is in no segment that is let through. -/
theorem never_whole (c : hello_stream) (sequence : UInt32) (tuple : four_tuple)
    (before : List arrival) (syn : arrival) (arrivals : List arrival)
    (htuple : syn.segment.tuple = tuple) (hsyn : syn.segment.flags &&& TCP_SYN ≠ 0)
    (hsequence : syn.segment.sequence = sequence)
    (hcalls : ∀ a ∈ syn :: arrivals, ClientCall c sequence tuple a)
    (hnosyn : NoSyn tuple arrivals)
    (htaken : RunTakenUp c sequence tuple (run s_tls_flows_init before) (syn :: arrivals)) :
    NeverWhole c sequence tuple (run s_tls_flows_init before) (syn :: arrivals) := by
  have hs := sound_run before
  obtain ⟨hnow, hrest⟩ := htaken
  -- the SYN makes an entry that has read nothing yet
  have hown := guarded_own hs (hcalls syn List.mem_cons_self) htuple (hnow htuple)
    (fun _ flow ho => by
      obtain ⟨hempty, hnext⟩ := open_entry_syn hsyn
        (fun f hf => hs.entries _ f (entry_at_lookup hf)) ho
      intro flow' hf
      obtain rfl := Option.some.inj hf
      exact .inr ⟨0, Nat.zero_le _, hempty, by simp [hnext, hsequence]⟩)
  have hbehind := guarded_run arrivals (hs.step syn)
    (fun a ha => hcalls a (List.mem_cons_of_mem _ ha)) hnosyn hrest hown.1
  refine ⟨c.hello.length - 1, by have := c.length_pos; omega, fun a ha htuple' => ?_⟩
  rw [passed] at ha
  split_ifs at ha with hverdict
  · exact hbehind a ha htuple'
  · rcases List.mem_cons.mp ha with rfl | ha
    · exact hown.2 (by simpa using hverdict)
    · exact hbehind a ha htuple'

/-! ## The sample stream, kept and lost -/

/-- The tree of the sample ClientHello. -/
def sample_tree : hello_tree where
  header := TLS_HANDSHAKE_CLIENT_HELLO :: 0 :: be16 55
  version_random := be16 0x0303 ++ List.replicate 32 0
  session_id := List.replicate 0 0
  cipher_suites := be16 0x1301
  compression_methods := List.replicate 1 0
  extensions := some [.names [⟨0, [0x61, 0x2E, 0x62]⟩] (by decide) (by decide)]
  header_length := by decide
  version_random_length := by decide
  session_id_length := by decide
  cipher_suites_length := by decide
  cipher_suites_even := by decide
  compression_methods_length := by decide
  extensions_length := by
    rintro fields ⟨⟩
    decide

theorem sample_tree_encode : sample_tree.encode = sample_hello := by decide

/-- The sample ClientHello as a client's stream. -/
def sample_client : hello_stream where
  records := [sample_record]
  tail := []
  tree := sample_tree
  host_name := [0x61, 0x2E, 0x62]
  whole := by
    rw [sample_tree_encode]
    exact IsClientHello.whole (by decide)
  named := by decide
  carried := by
    rw [sample_tree_encode]
    exact List.prefix_refl _

/-- The SYN of the sample stream, and the stream in two segments. -/
def sample_whole_run : List arrival :=
  [sample_arrival 0 TCP_SYN 1000 [] (by decide),
    sample_arrival 10 0 1001 (sample_record.encode.take 60) (by decide),
    sample_arrival 20 0 1061 (sample_record.encode.drop 60) (by decide)]

/-- The same with a RST between the two. -/
def sample_reset_run : List arrival :=
  [sample_arrival 0 TCP_SYN 1000 [] (by decide),
    sample_arrival 10 0 1001 (sample_record.encode.take 60) (by decide),
    sample_arrival 20 TCP_RST 1061 [] (by decide),
    sample_arrival 30 0 1061 (sample_record.encode.drop 60) (by decide)]

instance (c : hello_stream) (sequence : UInt32) (tuple : four_tuple) (a : arrival) :
    Decidable (ClientCall c sequence tuple a) :=
  decidable_of_iff
    (access_filter_is_hostname_blocked a.rules c.host_name = true ∧
      (a.segment.tuple = tuple → Truthful c.stream sequence a.segment))
    ⟨fun h => ⟨h.1, h.2⟩, fun h => ⟨h.blocked, h.truthful⟩⟩

instance (c : hello_stream) (sequence : UInt32) (tuple : four_tuple) (flows : flow_table)
    (arrivals : List arrival) : Decidable (NeverWhole c sequence tuple flows arrivals) :=
  inferInstanceAs (Decidable (∃ k < c.hello.length, _))

theorem never_whole_sample :
    NeverWhole sample_client 1000 sample_tuple s_tls_flows_init sample_whole_run :=
  never_whole sample_client 1000 sample_tuple []
    (sample_arrival 0 TCP_SYN 1000 [] (by decide))
    [sample_arrival 10 0 1001 (sample_record.encode.take 60) (by decide),
      sample_arrival 20 0 1061 (sample_record.encode.drop 60) (by decide)]
    rfl (by decide) rfl (by decide +kernel) (by simp only [NoSyn]; decide +kernel)
    ⟨fun _ => ⟨fun h => absurd rfl h, fun _ h => absurd h (by decide)⟩,
      fun _ => ⟨fun h => absurd rfl h, fun _ _ _ => .inr (.inl rfl)⟩,
      fun _ => ⟨fun h => absurd rfl h, fun _ _ _ => .inl (by decide +kernel)⟩, trivial⟩

/-- **A ClientHello for a blocked host name gets through**: the segment in front of the
RST and the one behind it carry all of it, and neither is discarded. -/
theorem whole_after_reset :
    (∀ a ∈ sample_reset_run, ClientCall sample_client 1000 sample_tuple a) ∧
      NoSyn sample_tuple sample_reset_run.tail ∧
      ¬ NeverWhole sample_client 1000 sample_tuple s_tls_flows_init sample_reset_run := by
  refine ⟨by decide +kernel, by simp only [NoSyn]; decide +kernel, by decide +kernel⟩

end WifiManager.AccessFilter
