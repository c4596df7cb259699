/-
The record reassembler that `tls_sni_parser_feed` stands for.

`record_payloads` reads a stream as TLS records and concatenates what they carry;
`reference` looks at that concatenation only, as one handshake message. Neither
has a counter that survives a call, and neither knows where the stream was cut.
`consume_eq_reference` is the equality with the incremental parser, by induction
over the records of the stream; everything else here is read off the reference.
-/
import WifiManager.TlsSniParser.Stream

set_option autoImplicit false

namespace WifiManager.TlsSniParser

open WifiManager.Lib WifiManager.Lib.Consumer

/-! ## The reference -/

/-- The payload bytes of the TLS records in a stream, in order, and whether reading
stopped at a header that is not one of a non-empty handshake record. A record cut
short by the end of the stream contributes what is there. -/
def record_payloads (stream : List UInt8) : List UInt8 × Bool :=
  if stream.length < 5 then ([], false)
  else if byte_at stream 0 ≠ TLS_CONTENT_TYPE_HANDSHAKE ∨ read_u16 stream 3 = 0 then ([], true)
  else
    ((stream.drop 5).take (read_u16 stream 3) ++
        (record_payloads ((stream.drop 5).drop (read_u16 stream 3))).1,
      (record_payloads ((stream.drop 5).drop (read_u16 stream 3))).2)
  termination_by stream.length
  decreasing_by all_goals simp only [List.length_drop]; omega

theorem record_payloads_nil : record_payloads [] = ([], false) := by
  rw [record_payloads, if_pos (by simp)]

/-- What collected handshake bytes decide when the stream behind them ends
(`broken = false`) or cannot go on (`broken = true`). -/
def decide_hello (hostname_size : ℕ) (hello : List UInt8) (broken : Bool) : hello_outcome :=
  match hello_verdict hostname_size hello with
  | some outcome => outcome
  | none => if broken then ⟨.INVALID, [], false⟩ else ⟨.NEED_MORE, [], false⟩

/-- The one-shot reader: reassemble the records, take the handshake message. -/
def reference (hostname_size : ℕ) (stream : List UInt8) : hello_outcome :=
  decide_hello hostname_size (record_payloads stream).1 (record_payloads stream).2

/-- The result of a consumer as an outcome. -/
def outcome_of : tls_sni_parser_t ⊕ hello_outcome → hello_outcome
  | .inl _ => ⟨.NEED_MORE, [], false⟩
  | .inr outcome => outcome

theorem decide_hello_of_verdict {hostname_size : ℕ} {hello : List UInt8}
    {outcome : hello_outcome} (h : hello_verdict hostname_size hello = some outcome)
    (more : List UInt8) (broken : Bool) :
    decide_hello hostname_size (hello ++ more) broken = outcome := by
  rw [decide_hello, hello_verdict_append h]

theorem byte_at_take {data : List UInt8} {i n : ℕ} (h : i < n) :
    byte_at (data.take n) i = byte_at data i := by
  simp only [byte_at, List.getD_eq_getElem?_getD, List.getElem?_take, if_pos h]

/-- **The incremental parser is the reference**, from any state at a record boundary.
The induction is on the stream, one record a step. -/
theorem consume_eq_reference {hostname_size : ℕ} {parser : tls_sni_parser_t}
    (h : Reading hostname_size parser) (hheader : parser.record_header = [])
    (stream : List UInt8) :
    outcome_of (consume (read_byte hostname_size) parser stream)
      = decide_hello hostname_size (parser.client_hello ++ (record_payloads stream).1)
          (record_payloads stream).2 := by
  induction hn : stream.length using Nat.strong_induction_on generalizing parser stream with
  | _ n ih =>
  subst hn
  rw [record_payloads]
  by_cases hshort : stream.length < 5
  · -- not even a record header
    rw [if_pos hshort, consume_header_part parser stream (by rw [hheader]; simpa using hshort),
      List.append_nil, decide_hello, h.undecided]
    rfl
  rw [if_neg hshort]
  have hlen : (stream.take 5).length = 5 := by rw [List.length_take]; omega
  have hread : consume (read_byte hostname_size) parser stream
      = andThen (open_step (open_record { parser with record_header := stream.take 5 }))
          (fun s => consume (read_byte hostname_size) s (stream.drop 5)) := by
    conv_lhs => rw [← List.take_append_drop 5 stream]
    rw [consume_append, consume_header parser _ (by rw [hheader]; simp)
      (by rw [hheader, hlen]; rfl), hheader, List.nil_append]
  have hzero : parser.record_remaining = 0 := by
    have := h.header_full
    rw [hheader] at this
    simp only [List.length_nil] at this
    omega
  have htype : byte_at (stream.take 5) 0 = byte_at stream 0 := byte_at_take (by omega)
  have hsize : read_u16 (stream.take 5) 3 = read_u16 stream 3 := by
    simp only [read_u16, byte_at_take (show 3 < 5 by omega), byte_at_take (show 3 + 1 < 5 by omega)]
  by_cases hbad : byte_at stream 0 ≠ TLS_CONTENT_TYPE_HANDSHAKE ∨ read_u16 stream 3 = 0
  · -- a header that ends the stream
    have ho : open_record { parser with record_header := stream.take 5 } = none := by
      unfold open_record
      simp only [hzero, if_true, htype, hsize]
      split_ifs with h₁ h₂
      · rfl
      · rfl
      · exact absurd hbad (by tauto)
    rw [if_pos hbad, hread, ho, List.append_nil, decide_hello, h.undecided]
    rfl
  rw [if_neg hbad]
  obtain ⟨opened, ho⟩ : ∃ opened,
      open_record { parser with record_header := stream.take 5 } = some opened := by
    unfold open_record
    simp only [hzero, if_true, htype, hsize]
    rw [if_neg (fun hc => hbad (.inl hc)), if_neg (fun hc => hbad (.inr hc))]
    exact ⟨_, rfl⟩
  obtain ⟨hopened, -, hnz, hreading⟩ :=
    open_record_reading h (by rw [hheader]; simp) hlen ho
  rw [hsize] at hnz
  have hhello : opened.client_hello = parser.client_hello := by rw [hopened]
  have hrem : opened.record_remaining = read_u16 stream 3 := by rw [hopened]; exact hsize
  set size := read_u16 stream 3 with hsizedef
  set body := stream.drop 5 with hbody
  have hbodylen : body.length = stream.length - 5 := by rw [hbody, List.length_drop]
  -- the payload of this record, then the rest of the stream
  have hsplit : consume (read_byte hostname_size) opened body
      = andThen (consume (read_byte hostname_size) opened (body.take size))
          (fun s => consume (read_byte hostname_size) s (body.drop size)) := by
    conv_lhs => rw [← List.take_append_drop size body]
    rw [consume_append]
  have htake : (body.take size).length ≤ opened.record_remaining := by
    rw [hrem, List.length_take]; omega
  rw [hread, ho, open_step_some, andThen_inl, hsplit,
    consume_record_payload hreading (by omega) _ htake, hhello, ← List.append_assoc]
  cases hv : hello_verdict hostname_size (parser.client_hello ++ body.take size) with
  | some outcome =>
      rw [verdict_step_some, andThen_inr, decide_hello_of_verdict hv]
      rfl
  | none =>
      rw [verdict_step_none, andThen_inl]
      rw [← hhello] at hv
      have habsorb := absorb_reading hreading (by omega) hv
      by_cases hcut : body.length < size
      · -- the stream ends inside this record
        have hrest : body.drop size = [] := List.drop_eq_nil_of_le (by omega)
        rw [hrest, consume_nil, record_payloads_nil, List.append_nil, decide_hello, ← hhello, hv]
        rfl
      · have hboundary : (opened.absorb (body.take size)).record_header = [] := by
          have : opened.record_remaining - (body.take size).length = 0 := by
            rw [hrem, List.length_take]; omega
          simp only [tls_sni_parser_t.absorb, if_pos this]
        rw [ih (body.drop size).length (by rw [List.length_drop]; omega) habsorb hboundary _ rfl]
        simp only [tls_sni_parser_t.absorb, hhello]

/-! ## Streams of well-formed records -/

/-- One handshake record: the version bytes are not read by the parser. -/
structure tls_record where
  version : UInt8 × UInt8
  payload : List UInt8
  payload_ne : payload ≠ []
  payload_lt : payload.length < 65536

/-- The bytes of a record on the wire. -/
def tls_record.encode (record : tls_record) : List UInt8 :=
  TLS_CONTENT_TYPE_HANDSHAKE :: record.version.1 :: record.version.2 ::
    UInt8.ofNat (record.payload.length / 256) :: UInt8.ofNat (record.payload.length % 256) ::
    record.payload

theorem read_u16_eq (data : List UInt8) (offset : ℕ) :
    read_u16 data offset
      = (byte_at data offset).toNat * 256 + (byte_at data (offset + 1)).toNat := by
  have hlt : (byte_at data (offset + 1)).toNat < 2 ^ 8 := UInt8.toNat_lt _
  rw [read_u16, ← Nat.shiftLeft_add_eq_or_of_lt hlt, Nat.shiftLeft_eq]

/-- The length field of an encoded record. -/
theorem record_size (record : tls_record) (tail : List UInt8) :
    read_u16 (record.encode ++ tail) 3 = record.payload.length := by
  have hlt := record.payload_lt
  rw [read_u16_eq]
  simp only [tls_record.encode, byte_at, List.cons_append, List.getD_cons_succ,
    List.getD_cons_zero, UInt8.toNat_ofNat']
  omega

theorem record_payloads_encode (record : tls_record) (tail : List UInt8) :
    record_payloads (record.encode ++ tail)
      = (record.payload ++ (record_payloads tail).1, (record_payloads tail).2) := by
  have hpos : 0 < record.payload.length := List.length_pos_iff.mpr record.payload_ne
  rw [record_payloads, if_neg (by simp [tls_record.encode]), record_size record tail]
  rw [if_neg (by
    rintro (htype | hzero)
    · exact htype rfl
    · omega)]
  simp [tls_record.encode]

/-- A record cut inside its payload carries what is there. -/
theorem record_payloads_encode_take (record : tls_record) {k : ℕ}
    (hk : k ≤ record.payload.length) :
    record_payloads (record.encode.take (5 + k)) = (record.payload.take k, false) := by
  have hhead := record_size record []
  rw [List.append_nil] at hhead
  have hcut : record.encode.take (5 + k) = record.encode.take 5 ++ record.payload.take k := by
    rw [Nat.add_comm 5 k]
    rfl
  have hsize : read_u16 (record.encode.take (5 + k)) 3 = record.payload.length := by
    rw [← hhead, read_u16_eq, read_u16_eq, byte_at_take (by omega), byte_at_take (by omega)]
  have htype : byte_at (record.encode.take (5 + k)) 0 = TLS_CONTENT_TYPE_HANDSHAKE := by
    rw [byte_at_take (by omega)]
    rfl
  have hdrop : (record.encode.take (5 + k)).drop 5 = record.payload.take k := by
    rw [hcut]
    rfl
  have hopen : ¬ (byte_at (record.encode.take (5 + k)) 0 ≠ TLS_CONTENT_TYPE_HANDSHAKE ∨
      read_u16 (record.encode.take (5 + k)) 3 = 0) := by
    have hpos : 0 < record.payload.length := List.length_pos_iff.mpr record.payload_ne
    rw [htype, hsize]
    rintro (h | h)
    · exact h rfl
    · omega
  have hpast : (record.payload.take k).length ≤ record.payload.length := by
    rw [List.length_take]
    omega
  rw [record_payloads, if_neg (by rw [hcut]; simp [tls_record.encode]), if_neg hopen, hdrop,
    hsize, List.drop_of_length_le hpast, List.take_of_length_le hpast, record_payloads_nil,
    List.append_nil]

/-- A stream of records followed by anything carries the payloads of the records
followed by something. -/
theorem record_payloads_records (records : List tls_record) (tail : List UInt8) :
    record_payloads ((records.flatMap tls_record.encode) ++ tail)
      = (records.flatMap tls_record.payload ++ (record_payloads tail).1,
          (record_payloads tail).2) := by
  induction records with
  | nil => simp
  | cons record records ih =>
      rw [List.flatMap_cons, List.append_assoc, record_payloads_encode, ih]
      simp

/-- Where in a stream of records the `k`-th payload byte is. -/
def payload_position : List tls_record → ℕ → ℕ
  | [], k => k
  | record :: records, k =>
      if k < record.payload.length then 5 + k
      else record.encode.length + payload_position records (k - record.payload.length)

theorem encode_length (record : tls_record) :
    record.encode.length = 5 + record.payload.length := by
  simp only [tls_record.encode, List.length_cons]
  omega

/-- Every record has a payload, so there is at most one header for each payload byte. -/
theorem payload_position_le (records : List tls_record) (k : ℕ) :
    payload_position records k ≤ 6 * k + 5 := by
  induction records generalizing k with
  | nil => simp only [payload_position]; omega
  | cons record records ih =>
      have hpos : 0 < record.payload.length := List.length_pos_iff.mpr record.payload_ne
      have hrest := ih (k - record.payload.length)
      rw [payload_position, encode_length]
      split_ifs <;> omega

/-- The byte at a payload position is the payload byte. -/
theorem getElem?_payload_position (records : List tls_record) (tail : List UInt8) {k : ℕ}
    (hk : k < (records.flatMap tls_record.payload).length) :
    (records.flatMap tls_record.encode ++ tail)[payload_position records k]?
      = (records.flatMap tls_record.payload)[k]? := by
  induction records generalizing k with
  | nil => simp at hk
  | cons record records ih =>
      rw [List.flatMap_cons, List.length_append] at hk
      rw [payload_position, List.flatMap_cons, List.flatMap_cons, List.append_assoc]
      split_ifs with hin
      · rw [List.getElem?_append_left (by rw [encode_length]; omega),
          List.getElem?_append_left hin, tls_record.encode, Nat.add_comm 5 k]
        rfl
      · rw [List.getElem?_append_right (Nat.le_add_right _ _), Nat.add_sub_cancel_left,
          ih (by omega), List.getElem?_append_right (by omega)]

/-- The stream cut in front of the `k`-th payload byte carries the `k` before it, and
cut right behind that byte it carries one more. -/
theorem record_payloads_take (records : List tls_record) (tail : List UInt8) {k j : ℕ}
    (hk : k < (records.flatMap tls_record.payload).length) (hj : j ≤ 1) :
    record_payloads ((records.flatMap tls_record.encode ++ tail).take
        (payload_position records k + j))
      = ((records.flatMap tls_record.payload).take (k + j), false) := by
  induction records generalizing k with
  | nil => simp at hk
  | cons record records ih =>
      rw [List.flatMap_cons, List.length_append] at hk
      rw [payload_position, List.flatMap_cons, List.flatMap_cons, List.append_assoc]
      split_ifs with hin
      · -- the cut is inside this record, or at its end
        have hcut : k + j ≤ record.payload.length := by omega
        rw [Nat.add_assoc, List.take_append_of_le_length (by rw [encode_length]; omega),
          record_payloads_encode_take record hcut, List.take_append_of_le_length hcut]
      · have hrest : k - record.payload.length
            < (records.flatMap tls_record.payload).length := by omega
        rw [Nat.add_assoc, List.take_length_add_append, record_payloads_encode, ih hrest,
          List.take_append, List.take_of_length_le (show record.payload.length ≤ k + j by omega),
          Nat.sub_add_comm (Nat.le_of_not_lt hin)]

/-- A complete ClientHello message: its type, and a length field that is its length
and that the parser accepts. -/
structure IsClientHello (hello : List UInt8) : Prop where
  type_eq : byte_at hello 0 = TLS_HANDSHAKE_CLIENT_HELLO
  length_eq : hello.length = hello_body_length hello + 4
  length_ge : 5 ≤ hello.length
  length_le : hello.length ≤ TLS_CLIENT_HELLO_MAX_SIZE

instance (hello : List UInt8) : Decidable (IsClientHello hello) :=
  decidable_of_iff
    (byte_at hello 0 = TLS_HANDSHAKE_CLIENT_HELLO ∧
      hello.length = hello_body_length hello + 4 ∧ 5 ≤ hello.length ∧
      hello.length ≤ TLS_CLIENT_HELLO_MAX_SIZE)
    ⟨fun h => ⟨h.1, h.2.1, h.2.2.1, h.2.2.2⟩,
      fun h => ⟨h.type_eq, h.length_eq, h.length_ge, h.length_le⟩⟩

/-- A complete ClientHello message of any length. -/
structure IsWholeHello (hello : List UInt8) : Prop where
  type_eq : byte_at hello 0 = TLS_HANDSHAKE_CLIENT_HELLO
  length_eq : hello.length = hello_body_length hello + 4
  length_ge : 5 ≤ hello.length

theorem IsClientHello.whole {hello : List UInt8} (h : IsClientHello hello) : IsWholeHello hello :=
  ⟨h.type_eq, h.length_eq, h.length_ge⟩

/-- What a complete message comes to: one that is larger than the buffer is refused by its
length field. -/
def whole_outcome (hostname_size : ℕ) (hello : List UInt8) : hello_outcome :=
  if hello.length ≤ TLS_CLIENT_HELLO_MAX_SIZE then parse_client_hello hello hostname_size
  else ⟨.INVALID, [], false⟩

theorem IsWholeHello.verdict {hello : List UInt8} (h : IsWholeHello hello)
    (hostname_size : ℕ) :
    hello_verdict hostname_size hello = some (whole_outcome hostname_size hello) := by
  have hge := h.length_ge
  have hne : hello ≠ [] := by intro h0; rw [h0] at hge; simp at hge
  have htotal : hello_total hello = hello.length := by
    rw [hello_total, if_neg (by omega), ← h.length_eq]
  rw [hello_verdict, if_neg hne, if_neg (not_not.mpr h.type_eq), if_neg (by omega), htotal,
    whole_outcome]
  by_cases hfits : hello.length ≤ TLS_CLIENT_HELLO_MAX_SIZE
  · rw [if_neg (by omega), if_neg (lt_irrefl _), List.take_length, if_pos hfits]
  · rw [if_pos (by omega), if_neg hfits]

/-- Fewer bytes than the whole message decide nothing, or refuse it by its length field. -/
theorem IsWholeHello.front_verdict {hello front : List UInt8} (h : IsWholeHello hello)
    (hostname_size : ℕ) (hfront : front <+: hello) (hlt : front.length < hello.length) :
    hello_verdict hostname_size front = none ∨
      TLS_CLIENT_HELLO_MAX_SIZE < hello.length ∧
        hello_verdict hostname_size front = some ⟨.INVALID, [], false⟩ := by
  obtain ⟨back, rfl⟩ := hfront
  have hge := h.length_ge
  have htype := h.type_eq
  unfold hello_verdict
  by_cases hnil : front = []
  · exact .inl (if_pos hnil)
  have hpos : 0 < front.length := List.length_pos_iff.mpr hnil
  rw [byte_at_append hpos] at htype
  rw [if_neg hnil, if_neg (not_not.mpr htype)]
  by_cases hshort : front.length < 4
  · exact .inl (if_pos hshort)
  have htotal : hello_total front = (front ++ back).length := by
    rw [← hello_total_append (by omega) back, hello_total, if_neg (by omega), ← h.length_eq]
  rw [if_neg hshort, htotal]
  by_cases hfits : (front ++ back).length ≤ TLS_CLIENT_HELLO_MAX_SIZE
  · rw [if_neg (by omega), if_pos hlt]
    exact .inl rfl
  · rw [if_pos (by omega)]
    exact .inr ⟨by omega, rfl⟩

theorem IsClientHello.verdict {hello : List UInt8} (h : IsClientHello hello)
    (hostname_size : ℕ) :
    hello_verdict hostname_size hello = some (parse_client_hello hello hostname_size) := by
  rw [h.whole.verdict, whole_outcome, if_pos h.length_le]

/-- Fewer bytes than the whole message decide nothing. -/
theorem IsClientHello.undecided {hello front : List UInt8} (h : IsClientHello hello)
    (hostname_size : ℕ) (hfront : front <+: hello) (hlt : front.length < hello.length) :
    hello_verdict hostname_size front = none := by
  rcases h.whole.front_verdict hostname_size hfront hlt with hnone | ⟨hlong, -⟩
  · exact hnone
  · exact absurd h.length_le (Nat.not_le_of_lt hlong)

/-- A minimal ClientHello: one cipher suite, no session, and the host name `a.b`. -/
def sample_hello : List UInt8 :=
  [0x01, 0x00, 0x00, 0x37, 0x03, 0x03] ++ List.replicate 32 0 ++
    [0x00, 0x00, 0x02, 0x13, 0x01, 0x01, 0x00, 0x00, 0x0C, 0x00, 0x00, 0x00, 0x08, 0x00, 0x06,
      0x00, 0x00, 0x03, 0x61, 0x2E, 0x62]

/-- The record it is sent in. -/
def sample_record : tls_record where
  version := (3, 1)
  payload := sample_hello
  payload_ne := by decide
  payload_lt := by decide

/-! ## Every way of feeding -/

/-- Feed the chunks one call after another, stopping at the first result other than
`NEED_MORE`: what the last call made returned. -/
def feed_chunks (hostname_size : ℕ) : tls_sni_parser_t → List (List UInt8) → feed_outcome
  | parser, [] => ⟨.NEED_MORE, [], parser⟩
  | parser, chunk :: chunks =>
      let outcome := tls_sni_parser_feed parser chunk hostname_size
      if outcome.result = .NEED_MORE then feed_chunks hostname_size outcome.parser chunks
      else outcome

theorem feed_chunks_step (hostname_size : ℕ) (parser : tls_sni_parser_t)
    (chunks : List (List UInt8)) :
    (feed_chunks hostname_size parser chunks).step
      = feedAll (feed_step hostname_size) parser chunks := by
  induction chunks generalizing parser with
  | nil => rfl
  | cons chunk chunks ih =>
      rw [feed_chunks, feedAll, feed_step]
      by_cases hmore : (tls_sni_parser_feed parser chunk hostname_size).result = .NEED_MORE
      · have hstep : (tls_sni_parser_feed parser chunk hostname_size).step
            = .inl (tls_sni_parser_feed parser chunk hostname_size).parser := by
          rw [feed_outcome.step, if_pos hmore]
        simp only [hmore, if_true, hstep, andThen_inl]
        exact ih _
      · simp only [hmore, if_false]
        rw [feed_outcome.step, if_neg hmore, andThen_inr]

theorem feed_chunks_consume {hostname_size : ℕ} {parser : tls_sni_parser_t}
    (h : Reading hostname_size parser) (hsize : hostname_size ≠ 0)
    (chunks : List (List UInt8)) :
    (feed_chunks hostname_size parser chunks).step
      = consume (read_byte hostname_size) parser chunks.flatten := by
  rw [feed_chunks_step]
  exact feedAll_eq_consume (Reading hostname_size) _ read_byte_reading
    (fun s c hs => feed_eq_consume hs hsize c) h chunks

/-- A parser that still wants more is one that has decided nothing. -/
theorem feed_chunks_reading {hostname_size : ℕ} {parser : tls_sni_parser_t}
    (h : Reading hostname_size parser) (hsize : hostname_size ≠ 0)
    (chunks : List (List UInt8))
    (hmore : (feed_chunks hostname_size parser chunks).result = .NEED_MORE) :
    Reading hostname_size (feed_chunks hostname_size parser chunks).parser := by
  have hstep := feed_chunks_consume h hsize chunks
  rw [feed_outcome.step, if_pos hmore] at hstep
  exact consume_invariant _ read_byte_reading h hstep.symm

theorem feed_chunks_need_more {hostname_size : ℕ} {parser : tls_sni_parser_t}
    (h : Reading hostname_size parser) (hsize : hostname_size ≠ 0)
    (chunks : List (List UInt8))
    (hmore : (feed_chunks hostname_size parser chunks).result = .NEED_MORE) :
    (feed_chunks hostname_size parser chunks).verdict = ⟨.NEED_MORE, [], false⟩ := by
  have hech := (feed_chunks_reading h hsize chunks hmore).ech_present
  suffices hname : (feed_chunks hostname_size parser chunks).hostname = [] by
    rw [feed_outcome.verdict, hmore, hech, hname]
  induction chunks generalizing parser with
  | nil => rfl
  | cons chunk chunks ih =>
      rw [feed_chunks] at hmore hech ⊢
      by_cases hfirst : (tls_sni_parser_feed parser chunk hostname_size).result = .NEED_MORE
      · simp only [hfirst, if_true] at hmore hech ⊢
        have hread := feed_chunks_reading h hsize [chunk] (by simp [feed_chunks, hfirst])
        simp only [feed_chunks, hfirst, if_true] at hread
        exact ih hread hmore hech
      · simp only [hfirst, if_false] at hmore

/-- **Chunk invariance.** However a stream is cut into calls, the last call returns
what the one-shot reference says of the whole stream. -/
theorem feed_chunks_eq_reference {hostname_size : ℕ} (hsize : hostname_size ≠ 0)
    (chunks : List (List UInt8)) :
    (feed_chunks hostname_size tls_sni_parser_init chunks).verdict
      = reference hostname_size chunks.flatten := by
  have hstep := feed_chunks_consume (reading_init hostname_size) hsize chunks
  have href := consume_eq_reference (reading_init hostname_size) rfl chunks.flatten
  rw [reference, ← List.nil_append (record_payloads chunks.flatten).1]
  refine Eq.trans ?_ href
  rw [← hstep]
  by_cases hmore : (feed_chunks hostname_size tls_sni_parser_init chunks).result = .NEED_MORE
  · rw [feed_chunks_need_more (reading_init hostname_size) hsize chunks hmore,
      feed_outcome.step, if_pos hmore]
    rfl
  · rw [feed_outcome.step, if_neg hmore]
    rfl

/-! ## What the reference says -/

/-- A decided stream keeps its outcome whatever follows: the bytes behind a
ClientHello are ignored, and a stream two continuations of which would end
differently is `NEED_MORE`. -/
theorem reference_append {hostname_size : ℕ} {stream : List UInt8}
    (h : (reference hostname_size stream).result ≠ .NEED_MORE) (more : List UInt8) :
    reference hostname_size (stream ++ more) = reference hostname_size stream := by
  have href := consume_eq_reference (reading_init hostname_size) rfl
  simp only [tls_sni_parser_init, List.nil_append] at href
  unfold reference at h ⊢
  rw [← href] at h ⊢
  cases hc : consume (read_byte hostname_size) {} stream with
  | inl s => rw [hc] at h; exact absurd rfl h
  | inr outcome => rw [← href, consume_append_of_verdict hc, hc]

/-- A stream of non-empty records carrying a whole ClientHello is decided by the
message alone. -/
theorem reference_client_hello {hostname_size : ℕ} {hello : List UInt8}
    (h : IsClientHello hello) (records : List tls_record) (tail : List UInt8)
    (hcarry : hello <+: records.flatMap tls_record.payload) :
    reference hostname_size (records.flatMap tls_record.encode ++ tail)
      = parse_client_hello hello hostname_size := by
  obtain ⟨more, hmore⟩ := hcarry
  rw [reference, record_payloads_records, ← hmore, List.append_assoc]
  exact decide_hello_of_verdict (h.verdict hostname_size) _ _

/-- The bytes in front of a place in the message are those of the payloads. -/
theorem take_carried {hello payloads : List UInt8} (hcarry : hello <+: payloads) {k : ℕ}
    (hk : k ≤ hello.length) : payloads.take k = hello.take k := by
  obtain ⟨more, rfl⟩ := hcarry
  exact List.take_append_of_le_length hk

/-- A stream cut in front of the `k`-th payload byte, or earlier, is undecided, or decided as
the payload bytes in front of it are. -/
theorem reference_cut (hostname_size : ℕ) (records : List tls_record) (tail : List UInt8)
    {k n : ℕ} (hk : k < (records.flatMap tls_record.payload).length)
    (hn : n ≤ payload_position records k) :
    (reference hostname_size ((records.flatMap tls_record.encode ++ tail).take n)).result
        = .NEED_MORE ∨
      reference hostname_size ((records.flatMap tls_record.encode ++ tail).take n)
        = decide_hello hostname_size ((records.flatMap tls_record.payload).take k) false := by
  by_cases hmore : (reference hostname_size
      ((records.flatMap tls_record.encode ++ tail).take n)).result = .NEED_MORE
  · exact .inl hmore
  have hrecords := record_payloads_take records tail (j := 0) hk (by omega)
  simp only [Nat.add_zero] at hrecords
  -- a decision of the shorter stream stands in the longer one
  obtain ⟨more, hcut⟩ :=
    List.take_prefix_take_left (l := records.flatMap tls_record.encode ++ tail) hn
  rw [← reference_append hmore more, hcut, reference, hrecords]
  exact .inr rfl

/-- A stream that ends before the last byte of the ClientHello its records carry is
not decidable. -/
theorem reference_part (hostname_size : ℕ) {hello : List UInt8} (h : IsClientHello hello)
    (records : List tls_record) (tail : List UInt8)
    (hcarry : hello <+: records.flatMap tls_record.payload) {n : ℕ}
    (hn : n ≤ payload_position records (hello.length - 1)) :
    (reference hostname_size ((records.flatMap tls_record.encode ++ tail).take n)).result
      = .NEED_MORE := by
  have hge := h.length_ge
  have hle := hcarry.length_le
  rcases reference_cut hostname_size records tail (by omega) hn with hmore | hcut
  · exact hmore
  have hlast : hello.length - 1 ≤ hello.length := Nat.sub_le _ _
  rw [hcut, take_carried hcarry hlast, decide_hello, h.undecided hostname_size
    (List.take_prefix _ _) (by rw [List.length_take]; omega)]
  rfl

/-- A stream that ends right behind the last byte of its ClientHello is decided by the
message. -/
theorem reference_whole (hostname_size : ℕ) {hello : List UInt8} (h : IsWholeHello hello)
    (records : List tls_record) (tail : List UInt8)
    (hcarry : hello <+: records.flatMap tls_record.payload) :
    reference hostname_size ((records.flatMap tls_record.encode ++ tail).take
        (payload_position records (hello.length - 1) + 1))
      = whole_outcome hostname_size hello := by
  have hge := h.length_ge
  have hle := hcarry.length_le
  have hrecords := record_payloads_take records tail (k := hello.length - 1) (j := 1)
    (by omega) (by omega)
  rw [show hello.length - 1 + 1 = hello.length by omega,
    ← (List.prefix_iff_eq_take.mp hcarry)] at hrecords
  rw [reference, hrecords]
  simpa using decide_hello_of_verdict (h.verdict hostname_size) [] false

/-! ## The parser and its reference -/

/-- **The incremental parser equals the one-shot record reassembler, whatever the
chunking**: the result, the host name and the ECH flag of the last call are the
reference's on the whole stream; every fragmentation of a ClientHello over
non-empty records, cut into calls in any way and followed by anything, is decided
by the message; a decision stands under every continuation, and a stream that ends
before the last byte of its ClientHello decides nothing; and every call terminates with
the value modelled. -/
theorem tls_sni_parser_feed_eq_reference :
    (∀ chunks : List (List UInt8),
        (feed_chunks TLS_SNI_HOSTNAME_SIZE tls_sni_parser_init chunks).verdict
          = reference TLS_SNI_HOSTNAME_SIZE chunks.flatten)
    ∧ (∀ (hello : List UInt8), IsClientHello hello →
        ∀ (records : List tls_record), hello <+: records.flatMap tls_record.payload →
        ∀ (tail : List UInt8) (chunks : List (List UInt8)),
          chunks.flatten = records.flatMap tls_record.encode ++ tail →
          (feed_chunks TLS_SNI_HOSTNAME_SIZE tls_sni_parser_init chunks).verdict
            = parse_client_hello hello TLS_SNI_HOSTNAME_SIZE)
    ∧ (∀ stream : List UInt8,
        (reference TLS_SNI_HOSTNAME_SIZE stream).result ≠ .NEED_MORE →
        ∀ (more : List UInt8) (chunks : List (List UInt8)), chunks.flatten = stream ++ more →
          (feed_chunks TLS_SNI_HOSTNAME_SIZE tls_sni_parser_init chunks).verdict
            = reference TLS_SNI_HOSTNAME_SIZE stream)
    ∧ (∀ (hello : List UInt8), IsClientHello hello →
        ∀ (records : List tls_record), hello <+: records.flatMap tls_record.payload →
        ∀ (tail : List UInt8) (n : ℕ), n ≤ payload_position records (hello.length - 1) →
        ∀ chunks : List (List UInt8),
          chunks.flatten = (records.flatMap tls_record.encode ++ tail).take n →
          (feed_chunks TLS_SNI_HOSTNAME_SIZE tls_sni_parser_init chunks).result = .NEED_MORE)
    ∧ (∀ chunks : List (List UInt8),
        (feed_chunks TLS_SNI_HOSTNAME_SIZE tls_sni_parser_init chunks).result = .NEED_MORE →
        ∀ data : List UInt8,
          Loop.Exits (feed_body TLS_SNI_HOSTNAME_SIZE)
            ((feed_chunks TLS_SNI_HOSTNAME_SIZE tls_sni_parser_init chunks).parser, data)
            (tls_sni_parser_feed
              (feed_chunks TLS_SNI_HOSTNAME_SIZE tls_sni_parser_init chunks).parser data
              TLS_SNI_HOSTNAME_SIZE)) := by
  have hsize : TLS_SNI_HOSTNAME_SIZE ≠ 0 := by decide
  -- each part is the reference's property, carried over by the first
  refine ⟨feed_chunks_eq_reference hsize, ?_, ?_, ?_, ?_⟩
  · intro hello hhello records hcarry tail chunks hchunks
    rw [feed_chunks_eq_reference hsize, hchunks]
    exact reference_client_hello hhello records tail hcarry
  · intro stream hdecided more chunks hchunks
    rw [feed_chunks_eq_reference hsize, hchunks]
    exact reference_append hdecided more
  · intro hello hhello records hcarry tail n hn chunks hchunks
    have heq := feed_chunks_eq_reference hsize chunks
    rw [hchunks] at heq
    have hres : (reference TLS_SNI_HOSTNAME_SIZE
        ((records.flatMap tls_record.encode ++ tail).take n)).result = .NEED_MORE :=
      reference_part _ hhello records tail hcarry hn
    rw [← heq] at hres
    exact hres
  · intro chunks hmore data
    exact feed_exits (feed_chunks_reading (reading_init _) hsize chunks hmore) hsize data

/-- The sample record cut into two calls. -/
theorem tls_sni_parser_feed_sample :
    (feed_chunks TLS_SNI_HOSTNAME_SIZE tls_sni_parser_init
        [sample_record.encode.take 30, sample_record.encode.drop 30]).verdict
      = ⟨.FOUND, [0x61, 0x2E, 0x62], false⟩ := by
  have h := tls_sni_parser_feed_eq_reference.2.1 sample_hello (by decide) [sample_record]
    (List.prefix_refl _) [] [sample_record.encode.take 30, sample_record.encode.drop 30]
    (by decide)
  rw [h]
  decide +kernel

end WifiManager.TlsSniParser
