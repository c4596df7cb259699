/-
The parser as a consumer of single bytes.

`tls_sni_parser_feed` copies its input in pieces bounded by three counters: the
record header, the rest of the record, and the rest of the message. What it
decides does not depend on the pieces. This file shows it in three steps.

1. `hello_verdict` says what the bytes of the message collected so far decide,
   with no mention of records or counters, and `hello_verdict_append` says that
   a decision stands. `Reading` is the invariant of a parser that has not
   decided: its length field is the one of the collected bytes and these decide
   nothing yet.
2. `read_byte` is the parser on one byte, and `consume_record_payload` says what
   reading the payload of a record does in terms of `hello_verdict` alone.
3. `feed_eq_consume`: one call of the source's function is `read_byte` over the
   bytes of the call, whatever their number; `feed_exits`: its loop terminates.
-/
import Mathlib.Tactic.Common
import WifiManager.Lib.Consumer
import WifiManager.TlsSniParser.Parser

set_option autoImplicit false

namespace WifiManager.TlsSniParser

open WifiManager.Lib WifiManager.Lib.Consumer

/-! ## What the collected bytes decide -/

/-- The total length the handshake header announces, `0` while it is incomplete:
the value of `client_hello_expected`. -/
def hello_total (hello : List UInt8) : ℕ :=
  if hello.length < 4 then 0 else hello_body_length hello + 4

/-- What the bytes of a handshake message decide, `none` while they decide nothing:
a first byte other than `client_hello` is refused at once, a length outside 5..2048
as soon as it is complete, and a complete message is parsed. -/
def hello_verdict (hostname_size : ℕ) (hello : List UInt8) : Option hello_outcome :=
  if hello = [] then none
  else if byte_at hello 0 ≠ TLS_HANDSHAKE_CLIENT_HELLO then some ⟨.INVALID, [], false⟩
  else if hello.length < 4 then none
  else if hello_total hello > TLS_CLIENT_HELLO_MAX_SIZE ∨ hello_total hello ≤ 4 then
    some ⟨.INVALID, [], false⟩
  else if hello.length < hello_total hello then none
  else some (parse_client_hello (hello.take (hello_total hello)) hostname_size)

theorem byte_at_append {hello : List UInt8} {i : ℕ} (h : i < hello.length)
    (more : List UInt8) : byte_at (hello ++ more) i = byte_at hello i := by
  simp only [byte_at, List.getD_eq_getElem?_getD, List.getElem?_append_left h]

theorem hello_total_append {hello : List UInt8} (h : 4 ≤ hello.length) (more : List UInt8) :
    hello_total (hello ++ more) = hello_total hello := by
  have h₁ : ¬ (hello ++ more).length < 4 := by rw [List.length_append]; omega
  have h₂ : ¬ hello.length < 4 := by omega
  rw [hello_total, hello_total, if_neg h₁, if_neg h₂]
  simp only [hello_body_length, byte_at_append (show 1 < hello.length by omega),
    byte_at_append (show 2 < hello.length by omega),
    byte_at_append (show 3 < hello.length by omega)]

/-- A decision stands whatever follows. -/
theorem hello_verdict_append {hostname_size : ℕ} {hello : List UInt8} {outcome : hello_outcome}
    (h : hello_verdict hostname_size hello = some outcome) (more : List UInt8) :
    hello_verdict hostname_size (hello ++ more) = some outcome := by
  unfold hello_verdict at h ⊢
  by_cases hnil : hello = []
  · simp [hnil] at h
  have hpos : 0 < hello.length := List.length_pos_iff.mpr hnil
  have hne : hello ++ more ≠ [] := by simp [hnil]
  rw [if_neg hnil] at h
  rw [if_neg hne, byte_at_append hpos]
  -- each check of a prefix comes out the same on the longer message
  by_cases htype : byte_at hello 0 ≠ TLS_HANDSHAKE_CLIENT_HELLO
  · rwa [if_pos htype] at h ⊢
  rw [if_neg htype] at h ⊢
  by_cases hshort : hello.length < 4
  · simp [if_pos hshort] at h
  have hlong : ¬ (hello ++ more).length < 4 := by rw [List.length_append]; omega
  rw [if_neg hshort] at h
  rw [if_neg hlong, hello_total_append (by omega)]
  by_cases hbad : hello_total hello > TLS_CLIENT_HELLO_MAX_SIZE ∨ hello_total hello ≤ 4
  · rwa [if_pos hbad] at h ⊢
  rw [if_neg hbad] at h ⊢
  by_cases hpart : hello.length < hello_total hello
  · simp [if_pos hpart] at h
  have hwhole : ¬ (hello ++ more).length < hello_total hello := by
    rw [List.length_append]; omega
  rw [if_neg hpart] at h
  rw [if_neg hwhole, List.take_append_of_le_length (by omega)]
  exact h

/-- The results a complete message can have. -/
theorem scan_extensions_decides (hello : List UInt8) (extensions_end hostname_size offset : ℕ)
    (sni : Option (List UInt8)) (ech : Bool) :
    (scan_extensions hello extensions_end hostname_size offset sni ech).result ≠ .NEED_MORE := by
  fun_induction scan_extensions hello extensions_end hostname_size offset sni ech <;>
    first | assumption | simp

theorem parse_client_hello_decides (hello : List UInt8) (hostname_size : ℕ) :
    (parse_client_hello hello hostname_size).result ≠ .NEED_MORE := by
  unfold parse_client_hello
  cases skip_fixed_fields hello with
  | none => simp
  | some offset =>
      simp only
      split_ifs
      · simp
      · simp
      · simp
      · exact scan_extensions_decides _ _ _ _ _ _

/-! ## The invariant of a parser that has not decided -/

/-- Between two calls, while the result is still `NEED_MORE`. -/
structure Reading (hostname_size : ℕ) (parser : tls_sni_parser_t) : Prop where
  finished : parser.finished = false
  ech_present : parser.ech_present = false
  header_le : parser.record_header.length ≤ 5
  header_full : parser.record_header.length = 5 ↔ 0 < parser.record_remaining
  expected_eq : parser.client_hello_expected = hello_total parser.client_hello
  undecided : hello_verdict hostname_size parser.client_hello = none

theorem reading_init (hostname_size : ℕ) : Reading hostname_size tls_sni_parser_init := by
  constructor <;> simp [tls_sni_parser_init, hello_total, hello_verdict]

/-- The undecided message wants at least one byte more. -/
theorem Reading.wanted_pos {hostname_size : ℕ} {parser : tls_sni_parser_t}
    (h : Reading hostname_size parser) : 0 < parser.wanted := by
  have hu := h.undecided
  rw [tls_sni_parser_t.wanted, h.expected_eq]
  unfold hello_verdict at hu
  by_cases hshort : parser.client_hello.length < 4
  · rw [hello_total, if_pos hshort, if_pos rfl]
    omega
  · have hne : parser.client_hello ≠ [] := by
      intro h0
      rw [h0] at hshort
      simp at hshort
    rw [if_neg hne, if_neg hshort] at hu
    split_ifs at hu with htype hbad hpart
    rw [if_neg (by omega)]
    omega

/-- What a call that decides hands to its caller. -/
def feed_outcome.verdict (outcome : feed_outcome) : hello_outcome :=
  ⟨outcome.result, outcome.hostname, outcome.parser.ech_present⟩

/-- The parser after `d` more bytes of the open record. -/
def tls_sni_parser_t.absorb (parser : tls_sni_parser_t) (d : List UInt8) : tls_sni_parser_t :=
  { parser with
    record_header := if parser.record_remaining - d.length = 0 then [] else parser.record_header
    record_remaining := parser.record_remaining - d.length
    client_hello := parser.client_hello ++ d
    client_hello_expected := hello_total (parser.client_hello ++ d) }

theorem absorb_absorb (parser : tls_sni_parser_t) {d : List UInt8}
    (hopen : ¬ parser.record_remaining - d.length = 0) (e : List UInt8) :
    (parser.absorb d).absorb e = parser.absorb (d ++ e) := by
  simp only [tls_sni_parser_t.absorb, if_neg hopen, List.append_assoc, List.length_append,
    Nat.sub_sub]

/-- Go on with a parser, unless there is a verdict. -/
def verdict_step (parser : tls_sni_parser_t) :
    Option hello_outcome → tls_sni_parser_t ⊕ hello_outcome
  | some outcome => .inr outcome
  | none => .inl parser

/-- Go on with the record just opened, unless its header is refused. -/
def open_step : Option tls_sni_parser_t → tls_sni_parser_t ⊕ hello_outcome
  | some opened => .inl opened
  | none => .inr ⟨.INVALID, [], false⟩

@[simp] theorem verdict_step_some (parser : tls_sni_parser_t) (outcome : hello_outcome) :
    verdict_step parser (some outcome) = .inr outcome := rfl

@[simp] theorem verdict_step_none (parser : tls_sni_parser_t) :
    verdict_step parser none = .inl parser := rfl

@[simp] theorem open_step_some (opened : tls_sni_parser_t) :
    open_step (some opened) = .inl opened := rfl

@[simp] theorem open_step_none : open_step none = .inr ⟨.INVALID, [], false⟩ := rfl

/-- The checks behind the copy are `hello_verdict` of the bytes collected, provided
the copy stayed inside what the message wanted. -/
theorem check_client_hello_eq {hostname_size : ℕ} {parser : tls_sni_parser_t}
    (h : Reading hostname_size parser) (d : List UInt8) (hd : d.length ≤ parser.wanted) :
    (check_client_hello
        { parser with
          client_hello := parser.client_hello ++ d
          record_remaining := parser.record_remaining - d.length } hostname_size).map
        id feed_outcome.verdict
      = verdict_step (parser.absorb d)
          (hello_verdict hostname_size (parser.client_hello ++ d)) := by
  have hu := h.undecided
  have hx := h.expected_eq
  have hech := h.ech_present
  rw [tls_sni_parser_t.wanted, hx] at hd
  obtain ⟨header, remaining, hello, expected, ech, fin⟩ := parser
  simp only at hu hx hd hech
  subst hx hech
  by_cases hnil : hello ++ d = []
  · -- nothing collected: nothing to check
    obtain ⟨rfl, rfl⟩ := List.append_eq_nil_iff.mp hnil
    simp [check_client_hello, hello_verdict, hello_total, tls_sni_parser_t.absorb]
    split_ifs <;> rfl
  have hpos : 0 < (hello ++ d).length := List.length_pos_iff.mpr hnil
  -- the type is checked at every copy, so also at the first byte alone
  by_cases htype : byte_at (hello ++ d) 0 ≠ TLS_HANDSHAKE_CLIENT_HELLO
  · simp only [check_client_hello, hello_verdict, if_neg hnil, if_pos htype,
      if_pos (show (hello ++ d).length ≥ 1 ∧ byte_at (hello ++ d) 0 ≠ TLS_HANDSHAKE_CLIENT_HELLO
        from ⟨hpos, htype⟩)]
    rfl
  have hcheck : ¬ ((hello ++ d).length ≥ 1 ∧
      byte_at (hello ++ d) 0 ≠ TLS_HANDSHAKE_CLIENT_HELLO) := fun hc => htype hc.2
  simp only [check_client_hello, hello_verdict, if_neg hnil, if_neg htype, if_neg hcheck]
  by_cases hshort : (hello ++ d).length < 4
  · -- the handshake header is still incomplete
    have hlen : ¬ (hello ++ d).length = 4 := by omega
    have h0 : hello.length < 4 := by rw [List.length_append] at hshort; omega
    have ht0 : hello_total hello = 0 := by rw [hello_total, if_pos h0]
    have ht1 : hello_total (hello ++ d) = 0 := by rw [hello_total, if_pos hshort]
    simp only [hlen, hshort, ht0, ht1, false_and, if_false, if_true, Nat.lt_irrefl,
      gt_iff_lt, tls_sni_parser_t.absorb]
    split_ifs <;> rfl
  by_cases h0 : hello.length < 4
  · -- the copy completes the handshake header
    have ht0 : hello_total hello = 0 := by rw [hello_total, if_pos h0]
    rw [ht0, if_pos rfl] at hd
    have hlen : (hello ++ d).length = 4 := by
      rw [List.length_append] at hshort ⊢; omega
    have ht1 : hello_total (hello ++ d) = hello_body_length (hello ++ d) + 4 := by
      rw [hello_total, if_neg hshort]
    simp only [hlen, ht0, and_self, if_true, true_and, ← ht1, lt_irrefl, if_false]
    -- the bound is checked here once, when the length becomes known
    by_cases hbad : hello_total (hello ++ d) > TLS_CLIENT_HELLO_MAX_SIZE ∨
        hello_total (hello ++ d) ≤ 4
    · rw [if_pos hbad, if_pos hbad]
      rfl
    · have hne : ¬ (hello_total (hello ++ d) > 0 ∧ 4 = hello_total (hello ++ d)) := by omega
      have hlt : 4 < hello_total (hello ++ d) := by omega
      simp only [if_neg hbad, if_neg hne, if_pos hlt, tls_sni_parser_t.absorb]
      split_ifs <;> rfl
  · -- the length was known before the copy
    have ht : hello_total (hello ++ d) = hello_total hello :=
      hello_total_append (by omega) d
    have hne : hello ≠ [] := by intro h1; rw [h1] at h0; simp at h0
    -- the bytes collected before have passed the type and the bound, since they are undecided
    have hb : byte_at (hello ++ d) 0 = byte_at hello 0 :=
      byte_at_append (List.length_pos_iff.mpr hne) d
    unfold hello_verdict at hu
    rw [if_neg hne, if_neg (by rw [← hb]; exact htype), if_neg h0] at hu
    split_ifs at hu with hbad hpart
    have hbig : ¬ hello_total hello = 0 := by omega
    rw [if_neg hbig] at hd
    simp only [ht, hbig, hshort, hbad, and_false, if_false, gt_iff_lt]
    -- the message is complete with this copy, or still being collected
    by_cases hfull : (hello ++ d).length = hello_total hello
    · rw [if_pos ⟨by omega, hfull⟩, if_neg (by omega), ← hfull, List.take_length]
      rfl
    · have hless : (hello ++ d).length < hello_total hello := by
        rw [List.length_append] at hfull ⊢; omega
      rw [if_neg (fun hc => hfull hc.2), if_pos hless]
      simp only [tls_sni_parser_t.absorb, ht]
      split_ifs <;> rfl

/-! ## The parser on one byte -/

/-- One byte: of the record header while that is incomplete, of the message
otherwise. -/
def read_byte (hostname_size : ℕ) (parser : tls_sni_parser_t) (b : UInt8) :
    tls_sni_parser_t ⊕ hello_outcome :=
  if parser.record_header.length < 5 then
    let parser := { parser with record_header := parser.record_header ++ [b] }
    if parser.record_header.length < 5 then .inl parser
    else open_step (open_record parser)
  else
    (check_client_hello
      { parser with
        client_hello := parser.client_hello ++ [b]
        record_remaining := parser.record_remaining - 1 } hostname_size).map
      id feed_outcome.verdict

/-- `open_record` on a header completed while no record is open. -/
theorem open_record_reading {hostname_size : ℕ} {parser opened : tls_sni_parser_t}
    {header : List UInt8} (h : Reading hostname_size parser) (hlt : parser.record_header.length < 5)
    (hlen : header.length = 5)
    (ho : open_record { parser with record_header := header } = some opened) :
    opened = { parser with
        record_header := header
        record_remaining := read_u16 header 3 } ∧
      byte_at header 0 = TLS_CONTENT_TYPE_HANDSHAKE ∧ read_u16 header 3 ≠ 0 ∧
      Reading hostname_size opened := by
  have hrem : parser.record_remaining = 0 := by
    have := h.header_full
    omega
  unfold open_record at ho
  simp only [hrem, if_true] at ho
  split_ifs at ho with htype hzero
  obtain rfl := Option.some.inj ho
  refine ⟨rfl, by simpa using htype, hzero, ?_⟩
  exact
    { finished := h.finished
      ech_present := h.ech_present
      header_le := Nat.le_of_eq hlen
      header_full := by simp only [hlen, true_iff]; omega
      expected_eq := h.expected_eq
      undecided := h.undecided }

/-- The state after part of a record's payload that decides nothing. -/
theorem absorb_reading {hostname_size : ℕ} {parser : tls_sni_parser_t}
    (h : Reading hostname_size parser) (hopen : 0 < parser.record_remaining) {d : List UInt8}
    (hu : hello_verdict hostname_size (parser.client_hello ++ d) = none) :
    Reading hostname_size (parser.absorb d) := by
  have hfull : parser.record_header.length = 5 := h.header_full.mpr hopen
  refine ⟨h.finished, h.ech_present, ?_, ?_, rfl, hu⟩
  · simp only [tls_sni_parser_t.absorb]
    split_ifs
    · simp
    · exact h.header_le
  · simp only [tls_sni_parser_t.absorb]
    split_ifs with h0
    · simp [h0]
    · simp only [hfull, true_iff]
      omega

theorem read_byte_reading {hostname_size : ℕ} (parser : tls_sni_parser_t) (b : UInt8)
    (parser' : tls_sni_parser_t) (h : Reading hostname_size parser)
    (hb : read_byte hostname_size parser b = .inl parser') : Reading hostname_size parser' := by
  unfold read_byte at hb
  by_cases hlt : parser.record_header.length < 5
  · rw [if_pos hlt] at hb
    -- the header is still being collected, or it opens a record with this byte
    by_cases hstill : (parser.record_header ++ [b]).length < 5
    · simp only [hstill, if_true, Sum.inl.injEq] at hb
      subst hb
      have hrem := h.header_full
      refine ⟨h.finished, h.ech_present, Nat.le_of_lt hstill, ?_, h.expected_eq, h.undecided⟩
      simp only
      omega
    · simp only [hstill, if_false] at hb
      have hlen : (parser.record_header ++ [b]).length = 5 := by
        rw [List.length_append, List.length_singleton] at hstill ⊢
        omega
      cases ho : open_record { parser with record_header := parser.record_header ++ [b] } with
      | none => simp [ho] at hb
      | some opened =>
          simp only [ho, open_step_some, Sum.inl.injEq] at hb
          subst hb
          exact (open_record_reading h hlt hlen ho).2.2.2
  · rw [if_neg hlt] at hb
    have hopen : 0 < parser.record_remaining :=
      h.header_full.mp (le_antisymm h.header_le (by omega))
    have heq := check_client_hello_eq h [b] h.wanted_pos
    rw [List.length_singleton] at heq
    rw [heq] at hb
    cases hv : hello_verdict hostname_size (parser.client_hello ++ [b]) with
    | some outcome => simp [hv] at hb
    | none =>
        simp only [hv, verdict_step_none, Sum.inl.injEq] at hb
        subst hb
        exact absorb_reading h hopen hv

/-- Bytes of an incomplete record header are collected. -/
theorem consume_header_part {hostname_size : ℕ} (parser : tls_sni_parser_t) (d : List UInt8)
    (hlt : parser.record_header.length + d.length < 5) :
    consume (read_byte hostname_size) parser d
      = .inl { parser with record_header := parser.record_header ++ d } := by
  induction d generalizing parser with
  | nil => simp
  | cons b d ih =>
      rw [List.length_cons] at hlt
      have hstep : read_byte hostname_size parser b
          = .inl { parser with record_header := parser.record_header ++ [b] } := by
        have h₁ : parser.record_header.length < 5 := by omega
        have h₂ : (parser.record_header ++ [b]).length < 5 := by
          rw [List.length_append, List.length_singleton]; omega
        simp only [read_byte, h₁, h₂, if_true]
      rw [consume_cons, hstep, andThen_inl,
        ih _ (by simp only [List.length_append, List.length_singleton]; omega)]
      simp

/-- The bytes that complete a record header open the record or end the stream. -/
theorem consume_header {hostname_size : ℕ} (parser : tls_sni_parser_t) (d : List UInt8)
    (hlt : parser.record_header.length < 5) (hd : parser.record_header.length + d.length = 5) :
    consume (read_byte hostname_size) parser d
      = open_step (open_record { parser with record_header := parser.record_header ++ d }) := by
  have hne : d ≠ [] := by
    intro h0
    rw [h0, List.length_nil] at hd
    omega
  obtain ⟨front, b, rfl⟩ := List.eq_nil_or_concat d |>.resolve_left hne
  rw [List.concat_eq_append] at hd ⊢
  rw [List.length_append, List.length_singleton] at hd
  rw [consume_append, consume_header_part parser front (by omega), andThen_inl, consume_cons]
  have h₁ : (parser.record_header ++ front).length < 5 := by rw [List.length_append]; omega
  have h₂ : ¬ (parser.record_header ++ (front ++ [b])).length < 5 := by
    simp only [List.length_append, List.length_singleton]; omega
  simp only [read_byte, h₁, if_true, List.append_assoc, h₂, if_false]
  cases open_record { parser with record_header := parser.record_header ++ (front ++ [b]) } <;> rfl

/-- Reading inside an open record is collecting message bytes until they decide. -/
theorem consume_record_payload {hostname_size : ℕ} {parser : tls_sni_parser_t}
    (h : Reading hostname_size parser) (hopen : 0 < parser.record_remaining) (d : List UInt8)
    (hd : d.length ≤ parser.record_remaining) :
    consume (read_byte hostname_size) parser d
      = verdict_step (parser.absorb d)
          (hello_verdict hostname_size (parser.client_hello ++ d)) := by
  -- byte by byte; `absorb_reading` carries the invariant over a byte that decides nothing
  induction d generalizing parser with
  | nil =>
      have hfull : ¬ parser.record_remaining = 0 := by omega
      simp only [consume_nil, List.append_nil, h.undecided, tls_sni_parser_t.absorb,
        List.length_nil, Nat.sub_zero, if_neg hfull, ← h.expected_eq, verdict_step_none]
  | cons b d ih =>
      rw [List.length_cons] at hd
      have hfull : ¬ parser.record_header.length < 5 := by
        have := h.header_full.mpr hopen
        omega
      have hstep : read_byte hostname_size parser b
          = verdict_step (parser.absorb [b])
              (hello_verdict hostname_size (parser.client_hello ++ [b])) := by
        rw [read_byte, if_neg hfull]
        exact check_client_hello_eq h [b] h.wanted_pos
      rw [consume_cons, hstep, show parser.client_hello ++ b :: d
        = parser.client_hello ++ [b] ++ d by simp]
      -- a verdict on a prefix is the verdict on the whole payload
      cases hv : hello_verdict hostname_size (parser.client_hello ++ [b]) with
      | some outcome =>
          rw [hello_verdict_append hv]
          rfl
      | none =>
          simp only [verdict_step_none, andThen_inl]
          rcases List.eq_nil_or_concat d with rfl | ⟨_, _, hcat⟩
          · simp [hv]
          · -- more payload follows, so the record is still open after `b`
            have hdpos : 0 < d.length := by rw [hcat, List.concat_eq_append]; simp
            have hrem : (parser.absorb [b]).record_remaining = parser.record_remaining - 1 := rfl
            have hhello : (parser.absorb [b]).client_hello = parser.client_hello ++ [b] := rfl
            rw [ih (absorb_reading h hopen hv) (by rw [hrem]; omega) (by rw [hrem]; omega), hhello]
            cases hello_verdict hostname_size (parser.client_hello ++ [b] ++ d) with
            | some outcome => rfl
            | none =>
                have hkeep : ¬ parser.record_remaining - [b].length = 0 := by
                  rw [List.length_singleton]; omega
                rw [show b :: d = [b] ++ d from rfl, ← absorb_absorb parser hkeep]

/-! ## One call of the source's function -/

/-- What a call tells the consumer: go on with the parser left behind, or the
verdict. -/
def feed_outcome.step (outcome : feed_outcome) : tls_sni_parser_t ⊕ hello_outcome :=
  if outcome.result = .NEED_MORE then .inl outcome.parser else .inr outcome.verdict

/-- `tls_sni_parser_feed` in the consumer's form. -/
def feed_step (hostname_size : ℕ) (parser : tls_sni_parser_t) (data : List UInt8) :
    tls_sni_parser_t ⊕ hello_outcome :=
  (tls_sni_parser_feed parser data hostname_size).step

/-- A round's checks that stop the loop stop it with a verdict. -/
theorem check_client_hello_stops {hostname_size : ℕ} {parser : tls_sni_parser_t}
    {outcome : feed_outcome} (h : check_client_hello parser hostname_size = .inr outcome) :
    outcome.result ≠ .NEED_MORE := by
  simp only [check_client_hello] at h
  split_ifs at h <;> cases h <;> first | exact parse_client_hello_decides _ _ | simp

/-- **The copy of a round is `read_byte` over the bytes it copies**, at least one if
the input has one. -/
theorem copy_payload_eq {hostname_size : ℕ} {parser : tls_sni_parser_t}
    (h : Reading hostname_size parser) (hopen : 0 < parser.record_remaining)
    (data : List UInt8) :
    match copy_payload hostname_size parser data with
    | .inl (parser', rest) =>
        Reading hostname_size parser' ∧ rest.length ≤ data.length ∧
          (data ≠ [] → rest.length < data.length) ∧
          consume (read_byte hostname_size) parser data
            = consume (read_byte hostname_size) parser' rest
    | .inr outcome => consume (read_byte hostname_size) parser data = outcome.step := by
  set copy := min (min data.length parser.record_remaining) parser.wanted with hcopy
  have hlen : (data.take copy).length = copy := by rw [List.length_take]; omega
  -- the bytes of one copy at once: what the code checks, and what the reader by bytes says
  have hcheck := check_client_hello_eq h (data.take copy) (by omega)
  rw [hlen] at hcheck
  have hpayload := consume_record_payload h hopen (data.take copy) (by omega)
  -- the input is the copy and the rest
  have hsplit : consume (read_byte hostname_size) parser data
      = andThen (consume (read_byte hostname_size) parser (data.take copy))
          (fun s => consume (read_byte hostname_size) s (data.drop copy)) := by
    conv_lhs => rw [← List.take_append_drop copy data]
    rw [consume_append]
  rw [hsplit, hpayload, copy_payload]
  simp only [← hcopy]
  cases hc : check_client_hello
      { parser with
        client_hello := parser.client_hello ++ data.take copy
        record_remaining := parser.record_remaining - copy } hostname_size with
  -- the copy decides, and the rest is never looked at
  | inr outcome =>
      rw [hc] at hcheck
      cases hv : hello_verdict hostname_size (parser.client_hello ++ data.take copy) with
      | none => simp [hv] at hcheck
      | some verdict =>
          simp only [hv, verdict_step_some, Sum.map_inr, Sum.inr.injEq] at hcheck
          simp only [verdict_step_some, andThen_inr, feed_outcome.step,
            if_neg (check_client_hello_stops hc), hcheck]
  | inl parser' =>
      rw [hc] at hcheck
      cases hv : hello_verdict hostname_size (parser.client_hello ++ data.take copy) with
      | some verdict => simp [hv] at hcheck
      | none =>
          simp only [hv, verdict_step_none, Sum.map_inl, id_eq, Sum.inl.injEq] at hcheck
          subst hcheck
          have hwanted := h.wanted_pos
          have hrest : (data.drop copy).length = data.length - copy := List.length_drop
          refine ⟨absorb_reading h hopen hv, by omega, fun hdata => ?_, rfl⟩
          have := List.length_pos_iff.mpr hdata
          omega

/-- **One round of the main loop is `read_byte` over the bytes it consumes**, and it
consumes at least one. -/
theorem feed_round_eq {hostname_size : ℕ} {parser : tls_sni_parser_t}
    (h : Reading hostname_size parser) {data : List UInt8} (hdata : data ≠ []) :
    match feed_round hostname_size parser data with
    | .inl (parser', rest) =>
        Reading hostname_size parser' ∧ rest.length < data.length ∧
          consume (read_byte hostname_size) parser data
            = consume (read_byte hostname_size) parser' rest
    | .inr outcome => consume (read_byte hostname_size) parser data = outcome.step := by
  have hpos : 0 < data.length := List.length_pos_iff.mpr hdata
  unfold feed_round
  set room := 5 - parser.record_header.length with hroom
  by_cases hlt : parser.record_header.length < 5
  · by_cases hpart : parser.record_header.length + data.length < 5
    · -- the input ends inside the record header
      have htake : data.take room = data := List.take_of_length_le (by omega)
      have hlen : (parser.record_header ++ data).length < 5 := by
        rw [List.length_append]; omega
      simp only [htake, hlen, if_true]
      rw [consume_header_part parser data hpart]
      rfl
    · have hlen : (data.take room).length = room := by rw [List.length_take]; omega
      have hfull : ¬ (parser.record_header ++ data.take room).length < 5 := by
        rw [List.length_append, hlen]; omega
      -- the header is completed: the record opens, or its header is refused
      have hread : consume (read_byte hostname_size) parser data
          = andThen (open_step (open_record
              { parser with record_header := parser.record_header ++ data.take room }))
            (fun s => consume (read_byte hostname_size) s (data.drop room)) := by
        conv_lhs => rw [← List.take_append_drop room data]
        rw [consume_append, consume_header parser _ hlt (by omega)]
      simp only [hfull, if_false]
      rw [hread]
      cases ho : open_record
          { parser with record_header := parser.record_header ++ data.take room } with
      -- not a handshake record, or an empty one
      | none =>
          simp only [feed_outcome.step, feed_outcome.verdict, tls_sni_parser_t.finish,
            h.ech_present]
          rfl
      | some opened =>
          -- an open record takes its payload in the same round
          obtain ⟨hopened, -, hnz, hreading⟩ :=
            open_record_reading h hlt (by rw [List.length_append, hlen]; omega) ho
          have hcopy := copy_payload_eq hreading (by rw [hopened]; simp only; omega)
            (data.drop room)
          have hdrop : (data.drop room).length < data.length := by
            rw [List.length_drop]; omega
          simp only [open_step_some, andThen_inl]
          cases hc : copy_payload hostname_size opened (data.drop room) with
          | inl next =>
              simp only [hc] at hcopy
              exact ⟨hcopy.1, by omega, hcopy.2.2.2⟩
          | inr outcome =>
              simp only [hc] at hcopy
              exact hcopy
  · -- the record is open already
    have hopen : 0 < parser.record_remaining :=
      h.header_full.mp (Nat.le_antisymm h.header_le (by omega))
    have hroom0 : room = 0 := by omega
    have hrecord : open_record parser = some parser := by
      rw [open_record, if_neg (by omega)]
    simp only [hroom0, List.take_zero, List.append_nil, List.drop_zero, hlt, if_false, hrecord]
    have hcopy := copy_payload_eq h hopen data
    cases hc : copy_payload hostname_size parser data with
    | inl next =>
        simp only [hc] at hcopy
        exact ⟨hcopy.1, hcopy.2.2.1 hdata, hcopy.2.2.2⟩
    | inr outcome =>
        simp only [hc] at hcopy
        exact hcopy

theorem feed_body_step {hostname_size : ℕ} (state state' : tls_sni_parser_t × List UInt8)
    (h : Reading hostname_size state.1) (hb : feed_body hostname_size state = .inl state') :
    Reading hostname_size state'.1 ∧ state'.2.length < state.2.length ∧
      consume (read_byte hostname_size) state.1 state.2
        = consume (read_byte hostname_size) state'.1 state'.2 := by
  unfold feed_body at hb
  split_ifs at hb with hnil
  have hround := feed_round_eq h hnil
  rw [hb] at hround
  exact hround

/-- **Every call terminates**: the loop of `tls_sni_parser_feed` leaves, and with the
value the model computes. -/
theorem feed_exits {hostname_size : ℕ} {parser : tls_sni_parser_t}
    (h : Reading hostname_size parser) (hsize : hostname_size ≠ 0) (data : List UInt8) :
    Loop.Exits (feed_body hostname_size) (parser, data)
      (tls_sni_parser_feed parser data hostname_size) := by
  rw [tls_sni_parser_feed, if_neg (by simp [hsize, h.finished])]
  refine Loop.exits_exitValue (fun s => Reading hostname_size s.1) (fun s => s.2.length) ?_ _
    h (Nat.lt_succ_self _)
  intro s s' hI hb
  have hstep := feed_body_step s s' hI hb
  exact ⟨hstep.1, hstep.2.1⟩

/-- **One call is `read_byte` over its bytes.** -/
theorem feed_eq_consume {hostname_size : ℕ} {parser : tls_sni_parser_t}
    (h : Reading hostname_size parser) (hsize : hostname_size ≠ 0) (data : List UInt8) :
    feed_step hostname_size parser data = consume (read_byte hostname_size) parser data := by
  refine ((feed_exits h hsize data).invariant
    (fun s => Reading hostname_size s.1 ∧ consume (read_byte hostname_size) parser data
      = consume (read_byte hostname_size) s.1 s.2)
    (fun outcome => outcome.step = consume (read_byte hostname_size) parser data) ?_ ?_
    ⟨h, rfl⟩)
  · rintro s s' ⟨hI, heq⟩ hb
    have hstep := feed_body_step s s' hI hb
    exact ⟨hstep.1, heq.trans hstep.2.2⟩
  · rintro s outcome ⟨hI, heq⟩ hb
    rw [heq]
    unfold feed_body at hb
    split_ifs at hb with hnil
    · cases hb
      rw [hnil]
      rfl
    · have hround := feed_round_eq hI hnil
      rw [hb] at hround
      exact hround.symm

/-- A call that wants more leaves a parser that has not decided. -/
theorem feed_reading {hostname_size : ℕ} {parser : tls_sni_parser_t}
    (h : Reading hostname_size parser) (hsize : hostname_size ≠ 0) {data : List UInt8}
    (hmore : (tls_sni_parser_feed parser data hostname_size).result = .NEED_MORE) :
    Reading hostname_size (tls_sni_parser_feed parser data hostname_size).parser := by
  have hfeed := feed_eq_consume h hsize data
  rw [feed_step, feed_outcome.step, if_pos hmore] at hfeed
  exact consume_invariant _ read_byte_reading h hfeed.symm

/-! ## What a decided parser still holds -/

theorem check_client_hello_keeps {hostname_size : ℕ} {parser : tls_sni_parser_t}
    {outcome : feed_outcome} (h : check_client_hello parser hostname_size = .inr outcome) :
    outcome.parser.client_hello = parser.client_hello := by
  simp only [check_client_hello] at h
  split_ifs at h <;> cases h <;> rfl

/-- A copy that ends the loop leaves the bytes behind that it was decided by. -/
theorem copy_payload_verdict {hostname_size : ℕ} {parser : tls_sni_parser_t}
    (h : Reading hostname_size parser) {data : List UInt8} {outcome : feed_outcome}
    (hc : copy_payload hostname_size parser data = .inr outcome) :
    hello_verdict hostname_size outcome.parser.client_hello = some outcome.verdict := by
  unfold copy_payload at hc
  set copy := min (min data.length parser.record_remaining) parser.wanted with hcopy
  have hlen : (data.take copy).length = copy := by rw [List.length_take]; omega
  have hcheck := check_client_hello_eq h (data.take copy) (by omega)
  rw [hlen] at hcheck
  dsimp only at hc
  cases hstop : check_client_hello
      { parser with
        client_hello := parser.client_hello ++ data.take copy
        record_remaining := parser.record_remaining - copy } hostname_size with
  | inl parser' =>
      rw [hstop] at hc
      cases hc
  | inr stopped =>
      rw [hstop] at hc hcheck
      obtain rfl := Sum.inr.inj hc
      rw [check_client_hello_keeps hstop]
      cases hv : hello_verdict hostname_size (parser.client_hello ++ data.take copy) with
      | none => simp [hv] at hcheck
      | some verdict =>
          simp only [hv, verdict_step_some, Sum.map_inr, Sum.inr.injEq] at hcheck
          rw [hcheck]

/-- **The verdict is that of the bytes left in the buffer**, unless these decide nothing
because a record header ended the stream. -/
theorem feed_verdict {hostname_size : ℕ} {parser : tls_sni_parser_t}
    (h : Reading hostname_size parser) (hsize : hostname_size ≠ 0) (data : List UInt8)
    (hdecided : (tls_sni_parser_feed parser data hostname_size).result ≠ .NEED_MORE)
    {verdict : hello_outcome}
    (hv : hello_verdict hostname_size
      (tls_sni_parser_feed parser data hostname_size).parser.client_hello = some verdict) :
    (tls_sni_parser_feed parser data hostname_size).verdict = verdict := by
  -- the rounds of the loop keep the invariant; what is left is the round that ends it
  refine (feed_exits h hsize data).invariant (fun s => Reading hostname_size s.1)
    (fun outcome => outcome.result ≠ .NEED_MORE →
      hello_verdict hostname_size outcome.parser.client_hello = some verdict →
        outcome.verdict = verdict)
    (fun s s' hI hb => (feed_body_step s s' hI hb).1) ?_ h hdecided hv
  rintro ⟨parser, data⟩ outcome hI hb hdecided hv
  unfold feed_body at hb
  split_ifs at hb with hnil
  · obtain rfl := Sum.inr.inj hb
    exact absurd rfl hdecided
  unfold feed_round at hb
  dsimp only at hI hb
  split_ifs at hb with hpart
  · obtain rfl := Sum.inr.inj hb
    exact absurd rfl hdecided
  cases ho : open_record { parser with
      record_header := parser.record_header ++ data.take (5 - parser.record_header.length) } with
  | none =>
      rw [ho] at hb
      obtain rfl := Sum.inr.inj hb
      -- the bytes collected before the header decide nothing
      have hu := hI.undecided
      rw [show hello_verdict hostname_size parser.client_hello = some verdict from hv] at hu
      cases hu
  | some opened =>
      rw [ho] at hb
      dsimp only at hb
      have hreading : Reading hostname_size opened := by
        by_cases hlt : parser.record_header.length < 5
        · refine (open_record_reading hI hlt ?_ ho).2.2.2
          rw [List.length_append, List.length_take] at hpart ⊢
          omega
        · have hopen : 0 < parser.record_remaining :=
            hI.header_full.mp (Nat.le_antisymm hI.header_le (by omega))
          rw [Nat.sub_eq_zero_of_le (Nat.le_of_not_lt hlt), List.take_zero, List.append_nil,
            open_record, if_neg (Nat.ne_of_gt hopen)] at ho
          exact Option.some.inj ho ▸ hI
      have hverdict := copy_payload_verdict hreading hb
      rw [hv] at hverdict
      exact (Option.some.inj hverdict).symm

end WifiManager.TlsSniParser
