/-
One name, asked for by DNS and named in a ClientHello.

Both paths end in `access_filter_is_hostname_blocked`. The TLS path hands it the bytes of the
name in lower case, or refuses them first: what it refuses and a host name has not is
blocked by the rules as well, except for a NUL byte. The DNS path hands it the text in a
buffer, which a NUL byte in a label cuts short. `same_verdict_iff` is what this comes to: the
verdicts agree on every name without NUL, and on a name with one exactly if the text in front
of it is refused.
-/
import Mathlib.Data.List.TakeWhile
import WifiManager.AccessFilter.Reassembly
import WifiManager.CaptivePortal.PortalDns
import WifiManager.TlsSniParser.ClientHello

set_option autoImplicit false

namespace WifiManager.CaptivePortal

open WifiManager.Lib WifiManager.AccessFilter WifiManager.TlsSniParser

open tls_flow_state_t tls_sni_parse_result_t

/-! ## A ClientHello on its way -/

/-- The chunks carry the message: in records cut in any way, with anything behind it. -/
def Sends (hello : client_hello) (chunks : List (List UInt8)) : Prop :=
  ∃ (records : List tls_record) (tail : List UInt8),
    hello.encode <+: records.flatMap tls_record.payload ∧
      chunks.flatten = records.flatMap tls_record.encode ++ tail

/-- The state in which `tls_sni_parser_feed`, called for one chunk after another, and
`apply_tls_parse_result` put a flow. -/
def decided_state (rules : List c_string) (flow : tls_flow_t) (chunks : List (List UInt8)) :
    tls_flow_state_t :=
  let outcome := feed_chunks TLS_SNI_HOSTNAME_SIZE tls_sni_parser_init chunks
  (apply_tls_parse_result rules { flow with parser := outcome.parser } outcome.result
    outcome.hostname).state

/-! ## The TLS path -/

/-- What the parser refuses, no host name has, and neither has NUL. -/
theorem hostname_byte_printable (value : UInt8) :
    printable value = false → hostname_byte value = false := by
  revert value
  apply CString.forall_byte
  decide +kernel

/-- **When a ClientHello blocks its flow**: if it is too large, if its host name has a NUL
byte, or if the rules block the name. -/
theorem outcome_blocked_iff {rules : List c_string} (hrules : rules ≠ []) {host_name : List UInt8}
    (hlength : host_name.length ≤ 255) (fits : Prop) [Decidable fits] :
    outcome_state rules (if fits then hostname_outcome TLS_SNI_HOSTNAME_SIZE host_name
        else ⟨.INVALID, [], false⟩) = TLS_FLOW_BLOCK ↔
      ¬ fits ∨ 0 ∈ host_name ∨ access_filter_is_hostname_blocked rules host_name = true := by
  by_cases hfits : fits
  swap
  · rw [if_neg hfits]
    exact ⟨fun _ => .inl hfits, fun _ => rfl⟩
  rw [if_pos hfits, hostname_outcome, accepted_hostname, copy_hostname_eq]
  by_cases hempty : host_name.length = 0
  · -- the empty name is invalid on both sides
    rw [if_pos (.inl hempty), List.eq_nil_of_length_eq_zero hempty]
    refine ⟨fun _ => .inr (.inr ?_), fun _ => rfl⟩
    unfold access_filter_is_hostname_blocked
    rw [if_neg hrules]
    rfl
  rw [if_neg (not_or.mpr ⟨hempty, Nat.not_le_of_lt (Nat.lt_of_le_of_lt hlength (by decide))⟩)]
  by_cases hvalid : host_name.all printable = true
  · rw [if_pos hvalid]
    have hnul : 0 ∉ host_name := fun h => absurd (List.all_eq_true.mp hvalid 0 h) (by decide)
    dsimp only
    rw [outcome_state]
    dsimp only
    rw [is_hostname_blocked_tolower]
    cases access_filter_is_hostname_blocked rules host_name <;> simp [hfits, hnul]
  · rw [if_neg hvalid]
    refine ⟨fun _ => .inr ?_, fun _ => rfl⟩
    -- a byte that the parser refuses stands in no host name either
    obtain ⟨value, hmem, hvalue⟩ := List.all_eq_false.mp (Bool.eq_false_iff.mpr hvalid)
    have hinvalid := hostname_byte_printable value (Bool.eq_false_iff.mpr hvalue)
    exact .inr (is_hostname_blocked_of_byte hrules hmem hinvalid)

/-- The flow of a ClientHello, fed in any chunks. -/
theorem decided_state_eq {hello : client_hello} {chunks : List (List UInt8)}
    (h : Sends hello chunks) (rules : List c_string) (flow : tls_flow_t) :
    decided_state rules flow chunks
      = outcome_state rules
          (if hello.encode.length ≤ TLS_CLIENT_HELLO_MAX_SIZE then
            hostname_outcome TLS_SNI_HOSTNAME_SIZE hello.host_name
          else ⟨.INVALID, [], false⟩) := by
  obtain ⟨records, tail, hcarry, hchunks⟩ := h
  have hverdict := hello.feed_chunks_encode hostname_size_ne hcarry hchunks
  have hmore : (feed_chunks TLS_SNI_HOSTNAME_SIZE tls_sni_parser_init chunks).result
      ≠ .NEED_MORE := by
    intro hmore
    have hresult := congrArg hello_outcome.result hverdict
    rw [feed_outcome.verdict, hmore] at hresult
    revert hresult
    unfold hostname_outcome
    split_ifs
    · cases accepted_hostname TLS_SNI_HOSTNAME_SIZE hello.host_name <;> simp
    · simp
  rw [← hverdict]
  exact apply_result_state rules _ hmore _

/-! ## The two verdicts -/

/-- **When the two paths agree** on a name that is not the external portal's: if the
ClientHello fits its buffer and the name has no NUL byte, and otherwise exactly if the text in
front of the first NUL is refused. -/
theorem same_verdict_iff (getaddrinfo : c_string → Option UInt32) (portal : portal_dns_t)
    {rules : List c_string} (hrules : rules ≠ []) (name : dns_name)
    (hportal : ¬ (portal.s_external_portal_enabled = true ∧
      strcasecmp_equal name.text portal.s_external_portal_domain = true))
    (query : dns_query name) (hello : client_hello) (hhost : hello.host_name = name.text)
    {chunks : List (List UInt8)} (hsends : Sends hello chunks) (flow : tls_flow_t) :
    (Refused getaddrinfo portal rules query ↔
        decided_state rules flow chunks = TLS_FLOW_BLOCK) ↔
      (hello.encode.length ≤ TLS_CLIENT_HELLO_MAX_SIZE ∧ 0 ∉ name.text) ∨
        (portal_answers portal query.query_type (CString.of_buffer name.text) = false ∧
          access_filter_is_hostname_blocked rules (CString.of_buffer name.text) = true) := by
  have htls := outcome_blocked_iff hrules name.text_length
    (hello.encode.length ≤ TLS_CLIENT_HELLO_MAX_SIZE)
  rw [build_dns_response_refused, decided_state_eq hsends, hhost]
  rw [show dotted name.labels = name.text from rfl] at htls
  rw [htls]
  by_cases hok : hello.encode.length ≤ TLS_CLIENT_HELLO_MAX_SIZE ∧ 0 ∉ name.text
  · -- without NUL the buffer holds the name, and both paths ask the rules about it
    have htext : CString.of_buffer name.text = name.text := by
      refine List.takeWhile_eq_self_iff.mpr fun value hmem => ?_
      rw [decide_eq_true_eq]
      rintro rfl
      exact hok.2 hmem
    have hother : portal_answers portal query.query_type name.text = false := by
      rw [portal_answers, Bool.and_assoc, Bool.and_eq_false_iff]
      right
      rw [Bool.eq_false_iff, Ne, Bool.and_eq_true]
      exact hportal
    rw [htext, hother]
    refine ⟨fun _ => .inl hok, fun _ => ?_⟩
    constructor
    · exact fun hrefused => .inr (.inr hrefused.2)
    · rintro (hlarge | hnul | hblocked)
      · exact absurd hok.1 hlarge
      · exact absurd hnul hok.2
      · exact ⟨rfl, hblocked⟩
  · -- otherwise the flow is blocked, so that the name has to be refused
    have hblock : ¬ hello.encode.length ≤ TLS_CLIENT_HELLO_MAX_SIZE ∨ 0 ∈ name.text := by
      by_contra hnot
      push Not at hnot
      exact hok hnot
    constructor
    · exact fun hsame => .inr (hsame.mpr (hblock.imp_right .inl))
    · exact fun h => ⟨fun _ => hblock.imp_right .inl, fun _ => h.resolve_left hok⟩

/-! ## A name with NUL -/

/-- A query of type A for a name. -/
def sample_query (name : dns_name) : dns_query name where
  header := [0x12, 0x34, 0x01, 0x00, 0, 1, 0, 0, 0, 0, 0, 0]
  question := [0, 1, 0, 1]
  additional := []
  header_length := rfl
  request := by decide
  standard := by decide
  one_question := by decide
  question_length := rfl
  class_in := by decide

/-- The names `a.b` and, with a NUL byte behind the letter, `a`. -/
def sample_name : dns_name := ⟨[[0x61], [0x62]], by decide, by decide⟩

def sample_nul_name : dns_name := ⟨[[0x61, 0x00]], by decide, by decide⟩

/-- ClientHellos for them. -/
def sample_client_hello : client_hello where
  version_random := 3 :: 3 :: List.replicate 32 0
  session_id := []
  cipher_suites := [0x13, 0x01]
  compression_methods := [0]
  before := []
  names_before := []
  host_name := sample_name.text
  names_after := []
  after := []
  version_random_length := rfl
  session_id_length := by decide
  cipher_suites_length := by decide
  cipher_suites_even := rfl
  compression_methods_length := by decide
  other_extensions := by simp
  other_names := by simp
  extensions_length := by decide

def sample_nul_hello : client_hello :=
  { sample_client_hello with
    host_name := sample_nul_name.text
    extensions_length := by decide }

/-- The record that a ClientHello is sent in. -/
def hello_record (hello : client_hello) (h : hello.encode.length < 65536) : tls_record where
  version := (3, 1)
  payload := hello.encode
  payload_ne := by simp [client_hello.encode]
  payload_lt := h

theorem sends_record (hello : client_hello) (h : hello.encode.length < 65536) :
    Sends hello [(hello_record hello h).encode] :=
  ⟨[hello_record hello h], [], by simp [hello_record], by simp⟩

/-- Every look-up finds an address. -/
def sample_getaddrinfo (_ : c_string) : Option UInt32 := some 0x5DB8D822

theorem same_verdict_sample :
    (Refused sample_getaddrinfo {} [c_str "b"] (sample_query sample_name) ↔
        decided_state [c_str "b"] {} [(hello_record sample_client_hello (by decide)).encode]
          = TLS_FLOW_BLOCK) :=
  (same_verdict_iff sample_getaddrinfo {} (by decide) sample_name (by decide)
    (sample_query sample_name) sample_client_hello rfl (sends_record _ (by decide)) {}).mpr
    (.inl ⟨by decide, by decide⟩)

/-- **A NUL byte separates the two paths**: under a rule for `b` the query is answered with
the address of `a`, and the ClientHello with the same bytes blocks its flow. -/
theorem nul_byte_resolved :
    Sends sample_nul_hello [(hello_record sample_nul_hello (by decide)).encode] ∧
      sample_nul_hello.host_name = sample_nul_name.text ∧
      ¬ (Refused sample_getaddrinfo {} [c_str "b"] (sample_query sample_nul_name) ↔
        decided_state [c_str "b"] {} [(hello_record sample_nul_hello (by decide)).encode]
          = TLS_FLOW_BLOCK) := by
  refine ⟨sends_record _ _, rfl, fun hsame => ?_⟩
  have hblock : decided_state [c_str "b"] {}
      [(hello_record sample_nul_hello (by decide)).encode] = TLS_FLOW_BLOCK := by
    decide +kernel
  obtain ⟨response, hresponse, hrcode⟩ := hsame.mpr hblock
  have hanswered : (build_dns_response sample_getaddrinfo {} [c_str "b"]
      (sample_query sample_nul_name).encode true PORTAL_DNS_PACKET_SIZE).map rcode = some 0 := by
    decide +kernel
  rw [hresponse, Option.map_some, hrcode] at hanswered
  revert hanswered
  decide

end WifiManager.CaptivePortal
