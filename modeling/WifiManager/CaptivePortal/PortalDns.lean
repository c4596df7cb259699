/-
`components/captive_portal/portal_dns.c`: the question of a DNS request and the response.

`parse_dns_question` writes the labels of a name into a buffer, with dots between them and a
terminator behind them. A label may hold any bytes, so the text that the rest of the file
reads from the buffer can end earlier, at the first NUL byte (`CString.of_buffer`). The network
stack is a parameter: `getaddrinfo` is the address that a look-up of a name gives, if any.
-/
import Mathlib.Data.List.Basic
import WifiManager.AccessFilter.Hostname
import WifiManager.AccessFilter.Packet
import WifiManager.Lib.CString

set_option autoImplicit false

namespace WifiManager.CaptivePortal

open WifiManager.Lib
open WifiManager.AccessFilter (field16 access_filter_is_hostname_blocked dot)
open WifiManager.TlsSniParser (tolower)

/-! ## Constants and types -/

abbrev PORTAL_DNS_PACKET_SIZE : ℕ := 512
abbrev DNS_HEADER_SIZE : ℕ := 12
abbrev DNS_TYPE_A : UInt16 := 1
abbrev DNS_CLASS_IN : UInt16 := 1
abbrev DNS_FLAG_RESPONSE : UInt16 := 0x8000
abbrev DNS_FLAG_AUTHORITATIVE : UInt16 := 0x0400
abbrev DNS_FLAG_RECURSION_DESIRED : UInt16 := 0x0100
abbrev DNS_FLAG_RECURSION_AVAILABLE : UInt16 := 0x0080
abbrev DNS_OPCODE_MASK : UInt16 := 0x7800
abbrev DNS_RCODE_SERVER_FAILURE : UInt16 := 2
abbrev DNS_NAME_POINTER : UInt16 := 0xC00C
abbrev DNS_RCODE_REFUSED : UInt16 := 5
abbrev PORTAL_DNS_TTL_SECONDS : UInt32 := 5

/-- `sizeof(domain_name)` in `build_dns_response`. -/
abbrev DOMAIN_NAME_SIZE : ℕ := 256

/-- The static variables of `portal_dns.c` that a response depends on. -/
structure portal_dns_t where
  s_portal_ipv4 : UInt32 := 0
  s_external_portal_domain : c_string := []
  s_external_portal_ipv4 : UInt32 := 0
  s_external_portal_enabled : Bool := false

/-- What `parse_dns_question` reads: the bytes it writes in front of the terminator, and
where the question ends. -/
structure dns_question where
  domain_name : List UInt8
  question_end : ℕ
  query_type : UInt16
  query_class : UInt16
  deriving DecidableEq, Repr

/-- `strcasecmp(left, right) == 0`. -/
def strcasecmp_equal (left right : c_string) : Bool :=
  decide (left.map tolower = right.map tolower)

/-- The bytes of a 16-bit value in network order. -/
def network16 (value : UInt16) : List UInt8 := [(value >>> 8).toUInt8, value.toUInt8]

/-- The bytes of a 32-bit value in network order. -/
def network32 (value : UInt32) : List UInt8 :=
  network16 (value >>> 16).toUInt16 ++ network16 value.toUInt16

/-! ## The question -/

/-- The loop over the labels, from an offset and with the name written so far. -/
def read_labels (packet : List UInt8) (domain_name_size packet_offset : ℕ)
    (domain_name : List UInt8) : Except esp_err_t (List UInt8 × ℕ) :=
  if packet_offset < packet.length then
    let label_length := packet.getD packet_offset 0
    let label_offset := packet_offset + 1
    if label_length = 0 then .ok (domain_name, label_offset)
    -- a compressed name is not handled
    else if label_length &&& 0xC0 ≠ 0 then .error .ESP_ERR_NOT_SUPPORTED
    else if label_length > 63 ∨ label_offset + label_length.toNat > packet.length then
      .error .ESP_ERR_INVALID_SIZE
    else if domain_name.length > 0 ∧ domain_name.length + 1 ≥ domain_name_size then
      .error .ESP_ERR_INVALID_SIZE
    else
      -- a dot in front of every label but the first
      let domain_name := if domain_name.length > 0 then domain_name ++ [dot] else domain_name
      -- room for the terminator is kept
      if domain_name.length + label_length.toNat ≥ domain_name_size then
        .error .ESP_ERR_INVALID_SIZE
      else
        read_labels packet domain_name_size (label_offset + label_length.toNat)
          (domain_name ++ (packet.drop label_offset).take label_length.toNat)
  -- the packet is over without an empty label: the caller has no room for type and class
  else .ok (domain_name, packet_offset)
  termination_by packet.length - packet_offset

/-- `parse_dns_question`, for pointers that are not NULL. -/
def parse_dns_question (packet : List UInt8) (domain_name_size : ℕ) :
    Except esp_err_t dns_question :=
  if packet.length < DNS_HEADER_SIZE then .error .ESP_ERR_INVALID_SIZE
  else
    let request_flags := field16 packet 2
    -- standard requests only, no responses
    if request_flags &&& DNS_FLAG_RESPONSE ≠ 0 ∨ request_flags &&& DNS_OPCODE_MASK ≠ 0 then
      .error .ESP_ERR_NOT_SUPPORTED
    else if field16 packet 4 ≠ 1 then .error .ESP_ERR_NOT_SUPPORTED
    else
      match read_labels packet domain_name_size DNS_HEADER_SIZE [] with
      | .error err => .error err
      | .ok (domain_name, packet_offset) =>
          -- not reached: each label was checked to be inside the packet
          if packet_offset > packet.length then .error .ESP_ERR_INVALID_SIZE
          else if packet_offset + 4 > packet.length then .error .ESP_ERR_INVALID_SIZE
          else
            .ok
              { domain_name := domain_name
                question_end := packet_offset + 4
                query_type := field16 packet packet_offset
                query_class := field16 packet (packet_offset + 2) }

/-! ## The response -/

section Response

variable (getaddrinfo : c_string → Option UInt32)

/-- `resolve_authorized_ipv4`. -/
def resolve_authorized_ipv4 (domain_name : c_string) : Except esp_err_t UInt32 :=
  if domain_name = [] then .error .ESP_ERR_INVALID_ARG
  else
    match getaddrinfo domain_name with
    | none => .error .ESP_FAIL
    -- an answer without an address counts as a failure
    | some address => if address = 0 then .error .ESP_FAIL else .ok address

/-- The chain of conditions in `build_dns_response`: `answer_ipv4`, where
`has_ipv4_answer`, and `response_code`. -/
def choose_answer (portal : portal_dns_t) (rules : List c_string) (domain_name : c_string)
    (query_type query_class : UInt16) (client_authorized : Bool) : Option UInt32 × UInt16 :=
  -- the portal's domain keeps its address, authorized or not, and is not asked of the rules
  if query_type = DNS_TYPE_A ∧ query_class = DNS_CLASS_IN ∧
      portal.s_external_portal_enabled = true ∧
      strcasecmp_equal domain_name portal.s_external_portal_domain = true then
    (some portal.s_external_portal_ipv4, 0)
  -- rules are for authorized clients only, the others have to find the portal
  else if client_authorized = true ∧ query_class = DNS_CLASS_IN ∧
      access_filter_is_hostname_blocked rules domain_name = true then
    (none, DNS_RCODE_REFUSED)
  else if query_type = DNS_TYPE_A ∧ query_class = DNS_CLASS_IN then
    -- every name leads a client that is not authorized to the portal
    if client_authorized = false then (some portal.s_portal_ipv4, 0)
    else
      match resolve_authorized_ipv4 getaddrinfo domain_name with
      | .ok address => (some address, 0)
      | .error _ => (none, DNS_RCODE_SERVER_FAILURE)
  else (none, 0)

/-- `response_flags`. -/
def response_flags (request_flags : UInt16) (client_authorized : Bool)
    (response_code : UInt16) : UInt16 :=
  DNS_FLAG_RESPONSE ||| (request_flags &&& DNS_FLAG_RECURSION_DESIRED) |||
    (if client_authorized = true then DNS_FLAG_RECURSION_AVAILABLE else DNS_FLAG_AUTHORITATIVE) |||
    response_code

/-- `dns_answer_a_t`, as it is sent. -/
def dns_answer_a (ipv4 : UInt32) : List UInt8 :=
  network16 DNS_NAME_POINTER ++ network16 DNS_TYPE_A ++ network16 DNS_CLASS_IN ++
    network32 PORTAL_DNS_TTL_SECONDS ++ network16 4 ++ network32 ipv4

/-- The last part of `build_dns_response`: the bytes of the response, `none` for a negative
length. -/
def write_response (request : List UInt8) (question_end : ℕ) (flags : UInt16)
    (answer : Option UInt32) (response_capacity : ℕ) : Option (List UInt8) :=
  -- the identifier and the question are those of the request
  let response := request.take 2 ++ network16 flags ++
    (network16 1 ++ network16 (if answer.isSome = true then 1 else 0) ++ network16 0 ++
      network16 0 ++ (request.take question_end).drop DNS_HEADER_SIZE)
  match answer with
  | none => some response
  | some ipv4 =>
      -- additional records of the request are not kept, the answer is the last part
      if question_end + (dns_answer_a ipv4).length > response_capacity then none
      else some (response ++ dns_answer_a ipv4)

/-- `build_dns_response`. -/
def build_dns_response (portal : portal_dns_t) (rules : List c_string) (request : List UInt8)
    (client_authorized : Bool) (response_capacity : ℕ) : Option (List UInt8) :=
  match parse_dns_question request DOMAIN_NAME_SIZE with
  | .error _ => none
  | .ok question =>
      if question.question_end > response_capacity then none
      else
        let (answer, response_code) := choose_answer getaddrinfo portal rules
          (CString.of_buffer question.domain_name) question.query_type question.query_class
          client_authorized
        let flags := response_flags (field16 request 2) client_authorized response_code
        write_response request question.question_end flags answer response_capacity

end Response

/-- The RCODE of a message: the low four bits of its flags. -/
def rcode (message : List UInt8) : UInt8 := message.getD 3 0 &&& 0x0F

/-! ## Names and queries -/

/-- Labels with dots between them. -/
def dotted : List (List UInt8) → List UInt8
  | [] => []
  | label :: labels => label ++ labels.flatMap (dot :: ·)

/-- A domain name: labels of one to sixty-three bytes, any bytes, whose text has at most
255. -/
structure dns_name where
  labels : List (List UInt8)
  label_length : ∀ label ∈ labels, 1 ≤ label.length ∧ label.length ≤ 63
  text_length : (dotted labels).length ≤ 255

/-- The text of a name. -/
def dns_name.text (name : dns_name) : List UInt8 := dotted name.labels

/-- Labels in a message, each behind its length, and the empty label that ends a name. -/
def encode_labels (labels : List (List UInt8)) : List UInt8 :=
  labels.flatMap (fun label => UInt8.ofNat label.length :: label) ++ [0]

/-- A standard query of class IN for a name: one question, with whatever comes behind it. -/
structure dns_query (name : dns_name) where
  header : List UInt8
  question : List UInt8
  additional : List UInt8
  header_length : header.length = DNS_HEADER_SIZE
  request : field16 header 2 &&& DNS_FLAG_RESPONSE = 0
  standard : field16 header 2 &&& DNS_OPCODE_MASK = 0
  one_question : field16 header 4 = 1
  question_length : question.length = 4
  class_in : field16 question 2 = DNS_CLASS_IN

/-- The message. -/
def dns_query.encode {name : dns_name} (query : dns_query name) : List UInt8 :=
  query.header ++ (encode_labels name.labels ++ (query.question ++ query.additional))

/-- The type asked for. -/
def dns_query.query_type {name : dns_name} (query : dns_query name) : UInt16 :=
  field16 query.question 0

theorem field16_append_left {front : List UInt8} {offset : ℕ} (h : offset + 1 < front.length)
    (back : List UInt8) : field16 (front ++ back) offset = field16 front offset := by
  unfold field16
  simp only [List.getD_eq_getElem?_getD]
  rw [List.getElem?_append_left (by omega), List.getElem?_append_left h]

theorem field16_append_right (front back : List UInt8) (offset : ℕ) :
    field16 (front ++ back) (front.length + offset) = field16 back offset := by
  unfold field16
  simp only [List.getD_eq_getElem?_getD]
  rw [List.getElem?_append_right (by omega), List.getElem?_append_right (by omega),
    show front.length + offset - front.length = offset by omega,
    show front.length + offset + 1 - front.length = offset + 1 by omega]

/-- The length byte of a label. -/
theorem label_length_byte {n : ℕ} (hpos : 1 ≤ n) (hle : n ≤ 63) :
    UInt8.ofNat n ≠ 0 ∧ UInt8.ofNat n &&& 0xC0 = 0 ∧ ¬ UInt8.ofNat n > 63 ∧
      (UInt8.ofNat n).toNat = n := by
  have hbyte : ∀ n : Fin 64, 1 ≤ n.val → UInt8.ofNat n.val ≠ 0 ∧
      UInt8.ofNat n.val &&& 0xC0 = 0 ∧ ¬ UInt8.ofNat n.val > 63 ∧
      (UInt8.ofNat n.val).toNat = n.val := by
    decide
  exact hbyte ⟨n, by omega⟩ hpos

/-- What the buffer holds behind more labels. -/
def append_labels (domain_name : List UInt8) (labels : List (List UInt8)) : List UInt8 :=
  if domain_name = [] then dotted labels else domain_name ++ labels.flatMap (dot :: ·)

theorem append_labels_cons (domain_name : List UInt8) {label : List UInt8} (hlabel : label ≠ [])
    (labels : List (List UInt8)) :
    append_labels domain_name (label :: labels)
      = append_labels
          ((if domain_name.length > 0 then domain_name ++ [dot] else domain_name) ++ label)
          labels := by
  by_cases hempty : domain_name = []
  · subst hempty
    simp [append_labels, dotted, hlabel]
  · have hpos : domain_name.length > 0 := List.length_pos_iff.mpr hempty
    rw [if_pos hpos, append_labels, append_labels, if_neg hempty, if_neg (by simp)]
    simp

/-- **Reading labels**, from any offset and behind any name. The induction is on the labels;
the bound on the whole name keeps every check of the buffer's size quiet. -/
theorem read_labels_encode (labels : List (List UInt8)) (front back domain_name : List UInt8)
    (domain_name_size : ℕ)
    (hlength : ∀ label ∈ labels, 1 ≤ label.length ∧ label.length ≤ 63)
    (hfits : (append_labels domain_name labels).length < domain_name_size) :
    read_labels (front ++ (encode_labels labels ++ back)) domain_name_size front.length
        domain_name
      = .ok (append_labels domain_name labels,
          front.length + (encode_labels labels).length) := by
  induction labels generalizing front domain_name with
  | nil =>
      have hend : append_labels domain_name [] = domain_name := by
        unfold append_labels
        split_ifs with hempty
        · rw [hempty]
          rfl
        · rw [List.flatMap_nil, List.append_nil]
      rw [read_labels, hend, if_pos (by simp [encode_labels])]
      simp [encode_labels]
  | cons label labels ih =>
      obtain ⟨hpos, hle⟩ := hlength label List.mem_cons_self
      obtain ⟨hnz, hplain, hsmall, hnat⟩ := label_length_byte hpos hle
      have hlabel : label ≠ [] := List.length_pos_iff.mp hpos
      rw [append_labels_cons domain_name hlabel labels] at hfits ⊢
      generalize hkept : (if domain_name.length > 0 then domain_name ++ [dot] else domain_name)
        = kept at hfits ⊢
      have hlong : kept.length + label.length ≤ (append_labels (kept ++ label) labels).length := by
        rw [append_labels, if_neg (by simp [hlabel]), List.length_append, List.length_append]
        omega
      -- the packet cut behind the label
      have hpacket : front ++ (encode_labels (label :: labels) ++ back)
          = (front ++ UInt8.ofNat label.length :: label) ++ (encode_labels labels ++ back) := by
        simp [encode_labels]
      have hcut : (front ++ UInt8.ofNat label.length :: label).length
          = front.length + 1 + label.length := by
        rw [List.length_append, List.length_cons]
        omega
      have hbyte : (front ++ (encode_labels (label :: labels) ++ back)).getD front.length 0
          = UInt8.ofNat label.length := by
        simp [encode_labels, List.getD_eq_getElem?_getD]
      have hbytes : ((front ++ (encode_labels (label :: labels) ++ back)).drop
          (front.length + 1)).take label.length = label := by
        rw [← List.drop_drop, List.drop_left]
        simp [encode_labels]
      have hlength' : front.length + 1 + label.length
          ≤ (front ++ (encode_labels (label :: labels) ++ back)).length := by
        rw [hpacket, List.length_append, hcut]
        omega
      have hrest := ih (front ++ UInt8.ofNat label.length :: label) _
        (fun l hl => hlength l (List.mem_cons_of_mem _ hl)) hfits
      rw [← hpacket, hcut] at hrest
      rw [read_labels, if_pos (by omega)]
      simp only [hbyte, hnat, hbytes, hkept]
      rw [if_neg hnz, if_neg (not_not.mpr hplain), if_neg (not_or.mpr ⟨hsmall, by omega⟩),
        if_neg ?_, if_neg (by omega), hrest]
      · congr 2
        simp only [encode_labels, List.flatMap_cons, List.length_append, List.length_cons]
        omega
      · rintro ⟨hsome, hfull⟩
        have hdot : kept.length = domain_name.length + 1 := by
          rw [← hkept, if_pos hsome, List.length_append, List.length_singleton]
        omega

/-- **The question of a query** is read as the query has it. -/
theorem parse_dns_question_encode {name : dns_name} (query : dns_query name) :
    parse_dns_question query.encode DOMAIN_NAME_SIZE
      = .ok
          { domain_name := name.text
            question_end := DNS_HEADER_SIZE + (encode_labels name.labels).length + 4
            query_type := query.query_type
            query_class := DNS_CLASS_IN } := by
  have htext := name.text_length
  have hlength : query.encode.length = DNS_HEADER_SIZE + ((encode_labels name.labels).length
      + (4 + query.additional.length)) := by
    rw [dns_query.encode, List.length_append, List.length_append, List.length_append,
      query.header_length, query.question_length]
  have hheader : ∀ offset, offset + 1 < DNS_HEADER_SIZE →
      field16 query.encode offset = field16 query.header offset := by
    intro offset hoffset
    exact field16_append_left (by rw [query.header_length]; exact hoffset) _
  have hlabels := read_labels_encode name.labels query.header
    (query.question ++ query.additional) [] DOMAIN_NAME_SIZE name.label_length
    (by rw [append_labels, if_pos rfl]; exact Nat.lt_of_le_of_lt htext (by decide))
  rw [append_labels, if_pos rfl, query.header_length] at hlabels
  -- the four bytes behind the name
  have hquestion : ∀ offset, offset + 1 < 4 →
      field16 query.encode (DNS_HEADER_SIZE + (encode_labels name.labels).length + offset)
        = field16 query.question offset := by
    intro offset hoffset
    rw [dns_query.encode, Nat.add_assoc, ← query.header_length, field16_append_right,
      field16_append_right,
      field16_append_left (by rw [query.question_length]; exact hoffset)]
  unfold parse_dns_question
  rw [if_neg (by omega)]
  simp only [hheader 2 (by decide), hheader 4 (by decide), query.request, query.standard,
    query.one_question]
  rw [if_neg (by simp), if_neg (by simp), show query.encode = query.header ++
    (encode_labels name.labels ++ (query.question ++ query.additional)) from rfl, hlabels]
  rw [show query.header ++ (encode_labels name.labels ++ (query.question ++ query.additional))
    = query.encode from rfl]
  dsimp only
  rw [if_neg (by omega), if_neg (by omega)]
  have htype := hquestion 0 (by decide)
  rw [Nat.add_zero] at htype
  rw [htype, hquestion 2 (by decide), query.class_in]
  rfl

/-! ## The RCODE of a response -/

/-- A name takes two bytes more on the wire than its text, or one. -/
theorem encode_labels_length_le (labels : List (List UInt8)) :
    (encode_labels labels).length ≤ (dotted labels).length + 2 := by
  have hflat : ∀ labels : List (List UInt8),
      (labels.flatMap (fun label => UInt8.ofNat label.length :: label)).length
        = (labels.flatMap (dot :: ·)).length := by
    intro labels
    induction labels with
    | nil => rfl
    | cons label labels ih =>
        rw [List.flatMap_cons, List.flatMap_cons, List.length_append, List.length_append, ih]
        rfl
  cases labels with
  | nil => decide
  | cons label labels =>
      rw [encode_labels, List.flatMap_cons, dotted, List.length_append, List.length_append,
        List.length_append, hflat, List.length_cons, List.length_singleton]
      omega

theorem or_and_of_and_eq_zero {high mask : UInt8} (h : high &&& mask = 0) (low : UInt8) :
    (high ||| low) &&& mask = low &&& mask := by
  have hbits : high.toBitVec &&& mask.toBitVec = 0 := congrArg UInt8.toBitVec h
  rw [← UInt8.toBitVec_inj, UInt8.toBitVec_and, UInt8.toBitVec_or, UInt8.toBitVec_and,
    BitVec.and_or_distrib_right, hbits]
  exact BitVec.zero_or

/-- The response code is in the low four bits of the flags, and nothing else is. -/
theorem response_flags_low (request_flags : UInt16) (client_authorized : Bool)
    (response_code : UInt16) :
    (response_flags request_flags client_authorized response_code).toUInt8 &&& 0x0F
      = response_code.toUInt8 &&& 0x0F := by
  have hdesired : (request_flags &&& DNS_FLAG_RECURSION_DESIRED).toUInt8 = 0 := by
    rw [UInt16.toUInt8_and]
    exact UInt8.and_zero
  unfold response_flags
  rw [UInt16.toUInt8_or, UInt16.toUInt8_or, UInt16.toUInt8_or, hdesired]
  refine or_and_of_and_eq_zero ?_ _
  cases client_authorized <;> decide

section Verdict

variable (getaddrinfo : c_string → Option UInt32) {portal : portal_dns_t}
  {rules : List c_string}

/-- A response with room for an answer is written, and its RCODE is that of the flags. -/
theorem rcode_write_response {request : List UInt8} (h : 2 ≤ request.length) {question_end : ℕ}
    {response_capacity : ℕ} (hroom : question_end + 16 ≤ response_capacity) (flags : UInt16)
    (answer : Option UInt32) :
    ∃ response, write_response request question_end flags answer response_capacity
        = some response ∧ rcode response = flags.toUInt8 &&& 0x0F := by
  have htake : (request.take 2).length = 2 := by
    rw [List.length_take]
    omega
  have hflags : ∀ rest, rcode (request.take 2 ++ network16 flags ++ rest)
      = flags.toUInt8 &&& 0x0F := by
    intro rest
    unfold rcode
    rw [List.append_assoc, List.getD_eq_getElem?_getD,
      List.getElem?_append_right (by omega), htake]
    rfl
  unfold write_response
  cases answer with
  | none => exact ⟨_, rfl, hflags _⟩
  | some ipv4 =>
      have hanswer : (dns_answer_a ipv4).length = 16 := rfl
      dsimp only
      rw [if_neg (by omega), List.append_assoc]
      exact ⟨_, rfl, hflags _⟩

/-- The response codes there are. -/
theorem choose_answer_code (portal : portal_dns_t) (rules : List c_string)
    (domain_name : c_string) (query_type query_class : UInt16) (client_authorized : Bool) :
    (choose_answer getaddrinfo portal rules domain_name query_type query_class
        client_authorized).2 ∈ [0, DNS_RCODE_REFUSED, DNS_RCODE_SERVER_FAILURE] := by
  unfold choose_answer
  split_ifs
  · simp
  · simp
  · simp
  · cases resolve_authorized_ipv4 getaddrinfo domain_name <;> simp
  · simp

/-- The name is answered with the address of the external portal. -/
def portal_answers (portal : portal_dns_t) (query_type : UInt16) (domain_name : c_string) :
    Bool :=
  decide (query_type = DNS_TYPE_A) && portal.s_external_portal_enabled &&
    strcasecmp_equal domain_name portal.s_external_portal_domain

/-- Which names are refused to an authorized client. -/
theorem choose_answer_refused (domain_name : c_string) (query_type : UInt16) :
    (choose_answer getaddrinfo portal rules domain_name query_type DNS_CLASS_IN true).2
        = DNS_RCODE_REFUSED ↔
      portal_answers portal query_type domain_name = false ∧
        access_filter_is_hostname_blocked rules domain_name = true := by
  have hportal : portal_answers portal query_type domain_name = true ↔
      query_type = DNS_TYPE_A ∧ DNS_CLASS_IN = DNS_CLASS_IN ∧
        portal.s_external_portal_enabled = true ∧
        strcasecmp_equal domain_name portal.s_external_portal_domain = true := by
    rw [portal_answers, Bool.and_eq_true, Bool.and_eq_true, decide_eq_true_eq]
    exact ⟨fun h => ⟨h.1.1, rfl, h.1.2, h.2⟩, fun h => ⟨⟨h.1, h.2.2.1⟩, h.2.2.2⟩⟩
  unfold choose_answer
  by_cases hanswers : portal_answers portal query_type domain_name = true
  · rw [if_pos (hportal.mp hanswers), hanswers]
    refine ⟨fun hcode => ?_, fun h => absurd h.1 (by decide)⟩
    cases hcode
  rw [if_neg (fun h => hanswers (hportal.mpr h)), Bool.not_eq_true _ |>.mp hanswers]
  by_cases hblocked : access_filter_is_hostname_blocked rules domain_name = true
  · rw [if_pos ⟨rfl, rfl, hblocked⟩]
    exact ⟨fun _ => ⟨rfl, hblocked⟩, fun _ => rfl⟩
  rw [if_neg (fun h => hblocked h.2.2)]
  refine ⟨fun hcode => ?_, fun h => absurd h.2 hblocked⟩
  -- the codes behind the rules are 0 and SERVER_FAILURE
  split_ifs at hcode with htype hunauthorized
  · cases hunauthorized
  · cases hresolve : resolve_authorized_ipv4 getaddrinfo domain_name with
    | ok address =>
        rw [hresolve] at hcode
        cases hcode
    | error err =>
        rw [hresolve] at hcode
        cases hcode
  · cases hcode

/-- The response to a query of an authorized client has the RCODE `REFUSED`. -/
def Refused (getaddrinfo : c_string → Option UInt32) (portal : portal_dns_t)
    (rules : List c_string) {name : dns_name} (query : dns_query name) : Prop :=
  ∃ response, build_dns_response getaddrinfo portal rules query.encode true
      PORTAL_DNS_PACKET_SIZE = some response ∧ rcode response = DNS_RCODE_REFUSED.toUInt8

/-- **Which queries are refused**: those of an authorized client for a name that the rules
block, read up to its first NUL byte, and that is not answered as the external portal. -/
theorem build_dns_response_refused {name : dns_name} (query : dns_query name) :
    Refused getaddrinfo portal rules query ↔
      portal_answers portal query.query_type (CString.of_buffer name.text) = false ∧
        access_filter_is_hostname_blocked rules (CString.of_buffer name.text) = true := by
  have htext := name.text_length
  have hsize := encode_labels_length_le name.labels
  have hroom : DNS_HEADER_SIZE + (encode_labels name.labels).length + 4 + 16
      ≤ PORTAL_DNS_PACKET_SIZE := by
    simp only [DNS_HEADER_SIZE, PORTAL_DNS_PACKET_SIZE]
    omega
  have hhead : 2 ≤ query.encode.length := by
    rw [dns_query.encode, List.length_append, query.header_length]
    exact Nat.le_add_right_of_le (by decide)
  have hcode := choose_answer_code getaddrinfo portal rules
    (CString.of_buffer name.text) query.query_type DNS_CLASS_IN true
  rw [← choose_answer_refused getaddrinfo]
  unfold Refused build_dns_response
  rw [parse_dns_question_encode]
  dsimp only
  rw [if_neg (by omega)]
  generalize choose_answer getaddrinfo portal rules (CString.of_buffer name.text)
    query.query_type DNS_CLASS_IN true = choice at hcode ⊢
  obtain ⟨answer, response_code⟩ := choice
  dsimp only at hcode ⊢
  obtain ⟨response, hresponse, hrcode⟩ := rcode_write_response hhead hroom
    (response_flags (field16 query.encode 2) true response_code) answer
  rw [response_flags_low] at hrcode
  rw [hresponse]
  constructor
  · rintro ⟨response', hsome, hrefused⟩
    rw [← Option.some.inj hsome, hrcode] at hrefused
    simp only [List.mem_cons, List.not_mem_nil, or_false] at hcode
    rcases hcode with rfl | rfl | rfl
    · exact absurd hrefused (by decide)
    · rfl
    · exact absurd hrefused (by decide)
  · rintro rfl
    exact ⟨response, rfl, hrcode⟩

end Verdict

end WifiManager.CaptivePortal
