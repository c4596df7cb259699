/-
The replies of the portal's DNS server.

`build_dns_response` puts a reply together from the request it answers. Three things follow from
its shape, for every request:

1. There is always room: a question that was read ends at byte 273 at the latest, so with a
   buffer of 512 bytes only a request that cannot be read stays without a reply.
2. The reply is a DNS message that repeats the question and has one record or none behind it
   (`WellFormed`): `write_response_spec` reads each field back.
3. A client that is not authorized learns nothing from the rules and from the resolver, since
   `choose_answer` asks neither of them (`choose_answer_unauthorized`).
-/
import WifiManager.CaptivePortal.Question

set_option autoImplicit false

namespace WifiManager.CaptivePortal

open WifiManager.Lib
open WifiManager.AccessFilter (field16)
open WifiManager.TlsSniParser (tolower)

/-! ## Fields -/

/-- A 16-bit value is read as it was written. -/
theorem field16_network16 (value : UInt16) (back : List UInt8) :
    field16 (network16 value ++ back) 0 = value := by
  have hlt := value.toNat_lt
  have hlow : value.toNat % 256 < 2 ^ 8 := Nat.mod_lt _ (by decide)
  have hor := Nat.shiftLeft_add_eq_or_of_lt hlow (value.toNat / 256)
  simp only [Nat.shiftLeft_eq, Nat.reducePow] at hor
  apply UInt16.toNat_inj.mp
  simp only [field16, network16, List.cons_append, List.nil_append, List.getD_cons_zero,
    List.getD_cons_succ, UInt16.toNat_or, UInt16.toNat_shiftLeft, UInt8.toNat_toUInt16,
    UInt16.toNat_toUInt8, UInt16.toNat_shiftRight, UInt16.reduceToNat, Nat.shiftLeft_eq,
    Nat.shiftRight_eq_div_pow, Nat.reduceMod, Nat.reducePow]
  rw [Nat.mod_eq_of_lt (by omega : value.toNat / 256 < 256),
    Nat.mod_eq_of_lt (by omega : value.toNat / 256 * 256 < 65536)]
  omega

/-- Fields behind one another. -/
theorem field16_network16_append (value : UInt16) (back : List UInt8) (offset : ℕ) :
    field16 (network16 value ++ back) (2 + offset) = field16 back offset :=
  field16_append_right (network16 value) back offset

theorem and_recursion_desired (flags : UInt16) :
    flags &&& DNS_FLAG_RECURSION_DESIRED = 0 ∨
      flags &&& DNS_FLAG_RECURSION_DESIRED = DNS_FLAG_RECURSION_DESIRED := by
  have hbit := BitVec.and_twoPow flags.toBitVec 8
  by_cases hset : flags.toBitVec.getLsbD 8 = true
  · rw [if_pos hset] at hbit
    exact .inr (UInt16.toBitVec_inj.mp hbit)
  · rw [if_neg hset] at hbit
    exact .inl (UInt16.toBitVec_inj.mp hbit)

/-- The flags of a reply: a response to a standard query that keeps the wish for recursion. -/
theorem response_flags_spec (request_flags : UInt16) (client_authorized : Bool)
    {response_code : UInt16}
    (hcode : response_code ∈ [0, DNS_RCODE_REFUSED, DNS_RCODE_SERVER_FAILURE]) :
    response_flags request_flags client_authorized response_code &&& DNS_FLAG_RESPONSE ≠ 0 ∧
      response_flags request_flags client_authorized response_code &&& DNS_OPCODE_MASK = 0 ∧
      response_flags request_flags client_authorized response_code &&& DNS_FLAG_RECURSION_DESIRED
        = request_flags &&& DNS_FLAG_RECURSION_DESIRED := by
  unfold response_flags
  simp only [List.mem_cons, List.not_mem_nil, or_false] at hcode
  rcases and_recursion_desired request_flags with hdesired | hdesired
  · rw [hdesired]
    rcases hcode with rfl | rfl | rfl <;> cases client_authorized <;> decide
  · rw [hdesired]
    rcases hcode with rfl | rfl | rfl <;> cases client_authorized <;> decide

/-! ## The reply -/

/-- A record at an offset of a message, up to its end: class IN, type A, with the name that
begins at another offset. -/
structure IsAnswerA (message : List UInt8) (offset name_offset : ℕ) (ipv4 : UInt32) : Prop where
  compressed : field16 message offset &&& 0xC000 = 0xC000
  name : (field16 message offset &&& 0x3FFF).toNat = name_offset
  type_a : field16 message (offset + 2) = DNS_TYPE_A
  class_in : field16 message (offset + 4) = DNS_CLASS_IN
  data_length : field16 message (offset + 10) = 4
  data : message.drop (offset + 12) = network32 ipv4

/-- A reply to the question that ends at an offset of the request. -/
structure WellFormed (request response : List UInt8) (question_end : ℕ) : Prop where
  length_le : response.length ≤ PORTAL_DNS_PACKET_SIZE
  id : response.take 2 = request.take 2
  is_response : field16 response 2 &&& DNS_FLAG_RESPONSE ≠ 0
  standard : field16 response 2 &&& DNS_OPCODE_MASK = 0
  recursion_desired : field16 response 2 &&& DNS_FLAG_RECURSION_DESIRED
    = field16 request 2 &&& DNS_FLAG_RECURSION_DESIRED
  one_question : field16 response 4 = 1
  question : (response.take question_end).drop DNS_HEADER_SIZE
    = (request.take question_end).drop DNS_HEADER_SIZE
  answers : (field16 response 6 = 0 ∧ response.length = question_end) ∨
    (field16 response 6 = 1 ∧ rcode response = 0 ∧
      ∃ ipv4, IsAnswerA response question_end DNS_HEADER_SIZE ipv4)
  no_authority : field16 response 8 = 0
  no_additional : field16 response 10 = 0

/-- The header of a reply and the question. -/
def reply_head (request : List UInt8) (question_end : ℕ) (flags answer_count : UInt16) :
    List UInt8 :=
  request.take 2 ++ (network16 flags ++ (network16 1 ++ (network16 answer_count ++
    (network16 0 ++ (network16 0 ++ (request.take question_end).drop DNS_HEADER_SIZE)))))

section Head

variable {request : List UInt8} {question_end : ℕ} (hstart : DNS_HEADER_SIZE ≤ question_end)
  (hend : question_end ≤ request.length) (flags answer_count : UInt16)

include hstart hend

theorem reply_head_length :
    (reply_head request question_end flags answer_count).length = question_end := by
  have hnetwork : ∀ value, (network16 value).length = 2 := fun _ => rfl
  simp only [reply_head, List.length_append, hnetwork, List.length_take, List.length_drop]
  simp only [DNS_HEADER_SIZE] at hstart ⊢
  omega

/-- **The fields of a header** that was written. -/
theorem reply_head_fields (back : List UInt8) :
    (reply_head request question_end flags answer_count ++ back).take 2 = request.take 2 ∧
      field16 (reply_head request question_end flags answer_count ++ back) 2 = flags ∧
      field16 (reply_head request question_end flags answer_count ++ back) 4 = 1 ∧
      field16 (reply_head request question_end flags answer_count ++ back) 6 = answer_count ∧
      field16 (reply_head request question_end flags answer_count ++ back) 8 = 0 ∧
      field16 (reply_head request question_end flags answer_count ++ back) 10 = 0 ∧
      ((reply_head request question_end flags answer_count ++ back).take question_end).drop
          DNS_HEADER_SIZE
        = (request.take question_end).drop DNS_HEADER_SIZE := by
  have hid : (request.take 2).length = 2 := by
    rw [List.length_take]
    simp only [DNS_HEADER_SIZE] at hstart
    omega
  have hskip : ∀ (rest : List UInt8) (offset : ℕ),
      field16 (request.take 2 ++ rest) (2 + offset) = field16 rest offset := by
    intro rest offset
    have h := field16_append_right (request.take 2) rest offset
    rwa [hid] at h
  have hlength := reply_head_length hstart hend flags answer_count
  refine ⟨?_, ?_, ?_, ?_, ?_, ?_, ?_⟩
  · rw [reply_head, List.append_assoc]
    exact List.take_left' hid
  · simp only [reply_head, List.append_assoc]
    rw [hskip _ 0, field16_network16]
  · simp only [reply_head, List.append_assoc]
    rw [hskip _ 2, field16_network16_append _ _ 0, field16_network16]
  · simp only [reply_head, List.append_assoc]
    rw [hskip _ 4, field16_network16_append _ _ 2, field16_network16_append _ _ 0,
      field16_network16]
  · simp only [reply_head, List.append_assoc]
    rw [hskip _ 6, field16_network16_append _ _ 4, field16_network16_append _ _ 2,
      field16_network16_append _ _ 0, field16_network16]
  · simp only [reply_head, List.append_assoc]
    rw [hskip _ 8, field16_network16_append _ _ 6, field16_network16_append _ _ 4,
      field16_network16_append _ _ 2, field16_network16_append _ _ 0, field16_network16]
  · have hheader : (request.take 2 ++ (network16 flags ++ (network16 1 ++
        (network16 answer_count ++ (network16 0 ++ network16 0))))).length = DNS_HEADER_SIZE := by
      rw [List.length_append, hid]
      rfl
    rw [List.take_left' hlength]
    simpa only [reply_head, List.append_assoc] using List.drop_left' hheader

/-- With flags of a response, a header and what its count announces are well-formed. -/
theorem wellFormed_reply_head {back : List UInt8} (hresponse : flags &&& DNS_FLAG_RESPONSE ≠ 0)
    (hstandard : flags &&& DNS_OPCODE_MASK = 0)
    (hdesired : flags &&& DNS_FLAG_RECURSION_DESIRED
      = field16 request 2 &&& DNS_FLAG_RECURSION_DESIRED)
    (hroom : question_end + back.length ≤ PORTAL_DNS_PACKET_SIZE)
    (hanswers : (answer_count = 0 ∧ back = []) ∨
      (answer_count = 1 ∧ rcode (reply_head request question_end flags answer_count ++ back) = 0 ∧
        ∃ ipv4, IsAnswerA (reply_head request question_end flags answer_count ++ back)
          question_end DNS_HEADER_SIZE ipv4)) :
    WellFormed request (reply_head request question_end flags answer_count ++ back)
      question_end := by
  obtain ⟨hid, hflags, hone, hcount, hauthority, hadditional, hquestion⟩ :=
    reply_head_fields hstart hend flags answer_count back
  have hlength : (reply_head request question_end flags answer_count ++ back).length
      = question_end + back.length := by
    rw [List.length_append, reply_head_length hstart hend]
  refine ⟨?_, hid, ?_, ?_, ?_, hone, hquestion, ?_, hauthority, hadditional⟩
  · rw [hlength]
    exact hroom
  · rw [hflags]
    exact hresponse
  · rw [hflags]
    exact hstandard
  · rw [hflags]
    exact hdesired
  · rw [hcount, hlength]
    refine hanswers.imp ?_ id
    rintro ⟨hnone, rfl⟩
    exact ⟨hnone, Nat.add_zero question_end⟩

end Head

/-- A record behind a message. -/
theorem isAnswerA_append (front : List UInt8) (ipv4 : UInt32) :
    IsAnswerA (front ++ dns_answer_a ipv4) front.length DNS_HEADER_SIZE ipv4 := by
  -- the address apart, the record is always the same
  have hfield : ∀ offset, offset + 1 < 12 →
      field16 (front ++ dns_answer_a ipv4) (front.length + offset)
        = field16 (network16 DNS_NAME_POINTER ++ network16 DNS_TYPE_A ++ network16 DNS_CLASS_IN ++
          network32 PORTAL_DNS_TTL_SECONDS ++ network16 4) offset := by
    intro offset hoffset
    rw [field16_append_right, dns_answer_a, field16_append_left]
    exact hoffset
  have hpointer := hfield 0 (by decide)
  rw [Nat.add_zero] at hpointer
  refine ⟨?_, ?_, ?_, ?_, ?_, ?_⟩
  · rw [hpointer]
    decide
  · rw [hpointer]
    decide
  · rw [hfield 2 (by decide)]
    decide
  · rw [hfield 4 (by decide)]
    decide
  · rw [hfield 10 (by decide)]
    decide
  · rw [← List.drop_drop, List.drop_left]
    rfl

/-- **What is written is well-formed**, if there is room and an answer comes with the code 0. -/
theorem write_response_wellFormed {request : List UInt8} {question_end : ℕ}
    (hstart : DNS_HEADER_SIZE ≤ question_end) (hend : question_end ≤ request.length)
    (hroom : question_end + 16 ≤ PORTAL_DNS_PACKET_SIZE) (client_authorized : Bool)
    {answer : Option UInt32} {response_code : UInt16}
    (hcode : response_code ∈ [0, DNS_RCODE_REFUSED, DNS_RCODE_SERVER_FAILURE])
    (hanswer : answer ≠ none → response_code = 0) :
    ∃ response, write_response request question_end
        (response_flags (field16 request 2) client_authorized response_code) answer
        PORTAL_DNS_PACKET_SIZE = some response ∧
      WellFormed request response question_end ∧
      rcode response = response_code.toUInt8 &&& 0x0F ∧
      (∀ ipv4, answer = some ipv4 → IsAnswerA response question_end DNS_HEADER_SIZE ipv4) ∧
      (answer = none → response.length = question_end) := by
  obtain ⟨hresponse, hstandard, hdesired⟩ :=
    response_flags_spec (field16 request 2) client_authorized hcode
  have hrcode := response_flags_low (field16 request 2) client_authorized response_code
  generalize response_flags (field16 request 2) client_authorized response_code = flags
    at hresponse hstandard hdesired hrcode ⊢
  obtain ⟨response, hwritten', hcode_eq⟩ := rcode_write_response
    (show 2 ≤ request.length by simp only [DNS_HEADER_SIZE] at hstart; omega) hroom flags answer
  rw [hrcode] at hcode_eq
  cases answer with
  | none =>
      have hwritten : write_response request question_end flags none PORTAL_DNS_PACKET_SIZE
          = some (reply_head request question_end flags 0 ++ []) := by
        rw [write_response, reply_head, List.append_nil]
        simp only [List.append_assoc]
        rfl
      have hlength : (reply_head request question_end flags 0 ++ []).length = question_end := by
        rw [List.append_nil, reply_head_length hstart hend]
      have hroom' : question_end + ([] : List UInt8).length ≤ PORTAL_DNS_PACKET_SIZE :=
        Nat.le_trans (Nat.add_le_add_left (Nat.zero_le 16) question_end) hroom
      rw [Option.some_inj.mp (hwritten'.symm.trans hwritten)] at hcode_eq
      exact ⟨_, hwritten, wellFormed_reply_head hstart hend flags 0 hresponse hstandard hdesired
        hroom' (.inl ⟨rfl, rfl⟩), hcode_eq, nofun, fun _ => hlength⟩
  | some ipv4 =>
      have hanswer_length : (dns_answer_a ipv4).length = 16 := rfl
      have hwritten : write_response request question_end flags (some ipv4) PORTAL_DNS_PACKET_SIZE
          = some (reply_head request question_end flags 1 ++ dns_answer_a ipv4) := by
        rw [write_response, reply_head, if_neg (by omega)]
        simp only [List.append_assoc]
        rfl
      have hrecord := isAnswerA_append (reply_head request question_end flags 1) ipv4
      rw [reply_head_length hstart hend] at hrecord
      rw [Option.some_inj.mp (hwritten'.symm.trans hwritten)] at hcode_eq
      have hlow := hcode_eq
      rw [hanswer (Option.some_ne_none ipv4)] at hlow
      refine ⟨_, hwritten, wellFormed_reply_head hstart hend flags 1 hresponse hstandard hdesired
        hroom (.inr ⟨rfl, hlow, ipv4, hrecord⟩), hcode_eq, ?_, nofun⟩
      rintro ipv4' heq
      rw [← Option.some_inj.mp heq]
      exact hrecord

/-! ## The answer -/

section Answer

variable (getaddrinfo : c_string → Option UInt32) (portal : portal_dns_t)
  (rules : List c_string) (domain_name : c_string) (query_type query_class : UInt16)

/-- An address is only given with the code 0. -/
theorem choose_answer_some (client_authorized : Bool) :
    (choose_answer getaddrinfo portal rules domain_name query_type query_class
        client_authorized).1 ≠ none →
      (choose_answer getaddrinfo portal rules domain_name query_type query_class
        client_authorized).2 = 0 := by
  unfold choose_answer
  split_ifs
  · exact fun _ => rfl
  · exact fun h => absurd rfl h
  · exact fun _ => rfl
  · cases resolve_authorized_ipv4 getaddrinfo domain_name with
    | ok address => exact fun _ => rfl
    | error err => exact fun h => absurd rfl h
  · exact fun h => absurd rfl h

/-- The address that a client which is not authorized gets for a name. -/
def unauthorized_address : UInt32 :=
  if portal.s_external_portal_enabled = true ∧
      domain_name.map tolower = portal.s_external_portal_domain.map tolower then
    portal.s_external_portal_ipv4
  else portal.s_portal_ipv4

/-- **A client that is not authorized** is answered without the rules and the resolver. -/
theorem choose_answer_unauthorized :
    choose_answer getaddrinfo portal rules domain_name query_type query_class false
      = if query_type = DNS_TYPE_A ∧ query_class = DNS_CLASS_IN then
          (some (unauthorized_address portal domain_name), 0)
        else (none, 0) := by
  have hcase : strcasecmp_equal domain_name portal.s_external_portal_domain = true ↔
      domain_name.map tolower = portal.s_external_portal_domain.map tolower := decide_eq_true_iff
  unfold choose_answer unauthorized_address
  by_cases hquery : query_type = DNS_TYPE_A ∧ query_class = DNS_CLASS_IN
  · rw [if_pos hquery]
    by_cases hexternal : portal.s_external_portal_enabled = true ∧
        domain_name.map tolower = portal.s_external_portal_domain.map tolower
    · rw [if_pos hexternal, if_pos ⟨hquery.1, hquery.2, hexternal.1, hcase.mpr hexternal.2⟩,
        if_pos hquery]
    · rw [if_neg hexternal, if_neg fun h => hexternal ⟨h.2.2.1, hcase.mp h.2.2.2⟩,
        if_neg fun h => absurd h.1 (by decide), if_pos hquery, if_pos rfl]
  · rw [if_neg hquery, if_neg fun h => hquery ⟨h.1, h.2.1⟩,
      if_neg fun h => absurd h.1 (by decide), if_neg hquery]

end Answer

/-- A question that is read ends early, and inside the request. -/
theorem IsQuestion.question_end_bounds {request rest : List UInt8} {labels : List (List UInt8)}
    (h : IsQuestion request labels rest) :
    DNS_HEADER_SIZE ≤ (question_of labels rest).question_end ∧
      (question_of labels rest).question_end ≤ request.length ∧
      (question_of labels rest).question_end + 16 ≤ PORTAL_DNS_PACKET_SIZE := by
  have hname := congrArg List.length h.name
  have hheader := h.header.length_ge
  have htext := h.text_length
  have hrest := h.rest_length
  have hsize := encode_labels_length_le labels
  rw [List.length_drop, List.length_append] at hname
  simp only [DNS_HEADER_SIZE] at hheader hname
  simp only [question_of, DNS_HEADER_SIZE, PORTAL_DNS_PACKET_SIZE]
  omega

section Reply

variable (getaddrinfo : c_string → Option UInt32) (portal : portal_dns_t)
  (rules : List c_string) {request rest : List UInt8} {labels : List (List UInt8)}
  (h : IsQuestion request labels rest)

include h

/-- **Every question is replied to.** -/
theorem build_dns_response_spec (client_authorized : Bool) :
    ∃ response, build_dns_response getaddrinfo portal rules request client_authorized
        PORTAL_DNS_PACKET_SIZE = some response ∧
      WellFormed request response (question_of labels rest).question_end ∧
      rcode response = (choose_answer getaddrinfo portal rules
        (CString.of_buffer (dotted labels)) (field16 rest 0) (field16 rest 2)
        client_authorized).2.toUInt8 &&& 0x0F ∧
      (∀ ipv4, (choose_answer getaddrinfo portal rules (CString.of_buffer (dotted labels))
          (field16 rest 0) (field16 rest 2) client_authorized).1 = some ipv4 →
        IsAnswerA response (question_of labels rest).question_end DNS_HEADER_SIZE ipv4) ∧
      ((choose_answer getaddrinfo portal rules (CString.of_buffer (dotted labels))
          (field16 rest 0) (field16 rest 2) client_authorized).1 = none →
        response.length = (question_of labels rest).question_end) := by
  obtain ⟨hstart, hend, hroom⟩ := h.question_end_bounds
  have hparse := (parse_dns_question_ok_iff request (question_of labels rest)).mpr
    ⟨labels, rest, h, rfl⟩
  have hwritten := write_response_wellFormed hstart hend hroom client_authorized
    (choose_answer_code getaddrinfo portal rules (CString.of_buffer (dotted labels))
      (field16 rest 0) (field16 rest 2) client_authorized)
    (choose_answer_some getaddrinfo portal rules _ _ _ client_authorized)
  have hfits : ¬ (question_of labels rest).question_end > PORTAL_DNS_PACKET_SIZE := by omega
  rw [build_dns_response, hparse]
  dsimp only
  rw [if_neg hfits]
  exact hwritten

end Reply

/-- The name is repeated where the record refers to it. -/
theorem WellFormed.name {request response rest : List UInt8} {labels : List (List UInt8)}
    (hformed : WellFormed request response (question_of labels rest).question_end)
    (h : IsQuestion request labels rest) :
    encode_labels labels <+: response.drop DNS_HEADER_SIZE := by
  have hquestion := hformed.question
  rw [List.drop_take, List.drop_take, h.name] at hquestion
  have hlength : (question_of labels rest).question_end - DNS_HEADER_SIZE
      = (encode_labels labels).length + 4 := by
    simp only [question_of]
    omega
  rw [hlength, List.take_length_add_append] at hquestion
  have hrepeated := List.take_prefix ((encode_labels labels).length + 4)
    (response.drop DNS_HEADER_SIZE)
  rw [hquestion] at hrepeated
  exact (List.prefix_append _ _).trans hrepeated

/-- **Every DNS reply is well-formed and isolates clients that are not authorized.** A request
is left without a reply if and only if its question cannot be read. A reply repeats the
identifier, the wish for recursion and the question, and carries no record or one, the address of
the name asked for; with an error code it carries none. A client that is not authorized gets the
same reply under all rules and with all resolvers, and to each query for an address one of the
two addresses of the portal. -/
theorem dns_reply (getaddrinfo : c_string → Option UInt32) (portal : portal_dns_t)
    (rules : List c_string) (request : List UInt8) :
    (∀ client_authorized,
      (build_dns_response getaddrinfo portal rules request client_authorized
            PORTAL_DNS_PACKET_SIZE = none ↔
          ∀ question, parse_dns_question request DOMAIN_NAME_SIZE ≠ .ok question) ∧
        ∀ response, build_dns_response getaddrinfo portal rules request client_authorized
            PORTAL_DNS_PACKET_SIZE = some response →
          ∃ labels rest, IsQuestion request labels rest ∧
            WellFormed request response (question_of labels rest).question_end ∧
            encode_labels labels <+: response.drop DNS_HEADER_SIZE) ∧
    (∀ getaddrinfo' rules', build_dns_response getaddrinfo' portal rules' request false
        PORTAL_DNS_PACKET_SIZE
      = build_dns_response getaddrinfo portal rules request false PORTAL_DNS_PACKET_SIZE) ∧
    ∀ question, parse_dns_question request DOMAIN_NAME_SIZE = .ok question →
      ∃ response, build_dns_response getaddrinfo portal rules request false
          PORTAL_DNS_PACKET_SIZE = some response ∧ rcode response = 0 ∧
        if question.query_type = DNS_TYPE_A ∧ question.query_class = DNS_CLASS_IN then
          IsAnswerA response question.question_end DNS_HEADER_SIZE
            (unauthorized_address portal (CString.of_buffer question.domain_name))
        else response.length = question.question_end := by
  refine ⟨fun client_authorized => ⟨⟨?_, ?_⟩, ?_⟩, ?_, ?_⟩
  · intro hnone question hquestion
    obtain ⟨labels, rest, h, -⟩ := (parse_dns_question_ok_iff request question).mp hquestion
    obtain ⟨response, hsome, -⟩ :=
      build_dns_response_spec getaddrinfo portal rules h client_authorized
    rw [hnone] at hsome
    cases hsome
  · intro hrefused
    cases hparse : parse_dns_question request DOMAIN_NAME_SIZE with
    | error err =>
        rw [build_dns_response, hparse]
    | ok question => exact absurd hparse (hrefused question)
  · intro response hsome
    cases hparse : parse_dns_question request DOMAIN_NAME_SIZE with
    | error err =>
        rw [build_dns_response, hparse] at hsome
        cases hsome
    | ok question =>
        obtain ⟨labels, rest, h, -⟩ := (parse_dns_question_ok_iff request question).mp hparse
        obtain ⟨response', hsome', hformed, -⟩ :=
          build_dns_response_spec getaddrinfo portal rules h client_authorized
        rw [Option.some_inj.mp (hsome'.symm.trans hsome)] at hformed
        exact ⟨labels, rest, h, hformed, hformed.name h⟩
  · intro getaddrinfo' rules'
    simp only [build_dns_response, choose_answer_unauthorized]
  · intro question hquestion
    obtain ⟨labels, rest, h, rfl⟩ := (parse_dns_question_ok_iff request question).mp hquestion
    obtain ⟨response, hsome, -, hcode, hanswer, hnone⟩ :=
      build_dns_response_spec getaddrinfo portal rules h false
    rw [choose_answer_unauthorized] at hcode hanswer hnone
    refine ⟨response, hsome, ?_, ?_⟩
    · have hzero : (0 : UInt16).toUInt8 &&& 0x0F = 0 := by decide
      rw [hcode]
      split_ifs
      · exact hzero
      · exact hzero
    · by_cases hquery : field16 rest 0 = DNS_TYPE_A ∧ field16 rest 2 = DNS_CLASS_IN
      · rw [if_pos hquery] at hanswer
        exact (if_pos hquery).mpr (hanswer _ rfl)
      · rw [if_neg hquery] at hnone
        exact (if_neg hquery).mpr (hnone rfl)

end WifiManager.CaptivePortal
