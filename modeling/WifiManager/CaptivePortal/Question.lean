/-
The grammar of a DNS question.

`IsQuestion` says what a request with one question looks like: a header, labels closed by
the empty one, type and class. `parse_dns_question` accepts exactly this:

1. What is accepted is in the grammar. `read_labels_split` is the invariant of the loop over
   the labels: it has read whole labels, or the packet is over, which the room for type and
   class rules out afterwards.
2. What is in the grammar is accepted: `read_labels_encode` of the model.
3. `parse_dns_question_in` is the function with its buffers, every access checked. It has
   the same result on every packet, so no access leaves a buffer.
-/
import WifiManager.Lib.Buffer
import WifiManager.CaptivePortal.PortalDns

set_option autoImplicit false

namespace WifiManager.CaptivePortal

open WifiManager.Lib WifiManager.Lib.Buffer
open WifiManager.AccessFilter (field16 dot)

/-! ## The grammar -/

/-- One label behind its length. -/
abbrev encode_label (label : List UInt8) : List UInt8 := UInt8.ofNat label.length :: label

/-- Labels that may stand in a name. -/
def ValidLabels (labels : List (List UInt8)) : Prop :=
  ∀ label ∈ labels, 1 ≤ label.length ∧ label.length ≤ 63

/-- The header of a standard request with one question. -/
structure IsRequestHeader (packet : List UInt8) : Prop where
  length_ge : DNS_HEADER_SIZE ≤ packet.length
  request : field16 packet 2 &&& DNS_FLAG_RESPONSE = 0
  standard : field16 packet 2 &&& DNS_OPCODE_MASK = 0
  one_question : field16 packet 4 = 1

/-- A request that asks one question: for the name with these labels, and with `rest` behind
the name. -/
structure IsQuestion (packet : List UInt8) (labels : List (List UInt8)) (rest : List UInt8) :
    Prop where
  header : IsRequestHeader packet
  labels_valid : ValidLabels labels
  text_length : (dotted labels).length ≤ 255
  name : packet.drop DNS_HEADER_SIZE = encode_labels labels ++ rest
  rest_length : 4 ≤ rest.length

/-- What there is to read in it. -/
def question_of (labels : List (List UInt8)) (rest : List UInt8) : dns_question where
  domain_name := dotted labels
  question_end := DNS_HEADER_SIZE + (encode_labels labels).length + 4
  query_type := field16 rest 0
  query_class := field16 rest 2

theorem encode_labels_cons (label : List UInt8) (labels : List (List UInt8)) :
    encode_labels (label :: labels) = encode_label label ++ encode_labels labels := by
  rw [encode_labels, List.flatMap_cons, List.append_assoc]
  rfl

/-- **The grammar is unambiguous**: what begins with labels goes on with the other ones. -/
theorem encode_labels_split {labels labels' : List (List UInt8)} (h : ValidLabels labels)
    (h' : ValidLabels labels') {tail rest : List UInt8}
    (heq : labels.flatMap encode_label ++ tail = encode_labels labels' ++ rest) :
    ∃ more, labels' = labels ++ more ∧ tail = encode_labels more ++ rest := by
  induction labels generalizing labels' with
  | nil => exact ⟨labels', rfl, heq⟩
  | cons label labels ih =>
      obtain ⟨hpos, hle⟩ := h label List.mem_cons_self
      obtain ⟨hnz, -, -, hnat⟩ := label_length_byte hpos hle
      rcases labels' with - | ⟨label', labels'⟩
      · -- a label does not begin with the byte of the empty one
        exact absurd (List.cons.inj heq).1 hnz
      · obtain ⟨hpos', hle'⟩ := h' label' List.mem_cons_self
        obtain ⟨-, -, -, hnat'⟩ := label_length_byte hpos' hle'
        rw [List.flatMap_cons, encode_labels_cons, List.append_assoc, List.append_assoc] at heq
        obtain ⟨hbyte, hbytes⟩ := List.cons.inj heq
        have hlength : label.length = label'.length := by rw [← hnat, hbyte, hnat']
        obtain ⟨rfl, htail⟩ := List.append_inj hbytes hlength
        obtain ⟨more, rfl, hmore⟩ := ih (fun l hl => h l (List.mem_cons_of_mem _ hl))
          (fun l hl => h' l (List.mem_cons_of_mem _ hl)) htail
        exact ⟨more, rfl, hmore⟩

/-! ## What is accepted is in the grammar -/

/-- The length byte of a label that is let through. -/
theorem label_length_of_byte {value : UInt8} (hnz : value ≠ 0) (hle : ¬ value > 63) :
    1 ≤ value.toNat ∧ value.toNat ≤ 63 := by
  have hpos : value.toNat ≠ 0 := fun h => hnz (UInt8.toNat_inj.mp h)
  have hsmall : ¬ 63 < value.toNat := hle
  omega

/-- A byte of a packet and what follows it. -/
theorem drop_byte {packet : List UInt8} {offset : ℕ} (h : offset < packet.length) :
    packet.drop offset = packet.getD offset 0 :: packet.drop (offset + 1) := by
  rw [List.drop_eq_getElem_cons h, List.getD_eq_getElem?_getD, List.getElem?_eq_getElem h,
    Option.getD_some]

theorem append_labels_nil (domain_name : List UInt8) :
    append_labels domain_name [] = domain_name := by
  unfold append_labels
  split_ifs with hempty
  · rw [hempty]
    rfl
  · rw [List.flatMap_nil, List.append_nil]

/-- **The loop reads labels**, or the packet is over. -/
theorem read_labels_split {packet : List UInt8} {domain_name_size packet_offset : ℕ}
    {domain_name : List UInt8} (hname : domain_name.length < domain_name_size)
    {text : List UInt8} {question : ℕ}
    (h : read_labels packet domain_name_size packet_offset domain_name = .ok (text, question)) :
    packet.length ≤ question ∨
      ∃ labels, ValidLabels labels ∧ text = append_labels domain_name labels ∧
        text.length < domain_name_size ∧
        packet.drop packet_offset = encode_labels labels ++ packet.drop question ∧
        question = packet_offset + (encode_labels labels).length := by
  fun_induction read_labels packet domain_name_size packet_offset domain_name with
  | case1 offset name hin label_length label_offset hzero =>
      -- the empty label
      obtain ⟨rfl, rfl⟩ := Prod.mk.inj (Except.ok.inj h)
      refine .inr ⟨[], fun label hlabel => absurd hlabel List.not_mem_nil,
        (append_labels_nil name).symm, hname, ?_, rfl⟩
      rw [drop_byte hin, show packet.getD offset 0 = 0 from hzero]
      rfl
  | case2 => cases h
  | case3 => cases h
  | case4 => cases h
  | case5 => cases h
  | case6 offset name hin label_length label_offset hnz _ hinside _ kept hfits ih =>
      -- one more label, and then the other ones
      obtain ⟨hle, hend⟩ := not_or.mp hinside
      obtain ⟨hpos, hmax⟩ := label_length_of_byte hnz hle
      have hlabel : ((packet.drop label_offset).take label_length.toNat).length
          = label_length.toNat := by
        rw [List.length_take, List.length_drop]
        omega
      have hbyte : UInt8.ofNat ((packet.drop label_offset).take label_length.toNat).length
          = packet.getD offset 0 := by
        rw [hlabel, UInt8.ofNat_toNat]
      have hsplit : packet.drop label_offset
          = (packet.drop label_offset).take label_length.toNat ++
            packet.drop (label_offset + label_length.toNat) := by
        have hcut := (List.take_append_drop label_length.toNat (packet.drop label_offset)).symm
        rwa [List.drop_drop] at hcut
      have hlabel_ne : (packet.drop label_offset).take label_length.toNat ≠ [] := by
        rw [← List.length_pos_iff, hlabel]
        exact hpos
      rcases ih (by rw [List.length_append, hlabel]; omega) h with
        hover | ⟨labels, hvalid, htext, hroom, hdrop, hquestion⟩
      · exact .inl hover
      · refine .inr ⟨(packet.drop label_offset).take label_length.toNat :: labels, ?_, ?_, hroom,
          ?_, ?_⟩
        · exact List.forall_mem_cons.mpr ⟨by rw [hlabel]; exact ⟨hpos, hmax⟩, hvalid⟩
        · rw [htext, append_labels_cons name hlabel_ne]
          rfl
        · rw [encode_labels_cons, List.append_assoc, ← hdrop, drop_byte hin, ← hbyte]
          exact congrArg (_ :: ·) hsplit
        · rw [encode_labels_cons, List.length_append, List.length_cons, hlabel, hquestion]
          omega
  | case7 offset name hout =>
      obtain ⟨rfl, rfl⟩ := Prod.mk.inj (Except.ok.inj h)
      exact .inl (Nat.le_of_not_lt hout)

/-- The checks in front of the name. -/
theorem parse_dns_question_header {packet : List UInt8} (h : IsRequestHeader packet)
    (domain_name_size : ℕ) :
    parse_dns_question packet domain_name_size
      = match read_labels packet domain_name_size DNS_HEADER_SIZE [] with
        | .error err => .error err
        | .ok (domain_name, packet_offset) =>
            if packet_offset > packet.length then .error .ESP_ERR_INVALID_SIZE
            else if packet_offset + 4 > packet.length then .error .ESP_ERR_INVALID_SIZE
            else
              .ok
                { domain_name := domain_name
                  question_end := packet_offset + 4
                  query_type := field16 packet packet_offset
                  query_class := field16 packet (packet_offset + 2) } := by
  have hlength : ¬ packet.length < DNS_HEADER_SIZE := Nat.not_lt.mpr h.length_ge
  have hflags : ¬ (field16 packet 2 &&& DNS_FLAG_RESPONSE ≠ 0 ∨
      field16 packet 2 &&& DNS_OPCODE_MASK ≠ 0) :=
    fun hbad => hbad.elim (· h.request) (· h.standard)
  have hcount : ¬ field16 packet 4 ≠ 1 := not_not.mpr h.one_question
  exact (if_neg hlength).trans ((if_neg hflags).trans (if_neg hcount))

/-- Without that header nothing is accepted. -/
theorem parse_dns_question_no_header {packet : List UInt8} (h : ¬ IsRequestHeader packet)
    (domain_name_size : ℕ) (question : dns_question) :
    parse_dns_question packet domain_name_size ≠ .ok question := by
  intro hok
  unfold parse_dns_question at hok
  dsimp only at hok
  split_ifs at hok with hlength hflags hcount
  simp only [ne_eq, not_or, not_not] at hflags hcount
  exact h ⟨Nat.not_lt.mp hlength, hflags.1, hflags.2, hcount⟩

/-- A field behind the name. -/
theorem field16_drop (packet : List UInt8) (offset more : ℕ) :
    field16 packet (offset + more) = field16 (packet.drop offset) more := by
  unfold field16
  simp only [List.getD_eq_getElem?_getD, List.getElem?_drop, Nat.add_assoc]

/-- **The parser accepts its grammar**, and reads what is there. -/
theorem parse_dns_question_ok_iff (packet : List UInt8) (question : dns_question) :
    parse_dns_question packet DOMAIN_NAME_SIZE = .ok question ↔
      ∃ labels rest, IsQuestion packet labels rest ∧ question = question_of labels rest := by
  by_cases hheader : IsRequestHeader packet
  swap
  · refine iff_of_false (parse_dns_question_no_header hheader _ question) ?_
    rintro ⟨labels, rest, h, -⟩
    exact hheader h.header
  have hlength := hheader.length_ge
  rw [parse_dns_question_header hheader]
  constructor
  · intro hok
    cases hlabels : read_labels packet DOMAIN_NAME_SIZE DNS_HEADER_SIZE [] with
    | error err =>
        rw [hlabels] at hok
        cases hok
    | ok result =>
        obtain ⟨domain_name, packet_offset⟩ := result
        rw [hlabels] at hok
        dsimp only at hok
        split_ifs at hok with hover hroom
        -- there is room for type and class, so the name was closed
        rcases read_labels_split (by decide) hlabels with
          hend | ⟨labels, hvalid, htext, hfits, hdrop, hoffset⟩
        · omega
        · rw [append_labels, if_pos rfl] at htext
          have htype := field16_drop packet packet_offset 0
          rw [Nat.add_zero] at htype
          refine ⟨labels, packet.drop packet_offset,
            ⟨hheader, hvalid, ?_, hdrop, ?_⟩, ?_⟩
          · rw [← htext]
            exact Nat.le_of_lt_succ hfits
          · rw [List.length_drop]
            omega
          · rw [← Except.ok.inj hok, question_of, htext, htype, field16_drop, ← hoffset]
  · rintro ⟨labels, rest, h, rfl⟩
    have hpacket : packet = packet.take DNS_HEADER_SIZE ++ (encode_labels labels ++ rest) := by
      rw [← h.name, List.take_append_drop]
    have htake : (packet.take DNS_HEADER_SIZE).length = DNS_HEADER_SIZE := by
      rw [List.length_take]
      omega
    have hlabels := read_labels_encode labels (packet.take DNS_HEADER_SIZE) rest []
      DOMAIN_NAME_SIZE h.labels_valid
      (by rw [append_labels, if_pos rfl]; exact Nat.lt_succ_of_le h.text_length)
    rw [← hpacket, htake, append_labels, if_pos rfl] at hlabels
    have hrest : packet.drop (DNS_HEADER_SIZE + (encode_labels labels).length) = rest := by
      rw [← List.drop_drop, h.name, List.drop_left]
    have hsize := congrArg List.length hrest
    rw [List.length_drop] at hsize
    have hrest_length := h.rest_length
    have htype := field16_drop packet (DNS_HEADER_SIZE + (encode_labels labels).length) 0
    rw [Nat.add_zero] at htype
    rw [hlabels]
    dsimp only
    rw [if_neg (by omega), if_neg (by omega), question_of, htype, field16_drop, hrest]

/-! ## The buffers -/

/-- The dot in front of every label but the first. -/
def store_dot (domain_name : List UInt8) (name_length : ℕ) : Option (List UInt8 × ℕ) :=
  if name_length > 0 then (store domain_name name_length [dot]).map (·, name_length + 1)
  else some (domain_name, name_length)

/-- The loop over the labels on its buffers, every access checked: the name buffer, the
offset behind the name, and the length of the text. -/
def read_labels_in (packet : List UInt8) (domain_name_size packet_offset : ℕ)
    (domain_name : List UInt8) (name_length : ℕ) :
    Option (Except esp_err_t (List UInt8 × ℕ × ℕ)) :=
  if packet_offset < packet.length then do
    let label_length ← packet[packet_offset]?
    let label_offset := packet_offset + 1
    if label_length = 0 then return .ok (domain_name, label_offset, name_length)
    else if label_length &&& 0xC0 ≠ 0 then return .error .ESP_ERR_NOT_SUPPORTED
    else if label_length > 63 ∨ label_offset + label_length.toNat > packet.length then
      return .error .ESP_ERR_INVALID_SIZE
    else if name_length > 0 ∧ name_length + 1 ≥ domain_name_size then
      return .error .ESP_ERR_INVALID_SIZE
    else
      let (domain_name, name_length) ← store_dot domain_name name_length
      if name_length + label_length.toNat ≥ domain_name_size then
        return .error .ESP_ERR_INVALID_SIZE
      else
        let label ← load packet label_offset label_length.toNat
        let domain_name ← store domain_name name_length label
        read_labels_in packet domain_name_size (label_offset + label_length.toNat) domain_name
          (name_length + label_length.toNat)
  else some (.ok (domain_name, packet_offset, name_length))
  termination_by packet.length - packet_offset

/-- `parse_dns_question` on its buffers: the name buffer, and where the question ends, its
type and its class. -/
def parse_dns_question_in (packet domain_name : List UInt8) (domain_name_size : ℕ) :
    Option (Except esp_err_t (List UInt8 × ℕ × UInt16 × UInt16)) :=
  if packet.length < DNS_HEADER_SIZE then some (.error .ESP_ERR_INVALID_SIZE)
  else do
    let request_flags ← load packet 2 2
    let question_count ← load packet 4 2
    if field16 request_flags 0 &&& DNS_FLAG_RESPONSE ≠ 0 ∨
        field16 request_flags 0 &&& DNS_OPCODE_MASK ≠ 0 then
      return .error .ESP_ERR_NOT_SUPPORTED
    else if field16 question_count 0 ≠ 1 then return .error .ESP_ERR_NOT_SUPPORTED
    else
      match ← read_labels_in packet domain_name_size DNS_HEADER_SIZE domain_name 0 with
      | .error err => return .error err
      | .ok (domain_name, packet_offset, name_length) =>
          if packet_offset > packet.length then return .error .ESP_ERR_INVALID_SIZE
          else
            let domain_name ← store domain_name name_length [0]
            if packet_offset + 4 > packet.length then return .error .ESP_ERR_INVALID_SIZE
            else
              let query_type ← load packet packet_offset 2
              let query_class ← load packet (packet_offset + 2) 2
              return .ok (domain_name, packet_offset + 4, field16 query_type 0,
                field16 query_class 0)

/-- A result on buffers next to one without them: the same error, or the name buffer holds
the text. -/
inductive ReadsAs (domain_name_size : ℕ) :
    Option (Except esp_err_t (List UInt8 × ℕ × ℕ)) → Except esp_err_t (List UInt8 × ℕ) → Prop
  | error (err : esp_err_t) : ReadsAs domain_name_size (some (.error err)) (.error err)
  | ok {domain_name text : List UInt8} (packet_offset : ℕ)
      (size_eq : domain_name.length = domain_name_size) (held : text <+: domain_name)
      (room : text.length < domain_name_size) :
      ReadsAs domain_name_size (some (.ok (domain_name, packet_offset, text.length)))
        (.ok (text, packet_offset))

theorem store_dot_held {text kept domain_name : List UInt8} (hheld : text <+: domain_name)
    (hkept : kept = if text.length > 0 then text ++ [dot] else text)
    (hroom : ¬ (text.length > 0 ∧ text.length + 1 ≥ domain_name.length)) :
    ∃ buffer, store_dot domain_name text.length = some (buffer, kept.length) ∧
      buffer.length = domain_name.length ∧ kept <+: buffer := by
  rw [store_dot]
  by_cases hfirst : text.length > 0
  · rw [if_pos hfirst] at hkept
    obtain ⟨buffer, hstore, hsize, hfront⟩ := store_append hheld [dot]
      (by rw [List.length_singleton]; omega)
    refine ⟨buffer, ?_, hsize, hkept ▸ hfront⟩
    rw [if_pos hfirst, hstore, hkept, List.length_append]
    rfl
  · rw [if_neg hfirst] at hkept
    rw [if_neg hfirst, hkept]
    exact ⟨domain_name, rfl, rfl, hheld⟩

/-- **The loop stays inside its buffers**, and the name buffer holds the text. -/
theorem read_labels_in_reads (packet : List UInt8) (domain_name_size packet_offset : ℕ)
    (text : List UInt8) :
    ∀ domain_name : List UInt8, domain_name.length = domain_name_size → text <+: domain_name →
      text.length < domain_name_size →
      ReadsAs domain_name_size
        (read_labels_in packet domain_name_size packet_offset domain_name text.length)
        (read_labels packet domain_name_size packet_offset text) := by
  have hbyte : ∀ offset, offset < packet.length → packet[offset]? = some (packet.getD offset 0) :=
    fun offset hin => by
      rw [List.getD_eq_getElem?_getD, List.getElem?_eq_getElem hin, Option.getD_some]
  fun_induction read_labels packet domain_name_size packet_offset text with
  | case1 offset text hin label_length label_offset hzero =>
      intro domain_name hsize hheld hroom
      rw [read_labels_in, if_pos hin, hbyte offset hin, Option.bind_eq_bind, Option.bind_some,
        if_pos hzero]
      exact .ok _ hsize hheld hroom
  | case2 offset text hin label_length hnz hpointer =>
      intro domain_name hsize hheld hroom
      rw [read_labels_in, if_pos hin, hbyte offset hin, Option.bind_eq_bind, Option.bind_some,
        if_neg hnz, if_pos hpointer]
      exact .error _
  | case3 offset text hin label_length label_offset hnz hplain hoverrun =>
      intro domain_name hsize hheld hroom
      rw [read_labels_in, if_pos hin, hbyte offset hin, Option.bind_eq_bind, Option.bind_some,
        if_neg hnz, if_neg hplain, if_pos hoverrun]
      exact .error _
  | case4 offset text hin label_length label_offset hnz hplain hinside hfull =>
      intro domain_name hsize hheld hroom
      rw [read_labels_in, if_pos hin, hbyte offset hin, Option.bind_eq_bind, Option.bind_some,
        if_neg hnz, if_neg hplain, if_neg hinside, if_pos hfull]
      exact .error _
  | case5 offset text hin label_length label_offset hnz hplain hinside hdot kept hfull =>
      intro domain_name hsize hheld hroom
      obtain ⟨buffer, hstore, -, -⟩ := store_dot_held hheld (show kept = _ from rfl)
        (by rw [hsize]; exact hdot)
      rw [read_labels_in, if_pos hin, hbyte offset hin, Option.bind_eq_bind, Option.bind_some,
        if_neg hnz, if_neg hplain, if_neg hinside, if_neg hdot, hstore, Option.bind_eq_bind,
        Option.bind_some]
      dsimp only
      rw [if_pos hfull]
      exact .error _
  | case6 offset text hin label_length label_offset hnz hplain hinside hdot kept hfits ih =>
      intro domain_name hsize hheld hroom
      obtain ⟨buffer, hstore, hbuffer, hkept⟩ := store_dot_held hheld (show kept = _ from rfl)
        (by rw [hsize]; exact hdot)
      have hlabel : ((packet.drop label_offset).take label_length.toNat).length
          = label_length.toNat := by
        rw [List.length_take, List.length_drop]
        omega
      have hload := load_eq_some (show label_offset + label_length.toNat ≤ packet.length by omega)
      obtain ⟨buffer', hstore', hbuffer', hfront⟩ := store_append hkept
        ((packet.drop label_offset).take label_length.toNat)
        (by
          rw [hlabel, hbuffer, hsize]
          exact Nat.le_of_lt (Nat.lt_of_not_le hfits))
      have hnext := ih _ (hbuffer'.trans (hbuffer.trans hsize)) hfront
        (by rw [List.length_append, hlabel]; exact Nat.lt_of_not_le hfits)
      rw [List.length_append, hlabel] at hnext
      rw [read_labels_in, if_pos hin, hbyte offset hin, Option.bind_eq_bind, Option.bind_some,
        if_neg hnz, if_neg hplain, if_neg hinside, if_neg hdot, hstore, Option.bind_eq_bind,
        Option.bind_some]
      dsimp only
      rw [if_neg hfits, hload, Option.bind_eq_bind, Option.bind_some, hstore',
        Option.bind_some]
      exact hnext
  | case7 offset text hout =>
      intro domain_name hsize hheld hroom
      rw [read_labels_in, if_neg hout]
      exact .ok _ hsize hheld hroom

/-- A field that is read with a check. -/
theorem load_field {packet : List UInt8} {offset : ℕ} (h : offset + 2 ≤ packet.length) :
    ∃ bytes, load packet offset 2 = some bytes ∧ field16 bytes 0 = field16 packet offset := by
  refine ⟨_, load_eq_some h, ?_⟩
  have hlength : ((packet.drop offset).take 2).length = 2 := by
    rw [List.length_take, List.length_drop]
    omega
  have hfield := field16_append_left (show 0 + 1 < ((packet.drop offset).take 2).length by
    rw [hlength]; decide) ((packet.drop offset).drop 2)
  have hdrop := field16_drop packet offset 0
  rw [List.take_append_drop] at hfield
  rw [Nat.add_zero] at hdrop
  rw [hdrop, hfield]

/-- A question on buffers next to one without them. -/
inductive QuestionReadsAs : Option (Except esp_err_t (List UInt8 × ℕ × UInt16 × UInt16)) →
    Except esp_err_t dns_question → Prop
  | error (err : esp_err_t) : QuestionReadsAs (some (.error err)) (.error err)
  | ok {domain_name : List UInt8} (question : dns_question)
      (size_eq : domain_name.length = DOMAIN_NAME_SIZE)
      (held : question.domain_name ++ [0] <+: domain_name) :
      QuestionReadsAs
        (some (.ok (domain_name, question.question_end, question.query_type,
          question.query_class)))
        (.ok question)

/-- **No access leaves a buffer**, whatever the packet and whatever the name buffer held
before, and the result is the one without buffers. -/
theorem parse_dns_question_in_reads (packet : List UInt8) {domain_name : List UInt8}
    (hsize : domain_name.length = DOMAIN_NAME_SIZE) :
    QuestionReadsAs (parse_dns_question_in packet domain_name DOMAIN_NAME_SIZE)
      (parse_dns_question packet DOMAIN_NAME_SIZE) := by
  rw [parse_dns_question_in, parse_dns_question]
  by_cases hshort : packet.length < DNS_HEADER_SIZE
  · rw [if_pos hshort, if_pos hshort]
    exact .error _
  have hlength : 12 ≤ packet.length := Nat.not_lt.mp hshort
  obtain ⟨flags, hflags, hflags_eq⟩ := load_field (show 2 + 2 ≤ packet.length by omega)
  obtain ⟨count, hcount, hcount_eq⟩ := load_field (show 4 + 2 ≤ packet.length by omega)
  rw [if_neg hshort, if_neg hshort, hflags, hcount]
  simp only [Option.bind_eq_bind, Option.bind_some, hflags_eq, hcount_eq]
  split_ifs
  · exact .error _
  · exact .error _
  have hlabels := read_labels_in_reads packet DOMAIN_NAME_SIZE DNS_HEADER_SIZE [] domain_name hsize
    List.nil_prefix (by decide)
  rw [List.length_nil] at hlabels
  generalize read_labels_in packet DOMAIN_NAME_SIZE DNS_HEADER_SIZE domain_name 0 = result
    at hlabels ⊢
  generalize read_labels packet DOMAIN_NAME_SIZE DNS_HEADER_SIZE [] = expected at hlabels ⊢
  cases hlabels with
  | error err => exact .error err
  | @ok buffer text packet_offset hbuffer hheld hroom =>
      dsimp only [Option.bind_some]
      split_ifs with hover hend
      · exact .error _
      · obtain ⟨ended, hended, -, -⟩ := store_append hheld [0] (by rw [hbuffer]; exact hroom)
        rw [hended]
        exact .error _
      · obtain ⟨ended, hended, hended_size, hfront⟩ :=
          store_append hheld [0] (by rw [hbuffer]; exact hroom)
        obtain ⟨type, htype, htype_eq⟩ :=
          load_field (show packet_offset + 2 ≤ packet.length by omega)
        obtain ⟨class_, hclass, hclass_eq⟩ :=
          load_field (show packet_offset + 2 + 2 ≤ packet.length by omega)
        rw [hended, htype, hclass]
        simp only [Option.bind_some, htype_eq, hclass_eq]
        exact .ok ⟨text, packet_offset + 4, field16 packet packet_offset,
          field16 packet (packet_offset + 2)⟩ (hended_size.trans hbuffer) hfront

/-! ## Results -/

/-- What ends a name where no label and no empty label can begin: the end of the packet, a
compression pointer, or a label that reaches past the end. -/
inductive Broken : List UInt8 → Prop
  | over : Broken []
  | pointer {byte : UInt8} (rest : List UInt8) (h : byte &&& 0xC0 ≠ 0) : Broken (byte :: rest)
  | overrun {byte : UInt8} {rest : List UInt8} (h : rest.length < byte.toNat) :
      Broken (byte :: rest)

theorem Broken.not_labels {tail : List UInt8} (h : Broken tail) {labels : List (List UInt8)}
    (hlabels : ValidLabels labels) (rest : List UInt8) : tail ≠ encode_labels labels ++ rest := by
  rintro rfl
  rcases labels with - | ⟨label, labels⟩
  · -- the byte of the empty label
    cases h with
    | pointer _ h => exact h rfl
    | overrun h => exact absurd h (Nat.not_lt_zero _)
  · obtain ⟨hpos, hle⟩ := hlabels label List.mem_cons_self
    obtain ⟨-, hplain, -, hnat⟩ := label_length_byte hpos hle
    rw [encode_labels_cons, List.append_assoc] at h
    cases h with
    | pointer _ h => exact h hplain
    | overrun h =>
        rw [hnat] at h
        simp only [List.append_eq, List.length_append] at h
        omega

/-- **The question of a request.** The parser accepts a packet if and only if it is in the
grammar, and then reads what is there; a name that the packet cuts off, a compression
pointer and a label past the end are refused; and no access leaves the packet or the name
buffer, which ends up with the text and a terminator. -/
theorem dns_question_grammar (packet : List UInt8) :
    (∀ question, parse_dns_question packet DOMAIN_NAME_SIZE = .ok question ↔
      ∃ labels rest, IsQuestion packet labels rest ∧ question = question_of labels rest) ∧
    (∀ labels tail, ValidLabels labels →
      packet.drop DNS_HEADER_SIZE = labels.flatMap encode_label ++ tail → Broken tail →
      ∀ question, parse_dns_question packet DOMAIN_NAME_SIZE ≠ .ok question) ∧
    ∀ domain_name : List UInt8, domain_name.length = DOMAIN_NAME_SIZE →
      QuestionReadsAs (parse_dns_question_in packet domain_name DOMAIN_NAME_SIZE)
        (parse_dns_question packet DOMAIN_NAME_SIZE) := by
  refine ⟨parse_dns_question_ok_iff packet, fun labels tail hvalid hname hbroken question hok => ?_,
    fun domain_name hsize => parse_dns_question_in_reads packet hsize⟩
  obtain ⟨labels', rest, h, -⟩ := (parse_dns_question_ok_iff packet question).mp hok
  obtain ⟨more, rfl, hmore⟩ := encode_labels_split hvalid h.labels_valid (hname.symm.trans h.name)
  exact hbroken.not_labels (fun l hl => h.labels_valid l (List.mem_append_right _ hl)) rest hmore

end WifiManager.CaptivePortal
