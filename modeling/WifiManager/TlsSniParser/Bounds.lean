/-
No access of the parser leaves its buffer.

1. `parse_client_hello_in_parses`: on a complete message the functions of the module `Buffers`
   have a result, the one of `parse_client_hello`, and the host name buffer keeps its size. The
   checks of the source in front of each access are its bound, and the recursion is that of the
   functions without buffers.
2. `Holds` says that the buffers of a parser begin with what the parser without buffers holds,
   and `Reading.counters` reads the bounds on the five counters off its invariant. A round keeps
   `Holds`, by one lemma for each of its steps.
3. `feed_in_feeds` puts the rounds of a call together. They consume input because those of the
   module `Stream` do.
-/
import WifiManager.TlsSniParser.Buffers
import WifiManager.TlsSniParser.Stream

set_option autoImplicit false

namespace WifiManager.TlsSniParser

open WifiManager.Lib WifiManager.Lib.Buffer

/-! ## The message -/

/-- The host name buffer holds the name that has been found, and its terminator. -/
def NameHeld (sni : Option (List UInt8)) (hostname : List UInt8) : Prop :=
  ∀ name ∈ sni, name ++ [0] <+: hostname

/-- A scan of a list on the buffers next to one without them. -/
inductive ScansAs (hostname_size : ℕ) :
    Option (List UInt8 × Option (ℕ × Bool)) → Option (ℕ × Option (List UInt8)) → Prop
  | refused {hostname : List UInt8} (size_eq : hostname.length = hostname_size) :
      ScansAs hostname_size (some (hostname, none)) none
  | scanned {hostname : List UInt8} (name_offset : ℕ) {sni : Option (List UInt8)}
      (size_eq : hostname.length = hostname_size) (held : NameHeld sni hostname) :
      ScansAs hostname_size (some (hostname, some (name_offset, sni.isSome)))
        (some (name_offset, sni))

/-- The body of a `server_name` extension on the buffers next to one without them. -/
inductive NamesAs (hostname_size : ℕ) :
    Option (List UInt8 × Option Bool) → Option (Option (List UInt8)) → Prop
  | refused {hostname : List UInt8} (size_eq : hostname.length = hostname_size) :
      NamesAs hostname_size (some (hostname, none)) none
  | accepted {hostname : List UInt8} {sni : Option (List UInt8)}
      (size_eq : hostname.length = hostname_size) (held : NameHeld sni hostname) :
      NamesAs hostname_size (some (hostname, some sni.isSome)) (some sni)

/-- What a message comes to on the buffers next to what it comes to without them. -/
inductive ParsesAs (hostname_size : ℕ) : Option hello_buffers → hello_outcome → Prop
  | parsed (outcome : hello_outcome) {hostname : List UInt8}
      (size_eq : hostname.length = hostname_size)
      (held : outcome.result = .FOUND → outcome.hostname ++ [0] <+: hostname) :
      ParsesAs hostname_size (some ⟨outcome.result, hostname, outcome.ech_present⟩) outcome

/-- Without a host name nothing is said about the buffer but its size. -/
theorem ParsesAs.nameless {hostname_size : ℕ} {hostname : List UInt8}
    (hsize : hostname.length = hostname_size) {result : tls_sni_parse_result_t}
    (hresult : result ≠ .FOUND) (ech_present : Bool) :
    ParsesAs hostname_size (some ⟨result, hostname, ech_present⟩) ⟨result, [], ech_present⟩ :=
  .parsed ⟨result, [], ech_present⟩ hsize fun hfound => absurd hfound hresult

theorem ParsesAs.invalid {hostname_size : ℕ} {hostname : List UInt8}
    (hsize : hostname.length = hostname_size) (ech_present : Bool) :
    ParsesAs hostname_size (some ⟨.INVALID, hostname, ech_present⟩)
      ⟨.INVALID, [], ech_present⟩ :=
  .nameless hsize (by decide) ech_present

section Message

variable {hello buffer : List UInt8} {hostname_size : ℕ} (hhello : hello <+: buffer)
include hhello

theorem byte_in {offset : ℕ} (h : offset < hello.length) :
    buffer[offset]? = some (byte_at hello offset) :=
  getElem?_front hhello h 0

theorem read_u16_in_eq {offset : ℕ} (h : offset + 2 ≤ hello.length) :
    read_u16_in buffer offset = some (read_u16 hello offset) := by
  rw [read_u16_in, byte_in hhello (by omega), byte_in hhello (by omega)]
  rfl

theorem skip_fixed_fields_in_eq :
    skip_fixed_fields_in buffer hello.length = some (skip_fixed_fields hello) := by
  rw [skip_fixed_fields_in, skip_fixed_fields]
  simp only [Option.bind_eq_bind]
  -- every access stands behind the check of the source that is its bound
  by_cases hversion : hello.length < 4 + 34
  · rw [if_pos hversion, if_pos hversion]
  rw [if_neg hversion, if_neg hversion]
  by_cases hsession : 4 + 34 ≥ hello.length
  · rw [if_pos hsession, if_pos hsession]
  rw [if_neg hsession, if_neg hsession, byte_in hhello (by omega), Option.bind_some]
  generalize (byte_at hello (4 + 34)).toNat = session_length
  by_cases hid : 4 + 34 + 1 + session_length > hello.length
  · rw [if_pos hid, if_pos hid]
    rfl
  rw [if_neg hid, if_neg hid]
  by_cases hsuites : 4 + 34 + 1 + session_length + 2 > hello.length
  · rw [if_pos hsuites, if_pos hsuites]
    rfl
  rw [if_neg hsuites, if_neg hsuites, read_u16_in_eq hhello (by omega), Option.bind_some]
  generalize read_u16 hello (4 + 34 + 1 + session_length) = cipher_length
  by_cases hcipher : cipher_length < 2 ∨ cipher_length &&& 1 ≠ 0 ∨
      4 + 34 + 1 + session_length + 2 + cipher_length > hello.length
  · rw [if_pos hcipher, if_pos hcipher]
    rfl
  rw [if_neg hcipher, if_neg hcipher]
  by_cases hmethods : 4 + 34 + 1 + session_length + 2 + cipher_length ≥ hello.length
  · rw [if_pos hmethods, if_pos hmethods]
    rfl
  rw [if_neg hmethods, if_neg hmethods, byte_in hhello (by omega), Option.bind_some]
  split_ifs <;> rfl

/-- **The copy of a host name** stays in the message and in the host name buffer. The induction
is on the bytes that are still to be copied. -/
theorem copy_hostname_in_copies {name_offset : ℕ} {rest : List UInt8} (name : List UInt8) :
    ∀ copied hostname : List UInt8,
      hello.drop (name_offset + copied.length) = name ++ rest → copied <+: hostname →
      copied.length + name.length < hostname.length →
      ∃ hostname' : List UInt8, hostname'.length = hostname.length ∧
        copy_hostname_in buffer name_offset (copied.length + name.length) copied.length hostname
          = some (hostname', (copy_hostname name).isSome) ∧
        ∀ text ∈ copy_hostname name, copied ++ text ++ [0] <+: hostname' := by
  induction name with
  | nil =>
      intro copied hostname hdrop hcopied hroom
      obtain ⟨ended, hended, hsize, hfront⟩ := store_append hcopied [0] hroom
      refine ⟨ended, hsize, ?_, ?_⟩
      · rw [List.length_nil, Nat.add_zero, copy_hostname_in, if_neg (Nat.lt_irrefl _), hended]
        rfl
      · intro text htext
        rw [← Option.some.inj htext, List.append_nil]
        exact hfront
  | cons value name ih =>
      intro copied hostname hdrop hcopied hroom
      rw [List.length_cons] at hroom ⊢
      have hlength := congrArg List.length hdrop
      rw [List.length_drop, List.length_append, List.length_cons] at hlength
      have hvalue : byte_at hello (name_offset + copied.length) = value := by
        have h := congrArg List.head? hdrop
        rw [List.head?_drop] at h
        rw [byte_at, List.getD_eq_getElem?_getD, h]
        rfl
      rw [copy_hostname_in, if_pos (by omega), byte_in hhello (by omega), hvalue, copy_hostname]
      simp only [Option.bind_eq_bind, Option.bind_some]
      by_cases hbad : value = 0 ∨ value < 0x21 ∨ value > 0x7E
      · rw [if_pos hbad, if_pos hbad]
        exact ⟨hostname, rfl, rfl, fun text htext => absurd htext (Option.not_mem_none text)⟩
      · rw [if_neg hbad, if_neg hbad]
        obtain ⟨stored, hstored, hsize, hfront⟩ := store_append hcopied [tolower value]
          (by rw [List.length_singleton]; omega)
        have hlower : (copied ++ [tolower value]).length = copied.length + 1 := List.length_append
        obtain ⟨hostname', hsize', hcopy, htext⟩ := ih _ stored
          (by
            rw [hlower, ← Nat.add_assoc, ← List.drop_drop, hdrop]
            rfl)
          hfront (by rw [hlower, hsize]; omega)
        rw [hlower, Nat.add_right_comm] at hcopy
        refine ⟨hostname', hsize'.trans hsize, ?_, ?_⟩
        · rw [hstored, Option.bind_some, ← Nat.add_assoc, hcopy, Option.isSome_map]
        · intro text hmem
          obtain ⟨lower, hlower, rfl⟩ := Option.map_eq_some_iff.mp hmem
          have h := htext lower hlower
          rwa [List.append_assoc copied] at h

/-- **The loop over the entries** stays in its buffers, by induction on what is left of the
list. -/
theorem scan_server_names_in_scans {name_list_end : ℕ} (hend : name_list_end ≤ hello.length)
    {n : ℕ} :
    ∀ (name_offset : ℕ) (sni : Option (List UInt8)) (hostname : List UInt8),
      name_list_end - name_offset ≤ n → hostname.length = hostname_size → NameHeld sni hostname →
      ScansAs hostname_size
        (scan_server_names_in buffer name_list_end hostname_size name_offset hostname sni.isSome)
        (scan_server_names hello name_list_end hostname_size name_offset sni) := by
  induction n with
  | zero =>
      intro name_offset sni hostname hn hsize hheld
      rw [scan_server_names_in, scan_server_names, if_neg (by omega), if_neg (by omega)]
      exact .scanned name_offset hsize hheld
  | succ n ih =>
      intro name_offset sni hostname hn hsize hheld
      rw [scan_server_names_in, scan_server_names]
      by_cases hin : name_offset < name_list_end
      swap
      · rw [if_neg hin, if_neg hin]
        exact .scanned name_offset hsize hheld
      rw [if_pos hin, if_pos hin, size_sub_eq_some (by omega)]
      simp only [Option.bind_eq_bind, Option.bind_some]
      by_cases hthree : name_list_end - name_offset < 3
      · rw [if_pos hthree, if_pos hthree]
        exact .refused hsize
      rw [if_neg hthree, if_neg hthree, byte_in hhello (by omega),
        read_u16_in_eq hhello (by omega), size_sub_eq_some (by omega)]
      simp only [Option.bind_some]
      generalize byte_at hello name_offset = name_type
      generalize hlength : read_u16 hello (name_offset + 1) = name_length
      by_cases hlong : name_length > name_list_end - (name_offset + 3)
      · rw [if_pos hlong, if_pos hlong]
        exact .refused hsize
      rw [if_neg hlong, if_neg hlong]
      by_cases htype : name_type = 0
      swap
      · -- another name type is skipped
        rw [if_neg htype, if_neg htype]
        exact ih _ sni hostname (by omega) hsize hheld
      rw [if_pos htype, if_pos htype]
      by_cases hbad : sni.isSome = true ∨ name_length = 0 ∨ name_length ≥ hostname_size
      · rw [if_pos hbad, if_pos hbad]
        exact .refused hsize
      rw [if_neg hbad, if_neg hbad]
      -- the name fits in the message and, with its terminator, in the buffer
      have hname : ((hello.drop (name_offset + 3)).take name_length).length = name_length := by
        rw [List.length_take, List.length_drop]
        omega
      obtain ⟨copied, hcopied, hcopy, htext⟩ := copy_hostname_in_copies hhello
        ((hello.drop (name_offset + 3)).take name_length) [] hostname
        (List.take_append_drop name_length _).symm List.nil_prefix
        (by rw [hname, List.length_nil]; omega)
      rw [hname, List.length_nil, Nat.zero_add] at hcopy
      rw [hcopy, Option.bind_some]
      cases hresult : copy_hostname ((hello.drop (name_offset + 3)).take name_length) with
      | none => exact .refused (hcopied.trans hsize)
      | some text =>
          rw [hresult] at htext
          exact ih _ (some text) copied (by omega) (hcopied.trans hsize) htext

theorem parse_server_name_extension_in_names {offset extension_length : ℕ}
    (hend : offset + extension_length ≤ hello.length) {sni : Option (List UInt8)}
    {hostname : List UInt8} (hsize : hostname.length = hostname_size)
    (hheld : NameHeld sni hostname) :
    NamesAs hostname_size
      (parse_server_name_extension_in buffer hostname_size offset extension_length hostname
        sni.isSome)
      (parse_server_name_extension hello hostname_size offset extension_length sni) := by
  rw [parse_server_name_extension_in, parse_server_name_extension]
  by_cases hfive : extension_length < 5
  · rw [if_pos hfive, if_pos hfive]
    exact .refused hsize
  rw [if_neg hfive, if_neg hfive, read_u16_in_eq hhello (by omega), size_sub_eq_some (by omega)]
  simp only [Option.bind_eq_bind, Option.bind_some]
  by_cases hlength : read_u16 hello offset ≠ extension_length - 2
  · rw [if_pos hlength, if_pos hlength]
    exact .refused hsize
  rw [if_neg hlength, if_neg hlength]
  have hscan := scan_server_names_in_scans hhello
    (show offset + 2 + read_u16 hello offset ≤ hello.length by omega) (offset + 2) sni hostname
    le_rfl hsize hheld
  generalize scan_server_names_in buffer (offset + 2 + read_u16 hello offset) hostname_size
    (offset + 2) hostname sni.isSome = scanned at hscan ⊢
  generalize scan_server_names hello (offset + 2 + read_u16 hello offset) hostname_size
    (offset + 2) sni = expected at hscan ⊢
  cases hscan with
  | refused hsize' => exact .refused hsize'
  | scanned name_offset hsize' hheld' =>
      dsimp only [Option.bind_some]
      by_cases hover : name_offset ≠ offset + 2 + read_u16 hello offset
      · rw [if_pos hover, if_pos hover]
        exact .refused hsize'
      · rw [if_neg hover, if_neg hover]
        exact .accepted hsize' hheld'

/-- **The loop over the extensions** stays in its buffers, by induction on what is left of the
block. -/
theorem scan_extensions_in_parses {extensions_end : ℕ} (hend : extensions_end ≤ hello.length)
    {n : ℕ} :
    ∀ (offset : ℕ) (sni : Option (List UInt8)) (ech_present : Bool) (hostname : List UInt8),
      extensions_end - offset ≤ n → hostname.length = hostname_size → NameHeld sni hostname →
      ParsesAs hostname_size
        (scan_extensions_in buffer extensions_end hostname_size offset hostname sni.isSome
          ech_present)
        (scan_extensions hello extensions_end hostname_size offset sni ech_present) := by
  have hdone : ∀ (offset : ℕ) (sni : Option (List UInt8)) (ech_present : Bool)
      (hostname : List UInt8), ¬ offset < extensions_end → hostname.length = hostname_size →
      NameHeld sni hostname →
      ParsesAs hostname_size
        (scan_extensions_in buffer extensions_end hostname_size offset hostname sni.isSome
          ech_present)
        (scan_extensions hello extensions_end hostname_size offset sni ech_present) := by
    intro offset sni ech_present hostname hin hsize hheld
    rw [scan_extensions_in, scan_extensions.eq_def, if_neg hin, if_neg hin]
    by_cases hover : offset ≠ extensions_end
    · rw [if_pos hover, if_pos hover]
      exact .invalid hsize ech_present
    rw [if_neg hover, if_neg hover]
    cases sni with
    | none => exact .nameless hsize (by decide) ech_present
    | some name =>
        exact .parsed ⟨.FOUND, name, ech_present⟩ hsize fun _ => hheld name rfl
  induction n with
  | zero =>
      intro offset sni ech_present hostname hn
      exact hdone offset sni ech_present hostname (by omega)
  | succ n ih =>
      intro offset sni ech_present hostname hn hsize hheld
      by_cases hin : offset < extensions_end
      swap
      · exact hdone offset sni ech_present hostname hin hsize hheld
      rw [scan_extensions_in, scan_extensions.eq_def, if_pos hin, if_pos hin,
        size_sub_eq_some (by omega)]
      simp only [Option.bind_eq_bind, Option.bind_some]
      by_cases hfour : extensions_end - offset < 4
      · rw [if_pos hfour, if_pos hfour]
        exact .invalid hsize ech_present
      rw [if_neg hfour, if_neg hfour, read_u16_in_eq hhello (by omega),
        read_u16_in_eq hhello (by omega), size_sub_eq_some (by omega)]
      simp only [Option.bind_some]
      generalize read_u16 hello offset = type
      generalize read_u16 hello (offset + 2) = extension_length
      by_cases hlong : extension_length > extensions_end - (offset + 4)
      · rw [if_pos hlong, if_pos hlong]
        exact .invalid hsize ech_present
      rw [if_neg hlong, if_neg hlong]
      by_cases hname : type = TLS_EXTENSION_SERVER_NAME
      swap
      · rw [if_neg hname, if_neg hname]
        exact ih _ sni _ hostname (by omega) hsize hheld
      rw [if_pos hname, if_pos hname]
      have hnames := parse_server_name_extension_in_names hhello
        (show offset + 4 + extension_length ≤ hello.length by omega) hsize hheld
      generalize parse_server_name_extension_in buffer hostname_size (offset + 4)
        extension_length hostname sni.isSome = parsed at hnames ⊢
      generalize parse_server_name_extension hello hostname_size (offset + 4) extension_length
        sni = expected at hnames ⊢
      cases hnames with
      | refused hsize' => exact .invalid hsize' _
      | accepted hsize' hheld' => exact ih _ _ _ _ (by omega) hsize' hheld'

/-- **The message stays in its buffers**, and comes to what it comes to without them. -/
theorem parse_client_hello_in_parses {hostname : List UInt8}
    (hsize : hostname.length = hostname_size) :
    ParsesAs hostname_size
      (parse_client_hello_in buffer hello.length hostname_size hostname)
      (parse_client_hello hello hostname_size) := by
  rw [parse_client_hello_in, parse_client_hello, skip_fixed_fields_in_eq hhello]
  simp only [Option.bind_eq_bind, Option.bind_some]
  cases skip_fixed_fields hello with
  | none => exact .invalid hsize false
  | some offset =>
      dsimp only
      by_cases hend : offset = hello.length
      · rw [if_pos hend, if_pos hend]
        exact .nameless hsize (by decide) false
      rw [if_neg hend, if_neg hend]
      by_cases hroom : offset + 2 > hello.length
      · rw [if_pos hroom, if_pos hroom]
        exact .invalid hsize false
      rw [if_neg hroom, if_neg hroom, read_u16_in_eq hhello (by omega),
        size_sub_eq_some (by omega)]
      simp only [Option.bind_some]
      by_cases hlength : read_u16 hello offset ≠ hello.length - (offset + 2)
      · rw [if_pos hlength, if_pos hlength]
        exact .invalid hsize false
      rw [if_neg hlength, if_neg hlength]
      exact scan_extensions_in_parses hhello (by omega) _ none false hostname le_rfl hsize
        fun name hname => absurd hname (Option.not_mem_none name)

end Message

/-! ## The counters -/

/-- The message's two counters while it decides nothing. -/
theorem Reading.message {hostname_size : ℕ} {parser : tls_sni_parser_t}
    (h : Reading hostname_size parser) :
    (parser.client_hello_expected = 0 ∧ parser.client_hello.length < 4) ∨
      (5 ≤ parser.client_hello_expected ∧
        parser.client_hello_expected ≤ TLS_CLIENT_HELLO_MAX_SIZE ∧
        parser.client_hello.length < parser.client_hello_expected) := by
  have hu := h.undecided
  rw [h.expected_eq]
  by_cases hshort : parser.client_hello.length < 4
  · exact .inl ⟨if_pos hshort, hshort⟩
  have hne : parser.client_hello ≠ [] := by
    intro hnil
    rw [hnil] at hshort
    exact hshort (by decide)
  unfold hello_verdict at hu
  rw [if_neg hne, if_neg hshort] at hu
  split_ifs at hu with htype hbad hpart
  exact .inr ⟨by omega, by omega, hpart⟩

/-- Whether the collected bytes decide anything does not depend on the host name buffer. -/
theorem hello_verdict_eq_none {hostname_size : ℕ} {hello : List UInt8}
    (h : hello_verdict hostname_size hello = none) (other_size : ℕ) :
    hello_verdict other_size hello = none := by
  unfold hello_verdict at h ⊢
  split_ifs at h ⊢ <;> rfl

theorem Reading.of_size {hostname_size : ℕ} {parser : tls_sni_parser_t}
    (h : Reading hostname_size parser) (other_size : ℕ) : Reading other_size parser :=
  { h with undecided := hello_verdict_eq_none h.undecided other_size }

/-- The parser with its buffers: what it holds, in a `record_header` and a `client_hello`. -/
def tls_sni_parser_t.within (parser : tls_sni_parser_t) (record_header client_hello : List UInt8) :
    parser_buffers where
  record_header := record_header
  record_header_used := parser.record_header.length
  record_remaining := parser.record_remaining
  client_hello := client_hello
  client_hello_used := parser.client_hello.length
  client_hello_expected := parser.client_hello_expected
  ech_present := parser.ech_present
  finished := parser.finished

/-- The buffers of a parser have their sizes, and begin with what the parser without buffers
holds. -/
inductive Holds (buffers : parser_buffers) (parser : tls_sni_parser_t) : Prop
  | within {record_header client_hello : List UInt8}
      (eq_within : buffers = parser.within record_header client_hello)
      (header_size : record_header.length = 5)
      (header_held : parser.record_header <+: record_header)
      (hello_size : client_hello.length = TLS_CLIENT_HELLO_MAX_SIZE)
      (hello_held : parser.client_hello <+: client_hello) : Holds buffers parser

theorem holds_init : Holds init_in tls_sni_parser_init :=
  .within rfl List.length_replicate List.nil_prefix List.length_replicate List.nil_prefix

/-- A call on the buffers next to one without them. -/
inductive FeedsAs (hostname_size : ℕ) : feed_buffers → feed_outcome → Prop
  | fed {parser : parser_buffers} {hostname : List UInt8} (outcome : feed_outcome)
      (size_eq : hostname.length = hostname_size)
      (held : outcome.result = .FOUND → outcome.hostname ++ [0] <+: hostname)
      (parser_held : Holds parser outcome.parser) :
      FeedsAs hostname_size ⟨outcome.result, hostname, parser⟩ outcome

theorem FeedsAs.invalid {hostname_size : ℕ} {hostname : List UInt8} {parser : parser_buffers}
    {left : tls_sni_parser_t} (hsize : hostname.length = hostname_size) (h : Holds parser left) :
    FeedsAs hostname_size ⟨.INVALID, hostname, parser⟩ ⟨.INVALID, [], left⟩ :=
  .fed ⟨.INVALID, [], left⟩ hsize nofun h

theorem Holds.finish {buffers : parser_buffers} {parser : tls_sni_parser_t}
    (h : Holds buffers parser) : Holds buffers.finish parser.finish := by
  obtain ⟨rfl, hheader, hheader', hhello, hhello'⟩ := h
  exact .within rfl hheader hheader' hhello hhello'

/-! ## One round -/

section Round

variable {parser : tls_sni_parser_t} {record_header client_hello : List UInt8}

variable (client_hello) in
/-- **The loop over the record header** fills it up with the input, by induction on the room
that is left in it. -/
theorem read_header_in_reads (data : List UInt8) {room : ℕ} :
    ∀ (parser : tls_sni_parser_t) (record_header : List UInt8) (input_offset : ℕ),
      room = 5 - parser.record_header.length → record_header.length = 5 →
      parser.record_header <+: record_header → input_offset ≤ data.length →
      ∃ (filled : List UInt8) (next_offset : ℕ), filled.length = 5 ∧
        parser.record_header ++ (data.drop input_offset).take room <+: filled ∧
        data.drop next_offset = (data.drop input_offset).drop room ∧
        input_offset ≤ next_offset ∧ next_offset ≤ data.length ∧
        read_header_in data (parser.within record_header client_hello) input_offset
          = some (tls_sni_parser_t.within
              { parser with
                record_header := parser.record_header ++ (data.drop input_offset).take room }
              filled client_hello, next_offset) := by
  induction room with
  | zero =>
      intro parser record_header input_offset hroom hsize hheld hoffset
      refine ⟨record_header, input_offset, hsize, ?_, rfl, le_rfl, hoffset, ?_⟩
      · rwa [List.take_zero, List.append_nil]
      · have hfull : ¬ parser.record_header.length < 5 := by omega
        rw [read_header_in, if_neg (fun h => hfull h.1), List.take_zero, List.append_nil]
  | succ room ih =>
      intro parser record_header input_offset hroom hsize hheld hoffset
      have hused : parser.record_header.length < 5 := by omega
      rw [read_header_in]
      by_cases hin : input_offset < data.length
      · -- one byte, and then the other ones
        obtain ⟨stored, hstored, hsize', hfront⟩ := store_append hheld [data[input_offset]]
          (by rw [List.length_singleton]; omega)
        have hdrop : data.drop input_offset = data[input_offset] :: data.drop (input_offset + 1) :=
          List.drop_eq_getElem_cons hin
        obtain ⟨filled, next_offset, hfilled, hprefix, hrest, hle, hend, hread⟩ :=
          ih { parser with record_header := parser.record_header ++ [data[input_offset]] } stored
            (input_offset + 1) (by rw [List.length_append, List.length_singleton]; omega)
            (hsize'.trans hsize) hfront hin
        refine ⟨filled, next_offset, hfilled, ?_, ?_, by omega, hend, ?_⟩
        · rw [hdrop, List.take_succ_cons]
          rwa [List.append_assoc] at hprefix
        · rw [hdrop, List.drop_succ_cons, hrest]
        · rw [if_pos ⟨hused, hin⟩, List.getElem?_eq_getElem hin]
          simp only [tls_sni_parser_t.within, Option.bind_eq_bind, Option.bind_some]
          rw [hstored, Option.bind_some, hdrop, List.take_succ_cons]
          rw [tls_sni_parser_t.within, List.length_append, List.append_assoc] at hread
          exact hread
      · -- the input is over
        have hnil : data.drop input_offset = [] := List.drop_of_length_le (Nat.not_lt.mp hin)
        refine ⟨record_header, input_offset, hsize, ?_, ?_, le_rfl, hoffset, ?_⟩
        · rwa [hnil, List.take_nil, List.append_nil]
        · rw [hnil, List.drop_nil]
        · rw [if_neg (fun h => hin h.2), hnil, List.take_nil, List.append_nil]

theorem open_record_in_opens (hheld : parser.record_header <+: record_header)
    (hfull : parser.record_header.length = 5) :
    open_record_in (parser.within record_header client_hello)
      = some ((open_record parser).map (·.within record_header client_hello)) := by
  rw [open_record_in, open_record, tls_sni_parser_t.within]
  dsimp only
  rw [byte_in hheld (by omega), read_u16_in_eq hheld (by omega)]
  simp only [Option.bind_eq_bind, Option.bind_some]
  by_cases hopen : parser.record_remaining = 0
  swap
  · rw [if_neg hopen, if_neg hopen]
    rfl
  rw [if_pos hopen, if_pos hopen]
  split_ifs <;> rfl

variable (record_header) in
/-- **The copy of a round** stays in the input and in `client_hello`. -/
theorem copy_bytes_in_copies {data : List UInt8} {input_offset : ℕ}
    (hoffset : input_offset ≤ data.length) (hsize : client_hello.length = TLS_CLIENT_HELLO_MAX_SIZE)
    (hheld : parser.client_hello <+: client_hello)
    (hmessage : (parser.client_hello_expected = 0 ∧ parser.client_hello.length < 4) ∨
      (5 ≤ parser.client_hello_expected ∧
        parser.client_hello_expected ≤ TLS_CLIENT_HELLO_MAX_SIZE ∧
        parser.client_hello.length < parser.client_hello_expected))
    {copy_length : ℕ} (hcopy : copy_length
      = min (min (data.drop input_offset).length parser.record_remaining)
          (tls_sni_parser_t.wanted parser)) :
    ∃ stored : List UInt8, stored.length = TLS_CLIENT_HELLO_MAX_SIZE ∧
      parser.client_hello ++ (data.drop input_offset).take copy_length <+: stored ∧
      copy_bytes_in data (parser.within record_header client_hello) input_offset
        = some (tls_sni_parser_t.within
            { parser with
              client_hello := parser.client_hello ++ (data.drop input_offset).take copy_length
              record_remaining := parser.record_remaining - copy_length }
            record_header stored, input_offset + copy_length) := by
  have hmax : TLS_CLIENT_HELLO_MAX_SIZE = 2048 := rfl
  -- `wanted` does not wrap around, and it keeps the copy in the buffer
  have hwanted : (parser.within record_header client_hello).wanted
      = some (tls_sni_parser_t.wanted parser) := by
    rw [parser_buffers.wanted, tls_sni_parser_t.wanted, tls_sni_parser_t.within]
    dsimp only
    rcases hmessage with ⟨hzero, hshort⟩ | ⟨hfive, -, hpart⟩
    · rw [if_pos hzero, if_pos hzero, size_sub_eq_some (by omega)]
    · have hne : ¬ parser.client_hello_expected = 0 := by omega
      rw [if_neg hne, if_neg hne, size_sub_eq_some (by omega)]
  have hroom : parser.client_hello.length + tls_sni_parser_t.wanted parser
      ≤ TLS_CLIENT_HELLO_MAX_SIZE := by
    rw [tls_sni_parser_t.wanted]
    split_ifs with hzero <;> omega
  rw [List.length_drop] at hcopy
  have hlength : ((data.drop input_offset).take copy_length).length = copy_length := by
    rw [List.length_take, List.length_drop]
    omega
  obtain ⟨stored, hstored, hsize', hfront⟩ := store_append hheld
    ((data.drop input_offset).take copy_length) (by omega)
  refine ⟨stored, hsize'.trans hsize, hfront, ?_⟩
  rw [copy_bytes_in, hwanted, size_sub_eq_some hoffset]
  simp only [tls_sni_parser_t.within, Option.bind_eq_bind, Option.bind_some]
  rw [← hcopy, load_eq_some (by omega), Option.bind_some]
  -- the cast to `uint16_t` keeps the length of a copy
  rw [hstored, Option.bind_some, Nat.mod_eq_of_lt (by omega), size_sub_eq_some (by omega),
    Option.bind_some, List.length_append, hlength]
  rfl

theorem wrong_type_in_eq (hheld : parser.client_hello <+: client_hello) :
    wrong_type_in (parser.within record_header client_hello)
      = some (decide (parser.client_hello.length ≥ 1 ∧
          byte_at parser.client_hello 0 ≠ TLS_HANDSHAKE_CLIENT_HELLO)) := by
  rw [wrong_type_in, tls_sni_parser_t.within]
  dsimp only
  by_cases hone : parser.client_hello.length ≥ 1
  · rw [if_pos hone, byte_in hheld (by omega), Option.map_some]
    simp only [hone, true_and]
  · rw [if_neg hone]
    simp only [hone, false_and, decide_false]

theorem body_length_in_eq {hello buffer : List UInt8} (hheld : hello <+: buffer)
    (hfour : 4 ≤ hello.length) : body_length_in buffer = some (hello_body_length hello) := by
  rw [body_length_in, byte_in hheld (by omega), byte_in hheld (by omega),
    byte_in hheld (by omega)]
  rfl

/-- The parser with the length of its message, if its handshake header has just become
complete. -/
def tls_sni_parser_t.measure (parser : tls_sni_parser_t) : tls_sni_parser_t :=
  if parser.client_hello.length = 4 ∧ parser.client_hello_expected = 0 then
    { parser with client_hello_expected := hello_body_length parser.client_hello + 4 }
  else parser

/-- That length is refused. -/
def tls_sni_parser_t.BadLength (parser : tls_sni_parser_t) : Prop :=
  (parser.client_hello.length = 4 ∧ parser.client_hello_expected = 0) ∧
    (parser.measure.client_hello_expected > TLS_CLIENT_HELLO_MAX_SIZE ∨
      parser.measure.client_hello_expected ≤ 4)

instance (parser : tls_sni_parser_t) : Decidable parser.BadLength :=
  inferInstanceAs (Decidable (_ ∧ _))

theorem check_client_hello_measure (parser : tls_sni_parser_t) (hostname_size : ℕ) :
    check_client_hello parser hostname_size
      = if parser.client_hello.length ≥ 1 ∧
            byte_at parser.client_hello 0 ≠ TLS_HANDSHAKE_CLIENT_HELLO then
          .inr ⟨.INVALID, [], parser.finish⟩
        else if parser.BadLength then .inr ⟨.INVALID, [], parser.measure.finish⟩
        else if parser.measure.client_hello_expected > 0 ∧
            parser.measure.client_hello.length = parser.measure.client_hello_expected then
          .inr ⟨(parse_client_hello parser.measure.client_hello hostname_size).result,
            (parse_client_hello parser.measure.client_hello hostname_size).hostname,
            { parser.measure.finish with
              ech_present := parser.measure.ech_present ||
                (parse_client_hello parser.measure.client_hello hostname_size).ech_present }⟩
        else if parser.measure.record_remaining = 0 then
          .inl { parser.measure with record_header := [] }
        else .inl parser.measure := rfl

variable (record_header) in
theorem measure_in_eq (hheld : parser.client_hello <+: client_hello) :
    ∃ refused, (refused = true ↔ parser.BadLength) ∧
      measure_in (parser.within record_header client_hello)
        = some (parser.measure.within record_header client_hello, refused) := by
  rw [measure_in, tls_sni_parser_t.BadLength, tls_sni_parser_t.measure, tls_sni_parser_t.within]
  dsimp only
  by_cases hfour : parser.client_hello.length = 4 ∧ parser.client_hello_expected = 0
  · rw [if_pos hfour, if_pos hfour, body_length_in_eq hheld (by omega)]
    refine ⟨_, ?_, rfl⟩
    rw [decide_eq_true_eq]
    exact (and_iff_right hfour).symm
  · rw [if_neg hfour, if_neg hfour]
    exact ⟨false, iff_of_false nofun fun h => hfour h.1, rfl⟩

theorem measure_keeps (parser : tls_sni_parser_t) :
    parser.measure.client_hello = parser.client_hello ∧
      parser.measure.record_header = parser.record_header := by
  rw [tls_sni_parser_t.measure]
  split_ifs <;> exact ⟨rfl, rfl⟩

/-- **The checks of a round** stay in `client_hello`, in `record_header` and in the host name
buffer. -/
theorem check_client_hello_in_checks {hostname_size : ℕ} {hostname : List UInt8}
    (hsize : hostname.length = hostname_size) (hheader : record_header.length = 5)
    (hheader_held : parser.record_header <+: record_header)
    (hhello : client_hello.length = TLS_CLIENT_HELLO_MAX_SIZE)
    (hheld : parser.client_hello <+: client_hello) :
    ∃ step, check_client_hello_in (parser.within record_header client_hello) hostname_size hostname
        = some step ∧
      Sum.LiftRel Holds (FeedsAs hostname_size) step
        (check_client_hello parser hostname_size) := by
  have hholds : Holds (parser.within record_header client_hello) parser :=
    .within rfl hheader hheader_held hhello hheld
  rw [check_client_hello_in, check_client_hello_measure, wrong_type_in_eq hheld]
  simp only [Option.bind_eq_bind, Option.bind_some, decide_eq_true_eq]
  by_cases htype : parser.client_hello.length ≥ 1 ∧
      byte_at parser.client_hello 0 ≠ TLS_HANDSHAKE_CLIENT_HELLO
  · rw [if_pos htype, if_pos htype]
    exact ⟨_, rfl, .inr (.invalid hsize hholds.finish)⟩
  rw [if_neg htype, if_neg htype]
  obtain ⟨refused, hrefused, hmeasure⟩ := measure_in_eq record_header hheld
  obtain ⟨hhello_eq, hheader_eq⟩ := measure_keeps parser
  rw [← hhello_eq] at hheld
  rw [← hheader_eq] at hheader_held
  rw [hmeasure, Option.bind_some]
  generalize parser.measure = measured at *
  have hholds' : Holds (measured.within record_header client_hello) measured :=
    .within rfl hheader hheader_held hhello hheld
  by_cases hbad : parser.BadLength
  · rw [if_pos (hrefused.mpr hbad), if_pos hbad]
    exact ⟨_, rfl, .inr (.invalid hsize hholds'.finish)⟩
  rw [if_neg (mt hrefused.mp hbad), if_neg hbad]
  set buffers := measured.within record_header client_hello with hbuffers
  by_cases hdone : measured.client_hello_expected > 0 ∧
      measured.client_hello.length = measured.client_hello_expected
  · -- the whole message is there
    have hdone' : buffers.client_hello_expected > 0 ∧
        buffers.client_hello_used = buffers.client_hello_expected := hdone
    have hparse := parse_client_hello_in_parses hheld hsize
    rw [hdone.2] at hparse
    rw [if_pos hdone', if_pos hdone]
    change ∃ step, (parse_client_hello_in client_hello measured.client_hello_expected
      hostname_size hostname).bind _ = some step ∧ _
    generalize parse_client_hello_in client_hello measured.client_hello_expected hostname_size
      hostname = parsed at hparse ⊢
    generalize parse_client_hello measured.client_hello hostname_size = outcome at hparse ⊢
    cases hparse with
    | parsed _ hsize' hfound =>
        refine ⟨_, rfl, .inr (.fed ⟨outcome.result, outcome.hostname, _⟩ hsize' hfound ?_)⟩
        exact .within rfl hheader hheader_held hhello hheld
  have hdone' : ¬ (buffers.client_hello_expected > 0 ∧
      buffers.client_hello_used = buffers.client_hello_expected) := hdone
  rw [if_neg hdone', if_neg hdone]
  by_cases hend : measured.record_remaining = 0
  · -- the record is over, and its header is cleared
    have hend' : buffers.record_remaining = 0 := hend
    obtain ⟨cleared, hcleared, hsize', -⟩ := store_front (List.replicate 5 0)
      (show (List.replicate 5 (0 : UInt8)).length ≤ buffers.record_header.length by
        rw [List.length_replicate]
        exact Nat.le_of_eq hheader.symm)
    rw [if_pos hend', if_pos hend, hcleared, Option.bind_some]
    refine ⟨_, rfl, .inl ?_⟩
    exact .within rfl (hsize'.trans hheader) List.nil_prefix hhello hheld
  · have hend' : ¬ buffers.record_remaining = 0 := hend
    rw [if_neg hend', if_neg hend]
    exact ⟨_, rfl, .inl hholds'⟩

/-- What a round goes on with on the buffers next to what it goes on with without them. -/
def GoesOnAs (data : List UInt8) (next : parser_buffers × ℕ)
    (next' : tls_sni_parser_t × List UInt8) : Prop :=
  Holds next.1 next'.1 ∧ next.2 ≤ data.length ∧ next'.2 = data.drop next.2

/-- The second half of a round. -/
theorem copy_payload_in_rounds {hostname_size : ℕ} {hostname data : List UInt8}
    {buffers : parser_buffers} {input_offset : ℕ} (hholds : Holds buffers parser)
    (hmessage : (parser.client_hello_expected = 0 ∧ parser.client_hello.length < 4) ∨
      (5 ≤ parser.client_hello_expected ∧
        parser.client_hello_expected ≤ TLS_CLIENT_HELLO_MAX_SIZE ∧
        parser.client_hello.length < parser.client_hello_expected))
    (hsize : hostname.length = hostname_size) (hoffset : input_offset ≤ data.length) :
    ∃ step, copy_payload_in hostname_size hostname data buffers input_offset = some step ∧
      Sum.LiftRel (GoesOnAs data) (FeedsAs hostname_size) step
        (copy_payload hostname_size parser (data.drop input_offset)) := by
  obtain ⟨rfl, hheader, hheader_held, hhello, hhello_held⟩ := hholds
  rename_i record_header client_hello
  obtain ⟨copy_length, hlength⟩ : ∃ copy_length, copy_length
      = min (min (data.drop input_offset).length parser.record_remaining)
          (tls_sni_parser_t.wanted parser) := ⟨_, rfl⟩
  obtain ⟨stored, hstored, hstored_held, hcopy⟩ :=
    copy_bytes_in_copies record_header hoffset hhello hhello_held hmessage hlength
  rw [copy_payload_in, copy_payload, hcopy, ← hlength]
  dsimp only
  generalize hcopied : ({ parser with
    client_hello := parser.client_hello ++ (data.drop input_offset).take copy_length
    record_remaining := parser.record_remaining - copy_length } : tls_sni_parser_t) = copied
  have hheader_held' : copied.record_header <+: record_header := by
    rw [← hcopied]
    exact hheader_held
  rw [show parser.client_hello ++ (data.drop input_offset).take copy_length
    = copied.client_hello by rw [← hcopied]] at hstored_held
  obtain ⟨step, hcheck, hstep⟩ :=
    check_client_hello_in_checks hsize hheader hheader_held' hstored hstored_held
  simp only [Option.bind_eq_bind, Option.bind_some, hcheck]
  have hend : input_offset + copy_length ≤ data.length := by
    rw [List.length_drop] at hlength
    omega
  generalize check_client_hello copied hostname_size = checked at hstep ⊢
  cases hstep with
  | inl hnext => exact ⟨_, rfl, .inl ⟨hnext, hend, List.drop_drop⟩⟩
  | inr hfeeds => exact ⟨_, rfl, .inr hfeeds⟩

theorem open_record_keeps {parser opened : tls_sni_parser_t}
    (h : open_record parser = some opened) :
    opened.record_header = parser.record_header ∧ opened.client_hello = parser.client_hello ∧
      opened.client_hello_expected = parser.client_hello_expected := by
  unfold open_record at h
  split_ifs at h <;> obtain rfl := Option.some.inj h <;> exact ⟨rfl, rfl, rfl⟩

/-- **A round of the main loop** stays in its buffers, and does what it does without them. -/
theorem feed_round_in_rounds {hostname_size : ℕ} {hostname data : List UInt8}
    {buffers : parser_buffers} {input_offset : ℕ} (hreading : Reading hostname_size parser)
    (hholds : Holds buffers parser) (hsize : hostname.length = hostname_size)
    (hoffset : input_offset ≤ data.length) :
    ∃ step, feed_round_in hostname_size hostname data buffers input_offset = some step ∧
      Sum.LiftRel (GoesOnAs data) (FeedsAs hostname_size) step
        (feed_round hostname_size parser (data.drop input_offset)) := by
  obtain ⟨rfl, hheader, hheader_held, hhello, hhello_held⟩ := hholds
  rename_i record_header client_hello
  obtain ⟨filled, next_offset, hfilled, hfilled_held, hrest, -, hnext, hread⟩ :=
    read_header_in_reads client_hello data parser record_header input_offset rfl hheader
      hheader_held hoffset
  rw [feed_round_in, feed_round, hread, ← hrest]
  simp only [Option.bind_eq_bind, Option.bind_some]
  have hle := hfilled_held.length_le
  set read : tls_sni_parser_t := { parser with
    record_header := parser.record_header ++
      (data.drop input_offset).take (5 - parser.record_header.length) }
  have hholds : Holds (read.within filled client_hello) read :=
    .within rfl hfilled hfilled_held hhello hhello_held
  have hpart_iff : (read.within filled client_hello).record_header_used < 5 ↔
      (parser.record_header ++
        (data.drop input_offset).take (5 - parser.record_header.length)).length < 5 := Iff.rfl
  by_cases hpart : (read.within filled client_hello).record_header_used < 5
  · -- the input ends inside the record header
    rw [if_pos hpart, if_pos (hpart_iff.mp hpart)]
    exact ⟨_, rfl, .inr (.fed ⟨.NEED_MORE, [], read⟩ hsize nofun hholds)⟩
  rw [if_neg hpart, if_neg (mt hpart_iff.mpr hpart), open_record_in_opens hfilled_held
    (Nat.le_antisymm (hfilled ▸ hle) (Nat.not_lt.mp hpart)), Option.bind_some]
  cases hopen : open_record read with
  | none => exact ⟨_, rfl, .inr (.invalid hsize hholds.finish)⟩
  | some opened =>
      obtain ⟨hheader', hhello', hexpected⟩ := open_record_keeps hopen
      apply copy_payload_in_rounds
      · exact .within rfl hfilled (hheader' ▸ hfilled_held) hhello (hhello' ▸ hhello_held)
      · rw [hhello', hexpected]
        exact hreading.message
      · exact hsize
      · exact hnext

end Round

/-! ## Calls -/

/-- The main loop, by induction on its rounds without buffers. -/
theorem feed_loop_in_feeds {hostname_size : ℕ} {hostname data : List UInt8}
    (hsize : hostname.length = hostname_size) {state : tls_sni_parser_t × List UInt8}
    {outcome : feed_outcome} (hexits : Loop.Exits (feed_body hostname_size) state outcome) :
    ∀ (buffers : parser_buffers) (input_offset : ℕ), Reading hostname_size state.1 →
      Holds buffers state.1 → input_offset ≤ data.length → state.2 = data.drop input_offset →
      ∃ fed, feed_loop_in hostname_size hostname data buffers input_offset = some fed ∧
        FeedsAs hostname_size fed outcome := by
  induction hexits with
  | @leave state outcome hbody =>
      intro buffers input_offset hreading hholds hoffset hrest
      rw [feed_loop_in]
      unfold feed_body at hbody
      split_ifs at hbody with hnil
      · -- the input is over
        rw [hrest, List.drop_eq_nil_iff] at hnil
        rw [if_neg (Nat.not_lt.mpr hnil), ← Sum.inr.inj hbody]
        exact ⟨_, rfl, .fed ⟨.NEED_MORE, [], state.1⟩ hsize nofun hholds⟩
      · rw [hrest, List.drop_eq_nil_iff, Nat.not_le] at hnil
        obtain ⟨step, hround, hstep⟩ := feed_round_in_rounds hreading hholds hsize hoffset
        rw [← hrest, hbody] at hstep
        rw [if_pos hnil, hround]
        cases hstep with
        | inr hfeeds => exact ⟨_, rfl, hfeeds⟩
  | @again state state' outcome hbody _ ih =>
      intro buffers input_offset hreading hholds hoffset hrest
      obtain ⟨hreading', hless, -⟩ := feed_body_step state state' hreading hbody
      unfold feed_body at hbody
      split_ifs at hbody with hnil
      rw [hrest, List.drop_eq_nil_iff, Nat.not_le] at hnil
      obtain ⟨step, hround, hstep⟩ := feed_round_in_rounds hreading hholds hsize hoffset
      rw [← hrest, hbody] at hstep
      rw [feed_loop_in, if_pos hnil, hround]
      cases hstep with
      | @inl next _ hnext =>
          obtain ⟨hholds', hoffset', hrest'⟩ := hnext
          -- the rest of the input has become shorter, so the offset has grown
          have hgrows : input_offset < next.2 := by
            rw [hrest, hrest', List.length_drop, List.length_drop] at hless
            omega
          simp only [Option.bind_eq_bind, Option.bind_some]
          rw [if_pos hgrows]
          exact ih next.1 next.2 hreading' hholds' hoffset' hrest'

/-- What a parser is between two calls: it still reads, or it has decided. -/
def Called (parser : tls_sni_parser_t) : Prop :=
  Reading TLS_SNI_HOSTNAME_SIZE parser ∨ parser.finished = true

theorem called_init : Called tls_sni_parser_init :=
  .inl (reading_init TLS_SNI_HOSTNAME_SIZE)

/-- **A call stays in its buffers**, and does what it does without them. -/
theorem feed_in_feeds {buffers : parser_buffers} {parser : tls_sni_parser_t}
    (hcalled : Called parser) (hholds : Holds buffers parser) (data hostname : List UInt8) :
    ∃ fed, feed_in buffers data hostname = some fed ∧
      FeedsAs hostname.length fed (tls_sni_parser_feed parser data hostname.length) := by
  have hfinished : buffers.finished = parser.finished := by
    obtain ⟨rfl, -⟩ := hholds
    rfl
  rw [feed_in, hfinished]
  by_cases hdone : hostname.length = 0 ∨ parser.finished = true
  · rw [if_pos hdone, tls_sni_parser_feed, if_pos hdone]
    exact ⟨_, rfl, .invalid rfl hholds⟩
  obtain ⟨hpos, hopen⟩ := not_or.mp hdone
  have hreading := (hcalled.resolve_right hopen).of_size hostname.length
  have hroom : ([0] : List UInt8).length ≤ hostname.length := Nat.pos_of_ne_zero hpos
  obtain ⟨terminated, hterminated, hsize, -⟩ := store_front [0] hroom
  rw [if_neg hdone, hterminated]
  exact feed_loop_in_feeds hsize (feed_exits hreading hpos data) buffers 0 hreading hholds
    (Nat.zero_le _) rfl

theorem check_client_hello_finished {hostname_size : ℕ} {parser : tls_sni_parser_t}
    {outcome : feed_outcome} (h : check_client_hello parser hostname_size = .inr outcome) :
    outcome.parser.finished = true := by
  simp only [check_client_hello] at h
  split_ifs at h <;> cases h <;> rfl

/-- A round that ends the call wants more, or leaves a parser that is not asked again. -/
theorem feed_body_finished {hostname_size : ℕ} {state : tls_sni_parser_t × List UInt8}
    {outcome : feed_outcome} (h : feed_body hostname_size state = .inr outcome) :
    outcome.result = .NEED_MORE ∨ outcome.parser.finished = true := by
  unfold feed_body feed_round at h
  dsimp only at h
  split_ifs at h with hnil hpart
  · exact .inl (Sum.inr.inj h ▸ rfl)
  · exact .inl (Sum.inr.inj h ▸ rfl)
  generalize open_record _ = opened at h
  cases opened with
  | none => exact .inr (Sum.inr.inj h ▸ rfl)
  | some opened =>
      unfold copy_payload at h
      dsimp only at h
      generalize hcheck : check_client_hello _ hostname_size = checked at h
      cases checked with
      | inl _ => cases h
      | inr stopped =>
          obtain rfl := Sum.inr.inj h
          exact .inr (check_client_hello_finished hcheck)

/-- A call leaves a parser that reads on or has decided. -/
theorem Called.feed {parser : tls_sni_parser_t} (h : Called parser) (data : List UInt8)
    (hostname_size : ℕ) : Called (tls_sni_parser_feed parser data hostname_size).parser := by
  by_cases hdone : hostname_size = 0 ∨ parser.finished = true
  · rw [tls_sni_parser_feed, if_pos hdone]
    exact h
  obtain ⟨hpos, hopen⟩ := not_or.mp hdone
  have hreading := (h.resolve_right hopen).of_size hostname_size
  have hleft : (tls_sni_parser_feed parser data hostname_size).result = .NEED_MORE ∨
      (tls_sni_parser_feed parser data hostname_size).parser.finished = true := by
    refine (feed_exits hreading hpos data).invariant (fun _ => True)
      (fun outcome => outcome.result = .NEED_MORE ∨ outcome.parser.finished = true)
      (fun _ _ _ _ => trivial) ?_ trivial
    intro state outcome _ hbody
    exact feed_body_finished hbody
  exact hleft.imp (fun hmore => (feed_reading hreading hpos hmore).of_size _) id

/-- **The bounds on the five counters.** -/
structure Counters (parser : parser_buffers) : Prop where
  record_header_used : parser.record_header_used ≤ 5
  client_hello_used : parser.client_hello_used ≤ 2048
  message : parser.finished = false →
    (parser.client_hello_expected = 0 ∧ parser.client_hello_used < 4) ∨
      (5 ≤ parser.client_hello_expected ∧ parser.client_hello_expected ≤ 2048 ∧
        parser.client_hello_used < parser.client_hello_expected)
  record : parser.finished = false →
    (parser.record_header_used = 5 ↔ 0 < parser.record_remaining)

theorem Holds.counters {buffers : parser_buffers} {parser : tls_sni_parser_t}
    (h : Holds buffers parser) (hcalled : Called parser) : Counters buffers := by
  obtain ⟨rfl, hheader, hheader_held, hhello, hhello_held⟩ := h
  constructor
  · exact Nat.le_trans hheader_held.length_le (Nat.le_of_eq hheader)
  · exact Nat.le_trans hhello_held.length_le (Nat.le_of_eq hhello)
  · intro hopen
    exact (hcalled.resolve_right (ne_true_of_eq_false hopen)).message
  · intro hopen
    exact (hcalled.resolve_right (ne_true_of_eq_false hopen)).header_full

/-- Any number of calls, by induction on their list. -/
theorem feeds_in_holds (calls : List (List UInt8 × List UInt8)) :
    ∀ (buffers : parser_buffers) (parser : tls_sni_parser_t), Called parser →
      Holds buffers parser →
      ∃ left, feeds_in buffers calls = some left ∧
        ∃ parser', Called parser' ∧ Holds left parser' := by
  induction calls with
  | nil =>
      intro buffers parser hcalled hholds
      exact ⟨buffers, rfl, parser, hcalled, hholds⟩
  | cons call calls ih =>
      intro buffers parser hcalled hholds
      obtain ⟨fed, hfed, hfeeds⟩ := feed_in_feeds hcalled hholds call.1 call.2
      rw [feeds_in, List.foldlM_cons, hfed]
      have hcalled' := hcalled.feed call.1 call.2.length
      generalize tls_sni_parser_feed parser call.1 call.2.length = outcome at hfeeds hcalled'
      cases hfeeds with
      | fed _ _ _ hholds' => exact ih _ _ hcalled' hholds'

/-- **The parser never leaves its buffers.** Whatever the calls, their inputs and their host
name buffers, every access, every difference of lengths and every round of every call has its
result, and between the calls the counters stay in their bounds. -/
theorem parser_stays_in_buffers (calls : List (List UInt8 × List UInt8)) :
    ∃ parser, feeds_in init_in calls = some parser ∧ Counters parser := by
  obtain ⟨parser, hfeeds, _, hcalled, hholds⟩ :=
    feeds_in_holds calls init_in tls_sni_parser_init called_init holds_init
  exact ⟨parser, hfeeds, hholds.counters hcalled⟩

end WifiManager.TlsSniParser
