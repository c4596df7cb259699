/-
ClientHello messages that name one host.

`client_hello` is a message as a client builds it: lists in the places of the fields, with
the bounds that the length fields put on them, any other extensions around `server_name`,
and in its list any entries of other types around the one host name. `parse_encode` says
what `parse_client_hello` makes of its bytes: the host name in lower case, or
`TLS_SNI_PARSE_INVALID` if `copy_hostname` refuses it. Taken apart, the message is a tree of
the module `Grammar` with exactly this host name, and what the parser makes of trees is proved
there.
-/
import Mathlib.Data.List.Basic
import WifiManager.TlsSniParser.Grammar

set_option autoImplicit false

namespace WifiManager.TlsSniParser

/-! ## Messages -/

/-- A ClientHello with a single host name and without ECH. -/
structure client_hello where
  version_random : List UInt8
  session_id : List UInt8
  cipher_suites : List UInt8
  compression_methods : List UInt8
  before : List hello_extension
  names_before : List server_name
  host_name : List UInt8
  names_after : List server_name
  after : List hello_extension
  version_random_length : version_random.length = 34
  session_id_length : session_id.length < 256
  cipher_suites_length : 2 ≤ cipher_suites.length ∧ cipher_suites.length < 65536
  cipher_suites_even : cipher_suites.length % 2 = 0
  compression_methods_length :
    1 ≤ compression_methods.length ∧ compression_methods.length < 256
  other_extensions : ∀ extension ∈ before ++ after, extension.type < 65536 ∧
    extension.type ≠ TLS_EXTENSION_SERVER_NAME ∧ extension.type ≠ TLS_EXTENSION_ECH
  other_names : ∀ entry ∈ names_before ++ names_after, entry.name_type ≠ 0
  extensions_length : ((before ++ server_name_extension (names_before ++
    ⟨0, host_name⟩ :: names_after) :: after).flatMap hello_extension.encode).length < 65536

namespace client_hello

variable (c : client_hello)

/-- The entries of the ServerNameList. -/
def entries : List server_name := c.names_before ++ ⟨0, c.host_name⟩ :: c.names_after

/-- The bytes of the extensions. -/
def extensions : List UInt8 :=
  (c.before ++ server_name_extension c.entries :: c.after).flatMap hello_extension.encode

/-- The message behind its handshake header. -/
def body : List UInt8 :=
  c.version_random ++
    (UInt8.ofNat c.session_id.length :: c.session_id ++
      (be16 c.cipher_suites.length ++ c.cipher_suites ++
        (UInt8.ofNat c.compression_methods.length :: c.compression_methods ++
          (be16 c.extensions.length ++ c.extensions))))

/-- The message. -/
def encode : List UInt8 :=
  TLS_HANDSHAKE_CLIENT_HELLO :: UInt8.ofNat (c.body.length / 65536) ::
    (be16 (c.body.length % 65536) ++ c.body)

end client_hello

/-- What a message with a single host name comes to. -/
def hostname_outcome (hostname_size : ℕ) (host_name : List UInt8) : hello_outcome :=
  match accepted_hostname hostname_size host_name with
  | none => ⟨.INVALID, [], false⟩
  | some hostname => ⟨.FOUND, hostname, false⟩

/-! ## The message -/

/-- Extensions of other types, taken apart. -/
theorem other_fields {extensions : List hello_extension}
    (hother : ∀ extension ∈ extensions, extension.type < 65536 ∧
      extension.type ≠ TLS_EXTENSION_SERVER_NAME ∧ extension.type ≠ TLS_EXTENSION_ECH)
    (hbody : ∀ extension ∈ extensions, extension.body.length < 65536) :
    ∃ fields : List parsed_extension,
      fields.flatMap parsed_extension.encode = extensions.flatMap hello_extension.encode ∧
        fields.flatMap parsed_extension.entries = [] ∧
        (fields.any fun field => field.extension.type = TLS_EXTENSION_ECH) = false := by
  induction extensions with
  | nil => exact ⟨[], rfl, rfl, rfl⟩
  | cons extension extensions ih =>
      obtain ⟨htype, hname, hech⟩ := hother extension List.mem_cons_self
      obtain ⟨fields, hbytes, hnone, hany⟩ := ih
        (fun e he => hother e (List.mem_cons_of_mem _ he))
        (fun e he => hbody e (List.mem_cons_of_mem _ he))
      refine ⟨.other extension htype (hbody extension List.mem_cons_self) hname :: fields,
        ?_, ?_, ?_⟩
      · rw [List.flatMap_cons, List.flatMap_cons, hbytes]
        rfl
      · rw [List.flatMap_cons, hnone]
        rfl
      · rw [List.any_cons, hany, Bool.or_false]
        exact decide_eq_false hech

namespace client_hello

variable (c : client_hello)

/-- The message up to its session id, its cipher suites, its compression methods and its
extensions. -/
def upto_session : List UInt8 :=
  TLS_HANDSHAKE_CLIENT_HELLO :: UInt8.ofNat (c.body.length / 65536) ::
    (be16 (c.body.length % 65536) ++ c.version_random)

def upto_ciphers : List UInt8 :=
  c.upto_session ++ UInt8.ofNat c.session_id.length :: c.session_id

def upto_compression : List UInt8 :=
  c.upto_ciphers ++ (be16 c.cipher_suites.length ++ c.cipher_suites)

def upto_extensions : List UInt8 :=
  c.upto_compression ++ UInt8.ofNat c.compression_methods.length :: c.compression_methods

theorem length_upto :
    c.upto_session.length = 38 ∧
      c.upto_ciphers.length = 39 + c.session_id.length ∧
      c.upto_compression.length = 41 + c.session_id.length + c.cipher_suites.length ∧
      c.upto_extensions.length
        = 42 + c.session_id.length + c.cipher_suites.length + c.compression_methods.length := by
  have hversion := c.version_random_length
  simp only [upto_extensions, upto_compression, upto_ciphers, upto_session, List.length_append,
    List.length_cons, length_be16]
  omega

/-- The message cut at its extensions. -/
theorem encode_eq : c.encode = c.upto_extensions ++ (be16 c.extensions.length ++ c.extensions) := by
  simp only [encode, body, upto_extensions, upto_compression, upto_ciphers, upto_session,
    List.append_assoc, List.cons_append]

theorem length_encode :
    c.encode.length = c.upto_extensions.length + (2 + c.extensions.length) := by
  rw [encode_eq, List.length_append, List.length_append, length_be16]

/-- **The message taken apart.** -/
theorem tree_encode :
    ∃ tree : hello_tree, tree.encode = c.encode ∧ tree.entries = c.entries ∧
      tree.announces_ech = false := by
  have hsmall : c.extensions.length < 65536 := c.extensions_length
  have hbodies : ∀ extension ∈ c.before ++ server_name_extension c.entries :: c.after,
      extension.body.length < 65536 := by
    intro extension hmem
    have hle := length_le_flatMap (f := hello_extension.encode) hmem
    rw [length_extension] at hle
    rw [client_hello.extensions] at hsmall
    omega
  -- the list holds at least the header of the host name's entry
  have hfive : 5 ≤ (server_name_extension c.entries).body.length := by
    have hle := length_le_flatMap (f := server_name.encode)
      (List.mem_append_right c.names_before (List.mem_cons_self (a := ⟨0, c.host_name⟩)
        (l := c.names_after)))
    rw [length_server_name] at hle
    rw [server_name_extension, List.length_append, length_be16, entries]
    omega
  obtain ⟨before, hbefore, hnone, hech⟩ := other_fields
    (fun e he => c.other_extensions e (List.mem_append_left _ he))
    (fun e he => hbodies e (List.mem_append_left _ he))
  obtain ⟨after, hafter, hnone', hech'⟩ := other_fields
    (fun e he => c.other_extensions e (List.mem_append_right _ he))
    (fun e he => hbodies e (List.mem_append_right _ (List.mem_cons_of_mem _ he)))
  let name : parsed_extension := .names c.entries hfive
    (hbodies _ (List.mem_append_right _ List.mem_cons_self))
  have hblock : (before ++ name :: after).flatMap parsed_extension.encode = c.extensions := by
    rw [List.flatMap_append, List.flatMap_cons, hbefore, hafter, client_hello.extensions,
      List.flatMap_append, List.flatMap_cons]
    rfl
  let tree : hello_tree :=
    { header := TLS_HANDSHAKE_CLIENT_HELLO :: UInt8.ofNat (c.body.length / 65536) ::
        be16 (c.body.length % 65536)
      version_random := c.version_random
      session_id := c.session_id
      cipher_suites := c.cipher_suites
      compression_methods := c.compression_methods
      extensions := some (before ++ name :: after)
      header_length := rfl
      version_random_length := c.version_random_length
      session_id_length := c.session_id_length
      cipher_suites_length := c.cipher_suites_length
      cipher_suites_even := c.cipher_suites_even
      compression_methods_length := c.compression_methods_length
      extensions_length := fun fields h => by rw [← Option.some.inj h, hblock]; exact hsmall }
  refine ⟨tree, ?_, ?_, ?_⟩
  · rw [encode_eq, hello_tree.encode, hello_tree.extension_block]
    simp only [tree, hblock]
    rfl
  · simp only [tree, hello_tree.entries, Option.getD_some, List.flatMap_append,
      List.flatMap_cons, hnone, hnone', List.nil_append, List.append_nil]
    rfl
  · simp only [tree, hello_tree.announces_ech, Option.getD_some, List.any_append, List.any_cons,
      hech, hech', Bool.false_or, Bool.or_false]
    rfl

/-- Its only host name. -/
theorem host_names_entries : host_names c.entries = [c.host_name] := by
  have hothers : ∀ entries : List server_name, (∀ entry ∈ entries, entry.name_type ≠ 0) →
      host_names entries = [] := by
    intro entries hother
    rw [host_names, List.map_eq_nil_iff, List.filter_eq_nil_iff]
    exact fun entry hentry => by rw [decide_eq_true_eq]; exact hother entry hentry
  have happend : ∀ front back : List server_name,
      host_names (front ++ back) = host_names front ++ host_names back := by
    intro front back
    rw [host_names, List.filter_append, List.map_append]
    rfl
  rw [entries, happend, host_names_cons_of_pos rfl,
    hothers _ fun e he => c.other_names e (List.mem_append_left _ he),
    hothers _ fun e he => c.other_names e (List.mem_append_right _ he)]
  rfl

/-- **What the parser makes of the message.** -/
theorem parse_encode (hostname_size : ℕ) :
    parse_client_hello c.encode hostname_size = hostname_outcome hostname_size c.host_name := by
  obtain ⟨tree, hencode, hentries, hech⟩ := c.tree_encode
  have h := tree.parse_tree hostname_size
  rw [hencode, hentries, hech, foldlM_note_name, host_names_entries] at h
  dsimp only at h
  rw [hostname_outcome]
  cases haccepted : accepted_hostname hostname_size c.host_name with
  | none =>
      rw [haccepted] at h
      obtain ⟨ech, houtcome, hfalse⟩ := h
      rw [houtcome, Bool.eq_false_iff.mpr fun htrue => Bool.false_ne_true (hfalse htrue)]
  | some hostname =>
      rw [haccepted] at h
      exact h

/-- The length field of the message. -/
theorem length_body : c.encode.length = c.body.length + 4 ∧ c.body.length < 16777216 := by
  obtain ⟨-, -, -, hextensions⟩ := c.length_upto
  have hlength := c.length_encode
  have hext : c.extensions.length < 65536 := c.extensions_length
  have hsession := c.session_id_length
  have hciphers := c.cipher_suites_length
  have hcompression := c.compression_methods_length
  have hbody : c.encode.length = c.body.length + 4 := by
    simp only [encode, List.length_cons, List.length_append, length_be16]
    omega
  exact ⟨hbody, by omega⟩

theorem hello_body_length_encode : hello_body_length c.encode = c.body.length := by
  obtain ⟨-, hlt⟩ := c.length_body
  have hlow : (UInt8.ofNat (c.body.length % 65536 / 256)).toNat <<< 8
      ||| (UInt8.ofNat (c.body.length % 65536 % 256)).toNat = c.body.length % 65536 := by
    have h := read_u16_be16 (Nat.mod_lt c.body.length (by decide : 0 < 65536)) []
    exact h
  have hlow' : c.body.length % 65536 < 2 ^ 16 := Nat.mod_lt _ (by decide)
  unfold hello_body_length
  simp only [encode, be16, byte_at, List.getD_cons_succ, List.getD_cons_zero, List.cons_append,
    List.nil_append]
  rw [Nat.or_assoc, hlow, ← Nat.shiftLeft_add_eq_or_of_lt hlow', Nat.shiftLeft_eq,
    UInt8.toNat_ofNat']
  omega

/-- **What the bytes of the message decide**: a message that is larger than the buffer is
refused by its length field. -/
theorem verdict_encode (hostname_size : ℕ) :
    hello_verdict hostname_size c.encode
      = some (if c.encode.length ≤ TLS_CLIENT_HELLO_MAX_SIZE then
          hostname_outcome hostname_size c.host_name
        else ⟨.INVALID, [], false⟩) := by
  have hbody := c.length_body
  have hlength := c.length_encode
  have hupto := c.length_upto
  have hwhole : c.encode.length = hello_body_length c.encode + 4 := by
    rw [hello_body_length_encode, hbody.1]
  rw [IsWholeHello.verdict ⟨rfl, hwhole, by omega⟩, whole_outcome, c.parse_encode]

/-- **However the message is sent**: cut into records in any way, with anything behind it,
and fed in any chunks. -/
theorem feed_chunks_encode {hostname_size : ℕ} (hsize : hostname_size ≠ 0)
    {records : List tls_record} (hcarry : c.encode <+: records.flatMap tls_record.payload)
    {tail : List UInt8} {chunks : List (List UInt8)}
    (hchunks : chunks.flatten = records.flatMap tls_record.encode ++ tail) :
    (feed_chunks hostname_size tls_sni_parser_init chunks).verdict
      = if c.encode.length ≤ TLS_CLIENT_HELLO_MAX_SIZE then
          hostname_outcome hostname_size c.host_name
        else ⟨.INVALID, [], false⟩ := by
  obtain ⟨more, hmore⟩ := hcarry
  rw [feed_chunks_eq_reference hsize, hchunks, reference, record_payloads_records, ← hmore,
    List.append_assoc]
  exact decide_hello_of_verdict (c.verdict_encode hostname_size) _ _

end client_hello

end WifiManager.TlsSniParser
