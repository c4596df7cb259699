/-
`components/tls_sni_parser`: the incremental ClientHello parser.

The structure `tls_sni_parser_t` keeps the used part of each buffer as a list of
bytes, so `record_header_used` and `client_hello_used` are the lengths of these
lists; the bytes of a buffer past its used part are zero and no line of the
source reads them. `parse_client_hello` is called only on a complete message,
when the used part of the buffer is exactly the `client_hello_expected` bytes of
the message, so it takes that message as its argument. What it writes back, the
host name buffer and `ech_present`, is returned. The content of the host name
buffer is meaningful only with the result `FOUND`; with every other result it is
kept here as the empty text that `tls_sni_parser_feed` puts there first.

The loops of `parse_client_hello` advance an offset by at least three bytes a
round and are written as recursions on what is left; the main loop of
`tls_sni_parser_feed` is a loop of `Lib.Loop`, and the module `Stream` proves that it
always leaves.
-/
import Mathlib.Data.List.Basic
import WifiManager.Lib.Loop

set_option autoImplicit false

namespace WifiManager.TlsSniParser

open WifiManager.Lib

/-! ## Constants and types -/

abbrev TLS_SNI_HOSTNAME_SIZE : ℕ := 256
abbrev TLS_CLIENT_HELLO_MAX_SIZE : ℕ := 2048
abbrev TLS_CONTENT_TYPE_HANDSHAKE : UInt8 := 22
abbrev TLS_HANDSHAKE_CLIENT_HELLO : UInt8 := 1
abbrev TLS_EXTENSION_SERVER_NAME : ℕ := 0
abbrev TLS_EXTENSION_ECH : ℕ := 0xFE0D

/-- `tls_sni_parse_result_t`. -/
inductive tls_sni_parse_result_t
  | NEED_MORE
  | FOUND
  | NO_SNI
  | INVALID
  deriving DecidableEq, Repr

/-- `tls_sni_parser_t`; the two lists are the used parts of the two buffers. -/
structure tls_sni_parser_t where
  record_header : List UInt8 := []
  record_remaining : ℕ := 0
  client_hello : List UInt8 := []
  client_hello_expected : ℕ := 0
  ech_present : Bool := false
  finished : Bool := false
  deriving DecidableEq, Repr

/-- What one look at a complete message, or the discovery that there cannot be
one, decides: the result, the host name buffer and the ECH flag. -/
structure hello_outcome where
  result : tls_sni_parse_result_t
  hostname : List UInt8 := []
  ech_present : Bool := false
  deriving DecidableEq, Repr

/-- What one call of `tls_sni_parser_feed` returns and leaves behind. -/
structure feed_outcome where
  result : tls_sni_parse_result_t
  hostname : List UInt8
  parser : tls_sni_parser_t
  deriving DecidableEq, Repr

/-- The byte at an offset of a buffer. -/
def byte_at (data : List UInt8) (offset : ℕ) : UInt8 := data.getD offset 0

/-- `read_u16`: the big-endian 16-bit value at an offset. -/
def read_u16 (data : List UInt8) (offset : ℕ) : ℕ :=
  ((byte_at data offset).toNat <<< 8) ||| (byte_at data (offset + 1)).toNat

/-- The 24-bit body length in the handshake header. -/
def hello_body_length (hello : List UInt8) : ℕ :=
  ((byte_at hello 1).toNat <<< 16) ||| ((byte_at hello 2).toNat <<< 8)
    ||| (byte_at hello 3).toNat

/-! ## `parse_client_hello` -/

/-- `tolower` of the C locale. -/
def tolower (value : UInt8) : UInt8 :=
  if 65 ≤ value ∧ value ≤ 90 then value + 32 else value

/-- The copy of a host name into the output buffer: byte by byte, lower case,
refusing NUL, control characters, the space and everything that is not ASCII. -/
def copy_hostname : List UInt8 → Option (List UInt8)
  | [] => some []
  | value :: rest =>
      if value = 0 ∨ value < 0x21 ∨ value > 0x7E then none
      else (copy_hostname rest).map (tolower value :: ·)

/-- The loop over the entries of one ServerNameList. `sni` is `sni_found`
together with the name it stands for; `none` is `TLS_SNI_PARSE_INVALID`. -/
def scan_server_names (hello : List UInt8) (name_list_end hostname_size name_offset : ℕ)
    (sni : Option (List UInt8)) : Option (ℕ × Option (List UInt8)) :=
  if name_offset < name_list_end then
    -- name type and name length
    if name_list_end - name_offset < 3 then none
    else
      let name_type := byte_at hello name_offset
      let name_length := read_u16 hello (name_offset + 1)
      if name_length > name_list_end - (name_offset + 3) then none
      else if name_type = 0 then
        -- a second host name is refused, in whichever list it stands
        if sni.isSome ∨ name_length = 0 ∨ name_length ≥ hostname_size then none
        else
          match copy_hostname ((hello.drop (name_offset + 3)).take name_length) with
          | none => none
          | some hostname =>
              scan_server_names hello name_list_end hostname_size
                (name_offset + 3 + name_length) (some hostname)
      -- another name type is skipped
      else
        scan_server_names hello name_list_end hostname_size
          (name_offset + 3 + name_length) sni
  else some (name_offset, sni)
  termination_by name_list_end - name_offset

/-- The body of a `server_name` extension: `none` is `TLS_SNI_PARSE_INVALID`,
otherwise the name found so far. -/
def parse_server_name_extension (hello : List UInt8) (hostname_size offset extension_length : ℕ)
    (sni : Option (List UInt8)) : Option (Option (List UInt8)) :=
  -- two bytes of list length, then at least a name type and a name length
  if extension_length < 5 then none
  else
    let name_list_length := read_u16 hello offset
    let name_offset := offset + 2
    if name_list_length ≠ extension_length - 2 then none
    else
      let name_list_end := name_offset + name_list_length
      match scan_server_names hello name_list_end hostname_size name_offset sni with
      | none => none
      | some (name_offset, sni) => if name_offset ≠ name_list_end then none else some sni

/-- The loop over the extensions. It goes on after a host name has been found,
because a later extension can still announce ECH or break the message. -/
def scan_extensions (hello : List UInt8) (extensions_end hostname_size offset : ℕ)
    (sni : Option (List UInt8)) (ech_present : Bool) : hello_outcome :=
  if offset < extensions_end then
    -- extension type and extension length
    if extensions_end - offset < 4 then ⟨.INVALID, [], ech_present⟩
    else
      let type := read_u16 hello offset
      let extension_length := read_u16 hello (offset + 2)
      if extension_length > extensions_end - (offset + 4) then ⟨.INVALID, [], ech_present⟩
      else
        -- remembered, whatever the scan finds behind it
        let ech_present := ech_present || decide (type = TLS_EXTENSION_ECH)
        if type = TLS_EXTENSION_SERVER_NAME then
          match parse_server_name_extension hello hostname_size (offset + 4)
              extension_length sni with
          | none => ⟨.INVALID, [], ech_present⟩
          | some sni =>
              scan_extensions hello extensions_end hostname_size
                (offset + 4 + extension_length) sni ech_present
        else
          scan_extensions hello extensions_end hostname_size
            (offset + 4 + extension_length) sni ech_present
  else if offset ≠ extensions_end then ⟨.INVALID, [], ech_present⟩
  else
    match sni with
    | some hostname => ⟨.FOUND, hostname, ech_present⟩
    | none => ⟨.NO_SNI, [], ech_present⟩
  termination_by extensions_end - offset

/-- The fixed part of `parse_client_hello`, from the handshake header to the end
of the compression methods: the offset behind it, `none` for
`TLS_SNI_PARSE_INVALID`. -/
def skip_fixed_fields (hello : List UInt8) : Option ℕ :=
  let length := hello.length
  let offset := 4
  -- legacy_version + random
  if length < offset + 34 then none
  else
    let offset := offset + 34
    -- legacy_session_id
    if offset ≥ length then none
    else
      let session_length := (byte_at hello offset).toNat
      let offset := offset + 1
      if offset + session_length > length then none
      else
        let offset := offset + session_length
        -- cipher_suites
        if offset + 2 > length then none
        else
          let cipher_length := read_u16 hello offset
          let offset := offset + 2
          if cipher_length < 2 ∨ cipher_length &&& 1 ≠ 0 ∨ offset + cipher_length > length then
            none
          else
            let offset := offset + cipher_length
            -- legacy_compression_methods
            if offset ≥ length then none
            else
              let compression_length := (byte_at hello offset).toNat
              let offset := offset + 1
              if compression_length = 0 ∨ offset + compression_length > length then none
              else some (offset + compression_length)

/-- `parse_client_hello` on the complete message `hello`. -/
def parse_client_hello (hello : List UInt8) (hostname_size : ℕ) : hello_outcome :=
  match skip_fixed_fields hello with
  | none => ⟨.INVALID, [], false⟩
  | some offset =>
      -- a ClientHello without extensions has no SNI
      if offset = hello.length then ⟨.NO_SNI, [], false⟩
      else if offset + 2 > hello.length then ⟨.INVALID, [], false⟩
      else
        let extensions_length := read_u16 hello offset
        let offset := offset + 2
        -- the extensions fill the rest of the message exactly
        if extensions_length ≠ hello.length - offset then ⟨.INVALID, [], false⟩
        else
          scan_extensions hello (offset + extensions_length) hostname_size offset none false

/-! ## `tls_sni_parser_feed` -/

/-- `tls_sni_parser_init`: `memset` to zero. -/
def tls_sni_parser_init : tls_sni_parser_t := {}

/-- The parser with `finished` set. -/
def tls_sni_parser_t.finish (parser : tls_sni_parser_t) : tls_sni_parser_t :=
  { parser with finished := true }

/-- The check of a complete record header, made when the previous record is
exhausted: `none` is `TLS_SNI_PARSE_INVALID`. -/
def open_record (parser : tls_sni_parser_t) : Option tls_sni_parser_t :=
  if parser.record_remaining = 0 then
    if byte_at parser.record_header 0 ≠ TLS_CONTENT_TYPE_HANDSHAKE then none
    else if read_u16 parser.record_header 3 = 0 then none
    else some { parser with record_remaining := read_u16 parser.record_header 3 }
  else some parser

/-- The checks behind the `memcpy` of a round: the message type as soon as it is
there, the message length as soon as the handshake header is complete, the
message itself as soon as all of it is there, and the end of the record. -/
def check_client_hello (parser : tls_sni_parser_t) (hostname_size : ℕ) :
    tls_sni_parser_t ⊕ feed_outcome :=
  if parser.client_hello.length ≥ 1 ∧
      byte_at parser.client_hello 0 ≠ TLS_HANDSHAKE_CLIENT_HELLO then
    .inr ⟨.INVALID, [], parser.finish⟩
  else
    -- the length is read once, when the fourth byte has come
    let measured := parser.client_hello.length = 4 ∧ parser.client_hello_expected = 0
    let parser :=
      if measured then
        { parser with client_hello_expected := hello_body_length parser.client_hello + 4 }
      else parser
    if measured ∧ (parser.client_hello_expected > TLS_CLIENT_HELLO_MAX_SIZE ∨
        parser.client_hello_expected ≤ 4) then
      .inr ⟨.INVALID, [], parser.finish⟩
    -- all of the message is there
    else if parser.client_hello_expected > 0 ∧
        parser.client_hello.length = parser.client_hello_expected then
      let outcome := parse_client_hello parser.client_hello hostname_size
      .inr ⟨outcome.result, outcome.hostname,
        { parser.finish with ech_present := parser.ech_present || outcome.ech_present }⟩
    -- the record has ended, the message goes on in the next one
    else if parser.record_remaining = 0 then .inl { parser with record_header := [] }
    else .inl parser

/-- How many bytes the message still wants: of the handshake header while the
length is not known, of the whole message afterwards. -/
def tls_sni_parser_t.wanted (parser : tls_sni_parser_t) : ℕ :=
  if parser.client_hello_expected = 0 then 4 - parser.client_hello.length
  else parser.client_hello_expected - parser.client_hello.length

/-- The second half of a round, in an open record: copy what the input, the record
and the message allow, and check what has been collected. -/
def copy_payload (hostname_size : ℕ) (parser : tls_sni_parser_t) (data : List UInt8) :
    (tls_sni_parser_t × List UInt8) ⊕ feed_outcome :=
  let copy_length := min (min data.length parser.record_remaining) parser.wanted
  let parser :=
    { parser with
      client_hello := parser.client_hello ++ data.take copy_length
      record_remaining := parser.record_remaining - copy_length }
  match check_client_hello parser hostname_size with
  | .inl parser => .inl (parser, data.drop copy_length)
  | .inr outcome => .inr outcome

/-- One round of the main loop on the input that is left, which is not empty: the
record header first, then the payload. -/
def feed_round (hostname_size : ℕ) (parser : tls_sni_parser_t) (data : List UInt8) :
    (tls_sni_parser_t × List UInt8) ⊕ feed_outcome :=
  let header_room := 5 - parser.record_header.length
  let parser :=
    { parser with record_header := parser.record_header ++ data.take header_room }
  let data := data.drop header_room
  -- the input ends inside the record header
  if parser.record_header.length < 5 then .inr ⟨.NEED_MORE, [], parser⟩
  else
    match open_record parser with
    | none => .inr ⟨.INVALID, [], parser.finish⟩
    | some parser => copy_payload hostname_size parser data

/-- The body of `while (input_offset < data_length)`, on the parser and the input
that is left. -/
def feed_body (hostname_size : ℕ) (state : tls_sni_parser_t × List UInt8) :
    (tls_sni_parser_t × List UInt8) ⊕ feed_outcome :=
  if state.2 = [] then .inr ⟨.NEED_MORE, [], state.1⟩
  else feed_round hostname_size state.1 state.2

/-- `tls_sni_parser_feed`, for arguments that are not NULL. The loop is given one
round more than there are input bytes; `feed_exits` shows that this is enough
for every parser the module can produce. -/
def tls_sni_parser_feed (parser : tls_sni_parser_t) (data : List UInt8) (hostname_size : ℕ) :
    feed_outcome :=
  -- a parser that has decided is not asked again
  if hostname_size = 0 ∨ parser.finished = true then ⟨.INVALID, [], parser⟩
  else
    Loop.exitValue (feed_body hostname_size) (data.length + 1) ⟨.NEED_MORE, [], parser⟩
      (parser, data)

end WifiManager.TlsSniParser
