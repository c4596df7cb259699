/-
The parser on its buffers.

The model of the module `Parser` keeps the used part of each buffer and nothing else, and
reads a byte that is not there as zero. Here the functions of `tls_sni_parser.c` are written
once more with the buffers in full and with every access checked: each index into
`record_header`, `client_hello`, `data` and `hostname`, and each difference of two lengths. An
access outside its buffer, a difference that would wrap around, and a round of the main loop
that consumes nothing have the result `none`.

`hello` is the buffer `client_hello` with its 2048 bytes, and the host name buffer is handed
from function to function as the source hands its pointer. A message that is refused leaves
the buffer as the loop over the host name left it.
-/
import WifiManager.Lib.Buffer
import WifiManager.TlsSniParser.Parser

set_option autoImplicit false

namespace WifiManager.TlsSniParser

open WifiManager.Lib.Buffer

/-! ## Types -/

/-- `tls_sni_parser_t` with its two buffers and their counters. -/
structure parser_buffers where
  record_header : List UInt8
  record_header_used : ℕ
  record_remaining : ℕ
  client_hello : List UInt8
  client_hello_used : ℕ
  client_hello_expected : ℕ
  ech_present : Bool
  finished : Bool
  deriving DecidableEq

/-- `tls_sni_parser_init`. -/
def init_in : parser_buffers where
  record_header := List.replicate 5 0
  record_header_used := 0
  record_remaining := 0
  client_hello := List.replicate TLS_CLIENT_HELLO_MAX_SIZE 0
  client_hello_used := 0
  client_hello_expected := 0
  ech_present := false
  finished := false

/-- What `parse_client_hello` returns, with the buffer and the flag that it writes. -/
structure hello_buffers where
  result : tls_sni_parse_result_t
  hostname : List UInt8
  ech_present : Bool
  deriving DecidableEq

/-- What one call of `tls_sni_parser_feed` returns and leaves behind. -/
structure feed_buffers where
  result : tls_sni_parse_result_t
  hostname : List UInt8
  parser : parser_buffers
  deriving DecidableEq

/-- `read_u16`. -/
def read_u16_in (data : List UInt8) (offset : ℕ) : Option ℕ := do
  let high ← data[offset]?
  let low ← data[offset + 1]?
  return (high.toNat <<< 8) ||| low.toNat

/-! ## `parse_client_hello` -/

/-- The fixed part, from the handshake header to the compression methods. -/
def skip_fixed_fields_in (hello : List UInt8) (length : ℕ) : Option (Option ℕ) :=
  let offset := 4
  if length < offset + 34 then some none
  else
    let offset := offset + 34
    if offset ≥ length then some none
    else do
      let session_length ← hello[offset]?
      let offset := offset + 1
      if offset + session_length.toNat > length then return none
      else
        let offset := offset + session_length.toNat
        if offset + 2 > length then return none
        else
          let cipher_length ← read_u16_in hello offset
          let offset := offset + 2
          if cipher_length < 2 ∨ cipher_length &&& 1 ≠ 0 ∨ offset + cipher_length > length then
            return none
          else
            let offset := offset + cipher_length
            if offset ≥ length then return none
            else
              let compression_length ← hello[offset]?
              let offset := offset + 1
              if compression_length.toNat = 0 ∨
                  offset + compression_length.toNat > length then return none
              else return some (offset + compression_length.toNat)

/-- The copy of a host name from its byte `i` on, and the terminator behind it: the host name
buffer, and whether the name was accepted. -/
def copy_hostname_in (hello : List UInt8) (name_offset name_length i : ℕ)
    (hostname : List UInt8) : Option (List UInt8 × Bool) :=
  if i < name_length then do
    let value ← hello[name_offset + i]?
    if value = 0 ∨ value < 0x21 ∨ value > 0x7E then return (hostname, false)
    else
      let hostname ← store hostname i [tolower value]
      copy_hostname_in hello name_offset name_length (i + 1) hostname
  else (store hostname name_length [0]).map (·, true)
  termination_by name_length - i

/-- The loop over the entries of one ServerNameList: the host name buffer, and unless the list
is refused the offset behind it and `sni_found`. -/
def scan_server_names_in (hello : List UInt8) (name_list_end hostname_size name_offset : ℕ)
    (hostname : List UInt8) (sni_found : Bool) : Option (List UInt8 × Option (ℕ × Bool)) :=
  if name_offset < name_list_end then do
    let left ← size_sub name_list_end name_offset
    if left < 3 then return (hostname, none)
    else
      let name_type ← hello[name_offset]?
      let name_length ← read_u16_in hello (name_offset + 1)
      let left ← size_sub name_list_end (name_offset + 3)
      if name_length > left then return (hostname, none)
      else if name_type = 0 then
        if sni_found = true ∨ name_length = 0 ∨ name_length ≥ hostname_size then
          return (hostname, none)
        else
          match ← copy_hostname_in hello (name_offset + 3) name_length 0 hostname with
          | (hostname, false) => return (hostname, none)
          | (hostname, true) =>
              scan_server_names_in hello name_list_end hostname_size
                (name_offset + 3 + name_length) hostname true
      else
        scan_server_names_in hello name_list_end hostname_size
          (name_offset + 3 + name_length) hostname sni_found
  else some (hostname, some (name_offset, sni_found))
  termination_by name_list_end - name_offset

/-- The body of a `server_name` extension: the host name buffer, and unless it is refused
`sni_found`. -/
def parse_server_name_extension_in (hello : List UInt8)
    (hostname_size offset extension_length : ℕ) (hostname : List UInt8) (sni_found : Bool) :
    Option (List UInt8 × Option Bool) :=
  if extension_length < 5 then some (hostname, none)
  else do
    let name_list_length ← read_u16_in hello offset
    let name_offset := offset + 2
    let expected ← size_sub extension_length 2
    if name_list_length ≠ expected then return (hostname, none)
    else
      let name_list_end := name_offset + name_list_length
      match ← scan_server_names_in hello name_list_end hostname_size name_offset hostname
          sni_found with
      | (hostname, none) => return (hostname, none)
      | (hostname, some (name_offset, sni_found)) =>
          if name_offset ≠ name_list_end then return (hostname, none)
          else return (hostname, some sni_found)

/-- The loop over the extensions. -/
def scan_extensions_in (hello : List UInt8) (extensions_end hostname_size offset : ℕ)
    (hostname : List UInt8) (sni_found ech_present : Bool) : Option hello_buffers :=
  if offset < extensions_end then do
    let left ← size_sub extensions_end offset
    if left < 4 then return ⟨.INVALID, hostname, ech_present⟩
    else
      let type ← read_u16_in hello offset
      let extension_length ← read_u16_in hello (offset + 2)
      let left ← size_sub extensions_end (offset + 4)
      if extension_length > left then return ⟨.INVALID, hostname, ech_present⟩
      else
        let ech_present := ech_present || decide (type = TLS_EXTENSION_ECH)
        if type = TLS_EXTENSION_SERVER_NAME then
          match ← parse_server_name_extension_in hello hostname_size (offset + 4)
              extension_length hostname sni_found with
          | (hostname, none) => return ⟨.INVALID, hostname, ech_present⟩
          | (hostname, some sni_found) =>
              scan_extensions_in hello extensions_end hostname_size
                (offset + 4 + extension_length) hostname sni_found ech_present
        else
          scan_extensions_in hello extensions_end hostname_size
            (offset + 4 + extension_length) hostname sni_found ech_present
  else if offset ≠ extensions_end then some ⟨.INVALID, hostname, ech_present⟩
  else some ⟨if sni_found = true then .FOUND else .NO_SNI, hostname, ech_present⟩
  termination_by extensions_end - offset

/-- `parse_client_hello` on the first `length` bytes of the buffer. -/
def parse_client_hello_in (hello : List UInt8) (length hostname_size : ℕ)
    (hostname : List UInt8) : Option hello_buffers := do
  match ← skip_fixed_fields_in hello length with
  | none => return ⟨.INVALID, hostname, false⟩
  | some offset =>
      if offset = length then return ⟨.NO_SNI, hostname, false⟩
      else if offset + 2 > length then return ⟨.INVALID, hostname, false⟩
      else
        let extensions_length ← read_u16_in hello offset
        let offset := offset + 2
        let left ← size_sub length offset
        if extensions_length ≠ left then return ⟨.INVALID, hostname, false⟩
        else
          scan_extensions_in hello (offset + extensions_length) hostname_size offset hostname
            false false

/-! ## `tls_sni_parser_feed` -/

/-- The parser with `finished` set. -/
def parser_buffers.finish (parser : parser_buffers) : parser_buffers :=
  { parser with finished := true }

/-- The loop that collects the record header: the parser and the input offset. -/
def read_header_in (data : List UInt8) (parser : parser_buffers) (input_offset : ℕ) :
    Option (parser_buffers × ℕ) :=
  if parser.record_header_used < 5 ∧ input_offset < data.length then do
    let value ← data[input_offset]?
    let record_header ← store parser.record_header parser.record_header_used [value]
    read_header_in data
      { parser with
        record_header := record_header
        record_header_used := parser.record_header_used + 1 } (input_offset + 1)
  else some (parser, input_offset)
  termination_by data.length - input_offset

/-- The check of a complete record header: `none` inside is `TLS_SNI_PARSE_INVALID`. -/
def open_record_in (parser : parser_buffers) : Option (Option parser_buffers) :=
  if parser.record_remaining = 0 then do
    let content_type ← parser.record_header[0]?
    if content_type ≠ TLS_CONTENT_TYPE_HANDSHAKE then return none
    else
      let record_remaining ← read_u16_in parser.record_header 3
      if record_remaining = 0 then return none
      else return some { parser with record_remaining := record_remaining }
  else some (some parser)

/-- `wanted`. -/
def parser_buffers.wanted (parser : parser_buffers) : Option ℕ :=
  if parser.client_hello_expected = 0 then size_sub 4 parser.client_hello_used
  else size_sub parser.client_hello_expected parser.client_hello_used

/-- The `memcpy` of a round, and what it does to the counters. -/
def copy_bytes_in (data : List UInt8) (parser : parser_buffers) (input_offset : ℕ) :
    Option (parser_buffers × ℕ) := do
  let wanted ← parser.wanted
  let available ← size_sub data.length input_offset
  let copy_length := min (min available parser.record_remaining) wanted
  let payload ← load data input_offset copy_length
  let client_hello ← store parser.client_hello parser.client_hello_used payload
  -- `(uint16_t)copy_length`
  let record_remaining ← size_sub parser.record_remaining (copy_length % 65536)
  return ({ parser with
    client_hello := client_hello
    client_hello_used := parser.client_hello_used + copy_length
    record_remaining := record_remaining }, input_offset + copy_length)

/-- Whether the message type is there and not that of a ClientHello. -/
def wrong_type_in (parser : parser_buffers) : Option Bool :=
  if parser.client_hello_used ≥ 1 then
    parser.client_hello[0]?.map fun type => decide (type ≠ TLS_HANDSHAKE_CLIENT_HELLO)
  else some false

/-- The 24-bit body length in the handshake header. -/
def body_length_in (hello : List UInt8) : Option ℕ := do
  let high ← hello[1]?
  let middle ← hello[2]?
  let low ← hello[3]?
  return (high.toNat <<< 16) ||| (middle.toNat <<< 8) ||| low.toNat

/-- The length of the message, once its header is complete: the parser, and whether the length
is refused. -/
def measure_in (parser : parser_buffers) : Option (parser_buffers × Bool) :=
  if parser.client_hello_used = 4 ∧ parser.client_hello_expected = 0 then do
    let body_length ← body_length_in parser.client_hello
    let parser := { parser with client_hello_expected := body_length + 4 }
    return (parser, decide (parser.client_hello_expected > TLS_CLIENT_HELLO_MAX_SIZE ∨
      parser.client_hello_expected ≤ 4))
  else some (parser, false)

/-- The checks behind the `memcpy`. -/
def check_client_hello_in (parser : parser_buffers) (hostname_size : ℕ)
    (hostname : List UInt8) : Option (parser_buffers ⊕ feed_buffers) := do
  if ← wrong_type_in parser then return .inr ⟨.INVALID, hostname, parser.finish⟩
  else
    let (parser, refused) ← measure_in parser
    if refused = true then return .inr ⟨.INVALID, hostname, parser.finish⟩
    else if parser.client_hello_expected > 0 ∧
        parser.client_hello_used = parser.client_hello_expected then
      let outcome ← parse_client_hello_in parser.client_hello parser.client_hello_expected
        hostname_size hostname
      return .inr ⟨outcome.result, outcome.hostname,
        { parser.finish with ech_present := parser.ech_present || outcome.ech_present }⟩
    else if parser.record_remaining = 0 then
      -- `memset` of the record header
      let record_header ← store parser.record_header 0 (List.replicate 5 0)
      return .inl { parser with record_header := record_header, record_header_used := 0 }
    else return .inl parser

/-- The second half of a round, in an open record. -/
def copy_payload_in (hostname_size : ℕ) (hostname data : List UInt8) (parser : parser_buffers)
    (input_offset : ℕ) : Option ((parser_buffers × ℕ) ⊕ feed_buffers) := do
  let (parser, input_offset) ← copy_bytes_in data parser input_offset
  match ← check_client_hello_in parser hostname_size hostname with
  | .inl parser => return .inl (parser, input_offset)
  | .inr outcome => return .inr outcome

/-- One round of the main loop: the parser and the input offset it goes on with, or what the
call returns. -/
def feed_round_in (hostname_size : ℕ) (hostname data : List UInt8) (parser : parser_buffers)
    (input_offset : ℕ) : Option ((parser_buffers × ℕ) ⊕ feed_buffers) := do
  let (parser, input_offset) ← read_header_in data parser input_offset
  if parser.record_header_used < 5 then return .inr ⟨.NEED_MORE, hostname, parser⟩
  else
    match ← open_record_in parser with
    | none => return .inr ⟨.INVALID, hostname, parser.finish⟩
    | some parser => copy_payload_in hostname_size hostname data parser input_offset

/-- The main loop. It has no result if a round goes on with the offset it began with. -/
def feed_loop_in (hostname_size : ℕ) (hostname data : List UInt8) (parser : parser_buffers)
    (input_offset : ℕ) : Option feed_buffers :=
  if input_offset < data.length then do
    match ← feed_round_in hostname_size hostname data parser input_offset with
    | .inl (parser, next_offset) =>
        if input_offset < next_offset then
          feed_loop_in hostname_size hostname data parser next_offset
        else none
    | .inr outcome => return outcome
  else some ⟨.NEED_MORE, hostname, parser⟩
  termination_by data.length - input_offset

/-- `tls_sni_parser_feed` with the input `data` and a host name buffer of `hostname_size`
bytes, for arguments that are not NULL. -/
def feed_in (parser : parser_buffers) (data hostname : List UInt8) : Option feed_buffers :=
  if hostname.length = 0 ∨ parser.finished = true then some ⟨.INVALID, hostname, parser⟩
  else do
    let terminated ← store hostname 0 [0]
    feed_loop_in hostname.length terminated data parser 0

/-- A sequence of calls, each with its input and its host name buffer: the parser they leave. -/
def feeds_in (parser : parser_buffers) (calls : List (List UInt8 × List UInt8)) :
    Option parser_buffers :=
  calls.foldlM (fun parser call => (feed_in parser call.1 call.2).map feed_buffers.parser) parser

end WifiManager.TlsSniParser
