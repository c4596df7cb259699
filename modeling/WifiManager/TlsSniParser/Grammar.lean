/-
The grammar of the messages that `parse_client_hello` accepts.

`hello_tree` is a ClientHello taken apart: the fields of fixed size, the three lists in front
of the extensions, and the extension block, in which every `server_name` extension is the list
of its entries and every other extension is its type and its bytes. The bounds that the length
fields put on them are fields of the tree, so each tree is a message. What the parser makes of
its bytes depends only on the entries that name a host (`parse_tree`), and it is proved by
reading the lists from the front: the parser works on offsets, so every lemma is about a message
cut into what lies in front of an offset and what follows.
-/
import Mathlib.Data.List.Basic
import WifiManager.TlsSniParser.Reference

set_option autoImplicit false

namespace WifiManager.TlsSniParser

/-! ## Fields of a message -/

/-- A 16-bit number in network order. -/
def be16 (n : ℕ) : List UInt8 := [UInt8.ofNat (n / 256), UInt8.ofNat (n % 256)]

/-- An entry of a ServerNameList. -/
structure server_name where
  name_type : UInt8
  name : List UInt8

def server_name.encode (entry : server_name) : List UInt8 :=
  entry.name_type :: (be16 entry.name.length ++ entry.name)

/-- An extension. -/
structure hello_extension where
  type : ℕ
  body : List UInt8

def hello_extension.encode (extension : hello_extension) : List UInt8 :=
  be16 extension.type ++ (be16 extension.body.length ++ extension.body)

/-- The `server_name` extension with these entries. -/
def server_name_extension (entries : List server_name) : hello_extension where
  type := TLS_EXTENSION_SERVER_NAME
  body := be16 (entries.flatMap server_name.encode).length ++ entries.flatMap server_name.encode

/-! ## Reading at an offset -/

theorem byte_at_append_right (front back : List UInt8) (offset : ℕ) :
    byte_at (front ++ back) (front.length + offset) = byte_at back offset := by
  unfold byte_at
  rw [List.getD_eq_getElem?_getD, List.getD_eq_getElem?_getD,
    List.getElem?_append_right (Nat.le_add_right _ _), Nat.add_sub_cancel_left]

theorem read_u16_append_right (front back : List UInt8) (offset : ℕ) :
    read_u16 (front ++ back) (front.length + offset) = read_u16 back offset := by
  unfold read_u16
  rw [byte_at_append_right, Nat.add_assoc, byte_at_append_right]

theorem read_u16_front (front back : List UInt8) :
    read_u16 (front ++ back) front.length = read_u16 back 0 := by
  have h := read_u16_append_right front back 0
  rwa [Nat.add_zero] at h

theorem byte_at_front_zero (front back : List UInt8) :
    byte_at (front ++ back) front.length = byte_at back 0 := by
  have h := byte_at_append_right front back 0
  rwa [Nat.add_zero] at h

theorem read_u16_be16 {n : ℕ} (h : n < 65536) (rest : List UInt8) :
    read_u16 (be16 n ++ rest) 0 = n := by
  rw [read_u16_eq]
  simp only [be16, byte_at, List.cons_append, List.nil_append, List.getD_cons_zero,
    List.getD_cons_succ, UInt8.toNat_ofNat']
  omega

@[simp] theorem length_be16 (n : ℕ) : (be16 n).length = 2 := rfl

theorem length_le_flatMap {α : Type*} {f : α → List UInt8} {a : α} {items : List α}
    (h : a ∈ items) : (f a).length ≤ (items.flatMap f).length := by
  obtain ⟨front, back, rfl⟩ := List.append_of_mem h
  rw [List.flatMap_append, List.flatMap_cons, List.length_append, List.length_append]
  omega

/-- A one-byte length at the offset where it stands. -/
theorem byte_at_front (front back : List UInt8) (value : UInt8) :
    byte_at (front ++ value :: back) front.length = value := by
  rw [byte_at_front_zero]
  rfl

theorem toNat_length {n : ℕ} (h : n < 256) : (UInt8.ofNat n).toNat = n := by
  rw [UInt8.toNat_ofNat']
  exact Nat.mod_eq_of_lt h

theorem length_server_name (entry : server_name) :
    entry.encode.length = 3 + entry.name.length := by
  rw [server_name.encode, List.length_cons, List.length_append, length_be16]
  omega

/-! ## Messages taken apart -/

/-- An extension taken apart: a list of names, or an extension of another type. -/
inductive parsed_extension
  | names (entries : List server_name)
      (body_length : 5 ≤ (server_name_extension entries).body.length)
      (body_bound : (server_name_extension entries).body.length < 65536)
  | other (extension : hello_extension) (type_bound : extension.type < 65536)
      (body_bound : extension.body.length < 65536)
      (type_ne : extension.type ≠ TLS_EXTENSION_SERVER_NAME)

namespace parsed_extension

/-- The type and the body. -/
def extension : parsed_extension → hello_extension
  | .names entries _ _ => server_name_extension entries
  | .other extension _ _ _ => extension

/-- The entries of a `server_name` extension. -/
def entries : parsed_extension → List server_name
  | .names entries _ _ => entries
  | .other _ _ _ _ => []

def encode (field : parsed_extension) : List UInt8 := field.extension.encode

theorem type_lt (field : parsed_extension) : field.extension.type < 65536 := by
  cases field with
  | names => exact (by decide : TLS_EXTENSION_SERVER_NAME < 65536)
  | other _ htype _ _ => exact htype

theorem body_lt (field : parsed_extension) : field.extension.body.length < 65536 := by
  cases field with
  | names _ _ hbody => exact hbody
  | other _ _ hbody _ => exact hbody

end parsed_extension

/-- The host names among the entries of a list. -/
def host_names (entries : List server_name) : List (List UInt8) :=
  (entries.filter fun entry => entry.name_type = 0).map server_name.name

/-- A ClientHello taken apart; `extensions` is `none` for a message that ends behind its
compression methods. -/
structure hello_tree where
  header : List UInt8
  version_random : List UInt8
  session_id : List UInt8
  cipher_suites : List UInt8
  compression_methods : List UInt8
  extensions : Option (List parsed_extension)
  header_length : header.length = 4
  version_random_length : version_random.length = 34
  session_id_length : session_id.length < 256
  cipher_suites_length : 2 ≤ cipher_suites.length ∧ cipher_suites.length < 65536
  cipher_suites_even : cipher_suites.length % 2 = 0
  compression_methods_length :
    1 ≤ compression_methods.length ∧ compression_methods.length < 256
  extensions_length : ∀ fields ∈ extensions,
    (fields.flatMap parsed_extension.encode).length < 65536

namespace hello_tree

variable (c : hello_tree)

/-- The message up to its session id, its cipher suites, its compression methods and its
extensions. -/
def upto_session : List UInt8 := c.header ++ c.version_random

def upto_ciphers : List UInt8 :=
  c.upto_session ++ UInt8.ofNat c.session_id.length :: c.session_id

def upto_compression : List UInt8 :=
  c.upto_ciphers ++ (be16 c.cipher_suites.length ++ c.cipher_suites)

def upto_extensions : List UInt8 :=
  c.upto_compression ++ UInt8.ofNat c.compression_methods.length :: c.compression_methods

/-- The extension block with its length, or nothing. -/
def extension_block : List UInt8 :=
  match c.extensions with
  | none => []
  | some fields =>
      be16 (fields.flatMap parsed_extension.encode).length ++
        fields.flatMap parsed_extension.encode

/-- The message. -/
def encode : List UInt8 := c.upto_extensions ++ c.extension_block

/-- The entries of all `server_name` extensions. -/
def entries : List server_name := (c.extensions.getD []).flatMap parsed_extension.entries

/-- Some extension announces ECH. -/
def announces_ech : Bool :=
  (c.extensions.getD []).any fun field => field.extension.type = TLS_EXTENSION_ECH

end hello_tree

/-! ## The entries of a list -/

/-- What the host name of a message comes to: lower case, or nothing that is accepted. -/
def accepted_hostname (hostname_size : ℕ) (host_name : List UInt8) : Option (List UInt8) :=
  if host_name.length = 0 ∨ host_name.length ≥ hostname_size then none
  else copy_hostname host_name

section Names

variable (hostname_size : ℕ)

/-- What an entry makes of the host name found so far: `none` if it is refused. -/
def note_name (sni : Option (List UInt8)) (entry : server_name) :
    Option (Option (List UInt8)) :=
  if entry.name_type = 0 then
    if sni.isSome then none else (accepted_hostname hostname_size entry.name).map some
  else some sni

/-- An entry, from the offset where it starts. -/
theorem scan_server_names_entry {name_list_end : ℕ} (front back : List UInt8)
    (entry : server_name) (hlength : entry.name.length < 65536)
    (hend : front.length + entry.encode.length ≤ name_list_end) (sni : Option (List UInt8)) :
    scan_server_names (front ++ (entry.encode ++ back)) name_list_end hostname_size front.length
        sni
      = (note_name hostname_size sni entry).bind
          (scan_server_names ((front ++ entry.encode) ++ back) name_list_end hostname_size
            (front ++ entry.encode).length) := by
  have hsize := length_server_name entry
  -- the three fields of the entry, read back from the list
  have htype : byte_at (front ++ (entry.encode ++ back)) front.length = entry.name_type := by
    rw [byte_at_front_zero]
    rfl
  have hname : read_u16 (front ++ (entry.encode ++ back)) (front.length + 1)
      = entry.name.length := by
    rw [read_u16_append_right]
    have h := read_u16_append_right [entry.name_type] (be16 entry.name.length ++
      (entry.name ++ back)) 0
    rw [read_u16_be16 hlength] at h
    rw [← h]
    simp [server_name.encode]
  have hbytes : ((front ++ (entry.encode ++ back)).drop (front.length + 3)).take
      entry.name.length = entry.name := by
    rw [← List.drop_drop, List.drop_left]
    simp [server_name.encode, be16]
  rw [scan_server_names, if_pos (by omega), if_neg (by omega)]
  simp only [htype, hname, hbytes]
  rw [if_neg (by omega), note_name, List.length_append, List.append_assoc, hsize,
    ← Nat.add_assoc]
  -- a second host name is refused, any other name is skipped
  by_cases hhost : entry.name_type = 0
  · rw [if_pos hhost, if_pos hhost]
    by_cases hagain : sni.isSome = true
    · rw [if_pos (.inl hagain), if_pos hagain, Option.bind_none]
    rw [if_neg hagain, accepted_hostname]
    by_cases hbad : entry.name.length = 0 ∨ entry.name.length ≥ hostname_size
    · rw [if_pos (.inr hbad), if_pos hbad, Option.map_none, Option.bind_none]
    rw [if_neg (fun h => h.elim hagain hbad), if_neg hbad]
    cases copy_hostname entry.name <;> rfl
  · rw [if_neg hhost, if_neg hhost, Option.bind_some]

/-- **A list of entries**, at the offset where it starts: the entries are folded one by one. -/
theorem scan_server_names_entries (entries : List server_name) :
    ∀ (front back : List UInt8) (name_list_end : ℕ) (sni : Option (List UInt8)),
      (∀ entry ∈ entries, entry.name.length < 65536) →
      name_list_end = front.length + (entries.flatMap server_name.encode).length →
      scan_server_names (front ++ (entries.flatMap server_name.encode ++ back)) name_list_end
          hostname_size front.length sni
        = (entries.foldlM (note_name hostname_size) sni).map fun sni => (name_list_end, sni) := by
  induction entries with
  | nil =>
      intro front back name_list_end sni _ hend
      rw [List.flatMap_nil, List.length_nil] at hend
      rw [scan_server_names, if_neg (by omega), List.foldlM_nil, hend]
      rfl
  | cons entry entries ih =>
      intro front back name_list_end sni hlength hend
      rw [List.flatMap_cons, List.length_append] at hend
      rw [List.flatMap_cons, List.append_assoc, List.foldlM_cons,
        scan_server_names_entry hostname_size front _ entry (hlength entry List.mem_cons_self)
          (by omega)]
      cases hnote : note_name hostname_size sni entry with
      | none => rfl
      | some sni =>
          have hnext := ih (front ++ entry.encode) back name_list_end sni
            (fun e he => hlength e (List.mem_cons_of_mem _ he))
            (by rw [List.length_append]; omega)
          rw [Option.bind_some, hnext]
          rfl

/-- **The body of a `server_name` extension**, at the offset where it starts. -/
theorem parse_server_name_extension_entries (front back : List UInt8)
    {entries : List server_name} (hfive : 5 ≤ (server_name_extension entries).body.length)
    (hbound : (server_name_extension entries).body.length < 65536)
    (sni : Option (List UInt8)) :
    parse_server_name_extension (front ++ ((server_name_extension entries).body ++ back))
        hostname_size front.length (server_name_extension entries).body.length sni
      = entries.foldlM (note_name hostname_size) sni := by
  have hlength : ∀ entry ∈ entries, entry.name.length < 65536 := by
    intro entry hentry
    have hle := length_le_flatMap (f := server_name.encode) hentry
    rw [length_server_name] at hle
    rw [server_name_extension, List.length_append, length_be16] at hbound
    omega
  have hlist := scan_server_names_entries hostname_size entries
    (front ++ be16 (entries.flatMap server_name.encode).length) back _ sni hlength rfl
  rw [server_name_extension] at hfive hbound ⊢
  generalize entries.flatMap server_name.encode = list at hfive hbound hlist ⊢
  rw [List.length_append, length_be16] at hfive hbound
  have hread : read_u16 (front ++ (be16 list.length ++ list ++ back)) front.length
      = list.length := by
    rw [read_u16_front, List.append_assoc, read_u16_be16 (by omega)]
  rw [List.length_append, length_be16] at hlist
  unfold parse_server_name_extension
  rw [List.length_append, length_be16, if_neg (by omega), hread, if_neg (by omega),
    List.append_assoc, ← List.append_assoc front]
  dsimp only
  rw [hlist]
  cases entries.foldlM (note_name hostname_size) sni with
  | none => rfl
  | some sni => exact if_neg (not_not.mpr rfl)

end Names

/-! ## The extensions -/

section Extensions

open parsed_extension (other names extension)

variable (hostname_size : ℕ)

/-- What `scan_extensions` reads of an extension at the offset where it starts. -/
theorem read_extension (front back : List UInt8) (extension : hello_extension)
    (htype : extension.type < 65536) (hlength : extension.body.length < 65536) :
    read_u16 (front ++ (extension.encode ++ back)) front.length = extension.type ∧
      read_u16 (front ++ (extension.encode ++ back)) (front.length + 2)
        = extension.body.length := by
  constructor
  · rw [read_u16_front, hello_extension.encode, List.append_assoc, read_u16_be16 htype]
  · rw [read_u16_append_right, hello_extension.encode, List.append_assoc]
    have h := read_u16_front (be16 extension.type) (be16 extension.body.length ++
      extension.body ++ back)
    rw [length_be16] at h
    rw [h, List.append_assoc, read_u16_be16 hlength]

theorem length_extension (extension : hello_extension) :
    extension.encode.length = 4 + extension.body.length := by
  rw [hello_extension.encode, List.length_append, List.length_append, length_be16, length_be16]
  omega

/-- An outcome agrees with the host name that was found, and on acceptance with ECH. -/
def Settles (found : Option (Option (List UInt8))) (ech_present : Bool)
    (outcome : hello_outcome) : Prop :=
  match found with
  | none => ∃ ech, outcome = ⟨.INVALID, [], ech⟩ ∧ (ech = true → ech_present = true)
  | some none => outcome = ⟨.NO_SNI, [], ech_present⟩
  | some (some hostname) => outcome = ⟨.FOUND, hostname, ech_present⟩

/-- An extension, from the offset where it starts. -/
theorem scan_extensions_extension {extensions_end : ℕ} (front back : List UInt8)
    (extension : hello_extension) (htype : extension.type < 65536)
    (hbody : extension.body.length < 65536)
    (hend : front.length + extension.encode.length ≤ extensions_end)
    (sni : Option (List UInt8)) (ech_present : Bool) :
    scan_extensions (front ++ (extension.encode ++ back)) extensions_end hostname_size
        front.length sni ech_present
      = let ech_present := ech_present || decide (extension.type = TLS_EXTENSION_ECH)
        let next := fun sni => scan_extensions ((front ++ extension.encode) ++ back)
          extensions_end hostname_size (front ++ extension.encode).length sni ech_present
        if extension.type = TLS_EXTENSION_SERVER_NAME then
          (parse_server_name_extension (front ++ (be16 extension.type ++
              be16 extension.body.length) ++ (extension.body ++ back)) hostname_size
              (front ++ (be16 extension.type ++ be16 extension.body.length)).length
              extension.body.length sni).elim ⟨.INVALID, [], ech_present⟩ next
        else next sni := by
  have hsize := length_extension extension
  obtain ⟨hread, hread'⟩ := read_extension front back extension htype hbody
  have hcut : front ++ (be16 extension.type ++ be16 extension.body.length)
      ++ (extension.body ++ back) = front ++ (extension.encode ++ back) := by
    simp only [hello_extension.encode, List.append_assoc]
  have hheader : (front ++ (be16 extension.type ++ be16 extension.body.length)).length
      = front.length + 4 := by
    rw [List.length_append, List.length_append, length_be16, length_be16]
  have hnext : (front ++ extension.encode).length
      = front.length + 4 + extension.body.length := by
    rw [List.length_append]
    omega
  rw [scan_extensions.eq_def, if_pos (by omega), if_neg (by omega)]
  simp only [hread, hread', hcut, hheader, hnext, List.append_assoc]
  rw [if_neg (by omega)]
  by_cases hname : extension.type = TLS_EXTENSION_SERVER_NAME
  · rw [if_pos hname, if_pos hname]
    cases parse_server_name_extension (front ++ (extension.encode ++ back)) hostname_size
      (front.length + 4) extension.body.length sni <;> rfl
  · rw [if_neg hname, if_neg hname]

/-- **The extension block**, at the offset where it starts, by induction over the extensions. -/
theorem scan_extensions_fields (fields : List parsed_extension) :
    ∀ (front : List UInt8) (extensions_end : ℕ) (sni : Option (List UInt8)) (ech_present : Bool),
      extensions_end = front.length + (fields.flatMap parsed_extension.encode).length →
      Settles ((fields.flatMap parsed_extension.entries).foldlM (note_name hostname_size) sni)
        (ech_present || fields.any fun field => field.extension.type = TLS_EXTENSION_ECH)
        (scan_extensions (front ++ fields.flatMap parsed_extension.encode) extensions_end
          hostname_size front.length sni ech_present) := by
  induction fields with
  | nil =>
      intro front extensions_end sni ech_present hend
      rw [List.flatMap_nil, List.length_nil] at hend
      rw [scan_extensions.eq_def, if_neg (by omega), if_neg (by omega), List.any_nil,
        Bool.or_false]
      cases sni <;> rfl
  | cons field fields ih =>
      intro front extensions_end sni ech_present hend
      rw [List.flatMap_cons, List.length_append] at hend
      have hupto : front.length + field.encode.length ≤ extensions_end := by omega
      rw [List.flatMap_cons, List.flatMap_cons, List.foldlM_append, List.any_cons,
        ← Bool.or_assoc, parsed_extension.encode,
        scan_extensions_extension hostname_size front _ _ field.type_lt field.body_lt hupto]
      have hnext := fun sni ech => ih (front ++ field.extension.encode) extensions_end sni ech
        (by rw [List.length_append]; exact hend.trans (by rw [parsed_extension.encode]; omega))
      cases field with
      | other extension htype hbody hne =>
          dsimp only
          rw [if_neg (show ¬ (other extension htype hbody hne).extension.type
            = TLS_EXTENSION_SERVER_NAME from hne)]
          exact hnext sni _
      | names entries hfive hbound =>
          -- the fold over the entries of this extension, and then over those behind it
          have hparse := fun front back =>
            parse_server_name_extension_entries hostname_size front back hfive hbound sni
          dsimp only
          rw [if_pos (show (names entries hfive hbound).extension.type
            = TLS_EXTENSION_SERVER_NAME from rfl)]
          dsimp only [extension, parsed_extension.entries] at hnext ⊢
          rw [hparse]
          cases entries.foldlM (note_name hostname_size) sni with
          | none => exact ⟨_, rfl, fun h => by rw [h, Bool.true_or]⟩
          | some sni => exact hnext sni _

end Extensions

/-! ## The fields in front of the extensions -/

/-- The fields of a message are skipped. -/
theorem skip_fixed_fields_append {header session_id cipher_suites compression_methods : List UInt8}
    (hheader : header.length = 38) (hsession : session_id.length < 256)
    (hsuites : 2 ≤ cipher_suites.length ∧ cipher_suites.length < 65536)
    (heven : cipher_suites.length % 2 = 0)
    (hmethods : 1 ≤ compression_methods.length ∧ compression_methods.length < 256)
    (rest : List UInt8) :
    skip_fixed_fields (header ++ (UInt8.ofNat session_id.length :: (session_id ++
        (be16 cipher_suites.length ++ (cipher_suites ++
          (UInt8.ofNat compression_methods.length :: (compression_methods ++ rest)))))))
      = some (42 + session_id.length + cipher_suites.length + compression_methods.length) := by
  generalize hback : UInt8.ofNat compression_methods.length :: (compression_methods ++ rest)
    = back
  generalize hciphers : be16 cipher_suites.length ++ (cipher_suites ++ back) = ciphers
  generalize hmessage : header ++ (UInt8.ofNat session_id.length :: (session_id ++ ciphers))
    = message
  have hlength : message.length
      = 42 + session_id.length + cipher_suites.length + compression_methods.length
        + rest.length := by
    simp only [← hmessage, ← hciphers, ← hback, List.length_append, List.length_cons, length_be16]
    omega
  -- the three length fields
  have hfirst : byte_at message 38 = UInt8.ofNat session_id.length := by
    rw [← hmessage, ← hheader, byte_at_front]
  have hsecond : read_u16 message (39 + session_id.length) = cipher_suites.length := by
    have h := read_u16_front (header ++ UInt8.ofNat session_id.length :: session_id) ciphers
    rw [List.length_append, List.length_cons, hheader, List.append_assoc, List.cons_append,
      hmessage, ← hciphers, read_u16_be16 hsuites.2] at h
    rw [← h]
    congr 1
    omega
  have hthird : byte_at message (41 + session_id.length + cipher_suites.length)
      = UInt8.ofNat compression_methods.length := by
    have h := byte_at_front_zero (header ++ (UInt8.ofNat session_id.length :: (session_id ++
      (be16 cipher_suites.length ++ cipher_suites)))) back
    rw [← hback] at h
    simp only [List.length_append, List.length_cons, length_be16, hheader, List.append_assoc,
      List.cons_append, hback, hciphers, hmessage] at h
    rw [show 41 + session_id.length + cipher_suites.length
      = 38 + (session_id.length + (2 + cipher_suites.length) + 1) by omega, h, ← hback]
    rfl
  unfold skip_fixed_fields
  simp only [Nat.reduceAdd, hfirst, toNat_length hsession, hsecond, Nat.and_one_is_mod, heven]
  rw [if_neg (by omega), if_neg (by omega), if_neg (by omega), if_neg (by omega),
    if_neg (by omega), show 39 + session_id.length + 2 + cipher_suites.length
      = 41 + session_id.length + cipher_suites.length by omega, hthird,
    toNat_length hmethods.2, if_neg (by omega), if_neg (by omega)]
  congr 1
  omega

namespace hello_tree

variable (c : hello_tree)

theorem length_upto_extensions :
    c.upto_extensions.length
      = 42 + c.session_id.length + c.cipher_suites.length + c.compression_methods.length := by
  have hheader := c.header_length
  have hversion := c.version_random_length
  simp only [upto_extensions, upto_compression, upto_ciphers, upto_session, List.length_append,
    List.length_cons, length_be16]
  omega

/-- Every part of the message is bounded by its length field. -/
theorem length_encode_lt : c.encode.length < 262144 := by
  have hupto := c.length_upto_extensions
  have hsession := c.session_id_length
  have hciphers := c.cipher_suites_length
  have hcompression := c.compression_methods_length
  have hblock : c.extension_block.length < 2 + 65536 := by
    rw [extension_block]
    cases hextensions : c.extensions with
    | none => exact Nat.succ_pos _
    | some fields =>
        have hsmall := c.extensions_length fields hextensions
        dsimp only
        rw [List.length_append, length_be16]
        omega
  rw [encode, List.length_append]
  omega

theorem skip_fixed_fields_upto (rest : List UInt8) :
    skip_fixed_fields (c.upto_extensions ++ rest) = some c.upto_extensions.length := by
  have hheader : (c.header ++ c.version_random).length = 38 := by
    rw [List.length_append, c.header_length, c.version_random_length]
  have h := skip_fixed_fields_append hheader c.session_id_length c.cipher_suites_length
    c.cipher_suites_even c.compression_methods_length rest
  rw [c.length_upto_extensions, ← h]
  simp only [upto_extensions, upto_compression, upto_ciphers, upto_session, List.append_assoc,
    List.cons_append]

end hello_tree

/-! ## The message -/

namespace hello_tree

variable (c : hello_tree)

/-- **What the parser makes of a tree.** -/
theorem parse_tree (hostname_size : ℕ) :
    Settles (c.entries.foldlM (note_name hostname_size) none) c.announces_ech
      (parse_client_hello c.encode hostname_size) := by
  unfold parse_client_hello
  rw [encode, skip_fixed_fields_upto]
  dsimp only
  rw [entries, announces_ech, extension_block]
  cases hextensions : c.extensions with
  | none =>
      dsimp only
      rw [List.append_nil, if_pos rfl]
      rfl
  | some fields =>
      have hsmall := c.extensions_length fields hextensions
      dsimp only [Option.getD_some]
      have hread : read_u16 (c.upto_extensions ++ (be16 (fields.flatMap
          parsed_extension.encode).length ++ fields.flatMap parsed_extension.encode))
          c.upto_extensions.length = (fields.flatMap parsed_extension.encode).length := by
        rw [read_u16_front, read_u16_be16 hsmall]
      have hlength : (c.upto_extensions ++ (be16 (fields.flatMap
          parsed_extension.encode).length ++ fields.flatMap parsed_extension.encode)).length
          = c.upto_extensions.length + (2 + (fields.flatMap parsed_extension.encode).length) := by
        rw [List.length_append, List.length_append, length_be16]
      rw [hread, if_neg (by omega), if_neg (by omega), if_neg (by omega)]
      have hscan := scan_extensions_fields hostname_size fields
        (c.upto_extensions ++ be16 (fields.flatMap parsed_extension.encode).length) _ none false
        rfl
      rw [List.length_append, length_be16, List.append_assoc, Bool.false_or] at hscan
      exact hscan

end hello_tree

/-! ## The host name -/

theorem host_names_cons_of_pos {entry : server_name} (h : entry.name_type = 0)
    (entries : List server_name) :
    host_names (entry :: entries) = entry.name :: host_names entries := by
  simp only [host_names, List.filter_cons, h, decide_true, if_true, List.map_cons]

theorem host_names_cons_of_neg {entry : server_name} (h : entry.name_type ≠ 0)
    (entries : List server_name) : host_names (entry :: entries) = host_names entries := by
  simp only [host_names, List.filter_cons, h, decide_false, Bool.false_eq_true, if_false]

section Fold

variable (hostname_size : ℕ)

/-- After a host name there may be no other. -/
theorem foldlM_note_name_some (hostname : List UInt8) (entries : List server_name) :
    entries.foldlM (note_name hostname_size) (some hostname)
      = if host_names entries = [] then some (some hostname) else none := by
  induction entries with
  | nil => rfl
  | cons entry entries ih =>
      rw [List.foldlM_cons, note_name]
      by_cases hhost : entry.name_type = 0
      · rw [if_pos hhost, host_names_cons_of_pos hhost, if_neg (List.cons_ne_nil _ _)]
        rfl
      · rw [if_neg hhost, host_names_cons_of_neg hhost]
        exact ih

/-- **What the entries come to** depends on the host names among them. -/
theorem foldlM_note_name (entries : List server_name) :
    entries.foldlM (note_name hostname_size) none
      = match host_names entries with
        | [] => some none
        | [name] => (accepted_hostname hostname_size name).map some
        | _ :: _ :: _ => none := by
  induction entries with
  | nil => rfl
  | cons entry entries ih =>
      rw [List.foldlM_cons, note_name]
      by_cases hhost : entry.name_type = 0
      · rw [if_pos hhost, host_names_cons_of_pos hhost, Option.isSome_none,
          if_neg Bool.false_ne_true]
        cases haccepted : accepted_hostname hostname_size entry.name with
        | none =>
            cases host_names entries with
            | nil => exact (congrArg (Option.map some) haccepted).symm
            | cons => rfl
        | some hostname =>
            refine (foldlM_note_name_some hostname_size hostname entries).trans ?_
            cases host_names entries with
            | nil => exact (congrArg (Option.map some) haccepted).symm
            | cons => rfl
      · rw [if_neg hhost, host_names_cons_of_neg hhost]
        exact ih

end Fold

/-- A byte that the parser accepts in a host name. -/
def printable (value : UInt8) : Bool := 0x21 ≤ value && value ≤ 0x7E

theorem printable_eq_false_iff (value : UInt8) :
    printable value = false ↔ value = 0 ∨ value < 0x21 ∨ value > 0x7E := by
  unfold printable
  rw [Bool.and_eq_false_iff, decide_eq_false_iff_not, decide_eq_false_iff_not, UInt8.not_le,
    UInt8.not_le]
  constructor
  · exact fun h => .inr h
  · rintro (rfl | h)
    · exact .inl (by decide)
    · exact h

theorem copy_hostname_eq (host_name : List UInt8) :
    copy_hostname host_name
      = if host_name.all printable = true then some (host_name.map tolower) else none := by
  induction host_name with
  | nil => rfl
  | cons value rest ih =>
      rw [copy_hostname, ih, List.all_cons]
      cases hvalue : printable value with
      | false =>
          rw [if_pos ((printable_eq_false_iff value).mp hvalue), Bool.false_and]
          rfl
      | true =>
          have haccepted : ¬ (value = 0 ∨ value < 0x21 ∨ value > 0x7E) := by
            rw [← printable_eq_false_iff, hvalue]
            decide
          rw [if_neg haccepted, Bool.true_and]
          cases rest.all printable <;> rfl

end WifiManager.TlsSniParser
