/-
The messages that `parse_client_hello` accepts are those of the grammar.

Every message that is not refused comes from a tree of the module `Grammar` (`exists_tree`):
the bytes in front of an offset are split off field by field, entry by entry and extension by
extension, by induction on what is left, and a field whose length does not fit is where the
parser gives up. With what the parser makes of a tree this says for every message which result
it has, and which host name.
-/
import Mathlib.Data.List.Basic
import WifiManager.TlsSniParser.Grammar

set_option autoImplicit false

namespace WifiManager.TlsSniParser

/-! ## Length-prefixed bytes -/

/-- Two bytes at the front of a list are a 16-bit number. -/
theorem exists_number (data : List UInt8) (htwo : 2 ≤ data.length) :
    ∃ n rest, data = be16 n ++ rest ∧ n < 65536 := by
  match data, htwo with
  | a :: b :: tail, _ =>
    have ha := a.toNat_lt
    have hb := b.toNat_lt
    refine ⟨a.toNat * 256 + b.toNat, tail, ?_, by omega⟩
    rw [be16, show (a.toNat * 256 + b.toNat) / 256 = a.toNat by omega,
      show (a.toNat * 256 + b.toNat) % 256 = b.toNat by omega,
      UInt8.ofNat_toNat, UInt8.ofNat_toNat]
    rfl

/-- A 16-bit length and the bytes that it announces, split off a list. -/
theorem exists_be16 (data : List UInt8) (htwo : 2 ≤ data.length)
    (hfit : read_u16 data 0 ≤ data.length - 2) :
    ∃ body rest, data = be16 body.length ++ (body ++ rest) ∧ body.length = read_u16 data 0 ∧
      body.length < 65536 := by
  obtain ⟨n, tail, rfl, hn⟩ := exists_number data htwo
  rw [read_u16_be16 hn] at hfit ⊢
  rw [List.length_append, length_be16] at hfit
  have hlength : (tail.take n).length = n := by
    rw [List.length_take]
    omega
  refine ⟨tail.take n, tail.drop n, ?_, hlength, by omega⟩
  rw [List.take_append_drop, hlength]

/-- The same with one byte of length. -/
theorem exists_byte (data : List UInt8) (hone : 1 ≤ data.length)
    (hfit : (byte_at data 0).toNat ≤ data.length - 1) :
    ∃ body rest, data = UInt8.ofNat body.length :: (body ++ rest) ∧
      body.length = (byte_at data 0).toNat ∧ body.length < 256 := by
  match data, hone with
  | a :: tail, _ =>
    have ha := a.toNat_lt
    rw [List.length_cons] at hfit
    have hfit' : a.toNat ≤ tail.length := hfit
    have hlength : (tail.take a.toNat).length = a.toNat := by
      rw [List.length_take]
      omega
    refine ⟨tail.take a.toNat, tail.drop a.toNat, ?_, hlength, ?_⟩
    · rw [List.take_append_drop, hlength, UInt8.ofNat_toNat]
    · omega

/-! ## The lists -/

section Lists

variable (hostname_size : ℕ)

/-- **A list that is not refused** is a list of entries, by induction on its length. -/
theorem exists_entries {n : ℕ} :
    ∀ (list front back : List UInt8) (sni : Option (List UInt8)), list.length ≤ n →
      scan_server_names (front ++ (list ++ back)) (front.length + list.length) hostname_size
        front.length sni ≠ none →
      ∃ entries : List server_name, list = entries.flatMap server_name.encode := by
  induction n with
  | zero =>
      intro list front back sni hn _
      have hnil : list = [] := List.length_eq_zero_iff.mp (Nat.le_zero.mp hn)
      exact ⟨[], hnil⟩
  | succ n ih =>
      intro list front back sni hn hscan
      rcases List.eq_nil_or_concat list with hnil | ⟨_, _, hcons⟩
      · exact ⟨[], hnil⟩
      have hpos : 0 < list.length := by
        rw [hcons, List.length_concat]
        omega
      -- the header of the first entry, and the name that it announces
      have hthree : 3 ≤ list.length := by
        by_contra hshort
        apply hscan
        rw [scan_server_names, if_pos (by omega), if_pos (by omega)]
      obtain ⟨name_type, tail, rfl⟩ := List.exists_cons_of_length_pos hpos
      rw [List.length_cons] at hthree hn
      have hread : read_u16 (front ++ (name_type :: tail ++ back)) (front.length + 1)
          = read_u16 (tail ++ back) 0 := by
        rw [read_u16_append_right]
        exact read_u16_append_right [name_type] (tail ++ back) 0
      have hinside : read_u16 (tail ++ back) 0 = read_u16 tail 0 := by
        unfold read_u16
        rw [byte_at_append (by omega), byte_at_append (by omega)]
      have hfit : read_u16 tail 0 ≤ tail.length - 2 := by
        by_contra hlong
        apply hscan
        rw [scan_server_names, if_pos (by omega), if_neg (by rw [List.length_cons]; omega)]
        simp only [hread, hinside]
        rw [if_pos (by rw [List.length_cons]; omega)]
      obtain ⟨name, rest, htail, -, hbound⟩ := exists_be16 tail (by omega) hfit
      -- the rest of the list is scanned behind the entry
      have hlist : name_type :: tail
          = (⟨name_type, name⟩ : server_name).encode ++ rest := by
        rw [htail, server_name.encode, List.cons_append, List.append_assoc]
      have hsize := length_server_name ⟨name_type, name⟩
      rw [hlist, List.length_append, List.append_assoc] at hscan
      rw [scan_server_names_entry hostname_size front _ ⟨name_type, name⟩ hbound (by omega)]
        at hscan
      have hrest : rest.length ≤ n := by
        have h := congrArg List.length hlist
        rw [List.length_cons, List.length_append] at h
        omega
      cases hnote : note_name hostname_size sni ⟨name_type, name⟩ with
      | none =>
          rw [hnote] at hscan
          exact absurd rfl hscan
      | some sni =>
          rw [hnote, Option.bind_some, ← Nat.add_assoc, ← List.length_append] at hscan
          obtain ⟨entries, hentries⟩ := ih rest _ back sni hrest hscan
          exact ⟨⟨name_type, name⟩ :: entries, by rw [hlist, List.flatMap_cons, ← hentries]⟩

/-- A body that is not refused is the length of a list and the list. -/
theorem exists_server_names (front back body : List UInt8) (sni : Option (List UInt8))
    (hparse : parse_server_name_extension (front ++ (body ++ back)) hostname_size front.length
      body.length sni ≠ none) :
    5 ≤ body.length ∧ ∃ entries : List server_name,
      body = (server_name_extension entries).body := by
  unfold parse_server_name_extension at hparse
  have hfive : 5 ≤ body.length := by
    by_contra hshort
    exact hparse (if_pos (by omega))
  have hread : read_u16 (front ++ (body ++ back)) front.length = read_u16 body 0 := by
    rw [read_u16_front]
    unfold read_u16
    rw [byte_at_append (by omega), byte_at_append (by omega)]
  rw [if_neg (by omega), hread] at hparse
  have hlength : read_u16 body 0 = body.length - 2 := by
    by_contra hne
    exact hparse (if_pos hne)
  rw [if_neg (not_not.mpr hlength)] at hparse
  obtain ⟨list, rest, hbody, hlist, -⟩ := exists_be16 body (by omega) (by omega)
  -- the list fills the body
  have hrest : rest = [] := by
    have h := congrArg List.length hbody
    rw [List.length_append, List.length_append, length_be16] at h
    exact List.length_eq_zero_iff.mp (by omega)
  rw [hrest, List.append_nil] at hbody
  refine ⟨hfive, ?_⟩
  have hcut : front ++ be16 list.length ++ (list ++ back) = front ++ (body ++ back) := by
    rw [hbody, List.append_assoc, List.append_assoc]
  have hscan : scan_server_names (front ++ be16 list.length ++ (list ++ back))
      ((front ++ be16 list.length).length + list.length) hostname_size
      (front ++ be16 list.length).length sni ≠ none := by
    intro hnone
    rw [hcut, List.length_append, length_be16] at hnone
    rw [← hlist] at hparse
    dsimp only at hparse
    rw [hnone] at hparse
    exact hparse rfl
  obtain ⟨entries, hentries⟩ := exists_entries hostname_size list _ back sni le_rfl hscan
  exact ⟨entries, by rw [server_name_extension, ← hentries, ← hbody]⟩

/-- **A block that is not refused** is a sequence of extensions, by induction on its length. -/
theorem exists_fields {n : ℕ} :
    ∀ (list front : List UInt8) (sni : Option (List UInt8)) (ech_present : Bool),
      list.length ≤ n →
      (scan_extensions (front ++ list) (front.length + list.length) hostname_size front.length
        sni ech_present).result ≠ .INVALID →
      ∃ fields : List parsed_extension, list = fields.flatMap parsed_extension.encode := by
  induction n with
  | zero =>
      intro list front sni ech_present hn _
      exact ⟨[], List.length_eq_zero_iff.mp (Nat.le_zero.mp hn)⟩
  | succ n ih =>
      intro list front sni ech_present hn hscan
      by_cases hnil : list.length = 0
      · exact ⟨[], List.length_eq_zero_iff.mp hnil⟩
      -- the type and the length of the first extension, and the body that it announces
      have hfour : 4 ≤ list.length := by
        by_contra hshort
        apply hscan
        rw [scan_extensions.eq_def, if_pos (by omega), if_pos (by omega)]
      obtain ⟨type, tail, rfl, htype⟩ := exists_number list (by omega)
      rw [List.length_append, length_be16] at hfour hn hscan
      have hread : read_u16 (front ++ (be16 type ++ tail)) (front.length + 2)
          = read_u16 tail 0 := by
        rw [read_u16_append_right]
        exact read_u16_append_right (be16 type) tail 0
      have hfit : read_u16 tail 0 ≤ tail.length - 2 := by
        by_contra hlong
        apply hscan
        rw [scan_extensions.eq_def, if_pos (by omega), if_neg (by omega)]
        simp only [hread]
        rw [if_pos (by omega)]
      obtain ⟨body, rest, rfl, -, hbody⟩ := exists_be16 tail (by omega) hfit
      -- the rest of the block is scanned behind the extension
      have hsize := length_extension ⟨type, body⟩
      have hlist : be16 type ++ (be16 body.length ++ (body ++ rest))
          = (⟨type, body⟩ : hello_extension).encode ++ rest := by
        rw [hello_extension.encode, List.append_assoc, List.append_assoc]
      have hlength : 2 + (be16 body.length ++ (body ++ rest)).length
          = (⟨type, body⟩ : hello_extension).encode.length + rest.length := by
        rw [← length_be16 type, ← List.length_append, hlist, List.length_append]
      rw [hlength, hlist, scan_extensions_extension hostname_size front rest ⟨type, body⟩ htype
        hbody (by omega)] at hscan
      rw [hlist]
      have hrest : rest.length ≤ n := by omega
      have hend : front.length + ((⟨type, body⟩ : hello_extension).encode.length + rest.length)
          = (front ++ (⟨type, body⟩ : hello_extension).encode).length + rest.length := by
        rw [List.length_append, Nat.add_assoc]
      dsimp only at hscan
      rw [hend] at hscan
      by_cases hname : type = TLS_EXTENSION_SERVER_NAME
      · -- a `server_name` extension: its body is a list of entries
        rw [if_pos hname] at hscan
        cases hparse : parse_server_name_extension (front ++ (be16 type ++ be16 body.length)
            ++ (body ++ rest)) hostname_size (front ++ (be16 type ++ be16 body.length)).length
            body.length sni with
        | none =>
            rw [hparse] at hscan
            exact absurd rfl hscan
        | some found =>
            rw [hparse] at hscan
            obtain ⟨fields, hfields⟩ := ih rest _ found _ hrest hscan
            obtain ⟨hfive, entries, rfl⟩ := exists_server_names hostname_size _ rest body sni
              (by rw [hparse]; exact Option.some_ne_none found)
            refine ⟨.names entries hfive hbody :: fields, ?_⟩
            rw [List.flatMap_cons, ← hfields, hname]
            rfl
      · rw [if_neg hname] at hscan
        obtain ⟨fields, hfields⟩ := ih rest _ sni _ hrest hscan
        refine ⟨.other ⟨type, body⟩ htype hbody hname :: fields, ?_⟩
        rw [List.flatMap_cons, ← hfields]
        rfl

end Lists

/-! ## The message -/

/-- **A message whose fields are skipped** has them. -/
theorem exists_upto_extensions {message : List UInt8} {offset : ℕ}
    (hskip : skip_fixed_fields message = some offset) :
    ∃ (c : hello_tree) (rest : List UInt8), message = c.upto_extensions ++ rest ∧
      offset = c.upto_extensions.length := by
  simp only [skip_fixed_fields, Option.ite_none_left_eq_some, Nat.reduceAdd, not_or, not_lt,
    not_le, Nat.and_one_is_mod, not_not] at hskip
  obtain ⟨hversion, hone, hsession, htwo, ⟨hsuites, heven, hciphers⟩, hmore, ⟨hmethods,
    hcompression⟩, hoffset⟩ := hskip
  obtain ⟨header, version_random, body, rfl, hheader, hrandom⟩ : ∃ header version_random body,
      message = header ++ version_random ++ body ∧ header.length = 4 ∧
        version_random.length = 34 := by
    refine ⟨message.take 4, (message.drop 4).take 34, message.drop 38, ?_, ?_, ?_⟩
    · rw [List.append_assoc, show message.drop 38 = (message.drop 4).drop 34 by
        rw [List.drop_drop], List.take_append_drop, List.take_append_drop]
    · rw [List.length_take]
      omega
    · rw [List.length_take, List.length_drop]
      omega
  have hfront : (header ++ version_random).length = 38 := by
    rw [List.length_append, hheader, hrandom]
  have hwhole : (header ++ version_random ++ body).length = 38 + body.length := by
    rw [List.length_append, hfront]
  -- the session id
  have hfirst : byte_at (header ++ version_random ++ body) 38 = byte_at body 0 := by
    rw [← hfront, byte_at_front_zero]
  rw [hfirst] at hsession htwo hsuites hciphers heven hmore hmethods hcompression hoffset
  obtain ⟨session_id, body₁, rfl, hid, hid'⟩ := exists_byte body (by omega) (by omega)
  rw [← hid] at hsession htwo hsuites hciphers heven hmore hmethods hcompression hoffset
  -- the cipher suites
  have hsecond : read_u16 (header ++ version_random ++ (UInt8.ofNat session_id.length ::
      (session_id ++ body₁))) (39 + session_id.length) = read_u16 body₁ 0 := by
    have h := read_u16_front (header ++ version_random ++ UInt8.ofNat session_id.length ::
      session_id) body₁
    rw [List.append_assoc _ _ body₁, List.cons_append, List.length_append, hfront,
      List.length_cons] at h
    rw [← h]
    congr 1
    omega
  rw [hsecond] at hsuites hciphers heven hmore hmethods hcompression hoffset
  have hwhole₁ : (UInt8.ofNat session_id.length :: (session_id ++ body₁)).length
      = 1 + session_id.length + body₁.length := by
    rw [List.length_cons, List.length_append]
    omega
  obtain ⟨cipher_suites, body₂, rfl, hsize, hsize'⟩ :=
    exists_be16 body₁ (by omega) (by omega)
  rw [← hsize] at hsuites hciphers heven hmore hmethods hcompression hoffset
  -- the compression methods
  have hthird : byte_at (header ++ version_random ++ (UInt8.ofNat session_id.length ::
      (session_id ++ (be16 cipher_suites.length ++ (cipher_suites ++ body₂)))))
      (39 + session_id.length + 2 + cipher_suites.length) = byte_at body₂ 0 := by
    have h := byte_at_front_zero (header ++ version_random ++ (UInt8.ofNat session_id.length ::
      (session_id ++ (be16 cipher_suites.length ++ cipher_suites)))) body₂
    simp only [List.append_assoc, List.cons_append, List.length_append, List.length_cons,
      length_be16] at h hfront ⊢
    rw [← h]
    congr 1
    omega
  rw [hthird] at hmethods hcompression hoffset
  have hwhole₂ : (be16 cipher_suites.length ++ (cipher_suites ++ body₂)).length
      = 2 + cipher_suites.length + body₂.length := by
    rw [List.length_append, List.length_append, length_be16]
    omega
  obtain ⟨compression_methods, rest, rfl, hcount, hcount'⟩ :=
    exists_byte body₂ (by omega) (by omega)
  rw [← hcount] at hmethods hoffset
  let c : hello_tree :=
    { header, version_random, session_id, cipher_suites, compression_methods
      extensions := none
      header_length := hheader
      version_random_length := hrandom
      session_id_length := hid'
      cipher_suites_length := ⟨hsuites, hsize'⟩
      cipher_suites_even := heven
      compression_methods_length := ⟨by omega, hcount'⟩
      extensions_length := fun fields h => absurd h (Option.not_mem_none fields) }
  refine ⟨c, rest, ?_, ?_⟩
  · simp only [c, hello_tree.upto_extensions, hello_tree.upto_compression,
      hello_tree.upto_ciphers, hello_tree.upto_session, List.append_assoc, List.cons_append]
  · rw [c.length_upto_extensions]
    have h := Option.some.inj hoffset
    simp only [c]
    omega

/-- **A message that is not refused** comes from a tree. -/
theorem exists_tree {message : List UInt8} {hostname_size : ℕ}
    (hparse : (parse_client_hello message hostname_size).result ≠ .INVALID) :
    ∃ c : hello_tree, c.encode = message := by
  unfold parse_client_hello at hparse
  cases hskip : skip_fixed_fields message with
  | none =>
      rw [hskip] at hparse
      exact absurd rfl hparse
  | some offset =>
      rw [hskip] at hparse
      dsimp only at hparse
      obtain ⟨c, rest, rfl, rfl⟩ := exists_upto_extensions hskip
      have hlength : (c.upto_extensions ++ rest).length
          = c.upto_extensions.length + rest.length := List.length_append
      by_cases hend : c.upto_extensions.length = (c.upto_extensions ++ rest).length
      · -- the message ends behind its compression methods
        have hnil : rest = [] := List.length_eq_zero_iff.mp (by omega)
        refine ⟨{ c with
          extensions := none
          extensions_length := fun fields h => absurd h (Option.not_mem_none fields) }, ?_⟩
        rw [hnil]
        rfl
      rw [if_neg hend] at hparse
      have htwo : 2 ≤ rest.length := by
        by_contra hshort
        exact hparse (by rw [if_pos (by omega)])
      rw [if_neg (by omega), read_u16_front] at hparse
      have hexact : read_u16 rest 0 = rest.length - 2 := by
        by_contra hne
        exact hparse (by rw [if_pos (by omega)])
      rw [if_neg (by omega)] at hparse
      obtain ⟨block, more, hrest, hblock, hsmall⟩ := exists_be16 rest htwo (by omega)
      have hmore : more = [] := by
        have h := congrArg List.length hrest
        rw [List.length_append, List.length_append, length_be16] at h
        exact List.length_eq_zero_iff.mp (by omega)
      rw [hmore, List.append_nil] at hrest
      -- the block is the rest of the message, and it is scanned to its end
      have hscan : (scan_extensions (c.upto_extensions ++ be16 block.length ++ block)
          ((c.upto_extensions ++ be16 block.length).length + block.length) hostname_size
          (c.upto_extensions ++ be16 block.length).length none false).result ≠ .INVALID := by
        rw [List.append_assoc, ← hrest, List.length_append, length_be16, hblock]
        exact hparse
      obtain ⟨fields, rfl⟩ := exists_fields hostname_size block _ none false le_rfl hscan
      refine ⟨{ c with
        extensions := some fields
        extensions_length := fun other h => ?_ }, ?_⟩
      · rw [← Option.some.inj h]
        exact hsmall
      · rw [hrest]
        rfl

/-! ## The host name -/

/-- A name that the filter takes: 1 to 255 printable ASCII bytes. -/
def IsHostName (name : List UInt8) : Prop :=
  1 ≤ name.length ∧ name.length ≤ 255 ∧ ∀ value ∈ name, 0x21 ≤ value ∧ value ≤ 0x7E

theorem copy_hostname_eq_some_iff (name hostname : List UInt8) :
    copy_hostname name = some hostname ↔
      (∀ value ∈ name, 0x21 ≤ value ∧ value ≤ 0x7E) ∧ hostname = name.map tolower := by
  rw [copy_hostname_eq, Option.ite_none_right_eq_some, List.all_eq_true, Option.some_inj]
  simp only [printable, Bool.and_eq_true, decide_eq_true_eq, eq_comm (a := hostname)]

theorem accepted_hostname_eq_some_iff (name hostname : List UInt8) :
    accepted_hostname TLS_SNI_HOSTNAME_SIZE name = some hostname ↔
      IsHostName name ∧ hostname = name.map tolower := by
  have hsize : TLS_SNI_HOSTNAME_SIZE = 256 := rfl
  rw [accepted_hostname, Option.ite_none_left_eq_some, copy_hostname_eq_some_iff, IsHostName]
  constructor
  · rintro ⟨hlength, hall, hlower⟩
    exact ⟨⟨by omega, by omega, hall⟩, hlower⟩
  · rintro ⟨⟨hone, hmax, hall⟩, hlower⟩
    exact ⟨by omega, hall, hlower⟩

/-! ## The result -/

namespace hello_tree

variable (c : hello_tree)

/-- A tree without a host name. -/
theorem parse_no_name (hnames : host_names c.entries = []) :
    parse_client_hello c.encode TLS_SNI_HOSTNAME_SIZE = ⟨.NO_SNI, [], c.announces_ech⟩ := by
  have h := c.parse_tree TLS_SNI_HOSTNAME_SIZE
  rw [foldlM_note_name, hnames] at h
  exact h

/-- A tree with one. -/
theorem parse_one_name {name : List UInt8} (hnames : host_names c.entries = [name])
    (hname : IsHostName name) :
    parse_client_hello c.encode TLS_SNI_HOSTNAME_SIZE
      = ⟨.FOUND, name.map tolower, c.announces_ech⟩ := by
  have h := c.parse_tree TLS_SNI_HOSTNAME_SIZE
  rw [foldlM_note_name, hnames] at h
  dsimp only at h
  rw [(accepted_hostname_eq_some_iff name _).mpr ⟨hname, rfl⟩] at h
  exact h

/-- Any other tree is refused. -/
theorem parse_refused (hnone : host_names c.entries ≠ [])
    (hone : ∀ name, host_names c.entries = [name] → ¬ IsHostName name) :
    (parse_client_hello c.encode TLS_SNI_HOSTNAME_SIZE).result = .INVALID := by
  have h := c.parse_tree TLS_SNI_HOSTNAME_SIZE
  have hfold : c.entries.foldlM (note_name TLS_SNI_HOSTNAME_SIZE) none = none := by
    rw [foldlM_note_name]
    match hnames : host_names c.entries with
    | [] => exact absurd hnames hnone
    | [name] =>
        dsimp only
        rw [Option.map_eq_none_iff, Option.eq_none_iff_forall_not_mem]
        intro hostname haccepted
        exact hone name hnames ((accepted_hostname_eq_some_iff name hostname).mp haccepted).1
    | _ :: _ :: _ => rfl
  rw [hfold] at h
  obtain ⟨ech, houtcome, -⟩ := h
  rw [houtcome]

end hello_tree

/-- **The messages that the parser accepts**: exactly those of the grammar with at most one
host name, and that one is a name of 1 to 255 printable ASCII bytes. The host name comes back
in lower case, and the flag says whether an extension announces ECH. -/
theorem client_hello_grammar (message : List UInt8) :
    (∀ hostname ech_present,
      parse_client_hello message TLS_SNI_HOSTNAME_SIZE = ⟨.FOUND, hostname, ech_present⟩ ↔
        ∃ c : hello_tree, c.encode = message ∧
          (∃ name, host_names c.entries = [name] ∧ IsHostName name ∧
            hostname = name.map tolower) ∧
          ech_present = c.announces_ech) ∧
      (∀ ech_present,
        parse_client_hello message TLS_SNI_HOSTNAME_SIZE = ⟨.NO_SNI, [], ech_present⟩ ↔
          ∃ c : hello_tree, c.encode = message ∧ host_names c.entries = [] ∧
            ech_present = c.announces_ech) ∧
      ((parse_client_hello message TLS_SNI_HOSTNAME_SIZE).result = .INVALID ↔
        ¬ ∃ c : hello_tree, c.encode = message ∧
          (host_names c.entries = [] ∨
            ∃ name, host_names c.entries = [name] ∧ IsHostName name)) := by
  -- a message that is not refused comes from a tree, and that has at most one host name
  have htree : (parse_client_hello message TLS_SNI_HOSTNAME_SIZE).result ≠ .INVALID →
      ∃ c : hello_tree, c.encode = message ∧
        (host_names c.entries = [] ∨
          ∃ name, host_names c.entries = [name] ∧ IsHostName name) := by
    intro haccepted
    obtain ⟨c, rfl⟩ := exists_tree haccepted
    refine ⟨c, rfl, ?_⟩
    by_contra hnot
    rw [not_or, not_exists] at hnot
    exact haccepted (c.parse_refused hnot.1 fun name h h' => hnot.2 name ⟨h, h'⟩)
  refine ⟨fun hostname ech_present => ⟨fun hfound => ?_, ?_⟩,
    fun ech_present => ⟨fun hfound => ?_, ?_⟩, ⟨?_, ?_⟩⟩
  · obtain ⟨c, rfl, hnone | ⟨name, hnames, hname⟩⟩ := htree (by rw [hfound]; nofun)
    · rw [c.parse_no_name hnone] at hfound
      exact absurd hfound nofun
    · rw [c.parse_one_name hnames hname, hello_outcome.mk.injEq] at hfound
      exact ⟨c, rfl, ⟨name, hnames, hname, hfound.2.1.symm⟩, hfound.2.2.symm⟩
  · rintro ⟨c, rfl, ⟨name, hnames, hname, rfl⟩, rfl⟩
    exact c.parse_one_name hnames hname
  · obtain ⟨c, rfl, hnone | ⟨name, hnames, hname⟩⟩ := htree (by rw [hfound]; nofun)
    · rw [c.parse_no_name hnone, hello_outcome.mk.injEq] at hfound
      exact ⟨c, rfl, hnone, hfound.2.2.symm⟩
    · rw [c.parse_one_name hnames hname] at hfound
      exact absurd hfound nofun
  · rintro ⟨c, rfl, hnone, rfl⟩
    exact c.parse_no_name hnone
  · rintro hinvalid ⟨c, rfl, hnone | ⟨name, hnames, hname⟩⟩
    · rw [c.parse_no_name hnone] at hinvalid
      exact absurd hinvalid nofun
    · rw [c.parse_one_name hnames hname] at hinvalid
      exact absurd hinvalid nofun
  · intro hnot
    by_contra haccepted
    exact hnot (htree haccepted)

end WifiManager.TlsSniParser
