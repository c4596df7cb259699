/-
`components/captive_portal/captive_portal.c`: the pages of the portal.

A request for a page is answered with the form of the administrator, with the page of the device,
or with a redirection to the external portal, which says who asks: the client that holds the
address that the request comes from. The network stack and the HTTP server are not part of the
repository: a `portal_peer_t` is what they say of the socket of a request, and `send_results` what
sending returns.

1. The functions of the source.
2. Which address a request comes from (`get_request_source_ipv4_ok_iff`); an address that is mapped
   into IPv6 is the same address (`mapped_iff`).
3. The URL of a redirection is read back as the device, the client and its address
   (`redirect_url_reads`), and it fits its buffer for every client or for none of a length
   (`redirect_url_length_le`).
4. When a request is redirected, and as which client (`portal_page_handler_redirects_iff`).
-/
import WifiManager.CaptivePortal.Provision
import WifiManager.CaptivePortal.Reply
import WifiManager.ClientAccess.Address
import WifiManager.ClientAccess.MacText
import WifiManager.Lib.Decimal
import WifiManager.WifiGateway.Gateway

set_option autoImplicit false

namespace WifiManager.CaptivePortal

open WifiManager.Lib WifiManager.Lib.FormUrl WifiManager.ClientAccess

open WifiManager.AccessFilter (field16 field32 dot)
open WifiManager.WifiGateway (ip_text)

/-! ## The source of a request -/

/-- `struct sockaddr_storage`: an address of IPv4, one of IPv6, or another family. -/
inductive sockaddr_t
  | AF_INET (s_addr : UInt32)
  | AF_INET6 (s6_addr : Vector UInt8 16)
  | other

/-- The socket of a request: what `httpd_req_to_sockfd` returns, and `getpeername`, `none` for a
negative result. -/
structure portal_peer_t where
  httpd_req_to_sockfd : ℤ
  getpeername : Option sockaddr_t

/-- `IN6_IS_ADDR_V4MAPPED`. -/
def IN6_IS_ADDR_V4MAPPED (s6_addr : Vector UInt8 16) : Bool :=
  s6_addr.toList.take 12 = List.replicate 10 0 ++ [0xFF, 0xFF]

/-- `get_request_source_ipv4`, for pointers that are not NULL. -/
def get_request_source_ipv4 (peer : portal_peer_t) : Except esp_err_t UInt32 :=
  if peer.httpd_req_to_sockfd < 0 then .error .ESP_FAIL
  else
    match peer.getpeername with
    | none => .error .ESP_FAIL
    | some (.AF_INET s_addr) => .ok s_addr
    | some (.AF_INET6 s6_addr) =>
        if IN6_IS_ADDR_V4MAPPED s6_addr = false then .error .ESP_ERR_NOT_SUPPORTED
        else .ok (field32 s6_addr.toList 12)
    | some .other => .error .ESP_ERR_NOT_SUPPORTED

/-! ## The pages -/

/-- What `captive_portal_config_t` says about the external portal; `none` is a NULL pointer. -/
structure external_portal_config_t where
  external_portal_url : Option c_string
  device_code : Option c_string
  external_portal_domain : Option c_string
  external_portal_ipv4 : Option c_string

/-- A body: a text, or one of the two pages, whose HTML is left out. -/
inductive portal_body
  | text (text : c_string)
  | s_provisioning_html
  | s_portal_html
  deriving DecidableEq, Repr

/-- What a handler gives to the server: a response, or an error page of the server. -/
inductive portal_response
  | httpd_resp_send (status content_type : c_string) (headers : List (c_string × c_string))
      (body : portal_body)
  | httpd_resp_send_err (code : httpd_err_code_t) (message : String)
  deriving DecidableEq, Repr

/-- What sending returns. -/
structure send_results where
  httpd_resp_send : esp_err_t
  httpd_resp_send_err : esp_err_t

abbrev REDIRECT_URL_SIZE : ℕ := 320

abbrev question_mark : UInt8 := 0x3F

/-- An address as `IPSTR` prints it: its bytes in network order. -/
def IP2STR (ip : UInt32) : c_string :=
  let octet (i : ℕ) : UInt8 := (network32 ip).getD i 0
  ip_text (octet 0) (octet 1) (octet 2) (octet 3)

/-- `"%s?deviceCode=%s&mac=%s&ip=" IPSTR`. -/
def redirect_url (external_portal_url device_code : c_string) (mac : mac_t) (ipv4 : UInt32) :
    c_string :=
  external_portal_url ++ c_str "?deviceCode=" ++ device_code ++ c_str "&mac=" ++ format_mac mac
    ++ c_str "&ip=" ++ IP2STR ipv4

/-- A response with the status 302. -/
def found (Location message : c_string) : portal_response :=
  .httpd_resp_send (c_str "302 Found") (c_str "text/plain; charset=utf-8")
    [(c_str "Location", Location), (c_str "Cache-Control", c_str "no-store")] (.text message)

/-- `send_external_portal_redirect`: the result, and what was given to the server. -/
def send_external_portal_redirect (s_config : external_portal_config_t)
    (snapshot : client_access_snapshot_t) (results : send_results) :
    esp_err_t × List portal_response :=
  match s_config.external_portal_url, s_config.device_code with
  | some external_portal_url, some device_code =>
      let url := redirect_url external_portal_url device_code snapshot.mac snapshot.ipv4
      if url.length ≥ REDIRECT_URL_SIZE then (.ESP_ERR_NO_MEM, [])
      else (results.httpd_resp_send, [found url (c_str "Redirecting to external portal")])
  | _, _ => (.ESP_ERR_INVALID_ARG, [])

/-- The first half of `portal_page_handler`: the clients behind the look-up, and the one that the
request comes from. -/
def request_client (provisioning_mode : Bool) (arp : softap_arp_t) (clients : client_table)
    (peer : portal_peer_t) : client_table × Option client_access_snapshot_t :=
  -- the page for the administrator does not depend on the client
  if provisioning_mode = true then (clients, none)
  else
    match get_request_source_ipv4 peer with
    | .error _ => (clients, none)
    | .ok source_ip =>
        let (clients, snapshot) := client_access_get_snapshot_by_ipv4 arp clients source_ip
        (clients, snapshot.toOption)

/-- The second half: the result, and what was given to the server. -/
def portal_page (provisioning_mode : Bool) (s_config : external_portal_config_t)
    (snapshot : Option client_access_snapshot_t) (results : send_results) :
    esp_err_t × List portal_response :=
  match snapshot, s_config.external_portal_url with
  | some snapshot, some _ =>
      let (redirect_err, sent) := send_external_portal_redirect s_config snapshot results
      if redirect_err ≠ .ESP_OK then
        (results.httpd_resp_send_err, sent ++
          [.httpd_resp_send_err .HTTPD_500_INTERNAL_SERVER_ERROR "Portal redirect failed"])
      else (.ESP_OK, sent)
  | _, _ =>
      (results.httpd_resp_send,
        [.httpd_resp_send (c_str "200 OK") (c_str "text/html; charset=utf-8")
          [(c_str "Cache-Control", c_str "no-store")]
          (if provisioning_mode = true then .s_provisioning_html else .s_portal_html)])

/-- `portal_page_handler`. -/
def portal_page_handler (provisioning_mode : Bool) (s_config : external_portal_config_t)
    (arp : softap_arp_t) (clients : client_table) (peer : portal_peer_t)
    (results : send_results) : client_table × esp_err_t × List portal_response :=
  let (clients, snapshot) := request_client provisioning_mode arp clients peer
  (clients, portal_page provisioning_mode s_config snapshot results)

/-- `portal_not_found_handler`, for every error code. -/
def portal_not_found_handler (results : send_results) : esp_err_t × List portal_response :=
  (results.httpd_resp_send, [found (c_str "/") (c_str "Redirecting to captive portal")])

/-- `validate_external_portal_config`, for a pointer that is not NULL. -/
def validate_external_portal_config (config : external_portal_config_t) : esp_err_t :=
  match config.external_portal_url, config.external_portal_domain, config.external_portal_ipv4 with
  -- switched off
  | none, none, none => .ESP_OK
  | some external_portal_url, some external_portal_domain, some external_portal_ipv4 =>
      match config.device_code with
      | none => .ESP_ERR_INVALID_ARG
      | some device_code =>
          if external_portal_url = [] ∨ external_portal_domain = [] ∨ external_portal_ipv4 = [] ∨
              device_code = [] then .ESP_ERR_INVALID_ARG
          -- the query is put behind the URL
          else if question_mark ∈ external_portal_url then .ESP_ERR_INVALID_ARG
          else .ESP_OK
  | _, _, _ => .ESP_ERR_INVALID_ARG

/-! ## Addresses -/

theorem halves (value : UInt32) :
    (value >>> 16).toUInt16.toUInt32 <<< 16 ||| value.toUInt16.toUInt32 = value := by
  have hlt := value.toNat_lt
  have hlow : value.toNat % 65536 < 2 ^ 16 := Nat.mod_lt _ (by decide)
  have hor := Nat.shiftLeft_add_eq_or_of_lt hlow (value.toNat / 65536)
  simp only [Nat.shiftLeft_eq, Nat.reducePow] at hor
  apply UInt32.toNat_inj.mp
  simp only [UInt32.toNat_or, UInt32.toNat_shiftLeft, UInt16.toNat_toUInt32,
    UInt32.toNat_toUInt16, UInt32.toNat_shiftRight, UInt32.reduceToNat, Nat.shiftLeft_eq,
    Nat.shiftRight_eq_div_pow, Nat.reduceMod, Nat.reducePow]
  rw [Nat.mod_eq_of_lt (by omega : value.toNat / 65536 < 65536),
    Nat.mod_eq_of_lt (by omega : value.toNat / 65536 * 65536 < 4294967296)]
  omega

/-- A 32-bit value is read as it was written. -/
theorem field32_network32 (value : UInt32) (front : List UInt8) :
    field32 (front ++ network32 value) front.length = value := by
  have hhigh : field16 (front ++ network32 value) front.length = (value >>> 16).toUInt16 :=
    (field16_append_right front (network32 value) 0).trans (field16_network16 _ _)
  have hlow : field16 (front ++ network32 value) (front.length + 2) = value.toUInt16 := by
    rw [field16_append_right, network32, ← List.append_nil (network16 value.toUInt16)]
    exact (field16_network16_append _ _ 0).trans (field16_network16 _ _)
  rw [field32, hhigh, hlow, halves]

theorem network16_bytes (high low : UInt8) :
    network16 (high.toUInt16 <<< 8 ||| low.toUInt16) = [high, low] := by
  have hhigh := high.toNat_lt
  have hlow := low.toNat_lt
  have hvalue : (high.toUInt16 <<< 8 ||| low.toUInt16).toNat
      = high.toNat * 256 + low.toNat := by
    have hor := Nat.shiftLeft_add_eq_or_of_lt (show low.toNat < 2 ^ 8 from hlow) high.toNat
    simp only [Nat.shiftLeft_eq, Nat.reducePow] at hor
    simp only [UInt16.toNat_or, UInt16.toNat_shiftLeft, UInt8.toNat_toUInt16, UInt16.reduceToNat,
      Nat.shiftLeft_eq, Nat.reduceMod, Nat.reducePow]
    rw [Nat.mod_eq_of_lt (by omega : high.toNat * 256 < 65536), ← hor]
  rw [network16, List.cons.injEq, List.cons.injEq]
  refine ⟨UInt8.toNat_inj.mp ?_, UInt8.toNat_inj.mp ?_, rfl⟩
  · rw [UInt16.toNat_toUInt8, UInt16.toNat_shiftRight, hvalue]
    simp only [UInt16.reduceToNat, Nat.reduceMod, Nat.shiftRight_eq_div_pow, Nat.reducePow]
    omega
  · rw [UInt16.toNat_toUInt8, hvalue]
    omega

theorem network32_halves (high low : UInt16) :
    network32 (high.toUInt32 <<< 16 ||| low.toUInt32) = network16 high ++ network16 low := by
  have hhigh := high.toNat_lt
  have hlow := low.toNat_lt
  have hvalue : (high.toUInt32 <<< 16 ||| low.toUInt32).toNat
      = high.toNat * 65536 + low.toNat := by
    have hor := Nat.shiftLeft_add_eq_or_of_lt (show low.toNat < 2 ^ 16 from hlow) high.toNat
    simp only [Nat.shiftLeft_eq, Nat.reducePow] at hor
    simp only [UInt32.toNat_or, UInt32.toNat_shiftLeft, UInt16.toNat_toUInt32, UInt32.reduceToNat,
      Nat.shiftLeft_eq, Nat.reduceMod, Nat.reducePow]
    rw [Nat.mod_eq_of_lt (by omega : high.toNat * 65536 < 4294967296), ← hor]
  rw [network32]
  congr 2
  · refine UInt16.toNat_inj.mp ?_
    rw [UInt32.toNat_toUInt16, UInt32.toNat_shiftRight, hvalue]
    simp only [UInt32.reduceToNat, Nat.reduceMod, Nat.shiftRight_eq_div_pow, Nat.reducePow]
    omega
  · refine UInt16.toNat_inj.mp ?_
    rw [UInt32.toNat_toUInt16, hvalue]
    omega

/-- A 32-bit value is written as it was read. -/
theorem network32_field32 (front : List UInt8) (a b c d : UInt8) :
    network32 (field32 (front ++ [a, b, c, d]) front.length) = [a, b, c, d] := by
  have hhigh : field16 (front ++ [a, b, c, d]) front.length = a.toUInt16 <<< 8 ||| b.toUInt16 :=
    field16_append_right front [a, b, c, d] 0
  have hlow : field16 (front ++ [a, b, c, d]) (front.length + 2)
      = c.toUInt16 <<< 8 ||| d.toUInt16 := field16_append_right front [a, b, c, d] 2
  rw [field32, hhigh, hlow, network32_halves, network16_bytes, network16_bytes]
  rfl

/-- `::ffff:0:0/96`. -/
def mapped_head : List UInt8 := List.replicate 10 0 ++ [0xFF, 0xFF]

/-- The address of IPv6 for an address of IPv4. -/
def mapped (ip : UInt32) : Vector UInt8 16 := ⟨(mapped_head ++ network32 ip).toArray, rfl⟩

theorem mapped_iff (s6_addr : Vector UInt8 16) (ip : UInt32) :
    s6_addr = mapped ip ↔
      IN6_IS_ADDR_V4MAPPED s6_addr = true ∧ field32 s6_addr.toList 12 = ip := by
  rw [IN6_IS_ADDR_V4MAPPED, decide_eq_true_eq]
  constructor
  · rintro rfl
    exact ⟨rfl, field32_network32 ip mapped_head⟩
  · rintro ⟨hhead, rfl⟩
    have hlength : (s6_addr.toList.drop 12).length = 4 := by simp
    have hsplit : mapped_head ++ s6_addr.toList.drop 12 = s6_addr.toList := by
      rw [mapped_head, ← hhead, List.take_append_drop]
    match hrest : s6_addr.toList.drop 12, hlength with
    | [a, b, c, d], _ =>
        rw [hrest] at hsplit
        have hbytes : network32 (field32 s6_addr.toList 12) = [a, b, c, d] := by
          rw [← hsplit]
          exact network32_field32 mapped_head a b c d
        apply Vector.toList_inj.mp
        calc s6_addr.toList = mapped_head ++ network32 (field32 s6_addr.toList 12) := by
              rw [hbytes, hsplit]
          _ = (mapped (field32 s6_addr.toList 12)).toList := rfl

/-- **Whose request it is.** -/
theorem get_request_source_ipv4_ok_iff (peer : portal_peer_t) (ip : UInt32) :
    get_request_source_ipv4 peer = .ok ip ↔ 0 ≤ peer.httpd_req_to_sockfd ∧
      (peer.getpeername = some (.AF_INET ip) ∨
        peer.getpeername = some (.AF_INET6 (mapped ip))) := by
  rw [get_request_source_ipv4]
  by_cases hsocket : peer.httpd_req_to_sockfd < 0
  · rw [if_pos hsocket]
    exact iff_of_false (fun h => nomatch h) fun h => absurd h.1 (not_le.mpr hsocket)
  rw [if_neg hsocket, and_iff_right (not_lt.mp hsocket)]
  rcases peer.getpeername with - | address | s6_addr | -
  · simp
  · simp
  · simp only [Option.some.injEq, reduceCtorEq, sockaddr_t.AF_INET6.injEq, false_or, mapped_iff]
    cases IN6_IS_ADDR_V4MAPPED s6_addr <;> simp
  · simp

/-! ## Addresses as texts -/

theorem c_str_append (s t : String) : c_str (s ++ t) = c_str s ++ c_str t := by
  rw [c_str, String.toList_append, List.map_append]
  rfl

theorem c_str_octet : ∀ octet : UInt8, c_str (toString octet) = Decimal.decimal octet.toNat := by
  apply CString.forall_byte
  decide +kernel

theorem ip_text_eq (a b c d : UInt8) :
    ip_text a b c d
      = [dot].intercalate ([a, b, c, d].map fun octet => Decimal.decimal octet.toNat) := by
  have hdot : c_str "." = [dot] := rfl
  simp [ip_text, c_str_append, c_str_octet, hdot, List.intercalate_cons_cons]

theorem isdigit_ge {character : UInt8} (h : CString.isdigit character = true) :
    0x30 ≤ character.toNat :=
  (UInt8.le_iff_toNat_le.mp (of_decide_eq_true h).1)

/-- An address is digits and dots. -/
theorem IP2STR_chars (ip : UInt32) :
    ∀ character ∈ IP2STR ip, 0x30 ≤ character.toNat ∨ character = dot := by
  intro character hmem
  rw [IP2STR, ip_text_eq] at hmem
  simp only [List.map_cons, List.map_nil, List.intercalate_cons_cons, List.intercalate_singleton,
    List.mem_append, List.mem_singleton] at hmem
  rcases hmem with ((hdigit | hdot) | (hdigit | hdot) | (hdigit | hdot) | hdigit)
  all_goals first | exact .inr hdot | exact .inl (isdigit_ge (Decimal.isdigit_decimal _ _ hdigit))

theorem IP2STR_length_le (ip : UInt32) : (IP2STR ip).length ≤ 15 := by
  have hoctet : ∀ octet : UInt8, (Decimal.decimal octet.toNat).length ≤ 3 :=
    fun octet => Decimal.decimal_length_le (by decide) (Nat.lt_trans octet.toNat_lt (by decide))
  rw [IP2STR, ip_text_eq]
  simp only [List.map_cons, List.map_nil, List.intercalate_cons_cons, List.intercalate_singleton,
    List.length_append, List.length_singleton]
  have ha := hoctet ((network32 ip).getD 0 0)
  have hb := hoctet ((network32 ip).getD 1 0)
  have hc := hoctet ((network32 ip).getD 2 0)
  have hd := hoctet ((network32 ip).getD 3 0)
  omega

/-! ## The URL of a redirection -/

/-- What the query says. -/
def redirect_fields (device_code : c_string) (mac : mac_t) (ipv4 : UInt32) :
    List (c_string × c_string) :=
  [(c_str "deviceCode", device_code), (c_str "mac", format_mac mac), (c_str "ip", IP2STR ipv4)]

theorem redirect_url_eq (external_portal_url device_code : c_string) (mac : mac_t)
    (ipv4 : UInt32) :
    redirect_url external_portal_url device_code mac ipv4
      = external_portal_url ++ question_mark :: query (redirect_fields device_code mac ipv4) := by
  have hdevice : c_str "?deviceCode=" = question_mark :: (c_str "deviceCode" ++ [equals]) := rfl
  have hmac : c_str "&mac=" = ampersand :: (c_str "mac" ++ [equals]) := rfl
  have hip : c_str "&ip=" = ampersand :: (c_str "ip" ++ [equals]) := rfl
  simp [redirect_url, redirect_fields, query, hdevice, hmac, hip, List.intercalate_cons_cons]

/-- **What a configuration has to be**: there is no external portal, or all that is said about it is
there, and its URL has no query. -/
theorem validate_external_portal_config_ok_iff (config : external_portal_config_t) :
    validate_external_portal_config config = .ESP_OK ↔
      (config.external_portal_url = none ∧ config.external_portal_domain = none ∧
          config.external_portal_ipv4 = none) ∨
        ∃ external_portal_url external_portal_domain external_portal_ipv4 device_code,
          config = ⟨some external_portal_url, some device_code, some external_portal_domain,
            some external_portal_ipv4⟩ ∧ external_portal_url ≠ [] ∧
          external_portal_domain ≠ [] ∧ external_portal_ipv4 ≠ [] ∧ device_code ≠ [] ∧
          question_mark ∉ external_portal_url := by
  obtain ⟨url, device, domain, ipv4⟩ := config
  rw [validate_external_portal_config]
  cases url <;> cases device <;> cases domain <;> cases ipv4
  all_goals simp
  split_ifs with hempty hquery
  all_goals tauto

/-- A MAC is digits and colons. -/
theorem format_mac_chars (mac : mac_t) : ∀ character ∈ format_mac mac, 0x30 ≤ character.toNat := by
  have hdigit : ∀ n < 16, 0x30 ≤ (Hex.upper_digit n).toNat := fun n hn =>
    (Hex.isDigit_upper_digit hn).ge
  have hhigh : ∀ i : Fin 6, mac[i].toNat / 16 < 16 := by
    intro i
    have hlt := mac[i].toNat_lt
    omega
  have hlow : ∀ i : Fin 6, mac[i].toNat % 16 < 16 := fun i => Nat.mod_lt _ (by decide)
  intro character hmem
  simp only [format_mac, mac_text, List.mem_cons, List.not_mem_nil, or_false] at hmem
  rcases hmem with rfl | rfl | rfl | rfl | rfl | rfl | rfl | rfl | rfl | rfl | rfl | rfl | rfl |
    rfl | rfl | rfl | rfl
  all_goals first | exact hdigit _ (hhigh _) | exact hdigit _ (hlow _) | decide

/-- Digits, colons and dots stand for themselves, and none of them is an ampersand. -/
theorem literal_text {text : c_string}
    (h : ∀ character ∈ text, 0x30 ≤ character.toNat ∨ character = dot) :
    Encodes text text ∧ ampersand ∉ text := by
  have hother : ∀ character ∈ text, character ≠ 0 ∧ character ≠ plus ∧ character ≠ percent ∧
      character ≠ ampersand := by
    intro character hmem
    rcases h character hmem with hge | rfl
    · refine ⟨?_, ?_, ?_, ?_⟩
      all_goals
        rintro rfl
        exact absurd hge (by decide)
    · decide
  refine ⟨.literals fun character hmem => ?_, fun hmem => (hother _ hmem).2.2.2 rfl⟩
  obtain ⟨hnul, hplus, hpercent, -⟩ := hother character hmem
  exact ⟨hnul, hplus, hpercent⟩

/-- **The URL is read back**: a question mark ends the URL of the portal, and the query behind it
says the device, the client and its address, in characters that stand for themselves. -/
theorem redirect_url_reads {external_portal_url device_code : c_string}
    (hurl : question_mark ∉ external_portal_url) (hcode : ampersand ∉ device_code) (mac : mac_t)
    (ipv4 : UInt32) :
    cut_at question_mark (redirect_url external_portal_url device_code mac ipv4)
        = (external_portal_url, query (redirect_fields device_code mac ipv4)) ∧
      fields (query (redirect_fields device_code mac ipv4))
        = redirect_fields device_code mac ipv4 ∧
      Encodes (format_mac mac) (format_mac mac) ∧ Encodes (IP2STR ipv4) (IP2STR ipv4) := by
  obtain ⟨hmac, hmac'⟩ := literal_text fun c hc => .inl (format_mac_chars mac c hc)
  obtain ⟨hip, hip'⟩ := literal_text (IP2STR_chars ipv4)
  refine ⟨?_, fields_query (List.cons_ne_nil _ _) ?_, hmac, hip⟩
  · rw [redirect_url_eq]
    exact cut_at_append hurl _
  · simp only [redirect_fields, List.forall_mem_cons]
    exact ⟨⟨by decide, by decide, hcode⟩, ⟨by decide, by decide, hmac'⟩,
      ⟨by decide, by decide, hip'⟩, nofun⟩

theorem redirect_url_length_le (external_portal_url device_code : c_string) (mac : mac_t)
    (ipv4 : UInt32) :
    (redirect_url external_portal_url device_code mac ipv4).length
      ≤ external_portal_url.length + device_code.length + 53 := by
  have hip := IP2STR_length_le ipv4
  have hmac : (format_mac mac).length = 17 := rfl
  have hkeys : (c_str "?deviceCode=").length = 12 ∧ (c_str "&mac=").length = 5 ∧
      (c_str "&ip=").length = 4 := by
    decide
  simp only [redirect_url, List.length_append, hmac, hkeys]
  omega

/-! ## Redirections -/

/-- **Who holds an address**, behind the look-up that may give it to its client. -/
theorem snapshot_by_ipv4_iff (arp : softap_arp_t) (clients : client_table) (source_ip : UInt32)
    (snapshot : client_access_snapshot_t) :
    (client_access_get_snapshot_by_ipv4 arp clients source_ip).2 = .ok snapshot ↔
      ∃ entry, holder (client_access_get_snapshot_by_ipv4 arp clients source_ip).1 source_ip
          = some entry ∧ entry.snapshot = snapshot := by
  rw [client_access_get_snapshot_by_ipv4]
  by_cases hip : source_ip = 0
  · rw [if_pos hip]
    refine iff_of_false (by rintro ⟨⟩) ?_
    rintro ⟨entry, hentry, -⟩
    rw [holder, if_pos hip] at hentry
    cases hentry
  have hcopy : ∀ clients, copy_client_snapshot_by_ipv4 clients source_ip = .ok snapshot ↔
      ∃ entry, holder clients source_ip = some entry ∧ entry.snapshot = snapshot := by
    intro clients
    rw [copy_client_snapshot_by_ipv4_eq, holder, if_neg hip]
    cases address_layout.lookup clients source_ip with
    | none => simp
    | some entry => simp
  rw [if_neg hip]
  cases hfirst : copy_client_snapshot_by_ipv4 clients source_ip with
  | ok found =>
      rw [← hcopy, hfirst]
  | error err =>
      have hnone : ¬ ∃ entry, holder clients source_ip = some entry ∧
          entry.snapshot = snapshot := by
        rw [← hcopy, hfirst]
        rintro ⟨⟩
      cases resolve_client_mac_by_ipv4 arp source_ip with
      | error err => exact iff_of_false (by rintro ⟨⟩) hnone
      | ok mac =>
          dsimp only
          cases hfind : find_client_index_locked clients mac with
          | none =>
              rw [track_client_ip, hfind]
              exact iff_of_false (by rintro ⟨⟩) hnone
          | some i =>
              rw [track_client_ip, hfind]
              exact hcopy _

theorem found_injective {url url' message message' : c_string}
    (h : found url message = found url' message') : url = url' ∧ message = message' := by
  rw [found, found, portal_response.httpd_resp_send.injEq] at h
  obtain ⟨-, -, hheaders, hbody⟩ := h
  exact ⟨(Prod.mk.inj (List.cons.inj hheaders).1).2, portal_body.text.inj hbody⟩

theorem found_ne_page (url message content_type : c_string) (headers : List (c_string × c_string))
    (body : portal_body) :
    found url message ≠ .httpd_resp_send (c_str "200 OK") content_type headers body := by
  intro h
  rw [found, portal_response.httpd_resp_send.injEq] at h
  exact absurd h.1 (by decide)

/-- What is sent where the client is known. -/
theorem mem_send_external_portal_redirect (s_config : external_portal_config_t)
    (snapshot : client_access_snapshot_t) (results : send_results) (url message : c_string) :
    found url message ∈ (send_external_portal_redirect s_config snapshot results).2 ↔
      message = c_str "Redirecting to external portal" ∧
        ∃ external_portal_url device_code,
          s_config.external_portal_url = some external_portal_url ∧
          s_config.device_code = some device_code ∧
          url = redirect_url external_portal_url device_code snapshot.mac snapshot.ipv4 ∧
          url.length < REDIRECT_URL_SIZE := by
  rw [send_external_portal_redirect]
  cases s_config.external_portal_url with
  | none => simp
  | some external_portal_url =>
      cases s_config.device_code with
      | none => simp
      | some device_code =>
          dsimp only
          split_ifs with hlarge
          · refine iff_of_false List.not_mem_nil ?_
            rintro ⟨-, _, _, ⟨⟩, ⟨⟩, rfl, hfits⟩
            exact absurd hfits (Nat.not_lt.mpr hlarge)
          · rw [List.mem_singleton]
            constructor
            · intro hsent
              obtain ⟨rfl, rfl⟩ := found_injective hsent
              exact ⟨rfl, external_portal_url, device_code, rfl, rfl, rfl,
                Nat.lt_of_not_le hlarge⟩
            · rintro ⟨rfl, _, _, ⟨⟩, ⟨⟩, rfl, -⟩
              rfl

/-- The client that a request comes from. -/
theorem request_client_iff (provisioning_mode : Bool) (arp : softap_arp_t)
    (clients : client_table) (peer : portal_peer_t) (snapshot : client_access_snapshot_t) :
    (request_client provisioning_mode arp clients peer).2 = some snapshot ↔
      provisioning_mode = false ∧ ∃ source_ip entry, get_request_source_ipv4 peer = .ok source_ip ∧
        holder (client_access_get_snapshot_by_ipv4 arp clients source_ip).1 source_ip
          = some entry ∧ entry.snapshot = snapshot := by
  rw [request_client]
  cases provisioning_mode with
  | true => simp
  | false =>
      cases get_request_source_ipv4 peer with
      | error err => simp
      | ok source_ip =>
          have hholder := snapshot_by_ipv4_iff arp clients source_ip snapshot
          simp only [Bool.false_eq_true, if_false, true_and, Except.ok.injEq,
            exists_and_left, exists_eq_left', ← hholder]
          cases (client_access_get_snapshot_by_ipv4 arp clients source_ip).2 with
          | error err => simp [Except.toOption]
          | ok found => simp [Except.toOption]

/-- Only a known client is redirected. -/
theorem mem_portal_page (provisioning_mode : Bool) (s_config : external_portal_config_t)
    (client : Option client_access_snapshot_t) (results : send_results) (url message : c_string) :
    found url message ∈ (portal_page provisioning_mode s_config client results).2 ↔
      ∃ snapshot, client = some snapshot ∧
        found url message ∈ (send_external_portal_redirect s_config snapshot results).2 := by
  have hpage : ∀ body, found url message
      ∉ [.httpd_resp_send (c_str "200 OK") (c_str "text/html; charset=utf-8")
          [(c_str "Cache-Control", c_str "no-store")] body] := fun body hmem =>
    found_ne_page _ _ _ _ _ (List.mem_singleton.mp hmem)
  unfold portal_page
  cases client with
  | none =>
      refine iff_of_false (hpage _) ?_
      rintro ⟨snapshot, hnone, -⟩
      cases hnone
  | some snapshot =>
      simp only [Option.some.injEq, exists_eq_left']
      cases hurl : s_config.external_portal_url with
      | none =>
          refine iff_of_false (hpage _) ?_
          rw [mem_send_external_portal_redirect, hurl]
          rintro ⟨-, _, _, hsome, -⟩
          cases hsome
      | some external_portal_url =>
          dsimp only
          split_ifs
          · rw [List.mem_append, List.mem_singleton, or_iff_left]
            exact fun h => nomatch h
          · exact Iff.rfl

/-- **When a request is redirected**: in the normal mode, to an external portal, if a client holds
the address that it comes from and the URL fits; and then the URL says this client. -/
theorem portal_page_handler_redirects_iff (provisioning_mode : Bool)
    (s_config : external_portal_config_t) (arp : softap_arp_t) (clients : client_table)
    (peer : portal_peer_t) (results : send_results) (url message : c_string) :
    found url message
        ∈ (portal_page_handler provisioning_mode s_config arp clients peer results).2.2 ↔
      provisioning_mode = false ∧ message = c_str "Redirecting to external portal" ∧
        ∃ source_ip external_portal_url device_code entry,
          get_request_source_ipv4 peer = .ok source_ip ∧
          s_config.external_portal_url = some external_portal_url ∧
          s_config.device_code = some device_code ∧
          holder (client_access_get_snapshot_by_ipv4 arp clients source_ip).1 source_ip
            = some entry ∧
          url = redirect_url external_portal_url device_code entry.mac entry.ip ∧
          url.length < REDIRECT_URL_SIZE := by
  rw [portal_page_handler]
  dsimp only
  rw [mem_portal_page]
  simp only [request_client_iff, mem_send_external_portal_redirect]
  constructor
  · rintro ⟨_, ⟨hmode, source_ip, entry, hsource, hentry, rfl⟩, hmessage, base, code, hbase, hcode,
      hurl, hfits⟩
    exact ⟨hmode, hmessage, source_ip, base, code, entry, hsource, hbase, hcode, hentry, hurl,
      hfits⟩
  · rintro ⟨hmode, hmessage, source_ip, base, code, entry, hsource, hbase, hcode, hentry, hurl,
      hfits⟩
    exact ⟨entry.snapshot, ⟨hmode, source_ip, entry, hsource, hentry, rfl⟩, hmessage, base, code,
      hbase, hcode, hurl, hfits⟩

end WifiManager.CaptivePortal
