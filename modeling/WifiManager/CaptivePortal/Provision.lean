/-
`components/captive_portal`: the form that gives the device its WiFi network.

`provision_post_handler` reads the body of the request, takes the fields `ssid` and `password`
from it, decodes them and hands them on. The HTTP server is not part of the repository: what a
call of `httpd_req_recv` returns is a `recv_result`, the raw value that `httpd_query_key_value`
finds for a key is the parameter `find_field`, and `ReadsFields` says what is documented of it.
The buffers are their sizes; a string is the list of its bytes, and what is cut off by a buffer
is an error in each of the functions.
-/
import Mathlib.Data.List.Basic
import WifiManager.Esp
import WifiManager.Lib.CString
import WifiManager.Lib.FormUrl

set_option autoImplicit false

namespace WifiManager.CaptivePortal

open WifiManager.Lib WifiManager.Lib.Hex WifiManager.Lib.FormUrl

/-! ## Data -/

abbrev PROVISION_BODY_SIZE : ℕ := 384
abbrev PROVISION_ENCODED_SSID_SIZE : ℕ := 128
abbrev PROVISION_ENCODED_PASSWORD_SIZE : ℕ := 192
abbrev PROVISION_SSID_SIZE : ℕ := 33
abbrev PROVISION_PASSWORD_SIZE : ℕ := 64

/-- What a call of `httpd_req_recv` returns: bytes, `HTTPD_SOCK_ERR_TIMEOUT` or another
error. -/
inductive recv_result
  | data (bytes : List UInt8)
  | timeout
  | failed
  deriving DecidableEq, Repr

/-- `httpd_req_t`: the length in the header, and what reading the body returns call by call. -/
structure httpd_req_t where
  content_len : ℕ
  recv : List recv_result
  deriving DecidableEq, Repr

/-- `httpd_err_code_t`, the codes used here. -/
inductive httpd_err_code_t
  | HTTPD_400_BAD_REQUEST
  | HTTPD_413_CONTENT_TOO_LARGE
  | HTTPD_500_INTERNAL_SERVER_ERROR
  deriving DecidableEq, Repr

/-- How a request ends: an error page, `ESP_FAIL` without a page, or the page that says that
the configuration is saved, behind which the device restarts. -/
inductive provision_answer
  | send_err (code : httpd_err_code_t) (message : String)
  | fail
  | saved
  deriving DecidableEq, Repr

/-- `captive_portal_config_t`, as far as it is read here; `none` is a NULL handler. The handler
runs in the monad of its caller. -/
structure captive_portal_config_t (m : Type → Type) where
  provisioning_mode : Bool
  provision_handler : Option (c_string → c_string → m esp_err_t)

/-! ## The source -/

/-- `hex_character_to_value`. -/
def hex_character_to_value (character : UInt8) : ℤ :=
  if 0x30 ≤ character ∧ character ≤ 0x39 then (character.toNat : ℤ) - 0x30
  else if 0x61 ≤ character ∧ character ≤ 0x66 then (character.toNat : ℤ) - 0x61 + 10
  else if 0x41 ≤ character ∧ character ≤ 0x46 then (character.toNat : ℤ) - 0x41 + 10
  else -1

/-- The end of a round of `decode_form_value`: the character is checked and stored. -/
def put_character (decoded_size : ℕ) (decoded : c_string) (decoded_character : UInt8) :
    Except esp_err_t c_string :=
  if decoded_character = 0 then .error .ESP_ERR_INVALID_ARG
  -- one place is kept for the terminator
  else if decoded.length + 1 ≥ decoded_size then .error .ESP_ERR_NO_MEM
  else .ok (decoded ++ [decoded_character])

/-- The loop of `decode_form_value`, on the rest of the text and what has been stored. -/
def decode_form_characters (decoded_size : ℕ) : c_string → c_string → Except esp_err_t c_string
  | [], decoded => .ok decoded
  | encoded :: rest, decoded =>
      if encoded = plus then do
        let decoded ← put_character decoded_size decoded space
        decode_form_characters decoded_size rest decoded
      else if encoded = percent then
        match rest with
        | high :: low :: rest =>
            if hex_character_to_value high < 0 ∨ hex_character_to_value low < 0 then
              .error .ESP_ERR_INVALID_ARG
            else do
              let decoded ← put_character decoded_size decoded (UInt8.ofNat
                ((hex_character_to_value high).toNat <<< 4 |||
                  (hex_character_to_value low).toNat))
              decode_form_characters decoded_size rest decoded
        -- the text ends within the two digits
        | _ => .error .ESP_ERR_INVALID_ARG
      else do
        let decoded ← put_character decoded_size decoded encoded
        decode_form_characters decoded_size rest decoded

/-- `decode_form_value`, for arguments that are not NULL. -/
def decode_form_value (encoded : c_string) (decoded_size : ℕ) : Except esp_err_t c_string :=
  if decoded_size = 0 then .error .ESP_ERR_INVALID_ARG
  else decode_form_characters decoded_size encoded []

/-- `httpd_query_key_value`: the raw value, or an error if there is none or it does not fit. -/
def httpd_query_key_value (find_field : c_string → c_string → Option c_string)
    (query key : c_string) (val_size : ℕ) : Option c_string :=
  match find_field query key with
  | none => none
  | some value => if value.length + 1 > val_size then none else some value

/-- The loop that receives the body; a connection that returns nothing more is closed. -/
def receive_body (content_len : ℕ) :
    List recv_result → List UInt8 → ℕ → Option (List UInt8)
  | [], body, _ => if body.length < content_len then none else some body
  | received :: more, body, timeout_count =>
      if body.length < content_len then
        match received with
        | .timeout =>
            if timeout_count + 1 ≥ 3 then none
            else receive_body content_len more body (timeout_count + 1)
        | .failed => none
        | .data bytes =>
            if bytes.length = 0 then none else receive_body content_len more (body ++ bytes) 0
      else some body

/-- Go on with a result, or answer. -/
def or_answer {α : Type} (result : Option α) (answer : provision_answer) :
    Except provision_answer α :=
  match result with
  | none => .error answer
  | some value => .ok value

/-- `provision_post_handler` in provisioning mode, up to the call of the handler: the two
values, or the answer. -/
def provision_fields (find_field : c_string → c_string → Option c_string)
    (request : httpd_req_t) : Except provision_answer (c_string × c_string) := do
  if request.content_len = 0 ∨ request.content_len ≥ PROVISION_BODY_SIZE then
    throw (.send_err .HTTPD_413_CONTENT_TOO_LARGE "Provision request is too large")
  let received ← or_answer (receive_body request.content_len request.recv [] 0) .fail
  let body := CString.of_buffer received
  let encoded_ssid ← or_answer
    (httpd_query_key_value find_field body (c_str "ssid") PROVISION_ENCODED_SSID_SIZE)
    (.send_err .HTTPD_400_BAD_REQUEST "SSID is missing or invalid")
  let encoded_password ← or_answer
    (httpd_query_key_value find_field body (c_str "password") PROVISION_ENCODED_PASSWORD_SIZE)
    (.send_err .HTTPD_400_BAD_REQUEST "Password field is missing")
  let ssid ← or_answer (decode_form_value encoded_ssid PROVISION_SSID_SIZE).toOption
    (.send_err .HTTPD_400_BAD_REQUEST "SSID decoding failed")
  let password ← or_answer (decode_form_value encoded_password PROVISION_PASSWORD_SIZE).toOption
    (.send_err .HTTPD_400_BAD_REQUEST "Password decoding failed")
  return (ssid, password)

/-- What the result of the handler is answered with. -/
def handler_answer (err : esp_err_t) : provision_answer :=
  if err = .ESP_ERR_INVALID_ARG then
    .send_err .HTTPD_400_BAD_REQUEST "WiFi credentials are invalid"
  else if err ≠ .ESP_OK then
    .send_err .HTTPD_500_INTERNAL_SERVER_ERROR "Save WiFi credentials failed"
  else .saved

/-- `provision_post_handler`. -/
def provision_post_handler {m : Type → Type} [Monad m] (s_config : captive_portal_config_t m)
    (find_field : c_string → c_string → Option c_string) (request : httpd_req_t) :
    m provision_answer :=
  match s_config.provisioning_mode, s_config.provision_handler with
  | true, some provision_handler =>
      match provision_fields find_field request with
      | .error answer => pure answer
      | .ok (ssid, password) => do
          let err ← provision_handler ssid password
          return handler_answer err
  | _, _ => pure (.send_err .HTTPD_400_BAD_REQUEST "Provisioning mode is not active")

/-! ## Receiving -/

/-- The calls of `httpd_req_recv` return the body in pieces, with fewer than three timeouts in a
row, `timeout_count` of them just before. What comes behind the body is not asked for. -/
inductive Delivers : ℕ → List recv_result → List UInt8 → Prop
  | done (timeout_count : ℕ) (more : List recv_result) : Delivers timeout_count more []
  | data {timeout_count : ℕ} {bytes body : List UInt8} {more : List recv_result}
      (hbytes : bytes ≠ []) (h : Delivers 0 more body) :
      Delivers timeout_count (.data bytes :: more) (bytes ++ body)
  | timeout {timeout_count : ℕ} {body : List UInt8} {more : List recv_result}
      (hcount : timeout_count + 1 < 3) (h : Delivers (timeout_count + 1) more body) :
      Delivers timeout_count (.timeout :: more) body

/-- **The body is received in full**, by induction over the calls. -/
theorem receive_body_delivers {timeout_count : ℕ} {results : List recv_result}
    {body : List UInt8} (h : Delivers timeout_count results body) (received : List UInt8) :
    receive_body (received.length + body.length) results received timeout_count
      = some (received ++ body) := by
  induction h generalizing received with
  | done timeout_count more =>
      rw [List.length_nil, Nat.add_zero, List.append_nil]
      cases more with
      | nil => exact if_neg (Nat.lt_irrefl _)
      | cons result more => exact if_neg (Nat.lt_irrefl _)
  | @data timeout_count bytes body more hbytes _ ih =>
      have hpos : 0 < bytes.length := List.length_pos_iff.mpr hbytes
      have hnext := ih (received ++ bytes)
      rw [List.length_append, List.append_assoc, Nat.add_assoc, ← List.length_append] at hnext
      have hroom : received.length < received.length + (bytes ++ body).length := by
        rw [List.length_append]
        omega
      rw [receive_body, if_pos hroom, if_neg (by omega), hnext]
  | @timeout timeout_count body more hcount _ ih =>
      rw [receive_body]
      by_cases hroom : received.length < received.length + body.length
      · rw [if_pos hroom, if_neg (by omega), ih]
      · have hnil : body = [] := List.length_eq_zero_iff.mp (by omega)
        rw [if_neg hroom, hnil, List.append_nil]

/-! ## Decoding -/

theorem hex_character_to_value_of_digit {c : UInt8} {n : ℕ} (h : IsDigit c n) :
    hex_character_to_value c = n := by
  unfold IsDigit at h
  unfold hex_character_to_value
  simp only [UInt8.le_iff_toNat_le, UInt8.reduceToNat]
  split_ifs <;> omega

theorem digit_of_hex_character_to_value {c : UInt8} (h : 0 ≤ hex_character_to_value c) :
    IsDigit c (hex_character_to_value c).toNat := by
  unfold hex_character_to_value at h ⊢
  unfold IsDigit
  simp only [UInt8.le_iff_toNat_le, UInt8.reduceToNat] at h ⊢
  split_ifs at h ⊢ <;> omega

/-- Two digits as a byte. -/
theorem byte_of_digits {m n : ℕ} (hn : n < 16) : m <<< 4 ||| n = 16 * m + n := by
  rw [← Nat.shiftLeft_add_eq_or_of_lt hn, Nat.shiftLeft_eq]
  omega

theorem put_character_ok_iff (decoded_size : ℕ) (decoded : c_string) (c : UInt8)
    (stored : c_string) :
    put_character decoded_size decoded c = .ok stored ↔
      c ≠ 0 ∧ decoded.length + 1 < decoded_size ∧ decoded ++ [c] = stored := by
  unfold put_character
  split_ifs with hnul hfull
  · simp [hnul]
  · simp only [false_iff]
    omega
  · simp only [Except.ok.injEq]
    constructor
    · exact fun h => ⟨hnul, by omega, h⟩
    · exact fun h => h.2.2

section Decoding

variable (decoded_size : ℕ)

/-- A round that stores one character. -/
def decode_round (decoded rest : c_string) (decoded_character : UInt8) :
    Except esp_err_t c_string := do
  let decoded ← put_character decoded_size decoded decoded_character
  decode_form_characters decoded_size rest decoded

theorem decode_literal {c : UInt8} (hplus : c ≠ plus) (hpercent : c ≠ percent)
    (rest decoded : c_string) :
    decode_form_characters decoded_size (c :: rest) decoded
      = decode_round decoded_size decoded rest c := by
  rw [decode_form_characters.eq_def]
  exact (if_neg hplus).trans (if_neg hpercent)

theorem decode_plus (rest decoded : c_string) :
    decode_form_characters decoded_size (plus :: rest) decoded
      = decode_round decoded_size decoded rest space := by
  rw [decode_form_characters.eq_def]
  exact if_pos rfl

theorem decode_percent (high low : UInt8) (rest decoded : c_string) :
    decode_form_characters decoded_size (percent :: high :: low :: rest) decoded
      = if hex_character_to_value high < 0 ∨ hex_character_to_value low < 0 then
          .error .ESP_ERR_INVALID_ARG
        else decode_round decoded_size decoded rest (UInt8.ofNat
          ((hex_character_to_value high).toNat <<< 4 |||
            (hex_character_to_value low).toNat)) := by
  rw [decode_form_characters.eq_def]
  exact (if_neg (by decide)).trans (if_pos rfl)

/-- What stands for a value is decoded to it, by induction over the encoding. -/
theorem decode_encodes {encoded value : List UInt8} (h : Encodes encoded value) :
    ∀ decoded : c_string, decoded.length + value.length < decoded_size →
      decode_form_characters decoded_size encoded decoded = .ok (decoded ++ value) := by
  -- a round stores one character, and the rest is decoded behind it
  have hround : ∀ {rest value : List UInt8} {c : UInt8},
      (∀ decoded : c_string, decoded.length + value.length < decoded_size →
        decode_form_characters decoded_size rest decoded = .ok (decoded ++ value)) →
      c ≠ 0 → ∀ decoded : c_string, decoded.length + (c :: value).length < decoded_size →
      decode_round decoded_size decoded rest c = .ok (decoded ++ c :: value) := by
    intro rest value c ih hnul decoded hroom
    rw [List.length_cons] at hroom
    rw [decode_round, (put_character_ok_iff decoded_size decoded c _).mpr ⟨hnul, by omega, rfl⟩]
    have hnext := ih (decoded ++ [c]) (by
      rw [List.length_append, List.length_singleton]
      omega)
    rw [List.append_assoc, List.singleton_append] at hnext
    exact hnext
  induction h with
  | nil =>
      intro decoded _
      rw [decode_form_characters, List.append_nil]
  | literal hnul hplus hpercent _ ih =>
      intro decoded hroom
      rw [decode_literal decoded_size hplus hpercent]
      exact hround ih hnul decoded hroom
  | plus _ ih =>
      intro decoded hroom
      rw [decode_plus]
      exact hround ih (by decide) decoded hroom
  | @percent high low m n text value hhigh hlow hnul _ ih =>
      intro decoded hroom
      have hm := hhigh.lt
      have hn := hlow.lt
      have hbyte : UInt8.ofNat (16 * m + n) ≠ 0 := by
        intro hzero
        have h := congrArg UInt8.toNat hzero
        rw [UInt8.toNat_ofNat', UInt8.toNat_zero] at h
        omega
      rw [decode_percent, hex_character_to_value_of_digit hhigh,
        hex_character_to_value_of_digit hlow,
        if_neg (by omega), Int.toNat_natCast, Int.toNat_natCast, byte_of_digits hn]
      exact hround ih hbyte decoded hroom

/-- **What is decoded** stands for what comes out, by induction on the length of the text. -/
theorem encodes_of_decode {n : ℕ} :
    ∀ (encoded decoded text : c_string), encoded.length ≤ n → decoded.length < decoded_size →
      decode_form_characters decoded_size encoded decoded = .ok text →
      ∃ value, Encodes encoded value ∧ text = decoded ++ value ∧ text.length < decoded_size := by
  induction n with
  | zero =>
      intro encoded decoded text hn hroom hdecode
      have hnil : encoded = [] := List.length_eq_zero_iff.mp (Nat.le_zero.mp hn)
      subst hnil
      have htext : decoded = text := Except.ok.inj hdecode
      exact ⟨[], .nil, by rw [← htext, List.append_nil], by rw [← htext]; exact hroom⟩
  | succ n ih =>
      -- a round that succeeds has stored one character
      have hround : ∀ {rest decoded text : c_string} {c : UInt8}, rest.length ≤ n →
          decode_round decoded_size decoded rest c = .ok text →
          c ≠ 0 ∧ ∃ value, Encodes rest value ∧ text = decoded ++ c :: value ∧
            text.length < decoded_size := by
        intro rest decoded text c hn hdecode
        rw [decode_round] at hdecode
        cases hput : put_character decoded_size decoded c with
        | error err =>
            rw [hput] at hdecode
            cases hdecode
        | ok stored =>
            rw [hput] at hdecode
            obtain ⟨hnul, hfit, rfl⟩ := (put_character_ok_iff _ _ _ _).mp hput
            obtain ⟨value, hvalue, htext, hlength⟩ := ih rest (decoded ++ [c]) text hn
              (by rw [List.length_append, List.length_singleton]; exact hfit) hdecode
            refine ⟨hnul, value, hvalue, ?_, hlength⟩
            rw [htext, List.append_assoc, List.singleton_append]
      intro encoded decoded text hn hroom hdecode
      match encoded, hn with
      | [], _ =>
          have htext : decoded = text := Except.ok.inj hdecode
          exact ⟨[], .nil, by rw [← htext, List.append_nil], by rw [← htext]; exact hroom⟩
      | c :: rest, hn =>
          rw [List.length_cons] at hn
          by_cases hplus : c = plus
          · subst hplus
            rw [decode_plus] at hdecode
            obtain ⟨-, value, hvalue, htext⟩ := hround (by omega) hdecode
            exact ⟨space :: value, .plus hvalue, htext⟩
          by_cases hpercent : c = percent
          · subst hpercent
            match rest, hn with
            | [], _ => cases hdecode
            | [_], _ => cases hdecode
            | high :: low :: rest, hn =>
                rw [decode_percent] at hdecode
                by_cases hbad : hex_character_to_value high < 0 ∨ hex_character_to_value low < 0
                · rw [if_pos hbad] at hdecode
                  cases hdecode
                rw [if_neg hbad] at hdecode
                have hhigh := digit_of_hex_character_to_value (c := high) (by omega)
                have hlow := digit_of_hex_character_to_value (c := low) (by omega)
                rw [byte_of_digits hlow.lt] at hdecode
                simp only [List.length_cons] at hn
                obtain ⟨hnul, value, hvalue, htext⟩ := hround (by omega) hdecode
                exact ⟨_, .percent hhigh hlow (fun h => hnul (by rw [h]; rfl)) hvalue, htext⟩
          · rw [decode_literal decoded_size hplus hpercent] at hdecode
            obtain ⟨hnul, value, hvalue, htext⟩ := hround (by omega) hdecode
            exact ⟨c :: value, .literal hnul hplus hpercent hvalue, htext⟩

end Decoding

/-- **What `decode_form_value` accepts.** -/
theorem decode_form_value_ok_iff {decoded_size : ℕ} (hsize : 0 < decoded_size)
    (encoded value : c_string) :
    decode_form_value encoded decoded_size = .ok value ↔
      Encodes encoded value ∧ value.length < decoded_size := by
  rw [decode_form_value, if_neg (by omega)]
  constructor
  · intro hdecode
    obtain ⟨found, hfound, rfl, hlength⟩ := encodes_of_decode decoded_size encoded [] value
      (Nat.le_refl _) hsize hdecode
    exact ⟨hfound, hlength⟩
  · rintro ⟨hvalue, hlength⟩
    have hroom : ([] : c_string).length + value.length < decoded_size := by
      rw [List.length_nil, Nat.zero_add]
      exact hlength
    exact decode_encodes decoded_size hvalue [] hroom

/-! ## The request -/

theorem httpd_query_key_value_eq_some_iff
    (find_field : c_string → c_string → Option c_string) (query key : c_string) (val_size : ℕ)
    (value : c_string) :
    httpd_query_key_value find_field query key val_size = some value ↔
      find_field query key = some value ∧ value.length < val_size := by
  unfold httpd_query_key_value
  cases find_field query key with
  | none => simp
  | some found =>
      dsimp only
      rw [Option.ite_none_left_eq_some, Option.some_inj]
      constructor
      · rintro ⟨hfits, rfl⟩
        exact ⟨rfl, by omega⟩
      · rintro ⟨rfl, hfits⟩
        exact ⟨by omega, rfl⟩

theorem or_answer_bind_ok_iff {α β : Type} (result : Option α) (answer : provision_answer)
    (next : α → Except provision_answer β) (b : β) :
    (or_answer result answer >>= next) = .ok b ↔ ∃ a, result = some a ∧ next a = .ok b := by
  cases result with
  | none => simp [or_answer, bind, Except.bind]
  | some a => simp [or_answer, bind, Except.bind]

theorem toOption_decode_form_value {decoded_size : ℕ} (hsize : 0 < decoded_size)
    (encoded value : c_string) :
    (decode_form_value encoded decoded_size).toOption = some value ↔
      Encodes encoded value ∧ value.length < decoded_size := by
  rw [← decode_form_value_ok_iff hsize]
  cases decode_form_value encoded decoded_size <;> simp [Except.toOption]

/-- The fields that the form has to have: raw values that fit their buffers and stand for the
two values, and these fit theirs. -/
def IsForm (find_field : c_string → c_string → Option c_string) (body ssid password : c_string) :
    Prop :=
  ∃ encoded_ssid encoded_password,
    find_field body (c_str "ssid") = some encoded_ssid ∧
      find_field body (c_str "password") = some encoded_password ∧
      encoded_ssid.length ≤ 127 ∧ encoded_password.length ≤ 191 ∧
      Encodes encoded_ssid ssid ∧ Encodes encoded_password password ∧
      ssid.length ≤ 32 ∧ password.length ≤ 63

/-- **The requests that reach the handler**, and with what. -/
theorem provision_fields_ok_iff {find_field : c_string → c_string → Option c_string}
    {body : List UInt8} {results : List recv_result} (hmin : 1 ≤ body.length)
    (hmax : body.length ≤ 383) (hnul : 0 ∉ body) (hrecv : Delivers 0 results body)
    (ssid password : c_string) :
    provision_fields find_field ⟨body.length, results⟩ = .ok (ssid, password) ↔
      IsForm find_field body ssid password := by
  have hsize : PROVISION_BODY_SIZE = 384 := rfl
  -- the body is read in full, and as a string it is the same
  have hreceive : receive_body body.length results [] 0 = some body := by
    have h := receive_body_delivers hrecv []
    rwa [List.length_nil, Nat.zero_add, List.nil_append] at h
  have hstring := CString.of_buffer_eq_self hnul
  rw [provision_fields, if_neg (by dsimp only; omega)]
  simp only [or_answer_bind_ok_iff, hreceive, Option.some_inj, exists_eq_left', hstring,
    httpd_query_key_value_eq_some_iff,
    toOption_decode_form_value (by decide : 0 < PROVISION_SSID_SIZE),
    toOption_decode_form_value (by decide : 0 < PROVISION_PASSWORD_SIZE)]
  constructor
  · rintro ⟨encoded_ssid, ⟨hraw, hfit⟩, encoded_password, ⟨hraw', hfit'⟩, ssid', ⟨henc, hlen⟩,
      password', ⟨henc', hlen'⟩, hfields⟩
    obtain ⟨rfl, rfl⟩ := Prod.mk.inj (Except.ok.inj hfields)
    exact ⟨encoded_ssid, encoded_password, hraw, hraw', Nat.le_of_lt_succ hfit,
      Nat.le_of_lt_succ hfit', henc, henc', Nat.le_of_lt_succ hlen, Nat.le_of_lt_succ hlen'⟩
  · rintro ⟨encoded_ssid, encoded_password, hraw, hraw', hfit, hfit', henc, henc', hlen, hlen'⟩
    exact ⟨encoded_ssid, ⟨hraw, Nat.lt_succ_of_le hfit⟩, encoded_password,
      ⟨hraw', Nat.lt_succ_of_le hfit'⟩, ssid, ⟨henc, Nat.lt_succ_of_le hlen⟩, password,
      ⟨henc', Nat.lt_succ_of_le hlen'⟩, rfl⟩

/-! ## The call of the handler -/

/-- A handler that is watched: it notes what it is called with. -/
def watched (provision_handler : c_string → c_string → esp_err_t) (ssid password : c_string) :
    StateM (List (c_string × c_string)) esp_err_t := do
  modify (· ++ [(ssid, password)])
  return provision_handler ssid password

/-- What the handler is called with in provisioning mode, call by call. -/
def handler_calls (provision_handler : c_string → c_string → esp_err_t)
    (find_field : c_string → c_string → Option c_string) (request : httpd_req_t) :
    List (c_string × c_string) :=
  ((provision_post_handler ⟨true, some (watched provision_handler)⟩ find_field request).run []).2

theorem handler_calls_eq (provision_handler : c_string → c_string → esp_err_t)
    (find_field : c_string → c_string → Option c_string) (request : httpd_req_t) :
    handler_calls provision_handler find_field request
      = match provision_fields find_field request with
        | .error _ => []
        | .ok fields => [fields] := by
  rw [handler_calls, provision_post_handler]
  cases provision_fields find_field request <;> rfl

/-- **The handler is called** for a form, once and with its two values. -/
theorem handler_calls_iff {find_field : c_string → c_string → Option c_string}
    {body : List UInt8} {results : List recv_result} (hmin : 1 ≤ body.length)
    (hmax : body.length ≤ 383) (hnul : 0 ∉ body) (hrecv : Delivers 0 results body)
    (provision_handler : c_string → c_string → esp_err_t) (ssid password : c_string) :
    handler_calls provision_handler find_field ⟨body.length, results⟩ = [(ssid, password)] ↔
      IsForm find_field body ssid password := by
  rw [handler_calls_eq, ← provision_fields_ok_iff hmin hmax hnul hrecv]
  cases provision_fields find_field ⟨body.length, results⟩ with
  | error => exact ⟨nofun, nofun⟩
  | ok fields => rw [List.singleton_inj, Except.ok.injEq]

/-! ## What the HTTP server promises -/

/-- What is documented of the search for a key, in a query of fields `key=value` with ampersands
between them: a field whose key it is gives the raw bytes of the value, and a field with another
key is passed over. -/
structure ReadsFields (find_field : c_string → c_string → Option c_string) : Prop where
  last : ∀ {key value : c_string}, equals ∉ key → ampersand ∉ key → ampersand ∉ value →
    find_field (key ++ equals :: value) key = some value
  first : ∀ {key value rest : c_string}, equals ∉ key → ampersand ∉ key → ampersand ∉ value →
    find_field (key ++ equals :: value ++ ampersand :: rest) key = some value
  other : ∀ {key other value rest : c_string}, equals ∉ other → ampersand ∉ other →
    ampersand ∉ value → other.length ≠ key.length →
    find_field (other ++ equals :: value ++ ampersand :: rest) key = find_field rest key

/-- The raw value of a field with this key. -/
def value_of_field (key field : c_string) : Option c_string :=
  if field.takeWhile (· ≠ equals) = key ∧ equals ∈ field then
    some (field.dropWhile (· ≠ equals)).tail
  else none

/-- A search that does what is documented. -/
def sample_find_field (query key : c_string) : Option c_string :=
  (query.splitOn ampersand).findSome? (value_of_field key)

theorem value_of_field_eq {key other value : c_string} (h : equals ∉ other) :
    value_of_field key (other ++ equals :: value) = if other = key then some value else none := by
  have hkey : ∀ c ∈ other, (decide (c ≠ equals)) = true := by
    intro c hc
    rw [decide_eq_true_eq]
    exact fun heq => h (heq ▸ hc)
  rw [value_of_field, List.takeWhile_append_of_pos hkey, List.dropWhile_append_of_pos hkey,
    List.takeWhile_cons_of_neg (by decide), List.dropWhile_cons_of_neg (by decide),
    List.append_nil]
  simp only [List.mem_append, List.mem_cons, true_or, or_true, and_true, List.tail_cons]

theorem sample_reads_fields : ReadsFields sample_find_field := by
  have hfield : ∀ {key value : c_string}, ampersand ∉ key → ampersand ∉ value →
      ampersand ∉ key ++ equals :: value := by
    intro key value hkey hvalue hmem
    rcases List.mem_append.mp hmem with h | h
    · exact hkey h
    · exact (List.mem_cons.mp h).elim (by decide) hvalue
  constructor
  · intro key value hequals hkey hvalue
    rw [sample_find_field, List.splitOn_eq_singleton (hfield hkey hvalue),
      List.findSome?_cons, value_of_field_eq hequals, if_pos rfl]
  · intro key value rest hequals hkey hvalue
    rw [sample_find_field, List.splitOn_append_cons_self_of_not_mem (hfield hkey hvalue),
      List.findSome?_cons, value_of_field_eq hequals, if_pos rfl]
  · intro key other value rest hequals hother hvalue hlength
    rw [sample_find_field, List.splitOn_append_cons_self_of_not_mem (hfield hother hvalue),
      List.findSome?_cons, value_of_field_eq hequals,
      if_neg fun heq => hlength (congrArg List.length heq)]
    rfl

end WifiManager.CaptivePortal
