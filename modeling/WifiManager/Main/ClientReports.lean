/-
`main.c`: what the device reports about its clients.

`publish_client_signals` writes one JSON document about the clients that were heard in the last
measurement, piece by piece into a static buffer, and `publish_client_disconnect` one about a
client that has left.

1. The functions of the source. What they end with is a return or a call of `app_mqtt_publish`,
   whose value they return.
2. `signals_tokens` and `disconnect_tokens` are the documents that these texts have to be.
3. `append_all_eq`: pieces that are appended one by one fit if their text does. The largest
   documents that the types of the fields allow fit the two buffers.
4. The texts are read back as the documents, and a document says all that is in it
   (`publish_client_signals_reports`, `publish_client_disconnect_reports`).
-/
import WifiManager.ClientAccess.Isolation
import WifiManager.ClientAccess.MacText
import WifiManager.Lib.JsonLex
import WifiManager.Lib.JsonNested

set_option autoImplicit false

namespace WifiManager.Main

open WifiManager.Lib WifiManager.Lib.JsonText

open WifiManager.ClientAccess hiding colon

/-! ## The functions of the source -/

def CLIENT_DISCONNECT_JSON_SIZE : ℕ := 256
def CLIENT_SIGNAL_MAX_CLIENTS : ℕ := 4
def CLIENT_SIGNAL_JSON_SIZE : ℕ := 768

def DEVICE_CLIENT_SIGNAL_TOPIC (DEVICE_CODE : c_string) : c_string :=
  c_str "wifi/device/" ++ DEVICE_CODE ++ c_str "/event/client-signal"

def DEVICE_CLIENT_DISCONNECT_TOPIC (DEVICE_CODE : c_string) : c_string :=
  c_str "wifi/device/" ++ DEVICE_CODE ++ c_str "/event/client-disconnect"

/-- `client_access_state_to_string`. -/
def client_access_state_to_string : client_access_state_t → c_string
  | .UNAUTHORIZED => c_str "UNAUTHORIZED"
  | .AUTHORIZED => c_str "AUTHORIZED"
  | .BLOCKED => c_str "BLOCKED"
  | .UNKNOWN => c_str "UNKNOWN"

/-- `append_json` to the text in a buffer: the new text, if it fits. -/
def append_json (size : ℕ) (text more : c_string) : Except esp_err_t c_string :=
  if text.length ≥ size then .error .ESP_ERR_INVALID_ARG
  -- the length that `vsnprintf` returns is that of the whole piece
  else if more.length ≥ size - text.length then .error .ESP_ERR_NO_MEM
  else .ok (text ++ more)

/-- The piece about one client. -/
def signal_json (client : client_access_snapshot_t) : c_string :=
  c_str "\x7b\"mac\":\"" ++ format_mac client.mac
    ++ c_str "\",\"sessionId\":" ++ Decimal.decimal_int client.session_id
    ++ c_str ",\"rssi\":" ++ Decimal.decimal_int client.rssi
    ++ c_str ",\"state\":\"" ++ client_access_state_to_string client.state ++ c_str "\"\x7d"

/-- The loop of `publish_client_signals`: the text so far and `emitted`. -/
def append_signals :
    List client_access_snapshot_t → c_string → ℕ → Except esp_err_t (c_string × ℕ)
  | [], text, emitted => .ok (text, emitted)
  | client :: clients, text, emitted =>
      -- not heard in this measurement
      if client.rssi ≥ 0 then append_signals clients text emitted
      else do
        let text ← append_json CLIENT_SIGNAL_JSON_SIZE text
          ((if emitted = 0 then [] else [comma]) ++ signal_json client)
        append_signals clients text (emitted + 1)

/-- What a function ends with: a return, or a call of `app_mqtt_publish` whose value it
returns. -/
inductive publish_end
  | returns (err : esp_err_t)
  | app_mqtt_publish (topic payload : c_string)
  deriving DecidableEq, Repr

/-- `publish_client_signals`. -/
def publish_client_signals (DEVICE_CODE : c_string) (clients : client_table) : publish_end :=
  match client_access_copy_snapshots clients CLIENT_SIGNAL_MAX_CLIENTS with
  | .error err => .returns err
  | .ok snapshots =>
      if snapshots.length = 0 then .returns .ESP_OK
      else
        match append_json CLIENT_SIGNAL_JSON_SIZE []
            (c_str "\x7b\"deviceCode\":\"" ++ DEVICE_CODE ++ c_str "\",\"clients\":[") with
        | .error err => .returns err
        | .ok json =>
            match append_signals snapshots json 0 with
            | .error err => .returns err
            | .ok (json, emitted) =>
                if emitted = 0 then .returns .ESP_OK
                else
                  match append_json CLIENT_SIGNAL_JSON_SIZE json (c_str "]\x7d") with
                  | .error err => .returns err
                  | .ok json => .app_mqtt_publish (DEVICE_CLIENT_SIGNAL_TOPIC DEVICE_CODE) json

/-- The text about a client that has left. -/
def disconnect_json (DEVICE_CODE : c_string) (event : client_access_disconnect_event_t) :
    c_string :=
  c_str "\x7b\"deviceCode\":\"" ++ DEVICE_CODE ++ c_str "\",\"mac\":\"" ++ format_mac event.mac
    ++ c_str "\",\"sessionId\":" ++ Decimal.decimal_int event.session_id
    ++ c_str ",\"state\":\"" ++ client_access_state_to_string event.state ++ c_str "\"\x7d"

/-- `publish_client_disconnect`; `none` is a NULL pointer. -/
def publish_client_disconnect (DEVICE_CODE : c_string)
    (event : Option client_access_disconnect_event_t) : publish_end :=
  match event with
  | none => .returns .ESP_ERR_INVALID_ARG
  | some event =>
      let json := disconnect_json DEVICE_CODE event
      if json.length ≥ CLIENT_DISCONNECT_JSON_SIZE then .returns .ESP_ERR_NO_MEM
      else .app_mqtt_publish (DEVICE_CLIENT_DISCONNECT_TOPIC DEVICE_CODE) json

/-! ## The documents -/

def signal_members (client : client_access_snapshot_t) : List json_member :=
  [(c_str "mac", .text (format_mac client.mac)),
    (c_str "sessionId", .integer client.session_id),
    (c_str "rssi", .integer client.rssi),
    (c_str "state", .text (client_access_state_to_string client.state))]

/-- The document about the clients. -/
def signals_tokens (DEVICE_CODE : c_string) (clients : List client_access_snapshot_t) :
    List json_token :=
  .punct 0x7B :: .string (c_str "deviceCode") :: .punct colon :: .string DEVICE_CODE
    :: .punct comma :: .string (c_str "clients") :: .punct colon
    :: (array_tokens (clients.map fun client => object_tokens (signal_members client))
      ++ [.punct 0x7D])

def disconnect_members (DEVICE_CODE : c_string) (event : client_access_disconnect_event_t) :
    List json_member :=
  [(c_str "deviceCode", .text DEVICE_CODE),
    (c_str "mac", .text (format_mac event.mac)),
    (c_str "sessionId", .integer event.session_id),
    (c_str "state", .text (client_access_state_to_string event.state))]

/-- The document about a client that has left. -/
def disconnect_tokens (DEVICE_CODE : c_string) (event : client_access_disconnect_event_t) :
    List json_token :=
  object_tokens (disconnect_members DEVICE_CODE event)

def was_heard (client : client_access_snapshot_t) : Bool := client.rssi < 0

/-- The clients that are reported: of the first four in the table those that were heard. -/
def reported (clients : client_table) : List client_access_snapshot_t :=
  (((clients.filter (·.in_use)).take CLIENT_SIGNAL_MAX_CLIENTS).map (·.snapshot)).filter was_heard

/-- What the C types of the fields hold. -/
structure InTypes (session_id rssi : ℤ) : Prop where
  session_id_min : -2 ^ 63 ≤ session_id
  session_id_max : session_id < 2 ^ 63
  rssi_min : -128 ≤ rssi
  rssi_max : rssi < 128

/-! ## Appending -/

section Append

variable {size : ℕ}

/-- Pieces one behind the other. -/
def append_all (size : ℕ) (text : c_string) (pieces : List c_string) : Except esp_err_t c_string :=
  pieces.foldlM (append_json size) text

theorem append_json_eq {text : c_string} (h : text.length < size) (more : c_string) :
    append_json size text more
      = if (text ++ more).length < size then .ok (text ++ more) else .error .ESP_ERR_NO_MEM := by
  rw [append_json, if_neg (Nat.not_le.mpr h), List.length_append]
  split_ifs with hmore hfits hfits
  · omega
  · rfl
  · rfl
  · omega

/-- **All or nothing**: pieces fit one by one if their text does. -/
theorem append_all_eq {text : c_string} (h : text.length < size) (pieces : List c_string) :
    append_all size text pieces
      = if (text ++ pieces.flatten).length < size then .ok (text ++ pieces.flatten)
        else .error .ESP_ERR_NO_MEM := by
  induction pieces generalizing text with
  | nil =>
      rw [List.flatten_nil, List.append_nil, if_pos h]
      rfl
  | cons piece pieces ih =>
      rw [append_all, List.foldlM_cons, append_json_eq h, List.flatten_cons, ← List.append_assoc]
      by_cases hpiece : (text ++ piece).length < size
      · rw [if_pos hpiece]
        exact ih hpiece
      · have hall : ¬ (text ++ piece ++ pieces.flatten).length < size := by
          rw [List.length_append]
          omega
        rw [if_neg hpiece, if_neg hall]
        rfl

end Append

/-- The pieces of the loop. -/
def signal_pieces : List client_access_snapshot_t → ℕ → List c_string
  | [], _ => []
  | client :: clients, emitted =>
      ((if emitted = 0 then [] else [comma]) ++ signal_json client)
        :: signal_pieces clients (emitted + 1)

/-- **The loop** appends the pieces of the clients that were heard. -/
theorem append_signals_eq (clients : List client_access_snapshot_t) (text : c_string)
    (emitted : ℕ) :
    append_signals clients text emitted
      = (append_all CLIENT_SIGNAL_JSON_SIZE text
          (signal_pieces (clients.filter was_heard) emitted)).map
        fun text => (text, emitted + (clients.filter was_heard).length) := by
  induction clients generalizing text emitted with
  | nil => rfl
  | cons client clients ih =>
      rw [append_signals]
      by_cases hrssi : client.rssi ≥ 0
      · have hsilent : ¬ was_heard client = true := by
          rw [was_heard, decide_eq_true_eq]
          omega
        rw [if_pos hrssi, ih, List.filter_cons_of_neg hsilent]
      · have hheard : was_heard client = true := by
          rw [was_heard, decide_eq_true_eq]
          omega
        rw [if_neg hrssi, List.filter_cons_of_pos hheard, signal_pieces, append_all,
          List.foldlM_cons, List.length_cons]
        cases append_json CLIENT_SIGNAL_JSON_SIZE text
            ((if emitted = 0 then [] else [comma]) ++ signal_json client) with
        | error err => rfl
        | ok text =>
            have hcount : emitted + 1 + (clients.filter was_heard).length
                = emitted + ((clients.filter was_heard).length + 1) := by
              omega
            change append_signals clients text (emitted + 1) = _
            rw [ih, hcount]
            rfl

theorem signal_pieces_flatten (clients : List client_access_snapshot_t) (emitted : ℕ) :
    (signal_pieces clients (emitted + 1)).flatten
        = (clients.map fun client => comma :: signal_json client).flatten ∧
      (signal_pieces clients 0).flatten = [comma].intercalate (clients.map signal_json) := by
  have hmore : ∀ (clients : List client_access_snapshot_t) (emitted : ℕ),
      (signal_pieces clients (emitted + 1)).flatten
        = (clients.map fun client => comma :: signal_json client).flatten := by
    intro clients
    induction clients with
    | nil => exact fun _ => rfl
    | cons client clients ih =>
        intro emitted
        rw [signal_pieces, List.flatten_cons, ih, List.map_cons, List.flatten_cons,
          if_neg (Nat.succ_ne_zero emitted)]
        rfl
  refine ⟨hmore clients emitted, ?_⟩
  cases clients with
  | nil => rfl
  | cons client clients =>
      rw [signal_pieces, List.flatten_cons, hmore, if_pos rfl, List.nil_append]
      induction clients generalizing client with
      | nil => simp
      | cons next clients ih =>
          have hnext := ih next
          rw [List.map_cons] at hnext
          rw [List.map_cons, List.map_cons, List.map_cons, List.intercalate_cons_cons, ← hnext,
            List.flatten_cons, List.append_assoc]
          rfl

/-! ## The texts are those of the documents -/

theorem plain_format_mac (mac : mac_t) : Plain (format_mac mac) := by
  have hdigit : ∀ n < 16, Hex.upper_digit n ≠ 0 ∧ Hex.upper_digit n ≠ quote ∧
      Hex.upper_digit n ≠ backslash := by
    decide
  have hhigh : ∀ i : Fin 6, mac[i].toNat / 16 < 16 := by
    intro i
    have hlt := mac[i].toNat_lt
    omega
  have hlow : ∀ i : Fin 6, mac[i].toNat % 16 < 16 := fun i => Nat.mod_lt _ (by decide)
  intro c hc
  simp only [format_mac, mac_text, List.mem_cons, List.not_mem_nil, or_false] at hc
  rcases hc with rfl | rfl | rfl | rfl | rfl | rfl | rfl | rfl | rfl | rfl | rfl | rfl | rfl |
    rfl | rfl | rfl | rfl
  all_goals first | exact hdigit _ (hhigh _) | exact hdigit _ (hlow _) | decide

theorem plain_state (state : client_access_state_t) :
    Plain (client_access_state_to_string state) := by
  cases state <;> decide

theorem signal_members_plain (client : client_access_snapshot_t) :
    ∀ member ∈ signal_members client, Plain member.1 ∧ member.2.Plain := by
  have hkeys : Plain (c_str "mac") ∧ Plain (c_str "sessionId") ∧ Plain (c_str "rssi") ∧
      Plain (c_str "state") := by
    decide
  obtain ⟨hmac, hsession, hrssi, hstate⟩ := hkeys
  simp only [signal_members, List.forall_mem_cons]
  exact ⟨⟨hmac, plain_format_mac _⟩, ⟨hsession, trivial⟩, ⟨hrssi, trivial⟩,
    ⟨hstate, plain_state _⟩, nofun⟩

theorem disconnect_members_plain {DEVICE_CODE : c_string} (hcode : Plain DEVICE_CODE)
    (event : client_access_disconnect_event_t) :
    ∀ member ∈ disconnect_members DEVICE_CODE event, Plain member.1 ∧ member.2.Plain := by
  have hkeys : Plain (c_str "deviceCode") ∧ Plain (c_str "mac") ∧ Plain (c_str "sessionId") ∧
      Plain (c_str "state") := by
    decide
  obtain ⟨hdevice, hmac, hsession, hstate⟩ := hkeys
  simp only [disconnect_members, List.forall_mem_cons]
  exact ⟨⟨hdevice, hcode⟩, ⟨hmac, plain_format_mac _⟩, ⟨hsession, trivial⟩,
    ⟨hstate, plain_state _⟩, nofun⟩

/-- The piece about a client is its object. -/
theorem signal_json_eq (client : client_access_snapshot_t) :
    signal_json client = gapless_text (object_tokens (signal_members client)) := by
  have hmac : c_str "\x7b\"mac\":\"" = 0x7B :: quote :: (c_str "mac" ++ [quote, colon, quote]) := by
    decide
  have hsession : c_str "\",\"sessionId\":"
      = quote :: comma :: quote :: (c_str "sessionId" ++ [quote, colon]) := by
    decide
  have hrssi : c_str ",\"rssi\":" = comma :: quote :: (c_str "rssi" ++ [quote, colon]) := by
    decide
  have hstate : c_str ",\"state\":\""
      = comma :: quote :: (c_str "state" ++ [quote, colon, quote]) := by
    decide
  have hend : c_str "\"\x7d" = [quote, 0x7D] := by
    decide
  rw [gapless_text_object, compact, signal_json, hmac, hsession, hrssi, hstate, hend]
  simp only [signal_members, List.map_cons, List.map_nil, List.intercalate_cons_cons,
    List.intercalate_singleton, member_text, member_value.token, json_token.text,
    List.append_assoc, List.cons_append, List.nil_append]

/-- The document in front of the clients and behind them. -/
theorem signals_text (DEVICE_CODE : c_string) (clients : List client_access_snapshot_t) :
    gapless_text (signals_tokens DEVICE_CODE clients)
      = c_str "\x7b\"deviceCode\":\"" ++ DEVICE_CODE ++ c_str "\",\"clients\":["
        ++ [comma].intercalate (clients.map signal_json) ++ c_str "]\x7d" := by
  have hdevice : c_str "\x7b\"deviceCode\":\""
      = 0x7B :: quote :: (c_str "deviceCode" ++ [quote, colon, quote]) := by
    decide
  have hclients : c_str "\",\"clients\":["
      = quote :: comma :: quote :: (c_str "clients" ++ [quote, colon, 0x5B]) := by
    decide
  have hend : c_str "]\x7d" = [0x5D, 0x7D] := by
    decide
  have hitems : (clients.map fun client => object_tokens (signal_members client)).map gapless_text
      = clients.map signal_json := by
    rw [List.map_map]
    exact List.map_congr_left fun client _ => (signal_json_eq client).symm
  have hlast : gapless_text [.punct 0x7D] = [0x7D] := rfl
  rw [signals_tokens, hdevice, hclients, hend]
  simp only [gapless_text_cons, gapless_text_append, gapless_text_array, hitems, hlast,
    json_token.text, List.append_assoc, List.cons_append, List.nil_append]

theorem disconnect_json_eq (DEVICE_CODE : c_string) (event : client_access_disconnect_event_t) :
    disconnect_json DEVICE_CODE event = gapless_text (disconnect_tokens DEVICE_CODE event) := by
  have hdevice : c_str "\x7b\"deviceCode\":\""
      = 0x7B :: quote :: (c_str "deviceCode" ++ [quote, colon, quote]) := by
    decide
  have hmac : c_str "\",\"mac\":\""
      = quote :: comma :: quote :: (c_str "mac" ++ [quote, colon, quote]) := by
    decide
  have hsession : c_str "\",\"sessionId\":"
      = quote :: comma :: quote :: (c_str "sessionId" ++ [quote, colon]) := by
    decide
  have hstate : c_str ",\"state\":\""
      = comma :: quote :: (c_str "state" ++ [quote, colon, quote]) := by
    decide
  have hend : c_str "\"\x7d" = [quote, 0x7D] := by
    decide
  rw [disconnect_tokens, gapless_text_object, compact, disconnect_json, hdevice, hmac, hsession,
    hstate, hend]
  simp only [disconnect_members, List.map_cons, List.map_nil, List.intercalate_cons_cons,
    List.intercalate_singleton, member_text, member_value.token, json_token.text,
    List.append_assoc, List.cons_append, List.nil_append]

/-! ## Sizes -/

theorem format_mac_length (mac : mac_t) : (format_mac mac).length = 17 := rfl

theorem state_length_le (state : client_access_state_t) :
    (client_access_state_to_string state).length ≤ 12 := by
  cases state <;> decide

theorem InTypes.lengths {session_id rssi : ℤ} (h : InTypes session_id rssi) :
    (Decimal.decimal_int session_id).length ≤ 20 ∧ (Decimal.decimal_int rssi).length ≤ 4 := by
  obtain ⟨hmin, hmax, hrssimin, hrssimax⟩ := h
  constructor
  · exact Decimal.decimal_int_length_le (k := 19) (by decide) (by omega)
  · exact Decimal.decimal_int_length_le (k := 3) (by decide) (by omega)

theorem signal_json_length_le {client : client_access_snapshot_t}
    (h : InTypes client.session_id client.rssi) : (signal_json client).length ≤ 95 := by
  have hfixed : (c_str "\x7b\"mac\":\"").length = 8 ∧ (c_str "\",\"sessionId\":").length = 14 ∧
      (c_str ",\"rssi\":").length = 8 ∧ (c_str ",\"state\":\"").length = 10 ∧
      (c_str "\"\x7d").length = 2 := by
    decide
  obtain ⟨hmac, hsession, hrssi, hstate, hend⟩ := hfixed
  obtain ⟨hnumber, hnumber'⟩ := h.lengths
  have hword := state_length_le client.state
  have haddress := format_mac_length client.mac
  rw [signal_json]
  simp only [List.length_append]
  omega

/-- The items of the array take at most 96 bytes each, with a comma between them. -/
theorem signals_length_le {clients : List client_access_snapshot_t}
    (h : ∀ client ∈ clients, InTypes client.session_id client.rssi) :
    ([comma].intercalate (clients.map signal_json)).length ≤ 96 * clients.length - 1 := by
  induction clients with
  | nil => exact Nat.le_refl 0
  | cons client clients ih =>
      have hfirst := signal_json_length_le (h client List.mem_cons_self)
      have hrest := ih fun client hclient => h client (List.mem_cons_of_mem _ hclient)
      cases clients with
      | nil =>
          rw [List.map_cons, List.map_nil, List.intercalate_singleton, List.length_singleton]
          exact hfirst
      | cons next clients =>
          rw [List.map_cons] at hrest
          rw [List.map_cons, List.map_cons, List.intercalate_cons_cons, List.length_append,
            List.length_append, List.length_singleton]
          rw [List.length_cons] at hrest ⊢
          rw [List.length_cons]
          omega

/-- **The largest document** about a client that has left fits its buffer. -/
theorem disconnect_json_length_lt {DEVICE_CODE : c_string} (hlength : DEVICE_CODE.length ≤ 156)
    {event : client_access_disconnect_event_t} (hmin : -2 ^ 63 ≤ event.session_id)
    (hmax : event.session_id < 2 ^ 63) :
    (disconnect_json DEVICE_CODE event).length < CLIENT_DISCONNECT_JSON_SIZE := by
  have hfixed : (c_str "\x7b\"deviceCode\":\"").length = 15 ∧
      (c_str "\",\"mac\":\"").length = 9 ∧ (c_str "\",\"sessionId\":").length = 14 ∧
      (c_str ",\"state\":\"").length = 10 ∧ (c_str "\"\x7d").length = 2 := by
    decide
  obtain ⟨hdevice, hmac, hsession, hstate, hend⟩ := hfixed
  have hnumber : (Decimal.decimal_int event.session_id).length ≤ 19 + 1 :=
    Decimal.decimal_int_length_le (by decide) (by omega)
  have hword := state_length_le event.state
  have haddress := format_mac_length event.mac
  rw [disconnect_json, CLIENT_DISCONNECT_JSON_SIZE]
  simp only [List.length_append]
  omega

/-! ## What a document says -/

/-- What a report says about a client. -/
def signal_content (client : client_access_snapshot_t) :
    mac_t × ℤ × ℤ × client_access_state_t :=
  (client.mac, client.session_id, client.rssi, client.state)

theorem format_mac_injective {mac mac' : mac_t} (h : format_mac mac = format_mac mac') :
    mac = mac' := by
  have hmac := (macText_format_mac mac).parse
  rw [h, (macText_format_mac mac').parse] at hmac
  exact (Except.ok.inj hmac).symm

theorem state_to_string_injective {state state' : client_access_state_t}
    (h : client_access_state_to_string state = client_access_state_to_string state') :
    state = state' := by
  revert h
  cases state <;> cases state' <;> decide

theorem signal_tokens_inj {client client' : client_access_snapshot_t}
    (h : object_tokens (signal_members client) = object_tokens (signal_members client')) :
    signal_content client = signal_content client' := by
  simp only [object_tokens, signal_members, members_tokens, member_value.token, List.cons_append,
    List.cons.injEq, json_token.string.injEq, json_token.scalar.injEq, true_and] at h
  obtain ⟨hmac, hsession, hrssi, hstate, -⟩ := h
  rw [signal_content, signal_content,
    format_mac_injective hmac, Decimal.decimal_int_injective hsession,
    Decimal.decimal_int_injective hrssi, state_to_string_injective hstate]

/-- **A document has one content.** -/
theorem signals_tokens_inj {DEVICE_CODE DEVICE_CODE' : c_string}
    {clients clients' : List client_access_snapshot_t}
    (h : signals_tokens DEVICE_CODE clients = signals_tokens DEVICE_CODE' clients') :
    DEVICE_CODE = DEVICE_CODE' ∧ clients.map signal_content = clients'.map signal_content := by
  simp only [signals_tokens, List.cons.injEq, json_token.string.injEq, true_and] at h
  obtain ⟨hcode, harray⟩ := h
  refine ⟨hcode, ?_⟩
  have hsize : ∀ clients : List client_access_snapshot_t,
      ∀ item ∈ clients.map (fun client => object_tokens (signal_members client)),
        item.length = 17 := by
    intro clients item hitem
    obtain ⟨client, -, rfl⟩ := List.mem_map.mp hitem
    rfl
  have hitems := array_tokens_inj (by decide) (hsize clients) (hsize clients')
    (List.append_cancel_right harray)
  clear harray
  induction clients generalizing clients' with
  | nil =>
      cases clients' with
      | nil => rfl
      | cons client' clients' => cases hitems
  | cons client clients ih =>
      cases clients' with
      | nil => cases hitems
      | cons client' clients' =>
          obtain ⟨hfirst, hrest⟩ := List.cons.inj hitems
          rw [List.map_cons, List.map_cons, signal_tokens_inj hfirst, ih hrest]

theorem isObject_signals_tokens {DEVICE_CODE : c_string} (hcode : Plain DEVICE_CODE)
    (clients : List client_access_snapshot_t) :
    IsObject (signals_tokens DEVICE_CODE clients) := by
  have hkeys : Plain (c_str "deviceCode") ∧ Plain (c_str "clients") := by
    decide
  refine .object_members (.member_cons hkeys.1.isRaw (.string hcode.isRaw)
    (.member hkeys.2.isRaw (isJson_array_tokens ?_)))
  intro item hitem
  obtain ⟨client, -, rfl⟩ := List.mem_map.mp hitem
  exact .object (isObject_object_tokens (signal_members_plain client))

/-! ## The reports -/

section Reports

variable {DEVICE_CODE : c_string} {clients : client_table}

theorem length_reported_le (clients : client_table) : (reported clients).length ≤ 4 := by
  refine le_trans (List.length_filter_le _ _) ?_
  rw [List.length_map, List.length_take]
  exact Nat.min_le_left _ _

theorem inTypes_reported (h : ∀ entry ∈ clients, InTypes entry.session_id entry.rssi) :
    ∀ client ∈ reported clients, InTypes client.session_id client.rssi := by
  intro client hclient
  obtain ⟨entry, hentry, rfl⟩ := List.mem_map.mp (List.mem_of_mem_filter hclient)
  exact h entry (List.mem_of_mem_filter (List.mem_of_mem_take hentry))

/-- What is appended in all. -/
theorem publish_client_signals_eq (hlength : DEVICE_CODE.length ≤ 354)
    (h : ∀ entry ∈ clients, InTypes entry.session_id entry.rssi) :
    (gapless_text (signals_tokens DEVICE_CODE (reported clients))).length
        < CLIENT_SIGNAL_JSON_SIZE ∧
      publish_client_signals DEVICE_CODE clients
        = if reported clients = [] then .returns .ESP_OK
          else .app_mqtt_publish (DEVICE_CLIENT_SIGNAL_TOPIC DEVICE_CODE)
            (gapless_text (signals_tokens DEVICE_CODE (reported clients))) := by
  have hfixed : (c_str "\x7b\"deviceCode\":\"").length = 15 ∧
      (c_str "\",\"clients\":[").length = 13 ∧ (c_str "]\x7d").length = 2 := by
    decide
  have hitems := signals_length_le (inTypes_reported h)
  have hcount := length_reported_le clients
  rw [signals_text]
  generalize hhead : c_str "\x7b\"deviceCode\":\"" ++ DEVICE_CODE ++ c_str "\",\"clients\":["
    = head
  have hheadlength : head.length ≤ 382 := by
    rw [← hhead, List.length_append, List.length_append]
    omega
  generalize htail : c_str "]\x7d" = tail at hfixed
  obtain ⟨-, -, htaillength⟩ := hfixed
  have hfits : (head ++ [comma].intercalate ((reported clients).map signal_json)).length + 2
      < CLIENT_SIGNAL_JSON_SIZE := by
    rw [List.length_append, CLIENT_SIGNAL_JSON_SIZE]
    omega
  refine ⟨by rw [List.length_append, htaillength]; exact hfits, ?_⟩
  have hempty : ([] : c_string).length < CLIENT_SIGNAL_JSON_SIZE := by decide
  have hheadfits : ([] ++ head).length < CLIENT_SIGNAL_JSON_SIZE := by
    rw [List.nil_append, CLIENT_SIGNAL_JSON_SIZE]
    omega
  generalize hsnapshots : ((clients.filter (·.in_use)).take CLIENT_SIGNAL_MAX_CLIENTS).map
    (·.snapshot) = snapshots
  have hreported : reported clients = snapshots.filter was_heard := by
    rw [reported, hsnapshots]
  have hcopy : client_access_copy_snapshots clients CLIENT_SIGNAL_MAX_CLIENTS = .ok snapshots :=
    (if_neg (by decide)).trans (congrArg Except.ok hsnapshots)
  have hloop : append_signals snapshots head 0
      = .ok (head ++ [comma].intercalate ((reported clients).map signal_json),
        (reported clients).length) := by
    rw [append_signals_eq, ← hreported,
      append_all_eq (by rw [List.nil_append] at hheadfits; exact hheadfits),
      (signal_pieces_flatten _ 0).2, if_pos (by omega), Nat.zero_add]
    rfl
  have hlast : append_json CLIENT_SIGNAL_JSON_SIZE
      (head ++ [comma].intercalate ((reported clients).map signal_json)) tail
        = .ok (head ++ [comma].intercalate ((reported clients).map signal_json) ++ tail) := by
    rw [append_json_eq (by omega), if_pos]
    rw [List.length_append, htaillength]
    exact hfits
  rw [publish_client_signals, hcopy, hhead, htail, append_json_eq hempty, if_pos hheadfits,
    List.nil_append]
  dsimp only
  rw [hloop]
  dsimp only
  rw [hlast]
  by_cases hnone : reported clients = []
  · rw [if_pos hnone, hnone, List.length_nil, if_pos rfl, ite_self]
  · have hsome : ¬ snapshots.length = 0 := by
      intro hzero
      rw [hreported, List.length_eq_zero_iff.mp hzero] at hnone
      exact hnone rfl
    rw [if_neg hnone, if_neg hsome, if_neg (fun hzero => hnone (List.length_eq_zero_iff.mp hzero))]

/-- **The signals of the clients.** Nothing is published if no client was heard. Otherwise the
text is published, it fits its buffer, it is a C string, and it is read as one JSON object,
which says the MAC, the session, the signal and the state of each client that was heard, in the
order of the table, and nothing else; the text of each MAC is taken back for the MAC. -/
theorem publish_client_signals_reports (hcode : Plain DEVICE_CODE)
    (hlength : DEVICE_CODE.length ≤ 354)
    (h : ∀ entry ∈ clients, InTypes entry.session_id entry.rssi) :
    (reported clients = [] → publish_client_signals DEVICE_CODE clients = .returns .ESP_OK) ∧
      (reported clients ≠ [] → ∃ payload,
        publish_client_signals DEVICE_CODE clients
            = .app_mqtt_publish (DEVICE_CLIENT_SIGNAL_TOPIC DEVICE_CODE) payload ∧
          payload.length < CLIENT_SIGNAL_JSON_SIZE ∧ 0 ∉ payload ∧
          IsObject (lex payload) ∧
          lex payload = signals_tokens DEVICE_CODE (reported clients) ∧
          (∀ DEVICE_CODE' clients', lex payload = signals_tokens DEVICE_CODE' clients' →
            DEVICE_CODE' = DEVICE_CODE ∧
              clients'.map signal_content = (reported clients).map signal_content) ∧
          ∀ client ∈ reported clients,
            parse_mac_address (some (format_mac client.mac)) = .ok client.mac) := by
  obtain ⟨hfits, hpublish⟩ := publish_client_signals_eq hlength h
  constructor
  · intro hnone
    rw [hpublish, if_pos hnone]
  · intro hsome
    have hobject := isObject_signals_tokens hcode (reported clients)
    have hlex := (gapless_serialisation _).lex_text hobject
    rw [gapless_serialisation_text] at hlex
    refine ⟨_, by rw [hpublish, if_neg hsome], hfits, ?_, ?_, hlex, ?_, ?_⟩
    · exact (gapless_serialisation _).nul_notMem hobject
    · rw [hlex]
      exact hobject
    · intro DEVICE_CODE' clients' htokens
      rw [hlex] at htokens
      obtain ⟨hdevice, hcontent⟩ := signals_tokens_inj htokens
      exact ⟨hdevice.symm, hcontent.symm⟩
    · exact fun client _ => (macText_format_mac client.mac).parse

/-! ## The measurement -/

/-- A reading goes to the client that it is of. -/
theorem store_rssi_eq_map (hu : client_layout.Unique clients) (station : wifi_sta_info_t) :
    store_rssi clients station
      = clients.map fun entry =>
        if entry.in_use = true ∧ entry.mac = station.mac then { entry with rssi := station.rssi }
        else entry := by
  have hholds : ∀ entry : client_access_entry_t, client_layout.holds station.mac entry = true ↔
      entry.in_use = true ∧ entry.mac = station.mac := fun _ => Slots.Layout.holds_iff
  rw [store_rssi]
  cases hfind : find_client_index_locked clients station.mac with
  | none =>
      have hnone := List.findIdx?_eq_none_iff.mp hfind
      refine ((List.map_congr_left fun entry hentry => ?_).trans (List.map_id clients)).symm
      have hmiss : ¬ (entry.in_use = true ∧ entry.mac = station.mac) := by
        rw [← hholds entry, hnone entry hentry]
        exact Bool.false_ne_true
      rw [if_neg hmiss]
      rfl
  | some i =>
      obtain ⟨entry, hi, hentry, -⟩ := Slots.Layout.find_spec hfind
      have hlength : i < clients.length := (List.getElem?_eq_some_iff.mp hi).1
      dsimp only
      rw [update_eq hi]
      refine List.ext_getElem? fun j => ?_
      rw [List.getElem?_map]
      by_cases hj : i = j
      · subst hj
        rw [List.getElem?_set_self hlength, hi, Option.map_some, if_pos ((hholds entry).mp hentry)]
      · rw [List.getElem?_set_ne hj]
        cases hother : clients[j]? with
        | none => rfl
        | some other =>
            -- no other slot has the MAC
            have hmiss : ¬ (other.in_use = true ∧ other.mac = station.mac) := by
              intro h
              have howner := hu i entry hi (Slots.Layout.holds_iff.mp hentry).1
              rw [(Slots.Layout.holds_iff.mp hentry).2] at howner
              exact hj (howner j other hother ((hholds other).mpr h)).symm
            rw [Option.map_some, if_neg hmiss]

/-- An entry behind the readings of the driver. -/
def client_reading (stations : List wifi_sta_info_t) (entry : client_access_entry_t) :
    client_access_entry_t :=
  if entry.in_use = true then { entry with rssi := heard stations entry.mac entry.rssi } else entry

theorem foldl_store_rssi_eq_map (hu : client_layout.Unique clients)
    (stations : List wifi_sta_info_t) :
    stations.foldl store_rssi clients = clients.map (client_reading stations) := by
  induction stations generalizing clients with
  | nil =>
      refine ((List.map_congr_left fun entry _ => ?_).trans (List.map_id clients)).symm
      exact ite_self entry
  | cons station stations ih =>
      rw [List.foldl_cons, ih (store_rssi_spec hu station).1, store_rssi_eq_map hu, List.map_map]
      refine List.map_congr_left fun entry _ => ?_
      rw [Function.comp_apply]
      by_cases hused : entry.in_use = true
      · have hmore : client_reading (station :: stations) entry
            = { entry with
                rssi := (heard stations entry.mac
                  (if station.mac = entry.mac then station.rssi else entry.rssi)) } :=
          if_pos hused
        rw [hmore]
        by_cases hmac : entry.mac = station.mac
        · rw [if_pos ⟨hused, hmac⟩, if_pos hmac.symm]
          exact if_pos hused
        · rw [if_neg fun h => hmac h.2, if_neg (Ne.symm hmac)]
          exact if_pos hused
      · rw [if_neg fun h => hused h.1, client_reading, client_reading, if_neg hused, if_neg hused]

theorem reported_measured (hu : client_layout.Unique clients) (stations : List wifi_sta_info_t) :
    reported (client_access_update_rssi_all clients (.ok stations)).1
      = (((clients.filter (·.in_use)).take CLIENT_SIGNAL_MAX_CLIENTS).map fun entry =>
          { entry.snapshot with rssi := heard stations entry.mac 0 }).filter was_heard := by
  have hunheard : client_layout.Unique (clients.map client_access_entry_t.unheard) :=
    (client_access_update_rssi_all_spec hu []).1
  have hkept : ∀ entry : client_access_entry_t,
      (client_reading stations entry.unheard).in_use = entry.in_use := by
    intro entry
    rw [client_reading, client_access_entry_t.unheard]
    split_ifs <;> rfl
  have hread : ∀ entry : client_access_entry_t, entry.in_use = true →
      (client_reading stations entry.unheard).snapshot
        = { entry.snapshot with rssi := heard stations entry.mac 0 } := by
    intro entry hused
    rw [client_access_entry_t.unheard, if_pos hused, client_reading, if_pos hused]
    rfl
  have hclients : (client_access_update_rssi_all clients (.ok stations)).1
      = clients.map (client_reading stations ∘ client_access_entry_t.unheard) := by
    rw [client_access_update_rssi_all, foldl_store_rssi_eq_map hunheard, List.map_map]
  have hused : ((clients.map (client_reading stations ∘ client_access_entry_t.unheard)).filter
        (·.in_use))
      = (clients.filter (·.in_use)).map
        (client_reading stations ∘ client_access_entry_t.unheard) := by
    rw [List.filter_map]
    exact congrArg (fun p => List.map _ (List.filter p clients)) (funext hkept)
  rw [reported, hclients, hused, ← List.map_take, List.map_map]
  congr 1
  refine List.map_congr_left fun entry hentry => ?_
  exact hread entry (List.mem_filter.mp (List.mem_of_mem_take hentry)).2

/-- **Fresh signals.** Behind a measurement, in every run of the table, the clients are reported
with what the driver read last in this measurement, in the order of their slots, and those that
it did not read are not reported, whatever an earlier measurement has left behind. -/
theorem signals_fresh (configTICK_RATE_HZ : UInt32) (ESP_WIFI_MAX_CONN_NUM : ℕ)
    (events : List table_event) (stations : List wifi_sta_info_t) :
    let clients :=
      (table_run configTICK_RATE_HZ (client_access_init ESP_WIFI_MAX_CONN_NUM) events).s_clients
    reported (client_access_update_rssi_all clients (.ok stations)).1
      = (((clients.filter (·.in_use)).take CLIENT_SIGNAL_MAX_CLIENTS).map fun entry =>
          { entry.snapshot with rssi := heard stations entry.mac 0 }).filter was_heard :=
  reported_measured (Machine.run_invariant (I := fun state => client_layout.Unique state.s_clients)
    (table_step configTICK_RATE_HZ) (fun _ e h => unique_table_step h e)
    (unique_init ESP_WIFI_MAX_CONN_NUM) events) stations

/-- A client that was heard and one that was not. -/
def sample_heard : client_table :=
  { in_use := true, mac := sample_mac, state := .AUTHORIZED, session_id := 7, rssi := -40 } ::
    { in_use := true, mac := Vector.replicate 6 2, state := .UNAUTHORIZED } ::
      (client_access_init 2).s_clients

/-- The one that was heard is reported. -/
theorem publish_client_signals_reports_heard :
    ∃ payload, publish_client_signals (c_str "gateway") sample_heard
          = .app_mqtt_publish (DEVICE_CLIENT_SIGNAL_TOPIC (c_str "gateway")) payload ∧
        lex payload = signals_tokens (c_str "gateway")
          [⟨sample_mac, 0, .AUTHORIZED, 7, -40⟩] := by
  have htypes : ∀ entry ∈ sample_heard, InTypes entry.session_id entry.rssi := by
    simp only [sample_heard, client_access_init, List.replicate, List.forall_mem_cons]
    refine ⟨⟨?_, ?_, ?_, ?_⟩, ⟨?_, ?_, ?_, ?_⟩, ⟨?_, ?_, ?_, ?_⟩, ⟨?_, ?_, ?_, ?_⟩, nofun⟩ <;>
      decide
  obtain ⟨payload, hpublish, -, -, -, hlex, -⟩ :=
    (publish_client_signals_reports (show Plain (c_str "gateway") by decide)
      (by decide) htypes).2 (by decide +kernel)
  exact ⟨payload, hpublish, hlex⟩

/-- **The end of a client's stay.** The text that reports it fits its buffer, it is a C string,
and it is read as one flat JSON object, which says the MAC, the state and the session of the
event. -/
theorem publish_client_disconnect_reports (hcode : Plain DEVICE_CODE)
    (hlength : DEVICE_CODE.length ≤ 156) {event : client_access_disconnect_event_t}
    (hmin : -2 ^ 63 ≤ event.session_id) (hmax : event.session_id < 2 ^ 63) :
    ∃ payload, publish_client_disconnect DEVICE_CODE (some event)
          = .app_mqtt_publish (DEVICE_CLIENT_DISCONNECT_TOPIC DEVICE_CODE) payload ∧
        payload.length < CLIENT_DISCONNECT_JSON_SIZE ∧ 0 ∉ payload ∧
        IsObject (lex payload) ∧ lex payload = disconnect_tokens DEVICE_CODE event ∧
        ∀ DEVICE_CODE' event', lex payload = disconnect_tokens DEVICE_CODE' event' →
          DEVICE_CODE' = DEVICE_CODE ∧ event' = event := by
  have hfits := disconnect_json_length_lt hlength hmin hmax
  have hobject : IsObject (disconnect_tokens DEVICE_CODE event) :=
    isObject_object_tokens (disconnect_members_plain hcode event)
  have hlex := (gapless_serialisation _).lex_text hobject
  have hnul := (gapless_serialisation _).nul_notMem hobject
  rw [gapless_serialisation_text, ← disconnect_json_eq] at hlex hnul
  refine ⟨disconnect_json DEVICE_CODE event, ?_, hfits, hnul, ?_, hlex, ?_⟩
  · rw [publish_client_disconnect, if_neg (Nat.not_le.mpr hfits)]
  · rw [hlex]
    exact hobject
  · intro DEVICE_CODE' event' htokens
    rw [hlex] at htokens
    simp only [disconnect_tokens, object_tokens, disconnect_members, members_tokens,
      member_value.token, List.cons_append, List.cons.injEq, json_token.string.injEq,
      json_token.scalar.injEq, true_and] at htokens
    obtain ⟨hdevice, hmac, hsession, hstate, -⟩ := htokens
    have hsame : event = event' := by
      rw [client_access_disconnect_event_t.mk.injEq]
      exact ⟨format_mac_injective hmac, state_to_string_injective hstate,
        Decimal.decimal_int_injective hsession⟩
    exact ⟨hdevice.symm, hsame.symm⟩

def sample_left : client_access_disconnect_event_t := ⟨sample_mac, .AUTHORIZED, 7⟩

/-- An authorized client leaves. -/
theorem publish_client_disconnect_reports_left :
    ∃ payload, publish_client_disconnect (c_str "gateway") (some sample_left)
          = .app_mqtt_publish (DEVICE_CLIENT_DISCONNECT_TOPIC (c_str "gateway")) payload ∧
        lex payload = disconnect_tokens (c_str "gateway") sample_left := by
  obtain ⟨payload, hpublish, -, -, -, hlex, -⟩ :=
    publish_client_disconnect_reports (show Plain (c_str "gateway") by decide)
      (by decide) (show -2 ^ 63 ≤ sample_left.session_id by decide)
      (show sample_left.session_id < 2 ^ 63 by decide)
  exact ⟨payload, hpublish, hlex⟩

end Reports

end WifiManager.Main
