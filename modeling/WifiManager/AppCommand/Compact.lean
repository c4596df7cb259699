/-
Commands written as compact JSON are read back.

The payload of a command is a flat object: the members of its record and any others, in any
order. Written without white space it shows every key, so that each field of the command finds
its member (`read_text_of_mem`, `read_number_of_mem`), and an optional text that is absent finds
nothing. `app_command_parse_compact` puts them together with the topic.
-/
import WifiManager.AppCommand.Fields
import WifiManager.Lib.JsonMembers

set_option autoImplicit false

namespace WifiManager.AppCommand

open WifiManager.Lib JsonText app_command_type_t

/-! ## Records -/

/-- A text of at most `n` bytes without NUL, quotation marks and backslashes. -/
def field_text (n : ℕ) : Type := { text : c_string // Plain text ∧ text.length ≤ n }

def field_number (least greatest : ℤ) : Type := { value : ℤ // least ≤ value ∧ value ≤ greatest }

/-- The fields of each command, within their limits. -/
inductive command_fields
  | allow (mac : field_text 17) (session_id : field_number 1 (2 ^ 63 - 1))
      (ttl_seconds : field_number 1 86400)
  | revoke_access (mac : field_text 17) (session_id : field_number 1 (2 ^ 63 - 1))
  | kick (reason : Option (field_text 17))
  | disconnect_mac (mac : field_text 17) (alert_id : field_number 0 (2 ^ 63 - 1))
  | block_traffic (alert_id : field_number 0 (2 ^ 63 - 1)) (dst_ip : field_text 45)
      (sni : Option (field_text 255))

/-- A command and its request id. -/
structure command_record where
  request_id : Option (field_text 63)
  fields : command_fields

/-- A text that may be absent. -/
def optional_member {n : ℕ} (key : c_string) : Option (field_text n) → List json_member
  | none => []
  | some text => [(key, .text text.val)]

def text_or_empty {n : ℕ} : Option (field_text n) → c_string
  | none => []
  | some text => text.val

def command_fields.type : command_fields → app_command_type_t
  | allow _ _ _ => ALLOW
  | revoke_access _ _ => REVOKE_ACCESS
  | kick _ => KICK
  | disconnect_mac _ _ => DISCONNECT_MAC
  | block_traffic _ _ _ => BLOCK_TRAFFIC

/-- The last level of the topic. -/
def command_fields.name : command_fields → c_string
  | allow _ _ _ => c_str "allow"
  | revoke_access _ _ => c_str "revoke-access"
  | kick _ => c_str "kick"
  | disconnect_mac _ _ => c_str "disconnect-mac"
  | block_traffic _ _ _ => c_str "block-traffic"

def command_fields.members : command_fields → List json_member
  | allow mac session_id ttl_seconds =>
      [(c_str "mac", .text mac.val), (c_str "sessionId", .integer session_id.val),
        (c_str "ttlSeconds", .integer ttl_seconds.val)]
  | revoke_access mac session_id =>
      [(c_str "mac", .text mac.val), (c_str "sessionId", .integer session_id.val)]
  | kick reason => optional_member (c_str "reason") reason
  | disconnect_mac mac alert_id =>
      [(c_str "mac", .text mac.val), (c_str "alertId", .integer alert_id.val)]
  | block_traffic alert_id dst_ip sni =>
      [(c_str "alertId", .integer alert_id.val), (c_str "dstIp", .text dst_ip.val)]
        ++ optional_member (c_str "sni") sni

/-- The texts that a command reads if they are there. -/
def command_fields.optional_keys : command_fields → List c_string
  | kick _ => [c_str "requestId", c_str "reason"]
  | block_traffic _ _ _ => [c_str "requestId", c_str "sni"]
  | _ => [c_str "requestId"]

def command_record.members (record : command_record) : List json_member :=
  optional_member (c_str "requestId") record.request_id ++ record.fields.members

/-- The request that holds the fields; the reason of KICK is in the MAC's field. -/
def command_fields.request (request_id : c_string) : command_fields → app_command_request_t
  | allow mac session_id ttl_seconds =>
      { request_id := request_id, type := ALLOW, mac := mac.val, session_id := session_id.val,
        ttl_seconds := ttl_seconds.val }
  | revoke_access mac session_id =>
      { request_id := request_id, type := REVOKE_ACCESS, mac := mac.val,
        session_id := session_id.val }
  | kick reason => { request_id := request_id, type := KICK, mac := text_or_empty reason }
  | disconnect_mac mac alert_id =>
      { request_id := request_id, type := DISCONNECT_MAC, mac := mac.val,
        alert_id := alert_id.val }
  | block_traffic alert_id dst_ip sni =>
      { request_id := request_id, type := BLOCK_TRAFFIC, alert_id := alert_id.val,
        dst_ip := dst_ip.val, sni := text_or_empty sni }

def command_record.request (record : command_record) : app_command_request_t :=
  record.fields.request (text_or_empty record.request_id)

/-! ## The topic -/

/-- **A topic that ends in the name of a command** is one of that command. -/
theorem read_command_type_of_name (fields : command_fields) {front : List UInt8}
    (hfront : 0 ∉ front) (hlength : (front ++ 0x2F :: fields.name).length ≤ 127) :
    read_command_type_from_topic (front ++ 0x2F :: fields.name) = .ok fields.type := by
  have hname : 0 ∉ fields.name ∧ 0x2F ∉ fields.name := by
    cases fields <;> dsimp only [command_fields.name] <;> decide
  have hstring : CString.of_buffer (front ++ 0x2F :: fields.name)
      = front ++ 0x2F :: fields.name := by
    apply CString.of_buffer_eq_self
    rw [List.mem_append, List.mem_cons, not_or, not_or]
    exact ⟨hfront, by decide, hname.1⟩
  have hlast : CString.after_last_chr (front ++ 0x2F :: fields.name) 0x2F = some fields.name :=
    CString.after_last_chr_append hname.2 front
  have hfits : ¬ (front ++ 0x2F :: fields.name).length ≥ COMMAND_TOPIC_BUFFER_SIZE := by
    rw [COMMAND_TOPIC_BUFFER_SIZE]
    omega
  rw [read_command_type_from_topic, if_neg hfits, hstring, hlast]
  cases fields <;> rfl

/-! ## The fields -/

section Fields

variable {members : List json_member} (hplain : ∀ member ∈ members, Plain member.1 ∧ member.2.Plain)

include hplain

/-- **An absent text.** -/
theorem read_text_of_notMem {key : c_string} (h : ∀ text, (key, .text text) ∉ members) (size : ℕ) :
    read_text key size false (gapless (object_tokens members)) = ([], none) := by
  have hnone : members.findSome? (text_of key) = none := by
    rw [List.findSome?_eq_none_iff]
    rintro ⟨name, value⟩ hmember
    cases value with
    | integer n => rfl
    | text raw =>
        apply if_neg
        rintro rfl
        exact h raw hmember
  rw [read_text, visible_string_members fun member hmember => (hplain member hmember).1, hnone]
  rfl

variable (hkeys : (members.map Prod.fst).Nodup)

include hkeys

/-- **A text that fits** is read from its member. -/
theorem read_text_of_mem {key text : c_string} (hmem : (key, .text text) ∈ members) {size : ℕ}
    (hsize : text.length < size) (required : Bool) :
    read_text key size required (gapless (object_tokens members)) = (text, none) := by
  have hvalue : text.takeWhile (· ≠ quote) = text := by
    rw [List.takeWhile_eq_self_iff]
    intro c hc
    rw [decide_eq_true_eq]
    exact ((hplain _ hmem).2 c hc).2.1
  have hfound : members.findSome? (text_of key) = some text := by
    rw [findSome_of_mem hkeys hmem]
    · exact if_pos rfl
    · rintro ⟨name, value⟩ hname
      cases value with
      | integer n => rfl
      | text raw => exact if_neg hname
  rw [read_text, visible_string_members fun member hmember => (hplain member hmember).1, hfound]
  dsimp only
  rw [hvalue, if_neg (Nat.not_le.mpr hsize)]

/-- **A number in range** is read from its member. -/
theorem read_number_of_mem {key : c_string} {value : ℤ} (hmem : (key, .integer value) ∈ members)
    (hmin : -2 ^ 63 ≤ value) (hmax : value < 2 ^ 63) {out_of_range : ℤ → Bool}
    (hrange : out_of_range value = false) :
    read_number key out_of_range (gapless (object_tokens members)) = (value, none) := by
  have hfound : members.findSome? (token_of key) = some (.scalar (Decimal.decimal_int value)) := by
    rw [findSome_of_mem hkeys hmem]
    · exact if_pos rfl
    · exact fun other hother => if_neg hother
  rw [read_number, visible_number_members fun member hmember => (hplain member hmember).1, hfound]
  dsimp only [json_token.text]
  rw [Decimal.strtoll_decimal_int hmin hmax]
  dsimp only
  rw [hrange]
  rfl

/-- A text that is there or not. -/
theorem read_text_optional_member {n : ℕ} {key : c_string} {text : Option (field_text n)}
    (hmem : ∀ raw, (key, .text raw) ∈ members ↔ (key, .text raw) ∈ optional_member key text)
    {size : ℕ} (hsize : n < size) :
    read_text key size false (gapless (object_tokens members)) = (text_or_empty text, none) := by
  cases text with
  | none =>
      apply read_text_of_notMem hplain
      exact fun raw hraw => absurd ((hmem raw).mp hraw) List.not_mem_nil
  | some text =>
      apply read_text_of_mem hplain hkeys ((hmem text.val).mpr List.mem_cons_self)
      exact Nat.lt_of_le_of_lt text.property.2 hsize

end Fields

/-! ## The command -/

theorem read_fields_text {key : c_string} {size : ℕ} {required : Bool} {rest : List command_field}
    {items : List (json_token × List UInt8)} {text : c_string}
    (h : read_text key size required items = (text, none)) :
    read_fields (.text key size required :: rest) items
      = ((text, (read_fields rest items).1), (read_fields rest items).2) := by
  rw [read_fields, command_field.read, h]

theorem read_fields_integer {key : c_string} {out_of_range : ℤ → Bool} {rest : List command_field}
    {items : List (json_token × List UInt8)} {value : ℤ}
    (h : read_number key out_of_range items = (value, none)) :
    read_fields (.number key out_of_range :: rest) items
      = ((value, (read_fields rest items).1), (read_fields rest items).2) := by
  rw [read_fields, command_field.read, h]

/-- The names of the fields, the request id apart. -/
def field_keys : List c_string :=
  [c_str "mac", c_str "sessionId", c_str "ttlSeconds", c_str "reason", c_str "alertId",
    c_str "dstIp", c_str "sni"]

theorem mem_optional_member {n : ℕ} {key : c_string} {text : Option (field_text n)}
    {member : json_member} (h : member ∈ optional_member key text) :
    member.1 = key ∧ member.2.Plain := by
  cases text with
  | none => cases h
  | some text =>
      rw [List.mem_singleton.mp h]
      exact ⟨rfl, text.property.1⟩

theorem command_fields.mem_members {fields : command_fields} {member : json_member}
    (h : member ∈ fields.members) : member.1 ∈ field_keys ∧ member.2.Plain := by
  have hmac : c_str "mac" ∈ field_keys := by decide
  have hsession : c_str "sessionId" ∈ field_keys := by decide
  have httl : c_str "ttlSeconds" ∈ field_keys := by decide
  have halert : c_str "alertId" ∈ field_keys := by decide
  have hdst : c_str "dstIp" ∈ field_keys := by decide
  cases fields with
  | allow mac session_id ttl_seconds =>
      simp only [members, List.mem_cons, List.not_mem_nil, or_false] at h
      rcases h with rfl | rfl | rfl
      · exact ⟨hmac, mac.property.1⟩
      · exact ⟨hsession, trivial⟩
      · exact ⟨httl, trivial⟩
  | revoke_access mac session_id =>
      simp only [members, List.mem_cons, List.not_mem_nil, or_false] at h
      rcases h with rfl | rfl
      · exact ⟨hmac, mac.property.1⟩
      · exact ⟨hsession, trivial⟩
  | kick reason =>
      obtain ⟨hkey, hvalue⟩ := mem_optional_member h
      rw [hkey]
      exact ⟨by decide, hvalue⟩
  | disconnect_mac mac alert_id =>
      simp only [members, List.mem_cons, List.not_mem_nil, or_false] at h
      rcases h with rfl | rfl
      · exact ⟨hmac, mac.property.1⟩
      · exact ⟨halert, trivial⟩
  | block_traffic alert_id dst_ip sni =>
      simp only [members, List.mem_append, List.mem_cons, List.not_mem_nil, or_false] at h
      rcases h with (rfl | rfl) | h
      · exact ⟨halert, trivial⟩
      · exact ⟨hdst, dst_ip.property.1⟩
      · obtain ⟨hkey, hvalue⟩ := mem_optional_member h
        rw [hkey]
        exact ⟨by decide, hvalue⟩

/-- The members of a record need no escapes. -/
theorem command_record.plain (record : command_record) :
    ∀ member ∈ record.members, Plain member.1 ∧ member.2.Plain := by
  have hkeys : ∀ key ∈ field_keys, Plain key := by decide
  intro member hmember
  rcases List.mem_append.mp hmember with hmember | hmember
  · obtain ⟨hkey, hvalue⟩ := mem_optional_member hmember
    rw [hkey]
    exact ⟨by decide, hvalue⟩
  · obtain ⟨hkey, hvalue⟩ := command_fields.mem_members hmember
    exact ⟨hkeys _ hkey, hvalue⟩

section Command

variable {members : List json_member}
  (hplain : ∀ member ∈ members, Plain member.1 ∧ member.2.Plain)
  (hkeys : (members.map Prod.fst).Nodup)

include hplain hkeys

/-- **The fields of a command** are read from their members. -/
theorem command_fields.read_fields_eq {fields : command_fields}
    (hmem : ∀ member ∈ fields.members, member ∈ members)
    (hoptional : ∀ key ∈ fields.optional_keys, key ∈ field_keys → ∀ raw,
      (key, .text raw) ∈ members → (key, .text raw) ∈ fields.members) (request_id : c_string) :
    (fill request_id fields.type
        (read_fields (AppCommand.fields fields.type) (gapless (object_tokens members))).1,
      (read_fields (AppCommand.fields fields.type) (gapless (object_tokens members))).2)
      = (fields.request request_id, .ESP_OK) := by
  -- 17 bytes and the terminator fit
  have hmac : ∀ mac : field_text 17, (c_str "mac", .text mac.val) ∈ members →
      read_text (c_str "mac") APP_COMMAND_MAC_SIZE true (gapless (object_tokens members))
        = (mac.val, none) := fun mac hmac =>
    read_text_of_mem hplain hkeys hmac (Nat.lt_succ_of_le mac.property.2) true
  have hsession : ∀ session_id : field_number 1 (2 ^ 63 - 1),
      (c_str "sessionId", .integer session_id.val) ∈ members →
      read_number (c_str "sessionId") (fun session_id => session_id ≤ 0)
        (gapless (object_tokens members)) = (session_id.val, none) := by
    intro session_id hsession
    have hrange := session_id.property
    apply read_number_of_mem hplain hkeys hsession (by omega) (by omega)
    exact decide_eq_false (by omega)
  have halert : ∀ alert_id : field_number 0 (2 ^ 63 - 1),
      (c_str "alertId", .integer alert_id.val) ∈ members →
      read_number (c_str "alertId") (fun alert_id => alert_id < 0)
        (gapless (object_tokens members)) = (alert_id.val, none) := by
    intro alert_id halert
    have hrange := alert_id.property
    apply read_number_of_mem hplain hkeys halert (by omega) (by omega)
    exact decide_eq_false (by omega)
  cases fields with
  | allow mac session_id ttl_seconds =>
      have httl : read_number (c_str "ttlSeconds")
          (fun ttl_seconds => ttl_seconds < APP_COMMAND_TTL_SECONDS_MIN ∨
            ttl_seconds > APP_COMMAND_TTL_SECONDS_MAX)
          (gapless (object_tokens members)) = (ttl_seconds.val, none) := by
        have hrange := ttl_seconds.property
        apply read_number_of_mem hplain hkeys (hmem _ _) (by omega) (by omega)
        · rw [decide_eq_false_iff_not, APP_COMMAND_TTL_SECONDS_MIN, APP_COMMAND_TTL_SECONDS_MAX]
          omega
        · exact List.mem_cons_of_mem _ (List.mem_cons_of_mem _ List.mem_cons_self)
      dsimp only [type, AppCommand.fields]
      rw [read_fields_text (hmac mac (hmem _ List.mem_cons_self)),
        read_fields_integer (hsession session_id
          (hmem _ (List.mem_cons_of_mem _ List.mem_cons_self))), read_fields_integer httl]
      rfl
  | revoke_access mac session_id =>
      dsimp only [type, AppCommand.fields]
      rw [read_fields_text (hmac mac (hmem _ List.mem_cons_self)),
        read_fields_integer (hsession session_id
          (hmem _ (List.mem_cons_of_mem _ List.mem_cons_self)))]
      rfl
  | kick reason =>
      have hreason : read_text (c_str "reason") APP_COMMAND_MAC_SIZE false
          (gapless (object_tokens members)) = (text_or_empty reason, none) := by
        apply read_text_optional_member hplain hkeys _ (by decide)
        intro raw
        constructor
        · exact hoptional _ (List.mem_cons_of_mem _ List.mem_cons_self) (by decide) raw
        · exact hmem _
      dsimp only [type, AppCommand.fields]
      rw [read_fields_text hreason]
      rfl
  | disconnect_mac mac alert_id =>
      dsimp only [type, AppCommand.fields]
      rw [read_fields_text (hmac mac (hmem _ List.mem_cons_self)),
        read_fields_integer (halert alert_id
          (hmem _ (List.mem_cons_of_mem _ List.mem_cons_self)))]
      rfl
  | block_traffic alert_id dst_ip sni =>
      have hdst : read_text (c_str "dstIp") APP_COMMAND_DESTINATION_IP_SIZE true
          (gapless (object_tokens members)) = (dst_ip.val, none) :=
        read_text_of_mem hplain hkeys (hmem _ (List.mem_cons_of_mem _ List.mem_cons_self))
          (Nat.lt_succ_of_le dst_ip.property.2) true
      have hsni : read_text (c_str "sni") APP_COMMAND_SNI_SIZE false
          (gapless (object_tokens members)) = (text_or_empty sni, none) := by
        apply read_text_optional_member hplain hkeys _ (by decide)
        intro raw
        constructor
        · intro hraw
          have hown := hoptional _ (List.mem_cons_of_mem _ List.mem_cons_self) (by decide) raw hraw
          rcases List.mem_append.mp hown with hown | hown
          · simp only [List.mem_cons, Prod.mk.injEq, List.not_mem_nil, or_false] at hown
            rcases hown with ⟨hkey, -⟩ | ⟨hkey, -⟩
            · exact absurd hkey (by decide)
            · exact absurd hkey (by decide)
          · exact hown
        · exact fun hraw => hmem _ (List.mem_append_right _ hraw)
      dsimp only [type, AppCommand.fields]
      rw [read_fields_integer (halert alert_id (hmem _ List.mem_cons_self)), read_fields_text hdst,
        read_fields_text hsni]
      rfl

end Command

/-- **Compact commands are read back**, with any other members and in any order. -/
theorem app_command_parse_compact (record : command_record) {members extra : List json_member}
    (hmembers : members.Perm (record.members ++ extra)) (hkeys : (members.map Prod.fst).Nodup)
    (hextra : ∀ member ∈ extra, Plain member.1 ∧ member.2.Plain)
    (hoptional : ∀ key ∈ record.fields.optional_keys, ∀ text, (key, .text text) ∉ extra)
    (hlength : (compact members).length ≤ 2047) {front : List UInt8} (hfront : 0 ∉ front)
    (htopic : (front ++ 0x2F :: record.fields.name).length ≤ 127)
    (cJSON_ParseWithOpts : c_string → Option cJSON) (request : app_command_request_t) :
    app_command_parse cJSON_ParseWithOpts (some (front ++ 0x2F :: record.fields.name))
        (some (compact members)) request
      = (record.request, .ESP_OK) := by
  have hplain : ∀ member ∈ members, Plain member.1 ∧ member.2.Plain := by
    intro member hmember
    rcases List.mem_append.mp (hmembers.mem_iff.mp hmember) with hmember | hmember
    · exact record.plain member hmember
    · exact hextra member hmember
  have hstage : record.fields.type ≠ STAGE_WIFI_CONFIG := by
    cases record.fields <;> exact nofun
  have hrequest : c_str "requestId" ∉ field_keys := by decide
  have hmem : ∀ member ∈ record.members, member ∈ members := fun member hmember =>
    hmembers.mem_iff.mpr (List.mem_append_left _ hmember)
  -- an optional text of the object is one of the record
  have hown : ∀ key ∈ record.fields.optional_keys, ∀ raw, (key, .text raw) ∈ members →
      (key, .text raw) ∈ record.members := by
    intro key hkey raw hraw
    rcases List.mem_append.mp (hmembers.mem_iff.mp hraw) with hraw | hraw
    · exact hraw
    · exact absurd hraw (hoptional key hkey raw)
  have hrequest_id : read_text (c_str "requestId") APP_COMMAND_REQUEST_ID_SIZE false
      (gapless (object_tokens members)) = (text_or_empty record.request_id, none) := by
    apply read_text_optional_member hplain hkeys _ (by decide)
    intro raw
    constructor
    · intro hraw
      have hkey : c_str "requestId" ∈ record.fields.optional_keys := by
        cases record.fields <;> exact List.mem_cons_self
      rcases List.mem_append.mp (hown _ hkey raw hraw) with hraw | hraw
      · exact hraw
      · exact absurd (command_fields.mem_members hraw).1 hrequest
    · exact fun hraw => hmem _ (List.mem_append_left _ hraw)
  rw [compact_eq] at hlength ⊢
  rw [app_command_parse_eq _ (isObject_object_tokens hplain)
    (read_command_type_of_name _ hfront htopic) hstage (Nat.lt_succ_of_le hlength)]
  have hitems : (gapless_serialisation (object_tokens members)).items
      = gapless (object_tokens members) := rfl
  rw [hitems, hrequest_id]
  dsimp only
  apply command_fields.read_fields_eq hplain hkeys
  · exact fun member hmember => hmem member (List.mem_append_right _ hmember)
  · intro key hkey hfield raw hraw
    rcases List.mem_append.mp (hown key hkey raw hraw) with hraw | hraw
    · -- the request id is not one of them
      have hid : key = c_str "requestId" := (mem_optional_member hraw).1
      exact absurd (hid ▸ hfield) hrequest
    · exact hraw

/-- The example of BLOCK_TRAFFIC. -/
def block_traffic_record : command_record where
  request_id := some ⟨c_str "req-block-1", by decide⟩
  fields := .block_traffic ⟨3001, by decide⟩ ⟨c_str "93.184.216.34", by decide⟩
    (some ⟨c_str "example.com", by decide⟩)

/-- It is read back with its members in another order and one more among them. -/
theorem app_command_parse_compact_block_traffic :
    app_command_parse (fun _ => none)
        (some (c_str "wifi/device/esp32-gateway-001/cmd" ++ 0x2F :: c_str "block-traffic"))
        (some (compact [(c_str "sni", .text (c_str "example.com")),
          (c_str "alertId", .integer 3001), (c_str "priority", .integer (-1)),
          (c_str "dstIp", .text (c_str "93.184.216.34")),
          (c_str "requestId", .text (c_str "req-block-1"))])) {}
      = ({ request_id := c_str "req-block-1", type := BLOCK_TRAFFIC, alert_id := 3001,
           dst_ip := c_str "93.184.216.34", sni := c_str "example.com" }, .ESP_OK) :=
  app_command_parse_compact block_traffic_record
    (show List.Perm _ (block_traffic_record.members ++ [(c_str "priority", .integer (-1))])
      by decide)
    (by decide) (by decide) (by
      intro key hkey text htext
      rw [List.mem_singleton] at htext
      cases htext) (by decide +kernel) (by decide) (by decide) (fun _ => none) {}

end WifiManager.AppCommand
