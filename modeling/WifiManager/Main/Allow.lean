/-
ALLOW, from the MQTT message to the entry of the client.

The duration of a session crosses five integer types: the payload's `long long`, the
`int64_t` of the request, the `uint32_t` parameter, the product with 1000, and the
product with the tick rate inside `pdMS_TO_TICKS`. The last product is taken modulo
2^32 before it is divided by 1000. `allow_lasts_iff` says for every accepted message
when the session lasts what the message says.
-/
import WifiManager.AppCommand.Parse
import WifiManager.ClientAccess.Address

set_option autoImplicit false

namespace WifiManager.Main

open WifiManager.Lib WifiManager.AppCommand WifiManager.ClientAccess

/-- The ALLOW branch of `handle_mqtt_command`, at the tick count `now`. -/
def handle_mqtt_command_allow (configTICK_RATE_HZ now : UInt32) (clients : client_table)
    (request : app_command_request_t) : client_table × esp_err_t :=
  client_access_authorize configTICK_RATE_HZ now clients (some request.mac) request.session_id
    (UInt32.ofInt request.ttl_seconds)

/-- The session in an entry lasts for `ticks` ticks from `t₀` on: that is what the entry
says, and what its packets see until the counter has come round. -/
def Lasts (clients : client_table) (entry : client_access_entry_t) (t₀ : ℕ) (ticks : ℤ) : Prop :=
  entry.ttl_ticks = ticks ∧ entry.ttl_ticks ≠ 0 ∧
    ∀ ip t, ip ≠ 0 → address_layout.lookup clients ip = some entry → t₀ ≤ t →
      t < t₀ + 2 ^ 32 →
      ((client_access_can_forward_ipv4 clients (tick t) ip).2 = true ↔
        ((t - t₀ : ℕ) : ℤ) < ticks)

/-! ## The arithmetic of the conversion -/

/-- A product taken modulo 2^32 in front of the division. -/
theorem wrapped_div_eq_iff (ticks : ℕ) :
    ticks * 1000 % 2 ^ 32 / 1000 = ticks ↔ ticks * 1000 < 2 ^ 32 := by
  constructor
  · intro h
    by_contra hwrap
    have hless : ticks * 1000 % 2 ^ 32 < ticks * 1000 := by
      have := Nat.mod_lt (ticks * 1000) (show 2 ^ 32 > 0 by decide)
      omega
    have hdiv := (Nat.div_lt_iff_lt_mul (show 0 < 1000 by decide)).mpr hless
    omega
  · intro h
    rw [Nat.mod_eq_of_lt h, Nat.mul_div_cancel _ (show 0 < 1000 by decide)]

/-- What is stored for a duration of at most one day. -/
theorem stored_ttl_ticks (configTICK_RATE_HZ : UInt32) {ttl_seconds : ℤ}
    (hmin : 1 ≤ ttl_seconds) (hmax : ttl_seconds ≤ 86400) :
    (pdMS_TO_TICKS configTICK_RATE_HZ (UInt32.ofInt ttl_seconds * 1000)).toNat
      = ttl_seconds.toNat * configTICK_RATE_HZ.toNat * 1000 % 2 ^ 32 / 1000 := by
  have harg : (UInt32.ofInt ttl_seconds).toNat = ttl_seconds.toNat := by
    rw [UInt32.ofInt, UInt32.toNat_ofNat']
    omega
  have hms : (UInt32.ofInt ttl_seconds * 1000).toNat = ttl_seconds.toNat * 1000 := by
    have h1000 : (1000 : UInt32).toNat = 1000 := rfl
    rw [UInt32.toNat_mul, harg, h1000]
    exact Nat.mod_eq_of_lt (by omega)
  rw [pdMS_TO_TICKS, UInt32.toNat_div, UInt32.toNat_mul, hms, Nat.mul_right_comm]
  rfl

/-- An authorized entry with a duration answers by its age. -/
theorem can_forward_iff_age {entry : client_access_entry_t} {t₀ t : ℕ}
    (hstate : entry.state = .AUTHORIZED) (httl : 0 < entry.ttl_ticks)
    (hat : entry.authorized_at_ticks = (tick t₀).toNat) (ht : t₀ ≤ t) (hround : t < t₀ + 2 ^ 32) :
    (entry.can_forward (tick t)).2 = true ↔ ((t - t₀ : ℕ) : ℤ) < entry.ttl_ticks := by
  have helapsed := elapsed_lazy ht
  rw [Nat.mod_eq_of_lt (by omega)] at helapsed
  rw [client_access_entry_t.can_forward, if_pos hstate, if_pos httl]
  simp only [hat, helapsed]
  by_cases hover : ((t - t₀ : ℕ) : ℤ) ≥ entry.ttl_ticks
  · rw [if_pos hover]
    simp only [Bool.false_eq_true, false_iff]
    omega
  · rw [if_neg hover]
    simp only [true_iff]
    omega

/-- An authorization lasts the wanted time if and only if that is what was stored. -/
theorem authorized_lasts_iff {clients : client_table} {old : client_access_entry_t}
    {configTICK_RATE_HZ ttl_seconds : UInt32} {session_id : ℤ} {t₀ seconds stored : ℕ}
    (hrate : 1 ≤ configTICK_RATE_HZ.toNat) (hseconds : 1 ≤ seconds)
    (hstored : (pdMS_TO_TICKS configTICK_RATE_HZ (ttl_seconds * 1000)).toNat = stored) :
    Lasts clients (old.authorized configTICK_RATE_HZ (tick t₀) session_id ttl_seconds) t₀
        ((seconds : ℤ) * configTICK_RATE_HZ.toNat) ↔
      stored = seconds * configTICK_RATE_HZ.toNat := by
  have hticks : (old.authorized configTICK_RATE_HZ (tick t₀) session_id ttl_seconds).ttl_ticks
      = (stored : ℤ) := congrArg Nat.cast hstored
  have hpos : 0 < seconds * configTICK_RATE_HZ.toNat := Nat.mul_pos hseconds hrate
  constructor
  · rintro ⟨httl, -, -⟩
    rw [hticks] at httl
    exact_mod_cast httl
  · intro hexact
    have httl : (old.authorized configTICK_RATE_HZ (tick t₀) session_id ttl_seconds).ttl_ticks
        = (seconds : ℤ) * configTICK_RATE_HZ.toNat := by
      rw [hticks, hexact]
      norm_cast
    refine ⟨httl, by omega, ?_⟩
    intro ip t hip hl ht hround
    rw [can_forward_ipv4_eq _ _ hip, hl, ← httl]
    exact can_forward_iff_age rfl (by omega) rfl ht hround

/-- **The duration of a session.** For every accepted ALLOW that finds its client, the
session lasts `ttlSeconds * configTICK_RATE_HZ` ticks if and only if the product with
1000 fits into 32 bits. -/
theorem allow_lasts_iff (cJSON_ParseWithOpts : c_string → Option cJSON)
    (configTICK_RATE_HZ : UInt32) (ESP_WIFI_MAX_CONN_NUM : ℕ) (events : List event)
    (topic payload : Option (List UInt8)) (previous request : app_command_request_t) (t₀ : ℕ)
    (hrate : 1 ≤ configTICK_RATE_HZ.toNat)
    (hparse : app_command_parse cJSON_ParseWithOpts topic payload previous = (request, .ESP_OK))
    (htype : request.type = .ALLOW)
    (hallow : (handle_mqtt_command_allow configTICK_RATE_HZ (tick t₀)
      ((world.init ESP_WIFI_MAX_CONN_NUM).run configTICK_RATE_HZ events).state.s_clients
      request).2 = .ESP_OK) :
    let clients := (handle_mqtt_command_allow configTICK_RATE_HZ (tick t₀)
      ((world.init ESP_WIFI_MAX_CONN_NUM).run configTICK_RATE_HZ events).state.s_clients
      request).1
    ∃ mac entry, parse_mac_address (some request.mac) = .ok mac ∧
      client_layout.lookup clients mac = some entry ∧ entry.state = .AUTHORIZED ∧
      (Lasts clients entry t₀ (request.ttl_seconds * configTICK_RATE_HZ.toNat) ↔
        request.ttl_seconds * 1000 * configTICK_RATE_HZ.toNat < 2 ^ 32) := by
  obtain ⟨hsession, hmin, hmax⟩ := app_command_parse_allow hparse htype
  have hu := unique_run configTICK_RATE_HZ (w := .init ESP_WIFI_MAX_CONN_NUM) (unique_init _)
    events
  obtain ⟨-, herr, hlookup⟩ := client_access_authorize_spec configTICK_RATE_HZ hu (tick t₀)
    (some request.mac) request.session_id (UInt32.ofInt request.ttl_seconds)
  -- the client is in the table, since the call returned ESP_OK
  obtain ⟨mac, hnamed, hconnected⟩ := herr.mp hallow
  obtain ⟨old, hold⟩ := Option.isSome_iff_exists.mp hconnected
  -- what the conversion to ticks leaves of the TTL
  have hstored := stored_ttl_ticks configTICK_RATE_HZ hmin hmax
  intro clients
  refine ⟨mac, old.authorized configTICK_RATE_HZ (tick t₀) request.session_id
    (UInt32.ofInt request.ttl_seconds), ?_, ?_, rfl, ?_⟩
  · rw [named_client, if_neg (by omega)] at hnamed
    cases hmac : parse_mac_address (some request.mac) with
    | error err =>
        rw [hmac] at hnamed
        cases hnamed
    | ok parsed =>
        rw [hmac] at hnamed
        exact congrArg Except.ok (Option.some.inj hnamed)
  · have hwritten := hlookup mac
    rw [hnamed, if_pos rfl, hold] at hwritten
    exact hwritten
  · obtain ⟨seconds, hseconds⟩ := Int.eq_ofNat_of_zero_le (show 0 ≤ request.ttl_seconds by omega)
    -- the product of the macro, in the order in which it is computed
    have hfits : (request.ttl_seconds * 1000 * configTICK_RATE_HZ.toNat < 2 ^ 32) ↔
        seconds * configTICK_RATE_HZ.toNat * 1000 < 2 ^ 32 := by
      rw [hseconds, Nat.mul_right_comm]
      norm_cast
    rw [hfits, ← wrapped_div_eq_iff, hseconds]
    rw [hseconds, Int.toNat_natCast] at hstored
    exact authorized_lasts_iff hrate (by omega) hstored

/-! Two messages at 100 ticks a second: an hour and a day. -/

def sample_topic : List UInt8 := c_str "device/node-1/command/allow"

def sample_payload (ttl_seconds : String) : List UInt8 :=
  c_str "\x7b\"mac\":\"02:00:00:00:00:aB\",\"sessionId\":7,\"ttlSeconds\":" ++
    c_str ttl_seconds ++ c_str "\x7d"

/-- The request in the message. -/
def sample_request (ttl_seconds : ℤ) : app_command_request_t :=
  { type := .ALLOW, mac := sample_mac_text, session_id := 7, ttl_seconds := ttl_seconds }

/-- The client is connected and has the address 192.168.4.2. -/
def sample_connection : List event :=
  [⟨0, .track_connected_client sample_mac⟩, ⟨1, .track_client_ip sample_mac 0xC0A80402⟩]

theorem allow_lasts_iff_hour :
    ∃ mac entry, parse_mac_address (some sample_mac_text) = .ok mac ∧
      client_layout.lookup (handle_mqtt_command_allow 100 (tick 5)
        ((world.init 4).run 100 sample_connection).state.s_clients (sample_request 3600)).1 mac
        = some entry ∧ entry.state = .AUTHORIZED ∧
      (Lasts (handle_mqtt_command_allow 100 (tick 5)
        ((world.init 4).run 100 sample_connection).state.s_clients (sample_request 3600)).1
        entry 5 (3600 * 100) ↔ (3600 * 1000 * 100 : ℤ) < 2 ^ 32) :=
  allow_lasts_iff (fun _ => none) 100 4 sample_connection (some sample_topic)
    (some (sample_payload "3600")) {} (sample_request 3600) 5 (by decide) (by decide)
    rfl (by decide)

/-- The day is accepted, stored as 50065 ticks instead of 8640000, and over after
eight minutes and twenty seconds. -/
theorem allow_day_cut_short :
    app_command_parse (fun _ => none) (some sample_topic) (some (sample_payload "86400")) {}
        = (sample_request 86400, .ESP_OK) ∧
      let clients := (handle_mqtt_command_allow 100 (tick 5)
        ((world.init 4).run 100 sample_connection).state.s_clients (sample_request 86400)).1
      (client_layout.lookup clients sample_mac).map client_access_entry_t.ttl_ticks = some 50065 ∧
        (client_access_can_forward_ipv4 clients (tick (5 + 50064)) 0xC0A80402).2 = true ∧
        (client_access_can_forward_ipv4 clients (tick (5 + 50065)) 0xC0A80402).2 = false := by
  refine ⟨by decide, ?_⟩
  decide

end WifiManager.Main
