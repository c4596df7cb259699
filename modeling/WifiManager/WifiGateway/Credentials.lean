/-
What the gateway accepts as credentials, and what it hands to the driver.

`configure_sta_credentials` measures the two strings and then copies them into arrays of the
driver's configuration, with no limit of their own: an SSID of 32 bytes fills its array to the
end and has no terminator. It is the check in front that keeps the copies inside, and nothing is
lost in them (`sta_config_usable`).
-/
import WifiManager.Lib.Buffer
import WifiManager.Lib.CString
import WifiManager.Upstream
import WifiManager.WifiGateway.Gateway

set_option autoImplicit false

namespace WifiManager.WifiGateway

open WifiManager.Lib

/-- The two arrays of the driver's `wifi_sta_config_t` that are filled. -/
structure wifi_sta_config_t where
  ssid : List UInt8
  password : List UInt8
  deriving DecidableEq, Repr

/-- The copies of `configure_sta_credentials` into a zeroed configuration; `none` if one of them
would leave its array. -/
def sta_config (ssid password : c_string) : Option wifi_sta_config_t := do
  let ssid ← Buffer.store (List.replicate 32 0) 0 ssid
  let password ← Buffer.store (List.replicate 64 0) 0 password
  return ⟨ssid, password⟩

section Credentials

variable {ssid password : c_string}

theorem sta_credentials_ok_iff :
    sta_credentials_ok (some ssid) (some password) = true ↔ UsableNetwork ssid password := by
  rw [usableNetwork_iff, sta_credentials_ok]
  simp only [Bool.not_eq_true', Bool.or_eq_false_iff, Bool.and_eq_false_iff,
    decide_eq_false_iff_not]
  omega

/-- **The credentials that `configure_sta_credentials` hands to the driver.** -/
theorem configure_sta_credentials_usable (h : UsableNetwork ssid password)
    (esp_wifi_set_config : esp_err_t) :
    configure_sta_credentials (some ssid) (some password) esp_wifi_set_config
      = (esp_wifi_set_config, [.esp_wifi_set_config]) := by
  have hvalid : validate_config (some ⟨true, some ssid, some password,
      some (c_str "validation"), some []⟩) = .ESP_OK := by
    simp only [validate_config, sta_credentials_ok_iff.mpr h]
    rfl
  rw [configure_sta_credentials, hvalid]

theorem configure_sta_credentials_refused (h : ¬ UsableNetwork ssid password)
    (esp_wifi_set_config : esp_err_t) :
    configure_sta_credentials (some ssid) (some password) esp_wifi_set_config
      = (.ESP_ERR_INVALID_ARG, []) := by
  have hbad : sta_credentials_ok (some ssid) (some password) = false := by
    rw [← Bool.not_eq_true, sta_credentials_ok_iff]
    exact h
  have hrefused : validate_config (some ⟨true, some ssid, some password,
      some (c_str "validation"), some []⟩) = .ESP_ERR_INVALID_ARG := by
    simp only [validate_config, hbad]
    rfl
  rw [configure_sta_credentials, hrefused]

/-- **The copies fit and keep the strings.** -/
theorem sta_config_usable (h : UsableNetwork ssid password) (hssid : 0 ∉ ssid)
    (hpassword : 0 ∉ password) :
    ∃ config, sta_config ssid password = some config ∧ config.ssid.length = 32 ∧
      config.password.length = 64 ∧ CString.of_buffer config.ssid = ssid ∧
      CString.of_buffer config.password = password := by
  obtain ⟨-, hmax, -, hmax'⟩ := usableNetwork_iff.mp h
  refine ⟨⟨_, _⟩, ?_, ?_, ?_, CString.of_buffer_append_zeros hssid (32 - ssid.length),
    CString.of_buffer_append_zeros hpassword (64 - password.length)⟩
  · rw [sta_config, Buffer.store_replicate 0 hmax, Buffer.store_replicate 0 (by omega)]
    rfl
  · rw [List.length_append, List.length_replicate]
    omega
  · rw [List.length_append, List.length_replicate]
    omega

end Credentials

end WifiManager.WifiGateway
