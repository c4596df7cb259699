/-
What the components share of ESP-IDF: the error codes they return and C strings.
-/
import Mathlib.Data.Nat.Notation

set_option autoImplicit false

namespace WifiManager

/-- `esp_err_t`, the codes this firmware returns or tests for by name. -/
inductive esp_err_t
  | ESP_OK
  | ESP_FAIL
  | ESP_ERR_NO_MEM
  | ESP_ERR_INVALID_ARG
  | ESP_ERR_INVALID_STATE
  | ESP_ERR_INVALID_SIZE
  | ESP_ERR_INVALID_RESPONSE
  | ESP_ERR_NOT_FOUND
  | ESP_ERR_NOT_SUPPORTED
  | ESP_ERR_TIMEOUT
  | ESP_ERR_NVS_NOT_FOUND
  | ESP_ERR_NVS_INVALID_LENGTH
  | ESP_ERR_WIFI_NOT_CONNECT
  deriving DecidableEq, Repr

/-- A C string: the bytes in front of its terminator. -/
abbrev c_string := List UInt8

/-- A string literal. -/
def c_str (text : String) : c_string := text.toList.map fun c => UInt8.ofNat c.toNat

end WifiManager
