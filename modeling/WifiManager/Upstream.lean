/-
The upstream network that a device is given.

Four components check what they are given for it, each with its own buffers and its own
comparisons. What they check is stated here once.
-/
import WifiManager.Esp

set_option autoImplicit false

namespace WifiManager

/-- An SSID and a password to connect with: the network is open, or the password is one of
WPA2. -/
def UsableNetwork (ssid password : c_string) : Prop :=
  1 ≤ ssid.length ∧ ssid.length ≤ 32 ∧
    (password = [] ∨ 8 ≤ password.length ∧ password.length ≤ 63)

instance (ssid password : c_string) : Decidable (UsableNetwork ssid password) :=
  inferInstanceAs (Decidable (_ ∧ _))

/-- A request that can be named. -/
def UsableRequest (request_id : c_string) : Prop :=
  1 ≤ request_id.length ∧ request_id.length ≤ 63

theorem usableNetwork_iff {ssid password : c_string} :
    UsableNetwork ssid password ↔ 1 ≤ ssid.length ∧ ssid.length ≤ 32 ∧
      (password.length = 0 ∨ 8 ≤ password.length) ∧ password.length ≤ 63 := by
  have hempty : password = [] ↔ password.length = 0 := List.length_eq_zero_iff.symm
  rw [UsableNetwork, hempty]
  omega

end WifiManager
