/-
`parse_mac_address`: a MAC address from text.

The source checks the length and the five colons and leaves the rest to
`sscanf(mac_text, "%2x:%2x:%2x:%2x:%2x:%2x", ...)`. `scan_2x` is one `%2x` of
`sscanf`: it skips white space, then reads at most two characters of an optionally
signed hexadecimal number as `strtoul` does. What can begin a number but is none,
a sign or a `0x` that the width cuts off, is a matching failure, as in the C standard.
`wifi_gateway.c` has a copy of the function.
-/
import Mathlib.Tactic.Linarith
import Mathlib.Data.List.Basic
import WifiManager.Esp

set_option autoImplicit false

namespace WifiManager.ClientAccess

/-- `uint8_t mac[6]`; `memcmp` compares all six bytes. -/
abbrev mac_t := Vector UInt8 6

abbrev colon : UInt8 := 0x3A

/-- `isspace` of the C locale. -/
def isspace (value : UInt8) : Bool := value = 0x20 || (0x09 ≤ value && value ≤ 0x0D)

/-- The value of a hexadecimal digit. -/
def hex_digit (value : UInt8) : Option ℕ :=
  if 0x30 ≤ value ∧ value ≤ 0x39 then some (value.toNat - 0x30)
  else if 0x41 ≤ value ∧ value ≤ 0x46 then some (value.toNat - 0x41 + 10)
  else if 0x61 ≤ value ∧ value ≤ 0x66 then some (value.toNat - 0x61 + 10)
  else none

/-- `%2x`: the `unsigned int` read and the input left, `none` if there is no number. -/
def scan_2x (input : c_string) : Option (ℕ × c_string) :=
  match input.dropWhile isspace with
  | [] => none
  | first :: rest =>
      match hex_digit first with
      | some high =>
          match rest with
          | [] => some (high, [])
          | second :: rest' =>
              match hex_digit second with
              | some low => some (high * 16 + low, rest')
              | none =>
                  -- the beginning of a number, but the width leaves no digit for it
                  if first = 0x30 ∧ (second = 0x78 ∨ second = 0x58) then none
                  -- a single digit is a number, and the next character stays in the input
                  else some (high, rest)
      | none =>
          if first = 0x2B ∨ first = 0x2D then
            match rest with
            | [] => none
            | second :: rest' =>
                (hex_digit second).map fun low =>
                  -- the width leaves one digit for a sign; the value is an `unsigned int`
                  (if first = 0x2B then low else (2 ^ 32 - low) % 2 ^ 32, rest')
          else none

/-- The conversions of `"%2x:%2x:..."`, `count` of them: the values of those that
succeed. -/
def scan_2x_list : ℕ → c_string → List ℕ
  | 0, _ => []
  | count + 1, input =>
      match scan_2x input with
      | none => []
      | some (value, rest) =>
          match rest with
          -- the literal colon is missing: the conversions so far count
          | [] => [value]
          | next :: rest' => if next = colon then value :: scan_2x_list count rest' else [value]

/-- `parse_mac_address`; `none` is a NULL pointer. -/
def parse_mac_address (mac_text : Option c_string) : Except esp_err_t mac_t :=
  match mac_text with
  | none => .error .ESP_ERR_INVALID_ARG
  | some text =>
      if text.length ≠ 17 ∨ text[2]? ≠ some colon ∨ text[5]? ≠ some colon ∨
          text[8]? ≠ some colon ∨ text[11]? ≠ some colon ∨ text[14]? ≠ some colon then
        .error .ESP_ERR_INVALID_ARG
      else
        match scan_2x_list 6 text with
        | [a, b, c, d, e, f] =>
            -- a negative number is far above a byte
            if a > 0xFF ∨ b > 0xFF ∨ c > 0xFF ∨ d > 0xFF ∨ e > 0xFF ∨ f > 0xFF then
              .error .ESP_ERR_INVALID_ARG
            else
              .ok #v[UInt8.ofNat a, UInt8.ofNat b, UInt8.ofNat c, UInt8.ofNat d, UInt8.ofNat e,
                UInt8.ofNat f]
        | _ => .error .ESP_ERR_INVALID_ARG

/-- There is one error. -/
theorem parse_mac_address_error {mac_text : Option c_string} {err : esp_err_t}
    (h : parse_mac_address mac_text = .error err) : err = .ESP_ERR_INVALID_ARG := by
  unfold parse_mac_address at h
  cases mac_text with
  | none =>
      injection h with h
      exact h.symm
  | some text =>
      simp only at h
      split_ifs at h
      · injection h with h
        exact h.symm
      · split at h
        · split_ifs at h
          injection h with h
          exact h.symm
        · injection h with h
          exact h.symm

/-- `02:00:00:00:00:aB`. -/
def sample_mac_text : c_string :=
  [0x30, 0x32, 0x3A, 0x30, 0x30, 0x3A, 0x30, 0x30, 0x3A, 0x30, 0x30, 0x3A, 0x30, 0x30, 0x3A,
    0x61, 0x42]

def sample_mac : mac_t := #v[2, 0, 0, 0, 0, 0xAB]

def other_mac : mac_t := #v[2, 0, 0, 0, 0, 0xCE]

example : parse_mac_address (some sample_mac_text) = .ok sample_mac := by decide +kernel

end WifiManager.ClientAccess

namespace WifiManager.WifiGateway

open WifiManager.ClientAccess (mac_t colon scan_2x_list)

/-- `parse_mac_address` of `wifi_gateway.c`; `none` is a NULL pointer. -/
def parse_mac_address (mac_text : Option c_string) : Except esp_err_t mac_t :=
  match mac_text with
  | none => .error .ESP_ERR_INVALID_ARG
  | some text =>
      if text.length ≠ 17 ∨ text[2]? ≠ some colon ∨ text[5]? ≠ some colon ∨
          text[8]? ≠ some colon ∨ text[11]? ≠ some colon ∨ text[14]? ≠ some colon then
        .error .ESP_ERR_INVALID_ARG
      else
        match scan_2x_list 6 text with
        | [a, b, c, d, e, f] =>
            if a > 0xFF ∨ b > 0xFF ∨ c > 0xFF ∨ d > 0xFF ∨ e > 0xFF ∨ f > 0xFF then
              .error .ESP_ERR_INVALID_ARG
            else
              .ok #v[UInt8.ofNat a, UInt8.ofNat b, UInt8.ofNat c, UInt8.ofNat d, UInt8.ofNat e,
                UInt8.ofNat f]
        | _ => .error .ESP_ERR_INVALID_ARG

theorem parse_mac_address_eq (mac_text : Option c_string) :
    parse_mac_address mac_text = ClientAccess.parse_mac_address mac_text := rfl

end WifiManager.WifiGateway
