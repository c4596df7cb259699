/-
Hexadecimal digits in text: they are read in either case and written in upper case.
-/
import Mathlib.Data.Nat.Notation

set_option autoImplicit false

namespace WifiManager.Lib.Hex

/-- The character is a hexadecimal digit with this value. -/
def IsDigit (c : UInt8) (n : ℕ) : Prop :=
  (0x30 ≤ c.toNat ∧ c.toNat ≤ 0x39 ∧ n + 0x30 = c.toNat) ∨
    (0x41 ≤ c.toNat ∧ c.toNat ≤ 0x46 ∧ n + 0x37 = c.toNat) ∨
    (0x61 ≤ c.toNat ∧ c.toNat ≤ 0x66 ∧ n + 0x57 = c.toNat)

instance (c : UInt8) (n : ℕ) : Decidable (IsDigit c n) :=
  inferInstanceAs (Decidable (_ ∨ _ ∨ _))

theorem IsDigit.lt {c : UInt8} {n : ℕ} (h : IsDigit c n) : n < 16 := by
  unfold IsDigit at h
  omega

/-- A digit has one value. -/
theorem IsDigit.unique {c : UInt8} {m n : ℕ} (hm : IsDigit c m) (hn : IsDigit c n) : m = n := by
  unfold IsDigit at hm hn
  omega

/-- The digit with this value, in upper case. -/
def upper_digit (n : ℕ) : UInt8 := if n < 10 then UInt8.ofNat (n + 0x30) else UInt8.ofNat (n + 0x37)

theorem isDigit_upper_digit {n : ℕ} (h : n < 16) : IsDigit (upper_digit n) n := by
  unfold IsDigit upper_digit
  by_cases hsmall : n < 10
  · rw [if_pos hsmall, UInt8.toNat_ofNat']
    omega
  · rw [if_neg hsmall, UInt8.toNat_ofNat']
    omega

/-- No digit is NUL, or a character below `0`. -/
theorem IsDigit.ge {c : UInt8} {n : ℕ} (h : IsDigit c n) : 0x30 ≤ c.toNat := by
  unfold IsDigit at h
  omega

end WifiManager.Lib.Hex
