/-
Decimal numbers as text, and `strtoll` on them.
-/
import Mathlib.Data.Nat.Digits.Lemmas
import WifiManager.Lib.CString

set_option autoImplicit false

namespace WifiManager.Lib.Decimal

open CString

def digit (d : ℕ) : UInt8 := UInt8.ofNat (0x30 + d)

/-- A natural number in decimal digits, without leading zeros. -/
def decimal (n : ℕ) : List UInt8 :=
  if n = 0 then [digit 0] else ((Nat.digits 10 n).map digit).reverse

/-- An integer: negative numbers have a minus sign. -/
def decimal_int (n : ℤ) : List UInt8 :=
  if n < 0 then 0x2D :: decimal n.natAbs else decimal n.natAbs

theorem digit_toNat {d : ℕ} (h : d < 10) : (digit d).toNat = 0x30 + d := by
  rw [digit, UInt8.toNat_ofNat']
  omega

theorem isdigit_digit {d : ℕ} (h : d < 10) : isdigit (digit d) = true := by
  rw [isdigit, decide_eq_true_eq, UInt8.le_iff_toNat_le, UInt8.le_iff_toNat_le, digit_toNat h]
  constructor
  · exact Nat.le_add_right _ _
  · exact Nat.add_le_add_left (Nat.le_of_lt_succ h) 0x30

theorem isdigit_decimal (n : ℕ) : ∀ c ∈ decimal n, isdigit c = true := by
  intro c hc
  rw [decimal] at hc
  split at hc
  · rw [List.mem_singleton.mp hc]
    rfl
  · rw [List.mem_reverse, List.mem_map] at hc
    obtain ⟨d, hd, rfl⟩ := hc
    exact isdigit_digit (Nat.digits_lt_base (by omega) hd)

theorem decimal_ne_nil (n : ℕ) : decimal n ≠ [] := by
  rw [decimal]
  split
  · exact List.cons_ne_nil _ _
  · rename_i hn
    rw [Ne, List.reverse_eq_nil_iff, List.map_eq_nil_iff]
    exact Nat.digits_ne_nil_iff_ne_zero.mpr hn

/-- The digits of a number, the last one first. -/
theorem of_digits_reverse {digits : List ℕ} (h : ∀ d ∈ digits, d < 10) :
    of_digits (digits.map digit).reverse = Nat.ofDigits 10 digits := by
  induction digits with
  | nil => rfl
  | cons d digits ih =>
      have hrest := ih fun e he => h e (List.mem_cons_of_mem _ he)
      rw [of_digits] at hrest ⊢
      rw [List.map_cons, List.reverse_cons, List.foldl_append, hrest, Nat.ofDigits_cons,
        List.foldl_cons, List.foldl_nil, digit_toNat (h d List.mem_cons_self)]
      omega

/-- **The digits of a number have its value.** -/
theorem of_digits_decimal (n : ℕ) : of_digits (decimal n) = n := by
  rw [decimal]
  split
  · rename_i hn
    rw [hn]
    rfl
  · rw [of_digits_reverse fun d hd => Nat.digits_lt_base (by omega) hd, Nat.ofDigits_digits]

/-- A digit is neither white space nor a sign. -/
theorem isdigit_ne : ∀ c : UInt8, isdigit c = true → isspace c = false ∧ c ≠ 0x2D ∧ c ≠ 0x2B :=
  forall_byte (by decide +kernel)

theorem convert_decimal {negative : Bool} {m : ℕ} {n : ℤ}
    (hn : (if negative then -(m : ℤ) else m) = n) (hmin : -2 ^ 63 ≤ n) (hmax : n < 2 ^ 63) :
    convert negative (decimal m) = some n := by
  have hrange : ¬ (n < -(2 ^ 63 : ℤ) ∨ (2 ^ 63 : ℤ) ≤ n) := by
    omega
  rw [convert, if_neg (decimal_ne_nil m), of_digits_decimal]
  dsimp only
  rw [hn, if_neg hrange]

/-- **A number in range is read back.** -/
theorem strtoll_decimal_int {n : ℤ} (hmin : -2 ^ 63 ≤ n) (hmax : n < 2 ^ 63) :
    strtoll (decimal_int n) = some n := by
  have hdigits : (decimal n.natAbs).takeWhile isdigit = decimal n.natAbs := by
    rw [List.takeWhile_eq_self_iff]
    exact isdigit_decimal n.natAbs
  rw [decimal_int]
  split
  · rename_i hneg
    have hsign : split_sign (0x2D :: decimal n.natAbs) = (true, decimal n.natAbs) := rfl
    rw [strtoll_of_not_space (by decide), hsign, hdigits]
    apply convert_decimal _ hmin hmax
    rw [if_pos rfl]
    omega
  · rename_i hneg
    obtain ⟨c, rest, hdecimal⟩ := List.exists_cons_of_ne_nil (decimal_ne_nil n.natAbs)
    have hc := isdigit_decimal n.natAbs c (by rw [hdecimal]; exact List.mem_cons_self)
    obtain ⟨hspace, hminus, hplus⟩ := isdigit_ne c hc
    have hsign : split_sign (decimal n.natAbs) = (false, decimal n.natAbs) := by
      rw [hdecimal, split_sign_eq_self hminus hplus]
    rw [hdecimal, strtoll_of_not_space hspace, ← hdecimal, hsign, hdigits]
    apply convert_decimal _ hmin hmax
    rw [if_neg Bool.false_ne_true]
    omega

/-! ## Lengths, and one number for a text -/

theorem decimal_length_le {n k : ℕ} (hk : 0 < k) (h : n < 10 ^ k) : (decimal n).length ≤ k := by
  rw [decimal]
  split
  · exact hk
  · rw [List.length_reverse, List.length_map]
    exact (Nat.digits_length_le_iff (by decide) n).mpr h

/-- A number takes at most its digits and a sign. -/
theorem decimal_int_length_le {n : ℤ} {k : ℕ} (hk : 0 < k) (h : n.natAbs < 10 ^ k) :
    (decimal_int n).length ≤ k + 1 := by
  have hdigits := decimal_length_le hk h
  rw [decimal_int]
  split
  · exact Nat.succ_le_succ hdigits
  · exact Nat.le_succ_of_le hdigits

theorem decimal_injective {m n : ℕ} (h : decimal m = decimal n) : m = n := by
  rw [← of_digits_decimal m, h, of_digits_decimal]

/-- A minus sign is no digit. -/
theorem minus_ne_decimal (m n : ℕ) : 0x2D :: decimal m ≠ decimal n := by
  intro h
  have hminus : (0x2D : UInt8) ∈ decimal n := h ▸ List.mem_cons_self
  exact absurd (isdigit_decimal n _ hminus) (by decide)

theorem decimal_int_injective {m n : ℤ} (h : decimal_int m = decimal_int n) : m = n := by
  rw [decimal_int, decimal_int] at h
  split at h <;> split at h
  · have habs := decimal_injective (List.cons.inj h).2
    omega
  · exact absurd h (minus_ne_decimal _ _)
  · exact absurd h.symm (minus_ne_decimal _ _)
  · have habs := decimal_injective h
    omega

end WifiManager.Lib.Decimal
