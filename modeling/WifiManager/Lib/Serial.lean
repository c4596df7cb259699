/-
Counters that wrap at 2^32.

A tick counter or a TCP sequence number is an unbounded count of which the program
sees the last 32 bits. `UInt32.ofNat n` is what it sees of the count `n`. The
difference of two such views is the difference of the counts as long as that is
below 2^32 (`toNat_sub_ofNat`), and the signed reading of the difference orders
counts that are less than 2^31 apart (`after_iff`).
-/
import Mathlib.Tactic.Linarith

set_option autoImplicit false

namespace WifiManager.Lib.Serial

/-- What the difference of two views shows of the difference of the counts. -/
theorem toNat_sub_ofNat {m n : ℕ} (h : m ≤ n) :
    (UInt32.ofNat n - UInt32.ofNat m).toNat = (n - m) % 2 ^ 32 := by
  rw [← UInt32.ofNat_sub h, UInt32.toNat_ofNat']

/-- The same for counts that start from any value. -/
theorem toNat_add_sub_add (s : UInt32) {m n : ℕ} (h : m ≤ n) :
    ((s + UInt32.ofNat n) - (s + UInt32.ofNat m)).toNat = (n - m) % 2 ^ 32 := by
  have hshift : (s + UInt32.ofNat n) - (s + UInt32.ofNat m) = UInt32.ofNat (n - m) := by
    rw [UInt32.sub_eq_iff_eq_add, UInt32.ofNat_sub h, UInt32.add_comm s (UInt32.ofNat m),
      ← UInt32.add_assoc, UInt32.sub_add_cancel, UInt32.add_comm]
  rw [hshift, UInt32.toNat_ofNat']

/-- A view, widened to a signed integer and cut back. -/
theorem ofInt_toNat (x : UInt32) : UInt32.ofInt (x.toNat : ℤ) = x := by
  have hlt := x.toNat_lt
  apply UInt32.toNat_inj.mp
  rw [UInt32.ofInt, UInt32.toNat_ofNat']
  omega

/-- Cutting back a difference of wider integers is the difference of the views. -/
theorem ofInt_sub_toNat (x y : UInt32) :
    UInt32.ofInt ((x.toNat : ℤ) - (y.toNat : ℤ)) = x - y := by
  rw [Int.sub_eq_add_neg, UInt32.ofInt_add, UInt32.ofInt_neg, ofInt_toNat, ofInt_toNat,
    UInt32.sub_eq_add_neg]

/-- `x` is ahead of `y`: the C comparison `(int32_t)(x - y) > 0`. -/
def after (x y : UInt32) : Bool := decide (0 < (x - y).toInt32)

theorem after_iff (x y : UInt32) :
    after x y = true ↔ 0 < (x - y).toNat ∧ (x - y).toNat < 2 ^ 31 := by
  have hlt := (x - y).toNat_lt
  have hint : (x - y).toInt32.toInt = ((x - y).toNat : ℤ).bmod (2 ^ 32) :=
    BitVec.toInt_eq_toNat_bmod (x - y).toBitVec
  rw [after, decide_eq_true_iff, Int32.lt_iff_toInt_lt, hint, Int32.toInt_zero, Int.bmod_def]
  split_ifs <;> omega

/-- How far behind `y` an `x` that is not ahead of it can be. -/
theorem toNat_sub_le_of_not_after {x y : UInt32} (h : after x y = false) :
    (y - x).toNat ≤ 2 ^ 31 := by
  have hx := x.toNat_lt
  have hy := y.toNat_lt
  have hnot : ¬ (0 < (x - y).toNat ∧ (x - y).toNat < 2 ^ 31) := by
    rw [← after_iff, h]
    simp
  rw [UInt32.toNat_sub] at hnot ⊢
  omega

/-- Counts in order are not seen the other way round. -/
theorem not_after_of_le (s : UInt32) {m n : ℕ} (h : m ≤ n) (hclose : n - m ≤ 2 ^ 31) :
    after (s + UInt32.ofNat m) (s + UInt32.ofNat n) = false := by
  have hback := toNat_add_sub_add s h
  have hx := (s + UInt32.ofNat m).toNat_lt
  have hy := (s + UInt32.ofNat n).toNat_lt
  rw [← Bool.not_eq_true, after_iff]
  rw [UInt32.toNat_sub] at hback ⊢
  omega

end WifiManager.Lib.Serial
