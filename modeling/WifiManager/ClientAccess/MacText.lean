/-
Which texts `parse_mac_address` takes for a MAC address.

The text of an address is six pairs of hexadecimal digits with colons between them
(`MacText`). Of these the function takes every one, with the right bytes, but `sscanf` takes
more: white space or a plus in front of a single digit, a minus in front of a zero, and in the
last pair a digit with anything behind it (`parse_mac_address_ok_iff`). The texts with such a
pair (`LooseText`) are the ones that are taken without being addresses.
-/
import Mathlib.Tactic.IntervalCases
import WifiManager.ClientAccess.Mac
import WifiManager.Lib.Hex

set_option autoImplicit false

namespace WifiManager.ClientAccess

open WifiManager.Lib.Hex

/-! ## Texts -/

/-- Six pairs of characters with colons between them. -/
def mac_text (pairs : Fin 6 → UInt8 × UInt8) : c_string :=
  [(pairs 0).1, (pairs 0).2, colon, (pairs 1).1, (pairs 1).2, colon,
    (pairs 2).1, (pairs 2).2, colon, (pairs 3).1, (pairs 3).2, colon,
    (pairs 4).1, (pairs 4).2, colon, (pairs 5).1, (pairs 5).2]

/-- Two digits and their value. -/
def HexPair (pair : UInt8 × UInt8) (value : UInt8) : Prop :=
  ∃ m n, IsDigit pair.1 m ∧ IsDigit pair.2 n ∧ value = UInt8.ofNat (16 * m + n)

/-- The text of an address. -/
def MacText (text : c_string) (mac : mac_t) : Prop :=
  ∃ pairs, text = mac_text pairs ∧ ∀ i : Fin 6, HexPair (pairs i) mac[i]

/-- A digit behind white space or a sign. -/
def LoosePair (pair : UInt8 × UInt8) (value : UInt8) : Prop :=
  (isspace pair.1 = true ∨ pair.1 = 0x2B) ∧ (∃ n, IsDigit pair.2 n ∧ value = UInt8.ofNat n) ∨
    pair.1 = 0x2D ∧ pair.2 = 0x30 ∧ value = 0

/-- A digit with something else behind it, which does not make it the prefix `0x`. -/
def CutPair (pair : UInt8 × UInt8) (value : UInt8) : Prop :=
  ∃ n, IsDigit pair.1 n ∧ (∀ m, ¬ IsDigit pair.2 m) ∧
    ¬ (pair.1 = 0x30 ∧ (pair.2 = 0x78 ∨ pair.2 = 0x58)) ∧ value = UInt8.ofNat n

/-- A pair that is taken in its place. -/
def TakenPair (i : Fin 6) (pair : UInt8 × UInt8) (value : UInt8) : Prop :=
  HexPair pair value ∨ LoosePair pair value ∨ i = 5 ∧ CutPair pair value

/-- A text that is taken and is not the text of an address. -/
def LooseText (text : c_string) : Prop :=
  ∃ pairs, text = mac_text pairs ∧ (∀ i, ∃ value, TakenPair i (pairs i) value) ∧
    ∃ i, ∀ value, ¬ HexPair (pairs i) value

theorem mac_text_injective {pairs pairs' : Fin 6 → UInt8 × UInt8}
    (h : mac_text pairs = mac_text pairs') : pairs = pairs' := by
  simp only [mac_text, List.cons.injEq, true_and, and_true] at h
  obtain ⟨h₀, h₀', h₁, h₁', h₂, h₂', h₃, h₃', h₄, h₄', h₅, h₅'⟩ := h
  funext i
  match i with
  | 0 => exact Prod.ext h₀ h₀'
  | 1 => exact Prod.ext h₁ h₁'
  | 2 => exact Prod.ext h₂ h₂'
  | 3 => exact Prod.ext h₃ h₃'
  | 4 => exact Prod.ext h₄ h₄'
  | 5 => exact Prod.ext h₅ h₅'

/-! ## Characters -/

theorem hex_digit_eq_some_iff (c : UInt8) (n : ℕ) : hex_digit c = some n ↔ IsDigit c n := by
  unfold hex_digit IsDigit
  simp only [UInt8.le_iff_toNat_le, UInt8.reduceToNat]
  split_ifs <;> simp only [Option.some.injEq, false_iff] <;> omega

theorem hex_digit_eq_none_iff (c : UInt8) : hex_digit c = none ↔ ∀ n, ¬ IsDigit c n := by
  rw [Option.eq_none_iff_forall_not_mem]
  exact forall_congr' fun n => not_congr (hex_digit_eq_some_iff c n)

/-- White space is no digit and no sign. -/
theorem of_isspace {c : UInt8} (h : isspace c = true) :
    hex_digit c = none ∧ c ≠ 0x2B ∧ c ≠ 0x2D := by
  unfold isspace at h
  unfold hex_digit
  simp only [Bool.or_eq_true, Bool.and_eq_true, decide_eq_true_eq, UInt8.le_iff_toNat_le,
    ← UInt8.toNat_inj, UInt8.reduceToNat, ne_eq] at h ⊢
  refine ⟨?_, by omega, by omega⟩
  rw [if_neg (by omega), if_neg (by omega), if_neg (by omega)]

/-! ## A number -/

theorem scan_2x_space {x : UInt8} (hx : isspace x = true) (input : c_string) :
    scan_2x (x :: input) = scan_2x input := by
  unfold scan_2x
  rw [List.dropWhile_cons_of_pos hx]

theorem not_isspace_of_digit {x : UInt8} {m : ℕ} (hx : hex_digit x = some m) :
    ¬ isspace x = true := by
  intro hspace
  rw [(of_isspace hspace).1] at hx
  exact Option.some_ne_none m hx.symm

theorem scan_2x_digits {x y : UInt8} {m n : ℕ} (hx : hex_digit x = some m)
    (hy : hex_digit y = some n) (rest : c_string) :
    scan_2x (x :: y :: rest) = some (m * 16 + n, rest) := by
  unfold scan_2x
  rw [List.dropWhile_cons_of_neg (not_isspace_of_digit hx)]
  simp only [hx, hy]

theorem scan_2x_digit {x y : UInt8} {m : ℕ} (hx : hex_digit x = some m)
    (hy : hex_digit y = none) (rest : c_string) :
    scan_2x (x :: y :: rest)
      = if x = 0x30 ∧ (y = 0x78 ∨ y = 0x58) then none else some (m, y :: rest) := by
  unfold scan_2x
  rw [List.dropWhile_cons_of_neg (not_isspace_of_digit hx)]
  simp only [hx, hy]

theorem scan_2x_last_digit {x : UInt8} {m : ℕ} (hx : hex_digit x = some m) :
    scan_2x [x] = some (m, []) := by
  unfold scan_2x
  rw [List.dropWhile_cons_of_neg (not_isspace_of_digit hx)]
  simp only [hx]

theorem scan_2x_plus (y : UInt8) (rest : c_string) :
    scan_2x (0x2B :: y :: rest) = (hex_digit y).map fun n => (n, rest) := by
  unfold scan_2x
  rw [List.dropWhile_cons_of_neg (by decide)]
  rfl

theorem scan_2x_minus (y : UInt8) (rest : c_string) :
    scan_2x (0x2D :: y :: rest) = (hex_digit y).map fun n => ((2 ^ 32 - n) % 2 ^ 32, rest) := by
  unfold scan_2x
  rw [List.dropWhile_cons_of_neg (by decide)]
  rfl

/-- Anything else, a colon for one, is no number. -/
theorem scan_2x_other {x : UInt8} (hx : ¬ isspace x = true) (hdigit : hex_digit x = none)
    (hplus : x ≠ 0x2B) (hminus : x ≠ 0x2D) (rest : c_string) : scan_2x (x :: rest) = none := by
  unfold scan_2x
  rw [List.dropWhile_cons_of_neg hx]
  simp only [hdigit, hplus, hminus, or_self, if_false]

theorem scan_2x_colon (rest : c_string) : scan_2x (colon :: rest) = none :=
  scan_2x_other (by decide) (by decide) (by decide) (by decide) rest

/-- A single character in front of a colon or the end. -/
theorem scan_2x_single (y : UInt8) (rest : c_string) :
    scan_2x (y :: colon :: rest) = (hex_digit y).map (fun n => (n, colon :: rest)) ∧
      scan_2x [y] = (hex_digit y).map (fun n => (n, [])) := by
  cases hy : hex_digit y with
  | some n =>
      constructor
      · rw [scan_2x_digit hy (by decide), if_neg fun h => absurd h.2 (by decide)]
        rfl
      · exact scan_2x_last_digit hy
  | none =>
      by_cases hspace : isspace y = true
      · rw [scan_2x_space hspace, scan_2x_space hspace, scan_2x_colon]
        exact ⟨rfl, rfl⟩
      by_cases hplus : y = 0x2B
      · subst hplus
        exact ⟨scan_2x_plus colon rest, rfl⟩
      by_cases hminus : y = 0x2D
      · subst hminus
        exact ⟨scan_2x_minus colon rest, rfl⟩
      · exact ⟨scan_2x_other hspace hy hplus hminus _, scan_2x_other hspace hy hplus hminus _⟩

/-! ## A pair -/

/-- The number that is read from a pair and uses it up. -/
def pair_number (pair : UInt8 × UInt8) : Option ℕ :=
  match hex_digit pair.1 with
  | some high => (hex_digit pair.2).map fun low => high * 16 + low
  | none =>
      if isspace pair.1 = true ∨ pair.1 = 0x2B then hex_digit pair.2
      else if pair.1 = 0x2D then (hex_digit pair.2).map fun low => (2 ^ 32 - low) % 2 ^ 32
      else none

/-- The number that is read from a digit with something else behind it. -/
def cut_number (pair : UInt8 × UInt8) : Option ℕ :=
  if pair.1 = 0x30 ∧ (pair.2 = 0x78 ∨ pair.2 = 0x58) then none else hex_digit pair.1

/-- A pair in front of a colon or the end: its number, or its digit with the rest left over. -/
theorem scan_2x_pair (pair : UInt8 × UInt8) {rest : c_string}
    (hrest : rest = [] ∨ ∃ more, rest = colon :: more) :
    scan_2x (pair.1 :: pair.2 :: rest)
      = match pair_number pair with
        | some value => some (value, rest)
        | none => (cut_number pair).map fun value => (value, pair.2 :: rest) := by
  obtain ⟨x, y⟩ := pair
  dsimp only
  unfold pair_number cut_number
  dsimp only
  cases hx : hex_digit x with
  | some m =>
      cases hy : hex_digit y with
      | some n => exact scan_2x_digits hx hy rest
      | none =>
          rw [scan_2x_digit hx hy]
          dsimp only [Option.map_none]
          by_cases hmarker : x = 0x30 ∧ (y = 0x78 ∨ y = 0x58)
          · rw [if_pos hmarker, if_pos hmarker]
            rfl
          · rw [if_neg hmarker, if_neg hmarker]
            rfl
  | none =>
      have hcut : (if x = 0x30 ∧ (y = 0x78 ∨ y = 0x58) then none else (none : Option ℕ)) = none :=
        ite_self none
      rw [hcut]
      by_cases hspace : isspace x = true
      · rw [scan_2x_space hspace, if_pos (.inl hspace)]
        have hsingle : scan_2x (y :: rest) = (hex_digit y).map fun n => (n, rest) := by
          rcases hrest with rfl | ⟨more, rfl⟩
          · exact (scan_2x_single y []).2
          · exact (scan_2x_single y more).1
        rw [hsingle]
        cases hex_digit y <;> rfl
      by_cases hplus : x = 0x2B
      · subst hplus
        rw [scan_2x_plus, if_pos (.inr rfl)]
        cases hex_digit y <;> rfl
      rw [if_neg (fun h => h.elim hspace hplus)]
      by_cases hminus : x = 0x2D
      · subst hminus
        rw [scan_2x_minus, if_pos rfl]
        cases hex_digit y <;> rfl
      · rw [if_neg hminus]
        exact scan_2x_other hspace hx hplus hminus _

/-- The number of the last pair. -/
def last_number (pair : UInt8 × UInt8) : Option ℕ :=
  match pair_number pair with
  | some value => some value
  | none => cut_number pair

/-- **One conversion**: behind it there is another one only if the pair is used up. -/
theorem scan_2x_list_pair (pair : UInt8 × UInt8) (rest : c_string) (count v w : ℕ)
    (values : List ℕ) :
    scan_2x_list (count + 2) (pair.1 :: pair.2 :: colon :: rest) = v :: w :: values ↔
      pair_number pair = some v ∧ scan_2x_list (count + 1) rest = w :: values := by
  rw [scan_2x_list, scan_2x_pair pair (.inr ⟨rest, rfl⟩)]
  cases pair_number pair with
  | some value =>
      dsimp only
      rw [if_pos rfl, List.cons.injEq, Option.some_inj]
  | none =>
      cases cut_number pair with
      | none => exact ⟨nofun, nofun⟩
      | some value =>
          dsimp only [Option.map_some]
          refine ⟨fun h => ?_, nofun⟩
          -- a colon in its place ends the list one conversion later
          by_cases hcolon : pair.2 = colon
          · rw [if_pos hcolon, scan_2x_list, scan_2x_colon] at h
            exact absurd h (by simp)
          · rw [if_neg hcolon] at h
            exact absurd h (by simp)

/-- The last conversion. -/
theorem scan_2x_list_last (pair : UInt8 × UInt8) (v : ℕ) :
    scan_2x_list 1 [pair.1, pair.2] = [v] ↔ last_number pair = some v := by
  rw [scan_2x_list, scan_2x_pair pair (.inl rfl), last_number]
  cases pair_number pair with
  | some value =>
      dsimp only
      rw [List.singleton_inj, Option.some_inj]
  | none =>
      cases cut_number pair with
      | none => exact ⟨nofun, nofun⟩
      | some value =>
          dsimp only [Option.map_some]
          rw [scan_2x_list, ite_self, List.singleton_inj, Option.some_inj]

/-- **All conversions.** -/
theorem scan_2x_list_mac_text (pairs : Fin 6 → UInt8 × UInt8) (a b c d e f : ℕ) :
    scan_2x_list 6 (mac_text pairs) = [a, b, c, d, e, f] ↔
      pair_number (pairs 0) = some a ∧ pair_number (pairs 1) = some b ∧
        pair_number (pairs 2) = some c ∧ pair_number (pairs 3) = some d ∧
        pair_number (pairs 4) = some e ∧ last_number (pairs 5) = some f := by
  rw [mac_text, scan_2x_list_pair, scan_2x_list_pair, scan_2x_list_pair, scan_2x_list_pair,
    scan_2x_list_pair, scan_2x_list_last]

/-! ## The bytes -/

theorem sign_not_digit : hex_digit 0x2B = none ∧ hex_digit 0x2D = none := by decide

theorem digit_eq_zero_iff (c : UInt8) : hex_digit c = some 0 ↔ c = 0x30 := by
  rw [hex_digit_eq_some_iff, IsDigit, ← UInt8.toNat_inj]
  simp only [UInt8.reduceToNat]
  omega

/-- A pair is used up and its number is a byte. -/
theorem pair_number_byte_iff (pair : UInt8 × UInt8) (value : UInt8) :
    (∃ v, pair_number pair = some v ∧ v ≤ 0xFF ∧ UInt8.ofNat v = value) ↔
      HexPair pair value ∨ LoosePair pair value := by
  obtain ⟨x, y⟩ := pair
  unfold pair_number HexPair LoosePair
  simp only [← hex_digit_eq_some_iff]
  have hdigit : ∀ n, hex_digit y = some n → n < 16 := fun n h =>
    ((hex_digit_eq_some_iff y n).mp h).lt
  cases hx : hex_digit x with
  | some m =>
      have hm : m < 16 := ((hex_digit_eq_some_iff x m).mp hx).lt
      constructor
      · rintro ⟨v, hv, -, rfl⟩
        obtain ⟨n, hn, rfl⟩ := Option.map_eq_some_iff.mp hv
        exact .inl ⟨m, n, rfl, hn, by rw [Nat.mul_comm]⟩
      · rintro (⟨m', n, hm', hn, rfl⟩ | ⟨hspace | rfl, -⟩ | ⟨rfl, -⟩)
        · obtain rfl := Option.some.inj hm'
          have hlt := hdigit n hn
          exact ⟨m * 16 + n, by rw [hn]; rfl, by omega, by rw [Nat.mul_comm]⟩
        · exact absurd hspace (not_isspace_of_digit hx)
        · rw [sign_not_digit.1] at hx
          cases hx
        · rw [sign_not_digit.2] at hx
          cases hx
  | none =>
      dsimp only
      by_cases hloose : isspace x = true ∨ x = 0x2B
      · rw [if_pos hloose]
        constructor
        · rintro ⟨n, hn, -, rfl⟩
          exact .inr (.inl ⟨hloose, n, hn, rfl⟩)
        · rintro (⟨m, n, hm, -⟩ | ⟨-, n, hn, rfl⟩ | ⟨rfl, -⟩)
          · cases hm
          · have hlt := hdigit n hn
            exact ⟨n, hn, by omega, rfl⟩
          · exact absurd hloose (by decide)
      rw [if_neg hloose]
      by_cases hminus : x = 0x2D
      · -- a negative number is far above a byte
        rw [if_pos hminus]
        constructor
        · rintro ⟨v, hv, hbyte, rfl⟩
          obtain ⟨n, hn, rfl⟩ := Option.map_eq_some_iff.mp hv
          have hlt := hdigit n hn
          have hzero : n = 0 := by omega
          subst hzero
          exact .inr (.inr ⟨hminus, (digit_eq_zero_iff y).mp hn, rfl⟩)
        · rintro (⟨m, n, hm, -⟩ | ⟨h, -⟩ | ⟨-, rfl, rfl⟩)
          · cases hm
          · exact absurd h hloose
          · exact ⟨0, by decide, by decide, rfl⟩
      · rw [if_neg hminus]
        constructor
        · rintro ⟨v, hv, -⟩
          cases hv
        · rintro (⟨m, n, hm, -⟩ | ⟨h, -⟩ | ⟨h, -⟩)
          · cases hm
          · exact absurd h hloose
          · exact absurd h hminus

/-- The same for the last pair. -/
theorem last_number_byte_iff (pair : UInt8 × UInt8) (value : UInt8) :
    (∃ v, last_number pair = some v ∧ v ≤ 0xFF ∧ UInt8.ofNat v = value) ↔
      HexPair pair value ∨ LoosePair pair value ∨ CutPair pair value := by
  rw [← or_assoc, ← pair_number_byte_iff, last_number]
  unfold CutPair cut_number
  cases hpair : pair_number pair with
  | some v =>
      -- a pair that is used up has no digit with something else behind it
      refine ⟨.inl, fun h => h.elim id ?_⟩
      rintro ⟨n, hn, hnone, -⟩
      rw [pair_number, (hex_digit_eq_some_iff _ n).mpr hn,
        (hex_digit_eq_none_iff _).mpr hnone] at hpair
      cases hpair
  | none =>
      have hnone : ∀ n, hex_digit pair.1 = some n → ∀ m, ¬ IsDigit pair.2 m := by
        intro n hn
        rw [← hex_digit_eq_none_iff]
        rw [pair_number, hn] at hpair
        exact Option.map_eq_none_iff.mp hpair
      constructor
      · rintro ⟨n, hn, -, rfl⟩
        obtain ⟨hmarker, hdigit⟩ := Option.ite_none_left_eq_some.mp hn
        exact .inr ⟨n, (hex_digit_eq_some_iff _ n).mp hdigit, hnone n hdigit, hmarker, rfl⟩
      · rintro (⟨v, hv, -⟩ | ⟨n, hn, -, hmarker, rfl⟩)
        · cases hv
        · have hlt := hn.lt
          refine ⟨n, ?_, by omega, rfl⟩
          dsimp only
          rw [if_neg hmarker]
          exact (hex_digit_eq_some_iff _ n).mpr hn

/-- A text with the length and the colons of an address. -/
theorem exists_mac_text {text : c_string} (h : ¬ (text.length ≠ 17 ∨ text[2]? ≠ some colon ∨
      text[5]? ≠ some colon ∨ text[8]? ≠ some colon ∨ text[11]? ≠ some colon ∨
      text[14]? ≠ some colon)) : ∃ pairs, text = mac_text pairs := by
  push Not at h
  obtain ⟨hlength, h₂, h₅, h₈, h₁₁, h₁₄⟩ := h
  have hget : ∀ k, k < 17 → text[k]? = some (text.getD k 0) := by
    intro k hk
    rw [List.getD_eq_getElem?_getD, List.getElem?_eq_getElem (by omega), Option.getD_some]
  refine ⟨fun i => (text.getD (3 * i) 0, text.getD (3 * i + 1) 0), List.ext_getElem? fun k => ?_⟩
  by_cases hk : k < 17
  · interval_cases k <;> first | assumption | exact hget _ (by omega)
  · rw [List.getElem?_eq_none (by omega), List.getElem?_eq_none (by
      simp only [mac_text, List.length_cons, List.length_nil]
      omega)]

/-- The pairs of a text are taken if its numbers are these bytes. -/
theorem takenPair_iff (i : Fin 6) (pair : UInt8 × UInt8) (value : UInt8) :
    TakenPair i pair value ↔
      ∃ v, (if i = 5 then last_number pair else pair_number pair) = some v ∧ v ≤ 0xFF ∧
        UInt8.ofNat v = value := by
  unfold TakenPair
  by_cases hlast : i = 5
  · rw [if_pos hlast, last_number_byte_iff]
    simp only [hlast, true_and]
  · rw [if_neg hlast, pair_number_byte_iff]
    simp only [hlast, false_and, or_false]

/-- **The texts that are taken**, and the bytes that come out. -/
theorem parse_mac_address_ok_iff (text : c_string) (mac : mac_t) :
    parse_mac_address (some text) = .ok mac ↔
      ∃ pairs, text = mac_text pairs ∧ ∀ i : Fin 6, TakenPair i (pairs i) mac[i] := by
  simp only [takenPair_iff]
  constructor
  · intro hparse
    rw [parse_mac_address] at hparse
    split_ifs at hparse with hform
    obtain ⟨pairs, rfl⟩ := exists_mac_text hform
    refine ⟨pairs, rfl, ?_⟩
    split at hparse
    · rename_i a b c d e f hscan
      split_ifs at hparse with hbytes
      obtain ⟨ha, hb, hc, hd, he, hf⟩ := (scan_2x_list_mac_text pairs a b c d e f).mp hscan
      obtain rfl := Except.ok.inj hparse
      intro i
      match i with
      | 0 => exact ⟨a, ha, by omega, rfl⟩
      | 1 => exact ⟨b, hb, by omega, rfl⟩
      | 2 => exact ⟨c, hc, by omega, rfl⟩
      | 3 => exact ⟨d, hd, by omega, rfl⟩
      | 4 => exact ⟨e, he, by omega, rfl⟩
      | 5 => exact ⟨f, hf, by omega, rfl⟩
    · cases hparse
  · rintro ⟨pairs, rfl, htaken⟩
    obtain ⟨a, ha, ha', ha''⟩ := htaken 0
    obtain ⟨b, hb, hb', hb''⟩ := htaken 1
    obtain ⟨c, hc, hc', hc''⟩ := htaken 2
    obtain ⟨d, hd, hd', hd''⟩ := htaken 3
    obtain ⟨e, he, he', he''⟩ := htaken 4
    obtain ⟨f, hf, hf', hf''⟩ := htaken 5
    have hscan := (scan_2x_list_mac_text pairs a b c d e f).mpr ⟨ha, hb, hc, hd, he, hf⟩
    have hform : ¬ ((mac_text pairs).length ≠ 17 ∨ (mac_text pairs)[2]? ≠ some colon ∨
        (mac_text pairs)[5]? ≠ some colon ∨ (mac_text pairs)[8]? ≠ some colon ∨
        (mac_text pairs)[11]? ≠ some colon ∨ (mac_text pairs)[14]? ≠ some colon) := by
      simp [mac_text]
    rw [parse_mac_address, if_neg hform, hscan]
    dsimp only
    rw [if_neg (by omega)]
    refine congrArg Except.ok (Vector.ext fun i hi => ?_)
    match i, hi with
    | 0, _ => exact ha''
    | 1, _ => exact hb''
    | 2, _ => exact hc''
    | 3, _ => exact hd''
    | 4, _ => exact he''
    | 5, _ => exact hf''

/-! ## Addresses and loose texts -/

/-- Two digits have one value, and they are no other pair that is taken. -/
theorem HexPair.eq_of_taken {i : Fin 6} {pair : UInt8 × UInt8} {value value' : UInt8}
    (h : HexPair pair value) (htaken : TakenPair i pair value') : value' = value := by
  obtain ⟨m, n, hm, hn, rfl⟩ := h
  have hx := (hex_digit_eq_some_iff _ m).mpr hm
  rcases htaken with ⟨m', n', hm', hn', rfl⟩ | (⟨hspace | hplus, -⟩ | ⟨hminus, -⟩) | ⟨-, hcut⟩
  · rw [hm.unique hm', hn.unique hn']
  · exact absurd hspace (not_isspace_of_digit hx)
  · rw [hplus, sign_not_digit.1] at hx
    cases hx
  · rw [hminus, sign_not_digit.2] at hx
    cases hx
  · obtain ⟨-, -, hnone, -⟩ := hcut
    exact absurd hn (hnone n)

/-- **When a text is taken for what it is**: if it is not a loose text. -/
theorem exact_iff_not_looseText (text : c_string) :
    (∀ mac, parse_mac_address (some text) = .ok mac ↔ MacText text mac) ↔ ¬ LooseText text := by
  constructor
  · rintro hexact ⟨pairs, rfl, htaken, i, hloose⟩
    choose value hvalue using htaken
    have hparse := (parse_mac_address_ok_iff (mac_text pairs) (Vector.ofFn value)).mpr
      ⟨pairs, rfl, fun i => by
        rw [Fin.getElem_fin, Vector.getElem_ofFn]
        exact hvalue i⟩
    obtain ⟨pairs', hpairs, hmac⟩ := (hexact _).mp hparse
    rw [mac_text_injective hpairs] at hloose
    exact hloose _ (hmac i)
  · intro hnot mac
    rw [parse_mac_address_ok_iff]
    constructor
    · rintro ⟨pairs, rfl, htaken⟩
      refine ⟨pairs, rfl, fun i => ?_⟩
      by_contra hne
      refine hnot ⟨pairs, rfl, fun i => ⟨_, htaken i⟩, i, fun value hvalue => hne ?_⟩
      rw [hvalue.eq_of_taken (htaken i)]
      exact hvalue
    · rintro ⟨pairs, rfl, hmac⟩
      exact ⟨pairs, rfl, fun i => .inl (hmac i)⟩

/-- `"%02X:%02X:%02X:%02X:%02X:%02X"`. -/
def format_mac (mac : mac_t) : c_string :=
  mac_text fun i => (upper_digit (mac[i].toNat / 16), upper_digit (mac[i].toNat % 16))

/-- A formatted address is the text of the address. -/
theorem macText_format_mac (mac : mac_t) : MacText (format_mac mac) mac := by
  refine ⟨_, rfl, fun i => ⟨mac[i].toNat / 16, mac[i].toNat % 16, ?_, ?_, ?_⟩⟩
  · have hlt := mac[i].toNat_lt
    exact isDigit_upper_digit (by omega)
  · exact isDigit_upper_digit (Nat.mod_lt _ (by decide))
  · rw [Nat.div_add_mod, UInt8.ofNat_toNat]

theorem MacText.parse {text : c_string} {mac : mac_t} (h : MacText text mac) :
    parse_mac_address (some text) = .ok mac := by
  obtain ⟨pairs, rfl, hpairs⟩ := h
  exact (parse_mac_address_ok_iff _ mac).mpr ⟨pairs, rfl, fun i => .inl (hpairs i)⟩

/-- **Textual addresses.** A text is parsed exactly, by both copies of the function, and gives
back the address that it is formatted from, if and only if it is not a loose text. -/
theorem mac_text_exact (text : c_string) :
    ((∀ mac, parse_mac_address (some text) = .ok mac ↔ MacText text mac) ∧
        (∀ mac, format_mac mac = text → parse_mac_address (some text) = .ok mac) ∧
        WifiGateway.parse_mac_address (some text) = parse_mac_address (some text)) ↔
      ¬ LooseText text := by
  rw [← exact_iff_not_looseText]
  constructor
  · exact And.left
  · intro hexact
    refine ⟨hexact, ?_, WifiGateway.parse_mac_address_eq (some text)⟩
    -- a formatted address is never a loose text
    rintro mac rfl
    exact (macText_format_mac mac).parse

/-- The text ` 2:00:00:00:00:00` is taken for an address, and it is the text of none. -/
theorem mac_text_exact_blank :
    parse_mac_address (some (c_str " 2:00:00:00:00:00")) = .ok #v[2, 0, 0, 0, 0, 0] ∧
      ∀ mac, ¬ MacText (c_str " 2:00:00:00:00:00") mac := by
  refine ⟨by decide +kernel, ?_⟩
  rintro mac ⟨pairs, htext, hpairs⟩
  obtain ⟨m, -, hm, -, -⟩ := hpairs 0
  have hfirst : (pairs 0).1 = 0x20 := (List.cons.inj htext).1.symm
  rw [hfirst] at hm
  exact absurd hm.ge (by decide)

end WifiManager.ClientAccess
