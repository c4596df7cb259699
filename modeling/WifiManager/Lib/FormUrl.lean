/-
Values of forms: `application/x-www-form-urlencoded`.

`Encodes` is the relation between a value and the texts that stand for it: each byte as
itself, the space as a plus, and any byte as a percent sign and two digits. NUL has no
encoding, and is in no text. A text takes at most three characters for a byte
(`Encodes.length_le`), which is what buffers for it are sized by. A query is the texts of several
values, each behind its key; it is read back as the keys and the texts (`fields_query`).
-/
import Mathlib.Data.List.Basic
import WifiManager.Lib.Hex

set_option autoImplicit false

namespace WifiManager.Lib.FormUrl

open Hex

abbrev plus : UInt8 := 0x2B
abbrev percent : UInt8 := 0x25
abbrev space : UInt8 := 0x20
abbrev ampersand : UInt8 := 0x26
abbrev equals : UInt8 := 0x3D

/-- The text stands for the value. -/
inductive Encodes : List UInt8 → List UInt8 → Prop
  | nil : Encodes [] []
  | literal {c : UInt8} {text value : List UInt8} (hnul : c ≠ 0) (hplus : c ≠ plus)
      (hpercent : c ≠ percent) (h : Encodes text value) : Encodes (c :: text) (c :: value)
  | plus {text value : List UInt8} (h : Encodes text value) :
      Encodes (plus :: text) (space :: value)
  | percent {high low : UInt8} {m n : ℕ} {text value : List UInt8} (hhigh : IsDigit high m)
      (hlow : IsDigit low n) (hnul : 16 * m + n ≠ 0) (h : Encodes text value) :
      Encodes (percent :: high :: low :: text) (UInt8.ofNat (16 * m + n) :: value)

namespace Encodes

/-- The value is not longer than the text, and the text at most three times as long. -/
theorem length_le {text value : List UInt8} (h : Encodes text value) :
    value.length ≤ text.length ∧ text.length ≤ 3 * value.length := by
  induction h with
  | nil => exact ⟨Nat.le_refl _, Nat.le_refl _⟩
  | literal _ _ _ _ ih =>
      rw [List.length_cons, List.length_cons]
      omega
  | plus _ ih =>
      rw [List.length_cons, List.length_cons]
      omega
  | percent _ _ _ _ ih =>
      simp only [List.length_cons]
      omega

/-- The text is a string. -/
theorem nul_notMem {text value : List UInt8} (h : Encodes text value) : 0 ∉ text := by
  induction h with
  | nil => exact List.not_mem_nil
  | literal hnul _ _ _ ih => exact fun hmem => (List.mem_cons.mp hmem).elim hnul.symm ih
  | plus _ ih => exact fun hmem => (List.mem_cons.mp hmem).elim (by decide) ih
  | percent hhigh hlow _ _ ih =>
      intro hmem
      simp only [List.mem_cons] at hmem
      rcases hmem with hpercent | rfl | rfl | hmem
      · exact absurd hpercent (by decide)
      · exact absurd hhigh.ge (by decide)
      · exact absurd hlow.ge (by decide)
      · exact ih hmem

/-- Most characters stand for themselves. -/
theorem literals {text : List UInt8} (h : ∀ c ∈ text, c ≠ 0 ∧ c ≠ FormUrl.plus ∧
    c ≠ FormUrl.percent) : Encodes text text := by
  induction text with
  | nil => exact .nil
  | cons c text ih =>
      obtain ⟨hnul, hplus, hpercent⟩ := h c List.mem_cons_self
      exact .literal hnul hplus hpercent (ih fun d hd => h d (List.mem_cons_of_mem c hd))

end Encodes

/-! ## Queries -/

/-- The text in front of the first occurrence of a character, and behind it. -/
def cut_at (c : UInt8) (text : List UInt8) : List UInt8 × List UInt8 :=
  (text.takeWhile (· ≠ c), (text.dropWhile (· ≠ c)).drop 1)

theorem cut_at_append {c : UInt8} {front : List UInt8} (h : c ∉ front) (back : List UInt8) :
    cut_at c (front ++ c :: back) = (front, back) := by
  have hkept : ∀ d ∈ front, decide (d ≠ c) = true := by
    intro d hd
    rw [decide_eq_true_eq]
    rintro rfl
    exact h hd
  rw [cut_at, List.takeWhile_append_of_pos hkept, List.dropWhile_append_of_pos hkept,
    List.takeWhile_cons_of_neg (by simp), List.dropWhile_cons_of_neg (by simp), List.append_nil]
  rfl

/-- Keys and texts. -/
def query (members : List (List UInt8 × List UInt8)) : List UInt8 :=
  [ampersand].intercalate (members.map fun member => member.1 ++ equals :: member.2)

/-- The keys and the texts of a query. -/
def fields (text : List UInt8) : List (List UInt8 × List UInt8) :=
  (text.splitOn ampersand).map (cut_at equals)

/-- **A query is read back.** -/
theorem fields_query {members : List (List UInt8 × List UInt8)} (hne : members ≠ [])
    (h : ∀ member ∈ members, equals ∉ member.1 ∧ ampersand ∉ member.1 ∧ ampersand ∉ member.2) :
    fields (query members) = members := by
  have hpieces : ∀ piece ∈ members.map (fun member => member.1 ++ equals :: member.2),
      ampersand ∉ piece := by
    intro piece hpiece hmem
    obtain ⟨member, hmember, rfl⟩ := List.mem_map.mp hpiece
    obtain ⟨-, hkey, htext⟩ := h member hmember
    simp only [List.mem_append, List.mem_cons] at hmem
    rcases hmem with hmem | hmem | hmem
    · exact hkey hmem
    · exact absurd hmem (by decide)
    · exact htext hmem
  rw [fields, query, List.splitOn_intercalate ampersand hpieces (by simpa using hne),
    List.map_map]
  refine (List.map_congr_left fun member hmember => ?_).trans (List.map_id members)
  exact cut_at_append (h member hmember).1 member.2

end WifiManager.Lib.FormUrl
