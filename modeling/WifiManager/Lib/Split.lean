/-
Lists cut at a separator.

`List.splitOn` is injective, so a list may be read as the list of its parts. The parts of
one list are the last parts of another one exactly if the lists are equal or the one is a
suffix of the other behind a separator (`splitOn_suffix_iff`): this is how a comparison
of parts is done on the lists themselves.
-/
import Mathlib.Data.List.Basic

set_option autoImplicit false

namespace WifiManager.Lib.Split

variable {α : Type*}

theorem intercalate_append (a : α) {front back : List (List α)} (hfront : front ≠ [])
    (hback : back ≠ []) :
    [a].intercalate (front ++ back) = [a].intercalate front ++ a :: [a].intercalate back := by
  induction front with
  | nil => exact absurd rfl hfront
  | cons part front ih =>
      by_cases hlast : front = []
      · subst hlast
        obtain ⟨next, back, rfl⟩ := List.exists_cons_of_ne_nil hback
        rw [List.singleton_append, List.intercalate_cons_cons, List.intercalate_singleton,
          List.append_assoc, List.singleton_append]
      · obtain ⟨next, front, rfl⟩ := List.exists_cons_of_ne_nil hlast
        rw [List.cons_append, List.cons_append, List.intercalate_cons_cons,
          List.intercalate_cons_cons, ← List.cons_append, ih hlast, List.append_assoc,
          List.append_assoc, List.append_assoc]

variable [BEq α] [LawfulBEq α] (a : α)

/-- Lists with the same parts are equal. -/
theorem splitOn_injective {xs ys : List α} (h : xs.splitOn a = ys.splitOn a) : xs = ys := by
  have hxs : [a].intercalate (xs.splitOn a) = xs := List.intercalate_splitOn a
  rw [← hxs, h, List.intercalate_splitOn]

/-- **Suffixes of the list of parts.** -/
theorem splitOn_suffix_iff (xs ys : List α) :
    xs.splitOn a <:+ ys.splitOn a ↔ xs = ys ∨ a :: xs <:+ ys := by
  constructor
  · rintro ⟨front, hfront⟩
    by_cases hempty : front = []
    · rw [hempty, List.nil_append] at hfront
      exact .inl (splitOn_injective a hfront)
    · refine .inr ⟨[a].intercalate front, ?_⟩
      have hys : [a].intercalate (ys.splitOn a) = ys := List.intercalate_splitOn a
      rw [← hys, ← hfront,
        intercalate_append a hempty (List.splitOn_ne_nil a xs), List.intercalate_splitOn]
  · rintro (rfl | ⟨front, rfl⟩)
    · exact List.suffix_rfl
    · rw [List.splitOn_append_cons_self]
      exact List.suffix_append _ _

/-- What comes in front of the first separator is the beginning of a part. -/
theorem exists_part_prefix {front : List α} (h : a ∉ front) (back : List α) :
    ∃ part ∈ (front ++ back).splitOn a, front <+: part := by
  by_cases hmem : a ∈ back
  · obtain ⟨first, rest, rfl, hfirst⟩ := List.eq_append_cons_of_mem hmem
    have hnone : a ∉ front ++ first := fun hbad => (List.mem_append.mp hbad).elim h hfirst
    refine ⟨front ++ first, ?_, List.prefix_append _ _⟩
    rw [← List.append_assoc, List.splitOn_append_cons_self_of_not_mem hnone]
    exact List.mem_cons_self
  · have hnone : a ∉ front ++ back := fun hbad => (List.mem_append.mp hbad).elim h hmem
    refine ⟨front ++ back, ?_, List.prefix_append _ _⟩
    rw [List.splitOn_eq_singleton hnone]
    exact List.mem_cons_self

end WifiManager.Lib.Split
