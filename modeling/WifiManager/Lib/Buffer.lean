/-
Buffers of a fixed size, and arithmetic that stays in its range.

A buffer is the list of its elements. `load` and `store` give `none` where the access would
leave the buffer, `int_add` where the sum would leave the range of `int`, and `size_sub` where
a difference of lengths would wrap around, so that a function written with them has a result
exactly if nothing of this happens. What a program
keeps at the front of a buffer is a prefix of the list: `store_append` says that storing
behind it makes the prefix longer and leaves the size alone.
-/
import Mathlib.Data.Int.Notation
import Mathlib.Data.List.Basic

set_option autoImplicit false

namespace WifiManager.Lib.Buffer

variable {α : Type*}

/-- Read from a buffer. -/
def load (buffer : List α) (offset length : ℕ) : Option (List α) :=
  if offset + length ≤ buffer.length then some ((buffer.drop offset).take length) else none

/-- Write into a buffer. -/
def store (buffer : List α) (offset : ℕ) (content : List α) : Option (List α) :=
  if offset + content.length ≤ buffer.length then
    some (buffer.take offset ++ content ++ buffer.drop (offset + content.length))
  else none

/-- Add two values of type `int`. -/
def int_add (a b : ℤ) : Option ℤ :=
  if -2147483648 ≤ a + b ∧ a + b ≤ 2147483647 then some (a + b) else none

/-- Subtract two values of type `size_t`. -/
def size_sub (a b : ℕ) : Option ℕ :=
  if b ≤ a then some (a - b) else none

theorem size_sub_eq_some {a b : ℕ} (h : b ≤ a) : size_sub a b = some (a - b) :=
  if_pos h

theorem load_eq_some {buffer : List α} {offset length : ℕ}
    (h : offset + length ≤ buffer.length) :
    load buffer offset length = some ((buffer.drop offset).take length) :=
  if_pos h

/-- What is at the front of a buffer can be read back. -/
theorem load_prefix {content buffer : List α} (h : content <+: buffer) :
    load buffer 0 content.length = some content := by
  rw [load_eq_some (by rw [Nat.zero_add]; exact h.length_le), List.drop_zero]
  exact congrArg some (List.prefix_iff_eq_take.mp h).symm

/-- An element of what is at the front of a buffer. -/
theorem getElem?_front {held buffer : List α} (h : held <+: buffer) {i : ℕ}
    (hi : i < held.length) (default : α) : buffer[i]? = some (held.getD i default) := by
  obtain ⟨rest, rfl⟩ := h
  rw [List.getElem?_append_left hi, List.getD_eq_getElem?_getD, List.getElem?_eq_getElem hi,
    Option.getD_some]

/-- **Storing behind what a buffer holds.** -/
theorem store_append {held buffer : List α} (hheld : held <+: buffer) (content : List α)
    (hroom : held.length + content.length ≤ buffer.length) :
    ∃ stored, store buffer held.length content = some stored ∧
      stored.length = buffer.length ∧ held ++ content <+: stored := by
  refine ⟨_, if_pos hroom, ?_, ?_⟩
  · rw [List.length_append, List.length_append, List.length_take, List.length_drop]
    omega
  · rw [← List.prefix_iff_eq_take.mp hheld]
    exact List.prefix_append _ _

/-- Storing at the front. -/
theorem store_front {buffer : List α} (content : List α)
    (hroom : content.length ≤ buffer.length) :
    ∃ stored, store buffer 0 content = some stored ∧ stored.length = buffer.length ∧
      content <+: stored := by
  have h := store_append (List.nil_prefix (l := buffer)) content
    (by rw [List.length_nil]; omega)
  rwa [List.length_nil, List.nil_append] at h

/-- Storing at the front of a buffer of equal elements. -/
theorem store_replicate {size : ℕ} {content : List α} (a : α) (hroom : content.length ≤ size) :
    store (List.replicate size a) 0 content
      = some (content ++ List.replicate (size - content.length) a) := by
  rw [store, if_pos (by rw [List.length_replicate]; omega), List.take_zero, List.nil_append,
    Nat.zero_add, List.drop_replicate]

theorem int_add_eq_some {a b : ℤ} (hlow : -2147483648 ≤ a + b) (hhigh : a + b ≤ 2147483647) :
    int_add a b = some (a + b) :=
  if_pos ⟨hlow, hhigh⟩

end WifiManager.Lib.Buffer
