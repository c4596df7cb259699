/-
The part of the C string library that text protocols are scanned with.

A string is the list of its bytes without the terminator. Functions that return a
pointer into their argument return the rest of the string from there on, so that the
length of the result says where it points.
-/
import Mathlib.Data.List.TakeWhile
import Mathlib.Tactic.Linarith

set_option autoImplicit false

namespace WifiManager.Lib.CString

/-- The string in a buffer: the bytes in front of the first NUL. -/
def of_buffer (bytes : List UInt8) : List UInt8 := bytes.takeWhile (· ≠ 0)

/-- A text without NUL is the string of its buffer. -/
theorem of_buffer_eq_self {text : List UInt8} (h : 0 ∉ text) : of_buffer text = text := by
  rw [of_buffer, List.takeWhile_eq_self_iff]
  intro c hc
  rw [decide_eq_true_eq]
  exact fun hzero => h (hzero ▸ hc)

/-- A text in a larger buffer that was zeroed. -/
theorem of_buffer_append_zeros {text : List UInt8} (h : 0 ∉ text) (zeros : ℕ) :
    of_buffer (text ++ List.replicate zeros 0) = text := by
  have hzeros : (List.replicate zeros (0 : UInt8)).takeWhile (· ≠ 0) = [] := by
    cases zeros with
    | zero => rfl
    | succ zeros => rfl
  have hkept : ∀ c ∈ text, decide (c ≠ 0) = true := by
    intro c hc
    rw [decide_eq_true_eq]
    exact fun hzero => h (hzero ▸ hc)
  rw [of_buffer, List.takeWhile_append_of_pos hkept, hzeros, List.append_nil]

/-- What `snprintf(output, size, "%s", text)` leaves in the output. -/
def snprintf_s (size : ℕ) (text : List UInt8) : List UInt8 := text.take (size - 1)

theorem snprintf_s_eq_self {size : ℕ} {text : List UInt8} (h : text.length < size) :
    snprintf_s size text = text :=
  List.take_of_length_le (by omega)

/-- A statement about a byte is one about the numbers below 256. -/
theorem forall_byte {P : UInt8 → Prop} (h : ∀ n : Fin 256, P (UInt8.ofNat n.val))
    (c : UInt8) : P c := by
  have hc := h ⟨c.toNat, c.toNat_lt⟩
  rwa [UInt8.ofNat_toNat] at hc

/-- `strstr`: the string from the first occurrence of the pattern on. -/
def strstr (text pattern : List UInt8) : Option (List UInt8) :=
  match text with
  | [] => if pattern = [] then some [] else none
  | c :: rest =>
      if pattern.isPrefixOf (c :: rest) then some (c :: rest) else strstr rest pattern

/-- What stands behind the first occurrence of the pattern. -/
def behind (text pattern : List UInt8) : Option (List UInt8) :=
  (strstr text pattern).map fun start => start.drop pattern.length

section Behind

variable {pattern : List UInt8}

theorem behind_nil (h : pattern ≠ []) : behind [] pattern = none := by
  rw [behind, strstr, if_neg h]
  rfl

/-- The pattern at the front. -/
theorem behind_append (h : pattern ≠ []) (rest : List UInt8) :
    behind (pattern ++ rest) pattern = some rest := by
  obtain ⟨c, more, rfl⟩ := List.exists_cons_of_ne_nil h
  have hprefix : (c :: more).isPrefixOf (c :: (more ++ rest)) = true :=
    List.isPrefixOf_iff_prefix.mpr (List.prefix_append (c :: more) rest)
  rw [behind, List.cons_append, strstr, if_pos hprefix, Option.map_some, ← List.cons_append,
    List.drop_left]

/-- **A beginning in which the pattern does not start** is passed over. -/
theorem behind_skip {front back : List UInt8}
    (h : ∀ passed rest, front = passed ++ rest → rest ≠ [] → ¬ pattern <+: rest ++ back) :
    behind (front ++ back) pattern = behind back pattern := by
  induction front with
  | nil => rfl
  | cons c front ih =>
      have hhere : ¬ pattern.isPrefixOf (c :: (front ++ back)) = true := by
        rw [List.isPrefixOf_iff_prefix]
        exact h [] (c :: front) rfl (List.cons_ne_nil c front)
      have hnext := ih fun passed rest hfront => h (c :: passed) rest (by rw [hfront]; rfl)
      rw [← hnext, behind, List.cons_append, strstr, if_neg hhere]
      rfl

/-- A beginning without the first character of the pattern. -/
theorem behind_skip_of_notMem {c : UInt8} {more front : List UInt8} (h : c ∉ front)
    (back : List UInt8) : behind (front ++ back) (c :: more) = behind back (c :: more) := by
  apply behind_skip
  intro passed rest hfront hrest hpattern
  obtain ⟨d, rest, rfl⟩ := List.exists_cons_of_ne_nil hrest
  rw [List.cons_append, List.cons_prefix_cons] at hpattern
  apply h
  rw [hfront, hpattern.1]
  exact List.mem_append_right _ List.mem_cons_self

end Behind

/-- The string in front of the first occurrence of a character, if there is one: what
`strchr` measures. -/
def before_chr (text : List UInt8) (c : UInt8) : Option (List UInt8) :=
  if c ∈ text then some (text.takeWhile (· ≠ c)) else none

/-- A buffer that starts with a text and the character behind it. -/
theorem before_chr_eq_some {text buffer : List UInt8} {c : UInt8} (h : c ∉ text)
    (hbuffer : text ++ [c] <+: buffer) : before_chr buffer c = some text := by
  obtain ⟨rest, rfl⟩ := hbuffer
  rw [List.append_assoc, List.singleton_append, before_chr, if_pos (by simp),
    List.takeWhile_append_of_pos fun d hd => ?_, List.takeWhile_cons_of_neg (by simp),
    List.append_nil]
  have hne : d ≠ c := fun heq => h (heq ▸ hd)
  simpa using hne

/-- The character is in the buffer, perhaps not for the first time. -/
theorem before_chr_append (text : List UInt8) (c : UInt8) (more : List UInt8) :
    before_chr (text ++ c :: more) c = some (text.takeWhile (· ≠ c)) := by
  rw [before_chr, if_pos (List.mem_append_right _ List.mem_cons_self), List.takeWhile_append]
  split
  · rename_i hlength
    rw [List.takeWhile_cons_of_neg (by simp), List.append_nil]
    exact congrArg some (List.IsPrefix.eq_of_length (List.takeWhile_prefix _) hlength).symm
  · rfl

/-- The string behind the last occurrence of a character: what `strrchr` points in
front of. -/
def after_last_chr (text : List UInt8) (c : UInt8) : Option (List UInt8) :=
  if c ∈ text then some (text.reverse.takeWhile (· ≠ c)).reverse else none

theorem after_last_chr_append {c : UInt8} {last : List UInt8} (h : c ∉ last) (front : List UInt8) :
    after_last_chr (front ++ c :: last) c = some last := by
  have hlast : ∀ d ∈ last.reverse, decide (d ≠ c) = true := by
    intro d hd
    rw [decide_eq_true_eq]
    exact fun heq => h (heq ▸ List.mem_reverse.mp hd)
  rw [after_last_chr, if_pos (List.mem_append_right _ List.mem_cons_self), List.reverse_append,
    List.reverse_cons, List.append_assoc, List.takeWhile_append_of_pos hlast, List.singleton_append,
    List.takeWhile_cons_of_neg (by simp), List.append_nil, List.reverse_reverse]

/-! ## `strtoll` -/

/-- `isspace` in the C locale. -/
def isspace (c : UInt8) : Bool := c = 0x20 ∨ (0x09 ≤ c ∧ c ≤ 0x0D)

/-- `isdigit`. -/
def isdigit (c : UInt8) : Bool := 0x30 ≤ c ∧ c ≤ 0x39

/-- The value of decimal digits. -/
def of_digits (digits : List UInt8) : ℕ :=
  digits.foldl (fun value c => value * 10 + (c.toNat - 0x30)) 0

/-- `strtoll` to base 10: `none` if nothing is converted or the value is out of range.
The rest of the string is not looked at. -/
def strtoll (text : List UInt8) : Option ℤ :=
  let text := text.dropWhile isspace
  let (negative, text) :=
    match text with
    | 0x2D :: rest => (true, rest)
    | 0x2B :: rest => (false, rest)
    | _ => (false, text)
  let digits := text.takeWhile isdigit
  if digits = [] then none
  else
    let value : ℤ := if negative then -(of_digits digits : ℤ) else of_digits digits
    if value < -(2 ^ 63 : ℤ) ∨ (2 ^ 63 : ℤ) ≤ value then none else some value

example : strtoll [0x20, 0x2D, 0x34, 0x32, 0x2C] = some (-42) := by decide

/-- The sign in front of a number, and what stands behind it. -/
def split_sign (text : List UInt8) : Bool × List UInt8 :=
  match text with
  | 0x2D :: rest => (true, rest)
  | 0x2B :: rest => (false, rest)
  | _ => (false, text)

theorem split_sign_eq_self {c : UInt8} (hminus : c ≠ 0x2D) (hplus : c ≠ 0x2B)
    (rest : List UInt8) : split_sign (c :: rest) = (false, c :: rest) := by
  unfold split_sign
  split
  · exact absurd (List.cons.inj ‹_›).1 hminus
  · exact absurd (List.cons.inj ‹_›).1 hplus
  · rfl

theorem split_sign_append (c : UInt8) (rest more : List UInt8) :
    split_sign (c :: rest ++ more)
      = ((split_sign (c :: rest)).1, (split_sign (c :: rest)).2 ++ more) := by
  by_cases hminus : c = 0x2D
  · rw [hminus]
    rfl
  · by_cases hplus : c = 0x2B
    · rw [hplus]
      rfl
    · rw [List.cons_append, split_sign_eq_self hminus hplus, split_sign_eq_self hminus hplus,
        List.cons_append]

/-- The value of digits with a sign. -/
def convert (negative : Bool) (digits : List UInt8) : Option ℤ :=
  if digits = [] then none
  else
    let value : ℤ := if negative then -(of_digits digits : ℤ) else of_digits digits
    if value < -(2 ^ 63 : ℤ) ∨ (2 ^ 63 : ℤ) ≤ value then none else some value

theorem strtoll_eq (text : List UInt8) :
    strtoll text = convert (split_sign (text.dropWhile isspace)).1
      ((split_sign (text.dropWhile isspace)).2.takeWhile isdigit) := rfl

/-- White space in front is skipped. -/
theorem strtoll_skip_spaces {spaces : List UInt8} (h : ∀ c ∈ spaces, isspace c = true)
    (text : List UInt8) : strtoll (spaces ++ text) = strtoll text := by
  rw [strtoll_eq, strtoll_eq, List.dropWhile_append_of_pos h]

theorem strtoll_of_not_space {c : UInt8} (hspace : isspace c = false) (rest : List UInt8) :
    strtoll (c :: rest) = convert (split_sign (c :: rest)).1
      ((split_sign (c :: rest)).2.takeWhile isdigit) := by
  rw [strtoll_eq, List.dropWhile_cons_of_neg (by rw [hspace]; exact Bool.false_ne_true)]

/-- Nothing is converted where neither a digit nor a sign comes first. -/
theorem strtoll_eq_none {c : UInt8} (hspace : isspace c = false) (hdigit : isdigit c = false)
    (hminus : c ≠ 0x2D) (hplus : c ≠ 0x2B) (rest : List UInt8) : strtoll (c :: rest) = none := by
  rw [strtoll_of_not_space hspace, split_sign_eq_self hminus hplus,
    List.takeWhile_cons_of_neg (by rw [hdigit]; exact Bool.false_ne_true)]
  rfl

/-- Digits end where something else follows. -/
theorem takeWhile_isdigit_append {more : List UInt8}
    (hmore : ∀ c ∈ more.head?, isdigit c = false) (text : List UInt8) :
    (text ++ more).takeWhile isdigit = text.takeWhile isdigit := by
  have hnone : more.takeWhile isdigit = [] := by
    cases more with
    | nil => rfl
    | cons c more =>
        apply List.takeWhile_cons_of_neg
        rw [hmore c rfl]
        exact Bool.false_ne_true
  rw [List.takeWhile_append]
  split
  · rename_i hlength
    rw [hnone, List.append_nil]
    exact (List.IsPrefix.eq_of_length (List.takeWhile_prefix _) hlength).symm
  · rfl

/-- **What follows a number is not looked at.** -/
theorem strtoll_append {c : UInt8} {rest more : List UInt8} (hspace : isspace c = false)
    (hmore : ∀ c ∈ more.head?, isdigit c = false) :
    strtoll (c :: rest ++ more) = strtoll (c :: rest) := by
  rw [List.cons_append, strtoll_of_not_space hspace, strtoll_of_not_space hspace,
    ← List.cons_append, split_sign_append, takeWhile_isdigit_append hmore]

end WifiManager.Lib.CString
