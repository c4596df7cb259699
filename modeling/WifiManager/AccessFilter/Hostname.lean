/-
Host name rules: `normalize_hostname` and `access_filter_is_hostname_blocked`.

Both work on byte strings. The loop of `normalize_hostname` looks back at the byte
it wrote last, which is the last element of the output so far. What a rule is for is
`Names`, which is about texts as they are compared, valid host names or not; that the
rules serve it is `is_hostname_blocked_of_names`.
-/
import Mathlib.Data.List.Basic
import WifiManager.Esp
import WifiManager.Lib.CString
import WifiManager.TlsSniParser.Parser

set_option autoImplicit false

namespace WifiManager.AccessFilter

open WifiManager.Lib
open WifiManager.TlsSniParser (tolower)

abbrev ACCESS_FILTER_HOSTNAME_SIZE : ℕ := 256

/-- The character `.`. -/
abbrev dot : UInt8 := 0x2E

/-- The character `-`. -/
abbrev hyphen : UInt8 := 0x2D

/-- `is_ascii_letter_or_digit`. -/
def is_ascii_letter_or_digit (value : UInt8) : Bool :=
  (0x61 ≤ value && value ≤ 0x7A) || (0x41 ≤ value && value ≤ 0x5A) ||
    (0x30 ≤ value && value ≤ 0x39)

/-- The loop of `normalize_hostname` on the bytes that are left: the output and the
length of the last label. -/
def normalize_loop : List UInt8 → ℕ → List UInt8 → Except esp_err_t (List UInt8 × ℕ)
  | [], label_length, output => .ok (output, label_length)
  | value :: rest, label_length, output =>
      if value = dot then
        -- no empty label, no label that ends in a hyphen
        if label_length = 0 ∨ output.getLast? = some hyphen then .error .ESP_ERR_INVALID_ARG
        else normalize_loop rest 0 (output ++ [dot])
      else if is_ascii_letter_or_digit value = false ∧ value ≠ hyphen then
        .error .ESP_ERR_INVALID_ARG
      else if label_length = 0 ∧ value = hyphen then .error .ESP_ERR_INVALID_ARG
      -- a label has 63 bytes at most
      else if label_length + 1 > 63 then .error .ESP_ERR_INVALID_ARG
      else normalize_loop rest (label_length + 1) (output ++ [tolower value])

/-- `normalize_hostname`, for an argument that is not NULL. -/
def normalize_hostname (input : c_string) : Except esp_err_t c_string :=
  -- one trailing dot is dropped
  let input := if input.getLast? = some dot then input.dropLast else input
  if input.length = 0 ∨ input.length > 253 ∨ input.length ≥ ACCESS_FILTER_HOSTNAME_SIZE then
    .error .ESP_ERR_INVALID_ARG
  else
    match normalize_loop input 0 [] with
    | .error err => .error err
    | .ok (output, label_length) =>
        -- the last label, which no dot has closed
        if label_length = 0 ∨ output.getLast? = some hyphen then .error .ESP_ERR_INVALID_ARG
        else .ok output

/-- The comparison with one rule: the name itself or a name below it. -/
def rule_matches (normalized_hostname rule : c_string) : Bool :=
  let exact_match := decide (normalized_hostname = rule)
  let subdomain_match :=
    decide (normalized_hostname.length > rule.length ∧
      -- the rule is a suffix behind a dot, so `notexample.com` is not below `example.com`
      normalized_hostname[normalized_hostname.length - rule.length - 1]? = some dot ∧
      normalized_hostname.drop (normalized_hostname.length - rule.length) = rule)
  exact_match || subdomain_match

/-- `access_filter_is_hostname_blocked` under the rules installed. A name that
cannot be normalised is blocked as soon as there is a rule. -/
def access_filter_is_hostname_blocked (rules : List c_string) (hostname : c_string) : Bool :=
  if rules = [] then false
  else
    match normalize_hostname hostname with
    | .error _ => true
    | .ok normalized_hostname => rules.any (rule_matches normalized_hostname)

/-! ## Letter case and bytes that no host name has -/

/-- A byte that `normalize_hostname` lets through. -/
def hostname_byte (value : UInt8) : Bool :=
  value = dot || is_ascii_letter_or_digit value || value = hyphen

/-- What `tolower` changes in a byte, seen by the loop of `normalize_hostname`. -/
theorem tolower_byte (value : UInt8) :
    (tolower value = dot ↔ value = dot) ∧ (tolower value = hyphen ↔ value = hyphen) ∧
      is_ascii_letter_or_digit (tolower value) = is_ascii_letter_or_digit value ∧
      tolower (tolower value) = tolower value := by
  revert value
  apply CString.forall_byte
  decide +kernel

theorem normalize_loop_tolower (input : List UInt8) (label_length : ℕ) (output : List UInt8) :
    normalize_loop (input.map tolower) label_length output
      = normalize_loop input label_length output := by
  induction input generalizing label_length output with
  | nil => rfl
  | cons value rest ih =>
      obtain ⟨hdot, hhyphen, hletter, hagain⟩ := tolower_byte value
      rw [List.map_cons, normalize_loop, normalize_loop]
      simp only [hdot, ne_eq, hhyphen, hletter, hagain, ih]

/-- **The letter case of a host name does not matter.** -/
theorem normalize_hostname_tolower (input : c_string) :
    normalize_hostname (input.map tolower) = normalize_hostname input := by
  have hlast : (input.map tolower).getLast? = some dot ↔ input.getLast? = some dot := by
    rw [List.getLast?_map]
    cases input.getLast? with
    | none => simp
    | some value => simp [(tolower_byte value).1]
  unfold normalize_hostname
  simp only [hlast, ← List.map_dropLast, ← apply_ite, List.length_map, normalize_loop_tolower]

theorem is_hostname_blocked_tolower (rules : List c_string) (hostname : c_string) :
    access_filter_is_hostname_blocked rules (hostname.map tolower)
      = access_filter_is_hostname_blocked rules hostname := by
  unfold access_filter_is_hostname_blocked
  rw [normalize_hostname_tolower]

theorem normalize_loop_bytes {input : List UInt8} {label_length : ℕ} {output : List UInt8}
    {result : List UInt8 × ℕ} (h : normalize_loop input label_length output = .ok result) :
    ∀ value ∈ input, hostname_byte value = true := by
  induction input generalizing label_length output with
  | nil => simp
  | cons value rest ih =>
      rw [normalize_loop] at h
      unfold hostname_byte
      split_ifs at h with hdot hlabel hbyte
      · exact List.forall_mem_cons.mpr ⟨by simp [hdot], ih h⟩
      · refine List.forall_mem_cons.mpr ⟨?_, ih h⟩
        cases hletter : is_ascii_letter_or_digit value with
        | true => simp
        | false => simp [not_not.mp fun hne => hbyte ⟨hletter, hne⟩]

/-- **A name with a byte that no host name has** is blocked under any rule. -/
theorem is_hostname_blocked_of_byte {rules : List c_string} (hrules : rules ≠ [])
    {hostname : c_string} {value : UInt8} (hmem : value ∈ hostname)
    (hbyte : hostname_byte value = false) :
    access_filter_is_hostname_blocked rules hostname = true := by
  unfold access_filter_is_hostname_blocked
  rw [if_neg hrules]
  cases hnormal : normalize_hostname hostname with
  | error err => rfl
  | ok text =>
      unfold normalize_hostname at hnormal
      -- the byte is not the trailing dot
      have hkept : value ∈ (if hostname.getLast? = some dot then hostname.dropLast
          else hostname) := by
        split_ifs with hlast
        · obtain ⟨front, rfl⟩ := List.getLast?_eq_some_iff.mp hlast
          rw [List.dropLast_concat]
          rcases List.mem_append.mp hmem with hfront | hdot
          · exact hfront
          · rw [List.mem_singleton.mp hdot] at hbyte
            cases hbyte
        · exact hmem
      generalize (if hostname.getLast? = some dot then hostname.dropLast else hostname) = kept
        at hnormal hkept
      dsimp only at hnormal
      split_ifs at hnormal
      cases hloop : normalize_loop kept 0 [] with
      | error err =>
          rw [hloop] at hnormal
          cases hnormal
      | ok result =>
          rw [normalize_loop_bytes hloop value hkept] at hbyte
          cases hbyte

/-! ## What a rule is for -/

/-- A host name as it is compared: without one trailing dot, in lower case. -/
def canonical (hostname : c_string) : c_string :=
  (if hostname.getLast? = some dot then hostname.dropLast else hostname).map tolower

/-- `hostname` is the host name `rule` or a subdomain of it. -/
def Names (rule hostname : c_string) : Prop :=
  canonical hostname = canonical rule ∨ dot :: canonical rule <:+ canonical hostname

instance (rule hostname : c_string) : Decidable (Names rule hostname) :=
  inferInstanceAs (Decidable (_ ∨ _))

theorem normalize_loop_output {input : List UInt8} {label_length last_length : ℕ}
    {output text : List UInt8}
    (h : normalize_loop input label_length output = .ok (text, last_length)) :
    text = output ++ input.map tolower := by
  induction input generalizing label_length output with
  | nil =>
      simp only [normalize_loop, Except.ok.injEq, Prod.mk.injEq] at h
      rw [List.map_nil, List.append_nil, h.1]
  | cons value rest ih =>
      rw [normalize_loop] at h
      split_ifs at h with hdot
      · rw [ih h, hdot, List.append_assoc]
        rfl
      · rw [ih h, List.append_assoc]
        rfl

/-- What `normalize_hostname` returns is the name as it is compared. -/
theorem normalize_hostname_canonical {input text : c_string}
    (h : normalize_hostname input = .ok text) : text = canonical input := by
  unfold normalize_hostname at h
  unfold canonical
  generalize (if input.getLast? = some dot then input.dropLast else input) = kept at h ⊢
  dsimp only at h
  split_ifs at h
  cases hloop : normalize_loop kept 0 [] with
  | error err =>
      rw [hloop] at h
      cases h
  | ok result =>
      rw [hloop] at h
      dsimp only at h
      split_ifs at h
      rw [← Except.ok.inj h, normalize_loop_output hloop, List.nil_append]

theorem normalize_loop_error {input : List UInt8} {label_length : ℕ} {output : List UInt8}
    {err : esp_err_t} (h : normalize_loop input label_length output = .error err) :
    err = .ESP_ERR_INVALID_ARG := by
  induction input generalizing label_length output with
  | nil => cases h
  | cons value rest ih =>
      rw [normalize_loop] at h
      split_ifs at h
      · exact (Except.error.inj h).symm
      · exact ih h
      · exact (Except.error.inj h).symm
      · exact (Except.error.inj h).symm
      · exact (Except.error.inj h).symm
      · exact ih h

theorem normalize_hostname_error {input : c_string} {err : esp_err_t}
    (h : normalize_hostname input = .error err) : err = .ESP_ERR_INVALID_ARG := by
  unfold normalize_hostname at h
  generalize (if input.getLast? = some dot then input.dropLast else input) = kept at h
  dsimp only at h
  split_ifs at h
  · exact (Except.error.inj h).symm
  · cases hloop : normalize_loop kept 0 [] with
    | error err' =>
        rw [hloop] at h
        exact Except.error.inj h ▸ normalize_loop_error hloop
    | ok result =>
        rw [hloop] at h
        dsimp only at h
        split_ifs at h
        exact (Except.error.inj h).symm

theorem rule_matches_suffix {normalized_hostname rule : c_string}
    (h : dot :: rule <:+ normalized_hostname) : rule_matches normalized_hostname rule = true := by
  obtain ⟨labels, rfl⟩ := h
  have hlength : (labels ++ dot :: rule).length = labels.length + 1 + rule.length := by
    rw [List.length_append, List.length_cons]
    omega
  have hdot : (labels ++ dot :: rule)[labels.length + 1 + rule.length - rule.length - 1]?
      = some dot := by
    rw [List.getElem?_append_right (by omega),
      show labels.length + 1 + rule.length - rule.length - 1 - labels.length = 0 by omega]
    rfl
  have hrule : (labels ++ dot :: rule).drop (labels.length + 1 + rule.length - rule.length)
      = rule := by
    rw [show labels.length + 1 + rule.length - rule.length = labels.length + 1 by omega,
      List.drop_append, List.drop_of_length_le (by omega), Nat.add_sub_cancel_left]
    rfl
  unfold rule_matches
  rw [hlength, hdot, hrule, Bool.or_eq_true, decide_eq_true_eq, decide_eq_true_eq]
  exact .inr ⟨by omega, rfl, rfl⟩

/-- **A rule covers its name and every subdomain**, the invalid ones among them. -/
theorem is_hostname_blocked_of_names {rules : List c_string} {rule hostname : c_string}
    (hrule : canonical rule ∈ rules) (h : Names rule hostname) :
    access_filter_is_hostname_blocked rules hostname = true := by
  unfold access_filter_is_hostname_blocked
  rw [if_neg (List.ne_nil_of_mem hrule)]
  cases hnormal : normalize_hostname hostname with
  | error err => rfl
  | ok normalized_hostname =>
      obtain rfl := normalize_hostname_canonical hnormal
      dsimp only
      rw [List.any_eq_true]
      refine ⟨canonical rule, hrule, ?_⟩
      rcases h with hsame | hbelow
      · rw [rule_matches, Bool.or_eq_true, decide_eq_true_eq]
        exact .inl hsame
      · exact rule_matches_suffix hbelow

end WifiManager.AccessFilter
