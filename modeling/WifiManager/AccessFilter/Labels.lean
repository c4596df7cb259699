/-
Host names as lists of labels.

`normalize_hostname` checks the labels of a name while it copies it, and a rule is compared
with a name byte by byte from the back. Here both are read on the labels
(`List.splitOn dot`):

1. `normalize_hostname_ok_iff`: a name is accepted if and only if it is a `ValidHostname`
   without one trailing dot. The induction is on the bytes, with the label under way.
2. `rule_matches_iff`: a rule matches if and only if its labels are the last labels of the
   name.
-/
import WifiManager.Lib.Split
import WifiManager.AccessFilter.Hostname

set_option autoImplicit false

namespace WifiManager.AccessFilter

open WifiManager.Lib
open WifiManager.TlsSniParser (tolower)

/-! ## Valid names -/

/-- An ASCII letter, a digit or a hyphen. -/
def label_byte (value : UInt8) : Bool := is_ascii_letter_or_digit value || value = hyphen

/-- A label: 1 to 63 letters, digits and hyphens, with no hyphen at either end. -/
structure ValidLabel (label : List UInt8) : Prop where
  length_pos : 1 ≤ label.length
  length_le : label.length ≤ 63
  bytes : ∀ value ∈ label, label_byte value = true
  head : label.head? ≠ some hyphen
  last : label.getLast? ≠ some hyphen

/-- A host name: 1 to 253 bytes, dots between labels. -/
structure ValidHostname (name : c_string) : Prop where
  length_pos : 1 ≤ name.length
  length_le : name.length ≤ 253
  labels : ∀ label ∈ name.splitOn dot, ValidLabel label

/-- A name without one trailing dot. -/
def without_trailing_dot (name : c_string) : c_string :=
  if name.getLast? = some dot then name.dropLast else name

theorem canonical_eq (name : c_string) :
    canonical name = (without_trailing_dot name).map tolower := rfl

/-! ## The loop -/

/-- The part of a label that the loop has copied. -/
structure LabelPart (part : List UInt8) : Prop where
  length_le : part.length ≤ 63
  bytes : ∀ value ∈ part, label_byte value = true
  head : part.head? ≠ some hyphen

theorem labelPart_nil : LabelPart [] where
  length_le := Nat.zero_le _
  bytes := fun value hvalue => absurd hvalue List.not_mem_nil
  head := by simp

theorem dot_not_label_byte : label_byte dot = false := by decide

theorem LabelPart.no_dot {part : List UInt8} (h : LabelPart part) : dot ∉ part :=
  fun hmem => Bool.false_ne_true (dot_not_label_byte.symm.trans (h.bytes dot hmem))

/-- A part of a label is one if it is not empty and has no hyphen at its end. -/
theorem LabelPart.valid_iff {part : List UInt8} (h : LabelPart part) :
    ValidLabel part ↔ ¬ (part.length = 0 ∨ part.getLast? = some hyphen) := by
  constructor
  · intro hvalid hbad
    rcases hbad with hempty | hlast
    · have hpos := hvalid.length_pos
      omega
    · exact hvalid.last hlast
  · intro hgood
    push Not at hgood
    exact ⟨Nat.one_le_iff_ne_zero.mpr hgood.1, h.length_le, h.bytes, h.head, hgood.2⟩

/-- What a valid label begins with. -/
theorem ValidLabel.part {label part : List UInt8} (h : ValidLabel label) (hpart : part <+: label)
    (hne : part ≠ []) : LabelPart part where
  length_le := Nat.le_trans hpart.length_le h.length_le
  bytes := fun value hvalue => h.bytes value (hpart.subset hvalue)
  head := by
    obtain ⟨rest, rfl⟩ := hpart
    have hhead := h.head
    rwa [List.head?_append_of_ne_nil _ hne] at hhead

/-- The byte that the loop looks back at is the last one of the label under way. -/
theorem getLast?_output {front part : List UInt8} (hne : part ≠ []) :
    (front ++ part.map tolower).getLast? = some hyphen ↔ part.getLast? = some hyphen := by
  rw [List.getLast?_append_of_ne_nil _ (by simpa using hne), List.getLast?_map]
  cases part.getLast? with
  | none => simp
  | some value => simp [(tolower_byte value).2.1]

/-- The check at the end of a label, on the output and on the label. -/
theorem label_check (front : List UInt8) {part : List UInt8} (h : LabelPart part) :
    (part.length = 0 ∨ (front ++ part.map tolower).getLast? = some hyphen) ↔ ¬ ValidLabel part := by
  rw [h.valid_iff, not_not]
  by_cases hne : part = []
  · subst hne
    simp
  · rw [getLast?_output hne]

/-- The loop accepts what is left of a name. -/
def Accepts (input : List UInt8) (label_length : ℕ) (output : List UInt8) : Prop :=
  ∃ text last_length, normalize_loop input label_length output = .ok (text, last_length) ∧
    ¬ (last_length = 0 ∨ text.getLast? = some hyphen)

/-- The checks on a byte other than a dot say that it goes on with the label. -/
theorem labelPart_concat {part : List UInt8} (h : LabelPart part) (value : UInt8) :
    LabelPart (part ++ [value]) ↔
      ¬ (is_ascii_letter_or_digit value = false ∧ value ≠ hyphen) ∧
        ¬ (part.length = 0 ∧ value = hyphen) ∧ ¬ part.length + 1 > 63 := by
  have hbyte : ¬ (is_ascii_letter_or_digit value = false ∧ value ≠ hyphen) ↔
      label_byte value = true := by
    rw [label_byte]
    cases is_ascii_letter_or_digit value <;> simp
  have hhead : (part ++ [value]).head? ≠ some hyphen ↔ ¬ (part.length = 0 ∧ value = hyphen) := by
    rcases part with - | ⟨first, rest⟩
    · simp
    · simpa using h.head
  rw [hbyte, ← hhead]
  constructor
  · intro hconcat
    have hlength := hconcat.length_le
    rw [List.length_append, List.length_singleton] at hlength
    exact ⟨hconcat.bytes value (List.mem_append_right _ (List.mem_singleton_self _)),
      hconcat.head, by omega⟩
  · rintro ⟨hvalue, hfirst, hlength⟩
    refine ⟨?_, ?_, hfirst⟩
    · rw [List.length_append, List.length_singleton]
      omega
    · intro byte hmem
      rcases List.mem_append.mp hmem with hold | hnew
      · exact h.bytes byte hold
      · rw [List.mem_singleton.mp hnew]
        exact hvalue

/-- A byte that does not go on with the label makes the name invalid. -/
theorem not_valid_of_part {part : List UInt8} (h : LabelPart part) {value : UInt8}
    (hdot : value ≠ dot) (hstop : ¬ LabelPart (part ++ [value])) (rest : List UInt8) :
    ¬ ∀ label ∈ (part ++ value :: rest).splitOn dot, ValidLabel label := by
  intro hall
  have hfree : dot ∉ part ++ [value] := by
    intro hmem
    rcases List.mem_append.mp hmem with hold | hnew
    · exact h.no_dot hold
    · exact hdot (List.mem_singleton.mp hnew).symm
  obtain ⟨label, hlabel, hprefix⟩ := Split.exists_part_prefix dot hfree rest
  rw [List.append_assoc, List.singleton_append] at hlabel
  exact hstop ((hall label hlabel).part hprefix (by simp))

theorem not_accepts_error {input output : List UInt8} {label_length : ℕ} {err : esp_err_t}
    (h : normalize_loop input label_length output = .error err) :
    ¬ Accepts input label_length output := by
  rintro ⟨text, last_length, hok, -⟩
  rw [h] at hok
  cases hok

/-- **The loop accepts what consists of valid labels.** The induction is on the bytes that
are left; `part` is the label under way and `front` what was copied before it. -/
theorem accepts_iff (input front : List UInt8) {part : List UInt8} (h : LabelPart part) :
    Accepts input part.length (front ++ part.map tolower) ↔
      ∀ label ∈ (part ++ input).splitOn dot, ValidLabel label := by
  induction input generalizing front part with
  | nil =>
      have hend : Accepts [] part.length (front ++ part.map tolower) ↔ ValidLabel part := by
        rw [← not_iff_not, ← label_check front h, not_iff_comm]
        constructor
        · exact fun hgood => ⟨_, _, rfl, hgood⟩
        · rintro ⟨text, last_length, hok, hgood⟩
          obtain ⟨rfl, rfl⟩ := Prod.mk.inj (Except.ok.inj hok)
          exact hgood
      rw [hend, List.append_nil, List.splitOn_eq_singleton h.no_dot, List.forall_mem_singleton]
  | cons value rest ih =>
      by_cases hdot : value = dot
      · subst hdot
        rw [List.splitOn_append_cons_self_of_not_mem h.no_dot, List.forall_mem_cons]
        by_cases hvalid : ValidLabel part
        · -- the label is complete, the next one begins
          have hnext := ih (front ++ part.map tolower ++ [dot]) labelPart_nil
          rw [List.map_nil, List.append_nil, List.nil_append, List.length_nil] at hnext
          rw [← hnext, and_iff_right hvalid, Accepts, normalize_loop, if_pos rfl,
            if_neg fun hbad => (label_check front h).mp hbad hvalid]
          rfl
        · refine iff_of_false ?_ fun hall => hvalid hall.1
          apply not_accepts_error
          rw [normalize_loop, if_pos rfl, if_pos ((label_check front h).mpr hvalid)]
      · by_cases hgoes : LabelPart (part ++ [value])
        · -- the label goes on
          obtain ⟨hbyte, hfirst, hlength⟩ := (labelPart_concat h value).mp hgoes
          have hnext := ih front hgoes
          rw [List.append_assoc, List.singleton_append, List.map_append, ← List.append_assoc,
            List.length_append] at hnext
          rw [← hnext, Accepts, normalize_loop, if_neg hdot, if_neg hbyte, if_neg hfirst,
            if_neg hlength]
          rfl
        · refine iff_of_false ?_ (not_valid_of_part h hdot hgoes rest)
          apply not_accepts_error
          rw [labelPart_concat h value] at hgoes
          rw [normalize_loop, if_neg hdot]
          split_ifs with hbyte hfirst hlength
          · rfl
          · rfl
          · rfl
          · exact absurd ⟨hbyte, hfirst, hlength⟩ hgoes

/-! ## What is accepted -/

/-- **A name is accepted if and only if it is a host name**, and what comes of it is the name
in lower case. -/
theorem normalize_hostname_ok_iff (input text : c_string) :
    normalize_hostname input = .ok text ↔
      ValidHostname (without_trailing_dot input) ∧ text = canonical input := by
  have hloop := accepts_iff (without_trailing_dot input) [] labelPart_nil
  rw [List.map_nil, List.append_nil, List.nil_append, List.length_nil] at hloop
  have hlast : ∀ output : List UInt8 × ℕ,
      normalize_loop (without_trailing_dot input) 0 [] = .ok output → output.1 = canonical input :=
    fun output houtput => by
      rw [normalize_loop_output houtput, List.nil_append, canonical_eq]
  rw [normalize_hostname, show (if input.getLast? = some dot then input.dropLast else input)
    = without_trailing_dot input from rfl]
  generalize without_trailing_dot input = kept at hloop hlast ⊢
  have hsize : ACCESS_FILTER_HOSTNAME_SIZE = 256 := rfl
  by_cases hlength : kept.length = 0 ∨ kept.length > 253 ∨
      kept.length ≥ ACCESS_FILTER_HOSTNAME_SIZE
  · rw [if_pos hlength]
    refine iff_of_false nofun ?_
    rintro ⟨hvalid, -⟩
    have hpos := hvalid.length_pos
    have hle := hvalid.length_le
    omega
  rw [if_neg hlength]
  constructor
  · intro hok
    cases hresult : normalize_loop kept 0 [] with
    | error err =>
        rw [hresult] at hok
        cases hok
    | ok output =>
        rw [hresult] at hok
        dsimp only at hok
        split_ifs at hok with hend
        refine ⟨⟨by omega, by omega, hloop.mp ⟨_, _, hresult, hend⟩⟩, ?_⟩
        rw [← hlast output hresult]
        exact (Except.ok.inj hok).symm
  · rintro ⟨hvalid, rfl⟩
    obtain ⟨output, last_length, hresult, hend⟩ := hloop.mpr hvalid.labels
    rw [hresult]
    dsimp only
    rw [if_neg hend, ← hlast _ hresult]

/-- A host name ends in a label, not in a dot. -/
theorem ValidHostname.getLast?_ne {name : c_string} (h : ValidHostname name) :
    name.getLast? ≠ some dot := by
  intro hlast
  obtain ⟨front, rfl⟩ := List.getLast?_eq_some_iff.mp hlast
  have hempty := h.labels []
    (by
      rw [List.splitOn_append_cons_self]
      exact List.mem_append_right _ (List.mem_singleton_self _))
  exact absurd hempty.length_pos (by decide)

theorem ValidHostname.without_trailing_dot {name : c_string} (h : ValidHostname name) :
    AccessFilter.without_trailing_dot name = name :=
  if_neg h.getLast?_ne

/-- **Names that are compared alike are normalised alike.** -/
theorem normalize_hostname_congr {name other : c_string} (h : canonical name = canonical other) :
    normalize_hostname name = normalize_hostname other := by
  -- only the bytes without a trailing dot count, and of these only the lower case
  have hkept : ∀ kept : List UInt8, (kept.map tolower).length = kept.length ∧
      normalize_loop (kept.map tolower) 0 [] = normalize_loop kept 0 [] :=
    fun kept => ⟨List.length_map _, normalize_loop_tolower kept 0 []⟩
  have hname := hkept (without_trailing_dot name)
  have hother := hkept (without_trailing_dot other)
  rw [← canonical_eq] at hname hother
  rw [h] at hname
  unfold normalize_hostname
  dsimp only
  rw [show (if name.getLast? = some dot then name.dropLast else name)
      = without_trailing_dot name from rfl,
    show (if other.getLast? = some dot then other.dropLast else other)
      = without_trailing_dot other from rfl, ← hname.1, ← hname.2, hother.1, hother.2]

theorem canonical_tolower (name : c_string) : canonical (name.map tolower) = canonical name := by
  have hlast : (name.map tolower).getLast? = some dot ↔ name.getLast? = some dot := by
    rw [List.getLast?_map]
    cases name.getLast? with
    | none => simp
    | some value => simp [(tolower_byte value).1]
  have htwice : tolower ∘ tolower = tolower := funext fun value => (tolower_byte value).2.2.2
  unfold canonical
  simp only [hlast, ← List.map_dropLast, ← apply_ite, List.map_map, htwice]

/-- **What `normalize_hostname` returns it leaves alone.** -/
theorem normalize_hostname_idempotent {input text : c_string}
    (h : normalize_hostname input = .ok text) : normalize_hostname text = .ok text := by
  obtain ⟨hvalid, rfl⟩ := (normalize_hostname_ok_iff input text).mp h
  have hsame : canonical (without_trailing_dot input) = canonical input := by
    rw [canonical_eq, hvalid.without_trailing_dot, canonical_eq]
  rw [normalize_hostname_congr, h]
  rw [canonical_eq input, canonical_tolower, hsame, canonical_eq]

/-- A name that is not accepted is blocked as soon as there is a rule. -/
theorem is_hostname_blocked_invalid {rules : List c_string} (hrules : rules ≠ [])
    {hostname : c_string} (h : ¬ ValidHostname (without_trailing_dot hostname)) :
    access_filter_is_hostname_blocked rules hostname = true := by
  rw [access_filter_is_hostname_blocked, if_neg hrules]
  cases hnormal : normalize_hostname hostname with
  | error err => rfl
  | ok text => exact absurd ((normalize_hostname_ok_iff hostname text).mp hnormal).1 h

/-! ## Matching -/

/-- **A rule matches if and only if its labels are the last labels of the name.** -/
theorem rule_matches_iff (name rule : c_string) :
    rule_matches name rule = true ↔ rule.splitOn dot <:+ name.splitOn dot := by
  rw [Split.splitOn_suffix_iff]
  constructor
  · intro h
    rw [rule_matches, Bool.or_eq_true, decide_eq_true_eq, decide_eq_true_eq] at h
    rcases h with hsame | ⟨hlonger, hdot, hsuffix⟩
    · exact .inl hsame.symm
    · -- the dot and the rule are the last bytes of the name
      refine .inr ⟨name.take (name.length - rule.length - 1), ?_⟩
      have hcut := List.drop_eq_getElem_cons (l := name)
        (i := name.length - rule.length - 1) (by omega)
      rw [List.getElem?_eq_getElem (by omega), Option.some.injEq] at hdot
      rw [hdot, show name.length - rule.length - 1 + 1 = name.length - rule.length by omega,
        hsuffix] at hcut
      rw [← hcut, List.take_append_drop]
  · rintro (rfl | hbelow)
    · rw [rule_matches, Bool.or_eq_true, decide_eq_true_eq]
      exact .inl rfl
    · exact rule_matches_suffix hbelow

theorem is_hostname_blocked_valid {rules : List c_string} {hostname : c_string}
    (h : ValidHostname (without_trailing_dot hostname)) :
    access_filter_is_hostname_blocked rules hostname = true ↔
      ∃ rule ∈ rules, rule.splitOn dot <:+ (canonical hostname).splitOn dot := by
  have hnormal := (normalize_hostname_ok_iff hostname (canonical hostname)).mpr ⟨h, rfl⟩
  rw [access_filter_is_hostname_blocked, hnormal]
  split_ifs with hrules
  · subst hrules
    simp
  · simp only [List.any_eq_true, rule_matches_iff]

end WifiManager.AccessFilter
