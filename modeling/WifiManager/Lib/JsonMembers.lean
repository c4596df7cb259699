/-
Flat JSON objects: the values of their members are texts and integers.

Written without white space such an object shows every key, and nothing but its keys, so a search
finds the member with the key: `visible_string_members` for the texts and
`visible_number_members` for what stands behind the colon in general. With one member for each
key that is the member itself (`findSome_of_mem`).
-/
import WifiManager.Lib.Decimal
import WifiManager.Lib.JsonText

set_option autoImplicit false

namespace WifiManager.Lib.JsonText

open json_token

/-! ## Members -/

inductive member_value
  | text (raw : List UInt8)
  | integer (n : ℤ)
  deriving DecidableEq

def member_value.token : member_value → json_token
  | text raw => .string raw
  | integer n => .scalar (Decimal.decimal_int n)

abbrev json_member := List UInt8 × member_value

/-- The tokens between the braces. -/
def members_tokens : List json_member → List json_token
  | [] => []
  | [member] => [.string member.1, .punct colon, member.2.token]
  | member :: next :: members =>
      .string member.1 :: .punct colon :: member.2.token :: .punct comma
        :: members_tokens (next :: members)

def object_tokens (members : List json_member) : List json_token :=
  .punct 0x7B :: (members_tokens members ++ [.punct 0x7D])

/-- A member as text. -/
def member_text (member : json_member) : List UInt8 :=
  quote :: (member.1 ++ [quote, colon]) ++ member.2.token.text

/-- The object without white space. -/
def compact (members : List json_member) : List UInt8 :=
  0x7B :: ([comma].intercalate (members.map member_text) ++ [0x7D])

/-- A text without NUL that needs no escapes. -/
def Plain (text : List UInt8) : Prop := ∀ c ∈ text, c ≠ 0 ∧ c ≠ quote ∧ c ≠ backslash

instance (text : List UInt8) : Decidable (Plain text) :=
  List.decidableBAll (fun c => c ≠ 0 ∧ c ≠ quote ∧ c ≠ backslash) text

def member_value.Plain : member_value → Prop
  | text raw => JsonText.Plain raw
  | integer _ => True

instance (value : member_value) : Decidable value.Plain := by
  cases value with
  | text raw => exact inferInstanceAs (Decidable (JsonText.Plain raw))
  | integer n => exact inferInstanceAs (Decidable True)

theorem Plain.isRaw {text : List UInt8} (h : Plain text) : IsRaw text := by
  induction text with
  | nil => exact .nil
  | cons c text ih =>
      obtain ⟨hnul, hquote, hbackslash⟩ := h c List.mem_cons_self
      exact .char hnul hquote hbackslash (ih fun d hd => h d (List.mem_cons_of_mem _ hd))

theorem Plain.quote_notMem {text : List UInt8} (h : Plain text) : quote ∉ text :=
  fun hmem => (h _ hmem).2.1 rfl

theorem isScalar_decimal_int (n : ℤ) : IsScalar (Decimal.decimal_int n) := by
  rw [Decimal.decimal_int]
  split
  · refine ⟨List.cons_ne_nil _ _, fun c hc => ?_⟩
    rcases List.mem_cons.mp hc with rfl | hc
    · exact .inr (.inr (by decide))
    · exact .inr (.inl (Decimal.isdigit_decimal _ c hc))
  · exact ⟨Decimal.decimal_ne_nil _, fun c hc => .inr (.inl (Decimal.isdigit_decimal _ c hc))⟩

theorem member_value.isJson {value : member_value} (h : value.Plain) :
    IsJson .value [value.token] := by
  cases value with
  | text raw => exact .string (Plain.isRaw h)
  | integer n => exact .scalar (isScalar_decimal_int n)

theorem isJson_members_tokens {members : List json_member} (hne : members ≠ [])
    (h : ∀ member ∈ members, Plain member.1 ∧ member.2.Plain) :
    IsJson .members (members_tokens members) := by
  fun_induction members_tokens members with
  | case1 => exact absurd rfl hne
  | case2 member =>
      obtain ⟨hkey, hvalue⟩ := h member List.mem_cons_self
      exact .member hkey.isRaw (member_value.isJson hvalue)
  | case3 member next members ih =>
      obtain ⟨hkey, hvalue⟩ := h member List.mem_cons_self
      exact .member_cons hkey.isRaw (member_value.isJson hvalue)
        (ih (List.cons_ne_nil _ _) fun member hmember => h member (List.mem_cons_of_mem _ hmember))

/-- The tokens of a flat object are those of an object. -/
theorem isObject_object_tokens {members : List json_member}
    (h : ∀ member ∈ members, Plain member.1 ∧ member.2.Plain) :
    IsObject (object_tokens members) := by
  cases members with
  | nil => exact .object_nil
  | cons member members =>
      exact .object_members (isJson_members_tokens (List.cons_ne_nil _ _) h)

/-! ## No white space -/

/-- Tokens with nothing between them. -/
def gapless (tokens : List json_token) : List (json_token × List UInt8) :=
  tokens.map fun token => (token, [])

def gapless_serialisation (tokens : List json_token) : serialisation tokens where
  lead := []
  items := gapless tokens
  tokens_eq := by
    rw [gapless, List.map_map]
    exact List.map_id tokens
  lead_blank := isBlank_nil
  items_blank := by
    intro item hitem
    obtain ⟨token, -, rfl⟩ := List.mem_map.mp hitem
    exact nofun

theorem render_gapless_cons (token : json_token) (tokens : List json_token) :
    render (gapless (token :: tokens)) = token.text ++ render (gapless tokens) := by
  rw [gapless, List.map_cons, render_cons, List.nil_append]
  rfl

theorem render_gapless_members (members : List json_member) (tokens : List json_token) :
    render (gapless (members_tokens members ++ tokens))
      = [comma].intercalate (members.map member_text) ++ render (gapless tokens) := by
  fun_induction members_tokens members with
  | case1 => rfl
  | case2 member =>
      rw [List.map_cons, List.map_nil, List.intercalate_singleton, member_text]
      simp only [List.cons_append, List.nil_append, render_gapless_cons, text, List.append_assoc]
  | case3 member next members ih =>
      rw [List.map_cons, List.map_cons, List.intercalate_cons_cons, ← List.map_cons, member_text]
      simp only [List.cons_append, render_gapless_cons, text, List.append_assoc, List.nil_append,
        ih]

/-- **The text of the object** without white space. -/
theorem compact_eq (members : List json_member) :
    compact members = (gapless_serialisation (object_tokens members)).text := by
  have hlast : render (gapless [.punct 0x7D]) = [0x7D] := rfl
  rw [serialisation.text, gapless_serialisation, List.nil_append, object_tokens,
    render_gapless_cons, render_gapless_members, hlast]
  rfl

/-! ## The search -/

section Search

variable {key : List UInt8}

/-- A plain text ends with the key only if it is the key. -/
theorem Plain.endsWith_iff {text : List UInt8} (h : Plain text) :
    EndsWith text key ↔ text = key := by
  constructor
  · rintro (heq | hsuffix)
    · exact heq
    · exact absurd (hsuffix.subset List.mem_cons_self) h.quote_notMem
  · exact .inl

theorem visible_cons_of_none {β : Type*} {found_at : List (json_token × List UInt8) → Option β}
    {item : json_token × List UInt8} {items : List (json_token × List UInt8)}
    (h : found_at (item :: items) = none) :
    visible found_at (item :: items) = visible found_at items := by
  rw [visible, h, Option.none_or]

/-- A text with anything but a colon behind it is no key. -/
theorem number_at_of_ne_colon {token : json_token} {blank : List UInt8} {c : UInt8}
    (hc : c ≠ colon) (items : List (json_token × List UInt8)) :
    number_at key ((token, []) :: (punct c, blank) :: items) = none := by
  cases hfound : number_at key ((token, []) :: (punct c, blank) :: items) with
  | none => rfl
  | some value =>
      obtain ⟨raw, blank, blank', rest, -, hitems⟩ := number_at_eq_some.mp hfound
      simp only [List.cons.injEq, Prod.mk.injEq, punct.injEq] at hitems
      exact absurd hitems.2.1.1 hc

theorem string_at_of_ne_colon {token : json_token} {blank : List UInt8} {c : UInt8}
    (hc : c ≠ colon) (items : List (json_token × List UInt8)) :
    string_at key ((token, []) :: (punct c, blank) :: items) = none := by
  cases hfound : string_at key ((token, []) :: (punct c, blank) :: items) with
  | none => rfl
  | some value =>
      obtain ⟨raw, blank, rest, -, hitems⟩ := string_at_eq_some.mp hfound
      simp only [List.cons.injEq, Prod.mk.injEq, punct.injEq] at hitems
      exact absurd hitems.2.1.1 hc

/-- What a search for a text makes of a member. -/
def text_of (key : List UInt8) (member : json_member) : Option (List UInt8) :=
  match member.2 with
  | .text raw => if member.1 = key then some raw else none
  | .integer _ => none

/-- What a search for a number makes of a member. -/
def token_of (key : List UInt8) (member : json_member) : Option json_token :=
  if member.1 = key then some member.2.token else none

section Visible

variable {β : Type*} {found_at : List (json_token × List UInt8) → Option β}
  {pick : json_member → Option β}
  (hpunct : ∀ c tokens, found_at (gapless (.punct c :: tokens)) = none)
  (hother : ∀ token c tokens, c ≠ colon → found_at (gapless (token :: .punct c :: tokens)) = none)

include hpunct hother

/-- One member with the punctuation mark behind it. -/
theorem visible_member {member : json_member} {c : UInt8} (hc : c ≠ colon)
    {tokens : List json_token}
    (hhere : found_at
        (gapless (.string member.1 :: .punct colon :: member.2.token :: .punct c :: tokens))
      = pick member) :
    visible found_at
        (gapless (.string member.1 :: .punct colon :: member.2.token :: .punct c :: tokens))
      = (pick member).or (visible found_at (gapless tokens)) := by
  have hlast : visible found_at (gapless (.punct c :: tokens))
      = visible found_at (gapless tokens) := visible_cons_of_none (hpunct c tokens)
  have hvalue : visible found_at (gapless (member.2.token :: .punct c :: tokens))
      = visible found_at (gapless tokens) :=
    (visible_cons_of_none (hother _ c tokens hc)).trans hlast
  have hcolon : visible found_at (gapless (.punct colon :: member.2.token :: .punct c :: tokens))
      = visible found_at (gapless tokens) := (visible_cons_of_none (hpunct colon _)).trans hvalue
  rw [← hcolon, ← hhere]
  rfl

/-- **The members in turn**: what a search makes of a member it makes of the object. -/
theorem visible_members {members : List json_member}
    (hhere : ∀ member ∈ members, ∀ tokens,
      found_at (gapless (.string member.1 :: .punct colon :: member.2.token :: tokens))
        = pick member) :
    visible found_at (gapless (object_tokens members)) = members.findSome? pick := by
  have hbrace : ∀ c tokens, visible found_at (gapless (.punct c :: tokens))
      = visible found_at (gapless tokens) := fun c tokens => visible_cons_of_none (hpunct c tokens)
  rw [object_tokens, hbrace]
  fun_induction members_tokens members with
  | case1 => exact (hbrace _ _).trans rfl
  | case2 member =>
      have honly : visible found_at
            (gapless [.string member.1, .punct colon, member.2.token, .punct 0x7D])
          = (pick member).or none :=
        visible_member hpunct hother (by decide) (hhere member List.mem_cons_self _)
      rw [List.findSome?_cons]
      refine Eq.trans honly ?_
      cases pick member <;> rfl
  | case3 member next members ih =>
      have hfirst : visible found_at (gapless (.string member.1 :: .punct colon :: member.2.token
            :: .punct comma :: (members_tokens (next :: members) ++ [.punct 0x7D])))
          = (pick member).or
            (visible found_at (gapless (members_tokens (next :: members) ++ [.punct 0x7D]))) :=
        visible_member hpunct hother (c := comma) (by decide) (hhere member List.mem_cons_self _)
      rw [ih fun member hmember => hhere member (List.mem_cons_of_mem _ hmember)] at hfirst
      rw [List.findSome?_cons]
      refine Eq.trans hfirst ?_
      cases pick member <;> rfl

end Visible

/-- **A search for a text** goes through the members. -/
theorem visible_string_members {members : List json_member}
    (h : ∀ member ∈ members, Plain member.1) :
    visible (string_at key) (gapless (object_tokens members))
      = members.findSome? (text_of key) := by
  apply visible_members (fun _ _ => rfl) fun token c tokens hc => string_at_of_ne_colon hc _
  rintro ⟨name, value⟩ hmember tokens
  cases value with
  | integer n => rfl
  | text raw =>
      have hends : (EndsWith name key ∧ colon = colon) ↔ name = key :=
        (and_iff_left rfl).trans (h _ hmember).endsWith_iff
      exact if_congr hends rfl rfl

/-- **A search for a number** goes through the members. -/
theorem visible_number_members {members : List json_member}
    (h : ∀ member ∈ members, Plain member.1) :
    visible (number_at key) (gapless (object_tokens members))
      = members.findSome? (token_of key) := by
  apply visible_members (fun _ _ => rfl) fun token c tokens hc => number_at_of_ne_colon hc _
  rintro ⟨name, value⟩ hmember tokens
  have hends : (EndsWith name key ∧ colon = colon) ↔ name = key :=
    (and_iff_left rfl).trans (h _ hmember).endsWith_iff
  exact if_congr hends rfl rfl

/-- With one member for each key a search for the key looks at that member only. -/
theorem findSome_of_mem {β : Type*} {pick : json_member → Option β} {members : List json_member}
    (hkeys : (members.map Prod.fst).Nodup) {member : json_member} (hmem : member ∈ members)
    (hpick : ∀ other : json_member, other.1 ≠ member.1 → pick other = none) :
    members.findSome? pick = pick member := by
  induction members with
  | nil => cases hmem
  | cons first members ih =>
      rw [List.map_cons, List.nodup_cons] at hkeys
      rw [List.findSome?_cons]
      rcases List.mem_cons.mp hmem with rfl | hmem
      · cases hfound : pick member with
        | some value => rfl
        | none =>
            rw [List.findSome?_eq_none_iff]
            intro other hother
            apply hpick
            exact fun heq => hkeys.1 (heq ▸ List.mem_map_of_mem hother)
      · have hfirst : first.1 ≠ member.1 := by
          intro heq
          exact hkeys.1 (heq ▸ List.mem_map_of_mem hmem)
        rw [hpick first hfirst]
        exact ih hkeys.2 hmem

end Search

end WifiManager.Lib.JsonText
