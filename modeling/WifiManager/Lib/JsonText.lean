/-
JSON objects as text, and a search for a key in it.

A document is a sequence of tokens, and a serialisation of it is the tokens with white space
around them. Programs that do not parse a document search its text for the key in quotes and
the colon: `visible` says on the tokens what such a search finds, the first place where key and
colon (and for a text the quotation mark behind them) stand together without white space.
`behind_number_pattern` and `behind_string_pattern` are the rules that take a search in the text
to one among the tokens. Nothing else in a document can be taken for a key, because a quotation
mark inside a text stands behind a backslash; but a text that ends in an escaped quotation mark
and the key can.
-/
import Mathlib.Data.List.Infix
import WifiManager.Lib.CString

set_option autoImplicit false

namespace WifiManager.Lib.JsonText

abbrev quote : UInt8 := 0x22
abbrev backslash : UInt8 := 0x5C
abbrev colon : UInt8 := 0x3A
abbrev comma : UInt8 := 0x2C

/-! ## Tokens -/

/-- The text between two quotation marks: a quotation mark inside is escaped. -/
inductive IsRaw : List UInt8 → Prop
  | nil : IsRaw []
  | char {c : UInt8} {raw : List UInt8} (hnul : c ≠ 0) (hquote : c ≠ quote)
      (hbackslash : c ≠ backslash) (h : IsRaw raw) : IsRaw (c :: raw)
  | escape {c : UInt8} {raw : List UInt8} (hnul : c ≠ 0) (h : IsRaw raw) :
      IsRaw (backslash :: c :: raw)

/-- Letters. -/
def isalpha (c : UInt8) : Bool := (0x41 ≤ c ∧ c ≤ 0x5A) ∨ (0x61 ≤ c ∧ c ≤ 0x7A)

/-- The text of a number or of one of the words `true`, `false` and `null`. -/
def IsScalar (text : List UInt8) : Prop :=
  text ≠ [] ∧ ∀ c ∈ text, isalpha c = true ∨ CString.isdigit c = true ∨ c ∈ [0x2B, 0x2D, 0x2E]

/-- The characters `{}[]:,`. -/
def IsPunct (c : UInt8) : Prop := c ∈ [0x7B, 0x7D, 0x5B, 0x5D, colon, comma]

instance (c : UInt8) : Decidable (IsPunct c) := inferInstanceAs (Decidable (c ∈ _))

/-- White space between tokens. -/
def IsBlank (blank : List UInt8) : Prop := ∀ c ∈ blank, c ∈ [0x20, 0x09, 0x0A, 0x0D]

instance (blank : List UInt8) : Decidable (IsBlank blank) :=
  List.decidableBAll (fun c => c ∈ [0x20, 0x09, 0x0A, 0x0D]) blank

theorem isBlank_nil : IsBlank [] := nofun

inductive json_token
  | punct (c : UInt8)
  | string (raw : List UInt8)
  | scalar (text : List UInt8)

open json_token

def json_token.text : json_token → List UInt8
  | punct c => [c]
  | string raw => quote :: (raw ++ [quote])
  | scalar text => text

/-! ## Documents -/

/-- The parts of a document: a value, the values between brackets, an object, and the members
between braces. -/
inductive json_part
  | value
  | items
  | object
  | members

/-- The tokens of a part. -/
inductive IsJson : json_part → List json_token → Prop
  | scalar {text : List UInt8} (htext : IsScalar text) : IsJson .value [.scalar text]
  | string {raw : List UInt8} (hraw : IsRaw raw) : IsJson .value [.string raw]
  | array_nil : IsJson .value [punct 0x5B, punct 0x5D]
  | array {items : List json_token} (hitems : IsJson .items items) :
      IsJson .value (punct 0x5B :: (items ++ [punct 0x5D]))
  | object {object : List json_token} (hobject : IsJson .object object) : IsJson .value object
  | item {value : List json_token} (hvalue : IsJson .value value) : IsJson .items value
  | item_cons {value items : List json_token} (hvalue : IsJson .value value)
      (hitems : IsJson .items items) : IsJson .items (value ++ punct comma :: items)
  | object_nil : IsJson .object [punct 0x7B, punct 0x7D]
  | object_members {members : List json_token} (hmembers : IsJson .members members) :
      IsJson .object (punct 0x7B :: (members ++ [punct 0x7D]))
  | member {key : List UInt8} {value : List json_token} (hkey : IsRaw key)
      (hvalue : IsJson .value value) :
      IsJson .members (.string key :: punct colon :: value)
  | member_cons {key : List UInt8} {value members : List json_token} (hkey : IsRaw key)
      (hvalue : IsJson .value value) (hmembers : IsJson .members members) :
      IsJson .members (.string key :: punct colon :: (value ++ punct comma :: members))

/-- The tokens of an object. -/
abbrev IsObject (tokens : List json_token) : Prop := IsJson .object tokens

/-- What a search relies on: every text and every number has a punctuation mark behind it, and
no colon is the last token. -/
inductive Tidy : List json_token → Prop
  | nil : Tidy []
  | punct {c : UInt8} {tokens : List json_token} (hc : IsPunct c) (hvalue : c = colon → tokens ≠ [])
      (h : Tidy tokens) : Tidy (punct c :: tokens)
  | string {raw : List UInt8} {c : UInt8} {tokens : List json_token} (hraw : IsRaw raw)
      (h : Tidy (.punct c :: tokens)) : Tidy (string raw :: .punct c :: tokens)
  | scalar {text : List UInt8} {c : UInt8} {tokens : List json_token} (htext : IsScalar text)
      (h : Tidy (.punct c :: tokens)) : Tidy (scalar text :: .punct c :: tokens)

/-- Any part is tidy in front of a punctuation mark. -/
theorem IsJson.tidy_append {part : json_part} {part_tokens : List json_token}
    (h : IsJson part part_tokens) :
    ∀ {c : UInt8} {tokens : List json_token}, Tidy (punct c :: tokens) →
      Tidy (part_tokens ++ punct c :: tokens) := by
  induction h with
  | scalar htext => exact fun htidy => .scalar htext htidy
  | string hraw => exact fun htidy => .string hraw htidy
  | array_nil => exact fun htidy => .punct (by decide) nofun (.punct (by decide) nofun htidy)
  | array _ ih =>
      intro c tokens htidy
      rw [List.cons_append, List.append_assoc]
      exact .punct (by decide) nofun (ih (.punct (by decide) nofun htidy))
  | object _ ih => exact ih
  | item _ ih => exact ih
  | item_cons _ _ ih ih' =>
      intro c tokens htidy
      rw [List.append_assoc]
      exact ih (.punct (by decide) nofun (ih' htidy))
  | object_nil => exact fun htidy => .punct (by decide) nofun (.punct (by decide) nofun htidy)
  | object_members _ ih =>
      intro c tokens htidy
      rw [List.cons_append, List.append_assoc]
      exact .punct (by decide) nofun (ih (.punct (by decide) nofun htidy))
  | member hkey _ ih =>
      exact fun htidy => .string hkey (.punct (by decide) (fun _ => by simp) (ih htidy))
  | member_cons hkey _ _ ih ih' =>
      intro c tokens htidy
      rw [List.cons_append, List.cons_append, List.append_assoc]
      exact .string hkey (.punct (by decide) (fun _ => by simp)
        (ih (.punct (by decide) nofun (ih' htidy))))

/-- **Objects are tidy.** -/
theorem IsJson.tidy {object : List json_token} (h : IsObject object) : Tidy object := by
  cases h with
  | object_nil => exact .punct (by decide) nofun (.punct (by decide) nofun .nil)
  | object_members hmembers =>
      exact .punct (by decide) nofun (hmembers.tidy_append (.punct (by decide) nofun .nil))

/-! ## Serialisations -/

/-- Tokens as text, each with the white space behind it. -/
def render (items : List (json_token × List UInt8)) : List UInt8 :=
  items.flatMap fun item => item.1.text ++ item.2

/-- A serialisation of the tokens. -/
structure serialisation (tokens : List json_token) where
  lead : List UInt8
  items : List (json_token × List UInt8)
  tokens_eq : items.map Prod.fst = tokens
  lead_blank : IsBlank lead
  items_blank : ∀ item ∈ items, IsBlank item.2

def serialisation.text {tokens : List json_token} (s : serialisation tokens) : List UInt8 :=
  s.lead ++ render s.items

/-- The text of a key ends with the key: it is the key, or it ends in an escaped quotation mark
and the key. -/
def EndsWith (raw key : List UInt8) : Prop := raw = key ∨ quote :: key <:+ raw

instance (raw key : List UInt8) : Decidable (EndsWith raw key) :=
  inferInstanceAs (Decidable (_ ∨ _))

/-- The value of a key at the front, if nothing stands between the key and the colon. -/
def number_at (key : List UInt8) : List (json_token × List UInt8) → Option json_token
  | (.string raw, []) :: (.punct c, _) :: (value, _) :: _ =>
      if EndsWith raw key ∧ c = colon then some value else none
  | _ => none

/-- The same for a text, if nothing stands in front of its quotation mark either. -/
def string_at (key : List UInt8) : List (json_token × List UInt8) → Option (List UInt8)
  | (.string raw, []) :: (.punct c, []) :: (.string value, _) :: _ =>
      if EndsWith raw key ∧ c = colon then some value else none
  | _ => none

/-- The first place where something is found. -/
def visible {α β : Type*} (found_at : List α → Option β) : List α → Option β
  | [] => none
  | item :: items => (found_at (item :: items)).or (visible found_at items)

/-- The first place where something is found, by its number. -/
theorem visible_eq_bind {α β : Type*} (found_at : List α → Option β) (items : List α) :
    visible found_at items
      = ((List.range items.length).find? fun i => (found_at (items.drop i)).isSome).bind
          fun i => found_at (items.drop i) := by
  induction items with
  | nil => rfl
  | cons item items ih =>
      rw [visible, List.length_cons, List.range_succ_eq_map, List.find?_cons, List.drop_zero]
      cases hfound : found_at (item :: items) with
      | some value =>
          rw [Option.isSome_some, Option.some_or]
          exact hfound.symm
      | none =>
          rw [Option.isSome_none, Option.none_or, ih, List.find?_map, Option.bind_map]
          rfl

/-- The patterns that are searched for. -/
def number_pattern (key : List UInt8) : List UInt8 := quote :: (key ++ [quote, colon])

def string_pattern (key : List UInt8) : List UInt8 := quote :: (key ++ [quote, colon, quote])

/-- A key that is searched for is a name. -/
def IsName (key : List UInt8) : Prop := key ≠ [] ∧ ∀ c ∈ key, isalpha c = true

instance (key : List UInt8) : Decidable (IsName key) :=
  have : Decidable (∀ c ∈ key, isalpha c = true) := List.decidableBAll _ key
  inferInstanceAs (Decidable (_ ∧ _))

/-! ## The key in a text -/

/-- A quotation mark inside a text has a backslash in front of it. -/
theorem IsRaw.backslash_of_quote {raw front back : List UInt8} {c : UInt8} (h : IsRaw raw)
    (hraw : raw = front ++ c :: quote :: back) : c = backslash := by
  induction h generalizing front with
  | nil => exact absurd hraw (by simp)
  | char hnul hquote hbackslash h ih =>
      cases front with
      | nil =>
          obtain ⟨rfl, htail⟩ := List.cons.inj hraw
          -- the rest of a text does not begin with a quotation mark
          rw [htail] at h
          cases h with
          | char _ hquote' => exact absurd rfl hquote'
      | cons d front => exact ih (List.cons.inj hraw).2
  | @escape d raw hnul h ih =>
      cases front with
      | nil => exact (List.cons.inj hraw).1.symm
      | cons e front =>
          have htail := (List.cons.inj hraw).2
          cases front with
          | nil =>
              obtain ⟨rfl, hrest⟩ := List.cons.inj htail
              rw [hrest] at h
              cases h with
              | char _ hquote' => exact absurd rfl hquote'
          | cons e front => exact ih (List.cons.inj htail).2

/-- Lists that are equal up to their first mark. -/
theorem append_cons_inj {c : UInt8} {front front' back back' : List UInt8} (h : c ∉ front)
    (h' : c ∉ front') (heq : front ++ c :: back = front' ++ c :: back') :
    front = front' ∧ back = back' := by
  induction front generalizing front' with
  | nil =>
      cases front' with
      | nil => exact ⟨rfl, (List.cons.inj heq).2⟩
      | cons d front' =>
          exact absurd (List.cons.inj heq).1 fun hd => h' (hd ▸ List.mem_cons_self)
  | cons d front ih =>
      cases front' with
      | nil => exact absurd (List.cons.inj heq).1 fun hd => h (hd ▸ List.mem_cons_self)
      | cons e front' =>
          obtain ⟨rfl, htail⟩ := List.cons.inj heq
          obtain ⟨hfront, hback⟩ := ih (fun hmem => h (List.mem_cons_of_mem _ hmem))
            (fun hmem => h' (List.mem_cons_of_mem _ hmem)) htail
          exact ⟨by rw [hfront], hback⟩

section Search

variable {key : List UInt8} (hkey : IsName key)

include hkey

/-- The key can start in a text only where it ends the text. -/
theorem key_at {raw passed rest tail back : List UInt8} (hraw : IsRaw raw)
    (htoken : quote :: (raw ++ [quote]) = passed ++ rest) (hrest : rest ≠ [])
    (hback : ∀ c ∈ back.head?, isalpha c = false)
    (hpattern : quote :: (key ++ quote :: tail) <+: rest ++ back) :
    rest = quote :: (key ++ [quote]) ∧ tail <+: back := by
  obtain ⟨d, rest, rfl⟩ := List.exists_cons_of_ne_nil hrest
  rw [List.cons_append, List.cons_prefix_cons] at hpattern
  obtain ⟨rfl, hpattern⟩ := hpattern
  obtain ⟨hne, hletters⟩ := hkey
  rcases List.eq_nil_or_concat rest with rfl | ⟨inner, last, rfl⟩
  · -- behind the quotation mark that ends the text there is no letter
    obtain ⟨k, more, rfl⟩ := List.exists_cons_of_ne_nil hne
    obtain ⟨end', hend⟩ := hpattern
    rw [List.nil_append, List.cons_append, List.cons_append] at hend
    rw [← hend] at hback
    have h := hback k rfl
    rw [hletters k List.mem_cons_self] at h
    cases h
  · -- the last character is the quotation mark that ends the text
    obtain ⟨rfl, hinner⟩ : last = quote ∧ quote :: raw = passed ++ quote :: inner := by
      have h : quote :: raw ++ [quote] = passed ++ quote :: inner ++ [last] := by
        rw [List.cons_append, htoken, List.concat_eq_append, List.append_assoc, List.cons_append]
      obtain ⟨h₁, h₂⟩ := List.append_inj' h rfl
      exact ⟨(List.cons.inj h₂).1.symm, h₁⟩
    rw [List.concat_eq_append, List.append_assoc, List.singleton_append] at hpattern
    obtain ⟨more, hmore⟩ := hpattern
    rw [List.append_assoc, List.cons_append] at hmore
    have hquote : quote ∉ key := fun hmem => absurd (hletters _ hmem) (by decide)
    by_cases hmem : quote ∈ inner
    · -- an escaped quotation mark has no letter in front of it
      exfalso
      obtain ⟨front, rest', rfl, hfront⟩ := List.eq_append_cons_of_mem hmem
      rw [List.append_assoc, List.cons_append] at hmore
      obtain ⟨rfl, -⟩ := append_cons_inj hquote hfront hmore
      obtain ⟨front, k, rfl⟩ := List.eq_nil_or_concat key |>.resolve_left hne
      rw [List.concat_eq_append] at hletters hinner
      have hk := hletters k (List.mem_append_right _ List.mem_cons_self)
      have hslash : k = backslash := by
        cases passed with
        | nil =>
            have hsplit : raw = front ++ k :: quote :: rest' := by
              rw [(List.cons.inj hinner).2, List.append_assoc, List.singleton_append]
            exact hraw.backslash_of_quote hsplit
        | cons p passed =>
            have hwhole : raw = passed ++ quote :: (front ++ [k] ++ quote :: rest') :=
              (List.cons.inj hinner).2
            have hsplit : raw = (passed ++ quote :: front) ++ k :: quote :: rest' := by
              rw [hwhole]
              simp only [List.append_assoc, List.cons_append, List.nil_append]
            exact hraw.backslash_of_quote hsplit
      rw [hslash] at hk
      exact absurd hk (by decide)
    · obtain ⟨rfl, hback'⟩ := append_cons_inj hquote hmem hmore
      exact ⟨by rw [List.concat_eq_append], ⟨more, hback'⟩⟩

/-- **A text with another ending**, or with something else behind it. -/
theorem behind_string_miss {raw tail back : List UInt8} (hraw : IsRaw raw)
    (hback : ∀ c ∈ back.head?, isalpha c = false) (hmiss : ¬ (EndsWith raw key ∧ tail <+: back)) :
    CString.behind (quote :: (raw ++ [quote]) ++ back) (quote :: (key ++ quote :: tail))
      = CString.behind back (quote :: (key ++ quote :: tail)) := by
  apply CString.behind_skip
  intro passed rest htoken hrest hpattern
  obtain ⟨rfl, htail⟩ := key_at hkey hraw htoken hrest hback hpattern
  refine hmiss ⟨?_, htail⟩
  rw [← List.cons_append, ← List.cons_append, ← List.append_assoc] at htoken
  have hquote := List.append_cancel_right htoken
  cases passed with
  | nil => exact .inl (List.cons.inj hquote).2
  | cons p passed => exact .inr ⟨passed, (List.cons.inj hquote).2.symm⟩

/-- **A text with the ending** and the rest of the pattern behind it. -/
theorem behind_string_hit {raw tail : List UInt8} (hraw : IsRaw raw) (hends : EndsWith raw key)
    (rest : List UInt8) :
    CString.behind (quote :: (raw ++ [quote]) ++ (colon :: tail ++ rest))
      (quote :: (key ++ quote :: colon :: tail)) = some rest := by
  obtain ⟨front, hfront⟩ : ∃ front, quote :: (raw ++ [quote])
      = front ++ quote :: (key ++ [quote]) := by
    rcases hends with rfl | ⟨front, rfl⟩
    · exact ⟨[], rfl⟩
    · exact ⟨quote :: front, by simp only [List.append_assoc, List.cons_append]⟩
  have hpattern : quote :: (key ++ [quote]) ++ (colon :: tail ++ rest)
      = quote :: (key ++ quote :: colon :: tail) ++ rest := by
    simp only [List.append_assoc, List.cons_append, List.nil_append]
  rw [hfront, List.append_assoc, CString.behind_skip, hpattern,
    CString.behind_append (List.cons_ne_nil _ _)]
  -- the key does not start any earlier
  intro passed between hbetween hne hearlier
  rw [hbetween, List.append_assoc] at hfront
  have hwhole : between ++ quote :: (key ++ [quote]) ≠ [] := by simp
  rw [← List.append_assoc] at hearlier
  have h := (key_at hkey hraw hfront hwhole (fun c hc => by
    rw [Option.mem_def, List.cons_append, List.head?_cons, Option.some_inj] at hc
    rw [← hc]
    decide) hearlier).1
  have hlength := congrArg List.length h
  rw [List.length_append] at hlength
  exact hne (List.length_eq_zero_iff.mp (by omega))

end Search

/-! ## The search among the tokens -/

theorem render_cons (token : json_token) (blank : List UInt8)
    (items : List (json_token × List UInt8)) :
    render ((token, blank) :: items) = token.text ++ (blank ++ render items) := by
  rw [render, List.flatMap_cons, List.append_assoc]
  rfl

theorem quote_notMem_blank {blank : List UInt8} (h : IsBlank blank) : quote ∉ blank :=
  fun hmem => absurd (h _ hmem) (by decide)

theorem quote_notMem_scalar {text : List UInt8} (h : IsScalar text) : quote ∉ text :=
  fun hmem => absurd (h.2 _ hmem) (by decide)

theorem quote_notMem_punct {c : UInt8} (h : IsPunct c) : quote ∉ [c] := by
  intro hmem
  rw [List.mem_singleton] at hmem
  subst hmem
  exact absurd h (by decide)

/-- White space and punctuation marks end a word and a number. -/
theorem head_of_blank_punct {blank : List UInt8} (hblank : IsBlank blank) {c : UInt8}
    (hc : IsPunct c) (rest : List UInt8) :
    ∀ d ∈ (blank ++ c :: rest).head?, isalpha d = false ∧ CString.isdigit d = false := by
  intro d hd
  have hmem : d ∈ [0x20, 0x09, 0x0A, 0x0D] ∨ d ∈ [0x7B, 0x7D, 0x5B, 0x5D, colon, comma] := by
    cases blank with
    | nil =>
        rw [List.nil_append, List.head?_cons, Option.mem_def, Option.some_inj] at hd
        exact .inr (hd ▸ hc)
    | cons e blank =>
        rw [List.cons_append, List.head?_cons, Option.mem_def, Option.some_inj] at hd
        exact .inl (hd ▸ hblank e List.mem_cons_self)
  simp only [List.mem_cons, List.not_mem_nil, or_false] at hmem
  rcases hmem with (rfl | rfl | rfl | rfl) | rfl | rfl | rfl | rfl | rfl | rfl <;> decide

/-- Behind a text comes a punctuation mark. -/
theorem Tidy.next_of_string {raw : List UInt8} {items : List (json_token × List UInt8)}
    (h : Tidy (.string raw :: items.map Prod.fst)) :
    IsRaw raw ∧ ∃ c blank rest, items = (.punct c, blank) :: rest ∧ IsPunct c ∧
      (c = colon → rest ≠ []) ∧ Tidy (items.map Prod.fst) := by
  generalize htokens : items.map Prod.fst = tokens at h ⊢
  cases h with
  | string hraw h =>
      obtain ⟨⟨token, blank⟩, rest, rfl, hpunct, hrest⟩ := List.map_eq_cons_iff.mp htokens
      dsimp only at hpunct
      subst hpunct hrest
      have htidy := h
      cases h with
      | punct hc hvalue _ =>
          exact ⟨hraw, _, blank, rest, rfl, hc, fun h => fun hnil => hvalue h (by rw [hnil]; rfl),
            htidy⟩

/-- Behind a number comes a punctuation mark. -/
theorem Tidy.next_of_scalar {text : List UInt8} {items : List (json_token × List UInt8)}
    (h : Tidy (.scalar text :: items.map Prod.fst)) :
    IsScalar text ∧ ∃ c blank rest, items = (.punct c, blank) :: rest ∧ IsPunct c ∧
      Tidy (items.map Prod.fst) := by
  generalize htokens : items.map Prod.fst = tokens at h ⊢
  cases h with
  | scalar htext h =>
      obtain ⟨⟨token, blank⟩, rest, rfl, hpunct, hrest⟩ := List.map_eq_cons_iff.mp htokens
      dsimp only at hpunct
      subst hpunct hrest
      have htidy := h
      cases h with
      | punct hc _ _ => exact ⟨htext, _, blank, rest, rfl, hc, htidy⟩

theorem Tidy.of_punct {c : UInt8} {tokens : List json_token} (h : Tidy (.punct c :: tokens)) :
    IsPunct c ∧ Tidy tokens := by
  cases h with
  | punct hc _ h => exact ⟨hc, h⟩

/-- A colon right behind a text. -/
theorem colon_at {blank blank' tail : List UInt8} {c : UInt8}
    {items : List (json_token × List UInt8)} (hblank : IsBlank blank)
    (h : colon :: tail <+: blank ++ render ((punct c, blank') :: items)) :
    blank = [] ∧ c = colon ∧ tail <+: blank' ++ render items := by
  cases blank with
  | nil =>
      rw [List.nil_append, render_cons] at h
      obtain ⟨hc, htail⟩ := List.cons_prefix_cons.mp h
      exact ⟨rfl, hc.symm, htail⟩
  | cons d blank =>
      have hd := hblank d List.mem_cons_self
      rw [← (List.cons_prefix_cons.mp h).1] at hd
      exact absurd hd (by decide)

/-- A quotation mark right behind a colon. -/
theorem quote_at {blank blank' : List UInt8} {value : json_token}
    {items : List (json_token × List UInt8)} (htidy : Tidy (value :: items.map Prod.fst))
    (hblank : IsBlank blank) (h : [quote] <+: blank ++ render ((value, blank') :: items)) :
    blank = [] ∧ ∃ raw, value = string raw := by
  cases blank with
  | nil =>
      refine ⟨rfl, ?_⟩
      rw [List.nil_append, render_cons] at h
      cases value with
      | string raw => exact ⟨raw, rfl⟩
      | punct c =>
          obtain ⟨rfl, -⟩ := List.cons_prefix_cons.mp h
          exact absurd htidy.of_punct.1 (by decide)
      | scalar text =>
          have htext := htidy.next_of_scalar.1
          obtain ⟨c, text, rfl⟩ := List.exists_cons_of_ne_nil htext.1
          obtain ⟨rfl, -⟩ := List.cons_prefix_cons.mp h
          exact absurd List.mem_cons_self (quote_notMem_scalar htext)
  | cons d blank =>
      obtain ⟨rfl, -⟩ := List.cons_prefix_cons.mp h
      exact absurd List.mem_cons_self (quote_notMem_blank hblank)

theorem number_at_eq_some {key : List UInt8} {items : List (json_token × List UInt8)}
    {value : json_token} :
    number_at key items = some value ↔ ∃ raw blank blank' rest, EndsWith raw key ∧
      items = (string raw, []) :: (punct colon, blank) :: (value, blank') :: rest := by
  constructor
  · intro h
    unfold number_at at h
    split at h
    · obtain ⟨⟨hends, rfl⟩, hvalue⟩ := Option.ite_none_right_eq_some.mp h
      rw [← Option.some_inj.mp hvalue]
      exact ⟨_, _, _, _, hends, rfl⟩
    · cases h
  · rintro ⟨raw, blank, blank', rest, hends, rfl⟩
    exact if_pos ⟨hends, rfl⟩

theorem string_at_eq_some {key : List UInt8} {items : List (json_token × List UInt8)}
    {value : List UInt8} :
    string_at key items = some value ↔ ∃ raw blank rest, EndsWith raw key ∧
      items = (string raw, []) :: (punct colon, []) :: (string value, blank) :: rest := by
  constructor
  · intro h
    unfold string_at at h
    split at h
    · obtain ⟨⟨hends, rfl⟩, hvalue⟩ := Option.ite_none_right_eq_some.mp h
      rw [← Option.some_inj.mp hvalue]
      exact ⟨_, _, _, hends, rfl⟩
    · cases h
  · rintro ⟨raw, blank, rest, hends, rfl⟩
    exact if_pos ⟨hends, rfl⟩

/-- White space in a text is white space to `strtoll`. -/
theorem isspace_of_blank {blank : List UInt8} (h : IsBlank blank) :
    ∀ c ∈ blank, CString.isspace c = true := by
  intro c hc
  have hmem := h c hc
  simp only [List.mem_cons, List.not_mem_nil, or_false] at hmem
  rcases hmem with rfl | rfl | rfl | rfl <;> decide

theorem isspace_of_scalar : ∀ c : UInt8, isalpha c = true ∨ CString.isdigit c = true ∨
    c ∈ [0x2B, 0x2D, 0x2E] → CString.isspace c = false :=
  CString.forall_byte (by decide +kernel)

/-- What `strtoll` reads in front of a token is the token. -/
theorem strtoll_render {blank blank' : List UInt8} {value : json_token}
    {items : List (json_token × List UInt8)} (htidy : Tidy (value :: items.map Prod.fst))
    (hblank : IsBlank blank) (hblank' : IsBlank blank') :
    CString.strtoll (blank ++ render ((value, blank') :: items)) = CString.strtoll value.text := by
  rw [CString.strtoll_skip_spaces (isspace_of_blank hblank), render_cons]
  cases value with
  | punct c =>
      have hc := htidy.of_punct.1
      have hnone : ∀ rest, CString.strtoll (c :: rest) = none := by
        simp only [IsPunct, List.mem_cons, List.not_mem_nil, or_false] at hc
        intro rest
        apply CString.strtoll_eq_none
        all_goals rcases hc with rfl | rfl | rfl | rfl | rfl | rfl <;> decide
      exact (hnone _).trans (hnone []).symm
  | string raw =>
      have hnone : ∀ rest, CString.strtoll (quote :: rest) = none :=
        CString.strtoll_eq_none (by decide) (by decide) (by decide) (by decide)
      exact (hnone _).trans (hnone _).symm
  | scalar text =>
      obtain ⟨htext, c, blank'', rest, rfl, hc, -⟩ := htidy.next_of_scalar
      obtain ⟨d, text, rfl⟩ := List.exists_cons_of_ne_nil htext.1
      have hd : CString.isspace d = false := isspace_of_scalar d (htext.2 d List.mem_cons_self)
      apply CString.strtoll_append hd
      rw [render_cons]
      exact fun e he => (head_of_blank_punct hblank' hc _ e he).2

section Visible

variable {key : List UInt8} (hkey : IsName key)

include hkey

/-- **A token that is not the key** is passed over, with the white space behind it. -/
theorem behind_render_cons {tail : List UInt8} {token : json_token} {blank : List UInt8}
    {items : List (json_token × List UInt8)} (htidy : Tidy (token :: items.map Prod.fst))
    (hblank : IsBlank blank)
    (hmiss : ∀ raw, token = .string raw → EndsWith raw key →
      ¬ colon :: tail <+: blank ++ render items) :
    CString.behind (render ((token, blank) :: items)) (quote :: (key ++ quote :: colon :: tail))
        = CString.behind (render items) (quote :: (key ++ quote :: colon :: tail)) ∧
      Tidy (items.map Prod.fst) := by
  rw [render_cons]
  have hnext : CString.behind (blank ++ render items) (quote :: (key ++ quote :: colon :: tail))
      = CString.behind (render items) (quote :: (key ++ quote :: colon :: tail)) :=
    CString.behind_skip_of_notMem (quote_notMem_blank hblank) _
  cases token with
  | punct c =>
      obtain ⟨hc, htidy⟩ := htidy.of_punct
      exact ⟨(CString.behind_skip_of_notMem (quote_notMem_punct hc) _).trans hnext, htidy⟩
  | scalar text =>
      obtain ⟨htext, -, -, -, -, -, htidy⟩ := htidy.next_of_scalar
      exact ⟨(CString.behind_skip_of_notMem (quote_notMem_scalar htext) _).trans hnext, htidy⟩
  | string raw =>
      obtain ⟨hraw, c, blank', rest, rfl, hc, -, htidy⟩ := htidy.next_of_string
      have hback : ∀ d ∈ (blank ++ render ((json_token.punct c, blank') :: rest)).head?,
          isalpha d = false := by
        rw [render_cons]
        exact fun d hd => (head_of_blank_punct hblank hc _ d hd).1
      refine ⟨(behind_string_miss hkey hraw hback ?_).trans hnext, htidy⟩
      exact fun h => hmiss raw rfl h.1 h.2

/-- **The search**: a pattern is found among the tokens if every place where it is found has it,
and every text that is the key with the rest of the pattern behind it is such a place. -/
theorem behind_visible {β γ : Type*} {tail : List UInt8}
    {found_at : List (json_token × List UInt8) → Option β} {read : List UInt8 → γ} {f : β → γ}
    (hhit : ∀ {items : List (json_token × List UInt8)} {value : β},
      Tidy (items.map Prod.fst) → (∀ item ∈ items, IsBlank item.2) →
      found_at items = some value →
      (CString.behind (render items) (quote :: (key ++ quote :: colon :: tail))).map read
        = some (f value))
    (hmiss : ∀ {raw blank : List UInt8} {items : List (json_token × List UInt8)},
      Tidy (.string raw :: items.map Prod.fst) →
      (∀ item ∈ (json_token.string raw, blank) :: items, IsBlank item.2) → EndsWith raw key →
      colon :: tail <+: blank ++ render items → ∃ value, found_at ((.string raw, blank) :: items)
        = some value)
    {items : List (json_token × List UInt8)} (htidy : Tidy (items.map Prod.fst))
    (hblank : ∀ item ∈ items, IsBlank item.2) :
    (CString.behind (render items) (quote :: (key ++ quote :: colon :: tail))).map read
      = (visible found_at items).map f := by
  induction items with
  | nil =>
      rw [render, List.flatMap_nil, CString.behind_nil (List.cons_ne_nil _ _)]
      rfl
  | cons item items ih =>
      cases hfound : found_at (item :: items) with
      | some value =>
          rw [visible, hfound, Option.some_or]
          exact hhit htidy hblank hfound
      | none =>
          obtain ⟨token, blank⟩ := item
          have hpassed : ∀ raw, token = .string raw → EndsWith raw key →
              ¬ colon :: tail <+: blank ++ render items := by
            rintro raw rfl hends hcolon
            obtain ⟨value, hvalue⟩ := hmiss htidy hblank hends hcolon
            rw [hvalue] at hfound
            cases hfound
          obtain ⟨hskip, htidy'⟩ :=
            behind_render_cons hkey htidy (hblank _ List.mem_cons_self) hpassed
          rw [visible, hfound, Option.none_or, hskip]
          exact ih htidy' fun item hitem => hblank item (List.mem_cons_of_mem _ hitem)

/-- **A search for a number** finds the value of the first visible key. -/
theorem behind_number_pattern {items : List (json_token × List UInt8)}
    (htidy : Tidy (items.map Prod.fst)) (hblank : ∀ item ∈ items, IsBlank item.2) :
    (CString.behind (render items) (number_pattern key)).map CString.strtoll
      = (visible (number_at key) items).map fun value => CString.strtoll value.text := by
  apply behind_visible hkey _ _ htidy hblank
  · intro items value htidy hblank hfound
    obtain ⟨raw, blank, blank', rest, hends, rfl⟩ := number_at_eq_some.mp hfound
    obtain ⟨hraw, -, -, -, -, -, -, htidy⟩ := htidy.next_of_string
    have hshape : render ((string raw, []) :: (punct colon, blank) :: (value, blank') :: rest)
        = quote :: (raw ++ [quote])
          ++ (colon :: [] ++ (blank ++ render ((value, blank') :: rest))) := by
      rw [render_cons, render_cons]
      rfl
    rw [hshape, behind_string_hit hkey hraw hends, Option.map_some,
      strtoll_render (htidy.of_punct).2]
    · exact hblank (punct colon, blank) (List.mem_cons_of_mem _ List.mem_cons_self)
    · exact hblank (value, blank')
        (List.mem_cons_of_mem _ (List.mem_cons_of_mem _ List.mem_cons_self))
  · intro raw blank items htidy hblank hends hcolon
    obtain ⟨-, c, blank', rest, rfl, hc, hvalue, -⟩ := htidy.next_of_string
    obtain ⟨rfl, rfl, -⟩ := colon_at (hblank _ List.mem_cons_self) hcolon
    obtain ⟨⟨value, blank''⟩, rest, rfl⟩ := List.exists_cons_of_ne_nil (hvalue rfl)
    exact ⟨value, number_at_eq_some.mpr ⟨raw, blank', blank'', rest, hends, rfl⟩⟩

/-- **A search for a text** finds the value of the first visible key, as far as its first quotation
mark. -/
theorem behind_string_pattern {items : List (json_token × List UInt8)}
    (htidy : Tidy (items.map Prod.fst)) (hblank : ∀ item ∈ items, IsBlank item.2) :
    (CString.behind (render items) (string_pattern key)).map (CString.before_chr · quote)
      = (visible (string_at key) items).map fun value => some (value.takeWhile (· ≠ quote)) := by
  apply behind_visible hkey _ _ htidy hblank
  · intro items value htidy hblank hfound
    obtain ⟨raw, blank, rest, hends, rfl⟩ := string_at_eq_some.mp hfound
    have hraw := htidy.next_of_string.1
    have hshape : render ((string raw, []) :: (punct colon, []) :: (string value, blank) :: rest)
        = quote :: (raw ++ [quote])
          ++ (colon :: [quote] ++ (value ++ quote :: (blank ++ render rest))) := by
      simp only [render_cons, json_token.text, List.append_assoc, List.cons_append, List.nil_append]
    rw [hshape, behind_string_hit hkey hraw hends, Option.map_some, CString.before_chr_append]
  · intro raw blank items htidy hblank hends hcolon
    obtain ⟨-, c, blank', rest, rfl, hc, hvalue, htidy⟩ := htidy.next_of_string
    obtain ⟨rfl, rfl, hquote⟩ := colon_at (hblank _ List.mem_cons_self) hcolon
    obtain ⟨⟨value, blank''⟩, rest, rfl⟩ := List.exists_cons_of_ne_nil (hvalue rfl)
    obtain ⟨rfl, raw', rfl⟩ := quote_at htidy.of_punct.2
      (hblank _ (List.mem_cons_of_mem _ List.mem_cons_self)) hquote
    exact ⟨raw', string_at_eq_some.mpr ⟨raw, blank'', rest, hends, rfl⟩⟩

end Visible

/-! ## The search in a serialisation -/

theorem IsRaw.nul_notMem {raw : List UInt8} (h : IsRaw raw) : 0 ∉ raw := by
  induction h with
  | nil => exact List.not_mem_nil
  | char hnul _ _ _ ih =>
      intro hmem
      rcases List.mem_cons.mp hmem with rfl | hmem
      · exact hnul rfl
      · exact ih hmem
  | escape hnul _ ih =>
      intro hmem
      rcases List.mem_cons.mp hmem with hslash | hmem
      · exact absurd hslash (by decide)
      rcases List.mem_cons.mp hmem with rfl | hmem
      · exact hnul rfl
      · exact ih hmem

theorem Tidy.nul_notMem {tokens : List json_token} (h : Tidy tokens) :
    ∀ token ∈ tokens, 0 ∉ token.text := by
  induction h with
  | nil => exact nofun
  | @punct c tokens hc _ _ ih =>
      intro token htoken
      rcases List.mem_cons.mp htoken with rfl | htoken
      · rw [text, List.mem_singleton]
        intro hzero
        subst hzero
        exact absurd hc (by decide)
      · exact ih token htoken
  | string hraw _ ih =>
      intro token htoken
      rcases List.mem_cons.mp htoken with rfl | htoken
      · rw [text, List.mem_cons, List.mem_append, List.mem_singleton]
        rintro (hzero | hzero | hzero)
        · exact absurd hzero (by decide)
        · exact hraw.nul_notMem hzero
        · exact absurd hzero (by decide)
      · exact ih token htoken
  | scalar htext _ ih =>
      intro token htoken
      rcases List.mem_cons.mp htoken with rfl | htoken
      · exact fun hzero => absurd (htext.2 0 hzero) (by decide)
      · exact ih token htoken

namespace serialisation

variable {tokens : List json_token} (s : serialisation tokens) (h : IsObject tokens)

include h

/-- The text of an object is a string. -/
theorem nul_notMem : 0 ∉ s.text := by
  rw [serialisation.text, render, List.mem_append, List.mem_flatMap]
  rintro (hzero | ⟨⟨token, blank⟩, hitem, hzero⟩)
  · exact absurd (s.lead_blank 0 hzero) (by decide)
  · rcases List.mem_append.mp hzero with hzero | hzero
    · have htoken : token ∈ tokens := by
        rw [← s.tokens_eq]
        exact List.mem_map_of_mem hitem
      exact h.tidy.nul_notMem token htoken hzero
    · exact absurd (s.items_blank _ hitem 0 hzero) (by decide)

theorem ne_nil : s.text ≠ [] := by
  obtain ⟨rest, hrest⟩ : ∃ rest, tokens = punct 0x7B :: rest := by
    cases h with
    | object_nil => exact ⟨_, rfl⟩
    | object_members _ => exact ⟨_, rfl⟩
  obtain ⟨⟨token, blank⟩, items, hitems, htoken, -⟩ :=
    List.map_eq_cons_iff.mp (s.tokens_eq.trans hrest)
  dsimp only at htoken
  rw [serialisation.text, hitems, htoken, render_cons]
  exact List.append_ne_nil_of_right_ne_nil _ (List.cons_ne_nil _ _)

theorem tidy : Tidy (s.items.map Prod.fst) := by
  rw [s.tokens_eq]
  exact h.tidy

/-- **A search for a number** in the text. -/
theorem behind_number {key : List UInt8} (hkey : IsName key) :
    (CString.behind s.text (number_pattern key)).map CString.strtoll
      = (visible (number_at key) s.items).map fun value => CString.strtoll value.text := by
  have hlead : CString.behind s.text (number_pattern key)
      = CString.behind (render s.items) (number_pattern key) :=
    CString.behind_skip_of_notMem (quote_notMem_blank s.lead_blank) _
  rw [hlead]
  exact behind_number_pattern hkey (s.tidy h) s.items_blank

/-- **A search for a text** in the text. -/
theorem behind_string {key : List UInt8} (hkey : IsName key) :
    (CString.behind s.text (string_pattern key)).map (CString.before_chr · quote)
      = (visible (string_at key) s.items).map fun value => some (value.takeWhile (· ≠ quote)) := by
  have hlead : CString.behind s.text (string_pattern key)
      = CString.behind (render s.items) (string_pattern key) :=
    CString.behind_skip_of_notMem (quote_notMem_blank s.lead_blank) _
  rw [hlead]
  exact behind_string_pattern hkey (s.tidy h) s.items_blank

end serialisation

end WifiManager.Lib.JsonText
