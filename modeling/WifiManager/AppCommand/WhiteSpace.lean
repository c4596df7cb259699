/-
White space in the payload of a command.

A field is found only where its key, the colon and, for a text, the quotation mark stand together,
so white space between them hides it. Whether two serialisations of one object are the same command
is therefore a matter of the places where the keys of the command stand: for each field in turn,
both have to show the same place first (`SamePlaces`). Elsewhere white space is harmless. This is
enough for every object, and it is necessary where a key stands at one place only and its value
does not read as an absent field (`app_command_parse_white_space`). The compact payload of
BLOCK_TRAFFIC is accepted, and the same payload with a space behind each colon is not
(`app_command_parse_indented`).
-/
import WifiManager.AppCommand.Fields
import WifiManager.Lib.JsonMembers

set_option autoImplicit false

namespace WifiManager.AppCommand

open WifiManager.Lib JsonText app_command_type_t

/-! ## The places of a key -/

/-- The key that is searched for. -/
def command_field.key : command_field → c_string
  | text key _ _ => key
  | number key _ => key

/-- A text is searched for with the quotation mark behind the colon. -/
def command_field.is_text : command_field → Bool
  | text _ _ _ => true
  | number _ _ => false

/-- Only a text may be missing. -/
def command_field.required : command_field → Bool
  | text _ _ required => required
  | number _ _ => true

/-- The tokens begin with the key of a field, its colon and a value, for a text a text. -/
def key_front (field : command_field) : List json_token → Bool
  | .string raw :: .punct c :: .string _ :: _ => EndsWith raw field.key ∧ c = colon
  | .string raw :: .punct c :: _ :: _ => EndsWith raw field.key ∧ c = colon ∧ field.is_text = false
  | _ => false

/-- The places where it stands among the tokens. -/
def places (field : command_field) (tokens : List json_token) : List ℕ :=
  (List.range tokens.length).filter fun i => key_front field (tokens.drop i)

section Places

variable {tokens : List json_token}

/-- The white space behind a token. -/
def blank_behind (s : serialisation tokens) (i : ℕ) : List UInt8 :=
  (s.items[i]?).elim [] Prod.snd

/-- No white space stands between the key at a place and its colon nor, for a text, between the
colon and the quotation mark. -/
def shown_at (field : command_field) (s : serialisation tokens) (i : ℕ) : Bool :=
  blank_behind s i = [] ∧ (field.is_text = true → blank_behind s (i + 1) = [])

/-- The first place of the key that is shown. -/
def first_shown (field : command_field) (s : serialisation tokens) : Option ℕ :=
  (places field tokens).find? (shown_at field s)

/-- A value that the field takes: a text that fits its buffer, a number in range. -/
def command_field.takes : command_field → json_token → Bool
  | text _ size _, .string raw => (raw.takeWhile (· ≠ quote)).length < size
  | number _ out_of_range, token => (CString.strtoll token.text).any fun value => !out_of_range value
  | _, _ => false

/-- The field does not end the command: it is shown with a value that it takes, or is shown nowhere
and may be missing. -/
def goes_on (field : command_field) (s : serialisation tokens) : Bool :=
  match first_shown field s with
  | none => !field.required
  | some i => (tokens[i + 2]?).any field.takes

/-- The two serialisations show the same place of each key first, up to a field that ends the
command. -/
def SamePlaces (s s' : serialisation tokens) : List command_field → Prop
  | [] => True
  | field :: rest =>
      first_shown field s = first_shown field s' ∧ (goes_on field s = true → SamePlaces s s' rest)

instance decidableSamePlaces (s s' : serialisation tokens) :
    ∀ fields, Decidable (SamePlaces s s' fields)
  | [] => isTrue trivial
  | field :: rest =>
      have := decidableSamePlaces s s' rest
      inferInstanceAs (Decidable (first_shown field s = first_shown field s' ∧
        (goes_on field s = true → SamePlaces s s' rest)))

/-- The fields of a message: the request id comes first. -/
def searched (type : app_command_type_t) : List command_field :=
  .text (c_str "requestId") APP_COMMAND_REQUEST_ID_SIZE false :: fields type

end Places

/-! ## The search, place by place -/

section Search

variable {tokens : List json_token} (s : serialisation tokens)

theorem length_items : s.items.length = tokens.length := by
  have h := congrArg List.length s.tokens_eq
  rwa [List.length_map] at h

theorem drop_tokens (i : ℕ) : tokens.drop i = (s.items.drop i).map Prod.fst := by
  rw [List.map_drop, s.tokens_eq]

theorem blank_behind_drop (i j : ℕ) :
    blank_behind s (i + j) = ((s.items.drop i)[j]?).elim [] Prod.snd := by
  rw [blank_behind, List.getElem?_drop]

theorem value_drop (i : ℕ) : tokens[i + 2]? = ((s.items.drop i).map Prod.fst)[2]? := by
  rw [← drop_tokens, List.getElem?_drop]

theorem key_front_iff (field : command_field) (tokens : List json_token) :
    key_front field tokens = true ↔ ∃ raw value rest, EndsWith raw field.key ∧
      tokens = .string raw :: .punct colon :: value :: rest ∧
      (field.is_text = true → ∃ text, value = .string text) := by
  unfold key_front
  split
  · simp [and_comm]
  · simp
    grind
  · simp
    grind

/-- Three tokens at the front, with what stands behind them. -/
theorem items_front {items : List (json_token × List UInt8)} {a b c : json_token}
    {rest : List json_token} (h : items.map Prod.fst = a :: b :: c :: rest) :
    ∃ blank blank' blank'' rest', items = (a, blank) :: (b, blank') :: (c, blank'') :: rest' := by
  obtain ⟨⟨_, blank⟩, items', rfl, rfl, h'⟩ := List.map_eq_cons_iff.mp h
  obtain ⟨⟨_, blank'⟩, items'', rfl, rfl, h''⟩ := List.map_eq_cons_iff.mp h'
  obtain ⟨⟨_, blank''⟩, rest', rfl, rfl, -⟩ := List.map_eq_cons_iff.mp h''
  exact ⟨blank, blank', blank'', rest', rfl⟩

/-- A number at a place. -/
theorem number_at_drop (key : c_string) (out_of_range : ℤ → Bool) (i : ℕ) :
    number_at key (s.items.drop i)
      = if key_front (.number key out_of_range) (tokens.drop i) = true ∧
            shown_at (.number key out_of_range) s i = true then tokens[i + 2]?
        else none := by
  have hblank := blank_behind_drop s i 0
  rw [Nat.add_zero] at hblank
  rw [shown_at, hblank, value_drop s, drop_tokens s]
  generalize s.items.drop i = items
  ext value
  rw [number_at_eq_some, Option.ite_none_right_eq_some, key_front_iff, decide_eq_true_iff]
  constructor
  · rintro ⟨raw, blank, blank', rest, hends, rfl⟩
    exact ⟨⟨⟨raw, value, _, hends, rfl, fun htext => by cases htext⟩, rfl,
      fun htext => by cases htext⟩, rfl⟩
  · rintro ⟨⟨⟨raw, value', rest, hends, hitems, -⟩, hblank, -⟩, hvalue⟩
    obtain ⟨blank, blank', blank'', rest', rfl⟩ := items_front hitems
    cases hvalue
    cases hblank
    exact ⟨raw, blank', blank'', rest', hends, rfl⟩

/-- A text at a place. -/
theorem string_at_drop (key : c_string) (size : ℕ) (required : Bool) (i : ℕ) :
    (string_at key (s.items.drop i)).map json_token.string
      = if key_front (.text key size required) (tokens.drop i) = true ∧
            shown_at (.text key size required) s i = true then tokens[i + 2]?
        else none := by
  have hblank := blank_behind_drop s i 0
  rw [Nat.add_zero] at hblank
  rw [shown_at, hblank, blank_behind_drop s i 1, value_drop s, drop_tokens s]
  generalize s.items.drop i = items
  ext value
  rw [Option.map_eq_some_iff, Option.ite_none_right_eq_some, key_front_iff, decide_eq_true_iff]
  constructor
  · rintro ⟨text, htext, rfl⟩
    obtain ⟨raw, blank, rest, hends, rfl⟩ := string_at_eq_some.mp htext
    exact ⟨⟨⟨raw, .string text, _, hends, rfl, fun _ => ⟨text, rfl⟩⟩, rfl, fun _ => rfl⟩, rfl⟩
  · rintro ⟨⟨⟨raw, value', rest, hends, hitems, hvalue'⟩, hblank, hblank'⟩, hvalue⟩
    obtain ⟨blank, blank', blank'', rest', rfl⟩ := items_front hitems
    obtain ⟨text, rfl⟩ := hvalue' rfl
    cases hvalue
    cases hblank
    cases hblank' rfl
    exact ⟨text, string_at_eq_some.mpr ⟨raw, blank'', rest', hends, rfl⟩, rfl⟩

/-- A place of a key has a value behind it. -/
theorem value_of_front {field : command_field} {i : ℕ}
    (h : key_front field (tokens.drop i) = true) : ∃ value, tokens[i + 2]? = some value := by
  obtain ⟨raw, value, rest, -, htokens, -⟩ := (key_front_iff _ _).mp h
  rw [← List.getElem?_drop, htokens]
  exact ⟨value, rfl⟩

/-- What a search for a field finds is the value behind the place that is shown first. -/
theorem first_shown_spec (field : command_field)
    (found_at : List (json_token × List UInt8) → Option json_token)
    (hfound : ∀ i, found_at (s.items.drop i)
      = if key_front field (tokens.drop i) = true ∧ shown_at field s i = true then tokens[i + 2]?
        else none) :
    visible found_at s.items = (first_shown field s).bind fun i => tokens[i + 2]? := by
  rw [visible_eq_bind, length_items s, first_shown, places, List.find?_filter]
  have hplace : (fun i => (found_at (s.items.drop i)).isSome)
      = fun i => decide (key_front field (tokens.drop i) = true ∧ shown_at field s i = true) := by
    funext i
    rw [hfound]
    by_cases hplace : key_front field (tokens.drop i) = true ∧ shown_at field s i = true
    · obtain ⟨value, hvalue⟩ := value_of_front hplace.1
      rw [if_pos hplace, hvalue, decide_eq_true hplace, Option.isSome_some]
    · rw [if_neg hplace, decide_eq_false hplace, Option.isSome_none]
  rw [hplace]
  refine Option.bind_congr fun i hi => ?_
  have hshown := List.find?_some hi
  rw [hfound, if_pos (of_decide_eq_true hshown)]

theorem visible_number (key : c_string) (out_of_range : ℤ → Bool) :
    visible (number_at key) s.items
      = (first_shown (.number key out_of_range) s).bind fun i => tokens[i + 2]? :=
  first_shown_spec s _ _ (number_at_drop s key out_of_range)

theorem visible_string (key : c_string) (size : ℕ) (required : Bool) :
    (visible (string_at key) s.items).map json_token.string
      = (first_shown (.text key size required) s).bind fun i => tokens[i + 2]? := by
  rw [← first_shown_spec s _ (fun items => (string_at key items).map json_token.string)
    (string_at_drop s key size required)]
  generalize s.items = items
  induction items with
  | nil => rfl
  | cons item items ih =>
      rw [visible, visible, Option.map_or, ih]

theorem first_shown_value {field : command_field} {i : ℕ} (h : first_shown field s = some i) :
    i ∈ places field tokens ∧ ∃ value, tokens[i + 2]? = some value :=
  have hplace := List.mem_of_find?_eq_some h
  ⟨hplace, value_of_front (List.mem_filter.mp hplace).2⟩

end Search

/-! ## The fields -/

section Fields

variable {tokens : List json_token} {s s' : serialisation tokens}

/-- What a field reads is fixed by the place that is shown first. -/
theorem read_eq_of_first_shown {field : command_field}
    (h : first_shown field s = first_shown field s') : field.read s.items = field.read s'.items := by
  cases field with
  | text key size required =>
      have hvisible : visible (string_at key) s.items = visible (string_at key) s'.items := by
        apply Option.map_injective (fun _ _ htoken => json_token.string.inj htoken)
        rw [visible_string s key size required, visible_string s' key size required, h]
      dsimp only [command_field.read, read_text]
      rw [hvisible]
  | number key out_of_range =>
      dsimp only [command_field.read, read_number]
      rw [visible_number s key out_of_range, visible_number s' key out_of_range, h]

/-- A field ends the command unless it goes on. -/
theorem read_goes_on_iff (field : command_field) :
    (field.read s.items).2 = none ↔ goes_on field s = true := by
  cases field with
  | text key size required =>
      have hvisible := visible_string s key size required
      rw [goes_on]
      dsimp only [command_field.read, read_text]
      cases hfirst : first_shown (.text key size required) s with
      | none =>
          rw [hfirst, Option.bind_none, Option.map_eq_none_iff] at hvisible
          rw [hvisible]
          cases required <;> simp [command_field.required]
      | some i =>
          obtain ⟨-, value, hvalue⟩ := first_shown_value s hfirst
          rw [hfirst, Option.bind_some, hvalue, Option.map_eq_some_iff] at hvisible
          obtain ⟨raw, hraw, rfl⟩ := hvisible
          rw [hraw]
          dsimp only
          rw [hvalue, Option.any_some, command_field.takes, decide_eq_true_iff]
          split_ifs with hlength
          · exact iff_of_false (fun h => by cases h) (Nat.not_lt.mpr hlength)
          · exact iff_of_true rfl (Nat.lt_of_not_le hlength)
  | number key out_of_range =>
      have hvisible := visible_number s key out_of_range
      rw [goes_on]
      dsimp only [command_field.read, read_number]
      cases hfirst : first_shown (.number key out_of_range) s with
      | none =>
          rw [hvisible, hfirst]
          simp [command_field.required]
      | some i =>
          obtain ⟨-, value, hvalue⟩ := first_shown_value s hfirst
          rw [hvisible, hfirst, Option.bind_some, hvalue]
          dsimp only
          rw [hvalue, Option.any_some, command_field.takes]
          cases CString.strtoll value.text with
          | none => simp
          | some n => cases hrange : out_of_range n <;> simp [hrange]

/-- **The fields read the same**, where the same places are shown. -/
theorem read_fields_of_places {fields : List command_field} (h : SamePlaces s s' fields) :
    read_fields fields s.items = read_fields fields s'.items := by
  induction fields with
  | nil => rfl
  | cons field rest ih =>
      obtain ⟨hplace, hrest⟩ := h
      have hread := read_eq_of_first_shown hplace
      rw [read_fields, read_fields, ← hread]
      cases hgoes : (field.read s.items).2 with
      | some err => rfl
      | none =>
          dsimp only
          rw [ih (hrest ((read_goes_on_iff field).mp hgoes))]

end Fields

/-! ## The other way round -/

/-- A value that reads as an absent field does: an empty text, or the number 0. -/
def command_field.absent : command_field → json_token → Bool
  | text _ _ _, .string raw => raw.takeWhile (· ≠ quote) = []
  | number _ _, token => CString.strtoll token.text = some 0
  | _, _ => false

/-- The key of a field stands at one place at most, and the value there is not one that an absent
field has. -/
structure Telling (tokens : List json_token) (field : command_field) : Prop where
  once : (places field tokens).length ≤ 1
  present : ∀ i ∈ places field tokens, (tokens[i + 2]?).any field.absent = false

section Converse

variable {tokens : List json_token} {s s' : serialisation tokens} {field : command_field}
  {rest : List command_field}

/-- A field that is shown nowhere. -/
theorem read_hidden (h : first_shown field s = none) :
    field.read s.items
      = (field.cleared, if field.required = true then some .ESP_ERR_NOT_FOUND else none) := by
  cases field with
  | text key size required =>
      have hvisible := visible_string s key size required
      rw [h, Option.bind_none, Option.map_eq_none_iff] at hvisible
      dsimp only [command_field.read, read_text]
      rw [hvisible]
      rfl
  | number key out_of_range =>
      dsimp only [command_field.read, read_number]
      rw [visible_number s key out_of_range, h]
      rfl

/-- A field that is shown leaves something behind, or ends the command otherwise than one that is
missing. -/
theorem read_shown {i : ℕ} (htelling : Telling tokens field) (h : first_shown field s = some i) :
    (field.read s.items).1 ≠ field.cleared ∨
      ∃ err, (field.read s.items).2 = some err ∧ err ≠ .ESP_OK ∧ err ≠ .ESP_ERR_NOT_FOUND := by
  obtain ⟨hplace, value, hvalue⟩ := first_shown_value s h
  have hpresent := htelling.present i hplace
  rw [hvalue, Option.any_some] at hpresent
  cases field with
  | text key size required =>
      have hvisible := visible_string s key size required
      rw [h, Option.bind_some, hvalue, Option.map_eq_some_iff] at hvisible
      obtain ⟨raw, hraw, rfl⟩ := hvisible
      dsimp only [command_field.read, read_text]
      rw [hraw]
      dsimp only
      split_ifs with hlength
      · exact .inr ⟨_, rfl, by decide, by decide⟩
      · exact .inl (of_decide_eq_false hpresent)
  | number key out_of_range =>
      dsimp only [command_field.read, read_number]
      rw [visible_number s key out_of_range, h, Option.bind_some, hvalue]
      dsimp only
      cases hnumber : CString.strtoll value.text with
      | none => exact .inr ⟨_, rfl, by decide, by decide⟩
      | some n =>
          refine .inl fun hzero => ?_
          have hzero' : n = 0 := hzero
          rw [command_field.absent, hnumber, hzero'] at hpresent
          cases hpresent

/-- Only the last field may be missing. -/
def OptionalLast : List command_field → Prop
  | [] => True
  | field :: rest => (field.required = false → rest = []) ∧ OptionalLast rest

theorem optionalLast_fields (type : app_command_type_t) : OptionalLast (fields type) := by
  cases type <;> simp [fields, OptionalLast, command_field.required]

theorem read_fields_stop {items : List (json_token × List UInt8)} {err : esp_err_t}
    (h : (field.read items).2 = some err) :
    read_fields (field :: rest) items = (((field.read items).1, all_cleared rest), err) := by
  rw [read_fields, h]

theorem read_fields_go {items : List (json_token × List UInt8)} (h : (field.read items).2 = none) :
    read_fields (field :: rest) items
      = (((field.read items).1, (read_fields rest items).1), (read_fields rest items).2) := by
  rw [read_fields, h]

/-- A field that one of the two hides leaves its mark on the reading. -/
theorem read_fields_hidden_ne {i : ℕ} (htelling : Telling tokens field)
    (hlast : field.required = false → rest = []) (hhidden : first_shown field s = none)
    (hshown : first_shown field s' = some i) :
    read_fields (field :: rest) s.items ≠ read_fields (field :: rest) s'.items := by
  intro hsame
  have hread := read_hidden hhidden
  have hfst : (field.read s.items).1 = (field.read s'.items).1 := by
    have h := congrArg (fun result => result.1.1) hsame
    rw [read_fields, read_fields] at h
    revert h
    cases (field.read s.items).2 <;> cases (field.read s'.items).2 <;> exact id
  rcases read_shown htelling hshown with hne | ⟨err, herr, hok, hmissing⟩
  · rw [hread] at hfst
    exact hne hfst.symm
  · rw [read_fields_stop herr] at hsame
    cases hrequired : field.required with
    | true =>
        rw [hrequired, if_pos rfl] at hread
        rw [read_fields_stop (congrArg Prod.snd hread)] at hsame
        exact hmissing (congrArg Prod.snd hsame).symm
    | false =>
        obtain rfl := hlast hrequired
        rw [hrequired] at hread
        rw [read_fields_go (congrArg Prod.snd hread)] at hsame
        exact hok (congrArg Prod.snd hsame).symm

/-- Two places of a key that stands at one place only. -/
theorem first_shown_cases (s s' : serialisation tokens) (htelling : Telling tokens field) :
    first_shown field s = first_shown field s' ∨
      (∃ i, first_shown field s = none ∧ first_shown field s' = some i) ∨
      ∃ i, first_shown field s = some i ∧ first_shown field s' = none := by
  cases hfirst : first_shown field s with
  | none =>
      cases hfirst' : first_shown field s' with
      | none => exact .inl rfl
      | some i => exact .inr (.inl ⟨i, rfl, rfl⟩)
  | some i =>
      cases hfirst' : first_shown field s' with
      | none => exact .inr (.inr ⟨i, rfl, rfl⟩)
      | some j =>
          have hi := (first_shown_value s hfirst).1
          have hj := (first_shown_value s' hfirst').1
          obtain ⟨k, hk⟩ := List.length_eq_one_iff.mp
            (le_antisymm htelling.once (List.length_pos_of_mem hi))
          rw [hk, List.mem_singleton] at hi hj
          exact .inl (by rw [hi, hj])

/-- **Fields that read the same** are shown at the same places. -/
theorem places_of_read_fields {fields : List command_field}
    (htelling : ∀ field ∈ fields, Telling tokens field) (hlast : OptionalLast fields)
    (h : read_fields fields s.items = read_fields fields s'.items) : SamePlaces s s' fields := by
  induction fields with
  | nil => trivial
  | cons field rest ih =>
      have hfield := htelling field List.mem_cons_self
      rcases first_shown_cases s s' hfield with hplace | ⟨i, hnone, hsome⟩ |
        ⟨i, hsome, hnone⟩
      · refine ⟨hplace, fun hgoes => ih (fun f hf => htelling f (List.mem_cons_of_mem _ hf))
          hlast.2 ?_⟩
        have hread := read_eq_of_first_shown hplace
        have hnone := (read_goes_on_iff field).mpr hgoes
        rw [read_fields_go hnone, read_fields_go (hread ▸ hnone), Prod.mk.injEq,
          Prod.mk.injEq] at h
        exact Prod.ext h.1.2 h.2
      · exact absurd h (read_fields_hidden_ne hfield hlast.1 hnone hsome)
      · exact absurd h.symm (read_fields_hidden_ne hfield hlast.1 hnone hsome)

end Converse

/-! ## Two messages -/

theorem fill_type (request_id : c_string) (type : app_command_type_t)
    (values : values (fields type)) : (fill request_id type values).type = type := by
  cases type <;> rfl

/-- Different fields are different requests. -/
theorem fill_inj {type : app_command_type_t} {request_id request_id' : c_string}
    {kept kept' : values (fields type)} :
    fill request_id type kept = fill request_id' type kept' ↔
      request_id = request_id' ∧ kept = kept' := by
  constructor
  · intro h
    cases type with
    | ALLOW =>
        obtain ⟨mac, session_id, ttl_seconds, ⟨⟩⟩ := kept
        obtain ⟨mac', session_id', ttl_seconds', ⟨⟩⟩ := kept'
        cases h
        exact ⟨rfl, rfl⟩
    | REVOKE_ACCESS =>
        obtain ⟨mac, session_id, ⟨⟩⟩ := kept
        obtain ⟨mac', session_id', ⟨⟩⟩ := kept'
        cases h
        exact ⟨rfl, rfl⟩
    | DISCONNECT_MAC =>
        obtain ⟨mac, alert_id, ⟨⟩⟩ := kept
        obtain ⟨mac', alert_id', ⟨⟩⟩ := kept'
        cases h
        exact ⟨rfl, rfl⟩
    | KICK =>
        obtain ⟨reason, ⟨⟩⟩ := kept
        obtain ⟨reason', ⟨⟩⟩ := kept'
        cases h
        exact ⟨rfl, rfl⟩
    | BLOCK_TRAFFIC =>
        obtain ⟨alert_id, dst_ip, sni, ⟨⟩⟩ := kept
        obtain ⟨alert_id', dst_ip', sni', ⟨⟩⟩ := kept'
        cases h
        exact ⟨rfl, rfl⟩
    | _ =>
        cases h
        exact ⟨rfl, rfl⟩
  · rintro ⟨rfl, rfl⟩
    rfl

theorem read_command_type_ne_unknown {topic : List UInt8} :
    read_command_type_from_topic topic ≠ .ok UNKNOWN := by
  unfold read_command_type_from_topic
  split_ifs
  · exact nofun
  · split
    · exact nofun
    · split_ifs <;> exact nofun

/-- The message that a payload with these tokens is. -/
def read_message (type : app_command_type_t) (items : List (json_token × List UInt8)) :
    app_command_request_t × esp_err_t :=
  match (read_text (c_str "requestId") APP_COMMAND_REQUEST_ID_SIZE false items).2 with
  | some err =>
      ({ request_id := (read_text (c_str "requestId") APP_COMMAND_REQUEST_ID_SIZE false items).1 },
        err)
  | none =>
      (fill (read_text (c_str "requestId") APP_COMMAND_REQUEST_ID_SIZE false items).1 type
          (read_fields (fields type) items).1,
        (read_fields (fields type) items).2)

section Messages

variable {tokens : List json_token} {s s' : serialisation tokens} {type : app_command_type_t}

/-- **The same message**, where the same places are shown. -/
theorem read_message_of_places (h : SamePlaces s s' (searched type)) :
    read_message type s.items = read_message type s'.items := by
  obtain ⟨hplace, hrest⟩ := h
  have hread := read_eq_of_first_shown hplace
  dsimp only [command_field.read] at hread
  rw [read_message, read_message, ← hread]
  cases hgoes : (read_text (c_str "requestId") APP_COMMAND_REQUEST_ID_SIZE false s.items).2 with
  | some err => rfl
  | none =>
      dsimp only
      rw [read_fields_of_places (hrest ((read_goes_on_iff _).mp hgoes))]

/-- A request id that one of the two hides leaves its mark on the message. -/
theorem read_message_hidden_ne {topic : List UInt8} {i : ℕ}
    (htopic : read_command_type_from_topic topic = .ok type)
    (htelling : Telling tokens (.text (c_str "requestId") APP_COMMAND_REQUEST_ID_SIZE false))
    (hhidden : first_shown (.text (c_str "requestId") APP_COMMAND_REQUEST_ID_SIZE false) s = none)
    (hshown : first_shown (.text (c_str "requestId") APP_COMMAND_REQUEST_ID_SIZE false) s'
      = some i) : read_message type s.items ≠ read_message type s'.items := by
  intro hsame
  have hread : read_text (c_str "requestId") APP_COMMAND_REQUEST_ID_SIZE false s.items
      = ([], none) := read_hidden hhidden
  have hread' := read_shown htelling hshown
  dsimp only [command_field.read] at hread'
  rw [read_message, read_message, hread] at hsame
  cases hgoes : (read_text (c_str "requestId") APP_COMMAND_REQUEST_ID_SIZE false s'.items).2 with
  | some err =>
      -- a request id that is too long ends the command before its type is known
      rw [hgoes] at hsame
      have htype := congrArg (fun message => message.1.type) hsame
      dsimp only at htype
      rw [fill_type] at htype
      exact read_command_type_ne_unknown (htopic.trans (congrArg Except.ok htype))
  | none =>
      rw [hgoes] at hsame hread'
      have hid := (fill_inj.mp (Prod.mk.inj hsame).1).1
      rcases hread' with hne | ⟨err, herr, -⟩
      · exact hne hid.symm
      · cases herr

/-- **The same places are shown**, where the messages are the same. -/
theorem places_of_read_message {topic : List UInt8}
    (htopic : read_command_type_from_topic topic = .ok type)
    (htelling : ∀ field ∈ searched type, Telling tokens field)
    (h : read_message type s.items = read_message type s'.items) :
    SamePlaces s s' (searched type) := by
  have hid := htelling _ List.mem_cons_self
  rcases first_shown_cases s s' hid with hplace | ⟨i, hnone, hsome⟩ | ⟨i, hsome, hnone⟩
  · refine ⟨hplace, fun hgoes => ?_⟩
    have hread := read_eq_of_first_shown hplace
    have hnone := (read_goes_on_iff _).mpr hgoes
    dsimp only [command_field.read] at hread hnone
    rw [read_message, read_message, ← hread, hnone, Prod.mk.injEq, fill_inj] at h
    exact places_of_read_fields (fun field hf => htelling field (List.mem_cons_of_mem _ hf))
      (optionalLast_fields type) (Prod.ext h.1.2 h.2)
  · exact absurd h (read_message_hidden_ne htopic hid hnone hsome)
  · exact absurd h.symm (read_message_hidden_ne htopic hid hnone hsome)

end Messages

/-- **White space in a command.** Two serialisations of an object are the same command if they show
the same places of its keys first; and where each key stands at one place only, with a value that
an absent field does not have, they are the same command only then. -/
theorem app_command_parse_white_space {topic : List UInt8} {type : app_command_type_t}
    (htopic : read_command_type_from_topic topic = .ok type) (htype : type ≠ STAGE_WIFI_CONFIG)
    {tokens : List json_token} (hobject : IsObject tokens) (s s' : serialisation tokens)
    (hlength : s.text.length ≤ 2047) (hlength' : s'.text.length ≤ 2047)
    (cJSON_ParseWithOpts : c_string → Option cJSON) (request : app_command_request_t) :
    (SamePlaces s s' (searched type) →
        app_command_parse cJSON_ParseWithOpts (some topic) (some s.text) request
          = app_command_parse cJSON_ParseWithOpts (some topic) (some s'.text) request) ∧
      ((∀ field ∈ searched type, Telling tokens field) →
        app_command_parse cJSON_ParseWithOpts (some topic) (some s.text) request
            = app_command_parse cJSON_ParseWithOpts (some topic) (some s'.text) request →
          SamePlaces s s' (searched type)) := by
  have hmessage : app_command_parse cJSON_ParseWithOpts (some topic) (some s.text) request
      = read_message type s.items :=
    app_command_parse_eq s hobject htopic htype (Nat.lt_succ_of_le hlength) _ request
  have hmessage' : app_command_parse cJSON_ParseWithOpts (some topic) (some s'.text) request
      = read_message type s'.items :=
    app_command_parse_eq s' hobject htopic htype (Nat.lt_succ_of_le hlength') _ request
  rw [hmessage, hmessage']
  exact ⟨read_message_of_places, places_of_read_message htopic⟩

/-! ## The example of BLOCK_TRAFFIC -/

def block_traffic_members : List json_member :=
  [(c_str "requestId", .text (c_str "req-block-1")), (c_str "alertId", .integer 3001),
    (c_str "dstIp", .text (c_str "93.184.216.34")), (c_str "sni", .text (c_str "example.com"))]

/-- The payload as an indented object, with a space behind each colon. -/
def block_traffic_items : List (json_token × List UInt8) :=
  [(.punct 0x7B, c_str "\n  "),
    (.string (c_str "requestId"), []), (.punct colon, c_str " "),
    (.string (c_str "req-block-1"), []), (.punct comma, c_str "\n  "),
    (.string (c_str "alertId"), []), (.punct colon, c_str " "),
    (.scalar (Decimal.decimal_int 3001), []), (.punct comma, c_str "\n  "),
    (.string (c_str "dstIp"), []), (.punct colon, c_str " "),
    (.string (c_str "93.184.216.34"), []), (.punct comma, c_str "\n  "),
    (.string (c_str "sni"), []), (.punct colon, c_str " "),
    (.string (c_str "example.com"), c_str "\n"),
    (.punct 0x7D, [])]

theorem block_traffic_items_blank : ∀ item ∈ block_traffic_items, IsBlank item.2 := by decide

def block_traffic_indented : serialisation (object_tokens block_traffic_members) where
  lead := []
  items := block_traffic_items
  tokens_eq := rfl
  lead_blank := isBlank_nil
  items_blank := block_traffic_items_blank

example : block_traffic_indented.text = c_str ("\x7b\n  \"requestId\": \"req-block-1\",\n"
    ++ "  \"alertId\": 3001,\n  \"dstIp\": \"93.184.216.34\",\n"
    ++ "  \"sni\": \"example.com\"\n\x7d") := by
  decide +kernel

theorem isObject_block_traffic : IsObject (object_tokens block_traffic_members) :=
  isObject_object_tokens (by decide)

/-- The same object with a space behind each comma and behind the colon of the number. -/
def block_traffic_spaced : serialisation (object_tokens block_traffic_members) where
  lead := []
  items :=
    [(.punct 0x7B, []),
      (.string (c_str "requestId"), []), (.punct colon, []),
      (.string (c_str "req-block-1"), []), (.punct comma, c_str " "),
      (.string (c_str "alertId"), []), (.punct colon, c_str " "),
      (.scalar (Decimal.decimal_int 3001), []), (.punct comma, c_str " "),
      (.string (c_str "dstIp"), []), (.punct colon, []),
      (.string (c_str "93.184.216.34"), []), (.punct comma, c_str " "),
      (.string (c_str "sni"), []), (.punct colon, []),
      (.string (c_str "example.com"), []),
      (.punct 0x7D, c_str "\n")]
  tokens_eq := rfl
  lead_blank := isBlank_nil
  items_blank := by decide

theorem telling_block_traffic :
    ∀ field ∈ searched BLOCK_TRAFFIC, Telling (object_tokens block_traffic_members) field := by
  intro field hfield
  rw [searched, fields] at hfield
  simp only [List.mem_cons, List.not_mem_nil, or_false] at hfield
  rcases hfield with rfl | rfl | rfl | rfl
  · exact ⟨by decide, by decide⟩
  · exact ⟨by decide, by decide⟩
  · exact ⟨by decide, by decide⟩
  · exact ⟨by decide, by decide⟩

/-- Spaces behind the commas and in front of the number change nothing, those of the indented
object do. -/
theorem app_command_parse_spaced :
    app_command_parse (fun _ => none)
          (some (c_str "wifi/device/esp32-gateway-001/cmd/block-traffic"))
          (some (gapless_serialisation (object_tokens block_traffic_members)).text) {}
        = app_command_parse (fun _ => none)
          (some (c_str "wifi/device/esp32-gateway-001/cmd/block-traffic"))
          (some block_traffic_spaced.text) {} ∧
      app_command_parse (fun _ => none)
          (some (c_str "wifi/device/esp32-gateway-001/cmd/block-traffic"))
          (some (gapless_serialisation (object_tokens block_traffic_members)).text) {}
        ≠ app_command_parse (fun _ => none)
          (some (c_str "wifi/device/esp32-gateway-001/cmd/block-traffic"))
          (some block_traffic_indented.text) {} := by
  refine ⟨?_, fun hsame => ?_⟩
  · have hplaces : SamePlaces (gapless_serialisation (object_tokens block_traffic_members))
        block_traffic_spaced (searched BLOCK_TRAFFIC) := by decide
    exact (app_command_parse_white_space (by decide) (by decide) isObject_block_traffic
      (gapless_serialisation _) block_traffic_spaced (by decide +kernel) (by decide +kernel)
      _ _).1 hplaces
  · have hplaces := (app_command_parse_white_space (by decide) (by decide) isObject_block_traffic
      (gapless_serialisation _) block_traffic_indented (by decide +kernel) (by decide +kernel)
      _ _).2 telling_block_traffic hsame
    revert hplaces
    decide

/-- **White space is not insignificant**: the compact payload is a command, and the indented one
is refused, for its destination is not found. -/
theorem app_command_parse_indented :
    ¬ ∀ (topic : List UInt8) (type : app_command_type_t),
      read_command_type_from_topic topic = .ok type → type ≠ STAGE_WIFI_CONFIG →
      ∀ tokens : List json_token, IsObject tokens → ∀ s s' : serialisation tokens,
      s.text.length ≤ 2047 → s'.text.length ≤ 2047 →
      ∀ (cJSON_ParseWithOpts : c_string → Option cJSON) (request : app_command_request_t),
      app_command_parse cJSON_ParseWithOpts (some topic) (some s.text) request
        = app_command_parse cJSON_ParseWithOpts (some topic) (some s'.text) request := by
  intro h
  have hsame := h (c_str "wifi/device/esp32-gateway-001/cmd/block-traffic") BLOCK_TRAFFIC
    (by decide) (by decide) _ isObject_block_traffic (gapless_serialisation _)
    block_traffic_indented (by decide +kernel) (by decide +kernel) (fun _ => none) {}
  have herr := congrArg Prod.snd hsame
  revert herr
  decide +kernel

end WifiManager.AppCommand
