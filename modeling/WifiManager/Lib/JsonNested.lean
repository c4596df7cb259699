/-
JSON values inside of values: arrays, and their text without white space.

The texts of the items of an array, with commas between them, are the text of the array
(`gapless_text_array`), so a program that writes the items one behind the other writes the
array. Items with equally many tokens can be told apart (`items_tokens_inj`).
-/
import WifiManager.Lib.JsonMembers

set_option autoImplicit false

namespace WifiManager.Lib.JsonText

open json_token

/-! ## Arrays -/

/-- The tokens between the brackets. -/
def items_tokens : List (List json_token) → List json_token
  | [] => []
  | [item] => item
  | item :: next :: items => item ++ .punct comma :: items_tokens (next :: items)

def array_tokens (items : List (List json_token)) : List json_token :=
  .punct 0x5B :: (items_tokens items ++ [.punct 0x5D])

theorem isJson_items_tokens {items : List (List json_token)} (hne : items ≠ [])
    (h : ∀ item ∈ items, IsJson .value item) : IsJson .items (items_tokens items) := by
  fun_induction items_tokens items with
  | case1 => exact absurd rfl hne
  | case2 item => exact .item (h item List.mem_cons_self)
  | case3 item next items ih =>
      exact .item_cons (h item List.mem_cons_self)
        (ih (List.cons_ne_nil _ _) fun item hitem => h item (List.mem_cons_of_mem _ hitem))

/-- An array of values is a value. -/
theorem isJson_array_tokens {items : List (List json_token)}
    (h : ∀ item ∈ items, IsJson .value item) : IsJson .value (array_tokens items) := by
  cases items with
  | nil => exact .array_nil
  | cons item items => exact .array (isJson_items_tokens (List.cons_ne_nil _ _) h)

/-- **Items of one size** are told apart. -/
theorem items_tokens_inj {size : ℕ} (hsize : 0 < size) {items items' : List (List json_token)}
    (h : ∀ item ∈ items, item.length = size) (h' : ∀ item ∈ items', item.length = size)
    (heq : items_tokens items = items_tokens items') : items = items' := by
  have hne : ∀ {item : List json_token}, item.length = size → item ≠ [] := by
    rintro item hitem rfl
    exact absurd hitem (Nat.ne_of_lt hsize)
  have hlong : ∀ {item : List json_token} (rest : List json_token), item.length = size →
      (item ++ punct comma :: rest).length ≠ size := by
    intro item rest hitem
    rw [List.length_append, List.length_cons]
    omega
  fun_induction items_tokens items generalizing items' with
  | case1 =>
      match items' with
      | [] => rfl
      | [item'] => exact absurd heq.symm (hne (h' item' List.mem_cons_self))
      | item' :: next' :: items' => exact absurd heq.symm (by simp [items_tokens])
  | case2 item =>
      have hitem := h item List.mem_cons_self
      match items' with
      | [] => exact absurd heq (hne hitem)
      | [item'] => rw [show item = item' from heq]
      | item' :: next' :: items' =>
          have hlength := hlong (items_tokens (next' :: items'))
            (h' item' List.mem_cons_self)
          rw [items_tokens] at heq
          exact absurd (heq ▸ hitem) hlength
  | case3 item next items ih =>
      have hitem := h item List.mem_cons_self
      match items' with
      | [] => exact absurd heq (by simp [items_tokens])
      | [item'] =>
          have hlength := hlong (items_tokens (next :: items)) hitem
          rw [show items_tokens [item'] = item' from rfl] at heq
          exact absurd (heq ▸ h' item' List.mem_cons_self) hlength
      | item' :: next' :: items' =>
          have hitem' := h' item' List.mem_cons_self
          rw [items_tokens] at heq
          obtain ⟨rfl, hrest⟩ := List.append_inj heq (hitem.trans hitem'.symm)
          rw [ih (fun item hitem => h item (List.mem_cons_of_mem _ hitem))
            (fun item hitem => h' item (List.mem_cons_of_mem _ hitem)) (List.cons.inj hrest).2]

theorem array_tokens_inj {size : ℕ} (hsize : 0 < size) {items items' : List (List json_token)}
    (h : ∀ item ∈ items, item.length = size) (h' : ∀ item ∈ items', item.length = size)
    (heq : array_tokens items = array_tokens items') : items = items' := by
  have htokens := List.append_cancel_right (List.cons.inj heq).2
  exact items_tokens_inj hsize h h' htokens

/-! ## Text -/

/-- The text of tokens with nothing between them. -/
def gapless_text (tokens : List json_token) : List UInt8 := render (gapless tokens)

theorem gapless_text_cons (token : json_token) (tokens : List json_token) :
    gapless_text (token :: tokens) = token.text ++ gapless_text tokens :=
  render_gapless_cons token tokens

theorem gapless_text_append (tokens tokens' : List json_token) :
    gapless_text (tokens ++ tokens') = gapless_text tokens ++ gapless_text tokens' := by
  induction tokens with
  | nil => rfl
  | cons token tokens ih =>
      rw [List.cons_append, gapless_text_cons, gapless_text_cons, ih, List.append_assoc]

theorem gapless_text_items (items : List (List json_token)) :
    gapless_text (items_tokens items) = [comma].intercalate (items.map gapless_text) := by
  fun_induction items_tokens items with
  | case1 => rfl
  | case2 item => rw [List.map_cons, List.map_nil, List.intercalate_singleton]
  | case3 item next items ih =>
      rw [gapless_text_append, gapless_text_cons, ih, List.map_cons, List.map_cons, List.map_cons,
        List.intercalate_cons_cons, List.append_assoc]
      rfl

theorem gapless_text_array (items : List (List json_token)) :
    gapless_text (array_tokens items)
      = 0x5B :: ([comma].intercalate (items.map gapless_text) ++ [0x5D]) := by
  rw [array_tokens, gapless_text_cons, gapless_text_append, gapless_text_items]
  rfl

theorem gapless_serialisation_text (tokens : List json_token) :
    (gapless_serialisation tokens).text = gapless_text tokens := rfl

theorem gapless_text_object (members : List json_member) :
    gapless_text (object_tokens members) = compact members := (compact_eq members).symm

end WifiManager.Lib.JsonText
