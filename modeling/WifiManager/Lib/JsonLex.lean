/-
The tokens of a JSON text.

`lex` reads a text from the left, byte by byte: outside of texts, inside of one, behind a
backslash, or in a number or a word. Of every serialisation it gives back the tokens
(`serialisation.lex_text`), whatever the white space, so a text has one reading.
-/
import WifiManager.Lib.JsonText

set_option autoImplicit false

namespace WifiManager.Lib.JsonText

open json_token

/-! ## The lexer -/

/-- What is being read, with what has been read of it. -/
inductive lex_state
  | between
  | inside (raw : List UInt8)
  | escaped (raw : List UInt8)
  | scalar (text : List UInt8)

/-- A byte outside of texts: the token that it is, and what is read behind it. -/
def lex_begin (c : UInt8) : List json_token × lex_state :=
  if c = quote then ([], .inside [])
  else if IsPunct c then ([punct c], .between)
  else if c ∈ [0x20, 0x09, 0x0A, 0x0D] then ([], .between)
  else ([], .scalar [c])

/-- A byte: the tokens that it completes, and what is read behind it. -/
def lex_step : lex_state → UInt8 → List json_token × lex_state
  | .between, c => lex_begin c
  | .inside raw, c =>
      if c = quote then ([string raw], .between)
      else if c = backslash then ([], .escaped (raw ++ [c]))
      else ([], .inside (raw ++ [c]))
  | .escaped raw, c => ([], .inside (raw ++ [c]))
  | .scalar text, c =>
      match lex_begin c with
      | (_, .scalar _) => ([], .scalar (text ++ [c]))
      -- the byte ends the number and is read as if there was none
      | (tokens, state) => (json_token.scalar text :: tokens, state)

/-- The tokens of the rest of a text. A text that is not closed is no token. -/
def lex_from : lex_state → List UInt8 → List json_token
  | .scalar text, [] => [json_token.scalar text]
  | _, [] => []
  | state, c :: text => (lex_step state c).1 ++ lex_from (lex_step state c).2 text

def lex (text : List UInt8) : List json_token := lex_from .between text

/-! ## One token -/

theorem lex_from_cons (state : lex_state) (c : UInt8) (text : List UInt8) :
    lex_from state (c :: text) = (lex_step state c).1 ++ lex_from (lex_step state c).2 text := by
  cases state <;> rfl

theorem lex_from_punct {c : UInt8} (hc : IsPunct c) (text : List UInt8) :
    lex_from .between (c :: text) = punct c :: lex_from .between text := by
  have hquote : c ≠ quote := by
    rintro rfl
    exact absurd hc (by decide)
  rw [lex_from_cons, lex_step, lex_begin, if_neg hquote, if_pos hc]
  rfl

theorem lex_begin_blank {c : UInt8} (hc : c ∈ [0x20, 0x09, 0x0A, 0x0D]) :
    lex_begin c = ([], .between) := by
  have hother : c ≠ quote ∧ ¬ IsPunct c := by
    simp only [List.mem_cons, List.not_mem_nil, or_false] at hc
    rcases hc with rfl | rfl | rfl | rfl <;> decide
  obtain ⟨hquote, hpunct⟩ := hother
  rw [lex_begin, if_neg hquote, if_neg hpunct, if_pos hc]

theorem lex_from_blank {blank : List UInt8} (h : IsBlank blank) (text : List UInt8) :
    lex_from .between (blank ++ text) = lex_from .between text := by
  induction blank with
  | nil => rfl
  | cons c blank ih =>
      obtain ⟨hc, hblank⟩ := List.forall_mem_cons.mp h
      rw [List.cons_append, lex_from_cons, lex_step, lex_begin_blank hc, List.nil_append,
        ih hblank]

/-- The bytes of a text, behind those that have been read. -/
theorem lex_from_raw {raw : List UInt8} (h : IsRaw raw) (front text : List UInt8) :
    lex_from (.inside front) (raw ++ quote :: text)
      = string (front ++ raw) :: lex_from .between text := by
  induction h generalizing front with
  | nil =>
      rw [List.nil_append, lex_from_cons, lex_step, if_pos rfl, List.append_nil]
      rfl
  | @char c raw hnul hquote hbackslash h ih =>
      rw [List.cons_append, lex_from_cons, lex_step, if_neg hquote, if_neg hbackslash,
        List.nil_append, ih, List.append_assoc, List.singleton_append]
  | @escape c raw hnul h ih =>
      have hbackslash : backslash ≠ quote := by decide
      rw [List.cons_append, List.cons_append, lex_from_cons, lex_step, if_neg hbackslash,
        if_pos rfl, List.nil_append, lex_from_cons, lex_step, List.nil_append, ih,
        List.append_assoc, List.append_assoc]
      rfl

theorem lex_from_string {raw : List UInt8} (h : IsRaw raw) (text : List UInt8) :
    lex_from .between (quote :: (raw ++ [quote]) ++ text)
      = string raw :: lex_from .between text := by
  rw [List.cons_append, List.append_assoc, List.singleton_append, lex_from_cons, lex_step,
    lex_begin, if_pos rfl, List.nil_append, lex_from_raw h, List.nil_append]

theorem ne_of_scalar : ∀ c : UInt8,
    isalpha c = true ∨ CString.isdigit c = true ∨ c ∈ [0x2B, 0x2D, 0x2E] →
      c ≠ quote ∧ ¬ IsPunct c ∧ c ∉ [0x20, 0x09, 0x0A, 0x0D] :=
  CString.forall_byte (by decide +kernel)

/-- A byte of a number. -/
theorem lex_begin_scalar {c : UInt8}
    (h : isalpha c = true ∨ CString.isdigit c = true ∨ c ∈ [0x2B, 0x2D, 0x2E]) :
    lex_begin c = ([], .scalar [c]) := by
  obtain ⟨hquote, hpunct, hblank⟩ := ne_of_scalar c h
  rw [lex_begin, if_neg hquote, if_neg hpunct, if_neg hblank]

/-- What may stand behind a number. -/
def EndsScalar (text : List UInt8) : Prop :=
  ∀ c rest, text = c :: rest → ∀ c', (lex_begin c).2 ≠ .scalar c'

theorem lex_from_scalar_end (front : List UInt8) {text : List UInt8} (h : EndsScalar text) :
    lex_from (.scalar front) text = json_token.scalar front :: lex_from .between text := by
  cases text with
  | nil => rfl
  | cons c rest =>
      have hends := h c rest rfl
      rw [lex_from_cons, lex_from_cons, lex_step, lex_step]
      rcases hbegin : lex_begin c with ⟨tokens, - | raw | raw | text'⟩
      · rfl
      · rfl
      · rfl
      · rw [hbegin] at hends
        exact absurd rfl (hends text')

theorem lex_from_more {front scalar : List UInt8}
    (hscalar : ∀ c ∈ scalar, isalpha c = true ∨ CString.isdigit c = true ∨ c ∈ [0x2B, 0x2D, 0x2E])
    {text : List UInt8} (h : EndsScalar text) :
    lex_from (.scalar front) (scalar ++ text)
      = json_token.scalar (front ++ scalar) :: lex_from .between text := by
  induction scalar generalizing front with
  | nil => rw [List.nil_append, List.append_nil, lex_from_scalar_end front h]
  | cons c scalar ih =>
      obtain ⟨hc, hrest⟩ := List.forall_mem_cons.mp hscalar
      rw [List.cons_append, lex_from_cons, lex_step, lex_begin_scalar hc]
      dsimp only
      rw [List.nil_append, ih hrest, List.append_assoc, List.singleton_append]

theorem lex_from_scalar {scalar : List UInt8} (hscalar : IsScalar scalar) {text : List UInt8}
    (h : EndsScalar text) :
    lex_from .between (scalar ++ text)
      = json_token.scalar scalar :: lex_from .between text := by
  obtain ⟨c, scalar, rfl⟩ := List.exists_cons_of_ne_nil hscalar.1
  obtain ⟨hc, hrest⟩ := List.forall_mem_cons.mp hscalar.2
  rw [List.cons_append, lex_from_cons, lex_step, lex_begin_scalar hc]
  dsimp only
  rw [List.nil_append, lex_from_more hrest h, List.singleton_append]

/-! ## Serialisations -/

/-- White space and punctuation marks end a number. -/
theorem endsScalar_of_tidy {blank : List UInt8} (hblank : IsBlank blank) {c : UInt8}
    (hc : IsPunct c) (text : List UInt8) : EndsScalar (blank ++ c :: text) := by
  rintro d rest hd c' hscalar
  cases blank with
  | nil =>
      obtain ⟨rfl, -⟩ := List.cons.inj hd
      have hquote : c ≠ quote := by
        rintro rfl
        exact absurd hc (by decide)
      rw [lex_begin, if_neg hquote, if_pos hc] at hscalar
      cases hscalar
  | cons b blank =>
      obtain ⟨rfl, -⟩ := List.cons.inj hd
      rw [lex_begin_blank (hblank b List.mem_cons_self)] at hscalar
      cases hscalar

/-- **The tokens are read back**, by induction on what makes them tidy: each text and each number
has a punctuation mark behind it. -/
theorem lex_render {items : List (json_token × List UInt8)} (h : Tidy (items.map Prod.fst))
    (hblank : ∀ item ∈ items, IsBlank item.2) :
    lex_from .between (render items) = items.map Prod.fst := by
  induction items with
  | nil => rfl
  | cons item items ih =>
      obtain ⟨token, blank⟩ := item
      obtain ⟨hfirst, hrest⟩ := List.forall_mem_cons.mp hblank
      rw [render_cons, List.map_cons] at *
      cases token with
      | punct c =>
          cases h with
          | punct hc hvalue h =>
              rw [json_token.text, List.singleton_append, lex_from_punct hc, lex_from_blank hfirst,
                ih h hrest]
      | string raw =>
          obtain ⟨hraw, -, -, -, -, -, -, htidy⟩ := h.next_of_string
          rw [json_token.text, lex_from_string hraw, lex_from_blank hfirst, ih htidy hrest]
      | scalar text =>
          obtain ⟨htext, c, blank', rest, rfl, hc, htidy⟩ := h.next_of_scalar
          have hends : EndsScalar (blank ++ render ((punct c, blank') :: rest)) := by
            rw [render_cons]
            exact endsScalar_of_tidy hfirst hc _
          rw [json_token.text, lex_from_scalar htext hends, lex_from_blank hfirst, ih htidy hrest]

/-- **One reading**: the tokens of an object are read from any of its texts. -/
theorem serialisation.lex_text {tokens : List json_token} (s : serialisation tokens)
    (h : IsObject tokens) : lex s.text = tokens := by
  rw [lex, serialisation.text, lex_from_blank s.lead_blank, lex_render (s.tidy h) s.items_blank,
    s.tokens_eq]

end WifiManager.Lib.JsonText
