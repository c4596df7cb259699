/-
Fixed tables of slots, searched by scanning.

Embedded programs keep small tables as arrays: an entry says itself whether it is
in use, a search walks the array for the first used entry with the wanted key, a
new entry goes into the first unused slot, and an entry is removed by clearing it
in place. A `Layout` says how an entry shows that it is in use and which key it
has. `find` and `free` are the two scans, `lookup` is the content a scan reaches,
and `Unique` is the invariant such a table keeps: at most one used slot a key.

The lemmas say what the program's four writes do to `lookup`: a write to the slot
of a key changes the content at that key only (`lookup_set_self`,
`lookup_set_other`), wherever the slot came from, and a sweep over all slots acts
on each content by itself (`lookup_map`). They are what makes a slot table usable
as a partial function from keys to entries.
-/
import Mathlib.Data.List.Basic

set_option autoImplicit false

namespace WifiManager.Lib.Slots

/-- How an entry shows that it is in use, and the key it is found by. -/
structure Layout (ε κ : Type*) where
  live : ε → Bool
  key : ε → κ

namespace Layout

variable {ε κ : Type*} [DecidableEq κ] (L : Layout ε κ)

/-- The test of a scan for a key. -/
def holds (k : κ) (e : ε) : Bool := L.live e && decide (L.key e = k)

/-- The first used slot with the key. -/
def find (t : List ε) (k : κ) : Option ℕ := t.findIdx? (L.holds k)

/-- The first unused slot. -/
def free (t : List ε) : Option ℕ := t.findIdx? (fun e => !L.live e)

/-- The entry a scan for the key reaches. -/
def lookup (t : List ε) (k : κ) : Option ε := t.find? (L.holds k)

/-- No slot but `i` is in use with the key. -/
def Owner (t : List ε) (i : ℕ) (k : κ) : Prop :=
  ∀ j e, t[j]? = some e → L.holds k e = true → j = i

/-- At most one slot is in use for each key. -/
def Unique (t : List ε) : Prop :=
  ∀ i e, t[i]? = some e → L.live e = true → L.Owner t i (L.key e)

variable {L}

theorem holds_iff {k : κ} {e : ε} :
    L.holds k e = true ↔ L.live e = true ∧ L.key e = k := by
  simp [holds]

theorem holds_of_dead {e : ε} (h : L.live e = false) (k : κ) : L.holds k e = false := by
  simp [holds, h]

/-! ## What the scans find -/

theorem find_spec {t : List ε} {k : κ} {i : ℕ} (h : L.find t k = some i) :
    ∃ e, t[i]? = some e ∧ L.holds k e = true ∧ L.lookup t k = some e := by
  rw [find, List.findIdx?_eq_some_iff_getElem] at h
  obtain ⟨hi, hp, hbefore⟩ := h
  refine ⟨t[i], List.getElem?_eq_getElem hi, hp, ?_⟩
  rw [lookup, List.find?_eq_some_iff_getElem]
  exact ⟨hp, i, hi, rfl, fun j hj => by simpa using hbefore j hj⟩

theorem find_eq_none_iff {t : List ε} {k : κ} : L.find t k = none ↔ L.lookup t k = none := by
  simp [find, lookup]

omit [DecidableEq κ] in
theorem free_spec {t : List ε} {i : ℕ} (h : L.free t = some i) :
    ∃ e, t[i]? = some e ∧ L.live e = false := by
  rw [free, List.findIdx?_eq_some_iff_getElem] at h
  obtain ⟨hi, hp, -⟩ := h
  exact ⟨t[i], List.getElem?_eq_getElem hi, by simpa using hp⟩

omit [DecidableEq κ] in
/-- A table with a slot that is not in use has a first one. -/
theorem free_isSome {t : List ε} {i : ℕ} {e : ε} (hi : t[i]? = some e)
    (he : L.live e = false) : (L.free t).isSome = true := by
  rw [free, List.findIdx?_isSome, List.any_eq_true]
  exact ⟨e, List.mem_of_getElem? hi, by simp [he]⟩

theorem lookup_holds {t : List ε} {k : κ} {e : ε} (h : L.lookup t k = some e) :
    L.live e = true ∧ L.key e = k :=
  holds_iff.mp (List.find?_some h)

theorem owner_of_lookup_none {t : List ε} {k : κ} (h : L.lookup t k = none) (i : ℕ) :
    L.Owner t i k := by
  intro j e hj hholds
  rw [lookup, List.find?_eq_none] at h
  exact absurd hholds (h e (List.mem_of_getElem? hj))

theorem owner_of_unique {t : List ε} (hu : L.Unique t) {k : κ} {i : ℕ} {e : ε}
    (hi : t[i]? = some e) (he : L.holds k e = true) : L.Owner t i k := by
  obtain ⟨hlive, hkey⟩ := holds_iff.mp he
  exact hkey ▸ hu i e hi hlive

/-! ## Writing one slot -/

/-- A write that neither removes nor adds an entry of the key. -/
theorem lookup_set_other {t : List ε} {k : κ} {i : ℕ} {d e : ε} (hi : t[i]? = some d)
    (hd : L.holds k d = false) (he : L.holds k e = false) :
    L.lookup (t.set i e) k = L.lookup t k := by
  simp only [lookup]
  induction t generalizing i with
  | nil => rfl
  | cons a t ih =>
      cases i with
      | zero =>
          have ha : a = d := by simpa using hi
          rw [List.set_cons_zero, List.find?_cons_of_neg (by simp [he]),
            List.find?_cons_of_neg (by simp [ha, hd])]
      | succ i =>
          rw [List.set_cons_succ, List.find?_cons, List.find?_cons, ih (by simpa using hi)]

/-- A write to the only slot the key can be in. -/
theorem lookup_set_self {t : List ε} {k : κ} {i : ℕ} (e : ε) (hi : i < t.length)
    (ho : L.Owner t i k) :
    L.lookup (t.set i e) k = if L.holds k e = true then some e else none := by
  have hbefore : (t.take i).find? (L.holds k) = none := by
    rw [List.find?_eq_none]
    intro a ha hholds
    obtain ⟨j, hj⟩ := List.getElem?_of_mem ha
    rw [List.getElem?_take] at hj
    split_ifs at hj with hlt
    have := ho j a hj hholds
    omega
  have hafter : (t.drop (i + 1)).find? (L.holds k) = none := by
    rw [List.find?_eq_none]
    intro a ha hholds
    obtain ⟨j, hj⟩ := List.getElem?_of_mem ha
    rw [List.getElem?_drop] at hj
    have := ho _ a hj hholds
    omega
  rw [lookup, List.set_eq_take_append_cons_drop, if_pos hi, List.find?_append, hbefore,
    List.find?_cons, hafter]
  by_cases he : L.holds k e = true
  · simp [he]
  · simp [he]

/-- A write keeps the table unique if the entry written is the only one of its key. -/
theorem unique_set {t : List ε} (hu : L.Unique t) {i : ℕ} {e : ε}
    (ho : L.live e = true → L.Owner t i (L.key e)) : L.Unique (t.set i e) := by
  intro a x ha hx b y hb hy
  obtain ⟨hylive, hykey⟩ := holds_iff.mp hy
  rw [List.getElem?_set] at ha hb
  split_ifs at ha hb
  · omega
  · -- the new entry at `i = a`, an old one at `b`
    obtain rfl : e = x := by simpa using ha
    have := ho hx b y hb hy
    omega
  · -- the new entry at `i = b`, an old one at `a`
    obtain rfl : e = y := by simpa using hb
    have := ho hylive a x ha (holds_iff.mpr ⟨hx, hykey.symm⟩)
    omega
  · exact hu a x ha hx b y hb hy

/-! ## The slot that serves a key -/

/-- Slot `i` is the place of key `k`: if it is in use then for `k`, and no other slot
is in use for `k`. -/
structure Serves (L : Layout ε κ) (t : List ε) (i : ℕ) (k : κ) : Prop where
  lt : i < t.length
  owner : L.Owner t i k
  only : ∀ e, t[i]? = some e → L.live e = true → L.key e = k

/-- The slot a scan for the key finds. -/
theorem serves_of_find {t : List ε} (hu : L.Unique t) {k : κ} {i : ℕ}
    (h : L.find t k = some i) : L.Serves t i k := by
  obtain ⟨e, hi, hholds, -⟩ := find_spec h
  refine ⟨(List.getElem?_eq_some_iff.mp hi).1, owner_of_unique hu hi hholds, ?_⟩
  intro d hd _
  rw [hi] at hd
  exact Option.some.inj hd ▸ (holds_iff.mp hholds).2

/-- The slot a scan for an unused one finds, for a key that has none. -/
theorem serves_of_free {t : List ε} {k : κ} {i : ℕ} (h : L.free t = some i)
    (hnone : L.lookup t k = none) : L.Serves t i k := by
  obtain ⟨e, hi, hdead⟩ := free_spec h
  refine ⟨(List.getElem?_eq_some_iff.mp hi).1, owner_of_lookup_none hnone i, ?_⟩
  intro d hd hlive
  rw [hi] at hd
  simp [← Option.some.inj hd, hdead] at hlive

/-- A slot in use serves the key of its entry. -/
theorem serves_of_live {t : List ε} (hu : L.Unique t) {i : ℕ} {e : ε} (hi : t[i]? = some e)
    (hlive : L.live e = true) : L.Serves t i (L.key e) := by
  refine ⟨(List.getElem?_eq_some_iff.mp hi).1, hu i e hi hlive, ?_⟩
  intro d hd _
  rw [hi] at hd
  exact Option.some.inj hd ▸ rfl

/-- Where keys are unique, every entry in use is the one a scan for its key reaches. -/
theorem lookup_of_live {t : List ε} (hu : L.Unique t) {i : ℕ} {e : ε} (hi : t[i]? = some e)
    (hlive : L.live e = true) : L.lookup t (L.key e) = some e := by
  have hself := lookup_set_self e (List.getElem?_eq_some_iff.mp hi).1 (hu i e hi hlive)
  have hsame : t.set i e = t := by
    obtain ⟨hlt, heq⟩ := List.getElem?_eq_some_iff.mp hi
    rw [← heq, List.set_getElem_self]
  rw [hsame, if_pos (holds_iff.mpr ⟨hlive, rfl⟩)] at hself
  exact hself

section Write

variable {t : List ε} {i : ℕ} {k : κ} {e : ε}

theorem Serves.lookup_self (h : L.Serves t i k) (he : L.live e = true → L.key e = k) :
    L.lookup (t.set i e) k = if L.live e = true then some e else none := by
  rw [lookup_set_self e h.lt h.owner]
  by_cases hlive : L.live e = true
  · rw [if_pos hlive, if_pos (holds_iff.mpr ⟨hlive, he hlive⟩)]
  · rw [if_neg hlive, if_neg (fun hh => hlive (holds_iff.mp hh).1)]

theorem Serves.lookup_other (h : L.Serves t i k) (he : L.live e = true → L.key e = k) {k' : κ}
    (hk : k' ≠ k) : L.lookup (t.set i e) k' = L.lookup t k' := by
  have hold : ∀ d, (L.live d = true → L.key d = k) → L.holds k' d = false := by
    intro d hd
    by_contra hholds
    obtain ⟨hlive, hkey⟩ := holds_iff.mp (by simpa using hholds)
    exact hk (hkey.symm.trans (hd hlive))
  have hi := List.getElem?_eq_getElem h.lt
  exact lookup_set_other hi (hold _ (h.only _ hi)) (hold e he)

theorem Serves.unique (h : L.Serves t i k) (hu : L.Unique t)
    (he : L.live e = true → L.key e = k) : L.Unique (t.set i e) :=
  unique_set hu (fun hlive => (he hlive).symm ▸ h.owner)

/-- A write to the slot of a key, seen at every key. -/
theorem Serves.lookup_set (h : L.Serves t i k) (he : L.live e = true → L.key e = k) (k' : κ) :
    L.lookup (t.set i e) k'
      = if k' = k then (if L.live e = true then some e else none) else L.lookup t k' := by
  by_cases hk : k' = k
  · rw [if_pos hk, hk, h.lookup_self he]
  · rw [if_neg hk, h.lookup_other he hk]

/-- The slot still serves the key after a write for the key. -/
theorem Serves.set (h : L.Serves t i k) (he : L.live e = true → L.key e = k) :
    L.Serves (t.set i e) i k := by
  refine ⟨by simpa using h.lt, ?_, ?_⟩
  · intro j d hj hholds
    rw [List.getElem?_set] at hj
    split_ifs at hj with hij
    · exact hij.symm
    · exact h.owner j d hj hholds
  · intro d hd hlive
    rw [List.getElem?_set_self h.lt] at hd
    obtain rfl := Option.some.inj hd
    exact he hlive

end Write

/-! ## Tables that show less -/

section View

variable {ε' : Type*} {L' : Layout ε' κ} (f : ε → ε') {t : List ε}

/-- A view that keeps keys and use is searched as the table itself is. -/
theorem find_view (hlive : ∀ e, L'.live (f e) = L.live e)
    (hkey : ∀ e, L'.key (f e) = L.key e) (k : κ) : L'.find (t.map f) k = L.find t k := by
  have hholds : L'.holds k ∘ f = L.holds k := by
    funext e
    simp only [Function.comp_apply, holds, hlive, hkey]
  rw [find, find, List.findIdx?_map, hholds]

theorem lookup_view (hlive : ∀ e, L'.live (f e) = L.live e)
    (hkey : ∀ e, L'.key (f e) = L.key e) (k : κ) :
    L'.lookup (t.map f) k = (L.lookup t k).map f := by
  have hholds : L'.holds k ∘ f = L.holds k := by
    funext e
    simp only [Function.comp_apply, holds, hlive, hkey]
  rw [lookup, lookup, List.find?_map, hholds]

omit [DecidableEq κ] in
theorem free_view (hlive : ∀ e, L'.live (f e) = L.live e) :
    L'.free (t.map f) = L.free t := by
  have hdead : (fun e => !L'.live e) ∘ f = fun e => !L.live e := by
    funext e
    simp only [Function.comp_apply, hlive]
  rw [free, free, List.findIdx?_map, hdead]

end View

/-! ## Sweeping all slots -/

section Sweep

variable {f : ε → ε}

/-- A sweep that revives nothing and renames nothing acts on each content by itself. -/
theorem lookup_map {t : List ε} (hu : L.Unique t)
    (hdead : ∀ e, L.live e = false → L.live (f e) = false)
    (hkey : ∀ e, L.live (f e) = true → L.key (f e) = L.key e) (k : κ) :
    L.lookup (t.map f) k = ((L.lookup t k).map f).filter L.live := by
  cases hl : L.lookup t k with
  -- no live entry had the key, and the sweep gives no entry a new one
  | none =>
      rw [lookup, List.find?_eq_none] at hl
      rw [lookup, Option.map_none, Option.filter_none, List.find?_eq_none]
      intro a ha hholds
      obtain ⟨e, he, rfl⟩ := List.mem_map.mp ha
      obtain ⟨hlive, hk⟩ := holds_iff.mp hholds
      have hlive' : L.live e = true := by
        by_contra h
        simp [hdead e (by simpa using h)] at hlive
      exact hl e he (holds_iff.mpr ⟨hlive', (hkey e hlive).symm.trans hk⟩)
  | some e =>
      obtain ⟨he, hke⟩ := lookup_holds hl
      have hmem := List.mem_of_find?_eq_some hl
      obtain ⟨i, hi⟩ := List.getElem?_of_mem hmem
      have ho : L.Owner t i k := hke ▸ hu i e hi he
      -- every entry of the swept table that holds `k` is the image of `e`
      have honly : ∀ a ∈ t.map f, L.holds k a = true → a = f e := by
        intro a ha hholds
        obtain ⟨d, hd, rfl⟩ := List.mem_map.mp ha
        obtain ⟨hlive, hk⟩ := holds_iff.mp hholds
        have hlive' : L.live d = true := by
          by_contra h
          simp [hdead d (by simpa using h)] at hlive
        obtain ⟨j, hj⟩ := List.getElem?_of_mem hd
        have hji := ho j d hj (holds_iff.mpr ⟨hlive', (hkey d hlive).symm.trans hk⟩)
        rw [hji, hi] at hj
        rw [Option.some.inj hj]
      rw [Option.map_some, lookup]
      by_cases hfe : L.live (f e) = true
      · rw [Option.filter_some_pos hfe]
        have hholds : L.holds k (f e) = true := holds_iff.mpr ⟨hfe, (hkey e hfe).trans hke⟩
        cases hfind : (t.map f).find? (L.holds k) with
        | none =>
            rw [List.find?_eq_none] at hfind
            exact absurd hholds (hfind _ (List.mem_map_of_mem hmem))
        | some a =>
            rw [honly a (List.mem_of_find?_eq_some hfind) (List.find?_some hfind)]
      · rw [Option.filter_some_neg (by simpa using hfe), List.find?_eq_none]
        intro a ha hholds
        exact hfe (honly a ha hholds ▸ (holds_iff.mp hholds).1)

theorem unique_map {t : List ε} (hu : L.Unique t)
    (hdead : ∀ e, L.live e = false → L.live (f e) = false)
    (hkey : ∀ e, L.live (f e) = true → L.key (f e) = L.key e) : L.Unique (t.map f) := by
  have hold : ∀ e, L.live (f e) = true → L.live e = true := by
    intro e h
    by_contra hd
    simp [hdead e (by simpa using hd)] at h
  intro i a hi ha j b hj hb
  obtain ⟨hblive, hbkey⟩ := holds_iff.mp hb
  rw [List.getElem?_map, Option.map_eq_some_iff] at hi hj
  obtain ⟨x, hx, rfl⟩ := hi
  obtain ⟨y, hy, rfl⟩ := hj
  refine hu i x hx (hold x ha) j y hy (holds_iff.mpr ⟨hold y hblive, ?_⟩)
  rw [← hkey y hblive, hbkey, hkey x ha]

end Sweep

end Layout

end WifiManager.Lib.Slots
