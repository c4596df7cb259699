/-
Key-value stores whose single writes are durable in order.

Flash stores give atomicity for one key at a time: a value is set or erased, each such
write takes effect as a whole, and the writes of a program take effect in the order in
which they were made. What a program leaves behind when it is interrupted is then the
old content with a prefix of its writes applied. `applyAll_take_key` says what each key
holds there: the write to it if the prefix reaches that far, and what it held before
otherwise.
-/
import Mathlib.Logic.Function.Basic
import Mathlib.Data.List.Nodup

set_option autoImplicit false

namespace WifiManager.Lib.KeyStore

variable {κ : Type*} [DecidableEq κ] {β : κ → Type*}

/-- A value or nothing for every key. -/
abbrev Store (β : κ → Type*) := ∀ k, Option (β k)

/-- One write: a value for a key, or nothing. -/
structure Write (β : κ → Type*) where
  key : κ
  value : Option (β key)

def Write.apply (w : Write β) (s : Store β) : Store β := Function.update s w.key w.value

def applyAll (ws : List (Write β)) (s : Store β) : Store β :=
  ws.foldl (fun s w => w.apply s) s

@[simp] theorem applyAll_nil (s : Store β) : applyAll [] s = s := rfl

@[simp] theorem applyAll_cons (w : Write β) (ws : List (Write β)) (s : Store β) :
    applyAll (w :: ws) s = applyAll ws (w.apply s) := rfl

/-- To remove what is not there changes nothing. -/
theorem apply_erase_absent {s : Store β} {k : κ} (h : s k = none) :
    (Write.mk k none).apply s = s := by
  rw [Write.apply, ← h, Function.update_eq_self]

/-- A key nobody writes to. -/
theorem applyAll_other {ws : List (Write β)} {k : κ} (h : ∀ w ∈ ws, w.key ≠ k) (s : Store β) :
    applyAll ws s k = s k := by
  induction ws generalizing s with
  | nil => rfl
  | cons w ws ih =>
      obtain ⟨hw, hws⟩ := List.forall_mem_cons.mp h
      rw [applyAll_cons, ih hws, Write.apply, Function.update_of_ne (Ne.symm hw)]

/-- **A prefix of writes to different keys.** The key of the `i`-th write holds its value
once the prefix has got past it. -/
theorem applyAll_take_key {ws : List (Write β)} (hkeys : (ws.map Write.key).Nodup) {i : ℕ}
    {w : Write β} (hi : ws[i]? = some w) (j : ℕ) (s : Store β) :
    applyAll (ws.take j) s w.key = if i < j then w.value else s w.key := by
  induction ws generalizing s i j with
  | nil => simp at hi
  | cons v ws ih =>
      rw [List.map_cons, List.nodup_cons] at hkeys
      obtain ⟨hfirst, hrest⟩ := hkeys
      cases j with
      | zero => rfl
      | succ j =>
          rw [List.take_succ_cons, applyAll_cons]
          cases i with
          | zero =>
              -- the first write, which no later one touches
              obtain rfl : v = w := by simpa using hi
              rw [applyAll_other, Write.apply, Function.update_self, if_pos (Nat.succ_pos j)]
              intro w' hw' hsame
              exact hfirst (hsame ▸ List.mem_map_of_mem (List.mem_of_mem_take hw'))
          | succ i =>
              have hi' : ws[i]? = some w := by simpa using hi
              have hother : w.key ≠ v.key := by
                intro hsame
                exact hfirst (hsame ▸ List.mem_map_of_mem (List.mem_of_getElem? hi'))
              rw [ih hrest hi', Write.apply, Function.update_of_ne hother]
              simp only [Nat.succ_lt_succ_iff]

/-- **Writes to all keys forget what was stored.** -/
theorem applyAll_forgets {ws : List (Write β)} (h : ∀ k, k ∈ ws.map Write.key) (s t : Store β) :
    applyAll ws s = applyAll ws t := by
  funext k
  have hkey := h k
  clear h
  induction ws generalizing s t with
  | nil => exact absurd hkey List.not_mem_nil
  | cons w ws ih =>
      rw [applyAll_cons, applyAll_cons]
      by_cases hlater : k ∈ ws.map Write.key
      · exact ih _ _ hlater
      · -- the last write to the key is this one
        have hother : ∀ w' ∈ ws, w'.key ≠ k :=
          fun w' hw' hsame => hlater (hsame ▸ List.mem_map_of_mem hw')
        rw [List.map_cons, List.mem_cons, or_iff_left hlater] at hkey
        subst hkey
        rw [applyAll_other hother, applyAll_other hother, Write.apply, Write.apply,
          Function.update_self, Function.update_self]

/-- A key none of the writes is for. -/
theorem applyAll_take_other {ws : List (Write β)} {k : κ} (h : k ∉ ws.map Write.key) (j : ℕ)
    (s : Store β) : applyAll (ws.take j) s k = s k := by
  apply applyAll_other
  intro w hw hkey
  exact h (hkey ▸ List.mem_map_of_mem (List.mem_of_mem_take hw))

/-- **Values of a kind stay of that kind** if only such values are written. -/
theorem applyAll_forall {V : ∀ k, β k → Prop} {ws : List (Write β)}
    (hws : ∀ w ∈ ws, ∀ value, w.value = some value → V w.key value) {s : Store β}
    (h : ∀ k value, s k = some value → V k value) :
    ∀ k value, applyAll ws s k = some value → V k value := by
  induction ws generalizing s with
  | nil => exact h
  | cons w ws ih =>
      obtain ⟨hw, hws⟩ := List.forall_mem_cons.mp hws
      refine ih hws fun k value hvalue => ?_
      have hupdate : Function.update s w.key w.value k = some value := hvalue
      by_cases hkey : k = w.key
      · subst hkey
        rw [Function.update_self] at hupdate
        exact hw value hupdate
      · rw [Function.update_of_ne hkey] at hupdate
        exact h k value hupdate

end WifiManager.Lib.KeyStore
