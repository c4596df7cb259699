/-
The NVS namespace "wifi_config", and programs that may be interrupted.

A program is run on the content of the namespace and on the fate of its NVS calls: each
call is carried out, returns an error and changes nothing, or is never reached because
the power is lost. Sets and erases are durable one by one and in the order of the calls,
so an interruption leaves the effect of the calls before it (`write_all_content`), and
for any number of writes there is an interruption right behind them
(`write_all_power_loss`). If the flash keeps writes back until the commit, an
interruption leaves what an earlier one leaves here.

A namespace that does not exist is the one without keys: all callers answer alike for
both. The reads of one load function are one call here: they change nothing, and the
function returns the error of the one that fails. `nvs_close` changes nothing and cannot
fail.
-/
import WifiManager.Esp
import WifiManager.Lib.KeyStore

set_option autoImplicit false

namespace WifiManager.AppStorage

open WifiManager.Lib

/-! ## The content -/

/-- The keys of the namespace, under their names in flash. -/
inductive nvs_key
  | sta_ssid
  | sta_password
  | cand_ssid
  | cand_pass
  | cand_req
  | cand_ver
  | active_req
  | active_ver
  | recv_trig
  | recv_retry
  deriving DecidableEq, Repr

/-- The type of the entry under a key. -/
def nvs_key.value : nvs_key → Type
  | .cand_ver | .active_ver => UInt32
  | .recv_trig | .recv_retry => UInt8
  | _ => c_string

abbrev nvs_content := KeyStore.Store nvs_key.value

abbrev nvs_write := KeyStore.Write nvs_key.value

/-- `nvs_get_str` for what is stored under the key; the buffer has to hold the
terminator as well. -/
def nvs_get_str (stored : Option c_string) (size : ℕ) : Except esp_err_t c_string :=
  match stored with
  | none => .error .ESP_ERR_NVS_NOT_FOUND
  | some value =>
      if value.length + 1 > size then .error .ESP_ERR_NVS_INVALID_LENGTH else .ok value

/-- `nvs_get_u32`. -/
def nvs_get_u32 (stored : Option UInt32) : Except esp_err_t UInt32 :=
  match stored with
  | none => .error .ESP_ERR_NVS_NOT_FOUND
  | some value => .ok value

/-- `nvs_get_u8`. -/
def nvs_get_u8 (stored : Option UInt8) : Except esp_err_t UInt8 :=
  match stored with
  | none => .error .ESP_ERR_NVS_NOT_FOUND
  | some value => .ok value

/-! ## Programs -/

/-- The failure of an NVS call: an error that does not say that a key is absent. -/
structure nvs_failure where
  err : esp_err_t
  not_ok : err ≠ .ESP_OK
  not_absent : err ≠ .ESP_ERR_NVS_NOT_FOUND ∧ err ≠ .ESP_ERR_NOT_FOUND

/-- What can happen to a call instead of success. -/
inductive nvs_fault
  | error (failure : nvs_failure)
  | power_loss

/-- The content, and what happens to the calls to come; behind the end of the list they
succeed. -/
structure nvs_t where
  content : nvs_content
  faults : List (Option nvs_fault)

/-- A program; it has no result if the power is lost. -/
def nvs_m (α : Type) := nvs_t → Option α × nvs_t

instance : Monad nvs_m where
  pure a := fun s => (some a, s)
  bind x f := fun s =>
    match x s with
    | (some a, s) => f a s
    | (none, s) => (none, s)

/-- One call, with its effect and its result when it succeeds, and its result when it
fails. -/
def nvs_call {α : Type} (fail : esp_err_t → α) (act : nvs_content → α × nvs_content) : nvs_m α :=
  fun s =>
    match s.faults with
    | [] => (some (act s.content).1, ⟨(act s.content).2, []⟩)
    | none :: faults => (some (act s.content).1, ⟨(act s.content).2, faults⟩)
    | some (.error failure) :: faults => (some (fail failure.err), ⟨s.content, faults⟩)
    | some .power_loss :: faults => (none, ⟨s.content, faults⟩)

/-- `nvs_open`. -/
def nvs_open : nvs_m esp_err_t := nvs_call id fun content => (.ESP_OK, content)

/-- `nvs_commit`. -/
def nvs_commit : nvs_m esp_err_t := nvs_call id fun content => (.ESP_OK, content)

/-- The reads of a load function. -/
def nvs_read {α : Type} (load : nvs_content → Except esp_err_t α) :
    nvs_m (Except esp_err_t α) :=
  nvs_call .error fun content => (load content, content)

/-- `nvs_set_str` and `nvs_set_u32`. -/
def nvs_set (key : nvs_key) (value : key.value) : nvs_m esp_err_t :=
  nvs_call id fun content => (.ESP_OK, (KeyStore.Write.mk key (some value)).apply content)

/-- `nvs_erase_key`. -/
def nvs_erase_key (key : nvs_key) : nvs_m esp_err_t :=
  nvs_call id fun content =>
    match content key with
    | some _ => (.ESP_OK, (KeyStore.Write.mk key none).apply content)
    | none => (.ESP_ERR_NVS_NOT_FOUND, content)

/-- `erase_key_if_present`; the flag is `*changed`. -/
def erase_key_if_present (key : nvs_key) (changed : Bool) : nvs_m (esp_err_t × Bool) := do
  let err ← nvs_erase_key key
  -- an absent key is erased already
  if err = .ESP_ERR_NVS_NOT_FOUND then return (.ESP_OK, changed)
  else return (err, changed || err = .ESP_OK)

/-- A set, or an erase of the key if it is present. -/
def write_key (w : nvs_write) (changed : Bool) : nvs_m (esp_err_t × Bool) :=
  match w.value with
  | some value => do
      let err ← nvs_set w.key value
      return (err, changed)
  | none => erase_key_if_present w.key changed

/-- Writes one after the other, up to the first error. -/
def write_all (ws : List nvs_write) (changed : Bool) : nvs_m (esp_err_t × Bool) :=
  match ws with
  | [] => return (.ESP_OK, changed)
  | w :: ws => do
      let (err, changed) ← write_key w changed
      if err ≠ .ESP_OK then return (err, changed)
      else write_all ws changed

/-- Writes and the commit behind them, which may depend on whether a key was erased. -/
def write_and_commit (ws : List nvs_write) (commit : Bool → Bool) : nvs_m esp_err_t := do
  let (err, changed) ← write_all ws false
  if err = .ESP_OK ∧ commit changed = true then nvs_commit
  else return err

/-! ## Running programs -/

section Runs

variable {α γ : Type} (content : nvs_content) (faults : List (Option nvs_fault))

theorem pure_apply (a : α) (s : nvs_t) : (pure a : nvs_m α) s = (some a, s) := rfl

theorem bind_apply (x : nvs_m α) (f : α → nvs_m γ) (s : nvs_t) :
    (x >>= f) s
      = match x s with
        | (some a, s) => f a s
        | (none, s) => (none, s) := rfl

variable (fail : esp_err_t → α) (act : nvs_content → α × nvs_content)

/-- A call that is carried out. -/
theorem nvs_call_done :
    nvs_call fail act ⟨content, none :: faults⟩
      = (some (act content).1, ⟨(act content).2, faults⟩) := rfl

theorem nvs_call_last :
    nvs_call fail act ⟨content, []⟩ = (some (act content).1, ⟨(act content).2, []⟩) := rfl

theorem nvs_call_error (failure : nvs_failure) :
    nvs_call fail act ⟨content, some (.error failure) :: faults⟩
      = (some (fail failure.err), ⟨content, faults⟩) := rfl

end Runs

/-! ## What is left behind -/

/-- How a write ends. -/
inductive WriteEnds (w : nvs_write) (content : nvs_content) :
    Option (esp_err_t × Bool) × nvs_t → Prop
  | done (changed : Bool) (faults : List (Option nvs_fault)) :
      WriteEnds w content (some (.ESP_OK, changed), ⟨w.apply content, faults⟩)
  | failed (err : esp_err_t) (changed : Bool) (faults : List (Option nvs_fault))
      (h : err ≠ .ESP_OK) : WriteEnds w content (some (err, changed), ⟨content, faults⟩)
  | lost (faults : List (Option nvs_fault)) : WriteEnds w content (none, ⟨content, faults⟩)

/-- A write that is not stopped is carried out. -/
theorem write_key_done (w : nvs_write) (changed : Bool) (content : nvs_content)
    (faults : List (Option nvs_fault)) :
    ∃ changed', write_key w changed ⟨content, none :: faults⟩
        = (some (.ESP_OK, changed'), ⟨w.apply content, faults⟩) ∧
      write_key w changed ⟨content, []⟩ = (some (.ESP_OK, changed'), ⟨w.apply content, []⟩) := by
  obtain ⟨key, value⟩ := w
  cases value with
  | some value => exact ⟨changed, rfl, rfl⟩
  | none =>
      cases hkey : content key with
      | some old =>
          refine ⟨true, ?_, ?_⟩
          · simp [write_key, erase_key_if_present, nvs_erase_key, bind_apply, nvs_call_done, hkey,
              pure_apply]
          · simp [write_key, erase_key_if_present, nvs_erase_key, bind_apply, nvs_call_last, hkey,
              pure_apply]
      | none =>
          refine ⟨changed, ?_, ?_⟩
          · simp [write_key, erase_key_if_present, nvs_erase_key, bind_apply, nvs_call_done, hkey,
              pure_apply, KeyStore.apply_erase_absent hkey]
          · simp [write_key, erase_key_if_present, nvs_erase_key, bind_apply, nvs_call_last, hkey,
              pure_apply, KeyStore.apply_erase_absent hkey]

theorem write_key_ends (w : nvs_write) (changed : Bool) (s : nvs_t) :
    WriteEnds w s.content (write_key w changed s) := by
  obtain ⟨content, faults⟩ := s
  cases faults with
  | nil =>
      obtain ⟨changed', -, hdone⟩ := write_key_done w changed content []
      rw [hdone]
      exact .done changed' []
  | cons fault faults =>
      cases fault with
      | none =>
          obtain ⟨changed', hdone, -⟩ := write_key_done w changed content faults
          rw [hdone]
          exact .done changed' faults
      | some fault =>
          obtain ⟨key, value⟩ := w
          cases fault with
          | power_loss =>
              cases value with
              | some value => exact .lost faults
              | none => exact .lost faults
          | error failure =>
              cases value with
              | some value => exact .failed failure.err changed faults failure.not_ok
              | none =>
                  have hkept : failure.err ≠ .ESP_ERR_NVS_NOT_FOUND := failure.not_absent.1
                  simp only [write_key, erase_key_if_present, nvs_erase_key, bind_apply,
                    nvs_call_error, id, hkept, if_false, pure_apply]
                  exact .failed failure.err _ faults failure.not_ok

/-- **Whatever happens to the calls, a prefix of the writes is left behind.** -/
theorem write_all_content (ws : List nvs_write) (changed : Bool) (s : nvs_t) :
    ∃ j ≤ ws.length, (write_all ws changed s).2.content
      = KeyStore.applyAll (ws.take j) s.content := by
  induction ws generalizing changed s with
  | nil => exact ⟨0, Nat.le_refl 0, rfl⟩
  | cons w ws ih =>
      rw [write_all, bind_apply]
      have hends := write_key_ends w changed s
      generalize write_key w changed s = result at hends
      cases hends with
      | done changed' faults =>
          obtain ⟨j, hj, hcontent⟩ := ih changed' ⟨w.apply s.content, faults⟩
          exact ⟨j + 1, Nat.succ_le_succ hj, hcontent⟩
      | failed err changed' faults herr =>
          refine ⟨0, Nat.zero_le _, ?_⟩
          dsimp only
          rw [if_pos herr]
          rfl
      | lost faults => exact ⟨0, Nat.zero_le _, rfl⟩

/-- Without faults all of them are. -/
theorem write_all_done (ws : List nvs_write) (changed : Bool) (content : nvs_content) :
    ∃ changed', write_all ws changed ⟨content, []⟩
      = (some (.ESP_OK, changed'), ⟨KeyStore.applyAll ws content, []⟩) := by
  induction ws generalizing changed content with
  | nil => exact ⟨changed, rfl⟩
  | cons w ws ih =>
      obtain ⟨changed', -, hdone⟩ := write_key_done w changed content []
      obtain ⟨changed'', hrest⟩ := ih changed' (w.apply content)
      refine ⟨changed'', ?_⟩
      rw [write_all, bind_apply, hdone]
      exact hrest

/-- **No error means that all of them were carried out**, whatever the faults. -/
theorem write_all_ok (ws : List nvs_write) {changed changed' : Bool} {s : nvs_t}
    (h : (write_all ws changed s).1 = some (.ESP_OK, changed')) :
    (write_all ws changed s).2.content = KeyStore.applyAll ws s.content := by
  induction ws generalizing changed s with
  | nil => rfl
  | cons w ws ih =>
      rw [write_all, bind_apply] at h ⊢
      have hends := write_key_ends w changed s
      generalize write_key w changed s = result at hends h
      cases hends with
      | done changed'' faults => exact ih h
      | failed err changed'' faults herr =>
          dsimp only at h
          rw [if_pos herr, pure_apply] at h
          exact absurd (Prod.mk.inj (Option.some.inj h)).1 herr
      | lost faults => exact absurd h (Option.some_ne_none _).symm

/-- Calls that are carried out before the power is lost. -/
def lost_after (calls : ℕ) : List (Option nvs_fault) :=
  List.replicate calls none ++ [some .power_loss]

/-- **Every prefix can be left behind.** -/
theorem write_all_power_loss (ws : List nvs_write) (changed : Bool) (content : nvs_content)
    (j : ℕ) :
    (write_all ws changed ⟨content, lost_after j⟩).2.content
      = KeyStore.applyAll (ws.take j) content := by
  induction ws generalizing changed content j with
  | nil =>
      rw [List.take_nil]
      rfl
  | cons w ws ih =>
      cases j with
      | zero =>
          obtain ⟨key, value⟩ := w
          cases value with
          | some value => rfl
          | none => rfl
      | succ j =>
          obtain ⟨changed', hdone, -⟩ := write_key_done w changed content (lost_after j)
          have hstep : lost_after (j + 1) = none :: lost_after j := rfl
          rw [write_all, bind_apply, hstep, hdone]
          exact ih changed' (w.apply content) j

section Commit

variable (ws : List nvs_write) (commit : Bool → Bool)

/-- A commit changes nothing any more. -/
theorem nvs_commit_content (s : nvs_t) : (nvs_commit s).2.content = s.content := by
  obtain ⟨content, faults⟩ := s
  cases faults with
  | nil => rfl
  | cons fault faults =>
      cases fault with
      | none => rfl
      | some fault => cases fault <;> rfl

theorem write_and_commit_content (s : nvs_t) :
    (write_and_commit ws commit s).2.content = (write_all ws false s).2.content := by
  rw [write_and_commit, bind_apply]
  cases hwrite : write_all ws false s with
  | mk result s' =>
      cases result with
      | none => rfl
      | some result =>
          dsimp only
          split_ifs
          · exact nvs_commit_content s'
          · rfl

theorem write_and_commit_done (content : nvs_content) :
    write_and_commit ws commit ⟨content, []⟩
      = (some .ESP_OK, ⟨KeyStore.applyAll ws content, []⟩) := by
  obtain ⟨changed, hdone⟩ := write_all_done ws false content
  rw [write_and_commit, bind_apply, hdone]
  dsimp only
  split_ifs
  · rfl
  · rfl

theorem write_and_commit_ok {s : nvs_t}
    (h : (write_and_commit ws commit s).1 = some .ESP_OK) :
    (write_and_commit ws commit s).2.content = KeyStore.applyAll ws s.content := by
  rw [write_and_commit_content]
  rw [write_and_commit, bind_apply] at h
  rcases hwrite : write_all ws false s with ⟨- | ⟨err, changed⟩, s'⟩
  · rw [hwrite] at h
    exact absurd h (Option.some_ne_none _).symm
  · rw [hwrite] at h
    dsimp only at h
    -- the commit is reached without an error, and without it the error is the result
    have herr : err = .ESP_OK := by
      split_ifs at h with hcommit
      · exact hcommit.1
      · exact Option.some.inj h
    subst herr
    have hall := write_all_ok ws (congrArg Prod.fst hwrite)
    rwa [hwrite] at hall

end Commit

end WifiManager.AppStorage
