/-
Real time, and a ledger of authorizations.

The tick counter is the real time modulo 2^32, and the table keeps what the counter
showed. The ledger keeps what really happened: for every MAC the time of the
authorization in force, its duration and its session, written down from the calls
and the error codes they return. No code reads it; the statements about lifetimes
compare the table with it.
-/
import WifiManager.Lib.Machine
import WifiManager.Lib.Serial
import WifiManager.ClientAccess.Seats

set_option autoImplicit false

namespace WifiManager.ClientAccess

open WifiManager.Lib

open client_access_state_t

/-! ## Time -/

/-- `xTaskGetTickCount()` at the time `t`. -/
def tick (t : ℕ) : UInt32 := UInt32.ofNat t

/-- A call and the time it is made. -/
structure event where
  t : ℕ
  call : client_call

/-- What the 32-bit subtraction of `client_access_can_forward_ipv4` shows. -/
theorem elapsed_lazy {t₀ t : ℕ} (h : t₀ ≤ t) :
    (tick t - UInt32.ofInt ((tick t₀).toNat : ℤ)).toNat = (t - t₀) % 2 ^ 32 := by
  rw [Serial.ofInt_toNat]
  exact Serial.toNat_sub_ofNat h

/-- What the 64-bit subtraction of `client_access_expire_check` shows, cut to 32 bits. -/
theorem elapsed_periodic {t₀ t : ℕ} (h : t₀ ≤ t) :
    (UInt32.ofInt (((tick t).toNat : ℤ) - ((tick t₀).toNat : ℤ))).toNat = (t - t₀) % 2 ^ 32 := by
  rw [Serial.ofInt_sub_toNat]
  exact Serial.toNat_sub_ofNat h

/-- What it shows for a stamp that is younger than the tick it is compared with. -/
theorem elapsed_stale {t₀ t : ℕ} (h : t < t₀) :
    (UInt32.ofInt (((tick t).toNat : ℤ) - ((tick t₀).toNat : ℤ))).toNat
      = (2 ^ 32 - (t₀ - t) % 2 ^ 32) % 2 ^ 32 := by
  rw [Serial.ofInt_sub_toNat, UInt32.toNat_sub, tick, tick, UInt32.toNat_ofNat',
    UInt32.toNat_ofNat']
  omega

/-! ## The ledger -/

/-- An authorization. -/
structure grant_t where
  at_ticks : ℕ
  ttl_ticks : ℕ
  session_id : ℤ
  deriving DecidableEq, Repr

/-- It is in force at `t`: for ever, or for `ttl_ticks` ticks. -/
def grant_t.Live (grant : grant_t) (t : ℕ) : Prop :=
  grant.ttl_ticks = 0 ∨ t - grant.at_ticks < grant.ttl_ticks

instance (grant : grant_t) (t : ℕ) : Decidable (grant.Live t) := by
  unfold grant_t.Live
  infer_instance

abbrev ledger_t := mac_t → Option grant_t

/-- The grant that an authorization at `t` makes. -/
def grant_t.made (configTICK_RATE_HZ : UInt32) (t : ℕ) (session_id : ℤ)
    (ttl_seconds : UInt32) : grant_t where
  at_ticks := t
  ttl_ticks := (pdMS_TO_TICKS configTICK_RATE_HZ (ttl_seconds * 1000)).toNat
  session_id := session_id

/-- What a call that returned `err` at `t` changes: a connection ends what was granted
before, an authorization grants, a revocation ends. -/
def record (configTICK_RATE_HZ : UInt32) (t : ℕ) (ledger : ledger_t) (call : client_call)
    (err : esp_err_t) : ledger_t :=
  match call with
  | .track_connected_client mac =>
      if err = .ESP_OK then Function.update ledger mac none else ledger
  | .client_access_authorize mac_text session_id ttl_seconds =>
      match named_client mac_text session_id with
      | some mac =>
          if err = .ESP_OK then
            Function.update ledger mac (some (.made configTICK_RATE_HZ t session_id ttl_seconds))
          else ledger
      | none => ledger
  | .client_access_revoke_authorization mac_text session_id =>
      match named_client mac_text session_id with
      | some mac => if err = .ESP_OK then Function.update ledger mac none else ledger
      | none => ledger
  | _ => ledger

/-- The module and the ledger of its past. -/
structure world where
  state : client_access_t
  ledger : ledger_t

variable (configTICK_RATE_HZ : UInt32)

/-- One call, entered in the ledger. -/
def world.step (w : world) (e : event) : world × client_reply :=
  let (state, reply) := e.call.step configTICK_RATE_HZ (tick e.t) w.state
  (⟨state, record configTICK_RATE_HZ e.t w.ledger e.call reply.err⟩, reply)

/-- The world after a run. -/
def world.run (w : world) (events : List event) : world :=
  Machine.run (world.step configTICK_RATE_HZ) w events

/-- A start without clients. -/
def world.init (ESP_WIFI_MAX_CONN_NUM : ℕ) : world :=
  ⟨client_access_init ESP_WIFI_MAX_CONN_NUM, fun _ => none⟩

/-- MACs stay unique. -/
theorem unique_run {w : world} (hu : client_layout.Unique w.state.s_clients)
    (events : List event) :
    client_layout.Unique (w.run configTICK_RATE_HZ events).state.s_clients :=
  Machine.run_invariant (world.step configTICK_RATE_HZ)
    (I := fun w => client_layout.Unique w.state.s_clients)
    (fun _ e h => unique_step configTICK_RATE_HZ h (tick e.t) e.call) hu events

/-! ## The stamp of an entry -/

/-- What an entry says about the grant that it was last given. -/
structure Stamp (t : ℕ) (entry : client_access_entry_t) (grant : grant_t) : Prop where
  at_le : grant.at_ticks ≤ t
  authorized_at : entry.authorized_at_ticks = (tick grant.at_ticks).toNat
  ttl : entry.ttl_ticks = grant.ttl_ticks

theorem Stamp.later {t t' : ℕ} {entry : client_access_entry_t} {grant : grant_t}
    (h : Stamp t entry grant) (ht : t ≤ t') : Stamp t' entry grant :=
  ⟨h.at_le.trans ht, h.authorized_at, h.ttl⟩

/-- An authorization stamps the entry with the grant that it makes. -/
theorem stamp_authorized (t : ℕ) (session_id : ℤ) (ttl_seconds : UInt32)
    (entry : client_access_entry_t) :
    Stamp t (entry.authorized configTICK_RATE_HZ (tick t) session_id ttl_seconds)
      (.made configTICK_RATE_HZ t session_id ttl_seconds) :=
  ⟨Nat.le_refl t, rfl, rfl⟩

/-! ## A table that agrees with the ledger -/

/-- Every connected client's entry is as its line in the ledger demands. -/
def Agree (P : client_access_entry_t → Option grant_t → Prop) (clients : client_table)
    (ledger : ledger_t) : Prop :=
  ∀ mac entry, client_layout.lookup clients mac = some entry → P entry (ledger mac)

/-- The code `err'` tells the ledger what the returned `err` would: it reports every
success, and a revocation that has failed only for a client without authorization. -/
structure Tells (clients : client_table) (call : client_call) (err err' : esp_err_t) : Prop where
  success : err = .ESP_OK → err' = .ESP_OK
  revoked : ∀ mac_text session_id, call = .client_access_revoke_authorization mac_text session_id →
    err' = .ESP_OK → err = .ESP_OK ∨ ∀ mac entry, named_client mac_text session_id = some mac →
      client_layout.lookup clients mac = some entry → entry.state ≠ AUTHORIZED

theorem tells_self (clients : client_table) (call : client_call) (err : esp_err_t) :
    Tells clients call err err :=
  ⟨fun h => h, fun _ _ _ h => .inl h⟩

theorem agree_init (P : client_access_entry_t → Option grant_t → Prop)
    (ESP_WIFI_MAX_CONN_NUM : ℕ) (ledger : ledger_t) :
    Agree P (client_access_init ESP_WIFI_MAX_CONN_NUM).s_clients ledger := by
  intro mac entry hl
  obtain ⟨i, hi⟩ := List.getElem?_of_mem (List.mem_of_find?_eq_some hl)
  have hdead : client_layout.live entry = false := init_absent _ hi
  rw [(Slots.Layout.lookup_holds hl).1] at hdead
  cases hdead

section Agree

variable {configTICK_RATE_HZ} {P P' : client_access_entry_t → Option grant_t → Prop}
variable {clients : client_table} {ledger : ledger_t}

/-- A write to the entry of one client and its line in the ledger. -/
theorem Agree.write {clients' : client_table} (h : Agree P clients ledger) (mac : mac_t)
    {written : Option grant_t}
    {f : Option client_access_entry_t → Option client_access_entry_t}
    (hlookup : ∀ k, client_layout.lookup clients' k
      = if k = mac then f (client_layout.lookup clients k) else client_layout.lookup clients k)
    (hf : ∀ entry, f (client_layout.lookup clients mac) = some entry → P entry written) :
    Agree P clients' (Function.update ledger mac written) := by
  intro k entry hl
  rw [hlookup k] at hl
  by_cases hk : k = mac
  · rw [if_pos hk, hk] at hl
    rw [hk, Function.update_self]
    exact hf entry hl
  · rw [if_neg hk] at hl
    rw [Function.update_of_ne hk]
    exact h k entry hl

/-- A write to the entry of one client that its line in the ledger stays right about. -/
theorem Agree.rewrite {clients' : client_table} (h : Agree P clients ledger) (mac : mac_t)
    {f : Option client_access_entry_t → Option client_access_entry_t}
    (hlookup : ∀ k, client_layout.lookup clients' k
      = if k = mac then f (client_layout.lookup clients k) else client_layout.lookup clients k)
    (hf : ∀ entry, f (client_layout.lookup clients mac) = some entry → P entry (ledger mac)) :
    Agree P clients' ledger := by
  have hwrite := h.write mac hlookup hf
  rwa [Function.update_eq_self] at hwrite

/-- Nothing written. -/
theorem Agree.same {clients' : client_table} (h : Agree P clients ledger)
    (hlookup : ∀ k, client_layout.lookup clients' k = client_layout.lookup clients k) :
    Agree P clients' ledger :=
  fun k entry hl => h k entry ((hlookup k).symm.trans hl)

/-- A connection ends what was granted before. -/
theorem Agree.track_connected_client {t : ℕ} (h : Agree P clients ledger)
    (hu : client_layout.Unique clients) (mac : mac_t) {err' : esp_err_t}
    (htells : (ClientAccess.track_connected_client clients mac).2 = .ESP_OK → err' = .ESP_OK)
    (hconnected : P (.connected mac) none) :
    Agree P (ClientAccess.track_connected_client clients mac).1
      (record configTICK_RATE_HZ t ledger (.track_connected_client mac) err') := by
  obtain ⟨herr, hlookup⟩ | ⟨herr, hsame, hnone⟩ := (track_connected_client_spec hu mac).2
  · rw [record, if_pos (htells herr)]
    apply h.write mac (f := fun _ => some (.connected mac)) hlookup
    rintro entry ⟨⟩
    exact hconnected
  · -- the table is full: the client has no entry that could disagree
    rw [hsame, record]
    intro k entry hl
    have hk : k ≠ mac := by
      rintro rfl
      rw [hnone] at hl
      cases hl
    split_ifs
    · rw [Function.update_of_ne hk]
      exact h k entry hl
    · exact h k entry hl

theorem Agree.remove_disconnect_client {state : client_access_t}
    (h : Agree P state.s_clients ledger) (hu : client_layout.Unique state.s_clients)
    (mac : mac_t) :
    Agree P (ClientAccess.remove_disconnect_client state mac).s_clients ledger := by
  apply h.rewrite mac (f := fun _ => none) (remove_disconnect_client_spec hu mac).2
  rintro entry ⟨⟩

theorem Agree.track_client_ip (h : Agree P clients ledger) (hu : client_layout.Unique clients)
    (mac : mac_t) {ip : UInt32}
    (hip : ∀ entry written, P entry written → P { entry with ip := ip } written) :
    Agree P (ClientAccess.track_client_ip clients mac ip).1 ledger := by
  apply h.rewrite mac (f := Option.map fun entry => { entry with ip := ip })
    (track_client_ip_spec hu mac ip).2
  intro entry hentry
  obtain ⟨old, hold, rfl⟩ := Option.map_eq_some_iff.mp hentry
  exact hip old _ (h mac old hold)

theorem Agree.get_snapshot_by_ipv4 (h : Agree P clients ledger)
    (hu : client_layout.Unique clients) (arp : softap_arp_t) {source_ip : UInt32}
    (hip : ∀ entry written, P entry written → P { entry with ip := source_ip } written) :
    Agree P (client_access_get_snapshot_by_ipv4 arp clients source_ip).1 ledger := by
  obtain hsame | ⟨-, -, mac, -, hassigned⟩ :=
    client_access_get_snapshot_by_ipv4_clients arp clients source_ip
  · rw [hsame]
    exact h
  · rw [hassigned]
    exact h.track_client_ip hu mac hip

theorem Agree.set_state (h : Agree P clients ledger) (hu : client_layout.Unique clients)
    (mac : mac_t) {state : client_access_state_t}
    (hstate : ∀ entry written, P entry written → P { entry with state := state } written) :
    Agree P (client_access_set_state clients mac state).1 ledger := by
  have hlookup := (client_access_set_state_spec hu mac state).2
  by_cases hknown : state = UNKNOWN
  · apply h.same
    simpa [hknown] using hlookup
  · simp only [hknown, ne_eq, not_false_eq_true, and_true] at hlookup
    apply h.rewrite mac (f := Option.map fun entry => { entry with state := state }) hlookup
    intro entry hentry
    obtain ⟨old, hold, rfl⟩ := Option.map_eq_some_iff.mp hentry
    exact hstate old _ (h mac old hold)

theorem Agree.can_forward_ipv4 {now : UInt32} (h : Agree P clients ledger)
    (hu : client_layout.Unique clients) (source_ip : UInt32)
    (hentry : ∀ entry written, P entry written → P (entry.can_forward now).1 written) :
    Agree P (client_access_can_forward_ipv4 clients now source_ip).1 ledger := by
  have hspec := (client_access_can_forward_ipv4_spec hu now source_ip).2
  cases hholder : holder clients source_ip with
  | none =>
      simp only [hholder] at hspec
      rw [hspec]
      exact h
  | some entry =>
      simp only [hholder] at hspec
      obtain ⟨hl, -, hlookup⟩ := hspec
      apply h.rewrite entry.mac (f := fun _ => some (entry.can_forward now).1) hlookup
      rintro answered ⟨⟩
      exact hentry entry _ (h entry.mac entry hl)

theorem Agree.authorize {t : ℕ} (h : Agree P clients ledger)
    (hu : client_layout.Unique clients) (mac_text : Option c_string) {session_id : ℤ}
    {ttl_seconds : UInt32} {err' : esp_err_t}
    (htells : (client_access_authorize configTICK_RATE_HZ (tick t) clients mac_text session_id
      ttl_seconds).2 = .ESP_OK → err' = .ESP_OK)
    (hauthorized : ∀ entry : client_access_entry_t,
      P (entry.authorized configTICK_RATE_HZ (tick t) session_id ttl_seconds)
        (some (.made configTICK_RATE_HZ t session_id ttl_seconds))) :
    Agree P
      (client_access_authorize configTICK_RATE_HZ (tick t) clients mac_text session_id
        ttl_seconds).1
      (record configTICK_RATE_HZ t ledger
        (.client_access_authorize mac_text session_id ttl_seconds) err') := by
  obtain ⟨-, herr, hlookup⟩ := client_access_authorize_spec configTICK_RATE_HZ hu (tick t)
    mac_text session_id ttl_seconds
  cases hnamed : named_client mac_text session_id with
  | none =>
      simp only [hnamed, reduceCtorEq, if_false] at hlookup
      simp only [record, hnamed]
      exact h.same hlookup
  | some mac =>
      simp only [hnamed, Option.some.injEq, exists_eq_left'] at hlookup herr
      simp only [record, hnamed]
      split_ifs with hok
      · apply h.write mac hlookup
        intro entry hentry
        obtain ⟨old, -, rfl⟩ := Option.map_eq_some_iff.mp hentry
        exact hauthorized old
      · -- the call has failed, so the client is not there
        apply h.rewrite mac hlookup
        intro entry hentry
        obtain ⟨old, hold, -⟩ := Option.map_eq_some_iff.mp hentry
        exact absurd (htells (herr.mpr (by simp [hold]))) hok

/-- A revocation ends the grant; for a client without authorization the ledger may keep
its line or drop it. -/
theorem Agree.revoke_authorization {t : ℕ} (h : Agree P clients ledger)
    (hu : client_layout.Unique clients) {mac_text : Option c_string} {session_id : ℤ}
    {err' : esp_err_t}
    (htells : Tells clients (.client_access_revoke_authorization mac_text session_id)
      (client_access_revoke_authorization clients mac_text session_id).2 err')
    (hunauthorized : ∀ entry written, P entry written → P entry.unauthorized none)
    (hdropped : (client_access_revoke_authorization clients mac_text session_id).2 ≠ err' →
      ∀ entry written, P entry written → entry.state ≠ AUTHORIZED → P entry none) :
    Agree P (client_access_revoke_authorization clients mac_text session_id).1
      (record configTICK_RATE_HZ t ledger
        (.client_access_revoke_authorization mac_text session_id) err') := by
  obtain ⟨-, -, hlookup⟩ := client_access_revoke_authorization_spec hu mac_text session_id
  cases hnamed : named_client mac_text session_id with
  | none =>
      simp only [hnamed, reduceCtorEq, and_false, if_false] at hlookup
      simp only [record, hnamed]
      exact h.same hlookup
  | some mac =>
      simp only [hnamed, Option.some.injEq] at hlookup
      simp only [record, hnamed]
      by_cases hok : (client_access_revoke_authorization clients mac_text session_id).2 = .ESP_OK
      · rw [if_pos (htells.success hok)]
        simp only [hok, true_and] at hlookup
        apply h.write mac hlookup
        intro entry hentry
        obtain ⟨old, hold, rfl⟩ := Option.map_eq_some_iff.mp hentry
        exact hunauthorized old _ (h mac old hold)
      -- refused by the table, but perhaps not by the one who tells the ledger
      · simp only [hok, false_and, if_false] at hlookup
        split_ifs with hok'
        · have hover := (htells.revoked mac_text session_id rfl hok').resolve_left hok mac
          apply h.write mac (f := fun entry => entry) (by simpa using hlookup)
          intro entry hentry
          exact hdropped (hok' ▸ hok) entry _ (h mac entry hentry) (hover entry hnamed hentry)
        · exact h.same hlookup

theorem Agree.expire_check (h : Agree P clients ledger) (hu : client_layout.Unique clients)
    (now : UInt32)
    (hentry : ∀ entry written, entry.in_use = true → P entry written →
      P' (entry.expire now) written) :
    Agree P' (client_access_expire_check clients now) ledger := by
  intro k entry hl
  rw [(client_access_expire_check_spec hu now).2 k] at hl
  obtain ⟨old, hold, rfl⟩ := Option.map_eq_some_iff.mp hl
  exact hentry old _ (Slots.Layout.lookup_holds hold).1 (h k old hold)

end Agree

end WifiManager.ClientAccess
