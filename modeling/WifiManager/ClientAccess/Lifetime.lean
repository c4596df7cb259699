/-
How long an authorization lasts.

`Shows` says what an entry must look like for the grant in the ledger: an authorized
entry carries the stamp of a grant that had not run out at the last periodic check,
and an entry that is not authorized has no live grant. Every call keeps it, so the
answer of `client_access_can_forward_ipv4` is whether the grant is live. The periodic
check matters for the size of numbers only: it keeps the age of an authorization far
below 2^32, where the 32-bit difference is the real one.

`register_t` is the component without expiry: seats and a ledger, and no state that
time would have to change. Its answers are the module's, and it does not react to
checks at all.
-/
import WifiManager.ClientAccess.Ledger

set_option autoImplicit false

namespace WifiManager.ClientAccess

open WifiManager.Lib

open client_access_state_t

variable {configTICK_RATE_HZ : UInt32}

/-! ## Grants over time -/

theorem grant_t.not_live_later {grant : grant_t} {t t' : ℕ} (h : ¬ grant.Live t) (ht : t ≤ t') :
    ¬ grant.Live t' := by
  unfold Live at h ⊢
  omega

/-- The grant in force. -/
def in_force (ledger : ledger_t) (mac : mac_t) (t : ℕ) : Prop :=
  ∃ grant, ledger mac = some grant ∧ grant.at_ticks ≤ t ∧ grant.Live t

/-! ## What an entry shows -/

/-- What an entry shows at `t` of the grant in the ledger, if the last periodic check
was at `checked`. -/
structure Shows (checked t : ℕ) (entry : client_access_entry_t) (written : Option grant_t) :
    Prop where
  authorized : entry.state = AUTHORIZED → ∃ grant, written = some grant ∧
    Stamp t entry grant ∧ entry.session_id = grant.session_id ∧
      grant.ttl_ticks ≤ 2 ^ 30 ∧
      (grant.ttl_ticks = 0 ∨ checked < grant.at_ticks + grant.ttl_ticks)
  lapsed : entry.state ≠ AUTHORIZED → ∀ grant, written = some grant → ¬ grant.Live t

section Entry

variable {checked t : ℕ} {entry : client_access_entry_t} {written : Option grant_t}

theorem Shows.later {t' : ℕ} (h : Shows checked t entry written) (ht : t ≤ t') :
    Shows checked t' entry written := by
  constructor
  · intro hstate
    obtain ⟨grant, hw, hstamp, hrest⟩ := h.authorized hstate
    exact ⟨grant, hw, hstamp.later ht, hrest⟩
  · intro hstate grant hw
    exact grant_t.not_live_later (h.lapsed hstate grant hw) ht

/-- Where the grant is over, so may be the authorization. -/
theorem shows_of_over (hstate : entry.state ≠ AUTHORIZED)
    (hover : ∀ grant, written = some grant → ¬ grant.Live t) : Shows checked t entry written :=
  ⟨fun h => absurd h hstate, fun _ => hover⟩

/-- An authorized entry in front of a packet or a check: its age has not wrapped. -/
theorem Shows.age (h : Shows checked t entry written) (hstate : entry.state = AUTHORIZED)
    (hgap : t ≤ checked + 2 ^ 31) :
    ∃ grant, written = some grant ∧ Stamp t entry grant ∧
      (grant.ttl_ticks = 0 ∨ (t - grant.at_ticks) % 2 ^ 32 = t - grant.at_ticks) := by
  obtain ⟨grant, hw, hstamp, -, hshort, hunchecked⟩ := h.authorized hstate
  refine ⟨grant, hw, hstamp, hunchecked.imp_right fun hchecked => ?_⟩
  have hat := hstamp.at_le
  omega

/-- **The lazy expiry.** The answer for an entry is whether its grant is live, and an
entry that loses its authorization had outlived it. -/
theorem Shows.can_forward (h : Shows checked t entry written) (hgap : t ≤ checked + 2 ^ 31) :
    Shows checked t (entry.can_forward (tick t)).1 written ∧
      ((entry.can_forward (tick t)).2 = true ↔
        ∃ grant, written = some grant ∧ grant.at_ticks ≤ t ∧ grant.Live t) := by
  by_cases hstate : entry.state = AUTHORIZED
  · obtain ⟨grant, rfl, hstamp, hage⟩ := h.age hstate hgap
    have helapsed := elapsed_lazy hstamp.at_le
    have honly : (∃ g, some grant = some g ∧ g.at_ticks ≤ t ∧ g.Live t) ↔ grant.Live t := by
      simp [hstamp.at_le]
    rw [client_access_entry_t.can_forward, if_pos hstate, honly, grant_t.Live]
    simp only [hstamp.ttl, hstamp.authorized_at, helapsed]
    -- a duration of zero never ends; otherwise the age decides, which is below 2^32
    by_cases hforever : grant.ttl_ticks = 0
    · rw [if_neg (by omega)]
      exact ⟨h, by simp [hforever]⟩
    rw [if_pos (by omega), hage.resolve_left hforever]
    by_cases hlive : t - grant.at_ticks < grant.ttl_ticks
    · rw [if_neg (by omega)]
      exact ⟨h, by simp [hlive]⟩
    · rw [if_pos (by omega)]
      refine ⟨shows_of_over (by simp [client_access_entry_t.unauthorized]) ?_, ?_⟩
      · rintro g ⟨⟩ hg
        exact hlive (hg.resolve_left hforever)
      · simp [hforever, hlive]
  · rw [client_access_entry_t.can_forward, if_neg hstate]
    refine ⟨h, ?_⟩
    simp only [Bool.false_eq_true, false_iff]
    rintro ⟨grant, hw, -, hlive⟩
    exact h.lapsed hstate grant hw hlive

/-- **The periodic expiry.** What is left authorized had not run out at the check. -/
theorem Shows.expire (h : Shows checked t entry written) (hgap : t ≤ checked + 2 ^ 31)
    (hused : entry.in_use = true) : Shows t t (entry.expire (tick t)) written := by
  by_cases hstate : entry.state = AUTHORIZED
  · obtain ⟨grant, rfl, hstamp, hage⟩ := h.age hstate hgap
    have helapsed := elapsed_periodic hstamp.at_le
    obtain ⟨g, hg, -, hsession, hshort, -⟩ := h.authorized hstate
    obtain rfl : grant = g := Option.some.inj hg
    -- a grant that is still live has lived less than its duration since the check of now
    have hstays : grant.Live t → Shows t t entry (some grant) := by
      intro hlive
      refine ⟨fun _ => ⟨grant, rfl, hstamp, hsession, hshort, ?_⟩, fun hc => absurd hstate hc⟩
      refine hlive.imp_right fun hlt => ?_
      have hat := hstamp.at_le
      omega
    rw [client_access_entry_t.expire, if_neg (by simp [hused]), if_neg (by simp [hstate])]
    simp only [hstamp.ttl, hstamp.authorized_at, helapsed]
    by_cases hforever : grant.ttl_ticks = 0
    · rw [if_pos (by omega)]
      exact hstays (.inl hforever)
    rw [if_neg (by omega), hage.resolve_left hforever]
    by_cases hlive : t - grant.at_ticks < grant.ttl_ticks
    · rw [if_neg (by omega)]
      exact hstays (.inr hlive)
    · rw [if_pos (by omega)]
      refine shows_of_over (by simp [client_access_entry_t.unauthorized]) ?_
      rintro g ⟨⟩ hg
      exact hlive (hg.resolve_left hforever)
  · have hsame : entry.expire (tick t) = entry := by
      rw [client_access_entry_t.expire, if_neg (by simp [hused]), if_pos hstate]
    rw [hsame]
    exact shows_of_over hstate (h.lapsed hstate)

end Entry

/-! ## What the table shows -/

/-- Every connected client's entry shows its grant. -/
def Shown (checked t : ℕ) (clients : client_table) (ledger : ledger_t) : Prop :=
  Agree (Shows checked t) clients ledger

theorem Shown.later {checked t t' : ℕ} {clients : client_table} {ledger : ledger_t}
    (h : Shown checked t clients ledger) (ht : t ≤ t') : Shown checked t' clients ledger :=
  fun mac entry hl => (h mac entry hl).later ht

/-- When the last periodic check was, behind a call at `t`. -/
def client_call.checked (t checked : ℕ) : client_call → ℕ
  | .client_access_expire_check _ => t
  | _ => checked

variable (configTICK_RATE_HZ) in
/-- The calls a lifetime is about, at `t`: a periodic check in one step, durations of
at most 2^30 ticks, and no state set by hand. -/
def client_call.Timed (t : ℕ) : client_call → Prop
  | .client_access_set_state _ _ => False
  | .client_access_authorize _ _ ttl_seconds =>
      (pdMS_TO_TICKS configTICK_RATE_HZ (ttl_seconds * 1000)).toNat ≤ 2 ^ 30
  | .client_access_expire_check sampled => sampled = tick t
  | _ => True

section Step

variable {checked t : ℕ} {clients : client_table} {ledger : ledger_t}

/-- An entry of which no authorization is left. -/
theorem shows_none {entry : client_access_entry_t} (hstate : entry.state ≠ AUTHORIZED) :
    Shows checked t entry none :=
  shows_of_over hstate (by
    rintro grant ⟨⟩)

/-- The address of an entry says nothing about its authorization. -/
theorem Shows.with_ip {entry : client_access_entry_t} {written : Option grant_t}
    (h : Shows checked t entry written) (ip : UInt32) :
    Shows checked t { entry with ip := ip } written := by
  constructor
  · intro hstate
    obtain ⟨grant, hw, hstamp, hrest⟩ := h.authorized hstate
    exact ⟨grant, hw, ⟨hstamp.at_le, hstamp.authorized_at, hstamp.ttl⟩, hrest⟩
  · exact h.lapsed

/-- An authorization is shown from the start. -/
theorem shows_authorized (hchecked : checked ≤ t) (session_id : ℤ) {ttl_seconds : UInt32}
    (httl : (pdMS_TO_TICKS configTICK_RATE_HZ (ttl_seconds * 1000)).toNat ≤ 2 ^ 30)
    (entry : client_access_entry_t) :
    Shows checked t (entry.authorized configTICK_RATE_HZ (tick t) session_id ttl_seconds)
      (some (.made configTICK_RATE_HZ t session_id ttl_seconds)) := by
  refine ⟨fun _ => ⟨_, rfl, stamp_authorized configTICK_RATE_HZ t session_id ttl_seconds entry,
    rfl, httl, ?_⟩, fun hc => absurd rfl hc⟩
  simp only [grant_t.made]
  omega

/-- **One call.** Whatever is told to the ledger, the table goes on to show it. -/
theorem Shown.step {state : client_access_t} (h : Shown checked t state.s_clients ledger)
    (hu : client_layout.Unique state.s_clients) (hchecked : checked ≤ t)
    (hgap : t ≤ checked + 2 ^ 31) {call : client_call} (hcall : call.Timed configTICK_RATE_HZ t)
    {err' : esp_err_t}
    (htells : Tells state.s_clients call
      (call.step configTICK_RATE_HZ (tick t) state).2.err err') :
    Shown (call.checked t checked) t (call.step configTICK_RATE_HZ (tick t) state).1.s_clients
      (record configTICK_RATE_HZ t ledger call err') := by
  cases call with
  | track_connected_client mac =>
      apply Agree.track_connected_client h hu mac htells.success
      exact shows_none (by simp [client_access_entry_t.connected])
  | remove_disconnect_client mac => exact Agree.remove_disconnect_client h hu mac
  | track_client_ip mac ip =>
      exact Agree.track_client_ip h hu mac fun _ _ hshows => hshows.with_ip ip
  | client_access_set_state mac access => exact hcall.elim
  | client_access_get_snapshot_by_ipv4 arp source_ip =>
      exact Agree.get_snapshot_by_ipv4 h hu arp fun _ _ hshows => hshows.with_ip source_ip
  | client_access_can_forward_ipv4 source_ip =>
      exact Agree.can_forward_ipv4 h hu source_ip fun _ _ hshows => (hshows.can_forward hgap).1
  | client_access_authorize mac_text session_id ttl_seconds =>
      exact Agree.authorize h hu mac_text htells.success
        fun entry => shows_authorized hchecked session_id hcall entry
  | client_access_revoke_authorization mac_text session_id =>
      apply Agree.revoke_authorization h hu htells
      · intro entry written _
        exact shows_none (by simp [client_access_entry_t.unauthorized])
      · intro _ entry written _ hstate
        exact shows_none hstate
  | client_access_expire_check sampled =>
      obtain rfl : sampled = tick t := hcall
      exact Agree.expire_check h hu (tick t) fun _ _ hused hshows => hshows.expire hgap hused

end Step

/-! ## Runs -/

variable (configTICK_RATE_HZ) in
/-- A run that starts at `now`, with the last periodic check at `checked`: time does not
go back, and no call comes more than 2^31 ticks after the last periodic check. -/
def Regular : (checked now : ℕ) → List event → Prop
  | _, _, [] => True
  | checked, now, e :: events =>
      now ≤ e.t ∧ e.t ≤ checked + 2 ^ 31 ∧ e.call.Timed configTICK_RATE_HZ e.t ∧
        Regular (e.call.checked e.t checked) e.t events

/-- A ledger that the table shows, in front of the rest of a regular run. -/
structure Kept (configTICK_RATE_HZ : UInt32) (clients : client_table) (ledger : ledger_t)
    (events : List event) (checked now : ℕ) : Prop where
  regular : Regular configTICK_RATE_HZ checked now events
  checked_le : checked ≤ now
  unique : client_layout.Unique clients
  shown : Shown checked now clients ledger

theorem kept_init {n start : ℕ} {events : List event} (ledger : ledger_t)
    (h : Regular configTICK_RATE_HZ start start events) :
    Kept configTICK_RATE_HZ (client_access_init n).s_clients ledger events start start :=
  ⟨h, Nat.le_refl start, unique_init n, agree_init _ n ledger⟩

theorem Kept.step {state : client_access_t} {ledger : ledger_t} {e : event}
    {events : List event} {checked now : ℕ}
    (h : Kept configTICK_RATE_HZ state.s_clients ledger (e :: events) checked now)
    {err' : esp_err_t}
    (htells : Tells state.s_clients e.call
      (e.call.step configTICK_RATE_HZ (tick e.t) state).2.err err') :
    Kept configTICK_RATE_HZ (e.call.step configTICK_RATE_HZ (tick e.t) state).1.s_clients
      (record configTICK_RATE_HZ e.t ledger e.call err') events (e.call.checked e.t checked)
      e.t := by
  obtain ⟨hnow, hgap, hcall, hrest⟩ := h.regular
  have hchecked : checked ≤ e.t := h.checked_le.trans hnow
  refine ⟨hrest, ?_, unique_step _ h.unique _ _, ?_⟩
  · cases e.call <;> simp [client_call.checked, hchecked]
  · exact (h.shown.later hnow).step h.unique hchecked hgap hcall htells

/-- The answer to the next packet. -/
theorem Kept.can_forward {clients : client_table} {ledger : ledger_t} {e : event}
    {events : List event} {checked now : ℕ}
    (h : Kept configTICK_RATE_HZ clients ledger (e :: events) checked now) (source_ip : UInt32) :
    (client_access_can_forward_ipv4 clients (tick e.t) source_ip).2 = true ↔
      ∃ entry, holder clients source_ip = some entry ∧ in_force ledger entry.mac e.t := by
  obtain ⟨hnow, hgap, -, -⟩ := h.regular
  have hspec := (client_access_can_forward_ipv4_spec h.unique (tick e.t) source_ip).2
  cases hholder : holder clients source_ip with
  | none =>
      simp only [hholder] at hspec
      simp [hspec]
  | some entry =>
      simp only [hholder] at hspec
      obtain ⟨hentry, hanswer, -⟩ := hspec
      have hshows := (h.shown.later hnow) entry.mac entry hentry
      rw [hanswer, (hshows.can_forward hgap).2]
      simp [in_force]

/-! ## The component without expiry -/

/-- Seats, and what was granted to whom. -/
structure register_t where
  seats : List seat_t
  ledger : ledger_t

/-- What the register takes for the result of a call: a revocation is for the session
the ledger names, whether or not it has run out, and everything else succeeds. -/
def verdict (ledger : ledger_t) : client_call → esp_err_t
  | .client_access_revoke_authorization mac_text session_id =>
      match (named_client mac_text session_id).bind ledger with
      | some grant => if grant.session_id = session_id then .ESP_OK else .ESP_ERR_INVALID_STATE
      | none => .ESP_ERR_INVALID_STATE
  | _ => .ESP_OK

/-- The answer to a packet: whether the grant of the one who sits at the address is
live. -/
def register_t.can_forward (register : register_t) (t : ℕ) (source_ip : UInt32) : Bool :=
  if source_ip = 0 then false
  else
    match seat_address_layout.lookup register.seats source_ip with
    | some seat =>
        match register.ledger seat.mac with
        | some grant => decide (grant.at_ticks ≤ t ∧ grant.Live t)
        | none => false
    | none => false

/-- The answer a call gets, if it asks for one. -/
def client_call.answer (can_forward : UInt32 → Bool) : client_call → Option Bool
  | .client_access_can_forward_ipv4 source_ip => some (can_forward source_ip)
  | _ => none

/-- The machine: no call does anything but sit down, leave, grant and revoke. -/
def register_t.step (configTICK_RATE_HZ : UInt32) (register : register_t) (e : event) :
    register_t × Option Bool :=
  (⟨seat_step register.seats e.call,
    record configTICK_RATE_HZ e.t register.ledger e.call (verdict register.ledger e.call)⟩,
    e.call.answer (register.can_forward e.t))

/-- The module as a machine with the same answers. -/
def answer_step (configTICK_RATE_HZ : UInt32) (state : client_access_t) (e : event) :
    client_access_t × Option Bool :=
  ((e.call.step configTICK_RATE_HZ (tick e.t) state).1,
    e.call.answer fun source_ip =>
      (client_access_can_forward_ipv4 state.s_clients (tick e.t) source_ip).2)

/-- The answers to the packets of a run. -/
def answers (configTICK_RATE_HZ : UInt32) (state : client_access_t) (events : List event) :
    List Bool :=
  Machine.outputs (answer_step configTICK_RATE_HZ) state events

/-- A periodic check. -/
def event.is_check (e : event) : Bool :=
  match e.call with
  | .client_access_expire_check _ => true
  | _ => false

/-- The register's own verdict is good enough to keep the ledger right. -/
theorem tells_verdict {state : client_access_t} {ledger : ledger_t} {checked t : ℕ}
    (hu : client_layout.Unique state.s_clients)
    (h : Shown checked t state.s_clients ledger) (now : UInt32) (call : client_call) :
    Tells state.s_clients call (call.step configTICK_RATE_HZ now state).2.err
      (verdict ledger call) := by
  -- only a revocation can be refused for what the table says
  by_cases hrevoke : ∃ mac_text session_id,
      call = .client_access_revoke_authorization mac_text session_id
  · obtain ⟨mac_text, session_id, rfl⟩ := hrevoke
    have herr := (client_access_revoke_authorization_spec hu mac_text session_id).2.1
    constructor
    · intro hok
      obtain ⟨mac, entry, hnamed, hl, hstate, hsession⟩ := herr.mp hok
      obtain ⟨grant, hgrant, -, hsame, -⟩ := (h mac entry hl).authorized hstate
      simp [verdict, hnamed, hgrant, ← hsame, hsession]
    · rintro _ _ ⟨⟩ hok
      by_cases hreturned : ∃ mac entry, named_client mac_text session_id = some mac ∧
          client_layout.lookup state.s_clients mac = some entry ∧ entry.state = AUTHORIZED ∧
            entry.session_id = session_id
      · exact .inl (herr.mpr hreturned)
      -- an entry that is not AUTHORIZED any more: the ledger may end what has ended anyway
      · right
        intro mac entry hnamed hl hstate
        obtain ⟨grant, hgrant, -, hsame, -⟩ := (h mac entry hl).authorized hstate
        simp only [verdict, hnamed, Option.bind_some, hgrant] at hok
        split_ifs at hok with hsession
        exact hreturned ⟨mac, entry, hnamed, hl, hstate, hsame.trans hsession⟩
  · have hok : verdict ledger call = .ESP_OK := by
      cases call
      case client_access_revoke_authorization mac_text session_id =>
        exact absurd ⟨mac_text, session_id, rfl⟩ hrevoke
      all_goals rfl
    refine ⟨fun _ => hok, fun mac_text session_id hcall _ => ?_⟩
    exact absurd ⟨mac_text, session_id, hcall⟩ hrevoke

/-- The register and the module agree about a packet. -/
theorem register_can_forward {clients : client_table} {ledger : ledger_t} {e : event}
    {events : List event} {checked now : ℕ}
    (h : Kept configTICK_RATE_HZ clients ledger (e :: events) checked now) (source_ip : UInt32) :
    (client_access_can_forward_ipv4 clients (tick e.t) source_ip).2
      = (register_t.mk (seats clients) ledger).can_forward e.t source_ip := by
  rw [Bool.eq_iff_iff, h.can_forward source_ip, register_t.can_forward, holder]
  by_cases hip : source_ip = 0
  · simp [hip]
  · rw [if_neg hip, if_neg hip]
    simp only [lookup_seats_address]
    cases address_layout.lookup clients source_ip with
    | none => simp
    | some entry =>
        simp only [Option.map_some, Option.some.injEq, exists_eq_left', in_force]
        have hmac : entry.seat.mac = entry.mac := rfl
        rw [hmac]
        cases ledger entry.mac with
        | none => simp
        | some grant => simp

/-- **The module refines the component without expiry.** -/
theorem answers_eq_register {n start : ℕ} {events : List event}
    (h : Regular configTICK_RATE_HZ start start events) :
    answers configTICK_RATE_HZ (client_access_init n) events
      = Machine.outputs (register_t.step configTICK_RATE_HZ)
          ⟨seats (client_access_init n).s_clients, fun _ => none⟩ events := by
  apply Machine.outputs_eq (R := fun state register events =>
    seats state.s_clients = register.seats ∧
      ∃ checked now, Kept configTICK_RATE_HZ state.s_clients register.ledger events checked now)
  · rintro state ⟨table, ledger⟩ e events ⟨rfl, checked, now, hkept⟩
    refine ⟨?_, ?_, ?_⟩
    · simp only [answer_step, register_t.step, register_can_forward hkept]
    · exact seats_step configTICK_RATE_HZ (tick e.t) state e.call
    · exact ⟨_, _, hkept.step (tells_verdict hkept.unique hkept.shown _ _)⟩
  · exact ⟨rfl, start, start, kept_init _ h⟩

/-- Checks can be left out. -/
theorem answers_without_checks {n start : ℕ} {events : List event}
    (h : Regular configTICK_RATE_HZ start start events) :
    answers configTICK_RATE_HZ (client_access_init n) events
      = Machine.outputs (register_t.step configTICK_RATE_HZ)
          ⟨seats (client_access_init n).s_clients, fun _ => none⟩
          (events.filter fun e => !e.is_check) := by
  rw [answers_eq_register h, Machine.outputs_filter]
  rintro register ⟨t, call⟩ hcheck
  cases call
  case client_access_expire_check sampled => rfl
  all_goals simp [event.is_check] at hcheck

/-- **Lifetime.** A packet is forwarded if and only if the first entry in use with its
address belongs to a client whose authorization is in force, and periodic checks make
no difference to any answer. -/
theorem authorization_lifetime (configTICK_RATE_HZ : UInt32) (ESP_WIFI_MAX_CONN_NUM start : ℕ)
    (events : List event) (h : Regular configTICK_RATE_HZ start start events) :
    (∀ before t source_ip after,
      events = before ++ ⟨t, .client_access_can_forward_ipv4 source_ip⟩ :: after →
      source_ip ≠ 0 →
      let w := (world.init ESP_WIFI_MAX_CONN_NUM).run configTICK_RATE_HZ before
      (w.step configTICK_RATE_HZ ⟨t, .client_access_can_forward_ipv4 source_ip⟩).2.can_forward
          = true ↔
        ∃ entry grant, address_layout.lookup w.state.s_clients source_ip = some entry ∧
          w.ledger entry.mac = some grant ∧ grant.at_ticks ≤ t ∧
            (grant.ttl_ticks = 0 ∨ t - grant.at_ticks < grant.ttl_ticks)) ∧
      ∀ events', Regular configTICK_RATE_HZ start start events' →
        events'.filter (fun e => !e.is_check) = events.filter (fun e => !e.is_check) →
        answers configTICK_RATE_HZ (client_access_init ESP_WIFI_MAX_CONN_NUM) events'
          = answers configTICK_RATE_HZ (client_access_init ESP_WIFI_MAX_CONN_NUM) events := by
  constructor
  · rintro before t source_ip after rfl hip
    -- the table shows the ledger behind every event of the run
    obtain ⟨checked, now, hkept⟩ := Machine.run_induction (world.step configTICK_RATE_HZ)
      (I := fun w events => ∃ checked now,
        Kept configTICK_RATE_HZ w.state.s_clients w.ledger events checked now)
      (by
        rintro w e events ⟨checked, now, hkept⟩
        exact ⟨_, _, hkept.step (tells_self _ _ _)⟩)
      (s := world.init ESP_WIFI_MAX_CONN_NUM)
      ⟨start, start, kept_init _ h⟩
    intro w
    have hanswer := hkept.can_forward source_ip
    rw [holder, if_neg hip] at hanswer
    simp only [in_force, grant_t.Live, ← exists_and_left] at hanswer
    exact hanswer
  · intro events' h' hsame
    rw [answers_without_checks h', answers_without_checks h, hsame]

/-! A client is authorized for a minute shortly before the tick counter wraps. -/

def sample_start : ℕ := 2 ^ 32 - 1000

/-- 192.168.4.2. -/
def sample_ip : UInt32 := 0xC0A80402

def sample_events : List event :=
  [⟨sample_start, .track_connected_client sample_mac⟩,
    ⟨sample_start + 10, .track_client_ip sample_mac sample_ip⟩,
    ⟨sample_start + 20, .client_access_authorize (some sample_mac_text) 7 60⟩,
    ⟨sample_start + 30, .client_access_can_forward_ipv4 sample_ip⟩,
    ⟨sample_start + 6019, .client_access_can_forward_ipv4 sample_ip⟩,
    ⟨sample_start + 6020, .client_access_can_forward_ipv4 sample_ip⟩]

/-- The same with a periodic check before the last two packets. -/
def sample_events_checked : List event :=
  sample_events.take 4 ++
    ⟨sample_start + 5000, .client_access_expire_check (tick (sample_start + 5000))⟩ ::
      sample_events.drop 4

theorem regular_sample (start : ℕ) (h : start = sample_start) :
    Regular 100 start start sample_events ∧ Regular 100 start start sample_events_checked := by
  have httl : (pdMS_TO_TICKS 100 (60 * 1000)).toNat ≤ 2 ^ 30 := by decide
  simp only [sample_events_checked, sample_events, List.take, List.drop, List.cons_append,
    List.nil_append, Regular, client_call.Timed, client_call.checked, ← h]
  refine ⟨⟨?_, ?_, trivial, ?_, ?_, trivial, ?_, ?_, httl, ?_, ?_, trivial, ?_, ?_, trivial, ?_, ?_,
    trivial, trivial⟩, ?_, ?_, trivial, ?_, ?_, trivial, ?_, ?_, httl, ?_, ?_, trivial, ?_, ?_,
    trivial, ?_, ?_, trivial, ?_, ?_, trivial, trivial⟩
  all_goals omega

theorem authorization_lifetime_sample :
    answers 100 (client_access_init 4) sample_events_checked
        = answers 100 (client_access_init 4) sample_events ∧
      answers 100 (client_access_init 4) sample_events = [true, true, false] := by
  obtain ⟨hregular, hchecked⟩ := regular_sample sample_start rfl
  exact ⟨(authorization_lifetime 100 4 sample_start sample_events hregular).2
    sample_events_checked hchecked rfl, rfl⟩

end WifiManager.ClientAccess
