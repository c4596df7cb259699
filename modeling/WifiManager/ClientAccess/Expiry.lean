/-
The periodic expiry, as the main loop runs it.

`client_access_expire_check` reads the tick counter before it takes the lock, so the
scan uses a tick that other tasks may have left behind. `checker_t` is the module
together with that sampled tick, and the steps of the main loop are interleaved with
the calls of all other tasks. The difference in the scan is unsigned: an
authorization younger than the sample has an age just below 2^32 and is revoked on
the spot. `scan_not_early_iff` says that this is the only way to be revoked early.
-/
import WifiManager.ClientAccess.Ledger

set_option autoImplicit false

namespace WifiManager.ClientAccess

open WifiManager.Lib

open client_access_state_t

/-! ## The two steps -/

/-- A step of some task: a call of the module, or one half of
`client_access_expire_check`. -/
inductive task_step
  | call (call : client_call)
  | sample
  | scan

structure task_event where
  t : ℕ
  task_step : task_step

/-- The world and `now` of the main loop, as the time at which it was read. -/
structure checker_t where
  world : world
  now : Option ℕ

/-- One step. The scan uses the tick that was sampled. -/
def checker_t.step (configTICK_RATE_HZ : UInt32) (checker : checker_t) (e : task_event) :
    checker_t × Unit :=
  match e.task_step with
  | .call call =>
      ({ checker with world := (checker.world.step configTICK_RATE_HZ ⟨e.t, call⟩).1 }, ())
  | .sample => ({ checker with now := some e.t }, ())
  | .scan =>
      match checker.now with
      | none => (checker, ())
      | some now =>
          let call := client_call.client_access_expire_check (tick now)
          (⟨(checker.world.step configTICK_RATE_HZ ⟨e.t, call⟩).1, none⟩, ())

/-- The module and the main loop at the start. -/
def checker_t.init (ESP_WIFI_MAX_CONN_NUM : ℕ) : checker_t :=
  ⟨.init ESP_WIFI_MAX_CONN_NUM, none⟩

def checker_t.run (configTICK_RATE_HZ : UInt32) (checker : checker_t)
    (events : List task_event) : checker_t :=
  Machine.run (checker_t.step configTICK_RATE_HZ) checker events

/-- Time does not go back. -/
def Ordered : (now : ℕ) → List task_event → Prop
  | _, [] => True
  | now, e :: events => now ≤ e.t ∧ Ordered e.t events

/-! ## What a scan may do -/

/-- **No early revocation.** Whoever loses an authorization in the scan at `t` was
authorized at least `ttl_ticks` ticks ago. -/
def NotEarly (w : world) (now : UInt32) (t : ℕ) : Prop :=
  ∀ (i : ℕ) (entry entry' : client_access_entry_t), w.state.s_clients[i]? = some entry →
    (client_access_expire_check w.state.s_clients now)[i]? = some entry' →
    entry.in_use = true → entry.state = AUTHORIZED → entry'.state = UNAUTHORIZED →
    ∃ grant, w.ledger entry.mac = some grant ∧
      entry.ttl_ticks ≤ ((t - grant.at_ticks : ℕ) : ℤ)

/-- What the sample must be like for the scan at `t`: every authorization that is still
running was made before the sample, or so long after it that the difference has come
round to a small number again. -/
def Timely (w : world) (now t : ℕ) : Prop :=
  ∀ (i : ℕ) (entry : client_access_entry_t) (grant : grant_t),
    w.state.s_clients[i]? = some entry → entry.in_use = true → entry.state = AUTHORIZED →
    0 < entry.ttl_ticks → w.ledger entry.mac = some grant →
    ((t - grant.at_ticks : ℕ) : ℤ) < entry.ttl_ticks →
    (grant.at_ticks - now) % 2 ^ 32 = 0 ∨
      2 ^ 32 < (((grant.at_ticks - now) % 2 ^ 32 : ℕ) : ℤ) + entry.ttl_ticks

/-! ## What every run keeps -/

/-- Whoever can be revoked by a scan carries the stamp of the last authorization. -/
def Stamped (t : ℕ) (entry : client_access_entry_t) (written : Option grant_t) : Prop :=
  0 < entry.ttl_ticks → ∃ grant, written = some grant ∧ Stamp t entry grant

section Entry

variable {t : ℕ} {entry : client_access_entry_t} {written : Option grant_t}

theorem Stamped.later {t' : ℕ} (h : Stamped t entry written) (ht : t ≤ t') :
    Stamped t' entry written := by
  intro httl
  obtain ⟨grant, hw, hstamp⟩ := h httl
  exact ⟨grant, hw, hstamp.later ht⟩

theorem stamped_unauthorized (entry : client_access_entry_t) (written : Option grant_t) :
    Stamped t entry.unauthorized written := by
  intro httl
  simp [client_access_entry_t.unauthorized] at httl

theorem Stamped.expire (h : Stamped t entry written) (now : UInt32) :
    Stamped t (entry.expire now) written := by
  obtain hsame | hover := entry.expire_cases now
  · rwa [hsame]
  · rw [hover]
    exact stamped_unauthorized entry written

theorem Stamped.can_forward (h : Stamped t entry written) (now : UInt32) :
    Stamped t (entry.can_forward now).1 written := by
  obtain hsame | hover := entry.can_forward_cases now
  · rwa [hsame]
  · rw [hover]
    exact stamped_unauthorized entry written

/-- Fields that a stamp does not show. -/
theorem Stamped.other_fields {entry' : client_access_entry_t} (h : Stamped t entry written)
    (hat : entry'.authorized_at_ticks = entry.authorized_at_ticks)
    (httl : entry'.ttl_ticks = entry.ttl_ticks) : Stamped t entry' written := by
  intro hpos
  obtain ⟨grant, hw, hstamp⟩ := h (httl ▸ hpos)
  exact ⟨grant, hw, hstamp.at_le, hat.trans hstamp.authorized_at, httl.trans hstamp.ttl⟩

end Entry

variable {configTICK_RATE_HZ : UInt32}

/-- One call keeps the stamps, also one whose tick is out of date. -/
theorem stamped_step {state : client_access_t} {ledger : ledger_t} {t : ℕ}
    (h : Agree (Stamped t) state.s_clients ledger)
    (hu : client_layout.Unique state.s_clients) (call : client_call) :
    Agree (Stamped t) (call.step configTICK_RATE_HZ (tick t) state).1.s_clients
      (record configTICK_RATE_HZ t ledger call
        (call.step configTICK_RATE_HZ (tick t) state).2.err) := by
  cases call with
  | track_connected_client mac =>
      apply h.track_connected_client hu mac id
      intro httl
      simp [client_access_entry_t.connected] at httl
  | remove_disconnect_client mac => exact h.remove_disconnect_client hu mac
  | track_client_ip mac ip =>
      exact h.track_client_ip hu mac fun _ _ hstamped => hstamped.other_fields rfl rfl
  | client_access_set_state mac access =>
      exact h.set_state hu mac fun _ _ hstamped => hstamped.other_fields rfl rfl
  | client_access_get_snapshot_by_ipv4 arp source_ip =>
      exact h.get_snapshot_by_ipv4 hu arp fun _ _ hstamped => hstamped.other_fields rfl rfl
  | client_access_can_forward_ipv4 source_ip =>
      exact h.can_forward_ipv4 hu source_ip fun _ _ hstamped => hstamped.can_forward (tick t)
  | client_access_authorize mac_text session_id ttl_seconds =>
      apply h.authorize hu mac_text id
      intro entry _
      exact ⟨_, rfl, stamp_authorized configTICK_RATE_HZ t session_id ttl_seconds entry⟩
  | client_access_revoke_authorization mac_text session_id =>
      apply h.revoke_authorization hu (tells_self _ _ _)
      · intro entry _ _
        exact stamped_unauthorized entry none
      · intro hne
        exact absurd rfl hne
  | client_access_expire_check sampled =>
      exact h.expire_check hu sampled fun _ _ _ hstamped => hstamped.expire sampled

/-- What holds in front of the rest of a run. -/
structure Followed (checker : checker_t) (events : List task_event) (now : ℕ) : Prop where
  ordered : Ordered now events
  unique : client_layout.Unique checker.world.state.s_clients
  stamped : Agree (Stamped now) checker.world.state.s_clients checker.world.ledger
  sampled : ∀ t, checker.now = some t → t ≤ now

theorem followed_init (ESP_WIFI_MAX_CONN_NUM : ℕ) {events : List task_event}
    (h : Ordered 0 events) : Followed (.init ESP_WIFI_MAX_CONN_NUM) events 0 := by
  refine ⟨h, unique_init _, agree_init _ _ _, ?_⟩
  rintro t ⟨⟩

theorem Followed.step {checker : checker_t} {e : task_event} {events : List task_event} {now : ℕ}
    (h : Followed checker (e :: events) now) :
    Followed (checker.step configTICK_RATE_HZ e).1 events e.t := by
  obtain ⟨hnow, hrest⟩ := h.ordered
  have hstamped : Agree (Stamped e.t) checker.world.state.s_clients checker.world.ledger :=
    fun mac entry hl => (h.stamped mac entry hl).later hnow
  obtain ⟨t, task_step⟩ := e
  cases task_step with
  | call call =>
      exact ⟨hrest, unique_step _ h.unique _ call, stamped_step hstamped h.unique call,
        fun sampled hs => (h.sampled sampled hs).trans hnow⟩
  | sample =>
      refine ⟨hrest, h.unique, hstamped, ?_⟩
      rintro sampled ⟨⟩
      exact Nat.le_refl t
  -- a scan with an old sample is a check with that tick
  | scan =>
      rw [checker_t.step]
      cases hsample : checker.now with
      | none =>
          refine ⟨hrest, h.unique, hstamped, ?_⟩
          intro sampled hs
          rw [hsample] at hs
          cases hs
      | some sampled =>
          let call := client_call.client_access_expire_check (tick sampled)
          have hstamped' := @stamped_step configTICK_RATE_HZ _ _ _ hstamped h.unique call
          refine ⟨hrest, unique_step configTICK_RATE_HZ h.unique (tick t) call, hstamped', ?_⟩
          rintro _ ⟨⟩

theorem followed_run (configTICK_RATE_HZ : UInt32) (ESP_WIFI_MAX_CONN_NUM : ℕ)
    {before after : List task_event} (h : Ordered 0 (before ++ after)) :
    ∃ now, Followed ((checker_t.init ESP_WIFI_MAX_CONN_NUM).run configTICK_RATE_HZ before)
      after now := by
  apply Machine.run_induction (checker_t.step configTICK_RATE_HZ)
    (I := fun checker events => ∃ now, Followed checker events now)
  · rintro checker e events ⟨now, hfollowed⟩
    exact ⟨e.t, hfollowed.step⟩
  · exact ⟨0, followed_init _ h⟩

/-! ## Who is revoked early -/

/-- What the scan makes of an entry whose authorization is still running. -/
theorem expire_running {entry : client_access_entry_t} {grant : grant_t} {now t : ℕ}
    (hused : entry.in_use = true) (hstate : entry.state = AUTHORIZED)
    (httl : 0 < entry.ttl_ticks) (hstamp : Stamp t entry grant) (hnow : now ≤ t)
    (hrunning : ((t - grant.at_ticks : ℕ) : ℤ) < entry.ttl_ticks) :
    (entry.expire (tick now)).state = UNAUTHORIZED ↔
      (grant.at_ticks - now) % 2 ^ 32 ≠ 0 ∧
        (((grant.at_ticks - now) % 2 ^ 32 : ℕ) : ℤ) + entry.ttl_ticks ≤ 2 ^ 32 := by
  have hat := hstamp.at_le
  rw [client_access_entry_t.expire, if_neg (by simp [hused]), if_neg (by simp [hstate]),
    if_neg (by omega)]
  simp only [hstamp.authorized_at]
  by_cases hbefore : grant.at_ticks ≤ now
  · -- made before the sample: the age at the sample is below the age at the scan
    have helapsed := elapsed_periodic hbefore
    have hsmall := Nat.mod_le (now - grant.at_ticks) (2 ^ 32)
    rw [if_neg (by omega), hstate, Nat.sub_eq_zero_of_le hbefore]
    simp
  · -- made after the sample: the age is taken modulo 2^32 from below zero
    have helapsed := elapsed_stale (Nat.lt_of_not_le hbefore)
    have hstale := Nat.mod_lt (grant.at_ticks - now) (show 2 ^ 32 > 0 by decide)
    rw [helapsed]
    by_cases hzero : (grant.at_ticks - now) % 2 ^ 32 = 0
    · rw [hzero, if_neg (by omega), hstate]
      simp
    · rw [Nat.mod_eq_of_lt (show 2 ^ 32 - (grant.at_ticks - now) % 2 ^ 32 < 2 ^ 32 by omega)]
      by_cases hearly : (((grant.at_ticks - now) % 2 ^ 32 : ℕ) : ℤ) + entry.ttl_ticks ≤ 2 ^ 32
      · rw [if_pos (by omega)]
        exact iff_of_true rfl ⟨hzero, hearly⟩
      · rw [if_neg (by omega), hstate]
        exact iff_of_false (by simp) (fun hc => hearly hc.2)

/-- A scan takes away only authorizations that have a duration. -/
theorem ttl_of_expired {entry : client_access_entry_t} {now : UInt32}
    (hstate : entry.state = AUTHORIZED) (hover : (entry.expire now).state = UNAUTHORIZED) :
    0 < entry.ttl_ticks := by
  by_contra hforever
  have hsame : entry.expire now = entry := by
    rw [client_access_entry_t.expire, if_pos (show entry.ttl_ticks ≤ 0 by omega)]
    split_ifs <;> rfl
  rw [hsame, hstate] at hover
  cases hover

/-- A client is authorized for a minute just after the main loop has read the tick. -/
def sample_race : List task_event :=
  [⟨0, .call (.track_connected_client sample_mac)⟩,
    ⟨100, .sample⟩,
    ⟨101, .call (.client_access_authorize (some sample_mac_text) 7 60)⟩]

/-- **Early revocations.** In every run, a scan revokes nobody early if and only if no
running authorization was made between the sample and the scan (up to the difference
coming round). -/
theorem scan_not_early_iff (configTICK_RATE_HZ : UInt32) (ESP_WIFI_MAX_CONN_NUM : ℕ)
    (before after : List task_event) (t now : ℕ)
    (hordered : Ordered 0 (before ++ ⟨t, .scan⟩ :: after))
    (hsample : ((checker_t.init ESP_WIFI_MAX_CONN_NUM).run configTICK_RATE_HZ before).now
      = some now) :
    let w := ((checker_t.init ESP_WIFI_MAX_CONN_NUM).run configTICK_RATE_HZ before).world
    NotEarly w (tick now) t ↔ Timely w now t := by
  obtain ⟨last, hfollowed⟩ := followed_run configTICK_RATE_HZ ESP_WIFI_MAX_CONN_NUM hordered
  intro w
  have hlast : last ≤ t := hfollowed.ordered.1
  have hnow : now ≤ t := (hfollowed.sampled now hsample).trans hlast
  -- every running authorization in the table is on record with its tick
  have hstamped : ∀ (i : ℕ) (entry : client_access_entry_t),
      w.state.s_clients[i]? = some entry → entry.in_use = true →
      Stamped t entry (w.ledger entry.mac) := by
    intro i entry hi hused
    have hl := Slots.Layout.lookup_of_live hfollowed.unique hi hused
    exact (hfollowed.stamped entry.mac entry hl).later hlast
  constructor
  · intro hnot i entry grant hi hused hstate httl hgrant hrunning
    obtain ⟨g, hg, hstamp⟩ := hstamped i entry hi hused httl
    obtain rfl : grant = g := Option.some.inj (hgrant.symm.trans hg)
    by_contra hearly
    -- a running authorization that the sample misses is revoked by the scan
    have hrevoked := (expire_running hused hstate httl hstamp hnow hrunning).mpr (by omega)
    obtain ⟨g, hg, hlate⟩ := hnot i entry (entry.expire (tick now)) hi
      (by rw [client_access_expire_check, List.getElem?_map, hi]; rfl) hused hstate hrevoked
    obtain rfl : grant = g := Option.some.inj (hgrant.symm.trans hg)
    omega
  · intro htimely i entry entry' hi hi' hused hstate hrevoked
    rw [client_access_expire_check, List.getElem?_map, hi] at hi'
    obtain rfl := Option.some.inj hi'
    have httl := ttl_of_expired hstate hrevoked
    obtain ⟨grant, hgrant, hstamp⟩ := hstamped i entry hi hused httl
    refine ⟨grant, hgrant, ?_⟩
    -- one that is revoked while it runs was made behind the sample
    by_contra hrunning
    have hearly := (expire_running hused hstate httl hstamp hnow (by omega)).mp hrevoked
    have hlate := htimely i entry grant hi hused hstate httl hgrant (by omega)
    omega

theorem scan_not_early_iff_sample :
    let w := ((checker_t.init 4).run 100 sample_race).world
    NotEarly w (tick 100) 101 ↔ Timely w 100 101 :=
  scan_not_early_iff 100 4 sample_race [] 101 100
    (by simp [Ordered, sample_race]) rfl

/-- The client authorized for a minute between the sample and the scan is revoked by the
scan, in the tick in which it was authorized. -/
theorem scan_early :
    Ordered 0 (sample_race ++ [⟨101, .scan⟩]) ∧
      ((checker_t.init 4).run 100 sample_race).now = some 100 ∧
      ¬ NotEarly ((checker_t.init 4).run 100 sample_race).world (tick 100) 101 := by
  refine ⟨by simp [Ordered, sample_race], rfl, ?_⟩
  intro hnot
  obtain ⟨grant, hgrant, hlate⟩ := hnot 0
    ⟨true, sample_mac, AUTHORIZED, 7, 0, 101, 6000, 0⟩
    ⟨true, sample_mac, UNAUTHORIZED, 0, 0, 101, 0, 0⟩ rfl rfl rfl rfl rfl
  obtain rfl : (⟨101, 6000, 7⟩ : grant_t) = grant := Option.some.inj hgrant
  simp at hlate

end WifiManager.ClientAccess
