/-
Which calls give an authorization, and which take it.

A session is what an authorization writes into the entry of its client. `in_force_step` says of
one call exactly when the session of a client is in force behind it: the call gives it to a
connected client, or it was in force and the call neither ends it nor looks at a clock by which it
is over. `client_access_set_state`, which nothing calls, is left out.
-/
import WifiManager.ClientAccess.Ledger

set_option autoImplicit false

namespace WifiManager.ClientAccess

open WifiManager.Lib

open client_access_state_t

/-! ## Sessions -/

/-- A session, as it is written into an entry. -/
structure session_t where
  session_id : ℤ
  authorized_at : UInt32
  ttl_ticks : ℤ
  deriving DecidableEq, Repr

/-- The session that `client_access_authorize` makes. -/
def session_t.made (configTICK_RATE_HZ now : UInt32) (session_id : ℤ) (ttl_seconds : UInt32) :
    session_t where
  session_id := session_id
  authorized_at := now
  ttl_ticks := (pdMS_TO_TICKS configTICK_RATE_HZ (ttl_seconds * 1000)).toNat

/-- By the tick count `now` the session is over. -/
def session_t.Over (session : session_t) (now : UInt32) : Prop :=
  0 < session.ttl_ticks ∧ session.ttl_ticks ≤ (now - session.authorized_at).toNat

instance (session : session_t) (now : UInt32) : Decidable (session.Over now) :=
  inferInstanceAs (Decidable (_ ∧ _))

/-- What an entry says about its session; of the tick count the low 32 bits are looked at. -/
def client_access_entry_t.session (entry : client_access_entry_t) : session_t :=
  ⟨entry.session_id, UInt32.ofInt entry.authorized_at_ticks, entry.ttl_ticks⟩

/-- The entry is authorized, in this session. -/
structure client_access_entry_t.InSession (entry : client_access_entry_t) (session : session_t) :
    Prop where
  state : entry.state = AUTHORIZED
  session : entry.session = session

/-- The client is authorized, in this session. -/
def InForce (clients : client_table) (mac : mac_t) (session : session_t) : Prop :=
  ∃ entry, client_layout.lookup clients mac = some entry ∧ entry.InSession session

/-! ## Calls -/

variable (configTICK_RATE_HZ : UInt32)

/-- The authorization of this client for this session. -/
def client_call.Grants (now : UInt32) (mac : mac_t) (session : session_t) : client_call → Prop
  | .client_access_authorize mac_text session_id ttl_seconds =>
      named_client mac_text session_id = some mac ∧
        session = .made configTICK_RATE_HZ now session_id ttl_seconds
  | _ => False

/-- A call that ends the session of a client, whatever the time is. -/
def client_call.Ends (mac : mac_t) (session : session_t) : client_call → Prop
  | .track_connected_client connected => connected = mac
  | .remove_disconnect_client disconnected => disconnected = mac
  | .client_access_set_state changed _ => changed = mac
  -- another authorization takes its place
  | .client_access_authorize mac_text session_id _ => named_client mac_text session_id = some mac
  | .client_access_revoke_authorization mac_text session_id =>
      named_client mac_text session_id = some mac ∧ session_id = session.session_id
  | _ => False

/-- A call that sees that the session of a client is over. -/
def client_call.Expires (clients : client_table) (now : UInt32) (mac : mac_t)
    (session : session_t) : client_call → Prop
  | .client_access_can_forward_ipv4 source_ip =>
      (∃ entry, holder clients source_ip = some entry ∧ entry.mac = mac) ∧ session.Over now
  | .client_access_expire_check sampled => session.Over sampled
  | _ => False

section Entries

variable {entry : client_access_entry_t} {session : session_t}

theorem not_in_session_connected (mac : mac_t) (session : session_t) :
    ¬ (client_access_entry_t.connected mac).InSession session := by
  rintro ⟨hstate, -⟩
  cases hstate

theorem not_in_session_unauthorized (entry : client_access_entry_t) (session : session_t) :
    ¬ entry.unauthorized.InSession session := by
  rintro ⟨hstate, -⟩
  cases hstate

theorem in_session_authorized (now : UInt32) (session_id : ℤ) (ttl_seconds : UInt32) :
    (entry.authorized configTICK_RATE_HZ now session_id ttl_seconds).InSession session ↔
      session = .made configTICK_RATE_HZ now session_id ttl_seconds := by
  have hmade : (entry.authorized configTICK_RATE_HZ now session_id ttl_seconds).session
      = .made configTICK_RATE_HZ now session_id ttl_seconds := by
    rw [client_access_entry_t.session, session_t.made, session_t.mk.injEq]
    exact ⟨rfl, Serial.ofInt_toNat now, rfl⟩
  constructor
  · rintro ⟨-, hsession⟩
    exact hsession.symm.trans hmade
  · rintro rfl
    exact ⟨rfl, hmade⟩

/-- What an entry in a session answers, and what is left of it. -/
theorem can_forward_in_session (h : entry.InSession session) (now : UInt32) :
    entry.can_forward now
      = if session.Over now then (entry.unauthorized, false) else (entry, true) := by
  obtain ⟨hstate, rfl⟩ := h
  rw [client_access_entry_t.can_forward, if_pos hstate]
  by_cases hlasting : entry.ttl_ticks > 0
  · rw [if_pos hlasting]
    by_cases hover : ((now - UInt32.ofInt entry.authorized_at_ticks).toNat : ℤ) ≥ entry.ttl_ticks
    · have hseen : entry.session.Over now := ⟨hlasting, hover⟩
      rw [if_pos hseen]
      exact if_pos hover
    · have hleft : ¬ entry.session.Over now := fun hseen => hover hseen.2
      rw [if_neg hleft]
      exact if_neg hover
  · have hleft : ¬ entry.session.Over now := fun hseen => hlasting hseen.1
    rw [if_neg hlasting, if_neg hleft]

/-- The scan sees the same time, although it subtracts 64-bit values. -/
theorem expire_in_session (hlive : entry.in_use = true) (h : entry.InSession session)
    (now : UInt32) :
    entry.expire now = if session.Over now then entry.unauthorized else entry := by
  obtain ⟨hstate, rfl⟩ := h
  have hused : ¬ entry.in_use = false := by
    rw [hlive]
    decide
  have helapsed : UInt32.ofInt ((now.toNat : ℤ) - entry.authorized_at_ticks)
      = now - UInt32.ofInt entry.authorized_at_ticks := by
    rw [Int.sub_eq_add_neg, UInt32.ofInt_add, UInt32.ofInt_neg, Serial.ofInt_toNat,
      UInt32.sub_eq_add_neg]
  rw [client_access_entry_t.expire, if_neg hused, if_neg (not_not.mpr hstate), helapsed]
  by_cases hlasting : entry.ttl_ticks ≤ 0
  · have hleft : ¬ entry.session.Over now := fun hseen => Int.not_lt.mpr hlasting hseen.1
    rw [if_pos hlasting, if_neg hleft]
  · rw [if_neg hlasting]
    by_cases hover : ((now - UInt32.ofInt entry.authorized_at_ticks).toNat : ℤ) ≥ entry.ttl_ticks
    · have hseen : entry.session.Over now := ⟨Int.not_le.mp hlasting, hover⟩
      rw [if_pos hseen]
      exact if_pos hover
    · have hleft : ¬ entry.session.Over now := fun hseen => hover hseen.2
      rw [if_neg hleft]
      exact if_neg hover

/-- Behind a look at the clock: the session is left unless it is over. -/
theorem in_session_can_forward (now : UInt32) :
    (entry.can_forward now).1.InSession session ↔ entry.InSession session ∧ ¬ session.Over now := by
  by_cases h : entry.InSession session
  · rw [can_forward_in_session h]
    split_ifs with hover
    · exact iff_of_false (not_in_session_unauthorized entry session) fun h' => h'.2 hover
    · exact iff_of_true h ⟨h, hover⟩
  · refine iff_of_false (fun h' => ?_) fun h' => h h'.1
    rcases entry.can_forward_cases now with hsame | hended
    · rw [hsame] at h'
      exact h h'
    · rw [hended] at h'
      exact not_in_session_unauthorized entry session h'

theorem in_session_expire (hlive : entry.in_use = true) (now : UInt32) :
    (entry.expire now).InSession session ↔ entry.InSession session ∧ ¬ session.Over now := by
  by_cases h : entry.InSession session
  · rw [expire_in_session hlive h]
    split_ifs with hover
    · exact iff_of_false (not_in_session_unauthorized entry session) fun h' => h'.2 hover
    · exact iff_of_true h ⟨h, hover⟩
  · refine iff_of_false (fun h' => ?_) fun h' => h h'.1
    rcases entry.expire_cases now with hsame | hended
    · rw [hsame] at h'
      exact h h'
    · rw [hended] at h'
      exact not_in_session_unauthorized entry session h'

end Entries

/-! ## One call -/

section Step

variable {configTICK_RATE_HZ} {clients clients' : client_table} {mac : mac_t}
  {session : session_t}

theorem in_force_same (h : client_layout.lookup clients' mac = client_layout.lookup clients mac) :
    InForce clients' mac session ↔ InForce clients mac session := by
  rw [InForce, InForce, h]

theorem not_in_force_absent (h : client_layout.lookup clients mac = none) :
    ¬ InForce clients mac session := by
  rintro ⟨entry, hentry, -⟩
  rw [h] at hentry
  cases hentry

/-- The entry of the client is replaced by another one. -/
theorem in_force_map {f : client_access_entry_t → client_access_entry_t} {P : Prop}
    (h : client_layout.lookup clients' mac = (client_layout.lookup clients mac).map f)
    (hf : ∀ entry, client_layout.lookup clients mac = some entry →
      ((f entry).InSession session ↔ entry.InSession session ∧ P)) :
    InForce clients' mac session ↔ InForce clients mac session ∧ P := by
  rw [InForce, h]
  constructor
  · rintro ⟨entry', hentry', hsession⟩
    obtain ⟨entry, hentry, rfl⟩ := Option.map_eq_some_iff.mp hentry'
    obtain ⟨hbefore, hP⟩ := (hf entry hentry).mp hsession
    exact ⟨⟨entry, hentry, hbefore⟩, hP⟩
  · rintro ⟨⟨entry, hentry, hbefore⟩, hP⟩
    exact ⟨f entry, by rw [hentry, Option.map_some], (hf entry hentry).mpr ⟨hbefore, hP⟩⟩

/-- Other fields than those of the authorization. -/
theorem in_force_moved {f : client_access_entry_t → client_access_entry_t}
    (h : client_layout.lookup clients' mac = (client_layout.lookup clients mac).map f)
    (hf : ∀ entry, (f entry).InSession session ↔ entry.InSession session) :
    InForce clients' mac session ↔ InForce clients mac session :=
  (in_force_map (P := True) h fun entry _ => (hf entry).trans (and_true _).symm.to_iff).trans
    (and_true _).to_iff

theorem in_force_track_client_ip (hu : client_layout.Unique clients) (target : mac_t)
    (ip : UInt32) :
    InForce (track_client_ip clients target ip).1 mac session ↔ InForce clients mac session := by
  have hlookup := (track_client_ip_spec hu target ip).2 mac
  by_cases htarget : mac = target
  · rw [if_pos htarget] at hlookup
    exact in_force_moved hlookup fun entry =>
      ⟨fun h => ⟨h.state, h.session⟩, fun h => ⟨h.state, h.session⟩⟩
  · rw [if_neg htarget] at hlookup
    exact in_force_same hlookup

variable {state : client_access_t} (hu : client_layout.Unique state.s_clients) (now : UInt32)
include hu

theorem in_force_connected (connected : mac_t) :
    InForce (track_connected_client state.s_clients connected).1 mac session ↔
      InForce state.s_clients mac session ∧ connected ≠ mac := by
  obtain ⟨-, ⟨-, hlookup⟩ | ⟨-, hsame, hnone⟩⟩ := track_connected_client_spec hu connected
  · have hentry := hlookup mac
    by_cases hmac : mac = connected
    · rw [if_pos hmac] at hentry
      refine iff_of_false ?_ fun h => h.2 hmac.symm
      rintro ⟨entry, hfound, hsession⟩
      obtain rfl := Option.some.inj (hentry.symm.trans hfound)
      exact not_in_session_connected connected session hsession
    · rw [if_neg hmac] at hentry
      rw [in_force_same hentry, and_iff_left fun h => hmac h.symm]
  · -- there was no room for another client
    rw [hsame]
    refine ⟨fun h => ⟨h, ?_⟩, And.left⟩
    rintro rfl
    exact not_in_force_absent hnone h

theorem in_force_disconnected (disconnected : mac_t) :
    InForce (remove_disconnect_client state disconnected).s_clients mac session ↔
      InForce state.s_clients mac session ∧ disconnected ≠ mac := by
  have hentry := (remove_disconnect_client_spec hu disconnected).2 mac
  by_cases hmac : mac = disconnected
  · rw [if_pos hmac] at hentry
    exact iff_of_false (not_in_force_absent hentry) fun h => h.2 hmac.symm
  · rw [if_neg hmac] at hentry
    rw [in_force_same hentry, and_iff_left fun h => hmac h.symm]

theorem in_force_can_forward (source_ip : UInt32) :
    InForce (client_access_can_forward_ipv4 state.s_clients now source_ip).1 mac session ↔
      InForce state.s_clients mac session ∧
        ¬ ((∃ entry, holder state.s_clients source_ip = some entry ∧ entry.mac = mac) ∧
          session.Over now) := by
  obtain ⟨-, hspec⟩ := client_access_can_forward_ipv4_spec hu now source_ip
  cases hholder : holder state.s_clients source_ip with
  | none =>
      rw [hholder] at hspec
      rw [hspec]
      refine (and_iff_left ?_).symm
      rintro ⟨⟨entry, hentry, -⟩, -⟩
      cases hentry
  | some held =>
      rw [hholder] at hspec
      obtain ⟨hheld, -, hlookup⟩ := hspec
      have hentry := hlookup mac
      by_cases hmac : mac = held.mac
      · have hmap : client_layout.lookup
            (client_access_can_forward_ipv4 state.s_clients now source_ip).1 mac
            = (client_layout.lookup state.s_clients mac).map fun entry =>
                (entry.can_forward now).1 := by
          rw [hentry, if_pos hmac, hmac, hheld, Option.map_some]
        rw [in_force_map hmap fun entry _ => in_session_can_forward now]
        refine and_congr_right fun _ => not_congr ⟨fun h => ⟨⟨held, rfl, hmac.symm⟩, h⟩, And.right⟩
      · rw [if_neg hmac] at hentry
        rw [in_force_same hentry]
        refine (and_iff_left ?_).symm
        rintro ⟨⟨entry, hentry, hmac'⟩, -⟩
        rw [← hmac', ← Option.some.inj hentry] at hmac
        exact hmac rfl

theorem in_force_authorize (mac_text : Option c_string) (session_id : ℤ) (ttl_seconds : UInt32) :
    InForce (client_access_authorize configTICK_RATE_HZ now state.s_clients mac_text session_id
        ttl_seconds).1 mac session ↔
      (named_client mac_text session_id = some mac ∧
          session = .made configTICK_RATE_HZ now session_id ttl_seconds) ∧
        (client_layout.lookup state.s_clients mac).isSome = true ∨
      InForce state.s_clients mac session ∧ named_client mac_text session_id ≠ some mac := by
  obtain ⟨-, -, hlookup⟩ := client_access_authorize_spec configTICK_RATE_HZ hu now mac_text
    session_id ttl_seconds
  have hentry := hlookup mac
  by_cases hmac : named_client mac_text session_id = some mac
  · rw [if_pos hmac.symm] at hentry
    rw [or_iff_left fun h => h.2 hmac, and_iff_right hmac]
    cases hfound : client_layout.lookup state.s_clients mac with
    | none =>
        rw [hfound] at hentry
        exact iff_of_false (not_in_force_absent hentry) fun h => Bool.false_ne_true h.2
    | some entry =>
        rw [hfound] at hentry
        rw [InForce, hentry]
        simp only [Option.map_some, Option.some.injEq, exists_eq_left', Option.isSome_some,
          and_true]
        exact in_session_authorized configTICK_RATE_HZ now session_id ttl_seconds
  · rw [if_neg (Ne.symm hmac)] at hentry
    rw [in_force_same hentry, or_iff_right fun h => hmac h.1.1, and_iff_left hmac]

theorem in_force_revoke (mac_text : Option c_string) (session_id : ℤ) :
    InForce (client_access_revoke_authorization state.s_clients mac_text session_id).1 mac
        session ↔
      InForce state.s_clients mac session ∧
        ¬ (named_client mac_text session_id = some mac ∧ session_id = session.session_id) := by
  obtain ⟨-, hok, hlookup⟩ := client_access_revoke_authorization_spec hu mac_text session_id
  have hentry := hlookup mac
  by_cases hwrites : (client_access_revoke_authorization state.s_clients mac_text session_id).2
      = .ESP_OK ∧ some mac = named_client mac_text session_id
  · rw [if_pos hwrites] at hentry
    obtain ⟨mac', entry, hnamed, hfound, -, hid⟩ := hok.mp hwrites.1
    obtain rfl : mac = mac' := Option.some.inj (hwrites.2.trans hnamed)
    have hgone : ¬ InForce (client_access_revoke_authorization state.s_clients mac_text
        session_id).1 mac session := by
      rintro ⟨entry', hentry', hsession⟩
      obtain ⟨before, -, rfl⟩ := Option.map_eq_some_iff.mp (hentry.symm.trans hentry')
      exact not_in_session_unauthorized before session hsession
    refine iff_of_false hgone ?_
    rintro ⟨⟨entry', hfound', hsession⟩, hother⟩
    obtain rfl := Option.some.inj (hfound.symm.trans hfound')
    exact hother ⟨hnamed, hid.symm.trans (congrArg session_t.session_id hsession.session)⟩
  · rw [if_neg hwrites] at hentry
    rw [in_force_same hentry]
    refine ⟨fun h => ⟨h, ?_⟩, And.left⟩
    rintro ⟨hnamed, hid⟩
    obtain ⟨entry, hfound, hsession⟩ := h
    have hentry_id := congrArg session_t.session_id hsession.session
    exact hwrites ⟨hok.mpr ⟨mac, entry, hnamed, hfound, hsession.state,
      hentry_id.trans hid.symm⟩, hnamed.symm⟩

/-- **One call**: behind it a session is in force if and only if the call gives it to a connected
client, or it was in force and the call neither ends it nor sees that it is over. -/
theorem in_force_step (configTICK_RATE_HZ : UInt32) (mac : mac_t) (session : session_t)
    {call : client_call}
    (hset : ∀ target access, call ≠ .client_access_set_state target access) :
    InForce (call.step configTICK_RATE_HZ now state).1.s_clients mac session ↔
      call.Grants configTICK_RATE_HZ now mac session ∧
          (client_layout.lookup state.s_clients mac).isSome = true ∨
        InForce state.s_clients mac session ∧ ¬ call.Ends mac session ∧
          ¬ call.Expires state.s_clients now mac session := by
  cases call with
  | client_access_set_state target access => exact absurd rfl (hset target access)
  | track_connected_client connected =>
      simp only [client_call.Grants, client_call.Ends, client_call.Expires, false_and, false_or,
        not_false_eq_true, and_true]
      exact in_force_connected hu connected
  | remove_disconnect_client disconnected =>
      simp only [client_call.Grants, client_call.Ends, client_call.Expires, false_and, false_or,
        not_false_eq_true, and_true]
      exact in_force_disconnected hu disconnected
  | track_client_ip target ip =>
      simp only [client_call.Grants, client_call.Ends, client_call.Expires, false_and, false_or,
        not_false_eq_true, and_true]
      exact in_force_track_client_ip hu target ip
  | client_access_get_snapshot_by_ipv4 arp source_ip =>
      simp only [client_call.Grants, client_call.Ends, client_call.Expires, false_and, false_or,
        not_false_eq_true, and_true]
      rcases client_access_get_snapshot_by_ipv4_clients arp state.s_clients source_ip with
        hsame | ⟨-, -, target, -, hmoved⟩
      · rw [client_call.step, hsame]
      · rw [client_call.step, hmoved]
        exact in_force_track_client_ip hu target source_ip
  | client_access_can_forward_ipv4 source_ip =>
      simp only [client_call.Grants, client_call.Ends, client_call.Expires, false_and, false_or,
        not_false_eq_true, true_and]
      exact in_force_can_forward hu now source_ip
  | client_access_authorize mac_text session_id ttl_seconds =>
      simp only [client_call.Grants, client_call.Ends, client_call.Expires, not_false_eq_true,
        and_true]
      exact in_force_authorize hu now mac_text session_id ttl_seconds
  | client_access_revoke_authorization mac_text session_id =>
      simp only [client_call.Grants, client_call.Ends, client_call.Expires, false_and, false_or,
        not_false_eq_true, and_true]
      exact in_force_revoke hu mac_text session_id
  | client_access_expire_check sampled =>
      simp only [client_call.Grants, client_call.Ends, client_call.Expires, false_and, false_or,
        not_false_eq_true, true_and]
      refine in_force_map ((client_access_expire_check_spec hu sampled).2 mac)
        fun entry hentry => ?_
      exact in_session_expire (Slots.Layout.lookup_holds hentry).1 sampled

/-- **Who may send**: the client that answers for the address, while a session of it is in force
that is not over. -/
theorem can_forward_iff_in_force (source_ip : UInt32) :
    (client_access_can_forward_ipv4 state.s_clients now source_ip).2 = true ↔
      ∃ entry session, holder state.s_clients source_ip = some entry ∧
        InForce state.s_clients entry.mac session ∧ ¬ session.Over now := by
  obtain ⟨-, hspec⟩ := client_access_can_forward_ipv4_spec hu now source_ip
  cases hholder : holder state.s_clients source_ip with
  | none =>
      rw [hholder] at hspec
      rw [hspec]
      refine iff_of_false Bool.false_ne_true ?_
      rintro ⟨entry, session, hentry, -⟩
      cases hentry
  | some held =>
      rw [hholder] at hspec
      obtain ⟨hheld, hanswer, -⟩ := hspec
      rw [hanswer]
      constructor
      · intro hforward
        by_cases hstate : held.state = AUTHORIZED
        · have hsession : held.InSession held.session := ⟨hstate, rfl⟩
          refine ⟨held, held.session, rfl, ⟨held, hheld, hsession⟩, fun hover => ?_⟩
          rw [can_forward_in_session hsession, if_pos hover] at hforward
          cases hforward
        · rw [client_access_entry_t.can_forward, if_neg hstate] at hforward
          cases hforward
      · rintro ⟨entry, session, hentry, ⟨entry', hfound, hsession⟩, hover⟩
        obtain rfl := Option.some.inj hentry
        obtain rfl := Option.some.inj (hheld.symm.trans hfound)
        rw [can_forward_in_session hsession, if_neg hover]

end Step

end WifiManager.ClientAccess
