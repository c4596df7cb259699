/-
The clients do not disturb each other.

`client_alone` follows the machine of one client along a run of the table: its entry and its
answers come from the calls about the client and those over all clients. Two runs that agree on
these leave the same entry behind, in whatever slots, and give the same answers. When all other
calls are left out, the client is alone in the table and always finds a slot (`roomAlong_kept`).
-/
import WifiManager.ClientAccess.Alone

set_option autoImplicit false

namespace WifiManager.ClientAccess

open WifiManager.Lib

/-! ## Runs -/

variable (configTICK_RATE_HZ : UInt32)

/-- The table as a machine. -/
def table_step (state : client_access_t) (e : table_event) : client_access_t × table_reply :=
  e.step configTICK_RATE_HZ state

/-- The table after a sequence of calls. -/
def table_run (state : client_access_t) (events : List table_event) : client_access_t :=
  Machine.run (table_step configTICK_RATE_HZ) state events

/-- The client has room throughout a run. -/
def RoomAlong (mac : mac_t) (state : client_access_t) (events : List table_event) : Prop :=
  Machine.AtEveryStep (table_step configTICK_RATE_HZ) state events (Room mac)

/-- What is left of a run without the operations on other clients. -/
def table_event.kept (given : List (mac_t × UInt32)) (mac : mac_t) (e : table_event) : Bool :=
  e.call.concerns given mac || e.call.common

/-- The answers to the operations on the client. -/
def client_answers (given : List (mac_t × UInt32)) (mac : mac_t) (state : client_access_t)
    (events : List table_event) : List client_reply :=
  Machine.outputs (observed_step configTICK_RATE_HZ given mac) state events

section Runs

variable {configTICK_RATE_HZ} {given : List (mac_t × UInt32)} {mac : mac_t}

theorem mem_given {events : List table_event} {e : table_event} (he : e ∈ events)
    {pair : mac_t × UInt32} (h : e.call.gives = some pair) : pair ∈ ClientAccess.given events :=
  List.mem_filterMap.mpr ⟨e, he, h⟩

/-- The relation between the table and the machine of the client, with the calls to come. -/
structure Follows (configTICK_RATE_HZ : UInt32) (given : List (mac_t × UInt32)) (mac : mac_t)
    (state : client_access_t) (entry : Option client_access_entry_t)
    (events : List table_event) : Prop where
  owned : Owned given state.s_clients
  entry : client_layout.lookup state.s_clients mac = entry
  gives : ∀ e ∈ events, ∀ pair, e.call.gives = some pair → pair ∈ given
  room : RoomAlong configTICK_RATE_HZ mac state events

theorem Follows.step (hapart : Apart given mac) {state : client_access_t}
    {entry : Option client_access_entry_t} {e : table_event} {events : List table_event}
    (h : Follows configTICK_RATE_HZ given mac state entry (e :: events)) :
    (observed_step configTICK_RATE_HZ given mac state e).2
        = (client_machine configTICK_RATE_HZ given mac entry e).2 ∧
      Follows configTICK_RATE_HZ given mac (observed_step configTICK_RATE_HZ given mac state e).1
        (client_machine configTICK_RATE_HZ given mac entry e).1 events := by
  obtain ⟨howned, rfl, hgives, hroom⟩ := h
  obtain ⟨hfirst, hrest⟩ := Machine.atEveryStep_cons.mp hroom
  have he := hgives e List.mem_cons_self
  obtain ⟨hanswer, hentry⟩ := step_client howned hapart he hfirst
  refine ⟨hanswer, howned.step e he, hentry, ?_, hrest⟩
  exact fun d hd => hgives d (List.mem_cons_of_mem e hd)

theorem lookup_init (ESP_WIFI_MAX_CONN_NUM : ℕ) (k : mac_t) :
    client_layout.lookup (client_access_init ESP_WIFI_MAX_CONN_NUM).s_clients k = none := by
  rw [Slots.Layout.lookup, List.find?_eq_none]
  intro entry hentry
  obtain rfl := List.eq_of_mem_replicate hentry
  exact Bool.false_ne_true

/-- Nobody is connected at the start. -/
theorem follows_init (ESP_WIFI_MAX_CONN_NUM : ℕ) {events : List table_event}
    (hgives : ∀ e ∈ events, ∀ pair, e.call.gives = some pair → pair ∈ given)
    (hroom : RoomAlong configTICK_RATE_HZ mac (client_access_init ESP_WIFI_MAX_CONN_NUM) events) :
    Follows configTICK_RATE_HZ given mac (client_access_init ESP_WIFI_MAX_CONN_NUM) none
      events where
  owned := by
    refine ⟨unique_init ESP_WIFI_MAX_CONN_NUM, fun k entry h => ?_⟩
    rw [lookup_init] at h
    cases h
  entry := lookup_init ESP_WIFI_MAX_CONN_NUM mac
  gives := hgives
  room := hroom

/-- The machine of the client does not see the other calls. -/
theorem client_machine_passing {entry : Option client_access_entry_t} {e : table_event}
    (h : e.kept given mac = false) :
    client_machine configTICK_RATE_HZ given mac entry e = (entry, none) := by
  obtain ⟨hconcerns, hcommon⟩ := Bool.or_eq_false_iff.mp h
  rw [client_machine, if_neg (Bool.not_eq_true _ ▸ hconcerns),
    if_neg (Bool.not_eq_true _ ▸ hcommon)]

/-- **The table, seen from one client**: its entry and its answers come from the calls that
are kept, and from nothing else. -/
theorem client_alone (hapart : Apart given mac) (ESP_WIFI_MAX_CONN_NUM : ℕ)
    {events : List table_event} (hgives : ClientAccess.given events ⊆ given)
    (hroom : RoomAlong configTICK_RATE_HZ mac (client_access_init ESP_WIFI_MAX_CONN_NUM) events) :
    let start := client_access_init ESP_WIFI_MAX_CONN_NUM
    let kept := events.filter fun e => e.kept given mac
    client_layout.lookup (table_run configTICK_RATE_HZ start events).s_clients mac
        = Machine.run (client_machine configTICK_RATE_HZ given mac) none kept ∧
      client_answers configTICK_RATE_HZ given mac start events
        = Machine.outputs (client_machine configTICK_RATE_HZ given mac) none kept := by
  have hstart := follows_init ESP_WIFI_MAX_CONN_NUM
    (fun e he pair hpair => hgives (mem_given he hpair)) hroom
  have hskip : ∀ (entry : Option client_access_entry_t) (e : table_event),
      e.kept given mac = false →
        client_machine configTICK_RATE_HZ given mac entry e = (entry, none) :=
    fun entry e => client_machine_passing
  refine ⟨?_, ?_⟩
  · rw [Machine.run_filter fun entry e he => congrArg Prod.fst (hskip entry e he)]
    exact (Machine.run_related (fun _ _ _ _ h => (h.step hapart).2) hstart).entry
  · rw [Machine.outputs_filter hskip]
    exact Machine.outputs_eq (fun _ _ _ _ h => h.step hapart) hstart

/-! ## Without the other clients -/

/-- A table with nobody in it but the client. -/
structure Alone (mac : mac_t) (slots : ℕ) (clients : client_table) : Prop where
  unique : client_layout.Unique clients
  others : ∀ k, k ≠ mac → client_layout.lookup clients k = none
  length : clients.length = slots

theorem Alone.step {slots : ℕ} {state : client_access_t} (h : Alone mac slots state.s_clients)
    {e : table_event} (hkept : e.kept given mac = true) :
    Alone mac slots (e.step configTICK_RATE_HZ state).1.s_clients where
  unique := unique_table_step h.unique e
  others := by
    intro k hk
    rw [Option.eq_none_iff_forall_ne_some]
    intro entry hentry
    obtain ⟨hcall, -⟩ | ⟨before, hbefore, -⟩ := table_step_origin h.unique e hentry
    · rw [table_event.kept, hcall] at hkept
      have hsame : some k = some mac := by
        simpa [table_call.concerns, table_call.common, client_call.client] using hkept
      exact hk (Option.some.inj hsame)
    · rw [h.others k hk] at hbefore
      cases hbefore
  length := (length_table_step state e).trans h.length

/-- Its connections find a slot, if there is any. -/
theorem Alone.room {slots : ℕ} {state : client_access_t} (h : Alone mac slots state.s_clients)
    (hslots : 0 < slots) (e : table_event) : Room mac state e := by
  intro _
  cases hfind : find_client_index_locked state.s_clients mac with
  | some i => rfl
  | none =>
      rw [Option.none_or]
      have hmac := Slots.Layout.find_eq_none_iff.mp hfind
      have hlt : 0 < state.s_clients.length := by rw [h.length]; exact hslots
      refine Slots.Layout.free_isSome (List.getElem?_eq_getElem hlt) ?_
      -- an entry in use would be the client's, or that of nobody
      by_contra hlive
      rw [Bool.not_eq_false] at hlive
      have hlookup := Slots.Layout.lookup_of_live h.unique (List.getElem?_eq_getElem hlt) hlive
      by_cases hk : client_layout.key state.s_clients[0] = mac
      · rw [hk, hmac] at hlookup
        cases hlookup
      · rw [h.others _ hk] at hlookup
        cases hlookup

/-- A connection that finds a slot finds it in a table that has one. -/
theorem slots_of_room {state : client_access_t} {e : table_event} (h : Room mac state e)
    (hcall : e.call = .call (.track_connected_client mac)) : 0 < state.s_clients.length := by
  obtain ⟨i, hslot⟩ := Option.isSome_iff_exists.mp (h hcall)
  obtain hfind | ⟨-, hfree⟩ := Option.or_eq_some_iff.mp hslot
  · obtain ⟨entry, hi, -⟩ := Slots.Layout.find_spec hfind
    exact Nat.zero_lt_of_lt (List.getElem?_eq_some_iff.mp hi).1
  · obtain ⟨entry, hi, -⟩ := Slots.Layout.free_spec hfree
    exact Nat.zero_lt_of_lt (List.getElem?_eq_some_iff.mp hi).1

theorem length_table_run (state : client_access_t) (events : List table_event) :
    (table_run configTICK_RATE_HZ state events).s_clients.length = state.s_clients.length :=
  Machine.run_invariant (I := fun reached => reached.s_clients.length = state.s_clients.length)
    (table_step configTICK_RATE_HZ)
    (fun reached e h => (length_table_step reached e).trans h) rfl events

/-- **Without the other clients there is room**, if there was with them. -/
theorem roomAlong_kept {ESP_WIFI_MAX_CONN_NUM : ℕ} {events : List table_event}
    (hroom : RoomAlong configTICK_RATE_HZ mac (client_access_init ESP_WIFI_MAX_CONN_NUM) events) :
    RoomAlong configTICK_RATE_HZ mac (client_access_init ESP_WIFI_MAX_CONN_NUM)
      (events.filter fun e => e.kept given mac) := by
  intro before e after hsplit hcall
  -- the same connection is a step of the whole run, and found a slot there
  have hmem : e ∈ events := by
    refine List.mem_of_mem_filter (p := fun e => e.kept given mac) ?_
    rw [hsplit]
    exact List.mem_append_right before List.mem_cons_self
  obtain ⟨before', after', hevents⟩ := List.append_of_mem hmem
  have hslots := slots_of_room (hroom before' e after' hevents) hcall
  have hlength : 0 < ESP_WIFI_MAX_CONN_NUM := by
    have hrun : (table_run configTICK_RATE_HZ _ before').s_clients.length = _ :=
      length_table_run (client_access_init ESP_WIFI_MAX_CONN_NUM) before'
    have hinit : (client_access_init ESP_WIFI_MAX_CONN_NUM).s_clients.length
        = ESP_WIFI_MAX_CONN_NUM := List.length_replicate
    rw [← hinit, ← hrun]
    exact hslots
  have hstart : Alone mac ESP_WIFI_MAX_CONN_NUM
      (client_access_init ESP_WIFI_MAX_CONN_NUM).s_clients :=
    ⟨unique_init _, fun k _ => lookup_init _ k, List.length_replicate⟩
  have hkept : ∀ d ∈ before ++ e :: after, d.kept given mac = true := by
    intro d hd
    rw [← hsplit] at hd
    exact (List.mem_filter.mp hd).2
  have hreached := Machine.run_induction
    (I := fun state events => Alone mac ESP_WIFI_MAX_CONN_NUM state.s_clients ∧
      ∀ d ∈ events, d.kept given mac = true)
    (table_step configTICK_RATE_HZ)
    (fun state d events h => ⟨h.1.step (h.2 d List.mem_cons_self),
      fun c hc => h.2 c (List.mem_cons_of_mem d hc)⟩)
    ⟨hstart, hkept⟩
  exact hreached.1.room hlength e hcall

end Runs

/-! ## The table -/

/-- **Integrity and isolation of the client table.** In every state that calls lead to, a MAC has
one entry in use. A call that fails leaves the module as it was; that is what a connection to a
full table does and a revocation with a session that is not the client's. A call that changes a
client and succeeds changes its entry and no other slot. Two runs with the same calls about a
client and over all clients leave the same entry of the client behind, and answer its calls in
the same way, if the client found a slot in both and nobody else was ever given one of its
addresses; so does a run in which all calls about the others are left out. -/
theorem client_table_integrity (ESP_WIFI_MAX_CONN_NUM : ℕ) (events : List table_event) :
    let start := client_access_init ESP_WIFI_MAX_CONN_NUM
    let state := table_run configTICK_RATE_HZ start events
    (∀ (i j : ℕ) (a b : client_access_entry_t), state.s_clients[i]? = some a →
      state.s_clients[j]? = some b → a.in_use = true → b.in_use = true → a.mac = b.mac → i = j) ∧
    (∀ e : table_event, (e.step configTICK_RATE_HZ state).2.err ≠ .ESP_OK →
      (e.step configTICK_RATE_HZ state).1 = state) ∧
    (∀ now mac, find_client_index_locked state.s_clients mac = none →
      client_layout.free state.s_clients = none →
      ((client_call.track_connected_client mac).step configTICK_RATE_HZ now state).2.err
        = .ESP_ERR_NO_MEM) ∧
    (∀ now mac_text session_id,
      (∀ mac entry, named_client mac_text session_id = some mac →
        client_layout.lookup state.s_clients mac = some entry → entry.session_id ≠ session_id) →
      ((client_call.client_access_revoke_authorization mac_text session_id).step
        configTICK_RATE_HZ now state).2.err ≠ .ESP_OK) ∧
    (∀ now (call : client_call), call.writes = true →
      (call.step configTICK_RATE_HZ now state).2.err = .ESP_OK →
      ∃ mac clients, call.client = some mac ∧
        (call.step configTICK_RATE_HZ now state).1 = { state with s_clients := clients } ∧
        OnlyEntryOf mac state.s_clients clients) ∧
    (∀ mac events', let given := given (events ++ events')
      Apart given mac → RoomAlong configTICK_RATE_HZ mac start events →
      RoomAlong configTICK_RATE_HZ mac start events' →
      (events.filter fun e => e.kept given mac) = (events'.filter fun e => e.kept given mac) →
      client_layout.lookup state.s_clients mac
          = client_layout.lookup (table_run configTICK_RATE_HZ start events').s_clients mac ∧
        client_answers configTICK_RATE_HZ given mac start events
          = client_answers configTICK_RATE_HZ given mac start events') ∧
    (∀ mac, let alone := events.filter fun e => e.kept (given events) mac
      Apart (given events) mac → RoomAlong configTICK_RATE_HZ mac start events →
      client_layout.lookup state.s_clients mac
          = client_layout.lookup (table_run configTICK_RATE_HZ start alone).s_clients mac ∧
        client_answers configTICK_RATE_HZ (given events) mac start events
          = client_answers configTICK_RATE_HZ (given events) mac start alone) := by
  have hu : client_layout.Unique
      (table_run configTICK_RATE_HZ (client_access_init ESP_WIFI_MAX_CONN_NUM) events).s_clients :=
    Machine.run_invariant (I := fun state => client_layout.Unique state.s_clients)
      (table_step configTICK_RATE_HZ) (fun _ e h => unique_table_step h e)
      (unique_init ESP_WIFI_MAX_CONN_NUM) events
  refine ⟨?_, ?_, ?_, ?_, ?_, ?_, ?_⟩
  · intro i j a b hi hj ha hb hsame
    exact hu j b hj hb i a hi (Slots.Layout.holds_iff.mpr ⟨ha, hsame⟩)
  · exact fun e h => table_event_failed h
  · intro now mac hfind hfree
    simp only [client_call.step, track_connected_client, hfind, hfree, Option.or_none]
  · intro now mac_text session_id hother hok
    obtain ⟨-, hrevokes, -⟩ :=
      client_access_revoke_authorization_spec hu mac_text session_id
    obtain ⟨mac, entry, hnamed, hlookup, -, hsession⟩ := hrevokes.mp hok
    exact hother mac entry hnamed hlookup hsession
  · exact fun now call hwrites h => client_call_succeeded hwrites h
  · intro mac events' given hapart hroom hroom' hsame
    have hgiven : ClientAccess.given events ⊆ given ∧ ClientAccess.given events' ⊆ given := by
      have happend : given = ClientAccess.given events ++ ClientAccess.given events' :=
        List.filterMap_append
      rw [happend]
      exact ⟨List.subset_append_left _ _, List.subset_append_right _ _⟩
    obtain ⟨hentry, hanswers⟩ := client_alone hapart _ hgiven.1 hroom
    obtain ⟨hentry', hanswers'⟩ := client_alone hapart _ hgiven.2 hroom'
    rw [hentry, hentry', hanswers, hanswers', hsame]
    exact ⟨rfl, rfl⟩
  · intro mac alone hapart hroom
    have hgiven : ClientAccess.given alone ⊆ given events :=
      (List.filter_sublist.filterMap _).subset
    obtain ⟨hentry, hanswers⟩ := client_alone hapart _ (List.Subset.refl _) hroom
    obtain ⟨hentry', hanswers'⟩ := client_alone hapart _ hgiven (roomAlong_kept hroom)
    rw [hentry, hentry', hanswers, hanswers']
    have htwice : alone.filter (fun e => e.kept (given events) mac) = alone := by
      rw [List.filter_filter]
      simp only [Bool.and_self]
      rfl
    rw [htwice]
    exact ⟨rfl, rfl⟩

/-! Another client is connected first and gets blocked, or it connects later and leaves. -/

def sample_before : List table_event :=
  [⟨0, .call (.track_connected_client other_mac)⟩, ⟨0, .call (.track_connected_client sample_mac)⟩,
    ⟨1, .call (.track_client_ip sample_mac 0xC0A80402)⟩,
    ⟨2, .call (.track_client_ip other_mac 0xC0A80403)⟩,
    ⟨5, .call (.client_access_authorize (some sample_mac_text) 7 3600)⟩,
    ⟨6, .call (.client_access_set_state other_mac .BLOCKED)⟩,
    ⟨9, .call (.client_access_can_forward_ipv4 0xC0A80402)⟩]

def sample_behind : List table_event :=
  [⟨0, .call (.track_connected_client sample_mac)⟩,
    ⟨1, .call (.track_client_ip sample_mac 0xC0A80402)⟩,
    ⟨3, .call (.track_connected_client other_mac)⟩,
    ⟨5, .call (.client_access_authorize (some sample_mac_text) 7 3600)⟩,
    ⟨8, .call (.remove_disconnect_client other_mac)⟩,
    ⟨9, .call (.client_access_can_forward_ipv4 0xC0A80402)⟩]

theorem client_table_integrity_sample :
    let start := client_access_init 2
    let given := given (sample_before ++ sample_behind)
    client_layout.lookup (table_run 100 start sample_before).s_clients sample_mac
        = client_layout.lookup (table_run 100 start sample_behind).s_clients sample_mac ∧
      client_answers 100 given sample_mac start sample_before
        = client_answers 100 given sample_mac start sample_behind ∧
      client_layout.lookup (table_run 100 start sample_before).s_clients sample_mac
        = client_layout.lookup (table_run 100 start (sample_before.filter fun e =>
            e.kept (ClientAccess.given sample_before) sample_mac)).s_clients sample_mac := by
  intro start given
  have hgiven : given = [(sample_mac, 0xC0A80402), (other_mac, 0xC0A80403),
    (sample_mac, 0xC0A80402)] := rfl
  have hmacs : sample_mac ≠ other_mac := by decide
  have hapart : Apart given sample_mac := by
    intro k ip hk hother hmac
    rw [hgiven] at hother hmac
    obtain ⟨-, rfl⟩ : k = other_mac ∧ ip = 0xC0A80403 := by simpa [hk] using hother
    simp [hmacs] at hmac
  have hslots : ∀ events ∈ [sample_before, sample_behind],
      Machine.AtEveryStep (table_step 100) start events fun state _ =>
        ((find_client_index_locked state.s_clients sample_mac).or
          (client_layout.free state.s_clients)).isSome = true := by
    decide +kernel
  have hroom : ∀ events ∈ [sample_before, sample_behind],
      RoomAlong 100 sample_mac start events :=
    fun events hmem before e after hevents _ => hslots events hmem before e after hevents
  have hkept : (sample_before.filter fun e => e.kept given sample_mac)
      = sample_behind.filter fun e => e.kept given sample_mac := rfl
  have happend : given = ClientAccess.given sample_before ++ ClientAccess.given sample_behind :=
    List.filterMap_append
  have hapart' : Apart (ClientAccess.given sample_before) sample_mac := by
    intro k ip hk hother hmac
    rw [happend] at hapart
    exact hapart k ip hk (List.mem_append_left _ hother) (List.mem_append_left _ hmac)
  obtain ⟨-, -, -, -, -, hruns, halone⟩ := client_table_integrity 100 2 sample_before
  obtain ⟨hentry, hanswers⟩ := hruns sample_mac sample_behind hapart (hroom _ (by simp))
    (hroom _ (by simp)) hkept
  exact ⟨hentry, hanswers, (halone sample_mac hapart' (hroom _ (by simp))).1⟩

end WifiManager.ClientAccess
