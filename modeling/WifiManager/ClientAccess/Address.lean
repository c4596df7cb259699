/-
Whose address it is.

Addresses come from DHCP events and from the ARP table, and are searched for by
walking the table to the first entry that has them. `addressing_t` keeps, next to
the module, which client each address was last given to. As long as no DHCP event
gives away an address that another connected client still has, an entry with an
address is that client's (`Held`), so the walk finds the right client; an event that
does makes two entries with one address, and the walk stops at the first.
The ARP table is only asked for addresses that nobody has.
-/
import WifiManager.ClientAccess.Ledger

set_option autoImplicit false

namespace WifiManager.ClientAccess

open WifiManager.Lib

open client_access_state_t

/-! ## Addresses and who was given them -/

/-- No two entries in use have the same non-zero address. -/
def AddressUnique (clients : client_table) : Prop :=
  ∀ (i j : ℕ) (entry entry' : client_access_entry_t), clients[i]? = some entry →
    clients[j]? = some entry' → entry.in_use = true → entry'.in_use = true →
    entry.ip = entry'.ip → entry.ip ≠ 0 → i = j

/-- The address a call gives away, and the connected client that gets it. -/
def assignment (table : List seat_t) : client_call → Option (mac_t × UInt32)
  | .track_client_ip mac ip =>
      if (seat_layout.find table mac).isSome = true then some (mac, ip) else none
  | .client_access_get_snapshot_by_ipv4 arp source_ip =>
      match recovered table arp source_ip with
      | some mac =>
          if (seat_layout.find table mac).isSome = true then some (mac, source_ip) else none
      | none => none
  | _ => none

/-- The module, and the client that each address was last given to. -/
structure addressing_t where
  state : client_access_t
  last_assigned : UInt32 → Option mac_t

def addressing_t.step (configTICK_RATE_HZ : UInt32) (a : addressing_t) (e : event) :
    addressing_t × Unit :=
  (⟨(e.call.step configTICK_RATE_HZ (tick e.t) a.state).1,
    match assignment (seats a.state.s_clients) e.call with
    | some (mac, ip) => Function.update a.last_assigned ip (some mac)
    | none => a.last_assigned⟩, ())

def addressing_t.init (ESP_WIFI_MAX_CONN_NUM : ℕ) : addressing_t :=
  ⟨client_access_init ESP_WIFI_MAX_CONN_NUM, fun _ => none⟩

def addressing_t.run (configTICK_RATE_HZ : UInt32) (a : addressing_t) (events : List event) :
    addressing_t :=
  Machine.run (addressing_t.step configTICK_RATE_HZ) a events

/-- The client the address was last given to, while it is connected and has it. -/
def addressing_t.assignee (a : addressing_t) (ip : UInt32) : Option client_access_entry_t :=
  (a.last_assigned ip).bind fun mac =>
    (client_layout.lookup a.state.s_clients mac).filter fun entry => entry.ip = ip

/-- A DHCP event does not give a connected client an address that another connected
client has. -/
def Assignable (clients : client_table) : client_call → Prop
  | .track_client_ip mac ip =>
      ip ≠ 0 → (find_client_index_locked clients mac).isSome = true →
        ∀ entry ∈ clients, entry.in_use = true → entry.ip = ip → entry.mac = mac
  | _ => True

/-! ## What the assignments keep -/

/-- Whoever has an address was the last to be given it. -/
def Held (table : List seat_t) (last_assigned : UInt32 → Option mac_t) : Prop :=
  ∀ seat ∈ table, seat.in_use = true → seat.ip ≠ 0 → last_assigned seat.ip = some seat.mac

section Held

variable {table : List seat_t} {last_assigned : UInt32 → Option mac_t}

/-- A seat nobody has an address in. -/
theorem Held.set (h : Held table last_assigned) (i : ℕ) {seat : seat_t}
    (hseat : seat.in_use = true → seat.ip = 0) : Held (table.set i seat) last_assigned := by
  intro other hmem hused hip
  rcases List.mem_or_eq_of_mem_set hmem with hold | rfl
  · exact h other hold hused hip
  · exact absurd (hseat hused) hip

/-- An assignment of an address that no other client has. -/
theorem Held.assign (h : Held table last_assigned) (mac : mac_t) (ip : UInt32)
    (hfree : ip ≠ 0 → (seat_layout.find table mac).isSome = true →
      ∀ seat ∈ table, seat.in_use = true → seat.ip = ip → seat.mac = mac) :
    Held (seat_assign table mac ip)
      (if (seat_layout.find table mac).isSome = true then
        Function.update last_assigned ip (some mac) else last_assigned) := by
  unfold seat_assign
  cases hfind : seat_layout.find table mac with
  | none => simpa using h
  | some i =>
      obtain ⟨found, hi, hholds, -⟩ := Slots.Layout.find_spec hfind
      have hmac : found.mac = mac := (Slots.Layout.holds_iff.mp hholds).2
      simp only [Option.isSome_some, if_true, List.getD_eq_getElem?_getD, hi, Option.getD_some]
      intro seat hmem hused hip
      rcases List.mem_or_eq_of_mem_set hmem with hold | rfl
      · by_cases hsame : seat.ip = ip
        · rw [hsame, Function.update_self,
            hfree (hsame ▸ hip) (by simp [hfind]) seat hold hused hsame]
        · rw [Function.update_of_ne hsame]
          exact h seat hold hused hip
      · rw [Function.update_self, hmac]

/-- The ARP table is asked for addresses that nobody has. -/
theorem recovered_free {arp : softap_arp_t} {source_ip : UInt32} {mac : mac_t}
    (h : recovered table arp source_ip = some mac) :
    ∀ seat ∈ table, seat.in_use = true → seat.ip ≠ source_ip := by
  intro seat hmem hused hip
  unfold recovered at h
  split_ifs at h with hasked
  have hnone := Slots.Layout.find_eq_none_iff.mp hasked.2
  rw [Slots.Layout.lookup, List.find?_eq_none] at hnone
  exact hnone seat hmem (Slots.Layout.holds_iff.mpr ⟨hused, hip⟩)

end Held

/-- Nobody's seat but the caller's is left with a wrong holder. -/
theorem Held.step {clients : client_table} {last_assigned : UInt32 → Option mac_t}
    (h : Held (seats clients) last_assigned) {call : client_call}
    (hcall : Assignable clients call) :
    Held (seat_step (seats clients) call)
      (match assignment (seats clients) call with
        | some (mac, ip) => Function.update last_assigned ip (some mac)
        | none => last_assigned) := by
  cases call with
  | track_connected_client mac =>
      simp only [seat_step, assignment]
      cases (seat_layout.find (seats clients) mac).or (seat_layout.free (seats clients)) with
      | none => exact h
      | some i => exact h.set i fun _ => rfl
  | remove_disconnect_client mac =>
      simp only [seat_step, assignment]
      cases seat_layout.find (seats clients) mac with
      | none => exact h
      | some i =>
          apply h.set
          rintro ⟨⟩
  -- only an assignment by DHCP can give an address that another entry holds
  | track_client_ip mac ip =>
      have hassign := h.assign mac ip (by
        intro hip hfound seat hmem hused hsame
        obtain ⟨entry, hentry, rfl⟩ := List.mem_map.mp hmem
        exact hcall hip (by rwa [find_seats] at hfound) entry hentry hused hsame)
      simp only [seat_step, assignment]
      split_ifs at hassign ⊢
      · exact hassign
      · exact hassign
  -- an address is only recovered if no entry in use has it
  | client_access_get_snapshot_by_ipv4 arp source_ip =>
      simp only [seat_step, assignment]
      cases hrecovered : recovered (seats clients) arp source_ip with
      | none => exact h
      | some mac =>
          have hassign := h.assign mac source_ip (by
            intro _ _ seat hmem hused hsame
            exact absurd hsame (recovered_free hrecovered seat hmem hused))
          dsimp only
          split_ifs at hassign ⊢
          · exact hassign
          · exact hassign
  | client_access_set_state mac access => exact h
  | client_access_can_forward_ipv4 source_ip => exact h
  | client_access_authorize mac_text session_id ttl_seconds => exact h
  | client_access_revoke_authorization mac_text session_id => exact h
  | client_access_expire_check sampled => exact h

/-! ## What the walks find -/

/-- The module with the right holders. -/
structure HoldersKnown (a : addressing_t) : Prop where
  unique : client_layout.Unique a.state.s_clients
  held : Held (seats a.state.s_clients) a.last_assigned

namespace HoldersKnown

variable {a : addressing_t}

/-- The holder of the address in a slot. -/
theorem holder (h : HoldersKnown a) {i : ℕ} {entry : client_access_entry_t}
    (hi : a.state.s_clients[i]? = some entry) (hused : entry.in_use = true)
    (hip : entry.ip ≠ 0) : a.last_assigned entry.ip = some entry.mac :=
  h.held entry.seat (List.mem_map_of_mem (List.mem_of_getElem? hi)) hused hip

theorem address_unique (h : HoldersKnown a) : AddressUnique a.state.s_clients := by
  intro i j entry entry' hi hj hused hused' hsame hip
  have hholder := h.holder hi hused hip
  rw [hsame, h.holder hj hused' (hsame ▸ hip)] at hholder
  have hmac : entry'.mac = entry.mac := Option.some.inj hholder
  have howner := h.unique i entry hi hused j entry' hj
    (Slots.Layout.holds_iff.mpr ⟨hused', hmac⟩)
  exact howner.symm

/-- The walk to an address ends at the client it was last given to. -/
theorem lookup_eq_assignee (h : HoldersKnown a) {ip : UInt32} (hip : ip ≠ 0) :
    address_layout.lookup a.state.s_clients ip = a.assignee ip := by
  have hwalk : ∀ (i : ℕ) entry, a.state.s_clients[i]? = some entry → entry.in_use = true →
      entry.ip = ip → a.assignee ip = some entry := by
    rintro i entry hi hused rfl
    have hl : client_layout.lookup a.state.s_clients entry.mac = some entry :=
      Slots.Layout.lookup_of_live h.unique hi hused
    rw [addressing_t.assignee, h.holder hi hused hip, Option.bind_some, hl,
      Option.filter_some_pos (by simp)]
  cases hl : address_layout.lookup a.state.s_clients ip with
  | some entry =>
      obtain ⟨hused, hsame⟩ := Slots.Layout.lookup_holds hl
      obtain ⟨i, hi⟩ := List.getElem?_of_mem (List.mem_of_find?_eq_some hl)
      exact (hwalk i entry hi hused hsame).symm
  | none =>
      rw [Slots.Layout.lookup, List.find?_eq_none] at hl
      symm
      rw [Option.eq_none_iff_forall_ne_some]
      intro entry hassignee
      rw [addressing_t.assignee, Option.bind_eq_some_iff] at hassignee
      obtain ⟨mac, -, hfound⟩ := hassignee
      obtain ⟨hmac, hsame⟩ := Option.filter_eq_some_iff.mp hfound
      exact hl entry (List.mem_of_find?_eq_some hmac)
        (Slots.Layout.holds_iff.mpr ⟨(Slots.Layout.lookup_holds hmac).1, of_decide_eq_true hsame⟩)

end HoldersKnown

/-- The snapshot of an address is that of the entry the walk ends at. -/
theorem copy_client_snapshot_by_ipv4_eq (clients : client_table) (ip : UInt32) :
    copy_client_snapshot_by_ipv4 clients ip
      = match address_layout.lookup clients ip with
        | some entry => .ok entry.snapshot
        | none => .error .ESP_ERR_NOT_FOUND := by
  unfold copy_client_snapshot_by_ipv4
  cases hfind : address_layout.find clients ip with
  | none =>
      rw [Slots.Layout.find_eq_none_iff.mp hfind]
  | some i =>
      obtain ⟨entry, hi, -, hl⟩ := Slots.Layout.find_spec hfind
      rw [hl]
      simp only [List.getD_eq_getElem?_getD, hi, Option.getD_some]

/-- So is the answer to a packet. -/
theorem can_forward_ipv4_eq (clients : client_table) (now : UInt32) {ip : UInt32} (hip : ip ≠ 0) :
    (client_access_can_forward_ipv4 clients now ip).2
      = match address_layout.lookup clients ip with
        | some entry => (entry.can_forward now).2
        | none => false := by
  unfold client_access_can_forward_ipv4
  rw [if_neg hip]
  cases hfind : address_layout.find clients ip with
  | none =>
      rw [Slots.Layout.find_eq_none_iff.mp hfind]
  | some i =>
      obtain ⟨entry, hi, -, hl⟩ := Slots.Layout.find_spec hfind
      rw [hl]
      simp only [List.getD_eq_getElem?_getD, hi, Option.getD_some]

/-! ## Runs -/

variable {configTICK_RATE_HZ : UInt32}

theorem holders_known_init (ESP_WIFI_MAX_CONN_NUM : ℕ) :
    HoldersKnown (.init ESP_WIFI_MAX_CONN_NUM) := by
  refine ⟨unique_init _, ?_⟩
  intro seat hmem hused
  obtain ⟨entry, hentry, rfl⟩ := List.mem_map.mp hmem
  obtain ⟨i, hi⟩ := List.getElem?_of_mem hentry
  have hdead : entry.seat.in_use = false := init_absent _ hi
  rw [hused] at hdead
  cases hdead

theorem HoldersKnown.step {a : addressing_t} (h : HoldersKnown a) {e : event}
    (hcall : Assignable a.state.s_clients e.call) :
    HoldersKnown (a.step configTICK_RATE_HZ e).1 := by
  refine ⟨unique_step _ h.unique _ _, ?_⟩
  rw [addressing_t.step, seats_step]
  exact h.held.step hcall

/-- An assignment that is not allowed puts the address into a second entry. -/
theorem not_address_unique_step {a : addressing_t} {e : event}
    (hcall : ¬ Assignable a.state.s_clients e.call) :
    ¬ AddressUnique (a.step configTICK_RATE_HZ e).1.state.s_clients := by
  obtain ⟨t, call⟩ := e
  cases call with
  | track_client_ip mac ip =>
      simp only [Assignable] at hcall
      push Not at hcall
      obtain ⟨hip, hfound, other, hmem, hused, hother, hmac⟩ := hcall
      obtain ⟨i, hfind⟩ := Option.isSome_iff_exists.mp hfound
      obtain ⟨entry, hi, hholds, -⟩ := Slots.Layout.find_spec hfind
      obtain ⟨hlive, hkey⟩ := Slots.Layout.holds_iff.mp hholds
      obtain ⟨j, hj⟩ := List.getElem?_of_mem hmem
      -- the entry that gets the address is not the one that has it
      have hij : i ≠ j := by
        rintro rfl
        rw [hi] at hj
        exact hmac (Option.some.inj hj ▸ hkey)
      intro hunique
      apply hij
      apply hunique i j { entry with ip := ip } other _ _ hlive hused hother.symm hip
      · simp only [addressing_t.step, client_call.step, track_client_ip, hfind, update]
        rw [List.getElem?_set_self (List.getElem?_eq_some_iff.mp hi).1,
          List.getD_eq_getElem?_getD, hi, Option.getD_some]
      · simp only [addressing_t.step, client_call.step, track_client_ip, hfind, update]
        rw [List.getElem?_set_ne hij, hj]
  | _ => exact absurd trivial hcall

/-- Every assignment of a run is allowed where it is made. -/
def AllAssignable (configTICK_RATE_HZ : UInt32) (a : addressing_t) (events : List event) : Prop :=
  ∀ before e after, events = before ++ e :: after →
    Assignable (a.run configTICK_RATE_HZ before).state.s_clients e.call

theorem AllAssignable.cons {a : addressing_t} {e : event} {events : List event}
    (h : AllAssignable configTICK_RATE_HZ a (e :: events)) :
    Assignable a.state.s_clients e.call ∧
      AllAssignable configTICK_RATE_HZ (a.step configTICK_RATE_HZ e).1 events := by
  refine ⟨h [] e events rfl, ?_⟩
  rintro before e' after rfl
  exact h (e :: before) e' after rfl

theorem holders_known_run {a : addressing_t} (ha : HoldersKnown a) {events : List event}
    (h : AllAssignable configTICK_RATE_HZ a events) {before : List event}
    (hbefore : before <+: events) : HoldersKnown (a.run configTICK_RATE_HZ before) := by
  obtain ⟨after, rfl⟩ := hbefore
  have hrun := Machine.run_induction (addressing_t.step configTICK_RATE_HZ)
    (I := fun a events => HoldersKnown a ∧ AllAssignable configTICK_RATE_HZ a events)
    (by
      rintro a e events ⟨hknown, hall⟩
      exact ⟨hknown.step hall.cons.1, hall.cons.2⟩)
    (s := a) ⟨ha, h⟩
  exact hrun.1

/-- **One client an address.** The addresses stay unique in all states of a run if and
only if no DHCP event of the run gives a connected client an address that another one
has; and then the walks to an address end at the client it was last given to. -/
theorem address_unique_iff (configTICK_RATE_HZ : UInt32) (ESP_WIFI_MAX_CONN_NUM : ℕ)
    (events : List event) :
    let start := addressing_t.init ESP_WIFI_MAX_CONN_NUM
    ((∀ before, before <+: events →
        AddressUnique (start.run configTICK_RATE_HZ before).state.s_clients) ↔
      AllAssignable configTICK_RATE_HZ start events) ∧
    (AllAssignable configTICK_RATE_HZ start events →
      ∀ before, before <+: events → ∀ ip now, ip ≠ 0 →
        let a := start.run configTICK_RATE_HZ before
        copy_client_snapshot_by_ipv4 a.state.s_clients ip
          = (match a.assignee ip with
              | some entry => .ok entry.snapshot
              | none => .error .ESP_ERR_NOT_FOUND) ∧
        (client_access_can_forward_ipv4 a.state.s_clients now ip).2
          = (match a.assignee ip with
              | some entry => (entry.can_forward now).2
              | none => false)) := by
  intro start
  have hknown : AllAssignable configTICK_RATE_HZ start events →
      ∀ before, before <+: events → HoldersKnown (start.run configTICK_RATE_HZ before) :=
    fun h _ hbefore => holders_known_run (holders_known_init ESP_WIFI_MAX_CONN_NUM) h hbefore
  refine ⟨⟨?_, fun h before hbefore => (hknown h before hbefore).address_unique⟩, ?_⟩
  · rintro hunique before e after rfl
    -- an assignment that is not admissible leaves two entries with the address
    by_contra hcall
    have hafter := hunique (before ++ [e]) ⟨after, by simp⟩
    rw [addressing_t.run, Machine.run_append] at hafter
    exact not_address_unique_step hcall hafter
  · intro h before hbefore ip now hip
    dsimp only
    have hwalk := (hknown h before hbefore).lookup_eq_assignee hip
    rw [copy_client_snapshot_by_ipv4_eq, can_forward_ipv4_eq _ _ hip, hwalk]
    exact ⟨rfl, rfl⟩

/-- A second client is given the address of one that is still connected and authorized. -/
def sample_reassignment : List event :=
  [⟨0, .track_connected_client sample_mac⟩,
    ⟨1, .track_client_ip sample_mac 0xC0A80402⟩,
    ⟨2, .client_access_authorize (some sample_mac_text) 7 60⟩,
    ⟨3, .track_connected_client #v[2, 0, 0, 0, 0, 0xCD]⟩,
    ⟨4, .track_client_ip #v[2, 0, 0, 0, 0, 0xCD] 0xC0A80402⟩]

/-- The second client is taken for the first: its packets are let through. -/
theorem address_shared :
    let a := (addressing_t.init 4).run 100 sample_reassignment
    ¬ AddressUnique a.state.s_clients ∧
      a.last_assigned 0xC0A80402 = some #v[2, 0, 0, 0, 0, 0xCD] ∧
      copy_client_snapshot_by_ipv4 a.state.s_clients 0xC0A80402
        = .ok ⟨sample_mac, 0xC0A80402, AUTHORIZED, 7, 0⟩ ∧
      (client_access_can_forward_ipv4 a.state.s_clients (tick 5) 0xC0A80402).2 = true := by
  refine ⟨?_, rfl, rfl, rfl⟩
  intro hunique
  have hsame := hunique 0 1 ⟨true, sample_mac, AUTHORIZED, 7, 0xC0A80402, 2, 6000, 0⟩
    ⟨true, #v[2, 0, 0, 0, 0, 0xCD], UNAUTHORIZED, 0, 0xC0A80402, 0, 0, 0⟩ rfl rfl rfl rfl rfl
    (by decide)
  cases hsame

end WifiManager.ClientAccess
