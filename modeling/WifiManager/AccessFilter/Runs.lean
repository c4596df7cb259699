/-
Runs of the flow table.

An `arrival` is one call of `inspect_tls_tcp_segment` with everything the call
reads from outside the table: the clock, the rules installed by then, lwIP. A run
is any list of them. `Sound` is what holds of the table after every run: its
four-tuples are unique, and an entry under inspection has been fed some prefix
that decides nothing, of exactly the length its sequence numbers say.
-/
import WifiManager.AccessFilter.Reassembly

set_option autoImplicit false

namespace WifiManager.AccessFilter

open WifiManager.Lib WifiManager.TlsSniParser

open tls_flow_state_t

/-- One call of `inspect_tls_tcp_segment`, with what it reads besides the table. -/
structure arrival where
  lwip : lwip_t
  rules : List c_string
  now_ms : UInt32
  segment : tls_segment

/-- The call: the table it leaves and whether the packet is discarded. -/
def arrival.step (a : arrival) (flows : flow_table) : flow_table × Bool :=
  a.segment.inspect a.lwip a.rules flows a.now_ms

/-- The table after a run. -/
def run (flows : flow_table) (arrivals : List arrival) : flow_table :=
  arrivals.foldl (fun flows a => (a.step flows).1) flows

@[simp] theorem run_nil (flows : flow_table) : run flows [] = flows := rfl

@[simp] theorem run_cons (flows : flow_table) (a : arrival) (as : List arrival) :
    run flows (a :: as) = run (a.step flows).1 as := rfl

/-! ## What every run keeps -/

/-- An entry in use that is under inspection has been fed an undecided prefix; if its
SYN was seen, the prefix is what follows the SYN. -/
structure EntrySound (flow : tls_flow_t) : Prop where
  used : flow.state ≠ TLS_FLOW_FREE
  going : flow.state = TLS_FLOW_INSPECTING →
    ∃ received, Inspecting received flow ∧
      (flow.saw_syn = true →
        flow.next_sequence = flow.syn_sequence + 1 + UInt32.ofNat received.length)

/-- The invariant of the flow table. -/
structure Sound (flows : flow_table) : Prop where
  unique : flow_layout.Unique flows
  entries : ∀ tuple flow, flow_layout.lookup flows tuple = some flow → EntrySound flow

theorem inspecting_opened (tuple : four_tuple) (sequence now_ms : UInt32) :
    Inspecting [] (.opened tuple sequence now_ms) :=
  ⟨⟨rfl, rfl, by decide, rfl⟩, by decide⟩

theorem inspecting_adopted (tuple : four_tuple) (payload_sequence now_ms : UInt32) :
    Inspecting [] (.adopted tuple payload_sequence now_ms) :=
  ⟨⟨rfl, rfl, by decide, rfl⟩, by decide⟩

/-- Where the entry a segment is inspected with comes from. -/
theorem open_entry_cases {room : Bool} {entry : Option tls_flow_t} {now_ms : UInt32}
    {segment : tls_segment} {flow : tls_flow_t}
    (h : open_entry room entry now_ms segment = some flow) :
    (entry = some flow ∧ (segment.flags &&& TCP_SYN ≠ 0 →
        simple_syn_retransmission flow segment.sequence segment.payload_length = true)) ∨
      (segment.flags &&& TCP_SYN ≠ 0 ∧
        flow = .opened segment.tuple segment.sequence now_ms) ∨
      (segment.flags &&& TCP_SYN = 0 ∧ entry = none ∧ segment.payload_length > 0 ∧
        flow = .adopted segment.tuple segment.payload_sequence now_ms) := by
  unfold open_entry at h
  -- a SYN keeps or replaces the entry; a payload without an entry is taken up
  by_cases hsyn : segment.flags &&& TCP_SYN ≠ 0
  · rw [if_pos hsyn] at h
    cases hretry : entry.filter (fun flow =>
        simple_syn_retransmission flow segment.sequence segment.payload_length) with
    | some flow' =>
        simp only [hretry, Option.some.injEq] at h
        subst h
        obtain ⟨hentry, hsimple⟩ := Option.filter_eq_some_iff.mp hretry
        exact .inl ⟨hentry, fun _ => hsimple⟩
    | none =>
        simp only [hretry] at h
        split_ifs at h
        exact .inr (.inl ⟨hsyn, (Option.some.inj h).symm⟩)
  · rw [if_neg hsyn] at h
    by_cases hnew : entry = none ∧ segment.payload_length > 0
    · rw [if_pos hnew] at h
      split_ifs at h
      exact .inr (.inr ⟨not_not.mp hsyn, hnew.1, hnew.2, (Option.some.inj h).symm⟩)
    · rw [if_neg hnew] at h
      exact .inl ⟨h, fun hc => absurd hc hsyn⟩

theorem open_entry_sound {room : Bool} {entry : Option tls_flow_t} {now_ms : UInt32}
    {segment : tls_segment} (h : ∀ flow, entry = some flow → EntrySound flow)
    {flow : tls_flow_t} (ho : open_entry room entry now_ms segment = some flow) :
    EntrySound flow := by
  rcases open_entry_cases ho with ⟨hentry, -⟩ | ⟨-, rfl⟩ | ⟨-, -, -, rfl⟩
  · exact h flow hentry
  · refine ⟨by simp [tls_flow_t.opened, tls_flow_t.created], fun _ => ?_⟩
    exact ⟨[], inspecting_opened _ _ _, fun _ => by simp [tls_flow_t.opened]⟩
  · refine ⟨by simp [tls_flow_t.adopted, tls_flow_t.created], fun _ => ?_⟩
    exact ⟨[], inspecting_adopted _ _ _, fun hsyn => by cases hsyn⟩

/-- A SYN is inspected with an entry nothing has arrived of: a new one, or that of the
SYN it repeats. -/
theorem open_entry_syn {room : Bool} {entry : Option tls_flow_t} {now_ms : UInt32}
    {segment : tls_segment} (hsyn : segment.flags &&& TCP_SYN ≠ 0)
    (h : ∀ flow, entry = some flow → EntrySound flow) {flow : tls_flow_t}
    (ho : open_entry room entry now_ms segment = some flow) :
    Inspecting [] flow ∧ flow.next_sequence = segment.sequence + 1 := by
  rcases open_entry_cases ho with ⟨hentry, hretry⟩ | ⟨-, rfl⟩ | ⟨hno, -⟩
  · have hsimple := hretry hsyn
    simp only [simple_syn_retransmission, decide_eq_true_eq] at hsimple
    obtain ⟨hstate, hsaw, hseq, hnext, -⟩ := hsimple
    obtain ⟨received, hreceived, hcount⟩ := (h flow hentry).going hstate
    have hempty : received = [] := by
      have hlen := hcount hsaw
      have hshort := hreceived.short
      simp only [ACCESS_FILTER_TLS_STREAM_LIMIT] at hshort
      rw [hnext, hseq] at hlen
      have hzero := congrArg UInt32.toNat hlen
      have hlt := (segment.sequence + 1).toNat_lt
      rw [UInt32.toNat_add (segment.sequence + 1), UInt32.toNat_ofNat'] at hzero
      exact List.eq_nil_of_length_eq_zero (by omega)
    exact ⟨hempty ▸ hreceived, hnext⟩
  · exact ⟨inspecting_opened _ _ _, rfl⟩
  · exact absurd hno hsyn

theorem settled_eq_some {flow flow' : tls_flow_t} :
    flow.settled = some flow' ↔ flow.state ≠ TLS_FLOW_FREE ∧ flow = flow' := by
  simp [tls_flow_t.settled, flow_layout]

@[simp] theorem settled_default : tls_flow_t.settled {} = none := rfl

theorem settled_clear_on_fin {flags : UInt8} {flow flow' : tls_flow_t}
    (h : (clear_on_fin flags flow).settled = some flow') : flow = flow' := by
  unfold clear_on_fin at h
  split_ifs at h
  · simp at h
  · exact (settled_eq_some.mp h).2

/-- A segment on a sound entry leaves a sound entry or none. -/
theorem inspected_sound {lwip : lwip_t} {rules : List c_string} {now_ms : UInt32}
    {flow flow' : tls_flow_t} {segment : tls_segment} (h : EntrySound flow)
    (hs : (inspected lwip rules now_ms flow segment).1.settled = some flow') :
    EntrySound flow' := by
  cases hstate : flow.state with
  | TLS_FLOW_FREE => exact absurd hstate h.used
  | TLS_FLOW_ALLOW =>
      rw [inspected_decided lwip rules now_ms flow segment (.inl hstate)] at hs
      obtain rfl := settled_clear_on_fin hs
      exact ⟨h.used, fun hins => by simp [hstate] at hins⟩
  | TLS_FLOW_BLOCK =>
      rw [inspected_decided lwip rules now_ms flow segment (.inr hstate)] at hs
      obtain rfl := settled_clear_on_fin hs
      exact ⟨h.used, fun hins => by simp [hstate] at hins⟩
  | TLS_FLOW_INSPECTING =>
      by_cases hfin : segment.flags &&& TCP_FIN = 0
      · rw [inspected_going lwip rules now_ms flow segment hstate hfin] at hs
        obtain ⟨hused, rfl⟩ := settled_eq_some.mp hs
        refine ⟨hused, fun hstill => ?_⟩
        -- a gap decides the flow; otherwise the new bytes are appended to those received
        by_cases hgap : gap flow segment
        · rw [segment_fed_gap lwip rules now_ms hgap] at hstill
          cases hstill
        · obtain ⟨received, hreceived, hnext⟩ := h.going hstate
          have hspec := segment_fed_spec lwip rules now_ms hreceived hgap
          have hframe := segment_fed_frame lwip rules now_ms flow segment
          refine ⟨_, hspec.2.1 hstill, fun hsyn => ?_⟩
          rw [hframe.2.1] at hsyn
          rw [hspec.2.2, hframe.2.2.1, hnext hsyn, List.length_append, List.length_drop,
            tls_segment.length_payload, UInt32.ofNat_add, UInt32.add_assoc]
      · rw [(inspected_fin lwip rules now_ms flow segment hstate hfin).1] at hs
        simp at hs

theorem flow_step_sound {lwip : lwip_t} {rules : List c_string} {room : Bool}
    {entry : Option tls_flow_t} {now_ms : UInt32} {segment : tls_segment}
    (h : ∀ flow, entry = some flow → EntrySound flow) {flow : tls_flow_t}
    (hs : (flow_step lwip rules room entry now_ms segment).1 = some flow) :
    EntrySound flow := by
  unfold flow_step at hs
  split_ifs at hs
  cases ho : open_entry room entry now_ms segment with
  | none => simp [ho] at hs
  | some flow' =>
      simp only [ho] at hs
      exact inspected_sound (open_entry_sound h ho) hs

theorem entry_at_lookup {flows : flow_table} {now_ms : UInt32} {tuple : four_tuple}
    {flow : tls_flow_t} (h : entry_at flows now_ms tuple = some flow) :
    flow_layout.lookup flows tuple = some flow :=
  (Option.filter_eq_some_iff.mp h).1

theorem sound_init : Sound s_tls_flows_init := by
  have hdead : ∀ flow ∈ s_tls_flows_init, flow_layout.live flow = false := by
    intro flow hflow
    rw [List.eq_of_mem_replicate hflow]
    rfl
  constructor
  · intro i flow hi hlive
    simp [hdead flow (List.mem_of_getElem? hi)] at hlive
  · intro tuple flow hl
    have hlive := (Slots.Layout.lookup_holds hl).1
    simp [hdead flow (List.mem_of_find?_eq_some hl)] at hlive

/-- **Every call keeps the table sound.** -/
theorem Sound.step {flows : flow_table} (h : Sound flows) (a : arrival) :
    Sound (a.step flows).1 := by
  obtain ⟨hu, hown, hother⟩ := inspect_flow_step h.unique a.lwip a.rules a.now_ms a.segment
  refine ⟨hu, fun tuple flow hl => ?_⟩
  by_cases ht : tuple = a.segment.tuple
  · subst ht
    have hfst := congrArg Prod.fst hown
    simp only at hfst
    rw [arrival.step, hfst] at hl
    exact flow_step_sound (fun f hf => h.entries _ f (entry_at_lookup hf)) hl
  · rw [arrival.step, hother tuple ht] at hl
    exact h.entries _ _ (entry_at_lookup hl)

theorem Sound.run {flows : flow_table} (h : Sound flows) (arrivals : List arrival) :
    Sound (run flows arrivals) := by
  induction arrivals generalizing flows with
  | nil => exact h
  | cons a arrivals ih => exact ih (h.step a)

/-- Whatever has arrived, the table is sound. -/
theorem sound_run (arrivals : List arrival) : Sound (run s_tls_flows_init arrivals) :=
  sound_init.run arrivals

end WifiManager.AccessFilter
