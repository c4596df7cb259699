/-
The gateway with its WiFi driver.

The driver is linked, connecting or idle and posts its events to a queue that the event
task works off. An idle driver does nothing by itself, so somebody has to act: either a
lost link is still to be handled, or the status is one that the main task acts on or has
set itself (`Attended`). A reconnect of the handler that the driver refuses breaks this
and nothing else does (`no_stall`).
-/
import WifiManager.WifiGateway.Gateway
import WifiManager.Lib.Machine
import Mathlib.Data.List.Induction

set_option autoImplicit false

namespace WifiManager.WifiGateway

open WifiManager.Lib

open wifi_gateway_status_t

/-! ## The driver -/

inductive link_t
  | linked
  | connecting
  | idle
  deriving DecidableEq, Repr

/-- The link, and the events that are not delivered yet. -/
structure driver_t where
  link : link_t
  events : List wifi_event_t

def driver_t.post (d : driver_t) (event : wifi_event_t) : driver_t :=
  { d with events := d.events ++ [event] }

/-- A call with its results: a connect request that is accepted, and a disconnect request
whose event will follow. -/
def driver_t.call (esp_wifi_disconnect esp_wifi_connect : esp_err_t) (reason : Option UInt8)
    (d : driver_t) : driver_call → driver_t
  | .esp_wifi_set_config => d
  | .esp_wifi_disconnect =>
      if esp_wifi_disconnect = .ESP_OK then
        { d with link := .idle }.post (.STA_DISCONNECTED reason)
      else d
  | .esp_wifi_connect => if esp_wifi_connect = .ESP_OK then { d with link := .connecting } else d

/-! ## The system -/

structure system_t where
  gateway : wifi_gateway_t
  driver : driver_t

/-- What can happen, with the results of the driver calls that are made. -/
inductive system_input
  | deliver (esp_wifi_connect : esp_err_t)
  | link_up
  | got_ip (a b c d : UInt8)
  | link_lost (reason : Option UInt8)
  | other_event (event : wifi_event_t)
  | connect_sta (ssid password : Option c_string)
      (esp_wifi_set_config esp_wifi_disconnect esp_wifi_connect : esp_err_t)
      (reason : Option UInt8)
  | set_provisioning

/-- The events of the link. -/
def wifi_event_t.of_link : wifi_event_t → Bool
  | .STA_CONNECTED | .STA_GOT_IP .. | .STA_DISCONNECTED _ => true
  | _ => false

def system_input.step (sys : system_t) : system_input → system_t
  | .deliver esp_wifi_connect =>
      match sys.driver.events with
      | [] => sys
      | event :: events =>
          let (gateway, calls) := wifi_event_handler esp_wifi_connect event sys.gateway
          ⟨gateway, calls.foldl (driver_t.call .ESP_FAIL esp_wifi_connect none)
            ⟨sys.driver.link, events⟩⟩
  | .link_up =>
      if sys.driver.link = .connecting then
        ⟨sys.gateway, { sys.driver with link := .linked }.post .STA_CONNECTED⟩
      else sys
  | .got_ip a b c d =>
      if sys.driver.link = .linked then ⟨sys.gateway, sys.driver.post (.STA_GOT_IP a b c d)⟩
      else sys
  | .link_lost reason =>
      if sys.driver.link ≠ .idle then
        ⟨sys.gateway, { sys.driver with link := .idle }.post (.STA_DISCONNECTED reason)⟩
      else sys
  | .other_event event =>
      if event.of_link then sys else ⟨sys.gateway, sys.driver.post event⟩
  | .connect_sta ssid password esp_wifi_set_config esp_wifi_disconnect esp_wifi_connect reason =>
      let (gateway, _, calls) := wifi_gateway_connect_sta ssid password esp_wifi_set_config
        esp_wifi_disconnect esp_wifi_connect sys.gateway
      ⟨gateway, calls.foldl (driver_t.call esp_wifi_disconnect esp_wifi_connect reason)
        sys.driver⟩
  | .set_provisioning => ⟨wifi_gateway_set_status PROVISIONING sys.gateway, sys.driver⟩

/-- The system behind `wifi_gateway_start`. -/
def system_started (config : wifi_gateway_config_t) (setup : List esp_err_t)
    (esp_wifi_connect : esp_err_t) : system_t :=
  let (gateway, _, calls) := wifi_gateway_start config setup esp_wifi_connect .init
  ⟨gateway, calls.foldl (driver_t.call .ESP_FAIL esp_wifi_connect none) ⟨.idle, []⟩⟩

/-- The system behind a list of inputs. -/
def system_after (started : system_t) (inputs : List system_input) : system_t :=
  Machine.run (fun sys input => (system_input.step sys input, ())) started inputs

/-! ## Stalls -/

/-- The statuses the main task acts on, and the one it sets. -/
def Reacted (status : wifi_gateway_status_t) : Prop :=
  status = STA_RECOVERY_REQUIRED ∨ status = STA_UNREACHABLE ∨ status = PROVISIONING

/-- Nothing will happen any more. -/
def Stalled (sys : system_t) : Prop :=
  sys.driver.link = .idle ∧ sys.driver.events = [] ∧ ¬ Reacted sys.gateway.s_status

/-- The handler answers a lost link with a connect request: the link was taken down for a
slot switch, or no failure counter is at its limit. -/
def Reconnects (reason : Option UInt8) (s : wifi_gateway_t) : Prop :=
  s.s_sta_reconfigure_pending = true ∨
    ((count_disconnect reason s).2.1 = false ∧ (count_disconnect reason s).2.2 = false)

/-- The handler takes the lost link of an idle driver, with no other one to come, tries to
reconnect, and the driver refuses. -/
def Refused (sys : system_t) : system_input → Prop
  | .deliver esp_wifi_connect =>
      esp_wifi_connect ≠ .ESP_OK ∧ sys.driver.link = .idle ∧
        ∃ reason events, sys.driver.events = .STA_DISCONNECTED reason :: events ∧
          (∀ reason', .STA_DISCONNECTED reason' ∉ events) ∧ Reconnects reason sys.gateway
  | _ => False

/-- An idle driver has somebody to act: the last event of its link is a lost link that is
still to be handled, or all of them are handled and the status has been set for it. -/
def Attended (sys : system_t) : Prop :=
  sys.driver.link = .idle →
    (∃ reason, (sys.driver.events.filter wifi_event_t.of_link).getLast?
      = some (.STA_DISCONNECTED reason)) ∨
    (sys.driver.events.filter wifi_event_t.of_link = [] ∧ Reacted sys.gateway.s_status)

theorem Attended.not_stalled {sys : system_t} (h : Attended sys) : ¬ Stalled sys := by
  rintro ⟨hidle, hevents, hstatus⟩
  rcases h hidle with ⟨reason, hlast⟩ | ⟨-, hreacted⟩
  · rw [hevents] at hlast
    cases hlast
  · exact hstatus hreacted

/-- A posted lost link attends to the driver. -/
theorem attended_post_lost (gateway : wifi_gateway_t) (d : driver_t) (reason : Option UInt8) :
    Attended ⟨gateway, d.post (.STA_DISCONNECTED reason)⟩ := by
  intro _
  left
  refine ⟨reason, ?_⟩
  simp [driver_t.post, wifi_event_t.of_link]

/-! ## One step -/

/-- The last event stays the last one when the first is taken. -/
theorem getLast_tail {α : Type} {first last : α} {rest : List α}
    (h : (first :: rest).getLast? = some last) : rest = [] ∨ rest.getLast? = some last := by
  cases rest with
  | nil => exact .inl rfl
  | cons second rest =>
      right
      rwa [List.getLast?_cons_cons] at h

/-- How the handler ends for a lost link: with a connect request, or with a status that is
reacted to. -/
theorem handle_disconnect_reconnects (esp_wifi_connect : esp_err_t) {reason : Option UInt8}
    {s : wifi_gateway_t} (h : Reconnects reason s) :
    (handle_disconnect esp_wifi_connect reason s).2 = [.esp_wifi_connect] ∧
      (handle_disconnect esp_wifi_connect reason s).1.s_status
        = reconnect_status esp_wifi_connect := by
  rw [handle_disconnect]
  rcases h with hpending | ⟨hcredential, hunreachable⟩
  · rw [if_pos hpending]
    exact ⟨rfl, rfl⟩
  · split_ifs with hpending
    · exact ⟨rfl, rfl⟩
    · revert hcredential hunreachable
      obtain ⟨s', credential_recovery, unreachable_recovery⟩ := count_disconnect reason s
      intro hcredential hunreachable
      obtain rfl : credential_recovery = false := hcredential
      obtain rfl : unreachable_recovery = false := hunreachable
      exact ⟨rfl, rfl⟩

theorem handle_disconnect_gives_up (esp_wifi_connect : esp_err_t) {reason : Option UInt8}
    {s : wifi_gateway_t} (h : ¬ Reconnects reason s) :
    (handle_disconnect esp_wifi_connect reason s).2 = [] ∧
      Reacted (handle_disconnect esp_wifi_connect reason s).1.s_status := by
  obtain ⟨hpending, hlimit⟩ := not_or.mp h
  rw [handle_disconnect, if_neg hpending]
  revert hlimit
  obtain ⟨s', credential_recovery, unreachable_recovery⟩ := count_disconnect reason s
  intro hlimit
  cases credential_recovery with
  | true => exact ⟨rfl, .inl rfl⟩
  | false =>
      cases unreachable_recovery with
      | true => exact ⟨rfl, .inr (.inl rfl)⟩
      | false => exact absurd ⟨rfl, rfl⟩ hlimit

theorem Attended.deliver_lost {gateway : wifi_gateway_t} {link : link_t}
    {reason : Option UInt8} {events : List wifi_event_t} (esp_wifi_connect : esp_err_t)
    (h : Attended ⟨gateway, ⟨link, .STA_DISCONNECTED reason :: events⟩⟩)
    (hrefused : ¬ Refused ⟨gateway, ⟨link, .STA_DISCONNECTED reason :: events⟩⟩
      (.deliver esp_wifi_connect)) :
    Attended (system_input.step ⟨gateway, ⟨link, .STA_DISCONNECTED reason :: events⟩⟩
      (.deliver esp_wifi_connect)) := by
  -- what the queue behind the event looks like if the driver is idle
  have hqueue : link = .idle → events.filter wifi_event_t.of_link = [] ∨
      ∃ reason, (events.filter wifi_event_t.of_link).getLast?
        = some (.STA_DISCONNECTED reason) := by
    intro hidle
    rcases h hidle with ⟨last, hlast⟩ | ⟨hnone, -⟩
    · rcases getLast_tail hlast with hempty | htail
      · exact .inl hempty
      · exact .inr ⟨last, htail⟩
    · cases hnone
  rw [system_input.step]
  dsimp only [wifi_event_handler]
  by_cases hreconnect : Reconnects reason gateway
  · obtain ⟨hcalls, -⟩ := handle_disconnect_reconnects esp_wifi_connect hreconnect
    rw [hcalls, List.foldl_cons, List.foldl_nil, driver_t.call]
    split_ifs with hconnect
    · intro hidle
      cases hidle
    · intro hidle
      obtain rfl : link = .idle := hidle
      rcases hqueue rfl with hempty | hlast
      · -- no other lost link: this is the refused reconnect
        refine absurd ⟨hconnect, rfl, reason, events, rfl, ?_, hreconnect⟩ hrefused
        intro reason' hmem
        have hkept : wifi_event_t.STA_DISCONNECTED reason' ∈ events.filter wifi_event_t.of_link :=
          List.mem_filter.mpr ⟨hmem, rfl⟩
        rw [hempty] at hkept
        cases hkept
      · exact .inl hlast
  -- the handler gives up: the status is one that the main loop reacts to
  · obtain ⟨hcalls, hreacted⟩ := handle_disconnect_gives_up esp_wifi_connect hreconnect
    rw [hcalls, List.foldl_nil]
    intro hidle
    rcases hqueue hidle with hempty | hlast
    · exact .inr ⟨hempty, hreacted⟩
    · exact .inl hlast

/-- An event of the link that is not a lost one is not the last of an idle driver. -/
theorem Attended.deliver_up {gateway gateway' : wifi_gateway_t} {link : link_t}
    {event : wifi_event_t} {events : List wifi_event_t}
    (h : Attended ⟨gateway, ⟨link, event :: events⟩⟩) (hlink : event.of_link = true)
    (hup : ∀ reason, event ≠ .STA_DISCONNECTED reason) :
    Attended ⟨gateway', ⟨link, events⟩⟩ := by
  intro hidle
  have hfilter : (event :: events).filter wifi_event_t.of_link
      = event :: events.filter wifi_event_t.of_link := List.filter_cons_of_pos hlink
  rcases h hidle with ⟨reason, hlast⟩ | ⟨hnone, -⟩
  · dsimp only at hlast
    rw [hfilter] at hlast
    rcases getLast_tail hlast with hempty | htail
    · rw [hempty, List.getLast?_singleton, Option.some.injEq] at hlast
      exact absurd hlast (hup reason)
    · exact .inl ⟨reason, htail⟩
  · dsimp only at hnone
    rw [hfilter] at hnone
    cases hnone

/-- An event of the SoftAP changes nothing about the link. -/
theorem Attended.deliver_other {gateway gateway' : wifi_gateway_t} {link : link_t}
    {event : wifi_event_t} {events : List wifi_event_t}
    (h : Attended ⟨gateway, ⟨link, event :: events⟩⟩) (hother : event.of_link = false)
    (hstatus : gateway'.s_status = gateway.s_status) :
    Attended ⟨gateway', ⟨link, events⟩⟩ := by
  intro hidle
  have hfilter : (event :: events).filter wifi_event_t.of_link
      = events.filter wifi_event_t.of_link := List.filter_cons_of_neg (by simp [hother])
  have hbefore := h hidle
  dsimp only at hbefore
  rw [hfilter, ← hstatus] at hbefore
  exact hbefore

theorem Attended.deliver {sys : system_t} (h : Attended sys) (esp_wifi_connect : esp_err_t)
    (hrefused : ¬ Refused sys (.deliver esp_wifi_connect)) :
    Attended (system_input.step sys (.deliver esp_wifi_connect)) := by
  obtain ⟨gateway, link, events⟩ := sys
  match events with
  | [] => exact h
  | .STA_DISCONNECTED _ :: _ => exact h.deliver_lost esp_wifi_connect hrefused
  | .STA_CONNECTED :: _ => exact h.deliver_up rfl (by simp)
  | .STA_GOT_IP _ _ _ _ :: _ => exact h.deliver_up rfl (by simp)
  | .AP_STACONNECTED :: _ => exact h.deliver_other rfl rfl
  | .OTHER :: _ => exact h.deliver_other rfl rfl
  | .AP_STADISCONNECTED :: _ =>
      refine h.deliver_other rfl ?_
      dsimp only
      split_ifs
      · rfl
      · rfl

theorem Attended.connect_sta {sys : system_t} (h : Attended sys) (ssid password : Option c_string)
    (esp_wifi_set_config esp_wifi_disconnect esp_wifi_connect : esp_err_t)
    (reason : Option UInt8) :
    Attended (system_input.step sys (.connect_sta ssid password esp_wifi_set_config
      esp_wifi_disconnect esp_wifi_connect reason)) := by
  obtain ⟨s', err, calls, hresult, hends⟩ := wifi_gateway_connect_sta_ends ssid password
    esp_wifi_set_config esp_wifi_disconnect esp_wifi_connect sys.gateway
  -- setting the configuration does nothing to the driver's link
  have hdriver : ((configure_sta_credentials ssid password esp_wifi_set_config).2 ++ calls).foldl
      (driver_t.call esp_wifi_disconnect esp_wifi_connect reason) sys.driver
        = calls.foldl (driver_t.call esp_wifi_disconnect esp_wifi_connect reason) sys.driver := by
    rcases configure_sta_credentials_calls ssid password esp_wifi_set_config with hcalls | hcalls
    · rw [hcalls, List.nil_append]
    · rw [hcalls]
      rfl
  rw [system_input.step, hresult]
  dsimp only
  rw [hdriver]
  cases hends with
  | rejected _ => exact h
  | switching _ hdisconnect =>
      rw [List.foldl_cons, List.foldl_nil, driver_t.call, if_pos hdisconnect]
      exact attended_post_lost _ _ reason
  | refused _ hdisconnect =>
      rw [List.foldl_cons, List.foldl_nil, driver_t.call, if_neg hdisconnect]
      exact h
  | failed _ hdisconnect hconnect =>
      rw [List.foldl_cons, List.foldl_cons, List.foldl_nil, driver_t.call, driver_t.call,
        if_neg hdisconnect, if_neg hconnect]
      exact h
  | connecting _ hdisconnect hconnect =>
      rw [List.foldl_cons, List.foldl_cons, List.foldl_nil, driver_t.call, driver_t.call,
        if_neg hdisconnect, if_pos hconnect]
      intro hidle
      cases hidle

/-- **What one step preserves**, if it is not a refused reconnect. -/
theorem Attended.step {sys : system_t} (h : Attended sys) {input : system_input}
    (hrefused : ¬ Refused sys input) : Attended (system_input.step sys input) := by
  cases input with
  | deliver esp_wifi_connect => exact h.deliver esp_wifi_connect hrefused
  | link_up =>
      rw [system_input.step]
      split_ifs
      · intro hidle
        cases hidle
      · exact h
  | got_ip a b c d =>
      rw [system_input.step]
      split_ifs with hlinked
      · intro hidle
        rw [driver_t.post, hlinked] at hidle
        -- an address is only assigned over a link that is up
        cases hidle
      · exact h
  | link_lost reason =>
      rw [system_input.step]
      split_ifs
      · exact attended_post_lost _ _ reason
      · exact h
  | other_event event =>
      rw [system_input.step]
      split_ifs with hlink
      · exact h
      · intro hidle
        -- events of the access point say nothing about the link
        have hfilter : (sys.driver.post event).events.filter wifi_event_t.of_link
            = sys.driver.events.filter wifi_event_t.of_link := by
          simp [driver_t.post, hlink]
        dsimp only
        rw [hfilter]
        exact h hidle
  | connect_sta ssid password esp_wifi_set_config esp_wifi_disconnect esp_wifi_connect reason =>
      exact h.connect_sta ssid password esp_wifi_set_config esp_wifi_disconnect esp_wifi_connect
        reason
  | set_provisioning =>
      intro hidle
      rcases h hidle with hlast | ⟨hnone, -⟩
      · exact .inl hlast
      · exact .inr ⟨hnone, .inr (.inr rfl)⟩

/-! ## Over runs -/

/-- **A refused reconnect** leaves an idle driver with nothing of its link to come, under a
status nobody reacts to. -/
theorem Refused.stalls {sys : system_t} (h : Attended sys) {input : system_input}
    (hrefused : Refused sys input) :
    (system_input.step sys input).driver.link = .idle ∧
      (system_input.step sys input).driver.events.filter wifi_event_t.of_link = [] ∧
      ¬ Reacted (system_input.step sys input).gateway.s_status := by
  cases input with
  | deliver esp_wifi_connect =>
      obtain ⟨gateway, link, events⟩ := sys
      obtain ⟨hconnect, hidle, reason, rest, hevents, hlast, hreconnect⟩ := hrefused
      obtain rfl : link = .idle := hidle
      obtain rfl : events = .STA_DISCONNECTED reason :: rest := hevents
      obtain ⟨hcalls, hstatus⟩ := handle_disconnect_reconnects esp_wifi_connect hreconnect
      rw [system_input.step]
      dsimp only [wifi_event_handler]
      rw [hcalls, hstatus, List.foldl_cons, List.foldl_nil, driver_t.call, if_neg hconnect]
      refine ⟨rfl, ?_, ?_⟩
      -- the event that was handled was the last one about the link
      · rcases h rfl with ⟨last, hgetLast⟩ | ⟨hnone, -⟩
        · rcases getLast_tail hgetLast with hempty | htail
          · exact hempty
          · have hmem := List.mem_of_getLast? htail
            exact absurd (List.mem_filter.mp hmem).1 (hlast last)
        · cases hnone
      · rw [reconnect_status, if_neg hconnect]
        rintro (hstatus | hstatus | hstatus)
        · cases hstatus
        · cases hstatus
        · cases hstatus
  | _ => exact hrefused.elim

/-- A start that is completed has made a connect request. -/
theorem system_started_attended {config : wifi_gateway_config_t} {setup : List esp_err_t}
    {esp_wifi_connect : esp_err_t} (hsta : config.sta_enabled = true)
    (hstart : (wifi_gateway_start config setup esp_wifi_connect .init).2.1 = .ESP_OK) :
    Attended (system_started config setup esp_wifi_connect) := by
  have hlink : (system_started config setup esp_wifi_connect).driver.link = .connecting := by
    revert hstart
    rw [system_started, wifi_gateway_start]
    split_ifs with hvalid
    · intro hstart
      exact absurd hstart hvalid
    · split
      · next err hfind =>
          intro hstart
          have herr := List.find?_some hfind
          exact absurd hstart (by simpa using herr)
      · rw [connect_sta]
        split_ifs with hconnect
        · intro hstart
          exact absurd hstart hconnect
        · intro _
          dsimp only
          rw [List.foldl_cons, List.foldl_nil, driver_t.call, if_pos (not_not.mp hconnect)]
  intro hidle
  rw [hlink] at hidle
  cases hidle

/-- **No silent stall.** Once the gateway has started its STA, in every run in which no
reconnect is refused, the driver is never left idle, without an event to come and under
a status that nobody reacts to. -/
theorem no_stall {config : wifi_gateway_config_t} {setup : List esp_err_t}
    {esp_wifi_connect : esp_err_t} (hsta : config.sta_enabled = true)
    (hstart : (wifi_gateway_start config setup esp_wifi_connect .init).2.1 = .ESP_OK)
    (inputs : List system_input)
    (hrefused : ∀ before input after, inputs = before ++ input :: after →
      ¬ Refused (system_after (system_started config setup esp_wifi_connect) before) input) :
    ¬ Stalled (system_after (system_started config setup esp_wifi_connect) inputs) := by
  have hstarted := system_started_attended hsta hstart
  generalize system_started config setup esp_wifi_connect = started at hrefused hstarted
  have hattended : Attended (system_after started inputs) := by
    induction inputs using List.reverseRecOn with
    | nil => exact hstarted
    | append_singleton inputs input ih =>
        have hstep : system_after started (inputs ++ [input])
            = system_input.step (system_after started inputs) input :=
          Machine.run_append _ _ _ _
        rw [hstep]
        refine (ih ?_).step (hrefused inputs input [] rfl)
        intro before input' after hinputs
        exact hrefused before input' (after ++ [input]) (by rw [hinputs, List.append_assoc]; rfl)
  exact hattended.not_stalled

def sample_config : wifi_gateway_config_t :=
  ⟨true, some (c_str "home"), some (c_str "password"), some (c_str "gateway"), none⟩

/-- An accepted reconnect, a connection and its loss, and two attempts that fail: the last event is
the third failure, at which the link is given up instead of connecting again. -/
def sample_losses : List system_input :=
  [.link_lost (some 201), .deliver .ESP_OK, .link_up, .deliver .ESP_OK,
    .link_lost (some 201), .deliver .ESP_OK, .link_lost (some 201), .deliver .ESP_OK,
    .link_lost (some 201), .deliver .ESP_FAIL]

theorem not_refused_of_ok (sys : system_t) : ¬ Refused sys (.deliver .ESP_OK) :=
  fun h => h.1 rfl

/-- The driver is idle behind the third failure, and the main task has been told. -/
theorem no_stall_sample :
    (system_after (system_started sample_config [.ESP_OK] .ESP_OK) sample_losses).driver
        = ⟨.idle, []⟩ ∧
      ¬ Stalled (system_after (system_started sample_config [.ESP_OK] .ESP_OK) sample_losses) := by
  refine ⟨rfl, no_stall rfl rfl _ ?_⟩
  have hstep : Machine.AtEveryStep (fun sys input => (system_input.step sys input, ()))
      (system_started sample_config [.ESP_OK] .ESP_OK) sample_losses
      (fun sys input => ¬ Refused sys input) := by
    simp only [sample_losses, Machine.atEveryStep_cons]
    refine ⟨id, not_refused_of_ok _, id, not_refused_of_ok _, id, not_refused_of_ok _, id,
      not_refused_of_ok _, id, ?_, Machine.atEveryStep_nil _ _⟩
    -- the third failure in a row is not answered with a connect request
    rintro ⟨-, -, reason, events, hevents, -, hpending | ⟨-, hcount⟩⟩
    · cases hpending
    · cases hevents
      cases hcount
  exact hstep

/-- The link is lost, and the driver refuses to connect again. -/
theorem refused_reconnect_stalls :
    (wifi_gateway_start sample_config [.ESP_OK] .ESP_OK .init).2.1 = .ESP_OK ∧
      (system_after (system_started sample_config [.ESP_OK] .ESP_OK)
        [.link_lost (some 201), .deliver .ESP_FAIL]).gateway.s_status = STA_DISCONNECTED ∧
      Stalled (system_after (system_started sample_config [.ESP_OK] .ESP_OK)
        [.link_lost (some 201), .deliver .ESP_FAIL]) := by
  refine ⟨rfl, rfl, rfl, rfl, ?_⟩
  rintro (hstatus | hstatus | hstatus)
  · cases hstatus
  · cases hstatus
  · cases hstatus

end WifiManager.WifiGateway
