/-
What the failure counters say about the last three lost links.

The counters are kept apart by class and neither is reset by an event of the other, so
they count the failures since the last connection and not the consecutive ones. A
`watched` gateway remembers the classes of the counted events since the last connection
or slot switch, newest first; the counters are the numbers of both classes in this list,
up to the limit (`Counts`). Whether an event gives up the link for three failures in a
row then depends on the order of the classes (`Unmixed`).
-/
import WifiManager.WifiGateway.Gateway
import WifiManager.Lib.Machine
import Mathlib.Data.List.Induction

set_option autoImplicit false

namespace WifiManager.WifiGateway

open WifiManager.Lib

open wifi_gateway_status_t

/-! ## Runs -/

/-- What happens to the gateway, with the results of the driver calls that are made. -/
inductive gateway_input
  | event (esp_wifi_connect : esp_err_t) (event : wifi_event_t)
  | connect_sta (ssid password : Option c_string)
      (esp_wifi_set_config esp_wifi_disconnect esp_wifi_connect : esp_err_t)
  | set_status (status : wifi_gateway_status_t)

def gateway_input.step (s : wifi_gateway_t) : gateway_input → wifi_gateway_t
  | .event esp_wifi_connect e => (wifi_event_handler esp_wifi_connect e s).1
  | .connect_sta ssid password esp_wifi_set_config esp_wifi_disconnect esp_wifi_connect =>
      (wifi_gateway_connect_sta ssid password esp_wifi_set_config esp_wifi_disconnect
        esp_wifi_connect s).1
  | .set_status status => wifi_gateway_set_status status s

/-- The classes of the lost links that were counted since the last connection or slot
switch, newest first; `true` is a credential failure. -/
def gateway_input.window (s : wifi_gateway_t) (window : List Bool) : gateway_input → List Bool
  | .event _ .STA_CONNECTED => []
  | .event _ (.STA_DISCONNECTED reason) =>
      if s.s_sta_reconfigure_pending then []
      else (reason.map is_sta_credential_failure).toList ++ window
  | .connect_sta ssid password esp_wifi_set_config _ _ =>
      if (configure_sta_credentials ssid password esp_wifi_set_config).1 = .ESP_OK then []
      else window
  | _ => window

/-- A gateway with its window. -/
structure watched where
  gateway : wifi_gateway_t
  window : List Bool

def watched.step (w : watched) (input : gateway_input) : watched × Unit :=
  (⟨input.step w.gateway, input.window w.gateway w.window⟩, ())

/-- The gateway behind a list of inputs. -/
def gateway_after (inputs : List gateway_input) : watched :=
  Machine.run watched.step ⟨.init, []⟩ inputs

/-! ## Giving up -/

/-- An input gives up the link only for three lost links of one class in a row. -/
def Justified (w : watched) (input : gateway_input) : Prop :=
  let after := (w.step input).1
  match input with
  | .event _ (.STA_DISCONNECTED _) =>
      (after.gateway.s_status = STA_RECOVERY_REQUIRED →
          after.window.take 3 = [true, true, true]) ∧
        (after.gateway.s_status = STA_UNREACHABLE →
          after.window.take 3 = [false, false, false])
  | .set_status _ => True
  | _ =>
      after.gateway.s_status ∈ [STA_RECOVERY_REQUIRED, STA_UNREACHABLE] →
        after.gateway.s_status = w.gateway.s_status

/-- An event finds the counted events since the last connection or slot switch in an order that
counting does not hide: a class that comes to three events has its last three in a row, and the
other class, where it would decide, has not come to three. -/
def Unmixed (w : watched) : gateway_input → Prop
  | .event _ (.STA_DISCONNECTED (some reason)) =>
      w.gateway.s_sta_reconfigure_pending = false →
        if is_sta_credential_failure reason then
          (2 ≤ w.window.count true → w.window.take 2 = [true, true]) ∧
            (w.window.count true < 2 → w.window.count false < 3)
        else
          w.window.count true < 3 ∧
            (2 ≤ w.window.count false → w.window.take 2 = [false, false])
  | _ => True

/-! ## What the counters count -/

/-- The counters are the numbers of both classes in the window, up to the limit. -/
structure Counts (w : watched) : Prop where
  credential : w.gateway.s_sta_credential_failure_count.toNat = min 3 (w.window.count true)
  unreachable : w.gateway.s_sta_unreachable_count.toNat = min 3 (w.window.count false)

theorem count_failure_toNat (count : UInt8) (n : ℕ) (h : count.toNat = min 3 n) :
    (count_failure count).toNat = min 3 (n + 1) := by
  rw [count_failure, STA_CREDENTIAL_FAILURE_LIMIT]
  split_ifs with hlt
  · rw [UInt8.lt_iff_toNat_lt] at hlt
    have hadd : (count + 1).toNat = count.toNat + 1 := by
      rw [UInt8.toNat_add]
      simp at hlt ⊢
      omega
    rw [hadd]
    simp at hlt
    omega
  · rw [UInt8.lt_iff_toNat_lt] at hlt
    simp at hlt
    omega

/-- One counted event. -/
theorem count_disconnect_counts {w : watched} (h : Counts w) (reason : UInt8) :
    Counts ⟨(count_disconnect (some reason) w.gateway).1,
      is_sta_credential_failure reason :: w.window⟩ := by
  rw [count_disconnect]
  cases hclass : is_sta_credential_failure reason with
  | true =>
      constructor
      · rw [List.count_cons_self]
        exact count_failure_toNat _ _ h.credential
      · rw [List.count_cons_of_ne (by decide)]
        exact h.unreachable
  | false =>
      constructor
      · rw [List.count_cons_of_ne (by decide)]
        exact h.credential
      · rw [List.count_cons_self]
        exact count_failure_toNat _ _ h.unreachable

/-- A lost link that is not the slot switch's own sets the status by the counters. -/
theorem handle_disconnect_counted (esp_wifi_connect : esp_err_t) (reason : Option UInt8)
    {s : wifi_gateway_t} (h : s.s_sta_reconfigure_pending = false) :
    ((handle_disconnect esp_wifi_connect reason s).1.s_sta_credential_failure_count
        = (count_disconnect reason s).1.s_sta_credential_failure_count) ∧
      ((handle_disconnect esp_wifi_connect reason s).1.s_sta_unreachable_count
        = (count_disconnect reason s).1.s_sta_unreachable_count) ∧
      (handle_disconnect esp_wifi_connect reason s).1.s_status
        = if (count_disconnect reason s).2.1 then STA_RECOVERY_REQUIRED
          else if (count_disconnect reason s).2.2 then STA_UNREACHABLE
          else reconnect_status esp_wifi_connect := by
  rw [handle_disconnect, if_neg (by simp [h])]
  obtain ⟨s', credential_recovery, unreachable_recovery⟩ := count_disconnect reason s
  dsimp only
  split_ifs
  · exact ⟨rfl, rfl, rfl⟩
  · exact ⟨rfl, rfl, rfl⟩
  · exact ⟨rfl, rfl, rfl⟩

theorem Counts.step {w : watched} (h : Counts w) (input : gateway_input) :
    Counts (w.step input).1 := by
  match input with
  | .set_status status => exact ⟨h.credential, h.unreachable⟩
  | .connect_sta ssid password esp_wifi_set_config esp_wifi_disconnect esp_wifi_connect =>
      obtain ⟨s', err, calls, hresult, hends⟩ := wifi_gateway_connect_sta_ends ssid password
        esp_wifi_set_config esp_wifi_disconnect esp_wifi_connect w.gateway
      -- the window is emptied exactly where the counters are set to zero
      have hstep : (w.step (.connect_sta ssid password esp_wifi_set_config esp_wifi_disconnect
          esp_wifi_connect)).1
          = ⟨s',
              if (configure_sta_credentials ssid password esp_wifi_set_config).1 = .ESP_OK then []
              else w.window⟩ := by
        rw [watched.step, gateway_input.step, hresult, gateway_input.window]
      rw [hstep]
      cases hends with
      -- the credentials were refused before the counters are touched
      | rejected hconfigured =>
          rw [if_neg hconfigured]
          exact h
      | switching hconfigured _ =>
          rw [if_pos hconfigured]
          exact ⟨rfl, rfl⟩
      | refused hconfigured _ =>
          rw [if_pos hconfigured]
          exact ⟨rfl, rfl⟩
      | failed hconfigured _ _ =>
          rw [if_pos hconfigured]
          exact ⟨rfl, rfl⟩
      | connecting hconfigured _ _ =>
          rw [if_pos hconfigured]
          exact ⟨rfl, rfl⟩
  | .event _ .STA_CONNECTED => exact ⟨rfl, rfl⟩
  | .event _ (.STA_GOT_IP _ _ _ _) => exact ⟨h.credential, h.unreachable⟩
  | .event _ .AP_STACONNECTED => exact ⟨h.credential, h.unreachable⟩
  | .event _ .AP_STADISCONNECTED =>
      rw [watched.step, gateway_input.step, wifi_event_handler]
      split_ifs
      · exact ⟨h.credential, h.unreachable⟩
      · exact ⟨h.credential, h.unreachable⟩
  | .event _ .OTHER => exact ⟨h.credential, h.unreachable⟩
  | .event esp_wifi_connect (.STA_DISCONNECTED reason) =>
      rw [watched.step, gateway_input.step, wifi_event_handler, gateway_input.window]
      cases hpending : w.gateway.s_sta_reconfigure_pending with
      | true =>
          rw [handle_disconnect, if_pos hpending, if_pos rfl]
          exact ⟨rfl, rfl⟩
      | false =>
          obtain ⟨hcredential, hunreachable, -⟩ :=
            handle_disconnect_counted esp_wifi_connect reason hpending
          -- the handler counts first and decides afterwards
          have hcounts : Counts ⟨(count_disconnect reason w.gateway).1,
              (reason.map is_sta_credential_failure).toList ++ w.window⟩ := by
            cases reason with
            | none => exact h
            | some reason => exact count_disconnect_counts h reason
          constructor
          · rw [hcredential]
            exact hcounts.credential
          · rw [hunreachable]
            exact hcounts.unreachable

theorem counts_init : Counts ⟨.init, []⟩ := ⟨rfl, rfl⟩

theorem gateway_after_counts (inputs : List gateway_input) : Counts (gateway_after inputs) :=
  Machine.run_invariant watched.step (fun _ input h => h.step input) counts_init inputs

/-! ## When giving up is justified -/

/-- A counter at three stands for as many events. -/
theorem counter_three {count : UInt8} {n : ℕ} (h : count.toNat = min 3 n) : 3 ≤ count ↔ 3 ≤ n := by
  have hthree : (3 : UInt8).toNat = 3 := rfl
  rw [UInt8.le_iff_toNat_le, h, hthree]
  omega

theorem reconnect_status_cases (esp_wifi_connect : esp_err_t) :
    reconnect_status esp_wifi_connect ≠ STA_RECOVERY_REQUIRED ∧
      reconnect_status esp_wifi_connect ≠ STA_UNREACHABLE := by
  rw [reconnect_status]
  split_ifs
  · exact ⟨by decide, by decide⟩
  · exact ⟨by decide, by decide⟩

/-- A lost link that is the slot switch's own. -/
theorem handle_disconnect_pending (esp_wifi_connect : esp_err_t) (reason : Option UInt8)
    {s : wifi_gateway_t} (h : s.s_sta_reconfigure_pending = true) :
    (handle_disconnect esp_wifi_connect reason s).1.s_status
      = reconnect_status esp_wifi_connect := by
  rw [handle_disconnect, if_pos h]

/-- Who reconnects does not give up. -/
theorem justified_reconnect {w : watched} {esp_wifi_connect : esp_err_t} {reason : Option UInt8}
    (h : (handle_disconnect esp_wifi_connect reason w.gateway).1.s_status
      = reconnect_status esp_wifi_connect) :
    Justified w (.event esp_wifi_connect (.STA_DISCONNECTED reason)) := by
  obtain ⟨hrecovery, hlost⟩ := reconnect_status_cases esp_wifi_connect
  have hafter : (w.step (.event esp_wifi_connect (.STA_DISCONNECTED reason))).1.gateway.s_status
      = reconnect_status esp_wifi_connect := h
  refine ⟨?_, ?_⟩
  · rw [hafter]
    intro hstatus
    exact absurd hstatus hrecovery
  · rw [hafter]
    intro hstatus
    exact absurd hstatus hlost

/-- Three of a class in a row are two behind the newest. -/
theorem take_three (newest failure : Bool) (window : List Bool) :
    (newest :: window).take 3 = [failure, failure, failure] ↔
      newest = failure ∧ window.take 2 = [failure, failure] := by
  simp

/-- What the statuses of a counted event say about its window. -/
theorem justified_counted {w : watched} (h : Counts w) (esp_wifi_connect : esp_err_t)
    (reason : UInt8) (hpending : w.gateway.s_sta_reconfigure_pending = false) :
    Justified w (.event esp_wifi_connect (.STA_DISCONNECTED (some reason))) ↔
      (3 ≤ (is_sta_credential_failure reason :: w.window).count true →
        (is_sta_credential_failure reason :: w.window).take 3 = [true, true, true]) ∧
      (¬ 3 ≤ (is_sta_credential_failure reason :: w.window).count true →
        3 ≤ (is_sta_credential_failure reason :: w.window).count false →
        (is_sta_credential_failure reason :: w.window).take 3 = [false, false, false]) := by
  obtain ⟨-, -, hstatus⟩ := handle_disconnect_counted esp_wifi_connect (some reason) hpending
  have hcounts := count_disconnect_counts h reason
  have hcredential := counter_three hcounts.credential
  have hunreachable := counter_three hcounts.unreachable
  have hwindow : (w.step (.event esp_wifi_connect (.STA_DISCONNECTED (some reason)))).1.window
      = is_sta_credential_failure reason :: w.window := by
    rw [watched.step, gateway_input.window, hpending]
    rfl
  -- the status behind the event, in terms of the window instead of the counters
  have hafter :
      (w.step (.event esp_wifi_connect (.STA_DISCONNECTED (some reason)))).1.gateway.s_status
      = if 3 ≤ (is_sta_credential_failure reason :: w.window).count true then STA_RECOVERY_REQUIRED
        else if 3 ≤ (is_sta_credential_failure reason :: w.window).count false then STA_UNREACHABLE
        else reconnect_status esp_wifi_connect := by
    refine hstatus.trans ?_
    have hfst : (count_disconnect (some reason) w.gateway).2.1
        = decide (3 ≤ (is_sta_credential_failure reason :: w.window).count true) :=
      decide_eq_decide.mpr hcredential
    have hsnd : (count_disconnect (some reason) w.gateway).2.2
        = decide (3 ≤ (is_sta_credential_failure reason :: w.window).count false) :=
      decide_eq_decide.mpr hunreachable
    rw [hfst, hsnd]
    simp only [decide_eq_true_eq]
  obtain ⟨hrecovery, hlost⟩ := reconnect_status_cases esp_wifi_connect
  simp only [Justified]
  rw [hwindow, hafter]
  -- at the credential limit, at the other limit, at none
  split_ifs with hthree hother
  · simp [hthree]
  · simp [hthree, hother]
  · simp [hthree, hother, hrecovery, hlost]

/-- The order that the counters do not hide, in terms of the window alone: three of the
newest class are three in a row, and the other class does not decide. -/
theorem window_order_iff (newest : Bool) (window : List Bool) :
    ((3 ≤ (newest :: window).count true → (newest :: window).take 3 = [true, true, true]) ∧
        (¬ 3 ≤ (newest :: window).count true → 3 ≤ (newest :: window).count false →
          (newest :: window).take 3 = [false, false, false])) ↔
      if newest = true then
        (2 ≤ window.count true → window.take 2 = [true, true]) ∧
          (¬ 2 ≤ window.count true → ¬ 3 ≤ window.count false)
      else
        ¬ 3 ≤ window.count true ∧ (2 ≤ window.count false → window.take 2 = [false, false]) := by
  simp only [take_three]
  cases newest with
  | true =>
      rw [List.count_cons_self, List.count_cons_of_ne (by decide), if_pos rfl]
      constructor
      · rintro ⟨hcredential, hother⟩
        refine ⟨fun hge => (hcredential (by omega)).2, ?_⟩
        intro hlt hge
        exact absurd (hother (by omega) hge).1 (by decide)
      · rintro ⟨hcredential, hother⟩
        refine ⟨fun hge => ⟨rfl, hcredential (by omega)⟩, ?_⟩
        intro hlt hge
        exact absurd hge (hother (by omega))
  | false =>
      rw [List.count_cons_self, List.count_cons_of_ne (by decide), if_neg (by decide)]
      constructor
      · -- the other class would decide first
        rintro ⟨hcredential, hother⟩
        have hlow : ¬ 3 ≤ window.count true := fun hge => absurd (hcredential hge).1 (by decide)
        exact ⟨hlow, fun hge => (hother hlow (by omega)).2⟩
      · rintro ⟨hlow, hother⟩
        exact ⟨fun hge => absurd hge hlow, fun _ hge => ⟨rfl, hother (by omega)⟩⟩

/-- A slot switch gives nothing up: where it fails, the status stays. -/
theorem justified_connect_sta (w : watched) (ssid password : Option c_string)
    (esp_wifi_set_config esp_wifi_disconnect esp_wifi_connect : esp_err_t) :
    Justified w (.connect_sta ssid password esp_wifi_set_config esp_wifi_disconnect
      esp_wifi_connect) := by
  obtain ⟨s', err, calls, hresult, hends⟩ := wifi_gateway_connect_sta_ends ssid password
    esp_wifi_set_config esp_wifi_disconnect esp_wifi_connect w.gateway
  have hstep : (w.step (.connect_sta ssid password esp_wifi_set_config esp_wifi_disconnect
      esp_wifi_connect)).1.gateway = s' := by
    rw [watched.step, gateway_input.step, hresult]
  simp only [Justified]
  rw [hstep]
  cases hends with
  | rejected _ => exact fun _ => rfl
  | switching _ _ => simp
  | refused _ _ => exact fun _ => rfl
  | failed _ _ _ => exact fun _ => rfl
  | connecting _ _ _ => simp

/-- **One input.** It gives up the link for three in a row only, if and only if the classes
are in such an order. -/
theorem justified_iff_unmixed {w : watched} (h : Counts w) (input : gateway_input) :
    Justified w input ↔ Unmixed w input := by
  match input with
  | .set_status _ => exact Iff.rfl
  | .connect_sta ssid password esp_wifi_set_config esp_wifi_disconnect esp_wifi_connect =>
      exact iff_of_true (justified_connect_sta w ssid password esp_wifi_set_config
        esp_wifi_disconnect esp_wifi_connect) trivial
  -- an event that sets neither status, or leaves the status alone, is justified
  | .event _ .STA_CONNECTED =>
      refine iff_of_true ?_ trivial
      intro hstatus
      have hconnected : STA_CONNECTED ∈ [STA_RECOVERY_REQUIRED, STA_UNREACHABLE] := hstatus
      exact absurd hconnected (by decide)
  | .event _ (.STA_GOT_IP _ _ _ _) =>
      refine iff_of_true ?_ trivial
      intro hstatus
      have hgot_ip : STA_GOT_IP ∈ [STA_RECOVERY_REQUIRED, STA_UNREACHABLE] := hstatus
      exact absurd hgot_ip (by decide)
  | .event _ .AP_STACONNECTED => exact iff_of_true (fun _ => rfl) trivial
  | .event _ .AP_STADISCONNECTED =>
      refine iff_of_true ?_ trivial
      intro _
      rw [watched.step, gateway_input.step, wifi_event_handler]
      split_ifs
      · rfl
      · rfl
  | .event _ .OTHER => exact iff_of_true (fun _ => rfl) trivial
  -- without data nothing is counted, and no counter is at its limit for it
  | .event esp_wifi_connect (.STA_DISCONNECTED none) =>
      refine iff_of_true (justified_reconnect ?_) trivial
      cases hpending : w.gateway.s_sta_reconfigure_pending with
      | true => exact handle_disconnect_pending esp_wifi_connect none hpending
      | false => exact (handle_disconnect_counted esp_wifi_connect none hpending).2.2
  | .event esp_wifi_connect (.STA_DISCONNECTED (some reason)) =>
      cases hpending : w.gateway.s_sta_reconfigure_pending with
      | true =>
          refine iff_of_true (justified_reconnect ?_) ?_
          · exact handle_disconnect_pending esp_wifi_connect (some reason) hpending
          · intro hfalse
            rw [hpending] at hfalse
            cases hfalse
      | false =>
          rw [justified_counted h esp_wifi_connect reason hpending, window_order_iff, Unmixed]
          simp only [hpending, true_imp_iff, Nat.not_le]

/-! ## Over runs -/

/-- **Giving up over runs.** The counters stay at most three; and along a run the link is
given up for three lost links of one class in a row only, if and only if every lost link
finds the classes unmixed. -/
theorem giving_up_justified_iff (inputs : List gateway_input) :
    ((gateway_after inputs).gateway.s_sta_credential_failure_count ≤ 3 ∧
      (gateway_after inputs).gateway.s_sta_unreachable_count ≤ 3) ∧
    ((∀ before input after, inputs = before ++ input :: after →
        Justified (gateway_after before) input) ↔
      ∀ before input after, inputs = before ++ input :: after →
        Unmixed (gateway_after before) input) := by
  have hcounts := gateway_after_counts inputs
  refine ⟨⟨?_, ?_⟩, ?_⟩
  · rw [UInt8.le_iff_toNat_le, hcounts.credential]
    exact Nat.min_le_left 3 _
  · rw [UInt8.le_iff_toNat_le, hcounts.unreachable]
    exact Nat.min_le_left 3 _
  · exact Machine.atEveryStep_congr (fun _ input h => h.step input) counts_init
      (fun _ input h => justified_iff_unmixed h input) inputs

/-- A lost link with a reason. -/
def lost (reason : UInt8) : gateway_input := .event .ESP_OK (.STA_DISCONNECTED (some reason))

/-- Two rejections, an absent access point and one more rejection: not three rejections in a
row, but credentials to be given up. -/
theorem mixed_failures_give_up :
    (gateway_after [lost WIFI_REASON_AUTH_FAIL, lost WIFI_REASON_AUTH_FAIL, lost 201,
        lost WIFI_REASON_AUTH_FAIL]).gateway.s_status = STA_RECOVERY_REQUIRED ∧
      (gateway_after [lost WIFI_REASON_AUTH_FAIL, lost WIFI_REASON_AUTH_FAIL, lost 201,
        lost WIFI_REASON_AUTH_FAIL]).window = [true, false, true, true] ∧
      ¬ Justified (gateway_after [lost WIFI_REASON_AUTH_FAIL, lost WIFI_REASON_AUTH_FAIL,
        lost 201]) (lost WIFI_REASON_AUTH_FAIL) := by
  refine ⟨by decide, by decide, ?_⟩
  intro hjustified
  exact absurd (hjustified.1 (by decide)) (by decide)

end WifiManager.WifiGateway
