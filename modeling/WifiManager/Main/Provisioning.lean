/-
`main.c`: the WiFi network that a form gives the device.

`handle_wifi_provisioning` is the handler that the portal calls. With it the way of a form is
complete: from the bytes that the HTTP server receives to the call of
`app_storage_save_wifi_credentials`.
-/
import WifiManager.AppStorage.Configuration
import WifiManager.CaptivePortal.Provision

set_option autoImplicit false

namespace WifiManager.Main

open WifiManager.Lib.FormUrl WifiManager.AppStorage WifiManager.CaptivePortal

/-- `handle_wifi_provisioning`, for arguments that are not NULL. -/
def handle_wifi_provisioning (ssid password : c_string) : nvs_m esp_err_t :=
  -- what `snprintf` would have written
  let ssid_written := ssid.length
  let password_written := password.length
  if ssid_written ≥ APP_STORAGE_WIFI_SSID_SIZE then pure .ESP_ERR_INVALID_ARG
  else if password_written ≥ APP_STORAGE_WIFI_PASSWORD_SIZE then pure .ESP_ERR_INVALID_ARG
  else app_storage_save_wifi_credentials (some ⟨ssid, password⟩)

/-- The form of the portal page, filled in. -/
def form_body (encoded_ssid encoded_password : c_string) : c_string :=
  c_str "ssid" ++ equals :: encoded_ssid ++
    ampersand :: (c_str "password" ++ equals :: encoded_password)

theorem length_form_body (encoded_ssid encoded_password : c_string) :
    (form_body encoded_ssid encoded_password).length
      = 15 + encoded_ssid.length + encoded_password.length := by
  have hssid : (c_str "ssid").length = 4 := rfl
  have hpassword : (c_str "password").length = 8 := rfl
  simp only [form_body, List.length_append, List.length_cons, hssid, hpassword]
  omega

/-- **The form has the two fields**, whatever the values are, and they fit all buffers. -/
theorem isForm_form_body {find_field : c_string → c_string → Option c_string}
    (hfind : ReadsFields find_field) {ssid password encoded_ssid encoded_password : c_string}
    (hssid : ssid.length ≤ 32) (hpassword : password.length ≤ 63)
    (henc : Encodes encoded_ssid ssid) (henc' : Encodes encoded_password password)
    (hamp : ampersand ∉ encoded_ssid) (hamp' : ampersand ∉ encoded_password) :
    IsForm find_field (form_body encoded_ssid encoded_password) ssid password := by
  have hlength := henc.length_le
  have hlength' := henc'.length_le
  refine ⟨encoded_ssid, encoded_password, ?_, ?_, by omega, by omega, henc, henc', hssid,
    hpassword⟩
  · exact hfind.first (by decide) (by decide) hamp
  · rw [form_body, hfind.other (by decide) (by decide) hamp (by decide)]
    exact hfind.last (by decide) (by decide) hamp'

/-- **Provisioning from end to end.** The handler is called for the bodies that are forms, once
and with their values; and a form with a network that may be stored, encoded in any way, fits the
buffers and leads to the call that stores exactly this network. -/
theorem wifi_provisioning (find_field : c_string → c_string → Option c_string) :
    (∀ (body : List UInt8) (results : List recv_result)
        (provision_handler : c_string → c_string → esp_err_t) (ssid password : c_string),
      1 ≤ body.length → body.length ≤ 383 → 0 ∉ body → Delivers 0 results body →
      (handler_calls provision_handler find_field ⟨body.length, results⟩ = [(ssid, password)] ↔
        IsForm find_field body ssid password)) ∧
    (ReadsFields find_field →
      ∀ (ssid password encoded_ssid encoded_password : c_string) (results : List recv_result),
        1 ≤ ssid.length → ssid.length ≤ 32 →
        (password = [] ∨ 8 ≤ password.length ∧ password.length ≤ 63) →
        Encodes encoded_ssid ssid → Encodes encoded_password password →
        ampersand ∉ encoded_ssid → ampersand ∉ encoded_password →
        Delivers 0 results (form_body encoded_ssid encoded_password) →
        (form_body encoded_ssid encoded_password).length ≤ 383 ∧
          provision_post_handler ⟨true, some handle_wifi_provisioning⟩ find_field
              ⟨(form_body encoded_ssid encoded_password).length, results⟩
            = (do
                let err ← app_storage_save_wifi_credentials (some ⟨ssid, password⟩)
                return handler_answer err) ∧
          validate_wifi_credentials (some ⟨ssid, password⟩) = .ESP_OK) := by
  refine ⟨fun body results provision_handler ssid password hmin hmax hnul hrecv =>
    handler_calls_iff hmin hmax hnul hrecv provision_handler ssid password, ?_⟩
  intro hfind ssid password encoded_ssid encoded_password results hssid hssid' hpassword henc henc'
    hamp hamp' hrecv
  have hshort : password.length ≤ 63 := by
    rcases hpassword with rfl | h
    · exact Nat.zero_le _
    · exact h.2
  -- three characters for a byte, and the names of the fields
  have hbody := length_form_body encoded_ssid encoded_password
  have hlength := henc.length_le
  have hlength' := henc'.length_le
  have hmax : (form_body encoded_ssid encoded_password).length ≤ 383 := by omega
  have hnul : 0 ∉ form_body encoded_ssid encoded_password := by
    intro hmem
    simp only [form_body, List.mem_append, List.mem_cons] at hmem
    rcases hmem with (h | h | h) | h | h | h | h
    · exact absurd h (by decide)
    · exact absurd h (by decide)
    · exact henc.nul_notMem h
    · exact absurd h (by decide)
    · exact absurd h (by decide)
    · exact absurd h (by decide)
    · exact henc'.nul_notMem h
  have hfields := (provision_fields_ok_iff (by omega) hmax hnul hrecv ssid password).mpr
    (isForm_form_body hfind hssid' hshort henc henc' hamp hamp')
  refine ⟨hmax, ?_, ?_⟩
  · rw [provision_post_handler, hfields]
    dsimp only
    have hssid_size : APP_STORAGE_WIFI_SSID_SIZE = 33 := rfl
    have hpassword_size : APP_STORAGE_WIFI_PASSWORD_SIZE = 64 := rfl
    rw [handle_wifi_provisioning, if_neg (by omega), if_neg (by omega)]
  · refine (validate_wifi_credentials_ok _).mpr ⟨⟨?_, Nat.lt_succ_of_le hssid'⟩,
      Nat.lt_succ_of_le hshort, ?_⟩
    · exact List.length_pos_iff.mp hssid
    · exact hpassword.imp_right And.left

/-- A form received in two pieces. -/
def sample_results : List recv_result :=
  [.data (c_str "ssid=my+net&pass"), .timeout, .data (c_str "word=p%40ssword")]

/-- The network `my net` with the password `p@ssword`. -/
theorem wifi_provisioning_sample :
    handler_calls (fun _ _ => .ESP_OK) sample_find_field ⟨31, sample_results⟩
        = [(c_str "my net", c_str "p@ssword")] ∧
      provision_post_handler ⟨true, some handle_wifi_provisioning⟩ sample_find_field
          ⟨31, sample_results⟩
        = (do
            let err ← app_storage_save_wifi_credentials
              (some ⟨c_str "my net", c_str "p@ssword"⟩)
            return handler_answer err) := by
  have henc : Encodes (c_str "my+net") (c_str "my net") :=
    ((decode_form_value_ok_iff (by decide : 0 < PROVISION_SSID_SIZE) _ _).mp (by decide +kernel)).1
  have henc' : Encodes (c_str "p%40ssword") (c_str "p@ssword") :=
    ((decode_form_value_ok_iff (by decide : 0 < PROVISION_PASSWORD_SIZE) _ _).mp
      (by decide +kernel)).1
  have hbody : form_body (c_str "my+net") (c_str "p%40ssword")
      = c_str "ssid=my+net&pass" ++ (c_str "word=p%40ssword" ++ []) := by decide
  have hrecv : Delivers 0 sample_results (form_body (c_str "my+net") (c_str "p%40ssword")) := by
    rw [hbody]
    exact .data (by decide) (.timeout (by decide) (.data (by decide) (.done 0 [])))
  have hlength : (form_body (c_str "my+net") (c_str "p%40ssword")).length = 31 := by decide
  constructor
  · have h := (wifi_provisioning sample_find_field).1
      (form_body (c_str "my+net") (c_str "p%40ssword")) sample_results (fun _ _ => .ESP_OK)
      (c_str "my net") (c_str "p@ssword") (by rw [hlength]; decide) (by rw [hlength]; decide)
      (by decide) hrecv
    rw [hlength] at h
    exact h.mpr (isForm_form_body sample_reads_fields (by decide) (by decide) henc henc'
      (by decide) (by decide))
  · have h := (wifi_provisioning sample_find_field).2 sample_reads_fields (c_str "my net")
      (c_str "p@ssword") (c_str "my+net") (c_str "p%40ssword") sample_results (by decide)
      (by decide) (by decide) henc henc' (by decide) (by decide) hrecv
    rw [hlength] at h
    exact h.2.1

end WifiManager.Main
