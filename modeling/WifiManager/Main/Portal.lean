/-
What a client meets: the names it asks for, the page it is led to, and the way to the Internet.

A client that has not been allowed a session finds the portal behind every name. The page of the
portal sends its browser on with a link that says which client it is, and a message that names the
client as the link does is what gives it the Internet. The tasks of the DNS server and of the HTTP
server read the table of clients that the other tasks of the firmware write: `names_answered` and
`link_allows` are about every run of the firmware.
-/
import WifiManager.AccessFilter.Labels
import WifiManager.CaptivePortal.Pages
import WifiManager.Main.Authority

set_option autoImplicit false

namespace WifiManager.Main

open WifiManager.Lib WifiManager.AppCommand WifiManager.AppStorage WifiManager.ClientAccess
  WifiManager.AccessFilter WifiManager.CaptivePortal

/-! ## The DNS server -/

/-- A round of `portal_dns_task` for a datagram that `recvfrom` cuts at the size of the buffer: the
clients behind it, and the response, if there is one. -/
def portal_dns_task_round (getaddrinfo : c_string → Option UInt32) (portal : portal_dns_t)
    (now : UInt32) (gateway : gateway_t) (source_ip : UInt32) (datagram : List UInt8) :
    client_table × Option (List UInt8) :=
  let request := datagram.take PORTAL_DNS_PACKET_SIZE
  let (clients, client_authorized) :=
    client_access_can_forward_ipv4 gateway.access.s_clients now source_ip
  (clients, build_dns_response getaddrinfo portal gateway.filter.s_blocked_hostnames request
    client_authorized PORTAL_DNS_PACKET_SIZE)

/-- What a response says behind the question. -/
inductive dns_verdict
  | address (ipv4 : UInt32)
  | refused
  | server_failure
  | empty
  deriving DecidableEq, Repr

/-- The response to the question that ends at an offset says this. -/
def Says (response : List UInt8) (question_end : ℕ) : dns_verdict → Prop
  | .address ipv4 =>
      rcode response = 0 ∧ IsAnswerA response question_end DNS_HEADER_SIZE ipv4
  | .refused => rcode response = DNS_RCODE_REFUSED.toUInt8 ∧ response.length = question_end
  | .server_failure =>
      rcode response = DNS_RCODE_SERVER_FAILURE.toUInt8 ∧ response.length = question_end
  | .empty => rcode response = 0 ∧ response.length = question_end

section Runs

variable (env : command_env) (ESP_WIFI_MAX_CONN_NUM : ℕ) (content : nvs_content)
  (inputs : List firmware_input)

/-- The client that answers for the address has been allowed a session, by a message, that nothing
has ended and that is not over. -/
def Served (now source_ip : UInt32) : Prop :=
  ∃ entry session, holder (firmware_t.after env ESP_WIFI_MAX_CONN_NUM content
      inputs).device.gateway.access.s_clients source_ip = some entry ∧
    AllowedSince env ESP_WIFI_MAX_CONN_NUM content inputs entry.mac session ∧ ¬ session.Over now

theorem served_iff (now source_ip : UInt32) :
    (client_access_can_forward_ipv4 (firmware_t.after env ESP_WIFI_MAX_CONN_NUM content
        inputs).device.gateway.access.s_clients now source_ip).2 = true ↔
      Served env ESP_WIFI_MAX_CONN_NUM content inputs now source_ip := by
  have hu := unique_firmware env ESP_WIFI_MAX_CONN_NUM content inputs
  rw [can_forward_iff_in_force hu, Served]
  simp only [in_force_since]

/-- Messages have blocked hosts since the last start, and the name is one of them, below one of
them, or no host name at all. -/
def NameBlockedSince (name : c_string) : Prop :=
  (∃ hostname, HostBlockedSince env ESP_WIFI_MAX_CONN_NUM content inputs hostname) ∧
    (ValidHostname (without_trailing_dot name) →
      ∃ hostname, HostBlockedSince env ESP_WIFI_MAX_CONN_NUM content inputs hostname ∧
        hostname.splitOn dot <:+ (canonical name).splitOn dot)

theorem name_blocked_iff (name : c_string) :
    access_filter_is_hostname_blocked (firmware_t.after env ESP_WIFI_MAX_CONN_NUM content
        inputs).device.gateway.filter.s_blocked_hostnames name = true ↔
      NameBlockedSince env ESP_WIFI_MAX_CONN_NUM content inputs name := by
  have hhosts := hostname_since env ESP_WIFI_MAX_CONN_NUM content inputs
  generalize (firmware_t.after env ESP_WIFI_MAX_CONN_NUM content
    inputs).device.gateway.filter.s_blocked_hostnames = rules at hhosts
  rw [NameBlockedSince]
  simp only [← hhosts]
  by_cases hrules : rules = []
  · subst hrules
    simp [access_filter_is_hostname_blocked]
  have hsome : ∃ hostname, hostname ∈ rules := List.exists_mem_of_ne_nil rules hrules
  by_cases hvalid : ValidHostname (without_trailing_dot name)
  · rw [is_hostname_blocked_valid hvalid, and_iff_right hsome, forall_prop_of_true hvalid]
  · exact iff_of_true (is_hostname_blocked_invalid hrules hvalid)
      ⟨hsome, fun h => absurd h hvalid⟩

section Names

variable (getaddrinfo : c_string → Option UInt32) (portal : portal_dns_t) (now source_ip : UInt32)

/-- The question is for the address of the external portal. -/
def AsksPortal (name : c_string) (query_type query_class : UInt16) : Prop :=
  query_type = DNS_TYPE_A ∧ query_class = DNS_CLASS_IN ∧ portal.s_external_portal_enabled = true ∧
    name.map TlsSniParser.tolower = portal.s_external_portal_domain.map TlsSniParser.tolower

/-- **What a client is told** about a name. -/
inductive Verdict (name : c_string) (query_type query_class : UInt16) : dns_verdict → Prop
  -- everyone finds the external portal
  | portal (h : AsksPortal portal name query_type query_class) :
      Verdict name query_type query_class (.address portal.s_external_portal_ipv4)
  -- a client that is not served finds this device behind every other name
  | captive (h : ¬ AsksPortal portal name query_type query_class)
      (hserved : ¬ Served env ESP_WIFI_MAX_CONN_NUM content inputs now source_ip)
      (htype : query_type = DNS_TYPE_A) (hclass : query_class = DNS_CLASS_IN) :
      Verdict name query_type query_class (.address portal.s_portal_ipv4)
  | blocked (h : ¬ AsksPortal portal name query_type query_class)
      (hserved : Served env ESP_WIFI_MAX_CONN_NUM content inputs now source_ip)
      (hclass : query_class = DNS_CLASS_IN)
      (hblocked : NameBlockedSince env ESP_WIFI_MAX_CONN_NUM content inputs name) :
      Verdict name query_type query_class .refused
  | resolved (h : ¬ AsksPortal portal name query_type query_class)
      (hserved : Served env ESP_WIFI_MAX_CONN_NUM content inputs now source_ip)
      (htype : query_type = DNS_TYPE_A) (hclass : query_class = DNS_CLASS_IN)
      (hblocked : ¬ NameBlockedSince env ESP_WIFI_MAX_CONN_NUM content inputs name)
      {address : UInt32} (haddress : resolve_authorized_ipv4 getaddrinfo name = .ok address) :
      Verdict name query_type query_class (.address address)
  | unresolved (h : ¬ AsksPortal portal name query_type query_class)
      (hserved : Served env ESP_WIFI_MAX_CONN_NUM content inputs now source_ip)
      (htype : query_type = DNS_TYPE_A) (hclass : query_class = DNS_CLASS_IN)
      (hblocked : ¬ NameBlockedSince env ESP_WIFI_MAX_CONN_NUM content inputs name)
      {err : esp_err_t} (herr : resolve_authorized_ipv4 getaddrinfo name = .error err) :
      Verdict name query_type query_class .server_failure
  | other (hother : ¬ (query_type = DNS_TYPE_A ∧ query_class = DNS_CLASS_IN))
      (hblocked : ¬ (Served env ESP_WIFI_MAX_CONN_NUM content inputs now source_ip ∧
        query_class = DNS_CLASS_IN ∧
        NameBlockedSince env ESP_WIFI_MAX_CONN_NUM content inputs name)) :
      Verdict name query_type query_class .empty

/-- `answer_ipv4` and `response_code` for a verdict. -/
def dns_verdict.answer : dns_verdict → Option UInt32 × UInt16
  | .address ipv4 => (some ipv4, 0)
  | .refused => (none, DNS_RCODE_REFUSED)
  | .server_failure => (none, DNS_RCODE_SERVER_FAILURE)
  | .empty => (none, 0)

theorem answer_injective {verdict verdict' : dns_verdict} (h : verdict.answer = verdict'.answer) :
    verdict = verdict' := by
  obtain ⟨haddress, hcode⟩ := Prod.mk.inj h
  cases verdict <;> cases verdict'
  all_goals first
    | rfl
    | exact congrArg dns_verdict.address (Option.some.inj haddress)
    | exact absurd hcode (by decide)
    | cases haddress

variable {env ESP_WIFI_MAX_CONN_NUM content inputs getaddrinfo portal now source_ip}

/-- The chain of conditions comes to the verdict. -/
theorem choose_answer_verdict {rules : List c_string} {client_authorized : Bool} {name : c_string}
    {query_type query_class : UInt16} {verdict : dns_verdict}
    (hserved : client_authorized = true ↔
      Served env ESP_WIFI_MAX_CONN_NUM content inputs now source_ip)
    (hrules : access_filter_is_hostname_blocked rules name = true ↔
      NameBlockedSince env ESP_WIFI_MAX_CONN_NUM content inputs name)
    (h : Verdict env ESP_WIFI_MAX_CONN_NUM content inputs getaddrinfo portal now source_ip name
      query_type query_class verdict) :
    choose_answer getaddrinfo portal rules name query_type query_class client_authorized
      = verdict.answer := by
  have hportal : query_type = DNS_TYPE_A ∧ query_class = DNS_CLASS_IN ∧
      portal.s_external_portal_enabled = true ∧
      strcasecmp_equal name portal.s_external_portal_domain = true ↔
        AsksPortal portal name query_type query_class := by
    rw [AsksPortal, strcasecmp_equal, decide_eq_true_iff]
  have hskip : ¬ AsksPortal portal name query_type query_class →
      ¬ (query_type = DNS_TYPE_A ∧ query_class = DNS_CLASS_IN ∧
        portal.s_external_portal_enabled = true ∧
        strcasecmp_equal name portal.s_external_portal_domain = true) :=
    fun h hasks => h (hportal.mp hasks)
  rw [choose_answer]
  cases h with
  | portal h => rw [if_pos (hportal.mpr h), dns_verdict.answer]
  | captive h hnot htype hclass =>
      have hfalse : ¬ client_authorized = true := fun htrue => hnot (hserved.mp htrue)
      rw [if_neg (hskip h), if_neg fun hrefused => hfalse hrefused.1, if_pos ⟨htype, hclass⟩,
        if_pos (Bool.not_eq_true _ ▸ hfalse), dns_verdict.answer]
  | blocked h hserves hclass hblocked =>
      rw [if_neg (hskip h), if_pos ⟨hserved.mpr hserves, hclass, hrules.mpr hblocked⟩,
        dns_verdict.answer]
  | resolved h hserves htype hclass hblocked haddress =>
      have htrue : ¬ client_authorized = false := by
        rw [hserved.mpr hserves]
        decide
      rw [if_neg (hskip h), if_neg fun hrefused => hblocked (hrules.mp hrefused.2.2),
        if_pos ⟨htype, hclass⟩, if_neg htrue, haddress, dns_verdict.answer]
  | unresolved h hserves htype hclass hblocked herr =>
      have htrue : ¬ client_authorized = false := by
        rw [hserved.mpr hserves]
        decide
      rw [if_neg (hskip h), if_neg fun hrefused => hblocked (hrules.mp hrefused.2.2),
        if_pos ⟨htype, hclass⟩, if_neg htrue, herr, dns_verdict.answer]
  | other hother hblocked =>
      have hallowed : ¬ (client_authorized = true ∧ query_class = DNS_CLASS_IN ∧
          access_filter_is_hostname_blocked rules name = true) := fun hrefused =>
        hblocked ⟨hserved.mp hrefused.1, hrefused.2.1, hrules.mp hrefused.2.2⟩
      rw [if_neg fun hasks => hother ⟨hasks.1, hasks.2.1⟩, if_neg hallowed, if_neg hother,
        dns_verdict.answer]

/-- There is a verdict on every question. -/
theorem exists_verdict (name : c_string) (query_type query_class : UInt16) :
    ∃ verdict, Verdict env ESP_WIFI_MAX_CONN_NUM content inputs getaddrinfo portal now source_ip
      name query_type query_class verdict := by
  by_cases hportal : AsksPortal portal name query_type query_class
  · exact ⟨_, .portal hportal⟩
  by_cases hserved : Served env ESP_WIFI_MAX_CONN_NUM content inputs now source_ip
  · by_cases hrefused : query_class = DNS_CLASS_IN ∧
        NameBlockedSince env ESP_WIFI_MAX_CONN_NUM content inputs name
    · exact ⟨_, .blocked hportal hserved hrefused.1 hrefused.2⟩
    by_cases hquery : query_type = DNS_TYPE_A ∧ query_class = DNS_CLASS_IN
    · have hblocked : ¬ NameBlockedSince env ESP_WIFI_MAX_CONN_NUM content inputs name :=
        fun hblocked => hrefused ⟨hquery.2, hblocked⟩
      cases hresolve : resolve_authorized_ipv4 getaddrinfo name with
      | ok address =>
          exact ⟨_, .resolved hportal hserved hquery.1 hquery.2 hblocked hresolve⟩
      | error err => exact ⟨_, .unresolved hportal hserved hquery.1 hquery.2 hblocked hresolve⟩
    · exact ⟨_, .other hquery fun h => hrefused h.2⟩
  · by_cases hquery : query_type = DNS_TYPE_A ∧ query_class = DNS_CLASS_IN
    · exact ⟨_, .captive hportal hserved hquery.1 hquery.2⟩
    · exact ⟨_, .other hquery fun h => hserved h.1⟩

variable (env ESP_WIFI_MAX_CONN_NUM content inputs getaddrinfo portal now source_ip)

/-- **The names that a client asks for.** Behind every run, every question that can be read is
replied to with a well-formed message, and the reply says what the client is to be told: the address
of the external portal to everyone; about every other name the address of this device, unless the
client has been allowed a session that nothing has ended; and to a client that has, the address of
the name, if no message has blocked it since the last start. -/
theorem names_answered {datagram rest : List UInt8} {labels : List (List UInt8)}
    (h : IsQuestion (datagram.take PORTAL_DNS_PACKET_SIZE) labels rest) :
    let gateway := (firmware_t.after env ESP_WIFI_MAX_CONN_NUM content inputs).device.gateway
    let question_end := (question_of labels rest).question_end
    ∃ response, (portal_dns_task_round getaddrinfo portal now gateway source_ip datagram).2
          = some response ∧
      WellFormed (datagram.take PORTAL_DNS_PACKET_SIZE) response question_end ∧
      ∃ verdict, Says response question_end verdict ∧
        ∀ verdict', Verdict env ESP_WIFI_MAX_CONN_NUM content inputs getaddrinfo portal now
          source_ip (CString.of_buffer (dotted labels)) (field16 rest 0) (field16 rest 2) verdict' ↔
            verdict' = verdict := by
  intro gateway question_end
  have hserved := served_iff env ESP_WIFI_MAX_CONN_NUM content inputs now source_ip
  have hrules := name_blocked_iff env ESP_WIFI_MAX_CONN_NUM content inputs
    (CString.of_buffer (dotted labels))
  obtain ⟨response, hsome, hformed, hcode, haddress, hnone⟩ := build_dns_response_spec getaddrinfo
    portal gateway.filter.s_blocked_hostnames h
    (client_access_can_forward_ipv4 gateway.access.s_clients now source_ip).2
  obtain ⟨verdict, hverdict⟩ : ∃ verdict, Verdict env ESP_WIFI_MAX_CONN_NUM content inputs
      getaddrinfo portal now source_ip (CString.of_buffer (dotted labels)) (field16 rest 0)
      (field16 rest 2) verdict :=
    exists_verdict _ _ _
  refine ⟨response, hsome, hformed, verdict, ?_, fun verdict' => ⟨fun hverdict' => ?_, ?_⟩⟩
  · rw [choose_answer_verdict hserved hrules hverdict] at hcode haddress hnone
    have hlow : (0 : UInt16).toUInt8 &&& 0x0F = 0 := by decide
    cases verdict with
    | address ipv4 => exact ⟨hcode.trans hlow, haddress ipv4 rfl⟩
    | refused => exact ⟨hcode, hnone rfl⟩
    | server_failure => exact ⟨hcode, hnone rfl⟩
    | empty => exact ⟨hcode.trans hlow, hnone rfl⟩
  · have hsame := (choose_answer_verdict hserved hrules hverdict').symm.trans
      (choose_answer_verdict hserved hrules hverdict)
    exact answer_injective hsame
  · rintro rfl
    exact hverdict

end Names

end Runs

/-- The external portal of `env/secrets.example.h`. -/
def sample_portal : portal_dns_t where
  s_portal_ipv4 := 0xC0A80401
  s_external_portal_domain := c_str "portal.test"
  s_external_portal_ipv4 := 0xC0A88901
  s_external_portal_enabled := true

/-- A query for the address of `example.com`. -/
def sample_datagram : List UInt8 :=
  [0x12, 0x34, 1, 0, 0, 1, 0, 0, 0, 0, 0, 0]
    ++ (encode_labels [c_str "example", c_str "com"] ++ [0, 1, 0, 1])

theorem sample_datagram_question : IsQuestion (sample_datagram.take PORTAL_DNS_PACKET_SIZE)
    [c_str "example", c_str "com"] [0, 1, 0, 1] where
  header := ⟨by decide, by decide, by decide, by decide⟩
  labels_valid := by
    rw [ValidLabels]
    decide
  text_length := by decide
  name := by decide
  rest_length := by decide

/-- A message that blocks `example.com`, in one fragment. -/
def sample_block_event : AppMqtt.esp_mqtt_event_t where
  topic := some (c_str "device/node-1/command/block-traffic")
  topic_len := 35
  data := some (c_str "\x7b\"alertId\":1,\"dstIp\":\"8.8.8.8\",\"sni\":\"example.com\"\x7d")
  data_len := 51
  total_data_len := 51
  current_data_offset := 0
  topic_readable := by decide
  topic_text := by decide
  data_readable := by decide
  data_len_lt := by decide

/-- The host is blocked when the client has been allowed its hour. -/
def sample_blocked : List firmware_input :=
  sample_inputs ++ [.mqtt_data (some sample_block_event) (sample_calls 6)]

/-- The client that has been allowed an hour is refused the host that a message has blocked. -/
theorem names_answered_blocked :
    ∃ response, (portal_dns_task_round (fun _ => some 0x01010101) sample_portal 30
        (firmware_t.after sample_env 4 empty_content sample_blocked).device.gateway 0xC0A80402
        sample_datagram).2 = some response ∧
      Says response 29 .refused := by
  obtain ⟨response, hsome, -, verdict, hsays, hverdict⟩ := names_answered sample_env 4
    empty_content sample_blocked (fun _ => some 0x01010101) sample_portal 30 0xC0A80402
    sample_datagram_question
  have hasks : ¬ AsksPortal sample_portal (c_str "example.com") DNS_TYPE_A DNS_CLASS_IN := by
    rintro ⟨-, -, -, hname⟩
    exact absurd hname (by decide +kernel)
  have hserved : Served sample_env 4 empty_content sample_blocked 30 0xC0A80402 := by
    rw [← served_iff]
    decide +kernel
  have hblocked : NameBlockedSince sample_env 4 empty_content sample_blocked
      (c_str "example.com") := by
    rw [← name_blocked_iff]
    decide +kernel
  obtain rfl := (hverdict _).mp (.blocked hasks hserved rfl hblocked)
  exact ⟨response, hsome, hsays⟩

/-! ## From the page to the Internet -/

section Holder

variable {clients clients' : client_table} {ip : UInt32} {entry : client_access_entry_t}

/-- The entry that answers for an address has it, and is the one of its client. -/
theorem holder_spec (hu : client_layout.Unique clients) (h : holder clients ip = some entry) :
    entry.ip = ip ∧ client_layout.lookup clients entry.mac = some entry := by
  rw [holder] at h
  split_ifs at h
  obtain ⟨hlive, hip⟩ := Slots.Layout.lookup_holds h
  obtain ⟨i, hi⟩ := List.mem_iff_getElem?.mp (List.mem_of_find?_eq_some h)
  exact ⟨hip, Slots.Layout.lookup_of_live hu hi hlive⟩

/-- Who answers for an address depends on the seats alone. -/
theorem holder_of_seats (hseats : seats clients' = seats clients)
    (h : holder clients ip = some entry) :
    ∃ entry', holder clients' ip = some entry' ∧ entry'.mac = entry.mac := by
  have hlookup : (address_layout.lookup clients ip).map client_access_entry_t.seat
      = (address_layout.lookup clients' ip).map client_access_entry_t.seat := by
    rw [← lookup_seats_address, ← lookup_seats_address, hseats]
  rw [holder] at h ⊢
  split_ifs at h ⊢
  rw [h, Option.map_some] at hlookup
  obtain ⟨entry', hentry', hseat⟩ := Option.map_eq_some_iff.mp hlookup.symm
  exact ⟨entry', hentry', congrArg seat_t.mac hseat⟩

end Holder

theorem not_over_made (configTICK_RATE_HZ now : UInt32) (session_id : ℤ) (ttl_seconds : UInt32) :
    ¬ (session_t.made configTICK_RATE_HZ now session_id ttl_seconds).Over now := by
  rintro ⟨hpos, hover⟩
  rw [session_t.made, UInt32.sub_self] at hover
  exact absurd (lt_of_lt_of_le hpos hover) (lt_irrefl 0)

section Allowing

variable {env : command_env} {ESP_WIFI_MAX_CONN_NUM : ℕ} {firmware : firmware_t}
  {input : firmware_input} {calls : command_calls} {request : app_command_request_t}

/-- An accepted ALLOW that names a client is one for this client. -/
theorem allows_named_iff (hrequest : firmware.Requests env input calls request)
    (htype : request.type = .ALLOW) {mac : mac_t}
    (hmac : parse_mac_address (some request.mac) = .ok mac) (mac' : mac_t) (session : session_t) :
    firmware.Allows env mac' session input ↔ mac' = mac ∧
      session = .made env.configTICK_RATE_HZ calls.now request.session_id
        (UInt32.ofInt request.ttl_seconds) := by
  obtain ⟨command, hcommand, hparse⟩ := hrequest
  have hsession : 0 < request.session_id := (app_command_parse_allow hparse htype).session_id
  rw [allows_iff ⟨command, hcommand, hparse⟩, and_iff_right htype, named_client,
    if_neg (not_le.mpr hsession), hmac]
  simp only [Except.toOption, Option.some.injEq, eq_comm]

/-- It leaves everyone where they are. -/
theorem allow_seats (ESP_WIFI_MAX_CONN_NUM : ℕ)
    (hrequest : firmware.Requests env input calls request) (htype : request.type = .ALLOW) :
    seats (firmware.step env ESP_WIFI_MAX_CONN_NUM input).1.device.gateway.access.s_clients
      = seats firmware.device.gateway.access.s_clients := by
  have hgoes : ¬ firmware.Restarts env input := by
    refine requests_not_restarts hrequest ?_ ?_
    all_goals
      rw [htype]
      decide
  rcases step_gateway ESP_WIFI_MAX_CONN_NUM hgoes with hcall | ⟨_, rfl, -⟩
  · rw [hcall, gateway_call_accepted hrequest, command_input, htype]
    exact seats_step env.configTICK_RATE_HZ calls.now firmware.device.gateway.access _
  · exact absurd rfl (requests_command hrequest)

/-- It takes nothing from the others. -/
theorem allow_others (hu : client_layout.Unique firmware.device.gateway.access.s_clients)
    (hrequest : firmware.Requests env input calls request) (htype : request.type = .ALLOW)
    {mac : mac_t} (hmac : parse_mac_address (some request.mac) = .ok mac) {mac' : mac_t}
    (hother : mac' ≠ mac) (session : session_t) :
    InForce (firmware.step env ESP_WIFI_MAX_CONN_NUM input).1.device.gateway.access.s_clients mac'
        session ↔
      InForce firmware.device.gateway.access.s_clients mac' session := by
  have hnamed := allows_named_iff hrequest htype hmac mac'
  rw [in_force_firmware_step hu, or_iff_right fun h => hother ((hnamed session).mp h.1).1]
  refine and_iff_left ⟨?_, not_expires (requests_command hrequest)⟩
  rintro (hrestarts | - | - | hallow | ⟨calls', request', hrequest', hrevoke, -⟩)
  · refine requests_not_restarts hrequest ?_ ?_ hrestarts
    all_goals
      rw [htype]
      decide
  · exact requests_command hrequest rfl
  · exact requests_command hrequest rfl
  · exact hother ((hnamed _).mp hallow).1
  · rw [(requests_unique hrequest hrequest').2, htype] at hrevoke
    cases hrevoke

end Allowing

section Link

variable (env : command_env) (ESP_WIFI_MAX_CONN_NUM : ℕ) (content : nvs_content)
  (inputs : List firmware_input)

/-- **From the page to the Internet.** Behind every run, a link that the page sends a browser on
with is read as the device, the client that holds the address of the browser, and this address. And
however the run goes on, a message that is accepted as an ALLOW and names the client, as the text in
the link does, gives a session to this client, and to no other one, and takes none from anyone
else; and whatever address the client answers for, it is served there. -/
theorem link_allows {s_config : external_portal_config_t} {device_code : c_string}
    (hvalid : validate_external_portal_config s_config = .ESP_OK)
    (hdevice : s_config.device_code = some device_code) (hcode : FormUrl.ampersand ∉ device_code)
    {arp : softap_arp_t} {peer : portal_peer_t} {results : send_results} {url message : c_string}
    (hlink : found url message ∈ (portal_page_handler false s_config arp
      (firmware_t.after env ESP_WIFI_MAX_CONN_NUM content inputs).device.gateway.access.s_clients
      peer results).2.2) :
    ∃ source_ip mac, get_request_source_ipv4 peer = .ok source_ip ∧
      FormUrl.fields (FormUrl.cut_at question_mark url).2
        = redirect_fields device_code mac source_ip ∧
      parse_mac_address (some (format_mac mac)) = .ok mac ∧
      (∃ entry, holder (firmware_t.after env ESP_WIFI_MAX_CONN_NUM content
          (inputs ++ [.portal_request arp source_ip])).device.gateway.access.s_clients source_ip
            = some entry ∧ entry.mac = mac) ∧
      ∀ (between : List firmware_input) (input : firmware_input) (calls : command_calls)
        (request : app_command_request_t),
        let before := inputs ++ .portal_request arp source_ip :: between
        (firmware_t.after env ESP_WIFI_MAX_CONN_NUM content before).Requests env input calls
            request →
          request.type = .ALLOW → parse_mac_address (some request.mac) = .ok mac →
          ((client_layout.lookup (firmware_t.after env ESP_WIFI_MAX_CONN_NUM content
              before).device.gateway.access.s_clients mac).isSome = true →
            AllowedSince env ESP_WIFI_MAX_CONN_NUM content (before ++ [input]) mac
              (.made env.configTICK_RATE_HZ calls.now request.session_id
                (UInt32.ofInt request.ttl_seconds))) ∧
          (∀ mac' ≠ mac, ∀ session,
            AllowedSince env ESP_WIFI_MAX_CONN_NUM content (before ++ [input]) mac' session ↔
              AllowedSince env ESP_WIFI_MAX_CONN_NUM content before mac' session) ∧
          ∀ ip entry, holder (firmware_t.after env ESP_WIFI_MAX_CONN_NUM content
              before).device.gateway.access.s_clients ip = some entry → entry.mac = mac →
            Served env ESP_WIFI_MAX_CONN_NUM content (before ++ [input]) calls.now ip := by
  have hunique := unique_firmware env ESP_WIFI_MAX_CONN_NUM content
  obtain ⟨-, -, source_ip, base, code, entry, hsource, hbase, hcode', hentry, rfl, -⟩ :=
    (portal_page_handler_redirects_iff ..).mp hlink
  obtain rfl := Option.some.inj (hdevice.symm.trans hcode')
  have hurl : question_mark ∉ base := by
    rcases (validate_external_portal_config_ok_iff s_config).mp hvalid with
      ⟨hnone, -⟩ | ⟨url, _, _, _, rfl, -, -, -, -, hquery⟩
    · rw [hbase] at hnone
      cases hnone
    · cases hbase
      exact hquery
  -- the table behind the request is the one that the page was made from
  have hvisited : holder (firmware_t.after env ESP_WIFI_MAX_CONN_NUM content
      (inputs ++ [.portal_request arp source_ip])).device.gateway.access.s_clients source_ip
        = some entry := by
    rw [firmware_t.after, Machine.run_append]
    exact hentry
  obtain ⟨hreads, hfields, -⟩ := redirect_url_reads hurl hcode entry.mac entry.ip
  have hip : entry.ip = source_ip := (holder_spec (hunique _) hvisited).1
  refine ⟨source_ip, entry.mac, hsource, ?_, (macText_format_mac entry.mac).parse,
    ⟨entry, hvisited, rfl⟩, ?_⟩
  · rw [hreads, hfields, hip]
  intro between input calls request before hrequest htype hmac
  have hstep : firmware_t.after env ESP_WIFI_MAX_CONN_NUM content (before ++ [input])
      = ((firmware_t.after env ESP_WIFI_MAX_CONN_NUM content before).step env
          ESP_WIFI_MAX_CONN_NUM input).1 := by
    rw [firmware_t.after, Machine.run_append, Machine.run_cons, Machine.run_nil]
  have hgiven : ∀ mac session, (firmware_t.after env ESP_WIFI_MAX_CONN_NUM content
        before).Allows env mac session input →
      (client_layout.lookup (firmware_t.after env ESP_WIFI_MAX_CONN_NUM content
        before).device.gateway.access.s_clients mac).isSome = true →
      AllowedSince env ESP_WIFI_MAX_CONN_NUM content (before ++ [input]) mac session := by
    intro mac session hallows hconnected
    rw [← in_force_since, hstep, in_force_firmware_step (hunique before)]
    exact .inl ⟨hallows, hconnected⟩
  refine ⟨?_, ?_, ?_⟩
  · exact hgiven _ _ ((allows_named_iff hrequest htype hmac _ _).mpr ⟨rfl, rfl⟩)
  · intro mac' hother session
    rw [← in_force_since, ← in_force_since, hstep]
    exact allow_others (hunique before) hrequest htype hmac hother session
  · intro ip client hclient hsame
    obtain ⟨-, hlookup⟩ := holder_spec (hunique before) hclient
    obtain ⟨client', hclient', hmac'⟩ := holder_of_seats
      (allow_seats ESP_WIFI_MAX_CONN_NUM hrequest htype) hclient
    refine ⟨client', .made env.configTICK_RATE_HZ calls.now request.session_id
      (UInt32.ofInt request.ttl_seconds), ?_, ?_, not_over_made _ _ _ _⟩
    · rw [hstep]
      exact hclient'
    · refine hgiven _ _
        ((allows_named_iff hrequest htype hmac _ _).mpr ⟨hmac'.trans hsame, rfl⟩) ?_
      rw [hmac', hlookup]
      rfl

end Link

def sample_external_portal : external_portal_config_t where
  external_portal_url := some (c_str "http://portal.test:5173/portal")
  device_code := some (c_str "node-1")
  external_portal_domain := some (c_str "portal.test")
  external_portal_ipv4 := some (c_str "192.168.137.1")

def sample_arp : softap_arp_t := ⟨false, false, fun _ => .error .ESP_FAIL⟩

/-- A client has connected and has an address. -/
def sample_visit : List firmware_input :=
  [.access_filter_start (some ⟨0⟩) none, .wifi_ap_event (.AP_STACONNECTED sample_mac),
    .ip_assigned sample_mac 0xC0A80402]

/-- It has opened the page. -/
def sample_asked : List firmware_input := sample_visit ++ [.portal_request sample_arp 0xC0A80402]

/-- It is allowed. -/
theorem link_allows_sample :
    Served sample_env 4 empty_content
      (sample_asked ++ [.mqtt_data (some sample_allow_event) (sample_calls 5)]) 5 0xC0A80402 := by
  have hlink : found (redirect_url (c_str "http://portal.test:5173/portal") (c_str "node-1")
        sample_mac 0xC0A80402) (c_str "Redirecting to external portal")
      ∈ (portal_page_handler false sample_external_portal sample_arp (firmware_t.after sample_env 4
        empty_content sample_visit).device.gateway.access.s_clients ⟨54, some (.AF_INET 0xC0A80402)⟩
        ⟨.ESP_OK, .ESP_OK⟩).2.2 := by
    decide +kernel
  obtain ⟨source_ip, mac, hsource, -, -, ⟨entry, hentry, hmac⟩, hallow⟩ := link_allows sample_env 4
    empty_content sample_visit (by decide) rfl (by decide) hlink
  obtain rfl := Except.ok.inj hsource
  -- the client that holds the address is the one of the visit
  have hholder : (holder (firmware_t.after sample_env 4 empty_content
      sample_asked).device.gateway.access.s_clients 0xC0A80402).map (·.mac) = some sample_mac := by
    decide +kernel
  have hsame : mac = sample_mac := by
    rw [sample_asked, hentry] at hholder
    exact hmac.symm.trans (Option.some.inj hholder)
  subst hsame
  have hdata : (AppMqtt.handle_mqtt_data true (firmware_t.after sample_env 4 empty_content
      sample_asked).mqtt (some sample_allow_event)).map Prod.snd
        = some (some ⟨sample_topic, sample_payload "3600"⟩) := by
    decide +kernel
  obtain ⟨⟨mqtt, command⟩, hdata, rfl⟩ := Option.map_eq_some_iff.mp hdata
  have hrequest : (firmware_t.after sample_env 4 empty_content sample_asked).Requests sample_env
      (.mqtt_data (some sample_allow_event) (sample_calls 5)) (sample_calls 5)
      (parse_message sample_env (some sample_topic) (some (sample_payload "3600"))).1 := by
    refine ⟨⟨sample_topic, sample_payload "3600"⟩, ?_, Prod.ext rfl (by decide +kernel)⟩
    rw [firmware_t.command, hdata]
    rfl
  exact (hallow [] _ _ _ hrequest (by decide +kernel) (by decide +kernel)).2.2 _ entry hentry hmac

end WifiManager.Main
